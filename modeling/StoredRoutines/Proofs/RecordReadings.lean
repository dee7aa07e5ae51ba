import StoredRoutines.Proofs.StoreFaults
import StoredRoutines.Proofs.StoredRecords
import StoredRoutines.Proofs.Timestamps

/-!
What a record is read from can be stored, and so can the record. Nothing that is copied out of a
value is nested deeper than the value; characters, keys and defaults that take the place of a value
are scalars. So each part of a record that was read is a storable value of the level that it will be
written at.
-/

namespace StoredRoutines

open Outcomes

section

variable {α β : Type} {g : α → Except Failure β} {table : List (Atom × α)} {out : List (Atom × β)}

theorem exists_of_named_mapM (read : table.mapM (fun f => (g f.2).map fun b => (f.1, b)) = .ok out)
    {e : Atom × β} (place : e ∈ out) : ∃ f ∈ table, f.1 = e.1 ∧ g f.2 = .ok e.2 := by
  obtain ⟨f, inside, shape⟩ := exists_of_forall₂ (mapM_eq_ok.1 read) place
  obtain ⟨b, found, rfl⟩ := map_eq_ok.1 shape
  exact ⟨f, inside, rfl, found⟩

theorem TextKeys.mapM (h : TextKeys table)
    (read : table.mapM (fun f => (g f.2).map fun b => (f.1, b)) = .ok out) : TextKeys out where
  names := by
    intro e place
    obtain ⟨f, inside, same, -⟩ := exists_of_named_mapM read place
    rw [← same]
    exact h.names f inside
  distinct := by
    have keys : Assoc.keys table = Assoc.keys out := by
      refine map_eq_of_forall₂ (mapM_eq_ok.1 read) fun f e shape => ?_
      obtain ⟨b, -, rfl⟩ := map_eq_ok.1 shape
      rfl
    rw [← keys]
    exact h.distinct

end

namespace Value

variable {depth : Nat}

theorem storable_text (s : String) : Storable depth (.text s) := storable_atom (Atom.storable_text s)

theorem storable_null : Storable depth .null := storable_atom Atom.storable_null

namespace Storable

theorem point {points : List Nat} (sound : Json.Sound points) {n : Nat} (member : n ∈ points) :
    Storable depth (.atom (.ofPoints [n])) :=
  storable_atom (Atom.storable_ofPoints (CatalogParameter.sound_singleton sound member))

variable {v : Value}

theorem sound_displayPoints (h : v.Storable depth) : Json.Sound v.displayPoints := by
  cases v with
  | atom a => exact h.atom.readable.sound_displayPoints
  | _ => exact Json.sound_text _

theorem lookup {fields : List (Atom × Value)} (h : Storable (depth + 1) (.object fields)) {k : String}
    {x : Value} (found : fields.lookup (.text k) = some x) : x.Storable depth :=
  h.members _ (Assoc.mem_of_lookup found)

theorem member (h : v.Storable (depth + 1)) {k : String} {x : Value} (found : v.member k = .ok x) :
    x.Storable depth := by
  obtain ⟨fields, rfl⟩ := object_of_member found
  cases there : fields.lookup (.text k) with
  | none => simp [Value.member, there] at found
  | some y =>
    obtain rfl : y = x := by simpa [Value.member, there] using found
    exact h.lookup there

theorem memberOr (h : v.Storable (depth + 1)) {k : String} {x default : Value}
    (other : default.Storable depth) (found : v.memberOr k default = .ok x) : x.Storable depth := by
  unfold Value.memberOr at found
  split at found
  · rename_i fields
    cases found
    cases there : fields.lookup (.text k) with
    | none => exact other
    | some y => exact h.lookup there
  · cases found

theorem key {fields : List (Atom × Value)} (h : Storable (depth + 1) (.object fields))
    {e : Atom × Value} (inside : e ∈ fields) : e.1.Storable := by
  obtain ⟨text, readable⟩ := h.keys.names e inside
  obtain ⟨noBytes, short⟩ := Json.plain_of_text text
  exact ⟨readable, noBytes, short⟩

theorem parts (h : v.Storable (depth + 1)) {ps : List Value} (found : v.parts = .ok ps) :
    ∀ p ∈ ps, p.Storable depth := by
  unfold Value.parts at found
  split at found
  · cases found
    exact h.items
  · cases found
    intro p place
    obtain ⟨c, -, rfl⟩ := List.mem_map.1 place
    exact storable_text _
  · cases found
    intro p place
    obtain ⟨n, inside, rfl⟩ := List.mem_map.1 place
    exact point h.atom.readable.1 inside
  · have noBytes := h.atom.noBytes
    cases noBytes
  · cases found
    intro p place
    obtain ⟨e, inside, rfl⟩ := List.mem_map.1 place
    exact storable_atom (h.key inside)
  · cases found

theorem partsOrNone (h : v.Storable (depth + 1)) {ps : List Value} (found : v.partsOrNone = .ok ps) :
    ∀ p ∈ ps, p.Storable depth := by
  unfold Value.partsOrNone at found
  split at found
  · cases found
    simp
  · exact h.parts found

theorem asPair (h : v.Storable (depth + 1)) {e : Key × Value} (found : v.asPair = .ok e) :
    e.1.atom.Storable ∧ e.2.Storable depth := by
  obtain ⟨ps, apart, found⟩ := bind_eq_ok.1 found
  split at found
  · rename_i k x
    obtain ⟨key, keyed, found⟩ := bind_eq_ok.1 found
    cases found
    refine ⟨?_, h.parts apart x (by simp)⟩
    have first := h.parts apart k (by simp)
    cases k with
    | atom a =>
      cases keyed
      exact first.atom
    | _ => cases keyed
  · cases found

theorem entries (h : v.Storable (depth + 1)) {es : List (Atom × Value)} (found : v.entries = .ok es) :
    ∀ e ∈ es, e.1.Storable ∧ e.2.Storable depth := by
  unfold Value.entries at found
  split at found
  · cases found
    simp
  · split at found
    · cases found
      exact fun e inside => ⟨h.key inside, h.members e inside⟩
    · obtain ⟨ps, apart, found⟩ := bind_eq_ok.1 found
      obtain ⟨pairs, paired, found⟩ := bind_eq_ok.1 found
      cases found
      have each : ∀ e ∈ pairs, e.1.atom.Storable ∧ e.2.Storable depth := by
        intro e inside
        obtain ⟨p, place, pair⟩ := exists_of_forall₂ (mapM_eq_ok.1 paired) inside
        exact ((h.parts apart p place).mono (Nat.le_succ depth)).asPair pair
      intro e place
      obtain ⟨d, inside, rfl⟩ := List.mem_map.1 place
      exact Assoc.forall_mem_ofPairs (P := fun k => k.atom.Storable)
        (Q := Value.Storable depth) each d inside

theorem distinct_entries (h : v.Storable (depth + 1)) {es : List (Atom × Value)}
    (found : v.entries = .ok es) : (Assoc.keys es).Nodup := by
  unfold Value.entries at found
  split at found
  · cases found
    exact .nil
  · split at found
    · cases found
      exact h.keys.distinct
    · obtain ⟨ps, -, found⟩ := bind_eq_ok.1 found
      obtain ⟨pairs, -, found⟩ := bind_eq_ok.1 found
      cases found
      have atoms : Assoc.keys ((Assoc.ofPairs pairs).map fun e => (e.1.atom, e.2)) =
          (Assoc.keys (Assoc.ofPairs pairs)).map (·.atom) := by
        simp [Assoc.keys]
      rw [atoms]
      refine List.pairwise_map.2 ((Assoc.apart_keys_ofPairs pairs).imp fun {j k} apart same => ?_)
      obtain rfl : j = k := congrArg Key.mk same
      simp at apart

end Storable

theorem storable_append {items more : List Value} (h : Storable depth (.list items))
    (each : ∀ v ∈ more, ∀ level, Storable level v) : Storable depth (.list (items ++ more)) := by
  have readable := h.readable
  cases readable with
  | list _ =>
    refine storable_list fun v place => ?_
    rcases List.mem_append.1 place with old | new
    · exact h.items v old
    · exact each v new _

theorem storable_ofMembers {members : List (String × Value)} (distinct : (members.map (·.1)).Nodup)
    (each : ∀ e ∈ members, e.2.Storable depth) : (ofMembers members).Storable (depth + 1) where
  readable := readable_ofMembers distinct fun e place => (each e place).readable
  writable := by
    refine haveWritable_iff.2 fun e place => ?_
    obtain ⟨d, inside, rfl⟩ := List.mem_map.1 place
    exact ⟨rfl, (each d inside).writable⟩

end Value

namespace ExtendedParameter

structure Storable (depth : Nat) (e : ExtendedParameter) : Prop where
  name : e.name.Storable depth
  dataType : e.dataType.Storable depth
  delimiter : e.delimiter.Storable depth
  enclosure : e.enclosure.Storable depth
  escape : e.escape.Storable depth

variable {depth : Nat} {e : ExtendedParameter}

theorem storable_ofValue {v : Value} (h : v.Storable (depth + 1)) (read : ofValue v = .ok e) :
    e.Storable depth := by
  obtain ⟨name, first, read⟩ := bind_eq_ok.1 read
  obtain ⟨type, second, read⟩ := bind_eq_ok.1 read
  obtain ⟨delimiter, third, read⟩ := bind_eq_ok.1 read
  obtain ⟨enclosure, fourth, read⟩ := bind_eq_ok.1 read
  obtain ⟨escape, fifth, read⟩ := bind_eq_ok.1 read
  cases read
  exact ⟨h.member first, h.member second, h.memberOr (Value.storable_text _) third,
    h.memberOr (Value.storable_text _) fourth, h.memberOr (Value.storable_text _) fifth⟩

theorem Storable.toValue (h : e.Storable depth) : e.toValue.Storable (depth + 1) := by
  refine Value.storable_ofMembers e.nodup_names ?_
  simp only [members, List.forall_mem_cons]
  exact ⟨h.name, h.dataType, h.delimiter, h.enclosure, h.escape, by simp⟩

end ExtendedParameter

namespace CatalogParameter

/-- The members of the parameter can be stored, and a declaration merged into it is one of its
name. -/
structure Storable (depth : Nat) (p : CatalogParameter) : Prop where
  name : p.name.Storable depth
  dataType : p.dataType.Storable depth
  dtdIdentifier : p.dtdIdentifier.Storable depth
  numericPrecision : p.numericPrecision.Storable depth
  numericScale : p.numericScale.Storable depth
  characterSet : p.characterSet.Storable depth
  collation : p.collation.Storable depth
  extended : ∀ e, p.extended = some e → e.Storable depth
  named : p.Named

variable {depth : Nat} {p : CatalogParameter}

theorem storable_extendedOf {v : Value} (h : v.Storable (depth + 1)) {extended : Option ExtendedParameter}
    (read : extendedOf v = .ok extended) :
    ∀ e, extended = some e → e.Storable depth ∧ v.member "name" = .ok e.name := by
  unfold extendedOf at read
  rintro e rfl
  split at read
  · cases read
  · obtain ⟨name, first, read⟩ := bind_eq_ok.1 read
    obtain ⟨type, second, read⟩ := bind_eq_ok.1 read
    obtain ⟨delimiter, third, read⟩ := bind_eq_ok.1 read
    obtain ⟨enclosure, fourth, read⟩ := bind_eq_ok.1 read
    obtain ⟨escape, fifth, read⟩ := bind_eq_ok.1 read
    cases read
    exact ⟨⟨h.member first, h.member second, h.member third, h.member fourth, h.member fifth⟩, first⟩

theorem storable_ofValue {v : Value} (h : v.Storable (depth + 1)) (read : ofValue v = .ok p) :
    p.Storable depth := by
  obtain ⟨extended, merged, read⟩ := bind_eq_ok.1 read
  obtain ⟨name, first, read⟩ := bind_eq_ok.1 read
  obtain ⟨type, second, read⟩ := bind_eq_ok.1 read
  obtain ⟨catalogType, third, read⟩ := bind_eq_ok.1 read
  obtain ⟨identifier, fourth, read⟩ := bind_eq_ok.1 read
  obtain ⟨precision, fifth, read⟩ := bind_eq_ok.1 read
  obtain ⟨scale, sixth, read⟩ := bind_eq_ok.1 read
  obtain ⟨characterSet, seventh, read⟩ := bind_eq_ok.1 read
  obtain ⟨collation, eighth, read⟩ := bind_eq_ok.1 read
  cases read
  have declaration := storable_extendedOf h merged
  refine ⟨h.member first, h.memberOr (h.member second) third,
    h.memberOr (Value.storable_text _) fourth, h.memberOr Value.storable_null fifth,
    h.memberOr Value.storable_null sixth, h.memberOr Value.storable_null seventh,
    h.memberOr Value.storable_null eighth, fun e same => (declaration e same).1, ?_⟩
  intro e same
  have again := (declaration e same).2
  rw [first] at again
  cases again
  rfl

namespace Storable

theorem sound_clauses (h : p.Storable depth) : Json.Sound p.clauses :=
  CatalogParameter.sound_clauses h.characterSet.sound_displayPoints h.collation.sound_displayPoints

theorem pointTexts (h : p.Storable depth) : ∀ v ∈ pointTexts p.clauses, ∀ level, v.Storable level := by
  intro v place level
  obtain ⟨n, inside, rfl⟩ := List.mem_map.1 place
  exact Value.Storable.point h.sound_clauses inside

theorem afterLooks (h : p.Storable depth) (n : Nat) : (p.afterLooks n).Storable depth := by
  unfold CatalogParameter.afterLooks
  split
  · rename_i items list
    refine { h with dtdIdentifier := Value.storable_append (list ▸ h.dtdIdentifier) ?_ }
    intro v place
    obtain ⟨clauses, copy, inside⟩ := List.mem_flatten.1 place
    obtain rfl := List.eq_of_mem_replicate copy
    exact h.pointTexts v inside
  · exact h

theorem typeDescriptor (h : p.Storable depth) {type : Value} (found : p.typeDescriptor = .ok type) :
    type.Storable depth := by
  have added : Json.Sound (p.dtdIdentifier.displayPoints ++ p.clauses) :=
    sound_append_clauses h.sound_clauses h.dtdIdentifier.sound_displayPoints
  have base := h.dtdIdentifier
  unfold CatalogParameter.typeDescriptor at found
  split at found
  · cases found
    exact base
  · generalize p.dtdIdentifier = identifier at found added base
    unfold addClauses at found
    split at found
    · cases found
      exact Value.storable_atom (Atom.storable_ofPoints added)
    · cases found
      exact Value.storable_atom (Atom.storable_ofPoints added)
    · cases found
      exact Value.storable_append base h.pointTexts
    · cases found
    · cases found

theorem effectiveType (h : p.Storable depth) : p.effectiveType.Storable depth := by
  unfold CatalogParameter.effectiveType
  split
  · rename_i e merged
    exact (h.extended e merged).dataType
  · exact h.dataType

theorem members (h : p.Storable depth) {type : Value} (full : type.Storable depth) :
    ∀ e ∈ p.membersWith type, e.2.Storable depth := by
  unfold membersWith
  rw [List.forall_mem_append]
  constructor
  · simp only [List.forall_mem_cons]
    exact ⟨h.name, h.effectiveType, h.dataType, h.dtdIdentifier, h.numericPrecision,
      h.numericScale, h.characterSet, h.collation, full, by simp⟩
  · split
    · rename_i e merged
      have storable := h.extended e merged
      simp only [List.forall_mem_cons]
      exact ⟨storable.delimiter, storable.enclosure, storable.escape, by simp⟩
    · simp

theorem toValue (h : p.Storable depth) {v : Value} (written : p.toValue = .ok v) :
    v.Storable (depth + 1) := by
  rw [toValue_eq] at written
  obtain ⟨type, found, rfl⟩ := map_eq_ok.1 written
  exact Value.storable_ofMembers (nodup_names type _) ((h.afterLooks 1).members (h.typeDescriptor found))

end Storable

end CatalogParameter

namespace WrapperParameter

structure Storable (depth : Nat) (p : WrapperParameter) : Prop where
  name : p.name.Storable depth
  semanticType : p.semanticType.Storable depth
  typeDescriptor : p.typeDescriptor.Storable depth
  description : p.description.Storable depth

variable {depth : Nat} {p : WrapperParameter}

theorem storable_ofValue {v : Value} (h : v.Storable (depth + 1)) (read : ofValue v = .ok p) :
    p.Storable depth := by
  obtain ⟨name, first, read⟩ := bind_eq_ok.1 read
  obtain ⟨semantic, second, read⟩ := bind_eq_ok.1 read
  obtain ⟨type, third, read⟩ := bind_eq_ok.1 read
  obtain ⟨description, fourth, read⟩ := bind_eq_ok.1 read
  cases read
  exact ⟨h.member first, h.member second, h.member third, h.memberOr Value.storable_null fourth⟩

theorem Storable.toValue (h : p.Storable depth) : p.toValue.Storable (depth + 1) := by
  refine Value.storable_ofMembers p.nodup_names ?_
  simp only [members, List.forall_mem_cons]
  exact ⟨h.name, h.semanticType, h.typeDescriptor, h.description, by simp⟩

end WrapperParameter

namespace RoutineDoc

structure Storable (depth : Nat) (d : RoutineDoc) : Prop where
  short : d.short.Storable (depth + 2)
  long : d.long.Storable (depth + 2)
  parameters : ∀ p ∈ d.parameters, p.Storable depth

variable {depth : Nat} {d : RoutineDoc}

theorem storable_ofValue {v : Value} (h : v.Storable (depth + 3)) (read : ofValue v = .ok d) :
    d.Storable depth := by
  obtain ⟨short, first, read⟩ := bind_eq_ok.1 read
  obtain ⟨long, second, read⟩ := bind_eq_ok.1 read
  obtain ⟨listed, third, read⟩ := bind_eq_ok.1 read
  obtain ⟨parts, apart, read⟩ := bind_eq_ok.1 read
  obtain ⟨parameters, mapped, read⟩ := bind_eq_ok.1 read
  cases read
  have none : Value.Storable (depth + 2) (.list []) := Value.storable_list (by simp)
  refine ⟨h.memberOr (Value.storable_text _) first, h.memberOr (Value.storable_text _) second, ?_⟩
  intro p place
  obtain ⟨part, inside, shape⟩ := exists_of_forall₂ (mapM_eq_ok.1 mapped) place
  exact WrapperParameter.storable_ofValue ((h.memberOr none third).parts apart part inside) shape

theorem Storable.toValue (h : d.Storable depth) : d.toValue.Storable (depth + 3) := by
  have parameters : Value.Storable (depth + 2) (.list (d.parameters.map WrapperParameter.toValue)) := by
    refine Value.storable_list fun v place => ?_
    obtain ⟨p, inside, rfl⟩ := List.mem_map.1 place
    exact (h.parameters p inside).toValue
  refine Value.storable_ofMembers d.nodup_names ?_
  simp only [members, List.forall_mem_cons]
  exact ⟨h.short, h.long, parameters, by simp⟩

end RoutineDoc

namespace BuildRecord

/-- The members of the record can be stored. Its placeholders need not be named by texts. -/
structure Storable (depth : Nat) (r : BuildRecord) : Prop where
  routineName : r.routineName.Storable (depth + 3)
  routineType : r.routineType.Storable (depth + 3)
  designation : r.designation.Storable (depth + 3)
  table : r.table.Storable (depth + 3)
  columns : ∀ v ∈ r.columns, v.Storable (depth + 2)
  parameters : ∀ p ∈ r.parameters, p.Storable (depth + 1)
  fields : ∀ v ∈ r.fields, v.Storable (depth + 2)
  columnTypes : ∀ v ∈ r.columnTypes, v.Storable (depth + 2)
  timestamp : (Nat.toDigits 10 r.timestamp.natAbs).length ≤ Text.maxDigits
  replace : ∀ e ∈ r.replace, e.1.Storable ∧ e.2.Storable (depth + 2)
  placeholders : (Assoc.keys r.replace).Nodup
  doc : r.doc.Storable depth
  declarations : TextKeys r.declared
  declared : ∀ e ∈ r.declared, e.2.Storable (depth + 1)

variable {depth : Nat} {r : BuildRecord}

theorem storable_declaredOf {v : Value} (h : v.Storable (depth + 3))
    {declared : List (Atom × ExtendedParameter)} (read : declaredOf v = .ok declared) :
    TextKeys declared ∧ ∀ e ∈ declared, e.2.Storable (depth + 1) := by
  unfold declaredOf at read
  split at read
  · cases read
    exact ⟨⟨by simp, .nil⟩, by simp⟩
  · split at read
    · refine ⟨h.keys.mapM read, fun d place => ?_⟩
      obtain ⟨f, inside, -, found⟩ := exists_of_named_mapM read place
      exact ExtendedParameter.storable_ofValue (h.members f inside) found
    · cases read

theorem storable_ofValue {v : Value} (h : v.Storable (depth + 4)) (read : ofValue v = .ok r) :
    r.Storable depth := by
  unfold ofValue at read
  obtain ⟨designation, first, read⟩ := bind_eq_ok.1 read
  obtain ⟨table, second, read⟩ := bind_eq_ok.1 read
  obtain ⟨columnsValue, third, read⟩ := bind_eq_ok.1 read
  obtain ⟨columns, columned, read⟩ := bind_eq_ok.1 read
  obtain ⟨name, fourth, read⟩ := bind_eq_ok.1 read
  obtain ⟨type, fifth, read⟩ := bind_eq_ok.1 read
  obtain ⟨listed, sixth, read⟩ := bind_eq_ok.1 read
  obtain ⟨parts, apart, read⟩ := bind_eq_ok.1 read
  obtain ⟨parameters, mapped, read⟩ := bind_eq_ok.1 read
  obtain ⟨fieldsValue, seventh, read⟩ := bind_eq_ok.1 read
  obtain ⟨fields, fielded, read⟩ := bind_eq_ok.1 read
  obtain ⟨typesValue, eighth, read⟩ := bind_eq_ok.1 read
  obtain ⟨types, typed, read⟩ := bind_eq_ok.1 read
  obtain ⟨time, ninth, read⟩ := bind_eq_ok.1 read
  obtain ⟨timestamp, timed, read⟩ := bind_eq_ok.1 read
  obtain ⟨replaceValue, tenth, read⟩ := bind_eq_ok.1 read
  obtain ⟨replace, replaced, read⟩ := bind_eq_ok.1 read
  obtain ⟨docValue, eleventh, read⟩ := bind_eq_ok.1 read
  obtain ⟨doc, documented, read⟩ := bind_eq_ok.1 read
  obtain ⟨specified, twelfth, read⟩ := bind_eq_ok.1 read
  obtain ⟨declared, declaring, read⟩ := bind_eq_ok.1 read
  cases read
  -- What stands in for a member that is missing.
  have null : Value.Storable (depth + 3) .null := Value.storable_null
  have none : Value.Storable (depth + 3) (.list []) := Value.storable_list (by simp)
  have empty : Value.Storable (depth + 3) (.object []) :=
    Value.storable_object ⟨by simp, .nil⟩ (by simp)
  have docStorable : doc.Storable depth := by
    refine RoutineDoc.storable_ofValue ?_ documented
    split
    · exact empty
    · exact h.memberOr null eleventh
  have declarations := storable_declaredOf (h.memberOr null twelfth) declaring
  refine ⟨h.member fourth, h.memberOr (Value.storable_text _) fifth, h.member first,
    h.memberOr null second, (h.memberOr null third).partsOrNone columned, ?_,
    (h.memberOr null seventh).partsOrNone fielded, (h.memberOr null eighth).partsOrNone typed,
    (h.member ninth).length_toInteger timed, (h.memberOr null tenth).entries replaced,
    (h.memberOr null tenth).distinct_entries replaced, docStorable, declarations.1, declarations.2⟩
  intro p place
  obtain ⟨part, inside, shape⟩ := exists_of_forall₂ (mapM_eq_ok.1 mapped) place
  exact CatalogParameter.storable_ofValue ((h.memberOr none sixth).parts apart part inside) shape

end BuildRecord

namespace RecordStore

/-- The records of the store can be stored, and routines are named by distinct texts. -/
structure Storable (store : RecordStore) : Prop where
  keys : TextKeys store
  records : ∀ e ∈ store, e.2.Storable 980

variable {p : Path} {store : RecordStore}

theorem storable_ofValue {v : Value} (h : v.Storable maxDepth) (read : ofValue p v = .ok store) :
    store.Storable := by
  unfold ofValue at read
  split at read
  · have mapped := mapError_eq_ok.1 read
    refine ⟨h.keys.mapM mapped, fun d place => ?_⟩
    obtain ⟨f, inside, -, found⟩ := exists_of_named_mapM mapped place
    exact BuildRecord.storable_ofValue (h.members f inside) found
  · cases read

/-- A store that was read can be stored. -/
theorem storable_of_load {fs : FileSystem} (read : load fs p = .ok store) : store.Storable := by
  have absent : Storable [] := ⟨⟨by simp, .nil⟩, by simp⟩
  unfold load at read
  split at read
  · cases read
  · cases read
    exact absent
  · split at read
    · cases read
    · unfold ofBytes at read
      split at read
      · cases read
      · split at read
        · cases read
        · cases read
        · rename_i v parsed
          exact storable_ofValue (Json.storable_of_parseWithin parsed) read

end RecordStore

end StoredRoutines
