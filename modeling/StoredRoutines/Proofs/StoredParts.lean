import StoredRoutines.Proofs.KeptValues
import StoredRoutines.Proofs.Outcomes
import StoredRoutines.Record.Store

/-!
The parts of a record, written as values and read back. Each part reads back with its members as
they are kept, a parameter after one more look at its type. A part is flat if its members are
scalars, but for the type of a parameter, which may be a list of scalars; nothing of it changes.
-/

namespace StoredRoutines

open Outcomes

namespace Value

/-- The value has no parts, and the reader gives it back. -/
def Scalar (v : Value) : Prop := ∃ a : Atom, v = .atom a ∧ a.Readable

theorem scalar_null : Scalar .null := ⟨_, rfl, trivial⟩

theorem scalar_text (s : String) : Scalar (.text s) := ⟨_, rfl, trivial⟩

theorem scalar_int (n : Int) : Scalar (.int n) := ⟨_, rfl, trivial⟩

namespace Scalar

variable {v : Value}

theorem kept (h : v.Scalar) : v.kept = v := by
  obtain ⟨a, rfl, -⟩ := h
  rfl

theorem readable (h : v.Scalar) (depth : Nat) : v.Readable depth := by
  obtain ⟨a, rfl, readable⟩ := h
  exact .atom readable

theorem sound_displayPoints (h : v.Scalar) : Json.Sound v.displayPoints := by
  obtain ⟨a, rfl, readable⟩ := h
  exact readable.sound_displayPoints

theorem ne_list (h : v.Scalar) (items : List Value) : v ≠ .list items := by
  obtain ⟨a, rfl, -⟩ := h
  simp

end Scalar

theorem map_kept_eq_self {items : List Value} (h : ∀ v ∈ items, v.Scalar) :
    items.map kept = items := by
  have same : items.map kept = items.map id :=
    List.map_congr_left (fun v member => (h v member).kept)
  rw [same, List.map_id]

/-- The value is a scalar or a list of scalars. -/
inductive Flat : Value → Prop
  | scalar {v : Value} (scalar : v.Scalar) : Flat v
  | list {items : List Value} (each : ∀ v ∈ items, v.Scalar) : Flat (.list items)

theorem Scalar.flat {v : Value} (h : v.Scalar) : v.Flat := .scalar h

namespace Flat

variable {v : Value}

theorem kept (h : v.Flat) : v.kept = v := by
  cases h with
  | scalar scalar => exact scalar.kept
  | list each => rw [kept_list, map_kept_eq_self each]

theorem items {items : List Value} (h : Flat (.list items)) : ∀ v ∈ items, v.Scalar := by
  cases h with
  | scalar scalar => exact absurd rfl (scalar.ne_list items)
  | list each => exact each

theorem readable (h : v.Flat) (depth : Nat) : v.Readable (depth + 1) := by
  cases h with
  | scalar scalar => exact scalar.readable _
  | list each => exact .list fun v member => (each v member).readable depth

end Flat

def ofMembers (members : List (String × Value)) : Value :=
  .object (members.map fun e => (.text e.1, e.2))

section

variable {members : List (String × Value)}

theorem keys_ofMembers (members : List (String × Value)) :
    Assoc.keys (members.map fun e => (Atom.text e.1, e.2)) = (members.map (·.1)).map Atom.text := by
  simp [Assoc.keys, List.map_map]

theorem nodup_ofMembers (distinct : (members.map (·.1)).Nodup) :
    (Assoc.keys (members.map fun e => (Atom.text e.1, e.2))).Nodup := by
  rw [keys_ofMembers]
  exact distinct.map fun a b same => by simpa using same

theorem kept_ofMembers (distinct : (members.map (·.1)).Nodup) : (ofMembers members).kept =
    .object ((Atom.ordered (members.map fun e => (Atom.text e.1, e.2))).map
      fun e => (e.1, e.2.kept)) := by
  refine kept_of_texts ?_ (nodup_ofMembers distinct)
  intro e member
  obtain ⟨d, -, rfl⟩ := List.mem_map.1 member
  rfl

theorem field?_kept (distinct : (members.map (·.1)).Nodup) {k : String} {v : Value}
    (inside : (k, v) ∈ members) : (ofMembers members).kept.field? k = some v.kept := by
  have found : (members.map fun e => (Atom.text e.1, e.2)).lookup (.text k) = some v :=
    Assoc.lookup_of_mem (nodup_ofMembers distinct) (List.mem_map.2 ⟨(k, v), inside, rfl⟩)
  rw [kept_ofMembers distinct, field?, Atom.lookup_ordered_map kept (nodup_ofMembers distinct), found]
  rfl

theorem field?_kept_of_not_mem (distinct : (members.map (·.1)).Nodup) {k : String}
    (outside : k ∉ members.map (·.1)) : (ofMembers members).kept.field? k = none := by
  have none : (members.map fun e => (Atom.text e.1, e.2)).lookup (.text k) = none := by
    rw [Assoc.lookup_eq_none_iff, keys_ofMembers]
    simpa using outside
  rw [kept_ofMembers distinct, field?, Atom.lookup_ordered_map kept (nodup_ofMembers distinct), none]
  rfl

theorem member_kept (distinct : (members.map (·.1)).Nodup) {k : String} {v : Value}
    (inside : (k, v) ∈ members) : (ofMembers members).kept.member k = .ok v.kept := by
  have found := field?_kept distinct inside
  rw [kept_ofMembers distinct, field?] at found
  rw [kept_ofMembers distinct, member, found]

theorem memberOr_kept (distinct : (members.map (·.1)).Nodup) {k : String} {v : Value}
    (inside : (k, v) ∈ members) (default : Value) :
    (ofMembers members).kept.memberOr k default = .ok v.kept := by
  have found := field?_kept distinct inside
  rw [kept_ofMembers distinct, field?] at found
  rw [kept_ofMembers distinct, memberOr, found]
  rfl

theorem readable_ofMembers {depth : Nat} (distinct : (members.map (·.1)).Nodup)
    (each : ∀ e ∈ members, e.2.Readable depth) : (ofMembers members).Readable (depth + 1) := by
  refine .object ?_ (nodup_ofMembers distinct) ?_
  · intro e member
    obtain ⟨d, -, rfl⟩ := List.mem_map.1 member
    exact ⟨rfl, trivial⟩
  · intro e member
    obtain ⟨d, place, rfl⟩ := List.mem_map.1 member
    exact each d place

end

/-- What is written as a list reads back if each of its items does. -/
theorem mapM_kept {α : Type} {ofValue : Value → Except Failure α} {items : List α}
    {values : List Value} (back : List.Forall₂ (fun a v => ofValue v.kept = .ok a) items values) :
    (values.map kept).mapM ofValue = .ok items := by
  rw [mapM_eq_ok, List.forall₂_map_left_iff]
  exact back.flip

theorem partsOrNone_list (items : List Value) : (Value.list items).partsOrNone = .ok items := by
  cases items <;> rfl

theorem entries_object (fields : List (Atom × Value)) : (Value.object fields).entries = .ok fields := by
  cases fields <;> rfl

theorem isNothing_kept {members : List (String × Value)} (some : members ≠ [])
    (distinct : (members.map (·.1)).Nodup) : (ofMembers members).kept.isNothing = false := by
  have entries : Atom.ordered (members.map fun e => (Atom.text e.1, e.2)) ≠ [] :=
    Atom.ordered_ne_nil (by simpa using some)
  rw [kept_ofMembers distinct, isNothing, List.isEmpty_eq_false_iff]
  simpa using entries

end Value

namespace ExtendedParameter

structure Scalar (e : ExtendedParameter) : Prop where
  name : e.name.Scalar
  dataType : e.dataType.Scalar
  delimiter : e.delimiter.Scalar
  enclosure : e.enclosure.Scalar
  escape : e.escape.Scalar

def members (e : ExtendedParameter) : List (String × Value) :=
  [("name", e.name), ("data_type", e.dataType), ("delimiter", e.delimiter),
    ("enclosure", e.enclosure), ("escape", e.escape)]

theorem nodup_names (e : ExtendedParameter) : (e.members.map (·.1)).Nodup := by
  simp [members]

variable {e : ExtendedParameter}

theorem Scalar.members (h : e.Scalar) : ∀ m ∈ e.members, m.2.Scalar := by
  simp only [ExtendedParameter.members, List.forall_mem_cons]
  exact ⟨h.name, h.dataType, h.delimiter, h.enclosure, h.escape, by simp⟩

theorem Scalar.readable (h : e.Scalar) (depth : Nat) : e.toValue.Readable (depth + 1) :=
  Value.readable_ofMembers e.nodup_names fun m inside => (h.members m inside).readable depth

def mapped (f : Value → Value) (e : ExtendedParameter) : ExtendedParameter where
  name := f e.name
  dataType := f e.dataType
  delimiter := f e.delimiter
  enclosure := f e.enclosure
  escape := f e.escape

def kept (e : ExtendedParameter) : ExtendedParameter := e.mapped Value.kept

theorem Scalar.kept (h : e.Scalar) : e.kept = e := by
  rw [ExtendedParameter.kept, mapped, h.name.kept, h.dataType.kept, h.delimiter.kept,
    h.enclosure.kept, h.escape.kept]

theorem ofValue_kept (e : ExtendedParameter) : ofValue e.toValue.kept = .ok e.kept := by
  have read (k : String) (v : Value) (inside : (k, v) ∈ e.members) :
      e.toValue.kept.member k = .ok v.kept :=
    Value.member_kept e.nodup_names inside
  have readOr (k : String) (v default : Value) (inside : (k, v) ∈ e.members) :
      e.toValue.kept.memberOr k default = .ok v.kept :=
    Value.memberOr_kept e.nodup_names inside default
  have name := read "name" e.name (by simp [members])
  have dataType := read "data_type" e.dataType (by simp [members])
  have delimiter := readOr "delimiter" e.delimiter (.text ",") (by simp [members])
  have enclosure := readOr "enclosure" e.enclosure (.text "\"") (by simp [members])
  have escape := readOr "escape" e.escape (.text "\\") (by simp [members])
  simp only [ofValue, name, dataType, delimiter, enclosure, escape]
  rfl

end ExtendedParameter

namespace CatalogParameter

/-- The parameter is flat, and a declaration merged into it is one of its name. -/
structure Flat (p : CatalogParameter) : Prop where
  name : p.name.Scalar
  dataType : p.dataType.Scalar
  dtdIdentifier : p.dtdIdentifier.Flat
  numericPrecision : p.numericPrecision.Scalar
  numericScale : p.numericScale.Scalar
  characterSet : p.characterSet.Scalar
  collation : p.collation.Scalar
  extended : ∀ e, p.extended = some e → e.Scalar ∧ e.name = p.name

/-- The parameter is flat, and its type is no list. -/
structure Scalar (p : CatalogParameter) : Prop extends Flat p where
  type : p.dtdIdentifier.Scalar

/-- The members of a parameter, given its full type. -/
def membersWith (type : Value) (p : CatalogParameter) : List (String × Value) :=
  [("name", p.name), ("data_type", p.effectiveType), ("catalog_data_type", p.dataType),
    ("dtd_identifier", p.dtdIdentifier), ("numeric_precision", p.numericPrecision),
    ("numeric_scale", p.numericScale), ("character_set_name", p.characterSet),
    ("collation_name", p.collation), ("data_type_descriptor", type)] ++
  match p.extended with
  | some e => [("delimiter", e.delimiter), ("enclosure", e.enclosure), ("escape", e.escape)]
  | none => []

variable {p : CatalogParameter}

theorem nodup_names (type : Value) (p : CatalogParameter) :
    ((p.membersWith type).map (·.1)).Nodup := by
  unfold membersWith
  cases p.extended <;> simp

theorem Scalar.afterLooks (h : p.Scalar) (n : Nat) : p.afterLooks n = p :=
  afterLooks_eq_self h.type.ne_list n

/-- A parameter is written as it is after one more look. -/
theorem toValue_eq (p : CatalogParameter) : p.toValue =
    p.typeDescriptor.map fun type => .ofMembers ((p.afterLooks 1).membersWith type) := by
  have kept : p.afterLooks 1 = { p with dtdIdentifier := (p.afterLooks 1).dtdIdentifier } := by
    unfold CatalogParameter.afterLooks
    split <;> rfl
  rw [kept]
  unfold toValue
  cases p.typeDescriptor with
  | error e => rfl
  | ok type =>
    simp only [separators, membersWith, effectiveType]
    cases p.extended <;> rfl

theorem sound_clause {label : String} (blank : label.toList.getLast? = some ' ') {v : Value}
    (sound : Json.Sound v.displayPoints) : Json.Sound (clause label v) := by
  unfold clause
  split
  · exact Json.sound_text ""
  · refine (Json.sound_text label).append sound ?_
    intro m last n _
    rw [List.getLast?_map, blank] at last
    obtain rfl : 32 = m := by simpa using last
    exact Json.pairedPoint?_char ' ' n

theorem head_clause {label : String} {c : Char} {cs : List Char} (first : label.toList = c :: cs)
    {v : Value} {n : Nat} (member : n ∈ (clause label v).head?) : n = c.toNat := by
  unfold clause at member
  split at member
  · cases member
  · rw [first] at member
    simpa using member.symm

theorem apart_of_blank {m n : Nat} (blank : n = ' '.toNat) : Json.pairedPoint? m n = none := by
  subst blank
  rw [Json.pairedPoint?, if_neg]
  rintro ⟨-, low⟩
  exact absurd low.1 (by decide)

theorem sound_clauses (characterSet : Json.Sound p.characterSet.displayPoints)
    (collation : Json.Sound p.collation.displayPoints) : Json.Sound p.clauses := by
  refine (sound_clause rfl characterSet).append (sound_clause rfl collation) ?_
  intro m _ n member
  exact apart_of_blank (head_clause rfl member)

theorem sound_append_clauses (sound : Json.Sound p.clauses) {points : List Nat}
    (before : Json.Sound points) : Json.Sound (points ++ p.clauses) := by
  have blank : ∀ n ∈ p.clauses.head?, n = ' '.toNat := by
    intro n member
    rw [clauses, List.head?_append] at member
    cases first : (clause " character set " p.characterSet).head? with
    | some m =>
      rw [first] at member
      cases member
      exact head_clause rfl first
    | none =>
      rw [first] at member
      exact head_clause rfl member
  exact before.append sound fun m _ n member => apart_of_blank (blank n member)

theorem Flat.sound_clauses (h : p.Flat) : Json.Sound p.clauses :=
  CatalogParameter.sound_clauses h.characterSet.sound_displayPoints h.collation.sound_displayPoints

theorem sound_singleton {points : List Nat} (sound : Json.Sound points) {n : Nat}
    (member : n ∈ points) : Json.Sound [n] := by
  refine ⟨fun m single => ?_, .singleton n⟩
  obtain rfl := List.mem_singleton.1 single
  exact sound.small m member

theorem Flat.scalar_pointTexts (h : p.Flat) : ∀ v ∈ pointTexts p.clauses, v.Scalar := by
  intro v member
  obtain ⟨n, place, rfl⟩ := List.mem_map.1 member
  exact ⟨_, rfl, Atom.readable_ofPoints (sound_singleton h.sound_clauses place)⟩

theorem Flat.afterLooks (h : p.Flat) (n : Nat) : (p.afterLooks n).Flat := by
  unfold CatalogParameter.afterLooks
  split
  · rename_i items list
    refine { h with dtdIdentifier := .list fun v member => ?_ }
    rcases List.mem_append.1 member with old | new
    · exact Value.Flat.items (list ▸ h.dtdIdentifier) v old
    · obtain ⟨clauses, copy, inside⟩ := List.mem_flatten.1 new
      obtain rfl := List.eq_of_mem_replicate copy
      exact h.scalar_pointTexts v inside
  · exact h

theorem Flat.scalar_typeDescriptor (h : p.Flat) (scalar : p.dtdIdentifier.Scalar) {type : Value}
    (found : p.typeDescriptor = .ok type) : type.Scalar := by
  have added {a : Atom} (readable : a.Readable) :
      Value.Scalar (.atom (.ofPoints (a.displayPoints ++ p.clauses))) :=
    ⟨_, rfl, Atom.readable_ofPoints
      (sound_append_clauses h.sound_clauses readable.sound_displayPoints)⟩
  obtain ⟨a, shape, readable⟩ := scalar
  unfold CatalogParameter.typeDescriptor at found
  rw [shape] at found
  split at found
  · cases found
    exact ⟨a, rfl, readable⟩
  · cases a with
    | text s =>
      cases found
      exact added readable
    | broken points =>
      cases found
      exact added readable
    | _ => cases found

theorem Flat.typeDescriptor (h : p.Flat) {type : Value} (found : p.typeDescriptor = .ok type) :
    type.Flat := by
  have flat := h.dtdIdentifier
  cases shape : p.dtdIdentifier with
  | list items =>
    rw [shape] at flat
    unfold CatalogParameter.typeDescriptor at found
    rw [shape] at found
    split at found
    · cases found
      exact flat
    · cases found
      refine .list fun v member => ?_
      rcases List.mem_append.1 member with old | new
      · exact flat.items v old
      · exact h.scalar_pointTexts v new
  | _ =>
    rw [shape] at flat
    cases flat with
    | scalar scalar => exact (h.scalar_typeDescriptor (shape ▸ scalar) found).flat

theorem Flat.effectiveType (h : p.Flat) : p.effectiveType.Scalar := by
  unfold CatalogParameter.effectiveType
  split
  · rename_i e merged
    exact (h.extended e merged).1.dataType
  · exact h.dataType

theorem Flat.members (h : p.Flat) {type : Value} (flat : type.Flat) :
    ∀ e ∈ p.membersWith type, e.2.Flat := by
  have separators : ∀ e ∈ (match p.extended with
      | some e => [("delimiter", e.delimiter), ("enclosure", e.enclosure), ("escape", e.escape)]
      | none => [] : List (String × Value)), e.2.Flat := by
    split
    · rename_i e merged
      obtain ⟨scalar, -⟩ := h.extended e merged
      simp only [List.forall_mem_cons]
      exact ⟨scalar.delimiter.flat, scalar.enclosure.flat, scalar.escape.flat, by simp⟩
    · simp
  unfold membersWith
  simp only [List.cons_append, List.nil_append, List.forall_mem_cons]
  exact ⟨h.name.flat, h.effectiveType.flat, h.dataType.flat, h.dtdIdentifier,
    h.numericPrecision.flat, h.numericScale.flat, h.characterSet.flat, h.collation.flat, flat,
    separators⟩

theorem Flat.readable (h : p.Flat) {v : Value} (written : p.toValue = .ok v) (depth : Nat) :
    v.Readable (depth + 2) := by
  rw [toValue_eq] at written
  obtain ⟨type, found, rfl⟩ := map_eq_ok.1 written
  exact Value.readable_ofMembers (nodup_names type _) fun e member =>
    ((h.afterLooks 1).members (h.typeDescriptor found) e member).readable depth

def mapped (f : Value → Value) (p : CatalogParameter) : CatalogParameter where
  name := f p.name
  dataType := f p.dataType
  dtdIdentifier := f p.dtdIdentifier
  numericPrecision := f p.numericPrecision
  numericScale := f p.numericScale
  characterSet := f p.characterSet
  collation := f p.collation
  extended := p.extended.map (·.mapped f)

def kept (p : CatalogParameter) : CatalogParameter := p.mapped Value.kept

theorem Flat.kept (h : p.Flat) : p.kept = p := by
  have extended : p.extended.map (·.mapped Value.kept) = p.extended := by
    cases merged : p.extended with
    | none => rfl
    | some e =>
      obtain ⟨scalar, -⟩ := h.extended e merged
      exact congrArg some scalar.kept
  rw [CatalogParameter.kept, mapped, h.name.kept, h.dataType.kept, h.dtdIdentifier.kept,
    h.numericPrecision.kept, h.numericScale.kept, h.characterSet.kept, h.collation.kept, extended]

/-- A declaration that is merged into the parameter is one of its name. -/
def Named (p : CatalogParameter) : Prop := ∀ e, p.extended = some e → e.name = p.name

theorem Flat.named (h : p.Flat) : p.Named := fun e merged => (h.extended e merged).2

theorem Named.afterLooks (h : p.Named) (n : Nat) : (p.afterLooks n).Named := by
  unfold CatalogParameter.afterLooks
  split <;> exact h

theorem Named.ofValue_ofMembers (h : p.Named) (type : Value) :
    ofValue (Value.ofMembers (p.membersWith type)).kept = .ok p.kept := by
  have distinct := nodup_names type p
  have read (k : String) (w : Value) (inside : (k, w) ∈ p.membersWith type) :
      (Value.ofMembers (p.membersWith type)).kept.member k = .ok w.kept :=
    Value.member_kept distinct inside
  have readOr (k : String) (w default : Value) (inside : (k, w) ∈ p.membersWith type) :
      (Value.ofMembers (p.membersWith type)).kept.memberOr k default = .ok w.kept :=
    Value.memberOr_kept distinct inside default
  have name := read "name" p.name (by simp [membersWith])
  have dataType := read "data_type" p.effectiveType (by simp [membersWith])
  have extended : extendedOf (Value.ofMembers (p.membersWith type)).kept =
      .ok (p.extended.map ExtendedParameter.kept) := by
    unfold extendedOf
    -- A parameter is read as a list just if it has a delimiter: only those may be written with one.
    cases merged : p.extended with
    | none =>
      have absent := Value.field?_kept_of_not_mem distinct (k := "delimiter")
        (by simp [membersWith, merged])
      rw [absent]
      rfl
    | some e =>
      have present := Value.field?_kept distinct (k := "delimiter") (v := e.delimiter)
        (by simp [membersWith, merged])
      have type' : p.effectiveType = e.dataType := by
        simp [CatalogParameter.effectiveType, merged]
      rw [present, name, dataType, read "delimiter" e.delimiter (by simp [membersWith, merged]),
        read "enclosure" e.enclosure (by simp [membersWith, merged]),
        read "escape" e.escape (by simp [membersWith, merged]), type', ← h e merged]
      rfl
  have catalogType := readOr "catalog_data_type" p.dataType p.effectiveType.kept
    (by simp [membersWith])
  have identifier := readOr "dtd_identifier" p.dtdIdentifier (.text "") (by simp [membersWith])
  have precision := readOr "numeric_precision" p.numericPrecision .null (by simp [membersWith])
  have scale := readOr "numeric_scale" p.numericScale .null (by simp [membersWith])
  have characterSet := readOr "character_set_name" p.characterSet .null (by simp [membersWith])
  have collation := readOr "collation_name" p.collation .null (by simp [membersWith])
  simp only [ofValue, bind, Except.bind, extended, name, dataType, catalogType, identifier,
    precision, scale, characterSet, collation]
  rfl

theorem Named.ofValue_kept (h : p.Named) {v : Value} (written : p.toValue = .ok v) :
    ofValue v.kept = .ok (p.afterLooks 1).kept := by
  rw [toValue_eq] at written
  obtain ⟨type, found, rfl⟩ := map_eq_ok.1 written
  exact (h.afterLooks 1).ofValue_ofMembers type

end CatalogParameter

namespace WrapperParameter

structure Flat (p : WrapperParameter) : Prop where
  name : p.name.Scalar
  semanticType : p.semanticType.Scalar
  typeDescriptor : p.typeDescriptor.Flat
  description : p.description.Scalar

def members (p : WrapperParameter) : List (String × Value) :=
  [("name", p.name), ("semantic_type", p.semanticType), ("data_type_descriptor", p.typeDescriptor),
    ("description", p.description)]

theorem nodup_names (p : WrapperParameter) : (p.members.map (·.1)).Nodup := by
  simp [members]

variable {p : WrapperParameter}

theorem Flat.readable (h : p.Flat) (depth : Nat) : p.toValue.Readable (depth + 2) := by
  refine Value.readable_ofMembers p.nodup_names ?_
  simp only [members, List.forall_mem_cons]
  exact ⟨h.name.readable _, h.semanticType.readable _, h.typeDescriptor.readable _,
    h.description.readable _, by simp⟩

def mapped (f : Value → Value) (p : WrapperParameter) : WrapperParameter where
  name := f p.name
  semanticType := f p.semanticType
  typeDescriptor := f p.typeDescriptor
  description := f p.description

def kept (p : WrapperParameter) : WrapperParameter := p.mapped Value.kept

theorem Flat.kept (h : p.Flat) : p.kept = p := by
  rw [WrapperParameter.kept, mapped, h.name.kept, h.semanticType.kept, h.typeDescriptor.kept,
    h.description.kept]

theorem ofValue_kept (p : WrapperParameter) : ofValue p.toValue.kept = .ok p.kept := by
  have name : p.toValue.kept.member "name" = .ok p.name.kept :=
    Value.member_kept p.nodup_names (by simp [members])
  have semanticType : p.toValue.kept.member "semantic_type" = .ok p.semanticType.kept :=
    Value.member_kept p.nodup_names (by simp [members])
  have type : p.toValue.kept.member "data_type_descriptor" = .ok p.typeDescriptor.kept :=
    Value.member_kept p.nodup_names (by simp [members])
  have description : p.toValue.kept.memberOr "description" .null = .ok p.description.kept :=
    Value.memberOr_kept p.nodup_names (by simp [members]) .null
  simp only [ofValue, name, semanticType, type, description]
  rfl

end WrapperParameter

namespace RoutineDoc

structure Flat (d : RoutineDoc) : Prop where
  short : d.short.Scalar
  long : d.long.Scalar
  parameters : ∀ p ∈ d.parameters, p.Flat

def members (d : RoutineDoc) : List (String × Value) :=
  [("short_description", d.short), ("long_description", d.long),
    ("parameters", .list (d.parameters.map WrapperParameter.toValue))]

theorem nodup_names (d : RoutineDoc) : (d.members.map (·.1)).Nodup := by
  simp [members]

variable {d : RoutineDoc}

theorem Flat.readable (h : d.Flat) (depth : Nat) : d.toValue.Readable (depth + 4) := by
  refine Value.readable_ofMembers d.nodup_names ?_
  simp only [members, List.forall_mem_cons]
  refine ⟨h.short.readable _, h.long.readable _, .list ?_, by simp⟩
  intro v member
  obtain ⟨p, place, rfl⟩ := List.mem_map.1 member
  exact (h.parameters p place).readable depth

def mapped (f : Value → Value) (d : RoutineDoc) : RoutineDoc where
  short := f d.short
  long := f d.long
  parameters := d.parameters.map (·.mapped f)

def kept (d : RoutineDoc) : RoutineDoc := d.mapped Value.kept

theorem Flat.kept (h : d.Flat) : d.kept = d := by
  have parameters : d.parameters.map (·.mapped Value.kept) = d.parameters.map id :=
    List.map_congr_left fun p place => (h.parameters p place).kept
  rw [RoutineDoc.kept, mapped, h.short.kept, h.long.kept, parameters, List.map_id]

theorem ofValue_kept (d : RoutineDoc) : ofValue d.toValue.kept = .ok d.kept := by
  have short : d.toValue.kept.memberOr "short_description" (.text "") = .ok d.short.kept :=
    Value.memberOr_kept d.nodup_names (by simp [members]) _
  have long : d.toValue.kept.memberOr "long_description" (.text "") = .ok d.long.kept :=
    Value.memberOr_kept d.nodup_names (by simp [members]) _
  have parameters : d.toValue.kept.memberOr "parameters" (.list []) =
      .ok (.list ((d.parameters.map WrapperParameter.toValue).map Value.kept)) := by
    rw [← Value.kept_list]
    exact Value.memberOr_kept d.nodup_names (by simp [members]) _
  have wrapped : ((d.parameters.map WrapperParameter.toValue).map Value.kept).mapM
      WrapperParameter.ofValue = .ok (d.parameters.map WrapperParameter.kept) := by
    refine Value.mapM_kept ?_
    rw [List.forall₂_map_right_iff, List.forall₂_map_left_iff, List.forall₂_same]
    exact fun p _ => p.ofValue_kept
  simp only [ofValue, bind, Except.bind, short, long, parameters, Value.parts, wrapped]
  rfl

end RoutineDoc

end StoredRoutines
