import StoredRoutines.Proofs.RecordReadings

/-!
Records that can be kept. The value of a record that was read can always be read again, but not
always written: a parameter may have a character set or a collation and a type that does not take
them in, and placeholders may have names that cannot be put in order. Writing and reading change no
more of a record than a type that is a list and a name of a placeholder that is no text.
-/

namespace StoredRoutines

open Outcomes

namespace CatalogParameter

variable {depth : Nat} {p : CatalogParameter}

/-- What is added to the type of the parameter can be added to it: nothing, or text to a text or a
list. -/
def TakesClauses (p : CatalogParameter) : Prop :=
  (p.characterSet.isNothing = true ∧ p.collation.isNothing = true) ∨
    (∃ a, p.dtdIdentifier = .atom a ∧ a.isText = true) ∨ ∃ items, p.dtdIdentifier = .list items

theorem clause_eq_nil {label : String} (some : label.toList ≠ []) {v : Value} :
    clause label v = [] ↔ v.isNothing = true := by
  unfold clause
  split
  · simp_all
  · simp_all

theorem clauses_eq_nil :
    p.clauses = [] ↔ p.characterSet.isNothing = true ∧ p.collation.isNothing = true := by
  rw [clauses, List.append_eq_nil_iff, clause_eq_nil (by decide), clause_eq_nil (by decide)]

theorem addClauses_isOk {type : Value} (noBytes : ∀ b, type ≠ .bytes b) {points : List Nat} :
    (∃ full, addClauses type points = .ok full) ↔
      (∃ a, type = .atom a ∧ a.isText = true) ∨ ∃ items, type = .list items := by
  cases type with
  | atom a =>
    cases a with
    | text s => simp [addClauses, Atom.isText]
    | broken ps => simp [addClauses, Atom.isText]
    | bytes b => exact absurd rfl (noBytes b)
    | _ => simp [addClauses, Value.refuse, Atom.isText]
  | list items => simp [addClauses]
  | object fields => simp [addClauses, Value.refuse]

theorem Storable.exists_toValue (h : p.Storable depth) :
    (∃ v, p.toValue = .ok v) ↔ p.TakesClauses := by
  have noBytes : ∀ b, p.dtdIdentifier ≠ .bytes b := by
    intro b same
    have absent := (same ▸ h.dtdIdentifier : Value.Storable depth (.bytes b)).atom.noBytes
    cases absent
  have full : (∃ v, p.toValue = .ok v) ↔ ∃ type, p.typeDescriptor = .ok type := by
    rw [toValue_eq]
    cases p.typeDescriptor <;> simp [Except.map]
  rw [full, CatalogParameter.typeDescriptor, TakesClauses, ← clauses_eq_nil]
  by_cases none : p.clauses = []
  · simp [none]
  · rw [if_neg (by simpa using none), addClauses_isOk noBytes]
    simp [none]

end CatalogParameter

namespace BuildRecord

variable {depth : Nat} {r : BuildRecord}

/-- The record can be written: each of its parameters has a full type, and the names of its
placeholders can be put in order. -/
structure Keepable (r : BuildRecord) : Prop where
  types : ∀ p ∈ r.parameters, p.TakesClauses
  placeholders : Atom.areComparable (Assoc.keys r.replace) = true

/-- Writing and reading the record change no part of it: placeholders are named by texts, and nothing
is added to types that are lists. -/
structure Steady (r : BuildRecord) : Prop where
  placeholders : ∀ e ∈ r.replace, e.1.isText = true
  types : ∀ p ∈ r.parameters, ∀ items, p.dtdIdentifier = .list items → p.clauses = []

/-- The record with the members of each object, at any depth, in the order of their names. -/
def sorted (r : BuildRecord) : BuildRecord :=
  r.mappedWith Value.sorted ((Atom.ordered r.replace).map fun e => (e.1, e.2.sorted))

namespace Storable

theorem named (h : r.Storable depth) : r.Named where
  parameters := fun p place => (h.parameters p place).named
  declarations := h.declarations

theorem storable_declaredValue (h : r.Storable depth) : r.declaredValue.Storable (depth + 3) := by
  refine Value.storable_object (h.declarations.map ExtendedParameter.toValue) fun e place => ?_
  obtain ⟨d, inside, rfl⟩ := List.mem_map.1 place
  exact (h.declared d inside).toValue

theorem exists_toValue (h : r.Storable depth) :
    (∃ v, r.toValue = .ok v) ↔ ∀ p ∈ r.parameters, p.TakesClauses := by
  have mapped : (∃ v, r.toValue = .ok v) ↔ ∀ p ∈ r.parameters, ∃ v, p.toValue = .ok v := by
    constructor
    · rintro ⟨v, written⟩ p place
      rw [toValue_eq] at written
      obtain ⟨values, each, -⟩ := map_eq_ok.1 written
      obtain ⟨w, -, shape⟩ := exists_of_forall₂ (mapM_eq_ok.1 each).flip place
      exact ⟨w, shape⟩
    · intro each
      obtain ⟨values, all⟩ := exists_forall₂ each
      rw [toValue_eq]
      exact ⟨_, map_eq_ok.2 ⟨values, mapM_eq_ok.2 all, rfl⟩⟩
  rw [mapped]
  exact forall₂_congr fun p place => (h.parameters p place).exists_toValue

section

variable {v : Value} {parameters : List Value}

theorem storable_parameters (h : r.Storable depth)
    (mapped : r.parameters.mapM CatalogParameter.toValue = .ok parameters) :
    Value.Storable (depth + 3) (.list parameters) := by
  refine Value.storable_list fun w place => ?_
  obtain ⟨p, inside, shape⟩ := exists_of_forall₂ (mapM_eq_ok.1 mapped) place
  exact (h.parameters p inside).toValue shape

theorem forall_mem_storedMembers (h : r.Storable depth)
    (mapped : r.parameters.mapM CatalogParameter.toValue = .ok parameters) {P : Value → Prop}
    (each : ∀ v, v.Storable (depth + 3) → P v) :
    (∀ e ∈ r.storedMembers parameters, P e.2) ↔ P (.object r.replace) := by
  have timestamp : Value.Storable (depth + 3) (.int r.timestamp) :=
    Value.storable_atom (Atom.storable_int h.timestamp)
  have replace : P (.object r.replace) ↔ P (.object r.replace) ∧ P r.doc.toValue ∧
      P r.declaredValue ∧ ∀ e ∈ ([] : List (String × Value)), P e.2 :=
    ⟨fun holds => ⟨holds, each _ h.doc.toValue, each _ h.storable_declaredValue, by simp⟩, (·.1)⟩
  simp only [storedMembers, List.forall_mem_cons]
  rw [← replace]
  exact ⟨fun all => all.2.2.2.2.2.2.2.2.2, fun holds => ⟨each _ h.routineName, each _ h.routineType,
    each _ h.designation, each _ h.table, each _ (Value.storable_list h.columns),
    each _ (Value.storable_list h.fields), each _ (Value.storable_list h.columnTypes),
    each _ (h.storable_parameters mapped), each _ timestamp, holds⟩⟩

theorem spellable (h : r.Storable depth) (written : r.toValue = .ok v) : v.Spellable (depth + 4) := by
  rw [toValue_eq] at written
  obtain ⟨parameters, mapped, rfl⟩ := map_eq_ok.1 written
  have replace : Value.Spellable (depth + 3) (.object r.replace) :=
    .object (fun e place => (h.replace e place).1) fun e place => .value (h.replace e place).2.readable
  have each := (h.forall_mem_storedMembers mapped fun v storable => .value storable.readable).2 replace
  refine .object (fun e place => ?_) fun e place => ?_
  · obtain ⟨d, -, rfl⟩ := List.mem_map.1 place
    exact Atom.storable_text d.1
  · obtain ⟨d, inside, rfl⟩ := List.mem_map.1 place
    exact each d inside

/-- The value of a record is written completely if the names of the placeholders can be put in
order. -/
theorem complete_iff (h : r.Storable depth) (written : r.toValue = .ok v) (level : Nat) :
    (Json.written level v).failure = none ↔ Atom.areComparable (Assoc.keys r.replace) = true := by
  rw [toValue_eq] at written
  obtain ⟨parameters, mapped, rfl⟩ := map_eq_ok.1 written
  have texts : ∀ e ∈ (r.storedMembers parameters).map fun e => (Atom.text e.1, e.2),
      e.1.isText = true := by
    intro e place
    obtain ⟨d, -, rfl⟩ := List.mem_map.1 place
    rfl
  have values : ∀ e ∈ r.replace, (Json.written (level + 2) e.2).failure = none :=
    fun e place => Json.complete_of_isWritable (h.replace e place).2.writable _
  rw [Value.ofMembers, Json.complete_fields texts, List.forall_mem_map,
    h.forall_mem_storedMembers mapped fun v storable => Json.complete_of_isWritable storable.writable _,
    Json.complete_object (Json.plain_of_storable fun e place => (h.replace e place).1)]
  exact and_iff_left values

theorem written_iff (h : r.Storable depth) (level : Nat) :
    (∃ v, r.toValue = .ok v ∧ (Json.written level v).failure = none) ↔ r.Keepable := by
  constructor
  · rintro ⟨v, written, complete⟩
    exact ⟨h.exists_toValue.1 ⟨v, written⟩, (h.complete_iff written level).1 complete⟩
  · intro keepable
    obtain ⟨v, written⟩ := h.exists_toValue.2 keepable.types
    exact ⟨v, written, (h.complete_iff written level).2 keepable.placeholders⟩

end

end Storable

end BuildRecord

/-! A value with texts as names is kept in order, so the two ways to change each member agree. -/

section

variable {depth : Nat}

theorem ExtendedParameter.Storable.kept {e : ExtendedParameter} (h : e.Storable depth) :
    e.kept = e.mapped Value.sorted := by
  rw [ExtendedParameter.kept, mapped, mapped, h.name.readable.kept, h.dataType.readable.kept,
    h.delimiter.readable.kept, h.enclosure.readable.kept, h.escape.readable.kept]

theorem CatalogParameter.Storable.kept {p : CatalogParameter} (h : p.Storable depth) :
    p.kept = p.mapped Value.sorted := by
  have extended : p.extended.map (·.mapped Value.kept) = p.extended.map (·.mapped Value.sorted) := by
    cases merged : p.extended with
    | none => rfl
    | some e => exact congrArg some (h.extended e merged).kept
  rw [CatalogParameter.kept, mapped, mapped, h.name.readable.kept, h.dataType.readable.kept,
    h.dtdIdentifier.readable.kept, h.numericPrecision.readable.kept, h.numericScale.readable.kept,
    h.characterSet.readable.kept, h.collation.readable.kept, extended]

theorem WrapperParameter.Storable.kept {p : WrapperParameter} (h : p.Storable depth) :
    p.kept = p.mapped Value.sorted := by
  rw [WrapperParameter.kept, mapped, mapped, h.name.readable.kept, h.semanticType.readable.kept,
    h.typeDescriptor.readable.kept, h.description.readable.kept]

theorem RoutineDoc.Storable.kept {d : RoutineDoc} (h : d.Storable depth) :
    d.kept = d.mapped Value.sorted := by
  have parameters : d.parameters.map (·.mapped Value.kept) =
      d.parameters.map (·.mapped Value.sorted) :=
    List.map_congr_left fun p place => (h.parameters p place).kept
  rw [RoutineDoc.kept, mapped, mapped, h.short.readable.kept, h.long.readable.kept, parameters]

theorem Value.map_kept_eq_sorted {items : List Value} (h : ∀ v ∈ items, v.Storable depth) :
    items.map Value.kept = items.map Value.sorted :=
  List.map_congr_left fun v place => (h v place).readable.kept

end

namespace BuildRecord

variable {depth : Nat} {r : BuildRecord}

theorem Storable.kept (h : r.Storable depth) (texts : ∀ e ∈ r.replace, e.1.isText = true) :
    r.kept = r.sorted := by
  have parameters : r.parameters.map (·.mapped Value.kept) =
      r.parameters.map (·.mapped Value.sorted) :=
    List.map_congr_left fun p place => (h.parameters p place).kept
  have replace : (Atom.ordered r.replace).map (fun e => (e.1.spelled, e.2.kept)) =
      (Atom.ordered r.replace).map fun e => (e.1, e.2.sorted) := by
    refine List.map_congr_left fun e place => ?_
    have inside := Atom.mem_ordered.1 place
    rw [Atom.spelled_of_text (texts e inside), (h.replace e inside).2.readable.kept]
  have keys : Assoc.keys ((Atom.ordered r.replace).map fun e => (e.1, e.2.sorted)) =
      Assoc.keys (Atom.ordered r.replace) := List.map_map
  have distinct : (Assoc.keys ((Atom.ordered r.replace).map fun e => (e.1, e.2.sorted))).Nodup := by
    rw [keys]
    exact ((Atom.ordered_perm r.replace).map _).nodup_iff.2 h.placeholders
  have declared : (Atom.ordered r.declared).map (fun e => (e.1, e.2.mapped Value.kept)) =
      (Atom.ordered r.declared).map fun e => (e.1, e.2.mapped Value.sorted) :=
    List.map_congr_left fun e place =>
      congrArg (e.1, ·) (h.declared e (Atom.mem_ordered.1 place)).kept
  have doc : r.doc.mapped Value.kept = r.doc.mapped Value.sorted := h.doc.kept
  rw [BuildRecord.kept, sorted, mappedWith, mappedWith, h.routineName.readable.kept,
    h.routineType.readable.kept, h.designation.readable.kept, h.table.readable.kept,
    Value.map_kept_eq_sorted h.columns, parameters, Value.map_kept_eq_sorted h.fields,
    Value.map_kept_eq_sorted h.columnTypes, replace, Assoc.ofPairs_of_nodup distinct, doc, declared]

theorem Steady.afterLooks (h : r.Steady) (n : Nat) : r.afterLooks n = r := by
  have same : r.parameters.map (·.afterLooks n) = r.parameters.map id := by
    refine List.map_congr_left fun p place => ?_
    unfold CatalogParameter.afterLooks
    split
    · rename_i items list
      have nothing : CatalogParameter.pointTexts p.clauses = [] := by
        rw [h.types p place items list]
        rfl
      rw [nothing, List.flatten_replicate_nil, List.append_nil, ← list]
      rfl
    · rfl
  rw [BuildRecord.afterLooks, same, List.map_id]

/-- A record whose parameters and placeholders are read back is steady. -/
theorem steady_of_kept (replace : (r.afterLooks 1).kept.replace.Perm r.sorted.replace)
    (parameters : (r.afterLooks 1).kept.parameters = r.sorted.parameters) : r.Steady where
  placeholders := by
    intro e place
    have texts : ∀ e ∈ (r.afterLooks 1).kept.replace, e.1.isText = true ∧ True := by
      refine Assoc.forall_mem_ofPairs (P := fun a : Atom => a.isText = true)
        (Q := fun _ => True) ?_
      intro d inside
      obtain ⟨f, -, rfl⟩ := List.mem_map.1 inside
      exact ⟨f.1.isText_spelled, trivial⟩
    have inside : (e.1, e.2.sorted) ∈ r.sorted.replace :=
      List.mem_map.2 ⟨e, Atom.mem_ordered.2 place, rfl⟩
    exact (texts _ (replace.mem_iff.2 inside)).1
  types := by
    intro p place items list
    have each : ((r.parameters.map (·.afterLooks 1)).map (·.mapped Value.kept)) =
        r.parameters.map (·.mapped Value.sorted) := parameters
    rw [List.map_map, List.map_inj_left] at each
    have types : (p.afterLooks 1).dtdIdentifier.kept = p.dtdIdentifier.sorted :=
      congrArg CatalogParameter.dtdIdentifier (each p place)
    have looked : (p.afterLooks 1).dtdIdentifier =
        .list (items ++ CatalogParameter.pointTexts p.clauses) := by
      unfold CatalogParameter.afterLooks
      rw [list]
      simp
    -- A list with more items is another list, whatever is done to the items.
    rw [looked, list, Value.kept_list, Value.sorted, Value.sortedItems_eq] at types
    have lengths := congrArg List.length (Value.list.inj types)
    simpa [CatalogParameter.pointTexts] using lengths

/-- What is read back of a record is the record, up to the order of its tables, exactly if the record
is steady. -/
theorem Storable.sameAs_kept_iff (h : r.Storable depth) :
    r.sorted.SameAs (r.afterLooks 1).kept ↔ r.Steady := by
  constructor
  · intro same
    have parameters := congrArg BuildRecord.parameters same.rest
    exact steady_of_kept same.replace parameters
  · intro steady
    rw [steady.afterLooks, h.kept steady.placeholders]
    exact .refl _

end BuildRecord

namespace RecordStore

variable {store : RecordStore}

def sorted (store : RecordStore) : RecordStore := (Atom.ordered store).map fun e => (e.1, e.2.sorted)

namespace Storable

theorem named (h : store.Storable) : store.Named := ⟨h.keys, fun e place => (h.records e place).named⟩

theorem spellable (h : store.Storable) {v : Value} (written : store.toValue = .ok v) :
    v.Spellable maxDepth := by
  obtain ⟨each, rfl⟩ := (toValue_eq_ok h.keys).1 written
  have keys := h.keys.ordered.map BuildRecord.asValue
  refine .object (fun f place => ?_) fun f place => ?_
  · obtain ⟨text, readable⟩ := keys.names f place
    obtain ⟨noBytes, short⟩ := Json.plain_of_text text
    exact ⟨readable, noBytes, short⟩
  · obtain ⟨e, inside, rfl⟩ := List.mem_map.1 place
    have member := Atom.mem_ordered.1 inside
    exact (h.records e member).spellable (each e member)

theorem written_iff (h : store.Storable) :
    (∃ v, store.toValue = .ok v ∧ (Json.render v).failure = none) ↔ ∀ e ∈ store, e.2.Keepable := by
  have texts := (h.keys.ordered.map BuildRecord.asValue).texts
  constructor
  · rintro ⟨v, written, complete⟩ e place
    obtain ⟨each, rfl⟩ := (toValue_eq_ok h.keys).1 written
    have completes := (Json.complete_fields texts).1 complete
    exact ((h.records e place).written_iff 1).1
      ⟨_, each e place, completes _ (List.mem_map.2 ⟨e, Atom.mem_ordered.2 place, rfl⟩)⟩
  · intro keepable
    have each : ∀ e ∈ store, e.2.toValue = .ok e.2.asValue ∧
        (Json.written 1 e.2.asValue).failure = none := by
      intro e place
      obtain ⟨v, written, complete⟩ := ((h.records e place).written_iff 1).2 (keepable e place)
      rw [BuildRecord.asValue_of_ok written]
      exact ⟨written, complete⟩
    refine ⟨_, (toValue_eq_ok h.keys).2 ⟨fun e place => (each e place).1, rfl⟩, ?_⟩
    refine (Json.complete_fields texts).2 fun f place => ?_
    obtain ⟨e, inside, rfl⟩ := List.mem_map.1 place
    exact (each e (Atom.mem_ordered.1 inside)).2

/-- What is read back of a store is the store, up to the order of its tables, exactly if each of its
records is steady. -/
theorem sameAs_kept_iff (h : store.Storable) :
    store.sorted.SameAs (store.afterLooks 1).kept ↔ ∀ e ∈ store, e.2.Steady := by
  have looked : (store.afterLooks 1).kept = (Atom.ordered store).map fun e =>
      (e.1, (e.2.afterLooks 1).kept) := by
    rw [RecordStore.kept, RecordStore.afterLooks, Atom.ordered_map, List.map_map]
    rfl
  have distinct := h.keys.distinct
  have names : Assoc.keys (store.afterLooks 1).kept = Assoc.keys store.sorted := by
    rw [looked, sorted, Assoc.keys, Assoc.keys, List.map_map, List.map_map]
    rfl
  have found (e : Atom × BuildRecord) (place : e ∈ store) :
      store.sorted.lookup e.1 = some e.2.sorted ∧
        (store.afterLooks 1).kept.lookup e.1 = some (e.2.afterLooks 1).kept := by
    have there := Assoc.lookup_of_mem distinct place
    rw [looked, sorted, Atom.lookup_ordered_map BuildRecord.sorted distinct,
      Atom.lookup_ordered_map (fun r => (r.afterLooks 1).kept) distinct, there]
    exact ⟨rfl, rfl⟩
  constructor
  · intro same e place
    obtain ⟨back, read, record⟩ := same.records _ _ (found e place).1
    cases (found e place).2.symm.trans read
    exact (h.records e place).sameAs_kept_iff.1 record
  · intro steady
    refine ⟨names ▸ .refl _, fun name record there => ?_⟩
    obtain ⟨d, inside, same⟩ := List.mem_map.1 (Assoc.mem_of_lookup there)
    obtain ⟨rfl, rfl⟩ := Prod.mk.inj same
    have place := Atom.mem_ordered.1 inside
    exact ⟨_, (found d place).2, (h.records d place).sameAs_kept_iff.2 (steady d place)⟩

end Storable

end RecordStore

end StoredRoutines
