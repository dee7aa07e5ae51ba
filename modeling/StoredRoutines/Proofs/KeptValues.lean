import StoredRoutines.Proofs.JsonRoundTrip

/-!
Values as a store keeps them. Whatever is written completely is read again as the same value, but
that the members of each object come in the order of their names, and that the names are texts: a
name that is no text is spelled as one.
-/

namespace StoredRoutines

/-- The keys of the table are distinct texts that the reader gives back. -/
structure TextKeys {α : Type} (table : List (Atom × α)) : Prop where
  names : ∀ e ∈ table, e.1.isText = true ∧ e.1.Readable
  distinct : (Assoc.keys table).Nodup

namespace TextKeys

variable {α β : Type} {table : List (Atom × α)}

theorem texts (h : TextKeys table) : ∀ e ∈ table, e.1.isText = true :=
  fun e member => (h.names e member).1

theorem ordered (h : TextKeys table) : TextKeys (Atom.ordered table) where
  names := fun e member => h.names e (Atom.mem_ordered.1 member)
  distinct := ((Atom.ordered_perm table).map _).nodup_iff.2 h.distinct

theorem map (h : TextKeys table) (f : α → β) : TextKeys (table.map fun e => (e.1, f e.2)) where
  names := by
    intro e member
    obtain ⟨d, place, rfl⟩ := List.mem_map.1 member
    exact h.names d place
  distinct := by
    have keys : Assoc.keys (table.map fun e => (e.1, f e.2)) = Assoc.keys table := List.map_map
    rw [keys]
    exact h.distinct

end TextKeys

namespace Value

mutual

/-- The value as it is read again: the members of each object in order, under their names as texts. -/
def kept : Value → Value
  | .atom a => .atom a
  | .list items => .list (keptItems items)
  | .object fields =>
    .object (Assoc.ofPairs ((Atom.ordered (keptFields fields)).map fun e => (e.1.spelled, e.2)))

def keptItems : List Value → List Value
  | [] => []
  | v :: vs => kept v :: keptItems vs

def keptFields : List (Atom × Value) → List (Atom × Value)
  | [] => []
  | (k, v) :: fs => (k, kept v) :: keptFields fs

end

theorem kept_list (items : List Value) : kept (.list items) = .list (items.map kept) := by
  have each : keptItems items = items.map kept := by
    induction items with
    | nil => rfl
    | cons v vs ih => rw [keptItems, List.map_cons, ih]
  rw [kept, each]

theorem kept_object (fields : List (Atom × Value)) : kept (.object fields) =
    .object (Assoc.ofPairs ((Atom.ordered fields).map fun e => (e.1.spelled, e.2.kept))) := by
  have each : keptFields fields = fields.map fun e => (e.1, e.2.kept) := by
    induction fields with
    | nil => rfl
    | cons e es ih => rw [keptFields, List.map_cons, ih]
  rw [kept, each, Atom.ordered_map, List.map_map]
  rfl

theorem kept_of_texts {fields : List (Atom × Value)} (texts : ∀ e ∈ fields, e.1.isText = true)
    (distinct : (Assoc.keys fields).Nodup) :
    kept (.object fields) = .object ((Atom.ordered fields).map fun e => (e.1, e.2.kept)) := by
  have spelled : (Atom.ordered fields).map (fun e => (e.1.spelled, e.2.kept)) =
      (Atom.ordered fields).map fun e => (e.1, e.2.kept) := by
    refine List.map_congr_left (fun e place => ?_)
    rw [Atom.spelled_of_text (texts e (Atom.mem_ordered.1 place))]
  have keys : Assoc.keys ((Atom.ordered fields).map fun e => (e.1, e.2.kept)) =
      Assoc.keys (Atom.ordered fields) := List.map_map
  have apart : (Assoc.keys ((Atom.ordered fields).map fun e => (e.1, e.2.kept))).Nodup := by
    rw [keys]
    exact ((Atom.ordered_perm fields).map _).nodup_iff.2 distinct
  rw [kept_object, spelled, Assoc.ofPairs_of_nodup apart]

theorem Readable.kept {depth : Nat} {v : Value} (h : v.Readable depth) : v.kept = v.sorted := by
  induction h with
  | atom => rfl
  | list each ih => rw [kept_list, Value.sorted, sortedItems_eq, List.map_congr_left ih]
  | object names distinct each ih =>
    rw [kept_of_texts (fun e member => (names e member).1) distinct, Value.sorted, sortedFields_eq,
      Atom.ordered_map]
    refine congrArg Value.object (List.map_congr_left fun e place => ?_)
    rw [ih e (Atom.mem_ordered.1 place)]

/-- The value is written, and read again with no more than some levels of nesting. -/
structure Storable (depth : Nat) (v : Value) : Prop where
  readable : v.Readable depth
  writable : v.isWritable = true

theorem areWritable_iff {items : List Value} :
    areWritable items = true ↔ ∀ v ∈ items, v.isWritable = true := by
  induction items with
  | nil => simp [areWritable]
  | cons v vs ih => rw [areWritable, Bool.and_eq_true, ih, List.forall_mem_cons]

theorem haveWritable_iff {fields : List (Atom × Value)} :
    haveWritable fields = true ↔ ∀ e ∈ fields, e.1.isText = true ∧ e.2.isWritable = true := by
  induction fields with
  | nil => simp [haveWritable]
  | cons e es ih => rw [haveWritable, Bool.and_eq_true, Bool.and_eq_true, ih, List.forall_mem_cons]

section

variable {depth : Nat} {values : List Value} {entries : List (Atom × Value)}

theorem storable_atom {a : Atom} (h : a.Storable) : Storable depth (.atom a) where
  readable := .atom h.readable
  writable := by rw [isWritable, h.noBytes, h.short]; rfl

theorem storable_list (each : ∀ v ∈ values, Storable depth v) :
    Storable (depth + 1) (.list values) where
  readable := .list fun v member => (each v member).readable
  writable := areWritable_iff.2 fun v member => (each v member).writable

theorem storable_object (keys : TextKeys entries) (each : ∀ e ∈ entries, Storable depth e.2) :
    Storable (depth + 1) (.object entries) where
  readable := .object keys.names keys.distinct fun e member => (each e member).readable
  writable := haveWritable_iff.2 fun e member =>
    ⟨keys.texts e member, (each e member).writable⟩

namespace Storable

theorem atom {a : Atom} (h : Storable depth (.atom a)) : a.Storable := by
  have writable := h.writable
  rw [isWritable, Bool.and_eq_true, Bool.not_eq_true', Bool.not_eq_true'] at writable
  cases h.readable with
  | atom readable => exact ⟨readable, writable.1, writable.2⟩

theorem items (h : Storable (depth + 1) (.list values)) : ∀ v ∈ values, Storable depth v := by
  intro v member
  have writable := areWritable_iff.1 h.writable v member
  cases h.readable with
  | list each => exact ⟨each v member, writable⟩

theorem keys (h : Storable (depth + 1) (.object entries)) : TextKeys entries := by
  cases h.readable with
  | object names distinct each => exact ⟨names, distinct⟩

theorem members (h : Storable (depth + 1) (.object entries)) : ∀ e ∈ entries, Storable depth e.2 := by
  intro e member
  have writable := (haveWritable_iff.1 h.writable e member).2
  cases h.readable with
  | object names distinct each => exact ⟨each e member, writable⟩

theorem mono {v : Value} (h : Storable depth v) {more : Nat} (le : depth ≤ more) :
    Storable more v := by
  refine ⟨?_, h.writable⟩
  have readable := h.readable
  clear h
  induction readable generalizing more with
  | atom readable => exact .atom readable
  | list each ih =>
    obtain ⟨more, rfl⟩ : ∃ n, more = n + 1 := ⟨more - 1, by omega⟩
    exact .list fun v member => ih v member (by omega)
  | object names distinct each ih =>
    obtain ⟨more, rfl⟩ : ∃ n, more = n + 1 := ⟨more - 1, by omega⟩
    exact .object names distinct fun e member => ih e member (by omega)

end Storable

end

/-- The value has no more than some levels of nesting, and could be read if it was written. Its names
need not be texts. -/
inductive Spellable : Nat → Value → Prop
  | value {depth : Nat} {v : Value} (readable : v.Readable depth) : Spellable depth v
  | object {depth : Nat} {fields : List (Atom × Value)} (names : ∀ e ∈ fields, e.1.Storable)
      (each : ∀ e ∈ fields, Spellable depth e.2) : Spellable (depth + 1) (.object fields)

end Value

namespace Json

theorem plain_of_storable {fields : List (Atom × Value)} (names : ∀ e ∈ fields, e.1.Storable) :
    ∀ e ∈ fields, e.1.isBytes = false ∧ isTooLong e.1 = false :=
  fun e member => ⟨(names e member).noBytes, (names e member).short⟩

variable {depth level : Nat} {v : Value}

theorem starts_of_spellable (h : v.Spellable depth) (complete : (written level v).failure = none) :
    Starts (written level v).characters := by
  cases h with
  | value readable => exact starts_written readable complete
  | object names each =>
    have comparable := ((complete_object (plain_of_storable names)).1 complete).1
    rw [written_object_of_comparable comparable]
    exact starts_enclosed (by decide) (by decide)

/-- A value that was written completely is read as it is kept. -/
theorem readsAs_kept (h : v.Spellable depth) (complete : (written level v).failure = none) :
    ReadsAs level depth v v.kept := by
  induction h generalizing level with
  | value readable =>
    rw [readable.kept]
    exact readsBack_written readable complete
  | object names each ih =>
    have completes := ((complete_object (plain_of_storable names)).1 complete).2
    rw [Value.kept_object]
    exact readsAs_object Value.kept names complete
      (fun e member => starts_of_spellable (each e member) (completes e member))
      (fun e member => ih e member (completes e member))

theorem plain_of_spellable (h : v.Spellable depth) (complete : (written level v).failure = none) :
    Plain (written level v).characters := by
  induction h generalizing level with
  | value readable => exact plain_written readable complete
  | object names each ih =>
    have completes := ((complete_object (plain_of_storable names)).1 complete).2
    exact plain_object (plain_of_storable names) complete
      fun e member => ih e member (completes e member)

/-- The text of a value, with a line end behind it, is read as the value is kept. -/
theorem parseWithin_of_spellable (h : v.Spellable depth) (complete : (render v).failure = none) :
    parseWithin depth (String.ofList ((render v).characters ++ ['\n'])) = .ok v.kept :=
  parseWithin_of_readsAs (starts_of_spellable h complete) (readsAs_kept h complete)

end Json

end StoredRoutines
