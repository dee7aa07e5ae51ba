import StoredRoutines.Build.Batch
import StoredRoutines.Proofs.Failing
import StoredRoutines.Sql.Connection

/-!
Outcomes that can fail with defects only. Reading rows and values, putting names in order, judging
and writing values know nothing of the errors that the loader raises.
-/

namespace StoredRoutines

open Outcomes

def Failure.IsDefect : Failure → Prop
  | .error _ => False
  | .defect _ => True

@[simp] theorem Failure.isDefect_defect (d : Defect) : (Failure.defect d).IsDefect := trivial

theorem Failure.isDefect_of_ne {e : Failure} (other : ∀ error, e ≠ .error error) : e.IsDefect := by
  cases e with
  | error error => exact (other error rfl).elim
  | defect d => trivial

theorem Failure.IsDefect.isConnectionLoss {e : Failure} (h : e.IsDefect) :
    e.isConnectionLoss = false := by
  cases e with
  | error e => exact h.elim
  | defect d => rfl

@[simp] theorem FileFault.isDefect_unforeseen (fault : FileFault) (p : Path) :
    (fault.unforeseen p).IsDefect := by
  cases fault <;> trivial

abbrev Defective {α : Type} (x : Except Failure α) : Prop := ErrsOnly Failure.IsDefect x

namespace Value

@[simp] theorem defective_refuse {α : Type} (explanation : String) :
    Defective (refuse explanation : Except Failure α) :=
  ErrsOnly.error_iff.2 trivial

@[simp] theorem defective_member (k : String) (v : Value) : Defective (v.member k) := by
  unfold member
  split
  · split <;> simp
  · simp
  · simp
  · simp
  · simp

@[simp] theorem defective_memberOr (v : Value) (k : String) (default : Value) :
    Defective (v.memberOr k default) := by
  unfold memberOr
  split <;> simp

@[simp] theorem defective_parts (v : Value) : Defective v.parts := by
  unfold parts
  split <;> simp

@[simp] theorem defective_partsOrNone (v : Value) : Defective v.partsOrNone := by
  unfold partsOrNone
  split <;> simp

@[simp] theorem defective_asKey (v : Value) : Defective v.asKey := by
  unfold asKey
  split <;> simp

@[simp] theorem defective_asPair (v : Value) : Defective v.asPair := by
  simp only [asPair, ErrsOnly.bind_iff, defective_parts, true_and]
  intro ps found
  split <;> simp

@[simp] theorem defective_entries (v : Value) : Defective v.entries := by
  unfold entries
  split
  · simp
  · split <;> simp

@[simp] theorem defective_toInteger (v : Value) : Defective v.toInteger := by
  unfold toInteger
  split
  · simp
  · simp
  · split <;> simp
  · split <;> simp
  · simp
  · simp

end Value

@[simp] theorem Sql.Row.defective_cell (row : Sql.Row) (label : String) :
    Defective (row.cell label) := by
  unfold Sql.Row.cell
  split <;> simp

@[simp] theorem Sql.defective_backtickValue (v : Value) : Defective (Sql.backtickValue v) := by
  unfold Sql.backtickValue Sql.backtick
  split
  · split <;> simp
  · simp
  · simp

@[simp] theorem Sql.Connector.defective_decodeRow (row : Sql.Row) :
    Defective (Sql.Connector.decodeRow row) := by
  refine ErrsOnly.mapM fun cell => ?_
  split
  · rw [ErrsOnly.map_iff, Sql.decodeBytes]
    split <;> simp
  · simp

namespace Atom

@[simp] theorem defective_sortEntries {α : Type} (entries : List (Atom × α)) :
    Defective (sortEntries entries) := by
  unfold sortEntries
  split <;> simp [unordered]

@[simp] theorem defective_inOrder (as : List Atom) : Defective (inOrder as) := by
  unfold inOrder
  split <;> simp [unordered]

end Atom

@[simp] theorem RoutineCatalog.defective_ofRows (rows : List Sql.Row) :
    Defective (RoutineCatalog.ofRows rows) := by
  simp [RoutineCatalog.ofRows, RoutineCatalog.namedEntryOfRow, RoutineCatalog.entryOfRow]

@[simp] theorem ColumnTypes.defective_ofRow (row : Sql.Row) : Defective (ColumnTypes.ofRow row) := by
  simp [ColumnTypes.ofRow]

@[simp] theorem Sql.DataLayer.defective_quoteValue (layer : Sql.DataLayer) (v : Value) :
    Defective (layer.quoteValue v) := by
  unfold Sql.DataLayer.quoteValue
  split <;> simp

@[simp] theorem ExtendedParameter.defective_ofValue (v : Value) :
    Defective (ExtendedParameter.ofValue v) := by
  simp [ExtendedParameter.ofValue]

namespace CatalogParameter

@[simp] theorem defective_extendedOf (v : Value) : Defective (extendedOf v) := by
  unfold extendedOf
  split <;> simp

@[simp] theorem defective_ofValue (v : Value) : Defective (ofValue v) := by
  simp [ofValue]

@[simp] theorem defective_ofRow (row : Sql.Row) : Defective (ofRow row) := by
  simp [ofRow]

@[simp] theorem defective_addClauses (type : Value) (clauses : List Nat) :
    Defective (addClauses type clauses) := by
  unfold addClauses
  split <;> simp

@[simp] theorem defective_typeDescriptor (p : CatalogParameter) : Defective p.typeDescriptor := by
  unfold typeDescriptor
  split <;> simp

@[simp] theorem defective_toValue (p : CatalogParameter) : Defective p.toValue := by
  simp [toValue]

end CatalogParameter

@[simp] theorem WrapperParameter.defective_ofValue (v : Value) :
    Defective (WrapperParameter.ofValue v) := by
  simp [WrapperParameter.ofValue]

@[simp] theorem RoutineDoc.defective_ofValue (v : Value) : Defective (RoutineDoc.ofValue v) := by
  simp [RoutineDoc.ofValue]

namespace BuildRecord

@[simp] theorem defective_toValue (r : BuildRecord) : Defective r.toValue := by
  simp [toValue, membersWith]

@[simp] theorem defective_declaredOf (v : Value) : Defective (declaredOf v) := by
  unfold declaredOf
  split
  · simp
  · split <;> simp

@[simp] theorem defective_ofValue (v : Value) : Defective (ofValue v) := by
  simp [ofValue]

end BuildRecord

@[simp] theorem RecordStore.defective_toValue (store : RecordStore) : Defective store.toValue := by
  simp [RecordStore.toValue]

namespace Freshness

@[simp] theorem defective_modesOf (v : Value) : Defective (modesOf v) := by
  unfold modesOf
  split
  · simp
  · split <;> simp

@[simp] theorem defective_ofPlaceholders (table : ReplaceTable) (recorded : List (Atom × Value)) :
    Defective (ofPlaceholders table recorded) := by
  induction recorded with
  | nil => simp [ofPlaceholders]
  | cons e rest ih =>
    obtain ⟨key, value⟩ := e
    unfold ofPlaceholders
    split
    · simp
    · split
      · simp
      · split <;> simp_all
    · split <;> simp

@[simp] theorem defective_ofCatalog (session : SessionSettings) (entry : Option CatalogEntry) :
    Defective (ofCatalog session entry) := by
  unfold ofCatalog
  split
  · simp
  · simp only [ErrsOnly.bind_iff, defective_modesOf, true_and]
    intro names found
    split
    · simp
    · split
      · simp
      · split <;> simp

@[simp] theorem defective_judge (record : Option BuildRecord) (modified : Int)
    (table : ReplaceTable) (session : SessionSettings) (entry : Option CatalogEntry) :
    Defective (judge record modified table session entry) := by
  unfold judge
  split
  · simp
  · split
    · simp
    · simp only [ErrsOnly.bind_iff, defective_ofPlaceholders, true_and]
      intro reason found
      split
      · simp
      · simp only [ErrsOnly.bind_iff, defective_ofCatalog, true_and]
        intro reason found
        split <;> simp

end Freshness

@[simp] theorem SourceSearch.defective_pattern (extension : String) :
    Defective (SourceSearch.pattern extension) := by
  unfold SourceSearch.pattern
  dsimp only
  split <;> simp

@[simp] theorem defective_dropStatement (type name : Value) :
    Defective (dropStatement type name) := by
  have droppable : Defective (droppableType type) := by
    unfold droppableType
    split
    · dsimp only
      split <;> simp
    · simp
    · simp
  simp [dropStatement, droppable]

namespace BulkTable

@[simp] theorem defective_callStatement (routine : Value) : Defective (callStatement routine) := by
  simp [callStatement]

@[simp] theorem defective_temporaryDrop (table : Value) :
    Defective (BulkTable.dropStatement table) := by
  simp [BulkTable.dropStatement]

@[simp] theorem defective_describeQuery (table : Value) : Defective (describeQuery table) := by
  simp [describeQuery]

@[simp] theorem defective_columnOfRow (row : Sql.Row) : Defective (columnOfRow row) := by
  simp [columnOfRow]

end BulkTable

namespace Json

def Output.Defective (o : Output) : Prop := ∀ e, o.failure = some e → e.IsDefect

namespace Output

@[simp] theorem defective_complete (cs : List Char) : Defective (cs : Output) := by
  intro e h
  cases h

@[simp] theorem defective_refused {e : Failure} (h : e.IsDefect) : Defective (refused e) := by
  intro e' same
  cases same
  exact h

theorem defective_append {a b : Output} (ha : a.Defective) (hb : b.Defective) :
    (a ++ b).Defective := by
  intro e h
  change (append a b).failure = some e at h
  unfold append at h
  cases stopped : a.failure with
  | some e' =>
    rw [stopped] at h
    exact ha e (by rw [← h, stopped])
  | none =>
    rw [stopped] at h
    exact hb e h

theorem defective_joined {separator : List Char} {os : List Output}
    (each : ∀ o ∈ os, o.Defective) : (joined separator os).Defective := by
  induction os with
  | nil => exact defective_complete []
  | cons o os ih =>
    cases os with
    | nil => exact each o (by simp)
    | cons o' os =>
      have first := each o (by simp)
      have rest := ih (fun o member => each o (List.mem_cons_of_mem _ member))
      exact defective_append (defective_append first (defective_complete separator)) rest

end Output

theorem defective_writtenAtom (a : Atom) : (writtenAtom a).Defective := by
  unfold writtenAtom
  split
  · exact Output.defective_refused trivial
  · split
    · exact Output.defective_refused trivial
    · split
      · exact Output.defective_complete _
      · exact Output.defective_complete _

theorem defective_writtenKey (a : Atom) : (writtenKey a).Defective := by
  unfold writtenKey
  split
  · exact Output.defective_refused trivial
  · split
    · exact Output.defective_refused trivial
    · exact Output.defective_append (Output.defective_complete _) (Output.defective_complete _)

theorem defective_enclosed (opening closing : Char) (level : Nat) {items : List Output}
    (each : ∀ o ∈ items, o.Defective) : (enclosed opening closing level items).Defective := by
  unfold enclosed
  split
  · exact Output.defective_complete _
  · have inner : (Output.joined (',' :: newLine (level + 1)) items).Defective :=
      Output.defective_joined each
    exact Output.defective_append (Output.defective_complete _)
      (Output.defective_append inner (Output.defective_complete _))

theorem defective_enclosedMembers (level : Nat) {members : List (Atom × Output)}
    (each : ∀ m ∈ members, m.2.Defective) : (enclosedMembers level members).Defective := by
  unfold enclosedMembers
  split
  · rename_i sorted found
    refine defective_enclosed _ _ _ (fun o member => ?_)
    obtain ⟨m, place, rfl⟩ := List.mem_map.1 member
    unfold Atom.sortEntries at found
    split at found
    · cases found
      exact Output.defective_append (defective_writtenKey m.1) (each m (by simpa using place))
    · cases found
  · rename_i e found
    have unordered := Atom.defective_sortEntries members e found
    exact Output.defective_append (Output.defective_complete _)
      (Output.defective_refused unordered)

mutual

theorem defective_written (level : Nat) (v : Value) : (written level v).Defective := by
  match v with
  | .atom a => exact defective_writtenAtom a
  | .list items => exact defective_enclosed _ _ _ (defective_writtenItems (level + 1) items)
  | .object fields => exact defective_enclosedMembers _ (defective_writtenFields (level + 1) fields)

theorem defective_writtenItems (level : Nat) (items : List Value) :
    ∀ o ∈ writtenItems level items, o.Defective := by
  match items with
  | [] => simp [writtenItems]
  | v :: vs =>
    simp only [writtenItems, List.mem_cons, forall_eq_or_imp]
    exact ⟨defective_written level v, defective_writtenItems level vs⟩

theorem defective_writtenFields (level : Nat) (fields : List (Atom × Value)) :
    ∀ m ∈ writtenFields level fields, m.2.Defective := by
  match fields with
  | [] => simp [writtenFields]
  | (k, v) :: fs =>
    simp only [writtenFields, List.mem_cons, forall_eq_or_imp]
    exact ⟨defective_written level v, defective_writtenFields level fs⟩

end

theorem defective_render (v : Value) : (render v).Defective := defective_written 0 v

end Json

end StoredRoutines
