import StoredRoutines.Proofs.StoreErrors

/-!
Outcomes that are known without a statement never report the loss of the connection: reading files
and values, judging, and building texts may fail, but in other ways.
-/

namespace StoredRoutines

open Outcomes

/-- The outcome is not the loss of the connection. -/
def Harmless {α : Type} (r : Except Failure α) : Prop :=
  ∀ e, r = .error e → e.isConnectionLoss = false

namespace Harmless

variable {α β : Type}

@[simp] theorem ok (a : α) : Harmless (.ok a : Except Failure α) := ErrsOnly.ok a

@[simp] theorem pure (a : α) : Harmless (Pure.pure a : Except Failure α) := ok a

@[simp] theorem error_iff (e : Failure) :
    Harmless (.error e : Except Failure α) ↔ e.isConnectionLoss = false :=
  ErrsOnly.error_iff

@[simp] theorem of_defective {x : Except Failure α} (h : Defective x) : Harmless x :=
  h.mono fun _ => Failure.IsDefect.isConnectionLoss

@[simp] theorem refuse (explanation : String) :
    Harmless (Value.refuse explanation : Except Failure α) :=
  of_defective (Value.defective_refuse explanation)

/-- A sequence is harmless if its first part is, and its second part after each value of the
first. -/
@[simp] theorem bind_iff {x : Except Failure α} {f : α → Except Failure β} :
    Harmless (x >>= f) ↔ Harmless x ∧ ∀ a, x = .ok a → Harmless (f a) :=
  ErrsOnly.bind_iff

@[simp] theorem map_iff {x : Except Failure α} (f : α → β) :
    Harmless (x.map f) ↔ Harmless x :=
  ErrsOnly.map_iff f

@[simp] theorem functorMap_iff {x : Except Failure α} (f : α → β) :
    Harmless (f <$> x) ↔ Harmless x :=
  map_iff f

@[simp] theorem mapM {f : α → Except Failure β} {as : List α} (each : ∀ a, Harmless (f a)) :
    Harmless (as.mapM f) :=
  ErrsOnly.mapM each

end Harmless

@[simp] theorem isConnectionLoss_defect (d : Defect) :
    (Failure.defect d).isConnectionLoss = false := rfl

theorem isConnectionLoss_unforeseen (fault : FileFault) (p : Path) :
    (fault.unforeseen p).isConnectionLoss = false :=
  (fault.isDefect_unforeseen p).isConnectionLoss

theorem isConnectionLoss_toFailure (fault : FileFault) {e : LoaderError}
    (h : e.kind ≠ .connection) : (fault.toFailure e).isConnectionLoss = false := by
  cases fault <;> simp [FileFault.toFailure, Failure.isConnectionLoss, h]

namespace CatalogParameter

theorem harmless_mergeByName (source : String) (byName : List (Key × CatalogParameter))
    (declared : List ExtendedParameter) : Harmless (mergeByName source byName declared) := by
  induction declared generalizing byName with
  | nil => simp [mergeByName]
  | cons e es ih =>
    simp only [mergeByName, Harmless.bind_iff, Harmless.of_defective, Value.defective_asKey, true_and]
    intro name found
    split
    · simp [undeclared, LoaderError.ofSource, Failure.isConnectionLoss]
    · exact ih _

@[simp] theorem harmless_mergeAll (parameters : List CatalogParameter)
    (declared : List ExtendedParameter) (source : String) :
    Harmless (mergeAll parameters declared source) := by
  simp [mergeAll, harmless_mergeByName]

end CatalogParameter

namespace RoutineDoc

@[simp] theorem harmless_ofCatalog (dataType scale : Value) (source : String) :
    Harmless (SemanticType.ofCatalog dataType scale source) := by
  unfold SemanticType.ofCatalog
  split
  · split
    · simp
    · split <;> simp [SemanticType.unsupported, Failure.isConnectionLoss]
  · simp
  · simp
  · simp [SemanticType.unsupported, Failure.isConnectionLoss]

@[simp] theorem harmless_ofComment (label : String) (comment : DocComment)
    (parameters : List CatalogParameter) : Harmless (ofComment label comment parameters) := by
  simp [ofComment, wrapperParameter]

end RoutineDoc

@[simp] theorem RecordStore.harmless_load (fs : FileSystem) (p : Path) : Harmless (load fs p) :=
  (ofStore_load fs p).mono fun _ => Failure.OfStore.isConnectionLoss

@[simp] theorem RoutineSource.harmless_load (fs : FileSystem) (p : Path) (extension : String) :
    Harmless (RoutineSource.load fs p extension) := by
  unfold RoutineSource.load
  split
  · rw [Harmless.error_iff]
    exact isConnectionLoss_toFailure _ (by simp [RoutineSource.unreadable, LoaderError.ofSource])
  · split <;> simp [RoutineSource.undecodable, LoaderError.ofSource, Failure.isConnectionLoss]

@[simp] theorem harmless_createStatement (layer : Sql.DataLayer) (directory : List String)
    (source : RoutineSource) (a : Annotations) :
    Harmless (createStatement layer directory source a) := by
  have constants : Harmless
      (Substitution.sourceConstants layer.quote directory source a.routineName) := by
    unfold Substitution.sourceConstants
    dsimp only
    split
    · simp
    · simp
  simp [createStatement, Substitution.source, constants]

theorem Annotations.kind_of_error {source : RoutineSource} {table : ReplaceTable}
    {e : LoaderError} (h : ofSource source table = .error e) : e.kind.isParse = true := by
  rcases bind_eq_error.1 h with resolving | ⟨placeholders, -, rest⟩
  · simp only [Placeholder.resolve] at resolving
    split at resolving <;> cases resolving
    rfl
  rcases bind_eq_error.1 rest with designating | ⟨⟨designation, line⟩, -, rest⟩
  · obtain ⟨fault, -, rfl⟩ := mapError_eq_error.1 designating
    rfl
  rcases bind_eq_error.1 rest with heading | ⟨header, -, rest⟩
  · obtain ⟨fault, -, rfl⟩ := mapError_eq_error.1 heading
    rfl
  rcases bind_eq_error.1 rest with declaring | ⟨parameters, -, last⟩
  · unfold ListParameter.ofSource at declaring
    split at declaring
    · cases declaring
      rfl
    · obtain ⟨fault, -, rfl⟩ := mapError_eq_error.1 declaring
      cases fault <;> rfl
  · cases last

namespace Json

def Output.Harmless (o : Output) : Prop := ∀ e, o.failure = some e → e.isConnectionLoss = false

theorem harmless_render (v : Value) : (render v).Harmless :=
  fun e failed => (defective_render v e failed).isConnectionLoss

end Json

end StoredRoutines
