import StoredRoutines.Proofs.Harmless
import StoredRoutines.Proofs.KeyOrder
import StoredRoutines.Proofs.Traces

/-!
Traces of the parts of the loader. A property of traces that allows quiet ones, and that allows what
a data layer does with one statement, holds of everything that the loader does before the store is
written.
-/

namespace StoredRoutines

open TraceProperty Loader

namespace TraceProperty

structure AllowsQuiet (P : TraceProperty) : Prop where
  composes : Composes P
  quiet : ∀ w r es, Quiet w r es → P w r es

/-- The property also holds of what the data layer does with one statement, and it does not depend
on a failure that keeps the connection. -/
structure Accepts (P : TraceProperty) (layer : Sql.DataLayer) : Prop extends AllowsQuiet P where
  execute : ∀ sql, (layer.execute sql).Traces P
  rows : ∀ sql, (layer.rows sql).Traces P
  scalar : ∀ sql, (layer.scalar sql).Traces P
  forget : ∀ w e es, e.isConnectionLoss = false → P w (some e) es → P w none es

theorem allowsQuiet_quiet : AllowsQuiet Quiet := ⟨quiet_composes, fun _ _ _ h => h⟩

variable {P : TraceProperty} {α β : Type}

theorem AllowsQuiet.ofExcept (h : AllowsQuiet P) {r : Except Failure α} (harmless : Harmless r) :
    (Loader.ofExcept r).Traces P := by
  refine traces_ofExcept h.composes (fun e w failed => h.quiet w _ _ ⟨rfl, ?_⟩)
  intro e' same
  cases same
  exact harmless e failed

theorem AllowsQuiet.fail (h : AllowsQuiet P) {e : Failure} (harmless : e.isConnectionLoss = false) :
    (Loader.fail e : Loader α).Traces P :=
  h.ofExcept (r := .error e) (by simpa using harmless)

theorem AllowsQuiet.log (h : AllowsQuiet P) (level : LogLevel) (channel : Channel)
    (text : String) : (Loader.log level channel text).Traces P :=
  (traces_log_quiet level channel text).mono h.quiet

theorem AllowsQuiet.pure (h : AllowsQuiet P) (a : α) : (Pure.pure a : Loader α).Traces P :=
  traces_pure h.composes a

theorem AllowsQuiet.bind (h : AllowsQuiet P) {x : Loader α} {f : α → Loader β}
    (hx : x.Traces P) (hf : ∀ a, (f a).Traces P) : (x >>= f).Traces P :=
  Traces.bind h.composes hx hf

end TraceProperty

variable {P : TraceProperty} {layer : Sql.DataLayer}

theorem Loader.traces_getFiles {α : Type} {f : FileSystem → Loader α}
    (each : ∀ fs, (f fs).Traces P) : (Loader.getFiles >>= f).Traces P := by
  intro w
  exact each w.files w

theorem RoutineResult.traces_failed (h : AllowsQuiet P) (path : Path) (name : String)
    (reason : Option StaleReason) (remade : Bool) (error : LoaderError) :
    (RoutineResult.failed path name reason remade error).Traces P :=
  h.bind (h.log _ _ _) (fun _ => h.pure _)

theorem SourceSearch.traces_run (h : AllowsQuiet P) (directory : Path) (extension : String) :
    (SourceSearch.run directory extension).Traces P := by
  refine traces_getFiles (fun fs => ?_)
  split
  · exact h.fail (isConnectionLoss_unforeseen _ _)
  · exact h.bind (h.ofExcept (.of_defective (SourceSearch.defective_pattern extension))) (fun _ => h.pure _)
  · exact h.bind (h.log _ _ _) (fun _ => h.pure _)

theorem Batch.traces_paths (h : AllowsQuiet P) (settings : LoaderSettings)
    (only : Option (List Path)) : (Batch.paths settings only).Traces P := by
  cases only with
  | some only => exact h.pure _
  | none => exact SourceSearch.traces_run h _ _

theorem Batch.traces_rejectDuplicates (h : AllowsQuiet P) (groups : List (String × List Path)) :
    (Batch.rejectDuplicates groups).Traces P :=
  traces_mapM h.composes (fun _ _ => RoutineResult.traces_failed h _ _ _ _ _)

theorem Constants.traces_read (h : AllowsQuiet P) (p : Path) : (Constants.read p).Traces P := by
  have reporting (lines : List Constants.Line) : (Constants.report p lines).Traces P :=
    traces_forM h.composes (fun _ _ => h.log _ _ _)
  refine traces_getFiles (fun fs => ?_)
  split
  · exact h.fail (isConnectionLoss_toFailure _ (by simp [Constants.unreadable]))
  · split
    · exact h.bind (reporting _) (fun _ => h.pure _)
    · exact h.bind (reporting _) (fun _ => h.fail rfl)

theorem RecordStore.traces_read (h : AllowsQuiet P) (p : Path) :
    (RecordStore.read p).Traces P :=
  traces_getFiles (fun fs => h.ofExcept (RecordStore.harmless_load fs p))

theorem RoutineCatalog.traces_fetch (h : Accepts P layer) :
    (RoutineCatalog.fetch layer).Traces P :=
  h.bind (h.rows _) (fun rows => h.ofExcept (.of_defective (RoutineCatalog.defective_ofRows rows)))

theorem ReplaceTable.traces_build (h : Accepts P layer) (constants : Option Path) :
    (ReplaceTable.build layer constants).Traces P := by
  have types : (ColumnTypes.fetch layer).Traces P := by
    refine h.bind (h.rows _) (fun rows => ?_)
    exact h.bind (h.ofExcept (by simp)) (fun _ => h.pure _)
  refine h.bind types (fun types => ?_)
  cases constants with
  | none => exact h.bind (h.pure _) (fun _ => h.bind (h.log _ _ _) (fun _ => h.pure _))
  | some p =>
    refine h.bind (Constants.traces_read h.toAllowsQuiet p) (fun _ => ?_)
    exact h.bind (h.log _ _ _) (fun _ => h.pure _)

theorem Batch.traces_prepare (h : Accepts P layer) (settings : LoaderSettings) :
    (Batch.prepare settings layer).Traces P := by
  refine h.bind (RecordStore.traces_read h.toAllowsQuiet _) (fun store => ?_)
  refine h.bind (RoutineCatalog.traces_fetch h) (fun catalog => ?_)
  exact h.bind (ReplaceTable.traces_build h _) (fun table => h.pure _)

theorem traces_dropRoutine (h : Accepts P layer) (type name : Value) :
    (dropRoutine layer type name).Traces P := by
  refine h.bind (h.ofExcept (.of_defective (defective_dropStatement type name))) (fun sql => ?_)
  exact h.bind (h.execute sql) (fun _ => h.pure _)

theorem SessionSettings.traces_apply (h : Accepts P layer) (session : SessionSettings) :
    (session.apply layer).Traces P :=
  traces_forM h.composes (fun sql _ => h.execute sql)

theorem traces_loadRoutine (h : Accepts P layer) (source : RoutineSource) (a : Annotations)
    (session : SessionSettings) (entry : Option CatalogEntry) :
    (loadRoutine layer source a session entry).Traces P := by
  refine h.bind (h.log _ _ _) (fun _ => traces_getFiles (fun fs => ?_))
  refine h.bind (h.ofExcept (harmless_createStatement layer _ source a)) (fun sql => ?_)
  have making : (session.apply layer >>= fun _ => layer.execute sql >>= fun _ =>
      pure sql).Traces P := by
    refine h.bind (SessionSettings.traces_apply h session) (fun _ => ?_)
    exact h.bind (h.execute sql) (fun _ => h.pure _)
  cases entry with
  | none => exact making
  | some entry =>
    exact h.bind (traces_dropRoutine h _ _) (fun _ => making)

theorem RoutineDoc.traces_build (h : AllowsQuiet P) (source : RoutineSource)
    (parameters : List CatalogParameter) : (RoutineDoc.build source parameters).Traces P := by
  refine h.bind (h.ofExcept (by simp)) (fun doc => ?_)
  refine h.bind (h.ofExcept (by simp)) (fun names => ?_)
  refine h.bind ?_ (fun _ => h.pure _)
  exact h.bind (traces_forM h.composes (fun _ _ => h.log _ _ _)) (fun _ => h.pure _)

namespace Compile

theorem traces_examine (h : AllowsQuiet P) (settings : LoaderSettings) (path : Path)
    (record : Option BuildRecord) (table : ReplaceTable) (entry : Option CatalogEntry) :
    (examine settings path record table entry).Traces P := by
  refine traces_getFiles (fun fs => ?_)
  refine h.bind (h.ofExcept (RoutineSource.harmless_load fs path _)) (fun source => ?_)
  exact h.bind (h.ofExcept (by simp)) (fun judged => h.pure _)

theorem traces_make (h : Accepts P layer) (settings : LoaderSettings) (source : RoutineSource)
    (table : ReplaceTable) (entry : Option CatalogEntry) :
    (make settings layer source table entry).Traces P := by
  unfold make
  split
  · rename_i e failed
    have parse := Annotations.kind_of_error failed
    have other : e.kind ≠ .connection := by
      intro lost
      rw [lost] at parse
      cases parse
    exact h.fail (by simpa [Failure.isConnectionLoss] using other)
  · exact h.bind (traces_loadRoutine h _ _ _ _) (fun _ => h.pure _)

theorem traces_describe (h : Accepts P layer) (source : RoutineSource) (a : Annotations)
    (bulk : (bulkColumns layer source a).Traces P) : (describe layer source a).Traces P := by
  have fetching : (CatalogParameter.fetch layer a.routineName).Traces P :=
    h.bind (h.rows _) (fun rows => h.ofExcept (by simp))
  refine h.bind fetching (fun reported => ?_)
  refine h.bind (h.ofExcept (by simp)) (fun parameters => ?_)
  refine h.bind bulk (fun columns => ?_)
  exact h.bind (RoutineDoc.traces_build h.toAllowsQuiet source parameters) (fun doc => h.pure _)

/-- What follows a part of a build passes on the loss of the connection. -/
theorem traces_rescued {α : Type} (h : Accepts P layer) {x : Loader α} (hx : x.Traces P)
    {next : α → Loader RoutineResult} (value : ∀ a, (next a).Traces P) (path : Path)
    (name : String) (reason : Option StaleReason) (remade : Bool)
    {k : Except Failure α → Loader RoutineResult} (ok : ∀ a, k (.ok a) = next a)
    (error : ∀ e, k (.error e) = stop path name reason remade e) :
    (x.attempt >>= k).Traces P := by
  refine Traces.rescue h.composes (fun e => e.isConnectionLoss = true) hx ?_ ?_ ?_ ?_
  · intro a
    rw [ok]
    exact value a
  · intro e w lost
    rw [error, stop, if_pos lost]
    rfl
  · intro w e es kept holds
    exact h.forget w e es (by simpa using kept) holds
  · intro e kept
    rw [error, stop, if_neg kept]
    exact RoutineResult.traces_failed h.toAllowsQuiet _ _ _ _ _

theorem traces_rebuild (h : Accepts P layer) (settings : LoaderSettings)
    (bulk : ∀ source a, (bulkColumns layer source a).Traces P) (source : RoutineSource)
    (table : ReplaceTable) (entry : Option CatalogEntry) (reason : StaleReason) :
    (rebuild settings layer source table entry reason).Traces P := by
  refine traces_rescued h (traces_make h settings source table entry) (fun a => ?_) _ _ _ _
    (fun _ => rfl) (fun _ => rfl)
  exact traces_rescued h (traces_describe h source a (bulk source a)) (fun _ => h.pure _) _ _ _ _
    (fun _ => rfl) (fun _ => rfl)

end Compile

theorem traces_compile (h : Accepts P layer) (settings : LoaderSettings)
    (bulk : ∀ source a, (Compile.bulkColumns layer source a).Traces P) (path : Path)
    (record : Option BuildRecord) (table : ReplaceTable) (entry : Option CatalogEntry) :
    (compile settings layer path record table entry).Traces P := by
  let next : RoutineSource × Freshness → Loader RoutineResult
    | (_, .upToDate record) => do
      Loader.log .debug .batch (routineName path settings.extension ++ " is up to date")
      return ⟨path, routineName path settings.extension, .upToDate record⟩
    | (source, .stale reason) => Compile.rebuild settings layer source table entry reason
  have examined := Compile.traces_examine h.toAllowsQuiet settings path record table entry
  have value (found : RoutineSource × Freshness) : (next found).Traces P := by
    obtain ⟨source, record | reason⟩ := found
    · exact h.bind (h.log _ _ _) (fun _ => h.pure _)
    · exact Compile.traces_rebuild h settings bulk source table entry reason
  refine Compile.traces_rescued h examined value path (routineName path settings.extension) none
    false ?_ (fun _ => rfl)
  rintro ⟨source, record | reason⟩ <;> rfl

theorem traces_assess (h : AllowsQuiet P) (settings : LoaderSettings) (path : Path)
    (record : Option BuildRecord) (table : ReplaceTable) (entry : Option CatalogEntry) :
    (assess settings path record table entry).Traces P := by
  refine traces_getFiles (fun fs => ?_)
  have loading := RoutineSource.harmless_load fs path settings.extension
  split
  · exact RoutineResult.traces_failed h _ _ _ _ _
  · rename_i e _ failed
    exact h.fail (loading e failed)
  · rename_i source _
    refine h.bind (h.ofExcept (by simp)) (fun judged => ?_)
    split
    · exact h.bind (h.log _ _ _) (fun _ => h.pure _)
    · split
      · exact RoutineResult.traces_failed h _ _ _ _ _
      · exact h.bind (h.log _ _ _) (fun _ => h.pure _)

namespace Batch

theorem traces_routine (h : Accepts P layer) (settings : LoaderSettings)
    (bulk : ∀ source a, (Compile.bulkColumns layer source a).Traces P) (start : Start)
    (source : String × Path) : (routine settings layer start source).Traces P := by
  unfold routine
  dsimp only
  split
  · exact traces_assess h.toAllowsQuiet _ _ _ _ _
  · exact traces_compile h settings bulk _ _ _ _

theorem traces_dropObsolete (h : Accepts P layer) (entry : CatalogEntry) (name : Atom) :
    (dropObsolete layer entry name).Traces P := by
  refine Traces.rescue h.composes (fun e => e.isConnectionLoss = true)
    (traces_dropRoutine h entry.routineType (.atom name)) ?_ ?_ ?_ ?_
  · intro sql
    exact h.bind (h.log _ _ _) (fun _ => h.pure _)
  · intro e w lost
    cases e with
    | defect d => cases lost
    | error e =>
      have kind : e.kind = .connection := by simpa [Failure.isConnectionLoss] using lost
      simp [kind]
  · intro w e es kept holds
    exact h.forget w e es (by simpa using kept) holds
  · intro e kept
    have kept : e.isConnectionLoss = false := by simpa using kept
    cases e with
    | defect d => exact h.fail kept
    | error e =>
      dsimp only
      split
      · exact h.bind (h.log _ _ _) (fun _ => h.pure _)
      · exact h.fail kept

theorem traces_obsolete (h : Accepts P layer) (settings : LoaderSettings)
    (catalog : RoutineCatalog) (name : Atom) : (obsolete settings layer catalog name).Traces P := by
  unfold obsolete
  split
  · exact h.pure _
  · split
    · exact h.bind (h.log _ _ _) (fun _ => h.pure _)
    · exact h.bind (traces_dropObsolete h _ _) (fun _ => h.pure _)

theorem traces_dropAllObsolete (h : AllowsQuiet P) {settings : LoaderSettings}
    {catalog : RoutineCatalog} {known : List String}
    (each : settings.dropsObsolete = true → ∀ name ∈ obsoleteNames catalog known,
      (obsolete settings layer catalog name).Traces P) :
    (dropAllObsolete settings layer catalog known).Traces P := by
  unfold dropAllObsolete
  split
  · rename_i cleans
    refine (h.ofExcept (by simp)).bind_of h.composes fun w names u run => ?_
    have sorted := (Prod.mk.inj ((run_ofExcept _ _).symm.trans run)).1
    refine h.bind (traces_mapM h.composes fun name place => ?_) fun _ => h.pure _
    exact each cleans name ((Atom.mem_of_inOrder sorted).1 place)
  · exact h.pure _

theorem traces_prune (h : AllowsQuiet P) (store : RecordStore) (known : List String) :
    (prune store known).Traces P := by
  refine h.bind (h.ofExcept (by simp)) (fun gone => ?_)
  exact h.bind (traces_forM h.composes (fun _ _ => h.log _ _ _)) (fun _ => h.pure _)

/-- Cleaning up has a property of traces if each drop of an obsolete routine has it. -/
theorem traces_cleanUp (h : AllowsQuiet P) {settings : LoaderSettings} {catalog : RoutineCatalog}
    {results : List RoutineResult} (store : RecordStore)
    (each : settings.dropsObsolete = true →
      ∀ name ∈ obsoleteNames catalog (results.map (·.name)),
        (obsolete settings layer catalog name).Traces P) :
    (cleanUp settings layer catalog results store).Traces P := by
  refine h.bind (traces_dropAllObsolete h each) (fun dropped => ?_)
  exact h.bind (traces_prune h _ _) (fun store => h.pure _)

theorem traces_settle (h : Accepts P layer) (settings : LoaderSettings)
    (bulk : ∀ source a, (Compile.bulkColumns layer source a).Traces P)
    (only : Option (List Path)) : (settle settings layer only).Traces P := by
  refine h.bind (traces_paths h.toAllowsQuiet settings only) (fun paths => ?_)
  refine h.bind (traces_rejectDuplicates h.toAllowsQuiet _) (fun rejected => ?_)
  refine h.bind (traces_prepare h settings) (fun start => ?_)
  refine h.bind (traces_mapM h.composes (fun source _ => ?_)) (fun handled => ?_)
  · exact traces_routine h settings bulk start source
  · cases only with
    | some only => exact h.bind (h.pure _) (fun _ => h.pure _)
    | none =>
      exact h.bind (traces_cleanUp h.toAllowsQuiet _ fun _ name _ =>
        traces_obsolete h settings start.catalog name) (fun _ => h.pure _)

end Batch

end StoredRoutines
