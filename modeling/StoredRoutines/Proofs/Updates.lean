import StoredRoutines.Proofs.ConnectionLoss
import StoredRoutines.Proofs.HandedOver
import StoredRoutines.Proofs.KeyOrder
import StoredRoutines.Proofs.ScalarBatches

/-!
What becomes of the records of a batch. Once its routines are handled, a batch can only fail for the
connection, for the store, or for an obsolete routine that no statement can be written to drop. So
without these its new records are in the store; but one such obsolete routine loses all of them.
-/

namespace StoredRoutines

open Loader

namespace Loader

/-- The computation fails with nothing but the loss of the connection. -/
def LosesAtWorst {α : Type} (x : Loader α) : Prop :=
  ∀ w e v, x.run w = (.error e, v) → e.isConnectionLoss = true

namespace LosesAtWorst

variable {α β : Type}

theorem pure (a : α) : (Pure.pure a : Loader α).LosesAtWorst := FailsOnly.pure a

theorem log (level : LogLevel) (channel : Channel) (text : String) :
    (Loader.log level channel text).LosesAtWorst :=
  FailsOnly.log level channel text

theorem fail {e : Failure} (lost : e.isConnectionLoss = true) :
    (Loader.fail e : Loader α).LosesAtWorst :=
  FailsOnly.fail lost

theorem ofExcept {r : Except Failure α} {a : α} (h : r = .ok a) :
    (Loader.ofExcept r).LosesAtWorst := by
  rw [h]
  exact pure a

theorem attempt (x : Loader α) : x.attempt.LosesAtWorst := FailsOnly.attempt x

theorem bind_of {x : Loader α} {f : α → Loader β} (hx : x.LosesAtWorst)
    (hf : ∀ w a u, x.run w = (.ok a, u) → (f a).LosesAtWorst) : (x >>= f).LosesAtWorst :=
  FailsOnly.bind_of hx hf

theorem bind {x : Loader α} {f : α → Loader β} (hx : x.LosesAtWorst)
    (hf : ∀ a, (f a).LosesAtWorst) : (x >>= f).LosesAtWorst :=
  hx.bind_of fun _ a _ _ => hf a

theorem mapM {f : α → Loader β} {as : List α} (h : ∀ a ∈ as, (f a).LosesAtWorst) :
    (as.mapM f).LosesAtWorst :=
  FailsOnly.mapM h

theorem forM {f : α → Loader Unit} {as : List α} (h : ∀ a ∈ as, (f a).LosesAtWorst) :
    (as.forM f).LosesAtWorst :=
  FailsOnly.forM h

end LosesAtWorst

end Loader

open Loader

namespace Compile

theorem losesAtWorst_stop (path : Path) (name : String) (reason : Option StaleReason)
    (remade : Bool) (failure : Failure) :
    (stop path name reason remade failure).LosesAtWorst := by
  unfold stop
  split
  · rename_i lost
    exact .fail lost
  · exact (LosesAtWorst.log _ _ _).bind (fun _ => .pure _)

theorem losesAtWorst_rebuild (settings : LoaderSettings) (layer : Sql.DataLayer)
    (source : RoutineSource) (table : ReplaceTable) (entry : Option CatalogEntry)
    (reason : StaleReason) :
    (rebuild settings layer source table entry reason).LosesAtWorst := by
  refine (LosesAtWorst.attempt _).bind (fun made => ?_)
  cases made with
  | error e => exact losesAtWorst_stop _ _ _ _ _
  | ok a =>
    refine (LosesAtWorst.attempt _).bind (fun described => ?_)
    cases described with
    | error e => exact losesAtWorst_stop _ _ _ _ _
    | ok d => exact .pure _

end Compile

/-- Whatever happens to a source, only the loss of the connection ends the batch. -/
theorem losesAtWorst_compile (settings : LoaderSettings) (layer : Sql.DataLayer) (path : Path)
    (record : Option BuildRecord) (table : ReplaceTable) (entry : Option CatalogEntry) :
    (compile settings layer path record table entry).LosesAtWorst := by
  refine (LosesAtWorst.attempt _).bind (fun examined => ?_)
  rcases examined with e | ⟨source, record | reason⟩
  · exact Compile.losesAtWorst_stop _ _ _ _ _
  · exact (LosesAtWorst.log _ _ _).bind (fun _ => .pure _)
  · exact Compile.losesAtWorst_rebuild _ _ _ _ _ _

/-- Statements fail with errors of the data layer only. -/
def Sql.Database.FailsAsDataLayer (db : Sql.Database) : Prop :=
  ∀ before sql e, db.failure before sql = some e → e.kind.isDataLayer = true

namespace Batch

variable {settings : LoaderSettings} {db : Sql.Database}

/-- The routines can be put in order, and a statement can be written to drop each of them. -/
structure Droppable (catalog : RoutineCatalog) (names : List Atom) : Prop where
  comparable : Atom.areComparable names = true
  statement : ∀ name ∈ names, ∀ entry, catalog.lookup ⟨name⟩ = some entry →
    ∃ sql, dropStatement entry.routineType (.atom name) = .ok sql

theorem run_dropRoutine_of_written {type name : Value} {sql : String}
    (written : dropStatement type name = .ok sql) (w : World) :
    (dropRoutine db.layer type name).run w =
      ((db.failure w.statements sql).elim (.ok sql) fun e => .error (.error e),
        w.after [.statement sql]) := by
  have step : (dropRoutine db.layer type name).run w =
      (db.layer.execute sql >>= fun _ => pure sql).run w :=
    run_bind_of_ok (by rw [run_ofExcept, written])
  rw [step]
  cases failed : db.failure w.statements sql with
  | none => exact run_bind_of_ok (Sql.Database.run_execute_of_none failed)
  | some e => exact run_bind_of_error (Sql.Database.run_execute_of_some failed)

theorem run_dropRoutine_error {type name : Value} {sql : String}
    (written : dropStatement type name = .ok sql) {w v : World} {e : Failure}
    (run : (dropRoutine db.layer type name).run w = (.error e, v)) :
    ∃ e', e = .error e' ∧ db.failure w.statements sql = some e' := by
  rw [run_dropRoutine_of_written written] at run
  cases failed : db.failure w.statements sql with
  | none =>
    rw [failed] at run
    cases run
  | some e' =>
    rw [failed] at run
    cases run
    exact ⟨e', rfl, rfl⟩

theorem losesAtWorst_dropObsolete (honest : db.FailsAsDataLayer) {entry : CatalogEntry}
    {name : Atom} {sql : String} (written : dropStatement entry.routineType (.atom name) = .ok sql) :
    (dropObsolete db.layer entry name).LosesAtWorst := by
  refine (LosesAtWorst.attempt _).bind_of (fun w a u run => ?_)
  cases a with
  | ok _ => exact (LosesAtWorst.log _ _ _).bind (fun _ => .pure _)
  | error e =>
    obtain ⟨e', rfl, failed⟩ := run_dropRoutine_error written (run_attempt_eq_ok.1 run)
    have kind := honest _ _ _ failed
    simp only
    split
    · exact (LosesAtWorst.log _ _ _).bind (fun _ => .pure _)
    · rename_i other
      refine .fail ?_
      cases same : e'.kind <;> simp_all [ErrorKind.isDataLayer, Failure.isConnectionLoss]

theorem losesAtWorst_obsolete (honest : db.FailsAsDataLayer) {catalog : RoutineCatalog} {name : Atom}
    (statement : ∀ entry, catalog.lookup ⟨name⟩ = some entry →
      ∃ sql, dropStatement entry.routineType (.atom name) = .ok sql) :
    (obsolete settings db.layer catalog name).LosesAtWorst := by
  unfold obsolete
  split
  · exact .pure _
  · rename_i entry found
    obtain ⟨sql, written⟩ := statement entry found
    split
    · exact (LosesAtWorst.log _ _ _).bind (fun _ => .pure _)
    · exact (losesAtWorst_dropObsolete honest written).bind (fun _ => .pure _)

theorem losesAtWorst_dropAllObsolete (honest : db.FailsAsDataLayer) {catalog : RoutineCatalog}
    {known : List String} (droppable : settings.dropsObsolete = true →
      Droppable catalog (obsoleteNames catalog known)) :
    (dropAllObsolete settings db.layer catalog known).LosesAtWorst := by
  unfold dropAllObsolete
  split
  · rename_i drops
    obtain ⟨comparable, statement⟩ := droppable drops
    have sorted : Atom.inOrder (obsoleteNames catalog known) =
        .ok ((obsoleteNames catalog known).mergeSort Atom.precedes) := if_pos comparable
    refine (LosesAtWorst.ofExcept sorted).bind_of (fun w names u run => ?_)
    rw [sorted] at run
    cases run
    refine (LosesAtWorst.mapM fun name place => ?_).bind (fun _ => .pure _)
    exact losesAtWorst_obsolete honest (statement name (List.mem_mergeSort.1 place))
  · exact .pure _

theorem losesAtWorst_prune {store : RecordStore} {known : List String}
    (texts : ∀ k ∈ Assoc.keys store, k.isText = true) : (prune store known).LosesAtWorst := by
  have comparable : Atom.areComparable
      ((Assoc.keys store).filter fun n => !isKnown known n) = true := by
    have all : ((Assoc.keys store).filter fun n => !isKnown known n).all Atom.isText = true :=
      List.all_eq_true.2 fun k member => texts k (List.mem_filter.1 member).1
    simp [Atom.areComparable, all]
  refine (LosesAtWorst.ofExcept (if_pos comparable)).bind (fun gone => ?_)
  exact (LosesAtWorst.forM fun n _ => .log _ _ _).bind (fun _ => .pure _)

/-- Everything before the routines are handled: what is found, what is rejected, what is known. -/
def opening (settings : LoaderSettings) (layer : Sql.DataLayer) (only : Option (List Path)) :
    Loader (List Path × List RoutineResult × Start) := do
  let paths ← paths settings only
  let rejected ← rejectDuplicates (groups settings.extension paths)
  return (paths, rejected, ← prepare settings layer)

theorem steps_of_opening {layer : Sql.DataLayer} {only : Option (List Path)} {paths : List Path}
    {rejected : List RoutineResult} {start : Start} {w u : World}
    (opened : (opening settings layer only).run w = (.ok (paths, rejected, start), u)) :
    ∃ v v', (Batch.paths settings only).run w = (.ok paths, v) ∧
      (rejectDuplicates (groups settings.extension paths)).run v = (.ok rejected, v') ∧
      (prepare settings layer).run v' = (.ok start, u) := by
  obtain ⟨_, v, found, rest⟩ := run_bind_eq_ok.1 opened
  obtain ⟨_, v', rejecting, rest⟩ := run_bind_eq_ok.1 rest
  obtain ⟨_, _, preparing, last⟩ := run_bind_eq_ok.1 rest
  cases last
  exact ⟨v, v', found, rejecting, preparing⟩

theorem traces_opening {P : TraceProperty} {layer : Sql.DataLayer} (h : P.Accepts layer)
    (settings : LoaderSettings) (only : Option (List Path)) :
    (opening settings layer only).Traces P :=
  h.bind (traces_paths h.toAllowsQuiet settings only) fun _ =>
    h.bind (traces_rejectDuplicates h.toAllowsQuiet _) fun _ =>
      h.bind (traces_prepare h settings) fun _ => h.pure _

def proceeding (settings : LoaderSettings) (layer : Sql.DataLayer) (only : Option (List Path))
    (paths : List Path) (rejected : List RoutineResult) (start : Start) : Loader Settled := do
  let handled ← (sources (groups settings.extension paths)).mapM (routine settings layer start)
  let results := sortResults (rejected ++ handled)
  let store := handled.foldl keep start.store
  let (dropped, store) ←
    if only.isNone then cleanUp settings layer start.catalog results store
    else pure ([], store)
  return ⟨⟨results, dropped, settings.dryRun⟩, store⟩

theorem settle_eq (settings : LoaderSettings) (layer : Sql.DataLayer)
    (only : Option (List Path)) : settle settings layer only =
      opening settings layer only >>= fun o => proceeding settings layer only o.1 o.2.1 o.2.2 := by
  simp only [settle, opening, proceeding, bind_assoc, pure_bind]

theorem run_settle_of_opening {only : Option (List Path)} {paths : List Path}
    {rejected : List RoutineResult} {start : Start} {w u v : World} {r : Except Failure Settled}
    (opened : (opening settings db.layer only).run w = (.ok (paths, rejected, start), u))
    (proceeded : (proceeding settings db.layer only paths rejected start).run u = (r, v)) :
    (settle settings db.layer only).run w = (r, v) := by
  rw [settle_eq, run_bind_of_ok opened]
  exact proceeded

theorem run_settle_of_unopened {only : Option (List Path)} {w u : World} {e : Failure}
    (opened : (opening settings db.layer only).run w = (.error e, u)) :
    (settle settings db.layer only).run w = (.error e, u) := by
  rw [settle_eq]
  exact run_bind_of_error opened

theorem isKnown_results {extension : String} {paths : List Path}
    {rejected handled : List RoutineResult}
    (rejecting : RejectedBy (duplicates (groups extension paths)) rejected)
    (handling : HandledBy extension (sources (groups extension paths)) handled) (name : Atom) :
    isKnown ((sortResults (rejected ++ handled)).map (·.name)) name =
      isKnown (paths.map (routineName · extension)) name := by
  have covered := paths_of_results rejecting handling.isOf
  have named : ∀ r ∈ sortResults (rejected ++ handled), r.name = routineName r.path extension := by
    intro r member
    rcases mem_results.1 member with first | second
    · exact (fails_of_mem_rejected rejecting first).2
    · exact (alone_of_mem_handled handling second).1
  have same : ((sortResults (rejected ++ handled)).map (·.name)).Perm
      (paths.map (routineName · extension)) := by
    rw [List.map_congr_left named]
    simpa [Function.comp_def] using covered.map (routineName · extension)
  rw [Bool.eq_iff_iff, isKnown_iff, isKnown_iff]
  simp only [same.mem_iff]

theorem obsoleteNames_results {extension : String} {paths : List Path}
    {rejected handled : List RoutineResult}
    (rejecting : RejectedBy (duplicates (groups extension paths)) rejected)
    (handling : HandledBy extension (sources (groups extension paths)) handled)
    (catalog : RoutineCatalog) :
    obsoleteNames catalog ((sortResults (rejected ++ handled)).map (·.name)) =
      obsoleteNames catalog (paths.map (routineName · extension)) := by
  simp only [obsoleteNames, isKnown_results rejecting handling]

theorem texts_foldl_keep {store : RecordStore} (texts : ∀ k ∈ Assoc.keys store, k.isText = true)
    (handled : List RoutineResult) :
    ∀ k ∈ Assoc.keys (handled.foldl keep store), k.isText = true := by
  induction handled generalizing store with
  | nil => exact texts
  | cons r rest ih =>
    refine ih ?_
    unfold keep
    split
    · intro k member
      rcases Assoc.mem_keys_put.1 member with rfl | old
      · rfl
      · exact texts k old
    · exact texts

theorem losesAtWorst_handling (active : settings.dryRun = false) (layer : Sql.DataLayer)
    (sources : List (String × Path)) (start : Start) :
    (sources.mapM (routine settings layer start)).LosesAtWorst := by
  refine LosesAtWorst.mapM fun source _ => ?_
  simp only [routine, active]
  exact losesAtWorst_compile _ _ _ _ _ _

/-- From the routines on, a batch ends unless the connection is lost. -/
theorem losesAtWorst_proceeding (active : settings.dryRun = false) (honest : db.FailsAsDataLayer)
    {only : Option (List Path)} {paths : List Path} {rejected : List RoutineResult} {start : Start}
    (rejecting : RejectedBy (duplicates (groups settings.extension paths)) rejected)
    (texts : ∀ k ∈ Assoc.keys start.store, k.isText = true)
    (droppable : only = none → settings.dropsObsolete = true → Droppable start.catalog
      (obsoleteNames start.catalog (paths.map (routineName · settings.extension)))) :
    (proceeding settings db.layer only paths rejected start).LosesAtWorst := by
  refine (losesAtWorst_handling active _ _ _).bind_of fun w handled u run => ?_
  have handling := run_handle active run
  cases only with
  | some only => exact (LosesAtWorst.pure _).bind fun _ => .pure _
  | none =>
    refine LosesAtWorst.bind ?_ fun _ => .pure _
    refine (losesAtWorst_dropAllObsolete honest ?_).bind fun dropped => ?_
    · rw [obsoleteNames_results rejecting handling]
      exact droppable rfl
    · exact (losesAtWorst_prune (texts_foldl_keep texts handled)).bind fun _ => .pure _

end Batch

theorem Batch.record_of_settled {settings : LoaderSettings} (active : settings.dryRun = false)
    {layer : Sql.DataLayer} {only : Option (List Path)} {w v : World} {settled : Settled}
    (run : (settle settings layer only).run w = (.ok settled, v)) {r : RoutineResult}
    (member : r ∈ settled.batch.results) (fine : r.succeeded = true) :
    ∃ record, r.outcome.record? = some record ∧
      settled.records.lookup (.text r.name) = some record := by
  obtain ⟨paths, rejected, handled, start, parts⟩ := settling_of_run run
  obtain ⟨paths', previous, found, -, handed⟩ := run_settle active run
  obtain rfl := Except.ok.inj (parts.found.symm.trans found)
  refine handed.renewed r member ⟨fine, ?_⟩
  rw [parts.results] at member
  rcases mem_results.1 member with first | second
  · rw [(fails_of_mem_rejected parts.rejecting first).1] at fine
    cases fine
  · exact (alone_of_mem_handled (parts.handledBy active) second).2.1

/-- A batch during which no statement loses the connection does not fail for the connection. -/
theorem survives_of_calm {db : Sql.Database} {settings : LoaderSettings}
    {only : Option (List Path)} {w v : World} {result : Except Failure BatchResult}
    (run : (loadAll settings db.layer only).run w = (result, v))
    (calm : ∀ pre sql post, v.events = w.events ++ (pre ++ .statement sql :: post) →
      ¬ db.Loses (w.after pre).statements sql) {e : Failure} (failed : result = .error e) :
    e.isConnectionLoss = false := by
  subst failed
  obtain ⟨es, events, halting, -⟩ := run_loadAll_halting run
  rw [events] at calm
  by_contra loss
  have lost : e.isConnectionLoss = true := by simpa using loss
  obtain ⟨fs, gs, rfl, -, ending⟩ := (Sql.Database.halting_of_lost lost).1 halting
  rcases ending with ⟨sql, rfl, loses⟩ | ⟨table, sql, drop, -, -, rfl, loses, -⟩
  · exact calm fs sql [] rfl loses
  · exact calm fs sql [.statement drop] rfl loses

/-- A batch whose statements never lose the connection, and whose obsolete routines can all be
named in statements, ends, if the store can be written, with the record of every routine that did
not fail in the store. It does not matter which of the statements fail. -/
theorem loadAll_keeps_updates {db : Sql.Database} (honest : db.FailsAsDataLayer)
    {settings : LoaderSettings} (active : settings.dryRun = false) {only : Option (List Path)}
    {w u v : World} {paths : List Path} {rejected : List RoutineResult} {start : Batch.Start}
    {result : Except Failure BatchResult}
    (opened : (Batch.opening settings db.layer only).run w = (.ok (paths, rejected, start), u))
    (droppable : only = none → settings.dropsObsolete = true → Batch.Droppable start.catalog
      (Batch.obsoleteNames start.catalog (paths.map (routineName · settings.extension))))
    (run : (loadAll settings db.layer only).run w = (result, v))
    (calm : ∀ pre sql post, v.events = w.events ++ (pre ++ .statement sql :: post) →
      ¬ db.Loses (w.after pre).statements sql)
    (writable : ∀ settled v, (Batch.settle settings db.layer only).run w = (.ok settled, v) →
      ((settled.records.write settings.store).run v).1 = .ok ()) :
    ∃ batch records, result = .ok batch ∧ RecordStore.StandsIn v.files settings.store records ∧
      ∀ r ∈ batch.results, r.succeeded = true → ∃ record,
        r.outcome.record? = some record ∧ records.lookup (.text r.name) = some record := by
  obtain ⟨_, _, -, rejecting, preparing⟩ := Batch.steps_of_opening opened
  have rejecting := Batch.run_rejectDuplicates rejecting
  have proceeds := Batch.losesAtWorst_proceeding active honest rejecting
    (RecordStore.texts_load (Batch.steps_of_prepare preparing).1) droppable
  cases settling : (Batch.settle settings db.layer only).run w with
  | mk r t =>
    cases r with
    | error e =>
      have failing := settling
      rw [Batch.settle_eq, run_bind_of_ok opened] at failing
      -- A lost connection is all that can end the batch there, and no statement lost it.
      have lost := proceeds _ _ _ failing
      have ended : (loadAll settings db.layer only).run w = _ := run_bind_of_error settling
      rw [run] at ended
      rw [survives_of_calm run calm (Prod.mk.inj ended).1] at lost
      cases lost
    | ok settled =>
      have writing := run_eq_of_fst (writable settled t settling)
      have ended := (run_loadAll_eq_ok_iff active).2 ⟨_, t, _, settling, writing, rfl⟩
      rw [run] at ended
      obtain ⟨rfl, rfl⟩ := Prod.mk.inj ended
      exact ⟨_, settled.records, rfl, (RecordStore.standsIn_of_write writing).1,
        fun r => Batch.record_of_settled active settling⟩

namespace Sample

variable {first : List Sql.Row} {catalog : RoutineCatalog}

theorem run_opening (reported : RoutineCatalog.ofRows first = .ok catalog) : ∃ v,
    (Batch.opening settings (answering first).layer none).run (world text) =
        (.ok ([path], [], ⟨[], catalog, []⟩), v) ∧
      v.files = filesWith text := by
  have found : (Batch.paths settings none).run (world text) = (.ok [path], world text) := by
    have paths : ((Batch.paths settings none).run (world text)).1 = .ok [path] := by
      decide +kernel
    exact Prod.ext paths rfl
  have rejected : (Batch.rejectDuplicates (Batch.groups settings.extension [path])).run
      (world text) = (.ok [], world text) := by
    rw [Batch.rejectDuplicates, duplicates_path]
    rfl
  obtain ⟨es, prepared, -⟩ : ∃ es, (Batch.prepare settings (answering first).layer).run
      (world text) = (.ok ⟨[], catalog, []⟩, (world text).after es) ∧
        Event.statements es = [RoutineCatalog.query, ColumnTypes.query] :=
    Batch.run_prepare_of_ok settings (load_store text) rfl reported rfl rfl
  exact ⟨_, (run_bind_of_ok found).trans ((run_bind_of_ok rejected).trans
    (run_bind_of_ok prepared)), rfl⟩

theorem calm_answering (before : List String) (sql : String) :
    ¬ (answering first).Loses before sql := by
  rintro ⟨e, failed, -⟩
  cases failed

theorem run_write_settled (reported : RoutineCatalog.ofRows first = .ok catalog)
    (unknown : catalog.lookup ⟨.text "a"⟩ = none) {settled : Batch.Settled} {v : World}
    (settling : (Batch.settle settings (answering first).layer none).run (world text) =
      (.ok settled, v)) : ((settled.records.write settings.store).run v).1 = .ok () := by
  obtain ⟨t, opened, files⟩ := run_opening reported
  obtain ⟨u, made, -⟩ := run_routine_answering unknown files
  have handling : ((Batch.sources (Batch.groups settings.extension [path])).mapM
      (Batch.routine settings (answering first).layer ⟨[], catalog, []⟩)).run t =
        (.ok [loaded], u) := by
    rw [sources_path]
    exact run_mapM_eq_ok.2 (.cons made (.nil u))
  obtain ⟨es, step, -⟩ := (Batch.traces_settle Sql.Database.accepts_halting settings
    Compile.traces_bulkColumns none).of_run settling
  rw [Batch.settle_eq, run_bind_of_ok opened] at settling
  obtain ⟨handled, u', again, rest⟩ := run_bind_eq_ok.1 settling
  rw [handling] at again
  cases again
  obtain ⟨⟨dropped, kept⟩, u'', cleaning, last⟩ := run_bind_eq_ok.1 rest
  cases last
  have results : Batch.sortResults ([] ++ [loaded]) = [loaded] := List.mergeSort_singleton ..
  have all : kept = store := by
    rw [Batch.run_cleanUp cleaning, results]
    rfl
  rw [all]
  exact congrArg Prod.fst (run_write toValue_store complete_store (congrArg World.files step))

theorem droppable_catalogOf : Batch.Droppable (catalogOf "b")
    (Batch.obsoleteNames (catalogOf "b") ([path].map (routineName · settings.extension))) := by
  have obsolete : Batch.obsoleteNames (catalogOf "b")
      ([path].map (routineName · settings.extension)) = [.text "b"] := rfl
  rw [obsolete]
  refine ⟨rfl, fun name member entry found => ?_⟩
  obtain rfl := List.mem_singleton.1 member
  have there : (catalogOf "b").lookup ⟨.text "b"⟩ = some (entryOf "b") := rfl
  obtain rfl : entryOf "b" = entry := Option.some.inj (there.symm.trans found)
  exact ⟨"drop procedure if exists `b`", by decide +kernel⟩

end Sample

open Sample in
/-- A batch over the sample directory that finds an obsolete routine keeps its update. -/
theorem sample_keeps_update : ∃ result v batch records,
    (loadAll settings (answering [rowOf "b"]).layer none).run (world text) = (result, v) ∧
    result = .ok batch ∧ RecordStore.StandsIn v.files settings.store records ∧
    ∀ r ∈ batch.results, r.succeeded = true → ∃ record,
      r.outcome.record? = some record ∧ records.lookup (.text r.name) = some record := by
  obtain ⟨u, opened, -⟩ := run_opening (ofRows_rowOf "b")
  cases run : (loadAll settings (answering [rowOf "b"]).layer none).run (world text) with
  | mk result v =>
    have honest : (answering [rowOf "b"]).FailsAsDataLayer := by
      intro before sql e failed
      cases failed
    have unknown : (catalogOf "b").lookup ⟨.text "a"⟩ = none := by decide +kernel
    obtain ⟨batch, records, rest⟩ := loadAll_keeps_updates honest rfl opened
      (fun _ _ => droppable_catalogOf) run (fun _ _ _ _ => calm_answering _ _)
      (fun settled v settling => run_write_settled (ofRows_rowOf "b") unknown settling)
    exact ⟨result, v, batch, records, rfl, rest⟩

namespace Batch

variable {settings : LoaderSettings} {layer : Sql.DataLayer} {catalog : RoutineCatalog}
  {name : Atom} {entry : CatalogEntry} {d : Defect}

theorem run_obsolete_of_undroppable (active : settings.dryRun = false)
    (found : catalog.lookup ⟨name⟩ = some entry)
    (undroppable : dropStatement entry.routineType (.atom name) = .error (.defect d)) (w : World) :
    (obsolete settings layer catalog name).run w = (.error (.defect d), w) := by
  have unwritten : (dropRoutine layer entry.routineType (.atom name)).attempt.run w =
      (.ok (.error (.defect d)), w) := by
    rw [run_attempt_eq_ok, dropRoutine, undroppable]
    rfl
  have undropped : (dropObsolete layer entry name).run w = (.error (.defect d), w) :=
    run_bind_of_ok unwritten
  simp only [obsolete, found, active]
  exact run_bind_of_error undropped

/-- One obsolete routine that no statement can be written to drop keeps a batch over all sources
from settling, whichever routines it has made by then. -/
theorem unsettled_of_undroppable {paths : List Path} {rejected : List RoutineResult} {start : Start}
    (active : settings.dryRun = false) (drops : settings.dropsObsolete = true)
    (rejecting : RejectedBy (duplicates (groups settings.extension paths)) rejected)
    (stray : name ∈ obsoleteNames start.catalog (paths.map (routineName · settings.extension)))
    (found : start.catalog.lookup ⟨name⟩ = some entry)
    (undroppable : dropStatement entry.routineType (.atom name) = .error (.defect d))
    {w v : World} {settled : Settled} :
    (proceeding settings layer none paths rejected start).run w ≠ (.ok settled, v) := by
  intro run
  obtain ⟨handled, u, handling, rest⟩ := run_bind_eq_ok.1 run
  obtain ⟨_, _, cleaning, -⟩ := run_bind_eq_ok.1 rest
  obtain ⟨dropped, _, dropping, -⟩ := run_bind_eq_ok.1 cleaning
  simp only [dropAllObsolete, drops] at dropping
  obtain ⟨names, _, sorted, rest⟩ := run_bind_eq_ok.1 dropping
  obtain ⟨gone, _, mapped, -⟩ := run_bind_eq_ok.1 rest
  obtain ⟨ordered, rfl⟩ := Prod.mk.inj ((run_ofExcept _ _).symm.trans sorted)
  have here : name ∈ names := by
    rw [Atom.mem_of_inOrder ordered, obsoleteNames_results rejecting (run_handle active handling)]
    exact stray
  have each : List.Forall₂ (fun n _ => n ≠ name) names gone := by
    refine (run_mapM_eq_ok.1 mapped).forall₂ ?_
    rintro n b u v - ran rfl
    rw [run_obsolete_of_undroppable active found undroppable] at ran
    cases ran
  obtain ⟨_, -, other⟩ := Outcomes.exists_of_forall₂ each.flip here
  exact other rfl

end Batch

/-- A batch over all sources that finds an obsolete routine which no statement can be written to
drop fails, and leaves the store as it was. -/
theorem loadAll_fails_of_undroppable {db : Sql.Database} {settings : LoaderSettings}
    (active : settings.dryRun = false) (drops : settings.dropsObsolete = true) {w u v : World}
    {paths : List Path} {rejected : List RoutineResult} {start : Batch.Start}
    (opened : (Batch.opening settings db.layer none).run w = (.ok (paths, rejected, start), u))
    {name : Atom} (stray : name ∈ Batch.obsoleteNames start.catalog
      (paths.map (routineName · settings.extension)))
    {entry : CatalogEntry} (found : start.catalog.lookup ⟨name⟩ = some entry) {d : Defect}
    (undroppable : dropStatement entry.routineType (.atom name) = .error (.defect d))
    {result : Except Failure BatchResult}
    (run : (loadAll settings db.layer none).run w = (result, v)) :
    (∃ e, result = .error e) ∧ v.files = w.files := by
  obtain ⟨_, _, -, rejecting, -⟩ := Batch.steps_of_opening opened
  obtain ⟨es, step, -⟩ :=
    Batch.traces_settle Sql.Database.accepts_halting settings Compile.traces_bulkColumns none w
  cases settling : (Batch.settle settings db.layer none).run w with
  | mk r t =>
    rw [settling] at step
    cases r with
    | error e =>
      have ended : (loadAll settings db.layer none).run w = _ := run_bind_of_error settling
      rw [run] at ended
      obtain ⟨rfl, rfl⟩ := Prod.mk.inj ended
      simp only at step
      subst step
      exact ⟨⟨e, rfl⟩, rfl⟩
    | ok settled =>
      rw [Batch.settle_eq, run_bind_of_ok opened] at settling
      exact absurd settling (Batch.unsettled_of_undroppable active drops
        (Batch.run_rejectDuplicates rejecting) stray found undroppable)

open Sample in
/-- A batch makes its routine, no statement fails, and the store could be written. Yet the record of
the routine is lost, because a routine of another origin has a name that no statement can hold. -/
theorem updates_lost_to_stray : ∃ start r t u e v,
    (Batch.opening settings (answering [rowOf "my-proc"]).layer none).run (world text) =
      (.ok ([path], [], start), t) ∧
    (Batch.routine settings (answering [rowOf "my-proc"]).layer start ("a", path)).run t =
      (.ok r, u) ∧
    r.succeeded = true ∧ r.outcome.isRemade = true ∧
    (loadAll settings (answering [rowOf "my-proc"]).layer none).run (world text) =
      (.error e, v) ∧
    e.isConnectionLoss = false ∧ RecordStore.load v.files settings.store = .ok [] ∧
    (((Batch.keep start.store r).write settings.store).run v).1 = .ok () := by
  have found : (catalogOf "my-proc").lookup ⟨.text "my-proc"⟩ = some (entryOf "my-proc") := by
    decide +kernel
  have unknown : (catalogOf "my-proc").lookup ⟨.text "a"⟩ = none := by decide +kernel
  have stray : .text "my-proc" ∈ Batch.obsoleteNames (catalogOf "my-proc")
      ([path].map (routineName · settings.extension)) := by decide +kernel
  have undroppable : dropStatement (entryOf "my-proc").routineType (.atom (.text "my-proc")) =
      .error (.defect (.notIdentifier (.text "my-proc"))) := by decide +kernel
  obtain ⟨t, opened, files⟩ := run_opening (ofRows_rowOf "my-proc")
  obtain ⟨u, made, -⟩ := run_routine_answering unknown files
  cases run : (loadAll settings (answering [rowOf "my-proc"]).layer none).run (world text) with
  | mk result v =>
    obtain ⟨⟨e, rfl⟩, kept⟩ := loadAll_fails_of_undroppable rfl rfl opened stray found undroppable run
    have other := survives_of_calm run (fun _ _ _ _ => calm_answering _ _) rfl
    refine ⟨_, loaded, t, u, e, v, opened, made, rfl, rfl, rfl, other, ?_, ?_⟩
    · rw [kept]
      exact load_store text
    · exact congrArg Prod.fst (run_write toValue_store complete_store kept)

end StoredRoutines
