import StoredRoutines.Proofs.Accounts
import StoredRoutines.Proofs.DryRuns
import StoredRoutines.Proofs.Retries

/-!
Forecasts. A dry run foretells the batch from the same world: which sources fail before anything is
done about them and with what error, which are up to date, and which are loaded and why.
-/

namespace StoredRoutines

open Loader Outcomes

namespace Compile

/-- How a build goes on from a source that could be read and scanned. An error comes from the
statements that make the routine or from what is asked about it then. -/
inductive Carried (session : SessionSettings) (layer : Sql.DataLayer) (fs : FileSystem)
    (source : RoutineSource) (a : Annotations) (entry : Option CatalogEntry)
    (reason : StaleReason) : Outcome → List String → Prop
  | loaded {u v t : World} {sql : String} {record : BuildRecord} {warnings : List String}
      (files : u.files = fs)
      (made : (loadRoutine layer source a session entry).run u = (.ok sql, v))
      (described : (describe layer source a).run v = (.ok (record, warnings), t)) :
      Carried session layer fs source a entry reason (.loaded reason record warnings)
        (t.statements.drop u.statements.length)
  | unmade {u v : World} {e : Failure} (files : u.files = fs)
      (failed : (loadRoutine layer source a session entry).run u = (.error e, v)) :
      Carried session layer fs source a entry reason
        (.failed reason false (e.forRoutine source.path.toText))
        (v.statements.drop u.statements.length)
  | undescribed {u v t : World} {sql : String} {e : Failure} (files : u.files = fs)
      (made : (loadRoutine layer source a session entry).run u = (.ok sql, v))
      (failed : (describe layer source a).run v = (.error e, t)) :
      Carried session layer fs source a entry reason
        (.failed reason true (e.forRoutine source.path.toText))
        (t.statements.drop u.statements.length)

/-- What a dry run foretells by an outcome: the outcome of a build, and its statements. -/
inductive Foretold (extension : String) (session : SessionSettings) (layer : Sql.DataLayer)
    (fs : FileSystem) (path : Path) (table : ReplaceTable) (entry : Option CatalogEntry) :
    Outcome → Outcome → List String → Prop
  | failed (reason : Option StaleReason) (e : LoaderError) :
      Foretold extension session layer fs path table entry (.failed reason false e)
        (.failed reason false e) []
  | upToDate (record : BuildRecord) :
      Foretold extension session layer fs path table entry (.upToDate record)
        (.upToDate record) []
  | carried {reason : StaleReason} {source : RoutineSource} {a : Annotations} {outcome : Outcome}
      {executed : List String} (loaded : RoutineSource.load fs path extension = .ok source)
      (annotated : Annotations.ofSource source table = .ok a)
      (ended : Carried session layer fs source a entry reason outcome executed) :
      Foretold extension session layer fs path table entry (.wouldLoad reason) outcome executed

variable {settings : LoaderSettings} {layer : Sql.DataLayer} {path : Path}
  {record : Option BuildRecord} {table : ReplaceTable} {entry : Option CatalogEntry}

theorem Foretold.reason_eq {extension : String} {session : SessionSettings} {fs : FileSystem}
    {predicted made : Outcome} {executed : List String}
    (h : Foretold extension session layer fs path table entry predicted made executed) :
    predicted.reason? = made.reason? := by
  cases h with
  | failed | upToDate => rfl
  | carried loaded annotated ended => cases ended <;> rfl

theorem forRoutine_of_isRoutine {e : LoaderError} (h : e.kind.isRoutine = true) (source : String) :
    (Failure.error e).forRoutine source = e := by
  simp [Failure.forRoutine, h]

theorem isRoutine_of_load {fs : FileSystem} {extension : String} {e : LoaderError}
    (h : RoutineSource.load fs path extension = .error (.error e)) : e.kind.isRoutine = true := by
  unfold RoutineSource.load at h
  split at h
  · rename_i fault _
    cases fault <;> cases h <;> rfl
  · split at h <;> cases h
    rfl

theorem isRoutine_of_ofSource {source : RoutineSource} {e : LoaderError}
    (h : Annotations.ofSource source table = .error e) : e.kind.isRoutine = true := by
  have parse := Annotations.kind_of_error h
  cases kind : e.kind <;> rw [kind] at parse <;> first | rfl | cases parse

theorem carried_of_rebuild {source : RoutineSource} {a : Annotations} {reason : StaleReason}
    (annotated : Annotations.ofSource source table = .ok a) {u t : World} {r : RoutineResult}
    (run : (rebuild settings layer source table entry reason).run u = (.ok r, t)) :
    Carried settings.session layer u.files source a entry reason r.outcome
      (t.statements.drop u.statements.length) := by
  cases rebuildsTo_of_run run with
  | unmade making stopping =>
    rw [run_make_of_scanned annotated] at making
    obtain ⟨failed, rfl⟩ := Prod.mk.inj making
    obtain ⟨rfl, same⟩ := run_stop stopping
    rw [same]
    exact .unmade rfl (run_eq_of_fst (map_eq_error.1 failed))
  | undescribed making describing stopping =>
    rw [run_make_of_scanned annotated] at making
    obtain ⟨made, rfl⟩ := Prod.mk.inj making
    obtain ⟨sql, loading, rfl⟩ := map_eq_ok.1 made
    obtain ⟨rfl, same⟩ := run_stop stopping
    rw [same]
    exact .undescribed rfl (run_eq_of_fst loading) describing
  | described making describing =>
    rw [run_make_of_scanned annotated] at making
    obtain ⟨made, rfl⟩ := Prod.mk.inj making
    obtain ⟨sql, loading, rfl⟩ := map_eq_ok.1 made
    exact .loaded rfl (run_eq_of_fst loading) describing

theorem run_examine_of_judged {source : RoutineSource} {judged : Freshness} {u : World}
    (loaded : RoutineSource.load u.files path settings.extension = .ok source)
    (decided : Freshness.judge record source.modified table settings.session entry = .ok judged) :
    (examine settings path record table entry).run u = (.ok (source, judged), u) := by
  rw [examine_of_loaded loaded, decided]
  rfl

theorem run_compile_of_stale {source : RoutineSource} {reason : StaleReason} {u : World}
    (loaded : RoutineSource.load u.files path settings.extension = .ok source)
    (judged : Freshness.judge record source.modified table settings.session entry =
      .ok (.stale reason)) : (compile settings layer path record table entry).run u =
      (rebuild settings layer source table entry reason).run u := by
  rw [compile, run_bind_of_ok (run_attempt_eq_ok.2 (run_examine_of_judged loaded judged))]

/-- What a dry run finds out about a source is what a build finds out first. -/
theorem foretold_of_assessed {fs : FileSystem} {predicted : Outcome}
    (assessed : Assessed settings.extension settings.session fs path record table entry predicted)
    {u v : World} (files : u.files = fs) {r : RoutineResult}
    (run : (compile settings layer path record table entry).run u = (.ok r, v)) :
    Foretold settings.extension settings.session layer fs path table entry predicted r.outcome
      (v.statements.drop u.statements.length) := by
  subst files
  -- Whatever is found out without a rebuild leaves no statement behind.
  have silent {x : World} (same : x.statements = u.statements) :
      x.statements.drop u.statements.length = [] := by
    rw [same, List.drop_length]
  cases assessed with
  | unreadable unread =>
    have failed : (examine settings path record table entry).run u = (.error (.error _), u) :=
      (run_bind_of_ok (run_getFiles u)).trans
        (run_bind_of_error ((run_ofExcept _ _).trans (by rw [unread])))
    rw [compile, run_bind_of_ok (run_attempt_eq_ok.2 failed)] at run
    obtain ⟨rfl, same⟩ := run_stop run
    rw [silent same, forRoutine_of_isRoutine (isRoutine_of_load unread)]
    exact .failed _ _
  | upToDate loaded judged =>
    rw [compile, run_bind_of_ok (run_attempt_eq_ok.2 (run_examine_of_judged loaded judged))] at run
    obtain ⟨same, quiet⟩ := run_logged run
    cases same
    rw [silent quiet]
    exact .upToDate _
  | @unscanned source reason e loaded judged fault =>
    rw [run_compile_of_stale loaded judged, rebuild,
      run_bind_of_ok (run_attempt_eq_ok.2 (run_make_of_unscanned fault u))] at run
    obtain ⟨rfl, same⟩ := run_stop run
    rw [silent same, forRoutine_of_isRoutine (isRoutine_of_ofSource fault)]
    exact .failed _ _
  | scanned loaded judged annotated =>
    rw [run_compile_of_stale loaded judged] at run
    exact .carried loaded annotated (carried_of_rebuild annotated run)

end Compile

namespace Batch

/-- What a dry run foretells by a result: the result for the same source, and its statements. -/
structure Foretold (settings : LoaderSettings) (layer : Sql.DataLayer) (fs : FileSystem)
    (start : Start) (predicted : RoutineResult) (made : Account) : Prop where
  path : predicted.path = made.result.path
  name : predicted.name = made.result.name
  reason : predicted.outcome.reason? = made.result.outcome.reason?
  outcome : Compile.Foretold settings.extension settings.session layer fs predicted.path
    start.table (start.catalog.lookup ⟨.text predicted.name⟩) predicted.outcome
    made.result.outcome made.executed

variable {settings : LoaderSettings} {db : Sql.Database} {only : Option (List Path)} {w u : World}
  {paths : List Path} {rejected : List RoutineResult} {start : Start}

theorem foretold_rejected (opened : (opening settings db.layer only).run w =
    (.ok (paths, rejected, start), u)) :
    List.Forall₂ (Foretold settings db.layer w.files start) rejected
      (rejected.map fun r => ⟨r, []⟩) := by
  obtain ⟨_, _, -, rejecting, -⟩ := steps_of_opening opened
  rw [List.forall₂_map_right_iff, List.forall₂_same]
  intro r member
  obtain ⟨duplicate, -, rfl⟩ := exists_of_forall₂ (run_rejectDuplicates rejecting) member
  exact ⟨rfl, rfl, rfl, .failed _ _⟩

theorem foretold_handled {predicted made : Settled} {looked handled : List Account}
    (dry : Course { settings with dryRun := true } db.layer only w predicted paths rejected start u
      looked)
    (real : Course { settings with dryRun := false } db.layer only w made paths rejected start u
      handled) :
    List.Forall₂ (Foretold settings db.layer w.files start) (looked.map (·.result)) handled := by
  rw [List.forall₂_map_left_iff]
  refine (forall₂_join dry.forall₂ real.forall₂).imp ?_
  rintro p a ⟨⟨name, path⟩, place, ⟨t, v, files, ran, -⟩, ⟨t', v', files', ran', executed⟩⟩
  obtain ⟨⟨path_eq, name_eq⟩, assessed⟩ := run_assess ran
  obtain ⟨⟨path_eq', name_eq'⟩, -⟩ := run_compile ran'
  have named : p.result.name = name := name_eq.trans (name_of_mem_sources place)
  rw [files] at assessed
  have foretold := Compile.foretold_of_assessed assessed files' ran'
  rw [← executed] at foretold
  refine ⟨path_eq.trans path_eq'.symm, name_eq.trans name_eq'.symm, foretold.reason_eq, ?_⟩
  rw [path_eq, named]
  exact foretold

end Batch

/-- A dry run and a batch from the same world list the same sources in the same order, and each
result of the dry run foretells that of the batch. -/
theorem dryRun_foretells {settings : LoaderSettings} {db : Sql.Database}
    {only : Option (List Path)} {w v v' : World} {predicted made : BatchResult}
    (dry : (loadAll { settings with dryRun := true } db.layer only).run w = (.ok predicted, v))
    (real : (loadAll { settings with dryRun := false } db.layer only).run w = (.ok made, v')) :
    ∃ paths rejected start u accounts t,
      (Batch.opening settings db.layer only).run w = (.ok (paths, rejected, start), u) ∧
      (Batch.accounts { settings with dryRun := false } db.layer only).run w = (.ok accounts, t) ∧
      accounts.map (·.result) = made.results ∧
      List.Forall₂ (Batch.Foretold settings db.layer w.files start) predicted.results accounts := by
  obtain ⟨predicted', _, settling, rfl⟩ := Batch.settle_of_run dry
  obtain ⟨made', _, settling', rfl⟩ := Batch.settle_of_run real
  obtain ⟨paths, rejected, start, u, looked, before⟩ := Batch.course_of_run settling
  obtain ⟨paths', rejected', start', u', handled, after⟩ := Batch.course_of_run settling'
  -- What is known when the sources are handled does not depend on the flag.
  have opened : (Batch.opening settings db.layer only).run w = _ := before.opened
  cases opened.symm.trans after.opened
  obtain ⟨⟨t, accounts⟩, results⟩ := after.accounts
  refine ⟨paths, rejected, start, u, _, t, opened, accounts, results, ?_⟩
  rw [before.results]
  exact forall₂_mergeSort (List.rel_append (Batch.foretold_rejected opened)
    (Batch.foretold_handled before after)) fun a b a' b' first second => by
      rw [first.path, second.path]

namespace Sample

theorem load_beside (other : String) :
    RoutineSource.load (filesBeside other) path ".psql" = .ok source :=
  load_source

theorem ofSource_empty (p : Path) : Annotations.ofSource ⟨p, ".psql", "", 0⟩ [] =
    .error (.ofSource .designation Designation.Fault.noBegin.wording p.toText) := by
  have find : Placeholder.find "" = [] := by decide +kernel
  have placeholders : Placeholder.resolve ⟨p, ".psql", "", 0⟩ [] = .ok [] := by
    simp [Placeholder.resolve, find, Placeholder.sortTexts]
  simp only [Annotations.ofSource, placeholders]
  rfl

def refused (e : LoaderError) : RoutineResult :=
  ⟨otherPath, "b", .failed (some .noRecord) false e⟩

theorem sortResults_pair {r : RoutineResult} (first : r.path = path) (e : LoaderError) :
    Batch.sortResults [r, refused e] = [r, refused e] := by
  refine List.mergeSort_of_pairwise (List.pairwise_pair.2 ?_)
  change decide (r.path.toText ≤ otherPath.toText) = true
  rw [first]
  rfl

section

variable {other : String} {s : RoutineSource} {e : LoaderError}

theorem run_prepare_beside (other : String) (settings' : LoaderSettings)
    (store : settings'.store = settings.store) (constants : settings'.constants = none) :
    ∃ es, (Batch.prepare settings' (answering []).layer).run (worldBeside other) =
      (.ok ⟨[], [], []⟩, (worldBeside other).after es) := by
  obtain ⟨es, prepared, -⟩ : ∃ es, (Batch.prepare settings' (answering []).layer).run
      (worldBeside other) = (.ok ⟨[], [], []⟩, (worldBeside other).after es) ∧
        Event.statements es = [RoutineCatalog.query, ColumnTypes.query] :=
    Batch.run_prepare_of_ok settings' (by rw [store]; rfl) rfl rfl rfl (by rw [constants]; rfl)
  exact ⟨es, prepared⟩

theorem run_write_beside {w : World} (files : w.files = filesBeside other) :
    (store.write settings.store).run w = (.ok (), { w with files := ⟨(filesBeside other).entries ++
      [(["s.json"], .file ⟨RecordStore.content (Json.render storedValue), 0⟩)], []⟩ }) := by
  refine RecordStore.run_write_eq_ok.2 ⟨storedValue, ⟨"/", ["s.json.tmp"]⟩, filesBeside other, _, _,
    toValue_store, by rfl, ?_, rfl, complete_store, rfl, ?_⟩
  · rw [files]
    rfl
  · rfl

theorem run_loadAll_dry (load : RoutineSource.load (filesBeside other) otherPath ".psql" = .ok s)
    (fault : Annotations.ofSource s [] = .error e) : ∃ v,
    (loadAll drySettings (answering []).layer (some [path, otherPath])).run (worldBeside other) =
      (.ok ⟨[stale, refused e], [], true⟩, v) := by
  obtain ⟨es, prepared⟩ := run_prepare_beside other drySettings rfl rfl
  let w := (worldBeside other).after es
  have judged (source : RoutineSource) : Freshness.judge none source.modified []
      drySettings.session none = .ok (.stale .noRecord) := rfl
  obtain ⟨fs, first⟩ : ∃ fs, (assess drySettings path none [] none).run w = (.ok _, w.after fs) :=
    run_assess_of_stale (load_beside other) (judged source)
  obtain ⟨gs, second⟩ : ∃ gs, (assess drySettings otherPath none [] none).run (w.after fs) =
      (.ok _, (w.after fs).after gs) := run_assess_of_stale load (judged s)
  rw [ofSource_source] at first
  rw [fault] at second
  have handling : ((Batch.sources (Batch.groups drySettings.extension
      (sortPaths [path, otherPath]))).mapM
        (Batch.routine drySettings (answering []).layer ⟨[], [], []⟩)).run w =
          (.ok [stale, refused e], (w.after fs).after gs) := by
    rw [show Batch.sources (Batch.groups drySettings.extension _) = _ from sources_pair]
    exact run_mapM_eq_ok.2 (.cons first (.cons second (.nil _)))
  have settled : (Batch.settle drySettings (answering []).layer (some [path, otherPath])).run
      (worldBeside other) = _ := Batch.run_settle_of_sources duplicates_pair prepared handling
  rw [sortResults_pair rfl] at settled
  exact ⟨_, run_bind_of_ok settled⟩

theorem run_loadAll_beside (load : RoutineSource.load (filesBeside other) otherPath ".psql" = .ok s)
    (fault : Annotations.ofSource s [] = .error e) : ∃ v,
    (loadAll settings (answering []).layer (some [path, otherPath])).run (worldBeside other) =
      (.ok ⟨[loaded, refused e], [], false⟩, v) := by
  obtain ⟨es, prepared⟩ := run_prepare_beside other settings rfl rfl
  have judged : Freshness.judge none s.modified [] settings.session none =
      .ok (.stale .noRecord) := rfl
  obtain ⟨u, first, -, files⟩ := run_compile_loaded []
    (w := (worldBeside other).after es) (load_beside other) rfl
  obtain ⟨v, second⟩ := Compile.run_compile_of_unannotated (w := u) (answering []).layer
    (by rw [files]; exact load) judged fault
  have kept : v.files = u.files := Batch.files_of_run_routine
    (show (Batch.routine settings (answering []).layer ⟨[], [], []⟩ ("b", otherPath)).run u = _ from
      second)
  rw [RoutineSource.name_of_load load, (RoutineSource.path_of_load load).1,
    Compile.forRoutine_of_isRoutine (Compile.isRoutine_of_ofSource fault)] at second
  have handling : ((Batch.sources (Batch.groups settings.extension
      (sortPaths [path, otherPath]))).mapM
        (Batch.routine settings (answering []).layer ⟨[], [], []⟩)).run
          ((worldBeside other).after es) = (.ok [loaded, refused e], v) := by
    rw [sources_pair]
    exact run_mapM_eq_ok.2 (.cons first (.cons second (.nil _)))
  have settled := Batch.run_settle_of_sources duplicates_pair prepared handling
  rw [sortResults_pair rfl] at settled
  have finished : (Batch.finish settings store).run v = _ := run_write_beside (kept.trans files)
  exact ⟨_, (run_bind_of_ok settled).trans (run_bind_of_ok finished)⟩

end

end Sample

open Sample in
/-- The dry run over two sources foretells that one is loaded and that the other fails. -/
theorem load_and_failure_foretold : ∃ e v v',
    (loadAll { settings with dryRun := true } (answering []).layer
      (some [path, otherPath])).run (worldBeside "") = (.ok ⟨[stale, refused e], [], true⟩, v) ∧
    (loadAll { settings with dryRun := false } (answering []).layer
      (some [path, otherPath])).run (worldBeside "") = (.ok ⟨[loaded, refused e], [], false⟩, v') ∧
    ∃ paths rejected start u accounts t,
      (Batch.opening settings (answering []).layer (some [path, otherPath])).run (worldBeside "") =
        (.ok (paths, rejected, start), u) ∧
      (Batch.accounts { settings with dryRun := false } (answering []).layer
        (some [path, otherPath])).run (worldBeside "") = (.ok accounts, t) ∧
      accounts.map (·.result) = [loaded, refused e] ∧
      List.Forall₂ (Batch.Foretold settings (answering []).layer (filesBeside "") start)
        [stale, refused e] accounts := by
  have load : RoutineSource.load (filesBeside "") otherPath ".psql" =
      .ok ⟨otherPath, ".psql", "", 0⟩ := by decide +kernel
  obtain ⟨v, dry⟩ := run_loadAll_dry load (ofSource_empty otherPath)
  obtain ⟨v', real⟩ := run_loadAll_beside load (ofSource_empty otherPath)
  exact ⟨_, v, v', dry, real, dryRun_foretells dry real⟩

end StoredRoutines
