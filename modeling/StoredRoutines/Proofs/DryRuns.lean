import StoredRoutines.Proofs.Plans
import StoredRoutines.Proofs.Updates

/-!
Dry runs. A dry run asks for the catalog and for the column types, and changes nothing: no other
statement is executed, no file is touched, no routine is dropped and none is made.
-/

namespace StoredRoutines

open Loader TraceProperty

/-- What looking at a source comes to, given the files. -/
inductive Assessed (extension : String) (session : SessionSettings) (fs : FileSystem) (path : Path)
    (record : Option BuildRecord) (table : ReplaceTable) (entry : Option CatalogEntry) :
    Outcome → Prop
  | unreadable {e : LoaderError} (unread : RoutineSource.load fs path extension = .error (.error e)) :
      Assessed extension session fs path record table entry (.failed none false e)
  | upToDate {source : RoutineSource} {kept : BuildRecord}
      (loaded : RoutineSource.load fs path extension = .ok source)
      (judged : Freshness.judge record source.modified table session entry =
        .ok (.upToDate kept)) :
      Assessed extension session fs path record table entry (.upToDate kept)
  | unscanned {source : RoutineSource} {reason : StaleReason} {e : LoaderError}
      (loaded : RoutineSource.load fs path extension = .ok source)
      (judged : Freshness.judge record source.modified table session entry = .ok (.stale reason))
      (fault : Annotations.ofSource source table = .error e) :
      Assessed extension session fs path record table entry (.failed reason false e)
  | scanned {source : RoutineSource} {reason : StaleReason} {a : Annotations}
      (loaded : RoutineSource.load fs path extension = .ok source)
      (judged : Freshness.judge record source.modified table session entry = .ok (.stale reason))
      (annotated : Annotations.ofSource source table = .ok a) :
      Assessed extension session fs path record table entry (.wouldLoad reason)

section

variable {settings : LoaderSettings} {path : Path} {record : Option BuildRecord}
  {table : ReplaceTable} {entry : Option CatalogEntry}

theorem run_assess {w v : World} {r : RoutineResult}
    (run : (assess settings path record table entry).run w = (.ok r, v)) :
    r.IsOf settings.extension path ∧
      Assessed settings.extension settings.session w.files path record table entry r.outcome := by
  obtain ⟨fs, u, looked, rest⟩ := run_bind_eq_ok.1 run
  cases looked
  cases loaded : RoutineSource.load w.files path settings.extension with
  | error e =>
    rw [loaded] at rest
    cases e with
    | defect d => cases rest
    | error e =>
      cases rest
      exact ⟨⟨rfl, rfl⟩, .unreadable loaded⟩
  | ok source =>
    rw [loaded] at rest
    obtain ⟨judgement, u, judging, rest⟩ := run_bind_eq_ok.1 rest
    obtain ⟨judged, rfl⟩ := Prod.mk.inj ((run_ofExcept _ _).symm.trans judging)
    cases judgement with
    | upToDate kept =>
      cases rest
      exact ⟨⟨rfl, rfl⟩, .upToDate loaded judged⟩
    | stale reason =>
      cases annotated : Annotations.ofSource source table with
      | error e =>
        simp only [annotated] at rest
        cases rest
        exact ⟨⟨rfl, rfl⟩, .unscanned loaded judged annotated⟩
      | ok a =>
        simp only [annotated] at rest
        cases rest
        exact ⟨⟨rfl, rfl⟩, .scanned loaded judged annotated⟩

/-- A stale routine is reported as one that would be loaded, unless its annotations are at fault. -/
theorem run_assess_of_stale {source : RoutineSource} {reason : StaleReason} {w : World}
    (loaded : RoutineSource.load w.files path settings.extension = .ok source)
    (judged : Freshness.judge record source.modified table settings.session entry =
      .ok (.stale reason)) :
    ∃ es, (assess settings path record table entry).run w =
      (.ok ⟨path, routineName path settings.extension,
        match Annotations.ofSource source table with
        | .error e => .failed reason false e
        | .ok _ => .wouldLoad reason⟩, w.after es) := by
  have decided : (Loader.ofExcept (Freshness.judge record source.modified table settings.session
      entry)).run w = (.ok (.stale reason), w) := by
    rw [run_ofExcept, judged]
  rw [assess, run_bind_of_ok (run_getFiles w), loaded]
  refine Exists.imp (fun es ended => (run_bind_of_ok decided).trans ended) ?_
  cases Annotations.ofSource source table <;> exact ⟨[.log _], rfl⟩

theorem Assessed.not_remade {extension : String} {session : SessionSettings} {fs : FileSystem}
    {outcome : Outcome} (h : Assessed extension session fs path record table entry outcome) :
    outcome.isRemade = false := by
  cases h <;> rfl

end

namespace Batch

variable {db : Sql.Database} {settings : LoaderSettings}

def questions : Plan := .ofStatements [RoutineCatalog.query, ColumnTypes.query]

theorem executes_prepare (settings : LoaderSettings) (w : World) :
    (prepare settings db.layer).Executes db questions w := by
  have fetches (v : World) :
      (RoutineCatalog.fetch db.layer).Executes db [.ok [RoutineCatalog.query]] v :=
    (Executes.rows _ v).bind_quiet fun rows =>
      allowsQuiet_quiet.ofExcept (.of_defective (RoutineCatalog.defective_ofRows rows))
  have types (v : World) : (ColumnTypes.fetch db.layer).Executes db [.ok [ColumnTypes.query]] v :=
    (Executes.rows _ v).bind_quiet fun rows =>
      allowsQuiet_quiet.bind (allowsQuiet_quiet.ofExcept (by simp)) fun _ =>
        allowsQuiet_quiet.pure _
  have ends (table : ReplaceTable) : (Loader.log .debug .replaceTable
      ("Replace table holds " ++ toString table.length ++ " placeholder(s)") >>= fun _ =>
        pure table).Traces Quiet :=
    allowsQuiet_quiet.bind (allowsQuiet_quiet.log _ _ _) fun _ => allowsQuiet_quiet.pure _
  have builds (constants : Option Path) (v : World) :
      (ReplaceTable.build db.layer constants).Executes db [.ok [ColumnTypes.query]] v := by
    refine (types v).bind_quiet fun types => ?_
    cases constants with
    | none => exact allowsQuiet_quiet.bind (allowsQuiet_quiet.pure _) fun _ => ends _
    | some p => exact allowsQuiet_quiet.bind (Constants.traces_read allowsQuiet_quiet p) fun _ => ends _
  refine Executes.quiet_bind (RecordStore.traces_read allowsQuiet_quiet _) fun store u _ => ?_
  refine (fetches u).bind fun catalog v _ => ?_
  exact (builds _ v).bind_quiet fun table => allowsQuiet_quiet.pure _

theorem quiet_routine_of_dry (dry : settings.dryRun = true) (start : Start)
    (source : String × Path) : (routine settings db.layer start source).Traces Quiet := by
  simp only [routine, dry]
  exact traces_assess allowsQuiet_quiet _ _ _ _ _

theorem quiet_cleanUp_of_dry (dry : settings.dryRun = true) (catalog : RoutineCatalog)
    (results : List RoutineResult) (store : RecordStore) :
    (cleanUp settings db.layer catalog results store).Traces Quiet := by
  refine traces_cleanUp allowsQuiet_quiet store fun _ name _ => ?_
  unfold obsolete
  split
  · exact allowsQuiet_quiet.pure _
  · rw [dry]
    exact allowsQuiet_quiet.bind (allowsQuiet_quiet.log _ _ _) fun _ => allowsQuiet_quiet.pure _

theorem executes_settle_of_dry (dry : settings.dryRun = true) (only : Option (List Path))
    (w : World) : (settle settings db.layer only).Executes db questions w := by
  refine Executes.quiet_bind (traces_paths allowsQuiet_quiet settings only) fun paths u _ => ?_
  refine Executes.quiet_bind (traces_rejectDuplicates allowsQuiet_quiet _) fun rejected v _ => ?_
  refine (executes_prepare settings v).bind_quiet fun start => ?_
  refine allowsQuiet_quiet.bind (traces_mapM quiet_composes fun s _ =>
    quiet_routine_of_dry dry start s) fun handled => ?_
  cases only with
  | some only =>
    exact allowsQuiet_quiet.bind (allowsQuiet_quiet.pure _) fun _ => allowsQuiet_quiet.pure _
  | none =>
    exact allowsQuiet_quiet.bind (quiet_cleanUp_of_dry dry _ _ _) fun _ => allowsQuiet_quiet.pure _

theorem run_obsolete_of_dry (dry : settings.dryRun = true) {catalog : RoutineCatalog} {name : Atom}
    {w v : World} {gone : Option Atom}
    (run : (obsolete settings db.layer catalog name).run w = (.ok gone, v)) : gone = none := by
  unfold obsolete at run
  split at run
  · cases run
    rfl
  · rw [dry] at run
    cases run
    rfl

theorem dropped_of_dry (dry : settings.dryRun = true) {catalog : RoutineCatalog}
    {known : List String} {w v : World} {dropped : List Atom}
    (run : (dropAllObsolete settings db.layer catalog known).run w = (.ok dropped, v)) :
    dropped = [] := by
  unfold dropAllObsolete at run
  split at run
  · obtain ⟨names, u, -, rest⟩ := run_bind_eq_ok.1 run
    obtain ⟨gone, u', mapped, last⟩ := run_bind_eq_ok.1 rest
    cases last
    have none : List.Forall₂ (fun _ g => g = none) names gone :=
      (run_mapM_eq_ok.1 mapped).forall₂ fun name g u v _ ran => run_obsolete_of_dry dry ran
    refine List.filterMap_eq_nil_iff.2 fun g member => ?_
    obtain ⟨name, -, nothing⟩ := Outcomes.exists_of_forall₂ none member
    exact nothing
  · cases run
    rfl

theorem dropped_of_settle (dry : settings.dryRun = true) {only : Option (List Path)} {w v : World}
    {settled : Settled} (run : (settle settings db.layer only).run w = (.ok settled, v)) :
    settled.batch.dropped = [] := by
  rw [settle_eq] at run
  obtain ⟨opened, _, -, rest⟩ := run_bind_eq_ok.1 run
  obtain ⟨handled, _, -, ended⟩ := run_bind_eq_ok.1 rest
  cases only with
  | some only =>
    cases ended
    rfl
  | none =>
    obtain ⟨⟨dropped, store⟩, _, cleaning, last⟩ := run_bind_eq_ok.1 ended
    obtain ⟨gone, _, dropping, rest⟩ := run_bind_eq_ok.1 cleaning
    obtain ⟨kept, _, -, same⟩ := run_bind_eq_ok.1 rest
    cases same
    cases last
    exact dropped_of_dry dry dropping

theorem not_remade_of_dry (dry : settings.dryRun = true) {only : Option (List Path)} {w v : World}
    {settled : Settled} (run : (settle settings db.layer only).run w = (.ok settled, v))
    {r : RoutineResult} (member : r ∈ settled.batch.results) : r.outcome.isRemade = false := by
  obtain ⟨paths, rejected, handled, start, parts⟩ := settling_of_run run
  rw [parts.results] at member
  rcases mem_results.1 member with first | second
  · obtain ⟨duplicate, -, rfl⟩ := Outcomes.exists_of_forall₂ parts.rejecting first
    rfl
  · obtain ⟨es, u, v, -, -, handling⟩ := parts.handling
    have assessed : List.Forall₂ (fun _ r => r.outcome.isRemade = false)
        (sources (groups settings.extension paths)) handled := by
      refine (run_mapM_eq_ok.1 handling).forall₂ fun source r u v _ ran => ?_
      simp only [routine, dry] at ran
      exact (run_assess ran).2.not_remade
    obtain ⟨source, -, kept⟩ := Outcomes.exists_of_forall₂ assessed second
    exact kept

end Batch

/-- A dry run executes no statement but its two questions, touches no file, and reports that no
routine was dropped and none was made. -/
theorem dryRun_changes_nothing {settings : LoaderSettings} (dry : settings.dryRun = true)
    {db : Sql.Database} {only : Option (List Path)} {w v : World}
    {result : Except Failure BatchResult}
    (run : (loadAll settings db.layer only).run w = (result, v)) :
    (∃ asked, v.statements = w.statements ++ asked ∧
      asked <+: [RoutineCatalog.query, ColumnTypes.query]) ∧
    v.files = w.files ∧
    ∀ batch, result = .ok batch →
      batch.dropped = [] ∧ ∀ r ∈ batch.results, r.outcome.isRemade = false := by
  have finishes (settled : Batch.Settled) {P : TraceProperty} (h : AllowsQuiet P) :
      (Batch.finish settings settled.records >>= fun _ => Loader.log .info .batch
        (Batch.summary settled.batch) >>= fun _ => pure settled.batch).Traces P := by
    rw [Batch.finish, dry]
    exact h.bind (h.log _ _ _) fun _ => h.bind (h.log _ _ _) fun _ => h.pure _
  have asks : (loadAll settings db.layer only).Executes db Batch.questions w :=
    (Batch.executes_settle_of_dry dry only w).bind_quiet fun settled =>
      finishes settled allowsQuiet_quiet
  have traced : (loadAll settings db.layer only).Traces db.Halting :=
    Sql.Database.accepts_halting.bind (Batch.traces_settle Sql.Database.accepts_halting settings
      Compile.traces_bulkColumns only) fun settled => finishes settled
        Sql.Database.accepts_halting.toAllowsQuiet
  obtain ⟨es, step, -⟩ := traced.of_run run
  refine ⟨?_, by rw [step, World.files_after], fun batch ended => ?_⟩
  · obtain ⟨executed, statements, keeps, -⟩ := asks
    rw [run] at statements
    exact ⟨executed.flatten, statements, keeps.flatten⟩
  · subst ended
    obtain ⟨settled, u, settling, rest⟩ := run_bind_eq_ok.1 run
    rw [Batch.finish, dry] at rest
    cases rest
    exact ⟨Batch.dropped_of_settle dry settling, fun r => Batch.not_remade_of_dry dry settling⟩

namespace Sample

def drySettings : LoaderSettings := { settings with dryRun := true }

def stale : RoutineResult := ⟨path, "a", .wouldLoad .noRecord⟩

theorem run_assess_source (layer : Sql.DataLayer) {catalog : RoutineCatalog}
    (unknown : catalog.lookup ⟨.text "a"⟩ = none) {w : World} (files : w.files = filesWith text) :
    ∃ es, (Batch.routine drySettings layer ⟨[], catalog, []⟩ ("a", path)).run w =
      (.ok stale, w.after es) := by
  have load : RoutineSource.load w.files path drySettings.extension = .ok source := by
    rw [files]
    exact load_source
  have judged : Freshness.judge none source.modified [] drySettings.session none =
      .ok (.stale .noRecord) := rfl
  obtain ⟨es, run⟩ := run_assess_of_stale load judged
  rw [ofSource_source] at run
  refine ⟨es, ?_⟩
  simp only [Batch.routine, unknown]
  exact run

theorem cleanUp_stray_yields (layer : Sql.DataLayer) (u : World) :
    (Batch.cleanUp drySettings layer (catalogOf "b") [stale] []).Yields u ([], []) := by
  have obsolete : Batch.obsoleteNames (catalogOf "b") ([stale].map (·.name)) = [.text "b"] := by
    rfl
  have found : (catalogOf "b").lookup ⟨.text "b"⟩ = some (entryOf "b") := rfl
  have ordered (names : List Atom) (all : Atom.areComparable names = true)
      (sorted : names.mergeSort Atom.precedes = names) : Atom.inOrder names = .ok names := by
    rw [Atom.inOrder, if_pos all, sorted]
  have reports (v : World) :
      (Batch.obsolete drySettings layer (catalogOf "b") (.text "b")).Yields v none := by
    simp only [Batch.obsolete, found]
    exact (Yields.log _ _ _ v).bind fun es => Yields.pure _ _
  have drops : (Batch.dropAllObsolete drySettings layer (catalogOf "b")
      ([stale].map (·.name))).Yields u [] := by
    simp only [Batch.dropAllObsolete, obsolete]
    refine (Yields.ofExcept (ordered _ rfl (List.mergeSort_singleton ..)) u).bind fun es => ?_
    refine (Yields.mapM (.cons (fun fs => reports _) .nil) es).bind fun fs => Yields.pure _ _
  refine drops.bind fun es => Yields.bind ?_ fun fs => Yields.pure _ _
  refine (Yields.ofExcept (ordered [] rfl List.mergeSort_nil) _).bind fun fs => ?_
  exact (Yields.pure () _).bind fun gs => Yields.pure _ _

theorem run_settle_stray : ∃ settled v,
    (Batch.settle drySettings (answering [rowOf "b"]).layer none).run (world text) =
      (.ok settled, v) ∧ settled.batch = ⟨[stale], [], true⟩ := by
  obtain ⟨u, opened, files⟩ := run_opening (ofRows_rowOf "b")
  have unknown : (catalogOf "b").lookup ⟨.text "a"⟩ = none := rfl
  obtain ⟨es, looked⟩ := run_assess_source (answering [rowOf "b"]).layer unknown files
  obtain ⟨fs, cleaned, -⟩ := cleanUp_stray_yields (answering [rowOf "b"]).layer (u.after es)
  have handling : ((Batch.sources (Batch.groups drySettings.extension [path])).mapM
      (Batch.routine drySettings (answering [rowOf "b"]).layer ⟨[], catalogOf "b", []⟩)).run u =
        (.ok [stale], u.after es) := by
    rw [show Batch.sources (Batch.groups drySettings.extension [path]) = [("a", path)] from
      sources_path]
    exact run_mapM_eq_ok.2 (.cons looked (.nil _))
  have opened' : (Batch.opening drySettings (answering [rowOf "b"]).layer none).run (world text) =
      (.ok ([path], [], ⟨[], catalogOf "b", []⟩), u) := opened
  have results : Batch.sortResults ([] ++ [stale]) = [stale] := List.mergeSort_singleton ..
  rw [Batch.settle_eq, run_bind_of_ok opened', Batch.proceeding, run_bind_of_ok handling, results]
  exact ⟨_, _, run_bind_of_ok cleaned, rfl⟩

end Sample

open Sample in
/-- A dry run over the sample directory reports what it would load, and leaves the routine without a
source where it is. -/
theorem dryRun_of_sample : ∃ batch v,
    (loadAll drySettings (answering [rowOf "b"]).layer none).run (world text) = (.ok batch, v) ∧
    batch.results = [stale] ∧
    (∃ asked, v.statements = asked ∧ asked <+: [RoutineCatalog.query, ColumnTypes.query]) ∧
    v.files = filesWith text ∧ batch.dropped = [] ∧
    ∀ r ∈ batch.results, r.outcome.isRemade = false := by
  obtain ⟨settled, u, settling, same⟩ := run_settle_stray
  have run : (loadAll drySettings (answering [rowOf "b"]).layer none).run (world text) = _ :=
    run_bind_of_ok settling
  obtain ⟨asked, files, reports⟩ := dryRun_changes_nothing rfl run
  exact ⟨_, _, run, congrArg BatchResult.results same, asked, files, reports _ rfl⟩

end StoredRoutines
