import StoredRoutines.Command.Run
import StoredRoutines.Proofs.Connections
import StoredRoutines.Proofs.Printing
import StoredRoutines.Proofs.StoreErrors
import StoredRoutines.Proofs.Updates

/-!
What stops a command, and the exit code it leaves. The exit codes are right as far as they go: every
failure that has one has the right one. But a question that the batch asks as a whole may be refused
without loss of the connection, and data may be defective; nothing provides for these, and they end
the command without an exit code.
-/

namespace StoredRoutines

open Loader Outcomes

inductive LoaderError.AboutFiles (settings : LoaderSettings) : LoaderError → Prop where
  | store {e : LoaderError} (about : e.AboutStore settings.store) : AboutFiles settings e
  | constants {p : Path} (given : settings.constants = some p) (fault : FileFault) :
    AboutFiles settings (Constants.unreadable p fault)

theorem LoaderError.AboutFiles.kind {settings : LoaderSettings} {e : LoaderError}
    (h : e.AboutFiles settings) : e.kind = .metadata := by
  cases h with
  | store about => exact about.kind
  | constants given fault => rfl

/-- What can fail without a database. -/
inductive Failure.Offline (settings : LoaderSettings) : Failure → Prop where
  | files {e : LoaderError} (about : e.AboutFiles settings) : Offline settings (.error e)
  | defect (d : Defect) : Offline settings (.defect d)

/-- What can stop a batch. -/
inductive Failure.Stops (settings : LoaderSettings) : Failure → Prop where
  | offline {e : Failure} (h : e.Offline settings) : Stops settings e
  | connection {e : LoaderError} (lost : e.kind = .connection) : Stops settings (.error e)
  /-- One of the questions of the batch was refused. -/
  | question {e : LoaderError} (refused : e.kind = .dataLayer)
    (asked : e.circumstances.sql ∈ [RoutineCatalog.query, ColumnTypes.query]) :
    Stops settings (.error e)

theorem Failure.IsDefect.offline {settings : LoaderSettings} {e : Failure} (h : e.IsDefect) :
    e.Offline settings := by
  cases e with
  | error e => exact h.elim
  | defect d => exact .defect d

theorem Failure.IsDefect.stops {settings : LoaderSettings} {e : Failure} (h : e.IsDefect) :
    e.Stops settings :=
  .offline h.offline

theorem Failure.OfStore.offline {settings : LoaderSettings} {e : Failure}
    (h : e.OfStore settings.store) : e.Offline settings := by
  cases h with
  | error about => exact .files (.store about)
  | defect d => exact .defect d

namespace Sql.Connector

variable (connector : Connector)

/-- What a statement fails with. The errors of the layer name the statement. -/
inductive Refuses (sql : String) : Failure → Prop where
  | error {e : LoaderError} (kind : e.kind.isDataLayer = true) (named : e.circumstances.sql = sql) :
    Refuses sql (.error e)
  | defect (d : Defect) : Refuses sql (.defect d)

theorem Refuses.of_isDefect {sql : String} {e : Failure} (h : e.IsDefect) : Refuses sql e := by
  cases e with
  | error e => exact h.elim
  | defect d => exact .defect d

theorem refuses_toLoaderError (e : ConnectorError) (sql : String) :
    Refuses sql (.error (e.toLoaderError sql)) := by
  unfold ConnectorError.toLoaderError
  split
  · exact .error rfl rfl
  · exact .error rfl rfl

theorem failsOnly_withCursor (mode : CursorMode) (sql : String) :
    (connector.withCursor mode sql).FailsOnly (Refuses sql) := by
  intro w e v run
  cases state : w.connected with
  | false =>
    rw [withCursor_of_closed state] at run
    cases run
    exact .error rfl rfl
  | true =>
    cases answer : connector.cursorError w.history with
    | some e' =>
      rw [withCursor_of_refused state answer] at run
      cases run
      exact refuses_toLoaderError _ _
    | none =>
      obtain ⟨u, granted, -, -⟩ := withCursor_of_granted sql mode state answer
      rw [granted] at run
      obtain ⟨e', -, rfl⟩ := mapError_eq_error.1 (Prod.mk.inj run).1
      exact refuses_toLoaderError _ _

theorem failsOnly_rows (sql : String) : (connector.layer.rows sql).FailsOnly (Refuses sql) := by
  refine (failsOnly_withCursor connector _ _).bind fun rows => .ofExcept ?_
  exact (ErrsOnly.mapM defective_decodeRow).mono fun _ => Refuses.of_isDefect

theorem failsOnly_execute (sql : String) :
    (connector.layer.execute sql).FailsOnly (Refuses sql) :=
  (failsOnly_withCursor connector _ _).bind fun _ => .pure _

end Sql.Connector

section Batches

variable {settings : LoaderSettings} (connector : Sql.Connector)

theorem stops_rows {sql : String} (asked : sql ∈ [RoutineCatalog.query, ColumnTypes.query]) :
    (connector.layer.rows sql).FailsOnly (Failure.Stops settings) := by
  refine (connector.failsOnly_rows sql).mono fun e refuses => ?_
  cases refuses with
  | error kind named =>
    rename_i e
    cases of : e.kind with
    | connection => exact .connection of
    | dataLayer => exact .question of (named ▸ asked)
    | _ => simp [of, ErrorKind.isDataLayer] at kind
  | defect d => exact .offline (.defect d)

theorem stops_ofDefective {α : Type} {x : Except Failure α} (h : Defective x) :
    (Loader.ofExcept x).FailsOnly (Failure.Stops settings) :=
  .ofExcept (h.mono fun _ => Failure.IsDefect.stops)

theorem stops_ofStore {α : Type} {x : Loader α} (h : x.FailsOnly (Failure.OfStore settings.store)) :
    x.FailsOnly (Failure.Stops settings) :=
  h.mono fun _ about => .offline about.offline

theorem Constants.failsOnly_report {P : Failure → Prop} (p : Path) (lines : List Line) :
    (report p lines).FailsOnly P :=
  .forM fun _ _ => .log _ _ _

theorem Constants.offline_read {p : Path} (given : settings.constants = some p) :
    (read p).FailsOnly (Failure.Offline settings) := by
  refine FailsOnly.getFiles.bind fun fs => ?_
  split
  · rename_i fault refused
    refine .fail ?_
    unfold FileFault.toFailure
    split
    · exact .defect _
    · exact .files (.constants given fault)
  · split
    · exact (failsOnly_report _ _).bind fun _ => .pure _
    · exact (failsOnly_report _ _).bind fun _ => .fail (.defect _)

theorem SourceSearch.defective_run (directory : Path) (extension : String) :
    (run directory extension).FailsOnly Failure.IsDefect := by
  refine FailsOnly.getFiles.bind fun fs => ?_
  split
  · exact .fail (FileFault.isDefect_unforeseen _ _)
  · exact (FailsOnly.ofExcept (defective_pattern extension)).bind fun _ => .pure _
  · exact (FailsOnly.log _ _ _).bind fun _ => .pure _

theorem RoutineResult.failsOnly_failed {P : Failure → Prop} (path : Path) (name : String)
    (reason : Option StaleReason) (remade : Bool) (e : LoaderError) :
    (failed path name reason remade e).FailsOnly P :=
  (FailsOnly.log _ _ _).bind fun _ => .pure _

theorem defective_assess (path : Path) (record : Option BuildRecord) (table : ReplaceTable)
    (entry : Option CatalogEntry) :
    (assess settings path record table entry).FailsOnly Failure.IsDefect := by
  refine FailsOnly.getFiles.bind fun fs => ?_
  split
  · exact RoutineResult.failsOnly_failed _ _ _ _ _
  · rename_i other loaded
    exact .fail (Failure.isDefect_of_ne other)
  · refine (FailsOnly.ofExcept (Freshness.defective_judge _ _ _ _ _)).bind fun judged => ?_
    cases judged with
    | upToDate record => exact (FailsOnly.log _ _ _).bind fun _ => .pure _
    | stale reason =>
      dsimp only
      split
      · exact RoutineResult.failsOnly_failed _ _ _ _ _
      · exact (FailsOnly.log _ _ _).bind fun _ => .pure _

theorem Check.defective_result (table : Option ReplaceTable) (path : Path) :
    (result settings table path).FailsOnly Failure.IsDefect := by
  refine FailsOnly.getFiles.bind fun fs => ?_
  split
  · exact RoutineResult.failsOnly_failed _ _ _ _ _
  · rename_i other loaded
    exact .fail (Failure.isDefect_of_ne other)
  · exact (FailsOnly.log _ _ _).bind fun _ => .pure _

theorem offline_check (paths : List Path) :
    (check settings paths).FailsOnly (Failure.Offline settings) := by
  have each (table : Option ReplaceTable) :
      ((sortPaths paths).mapM (Check.result settings table)).FailsOnly (Failure.Offline settings) :=
    .mapM fun path _ => (Check.defective_result table path).mono fun _ => Failure.IsDefect.offline
  unfold check
  split
  · rename_i p given
    exact ((Constants.offline_read given).map some).bind each
  · exact (FailsOnly.pure none).bind each

namespace Batch

theorem stops_paths (only : Option (List Path)) :
    (paths settings only).FailsOnly (Failure.Stops settings) := by
  cases only with
  | some only => exact .pure _
  | none => exact (SourceSearch.defective_run _ _).mono fun _ => Failure.IsDefect.stops

theorem stops_build :
    (ReplaceTable.build connector.layer settings.constants).FailsOnly (Failure.Stops settings) := by
  have types : (ColumnTypes.fetch connector.layer).FailsOnly (Failure.Stops settings) :=
    (stops_rows connector (by simp)).bind fun rows =>
      (stops_ofDefective (by simp)).bind fun _ => .pure _
  refine types.bind fun types => ?_
  split
  · rename_i p given
    refine ((Constants.offline_read given).mono fun _ => .offline).bind fun _ => ?_
    exact (FailsOnly.log _ _ _).bind fun _ => .pure _
  · exact (FailsOnly.log _ _ _).bind fun _ => .pure _

theorem stops_prepare :
    (prepare settings connector.layer).FailsOnly (Failure.Stops settings) := by
  have store : (RecordStore.read settings.store).FailsOnly (Failure.Stops settings) :=
    stops_ofStore (FailsOnly.getFiles.bind fun fs => .ofExcept (RecordStore.ofStore_load fs _))
  have catalog : (RoutineCatalog.fetch connector.layer).FailsOnly (Failure.Stops settings) :=
    (stops_rows connector (by simp)).bind fun rows =>
      stops_ofDefective (RoutineCatalog.defective_ofRows rows)
  exact store.bind fun _ => catalog.bind fun _ => (stops_build connector).bind fun _ => .pure _

theorem stops_routine (start : Start) (source : String × Path) :
    (routine settings connector.layer start source).FailsOnly (Failure.Stops settings) := by
  unfold routine
  split
  · exact (defective_assess _ _ _ _).mono fun _ => Failure.IsDefect.stops
  · intro w e v run
    have lost := losesAtWorst_compile settings connector.layer _ _ _ _ w e v run
    cases e with
    | error e => exact .connection (by simpa [Failure.isConnectionLoss] using lost)
    | defect d => exact .offline (.defect d)

/-- A drop that is refused is no failure, unless the connection is lost. -/
theorem stops_dropObsolete (entry : CatalogEntry) (name : Atom) :
    (dropObsolete connector.layer entry name).FailsOnly (Failure.Stops settings) := by
  have drop : (dropRoutine connector.layer entry.routineType (.atom name)).FailsOnly
      fun e => ∃ sql, Sql.Connector.Refuses sql e := by
    refine (FailsOnly.ofExcept ?_).bind fun sql => ?_
    · exact (defective_dropStatement _ _).mono fun _ defective => ⟨"", .of_isDefect defective⟩
    · exact ((connector.failsOnly_execute sql).mono fun _ h => ⟨sql, h⟩).bind fun _ => .pure _
  refine drop.attempt_bind fun outcome refuses => ?_
  cases outcome with
  | ok sql => exact (FailsOnly.log _ _ _).bind fun _ => .pure _
  | error e =>
    obtain ⟨sql, ⟨kind, -⟩ | d⟩ := ErrsOnly.error_iff.1 refuses
    · dsimp only
      split
      · exact (FailsOnly.log _ _ _).bind fun _ => .pure _
      · rename_i e other
        refine .raise (.connection ?_)
        cases of : e.kind <;> simp_all [ErrorKind.isDataLayer]
    · exact .fail (.offline (.defect d))

theorem stops_dropAllObsolete (catalog : RoutineCatalog) (known : List String) :
    (dropAllObsolete settings connector.layer catalog known).FailsOnly (Failure.Stops settings) := by
  unfold dropAllObsolete
  split
  · refine (stops_ofDefective (Atom.defective_inOrder _)).bind fun names => ?_
    refine (FailsOnly.mapM fun name _ => ?_).bind fun _ => .pure _
    unfold obsolete
    split
    · exact .pure _
    · split
      · exact (FailsOnly.log _ _ _).bind fun _ => .pure _
      · exact (stops_dropObsolete connector _ _).bind fun _ => .pure _
  · exact .pure _

theorem stops_prune (store : RecordStore) (known : List String) :
    (prune store known).FailsOnly (Failure.Stops settings) :=
  (stops_ofDefective (Atom.defective_inOrder _)).bind fun _ =>
    (FailsOnly.forM fun _ _ => .log _ _ _).bind fun _ => .pure _

theorem stops_settle (only : Option (List Path)) :
    (settle settings connector.layer only).FailsOnly (Failure.Stops settings) := by
  have rejecting (ps : List Path) :
      (rejectDuplicates (groups settings.extension ps)).FailsOnly (Failure.Stops settings) :=
    .mapM fun _ _ => RoutineResult.failsOnly_failed _ _ _ _ _
  have opening : (opening settings connector.layer only).FailsOnly (Failure.Stops settings) :=
    (stops_paths only).bind fun ps => (rejecting ps).bind fun _ =>
      (stops_prepare connector).bind fun _ => .pure _
  rw [settle_eq]
  refine opening.bind fun o => ?_
  refine (FailsOnly.mapM fun source _ => stops_routine connector _ source).bind fun handled => ?_
  dsimp only
  split
  · refine FailsOnly.bind ?_ fun _ => .pure _
    exact (stops_dropAllObsolete connector _ _).bind fun _ => (stops_prune _ _).bind fun _ => .pure _
  · exact .pure _

end Batch

theorem stops_loadAll (only : Option (List Path)) :
    (loadAll settings connector.layer only).FailsOnly (Failure.Stops settings) := by
  refine (Batch.stops_settle connector only).bind fun settled => ?_
  refine FailsOnly.bind ?_ fun _ => (FailsOnly.log _ _ _).bind fun _ => .pure _
  unfold Batch.finish
  split
  · exact .log _ _ _
  · exact stops_ofStore (RecordStore.ofStore_write _)

theorem stops_open (options : Sql.ConnectOptions) :
    (connector.open options).FailsOnly (Failure.Stops settings) := by
  intro w e v run
  rcases Sql.Connector.open_cases connector options w with ⟨-, opened⟩ | ⟨-, -, d, misused⟩ |
    ⟨-, -, e', text, -, refused⟩ | ⟨-, -, -, opened⟩
  · cases opened.symm.trans run
  · cases misused.symm.trans run
    exact .offline (.defect d)
  · cases refused.symm.trans run
    exact .connection rfl
  · cases opened.symm.trans run

theorem stops_within {α : Type} (options : Sql.ConnectOptions) {x : Loader α}
    (h : x.FailsOnly (Failure.Stops settings)) :
    (connector.within options x).FailsOnly (Failure.Stops settings) := by
  refine (stops_open connector options).bind fun _ => h.attempt_bind fun outcome stops => ?_
  refine FailsOnly.bind ?_ fun _ => .ofExcept stops
  -- Closing never fails.
  intro w e v run
  obtain ⟨u, closing, -⟩ := connector.run_close w
  rw [closing] at run
  cases run

end Batches

theorem Loader.attempt_bind_pure {α β γ : Type} (x : Loader α) (f : α → β)
    (k : Except Failure β → Loader γ) :
    ((x >>= fun a => pure (f a)).attempt >>= k) = (x.attempt >>= fun r => k (r.map f)) := by
  funext w
  change ((x >>= fun a => pure (f a)).attempt >>= k).run w = (x.attempt >>= fun r => k (r.map f)).run w
  rw [run_bind_of_ok (run_attempt _ w), run_bind_of_ok (run_attempt x w)]
  cases ran : x.run w with
  | mk r v =>
    cases r with
    | error e => rw [run_bind_of_error ran]; rfl
    | ok a => rw [run_bind_of_ok ran]; rfl

namespace Command

def Environment.NamesDatabase (env : Environment) : Prop :=
  (∀ name ∈ requiredNames, env.valueOr name "" ≠ "") ∧
    ∃ n, Text.integer? (env.valueOr "DB_PORT" "3306") = some n

theorem Environment.namesDatabase_iff (env : Environment) :
    env.NamesDatabase ↔ ∃ options, env.connectOptions = .ok options := by
  have given : (requiredNames.filter fun n => (env.valueOr n "").isEmpty) = [] ↔
      ∀ name ∈ requiredNames, env.valueOr name "" ≠ "" := by
    simp [List.filter_eq_nil_iff]
  unfold NamesDatabase connectOptions
  rw [← given]
  cases missing : requiredNames.filter fun n => (env.valueOr n "").isEmpty with
  | nil => cases number : Text.integer? (env.valueOr "DB_PORT" "3306") <;> simp [number]
  | cons name names => simp

/-- How the work of a command ends if nothing stops it. -/
inductive Ending where
  /-- The environment names no database. -/
  | refused (fault : CredentialFault)
  | loaded (batch : BatchResult)
  | checked (results : List RoutineResult)

def Ending.results? : Ending → Option (List RoutineResult)
  | refused _ => none
  | loaded batch => some batch.results
  | checked results => some results

/-- The lines that are printed about the end of the work. -/
def Ending.report : Ending → List Report.Line
  | refused _ => []
  | loaded batch => Report.batch batch
  | checked results => results.map Report.checked

/-- The placeholders that the report names. -/
def Ending.toldTokens : Ending → List Atom
  | loaded batch => batch.results.filterMap (·.toldToken?)
  | _ => []

variable (connector : Sql.Connector) (env : Environment) (a : Arguments)

/-- The work of loading routines: all that is done but for what is said about it. -/
def loading : Loader Ending :=
  match env.connectOptions with
  | .error fault => return .refused fault
  | .ok options => do
    let batch := loadAll (a.settings env) connector.layer (restriction a.files)
    return .loaded (← connector.within options batch)

def checking : Loader Ending := do
  let settings := a.settings env
  let paths ←
    match restriction a.files with
    | some paths => pure paths
    | none => SourceSearch.run settings.sourceDirectory settings.extension
  return .checked (← check settings paths)

def work : Loader Ending :=
  match a.task with
  | .load => loading connector env a
  | .check => checking env a

/-- What a command says about the end of its work, and its exit code. -/
def conclude (task : Task) : Except Failure Ending → Loader Nat
  | .ok (.refused fault) => do
    complainAll fault.lines
    return 2
  | .ok (.loaded batch) => do
    printAll (Report.batch batch)
    return if batch.succeeded then 0 else 1
  | .ok (.checked results) => do
    printAll (results.map Report.checked)
    return if results.all (·.succeeded) then 0 else 1
  | .error e =>
    match task with
    | .load => concede e
    | .check => concedeConstants e

theorem load_eq : load connector env a = (loading connector env a).attempt >>= conclude .load := by
  unfold load loading
  cases env.connectOptions with
  | error fault => rfl
  | ok options =>
    dsimp only
    rw [attempt_bind_pure]
    congr
    funext r
    cases r <;> rfl

theorem run_checked (paths : List Path) (w : World) :
    ((check (a.settings env) paths).attempt >>= fun r =>
      match r with
      | .error e => concedeConstants e
      | .ok results => do
        printAll (results.map Report.checked)
        return if results.all (·.succeeded) then 0 else 1).run w =
    ((check (a.settings env) paths >>= fun results => pure (Ending.checked results)).attempt >>=
      conclude .check).run w := by
  rw [attempt_bind_pure]
  congr
  funext r
  cases r <;> rfl

theorem checkSources_eq : checkSources env a = (checking env a).attempt >>= conclude .check := by
  unfold checkSources checking
  funext w
  dsimp only
  cases restriction a.files with
  | some paths => exact run_checked env a paths w
  | none =>
    dsimp only
    cases found : (SourceSearch.run (a.settings env).sourceDirectory
        (a.settings env).extension).run w with
    | mk r u =>
      cases r with
      | ok paths =>
        refine (run_bind_of_ok found).trans ((run_checked env a paths u).trans ?_)
        change _ = ((_ : Loader Ending).attempt >>= conclude .check).run w
        rw [run_bind_of_ok (run_attempt _ w), run_bind_of_ok (run_attempt _ u), run_bind_of_ok found]
      | error e =>
        refine (run_bind_of_error found).trans ?_
        change _ = ((_ : Loader Ending).attempt >>= conclude .check).run w
        rw [run_bind_of_ok (run_attempt _ w), run_bind_of_error found]
        -- The search is outside the attempt, but it fails with nothing that has an exit code.
        cases e with
        | error e => exact (SourceSearch.defective_run _ _ _ _ _ found).elim
        | defect d => rfl

/-- A command does its work, and then says how it ended. -/
theorem run_eq : run connector env a = (work connector env a).attempt >>= conclude a.task := by
  unfold run work
  cases a.task with
  | load => exact load_eq connector env a
  | check => exact checkSources_eq env a

theorem stops_loading : (loading connector env a).FailsOnly (Failure.Stops (a.settings env)) := by
  unfold loading
  split
  · exact .pure _
  · exact (stops_within connector _ (stops_loadAll connector _)).bind fun _ => .pure _

theorem offline_checking : (checking env a).FailsOnly (Failure.Offline (a.settings env)) := by
  have checked (paths : List Path) :
      (check (a.settings env) paths >>= fun results => pure (Ending.checked results)).FailsOnly
        (Failure.Offline (a.settings env)) :=
    (offline_check paths).bind fun _ => .pure _
  unfold checking
  dsimp only
  split
  · exact checked _
  · exact ((SourceSearch.defective_run _ _).mono fun _ => Failure.IsDefect.offline).bind checked

theorem run_complainAll (lines : List String) (w : World) :
    ∃ v, (complainAll lines).run w = (.ok (), v) := by
  induction lines generalizing w with
  | nil => exact ⟨w, rfl⟩
  | cons line lines ih => exact ih _

theorem succeeded_iff (batch : BatchResult) :
    batch.succeeded = batch.results.all (·.succeeded) := by
  rw [Bool.eq_iff_iff]
  simp [BatchResult.succeeded, BatchResult.failed, List.filter_eq_nil_iff]

/-- How the end of the work and the exit of the command go together. -/
inductive Leaves : Except Failure Ending → Except Failure Nat → Prop where
  | refused {fault : CredentialFault} (loads : a.task = .load)
    (nameless : env.connectOptions = .error fault) : Leaves (.ok (.refused fault)) (.ok 2)
  | succeeded {ending : Ending} {results : List RoutineResult}
    (came : ending.results? = some results) (fine : ∀ r ∈ results, r.succeeded = true)
    (told : Report.fault? ending.report = none) : Leaves (.ok ending) (.ok 0)
  | failed {ending : Ending} {results : List RoutineResult}
    (came : ending.results? = some results) (stopped : ∃ r ∈ results, r.succeeded = false)
    (told : Report.fault? ending.report = none) : Leaves (.ok ending) (.ok 1)
  | untold {ending : Ending} {line : Report.Line}
    (first : Report.fault? ending.report = some line) :
    Leaves (.ok ending) (.error (.defect (Report.encodingFault line)))
  | files {e : LoaderError} (about : e.AboutFiles (a.settings env)) :
    Leaves (.error (.error e)) (.ok 2)
  | connection {e : LoaderError} (lost : e.kind = .connection) : Leaves (.error (.error e)) (.ok 1)
  | question {e : LoaderError} (refused : e.kind = .dataLayer)
    (asked : e.circumstances.sql ∈ [RoutineCatalog.query, ColumnTypes.query]) :
    Leaves (.error (.error e)) (.error (.error e))
  | defect (d : Defect) : Leaves (.error (.defect d)) (.error (.defect d))

theorem leaves_of_results {ending : Ending} {results : List RoutineResult}
    (came : ending.results? = some results) (w : World) :
    Leaves env a (.ok ending) ((do
      printAll ending.report
      return if results.all (·.succeeded) then 0 else 1 : Loader Nat).run w).1 := by
  have printed := run_printAll ending.report w
  cases fault : Report.fault? ending.report with
  | some line =>
    rw [fault] at printed
    rw [run_bind_of_error (run_eq_of_fst printed)]
    exact .untold fault
  | none =>
    rw [fault] at printed
    rw [run_bind_of_ok (run_eq_of_fst printed), run_pure]
    by_cases fine : results.all (·.succeeded) = true
    · rw [if_pos fine]
      exact .succeeded came (List.all_eq_true.1 fine) fault
    · rw [if_neg fine]
      refine .failed came ?_ fault
      simpa using fine

variable {connector env a}

theorem leaves_of_offline {e : Failure} (h : e.Offline (a.settings env)) (w : World) :
    Leaves env a (.error e) ((conclude a.task (.error e)).run w).1 := by
  cases h with
  | @files e about =>
    have exits : ((conclude a.task (.error (.error e))).run w).1 = .ok 2 := by
      cases a.task <;> simp only [conclude, concedeConstants, concede, exitForFailure, about.kind] <;>
        rfl
    rw [exits]
    exact .files about
  | defect d =>
    have exits : ((conclude a.task (.error (.defect d))).run w).1 = .error (.defect d) := by
      cases a.task <;> rfl
    rw [exits]
    exact .defect d

theorem leaves_of_stops (loads : a.task = .load) {e : Failure} (h : e.Stops (a.settings env))
    (w : World) : Leaves env a (.error e) ((conclude a.task (.error e)).run w).1 := by
  cases h with
  | offline h => exact leaves_of_offline h w
  | @connection e lost =>
    have exits : ((conclude a.task (.error (.error e))).run w).1 = .ok 1 := by
      simp only [loads, conclude, concede, exitForFailure, lost]
      rfl
    rw [exits]
    exact .connection lost
  | @question e refused asked =>
    have exits : ((conclude a.task (.error (.error e))).run w).1 = .error (.error e) := by
      simp only [loads, conclude, concede, exitForFailure, refused]
      rfl
    rw [exits]
    exact .question refused asked

theorem of_loading_refused {w v : World} {fault : CredentialFault}
    (ran : (loading connector env a).run w = (.ok (.refused fault), v)) :
    env.connectOptions = .error fault := by
  unfold loading at ran
  split at ran
  · rename_i fault' nameless
    cases ran
    exact nameless
  · obtain ⟨batch, u, -, last⟩ := run_bind_eq_ok.1 ran
    cases last

theorem checked_of_checking {ending : Ending} {w v : World}
    (ran : (checking env a).run w = (.ok ending, v)) : ∃ results, ending = .checked results := by
  unfold checking at ran
  dsimp only at ran
  split at ran
  all_goals
    obtain ⟨_, _, -, rest⟩ := run_bind_eq_ok.1 ran
    obtain ⟨results, _, -, last⟩ := run_bind_eq_ok.1 rest
    cases last
    exact ⟨results, rfl⟩

theorem of_work_refused {w v : World} {fault : CredentialFault}
    (ran : (work connector env a).run w = (.ok (.refused fault), v)) :
    a.task = .load ∧ env.connectOptions = .error fault := by
  unfold work at ran
  cases task : a.task with
  | load =>
    rw [task] at ran
    exact ⟨rfl, of_loading_refused ran⟩
  | check =>
    rw [task] at ran
    obtain ⟨results, other⟩ := checked_of_checking ran
    cases other

variable (connector env a)

theorem leaves (w : World) :
    Leaves env a ((work connector env a).run w).1 ((run connector env a).run w).1 := by
  rw [run_eq, run_bind_of_ok (run_attempt _ w)]
  cases ran : (work connector env a).run w with
  | mk outcome v =>
    dsimp only
    rcases outcome with e | fault | batch | results
    · unfold work at ran
      split at ran
      · rename_i loads
        exact leaves_of_stops loads (stops_loading connector env a _ _ _ ran) v
      · exact leaves_of_offline (offline_checking env a _ _ _ ran) v
    · obtain ⟨loads, nameless⟩ := of_work_refused ran
      obtain ⟨u, said⟩ := run_complainAll fault.lines v
      have exits : (conclude a.task (.ok (.refused fault))).run v = (.ok 2, u) := run_bind_of_ok said
      rw [exits]
      exact .refused loads nameless
    · have came : (Ending.loaded batch).results? = some batch.results := rfl
      have results := leaves_of_results env a came v
      rwa [← succeeded_iff] at results
    · have came : (Ending.checked results).results? = some results := rfl
      exact leaves_of_results env a came v

/-- The exit of a command tells what became of its work. -/
structure Telling (outcome : Except Failure Ending) (exit : Except Failure Nat) : Prop where
  success : exit = .ok 0 ↔ ∃ ending results, outcome = .ok ending ∧
    ending.results? = some results ∧ (∀ r ∈ results, r.succeeded = true) ∧
    Report.fault? ending.report = none
  failure : exit = .ok 1 ↔
    (∃ ending results, outcome = .ok ending ∧ ending.results? = some results ∧
      (∃ r ∈ results, r.succeeded = false) ∧ Report.fault? ending.report = none) ∨
    ∃ e, outcome = .error (.error e) ∧ e.kind = .connection
  unusable : exit = .ok 2 ↔
    (a.task = .load ∧ ¬ env.NamesDatabase) ∨
    ∃ e, outcome = .error (.error e) ∧ e.AboutFiles (a.settings env)
  no_other : ∀ code, exit = .ok code → code ≤ 2
  /-- What ends a command without an exit code: a refused question, a defect, or a line that cannot be
  printed once the work is done. -/
  escape : ∀ e, exit = .error e ↔
    (outcome = .error e ∧ (e.IsDefect ∨ ∃ error, e = .error error ∧ error.kind = .dataLayer ∧
      error.circumstances.sql ∈ [RoutineCatalog.query, ColumnTypes.query])) ∨
    ∃ ending line, outcome = .ok ending ∧ Report.fault? ending.report = some line ∧
      e = .defect (Report.encodingFault line)

variable {connector env a}

namespace Leaves

variable {outcome : Except Failure Ending} {exit : Except Failure Nat}

theorem exit_of_results {ending : Ending} (h : Leaves env a (.ok ending) exit)
    {results : List RoutineResult} (came : ending.results? = some results)
    (told : Report.fault? ending.report = none) :
    (exit = .ok 0 ∧ ∀ r ∈ results, r.succeeded = true) ∨
      (exit = .ok 1 ∧ ∃ r ∈ results, r.succeeded = false) := by
  cases h with
  | refused => cases came
  | succeeded came' fine =>
    obtain rfl := Option.some.inj (came.symm.trans came')
    exact .inl ⟨rfl, fine⟩
  | failed came' stopped =>
    obtain rfl := Option.some.inj (came.symm.trans came')
    exact .inr ⟨rfl, stopped⟩
  | untold first => cases told.symm.trans first

theorem success_iff (h : Leaves env a outcome exit) : exit = .ok 0 ↔
    ∃ ending results, outcome = .ok ending ∧ ending.results? = some results ∧
      (∀ r ∈ results, r.succeeded = true) ∧ Report.fault? ending.report = none := by
  constructor
  · rintro rfl
    cases h with
    | succeeded came fine told => exact ⟨_, _, rfl, came, fine, told⟩
  · rintro ⟨ending, results, rfl, came, fine, told⟩
    rcases h.exit_of_results came told with ⟨zero, -⟩ | ⟨-, r, member, bad⟩
    · exact zero
    · rw [fine r member] at bad
      cases bad

theorem failure_iff (h : Leaves env a outcome exit) : exit = .ok 1 ↔
    (∃ ending results, outcome = .ok ending ∧ ending.results? = some results ∧
      (∃ r ∈ results, r.succeeded = false) ∧ Report.fault? ending.report = none) ∨
    ∃ e, outcome = .error (.error e) ∧ e.kind = .connection := by
  constructor
  · rintro rfl
    cases h with
    | failed came stopped told => exact .inl ⟨_, _, rfl, came, stopped, told⟩
    | connection lost => exact .inr ⟨_, rfl, lost⟩
  · rintro (⟨ending, results, rfl, came, ⟨r, member, bad⟩, told⟩ | ⟨e, rfl, lost⟩)
    · rcases h.exit_of_results came told with ⟨-, fine⟩ | ⟨one, -⟩
      · rw [fine r member] at bad
        cases bad
      · exact one
    · cases h with
      | files about => cases about.kind.symm.trans lost
      | connection => rfl
      | question refused => cases refused.symm.trans lost

theorem unusable_iff (h : Leaves env a outcome exit)
    (refuses : a.task = .load → ¬ env.NamesDatabase → ∃ fault, outcome = .ok (.refused fault)) :
    exit = .ok 2 ↔ (a.task = .load ∧ ¬ env.NamesDatabase) ∨
      ∃ e, outcome = .error (.error e) ∧ e.AboutFiles (a.settings env) := by
  constructor
  · rintro rfl
    cases h with
    | refused loads nameless =>
      exact .inl ⟨loads, by simp [Environment.namesDatabase_iff, nameless]⟩
    | files about => exact .inr ⟨_, rfl, about⟩
  · rintro (⟨loads, unnamed⟩ | ⟨e, rfl, about⟩)
    · obtain ⟨fault, rfl⟩ := refuses loads unnamed
      cases h with
      | refused => rfl
      | succeeded came => cases came
      | failed came => cases came
      | untold first => cases first
    · cases h with
      | files => rfl
      | connection lost => cases about.kind.symm.trans lost
      | question refused => cases about.kind.symm.trans refused

theorem escape_iff (h : Leaves env a outcome exit) (e : Failure) : exit = .error e ↔
    (outcome = .error e ∧ (e.IsDefect ∨ ∃ error, e = .error error ∧ error.kind = .dataLayer ∧
      error.circumstances.sql ∈ [RoutineCatalog.query, ColumnTypes.query])) ∨
    ∃ ending line, outcome = .ok ending ∧ Report.fault? ending.report = some line ∧
      e = .defect (Report.encodingFault line) := by
  constructor
  · rintro rfl
    cases h with
    | question refused asked => exact .inl ⟨rfl, .inr ⟨_, rfl, refused, asked⟩⟩
    | defect d => exact .inl ⟨rfl, .inl trivial⟩
    | untold first => exact .inr ⟨_, _, rfl, first, rfl⟩
  · rintro (⟨rfl, defective | ⟨error, rfl, refused, asked⟩⟩ | ⟨ending, line, rfl, first, rfl⟩)
    · cases h with
      | defect => rfl
      | files | connection | question => exact defective.elim
    · cases h with
      | files about => cases about.kind.symm.trans refused
      | connection lost => cases lost.symm.trans refused
      | question => rfl
    · cases h with
      | refused => cases first
      | succeeded came fine told | failed came stopped told => cases told.symm.trans first
      | untold first' =>
        obtain rfl := Option.some.inj (first.symm.trans first')
        rfl

theorem telling (h : Leaves env a outcome exit)
    (refuses : a.task = .load → ¬ env.NamesDatabase → ∃ fault, outcome = .ok (.refused fault)) :
    Telling env a outcome exit where
  success := h.success_iff
  failure := h.failure_iff
  unusable := h.unusable_iff refuses
  no_other := by
    rintro code rfl
    cases h <;> omega
  escape := h.escape_iff

end Leaves

variable (connector env a)

theorem refused_of_nameless (loads : a.task = .load) (unnamed : ¬ env.NamesDatabase) (w : World) :
    ∃ fault, ((work connector env a).run w).1 = .ok (.refused fault) := by
  rw [Environment.namesDatabase_iff] at unnamed
  unfold work loading
  rw [loads]
  cases named : env.connectOptions with
  | ok options => exact (unnamed ⟨options, named⟩).elim
  | error fault => exact ⟨fault, rfl⟩

variable {connector env a}

theorem loadAll_of_work {batch : BatchResult} {w v : World}
    (ran : (work connector env a).run w = (.ok (.loaded batch), v)) :
    ∃ t u, (loadAll (a.settings env) connector.layer (restriction a.files)).run t =
      (.ok batch, u) := by
  unfold work at ran
  split at ran
  · unfold loading at ran
    split at ran
    · cases ran
    · obtain ⟨batch', _, within, last⟩ := run_bind_eq_ok.1 ran
      cases last
      obtain ⟨_, t, -, rest⟩ := run_bind_eq_ok.1 within
      obtain ⟨outcome, u, attempted, rest⟩ := run_bind_eq_ok.1 rest
      obtain ⟨_, _, -, last⟩ := run_bind_eq_ok.1 rest
      rw [run_ofExcept] at last
      cases (Prod.mk.inj last).1
      exact ⟨t, u, run_attempt_eq_ok.1 attempted⟩
  · obtain ⟨results, other⟩ := checked_of_checking ran
    cases other

/-- The report of a work that came to its end can be printed but for the names of placeholders. -/
theorem fault?_report_eq_none_iff {ending : Ending} {w : World}
    (ended : ((work connector env a).run w).1 = .ok ending) :
    Report.fault? ending.report = none ↔ ∀ token ∈ ending.toldTokens, token.Encodable := by
  rw [Report.fault?_eq_none_iff]
  cases ending with
  | refused fault => simp [Ending.report, Ending.toldTokens]
  | checked results => simp [Ending.report, Ending.toldTokens, Report.printable_checked]
  | loaded batch =>
    obtain ⟨t, u, run⟩ := loadAll_of_work (run_eq_of_fst ended)
    rw [Ending.report, Report.printable_batch_iff (texts_of_loadAll run)]
    simp only [Ending.toldTokens, List.mem_filterMap]
    exact ⟨fun h token ⟨r, member, told⟩ => h r member token told,
      fun h r member token told => h token ⟨r, member, told⟩⟩

variable (connector env a)

/-- Whatever the arguments, the environment, the files and the connector: a command does its work and
then says how it ended, and its exit tells what became of the work. Of a work that came to its end
all can be said unless a placeholder of an old record has a name that holds a surrogate. -/
theorem exit_tells_outcome :
    run connector env a = (work connector env a).attempt >>= conclude a.task ∧
      (∀ w, Telling env a ((work connector env a).run w).1 ((run connector env a).run w).1) ∧
      ∀ w ending, ((work connector env a).run w).1 = .ok ending →
        (Report.fault? ending.report = none ↔ ∀ token ∈ ending.toldTokens, token.Encodable) := by
  refine ⟨run_eq connector env a, fun w => (leaves connector env a w).telling ?_,
    fun w ending ended => fault?_report_eq_none_iff ended⟩
  intro loads unnamed
  exact refused_of_nameless connector env a loads unnamed w

namespace Sample

def denying : Sql.Connector where
  connectError _ := none
  cursorError _ := none
  statementError _ _ := some ⟨false, "denied", some 1142, some "42000"⟩
  rows _ _ := []
  cursorCloseError _ := none
  closeError _ := none

def environment : Environment :=
  [("DB_HOST", "h"), ("DB_USER", "u"), ("DB_PASSWORD", "p"), ("DB_NAME", "d")]

end Sample

/-- The server refuses the question for the catalog, and no exit code says so. -/
theorem refused_question_escapes :
    let exit := ((run Sample.denying Sample.environment { task := .load }).run
      { files := .empty ["w"] }).1
    exit = .error (.error (.ofStatement .dataLayer "MySQL error: 1142 (42000): denied"
        RoutineCatalog.query)) ∧ ∀ code, exit ≠ .ok code := by
  intro exit
  have escapes : exit = .error (.error (.ofStatement .dataLayer
      "MySQL error: 1142 (42000): denied" RoutineCatalog.query)) := rfl
  refine ⟨escapes, fun code same => ?_⟩
  rw [escapes] at same
  cases same

end Command

end StoredRoutines
