import StoredRoutines.Proofs.ConnectionLoss
import StoredRoutines.Proofs.Plans
import StoredRoutines.Proofs.Retries

/-!
The statements that are executed for one routine. A stale routine whose source can be read is made,
then its parameters are asked for, and the table of a bulk insert routine is looked at. Nothing else
is executed, nothing is executed twice or out of order, and a statement that fails is the last but
for the drop of a temporary table.
-/

namespace StoredRoutines

open Loader Outcomes TraceProperty

/-- The answer of the database says that the table is a permanent one. -/
def Sql.Database.holdsTable (db : Sql.Database) (before : List String) (table : Value) : Bool :=
  match db.layer.quoteValue table with
  | .ok literal => !(db.scalar before (BulkTable.existsQuery literal)).isNothing
  | .error _ => false

namespace BulkTable

/-- The step that describes a temporary table and drops it. -/
def describingStep (table : Value) : Except Failure (List String) := do
  return [← describeQuery table, ← BulkTable.dropStatement table]

/-- The statements that look at a table. A temporary one is made for them and dropped again. -/
def plan (layer : Sql.DataLayer) (routine table : Value) (permanent : Bool) : Plan :=
  Plan.single ((layer.quoteValue table).map existsQuery) ::
    if permanent then [Plan.single (describeQuery table)]
    else [Plan.single (callStatement routine), describingStep table]

variable {db : Sql.Database}

theorem executes_isPermanent (table : Value) (w : World) : (isPermanent db.layer table).Executes db
    [Plan.single ((db.layer.quoteValue table).map existsQuery)] w := by
  refine Executes.ofExcept_bind (fun literal quoted => ?_)
  rw [quoted]
  exact (Executes.scalar _ w).bind_quiet fun _ => allowsQuiet_quiet.pure _

theorem run_isPermanent {table : Value} {w v : World} {permanent : Bool}
    (run : (isPermanent db.layer table).run w = (.ok permanent, v)) :
    db.holdsTable w.statements table = permanent := by
  obtain ⟨literal, u, quoting, rest⟩ := run_bind_eq_ok.1 run
  obtain ⟨quoted, rfl⟩ := Prod.mk.inj ((run_ofExcept _ _).symm.trans quoting)
  obtain ⟨answer, u', asked, last⟩ := run_bind_eq_ok.1 rest
  cases last
  have answered := db.run_answer db.scalar (existsQuery literal) w
  cases failed : db.failure w.statements (existsQuery literal) with
  | some e =>
    rw [failed] at answered
    cases answered.symm.trans asked
  | none =>
    rw [failed] at answered
    cases answered.symm.trans asked
    rw [Sql.Database.holdsTable, quoted]

theorem executes_columns (table : Value) (w : World) :
    (columns db.layer table).Executes db [Plan.single (describeQuery table)] w := by
  refine Executes.ofExcept_bind (fun sql described => ?_)
  rw [described]
  refine (Executes.rows _ w).bind_quiet fun rows => ?_
  exact allowsQuiet_quiet.bind (allowsQuiet_quiet.ofExcept (by simp)) fun _ =>
    allowsQuiet_quiet.pure _

variable (db) in
theorem statements_of_columns (table : Value) (w : World) :
    ((columns db.layer table).run w).2.statements =
      w.statements ++ (describeQuery table).toOption.toList := by
  cases described : describeQuery table with
  | error e =>
    rw [run_columns_of_undescribed described]
    exact (List.append_nil _).symm
  | ok sql =>
    rw [run_columns_of_described described]
    exact World.statements_after _ _

theorem dropStatement_of_undescribed {table : Value} {e : Failure}
    (h : describeQuery table = .error e) : BulkTable.dropStatement table = .error e := by
  rcases bind_eq_error.1 h with unquoted | ⟨name, -, failed⟩
  · exact bind_eq_error.2 (.inl unquoted)
  · cases failed

theorem run_execute_ofExcept {α : Type} (sql : String) (outcome : Except Failure α) (w : World) :
    (db.layer.execute sql >>= fun _ => Loader.ofExcept outcome).run w =
      ((db.failure w.statements sql).elim outcome fun e => .error (.error e),
        w.after [.statement sql]) := by
  cases failed : db.failure w.statements sql with
  | some e => exact run_bind_of_error (Sql.Database.run_execute_of_some failed)
  | none =>
    rw [run_bind_of_ok (Sql.Database.run_execute_of_none failed), run_ofExcept]
    rfl

/-- The drop of a temporary table is executed behind its description, whether that fails or not. -/
theorem executes_dropped {α : Type} {table : Value} {x : Loader α} {w : World}
    (describes : x.Executes db [Plan.single (describeQuery table)] w)
    (asked : (x.run w).2.statements = w.statements ++ (describeQuery table).toOption.toList) :
    (x.attempt >>= fun outcome => Loader.ofExcept (BulkTable.dropStatement table) >>= fun drop =>
      db.layer.execute drop >>= fun _ => Loader.ofExcept outcome).Executes db
        [describingStep table] w := by
  have started := run_bind_of_ok (run_attempt x w) (f := fun outcome =>
    Loader.ofExcept (BulkTable.dropStatement table) >>= fun drop =>
      db.layer.execute drop >>= fun _ => Loader.ofExcept outcome)
  cases described : describeQuery table with
  | error e =>
    -- No name of the table can be written, so neither statement is executed.
    rw [dropStatement_of_undescribed described] at started ⊢
    rw [described] at asked
    exact Executes.of_error started (asked.trans (List.append_nil _))
  | ok sql =>
    obtain ⟨drop, dropping⟩ := dropStatement_of_described described
    have step : describingStep table = .ok [sql, drop] := by
      rw [describingStep, described, dropping]
      rfl
    rw [described] at asked
    change _ = w.statements ++ [sql] at asked
    have both : ((x.run w).2.after [.statement drop]).statements = w.statements ++ [sql, drop] := by
      rw [World.statements_after, asked, List.append_assoc]
      rfl
    rw [dropping] at started ⊢
    rw [step]
    have ended := started.trans (run_execute_ofExcept drop (x.run w).1 (x.run w).2)
    refine ⟨[[sql, drop]], ?_, ⟨List.prefix_refl _, trivial⟩, fun a value => ⟨rfl, ?_⟩⟩
    · rw [ended]
      exact both
    -- A value behind the drop is the value behind the description, so both succeeded.
    · obtain ⟨executed, statements, -, complete⟩ := describes
      rw [ended] at value
      cases failed : db.failure (x.run w).2.statements drop with
      | some e =>
        rw [failed] at value
        cases value
      | none =>
        rw [failed] at value
        rw [asked] at failed
        obtain ⟨-, performed⟩ := complete a value
        rw [List.append_cancel_left (statements.symm.trans asked)] at performed
        exact ⟨performed.1, failed, trivial⟩

theorem executes_declaredColumns (routine table : Value) (declared : Nat) (source : String)
    (w : World) : (declaredColumns db.layer routine table declared source).Executes db
      (plan db.layer routine table (db.holdsTable w.statements table)) w := by
  have describes (temporary : Bool) (v : World) :
      (look db.layer table temporary).Executes db [Plan.single (describeQuery table)] v :=
    (executes_columns table v).bind_quiet fun _ =>
      allowsQuiet_quiet.bind (allowsQuiet_quiet.log _ _ _) fun _ => allowsQuiet_quiet.pure _
  have asked (v : World) : ((look db.layer table true).run v).2.statements =
      v.statements ++ (describeQuery table).toOption.toList :=
    (run_look db.layer table true v).2.1.trans (statements_of_columns db table v)
  refine Executes.bind_quiet (x := whileMaterialized db.layer routine table (look db.layer table)) ?_ fun found => ?_
  · refine (executes_isPermanent table w).bind fun permanent v answered => ?_
    rw [run_isPermanent answered]
    cases permanent with
    | true => exact describes false v
    | false =>
      change Executes _ db ([Plan.single (callStatement routine)] ++ [describingStep table]) v
      refine Executes.ofExcept_bind fun call written => ?_
      rw [written]
      exact (Executes.execute call v).bind fun _ u _ => executes_dropped (describes true u) (asked u)
  · split
    · exact allowsQuiet_quiet.pure _
    · exact allowsQuiet_quiet.fail rfl

end BulkTable

def makingPlan (layer : Sql.DataLayer) (directory : List String) (source : RoutineSource)
    (a : Annotations) (session : SessionSettings) (entry : Option CatalogEntry) : Plan :=
  (entry.toList.map fun e => Plan.single (dropStatement e.routineType (.text a.routineName))) ++
    (Plan.ofStatements (session.statements layer.escape) ++
      [Plan.single (createStatement layer directory source a)])

theorem executes_dropRoutine {db : Sql.Database} (type name : Value) (w : World) :
    (dropRoutine db.layer type name).Executes db [Plan.single (dropStatement type name)] w := by
  refine Executes.ofExcept_bind fun sql written => ?_
  rw [written]
  exact (Executes.execute sql w).bind_quiet fun _ => allowsQuiet_quiet.pure _

theorem executes_loadRoutine {db : Sql.Database} (source : RoutineSource) (a : Annotations)
    (session : SessionSettings) (entry : Option CatalogEntry) (w : World) :
    (loadRoutine db.layer source a session entry).Executes db
      (makingPlan db.layer w.files.workingDirectory source a session entry) w := by
  refine Executes.quiet_bind (allowsQuiet_quiet.log _ _ _) fun _ v logged => ?_
  cases logged
  refine Executes.getFiles_bind (Executes.ofExcept_bind fun create written => ?_)
  have creates (u : World) : (session.apply db.layer >>= fun _ => db.layer.execute create >>=
      fun _ => pure create).Executes db
        (Plan.ofStatements (session.statements db.layer.escape) ++
          [Plan.single (createStatement db.layer w.files.workingDirectory source a)]) u := by
    rw [show createStatement db.layer w.files.workingDirectory source a = .ok create from written]
    refine (Executes.forM_execute _ u).bind fun _ v _ => ?_
    exact (Executes.execute create v).bind_quiet fun _ => allowsQuiet_quiet.pure _
  cases entry with
  | none => exact creates _
  | some entry => exact (executes_dropRoutine _ _ _).bind fun _ u _ => creates u

namespace Compile

/-- The statements that look at the table of a bulk insert routine; there are none for others. -/
def bulkPlan (db : Sql.Database) (before : List String) (a : Annotations) : Plan :=
  match a.designation with
  | .bulkInsert table _ => BulkTable.plan db.layer (.text a.routineName) (.text table)
      (db.holdsTable before (.text table))
  | _ => []

def describingPlan (db : Sql.Database) (before : List String) (a : Annotations) : Plan :=
  let question := CatalogParameter.query (db.layer.quote a.routineName)
  .ok [question] :: bulkPlan db (before ++ [question]) a

/-- The statements for one routine, in their order, after those executed before. -/
def protocol (settings : LoaderSettings) (db : Sql.Database) (w : World) (source : RoutineSource)
    (a : Annotations) (entry : Option CatalogEntry) : Plan :=
  let making := makingPlan db.layer w.files.workingDirectory source a settings.session entry
  making ++ describingPlan db (w.statements ++ making.written) a

variable {db : Sql.Database} {settings : LoaderSettings} {source : RoutineSource}
  {a : Annotations} {table : ReplaceTable} {entry : Option CatalogEntry}

theorem executes_make (annotated : Annotations.ofSource source table = .ok a) (w : World) :
    (make settings db.layer source table entry).Executes db
      (makingPlan db.layer w.files.workingDirectory source a settings.session entry) w := by
  unfold make
  rw [annotated]
  exact (executes_loadRoutine source a _ entry w).bind_quiet fun _ => allowsQuiet_quiet.pure _

variable (db) in
theorem executes_bulkColumns (source : RoutineSource) (a : Annotations) (w : World) :
    (bulkColumns db.layer source a).Executes db (bulkPlan db w.statements a) w := by
  unfold bulkColumns bulkPlan
  cases a.designation with
  | bulkInsert table columns => exact BulkTable.executes_declaredColumns _ _ _ _ w
  | _ => exact Executes.pure _ w

variable (db) in
theorem executes_describe (source : RoutineSource) (a : Annotations) (w : World) :
    (describe db.layer source a).Executes db (describingPlan db w.statements a) w := by
  have fetches : (CatalogParameter.fetch db.layer a.routineName).Executes db
      [.ok [CatalogParameter.query (db.layer.quote a.routineName)]] w :=
    (Executes.rows _ w).bind_quiet fun rows => allowsQuiet_quiet.ofExcept (by simp)
  refine fetches.bind fun reported v fetched => ?_
  have asked := fetches.statements_of_ok fetched
  refine Executes.ofExcept_bind fun parameters merged => ?_
  have looks := executes_bulkColumns db source a v
  rw [asked] at looks
  refine looks.bind_quiet fun columns => ?_
  exact allowsQuiet_quiet.bind (RoutineDoc.traces_build allowsQuiet_quiet source parameters)
    fun _ => allowsQuiet_quiet.pure _

/-- A routine whose source could be scanned is rebuilt by the statements of its protocol. -/
theorem rebuild_keeps_protocol (annotated : Annotations.ofSource source table = .ok a)
    {reason : StaleReason} {w v : World} {result : Except Failure RoutineResult}
    (run : (rebuild settings db.layer source table entry reason).run w = (result, v)) :
    ∃ executed, v.statements = w.statements ++ executed.flatten ∧
      db.KeepsTo (protocol settings db w source a entry) w.statements executed := by
  have rebuilt := rebuildsTo_of_run run
  have makes : (make settings db.layer source table entry).Executes db _ w :=
    executes_make annotated w
  cases making : (make settings db.layer source table entry).run w with
  | mk r u =>
    cases r with
    | error e =>
      obtain ⟨executed, statements, keeps, -⟩ := makes
      rw [making] at statements
      exact ⟨executed, (rebuilt.statements_of_unmade making).trans statements, keeps.extend _⟩
    | ok a' =>
      obtain rfl : a' = a := by
        rw [ofSource_of_make making] at annotated
        exact Except.ok.inj annotated
      have made := makes.statements_of_ok making
      obtain ⟨executed, statements, -, complete⟩ := makes
      rw [making] at statements complete
      obtain ⟨whole, performed⟩ := complete a' rfl
      obtain ⟨asked, statements', keeps, -⟩ := executes_describe db source a' u
      rw [made] at keeps statements'
      rw [← whole, Plan.written_map_ok] at keeps statements'
      refine ⟨executed ++ asked, ?_, ?_⟩
      · rw [rebuilt.statements_of_made making, statements', List.flatten_append, List.append_assoc]
      · rw [protocol, ← whole, Plan.written_map_ok]
        exact keeps.after performed

/-- What one compilation may execute: nothing, or the first steps of the protocol of a stale routine
whose source could be read and scanned. -/
def Permits (settings : LoaderSettings) (db : Sql.Database) (path : Path)
    (record : Option BuildRecord) (table : ReplaceTable) (entry : Option CatalogEntry) (w : World)
    (executed : List (List String)) : Prop :=
  executed = [] ∨ ∃ source reason a,
    RoutineSource.load w.files path settings.extension = .ok source ∧
    Freshness.judge record source.modified table settings.session entry = .ok (.stale reason) ∧
    Annotations.ofSource source table = .ok a ∧
    db.KeepsTo (protocol settings db w source a entry) w.statements executed

/-- What the result of a compilation tells: that the routine was made exactly if its creation was
performed, and no record if there was a failure. -/
structure Reports (settings : LoaderSettings) (db : Sql.Database) (path : Path)
    (table : ReplaceTable) (entry : Option CatalogEntry) (w v : World) (r : RoutineResult) :
    Prop where
  remade : r.outcome.isRemade = true ↔ ∃ source,
    RoutineSource.load w.files path settings.extension = .ok source ∧
    Creates db (plan settings db.layer w.files.workingDirectory source table entry) w v
  record : r.succeeded = false → r.outcome.record? = none

theorem record?_of_failed {r : RoutineResult} (failed : r.succeeded = false) :
    r.outcome.record? = none := by
  obtain ⟨path, name, outcome⟩ := r
  cases outcome with
  | failed reason remade e => rfl
  | _ => cases failed

theorem reports_of_silent {path : Path} {w v : World} {r : RoutineResult}
    (silent : v.statements = w.statements) (kept : r.outcome.isRemade = false) :
    Reports settings db path table entry w v r where
  remade := by
    rw [kept]
    refine ⟨fun remade => (Bool.false_ne_true remade).elim, ?_⟩
    rintro ⟨source, -, created⟩
    exact (not_creates_of_silent silent created).elim
  record := record?_of_failed

theorem statements_of_unscanned {e : LoaderError} {reason : StaleReason} {w v : World}
    {result : Except Failure RoutineResult} (failed : Annotations.ofSource source table = .error e)
    (run : (rebuild settings db.layer source table entry reason).run w = (result, v)) :
    v.statements = w.statements :=
  (rebuildsTo_of_run run).statements_of_unmade (run_make_of_unscanned failed w)

theorem rebuild_permits {path : Path} {record : Option BuildRecord} {reason : StaleReason}
    {w v : World} {result : Except Failure RoutineResult}
    (loaded : RoutineSource.load w.files path settings.extension = .ok source)
    (judged : Freshness.judge record source.modified table settings.session entry =
      .ok (.stale reason))
    (run : (rebuild settings db.layer source table entry reason).run w = (result, v)) :
    ∃ executed, v.statements = w.statements ++ executed.flatten ∧
      Permits settings db path record table entry w executed := by
  cases annotated : Annotations.ofSource source table with
  | ok a =>
    obtain ⟨executed, statements, keeps⟩ := rebuild_keeps_protocol annotated run
    exact ⟨executed, statements, .inr ⟨source, reason, a, loaded, judged, annotated, keeps⟩⟩
  | error e =>
    refine ⟨[], ?_, .inl rfl⟩
    exact (statements_of_unscanned annotated run).trans (List.append_nil _).symm

end Compile

/-- The statements executed for a routine are the first steps of its protocol, up to one that fails.
There are none unless the routine is stale and its source could be read and scanned. Its result
tells whether it was created. -/
theorem compile_keeps_protocol {db : Sql.Database} {settings : LoaderSettings} {path : Path}
    {record : Option BuildRecord} {table : ReplaceTable} {entry : Option CatalogEntry}
    {w v : World} {result : Except Failure RoutineResult}
    (run : (compile settings db.layer path record table entry).run w = (result, v)) :
    (∃ executed, v.statements = w.statements ++ executed.flatten ∧
      Compile.Permits settings db path record table entry w executed) ∧
    ∀ r, result = .ok r → Compile.Reports settings db path table entry w v r := by
  have nothing (silent : v.statements = w.statements) : ∃ executed,
      v.statements = w.statements ++ executed.flatten ∧
        Compile.Permits settings db path record table entry w executed :=
    ⟨[], by simpa using silent, .inl rfl⟩
  cases Compile.compilesTo_of_run run with
  | unexamined _ stopping =>
    have silent := Compile.statements_of_stop stopping
    refine ⟨nothing silent, fun r ended => ?_⟩
    subst ended
    rw [(Compile.run_stop stopping).1]
    exact Compile.reports_of_silent silent rfl
  | upToDate _ _ silent =>
    refine ⟨nothing silent, fun r ended => ?_⟩
    cases ended
    exact Compile.reports_of_silent silent rfl
  | rebuilt loaded judged rebuilding =>
    refine ⟨Compile.rebuild_permits loaded judged rebuilding, fun r ended => ?_⟩
    subst ended
    obtain ⟨created, -⟩ := Compile.creates_iff_of_rebuild rebuilding
    refine ⟨⟨fun remade => ⟨_, loaded, created.2 remade⟩, ?_⟩, Compile.record?_of_failed⟩
    rintro ⟨source', loaded', performed⟩
    cases loaded.symm.trans loaded'
    exact created.1 performed

def Sample.bulkWorld : World :=
  ⟨filesWith bulkText, false, [.statement RoutineCatalog.query, .statement ColumnTypes.query]⟩

open Sample in
/-- The drop of a temporary table follows its description, which was refused. -/
theorem compile_drops_after_refusal : ∃ r v,
    (compile settings losing.layer path none [] none).run bulkWorld = (.ok r, v) ∧
    v.statements = bulkWorld.statements ++ making ++ questions ∧
    losing.failure (bulkWorld.statements ++ making ++ questions.take 3) "describe `t`" =
      some ⟨.connection, "lost", {}⟩ ∧
    (∃ executed, v.statements = bulkWorld.statements ++ executed.flatten ∧
      Compile.Permits settings losing path none [] none bulkWorld executed) ∧
    Compile.Reports settings losing path [] none bulkWorld v r := by
  obtain ⟨r, v, run, statements⟩ := Sample.run_compile (w := bulkWorld) rfl rfl
  obtain ⟨executed, reports⟩ := compile_keeps_protocol run
  exact ⟨r, v, run, statements, by decide +kernel, executed, reports r rfl⟩

end StoredRoutines
