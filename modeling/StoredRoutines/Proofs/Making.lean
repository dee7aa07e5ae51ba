import StoredRoutines.Proofs.Halting
import StoredRoutines.Proofs.Pieces
import StoredRoutines.Proofs.Results
import StoredRoutines.Proofs.SourceTexts

/-!
Making a routine in the database. The statements that make it are known beforehand; they are
executed in order up to the first that fails, and nothing else is executed.
-/

namespace StoredRoutines

open Loader Outcomes

def droppingStatements (a : Annotations) : Option CatalogEntry → Except Failure (List String)
  | some entry => (dropStatement entry.routineType (.text a.routineName)).map fun sql => [sql]
  | none => .ok []

/-- The statements that make a routine: the drop of its entry in the catalog if it has one, the
settings of the session, and the creation. -/
def makingStatements (layer : Sql.DataLayer) (directory : List String) (source : RoutineSource)
    (a : Annotations) (session : SessionSettings) (entry : Option CatalogEntry) :
    Except Failure (List String) := do
  let create ← createStatement layer directory source a
  let drops ← droppingStatements a entry
  return drops ++ (session.statements layer.escape ++ [create])

def Compile.plan (settings : LoaderSettings) (layer : Sql.DataLayer) (directory : List String)
    (source : RoutineSource) (table : ReplaceTable) (entry : Option CatalogEntry) :
    Except Failure (List String) := do
  let a ← (Annotations.ofSource source table).mapError .error
  makingStatements layer directory source a settings.session entry

namespace Sql.Database

variable {db : Sql.Database}

/-- None of the statements fails, after those before them. -/
def Performs (db : Sql.Database) (before : List String) : List String → Prop
  | [] => True
  | sql :: sqls => db.failure before sql = none ∧ db.Performs (before ++ [sql]) sqls

/-- The execution of planned statements leads from the statements before to those after. It says
whether all of them were performed. -/
inductive Execution (db : Sql.Database) (plan : Except Failure (List String))
    (before after : List String) : Bool → Prop
  | unplanned {e : Failure} (failed : plan = .error e) (none : after = before) :
      Execution db plan before after false
  | stopped {pre post : List String} {sql : String} (planned : plan = .ok (pre ++ sql :: post))
      (executed : after = before ++ pre ++ [sql]) (failed : db.failure (before ++ pre) sql ≠ none) :
      Execution db plan before after false
  | completed {sqls : List String} (planned : plan = .ok sqls) (executed : after = before ++ sqls)
      (performed : db.Performs before sqls) : Execution db plan before after true

theorem performs_append {before sqls more : List String} :
    db.Performs before (sqls ++ more) ↔
      db.Performs before sqls ∧ db.Performs (before ++ sqls) more := by
  induction sqls generalizing before with
  | nil => simp [Performs]
  | cons sql sqls ih => simp [Performs, ih, and_assoc]

theorem run_execute_of_none {sql : String} {w : World} (h : db.failure w.statements sql = none) :
    (db.layer.execute sql).run w = (.ok (), w.after [.statement sql]) := by
  have answered := db.run_answer (fun _ _ => ()) sql w
  rw [h] at answered
  exact answered

theorem run_execute_of_some {sql : String} {w : World} {e : LoaderError}
    (h : db.failure w.statements sql = some e) :
    (db.layer.execute sql).run w = (.error (.error e), w.after [.statement sql]) := by
  have answered := db.run_answer (fun _ _ => ()) sql w
  rw [h] at answered
  exact answered

theorem run_rows_of_none {sql : String} {w : World} (h : db.failure w.statements sql = none) :
    (db.layer.rows sql).run w = (.ok (db.rows w.statements sql), w.after [.statement sql]) := by
  have answered := db.run_answer db.rows sql w
  rw [h] at answered
  exact answered

theorem run_rows_of_some {sql : String} {w : World} {e : LoaderError}
    (h : db.failure w.statements sql = some e) :
    (db.layer.rows sql).run w = (.error (.error e), w.after [.statement sql]) := by
  have answered := db.run_answer db.rows sql w
  rw [h] at answered
  exact answered

theorem run_rows_eq_ok {sql : String} {w v : World} {rows : List Sql.Row} :
    (db.layer.rows sql).run w = (.ok rows, v) ↔
      db.failure w.statements sql = none ∧ db.rows w.statements sql = rows ∧
        v = w.after [.statement sql] := by
  cases h : db.failure w.statements sql with
  | some e => simp [run_rows_of_some h]
  | none => simp [run_rows_of_none h, eq_comm]

theorem run_scalar_of_none {sql : String} {w : World} (h : db.failure w.statements sql = none) :
    (db.layer.scalar sql).run w = (.ok (db.scalar w.statements sql), w.after [.statement sql]) := by
  have answered := db.run_answer db.scalar sql w
  rw [h] at answered
  exact answered

theorem execution_of_run {sqls : List String} {w v : World} {r : Except Failure Unit}
    (run : (sqls.forM db.layer.execute).run w = (r, v)) :
    db.Execution (.ok sqls) w.statements v.statements r.isOk ∧ v.files = w.files := by
  induction sqls generalizing w with
  | nil =>
    cases run
    exact ⟨.completed rfl (List.append_nil _).symm trivial, rfl⟩
  | cons sql sqls ih =>
    change (db.layer.execute sql >>= fun _ => sqls.forM db.layer.execute).run w = (r, v) at run
    cases failed : db.failure w.statements sql with
    | some e =>
      rw [run_bind_of_error (run_execute_of_some failed)] at run
      cases run
      have planned : Except.ok (sql :: sqls) = (.ok ([] ++ sql :: sqls) : Except Failure _) := rfl
      refine ⟨.stopped planned (by simp) ?_, rfl⟩
      simp [failed]
    | none =>
      rw [run_bind_of_ok (run_execute_of_none failed)] at run
      obtain ⟨rest, files⟩ := ih run
      refine ⟨?_, files⟩
      rw [World.statements_after] at rest
      generalize r.isOk = complete at rest ⊢
      cases rest with
      | unplanned failed _ => cases failed
      | stopped planned executed stop =>
        cases planned
        refine .stopped (congrArg Except.ok (List.cons_append ..).symm) (by simpa using executed) ?_
        simpa using stop
      | completed planned executed performed =>
        cases planned
        exact .completed rfl (by simpa using executed) ⟨failed, by simpa using performed⟩

/-- The statements are executed up to the first that fails. -/
theorem run_forM_of_failed {before rest : List String} {sql : String} {e : LoaderError} {w : World}
    (performed : db.Performs w.statements before)
    (failed : db.failure (w.statements ++ before) sql = some e) :
    ((before ++ sql :: rest).forM db.layer.execute).run w =
      (.error (.error e), w.after ((before ++ [sql]).map .statement)) := by
  induction before generalizing w with
  | nil =>
    rw [List.append_nil] at failed
    exact run_bind_of_error (run_execute_of_some failed)
  | cons first before ih =>
    obtain ⟨answered, performed⟩ := performed
    let u := w.after [.statement first]
    have statements : u.statements = w.statements ++ [first] := World.statements_after _ _
    have later := ih (w := u) (by rwa [statements])
      (by rwa [statements, List.append_assoc])
    rw [World.after_after] at later
    exact (run_bind_of_ok (run_execute_of_none answered)).trans later

end Sql.Database

theorem forM_append_eq {α : Type} (f : α → Loader Unit) (as bs : List α) :
    (as ++ bs).forM f = (as.forM f >>= fun _ => bs.forM f) := by
  induction as with
  | nil => rfl
  | cons a as ih =>
    change (f a >>= fun _ => (as ++ bs).forM f) = ((f a >>= fun _ => as.forM f) >>= fun _ => _)
    rw [bind_assoc, ih]

def loadingLine (a : Annotations) : Event :=
  .log ⟨.info, .routines, "Loading " ++ a.header.routineType ++ " " ++ a.routineName⟩

theorem run_loadRoutine (layer : Sql.DataLayer) (source : RoutineSource) (a : Annotations)
    (session : SessionSettings) (entry : Option CatalogEntry) (w : World) :
    ∃ sql, (loadRoutine layer source a session entry).run w =
      (Loader.ofExcept (makingStatements layer w.files.workingDirectory source a session entry) >>=
        fun sqls => sqls.forM layer.execute >>= fun _ => pure sql).run
          (w.after [loadingLine a]) := by
  have single (sql : String) : [sql].forM layer.execute = layer.execute sql := bind_pure_unit
  -- The settings and the statement after them are one list of statements to execute.
  have making (create : String) : (session.apply layer >>= fun _ => layer.execute create >>= fun _ =>
      pure create) = ((session.statements layer.escape ++ [create]).forM layer.execute >>=
        fun _ => (pure create : Loader String)) := by
    rw [forM_append_eq, bind_assoc, single]
    rfl
  have started : (loadRoutine layer source a session entry).run w =
      (Loader.ofExcept (createStatement layer w.files.workingDirectory source a) >>= fun create =>
        match entry with
        | some entry => dropRoutine layer entry.routineType (.text a.routineName) >>= fun _ =>
            session.apply layer >>= fun _ => layer.execute create >>= fun _ => pure create
        | none => session.apply layer >>= fun _ => layer.execute create >>= fun _ =>
            pure create).run (w.after [loadingLine a]) := by
    cases entry <;> rfl
  rw [started, makingStatements]
  cases creating : createStatement layer w.files.workingDirectory source a with
  | error e => exact ⟨"", rfl⟩
  | ok create =>
    refine ⟨create, ?_⟩
    rw [run_bind_of_ok (run_ofExcept _ _), making]
    cases entry with
    | none => rfl
    | some entry =>
      cases dropped : dropStatement entry.routineType (.text a.routineName) with
      | error e =>
        simp only [dropRoutine, droppingStatements, dropped]
        rfl
      | ok drop =>
        have planned : (droppingStatements a (some entry) >>= fun drops =>
            pure (drops ++ (session.statements layer.escape ++ [create]))) =
              .ok (drop :: (session.statements layer.escape ++ [create])) := by
          rw [droppingStatements, dropped]
          rfl
        have first : (drop :: (session.statements layer.escape ++ [create])).forM layer.execute =
            (layer.execute drop >>= fun _ =>
              (session.statements layer.escape ++ [create]).forM layer.execute) := rfl
        change _ = (Loader.ofExcept (droppingStatements a (some entry) >>= fun drops =>
          pure (drops ++ (session.statements layer.escape ++ [create]))) >>= _).run _
        rw [planned, run_bind_of_ok (run_ofExcept _ _), first, bind_assoc]
        simp only [dropRoutine, dropped, ofExcept_ok, pure_bind, bind_assoc]

theorem execution_of_loadRoutine {db : Sql.Database} {source : RoutineSource} {a : Annotations}
    {session : SessionSettings} {entry : Option CatalogEntry} {w v : World}
    {r : Except Failure String}
    (run : (loadRoutine db.layer source a session entry).run w = (r, v)) :
    db.Execution (makingStatements db.layer w.files.workingDirectory source a session entry)
      w.statements v.statements r.isOk ∧ v.files = w.files := by
  have before : (w.after [loadingLine a]).statements = w.statements := by
    rw [World.statements_after]
    exact List.append_nil _
  obtain ⟨create, loading⟩ := run_loadRoutine db.layer source a session entry w
  rw [loading] at run
  cases statements : makingStatements db.layer w.files.workingDirectory source a session entry with
  | error e =>
    rw [statements] at run
    cases run
    exact ⟨.unplanned rfl before, rfl⟩
  | ok sqls =>
    rw [statements, run_bind_of_ok (run_ofExcept _ _)] at run
    rw [run_bind_pure] at run
    cases executing : (sqls.forM db.layer.execute).run (w.after [loadingLine a]) with
    | mk r' u =>
      obtain ⟨execution, files⟩ := Sql.Database.execution_of_run executing
      rw [before] at execution
      rw [executing] at run
      cases run
      rw [isOk_map]
      exact ⟨execution, files⟩

def RoutineDoc.warnings (source : RoutineSource) (names : List Key) : List String :=
  (DocMismatch.between names ((comment source).parameterDescriptions.map fun d =>
    ⟨.text d.1⟩)).map DocMismatch.warning

theorem RoutineDoc.build_yields {source : RoutineSource} {parameters : List CatalogParameter}
    {doc : RoutineDoc} {names : List Key}
    (documented : ofComment source.label (comment source) parameters = .ok doc)
    (named : parameters.mapM (·.name.asKey) = .ok names) (w : World) :
    (build source parameters).Yields w (doc, warnings source names) := by
  refine (Yields.ofExcept documented w).bind (fun es => ?_)
  refine (Yields.ofExcept named _).bind (fun es => ?_)
  refine Yields.bind ?_ (fun es => Yields.pure _ _)
  exact (Yields.forM (fun _ _ w => Yields.log _ _ _ w) _).bind (fun es => Yields.pure _ _)

namespace Compile

theorem run_make_of_unscanned {settings : LoaderSettings} {layer : Sql.DataLayer}
    {source : RoutineSource} {table : ReplaceTable} {entry : Option CatalogEntry} {e : LoaderError}
    (failed : Annotations.ofSource source table = .error e) (w : World) :
    (make settings layer source table entry).run w = (.error (.error e), w) := by
  rw [make, failed]
  rfl

theorem run_make_of_scanned {settings : LoaderSettings} {layer : Sql.DataLayer}
    {source : RoutineSource} {table : ReplaceTable} {entry : Option CatalogEntry} {a : Annotations}
    (annotated : Annotations.ofSource source table = .ok a) (w : World) :
    (make settings layer source table entry).run w =
      (((loadRoutine layer source a settings.session entry).run w).1.map fun _ => a,
        ((loadRoutine layer source a settings.session entry).run w).2) := by
  rw [make, annotated]
  exact run_bind_pure _ _ w

/-- Making a routine executes its plan and nothing else. -/
theorem run_make {settings : LoaderSettings} {db : Sql.Database} {source : RoutineSource}
    {table : ReplaceTable} {entry : Option CatalogEntry} {w v : World}
    {r : Except Failure Annotations}
    (run : (make settings db.layer source table entry).run w = (r, v)) :
    db.Execution (plan settings db.layer w.files.workingDirectory source table entry)
      w.statements v.statements r.isOk ∧ v.files = w.files := by
  cases annotated : Annotations.ofSource source table with
  | error e =>
    rw [run_make_of_unscanned annotated] at run
    cases run
    exact ⟨.unplanned (bind_eq_error.2 (.inl (by rw [annotated]; rfl))) rfl, rfl⟩
  | ok a =>
    have planned : plan settings db.layer w.files.workingDirectory source table entry =
        makingStatements db.layer w.files.workingDirectory source a settings.session entry := by
      rw [plan, annotated]
      rfl
    rw [run_make_of_scanned annotated] at run
    cases run
    rw [planned, isOk_map]
    exact execution_of_loadRoutine rfl

theorem ofSource_of_make {settings : LoaderSettings} {layer : Sql.DataLayer}
    {source : RoutineSource} {table : ReplaceTable} {entry : Option CatalogEntry} {a : Annotations}
    {w v : World} (run : (make settings layer source table entry).run w = (.ok a, v)) :
    Annotations.ofSource source table = .ok a := by
  cases annotated : Annotations.ofSource source table with
  | error e =>
    rw [run_make_of_unscanned annotated] at run
    cases run
  | ok a' =>
    rw [run_make_of_scanned annotated] at run
    obtain ⟨_, -, same⟩ := map_eq_ok.1 (Prod.mk.inj run).1
    rw [same]

theorem creation_is_last {settings : LoaderSettings} {layer : Sql.DataLayer}
    {directory : List String} {source : RoutineSource} {table : ReplaceTable}
    {entry : Option CatalogEntry} {sqls : List String}
    (h : plan settings layer directory source table entry = .ok sqls) :
    ∃ before create, sqls = before ++ [create] := by
  obtain ⟨a, -, making⟩ := bind_eq_ok.1 h
  obtain ⟨create, -, rest⟩ := bind_eq_ok.1 making
  obtain ⟨drops, -, last⟩ := bind_eq_ok.1 rest
  cases last
  exact ⟨drops ++ settings.session.statements layer.escape, create, by simp⟩

theorem run_make_of_performs {db : Sql.Database} {settings : LoaderSettings}
    {source : RoutineSource} {a : Annotations} {table : ReplaceTable}
    {entry : Option CatalogEntry} {sqls : List String} {w : World}
    (annotated : Annotations.ofSource source table = .ok a)
    (planned : makingStatements db.layer w.files.workingDirectory source a settings.session entry =
      .ok sqls) (performed : db.Performs w.statements sqls) :
    ∃ u, (make settings db.layer source table entry).run w = (.ok a, u) ∧
      u.statements = w.statements ++ sqls ∧ u.files = w.files := by
  have whole : plan settings db.layer w.files.workingDirectory source table entry = .ok sqls := by
    rw [plan, annotated]
    exact planned
  cases making : (make settings db.layer source table entry).run w with
  | mk made u =>
    obtain ⟨execution, files⟩ := run_make making
    rw [whole] at execution
    cases made with
    | error e =>
      cases execution with
      | unplanned failed _ => cases failed
      | stopped planned _ failed =>
        cases planned
        exact absurd ((Sql.Database.performs_append.1 performed).2).1 failed
    | ok a' =>
      cases execution with
      | completed planned executed _ =>
        cases planned
        cases (ofSource_of_make making).symm.trans annotated
        exact ⟨u, rfl, executed, files⟩

/-- A routine that loses the connection while it is made passes the loss on. -/
theorem run_compile_of_lost {db : Sql.Database} {settings : LoaderSettings} {path : Path}
    {record : Option BuildRecord} {table : ReplaceTable} {entry : Option CatalogEntry}
    {reason : StaleReason} {source : RoutineSource} {a : Annotations} {before rest : List String}
    {sql : String} {e : LoaderError} {w : World}
    (loaded : RoutineSource.load w.files path settings.extension = .ok source)
    (judged : Freshness.judge record source.modified table settings.session entry =
      .ok (.stale reason))
    (annotated : Annotations.ofSource source table = .ok a)
    (planned : makingStatements db.layer w.files.workingDirectory source a settings.session entry =
      .ok (before ++ sql :: rest)) (performed : db.Performs w.statements before)
    (failed : db.failure (w.statements ++ before) sql = some e) (lost : e.kind = .connection) :
    (compile settings db.layer path record table entry).run w =
      (.error (.error e), w.after (loadingLine a :: (before ++ [sql]).map .statement)) := by
  let started := w.after [loadingLine a]
  have silent : started.statements = w.statements := by
    rw [World.statements_after]
    exact List.append_nil _
  have executing : ((before ++ sql :: rest).forM db.layer.execute).run started =
      (.error (.error e), started.after ((before ++ [sql]).map .statement)) :=
    Sql.Database.run_forM_of_failed (by rwa [silent]) (by rwa [silent])
  obtain ⟨create, loading⟩ := run_loadRoutine db.layer source a settings.session entry w
  rw [planned, run_bind_of_ok (run_ofExcept _ _), run_bind_of_error executing, World.after_after]
    at loading
  have making : (make settings db.layer source table entry).run w = _ :=
    run_make_of_scanned annotated w
  rw [loading] at making
  have examined : (examine settings path record table entry).attempt.run w =
      (.ok (.ok (source, .stale reason)), w) := by
    rw [run_attempt_eq_ok, examine_of_loaded loaded, judged]
    rfl
  have made : (make settings db.layer source table entry).attempt.run w =
      (.ok (.error (.error e)), _) := run_attempt_eq_ok.2 making
  have passed (u : World) : (stop source.path source.name reason false (.error e)).run u =
      (.error (.error e), u) := by
    rw [stop, if_pos (by simp [Failure.isConnectionLoss, lost])]
    rfl
  exact (run_bind_of_ok examined).trans ((run_bind_of_ok made).trans (passed _))

/-- What becomes of a routine that was made depends on its description only. -/
theorem run_compile_of_performs {db : Sql.Database} {settings : LoaderSettings} {path : Path}
    {record : Option BuildRecord} {table : ReplaceTable} {entry : Option CatalogEntry}
    {reason : StaleReason} {source : RoutineSource} {a : Annotations} {sqls : List String}
    {w : World} (loaded : RoutineSource.load w.files path settings.extension = .ok source)
    (judged : Freshness.judge record source.modified table settings.session entry =
      .ok (.stale reason))
    (annotated : Annotations.ofSource source table = .ok a)
    (planned : makingStatements db.layer w.files.workingDirectory source a settings.session entry =
      .ok sqls) (performed : db.Performs w.statements sqls) :
    ∃ u, u.statements = w.statements ++ sqls ∧ u.files = w.files ∧
      ∀ described v, (describe db.layer source a).run u = (described, v) →
        (compile settings db.layer path record table entry).run w =
          (match described with
            | .error e => stop source.path source.name reason true e
            | .ok (record, warnings) =>
              pure ⟨source.path, source.name, .loaded reason record warnings⟩).run v := by
  obtain ⟨u, making, statements, files⟩ := run_make_of_performs annotated planned performed
  refine ⟨u, statements, files, fun described v describing => ?_⟩
  have examined : (examine settings path record table entry).attempt.run w =
      (.ok (.ok (source, .stale reason)), w) := by
    rw [run_attempt_eq_ok, examine_of_loaded loaded, judged]
    rfl
  have made : (make settings db.layer source table entry).attempt.run w = (.ok (.ok a), u) :=
    run_attempt_eq_ok.2 making
  have attempted : (describe db.layer source a).attempt.run u = (.ok described, v) :=
    run_attempt_eq_ok.2 describing
  exact (run_bind_of_ok examined).trans ((run_bind_of_ok made).trans (run_bind_of_ok attempted))

/-- A routine that was made, but then could not be described, has failed. -/
theorem run_compile_of_undescribed {db : Sql.Database} {settings : LoaderSettings} {path : Path}
    {record : Option BuildRecord} {table : ReplaceTable} {entry : Option CatalogEntry}
    {reason : StaleReason} {source : RoutineSource} {a : Annotations} {sqls more : List String}
    {e : Failure} {w : World}
    (loaded : RoutineSource.load w.files path settings.extension = .ok source)
    (judged : Freshness.judge record source.modified table settings.session entry =
      .ok (.stale reason))
    (annotated : Annotations.ofSource source table = .ok a)
    (planned : makingStatements db.layer w.files.workingDirectory source a settings.session entry =
      .ok sqls) (performed : db.Performs w.statements sqls)
    (undescribed : ∀ u, u.statements = w.statements ++ sqls → ∃ es,
      (describe db.layer source a).run u = (.error e, u.after es) ∧ Event.statements es = more)
    (kept : e.isConnectionLoss = false) :
    ∃ v, (compile settings db.layer path record table entry).run w =
        (.ok ⟨source.path, source.name, .failed reason true (e.forRoutine source.path.toText)⟩, v) ∧
      v.statements = w.statements ++ sqls ++ more := by
  obtain ⟨u, statements, -, ending⟩ :=
    run_compile_of_performs loaded judged annotated planned performed
  obtain ⟨es, describing, asked⟩ := undescribed u statements
  have stopping : ∃ v, (stop source.path source.name reason true e).run (u.after es) =
      (.ok ⟨source.path, source.name, .failed reason true (e.forRoutine source.path.toText)⟩, v) := by
    rw [stop, if_neg (by simp [kept])]
    exact ⟨_, rfl⟩
  obtain ⟨v, ran⟩ := stopping
  refine ⟨v, (ending _ _ describing).trans ran, ?_⟩
  rw [(run_stop ran).2, World.statements_after, statements, asked]

theorem run_compile_of_described {db : Sql.Database} {settings : LoaderSettings} {path : Path}
    {previous : Option BuildRecord} {table : ReplaceTable} {entry : Option CatalogEntry}
    {reason : StaleReason} {source : RoutineSource} {a : Annotations} {sqls more : List String}
    {record : BuildRecord} {warnings : List String} {w : World}
    (loaded : RoutineSource.load w.files path settings.extension = .ok source)
    (judged : Freshness.judge previous source.modified table settings.session entry =
      .ok (.stale reason))
    (annotated : Annotations.ofSource source table = .ok a)
    (planned : makingStatements db.layer w.files.workingDirectory source a settings.session entry =
      .ok sqls) (performed : db.Performs w.statements sqls)
    (described : ∀ u, u.statements = w.statements ++ sqls → ∃ es,
      (describe db.layer source a).run u = (.ok (record, warnings), u.after es) ∧
        Event.statements es = more) :
    ∃ v, (compile settings db.layer path previous table entry).run w =
        (.ok ⟨source.path, source.name, .loaded reason record warnings⟩, v) ∧
      v.statements = w.statements ++ sqls ++ more ∧ v.files = w.files := by
  obtain ⟨u, statements, files, ending⟩ :=
    run_compile_of_performs loaded judged annotated planned performed
  obtain ⟨es, describing, asked⟩ := described u statements
  refine ⟨_, ending _ _ describing, ?_, files⟩
  rw [World.statements_after, statements, asked]

theorem run_describe_of_reported {db : Sql.Database} {source : RoutineSource} {a : Annotations}
    {u : World} {reported parameters : List CatalogParameter} {doc : RoutineDoc} {names : List Key}
    (answered : db.failure u.statements (CatalogParameter.query (db.layer.quote a.routineName)) =
      none)
    (read : ((db.rows u.statements (CatalogParameter.query (db.layer.quote a.routineName))).filter
      CatalogParameter.isReported).mapM CatalogParameter.ofRow = .ok reported)
    (merged : CatalogParameter.mergeAll reported (a.listParameters.map .ofDeclaration)
      source.label = .ok parameters)
    (plain : bulkColumns db.layer source a = pure {})
    (documented : RoutineDoc.ofComment source.label (RoutineDoc.comment source) parameters = .ok doc)
    (named : parameters.mapM (·.name.asKey) = .ok names) :
    ∃ es, (describe db.layer source a).run u =
        (.ok ((BuildRecord.ofBuild source a parameters {} doc).justMade,
          RoutineDoc.warnings source names), u.after es) ∧
      Event.statements es = [CatalogParameter.query (db.layer.quote a.routineName)] := by
  let asked : List Event := [.statement (CatalogParameter.query (db.layer.quote a.routineName))]
  have fetched : (CatalogParameter.fetch db.layer a.routineName).run u =
      (.ok reported, u.after asked) := by
    rw [CatalogParameter.fetch, run_bind_of_ok (Sql.Database.run_rows_of_none answered),
      run_ofExcept, read]
  obtain ⟨es, building, silent⟩ := RoutineDoc.build_yields documented named (u.after asked)
  refine ⟨asked ++ es, ?_, ?_⟩
  · rw [describe, run_bind_of_ok fetched, merged, plain]
    refine (run_bind_of_ok (run_ofExcept _ _)).trans ((run_bind_of_ok (run_pure _ _)).trans ?_)
    refine (run_bind_of_ok building).trans ?_
    rw [World.after_after]
    rfl
  · rw [Event.statements_append, silent]
    rfl

end Compile

namespace Sample

def path : Path := ⟨"/", ["a.psql"]⟩

def session : SessionSettings := ⟨"", "utf8", "utf8_bin"⟩

def settings : LoaderSettings where
  sourceDirectory := ⟨"/", []⟩
  extension := ".psql"
  store := ⟨"/", ["s.json"]⟩
  session := session

def text : String := "create procedure a()\n-- type: rows\nbegin\nend\n"

def source : RoutineSource := ⟨path, ".psql", text, 0⟩

def annotations : Annotations := ⟨⟨"procedure", "a"⟩, .plain "rows", [], []⟩

def filesWith (text : String) : FileSystem := ⟨[(["a.psql"], .file ⟨text.toUTF8, 0⟩)], []⟩

def world (text : String) : World := ⟨filesWith text, true, []⟩

theorem load_filesWith {text : String} {c : Char} {cs : List Char}
    (spelled : text = String.ofList (c :: cs)) (ascii : c.toNat < 128) (none : '\r' ∉ c :: cs) :
    RoutineSource.load (filesWith text) path ".psql" = .ok ⟨path, ".psql", text, 0⟩ := by
  have read : (filesWith text).read path = .ok ⟨text.toUTF8, 0⟩ := rfl
  have whole : Number.wholeSeconds 0 = 0 := by decide
  have loaded := RoutineSource.load_of_read read rfl spelled ascii none ".psql"
  rwa [whole] at loaded

theorem load_source : RoutineSource.load (filesWith text) path ".psql" = .ok source :=
  load_filesWith rfl (by decide) (by decide)

theorem resolve_source : Placeholder.resolve source [] = .ok [] := by
  have find : Placeholder.find source.text = [] :=
    RoutineSource.find_of_spelled rfl (by decide +kernel)
  simp [Placeholder.resolve, find, Placeholder.sortTexts]

theorem lines_source :
    source.lines = ["create procedure a()", "-- type: rows", "begin", "end", ""] :=
  RoutineSource.lines_of_spelled rfl rfl

theorem ofSource_source : Annotations.ofSource source [] = .ok annotations := by
  have designation : Designation.ofSource source = .ok (.plain "rows", 1) :=
    RoutineSource.designation_of_lines lines_source rfl
  have header : Header.ofSource source = .ok ⟨"procedure", "a"⟩ :=
    RoutineSource.header_of_spelled rfl rfl rfl
  simp only [Annotations.ofSource, resolve_source, designation, header]
  rfl

open Substitution in
theorem createStatement_source (layer : Sql.DataLayer) (directory : List String) :
    createStatement layer directory source annotations = .ok text := by
  have none : ∀ l ∈ source.lines, ∀ t ∈ l.toList.tails, Piece.at? t = none := by
    rw [lines_source]
    decide +kernel
  exact source_of_no_key resolve_source rfl none layer.quote directory "a"

/-- A database that performs every statement, and has rows only for the first. -/
def answering (first : List Sql.Row) : Sql.Database where
  failure _ _ := none
  rows before _ := if before.isEmpty then first else []
  scalar _ _ := .null
  escape := Sql.escapeForScript

theorem performs_answering (first : List Sql.Row) (before sqls : List String) :
    (answering first).Performs before sqls := by
  induction sqls generalizing before with
  | nil => trivial
  | cons sql sqls ih => exact ⟨rfl, ih _⟩

def recordOf (source : RoutineSource) (a : Annotations) : BuildRecord :=
  let comment := RoutineDoc.comment source
  (BuildRecord.ofBuild source a [] {} ⟨.text comment.short, .text comment.long, []⟩).justMade

theorem run_compile_answering {first : List Sql.Row} {settings : LoaderSettings} {path : Path}
    {previous : Option BuildRecord} {table : ReplaceTable} {entry : Option CatalogEntry}
    {reason : StaleReason} {source : RoutineSource} {a : Annotations} {sqls : List String}
    {name : String} {w : World}
    (loaded : RoutineSource.load w.files path settings.extension = .ok source)
    (judged : Freshness.judge previous source.modified table settings.session entry =
      .ok (.stale reason))
    (annotated : Annotations.ofSource source table = .ok a) (plain : a.designation = .plain name)
    (undeclared : a.listParameters = [])
    (planned : makingStatements (answering first).layer w.files.workingDirectory source a
      settings.session entry = .ok sqls) :
    ∃ v, (compile settings (answering first).layer path previous table entry).run w =
        (.ok ⟨source.path, source.name,
          .loaded reason (recordOf source a) (RoutineDoc.warnings source [])⟩, v) ∧
      v.statements = w.statements ++ sqls ++
        [CatalogParameter.query ((answering first).layer.quote a.routineName)] ∧
      v.files = w.files := by
  have some : sqls ≠ [] := by
    have whole : Compile.plan settings (answering first).layer w.files.workingDirectory source
        table entry = .ok sqls := by
      rw [Compile.plan, annotated]
      exact planned
    obtain ⟨before, create, rfl⟩ := Compile.creation_is_last whole
    simp
  refine Compile.run_compile_of_described loaded judged annotated planned
    (performs_answering _ _ _) (fun u executed => ?_)
  have silent (sql : String) : (answering first).rows u.statements sql = [] := by
    simp [answering, executed, some]
  refine Compile.run_describe_of_reported rfl (by rw [silent]; rfl) ?_ ?_ rfl rfl
  · rw [undeclared]
    rfl
  · rw [Compile.bulkColumns, plain]

end Sample

end StoredRoutines
