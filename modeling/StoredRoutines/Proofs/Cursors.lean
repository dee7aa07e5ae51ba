import StoredRoutines.Proofs.Connections
import StoredRoutines.Proofs.Failing

/-!
Cursors. A step that sends a statement has at most one cursor, which is closed when the statement
was executed and before the step ends. Whatever the connector says to the closing, the step ends
with what it said before, told apart by what it means for the connection.
-/

namespace StoredRoutines.Sql

open Loader Outcomes

inductive StatementStep where
  | execute
  | rows
  | scalar
  deriving DecidableEq, Repr

namespace StatementStep

def mode : StatementStep → CursorMode
  | execute => .buffered
  | rows | scalar => .dictionary

def Answer : StatementStep → Type
  | execute => Unit
  | rows => List Row
  | scalar => Value

def perform (connector : Connector) (sql : String) : (step : StatementStep) → Loader step.Answer
  | execute => connector.layer.execute sql
  | rows => connector.layer.rows sql
  | scalar => connector.layer.scalar sql

end StatementStep

def firstColumn (sql : String) (found : List Row) : Except Failure Value :=
  match found with
  | [] => .ok .null
  | [row] =>
    match row with
    | [] => .error (.defect .emptyRow)
    | cell :: _ => .ok cell.2
  | found => .error (.error (.ofStatement .dataLayer
      ("Expected at most one row, got " ++ toString found.length ++ ".") sql))

/-- What a step makes of the rows that a connector handed out. -/
def StatementStep.read (sql : String) :
    (step : StatementStep) → List Row → Except Failure step.Answer
  | execute, _ => .ok ()
  | rows, found => found.mapM Connector.decodeRow
  | scalar, found => found.mapM Connector.decodeRow >>= firstColumn sql

namespace Connector

variable {connector : Connector} {sql : String} {w : World}

theorem queryScalar_eq (connector : Connector) (sql : String) : connector.queryScalar sql =
    connector.queryRows sql >>= fun rows => Loader.ofExcept (firstColumn sql rows) := by
  unfold queryScalar
  congr 1
  funext rows
  match rows with
  | [] | [[]] | [_ :: _] | _ :: _ :: _ => rfl

theorem perform_eq (connector : Connector) (sql : String) (step : StatementStep) :
    step.perform connector sql =
      connector.withCursor step.mode sql >>= fun rows => Loader.ofExcept (step.read sql rows) := by
  cases step with
  | execute => rfl
  | rows => rfl
  | scalar =>
    have same : StatementStep.scalar.perform connector sql = connector.queryScalar sql := rfl
    rw [same, queryScalar_eq, queryRows, bind_assoc]
    congr 1
    funext found
    simp only [StatementStep.read]
    cases found.mapM decodeRow <;> rfl

theorem outcome_bind_ofExcept {α β : Type} (x : Loader α) (f : α → Except Failure β) (w : World) :
    (x >>= fun a => Loader.ofExcept (f a)).run w = ((x.run w).1 >>= f, (x.run w).2) := by
  rw [run_bind]
  cases x.run w with
  | mk r v =>
    cases r with
    | error e => rfl
    | ok a => exact run_ofExcept _ _

/-- The connector raises the error in a step: it hands out no cursor, or it does not execute the
statement, or it does not hand out the rows. -/
inductive Raises (connector : Connector) (history : List Event) (sql : String) :
    CursorMode → ConnectorError → Prop
  | opening {mode : CursorMode} {e : ConnectorError}
    (refused : connector.cursorError history = some e) : Raises connector history sql mode e
  | executing {mode : CursorMode} {e : ConnectorError}
    (granted : connector.cursorError history = none)
    (failed : connector.statementError (history ++ [.cursor mode]) sql = some e) :
    Raises connector history sql mode e
  | fetching {e : ConnectorError} (granted : connector.cursorError history = none)
    (executed : connector.statementError (history ++ [.cursor .dictionary]) sql = none)
    (failed : connector.fetchError (history ++ [.cursor .dictionary]) sql = some e) :
    Raises connector history sql .dictionary e

def handedOut (connector : Connector) (mode : CursorMode) (sql : String)
    (history : List Event) : Except ConnectorError (List Row) :=
  match connector.cursorError history with
  | some e => .error e
  | none => connector.reply mode sql (history ++ [.cursor mode])

theorem handedOut_eq_error_iff {mode : CursorMode} {history : List Event} {e : ConnectorError} :
    connector.handedOut mode sql history = .error e ↔ connector.Raises history sql mode e := by
  constructor
  · intro failed
    cases granted : connector.cursorError history with
    | some e' =>
      simp only [handedOut, granted, Except.error.injEq] at failed
      exact .opening (granted.trans (congrArg some failed))
    | none =>
      cases executed : connector.statementError (history ++ [.cursor mode]) sql with
      | some e' =>
        simp only [handedOut, reply, granted, executed, Except.error.injEq] at failed
        exact .executing granted (executed.trans (congrArg some failed))
      | none =>
        cases mode with
        | buffered => simp [handedOut, reply, rowsError, granted, executed] at failed
        | dictionary =>
          cases fetched : connector.fetchError (history ++ [.cursor .dictionary]) sql with
          | some e' =>
            simp only [handedOut, reply, rowsError, granted, executed, fetched,
              Except.error.injEq] at failed
            exact .fetching granted executed (fetched.trans (congrArg some failed))
          | none => simp [handedOut, reply, rowsError, granted, executed, fetched] at failed
  · intro raised
    cases raised with
    | opening refused => simp [handedOut, refused]
    | executing granted failed => simp [handedOut, reply, granted, failed]
    | fetching granted executed failed =>
      simp [handedOut, reply, rowsError, granted, executed, failed]

theorem handedOut_of_not_raises {mode : CursorMode} {history : List Event}
    (none : ∀ e, ¬ connector.Raises history sql mode e) : connector.handedOut mode sql history =
      .ok (connector.rows (history ++ [.cursor mode]) sql) := by
  cases out : connector.handedOut mode sql history with
  | error e => exact absurd (handedOut_eq_error_iff.1 out) (none e)
  | ok found =>
    unfold handedOut reply at out
    split at out
    · cases out
    · split at out <;> cases out
      rfl

def stepEvents (connector : Connector) (mode : CursorMode) (sql : String)
    (history : List Event) : List Event :=
  match connector.cursorError history with
  | some _ => [.refusedCursor mode]
  | none => connector.cursorScope mode sql history

theorem run_withCursor (mode : CursorMode) (sql : String) (held : w.connected = true) :
    (connector.withCursor mode sql).run w =
      ((connector.handedOut mode sql w.history).mapError fun e => .error (e.toLoaderError sql),
        w.after (connector.stepEvents mode sql w.history)) := by
  cases answer : connector.cursorError w.history with
  | some e =>
    simp only [withCursor_of_refused held answer, handedOut, stepEvents, answer]
    rfl
  | none => simp only [run_withCursor_of_granted held answer, handedOut, stepEvents, answer]

theorem run_perform (step : StatementStep) (sql : String) (held : w.connected = true) :
    (step.perform connector sql).run w =
      (((connector.handedOut step.mode sql w.history).mapError fun e =>
        .error (e.toLoaderError sql)) >>= step.read sql,
        w.after (connector.stepEvents step.mode sql w.history)) := by
  rw [perform_eq, outcome_bind_ofExcept, run_withCursor step.mode sql held]

end Connector

inductive CursorStep where
  | opened (mode : CursorMode)
  | executed (sql : String)
  | closed
  deriving DecidableEq, Repr

def cursorSteps (es : List Event) : List CursorStep :=
  es.filterMap fun
    | .cursor mode => some (.opened mode)
    | .call (.execute sql _) => some (.executed sql)
    | .call .closeCursor => some .closed
    | _ => none

/-- The error means that the connection is unusable. -/
def ConnectorError.MeansLoss (e : ConnectorError) : Prop :=
  e.operational = true ∨ ∃ n, e.number = some n ∧ n ∈ ([2002, 2003, 2006, 2013, 2055] : List Int)

theorem ConnectorError.isConnectionLoss_iff (e : ConnectorError) :
    e.isConnectionLoss = true ↔ e.MeansLoss := by
  simp only [isConnectionLoss, MeansLoss, connectionNumbers, Bool.or_eq_true, List.any_eq_true,
    decide_eq_true_eq]
  exact or_congr Iff.rfl ⟨fun ⟨n, member, same⟩ => ⟨n, same, member⟩,
    fun ⟨n, same, member⟩ => ⟨n, member, same⟩⟩

/-- The layer reports an error of the connector by one that carries the statement and tells whether
the connection is lost. -/
structure ConnectorError.ReportedAs (e : ConnectorError) (sql : String) (error : LoaderError) :
    Prop where
  statement : error.circumstances.sql = sql
  loss : e.MeansLoss → error.kind = .connection
  refusal : ¬ e.MeansLoss → error.kind = .dataLayer

theorem ConnectorError.reportedAs (e : ConnectorError) (sql : String) :
    e.ReportedAs sql (e.toLoaderError sql) := by
  unfold toLoaderError
  split
  · rename_i lost
    exact ⟨rfl, fun _ => rfl, fun other => absurd (e.isConnectionLoss_iff.1 lost) other⟩
  · rename_i kept
    exact ⟨rfl, fun lost => absurd (e.isConnectionLoss_iff.2 lost) kept, fun _ => rfl⟩

namespace Connector

variable {connector : Connector}

theorem cursorSteps_stepEvents (connector : Connector) (mode : CursorMode) (sql : String)
    (history : List Event) : cursorSteps (connector.stepEvents mode sql history) =
      if (connector.cursorError history).isSome then []
      else [.opened mode, .executed sql, .closed] := by
  unfold stepEvents
  split
  · rename_i e refused
    rw [refused]
    rfl
  · rename_i granted
    have silent : cursorSteps (connector.refusalLog
        (history ++ [.cursor mode, .call (.execute sql mode)])) = [] := by
      unfold refusalLog
      split <;> rfl
    rw [granted]
    exact congrArg ([.opened mode, .executed sql, .closed] ++ ·) silent

/-- The cursor of one step, and what the step ends with. -/
structure KeepsCursor (connector : Connector) (step : StatementStep) (sql : String) (w : World) :
    Prop where
  /-- A cursor that is handed out is closed once, behind the execution of the statement. -/
  once : ∃ es, ((step.perform connector sql).run w).2 = w.after es ∧
    cursorSteps es = if (connector.cursorError w.history).isSome then []
      else [.opened step.mode, .executed sql, .closed]
  /-- What the connector says to the closing of cursors is of no account. -/
  closing : ∀ refusals, let other := { connector with cursorCloseError := refusals }
    ((step.perform other sql).run w).1 = ((step.perform connector sql).run w).1 ∧
      ((step.perform other sql).run w).2.history =
        ((step.perform connector sql).run w).2.history
  raised : ∀ e, connector.Raises w.history sql step.mode e → ∃ error,
    ((step.perform connector sql).run w).1 = .error (.error error) ∧ e.ReportedAs sql error
  answered : (∀ e, ¬ connector.Raises w.history sql step.mode e) →
    ((step.perform connector sql).run w).1 =
      step.read sql (connector.rows (w.history ++ [.cursor step.mode]) sql)

theorem keepsCursor_perform (connector : Connector) (step : StatementStep) (sql : String)
    {w : World} (held : w.connected = true) : connector.KeepsCursor step sql w where
  once := by
    rw [run_perform step sql held]
    exact ⟨_, rfl, cursorSteps_stepEvents connector step.mode sql w.history⟩
  closing refusals := by
    intro other
    -- A refusal is logged, so it shows in the events but not in what the connector sees.
    have events : seen (other.stepEvents step.mode sql w.history) =
        seen (connector.stepEvents step.mode sql w.history) := by
      unfold stepEvents
      cases connector.cursorError w.history <;> simp [other]
    rw [run_perform step sql held, run_perform step sql held, history_after, history_after, events]
    exact ⟨rfl, rfl⟩
  raised e raises := by
    rw [run_perform step sql held, handedOut_eq_error_iff.2 raises]
    exact ⟨_, rfl, e.reportedAs sql⟩
  answered none := by
    rw [run_perform step sql held, handedOut_of_not_raises none]
    rfl

/-- Cursors follow one another: each is closed, once, before the next one is opened. -/
def Closed (es : List Event) : Prop :=
  ∃ statements : List (CursorMode × String),
    cursorSteps es = statements.flatMap fun s => [.opened s.1, .executed s.2, .closed]

theorem Closed.append {es fs : List Event} (first : Closed es) (second : Closed fs) :
    Closed (es ++ fs) := by
  obtain ⟨statements, steps⟩ := first
  obtain ⟨more, steps'⟩ := second
  refine ⟨statements ++ more, ?_⟩
  rw [List.flatMap_append, ← steps, ← steps']
  exact List.filterMap_append

theorem closed_of_silent {es : List Event} (silent : cursorSteps es = []) : Closed es :=
  ⟨[], silent⟩

theorem closed_stepEvents (mode : CursorMode) (sql : String) (history : List Event) :
    Closed (connector.stepEvents mode sql history) := by
  have steps := cursorSteps_stepEvents connector mode sql history
  split at steps
  · exact closed_of_silent steps
  · exact ⟨[(mode, sql)], steps⟩

theorem closed_withCursor (mode : CursorMode) (sql : String) :
    Keeps (fun w => Closed w.events) (connector.withCursor mode sql) := by
  intro w h
  cases state : w.connected with
  | false =>
    rw [withCursor_of_closed state]
    exact h
  | true =>
    rw [run_withCursor mode sql state]
    exact Closed.append h (closed_stepEvents mode sql w.history)

theorem closed_open (options : ConnectOptions) :
    Keeps (fun w => Closed w.events) (connector.open options) := by
  intro w h
  rcases open_cases connector options w with ⟨-, run⟩ | ⟨-, -, d, run⟩ |
    ⟨-, -, e, text, -, run⟩ | ⟨-, -, -, run⟩
  · rwa [run]
  · rwa [run]
  · rw [run]
    exact Closed.append h (closed_of_silent rfl)
  · rw [run]
    exact (Closed.append h (closed_of_silent rfl)).append (closed_of_silent rfl)

theorem closed_close : Keeps (fun w => Closed w.events) connector.close := by
  intro w h
  cases state : w.connected with
  | false =>
    rw [close_of_closed state]
    exact h
  | true =>
    simp only [Connector.close, run_bind, run_getWorld, state, if_true, run_call]
    cases connector.closeError w.history with
    | none => exact Closed.append h (closed_of_silent rfl)
    | some e => exact (Closed.append h (closed_of_silent rfl)).append (closed_of_silent rfl)

/-- Over any connector, a step on an open layer has at most one cursor, which it closes whatever
happens, and it fails with the connector's error, as a lost connection just if the error means one.
So in all uses of a layer each cursor is closed before the next one is opened. -/
theorem cursors_open_and_close (connector : Connector) (options : ConnectOptions) :
    (∀ step sql w, w.connected = true → connector.KeepsCursor step sql w) ∧
      ∀ (use : Use) files,
        Closed ((use.perform connector options).run { files := files }).2.events :=
  ⟨fun step sql _ held => keepsCursor_perform connector step sql held,
    fun use _ => Keeps.perform (closed_open options) closed_close closed_withCursor use _
      (closed_of_silent rfl)⟩

namespace Sample

/-- The connection goes away while rows are handed out. -/
def cutOff : ConnectorError := ⟨false, "lost", some 2013, none⟩

/-- A connector that executes statements, but loses the connection before the rows are there. It
does not even close its cursors. -/
def losing : Connector where
  connectError _ := none
  cursorError _ := none
  statementError _ _ := none
  fetchError _ _ := some cutOff
  rows _ _ := []
  cursorCloseError _ := some cutOff
  closeError _ := none

end Sample

open Connector.Sample in
/-- The loss is reported with the statement, behind a cursor that was to be closed. -/
theorem loss_of_rows_reported :
    let w : World := { files := .empty [], connected := true }
    let step := (StatementStep.rows.perform losing "select 1").run w
    (∃ error, step.1 = .error (.error error) ∧ error.kind = .connection ∧
      error.circumstances.sql = "select 1") ∧
    ∃ es, step.2 = w.after es ∧
      cursorSteps es = [.opened .dictionary, .executed "select 1", .closed] := by
  intro w step
  have keeps := (cursors_open_and_close losing {}).1 .rows "select 1" w rfl
  obtain ⟨error, failed, reported⟩ := keeps.raised cutOff (.fetching rfl rfl rfl)
  have lost : cutOff.MeansLoss := .inr ⟨2013, rfl, by decide⟩
  exact ⟨⟨error, failed, reported.loss lost, reported.statement⟩, keeps.once⟩

end Connector

end StoredRoutines.Sql
