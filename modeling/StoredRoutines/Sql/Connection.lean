import StoredRoutines.Assoc
import StoredRoutines.Sql.DataLayer

/-!
Access to a server through a connector. The connector may refuse any of its calls; what it does may
depend on the calls it has seen. A layer holds at most one connection, opens one cursor for each
statement, and tells a lost connection from a failed statement.
-/

namespace StoredRoutines.Sql

/-- An error of the connector. `operational` says that it is of the class that means trouble with
the connection whatever its number. -/
structure ConnectorError where
  operational : Bool
  wording : String
  number : Option Int
  state : Option String
  deriving DecidableEq, Repr

namespace ConnectorError

/-- The number and state in front of the wording, as far as they are known. An empty state is not
known. -/
def text (e : ConnectorError) : String :=
  let wording := if e.wording.isEmpty then "Unknown error" else e.wording
  match e.number with
  | none => wording
  | some n =>
    if n = 0 || n = -1 then wording
    else
      match e.state.filter (!·.isEmpty) with
      | some state => toString n ++ " (" ++ state ++ "): " ++ wording
      | none => toString n ++ ": " ++ wording

/-- Numbers of errors that mean that the connection is unusable. -/
def connectionNumbers : List Int := [2002, 2003, 2006, 2013, 2055]

def isConnectionLoss (e : ConnectorError) : Bool :=
  e.operational || connectionNumbers.any fun n => e.number = some n

def toLoaderError (e : ConnectorError) (sql : String) : LoaderError :=
  if e.isConnectionLoss then
    .ofStatement .connection ("Lost connection to MySQL: " ++ e.text) sql
  else .ofStatement .dataLayer ("MySQL error: " ++ e.text) sql

end ConnectorError

/-- A connector by its answers. Each depends on all that it has seen before: calls, and requests for
cursors, granted or refused. -/
structure Connector where
  connectError : List Event → Option ConnectorError
  cursorError : List Event → Option ConnectorError
  statementError : List Event → String → Option ConnectorError
  /-- What it says when it is asked for the rows of a statement that it executed. -/
  fetchError : List Event → String → Option ConnectorError := fun _ _ => none
  /-- Texts among the values are decoded, so no surrogate stands alone in them. -/
  rows : List Event → String → List Row
  cursorCloseError : List Event → Option ConnectorError
  closeError : List Event → Option ConnectorError

structure ConnectOptions where
  host : Value := .text "localhost"
  portNumber : Value := .int 3306
  user : Value := .text ""
  password : Value := .text ""
  database : Value := .text ""
  /-- Further options, passed on as they are. -/
  further : List (String × Value) := []
  deriving Repr

namespace ConnectOptions

/-- The options of the connector call. Statements take effect at once. -/
def arguments (o : ConnectOptions) : List (String × Value) :=
  [("host", o.host), ("port", o.portNumber), ("user", o.user), ("password", o.password),
    ("database", o.database), ("autocommit", .bool true)] ++ o.further

def address (o : ConnectOptions) : String :=
  o.host.display ++ ":" ++ o.portNumber.display ++ "/" ++ o.database.display

end ConnectOptions

namespace Connector

/-- Makes a call and passes on what the connector says to it. -/
def call {α : Type} (c : ConnectorCall) (answer : List Event → α) : Loader α := do
  let before := (← Loader.getWorld).history
  Loader.emit (.call c)
  return answer before

def «open» (connector : Connector) (options : ConnectOptions) : Loader Unit := do
  if (← Loader.getWorld).connected then return ()
  if Assoc.hasKey "autocommit" options.further then
    Loader.fail (.defect (.wrongType "got multiple values for keyword argument 'autocommit'"))
  match ← call (.connect options.arguments) connector.connectError with
  | some e =>
    Loader.raise ⟨.connection, "Failed to connect to MySQL (" ++ options.user.display ++ "@" ++
      options.address ++ "): " ++ e.text, {}⟩
  | none =>
    Loader.setConnected true
    Loader.log .debug .connection ("Connected to " ++ options.address)

/-- Gives the connection up. An error of the connector is ignored. -/
def close (connector : Connector) : Loader Unit := do
  if (← Loader.getWorld).connected then
    match ← call .close connector.closeError with
    | some _ => Loader.log .debug .connection "Ignoring error while closing the connection."
    | none => pure ()
    Loader.setConnected false

/-- Closes the cursor. An error of the connector is ignored. -/
def closeCursor (connector : Connector) : Loader Unit := do
  match ← call .closeCursor connector.cursorCloseError with
  | some _ => Loader.log .debug .connection "Ignoring error while closing a cursor."
  | none => pure ()

/-- The error in handing out the rows of a statement. A buffered cursor is not asked for them. -/
def rowsError (connector : Connector) (mode : CursorMode) (sql : String)
    (before : List Event) : Option ConnectorError :=
  match mode with
  | .buffered => none
  | .dictionary => connector.fetchError before sql

/-- The answer to a statement on a cursor. -/
def reply (connector : Connector) (mode : CursorMode) (sql : String)
    (before : List Event) : Except ConnectorError (List Row) :=
  match connector.statementError before sql, connector.rowsError mode sql before with
  | some e, _ => .error e
  | none, some e => .error e
  | none, none => .ok (connector.rows before sql)

/-- Executes a statement on a cursor of its own and hands over its rows. -/
def withCursor (connector : Connector) (mode : CursorMode) (sql : String) : Loader (List Row) := do
  let w ← Loader.getWorld
  if !w.connected then
    Loader.raise (.ofStatement .connection "MySqlDataLayer.open() must be called first." sql)
  match connector.cursorError w.history with
  | some e =>
    -- There is nothing to close, but the connector may remember that it was asked.
    Loader.emit (.refusedCursor mode)
    Loader.raise (e.toLoaderError sql)
  | none =>
    Loader.emit (.cursor mode)
    let outcome ← call (.execute sql mode) (connector.reply mode sql)
    -- The cursor is closed before the outcome is looked at: a refused statement leaves none open.
    closeCursor connector
    match outcome with
    | .error e => Loader.raise (e.toLoaderError sql)
    | .ok rows => return rows

/-- A row with its byte strings decoded. -/
def decodeRow (row : Row) : Except Failure Row :=
  row.mapM fun cell =>
    match cell.2 with
    | .bytes b => (decodeBytes b).map fun s => (cell.1, .text s)
    | v => .ok (cell.1, v)

def queryRows (connector : Connector) (sql : String) : Loader (List Row) := do
  let rows ← connector.withCursor .dictionary sql
  Loader.ofExcept (rows.mapM decodeRow)

/-- Executes a query for at most one row; its first column, or null. -/
def queryScalar (connector : Connector) (sql : String) : Loader Value := do
  match ← connector.queryRows sql with
  | [] => return .null
  | [row] =>
    match row with
    | [] => Loader.fail (.defect .emptyRow)
    | cell :: _ => return cell.2
  | rows =>
    Loader.raise (.ofStatement .dataLayer
      ("Expected at most one row, got " ++ toString rows.length ++ ".") sql)

def layer (connector : Connector) : DataLayer where
  execute sql := do let _ ← connector.withCursor .buffered sql
  rows := connector.queryRows
  scalar := connector.queryScalar
  escape := escapeForServer

/-- Runs a computation on an open connection and closes it afterwards, come what may. -/
def within {α : Type} (connector : Connector) (options : ConnectOptions) (x : Loader α) :
    Loader α := do
  connector.open options
  let outcome ← x.attempt
  connector.close
  Loader.ofExcept outcome

end Connector

end StoredRoutines.Sql
