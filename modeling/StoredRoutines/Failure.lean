import StoredRoutines.Text.Blank
import StoredRoutines.Text.Utf8
import StoredRoutines.Value

/-!
What can go wrong. A loader error has a kind, a wording and the circumstances it reports; the kinds
form a hierarchy that decides how far an error reaches. A defect is anything else that stops a
computation: data of a shape that nothing provides for.
-/

namespace StoredRoutines

/-- The kinds of loader errors. `parse` and its three special kinds mean that the source does not
follow the convention; `reconciliation` and its two that the source and the catalog disagree. -/
inductive ErrorKind where
  | general
  | routine
  | parse
  | placeholder
  | designation
  | parameterSyntax
  | reconciliation
  | columnCount
  | unsupportedType
  | dataLayer
  | connection
  | metadata
  deriving DecidableEq, Repr

namespace ErrorKind

/-- The source does not follow the convention. -/
def isParse : ErrorKind → Bool
  | parse | placeholder | designation | parameterSyntax => true
  | _ => false

/-- The error concerns one routine source. -/
def isRoutine : ErrorKind → Bool
  | routine | reconciliation | columnCount | unsupportedType => true
  | kind => kind.isParse

/-- A statement or the connection failed. -/
def isDataLayer : ErrorKind → Bool
  | dataLayer | connection => true
  | _ => false

end ErrorKind

structure Circumstances where
  source : String := ""
  placeholders : List String := []
  parameter : String := ""
  expected : Option Int := none
  got : Option Int := none
  dataType : String := ""
  sql : String := ""
  deriving DecidableEq, Repr

structure LoaderError where
  kind : ErrorKind
  wording : String
  circumstances : Circumstances := {}
  deriving DecidableEq, Repr

namespace LoaderError

/-- A detail after a bar, unless it is empty. -/
def detail (label text : String) : String :=
  if text.isEmpty then "" else " | " ++ label ++ "=" ++ text

def counts (c : Circumstances) : String :=
  let expected := c.expected.map fun n => "expected=" ++ toString n
  let got := c.got.map fun n => "got=" ++ toString n
  match expected.toList ++ got.toList with
  | [] => ""
  | parts => " | " ++ " ".intercalate parts

def message (e : LoaderError) : String :=
  let c := e.circumstances
  let source := if e.kind.isRoutine then detail "source" c.source else ""
  let special :=
    match e.kind with
    | .placeholder =>
      if c.placeholders.isEmpty then "" else " | placeholders=" ++ ", ".intercalate c.placeholders
    | .parameterSyntax => detail "parameter" c.parameter
    | .columnCount => counts c
    | .unsupportedType => detail "data_type" c.dataType
    | .dataLayer | .connection =>
      if c.sql.isEmpty then "" else " | sql=" ++ Text.quoted (Text.trimmed c.sql)
    | _ => ""
  e.wording ++ source ++ special

def ofSource (kind : ErrorKind) (wording : String) (source : String) : LoaderError :=
  ⟨kind, wording, { source := source }⟩

def ofStatement (kind : ErrorKind) (wording sql : String) : LoaderError :=
  ⟨kind, wording, { sql := sql }⟩

end LoaderError

/-- Data of a shape that nothing provides for. -/
inductive Defect where
  | missingKey (key : String)
  | notIdentifier (name : Atom)
  | unknownRoutineType (given : Atom)
  | wrongType (explanation : String)
  | missingMember (explanation : String)
  | invalidValue (explanation : String)
  | undecodable (fault : Text.Utf8Fault)
  | tooLarge (explanation : String)
  /-- A file that cannot even be looked up. -/
  | inaccessible (explanation : String)
  /-- A value that is nested too deep to be read. -/
  | tooDeep
  /-- A row that should hold a value has no column. -/
  | emptyRow
  deriving DecidableEq, Repr

namespace Defect

/-- A function of texts was asked of another value. -/
def noTextFunction (v : Value) (function : String) : Defect :=
  missingMember ("'" ++ v.typeName ++ "' object has no attribute '" ++ function ++ "'")

/-- A member was asked of a value that has none. -/
def noMembers (v : Value) : Defect :=
  wrongType ("'" ++ v.typeName ++ "' object is not subscriptable")

def message : Defect → String
  | missingKey key => Text.quoted key
  | notIdentifier name => "Not a plain identifier: " ++ name.shown
  | unknownRoutineType given => "Unknown routine type " ++ given.shown
  | wrongType explanation => explanation
  | missingMember explanation => explanation
  | invalidValue explanation => explanation
  | undecodable fault => fault.text
  | tooLarge explanation => explanation
  | inaccessible explanation => explanation
  | tooDeep => "maximum recursion depth exceeded while decoding a JSON value"
  | emptyRow => "generator raised StopIteration"

end Defect

inductive Failure where
  | error (e : LoaderError)
  | defect (d : Defect)
  deriving DecidableEq, Repr

namespace Failure

def message : Failure → String
  | error e => e.message
  | defect d => d.message

/-- The connection is gone, so nothing further can be loaded. -/
def isConnectionLoss : Failure → Bool
  | error e => e.kind == .connection
  | defect _ => false

end Failure

end StoredRoutines
