import StoredRoutines.Failure
import StoredRoutines.Routine.Source
import StoredRoutines.Text.Blank
import StoredRoutines.Text.Word

/-!
The designation of a routine: how it is called and what it returns. It stands on the one line
`-- type: <name> [<arguments>]` before the body.
-/

namespace StoredRoutines

/-- What the columns of a keyed designation are. -/
inductive Keying where
  | key
  | index
  deriving DecidableEq, Repr

inductive Designation where
  /-- The routine makes a table into which rows are inserted in bulk. -/
  | bulkInsert (table : String) (columns : List String)
  /-- The rows are arranged by some of their columns. -/
  | keyed (keying : Keying) (columns : List String)
  /-- Any other designation, without arguments. -/
  | plain (name : String)
  deriving DecidableEq, Repr

namespace Designation

def bulkInsertName : String := "bulk_insert"

def Keying.name : Keying → String
  | .key => "rows_with_key"
  | .index => "rows_with_index"

def name : Designation → String
  | bulkInsert _ _ => bulkInsertName
  | keyed k _ => Keying.name k
  | plain n => n

def table? : Designation → Option String
  | bulkInsert table _ => some table
  | _ => none

def columns : Designation → List String
  | bulkInsert _ columns => columns
  | keyed _ columns => columns
  | plain _ => []

/-- Why a source has no designation. -/
inductive Fault where
  | noBegin
  | missing
  | repeated (count : Nat)
  | bulkInsertForm
  | columnForm (name : String)
  | unexpectedArguments (name arguments : String)
  deriving DecidableEq, Repr

def Fault.wording : Fault → String
  | noBegin =>
    "Unable to find the designation type of the stored routine: no 'begin' line."
  | missing => "Unable to find the designation type of the stored routine."
  | repeated count =>
    "Found " ++ toString count ++ " designation type comments, expected exactly one."
  | bulkInsertForm => "Expected: -- type: bulk_insert <table_name> <columns>."
  | columnForm name => "Expected: -- type: " ++ name ++ " <columns>."
  | unexpectedArguments name arguments =>
    "Designation type '" ++ name ++ "' takes no arguments, found '" ++ arguments ++ "'."

/-- What follows the mark of an annotation on its line: blanks, two hyphens, blanks, the mark. -/
def afterMark? (mark : List Char) (line : List Char) : Option (List Char) :=
  match Text.trimLeft line with
  | '-' :: '-' :: rest =>
    if (rest.head?.map Text.isBlank).getD false then Text.dropPrefix? mark (Text.trimLeft rest)
    else none
  | _ => none

/-- The name and the arguments on a designation line. -/
def ofLine? (line : String) : Option (String × String) :=
  match afterMark? "type:".toList (Text.dropReturns line.toList) with
  | none => none
  | some rest =>
    let rest := Text.trimLeft rest
    let name := rest.takeWhile Text.isWord
    if name.isEmpty then none
    else
      some (String.ofList name, String.ofList (Text.trim (rest.dropWhile Text.isWord)))

/-- A character of a column list without blanks. -/
def isColumnListChar (c : Char) : Bool := Text.isPlain c || c = ','

/-- The table and the columns of a bulk insert: two words, the second a list with commas. -/
def bulkArguments? (arguments : String) : Option (String × List String) :=
  match Text.words arguments.toList with
  | [table, columns] =>
    if table.all Text.isPlain && columns.all isColumnListChar then
      some (String.ofList table, (Text.splitOn ',' columns).map String.ofList)
    else none
  | _ => none

/-- The columns of a list with commas, with blanks allowed around the commas. -/
def columnArguments? (arguments : String) : Option (List String) :=
  let columns := (Text.splitOn ',' arguments.toList).map Text.trim
  if columns.all fun c => !c.isEmpty && c.all Text.isPlain then some (columns.map String.ofList)
  else none

def ofParts (name arguments : String) : Except Fault Designation :=
  if name = bulkInsertName then
    match bulkArguments? arguments with
    | some (table, columns) => .ok (bulkInsert table columns)
    | none => .error .bulkInsertForm
  else if name = Keying.name .key ∨ name = Keying.name .index then
    match columnArguments? arguments with
    | some columns => .ok (keyed (if name = Keying.name .key then .key else .index) columns)
    | none => .error (.columnForm name)
  else if arguments.isEmpty then .ok (plain name)
  else .error (.unexpectedArguments name arguments)

/-- The designation lines among numbered lines. -/
def found (lines : List String) : List (Nat × String × String) :=
  lines.zipIdx.filterMap fun l => (ofLine? l.1).map fun parts => (l.2, parts)

def ofLines (lines : List String) (beginLine : Option Nat) : Except Fault (Designation × Nat) :=
  match beginLine with
  | none => .error .noBegin
  | some b =>
    match found (lines.take b) with
    | [] => .error .missing
    | [(line, name, arguments)] => (ofParts name arguments).map fun d => (d, line)
    -- All of them are counted, also those whose arguments are wrong.
    | several => .error (.repeated several.length)

/-- The designation of a source, and the index of its line. -/
def ofSource (source : RoutineSource) : Except LoaderError (Designation × Nat) :=
  (ofLines source.lines source.beginLine?).mapError fun fault =>
    .ofSource .designation fault.wording source.label

end Designation

end StoredRoutines
