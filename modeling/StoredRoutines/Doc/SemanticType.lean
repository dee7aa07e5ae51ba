import StoredRoutines.Failure

/-!
The types of the generated wrappers, and the type for each type of the catalog. A type that is not
listed is refused rather than guessed.
-/

namespace StoredRoutines

inductive SemanticType where
  | int
  | float
  | str
  /-- A list of whole numbers as one text. -/
  | intList
  deriving DecidableEq, Repr

namespace SemanticType

def name : SemanticType → String
  | int => "int"
  | float => "float"
  | str => "str"
  | intList => "str|list[int]"

/-- The wrapper type of every catalog type but `decimal`. -/
def table : List (String × SemanticType) :=
  [("tinyint", int), ("smallint", int), ("mediumint", int), ("int", int), ("bigint", int),
    ("year", int), ("bit", int), ("float", float), ("double", float), ("varbinary", str),
    ("binary", str), ("char", str), ("varchar", str), ("time", str), ("timestamp", str),
    ("date", str), ("datetime", str), ("enum", str), ("set", str), ("tinytext", str),
    ("text", str), ("mediumtext", str), ("longtext", str), ("tinyblob", str), ("blob", str),
    ("mediumblob", str), ("longblob", str), ("list_of_int", intList)]

def decimalName : String := "decimal"

/-- All types that have a wrapper type, sorted. -/
def supported : List String :=
  (decimalName :: table.map (·.1)).mergeSort fun a b => decide (a ≤ b)

def unsupported (dataType : Value) (source : String) : LoaderError where
  kind := .unsupportedType
  wording := "Unsupported column type '" ++ dataType.display ++ "'. Valid types: " ++
    (Value.list (supported.map .text)).display
  circumstances :=
    { source := source, dataType := if dataType.isNothing then "" else dataType.display }

/-- The wrapper type of a catalog type. The scale counts for `decimal` only: without digits after
the point it is a whole number. -/
def ofCatalog (dataType scale : Value) (source : String) : Except Failure SemanticType :=
  match dataType with
  | .text name =>
    if name = decimalName then .ok (if scale.display = "0" then int else float)
    else
      match table.lookup name with
      | some t => .ok t
      | none => .error (.error (unsupported dataType source))
  | .list _ | .object _ =>
    .error (.defect (.wrongType ("unhashable type: '" ++ dataType.typeName ++ "'")))
  | dataType => .error (.error (unsupported dataType source))

end SemanticType

end StoredRoutines
