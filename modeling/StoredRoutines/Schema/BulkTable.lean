import StoredRoutines.Schema.Routines
import StoredRoutines.Sql.Identifier
import StoredRoutines.Text.Word

/-!
The table of a bulk insert routine. A permanent table is looked at as it is. Otherwise the routine
is called once to make a temporary table, which is dropped again whatever happens in between. Names
are values, since a designation that is not checked may lack one; a statement takes them in only as
a literal or as a plain identifier.
-/

namespace StoredRoutines

structure TableColumns where
  fields : List Value := []
  types : List String := []
  deriving DecidableEq, Repr

namespace BulkTable

/-- The query for a permanent table whose name is given as a literal. -/
def existsQuery (literal : String) : String := "
select 1
from   information_schema.TABLES
where  table_schema = database()
and    table_name   = " ++ literal ++ "
"

/-- The current schema has a permanent table of the name. -/
def isPermanent (layer : Sql.DataLayer) (table : Value) : Loader Bool := do
  let literal ← Loader.ofExcept (layer.quoteValue table)
  return !(← layer.scalar (existsQuery literal)).isNothing

def callStatement (routine : Value) : Except Failure String := do
  return "call " ++ (← Sql.backtickValue routine) ++ "()"

def dropStatement (table : Value) : Except Failure String := do
  return "drop temporary table if exists " ++ (← Sql.backtickValue table)

def describeQuery (table : Value) : Except Failure String := do
  return "describe " ++ (← Sql.backtickValue table)

/-- Runs a computation while the table exists. It is told whether the table is temporary. A failure
of the final drop takes the place of a failure before it. -/
def whileMaterialized {α : Type} (layer : Sql.DataLayer) (routine table : Value)
    (x : Bool → Loader α) : Loader α := do
  if ← isPermanent layer table then
    x false
  else
    -- The drop is owed from here on only: a call that made the table and was refused leaves it.
    layer.execute (← Loader.ofExcept (callStatement routine))
    let outcome ← (x true).attempt
    layer.execute (← Loader.ofExcept (dropStatement table))
    Loader.ofExcept outcome

/-- The first word of a column type. -/
def baseType (type : String) : String :=
  String.ofList ((type.toList.dropWhile (!Text.isWord ·)).takeWhile Text.isWord)

def columnOfRow (row : Sql.Row) : Except Failure (Value × String) := do
  return (← Sql.Row.cell row "Field", baseType (← Sql.Row.cell row "Type").display)

def columns (layer : Sql.DataLayer) (table : Value) : Loader TableColumns := do
  let rows ← layer.rows (← Loader.ofExcept (describeQuery table))
  let found ← Loader.ofExcept (rows.mapM columnOfRow)
  return ⟨found.map (·.1), found.map (·.2)⟩

def countMismatch (declared found : Nat) (source : String) : LoaderError where
  kind := .columnCount
  wording := "Number of fields " ++ toString declared ++ " and number of columns " ++
    toString found ++ " don't match."
  circumstances := { source := source, expected := some declared, got := some found }

/-- The columns of the table of a routine, which must be as many as declared. -/
def declaredColumns (layer : Sql.DataLayer) (routine table : Value) (declared : Nat)
    (source : String) : Loader TableColumns := do
  let found ← whileMaterialized layer routine table fun temporary => do
    let found ← columns layer table
    Loader.log .debug .catalog ("Bulk insert table " ++ table.display ++ " (" ++
      (if temporary then "temporary" else "permanent") ++ "): " ++
      toString found.fields.length ++ " columns")
    return found
  if found.fields.length = declared then return found
  else Loader.raise (countMismatch declared found.fields.length source)

end BulkTable

end StoredRoutines
