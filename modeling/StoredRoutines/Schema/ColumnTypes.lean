import StoredRoutines.Routine.Constants
import StoredRoutines.Schema.Routines

/-!
The replace table. Every column of the current schema gives the placeholder `@TABLE.COLUMN%TYPE@`
its type as value; constants go on top of that.
-/

namespace StoredRoutines

namespace ColumnTypes

def query : String := "
select table_name         as table_name
,      column_name        as column_name
,      column_type        as column_type
,      character_set_name as character_set_name
from   information_schema.COLUMNS
where  table_schema = database()
order by table_name
,        ordinal_position
"

def token (table column : Value) : String :=
  Text.upper ("@" ++ table.display ++ "." ++ column.display ++ "%type@")

/-- The type of a column, with its character set if it has one. -/
def typeText (type characterSet : Value) : String :=
  if characterSet.isNothing then type.display
  else type.display ++ " character set " ++ characterSet.display

def ofRow (row : Sql.Row) : Except Failure (String × Value) := do
  let table ← Sql.Row.cell row "table_name"
  let column ← Sql.Row.cell row "column_name"
  let type ← Sql.Row.cell row "column_type"
  return (token table column, .text (typeText type (Sql.Row.cellOrNull row "character_set_name")))

def fetch (layer : Sql.DataLayer) : Loader ReplaceTable := do
  let rows ← layer.rows query
  return Assoc.ofPairs (← Loader.ofExcept (rows.mapM ofRow))

end ColumnTypes

namespace ReplaceTable

/-- The values of all placeholders: column types if there is a database, and the constants of a
file if there is one. A constant wins over a column type. -/
def build (layer : Option Sql.DataLayer) (constants : Option Path) : Loader ReplaceTable := do
  let types ←
    match layer with
    | some layer => ColumnTypes.fetch layer
    | none => pure []
  let assigned ←
    match constants with
    | some p => Constants.read p
    | none => pure []
  let table := Assoc.putAll types assigned
  Loader.log .debug .replaceTable
    ("Replace table holds " ++ toString table.length ++ " placeholder(s)")
  return table

end ReplaceTable

end StoredRoutines
