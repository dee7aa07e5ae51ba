import StoredRoutines.Record.Members
import StoredRoutines.Sql.DataLayer
import StoredRoutines.Text.Letters

/-!
The routines of the current schema as the database reports them. Cells of a row are read by label;
a label that is missing stops the query.
-/

namespace StoredRoutines

namespace Sql.Row

/-- The cell under a label, which must be there. -/
def cell (row : Row) (label : String) : Except Failure Value :=
  match row.lookup label with
  | some v => .ok v
  | none => .error (.defect (.missingKey label))

/-- The cell under a label; null if there is none. -/
def cellOrNull (row : Row) (label : String) : Value := (row.lookup label).getD .null

end Sql.Row

structure CatalogEntry where
  routineName : Value
  routineType : Value
  sqlMode : Value
  characterSet : Value
  collation : Value
  deriving DecidableEq, Repr

/-- The entries of the catalog by routine name. A procedure and a function may share a name; the
later one counts. -/
abbrev RoutineCatalog := List (Key × CatalogEntry)

namespace RoutineCatalog

def query : String := "
select routine_name         as routine_name
,      routine_type         as routine_type
,      sql_mode             as sql_mode
,      character_set_client as character_set_client
,      collation_connection as collation_connection
from   information_schema.ROUTINES
where  routine_schema = database()
order by routine_name
"

def entryOfRow (row : Sql.Row) : Except Failure CatalogEntry := do
  return {
    routineName := ← Sql.Row.cell row "routine_name"
    routineType := .text (Text.lower (← Sql.Row.cell row "routine_type").display)
    sqlMode := ← Sql.Row.cell row "sql_mode"
    characterSet := ← Sql.Row.cell row "character_set_client"
    collation := ← Sql.Row.cell row "collation_connection" }

def namedEntryOfRow (row : Sql.Row) : Except Failure (Key × CatalogEntry) := do
  let entry ← entryOfRow row
  return (← entry.routineName.asKey, entry)

def ofRows (rows : List Sql.Row) : Except Failure RoutineCatalog :=
  (rows.mapM namedEntryOfRow).map Assoc.ofPairs

def fetch (layer : Sql.DataLayer) : Loader RoutineCatalog := do
  Loader.ofExcept (ofRows (← layer.rows query))

end RoutineCatalog

end StoredRoutines
