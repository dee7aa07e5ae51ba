import StoredRoutines.Record.Parameter
import StoredRoutines.Schema.Routines

/-!
The parameters of a routine as the database reports them. A row without a parameter name, such as
the return value of a function, reports none.
-/

namespace StoredRoutines.CatalogParameter

/-- The query for the parameters of the routine whose name is given as a literal. -/
def query (literal : String) : String := "
select t2.parameter_name     as parameter_name
,      t2.data_type          as data_type
,      t2.numeric_precision  as numeric_precision
,      t2.numeric_scale      as numeric_scale
,      t2.character_set_name as character_set_name
,      t2.collation_name     as collation_name
,      t2.dtd_identifier     as dtd_identifier
from            information_schema.ROUTINES   t1
left outer join information_schema.PARAMETERS t2  on  t2.specific_schema = t1.routine_schema and
                                                      t2.specific_name   = t1.routine_name and
                                                      t2.parameter_mode  is not null
where  t1.routine_schema = database()
and    t1.routine_name   = " ++ literal ++ "
order by t2.ordinal_position
"

def ofRow (row : Sql.Row) : Except Failure CatalogParameter := do
  return {
    name := ← Sql.Row.cell row "parameter_name"
    dataType := ← Sql.Row.cell row "data_type"
    dtdIdentifier := ((Sql.Row.cellOrNull row "dtd_identifier").something?).getD (.text "")
    numericPrecision := Sql.Row.cellOrNull row "numeric_precision"
    numericScale := Sql.Row.cellOrNull row "numeric_scale"
    characterSet := Sql.Row.cellOrNull row "character_set_name"
    collation := Sql.Row.cellOrNull row "collation_name" }

def isReported (row : Sql.Row) : Bool := !(Sql.Row.cellOrNull row "parameter_name").isNothing

def fetch (layer : Sql.DataLayer) (routine : String) : Loader (List CatalogParameter) := do
  let rows ← layer.rows (query (layer.quote routine))
  Loader.ofExcept ((rows.filter isReported).mapM ofRow)

end StoredRoutines.CatalogParameter
