import StoredRoutines.Doc.Comment
import StoredRoutines.Doc.SemanticType
import StoredRoutines.Record.Parameter
import StoredRoutines.Value.Order

/-!
The record of a build: all that is kept about a routine until the next build, and its layout as a
value. Reading takes a record apart in a fixed order and stops at the first member that is missing
or has the wrong shape; all else is copied as it is.
-/

namespace StoredRoutines

structure RoutineDoc where
  short : Value := .text ""
  long : Value := .text ""
  parameters : List WrapperParameter := []
  deriving DecidableEq, Repr

namespace RoutineDoc

def toValue (d : RoutineDoc) : Value :=
  .object [("short_description", d.short), ("long_description", d.long),
    ("parameters", .list (d.parameters.map WrapperParameter.toValue))]

def ofValue (v : Value) : Except Failure RoutineDoc := do
  return {
    short := ← v.memberOr "short_description" (.text "")
    long := ← v.memberOr "long_description" (.text "")
    parameters := ← (← (← v.memberOr "parameters" (.list [])).parts).mapM WrapperParameter.ofValue }

end RoutineDoc

structure BuildRecord where
  routineName : Value
  routineType : Value
  designation : Value
  table : Value
  columns : List Value
  parameters : List CatalogParameter := []
  /-- Columns of the bulk insert table, and their types. -/
  fields : List Value := []
  columnTypes : List Value := []
  /-- Time of the last change of the source, in whole seconds. -/
  timestamp : Int := 0
  replace : List (Atom × Value) := []
  doc : RoutineDoc := {}
  /-- The declared list parameters by name. -/
  declared : List (Atom × ExtendedParameter) := []
  deriving DecidableEq, Repr

namespace BuildRecord

def declaredValue (r : BuildRecord) : Value :=
  .object (r.declared.map fun d => (d.1, d.2.toValue))

/-- The members of a record, with its placeholders given as a value. -/
def membersWith (replace : Value) (r : BuildRecord) : Except Failure Value := do
  return .object [("routine_name", r.routineName), ("routine_type", r.routineType),
    ("designation", r.designation), ("table_name", r.table), ("columns", .list r.columns),
    ("fields", .list r.fields), ("column_types", .list r.columnTypes),
    ("parameters", .list (← r.parameters.mapM CatalogParameter.toValue)),
    ("timestamp", .int r.timestamp), ("replace", replace), ("doc", r.doc.toValue),
    ("spec_params", r.declaredValue)]

def toValue (r : BuildRecord) : Except Failure Value := r.membersWith (.object r.replace)

/-- The record after looks at the full types of its parameters. -/
def afterLooks (n : Nat) (r : BuildRecord) : BuildRecord :=
  { r with parameters := r.parameters.map (·.afterLooks n) }

/-- The documentation of a parameter. If the type is a list, it is the list that the parameter has
after the next look. -/
def withTypeOf (w : WrapperParameter) (p : CatalogParameter) : WrapperParameter :=
  match p.dtdIdentifier with
  | .list _ => { w with typeDescriptor := (p.afterLooks 1).dtdIdentifier }
  | _ => w

/-- The record of a routine that was just made, after looks at its merged parameters. Its
documentation shows the very lists that are the types of its parameters. -/
def afterMergedLooks (n : Nat) (r : BuildRecord) : BuildRecord :=
  let parameters := CatalogParameter.mergedAfterLooks n r.parameters
  { r with
    parameters := parameters
    doc.parameters := List.zipWith withTypeOf r.doc.parameters parameters }

/-- The record of a routine that was just made. Documenting it was a look at its parameters. -/
def justMade (r : BuildRecord) : BuildRecord :=
  let found := { r with parameters := CatalogParameter.mergedAtLastLook r.parameters }
  found.afterMergedLooks 1

def declaredOf (v : Value) : Except Failure (List (Atom × ExtendedParameter)) :=
  if v.isNothing then .ok []
  else
    match v with
    | .object fields => fields.mapM fun f => (ExtendedParameter.ofValue f.2).map fun p => (f.1, p)
    | v => .error (.defect (.noTextFunction v "items"))

def ofValue (v : Value) : Except Failure BuildRecord := do
  let designation ← v.member "designation"
  let table ← v.memberOr "table_name" .null
  let columns ← (← v.memberOr "columns" .null).partsOrNone
  let routineName ← v.member "routine_name"
  let routineType ← v.memberOr "routine_type" (.text "procedure")
  let parameters ← (← (← v.memberOr "parameters" (.list [])).parts).mapM CatalogParameter.ofValue
  let fields ← (← v.memberOr "fields" .null).partsOrNone
  let columnTypes ← (← v.memberOr "column_types" .null).partsOrNone
  let timestamp ← (← v.member "timestamp").toInteger
  let replace ← (← v.memberOr "replace" .null).entries
  let docValue ← v.memberOr "doc" .null
  let doc ← RoutineDoc.ofValue (if docValue.isNothing then .object [] else docValue)
  let declared ← declaredOf (← v.memberOr "spec_params" .null)
  return {
    routineName, routineType, designation, table, columns, parameters, fields, columnTypes,
    timestamp, replace, doc
    declared := declared }

end BuildRecord

end StoredRoutines
