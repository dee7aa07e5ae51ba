import StoredRoutines.Build.Load
import StoredRoutines.Build.Outcome
import StoredRoutines.Doc.Routine
import StoredRoutines.Routine.Files
import StoredRoutines.Schema.BulkTable
import StoredRoutines.Schema.Parameters

/-!
Compiling one source into the database and into a record. What goes wrong stops this routine only,
except for a lost connection, which nothing can follow.
-/

namespace StoredRoutines

/-- The error that a failure means for the routine of a source. -/
def Failure.forRoutine (source : String) : Failure → LoaderError
  | .error e =>
    if e.kind.isRoutine || e.kind.isDataLayer then e else .ofSource .routine e.message source
  | .defect d => .ofSource .routine d.message source

namespace BuildRecord

def ofBuild (source : RoutineSource) (a : Annotations) (parameters : List CatalogParameter)
    (columns : TableColumns) (doc : RoutineDoc) : BuildRecord where
  routineName := .text a.routineName
  routineType := .text a.header.routineType
  designation := .text a.designation.name
  table := .ofOption a.designation.table?
  columns := a.designation.columns.map .text
  parameters := parameters
  fields := columns.fields
  columnTypes := columns.types.map .text
  timestamp := source.modified
  replace := a.placeholders.map fun p => (.text p.1, .text p.2)
  doc := doc
  declared := a.listParameters.map fun p => (p.name, .ofDeclaration p)

end BuildRecord

namespace Compile

def examine (settings : LoaderSettings) (path : Path) (record : Option BuildRecord)
    (table : ReplaceTable) (entry : Option CatalogEntry) : Loader (RoutineSource × Freshness) := do
  let source ← Loader.ofExcept
    (RoutineSource.load (← Loader.getFiles) path settings.extension)
  let judged ← Loader.ofExcept
    (Freshness.judge record source.modified table settings.session entry)
  return (source, judged)

def make (settings : LoaderSettings) (layer : Sql.DataLayer) (source : RoutineSource)
    (table : ReplaceTable) (entry : Option CatalogEntry) : Loader Annotations := do
  match Annotations.ofSource source table with
  | .error e => Loader.raise e
  | .ok a =>
    let _ ← loadRoutine layer source a settings.session entry
    return a

/-- The columns of the table of a bulk insert routine; other routines have none. -/
def bulkColumns (layer : Sql.DataLayer) (source : RoutineSource) (a : Annotations) :
    Loader TableColumns :=
  match a.designation with
  | .bulkInsert table columns =>
    BulkTable.declaredColumns layer (.text a.routineName) (.text table) columns.length source.label
  | _ => return {}

/-- Reads back what the database knows of a routine that was just made. -/
def describe (layer : Sql.DataLayer) (source : RoutineSource) (a : Annotations) :
    Loader (BuildRecord × List String) := do
  let reported ← CatalogParameter.fetch layer a.routineName
  let parameters ← Loader.ofExcept
    (CatalogParameter.mergeAll reported (a.listParameters.map .ofDeclaration) source.label)
  let columns ← bulkColumns layer source a
  let (doc, warnings) ← RoutineDoc.build source parameters
  return ((BuildRecord.ofBuild source a parameters columns doc).justMade, warnings)

/-- Ends the routine with a failure. A lost connection is passed on. -/
def stop (path : Path) (name : String) (reason : Option StaleReason) (remade : Bool)
    (failure : Failure) : Loader RoutineResult :=
  if failure.isConnectionLoss then Loader.fail failure
  else RoutineResult.failed path name reason remade (failure.forRoutine path.toText)

/-- Makes a routine that must be loaded, and its record. -/
def rebuild (settings : LoaderSettings) (layer : Sql.DataLayer) (source : RoutineSource)
    (table : ReplaceTable) (entry : Option CatalogEntry) (reason : StaleReason) :
    Loader RoutineResult := do
  match ← (make settings layer source table entry).attempt with
  | .error e => stop source.path source.name reason false e
  | .ok a =>
    -- The routine is in the database from here on, whatever its description comes to.
    match ← (describe layer source a).attempt with
    | .error e => stop source.path source.name reason true e
    | .ok (record, warnings) =>
      return ⟨source.path, source.name, .loaded reason record warnings⟩

end Compile

def compile (settings : LoaderSettings) (layer : Sql.DataLayer) (path : Path)
    (record : Option BuildRecord) (table : ReplaceTable) (entry : Option CatalogEntry) :
    Loader RoutineResult := do
  let name := routineName path settings.extension
  match ← (Compile.examine settings path record table entry).attempt with
  | .error e => Compile.stop path name none false e
  | .ok (_, .upToDate record) =>
    Loader.log .debug .batch (name ++ " is up to date")
    return ⟨path, name, .upToDate record⟩
  | .ok (source, .stale reason) => Compile.rebuild settings layer source table entry reason

end StoredRoutines
