import StoredRoutines.Build.Outcome
import StoredRoutines.Routine.Annotations
import StoredRoutines.Routine.Constants
import StoredRoutines.Routine.Files

/-!
Looking at sources without changing anything: what a build would do, and whether a source follows
the convention.
-/

namespace StoredRoutines

/-- Reports whether a routine would be loaded. Its annotations are read as a build would read
them. -/
def assess (settings : LoaderSettings) (path : Path) (record : Option BuildRecord)
    (table : ReplaceTable) (entry : Option CatalogEntry) : Loader RoutineResult := do
  let name := routineName path settings.extension
  match RoutineSource.load (← Loader.getFiles) path settings.extension with
  | .error (.error e) => RoutineResult.failed path name none false e
  | .error e => Loader.fail e
  | .ok source =>
    -- A failure to judge is no result of the routine: it ends the whole run.
    match ← Loader.ofExcept
      (Freshness.judge record source.modified table settings.session entry) with
    | .upToDate record =>
      Loader.log .info .batch ("Up to date: " ++ name)
      return ⟨path, name, .upToDate record⟩
    | .stale reason =>
      match Annotations.ofSource source table with
      | .error e => RoutineResult.failed path name reason false e
      | .ok _ =>
        Loader.log .info .batch ("Would load " ++ name ++ " (" ++ reason.message ++ ")")
        return ⟨path, name, .wouldLoad reason⟩

namespace Check

/-- The placeholder stands for the type of a column, which only the database knows. -/
def isColumnType (token : String) : Bool :=
  "%TYPE@".toList.isSuffixOf (Text.upper token).toList

/-- Every placeholder but those for column types must be a constant. -/
def constants (source : RoutineSource) (table : ReplaceTable) : Except LoaderError Unit :=
  match (Placeholder.find source.text).filter fun t =>
      !isColumnType t && (Placeholder.value? table t).isNone with
  | [] => .ok ()
  | missing => .error (Placeholder.unknown missing source.label)

/-- Reads the annotations of a source. Placeholders count if there are constants. -/
def annotations (source : RoutineSource) (table : Option ReplaceTable) :
    Except LoaderError Designation := do
  let (designation, line) ← Designation.ofSource source
  let _ ← Header.ofSource source
  let _ ← ListParameter.ofSource source line
  match table with
  | some table => constants source table
  | none => pure ()
  return designation

def file (fs : FileSystem) (settings : LoaderSettings) (table : Option ReplaceTable)
    (path : Path) : Except Failure Designation := do
  let source ← RoutineSource.load fs path settings.extension
  (annotations source table).mapError .error

def result (settings : LoaderSettings) (table : Option ReplaceTable) (path : Path) :
    Loader RoutineResult := do
  let name := routineName path settings.extension
  match file (← Loader.getFiles) settings table path with
  | .error (.error e) => RoutineResult.failed path name none false e
  | .error e => Loader.fail e
  | .ok designation =>
    Loader.log .info .batch ("OK: " ++ name ++ " (" ++ designation.name ++ ")")
    return ⟨path, name, .checked⟩

end Check

/-- Checks files in the order of their paths, without a database. -/
def check (settings : LoaderSettings) (paths : List Path) : Loader (List RoutineResult) := do
  let table ←
    match settings.constants with
    | some p => some <$> Constants.read p
    | none => pure none
  (sortPaths paths).mapM (Check.result settings table)

end StoredRoutines
