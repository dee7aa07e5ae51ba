import StoredRoutines.Routine.Annotations
import StoredRoutines.Routine.Substitution
import StoredRoutines.Schema.Routines
import StoredRoutines.Settings
import StoredRoutines.Sql.Identifier

/-!
Making a routine in the database. A routine of the name that is there is dropped first, then the
settings of the session are made, then the routine is created.
-/

namespace StoredRoutines

def routineTypes : List String := ["procedure", "function"]

/-- The type of a routine that can be dropped, in lower case. -/
def droppableType (type : Value) : Except Failure String :=
  match type with
  | .text s =>
    let lower := Text.lower s
    if routineTypes.contains lower then .ok lower
    else .error (.defect (.unknownRoutineType lower))
  | .atom (.broken points) => .error (.defect (.unknownRoutineType (.broken points)))
  | v => .error (.defect (.noTextFunction v "lower"))

def dropStatement (type name : Value) : Except Failure String := do
  return "drop " ++ (← droppableType type) ++ " if exists " ++ (← Sql.backtickValue name)

namespace SessionSettings

/-- The statements that make the settings. An empty SQL mode is a setting of its own. -/
def statements (s : SessionSettings) (escape : String → String) : List String :=
  ["set sql_mode = " ++ Sql.literal escape s.sqlMode,
    "set names " ++ Sql.literal escape s.characterSet ++ " collate " ++
      Sql.literal escape s.collation]

def apply (s : SessionSettings) (layer : Sql.DataLayer) : Loader Unit :=
  (s.statements layer.escape).forM layer.execute

end SessionSettings

/-- Drops a routine if it exists; the statement is returned. -/
def dropRoutine (layer : Sql.DataLayer) (type name : Value) : Loader String := do
  let sql ← Loader.ofExcept (dropStatement type name)
  layer.execute sql
  return sql

def createStatement (layer : Sql.DataLayer) (directory : List String) (source : RoutineSource)
    (a : Annotations) : Except Failure String :=
  Substitution.source layer.quote directory source a.routineName a.placeholders

/-- Makes a routine again, in place of its entry in the catalog if it has one. The statement that
creates it is returned. -/
def loadRoutine (layer : Sql.DataLayer) (source : RoutineSource) (a : Annotations)
    (session : SessionSettings) (entry : Option CatalogEntry) : Loader String := do
  Loader.log .info .routines ("Loading " ++ a.header.routineType ++ " " ++ a.routineName)
  -- The statement is put together before the old routine is dropped.
  let sql ← Loader.ofExcept
    (createStatement layer (← Loader.getFiles).workingDirectory source a)
  match entry with
  | some entry =>
    let _ ← dropRoutine layer entry.routineType (.text a.routineName)
  | none => pure ()
  session.apply layer
  layer.execute sql
  return sql

end StoredRoutines
