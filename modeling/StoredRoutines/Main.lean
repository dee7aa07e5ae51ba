import StoredRoutines.Command.Run
import Std.Time.Zoned

/-!
The command line. The files that a run may touch are read beforehand, the run is computed, and what
it changed is written back; then its lines are printed. No connector is linked in, so every attempt
to connect is refused.
-/

namespace StoredRoutines.Command

def usage : List String :=
  ["usage: stratum [-h] [--verbose] load [--dry-run] [options] [FILE ...]",
    "       stratum [-h] [--verbose] check [options] [FILE ...]",
    "options: --source-dir DIR, --extension TEXT, --metadata FILE, --constants FILE"]

def variableNames : List String :=
  ["SOURCE_DIR", "SOURCE_EXTENSION", "METADATA_PATH", "CONSTANTS_PATH", "SQL_MODE",
    "CHARACTER_SET", "COLLATION", "DROP_OBSOLETE", "DRY_RUN", "DB_HOST", "DB_PORT", "DB_USER",
    "DB_PASSWORD", "DB_NAME"]

def readEnvironment : IO Environment :=
  variableNames.filterMapM fun name => do
    return (← IO.getEnv name).map fun value => (name, value)

def refusingConnector : Sql.Connector where
  connectError _ := some ⟨false, "Can't connect to MySQL server", some 2003, some "HY000"⟩
  cursorError _ := none
  statementError _ _ := none
  rows _ _ := []
  cursorCloseError _ := none
  closeError _ := none

def placeText (l : Location) : String := "/" ++ "/".intercalate l

/-- The files with the directories above a place. -/
def withDirectories (fs : FileSystem) (l : Location) : FileSystem :=
  (List.range l.length).foldl (fun fs n => fs.put (l.take (n + 1)) .directory) fs

/-- Adds what stands at a place, down to a depth. -/
def readTree (depth : Nat) (fs : FileSystem) (l : Location) : IO FileSystem := do
  let place := (← IO.currentDir) / placeText l
  if !(← place.pathExists) then return fs
  let data ← place.metadata
  let fs := withDirectories fs l.dropLast
  match depth, data.type with
  | _, .file =>
    let content ← IO.FS.readBinFile place
    let modified := 1000000000 * data.modified.sec + data.modified.nsec.toNat
    return fs.put l (.file ⟨content, modified⟩)
  | depth + 1, .dir =>
    let mut fs := withDirectories fs l
    for entry in ← place.readDir do
      fs ← readTree depth fs (l ++ [entry.fileName])
    return fs
  | _, _ => return fs

def places (directory : Location) (s : LoaderSettings) (a : Arguments) : List Location :=
  let paths := [s.sourceDirectory, s.store, s.store.parent] ++ s.constants.toList ++
    a.files.map Path.ofString
  directory :: (paths.map fun p => (p.absolute directory).parts).filter fun l =>
    !directory.isPrefixOf l

def readFiles (s : LoaderSettings) (a : Arguments) : IO FileSystem := do
  let directory := (Path.ofString (← IO.currentDir).toString).parts
  (places directory s a).foldlM (readTree 32) (FileSystem.empty directory)

def writeFiles (before after : FileSystem) : IO Unit :=
  after.entries.forM fun e =>
    match e.2 with
    | .directory => pure ()
    | .file f =>
      if before.node? e.1 = some (.file f) then pure ()
      else do
        IO.FS.createDirAll (placeText e.1.dropLast)
        IO.FS.writeBinFile (placeText e.1) f.content

def twoDigits (n : Int) : String := if n < 10 then "0" ++ toString n else toString n

def timeText : IO String := do
  let now ← Std.Time.PlainDateTime.now
  return toString now.year.toInt ++ "-" ++ twoDigits now.month.toInt ++ "-" ++
    twoDigits now.day.toInt ++ "T" ++ twoDigits now.hour.toInt ++ ":" ++
    twoDigits now.minute.toInt ++ ":" ++ twoDigits now.second.toInt

def showEvent (verbose : Bool) (time : String) : Event → IO Unit
  | .log l =>
    if showsLevel verbose l.level then
      IO.println (time ++ " [" ++ l.level.label ++ "] " ++ l.channel.label ++ ": " ++ l.text)
    else pure ()
  | .print s => IO.println s
  | .complain s => IO.eprintln s
  | .statement _ | .call _ | .cursor _ | .refusedCursor _ => pure ()

/-- Runs the task of the arguments; the exit code is returned. -/
def execute (a : Arguments) : IO Nat := do
  let env ← readEnvironment
  let files ← readFiles (a.settings env) a
  let (outcome, w) := (run refusingConnector env a).run { files := files }
  w.events.forM (showEvent a.verbose (← timeText))
  writeFiles files w.files
  match outcome with
  | .ok code => return code
  | .error e =>
    IO.eprintln e.message
    return 1

end StoredRoutines.Command

open StoredRoutines in
def main (arguments : List String) : IO UInt32 := do
  match Command.Arguments.ofCommandLine arguments with
  | .error .help =>
    Command.usage.forM IO.println
    return 0
  | .error stop =>
    Command.usage.forM IO.eprintln
    return stop.exitCode.toUInt32
  | .ok a => return (← Command.execute a).toUInt32
