import StoredRoutines.Command.Environment
import StoredRoutines.Command.Report

/-!
The tasks of the command line. The exit code is 0 if all went well, 1 if a routine failed or the
connection was lost, and 2 if the store, the constants or the credentials are unusable.
-/

namespace StoredRoutines.Command

/-- The lowest level that is shown. -/
def showsLevel (verbose : Bool) (level : LogLevel) : Bool := verbose || level != .debug

/-- Prints lines up to the first that cannot be printed. -/
def printAll (lines : List Report.Line) : Loader Unit := lines.forM Report.print

def complainAll (lines : List String) : Loader Unit := lines.forM fun l => Loader.emit (.complain l)

/-- The exit code of a failure that has one, with its log line. -/
def exitForFailure : Failure → Option (Nat × String)
  | .error e =>
    match e.kind with
    | .metadata => some (2, e.message)
    | .connection => some (1, "Batch aborted: " ++ e.message)
    | _ => none
  | .defect _ => none

/-- Logs a failure that has an exit code, and passes any other on. -/
def concede (failure : Failure) : Loader Nat :=
  match exitForFailure failure with
  | some (code, line) => do
    Loader.log .error .command line
    return code
  | none => Loader.fail failure

/-- The files that a run is restricted to. -/
def restriction (files : List String) : Option (List Path) :=
  if files.isEmpty then none else some (files.map Path.ofString)

def load (connector : Sql.Connector) (env : Environment) (a : Arguments) : Loader Nat := do
  match env.connectOptions with
  | .error fault =>
    complainAll fault.lines
    return 2
  | .ok options =>
    let batch := loadAll (a.settings env) connector.layer (restriction a.files)
    -- Only what happens from here on is given an exit code of its own.
    match ← (connector.within options batch).attempt with
    | .error e => concede e
    | .ok b =>
      printAll (Report.batch b)
      return if b.succeeded then 0 else 1

/-- The failure of a check that has an exit code is one of the constants. -/
def concedeConstants (failure : Failure) : Loader Nat :=
  match failure with
  | .error e => if e.kind = .metadata then concede failure else Loader.fail failure
  | .defect _ => Loader.fail failure

def checkSources (env : Environment) (a : Arguments) : Loader Nat := do
  let settings := a.settings env
  let paths ←
    match restriction a.files with
    | some paths => pure paths
    | none => SourceSearch.run settings.sourceDirectory settings.extension
  match ← (check settings paths).attempt with
  | .error e => concedeConstants e
  | .ok results =>
    printAll (results.map Report.checked)
    return if results.all (·.succeeded) then 0 else 1

def run (connector : Sql.Connector) (env : Environment) (a : Arguments) : Loader Nat :=
  match a.task with
  | .load => load connector env a
  | .check => checkSources env a

end StoredRoutines.Command
