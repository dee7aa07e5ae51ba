import StoredRoutines.Loader
import StoredRoutines.Routine.Placeholder
import StoredRoutines.Text.Blank

/-!
Constants: a file of lines `NAME=value`. Blank lines and lines that start with `#` are skipped
silently, any other line without an assignment with a warning. The constant `NAME` is the value of
the placeholder `@NAME@`.
-/

namespace StoredRoutines.Constants

def isQuote (c : Char) : Bool := c = '\'' || c = '"'

/-- The text without the one pair of equal quotes that encloses it, if there is one. -/
def dropQuotes (s : List Char) : List Char :=
  match s with
  | c :: rest => if isQuote c && rest.getLast? == some c then rest.dropLast else s
  | [] => []

/-- What a line of the file is. -/
inductive Line where
  | skipped
  | assignment (key : String) (value : String)
  | other
  deriving DecidableEq, Repr

def token (name : List Char) : String := "@" ++ Text.upper (String.ofList (Text.trim name)) ++ "@"

/-- What a line says. The first equals sign ends the name. -/
def Line.ofText (line : List Char) : Line :=
  let line := Text.trim line
  match line with
  | [] => skipped
  | '#' :: _ => skipped
  | line =>
    match line.dropWhile (· != '=') with
    | _ :: value =>
      assignment (token (line.takeWhile (· != '=')))
        (String.ofList (dropQuotes (Text.trim value)))
    | [] => other

def linesOfText (text : String) : List Line := (Text.splitOn '\n' text.toList).map Line.ofText

def ofLines (lines : List Line) : ReplaceTable :=
  Assoc.ofPairs (lines.filterMap fun
    | .assignment key value => some (key, .text value)
    | _ => none)

/-- The numbers, from 1, of the lines that are neither skipped nor assignments. -/
def strayLines (lines : List Line) : List Nat :=
  (lines.zipIdx.filter (·.1 == .other)).map (·.2 + 1)

def unreadable (p : Path) (fault : FileFault) : LoaderError :=
  ⟨.metadata, "Cannot read constants file " ++ p.toText ++ ": " ++ fault.describe p, {}⟩

/-- Logs a warning for each line that says nothing. -/
def report (p : Path) (lines : List Line) : Loader Unit :=
  (strayLines lines).forM fun n =>
    Loader.log .warning .replaceTable ("Skipping line " ++ toString n ++ " of " ++ p.toText ++
      ": not an assignment")

/-- Reads the constants of a file. Lines in front of malformed bytes are still reported if they
were read earlier. -/
def read (p : Path) : Loader ReplaceTable := do
  match (← Loader.getFiles).read p with
  | .error fault => Loader.fail (fault.toFailure (unreadable p fault))
  | .ok f =>
    match Text.decode f.content with
    | .ok s =>
      let lines := linesOfText (Text.withUnifiedLineEnds s)
      report p lines
      return ofLines lines
    | .error fault =>
      -- The lines that were read in one piece before the malformed bytes.
      report p ((Text.linesBefore fault f.content).map Line.ofText)
      Loader.fail (.defect (.undecodable fault))

end StoredRoutines.Constants
