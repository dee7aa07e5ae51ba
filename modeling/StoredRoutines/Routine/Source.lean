import StoredRoutines.Files.Path

/-!
The source of one stored routine: the text of one file. The name of the file without its extension
is the name of the routine.
-/

namespace StoredRoutines

/-- The name that a path implies for its routine. -/
def routineName (p : Path) (extension : String) : String :=
  if extension.isEmpty then p.name
  else
    match Text.dropSuffix? extension.toList p.name.toList with
    | some stem => String.ofList stem
    | none => p.name

structure RoutineSource where
  path : Path
  extension : String
  text : String
  /-- Time of the last change, in whole seconds. -/
  modified : Int
  deriving DecidableEq, Repr

namespace RoutineSource

def name (s : RoutineSource) : String := routineName s.path s.extension

/-- The lines of the text; line `n + 1` of the file is at index `n`. -/
def lines (s : RoutineSource) : List String := Text.lines s.text

def label (s : RoutineSource) : String := s.path.toText

/-- The line with which the body starts. -/
def isBegin (line : String) : Bool := Text.dropReturns line.toList == "begin".toList

/-- The index of the first line that starts a body. -/
def beginLine? (s : RoutineSource) : Option Nat := s.lines.findIdx? isBegin

end RoutineSource

end StoredRoutines
