import StoredRoutines.Build.Batch

/-!
Reports: the lines that a run prints about its results, by their code points. A line with a
surrogate that stands alone has no encoding and cannot be printed.
-/

namespace StoredRoutines.Command.Report

abbrev Line := List Nat

def line (s : String) : Line := s.toList.map Char.toNat

/-- The lines about one routine of a batch. A routine that is up to date has none. -/
def routine (r : RoutineResult) : List Line :=
  match r.outcome with
  | .failed _ _ e => [line ("✗ " ++ r.name ++ ": " ++ e.message)]
  | .loaded reason _ warnings =>
    (line ("✓ " ++ r.name ++ ": loaded (") ++ reason.messagePoints ++ line ")") ::
      warnings.map fun w => line ("  warning: " ++ w)
  | .wouldLoad reason =>
    [line ("· " ++ r.name ++ ": stale (") ++ reason.messagePoints ++ line ")"]
  | .upToDate _ | .checked => []

def dropped (name : Atom) : Line :=
  line "- " ++ name.displayPoints ++ line ": dropped (no source file)"

def summary (b : BatchResult) : List Line :=
  (["\n── Summary ──────────────────────────────────────────",
      "  Routines : " ++ toString b.results.length,
      "  Loaded   : " ++ toString b.loadedCount,
      "  Failed   : " ++ toString b.failed.length,
      "  Dropped  : " ++ toString b.dropped.length] ++
    if b.dryRun then ["  (dry-run: nothing was changed)"] else []).map line

def batch (b : BatchResult) : List Line :=
  b.results.flatMap routine ++ b.dropped.map dropped ++ summary b

def checked (r : RoutineResult) : Line :=
  match r.outcome.error? with
  | some e => line ("✗ " ++ r.path.toText ++ ": " ++ e.message)
  | none => line ("✓ " ++ r.path.toText)

/-- Why a line has no encoding. The surrogates that come first are told with their place. -/
def encodingFault (line : Line) : Defect :=
  let start := (line.takeWhile (!Atom.isSurrogate ·)).length
  match (line.drop start).takeWhile Atom.isSurrogate with
  | [n] =>
    .invalidValue ("'utf-8' codec can't encode character '\\u" ++ String.ofList (Text.hex 4 n) ++
      "' in position " ++ toString start ++ ": surrogates not allowed")
  | run =>
    .invalidValue ("'utf-8' codec can't encode characters in position " ++ toString start ++ "-" ++
      toString (start + run.length - 1) ++ ": surrogates not allowed")

/-- Prints a line if it has an encoding; nothing is printed of one that has none. -/
def print (line : Line) : Loader Unit :=
  match Atom.ofPoints line with
  | .text s => Loader.print s
  | _ => Loader.fail (.defect (encodingFault line))

end StoredRoutines.Command.Report
