import StoredRoutines.Files.Glob
import StoredRoutines.Loader
import StoredRoutines.Routine.Source

/-!
Sources as files: reading one, and finding all below a directory in the order of their paths.
-/

namespace StoredRoutines

namespace RoutineSource

def unreadable (p : Path) (fault : FileFault) : LoaderError :=
  .ofSource .parse ("Cannot read " ++ p.toText ++ ": " ++ fault.describe p) p.toText

def undecodable (p : Path) : LoaderError :=
  .ofSource .parse "Source is not valid UTF-8" p.toText

def load (fs : FileSystem) (p : Path) (extension : String) : Except Failure RoutineSource :=
  match fs.read p with
  | .error fault => .error (fault.toFailure (unreadable p fault))
  | .ok f =>
    match Text.decodeMarked f.content with
    | .error _ => .error (.error (undecodable p))
    | .ok s =>
      .ok ⟨p, extension, Text.withUnifiedLineEnds s, Number.wholeSeconds f.modified⟩

end RoutineSource

namespace SourceSearch

/-- The patterns of a search: one for each component of the path below the directory. Two stars
alone stand for directories, and only for these; as a part of a component they are refused. -/
def pattern (extension : String) : Except Failure (List String) :=
  let parts := (Path.ofString ("*" ++ extension)).parts
  if parts.any fun part => part ≠ "**" && Text.occursIn "**".toList part.toList then
    .error (.defect (.invalidValue "Invalid pattern: '**' can only be an entire path component"))
  else .ok parts

/-- The components of a file below the directory match a pattern for one name, and the name ends in
the extension. -/
def selects (pattern : List String) (extension : String) (below : List String) : Bool :=
  match pattern, below.getLast? with
  | [p], some name =>
    p ≠ "**" && Wildcard.matchesName p name && extension.toList.isSuffixOf name.toList
  | _, _ => false

def missingDirectory (directory : Path) : String :=
  "Source directory " ++ directory.toText ++ " does not exist."

/-- All source files below a directory in the order of their paths. A directory that does not exist
holds none. -/
def run (directory : Path) (extension : String) : Loader (List Path) := do
  let fs ← Loader.getFiles
  match fs.find? directory, fs.locate directory with
  | .error fault, _ => Loader.fail (fault.unforeseen directory)
  | .ok (some .directory), .ok place =>
    -- A pattern is only refused if there is a directory to search.
    let pattern ← Loader.ofExcept (pattern extension)
    let found := (fs.filesBelow place).filter (selects pattern extension)
    return sortPaths (found.map directory.append)
  | _, _ =>
    Loader.log .warning .sources (missingDirectory directory)
    return []

end SourceSearch

end StoredRoutines
