import StoredRoutines.Failure
import StoredRoutines.Files.Path

/-!
Why an access to files fails. Most faults are numbered and have a fixed wording. A path that holds
the character NUL cannot even be asked for, and is a defect rather than a fault of the files.
-/

namespace StoredRoutines

inductive FileFault where
  | missing
  | busy
  | exists
  | notDirectory
  | isDirectory
  | nameTooLong
  /-- The path holds the character NUL. -/
  | unnameable
  deriving DecidableEq, Repr

namespace FileFault

def text : FileFault → String
  | missing => "[Errno 2] No such file or directory"
  | busy => "[Errno 16] Device or resource busy"
  | «exists» => "[Errno 17] File exists"
  | notDirectory => "[Errno 20] Not a directory"
  | isDirectory => "[Errno 21] Is a directory"
  | nameTooLong => "[Errno 36] File name too long"
  | unnameable => "embedded null byte"

def describe (f : FileFault) (p : Path) : String := f.text ++ ": " ++ Text.quoted p.toText

def describeMove (f : FileFault) (p q : Path) : String :=
  f.describe p ++ " -> " ++ Text.quoted q.toText

/-- The failure that a fault means where a fault of the files means an error of the loader. -/
def toFailure (f : FileFault) (e : LoaderError) : Failure :=
  match f with
  | unnameable => .defect (.invalidValue f.text)
  | _ => .error e

/-- The failure that a fault means where nothing provides for it. -/
def unforeseen (f : FileFault) (p : Path) : Failure :=
  match f with
  | unnameable => .defect (.invalidValue f.text)
  | f => .defect (.inaccessible (f.describe p))

end FileFault

end StoredRoutines
