import StoredRoutines.Loader

/-!
Where a documentation comment and the catalog disagree about the parameters of a routine. A
mismatch is worth a warning and nothing more.
-/

namespace StoredRoutines

inductive DocMismatch where
  /-- A parameter of the catalog is not documented. -/
  | undocumented (name : Atom)
  /-- A documented parameter is not in the catalog. -/
  | unknown (name : Atom)
  deriving DecidableEq, Repr

namespace DocMismatch

def warning : DocMismatch → String
  | undocumented name => "parameter '" ++ name.display ++ "' is missing from doc block"
  | unknown name => "unknown parameter '" ++ name.display ++ "' found in doc block"

/-- The mismatches between the names in the catalog and those in the comment: first the parameters
that lack documentation, then the documentation that lacks a parameter. -/
def between (catalog documented : List Key) : List DocMismatch :=
  (catalog.filter fun n => !documented.contains n).map (undocumented ·.atom) ++
    (documented.filter fun n => !catalog.contains n).map (unknown ·.atom)

def report (source : String) (mismatches : List DocMismatch) : Loader (List String) := do
  let warnings := mismatches.map warning
  warnings.forM fun w =>
    Loader.log .warning .documentation
      (w ++ " (" ++ (if source.isEmpty then "?" else source) ++ ")")
  return warnings

end DocMismatch

end StoredRoutines
