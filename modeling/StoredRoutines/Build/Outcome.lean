import StoredRoutines.Freshness

/-!
Outcomes. Each source ends in exactly one way, and each way carries just what is known then: a
failed source never has a record, and a source that is up to date keeps the one it had.
-/

namespace StoredRoutines

inductive Outcome where
  /-- The record still holds. -/
  | upToDate (record : BuildRecord)
  /-- The routine must be loaded, and nothing was done about it. -/
  | wouldLoad (reason : StaleReason)
  /-- The routine was made again and has a new record. -/
  | loaded (reason : StaleReason) (record : BuildRecord) (warnings : List String)
  /-- The source follows the convention. -/
  | checked
  /-- An error stopped the routine, possibly after it had been made again. -/
  | failed (reason : Option StaleReason) (remade : Bool) (error : LoaderError)
  deriving Repr

namespace Outcome

def record? : Outcome → Option BuildRecord
  | upToDate record => some record
  | loaded _ record _ => some record
  | _ => none

def reason? : Outcome → Option StaleReason
  | wouldLoad reason => some reason
  | loaded reason _ _ => some reason
  | failed reason _ _ => reason
  | _ => none

def error? : Outcome → Option LoaderError
  | failed _ _ error => some error
  | _ => none

def isRemade : Outcome → Bool
  | loaded _ _ _ => true
  | failed _ remade _ => remade
  | _ => false

def warnings : Outcome → List String
  | loaded _ _ warnings => warnings
  | _ => []

def succeeded (o : Outcome) : Bool := o.error?.isNone

/-- The outcome after looks at the types in its record. Only a record that was just made documents
the very types of its parameters. -/
def afterLooks (n : Nat) : Outcome → Outcome
  | upToDate record => upToDate (record.afterLooks n)
  | loaded reason record warnings => loaded reason (record.afterMergedLooks n) warnings
  | o => o

end Outcome

/-- How it went with one source. -/
structure RoutineResult where
  path : Path
  name : String
  outcome : Outcome
  deriving Repr

namespace RoutineResult

def succeeded (r : RoutineResult) : Bool := r.outcome.succeeded

/-- A result about a source that an error stopped. The error is logged. -/
def failed (path : Path) (name : String) (reason : Option StaleReason) (remade : Bool)
    (error : LoaderError) : Loader RoutineResult := do
  Loader.log .error .batch ("Failed to load " ++ path.toText ++ ": " ++ error.message)
  return ⟨path, name, .failed reason remade error⟩

end RoutineResult

end StoredRoutines
