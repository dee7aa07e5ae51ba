import StoredRoutines.Routine.Header
import StoredRoutines.Routine.ListParameter
import StoredRoutines.Routine.Placeholder

/-!
All annotations of a source together. They are read in a fixed order, so of several faults the
first in that order is reported: placeholders, designation, header, list parameters.
-/

namespace StoredRoutines

structure Annotations where
  header : Header
  designation : Designation
  listParameters : List ListParameter
  /-- The placeholders of the text with their values, sorted by token. -/
  placeholders : List (String × String)
  deriving DecidableEq, Repr

namespace Annotations

def routineName (a : Annotations) : String := a.header.name

def ofSource (source : RoutineSource) (table : ReplaceTable) : Except LoaderError Annotations := do
  let placeholders ← Placeholder.resolve source table
  let (designation, line) ← Designation.ofSource source
  let header ← Header.ofSource source
  let listParameters ← ListParameter.ofSource source line
  return { header, designation, listParameters, placeholders }

end Annotations

end StoredRoutines
