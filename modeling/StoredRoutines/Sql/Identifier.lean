import StoredRoutines.Failure

/-!
Plain identifiers: non-empty runs of ASCII letters, digits and underscores. Only these are put
between backticks; a line feed at the very end is let through.
-/

namespace StoredRoutines.Sql

/-- The text without one line feed at its end. -/
def dropFinalLineFeed (s : List Char) : List Char :=
  if s.getLast? = some '\n' then s.dropLast else s

/-- A plain identifier, possibly with a line feed behind it. -/
def isIdentifier (s : String) : Bool :=
  let body := dropFinalLineFeed s.toList
  !body.isEmpty && body.all Text.isPlain

theorem isIdentifier_ofList {name : List Char} (noLineFeed : '\n' ∉ name) :
    isIdentifier (String.ofList name) = true ↔ name ≠ [] ∧ ∀ c ∈ name, Text.isPlain c = true := by
  have kept : dropFinalLineFeed name = name :=
    if_neg fun last => noLineFeed (List.mem_of_getLast? last)
  rw [isIdentifier, String.toList_ofList, kept, Bool.and_eq_true, List.all_eq_true]
  simp

def backtick (s : String) : Except Failure String :=
  if isIdentifier s then .ok ("`" ++ s ++ "`") else .error (.defect (.notIdentifier s))

/-- The identifier between backticks, if it is a text at all. -/
def backtickValue (v : Value) : Except Failure String :=
  match v with
  | .text s => backtick s
  | .atom (.broken points) => .error (.defect (.notIdentifier (.broken points)))
  | v =>
    .error (.defect (.wrongType
      ("expected string or bytes-like object, got '" ++ v.typeName ++ "'")))

end StoredRoutines.Sql
