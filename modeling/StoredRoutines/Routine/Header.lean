import StoredRoutines.Failure
import StoredRoutines.Routine.Source
import StoredRoutines.Text.Blank
import StoredRoutines.Text.Letters

/-!
The header of a routine: `create procedure <name>` or `create function <name>`, wherever it first
occurs in the text. Case does not matter, and the few characters beyond ASCII that are another case
of a Latin letter count as that letter.
-/

namespace StoredRoutines

structure Header where
  /-- The type as written, in lower case. -/
  routineType : String
  name : String
  deriving DecidableEq, Repr

namespace Header

/-- The characters beyond ASCII that are another case of a Latin letter: both Turkish i, the long
s, and the Kelvin sign. -/
def otherCases : List (Char × Char) :=
  [('\u0130', 'i'), ('\u0131', 'i'), ('\u017f', 's'), ('\u212a', 'k')]

/-- The character is a case of the lower-case letter. -/
def isCaseOf (letter c : Char) : Bool := c.toLower = letter || otherCases.contains (c, letter)

/-- A character of a routine name. -/
def isNameChar (c : Char) : Bool := Text.isPlain c || otherCases.any fun e => e.1 = c

/-- A word in any case at the start of the text: as written, and what follows it. -/
def word? : List Char → List Char → Option (List Char × List Char)
  | [], s => some ([], s)
  | letter :: letters, c :: cs =>
    if isCaseOf letter c then (word? letters cs).map fun r => (c :: r.1, r.2) else none
  | _ :: _, [] => none

/-- What follows one or more blanks. -/
def afterBlanks? : List Char → Option (List Char)
  | c :: cs => if Text.isBlank c then some (Text.trimLeft cs) else none
  | [] => none

/-- The keyword of a routine type, as written, and what follows it. -/
def type? (s : List Char) : Option (List Char × List Char) :=
  match word? "procedure".toList s with
  | some r => some r
  -- The two keywords start with different letters, so their order does not matter.
  | none => word? "function".toList s

/-- The header at the start of the text: its type and name as written. -/
def here? (s : List Char) : Option (List Char × List Char) := do
  let (_, s) ← word? "create".toList s
  let s ← afterBlanks? s
  let (type, s) ← type? s
  let s ← afterBlanks? s
  let name := s.takeWhile isNameChar
  if name.isEmpty then none else some (type, name)

/-- The text before the first header, and the type and name of that header. -/
def search? (s : List Char) : Option (List Char × List Char × List Char) :=
  match here? s with
  | some r => some ([], r)
  | none =>
    match s with
    | [] => none
    | c :: cs => (search? cs).map fun r => (c :: r.1, r.2)

/-- Why a source has no header of its own. -/
inductive Fault where
  | missing
  | otherName (name : String)
  deriving DecidableEq, Repr

def Fault.wording : Fault → String
  | missing => "Unable to find the stored routine name and type."
  | otherName name => "Stored routine name '" ++ name ++ "' does not match filename."

/-- The header of a text whose routine must have a given name. -/
def ofText (text routine : String) : Except Fault Header :=
  match search? text.toList with
  | none => .error .missing
  | some (_, type, name) =>
    if String.ofList name = routine then
      .ok ⟨Text.lower (String.ofList type), String.ofList name⟩
    else .error (.otherName (String.ofList name))

def ofSource (source : RoutineSource) : Except LoaderError Header :=
  (ofText source.text source.name).mapError fun fault =>
    .ofSource .parse fault.wording source.label

/-- The text before the header, or all of it if there is none. -/
def leadingComment (text : String) : String :=
  match search? text.toList with
  | some (before, _) => String.ofList before
  | none => text

end Header

end StoredRoutines
