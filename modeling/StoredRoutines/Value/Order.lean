import StoredRoutines.Failure

/-!
The order of atoms: texts among themselves, byte strings among themselves, and numbers among
themselves. Other atoms cannot be put in order unless there is only one of them. Next to a number
that is none, numbers may be left in any order.
-/

namespace StoredRoutines.Atom

def isText : Atom → Bool
  | text _ | broken _ => true
  | _ => false

def isNumber : Atom → Bool
  | int _ | bool _ | real _ => true
  | _ => false

def isBytes : Atom → Bool
  | bytes _ => true
  | _ => false

def areComparable (as : List Atom) : Bool :=
  as.length ≤ 1 || as.all isText || as.all isNumber || as.all isBytes

/-- The place of a number in the order of numbers. -/
def rank : Atom → Number.Rank
  | int n => .at n
  | bool b => .at (if b then 1 else 0)
  | real x => x.rank
  | _ => .nowhere

/-- Not after the other atom, for two atoms that can be compared. -/
def precedes (a b : Atom) : Bool :=
  match a, b with
  | text a, text b => decide (a ≤ b)
  | bytes a, bytes b => !List.lex b a fun x y => decide (x < y)
  | a, b =>
    if a.isText then !List.lex b.points a.points fun m n => decide (m < n)
    else !b.rank.before a.rank

def unordered : Failure :=
  .defect (.wrongType "'<' not supported between values of different types")

/-- Entries in increasing order of their keys. -/
def sortEntries {α : Type} (entries : List (Atom × α)) : Except Failure (List (Atom × α)) :=
  if areComparable (entries.map (·.1)) then .ok (entries.mergeSort fun e f => e.1.precedes f.1)
  else .error unordered

def inOrder (as : List Atom) : Except Failure (List Atom) :=
  if areComparable as then .ok (as.mergeSort precedes) else .error unordered

end StoredRoutines.Atom
