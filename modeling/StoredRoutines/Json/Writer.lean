import StoredRoutines.Text.Numeral
import StoredRoutines.Value.Order

/-!
Writing JSON in the layout of the record store: two blanks of indentation per level, members sorted
by key, and ASCII only. Byte strings have no JSON form, keys of different types no order, and whole
numbers of more than 4300 digits no numeral; what stands in front of them is written all the same.
-/

namespace StoredRoutines.Json

/-- A text being written: what is there, and why it goes no further if it does not. -/
structure Output where
  characters : List Char
  failure : Option Failure := none
  deriving DecidableEq, Repr

namespace Output

/-- The output goes on with another one unless it has failed. -/
def append (a b : Output) : Output :=
  match a.failure with
  | some _ => a
  | none => ⟨a.characters ++ b.characters, b.failure⟩

instance : Append Output := ⟨append⟩

instance : Coe (List Char) Output := ⟨fun cs => ⟨cs, none⟩⟩

def refused (e : Failure) : Output := ⟨[], some e⟩

/-- Outputs one after the other with a text between them. -/
def joined (separator : List Char) : List Output → Output
  | [] => ⟨[], none⟩
  | [o] => o
  | o :: os => o ++ (separator : Output) ++ joined separator os

theorem append_of_complete (cs : List Char) (b : Output) :
    (cs : Output) ++ b = ⟨cs ++ b.characters, b.failure⟩ := rfl

end Output

def unitEscape (u : Nat) : List Char := '\\' :: 'u' :: Text.hex 4 u

/-- One code point of a string. Those beyond the basic plane take a surrogate pair. -/
def writtenPoint (n : Nat) : List Char :=
  if n = 34 then ['\\', '"']
  else if n = 92 then ['\\', '\\']
  else if n = 10 then ['\\', 'n']
  else if n = 13 then ['\\', 'r']
  else if n = 9 then ['\\', 't']
  else if n = 8 then ['\\', 'b']
  else if n = 12 then ['\\', 'f']
  else if 32 ≤ n ∧ n < 127 then [Char.ofNat n]
  else if n < 0x10000 then unitEscape n
  else unitEscape (0xD800 + (n - 0x10000) / 0x400) ++ unitEscape (0xDC00 + (n - 0x10000) % 0x400)

def writtenString (points : List Nat) : List Char := '"' :: points.flatMap writtenPoint ++ ['"']

/-- The literal of an atom that is neither a text nor a byte string. -/
def literal (a : Atom) : List Char :=
  match a with
  | .null => "null".toList
  | .bool true => "true".toList
  | .bool false => "false".toList
  | .real (.infinite negative) => (if negative then "-Infinity" else "Infinity").toList
  | .real .notANumber => "NaN".toList
  | a => a.display.toList

def noJsonForm : Failure :=
  .defect (.wrongType "Object of type bytes is not JSON serializable")

def tooManyDigits : Failure :=
  .defect (.invalidValue "Exceeds the limit (4300 digits) for integer string conversion")

/-- A whole number of more digits than a numeral may have. -/
def isTooLong : Atom → Bool
  | .int n => Text.maxDigits < (Nat.toDigits 10 n.natAbs).length
  | _ => false

def writtenAtom (a : Atom) : Output :=
  if a.isBytes then .refused noJsonForm
  else if isTooLong a then .refused tooManyDigits
  else if a.isText then writtenString a.points
  else literal a

/-- The name of a member and the colon behind it. A key that is no text is spelled as one. -/
def writtenKey (a : Atom) : Output :=
  if a.isBytes then .refused noJsonForm
  else if isTooLong a then .refused tooManyDigits
  else
    (writtenString (if a.isText then a.points else (literal a).map Char.toNat) : Output) ++
      ([':', ' '] : Output)

/-- The start of a line at a level of nesting. -/
def newLine (level : Nat) : List Char := '\n' :: List.replicate (2 * level) ' '

/-- Items between brackets, one to a line. -/
def enclosed (opening closing : Char) (level : Nat) (items : List Output) : Output :=
  if items.isEmpty then ([opening, closing] : List Char)
  else
    (opening :: newLine (level + 1) : List Char) ++
      (Output.joined (',' :: newLine (level + 1)) items ++ (newLine level ++ [closing] : List Char))

/-- Members between braces, in the order of their keys. -/
def enclosedMembers (level : Nat) (members : List (Atom × Output)) : Output :=
  match Atom.sortEntries members with
  | .ok sorted => enclosed '\x7b' '\x7d' level (sorted.map fun m => writtenKey m.1 ++ m.2)
  | .error e => ('\x7b' :: newLine (level + 1) : List Char) ++ Output.refused e

mutual

def written (level : Nat) : Value → Output
  | .atom a => writtenAtom a
  | .list items => enclosed '[' ']' level (writtenItems (level + 1) items)
  | .object fields => enclosedMembers level (writtenFields (level + 1) fields)

def writtenItems (level : Nat) : List Value → List Output
  | [] => []
  | v :: vs => written level v :: writtenItems level vs

def writtenFields (level : Nat) : List (Atom × Value) → List (Atom × Output)
  | [] => []
  | (k, v) :: fs => (k, written level v) :: writtenFields level fs

end

def render (v : Value) : Output := written 0 v

end StoredRoutines.Json
