import StoredRoutines.Number.Double
import StoredRoutines.Text.Quoted

/-!
Atoms: values without parts. They are the leaves of a value and the keys of its tables. A text that
was written with escapes may hold half of a surrogate pair; it is then kept by its code points.
-/

namespace StoredRoutines

inductive Atom where
  | null
  | bool (b : Bool)
  | int (n : Int)
  | real (x : Number.Double)
  | text (s : String)
  /-- A text with a surrogate that stands alone, by its code points. -/
  | broken (points : List Nat)
  | bytes (b : List UInt8)
  deriving DecidableEq, Inhabited, Repr

namespace Atom

instance : Coe String Atom := ⟨text⟩

/-- The code point is half of a surrogate pair. -/
def isSurrogate (n : Nat) : Bool := 0xD800 ≤ n && n ≤ 0xDFFF

/-- A code point as a character, or the replacement character for a surrogate. -/
def pointChar (n : Nat) : Char := if isSurrogate n then '\uFFFD' else Char.ofNat n

def ofPoints (points : List Nat) : Atom :=
  if points.any isSurrogate then broken points else text (String.ofList (points.map pointChar))

/-- The code points of a text; other atoms have none. -/
def points : Atom → List Nat
  | text s => s.toList.map Char.toNat
  | broken points => points
  | _ => []

/-- Null, false, zero and everything empty count as nothing. -/
def isNothing : Atom → Bool
  | null => true
  | bool b => !b
  | int n => n == 0
  | real x => x.isZero
  | text s => s.isEmpty
  | broken points => points.isEmpty
  | bytes b => b.isEmpty

def typeName : Atom → String
  | null => "NoneType"
  | bool _ => "bool"
  | int _ => "int"
  | real _ => "float"
  | text _ | broken _ => "str"
  | bytes _ => "bytes"

/-- One byte of a byte string quoted by `quote`. -/
def quotedByte (quote : Char) (b : UInt8) : List Char :=
  let c := Char.ofNat b.toNat
  if c = quote || c = '\\' then ['\\', c]
  else if c = '\n' then ['\\', 'n']
  else if c = '\r' then ['\\', 'r']
  else if c = '\t' then ['\\', 't']
  else if 32 ≤ b.toNat && b.toNat < 127 then [c]
  else '\\' :: 'x' :: Text.hex 2 b.toNat

def quotedBytes (b : List UInt8) : String :=
  let quote := Text.quoteFor (b.map fun x => Char.ofNat x.toNat)
  String.ofList ('b' :: quote :: b.flatMap (quotedByte quote) ++ [quote])

/-- One code point of a text quoted by `quote`. -/
def quotedPoint (quote : Char) (n : Nat) : List Char :=
  if isSurrogate n then '\\' :: 'u' :: Text.hex 4 n else Text.quotedChar quote (Char.ofNat n)

def quotedPoints (points : List Nat) : String :=
  let quote := Text.quoteFor (points.map pointChar)
  String.ofList (quote :: points.flatMap (quotedPoint quote) ++ [quote])

/-- The atom as it is shown inside a value: texts are quoted. -/
def shown : Atom → String
  | null => "None"
  | bool true => "True"
  | bool false => "False"
  | int n => toString n
  | real x => x.text
  | text s => Text.quoted s
  | broken points => quotedPoints points
  | bytes b => quotedBytes b

/-- One code point in a text. A surrogate, which no text holds, is written as its escape. -/
def escapedPoint (n : Nat) : List Char :=
  if isSurrogate n then '\\' :: 'u' :: Text.hex 4 n else [Char.ofNat n]

/-- The atom as text: a text stands for itself. -/
def display : Atom → String
  | text s => s
  | broken points => String.ofList (points.flatMap escapedPoint)
  | a => a.shown

/-- The code points of the atom as text, surrogates included. -/
def displayPoints : Atom → List Nat
  | broken points => points
  | a => a.display.toList.map Char.toNat

theorem isSurrogate_toNat (c : Char) : isSurrogate c.toNat = false := by
  have valid := c.valid
  simp only [isSurrogate, Bool.and_eq_false_iff, decide_eq_false_iff_not, Char.toNat]
  rcases valid with low | high <;> omega

theorem ofPoints_text (s : String) : ofPoints (s.toList.map Char.toNat) = text s := by
  have kept : (pointChar ∘ Char.toNat) = id := by
    funext c
    simp [pointChar, isSurrogate_toNat]
  simp [ofPoints, isSurrogate_toNat, kept, List.any_map]

end Atom

/-- An atom as the key of a table. Numbers that are equal are one key, and a truth value is the same
key as the number it counts as. -/
structure Key where
  atom : Atom
  deriving Inhabited, Repr

namespace Key

/-- The atom that stands for all keys that are the same as this one. -/
def normal (k : Key) : Atom :=
  match k.atom with
  | .bool b => .int (if b then 1 else 0)
  | .real x =>
    match x.whole? with
    | some n => .int n
    | none => .real x
  | a => a

instance : BEq Key := ⟨fun j k => j.normal == k.normal⟩

instance : Coe String Key := ⟨fun s => ⟨.text s⟩⟩

theorem beq_iff (j k : Key) : (j == k) = true ↔ j.normal = k.normal := by
  show (j.normal == k.normal) = true ↔ _
  exact beq_iff_eq

end Key

end StoredRoutines
