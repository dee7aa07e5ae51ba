import StoredRoutines.Text.Lines
import StoredRoutines.Text.Quoted

/-!
Text from bytes. Only well-formed UTF-8 is accepted; otherwise the first malformed sequence is
described by its place and by what is wrong with it.
-/

namespace StoredRoutines.Text

/-- What is wrong with a malformed sequence. -/
inductive Utf8Flaw where
  | start
  | continuation
  | cutShort
  deriving DecidableEq, Repr

/-- The first malformed sequence: where it starts, its bytes, and its flaw. -/
structure Utf8Fault where
  position : Nat
  bytes : List UInt8
  flaw : Utf8Flaw
  deriving DecidableEq, Repr

/-- How many bytes follow a lead byte, and the range of the first of them. -/
def leadShape (b : Nat) : Option (Nat × Nat × Nat) :=
  if b ≤ 0x7F then some (0, 0, 0)
  else if 0xC2 ≤ b && b ≤ 0xDF then some (1, 0x80, 0xBF)
  else if b = 0xE0 then some (2, 0xA0, 0xBF)
  else if b = 0xED then some (2, 0x80, 0x9F)
  else if 0xE1 ≤ b && b ≤ 0xEF then some (2, 0x80, 0xBF)
  else if b = 0xF0 then some (3, 0x90, 0xBF)
  else if 0xF1 ≤ b && b ≤ 0xF3 then some (3, 0x80, 0xBF)
  else if b = 0xF4 then some (3, 0x80, 0x8F)
  else none

/-- Scans the bytes one by one. `pending` holds the bytes of the character begun, `owed` how many
it still needs, and `low`, `high` bound the next of them. -/
def findFault (position : Nat) (pending : List UInt8) (owed low high : Nat) :
    List UInt8 → Option Utf8Fault
  | [] =>
    if pending.isEmpty then none
    else some ⟨position - pending.length, pending, .cutShort⟩
  | b :: bs =>
    if pending.isEmpty then
      match leadShape b.toNat with
      | none => some ⟨position, [b], .start⟩
      | some (0, _, _) => findFault (position + 1) [] 0 0 0 bs
      | some (n, l, h) => findFault (position + 1) [b] n l h bs
    else if low ≤ b.toNat && b.toNat ≤ high then
      if owed = 1 then findFault (position + 1) [] 0 0 0 bs
      else findFault (position + 1) (pending ++ [b]) (owed - 1) 0x80 0xBF bs
    else some ⟨position - pending.length, pending, .continuation⟩

def Utf8Flaw.text : Utf8Flaw → String
  | .start => "invalid start byte"
  | .continuation => "invalid continuation byte"
  | .cutShort => "unexpected end of data"

/-- A single byte is shown by its value, several by the range of their positions. -/
def Utf8Fault.text (f : Utf8Fault) : String :=
  match f.bytes with
  | [b] =>
    "'utf-8' codec can't decode byte 0x" ++ String.ofList (hex 2 b.toNat) ++ " in position " ++
      toString f.position ++ ": " ++ f.flaw.text
  | bytes =>
    "'utf-8' codec can't decode bytes in position " ++ toString f.position ++ "-" ++
      toString (f.position + bytes.length - 1) ++ ": " ++ f.flaw.text

def decode (bytes : ByteArray) : Except Utf8Fault String :=
  match String.fromUTF8? bytes with
  | some s => .ok s
  | none => .error ((findFault 0 [] 0 0 0 bytes.toList).getD ⟨0, [], .start⟩)

/-- Bytes of a file that are read at a time. -/
def pieceSize : Nat := 8192

/-- The bytes that are decoded before a fault is met: those of earlier pieces, up to the malformed
sequence. A sequence that is cut short is met at the end of the file only. -/
def Utf8Fault.decodedSize (f : Utf8Fault) : Nat :=
  match f.flaw with
  | .start => f.position / pieceSize * pieceSize
  | .continuation => min f.position ((f.position + f.bytes.length) / pieceSize * pieceSize)
  | .cutShort => f.position

/-- The text of the first bytes of a text. A character that is cut in two is left out; it has at
most four bytes. -/
def textOfFirst (size : Nat) (bytes : ByteArray) : String :=
  ((List.range 4).findSome? fun n => String.fromUTF8? (bytes.extract 0 (size - n))).getD ""

/-- The complete lines that are read before a fault is met. A carriage return at the very end may
still be the first half of a line end. -/
def linesBefore (f : Utf8Fault) (bytes : ByteArray) : List (List Char) :=
  let s := (textOfFirst f.decodedSize bytes).toList
  (splitOn '\n' (unifyLineEnds (if s.getLast? = some '\r' then s.dropLast else s))).dropLast

/-- The three bytes that may mark a file as UTF-8. -/
def byteOrderMark : List UInt8 := [0xEF, 0xBB, 0xBF]

/-- The text of a file that may start with the mark. A file that holds a part of the mark and
nothing else is empty. -/
def decodeMarked (bytes : ByteArray) : Except Utf8Fault String :=
  if bytes.toList.isPrefixOf byteOrderMark then .ok ""
  else if byteOrderMark.isPrefixOf bytes.toList then decode (bytes.extract 3 bytes.size)
  else decode bytes

/-- The text with line feeds as its only line ends. -/
def withUnifiedLineEnds (s : String) : String := String.ofList (unifyLineEnds s.toList)

end StoredRoutines.Text
