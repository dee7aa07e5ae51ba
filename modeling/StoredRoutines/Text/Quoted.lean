import StoredRoutines.Text.Table.Unprintable
import StoredRoutines.Text.Word

/-!
A text shown in quotes on one line: quotes, backslashes and characters without a visible form are
escaped. Single quotes are used unless the text holds a single quote and no double quote.
-/

namespace StoredRoutines.Text

/-- The character has a visible form, or is the space. -/
def isPrintable (c : Char) : Bool :=
  if c.toNat < 128 then 32 ≤ c.toNat && c.toNat < 127
  else !inRanges Table.unprintable c.toNat

def hexDigit (n : Nat) : Char :=
  if n % 16 < 10 then Char.ofNat (48 + n % 16) else Char.ofNat (87 + n % 16)

/-- The last `width` hexadecimal digits of a number. -/
def hex (width n : Nat) : List Char :=
  match width with
  | 0 => []
  | w + 1 => hex w (n / 16) ++ [hexDigit n]

/-- A character by its number, in the shortest of the three widths that holds it. -/
def numbered (c : Char) : List Char :=
  let n := c.toNat
  if n < 0x100 then '\\' :: 'x' :: hex 2 n
  else if n < 0x10000 then '\\' :: 'u' :: hex 4 n
  else '\\' :: 'U' :: hex 8 n

/-- One character of a text quoted by `quote`. -/
def quotedChar (quote c : Char) : List Char :=
  if c = quote || c = '\\' then ['\\', c]
  else if c = '\n' then ['\\', 'n']
  else if c = '\r' then ['\\', 'r']
  else if c = '\t' then ['\\', 't']
  else if isPrintable c then [c]
  else numbered c

def quoteFor (s : List Char) : Char :=
  if s.contains '\'' && !s.contains '"' then '"' else '\''

def quoted (s : String) : String :=
  let quote := quoteFor s.toList
  String.ofList (quote :: s.toList.flatMap (quotedChar quote) ++ [quote])

end StoredRoutines.Text
