import StoredRoutines.Text.Blank
import StoredRoutines.Text.Table.Digit

/-!
Whole numbers as people write them: blanks around, a sign, and decimal digits of any script with
single underscores between them. A numeral of more than 4300 digits is refused.
-/

namespace StoredRoutines.Text

/-- The value of a decimal digit of any script. -/
def digitValue? (c : Char) : Option Nat :=
  (Table.zeros.find? fun z => z ≤ c.toNat && c.toNat < z + 10).map (c.toNat - ·)

/-- Digits with single underscores between them; `afterDigit` says what stands before. -/
def digits? (afterDigit : Bool) : List Char → Option (List Nat)
  | [] => if afterDigit then some [] else none
  | c :: cs =>
    if c = '_' then if afterDigit then digits? false cs else none
    else
      match digitValue? c with
      | some d => (digits? true cs).map (d :: ·)
      | none => none

/-- The number written by decimal digits, the highest first. -/
def ofDigits (ds : List Nat) : Nat := ds.foldl (fun n d => 10 * n + d) 0

/-- Longer numerals are refused. -/
def maxDigits : Nat := 4300

def natural? (s : List Char) : Option Nat :=
  match digits? false s with
  | some ds => if ds.length ≤ maxDigits then some (ofDigits ds) else none
  | none => none

/-- A blank that may stand around a numeral: the ASCII separators U+001C to U+001F may not. -/
def isNumeralBlank (c : Char) : Bool := isBlank c && !(28 ≤ c.toNat && c.toNat ≤ 31)

/-- The value of a numeral with optional blanks around it and an optional sign. -/
def integer? (s : String) : Option Int :=
  let body := ((s.toList.dropWhile isNumeralBlank).reverse.dropWhile isNumeralBlank).reverse
  match body with
  | '-' :: rest => (natural? rest).map fun n => -(n : Int)
  | '+' :: rest => (natural? rest).map Int.ofNat
  | rest => (natural? rest).map Int.ofNat

end StoredRoutines.Text
