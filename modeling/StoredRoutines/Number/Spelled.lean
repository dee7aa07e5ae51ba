import StoredRoutines.Number.Binary64
import StoredRoutines.Text.Numeral

/-!
Numbers spelled with a fraction or an exponent, and the binary floating point numbers nearest to
them.
-/

namespace StoredRoutines.Number

/-- A number `digits * 10 ^ exponent`, with its sign. -/
structure Spelled where
  negative : Bool
  digits : Nat
  exponent : Int
  deriving DecidableEq, Repr

def asciiNumber (ds : List Char) : Nat := ds.foldl (fun n c => 10 * n + (c.toNat - 48)) 0

/-- The exponent behind its mark, zero if there is none. -/
def exponentOf : List Char → Int
  | _ :: '-' :: r => -(asciiNumber r : Int)
  | _ :: '+' :: r => asciiNumber r
  | _ :: r => asciiNumber r
  | [] => 0

/-- The parts of a spelled number: sign, digits before and after the point, exponent. -/
def Spelled.ofChars (s : List Char) : Spelled :=
  let negative := s.head? == some '-'
  let s := if negative then s.drop 1 else s
  let whole := s.takeWhile Char.isDigit
  let rest := s.dropWhile Char.isDigit
  let (fraction, rest) :=
    match rest with
    | '.' :: r => (r.takeWhile Char.isDigit, r.dropWhile Char.isDigit)
    | r => ([], r)
  ⟨negative, asciiNumber (whole ++ fraction), exponentOf rest - fraction.length⟩

/-- The binary number nearest to the magnitude. An exponent beyond all binary numbers is decided
without computing the power. -/
def Spelled.nearest (x : Spelled) : Option Binary64 :=
  if x.digits = 0 then some ⟨0, 0⟩
  else
    let size : Int := x.exponent + (Nat.log2 x.digits : Int)
    if x.exponent > 400 then none
    else if size < -400 && x.exponent < -(4 * (Nat.log2 x.digits : Int) + 400) then some ⟨0, 0⟩
    else if 0 ≤ x.exponent then Binary64.ofRatio (x.digits * Nat.pow 10 x.exponent.toNat) 1
    else Binary64.ofRatio x.digits (Nat.pow 10 (-x.exponent).toNat)

end StoredRoutines.Number
