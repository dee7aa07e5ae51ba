import StoredRoutines.Number.Spelled

/-!
Binary floating point numbers of 64 bits. A magnitude is known by its place among the finite ones,
from zero on. A number spelled in digits is taken for the number nearest to it, and a number is
shown by the shortest digits that are taken for it.
-/

namespace StoredRoutines.Number

/-- How many magnitudes are finite: 2047 times as many as there are from one power of two to the
next. -/
def magnitudes : Nat := 2047 * Nat.pow 2 52

/-- The magnitude at a place. The distance from one to the next doubles with each power of two. -/
def Binary64.ofPlace (place : Nat) : Binary64 :=
  if place < Nat.pow 2 52 then ⟨place, -1074⟩
  else ⟨Nat.pow 2 52 + place % Nat.pow 2 52, (place / Nat.pow 2 52 : Nat) - 1075⟩

/-- The place of a magnitude. A mantissa that was rounded up to a power of two needs no care: it is
at the first place of the next exponent. -/
def Binary64.place (x : Binary64) : Nat :=
  if x.mantissa = 0 then 0 else (x.exponent + 1074).toNat * Nat.pow 2 52 + x.mantissa

/-- Why a number has no whole part. -/
inductive Unbounded where
  | infinite
  | notANumber
  deriving DecidableEq, Repr

/-- Where a number stands among all numbers: at its value, before or behind all values, or nowhere. -/
inductive Rank where
  | first
  | at (value : Rat)
  | last
  | nowhere
  deriving DecidableEq, Repr

/-- The first rank comes before the second. What stands nowhere comes neither before nor behind
anything. -/
def Rank.before : Rank → Rank → Bool
  | «at» m, «at» n => m < n
  | first, «at» _ | first, last | «at» _, last => true
  | _, _ => false

inductive Double where
  | finite (negative : Bool) (place : Fin magnitudes)
  | infinite (negative : Bool)
  | notANumber
  deriving DecidableEq, Repr

namespace Double

/-- The number with a magnitude. One that is too large is infinite. -/
def ofMagnitude (negative : Bool) (magnitude : Option Binary64) : Double :=
  match magnitude with
  | none => infinite negative
  | some x =>
    if fits : x.place < magnitudes then finite negative ⟨x.place, fits⟩ else infinite negative

/-- The number nearest to a spelled one. -/
def ofSpelled (x : Spelled) : Double := ofMagnitude x.negative x.nearest

def ofChars (s : List Char) : Double := ofSpelled (Spelled.ofChars s)

/-- Zero with either sign. -/
def isZero : Double → Bool
  | finite _ place => place.val == 0
  | _ => false

def signed (negative : Bool) (n : Nat) : Int := if negative then -(n : Int) else n

/-- The number cut to a whole one. -/
def wholePart : Double → Except Unbounded Int
  | finite negative place => .ok (signed negative (Binary64.ofPlace place).whole)
  | infinite _ => .error .infinite
  | notANumber => .error .notANumber

/-- The whole number that is equal to it. -/
def whole? : Double → Option Int
  | finite negative place =>
    let (p, q) := (Binary64.ofPlace place).ratio
    if p % q = 0 then some (signed negative (p / q)) else none
  | _ => none

def rank : Double → Rank
  | finite negative place =>
    let (p, q) := (Binary64.ofPlace place).ratio
    .at (mkRat (signed negative p) q)
  | infinite negative => if negative then .first else .last
  | notANumber => .nowhere

end Double

/-- The digits of an exponent, two at least, behind its sign. -/
def exponentChars (e : Int) : List Char :=
  let ds := Nat.toDigits 10 e.natAbs
  (if e < 0 then '-' else '+') :: (if ds.length = 1 then '0' :: ds else ds)

/-- A number in digits, without its sign. It is spelled without an exponent if its first digit is
not more than sixteen places in front of the point and not more than four behind it. -/
def Spelled.toChars (x : Spelled) : List Char :=
  let ds := Nat.toDigits 10 x.digits
  let point : Int := x.exponent + ds.length
  if point ≤ -4 || 16 < point then
    ds.take 1 ++ (if ds.length = 1 then [] else '.' :: ds.drop 1) ++ 'e' :: exponentChars (point - 1)
  else if 0 ≤ x.exponent then
    Nat.toDigits 10 (x.digits * Nat.pow 10 x.exponent.toNat) ++ ['.', '0']
  else if 0 < point then ds.take point.toNat ++ '.' :: ds.drop point.toNat
  else '0' :: '.' :: (List.replicate (-point).toNat '0' ++ ds)

/-- The two decimals of an exponent that are next to a magnitude, the nearer one first. -/
def Binary64.neighbours (x : Binary64) (exponent : Int) : List Spelled :=
  let (p, q) := x.ratio
  let (a, b) :=
    if 0 ≤ exponent then (p, q * Nat.pow 10 exponent.toNat)
    else (p * Nat.pow 10 (-exponent).toNat, q)
  let near := nearestEven a b
  [⟨false, near, exponent⟩, ⟨false, 2 * (a / b) + 1 - near, exponent⟩]

/-- All the digits of a magnitude. -/
def Binary64.exactly (x : Binary64) : Spelled :=
  if 0 ≤ x.exponent then ⟨false, x.mantissa * Nat.pow 2 x.exponent.toNat * 10, -1⟩
  else ⟨false, x.mantissa * Nat.pow 5 (-x.exponent).toNat, x.exponent⟩

/-- The decimal with the fewest digits that is taken for the magnitude at a place. Exponents are
tried from some `n - 1074` downwards. -/
def shortestFrom (place : Fin magnitudes) : Nat → Spelled
  | 0 => (Binary64.ofPlace place).exactly
  | n + 1 =>
    let next := (Binary64.ofPlace place).neighbours (n + 1 - 1074)
    (next.find? fun x => Double.ofChars x.toChars = .finite false place).getD (shortestFrom place n)

/-- A decimal exponent beyond the first digit of a magnitude that is not zero, counted from `-1074`
on. A power of two has not quite a third of its exponent as decimal exponent. -/
def Binary64.firstExponent (x : Binary64) : Nat :=
  (((x.mantissa.log2 : Int) + x.exponent + 1) * 30103 / 100000 + 1 + 1074).toNat

def shortest (place : Fin magnitudes) : Spelled :=
  shortestFrom place (Binary64.ofPlace place).firstExponent

namespace Double

def magnitudeChars (place : Fin magnitudes) : List Char :=
  if place.val = 0 then ['0', '.', '0'] else (shortest place).toChars

/-- The text of the number. -/
def text : Double → String
  | finite negative place =>
    String.ofList ((if negative then ['-'] else []) ++ magnitudeChars place)
  | infinite negative => if negative then "-inf" else "inf"
  | notANumber => "nan"

instance : Coe Double String := ⟨text⟩

end Double

end StoredRoutines.Number
