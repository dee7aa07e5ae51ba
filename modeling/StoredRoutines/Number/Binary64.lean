/-!
Binary floating point with 53 bits, as far as whole parts need it: a rational is rounded to the
nearest number `m * 2 ^ e`, ties to even `m`, and cut to a whole number.
-/

namespace StoredRoutines.Number

/-- A non-negative number `mantissa * 2 ^ exponent`. -/
structure Binary64 where
  mantissa : Nat
  exponent : Int
  deriving DecidableEq, Repr

/-- The whole number nearest to `p / q`, ties to the even one. -/
def nearestEven (p q : Nat) : Nat :=
  let n := p / q
  let twice := 2 * (p % q)
  if twice < q then n
  else if q < twice then n + 1
  else if n % 2 = 0 then n else n + 1

/-- `p / q` divided by `2 ^ e`, as a quotient of whole numbers. -/
def scaled (p q : Nat) (e : Int) : Nat × Nat :=
  if 0 ≤ e then (p, q * Nat.pow 2 e.toNat) else (p * Nat.pow 2 (-e).toNat, q)

/-- The exponent at which `p / q` has 53 bits before the point, not below that of the least
positive number. -/
def exponentFor (p q : Nat) : Int :=
  let e : Int := (p.log2 : Int) - (q.log2 : Int) - 52
  let (a, b) := scaled p q e
  max (-1074) (if a < Nat.pow 2 52 * b then e - 1 else e)

/-- The number nearest to `p / q`; none if it is too large to have one. -/
def Binary64.ofRatio (p q : Nat) : Option Binary64 :=
  if p = 0 then some ⟨0, 0⟩
  else
    let e := exponentFor p q
    let (a, b) := scaled p q e
    let m := nearestEven a b
    if e > 971 || (e = 971 && m ≥ Nat.pow 2 53) then none else some ⟨m, e⟩

def Binary64.ratio (x : Binary64) : Nat × Nat :=
  if 0 ≤ x.exponent then (x.mantissa * Nat.pow 2 x.exponent.toNat, 1)
  else (x.mantissa, Nat.pow 2 (-x.exponent).toNat)

def Binary64.whole (x : Binary64) : Nat := x.ratio.1 / x.ratio.2

/-- The number nearest to a sum of a whole number and a number. -/
def Binary64.plusWhole (x : Binary64) (n : Nat) : Binary64 :=
  (Binary64.ofRatio (n * x.ratio.2 + x.ratio.1) x.ratio.2).getD ⟨0, 0⟩

def nano : Binary64 := (Binary64.ofRatio 1 1000000000).getD ⟨0, 0⟩

/-- A count of nanoseconds below one second, in seconds. -/
def secondsOfNanos (n : Nat) : Binary64 :=
  (Binary64.ofRatio (n * nano.ratio.1) nano.ratio.2).getD ⟨0, 0⟩

/-- Whole seconds of a time in nanoseconds. The time is first rounded to a binary number of
seconds, so the last tenth of a microsecond of a second already counts as the next second. -/
def wholeSeconds (nanos : Int) : Int :=
  let s := nanos.fdiv 1000000000
  let x := secondsOfNanos (nanos.fmod 1000000000).toNat
  if 0 ≤ s then (x.plusWhole s.toNat).whole
  else
    let (a, b) := x.ratio
    Int.negOfNat ((Binary64.ofRatio ((-s).toNat * b - a) b).getD ⟨0, 0⟩).whole

end StoredRoutines.Number
