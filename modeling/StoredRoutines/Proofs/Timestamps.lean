import StoredRoutines.Proofs.JsonReadings
import StoredRoutines.Record.Members

/-!
Whole numbers that values stand for. A floating point number has a whole part of a little more than
three hundred digits at most, and a numeral in a text is no longer
than it may be; so a timestamp that was read can always be spelled again.
-/

namespace StoredRoutines

namespace Number

/-- The whole part of a finite number has 1024 bits at most. -/
theorem whole_lt {x : Binary64} (normal : x.Normal) {bits : Nat} (many : 1024 ≤ bits) :
    x.whole < 2 ^ bits := by
  have mantissa := normal.bits
  have exponent := normal.greatest
  unfold Binary64.whole Binary64.ratio
  split
  · calc x.mantissa * 2 ^ x.exponent.toNat / 1 < 2 ^ 53 * 2 ^ x.exponent.toNat := by
          rw [Nat.div_one]
          exact Nat.mul_lt_mul_of_pos_right mantissa (Nat.two_pow_pos _)
      _ = 2 ^ (53 + x.exponent.toNat) := (Nat.pow_add _ _ _).symm
      _ ≤ 2 ^ bits := Nat.pow_le_pow_right (by omega) (by omega)
  · calc x.mantissa / 2 ^ (-x.exponent).toNat ≤ x.mantissa := Nat.div_le_self _ _
      _ < 2 ^ 53 := mantissa
      _ ≤ 2 ^ bits := Nat.pow_le_pow_right (by omega) (by omega)

theorem length_toDigits_of_wholePart {x : Double} {n : Int} (h : x.wholePart = .ok n) :
    (Nat.toDigits 10 n.natAbs).length ≤ Text.maxDigits := by
  cases x with
  | finite negative place =>
    cases h
    have bound : (Binary64.ofPlace place).whole < 2 ^ Text.maxDigits :=
      whole_lt (normal_ofPlace place.isLt) (by decide)
    have same : (Double.signed negative (Binary64.ofPlace place).whole).natAbs =
        (Binary64.ofPlace place).whole := by
      cases negative <;> simp [Double.signed]
    rw [same]
    exact Nat.toDigits_length 10 _ Text.maxDigits (by decide)
      (Nat.lt_of_lt_of_le bound (Nat.pow_le_pow_left (by omega) _))
  | infinite negative => cases h
  | notANumber => cases h

end Number

theorem Text.length_toDigits_of_integer? {s : String} {n : Int} (h : integer? s = some n) :
    (Nat.toDigits 10 n.natAbs).length ≤ maxDigits := by
  unfold integer? at h
  simp only at h
  split at h
  · obtain ⟨m, digits, rfl⟩ := Option.map_eq_some_iff.1 h
    obtain ⟨k, read, lifted⟩ := Option.bind_eq_some_iff.1 digits
    obtain rfl : (k : Int) = m := Option.some.inj lifted
    rw [Int.natAbs_neg, Int.natAbs_natCast]
    exact length_toDigits_of_natural? read
  all_goals
    obtain ⟨m, read, rfl⟩ := Option.map_eq_some_iff.1 h
    exact length_toDigits_of_natural? read

theorem Value.Storable.length_toInteger {depth : Nat} {v : Value} (h : v.Storable depth) {n : Int}
    (found : v.toInteger = .ok n) : (Nat.toDigits 10 n.natAbs).length ≤ Text.maxDigits := by
  unfold toInteger at found
  split at found
  · cases found
    simpa [Json.isTooLong] using h.atom.short
  · rename_i b
    cases found
    cases b <;> decide
  · split at found <;> cases found
    rename_i whole
    exact Number.length_toDigits_of_wholePart whole
  · split at found <;> cases found
    rename_i numeral
    exact Text.length_toDigits_of_integer? numeral
  all_goals cases found

end StoredRoutines
