import StoredRoutines.Proofs.Rounding

/-!
Numbers shown and read again. The digits that a number is shown by are taken for that number, for
every finite one: they are tried before they are chosen, and if none are short enough then all
digits of the number are taken.
-/

namespace StoredRoutines.Number

theorem asciiNumber_toDigits (n : Nat) : asciiNumber (Nat.toDigits 10 n) = n :=
  Nat.ofDigitChars_ten_toDigits

theorem asciiNumber_zeros (k : Nat) (ds : List Char) :
    asciiNumber (List.replicate k '0' ++ ds) = asciiNumber ds := by
  induction k with
  | zero => rfl
  | succ k ih => exact ih

theorem isDigit_toDigits {n : Nat} {c : Char} (member : c ∈ Nat.toDigits 10 n) :
    c.isDigit = true :=
  Nat.isDigit_of_mem_toDigits (by omega) (by omega) member

theorem head_toDigits {n : Nat} (positive : 0 < n) :
    ∃ c ds, Nat.toDigits 10 n = c :: ds ∧ c ≠ '0' := by
  induction n using Nat.strongRecOn with
  | ind n ih =>
    by_cases small : n < 10
    · refine ⟨n.digitChar, [], Nat.toDigits_of_lt_base small, ?_⟩
      have known : ∀ k < 10, 0 < k → k.digitChar ≠ '0' := by decide
      exact known n small positive
    · obtain ⟨c, ds, split, zero⟩ := ih (n / 10) (by omega) (by omega)
      refine ⟨c, ds ++ [(n % 10).digitChar], ?_, zero⟩
      rw [Nat.toDigits_of_base_le (by omega) (by omega), split, List.cons_append]

/-- Some digits, the first of them no zero unless it is the only one. -/
structure WholeDigits (ds : List Char) : Prop where
  digits : ∀ c ∈ ds, c.isDigit = true
  leading : ds = ['0'] ∨ ∃ c rest, ds = c :: rest ∧ c ≠ '0'

theorem WholeDigits.some {ds : List Char} (h : WholeDigits ds) : ds ≠ [] := by
  rcases h.leading with rfl | ⟨c, rest, rfl, -⟩ <;> simp

theorem wholeDigits_toDigits (n : Nat) : WholeDigits (Nat.toDigits 10 n) := by
  refine ⟨fun c member => isDigit_toDigits member, ?_⟩
  cases n with
  | zero => exact .inl rfl
  | succ n => exact .inr (head_toDigits (Nat.succ_pos n))

theorem WholeDigits.take {ds : List Char} (h : WholeDigits ds) {k : Nat} (some : k ≠ 0) :
    WholeDigits (ds.take k) := by
  obtain ⟨k, rfl⟩ := Nat.exists_eq_succ_of_ne_zero some
  refine ⟨fun c member => h.digits c (List.mem_of_mem_take member), ?_⟩
  rcases h.leading with rfl | ⟨c, rest, rfl, nonzero⟩
  · exact .inl (by simp)
  · exact .inr ⟨c, rest.take k, rfl, nonzero⟩

def fractionPart (fs : List Char) : List Char := if fs = [] then [] else '.' :: fs

def exponentPart : Option Int → List Char
  | none => []
  | some e => 'e' :: exponentChars e

/-- The text of a number: digits, a fraction and an exponent, one of the two at least. -/
structure Parts (s w fs : List Char) (e : Option Int) : Prop where
  chars : s = w ++ (fractionPart fs ++ exponentPart e)
  whole : WholeDigits w
  fraction : ∀ c ∈ fs, c.isDigit = true
  marked : fs ≠ [] ∨ e ≠ none

theorem exponentChars_eq (e : Int) : ∃ ds, exponentChars e = (if e < 0 then '-' else '+') :: ds ∧
    ds ≠ [] ∧ (∀ c ∈ ds, c.isDigit = true) ∧ asciiNumber ds = e.natAbs := by
  refine ⟨_, rfl, ?_⟩
  split
  · refine ⟨by simp, ?_, asciiNumber_toDigits e.natAbs⟩
    exact List.forall_mem_cons.2 ⟨rfl, fun c member => isDigit_toDigits member⟩
  · exact ⟨Nat.toDigits_ne_nil, fun c member => isDigit_toDigits member, asciiNumber_toDigits _⟩

theorem span_digits {ds rest : List Char} (digits : ∀ c ∈ ds, c.isDigit = true)
    (ends : ∀ c ∈ rest.head?, c.isDigit = false) :
    (ds ++ rest).takeWhile Char.isDigit = ds ∧ (ds ++ rest).dropWhile Char.isDigit = rest := by
  rw [List.takeWhile_append_of_pos digits, List.dropWhile_append_of_pos digits]
  cases rest with
  | nil => simp
  | cons c rest => simp [ends c rfl]

theorem head_exponentPart (e : Option Int) : ∀ c ∈ (exponentPart e).head?, c = 'e' := by
  cases e <;> simp [exponentPart]

theorem exponentOf_part (e : Option Int) : exponentOf (exponentPart e) = e.getD 0 := by
  cases e with
  | none => rfl
  | some e =>
    obtain ⟨ds, chars, -, -, value⟩ := exponentChars_eq e
    rw [exponentPart, chars]
    by_cases negative : e < 0
    · simp only [if_pos negative, exponentOf, value, Option.getD_some]
      rw [Int.ofNat_natAbs_of_nonpos (Int.le_of_lt negative), Int.neg_neg]
    · simp only [if_neg negative, exponentOf, value, Option.getD_some]
      exact Int.natAbs_of_nonneg (Int.not_lt.1 negative)

def signChars (negative : Bool) : List Char := if negative then ['-'] else []

/-- The number that a sign and the parts of a text spell. -/
theorem ofChars_of_parts (negative : Bool) {s w fs : List Char} {e : Option Int}
    (h : Parts s w fs e) : Spelled.ofChars (signChars negative ++ s) =
      ⟨negative, asciiNumber (w ++ fs), e.getD 0 - fs.length⟩ := by
  have ends : ∀ c ∈ (exponentPart e).head?, c.isDigit = false := by
    intro c first
    rw [head_exponentPart e c first]
    rfl
  have stop : ∀ c ∈ (fractionPart fs ++ exponentPart e).head?, c.isDigit = false := by
    unfold fractionPart
    split
    · exact ends
    · rintro c ⟨⟩
      rfl
  have digits := span_digits h.whole.digits stop
  have sign : ((signChars negative ++ s).head? == Option.some '-') = negative ∧
      (if negative then (signChars negative ++ s).drop 1 else signChars negative ++ s) = s := by
    cases negative with
    | true => exact ⟨rfl, rfl⟩
    | false =>
      obtain ⟨c, w', rfl⟩ := List.exists_cons_of_ne_nil h.whole.some
      have unsigned : c ≠ '-' := by
        rintro rfl
        exact absurd (h.whole.digits '-' List.mem_cons_self) (by decide)
      simp [signChars, h.chars, unsigned]
  unfold Spelled.ofChars
  simp only [sign.1, sign.2]
  rw [← exponentOf_part, h.chars, digits.1, digits.2]
  by_cases none : fs = []
  · subst none
    -- Without a fraction the mark of the exponent comes next, which is no point.
    cases e <;> simp [fractionPart, exponentPart]
  · have more := span_digits h.fraction ends
    simp only [fractionPart, if_neg none, List.cons_append, more.1, more.2]

theorem parts_pointed {w fs : List Char} (whole : WholeDigits w)
    (digits : ∀ c ∈ fs, c.isDigit = true) (some : fs ≠ []) : Parts (w ++ '.' :: fs) w fs none where
  chars := by rw [fractionPart, if_neg some, exponentPart, List.append_nil]
  whole := whole
  fraction := digits
  marked := .inl some

/-- One digit stands in front of the point. -/
theorem parts_scientific {ds : List Char} (whole : WholeDigits ds) (e : Int) :
    Parts (ds.take 1 ++ (if ds.length = 1 then [] else '.' :: ds.drop 1) ++ 'e' :: exponentChars e)
      (ds.take 1) (ds.drop 1) (some e) where
  chars := by
    have some := List.length_pos_iff.2 whole.some
    have fraction : fractionPart (ds.drop 1) = if ds.length = 1 then [] else '.' :: ds.drop 1 := by
      simp only [fractionPart, List.drop_eq_nil_iff]
      congr 1
      exact propext ⟨fun h => by omega, fun h => by omega⟩
    rw [fraction, exponentPart, List.append_assoc]
  whole := whole.take (by omega)
  fraction := fun c member => whole.digits c (List.mem_of_mem_drop member)
  marked := .inr (by simp)

/-- What a number is spelled by has its digits, behind the point those that its exponent counts. -/
theorem toChars_parts (x : Spelled) : ∃ w fs e, Parts x.toChars w fs e ∧
    (x.exponent < 0 → asciiNumber (w ++ fs) = x.digits ∧ e.getD 0 - fs.length = x.exponent) := by
  have whole := wholeDigits_toDigits x.digits
  have value := asciiNumber_toDigits x.digits
  have some := List.length_pos_iff.2 whole.some
  unfold Spelled.toChars
  generalize Nat.toDigits 10 x.digits = ds at *
  simp only
  -- The cases are the places at which the point may stand.
  split
  · refine ⟨_, _, _, parts_scientific whole _, fun _ => ⟨?_, ?_⟩⟩
    · rw [List.take_append_drop, value]
    · rw [Option.getD_some, List.length_drop]
      omega
  · split
    · refine ⟨_, _, _, parts_pointed (wholeDigits_toDigits _) (by simp) (by simp), fun negative => ?_⟩
      omega
    · split
      · refine ⟨_, _, _, parts_pointed (whole.take (by omega)) ?_ ?_, fun _ => ⟨?_, ?_⟩⟩
        · exact fun c member => whole.digits c (List.mem_of_mem_drop member)
        · rw [ne_eq, List.drop_eq_nil_iff]
          omega
        · rw [List.take_append_drop, value]
        · rw [Option.getD_none, List.length_drop]
          omega
      · refine ⟨['0'], _, _, parts_pointed ⟨by simp, .inl rfl⟩ ?_ ?_, fun _ => ⟨?_, ?_⟩⟩
        · intro c member
          rcases List.mem_append.1 member with zero | digit
          · rw [List.eq_of_mem_replicate zero]
            rfl
          · exact whole.digits c digit
        · simp [whole.some]
        · rw [← value]
          exact asciiNumber_zeros _ ds
        · rw [Option.getD_none, List.length_append, List.length_replicate]
          omega

/-- A decimal with digits behind the point reads as it was spelled. -/
theorem ofChars_toChars {x : Spelled} (positive : x.negative = false) (behind : x.exponent < 0) :
    Spelled.ofChars x.toChars = x := by
  obtain ⟨w, fs, e, parts, value⟩ := toChars_parts x
  obtain ⟨digits, exponent⟩ := value behind
  calc Spelled.ofChars x.toChars = ⟨false, asciiNumber (w ++ fs), e.getD 0 - fs.length⟩ :=
        ofChars_of_parts false parts
    _ = x := by rw [digits, exponent, ← positive]

namespace Double

theorem ofMagnitude_ofPlace (negative : Bool) (place : Fin magnitudes) :
    ofMagnitude negative (Option.some (Binary64.ofPlace place)) = finite negative place := by
  simp only [ofMagnitude, place_ofPlace, place.isLt, dif_pos]

theorem ofChars_exactly {place : Fin magnitudes} (positive : place.val ≠ 0) :
    ofChars (Binary64.ofPlace place).exactly.toChars = finite false place := by
  have shape (x : Binary64) : x.exactly.negative = false ∧ x.exactly.exponent < 0 := by
    unfold Binary64.exactly
    split
    · exact ⟨rfl, Int.negSucc_lt_zero 0⟩
    · rename_i below
      exact ⟨rfl, Int.not_le.1 below⟩
  obtain ⟨sign, behind⟩ := shape (Binary64.ofPlace place)
  rw [ofChars, ofChars_toChars sign behind, ofSpelled, sign,
    nearest_exactly (normal_ofPlace place.isLt) (mantissa_ofPlace positive), ofMagnitude_ofPlace]

/-- By induction on the exponents that are left to try. -/
theorem ofChars_shortestFrom {place : Fin magnitudes} (positive : place.val ≠ 0) (n : Nat) :
    ofChars (shortestFrom place n).toChars = finite false place := by
  induction n with
  | zero => exact ofChars_exactly positive
  | succ n ih =>
    simp only [shortestFrom]
    cases tried : ((Binary64.ofPlace place).neighbours (n + 1 - 1074)).find? fun x =>
        ofChars x.toChars = finite false place with
    | none => exact ih
    | some x =>
      have found := List.find?_some tried
      exact of_decide_eq_true found

theorem ofChars_magnitudeChars (place : Fin magnitudes) :
    ofChars (magnitudeChars place) = finite false place := by
  unfold magnitudeChars
  split
  · rename_i zero
    obtain rfl : place = ⟨0, by decide⟩ := Fin.ext zero
    rfl
  · rename_i positive
    exact ofChars_shortestFrom positive _

theorem magnitudeChars_parts (place : Fin magnitudes) :
    ∃ w fs e, Parts (magnitudeChars place) w fs e := by
  unfold magnitudeChars
  split
  · exact ⟨['0'], ['0'], none, rfl, ⟨by simp, .inl rfl⟩, by simp, .inl (by simp)⟩
  · obtain ⟨w, fs, e, parts, -⟩ := toChars_parts (shortest place)
    exact ⟨w, fs, e, parts⟩

theorem ofMagnitude_eq_finite {m : Option Binary64} {place : Fin magnitudes}
    (h : ofMagnitude false m = finite false place) (negative : Bool) :
    ofMagnitude negative m = finite negative place := by
  unfold ofMagnitude at h ⊢
  split at h
  · cases h
  · split at h
    · rename_i fits
      cases h
      exact dif_pos fits
    · cases h

/-- A finite number is taken for itself when its text is read. -/
theorem ofChars_text (negative : Bool) (place : Fin magnitudes) :
    ofChars (signChars negative ++ magnitudeChars place) = finite negative place := by
  obtain ⟨w, fs, e, parts⟩ := magnitudeChars_parts place
  have read := ofChars_magnitudeChars place
  have spelled := ofChars_of_parts false parts
  rw [signChars, if_neg Bool.false_ne_true, List.nil_append] at spelled
  rw [ofChars, ofSpelled, spelled] at read
  rw [ofChars, ofSpelled, ofChars_of_parts negative parts]
  exact ofMagnitude_eq_finite read negative

end Double

end StoredRoutines.Number
