import Mathlib.Data.List.TakeWhile
import StoredRoutines.Json.Reader
import StoredRoutines.Json.Writer
import StoredRoutines.Proofs.Doubles

/-!
Numbers and words read back. What the reader takes for a number when it stands alone, it takes for
the same number when something follows that cannot belong to it; a whole number is spelled by its
digits, and any other finite number by the text that it is shown by.
-/

namespace StoredRoutines

open Number Text

namespace Json

def NoDigit (s : List Char) : Prop := ∀ c rest, s = c :: rest → c.isDigit = false

/-- Nothing comes next that could belong to a number. -/
def EndsNumber (s : List Char) : Prop :=
  ∀ c rest, s = c :: rest → c.isDigit = false ∧ c ≠ '.' ∧ c ≠ 'e' ∧ c ≠ 'E'

theorem EndsNumber.noDigit {s : List Char} (h : EndsNumber s) : NoDigit s :=
  fun c rest same => (h c rest same).1

theorem NoDigit.append {s : List Char} (h : NoDigit s) {rest : List Char} (ends : NoDigit rest) :
    NoDigit (s ++ rest) := by
  intro c more same
  cases s with
  | nil => exact ends c more same
  | cons d s =>
    obtain ⟨rfl, -⟩ := List.cons.inj same
    exact h d s rfl

theorem someDigits?_eq_some {s ds r : List Char} :
    someDigits? s = some (ds, r) ↔
      s = ds ++ r ∧ ds ≠ [] ∧ (∀ c ∈ ds, c.isDigit = true) ∧ NoDigit r := by
  have stop : NoDigit (s.dropWhile Char.isDigit) := by
    intro c rest same
    have head := List.head?_dropWhile_not Char.isDigit s
    rw [same] at head
    simpa using head
  simp only [someDigits?]
  constructor
  · intro h
    split at h
    · cases h
    · rename_i some
      cases h
      refine ⟨(List.takeWhile_append_dropWhile).symm, ?_, ?_, stop⟩
      · simpa using some
      · intro c member
        exact List.mem_takeWhile_imp member
  · rintro ⟨rfl, some, digits, ends⟩
    have none : r.takeWhile Char.isDigit = [] ∧ r.dropWhile Char.isDigit = r := by
      cases r with
      | nil => exact ⟨rfl, rfl⟩
      | cons c r => simp [ends c r rfl]
    rw [List.takeWhile_append_of_pos digits, List.dropWhile_append_of_pos digits, none.1, none.2]
    simp [some]

theorem someDigits?_append {s ds r rest : List Char} (h : someDigits? s = some (ds, r))
    (ends : NoDigit rest) : someDigits? (s ++ rest) = some (ds, r ++ rest) := by
  obtain ⟨rfl, some, digits, stop⟩ := someDigits?_eq_some.1 h
  exact someDigits?_eq_some.2 ⟨List.append_assoc _ _ _, some, digits, stop.append ends⟩

theorem someDigits?_of_noDigit {s : List Char} (h : NoDigit s) : someDigits? s = none := by
  cases s with
  | nil => rfl
  | cons c s => simp [someDigits?, h c s rfl]

theorem noDigit_of_someDigits? {s : List Char} (h : someDigits? s = none) : NoDigit s := by
  rintro c rest rfl
  simpa [someDigits?, List.takeWhile_cons] using h

theorem wholeDigits?_eq_some {s ds r : List Char} : wholeDigits? s = some (ds, r) ↔
    s = ds ++ r ∧ (ds = ['0'] ∨ ds.head? ≠ some '0' ∧ someDigits? (ds ++ r) = some (ds, r)) := by
  constructor
  · intro h
    unfold wholeDigits? at h
    split at h
    · cases h
      exact ⟨rfl, .inl rfl⟩
    · rename_i other
      obtain ⟨rfl, some, -, -⟩ := someDigits?_eq_some.1 h
      obtain ⟨d, more, rfl⟩ := List.exists_cons_of_ne_nil some
      refine ⟨rfl, .inr ⟨?_, h⟩⟩
      rintro same
      obtain rfl : d = '0' := by simpa using same
      exact other (more ++ r) rfl
  · rintro ⟨rfl, rfl | ⟨other, digits⟩⟩
    · rfl
    · unfold wholeDigits?
      split
      · rename_i same
        obtain ⟨-, some, -, -⟩ := someDigits?_eq_some.1 digits
        obtain ⟨d, more, rfl⟩ := List.exists_cons_of_ne_nil some
        exact absurd (congrArg Option.some (List.cons.inj same).1) other
      · exact digits

theorem wholeDigits?_append {s ds r rest : List Char} (h : wholeDigits? s = some (ds, r))
    (ends : NoDigit rest) : wholeDigits? (s ++ rest) = some (ds, r ++ rest) := by
  obtain ⟨rfl, shape⟩ := wholeDigits?_eq_some.1 h
  refine wholeDigits?_eq_some.2 ⟨List.append_assoc _ _ _, shape.imp_right ?_⟩
  rintro ⟨other, digits⟩
  exact ⟨other, List.append_assoc ds r rest ▸ someDigits?_append digits ends⟩

theorem fraction?_eq_some {s f r : List Char} : fraction? s = some (f, r) ↔
    ∃ ds, f = '.' :: ds ∧ s = f ++ r ∧ someDigits? (ds ++ r) = some (ds, r) := by
  constructor
  · intro h
    unfold fraction? at h
    split at h
    · obtain ⟨⟨ds, r'⟩, digits, same⟩ := Option.map_eq_some_iff.1 h
      cases same
      obtain ⟨rfl, -, -, -⟩ := someDigits?_eq_some.1 digits
      exact ⟨ds, rfl, rfl, digits⟩
    · cases h
  · rintro ⟨ds, rfl, rfl, digits⟩
    simp only [List.cons_append, fraction?, digits, Option.map_some]

theorem fraction?_append {s f r rest : List Char} (h : fraction? s = some (f, r))
    (ends : NoDigit rest) : fraction? (s ++ rest) = some (f, r ++ rest) := by
  obtain ⟨ds, rfl, rfl, digits⟩ := fraction?_eq_some.1 h
  refine fraction?_eq_some.2 ⟨ds, rfl, List.append_assoc _ _ _, ?_⟩
  exact List.append_assoc ds r rest ▸ someDigits?_append digits ends

/-- The mark of an exponent, its sign if it has one, and digits. -/
theorem exponent?_eq_some {s x r : List Char} : exponent? s = some (x, r) ↔
    ∃ e sign ds, (e = 'e' ∨ e = 'E') ∧ (sign = [] ∨ sign = ['-'] ∨ sign = ['+']) ∧
      x = e :: (sign ++ ds) ∧ s = x ++ r ∧ someDigits? (ds ++ r) = some (ds, r) := by
  constructor
  · intro h
    cases s with
    | nil => cases h
    | cons e s =>
      simp only [exponent?] at h
      split at h
      · rename_i mark
        split at h
        all_goals
          obtain ⟨⟨ds, r'⟩, digits, same⟩ := Option.map_eq_some_iff.1 h
          cases same
          obtain ⟨rfl, -, -, -⟩ := someDigits?_eq_some.1 digits
        · exact ⟨e, ['-'], ds, mark, .inr (.inl rfl), rfl, rfl, digits⟩
        · exact ⟨e, ['+'], ds, mark, .inr (.inr rfl), rfl, rfl, digits⟩
        · exact ⟨e, [], ds, mark, .inl rfl, rfl, rfl, digits⟩
      · cases h
  · rintro ⟨e, sign, ds, mark, signed, rfl, rfl, digits⟩
    simp only [List.cons_append, exponent?, if_pos mark]
    rcases signed with rfl | rfl | rfl
    · -- Without a sign the first digit must not be taken for one.
      obtain ⟨-, some, all, -⟩ := someDigits?_eq_some.1 digits
      obtain ⟨d, more, rfl⟩ := List.exists_cons_of_ne_nil some
      have digit : d.isDigit = true := all d (by simp)
      split
      · rename_i same
        obtain rfl : d = '-' := (List.cons.inj same).1
        cases digit
      · rename_i same
        obtain rfl : d = '+' := (List.cons.inj same).1
        cases digit
      · rw [List.nil_append, digits]
        rfl
    · simp only [List.cons_append, List.nil_append, digits, Option.map_some]
    · simp only [List.cons_append, List.nil_append, digits, Option.map_some]

theorem exponent?_append {s x r rest : List Char} (h : exponent? s = some (x, r))
    (ends : NoDigit rest) : exponent? (s ++ rest) = some (x, r ++ rest) := by
  obtain ⟨e, sign, ds, mark, signed, rfl, rfl, digits⟩ := exponent?_eq_some.1 h
  refine exponent?_eq_some.2 ⟨e, sign, ds, mark, signed, rfl, List.append_assoc _ _ _, ?_⟩
  exact List.append_assoc ds r rest ▸ someDigits?_append digits ends

def unsigned? (sign body : List Char) : Option (Value × List Char) :=
  match wholeDigits? body with
  | none => none
  | some (ds, rest) =>
    let (fraction, afterFraction) := (fraction? rest).getD ([], rest)
    let (exponent, rest) := (exponent? afterFraction).getD ([], afterFraction)
    if fraction.isEmpty && exponent.isEmpty then
      (natural? ds).map fun n => (.int (if sign.isEmpty then (n : Int) else -(n : Int)), rest)
    else some (.real (.ofChars (sign ++ ds ++ fraction ++ exponent)), rest)

theorem number?_negative (body : List Char) : number? ('-' :: body) = unsigned? ['-'] body := rfl

theorem number?_of_no_sign {s : List Char} (h : ∀ rest, s ≠ '-' :: rest) :
    number? s = unsigned? [] s := by
  unfold number?
  split
  rename_i sign body same
  split at same
  · exact absurd rfl (h _)
  · cases same
    rfl

/-- The value of a number with these parts. It is a whole number if it has neither a fraction nor
an exponent. -/
def valueOf (sign ds f x : List Char) : Option Value :=
  if f.isEmpty && x.isEmpty then
    (natural? ds).map fun n => .int (if sign.isEmpty then (n : Int) else -(n : Int))
  else some (.real (.ofChars (sign ++ ds ++ f ++ x)))

theorem unsigned?_eq_some_iff {sign body r : List Char} {v : Value} :
    unsigned? sign body = some (v, r) ↔ ∃ ds s f t x, wholeDigits? body = some (ds, s) ∧
      (fraction? s).getD ([], s) = (f, t) ∧ (exponent? t).getD ([], t) = (x, r) ∧
      valueOf sign ds f x = some v := by
  unfold unsigned? valueOf
  constructor
  · intro h
    split at h
    · cases h
    · rename_i ds s whole
      simp only at h
      split at h
      · rename_i plain
        obtain ⟨n, number, same⟩ := Option.map_eq_some_iff.1 h
        cases same
        exact ⟨ds, s, _, _, _, whole, rfl, rfl,
          (if_pos plain).trans (by rw [number, Option.map_some])⟩
      · rename_i marked
        cases h
        exact ⟨ds, s, _, _, _, whole, rfl, rfl, if_neg marked⟩
  · rintro ⟨ds, s, f, t, x, whole, fraction, exponent, value⟩
    simp only [whole, fraction, exponent]
    split at value
    · rename_i plain
      obtain ⟨n, number, rfl⟩ := Option.map_eq_some_iff.1 value
      rw [if_pos plain, number, Option.map_some]
    · rename_i marked
      cases value
      exact if_neg marked

theorem fraction?_of_ends {s : List Char} (ends : EndsNumber s) : fraction? s = none := by
  unfold fraction?
  split
  · exact absurd rfl (ends _ _ rfl).2.1
  · rfl

theorem exponent?_of_ends {s : List Char} (ends : EndsNumber s) : exponent? s = none := by
  cases s with
  | nil => rfl
  | cons c s =>
    obtain ⟨-, -, lower, upper⟩ := ends c s rfl
    simp [exponent?, lower, upper]

theorem fraction?_append_of_none {s rest : List Char} (none : fraction? s = none)
    (ends : EndsNumber rest) : fraction? (s ++ rest) = .none := by
  cases s with
  | nil => exact fraction?_of_ends ends
  | cons c s =>
    by_cases point : c = '.'
    · subst point
      simp only [fraction?, Option.map_eq_none_iff] at none
      have stop := (noDigit_of_someDigits? none).append ends.noDigit
      simp only [List.cons_append, fraction?, someDigits?_of_noDigit stop, Option.map_none]
    · unfold fraction?
      split
      · rename_i same
        exact absurd (List.cons.inj same).1 point
      · rfl

theorem fraction_append {s f t rest : List Char} (h : (fraction? s).getD ([], s) = (f, t))
    (ends : EndsNumber rest) :
    (fraction? (s ++ rest)).getD ([], s ++ rest) = (f, t ++ rest) := by
  cases found : fraction? s with
  | none =>
    rw [found] at h
    cases h
    rw [fraction?_append_of_none found ends]
    rfl
  | some r =>
    rw [found] at h
    obtain rfl : r = (f, t) := h
    rw [fraction?_append found ends.noDigit]
    rfl

theorem exponent_append {t x rest : List Char} (h : (exponent? t).getD ([], t) = (x, []))
    (ends : EndsNumber rest) : (exponent? (t ++ rest)).getD ([], t ++ rest) = (x, rest) := by
  cases found : exponent? t with
  | none =>
    rw [found] at h
    cases h
    rw [List.nil_append, exponent?_of_ends ends]
    rfl
  | some r =>
    rw [found] at h
    obtain rfl : r = (x, []) := h
    rw [exponent?_append found ends.noDigit]
    rfl

theorem unsigned?_append {sign body rest : List Char} {v : Value}
    (h : unsigned? sign body = some (v, [])) (ends : EndsNumber rest) :
    unsigned? sign (body ++ rest) = some (v, rest) := by
  obtain ⟨ds, s, f, t, x, whole, fraction, exponent, value⟩ := unsigned?_eq_some_iff.1 h
  exact unsigned?_eq_some_iff.2 ⟨ds, s ++ rest, f, t ++ rest, x,
    wholeDigits?_append whole ends.noDigit, fraction_append fraction ends,
    exponent_append exponent ends, value⟩

theorem number?_append {s rest : List Char} {v : Value} (h : number? s = some (v, []))
    (ends : EndsNumber rest) : number? (s ++ rest) = some (v, rest) := by
  by_cases negative : ∃ body, s = '-' :: body
  · obtain ⟨body, rfl⟩ := negative
    exact unsigned?_append h ends
  · have sign : ∀ body, s ≠ '-' :: body := fun body same => negative ⟨body, same⟩
    rw [number?_of_no_sign sign] at h
    have sign' : ∀ body, s ++ rest ≠ '-' :: body := by
      intro body same
      cases s with
      | nil => cases h
      | cons c s => exact sign s (by rw [(List.cons.inj same).1])
    rw [number?_of_no_sign sign']
    exact unsigned?_append h ends

theorem head_of_number? {s : List Char} {r : Value × List Char} (h : number? s = some r) :
    ∃ c rest, c.isDigit = true ∧ (s = c :: rest ∨ s = '-' :: c :: rest) := by
  have whole {sign body : List Char} (h : unsigned? sign body = some (r.1, r.2)) :
      ∃ c rest, c.isDigit = true ∧ body = c :: rest := by
    obtain ⟨ds, s, _, _, _, digits, -⟩ := unsigned?_eq_some_iff.1 h
    obtain ⟨rfl, rfl | ⟨-, digits⟩⟩ := wholeDigits?_eq_some.1 digits
    · exact ⟨'0', s, by decide, rfl⟩
    · obtain ⟨-, some, all, -⟩ := someDigits?_eq_some.1 digits
      obtain ⟨d, more, rfl⟩ := List.exists_cons_of_ne_nil some
      exact ⟨d, more ++ s, all d (by simp), rfl⟩
  by_cases negative : ∃ body, s = '-' :: body
  · obtain ⟨body, rfl⟩ := negative
    obtain ⟨c, rest, digit, rfl⟩ := whole h
    exact ⟨c, rest, digit, .inr rfl⟩
  · rw [number?_of_no_sign fun body same => negative ⟨body, same⟩] at h
    obtain ⟨c, rest, digit, rfl⟩ := whole h
    exact ⟨c, rest, digit, .inl rfl⟩

/-- No control character is part of a number: what is read of a text and what is left make it up. -/
def Passes (s r : List Char) : Prop := ∃ front, s = front ++ r ∧ ∀ c ∈ front, 32 ≤ c.toNat

theorem Passes.trans {s r t : List Char} (first : Passes s r) (second : Passes r t) :
    Passes s t := by
  obtain ⟨front, rfl, visible⟩ := first
  obtain ⟨more, rfl, visible'⟩ := second
  refine ⟨front ++ more, (List.append_assoc _ _ _).symm, ?_⟩
  intro c member
  rcases List.mem_append.1 member with left | right
  · exact visible c left
  · exact visible' c right

theorem passes_refl (s : List Char) : Passes s s := ⟨[], rfl, by simp⟩

theorem passes_cons {c : Char} {s r : List Char} (visible : 32 ≤ c.toNat) (h : Passes s r) :
    Passes (c :: s) r := by
  refine Passes.trans ⟨[c], rfl, ?_⟩ h
  simpa using visible

theorem passes_someDigits? {s ds r : List Char} (h : someDigits? s = some (ds, r)) :
    Passes s r := by
  obtain ⟨same, -, digits, -⟩ := someDigits?_eq_some.1 h
  refine ⟨ds, same, fun c member => ?_⟩
  have range : 48 ≤ c.toNat ∧ c.toNat ≤ 57 := by
    simpa [Char.isDigit, UInt32.le_iff_toNat_le] using digits c member
  omega

theorem passes_wholeDigits? {s ds r : List Char} (h : wholeDigits? s = some (ds, r)) :
    Passes s r := by
  obtain ⟨rfl, rfl | ⟨-, digits⟩⟩ := wholeDigits?_eq_some.1 h
  · exact passes_cons (by decide) (passes_refl r)
  · exact passes_someDigits? digits

theorem passes_fraction? {s f r : List Char} (h : fraction? s = some (f, r)) : Passes s r := by
  obtain ⟨ds, rfl, rfl, digits⟩ := fraction?_eq_some.1 h
  exact passes_cons (by decide) (passes_someDigits? digits)

theorem passes_exponent? {s x r : List Char} (h : exponent? s = some (x, r)) : Passes s r := by
  obtain ⟨e, sign, ds, mark, signed, rfl, rfl, digits⟩ := exponent?_eq_some.1 h
  have visible : 32 ≤ e.toNat := by rcases mark with rfl | rfl <;> decide
  refine passes_cons visible ?_
  rcases signed with rfl | rfl | rfl
  · exact passes_someDigits? digits
  · exact passes_cons (by decide) (passes_someDigits? digits)
  · exact passes_cons (by decide) (passes_someDigits? digits)

theorem passes_unsigned? {sign body r : List Char} {v : Value}
    (h : unsigned? sign body = some (v, r)) : Passes body r := by
  obtain ⟨ds, s, f, t, x, whole, fraction, exponent, -⟩ := unsigned?_eq_some_iff.1 h
  have fractions : Passes s t := by
    cases found : fraction? s with
    | none =>
      rw [found] at fraction
      cases fraction
      exact passes_refl s
    | some r =>
      rw [found] at fraction
      exact passes_fraction? (found.trans (congrArg some fraction))
  have exponents : Passes t r := by
    cases found : exponent? t with
    | none =>
      rw [found] at exponent
      cases exponent
      exact passes_refl _
    | some r =>
      rw [found] at exponent
      exact passes_exponent? (found.trans (congrArg some exponent))
  exact (passes_wholeDigits? whole).trans (fractions.trans exponents)

theorem passes_number? {s r : List Char} {v : Value} (h : number? s = some (v, r)) :
    Passes s r := by
  by_cases negative : ∃ body, s = '-' :: body
  · obtain ⟨body, rfl⟩ := negative
    exact passes_cons (by decide) (passes_unsigned? h)
  · rw [number?_of_no_sign fun body same => negative ⟨body, same⟩] at h
    exact passes_unsigned? h

theorem digitValue?_of_isDigit {c : Char} (digit : c.isDigit = true) :
    digitValue? c = some (c.toNat - 48) := by
  have range : 48 ≤ c.toNat ∧ c.toNat ≤ 57 := by
    simpa [Char.isDigit, UInt32.le_iff_toNat_le] using digit
  obtain ⟨others, first⟩ : ∃ others, Table.zeros = 48 :: others := ⟨_, rfl⟩
  have above : c.toNat < 48 + 10 := by omega
  simp [digitValue?, first, range.1, above]

theorem digits?_of_isDigit {ds : List Char} (digits : ∀ c ∈ ds, c.isDigit = true) :
    digits? true ds = some (ds.map fun c => c.toNat - 48) := by
  induction ds with
  | nil => rfl
  | cons c ds ih =>
    have digit := digits c (by simp)
    have score : c ≠ '_' := by
      rintro rfl
      cases digit
    have tail := ih (fun d member => digits d (List.mem_cons_of_mem _ member))
    simp only [digits?, if_neg score, digitValue?_of_isDigit digit, tail, Option.map_some,
      List.map_cons]

theorem natural?_toDigits {n : Nat} (short : (Nat.toDigits 10 n).length ≤ maxDigits) :
    natural? (Nat.toDigits 10 n) = some n := by
  have digits : ∀ c ∈ Nat.toDigits 10 n, c.isDigit = true :=
    fun c member => Nat.isDigit_of_mem_toDigits (by omega) (by omega) member
  have started : digits? false (Nat.toDigits 10 n) = digits? true (Nat.toDigits 10 n) := by
    cases split : Nat.toDigits 10 n with
    | nil => exact absurd split Nat.toDigits_ne_nil
    | cons c ds =>
      have score : c ≠ '_' := by
        rintro rfl
        have digit := digits '_' (by rw [split]; simp)
        cases digit
      simp only [digits?, if_neg score]
  have value : ofDigits ((Nat.toDigits 10 n).map fun c => c.toNat - 48) = n := by
    rw [ofDigits, List.foldl_map]
    exact Nat.ofDigitChars_ten_toDigits
  rw [natural?, started, digits?_of_isDigit digits]
  simp only [List.length_map, if_pos short, value]

theorem wholeDigits?_toDigits (n : Nat) :
    wholeDigits? (Nat.toDigits 10 n) = some (Nat.toDigits 10 n, []) := by
  cases n with
  | zero => rfl
  | succ n =>
    obtain ⟨c, ds, split, zero⟩ := head_toDigits (Nat.succ_pos n)
    have digits : someDigits? (Nat.toDigits 10 (n + 1)) = some (Nat.toDigits 10 (n + 1), []) := by
      refine someDigits?_eq_some.2 ⟨(List.append_nil _).symm, Nat.toDigits_ne_nil, ?_, ?_⟩
      · exact fun c member => Nat.isDigit_of_mem_toDigits (by omega) (by omega) member
      · rintro c rest ⟨⟩
    rw [split] at digits ⊢
    unfold wholeDigits?
    split
    · rename_i same
      exact absurd (List.cons.inj same).1 zero
    · exact digits

theorem unsigned?_toDigits {n : Nat} (short : (Nat.toDigits 10 n).length ≤ maxDigits)
    (sign : List Char) : unsigned? sign (Nat.toDigits 10 n) =
      some (.int (if sign.isEmpty then (n : Int) else -(n : Int)), []) := by
  rw [unsigned?, wholeDigits?_toDigits]
  simp [fraction?, exponent?, natural?_toDigits short]

theorem number?_int {n : Int} (short : (Nat.toDigits 10 n.natAbs).length ≤ maxDigits) :
    number? (toString n).toList = some (.int n, []) := by
  cases n with
  | ofNat n =>
    have short' : (Nat.toDigits 10 n).length ≤ maxDigits := short
    have spelled : (toString (Int.ofNat n)).toList = Nat.toDigits 10 n := Nat.toList_repr
    rw [spelled, number?_of_no_sign]
    · exact unsigned?_toDigits short' []
    · intro rest same
      have member : '-' ∈ Nat.toDigits 10 n := by simp [same]
      have digit := Nat.isDigit_of_mem_toDigits (by omega) (by omega) member
      cases digit
  | negSucc n =>
    have short' : (Nat.toDigits 10 (n + 1)).length ≤ maxDigits := short
    have spelled : (toString (Int.negSucc n)).toList = '-' :: Nat.toDigits 10 (n + 1) := by
      have repr : toString (Int.negSucc n) = "-" ++ (n + 1).repr := rfl
      rw [repr, String.toList_append, Nat.toList_repr]
      rfl
    rw [spelled, number?_negative]
    exact unsigned?_toDigits short' ['-']

theorem noDigit_exponentPart (e : Option Int) : NoDigit (exponentPart e) := by
  intro c rest same
  rw [head_exponentPart e c (by rw [same]; rfl)]
  rfl

theorem fraction?_exponentPart (e : Option Int) : fraction? (exponentPart e) = none := by
  cases e <;> rfl

theorem fraction_part {fs : List Char} (digits : ∀ c ∈ fs, c.isDigit = true) (e : Option Int) :
    (fraction? (fractionPart fs ++ exponentPart e)).getD ([], fractionPart fs ++ exponentPart e) =
      (fractionPart fs, exponentPart e) := by
  unfold fractionPart
  split
  · rw [List.nil_append, fraction?_exponentPart]
    rfl
  · rename_i some
    have read : fraction? ('.' :: fs ++ exponentPart e) = .some ('.' :: fs, exponentPart e) :=
      fraction?_eq_some.2 ⟨fs, rfl, rfl,
        someDigits?_eq_some.2 ⟨rfl, some, digits, noDigit_exponentPart e⟩⟩
    rw [read]
    rfl

theorem exponent_part (e : Option Int) :
    (exponent? (exponentPart e)).getD ([], exponentPart e) = (exponentPart e, []) := by
  cases e with
  | none => rfl
  | some e =>
    obtain ⟨ds, chars, some, digits, -⟩ := exponentChars_eq e
    have more : someDigits? (ds ++ []) = .some (ds, []) :=
      someDigits?_eq_some.2 ⟨rfl, some, digits, fun c rest same => by cases same⟩
    have read : exponent? (exponentPart (.some e)) = .some (exponentPart (.some e), []) := by
      refine exponent?_eq_some.2 ⟨'e', [if e < 0 then '-' else '+'], ds, .inl rfl, ?_, ?_, ?_, more⟩
      · split
        · exact .inr (.inl rfl)
        · exact .inr (.inr rfl)
      · rw [exponentPart, chars, List.singleton_append]
      · rw [List.append_nil]
    rw [read]
    rfl

/-- A number in digits with a fraction or an exponent is read as the number nearest to it. -/
theorem unsigned?_of_parts {s w fs : List Char} {e : Option Int} (h : Parts s w fs e)
    (sign : List Char) : unsigned? sign s = some (.real (.ofChars (sign ++ s)), []) := by
  have ends : NoDigit (fractionPart fs ++ exponentPart e) := by
    unfold fractionPart
    split
    · exact noDigit_exponentPart e
    · rintro c rest ⟨⟩
      rfl
  have whole : wholeDigits? s = some (w, fractionPart fs ++ exponentPart e) := by
    refine wholeDigits?_eq_some.2 ⟨h.chars, h.whole.leading.imp_right ?_⟩
    rintro ⟨c, rest, same, nonzero⟩
    refine ⟨by rw [same]; simpa using nonzero, ?_⟩
    exact someDigits?_eq_some.2 ⟨rfl, h.whole.some, h.whole.digits, ends⟩
  have marked : ((fractionPart fs).isEmpty && (exponentPart e).isEmpty) = false := by
    rcases h.marked with some | some
    · simp [fractionPart, some]
    · obtain ⟨n, rfl⟩ := Option.ne_none_iff_exists'.1 some
      simp [exponentPart]
  refine unsigned?_eq_some_iff.2 ⟨w, _, _, _, _, whole, fraction_part h.fraction e,
    exponent_part e, ?_⟩
  rw [valueOf, marked, h.chars]
  simp

theorem number?_finite (negative : Bool) (place : Fin magnitudes) :
    number? (signChars negative ++ Double.magnitudeChars place) =
      some (.real (.finite negative place), []) := by
  obtain ⟨w, fs, e, parts⟩ := Double.magnitudeChars_parts place
  have read := unsigned?_of_parts parts (signChars negative)
  rw [Double.ofChars_text] at read
  cases negative with
  | true => exact read
  | false =>
    rw [signChars, if_neg Bool.false_ne_true, List.nil_append, number?_of_no_sign]
    · exact read
    · intro rest same
      obtain ⟨c, more, first⟩ := List.exists_cons_of_ne_nil parts.whole.some
      obtain rfl : c = '-' := by
        rw [parts.chars, first] at same
        exact (List.cons.inj same).1
      exact absurd (parts.whole.digits '-' (by rw [first]; simp)) (by decide)

theorem wordValue?_of_digit {c : Char} (digit : c.isDigit = true) (rest : List Char) :
    wordValue? (c :: rest) = none ∧ wordValue? ('-' :: c :: rest) = none := by
  have letters : c ≠ 'n' ∧ c ≠ 't' ∧ c ≠ 'f' ∧ c ≠ 'N' ∧ c ≠ 'I' ∧ c ≠ '-' := by
    refine ⟨?_, ?_, ?_, ?_, ?_, ?_⟩ <;> (rintro rfl; cases digit)
  obtain ⟨n, t, f, N, I, minus⟩ := letters
  constructor
  · simp [wordValue?, wordValues, dropPrefix?, n.symm, t.symm, f.symm, N.symm, I.symm, minus.symm]
  · simp [wordValue?, wordValues, dropPrefix?, I.symm]

/-- A number is no word. -/
theorem wordOrNumber_of_number? {s : List Char} {r : Value × List Char} (h : number? s = some r) :
    (wordValue? s).or (number? s) = some r := by
  obtain ⟨c, rest, digit, rfl | rfl⟩ := head_of_number? h
  · rw [(wordValue?_of_digit digit rest).1, Option.none_or, h]
  · rw [(wordValue?_of_digit digit rest).2, Option.none_or, h]

theorem mem_of_wordValue? {s r : List Char} {v : Value} (h : wordValue? s = some (v, r)) :
    ∃ w, (w, v) ∈ wordValues ∧ s = w ++ r := by
  obtain ⟨⟨w, x⟩, member, found⟩ := List.exists_of_findSome?_eq_some h
  obtain ⟨r', dropped, same⟩ := Option.map_eq_some_iff.1 found
  cases same
  exact ⟨w, member, dropPrefix?_eq_some_iff.1 dropped⟩

theorem wordValue?_append {s rest r : List Char} {v : Value} (h : wordValue? s = some (v, r)) :
    wordValue? (s ++ rest) = some (v, r ++ rest) := by
  obtain ⟨w, member, rfl⟩ := mem_of_wordValue? h
  simp only [wordValues, List.mem_cons, Prod.mk.injEq, List.not_mem_nil, or_false] at member
  rcases member with ⟨rfl, rfl⟩ | ⟨rfl, rfl⟩ | ⟨rfl, rfl⟩ | ⟨rfl, rfl⟩ | ⟨rfl, rfl⟩ | ⟨rfl, rfl⟩ <;> rfl

/-- A word or a number that stands alone is read as itself in front of anything that ends it. -/
theorem wordOrNumber_append {s rest : List Char} {v : Value}
    (h : (wordValue? s).or (number? s) = some (v, [])) (ends : EndsNumber rest) :
    (wordValue? (s ++ rest)).or (number? (s ++ rest)) = some (v, rest) := by
  cases word : wordValue? s with
  | some r =>
    rw [word] at h
    cases h
    rw [wordValue?_append word]
    rfl
  | none =>
    rw [word, Option.none_or] at h
    obtain ⟨c, t, digit, head⟩ := head_of_number? h
    have none : wordValue? (s ++ rest) = none := by
      rcases head with rfl | rfl
      · exact (wordValue?_of_digit digit _).1
      · exact (wordValue?_of_digit digit _).2
    rw [none, Option.none_or]
    exact number?_append h ends

theorem head_of_wordOrNumber {s : List Char} {r : Value × List Char}
    (h : (wordValue? s).or (number? s) = some r) :
    ∃ c rest, s = c :: rest ∧ c ≠ '"' ∧ c ≠ '[' ∧ c ≠ '\x7b' ∧ c ≠ ']' ∧ isJsonBlank c = false := by
  cases word : wordValue? s with
  | some r' =>
    obtain ⟨v, r''⟩ := r'
    obtain ⟨w, member, rfl⟩ := mem_of_wordValue? word
    simp only [wordValues, List.mem_cons, Prod.mk.injEq, List.not_mem_nil, or_false] at member
    rcases member with ⟨rfl, rfl⟩ | ⟨rfl, rfl⟩ | ⟨rfl, rfl⟩ | ⟨rfl, rfl⟩ | ⟨rfl, rfl⟩ | ⟨rfl, rfl⟩
    all_goals exact ⟨_, _, rfl, by decide, by decide, by decide, by decide, by decide⟩
  | none =>
    rw [word, Option.none_or] at h
    obtain ⟨c, t, digit, rfl | rfl⟩ := head_of_number? h
    · refine ⟨c, t, rfl, ?_, ?_, ?_, ?_, ?_⟩
      · rintro rfl; cases digit
      · rintro rfl; cases digit
      · rintro rfl; cases digit
      · rintro rfl; cases digit
      · by_contra blank
        simp only [isJsonBlank, Bool.or_eq_true, decide_eq_true_eq, Bool.not_eq_false] at blank
        rcases blank with ((rfl | rfl) | rfl) | rfl <;> cases digit
    · exact ⟨_, _, rfl, by decide, by decide, by decide, by decide, by decide⟩

theorem visible_wordOrNumber {s : List Char} {v : Value}
    (h : (wordValue? s).or (number? s) = some (v, [])) : ∀ c ∈ s, 32 ≤ c.toNat := by
  have passed : Passes s [] := by
    cases word : wordValue? s with
    | some r =>
      rw [word] at h
      cases h
      obtain ⟨w, member, rfl⟩ := mem_of_wordValue? word
      simp only [wordValues, List.mem_cons, Prod.mk.injEq, List.not_mem_nil, or_false] at member
      have all : (w.all fun c => decide (32 ≤ c.toNat)) = true := by
        rcases member with ⟨rfl, -⟩ | ⟨rfl, -⟩ | ⟨rfl, -⟩ | ⟨rfl, -⟩ | ⟨rfl, -⟩ | ⟨rfl, -⟩ <;> decide
      exact ⟨w, rfl, by simpa using all⟩
    | none =>
      rw [word, Option.none_or] at h
      exact passes_number? h
  obtain ⟨front, rfl, visible⟩ := passed
  rwa [List.append_nil]

theorem value_of_wordOrNumber {s : List Char} {r : Value × List Char}
    (h : (wordValue? s).or (number? s) = some r) (fuel depth : Nat) :
    value (fuel + 1) depth s = .ok r := by
  obtain ⟨c, rest, rfl, quote, bracket, brace, -⟩ := head_of_wordOrNumber h
  unfold value
  split
  · rename_i same
    exact absurd (List.cons.inj same).1 quote
  · rename_i same
    exact absurd (List.cons.inj same).1 bracket
  · rename_i same
    exact absurd (List.cons.inj same).1 brace
  · rw [h]
    rfl

end Json

end StoredRoutines
