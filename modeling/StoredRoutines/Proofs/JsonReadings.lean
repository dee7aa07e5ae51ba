import Mathlib.Data.Nat.Digits.Defs
import StoredRoutines.Proofs.KeptValues
import StoredRoutines.Proofs.StoreNames

/-!
What the reader gives can be written and read again. A string that was read holds no surrogate pair,
a number that was read stands alone as the same number and is not too long, and the value has no
more levels than the reader was allowed.
-/

namespace StoredRoutines

open Text

namespace Json

theorem hexValue?_lt {c : Char} {n : Nat} (h : hexValue? c = some n) : n < 16 := by
  have order (a b : Char) : (a ≤ b) ↔ a.toNat ≤ b.toNat := Iff.rfl
  simp only [hexValue?, order] at h
  split at h
  · rename_i range
    have bounds : 48 ≤ c.toNat ∧ c.toNat ≤ 57 := range
    simp only [Option.some.injEq] at h
    omega
  · split at h
    · rename_i range
      have bounds : 97 ≤ c.toNat ∧ c.toNat ≤ 102 := range
      simp only [Option.some.injEq] at h
      omega
    · split at h
      · rename_i range
        have bounds : 65 ≤ c.toNat ∧ c.toNat ≤ 70 := range
        simp only [Option.some.injEq] at h
        omega
      · cases h

theorem codeUnit?_lt {a b c d : Char} {u : Nat} (h : codeUnit? a b c d = some u) : u < 0x10000 := by
  simp only [codeUnit?, Option.bind_eq_bind, Option.bind_eq_some_iff, Option.pure_def,
    Option.some.injEq] at h
  obtain ⟨w, first, x, second, y, third, z, fourth, rfl⟩ := h
  have := hexValue?_lt first
  have := hexValue?_lt second
  have := hexValue?_lt third
  have := hexValue?_lt fourth
  omega

theorem toNat_lt (c : Char) : c.toNat < 0x110000 := by
  have valid := c.valid
  simp only [Char.toNat]
  rcases valid with low | high <;> omega

theorem small_of_map {r : Option (List Nat × List Char)} {n : Nat} {points : List Nat}
    {rest : List Char} (small : n < 0x110000)
    (tail : ∀ {points rest}, r = some (points, rest) → ∀ k ∈ points, k < 0x110000)
    (h : r.map (fun r => (n :: r.1, r.2)) = some (points, rest)) : ∀ k ∈ points, k < 0x110000 := by
  obtain ⟨⟨more, after⟩, found, same⟩ := Option.map_eq_some_iff.1 h
  cases same
  exact List.forall_mem_cons.2 ⟨small, tail found⟩

theorem small_of_stringBody {s rest : List Char} {points : List Nat}
    (h : stringBody s = some (points, rest)) : ∀ n ∈ points, n < 0x110000 := by
  fun_induction stringBody s generalizing points rest with
  | case1 | case2 | case5 | case6 | case8 => cases h
  | case3 a b c d t u unit ih =>
    have small := codeUnit?_lt unit
    exact small_of_map (by omega) ih h
  | case4 =>
    cases h
    simp
  | case7 =>
    rename_i ih
    exact small_of_map (toNat_lt _) ih h
  | case9 =>
    rename_i ih
    exact small_of_map (toNat_lt _) ih h

theorem pairedPoint?_bounds {m n p : Nat} (h : pairedPoint? m n = some p) :
    0x10000 ≤ p ∧ p < 0x110000 := by
  unfold pairedPoint? at h
  split at h
  · rename_i range
    simp only [Option.some.injEq] at h
    omega
  · cases h

theorem pairedPoint?_of_large {m : Nat} (large : 0x10000 ≤ m) (n : Nat) :
    pairedPoint? m n = none := by
  rw [pairedPoint?, if_neg]
  omega

theorem head_joinPairs (n : Nat) (rest : List Nat) :
    ∀ p ∈ (joinPairs (n :: rest)).head?, p = n ∨ 0x10000 ≤ p := by
  cases rest with
  | nil => simp [joinPairs]
  | cons m rest =>
    cases paired : pairedPoint? n m with
    | none => simp [joinPairs_cons_of_none paired]
    | some q =>
      have large := (pairedPoint?_bounds paired).1
      simp only [joinPairs, paired, List.head?_cons, Option.mem_def, Option.some.injEq]
      rintro p rfl
      exact .inr large

theorem sound_joinPairs {points : List Nat} (small : ∀ n ∈ points, n < 0x110000) :
    Sound (joinPairs points) := by
  fun_induction joinPairs points with
  | case1 => exact ⟨small, .nil⟩
  | case2 n => exact ⟨small, .singleton n⟩
  | case3 m n rest p paired ih =>
    obtain ⟨large, bound⟩ := pairedPoint?_bounds paired
    have tail := ih fun k member => small k (by simp [member])
    refine ⟨List.forall_mem_cons.2 ⟨bound, tail.small⟩, ?_⟩
    exact List.isChain_cons.2 ⟨fun q _ => pairedPoint?_of_large large q, tail.unpaired⟩
  | case4 m n rest alone ih =>
    have tail := ih fun k member => small k (List.mem_cons_of_mem _ member)
    refine ⟨List.forall_mem_cons.2 ⟨small m (by simp), tail.small⟩, ?_⟩
    refine List.isChain_cons.2 ⟨fun q first => ?_, tail.unpaired⟩
    rcases head_joinPairs n rest q first with rfl | large
    · exact alone
    · rw [pairedPoint?, if_neg]
      omega

end Json

namespace Text

theorem digitValue?_lt {c : Char} {d : Nat} (h : digitValue? c = some d) : d < 10 := by
  obtain ⟨z, found, rfl⟩ := Option.map_eq_some_iff.1 h
  have range := List.find?_some found
  simp only [Bool.and_eq_true, decide_eq_true_eq] at range
  omega

theorem digits?_lt {after : Bool} {s : List Char} {ds : List Nat} (h : digits? after s = some ds) :
    ∀ d ∈ ds, d < 10 := by
  induction s generalizing after ds with
  | nil =>
    cases after <;> cases h
    simp
  | cons c s ih =>
    simp only [digits?] at h
    split at h
    · split at h
      · exact ih h
      · cases h
    · split at h
      · rename_i value
        obtain ⟨more, tail, rfl⟩ := Option.map_eq_some_iff.1 h
        exact List.forall_mem_cons.2 ⟨digitValue?_lt value, ih tail⟩
      · cases h

theorem foldl_digits_lt {ds : List Nat} (small : ∀ d ∈ ds, d < 10) (n : Nat) :
    ds.foldl (fun n d => 10 * n + d) n < (n + 1) * 10 ^ ds.length := by
  induction ds generalizing n with
  | nil => simp
  | cons d ds ih =>
    obtain ⟨first, rest⟩ := List.forall_mem_cons.1 small
    calc ds.foldl (fun n d => 10 * n + d) (10 * n + d)
        < (10 * n + d + 1) * 10 ^ ds.length := ih rest _
      _ ≤ (10 * (n + 1)) * 10 ^ ds.length := Nat.mul_le_mul_right _ (by omega)
      _ = (n + 1) * 10 ^ (d :: ds).length := by
        rw [List.length_cons, Nat.pow_succ']
        ac_rfl

/-- A number whose numeral fits does not get too long when it is spelled again. -/
theorem length_toDigits_of_natural? {s : List Char} {n : Nat} (h : natural? s = some n) :
    (Nat.toDigits 10 n).length ≤ maxDigits := by
  unfold natural? at h
  split at h
  · rename_i ds digits
    split at h
    · rename_i short
      cases h
      have bound := foldl_digits_lt (digits?_lt digits) 0
      rw [Nat.zero_add, Nat.one_mul] at bound
      have wide : 10 ^ ds.length ≤ 10 ^ maxDigits := Nat.pow_le_pow_right (by omega) short
      exact Nat.toDigits_length 10 _ maxDigits (by decide) (Nat.lt_of_lt_of_le bound wide)
    · cases h
  · cases h

end Text

namespace Atom

theorem storable_null : Storable .null := ⟨trivial, rfl, rfl⟩

theorem storable_bool (b : Bool) : Storable (.bool b) := ⟨trivial, rfl, rfl⟩

theorem storable_text (s : String) : Storable (.text s) := ⟨trivial, rfl, rfl⟩

theorem storable_real (x : Number.Double) : Storable (.real x) := ⟨trivial, rfl, rfl⟩

theorem storable_int {n : Int} (short : (Nat.toDigits 10 n.natAbs).length ≤ maxDigits) :
    Storable (.int n) := by
  refine ⟨trivial, rfl, ?_⟩
  simpa [Json.isTooLong] using short

theorem storable_ofPoints {points : List Nat} (sound : Json.Sound points) :
    (Atom.ofPoints points).Storable := by
  refine ⟨readable_ofPoints sound, ?_, ?_⟩
  all_goals
    unfold ofPoints
    split <;> rfl

end Atom

namespace Json

theorem storable_of_string? {s rest : List Char} {a : Atom} (h : string? s = some (a, rest)) :
    a.Storable := by
  obtain ⟨r, body, same⟩ := Option.map_eq_some_iff.1 h
  cases same
  exact Atom.storable_ofPoints (sound_joinPairs (small_of_stringBody body))

theorem real_of_unsigned? {sign body r : List Char} {v : Value}
    (h : unsigned? sign body = some (v, r)) :
    (∃ n : Nat, (Nat.toDigits 10 n).length ≤ maxDigits ∧ (v = .int n ∨ v = .int (-n))) ∨
      ∃ x, v = .real x := by
  obtain ⟨ds, _, f, _, x, -, -, -, value⟩ := unsigned?_eq_some_iff.1 h
  unfold valueOf at value
  split at value
  · obtain ⟨n, number, rfl⟩ := Option.map_eq_some_iff.1 value
    obtain ⟨m, found, lifted⟩ := Option.bind_eq_some_iff.1 number
    obtain rfl : (m : Int) = n := Option.some.inj lifted
    refine .inl ⟨m, length_toDigits_of_natural? found, ?_⟩
    split
    · exact .inl rfl
    · exact .inr rfl
  · cases value
    exact .inr ⟨_, rfl⟩

theorem storable_of_number? {s r : List Char} {v : Value} (h : number? s = some (v, r)) :
    ∃ a, v = .atom a ∧ a.Storable := by
  have shape : ∃ sign body, unsigned? sign body = some (v, r) := by
    by_cases negative : ∃ body, s = '-' :: body
    · obtain ⟨body, rfl⟩ := negative
      exact ⟨['-'], body, h⟩
    · rw [number?_of_no_sign fun body same => negative ⟨body, same⟩] at h
      exact ⟨[], s, h⟩
  obtain ⟨sign, body, number⟩ := shape
  rcases real_of_unsigned? number with ⟨n, short, rfl | rfl⟩ | ⟨x, rfl⟩
  · exact ⟨_, rfl, Atom.storable_int short⟩
  · exact ⟨_, rfl, Atom.storable_int (by simpa using short)⟩
  · exact ⟨_, rfl, Atom.storable_real x⟩

theorem storable_of_wordValue? {s r : List Char} {v : Value} (h : wordValue? s = some (v, r)) :
    ∃ a, v = .atom a ∧ a.Storable := by
  obtain ⟨w, member, -⟩ := mem_of_wordValue? h
  simp only [wordValues, List.mem_cons, Prod.mk.injEq, List.not_mem_nil, or_false] at member
  rcases member with ⟨-, rfl⟩ | ⟨-, rfl⟩ | ⟨-, rfl⟩ | ⟨-, rfl⟩ | ⟨-, rfl⟩ | ⟨-, rfl⟩
  · exact ⟨_, rfl, Atom.storable_null⟩
  · exact ⟨_, rfl, Atom.storable_bool true⟩
  · exact ⟨_, rfl, Atom.storable_bool false⟩
  all_goals exact ⟨_, rfl, Atom.storable_real _⟩

end Json

namespace Json

theorem storable_wordOrNumber {depth : Nat} {s r : List Char} {v : Value}
    (h : (wordValue? s).or (number? s) = some (v, r)) : v.Storable depth := by
  rw [Option.or_eq_some_iff] at h
  rcases h with word | ⟨-, number⟩
  · obtain ⟨a, rfl, storable⟩ := storable_of_wordValue? word
    exact Value.storable_atom storable
  · obtain ⟨a, rfl, storable⟩ := storable_of_number? number
    exact Value.storable_atom storable

/-- What is read with this much fuel can be stored: a value, items, and members. -/
structure ReadsStorable (fuel : Nat) : Prop where
  value {depth : Nat} {s rest : List Char} {v : Value} :
    Json.value fuel depth s = .ok (v, rest) → v.Storable depth
  items {depth : Nat} {s rest : List Char} {vs : List Value} :
    Json.items fuel depth s = .ok (vs, rest) → ∀ v ∈ vs, v.Storable depth
  fields {depth : Nat} {s rest : List Char} {es : List (Atom × Value)} :
    Json.fields fuel depth s = .ok (es, rest) →
      ∀ e ∈ es, (e.1.isText = true ∧ e.1.Readable) ∧ e.2.Storable depth

namespace ReadsStorable

variable {fuel depth : Nat} {s rest : List Char}

theorem value_succ (h : ReadsStorable fuel) {v : Value}
    (read : Json.value (fuel + 1) depth s = .ok (v, rest)) : v.Storable depth := by
  unfold Json.value at read
  split at read
  · obtain ⟨r, text, same⟩ := Option.map_eq_some_iff.1 (found_eq_ok.1 read)
    cases same
    exact Value.storable_atom (storable_of_string? text)
  · split at read
    · cases read
    · split at read
      · cases read
        exact Value.storable_list (by simp)
      · obtain ⟨r, later, same⟩ := Outcomes.map_eq_ok.1 read
        cases same
        exact Value.storable_list (h.items later)
  · split at read
    · cases read
    · rename_i depth
      split at read
      · cases read
        exact Value.storable_object ⟨by simp, List.nodup_nil⟩ (by simp)
      · obtain ⟨r, later, same⟩ := Outcomes.map_eq_ok.1 read
        cases same
        -- Of entries with one name the last counts, so the object has distinct names.
        have each := Assoc.forall_mem_ofPairs
          (P := fun k : Atom => k.isText = true ∧ k.Readable) (Q := Value.Storable depth)
          (h.fields later)
        refine Value.storable_object ⟨?_, Assoc.nodup_keys_ofPairs _⟩ ?_
        · exact fun e member => (each e member).1
        · exact fun e member => (each e member).2
  · exact storable_wordOrNumber (found_eq_ok.1 read)

theorem items_succ (h : ReadsStorable fuel) {vs : List Value}
    (read : Json.items (fuel + 1) depth s = .ok (vs, rest)) : ∀ v ∈ vs, v.Storable depth := by
  unfold Json.items at read
  split at read
  · cases read
  · rename_i v after first
    have storable := h.value first
    split at read
    · cases read
      simpa using storable
    · obtain ⟨r, later, same⟩ := Outcomes.map_eq_ok.1 read
      cases same
      exact List.forall_mem_cons.2 ⟨storable, h.items later⟩
    · cases read

theorem fields_succ (h : ReadsStorable fuel) {es : List (Atom × Value)}
    (read : Json.fields (fuel + 1) depth s = .ok (es, rest)) :
    ∀ e ∈ es, (e.1.isText = true ∧ e.1.Readable) ∧ e.2.Storable depth := by
  unfold Json.fields at read
  split at read
  · split at read
    · cases read
    · rename_i name _ named
      have text := isText_of_string? named
      have readable := (storable_of_string? named).readable
      split at read
      · split at read
        · cases read
        · rename_i v after first
          have storable := h.value first
          split at read
          · cases read
            simpa using ⟨⟨text, readable⟩, storable⟩
          · obtain ⟨r, later, same⟩ := Outcomes.map_eq_ok.1 read
            cases same
            exact List.forall_mem_cons.2 ⟨⟨⟨text, readable⟩, storable⟩, h.fields later⟩
          · cases read
      · cases read
  · cases read

end ReadsStorable

/-- By induction on the fuel, which every call of the reader takes one from. -/
theorem readsStorable (fuel : Nat) : ReadsStorable fuel := by
  induction fuel with
  | zero => exact ⟨(fun read => by cases read), (fun read => by cases read),
      (fun read => by cases read)⟩
  | succ fuel ih => exact ⟨ih.value_succ, ih.items_succ, ih.fields_succ⟩

/-- A value that was read can be stored, and takes no more levels than it could have. -/
theorem storable_of_parseWithin {depth : Nat} {s : String} {v : Value}
    (h : parseWithin depth s = .ok v) : v.Storable depth := by
  unfold parseWithin at h
  simp only at h
  split at h
  · cases h
  · rename_i found
    split at h <;> cases h
    exact (readsStorable _).value found

end Json

end StoredRoutines
