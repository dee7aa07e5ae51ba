import Mathlib.Data.List.Chain
import StoredRoutines.Json.Reader
import StoredRoutines.Json.Writer

/-!
Strings read back. The writer spells a code point as itself, as a short escape, or as one or two
code units; the reader joins the two code units of a pair again. It joins no others as long as no
two surrogates that stand alone look like a pair.
-/

namespace StoredRoutines

open Text

namespace Json

theorem hexValue?_hexDigit (n : Nat) : hexValue? (hexDigit n) = some (n % 16) := by
  have small : ∀ k < 16, hexValue? (hexDigit k) = some k := by decide
  have same : hexDigit n = hexDigit (n % 16) := by simp [hexDigit]
  rw [same]
  exact small _ (Nat.mod_lt _ (by omega))

theorem hex_four (n : Nat) : hex 4 n =
    [hexDigit (n / 16 / 16 / 16), hexDigit (n / 16 / 16), hexDigit (n / 16), hexDigit n] := by
  simp [hex]

theorem stringBody_unitEscape {u : Nat} (small : u < 0x10000) (rest : List Char) :
    stringBody (unitEscape u ++ rest) = (stringBody rest).map fun r => (u :: r.1, r.2) := by
  have read : codeUnit? (hexDigit (u / 16 / 16 / 16)) (hexDigit (u / 16 / 16)) (hexDigit (u / 16))
      (hexDigit u) = some u := by
    simp only [codeUnit?, hexValue?_hexDigit, Option.bind_eq_bind, Option.bind_some, Option.pure_def,
      Option.some.injEq]
    omega
  simp only [unitEscape, hex_four, List.cons_append, List.nil_append, stringBody, read]

def units (n : Nat) : List Nat :=
  if n < 0x10000 then [n] else [0xD800 + (n - 0x10000) / 0x400, 0xDC00 + (n - 0x10000) % 0x400]

theorem stringBody_short {c x : Char} (escaped : shortEscape? c = some x) (plain : c ≠ 'u')
    (rest : List Char) :
    stringBody ('\\' :: c :: rest) = (stringBody rest).map fun r => (x.toNat :: r.1, r.2) := by
  rw [stringBody]
  · simp [escaped]
  · intro a b c' d rest' _ same
    exact absurd (List.cons.inj same).1 plain

theorem toNat_ofNat {n : Nat} (ascii : n < 127) : (Char.ofNat n).toNat = n := by
  rw [Char.ofNat, dif_pos (Or.inl (by omega))]
  rfl

theorem stringBody_visible {n : Nat} (visible : 32 ≤ n ∧ n < 127) (quote : n ≠ 34) (slash : n ≠ 92)
    (rest : List Char) :
    stringBody (Char.ofNat n :: rest) = (stringBody rest).map fun r => (n :: r.1, r.2) := by
  have number := toNat_ofNat visible.2
  have noQuote : Char.ofNat n ≠ '"' := by
    intro same
    rw [same] at number
    exact quote number.symm
  have noSlash : Char.ofNat n ≠ '\\' := by
    intro same
    rw [same] at number
    exact slash number.symm
  rw [stringBody.eq_def]
  split
  · rename_i nothing
    cases nothing
  · rename_i same
    exact absurd (List.cons.inj same).1 noSlash
  · rename_i c rest' _ same
    obtain ⟨rfl, rfl⟩ := List.cons.inj same
    simp [number, noQuote, noSlash, Nat.not_lt.2 visible.1]

inductive Spelling (n : Nat) : Prop
  | short {c x : Char} (escaped : shortEscape? c = some x) (letter : c ≠ 'u') (same : x.toNat = n)
      (control : 32 ≤ c.toNat) (small : n < 0x10000) (written : writtenPoint n = ['\\', c])
  | visible (range : 32 ≤ n ∧ n < 127) (quote : n ≠ 34) (slash : n ≠ 92)
      (written : writtenPoint n = [Char.ofNat n])
  | unit (small : n < 0x10000) (written : writtenPoint n = unitEscape n)
  | pair (large : 0x10000 ≤ n) (written : writtenPoint n =
      unitEscape (0xD800 + (n - 0x10000) / 0x400) ++ unitEscape (0xDC00 + (n - 0x10000) % 0x400))

theorem spelling (n : Nat) : Spelling n := by
  have known : ∀ m ∈ [34, 92, 10, 13, 9, 8, 12], Spelling m := by
    intro m member
    simp only [List.mem_cons, List.not_mem_nil, or_false] at member
    rcases member with rfl | rfl | rfl | rfl | rfl | rfl | rfl
    all_goals exact .short rfl (by decide) rfl (by decide) (by decide) rfl
  by_cases special : n ∈ [34, 92, 10, 13, 9, 8, 12]
  · exact known n special
  · simp only [List.mem_cons, List.not_mem_nil, or_false, not_or] at special
    by_cases range : 32 ≤ n ∧ n < 127
    · exact .visible range special.1 special.2.1 (by simp [writtenPoint, special, range])
    · by_cases small : n < 0x10000
      · exact .unit small (by simp [writtenPoint, special, range, small])
      · exact .pair (by omega) (by simp [writtenPoint, special, range, small])

theorem stringBody_writtenPoint {n : Nat} (small : n < 0x110000) (rest : List Char) :
    stringBody (writtenPoint n ++ rest) =
      (stringBody rest).map fun r => (units n ++ r.1, r.2) := by
  cases spelling n with
  | short escaped letter same _ range written =>
    rw [written, List.cons_append, List.cons_append, List.nil_append,
      stringBody_short escaped letter, same, units, if_pos range]
    rfl
  | visible range quote slash written =>
    rw [written, List.cons_append, List.nil_append, stringBody_visible range quote slash, units,
      if_pos (by omega)]
    rfl
  | unit range written =>
    rw [written, stringBody_unitEscape range, units, if_pos range]
    rfl
  | pair large written =>
    rw [written, List.append_assoc, stringBody_unitEscape (by omega),
      stringBody_unitEscape (by omega), Option.map_map, units, if_neg (by omega)]
    rfl

theorem stringBody_written {points : List Nat} (small : ∀ n ∈ points, n < 0x110000)
    (rest : List Char) : stringBody (points.flatMap writtenPoint ++ '"' :: rest) =
      some (points.flatMap units, rest) := by
  induction points with
  | nil =>
    have closed : stringBody ('"' :: rest) = some ([], rest) := by
      rw [stringBody.eq_def]
      simp
    exact closed
  | cons n points ih =>
    have tail := ih (fun m member => small m (List.mem_cons_of_mem _ member))
    rw [List.flatMap_cons, List.append_assoc, stringBody_writtenPoint (small n (by simp)), tail]
    rfl

/-- No two points next to each other look like a surrogate pair. -/
def Unpaired (points : List Nat) : Prop := points.IsChain fun m n => pairedPoint? m n = none

theorem joinPairs_cons_of_none {m n : Nat} (alone : pairedPoint? m n = none) (rest : List Nat) :
    joinPairs (m :: n :: rest) = m :: joinPairs (n :: rest) := by
  rw [joinPairs, alone]

/-- Joining the code units of points gives the points. -/
theorem joinPairs_units {points : List Nat} (small : ∀ n ∈ points, n < 0x110000)
    (unpaired : Unpaired points) : joinPairs (points.flatMap units) = points := by
  induction points with
  | nil => rfl
  | cons p points ih =>
    have tail := ih (fun m member => small m (List.mem_cons_of_mem _ member)) unpaired.tail
    have bound := small p (by simp)
    by_cases range : p < 0x10000
    · have single : units p = [p] := if_pos range
      rw [List.flatMap_cons, single, List.singleton_append]
      cases points with
      | nil => rfl
      | cons q points =>
        rw [List.flatMap_cons] at tail ⊢
        -- Only the first unit of the next point could make a pair with this one.
        have first : ∃ u us, units q = u :: us ∧ pairedPoint? p u = none := by
          unfold units
          split
          · exact ⟨q, [], rfl, (List.isChain_cons_cons.1 unpaired).1⟩
          · have far := small q (by simp)
            refine ⟨_, _, rfl, ?_⟩
            rw [pairedPoint?, if_neg (by omega)]
        obtain ⟨u, us, split, alone⟩ := first
        rw [split, List.cons_append] at tail ⊢
        rw [joinPairs_cons_of_none alone, tail]
    · have double : units p =
          [0xD800 + (p - 0x10000) / 0x400, 0xDC00 + (p - 0x10000) % 0x400] := if_neg range
      have pair : pairedPoint? (0xD800 + (p - 0x10000) / 0x400) (0xDC00 + (p - 0x10000) % 0x400) =
          some p := by
        rw [pairedPoint?, if_pos (by omega)]
        exact congrArg some (by omega)
      rw [List.flatMap_cons, double, List.cons_append, List.cons_append, List.nil_append, joinPairs,
        pair, tail]

/-- Code points that a written string gives back. -/
structure Sound (points : List Nat) : Prop where
  small : ∀ n ∈ points, n < 0x110000
  unpaired : Unpaired points

/-- A written string reads as the points it was written for. -/
theorem string?_written {points : List Nat} (sound : Sound points) (rest : List Char) :
    string? (points.flatMap writtenPoint ++ '"' :: rest) = some (.ofPoints points, rest) := by
  rw [string?, stringBody_written sound.small, Option.map_some,
    joinPairs_units sound.small sound.unpaired]

theorem pairedPoint?_char (c : Char) (n : Nat) : pairedPoint? c.toNat n = none := by
  have valid := c.valid
  rw [pairedPoint?, if_neg]
  simp only [Char.toNat]
  rcases valid with low | high <;> omega

theorem sound_text (s : String) : Sound (s.toList.map Char.toNat) where
  small := by
    intro n member
    obtain ⟨c, -, rfl⟩ := List.mem_map.1 member
    have valid := c.valid
    simp only [Char.toNat]
    rcases valid with low | high <;> omega
  unpaired := by
    unfold Unpaired
    induction s.toList with
    | nil => exact .nil
    | cons c cs ih =>
      cases cs with
      | nil => exact .singleton _
      | cons d ds => exact .cons_cons (pairedPoint?_char c d.toNat) ih

theorem Sound.append {points more : List Nat} (first : Sound points) (second : Sound more)
    (apart : ∀ m ∈ points.getLast?, ∀ n ∈ more.head?, pairedPoint? m n = none) :
    Sound (points ++ more) where
  small := by
    intro n member
    rcases List.mem_append.1 member with left | right
    · exact first.small n left
    · exact second.small n right
  unpaired := List.isChain_append.2 ⟨first.unpaired, second.unpaired, apart⟩

theorem visible_unitEscape {u : Nat} {c : Char} (member : c ∈ unitEscape u) : 32 ≤ c.toNat := by
  have digit (k : Nat) : 32 ≤ (hexDigit k).toNat := by
    have small : ∀ j < 16, 32 ≤ (hexDigit j).toNat := by decide
    have same : hexDigit k = hexDigit (k % 16) := by simp [hexDigit]
    rw [same]
    exact small _ (Nat.mod_lt _ (by omega))
  rw [unitEscape, hex_four] at member
  simp only [List.mem_cons, List.not_mem_nil, or_false] at member
  rcases member with rfl | rfl | rfl | rfl | rfl | rfl
  · decide
  · decide
  all_goals exact digit _

theorem visible_writtenPoint {n : Nat} {c : Char} (member : c ∈ writtenPoint n) : 32 ≤ c.toNat := by
  cases spelling n with
  | short _ _ _ control _ written =>
    rw [written] at member
    simp only [List.mem_cons, List.not_mem_nil, or_false] at member
    rcases member with rfl | rfl
    · decide
    · exact control
  | visible range _ _ written =>
    rw [written, List.mem_singleton] at member
    rw [member, toNat_ofNat range.2]
    exact range.1
  | unit _ written =>
    rw [written] at member
    exact visible_unitEscape member
  | pair _ written =>
    rw [written] at member
    rcases List.mem_append.1 member with first | second
    · exact visible_unitEscape first
    · exact visible_unitEscape second

end Json

end StoredRoutines
