import StoredRoutines.Proofs.Splitting
import StoredRoutines.Routine.Designation

/-!
Lines that say something. Carriage returns at the end of a line do not count. A line says that the
body begins if it reads `begin` and nothing else; an annotation is a line with nothing but blanks in
front of two hyphens, and then blanks and a mark.
-/

namespace StoredRoutines

namespace Text

/-- What the line reads: all of it but the carriage returns at its end. -/
def Reads (line : String) (body : List Char) : Prop :=
  ∃ n, line.toList = body ++ List.replicate n '\r' ∧ body.getLast? ≠ some '\r'

theorem reads_iff {line : String} {body : List Char} :
    Reads line body ↔ dropReturns line.toList = body := by
  rw [dropReturns, dropWhile_reverse_eq_iff]
  constructor
  · rintro ⟨n, split, last⟩
    refine ⟨_, fun c member => ?_, split, fun c ending => ?_⟩
    · simpa using List.eq_of_mem_replicate member
    · rw [beq_eq_false_iff_ne]
      rintro rfl
      exact last ending
  · rintro ⟨trail, returns, split, last⟩
    refine ⟨trail.length, ?_, fun ending => ?_⟩
    · rw [split, ← List.eq_replicate_of_mem fun c member => by simpa using returns c member]
    · simpa using last _ ending

/-- These are the lines in front of the first one that begins a body. -/
def Opens (lines before : List String) : Prop :=
  ∃ begin' after, lines = before ++ begin' :: after ∧ Reads begin' "begin".toList ∧
    ∀ l ∈ before, ¬ Reads l "begin".toList

end Text

namespace RoutineSource

theorem isBegin_iff {line : String} : isBegin line = true ↔ Text.Reads line "begin".toList := by
  rw [isBegin, beq_iff_eq, Text.reads_iff]

/-- The first line that begins a body is known by the lines in front of it. -/
theorem beginLine?_eq_some_iff {s : RoutineSource} {b : Nat} : s.beginLine? = some b ↔
    ∃ before, Text.Opens s.lines before ∧ before.length = b ∧ s.lines.take b = before := by
  rw [beginLine?, List.findIdx?_eq_some_iff_getElem]
  constructor
  · rintro ⟨inside, begins, first⟩
    refine ⟨s.lines.take b, ⟨s.lines[b], s.lines.drop (b + 1), ?_, isBegin_iff.1 begins, ?_⟩,
      List.length_take_of_le inside.le, rfl⟩
    · rw [← List.drop_eq_getElem_cons inside, List.take_append_drop]
    · intro l member
      obtain ⟨j, bound, rfl⟩ := List.mem_take_iff_getElem.1 member
      exact fun reads => first j (Nat.lt_min.1 bound).1 (isBegin_iff.2 reads)
  · rintro ⟨before, ⟨begin', after, split, begins, others⟩, rfl, -⟩
    have inside : before.length < s.lines.length := by simp [split]
    refine ⟨inside, ?_, fun j lower => ?_⟩
    · have here : s.lines[before.length] = begin' := by simp [split]
      rw [here]
      exact isBegin_iff.2 begins
    · have here : s.lines[j] = before[j] := by simp [split, lower]
      rw [here]
      exact fun begins' => others _ (List.getElem_mem lower) (isBegin_iff.1 begins')

theorem beginLine?_of_opens {s : RoutineSource} {before : List String}
    (opens : Text.Opens s.lines before) :
    s.beginLine? = some before.length ∧ s.lines.take before.length = before := by
  obtain ⟨_, _, split, -⟩ := id opens
  have front : s.lines.take before.length = before := by simp [split]
  exact ⟨beginLine?_eq_some_iff.2 ⟨before, opens, rfl, front⟩, front⟩

theorem opens_of_beginLine? {s : RoutineSource} {b : Nat} (found : s.beginLine? = some b) :
    Text.Opens s.lines (s.lines.take b) := by
  obtain ⟨before, opens, -, rfl⟩ := beginLine?_eq_some_iff.1 found
  exact opens

end RoutineSource

namespace Designation

open Text

/-- The line is an annotation with the mark, and this stands behind the mark. -/
def Annotates (mark : List Char) (line : String) (rest : List Char) : Prop :=
  ∃ lead gap, Reads line (lead ++ '-' :: '-' :: (gap ++ (mark ++ rest))) ∧ Blank lead ∧ Gap gap

theorem afterMark?_eq_some_iff {mark body rest : List Char} (some' : mark ≠ [])
    (tight : StartsTight mark) : afterMark? mark body = some rest ↔
      ∃ lead gap, body = lead ++ '-' :: '-' :: (gap ++ (mark ++ rest)) ∧ Blank lead ∧ Gap gap := by
  unfold afterMark?
  constructor
  · intro marked
    split at marked
    · rename_i behind start
      split at marked
      · rename_i apart
        obtain ⟨lead, blank, split, -⟩ := trimLeft_eq_iff.1 start
        obtain ⟨gap, blank', split', -⟩ := trimLeft_eq_iff.1 (dropPrefix?_eq_some_iff.1 marked)
        refine ⟨lead, gap, by rw [split, split'], blank, ?_, blank'⟩
        -- The mark does not start with a blank, so the blank behind the hyphens belongs to the gap.
        rintro rfl
        obtain ⟨c, cs, rfl⟩ := List.exists_cons_of_ne_nil some'
        rw [split', List.nil_append] at apart
        have unblank := tight c rfl
        simp [unblank] at apart
      · cases marked
    · cases marked
  · rintro ⟨lead, gap, rfl, blank, some'', blank'⟩
    have start : trimLeft (lead ++ '-' :: '-' :: (gap ++ (mark ++ rest))) =
        '-' :: '-' :: (gap ++ (mark ++ rest)) := by
      refine trimLeft_eq_iff.2 ⟨lead, blank, rfl, fun c first => ?_⟩
      rw [← Option.some.inj first]
      decide
    have behind : trimLeft (gap ++ (mark ++ rest)) = mark ++ rest :=
      trimLeft_eq_iff.2 ⟨gap, blank', rfl, tight.append some' rest⟩
    obtain ⟨c, cs, rfl⟩ := List.exists_cons_of_ne_nil some''
    have apart : isBlank c = true := blank' c List.mem_cons_self
    simp only [start]
    rw [behind, dropPrefix?_eq_some_iff.2 rfl]
    simp [apart]

theorem annotates_iff {mark rest : List Char} {line : String} (some' : mark ≠ [])
    (tight : StartsTight mark) :
    Annotates mark line rest ↔ afterMark? mark (dropReturns line.toList) = some rest := by
  rw [afterMark?_eq_some_iff some' tight]
  exact exists_congr fun lead => exists_congr fun gap => by rw [reads_iff]

end Designation

end StoredRoutines
