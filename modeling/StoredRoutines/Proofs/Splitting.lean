import Mathlib.Data.List.TakeWhile
import StoredRoutines.Text.Blank
import StoredRoutines.Text.Lines
import StoredRoutines.Text.Word

/-!
Texts taken apart. What is left of a text when the blanks around it are gone, the words between its
blanks, and the pieces between its separators: each is determined by what the parts look like and by
how the text is put together from them.
-/

namespace StoredRoutines.Text

/-! Runs of items of one kind. -/

section

variable {α : Type} {p : α → Bool} {s t lead trail : List α}

theorem dropWhile_append_of_stop (all : ∀ c ∈ lead, p c = true)
    (stop : ∀ c ∈ t.head?, p c = false) : (lead ++ t).dropWhile p = t := by
  rw [List.dropWhile_append_of_pos all]
  cases t with
  | nil => rfl
  | cons c cs => exact List.dropWhile_cons_of_neg (by simp [stop c rfl])

theorem takeWhile_append_of_stop (all : ∀ c ∈ lead, p c = true)
    (stop : ∀ c ∈ t.head?, p c = false) : (lead ++ t).takeWhile p = lead := by
  rw [List.takeWhile_append_of_pos all]
  cases t with
  | nil => simp
  | cons c cs => rw [List.takeWhile_cons_of_neg (by simp [stop c rfl]), List.append_nil]

theorem not_head?_dropWhile (p : α → Bool) (s : List α) :
    ∀ c ∈ (s.dropWhile p).head?, p c = false := by
  intro c first
  have kept := List.head?_dropWhile_not p s
  rw [Option.mem_def.1 first] at kept
  simpa using kept

theorem dropWhile_eq_iff : s.dropWhile p = t ↔
    ∃ lead, (∀ c ∈ lead, p c = true) ∧ s = lead ++ t ∧ ∀ c ∈ t.head?, p c = false := by
  constructor
  · rintro rfl
    exact ⟨s.takeWhile p, fun _ => List.mem_takeWhile_imp, List.takeWhile_append_dropWhile.symm,
      not_head?_dropWhile p s⟩
  · rintro ⟨lead, all, rfl, stop⟩
    exact dropWhile_append_of_stop all stop

theorem dropWhile_reverse_eq_iff : (s.reverse.dropWhile p).reverse = t ↔
    ∃ trail, (∀ c ∈ trail, p c = true) ∧ s = t ++ trail ∧ ∀ c ∈ t.getLast?, p c = false := by
  rw [List.reverse_eq_iff, dropWhile_eq_iff]
  constructor
  · rintro ⟨lead, all, split, stop⟩
    refine ⟨lead.reverse, by simpa using all, ?_, by simpa using stop⟩
    rw [← List.reverse_inj, split]
    simp
  · rintro ⟨trail, all, rfl, stop⟩
    exact ⟨trail.reverse, by simpa using all, by simp, by simpa using stop⟩

end

/-! Characters. -/

theorem lt_of_isPlain {c : Char} (plain : isPlain c = true) : c.toNat < 128 := by
  delta isPlain Char.isAlphanum Char.isAlpha Char.isUpper Char.isLower Char.isDigit at plain
  simp only [Bool.or_eq_true, Bool.and_eq_true, decide_eq_true_eq, ge_iff_le,
    UInt32.le_iff_toNat_le] at plain
  rcases plain with ((⟨-, le⟩ | ⟨-, le⟩) | ⟨-, le⟩) | rfl
  · exact Nat.lt_of_le_of_lt le (by decide)
  · exact Nat.lt_of_le_of_lt le (by decide)
  · exact Nat.lt_of_le_of_lt le (by decide)
  · decide

theorem isWord_of_isPlain {c : Char} (plain : isPlain c = true) : isWord c = true := by
  rw [isWord, if_pos (lt_of_isPlain plain), plain]

def blankPoints : List Nat :=
  List.range' 9 5 ++ List.range' 28 5 ++ [0x85, 0xA0, 0x1680] ++ List.range' 0x2000 11 ++
    [0x2028, 0x2029, 0x202F, 0x205F, 0x3000]

theorem mem_blankPoints {c : Char} (blank : isBlank c = true) : c.toNat ∈ blankPoints := by
  simp only [isBlank, Bool.or_eq_true, Bool.and_eq_true, decide_eq_true_eq] at blank
  simp only [blankPoints, List.mem_append, List.mem_range'_1, List.mem_cons, List.not_mem_nil,
    or_false]
  omega

theorem not_isBlank_of_isWord {c : Char} (word : isWord c = true) : isBlank c = false := by
  have each : ∀ n ∈ blankPoints,
      if n < 128 then isPlain (Char.ofNat n) = false else inRanges Table.word n = false := by
    decide +kernel
  by_contra blank
  have here := each c.toNat (mem_blankPoints (by simpa using blank))
  rw [Char.ofNat_toNat] at here
  rw [isWord] at word
  split at here
  · rename_i ascii
    rw [if_pos ascii, here] at word
    cases word
  · rename_i beyond
    rw [if_neg beyond, here] at word
    cases word

theorem not_isWord_of_isBlank {c : Char} (blank : isBlank c = true) : isWord c = false := by
  by_contra word
  rw [not_isBlank_of_isWord (by simpa using word)] at blank
  cases blank

theorem not_isBlank_of_isPlain {c : Char} (plain : isPlain c = true) : isBlank c = false :=
  not_isBlank_of_isWord (isWord_of_isPlain plain)

/-! Blanks around a text. -/

def Blank (s : List Char) : Prop := ∀ c ∈ s, isBlank c = true

/-- Blanks that set two texts apart: one at least. -/
def Gap (s : List Char) : Prop := s ≠ [] ∧ Blank s

def StartsTight (s : List Char) : Prop := ∀ c ∈ s.head?, isBlank c = false

def EndsTight (s : List Char) : Prop := ∀ c ∈ s.getLast?, isBlank c = false

theorem blank_nil : Blank [] := fun _ inside => absurd inside List.not_mem_nil

theorem Blank.append {s t : List Char} (hs : Blank s) (ht : Blank t) : Blank (s ++ t) :=
  List.forall_mem_append.2 ⟨hs, ht⟩

theorem startsTight_of_unbroken {s : List Char} (h : ∀ c ∈ s, isBlank c = false) : StartsTight s :=
  fun _ first => h _ (List.mem_of_head? first)

theorem endsTight_of_unbroken {s : List Char} (h : ∀ c ∈ s, isBlank c = false) : EndsTight s :=
  fun _ last => h _ (List.mem_of_getLast? last)

theorem StartsTight.append {s : List Char} (h : StartsTight s) (some' : s ≠ []) (t : List Char) :
    StartsTight (s ++ t) := by
  intro c first
  cases s with
  | nil => exact absurd rfl some'
  | cons d ds => exact h c first

theorem EndsTight.append {t : List Char} (h : EndsTight t) (some' : t ≠ []) (s : List Char) :
    EndsTight (s ++ t) := by
  intro c last
  refine h c ?_
  rwa [List.getLast?_append, List.getLast?_eq_some_getLast some', Option.some_or,
    ← List.getLast?_eq_some_getLast some'] at last

theorem trimLeft_eq_iff {s t : List Char} :
    trimLeft s = t ↔ ∃ lead, Blank lead ∧ s = lead ++ t ∧ StartsTight t :=
  dropWhile_eq_iff

theorem trimRight_eq_iff {s t : List Char} :
    trimRight s = t ↔ ∃ trail, Blank trail ∧ s = t ++ trail ∧ EndsTight t :=
  dropWhile_reverse_eq_iff

theorem exists_trimLeft (s : List Char) :
    ∃ lead, Blank lead ∧ s = lead ++ trimLeft s ∧ StartsTight (trimLeft s) :=
  trimLeft_eq_iff.1 rfl

theorem exists_trimRight (s : List Char) :
    ∃ trail, Blank trail ∧ s = trimRight s ++ trail ∧ EndsTight (trimRight s) :=
  trimRight_eq_iff.1 rfl

/-- The blanks around a text are those without which it is tight at both ends. -/
theorem trim_eq_iff {s t : List Char} : trim s = t ↔
    ∃ lead trail, Blank lead ∧ Blank trail ∧ s = lead ++ (t ++ trail) ∧ StartsTight t ∧
      EndsTight t := by
  constructor
  · intro trimmed
    obtain ⟨lead, blank, split, starts⟩ := exists_trimLeft s
    obtain ⟨trail, blank', split', ends⟩ := trimRight_eq_iff.1 trimmed
    refine ⟨lead, trail, blank, blank', by rw [← split', ← split], ?_, ends⟩
    intro c first
    refine starts c ?_
    rw [split', List.head?_append, Option.mem_def.1 first]
    rfl
  · rintro ⟨lead, trail, blank, blank', rfl, starts, ends⟩
    -- If nothing remains, trimming on the left already takes all of the text.
    by_cases empty : t = []
    · subst empty
      have all : Blank (lead ++ ([] ++ trail)) := blank.append (by simpa using blank')
      have nothing : trimLeft (lead ++ ([] ++ trail)) = [] :=
        trimLeft_eq_iff.2 ⟨_, all, (List.append_nil _).symm, by simp [StartsTight]⟩
      rw [trim, nothing]
      rfl
    · have left : trimLeft (lead ++ (t ++ trail)) = t ++ trail :=
        trimLeft_eq_iff.2 ⟨lead, blank, rfl, starts.append empty trail⟩
      rw [trim, left]
      exact trimRight_eq_iff.2 ⟨trail, blank', rfl, ends⟩

theorem exists_trim (s : List Char) : ∃ lead trail, Blank lead ∧ Blank trail ∧
    s = lead ++ (trim s ++ trail) ∧ StartsTight (trim s) ∧ EndsTight (trim s) :=
  trim_eq_iff.1 rfl

theorem trim_trimRight (s : List Char) : trim (trimRight s) = trim s := by
  obtain ⟨trail, blank, split, -⟩ := exists_trimRight s
  obtain ⟨lead, trail', blank', blank'', split', tight⟩ := exists_trim (trimRight s)
  refine (trim_eq_iff.2 ⟨lead, trail' ++ trail, blank', blank''.append blank, ?_, tight⟩).symm
  have whole : s = lead ++ (trim (trimRight s) ++ trail') ++ trail := by rwa [← split']
  simpa only [List.append_assoc] using whole

/-! The longest word in front of a text. -/

theorem Gap.stops {gap : List Char} (h : Gap gap) (rest : List Char) :
    ∀ c ∈ (gap ++ rest).head?, isWord c = false := by
  obtain ⟨c, cs, rfl⟩ := List.exists_cons_of_ne_nil h.1
  intro d first
  exact not_isWord_of_isBlank (Option.some.inj first ▸ h.2 c List.mem_cons_self)

theorem Blank.stops {s : List Char} (h : Blank s) : ∀ c ∈ s.head?, isWord c = false :=
  fun c first => not_isWord_of_isBlank (h c (List.mem_of_head? first))

theorem longest_word_unique {u v s t : List Char} (same : u ++ s = v ++ t)
    (word : ∀ c ∈ u, isWord c = true) (word' : ∀ c ∈ v, isWord c = true)
    (stop : ∀ c ∈ s.head?, isWord c = false) (stop' : ∀ c ∈ t.head?, isWord c = false) :
    u = v ∧ s = t := by
  have first := takeWhile_append_of_stop word stop
  rw [same, takeWhile_append_of_stop word' stop'] at first
  subst first
  exact ⟨rfl, List.append_cancel_left same⟩

/-! Words between blanks. -/

/-- A word: not empty, and without blanks. -/
def Unbroken (w : List Char) : Prop := w ≠ [] ∧ ∀ c ∈ w, isBlank c = false

/-- The text consists of these words in order, with blanks between them and perhaps around them. -/
inductive SplitsInto : List Char → List (List Char) → Prop
  | blank {s : List Char} (h : Blank s) : SplitsInto s []
  | word {lead w rest : List Char} {ws : List (List Char)} (blank : Blank lead) (word : Unbroken w)
      (stop : ∀ c ∈ rest.head?, isBlank c = true) (more : SplitsInto rest ws) :
      SplitsInto (lead ++ (w ++ rest)) (w :: ws)

theorem words_blank_append {lead : List Char} (blank : Blank lead) (s : List Char) :
    words (lead ++ s) = words s := by
  induction lead with
  | nil => rfl
  | cons c cs ih =>
    obtain ⟨first, others⟩ := List.forall_mem_cons.1 blank
    rw [List.cons_append, words, if_pos first, ih others]

theorem words_unbroken_append {w rest : List Char} (word : Unbroken w)
    (stop : ∀ c ∈ rest.head?, isBlank c = true) : words (w ++ rest) = w :: words rest := by
  cases w with
  | nil => exact absurd rfl word.1
  | cons c cs =>
    obtain ⟨first, others⟩ := List.forall_mem_cons.1 word.2
    have all : ∀ d ∈ cs, (!isBlank d) = true := fun d member => by simp [others d member]
    have stop' : ∀ d ∈ rest.head?, (!isBlank d) = false := fun d member => by simp [stop d member]
    rw [List.cons_append, words, if_neg (by simp [first]), takeWhile_append_of_stop all stop',
      dropWhile_append_of_stop all stop']

theorem splitsInto_words (s : List Char) : SplitsInto s (words s) := by
  fun_induction words s with
  | case1 => exact .blank blank_nil
  | case2 c cs blank ih =>
    generalize words cs = ws at ih
    cases ih with
    | blank h => exact .blank (List.forall_mem_cons.2 ⟨blank, h⟩)
    | word blank' word stop more =>
      exact @SplitsInto.word (c :: _) _ _ _ (List.forall_mem_cons.2 ⟨blank, blank'⟩) word stop more
  | case3 c cs unblank ih =>
    have unbroken : Unbroken (c :: cs.takeWhile (!isBlank ·)) := by
      refine ⟨List.cons_ne_nil _ _, List.forall_mem_cons.2 ⟨by simpa using unblank, ?_⟩⟩
      intro d member
      simpa using List.mem_takeWhile_imp member
    have stop : ∀ d ∈ (cs.dropWhile (!isBlank ·)).head?, isBlank d = true := by
      intro d first
      simpa using not_head?_dropWhile (!isBlank ·) cs d first
    have whole := SplitsInto.word blank_nil unbroken stop ih
    rwa [List.nil_append, List.cons_append, List.takeWhile_append_dropWhile] at whole

/-- Splitting a text at its blanks gives the words that it consists of. -/
theorem words_eq_iff {s : List Char} {ws : List (List Char)} : words s = ws ↔ SplitsInto s ws := by
  constructor
  · rintro rfl
    exact splitsInto_words s
  · intro h
    induction h with
    | blank h =>
      have none := words_blank_append h []
      rw [List.append_nil] at none
      rw [none, words]
    | word blank word stop more ih =>
      rw [words_blank_append blank, words_unbroken_append word stop, ih]

theorem words_eq_nil_iff {s : List Char} : words s = [] ↔ Blank s := by
  rw [words_eq_iff]
  constructor
  · rintro ⟨blank⟩
    exact blank
  · exact .blank

theorem words_append {s : List Char} (t : List Char) (stop : ∀ c ∈ t.head?, isBlank c = true) :
    words (s ++ t) = words s ++ words t := by
  have split := splitsInto_words s
  generalize words s = ws at split
  induction split with
  | blank h => rw [words_blank_append h, List.nil_append]
  | @word lead w rest ws blank word stop' _ ih =>
    have stop'' : ∀ c ∈ (rest ++ t).head?, isBlank c = true := by
      cases rest with
      | nil => exact stop
      | cons d ds => exact stop'
    rw [List.append_assoc, List.append_assoc, words_blank_append blank,
      words_unbroken_append word stop'', ih, List.cons_append]

theorem words_append_blank (s : List Char) {trail : List Char} (blank : Blank trail) :
    words (s ++ trail) = words s := by
  rw [words_append trail fun c first => blank c (List.mem_of_head? first),
    words_eq_nil_iff.2 blank, List.append_nil]

theorem words_trimLeft (s : List Char) : words (trimLeft s) = words s := by
  obtain ⟨lead, blank, split, -⟩ := exists_trimLeft s
  have same := words_blank_append blank (trimLeft s)
  rwa [← split, eq_comm] at same

theorem words_trimRight (s : List Char) : words (trimRight s) = words s := by
  obtain ⟨trail, blank, split, -⟩ := exists_trimRight s
  have same := words_append_blank (trimRight s) blank
  rwa [← split, eq_comm] at same

theorem words_trim (s : List Char) : words (trim s) = words s := by
  rw [trim, words_trimRight, words_trimLeft]

/-! Pieces between separators. -/

theorem joinWith_singleton (sep : Char) (piece : List Char) : joinWith sep [piece] = piece := by
  simp [joinWith]

theorem joinWith_cons_cons (sep : Char) (p q : List Char) (ps : List (List Char)) :
    joinWith sep (p :: q :: ps) = p ++ sep :: joinWith sep (q :: ps) := by
  simp [joinWith, List.intercalate_cons_cons]

theorem joinWith_append_cons (sep : Char) (lead p : List Char) (ps : List (List Char)) :
    joinWith sep ((lead ++ p) :: ps) = lead ++ joinWith sep (p :: ps) := by
  cases ps with
  | nil => rw [joinWith_singleton, joinWith_singleton]
  | cons q qs => rw [joinWith_cons_cons, joinWith_cons_cons, List.append_assoc]

theorem head?_joinWith_cons {sep c : Char} {p : List Char} {ps : List (List Char)}
    (first : c ∈ (joinWith sep (p :: ps)).head?) : c ∈ p.head? ∨ c = sep := by
  cases ps with
  | nil => exact .inl (by rwa [joinWith_singleton] at first)
  | cons q qs =>
    rw [joinWith_cons_cons] at first
    cases p with
    | nil => exact .inr (Option.some.inj first).symm
    | cons d ds => exact .inl first

theorem words_joinWith {sep : Char} (blank : isBlank sep = true) (pieces : List (List Char)) :
    words (joinWith sep pieces) = pieces.flatMap words := by
  induction pieces with
  | nil => rw [joinWith, List.intercalate_nil, words_eq_nil_iff.2 blank_nil, List.flatMap_nil]
  | cons p ps ih =>
    cases ps with
    | nil => rw [joinWith_singleton, List.flatMap_singleton]
    | cons q qs =>
      rw [joinWith_cons_cons, words_append _ (by simpa using blank), List.flatMap_cons, ← ih,
        ← List.singleton_append, words_blank_append (by simpa [Blank] using blank)]

theorem words_splitOn {sep : Char} (blank : isBlank sep = true) (s : List Char) :
    (splitOn sep s).flatMap words = words s := by
  rw [← words_joinWith blank, joinWith_splitOn]

theorem splitOn_of_not_mem {sep : Char} {s : List Char} (h : sep ∉ s) : splitOn sep s = [s] := by
  induction s with
  | nil => rfl
  | cons c cs ih =>
    obtain ⟨other, others⟩ := not_or.1 (mt List.mem_cons.2 h)
    rw [splitOn, if_neg (Ne.symm other), ih others]

theorem splitOn_append_cons {sep : Char} {piece : List Char} (h : sep ∉ piece) (s : List Char) :
    splitOn sep (piece ++ sep :: s) = piece :: splitOn sep s := by
  induction piece with
  | nil => rw [List.nil_append, splitOn, if_pos rfl]
  | cons c cs ih =>
    obtain ⟨other, others⟩ := not_or.1 (mt List.mem_cons.2 h)
    rw [List.cons_append, splitOn, if_neg (Ne.symm other), ih others]

theorem not_mem_of_mem_splitOn {sep : Char} {s piece : List Char} (member : piece ∈ splitOn sep s) :
    sep ∉ piece := by
  induction s generalizing piece with
  | nil =>
    rw [List.mem_singleton.1 member]
    simp
  | cons c cs ih =>
    unfold splitOn at member
    split at member
    · rcases List.mem_cons.1 member with rfl | later
      · simp
      · exact ih later
    · rename_i other
      split at member
      · rw [List.mem_singleton.1 member]
        simpa using Ne.symm other
      · rename_i first more pieces
        rcases List.mem_cons.1 member with rfl | later
        · have here := ih (pieces ▸ List.mem_cons_self)
          simpa [Ne.symm other] using here
        · exact ih (pieces ▸ List.mem_cons_of_mem _ later)

theorem mem_joinWith {sep c : Char} {pieces : List (List Char)} {piece : List Char}
    (member : piece ∈ pieces) (inside : c ∈ piece) : c ∈ joinWith sep pieces := by
  induction pieces with
  | nil => cases member
  | cons p ps ih =>
    cases ps with
    | nil =>
      obtain rfl := List.mem_singleton.1 member
      simpa [joinWith] using inside
    | cons q qs =>
      simp only [joinWith, List.intercalate_cons_cons, List.mem_append] at ih ⊢
      rcases List.mem_cons.1 member with rfl | later
      · exact .inl (.inl inside)
      · exact .inr (ih later)

theorem eq_or_mem_of_mem_joinWith {sep c : Char} {pieces : List (List Char)}
    (inside : c ∈ joinWith sep pieces) : c = sep ∨ ∃ piece ∈ pieces, c ∈ piece := by
  induction pieces with
  | nil => cases inside
  | cons p ps ih =>
    cases ps with
    | nil =>
      rw [joinWith_singleton] at inside
      exact .inr ⟨p, List.mem_cons_self, inside⟩
    | cons q qs =>
      rw [joinWith_cons_cons, List.mem_append, List.mem_cons] at inside
      rcases inside with here | rfl | later
      · exact .inr ⟨p, List.mem_cons_self, here⟩
      · exact .inl rfl
      · exact (ih later).imp_right fun ⟨piece, member, there⟩ =>
          ⟨piece, List.mem_cons_of_mem _ member, there⟩

/-- A text is cut into the pieces that make it up and do not hold the separator. -/
theorem splitOn_eq_iff {sep : Char} {s : List Char} {pieces : List (List Char)} :
    splitOn sep s = pieces ↔
      pieces ≠ [] ∧ joinWith sep pieces = s ∧ ∀ piece ∈ pieces, sep ∉ piece := by
  constructor
  · rintro rfl
    exact ⟨splitOn_ne_nil sep s, joinWith_splitOn sep s, fun _ => not_mem_of_mem_splitOn⟩
  · rintro ⟨some', rfl, each⟩
    induction pieces with
    | nil => exact absurd rfl some'
    | cons piece pieces ih =>
      obtain ⟨here, later⟩ := List.forall_mem_cons.1 each
      cases pieces with
      | nil =>
        rw [joinWith_singleton, splitOn_of_not_mem here]
      | cons next more =>
        rw [joinWith_cons_cons, splitOn_append_cons here, ih (List.cons_ne_nil _ _) later]

end StoredRoutines.Text
