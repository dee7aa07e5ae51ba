import StoredRoutines.Doc.Routine
import StoredRoutines.Proofs.CommentWords
import StoredRoutines.Proofs.LongestKeys
import StoredRoutines.Routine.Annotations

/-!
Line ends of two forms. A carriage return in front of every line feed changes nothing of what a
source says: an annotation is read off its line without the returns at the end, a header is read
across blanks of any kind, no token holds a blank, and the lines of a comment lose the blanks at
their ends. The text with its keys replaced keeps the returns where they were.
-/

namespace StoredRoutines

namespace Text

/-- The text with a carriage return in front of every line feed. -/
def withReturns (s : List Char) : List Char :=
  s.flatMap fun c => if c = '\n' then ['\r', '\n'] else [c]

/-- The pieces with a carriage return at the end of each but the last. -/
def returned : List (List Char) → List (List Char)
  | [] => []
  | [piece] => [piece]
  | piece :: next :: more => (piece ++ ['\r']) :: returned (next :: more)

section

variable {s t : List Char} {c : Char} {p : Char → Bool}

@[simp] theorem withReturns_newline (s : List Char) :
    withReturns ('\n' :: s) = '\r' :: '\n' :: withReturns s := rfl

theorem withReturns_cons (other : c ≠ '\n') (s : List Char) :
    withReturns (c :: s) = c :: withReturns s := by
  rw [withReturns, List.flatMap_cons, if_neg other]
  rfl

theorem withReturns_append (s t : List Char) :
    withReturns (s ++ t) = withReturns s ++ withReturns t :=
  List.flatMap_append

theorem withReturns_of_not_mem (none : '\n' ∉ s) : withReturns s = s := by
  induction s with
  | nil => rfl
  | cons c s ih =>
    obtain ⟨other, later⟩ := not_or.1 (List.mem_cons.not.1 none)
    rw [withReturns_cons (Ne.symm other), ih later]

theorem exists_of_withReturns_eq_cons (other : c ≠ '\r') (same : withReturns s = c :: t) :
    ∃ more, s = c :: more ∧ t = withReturns more := by
  cases s with
  | nil => cases same
  | cons d ds =>
    by_cases newline : d = '\n'
    · subst newline
      exact absurd (List.cons.inj same).1.symm other
    · rw [withReturns_cons newline] at same
      cases same
      exact ⟨ds, rfl, rfl⟩

theorem exists_of_withReturns_eq_append {key : List Char} (other : '\r' ∉ key)
    (same : withReturns s = key ++ t) : ∃ more, s = key ++ more ∧ t = withReturns more := by
  induction key generalizing s with
  | nil => exact ⟨s, rfl, same.symm⟩
  | cons c cs ih =>
    obtain ⟨here, later⟩ := not_or.1 (mt List.mem_cons.2 other)
    obtain ⟨behind, rfl, rest⟩ := exists_of_withReturns_eq_cons (Ne.symm here) same
    obtain ⟨more, rfl, rest'⟩ := ih later rest.symm
    exact ⟨more, rfl, rest'⟩

/-- No key without a return comes to the front of the text by the returns. -/
theorem withReturns_ne_append {key : List Char} (other : '\r' ∉ key)
    (unopened : ∀ rest, s ≠ key ++ rest) (rest : List Char) : withReturns s ≠ key ++ rest := by
  intro same
  obtain ⟨more, whole, -⟩ := exists_of_withReturns_eq_append other same
  exact unopened more whole

/-- Characters are dropped alike, as long as a return is dropped just if a line feed is. -/
theorem dropWhile_withReturns (alike : p '\r' = p '\n') (s : List Char) :
    (withReturns s).dropWhile p = withReturns (s.dropWhile p) := by
  induction s with
  | nil => rfl
  | cons c s ih =>
    by_cases newline : c = '\n'
    · subst newline
      cases dropped : p '\n' <;> simp [dropped, alike, ih]
    · rw [withReturns_cons newline]
      cases dropped : p c <;> simp [dropped, ih, withReturns_cons newline]

theorem takeWhile_withReturns (stop : p '\r' = false) (stop' : p '\n' = false) (s : List Char) :
    (withReturns s).takeWhile p = s.takeWhile p := by
  induction s with
  | nil => rfl
  | cons c s ih =>
    by_cases newline : c = '\n'
    · subst newline
      simp [stop, stop']
    · rw [withReturns_cons newline]
      simp [List.takeWhile_cons, ih]

theorem trimLeft_withReturns (s : List Char) :
    trimLeft (withReturns s) = withReturns (trimLeft s) :=
  dropWhile_withReturns rfl s

/-! Lines. -/

theorem returned_ne_nil {pieces : List (List Char)} (some' : pieces ≠ []) :
    returned pieces ≠ [] := by
  fun_cases returned pieces <;> simp_all

theorem joinWith_returned {pieces : List (List Char)} (each : ∀ piece ∈ pieces, '\n' ∉ piece) :
    joinWith '\n' (returned pieces) = withReturns (joinWith '\n' pieces) := by
  fun_induction returned pieces with
  | case1 => rfl
  | case2 piece =>
    rw [joinWith_singleton, withReturns_of_not_mem (each piece List.mem_cons_self)]
  | case3 piece next more ih =>
    obtain ⟨here, later⟩ := List.forall_mem_cons.1 each
    obtain ⟨first, others, split⟩ :=
      List.exists_cons_of_ne_nil (returned_ne_nil (List.cons_ne_nil next more))
    rw [split, joinWith_cons_cons, ← split, ih later, joinWith_cons_cons, withReturns_append,
      withReturns_of_not_mem here, withReturns_newline, List.append_assoc]
    rfl

theorem splitOn_withReturns (s : List Char) :
    splitOn '\n' (withReturns s) = returned (splitOn '\n' s) := by
  have each : ∀ piece ∈ splitOn '\n' s, '\n' ∉ piece := fun _ => not_mem_of_mem_splitOn
  refine splitOn_eq_iff.2 ⟨returned_ne_nil (splitOn_ne_nil _ _), ?_, ?_⟩
  · rw [joinWith_returned each, joinWith_splitOn]
  · generalize splitOn '\n' s = pieces at each
    fun_induction returned pieces with
    | case1 => simp
    | case2 piece => exact each
    | case3 piece next more ih =>
      obtain ⟨here, later⟩ := List.forall_mem_cons.1 each
      exact List.forall_mem_cons.2 ⟨by simp [here], ih later⟩

theorem map_returned {β : Type} {f : List Char → β} (blind : ∀ l, f (l ++ ['\r']) = f l)
    (pieces : List (List Char)) : (returned pieces).map f = pieces.map f := by
  fun_induction returned pieces with
  | case1 => rfl
  | case2 piece => rfl
  | case3 piece next more ih => rw [List.map_cons, ih, blind, ← List.map_cons]

/-- A function of each line and its number that keeps a return at the end keeps them all. -/
theorem map_zipIdx_returned {f : Nat → List Char → List Char}
    (keeps : ∀ n l, f n (l ++ ['\r']) = f n l ++ ['\r']) (pieces : List (List Char)) (n : Nat) :
    ((returned pieces).zipIdx n).map (fun l => f l.2 l.1) =
      returned ((pieces.zipIdx n).map fun l => f l.2 l.1) := by
  fun_induction returned pieces generalizing n with
  | case1 => rfl
  | case2 piece => rfl
  | case3 piece next more ih =>
    rw [List.zipIdx_cons, List.map_cons, ih, keeps]
    rfl

theorem dropReturns_append_return (l : List Char) : dropReturns (l ++ ['\r']) = dropReturns l := by
  simp [dropReturns]

theorem trimRight_append_return (l : List Char) : trimRight (l ++ ['\r']) = trimRight l := by
  have blank : isBlank '\r' = true := rfl
  simp [trimRight, blank]

end

end Text

open Text

def RoutineSource.withReturns (s : RoutineSource) : RoutineSource :=
  { s with text := String.ofList (Text.withReturns s.text.toList) }

/-! Annotations on lines. -/

namespace RoutineSource

variable {β : Type}

theorem lines_withReturns (s : RoutineSource) :
    s.withReturns.lines = (returned (splitOn '\n' s.text.toList)).map String.ofList := by
  rw [lines, Text.lines, withReturns, String.toList_ofList, splitOn_withReturns]

theorem map_lines_withReturns {f : String → β}
    (blind : ∀ l l' : String, dropReturns l.toList = dropReturns l'.toList → f l = f l')
    (s : RoutineSource) : s.withReturns.lines.map f = s.lines.map f := by
  rw [lines_withReturns, lines, Text.lines, List.map_map, List.map_map]
  refine map_returned (fun l => blind _ _ ?_) _
  rw [String.toList_ofList, String.toList_ofList, dropReturns_append_return]

theorem beginLine?_withReturns (s : RoutineSource) :
    s.withReturns.beginLine? = s.beginLine? := by
  have begins (r : RoutineSource) : r.beginLine? = (r.lines.map isBegin).findIdx? id := by
    rw [List.findIdx?_map]
    rfl
  rw [begins, begins, map_lines_withReturns fun l l' same => by rw [isBegin, same, isBegin]]

end RoutineSource

theorem Designation.ofSource_withReturns (s : RoutineSource) :
    ofSource s.withReturns = ofSource s := by
  have found_eq (ls : List String) : found ls =
      (ls.map ofLine?).zipIdx.filterMap fun l => l.1.map fun parts => (l.2, parts) := by
    rw [List.zipIdx_map, List.filterMap_map]
    rfl
  have same (b : Nat) : found (s.withReturns.lines.take b) = found (s.lines.take b) := by
    rw [found_eq, found_eq, List.map_take, List.map_take, RoutineSource.map_lines_withReturns]
    intro l l' alike
    rw [ofLine?, alike, ofLine?]
  have lines (begins : Option Nat) :
      ofLines s.withReturns.lines begins = ofLines s.lines begins := by
    cases begins <;> simp only [ofLines, same]
  have label : s.withReturns.label = s.label := rfl
  rw [ofSource, ofSource, RoutineSource.beginLine?_withReturns, lines, label]

theorem ListParameter.ofSource_withReturns (s : RoutineSource) (designationLine : Int) :
    ofSource s.withReturns designationLine = ofSource s designationLine := by
  have declared_eq (ls : List String) (start : Int) (stop : Nat) :
      (slice ls start stop).filterMap declaration? =
        (slice (ls.map declaration?) start stop).filterMap id := by
    rw [slice, slice, List.length_map, ← List.map_take, ← List.map_drop, List.filterMap_map]
    rfl
  have same := RoutineSource.map_lines_withReturns (f := declaration?) (fun l l' alike => by
    rw [declaration?, alike, declaration?]) s
  rw [ofSource, ofSource, RoutineSource.beginLine?_withReturns]
  simp only [declared_eq, same]
  rfl

/-! Headers. -/

namespace Header

theorem word?_withReturns {word : List Char}
    (other : ∀ letter ∈ word, isCaseOf letter '\r' = false ∧ isCaseOf letter '\n' = false)
    (s : List Char) :
    word? word (withReturns s) = (word? word s).map fun r => (r.1, withReturns r.2) := by
  induction word generalizing s with
  | nil => rfl
  | cons letter letters ih =>
    obtain ⟨⟨stop, stop'⟩, later⟩ := List.forall_mem_cons.1 other
    cases s with
    | nil => rfl
    | cons c cs =>
      by_cases newline : c = '\n'
      · subst newline
        simp [word?, stop, stop']
      · rw [withReturns_cons newline, word?, word?]
        split
        · rw [ih later, Option.map_map, Option.map_map]
          rfl
        · rfl

theorem afterBlanks?_withReturns (s : List Char) :
    afterBlanks? (withReturns s) = (afterBlanks? s).map withReturns := by
  cases s with
  | nil => rfl
  | cons c cs =>
    by_cases newline : c = '\n'
    · subst newline
      have blank : isBlank '\r' = true := rfl
      have blank' : isBlank '\n' = true := rfl
      have dropped : trimLeft ('\n' :: withReturns cs) = trimLeft (withReturns cs) :=
        List.dropWhile_cons_of_pos blank'
      rw [withReturns_newline, afterBlanks?, if_pos blank, afterBlanks?, if_pos blank', dropped,
        trimLeft_withReturns]
      rfl
    · rw [withReturns_cons newline, afterBlanks?, afterBlanks?]
      split
      · rw [trimLeft_withReturns]
        rfl
      · rfl

theorem type?_withReturns (s : List Char) :
    type? (withReturns s) = (type? s).map fun r => (r.1, withReturns r.2) := by
  have keyword (word : List Char) (known : word ∈ ["procedure".toList, "function".toList]) :
      word? word (withReturns s) = (word? word s).map fun r => (r.1, withReturns r.2) := by
    refine word?_withReturns ?_ s
    rcases List.mem_pair.1 known with rfl | rfl <;> simp [isCaseOf, otherCases]
  rw [type?, type?, keyword _ (by simp), keyword _ (by simp)]
  cases word? "procedure".toList s <;> rfl

/-- No part of a header holds a line feed, and the blanks between them are not kept. -/
theorem here?_withReturns (s : List Char) : here? (withReturns s) = here? s := by
  have named (t : List Char) : (withReturns t).takeWhile isNameChar = t.takeWhile isNameChar :=
    takeWhile_withReturns (by decide) (by decide) t
  have create (t : List Char) : word? "create".toList (withReturns t) =
      (word? "create".toList t).map fun r => (r.1, withReturns r.2) :=
    word?_withReturns (by simp [isCaseOf, otherCases]) t
  simp only [here?, create, afterBlanks?_withReturns, type?_withReturns, Option.bind_eq_bind,
    Option.bind_map, Function.comp_def, named]

theorem here?_of_other {c : Char} (other : isCaseOf 'c' c = false) (s : List Char) :
    here? (c :: s) = none := by
  have start : word? ('c' :: "reate".toList) (c :: s) = none := if_neg (by simp [other])
  have whole : "create".toList = 'c' :: "reate".toList := rfl
  rw [here?, whole, start]
  rfl

theorem search?_of_none {c : Char} {s : List Char} (none : here? (c :: s) = .none) :
    search? (c :: s) = (search? s).map fun r => (c :: r.1, r.2) := by
  rw [search?, none]

theorem search?_withReturns (s : List Char) :
    search? (withReturns s) = (search? s).map fun r => (withReturns r.1, r.2) := by
  induction s with
  | nil => rfl
  | cons c s ih =>
    by_cases newline : c = '\n'
    · subst newline
      rw [withReturns_newline, search?_of_none (here?_of_other (by decide) _),
        search?_of_none (here?_of_other (by decide) _), ih,
        search?_of_none (here?_of_other (by decide) _)]
      simp only [Option.map_map]
      rfl
    · have here := here?_withReturns (c :: s)
      rw [withReturns_cons newline] at here ⊢
      cases found : here? (c :: s) with
      | some r =>
        rw [search?, search?, here, found]
        rfl
      | none =>
        rw [found] at here
        rw [search?_of_none here, search?_of_none found, ih]
        simp only [Option.map_map, Function.comp_def, withReturns_cons newline]

theorem ofSource_withReturns (s : RoutineSource) : ofSource s.withReturns = ofSource s := by
  have same : ofText s.withReturns.text s.name = ofText s.text s.name := by
    rw [ofText, ofText, RoutineSource.withReturns, String.toList_ofList, search?_withReturns]
    cases search? s.text.toList <;> rfl
  rw [ofSource, ofSource, ← same]
  rfl

theorem leadingComment_withReturns (s : RoutineSource) :
    leadingComment s.withReturns.text =
      String.ofList (withReturns (leadingComment s.text).toList) := by
  rw [leadingComment, leadingComment, RoutineSource.withReturns, String.toList_ofList,
    search?_withReturns]
  cases search? s.text.toList with
  | none => rfl
  | some r => rw [Option.map_some, String.toList_ofList]

end Header

/-! Tokens. -/

namespace Placeholder

theorem tokens_append_return (l : List Char) : tokens (l ++ ['\r']) = tokens l := by
  rw [tokens_append_blank rfl, tokens, List.append_nil]

theorem tokens_withReturns (s : List Char) : tokens (withReturns s) = tokens s := by
  rw [← tokens_lines, splitOn_withReturns, List.flatMap_def, map_returned tokens_append_return,
    ← List.flatMap_def, tokens_lines]

theorem resolve_withReturns (s : RoutineSource) (table : ReplaceTable) :
    resolve s.withReturns table = resolve s table := by
  have same : find s.withReturns.text = find s.text := by
    rw [find, find, RoutineSource.withReturns, String.toList_ofList, tokens_withReturns]
  rw [resolve, resolve, same]
  rfl

end Placeholder

theorem Annotations.ofSource_withReturns (s : RoutineSource) (table : ReplaceTable) :
    ofSource s.withReturns table = ofSource s table := by
  rw [ofSource, ofSource, Placeholder.resolve_withReturns, Designation.ofSource_withReturns,
    Header.ofSource_withReturns]
  simp only [ListParameter.ofSource_withReturns]

/-! Documentation comments. -/

namespace DocComment

theorem afterOpening?_of_other {c : Char} {cs : List Char}
    (other : ∀ rest, c :: cs ≠ ['/', '*', '*'] ++ rest) :
    afterOpening? (c :: cs) = afterOpening? cs := by
  rw [afterOpening?]
  rintro rest rfl rfl
  exact other rest rfl

theorem afterOpening?_withReturns (s : List Char) :
    afterOpening? (withReturns s) = (afterOpening? s).map withReturns := by
  fun_induction afterOpening? s with
  | case1 rest => rfl
  | case2 c cs other ih =>
    by_cases newline : c = '\n'
    · subst newline
      rw [withReturns_newline, afterOpening?_of_other (by simp), afterOpening?_of_other (by simp),
        ih]
    · have unopened (rest : List Char) : c :: cs ≠ ['/', '*', '*'] ++ rest := by
        rintro ⟨⟩
        exact other rest rfl rfl
      have unopened' := withReturns_ne_append (by decide) unopened
      rw [withReturns_cons newline] at unopened' ⊢
      rw [afterOpening?_of_other unopened', ih]
  | case3 => rfl

theorem beforeClosing?_of_other {c : Char} {cs : List Char}
    (other : ∀ rest, c :: cs ≠ ['*', '/'] ++ rest) :
    beforeClosing? (c :: cs) = (beforeClosing? cs).map (c :: ·) := by
  rw [beforeClosing?]
  rintro rest rfl rfl
  exact other rest rfl

theorem beforeClosing?_withReturns (s : List Char) :
    beforeClosing? (withReturns s) = (beforeClosing? s).map withReturns := by
  fun_induction beforeClosing? s with
  | case1 rest => rfl
  | case2 c cs other ih =>
    by_cases newline : c = '\n'
    · subst newline
      rw [withReturns_newline, beforeClosing?_of_other (by simp),
        beforeClosing?_of_other (by simp), ih]
      simp only [Option.map_map]
      rfl
    · have unclosed (rest : List Char) : c :: cs ≠ ['*', '/'] ++ rest := by
        rintro ⟨⟩
        exact other rest rfl rfl
      have unclosed' := withReturns_ne_append (by decide) unclosed
      rw [withReturns_cons newline] at unclosed' ⊢
      rw [beforeClosing?_of_other unclosed', ih]
      simp only [Option.map_map, Function.comp_def, withReturns_cons newline]
  | case3 => rfl

theorem block?_withReturns (s : List Char) :
    block? (withReturns s) = (block? s).map withReturns := by
  rw [block?, block?, afterOpening?_withReturns, Option.bind_map, Option.map_bind]
  exact congrArg _ (funext beforeClosing?_withReturns)

/-- A return at the end of a line is a blank like others there, unless it falls to the margin. -/
theorem trimRight_dropMargin_append_return (l : List Char) :
    trimRight (dropMargin (l ++ ['\r'])) = trimRight (dropMargin l) := by
  have trimmed : trimLeft (l ++ ['\r']) =
      if trimLeft l = [] then [] else trimLeft l ++ ['\r'] := by
    simp only [trimLeft, List.dropWhile_append, List.isEmpty_iff]
    rfl
  by_cases empty : trimLeft l = []
  · rw [dropMargin, dropMargin, trimmed, if_pos empty, empty]
  · have kept : dropMargin (l ++ ['\r']) = dropMargin l ++ ['\r'] := by
      rw [dropMargin, dropMargin, trimmed, if_neg empty]
      obtain ⟨c, cs, split⟩ := List.exists_cons_of_ne_nil empty
      rw [split]
      by_cases star : c = '*'
      · subst star
        cases cs with
        | nil => rfl
        | cons d ds => by_cases space : d = ' ' <;> simp [space]
      · by_cases space : c = ' ' <;> simp [star, space]
    rw [kept, trimRight_append_return]

theorem ofText_withReturns (s : List Char) :
    ofText (String.ofList (withReturns s)) = ofText (String.ofList s) := by
  have lines (block : List Char) : blockLines (withReturns block) = blockLines block := by
    rw [blockLines, splitOn_withReturns, map_returned trimRight_dropMargin_append_return,
      blockLines]
  rw [ofText, ofText, String.toList_ofList, String.toList_ofList, block?_withReturns]
  cases block? s with
  | none => rfl
  | some block =>
    rw [Option.map_some]
    simp only [ofBlock, lines]

end DocComment

theorem RoutineDoc.build_withReturns (s : RoutineSource) (parameters : List CatalogParameter) :
    build s.withReturns parameters = build s parameters := by
  have same : comment s.withReturns = comment s := by
    rw [comment, comment, Header.leadingComment_withReturns, DocComment.ofText_withReturns,
      String.ofList_toList]
  rw [build, build, same]
  rfl

/-! Keys replaced. -/

theorem Text.dropPrefix?_append_return {key : List Char} (other : '\r' ∉ key) (s : List Char) :
    dropPrefix? key (s ++ ['\r']) = (dropPrefix? key s).map (· ++ ['\r']) := by
  induction key generalizing s with
  | nil => rfl
  | cons c cs ih =>
    obtain ⟨here, later⟩ := not_or.1 (List.mem_cons.not.1 other)
    cases s with
    | nil => exact if_neg (Ne.symm here)
    | cons d ds =>
      rw [List.cons_append, dropPrefix?, dropPrefix?]
      split
      · exact ih later ds
      · rfl

namespace Substitution

section

variable {entries : List (List Char × List Char)}

theorem match?_append_return (other : ∀ e ∈ entries, '\r' ∉ e.1) (s : List Char) :
    match? entries (s ++ ['\r']) = (match? entries s).map fun r => (r.1, r.2 ++ ['\r']) := by
  unfold match?
  induction entries with
  | nil => rfl
  | cons e es ih =>
    obtain ⟨here, later⟩ := List.forall_mem_cons.1 other
    rw [List.findSome?_cons, List.findSome?_cons, dropPrefix?_append_return here]
    by_cases empty : e.1.isEmpty = true
    · simpa [empty] using ih later
    · cases dropPrefix? e.1 s with
      | none => simpa [empty] using ih later
      | some rest => simp [empty]

/-- No key starts with a return, so one at the end of a text stays. -/
theorem replaced_append_return (other : ∀ e ∈ entries, '\r' ∉ e.1) (s : List Char) :
    replaced entries [] (s ++ ['\r']) = replaced entries [] s ++ ['\r'] := by
  induction s using replaced.induct entries with
  | case1 =>
    have none : match? entries ['\r'] = .none := by
      cases found : match? entries [] with
      | none => exact (match?_append_return other []).trans (by rw [found]; rfl)
      | some r => exact absurd (length_of_match? found) (Nat.not_lt_zero _)
    rw [List.nil_append, replaced_of_none none]
    simp [replaced]
  | case2 c cs value rest found _ ih =>
    have found' : match? entries (c :: cs ++ ['\r']) = some (value, rest ++ ['\r']) := by
      rw [match?_append_return other, found]
      rfl
    rw [replaced_of_match found', ih, replaced_of_match found, List.append_assoc]
  | case3 c cs found ih =>
    have found' : match? entries (c :: (cs ++ ['\r'])) = none := by
      rw [← List.cons_append, match?_append_return other, found]
      rfl
    rw [List.cons_append, replaced_of_none found', ih, replaced_of_none found]
    rfl

theorem newline_not_mem_replaced (flat : ∀ e ∈ entries, '\n' ∉ e.2) {s : List Char}
    (line : '\n' ∉ s) : '\n' ∉ replaced entries [] s := by
  induction s using replaced.induct entries with
  | case1 => simp [replaced]
  | case2 c cs value rest found _ ih =>
    obtain ⟨key, member, whole⟩ := match?_eq_some found
    rw [replaced_of_match found, List.mem_append, not_or]
    refine ⟨flat _ member, ih fun inside => line ?_⟩
    rw [whole]
    exact List.mem_append_right _ inside
  | case3 c cs found ih =>
    obtain ⟨here, later⟩ := not_or.1 (List.mem_cons.not.1 line)
    rw [replaced_of_none found]
    simpa [here] using ih later

end

/-- A key that a token or a constant can be: not empty, and without returns. -/
def IsLineKey (key : String) : Prop := key ≠ "" ∧ '\r' ∉ key.toList

instance (key : String) : Decidable (IsLineKey key) := inferInstanceAs (Decidable (_ ∧ _))

def OneLine (text : String) : Prop := '\n' ∉ text.toList

instance (text : String) : Decidable (OneLine text) := inferInstanceAs (Decidable (¬ _))

theorem oneLine_toString (n : Nat) : OneLine (toString n) := by
  intro inside
  have digit : Char.isDigit '\n' = true :=
    Nat.isDigit_of_mem_toDigits (b := 10) (by decide) (by decide) (by simpa using inside)
  exact absurd digit (by decide)

section

variable {placeholders constants : Table}
  (keyed : ∀ e ∈ placeholders, IsLineKey e.1 ∧ OneLine e.2)
  (keyed' : ∀ e ∈ constants, IsLineKey e.1 ∧ OneLine e.2)

include keyed keyed'

theorem lineTable_oneLine (number : Nat) :
    ∀ e ∈ lineTable placeholders constants number, IsLineKey e.1 ∧ OneLine e.2 :=
  Assoc.forall_mem_put (Assoc.forall_mem_putAll keyed keyed') (by decide) (oneLine_toString number)

theorem toList_replaceAll_lineTable (number : Nat) (l : List Char) :
    (replaceAll (lineTable placeholders constants number) (String.ofList l)).toList =
      replaced (entries (lineTable placeholders constants number)) [] l := by
  rw [replaceAll_of_nonempty, String.toList_ofList, String.toList_ofList]
  rintro k member
  obtain ⟨e, place, rfl⟩ := List.mem_map.1 member
  exact (lineTable_oneLine keyed keyed' number e place).1.1

theorem unlines_lines_returned {pieces : List (List Char)} (each : ∀ l ∈ pieces, '\n' ∉ l) :
    Text.unlines (lines placeholders constants ((returned pieces).map String.ofList)) =
      String.ofList (Text.withReturns
        (Text.unlines (lines placeholders constants (pieces.map String.ofList))).toList) := by
  -- No key has a return and no value a line feed, so replacing works on each line by itself.
  have parts (number : Nat) :
      ∀ e ∈ entries (lineTable placeholders constants number), '\r' ∉ e.1 ∧ '\n' ∉ e.2 := by
    intro e member
    have kept := lineTable_oneLine keyed keyed' number _ (mem_entries.1 member).2
    exact ⟨by simpa using kept.1.2, by simpa [OneLine] using kept.2⟩
  have lists (ls : List (List Char)) :
      (lines placeholders constants (ls.map String.ofList)).map String.toList =
        ls.zipIdx.map fun l =>
          replaced (entries (lineTable placeholders constants (l.2 + 1))) [] l.1 := by
    rw [lines, List.zipIdx_map, List.map_map, List.map_map]
    exact List.map_congr_left fun l _ => toList_replaceAll_lineTable keyed keyed' _ _
  rw [Text.unlines, Text.unlines, lists, lists, String.toList_ofList,
    map_zipIdx_returned (f := fun n l =>
      replaced (entries (lineTable placeholders constants (n + 1))) [] l)
      fun n l => replaced_append_return (fun e member => (parts _ e member).1) l,
    joinWith_returned]
  intro l member
  obtain ⟨⟨piece, n⟩, place, rfl⟩ := List.mem_map.1 member
  exact newline_not_mem_replaced (fun e member => (parts _ e member).2)
    (each piece (List.fst_mem_of_mem_zipIdx place))

end

theorem isLineKey_of_sourceConstants {quote : String → String} {directory : List String}
    {source : RoutineSource} {name : String} {constants : Table}
    (made : sourceConstants quote directory source name = .ok constants) :
    ∀ e ∈ constants, IsLineKey e.1 := by
  unfold sourceConstants at made
  split at made
  · cases made
    simp only [List.forall_mem_cons]
    decide
  · cases made

end Substitution

theorem Substitution.source_withReturns {quote : String → String} {directory : List String}
    {s : RoutineSource} {name : String} {placeholders : Table}
    (keyed : ∀ e ∈ placeholders, IsLineKey e.1 ∧ OneLine e.2)
    (valued : ∀ constants, sourceConstants quote directory s name = .ok constants →
      ∀ e ∈ constants, OneLine e.2) :
    source quote directory s.withReturns name placeholders =
      (source quote directory s name placeholders).map fun text =>
        String.ofList (Text.withReturns text.toList) := by
  have same : sourceConstants quote directory s.withReturns name =
      sourceConstants quote directory s name := rfl
  rw [source, source, same]
  cases made : sourceConstants quote directory s name with
  | error f => rfl
  | ok constants =>
    have keyed' : ∀ e ∈ constants, IsLineKey e.1 ∧ OneLine e.2 := fun e member =>
      ⟨isLineKey_of_sourceConstants made e member, valued constants made e member⟩
    have each : ∀ l ∈ splitOn '\n' s.text.toList, '\n' ∉ l := fun _ => not_mem_of_mem_splitOn
    rw [RoutineSource.lines_withReturns]
    exact congrArg Except.ok (unlines_lines_returned keyed keyed' each)

theorem Placeholder.isLineKey_of_resolve {s : RoutineSource} {table : ReplaceTable}
    {placeholders : List (String × String)} (resolved : resolve s table = .ok placeholders) :
    ∀ e ∈ placeholders, Substitution.IsLineKey e.1 := by
  intro e member
  have token := isToken_of_mem_tokens (mem_find.1 ((mem_placeholders resolved).1 member).1)
  refine ⟨fun empty => token.ne_nil (by rw [empty]; rfl), fun inside => ?_⟩
  have unblank := token.no_blank _ inside
  cases unblank

/-- Line ends do not matter. With a carriage return in front of every line feed, a source has the
same annotations or the same fault, and it is documented the same, with the same warnings.
Substitution keeps the returns where they are, if no value that it puts in holds a line feed. Its
keys may be any that are not empty and hold no return, as those of resolved placeholders are. -/
theorem line_ends_do_not_matter (source : RoutineSource) (table : ReplaceTable)
    (parameters : List CatalogParameter) :
    Annotations.ofSource source.withReturns table = Annotations.ofSource source table ∧
    RoutineDoc.build source.withReturns parameters = RoutineDoc.build source parameters ∧
    (∀ placeholders, Placeholder.resolve source table = .ok placeholders →
      ∀ e ∈ placeholders, Substitution.IsLineKey e.1) ∧
    ∀ quote directory name (placeholders : Substitution.Table),
      (∀ e ∈ placeholders, Substitution.IsLineKey e.1 ∧ Substitution.OneLine e.2) →
      (∀ constants, Substitution.sourceConstants quote directory source name = .ok constants →
        ∀ e ∈ constants, Substitution.OneLine e.2) →
      Substitution.source quote directory source.withReturns name placeholders =
        (Substitution.source quote directory source name placeholders).map fun text =>
          String.ofList (Text.withReturns text.toList) :=
  ⟨Annotations.ofSource_withReturns source table, RoutineDoc.build_withReturns source parameters,
    fun _ => Placeholder.isLineKey_of_resolve, fun _ _ _ _ => Substitution.source_withReturns⟩

def twoLines : RoutineSource := ⟨Path.ofString "r.psql", ".psql", "@a@;\n__LINE__", 0⟩

theorem returns_of_twoLines_kept :
    Placeholder.resolve twoLines [("@A@", .text "x")] = .ok [("@a@", "x")] ∧
    Substitution.source id [] twoLines "r" [("@a@", "x")] = .ok "x;\n2" ∧
    Substitution.source id [] twoLines.withReturns "r" [("@a@", "x")] = .ok "x;\r\n2" := by
  have resolved : Placeholder.resolve twoLines [("@A@", .text "x")] = .ok [("@a@", "x")] := by
    decide +kernel
  have filled : Substitution.source id [] twoLines "r" [("@a@", "x")] = .ok "x;\n2" := by
    rw [Substitution.source_of_resolved resolved]
    decide +kernel
  have constants : Substitution.sourceConstants id [] twoLines "r" =
      .ok [("__FILE__", "/r.psql"), ("__ROUTINE__", "r"), ("__DIR__", "/")] := by decide +kernel
  refine ⟨resolved, filled, ?_⟩
  refine ((line_ends_do_not_matter twoLines [] []).2.2.2 id [] "r" _ (by decide) ?_).trans ?_
  · rintro _ made
    rw [constants] at made
    cases made
    decide
  · rw [filled]
    decide +kernel

end StoredRoutines
