import StoredRoutines.Proofs.AnnotationLines
import StoredRoutines.Proofs.Outcomes
import StoredRoutines.Proofs.SourceTexts

/-!
The forms of a designation. A source has a designation exactly if one line in front of its body, and
no other, is a designation line, and what stands there between blanks is written in one of three
forms: a bulk insert with its table and its columns, a keyed designation with its columns, or one
word. Nothing from the beginning of the body on matters. A column of a bulk insert may be empty,
which its documented form does not allow and a keyed designation does not have.
-/

namespace StoredRoutines

open Outcomes

namespace Designation

open Text

/-- A plain name, as tables and columns have it. -/
def PlainName (name : List Char) : Prop := name ≠ [] ∧ ∀ c ∈ name, isPlain c = true

theorem PlainName.unbroken {name : List Char} (h : PlainName name) : Unbroken name :=
  ⟨h.1, fun c member => not_isBlank_of_isPlain (h.2 c member)⟩

def StartsPlain (s : List Char) : Prop := ∃ c cs, s = c :: cs ∧ isPlain c = true

theorem PlainName.startsPlain {name : List Char} (h : PlainName name) (rest : List Char) :
    StartsPlain (name ++ rest) := by
  obtain ⟨c, cs, rfl⟩ := List.exists_cons_of_ne_nil h.1
  exact ⟨c, cs ++ rest, rfl, h.2 c List.mem_cons_self⟩

theorem StartsPlain.startsTight {s : List Char} (h : StartsPlain s) : StartsTight s := by
  obtain ⟨c, cs, rfl, plain⟩ := h
  intro d first
  exact Option.some.inj first ▸ not_isBlank_of_isPlain plain

/-- A list with commas between the columns, and perhaps blanks around the commas. -/
inductive Listed : List (List Char) → List Char → Prop
  | one (column : List Char) : Listed [column] column
  | more {column before after list : List Char} {columns : List (List Char)}
      (blank : Blank before) (blank' : Blank after) (others : Listed columns list) :
      Listed (column :: columns) (column ++ (before ++ ',' :: (after ++ list)))

/-- The text writes the designation. The columns of a bulk insert stand between commas without
blanks, and each of them may be empty. -/
inductive Written : List Char → Designation → Prop
  | bulkInsert {gap table gap' : List Char} {columns : List (List Char)} (apart : Gap gap)
      (named : PlainName table) (apart' : Gap gap') (some' : joinWith ',' columns ≠ [])
      (plain : ∀ column ∈ columns, ∀ c ∈ column, isPlain c = true) :
      Written (bulkInsertName.toList ++ (gap ++ (table ++ (gap' ++ joinWith ',' columns))))
        (.bulkInsert (String.ofList table) (columns.map String.ofList))
  | keyed (keying : Keying) {gap list : List Char} {columns : List (List Char)} (apart : Gap gap)
      (named : ∀ column ∈ columns, PlainName column) (listed : Listed columns list) :
      Written ((Keying.name keying).toList ++ (gap ++ list))
        (.keyed keying (columns.map String.ofList))
  | plain {name : List Char} (some' : name ≠ []) (word : ∀ c ∈ name, isWord c = true)
      (other : String.ofList name ≠ bulkInsertName)
      (other' : ∀ keying, String.ofList name ≠ Keying.name keying) :
      Written name (.plain (String.ofList name))

/-- The line is a designation line: blanks may stand behind its mark, and then a word starts. -/
def IsDesignationLine (line : String) : Prop :=
  ∃ lead c more, Annotates "type:".toList line (lead ++ c :: more) ∧ Blank lead ∧ isWord c = true

/-- The lines have the designation at the index: there is one designation line in front of the body,
and it writes the designation. -/
def Designates (lines : List String) (d : Designation) (i : Nat) : Prop :=
  ∃ above line below lead text trail,
    Opens lines (above ++ line :: below) ∧ above.length = i ∧
    (∀ l ∈ above ++ below, ¬ IsDesignationLine l) ∧
    Annotates "type:".toList line (lead ++ (text ++ trail)) ∧ Blank lead ∧ Blank trail ∧
    Written text d

/-! The arguments of a bulk insert. -/

section

variable {args : List Char}

theorem splitsInto_pair {u v : List Char} (starts : StartsTight args) (ends : EndsTight args)
    (split : SplitsInto args [u, v]) :
    ∃ gap, args = u ++ (gap ++ v) ∧ Unbroken u ∧ Gap gap ∧ Unbroken v := by
  obtain _ | @⟨lead, _, _, _, blank, word, stop, more⟩ := split
  obtain _ | @⟨gap, _, trail, _, blank', word', stop', last⟩ := more
  obtain ⟨blank''⟩ := last
  obtain rfl : lead = [] := by
    by_contra some'
    obtain ⟨c, cs, rfl⟩ := List.exists_cons_of_ne_nil some'
    exact absurd (starts c rfl) (by simp [blank c List.mem_cons_self])
  obtain rfl : trail = [] := by
    by_contra some'
    have last : trail.getLast some' ∈ ([] ++ (u ++ (gap ++ (v ++ trail)))).getLast? := by
      simp [List.getLast?_append, List.getLast?_eq_some_getLast some']
    exact absurd (ends _ last) (by simp [blank'' _ (List.getLast_mem some')])
  refine ⟨gap, by simp, word, ⟨?_, blank'⟩, word'⟩
  rintro rfl
  obtain ⟨c, cs, rfl⟩ := List.exists_cons_of_ne_nil word'.1
  exact absurd (stop c rfl) (by simp [word'.2 c List.mem_cons_self])

theorem isColumnListChar_iff {c : Char} :
    isColumnListChar c = true ↔ isPlain c = true ∨ c = ',' := by
  rw [isColumnListChar, Bool.or_eq_true, decide_eq_true_eq]

theorem plain_of_mem_splitOn {list column : List Char}
    (allowed : ∀ c ∈ list, isColumnListChar c = true) (member : column ∈ splitOn ',' list) :
    ∀ c ∈ column, isPlain c = true := by
  intro c inside
  have there : c ∈ list := by
    rw [← joinWith_splitOn ',' list]
    exact mem_joinWith member inside
  refine (isColumnListChar_iff.1 (allowed c there)).resolve_right ?_
  rintro rfl
  exact not_mem_of_mem_splitOn member inside

section

variable {columns : List (List Char)} (plain : ∀ column ∈ columns, ∀ c ∈ column, isPlain c = true)
include plain

theorem isColumnListChar_of_mem_joinWith {c : Char} (inside : c ∈ joinWith ',' columns) :
    isColumnListChar c = true := by
  rw [isColumnListChar_iff]
  rcases eq_or_mem_of_mem_joinWith inside with comma | ⟨column, member, there⟩
  · exact .inr comma
  · exact .inl (plain column member c there)

theorem not_isBlank_of_mem_joinWith {c : Char} (inside : c ∈ joinWith ',' columns) :
    isBlank c = false := by
  rcases isColumnListChar_iff.1 (isColumnListChar_of_mem_joinWith plain inside) with plain | rfl
  · exact not_isBlank_of_isPlain plain
  · decide

theorem splitOn_joinWith_of_plain (some' : joinWith ',' columns ≠ []) :
    splitOn ',' (joinWith ',' columns) = columns := by
  refine splitOn_eq_iff.2 ⟨?_, rfl, fun column member comma => ?_⟩
  · rintro rfl
    exact some' rfl
  · exact absurd (plain column member _ comma) (by decide)

end

theorem bulkArguments?_eq_some_iff (starts : StartsTight args) (ends : EndsTight args) {t : String}
    {cs : List String} : bulkArguments? (String.ofList args) = some (t, cs) ↔
      ∃ table gap columns, PlainName table ∧ Gap gap ∧ joinWith ',' columns ≠ [] ∧
        (∀ column ∈ columns, ∀ c ∈ column, isPlain c = true) ∧
        args = table ++ (gap ++ joinWith ',' columns) ∧ String.ofList table = t ∧
        columns.map String.ofList = cs := by
  unfold bulkArguments?
  rw [String.toList_ofList]
  constructor
  · intro read
    split at read
    · rename_i table list split'
      obtain ⟨gap, rfl, word, apart, word'⟩ := splitsInto_pair starts ends (words_eq_iff.1 split')
      split at read
      · rename_i plain
        rw [Bool.and_eq_true, List.all_eq_true, List.all_eq_true] at plain
        cases read
        refine ⟨table, gap, splitOn ',' list, ⟨word.1, plain.1⟩, apart, ?_,
          fun _ => plain_of_mem_splitOn plain.2, ?_, rfl, rfl⟩
        · rw [joinWith_splitOn]
          exact word'.1
        · rw [joinWith_splitOn]
      · cases read
    · cases read
  · rintro ⟨table, gap, columns, named, apart, some', plain, rfl, rfl, rfl⟩
    have unbroken : Unbroken (joinWith ',' columns) :=
      ⟨some', fun _ => not_isBlank_of_mem_joinWith plain⟩
    have stop : ∀ c ∈ (gap ++ (joinWith ',' columns ++ [])).head?, isBlank c = true := by
      obtain ⟨c, cs, rfl⟩ := List.exists_cons_of_ne_nil apart.1
      intro d first
      exact Option.some.inj first ▸ apart.2 c List.mem_cons_self
    have split : SplitsInto ([] ++ (table ++ (gap ++ (joinWith ',' columns ++ []))))
        [table, joinWith ',' columns] :=
      .word blank_nil named.unbroken stop
        (.word apart.2 unbroken (by simp) (.blank blank_nil))
    rw [List.nil_append, List.append_nil] at split
    have allowed : ∀ c ∈ joinWith ',' columns, isColumnListChar c = true :=
      fun _ => isColumnListChar_of_mem_joinWith plain
    rw [words_eq_iff.2 split]
    simp only [List.all_eq_true.2 named.2, List.all_eq_true.2 allowed, Bool.and_self, ↓reduceIte,
      splitOn_joinWith_of_plain plain some']

/-! The columns of a keyed designation. -/

/-- Trimming all pieces undoes the blanks around the commas, whatever blanks stand in front. -/
theorem Listed.splitOn_trim {columns : List (List Char)} {list : List Char}
    (listed : Listed columns list) (named : ∀ column ∈ columns, PlainName column)
    {lead : List Char} (blank : Blank lead) :
    (splitOn ',' (lead ++ list)).map trim = columns := by
  have no_comma {s : List Char} (h : Blank s) : ',' ∉ s :=
    fun inside => absurd (h _ inside) (by decide)
  have alone {column before : List Char} (h : PlainName column) (trailing : Blank before)
      {front : List Char} (leading : Blank front) :
      ',' ∉ front ++ (column ++ before) ∧ trim (front ++ (column ++ before)) = column := by
    refine ⟨?_, trim_eq_iff.2 ⟨front, before, leading, trailing, rfl,
      startsTight_of_unbroken h.unbroken.2, endsTight_of_unbroken h.unbroken.2⟩⟩
    have inner : ',' ∉ column := fun inside => absurd (h.2 _ inside) (by decide)
    simp [no_comma leading, no_comma trailing, inner]
  induction listed generalizing lead with
  | one column =>
    obtain ⟨free, trimmed⟩ := alone (named column (by simp)) blank_nil blank
    rw [List.append_nil] at free trimmed
    rw [splitOn_of_not_mem free, List.map_singleton, trimmed]
  | @more column before after list columns blank' blank'' others ih =>
    obtain ⟨here, later⟩ := List.forall_mem_cons.1 named
    obtain ⟨free, trimmed⟩ := alone here blank' blank
    have whole : lead ++ (column ++ (before ++ ',' :: (after ++ list))) =
        (lead ++ (column ++ before)) ++ ',' :: (after ++ list) := by simp
    rw [whole, splitOn_append_cons free, List.map_cons, trimmed, ih later blank'']

theorem listed_trim (piece : List Char) (pieces : List (List Char)) :
    ∃ lead list trail, joinWith ',' (piece :: pieces) = lead ++ (list ++ trail) ∧ Blank lead ∧
      Blank trail ∧ Listed ((piece :: pieces).map trim) list := by
  obtain ⟨lead, trail, blank, blank', split, -⟩ := exists_trim piece
  induction pieces generalizing piece lead trail with
  | nil =>
    refine ⟨lead, trim piece, trail, ?_, blank, blank', .one _⟩
    rw [joinWith_singleton, ← split]
  | cons next more ih =>
    obtain ⟨_, _, blankₙ, blankₙ', splitₙ, -⟩ := exists_trim next
    obtain ⟨after, list, trail', joined, blank₁, blank₂, listed⟩ :=
      ih next _ _ blankₙ blankₙ' splitₙ
    refine ⟨lead, trim piece ++ (trail ++ ',' :: (after ++ list)), trail', ?_, blank, blank₂,
      .more blank' blank₁ listed⟩
    rw [joinWith_cons_cons, joined]
    nth_rewrite 1 [split]
    simp

theorem Listed.startsPlain {columns : List (List Char)} {list : List Char}
    (listed : Listed columns list) (named : ∀ column ∈ columns, PlainName column) :
    StartsPlain list := by
  cases listed with
  | one =>
    have starts := (named list (by simp)).startsPlain []
    rwa [List.append_nil] at starts
  | more _ _ _ => exact (named _ List.mem_cons_self).startsPlain _

theorem Listed.endsTight {columns : List (List Char)} {list : List Char}
    (listed : Listed columns list) (named : ∀ column ∈ columns, PlainName column) :
    EndsTight list ∧ list ≠ [] := by
  induction listed with
  | one => exact ⟨endsTight_of_unbroken (named _ (by simp)).unbroken.2, (named _ (by simp)).1⟩
  | @more column before after list columns _ _ _ ih =>
    obtain ⟨ends, some'⟩ := ih (List.forall_mem_cons.1 named).2
    refine ⟨?_, by simp⟩
    have whole : column ++ (before ++ ',' :: (after ++ list)) =
        (column ++ (before ++ ',' :: after)) ++ list := by simp
    rw [whole]
    exact ends.append some' _

theorem columnArguments?_eq_some_iff (starts : StartsTight args) (ends : EndsTight args)
    {cs : List String} : columnArguments? (String.ofList args) = some cs ↔
      ∃ columns, (∀ column ∈ columns, PlainName column) ∧ Listed columns args ∧
        columns.map String.ofList = cs := by
  unfold columnArguments?
  simp only [String.toList_ofList]
  have good (columns : List (List Char)) :
      (columns.all fun c => !c.isEmpty && c.all isPlain) = true ↔
        ∀ column ∈ columns, PlainName column := by
    simp [PlainName]
  constructor
  · intro read
    split at read
    · rename_i named
      rw [good] at named
      cases read
      refine ⟨_, named, ?_, rfl⟩
      obtain ⟨piece, pieces, cut⟩ := List.exists_cons_of_ne_nil (splitOn_ne_nil ',' args)
      obtain ⟨lead, list, trail, joined, blank, blank', listed⟩ := listed_trim piece pieces
      rw [← cut] at joined listed
      rw [joinWith_splitOn] at joined
      -- Both texts are tight and differ by blanks around them only.
      have whole : trim args = list := trim_eq_iff.2
        ⟨lead, trail, blank, blank', joined,
          (listed.startsPlain named).startsTight, (listed.endsTight named).1⟩
      have self : trim args = args :=
        trim_eq_iff.2 ⟨[], [], blank_nil, blank_nil, by simp, starts, ends⟩
      rwa [← whole, self] at listed
    · cases read
  · rintro ⟨columns, named, listed, rfl⟩
    have cut := listed.splitOn_trim named blank_nil
    rw [List.nil_append] at cut
    rw [cut, if_pos ((good columns).2 named)]

end

/-! The name and the arguments on a line. -/

section

variable {word tail : List Char} {d : Designation}

theorem gap_of_stop {lead args trail : List Char} (blank : Blank lead) (starts : StartsPlain args)
    (stop : ∀ c ∈ (lead ++ (args ++ trail)).head?, isWord c = false) : Gap lead := by
  refine ⟨?_, blank⟩
  rintro rfl
  obtain ⟨c, cs, rfl, plain⟩ := starts
  have none := stop c rfl
  rw [isWord_of_isPlain plain] at none
  cases none

theorem eq_name_of_keyed {name : String}
    (keyed : name = Keying.name .key ∨ name = Keying.name .index) :
    name = Keying.name (if name = Keying.name .key then .key else .index) := by
  rcases keyed with rfl | rfl <;> rfl

theorem exists_written_of_ofParts (some' : word ≠ []) (word' : ∀ c ∈ word, isWord c = true)
    (stop : ∀ c ∈ tail.head?, isWord c = false)
    (parts : ofParts (String.ofList word) (String.ofList (trim tail)) = .ok d) :
    ∃ text trail, word ++ tail = text ++ trail ∧ Blank trail ∧ Written text d := by
  obtain ⟨lead, trail, blank, blank', split, starts, ends⟩ := exists_trim tail
  rw [split] at stop ⊢
  unfold ofParts at parts
  split at parts
  · rename_i bulk
    split at parts
    · rename_i read
      cases parts
      obtain ⟨table, gap, columns, named, gap', filled, plain, args, rfl, rfl⟩ :=
        (bulkArguments?_eq_some_iff starts ends).1 read
      rw [args] at stop ⊢
      have apart := gap_of_stop blank (named.startsPlain _) stop
      refine ⟨_, trail, ?_, blank', .bulkInsert apart named gap' filled plain⟩
      rw [← bulk, String.toList_ofList]
      simp
    · cases parts
  · rename_i not_bulk
    split at parts
    · rename_i keyed
      split at parts
      · rename_i read
        cases parts
        obtain ⟨columns, named, listed, rfl⟩ := (columnArguments?_eq_some_iff starts ends).1 read
        have apart := gap_of_stop blank (listed.startsPlain named) stop
        refine ⟨_, trail, ?_, blank', .keyed _ apart named listed⟩
        rw [← eq_name_of_keyed keyed, String.toList_ofList]
        simp
      · cases parts
    · rename_i not_keyed
      split at parts
      · rename_i none
        cases parts
        have empty : trim tail = [] := by simpa using none
        rw [empty]
        refine ⟨word, lead ++ ([] ++ trail), rfl, blank.append (by simpa using blank'), ?_⟩
        refine .plain some' word' not_bulk fun keying same => not_keyed ?_
        cases keying
        · exact .inl same
        · exact .inr same
      · cases parts

theorem ofParts_of_written (word' : ∀ c ∈ word, isWord c = true)
    (stop : ∀ c ∈ tail.head?, isWord c = false) {text trail : List Char}
    (whole : word ++ tail = text ++ trail) (blank : Blank trail) (written : Written text d) :
    ofParts (String.ofList word) (String.ofList (trim tail)) = .ok d := by
  cases written with
  | @bulkInsert gap table gap' columns apart named apart' filled plain =>
    have named_bulk : ∀ c ∈ bulkInsertName.toList, isWord c = true :=
      List.all_eq_true.1 (by decide)
    have spread : word ++ tail =
        bulkInsertName.toList ++ (gap ++ ((table ++ (gap' ++ joinWith ',' columns)) ++ trail)) := by
      rw [whole]
      simp
    -- Both are the longest word at the start of one text.
    obtain ⟨rfl, rfl⟩ := longest_word_unique spread word' named_bulk stop (apart.stops _)
    have starts := (named.startsPlain (gap' ++ joinWith ',' columns)).startsTight
    have ends : EndsTight (table ++ (gap' ++ joinWith ',' columns)) := by
      rw [← List.append_assoc]
      exact EndsTight.append
        (endsTight_of_unbroken fun _ => not_isBlank_of_mem_joinWith plain) filled _
    have trimmed := trim_eq_iff.2 ⟨gap, trail, apart.2, blank, rfl, starts, ends⟩
    have read := (bulkArguments?_eq_some_iff starts ends).2
      ⟨table, gap', columns, named, apart', filled, plain, rfl, rfl, rfl⟩
    rw [trimmed, String.ofList_toList, ofParts, if_pos rfl, read]
  | @keyed keying gap list columns apart named listed =>
    have named_keyed : ∀ c ∈ (Keying.name keying).toList, isWord c = true := by
      cases keying <;> exact List.all_eq_true.1 (by decide)
    have spread : word ++ tail = (Keying.name keying).toList ++ (gap ++ (list ++ trail)) := by
      rw [whole]
      simp
    obtain ⟨rfl, rfl⟩ := longest_word_unique spread word' named_keyed stop (apart.stops _)
    have starts := (listed.startsPlain named).startsTight
    have ends := (listed.endsTight named).1
    have trimmed := trim_eq_iff.2 ⟨gap, trail, apart.2, blank, rfl, starts, ends⟩
    have read := (columnArguments?_eq_some_iff starts ends).2 ⟨columns, named, listed, rfl⟩
    rw [trimmed, String.ofList_toList, ofParts, read]
    cases keying <;> rfl
  | plain some' word'' not_bulk not_keyed =>
    obtain ⟨rfl, rfl⟩ := longest_word_unique whole word' word'' stop blank.stops
    have trimmed : trim tail = [] :=
      trim_eq_iff.2 ⟨tail, [], blank, blank_nil, by simp, by simp [StartsTight],
        by simp [EndsTight]⟩
    have neither : ¬ (String.ofList word = Keying.name .key ∨
        String.ofList word = Keying.name .index) :=
      not_or.2 ⟨not_keyed .key, not_keyed .index⟩
    rw [trimmed, ofParts, if_neg not_bulk, if_neg neither]
    rfl

end

theorem Written.exists_first {text : List Char} {d : Designation} (h : Written text d) :
    ∃ c cs, text = c :: cs ∧ isWord c = true := by
  cases h with
  | bulkInsert => exact ⟨'b', _, rfl, by decide⟩
  | keyed keying => cases keying <;> exact ⟨'r', _, rfl, by decide⟩
  | plain some' word =>
    obtain ⟨c, cs, rfl⟩ := List.exists_cons_of_ne_nil some'
    exact ⟨c, cs, rfl, word c List.mem_cons_self⟩

/-! Designation lines. -/

theorem annotates_type_iff {line : String} {rest : List Char} :
    Annotates "type:".toList line rest ↔
      afterMark? "type:".toList (dropReturns line.toList) = some rest :=
  annotates_iff (by decide) (by
    intro c first
    rw [← Option.some.inj first]
    decide)

/-- What is read on a designation line: its longest first word, and the rest without blanks. -/
theorem ofLine?_eq_some_iff {line : String} {parts : String × String} :
    ofLine? line = some parts ↔ ∃ lead word tail,
      Annotates "type:".toList line (lead ++ (word ++ tail)) ∧ Blank lead ∧ word ≠ [] ∧
      (∀ c ∈ word, isWord c = true) ∧ (∀ c ∈ tail.head?, isWord c = false) ∧
      parts = (String.ofList word, String.ofList (trim tail)) := by
  unfold ofLine?
  constructor
  · intro read
    split at read
    · cases read
    · rename_i rest marked
      obtain ⟨lead, blank, split, -⟩ := exists_trimLeft rest
      simp only at read
      split at read
      · cases read
      · rename_i some'
        cases read
        refine ⟨lead, (trimLeft rest).takeWhile isWord, (trimLeft rest).dropWhile isWord, ?_, blank,
          by simpa using some', fun _ => List.mem_takeWhile_imp, not_head?_dropWhile _ _, rfl⟩
        rw [List.takeWhile_append_dropWhile, ← split]
        exact annotates_type_iff.2 marked
  · rintro ⟨lead, word, tail, annotated, blank, some', word', stop, rfl⟩
    have starts : StartsTight (word ++ tail) :=
      StartsTight.append (startsTight_of_unbroken fun c member => not_isBlank_of_isWord
        (word' c member)) some' _
    have behind : trimLeft (lead ++ (word ++ tail)) = word ++ tail :=
      trimLeft_eq_iff.2 ⟨lead, blank, rfl, starts⟩
    simp only [annotates_type_iff.1 annotated, behind, takeWhile_append_of_stop word' stop,
      dropWhile_append_of_stop word' stop]
    simp [some']

theorem isDesignationLine_iff {line : String} :
    IsDesignationLine line ↔ (ofLine? line).isSome = true := by
  constructor
  · rintro ⟨lead, c, more, annotated, blank, first⟩
    have split : c :: more = (c :: more).takeWhile isWord ++ (c :: more).dropWhile isWord :=
      List.takeWhile_append_dropWhile.symm
    have some' : (c :: more).takeWhile isWord ≠ [] := by simp [first]
    rw [split] at annotated
    rw [ofLine?_eq_some_iff.2 ⟨lead, _, _, annotated, blank, some',
      fun _ => List.mem_takeWhile_imp, not_head?_dropWhile _ _, rfl⟩]
    rfl
  · intro found
    obtain ⟨parts, read⟩ := Option.isSome_iff_exists.1 found
    obtain ⟨lead, word, tail, annotated, blank, some', word', -⟩ := ofLine?_eq_some_iff.1 read
    obtain ⟨c, cs, rfl⟩ := List.exists_cons_of_ne_nil some'
    exact ⟨lead, c, cs ++ tail, annotated, blank, word' c List.mem_cons_self⟩

/-- A line has a designation exactly if it is written between blanks behind the mark. -/
theorem exists_parts_iff {line : String} {d : Designation} :
    (∃ parts, ofLine? line = some parts ∧ ofParts parts.1 parts.2 = .ok d) ↔
      ∃ lead text trail, Annotates "type:".toList line (lead ++ (text ++ trail)) ∧ Blank lead ∧
        Blank trail ∧ Written text d := by
  constructor
  · rintro ⟨parts, read, designated⟩
    obtain ⟨lead, word, tail, annotated, blank, some', word', stop, rfl⟩ :=
      ofLine?_eq_some_iff.1 read
    obtain ⟨text, trail, same, blank', written⟩ :=
      exists_written_of_ofParts some' word' stop designated
    exact ⟨lead, text, trail, same ▸ annotated, blank, blank', written⟩
  · rintro ⟨lead, text, trail, annotated, blank, blank', written⟩
    obtain ⟨c, cs, first, word⟩ := written.exists_first
    have split := (List.takeWhile_append_dropWhile (p := isWord) (l := text ++ trail)).symm
    have some' : (text ++ trail).takeWhile isWord ≠ [] := by simp [first, word]
    rw [split] at annotated
    exact ⟨_, ofLine?_eq_some_iff.2 ⟨lead, _, _, annotated, blank, some',
      fun _ => List.mem_takeWhile_imp, not_head?_dropWhile _ _, rfl⟩,
      ofParts_of_written (fun _ => List.mem_takeWhile_imp) (not_head?_dropWhile _ _) split.symm
        blank' written⟩

/-! The one designation line. -/

theorem filterMap_zipIdx_eq_nil_iff {lines : List String} (k : Nat) :
    ((lines.zipIdx k).filterMap fun l => (ofLine? l.1).map fun parts => (l.2, parts)) = [] ↔
      ∀ l ∈ lines, ofLine? l = none := by
  induction lines generalizing k with
  | nil => simp
  | cons l ls ih =>
    rw [List.zipIdx_cons, List.filterMap_cons, List.forall_mem_cons, ← ih (k + 1)]
    cases read : ofLine? l <;> simp

theorem filterMap_zipIdx_eq_singleton_iff {lines : List String} {k i : Nat}
    {parts : String × String} :
    ((lines.zipIdx k).filterMap fun l => (ofLine? l.1).map fun parts => (l.2, parts)) =
        [(i, parts)] ↔
      ∃ above line below, lines = above ++ line :: below ∧ k + above.length = i ∧
        ofLine? line = some parts ∧ ∀ l ∈ above ++ below, ofLine? l = none := by
  induction lines generalizing k with
  | nil => simp
  | cons l ls ih =>
    rw [List.zipIdx_cons, List.filterMap_cons]
    cases read : ofLine? l with
    | none =>
      simp only [Option.map_none, ih]
      constructor
      · rintro ⟨above, line, below, rfl, rfl, read', others⟩
        refine ⟨l :: above, line, below, rfl, by simp only [List.length_cons]; omega, read', ?_⟩
        exact List.forall_mem_cons.2 ⟨read, others⟩
      · rintro ⟨above, line, below, split, rfl, read', others⟩
        cases above with
        | nil =>
          obtain ⟨rfl, rfl⟩ := List.cons.inj split
          rw [read] at read'
          cases read'
        | cons a above =>
          obtain ⟨rfl, rfl⟩ := List.cons.inj split
          exact ⟨above, line, below, rfl, by simp only [List.length_cons]; omega, read',
            (List.forall_mem_cons.1 others).2⟩
    -- The line itself is the one, so nothing may be found behind it.
    | some found =>
      simp only [Option.map_some, List.cons.injEq, Prod.mk.injEq]
      constructor
      · rintro ⟨⟨rfl, rfl⟩, none⟩
        exact ⟨[], l, ls, rfl, rfl, read, (filterMap_zipIdx_eq_nil_iff _).1 none⟩
      · rintro ⟨above, line, below, split, rfl, read', others⟩
        cases above with
        | nil =>
          obtain ⟨rfl, rfl⟩ := List.cons.inj split
          rw [read] at read'
          exact ⟨⟨rfl, Option.some.inj read'⟩, (filterMap_zipIdx_eq_nil_iff _).2 others⟩
        | cons a above =>
          obtain ⟨rfl, -⟩ := List.cons.inj split
          rw [(List.forall_mem_cons.1 others).1] at read
          cases read

theorem ofLines_eq_ok_iff {lines : List String} {b i : Nat} {d : Designation} :
    ofLines lines (some b) = .ok (d, i) ↔ ∃ above line below parts,
      lines.take b = above ++ line :: below ∧ above.length = i ∧ ofLine? line = some parts ∧
      (∀ l ∈ above ++ below, ofLine? l = none) ∧ ofParts parts.1 parts.2 = .ok d := by
  have single (j : Nat) (parts : String × String) : found (lines.take b) = [(j, parts)] ↔ _ :=
    filterMap_zipIdx_eq_singleton_iff (k := 0)
  simp only [Nat.zero_add] at single
  simp only [ofLines]
  constructor
  · intro read
    split at read
    · cases read
    · rename_i line name arguments only
      obtain ⟨above, l, below, split', place, read', others⟩ := (single _ _).1 only
      obtain ⟨d', designated, same⟩ := map_eq_ok.1 read
      cases same
      exact ⟨above, l, below, _, split', place, read', others, designated⟩
    · cases read
  · rintro ⟨above, line, below, ⟨name, arguments⟩, split', place, read', others, designated⟩
    rw [(single i (name, arguments)).2 ⟨above, line, below, split', place, read', others⟩]
    exact map_eq_ok.2 ⟨d, designated, rfl⟩

theorem ofSource_eq_ok_iff {source : RoutineSource} {d : Designation} {i : Nat} :
    ofSource source = .ok (d, i) ↔ Designates source.lines d i := by
  rw [ofSource, mapError_eq_ok]
  have unread (l : String) : ofLine? l = none ↔ ¬ IsDesignationLine l := by
    rw [isDesignationLine_iff, Option.isSome_iff_ne_none, not_not]
  constructor
  · intro read
    cases first : source.beginLine? with
    | none =>
      rw [first] at read
      cases read
    | some b =>
      rw [first] at read
      obtain ⟨above, line, below, parts, split, place, read', others, designated⟩ :=
        ofLines_eq_ok_iff.1 read
      obtain ⟨lead, text, trail, annotated, blank, blank', written⟩ :=
        exists_parts_iff.1 ⟨parts, read', designated⟩
      have opens := RoutineSource.opens_of_beginLine? first
      rw [split] at opens
      exact ⟨above, line, below, lead, text, trail, opens, place,
        fun l member => (unread l).1 (others l member), annotated, blank, blank', written⟩
  · rintro ⟨above, line, below, lead, text, trail, opens, place, others, annotated, blank, blank',
      written⟩
    obtain ⟨first, front⟩ := RoutineSource.beginLine?_of_opens opens
    obtain ⟨parts, read', designated⟩ :=
      exists_parts_iff.2 ⟨lead, text, trail, annotated, blank, blank', written⟩
    rw [first]
    exact ofLines_eq_ok_iff.2 ⟨above, line, below, parts, front, place, read',
      fun l member => (unread l).2 (others l member), designated⟩

/-- Two sources that agree up to the body have the same designation or the same fault. -/
theorem ofSource_congr {source other : RoutineSource} {before : List String}
    (label : other.label = source.label) (opens : Opens source.lines before)
    (opens' : Opens other.lines before) : ofSource other = ofSource source := by
  obtain ⟨first, front⟩ := RoutineSource.beginLine?_of_opens opens
  obtain ⟨first', front'⟩ := RoutineSource.beginLine?_of_opens opens'
  rw [ofSource, ofSource, first, first', label]
  simp only [ofLines, front, front']

/-- A source has just the designation that it writes, and on the line where it writes it; and the
lines from the beginning of the body on have no part in this, nor in what is wrong with it. -/
theorem designated_as_written (source : RoutineSource) :
    (∀ d i, ofSource source = .ok (d, i) ↔ Designates source.lines d i) ∧
    ∀ other before, other.label = source.label → Opens source.lines before →
      Opens other.lines before → ofSource other = ofSource source :=
  ⟨fun _ _ => ofSource_eq_ok_iff, fun _ _ => ofSource_congr⟩

def spacedSource : RoutineSource where
  path := ⟨"", ["psql", "a.psql"]⟩
  extension := ".psql"
  text := "create procedure a()\r\n--\ttype:rows_with_key  x ,\ty \r\r\nbegin\r\nend\r\n"
  modified := 0

def spacedSourceAgain : RoutineSource where
  path := ⟨"", ["psql", "a.psql"]⟩
  extension := ".psql"
  text := "create procedure a()\r\n--\ttype:rows_with_key  x ,\ty \r\r\nbegin\n-- type: rows"
  modified := 0

theorem lines_spacedSource : spacedSource.lines =
    ["create procedure a()\r", "--\ttype:rows_with_key  x ,\ty \r\r", "begin\r", "end\r", ""] :=
  RoutineSource.lines_of_spelled rfl rfl

theorem lines_spacedSourceAgain : spacedSourceAgain.lines =
    ["create procedure a()\r", "--\ttype:rows_with_key  x ,\ty \r\r", "begin", "-- type: rows"] :=
  RoutineSource.lines_of_spelled rfl rfl

theorem opens_spacedSource : Opens spacedSource.lines (spacedSource.lines.take 2) ∧
    Opens spacedSourceAgain.lines (spacedSource.lines.take 2) := by
  have first : spacedSource.beginLine? = some 2 := by
    rw [RoutineSource.beginLine?, lines_spacedSource]
    decide +kernel
  have first' : spacedSourceAgain.beginLine? = some 2 := by
    rw [RoutineSource.beginLine?, lines_spacedSourceAgain]
    decide +kernel
  have opens := RoutineSource.opens_of_beginLine? first'
  rw [lines_spacedSourceAgain] at opens
  exact ⟨RoutineSource.opens_of_beginLine? first, by
    rw [lines_spacedSource, lines_spacedSourceAgain]
    exact opens⟩

/-- Two sources with the same designation line have the same designation, whatever their bodies. -/
theorem spaced_columns_designated :
    Designates spacedSource.lines (.keyed .key ["x", "y"]) 1 ∧
    ofSource spacedSourceAgain = ofSource spacedSource := by
  have read : ofSource spacedSource = .ok (.keyed .key ["x", "y"], 1) :=
    RoutineSource.designation_of_lines lines_spacedSource (by decide +kernel)
  obtain ⟨written, others⟩ := designated_as_written spacedSource
  exact ⟨(written _ _).1 read,
    others spacedSourceAgain _ rfl opens_spacedSource.1 opens_spacedSource.2⟩

def gappedSource : RoutineSource where
  path := ⟨"", ["psql", "a.psql"]⟩
  extension := ".psql"
  text := "create procedure a()\n-- type: bulk_insert t x,,y\nbegin\nend\n"
  modified := 0

/-- A bulk insert with an empty column is accepted, though no designation whose columns are all
named is written there. -/
theorem empty_column_accepted :
    ofSource gappedSource = .ok (.bulkInsert "t" ["x", "", "y"], 1) ∧
    ¬ ∃ d i, Designates gappedSource.lines d i ∧ ∀ column ∈ d.columns, column ≠ "" := by
  have lines : gappedSource.lines =
      ["create procedure a()", "-- type: bulk_insert t x,,y", "begin", "end", ""] :=
    RoutineSource.lines_of_spelled rfl rfl
  have read : ofSource gappedSource = .ok (.bulkInsert "t" ["x", "", "y"], 1) :=
    RoutineSource.designation_of_lines lines (by decide +kernel)
  refine ⟨read, ?_⟩
  rintro ⟨d, i, designates, named⟩
  have same := read.symm.trans (ofSource_eq_ok_iff.2 designates)
  obtain ⟨rfl, -⟩ := Prod.mk.inj (Except.ok.inj same)
  exact named "" (by simp [columns]) rfl

end Designation

end StoredRoutines
