import Mathlib.Data.List.Flatten
import StoredRoutines.Doc.Comment
import StoredRoutines.Proofs.Outcomes
import StoredRoutines.Proofs.Splitting

/-!
No word of a documentation comment is lost. The lines before the first tag have the words of the two
descriptions, each group of lines that starts with a named tag makes one tag of all its text, and
the content of a parameter's tag is the name of the parameter and the words that describe it. What
is between the words and at the ends of lines is not kept, so all this is up to blanks.
-/

namespace StoredRoutines

open Text Outcomes

namespace DocComment

/-! First occurrences. -/

/-- The text is cut at the first occurrence of the key. -/
def FirstCut (key s before after : List Char) : Prop :=
  s = before ++ key ++ after ∧ ¬ key <:+: before ++ key.dropLast

section

variable {key s t before after : List Char} {c d : Char}

theorem firstCut_nil_iff (some' : key ≠ []) :
    FirstCut key s [] after ↔ s = key ++ after := by
  have shorter : ¬ key <:+: key.dropLast := fun inside => by
    have := inside.length_le
    have := List.length_pos_iff.2 some'
    rw [List.length_dropLast] at *
    omega
  rw [FirstCut, List.nil_append, List.nil_append]
  exact and_iff_left shorter

theorem firstCut_cons_iff : FirstCut key (c :: s) (d :: before) after ↔
    c = d ∧ ¬ key <+: c :: s ∧ FirstCut key s before after := by
  rw [FirstCut, FirstCut, List.cons_append, List.cons_append, List.cons_append, List.cons.injEq,
    List.infix_cons_iff, not_or]
  constructor
  · rintro ⟨⟨rfl, rfl⟩, unopened, later⟩
    refine ⟨rfl, fun opened => unopened ?_, rfl, later⟩
    have front : c :: (before ++ key.dropLast) <+: c :: (before ++ key ++ after) := by
      rw [List.prefix_cons_inj, List.append_assoc, List.prefix_append_right_inj]
      exact (List.dropLast_prefix key).trans (List.prefix_append _ _)
    refine List.prefix_of_prefix_length_le opened front ?_
    rw [List.length_cons, List.length_append, List.length_dropLast]
    omega
  · rintro ⟨rfl, unopened, rfl, later⟩
    refine ⟨⟨rfl, rfl⟩, fun opened => unopened (opened.trans ?_), later⟩
    rw [List.prefix_cons_inj, List.append_assoc, List.prefix_append_right_inj]
    exact (List.dropLast_prefix key).trans (List.prefix_append _ _)

theorem firstCut_of_opened (some' : key ≠ []) (opened : key <+: s) :
    FirstCut key s before after ↔ before = [] ∧ s = key ++ after := by
  cases before with
  | nil => rw [firstCut_nil_iff some', eq_self, true_and]
  | cons d before =>
    refine ⟨fun cut => ?_, fun h => absurd h.1 (List.cons_ne_nil _ _)⟩
    cases s with
    | nil => exact absurd (List.prefix_nil.1 opened) some'
    | cons c s => exact absurd opened (firstCut_cons_iff.1 cut).2.1

theorem firstCut_of_other (some' : key ≠ []) (unopened : ¬ key <+: c :: s) :
    FirstCut key (c :: s) before after ↔
      ∃ more, before = c :: more ∧ FirstCut key s more after := by
  cases before with
  | nil =>
    rw [firstCut_nil_iff some']
    constructor
    · intro split
      exact absurd (split ▸ List.prefix_append key after) unopened
    · rintro ⟨_, same, -⟩
      cases same
  | cons d before =>
    rw [firstCut_cons_iff]
    constructor
    · rintro ⟨rfl, -, cut⟩
      exact ⟨before, rfl, cut⟩
    · rintro ⟨_, same, cut⟩
      cases same
      exact ⟨rfl, unopened, cut⟩

theorem not_firstCut_nil (some' : key ≠ []) : ¬ FirstCut key [] before after := by
  rintro ⟨split, -⟩
  rw [eq_comm, List.append_eq_nil_iff, List.append_eq_nil_iff] at split
  exact some' split.1.2

theorem exists_firstCut (some' : key ≠ []) (s t : List Char) :
    ∃ before after, FirstCut key (s ++ key ++ t) before after ∧ t <:+ after := by
  induction s with
  | nil => exact ⟨[], t, (firstCut_nil_iff some').2 rfl, List.suffix_rfl⟩
  | cons c s ih =>
    by_cases opened : key <+: c :: (s ++ key ++ t)
    · obtain ⟨after, split⟩ := opened
      refine ⟨[], after, (firstCut_nil_iff some').2 split.symm, ?_⟩
      have whole : t <:+ key ++ after := by
        rw [split]
        exact (List.suffix_append _ _).trans (List.suffix_cons _ _)
      refine List.suffix_of_suffix_length_le whole (List.suffix_append key after) ?_
      have := congrArg List.length split
      simp only [List.length_append, List.length_cons] at this
      omega
    · obtain ⟨before, after, cut, rest⟩ := ih
      exact ⟨c :: before, after,
        (firstCut_of_other some' opened).2 ⟨before, rfl, cut⟩, rest⟩

end

/-! The first block of a text. -/

def HoldsBlock (s : List Char) : Prop :=
  ∃ before block after, s = before ++ "/**".toList ++ block ++ "*/".toList ++ after

/-- The block is the text between the first opening of a comment and the first closing behind it. -/
def FirstBlock (s block : List Char) : Prop :=
  ∃ before rest after, FirstCut "/**".toList s before rest ∧ FirstCut "*/".toList rest block after

theorem afterOpening?_eq_some_iff {s rest : List Char} :
    afterOpening? s = some rest ↔ ∃ before, FirstCut "/**".toList s before rest := by
  have some' : "/**".toList ≠ [] := by decide
  fun_induction afterOpening? s with
  | case1 after =>
    change _ ↔ ∃ before, FirstCut "/**".toList ("/**".toList ++ after) before rest
    simp only [firstCut_of_opened some' (List.prefix_append _ _), exists_eq_left,
      List.append_cancel_left_eq, Option.some.injEq]
  | case2 c cs unopened ih =>
    have : ¬ "/**".toList <+: c :: cs := by
      rintro ⟨after, split⟩
      exact unopened after (by cases split; rfl) (by cases split; rfl)
    simp only [firstCut_of_other some' this, ih]
    constructor
    · rintro ⟨before, cut⟩
      exact ⟨c :: before, before, rfl, cut⟩
    · rintro ⟨_, before, -, cut⟩
      exact ⟨before, cut⟩
  | case3 => simp only [not_firstCut_nil some', exists_false, reduceCtorEq]

theorem beforeClosing?_eq_some_iff {s block : List Char} :
    beforeClosing? s = some block ↔ ∃ after, FirstCut "*/".toList s block after := by
  have some' : "*/".toList ≠ [] := by decide
  fun_induction beforeClosing? s generalizing block with
  | case1 after =>
    change _ ↔ ∃ after', FirstCut "*/".toList ("*/".toList ++ after) block after'
    simp only [firstCut_of_opened some' (List.prefix_append _ _), exists_and_left,
      List.append_cancel_left_eq, exists_eq', and_true, Option.some.injEq, eq_comm]
  | case2 c cs unopened ih =>
    have : ¬ "*/".toList <+: c :: cs := by
      rintro ⟨after, split⟩
      exact unopened after (by cases split; rfl) (by cases split; rfl)
    simp only [firstCut_of_other some' this, Option.map_eq_some_iff, ih]
    constructor
    · rintro ⟨more, ⟨after, cut⟩, rfl⟩
      exact ⟨after, more, rfl, cut⟩
    · rintro ⟨after, more, rfl, cut⟩
      exact ⟨more, ⟨after, cut⟩, rfl⟩
  | case3 => simp only [not_firstCut_nil some', exists_false, reduceCtorEq]

theorem block?_eq_some_iff {s block : List Char} : block? s = some block ↔ FirstBlock s block := by
  simp only [block?, Option.bind_eq_some_iff, afterOpening?_eq_some_iff,
    beforeClosing?_eq_some_iff]
  constructor
  · rintro ⟨rest, ⟨before, cut⟩, after, cut'⟩
    exact ⟨before, rest, after, cut, cut'⟩
  · rintro ⟨before, rest, after, cut, cut'⟩
    exact ⟨rest, ⟨before, cut⟩, after, cut'⟩

theorem exists_firstBlock {s : List Char} (holds : HoldsBlock s) : ∃ block, FirstBlock s block := by
  obtain ⟨before, block, after, rfl⟩ := holds
  have opens : "/**".toList ≠ [] := by decide
  have closes : "*/".toList ≠ [] := by decide
  -- The closing is still behind the first opening, which is not behind the one that is given.
  obtain ⟨before', rest, cut, lead, rfl⟩ :=
    exists_firstCut opens before (block ++ "*/".toList ++ after)
  obtain ⟨block', after', cut', -⟩ := exists_firstCut closes (lead ++ block) after
  refine ⟨block', before', lead ++ (block ++ "*/".toList ++ after), after', ?_, ?_⟩
  · simpa only [List.append_assoc] using cut
  · simpa only [List.append_assoc] using cut'

/-! Lines before the first tag, and groups of lines that start with a tag. -/

/-- The line starts with `@`. Blanks that the margin left in front of it do not count. -/
def TagLine (line : List Char) : Prop := ∃ blanks rest, Blank blanks ∧ line = blanks ++ '@' :: rest

def TagGroup (group : List (List Char)) : Prop :=
  ∃ first others, group = first :: others ∧ TagLine first ∧ ∀ line ∈ others, ¬ TagLine line

/-- The lines are those before the first tag line, followed by groups of one tag line each. -/
structure Sections (lines opening : List (List Char)) (groups : List (List (List Char))) :
    Prop where
  whole : lines = opening ++ groups.flatten
  opening : ∀ line ∈ opening, ¬ TagLine line
  groups : ∀ group ∈ groups, TagGroup group

section

variable {lines opening : List (List Char)} {groups : List (List (List Char))} {line : List Char}

theorem startsTag_iff : startsTag line = true ↔ TagLine line := by
  rw [startsTag, beq_iff_eq]
  constructor
  · intro first
    obtain ⟨blanks, blank, split, -⟩ := exists_trimLeft line
    obtain ⟨rest, tight⟩ := List.head?_eq_some_iff.1 first
    exact ⟨blanks, rest, blank, tight ▸ split⟩
  · rintro ⟨blanks, rest, blank, rfl⟩
    have tight : trimLeft (blanks ++ '@' :: rest) = '@' :: rest :=
      trimLeft_eq_iff.2 ⟨blanks, blank, rfl, by simp [StartsTight]; decide⟩
    rw [tight]
    rfl

theorem startsTag_eq_false_iff : startsTag line = false ↔ ¬ TagLine line := by
  rw [← startsTag_iff, Bool.not_eq_true]

theorem tagLine_trimRight_iff : TagLine (trimRight line) ↔ TagLine line := by
  constructor
  · rintro ⟨blanks, rest, blank, shown⟩
    obtain ⟨trail, -, split, -⟩ := trimRight_eq_iff.1 shown
    exact ⟨blanks, rest ++ trail, blank, by rw [split, List.append_assoc, List.cons_append]⟩
  · rintro ⟨blanks, rest, blank, rfl⟩
    obtain ⟨trail, blank', split, ends⟩ := exists_trimRight rest
    have ends' : EndsTight ('@' :: trimRight rest) := by
      intro c last
      cases empty : trimRight rest with
      | nil =>
        rw [empty, List.getLast?_singleton, Option.mem_some_iff] at last
        exact last ▸ rfl
      | cons d ds =>
        rw [empty] at ends last
        rw [List.getLast?_cons_cons] at last
        exact ends c last
    refine ⟨blanks, trimRight rest, blank, trimRight_eq_iff.2 ⟨trail, blank', ?_, ?_⟩⟩
    · rw [List.append_assoc, List.cons_append, ← split]
    · exact ends'.append (List.cons_ne_nil _ _) blanks

theorem exists_sections (lines : List (List Char)) :
    ∃ opening groups, Sections lines opening groups := by
  induction lines with
  | nil => exact ⟨[], [], rfl, by simp, by simp⟩
  | cons line lines ih =>
    obtain ⟨opening, groups, whole, before, behind⟩ := ih
    by_cases tag : TagLine line
    · exact ⟨[], (line :: opening) :: groups, by simp [whole], by simp,
        List.forall_mem_cons.2 ⟨⟨line, opening, rfl, tag, before⟩, behind⟩⟩
    · exact ⟨line :: opening, groups, by simp [whole],
        List.forall_mem_cons.2 ⟨tag, before⟩, behind⟩

/-- Blanks at the ends of lines make no difference. -/
theorem Sections.trimRight (cut : Sections lines opening groups) :
    Sections (lines.map Text.trimRight) (opening.map Text.trimRight)
      (groups.map (·.map Text.trimRight)) := by
  refine ⟨by rw [cut.whole, List.map_append, List.map_flatten], ?_, ?_⟩
  · rw [List.forall_mem_map]
    exact fun line member => mt tagLine_trimRight_iff.1 (cut.opening line member)
  · rw [List.forall_mem_map]
    intro group member
    obtain ⟨first, others, rfl, tag, none⟩ := cut.groups group member
    refine ⟨_, _, rfl, tagLine_trimRight_iff.2 tag, ?_⟩
    rw [List.forall_mem_map]
    exact fun line member => mt tagLine_trimRight_iff.1 (none line member)

theorem takeWhile_of_sections (cut : Sections lines opening groups) :
    lines.takeWhile (!startsTag ·) = opening := by
  rw [cut.whole]
  refine takeWhile_append_of_stop (fun line member => ?_) fun line first => ?_
  · rw [startsTag_eq_false_iff.2 (cut.opening line member), Bool.not_false]
  · cases groups with
    | nil => cases first
    | cons group groups =>
      obtain ⟨_, others, rfl, tag, -⟩ := cut.groups group List.mem_cons_self
      cases first
      rw [startsTag_iff.2 tag, Bool.not_true]

theorem tagGroups_append (before : ∀ line ∈ opening, ¬ TagLine line) (lines : List (List Char)) :
    tagGroups (opening ++ lines) = tagGroups lines := by
  induction opening with
  | nil => rfl
  | cons line opening ih =>
    obtain ⟨here, later⟩ := List.forall_mem_cons.1 before
    rw [List.cons_append, tagGroups, startsTag_eq_false_iff.2 here, if_neg Bool.false_ne_true,
      ih later]

def shown (group : List (List Char)) : List Char × List (List Char) :=
  (Text.trim (group.headD []), group.tail)

theorem tagGroups_of_sections (cut : Sections lines opening groups) :
    tagGroups lines = groups.map shown := by
  rw [cut.whole, tagGroups_append cut.opening]
  replace cut := cut.groups
  induction groups with
  | nil => rfl
  | cons group groups ih =>
    obtain ⟨here, later⟩ := List.forall_mem_cons.1 cut
    obtain ⟨first, others, rfl, tag, none⟩ := here
    have whole : Sections (others ++ groups.flatten) others groups := ⟨rfl, none, later⟩
    rw [List.flatten_cons, List.cons_append, tagGroups, startsTag_iff.2 tag, if_pos rfl,
      takeWhile_of_sections whole, tagGroups_append none, ih later]
    rfl

end

/-! Descriptions. -/

section

variable {lines opening : List (List Char)} {groups : List (List (List Char))} {line : List Char}

theorem words_of_isBlankLine (blank : isBlankLine line = true) : words line = [] := by
  rw [isBlankLine, List.isEmpty_iff] at blank
  rw [← words_trim, blank, words_eq_nil_iff.2 blank_nil]

theorem flatMap_words_map {f : List Char → List Char} (same : ∀ line, words (f line) = words line)
    (lines : List (List Char)) : (lines.map f).flatMap words = lines.flatMap words := by
  rw [List.flatMap_map]
  exact List.flatMap_congr fun line _ => same line

theorem words_splitShort (lines : List (List Char)) :
    (splitShort lines).1.flatMap words ++ (splitShort lines).2.flatMap words =
      lines.flatMap words := by
  fun_induction splitShort lines with
  | case1 => rfl
  | case2 line lines _ => rfl
  | case3 line lines _ _ => rw [List.flatMap_singleton, words_trim, List.flatMap_cons]
  | case4 line lines _ _ r ih =>
    rw [List.flatMap_cons, List.flatMap_cons, words_trim, List.append_assoc, ih]

theorem words_dropWhile_isBlankLine (lines : List (List Char)) :
    (lines.dropWhile isBlankLine).flatMap words = lines.flatMap words := by
  induction lines with
  | nil => rfl
  | cons line lines ih =>
    rw [List.dropWhile_cons, List.flatMap_cons]
    split
    · rename_i blank
      rw [ih, words_of_isBlankLine blank, List.nil_append]
    · rw [List.flatMap_cons]

theorem words_descriptions (lines : List (List Char)) :
    words (descriptions lines).1 ++ words (descriptions lines).2 = lines.flatMap words := by
  rw [descriptions, words_trim, words_joinWith (by decide), words_joinWith (by decide),
    words_splitShort, words_dropWhile_isBlankLine]

end

/-! Tags. -/

def namesTag : List Char → Bool
  | '@' :: c :: _ => c.isAlpha
  | _ => false

/-- The group starts with a tag line of that kind, perhaps behind blanks. -/
def startsNamed (group : List (List Char)) : Bool := namesTag (trim (group.headD []))

theorem startsNamed_map_trimRight (group : List (List Char)) :
    startsNamed (group.map trimRight) = startsNamed group := by
  cases group with
  | nil => rfl
  | cons first others =>
    change namesTag (trim (trimRight first)) = namesTag (trim first)
    rw [trim_trimRight]

/-- The tag has the whole text of the group: `@`, the name and the content, up to blanks. The name
goes on as far as it can. -/
def HasText (group : List (List Char)) (tag : DocTag) : Prop :=
  ∃ between, Blank between ∧
    words ('@' :: tag.name.toList ++ between ++ tag.content.toList) = group.flatMap words ∧
    (∀ c ∈ tag.name.toList, isTagChar c = true) ∧
    ∀ c ∈ (between ++ tag.content.toList).head?, isTagChar c = false

theorem tagName?_eq_some {s name rest : List Char} (named : tagName? s = some (name, rest)) :
    ∃ gap, Blank gap ∧ s = '@' :: name ++ gap ++ rest ∧ (∀ c ∈ name, isTagChar c = true) ∧
      ∀ c ∈ (gap ++ rest).head?, isTagChar c = false := by
  unfold tagName? at named
  split at named
  · rename_i c cs
    split at named
    · rename_i letter
      cases named
      obtain ⟨gap, blank, split, -⟩ := exists_trimLeft (cs.dropWhile isTagChar)
      refine ⟨gap, blank, ?_, List.forall_mem_cons.2 ⟨?_, fun _ => List.mem_takeWhile_imp⟩, ?_⟩
      · rw [List.append_assoc, ← split, List.cons_append, List.cons_append,
          List.takeWhile_append_dropWhile]
      · have plain : isPlain c = true := by simp [isPlain, Char.isAlphanum, letter]
        rw [isTagChar, isWord_of_isPlain plain, Bool.true_or]
      · rw [← split]
        exact not_head?_dropWhile isTagChar cs
    · cases named
  · cases named

theorem isSome_tagName? (s : List Char) : (tagName? s).isSome = namesTag s := by
  fun_cases tagName? s with
  | case1 c cs letter => rw [namesTag, letter, Option.isSome_some]
  | case2 c cs letter => simp [namesTag, letter]
  | case3 _ other => rw [namesTag.eq_2 s other, Option.isSome_none]

theorem isSome_tagOfGroup? (group : List (List Char)) :
    (tagOfGroup? (shown group)).isSome = startsNamed group := by
  rw [startsNamed, ← isSome_tagName?, tagOfGroup?]
  change _ = (tagName? (shown group).1).isSome
  cases tagName? (shown group).1 with
  | none => rfl
  | some d => rfl

theorem hasText_of_tagOfGroup? {group : List (List Char)} {tag : DocTag}
    (found : tagOfGroup? (shown group) = some tag) : HasText group tag := by
  obtain _ | ⟨first, others⟩ := group
  · cases found
  change tagOfGroup? (trim first, others) = some tag at found
  unfold tagOfGroup? at found
  split at found
  · cases found
  · rename_i name rest named
    cases found
    obtain ⟨gap, blank, split, all, stop⟩ := tagName?_eq_some named
    replace split : trim first = _ := split
    obtain ⟨lead, trail, blank', blank'', whole, -⟩ :=
      exists_trim (joinWith '\n' (rest :: others))
    simp only [HasText, String.toList_ofList]
    generalize trim (joinWith '\n' (rest :: others)) = content at whole ⊢
    -- Between the name and the content there are only blanks, of the line and of what was trimmed.
    have text : '@' :: name ++ (gap ++ lead) ++ content ++ trail =
        joinWith '\n' (trim first :: others) := by
      rw [split, joinWith_append_cons, whole]
      simp only [List.append_assoc]
    refine ⟨gap ++ lead, blank.append blank', ?_, all, fun c front => ?_⟩
    · calc words ('@' :: name ++ (gap ++ lead) ++ content)
          = words (joinWith '\n' (trim first :: others)) := by
            rw [← text, words_append_blank _ blank'']
        _ = (first :: others).flatMap words := by
            rw [words_joinWith (by decide), List.flatMap_cons, List.flatMap_cons, words_trim]
    · -- What is behind the name on its line decides, or the end of that line.
      have same : gap ++ lead ++ content ++ trail = joinWith '\n' ((gap ++ rest) :: others) := by
        rw [joinWith_append_cons, whole]
        simp only [List.append_assoc]
      have front' : c ∈ (gap ++ lead ++ content ++ trail).head? := by
        rw [List.head?_append, Option.mem_def.1 front]
        rfl
      rw [same] at front'
      rcases head?_joinWith_cons front' with here | rfl
      · exact stop c here
      · decide

theorem tagOfGroup?_content {group : List Char × List (List Char)} {tag : DocTag}
    (found : tagOfGroup? group = some tag) : StartsTight tag.content.toList ∧
      (tag.name = "param" → tag.description.toList = afterFirstWord tag.content.toList) := by
  unfold tagOfGroup? at found
  split at found
  · cases found
  · rename_i name rest named
    cases found
    obtain ⟨-, -, -, -, -, starts, -⟩ := exists_trim (joinWith '\n' (rest :: group.2))
    simp only [String.toList_ofList]
    refine ⟨starts, fun param => ?_⟩
    have same : name = "param".toList := String.ofList_injective param
    rw [if_pos same]

/-! Parameters. -/

/-- The name is the first word of the tag's content, the description has the others. -/
structure Describes (tag : DocTag) (d : String × String) : Prop where
  name : d.1.toList = (words tag.content.toList).headD []
  description : words d.2.toList = (words tag.content.toList).tail

theorem first_word {s : List Char} (starts : StartsTight s) :
    ∃ word gap, s = word ++ gap ++ afterFirstWord s ∧ Blank gap ∧
      (∀ c ∈ word, isBlank c = false) ∧ word = (words s).headD [] ∧
      words (afterFirstWord s) = (words s).tail := by
  obtain ⟨gap, blank, split, -⟩ := exists_trimLeft (s.dropWhile (!isBlank ·))
  refine ⟨s.takeWhile (!isBlank ·), gap, ?_, blank, ?_, ?_⟩
  · rw [afterFirstWord, List.append_assoc, ← split, List.takeWhile_append_dropWhile]
  · intro c member
    simpa using List.mem_takeWhile_imp member
  · rw [afterFirstWord, words_trimLeft]
    cases s with
    | nil => simp [words]
    | cons c cs =>
      have unblank := starts c rfl
      simp [words, unblank]

theorem describes_parameterDescription {tag : DocTag} (starts : StartsTight tag.content.toList)
    (rest : tag.description.toList = afterFirstWord tag.content.toList) :
    Describes tag (parameterDescription tag) := by
  obtain ⟨word, gap, split, blank, unbroken, first, others⟩ := first_word starts
  rw [← rest] at split others
  constructor
  · have front : tag.content.toList.take
        (tag.content.toList.length - tag.description.toList.length) = word ++ gap := by
      rw [split, List.length_append, Nat.add_sub_cancel, List.take_left]
    rw [parameterDescription, front, String.toList_ofList, ← first]
    exact trim_eq_iff.2 ⟨[], gap, blank_nil, blank, rfl, startsTight_of_unbroken unbroken,
      endsTight_of_unbroken unbroken⟩
  · rw [parameterDescription, String.toList_ofList, words_joinWith (by decide),
      flatMap_words_map words_trim, words_splitOn (by decide), others]

/-! Margins. -/

/-- What is left of a line without its margin: blanks, at most one star, and at most one space behind
the star. -/
inductive LosesMargin : List Char → List Char → Prop
  | bare {blanks rest : List Char} (blank : Blank blanks) (tight : StartsTight rest)
    (starless : rest.head? ≠ some '*') : LosesMargin (blanks ++ rest) rest
  | starred {blanks rest : List Char} (blank : Blank blanks) (joined : rest.head? ≠ some ' ') :
    LosesMargin (blanks ++ '*' :: rest) rest
  | spaced {blanks : List Char} (blank : Blank blanks) (rest : List Char) :
    LosesMargin (blanks ++ '*' :: ' ' :: rest) rest

theorem dropMargin_of_star {blanks rest : List Char} (blank : Blank blanks) :
    dropMargin (blanks ++ '*' :: rest) = if rest.head? = some ' ' then rest.tail else rest := by
  have tight : trimLeft (blanks ++ '*' :: rest) = '*' :: rest :=
    trimLeft_eq_iff.2 ⟨blanks, blank, rfl, by simp [StartsTight]; decide⟩
  rw [dropMargin, tight]
  cases rest with
  | nil => rfl
  | cons c cs => by_cases space : c = ' ' <;> simp [space]

theorem LosesMargin.dropMargin_eq {line rest : List Char} (h : LosesMargin line rest) :
    dropMargin line = rest := by
  cases h with
  | bare blank tight starless =>
    rw [dropMargin, trimLeft_eq_iff.2 ⟨_, blank, rfl, tight⟩]
    cases rest with
    | nil => rfl
    | cons c cs =>
      have unblank : c ≠ ' ' := fun space => absurd (space ▸ tight c rfl) (by decide)
      have other : c ≠ '*' := fun star => starless (congrArg some star)
      simp [other, unblank]
  | starred blank joined => rw [dropMargin_of_star blank, if_neg joined]
  | spaced blank rest =>
    rw [dropMargin_of_star blank]
    exact if_pos rfl

theorem exists_losesMargin (line : List Char) : ∃ rest, LosesMargin line rest := by
  obtain ⟨blanks, blank, split, tight⟩ := exists_trimLeft line
  generalize trimLeft line = front at split tight
  subst split
  by_cases star : front.head? = some '*'
  · obtain ⟨rest, rfl⟩ := List.head?_eq_some_iff.1 star
    by_cases space : rest.head? = some ' '
    · obtain ⟨rest, rfl⟩ := List.head?_eq_some_iff.1 space
      exact ⟨rest, .spaced blank rest⟩
    · exact ⟨rest, .starred blank space⟩
  · exact ⟨front, .bare blank tight star⟩

theorem losesMargin_iff {line rest : List Char} : LosesMargin line rest ↔ dropMargin line = rest := by
  refine ⟨LosesMargin.dropMargin_eq, fun same => ?_⟩
  obtain ⟨left, loses⟩ := exists_losesMargin line
  rwa [← same, loses.dropMargin_eq]

def marginless (block : List Char) : List (List Char) := (splitOn '\n' block).map dropMargin

/-- The lines are those of the block without their margins. -/
def LosesMargins (block : List Char) (lines : List (List Char)) : Prop :=
  List.Forall₂ LosesMargin (splitOn '\n' block) lines

theorem losesMargins_marginless (block : List Char) : LosesMargins block (marginless block) := by
  rw [LosesMargins, marginless, List.forall₂_map_right_iff, List.forall₂_same]
  exact fun line _ => losesMargin_iff.2 rfl

/-! Comments. -/

/-- The comment has the text of the lines before the first tag and of the groups with a named tag,
and the descriptions of parameters have that of their tags. -/
structure Covers (d : DocComment) (opening : List (List Char))
    (groups : List (List (List Char))) : Prop where
  descriptions : words d.short.toList ++ words d.long.toList = opening.flatMap words
  tags : List.Forall₂ HasText (groups.filter startsNamed) d.tags
  parameters : List.Forall₂ Describes (d.tags.filter (·.name == "param")) d.parameterDescriptions

theorem covers_ofBlock {block : List Char} {opening : List (List Char)}
    {groups : List (List (List Char))} (cut : Sections (marginless block) opening groups) :
    (ofBlock block).Covers opening groups := by
  have shownLines : blockLines block = (marginless block).map Text.trimRight := by
    rw [blockLines, marginless, List.map_map]
    rfl
  have cut' := cut.trimRight
  rw [← shownLines] at cut'
  have made : (ofBlock block).tags =
      (groups.map (·.map Text.trimRight)).filterMap (tagOfGroup? ∘ shown) := by
    rw [← List.filterMap_map, ← tagGroups_of_sections cut']
    rfl
  refine ⟨?_, ?_, ?_⟩
  · have all := words_descriptions (opening.map Text.trimRight)
    rw [flatMap_words_map words_trimRight, ← takeWhile_of_sections cut'] at all
    simpa only [ofBlock, String.toList_ofList] using all
  · rw [made, List.filterMap_map]
    refine forall₂_filterMap (fun group => ?_) (fun group tag found => ?_) groups
    · exact (isSome_tagOfGroup? _).trans (startsNamed_map_trimRight group)
    · obtain ⟨between, blank, text, named⟩ := hasText_of_tagOfGroup? found
      exact ⟨between, blank, by rw [text, flatMap_words_map words_trimRight], named⟩
  · rw [parameterDescriptions, tagsNamed, List.forall₂_map_right_iff, List.forall₂_same]
    intro tag member
    obtain ⟨inside, param⟩ := List.mem_filter.1 member
    rw [made] at inside
    obtain ⟨group, -, found⟩ := List.mem_filterMap.1 inside
    obtain ⟨starts, rest⟩ := tagOfGroup?_content found
    exact describes_parameterDescription starts (rest (beq_iff_eq.1 param))

/-- The comment that is read off a text covers the first block: the words before the first tag line
are those of the descriptions, every group that starts with a named tag is one tag in order, and the
content of a parameter's tag is split after its first word. -/
theorem ofText_covers {text : String} (holds : HoldsBlock text.toList) :
    ∃ block lines opening groups, FirstBlock text.toList block ∧ LosesMargins block lines ∧
      Sections lines opening groups ∧ (ofText text).Covers opening groups := by
  obtain ⟨block, first⟩ := exists_firstBlock holds
  obtain ⟨opening, groups, cut⟩ := exists_sections (marginless block)
  refine ⟨block, marginless block, opening, groups, first, losesMargins_marginless block, cut, ?_⟩
  rw [ofText, block?_eq_some_iff.2 first]
  exact covers_ofBlock cut

end DocComment

namespace Sample

/-- A comment with both descriptions, two named tags and a line that only looks like a tag. -/
def commentText : String :=
  "/**\n * Selects users.\n *\n * By key.\n * @param p_id The\n *   key.\n * @1\n * @since 2\n */"

end Sample

open Sample DocComment in
theorem commentText_covered : HoldsBlock commentText.toList ∧
    ∃ block lines opening groups, FirstBlock commentText.toList block ∧ LosesMargins block lines ∧
      Sections lines opening groups ∧ (ofText commentText).Covers opening groups := by
  have holds : HoldsBlock commentText.toList :=
    ⟨[], (commentText.toList.drop 3).dropLast.dropLast, [], by decide⟩
  exact ⟨holds, ofText_covers holds⟩

example : (DocComment.ofText Sample.commentText).parameterDescriptions =
    [("p_id", "The\nkey.")] := by decide +kernel

end StoredRoutines
