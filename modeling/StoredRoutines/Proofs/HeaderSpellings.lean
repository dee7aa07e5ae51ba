import StoredRoutines.Proofs.DropStatements

/-!
How a header may be written. The keywords and the name of a header are matched without regard to
case, which lets in the four characters beyond ASCII that are another case of a Latin letter. A
header without them has a type and a name that statements can name; with one of them in its type or
in its name no statement can be written that drops the routine.
-/

namespace StoredRoutines

open Outcomes

def Text.Ascii (s : List Char) : Prop := ∀ c ∈ s, c.toNat < 128

namespace Text

theorem lowerAfter_of_ascii {s : List Char} (ascii : Ascii s) (before : List Char) :
    lowerAfter before s = s.map Char.toLower := by
  induction s generalizing before with
  | nil => rfl
  | cons c cs ih =>
    obtain ⟨here, later⟩ := List.forall_mem_cons.1 ascii
    have notSigma : c.toNat ≠ 0x3A3 := fun same => absurd (same ▸ here) (by decide)
    rw [lowerAfter, if_neg notSigma, lowerChar, if_pos here, ih later]
    rfl

theorem mem_lowerAfter {s before : List Char} {c d : Char} (inside : c ∈ s)
    (notSigma : c.toNat ≠ 0x3A3) (image : d ∈ lowerChar c) : d ∈ lowerAfter before s := by
  induction s generalizing before with
  | nil => cases inside
  | cons b bs ih =>
    rw [lowerAfter]
    rcases List.mem_cons.1 inside with rfl | later
    · rw [if_neg notSigma]
      exact List.mem_append_left _ image
    · exact List.mem_append_right _ (ih later)

theorem mem_lower {s : String} {c d : Char} (inside : c ∈ s.toList) (notSigma : c.toNat ≠ 0x3A3)
    (image : d ∈ lowerChar c) : d ∈ (lower s).toList := by
  rw [lower, String.toList_ofList]
  exact mem_lowerAfter inside notSigma image

end Text

namespace Header

/-- The text is a word in any case. -/
def Spells (word written : List Char) : Prop :=
  List.Forall₂ (fun letter c => isCaseOf letter c = true) word written

/-- A header stands in the text: its type and its name as written. -/
structure Stands (text type name : List Char) : Prop where
  place : ∃ before create gap gap' after, Spells "create".toList create ∧ Text.Gap gap ∧
    Text.Gap gap' ∧ text = before ++ (create ++ (gap ++ (type ++ (gap' ++ (name ++ after)))))
  type : Spells "procedure".toList type ∨ Spells "function".toList type
  nonempty : name ≠ []
  named : ∀ c ∈ name, isNameChar c = true

theorem spells_of_word? {word s written rest : List Char}
    (h : word? word s = some (written, rest)) : Spells word written ∧ s = written ++ rest := by
  induction word generalizing s written with
  | nil =>
    cases h
    exact ⟨.nil, rfl⟩
  | cons letter letters ih =>
    cases s with
    | nil => cases h
    | cons c cs =>
      simp only [word?] at h
      split at h
      · rename_i here
        obtain ⟨⟨more, rest'⟩, found, same⟩ := Option.map_eq_some_iff.1 h
        obtain ⟨rfl, rfl⟩ := Prod.mk.inj same
        obtain ⟨spelled, rfl⟩ := ih found
        exact ⟨.cons here spelled, rfl⟩
      · cases h

theorem gap_of_afterBlanks? {s rest : List Char} (h : afterBlanks? s = some rest) :
    ∃ gap, Text.Gap gap ∧ s = gap ++ rest := by
  cases s with
  | nil => cases h
  | cons c cs =>
    simp only [afterBlanks?] at h
    split at h
    · rename_i blank
      obtain ⟨lead, blanks, rfl, -⟩ := Text.trimLeft_eq_iff.1 (Option.some.inj h)
      exact ⟨c :: lead, ⟨by simp, List.forall_mem_cons.2 ⟨blank, blanks⟩⟩, rfl⟩
    · cases h

theorem spells_of_type? {s written rest : List Char} (h : type? s = some (written, rest)) :
    (Spells "procedure".toList written ∨ Spells "function".toList written) ∧
      s = written ++ rest := by
  unfold type? at h
  split at h
  · rename_i found
    cases h
    obtain ⟨spelled, whole⟩ := spells_of_word? found
    exact ⟨.inl spelled, whole⟩
  · obtain ⟨spelled, whole⟩ := spells_of_word? h
    exact ⟨.inr spelled, whole⟩

theorem stands_of_here? {s type name : List Char} (h : here? s = some (type, name)) :
    Stands s type name := by
  obtain ⟨⟨create, s₁⟩, opened, h⟩ := Option.bind_eq_some_iff.1 h
  obtain ⟨s₂, blanks, h⟩ := Option.bind_eq_some_iff.1 h
  obtain ⟨⟨type', s₃⟩, typed, h⟩ := Option.bind_eq_some_iff.1 h
  obtain ⟨s₄, blanks', h⟩ := Option.bind_eq_some_iff.1 h
  simp only at h
  split at h
  · cases h
  · rename_i nonempty
    cases h
    obtain ⟨spelled, rfl⟩ := spells_of_word? opened
    obtain ⟨gap, apart, rfl⟩ := gap_of_afterBlanks? blanks
    obtain ⟨keyword, rfl⟩ := spells_of_type? typed
    obtain ⟨gap', apart', rfl⟩ := gap_of_afterBlanks? blanks'
    refine ⟨⟨[], create, gap, gap', s₄.dropWhile isNameChar, spelled, apart, apart', ?_⟩, keyword,
      by simpa using nonempty, fun c => List.mem_takeWhile_imp⟩
    rw [List.takeWhile_append_dropWhile, List.nil_append]

theorem stands_of_search? {s before type name : List Char}
    (h : search? s = some (before, type, name)) : Stands s type name := by
  -- The search goes on one character at a time; what it passes over is what stands in front.
  induction s generalizing before with
  | nil =>
    unfold search? at h
    split at h
    · rename_i found
      cases h
      exact stands_of_here? found
    · cases h
  | cons c cs ih =>
    unfold search? at h
    split at h
    · rename_i found
      cases h
      exact stands_of_here? found
    · obtain ⟨⟨before', _⟩, found, same⟩ := Option.map_eq_some_iff.1 h
      cases same
      obtain ⟨⟨front, create, gap, gap', after, spelled, apart, apart', rfl⟩, keyword, some, named⟩ :=
        ih found
      exact ⟨⟨c :: front, create, gap, gap', after, spelled, apart, apart', rfl⟩, keyword, some,
        named⟩

/-! The characters of a header. -/

theorem mem_otherCases_of_isCaseOf {letter c : Char} (ascii : letter.toNat < 128)
    (h : isCaseOf letter c = true) (beyond : ¬ c.toNat < 128) : (c, letter) ∈ otherCases := by
  rw [isCaseOf, Bool.or_eq_true, decide_eq_true_eq, List.contains_iff_mem] at h
  refine h.resolve_left fun lower => beyond ?_
  unfold Char.toLower at lower
  split at lower
  · rename_i upper
    exact Nat.lt_of_le_of_lt (UInt32.le_iff_toNat_le.1 upper.2) (by decide)
  · exact lower ▸ ascii

theorem toLower_of_isCaseOf {letter c : Char} (h : isCaseOf letter c = true)
    (ascii : c.toNat < 128) : c.toLower = letter := by
  rw [isCaseOf, Bool.or_eq_true, decide_eq_true_eq, List.contains_iff_mem] at h
  refine h.resolve_right fun other => ?_
  have beyond : ∀ e ∈ otherCases, ¬ e.1.toNat < 128 := by decide
  exact beyond _ other ascii

theorem lower_of_spells {word written : List Char} (spelled : Spells word written)
    (ascii : Text.Ascii written) : Text.lower (String.ofList written) = String.ofList word := by
  rw [Text.lower, String.toList_ofList, Text.lowerAfter_of_ascii ascii]
  congr 1
  induction spelled with
  | nil => rfl
  | cons here _ ih =>
    obtain ⟨first, later⟩ := List.forall_mem_cons.1 ascii
    rw [List.map_cons, toLower_of_isCaseOf here first, ih later]

/-- What is left of a foreign i in lower case: a dotless i, or a dot that stands alone. -/
def lastingMarks : List Char := ['\u0131', '\u0307']

/-- A keyword of a routine type with a character beyond ASCII has a mark in lower case. -/
theorem exists_mark_of_spells {word written : List Char} (spelled : Spells word written)
    (keyword : word = "procedure".toList ∨ word = "function".toList)
    (beyond : ¬ Text.Ascii written) :
    ∃ d ∈ lastingMarks, d ∈ (Text.lower (String.ofList written)).toList := by
  obtain ⟨c, inside, foreign⟩ : ∃ c ∈ written, ¬ c.toNat < 128 := by simpa [Text.Ascii] using beyond
  obtain ⟨letter, place, here⟩ := exists_of_forall₂ spelled inside
  have letters : letter.toNat < 128 ∧ letter ≠ 's' ∧ letter ≠ 'k' := by
    have all : ∀ l ∈ "procedure".toList ++ "function".toList,
        l.toNat < 128 ∧ l ≠ 's' ∧ l ≠ 'k' := List.forall_iff_forall_mem.1 (by decide)
    rcases keyword with rfl | rfl
    · exact all _ (List.mem_append_left _ place)
    · exact all _ (List.mem_append_right _ place)
  have listed := mem_otherCases_of_isCaseOf letters.1 here foreign
  have marked : ∀ e ∈ otherCases, e.2 ≠ 's' ∧ e.2 ≠ 'k' →
      e.1.toNat ≠ 0x3A3 ∧ lastingMarks.any (Text.lowerChar e.1).contains = true := by decide +kernel
  obtain ⟨notSigma, some⟩ := marked _ listed letters.2
  obtain ⟨d, mark, image⟩ := List.any_eq_true.1 some
  refine ⟨d, mark, Text.mem_lower ?_ notSigma (List.contains_iff_mem.1 image)⟩
  rwa [String.toList_ofList]

theorem not_mem_routineTypes_of_mark {s : String} {d : Char} (mark : d ∈ lastingMarks)
    (inside : d ∈ s.toList) : s ∉ routineTypes ∧ Text.lower s ∉ routineTypes := by
  have all : ∀ type ∈ routineTypes, lastingMarks.Forall fun d => d ∉ type.toList := by decide
  have unmarked (type : String) (known : type ∈ routineTypes) : d ∉ type.toList :=
    List.forall_iff_forall_mem.1 (all type known) d mark
  have stays : ∀ d ∈ lastingMarks, d.toNat ≠ 0x3A3 ∧ d ∈ Text.lowerChar d :=
    List.forall_iff_forall_mem.1 (by decide +kernel)
  obtain ⟨notSigma, image⟩ := stays d mark
  exact ⟨fun known => unmarked _ known inside,
    fun known => unmarked _ known (Text.mem_lower inside notSigma image)⟩

theorem isPlain_iff_of_isNameChar {c : Char} (named : isNameChar c = true) :
    Text.isPlain c = true ↔ c.toNat < 128 := by
  refine ⟨Text.lt_of_isPlain, fun ascii => ?_⟩
  rw [isNameChar, Bool.or_eq_true, List.any_eq_true] at named
  refine named.resolve_right ?_
  rintro ⟨e, listed, same⟩
  have beyond : ∀ e ∈ otherCases, ¬ e.1.toNat < 128 := by decide
  rw [decide_eq_true_eq] at same
  exact beyond e listed (same ▸ ascii)

variable {type name : List Char}

/-- The type of a header is one of the two just if it is written in ASCII characters; else it is not
taken for one in any case. -/
theorem routineType_iff (keyword : Spells "procedure".toList type ∨ Spells "function".toList type) :
    (Text.lower (String.ofList type) ∈ routineTypes ↔ Text.Ascii type) ∧
      (Text.lower (Text.lower (String.ofList type)) ∈ routineTypes ↔ Text.Ascii type) := by
  obtain ⟨word, spelled, known⟩ : ∃ word, Spells word type ∧
      (word = "procedure".toList ∨ word = "function".toList) := by
    rcases keyword with spelled | spelled
    · exact ⟨_, spelled, .inl rfl⟩
    · exact ⟨_, spelled, .inr rfl⟩
  by_cases ascii : Text.Ascii type
  · rw [lower_of_spells spelled ascii]
    rcases known with rfl | rfl <;> simp only [ascii, iff_true] <;> decide
  · obtain ⟨d, mark, inside⟩ := exists_mark_of_spells spelled known ascii
    obtain ⟨once, again⟩ := not_mem_routineTypes_of_mark mark inside
    exact ⟨iff_of_false once ascii, iff_of_false again ascii⟩

/-- The name of a header is a plain identifier just if it is written in ASCII characters. -/
theorem isIdentifier_iff (nonempty : name ≠ []) (named : ∀ c ∈ name, isNameChar c = true) :
    Sql.isIdentifier (String.ofList name) = true ↔ Text.Ascii name := by
  have noLineFeed : '\n' ∉ name := fun inside => absurd (named _ inside) (by decide)
  rw [Sql.isIdentifier_ofList noLineFeed, and_iff_right nonempty]
  exact forall₂_congr fun c inside => isPlain_iff_of_isNameChar (named c inside)

end Header

theorem Annotations.stands_of_ofSource {source : RoutineSource} {table : ReplaceTable}
    {a : Annotations} (found : ofSource source table = .ok a) :
    a.routineName = source.name ∧ ∃ type name, Header.Stands source.text.toList type name ∧
      a.header.routineType = Text.lower (String.ofList type) ∧
      a.routineName = String.ofList name := by
  refine ⟨routineName_of_ofSource found, ?_⟩
  have headed := mapError_eq_ok.1 (parts_of_ofSource found).2
  unfold Header.ofText at headed
  split at headed
  · cases headed
  · rename_i searched
    split at headed
    · have parts := Except.ok.inj headed
      exact ⟨_, _, Header.stands_of_search? searched, congrArg Header.routineType parts.symm,
        congrArg Header.name parts.symm⟩
    · cases headed

/-- A source that was scanned has a header with a type and a name, and the name is that of the file.
The type is a procedure's or a function's just if it is written in ASCII characters, and so is the
name a plain identifier that can be quoted; a statement that drops the routine can be written just
if both are. -/
theorem scanned_header_droppable_iff {source : RoutineSource} {table : ReplaceTable}
    {a : Annotations} (found : Annotations.ofSource source table = .ok a) :
    a.routineName = source.name ∧ a.routineName ≠ "" ∧
    ∃ type name, Header.Stands source.text.toList type name ∧
      a.header.routineType = Text.lower (String.ofList type) ∧
      a.routineName = String.ofList name ∧
      (a.header.routineType ∈ routineTypes ↔ Text.Ascii type) ∧
      ((∀ c ∈ a.routineName.toList, Text.isPlain c = true) ↔ Text.Ascii name) ∧
      ((∃ quoted, Sql.backtick a.routineName = .ok quoted) ↔ Text.Ascii name) ∧
      ((∃ sql, dropStatement (.text a.header.routineType) (.text a.routineName) = .ok sql) ↔
        Text.Ascii type ∧ Text.Ascii name) := by
  obtain ⟨same, type, name, stands, typed, named⟩ := Annotations.stands_of_ofSource found
  obtain ⟨once, again⟩ := Header.routineType_iff stands.type
  have identifier := Header.isIdentifier_iff stands.nonempty stands.named
  have plain : (∀ c ∈ a.routineName.toList, Text.isPlain c = true) ↔ Text.Ascii name := by
    rw [named, String.toList_ofList]
    exact forall₂_congr fun c inside => Header.isPlain_iff_of_isNameChar (stands.named c inside)
  have quoted : (∃ quoted, Sql.backtick a.routineName = .ok quoted) ↔ Text.Ascii name := by
    rw [named, ← identifier, Sql.backtick]
    split <;> simp [*]
  have dropped : (∃ sql, dropStatement (.text a.header.routineType) (.text a.routineName) =
      .ok sql) ↔ Text.Ascii type ∧ Text.Ascii name := by
    rw [← again, ← identifier, ← typed, ← named]
    constructor
    · rintro ⟨sql, written⟩
      obtain ⟨t, n, type_eq, name_eq, known, usable, -⟩ := dropStatement_eq_ok_iff.1 written
      cases type_eq
      cases name_eq
      exact ⟨known, usable⟩
    · rintro ⟨known, usable⟩
      exact ⟨_, dropStatement_eq_ok_iff.2 ⟨_, _, rfl, rfl, known, usable, rfl⟩⟩
  refine ⟨same, ?_, type, name, stands, typed, named, typed ▸ once, plain, quoted, dropped⟩
  rw [named]
  exact fun empty => stands.nonempty (by simpa using congrArg String.toList empty)

open Sample in
theorem sample_header_droppable : Annotations.ofSource source [] = .ok annotations ∧
    annotations.header.routineType ∈ routineTypes ∧
    (∃ quoted, Sql.backtick annotations.routineName = .ok quoted) ∧
    ∃ sql, dropStatement (.text annotations.header.routineType)
      (.text annotations.routineName) = .ok sql := by
  have known : annotations.header.routineType ∈ routineTypes := by decide
  have plain : ∀ c ∈ annotations.routineName.toList, Text.isPlain c = true :=
    List.all_eq_true.1 (by decide)
  obtain ⟨-, -, type, name, -, -, -, typed, named, quoted, dropped⟩ :=
    scanned_header_droppable_iff ofSource_source
  exact ⟨ofSource_source, known, quoted.2 (named.1 plain),
    dropped.2 ⟨typed.1 known, named.1 plain⟩⟩

namespace Sample

def dotlessText : String := "create funct\u0131on a()\n-- type: rows\nbegin\nend\n"

def dotlessSource : RoutineSource := ⟨path, ".psql", dotlessText, 0⟩

end Sample

open Sample in
/-- A source is scanned although its header has a type that is neither a procedure's nor a
function's, so that its routine cannot be dropped. -/
theorem dotless_type_scanned : ∃ a, Annotations.ofSource dotlessSource [] = .ok a ∧
    a.header.routineType = "funct\u0131on" ∧ a.header.routineType ∉ routineTypes ∧
    dropStatement (.text a.header.routineType) (.text a.routineName) =
      .error (.defect (.unknownRoutineType "funct\u0131on")) := by
  have found : Placeholder.find dotlessSource.text = [] :=
    RoutineSource.find_of_spelled rfl (by decide +kernel)
  have resolved : Placeholder.resolve dotlessSource [] = .ok [] := by
    simp [Placeholder.resolve, found, Placeholder.sortTexts]
  have lines : dotlessSource.lines =
      ["create funct\u0131on a()", "-- type: rows", "begin", "end", ""] :=
    RoutineSource.lines_of_spelled rfl rfl
  have designated : Designation.ofSource dotlessSource = .ok (.plain "rows", 1) :=
    RoutineSource.designation_of_lines lines (by decide +kernel)
  have headed : Header.ofSource dotlessSource = .ok ⟨"funct\u0131on", "a"⟩ :=
    RoutineSource.header_of_spelled rfl rfl rfl
  have listed : ListParameter.ofSource dotlessSource 1 = .ok [] := by
    rw [ListParameter.ofSource, RoutineSource.beginLine?, lines]
    decide +kernel
  refine ⟨⟨⟨"funct\u0131on", "a"⟩, .plain "rows", [], []⟩, ?_, rfl, by decide, by decide +kernel⟩
  exact bind_eq_ok.2 ⟨_, resolved, bind_eq_ok.2 ⟨_, designated, bind_eq_ok.2 ⟨_, headed,
    bind_eq_ok.2 ⟨_, listed, rfl⟩⟩⟩⟩

end StoredRoutines
