import StoredRoutines.Proofs.ColumnTokens
import StoredRoutines.Proofs.Preparing
import StoredRoutines.Proofs.SourceTexts

/-!
Files of constants. A value between single quotes on a line of its own comes back as it was written,
whatever it holds: the first equals sign stands behind the name, nothing is trimmed, and the quotes
that are dropped are those around it. Names count in upper case, and the last value of a name wins,
over earlier ones and over the type of a column.
-/

namespace StoredRoutines

open Loader Outcomes Text

namespace Assoc

variable {α β : Type} [BEq α] [LawfulBEq α] {assignments : List (α × β)}

theorem mem_keys_ofPairs {k : α} : k ∈ keys (ofPairs assignments) ↔ k ∈ keys assignments := by
  rw [← not_iff_not, ← lookup_eq_none_iff, lookup_ofPairs, lookup_eq_none_iff, keys, keys,
    List.map_reverse, List.mem_reverse]

theorem mem_ofPairs {k : α} {v : β} : (k, v) ∈ ofPairs assignments ↔
    ∃ before after, assignments = before ++ (k, v) :: after ∧ ∀ e ∈ after, e.1 ≠ k := by
  have looked : (k, v) ∈ ofPairs assignments ↔ (ofPairs assignments).lookup k = some v :=
    ⟨lookup_of_mem (nodup_keys_ofPairs assignments), mem_of_lookup⟩
  rw [looked, lookup_ofPairs, List.lookup_eq_some_iff]
  constructor
  · rintro ⟨after, before, split, others⟩
    refine ⟨before.reverse, after.reverse, ?_, fun e member => ?_⟩
    · rw [← List.reverse_reverse assignments, split]
      simp
    · exact (bne_iff_ne.1 (others e (List.mem_reverse.1 member))).symm
  · rintro ⟨before, after, rfl, others⟩
    refine ⟨after.reverse, before.reverse, by simp, fun e member => ?_⟩
    exact bne_iff_ne.2 (others e (List.mem_reverse.1 member)).symm

end Assoc

namespace Constants

/-- A character of the name of a constant. With a percent sign, the constant takes the place of the
type of a column. -/
def isNameChar (c : Char) : Bool := Placeholder.isNameChar c || c = '%'

/-- An assignment that fits on a line, with any value that does. -/
structure Assignment where
  name : String
  value : String
  named : name ≠ ""
  plain : ∀ c ∈ name.toList, isNameChar c = true
  oneLine : ∀ c ∈ value.toList, c ≠ '\n' ∧ c ≠ '\r'

namespace Assignment

def line (a : Assignment) : List Char := a.name.toList ++ '=' :: '\'' :: (a.value.toList ++ ['\''])

def upperName (a : Assignment) : String := String.ofList (a.name.toList.map Char.toUpper)

def key (a : Assignment) : String := "@" ++ a.upperName ++ "@"

def entry (a : Assignment) : String × Value := (a.key, .text a.value)

/-- No assignment to the name follows this one. -/
def IsLast (assignments : List Assignment) (a : Assignment) : Prop :=
  ∃ before after, assignments = before ++ a :: after ∧ ∀ b ∈ after, b.upperName ≠ a.upperName

end Assignment

/-- A line of blanks, or of blanks and a comment. -/
def Silent (line : List Char) : Prop :=
  ∃ lead rest, Blank lead ∧ line = lead ++ rest ∧ (rest = [] ∨ ∃ more, rest = '#' :: more)

/-- The lines make the assignments in order, and say nothing else. -/
inductive Holds : List (List Char) → List Assignment → Prop
  | nil : Holds [] []
  | silent {l : List Char} {ls : List (List Char)} {as : List Assignment} (silent : Silent l)
      (oneLine : ∀ c ∈ l, c ≠ '\n' ∧ c ≠ '\r') (more : Holds ls as) : Holds (l :: ls) as
  | assigned {ls : List (List Char)} {as : List Assignment} (a : Assignment) (more : Holds ls as) :
      Holds (a.line :: ls) (a :: as)

/-! One line. -/

section

variable {c : Char} {l : List Char} {a b : Assignment}

theorem of_isNameChar (named : isNameChar c = true) :
    c.toNat < 128 ∧ isBlank c = false ∧ c ≠ '#' ∧ c ≠ '=' := by
  rcases Bool.or_eq_true_iff.1 named with named | percent
  · refine ⟨?_, Placeholder.not_isBlank_of_isNameChar named, ?_⟩
    · exact Placeholder.of_isNameChar (P := fun c => c.toNat < 128) (by decide +kernel) named
    · constructor <;> rintro rfl <;> exact absurd named (by decide)
  · rw [of_decide_eq_true percent]
    decide

theorem ofText_of_silent (silent : Silent l) : Line.ofText l = .skipped := by
  obtain ⟨lead, rest, blank, rfl, rfl | ⟨more, rfl⟩⟩ := silent
  · have nothing : trim (lead ++ []) = [] :=
      trim_eq_iff.2
        ⟨lead, [], blank, blank_nil, by simp, by simp [StartsTight], by simp [EndsTight]⟩
    rw [Line.ofText, nothing]
  · -- The sign of the comment is no blank, so it is what is left in front.
    obtain ⟨trail, behind, split, ends⟩ := exists_trimRight ('#' :: more)
    have sign : isBlank '#' = false := rfl
    cases kept : trimRight ('#' :: more) with
    | nil =>
      rw [kept, List.nil_append] at split
      exact absurd (behind '#' (split ▸ List.mem_cons_self)) (by rw [sign]; decide)
    | cons c cs =>
      rw [kept] at split ends
      obtain ⟨rfl, rfl⟩ := List.cons.inj split
      have left : trim (lead ++ '#' :: (cs ++ trail)) = '#' :: cs :=
        trim_eq_iff.2 ⟨lead, trail, blank, behind, rfl, by simp [StartsTight, sign], ends⟩
      rw [Line.ofText, List.append_eq, left]
      rfl

theorem ofText_of_trim {cs : List Char} (trimmed : trim l = c :: cs) (sign : c ≠ '#') :
    Line.ofText l = match (c :: cs).dropWhile (· != '=') with
      | _ :: value => .assignment (token ((c :: cs).takeWhile (· != '=')))
          (String.ofList (dropQuotes (trim value)))
      | [] => .other := by
  rw [Line.ofText, trimmed]
  split
  · rename_i same
    cases same
  · rename_i same
    exact absurd (List.cons.inj same).1 sign
  · rfl

theorem token_name (a : Assignment) : token a.name.toList = a.key := by
  have unblank : ∀ c ∈ a.name.toList, isBlank c = false := fun c member =>
    (of_isNameChar (a.plain c member)).2.1
  have tight : trim a.name.toList = a.name.toList :=
    trim_eq_iff.2 ⟨[], [], blank_nil, blank_nil, by simp, startsTight_of_unbroken unblank,
      endsTight_of_unbroken unblank⟩
  have each : a.name.toList.flatMap upperChar = a.name.toList.map Char.toUpper := by
    rw [List.map_eq_flatMap]
    exact List.flatMap_congr fun c member => if_pos (of_isNameChar (a.plain c member)).1
  rw [token, tight, Assignment.key, Assignment.upperName, upper, String.toList_ofList, each]

/-- What stands between quotes is neither trimmed nor cut, whatever it is. -/
theorem ofText_line (a : Assignment) : Line.ofText a.line = .assignment a.key a.value := by
  obtain ⟨c, cs, split⟩ := List.exists_cons_of_ne_nil (String.toList_eq_nil_iff.not.2 a.named)
  have plain : ∀ d ∈ a.name.toList, (d != '=') = true := fun d member => by
    simpa using (of_isNameChar (a.plain d member)).2.2.2
  obtain ⟨-, unblank, sign, -⟩ := of_isNameChar (a.plain c (split ▸ List.mem_cons_self))
  have quote : isBlank '\'' = false := rfl
  have quoted {s : List Char} : EndsTight (s ++ ['\'']) := by simp [EndsTight, quote]
  -- Neither the line nor the quoted value starts or ends with a blank, so nothing is trimmed.
  have whole : trim a.line = a.line := by
    refine trim_eq_iff.2 ⟨[], [], blank_nil, blank_nil, by simp, ?_, ?_⟩
    · rw [Assignment.line, split]
      simp [StartsTight, unblank]
    · rw [Assignment.line, ← List.cons_append, ← List.cons_append, ← List.append_assoc]
      exact quoted
  have inner : trim ('\'' :: (a.value.toList ++ ['\''])) = '\'' :: (a.value.toList ++ ['\'']) := by
    refine trim_eq_iff.2 ⟨[], [], blank_nil, blank_nil, by simp, by simp [StartsTight, quote], ?_⟩
    exact quoted (s := '\'' :: a.value.toList)
  have value : dropQuotes ('\'' :: (a.value.toList ++ ['\''])) = a.value.toList := by
    simp [dropQuotes, isQuote]
  have behind : a.line.dropWhile (· != '=') = '=' :: '\'' :: (a.value.toList ++ ['\'']) :=
    dropWhile_append_of_stop plain (by simp)
  have before : a.line.takeWhile (· != '=') = a.name.toList :=
    takeWhile_append_of_stop plain (by simp)
  have first : a.line = c :: (cs ++ '=' :: '\'' :: (a.value.toList ++ ['\''])) := by
    rw [Assignment.line, split, List.cons_append]
  rw [ofText_of_trim (whole.trans first) sign, ← first, behind, before]
  simp only [inner, value, token_name, String.ofList_toList]

end

/-! The whole file. -/

theorem ofLines_of_holds {ls : List (List Char)} {assignments : List Assignment}
    (written : Holds ls assignments) : ofLines (ls.map Line.ofText) =
      Assoc.ofPairs (assignments.map Assignment.entry) := by
  refine congrArg Assoc.ofPairs ?_
  induction written with
  | nil => rfl
  | silent silent _ _ ih =>
    rw [List.map_cons, ofText_of_silent silent]
    exact ih
  | assigned a _ ih =>
    rw [List.map_cons, ofText_line]
    exact congrArg (a.entry :: ·) ih

theorem strayLines_of_holds {ls : List (List Char)} {assignments : List Assignment}
    (written : Holds ls assignments) : strayLines (ls.map Line.ofText) = [] := by
  have each : ∀ line ∈ ls.map Line.ofText, line ≠ .other := by
    induction written with
    | nil => simp
    | silent silent _ _ ih =>
      rw [List.map_cons, ofText_of_silent silent]
      exact List.forall_mem_cons.2 ⟨by decide, ih⟩
    | assigned a _ ih =>
      rw [List.map_cons, ofText_line]
      exact List.forall_mem_cons.2 ⟨by simp, ih⟩
  rw [strayLines, List.map_eq_nil_iff, List.filter_eq_nil_iff]
  rintro ⟨line, n⟩ member
  simpa using each line (List.fst_mem_of_mem_zipIdx member)

theorem oneLine_of_holds {ls : List (List Char)} {assignments : List Assignment}
    (written : Holds ls assignments) : ∀ l ∈ ls, ∀ c ∈ l, c ≠ '\n' ∧ c ≠ '\r' := by
  induction written with
  | nil => simp
  | silent _ oneLine _ ih => exact List.forall_mem_cons.2 ⟨oneLine, ih⟩
  | assigned a _ ih =>
    refine List.forall_mem_cons.2 ⟨fun c member => ?_, ih⟩
    rcases List.mem_append.1 member with name | rest
    · have unblank := (of_isNameChar (a.plain c name)).2.1
      constructor <;> rintro rfl <;> cases unblank
    · simp only [List.mem_cons, List.mem_append, List.not_mem_nil, or_false] at rest
      rcases rest with rfl | rfl | value | rfl
      · decide
      · decide
      · exact a.oneLine c value
      · decide

/-- Read from a file, the lines are those that were written. -/
theorem holds_of_content {ls : List (List Char)} {assignments : List Assignment}
    (written : Holds ls assignments) :
    ∃ ls', linesOfText (withUnifiedLineEnds (String.ofList (joinWith '\n' ls))) =
      ls'.map Line.ofText ∧ Holds ls' assignments := by
  have oneLine := oneLine_of_holds written
  have none : '\r' ∉ joinWith '\n' ls := by
    intro inside
    rcases eq_or_mem_of_mem_joinWith inside with same | ⟨l, member, here⟩
    · cases same
    · exact (oneLine l member _ here).2 rfl
  rw [linesOfText, withUnifiedLineEnds, String.toList_ofList, String.toList_ofList,
    unifyLineEnds_of_no_return none]
  by_cases empty : ls = []
  · -- A text without lines has an empty one.
    subst empty
    cases written
    exact ⟨[[]], rfl, .silent ⟨[], [], blank_nil, rfl, .inl rfl⟩ (by simp) .nil⟩
  · have split : splitOn '\n' (joinWith '\n' ls) = ls :=
      splitOn_eq_iff.2 ⟨empty, rfl, fun l member inside => (oneLine l member _ inside).1 rfl⟩
    exact ⟨ls, by rw [split], written⟩

theorem run_read_of_holds {w : World} {p : Path} {f : File} {ls : List (List Char)}
    {assignments : List Assignment} (written : Holds ls assignments)
    (file : w.files.read p = .ok f)
    (content : f.content = (String.ofList (joinWith '\n' ls)).toUTF8) :
    (read p).run w = (.ok (Assoc.ofPairs (assignments.map Assignment.entry)), w) := by
  obtain ⟨ls', lines, written'⟩ := holds_of_content written
  rw [read, run_bind_of_ok (run_getFiles w), file]
  simp only [content, decode_toUTF8, lines, report, strayLines_of_holds written',
    ofLines_of_holds written']
  rfl

theorem Assignment.key_inj {a b : Assignment} : a.key = b.key ↔ a.upperName = b.upperName := by
  simp [key]

open Assignment in
theorem mem_table {assignments : List Assignment} {key : String} {v : Value} :
    (key, v) ∈ Assoc.ofPairs (assignments.map entry) ↔
      ∃ a, IsLast assignments a ∧ key = a.key ∧ v = .text a.value := by
  rw [Assoc.mem_ofPairs]
  constructor
  · rintro ⟨before, after, split, others⟩
    obtain ⟨before', rest, rfl, rfl, split'⟩ := List.map_eq_append_iff.1 split
    obtain ⟨a, after', rfl, same, rfl⟩ := List.map_eq_cons_iff.1 split'
    obtain ⟨rfl, rfl⟩ := Prod.mk.inj same
    refine ⟨a, ⟨before', after', rfl, fun b member names => ?_⟩, rfl, rfl⟩
    exact others _ (List.mem_map.2 ⟨b, member, rfl⟩) (key_inj.2 names)
  · rintro ⟨a, ⟨before, after, rfl, others⟩, rfl, rfl⟩
    refine ⟨_, _, List.map_append, fun e member => ?_⟩
    obtain ⟨b, inside, rfl⟩ := List.mem_map.1 member
    exact fun keys => others b inside (key_inj.1 keys)

open Assignment in
/-- Constants survive their file. Whatever the values hold, reading a file of assignments gives one
entry for each name in upper case, with the last value of the name as it was written, and logs
nothing. In the replace table of a batch these values win over types of columns with the same
key. -/
theorem constants_read_back {w : World} {p : Path} {f : File} {ls : List (List Char)}
    {assignments : List Assignment} (written : Holds ls assignments)
    (file : w.files.read p = .ok f)
    (content : f.content = (String.ofList (joinWith '\n' ls)).toUTF8) :
    ∃ table, (read p).run w = (.ok table, w) ∧ (Assoc.keys table).Nodup ∧
      (∀ key, key ∈ Assoc.keys table ↔ ∃ a ∈ assignments, key = a.key) ∧
      (∀ key v, (key, v) ∈ table ↔
        ∃ a, IsLast assignments a ∧ key = a.key ∧ v = .text a.value) ∧
      ∀ layer v types, (ColumnTypes.fetch layer).run v = (.ok types, w) →
        ∃ merged u, (ReplaceTable.build (some layer) (some p)).run v = (.ok merged, u) ∧
          ∀ key, merged.lookup key = (table.lookup key).or (types.lookup key) := by
  have reading := run_read_of_holds written file content
  have distinct := Assoc.nodup_keys_ofPairs (assignments.map entry)
  refine ⟨_, reading, distinct, fun key => ?_, fun _ _ => mem_table, fun layer v types typed => ?_⟩
  · rw [Assoc.mem_keys_ofPairs, Assoc.keys, List.map_map, List.mem_map]
    exact exists_congr fun a => and_congr_right' eq_comm
  · refine ⟨_, _, (run_bind_of_ok typed).trans (run_bind_of_ok reading), fun key => ?_⟩
    rw [Assoc.lookup_putAll, Assoc.lookup_perm (List.reverse_perm _).symm distinct]

end Constants

namespace Sample

open Constants

/-- Three assignments, two of them to one name that is the key of a column type, too. -/
def label : Assignment :=
  ⟨"n.1", " it's = # ", by decide, List.all_eq_true.1 (by decide), by simp⟩

def earlierType : Assignment :=
  ⟨"T.c%type", "date", by decide, List.all_eq_true.1 (by decide), by simp⟩

def laterType : Assignment :=
  ⟨"t.C%type", "'", by decide, List.all_eq_true.1 (by decide), by simp⟩

def constantLines : List (List Char) :=
  ["# values".toList, earlierType.line, "  ".toList, label.line, laterType.line, []]

theorem holds_constantLines : Holds constantLines [earlierType, label, laterType] := by
  have blanks : Silent "  ".toList :=
    ⟨"  ".toList, [], List.all_eq_true.1 (by decide), rfl, .inl rfl⟩
  have empty : Silent [] := ⟨[], [], blank_nil, rfl, .inl rfl⟩
  have comment : Silent "# values".toList := ⟨[], _, blank_nil, rfl, .inr ⟨_, rfl⟩⟩
  exact .silent comment (by simp) (.assigned _ (.silent blanks (by simp)
    (.assigned _ (.assigned _ (.silent empty (by simp) .nil)))))

def constantsWorld (events : List Event) : World :=
  ⟨⟨[(["k.ini"], .file ⟨(String.ofList (joinWith '\n' constantLines)).toUTF8, 0⟩)], []⟩, true,
    events⟩

def typesAsked : World := constantsWorld [.statement ColumnTypes.query]

end Sample

open Sample Constants in
theorem sample_constants_read_back : ∃ table merged u,
    (read constantsPath).run typesAsked = (.ok table, typesAsked) ∧
    table.lookup "@N.1@" = some (.text " it's = # ") ∧
    (ReplaceTable.build (some (answering [columnRow]).layer) (some constantsPath)).run
      (constantsWorld []) = (.ok merged, u) ∧
    merged.lookup "@T.C%TYPE@" = some (.text "'") := by
  have file : typesAsked.files.read constantsPath =
      .ok ⟨(String.ofList (joinWith '\n' constantLines)).toUTF8, 0⟩ := rfl
  have fetched : (ColumnTypes.fetch (answering [columnRow]).layer).run (constantsWorld []) =
      (.ok [("@T.C%TYPE@", .text "int(11)")], typesAsked) := rfl
  obtain ⟨table, run, distinct, -, pairs, wins⟩ :=
    constants_read_back holds_constantLines file rfl
  obtain ⟨merged, u, built, values⟩ := wins _ _ _ fetched
  have value {a : Assignment} (last : Assignment.IsLast [earlierType, label, laterType] a) :
      table.lookup a.key = some (.text a.value) :=
    Assoc.lookup_of_mem distinct ((pairs _ _).2 ⟨a, last, rfl, rfl⟩)
  have labelled : table.lookup "@N.1@" = some (.text " it's = # ") :=
    value ⟨[earlierType], [laterType], rfl, by decide⟩
  have typed : table.lookup "@T.C%TYPE@" = some (.text "'") :=
    value ⟨[earlierType, label], [], rfl, by decide⟩
  exact ⟨table, merged, u, run, labelled, built, by rw [values, typed]; rfl⟩

end StoredRoutines
