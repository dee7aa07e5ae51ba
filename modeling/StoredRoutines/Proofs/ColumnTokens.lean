import StoredRoutines.Proofs.Checking
import StoredRoutines.Proofs.Tokens

/-!
Which column a token for a column type stands for. The key of a column joins its table and its name
with a dot, in upper case, and a later row with the same key replaces an earlier one. So a token gets
the type of the last column with its key. If the names of a column have no dot, another column has
the same key just if both its names are the same in upper case.
-/

namespace StoredRoutines

open Loader Outcomes

namespace Text

theorem upper_append (s t : String) : upper (s ++ t) = upper s ++ upper t := by
  rw [← String.toList_inj, toList_upper, String.toList_append, List.flatMap_append,
    String.toList_append, toList_upper, toList_upper]

end Text

namespace Placeholder

theorem eq_dot_of_mem_upperChar {c : Char} (named : isNameChar c = true)
    (dot : '.' ∈ Text.upperChar c) : c = '.' :=
  of_isNameChar (P := fun c => '.' ∈ Text.upperChar c → c = '.') (by decide +kernel) named dot

theorem tokens_of_isToken {t : List Char} (token : IsToken t) : tokens t = [t] := by
  have whole : token? t = some (t, []) := token?_eq_some_iff.2 ⟨token, (List.append_nil t).symm⟩
  rw [tokens_of_token whole]
  simp [tokens]

theorem find_of_isToken {token : String} (h : IsToken token.toList) : find token = [token] := by
  rw [find, tokens_of_isToken h, List.map_singleton, String.ofList_toList]
  rfl

/-- Under a table, sources that have the token read it as the text. -/
structure Reads (table : ReplaceTable) (token text : String) : Prop where
  alone : ∀ source : RoutineSource, source.text = token → resolve source table = .ok [(token, text)]
  within : ∀ source : RoutineSource, token ∈ find source.text →
    (∀ t ∈ find source.text, t ≠ token → ∃ v, value? table t = some v) →
    ∃ placeholders, resolve source table = .ok placeholders ∧
      ∀ shown, (token, shown) ∈ placeholders ↔ shown = text

theorem reads_of_value {table : ReplaceTable} {token : String} {v : Value}
    (spelled : IsToken token.toList) (valued : value? table token = some v) :
    Reads table token v.display := by
  constructor
  · intro source text
    have found := find_of_isToken spelled
    rw [resolve_eq_ok_iff, text, found]
    refine ⟨fun t member => ⟨v, List.mem_singleton.1 member ▸ valued⟩, ?_⟩
    simp [sortTexts, valued]
  · intro source found others
    have all (t : String) (member : t ∈ find source.text) : ∃ v, value? table t = some v := by
      by_cases same : t = token
      · exact ⟨v, same ▸ valued⟩
      · exact others t member same
    have resolved := resolve_eq_ok_iff.2 ⟨all, rfl⟩
    refine ⟨_, resolved, fun shown => ?_⟩
    rw [mem_placeholders resolved]
    simp [found, valued]

end Placeholder

namespace ColumnTypes

structure Column where
  table : String
  name : String
  type : Value
  characterSet : Value
deriving DecidableEq

structure Reports (row : Sql.Row) (c : Column) : Prop where
  table : Sql.Row.cell row "table_name" = .ok (.text c.table)
  name : Sql.Row.cell row "column_name" = .ok (.text c.name)
  type : Sql.Row.cell row "column_type" = .ok c.type
  characterSet : Sql.Row.cellOrNull row "character_set_name" = c.characterSet

namespace Column

/-- The token for the type of the column, with the names as they are. -/
def spelled (c : Column) : String := "@" ++ c.table ++ "." ++ c.name ++ "%type@"

/-- The two names joined, without regard to case. -/
def joined (c : Column) : String := Text.upper (c.table ++ "." ++ c.name)

def text (c : Column) : String := typeText c.type c.characterSet

/-- Both names can stand in a token. -/
def Named (c : Column) : Prop :=
  ∀ x ∈ c.table.toList ++ c.name.toList, Placeholder.isNameChar x = true

/-- Of all columns with the same joined names as `c`, this is the last. -/
def IsLast (columns : List Column) (c last : Column) : Prop :=
  ∃ before after, columns = before ++ last :: after ∧ last.joined = c.joined ∧
    ∀ d ∈ after, d.joined ≠ c.joined

variable {columns : List Column} {c d last : Column}

theorem upper_spelled (c : Column) : Text.upper c.spelled = "@" ++ c.joined ++ "%TYPE@" := by
  have sign : Text.upper "@" = "@" := by decide
  have mark : Text.upper "%type@" = "%TYPE@" := by decide
  have parts : c.spelled = "@" ++ (c.table ++ "." ++ c.name) ++ "%type@" := by
    simp only [spelled, String.append_assoc]
  rw [parts, Text.upper_append, Text.upper_append, sign, mark, joined]

/-- Columns share a key just if their joined names are the same. -/
theorem upper_spelled_inj : Text.upper d.spelled = Text.upper c.spelled ↔ d.joined = c.joined := by
  rw [upper_spelled, upper_spelled]
  simp

theorem isToken_spelled (named : c.Named) : Placeholder.IsToken c.spelled.toList := by
  refine ⟨c.table.toList ++ '.' :: c.name.toList, Placeholder.typeMark, by simp, fun x member => ?_,
    .inr rfl, ?_⟩
  · rcases List.mem_append.1 member with table | rest
    · exact named x (List.mem_append_left _ table)
    · rcases List.mem_cons.1 rest with rfl | name
      · decide
      · exact named x (List.mem_append_right _ name)
  · simp [spelled, Placeholder.typeMark]

/-- Without dots in its names, the joined names of a column tell its two names. -/
theorem joined_eq_iff (named : c.Named) (table : '.' ∉ c.table.toList) (name : '.' ∉ c.name.toList) :
    d.joined = c.joined ↔
      Text.upper d.table = Text.upper c.table ∧ Text.upper d.name = Text.upper c.name := by
  have dot : Text.upper "." = "." := by decide
  have split (e : Column) : e.joined.toList =
      (Text.upper e.table).toList ++ '.' :: (Text.upper e.name).toList := by
    simp [joined, Text.upper_append, dot]
  have clean {s : String} (plain : ∀ x ∈ s.toList, Placeholder.isNameChar x = true)
      (none : '.' ∉ s.toList) : '.' ∉ (Text.upper s).toList := by
    rw [Text.toList_upper, List.mem_flatMap]
    rintro ⟨x, member, image⟩
    exact none (Placeholder.eq_dot_of_mem_upperChar (plain x member) image ▸ member)
  have left := clean (fun x member => named x (List.mem_append_left _ member)) table
  have right := clean (fun x member => named x (List.mem_append_right _ member)) name
  rw [← String.toList_inj, split, split, eq_comm, List.append_cons_inj_of_notMem left right,
    String.toList_inj, String.toList_inj]
  simp [eq_comm]

theorem exists_isLast (alike : ∃ d ∈ columns, d.joined = c.joined) :
    ∃ last, IsLast columns c last := by
  induction columns with
  | nil => simp at alike
  | cons d ds ih =>
    by_cases later : ∃ e ∈ ds, e.joined = c.joined
    · obtain ⟨last, before, after, rfl, same, others⟩ := ih later
      exact ⟨last, d :: before, after, rfl, same, others⟩
    · obtain ⟨e, member, same⟩ := alike
      rcases List.mem_cons.1 member with rfl | inside
      · exact ⟨e, [], ds, rfl, same, fun f inside alike => later ⟨f, inside, alike⟩⟩
      · exact absurd ⟨e, inside, same⟩ later

theorem IsLast.mem (h : IsLast columns c last) : last ∈ columns := by
  obtain ⟨before, after, rfl, -⟩ := h
  simp

theorem IsLast.joined (h : IsLast columns c last) : last.joined = c.joined := by
  obtain ⟨_, _, -, same, -⟩ := h
  exact same

def assignment (c : Column) : String × Value := (Text.upper c.spelled, .text c.text)

theorem ofRow_of_reports {row : Sql.Row} (reports : Reports row c) :
    ofRow row = .ok c.assignment := by
  rw [ofRow, reports.table, reports.name, reports.type, reports.characterSet]
  rfl

/-- The table of all columns gives a token the type of the last column with its key. -/
theorem value_ofPairs (h : IsLast columns c last) :
    Placeholder.value? (Assoc.ofPairs (columns.map assignment)) c.spelled =
      some (.text last.text) := by
  obtain ⟨before, after, rfl, same, others⟩ := h
  rw [Placeholder.value?, Assoc.lookup_ofPairs, List.lookup_eq_some_iff]
  refine ⟨(after.map assignment).reverse, (before.map assignment).reverse, ?_, ?_⟩
  · have key := upper_spelled_inj.2 same
    simp [assignment, key]
  · intro e member
    obtain ⟨d, inside, rfl⟩ := List.mem_map.1 (List.mem_reverse.1 member)
    rw [bne_iff_ne]
    exact fun key => others d inside (upper_spelled_inj.1 key.symm)

end Column

open Column in
theorem run_build_of_reports {db : Sql.Database} {w : World} {columns : List Column}
    (answered : db.failure w.statements query = none)
    (reported : List.Forall₂ Reports (db.rows w.statements query) columns) :
    ∃ v, (ReplaceTable.build db.layer none).run w =
      (.ok (Assoc.ofPairs (columns.map assignment)), v) := by
  obtain ⟨es, run, -⟩ := ReplaceTable.run_build none answered
  have rows : (db.rows w.statements query).mapM ofRow = .ok (columns.map assignment) := by
    rw [mapM_eq_ok, List.forall₂_map_right_iff]
    exact reported.imp fun _ _ => ofRow_of_reports
  have table : ReplaceTable.ofFiles w.files none (db.rows w.statements query) =
      .ok (Assoc.ofPairs (columns.map assignment)) := by
    rw [ReplaceTable.ofFiles, rows]
    rfl
  rw [table] at run
  exact ⟨_, run⟩

open Column Placeholder in
/-- A token that is spelled with the names of a column reads as the type of the last column with the
same joined names in upper case. This is the column itself if no other has these joined names, and
so, if its names have no dot, as soon as no other column has both its names in upper case. -/
theorem column_token_reads_last {db : Sql.Database} {w : World} {columns : List Column}
    (answered : db.failure w.statements query = none)
    (reported : List.Forall₂ Reports (db.rows w.statements query) columns) :
    ∃ table v, (ReplaceTable.build db.layer none).run w = (.ok table, v) ∧
      ∀ c ∈ columns, c.Named → (∃ last, IsLast columns c last) ∧
        ∀ last, IsLast columns c last → Reads table c.spelled last.text ∧
          ((∀ d ∈ columns, d.joined = c.joined → d = c) → last = c) ∧
          ('.' ∉ c.table.toList → '.' ∉ c.name.toList →
            (∀ d ∈ columns, Text.upper d.table = Text.upper c.table →
              Text.upper d.name = Text.upper c.name → d = c) → last = c) := by
  obtain ⟨v, run⟩ := run_build_of_reports answered reported
  refine ⟨_, v, run, fun c member named => ⟨exists_isLast ⟨c, member, rfl⟩, fun last isLast => ?_⟩⟩
  have own (alone : ∀ d ∈ columns, d.joined = c.joined → d = c) : last = c :=
    alone last isLast.mem isLast.joined
  refine ⟨reads_of_value (isToken_spelled named) (value_ofPairs isLast), own, ?_⟩
  intro table name alone
  refine own fun d inside same => ?_
  obtain ⟨tables, names⟩ := (joined_eq_iff named table name).1 same
  exact alone d inside tables names

end ColumnTypes

namespace Sample

open ColumnTypes

/-- Two columns that differ in case alone, two whose names are joined to the same text, and one
without another like it. -/
def columns : List Column :=
  [⟨"T", "x", .text "int(11)", .null⟩, ⟨"t", "x", .text "varchar(10)", .text "utf8mb4"⟩,
    ⟨"a.b", "c", .text "date", .null⟩, ⟨"a", "b.c", .text "time", .null⟩,
    ⟨"u", "y", .text "char(3)", .text "ascii"⟩]

def reporting : Sql.Database where
  failure _ _ := none
  rows _ _ := columns.map fun c => [("table_name", .text c.table), ("column_name", .text c.name),
    ("column_type", c.type), ("character_set_name", c.characterSet)]
  scalar _ _ := .null
  escape := Sql.escapeForScript

theorem reports_columns (before : List String) (sql : String) :
    List.Forall₂ Reports (reporting.rows before sql) columns :=
  List.forall₂_map_left_iff.2 (List.forall₂_same.2 fun _ _ => ⟨rfl, rfl, rfl, rfl⟩)

theorem named_of_mem_columns : ∀ c ∈ columns, c.Named := by
  have all : ∀ c ∈ columns,
      (c.table.toList ++ c.name.toList).all Placeholder.isNameChar = true := by decide
  exact fun c member => List.all_eq_true.1 (all c member)

theorem isLast_T_x : Column.IsLast columns ⟨"T", "x", .text "int(11)", .null⟩
    ⟨"t", "x", .text "varchar(10)", .text "utf8mb4"⟩ :=
  ⟨[_], _, rfl, by decide, by decide⟩

theorem isLast_a_b_c : Column.IsLast columns ⟨"a.b", "c", .text "date", .null⟩
    ⟨"a", "b.c", .text "time", .null⟩ :=
  ⟨[_, _, _], _, rfl, by decide, by decide⟩

end Sample

open Sample Placeholder in
/-- The column without another like it has its own token, and of the two that differ in case the
last has the tokens of both. -/
theorem sample_tokens_read : ∃ table v,
    (ReplaceTable.build reporting.layer none).run (world text) = (.ok table, v) ∧
      Reads table "@u.y%type@" "char(3) character set ascii" ∧
      Reads table "@T.x%type@" "varchar(10) character set utf8mb4" := by
  have reported := reports_columns (world text).statements ColumnTypes.query
  obtain ⟨table, v, run, tokens⟩ := ColumnTypes.column_token_reads_last (by rfl) reported
  refine ⟨table, v, run, ?_, ?_⟩
  · have member : ⟨"u", "y", .text "char(3)", .text "ascii"⟩ ∈ columns := by simp [columns]
    obtain ⟨⟨last, isLast⟩, reads⟩ := tokens _ member (named_of_mem_columns _ member)
    obtain ⟨reads, -, own⟩ := reads last isLast
    obtain rfl := own (by decide) (by decide) (by decide)
    exact reads
  · have member : ⟨"T", "x", .text "int(11)", .null⟩ ∈ columns := by simp [columns]
    obtain ⟨-, reads⟩ := tokens _ member (named_of_mem_columns _ member)
    exact (reads _ isLast_T_x).1

open Sample Placeholder in
/-- Of columns that differ in case alone, or whose names are joined to the same text, only the last
has a token of its own, though the pairs of their names are distinct. -/
theorem earlier_column_overwritten : ∃ table v,
    (ReplaceTable.build reporting.layer none).run (world text) = (.ok table, v) ∧
    List.Forall₂ ColumnTypes.Reports
      (reporting.rows (world text).statements ColumnTypes.query) columns ∧
    columns.Pairwise (fun c d => (c.table, c.name) ≠ (d.table, d.name)) ∧
    (∀ c ∈ columns, c.Named) ∧
    (∃ c ∈ columns, c.spelled = "@T.x%type@" ∧ c.text = "int(11)" ∧
      ∀ source : RoutineSource, source.text = c.spelled →
        resolve source table = .ok [(c.spelled, "varchar(10) character set utf8mb4")]) ∧
    (∃ c ∈ columns, c.spelled = "@a.b.c%type@" ∧ c.text = "date" ∧
      ∀ source : RoutineSource, source.text = c.spelled →
        resolve source table = .ok [(c.spelled, "time")]) := by
  have reported := reports_columns (world text).statements ColumnTypes.query
  obtain ⟨v, run⟩ := ColumnTypes.run_build_of_reports (by rfl) reported
  refine ⟨_, v, run, reported, by decide, named_of_mem_columns, ?_, ?_⟩
  · have member : ⟨"T", "x", .text "int(11)", .null⟩ ∈ columns := by simp [columns]
    have token := ColumnTypes.Column.isToken_spelled (named_of_mem_columns _ member)
    have value := ColumnTypes.Column.value_ofPairs isLast_T_x
    exact ⟨_, member, by decide, by decide, (reads_of_value token value).alone⟩
  · have member : ⟨"a.b", "c", .text "date", .null⟩ ∈ columns := by simp [columns]
    have token := ColumnTypes.Column.isToken_spelled (named_of_mem_columns _ member)
    have value := ColumnTypes.Column.value_ofPairs isLast_a_b_c
    exact ⟨_, member, by decide, by decide, (reads_of_value token value).alone⟩

end StoredRoutines
