import StoredRoutines.Proofs.Consistency
import StoredRoutines.Proofs.DryRuns
import StoredRoutines.Proofs.Protocol
import StoredRoutines.Proofs.Splitting

/-!
Statements that drop a routine. Such a statement tells the type and the name of the routine, and no
other statement of the loader can be taken for one: not even the creation of a routine, since its
source has a designation, whose hyphens no plain identifier holds.
-/

namespace StoredRoutines

open Loader Outcomes

def routineDrop (type name : String) : String :=
  "drop " ++ type ++ " if exists `" ++ name ++ "`"

/-- The statement drops the routine of a name. -/
def DropsRoutine (name sql : String) : Prop :=
  Sql.isIdentifier name = true ∧ ∃ type ∈ routineTypes, sql = routineDrop type name

theorem Sql.backtick_eq_ok_iff {s quoted : String} :
    backtick s = .ok quoted ↔ isIdentifier s = true ∧ quoted = "`" ++ s ++ "`" := by
  unfold backtick
  split
  · rename_i plain
    simp [plain, eq_comm]
  · rename_i other
    simp [other]

theorem Sql.backtickValue_eq_ok_iff {v : Value} {quoted : String} :
    backtickValue v = .ok quoted ↔
      ∃ s, v = .text s ∧ isIdentifier s = true ∧ quoted = "`" ++ s ++ "`" := by
  unfold backtickValue
  split
  · rename_i s
    rw [backtick_eq_ok_iff]
    constructor
    · exact fun plain => ⟨s, rfl, plain⟩
    · rintro ⟨_, ⟨⟩, plain⟩
      exact plain
  · simp
  · rename_i other _
    refine ⟨fun same => (by cases same), ?_⟩
    rintro ⟨s, rfl, -⟩
    exact absurd rfl (other s)

theorem droppableType_eq_ok_iff {v : Value} {type : String} : droppableType v = .ok type ↔
    ∃ s, v = .text s ∧ Text.lower s ∈ routineTypes ∧ type = Text.lower s := by
  unfold droppableType
  split
  · rename_i s
    simp only [List.contains_iff_mem]
    split
    · rename_i known
      simp [known, eq_comm]
    · rename_i other
      simp [other]
  · simp
  · rename_i other _
    refine ⟨fun same => (by cases same), ?_⟩
    rintro ⟨s, rfl, -⟩
    exact absurd rfl (other s)

/-- A drop can be written for a type in any case and for a plain identifier. -/
theorem dropStatement_eq_ok_iff {type name : Value} {sql : String} :
    dropStatement type name = .ok sql ↔ ∃ t n, type = .text t ∧ name = .text n ∧
      Text.lower t ∈ routineTypes ∧ Sql.isIdentifier n = true ∧
      sql = routineDrop (Text.lower t) n := by
  have assembled (t n : String) :
      "drop " ++ t ++ " if exists " ++ ("`" ++ n ++ "`") = routineDrop t n := by
    simp only [routineDrop, String.append_assoc]
    rfl
  rw [dropStatement, bind_eq_ok]
  constructor
  · rintro ⟨type', typed, rest⟩
    obtain ⟨name', named, last⟩ := bind_eq_ok.1 rest
    cases last
    obtain ⟨t, rfl, known, rfl⟩ := droppableType_eq_ok_iff.1 typed
    obtain ⟨n, rfl, plain, rfl⟩ := Sql.backtickValue_eq_ok_iff.1 named
    exact ⟨t, n, rfl, rfl, known, plain, assembled _ n⟩
  · rintro ⟨t, n, rfl, rfl, known, plain, rfl⟩
    have typed := droppableType_eq_ok_iff.2 ⟨t, rfl, known, rfl⟩
    have named := Sql.backtickValue_eq_ok_iff.2 ⟨n, rfl, plain, rfl⟩
    refine ⟨_, typed, bind_eq_ok.2 ⟨_, named, ?_⟩⟩
    rw [assembled]
    rfl

theorem dropsRoutine_of_dropStatement {type name : Value} {sql : String}
    (written : dropStatement type name = .ok sql) :
    ∃ n, name = .text n ∧ DropsRoutine n sql := by
  obtain ⟨t, n, -, name, known, plain, rfl⟩ := dropStatement_eq_ok_iff.1 written
  exact ⟨n, name, plain, _, known, rfl⟩

theorem toList_routineDrop (type name : String) : (routineDrop type name).toList =
    "drop ".toList ++ (type.toList ++ (" if exists `".toList ++ (name.toList ++ ['`']))) := by
  simp only [routineDrop, String.toList_append, List.append_assoc]
  rfl

theorem routineDrop_inj {type type' name name' : String} (known : type ∈ routineTypes)
    (known' : type' ∈ routineTypes) (same : routineDrop type name = routineDrop type' name') :
    type = type' ∧ name = name' := by
  have chars := congrArg String.toList same
  rw [toList_routineDrop, toList_routineDrop, List.append_cancel_left_eq] at chars
  have different (s t : List Char) : "procedure".toList ++ s ≠ "function".toList ++ t := by
    intro equal
    cases equal
  simp only [routineTypes, List.mem_cons, List.not_mem_nil, or_false] at known known'
  rcases known with rfl | rfl <;> rcases known' with rfl | rfl
  · rw [List.append_cancel_left_eq, List.append_cancel_left_eq, List.append_cancel_right_eq]
      at chars
    exact ⟨rfl, String.toList_inj.1 chars⟩
  · exact absurd chars (different _ _)
  · exact absurd chars.symm (different _ _)
  · rw [List.append_cancel_left_eq, List.append_cancel_left_eq, List.append_cancel_right_eq]
      at chars
    exact ⟨rfl, String.toList_inj.1 chars⟩

theorem DropsRoutine.name_unique {m n sql : String} (first : DropsRoutine m sql)
    (second : DropsRoutine n sql) : m = n := by
  obtain ⟨-, type, known, rfl⟩ := first
  obtain ⟨-, type', known', same⟩ := second
  exact (routineDrop_inj known known' same).2

theorem Sql.no_hyphen_of_isIdentifier {s : String} (plain : isIdentifier s = true) :
    '-' ∉ s.toList := by
  intro inside
  rw [isIdentifier, Bool.and_eq_true] at plain
  have kept : '-' ∈ dropFinalLineFeed s.toList := by
    unfold dropFinalLineFeed
    split
    · rename_i last
      rw [List.getLast?_eq_some_iff] at last
      obtain ⟨body, whole⟩ := last
      rw [whole] at inside ⊢
      rw [List.dropLast_concat]
      simpa using inside
    · exact inside
  exact absurd (List.all_eq_true.1 plain.2 _ kept) (by decide)

theorem DropsRoutine.no_hyphen {name sql : String} (h : DropsRoutine name sql) :
    '-' ∉ sql.toList := by
  obtain ⟨plain, type, known, rfl⟩ := h
  have types : ∀ t ∈ routineTypes, '-' ∉ t.toList := by decide
  rw [toList_routineDrop]
  simp only [List.mem_append, not_or]
  exact ⟨by decide, types _ known, by decide, Sql.no_hyphen_of_isIdentifier plain, by decide⟩

theorem not_dropsRoutine_of_prefix {start name sql : String} (starts : start.toList <+: sql.toList)
    (procedure : ¬ start.toList.take 6 <+: "drop p".toList)
    (function : ¬ start.toList.take 6 <+: "drop f".toList) : ¬ DropsRoutine name sql := by
  rintro ⟨-, type, known, rfl⟩
  have first : start.toList.take 6 <+: (routineDrop type name).toList :=
    (List.take_prefix 6 _).trans starts
  have short : (start.toList.take 6).length ≤ 6 := List.length_take_le _ _
  have typed : "drop p".toList <+: (routineDrop type name).toList ∨
      "drop f".toList <+: (routineDrop type name).toList := by
    rw [toList_routineDrop]
    simp only [routineTypes, List.mem_cons, List.not_mem_nil, or_false] at known
    rcases known with rfl | rfl
    · exact .inl ⟨_, rfl⟩
    · exact .inr ⟨_, rfl⟩
  rcases typed with second | second
  · exact procedure (List.prefix_of_prefix_length_le first second short)
  · exact function (List.prefix_of_prefix_length_le first second short)

theorem prefix_toList_append (s t : String) : s.toList <+: (s ++ t).toList :=
  ⟨t.toList, String.toList_append.symm⟩

theorem not_dropsRoutine_of_mem_session {session : SessionSettings} {escape : String → String}
    {name sql : String} (member : sql ∈ session.statements escape) : ¬ DropsRoutine name sql := by
  simp only [SessionSettings.statements, List.mem_cons, List.not_mem_nil, or_false] at member
  rcases member with rfl | rfl
  · exact not_dropsRoutine_of_prefix (prefix_toList_append "set sql_mode = " _) (by decide)
      (by decide)
  · simp only [String.append_assoc]
    exact not_dropsRoutine_of_prefix (prefix_toList_append "set names " _) (by decide) (by decide)

theorem not_dropsRoutine_of_newline {sql name : String}
    (starts : ∃ rest, sql.toList = '\n' :: rest) : ¬ DropsRoutine name sql := by
  rintro ⟨-, type, -, rfl⟩
  obtain ⟨rest, chars⟩ := starts
  cases (toList_routineDrop type name).symm.trans chars

theorem exists_toList_append {c : Char} {s : String} (starts : ∃ rest, s.toList = c :: rest)
    (t : String) : ∃ rest, (s ++ t).toList = c :: rest := by
  obtain ⟨rest, chars⟩ := starts
  exact ⟨rest ++ t.toList, by rw [String.toList_append, chars, List.cons_append]⟩

set_option maxRecDepth 4000 in
theorem RoutineCatalog.query_newline : ∃ rest, query.toList = '\n' :: rest :=
  ⟨_, String.toList_ofList⟩

set_option maxRecDepth 4000 in
theorem ColumnTypes.query_newline : ∃ rest, query.toList = '\n' :: rest :=
  ⟨_, String.toList_ofList⟩

set_option maxRecDepth 4000 in
theorem CatalogParameter.query_newline (literal : String) :
    ∃ rest, (query literal).toList = '\n' :: rest :=
  exists_toList_append (exists_toList_append ⟨_, String.toList_ofList⟩ _) _

theorem Batch.not_dropsRoutine_of_mem_questions {name sql : String}
    (member : sql ∈ questions.written) : ¬ DropsRoutine name sql := by
  have asked : questions.written = [RoutineCatalog.query, ColumnTypes.query] := rfl
  simp only [asked, List.mem_cons, List.not_mem_nil, or_false] at member
  rcases member with rfl | rfl
  · exact not_dropsRoutine_of_newline RoutineCatalog.query_newline
  · exact not_dropsRoutine_of_newline ColumnTypes.query_newline

namespace BulkTable

set_option maxRecDepth 4000 in
theorem existsQuery_newline (literal : String) :
    ∃ rest, (existsQuery literal).toList = '\n' :: rest :=
  exists_toList_append (exists_toList_append ⟨_, String.toList_ofList⟩ _) _

theorem not_dropsRoutine_callStatement {routine : Value} {name sql : String}
    (written : callStatement routine = .ok sql) : ¬ DropsRoutine name sql := by
  obtain ⟨quoted, -, last⟩ := bind_eq_ok.1 written
  cases last
  rw [String.append_assoc]
  exact not_dropsRoutine_of_prefix (prefix_toList_append "call " _) (by decide) (by decide)

theorem not_dropsRoutine_describeQuery {table : Value} {name sql : String}
    (written : describeQuery table = .ok sql) : ¬ DropsRoutine name sql := by
  obtain ⟨quoted, -, last⟩ := bind_eq_ok.1 written
  cases last
  exact not_dropsRoutine_of_prefix (prefix_toList_append "describe " _) (by decide) (by decide)

theorem not_dropsRoutine_dropStatement {table : Value} {name sql : String}
    (written : BulkTable.dropStatement table = .ok sql) : ¬ DropsRoutine name sql := by
  obtain ⟨quoted, -, last⟩ := bind_eq_ok.1 written
  cases last
  exact not_dropsRoutine_of_prefix
    (prefix_toList_append "drop temporary table if exists " _) (by decide) (by decide)

end BulkTable

theorem Plan.mem_written {plan : Plan} {sql : String} :
    sql ∈ plan.written ↔ ∃ step, .ok step ∈ plan ∧ sql ∈ step := by
  simp only [Plan.written, List.mem_flatten, List.mem_filterMap]
  constructor
  · rintro ⟨step, ⟨planned, member, value⟩, inside⟩
    cases planned with
    | error e => cases value
    | ok step' =>
      cases value
      exact ⟨_, member, inside⟩
  · rintro ⟨step, member, inside⟩
    exact ⟨step, ⟨_, member, rfl⟩, inside⟩

theorem Compile.not_dropsRoutine_of_mem_describing {db : Sql.Database} {before : List String}
    {a : Annotations} {name sql : String} (member : sql ∈ (describingPlan db before a).written) :
    ¬ DropsRoutine name sql := by
  obtain ⟨step, planned, inside⟩ := Plan.mem_written.1 member
  have single {r : Except Failure String} (same : .ok step = Plan.single r) : r = .ok sql := by
    obtain ⟨sql', written, rfl⟩ := map_eq_ok.1 same.symm
    rw [written, List.mem_singleton.1 inside]
  rcases List.mem_cons.1 planned with asked | bulk
  · cases asked
    rw [List.mem_singleton.1 inside]
    exact not_dropsRoutine_of_newline (CatalogParameter.query_newline _)
  · unfold bulkPlan at bulk
    split at bulk
    · rcases List.mem_cons.1 bulk with exists_ | looks
      · obtain ⟨literal, -, rfl⟩ := map_eq_ok.1 (single exists_)
        exact not_dropsRoutine_of_newline (BulkTable.existsQuery_newline _)
      · split at looks
        · exact BulkTable.not_dropsRoutine_describeQuery (single (List.mem_singleton.1 looks))
        · rcases List.mem_cons.1 looks with called | described
          · exact BulkTable.not_dropsRoutine_callStatement (single called)
          · obtain ⟨describe, written, rest⟩ := bind_eq_ok.1 (List.mem_singleton.1 described).symm
            obtain ⟨drop, dropping, last⟩ := bind_eq_ok.1 rest
            cases last
            rcases List.mem_cons.1 inside with rfl | last
            · exact BulkTable.not_dropsRoutine_describeQuery written
            · rw [List.mem_singleton.1 last]
              exact BulkTable.not_dropsRoutine_dropStatement dropping
    · cases bulk

namespace Substitution

/-- A character that is in no key stays when the keys are replaced. -/
theorem mem_replaced {entries : List (List Char × List Char)} {filling : List Char} {c : Char}
    (unkeyed : ∀ e ∈ entries, c ∉ e.1) {s : List Char} (inside : c ∈ s) :
    c ∈ replaced entries filling s := by
  induction s using replaced.induct entries with
  | case1 => cases inside
  | case2 d ds value rest found _ ih =>
    obtain ⟨key, member, whole⟩ := match?_eq_some found
    rw [replaced_of_match found]
    rw [whole, List.mem_append] at inside
    refine List.mem_append_right _ (ih (inside.resolve_left (unkeyed _ member)))
  | case3 d ds none ih =>
    rw [replaced_of_none none, List.mem_append, List.mem_cons]
    rcases List.mem_cons.1 inside with rfl | later
    · exact .inr (.inl rfl)
    · exact .inr (.inr (ih later))

theorem Piece.IsKey.no_hyphen {p : Piece} (h : p.IsKey) : '-' ∉ p.spelling := by
  cases p with
  | token t =>
    obtain ⟨name, mark, -, plain, marked, rfl⟩ := h
    have name_ok : '-' ∉ name := fun inside => absurd (plain _ inside) (by decide)
    have mark_ok : '-' ∉ mark := by
      rcases marked with rfl | rfl
      · simp
      · decide
    simp [spelling, name_ok, mark_ok]
  | constant k => cases k <;> decide
  | plain c => cases h

end Substitution

theorem Designation.hyphen_mem_of_ofLine? {line : String} {parts : String × String}
    (found : ofLine? line = some parts) : '-' ∈ line.toList := by
  unfold ofLine? at found
  split at found
  · cases found
  · rename_i rest marked
    unfold afterMark? at marked
    split at marked
    · rename_i start
      have trimmed : '-' ∈ Text.trimLeft (Text.dropReturns line.toList) := by
        rw [start]
        exact List.mem_cons_self
      have returned := (List.dropWhile_sublist _).mem trimmed
      have kept := (List.dropWhile_sublist _).mem (List.mem_reverse.1 returned)
      exact List.mem_reverse.1 kept
    · cases marked

theorem Designation.exists_line_of_ofSource {source : RoutineSource} {d : Designation} {line : Nat}
    (found : ofSource source = .ok (d, line)) : ∃ l ∈ source.lines, '-' ∈ l.toList := by
  have read := mapError_eq_ok.1 found
  unfold ofLines at read
  split at read
  · cases read
  · rename_i b _
    split at read
    · cases read
    · rename_i place name arguments single
      have member : (place, name, arguments) ∈ Designation.found (source.lines.take b) := by
        rw [single]
        exact List.mem_singleton.2 rfl
      obtain ⟨⟨l, i⟩, numbered, parts⟩ := List.mem_filterMap.1 member
      obtain ⟨_, recognized, -⟩ := Option.map_eq_some_iff.1 parts
      exact ⟨l, List.mem_of_mem_take (List.fst_mem_of_mem_zipIdx numbered),
        hyphen_mem_of_ofLine? recognized⟩
    · cases read

theorem Substitution.hyphen_mem_replaceAll {source : RoutineSource} {table : ReplaceTable}
    {placeholders : Table} (resolved : Placeholder.resolve source table = .ok placeholders)
    {values : Constant → String} {number : Nat} (numbered : values .line = toString number)
    {l : String} (inside : '-' ∈ l.toList) :
    '-' ∈ (replaceAll (lineTable placeholders (constantTable values) number) l).toList := by
  rw [replaceAll, String.toList_ofList]
  refine mem_replaced (fun e member => ?_) inside
  obtain ⟨p, isKey, spelled, -⟩ :=
    (fits_lineTable resolved values numbered).keys _ (mem_entries.1 member).2
  rw [← String.toList_ofList (l := e.1), ← spelled]
  exact isKey.no_hyphen

theorem hyphen_mem_of_createStatement {layer : Sql.DataLayer} {directory : List String}
    {source : RoutineSource} {table : ReplaceTable} {a : Annotations} {create : String}
    (annotated : Annotations.ofSource source table = .ok a)
    (created : createStatement layer directory source a = .ok create) : '-' ∈ create.toList := by
  obtain ⟨⟨_, designated⟩, -⟩ := Annotations.parts_of_ofSource annotated
  obtain ⟨l, member, inside⟩ := Designation.exists_line_of_ofSource designated
  obtain ⟨i, place⟩ := List.mem_iff_getElem?.1 member
  obtain ⟨constants, found, last⟩ := bind_eq_ok.1 created
  rw [Substitution.sourceConstants_eq _ _ _ _ (i + 1)] at found
  split at found
  · obtain rfl := Except.ok.inj found
    rw [← Except.ok.inj last, Text.unlines, String.toList_ofList]
    refine Text.mem_joinWith (List.mem_map.2 ⟨_, List.mem_map.2 ⟨(l, i), ?_, rfl⟩, rfl⟩) ?_
    · exact List.mk_mem_zipIdx_iff_getElem?.2 place
    · exact Substitution.hyphen_mem_replaceAll (Annotations.resolved_of_ofSource annotated) rfl
        inside
  · cases found

-- The hyphens of the designation line survive every replacement, and a drop has none.
theorem not_dropsRoutine_createStatement {layer : Sql.DataLayer} {directory : List String}
    {source : RoutineSource} {table : ReplaceTable} {a : Annotations} {create name : String}
    (annotated : Annotations.ofSource source table = .ok a)
    (created : createStatement layer directory source a = .ok create) :
    ¬ DropsRoutine name create :=
  fun drops => drops.no_hyphen (hyphen_mem_of_createStatement annotated created)

end StoredRoutines
