import StoredRoutines.Build.Assess
import StoredRoutines.Proofs.Assignments
import StoredRoutines.Proofs.Preparing
import StoredRoutines.Proofs.Reloading
import StoredRoutines.Proofs.Splitting

/-!
Checking without a database. A check knows the constants only, and takes every token for a column
type as known. No other token can have a column type as its value, so a source passes the check just
if it can be scanned with the values that a load would use, once all its column types are there.
-/

namespace StoredRoutines

open Loader Outcomes

theorem Text.toList_upper (s : String) : (upper s).toList = s.toList.flatMap upperChar :=
  String.toList_ofList

namespace Placeholder

/-- What holds of all ASCII characters of names holds of all characters of names. -/
theorem of_isNameChar {P : Char → Prop}
    (each : ∀ n : Fin 128, isNameChar (Char.ofNat n) = true → P (Char.ofNat n)) {c : Char}
    (named : isNameChar c = true) : P c := by
  have ascii : c.toNat < 128 := by
    rw [isNameChar, Bool.or_eq_true, decide_eq_true_eq] at named
    rcases named with plain | rfl
    · exact Text.lt_of_isPlain plain
    · decide
  have here := each ⟨c.toNat, ascii⟩
  rw [Char.ofNat_toNat] at here
  exact here named

theorem no_percent_of_isNameChar {c : Char} (named : isNameChar c = true) :
    '%' ∉ Text.upperChar c :=
  of_isNameChar (P := fun c => '%' ∉ Text.upperChar c) (by decide +kernel) named

theorem suffix_of_isColumnType {t : String} (token : IsToken t.toList)
    (typed : Check.isColumnType t = true) : "%type@".toList <:+ t.toList := by
  obtain ⟨name, mark, -, plain, rfl | rfl, spelled⟩ := token
  · -- In upper case, too, the token has no percent sign.
    have inside : '%' ∈ t.toList.flatMap Text.upperChar := by
      rw [Check.isColumnType, List.isSuffixOf_iff_suffix, Text.toList_upper] at typed
      exact typed.subset (show '%' ∈ "%TYPE@".toList by decide)
    rw [spelled, List.mem_flatMap] at inside
    obtain ⟨c, member, sign⟩ := inside
    simp only [List.nil_append, List.mem_cons, List.mem_append, List.not_mem_nil, or_false]
      at member
    rcases member with rfl | named | rfl
    · exact absurd sign (by decide)
    · exact absurd sign (no_percent_of_isNameChar (plain c named))
    · exact absurd sign (by decide)
  · have whole : typeMark ++ ['@'] = "%type@".toList := by decide
    exact ⟨'@' :: name, by rw [spelled, ← whole, List.cons_append]⟩

end Placeholder

namespace ColumnTypes

theorem suffix_token (table column : Value) : "%TYPE@".toList <:+ (token table column).toList := by
  have mark : "%type@".toList.flatMap Text.upperChar = "%TYPE@".toList := rfl
  refine ⟨("@" ++ table.display ++ "." ++ column.display).toList.flatMap Text.upperChar, ?_⟩
  rw [← mark, ← List.flatMap_append, ← String.toList_append, token, Text.toList_upper]

theorem token_of_ofRow {row : Sql.Row} {e : String × Value} (found : ofRow row = .ok e) :
    ∃ table column, e.1 = token table column := by
  obtain ⟨table, -, rest⟩ := bind_eq_ok.1 found
  obtain ⟨column, -, rest⟩ := bind_eq_ok.1 rest
  obtain ⟨_, -, last⟩ := bind_eq_ok.1 rest
  obtain ⟨spelled, -⟩ := Prod.mk.inj (Except.ok.inj last)
  exact ⟨table, column, spelled.symm⟩

end ColumnTypes

namespace ReplaceTable

variable {fs : FileSystem} {p : Path} {rows : List Sql.Row} {table : ReplaceTable}

theorem value_ofFiles (built : ofFiles fs (some p) rows = .ok table) :
    ∃ assigned, Constants.ofFiles fs p = .ok assigned ∧
      ∀ t, Check.isColumnType t = false →
        (Placeholder.value? table t).isSome = (Placeholder.value? assigned t).isSome := by
  obtain ⟨types, mapped, rest⟩ := bind_eq_ok.1 built
  obtain ⟨assigned, read, last⟩ := bind_eq_ok.1 rest
  cases last
  refine ⟨assigned, read, fun t other => ?_⟩
  have untyped : types.reverse.lookup (Text.upper t) = none := by
    rw [List.lookup_eq_none_iff]
    intro e member
    rw [bne_iff_ne]
    intro same
    obtain ⟨row, -, found⟩ := exists_of_forall₂ (mapM_eq_ok.1 mapped) (List.mem_reverse.1 member)
    obtain ⟨table, column, key⟩ := ColumnTypes.token_of_ofRow found
    have suffix := ColumnTypes.suffix_token table column
    rw [← key, ← same] at suffix
    rw [Check.isColumnType, List.isSuffixOf_iff_suffix.2 suffix] at other
    cases other
  rw [Placeholder.value?, Placeholder.value?, Assoc.lookup_putAll, Assoc.lookup_ofPairs, untyped,
    Option.or_none, Bool.eq_iff_iff, List.lookup_isSome_iff, List.lookup_isSome_iff]
  exact exists_congr fun e => by rw [List.mem_reverse]

end ReplaceTable

namespace Check

variable {source : RoutineSource} {table assigned : ReplaceTable}

theorem constants_eq_ok_iff : constants source assigned = .ok () ↔
    ∀ t ∈ Placeholder.find source.text, isColumnType t = false →
      (Placeholder.value? assigned t).isSome = true := by
  have complete : (Placeholder.find source.text).filter (fun t =>
      !isColumnType t && (Placeholder.value? assigned t).isNone) = [] ↔
      ∀ t ∈ Placeholder.find source.text, isColumnType t = false →
        (Placeholder.value? assigned t).isSome = true := by
    rw [List.filter_eq_nil_iff]
    refine forall₂_congr fun t _ => ?_
    cases isColumnType t <;> cases Placeholder.value? assigned t <;> simp
  unfold constants
  split
  · rename_i none
    exact ⟨fun _ => complete.1 none, fun _ => rfl⟩
  · rename_i missing some
    refine ⟨fun passed => (by cases passed), fun valued => ?_⟩
    exact absurd (complete.2 valued) some

/-- A source passes the check just if its annotations can be scanned, when the values of the tokens
for column types are known and those of the other tokens are the constants. -/
theorem annotations_iff
    (typed : ∀ t ∈ Placeholder.find source.text, isColumnType t = true →
      (Placeholder.value? table t).isSome = true)
    (same : ∀ t, isColumnType t = false →
      (Placeholder.value? table t).isSome = (Placeholder.value? assigned t).isSome) :
    (∃ d, annotations source (some assigned) = .ok d) ↔
      ∃ a, Annotations.ofSource source table = .ok a := by
  have values : constants source assigned = .ok () ↔
      ∀ t ∈ Placeholder.find source.text, ∃ v, Placeholder.value? table t = some v := by
    rw [constants_eq_ok_iff]
    refine forall₂_congr fun t member => ?_
    rw [← Option.isSome_iff_exists]
    cases column : isColumnType t with
    | true => simp [typed t member column]
    | false => simp [same t column]
  -- The same parts are read, but placeholders come last in a check and first in a build.
  constructor
  · rintro ⟨d, passed⟩
    obtain ⟨⟨designation, line⟩, designated, rest⟩ := bind_eq_ok.1 passed
    obtain ⟨header, headed, rest⟩ := bind_eq_ok.1 rest
    obtain ⟨declared, listed, rest⟩ := bind_eq_ok.1 rest
    obtain ⟨_, known, -⟩ := bind_eq_ok.1 rest
    have resolved := Placeholder.resolve_eq_ok_iff.2 ⟨values.1 known, rfl⟩
    exact ⟨_, bind_eq_ok.2 ⟨_, resolved, bind_eq_ok.2 ⟨_, designated, bind_eq_ok.2
      ⟨_, headed, bind_eq_ok.2 ⟨_, listed, rfl⟩⟩⟩⟩⟩
  · rintro ⟨a, scanned⟩
    obtain ⟨placeholders, resolved, rest⟩ := bind_eq_ok.1 scanned
    obtain ⟨⟨designation, line⟩, designated, rest⟩ := bind_eq_ok.1 rest
    obtain ⟨header, headed, rest⟩ := bind_eq_ok.1 rest
    obtain ⟨declared, listed, -⟩ := bind_eq_ok.1 rest
    have known := values.2 (Placeholder.resolve_eq_ok_iff.1 resolved).1
    exact ⟨_, bind_eq_ok.2 ⟨_, designated, bind_eq_ok.2 ⟨_, headed, bind_eq_ok.2
      ⟨_, listed, bind_eq_ok.2 ⟨_, known, rfl⟩⟩⟩⟩⟩

def ending (fs : FileSystem) (settings : LoaderSettings) (table : Option ReplaceTable)
    (path : Path) : Except Failure RoutineResult :=
  match file fs settings table path with
  | .error (.error e) => .ok ⟨path, routineName path settings.extension, .failed none false e⟩
  | .error (.defect d) => .error (.defect d)
  | .ok _ => .ok ⟨path, routineName path settings.extension, .checked⟩

theorem run_result (settings : LoaderSettings) (table : Option ReplaceTable) (path : Path)
    (w : World) : ∃ es, (result settings table path).run w =
      (ending w.files settings table path, w.after es) := by
  have started : (result settings table path).run w = _ := run_bind_of_ok (run_getFiles w)
  rw [started, ending]
  generalize file w.files settings table path = found
  cases found with
  | error failure =>
    cases failure with
    | error e => exact ⟨_, rfl⟩
    | defect d => exact ⟨[], by rw [World.after_nil]; rfl⟩
  | ok designation => exact ⟨_, rfl⟩

/-- Files are checked one after the other, up to one about which nothing can be said. -/
theorem run_results {settings : LoaderSettings} {table : Option ReplaceTable} {paths : List Path}
    {w v : World} {r : Except Failure (List RoutineResult)}
    (run : (paths.mapM (result settings table)).run w = (r, v)) :
    r = paths.mapM (ending w.files settings table) := by
  induction paths generalizing w v r with
  | nil =>
    cases run
    rfl
  | cons p ps ih =>
    obtain ⟨es, first⟩ := run_result settings table p w
    rw [List.mapM_cons] at run ⊢
    cases ended : ending w.files settings table p with
    | error e =>
      rw [ended] at first
      rw [run_bind_of_error first] at run
      cases run
      rfl
    | ok a =>
      rw [ended] at first
      rw [run_bind_of_ok first, run_bind_pure] at run
      have rest : ((ps.mapM (result settings table)).run (w.after es)).1 =
          ps.mapM (ending w.files settings table) := ih (w := w.after es) rfl
      cases run
      rw [rest]
      cases ps.mapM (ending w.files settings table) <;> rfl

theorem run_check {settings : LoaderSettings} {p : Path} {paths : List Path} {w v : World}
    {r : Except Failure (List RoutineResult)} (configured : settings.constants = some p)
    (read : Constants.ofFiles w.files p = .ok assigned)
    (run : (check settings paths).run w = (r, v)) :
    r = (sortPaths paths).mapM (ending w.files settings (some assigned)) := by
  obtain ⟨es, reading, -⟩ := Constants.run_read p w
  rw [read] at reading
  have started : (check settings paths).run w = ((sortPaths paths).mapM
      (result settings (some assigned))).run (w.after es) := by
    rw [check, configured]
    exact run_bind_of_ok (run_bind_of_ok reading)
  exact run_results (w := w.after es) (started.symm.trans run)

/-- The source in a file can be read, and its annotations can be scanned with the values. -/
def Scans (fs : FileSystem) (extension : String) (table : ReplaceTable) (path : Path) : Prop :=
  ∃ source a, RoutineSource.load fs path extension = .ok source ∧
    Annotations.ofSource source table = .ok a

/-- There is a value for every token in the source of a file that ends in the type mark. -/
def Typed (fs : FileSystem) (extension : String) (table : ReplaceTable) (path : Path) : Prop :=
  ∀ source, RoutineSource.load fs path extension = .ok source →
    ∀ t ∈ Placeholder.find source.text, "%type@".toList <:+ t.toList →
      (Placeholder.value? table t).isSome = true

theorem ending_eq_error {fs : FileSystem} {settings : LoaderSettings} {constants : ReplaceTable}
    {path : Path} {f : Failure} (ended : ending fs settings (some constants) path = .error f) :
    RoutineSource.load fs path settings.extension = .error f := by
  unfold ending at ended
  split at ended
  · cases ended
  · rename_i d failed
    cases ended
    rcases bind_eq_error.1 failed with unread | ⟨source, -, refused⟩
    · exact unread
    · obtain ⟨e, -, same⟩ := mapError_eq_error.1 refused
      cases same
  · cases ended

/-- The check of a file that ends passes just the sources that can be scanned. -/
theorem ending_eq_ok {fs : FileSystem} {settings : LoaderSettings} {path : Path}
    {r : RoutineResult}
    (same : ∀ t, isColumnType t = false →
      (Placeholder.value? table t).isSome = (Placeholder.value? assigned t).isSome)
    (ended : ending fs settings (some assigned) path = .ok r) :
    r.path = path ∧ (Typed fs settings.extension table path →
      (r.succeeded = true ↔ Scans fs settings.extension table path)) := by
  have passed : r.path = path ∧
      (r.succeeded = true ↔ ∃ d, file fs settings (some assigned) path = .ok d) := by
    unfold ending at ended
    split at ended
    · rename_i failed
      cases ended
      exact ⟨rfl, by simp [RoutineResult.succeeded, Outcome.succeeded, Outcome.error?, failed]⟩
    · cases ended
    · rename_i d found
      cases ended
      exact ⟨rfl, by simp [RoutineResult.succeeded, Outcome.succeeded, Outcome.error?, found]⟩
  refine ⟨passed.1, fun typed => passed.2.trans ?_⟩
  have scanned (source : RoutineSource)
      (loaded : RoutineSource.load fs path settings.extension = .ok source) :
      (∃ d, annotations source (some assigned) = .ok d) ↔
        ∃ a, Annotations.ofSource source table = .ok a := by
    refine annotations_iff (fun t member column => typed source loaded t member ?_) same
    exact Placeholder.suffix_of_isColumnType
      (Placeholder.isToken_of_mem_tokens (Placeholder.mem_find.1 member)) column
  constructor
  · rintro ⟨d, found⟩
    obtain ⟨source, loaded, read⟩ := bind_eq_ok.1 found
    obtain ⟨a, annotated⟩ := (scanned source loaded).1 ⟨d, mapError_eq_ok.1 read⟩
    exact ⟨source, a, loaded, annotated⟩
  · rintro ⟨source, a, loaded, annotated⟩
    obtain ⟨d, read⟩ := (scanned source loaded).2 ⟨a, annotated⟩
    exact ⟨d, bind_eq_ok.2 ⟨source, loaded, mapError_eq_ok.2 read⟩⟩

end Check

theorem ReplaceTable.ofFiles_of_build {db : Sql.Database} {constants : Option Path}
    {table : ReplaceTable} {w v : World}
    (run : (build (some db.layer) constants).run w = (.ok table, v)) :
    ∃ rows, ofFiles w.files constants rows = .ok table := by
  cases failed : db.failure w.statements ColumnTypes.query with
  | some e =>
    have refused : (build (some db.layer) constants).run w = (.error (.error e), _) :=
      run_bind_of_error (run_bind_of_error (Sql.Database.run_rows_of_some failed))
    rw [refused] at run
    cases run
  | none =>
    obtain ⟨es, built, -⟩ := run_build constants failed
    exact ⟨_, (Prod.mk.inj (built.symm.trans run)).1⟩

/-- With the constants of a file, a check says of each source just whether a load could scan it, if
the column types that the source asks for are there. It ends early only at a file that cannot be
asked for. -/
theorem check_succeeds_iff {db : Sql.Database} {settings : LoaderSettings} {p : Path}
    {table : ReplaceTable} {paths : List Path} {w₀ u w v : World}
    {r : Except Failure (List RoutineResult)} (configured : settings.constants = some p)
    (built : (ReplaceTable.build (some db.layer) settings.constants).run w₀ = (.ok table, u))
    (files : w.files = w₀.files) (run : (check settings paths).run w = (r, v)) :
    (∀ results, r = .ok results → List.Forall₂ (fun path checked => checked.path = path ∧
        (Check.Typed w.files settings.extension table path →
          (checked.succeeded = true ↔ Check.Scans w.files settings.extension table path)))
        (sortPaths paths) results) ∧
      ∀ f, r = .error f →
        ∃ path ∈ paths, RoutineSource.load w.files path settings.extension = .error f := by
  obtain ⟨rows, whole⟩ := ReplaceTable.ofFiles_of_build built
  rw [← files, configured] at whole
  obtain ⟨assigned, read, same⟩ := ReplaceTable.value_ofFiles whole
  have ended := Check.run_check configured read run
  refine ⟨fun results returned => ?_, fun f raised => ?_⟩
  · rw [returned] at ended
    exact (mapM_eq_ok.1 ended.symm).imp fun path checked one => Check.ending_eq_ok same one
  · rw [raised] at ended
    obtain ⟨path, member, stopped⟩ := exists_of_mapM_eq_error ended.symm
    exact ⟨path, List.mem_mergeSort.1 member, Check.ending_eq_error stopped⟩

namespace Sample

def typedText : String :=
  "create procedure a(x @t.c%type@)\n-- type: rows\nbegin\n  select @k@;\nend\n"

def typedSource : RoutineSource := ⟨path, ".psql", typedText, 0⟩

def constantsPath : Path := ⟨"/", ["k.ini"]⟩

def typedFiles : FileSystem :=
  ⟨[(["a.psql"], .file ⟨typedText.toUTF8, 0⟩), (["k.ini"], .file ⟨"K=1\n".toUTF8, 0⟩)], []⟩

def typedWorld : World := ⟨typedFiles, true, []⟩

def typedSettings : LoaderSettings := { settings with constants := some constantsPath }

def columnRow : Sql.Row :=
  [("table_name", .text "t"), ("column_name", .text "c"), ("column_type", .text "int(11)")]

def typedTable : ReplaceTable := [("@T.C%TYPE@", .text "int(11)"), ("@K@", .text "1")]

theorem load_typedSource : RoutineSource.load typedFiles path ".psql" = .ok typedSource := by
  have read : typedFiles.read path = .ok ⟨typedText.toUTF8, 0⟩ := rfl
  exact RoutineSource.load_of_read read rfl rfl (by decide) (by decide) ".psql"

theorem lines_typedSource : typedSource.lines =
    ["create procedure a(x @t.c%type@)", "-- type: rows", "begin", "  select @k@;", "end", ""] :=
  RoutineSource.lines_of_spelled rfl rfl

theorem find_typedSource : Placeholder.find typedSource.text = ["@t.c%type@", "@k@"] :=
  RoutineSource.find_of_spelled rfl (by decide +kernel)

theorem run_build_typed : ∃ u, (ReplaceTable.build (some (answering [columnRow]).layer)
    typedSettings.constants).run typedWorld = (.ok typedTable, u) := by
  have whole : ReplaceTable.ofFiles typedFiles (some constantsPath) [columnRow] =
      .ok typedTable := rfl
  obtain ⟨es, built, -⟩ := ReplaceTable.run_build (some constantsPath)
    (show (answering [columnRow]).failure typedWorld.statements ColumnTypes.query = none from rfl)
  exact ⟨_, built.trans (congrArg (·, typedWorld.after es) whole)⟩

theorem typed_typedSource : Check.Typed typedFiles ".psql" typedTable path := by
  intro source loaded t member _
  obtain rfl := Except.ok.inj (load_typedSource.symm.trans loaded)
  have valued : ∀ t ∈ ["@t.c%type@", "@k@"], (Placeholder.value? typedTable t).isSome = true := by
    decide
  rw [find_typedSource] at member
  exact valued t member

theorem run_check_typed : ∃ v, (check typedSettings [path]).run typedWorld =
    (.ok [⟨path, "a", .checked⟩], v) := by
  have read : Constants.ofFiles typedFiles constantsPath = .ok [("@K@", .text "1")] := by
    rfl
  have designation : Designation.ofSource typedSource = .ok (.plain "rows", 1) :=
    RoutineSource.designation_of_lines lines_typedSource rfl
  have header : Header.ofSource typedSource = .ok ⟨"procedure", "a"⟩ :=
    RoutineSource.header_of_spelled rfl rfl rfl
  have listed : ListParameter.ofSource typedSource 1 = .ok [] := by
    rw [ListParameter.ofSource, RoutineSource.beginLine?, lines_typedSource]
    rfl
  have known : Check.constants typedSource [("@K@", .text "1")] = .ok () := by
    rw [Check.constants, find_typedSource]
    rfl
  have passed : Check.file typedFiles typedSettings (some [("@K@", .text "1")]) path =
      .ok (.plain "rows") :=
    bind_eq_ok.2 ⟨_, load_typedSource, mapError_eq_ok.2 (bind_eq_ok.2 ⟨_, designation,
      bind_eq_ok.2 ⟨_, header, bind_eq_ok.2 ⟨_, listed, bind_eq_ok.2 ⟨_, known, rfl⟩⟩⟩⟩)⟩
  have ended : Check.ending typedFiles typedSettings (some [("@K@", .text "1")]) path =
      .ok ⟨path, "a", .checked⟩ := by
    rw [Check.ending, passed]
    rfl
  cases run : (check typedSettings [path]).run typedWorld with
  | mk r v =>
    have whole := Check.run_check rfl read run
    rw [sortPaths_path] at whole
    exact ⟨v, congrArg (·, v) (whole.trans (mapM_eq_ok.2 (.cons ended .nil)))⟩

end Sample

open Sample in
/-- The sample passes the check, and so a load could scan it. -/
theorem typed_sample_checked : ∃ u v results,
    (ReplaceTable.build (some (answering [columnRow]).layer) typedSettings.constants).run
        typedWorld = (.ok typedTable, u) ∧
      (check typedSettings [path]).run typedWorld = (.ok results, v) ∧
        (∀ r ∈ results, r.succeeded = true) ∧ Check.Scans typedFiles ".psql" typedTable path := by
  obtain ⟨u, built⟩ := run_build_typed
  obtain ⟨v, run⟩ := run_check_typed
  have each := (check_succeeds_iff rfl built rfl run).1 _ rfl
  refine ⟨u, v, _, built, run, fun r member => ?_, ?_⟩
  · rw [List.mem_singleton.1 member]
    rfl
  · rw [sortPaths_path] at each
    cases each with
    | cons checked _ => exact (checked.2 typed_typedSource).1 rfl

end StoredRoutines
