import StoredRoutines.Proofs.HeaderSpellings
import StoredRoutines.Proofs.Obsolete
import StoredRoutines.Proofs.TemporaryTables

/-!
Names between backticks. A text is quoted if it is a plain name, or a plain name with one line feed
behind it. The names that a source gives to its routine and its table never have that line feed, so
in the statements about them a plain name stands between the backticks. Only the name of a routine
without a source is quoted as the catalog has it.
-/

namespace StoredRoutines

open Loader Outcomes TraceProperty

namespace Sql

theorem plainName_of_isIdentifier {s : String} (noLineFeed : '\n' ∉ s.toList)
    (usable : isIdentifier s = true) : PlainName s := by
  rw [← String.ofList_toList (s := s), isIdentifier_ofList noLineFeed] at usable
  exact ⟨String.toList_eq_nil_iff.not.1 usable.1, usable.2⟩

/-- What is taken for an identifier is a plain name, perhaps with a line feed behind it. -/
theorem isIdentifier_iff {s : String} :
    isIdentifier s = true ↔ ∃ n, PlainName n ∧ (s = n ∨ s = n ++ "\n") := by
  have body (n : List Char) : (!n.isEmpty && n.all Text.isPlain) = true ↔
      PlainName (String.ofList n) := by
    rw [Bool.and_eq_true, List.all_eq_true, PlainName, String.toList_ofList, ne_eq,
      ← String.toList_eq_nil_iff, String.toList_ofList]
    simp
  constructor
  · intro usable
    have plain := (body _).1 usable
    refine ⟨_, plain, ?_⟩
    unfold dropFinalLineFeed
    split
    · rename_i last
      obtain ⟨front, whole⟩ := List.getLast?_eq_some_iff.1 last
      right
      rw [whole, List.dropLast_concat, ← String.toList_inj, whole]
      simp
    · exact .inl String.ofList_toList.symm
  · rintro ⟨n, plain, rfl | rfl⟩
    · exact isIdentifier_of_plainName plain
    · have cut : dropFinalLineFeed (n ++ "\n").toList = n.toList := by
        simp [dropFinalLineFeed]
      rw [isIdentifier, cut]
      exact (body _).2 (by rwa [String.ofList_toList])

end Sql

/-- The text between the first backtick and the last. -/
def Sql.betweenBackticks (s : List Char) : List Char :=
  ((s.dropWhile (· ≠ '`')).tail.reverse.dropWhile (· ≠ '`')).tail.reverse

theorem Sql.betweenBackticks_of_quoted {lead trail : List Char} (before : '`' ∉ lead)
    (behind : '`' ∉ trail) (name : List Char) :
    betweenBackticks (lead ++ '`' :: (name ++ '`' :: trail)) = name := by
  have skip {s : List Char} (absent : '`' ∉ s) (rest : List Char) :
      ((s ++ '`' :: rest).dropWhile (· ≠ '`')).tail = rest := by
    have all : ∀ c ∈ s, decide (c ≠ '`') = true :=
      fun c member => decide_eq_true fun same => absent (same ▸ member)
    rw [List.dropWhile_append_of_pos all]
    simp
  rw [betweenBackticks, skip before, List.reverse_append, List.reverse_cons, List.append_assoc,
    List.singleton_append, skip (by simpa using behind), List.reverse_reverse]

/-- A drop, a call or a description, with the name between backticks. -/
inductive Quotes (name : String) : String → Prop
  | drop {type : String} (known : type ∈ routineTypes) : Quotes name (routineDrop type name)
  | call : Quotes name (BulkTable.routineCall name)
  | describe : Quotes name (BulkTable.tableDescription name)
  | dropTable : Quotes name (BulkTable.tableDrop name)

namespace Quotes

variable {m name sql : String}

theorem toList_quoted (name : String) :
    ("`" ++ name ++ "`").toList = '`' :: (name.toList ++ ['`']) := by
  rw [String.toList_append, String.toList_append]
  rfl

/-- What stands around the backticks is known but for the type of a routine. -/
theorem frame (h : Quotes name sql) : ∃ lead trail : List Char,
    sql.toList = lead ++ '`' :: (name.toList ++ '`' :: trail) ∧
      ('`' ∉ lead ∧ '`' ∉ trail) ∧ ('-' ∉ lead ∧ '-' ∉ trail) ∧
      (lead.head? = some 'c' ∨ lead.head? = some 'd') := by
  cases h with
  | @drop type known =>
    refine ⟨"drop ".toList ++ type.toList ++ " if exists ".toList, [], ?_, ?_⟩
    · rw [toList_routineDrop]
      simp only [List.append_assoc]
      rfl
    · simp only [routineTypes, List.mem_cons, List.not_mem_nil, or_false] at known
      rcases known with rfl | rfl <;> exact ⟨by decide, by decide, .inr rfl⟩
  | call =>
    refine ⟨"call ".toList, "()".toList, ?_, by decide, by decide, .inl rfl⟩
    rw [BulkTable.routineCall, String.toList_append, String.toList_append, toList_quoted]
    simp
  | describe =>
    refine ⟨"describe ".toList, [], ?_, by decide, by decide, .inr rfl⟩
    exact String.toList_append.trans (congrArg _ (toList_quoted name))
  | dropTable =>
    refine ⟨"drop temporary table if exists ".toList, [], ?_, by decide, by decide, .inr rfl⟩
    exact String.toList_append.trans (congrArg _ (toList_quoted name))

theorem betweenBackticks_eq (h : Quotes name sql) :
    Sql.betweenBackticks sql.toList = name.toList := by
  obtain ⟨lead, trail, whole, ⟨before, behind⟩, -⟩ := h.frame
  rw [whole, Sql.betweenBackticks_of_quoted before behind]

theorem name_unique (first : Quotes m sql) (second : Quotes name sql) : m = name :=
  String.toList_inj.1 (first.betweenBackticks_eq.symm.trans second.betweenBackticks_eq)

theorem no_hyphen (h : Quotes name sql) (absent : '-' ∉ name.toList) : '-' ∉ sql.toList := by
  obtain ⟨lead, trail, whole, -, ⟨before, behind⟩, -⟩ := h.frame
  rw [whole]
  simp [before, behind, absent]

theorem not_of_starts {c : Char} (starts : ∃ rest, sql.toList = c :: rest) (call : c ≠ 'c')
    (drop : c ≠ 'd') : ¬ Quotes name sql := by
  intro h
  obtain ⟨rest, first⟩ := starts
  obtain ⟨lead, trail, whole, -, -, head⟩ := h.frame
  rw [first] at whole
  cases lead with
  | nil => simp at head
  | cons d lead =>
    obtain ⟨rfl, -⟩ := List.cons.inj whole
    rcases head with same | same
    · exact call (Option.some.inj same)
    · exact drop (Option.some.inj same)

end Quotes

/-- The statement creates a routine of the batch: it is made of a source that the batch has found or
was told, and of the annotations in it, where the batch knows the values of the placeholders. -/
inductive Creation (settings : LoaderSettings) (db : Sql.Database) (only : Option (List Path))
    (w : World) : String → Prop
  | source {paths : List Path} {path : Path} {table : ReplaceTable} {source : RoutineSource}
    {a : Annotations} {sql : String} (found : ((Batch.paths settings only).run w).1 = .ok paths)
    (member : path ∈ paths)
    (known : ReplaceTable.ofFiles w.files settings.constants
      (db.rows (w.statements ++ [RoutineCatalog.query]) ColumnTypes.query) = .ok table)
    (loaded : RoutineSource.load w.files path settings.extension = .ok source)
    (annotated : Annotations.ofSource source table = .ok a)
    (written : createStatement db.layer w.files.workingDirectory source a = .ok sql) :
    Creation settings db only w sql

/-- The other statements of a batch: questions, settings of the session, and creations. -/
inductive Other (settings : LoaderSettings) (db : Sql.Database) (only : Option (List Path))
    (w : World) : String → Prop
  | catalog : Other settings db only w RoutineCatalog.query
  | types : Other settings db only w ColumnTypes.query
  | parameters (routine : String) : Other settings db only w
      (CatalogParameter.query (db.layer.quote routine))
  | permanent (table : String) : Other settings db only w
      (BulkTable.existsQuery (db.layer.quote table))
  | setting {sql : String} (member : sql ∈ settings.session.statements db.layer.escape) :
      Other settings db only w sql
  | creation {sql : String} (creates : Creation settings db only w sql) : Other settings db only w sql

/-- The statement carries nothing but a plain name between backticks, if it has any. -/
def Clean (settings : LoaderSettings) (db : Sql.Database) (only : Option (List Path)) (w : World)
    (sql : String) : Prop :=
  Other settings db only w sql ∨ ∃ n, Sql.PlainName n ∧ Quotes n sql

section

variable {settings : LoaderSettings} {db : Sql.Database} {only : Option (List Path)} {w : World}
  {sql name : String}

theorem exists_toList_of_setting {escape : String → String}
    (member : sql ∈ settings.session.statements escape) : ∃ rest, sql.toList = 's' :: rest := by
  simp only [SessionSettings.statements, List.mem_cons, List.not_mem_nil, or_false] at member
  rcases member with rfl | rfl
  · exact exists_toList_append ⟨_, rfl⟩ _
  · simp only [String.append_assoc]
    exact exists_toList_append ⟨_, rfl⟩ _

/-- No other statement is a drop, a call or a description: a question and a setting start in another
way, and a creation has the hyphens of its designation. -/
theorem Other.not_quotes (other : Other settings db only w sql) (absent : '-' ∉ name.toList) :
    ¬ Quotes name sql := by
  cases other with
  | catalog => exact Quotes.not_of_starts RoutineCatalog.query_newline (by decide) (by decide)
  | types => exact Quotes.not_of_starts ColumnTypes.query_newline (by decide) (by decide)
  | parameters routine =>
    exact Quotes.not_of_starts (CatalogParameter.query_newline _) (by decide) (by decide)
  | permanent table =>
    exact Quotes.not_of_starts (BulkTable.existsQuery_newline _) (by decide) (by decide)
  | setting member =>
    exact Quotes.not_of_starts (exists_toList_of_setting member) (by decide) (by decide)
  | creation creates =>
    obtain ⟨-, -, -, -, annotated, written⟩ := creates
    exact fun quotes => quotes.no_hyphen absent (hyphen_mem_of_createStatement annotated written)

theorem Clean.plainName (clean : Clean settings db only w sql) (absent : '-' ∉ name.toList)
    (quotes : Quotes name sql) : Sql.PlainName name := by
  rcases clean with other | ⟨n, plain, quotes'⟩
  · exact absurd quotes (other.not_quotes absent)
  · rwa [quotes.name_unique quotes']

end

theorem Annotations.no_newline_of_ofSource {source : RoutineSource} {table : ReplaceTable}
    {a : Annotations} (annotated : ofSource source table = .ok a) :
    '\n' ∉ a.routineName.toList := by
  obtain ⟨-, _, name, stands, -, named⟩ := stands_of_ofSource annotated
  rw [named, String.toList_ofList]
  exact fun inside => absurd (stands.named _ inside) (by decide)

namespace BulkTable

variable {settings : LoaderSettings} {db : Sql.Database} {only : Option (List Path)} {w : World}
  {routine table sql : String}

theorem routineCall_of_callStatement (written : callStatement (.text routine) = .ok sql) :
    Sql.isIdentifier routine = true ∧ sql = routineCall routine := by
  cases usable : Sql.isIdentifier routine with
  | true =>
    rw [callStatement_text usable] at written
    exact ⟨rfl, (Except.ok.inj written).symm⟩
  | false =>
    obtain ⟨e, refused⟩ := callStatement_refused usable
    rw [refused] at written
    cases written

/-- The statements that look at a table are clean if its name is plain and the name of the routine
has no line feed. -/
theorem clean_of_mem_plan (noLineFeed : '\n' ∉ routine.toList) (plain : Sql.PlainName table)
    {permanent : Bool}
    (member : sql ∈ (plan db.layer (.text routine) (.text table) permanent).written) :
    Clean settings db only w sql := by
  have usable := Sql.isIdentifier_of_plainName plain
  have described := describeQuery_text usable
  have dropped := dropStatement_text usable
  obtain ⟨step, planned, inside⟩ := Plan.mem_written.1 member
  rcases List.mem_cons.1 planned with asked | looks
  · cases asked
    rw [List.mem_singleton.1 inside]
    exact .inl (.permanent table)
  · split at looks
    · rw [described] at looks
      cases List.mem_singleton.1 looks
      rw [List.mem_singleton.1 inside]
      exact .inr ⟨table, plain, .describe⟩
    · rcases List.mem_cons.1 looks with called | describing
      · obtain ⟨call, written, rfl⟩ := map_eq_ok.1 called.symm
        obtain ⟨usable', rfl⟩ := routineCall_of_callStatement written
        rw [List.mem_singleton.1 inside]
        exact .inr ⟨routine, Sql.plainName_of_isIdentifier noLineFeed usable', .call⟩
      · have step_eq : describingStep (.text table) =
            .ok [tableDescription table, tableDrop table] := by
          rw [describingStep, described, dropped]
          rfl
        rw [step_eq] at describing
        cases List.mem_singleton.1 describing
        rcases List.mem_cons.1 inside with rfl | last
        · exact .inr ⟨table, plain, .describe⟩
        · rw [List.mem_singleton.1 last]
          exact .inr ⟨table, plain, .dropTable⟩

end BulkTable

namespace Compile

variable {settings : LoaderSettings} {db : Sql.Database} {only : Option (List Path)}
  {paths : List Path} {path : Path} {source : RoutineSource} {table : ReplaceTable}
  {a : Annotations} {entry : Option CatalogEntry} {w₀ w : World}

/-- Every statement for a routine is clean: its name and the name of its table have no line feed. -/
theorem clean_of_mem_protocol (annotated : Annotations.ofSource source table = .ok a)
    (creates : ∀ sql, createStatement db.layer w.files.workingDirectory source a = .ok sql →
      Creation settings db only w₀ sql) {sql : String}
    (member : sql ∈ (protocol settings db w source a entry).written) :
    Clean settings db only w₀ sql := by
  have noLineFeed := Annotations.no_newline_of_ofSource annotated
  have single {step : List String} {r : Except Failure String} (same : .ok step = Plan.single r)
      (inside : sql ∈ step) : r = .ok sql := by
    obtain ⟨sql', written, rfl⟩ := map_eq_ok.1 same.symm
    rw [written, List.mem_singleton.1 inside]
  obtain ⟨step, planned, inside⟩ := Plan.mem_written.1 member
  -- The statement drops the old routine, makes a setting, creates the routine, or describes it.
  rcases List.mem_append.1 planned with making | describing
  · rcases List.mem_append.1 making with dropping | making
    · obtain ⟨e, -, same⟩ := List.mem_map.1 dropping
      obtain ⟨_, n, -, name, known, usable, rfl⟩ :=
        dropStatement_eq_ok_iff.1 (single same.symm inside)
      cases name
      exact .inr ⟨_, Sql.plainName_of_isIdentifier noLineFeed usable, .drop known⟩
    · rcases List.mem_append.1 making with session | creating
      · obtain ⟨setting, place, same⟩ := List.mem_map.1 session
        cases same
        rw [List.mem_singleton.1 inside]
        exact .inl (.setting place)
      · exact .inl (.creation (creates _ (single (List.mem_singleton.1 creating) inside)))
  · rcases List.mem_cons.1 describing with asked | bulk
    · cases asked
      rw [List.mem_singleton.1 inside]
      exact .inl (.parameters a.routineName)
    · unfold bulkPlan at bulk
      split at bulk
      · rename_i name columns bulkInsert
        obtain ⟨⟨line, designated⟩, -⟩ := Annotations.parts_of_ofSource annotated
        rw [bulkInsert] at designated
        exact BulkTable.clean_of_mem_plan noLineFeed
          (Designation.plainName_of_bulkInsert designated)
          (Plan.mem_written.2 ⟨step, bulk, inside⟩)
      · cases bulk

/-- Every statement for a source of the batch is clean. -/
theorem clean_of_compile (found : ((Batch.paths settings only).run w₀).1 = .ok paths)
    (member : path ∈ paths)
    (known : ReplaceTable.ofFiles w₀.files settings.constants
      (db.rows (w₀.statements ++ [RoutineCatalog.query]) ColumnTypes.query) = .ok table)
    (files : w.files = w₀.files) {record : Option BuildRecord} {v : World}
    {r : Except Failure RoutineResult} {executed : List String}
    (run : (compile settings db.layer path record table entry).run w = (r, v))
    (statements : v.statements = w.statements ++ executed) :
    ∀ sql ∈ executed, Clean settings db only w₀ sql := by
  have none (silent : v.statements = w.statements) :
      ∀ sql ∈ executed, Clean settings db only w₀ sql := by
    rw [silent, List.self_eq_append_right] at statements
    simp [statements]
  rcases rebuild_of_compile run with silent | ⟨source, reason, loaded, rebuilding⟩
  · exact none silent
  · cases annotated : Annotations.ofSource source table with
    | error e => exact none (statements_of_unscanned annotated rebuilding)
    | ok a =>
      obtain ⟨steps, made, keeps⟩ := rebuild_keeps_protocol annotated rebuilding
      rw [statements, List.append_cancel_left_eq] at made
      subst made
      have creates (sql : String) (written : createStatement db.layer w.files.workingDirectory
          source a = .ok sql) : Creation settings db only w₀ sql := by
        rw [files] at loaded written
        exact .source found member known loaded annotated written
      exact fun sql inside =>
        clean_of_mem_protocol annotated creates (keeps.flatten.subset inside)

end Compile

namespace TraceProperty

/-- Whatever is sent while the files are these has the property. -/
def Sends (fs : FileSystem) (P : String → Prop) : TraceProperty := fun w _ es =>
  w.files = fs → ∀ sql ∈ Event.statements es, P sql

variable {fs : FileSystem} {P Q : String → Prop}

theorem allowsQuiet_sends (fs : FileSystem) (P : String → Prop) : AllowsQuiet (Sends fs P) where
  composes :=
    { empty := fun _ _ _ member => absurd member List.not_mem_nil
      append := by
        intro w r es gs first second files
        rw [Event.statements_append]
        exact List.forall_mem_append.2 ⟨first files, second files⟩ }
  quiet := by
    rintro w r es ⟨silent, -⟩ files sql member
    rw [silent] at member
    cases member

theorem Sends.mono (weaker : ∀ sql, P sql → Q sql) {w : World} {r : Option Failure}
    {es : List Event} (h : Sends fs P w r es) : Sends fs Q w r es :=
  fun files sql member => weaker sql (h files sql member)

theorem traces_sends {α : Type} {x : Loader α} {R : TraceProperty} (traced : x.Traces R)
    (each : ∀ w v r executed, w.files = fs → x.run w = (r, v) →
      v.statements = w.statements ++ executed → ∀ sql ∈ executed, P sql) :
    x.Traces (Sends fs P) := by
  intro w
  obtain ⟨es, step, -⟩ := traced w
  refine ⟨es, step, fun files => each w (x.run w).2 (x.run w).1 _ files rfl ?_⟩
  rw [step, World.statements_after]

end TraceProperty

namespace RoutineCatalog

theorem exists_row_of_key {rows : List Sql.Row} {catalog : RoutineCatalog}
    (made : ofRows rows = .ok catalog) {n : String} (member : ⟨.text n⟩ ∈ Assoc.keys catalog) :
    ∃ row ∈ rows, row.cell "routine_name" = .ok (.text n) := by
  obtain ⟨pairs, named, rfl⟩ := map_eq_ok.1 made
  let InRow (k : Key) : Prop := ∃ row ∈ rows, row.cell "routine_name" = .ok (.atom k.atom)
  have each : ∀ e ∈ Assoc.ofPairs pairs, InRow e.1 ∧ True := by
    refine Assoc.forall_mem_ofPairs (P := InRow) (Q := fun _ => True) fun e place => ⟨?_, trivial⟩
    obtain ⟨row, there, read⟩ := exists_of_forall₂ (mapM_eq_ok.1 named) place
    obtain ⟨entry, reading, rest⟩ := bind_eq_ok.1 read
    obtain ⟨key, keyed, last⟩ := bind_eq_ok.1 rest
    obtain ⟨name, cell, made⟩ := bind_eq_ok.1 reading
    obtain ⟨_, -, made⟩ := bind_eq_ok.1 made
    obtain ⟨_, -, made⟩ := bind_eq_ok.1 made
    obtain ⟨_, -, made⟩ := bind_eq_ok.1 made
    obtain ⟨_, -, made⟩ := bind_eq_ok.1 made
    cases made
    cases last
    exact ⟨row, there, cell.trans (congrArg _ (Value.asKey_eq_ok_iff.1 keyed))⟩
  obtain ⟨e, place, key⟩ := List.mem_map.1 member
  obtain ⟨row, there, cell⟩ := (each e place).1
  exact ⟨row, there, by rw [cell, key]⟩

end RoutineCatalog

namespace Batch

variable {settings : LoaderSettings} {db : Sql.Database} {only : Option (List Path)}
  {paths : List Path} {start : Start} {w : World}

theorem sends_routine (found : ((Batch.paths settings only).run w).1 = .ok paths)
    (known : ReplaceTable.ofFiles w.files settings.constants
      (db.rows (w.statements ++ [RoutineCatalog.query]) ColumnTypes.query) = .ok start.table)
    {source : String × Path} (member : source.2 ∈ paths) :
    (routine settings db.layer start source).Traces
      (Sends w.files (Clean settings db only w)) := by
  cases dry : settings.dryRun with
  | true => exact (quiet_routine_of_dry dry start source).mono (allowsQuiet_sends _ _).quiet
  | false =>
    have traced : (routine settings db.layer start source).Traces db.Halting :=
      traces_routine Sql.Database.accepts_halting settings Compile.traces_bulkColumns start _
    refine traces_sends traced fun u v r executed files run statements => ?_
    simp only [routine, dry] at run
    exact Compile.clean_of_compile found member known files run statements

/-- The statement drops a routine without a source, whose name has a line feed at its end in a row
of the catalog. -/
def DropsTrailing (settings : LoaderSettings) (only : Option (List Path)) (rows : List Sql.Row)
    (sql : String) : Prop :=
  only = none ∧ settings.dropsObsolete = true ∧ settings.dryRun = false ∧
    ∃ n type row, Sql.PlainName n ∧ type ∈ routineTypes ∧ sql = routineDrop type (n ++ "\n") ∧
      row ∈ rows ∧ row.cell "routine_name" = .ok (.text (n ++ "\n"))

theorem sends_cleanUp {rows : List Sql.Row} {catalog : RoutineCatalog}
    (made : RoutineCatalog.ofRows rows = .ok catalog) (results : List RoutineResult)
    (store : RecordStore) : (cleanUp settings db.layer catalog results store).Traces
      (Sends w.files fun sql => Clean settings db only w sql ∨
        DropsTrailing settings none rows sql) := by
  have quiet := allowsQuiet_sends w.files fun sql =>
    Clean settings db only w sql ∨ DropsTrailing settings none rows sql
  refine traces_cleanUp quiet store fun cleans name stray => ?_
  have traced : (obsolete settings db.layer catalog name).Traces db.Halting :=
    traces_obsolete Sql.Database.accepts_halting settings catalog name
  refine traces_sends traced fun u v r executed _ run statements sql member => ?_
  rcases run_obsolete run with ⟨silent, -⟩ | ⟨entry, sql', active, -, written, once, -⟩
  · rw [silent, List.self_eq_append_right] at statements
    rw [statements] at member
    cases member
  · obtain rfl := List.append_cancel_left (once.symm.trans statements)
    obtain rfl := List.mem_singleton.1 member
    obtain ⟨_, m, -, same, known, usable, rfl⟩ := dropStatement_eq_ok_iff.1 written
    cases same
    obtain ⟨n, plain, rfl | rfl⟩ := Sql.isIdentifier_iff.1 usable
    · exact .inl (.inr ⟨_, plain, .drop known⟩)
    · obtain ⟨row, there, cell⟩ :=
        RoutineCatalog.exists_row_of_key made (mem_obsoleteNames.1 stray).1
      exact .inr ⟨rfl, cleans, active, n, _, row, plain, known, rfl, there, cell⟩

theorem sends_proceeding {rejected : List RoutineResult} {u : World}
    (opened : (opening settings db.layer only).run w = (.ok (paths, rejected, start), u)) :
    (proceeding settings db.layer only paths rejected start).Traces
      (Sends w.files fun sql => Clean settings db only w sql ∨
        DropsTrailing settings only (db.rows w.statements RoutineCatalog.query) sql) := by
  have quiet := allowsQuiet_sends w.files fun sql => Clean settings db only w sql ∨
    DropsTrailing settings only (db.rows w.statements RoutineCatalog.query) sql
  obtain ⟨made, known⟩ := answers_of_opening opened
  have found := (run_opening_eq_ok opened).1
  refine quiet.bind (traces_mapM quiet.composes fun source inside => ?_) fun handled => ?_
  · have member : source.2 ∈ paths := by
      have implied : source.2 ∈ implying settings.extension paths source.1 := by
        rw [mem_sources.1 inside]
        exact List.mem_singleton_self _
      exact (mem_implying.1 implied).1
    exact (sends_routine found known member).mono fun _ _ _ h => h.mono fun _ => .inl
  · cases only with
    | some only => exact quiet.bind (quiet.pure _) fun _ => quiet.pure _
    | none => exact quiet.bind (sends_cleanUp made _ _) fun _ => quiet.pure _

theorem sends_loadAll {v : World} {result : Except Failure BatchResult}
    (run : (loadAll settings db.layer only).run w = (result, v)) :
    ∃ executed, v.statements = w.statements ++ executed ∧ ∀ sql ∈ executed,
      Clean settings db only w sql ∨
      DropsTrailing settings only (db.rows w.statements RoutineCatalog.query) sql := by
  cases opened : (opening settings db.layer only).run w with
  | mk outcome u =>
    obtain ⟨steps, asked, keeps, -⟩ : (opening settings db.layer only).Executes db questions w :=
      executes_opening only w
    rw [opened] at asked
    have clean : ∀ sql ∈ steps.flatten, Clean settings db only w sql := by
      intro sql member
      -- Before the sources are handled, nothing but the two questions is sent.
      have question : sql ∈ [RoutineCatalog.query, ColumnTypes.query] :=
        keeps.flatten.subset member
      simp only [List.mem_cons, List.not_mem_nil, or_false] at question
      rcases question with rfl | rfl
      · exact .inl .catalog
      · exact .inl .types
    cases outcome with
    | error e =>
      have settling := run_settle_of_unopened opened
      refine ⟨_, (statements_of_settled settling run).trans asked, fun sql member => ?_⟩
      exact .inl (clean sql member)
    | ok opening =>
      obtain ⟨paths, rejected, start⟩ := opening
      have files := files_of_opening opened
      cases proceeded : (proceeding settings db.layer only paths rejected start).run u with
      | mk r t =>
        have settling := run_settle_of_opening opened proceeded
        obtain ⟨es, rfl, sent⟩ := (sends_proceeding opened).of_run proceeded
        refine ⟨steps.flatten ++ Event.statements es, ?_,
          List.forall_mem_append.2 ⟨?_, sent files⟩⟩
        · rw [statements_of_settled settling run, World.statements_after, asked, List.append_assoc]
        · exact fun sql member => .inl (clean sql member)

end Batch

/-- A text is put between backticks just if it is a plain name, perhaps with one line feed behind
it; anything else is refused. In a batch, whatever the sources and the catalog hold, each statement
that drops, calls or describes something does so by a plain name, but for one: the drop of a routine
without a source, whose name the catalog reports with a line feed at its end. Everything else that
is sent is a question, a setting or the creation of a routine from a source of the batch, and none
of these can be taken for a drop, a call or a description of a name without a hyphen. -/
theorem names_between_backticks {settings : LoaderSettings} {db : Sql.Database}
    {only : Option (List Path)} {w v : World} {result : Except Failure BatchResult}
    (run : (loadAll settings db.layer only).run w = (result, v)) :
    (∀ s t, Sql.backtick s = .ok t ↔
      t = "`" ++ s ++ "`" ∧ ∃ n, Sql.PlainName n ∧ (s = n ∨ s = n ++ "\n")) ∧
    (∀ s, (∀ t, Sql.backtick s ≠ .ok t) → Sql.backtick s = .error (.defect (.notIdentifier s))) ∧
    ∃ executed, v.statements = w.statements ++ executed ∧ ∀ sql ∈ executed,
      (Clean settings db only w sql ∨
        Batch.DropsTrailing settings only (db.rows w.statements RoutineCatalog.query) sql) ∧
      ∀ name, '-' ∉ name.toList → Quotes name sql → Sql.PlainName name ∨
        Batch.DropsTrailing settings only (db.rows w.statements RoutineCatalog.query) sql := by
  refine ⟨fun s t => ?_, fun s refused => ?_, ?_⟩
  · rw [← Sql.isIdentifier_iff, Sql.backtick]
    cases Sql.isIdentifier s <;> simp [eq_comm]
  · unfold Sql.backtick at refused ⊢
    split
    · rename_i usable
      exact absurd (if_pos usable) (refused _)
    · rfl
  · obtain ⟨executed, statements, each⟩ := Batch.sends_loadAll run
    refine ⟨executed, statements, fun sql member => ⟨each sql member, fun name absent quotes => ?_⟩⟩
    exact (each sql member).imp_left fun clean => clean.plainName absent quotes

open Sample in
/-- The batch over the sample directory drops a routine by its plain name. -/
theorem sample_names_between_backticks : Sql.backtick "b" = .ok "`b`" ∧ ∃ result v executed,
    (loadAll settings (answering [rowOf "b"]).layer none).run (world text) = (result, v) ∧
    v.statements = executed ∧ ∀ sql ∈ executed,
      (Clean settings (answering [rowOf "b"]) none (world text) sql ∨
        Batch.DropsTrailing settings none [rowOf "b"] sql) ∧
      ∀ name, '-' ∉ name.toList → Quotes name sql →
        Sql.PlainName name ∨ Batch.DropsTrailing settings none [rowOf "b"] sql := by
  cases run : (loadAll settings (answering [rowOf "b"]).layer none).run (world text) with
  | mk result v =>
    obtain ⟨quoted, -, executed, statements, each⟩ := names_between_backticks run
    have plain : Sql.PlainName "b" := ⟨by decide, List.all_eq_true.1 (by decide)⟩
    exact ⟨(quoted _ _).2 ⟨rfl, "b", plain, .inl rfl⟩, result, v, executed, rfl, statements, each⟩

namespace Sample

def trailing : String := "abc\n"

theorem reports_trailing : RoutineCatalog.Reports (rowOf trailing) (trailing, "procedure") where
  name := rfl
  type := ⟨"PROCEDURE", rfl, rfl⟩
  plain := by decide +kernel
  known := by decide

end Sample

open Sample in
/-- A name with a line feed at its end is put between backticks, and a batch whose catalog has it
sends a drop with it. -/
theorem trailing_newline_quoted : Sql.backtick trailing = .ok "`abc\n`" ∧
    (¬ ∃ n, Sql.PlainName n ∧ "`abc\n`" = "`" ++ n ++ "`") ∧ ∃ result v,
    (loadAll settings (answering [rowOf trailing]).layer none).run (world text) = (result, v) ∧
    routineDrop "procedure" trailing ∈ v.statements := by
  refine ⟨by decide +kernel, ?_, ?_⟩
  · rintro ⟨n, plain, same⟩
    have quoted := congrArg String.toList same
    rw [String.toList_append, String.toList_append] at quoted
    have inner : trailing.toList ++ ['`'] = n.toList ++ ['`'] := (List.cons.inj quoted).2
    exact plain.no_newline (List.append_cancel_right inner ▸ by decide)
  · obtain ⟨u, opened, -⟩ := run_opening (ofRows_rowOf trailing)
    cases run : (loadAll settings (answering [rowOf trailing]).layer none).run (world text) with
    | mk result v =>
      have reported : List.Forall₂ RoutineCatalog.Reports [rowOf trailing]
          [(trailing, "procedure")] := .cons reports_trailing .nil
      obtain ⟨executed, statements, each⟩ := Batch.drops_of_calm rfl rfl opened
        (RoutineCatalog.droppable_of_reports reported (ofRows_rowOf trailing) _) run
        fun _ _ _ _ => rfl
      have found : (catalogOf trailing).lookup ⟨.text trailing⟩ = some (entryOf trailing) := by
        decide +kernel
      have dropping := RoutineCatalog.dropStatement_of_reports reports_trailing
      have dropped := (each trailing _ _ found (by decide +kernel)
        ⟨reports_trailing.plain, "procedure", reports_trailing.known, rfl⟩).2 dropping
      refine ⟨result, v, rfl, ?_⟩
      rw [statements]
      exact List.mem_append_right _ dropped

end StoredRoutines
