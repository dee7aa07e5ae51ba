import StoredRoutines.Proofs.Making
import StoredRoutines.Proofs.StoreFile

/-!
What a batch knows when it starts on the routines. If the database answers both questions about the
schema, this depends on the files and on the two answers alone.
-/

namespace StoredRoutines

open Loader TraceProperty Outcomes

/-- What a file of constants assigns, without the warnings about its lines. -/
def Constants.ofFiles (fs : FileSystem) (p : Path) : Except Failure ReplaceTable :=
  match fs.read p with
  | .error fault => .error (fault.toFailure (unreadable p fault))
  | .ok f =>
    match Text.decode f.content with
    | .ok s => .ok (ofLines (linesOfText (Text.withUnifiedLineEnds s)))
    | .error fault => .error (.defect (.undecodable fault))

def ReplaceTable.ofFiles (fs : FileSystem) (constants : Option Path) (rows : List Sql.Row) :
    Except Failure ReplaceTable := do
  let types ← rows.mapM ColumnTypes.ofRow
  let assigned ← (constants.map (Constants.ofFiles fs)).getD (.ok [])
  return Assoc.putAll (Assoc.ofPairs types) assigned

namespace Constants

theorem run_report (p : Path) (lines : List Line) (w : World) :
    ((report p lines).run w).1 = .ok () := by
  unfold report
  generalize strayLines lines = numbers
  induction numbers generalizing w with
  | nil => rfl
  | cons n numbers ih => exact ih _

theorem run_read (p : Path) (w : World) :
    ∃ es, (read p).run w = (ofFiles w.files p, w.after es) ∧ Event.statements es = [] := by
  obtain ⟨es, step, silent, -⟩ := traces_read allowsQuiet_quiet p w
  refine ⟨es, Prod.ext ?_ step, silent⟩
  have started : (read p).run w = (match w.files.read p with
    | .error fault => Loader.fail (fault.toFailure (unreadable p fault))
    | .ok f =>
      match Text.decode f.content with
      | .ok s => report p (linesOfText (Text.withUnifiedLineEnds s)) >>= fun _ =>
          pure (ofLines (linesOfText (Text.withUnifiedLineEnds s)))
      | .error fault => report p ((Text.linesBefore fault f.content).map Line.ofText) >>= fun _ =>
          Loader.fail (.defect (.undecodable fault))).run w := rfl
  rw [started, ofFiles]
  split
  · rfl
  · split
    · rw [run_bind_of_ok (run_eq_of_fst (run_report _ _ _))]
      rfl
    · rw [run_bind_of_ok (run_eq_of_fst (run_report _ _ _))]
      rfl

end Constants

variable {db : Sql.Database}

theorem RoutineCatalog.run_fetch {w : World}
    (h : db.failure w.statements RoutineCatalog.query = none) :
    (fetch db.layer).run w =
      (ofRows (db.rows w.statements RoutineCatalog.query), w.after [.statement query]) := by
  rw [fetch, run_bind_of_ok (Sql.Database.run_rows_of_none h), run_ofExcept]

theorem ColumnTypes.run_fetch {w : World}
    (h : db.failure w.statements ColumnTypes.query = none) :
    (fetch db.layer).run w =
      (((db.rows w.statements ColumnTypes.query).mapM ofRow).map Assoc.ofPairs,
        w.after [.statement query]) := by
  rw [fetch, run_bind_of_ok (Sql.Database.run_rows_of_none h)]
  cases (db.rows w.statements ColumnTypes.query).mapM ofRow with
  | error e => exact run_bind_of_error (run_ofExcept _ _)
  | ok types => exact run_bind_of_ok (run_ofExcept _ _)

namespace ReplaceTable

def assigned : Option Path → Loader ReplaceTable
  | some p => Constants.read p
  | none => pure []

theorem build_eq (layer : Sql.DataLayer) (constants : Option Path) : build layer constants =
    ColumnTypes.fetch layer >>= fun types => assigned constants >>= fun found => do
      let table := Assoc.putAll types found
      Loader.log .debug .replaceTable
        ("Replace table holds " ++ toString table.length ++ " placeholder(s)")
      return table := by
  cases constants <;> rfl

theorem run_assigned (constants : Option Path) (w : World) :
    ∃ es, (assigned constants).run w =
        ((constants.map (Constants.ofFiles w.files)).getD (.ok []), w.after es) ∧
      Event.statements es = [] := by
  cases constants with
  | none => exact ⟨[], by rw [World.after_nil]; rfl, rfl⟩
  | some p => exact Constants.run_read p w

/-- Building the replace table asks for the column types, and otherwise depends on the files. -/
theorem run_build (constants : Option Path) {w : World}
    (h : db.failure w.statements ColumnTypes.query = none) :
    ∃ es, (build db.layer constants).run w =
        (ofFiles w.files constants (db.rows w.statements ColumnTypes.query), w.after es) ∧
      Event.statements es = [ColumnTypes.query] := by
  let asked := w.after [.statement ColumnTypes.query]
  have fetched := ColumnTypes.run_fetch h
  rw [build_eq, ofFiles]
  cases typed : (db.rows w.statements ColumnTypes.query).mapM ColumnTypes.ofRow with
  | error e =>
    rw [typed] at fetched
    exact ⟨[.statement ColumnTypes.query], run_bind_of_error fetched, rfl⟩
  | ok types =>
    rw [typed] at fetched
    rw [run_bind_of_ok fetched]
    obtain ⟨es, read, silent⟩ := run_assigned constants asked
    rw [World.files_after] at read
    cases found : (constants.map (Constants.ofFiles w.files)).getD (.ok []) with
    | error e =>
      rw [found] at read
      refine ⟨[.statement ColumnTypes.query] ++ es, ?_, ?_⟩
      · rw [← World.after_after]
        exact run_bind_of_error read
      · rw [Event.statements_append, silent]
        rfl
    | ok assigned =>
      rw [found] at read
      let table := Assoc.putAll (Assoc.ofPairs types) assigned
      let line : Event := .log ⟨.debug, .replaceTable,
        "Replace table holds " ++ toString table.length ++ " placeholder(s)"⟩
      refine ⟨[.statement ColumnTypes.query] ++ es ++ [line], ?_, ?_⟩
      · rw [← World.after_after, ← World.after_after]
        exact run_bind_of_ok read
      · rw [Event.statements_append, Event.statements_append, silent]
        rfl

end ReplaceTable

/-- A batch starts with the records of the store, the catalog, and the values of all placeholders. -/
theorem Batch.run_prepare_of_ok (settings : LoaderSettings) {w : World} {start : Start}
    (store : RecordStore.load w.files settings.store = .ok start.store)
    (first : db.failure w.statements RoutineCatalog.query = none)
    (catalog : RoutineCatalog.ofRows (db.rows w.statements RoutineCatalog.query) =
      .ok start.catalog)
    (second : db.failure (w.statements ++ [RoutineCatalog.query]) ColumnTypes.query = none)
    (table : ReplaceTable.ofFiles w.files settings.constants
      (db.rows (w.statements ++ [RoutineCatalog.query]) ColumnTypes.query) = .ok start.table) :
    ∃ es, (prepare settings db.layer).run w = (.ok start, w.after es) ∧
      Event.statements es = [RoutineCatalog.query, ColumnTypes.query] := by
  have read : (RecordStore.read settings.store).run w = (.ok start.store, w) := by
    rw [RecordStore.read, run_bind_of_ok (run_getFiles w), run_ofExcept, store]
  have fetched : (RoutineCatalog.fetch db.layer).run w =
      (.ok start.catalog, w.after [.statement RoutineCatalog.query]) := by
    rw [RoutineCatalog.run_fetch first, catalog]
  have before : (w.after [.statement RoutineCatalog.query]).statements =
      w.statements ++ [RoutineCatalog.query] := by simp
  rw [← before] at second table
  obtain ⟨es, built, statements⟩ := ReplaceTable.run_build settings.constants second
  rw [World.files_after, table] at built
  refine ⟨[.statement RoutineCatalog.query] ++ es, ?_, ?_⟩
  · rw [← World.after_after]
    exact (run_bind_of_ok read).trans ((run_bind_of_ok fetched).trans (run_bind_of_ok built))
  · rw [Event.statements_append, statements]
    rfl

theorem RoutineCatalog.run_fetch_eq_ok {w v : World} {catalog : RoutineCatalog}
    (run : (fetch db.layer).run w = (.ok catalog, v)) :
    ofRows (db.rows w.statements query) = .ok catalog ∧ v = w.after [.statement query] := by
  obtain ⟨rows, asked, asking, made⟩ := run_bind_eq_ok.1 run
  obtain ⟨reported, rfl⟩ := Prod.mk.inj ((run_ofExcept _ _).symm.trans made)
  obtain ⟨-, rfl, rfl⟩ := Sql.Database.run_rows_eq_ok.1 asking
  exact ⟨reported, rfl⟩

theorem Batch.steps_of_prepare {settings : LoaderSettings} {layer : Sql.DataLayer} {w v : World}
    {start : Start} (run : (prepare settings layer).run w = (.ok start, v)) :
    RecordStore.load w.files settings.store = .ok start.store ∧
      ∃ u, (RoutineCatalog.fetch layer).run w = (.ok start.catalog, u) ∧
        (ReplaceTable.build layer settings.constants).run u = (.ok start.table, v) := by
  obtain ⟨store, read, reading, rest⟩ := run_bind_eq_ok.1 run
  obtain ⟨catalog, fetched, fetching, rest⟩ := run_bind_eq_ok.1 rest
  obtain ⟨table, built, building, last⟩ := run_bind_eq_ok.1 rest
  cases last
  obtain ⟨fs, looked, looking, loading⟩ := run_bind_eq_ok.1 reading
  cases looking
  obtain ⟨loaded, rfl⟩ := Prod.mk.inj ((run_ofExcept _ _).symm.trans loading)
  exact ⟨loaded, fetched, fetching, building⟩

theorem Batch.run_prepare_eq_ok {settings : LoaderSettings} {w v : World} {start : Start}
    (run : (prepare settings db.layer).run w = (.ok start, v)) :
    RecordStore.load w.files settings.store = .ok start.store ∧
      RoutineCatalog.ofRows (db.rows w.statements RoutineCatalog.query) = .ok start.catalog ∧
      ReplaceTable.ofFiles w.files settings.constants
        (db.rows (w.statements ++ [RoutineCatalog.query]) ColumnTypes.query) = .ok start.table := by
  obtain ⟨loaded, u, fetching, building⟩ := steps_of_prepare run
  obtain ⟨reported, rfl⟩ := RoutineCatalog.run_fetch_eq_ok fetching
  refine ⟨loaded, reported, ?_⟩
  obtain ⟨types, typed, typing, -⟩ := run_bind_eq_ok.1 building
  obtain ⟨columns, queried, querying, -⟩ := run_bind_eq_ok.1 typing
  obtain ⟨answered, -, -⟩ := Sql.Database.run_rows_eq_ok.1 querying
  obtain ⟨es, same, -⟩ := ReplaceTable.run_build settings.constants answered
  rw [building] at same
  simpa using (Prod.mk.inj same).1.symm

/-- A batch over some sources of different names handles each of them and keeps their records. -/
theorem Batch.run_settle_of_sources {settings : LoaderSettings} {layer : Sql.DataLayer}
    {only : List Path} {w u v : World} {start : Start} {handled : List RoutineResult}
    (alone : duplicates (groups settings.extension (sortPaths only)) = [])
    (prepared : (prepare settings layer).run w = (.ok start, u))
    (handling : ((sources (groups settings.extension (sortPaths only))).mapM
      (routine settings layer start)).run u = (.ok handled, v)) :
    (settle settings layer (some only)).run w =
      (.ok ⟨⟨sortResults handled, [], settings.dryRun⟩, handled.foldl keep start.store⟩, v) := by
  have found : (paths settings (some only)).run w = (.ok (sortPaths only), w) := rfl
  have rejected : (rejectDuplicates (groups settings.extension (sortPaths only))).run w =
      (.ok [], w) := by
    rw [rejectDuplicates, alone]
    rfl
  rw [settle, run_bind_of_ok found, run_bind_of_ok rejected, run_bind_of_ok prepared,
    run_bind_of_ok handling]
  rfl

namespace Sample

theorem load_store (text : String) : RecordStore.load (filesWith text) settings.store = .ok [] :=
  rfl

theorem sortPaths_path : sortPaths [path] = [path] := List.mergeSort_singleton ..

theorem duplicates_path : Batch.duplicates (Batch.groups settings.extension [path]) = [] := by
  decide +kernel

theorem sources_path : Batch.sources (Batch.groups settings.extension [path]) = [("a", path)] := by
  rfl

def otherPath : Path := ⟨"/", ["b.psql"]⟩

def filesBeside (other : String) : FileSystem :=
  ⟨[(["a.psql"], .file ⟨text.toUTF8, 0⟩), (["b.psql"], .file ⟨other.toUTF8, 0⟩)], []⟩

def worldBeside (other : String) : World := ⟨filesBeside other, true, []⟩

theorem sortPaths_pair : sortPaths [path, otherPath] = [path, otherPath] :=
  List.mergeSort_of_pairwise (by decide)

theorem duplicates_pair : Batch.duplicates
    (Batch.groups settings.extension (sortPaths [path, otherPath])) = [] := by
  rw [sortPaths_pair]
  rfl

theorem sources_pair : Batch.sources
    (Batch.groups settings.extension (sortPaths [path, otherPath])) =
      [("a", path), ("b", otherPath)] := by
  rw [sortPaths_pair]
  rfl

theorem run_settle_path {layer : Sql.DataLayer} {start : Batch.Start} {w u v : World}
    {r : RoutineResult} (prepared : (Batch.prepare settings layer).run w = (.ok start, u))
    (handled : (Batch.routine settings layer start ("a", path)).run u = (.ok r, v)) :
    (Batch.settle settings layer (some [path])).run w =
      (.ok ⟨⟨[r], [], false⟩, Batch.keep start.store r⟩, v) := by
  have alone : Batch.duplicates (Batch.groups settings.extension (sortPaths [path])) = [] := by
    rw [sortPaths_path, duplicates_path]
  have handling : ((Batch.sources (Batch.groups settings.extension (sortPaths [path]))).mapM
      (Batch.routine settings layer start)).run u = (.ok [r], v) := by
    rw [sortPaths_path, sources_path]
    exact run_mapM_eq_ok.2 (.cons handled (.nil v))
  have results : Batch.sortResults [r] = [r] := List.mergeSort_singleton ..
  rw [Batch.run_settle_of_sources alone prepared handling, results]
  rfl

def filesHolding (text : String) (content : ByteArray) : FileSystem :=
  ⟨[(["a.psql"], .file ⟨text.toUTF8, 0⟩), (["s.json"], .file ⟨content, 0⟩)], []⟩

theorem run_write {store : RecordStore} {v : Value} (shape : store.toValue = .ok v)
    (complete : (Json.render v).failure = none) {s : String} {w : World}
    (files : w.files = filesWith s) : (store.write settings.store).run w =
      (.ok (), { w with files := filesHolding s (RecordStore.content (Json.render v)) }) := by
  refine RecordStore.run_write_eq_ok.2 ⟨v, ⟨"/", ["s.json.tmp"]⟩, filesWith s, _, _, shape,
    by rfl, ?_, rfl, complete, rfl, ?_⟩
  · rw [files]
    rfl
  · rfl

def store : RecordStore := [(.text "a", recordOf source annotations)]

def storedValue : Value := .object [(.text "a", (recordOf source annotations).asValue)]

theorem toValue_store : store.toValue = .ok storedValue := by
  simp only [RecordStore.toValue, store, Atom.sortEntries, List.mergeSort_singleton]
  rfl

theorem complete_store : (Json.render storedValue).failure = none :=
  Json.complete_of_isWritable rfl 0

def loaded : RoutineResult :=
  ⟨path, "a", .loaded .noRecord (recordOf source annotations) (RoutineDoc.warnings source [])⟩

/-- The row of a procedure that was made under the settings of the session. -/
def rowOf (name : String) : Sql.Row :=
  [("routine_name", .text name), ("routine_type", .text "PROCEDURE"), ("sql_mode", .text ""),
    ("character_set_client", .text "utf8"), ("collation_connection", .text "utf8_bin")]

def entryOf (name : String) : CatalogEntry :=
  ⟨.text name, .text "procedure", .text "", .text "utf8", .text "utf8_bin"⟩

def catalogOf (name : String) : RoutineCatalog := [(⟨.text name⟩, entryOf name)]

theorem ofRows_rowOf (name : String) : RoutineCatalog.ofRows [rowOf name] = .ok (catalogOf name) :=
  rfl

def creating : List String := ["set sql_mode = ''", "set names 'utf8' collate 'utf8_bin'", text]

theorem makingStatements_source (first : List Sql.Row) :
    makingStatements (answering first).layer [] source annotations session none = .ok creating := by
  have sets : session.statements Sql.escapeForScript =
      ["set sql_mode = ''", "set names 'utf8' collate 'utf8_bin'"] := by decide +kernel
  have escape : (answering first).layer.escape = Sql.escapeForScript := rfl
  simp only [makingStatements, createStatement_source, droppingStatements, escape, sets]
  rfl

theorem run_compile_loaded (first : List Sql.Row) {w : World}
    (load : RoutineSource.load w.files path settings.extension = .ok source)
    (directory : w.files.workingDirectory = []) :
    ∃ v, (compile settings (answering first).layer path none [] none).run w = (.ok loaded, v) ∧
      v.statements = w.statements ++ creating ++
        [CatalogParameter.query ((answering first).layer.quote "a")] ∧
      v.files = w.files := by
  have planned : makingStatements (answering first).layer w.files.workingDirectory source
      annotations settings.session none = .ok creating := by
    rw [directory]
    exact makingStatements_source first
  have judged : Freshness.judge none source.modified [] settings.session none =
      .ok (.stale .noRecord) := rfl
  exact run_compile_answering load judged ofSource_source rfl rfl planned

theorem run_compile_source {first : List Sql.Row} {w : World} (files : w.files = filesWith text) :
    ∃ v, (compile settings (answering first).layer path none [] none).run w = (.ok loaded, v) ∧
      v.statements = w.statements ++ creating ++
        [CatalogParameter.query ((answering first).layer.quote "a")] ∧
      v.files = filesWith text := by
  obtain ⟨v, run, statements, same⟩ := run_compile_loaded first (w := w)
    (by rw [files]; exact load_source) (by rw [files]; rfl)
  exact ⟨v, run, statements, same.trans files⟩

theorem run_routine_answering {first : List Sql.Row} {catalog : RoutineCatalog}
    (unknown : catalog.lookup ⟨.text "a"⟩ = none) {w : World} (files : w.files = filesWith text) :
    ∃ v, (Batch.routine settings (answering first).layer ⟨[], catalog, []⟩ ("a", path)).run w =
        (.ok loaded, v) ∧
      v.files = filesWith text := by
  obtain ⟨v, run, -, same⟩ := run_compile_source files
  refine ⟨v, ?_, same⟩
  simp only [Batch.routine, unknown]
  exact run

theorem run_loadAll_answering : ∃ v,
    (loadAll settings (answering []).layer (some [path])).run (world text) =
        (.ok ⟨[loaded], [], false⟩, v) ∧
      v.files = filesHolding text (RecordStore.content (Json.render storedValue)) := by
  obtain ⟨es, prepared, -⟩ : ∃ es, (Batch.prepare settings (answering []).layer).run (world text) =
      (.ok ⟨[], [], []⟩, (world text).after es) ∧
        Event.statements es = [RoutineCatalog.query, ColumnTypes.query] :=
    Batch.run_prepare_of_ok settings (load_store text) rfl rfl rfl rfl
  obtain ⟨v, made, files⟩ : ∃ v, (Batch.routine settings (answering []).layer ⟨[], [], []⟩
      ("a", path)).run ((world text).after es) = (.ok loaded, v) ∧ v.files = filesWith text :=
    run_routine_answering rfl rfl
  have finished : (Batch.finish settings store).run v = _ :=
    run_write toValue_store complete_store files
  have ended : (loadAll settings (answering []).layer (some [path])).run (world text) = _ :=
    (run_bind_of_ok (run_settle_path prepared made)).trans (run_bind_of_ok finished)
  exact ⟨_, ended, rfl⟩

end Sample

end StoredRoutines
