import StoredRoutines.Proofs.Preparing
import StoredRoutines.Proofs.Results

/-!
What the loss of the connection does to a batch. The statement that loses the connection is the
last one, except that a temporary table is still dropped; if this drop fails in another way, its
failure takes the place of the loss, and the batch goes on.
-/

namespace StoredRoutines

open Loader TraceProperty

/-- The computation executes no statement, and it does not fail for the connection. It may change
the files. -/
def Loader.Silent {α : Type} (x : Loader α) : Prop :=
  ∀ w, ∃ es, (x.run w).2.events = w.events ++ es ∧ Event.statements es = [] ∧ Harmless (x.run w).1

namespace Loader.Silent

variable {α β : Type}

theorem bind {x : Loader α} {f : α → Loader β} (hx : x.Silent) (hf : ∀ a, (f a).Silent) :
    (x >>= f).Silent := by
  intro w
  obtain ⟨es, events, silent, calm⟩ := hx w
  cases ran : x.run w with
  | mk r v =>
    rw [ran] at events calm
    cases r with
    | error e =>
      rw [run_bind_of_error ran]
      exact ⟨es, events, silent, by simpa using calm⟩
    | ok a =>
      rw [run_bind_of_ok ran]
      obtain ⟨fs, events', silent', calm'⟩ := hf a v
      refine ⟨es ++ fs, ?_, by rw [Event.statements_append, silent, silent']; rfl, calm'⟩
      rw [events', events, List.append_assoc]

theorem of_unchanged {x : Loader α} (events : ∀ w, (x.run w).2.events = w.events)
    (calm : ∀ w, Harmless (x.run w).1) : x.Silent := by
  intro w
  exact ⟨[], by rw [events, List.append_nil], rfl, calm w⟩

theorem ofExcept {r : Except Failure α} (calm : Harmless r) : (Loader.ofExcept r).Silent := by
  refine of_unchanged (fun w => ?_) (fun w => ?_)
  · rw [run_ofExcept]
  · rw [run_ofExcept]
    exact calm

theorem fail {e : Failure} (calm : e.isConnectionLoss = false) :
    (Loader.fail e : Loader α).Silent :=
  of_unchanged (fun _ => rfl) (fun _ => by simpa using calm)

theorem pure (a : α) : (Pure.pure a : Loader α).Silent :=
  of_unchanged (fun _ => rfl) (fun _ => Harmless.ok a)

theorem getFiles : Loader.getFiles.Silent :=
  of_unchanged (fun _ => rfl) (fun _ => Harmless.ok _)

theorem setFiles (fs : FileSystem) : (Loader.setFiles fs).Silent :=
  of_unchanged (fun _ => rfl) (fun _ => Harmless.ok _)

theorem log (level : LogLevel) (channel : Channel) (text : String) :
    (Loader.log level channel text).Silent := by
  intro w
  exact ⟨_, rfl, rfl, Harmless.ok _⟩

end Loader.Silent

namespace RecordStore

theorem silent_change (p : Path) (explain : FileFault → String)
    (changed : Except FileFault FileSystem) : (change p explain changed).Silent := by
  unfold change
  split
  · exact Silent.setFiles _
  · exact Silent.fail (isConnectionLoss_toFailure _ (by simp [unwritable]))

theorem silent_makeRoom (p : Path) : (makeRoom p).Silent := by
  refine Silent.getFiles.bind (fun fs => (Silent.setFiles _).bind (fun _ => ?_))
  split
  · exact Silent.pure _
  · exact Silent.fail (isConnectionLoss_toFailure _ (by simp [unwritable]))

theorem silent_write (p : Path) (store : RecordStore) : (store.write p).Silent := by
  refine (Silent.ofExcept (.of_defective (defective_toValue store))).bind (fun v => ?_)
  split
  · exact Silent.fail rfl
  · refine (silent_makeRoom p).bind (fun _ => Silent.getFiles.bind (fun fs => ?_))
    refine (silent_change _ _ _).bind (fun _ => ?_)
    split
    · rename_i e failed
      exact Silent.fail (Json.harmless_render v e failed)
    · exact Silent.getFiles.bind (fun fs => silent_change _ _ _)

end RecordStore

theorem Batch.silent_finish (settings : LoaderSettings) (records : RecordStore) :
    (finish settings records).Silent := by
  unfold finish
  split
  · exact Silent.log _ _ _
  · exact RecordStore.silent_write _ _

/-- The batch ended with the loss of the connection: it says so, it did not write the store, and
nothing happened after the loss but the drop of a temporary table. -/
structure Halts (w : World) (result : Except Failure BatchResult) (v : World)
    (post : List Event) : Prop where
  raised : ∃ e, result = .error (.error e) ∧ e.kind = .connection
  files_eq : v.files = w.files
  last : post = [] ∨
    ∃ table drop, BulkTable.dropStatement table = .ok drop ∧ post = [.statement drop]

theorem Batch.silent_finishing (settings : LoaderSettings) (settled : Settled) :
    (finish settings settled.records >>= fun _ => Loader.log .info .batch (summary settled.batch) >>=
      fun _ => pure settled.batch).Silent :=
  (silent_finish _ _).bind (fun _ => (Silent.log _ _ _).bind (fun _ => Silent.pure _))

open Sql.Database in
/-- How a batch ends with the loss of the connection, or with all losses hidden. -/
theorem run_loadAll_halting {db : Sql.Database} {settings : LoaderSettings}
    {only : Option (List Path)} {w v : World} {result : Except Failure BatchResult}
    (run : (loadAll settings db.layer only).run w = (result, v)) :
    ∃ es, v.events = w.events ++ es ∧ db.Halting w (failure? result) es ∧
      ((∃ e, failure? result = some e ∧ e.isConnectionLoss = true) → v.files = w.files) := by
  obtain ⟨es, step, holds⟩ := Batch.traces_settle accepts_halting settings
    Compile.traces_bulkColumns only w
  cases settling : (Batch.settle settings db.layer only).run w with
  | mk r u =>
    rw [settling] at step holds
    simp only at step
    subst step
    cases r with
    | error e =>
      have failed : (loadAll settings db.layer only).run w = (.error e, w.after es) :=
        run_bind_of_error settling
      rw [failed] at run
      cases run
      exact ⟨es, rfl, holds, fun _ => rfl⟩
    | ok settled =>
      -- Nothing after the routines executes a statement, so the losses stay as hidden as they were.
      have hidden := (halting_of_kept (by simp [failure?])).1 holds
      obtain ⟨fs, events, silent, calm⟩ := Batch.silent_finishing settings settled (w.after es)
      have rest : (loadAll settings db.layer only).run w = _ := run_bind_of_ok settling
      rw [← rest, run] at events calm
      have kept : ∀ e, failure? result = some e → e.isConnectionLoss = false := by
        intro e same
        cases result with
        | ok b => cases same
        | error e' =>
          cases same
          exact calm _ rfl
      refine ⟨es ++ fs, ?_, ?_, ?_⟩
      · rw [events]
        exact List.append_assoc _ _ _
      · exact (halting_of_kept kept).2 (hidden.append (allHidden_of_statements_eq_nil silent))
      · rintro ⟨e, same, lost⟩
        rw [kept e same] at lost
        cases lost

namespace Sql.Database

variable {db : Sql.Database}

/-- Nothing but the drop of a temporary table comes after a statement in a trace that ends with the
loss of the connection. -/
theorem LosesAtEnd.last {w : World} {pre post : List Event} {sql : String}
    (h : db.LosesAtEnd w (pre ++ .statement sql :: post)) :
    post = [] ∨ ∃ table drop, BulkTable.dropStatement table = .ok drop ∧
      post = [.statement drop] := by
  rcases h with ⟨s, same, -⟩ | ⟨table, s, drop, -, dropping, same, -⟩
  · cases pre with
    | nil =>
      cases same
      exact .inl rfl
    | cons e pre => simp at same
  · cases pre with
    | nil =>
      cases same
      exact .inr ⟨table, drop, dropping, rfl⟩
    | cons e pre =>
      cases pre with
      | nil =>
        cases same
        exact .inl rfl
      | cons e' pre => simp at same

theorem LosesAtEnd.not_failsOtherwise {w : World} {pre : List Event} {fs gs : List Event}
    {sql drop : String} (h : db.LosesAtEnd (w.after fs) gs)
    (split : pre ++ [.statement sql, .statement drop] = fs ++ gs) :
    ¬ db.FailsOtherwise ((w.after pre).statements ++ [sql]) drop := by
  rcases h with ⟨s, rfl, lost⟩ | ⟨table, s, d, -, -, rfl, -, calm⟩
  · have regrouped : (pre ++ [.statement sql]) ++ [.statement drop] = fs ++ [.statement s] := by
      simpa using split
    obtain ⟨rfl, same⟩ := List.append_inj' regrouped rfl
    cases same
    have before : (w.after (pre ++ [.statement sql])).statements =
        (w.after pre).statements ++ [sql] := by simp
    rw [before] at lost
    exact not_failsOtherwise_of_loses lost
  · obtain ⟨rfl, same⟩ := List.append_inj' split rfl
    cases same
    exact calm

end Sql.Database

open Sql.Database in
/-- A batch in which a statement loses the connection halts there, unless the drop of a temporary
table hides the loss. -/
theorem loadAll_halts_iff {db : Sql.Database} {settings : LoaderSettings}
    {only : Option (List Path)} {w v : World} {result : Except Failure BatchResult}
    (run : (loadAll settings db.layer only).run w = (result, v)) {pre post : List Event}
    {sql : String} (happened : v.events = w.events ++ (pre ++ .statement sql :: post))
    (lost : db.Loses (w.after pre).statements sql) :
    Halts w result v post ↔ ¬ db.HidesLoss (w.after pre).statements sql post := by
  obtain ⟨es, events, halting, files⟩ := run_loadAll_halting run
  rw [happened] at events
  obtain rfl := List.append_cancel_left events
  by_cases raised : ∃ e, result = .error (.error e) ∧ e.kind = .connection
  · obtain ⟨e, rfl, kind⟩ := raised
    have loss : (Failure.error e).isConnectionLoss = true := by simp [Failure.isConnectionLoss, kind]
    obtain ⟨fs, gs, split, hidden, ending⟩ := (halting_of_lost loss).1 halting
    constructor
    · rintro halts ⟨table, drop, rest, -, -, rfl, failed⟩
      rcases halts.last with none | ⟨table', drop', -, only⟩
      · cases none
      · cases only
        exact ending.not_failsOtherwise split failed
    · intro shown
      refine ⟨⟨e, rfl, kind⟩, files ⟨_, rfl, loss⟩, ?_⟩
      -- The statement is one of the hidden part only if the batch goes on behind it.
      rcases List.append_eq_append_iff.1 split with ⟨more, rfl, behind⟩ | ⟨more, rfl, rfl⟩
      · cases more with
        | nil =>
          have alone : gs = [] ++ .statement sql :: post := behind.symm
          rw [alone] at ending
          exact ending.last
        | cons e' more =>
          obtain ⟨rfl, rfl⟩ := List.cons.inj behind
          exact absurd ((hidden pre sql more rfl lost).append gs) shown
      · exact ending.last
  · have kept : ∀ e, failure? result = some e → e.isConnectionLoss = false := by
      intro e same
      cases result with
      | ok b => cases same
      | error e' =>
        cases same
        cases e with
        | defect d => rfl
        | error e =>
          have other : e.kind ≠ .connection := fun kind => raised ⟨e, rfl, kind⟩
          simpa [Failure.isConnectionLoss] using other
    have hides := (halting_of_kept kept).1 halting pre sql post rfl lost
    constructor
    · intro halts
      exact absurd halts.raised raised
    · intro shown
      exact absurd hides shown

/-- The failure of the drop takes the place of the loss of the connection before it. -/
theorem BulkTable.run_declaredColumns_of_refused {db : Sql.Database} {routine table : Value}
    {declared : Nat} {label literal call sql drop : String} {lost e : LoaderError} {w : World}
    (quoted : db.layer.quoteValue table = .ok literal)
    (calls : callStatement routine = .ok call) (describes : describeQuery table = .ok sql)
    (drops : BulkTable.dropStatement table = .ok drop)
    (performed : db.Performs w.statements [existsQuery literal, call])
    (temporary : (db.scalar w.statements (existsQuery literal)).isNothing = true)
    (loss : db.failure (w.statements ++ [existsQuery literal, call]) sql = some lost)
    (refused : db.failure (w.statements ++ [existsQuery literal, call, sql]) drop = some e) :
    (declaredColumns db.layer routine table declared label).run w =
      (.error (.error e), w.after ([existsQuery literal, call, sql, drop].map .statement)) := by
  obtain ⟨first, second, -⟩ := performed
  let asked := w.after [.statement (existsQuery literal)]
  let called := asked.after [.statement call]
  let described := called.after [.statement sql]
  have before : asked.statements = w.statements ++ [existsQuery literal] := by simp [asked]
  have before' : called.statements = w.statements ++ [existsQuery literal, call] := by
    simp [called, before]
  have before'' : described.statements = w.statements ++ [existsQuery literal, call, sql] := by
    simp [described, before']
  have absent : (isPermanent db.layer table).run w = (.ok false, asked) := by
    refine (run_bind_of_ok (by rw [run_ofExcept, quoted])).trans ?_
    refine (run_bind_of_ok (Sql.Database.run_scalar_of_none first)).trans ?_
    rw [temporary]
    rfl
  have fails (log : TableColumns → Loader TableColumns) :
      (columns db.layer table >>= log).attempt.run called =
        (.ok (.error (.error lost)), described) := by
    rw [run_attempt, columns, bind_assoc, run_bind_of_ok (by rw [run_ofExcept, describes]),
      bind_assoc, run_bind_of_error (Sql.Database.run_rows_of_some (by rw [before', loss]))]
  have hidden : (db.layer.execute drop).run described = (.error (.error e),
      w.after ([existsQuery literal, call, sql, drop].map .statement)) := by
    rw [Sql.Database.run_execute_of_some (by rw [before'', refused])]
    simp [described, called, asked]
  refine run_bind_of_error ((run_bind_of_ok absent).trans ?_)
  refine (run_bind_of_ok (by rw [run_ofExcept, calls])).trans ?_
  refine (run_bind_of_ok (Sql.Database.run_execute_of_none (by rw [before, second]))).trans ?_
  refine (run_bind_of_ok (fails _)).trans ?_
  exact (run_bind_of_ok (by rw [run_ofExcept, drops])).trans (run_bind_of_error hidden)

namespace Sample

def bulkText : String := "create procedure a()\n-- type: bulk_insert t x\nbegin\nend\n"

def bulkSource : RoutineSource := ⟨path, ".psql", bulkText, 0⟩

def bulkAnnotations : Annotations := ⟨⟨"procedure", "a"⟩, .bulkInsert "t" ["x"], [], []⟩

/-- A database that loses the connection at the ninth statement and refuses the tenth. -/
def losing : Sql.Database where
  failure before _ :=
    if before.length = 8 then some ⟨.connection, "lost", {}⟩
    else if before.length = 9 then some ⟨.dataLayer, "refused", {}⟩
    else none
  rows _ _ := []
  scalar _ _ := .null
  escape := Sql.escapeForScript

/-- A database that loses the connection at the fifth statement. -/
def breaking : Sql.Database where
  failure before _ := if before.length = 4 then some ⟨.connection, "lost", {}⟩ else none
  rows _ _ := []
  scalar _ _ := .null
  escape := Sql.escapeForScript

theorem load_bulkSource :
    RoutineSource.load (filesWith bulkText) path ".psql" = .ok bulkSource :=
  load_filesWith rfl (by decide) (by decide)

theorem resolve_bulkSource : Placeholder.resolve bulkSource [] = .ok [] := by
  have find : Placeholder.find bulkSource.text = [] :=
    RoutineSource.find_of_spelled rfl (by decide +kernel)
  simp [Placeholder.resolve, find, Placeholder.sortTexts]

theorem lines_bulkSource : bulkSource.lines =
    ["create procedure a()", "-- type: bulk_insert t x", "begin", "end", ""] :=
  RoutineSource.lines_of_spelled rfl rfl

theorem ofSource_bulkSource : Annotations.ofSource bulkSource [] = .ok bulkAnnotations := by
  have designation : Designation.ofSource bulkSource = .ok (.bulkInsert "t" ["x"], 1) :=
    RoutineSource.designation_of_lines lines_bulkSource (by decide +kernel)
  have header : Header.ofSource bulkSource = .ok ⟨"procedure", "a"⟩ :=
    RoutineSource.header_of_spelled rfl rfl rfl
  simp only [Annotations.ofSource, resolve_bulkSource, designation, header]
  rfl

open Substitution in
theorem makingStatements_bulk : makingStatements losing.layer [] bulkSource bulkAnnotations session
    none = .ok ["set sql_mode = ''", "set names 'utf8' collate 'utf8_bin'", bulkText] := by
  have none : ∀ l ∈ bulkSource.lines, ∀ t ∈ l.toList.tails, Piece.at? t = none := by
    rw [lines_bulkSource]
    decide
  have create : createStatement losing.layer [] bulkSource bulkAnnotations = .ok bulkText :=
    source_of_no_key resolve_bulkSource rfl none losing.layer.quote [] "a"
  have sets : session.statements losing.layer.escape =
      ["set sql_mode = ''", "set names 'utf8' collate 'utf8_bin'"] := rfl
  simp only [makingStatements, create, droppingStatements, sets]
  rfl

def questions : List String :=
  [CatalogParameter.query (losing.layer.quote "a"), BulkTable.existsQuery (losing.layer.quote "t"),
    "call `a`()", "describe `t`", "drop temporary table if exists `t`"]

theorem run_describe {u : World} (length : u.statements.length = 5) :
    (Compile.describe losing.layer bulkSource bulkAnnotations).run u =
      (.error (.error ⟨.dataLayer, "refused", {}⟩), u.after (questions.map .statement)) := by
  let asked := u.after [.statement (CatalogParameter.query (losing.layer.quote "a"))]
  have before : asked.statements.length = 6 := by simp [asked, length]
  have answers : losing.failure u.statements (CatalogParameter.query (losing.layer.quote "a")) =
      none := by simp [losing, length]
  have fetched : (CatalogParameter.fetch losing.layer "a").run u = (.ok [], asked) :=
    run_bind_of_ok (Sql.Database.run_rows_of_none answers)
  have performed : losing.Performs asked.statements
      [BulkTable.existsQuery (losing.layer.quote "t"), "call `a`()"] := by
    simp [Sql.Database.Performs, losing, before]
  have hidden : (BulkTable.declaredColumns losing.layer (.text "a") (.text "t") 1
      bulkSource.label).run asked = (.error (.error ⟨.dataLayer, "refused", {}⟩), asked.after
        ([BulkTable.existsQuery (losing.layer.quote "t"), "call `a`()", "describe `t`",
          "drop temporary table if exists `t`"].map .statement)) :=
    BulkTable.run_declaredColumns_of_refused rfl rfl rfl rfl performed rfl
      (by simp [losing, before]; rfl) (by simp [losing, before])
  have whole : asked.after ([BulkTable.existsQuery (losing.layer.quote "t"), "call `a`()",
      "describe `t`", "drop temporary table if exists `t`"].map .statement) =
        u.after (questions.map .statement) := World.after_after _ _ _
  rw [whole] at hidden
  exact (run_bind_of_ok fetched).trans
    ((run_bind_of_ok (run_ofExcept _ _)).trans (run_bind_of_error hidden))

def making : List String :=
  ["set sql_mode = ''", "set names 'utf8' collate 'utf8_bin'", bulkText]

theorem run_compile {w : World} (files : w.files = filesWith bulkText)
    (length : w.statements.length = 2) : ∃ r v,
    (compile settings losing.layer path none [] none).run w = (.ok r, v) ∧
      v.statements = w.statements ++ making ++ questions := by
  have loaded : RoutineSource.load w.files path settings.extension = .ok bulkSource := by
    rw [files]
    exact load_bulkSource
  have planned : makingStatements losing.layer w.files.workingDirectory bulkSource bulkAnnotations
      settings.session none = .ok making := by
    rw [files]
    exact makingStatements_bulk
  have performed : losing.Performs w.statements making := by
    simp [Sql.Database.Performs, making, losing, length]
  have undescribed (u : World) (made : u.statements = w.statements ++ making) : ∃ es,
      (Compile.describe losing.layer bulkSource bulkAnnotations).run u =
        (.error (.error ⟨.dataLayer, "refused", {}⟩), u.after es) ∧
          Event.statements es = questions :=
    ⟨_, run_describe (by rw [made]; simp [making, length]), rfl⟩
  have judged : Freshness.judge none bulkSource.modified [] settings.session none =
      .ok (.stale .noRecord) := rfl
  obtain ⟨v, run, statements⟩ := Compile.run_compile_of_undescribed loaded judged
    ofSource_bulkSource planned performed undescribed rfl
  exact ⟨_, v, run, statements⟩

theorem run_settle : ∃ settled v, (Batch.settle settings losing.layer (some [path])).run
    (world bulkText) = (.ok settled, v) ∧ v.statements =
      [RoutineCatalog.query, ColumnTypes.query] ++ making ++ questions := by
  obtain ⟨es, prepared, asked⟩ : ∃ es, (Batch.prepare settings losing.layer).run
        (world bulkText) = (.ok ⟨[], [], []⟩, (world bulkText).after es) ∧
      Event.statements es = [RoutineCatalog.query, ColumnTypes.query] :=
    Batch.run_prepare_of_ok settings (load_store bulkText) rfl rfl rfl rfl
  have before : ((world bulkText).after es).statements = [RoutineCatalog.query, ColumnTypes.query] := by
    rw [World.statements_after, asked]
    rfl
  obtain ⟨r, v, compiled, statements⟩ := run_compile (w := (world bulkText).after es) rfl
    (by rw [before]; rfl)
  refine ⟨_, v, run_settle_path prepared compiled, ?_⟩
  rw [statements, before]

end Sample

open Sample in
/-- The drop of a temporary table hides that its description lost the connection. -/
theorem loss_hidden_by_drop : ∃ result v pre post,
    (loadAll settings losing.layer (some [path])).run (world bulkText) = (result, v) ∧
    v.events = pre ++ .statement "describe `t`" :: post ∧
    losing.Loses (Event.statements pre) "describe `t`" ∧
    ¬ ∃ e, result = .error (.error e) ∧ e.kind = .connection := by
  obtain ⟨settled, u, settling, statements⟩ := run_settle
  obtain ⟨fs, events, -, calm⟩ := Batch.silent_finishing settings settled u
  have ended : (loadAll settings losing.layer (some [path])).run (world bulkText) = _ :=
    run_bind_of_ok settling
  have happened : Event.statements u.events = ([RoutineCatalog.query, ColumnTypes.query] ++ making ++
      questions.take 3) ++ "describe `t`" :: ["drop temporary table if exists `t`"] := statements
  obtain ⟨pre, post, split, before⟩ := Event.statements_eq_append_cons.1 happened
  refine ⟨_, _, pre, post ++ fs, ended, ?_, ?_, ?_⟩
  · refine events.trans ?_
    rw [split, List.append_assoc, List.cons_append]
  · rw [before.1]
    exact ⟨_, rfl, rfl⟩
  · rintro ⟨e, failed, kind⟩
    have kept := calm _ failed
    simp [Failure.isConnectionLoss, kind] at kept

namespace Sample

theorem run_settle_breaking : ∃ es, (Batch.settle settings breaking.layer
    (some [path, otherPath])).run (worldBeside text) = (.error (.error ⟨.connection, "lost", {}⟩),
      (worldBeside text).after (es ++ [.statement text])) ∧ (Event.statements es).length = 4 := by
  obtain ⟨es, prepared, asked⟩ : ∃ es, (Batch.prepare settings breaking.layer).run
      (worldBeside text) = (.ok ⟨[], [], []⟩, (worldBeside text).after es) ∧
        Event.statements es = [RoutineCatalog.query, ColumnTypes.query] :=
    Batch.run_prepare_of_ok settings rfl rfl rfl rfl rfl
  have before : ((worldBeside text).after es).statements =
      [RoutineCatalog.query, ColumnTypes.query] := by
    rw [World.statements_after, asked]
    rfl
  let sets := ["set sql_mode = ''", "set names 'utf8' collate 'utf8_bin'"]
  have planned : makingStatements breaking.layer [] source annotations session none =
      .ok (sets ++ text :: []) := makingStatements_source []
  have lost : (Batch.routine settings breaking.layer ⟨[], [], []⟩ ("a", path)).run
      ((worldBeside text).after es) = _ :=
    Compile.run_compile_of_lost load_source rfl ofSource_source planned
      (by rw [before]; exact ⟨rfl, rfl, trivial⟩) (by rw [before]; rfl) rfl
  have found : (Batch.paths settings (some [path, otherPath])).run (worldBeside text) =
      (.ok [path, otherPath], worldBeside text) :=
    congrArg (fun ps => (Except.ok ps, worldBeside text)) sortPaths_pair
  have rejected : (Batch.rejectDuplicates (Batch.groups settings.extension [path, otherPath])).run
      (worldBeside text) = (.ok [], worldBeside text) := rfl
  refine ⟨es ++ loadingLine annotations :: sets.map .statement, ?_, ?_⟩
  · rw [Batch.settle, run_bind_of_ok found, run_bind_of_ok rejected, run_bind_of_ok prepared]
    refine (run_bind_of_error (run_bind_of_error lost)).trans ?_
    rw [World.after_after]
    simp
  · rw [Event.statements_append, asked]
    rfl

end Sample

open Sample in
/-- A batch that loses the connection when it makes its first routine halts; the next one is not
looked at. -/
theorem halts_at_creation : ∃ result v es,
    (loadAll settings breaking.layer (some [path, otherPath])).run (worldBeside text) = (result, v) ∧
    v.events = es ++ [.statement text] ∧ Halts (worldBeside text) result v [] := by
  obtain ⟨es, settling, length⟩ := run_settle_breaking
  have ended : (loadAll settings breaking.layer (some [path, otherPath])).run (worldBeside text) = _ :=
    run_bind_of_error settling
  have before : ((worldBeside text).after es).statements.length = 4 := by
    rw [World.statements_after]
    exact length
  have lost : breaking.Loses ((worldBeside text).after es).statements text := ⟨_, if_pos before, rfl⟩
  refine ⟨_, _, es, ended, rfl, (loadAll_halts_iff ended rfl lost).2 ?_⟩
  rintro ⟨table, drop, rest, -, -, nothing, -⟩
  cases nothing

end StoredRoutines
