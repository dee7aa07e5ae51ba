import StoredRoutines.Proofs.Judging
import StoredRoutines.Proofs.Making
import StoredRoutines.Proofs.Results

/-!
What becomes of a routine that failed. A routine that was not made is loaded again by the next
batch. One that failed after it was made is loaded again as well, unless it was only made because of
its entry in the catalog: its record still holds, and the new entry is as the session wants it.
-/

namespace StoredRoutines

open Loader Outcomes

namespace Compile

/-- The statement that creates the routine was performed between two worlds. It is the last of the
plan. -/
def Creates (db : Sql.Database) (plan : Except Failure (List String)) (w v : World) : Prop :=
  ∃ before create, plan = .ok (before ++ [create]) ∧
    w.statements ++ (before ++ [create]) <+: v.statements ∧
    db.failure (w.statements ++ before) create = none

/-- The statement that drops the earlier routine was performed between two worlds. It is the first
of the plan if the catalog has an entry. -/
def Drops (db : Sql.Database) (plan : Except Failure (List String)) (old : Option CatalogEntry)
    (w v : World) : Prop :=
  old.isSome = true ∧ ∃ drop rest, plan = .ok (drop :: rest) ∧
    w.statements ++ [drop] <+: v.statements ∧ db.failure w.statements drop = none

/-- What the catalog holds for a routine after its plan was executed as far as it went. -/
inductive EntryAfter (db : Sql.Database) (session : SessionSettings)
    (plan : Except Failure (List String)) (old : Option CatalogEntry) (w v : World) :
    Option CatalogEntry → Prop
  | created {made : CatalogEntry} (performed : Creates db plan w v)
      (matching : made.Matches session) : EntryAfter db session plan old w v (some made)
  | dropped (not : ¬ Creates db plan w v) (performed : Drops db plan old w v) :
      EntryAfter db session plan old w v none
  | unchanged (notCreated : ¬ Creates db plan w v) (notDropped : ¬ Drops db plan old w v) :
      EntryAfter db session plan old w v old

theorem not_creates_of_execution {db : Sql.Database} {plan : Except Failure (List String)}
    {w v : World} (execution : db.Execution plan w.statements v.statements false) :
    ¬ Creates db plan w v := by
  rintro ⟨before, create, planned, executed, performed⟩
  cases execution with
  | unplanned failed _ =>
    rw [failed] at planned
    cases planned
  | @stopped pre post sql planned' executed' failed =>
    rw [planned'] at planned
    have same : pre ++ sql :: post = before ++ [create] := by simpa using planned
    rw [executed', List.append_assoc] at executed
    have short := ((List.prefix_append_right_inj w.statements).1 executed).length_le
    have lengths := congrArg List.length same
    simp only [List.length_append, List.length_cons, List.length_nil] at short lengths
    have last : post = [] := List.eq_nil_of_length_eq_zero (by omega)
    subst last
    obtain ⟨rfl, singles⟩ := List.append_inj' same rfl
    obtain rfl : sql = create := by simpa using singles
    exact failed performed

theorem creates_of_execution {db : Sql.Database} {plan : Except Failure (List String)}
    {w u v : World} (execution : db.Execution plan w.statements u.statements true)
    (creation : ∀ sqls, plan = .ok sqls → ∃ before create, sqls = before ++ [create])
    (later : u.statements <+: v.statements) : Creates db plan w v := by
  cases execution with
  | completed planned executed performed =>
    obtain ⟨before, create, rfl⟩ := creation _ planned
    refine ⟨before, create, planned, ?_, ?_⟩
    · rw [← executed]
      exact later
    · exact ((Sql.Database.performs_append.1 performed).2).1

theorem not_creates_of_silent {db : Sql.Database} {plan : Except Failure (List String)}
    {w v : World} (same : v.statements = w.statements) : ¬ Creates db plan w v := by
  rintro ⟨before, create, -, executed, -⟩
  rw [same] at executed
  have short := executed.length_le
  simp only [List.length_append, List.length_cons] at short
  omega

theorem creates_iff_of_rebuild {db : Sql.Database} {settings : LoaderSettings}
    {source : RoutineSource} {table : ReplaceTable} {entry : Option CatalogEntry}
    {reason : StaleReason} {w v : World} {r : RoutineResult}
    (run : (rebuild settings db.layer source table entry reason).run w = (.ok r, v)) :
    (Creates db (plan settings db.layer w.files.workingDirectory source table entry) w v ↔
      r.outcome.isRemade = true) ∧ r.outcome.reason? = some reason := by
  have rebuilt := rebuildsTo_of_run run
  -- Described or not, a routine that was made was created, whatever is asked afterwards.
  have created {a : Annotations} {u : World}
      (making : (make settings db.layer source table entry).run w = (.ok a, u)) :
      Creates db (plan settings db.layer w.files.workingDirectory source table entry) w v := by
    obtain ⟨es, step, -⟩ := traces_describe Sql.Database.accepts_halting source a
      (traces_bulkColumns source a) u
    have later : u.statements <+: v.statements := by
      rw [rebuilt.statements_of_made making, step, World.statements_after]
      exact List.prefix_append _ _
    exact creates_of_execution (run_make making).1 (fun _ => creation_is_last) later
  cases rebuilt with
  | unmade making stopping =>
    obtain ⟨rfl, statements⟩ := run_stop stopping
    have execution := (run_make making).1
    rw [← statements] at execution
    exact ⟨⟨fun creates => absurd creates (not_creates_of_execution execution),
      fun remade => by cases remade⟩, rfl⟩
  | undescribed making _ stopping =>
    obtain ⟨rfl, -⟩ := run_stop stopping
    exact ⟨⟨fun _ => rfl, fun _ => created making⟩, rfl⟩
  | described making => exact ⟨⟨fun _ => rfl, fun _ => created making⟩, rfl⟩

/-- A failed result tells whether the routine had been created, and why it was to be loaded. -/
theorem creates_iff_isRemade {db : Sql.Database} {settings : LoaderSettings} {path : Path}
    {record : Option BuildRecord} {table : ReplaceTable} {entry : Option CatalogEntry}
    {w v : World} {r : RoutineResult} {source : RoutineSource}
    (loaded : RoutineSource.load w.files path settings.extension = .ok source)
    (run : (compile settings db.layer path record table entry).run w = (.ok r, v))
    (failed : r.succeeded = false) :
    (Creates db (plan settings db.layer w.files.workingDirectory source table entry) w v ↔
      r.outcome.isRemade = true) ∧
    ((∃ e, Freshness.judge record source.modified table settings.session entry = .error e ∧
        r.outcome.isRemade = false ∧ r.outcome.reason? = none) ∨
      ∃ reason, Freshness.judge record source.modified table settings.session entry =
        .ok (.stale reason) ∧ r.outcome.reason? = some reason) := by
  cases compilesTo_of_run run with
  | unexamined examining stopping =>
    rw [examine_of_loaded loaded] at examining
    obtain ⟨rfl, statements⟩ := run_stop stopping
    exact ⟨⟨fun creates => absurd creates (not_creates_of_silent statements),
      fun remade => by cases remade⟩, .inl ⟨_, map_eq_error.1 (Prod.mk.inj examining).1, rfl, rfl⟩⟩
  | upToDate => cases failed
  | rebuilt loaded' judged rebuilding =>
    cases loaded.symm.trans loaded'
    obtain ⟨creates, why⟩ := creates_iff_of_rebuild rebuilding
    exact ⟨creates, .inr ⟨_, judged, why⟩⟩

end Compile

namespace Compile

theorem run_compile_of_unannotated {settings : LoaderSettings} (layer : Sql.DataLayer)
    {path : Path} {record : Option BuildRecord} {table : ReplaceTable}
    {entry : Option CatalogEntry} {reason : StaleReason} {source : RoutineSource}
    {e : LoaderError} {w : World}
    (loaded : RoutineSource.load w.files path settings.extension = .ok source)
    (judged : Freshness.judge record source.modified table settings.session entry =
      .ok (.stale reason)) (annotated : Annotations.ofSource source table = .error e) :
    ∃ v, (compile settings layer path record table entry).run w = (.ok ⟨source.path, source.name,
      .failed reason false ((Failure.error e).forRoutine source.path.toText)⟩, v) := by
  have examined : (examine settings path record table entry).attempt.run w =
      (.ok (.ok (source, .stale reason)), w) := by
    rw [run_attempt, examine_of_loaded loaded, judged]
    rfl
  have made : (make settings layer source table entry).attempt.run w =
      (.ok (.error (.error e)), w) :=
    run_attempt_eq_ok.2 (run_make_of_unscanned annotated w)
  have kept : ¬ (Failure.error e).isConnectionLoss = true := by
    have parse := Annotations.kind_of_error annotated
    intro lost
    have kind : e.kind = .connection := by simpa [Failure.isConnectionLoss] using lost
    rw [kind] at parse
    cases parse
  have stopping : ∃ v, (stop source.path source.name reason false (.error e)).run w =
      (.ok ⟨source.path, source.name,
        .failed reason false ((Failure.error e).forRoutine source.path.toText)⟩, v) := by
    rw [stop, if_neg kept]
    exact ⟨_, rfl⟩
  obtain ⟨v, ran⟩ := stopping
  exact ⟨v, (run_bind_of_ok examined).trans ((run_bind_of_ok made).trans ran)⟩

end Compile

/-- A routine whose build failed is up to date for the next batch exactly if it had been created,
and had been to be loaded for nothing but its entry in the catalog. -/
theorem compile_failed_upToDate_iff {db : Sql.Database} {settings : LoaderSettings} {path : Path}
    {record : Option BuildRecord} {table : ReplaceTable} {entry entry' : Option CatalogEntry}
    {w v : World} {r : RoutineResult} {source : RoutineSource}
    (loaded : RoutineSource.load w.files path settings.extension = .ok source)
    (run : (compile settings db.layer path record table entry).run w = (.ok r, v))
    (failed : r.succeeded = false)
    (after : Compile.EntryAfter db settings.session
      (Compile.plan settings db.layer w.files.workingDirectory source table entry) entry w v
      entry') :
    (∃ kept, Freshness.judge record source.modified table settings.session entry' =
        .ok (.upToDate kept)) ↔
      r.outcome.isRemade = true ∧
        ∃ reason, r.outcome.reason? = some reason ∧ reason.isOfCatalog = true := by
  obtain ⟨creates, first⟩ := Compile.creates_iff_isRemade loaded run failed
  -- Either the record holds and the catalog decides, or the record decides for both batches.
  rcases Freshness.holds_or_decided record source.modified table settings.session with
    ⟨kept, rfl, holds⟩ | ⟨decision, all, notFresh, other⟩
  · constructor
    · rintro ⟨kept', again⟩
      obtain ⟨-, -, e, same, -⟩ := Freshness.judge_upToDate_iff.1 again
      cases after with
      | created performed matching =>
        have remade := creates.1 performed
        rcases first with ⟨e', -, kept, -⟩ | ⟨reason, judged, why⟩
        · rw [remade] at kept
          cases kept
        · refine ⟨remade, reason, why, ?_⟩
          rw [Freshness.judge_of_holds holds] at judged
          obtain ⟨found, ofCatalog, result⟩ := map_eq_ok.1 judged
          cases found with
          | none => cases result
          | some found =>
            cases result
            exact Freshness.isOfCatalog_of_ofCatalog ofCatalog
      -- Without an entry the routine cannot be up to date.
      | dropped not performed => cases same
      | unchanged notCreated notDropped =>
        rcases first with ⟨e', judged, -⟩ | ⟨reason, judged, -⟩ <;> rw [judged] at again <;>
          cases again
    · rintro ⟨remade, -⟩
      have performed := creates.2 remade
      cases after with
      | created _ matching =>
        exact ⟨kept, Freshness.judge_upToDate_iff.2 ⟨rfl, holds, _, rfl, matching⟩⟩
      | dropped not _ => exact absurd performed not
      | unchanged notCreated _ => exact absurd performed notCreated
  · constructor
    · rintro ⟨kept, again⟩
      rw [all] at again
      exact absurd again (notFresh kept)
    · rintro ⟨-, reason, why, ofCatalog⟩
      rcases first with ⟨e, -, -, nothing⟩ | ⟨reason', judged, why'⟩
      · rw [nothing] at why
        cases why
      · rw [why'] at why
        cases why
        rw [all] at judged
        rw [other reason judged] at ofCatalog
        cases ofCatalog

namespace Sample

def record : BuildRecord where
  routineName := .text "a"
  routineType := .text "procedure"
  designation := .text "rows"
  table := .null
  columns := []

def entryWith (collation : String) : CatalogEntry :=
  ⟨.text "a", .text "procedure", .text "", .text "utf8", .text collation⟩

/-- A database that refuses the fifth statement. -/
def database : Sql.Database where
  failure before _ := if before.length = 4 then some ⟨.dataLayer, "refused", {}⟩ else none
  rows _ _ := []
  scalar _ _ := .null
  escape := Sql.escapeForScript

def preparations : List String :=
  ["drop procedure if exists `a`", "set sql_mode = ''", "set names 'utf8' collate 'utf8_bin'"]

theorem makingStatements_eq (collation : String) :
    makingStatements database.layer [] source annotations session (some (entryWith collation)) =
      .ok (preparations ++ [text]) := by
  have drop : dropStatement (.text "procedure") (.text "a") =
      .ok "drop procedure if exists `a`" := by decide +kernel
  have drops : droppingStatements annotations (some (entryWith collation)) =
      .ok ["drop procedure if exists `a`"] := by
    simp only [droppingStatements, entryWith, annotations, Annotations.routineName, drop]
    rfl
  have sets : session.statements database.layer.escape =
      ["set sql_mode = ''", "set names 'utf8' collate 'utf8_bin'"] := rfl
  simp only [makingStatements, createStatement_source, drops, sets]
  rfl

theorem matches_session : (entryWith "utf8_bin").Matches session :=
  ⟨⟨[], rfl, rfl⟩, rfl, rfl⟩

end Sample

open Sample in
/-- A routine that was made again for its collation, and then failed, is taken to be up to date. -/
theorem upToDate_after_failure : ∃ r v,
    (compile settings database.layer path (some record) [] (some (entryWith "latin1_bin"))).run
      (world text) = (.ok r, v) ∧ r.succeeded = false ∧
    Compile.EntryAfter database session
      (Compile.plan settings database.layer (filesWith text).workingDirectory source []
        (some (entryWith "latin1_bin"))) (some (entryWith "latin1_bin")) (world text) v
      (some (entryWith "utf8_bin")) ∧
    Freshness.judge (some record) source.modified [] session (some (entryWith "utf8_bin")) =
      .ok (.upToDate record) := by
  have performed : database.Performs (world text).statements (preparations ++ [text]) :=
    ⟨rfl, rfl, rfl, rfl, trivial⟩
  have undescribed (u : World) (made : u.statements = (world text).statements ++
      (preparations ++ [text])) : ∃ es, (Compile.describe database.layer source annotations).run u =
        (.error (.error ⟨.dataLayer, "refused", {}⟩), u.after es) ∧ Event.statements es =
          [CatalogParameter.query (database.layer.quote annotations.routineName)] := by
    refine ⟨_, run_bind_of_error (run_bind_of_error (Sql.Database.run_rows_of_some ?_)), rfl⟩
    rw [made]
    rfl
  have judged : Freshness.judge (some record) source.modified [] settings.session
      (some (entryWith "latin1_bin")) = .ok (.stale .otherCollation) := by rfl
  have planned := makingStatements_eq "latin1_bin"
  obtain ⟨v, run, executed⟩ : ∃ v, (compile settings database.layer path (some record) []
      (some (entryWith "latin1_bin"))).run (world text) = (.ok _, v) ∧ v.statements = _ :=
    Compile.run_compile_of_undescribed load_source judged ofSource_source planned performed
      undescribed rfl
  have whole : Compile.plan settings database.layer (filesWith text).workingDirectory source []
      (some (entryWith "latin1_bin")) = .ok (preparations ++ [text]) := by
    rw [Compile.plan, ofSource_source]
    exact planned
  have again : Freshness.judge (some record) source.modified [] session
      (some (entryWith "utf8_bin")) = .ok (.upToDate record) := by rfl
  have last := ((Sql.Database.performs_append.1 performed).2).1
  have created : preparations ++ [text] <+: v.statements := ⟨_, executed.symm⟩
  exact ⟨_, v, run, rfl, .created ⟨preparations, text, whole, created, last⟩ matches_session, again⟩

open Sample in
/-- A routine without a designation is not made, and is as stale for the next batch. -/
theorem stale_after_missing_designation : ∃ r v,
    (compile settings database.layer path (some record) [] none).run (world "") = (.ok r, v) ∧
    ¬ ∃ kept, Freshness.judge (some record) 0 [] session none = .ok (.upToDate kept) := by
  have loaded : RoutineSource.load (filesWith "") path ".psql" = .ok ⟨path, ".psql", "", 0⟩ := by
    decide +kernel
  have judged : Freshness.judge (some record) 0 [] session none = .ok (.stale .notInCatalog) := by
    rfl
  have annotated : Annotations.ofSource ⟨path, ".psql", "", 0⟩ [] =
      .error (.ofSource .designation Designation.Fault.noBegin.wording path.toText) := by
    have find : Placeholder.find "" = [] := by decide +kernel
    have placeholders : Placeholder.resolve ⟨path, ".psql", "", 0⟩ [] = .ok [] := by
      simp [Placeholder.resolve, find, Placeholder.sortTexts]
    have designation : Designation.ofSource ⟨path, ".psql", "", 0⟩ =
        .error (.ofSource .designation Designation.Fault.noBegin.wording path.toText) := by
      decide +kernel
    simp only [Annotations.ofSource, placeholders, designation]
    rfl
  obtain ⟨v, run⟩ : ∃ v, (compile settings database.layer path (some record) [] none).run
      (world "") = (.ok _, v) :=
    Compile.run_compile_of_unannotated database.layer loaded judged annotated
  have notCreated : ¬ Compile.Creates database _ (world "") v := fun creates =>
    absurd ((Compile.creates_iff_isRemade loaded run rfl).1.1 creates) (by simp [Outcome.isRemade])
  have notDropped : ¬ Compile.Drops database (Compile.plan settings database.layer
      (world "").files.workingDirectory ⟨path, ".psql", "", 0⟩ [] none) none (world "") v := by
    rintro ⟨present, -⟩
    cases present
  refine ⟨_, v, run, fun again => ?_⟩
  have remade := ((compile_failed_upToDate_iff loaded run rfl
    (.unchanged notCreated notDropped)).1 again).1
  cases remade

end StoredRoutines
