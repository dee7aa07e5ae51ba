import StoredRoutines.Proofs.DropStatements

/-!
Why routines are dropped. A drop can have a reason in what comes before and after it; a computation
each of whose parts drops for a reason does so as a whole. A routine is dropped while the batch
handles its source only as the first step of making it again.
-/

namespace StoredRoutines

open Loader Outcomes TraceProperty

theorem append_eq_append_cons {α : Type} {as bs before after : List α} {a : α}
    (split : as ++ bs = before ++ a :: after) :
    (∃ post, as = before ++ a :: post ∧ after = post ++ bs) ∨
      ∃ pre, before = as ++ pre ∧ bs = pre ++ a :: after := by
  rcases List.append_eq_append_iff.1 split with ⟨pre, rfl, rest⟩ | ⟨more, rfl, rest⟩
  · exact .inr ⟨pre, rfl, rest⟩
  · cases more with
    | nil => exact .inr ⟨[], (List.append_nil _).symm.trans (List.append_nil _).symm, rest.symm⟩
    | cons b more =>
      obtain ⟨rfl, rfl⟩ := List.cons.inj rest
      exact .inl ⟨more, rfl, rfl⟩

namespace Sql.Database

variable {db : Sql.Database} {before executed more sqls made : List String} {name sql : String}

/-- The planned statements are the first that were executed, or the last of them failed. -/
def CarriesOut (db : Sql.Database) (before planned executed : List String) : Prop :=
  planned <+: executed ∨ ∃ done sql rest, planned = done ++ sql :: rest ∧
    done ++ [sql] <+: executed ∧ db.failure (before ++ done) sql ≠ none

theorem CarriesOut.append (h : db.CarriesOut before sqls executed) (more : List String) :
    db.CarriesOut before sqls (executed ++ more) := by
  rcases h with whole | ⟨done, sql, rest, planned, first, failed⟩
  · exact .inl (whole.trans (List.prefix_append _ _))
  · exact .inr ⟨done, sql, rest, planned, first.trans (List.prefix_append _ _), failed⟩

theorem CarriesOut.cons (h : db.CarriesOut (before ++ [sql]) sqls executed) :
    db.CarriesOut before (sql :: sqls) (sql :: executed) := by
  rcases h with whole | ⟨done, stop, rest, rfl, first, failed⟩
  · exact .inl ((List.prefix_cons_inj sql).2 whole)
  · rw [List.append_assoc] at failed
    exact .inr ⟨sql :: done, stop, rest, rfl, (List.prefix_cons_inj sql).2 first, failed⟩

theorem Execution.exists_made {plan : Except Failure (List String)} {before after : List String}
    {complete : Bool} (h : db.Execution plan before after complete) :
    ∃ made, after = before ++ made := by
  cases h with
  | unplanned _ none => exact ⟨[], none.trans (List.append_nil _).symm⟩
  | stopped _ executed _ => exact ⟨_, executed.trans (List.append_assoc _ _ _)⟩
  | completed _ executed _ => exact ⟨_, executed⟩

theorem Execution.carriesOut {complete : Bool}
    (h : db.Execution (.ok sqls) before (before ++ made) complete) :
    made <+: sqls ∧ db.CarriesOut before sqls made := by
  cases h with
  | unplanned failed _ => cases failed
  | stopped planned executed failed =>
    cases planned
    rw [List.append_assoc, List.append_cancel_left_eq] at executed
    subst executed
    refine ⟨?_, .inr ⟨_, _, _, rfl, List.prefix_refl _, failed⟩⟩
    exact (List.prefix_append_right_inj _).2 ⟨_, rfl⟩
  | completed planned executed _ =>
    cases planned
    obtain rfl := List.append_cancel_left executed
    exact ⟨List.prefix_refl _, .inl (List.prefix_refl _)⟩

/-- Among the statements executed after those before, one dropped the routine and did not fail. -/
def Drops (db : Sql.Database) (before executed : List String) (name : String) : Prop :=
  ∃ pre sql post, executed = pre ++ sql :: post ∧ DropsRoutine name sql ∧
    db.failure (before ++ pre) sql = none

theorem drops_append : db.Drops before (executed ++ more) name ↔
    db.Drops before executed name ∨ db.Drops (before ++ executed) more name := by
  constructor
  · rintro ⟨pre, sql, post, split, drops, performed⟩
    rcases append_eq_append_cons split with ⟨post, rfl, -⟩ | ⟨pre, rfl, rfl⟩
    · exact .inl ⟨pre, sql, post, rfl, drops, performed⟩
    · rw [← List.append_assoc] at performed
      exact .inr ⟨pre, sql, post, rfl, drops, performed⟩
  · rintro (⟨pre, sql, post, rfl, drops, performed⟩ | ⟨pre, sql, post, rfl, drops, performed⟩)
    · exact ⟨pre, sql, post ++ more, by simp, drops, performed⟩
    · rw [List.append_assoc] at performed
      exact ⟨executed ++ pre, sql, post, by simp, drops, performed⟩

theorem drops_singleton :
    db.Drops before [sql] name ↔ DropsRoutine name sql ∧ db.failure before sql = none := by
  constructor
  · rintro ⟨pre, sql', post, split, drops, performed⟩
    cases pre with
    | nil =>
      cases split
      rw [List.append_nil] at performed
      exact ⟨drops, performed⟩
    | cons s pre =>
      have short := congrArg List.length split
      simp at short
  · rintro ⟨drops, performed⟩
    exact ⟨[], sql, [], rfl, drops, by rwa [List.append_nil]⟩

theorem not_drops_nil : ¬ db.Drops before [] name := by
  rintro ⟨pre, sql, post, split, -⟩
  simp at split

end Sql.Database

/-- What may speak for the drop of a routine: the files, the statements before it, the name, the
statement itself, and the statements after it. -/
abbrev DropReason := FileSystem → List String → String → String → List String → Prop

/-- No later statement takes away from the reason. -/
def DropReason.Lasts (R : DropReason) : Prop :=
  ∀ fs before name sql after more, R fs before name sql after →
    R fs before name sql (after ++ more)

namespace TraceProperty

/-- Each drop of a routine in the trace has the reason. -/
def DropsFor (R : DropReason) : TraceProperty := fun w _ es =>
  ∀ before sql after name, Event.statements es = before ++ sql :: after → DropsRoutine name sql →
    R w.files (w.statements ++ before) name sql after

variable {R S : DropReason}

theorem DropsFor.mono {w : World} {r : Option Failure} {es : List Event} (h : DropsFor R w r es)
    (weaker : ∀ fs before name sql after, R fs before name sql after →
      S fs before name sql after) : DropsFor S w r es :=
  fun before sql after name split drops => weaker _ _ _ _ _ (h before sql after name split drops)

theorem dropsFor_of_none {w : World} {r : Option Failure} {es : List Event}
    (none : ∀ sql ∈ Event.statements es, ∀ name, ¬ DropsRoutine name sql) : DropsFor R w r es := by
  intro before sql after name split drops
  exact absurd drops (none sql (by simp [split]) name)

theorem dropsFor_composes (lasts : R.Lasts) : Composes (DropsFor R) where
  empty := fun w => dropsFor_of_none (by simp)
  append := by
    intro w r es fs first second before sql after name split drops
    rw [Event.statements_append] at split
    rcases append_eq_append_cons split with ⟨post, here, rfl⟩ | ⟨pre, rfl, here⟩
    · exact lasts _ _ _ _ _ _ (first before sql post name here drops)
    · have later := second pre sql after name here drops
      rwa [World.statements_after, List.append_assoc] at later

theorem allowsQuiet_dropsFor (lasts : R.Lasts) : AllowsQuiet (DropsFor R) where
  composes := dropsFor_composes lasts
  quiet := by
    rintro w r es ⟨silent, -⟩
    exact dropsFor_of_none (by simp [silent])

/-- It is enough to look at the statements of a computation that only adds a trace. -/
theorem traces_dropsFor {α : Type} {x : Loader α} {P : TraceProperty} (traced : x.Traces P)
    (each : ∀ w v r before sql after name, x.run w = (r, v) →
      v.statements = w.statements ++ (before ++ sql :: after) → DropsRoutine name sql →
      R w.files (w.statements ++ before) name sql after) : x.Traces (DropsFor R) := by
  intro w
  obtain ⟨es, step, -⟩ := traced w
  refine ⟨es, step, fun before sql after name split drops => ?_⟩
  refine each w (x.run w).2 (x.run w).1 before sql after name rfl ?_ drops
  rw [step, World.statements_after, split]

end TraceProperty

namespace Batch

/-- The drop is the first step of making the routine again from the one source of its name, which
could be read and scanned. The settings of the session and the creation follow, unless a statement
fails before. -/
def Remakes (settings : LoaderSettings) (db : Sql.Database) (paths : List Path)
    (table : ReplaceTable) : DropReason := fun fs before name sql after =>
  ∃ p source a create, implying settings.extension paths name = [p] ∧
    RoutineSource.load fs p settings.extension = .ok source ∧
    Annotations.ofSource source table = .ok a ∧
    createStatement db.layer fs.workingDirectory source a = .ok create ∧
    db.CarriesOut before (sql :: (settings.session.statements db.layer.escape ++ [create]))
      (sql :: after)

/-- The batch is one that removes the routines without a source, and no source implies the name. -/
structure Obsolete (settings : LoaderSettings) (only : Option (List Path)) (paths : List Path)
    (name : String) : Prop where
  all : only = none
  drops : settings.dropsObsolete = true
  active : settings.dryRun = false
  unimplied : ∀ p ∈ paths, routineName p settings.extension ≠ name

/-- The drop makes a routine again, or removes one without a source. -/
def Reason (settings : LoaderSettings) (db : Sql.Database) (only : Option (List Path))
    (paths : List Path) (table : ReplaceTable) : DropReason := fun fs before name sql after =>
  Remakes settings db paths table fs before name sql after ∨ Obsolete settings only paths name

theorem remakes_lasts (settings : LoaderSettings) (db : Sql.Database) (paths : List Path)
    (table : ReplaceTable) : (Remakes settings db paths table).Lasts := by
  rintro fs before name sql after more ⟨p, source, a, create, alone, loaded, annotated, created, h⟩
  exact ⟨p, source, a, create, alone, loaded, annotated, created, h.append more⟩

theorem reason_lasts (settings : LoaderSettings) (db : Sql.Database) (only : Option (List Path))
    (paths : List Path) (table : ReplaceTable) : (Reason settings db only paths table).Lasts := by
  rintro fs before name sql after more (remakes | obsolete)
  · exact .inl (remakes_lasts _ _ _ _ _ _ _ _ _ _ remakes)
  · exact .inr obsolete

end Batch

section

variable {settings : LoaderSettings} {db : Sql.Database} {source : RoutineSource}
  {table : ReplaceTable} {entry : Option CatalogEntry}

theorem dropsRoutine_of_droppingStatements {a : Annotations} {drops : List String}
    (written : droppingStatements a entry = .ok drops) :
    drops = [] ∨ ∃ drop, drops = [drop] ∧ DropsRoutine a.routineName drop := by
  cases entry with
  | none =>
    cases written
    exact .inl rfl
  | some entry =>
    obtain ⟨drop, dropping, rfl⟩ := map_eq_ok.1 written
    obtain ⟨n, same, drops⟩ := dropsRoutine_of_dropStatement dropping
    cases same
    exact .inr ⟨drop, rfl, drops⟩

/-- The statements executed for a rebuild: those that make the routine, as far as they go, and then
some that drop none. -/
theorem Compile.statements_of_rebuild {reason : StaleReason} {w v : World}
    {r : Except Failure RoutineResult}
    (run : (rebuild settings db.layer source table entry reason).run w = (r, v)) :
    ∃ made asked complete, v.statements = w.statements ++ (made ++ asked) ∧
      db.Execution (plan settings db.layer w.files.workingDirectory source table entry) w.statements
        (w.statements ++ made) complete ∧
      ∀ sql ∈ asked, ∀ name, ¬ DropsRoutine name sql := by
  have rebuilt := rebuildsTo_of_run run
  cases making : (make settings db.layer source table entry).run w with
  | mk outcome u =>
    obtain ⟨execution, -⟩ := run_make making
    obtain ⟨made, statements⟩ := execution.exists_made
    rw [statements] at execution
    cases outcome with
    | error e =>
      refine ⟨made, [], _, ?_, execution, by simp⟩
      rw [rebuilt.statements_of_unmade making, statements, List.append_nil]
    | ok a =>
      obtain ⟨executed, asked, keeps, -⟩ := executes_describe db source a u
      refine ⟨made, executed.flatten, _, ?_, execution, fun sql member name => ?_⟩
      · rw [rebuilt.statements_of_made making, asked, statements, List.append_assoc]
      · exact not_dropsRoutine_of_mem_describing (keeps.flatten.subset member)

theorem Compile.rebuild_of_compile {path : Path} {record : Option BuildRecord} {w v : World}
    {r : Except Failure RoutineResult}
    (run : (compile settings db.layer path record table entry).run w = (r, v)) :
    v.statements = w.statements ∨ ∃ source reason,
      RoutineSource.load w.files path settings.extension = .ok source ∧
      (rebuild settings db.layer source table entry reason).run w = (r, v) := by
  cases compilesTo_of_run run with
  | unexamined _ stopping => exact .inl (statements_of_stop stopping)
  | upToDate _ _ silent => exact .inl silent
  | rebuilt loaded _ rebuilding => exact .inr ⟨_, _, loaded, rebuilding⟩

/-- A drop among the statements of a rebuild is the first step of making the routine. -/
theorem Batch.remakes_of_execution {fs : FileSystem} {path : Path} {paths : List Path}
    {before made asked pre post : List String} {complete : Bool} {name sql : String}
    (alone : implying settings.extension paths source.name = [path])
    (loaded : RoutineSource.load fs path settings.extension = .ok source)
    (execution : db.Execution (Compile.plan settings db.layer fs.workingDirectory source table entry)
      before (before ++ made) complete)
    (quiet : ∀ sql ∈ asked, ∀ name, ¬ DropsRoutine name sql)
    (split : made ++ asked = pre ++ sql :: post) (drops : DropsRoutine name sql) :
    Remakes settings db paths table fs (before ++ pre) name sql post := by
  -- What is asked afterwards drops nothing, so the drop is among the statements of the plan.
  obtain ⟨post, rfl, rfl⟩ : ∃ more, made = pre ++ sql :: more ∧ post = more ++ asked := by
    rcases append_eq_append_cons split with here | ⟨pre, -, rfl⟩
    · exact here
    · exact absurd drops (quiet sql (by simp) name)
  cases planned : Compile.plan settings db.layer fs.workingDirectory source table entry with
  | error e =>
    rw [planned] at execution
    cases execution with
    | unplanned _ none => simp at none
    | stopped failed _ _ => cases failed
    | completed failed _ _ => cases failed
  | ok sqls =>
    rw [planned] at execution
    obtain ⟨⟨more, whole⟩, carried⟩ := execution.carriesOut
    obtain ⟨a, found, making⟩ := bind_eq_ok.1 planned
    have annotated := mapError_eq_ok.1 found
    obtain ⟨create, created, rest⟩ := bind_eq_ok.1 making
    obtain ⟨dropping, written, last⟩ := bind_eq_ok.1 rest
    cases last
    have others : ∀ sql ∈ settings.session.statements db.layer.escape ++ [create], ∀ name,
        ¬ DropsRoutine name sql := by
      intro sql member name
      rcases List.mem_append.1 member with session | last
      · exact not_dropsRoutine_of_mem_session session
      · rw [List.mem_singleton.1 last]
        exact not_dropsRoutine_createStatement annotated created
    rw [List.append_assoc, List.cons_append] at whole
    -- Of the planned statements only the first one drops a routine, if there is an entry for it.
    rcases append_eq_append_cons whole.symm with ⟨rest, first, -⟩ | ⟨_, -, later⟩
    · rcases dropsRoutine_of_droppingStatements written with rfl | ⟨drop, rfl, names⟩
      · simp at first
      · cases pre with
        | cons s pre =>
          have short := congrArg List.length first
          simp at short
        | nil =>
          cases first
          have named := (drops.name_unique names).trans
            (Annotations.routineName_of_ofSource annotated)
          rw [List.append_nil]
          exact ⟨path, source, a, create, named ▸ alone, loaded, annotated, created,
            carried.append asked⟩
    · exact absurd drops (others sql (by simp [later]) name)

end

namespace Batch

variable {settings : LoaderSettings} {db : Sql.Database}

theorem dropsFor_routine {paths : List Path} {start : Start} {source : String × Path}
    (member : source ∈ sources (groups settings.extension paths)) :
    (routine settings db.layer start source).Traces
      (DropsFor (Remakes settings db paths start.table)) := by
  obtain ⟨name, path⟩ := source
  have traced : (routine settings db.layer start (name, path)).Traces db.Halting :=
    traces_routine Sql.Database.accepts_halting settings Compile.traces_bulkColumns start _
  cases dry : settings.dryRun with
  | true =>
    exact (quiet_routine_of_dry dry start (name, path)).mono
      (allowsQuiet_dropsFor (remakes_lasts _ _ _ _)).quiet
  | false =>
    refine traces_dropsFor traced fun w v r before sql after n run executed drops => ?_
    simp only [routine, dry] at run
    rcases Compile.rebuild_of_compile run with silent | ⟨source, reason, loaded, rebuilding⟩
    · rw [silent] at executed
      simp at executed
    · obtain ⟨made, asked, _, statements, execution, quiet⟩ :=
        Compile.statements_of_rebuild rebuilding
      have split : made ++ asked = before ++ sql :: after :=
        List.append_cancel_left (statements.symm.trans executed)
      have named : source.name = name :=
        (RoutineSource.name_of_load loaded).trans (name_of_mem_sources member)
      have alone : implying settings.extension paths source.name = [path] := by
        rw [named]
        exact mem_sources.1 member
      exact remakes_of_execution alone loaded execution quiet split drops

end Batch

end StoredRoutines
