import StoredRoutines.Proofs.Making

/-!
Plans of statements. A plan lists steps in the order of their execution, and has a failure in the
place of a step that cannot be written. Nearly every step is one statement. The description of a
temporary table is a step together with the drop of that table, which follows in any case. A
computation that follows a plan executes its steps from the first on, each of them whole, and stops
after one with a statement that fails.
-/

namespace StoredRoutines

open Loader TraceProperty

/-- Steps in order. One that cannot be written has its failure in its place. -/
abbrev Plan := List (Except Failure (List String))

namespace Plan

def written (plan : Plan) : List String := (plan.filterMap (·.toOption)).flatten

def single (sql : Except Failure String) : Except Failure (List String) := sql.map ([·])

def ofStatements (sqls : List String) : Plan := sqls.map fun sql => .ok [sql]

theorem written_map_ok (steps : List (List String)) :
    Plan.written (steps.map .ok) = steps.flatten := by
  simp [Plan.written, List.filterMap_map, Except.toOption]

end Plan

namespace Sql.Database

/-- The executed steps are the first ones of the plan, and only a statement of the last of them may
have failed. -/
structure KeepsTo (db : Sql.Database) (plan : Plan) (before : List String)
    (executed : List (List String)) : Prop where
  planned : executed.map .ok <+: plan
  stops : db.Performs before executed.dropLast.flatten

variable {db : Sql.Database} {plan : Plan} {before : List String} {executed : List (List String)}

theorem keepsTo_nil (db : Sql.Database) (plan : Plan) (before : List String) :
    db.KeepsTo plan before [] :=
  ⟨List.nil_prefix, trivial⟩

theorem KeepsTo.extend (h : db.KeepsTo plan before executed) (more : Plan) :
    db.KeepsTo (plan ++ more) before executed :=
  ⟨h.planned.trans (List.prefix_append _ _), h.stops⟩

/-- What is executed are the first statements of the plan. -/
theorem KeepsTo.flatten (h : db.KeepsTo plan before executed) : executed.flatten <+: plan.written := by
  obtain ⟨rest, rfl⟩ := h.planned
  refine ⟨Plan.written rest, ?_⟩
  rw [← Plan.written_map_ok executed]
  simp only [Plan.written, List.filterMap_append, List.flatten_append]

theorem KeepsTo.after {first : List (List String)} (performed : db.Performs before first.flatten)
    (h : db.KeepsTo plan (before ++ first.flatten) executed) :
    db.KeepsTo (first.map .ok ++ plan) before (first ++ executed) where
  planned := by
    rw [List.map_append]
    exact (List.prefix_append_right_inj _).2 h.planned
  stops := by
    cases executed with
    | nil =>
      -- The last step of all is the last of the first ones.
      rw [List.append_nil]
      obtain ⟨last, split⟩ := List.dropLast_prefix first
      rw [← split, List.flatten_append] at performed
      exact (performs_append.1 performed).1
    | cons step steps =>
      rw [List.dropLast_append_of_ne_nil (List.cons_ne_nil _ _), List.flatten_append]
      exact performs_append.2 ⟨performed, h.stops⟩

end Sql.Database

/-- The computation executes these steps of a plan: all of them, without a failure, if it ends with
a value. -/
structure Loader.Follows {α : Type} (x : Loader α) (db : Sql.Database) (plan : Plan) (w : World)
    (executed : List (List String)) : Prop where
  statements : (x.run w).2.statements = w.statements ++ executed.flatten
  keeps : db.KeepsTo plan w.statements executed
  complete : ∀ a, (x.run w).1 = .ok a →
    executed.map .ok = plan ∧ db.Performs w.statements executed.flatten

def Loader.Executes {α : Type} (x : Loader α) (db : Sql.Database) (plan : Plan) (w : World) :
    Prop :=
  ∃ executed, x.Follows db plan w executed

namespace Loader.Executes

variable {α β : Type} {db : Sql.Database} {plan more : Plan} {w : World} {x : Loader α}

theorem of_quiet (quiet : x.Traces Quiet) (w : World) : x.Executes db [] w := by
  obtain ⟨es, step, silent, -⟩ := quiet w
  refine ⟨[], ?_, Sql.Database.keepsTo_nil _ _ _, fun _ _ => ⟨rfl, trivial⟩⟩
  rw [step, World.statements_after, silent]
  rfl

theorem pure (a : α) (w : World) : (Pure.pure a : Loader α).Executes db [] w :=
  of_quiet (traces_pure quiet_composes a) w

theorem of_error {e : Failure} {v : World} (failed : x.run w = (.error e, v))
    (none : v.statements = w.statements) : x.Executes db plan w := by
  refine ⟨[], ?_, Sql.Database.keepsTo_nil _ _ _, ?_⟩
  · rw [failed, none]
    exact (List.append_nil _).symm
  · intro a ended
    rw [failed] at ended
    cases ended

theorem bind {f : α → Loader β} (first : x.Executes db plan w)
    (second : ∀ a v, x.run w = (.ok a, v) → (f a).Executes db more v) :
    (x >>= f).Executes db (plan ++ more) w := by
  obtain ⟨executed, statements, keeps, complete⟩ := first
  cases ran : x.run w with
  | mk r v =>
    rw [ran] at statements complete
    cases r with
    | error e =>
      have failed : (x >>= f).run w = (.error e, v) := run_bind_of_error ran
      refine ⟨executed, ?_, keeps.extend more, ?_⟩
      · rw [failed]
        exact statements
      · intro b ended
        rw [failed] at ended
        cases ended
    | ok a =>
      obtain ⟨rfl, performed⟩ := complete a rfl
      obtain ⟨executed', statements', keeps', complete'⟩ := second a v ran
      simp only at statements
      rw [statements] at statements' keeps' complete'
      have ended : (x >>= f).run w = (f a).run v := run_bind_of_ok ran
      refine ⟨executed ++ executed', ?_, keeps'.after performed, fun b value => ?_⟩
      · rw [ended, statements', List.append_assoc, List.flatten_append]
      · rw [ended] at value
        obtain ⟨rfl, performed'⟩ := complete' b value
        refine ⟨List.map_append .., ?_⟩
        rw [List.flatten_append]
        exact Sql.Database.performs_append.2 ⟨performed, performed'⟩

/-- What is done after the last step of a plan needs no place in it. -/
theorem bind_quiet {f : α → Loader β} (first : x.Executes db plan w)
    (quiet : ∀ a, (f a).Traces Quiet) : (x >>= f).Executes db plan w := by
  rw [← List.append_nil plan]
  exact first.bind fun a v _ => of_quiet (quiet a) v

theorem quiet_bind {f : α → Loader β} (quiet : x.Traces Quiet)
    (second : ∀ a v, x.run w = (.ok a, v) → (f a).Executes db plan v) :
    (x >>= f).Executes db plan w :=
  (of_quiet quiet w).bind second

theorem ofExcept_bind {r : Except Failure α} {f : α → Loader β}
    (value : ∀ a, r = .ok a → (f a).Executes db plan w) :
    (ofExcept r >>= f).Executes db plan w := by
  cases r with
  | error e => exact of_error rfl rfl
  | ok a => exact value a rfl

theorem of_run_eq {y : Loader α} (h : y.Executes db plan w) (same : x.run w = y.run w) :
    x.Executes db plan w := by
  obtain ⟨executed, statements, keeps, complete⟩ := h
  exact ⟨executed, by rw [same, statements], keeps, fun a value => complete a (by rw [← same, value])⟩

theorem getFiles_bind {f : FileSystem → Loader α} (h : (f w.files).Executes db plan w) :
    (getFiles >>= f).Executes db plan w :=
  of_run_eq h rfl

theorem statements_of_ok (h : x.Executes db plan w) {a : α} {v : World}
    (run : x.run w = (.ok a, v)) : v.statements = w.statements ++ plan.written := by
  obtain ⟨executed, statements, -, complete⟩ := h
  rw [run] at statements complete
  obtain ⟨rfl, -⟩ := complete a rfl
  rw [Plan.written_map_ok]
  exact statements

theorem answer (db : Sql.Database) (result : List String → String → α) (sql : String) (w : World) :
    (db.answer result sql).Executes db [.ok [sql]] w := by
  have ran := db.run_answer result sql w
  refine ⟨[[sql]], ?_, ⟨List.prefix_refl _, trivial⟩, fun a value => ?_⟩
  · rw [ran]
    exact World.statements_after _ _
  · rw [ran] at value
    cases failed : db.failure w.statements sql with
    | none => exact ⟨rfl, failed, trivial⟩
    | some e =>
      rw [failed] at value
      cases value

theorem execute (sql : String) (w : World) : (db.layer.execute sql).Executes db [.ok [sql]] w :=
  answer db (fun _ _ => ()) sql w

theorem rows (sql : String) (w : World) : (db.layer.rows sql).Executes db [.ok [sql]] w :=
  answer db db.rows sql w

theorem scalar (sql : String) (w : World) : (db.layer.scalar sql).Executes db [.ok [sql]] w :=
  answer db db.scalar sql w

theorem forM_execute (sqls : List String) (w : World) :
    (sqls.forM db.layer.execute).Executes db (.ofStatements sqls) w := by
  induction sqls generalizing w with
  | nil => exact pure () w
  | cons sql sqls ih => exact (execute sql w).bind fun _ v _ => ih v

end Loader.Executes

end StoredRoutines
