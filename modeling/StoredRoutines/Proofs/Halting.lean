import StoredRoutines.Proofs.LoaderTraces

/-!
Traces in which the connection is lost. The loss ends the trace, except that a temporary table is
still dropped; if this drop fails in another way, its failure hides the loss. Every part of the
loader leaves such traces.
-/

namespace StoredRoutines

open Loader TraceProperty

namespace Sql.Database

variable (db : Sql.Database)

def Loses (before : List String) (sql : String) : Prop :=
  ∃ e, db.failure before sql = some e ∧ e.kind = .connection

/-- The statement fails, but the connection stays. -/
def FailsOtherwise (before : List String) (sql : String) : Prop :=
  ∃ e, db.failure before sql = some e ∧ e.kind ≠ .connection

/-- What follows a statement hides that it lost the connection: the statement describes a temporary
table, and the drop of that table, which comes next, fails in another way. -/
def HidesLoss (before : List String) (sql : String) (post : List Event) : Prop :=
  ∃ table drop rest, BulkTable.describeQuery table = .ok sql ∧
    BulkTable.dropStatement table = .ok drop ∧ post = .statement drop :: rest ∧
    db.FailsOtherwise (before ++ [sql]) drop

def AllHidden (w : World) (es : List Event) : Prop :=
  ∀ pre sql post, es = pre ++ .statement sql :: post → db.Loses (w.after pre).statements sql →
    db.HidesLoss (w.after pre).statements sql post

/-- A trace that ends as soon as the connection is lost, or once the temporary table is dropped. -/
def LosesAtEnd (w : World) (es : List Event) : Prop :=
  (∃ sql, es = [.statement sql] ∧ db.Loses w.statements sql) ∨
    ∃ table sql drop, BulkTable.describeQuery table = .ok sql ∧
      BulkTable.dropStatement table = .ok drop ∧ es = [.statement sql, .statement drop] ∧
      db.Loses w.statements sql ∧ ¬ db.FailsOtherwise (w.statements ++ [sql]) drop

/-- The last loss of the connection is the failure that the trace ends with, all others are
hidden. -/
def Halting : TraceProperty := fun w r es =>
  if (r.map Failure.isConnectionLoss).getD false then
    ∃ fs gs, es = fs ++ gs ∧ db.AllHidden w fs ∧ db.LosesAtEnd (w.after fs) gs
  else db.AllHidden w es

variable {db}

theorem not_failsOtherwise_of_loses {before : List String} {sql : String}
    (h : db.Loses before sql) : ¬ db.FailsOtherwise before sql := by
  obtain ⟨e, failed, kind⟩ := h
  rintro ⟨e', failed', other⟩
  rw [failed] at failed'
  cases failed'
  exact other kind

theorem HidesLoss.append {before : List String} {sql : String} {post : List Event}
    (h : db.HidesLoss before sql post) (es : List Event) : db.HidesLoss before sql (post ++ es) := by
  obtain ⟨table, drop, rest, describes, drops, rfl, failed⟩ := h
  exact ⟨table, drop, rest ++ es, describes, drops, rfl, failed⟩

theorem AllHidden.append {w : World} {es fs : List Event} (first : db.AllHidden w es)
    (second : db.AllHidden (w.after es) fs) : db.AllHidden w (es ++ fs) := by
  intro pre sql post split lost
  rcases List.append_eq_append_iff.1 split with ⟨more, rfl, behind⟩ | ⟨more, rfl, behind⟩
  · rw [← World.after_after] at lost ⊢
    exact second more sql post behind lost
  · cases more with
    | nil =>
      have alone := second [] sql post behind.symm
      rw [World.after_nil, List.append_nil] at alone
      exact alone lost
    | cons e more =>
      obtain ⟨rfl, rfl⟩ := List.cons.inj behind
      exact (first pre sql more rfl lost).append fs

theorem allHidden_of_statements_eq_nil {w : World} {es : List Event}
    (h : Event.statements es = []) : db.AllHidden w es := by
  intro pre sql post split _
  rw [split, Event.statements_append, Event.statements_cons_statement] at h
  simp at h

theorem halting_of_kept {w : World} {r : Option Failure} {es : List Event}
    (kept : ∀ e, r = some e → e.isConnectionLoss = false) :
    db.Halting w r es ↔ db.AllHidden w es := by
  have calm : (r.map Failure.isConnectionLoss).getD false = false := by
    cases r with
    | none => rfl
    | some e => exact kept e rfl
  simp [Halting, calm]

theorem halting_of_lost {w : World} {e : Failure} {es : List Event}
    (lost : e.isConnectionLoss = true) :
    db.Halting w (some e) es ↔
      ∃ fs gs, es = fs ++ gs ∧ db.AllHidden w fs ∧ db.LosesAtEnd (w.after fs) gs := by
  simp [Halting, lost]

theorem halting_composes : Composes db.Halting where
  empty := by
    intro w
    exact (halting_of_kept (by simp)).2 (allHidden_of_statements_eq_nil rfl)
  append := by
    intro w r es fs first second
    have hidden := (halting_of_kept (by simp)).1 first
    by_cases lost : ∃ e, r = some e ∧ e.isConnectionLoss = true
    · obtain ⟨e, rfl, lost⟩ := lost
      obtain ⟨before, last, rfl, more, ending⟩ := (halting_of_lost lost).1 second
      refine (halting_of_lost lost).2 ⟨es ++ before, last, by simp, hidden.append more, ?_⟩
      rwa [World.after_after] at ending
    · have kept : ∀ e, r = some e → e.isConnectionLoss = false := by
        intro e same
        by_contra loss
        exact lost ⟨e, same, by simpa using loss⟩
      exact (halting_of_kept kept).2 (hidden.append ((halting_of_kept kept).1 second))

variable (db) in
theorem run_answer {α : Type} (result : List String → String → α) (sql : String) (w : World) :
    (db.answer result sql).run w =
      (match db.failure w.statements sql with
        | some e => .error (.error e)
        | none => .ok (result w.statements sql), w.after [.statement sql]) := by
  unfold answer
  rw [run_bind_of_ok (run_getWorld w), run_bind_of_ok (run_emit _ w)]
  cases db.failure w.statements sql <;> rfl

theorem traces_answer {α : Type} (result : List String → String → α) (sql : String) :
    (db.answer result sql).Traces db.Halting := by
  intro w
  refine ⟨[.statement sql], by rw [run_answer], ?_⟩
  rw [run_answer]
  have alone (calm : ¬ db.Loses w.statements sql) : db.AllHidden w [.statement sql] := by
    intro pre sql' post split lost
    cases pre with
    | nil =>
      cases split
      rw [World.after_nil] at lost
      exact absurd lost calm
    | cons e pre => simp at split
  cases failed : db.failure w.statements sql with
  | none =>
    refine (halting_of_kept (by simp [failure?])).2 (alone ?_)
    rintro ⟨e, found, -⟩
    rw [failed] at found
    cases found
  | some e =>
    by_cases kind : e.kind = .connection
    · have lost : (Failure.error e).isConnectionLoss = true := by simp [Failure.isConnectionLoss, kind]
      refine (halting_of_lost lost).2 ⟨[], _, rfl, allHidden_of_statements_eq_nil rfl, .inl ?_⟩
      exact ⟨sql, rfl, e, by simpa using failed, kind⟩
    · refine (halting_of_kept ?_).2 (alone ?_)
      · intro e' same
        cases same
        simpa [Failure.isConnectionLoss] using kind
      · rintro ⟨e', found, kind'⟩
        rw [failed] at found
        cases found
        exact kind kind'

theorem accepts_halting : Accepts db.Halting db.layer where
  composes := halting_composes
  quiet := by
    rintro w r es ⟨silent, kept⟩
    exact (halting_of_kept kept).2 (allHidden_of_statements_eq_nil silent)
  execute := traces_answer _
  rows := traces_answer _
  scalar := traces_answer _
  forget := by
    intro w e es kept holds
    refine (halting_of_kept (by simp)).2 ((halting_of_kept ?_).1 holds)
    intro e' same
    cases same
    exact kept

end Sql.Database

namespace BulkTable

open Sql.Database

variable {db : Sql.Database}

theorem traces_isPermanent {P : TraceProperty} {layer : Sql.DataLayer} (h : Accepts P layer)
    (table : Value) : (isPermanent layer table).Traces P := by
  refine h.bind (h.ofExcept (by simp)) (fun literal => ?_)
  exact h.bind (h.scalar _) (fun _ => h.pure _)

theorem traces_columns {P : TraceProperty} {layer : Sql.DataLayer} (h : Accepts P layer)
    (table : Value) : (columns layer table).Traces P := by
  refine h.bind (h.ofExcept (by simp)) (fun sql => h.bind (h.rows sql) (fun rows => ?_))
  exact h.bind (h.ofExcept (by simp)) (fun _ => h.pure _)

theorem run_columns_of_described {table : Value} {sql : String}
    (described : describeQuery table = .ok sql) (w : World) : (columns db.layer table).run w =
      ((db.failure w.statements sql).elim
        (((db.rows w.statements sql).mapM columnOfRow).map fun found =>
          ⟨found.map (·.1), found.map (·.2)⟩) fun e => .error (.error e),
        w.after [.statement sql]) := by
  have answered := db.run_answer db.rows sql w
  refine (run_bind_of_ok (by rw [run_ofExcept, described])).trans ?_
  cases failed : db.failure w.statements sql with
  | some e =>
    rw [failed] at answered
    exact run_bind_of_error answered
  | none =>
    rw [failed] at answered
    refine (run_bind_of_ok answered).trans ?_
    rw [run_bind, run_ofExcept]
    cases (db.rows w.statements sql).mapM columnOfRow <;> rfl

theorem run_columns_of_undescribed {layer : Sql.DataLayer} {table : Value} {e : Failure}
    (undescribed : describeQuery table = .error e) (w : World) :
    (columns layer table).run w = (.error e, w) :=
  run_bind_of_error (by rw [run_ofExcept, undescribed])

theorem run_columns_of_lost {table : Value} {w v : World} {e : Failure}
    (lost : e.isConnectionLoss = true) (run : (columns db.layer table).run w = (.error e, v)) :
    ∃ sql, describeQuery table = .ok sql ∧ db.Loses w.statements sql ∧
      v = w.after [.statement sql] := by
  cases described : describeQuery table with
  | error e' =>
    cases (run_columns_of_undescribed described w).symm.trans run
    rw [(BulkTable.defective_describeQuery table e described).isConnectionLoss] at lost
    cases lost
  | ok sql =>
    rw [run_columns_of_described described] at run
    obtain ⟨outcome, rfl⟩ := Prod.mk.inj run
    refine ⟨sql, rfl, ?_, rfl⟩
    cases failed : db.failure w.statements sql with
    | some e' =>
      rw [failed] at outcome
      cases outcome
      refine ⟨e', failed, ?_⟩
      simpa [Failure.isConnectionLoss] using lost
    | none =>
      rw [failed] at outcome
      have calm : Harmless ((db.rows w.statements sql).mapM columnOfRow) := by simp
      rw [calm e (Outcomes.map_eq_error.1 outcome)] at lost
      cases lost

/-- Describes a table, and logs how many columns it has. -/
def look (layer : Sql.DataLayer) (table : Value) (temporary : Bool) : Loader TableColumns := do
  let found ← columns layer table
  Loader.log .debug .catalog ("Bulk insert table " ++ table.display ++ " (" ++
    (if temporary then "temporary" else "permanent") ++ "): " ++
    toString found.fields.length ++ " columns")
  return found

theorem run_look (layer : Sql.DataLayer) (table : Value) (temporary : Bool) (w : World) :
    ((look layer table temporary).run w).1 = ((columns layer table).run w).1 ∧
      ((look layer table temporary).run w).2.statements =
        ((columns layer table).run w).2.statements ∧
      ∀ e, ((columns layer table).run w).1 = .error e →
        (look layer table temporary).run w = (columns layer table).run w := by
  cases ran : (columns layer table).run w with
  | mk r u =>
    cases r with
    | error e =>
      rw [show (look layer table temporary).run w = _ from run_bind_of_error ran]
      exact ⟨rfl, rfl, fun _ _ => rfl⟩
    | ok found =>
      rw [show (look layer table temporary).run w = _ from run_bind_of_ok ran]
      exact ⟨rfl, (World.statements_after u [.log _]).trans (List.append_nil _), nofun⟩

/-- A description that fails at the statement it asks, if it loses the connection. -/
def LosesAtDescription {α : Type} (db : Sql.Database) (table : Value) (x : Loader α) : Prop :=
  ∀ w e v, e.isConnectionLoss = true → x.run w = (.error e, v) →
    ∃ sql, describeQuery table = .ok sql ∧ db.Loses w.statements sql ∧ v = w.after [.statement sql]

theorem dropStatement_of_described {table : Value} {sql : String}
    (h : describeQuery table = .ok sql) : ∃ drop, BulkTable.dropStatement table = .ok drop := by
  obtain ⟨name, quoted, -⟩ := Outcomes.bind_eq_ok.1 h
  exact ⟨_, Outcomes.bind_eq_ok.2 ⟨name, quoted, rfl⟩⟩

theorem allHidden_of_drop {table : Value} {sql drop : String} {w : World}
    (described : describeQuery table = .ok sql)
    (dropping : BulkTable.dropStatement table = .ok drop)
    (failed : db.FailsOtherwise (w.statements ++ [sql]) drop) :
    db.AllHidden w [.statement sql, .statement drop] := by
  intro pre sql' post split lost
  cases pre with
  | nil =>
    cases split
    rw [World.after_nil]
    exact ⟨table, drop, [], described, dropping, rfl, failed⟩
  | cons e pre =>
    obtain ⟨rfl, rest⟩ := List.cons.inj split
    cases pre with
    | nil =>
      cases rest
      have before : (w.after [.statement sql]).statements = w.statements ++ [sql] := by simp
      rw [before] at lost
      exact absurd failed (not_failsOtherwise_of_loses lost)
    | cons e' pre => simp at rest

/-- After a description that lost the connection, the drop either fails in another way, which hides
the loss, or the loss is passed on. -/
theorem halting_of_drop {α : Type} {table : Value} {sql drop : String} {w : World} {e : Failure}
    (described : describeQuery table = .ok sql)
    (dropping : BulkTable.dropStatement table = .ok drop)
    (loss : db.Loses w.statements sql) (lost : e.isConnectionLoss = true) :
    ∃ r : Except Failure α,
      (db.layer.execute drop >>= fun _ => Loader.ofExcept (.error e)).run
        (w.after [.statement sql]) = (r, w.after [.statement sql, .statement drop]) ∧
      db.Halting w (failure? r) [.statement sql, .statement drop] := by
  have answered := db.run_answer (fun _ _ => ()) drop (w.after [.statement sql])
  have before : (w.after [.statement sql]).statements = w.statements ++ [sql] := by simp
  rw [before, World.after_after] at answered
  have ends (calm : ¬ db.FailsOtherwise (w.statements ++ [sql]) drop) :
      ∃ fs gs, [.statement sql, .statement drop] = fs ++ gs ∧ db.AllHidden w fs ∧
        db.LosesAtEnd (w.after fs) gs := by
    refine ⟨[], _, rfl, allHidden_of_statements_eq_nil rfl, .inr ?_⟩
    exact ⟨table, sql, drop, described, dropping, rfl, by simpa using loss, by simpa using calm⟩
  cases failed : db.failure (w.statements ++ [sql]) drop with
  | none =>
    rw [failed] at answered
    rw [run_bind_of_ok (x := db.layer.execute drop) answered, run_ofExcept]
    refine ⟨_, rfl, (halting_of_lost lost).2 (ends ?_)⟩
    rintro ⟨e', found, -⟩
    rw [failed] at found
    cases found
  | some e' =>
    rw [failed] at answered
    rw [run_bind_of_error (x := db.layer.execute drop) answered]
    refine ⟨_, rfl, ?_⟩
    by_cases kind : e'.kind = .connection
    · refine (halting_of_lost ?_).2 (ends ?_)
      · simp [Failure.isConnectionLoss, kind]
      · exact not_failsOtherwise_of_loses ⟨e', failed, kind⟩
    · refine (halting_of_kept ?_).2 (allHidden_of_drop described dropping ⟨e', failed, kind⟩)
      intro e'' same
      cases same
      simpa [Failure.isConnectionLoss] using kind

theorem traces_dropped {α : Type} {table : Value} {x : Loader α} (hx : x.Traces db.Halting)
    (description : LosesAtDescription db table x) :
    (x.attempt >>= fun outcome => Loader.ofExcept (BulkTable.dropStatement table) >>= fun drop =>
      db.layer.execute drop >>= fun _ => Loader.ofExcept outcome).Traces db.Halting := by
  have h : Accepts db.Halting db.layer := accepts_halting
  intro w
  cases ran : x.run w with
  | mk r v =>
    have attempted : x.attempt.run w = (.ok r, v) := by rw [run_attempt, ran]
    rw [run_bind_of_ok attempted]
    -- Here alone a loss can be hidden: the drop comes after it, and a failed drop takes its place.
    by_cases lost : ∃ e, r = .error e ∧ e.isConnectionLoss = true
    · obtain ⟨e, rfl, lost⟩ := lost
      obtain ⟨sql, described, loss, rfl⟩ := description w e v lost ran
      obtain ⟨drop, dropping⟩ := dropStatement_of_described described
      obtain ⟨r, ran', holds⟩ := halting_of_drop described dropping loss lost
      rw [run_bind_of_ok (show (Loader.ofExcept (BulkTable.dropStatement table)).run _ = _ by
        rw [run_ofExcept, dropping]), ran']
      exact ⟨_, rfl, holds⟩
    · have calm : Harmless r := by
        intro e same
        by_contra loss
        exact lost ⟨e, same, by simpa using loss⟩
      obtain ⟨es, step, holds⟩ := hx w
      rw [ran] at step holds
      simp only at step
      subst step
      have hidden : db.AllHidden w es := by
        refine (halting_of_kept ?_).1 holds
        intro e same
        cases r with
        | ok a => cases same
        | error e' =>
          cases same
          exact calm _ rfl
      have dropping : (Loader.ofExcept (BulkTable.dropStatement table) >>= fun drop =>
          db.layer.execute drop >>= fun _ => Loader.ofExcept r).Traces db.Halting := by
        refine h.bind (h.ofExcept (by simp)) (fun drop => ?_)
        exact h.bind (h.execute drop) (fun _ => h.ofExcept calm)
      obtain ⟨fs, step', holds'⟩ := dropping (w.after es)
      refine ⟨es ++ fs, by rw [step', World.after_after], ?_⟩
      exact halting_composes.append ((halting_of_kept (by simp)).2 hidden) holds'

theorem traces_declaredColumns (routine table : Value) (declared : Nat) (source : String) :
    (declaredColumns db.layer routine table declared source).Traces db.Halting := by
  have h : Accepts db.Halting db.layer := accepts_halting
  have describing (temporary : Bool) : (look db.layer table temporary).Traces db.Halting :=
    h.bind (traces_columns h table) (fun _ => h.bind (h.log _ _ _) (fun _ => h.pure _))
  have description : LosesAtDescription db table (look db.layer table true) := by
    intro w e v lost run
    obtain ⟨outcome, -, same⟩ := run_look db.layer table true w
    rw [run] at outcome
    exact run_columns_of_lost lost ((same e outcome.symm).symm.trans run)
  refine h.bind ?_ (fun found => ?_)
  · refine h.bind (traces_isPermanent h table) (fun permanent => ?_)
    cases permanent with
    | true => exact describing false
    | false =>
      refine h.bind (h.ofExcept (by simp)) (fun call => h.bind (h.execute call) (fun _ => ?_))
      exact traces_dropped (describing true) description
  · split
    · exact h.pure _
    · exact h.fail rfl

end BulkTable

theorem Compile.traces_bulkColumns {db : Sql.Database} (source : RoutineSource)
    (a : Annotations) : (bulkColumns db.layer source a).Traces db.Halting := by
  unfold bulkColumns
  split
  · exact BulkTable.traces_declaredColumns _ _ _ _
  · exact Sql.Database.accepts_halting.pure _

end StoredRoutines
