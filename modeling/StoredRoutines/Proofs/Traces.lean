import StoredRoutines.Proofs.Runs

/-!
Computations that change nothing but the record of what happened. What such a computation adds to
the record is its trace; a property of traces that composes holds of a whole computation once it
holds of each of its parts.
-/

namespace StoredRoutines

namespace Event

@[simp] theorem statements_nil : statements [] = [] := rfl

@[simp] theorem statements_append (es fs : List Event) :
    statements (es ++ fs) = statements es ++ statements fs :=
  List.filterMap_append

@[simp] theorem statements_cons_statement (sql : String) (es : List Event) :
    statements (.statement sql :: es) = sql :: statements es := rfl

@[simp] theorem statements_cons_log (line : LogLine) (es : List Event) :
    statements (.log line :: es) = statements es := rfl

theorem statements_eq_append_cons {es : List Event} {before after : List String} {sql : String} :
    statements es = before ++ sql :: after ↔
      ∃ pre post, es = pre ++ .statement sql :: post ∧ statements pre = before ∧
        statements post = after := by
  constructor
  · intro split
    induction es generalizing before with
    | nil => cases before <;> cases split
    | cons e es ih =>
      cases e with
      | statement s =>
        cases before with
        | nil =>
          cases split
          exact ⟨[], es, rfl, rfl, rfl⟩
        | cons b before =>
          obtain ⟨rfl, rest⟩ := List.cons.inj split
          obtain ⟨pre, post, rfl, rfl, later⟩ := ih rest
          exact ⟨.statement s :: pre, post, rfl, rfl, later⟩
      | call | cursor | refusedCursor | log | print | complain =>
        obtain ⟨pre, post, rfl, rfl, later⟩ := ih split
        exact ⟨_ :: pre, post, rfl, rfl, later⟩
  · rintro ⟨pre, post, rfl, rfl, rfl⟩
    simp

end Event

namespace World

def after (w : World) (es : List Event) : World := { w with events := w.events ++ es }

@[simp] theorem after_nil (w : World) : w.after [] = w := by
  simp [after]

@[simp] theorem after_after (w : World) (es fs : List Event) :
    (w.after es).after fs = w.after (es ++ fs) := by
  simp [after]

theorem after_injective {w : World} {es fs : List Event} (same : w.after es = w.after fs) :
    es = fs :=
  List.append_cancel_left (congrArg events same)

@[simp] theorem files_after (w : World) (es : List Event) : (w.after es).files = w.files := rfl

@[simp] theorem statements_after (w : World) (es : List Event) :
    (w.after es).statements = w.statements ++ Event.statements es :=
  Event.statements_append w.events es

end World

/-- What can be true of a trace, given the world it starts in and the failure it ends with. -/
abbrev TraceProperty := World → Option Failure → List Event → Prop

namespace TraceProperty

/-- A property that holds of the empty trace, and of two traces in a row if it holds of both. -/
structure Composes (P : TraceProperty) : Prop where
  empty : ∀ w, P w none []
  append : ∀ {w r es fs}, P w none es → P (w.after es) r fs → P w r (es ++ fs)

/-- No statement, and no loss of the connection. -/
def Quiet : TraceProperty := fun _ r es =>
  Event.statements es = [] ∧ ∀ e, r = some e → e.isConnectionLoss = false

theorem quiet_composes : Composes Quiet where
  empty := by
    intro w
    exact ⟨rfl, by simp⟩
  append := by
    intro w r es fs first second
    exact ⟨by simp [first.1, second.1], second.2⟩

end TraceProperty

namespace Loader

open TraceProperty

variable {α β : Type}

def failure? : Except Failure α → Option Failure
  | .ok _ => none
  | .error e => some e

/-- The computation only adds a trace, of which the property holds. -/
def Traces (x : Loader α) (P : TraceProperty) : Prop :=
  ∀ w, ∃ es, (x.run w).2 = w.after es ∧ P w (failure? (x.run w).1) es

theorem Traces.of_run {x : Loader α} {P : TraceProperty} (h : x.Traces P) {w v : World}
    {r : Except Failure α} (run : x.run w = (r, v)) :
    ∃ es, v = w.after es ∧ P w (failure? r) es := by
  obtain ⟨es, step, holds⟩ := h w
  rw [run] at step holds
  exact ⟨es, step, holds⟩

theorem Traces.mono {x : Loader α} {P Q : TraceProperty} (h : x.Traces P)
    (weaker : ∀ w r es, P w r es → Q w r es) : x.Traces Q := by
  intro w
  obtain ⟨es, step, holds⟩ := h w
  exact ⟨es, step, weaker _ _ _ holds⟩

theorem traces_pure {P : TraceProperty} (c : Composes P) (a : α) :
    (pure a : Loader α).Traces P := by
  intro w
  exact ⟨[], by simp, c.empty w⟩

theorem Traces.bind_of {P : TraceProperty} (c : Composes P) {x : Loader α} {f : α → Loader β}
    (hx : x.Traces P) (hf : ∀ w a u, x.run w = (.ok a, u) → (f a).Traces P) :
    (x >>= f).Traces P := by
  intro w
  obtain ⟨es, step, holds⟩ := hx w
  cases hr : x.run w with
  | mk r v =>
    rw [hr] at step holds
    cases r with
    | error e =>
      rw [run_bind_of_error hr]
      exact ⟨es, step, holds⟩
    | ok a =>
      rw [run_bind_of_ok hr]
      simp only at step
      subst step
      obtain ⟨fs, step', holds'⟩ := hf w a _ hr (w.after es)
      exact ⟨es ++ fs, by rw [step', World.after_after], c.append holds holds'⟩

theorem Traces.bind {P : TraceProperty} (c : Composes P) {x : Loader α} {f : α → Loader β}
    (hx : x.Traces P) (hf : ∀ a, (f a).Traces P) : (x >>= f).Traces P :=
  hx.bind_of c fun _ a _ _ => hf a

theorem traces_mapM {P : TraceProperty} (c : Composes P) {f : α → Loader β} {as : List α}
    (each : ∀ a ∈ as, (f a).Traces P) : (as.mapM f).Traces P := by
  induction as with
  | nil => exact traces_pure c _
  | cons a as ih =>
    rw [List.mapM_cons]
    refine Traces.bind c (each a (by simp)) (fun b => ?_)
    have tail := ih (fun a member => each a (List.mem_cons_of_mem _ member))
    exact Traces.bind c tail (fun bs => traces_pure c _)

theorem traces_forM {P : TraceProperty} (c : Composes P) {f : α → Loader Unit} {as : List α}
    (each : ∀ a ∈ as, (f a).Traces P) : (as.forM f).Traces P := by
  induction as with
  | nil => exact traces_pure c _
  | cons a as ih =>
    refine Traces.bind c (each a (by simp)) (fun _ => ?_)
    exact ih (fun a member => each a (List.mem_cons_of_mem _ member))

theorem traces_ofExcept {P : TraceProperty} (c : Composes P) {r : Except Failure α}
    (failing : ∀ e w, r = .error e → P w (some e) []) : (ofExcept r).Traces P := by
  intro w
  refine ⟨[], by simp, ?_⟩
  rw [run_ofExcept]
  cases r with
  | ok a => exact c.empty w
  | error e => exact failing e w rfl

/-- A computation whose failures are handled by what follows. It is enough that the handling passes
on what is not to be handled. -/
theorem Traces.rescue {P : TraceProperty} (c : Composes P) {x : Loader α}
    {k : Except Failure α → Loader β} (passed : Failure → Prop) (hx : x.Traces P)
    (value : ∀ a, (k (.ok a)).Traces P)
    (pass : ∀ e w, passed e → (k (.error e)).run w = (.error e, w))
    (forget : ∀ w e es, ¬ passed e → P w (some e) es → P w none es)
    (handle : ∀ e, ¬ passed e → (k (.error e)).Traces P) : (x.attempt >>= k).Traces P := by
  intro w
  obtain ⟨es, step, holds⟩ := hx w
  have attempted : x.attempt.run w = (.ok (x.run w).1, w.after es) := by
    rw [run_attempt, step]
  rw [run_bind_of_ok attempted]
  cases hr : (x.run w).1 with
  | ok a =>
    rw [hr] at holds
    obtain ⟨fs, step', holds'⟩ := value a (w.after es)
    exact ⟨es ++ fs, by rw [step', World.after_after], c.append holds holds'⟩
  | error e =>
    rw [hr] at holds
    by_cases h : passed e
    · rw [pass e _ h]
      exact ⟨es, rfl, holds⟩
    · obtain ⟨fs, step', holds'⟩ := handle e h (w.after es)
      have forgotten := forget w e es h holds
      exact ⟨es ++ fs, by rw [step', World.after_after], c.append forgotten holds'⟩

theorem traces_emit_quiet {e : Event} (h : Event.statements [e] = []) :
    (emit e).Traces Quiet := by
  intro w
  exact ⟨[e], rfl, h, by simp [failure?]⟩

theorem traces_log_quiet (level : LogLevel) (channel : Channel) (text : String) :
    (log level channel text).Traces Quiet :=
  traces_emit_quiet rfl

end Loader

/-- The computation ends with the value and adds a trace without statements. -/
def Loader.Yields {α : Type} (x : Loader α) (w : World) (a : α) : Prop :=
  ∃ es, x.run w = (.ok a, w.after es) ∧ Event.statements es = []

namespace Loader.Yields

variable {α β : Type} {x : Loader α} {f : α → Loader β} {w : World} {a : α} {b : β}

theorem pure (a : α) (w : World) : Yields (Pure.pure a) w a :=
  ⟨[], by simp, rfl⟩

theorem log (level : LogLevel) (channel : Channel) (text : String) (w : World) :
    Yields (Loader.log level channel text) w () :=
  ⟨[.log ⟨level, channel, text⟩], rfl, rfl⟩

theorem bind (first : x.Yields w a) (second : ∀ es, (f a).Yields (w.after es) b) :
    (x >>= f).Yields w b := by
  obtain ⟨es, run, silent⟩ := first
  obtain ⟨fs, run', silent'⟩ := second es
  refine ⟨es ++ fs, ?_, by simp [silent, silent']⟩
  rw [run_bind_of_ok run, run', World.after_after]

theorem ofExcept {r : Except Failure α} (h : r = .ok a) (w : World) :
    (Loader.ofExcept r).Yields w a := by
  subst h
  exact pure a w

theorem forM {γ : Type} {f : γ → Loader Unit} {cs : List γ}
    (each : ∀ c ∈ cs, ∀ w, (f c).Yields w ()) (w : World) : (cs.forM f).Yields w () := by
  induction cs generalizing w with
  | nil => exact pure _ _
  | cons c cs ih =>
    exact (each c (by simp) w).bind
      (fun es => ih (fun d later => each d (List.mem_cons_of_mem _ later)) _)

theorem mapM {γ : Type} {f : γ → Loader β} {cs : List γ} {bs : List β}
    (each : List.Forall₂ (fun c b => ∀ es, (f c).Yields (w.after es) b) cs bs) (es : List Event) :
    (cs.mapM f).Yields (w.after es) bs := by
  induction each generalizing es with
  | nil => exact pure _ _
  | cons head _ ih =>
    rw [List.mapM_cons]
    refine (head es).bind (fun fs => ?_)
    rw [World.after_after]
    exact (ih (es ++ fs)).bind (fun gs => pure _ _)

end Loader.Yields

end StoredRoutines
