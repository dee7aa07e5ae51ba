import StoredRoutines.Proofs.Outcomes
import StoredRoutines.Proofs.Runs

/-!
What an outcome or a computation can fail with. A property of failures that holds of the failures of
all parts of a sequence holds of the failures of the sequence; a computation that is attempted does
not fail.
-/

namespace StoredRoutines

namespace Outcomes

variable {ε ε' α β : Type} {P : ε → Prop}

def ErrsOnly (P : ε → Prop) (x : Except ε α) : Prop := ∀ e, x = .error e → P e

namespace ErrsOnly

@[simp] theorem ok (a : α) : ErrsOnly P (.ok a : Except ε α) := by
  intro e failed
  cases failed

@[simp] theorem pure (a : α) : ErrsOnly P (Pure.pure a : Except ε α) := ok a

@[simp] theorem error_iff {e : ε} : ErrsOnly P (.error e : Except ε α) ↔ P e := by
  constructor
  · intro h
    exact h e rfl
  · intro h e' same
    cases same
    exact h

theorem mono {Q : ε → Prop} {x : Except ε α} (h : ErrsOnly P x) (weaker : ∀ e, P e → Q e) :
    ErrsOnly Q x :=
  fun e failed => weaker e (h e failed)

/-- The second part of a sequence counts for the values of the first part only. -/
@[simp] theorem bind_iff {x : Except ε α} {f : α → Except ε β} :
    ErrsOnly P (x >>= f) ↔ ErrsOnly P x ∧ ∀ a, x = .ok a → ErrsOnly P (f a) := by
  cases x with
  | error e =>
    constructor
    · intro h
      exact ⟨fun e' same => h e' (by cases same; rfl), fun a same => by cases same⟩
    · intro h e' same
      exact h.1 e' (by cases same; rfl)
  | ok a =>
    constructor
    · intro h
      exact ⟨ok a, fun a' same => by cases same; exact h⟩
    · intro h
      exact h.2 a rfl

@[simp] theorem map_iff {x : Except ε α} (f : α → β) : ErrsOnly P (x.map f) ↔ ErrsOnly P x := by
  cases x with
  | error e => simp [Except.map]
  | ok a => simp [Except.map]

@[simp] theorem functorMap_iff {x : Except ε α} (f : α → β) :
    ErrsOnly P (f <$> x) ↔ ErrsOnly P x :=
  map_iff f

theorem mapM_of_mem {f : α → Except ε β} {as : List α} (each : ∀ a ∈ as, ErrsOnly P (f a)) :
    ErrsOnly P (as.mapM f) := by
  intro e failed
  obtain ⟨a, member, stopped⟩ := exists_of_mapM_eq_error failed
  exact each a member e stopped

@[simp] theorem mapM {f : α → Except ε β} {as : List α} (each : ∀ a, ErrsOnly P (f a)) :
    ErrsOnly P (as.mapM f) :=
  mapM_of_mem fun a _ => each a

theorem mapError {Q : ε' → Prop} {x : Except ε α} {g : ε → ε'} (h : ErrsOnly P x)
    (image : ∀ e, P e → Q (g e)) : ErrsOnly Q (x.mapError g) := by
  intro e failed
  obtain ⟨e', failed', rfl⟩ := mapError_eq_error.1 failed
  exact image e' (h e' failed')

end ErrsOnly

end Outcomes

open Outcomes

namespace Loader

variable {α β : Type} {P : Failure → Prop}

/-- Whatever the world, the computation fails with failures that have the property only. -/
def FailsOnly (P : Failure → Prop) (x : Loader α) : Prop :=
  ∀ w e v, x.run w = (.error e, v) → P e

namespace FailsOnly

theorem mono {Q : Failure → Prop} {x : Loader α} (h : x.FailsOnly P) (weaker : ∀ e, P e → Q e) :
    x.FailsOnly Q :=
  fun w e v run => weaker e (h w e v run)

theorem pure (a : α) : (Pure.pure a : Loader α).FailsOnly P := by
  intro w e v run
  cases run

theorem emit (event : Event) : (Loader.emit event).FailsOnly P := by
  intro w e v run
  cases run

theorem log (level : LogLevel) (channel : Channel) (text : String) :
    (Loader.log level channel text).FailsOnly P :=
  emit _

theorem getFiles : Loader.getFiles.FailsOnly P := by
  intro w e v run
  cases run

theorem setFiles (fs : FileSystem) : (Loader.setFiles fs).FailsOnly P := by
  intro w e v run
  cases run

theorem fail {e : Failure} (holds : P e) : (Loader.fail e : Loader α).FailsOnly P := by
  intro w e' v run
  cases run
  exact holds

theorem raise {e : LoaderError} (holds : P (.error e)) : (Loader.raise e : Loader α).FailsOnly P :=
  fail holds

theorem ofExcept {r : Except Failure α} (h : ErrsOnly P r) : (Loader.ofExcept r).FailsOnly P := by
  intro w e v run
  rw [run_ofExcept] at run
  exact h e (Prod.mk.inj run).1

theorem attempt (x : Loader α) : x.attempt.FailsOnly P := by
  intro w e v run
  cases run

/-- What follows a computation needs to be looked at for the values that the computation has. -/
theorem bind_of {x : Loader α} {f : α → Loader β} (hx : x.FailsOnly P)
    (hf : ∀ w a u, x.run w = (.ok a, u) → (f a).FailsOnly P) : (x >>= f).FailsOnly P := by
  intro w e v run
  cases first : x.run w with
  | mk r u =>
    cases r with
    | error e' =>
      rw [run_bind_of_error first] at run
      cases run
      exact hx _ _ _ first
    | ok a =>
      rw [run_bind_of_ok first] at run
      exact hf _ _ _ first _ _ _ run

theorem bind {x : Loader α} {f : α → Loader β} (hx : x.FailsOnly P)
    (hf : ∀ a, (f a).FailsOnly P) : (x >>= f).FailsOnly P :=
  hx.bind_of fun _ a _ _ => hf a

theorem map {x : Loader α} (h : x.FailsOnly P) (f : α → β) : (f <$> x).FailsOnly P := by
  rw [← bind_pure_comp]
  exact h.bind fun a => pure _

theorem mapM {f : α → Loader β} {as : List α} (h : ∀ a ∈ as, (f a).FailsOnly P) :
    (as.mapM f).FailsOnly P := by
  induction as with
  | nil => exact pure []
  | cons a as ih =>
    rw [List.mapM_cons]
    refine (h a (by simp)).bind (fun b => ?_)
    exact (ih fun c place => h c (List.mem_cons_of_mem _ place)).bind (fun bs => pure _)

theorem forM {f : α → Loader Unit} {as : List α} (h : ∀ a ∈ as, (f a).FailsOnly P) :
    (as.forM f).FailsOnly P := by
  induction as with
  | nil => exact pure ()
  | cons a as ih =>
    exact (h a (by simp)).bind (fun _ => ih fun c place => h c (List.mem_cons_of_mem _ place))

theorem attempt_bind {Q : Failure → Prop} {x : Loader α} (hx : x.FailsOnly P)
    {f : Except Failure α → Loader β} (hf : ∀ r, ErrsOnly P r → (f r).FailsOnly Q) :
    (x.attempt >>= f).FailsOnly Q := by
  refine (attempt x).bind_of fun w r u run => hf r ?_
  rintro e rfl
  exact hx w e u (run_attempt_eq_ok.1 run)

end FailsOnly

end Loader

end StoredRoutines
