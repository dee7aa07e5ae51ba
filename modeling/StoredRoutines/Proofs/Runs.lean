import Mathlib.Data.List.Forall2
import StoredRoutines.Loader

/-!
Runs of computations taken apart. A run of a sequence that ends with a value is a run of its first
part that ends with a value, followed by a run of its second part; a run over a list is a chain of
runs, one for each item.
-/

namespace StoredRoutines.Loader

variable {α β : Type}

theorem run_bind_of_ok {x : Loader α} {f : α → Loader β} {w v : World} {a : α}
    (h : x.run w = (.ok a, v)) : (x >>= f).run w = (f a).run v := by
  rw [run_bind, h]

theorem run_bind_of_error {x : Loader α} {f : α → Loader β} {w v : World} {e : Failure}
    (h : x.run w = (.error e, v)) : (x >>= f).run w = (.error e, v) := by
  rw [run_bind, h]

theorem run_eq_of_fst {x : Loader α} {w : World} {r : Except Failure α} (h : (x.run w).1 = r) :
    x.run w = (r, (x.run w).2) :=
  Prod.ext h rfl

theorem run_bind_eq_ok {x : Loader α} {f : α → Loader β} {w v : World} {b : β} :
    (x >>= f).run w = (.ok b, v) ↔
      ∃ a u, x.run w = (.ok a, u) ∧ (f a).run u = (.ok b, v) := by
  rw [run_bind]
  cases hx : x.run w with
  | mk r u =>
    cases r with
    | ok a =>
      constructor
      · intro h
        exact ⟨a, u, rfl, h⟩
      · rintro ⟨a', u', first, second⟩
        cases first
        exact second
    | error e => simp

theorem run_bind_pure (x : Loader α) (f : α → β) (w : World) :
    (x >>= fun a => pure (f a)).run w = ((x.run w).1.map f, (x.run w).2) := by
  rw [run_bind]
  cases x.run w with
  | mk r u => cases r <;> rfl

@[simp] theorem run_ofExcept (r : Except Failure α) (w : World) :
    (ofExcept r).run w = (r, w) := by
  cases r <;> rfl

theorem ofExcept_ok (a : α) : (ofExcept (.ok a) : Loader α) = pure a := rfl

@[simp] theorem run_getFiles (w : World) : getFiles.run w = (.ok w.files, w) := rfl

@[simp] theorem run_getWorld (w : World) : getWorld.run w = (.ok w, w) := rfl

@[simp] theorem run_setFiles (fs : FileSystem) (w : World) :
    (setFiles fs).run w = (.ok (), { w with files := fs }) := rfl

@[simp] theorem run_raise (e : LoaderError) (w : World) :
    (raise e : Loader α).run w = (.error (.error e), w) := rfl

@[simp] theorem run_attempt (x : Loader α) (w : World) :
    x.attempt.run w = (.ok (x.run w).1, (x.run w).2) := rfl

theorem run_attempt_eq_ok {x : Loader α} {w v : World} {r : Except Failure α} :
    x.attempt.run w = (.ok r, v) ↔ x.run w = (r, v) := by
  simp [Prod.ext_iff]

@[simp] theorem run_log (level : LogLevel) (channel : Channel) (text : String) (w : World) :
    (log level channel text).run w =
      (.ok (), { w with events := w.events ++ [.log ⟨level, channel, text⟩] }) := rfl

/-- A computation for each item of a list, one after the other, all of them ending with values. -/
inductive Steps (f : α → Loader β) : World → List α → List β → World → Prop
  | nil (w : World) : Steps f w [] [] w
  | cons {w u v : World} {a : α} {b : β} {as : List α} {bs : List β}
      (head : (f a).run w = (.ok b, u)) (tail : Steps f u as bs v) :
      Steps f w (a :: as) (b :: bs) v

theorem run_mapM_eq_ok {f : α → Loader β} {as : List α} {bs : List β} {w v : World} :
    (as.mapM f).run w = (.ok bs, v) ↔ Steps f w as bs v := by
  induction as generalizing bs w with
  | nil =>
    rw [List.mapM_nil, run_pure]
    constructor
    · intro h
      cases h
      exact .nil _
    · intro h
      cases h
      rfl
  | cons a as ih =>
    rw [List.mapM_cons, run_bind_eq_ok]
    constructor
    · rintro ⟨b, u, head, rest⟩
      obtain ⟨bs', u', tail, last⟩ := run_bind_eq_ok.1 rest
      rw [run_pure] at last
      cases last
      exact .cons head (ih.1 tail)
    · intro h
      cases h with
      | cons head tail =>
        exact ⟨_, _, head, by rw [run_bind_of_ok (ih.2 tail), run_pure]⟩

/-- Whatever each step makes true of its item and its value, starting from worlds that have what all
steps keep, is true of all items and values. -/
theorem Steps.forall₂_of_invariant {f : α → Loader β} {R : α → β → Prop} {I : World → Prop}
    {w v : World} {as : List α} {bs : List β} (steps : Steps f w as bs v) (start : I w)
    (keeps : ∀ a b u v, I u → (f a).run u = (.ok b, v) → I v)
    (each : ∀ a b u v, a ∈ as → I u → (f a).run u = (.ok b, v) → R a b) :
    List.Forall₂ R as bs := by
  induction steps with
  | nil w => exact .nil
  | cons head tail ih =>
    refine .cons (each _ _ _ _ (by simp) start head) (ih (keeps _ _ _ _ start head) ?_)
    intro a b u v member holds run
    exact each a b u v (List.mem_cons_of_mem _ member) holds run

theorem Steps.forall₂ {f : α → Loader β} {R : α → β → Prop} {w v : World} {as : List α}
    {bs : List β} (steps : Steps f w as bs v)
    (each : ∀ a b w v, a ∈ as → (f a).run w = (.ok b, v) → R a b) : List.Forall₂ R as bs :=
  steps.forall₂_of_invariant (I := fun _ => True) trivial (fun _ _ _ _ _ _ => trivial)
    fun a b u v member _ run => each a b u v member run

end StoredRoutines.Loader
