import StoredRoutines.Proofs.Updates

/-!
Accounts of a batch: each of its results with the statements that were executed for the source.
Keeping account changes nothing about the batch.
-/

namespace StoredRoutines

open Loader Outcomes TraceProperty

namespace Batch

/-- A result, and the statements that were executed for its source. -/
structure Account where
  result : RoutineResult
  executed : List String

def account (x : Loader RoutineResult) : Loader Account := do
  let before := (← Loader.getWorld).statements
  let result ← x
  return ⟨result, (← Loader.getWorld).statements.drop before.length⟩

def sortAccounts (accounts : List Account) : List Account :=
  accounts.mergeSort fun a b => decide (a.result.path.toText ≤ b.result.path.toText)

def accounts (settings : LoaderSettings) (layer : Sql.DataLayer) (only : Option (List Path)) :
    Loader (List Account) := do
  let groups := groups settings.extension (← paths settings only)
  let rejected ← (duplicates groups).mapM fun d =>
    account (RoutineResult.failed d.2.2 d.1 none false (duplicateError d.1 d.2.1 d.2.2))
  let start ← prepare settings layer
  let handled ← (sources groups).mapM fun source => account (routine settings layer start source)
  return sortAccounts (rejected ++ handled)

theorem run_account {x : Loader RoutineResult} {w v : World} {r : RoutineResult}
    (run : x.run w = (.ok r, v)) :
    (account x).run w = (.ok ⟨r, v.statements.drop w.statements.length⟩, v) :=
  (run_bind_of_ok (run_getWorld w)).trans ((run_bind_of_ok run).trans rfl)

theorem run_account_eq_ok {x : Loader RoutineResult} {w v : World} {a : Account} :
    (account x).run w = (.ok a, v) ↔
      x.run w = (.ok a.result, v) ∧ a.executed = v.statements.drop w.statements.length := by
  constructor
  · intro run
    obtain ⟨w', _, looked, rest⟩ := run_bind_eq_ok.1 run
    cases looked
    obtain ⟨r, u, ran, rest⟩ := run_bind_eq_ok.1 rest
    obtain ⟨u', _, looked, last⟩ := run_bind_eq_ok.1 rest
    cases looked
    cases last
    exact ⟨ran, rfl⟩
  · rintro ⟨run, executed⟩
    rw [run_account run, ← executed]

theorem steps_account {α : Type} {f : α → Loader RoutineResult} {w v : World} {as : List α}
    {results : List RoutineResult} (steps : Steps f w as results v) : ∃ accounts : List Account,
    accounts.map (·.result) = results ∧ Steps (fun a => account (f a)) w as accounts v := by
  induction steps with
  | nil w => exact ⟨[], rfl, .nil w⟩
  | cons head _ ih =>
    obtain ⟨accounts, rfl, tail⟩ := ih
    exact ⟨_ :: accounts, rfl, .cons (run_account head) tail⟩

theorem steps_account_of_silent {α : Type} {f : α → Loader RoutineResult} {w v : World}
    {as : List α} {results : List RoutineResult} (steps : Steps f w as results v)
    (silent : ∀ a r u v, (f a).run u = (.ok r, v) → v.statements = u.statements) :
    Steps (fun a => account (f a)) w as (results.map fun r => ⟨r, []⟩) v := by
  induction steps with
  | nil w => exact .nil w
  | @cons w u v a r as results head _ ih =>
    have none : u.statements.drop w.statements.length = [] := by
      rw [silent _ _ _ _ head, List.drop_length]
    exact .cons (run_account_eq_ok.2 ⟨head, none.symm⟩) ih

theorem results_sortAccounts (accounts : List Account) :
    (sortAccounts accounts).map (·.result) = sortResults (accounts.map (·.result)) :=
  List.map_mergeSort fun _ _ _ _ => rfl

/-- The course of a batch: it opens, and handles each source in turn. -/
structure Course (settings : LoaderSettings) (layer : Sql.DataLayer) (only : Option (List Path))
    (w : World) (settled : Settled) (paths : List Path) (rejected : List RoutineResult)
    (start : Start) (u : World) (handled : List Account) : Prop where
  opened : (opening settings layer only).run w = (.ok (paths, rejected, start), u)
  handling : ∃ v, Steps (fun source => account (routine settings layer start source)) u
    (sources (groups settings.extension paths)) handled v
  results : settled.batch.results = sortResults (rejected ++ handled.map (·.result))
  records : settled.records = remaining only (settled.batch.results.map (·.name))
    ((handled.map (·.result)).foldl keep start.store)

theorem settle_of_run {settings : LoaderSettings} {layer : Sql.DataLayer}
    {only : Option (List Path)} {w v : World} {batch : BatchResult}
    (run : (loadAll settings layer only).run w = (.ok batch, v)) :
    ∃ settled u, (settle settings layer only).run w = (.ok settled, u) ∧ settled.batch = batch := by
  obtain ⟨settled, u, settling, rest⟩ := run_bind_eq_ok.1 run
  obtain ⟨_, _, -, rest⟩ := run_bind_eq_ok.1 rest
  cases rest
  exact ⟨settled, u, settling, rfl⟩

theorem files_of_opening {settings : LoaderSettings} {db : Sql.Database}
    {only : Option (List Path)} {w u : World} {o : List Path × List RoutineResult × Start}
    (run : (opening settings db.layer only).run w = (.ok o, u)) : u.files = w.files := by
  obtain ⟨es, rfl, -⟩ :=
    (traces_opening Sql.Database.accepts_halting settings only).of_run run
  rfl

theorem course_of_run {settings : LoaderSettings} {layer : Sql.DataLayer}
    {only : Option (List Path)} {w v : World} {settled : Settled}
    (run : (settle settings layer only).run w = (.ok settled, v)) :
    ∃ paths rejected start u handled,
      Course settings layer only w settled paths rejected start u handled := by
  rw [settle_eq] at run
  obtain ⟨⟨paths, rejected, start⟩, u, opened, rest⟩ := run_bind_eq_ok.1 run
  obtain ⟨results, t, handling, ended⟩ := run_bind_eq_ok.1 rest
  obtain ⟨handled, rfl, steps⟩ := steps_account (run_mapM_eq_ok.1 handling)
  obtain ⟨same, records⟩ := run_ending ended
  exact ⟨paths, rejected, start, u, handled, opened, ⟨t, steps⟩, same, records⟩

theorem Course.forall₂ {settings : LoaderSettings} {db : Sql.Database} {only : Option (List Path)}
    {w u : World} {settled : Settled} {paths : List Path} {rejected : List RoutineResult}
    {start : Start} {handled : List Account}
    (h : Course settings db.layer only w settled paths rejected start u handled) :
    List.Forall₂ (fun source a => ∃ t v, t.files = w.files ∧
      (routine settings db.layer start source).run t = (.ok a.result, v) ∧
      a.executed = v.statements.drop t.statements.length)
      (sources (groups settings.extension paths)) handled := by
  obtain ⟨v, handling⟩ := h.handling
  refine handling.forall₂_of_invariant (I := fun t => t.files = w.files)
    (files_of_opening h.opened) ?_ ?_
  · intro source a t v same ran
    exact (files_of_run_routine (run_account_eq_ok.1 ran).1).trans same
  · intro source a t v _ same ran
    exact ⟨t, v, same, run_account_eq_ok.1 ran⟩

theorem Course.accounts {settings : LoaderSettings} {layer : Sql.DataLayer}
    {only : Option (List Path)} {w u : World} {settled : Settled} {paths : List Path}
    {rejected : List RoutineResult} {start : Start} {handled : List Account}
    (h : Course settings layer only w settled paths rejected start u handled) :
    (∃ v, (Batch.accounts settings layer only).run w =
      (.ok (sortAccounts ((rejected.map fun r => ⟨r, []⟩) ++ handled)), v)) ∧
    (sortAccounts ((rejected.map fun r => ⟨r, []⟩) ++ handled)).map (·.result) =
      settled.batch.results := by
  obtain ⟨v, handling⟩ := h.handling
  obtain ⟨paths', u₁, finding, rest⟩ := run_bind_eq_ok.1 h.opened
  obtain ⟨rejected', u₂, rejecting, rest⟩ := run_bind_eq_ok.1 rest
  obtain ⟨start', u₃, preparing, last⟩ := run_bind_eq_ok.1 rest
  cases last
  have refused := steps_account_of_silent (run_mapM_eq_ok.1 rejecting)
    fun d r u v ran => (RoutineResult.run_failed ran).2
  refine ⟨⟨v, ?_⟩, ?_⟩
  · exact (run_bind_of_ok finding).trans ((run_bind_of_ok (run_mapM_eq_ok.2 refused)).trans
      ((run_bind_of_ok preparing).trans (run_bind_of_ok (run_mapM_eq_ok.2 handling))))
  · rw [results_sortAccounts, h.results, List.map_append, List.map_map]
    simp [Function.comp_def]

end Batch

end StoredRoutines
