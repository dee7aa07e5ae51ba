import StoredRoutines.Command.Run
import StoredRoutines.Proofs.DropStatements
import StoredRoutines.Proofs.Traces

/-!
What can be printed. Of the lines of a report all can be printed but those that tell of a recorded
placeholder whose name holds a surrogate that stands alone: all other texts in them are decoded.
-/

namespace StoredRoutines

open Loader Outcomes

/-- No surrogate stands alone in the atom as text. -/
def Atom.Encodable (a : Atom) : Prop := ∀ n ∈ a.displayPoints, isSurrogate n = false

theorem Atom.encodable_text (s : String) : (Atom.text s).Encodable := by
  intro n member
  obtain ⟨c, -, rfl⟩ := List.mem_map.1 member
  exact isSurrogate_toNat c

namespace Command

namespace Report

def Printable (line : Line) : Prop := ∀ n ∈ line, Atom.isSurrogate n = false

theorem printable_append {l m : Line} : Printable (l ++ m) ↔ Printable l ∧ Printable m :=
  List.forall_mem_append

theorem printable_line (s : String) : Printable (line s) := Atom.encodable_text s

/-- The first of the lines that cannot be printed. -/
def fault? (lines : List Line) : Option Line := lines.find? fun l => l.any Atom.isSurrogate

theorem any_isSurrogate_eq_false {l : Line} : l.any Atom.isSurrogate = false ↔ Printable l := by
  simp [Printable]

theorem fault?_eq_none_iff {lines : List Line} :
    fault? lines = none ↔ ∀ l ∈ lines, Printable l := by
  simp only [fault?, List.find?_eq_none, Bool.not_eq_true, any_isSurrogate_eq_false]

theorem run_print_of_printable {l : Line} (printable : Printable l) (w : World) :
    ∃ s, (print l).run w = (.ok (), w.after [.print s]) := by
  refine ⟨String.ofList (l.map Atom.pointChar), ?_⟩
  rw [print, Atom.ofPoints, any_isSurrogate_eq_false.2 printable]
  rfl

theorem run_print_of_surrogate {l : Line} (surrogate : l.any Atom.isSurrogate = true) (w : World) :
    (print l).run w = (.error (.defect (encodingFault l)), w) := by
  rw [print, Atom.ofPoints, surrogate]
  rfl

end Report

open Report

/-- Lines are printed up to the first that cannot be, and that one is what printing fails with. -/
theorem run_printAll (lines : List Line) (w : World) : ((printAll lines).run w).1 =
    match fault? lines with
    | none => .ok ()
    | some l => .error (.defect (encodingFault l)) := by
  induction lines generalizing w with
  | nil => rfl
  | cons l lines ih =>
    cases surrogate : l.any Atom.isSurrogate with
    | true =>
      have first : fault? (l :: lines) = some l := by simp [fault?, surrogate]
      rw [first]
      exact congrArg Prod.fst (run_bind_of_error (run_print_of_surrogate surrogate w))
    | false =>
      have later : fault? (l :: lines) = fault? lines := by simp [fault?, surrogate]
      obtain ⟨s, printed⟩ := run_print_of_printable (any_isSurrogate_eq_false.1 surrogate) w
      rw [later, ← ih (w.after [.print s])]
      exact congrArg Prod.fst (run_bind_of_ok printed)

end Command

/-- The recorded placeholder whose removal is the reason. -/
def StaleReason.removedToken? : StaleReason → Option Atom
  | placeholderRemoved token => some token
  | _ => none

/-- The placeholder that a report names in the reason for loading a routine. -/
def RoutineResult.toldToken? (r : RoutineResult) : Option Atom :=
  match r.outcome with
  | .loaded reason _ _ | .wouldLoad reason => reason.removedToken?
  | _ => none

namespace Command.Report

theorem printable_messagePoints_iff {reason : StaleReason} : Printable reason.messagePoints ↔
    ∀ token ∈ reason.removedToken?, token.Encodable := by
  cases reason with
  | placeholderRemoved token =>
    have front : Printable (Atom.text "placeholder ").points := printable_line _
    have back : Printable (Atom.text " removed").points := printable_line _
    rw [StaleReason.messagePoints, printable_append, printable_append, and_iff_left back,
      and_iff_right front]
    simp [StaleReason.removedToken?, Printable, Atom.Encodable]
  | _ =>
    refine ⟨fun _ token same => ?_, fun _ => printable_line _⟩
    cases same

theorem printable_routine_iff {r : RoutineResult} : (∀ l ∈ routine r, Printable l) ↔
    ∀ token ∈ r.toldToken?, token.Encodable := by
  obtain ⟨path, name, outcome⟩ := r
  have told {reason : StaleReason} {start stop : String} :
      Printable (line start ++ reason.messagePoints ++ line stop) ↔
        ∀ token ∈ reason.removedToken?, token.Encodable := by
    rw [printable_append, printable_append, and_iff_left (printable_line _),
      and_iff_right (printable_line _), printable_messagePoints_iff]
  cases outcome with
  | wouldLoad reason => simp only [routine, List.forall_mem_singleton, told, RoutineResult.toldToken?]
  | loaded reason record warnings =>
    have warned : ∀ l ∈ warnings.map fun w => line ("  warning: " ++ w), Printable l := by
      intro l member
      obtain ⟨w, -, rfl⟩ := List.mem_map.1 member
      exact printable_line _
    simp only [routine, List.forall_mem_cons, told, RoutineResult.toldToken?]
    rw [and_iff_left warned]
  | failed reason remade e => simp [routine, RoutineResult.toldToken?, printable_line]
  | upToDate | checked => simp [routine, RoutineResult.toldToken?]

example : (fault? (routine ⟨⟨"/", ["a.psql"]⟩, "a",
    .wouldLoad (.placeholderRemoved (.broken [0xD800]))⟩)).isSome := by decide

theorem printable_checked (r : RoutineResult) : Printable (checked r) := by
  unfold checked
  split <;> exact printable_line _

theorem printable_batch_iff {b : BatchResult} (texts : ∀ n ∈ b.dropped, ∃ s, n = .text s) :
    (∀ l ∈ batch b, Printable l) ↔
      ∀ r ∈ b.results, ∀ token ∈ r.toldToken?, token.Encodable := by
  have dropped : ∀ l ∈ b.dropped.map dropped, Printable l := by
    intro l member
    obtain ⟨n, inside, rfl⟩ := List.mem_map.1 member
    obtain ⟨s, rfl⟩ := texts n inside
    exact printable_append.2 ⟨printable_append.2 ⟨printable_line _, Atom.encodable_text s⟩,
      printable_line _⟩
  have summed : ∀ l ∈ summary b, Printable l := by
    intro l member
    obtain ⟨s, -, rfl⟩ := List.mem_map.1 member
    exact printable_line s
  simp only [batch, List.forall_mem_append, List.forall_mem_flatMap]
  rw [and_iff_left summed, and_iff_left dropped]
  exact forall₂_congr fun r _ => printable_routine_iff

end Command.Report

namespace Batch

variable {settings : LoaderSettings} {layer : Sql.DataLayer} {w v : World}

theorem text_of_dropObsolete {entry : CatalogEntry} {name : Atom}
    (run : (dropObsolete layer entry name).run w = (.ok true, v)) : ∃ s, name = .text s := by
  unfold dropObsolete at run
  obtain ⟨outcome, u, attempted, rest⟩ := run_bind_eq_ok.1 run
  have ran := run_attempt_eq_ok.1 attempted
  cases outcome with
  | ok sql =>
    obtain ⟨sql', u', writing, -⟩ := run_bind_eq_ok.1 ran
    rw [run_ofExcept] at writing
    obtain ⟨s, same, -⟩ := dropsRoutine_of_dropStatement (Prod.mk.inj writing).1
    exact ⟨s, Value.atom.inj same⟩
  | error e =>
    cases e with
    | error e =>
      simp only at rest
      split at rest
      · obtain ⟨-, u', -, last⟩ := run_bind_eq_ok.1 rest
        cases last
      · cases rest
    | defect d => cases rest

theorem text_of_obsolete {catalog : RoutineCatalog} {name gone : Atom}
    (run : (obsolete settings layer catalog name).run w = (.ok (some gone), v)) :
    ∃ s, gone = .text s := by
  unfold obsolete at run
  split at run
  · cases run
  · split at run
    · obtain ⟨-, u, -, last⟩ := run_bind_eq_ok.1 run
      cases last
    · obtain ⟨dropped, u, dropping, last⟩ := run_bind_eq_ok.1 run
      cases dropped with
      | true =>
        cases last
        exact text_of_dropObsolete dropping
      | false => cases last

theorem texts_of_dropAllObsolete {catalog : RoutineCatalog} {known : List String}
    {names : List Atom}
    (run : (dropAllObsolete settings layer catalog known).run w = (.ok names, v)) :
    ∀ n ∈ names, ∃ s, n = .text s := by
  unfold dropAllObsolete at run
  split at run
  · obtain ⟨stray, u, -, rest⟩ := run_bind_eq_ok.1 run
    obtain ⟨gone, u', steps, last⟩ := run_bind_eq_ok.1 rest
    cases last
    intro n member
    obtain ⟨gone', inside, rfl⟩ := List.mem_filterMap.1 member
    have each := (run_mapM_eq_ok.1 steps).forall₂ (R := fun _ r => ∀ n, r = some n → ∃ s, n = .text s)
      fun name r w v _ run n same => text_of_obsolete (same ▸ run)
    obtain ⟨name, -, told⟩ := exists_of_forall₂ each inside
    exact told n rfl
  · cases run
    simp

theorem texts_of_settle {only : Option (List Path)} {settled : Settled}
    (run : (settle settings layer only).run w = (.ok settled, v)) :
    ∀ n ∈ settled.batch.dropped, ∃ s, n = .text s := by
  obtain ⟨paths, u, -, rest⟩ := run_bind_eq_ok.1 run
  obtain ⟨rejected, u, -, rest⟩ := run_bind_eq_ok.1 rest
  obtain ⟨start, u, -, rest⟩ := run_bind_eq_ok.1 rest
  obtain ⟨handled, u, -, rest⟩ := run_bind_eq_ok.1 rest
  dsimp only at rest
  split at rest
  · obtain ⟨⟨dropped, store⟩, u, cleaning, last⟩ := run_bind_eq_ok.1 rest
    cases last
    obtain ⟨names, u, dropping, rest⟩ := run_bind_eq_ok.1 cleaning
    obtain ⟨kept, u, -, last⟩ := run_bind_eq_ok.1 rest
    cases last
    exact texts_of_dropAllObsolete dropping
  · cases rest
    simp

end Batch

theorem texts_of_loadAll {settings : LoaderSettings} {layer : Sql.DataLayer}
    {only : Option (List Path)} {batch : BatchResult} {w v : World}
    (run : (loadAll settings layer only).run w = (.ok batch, v)) :
    ∀ n ∈ batch.dropped, ∃ s, n = .text s := by
  obtain ⟨settled, u, settling, rest⟩ := run_bind_eq_ok.1 run
  obtain ⟨-, u, -, rest⟩ := run_bind_eq_ok.1 rest
  obtain ⟨-, u, -, last⟩ := run_bind_eq_ok.1 rest
  cases last
  exact Batch.texts_of_settle settling

end StoredRoutines
