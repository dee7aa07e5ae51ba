import StoredRoutines.Proofs.Assignments
import StoredRoutines.Proofs.Dropping
import StoredRoutines.Proofs.Isolation
import StoredRoutines.Proofs.Updates

/-!
Cleaning up behind all sources. A batch drops a routine only to make it again at once from its one
source, or because no source implies its name and the batch removes such routines. What it reports
as dropped are the routines of the second kind whose drop did not fail.
-/

namespace StoredRoutines

open Loader Outcomes TraceProperty

namespace Batch

variable {settings : LoaderSettings} {db : Sql.Database}

theorem defect_of_dropStatement {type name : Value} {e : Failure}
    (unwritten : dropStatement type name = .error e) : ∃ d, e = .defect d := by
  cases e with
  | defect d => exact ⟨d, rfl⟩
  | error e => exact (defective_dropStatement type name _ unwritten).elim

/-- What dropping an obsolete routine comes to: without a statement it fails, and else it tells
whether the statement did not fail. -/
theorem run_dropObsolete {entry : CatalogEntry} {name : Atom} {w v : World}
    {r : Except Failure Bool} (run : (dropObsolete db.layer entry name).run w = (r, v)) :
    (v.statements = w.statements ∧ ∃ d, dropStatement entry.routineType (.atom name) =
      .error (.defect d) ∧ r = .error (.defect d)) ∨
    ∃ sql, dropStatement entry.routineType (.atom name) = .ok sql ∧
      v.statements = w.statements ++ [sql] ∧
      (db.failure w.statements sql = none ∧ r = .ok true ∨
        db.failure w.statements sql ≠ none ∧ r ≠ .ok true) := by
  cases written : dropStatement entry.routineType (.atom name) with
  | error e =>
    obtain ⟨d, rfl⟩ := defect_of_dropStatement written
    have attempted : (dropRoutine db.layer entry.routineType (.atom name)).attempt.run w =
        (.ok (.error (.defect d)), w) := by
      rw [run_attempt_eq_ok, dropRoutine, written]
      rfl
    rw [dropObsolete, run_bind_of_ok attempted] at run
    cases run
    exact .inl ⟨rfl, d, rfl, rfl⟩
  | ok sql =>
    have once : (w.after [.statement sql]).statements = w.statements ++ [sql] :=
      World.statements_after _ _
    have ran : (dropRoutine db.layer entry.routineType (.atom name)).run w = _ :=
      run_dropRoutine_of_written written w
    rw [dropObsolete, run_bind_of_ok (run_attempt_eq_ok.2 ran)] at run
    refine .inr ⟨sql, rfl, ?_⟩
    cases failed : db.failure w.statements sql with
    | none =>
      rw [failed] at run
      obtain ⟨rfl, silent⟩ := run_logged run
      exact ⟨silent.trans once, .inl ⟨rfl, rfl⟩⟩
    | some e =>
      rw [failed] at run
      simp only [Option.elim_some] at run
      split at run
      · obtain ⟨rfl, silent⟩ := run_logged run
        exact ⟨silent.trans once, .inr ⟨by simp, by simp⟩⟩
      · cases run
        exact ⟨once, .inr ⟨by simp, by simp⟩⟩

/-- Handling an obsolete routine executes nothing, or its drop; it is reported as dropped if the
drop did not fail. -/
theorem run_obsolete {catalog : RoutineCatalog} {name : Atom} {w v : World}
    {r : Except Failure (Option Atom)}
    (run : (obsolete settings db.layer catalog name).run w = (r, v)) :
    (v.statements = w.statements ∧ (settings.dryRun = false → ∀ entry,
      catalog.lookup ⟨name⟩ = some entry →
        ∃ e, dropStatement entry.routineType (.atom name) = .error e ∧ r = .error e)) ∨
    ∃ entry sql, settings.dryRun = false ∧ catalog.lookup ⟨name⟩ = some entry ∧
      dropStatement entry.routineType (.atom name) = .ok sql ∧
      v.statements = w.statements ++ [sql] ∧
      (db.failure w.statements sql = none ∧ r = .ok (some name) ∨
        db.failure w.statements sql ≠ none ∧ ∀ gone, r = .ok gone → gone = none) := by
  unfold obsolete at run
  split at run
  · rename_i unknown
    cases run
    refine .inl ⟨rfl, fun _ entry found => ?_⟩
    rw [unknown] at found
    cases found
  · rename_i entry found
    split at run
    · rename_i dry
      refine .inl ⟨(run_logged run).2, fun active => ?_⟩
      rw [active] at dry
      cases dry
    · rename_i active
      cases dropping : (dropObsolete db.layer entry name).run w with
      | mk outcome u =>
        obtain ⟨rfl, rfl⟩ := Prod.mk.inj ((run_bind_pure _ _ w).symm.trans run)
        rw [dropping]
        rcases run_dropObsolete dropping with
          ⟨silent, d, unwritten, rfl⟩ | ⟨sql, written, once, told⟩
        · refine .inl ⟨silent, fun _ entry' found' => ?_⟩
          cases found.symm.trans found'
          exact ⟨_, unwritten, rfl⟩
        · refine .inr ⟨entry, sql, by simpa using active, found, written, once, ?_⟩
          rcases told with ⟨performed, rfl⟩ | ⟨failed, other⟩
          · exact .inl ⟨performed, rfl⟩
          · refine .inr ⟨failed, fun gone value => ?_⟩
            obtain ⟨flag, rfl, rfl⟩ := map_eq_ok.1 value
            cases flag with
            | true => exact absurd rfl other
            | false => rfl

/-- The batch removes the routines without a source, and none of its results names this one. -/
def Unknown (settings : LoaderSettings) (known : List String) : DropReason := fun _ _ name _ _ =>
  settings.dropsObsolete = true ∧ settings.dryRun = false ∧ isKnown known (.text name) = false

theorem mem_obsoleteNames {catalog : RoutineCatalog} {known : List String} {name : Atom} :
    name ∈ obsoleteNames catalog known ↔
      ⟨name⟩ ∈ Assoc.keys catalog ∧ isKnown known name = false := by
  rw [obsoleteNames, List.mem_filter, List.mem_map]
  constructor
  · rintro ⟨⟨⟨atom⟩, member, rfl⟩, unknown⟩
    exact ⟨member, by simpa using unknown⟩
  · rintro ⟨member, unknown⟩
    exact ⟨⟨_, member, rfl⟩, by simpa using unknown⟩

theorem nodup_obsoleteNames {catalog : RoutineCatalog} {known : List String}
    (apart : (Assoc.keys catalog).Pairwise fun i j => (i == j) = false) :
    (obsoleteNames catalog known).Nodup := by
  refine List.Nodup.filter _ (List.pairwise_map.2 (apart.imp ?_))
  rintro ⟨a⟩ ⟨b⟩ different rfl
  rw [BEq.rfl] at different
  cases different

theorem dropsFor_cleanUp (catalog : RoutineCatalog) (results : List RoutineResult)
    (store : RecordStore) : (cleanUp settings db.layer catalog results store).Traces
      (DropsFor (Unknown settings (results.map (·.name)))) := by
  have quiet : AllowsQuiet (DropsFor (Unknown settings (results.map (·.name)))) :=
    allowsQuiet_dropsFor fun _ _ _ _ _ _ reason => reason
  refine traces_cleanUp quiet store fun cleans name stray => ?_
  have traced : (obsolete settings db.layer catalog name).Traces db.Halting :=
    traces_obsolete Sql.Database.accepts_halting settings catalog name
  refine traces_dropsFor traced fun w v r before sql after n run executed drops => ?_
  rcases run_obsolete run with ⟨silent, -⟩ | ⟨entry, sql', active, -, written, once, -⟩
  · rw [silent] at executed
    simp at executed
  · obtain ⟨m, same, drops'⟩ := dropsRoutine_of_dropStatement written
    cases same
    have single := List.append_cancel_left (once.symm.trans executed)
    cases before with
    | nil =>
      cases single
      rw [drops.name_unique drops']
      exact ⟨cleans, active, (mem_obsoleteNames.1 stray).2⟩
    | cons s before =>
      have short := congrArg List.length single
      simp at short

theorem executes_opening (only : Option (List Path)) (w : World) :
    (opening settings db.layer only).Executes db questions w :=
  Executes.quiet_bind (traces_paths allowsQuiet_quiet settings only) fun _ _ _ =>
    Executes.quiet_bind (traces_rejectDuplicates allowsQuiet_quiet _) fun _ v _ =>
      (executes_prepare settings v).bind_quiet fun _ => allowsQuiet_quiet.pure _

theorem not_dropped_at_opening {only : Option (List Path)} {w : World} {es : List Event}
    {r : Except Failure (List Path × List RoutineResult × Start)}
    (opened : (opening settings db.layer only).run w = (r, w.after es)) :
    ∀ sql ∈ Event.statements es, ∀ name, ¬ DropsRoutine name sql := by
  intro sql member name
  have executes : (opening settings db.layer only).Executes db questions w :=
    executes_opening only w
  obtain ⟨asked, statements, keeps, -⟩ := executes
  rw [opened, World.statements_after] at statements
  rw [List.append_cancel_left statements] at member
  exact not_dropsRoutine_of_mem_questions (keeps.flatten.subset member)

theorem dropsFor_handling (paths : List Path) (start : Start) :
    ((sources (groups settings.extension paths)).mapM (routine settings db.layer start)).Traces
      (DropsFor (Remakes settings db paths start.table)) :=
  traces_mapM (dropsFor_composes (remakes_lasts _ _ _ _)) fun _ member => dropsFor_routine member

theorem not_dropsRoutine_of_remakes {paths : List Path} {table : ReplaceTable} {w : World}
    {r : Option Failure} {es : List Event}
    (remakes : DropsFor (Remakes settings db paths table) w r es)
    {name sql : String} (unimplied : ∀ p ∈ paths, routineName p settings.extension ≠ name)
    (member : sql ∈ Event.statements es) : ¬ DropsRoutine name sql := by
  intro drops
  obtain ⟨before, after, split⟩ := List.append_of_mem member
  obtain ⟨p, _, _, _, alone, -⟩ := remakes before sql after name split drops
  have implied : p ∈ implying settings.extension paths name := by simp [alone]
  exact unimplied p (mem_implying.1 implied).1 (mem_implying.1 implied).2

theorem isKnown_paths_eq_false_iff {extension : String} {paths : List Path} {n : String} :
    isKnown (paths.map (routineName · extension)) (.text n) = false ↔
      ∀ p ∈ paths, routineName p extension ≠ n := by
  rw [Bool.eq_false_iff, ne_eq, isKnown_iff]
  constructor
  · rintro unknown p member rfl
    exact unknown ⟨_, List.mem_map.2 ⟨p, member, rfl⟩, rfl⟩
  · rintro unimplied ⟨m, member, same⟩
    cases same
    obtain ⟨p, place, named⟩ := List.mem_map.1 member
    exact unimplied p place named

theorem obsolete_of_unknown {paths : List Path} {rejected handled : List RoutineResult}
    {start : Start} (rejecting : RejectedBy (duplicates (groups settings.extension paths)) rejected)
    {w v : World} (run : ((sources (groups settings.extension paths)).mapM
      (routine settings db.layer start)).run w = (.ok handled, v))
    {fs : FileSystem} {before after : List String} {name sql : String}
    (unknown : Unknown settings ((sortResults (rejected ++ handled)).map (·.name)) fs before name
      sql after) : Obsolete settings none paths name := by
  obtain ⟨cleans, active, unknown⟩ := unknown
  rw [isKnown_results rejecting (run_handle active run)] at unknown
  exact ⟨rfl, cleans, active, isKnown_paths_eq_false_iff.1 unknown⟩

/-- From the routines on, each drop makes a routine again or removes one without a source. -/
theorem dropsFor_proceeding {only : Option (List Path)} {paths : List Path}
    {rejected : List RoutineResult} {start : Start}
    (rejecting : RejectedBy (duplicates (groups settings.extension paths)) rejected) :
    (proceeding settings db.layer only paths rejected start).Traces
      (DropsFor (Reason settings db only paths start.table)) := by
  have quiet := allowsQuiet_dropsFor (reason_lasts settings db only paths start.table)
  have handles : ((sources (groups settings.extension paths)).mapM
      (routine settings db.layer start)).Traces
        (DropsFor (Reason settings db only paths start.table)) :=
    (dropsFor_handling paths start).mono fun _ _ _ h => h.mono fun _ _ _ _ _ => .inl
  refine handles.bind_of quiet.composes fun w handled u run => ?_
  cases only with
  | some only => exact quiet.bind (quiet.pure _) fun _ => quiet.pure _
  | none =>
    refine quiet.bind ?_ fun _ => quiet.pure _
    exact (dropsFor_cleanUp _ _ _).mono fun _ _ _ h => h.mono fun _ _ _ _ _ unknown =>
      .inr (obsolete_of_unknown rejecting run unknown)

theorem drops_of_steps (active : settings.dryRun = false) {catalog : RoutineCatalog} {w v : World}
    {names : List Atom} {gone : List (Option Atom)}
    (steps : Steps (obsolete settings db.layer catalog) w names gone v)
    (found : ∀ name ∈ names, catalog.lookup ⟨name⟩ ≠ none) :
    ∃ (texts dropped executed : List String), names = texts.map .text ∧
      gone.filterMap id = dropped.map .text ∧ dropped.Sublist texts ∧
      v.statements = w.statements ++ executed ∧
      ∀ n, n ∈ dropped ↔ db.Drops w.statements executed n := by
  induction steps with
  | nil w =>
    refine ⟨[], [], [], rfl, rfl, .slnil, (List.append_nil _).symm, fun n => ?_⟩
    exact ⟨fun member => (by cases member), fun drops => absurd drops Sql.Database.not_drops_nil⟩
  | cons head tail ih =>
    obtain ⟨texts, dropped, executed, rfl, same, sub, statements, told⟩ :=
      ih fun name member => found name (List.mem_cons_of_mem _ member)
    -- A name either ends the batch before its statement or executes just this one.
    rcases run_obsolete head with ⟨-, fails⟩ | ⟨entry, sql, -, -, written, once, told'⟩
    · obtain ⟨entry, there⟩ := Option.ne_none_iff_exists'.1 (found _ List.mem_cons_self)
      obtain ⟨e, -, failed⟩ := fails active entry there
      cases failed
    · obtain ⟨n, same', drops⟩ := dropsRoutine_of_dropStatement written
      cases same'
      have whole := statements.trans (by rw [once, List.append_assoc])
      have drops_iff (m : String) : DropsRoutine m sql ↔ m = n :=
        ⟨fun drops' => drops'.name_unique drops, fun same => same ▸ drops⟩
      rw [once] at told
      rcases told' with ⟨performed, gone⟩ | ⟨failed, gone⟩
      · cases gone
        refine ⟨n :: texts, n :: dropped, [sql] ++ executed, rfl, ?_, sub.cons_cons n, whole,
          fun m => ?_⟩
        · rw [List.map_cons, ← same]
          rfl
        · rw [Sql.Database.drops_append, Sql.Database.drops_singleton, drops_iff, List.mem_cons,
            told, and_iff_left performed]
      · cases gone _ rfl
        refine ⟨n :: texts, dropped, [sql] ++ executed, rfl, ?_, sub.cons n, whole, fun m => ?_⟩
        · rw [← same]
          rfl
        · rw [Sql.Database.drops_append, Sql.Database.drops_singleton, told]
          simp [failed]

/-- What a batch reports as dropped when it cleans up: in increasing order, just the routines whose
drop did not fail. -/
theorem dropped_of_cleanUp {catalog : RoutineCatalog}
    (apart : (Assoc.keys catalog).Pairwise fun i j => (i == j) = false)
    {results : List RoutineResult} {store kept : RecordStore} {dropped : List Atom} {w v : World}
    (run : (cleanUp settings db.layer catalog results store).run w = (.ok (dropped, kept), v)) :
    ∃ (names executed : List String), dropped = names.map .text ∧ names.Pairwise (· < ·) ∧
      v.statements = w.statements ++ executed ∧
      ∀ n, n ∈ names ↔ db.Drops w.statements executed n := by
  cases dry : settings.dryRun with
  | true =>
    obtain ⟨es, rfl, silent, -⟩ := (quiet_cleanUp_of_dry dry catalog results store).of_run run
    obtain ⟨_, _, dropping, rest⟩ := run_bind_eq_ok.1 run
    obtain ⟨_, _, -, last⟩ := run_bind_eq_ok.1 rest
    cases last
    refine ⟨[], [], dropped_of_dry dry dropping, .nil, ?_, by simp [Sql.Database.not_drops_nil]⟩
    rw [World.statements_after, silent]
  | false =>
    obtain ⟨_, u, dropping, rest⟩ := run_bind_eq_ok.1 run
    obtain ⟨pruned, _, pruning, last⟩ := run_bind_eq_ok.1 rest
    cases last
    obtain ⟨es, rfl, silent, -⟩ := (traces_prune allowsQuiet_quiet _ _).of_run pruning
    rw [World.statements_after, silent, List.append_nil]
    unfold dropAllObsolete at dropping
    split at dropping
    · obtain ⟨names, _, ordering, rest⟩ := run_bind_eq_ok.1 dropping
      obtain ⟨gone, _, mapped, last⟩ := run_bind_eq_ok.1 rest
      obtain ⟨sorted, rfl⟩ := Prod.mk.inj ((run_ofExcept _ _).symm.trans ordering)
      cases last
      obtain ⟨texts, dropped, executed, rfl, same, sub, statements, told⟩ :=
        drops_of_steps dry (run_mapM_eq_ok.1 mapped) fun name member => by
          have stray := mem_obsoleteNames.1 ((Atom.mem_of_inOrder sorted).1 member)
          exact Option.isSome_iff_ne_none.1 (Assoc.isSome_lookup_of_mem stray.1)
      have increasing := Atom.increasing_of_inOrder (nodup_obsoleteNames apart) sorted
      exact ⟨dropped, executed, same, increasing.sublist sub, statements, told⟩
    · cases dropping
      exact ⟨[], [], rfl, .nil, (List.append_nil _).symm, by simp [Sql.Database.not_drops_nil]⟩

/-- What a batch knows of the routines and of the columns is what its two questions are answered. -/
theorem answers_of_opening {only : Option (List Path)} {paths : List Path}
    {rejected : List RoutineResult} {start : Start} {w u : World}
    (opened : (opening settings db.layer only).run w = (.ok (paths, rejected, start), u)) :
    RoutineCatalog.ofRows (db.rows w.statements RoutineCatalog.query) = .ok start.catalog ∧
      ReplaceTable.ofFiles w.files settings.constants
        (db.rows (w.statements ++ [RoutineCatalog.query]) ColumnTypes.query) = .ok start.table := by
  obtain ⟨_, _, finding, rejecting, preparing⟩ := steps_of_opening opened
  obtain ⟨es, rfl, silent, -⟩ := (traces_paths allowsQuiet_quiet settings only).of_run finding
  obtain ⟨fs, rfl, silent', -⟩ := (traces_rejectDuplicates allowsQuiet_quiet _).of_run rejecting
  have answers := (run_prepare_eq_ok preparing).2
  rwa [World.statements_after, silent', List.append_nil, World.statements_after, silent,
    List.append_nil] at answers

theorem catalog_of_opening {only : Option (List Path)} {paths : List Path}
    {rejected : List RoutineResult} {start : Start} {w u : World}
    (opened : (opening settings db.layer only).run w = (.ok (paths, rejected, start), u)) :
    RoutineCatalog.ofRows (db.rows w.statements RoutineCatalog.query) = .ok start.catalog :=
  (answers_of_opening opened).1

theorem apart_keys_of_opening {only : Option (List Path)} {paths : List Path}
    {rejected : List RoutineResult} {start : Start} {w u : World}
    (opened : (opening settings db.layer only).run w = (.ok (paths, rejected, start), u)) :
    (Assoc.keys start.catalog).Pairwise fun i j => (i == j) = false := by
  obtain ⟨pairs, -, made⟩ := map_eq_ok.1 (catalog_of_opening opened)
  rw [← made]
  exact Assoc.apart_keys_ofPairs pairs

theorem statements_of_settled {only : Option (List Path)} {w u v : World}
    {r : Except Failure Settled} {result : Except Failure BatchResult}
    (settling : (settle settings db.layer only).run w = (r, u))
    (run : (loadAll settings db.layer only).run w = (result, v)) : v.statements = u.statements := by
  cases r with
  | error e =>
    have failed : (loadAll settings db.layer only).run w = _ := run_bind_of_error settling
    cases run.symm.trans failed
    rfl
  | ok settled =>
    obtain ⟨es, events, silent, -⟩ := silent_finishing settings settled u
    have rest : (loadAll settings db.layer only).run w = _ := run_bind_of_ok settling
    rw [← rest, run] at events
    rw [World.statements, events, Event.statements_append, silent, List.append_nil]
    rfl

/-- A batch over all sources reports as dropped just the obsolete routines whose drop did not fail. -/
theorem reported_of_proceeding {paths : List Path} {rejected : List RoutineResult} {start : Start}
    {settled : Settled} {es fs : List Event} {w v : World}
    (opened : (opening settings db.layer none).run w = (.ok (paths, rejected, start), w.after es))
    (run : (proceeding settings db.layer none paths rejected start).run (w.after es) =
      (.ok settled, v)) (added : v = (w.after es).after fs) :
    ∃ names : List String, settled.batch.dropped = names.map .text ∧ names.Pairwise (· < ·) ∧
      ∀ name, name ∈ names ↔ Obsolete settings none paths name ∧
        db.Drops w.statements (Event.statements (es ++ fs)) name := by
  have rejecting := (run_opening_eq_ok opened).2.1
  obtain ⟨handled, u, handling, ended⟩ := run_bind_eq_ok.1 run
  obtain ⟨⟨dropped, store⟩, u', cleaning, last⟩ := run_bind_eq_ok.1 ended
  obtain ⟨names, executed, same, increasing, statements, told⟩ :=
    dropped_of_cleanUp (apart_keys_of_opening opened) cleaning
  obtain ⟨gs, rfl, remakes⟩ := (dropsFor_handling paths start).of_run handling
  obtain ⟨hs, step, unknown⟩ := (dropsFor_cleanUp _ _ _).of_run cleaning
  cases last
  -- The trace is that of opening, then that of handling the sources, then that of cleaning up.
  have parts : fs = gs ++ hs := by
    rw [step, World.after_after] at added
    exact (World.after_injective added).symm
  subst parts
  have cleaned : executed = Event.statements hs := by
    rw [step] at statements
    simpa only [World.statements_after, List.append_cancel_left_eq] using statements.symm
  subst cleaned
  refine ⟨names, same, increasing, fun name => ?_⟩
  have split : db.Drops w.statements (Event.statements (es ++ (gs ++ hs))) name ↔
      db.Drops w.statements (Event.statements es) name ∨
      db.Drops (w.after es).statements (Event.statements gs) name ∨ name ∈ names := by
    simp only [told, Event.statements_append, Sql.Database.drops_append, World.statements_after]
  rw [split]
  constructor
  · intro member
    obtain ⟨before, sql, after, place, drops, -⟩ := (told name).1 member
    have reason := unknown _ _ _ _ place drops
    exact ⟨obsolete_of_unknown rejecting handling reason, .inr (.inr member)⟩
  · rintro ⟨obsolete, ⟨_, _, _, place, drops, -⟩ | ⟨_, _, _, place, drops, -⟩ | member⟩
    · exact absurd drops (not_dropped_at_opening opened _ (by simp [place]) name)
    · exact absurd drops
        (not_dropsRoutine_of_remakes remakes obsolete.unimplied (by simp [place]))
    · exact member

/-- All drops of a batch that opened have their reasons, and it reports just the obsolete routines
whose drop did not fail. -/
theorem drops_of_proceeding {only : Option (List Path)} {paths : List Path}
    {rejected : List RoutineResult} {start : Start} {w u v : World} {r : Except Failure Settled}
    (opened : (opening settings db.layer only).run w = (.ok (paths, rejected, start), u))
    (run : (proceeding settings db.layer only paths rejected start).run u = (r, v)) :
    ∃ es, v = w.after es ∧
      DropsFor (Reason settings db only paths start.table) w (failure? r) es ∧
      ∀ settled, r = .ok settled → ∃ names : List String,
        settled.batch.dropped = names.map .text ∧ names.Pairwise (· < ·) ∧
        ∀ name, name ∈ names ↔ Obsolete settings only paths name ∧
          db.Drops w.statements (Event.statements es) name := by
  obtain ⟨es, rfl, -⟩ :=
    (traces_opening Sql.Database.accepts_halting settings only).of_run opened
  obtain ⟨fs, added, reasons⟩ :=
    (dropsFor_proceeding (run_opening_eq_ok opened).2.1).of_run run
  refine ⟨es ++ fs, added.trans (World.after_after _ _ _), ?_, ?_⟩
  · exact (dropsFor_composes (reason_lasts _ _ _ _ _)).append
      (dropsFor_of_none (not_dropped_at_opening opened)) reasons
  · rintro settled rfl
    cases only with
    | some only =>
      obtain ⟨handled, u, handling, ended⟩ := run_bind_eq_ok.1 run
      cases ended
      exact ⟨[], rfl, .nil, fun name => ⟨fun member => (by cases member),
        fun obsolete => (by cases obsolete.1.all)⟩⟩
    | none => exact reported_of_proceeding opened run added

/-- What the statements executed by a batch and its result say about drops. -/
structure DropsSafely (settings : LoaderSettings) (db : Sql.Database) (only : Option (List Path))
    (w : World) (result : Except Failure BatchResult) (executed : List String) : Prop where
  /-- Each drop makes a routine again or removes one without a source. -/
  reasons : ∀ before sql after name, executed = before ++ sql :: after → DropsRoutine name sql →
    ∃ paths rejected start u, (opening settings db.layer only).run w =
        (.ok (paths, rejected, start), u) ∧
      Reason settings db only paths start.table w.files (w.statements ++ before) name sql after
  /-- The batch reports, in increasing order, the routines without a source whose drop did not
  fail. -/
  reported : ∀ batch, result = .ok batch → ∃ paths rejected start u,
    (opening settings db.layer only).run w = (.ok (paths, rejected, start), u) ∧
    ∃ names : List String, batch.dropped = names.map .text ∧ names.Pairwise (· < ·) ∧
      ∀ name, name ∈ names ↔
        Obsolete settings only paths name ∧ db.Drops w.statements executed name

end Batch

/-- A batch drops a routine only to make it again from its one source, or because it removes the
routines without a source and no source implies the name. What it reports as dropped are the
routines of the second kind whose drop did not fail. -/
theorem loadAll_drops_safely {settings : LoaderSettings} {db : Sql.Database}
    {only : Option (List Path)} {w v : World} {result : Except Failure BatchResult}
    (run : (loadAll settings db.layer only).run w = (result, v)) :
    ∃ executed, v.statements = w.statements ++ executed ∧
      Batch.DropsSafely settings db only w result executed := by
  cases opened : (Batch.opening settings db.layer only).run w with
  | mk outcome u =>
    cases outcome with
    | error e =>
      obtain ⟨es, rfl, -⟩ :=
        (Batch.traces_opening Sql.Database.accepts_halting settings only).of_run opened
      have failed : (loadAll settings db.layer only).run w = _ :=
        run_bind_of_error (Batch.run_settle_of_unopened opened)
      cases run.symm.trans failed
      refine ⟨_, World.statements_after _ _, ?_, fun batch ended => (by cases ended)⟩
      have none := Batch.not_dropped_at_opening opened
      intro before sql after name split drops
      exact absurd drops (none sql (by simp [split]) name)
    | ok opening =>
      obtain ⟨paths, rejected, start⟩ := opening
      cases proceeded : (Batch.proceeding settings db.layer only paths rejected start).run u with
      | mk r t =>
        obtain ⟨es, rfl, reasons, reports⟩ := Batch.drops_of_proceeding opened proceeded
        have settling := Batch.run_settle_of_opening opened proceeded
        have statements := Batch.statements_of_settled settling run
        rw [World.statements_after] at statements
        refine ⟨_, statements, ?_, fun batch ended => ?_⟩
        · exact fun before sql after name split drops =>
            ⟨paths, rejected, start, u, opened, reasons _ _ _ _ split drops⟩
        · subst ended
          obtain ⟨settled, _, settled_, rfl⟩ := Batch.settle_of_run run
          cases settling.symm.trans settled_
          exact ⟨paths, rejected, start, u, opened, reports _ rfl⟩

namespace Sample

variable {first : List Sql.Row} {catalog : RoutineCatalog} {entry : CatalogEntry} {drop : String}

theorem prune_store_yields (u : World) : (Batch.prune store ["a"]).Yields u store := by
  have ordered : Atom.inOrder ((Assoc.keys store).filter fun n => !Batch.isKnown ["a"] n) =
      .ok [] := Atom.inOrder_nil
  refine (Yields.ofExcept ordered u).bind fun es => ?_
  exact (Yields.pure () _).bind fun fs => Yields.pure _ _

theorem run_cleanUp_stray (stray : Batch.obsoleteNames catalog ["a"] = [.text "b"])
    (found : catalog.lookup ⟨.text "b"⟩ = some entry)
    (written : dropStatement entry.routineType (.text "b") = .ok drop) (u : World) :
    ∃ es, (Batch.cleanUp settings (answering first).layer catalog [loaded] store).run u =
      (.ok ([.text "b"], store), u.after es) := by
  obtain ⟨es, removes⟩ : ∃ es, (Batch.obsolete settings (answering first).layer catalog
      (.text "b")).run u = (.ok (some (.text "b")), u.after es) := by
    cases run : (Batch.obsolete settings (answering first).layer catalog (.text "b")).run u with
    | mk r v =>
      obtain ⟨es, rfl, -⟩ :=
        (Batch.traces_obsolete Sql.Database.accepts_halting settings catalog _).of_run run
      rcases Batch.run_obsolete run with ⟨-, fails⟩ | ⟨_, _, -, -, -, -, ⟨-, rfl⟩ | ⟨failed, -⟩⟩
      · obtain ⟨e, unwritten, -⟩ := fails rfl entry found
        cases written.symm.trans unwritten
      · exact ⟨es, rfl⟩
      · exact absurd rfl failed
  obtain ⟨fs, pruned, -⟩ := prune_store_yields (u.after es)
  have ordered : Atom.inOrder (Batch.obsoleteNames catalog ["a"]) = .ok [.text "b"] := by
    simpa [stray] using Atom.inOrder_texts ["b"]
  have drops : (Batch.dropAllObsolete settings (answering first).layer catalog ["a"]).run u =
      (.ok [.text "b"], u.after es) := by
    refine (run_bind_of_ok ((run_ofExcept _ u).trans (by rw [ordered]))).trans ?_
    exact run_bind_of_ok (run_mapM_eq_ok.2 (.cons removes (.nil _)))
  refine ⟨es ++ fs, (run_bind_of_ok drops).trans ((run_bind_of_ok pruned).trans ?_)⟩
  rw [World.after_after]
  rfl

/-- A batch over the sample directory that finds a routine without a source removes it. -/
theorem run_loadAll_stray (reported : RoutineCatalog.ofRows first = .ok catalog)
    (unknown : catalog.lookup ⟨.text "a"⟩ = none)
    (stray : Batch.obsoleteNames catalog ["a"] = [.text "b"])
    (found : catalog.lookup ⟨.text "b"⟩ = some entry)
    (written : dropStatement entry.routineType (.text "b") = .ok drop) :
    ∃ v, (loadAll settings (answering first).layer none).run (world text) =
      (.ok ⟨[loaded], [.text "b"], false⟩, v) := by
  obtain ⟨t, opened, files⟩ := run_opening reported
  obtain ⟨u, made, files'⟩ := run_routine_answering unknown files
  obtain ⟨es, cleaned⟩ := run_cleanUp_stray stray found written u
  have handling : ((Batch.sources (Batch.groups settings.extension [path])).mapM
      (Batch.routine settings (answering first).layer ⟨[], catalog, []⟩)).run t =
        (.ok [loaded], u) := by
    rw [sources_path]
    exact run_mapM_eq_ok.2 (.cons made (.nil u))
  have results : Batch.sortResults ([] ++ [loaded]) = [loaded] := List.mergeSort_singleton ..
  have settled : (Batch.settle settings (answering first).layer none).run (world text) =
      (.ok ⟨⟨[loaded], [.text "b"], false⟩, store⟩, u.after es) := by
    rw [Batch.settle_eq, run_bind_of_ok opened, Batch.proceeding, run_bind_of_ok handling, results]
    exact run_bind_of_ok cleaned
  have finished : (Batch.finish settings store).run (u.after es) = _ :=
    run_write toValue_store complete_store files'
  exact ⟨_, (run_bind_of_ok settled).trans (run_bind_of_ok finished)⟩

end Sample

open Sample in
/-- The batch over the sample directory reports the routine that it removed. -/
theorem sample_drops_stray : ∃ v executed,
    (loadAll settings (answering [rowOf "b"]).layer none).run (world text) =
      (.ok ⟨[loaded], [.text "b"], false⟩, v) ∧
    v.statements = executed ∧
    Batch.DropsSafely settings (answering [rowOf "b"]) none (world text)
      (.ok ⟨[loaded], [.text "b"], false⟩) executed := by
  have unknown : (catalogOf "b").lookup ⟨.text "a"⟩ = none := by decide +kernel
  have stray : Batch.obsoleteNames (catalogOf "b") ["a"] = [.text "b"] := by decide +kernel
  have found : (catalogOf "b").lookup ⟨.text "b"⟩ = some (entryOf "b") := by decide +kernel
  have written : dropStatement (entryOf "b").routineType (.text "b") =
      .ok "drop procedure if exists `b`" := by decide +kernel
  obtain ⟨v, run⟩ := run_loadAll_stray (ofRows_rowOf "b") unknown stray found written
  obtain ⟨executed, statements, safe⟩ := loadAll_drops_safely run
  exact ⟨v, executed, run, statements, safe⟩

end StoredRoutines
