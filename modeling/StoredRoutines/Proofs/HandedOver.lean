import StoredRoutines.Proofs.Grouping
import StoredRoutines.Proofs.LoaderTraces
import StoredRoutines.Proofs.Preparing
import StoredRoutines.Proofs.Results
import StoredRoutines.Proofs.StoreNames

/-!
The records that a batch hands over to be written. A routine that has one source and did not fail
hands over the record of its result; all other records stay as the store held them, except that a
batch over all sources forgets the routines without a source.
-/

namespace StoredRoutines

open Loader Outcomes TraceProperty

namespace Batch

/-- The result renews the record of its routine: it is no failure, and no other path of the batch
implies the same name. -/
def Renews (extension : String) (paths : List Path) (r : RoutineResult) : Prop :=
  r.succeeded = true ∧ implying extension paths r.name = [r.path]

/-- The records handed over by a batch over some paths, given those that the store held before. -/
structure HandedOver (settings : LoaderSettings) (only : Option (List Path)) (paths : List Path)
    (previous handed : RecordStore) (results : List RoutineResult) : Prop where
  /-- Each path has its one result. -/
  covered : (results.map (·.path)).Perm paths
  named : ∀ r ∈ results, r.name = routineName r.path settings.extension
  distinct : (Assoc.keys handed).Nodup
  renewed : ∀ r ∈ results, Renews settings.extension paths r →
    ∃ record, r.outcome.record? = some record ∧ handed.lookup (.text r.name) = some record
  kept : ∀ name, (∀ r ∈ results, Renews settings.extension paths r → name ≠ .text r.name) →
    (only = none → ∃ p ∈ paths, name = .text (routineName p settings.extension)) →
    handed.lookup name = previous.lookup name
  forgotten : only = none → ∀ name,
    (∀ p ∈ paths, name ≠ .text (routineName p settings.extension)) → handed.lookup name = none

theorem nodup_keys_keep {store : RecordStore} (distinct : (Assoc.keys store).Nodup)
    (r : RoutineResult) : (Assoc.keys (keep store r)).Nodup := by
  unfold keep
  split
  · exact Assoc.nodup_keys_put distinct _ _
  · exact distinct

theorem nodup_keys_foldl_keep {store : RecordStore} (distinct : (Assoc.keys store).Nodup)
    (handled : List RoutineResult) : (Assoc.keys (handled.foldl keep store)).Nodup := by
  induction handled generalizing store with
  | nil => exact distinct
  | cons r rest ih => exact ih (nodup_keys_keep distinct r)

theorem lookup_keep {store : RecordStore} {r : RoutineResult} {name : Atom}
    (h : name = .text r.name → r.outcome.record? = none) :
    (keep store r).lookup name = store.lookup name := by
  unfold keep
  split
  · rename_i record found
    refine Assoc.lookup_put_of_ne ?_ _ _
    intro same
    rw [h same] at found
    cases found
  · rfl

theorem lookup_foldl_keep {store : RecordStore} {handled : List RoutineResult} {name : Atom}
    (h : ∀ r ∈ handled, name = .text r.name → r.outcome.record? = none) :
    (handled.foldl keep store).lookup name = store.lookup name := by
  induction handled generalizing store with
  | nil => rfl
  | cons r rest ih =>
    rw [List.foldl_cons, ih (fun s member => h s (List.mem_cons_of_mem _ member))]
    exact lookup_keep (h r (by simp))

/-- Among results of distinct routines, the record of one is the one that its routine gets. -/
theorem lookup_foldl_keep_of_mem {store : RecordStore} {handled : List RoutineResult}
    (distinct : (handled.map (·.name)).Nodup) {r : RoutineResult} (member : r ∈ handled)
    {record : BuildRecord} (found : r.outcome.record? = some record) :
    (handled.foldl keep store).lookup (.text r.name) = some record := by
  induction handled generalizing store with
  | nil => cases member
  | cons s rest ih =>
    rw [List.map_cons, List.nodup_cons] at distinct
    rw [List.foldl_cons]
    rcases List.mem_cons.1 member with rfl | later
    · rw [lookup_foldl_keep]
      · simp only [keep, found]
        exact Assoc.lookup_put_self _ _ _
      · intro t place same
        have other : t.name = r.name := by simpa using same.symm
        exact absurd (List.mem_map.2 ⟨t, place, other⟩) distinct.1
    · exact ih distinct.2 later

def RejectedBy (duplicates : List (String × List Path × Path)) (rejected : List RoutineResult) :
    Prop :=
  List.Forall₂ (fun d r => r = ⟨d.2.2, d.1, .failed none false (duplicateError d.1 d.2.1 d.2.2)⟩)
    duplicates rejected

/-- Each source of its own has a result, which failed or has a record. -/
def HandledBy (extension : String) (sources : List (String × Path))
    (handled : List RoutineResult) : Prop :=
  List.Forall₂ (fun s r => r.IsOf extension s.2 ∧
    ((∃ reason remade e, r.outcome = .failed reason remade e) ∨
      ∃ kept, r.outcome.record? = some kept)) sources handled

theorem HandledBy.isOf {extension : String} {sources : List (String × Path)}
    {handled : List RoutineResult} (h : HandledBy extension sources handled) :
    List.Forall₂ (fun s r => r.IsOf extension s.2) sources handled :=
  h.imp fun _ _ related => related.1

theorem run_rejectDuplicates {groups : List (String × List Path)} {w v : World}
    {rejected : List RoutineResult}
    (run : (rejectDuplicates groups).run w = (.ok rejected, v)) :
    RejectedBy (duplicates groups) rejected := by
  refine (run_mapM_eq_ok.1 run).forall₂ ?_
  intro d r w v _ run
  exact (RoutineResult.run_failed run).1

theorem run_handle {settings : LoaderSettings} (active : settings.dryRun = false)
    {layer : Sql.DataLayer} {start : Start} {sources : List (String × Path)} {w v : World}
    {handled : List RoutineResult}
    (run : (sources.mapM (routine settings layer start)).run w = (.ok handled, v)) :
    HandledBy settings.extension sources handled := by
  refine (run_mapM_eq_ok.1 run).forall₂ ?_
  intro s r w v _ run
  simp only [routine, active] at run
  exact run_compile run

section

variable {extension : String} {paths : List Path} {rejected handled : List RoutineResult}

theorem fails_of_mem_rejected (rejecting : RejectedBy (duplicates (groups extension paths)) rejected)
    {r : RoutineResult} (member : r ∈ rejected) :
    r.succeeded = false ∧ r.name = routineName r.path extension := by
  obtain ⟨⟨name, group, p⟩, place, rfl⟩ := exists_of_forall₂ rejecting member
  obtain ⟨rfl, inside, -⟩ := mem_duplicates.1 place
  exact ⟨rfl, (mem_implying.1 inside).2.symm⟩

theorem alone_of_mem_handled (handling : HandledBy extension (sources (groups extension paths))
    handled) {r : RoutineResult} (member : r ∈ handled) :
    r.name = routineName r.path extension ∧ implying extension paths r.name = [r.path] ∧
      r.succeeded = r.outcome.record?.isSome := by
  obtain ⟨⟨name, p⟩, place, ⟨path_eq, name_eq⟩, ending⟩ := exists_of_forall₂ handling member
  have named := name_of_mem_sources place
  refine ⟨by rw [name_eq, path_eq], ?_, ?_⟩
  · rw [name_eq, named, path_eq]
    exact mem_sources.1 place
  · rw [RoutineResult.succeeded]
    rcases ending with ⟨reason, remade, e, failed⟩ | ⟨record, found⟩
    · rw [failed]
      rfl
    · cases outcome : r.outcome <;> rw [outcome] at found <;> first | rfl | cases found

theorem nodup_names_handled (handling : HandledBy extension (sources (groups extension paths))
    handled) : (handled.map (·.name)).Nodup := by
  have implied : (sources (groups extension paths)).map (fun s => routineName s.2 extension) =
      handled.map (·.name) := by
    refine map_eq_of_forall₂ handling (fun s r related => ?_)
    rw [related.1.name_eq]
  have named : (sources (groups extension paths)).map (fun s => routineName s.2 extension) =
      (sources (groups extension paths)).map (·.1) :=
    List.map_congr_left (fun s place => name_of_mem_sources place)
  rw [← implied, named]
  exact nodup_names_sources

theorem paths_of_results (rejecting : RejectedBy (duplicates (groups extension paths)) rejected)
    (handling : List.Forall₂ (fun s r => r.IsOf extension s.2)
      (sources (groups extension paths)) handled) :
    ((sortResults (rejected ++ handled)).map (·.path)).Perm paths := by
  have sorted := (List.mergeSort_perm (rejected ++ handled) fun a b =>
    decide (a.path.toText ≤ b.path.toText)).map RoutineResult.path
  have first : (duplicates (groups extension paths)).map (·.2.2) = rejected.map (·.path) :=
    map_eq_of_forall₂ rejecting (fun d r related => by rw [related])
  have second : (sources (groups extension paths)).map (·.2) = handled.map (·.path) :=
    map_eq_of_forall₂ handling (fun s r related => by rw [related.path_eq])
  rw [List.map_append, ← first, ← second] at sorted
  exact sorted.trans rejected_handled_perm

theorem mem_results {r : RoutineResult} :
    r ∈ sortResults (rejected ++ handled) ↔ r ∈ rejected ∨ r ∈ handled := by
  rw [sortResults, List.mem_mergeSort, List.mem_append]

end

theorem handedOver_of_handled {settings : LoaderSettings} {paths : List Path}
    {previous : RecordStore} (names : (Assoc.keys previous).Nodup)
    {rejected handled : List RoutineResult}
    (rejecting : RejectedBy (duplicates (groups settings.extension paths)) rejected)
    (handling : HandledBy settings.extension (sources (groups settings.extension paths)) handled)
    (only : List Path) :
    HandedOver settings (some only) paths previous (handled.foldl keep previous)
      (sortResults (rejected ++ handled)) where
  covered := paths_of_results rejecting handling.isOf
  named := by
    intro r member
    rcases mem_results.1 member with first | second
    · exact (fails_of_mem_rejected rejecting first).2
    · exact (alone_of_mem_handled handling second).1
  distinct := nodup_keys_foldl_keep names handled
  renewed := by
    intro r member ⟨fine, alone⟩
    rcases mem_results.1 member with first | second
    · rw [(fails_of_mem_rejected rejecting first).1] at fine
      cases fine
    · rw [(alone_of_mem_handled handling second).2.2] at fine
      obtain ⟨record, found⟩ := Option.isSome_iff_exists.1 fine
      exact ⟨record, found,
        lookup_foldl_keep_of_mem (nodup_names_handled handling) second found⟩
  kept := by
    intro name others _
    refine lookup_foldl_keep (fun r member same => ?_)
    obtain ⟨-, alone, fine⟩ := alone_of_mem_handled handling member
    -- Only a result with a record puts anything into the store, and such a result renews its own.
    cases found : r.outcome.record? with
    | none => rfl
    | some record =>
      rw [found] at fine
      exact absurd same (others r (mem_results.2 (.inr member)) ⟨fine, alone⟩)
  forgotten := by
    intro all
    cases all

theorem isKnown_iff {known : List String} {name : Atom} :
    isKnown known name = true ↔ ∃ n ∈ known, name = .text n := by
  simp only [isKnown, List.contains_iff_mem, List.mem_map]
  constructor
  · rintro ⟨n, member, rfl⟩
    exact ⟨n, member, rfl⟩
  · rintro ⟨n, member, rfl⟩
    exact ⟨n, member, rfl⟩

/-- Removing the records without a source makes the records of a batch over some sources those of a
batch over all of them. -/
theorem HandedOver.pruned {settings : LoaderSettings} {only paths : List Path}
    {previous handed : RecordStore} {results : List RoutineResult}
    (h : HandedOver settings (some only) paths previous handed results) :
    HandedOver settings none paths previous
      (handed.filter fun e => isKnown (results.map (·.name)) e.1) results where
  covered := h.covered
  named := h.named
  distinct := Assoc.nodup_keys_filter h.distinct _
  renewed := by
    intro r member renews
    obtain ⟨record, found, place⟩ := h.renewed r member renews
    have known : isKnown (results.map (·.name)) (.text r.name) = true :=
      isKnown_iff.2 ⟨r.name, List.mem_map.2 ⟨r, member, rfl⟩, rfl⟩
    refine ⟨record, found, ?_⟩
    rw [Assoc.lookup_filter (isKnown (results.map (·.name))), if_pos known]
    exact place
  kept := by
    intro name others implied
    obtain ⟨p, member, rfl⟩ := implied rfl
    obtain ⟨r, place, rfl⟩ := List.mem_map.1 (h.covered.mem_iff.2 member)
    have known : isKnown (results.map (·.name))
        (.text (routineName r.path settings.extension)) = true :=
      isKnown_iff.2 ⟨r.name, List.mem_map.2 ⟨r, place, rfl⟩, by rw [h.named r place]⟩
    rw [Assoc.lookup_filter (isKnown (results.map (·.name))), if_pos known]
    exact h.kept _ others (by simp)
  forgotten := by
    intro _ name absent
    have unknown : ¬ isKnown (results.map (·.name)) name = true := by
      intro known
      obtain ⟨n, place, rfl⟩ := isKnown_iff.1 known
      obtain ⟨r, member, rfl⟩ := List.mem_map.1 place
      have implied := h.covered.mem_iff.1 (List.mem_map.2 ⟨r, member, rfl⟩)
      exact absent _ implied (by rw [h.named r member])
    rw [Assoc.lookup_filter (isKnown (results.map (·.name))), if_neg unknown]

theorem run_cleanUp {settings : LoaderSettings} {layer : Sql.DataLayer}
    {catalog : RoutineCatalog} {results : List RoutineResult} {store kept : RecordStore}
    {dropped : List Atom} {w v : World}
    (run : (cleanUp settings layer catalog results store).run w = (.ok (dropped, kept), v)) :
    kept = store.filter fun e => isKnown (results.map (·.name)) e.1 := by
  obtain ⟨names, u, _, rest⟩ := run_bind_eq_ok.1 run
  obtain ⟨pruned, u', pruning, last⟩ := run_bind_eq_ok.1 rest
  cases last
  obtain ⟨gone, u'', _, rest⟩ := run_bind_eq_ok.1 pruning
  obtain ⟨_, _, _, last⟩ := run_bind_eq_ok.1 rest
  cases last
  rfl

/-- What remains of a store: a batch over all sources removes the records without a source. -/
def remaining (only : Option (List Path)) (known : List String) (store : RecordStore) :
    RecordStore :=
  match only with
  | some _ => store
  | none => store.filter fun e => isKnown known e.1

/-- The parts of a run over all sources: it finds paths, rejects those of one name, prepares itself
after a silent trace, handles the other sources and keeps their records. -/
structure Settling (settings : LoaderSettings) (layer : Sql.DataLayer) (only : Option (List Path))
    (w : World) (settled : Settled) (paths : List Path) (rejected handled : List RoutineResult)
    (start : Start) : Prop where
  found : ((Batch.paths settings only).run w).1 = .ok paths
  rejecting : RejectedBy (duplicates (groups settings.extension paths)) rejected
  handling : ∃ es u v, Event.statements es = [] ∧
    (prepare settings layer).run (w.after es) = (.ok start, u) ∧
    ((sources (groups settings.extension paths)).mapM (routine settings layer start)).run u =
      (.ok handled, v)
  results : settled.batch.results = sortResults (rejected ++ handled)
  records : settled.records =
    remaining only (settled.batch.results.map (·.name)) (handled.foldl keep start.store)

theorem run_ending {settings : LoaderSettings} {layer : Sql.DataLayer} {only : Option (List Path)}
    {catalog : RoutineCatalog} {results : List RoutineResult} {store : RecordStore} {w v : World}
    {settled : Settled} (run : ((do
      let (dropped, store) ←
        if only.isNone then cleanUp settings layer catalog results store else pure ([], store)
      return ⟨⟨results, dropped, settings.dryRun⟩, store⟩) : Loader Settled).run w =
        (.ok settled, v)) :
    settled.batch.results = results ∧
      settled.records = remaining only (settled.batch.results.map (·.name)) store := by
  cases only with
  | some only =>
    cases run
    exact ⟨rfl, rfl⟩
  | none =>
    obtain ⟨⟨dropped, kept⟩, u, cleaning, last⟩ := run_bind_eq_ok.1 run
    have pruned := run_cleanUp cleaning
    cases last
    exact ⟨rfl, pruned⟩

theorem settling_of_run {settings : LoaderSettings} {layer : Sql.DataLayer}
    {only : Option (List Path)} {w v : World} {settled : Settled}
    (run : (settle settings layer only).run w = (.ok settled, v)) :
    ∃ paths rejected handled start,
      Settling settings layer only w settled paths rejected handled start := by
  obtain ⟨paths, u₁, finding, rest⟩ := run_bind_eq_ok.1 run
  obtain ⟨rejected, u₂, rejecting, rest⟩ := run_bind_eq_ok.1 rest
  obtain ⟨start, u₃, preparing, rest⟩ := run_bind_eq_ok.1 rest
  obtain ⟨handled, u₄, handling, ended⟩ := run_bind_eq_ok.1 rest
  obtain ⟨es, rfl, silent, -⟩ := (traces_paths allowsQuiet_quiet settings only).of_run finding
  obtain ⟨fs, rfl, calm, -⟩ := (traces_rejectDuplicates allowsQuiet_quiet _).of_run rejecting
  rw [World.after_after] at preparing
  have quiet : Event.statements (es ++ fs) = [] := by simp [silent, calm]
  have ending := run_ending ended
  exact ⟨paths, rejected, handled, start, by rw [finding], run_rejectDuplicates rejecting,
    ⟨es ++ fs, u₃, u₄, quiet, preparing, handling⟩, ending.1, ending.2⟩

theorem run_settle {settings : LoaderSettings} (active : settings.dryRun = false)
    {layer : Sql.DataLayer} {only : Option (List Path)} {w v : World} {settled : Settled}
    (run : (settle settings layer only).run w = (.ok settled, v)) :
    ∃ paths previous, ((Batch.paths settings only).run w).1 = .ok paths ∧
      RecordStore.load w.files settings.store = .ok previous ∧
      HandedOver settings only paths previous settled.records settled.batch.results := by
  obtain ⟨paths, rejected, handled, start, parts⟩ := settling_of_run run
  obtain ⟨es, u, v, -, preparing, handling⟩ := parts.handling
  have loaded := (steps_of_prepare preparing).1
  have handed := handedOver_of_handled (RecordStore.nodup_keys_load loaded) parts.rejecting
    (run_handle active handling)
  refine ⟨paths, start.store, parts.found, loaded, ?_⟩
  rw [parts.records, parts.results]
  cases only with
  | some only => exact handed only
  | none => exact (handed []).pruned

end Batch

/-- A batch that is no dry run ends with a value if it settles and what it settled is written. -/
theorem run_loadAll_eq_ok_iff {settings : LoaderSettings} (active : settings.dryRun = false)
    {layer : Sql.DataLayer} {only : Option (List Path)} {w v : World} {batch : BatchResult} :
    (loadAll settings layer only).run w = (.ok batch, v) ↔ ∃ handed before after,
      (Batch.settle settings layer only).run w = (.ok ⟨batch, handed⟩, before) ∧
      (handed.write settings.store).run before = (.ok (), after) ∧
      v = after.after [.log ⟨.info, .batch, Batch.summary batch⟩] := by
  have finish (records : RecordStore) : Batch.finish settings records =
      records.write settings.store := by
    rw [Batch.finish, active]
    rfl
  constructor
  · intro run
    obtain ⟨⟨batch', handed⟩, before, settling, rest⟩ := run_bind_eq_ok.1 run
    obtain ⟨_, after, writing, rest⟩ := run_bind_eq_ok.1 rest
    obtain ⟨_, _, logging, last⟩ := run_bind_eq_ok.1 rest
    rw [finish] at writing
    cases logging
    cases last
    exact ⟨handed, before, after, settling, writing, rfl⟩
  · rintro ⟨handed, before, after, settling, writing, rfl⟩
    rw [← finish] at writing
    exact run_bind_eq_ok.2 ⟨_, before, settling, run_bind_eq_ok.2 ⟨(), after, writing, rfl⟩⟩

/-- A batch that ends with a value and is no dry run hands over exactly the records of its renewed
routines and the earlier records of the others, and it ends once these are written. -/
theorem loadAll_hands_over {settings : LoaderSettings} (active : settings.dryRun = false)
    {layer : Sql.DataLayer} {only : Option (List Path)} {w w' : World} {batch : BatchResult}
    (run : (loadAll settings layer only).run w = (.ok batch, w')) :
    ∃ paths previous handed before after,
      ((Batch.paths settings only).run w).1 = .ok paths ∧
      RecordStore.load w.files settings.store = .ok previous ∧
      (Batch.settle settings layer only).run w = (.ok ⟨batch, handed⟩, before) ∧
      (handed.write settings.store).run before = (.ok (), after) ∧ after.files = w'.files ∧
      Batch.HandedOver settings only paths previous handed batch.results := by
  obtain ⟨handed, before, after, settling, writing, rfl⟩ := (run_loadAll_eq_ok_iff active).1 run
  obtain ⟨paths, previous, found, loaded, given⟩ := Batch.run_settle active settling
  exact ⟨paths, previous, handed, before, after, found, loaded, settling, writing, rfl, given⟩

open Sample in
/-- The batch over the sample directory hands over the record of its routine. -/
theorem handed_over_of_sample : ∃ batch v,
    (loadAll settings (answering []).layer (some [path])).run (world text) = (.ok batch, v) ∧
    ∃ paths previous handed before after,
      ((Batch.paths settings (some [path])).run (world text)).1 = .ok paths ∧
      RecordStore.load (filesWith text) settings.store = .ok previous ∧
      (Batch.settle settings (answering []).layer (some [path])).run (world text) =
        (.ok ⟨batch, handed⟩, before) ∧
      (handed.write settings.store).run before = (.ok (), after) ∧ after.files = v.files ∧
      Batch.HandedOver settings (some [path]) paths previous handed batch.results := by
  obtain ⟨v, run, -⟩ := run_loadAll_answering
  exact ⟨_, v, run, loadAll_hands_over rfl run⟩

end StoredRoutines
