import StoredRoutines.Proofs.Retries
import StoredRoutines.Proofs.ScalarBatches

/-!
A batch over unchanged input. After a batch without failures, a batch that finds the same sources,
constants and columns, and a catalog that matches the session, asks its two questions and does
nothing else: every routine is up to date, and the files stay as they are.
-/

namespace StoredRoutines

open Loader Outcomes TraceProperty

namespace BuildRecord

variable {modified : Int} {table : ReplaceTable} {record : BuildRecord}

theorem holds_inOrder (h : Freshness.Holds modified table record) :
    Freshness.Holds modified table record.inOrder := by
  refine ⟨h.1, Freshness.ofPlaceholders_eq_none_iff.2 fun e member => ?_⟩
  exact Freshness.ofPlaceholders_eq_none_iff.1 h.2 e (Atom.mem_ordered.1 member)

end BuildRecord

theorem RecordStore.lookup_inOrder {store : RecordStore} (distinct : (Assoc.keys store).Nodup)
    (name : Atom) : store.inOrder.lookup name = (store.lookup name).map BuildRecord.inOrder :=
  Atom.lookup_ordered_map BuildRecord.inOrder distinct name

theorem compile_yields {settings : LoaderSettings} {layer : Sql.DataLayer} {path : Path}
    {record : Option BuildRecord} {table : ReplaceTable} {entry : Option CatalogEntry}
    {source : RoutineSource} {kept : BuildRecord} {w : World}
    (loaded : RoutineSource.load w.files path settings.extension = .ok source)
    (judged : Freshness.judge record source.modified table settings.session entry =
      .ok (.upToDate kept)) :
    (compile settings layer path record table entry).Yields w
      ⟨path, routineName path settings.extension, .upToDate kept⟩ := by
  have examined : (Compile.examine settings path record table entry).attempt.run w =
      (.ok (.ok (source, .upToDate kept)), w) := by
    rw [run_attempt_eq_ok, Compile.examine_of_loaded loaded, judged]
    rfl
  obtain ⟨es, logged, silent⟩ := Yields.log .debug .batch
    (routineName path settings.extension ++ " is up to date") w
  refine ⟨es, ?_, silent⟩
  rw [compile, run_bind_of_ok examined]
  exact run_bind_of_ok logged

namespace Batch

theorem dropAllObsolete_yields {settings : LoaderSettings} {layer : Sql.DataLayer}
    {catalog : RoutineCatalog} {known : List String} (none : obsoleteNames catalog known = [])
    (w : World) : (dropAllObsolete settings layer catalog known).Yields w [] := by
  unfold dropAllObsolete
  split
  · rw [none]
    exact (Yields.ofExcept Atom.inOrder_nil w).bind (fun _ => Yields.pure _ _)
  · exact Yields.pure _ _

theorem prune_yields {store : RecordStore} {known : List String}
    (all : ∀ e ∈ store, isKnown known e.1 = true) (w : World) :
    (prune store known).Yields w store := by
  have kept : store.filter (fun e => isKnown known e.1) = store := List.filter_eq_self.2 all
  have none : (Assoc.keys store).filter (fun n => !isKnown known n) = [] := by
    rw [List.filter_eq_nil_iff]
    intro n member
    obtain ⟨e, place, rfl⟩ := List.mem_map.1 member
    simp [all e place]
  unfold prune
  rw [none, kept]
  exact (Yields.ofExcept Atom.inOrder_nil w).bind (fun _ => Yields.pure _ _)

theorem cleanUp_yields {settings : LoaderSettings} {layer : Sql.DataLayer}
    {catalog : RoutineCatalog} {results : List RoutineResult} {store : RecordStore}
    (none : obsoleteNames catalog (results.map (·.name)) = [])
    (all : ∀ e ∈ store, isKnown (results.map (·.name)) e.1 = true) (w : World) :
    (cleanUp settings layer catalog results store).Yields w ([], store) :=
  (dropAllObsolete_yields none w).bind fun _ => (prune_yields all _).bind fun _ => Yields.pure _ _

theorem keep_eq_self {store : RecordStore} {r : RoutineResult}
    (h : store.lookup (.text r.name) = r.outcome.record?) : keep store r = store := by
  unfold keep
  split
  · rename_i record found
    exact Assoc.put_eq_self (h.trans found)
  · rfl

theorem foldl_keep_eq_self {store : RecordStore} {handled : List RoutineResult}
    (h : ∀ r ∈ handled, store.lookup (.text r.name) = r.outcome.record?) :
    handled.foldl keep store = store := by
  induction handled with
  | nil => rfl
  | cons r rest ih =>
    rw [List.foldl_cons, keep_eq_self (h r (by simp))]
    exact ih (fun s later => h s (List.mem_cons_of_mem _ later))

/-- The sources, the constants and the rows of columns that a batch finds are those of an earlier
batch over some paths. -/
structure SameInput (settings : LoaderSettings) (only : Option (List Path)) (paths : List Path)
    (db : Sql.Database) (w : World) (db' : Sql.Database) (v : World) : Prop where
  found : ((Batch.paths settings only).run v).1 = .ok paths
  sources : ∀ p ∈ paths, RoutineSource.load v.files p settings.extension =
    RoutineSource.load w.files p settings.extension
  constants : settings.constants.map (Constants.ofFiles v.files) =
    settings.constants.map (Constants.ofFiles w.files)
  columns : db'.rows (v.statements ++ [RoutineCatalog.query]) ColumnTypes.query =
    db.rows (w.statements ++ [RoutineCatalog.query]) ColumnTypes.query

/-- The database answers the two questions of a batch with a catalog that matches the session for
every source and has no routine without a source. -/
structure Settles (settings : LoaderSettings) (only : Option (List Path)) (paths : List Path)
    (db : Sql.Database) (w : World) (catalog : RoutineCatalog) : Prop where
  routines : db.failure w.statements RoutineCatalog.query = none
  columns : db.failure (w.statements ++ [RoutineCatalog.query]) ColumnTypes.query = none
  reported : RoutineCatalog.ofRows (db.rows w.statements RoutineCatalog.query) = .ok catalog
  matching : ∀ p ∈ paths, ∃ entry,
    catalog.lookup ⟨.text (routineName p settings.extension)⟩ = some entry ∧
      entry.Matches settings.session
  noneObsolete : only = none → ∀ key ∈ Assoc.keys catalog,
    ∃ p ∈ paths, key.atom = .text (routineName p settings.extension)

theorem lookup_remaining {only : Option (List Path)} {known : List String} {name : String}
    (there : name ∈ known) (store : RecordStore) :
    (remaining only known store).lookup (.text name) = store.lookup (.text name) := by
  cases only with
  | some only => rfl
  | none =>
    rw [remaining, Assoc.lookup_filter (isKnown known), if_pos (isKnown_iff.2 ⟨name, there, rfl⟩)]

end Batch

/-- The result that a routine has when it is up to date after a result with a record. -/
def RoutineResult.again (r : RoutineResult) : RoutineResult :=
  match r.outcome.record? with
  | some record => ⟨r.path, r.name, .upToDate record.inOrder⟩
  | none => r

namespace RoutineResult

theorem path_again (r : RoutineResult) : r.again.path = r.path := by
  unfold again
  split <;> rfl

theorem name_again (r : RoutineResult) : r.again.name = r.name := by
  unfold again
  split <;> rfl

theorem record?_again (r : RoutineResult) :
    r.again.outcome.record? = r.outcome.record?.map BuildRecord.inOrder := by
  unfold again
  split
  · rename_i record found
    rw [found]
    rfl
  · rename_i none
    rw [none]
    rfl

end RoutineResult

theorem Batch.sortResults_again (results : List RoutineResult) :
    sortResults (results.map RoutineResult.again) =
      (sortResults results).map RoutineResult.again := by
  refine (List.map_mergeSort ?_).symm
  intro a _ b _
  rw [RoutineResult.path_again, RoutineResult.path_again]

namespace Batch.Settling

variable {settings : LoaderSettings} {db : Sql.Database} {only : Option (List Path)} {w : World}
  {settled : Settled} {paths : List Path} {rejected handled : List RoutineResult} {start : Start}

theorem succeeded_of_mem {b : BatchResult} (succeeded : b.succeeded = true) {r : RoutineResult}
    (member : r ∈ b.results) : r.succeeded = true := by
  rw [BatchResult.succeeded, List.isEmpty_iff, BatchResult.failed, List.filter_eq_nil_iff]
    at succeeded
  simpa using succeeded r member

theorem none_rejected {layer : Sql.DataLayer}
    (h : Settling settings layer only w settled paths rejected handled start)
    (succeeded : settled.batch.succeeded = true) :
    rejected = [] ∧ duplicates (groups settings.extension paths) = [] := by
  have none : rejected = [] := by
    refine List.eq_nil_iff_forall_not_mem.2 (fun r member => ?_)
    have failed := (fails_of_mem_rejected h.rejecting member).1
    have place : r ∈ settled.batch.results := by
      rw [h.results]
      exact mem_results.2 (.inl member)
    rw [succeeded_of_mem succeeded place] at failed
    cases failed
  have rejecting := h.rejecting
  rw [none, RejectedBy, List.forall₂_nil_right_iff] at rejecting
  exact ⟨none, rejecting⟩

theorem has_record {layer : Sql.DataLayer} (active : settings.dryRun = false)
    (h : Settling settings layer only w settled paths rejected handled start)
    (succeeded : settled.batch.succeeded = true) {r : RoutineResult} (member : r ∈ handled) :
    ∃ record, r.outcome.record? = some record ∧
      settled.records.lookup (.text r.name) = some record := by
  have place : r ∈ settled.batch.results := by
    rw [h.results]
    exact mem_results.2 (.inr member)
  obtain ⟨-, -, ending⟩ := alone_of_mem_handled (h.handledBy active) member
  rw [succeeded_of_mem succeeded place, eq_comm, Option.isSome_iff_exists] at ending
  obtain ⟨record, found⟩ := ending
  refine ⟨record, found, ?_⟩
  rw [h.records, lookup_remaining (List.mem_map.2 ⟨r, place, rfl⟩)]
  exact lookup_foldl_keep_of_mem (nodup_names_handled (h.handledBy active)) member found

/-- Every handled routine has a record that holds and is stored, and its source is as before. -/
theorem current {db' : Sql.Database} {v : World} (active : settings.dryRun = false)
    (h : Settling settings db.layer only w settled paths rejected handled start)
    (succeeded : settled.batch.succeeded = true)
    (same : SameInput settings only paths db w db' v) :
    List.Forall₂ (fun s r => r.path = s.2 ∧ r.name = s.1 ∧ s.2 ∈ paths ∧
      routineName s.2 settings.extension = s.1 ∧
      ∃ source record, RoutineSource.load v.files s.2 settings.extension = .ok source ∧
        r.outcome.record? = some record ∧
        settled.records.lookup (.text r.name) = some record ∧
        Freshness.Holds source.modified start.table record)
      (sources (groups settings.extension paths)) handled := by
  have both := List.Forall₂.mp (fun _ _ named holding => And.intro named holding)
    (h.handledBy active) (h.records_of active)
  refine forall₂_imp_of_mem both (fun s r place member related => ?_)
  obtain ⟨⟨⟨path_eq, name_eq⟩, -⟩, holding, -⟩ := related
  have implied := name_of_mem_sources place
  have inside : s.2 ∈ paths := by
    have only := mem_sources.1 (show (s.1, s.2) ∈ _ from place)
    exact (mem_implying.1 (only ▸ List.mem_singleton_self s.2)).1
  obtain ⟨record, found, stored⟩ := h.has_record active succeeded member
  obtain ⟨source, loaded, holds⟩ := holding record found
  exact ⟨path_eq, name_eq.trans implied, inside, implied, source, record,
    (same.sources s.2 inside).trans loaded, found, stored, holds⟩

/-- The starting point of a batch after this one, given what the catalog then holds. -/
def next (settled : Settled) (start : Start) (catalog : RoutineCatalog) : Start :=
  ⟨settled.records.inOrder, catalog, start.table⟩

theorem handle_yields {db' : Sql.Database} {v : World} {catalog : RoutineCatalog}
    (active : settings.dryRun = false)
    (h : Settling settings db.layer only w settled paths rejected handled start)
    (succeeded : settled.batch.succeeded = true)
    (same : SameInput settings only paths db w db' v)
    (settles : Settles settings only paths db' v catalog)
    (distinct : (Assoc.keys settled.records).Nodup) (es : List Event) :
    ((sources (groups settings.extension paths)).mapM
      (routine settings db'.layer (next settled start catalog))).Yields (v.after es)
        (handled.map RoutineResult.again) := by
  refine Yields.mapM (List.forall₂_map_right_iff.2 ((h.current active succeeded same).imp ?_)) es
  rintro ⟨name, path⟩ r ⟨rfl, rfl, inside, implied, source, record, loaded, found, stored, holds⟩ es
  obtain ⟨entry, there, matching⟩ := settles.matching r.path inside
  have kept : settled.records.inOrder.lookup (.text r.name) = some record.inOrder := by
    rw [RecordStore.lookup_inOrder distinct, stored]
    rfl
  have judged : Freshness.judge (settled.records.inOrder.lookup (.text r.name)) source.modified
      start.table settings.session (catalog.lookup ⟨.text r.name⟩) =
        .ok (.upToDate record.inOrder) := by
    rw [implied] at there
    exact Freshness.judge_upToDate_iff.2
      ⟨kept, BuildRecord.holds_inOrder holds, entry, there, matching⟩
  have compiled : (compile settings db'.layer _ _ _ _).Yields (v.after es) _ :=
    compile_yields loaded judged
  have result : r.again = ⟨r.path, routineName r.path settings.extension,
      .upToDate record.inOrder⟩ := by
    rw [RoutineResult.again, found, implied]
  simp only [routine, active]
  rw [result]
  exact compiled

theorem names_again (results : List RoutineResult) :
    (results.map RoutineResult.again).map (·.name) = results.map (·.name) := by
  rw [List.map_map]
  exact List.map_congr_left (fun r _ => r.name_again)

theorem isKnown_of_mem {layer : Sql.DataLayer}
    (h : Settling settings layer none w settled paths rejected handled start)
    {e : Atom × BuildRecord} (member : e ∈ settled.records.inOrder) :
    isKnown (settled.batch.results.map (·.name)) e.1 = true := by
  obtain ⟨d, place, rfl⟩ := List.mem_map.1 member
  have inside := Atom.mem_ordered.1 place
  rw [h.records] at inside
  exact (List.mem_filter.1 inside).2

theorem obsoleteNames_eq_nil {db' : Sql.Database} {v : World} {catalog : RoutineCatalog}
    {layer : Sql.DataLayer} (active : settings.dryRun = false)
    (h : Settling settings layer none w settled paths rejected handled start)
    (settles : Settles settings none paths db' v catalog) :
    obsoleteNames catalog (settled.batch.results.map (·.name)) = [] := by
  have covered := paths_of_results h.rejecting (h.handledBy active).isOf
  rw [obsoleteNames, List.filter_eq_nil_iff]
  intro name member
  obtain ⟨key, place, rfl⟩ := List.mem_map.1 member
  obtain ⟨p, inside, shape⟩ := settles.noneObsolete rfl key place
  obtain ⟨r, result, rfl⟩ := List.mem_map.1 (covered.mem_iff.2 inside)
  have named : r.name = routineName r.path settings.extension := by
    rcases mem_results.1 result with failed | handled
    · exact (fails_of_mem_rejected h.rejecting failed).2
    · exact (alone_of_mem_handled (h.handledBy active) handled).1
  rw [← h.results] at result
  have known : isKnown (settled.batch.results.map (·.name)) key.atom = true :=
    isKnown_iff.2 ⟨r.name, List.mem_map.2 ⟨r, result, rfl⟩, by rw [shape, named]⟩
  simp [known]

theorem prepare_again {db' : Sql.Database} {v : World} {catalog : RoutineCatalog}
    (h : Settling settings db.layer only w settled paths rejected handled start)
    (same : SameInput settings only paths db w db' v)
    (settles : Settles settings only paths db' v catalog)
    (stored : RecordStore.load v.files settings.store = .ok settled.records.inOrder)
    {es : List Event} (silent : Event.statements es = []) :
    ∃ es', (prepare settings db'.layer).run (v.after es) =
        (.ok (next settled start catalog), v.after (es ++ es')) ∧
      Event.statements es' = [RoutineCatalog.query, ColumnTypes.query] := by
  have before : (v.after es).statements = v.statements := by
    rw [World.statements_after, silent, List.append_nil]
  have table := h.prepared.2
  rw [← same.columns, ReplaceTable.ofFiles, ← same.constants] at table
  simp only [← World.after_after]
  refine run_prepare_of_ok settings stored ?_ ?_ ?_ ?_
  · rw [before]
    exact settles.routines
  · rw [before]
    exact settles.reported
  · rw [before]
    exact settles.columns
  · rw [before]
    exact table

theorem foldl_keep_again (active : settings.dryRun = false)
    (h : Settling settings db.layer only w settled paths rejected handled start)
    (succeeded : settled.batch.succeeded = true)
    (distinct : (Assoc.keys settled.records).Nodup) :
    (handled.map RoutineResult.again).foldl keep settled.records.inOrder =
      settled.records.inOrder := by
  refine foldl_keep_eq_self (fun r member => ?_)
  obtain ⟨r, place, rfl⟩ := List.mem_map.1 member
  obtain ⟨record, found, there⟩ := h.has_record active succeeded place
  rw [RoutineResult.name_again, RoutineResult.record?_again, found,
    RecordStore.lookup_inOrder distinct, there]

/-- A batch over all sources after this one drops nothing and keeps every record. -/
theorem cleanUp_again {layer layer' : Sql.DataLayer} {db' : Sql.Database} {v : World}
    {catalog : RoutineCatalog} (active : settings.dryRun = false)
    (h : Settling settings layer none w settled paths rejected handled start)
    (settles : Settles settings none paths db' v catalog) (v' : World) :
    (cleanUp settings layer' catalog (settled.batch.results.map RoutineResult.again)
      settled.records.inOrder).Yields v' ([], settled.records.inOrder) := by
  refine cleanUp_yields ?_ (fun e member => ?_) v'
  · rw [names_again]
    exact h.obsoleteNames_eq_nil active settles
  · rw [names_again]
    exact h.isKnown_of_mem member

/-- A batch after this one asks its two questions and settles for the same records. -/
theorem settle_again {db' : Sql.Database} {v : World} {catalog : RoutineCatalog}
    (active : settings.dryRun = false)
    (h : Settling settings db.layer only w settled paths rejected handled start)
    (succeeded : settled.batch.succeeded = true)
    (same : SameInput settings only paths db w db' v)
    (settles : Settles settings only paths db' v catalog)
    (distinct : (Assoc.keys settled.records).Nodup)
    (stored : RecordStore.load v.files settings.store = .ok settled.records.inOrder) :
    ∃ es, (settle settings db'.layer only).run v = (.ok ⟨⟨settled.batch.results.map
        RoutineResult.again, [], settings.dryRun⟩, settled.records.inOrder⟩, v.after es) ∧
      Event.statements es = [RoutineCatalog.query, ColumnTypes.query] := by
  obtain ⟨none, alone⟩ := h.none_rejected succeeded
  -- The stages one after the other; only preparing asks the database anything.
  obtain ⟨es₁, finding, silent₁⟩ : (Batch.paths settings only).Yields v paths := by
    obtain ⟨es, step, silent, -⟩ :=
      (traces_paths allowsQuiet_quiet settings only).of_run (run_eq_of_fst same.found)
    exact ⟨es, Prod.ext same.found step, silent⟩
  have rejecting : (rejectDuplicates (groups settings.extension paths)).run (v.after es₁) =
      (.ok [], v.after es₁) := by
    rw [rejectDuplicates, alone]
    rfl
  obtain ⟨es₂, preparing, asked⟩ := h.prepare_again same settles stored silent₁
  obtain ⟨es₃, handling, silent₃⟩ :=
    h.handle_yields active succeeded same settles distinct (es₁ ++ es₂)
  have results : sortResults ([] ++ handled.map RoutineResult.again) =
      settled.batch.results.map RoutineResult.again := by
    rw [h.results, none, List.nil_append, List.nil_append, sortResults_again]
  have finishing : (settle settings db'.layer only).run v =
      ((if only.isNone then cleanUp settings db'.layer catalog
          (settled.batch.results.map RoutineResult.again) settled.records.inOrder
        else pure ([], settled.records.inOrder)) >>= fun cleaned => pure
          (Settled.mk ⟨settled.batch.results.map RoutineResult.again, cleaned.1, settings.dryRun⟩
            cleaned.2)).run ((v.after (es₁ ++ es₂)).after es₃) := by
    rw [settle, run_bind_of_ok finding, run_bind_of_ok rejecting, run_bind_of_ok preparing,
      run_bind_of_ok handling]
    simp only [results, next, h.foldl_keep_again active succeeded distinct]
    cases only <;> rfl
  have statements : Event.statements (es₁ ++ es₂ ++ es₃) =
      [RoutineCatalog.query, ColumnTypes.query] := by simp [silent₁, asked, silent₃]
  cases only with
  | some only =>
    refine ⟨es₁ ++ es₂ ++ es₃, finishing.trans ?_, statements⟩
    rw [World.after_after]
    rfl
  | none =>
    obtain ⟨es₄, cleaning, silent₄⟩ := h.cleanUp_again active settles
      ((v.after (es₁ ++ es₂)).after es₃)
    refine ⟨es₁ ++ es₂ ++ es₃ ++ es₄, finishing.trans ?_, ?_⟩
    · refine (run_bind_of_ok cleaning).trans ?_
      rw [World.after_after, World.after_after, ← List.append_assoc]
      rfl
    · rw [Event.statements_append, statements, silent₄, List.append_nil]

end Batch.Settling

/-- The second result says that the routine is up to date with the record of the first, but for the
order of the tables in it. -/
structure RoutineResult.Repeats (first second : RoutineResult) : Prop where
  path : second.path = first.path
  name : second.name = first.name
  record : ∃ record, first.outcome.record? = some record ∧
    second.outcome = .upToDate record.inOrder

open Batch in
/-- After a batch without failures over a database of scalars, a batch over unchanged input asks its
two questions, finds every routine up to date, and leaves the files as they are. -/
theorem loadAll_again {settings : LoaderSettings} (active : settings.dryRun = false)
    {db : Sql.Database} (scalar : db.Scalar) {only : Option (List Path)} {w w' : World}
    (grown : RecordStore.Grown settings.store w.files) {batch : BatchResult}
    (run : (loadAll settings db.layer only).run w = (.ok batch, w'))
    (succeeded : batch.succeeded = true) {paths : List Path}
    (found : ((Batch.paths settings only).run w).1 = .ok paths)
    {db' : Sql.Database} {v : World} (files : v.files = w'.files)
    (same : SameInput settings only paths db w db' v) {catalog : RoutineCatalog}
    (settles : Settles settings only paths db' v catalog) :
    ∃ again v', (loadAll settings db'.layer only).run v = (.ok again, v') ∧
      v'.statements = v.statements ++ [RoutineCatalog.query, ColumnTypes.query] ∧
      v'.files = v.files ∧ again.dropped = [] ∧
      List.Forall₂ RoutineResult.Repeats batch.results again.results := by
  obtain ⟨settled, u, settling, rfl, stands⟩ := run_loadAll_eq_ok active run
  obtain ⟨paths', rejected, handled, start, parts⟩ := settling_of_run settling
  obtain rfl : paths' = paths := by
    have both := parts.found.symm.trans found
    cases both
    rfl
  have flat := parts.scalar_records active scalar (grown.scalar parts.prepared.1)
  rw [← files] at stands
  obtain ⟨es, again, asked⟩ := parts.settle_again active succeeded same settles
    flat.keys.distinct (flat.load_of_standsIn stands)
  have written : (finish settings settled.records.inOrder).run (v.after es) =
      (.ok (), v.after es) := by
    simp only [finish, active]
    exact RecordStore.run_write_again (w := v.after es) stands fun _ written => flat.flat.render_inOrder written
  let second : BatchResult :=
    ⟨settled.batch.results.map RoutineResult.again, [], settings.dryRun⟩
  have ended : (loadAll settings db'.layer only).run v =
      (.ok second, (v.after es).after [.log ⟨.info, .batch, summary second⟩]) := by
    rw [loadAll, run_bind_of_ok again, run_bind_of_ok written]
    rfl
  refine ⟨second, _, ended, ?_, rfl, rfl, ?_⟩
  · rw [World.statements_after, World.statements_after, asked]
    exact List.append_nil _
  · rw [List.forall₂_map_right_iff, List.forall₂_same]
    intro r member
    rw [parts.results, mem_results, (parts.none_rejected succeeded).1] at member
    obtain ⟨record, recorded, -⟩ := parts.has_record active succeeded
      (member.resolve_left List.not_mem_nil)
    refine ⟨r.path_again, r.name_again, record, recorded, ?_⟩
    rw [RoutineResult.again, recorded]

namespace Sample

/-- The world that the next batch finds, with another connection. -/
def nextWorld (w : World) : World := ⟨w.files, true, []⟩

theorem grown_files : RecordStore.Grown settings.store (filesWith text) := by
  refine .given fun store loaded => ?_
  rw [load_store] at loaded
  cases loaded
  exact ⟨⟨by simp, by simp [Assoc.keys]⟩, by simp⟩

theorem scalar_answering : (answering []).Scalar := by
  intro before sql row member
  simp [answering] at member

theorem load_filesHolding (content : ByteArray) :
    RoutineSource.load (filesHolding text content) path ".psql" = .ok source :=
  load_source

theorem sameInput {w : World} {content : ByteArray} (files : w.files = filesHolding text content) :
    Batch.SameInput settings (some [path]) [path] (answering []) (world text) (answering [rowOf "a"])
      (nextWorld w) where
  found := congrArg Except.ok sortPaths_path
  sources := by
    intro p member
    obtain rfl := List.mem_singleton.1 member
    change RoutineSource.load w.files path ".psql" = RoutineSource.load (filesWith text) path ".psql"
    rw [files, load_filesHolding, load_source]
  constants := rfl
  columns := rfl

theorem settles (w : World) : Batch.Settles settings (some [path]) [path] (answering [rowOf "a"])
    (nextWorld w) (catalogOf "a") where
  routines := rfl
  columns := rfl
  reported := ofRows_rowOf "a"
  matching := by
    intro p member
    obtain rfl := List.mem_singleton.1 member
    exact ⟨entryOf "a", rfl, matches_session⟩
  noneObsolete := by simp

end Sample

open Sample in
/-- A second batch over the sample directory finds its routine up to date. -/
theorem sample_again : ∃ batch w again v,
    (loadAll settings (answering []).layer (some [path])).run (world text) = (.ok batch, w) ∧
    (loadAll settings (answering [rowOf "a"]).layer (some [path])).run (nextWorld w) =
      (.ok again, v) ∧
    v.statements = [RoutineCatalog.query, ColumnTypes.query] ∧ v.files = w.files ∧
    again.dropped = [] ∧ List.Forall₂ RoutineResult.Repeats batch.results again.results := by
  obtain ⟨w, run, files⟩ := run_loadAll_answering
  have found : ((Batch.paths settings (some [path])).run (world text)).1 = .ok [path] :=
    congrArg Except.ok sortPaths_path
  have again : ∃ again v, (loadAll settings (answering [rowOf "a"]).layer (some [path])).run
      (nextWorld w) = (.ok again, v) ∧ _ :=
    loadAll_again rfl scalar_answering grown_files run rfl found rfl (sameInput files) (settles w)
  obtain ⟨again, v, second, statements, rest⟩ := again
  exact ⟨_, w, again, v, run, second, statements, rest⟩

end StoredRoutines
