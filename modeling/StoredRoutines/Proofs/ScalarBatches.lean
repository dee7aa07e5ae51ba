import StoredRoutines.Proofs.HandedOver
import StoredRoutines.Proofs.Preparing
import StoredRoutines.Proofs.ScalarBuilds
import StoredRoutines.Proofs.StoreFile

/-!
Batches over a database of scalars. They keep a store of scalars one of scalars, and every record
that they hand over for a source holds for this source.
-/

namespace StoredRoutines

open Loader Outcomes TraceProperty

namespace RecordStore.Scalar

variable {store : RecordStore}

theorem of_lookup (h : store.Scalar) {name : Atom} {record : BuildRecord}
    (found : store.lookup name = some record) : record.Scalar :=
  h.records _ (Assoc.mem_of_lookup found)

theorem put (h : store.Scalar) (name : String) {record : BuildRecord} (flat : record.Scalar) :
    RecordStore.Scalar (Assoc.put (.text name) record store) where
  keys := by
    refine ⟨fun e member => ?_, Assoc.nodup_keys_put h.keys.distinct _ _⟩
    rcases Assoc.mem_put member with old | rfl | ⟨same, -⟩
    · exact h.keys.names e old
    · exact ⟨rfl, trivial⟩
    · rw [beq_iff_eq] at same
      rw [same]
      exact ⟨rfl, trivial⟩
  records := by
    intro e member
    rcases Assoc.mem_put member with old | rfl | ⟨-, same⟩
    · exact h.records e old
    · exact flat
    · rw [same]
      exact flat

theorem filter (h : store.Scalar) (p : Atom × BuildRecord → Bool) :
    RecordStore.Scalar (store.filter p) where
  keys := ⟨fun e member => h.keys.names e (List.mem_filter.1 member).1,
    Assoc.nodup_keys_filter h.keys.distinct p⟩
  records := fun e member => h.records e (List.mem_filter.1 member).1

theorem foldl_keep (h : store.Scalar) {handled : List RoutineResult}
    (each : ∀ r ∈ handled, ∀ record, r.outcome.record? = some record → record.Scalar) :
    RecordStore.Scalar (handled.foldl Batch.keep store) := by
  induction handled generalizing store with
  | nil => exact h
  | cons r rest ih =>
    have kept : RecordStore.Scalar (Batch.keep store r) := by
      unfold Batch.keep
      split
      · rename_i record found
        exact h.put r.name (each r (by simp) record found)
      · exact h
    exact ih kept (fun s later => each s (List.mem_cons_of_mem _ later))

theorem remaining (h : store.Scalar) (only : Option (List Path)) (known : List String) :
    RecordStore.Scalar (Batch.remaining only known store) := by
  cases only with
  | some only => exact h
  | none => exact h.filter _

end RecordStore.Scalar

namespace Batch

variable {settings : LoaderSettings} {db : Sql.Database} {start : Start}

theorem files_of_run_routine {source : String × Path} {u v : World} {r : RoutineResult}
    (run : (routine settings db.layer start source).run u = (.ok r, v)) : v.files = u.files := by
  obtain ⟨es, rfl, -⟩ := (traces_routine Sql.Database.accepts_halting settings
    Compile.traces_bulkColumns start source).of_run run
  rfl

/-- The record of the result holds for the source at the path, apart from the catalog. -/
def HoldsFor (fs : FileSystem) (extension : String) (table : ReplaceTable) (path : Path)
    (r : RoutineResult) : Prop :=
  ∀ record, r.outcome.record? = some record →
    ∃ source, RoutineSource.load fs path extension = .ok source ∧
      Freshness.Holds source.modified table record

theorem records_of_run (active : settings.dryRun = false) {sources : List (String × Path)}
    {w v : World} {handled : List RoutineResult}
    (run : (sources.mapM (routine settings db.layer start)).run w = (.ok handled, v)) :
    List.Forall₂ (fun s r => HoldsFor w.files settings.extension start.table s.2 r ∧
      (db.Scalar → start.store.Scalar → ∀ record, r.outcome.record? = some record →
        record.Scalar)) sources handled := by
  refine (run_mapM_eq_ok.1 run).forall₂_of_invariant (I := fun u => u.files = w.files) rfl ?_ ?_
  · intro s r u v same step
    exact (files_of_run_routine step).trans same
  · intro s r u v _ same step
    simp only [routine, active] at step
    refine ⟨fun record found => ?_, fun scalar flat record found => ?_⟩
    · rw [← same]
      exact (record_of_compile step found).1
    · exact (record_of_compile step found).2 scalar fun kept there => flat.of_lookup there

end Batch

namespace Batch.Settling

variable {settings : LoaderSettings} {db : Sql.Database} {only : Option (List Path)} {w : World}
  {settled : Settled} {paths : List Path} {rejected handled : List RoutineResult} {start : Start}

theorem handledBy {layer : Sql.DataLayer} (active : settings.dryRun = false)
    (h : Settling settings layer only w settled paths rejected handled start) :
    HandledBy settings.extension (sources (groups settings.extension paths)) handled := by
  obtain ⟨es, u, v, -, -, handling⟩ := h.handling
  exact run_handle active handling

theorem records_of (active : settings.dryRun = false)
    (h : Settling settings db.layer only w settled paths rejected handled start) :
    List.Forall₂ (fun s r => HoldsFor w.files settings.extension start.table s.2 r ∧
      (db.Scalar → start.store.Scalar → ∀ record, r.outcome.record? = some record →
        record.Scalar)) (sources (groups settings.extension paths)) handled := by
  obtain ⟨es, u, v, -, preparing, handling⟩ := h.handling
  obtain ⟨fs, rfl, -⟩ :=
    (traces_prepare Sql.Database.accepts_halting settings).of_run preparing
  have records := records_of_run active handling
  rwa [World.files_after, World.files_after] at records

theorem prepared (h : Settling settings db.layer only w settled paths rejected handled start) :
    RecordStore.load w.files settings.store = .ok start.store ∧
      ReplaceTable.ofFiles w.files settings.constants
        (db.rows (w.statements ++ [RoutineCatalog.query]) ColumnTypes.query) =
          .ok start.table := by
  obtain ⟨es, u, v, silent, preparing, -⟩ := h.handling
  obtain ⟨store, -, table⟩ := Batch.run_prepare_eq_ok preparing
  rw [World.files_after] at store table
  rw [World.statements_after, silent, List.append_nil] at table
  exact ⟨store, table⟩

theorem scalar_records (active : settings.dryRun = false) (scalar : db.Scalar)
    (h : Settling settings db.layer only w settled paths rejected handled start)
    (flat : start.store.Scalar) : settled.records.Scalar := by
  rw [h.records]
  refine (flat.foldl_keep (fun r member record found => ?_)).remaining _ _
  obtain ⟨s, -, -, each⟩ := exists_of_forall₂ (h.records_of active) member
  exact each scalar flat record found

end Batch.Settling

/-- A batch that is no dry run leaves behind the store of what it settled, and nothing else. -/
theorem run_loadAll_eq_ok {settings : LoaderSettings} (active : settings.dryRun = false)
    {layer : Sql.DataLayer} {only : Option (List Path)} {w w' : World} {batch : BatchResult}
    (run : (loadAll settings layer only).run w = (.ok batch, w')) :
    ∃ settled u, (Batch.settle settings layer only).run w = (.ok settled, u) ∧
      settled.batch = batch ∧ RecordStore.StandsIn w'.files settings.store settled.records := by
  obtain ⟨handed, before, after, settling, writing, rfl⟩ := (run_loadAll_eq_ok_iff active).1 run
  exact ⟨_, before, settling, rfl, (RecordStore.standsIn_of_write writing).1⟩

/-- The file at the path is a store of scalars to begin with, as an absent one is, or such a store
after batches over databases of scalars. -/
inductive RecordStore.Grown (p : Path) : FileSystem → Prop
  | given {fs : FileSystem} (scalar : ∀ store, load fs p = .ok store → store.Scalar) : Grown p fs
  | written {settings : LoaderSettings} {db : Sql.Database} {only : Option (List Path)}
      {w w' : World} {batch : BatchResult} {fs : FileSystem} (before : Grown p w.files)
      (place : settings.store = p) (active : settings.dryRun = false) (scalar : db.Scalar)
      (run : (loadAll settings db.layer only).run w = (.ok batch, w'))
      (same : load fs p = load w'.files p) : Grown p fs

theorem RecordStore.Grown.scalar {p : Path} {fs : FileSystem} (h : Grown p fs)
    {store : RecordStore} (loaded : load fs p = .ok store) : store.Scalar := by
  induction h generalizing store with
  | given scalar => exact scalar store loaded
  | written before place active scalar run same ih =>
    subst place
    obtain ⟨settled, u, settling, -, stands⟩ := run_loadAll_eq_ok active run
    obtain ⟨paths, rejected, handled, start, parts⟩ := Batch.settling_of_run settling
    have flat := parts.scalar_records active scalar (ih parts.prepared.1)
    rw [same, flat.load_of_standsIn stands] at loaded
    cases loaded
    exact flat.inOrder

end StoredRoutines
