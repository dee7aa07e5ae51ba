import StoredRoutines.Proofs.Consistency
import StoredRoutines.Proofs.Repeating

/-!
A store of compiled records is read back as it was written. What changes is the order of the
routines, of the placeholders and of the declared parameters, none of which matters to a map.
-/

namespace StoredRoutines

open Loader

namespace BuildRecord

theorem sameAs_inOrder (r : BuildRecord) : r.SameAs r.inOrder :=
  ⟨Atom.ordered_perm _, Atom.ordered_perm _, rfl⟩

/-- The record of a compiled source over a database of scalars, where the earlier record, if there
was one, is such a record too. A store may have put its tables in order in between. -/
inductive Compiled : BuildRecord → Prop
  | compiled {db : Sql.Database} {settings : LoaderSettings} {path : Path}
      {previous : Option BuildRecord} {table : ReplaceTable} {entry : Option CatalogEntry}
      {w v : World} {r : RoutineResult} {record : BuildRecord} (scalar : db.Scalar)
      (before : ∀ kept, previous = some kept → Compiled kept)
      (run : (compile settings db.layer path previous table entry).run w = (.ok r, v))
      (found : r.outcome.record? = some record) : Compiled record
  | stored {record : BuildRecord} (before : Compiled record) : Compiled record.inOrder

theorem Compiled.scalar {record : BuildRecord} (h : record.Compiled) : record.Scalar := by
  induction h with
  | compiled scalar before run found ih => exact (record_of_compile run found).2 scalar ih
  | stored before ih => exact ih.inOrder

end BuildRecord

namespace RecordStore

theorem sameAs_inOrder {store : RecordStore} (distinct : (Assoc.keys store).Nodup) :
    store.SameAs store.inOrder where
  names := by
    have keys : Assoc.keys store.inOrder = Assoc.keys (Atom.ordered store) := List.map_map
    rw [keys]
    exact (Atom.ordered_perm store).map _
  records := by
    intro name record found
    refine ⟨record.inOrder, ?_, record.sameAs_inOrder⟩
    rw [lookup_inOrder distinct, found]
    rfl

theorem scalar_of_compiled {store : RecordStore}
    (names : ∀ name ∈ Assoc.keys store, ∃ s : String, name = .text s)
    (distinct : (Assoc.keys store).Nodup) (compiled : ∀ e ∈ store, e.2.Compiled) :
    store.Scalar where
  keys := by
    refine ⟨fun e member => ?_, distinct⟩
    obtain ⟨s, same⟩ := names e.1 (List.mem_map_of_mem member)
    rw [same]
    exact ⟨rfl, trivial⟩
  records := fun e member => (compiled e member).scalar

end RecordStore

/-- A store of compiled records under distinct names reads back, once it is written, as the same
map from names to records. -/
theorem written_store_reads_back {store : RecordStore}
    (names : ∀ name ∈ Assoc.keys store, ∃ s : String, name = .text s)
    (distinct : (Assoc.keys store).Nodup) (compiled : ∀ e ∈ store, e.2.Compiled) {p : Path}
    {w v : World} (run : (store.write p).run w = (.ok (), v)) :
    ∃ back, RecordStore.load v.files p = .ok back ∧ store.SameAs back := by
  have scalar := RecordStore.scalar_of_compiled names distinct compiled
  have stands := (RecordStore.standsIn_of_write run).1
  exact ⟨store.inOrder, scalar.load_of_standsIn stands, RecordStore.sameAs_inOrder distinct⟩

namespace Sample

def listStore : RecordStore := [("a", listRecord)]

def listValue : Value := .object [("a", listRecord.asValue)]

theorem scalar_describing : describing.Scalar := by
  intro before sql row member cell place
  rw [List.mem_singleton.1 member] at place
  simp only [List.mem_cons, List.not_mem_nil, or_false] at place
  rcases place with rfl | rfl | rfl | rfl <;> exact Value.scalar_text _

theorem toValue_listStore : listStore.toValue = .ok listValue := by
  simp only [RecordStore.toValue, listStore, Atom.sortEntries, List.mergeSort_singleton]
  rfl

theorem complete_listStore : (Json.render listValue).failure = none :=
  Json.complete_of_isWritable rfl 0

end Sample

open Sample in
/-- The record of a routine with a placeholder and a list parameter reads back. -/
theorem sample_reads_back : ∃ v back,
    (listStore.write settings.store).run (world listText) = (.ok (), v) ∧
    RecordStore.load v.files settings.store = .ok back ∧ listStore.SameAs back := by
  obtain ⟨warnings, u, made⟩ := run_compile_listSource
  have compiled : listRecord.Compiled := by
    refine .compiled scalar_describing (fun kept there => ?_) made rfl
    cases there
  have names : ∀ name ∈ Assoc.keys listStore, ∃ s : String, name = .text s := by
    intro name member
    exact ⟨"a", List.mem_singleton.1 member⟩
  have each : ∀ e ∈ listStore, e.2.Compiled := by
    intro e member
    obtain rfl := List.mem_singleton.1 member
    exact compiled
  have files : (world listText).files = filesWith listText := rfl
  have run := run_write toValue_listStore complete_listStore files
  obtain ⟨back, read, same⟩ := written_store_reads_back names (List.nodup_singleton _) each run
  exact ⟨_, back, run, read, same⟩

end StoredRoutines
