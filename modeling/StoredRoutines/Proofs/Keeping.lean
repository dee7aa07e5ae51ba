import StoredRoutines.Proofs.KeptRecords
import StoredRoutines.Proofs.StoreFile

/-!
Keeping what was read. A store that was read can be written wherever some store can, unless one of
its records cannot be written at all; reading it back then gives the same store, up to the order of
its tables, unless one of its records does not stay as it is.
-/

namespace StoredRoutines

open Loader Outcomes

namespace RecordStore

variable {p q : Path} {store : RecordStore}

/-- Some store can be written at the path. -/
def IsWritable (p : Path) (w : World) : Prop :=
  ∃ (other : RecordStore) (v : World), (other.write p).run w = (.ok (), v)

/-- Where some store can be written, so can each store that has a complete text. -/
theorem exists_run_write {w : World} (writable : IsWritable p w) :
    (∃ v, (store.write p).run w = (.ok (), v)) ↔
      ∃ value, store.toValue = .ok value ∧ (Json.render value).failure = none := by
  constructor
  · rintro ⟨v, run⟩
    obtain ⟨value, draft, made, drafted, moved, shape, -, -, -, complete, -⟩ := run_write_eq_ok.1 run
    exact ⟨value, shape, complete⟩
  · rintro ⟨value, shape, complete⟩
    obtain ⟨other, v, run⟩ := writable
    obtain ⟨value', draft, made, drafted, moved, -, sibling, making, drafting, -, moving, -⟩ :=
      run_write_eq_ok.1 run
    obtain ⟨drafted, moved, drafting, moving⟩ :=
      FileSystem.exists_write_move drafting moving ⟨content (Json.render value), 0⟩
    exact ⟨_, run_write_eq_ok.2
      ⟨value, draft, made, drafted, moved, shape, sibling, making, drafting, complete, moving, rfl⟩⟩

/-- A store that was read and written is read back as it is kept after one more look. -/
theorem Storable.run_read_of_write (h : store.Storable) {w v : World}
    (run : (store.write p).run w = (.ok (), v)) :
    (read p).run v = (.ok (store.afterLooks 1).kept, v) := by
  obtain ⟨value, written, complete, loaded⟩ := load_of_standsIn (standsIn_of_write run).1
  rw [run_read, loaded, ofBytes_render (h.spellable written) complete, h.named.ofValue_kept written]

/-- A store that was read can be written wherever some store can, exactly if each of its records is
keepable. What is then read back is the store as it is kept, and that is the store itself exactly if
each of its records is steady; the order of the entries of a table does not count. -/
theorem keeps_what_was_read {w₀ w₁ : World} (got : (read p).run w₀ = (.ok store, w₁)) {w : World}
    (writable : IsWritable q w) :
    ((∃ v, (store.write q).run w = (.ok (), v)) ↔ ∀ e ∈ store, e.2.Keepable) ∧
      ∀ v, (store.write q).run w = (.ok (), v) → ∃ back, (read q).run v = (.ok back, v) ∧
        (store.afterLooks 1).kept.SameAs back ∧
          (store.sorted.SameAs back ↔ ∀ e ∈ store, e.2.Steady) := by
  rw [run_read] at got
  have storable := storable_of_load (Prod.mk.inj got).1
  refine ⟨(exists_run_write writable).trans storable.written_iff, fun v run => ?_⟩
  exact ⟨_, storable.run_read_of_write run, .refl _, storable.sameAs_kept_iff⟩

end RecordStore

namespace Sample

def storePath : Path := ⟨"/", ["s.json"]⟩

/-- A store with one record, whose placeholders are a list of pairs. -/
def scrambled : String :=
  "\x7b\"a\": \x7b\"timestamp\": \"7\", \"designation\": \"rows\", \"routine_name\": \"a\", " ++
    "\"replace\": [[\"y\", 2], [\"x\", 1]]\x7d\x7d"

/-- A store with one record. The type of its parameter is a number, which takes no character set. -/
def numbered : String :=
  "\x7b\"a\": \x7b\"timestamp\": 0, \"designation\": \"rows\", \"routine_name\": \"a\", " ++
    "\"parameters\": [\x7b\"name\": \"b\", \"data_type\": \"char\", \"dtd_identifier\": 5, " ++
    "\"character_set_name\": \"utf8\"\x7d]\x7d\x7d"

def worldHolding (text : String) : World := { files := ⟨[(["s.json"], .file ⟨text.toUTF8, 0⟩)], []⟩ }

def scrambledRecord : BuildRecord where
  routineName := .text "a"
  routineType := .text "procedure"
  designation := .text "rows"
  table := .null
  columns := []
  timestamp := 7
  replace := [("y", .int 2), ("x", .int 1)]

def numberedParameter : CatalogParameter where
  name := .text "b"
  dataType := .text "char"
  dtdIdentifier := .int 5
  characterSet := .text "utf8"

def numberedRecord : BuildRecord where
  routineName := .text "a"
  routineType := .text "procedure"
  designation := .text "rows"
  table := .null
  columns := []
  parameters := [numberedParameter]

theorem run_read_worldHolding {text : String} {v : Value}
    (parsed : Json.parseWithin RecordStore.maxDepth (Text.withUnifiedLineEnds text) = .ok v) :
    (RecordStore.read storePath).run (worldHolding text) =
      (RecordStore.ofValue storePath v, worldHolding text) := by
  have opened : (worldHolding text).files.read storePath = .ok ⟨text.toUTF8, 0⟩ := rfl
  rw [RecordStore.run_read, RecordStore.load_of_opened opened, RecordStore.ofBytes,
    Text.decode_toUTF8]
  simp only [parsed]

theorem run_read_scrambled : (RecordStore.read storePath).run (worldHolding scrambled) =
    (.ok [("a", scrambledRecord)], worldHolding scrambled) := by
  have parsed : Json.parseWithin RecordStore.maxDepth (Text.withUnifiedLineEnds scrambled) =
      .ok (.object [("a", .object [("timestamp", .text "7"), ("designation", .text "rows"),
        ("routine_name", .text "a"), ("replace", .list [.list [.text "y", .int 2],
          .list [.text "x", .int 1]])])]) := by
    decide +kernel
  rw [run_read_worldHolding parsed]
  rfl

theorem run_read_numbered : (RecordStore.read storePath).run (worldHolding numbered) =
    (.ok [("a", numberedRecord)], worldHolding numbered) := by
  have parsed : Json.parseWithin RecordStore.maxDepth (Text.withUnifiedLineEnds numbered) =
      .ok (.object [("a", .object [("timestamp", .int 0), ("designation", .text "rows"),
        ("routine_name", .text "a"), ("parameters", .list [.object [("name", .text "b"),
          ("data_type", .text "char"), ("dtd_identifier", .int 5),
          ("character_set_name", .text "utf8")]])])]) := by
    decide +kernel
  rw [run_read_worldHolding parsed]
  rfl

theorem isWritable_worldHolding (text : String) :
    RecordStore.IsWritable storePath (worldHolding text) := by
  refine ⟨[], _, RecordStore.run_write_eq_ok.2 ⟨.object [], ⟨"/", ["s.json.tmp"]⟩,
    (worldHolding text).files, _, _, ?_, rfl, rfl, rfl, ?_, rfl, rfl⟩⟩
  · simp [RecordStore.toValue, Atom.sortEntries, Atom.areComparable]
    rfl
  · exact (Json.complete_fields (by simp)).2 (by simp)

end Sample

open Sample in
/-- Placeholders in disorder are read back. -/
theorem scrambled_store_kept : ∃ v back,
    (RecordStore.write storePath [("a", scrambledRecord)]).run (worldHolding scrambled) =
      (.ok (), v) ∧
      (RecordStore.read storePath).run v = (.ok back, v) ∧
      (RecordStore.sorted [("a", scrambledRecord)]).SameAs back := by
  obtain ⟨written, reads⟩ :=
    RecordStore.keeps_what_was_read run_read_scrambled (isWritable_worldHolding scrambled)
  have keepable : scrambledRecord.Keepable := ⟨by simp [scrambledRecord], rfl⟩
  have steady : scrambledRecord.Steady := by
    refine ⟨?_, by simp [scrambledRecord]⟩
    simp [scrambledRecord, Atom.isText]
  obtain ⟨v, run⟩ := written.2 fun e place => List.mem_singleton.1 place ▸ keepable
  obtain ⟨back, read, -, same⟩ := reads v run
  exact ⟨v, back, run, read, same.2 fun e place => List.mem_singleton.1 place ▸ steady⟩

open Sample in
/-- Not every store that was read can be written where some store can. -/
theorem read_store_not_written : ¬ ∀ (p q : Path) (w₀ w₁ w : World) (store : RecordStore),
    (RecordStore.read p).run w₀ = (.ok store, w₁) → RecordStore.IsWritable q w →
      ∃ v back, (store.write q).run w = (.ok (), v) ∧
        (RecordStore.read q).run v = (.ok back, v) ∧ store.sorted.SameAs back := by
  intro claimed
  obtain ⟨v, back, run, -⟩ :=
    claimed storePath storePath _ _ _ _ run_read_numbered (isWritable_worldHolding numbered)
  have failed : (RecordStore.write storePath [("a", numberedRecord)]).run (worldHolding numbered) =
      (.error (.defect (.wrongType "unsupported operand type(s) for +=: 'int' and 'str'")),
        worldHolding numbered) := by
    simp [RecordStore.write, RecordStore.toValue, Atom.sortEntries, Atom.areComparable]
    rfl
  rw [failed] at run
  cases run

end StoredRoutines
