import StoredRoutines.Proofs.SourceTexts
import StoredRoutines.Proofs.StoredParts

/-!
Records and stores, written as values and read back. A record reads back as it is kept after one
more look at its parameters. Of a flat record nothing changes but its tables, which come in the
order of their keys; so nothing but this order is lost of a record of scalars, and it is written
again in the same way.
-/

namespace StoredRoutines

open Outcomes

namespace BuildRecord

/-- The record is flat, and the keys of its tables are distinct texts. -/
structure Flat (r : BuildRecord) : Prop where
  routineName : r.routineName.Scalar
  routineType : r.routineType.Scalar
  designation : r.designation.Scalar
  table : r.table.Scalar
  columns : ∀ v ∈ r.columns, v.Scalar
  parameters : ∀ p ∈ r.parameters, p.Flat
  fields : ∀ v ∈ r.fields, v.Scalar
  columnTypes : ∀ v ∈ r.columnTypes, v.Scalar
  placeholders : TextKeys r.replace
  replace : ∀ e ∈ r.replace, e.2.Scalar
  doc : r.doc.Flat
  declarations : TextKeys r.declared
  declared : ∀ e ∈ r.declared, e.2.Scalar

/-- The record is flat, and no type of a parameter is a list. -/
structure Scalar (r : BuildRecord) : Prop extends Flat r where
  types : ∀ p ∈ r.parameters, p.Scalar

def inOrder (r : BuildRecord) : BuildRecord :=
  { r with replace := Atom.ordered r.replace, declared := Atom.ordered r.declared }

def storedMembers (parameters : List Value) (r : BuildRecord) : List (String × Value) :=
  [("routine_name", r.routineName), ("routine_type", r.routineType),
    ("designation", r.designation), ("table_name", r.table), ("columns", .list r.columns),
    ("fields", .list r.fields), ("column_types", .list r.columnTypes),
    ("parameters", .list parameters), ("timestamp", .int r.timestamp),
    ("replace", .object r.replace), ("doc", r.doc.toValue), ("spec_params", r.declaredValue)]

variable {r : BuildRecord}

theorem toValue_eq (r : BuildRecord) : r.toValue =
    (r.parameters.mapM CatalogParameter.toValue).map fun parameters =>
      .ofMembers (r.storedMembers parameters) := by
  unfold toValue membersWith
  cases r.parameters.mapM CatalogParameter.toValue <;> rfl

theorem nodup_names (parameters : List Value) (r : BuildRecord) :
    ((r.storedMembers parameters).map (·.1)).Nodup := by
  simp [storedMembers]

theorem readable_list {items : List Value} (h : ∀ v ∈ items, v.Scalar) (depth : Nat) :
    (Value.list items).Readable (depth + 1) :=
  .list fun v member => (h v member).readable depth

theorem Scalar.afterLooks (h : r.Scalar) (n : Nat) : r.afterLooks n = r := by
  have same : r.parameters.map (·.afterLooks n) = r.parameters.map id :=
    List.map_congr_left (fun p member => (h.types p member).afterLooks n)
  rw [BuildRecord.afterLooks, same, List.map_id]

/-- The record with each member changed, its declarations in order, and its placeholders given. -/
def mappedWith (f : Value → Value) (replace : List (Atom × Value)) (r : BuildRecord) :
    BuildRecord where
  routineName := f r.routineName
  routineType := f r.routineType
  designation := f r.designation
  table := f r.table
  columns := r.columns.map f
  parameters := r.parameters.map (·.mapped f)
  fields := r.fields.map f
  columnTypes := r.columnTypes.map f
  timestamp := r.timestamp
  replace := replace
  doc := r.doc.mapped f
  declared := (Atom.ordered r.declared).map fun e => (e.1, e.2.mapped f)

def kept (r : BuildRecord) : BuildRecord :=
  r.mappedWith Value.kept
    (Assoc.ofPairs ((Atom.ordered r.replace).map fun e => (e.1.spelled, e.2.kept)))

/-- The declarations of a record are named by distinct texts, and those merged into a parameter by
the name of the parameter. -/
structure Named (r : BuildRecord) : Prop where
  parameters : ∀ p ∈ r.parameters, p.Named
  declarations : TextKeys r.declared

theorem Named.declaredOf_kept (h : r.Named) : declaredOf r.declaredValue.kept =
    .ok ((Atom.ordered r.declared).map fun e => (e.1, e.2.kept)) := by
  have keys := h.declarations.map ExtendedParameter.toValue
  have shape : r.declaredValue.kept = .object ((Atom.ordered r.declared).map fun e =>
      (e.1, e.2.toValue.kept)) := by
    rw [declaredValue, Value.kept_of_texts keys.texts keys.distinct, Atom.ordered_map, List.map_map]
    rfl
  have read : ((Atom.ordered r.declared).map fun e => (e.1, e.2.toValue.kept)).mapM
      (fun f => (ExtendedParameter.ofValue f.2).map fun p => (f.1, p)) =
        .ok ((Atom.ordered r.declared).map fun e => (e.1, e.2.kept)) := by
    rw [mapM_eq_ok, List.forall₂_map_left_iff, List.forall₂_map_right_iff, List.forall₂_same]
    intro e _
    rw [e.2.ofValue_kept]
    rfl
  rw [shape, declaredOf]
  split
  · rename_i nothing
    have none : Atom.ordered r.declared = [] := by
      simpa [Value.isNothing] using nothing
    rw [none]
    rfl
  · exact read

theorem Named.mapM_kept (h : r.Named) {parameters : List Value}
    (mapped : r.parameters.mapM CatalogParameter.toValue = .ok parameters) :
    (parameters.map Value.kept).mapM CatalogParameter.ofValue =
      .ok (r.afterLooks 1).kept.parameters := by
  have shape : (r.afterLooks 1).kept.parameters =
      r.parameters.map fun p => (p.afterLooks 1).kept := List.map_map
  rw [shape]
  refine Value.mapM_kept (List.forall₂_map_left_iff.2 ?_)
  exact forall₂_imp_of_mem (mapM_eq_ok.1 mapped)
    fun p w place _ shape => (h.parameters p place).ofValue_kept shape

theorem ofValue_doc_kept (d : RoutineDoc) :
    RoutineDoc.ofValue (if d.toValue.kept.isNothing then .object [] else d.toValue.kept) =
      .ok d.kept := by
  have described : d.members ≠ [] := by simp [RoutineDoc.members]
  have something : d.toValue.kept.isNothing = false := Value.isNothing_kept described d.nodup_names
  rw [if_neg (by simp [something]), d.ofValue_kept]

theorem Named.ofValue_kept (h : r.Named) {v : Value} (written : r.toValue = .ok v) :
    ofValue v.kept = .ok (r.afterLooks 1).kept := by
  rw [toValue_eq] at written
  obtain ⟨parameters, mapped, rfl⟩ := map_eq_ok.1 written
  let o := (Value.ofMembers (r.storedMembers parameters)).kept
  have distinct := nodup_names parameters r
  have read (k : String) (w : Value) (inside : (k, w) ∈ r.storedMembers parameters) :
      o.member k = .ok w.kept := Value.member_kept distinct inside
  have readOr (k : String) (w default : Value) (inside : (k, w) ∈ r.storedMembers parameters) :
      o.memberOr k default = .ok w.kept := Value.memberOr_kept distinct inside default
  have list (k : String) (items : List Value) (default : Value)
      (inside : (k, .list items) ∈ r.storedMembers parameters) :
      o.memberOr k default = .ok (.list (items.map Value.kept)) := by
    rw [← Value.kept_list]
    exact readOr k _ default inside
  have designation := read "designation" r.designation (by simp [storedMembers])
  have table := readOr "table_name" r.table .null (by simp [storedMembers])
  have columns := list "columns" r.columns .null (by simp [storedMembers])
  have name := read "routine_name" r.routineName (by simp [storedMembers])
  have type := readOr "routine_type" r.routineType (.text "procedure") (by simp [storedMembers])
  have listed := list "parameters" parameters (.list []) (by simp [storedMembers])
  have parameterwise := h.mapM_kept mapped
  have fields := list "fields" r.fields .null (by simp [storedMembers])
  have columnTypes := list "column_types" r.columnTypes .null (by simp [storedMembers])
  have timestamp : o.member "timestamp" = .ok (.int r.timestamp) :=
    read "timestamp" (.int r.timestamp) (by simp [storedMembers])
  have replace : o.memberOr "replace" .null = .ok (.object r.kept.replace) := by
    rw [BuildRecord.kept, mappedWith, ← Value.kept_object]
    exact readOr "replace" _ .null (by simp [storedMembers])
  have docValue := readOr "doc" r.doc.toValue .null (by simp [storedMembers])
  have specified := readOr "spec_params" r.declaredValue .null (by simp [storedMembers])
  have doc := ofValue_doc_kept r.doc
  change ofValue o = _
  unfold ofValue
  -- The members in the order in which they are read, which is not the one they are written in.
  refine bind_eq_ok.2 ⟨_, designation, bind_eq_ok.2 ⟨_, table, ?_⟩⟩
  refine bind_eq_ok.2 ⟨_, columns, bind_eq_ok.2 ⟨_, Value.partsOrNone_list _, ?_⟩⟩
  refine bind_eq_ok.2 ⟨_, name, bind_eq_ok.2 ⟨_, type, ?_⟩⟩
  refine bind_eq_ok.2 ⟨_, listed, bind_eq_ok.2 ⟨_, rfl, bind_eq_ok.2 ⟨_, parameterwise, ?_⟩⟩⟩
  refine bind_eq_ok.2 ⟨_, fields, bind_eq_ok.2 ⟨_, Value.partsOrNone_list _, ?_⟩⟩
  refine bind_eq_ok.2 ⟨_, columnTypes, bind_eq_ok.2 ⟨_, Value.partsOrNone_list _, ?_⟩⟩
  refine bind_eq_ok.2 ⟨_, timestamp, bind_eq_ok.2 ⟨_, rfl, ?_⟩⟩
  refine bind_eq_ok.2 ⟨_, replace, bind_eq_ok.2 ⟨_, Value.entries_object _, ?_⟩⟩
  refine bind_eq_ok.2 ⟨_, docValue, bind_eq_ok.2 ⟨_, doc, ?_⟩⟩
  exact bind_eq_ok.2 ⟨_, specified, bind_eq_ok.2 ⟨_, h.declaredOf_kept, rfl⟩⟩

namespace Flat

theorem readable_replace (h : r.Flat) (depth : Nat) :
    (Value.object r.replace).Readable (depth + 1) :=
  .object h.placeholders.names h.placeholders.distinct fun e member =>
    (h.replace e member).readable depth

theorem readable_declared (h : r.Flat) (depth : Nat) : r.declaredValue.Readable (depth + 2) := by
  have keys := h.declarations.map ExtendedParameter.toValue
  refine .object keys.names keys.distinct ?_
  intro e member
  obtain ⟨d, place, rfl⟩ := List.mem_map.1 member
  exact (h.declared d place).readable depth

theorem readable (h : r.Flat) {v : Value} (written : r.toValue = .ok v) (depth : Nat) :
    v.Readable (depth + 5) := by
  rw [toValue_eq] at written
  obtain ⟨parameters, mapped, rfl⟩ := map_eq_ok.1 written
  have each : ∀ w ∈ parameters, w.Readable (depth + 3) := by
    intro w member
    obtain ⟨p, place, shape⟩ := exists_of_forall₂ (mapM_eq_ok.1 mapped) member
    exact (h.parameters p place).readable shape (depth + 1)
  refine Value.readable_ofMembers (nodup_names parameters r) ?_
  simp only [storedMembers, List.forall_mem_cons]
  exact ⟨h.routineName.readable _, h.routineType.readable _, h.designation.readable _,
    h.table.readable _, readable_list h.columns _, readable_list h.fields _,
    readable_list h.columnTypes _, .list each, (Value.scalar_int _).readable _,
    h.readable_replace _, h.doc.readable _, h.readable_declared _, by simp⟩

theorem named (h : r.Flat) : r.Named where
  parameters := fun p place => (h.parameters p place).named
  declarations := h.declarations

theorem afterLooks (h : r.Flat) (n : Nat) : (r.afterLooks n).Flat where
  __ := h
  parameters := by
    intro q member
    obtain ⟨p, place, rfl⟩ := List.mem_map.1 member
    exact (h.parameters p place).afterLooks n

theorem kept (h : r.Flat) : r.kept = r.inOrder := by
  have parameters : r.parameters.map (·.mapped Value.kept) = r.parameters.map id :=
    List.map_congr_left fun p place => (h.parameters p place).kept
  have replace : (Atom.ordered r.replace).map (fun e => (e.1.spelled, e.2.kept)) =
      (Atom.ordered r.replace).map id := by
    refine List.map_congr_left fun e place => ?_
    have inside := Atom.mem_ordered.1 place
    rw [Atom.spelled_of_text (h.placeholders.texts e inside), (h.replace e inside).kept]
    rfl
  have declared : (Atom.ordered r.declared).map (fun e => (e.1, e.2.mapped Value.kept)) =
      (Atom.ordered r.declared).map id :=
    List.map_congr_left fun e place =>
      congrArg (e.1, ·) (h.declared e (Atom.mem_ordered.1 place)).kept
  have doc : r.doc.mapped Value.kept = r.doc := h.doc.kept
  rw [BuildRecord.kept, mappedWith, BuildRecord.inOrder, h.routineName.kept, h.routineType.kept,
    h.designation.kept, h.table.kept, Value.map_kept_eq_self h.columns, parameters,
    Value.map_kept_eq_self h.fields, Value.map_kept_eq_self h.columnTypes, replace, doc,
    declared, List.map_id, List.map_id, List.map_id,
    Assoc.ofPairs_of_nodup h.placeholders.ordered.distinct]

theorem inOrder (h : r.Flat) : r.inOrder.Flat where
  routineName := h.routineName
  routineType := h.routineType
  designation := h.designation
  table := h.table
  columns := h.columns
  parameters := h.parameters
  fields := h.fields
  columnTypes := h.columnTypes
  placeholders := h.placeholders.ordered
  replace := fun e member => h.replace e (Atom.mem_ordered.1 member)
  doc := h.doc
  declarations := h.declarations.ordered
  declared := fun e member => h.declared e (Atom.mem_ordered.1 member)

theorem written_inOrder (h : r.Flat) {v : Value} (written : r.toValue = .ok v) :
    ∃ v', r.inOrder.toValue = .ok v' ∧ ∀ level, Json.written level v' = Json.written level v := by
  rw [toValue_eq] at written
  obtain ⟨parameters, mapped, rfl⟩ := map_eq_ok.1 written
  refine ⟨.ofMembers (r.inOrder.storedMembers parameters), ?_, fun level => ?_⟩
  · rw [toValue_eq]
    exact map_eq_ok.2 ⟨parameters, mapped, rfl⟩
  · have replace := Json.written_ordered h.placeholders.texts (level + 1)
    have declared := Json.written_ordered (h.declarations.map ExtendedParameter.toValue).texts
      (level + 1)
    rw [Atom.ordered_map] at declared
    refine Json.written_congr ?_
    simp only [storedMembers, BuildRecord.inOrder, declaredValue, List.map_cons, List.map_nil,
      replace, declared]

end Flat

theorem Scalar.inOrder (h : r.Scalar) : r.inOrder.Scalar where
  toFlat := h.toFlat.inOrder
  types := h.types

/-- The records differ in the order of their tables at most. -/
structure SameAs (r s : BuildRecord) : Prop where
  replace : s.replace.Perm r.replace
  declared : s.declared.Perm r.declared
  rest : { s with replace := r.replace, declared := r.declared } = r

theorem SameAs.refl (r : BuildRecord) : r.SameAs r := ⟨.refl _, .refl _, rfl⟩

end BuildRecord

def BuildRecord.asValue (r : BuildRecord) : Value := r.toValue.toOption.getD .null

theorem BuildRecord.asValue_of_ok {r : BuildRecord} {v : Value} (written : r.toValue = .ok v) :
    r.asValue = v := by
  rw [asValue, written]
  rfl

namespace RecordStore

/-- All records are flat, and the names of the routines are distinct texts. -/
structure Flat (store : RecordStore) : Prop where
  keys : TextKeys store
  records : ∀ e ∈ store, e.2.Flat

/-- All records are made of scalars, and the names of the routines are distinct texts. -/
structure Scalar (store : RecordStore) : Prop where
  keys : TextKeys store
  records : ∀ e ∈ store, e.2.Scalar

def afterLooks (n : Nat) (store : RecordStore) : RecordStore :=
  store.map fun e => (e.1, e.2.afterLooks n)

def inOrder (store : RecordStore) : RecordStore :=
  (Atom.ordered store).map fun e => (e.1, e.2.inOrder)

def kept (store : RecordStore) : RecordStore := (Atom.ordered store).map fun e => (e.1, e.2.kept)

/-- Routines are named by distinct texts, and so are the declarations in their records. -/
structure Named (store : RecordStore) : Prop where
  keys : TextKeys store
  records : ∀ e ∈ store, e.2.Named

variable {store : RecordStore}

theorem Scalar.flat (h : store.Scalar) : store.Flat := ⟨h.keys, fun e member => (h.records e member).toFlat⟩

theorem Scalar.afterLooks (h : store.Scalar) (n : Nat) : store.afterLooks n = store := by
  have same : store.afterLooks n = store.map id := by
    refine List.map_congr_left (fun e member => ?_)
    rw [(h.records e member).afterLooks]
    rfl
  rw [same, List.map_id]

theorem Scalar.inOrder (h : store.Scalar) : store.inOrder.Scalar where
  keys := h.keys.ordered.map BuildRecord.inOrder
  records := by
    intro e member
    obtain ⟨d, place, rfl⟩ := List.mem_map.1 member
    exact (h.records d (Atom.mem_ordered.1 place)).inOrder

theorem toValue_eq_ok (keys : TextKeys store) {v : Value} : store.toValue = .ok v ↔
    (∀ e ∈ store, e.2.toValue = .ok e.2.asValue) ∧
      v = .object ((Atom.ordered store).map fun e => (e.1, e.2.asValue)) := by
  have started : store.toValue = ((Atom.ordered store).mapM fun e : Atom × BuildRecord =>
      e.2.toValue.map fun v => (e.1, v)).map .object := by
    have mapped (r : Except Failure (List (Atom × Value))) :
        (r >>= fun fields => pure (Value.object fields)) = r.map .object := by
      cases r <;> rfl
    unfold toValue
    rw [Atom.sortEntries_of_texts keys.texts]
    exact mapped _
  rw [started, map_eq_ok]
  constructor
  · rintro ⟨fields, mapped, rfl⟩
    have each := mapM_eq_ok.1 mapped
    constructor
    · intro e member
      obtain ⟨f, -, shape⟩ := exists_of_forall₂ each.flip (Atom.mem_ordered.2 member)
      obtain ⟨w, recorded, -⟩ := map_eq_ok.1 shape
      rw [recorded, BuildRecord.asValue_of_ok recorded]
    · have same := map_eq_of_forall₂ (f := fun e : Atom × BuildRecord => (e.1, e.2.asValue)) (g := id) each
        fun e f shape => by
          obtain ⟨w, recorded, rfl⟩ := map_eq_ok.1 shape
          rw [BuildRecord.asValue_of_ok recorded]
          rfl
      rw [same, List.map_id]
  · rintro ⟨each, rfl⟩
    refine ⟨_, ?_, rfl⟩
    rw [mapM_eq_ok, List.forall₂_map_right_iff, List.forall₂_same]
    intro e member
    rw [each e (Atom.mem_ordered.1 member)]
    rfl

theorem Named.ofValue_kept (h : store.Named) {v : Value} (written : store.toValue = .ok v)
    (p : Path) : ofValue p v.kept = .ok (store.afterLooks 1).kept := by
  obtain ⟨each, rfl⟩ := (toValue_eq_ok h.keys).1 written
  have keys := h.keys.ordered.map BuildRecord.asValue
  have read : (((Atom.ordered store).map fun e => (e.1, e.2.asValue)).map fun e =>
      (e.1, e.2.kept)).mapM (fun f => (BuildRecord.ofValue f.2).map fun r => (f.1, r)) =
        .ok (store.afterLooks 1).kept := by
    rw [mapM_eq_ok, RecordStore.kept, RecordStore.afterLooks, Atom.ordered_map, List.map_map,
      List.map_map, List.forall₂_map_left_iff, List.forall₂_map_right_iff, List.forall₂_same]
    intro e member
    have inside := Atom.mem_ordered.1 member
    simp only [Function.comp_apply]
    rw [(h.records e inside).ofValue_kept (each e inside)]
    rfl
  rw [Value.kept_of_texts keys.texts keys.distinct, Atom.ordered_map,
    Atom.ordered_ordered h.keys.texts, ofValue, read]
  rfl

theorem ofBytes_render {v : Value} (spellable : v.Spellable maxDepth)
    (complete : (Json.render v).failure = none) (p : Path) :
    ofBytes p (content (Json.render v)) = ofValue p v.kept := by
  have decoded : Text.decode (content (Json.render v)) =
      .ok (String.ofList ((Json.render v).characters ++ ['\n'])) := by
    have bytes : content (Json.render v) =
        (String.ofList ((Json.render v).characters ++ ['\n'])).toUTF8 := by
      rw [content, complete]
      rfl
    rw [bytes, Text.decode_toUTF8]
  have unified : Text.withUnifiedLineEnds (String.ofList ((Json.render v).characters ++ ['\n'])) =
      String.ofList ((Json.render v).characters ++ ['\n']) := by
    have plain : Json.Plain ((Json.render v).characters ++ ['\n']) := by
      refine (Json.plain_of_spellable spellable complete).append ?_
      intro c member
      exact .inl (List.mem_singleton.1 member)
    rw [Text.withUnifiedLineEnds, String.toList_ofList, Text.unifyLineEnds_of_no_return plain.no_return]
  rw [ofBytes, decoded]
  simp only
  rw [unified, Json.parseWithin_of_spellable spellable complete]

namespace Flat

theorem inOrder (h : store.Flat) : store.inOrder.Flat where
  keys := h.keys.ordered.map BuildRecord.inOrder
  records := by
    intro e member
    obtain ⟨d, place, rfl⟩ := List.mem_map.1 member
    exact (h.records d (Atom.mem_ordered.1 place)).inOrder

theorem readable (h : store.Flat) {v : Value} (written : store.toValue = .ok v) (depth : Nat) :
    v.Readable (depth + 6) := by
  obtain ⟨each, rfl⟩ := (toValue_eq_ok h.keys).1 written
  have keys := h.keys.ordered.map BuildRecord.asValue
  refine .object keys.names keys.distinct ?_
  intro f member
  obtain ⟨e, place, rfl⟩ := List.mem_map.1 member
  have inside := Atom.mem_ordered.1 place
  exact (h.records e inside).readable (each e inside) depth

theorem render_inOrder (h : store.Flat) {v : Value} (written : store.toValue = .ok v) :
    ∃ v', store.inOrder.toValue = .ok v' ∧ Json.render v' = Json.render v := by
  obtain ⟨each, rfl⟩ := (toValue_eq_ok h.keys).1 written
  have again (e : Atom × BuildRecord) (inside : e ∈ store) :
      e.2.inOrder.toValue = .ok e.2.inOrder.asValue ∧
        ∀ level, Json.written level e.2.inOrder.asValue = Json.written level e.2.asValue := by
    obtain ⟨w, recorded, same⟩ := (h.records e inside).written_inOrder (each e inside)
    rw [BuildRecord.asValue_of_ok recorded]
    exact ⟨recorded, same⟩
  refine ⟨_, (toValue_eq_ok h.inOrder.keys).2 ⟨fun d member => ?_, rfl⟩, ?_⟩
  · obtain ⟨e, place, rfl⟩ := List.mem_map.1 member
    exact (again e (Atom.mem_ordered.1 place)).1
  · refine Json.written_congr ?_
    rw [RecordStore.inOrder, Atom.ordered_map, Atom.ordered_ordered h.keys.texts, List.map_map,
      List.map_map, List.map_map]
    refine List.map_congr_left (fun e member => ?_)
    simp only [Function.comp_apply, (again e (Atom.mem_ordered.1 member)).2]

theorem named (h : store.Flat) : store.Named := ⟨h.keys, fun e member => (h.records e member).named⟩

theorem kept (h : store.Flat) : (store.afterLooks 1).kept = (store.afterLooks 1).inOrder := by
  refine List.map_congr_left fun e place => ?_
  obtain ⟨d, member, rfl⟩ := List.mem_map.1 (Atom.mem_ordered.1 place)
  rw [((h.records d member).afterLooks 1).kept]

/-- The content of the file of a store reads back as the store after one more look, in order. -/
theorem ofBytes_content (h : store.Flat) {v : Value} (written : store.toValue = .ok v)
    (complete : (Json.render v).failure = none) (p : Path) :
    ofBytes p (content (Json.render v)) = .ok (store.afterLooks 1).inOrder := by
  rw [ofBytes_render (.value (h.readable written 979)) complete, h.named.ofValue_kept written, h.kept]

end Flat

/-- The stores hold the same records under the same names. -/
structure SameAs (store back : RecordStore) : Prop where
  names : (Assoc.keys back).Perm (Assoc.keys store)
  records : ∀ name record, store.lookup name = some record →
    ∃ found, back.lookup name = some found ∧ record.SameAs found

theorem SameAs.refl (store : RecordStore) : store.SameAs store :=
  ⟨.refl _, fun _ record found => ⟨record, found, .refl record⟩⟩

end RecordStore

end StoredRoutines
