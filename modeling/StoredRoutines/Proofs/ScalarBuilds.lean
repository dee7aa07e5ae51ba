import StoredRoutines.Proofs.Assignments
import StoredRoutines.Proofs.Grouping
import StoredRoutines.Proofs.Judging
import StoredRoutines.Proofs.Making
import StoredRoutines.Proofs.Merging
import StoredRoutines.Proofs.StoredRecords

/-!
Records that a build makes. A database that answers with scalars only leads to records of scalars.
A record that was made holds, apart from the catalog, for the source and the placeholders that it
was made from.
-/

namespace StoredRoutines

open Loader Outcomes

def Sql.Row.Scalar (row : Sql.Row) : Prop := ∀ cell ∈ row, cell.2.Scalar

/-- The database answers queries for rows with scalars only. -/
def Sql.Database.Scalar (db : Sql.Database) : Prop :=
  ∀ before sql, ∀ row ∈ db.rows before sql, row.Scalar

namespace Sql.Row.Scalar

variable {row : Sql.Row}

theorem cell (h : row.Scalar) {label : String} {v : Value} (found : row.cell label = .ok v) :
    v.Scalar := by
  unfold Sql.Row.cell at found
  split at found
  · rename_i there
    cases found
    exact h _ (Assoc.mem_of_lookup there)
  · cases found

theorem cellOrNull (h : row.Scalar) (label : String) : (row.cellOrNull label).Scalar := by
  unfold Sql.Row.cellOrNull
  cases there : row.lookup label with
  | none => exact Value.scalar_null
  | some v => exact h _ (Assoc.mem_of_lookup there)

end Sql.Row.Scalar

theorem ExtendedParameter.scalar_ofDeclaration (p : ListParameter) : (ofDeclaration p).Scalar :=
  ⟨Value.scalar_text _, Value.scalar_text _, Value.scalar_text _, Value.scalar_text _,
    Value.scalar_text _⟩

namespace CatalogParameter

theorem scalar_ofRow {row : Sql.Row} (h : row.Scalar) {p : CatalogParameter}
    (found : ofRow row = .ok p) : p.Scalar := by
  obtain ⟨name, named, rest⟩ := bind_eq_ok.1 found
  obtain ⟨type, typed, last⟩ := bind_eq_ok.1 rest
  cases last
  have identifier : (((row.cellOrNull "dtd_identifier").something?).getD (.text "")).Scalar := by
    unfold Value.something?
    split
    · exact Value.scalar_text ""
    · exact h.cellOrNull _
  exact ⟨⟨h.cell named, h.cell typed, identifier.flat, h.cellOrNull _, h.cellOrNull _,
    h.cellOrNull _, h.cellOrNull _, by simp⟩, identifier⟩

theorem Scalar.merged {p : CatalogParameter} (h : p.Scalar) {e : ExtendedParameter}
    (scalar : e.Scalar) (named : e.name = p.name) : (p.merged e).Scalar := by
  refine ⟨{ h.toFlat with extended := ?_ }, h.type⟩
  rintro e' ⟨⟩
  exact ⟨scalar, named⟩

theorem scalar_mergeAll {parameters result : List CatalogParameter}
    {declared : List ExtendedParameter} {source : String} (each : ∀ p ∈ parameters, p.Scalar)
    (texts : ∀ e ∈ declared, e.Scalar ∧ ∃ s, e.name = .text s)
    (found : mergeAll parameters declared source = .ok result) : ∀ p ∈ result, p.Scalar := by
  intro p member
  obtain ⟨q, -, r, last, taken⟩ := exists_of_forall₂ (forall₂_of_mergeAll found) member
  rcases taken with ⟨e, declares, rfl⟩ | ⟨-, rfl⟩
  · obtain ⟨scalar, s, shape⟩ := texts e declares.mem
    refine (each r last.mem).merged scalar ?_
    have same := last.sameName.trans declares.sameName.symm
    rw [shape] at same ⊢
    exact (sameName_text_iff.1 same).symm
  · exact each _ last.mem

end CatalogParameter

namespace RoutineDoc

theorem scalar_descriptionOf (descriptions : List (String × String)) (name : Value) :
    (descriptionOf descriptions name).Scalar := by
  unfold descriptionOf
  split
  · exact Value.scalar_text _
  · exact Value.scalar_null

theorem flat_ofComment {label : String} {comment : DocComment}
    {parameters : List CatalogParameter} (each : ∀ p ∈ parameters, p.Flat) {doc : RoutineDoc}
    (found : ofComment label comment parameters = .ok doc) : doc.Flat := by
  obtain ⟨wrapped, mapped, last⟩ := bind_eq_ok.1 found
  cases last
  refine ⟨Value.scalar_text _, Value.scalar_text _, fun w member => ?_⟩
  obtain ⟨p, place, shape⟩ := exists_of_forall₂ (mapM_eq_ok.1 mapped) member
  obtain ⟨q, inside, rfl⟩ := List.mem_map.1 place
  have flat := (each q inside).afterLooks (parameters.count q - 1)
  obtain ⟨type, -, rest⟩ := bind_eq_ok.1 shape
  obtain ⟨full, described, last⟩ := bind_eq_ok.1 rest
  cases last
  exact ⟨flat.name, Value.scalar_text _, flat.typeDescriptor described, scalar_descriptionOf _ _⟩

end RoutineDoc

namespace BulkTable

variable {db : Sql.Database} {table : Value} {w v : World} {found : TableColumns}

theorem run_of_whileMaterialized {α : Type} {layer : Sql.DataLayer} {routine : Value}
    {x : Bool → Loader α} {a : α}
    (run : (whileMaterialized layer routine table x).run w = (.ok a, v)) :
    ∃ temporary before after, (x temporary).run before = (.ok a, after) := by
  obtain ⟨permanent, u, looked, rest⟩ := run_bind_eq_ok.1 run
  cases permanent with
  | true => exact ⟨false, u, v, rest⟩
  | false =>
    obtain ⟨call, called, calling, rest⟩ := run_bind_eq_ok.1 rest
    obtain ⟨_, before, executed, rest⟩ := run_bind_eq_ok.1 rest
    obtain ⟨outcome, after, attempted, rest⟩ := run_bind_eq_ok.1 rest
    obtain ⟨drop, _, dropping, rest⟩ := run_bind_eq_ok.1 rest
    obtain ⟨_, _, dropped, last⟩ := run_bind_eq_ok.1 rest
    rw [run_ofExcept] at last
    obtain ⟨rfl, -⟩ := Prod.mk.inj last
    exact ⟨true, before, after, run_attempt_eq_ok.1 attempted⟩

theorem scalar_columns (scalar : db.Scalar)
    (run : (columns db.layer table).run w = (.ok found, v)) : ∀ c ∈ found.fields, c.Scalar := by
  obtain ⟨sql, u, described, rest⟩ := run_bind_eq_ok.1 run
  obtain ⟨rows, u', asked, rest⟩ := run_bind_eq_ok.1 rest
  obtain ⟨pairs, u'', read, last⟩ := run_bind_eq_ok.1 rest
  cases last
  obtain ⟨-, rfl, -⟩ := Sql.Database.run_rows_eq_ok.1 asked
  obtain ⟨mapped, -⟩ := Prod.mk.inj ((run_ofExcept _ _).symm.trans read)
  intro c member
  obtain ⟨pair, inside, rfl⟩ := List.mem_map.1 member
  obtain ⟨row, place, shape⟩ := exists_of_forall₂ (mapM_eq_ok.1 mapped) inside
  obtain ⟨field, named, rest⟩ := bind_eq_ok.1 shape
  obtain ⟨type, typed, last⟩ := bind_eq_ok.1 rest
  cases last
  exact (scalar _ _ row place).cell named

theorem scalar_declaredColumns (scalar : db.Scalar) {routine : Value} {declared : Nat}
    {source : String}
    (run : (declaredColumns db.layer routine table declared source).run w = (.ok found, v)) :
    ∀ c ∈ found.fields, c.Scalar := by
  obtain ⟨columns, u, materialized, last⟩ := run_bind_eq_ok.1 run
  split at last
  · cases last
    obtain ⟨temporary, before, after, inside⟩ := run_of_whileMaterialized materialized
    obtain ⟨columns, u', asked, rest⟩ := run_bind_eq_ok.1 inside
    obtain ⟨_, _, _, last⟩ := run_bind_eq_ok.1 rest
    cases last
    exact scalar_columns scalar asked
  · cases last

end BulkTable

namespace Annotations

variable {source : RoutineSource} {table : ReplaceTable} {a : Annotations}

theorem nodup_ofDeclarations {before parameters : List ListParameter}
    {declarations : List (List (List Char))} (distinct : (before.map (·.name)).Nodup)
    (found : ListParameter.ofDeclarations before declarations = .ok parameters) :
    (parameters.map (·.name)).Nodup := by
  induction declarations generalizing before with
  | nil =>
    cases found
    exact distinct
  | cons words rest ih =>
    unfold ListParameter.ofDeclarations at found
    split at found
    · cases found
    · rename_i p declared
      split at found
      · cases found
      · rename_i fresh
        refine ih ?_ found
        rw [List.map_append, List.nodup_append]
        refine ⟨distinct, by simp, ?_⟩
        rintro name member _ last rfl
        obtain ⟨q, place, same⟩ := List.mem_map.1 member
        rw [List.map_singleton, List.mem_singleton] at last
        refine fresh (List.any_eq_true.2 ⟨q, place, ?_⟩)
        rw [same, last]
        exact decide_eq_true rfl

theorem placeholders_of_resolve {placeholders : List (String × String)}
    (found : Placeholder.resolve source table = .ok placeholders) :
    (placeholders.map (·.1)).Nodup ∧
      ∀ e ∈ placeholders, ∃ v, Placeholder.value? table e.1 = some v ∧ e.2 = v.display := by
  refine ⟨?_, fun e member => ((Placeholder.mem_placeholders found).1 member).2⟩
  obtain ⟨-, rfl⟩ := Placeholder.resolve_eq_ok_iff.1 found
  have tokens : ((Placeholder.sortTexts (Placeholder.find source.text)).map fun t =>
      (t, ((Placeholder.value? table t).getD .null).display)).map (·.1) =
        Placeholder.sortTexts (Placeholder.find source.text) := by
    rw [List.map_map]
    exact List.map_id _
  rw [tokens]
  exact (Placeholder.sortTexts_perm _).nodup_iff.2 (Batch.nodup_eraseDups _)

/-- What the annotations of a source have in common, whatever the source says. -/
structure Sound (table : ReplaceTable) (a : Annotations) : Prop where
  placeholders : (a.placeholders.map (·.1)).Nodup
  values : ∀ e ∈ a.placeholders,
    ∃ v, Placeholder.value? table e.1 = some v ∧ e.2 = v.display
  declarations : (a.listParameters.map (·.name)).Nodup

theorem sound_ofSource (found : ofSource source table = .ok a) : a.Sound table := by
  obtain ⟨placeholders, resolved, rest⟩ := bind_eq_ok.1 found
  obtain ⟨designated, designation, rest⟩ := bind_eq_ok.1 rest
  obtain ⟨header, headed, rest⟩ := bind_eq_ok.1 rest
  obtain ⟨declared, listed, last⟩ := bind_eq_ok.1 rest
  cases last
  obtain ⟨distinct, values⟩ := placeholders_of_resolve resolved
  refine ⟨distinct, values, ?_⟩
  unfold ListParameter.ofSource at listed
  split at listed
  · cases listed
  · exact nodup_ofDeclarations (by simp) (mapError_eq_ok.1 listed)

end Annotations

namespace BuildRecord

variable {source : RoutineSource} {table : ReplaceTable} {a : Annotations}
  {parameters : List CatalogParameter} {columns : TableColumns} {doc : RoutineDoc}

theorem textKeys_texts {α β : Type} {items : List α} {name : α → String}
    (distinct : (items.map name).Nodup) (f : α → β) :
    TextKeys (items.map fun i => (Atom.text (name i), f i)) where
  names := by
    intro e member
    obtain ⟨i, -, rfl⟩ := List.mem_map.1 member
    exact ⟨rfl, trivial⟩
  distinct := by
    have keys : Assoc.keys (items.map fun i => (Atom.text (name i), f i)) =
        (items.map name).map Atom.text := by
      rw [Assoc.keys, List.map_map, List.map_map]
      rfl
    rw [keys]
    exact distinct.map (fun _ _ same => by cases same; rfl)

theorem scalar_ofBuild (sound : a.Sound table) (each : ∀ p ∈ parameters, p.Scalar)
    (fields : ∀ c ∈ columns.fields, c.Scalar) (documented : doc.Flat) :
    (ofBuild source a parameters columns doc).Scalar where
  routineName := Value.scalar_text _
  routineType := Value.scalar_text _
  designation := Value.scalar_text _
  table := by
    unfold ofBuild
    cases a.designation.table? with
    | none => exact Value.scalar_null
    | some s => exact Value.scalar_text s
  columns := by
    intro v member
    obtain ⟨s, -, rfl⟩ := List.mem_map.1 member
    exact Value.scalar_text s
  parameters := fun p member => (each p member).toFlat
  fields := fields
  columnTypes := by
    intro v member
    obtain ⟨s, -, rfl⟩ := List.mem_map.1 member
    exact Value.scalar_text s
  placeholders := textKeys_texts sound.placeholders fun p => Value.text p.2
  replace := by
    intro e member
    obtain ⟨p, -, rfl⟩ := List.mem_map.1 member
    exact Value.scalar_text _
  doc := documented
  declarations := textKeys_texts sound.declarations ExtendedParameter.ofDeclaration
  declared := by
    intro e member
    obtain ⟨p, -, rfl⟩ := List.mem_map.1 member
    exact ExtendedParameter.scalar_ofDeclaration p
  types := each

/-- Looks at the parameters do not change a record of scalars, but for documentation that has no
parameter. -/
theorem Scalar.justMade {r : BuildRecord} (h : r.Scalar) : r.justMade.Scalar := by
  have looked : CatalogParameter.mergedAtLastLook r.parameters = r.parameters :=
    CatalogParameter.map_afterLooks_eq_self (fun p member => (h.types p member).type.ne_list) _
  have again : CatalogParameter.mergedAfterLooks 1 r.parameters = r.parameters :=
    CatalogParameter.map_afterLooks_eq_self (fun p member => (h.types p member).type.ne_list) _
  have made : r.justMade =
      { r with doc.parameters := List.zipWith withTypeOf r.doc.parameters r.parameters } := by
    simp only [BuildRecord.justMade, afterMergedLooks, looked, again]
  rw [made]
  refine ⟨{ h.toFlat with doc := ⟨h.doc.short, h.doc.long, fun w member => ?_⟩ }, h.types⟩
  rw [← List.map_uncurry_zip_eq_zipWith] at member
  obtain ⟨⟨w, p⟩, pair, rfl⟩ := List.mem_map.1 member
  obtain ⟨left, right⟩ := List.of_mem_zip pair
  have documented := h.doc.parameters w left
  change (withTypeOf w p).Flat
  unfold withTypeOf
  split
  · rename_i items list
    exact absurd list ((h.types p right).type.ne_list items)
  · exact documented

/-- A record that was made holds, apart from the catalog, for what it was made from. -/
theorem holds_ofBuild (sound : a.Sound table) :
    Freshness.Holds source.modified table (ofBuild source a parameters columns doc).justMade := by
  refine ⟨rfl, Freshness.ofPlaceholders_eq_none_iff.2 ?_⟩
  intro e member
  obtain ⟨p, place, rfl⟩ := List.mem_map.1 member
  obtain ⟨v, valued, shown⟩ := sound.values p place
  exact ⟨p.1, v, rfl, valued, by rw [shown]⟩

end BuildRecord

namespace Compile

variable {db : Sql.Database} {source : RoutineSource} {table : ReplaceTable} {a : Annotations}
  {w v : World} {record : BuildRecord} {warnings : List String}

theorem run_describe_eq_ok (run : (describe db.layer source a).run w = (.ok (record, warnings), v)) :
    ∃ parameters columns doc,
      record = (BuildRecord.ofBuild source a parameters columns doc).justMade ∧
        (db.Scalar → (∀ p ∈ parameters, p.Scalar) ∧ (∀ c ∈ columns.fields, c.Scalar) ∧
          doc.Flat) := by
  obtain ⟨reported, parameters, columns, doc, u, u', fetched, merged, bulk, documented, shape⟩ :=
    steps_of_describe run
  refine ⟨parameters, columns, doc, shape, fun scalar => ?_⟩
  obtain ⟨rows, _, asked, read⟩ := run_bind_eq_ok.1 fetched
  obtain ⟨-, rfl, -⟩ := Sql.Database.run_rows_eq_ok.1 asked
  obtain ⟨mapped, -⟩ := Prod.mk.inj ((run_ofExcept _ _).symm.trans read)
  have catalog : ∀ p ∈ reported, p.Scalar := by
    intro p member
    obtain ⟨row, place, shape⟩ := exists_of_forall₂ (mapM_eq_ok.1 mapped) member
    exact CatalogParameter.scalar_ofRow (scalar _ _ row (List.mem_filter.1 place).1) shape
  have declared : ∀ e ∈ a.listParameters.map ExtendedParameter.ofDeclaration,
      e.Scalar ∧ ∃ s, e.name = .text s := by
    intro e member
    obtain ⟨p, -, rfl⟩ := List.mem_map.1 member
    exact ⟨ExtendedParameter.scalar_ofDeclaration p, p.name, rfl⟩
  have parametric := CatalogParameter.scalar_mergeAll catalog declared merged
  refine ⟨parametric, ?_, ?_⟩
  · unfold bulkColumns at bulk
    split at bulk
    · exact BulkTable.scalar_declaredColumns scalar bulk
    · cases bulk
      simp
  · obtain ⟨built, _, commented, rest⟩ := run_bind_eq_ok.1 documented
    obtain ⟨names, _, _, rest⟩ := run_bind_eq_ok.1 rest
    obtain ⟨_, _, _, last⟩ := run_bind_eq_ok.1 rest
    cases last
    obtain ⟨explained, -⟩ := Prod.mk.inj ((run_ofExcept _ _).symm.trans commented)
    exact RoutineDoc.flat_ofComment (fun p member => (parametric p member).toFlat) explained

theorem record_of_rebuild {settings : LoaderSettings} {entry : Option CatalogEntry}
    {reason : StaleReason} {r : RoutineResult}
    (run : (rebuild settings db.layer source table entry reason).run w = (.ok r, v))
    (found : r.outcome.record? = some record) :
    Freshness.Holds source.modified table record ∧ (db.Scalar → record.Scalar) := by
  obtain ⟨outcome, rfl, ⟨_, _, rfl⟩ | ⟨kept, warnings, rfl⟩⟩ := run_rebuild run
  · cases found
  · cases found
    obtain ⟨a, u, making, describing⟩ := steps_of_rebuild run rfl
    have sound := Annotations.sound_ofSource (ofSource_of_make making)
    obtain ⟨parameters, columns, doc, shape, flat⟩ := run_describe_eq_ok describing
    rw [shape]
    refine ⟨BuildRecord.holds_ofBuild sound, fun scalar => ?_⟩
    obtain ⟨each, fields, documented⟩ := flat scalar
    exact (BuildRecord.scalar_ofBuild sound each fields documented).justMade

end Compile

/-- The record of a compiled source holds for the source, apart from the catalog, and is made of
scalars if the earlier record is. -/
theorem record_of_compile {db : Sql.Database} {settings : LoaderSettings} {path : Path}
    {previous : Option BuildRecord} {table : ReplaceTable} {entry : Option CatalogEntry}
    {w v : World} {r : RoutineResult} {record : BuildRecord}
    (run : (compile settings db.layer path previous table entry).run w = (.ok r, v))
    (found : r.outcome.record? = some record) :
    (∃ source, RoutineSource.load w.files path settings.extension = .ok source ∧
        Freshness.Holds source.modified table record) ∧
      (db.Scalar → (∀ kept, previous = some kept → kept.Scalar) → record.Scalar) := by
  obtain ⟨source, loaded, ⟨-, judged⟩ | ⟨reason, rebuilding⟩⟩ := Compile.judged_of_compile run found
  · obtain ⟨rfl, holds, -⟩ := Freshness.judge_upToDate_iff.1 judged
    exact ⟨⟨source, loaded, holds⟩, fun _ flat => flat _ rfl⟩
  · obtain ⟨holds, flat⟩ := Compile.record_of_rebuild rebuilding found
    exact ⟨⟨source, loaded, holds⟩, fun scalar _ => flat scalar⟩

end StoredRoutines
