import StoredRoutines.Proofs.Assignments
import StoredRoutines.Proofs.Reloading

/-!
Records that agree with themselves. A record is put together from annotations, the parameters that
the catalog reports, the columns of a table and the documentation comment; whatever the database
answers, the parts of a record that was made fit together, and they fit the source.
-/

namespace StoredRoutines

open Loader Outcomes

/-- The parts of a record fit together, and they fit the source. -/
structure BuildRecord.Consistent (source : RoutineSource) (r : BuildRecord) : Prop where
  /-- Just a bulk insert has a table. -/
  table : r.table ≠ .null ↔ r.designation = .text Designation.bulkInsertName
  bulk : r.table ≠ .null →
    r.fields.length = r.columns.length ∧ r.columnTypes.length = r.columns.length
  other : r.table = .null → r.fields = [] ∧ r.columnTypes = []
  /-- A parameter holds its declaration, if there is one of its name. -/
  extended : ∀ p ∈ r.parameters, ∀ e,
    p.extended = some e ↔ ∃ n, p.name = .atom n ∧ r.declared.lookup n = some e
  named : ∀ p ∈ r.parameters, ∀ e, p.extended = some e → e.name = p.name
  declared : ∀ n ∈ Assoc.keys r.declared, ∃ p ∈ r.parameters, p.name = .atom n
  documented : r.doc.parameters.map (·.name) = r.parameters.map (·.name)
  wrapped : ∀ p ∈ r.doc.parameters, ∃ type : SemanticType, p.semanticType = .text type.name
  /-- The keys are the tokens of the text, in increasing order. -/
  replace : ∃ tokens : List String, Assoc.keys r.replace = tokens.map Atom.text ∧
    tokens.Pairwise (· < ·) ∧ ∀ t, t ∈ tokens ↔ t ∈ Placeholder.find source.text
  constants : ∀ k : Substitution.Constant, .text k.key ∉ Assoc.keys r.replace
  routineName : r.routineName = .text source.name
  timestamp : r.timestamp = source.modified

namespace CatalogParameter

variable {declared : List ExtendedParameter} {source : String}

theorem TakesLast.extended_iff (texts : ∀ e ∈ declared, ∃ s, e.name = .text s)
    (distinct : (declared.map (·.name)).Nodup) {v : Value} {p q : CatalogParameter}
    (plain : p.extended = none) (named : SameName p.name v) (taken : TakesLast declared v p q)
    (e : ExtendedParameter) : q.extended = some e ↔ e ∈ declared ∧ e.name = q.name := by
  have names {d : ExtendedParameter} (member : d ∈ declared) (same : SameName d.name v) :
      d.name = p.name := by
    obtain ⟨s, shape⟩ := texts d member
    have equal := named.trans same.symm
    rw [shape] at equal ⊢
    exact (sameName_text_iff.1 equal).symm
  rw [taken.name]
  rcases taken with ⟨d, last, rfl⟩ | ⟨none, rfl⟩
  · have here := names last.mem last.sameName
    constructor
    · rintro ⟨⟩
      exact ⟨last.mem, here⟩
    · rintro ⟨member, same⟩
      exact congrArg some (List.inj_on_of_nodup_map distinct last.mem member (here.trans same.symm))
  · rw [plain]
    refine ⟨nofun, fun ⟨member, same⟩ => absurd ?_ (none e member)⟩
    rwa [same]

/-- Each merged parameter holds the declaration of its name, and no declaration is lost. -/
theorem declared_mergeAll {reported merged : List CatalogParameter}
    (plain : ∀ p ∈ reported, p.extended = none) (texts : ∀ e ∈ declared, ∃ s, e.name = .text s)
    (distinct : (declared.map (·.name)).Nodup)
    (found : mergeAll reported declared source = .ok merged) :
    (∀ p ∈ merged, (∃ n, p.name = .atom n) ∧
        ∀ e, p.extended = some e ↔ e ∈ declared ∧ e.name = p.name) ∧
      ∀ e ∈ declared, ∃ p ∈ merged, p.name = e.name := by
  have each := forall₂_of_mergeAll found
  constructor
  · intro p member
    obtain ⟨q, -, r, last, taken⟩ := exists_of_forall₂ each member
    refine ⟨?_, taken.extended_iff texts distinct (plain r last.mem) last.sameName⟩
    rw [taken.name]
    exact last.sameName.exists_atom
  · intro e member
    obtain ⟨s, shape⟩ := texts e member
    -- A declaration that names no parameter would make the merging fail.
    have reached : ∃ q ∈ reported, SameName e.name q.name := by
      by_contra none
      push Not at none
      obtain ⟨f, failed⟩ := mergeAll_fails_iff.2 (.inr ⟨e, member, none⟩)
      cases found.symm.trans failed
    obtain ⟨q, place, same⟩ := reached
    obtain ⟨p, inside, r, last, taken⟩ := exists_of_forall₂ each.flip place
    refine ⟨p, inside, ?_⟩
    have equal := last.sameName.trans same.symm
    rw [taken.name, shape]
    exact sameName_text_iff.1 (shape ▸ equal)

theorem extended_ofRow {row : Sql.Row} {p : CatalogParameter} (found : ofRow row = .ok p) :
    p.extended = none := by
  obtain ⟨name, -, rest⟩ := bind_eq_ok.1 found
  obtain ⟨type, -, last⟩ := bind_eq_ok.1 rest
  cases last
  rfl

theorem extended_of_fetch {layer : Sql.DataLayer} {routine : String} {w v : World}
    {reported : List CatalogParameter}
    (run : (fetch layer routine).run w = (.ok reported, v)) :
    ∀ p ∈ reported, p.extended = none := by
  obtain ⟨rows, _, -, read⟩ := run_bind_eq_ok.1 run
  obtain ⟨mapped, -⟩ := Prod.mk.inj ((run_ofExcept _ _).symm.trans read)
  intro p member
  obtain ⟨row, -, shape⟩ := exists_of_forall₂ (mapM_eq_ok.1 mapped) member
  exact extended_ofRow shape

@[simp] theorem name_afterLooks (n : Nat) (p : CatalogParameter) :
    (p.afterLooks n).name = p.name := by
  unfold afterLooks
  split <;> rfl

@[simp] theorem extended_afterLooks (n : Nat) (p : CatalogParameter) :
    (p.afterLooks n).extended = p.extended := by
  unfold afterLooks
  split <;> rfl

theorem names_mergedAtLastLook (ps : List CatalogParameter) :
    (mergedAtLastLook ps).map (·.name) = ps.map (·.name) := by
  simp [mergedAtLastLook]

end CatalogParameter

namespace RoutineDoc

theorem parameters_ofComment {label : String} {comment : DocComment}
    {parameters : List CatalogParameter} {doc : RoutineDoc}
    (found : ofComment label comment parameters = .ok doc) :
    doc.parameters.map (·.name) = parameters.map (·.name) ∧
      ∀ p ∈ doc.parameters, ∃ type : SemanticType, p.semanticType = .text type.name := by
  obtain ⟨wrapped, mapped, last⟩ := bind_eq_ok.1 found
  cases last
  have each : List.Forall₂ (fun (p : CatalogParameter) (q : WrapperParameter) => p.name = q.name ∧
      ∃ type : SemanticType, q.semanticType = .text type.name)
      (CatalogParameter.mergedAtLastLook parameters) wrapped := by
    refine (mapM_eq_ok.1 mapped).imp fun p q shape => ?_
    obtain ⟨type, -, rest⟩ := bind_eq_ok.1 shape
    obtain ⟨_, -, last⟩ := bind_eq_ok.1 rest
    cases last
    exact ⟨rfl, type, rfl⟩
  refine ⟨?_, fun q member => ?_⟩
  · rw [← CatalogParameter.names_mergedAtLastLook]
    exact (map_eq_of_forall₂ each fun _ _ same => same.1).symm
  · obtain ⟨p, -, same⟩ := exists_of_forall₂ each member
    exact same.2

theorem ofComment_of_build {source : RoutineSource} {parameters : List CatalogParameter}
    {doc : RoutineDoc} {warnings : List String} {w v : World}
    (run : (build source parameters).run w = (.ok (doc, warnings), v)) :
    ofComment source.label (comment source) parameters = .ok doc := by
  obtain ⟨built, _, commented, rest⟩ := run_bind_eq_ok.1 run
  obtain ⟨names, _, -, rest⟩ := run_bind_eq_ok.1 rest
  obtain ⟨_, _, -, last⟩ := run_bind_eq_ok.1 rest
  cases last
  exact (Prod.mk.inj ((run_ofExcept _ _).symm.trans commented)).1

end RoutineDoc

namespace Designation

theorem Keying.name_ne_bulkInsertName (k : Keying) : Keying.name k ≠ bulkInsertName := by
  cases k <;> decide

theorem name_eq_of_ofParts {name arguments : String} {d : Designation}
    (found : ofParts name arguments = .ok d) :
    d.name = bulkInsertName ↔ ∃ table columns, d = bulkInsert table columns := by
  unfold ofParts at found
  split at found
  · split at found <;> cases found
    exact ⟨fun _ => ⟨_, _, rfl⟩, fun _ => rfl⟩
  · rename_i other
    split at found
    · split at found <;> cases found
      exact ⟨fun same => absurd same (Keying.name_ne_bulkInsertName _),
        by rintro ⟨_, _, same⟩; cases same⟩
    · split at found <;> cases found
      exact ⟨fun same => absurd same other, by rintro ⟨_, _, same⟩; cases same⟩

theorem name_eq_of_ofSource {source : RoutineSource} {d : Designation} {line : Nat}
    (found : ofSource source = .ok (d, line)) :
    d.name = bulkInsertName ↔ ∃ table columns, d = bulkInsert table columns := by
  have read := mapError_eq_ok.1 found
  unfold ofLines at read
  split at read
  · cases read
  · split at read
    · cases read
    · obtain ⟨d', parts, pair⟩ := map_eq_ok.1 read
      cases pair
      exact name_eq_of_ofParts parts
    · cases read

end Designation

namespace BulkTable

variable {layer : Sql.DataLayer} {table : Value} {w v : World} {found : TableColumns}

theorem types_of_columns (run : (columns layer table).run w = (.ok found, v)) :
    found.types.length = found.fields.length := by
  obtain ⟨sql, _, -, rest⟩ := run_bind_eq_ok.1 run
  obtain ⟨rows, _, -, rest⟩ := run_bind_eq_ok.1 rest
  obtain ⟨pairs, _, -, last⟩ := run_bind_eq_ok.1 rest
  cases last
  rw [List.length_map, List.length_map]

theorem length_of_declaredColumns {routine : Value} {declared : Nat} {source : String}
    (run : (declaredColumns layer routine table declared source).run w = (.ok found, v)) :
    found.fields.length = declared ∧ found.types.length = declared := by
  obtain ⟨columns, u, materialized, last⟩ := run_bind_eq_ok.1 run
  split at last
  · rename_i many
    cases last
    obtain ⟨temporary, before, after, inside⟩ := run_of_whileMaterialized materialized
    obtain ⟨columns, u', asked, rest⟩ := run_bind_eq_ok.1 inside
    obtain ⟨_, _, -, last⟩ := run_bind_eq_ok.1 rest
    cases last
    exact ⟨many, (types_of_columns asked).trans many⟩
  · cases last

end BulkTable

namespace Annotations

variable {source : RoutineSource} {table : ReplaceTable} {a : Annotations}

theorem parts_of_ofSource (found : ofSource source table = .ok a) :
    (∃ line, Designation.ofSource source = .ok (a.designation, line)) ∧
      Header.ofSource source = .ok a.header := by
  obtain ⟨_, -, rest⟩ := bind_eq_ok.1 found
  obtain ⟨⟨designation, line⟩, designated, rest⟩ := bind_eq_ok.1 rest
  obtain ⟨header, headed, rest⟩ := bind_eq_ok.1 rest
  obtain ⟨_, -, last⟩ := bind_eq_ok.1 rest
  cases last
  exact ⟨⟨line, designated⟩, headed⟩

theorem routineName_of_ofSource (found : ofSource source table = .ok a) :
    a.routineName = source.name := by
  have headed := mapError_eq_ok.1 (parts_of_ofSource found).2
  unfold Header.ofText at headed
  split at headed
  · cases headed
  · split at headed
    · rename_i same
      rw [routineName, ← Except.ok.inj headed]
      exact same
    · cases headed

theorem tokens_of_ofSource (found : ofSource source table = .ok a) :
    (a.placeholders.map (·.1)).Pairwise (· < ·) ∧
      ∀ t, t ∈ a.placeholders.map (·.1) ↔ t ∈ Placeholder.find source.text := by
  obtain ⟨-, resolved⟩ := Placeholder.resolve_eq_ok_iff.1 (resolved_of_ofSource found)
  have tokens : a.placeholders.map (·.1) =
      Placeholder.sortTexts (Placeholder.find source.text) := by
    rw [resolved, List.map_map]
    exact List.map_id _
  rw [tokens]
  exact ⟨Atom.increasing_of_nodup (Batch.nodup_eraseDups _),
    fun t => (Placeholder.sortTexts_perm _).mem_iff⟩

end Annotations

namespace BuildRecord

variable {source : RoutineSource} {table : ReplaceTable} {a : Annotations} {r : BuildRecord}

theorem forall₂_justMade (r : BuildRecord) :
    List.Forall₂ (fun p q => p.name = q.name ∧ p.extended = q.extended)
      r.justMade.parameters r.parameters := by
  have made : r.justMade.parameters = CatalogParameter.mergedAfterLooks 1
      (CatalogParameter.mergedAtLastLook r.parameters) := rfl
  rw [made, CatalogParameter.mergedAfterLooks, CatalogParameter.mergedAtLastLook,
    List.map_map, List.forall₂_map_left_iff]
  exact List.forall₂_same.2 fun p _ => by simp

theorem documented_justMade (r : BuildRecord)
    (same : r.doc.parameters.length = r.parameters.length) :
    r.justMade.doc.parameters.map (fun p => (p.name, p.semanticType)) =
      r.doc.parameters.map fun p => (p.name, p.semanticType) := by
  have made : r.justMade.doc.parameters =
      List.zipWith withTypeOf r.doc.parameters r.justMade.parameters := rfl
  have shown (w : WrapperParameter) (p : CatalogParameter) :
      ((withTypeOf w p).name, (withTypeOf w p).semanticType) = (w.name, w.semanticType) := by
    unfold withTypeOf
    split <;> rfl
  rw [made, ← List.map_uncurry_zip_eq_zipWith, List.map_map]
  have first : (fun p : WrapperParameter => (p.name, p.semanticType)) ∘ Function.uncurry withTypeOf =
      (fun p => (p.name, p.semanticType)) ∘ Prod.fst :=
    funext fun e => shown e.1 e.2
  rw [first, ← List.map_map, List.map_fst_zip]
  rw [same, (forall₂_justMade r).length_eq]

theorem Consistent.justMade (h : r.Consistent source) : r.justMade.Consistent source := by
  have looked := forall₂_justMade r
  have names : r.justMade.parameters.map (·.name) = r.parameters.map (·.name) :=
    map_eq_of_forall₂ looked fun _ _ same => same.1
  have shown := documented_justMade r (by simpa using congrArg List.length h.documented)
  -- A look changes values behind the members of a parameter, never its name or its declaration.
  have each (p : CatalogParameter) (member : p ∈ r.justMade.parameters) :
      ∃ q ∈ r.parameters, p.name = q.name ∧ p.extended = q.extended := by
    obtain ⟨q, place, left, right⟩ := exists_of_forall₂ looked.flip member
    exact ⟨q, place, left, right⟩
  refine ⟨h.table, h.bulk, h.other, ?extended, ?named, ?declared, ?documented, ?wrapped,
    h.replace, h.constants, h.routineName, h.timestamp⟩
  case extended =>
    intro p member e
    obtain ⟨q, place, name, held⟩ := each p member
    rw [name, held]
    exact h.extended q place e
  case named =>
    intro p member e merged
    obtain ⟨q, place, name, held⟩ := each p member
    exact (h.named q place e (held.symm.trans merged)).trans name.symm
  case declared =>
    intro n member
    obtain ⟨q, place, name⟩ := h.declared n member
    have there : q.name ∈ r.justMade.parameters.map (·.name) := by
      rw [names]
      exact List.mem_map.2 ⟨q, place, rfl⟩
    obtain ⟨p, found, same⟩ := List.mem_map.1 there
    exact ⟨p, found, same.trans name⟩
  case documented =>
    have left := congrArg (List.map Prod.fst) shown
    rw [List.map_map, List.map_map] at left
    exact left.trans (h.documented.trans names.symm)
  case wrapped =>
    intro w member
    have there : (w.name, w.semanticType) ∈
        r.doc.parameters.map fun p => (p.name, p.semanticType) := by
      rw [← shown]
      exact List.mem_map.2 ⟨w, member, rfl⟩
    obtain ⟨d, place, same⟩ := List.mem_map.1 there
    rw [← (Prod.mk.inj same).2]
    exact h.wrapped d place

/-- A declaration is found under its name, since the declared names are distinct. -/
theorem lookup_declared {listParameters : List ListParameter}
    (distinct : (listParameters.map (·.name)).Nodup) {n : Atom} {e : ExtendedParameter} :
    (listParameters.map fun p => (Atom.text p.name, ExtendedParameter.ofDeclaration p)).lookup n =
        some e ↔
      e ∈ listParameters.map ExtendedParameter.ofDeclaration ∧ e.name = .atom n := by
  have keys := (textKeys_texts distinct ExtendedParameter.ofDeclaration).distinct
  constructor
  · intro found
    obtain ⟨p, place, same⟩ := List.mem_map.1 (Assoc.mem_of_lookup found)
    cases same
    exact ⟨List.mem_map.2 ⟨p, place, rfl⟩, rfl⟩
  · rintro ⟨member, name⟩
    obtain ⟨p, place, rfl⟩ := List.mem_map.1 member
    cases name
    exact Assoc.lookup_of_mem keys (List.mem_map.2 ⟨p, place, rfl⟩)

/-- The columns fit the designation: as many as declared, and none but for a bulk insert. -/
def Fits (columns : TableColumns) : Designation → Prop
  | .bulkInsert _ declared =>
    columns.fields.length = declared.length ∧ columns.types.length = declared.length
  | _ => columns = {}

theorem consistent_ofBuild {parameters : List CatalogParameter} {columns : TableColumns}
    {doc : RoutineDoc} (annotated : Annotations.ofSource source table = .ok a)
    (extended : ∀ p ∈ parameters, (∃ n, p.name = .atom n) ∧ ∀ e, p.extended = some e ↔
      e ∈ a.listParameters.map ExtendedParameter.ofDeclaration ∧ e.name = p.name)
    (declared : ∀ e ∈ a.listParameters.map ExtendedParameter.ofDeclaration,
      ∃ p ∈ parameters, p.name = e.name)
    (fits : Fits columns a.designation)
    (documented : doc.parameters.map (·.name) = parameters.map (·.name))
    (wrapped : ∀ p ∈ doc.parameters, ∃ type : SemanticType, p.semanticType = .text type.name) :
    (ofBuild source a parameters columns doc).Consistent source := by
  obtain ⟨line, designated⟩ := (Annotations.parts_of_ofSource annotated).1
  have named : a.designation.name = Designation.bulkInsertName ↔ _ :=
    Designation.name_eq_of_ofSource designated
  obtain ⟨increasing, tokens⟩ := Annotations.tokens_of_ofSource annotated
  have replace : Assoc.keys (ofBuild source a parameters columns doc).replace =
      (a.placeholders.map (·.1)).map Atom.text := by
    rw [ofBuild, Assoc.keys, List.map_map, List.map_map]
    rfl
  have distinct := (Annotations.sound_ofSource annotated).declarations
  constructor
  case table =>
    have text : (ofBuild source a parameters columns doc).designation =
        .text Designation.bulkInsertName ↔ a.designation.name = Designation.bulkInsertName :=
      ⟨fun same => Atom.text.inj (Value.atom.inj same), fun same => by rw [ofBuild, same]⟩
    rw [text, named, ofBuild]
    cases a.designation <;> simp [Designation.table?, Value.ofOption]
  case bulk =>
    revert fits
    unfold ofBuild
    cases a.designation <;> simp [Designation.table?, Value.ofOption, Fits, Designation.columns]
  case other =>
    revert fits
    unfold ofBuild
    cases a.designation <;> simp +contextual [Designation.table?, Value.ofOption, Fits]
  case extended =>
    intro p member e
    obtain ⟨⟨n, name⟩, held⟩ := extended p member
    rw [held, name]
    constructor
    · rintro ⟨place, same⟩
      exact ⟨n, rfl, (lookup_declared distinct).2 ⟨place, same⟩⟩
    · rintro ⟨m, same, found⟩
      cases same
      exact (lookup_declared distinct).1 found
  case named =>
    intro p member e merged
    exact (((extended p member).2 e).1 merged).2
  case declared =>
    intro n member
    obtain ⟨e, place, rfl⟩ := List.mem_map.1 member
    obtain ⟨l, listed, rfl⟩ := List.mem_map.1 place
    exact declared _ (List.mem_map.2 ⟨l, listed, rfl⟩)
  case documented => exact documented
  case wrapped => exact wrapped
  case replace => exact ⟨_, replace, increasing, tokens⟩
  case constants =>
    intro k member
    rw [replace] at member
    obtain ⟨t, place, same⟩ := List.mem_map.1 member
    cases same
    -- A token starts with a sign, a constant does not.
    obtain ⟨more, starts⟩ := (Placeholder.isToken_of_mem_tokens
      (Placeholder.mem_find.1 ((tokens _).1 place))).starts
    exact k.no_sign (by rw [starts]; simp)
  case routineName => exact congrArg Value.text (Annotations.routineName_of_ofSource annotated)
  case timestamp => rfl

end BuildRecord

namespace Compile

variable {settings : LoaderSettings} {layer : Sql.DataLayer} {source : RoutineSource}
  {table : ReplaceTable} {a : Annotations} {entry : Option CatalogEntry} {w v : World}

theorem fits_of_bulkColumns {columns : TableColumns}
    (run : (bulkColumns layer source a).run w = (.ok columns, v)) :
    BuildRecord.Fits columns a.designation := by
  unfold bulkColumns at run
  cases designation : a.designation with
  | bulkInsert name declared =>
    rw [designation] at run
    exact BulkTable.length_of_declaredColumns run
  | keyed _ _ | plain _ =>
    rw [designation] at run
    cases run
    rfl

/-- What the database reports of a routine makes a record that agrees with itself. -/
theorem consistent_of_describe {record : BuildRecord} {warnings : List String}
    (annotated : Annotations.ofSource source table = .ok a)
    (run : (describe layer source a).run w = (.ok (record, warnings), v)) :
    record.Consistent source := by
  obtain ⟨reported, parameters, columns, doc, _, _, fetched, merged, bulk, documenting, rfl⟩ :=
    steps_of_describe run
  have texts : ∀ e ∈ a.listParameters.map ExtendedParameter.ofDeclaration,
      ∃ s, e.name = .text s := by
    intro e member
    obtain ⟨p, -, rfl⟩ := List.mem_map.1 member
    exact ⟨p.name, rfl⟩
  have distinct : ((a.listParameters.map ExtendedParameter.ofDeclaration).map (·.name)).Nodup := by
    have names : (a.listParameters.map ExtendedParameter.ofDeclaration).map (·.name) =
        (a.listParameters.map (·.name)).map Value.text := by
      rw [List.map_map, List.map_map]
      rfl
    rw [names]
    exact (Annotations.sound_ofSource annotated).declarations.map
      fun _ _ same => by cases same; rfl
  obtain ⟨extended, declared⟩ := CatalogParameter.declared_mergeAll
    (CatalogParameter.extended_of_fetch fetched) texts distinct merged
  obtain ⟨documented, wrapped⟩ :=
    RoutineDoc.parameters_ofComment (RoutineDoc.ofComment_of_build documenting)
  exact (BuildRecord.consistent_ofBuild annotated extended declared (fits_of_bulkColumns bulk)
    documented wrapped).justMade

theorem consistent_of_rebuild {reason reason' : StaleReason} {r : RoutineResult}
    {record : BuildRecord} {warnings : List String}
    (run : (rebuild settings layer source table entry reason).run w = (.ok r, v))
    (loaded : r.outcome = .loaded reason' record warnings) : record.Consistent source := by
  obtain ⟨a, u, making, describing⟩ := steps_of_rebuild run loaded
  exact consistent_of_describe (ofSource_of_make making) describing

end Compile

theorem Sql.Database.performs_of_never {db : Sql.Database}
    (never : ∀ before sql, db.failure before sql = none) (before sqls : List String) :
    db.Performs before sqls := by
  induction sqls generalizing before with
  | nil => trivial
  | cons sql sqls ih => exact ⟨never _ _, ih _⟩

namespace BulkTable

variable {db : Sql.Database} {w : World}

theorem run_declaredColumns_of_permanent (routine : Value) (label : String) {table : Value}
    {literal sql : String} {found : List (Value × String)}
    (quoted : db.layer.quoteValue table = .ok literal)
    (describes : describeQuery table = .ok sql)
    (performed : db.Performs w.statements [existsQuery literal, sql])
    (permanent : (db.scalar w.statements (existsQuery literal)).isNothing = false)
    (read : (db.rows (w.statements ++ [existsQuery literal]) sql).mapM columnOfRow = .ok found) :
    ∃ v, (declaredColumns db.layer routine table found.length label).run w =
      (.ok ⟨found.map (·.1), found.map (·.2)⟩, v) := by
  obtain ⟨first, second, -⟩ := performed
  let asked := w.after [.statement (existsQuery literal)]
  have before : asked.statements = w.statements ++ [existsQuery literal] := by simp [asked]
  have there : (isPermanent db.layer table).run w = (.ok true, asked) := by
    refine (run_bind_of_ok (by rw [run_ofExcept, quoted])).trans ?_
    refine (run_bind_of_ok (Sql.Database.run_scalar_of_none first)).trans ?_
    rw [permanent]
    rfl
  have described : (columns db.layer table).run asked =
      (.ok ⟨found.map (·.1), found.map (·.2)⟩, asked.after [.statement sql]) := by
    rw [run_columns_of_described describes, before, second, Option.elim_none, read]
    rfl
  refine ⟨?after, run_bind_eq_ok.2 ⟨⟨found.map (·.1), found.map (·.2)⟩, ?after, ?shown, ?counted⟩⟩
  case shown =>
    refine (run_bind_of_ok there).trans ?_
    rw [if_pos rfl]
    exact run_bind_of_ok described
  case counted =>
    rw [if_pos (List.length_map _)]
    rfl

end BulkTable

namespace Sample

def listText : String :=
  "create procedure a()\n-- type: bulk_insert t x\n-- param: p list_of_int\nbegin\n  select @k@;\n" ++
    "end\n"

def listSource : RoutineSource := ⟨path, ".psql", listText, 0⟩

def listTable : ReplaceTable := [("@K@", .int 1)]

def listDeclaration : ListParameter := ⟨"p", "list_of_int", ',', '"', '\\'⟩

def listAnnotations : Annotations :=
  ⟨⟨"procedure", "a"⟩, .bulkInsert "t" ["x"], [listDeclaration], [("@k@", "1")]⟩

def describing : Sql.Database where
  failure _ _ := none
  rows _ _ := [[("parameter_name", .text "p"), ("data_type", .text "varchar"),
    ("Field", .text "x"), ("Type", .text "int(11)")]]
  scalar _ _ := .int 1
  escape := Sql.escapeForScript

theorem load_listSource :
    RoutineSource.load (filesWith listText) path ".psql" = .ok listSource :=
  load_filesWith String.ofList_append.symm (by decide) (by decide)

theorem lines_listSource : listSource.lines = ["create procedure a()", "-- type: bulk_insert t x",
    "-- param: p list_of_int", "begin", "  select @k@;", "end", ""] :=
  RoutineSource.lines_of_spelled String.ofList_append.symm rfl

theorem find_listSource : Placeholder.find listSource.text = ["@k@"] :=
  RoutineSource.find_of_spelled String.ofList_append.symm (by decide +kernel)

theorem resolve_listSource : Placeholder.resolve listSource listTable = .ok [("@k@", "1")] := by
  have value : Placeholder.value? listTable "@k@" = some (.int 1) := by decide
  rw [Placeholder.resolve_eq_ok_iff, find_listSource]
  refine ⟨by simp [value], ?_⟩
  simp [Placeholder.sortTexts, value]
  decide

theorem ofSource_listSource : Annotations.ofSource listSource listTable = .ok listAnnotations := by
  have designation : Designation.ofSource listSource = .ok (.bulkInsert "t" ["x"], 1) :=
    RoutineSource.designation_of_lines lines_listSource (by decide +kernel)
  have header : Header.ofSource listSource = .ok ⟨"procedure", "a"⟩ :=
    RoutineSource.header_of_spelled String.ofList_append.symm rfl rfl
  have listed : ListParameter.ofSource listSource 1 = .ok [listDeclaration] := by
    rw [ListParameter.ofSource, RoutineSource.beginLine?, lines_listSource]
    decide +kernel
  refine bind_eq_ok.2 ⟨_, resolve_listSource, bind_eq_ok.2 ⟨_, designation, ?_⟩⟩
  exact bind_eq_ok.2 ⟨_, header, bind_eq_ok.2 ⟨_, listed, rfl⟩⟩

def listParameter : CatalogParameter where
  name := .text "p"
  dataType := .text "varchar"
  extended := some (.ofDeclaration listDeclaration)

def listDoc : RoutineDoc :=
  ⟨.text "", .text "", [⟨.text "p", .text "str|list[int]", .text "", .null⟩]⟩

def listRecord : BuildRecord where
  routineName := .text "a"
  routineType := .text "procedure"
  designation := .text "bulk_insert"
  table := .text "t"
  columns := [.text "x"]
  parameters := [listParameter]
  fields := [.text "x"]
  columnTypes := [.text "int"]
  replace := [("@k@", .text "1")]
  doc := listDoc
  declared := [("p", .ofDeclaration listDeclaration)]

theorem ofBuild_listSource : (BuildRecord.ofBuild listSource listAnnotations [listParameter]
    ⟨[.text "x"], ["int"]⟩ listDoc).justMade = listRecord := by
  decide +kernel

theorem run_describe_listSource (u : World) : ∃ warnings v,
    (Compile.describe describing.layer listSource listAnnotations).run u =
      (.ok (listRecord, warnings), v) := by
  let asked := u.after [.statement (CatalogParameter.query (describing.layer.quote "a"))]
  have fetched : (CatalogParameter.fetch describing.layer "a").run u =
      (.ok [{ name := .text "p", dataType := .text "varchar" }], asked) :=
    run_bind_of_ok (Sql.Database.run_rows_of_none (show describing.failure _ _ = none from rfl))
  have merged : CatalogParameter.mergeAll [{ name := .text "p", dataType := .text "varchar" }]
      (listAnnotations.listParameters.map .ofDeclaration) listSource.label =
        .ok [listParameter] := rfl
  have read : (describing.rows [] "").mapM BulkTable.columnOfRow = .ok [(.text "x", "int")] := by
    decide
  have quoted : describing.layer.quoteValue (.text "t") = .ok "'t'" := rfl
  have describes : BulkTable.describeQuery (.text "t") = .ok "describe `t`" := rfl
  obtain ⟨v, bulk⟩ := BulkTable.run_declaredColumns_of_permanent (w := asked) (.text "a")
    listSource.label quoted describes ⟨rfl, rfl, trivial⟩ rfl read
  have documented : RoutineDoc.ofComment listSource.label (RoutineDoc.comment listSource)
      [listParameter] = .ok listDoc := rfl
  obtain ⟨es, building, -⟩ := RoutineDoc.build_yields documented rfl v
  rw [← ofBuild_listSource]
  exact ⟨_, _, run_bind_eq_ok.2 ⟨_, _, fetched, run_bind_eq_ok.2 ⟨_, asked,
    (run_ofExcept _ _).trans (Prod.ext merged rfl),
    run_bind_eq_ok.2 ⟨_, _, bulk, run_bind_eq_ok.2 ⟨_, _, building, rfl⟩⟩⟩⟩⟩

theorem run_compile_listSource : ∃ warnings v,
    (compile settings describing.layer path none listTable none).run (world listText) =
      (.ok ⟨path, "a", .loaded .noRecord listRecord warnings⟩, v) := by
  obtain ⟨sqls, planned⟩ : ∃ sqls, makingStatements describing.layer [] listSource
      listAnnotations session none = .ok sqls := ⟨_, rfl⟩
  have loaded : RoutineSource.load (world listText).files path settings.extension =
      .ok listSource := load_listSource
  have judged : Freshness.judge none listSource.modified listTable settings.session none =
      .ok (.stale .noRecord) := rfl
  obtain ⟨u, -, -, ending⟩ := Compile.run_compile_of_performs loaded judged ofSource_listSource
    planned (Sql.Database.performs_of_never (fun _ _ => rfl) _ _)
  obtain ⟨warnings, v, described⟩ := run_describe_listSource u
  exact ⟨warnings, v, ending _ _ described⟩

end Sample

/-- Whatever the database answers, the record of a routine that was loaded agrees with itself and
with the source that was read. -/
theorem compile_record_consistent {settings : LoaderSettings} {layer : Sql.DataLayer} {path : Path}
    {previous : Option BuildRecord} {table : ReplaceTable} {entry : Option CatalogEntry}
    {w v : World} {r : RoutineResult} {reason : StaleReason} {record : BuildRecord}
    {warnings : List String}
    (run : (compile settings layer path previous table entry).run w = (.ok r, v))
    (loaded : r.outcome = .loaded reason record warnings) :
    ∃ source, RoutineSource.load w.files path settings.extension = .ok source ∧
      record.Consistent source := by
  obtain ⟨examined, u, attempted, rest⟩ := run_bind_eq_ok.1 run
  cases examined with
  | error e =>
    rw [(Compile.run_stop rest).1] at loaded
    cases loaded
  | ok judgement =>
    obtain ⟨source, judged⟩ := judgement
    obtain ⟨found, -, rfl⟩ := Compile.run_examine (run_attempt_eq_ok.1 attempted)
    cases judged with
    | upToDate kept =>
      cases rest
      cases loaded
    | stale reason' => exact ⟨source, found, Compile.consistent_of_rebuild rest loaded⟩

open Sample in
/-- The record of a bulk insert with a list parameter and a placeholder agrees with itself. -/
theorem list_record_consistent : ∃ record warnings v,
    (compile settings describing.layer path none listTable none).run (world listText) =
        (.ok ⟨path, "a", .loaded .noRecord record warnings⟩, v) ∧
      ∃ source, RoutineSource.load (filesWith listText) path ".psql" = .ok source ∧
        record.Consistent source := by
  obtain ⟨warnings, v, run⟩ := run_compile_listSource
  exact ⟨listRecord, warnings, v, run, compile_record_consistent run rfl⟩

end StoredRoutines
