import StoredRoutines.Proofs.Assignments
import StoredRoutines.Proofs.Making

/-!
The documentation of a routine beside the warnings about it. Descriptions are looked up one by one,
and warnings compare two lists of names; still a parameter has no description exactly if a warning
says so.
-/

namespace StoredRoutines

open Loader Outcomes

def Value.IsText (v : Value) : Prop := ∃ a : Atom, v = .atom a ∧ a.isText = true

namespace CatalogParameter

/-- The fields of a parameter that are meant to be texts are texts. -/
structure Typed (p : CatalogParameter) : Prop where
  name : p.name.IsText
  type : p.effectiveType.IsText
  full : p.dtdIdentifier.IsText

def Supported (p : CatalogParameter) : Prop :=
  ∃ n ∈ SemanticType.supported, p.effectiveType = .text n

end CatalogParameter

namespace SemanticType

theorem mem_supported {n : String} : n ∈ supported ↔ n = decimalName ∨ ∃ t, (n, t) ∈ table := by
  simp [supported]

theorem ofCatalog_isOk_iff {type : Value} (scale : Value) (label : String) :
    (∃ t, ofCatalog type scale label = .ok t) ↔ ∃ n ∈ supported, type = .text n := by
  constructor
  · rintro ⟨t, found⟩
    unfold ofCatalog at found
    split at found
    · rename_i n
      refine ⟨n, mem_supported.2 ?_, rfl⟩
      split at found
      · rename_i decimal
        exact .inl decimal
      · split at found
        · rename_i there
          exact .inr ⟨_, Assoc.mem_of_lookup there⟩
        · cases found
    · cases found
    · cases found
    · cases found
  · rintro ⟨n, listed, rfl⟩
    rw [ofCatalog]
    split
    · exact ⟨_, rfl⟩
    · rename_i other
      obtain ⟨t, there⟩ := (mem_supported.1 listed).resolve_left other
      have known : (table.lookup n).isSome = true :=
        List.lookup_isSome_iff.2 ⟨_, there, beq_self_eq_true n⟩
      obtain ⟨t', found⟩ := Option.isSome_iff_exists.1 known
      rw [found]
      exact ⟨t', rfl⟩

theorem ofCatalog_eq_error {type scale : Value} {label : String} {f : Failure}
    (text : type.IsText) (failed : ofCatalog type scale label = .error f) :
    f = .error (unsupported type label) := by
  obtain ⟨a, rfl, isText⟩ := text
  cases a <;> cases isText
  · rename_i n
    rw [ofCatalog] at failed
    split at failed
    · cases failed
    · split at failed <;> cases failed
      rfl
  · cases failed
    rfl

end SemanticType

namespace RoutineDoc

/-- What the documentation of a parameter says, given what the comment tells: names and
descriptions in the order of the tags. -/
structure Describes (label : String) (told : List (String × String)) (p : CatalogParameter)
    (q : WrapperParameter) : Prop where
  name : q.name = p.name
  type : ∃ t, SemanticType.ofCatalog p.effectiveType p.numericScale label = .ok t ∧
    q.semanticType = .text t.name
  full : p.typeDescriptor = .ok q.typeDescriptor
  /-- Without a description, no tag has the name. -/
  undescribed : q.description = .null ↔ ∀ d ∈ told, p.name ≠ .text d.1
  /-- Otherwise the description is that of the first tag of the name. -/
  described : q.description ≠ .null → ∃ before d after, told = before ++ d :: after ∧
    p.name = .text d.1 ∧ q.description = .text d.2 ∧ ∀ e ∈ before, p.name ≠ .text e.1

variable {label : String} {told : List (String × String)} {p : CatalogParameter}

theorem descriptionOf_eq_null_iff {name : Value} :
    descriptionOf told name = .null ↔ ∀ d ∈ told, name ≠ .text d.1 := by
  unfold descriptionOf
  cases found : told.find? fun d => name = .text d.1 with
  | none => simpa using found
  | some d =>
    refine ⟨nofun, fun none => ?_⟩
    exact absurd (by simpa using List.find?_some found) (none d (List.mem_of_find?_eq_some found))

theorem first_of_descriptionOf {name : Value} (some' : descriptionOf told name ≠ .null) :
    ∃ before d after, told = before ++ d :: after ∧ name = .text d.1 ∧
      descriptionOf told name = .text d.2 ∧ ∀ e ∈ before, name ≠ .text e.1 := by
  unfold descriptionOf at some' ⊢
  cases found : told.find? fun d => name = .text d.1 with
  | none => simp [found] at some'
  | some d =>
    obtain ⟨named, before, after, split, others⟩ := List.find?_eq_some_iff_append.1 found
    exact ⟨before, d, after, split, by simpa using named, rfl,
      fun e member => by simpa using others e member⟩

theorem describes_of_wrapperParameter {q : WrapperParameter}
    (found : wrapperParameter label told p = .ok q) : Describes label told p q := by
  obtain ⟨t, typed, rest⟩ := bind_eq_ok.1 found
  obtain ⟨d, full, last⟩ := bind_eq_ok.1 rest
  cases last
  exact ⟨rfl, ⟨t, typed, rfl⟩, full, descriptionOf_eq_null_iff, first_of_descriptionOf⟩

theorem exists_typeDescriptor (typed : p.Typed) : ∃ d, p.typeDescriptor = .ok d := by
  obtain ⟨a, text, isText⟩ := typed.full
  unfold CatalogParameter.typeDescriptor
  split
  · exact ⟨_, rfl⟩
  · rw [text]
    cases a <;> cases isText <;> exact ⟨_, rfl⟩

theorem wrapperParameter_isOk_iff (typed : p.Typed) (label : String)
    (told : List (String × String)) :
    (∃ q, wrapperParameter label told p = .ok q) ↔ p.Supported := by
  rw [CatalogParameter.Supported, ← SemanticType.ofCatalog_isOk_iff p.numericScale label]
  constructor
  · rintro ⟨q, found⟩
    obtain ⟨t, found', -⟩ := bind_eq_ok.1 found
    exact ⟨t, found'⟩
  · rintro ⟨t, found⟩
    obtain ⟨d, full⟩ := exists_typeDescriptor typed
    exact ⟨_, bind_eq_ok.2 ⟨t, found, bind_eq_ok.2 ⟨d, full, rfl⟩⟩⟩

theorem wrapperParameter_eq_error (typed : p.Typed) {f : Failure}
    (failed : wrapperParameter label told p = .error f) :
    f = .error (SemanticType.unsupported p.effectiveType label) := by
  rcases bind_eq_error.1 failed with refused | ⟨t, -, rest⟩
  · exact SemanticType.ofCatalog_eq_error typed.type refused
  · obtain ⟨d, full⟩ := exists_typeDescriptor typed
    rw [full] at rest
    cases rest

section

variable {comment : DocComment} {parameters : List CatalogParameter} {doc : RoutineDoc}
  {names : List Key}

theorem mergedAtLastLook_of_typed (typed : ∀ p ∈ parameters, p.Typed) :
    CatalogParameter.mergedAtLastLook parameters = parameters := by
  refine CatalogParameter.map_afterLooks_eq_self (fun p member items list => ?_) _
  obtain ⟨a, text, -⟩ := (typed p member).full
  cases text.symm.trans list

theorem describes_of_ofComment (typed : ∀ p ∈ parameters, p.Typed)
    (found : ofComment label comment parameters = .ok doc) :
    List.Forall₂ (Describes label comment.parameterDescriptions) parameters doc.parameters := by
  obtain ⟨wrapped, each, last⟩ := bind_eq_ok.1 found
  cases last
  rw [mergedAtLastLook_of_typed typed] at each
  exact (mapM_eq_ok.1 each).imp fun _ _ => describes_of_wrapperParameter

theorem exists_ofComment (label : String) (comment : DocComment)
    (typed : ∀ p ∈ parameters, p.Typed) (supported : ∀ p ∈ parameters, p.Supported) :
    ∃ doc, ofComment label comment parameters = .ok doc := by
  obtain ⟨wrapped, each⟩ := exists_mapM_eq_ok_iff.2 fun p member =>
    (wrapperParameter_isOk_iff (typed p member) label comment.parameterDescriptions).2
      (supported p member)
  exact ⟨_, bind_eq_ok.2 ⟨wrapped, by rw [mergedAtLastLook_of_typed typed, each], rfl⟩⟩

/-- A type that is not supported stops the documentation, whatever the comment tells. -/
theorem ofComment_eq_error (label : String) (comment : DocComment)
    (typed : ∀ p ∈ parameters, p.Typed) (refused : ∃ p ∈ parameters, ¬ p.Supported) :
    ∃ p ∈ parameters, ¬ p.Supported ∧ ofComment label comment parameters =
        .error (.error (SemanticType.unsupported p.effectiveType label)) := by
  obtain ⟨p, member, unsupported⟩ := refused
  cases outcome : parameters.mapM (wrapperParameter label comment.parameterDescriptions) with
  | ok wrapped =>
    have fine := exists_mapM_eq_ok_iff.1 ⟨wrapped, outcome⟩ p member
    exact absurd ((wrapperParameter_isOk_iff (typed p member) _ _).1 fine) unsupported
  | error f =>
    obtain ⟨q, inside, failed⟩ := exists_of_mapM_eq_error outcome
    refine ⟨q, inside, fun fine => ?_, ?_⟩
    · obtain ⟨_, made⟩ := (wrapperParameter_isOk_iff (typed q inside) _ _).2 fine
      cases made.symm.trans failed
    · rw [ofComment, mergedAtLastLook_of_typed typed, outcome,
        wrapperParameter_eq_error (typed q inside) failed]
      rfl

theorem exists_names (typed : ∀ p ∈ parameters, p.Typed) :
    ∃ names, parameters.mapM (·.name.asKey) = .ok names := by
  refine exists_mapM_eq_ok_iff.2 fun p member => ?_
  obtain ⟨a, text, -⟩ := (typed p member).name
  exact ⟨⟨a⟩, by rw [text]; rfl⟩

/-! The two comparisons of names find what the look-ups find. -/

/-- The parameters about which a warning says that they are missing are those without a
description. -/
theorem missing_warnings
    (described : List.Forall₂ (Describes label told) parameters doc.parameters)
    (named : parameters.mapM (·.name.asKey) = .ok names) :
    ((names.filter fun n => !(told.map fun d => (⟨.text d.1⟩ : Key)).contains n).map
      (DocMismatch.undocumented ·.atom)).map DocMismatch.warning =
      (doc.parameters.filter (·.description = .null)).map fun q =>
        "parameter '" ++ q.name.display ++ "' is missing from doc block" := by
  rw [List.map_map]
  refine map_filter_of_forall₂ (forall₂_join (mapM_eq_ok.1 named) described) ?_ ?_
  · rintro k q ⟨p, -, keyed, describes⟩
    have name := Value.asKey_eq_ok_iff.1 keyed
    rw [Bool.eq_iff_iff, Bool.not_eq_true', ← Bool.not_eq_true, List.contains_iff_exists_mem_beq,
      decide_eq_true_iff, describes.undescribed, name]
    simp [Key.beq_text_iff]
  · rintro k q ⟨p, -, keyed, describes⟩
    rw [describes.name, Value.asKey_eq_ok_iff.1 keyed]
    rfl

/-- The tags about which a warning says that they are unknown are those that name no parameter. -/
theorem unknown_warnings (named : parameters.mapM (·.name.asKey) = .ok names) :
    (((told.map fun d => (⟨.text d.1⟩ : Key)).filter fun n => !names.contains n).map
      (DocMismatch.unknown ·.atom)).map DocMismatch.warning =
      (told.filter fun d => ∀ p ∈ parameters, p.name ≠ .text d.1).map fun d =>
        "unknown parameter '" ++ d.1 ++ "' found in doc block" := by
  have known (s : String) :
      names.contains ⟨.text s⟩ = true ↔ ∃ p ∈ parameters, p.name = .text s := by
    rw [List.contains_iff_exists_mem_beq]
    constructor
    · rintro ⟨k, member, same⟩
      obtain ⟨p, place, keyed⟩ := exists_of_forall₂ (mapM_eq_ok.1 named) member
      exact ⟨p, place, by rw [Value.asKey_eq_ok_iff.1 keyed, Key.beq_text_iff.1 (BEq.symm same)]⟩
    · rintro ⟨p, member, name⟩
      obtain ⟨k, place, keyed⟩ := exists_of_forall₂ (mapM_eq_ok.1 named).flip member
      rw [name] at keyed
      cases keyed
      exact ⟨_, place, BEq.rfl⟩
  rw [List.filter_map, List.map_map, List.map_map]
  congr 1
  refine List.filter_congr fun d _ => ?_
  rw [Function.comp_apply, Bool.eq_iff_iff, Bool.not_eq_true', ← Bool.not_eq_true, known,
    decide_eq_true_iff]
  simp

end

/-- Documentation and warnings agree. If all types are supported, there is one documented parameter
for each parameter, and the warnings are one for each of them without a description and then one for
each tag that names none of them, in order. If some type is not supported, the routine is refused
for that, whatever the comment says. -/
theorem build_agrees_with_warnings {parameters : List CatalogParameter}
    (typed : ∀ p ∈ parameters, p.Typed) (source : RoutineSource) (w : World) :
    ((∀ p ∈ parameters, p.Supported) → ∃ doc v, (build source parameters).run w =
        (.ok (doc,
          ((doc.parameters.filter (·.description = .null)).map fun q =>
            "parameter '" ++ q.name.display ++ "' is missing from doc block") ++
          (((comment source).parameterDescriptions.filter fun d =>
              ∀ p ∈ parameters, p.name ≠ .text d.1).map fun d =>
            "unknown parameter '" ++ d.1 ++ "' found in doc block")), v) ∧
      List.Forall₂ (Describes source.label (comment source).parameterDescriptions) parameters
        doc.parameters) ∧
    ((∃ p ∈ parameters, ¬ p.Supported) → ∃ p ∈ parameters, ¬ p.Supported ∧
      (build source parameters).run w =
        (.error (.error (SemanticType.unsupported p.effectiveType source.label)), w)) := by
  constructor
  · intro supported
    obtain ⟨doc, documented⟩ := exists_ofComment source.label (comment source) typed supported
    obtain ⟨names, named⟩ := exists_names typed
    obtain ⟨es, run, -⟩ := build_yields documented named w
    have described := describes_of_ofComment typed documented
    rw [warnings, DocMismatch.between, List.map_append, missing_warnings described named,
      unknown_warnings named] at run
    exact ⟨doc, _, run, described⟩
  · intro refused
    obtain ⟨p, member, unsupported, failed⟩ :=
      ofComment_eq_error source.label (comment source) typed refused
    refine ⟨p, member, unsupported, ?_⟩
    have stopped : (Loader.ofExcept (ofComment source.label (comment source) parameters)).run w =
        (.error (.error (SemanticType.unsupported p.effectiveType source.label)), w) := by
      rw [run_ofExcept, failed]
    exact run_bind_of_error stopped

end RoutineDoc

namespace Sample

/-- A source whose comment documents `p` twice, `q` not at all, and `z`, which is no parameter. -/
def documentedSource : RoutineSource where
  path := ⟨"", ["a.psql"]⟩
  extension := ".psql"
  text := "/** Short.\n * @param p First.\n * @param p Second.\n * @param z\n */\ncreate procedure a()"
  modified := 0

theorem told_documentedSource : (RoutineDoc.comment documentedSource).parameterDescriptions =
    [("p", "First."), ("p", "Second."), ("z", "")] := by
  decide +kernel

def documentedParameters : List CatalogParameter :=
  [{ name := .text "p", dataType := .text "int", dtdIdentifier := .text "int(11)" },
    { name := .text "q", dataType := .text "decimal", numericScale := .int 2 },
    { name := .text "p", dataType := .text "text", collation := .text "utf8mb4_bin" }]

end Sample

open Sample RoutineDoc in
/-- A parameter without a description, a description without a parameter, and a warning for each. -/
theorem documented_with_two_warnings : (∀ p ∈ documentedParameters, p.Typed) ∧
    (∀ p ∈ documentedParameters, p.Supported) ∧
    ∃ doc v, (build documentedSource documentedParameters).run ⟨.empty [], false, []⟩ = (.ok (doc,
      ["parameter 'q' is missing from doc block", "unknown parameter 'z' found in doc block"]), v) ∧
      List.Forall₂ (Describes "a.psql" [("p", "First."), ("p", "Second."), ("z", "")])
        documentedParameters doc.parameters := by
  have typed : ∀ p ∈ documentedParameters, p.Typed := by
    simp only [documentedParameters, List.forall_mem_cons]
    exact ⟨⟨⟨_, rfl, rfl⟩, ⟨_, rfl, rfl⟩, ⟨_, rfl, rfl⟩⟩,
      ⟨⟨_, rfl, rfl⟩, ⟨_, rfl, rfl⟩, ⟨_, rfl, rfl⟩⟩,
      ⟨⟨_, rfl, rfl⟩, ⟨_, rfl, rfl⟩, ⟨_, rfl, rfl⟩⟩, by simp⟩
  have supported : ∀ p ∈ documentedParameters, p.Supported := by
    simp only [documentedParameters, List.forall_mem_cons]
    refine ⟨⟨"int", ?_, rfl⟩, ⟨"decimal", ?_, rfl⟩, ⟨"text", ?_, rfl⟩, by simp⟩ <;>
      simp [SemanticType.mem_supported, SemanticType.table, SemanticType.decimalName]
  obtain ⟨⟨short, long, documented⟩, v, run, each⟩ :=
    (build_agrees_with_warnings typed documentedSource ⟨.empty [], false, []⟩).1 supported
  have label : documentedSource.label = "a.psql" := by decide +kernel
  rw [told_documentedSource, label] at each
  refine ⟨typed, supported, ⟨short, long, documented⟩, v, ?_, each⟩
  obtain ⟨q, qs, first, others, rfl⟩ := List.forall₂_cons_left_iff.1 each
  obtain ⟨r, rs, second, others', rfl⟩ := List.forall₂_cons_left_iff.1 others
  obtain ⟨s, ss, third, none, rfl⟩ := List.forall₂_cons_left_iff.1 others'
  cases none
  rw [run, told_documentedSource]
  simp [documentedParameters, first.undescribed, second.undescribed, third.undescribed, second.name,
    Value.display, Atom.display]

end StoredRoutines
