import Mathlib.Data.List.Forall2
import StoredRoutines.Proofs.Assignments
import StoredRoutines.Proofs.Outcomes
import StoredRoutines.Proofs.Tables
import StoredRoutines.Record.Parameter

/-!
Merging declarations into the parameters of the catalog. Each declaration must name a parameter, and
a parameter takes the last declaration of its name. But parameters are told apart by their names
alone, so of several parameters of one name each comes out as the last of them.
-/

namespace StoredRoutines

open Outcomes

/-- The values are one name: they are the same key of a table. Lists and objects name nothing. -/
def SameName : Value → Value → Prop
  | .atom a, .atom b => (Key.mk a == Key.mk b) = true
  | _, _ => False

/-- The last of the items that have the name. -/
def LastNamed {α : Type} (name : α → Value) (items : List α) (v : Value) (last : α) : Prop :=
  ∃ before after, items = before ++ last :: after ∧ SameName (name last) v ∧
    ∀ i ∈ after, ¬ SameName (name i) v

section

variable {α : Type} {name : α → Value} {items : List α} {u v : Value} {i j : α}

theorem sameName_text_iff {s : String} : SameName v (.text s) ↔ v = .text s := by
  cases v with
  | atom a => rw [SameName, Key.beq_text_iff, Value.atom.injEq]
  | list _ | object _ => simp [SameName]

theorem SameName.symm (h : SameName u v) : SameName v u := by
  cases u <;> cases v <;> simp only [SameName] at h ⊢
  exact BEq.symm h

theorem SameName.congr (h : SameName u v) (w : Value) : SameName w u ↔ SameName w v := by
  cases u <;> cases v <;> simp only [SameName] at h
  cases w <;> simp only [SameName]
  rw [BEq.congr_right h]

theorem SameName.trans {w : Value} (h : SameName u v) (h' : SameName v w) : SameName u w :=
  (h'.congr u).1 h

theorem SameName.exists_atom (h : SameName u v) : ∃ a, u = .atom a := by
  cases u with
  | atom a => exact ⟨a, rfl⟩
  | list _ | object _ => exact h.elim

theorem LastNamed.mem (h : LastNamed name items v i) : i ∈ items := by
  obtain ⟨before, after, rfl, -⟩ := h
  simp

theorem LastNamed.sameName (h : LastNamed name items v i) : SameName (name i) v := by
  obtain ⟨_, _, -, named, -⟩ := h
  exact named

theorem LastNamed.cons (h : LastNamed name items v i) (j : α) :
    LastNamed name (j :: items) v i := by
  obtain ⟨before, after, rfl, named, others⟩ := h
  exact ⟨j :: before, after, rfl, named, others⟩

theorem LastNamed.unique (first : LastNamed name items v i) (second : LastNamed name items v j) :
    i = j := by
  induction items with
  | nil => cases first.mem
  | cons k items ih =>
    obtain ⟨before, after, split, named, others⟩ := first
    obtain ⟨before', after', split', named', others'⟩ := second
    cases before with
    | nil =>
      obtain ⟨rfl, rfl⟩ := List.cons.inj split
      cases before' with
      | nil => exact (List.cons.inj split').1
      | cons d before' =>
        obtain ⟨rfl, rfl⟩ := List.cons.inj split'
        exact absurd named' (others j (by simp))
    | cons d before =>
      obtain ⟨rfl, rfl⟩ := List.cons.inj split
      cases before' with
      | nil =>
        obtain ⟨rfl, rfl⟩ := List.cons.inj split'
        exact absurd named (others' i (by simp))
      | cons d' before' =>
        obtain ⟨rfl, same⟩ := List.cons.inj split'
        exact ih ⟨before, after, rfl, named, others⟩ ⟨before', after', same, named', others'⟩

theorem LastNamed.congr (h : LastNamed name items u i) (same : SameName u v) :
    LastNamed name items v i := by
  obtain ⟨before, after, split, named, others⟩ := h
  exact ⟨before, after, split, (same.congr _).1 named,
    fun j member => mt (same.congr _).2 (others j member)⟩

end

namespace CatalogParameter

variable {parameters merged : List CatalogParameter} {declared : List ExtendedParameter}
  {byName result : List (Key × CatalogParameter)} {named : List (Key × CatalogParameter)}
  {source : String}

/-- The second parameter is the first one with the last declaration of the name in it, or the first
one itself if no declaration has the name. -/
def TakesLast (declared : List ExtendedParameter) (name : Value) (p q : CatalogParameter) : Prop :=
  (∃ e, LastNamed ExtendedParameter.name declared name e ∧ q = p.merged e) ∨
    (∀ e ∈ declared, ¬ SameName e.name name) ∧ q = p

theorem TakesLast.eq_iff {name : Value} {p q r : CatalogParameter} (plain : p.extended = none)
    (plain' : q.extended = none) (taken : TakesLast declared name p r) :
    TakesLast declared name q r ↔ q = p := by
  constructor
  · rintro (⟨e, last, rfl⟩ | ⟨none, rfl⟩)
    · rcases taken with ⟨e', -, same⟩ | ⟨none, same⟩
      · cases p
        cases q
        cases plain
        cases plain'
        cases same
        rfl
      · obtain ⟨before, after, rfl, here, -⟩ := last
        exact absurd here (none e (by simp))
    · rcases taken with ⟨e', ⟨before, after, rfl, here, -⟩, -⟩ | ⟨-, same⟩
      · exact absurd here (none e' (by simp))
      · exact same
  · rintro rfl
    exact taken

theorem TakesLast.name {name : Value} {p q : CatalogParameter} (h : TakesLast declared name p q) :
    q.name = p.name := by
  rcases h with ⟨e, -, rfl⟩ | ⟨-, rfl⟩ <;> rfl

theorem takesLast_mergeByName (found : mergeByName source byName declared = .ok result) {k : Key}
    {p : CatalogParameter} (there : byName.lookup k = some p) :
    ∃ q, result.lookup k = some q ∧ TakesLast declared (.atom k.atom) p q := by
  -- The table of names changes with each declaration, so it is general in the induction.
  induction declared generalizing byName p with
  | nil =>
    cases found
    exact ⟨p, there, .inr ⟨by simp, rfl⟩⟩
  | cons e es ih =>
    obtain ⟨a, r, shape, met, rest⟩ := mergeByName_cons_eq_ok.1 found
    have reached := Assoc.lookup_put k ⟨a⟩ (r.merged e) byName
    cases same : k == Key.mk a with
    | true =>
      have here : SameName e.name (.atom k.atom) := by
        rw [shape]
        exact BEq.symm same
      rw [Assoc.lookup_congr same, met] at there
      obtain rfl := Option.some.inj there
      rw [same, if_pos rfl] at reached
      obtain ⟨q, ended, taken⟩ := ih rest reached
      refine ⟨q, ended, .inl ?_⟩
      -- A later declaration of the name takes the place of this one.
      rcases taken with ⟨e', last, rfl⟩ | ⟨none, rfl⟩
      · exact ⟨e', last.cons e, rfl⟩
      · exact ⟨e, ⟨[], es, rfl, here, none⟩, rfl⟩
    | false =>
      have other : ¬ SameName e.name (.atom k.atom) := by
        rw [shape]
        intro here
        exact absurd (BEq.symm here) (by simp [same])
      rw [same, if_neg (by simp), there] at reached
      obtain ⟨q, ended, taken⟩ := ih rest reached
      refine ⟨q, ended, ?_⟩
      rcases taken with ⟨e', last, rfl⟩ | ⟨none, rfl⟩
      · exact .inl ⟨e', last.cons e, rfl⟩
      · exact .inr ⟨List.forall_mem_cons.2 ⟨other, none⟩, rfl⟩

theorem mergeByName_fails_iff : (∃ f, mergeByName source byName declared = .error f) ↔
    ∃ e ∈ declared, ∀ a, e.name = .atom a → byName.lookup ⟨a⟩ = none := by
  induction declared generalizing byName with
  | nil => simp [mergeByName]
  | cons e es ih =>
    rw [List.exists_mem_cons_iff]
    cases shape : e.name with
    | list _ | object _ =>
      rw [mergeByName, shape]
      refine ⟨fun _ => .inl fun a atom => ?_, fun _ => ⟨_, rfl⟩⟩
      cases atom
    | atom a =>
      rw [mergeByName_cons shape]
      cases met : byName.lookup ⟨a⟩ with
      | none =>
        refine ⟨fun _ => .inl fun b atom => ?_, fun _ => ⟨_, rfl⟩⟩
        cases atom
        exact met
      | some r =>
        -- A declaration changes the parameter of its name, but adds no name and removes none.
        have kept (b : Atom) : (Assoc.put ⟨a⟩ (r.merged e) byName).lookup ⟨b⟩ = none ↔
            byName.lookup ⟨b⟩ = none := by
          rw [Assoc.lookup_put]
          split
          · rename_i same
            rw [Assoc.lookup_congr same, met]
            simp
          · rfl
        have here : ¬ ∀ b, Value.atom a = .atom b → byName.lookup ⟨b⟩ = none := by
          intro none
          rw [none a rfl] at met
          cases met
        simp only [ih, kept, here, false_or]

/-! Parameters by their names. -/

theorem arranged_of_mapM
    (arranged : (parameters.mapM fun p => p.name.asKey.map fun name => (name, p)) = .ok named) :
    named.map (·.2) = parameters ∧ ∀ d ∈ named, d.2.name = .atom d.1.atom := by
  have each : List.Forall₂ (fun p d => d.2 = p ∧ d.2.name = .atom d.1.atom) parameters named := by
    refine (mapM_eq_ok.1 arranged).imp fun p d shape => ?_
    obtain ⟨k, keyed, rfl⟩ := map_eq_ok.1 shape
    exact ⟨rfl, Value.asKey_eq_ok_iff.1 keyed⟩
  constructor
  · rw [← map_eq_of_forall₂ each (f := id) fun p d same => same.1.symm, List.map_id]
  · intro d member
    obtain ⟨p, -, -, keyed⟩ := exists_of_forall₂ each member
    exact keyed

/-- The last entry under a key is that of the last parameter of the name. -/
theorem lastNamed_of_lookup (keyed : ∀ d ∈ named, d.2.name = .atom d.1.atom) {k : Key}
    {p : CatalogParameter} (found : named.reverse.lookup k = some p) :
    LastNamed CatalogParameter.name (named.map (·.2)) (.atom k.atom) p := by
  obtain ⟨later, j, earlier, split, same, others⟩ := Assoc.first_of_lookup found
  have turned : named = earlier.reverse ++ (j, p) :: later.reverse := by
    rw [← List.reverse_inj, split]
    simp
  have answers {d : Key × CatalogParameter} (member : d ∈ named) :
      SameName d.2.name (.atom k.atom) ↔ (k == d.1) = true := by
    rw [keyed d member, SameName, BEq.comm]
  refine ⟨earlier.reverse.map (·.2), later.reverse.map (·.2), by simp [turned], ?_, ?_⟩
  · exact (answers (d := (j, p)) (by simp [turned])).2 same
  · intro q member
    obtain ⟨d, inside, rfl⟩ := List.mem_map.1 member
    rw [answers (by simp [turned, List.mem_reverse.1 inside]), others d (List.mem_reverse.1 inside)]
    simp

theorem arranging_fails_iff :
    (∃ f, (parameters.mapM fun p => p.name.asKey.map fun name => (name, p)) = .error f) ↔
      ∃ p ∈ parameters, ∀ a, p.name ≠ .atom a := by
  constructor
  · rintro ⟨f, failed⟩
    obtain ⟨p, member, stopped⟩ := exists_of_mapM_eq_error failed
    refine ⟨p, member, fun a atom => ?_⟩
    rw [atom] at stopped
    cases stopped
  · rintro ⟨p, member, nameless⟩
    cases outcome : parameters.mapM fun p => p.name.asKey.map fun name => (name, p) with
    | error f => exact ⟨f, rfl⟩
    | ok named =>
      obtain ⟨rfl, keyed⟩ := arranged_of_mapM outcome
      obtain ⟨d, inside, rfl⟩ := List.mem_map.1 member
      exact absurd (keyed d inside) (nameless _)

theorem lookup_ofPairs_eq_none_iff (keyed : ∀ d ∈ named, d.2.name = .atom d.1.atom) {v : Value} :
    (∀ a, v = .atom a → (Assoc.ofPairs named).lookup ⟨a⟩ = none) ↔
      ∀ p ∈ named.map (·.2), ¬ SameName v p.name := by
  rw [List.forall_mem_map]
  cases v with
  | list _ | object _ => exact ⟨fun _ d _ => id, fun _ => nofun⟩
  | atom a =>
    have missing : (Assoc.ofPairs named).lookup ⟨a⟩ = none ↔
        ∀ d ∈ named, ¬ SameName (.atom a) d.2.name := by
      rw [Assoc.lookup_ofPairs, List.lookup_eq_none_iff]
      simp only [List.mem_reverse]
      refine forall₂_congr fun d member => ?_
      rw [keyed d member, SameName, bne, Bool.not_eq_true', Bool.not_eq_true]
    rw [← missing]
    exact ⟨fun none => none a rfl, fun none b same => by cases same; exact none⟩

/-- Each parameter comes out as the last one of its name, with the last declaration of that name. -/
theorem forall₂_of_mergeAll (found : mergeAll parameters declared source = .ok merged) :
    List.Forall₂ (fun p q => ∃ last, LastNamed CatalogParameter.name parameters p.name last ∧
      TakesLast declared p.name last q) parameters merged := by
  obtain ⟨named, arranged, rest⟩ := bind_eq_ok.1 found
  obtain ⟨byName, merging, last⟩ := bind_eq_ok.1 rest
  cases last
  obtain ⟨rfl, keyed⟩ := arranged_of_mapM arranged
  rw [List.forall₂_map_left_iff, List.forall₂_map_right_iff, List.forall₂_same]
  intro d member
  have known : ((Assoc.ofPairs named).lookup d.1).isSome = true := by
    rw [Assoc.lookup_ofPairs, List.lookup_isSome_iff]
    exact ⟨d, List.mem_reverse.2 member, BEq.rfl⟩
  obtain ⟨p, there⟩ := Option.isSome_iff_exists.1 known
  obtain ⟨q, ended, taken⟩ := takesLast_mergeByName merging there
  rw [Assoc.lookup_ofPairs] at there
  rw [ended, keyed d member]
  exact ⟨p, lastNamed_of_lookup keyed there, taken⟩

theorem mergeAll_fails_iff : (∃ f, mergeAll parameters declared source = .error f) ↔
    (∃ p ∈ parameters, ∀ a, p.name ≠ .atom a) ∨
      ∃ e ∈ declared, ∀ p ∈ parameters, ¬ SameName e.name p.name := by
  rw [← arranging_fails_iff]
  cases outcome : parameters.mapM fun p => p.name.asKey.map fun name => (name, p) with
  | error f =>
    rw [mergeAll, outcome]
    exact ⟨fun _ => .inl ⟨f, rfl⟩, fun _ => ⟨f, rfl⟩⟩
  | ok named =>
    obtain ⟨rfl, keyed⟩ := arranged_of_mapM outcome
    have merges : (∃ f, mergeAll (named.map (·.2)) declared source = .error f) ↔
        ∃ f, mergeByName source (Assoc.ofPairs named) declared = .error f := by
      rw [mergeAll, outcome]
      exact exists_congr fun f => map_eq_error
    rw [merges, mergeByName_fails_iff]
    simp only [lookup_ofPairs_eq_none_iff keyed, reduceCtorEq, exists_false, false_or]

end CatalogParameter

open CatalogParameter in
/-- Merging fails exactly if a parameter has no name or a declaration has not the name of one. Else
each parameter comes out as the last parameter of its name, with the last declaration of that name
in it if there is one. So each parameter is kept, but for its declaration, exactly if parameters of
one name are the same. -/
theorem mergeAll_reads_last {parameters : List CatalogParameter}
    (plain : ∀ p ∈ parameters, p.extended = none) (declared : List ExtendedParameter)
    (source : String) :
    ((∃ f, mergeAll parameters declared source = .error f) ↔
      (∃ p ∈ parameters, ∀ a, p.name ≠ .atom a) ∨
        ∃ e ∈ declared, ∀ p ∈ parameters, ¬ SameName e.name p.name) ∧
    ∀ merged, mergeAll parameters declared source = .ok merged →
      List.Forall₂ (fun p q => ∃ last, LastNamed CatalogParameter.name parameters p.name last ∧
        TakesLast declared p.name last q) parameters merged ∧
      (List.Forall₂ (fun p q => TakesLast declared p.name p q) parameters merged ↔
        ∀ p ∈ parameters, ∀ q ∈ parameters, SameName p.name q.name → p = q) := by
  refine ⟨mergeAll_fails_iff, fun merged found => ?_⟩
  have each := forall₂_of_mergeAll found
  refine ⟨each, fun kept p here q there same => ?_, fun alike => ?_⟩
  · have own (r : CatalogParameter) (member : r ∈ parameters) :
        LastNamed CatalogParameter.name parameters r.name r := by
      obtain ⟨s, -, ⟨last, isLast, taken⟩, taken'⟩ :=
        exists_of_forall₂ (List.Forall₂.mp (fun _ _ => And.intro) each kept).flip member
      obtain rfl := (taken.eq_iff (plain last isLast.mem) (plain r member)).1 taken'
      exact isLast
    exact ((own p here).congr same).unique (own q there)
  · refine forall₂_imp_of_mem each fun p q member _ => ?_
    rintro ⟨last, isLast, taken⟩
    obtain rfl := alike p member last isLast.mem isLast.sameName.symm
    exact taken

namespace Sample

/-- What the catalog reports of a procedure and a function of one name, which both have a parameter
`p`. -/
def namesakeParameters : List CatalogParameter :=
  [{ name := .text "p", dataType := .text "int", dtdIdentifier := .text "int(11)" },
    { name := .text "q", dataType := .text "date", dtdIdentifier := .text "date" },
    { name := .text "p", dataType := .text "text", dtdIdentifier := .text "text" }]

def namesakeDeclarations : List ExtendedParameter :=
  [{ name := .text "p", dataType := .text "list_of_int" },
    { name := .text "p", dataType := .text "list_of_int", delimiter := .text ";" }]

end Sample

open Sample CatalogParameter in
/-- Of two parameters of one name each comes out as the second, with the second declaration. -/
theorem namesakes_merged : (∀ p ∈ namesakeParameters, p.extended = none) ∧
    ∃ merged, mergeAll namesakeParameters namesakeDeclarations "" = .ok merged ∧
      List.Forall₂ (fun p q => ∃ last,
        LastNamed CatalogParameter.name namesakeParameters p.name last ∧
          TakesLast namesakeDeclarations p.name last q) namesakeParameters merged := by
  have plain : ∀ p ∈ namesakeParameters, p.extended = none := by decide
  exact ⟨plain, _, rfl, ((mergeAll_reads_last plain namesakeDeclarations "").2 _ rfl).1⟩

open Sample CatalogParameter in
/-- Without any declaration, a parameter may come out as another one. -/
theorem namesake_overwritten : ¬ ∀ (parameters merged : List CatalogParameter)
    (declared : List ExtendedParameter) (source : String), (∀ p ∈ parameters, p.extended = none) →
      mergeAll parameters declared source = .ok merged →
        List.Forall₂ (fun p q => TakesLast declared p.name p q) parameters merged := by
  intro keeps
  have kept := keeps namesakeParameters _ [] "" (by decide) rfl
  rcases (List.forall₂_cons.1 kept).1 with ⟨e, last, -⟩ | ⟨-, same⟩
  · cases last.mem
  · exact absurd same (by decide)

end StoredRoutines
