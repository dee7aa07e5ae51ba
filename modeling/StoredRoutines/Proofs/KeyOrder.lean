import StoredRoutines.Proofs.Tables
import StoredRoutines.Value.Order

/-!
The order of texts as keys. Texts are in the order of their code points, whether or not they hold a
surrogate that stands alone, so entries that were put in order stay as they are.
-/

namespace StoredRoutines.Atom

theorem lex_map_toNat (s t : List Char) :
    List.lex (s.map Char.toNat) (t.map Char.toNat) (fun m n => decide (m < n)) =
      List.lex s t (fun c d => decide (c < d)) := by
  have less (c d : Char) : (c.toNat < d.toNat) ↔ c < d := Iff.rfl
  have same (c d : Char) : (c.toNat == d.toNat) = (c == d) := by
    rw [Bool.eq_iff_iff, beq_iff_eq, beq_iff_eq]
    exact Char.toNat_inj
  induction s generalizing t with
  | nil => cases t <;> rfl
  | cons c s ih =>
    cases t with
    | nil => rfl
    | cons d t => simp only [List.map_cons, List.lex, ih, same, less]

theorem precedes_eq {a b : Atom} (ha : a.isText = true) (hb : b.isText = true) :
    a.precedes b = !List.lex b.points a.points fun m n => decide (m < n) := by
  cases a with
  | text s =>
    cases b with
    | text t =>
      rw [Bool.eq_iff_iff]
      simp only [points, lex_map_toNat, precedes, decide_eq_true_eq, Bool.not_eq_true',
        List.lex_eq_false_iff_ge]
      exact Iff.rfl
    | broken ps => rfl
    | _ => cases hb
  | broken ps =>
    cases b with
    | text t => rfl
    | broken qs => rfl
    | _ => cases hb
  | _ => cases ha

def ordered {α : Type} (entries : List (Atom × α)) : List (Atom × α) :=
  entries.mergeSort fun d e => d.1.precedes e.1

section

variable {α β : Type}

theorem ordered_perm (entries : List (Atom × α)) : (ordered entries).Perm entries :=
  List.mergeSort_perm _ _

theorem mem_ordered {e : Atom × α} {entries : List (Atom × α)} :
    e ∈ ordered entries ↔ e ∈ entries :=
  List.mem_mergeSort

@[simp] theorem ordered_nil : ordered ([] : List (Atom × α)) = [] := List.mergeSort_nil

theorem ordered_ne_nil {entries : List (Atom × α)} (some : entries ≠ []) : ordered entries ≠ [] := by
  intro none
  have perm := ordered_perm entries
  rw [none] at perm
  exact some perm.symm.eq_nil

theorem ordered_map (f : α → β) (entries : List (Atom × α)) :
    ordered (entries.map fun e => (e.1, f e.2)) = (ordered entries).map fun e => (e.1, f e.2) := by
  refine (List.map_mergeSort ?_).symm
  intro d _ e _
  rfl

theorem lookup_ordered_map (f : α → β) {entries : List (Atom × α)}
    (distinct : (Assoc.keys entries).Nodup) (k : Atom) :
    ((ordered entries).map fun e => (e.1, f e.2)).lookup k = (entries.lookup k).map f := by
  have perm := ordered_perm entries
  rw [Assoc.lookup_map, Assoc.lookup_perm perm ((perm.map _).nodup_iff.2 distinct)]

@[simp] theorem inOrder_nil : inOrder [] = .ok [] := by
  simp [inOrder, areComparable]

theorem sortEntries_of_comparable {entries : List (Atom × α)}
    (comparable : areComparable (entries.map (·.1)) = true) :
    sortEntries entries = .ok (ordered entries) :=
  if_pos comparable

theorem comparable_of_texts {entries : List (Atom × α)}
    (texts : ∀ e ∈ entries, e.1.isText = true) : areComparable (entries.map (·.1)) = true := by
  have all : (entries.map (·.1)).all isText = true := by
    rw [List.all_eq_true]
    intro a member
    obtain ⟨e, place, rfl⟩ := List.mem_map.1 member
    exact texts e place
  rw [areComparable, all]
  simp

theorem sortEntries_of_texts {entries : List (Atom × α)}
    (texts : ∀ e ∈ entries, e.1.isText = true) : sortEntries entries = .ok (ordered entries) :=
  sortEntries_of_comparable (comparable_of_texts texts)

theorem ordered_ordered {entries : List (Atom × α)} (texts : ∀ e ∈ entries, e.1.isText = true) :
    ordered (ordered entries) = ordered entries := by
  let le (d e : Atom × α) : Bool := !List.lex e.1.points d.1.points fun m n => decide (m < n)
  -- The order of names is a total one among texts only, where it is that of their points.
  have agree {es : List (Atom × α)} (texts : ∀ e ∈ es, e.1.isText = true) :
      ordered es = es.mergeSort le := by
    have mapped := List.map_mergeSort (r := fun d e => d.1.precedes e.1) (s := le) (f := id) (l := es)
      (fun d hd e he => precedes_eq (texts d hd) (texts e he))
    rwa [List.map_id, List.map_id] at mapped
  have texts' : ∀ e ∈ entries.mergeSort le, e.1.isText = true :=
    fun e member => texts e (List.mem_mergeSort.1 member)
  have sorted : (entries.mergeSort le).Pairwise fun d e => le d e = true := by
    refine List.pairwise_mergeSort ?_ ?_ entries
    · intro d e f first second
      simp only [le, Bool.not_eq_true', List.lex_eq_false_iff_ge] at first second ⊢
      exact List.le_trans first second
    · intro d e
      simp only [le, Bool.or_eq_true, Bool.not_eq_true', List.lex_eq_false_iff_ge]
      exact List.le_total _ _
  rw [agree texts, agree texts']
  exact List.mergeSort_of_pairwise sorted

end

theorem increasing_of_nodup {texts : List String} (distinct : texts.Nodup) :
    (texts.mergeSort fun s t => decide (s ≤ t)).Pairwise (· < ·) := by
  have sorted : (texts.mergeSort fun s t => decide (s ≤ t)).Pairwise
      fun s t => decide (s ≤ t) = true := by
    refine List.pairwise_mergeSort ?_ ?_ texts
    · intro s t u first second
      rw [decide_eq_true_eq] at first second ⊢
      exact String.le_trans first second
    · intro s t
      rw [Bool.or_eq_true, decide_eq_true_eq, decide_eq_true_eq]
      exact String.le_total s t
  have apart := (List.mergeSort_perm texts fun s t => decide (s ≤ t)).nodup_iff.2 distinct
  refine sorted.imp₂ (fun s t le ne => ?_) apart
  exact String.not_le.1 fun back => ne (String.le_antisymm (of_decide_eq_true le) back)

theorem inOrder_texts (texts : List String) :
    inOrder (texts.map .text) = .ok ((texts.mergeSort fun s t => decide (s ≤ t)).map .text) := by
  have all : (texts.map text).all isText = true := by
    rw [List.all_map, List.all_eq_true]
    exact fun _ _ => rfl
  have comparable : areComparable (texts.map text) = true := by
    rw [areComparable, all]
    simp
  rw [inOrder, if_pos comparable]
  have mapped := List.map_mergeSort (r := fun s t => decide (s ≤ t)) (s := precedes) (f := text)
    (l := texts) (fun _ _ _ _ => rfl)
  rw [mapped]

theorem mem_of_inOrder {as names : List Atom} (sorted : inOrder as = .ok names) {a : Atom} :
    a ∈ names ↔ a ∈ as := by
  unfold inOrder at sorted
  split at sorted
  · cases sorted
    exact List.mem_mergeSort
  · cases sorted

theorem exists_texts {as : List Atom} (each : ∀ a ∈ as, ∃ s, a = text s) :
    ∃ texts : List String, as = texts.map text := by
  induction as with
  | nil => exact ⟨[], rfl⟩
  | cons a as ih =>
    obtain ⟨s, rfl⟩ := each a List.mem_cons_self
    obtain ⟨texts, rfl⟩ := ih fun b member => each b (List.mem_cons_of_mem _ member)
    exact ⟨s :: texts, rfl⟩

/-- Distinct atoms in order are strictly increasing if they are texts. -/
theorem increasing_of_inOrder {as : List Atom} (distinct : as.Nodup) {texts : List String}
    (sorted : inOrder as = .ok (texts.map text)) : texts.Pairwise (· < ·) := by
  obtain ⟨unsorted, rfl⟩ := exists_texts fun a member => by
    obtain ⟨s, -, same⟩ := List.mem_map.1 ((mem_of_inOrder sorted).2 member)
    exact ⟨s, same.symm⟩
  rw [inOrder_texts, Except.ok.injEq] at sorted
  have same : unsorted.mergeSort (fun s t => decide (s ≤ t)) = texts :=
    List.map_injective_iff.2 (fun s t => Atom.text.inj) sorted
  rw [← same]
  exact increasing_of_nodup distinct.of_map

end StoredRoutines.Atom
