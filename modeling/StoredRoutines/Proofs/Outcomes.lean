import Mathlib.Data.List.Forall2

/-!
Outcomes taken apart: when a sequence, a map or a list of outcomes is a value, and when it is an
error.
-/

namespace StoredRoutines.Outcomes

variable {ε ε' α β : Type}

theorem bind_eq_ok {x : Except ε α} {f : α → Except ε β} {b : β} :
    (x >>= f) = .ok b ↔ ∃ a, x = .ok a ∧ f a = .ok b := by
  cases x with
  | error e => simp [bind, Except.bind]
  | ok a => simp [bind, Except.bind]

theorem bind_eq_error {x : Except ε α} {f : α → Except ε β} {e : ε} :
    (x >>= f) = .error e ↔ x = .error e ∨ ∃ a, x = .ok a ∧ f a = .error e := by
  cases x with
  | error e' => simp [bind, Except.bind]
  | ok a => simp [bind, Except.bind]

theorem map_eq_ok {x : Except ε α} {f : α → β} {b : β} :
    x.map f = .ok b ↔ ∃ a, x = .ok a ∧ f a = b := by
  cases x <;> simp [Except.map]

@[simp] theorem isOk_map (x : Except ε α) (f : α → β) : (x.map f).isOk = x.isOk := by
  cases x <;> rfl

theorem map_eq_error {x : Except ε α} {f : α → β} {e : ε} : x.map f = .error e ↔ x = .error e := by
  cases x <;> simp [Except.map]

theorem mapError_eq_ok {x : Except ε α} {f : ε → ε'} {a : α} :
    x.mapError f = .ok a ↔ x = .ok a := by
  cases x <;> simp [Except.mapError]

theorem mapError_eq_error {x : Except ε α} {f : ε → ε'} {e : ε'} :
    x.mapError f = .error e ↔ ∃ e', x = .error e' ∧ f e' = e := by
  cases x <;> simp [Except.mapError]

theorem mapM_eq_ok {f : α → Except ε β} {as : List α} {bs : List β} :
    as.mapM f = .ok bs ↔ List.Forall₂ (fun a b => f a = .ok b) as bs := by
  induction as generalizing bs with
  | nil =>
    rw [List.mapM_nil, List.forall₂_nil_left_iff]
    constructor
    · intro h
      cases h
      rfl
    · rintro rfl
      rfl
  | cons a as ih =>
    rw [List.mapM_cons, bind_eq_ok]
    constructor
    · rintro ⟨b, head, rest⟩
      obtain ⟨bs', tail, last⟩ := bind_eq_ok.1 rest
      cases last
      exact .cons head (ih.1 tail)
    · intro h
      cases h with
      | cons head tail => exact ⟨_, head, bind_eq_ok.2 ⟨_, ih.2 tail, rfl⟩⟩

theorem mapM_eq_error {f : α → Except ε β} {as : List α} {e : ε} :
    as.mapM f = .error e ↔ ∃ before a after, as = before ++ a :: after ∧
      (∀ b ∈ before, ∃ c, f b = .ok c) ∧ f a = .error e := by
  induction as with
  | nil => simp [pure, Except.pure]
  | cons a as ih =>
    rw [List.mapM_cons]
    constructor
    · intro failed
      rcases bind_eq_error.1 failed with head | ⟨b, head, rest⟩
      · exact ⟨[], a, as, rfl, by simp, head⟩
      · rcases bind_eq_error.1 rest with tail | ⟨bs, -, last⟩
        · obtain ⟨before, a', after, rfl, fine, failed⟩ := ih.1 tail
          exact ⟨a :: before, a', after, rfl, List.forall_mem_cons.2 ⟨⟨b, head⟩, fine⟩, failed⟩
        · cases last
    · rintro ⟨before, a', after, split, fine, failed⟩
      cases before with
      | nil =>
        obtain ⟨rfl, rfl⟩ := List.cons.inj split
        exact bind_eq_error.2 (.inl failed)
      | cons b before =>
        obtain ⟨rfl, rfl⟩ := List.cons.inj split
        obtain ⟨⟨c, head⟩, fine⟩ := List.forall_mem_cons.1 fine
        have tail := ih.2 ⟨before, a', after, rfl, fine, failed⟩
        exact bind_eq_error.2 (.inr ⟨c, head, bind_eq_error.2 (.inl tail)⟩)

theorem exists_of_mapM_eq_error {f : α → Except ε β} {as : List α} {e : ε}
    (failed : as.mapM f = .error e) : ∃ a ∈ as, f a = .error e := by
  obtain ⟨before, a, after, rfl, -, stopped⟩ := mapM_eq_error.1 failed
  exact ⟨a, by simp, stopped⟩

theorem exists_of_forall₂ {R : α → β → Prop} {as : List α} {bs : List β}
    (h : List.Forall₂ R as bs) {b : β} (member : b ∈ bs) : ∃ a ∈ as, R a b := by
  induction h with
  | nil => cases member
  | cons head _ ih =>
    rcases List.mem_cons.1 member with rfl | later
    · exact ⟨_, by simp, head⟩
    · obtain ⟨a, place, related⟩ := ih later
      exact ⟨a, List.mem_cons_of_mem _ place, related⟩

theorem exists_forall₂ {R : α → β → Prop} {as : List α} (each : ∀ a ∈ as, ∃ b, R a b) :
    ∃ bs, List.Forall₂ R as bs := by
  induction as with
  | nil => exact ⟨[], .nil⟩
  | cons a as ih =>
    obtain ⟨b, head⟩ := each a (by simp)
    obtain ⟨bs, tail⟩ := ih fun c place => each c (List.mem_cons_of_mem _ place)
    exact ⟨b :: bs, .cons head tail⟩

/-- A list is gone through to its end if nothing fails for any of its items. -/
theorem exists_mapM_eq_ok_iff {f : α → Except ε β} {as : List α} :
    (∃ bs, as.mapM f = .ok bs) ↔ ∀ a ∈ as, ∃ b, f a = .ok b := by
  constructor
  · rintro ⟨bs, all⟩ a member
    have turned : List.Forall₂ (fun b a => f a = .ok b) bs as := (mapM_eq_ok.1 all).flip
    obtain ⟨b, -, same⟩ := exists_of_forall₂ turned member
    exact ⟨b, same⟩
  · intro each
    obtain ⟨bs, all⟩ := exists_forall₂ each
    exact ⟨bs, mapM_eq_ok.2 all⟩

theorem forall₂_imp_of_mem {R S : α → β → Prop} {as : List α} {bs : List β}
    (h : List.Forall₂ R as bs) (each : ∀ a b, a ∈ as → b ∈ bs → R a b → S a b) :
    List.Forall₂ S as bs := by
  induction h with
  | nil => exact .nil
  | cons head _ ih =>
    exact .cons (each _ _ (by simp) (by simp) head)
      (ih fun a b left right => each a b (List.mem_cons_of_mem _ left)
        (List.mem_cons_of_mem _ right))

theorem map_eq_of_forall₂ {γ : Type} {R : α → β → Prop} {f : α → γ} {g : β → γ} {as : List α}
    {bs : List β} (h : List.Forall₂ R as bs) (same : ∀ a b, R a b → f a = g b) :
    as.map f = bs.map g := by
  induction h with
  | nil => rfl
  | cons head _ ih => rw [List.map_cons, List.map_cons, ih, same _ _ head]

/-! Related lists. -/

section

variable {γ : Type} {R : α → β → Prop}

theorem forall₂_iff_exists_pairs {as : List α} {bs : List β} : List.Forall₂ R as bs ↔
    ∃ pairs : List (α × β), pairs.map Prod.fst = as ∧ pairs.map Prod.snd = bs ∧
      ∀ p ∈ pairs, R p.1 p.2 := by
  constructor
  · intro h
    induction h with
    | nil => exact ⟨[], rfl, rfl, by simp⟩
    | @cons a b as bs head _ ih =>
      obtain ⟨pairs, rfl, rfl, each⟩ := ih
      exact ⟨(a, b) :: pairs, rfl, rfl, List.forall_mem_cons.2 ⟨head, each⟩⟩
  · rintro ⟨pairs, rfl, rfl, each⟩
    rw [List.forall₂_map_left_iff, List.forall₂_map_right_iff, List.forall₂_same]
    exact each

/-- Related lists are related in order if the order looks at nothing but what related items share. -/
theorem forall₂_mergeSort {le : α → α → Bool} {le' : β → β → Bool} {as : List α} {bs : List β}
    (h : List.Forall₂ R as bs)
    (same : ∀ a b a' b', R a b → R a' b' → le a a' = le' b b') :
    List.Forall₂ R (as.mergeSort le) (bs.mergeSort le') := by
  obtain ⟨pairs, rfl, rfl, each⟩ := forall₂_iff_exists_pairs.1 h
  have left := List.map_mergeSort (r := fun p q : α × β => le p.1 q.1) (s := le) (f := Prod.fst)
    (l := pairs) fun _ _ _ _ => rfl
  have right := List.map_mergeSort (r := fun p q : α × β => le p.1 q.1) (s := le') (f := Prod.snd)
    (l := pairs) fun p first q second => same _ _ _ _ (each p first) (each q second)
  exact forall₂_iff_exists_pairs.2
    ⟨_, left, right, fun p member => each p (List.mem_mergeSort.1 member)⟩

theorem filter_eq_of_forall₂ {R : α → α → Prop} {p : α → Bool} {as bs : List α}
    (h : List.Forall₂ R as bs) (same : ∀ a b, R a b → p a = p b)
    (equal : ∀ a b, R a b → p a = true → a = b) : as.filter p = bs.filter p := by
  induction h with
  | nil => rfl
  | @cons a b as bs head _ ih =>
    have chosen := same a b head
    cases kept : p a with
    | true => rw [← equal a b head kept, List.filter_cons, List.filter_cons, ih]
    | false =>
      rw [List.filter_cons_of_neg (by simp [kept]), List.filter_cons_of_neg (by simp [← chosen, kept]),
        ih]

theorem map_filter_of_forall₂ {p : α → Bool} {q : β → Bool} {f : α → γ} {g : β → γ} {as : List α}
    {bs : List β} (h : List.Forall₂ R as bs) (chosen : ∀ a b, R a b → p a = q b)
    (same : ∀ a b, R a b → f a = g b) : (as.filter p).map f = (bs.filter q).map g := by
  induction h with
  | nil => rfl
  | @cons a b as bs head _ ih =>
    rw [List.filter_cons, List.filter_cons, chosen a b head]
    split
    · rw [List.map_cons, List.map_cons, ih, same a b head]
    · exact ih

theorem forall₂_filterMap {p : α → Bool} {f : α → Option β} (chosen : ∀ a, (f a).isSome = p a)
    (related : ∀ a b, f a = some b → R a b) (as : List α) :
    List.Forall₂ R (as.filter p) (as.filterMap f) := by
  induction as with
  | nil => exact .nil
  | cons a as ih =>
    rw [List.filter_cons, List.filterMap_cons, ← chosen]
    cases found : f a with
    | none => simpa using ih
    | some b => simpa using ⟨related a b found, ih⟩

theorem forall₂_join {S : α → γ → Prop} {as : List α} {bs : List β} {cs : List γ}
    (first : List.Forall₂ R as bs) (second : List.Forall₂ S as cs) :
    List.Forall₂ (fun b c => ∃ a ∈ as, R a b ∧ S a c) bs cs := by
  induction first generalizing cs with
  | nil =>
    cases second
    exact .nil
  | cons head _ ih =>
    cases second with
    | cons head' tail' =>
      refine .cons ⟨_, by simp, head, head'⟩ ((ih tail').imp ?_)
      rintro b c ⟨a, member, related⟩
      exact ⟨a, List.mem_cons_of_mem _ member, related⟩

end

end StoredRoutines.Outcomes
