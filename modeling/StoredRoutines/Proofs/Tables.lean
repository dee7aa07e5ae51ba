import Mathlib.Data.List.Nodup
import Mathlib.Data.List.Perm.Basic
import StoredRoutines.Assoc

/-!
Tables whose keys are distinct. Assignments keep the keys distinct; in such a table an entry and a
look-up are the same thing, the order of the entries does not matter for look-ups, and assigning
what is there already changes nothing.
-/

namespace StoredRoutines.Assoc

variable {α β : Type} [BEq α] [LawfulBEq α]

omit [BEq α] [LawfulBEq α] in
@[simp] theorem keys_nil : keys ([] : List (α × β)) = [] := rfl

omit [BEq α] [LawfulBEq α] in
@[simp] theorem keys_cons (e : α × β) (table : List (α × β)) :
    keys (e :: table) = e.1 :: keys table := rfl

omit [BEq α] [LawfulBEq α] in
@[simp] theorem keys_append (s t : List (α × β)) : keys (s ++ t) = keys s ++ keys t :=
  List.map_append

theorem lookup_eq_none_iff {k : α} {table : List (α × β)} :
    table.lookup k = none ↔ k ∉ keys table := by
  rw [List.lookup_eq_none_iff, keys, List.mem_map]
  constructor
  · rintro absent ⟨e, member, rfl⟩
    have := absent e member
    simp at this
  · intro absent e member
    have : k ≠ e.1 := by
      rintro rfl
      exact absent ⟨e, member, rfl⟩
    simpa using this

theorem mem_of_lookup {k : α} {v : β} {table : List (α × β)} (h : table.lookup k = some v) :
    (k, v) ∈ table := by
  obtain ⟨before, after, rfl, -⟩ := List.lookup_eq_some_iff.1 h
  simp

theorem mem_keys_of_lookup {k : α} {v : β} {table : List (α × β)} (h : table.lookup k = some v) :
    k ∈ keys table :=
  List.mem_map.2 ⟨(k, v), mem_of_lookup h, rfl⟩

theorem lookup_of_mem {k : α} {v : β} {table : List (α × β)} (distinct : (keys table).Nodup)
    (member : (k, v) ∈ table) : table.lookup k = some v := by
  induction table with
  | nil => simp at member
  | cons e es ih =>
    obtain ⟨j, x⟩ := e
    rw [keys_cons, List.nodup_cons] at distinct
    rcases List.mem_cons.1 member with same | later
    · cases same
      simp
    · have different : (k == j) = false := by
        rw [beq_eq_false_iff_ne]
        rintro rfl
        exact distinct.1 (List.mem_map.2 ⟨(k, v), later, rfl⟩)
      rw [List.lookup_cons, different]
      exact ih distinct.2 later

theorem lookup_perm {s t : List (α × β)} (h : s.Perm t) (distinct : (keys s).Nodup) (k : α) :
    s.lookup k = t.lookup k := by
  have distinct' : (keys t).Nodup := (h.map _).nodup_iff.1 distinct
  cases found : s.lookup k with
  | some v => exact (lookup_of_mem distinct' (h.mem_iff.1 (mem_of_lookup found))).symm
  | none =>
    rw [lookup_eq_none_iff] at found
    refine (lookup_eq_none_iff.2 fun member => found ?_).symm
    exact (h.map _).mem_iff.2 member

omit [LawfulBEq α] in
theorem lookup_map {γ : Type} (f : β → γ) (table : List (α × β)) (k : α) :
    (table.map fun e => (e.1, f e.2)).lookup k = (table.lookup k).map f := by
  induction table with
  | nil => rfl
  | cons e es ih =>
    rw [List.map_cons, List.lookup_cons, List.lookup_cons, ih]
    cases k == e.1 <;> rfl

theorem lookup_filter (p : α → Bool) (k : α) (table : List (α × β)) :
    (table.filter fun e => p e.1).lookup k = if p k then table.lookup k else none := by
  induction table with
  | nil => simp
  | cons e es ih =>
    obtain ⟨j, x⟩ := e
    by_cases same : k = j
    · subst same
      by_cases keep : p k = true
      · simp [keep]
      · simp [keep, ih]
    · have different : (k == j) = false := by simpa using same
      by_cases keep : p j = true
      · simp [keep, List.lookup_cons, different, ih]
      · simp [keep, List.lookup_cons, different, ih]

omit [BEq α] [LawfulBEq α] in
theorem nodup_keys_filter {table : List (α × β)} (distinct : (keys table).Nodup)
    (p : α × β → Bool) : (keys (table.filter p)).Nodup :=
  distinct.sublist (List.filter_sublist.map _)

theorem mem_keys_put {j k : α} {v : β} {table : List (α × β)} :
    j ∈ keys (put k v table) ↔ j = k ∨ j ∈ keys table := by
  by_cases same : j = k
  · subst same
    exact ⟨fun _ => .inl rfl, fun _ => mem_keys_of_lookup (lookup_put_self j v table)⟩
  · have unchanged := lookup_put_of_ne same v table
    rw [← not_iff_not, ← lookup_eq_none_iff, unchanged, lookup_eq_none_iff]
    simp [same]

theorem nodup_keys_put {table : List (α × β)} (distinct : (keys table).Nodup) (k : α) (v : β) :
    (keys (put k v table)).Nodup := by
  induction table with
  | nil => simp [put]
  | cons e es ih =>
    obtain ⟨j, x⟩ := e
    rw [keys_cons, List.nodup_cons] at distinct
    by_cases same : j = k
    · subst same
      simpa [put] using distinct
    · have tail := ih distinct.2
      have absent : j ∉ keys (put k v es) := by
        rw [mem_keys_put]
        rintro (rfl | member)
        · exact same rfl
        · exact distinct.1 member
      simpa [put, same] using ⟨absent, tail⟩

theorem nodup_keys_putAll {table : List (α × β)} (distinct : (keys table).Nodup)
    (assignments : List (α × β)) : (keys (putAll table assignments)).Nodup := by
  induction assignments generalizing table with
  | nil => exact distinct
  | cons e es ih => exact ih (nodup_keys_put distinct e.1 e.2)

theorem nodup_keys_ofPairs (assignments : List (α × β)) : (keys (ofPairs assignments)).Nodup :=
  nodup_keys_putAll (by simp) assignments

theorem put_eq_self {k : α} {v : β} {table : List (α × β)} (h : table.lookup k = some v) :
    put k v table = table := by
  induction table with
  | nil => simp at h
  | cons e es ih =>
    obtain ⟨j, x⟩ := e
    by_cases same : j = k
    · subst same
      simp only [List.lookup_cons, beq_self_eq_true, Option.some.injEq] at h
      simp [put, h]
    · have different : (k == j) = false := by simpa using Ne.symm same
      rw [List.lookup_cons, different] at h
      simp [put, same, ih h]

theorem put_put (k : α) (v w : β) (table : List (α × β)) :
    put k w (put k v table) = put k w table := by
  induction table with
  | nil => simp [put]
  | cons e es ih =>
    by_cases same : e.1 = k
    · simp [put, same]
    · simp [put, same, ih]

theorem put_of_not_mem {k : α} {table : List (α × β)} (absent : k ∉ keys table) (v : β) :
    put k v table = table ++ [(k, v)] := by
  induction table with
  | nil => rfl
  | cons e es ih =>
    rw [keys_cons, List.mem_cons, not_or] at absent
    have different : (e.1 == k) = false := by simpa using Ne.symm absent.1
    simp [put, different, ih absent.2]

theorem putAll_of_nodup {table assignments : List (α × β)}
    (distinct : (keys (table ++ assignments)).Nodup) :
    putAll table assignments = table ++ assignments := by
  induction assignments generalizing table with
  | nil => simp [putAll]
  | cons e es ih =>
    have absent : e.1 ∉ keys table := by
      rw [keys_append, keys_cons, List.nodup_append] at distinct
      intro member
      exact distinct.2.2 _ member _ (by simp) rfl
    have step : putAll table (e :: es) = putAll (table ++ [e]) es := by
      rw [← put_of_not_mem absent]
      rfl
    rw [step, ih (by simpa using distinct), List.append_assoc, List.singleton_append]

omit [LawfulBEq α] in
theorem first_of_lookup {k : α} {v : β} {table : List (α × β)} (found : table.lookup k = some v) :
    ∃ before j after, table = before ++ (j, v) :: after ∧ (k == j) = true ∧
      ∀ e ∈ before, (k == e.1) = false := by
  induction table with
  | nil => cases found
  | cons e es ih =>
    rw [List.lookup_cons] at found
    split at found
    · rename_i same
      cases found
      exact ⟨[], e.1, es, rfl, same, by simp⟩
    · rename_i other
      obtain ⟨before, j, after, rfl, same, others⟩ := ih found
      exact ⟨e :: before, j, after, rfl, same, List.forall_mem_cons.2 ⟨other, others⟩⟩

omit [LawfulBEq α] in
theorem exists_of_lookup {k : α} {v : β} {table : List (α × β)} (h : table.lookup k = some v) :
    ∃ j, (k == j) = true ∧ (j, v) ∈ table := by
  obtain ⟨before, j, after, rfl, same, -⟩ := first_of_lookup h
  exact ⟨j, same, by simp⟩

omit [LawfulBEq α] in
/-- An entry after an assignment is one from before, or holds the new value at a key that counts as
the assigned one. -/
theorem mem_put {k : α} {v : β} {table : List (α × β)} {e : α × β} (h : e ∈ put k v table) :
    e ∈ table ∨ e = (k, v) ∨ ((e.1 == k) = true ∧ e.2 = v) := by
  induction table with
  | nil => exact .inr (.inl (by simpa [put] using h))
  | cons d ds ih =>
    unfold put at h
    split at h
    · rename_i same
      rcases List.mem_cons.1 h with rfl | later
      · exact .inr (.inr ⟨same, rfl⟩)
      · exact .inl (List.mem_cons_of_mem _ later)
    · rcases List.mem_cons.1 h with rfl | later
      · exact .inl (by simp)
      · rcases ih later with old | new
        · exact .inl (List.mem_cons_of_mem _ old)
        · exact .inr new

theorem mem_or_eq_of_mem_put {k : α} {v : β} {table : List (α × β)} {e : α × β}
    (h : e ∈ put k v table) : e ∈ table ∨ e = (k, v) := by
  rcases mem_put h with old | new | ⟨same, value⟩
  · exact .inl old
  · exact .inr new
  · exact .inr (Prod.ext (eq_of_beq same) value)

theorem mem_keys_of_mem_keys_putAll {k : α} {table assignments : List (α × β)}
    (h : k ∈ keys (putAll table assignments)) : k ∈ keys table ∨ k ∈ keys assignments := by
  induction assignments generalizing table with
  | nil => exact .inl h
  | cons e es ih =>
    rw [keys_cons, List.mem_cons]
    rcases ih h with old | new
    · rcases mem_keys_put.1 old with same | old
      · exact .inr (.inl same)
      · exact .inl old
    · exact .inr (.inr new)

theorem mem_keys_of_mem_keys_ofPairs {k : α} {assignments : List (α × β)}
    (h : k ∈ keys (ofPairs assignments)) : k ∈ keys assignments :=
  (mem_keys_of_mem_keys_putAll h).resolve_left (by simp)

omit [LawfulBEq α] in
theorem forall_mem_put {P : α → Prop} {Q : β → Prop} {table : List (α × β)} {k : α} {v : β}
    (old : ∀ e ∈ table, P e.1 ∧ Q e.2) (key : P k) (value : Q v) :
    ∀ e ∈ put k v table, P e.1 ∧ Q e.2 := by
  induction table with
  | nil => simpa [put] using ⟨key, value⟩
  | cons e es ih =>
    obtain ⟨head, tail⟩ := List.forall_mem_cons.1 old
    unfold put
    split
    · exact List.forall_mem_cons.2 ⟨⟨head.1, value⟩, tail⟩
    · exact List.forall_mem_cons.2 ⟨head, ih tail⟩

omit [LawfulBEq α] in
theorem forall_mem_putAll {P : α → Prop} {Q : β → Prop} {table assignments : List (α × β)}
    (old : ∀ e ∈ table, P e.1 ∧ Q e.2) (new : ∀ e ∈ assignments, P e.1 ∧ Q e.2) :
    ∀ e ∈ putAll table assignments, P e.1 ∧ Q e.2 := by
  induction assignments generalizing table with
  | nil => exact old
  | cons d ds ih =>
    obtain ⟨first, later⟩ := List.forall_mem_cons.1 new
    exact ih (forall_mem_put old first.1 first.2) later

omit [LawfulBEq α] in
theorem forall_mem_ofPairs {P : α → Prop} {Q : β → Prop} {assignments : List (α × β)}
    (each : ∀ e ∈ assignments, P e.1 ∧ Q e.2) : ∀ e ∈ ofPairs assignments, P e.1 ∧ Q e.2 :=
  forall_mem_putAll (by simp) each

theorem ofPairs_of_nodup {assignments : List (α × β)} (distinct : (keys assignments).Nodup) :
    ofPairs assignments = assignments :=
  putAll_of_nodup distinct

end StoredRoutines.Assoc
