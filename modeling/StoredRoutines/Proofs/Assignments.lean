import StoredRoutines.Assoc
import StoredRoutines.Value.Atom

/-!
Look-ups after assignments. At each key a table holds the last value that was assigned to it. This
needs no more of the keys than that sameness is an equivalence, so it covers keys several of which
count as one.
-/

namespace StoredRoutines

namespace Assoc

variable {α β : Type} [BEq α] [EquivBEq α]

theorem lookup_congr {j k : α} (same : (j == k) = true) (table : List (α × β)) :
    table.lookup j = table.lookup k := by
  induction table with
  | nil => rfl
  | cons e es ih => rw [List.lookup_cons, List.lookup_cons, BEq.congr_left same, ih]

theorem lookup_put (j k : α) (v : β) (table : List (α × β)) :
    (put k v table).lookup j = if j == k then some v else table.lookup j := by
  induction table with
  | nil =>
    rw [put, List.lookup_cons]
    cases j == k <;> rfl
  | cons e es ih =>
    obtain ⟨i, x⟩ := e
    unfold put
    split
    · rename_i same
      rw [List.lookup_cons, List.lookup_cons, BEq.congr_right same]
      cases j == k <;> rfl
    · rename_i different
      rw [List.lookup_cons, List.lookup_cons, ih]
      cases here : j == i with
      | false => rfl
      | true =>
        -- The assigned key is not the one of the first entry, so neither is it the one looked up.
        have other : (j == k) = false := by
          rw [BEq.congr_left here]
          simpa using different
        rw [other]
        rfl

theorem lookup_putAll (table assignments : List (α × β)) (k : α) :
    (putAll table assignments).lookup k = (assignments.reverse.lookup k).or (table.lookup k) := by
  induction assignments generalizing table with
  | nil => rfl
  | cons e es ih =>
    have step : putAll table (e :: es) = putAll (put e.1 e.2 table) es := rfl
    rw [step, ih, lookup_put, List.reverse_cons, List.lookup_append, Option.or_assoc,
      List.lookup_cons]
    cases k == e.1 <;> rfl

theorem lookup_ofPairs (assignments : List (α × β)) (k : α) :
    (ofPairs assignments).lookup k = assignments.reverse.lookup k :=
  (lookup_putAll [] assignments k).trans Option.or_none

theorem isSome_lookup_of_mem {k : α} {table : List (α × β)} (member : k ∈ keys table) :
    (table.lookup k).isSome = true := by
  obtain ⟨e, place, rfl⟩ := List.mem_map.1 member
  exact List.lookup_isSome_iff.2 ⟨e, place, BEq.rfl⟩

omit [EquivBEq α] in
theorem mem_keys_of_put {j k : α} {v : β} {table : List (α × β)}
    (member : j ∈ keys (put k v table)) : j = k ∨ j ∈ keys table := by
  induction table with
  | nil => exact .inl (List.mem_singleton.1 member)
  | cons e es ih =>
    unfold put at member
    split at member
    · exact .inr member
    · rcases List.mem_cons.1 member with rfl | later
      · exact .inr List.mem_cons_self
      · exact (ih later).imp_right (List.mem_cons_of_mem _)

omit [EquivBEq α] in
theorem apart_keys_put {table : List (α × β)}
    (apart : (keys table).Pairwise fun i j => (i == j) = false) (k : α) (v : β) :
    (keys (put k v table)).Pairwise fun i j => (i == j) = false := by
  induction table with
  | nil => exact List.pairwise_singleton _ _
  | cons e es ih =>
    obtain ⟨first, rest⟩ := List.pairwise_cons.1 apart
    unfold put
    split
    · exact apart
    · rename_i different
      refine List.pairwise_cons.2 ⟨fun j member => ?_, ih rest⟩
      rcases mem_keys_of_put member with rfl | later
      · simpa using different
      · exact first j later

omit [EquivBEq α] in
theorem apart_keys_putAll {table : List (α × β)}
    (apart : (keys table).Pairwise fun i j => (i == j) = false) (assignments : List (α × β)) :
    (keys (putAll table assignments)).Pairwise fun i j => (i == j) = false := by
  induction assignments generalizing table with
  | nil => exact apart
  | cons e es ih => exact ih (apart_keys_put apart e.1 e.2)

omit [EquivBEq α] in
theorem apart_keys_ofPairs (assignments : List (α × β)) :
    (keys (ofPairs assignments)).Pairwise fun i j => (i == j) = false :=
  apart_keys_putAll List.Pairwise.nil assignments

end Assoc

namespace Key

instance : EquivBEq Key where
  rfl := (beq_iff _ _).2 rfl
  symm same := (beq_iff _ _).2 ((beq_iff _ _).1 same).symm
  trans left right := (beq_iff _ _).2 (((beq_iff _ _).1 left).trans ((beq_iff _ _).1 right))

theorem beq_text_iff {k : Key} {s : String} : (k == ⟨.text s⟩) = true ↔ k.atom = .text s := by
  obtain ⟨a⟩ := k
  rw [beq_iff]
  cases a with
  | real x =>
    simp only [normal]
    split <;> simp
  | _ => simp [normal]

theorem beq_text (m n : String) : ((⟨.text m⟩ : Key) == ⟨.text n⟩) = (m == n) := by
  rw [Bool.eq_iff_iff, beq_text_iff, beq_iff_eq]
  exact ⟨Atom.text.inj, congrArg Atom.text⟩

end Key

end StoredRoutines
