import StoredRoutines.Proofs.Pieces

/-!
Replacing the keys of a table. Trying longer keys first amounts to one pass from left to right that
takes the longest key at each place and goes on behind it. At each place there is one longest key,
so the order of the table does not matter.
-/

namespace StoredRoutines.Substitution

/-- One pass over a text: the longest key that starts here gives way to its value, which is not
looked at again, and a character that starts no key stays. -/
inductive Pass (table : Table) : List Char → List Char → Prop
  | done : Pass table [] []
  | key {k v : String} {rest out : List Char} (entry : (k, v) ∈ table)
      (longest : ∀ j ∈ Assoc.keys table, j.toList <+: k.toList ++ rest → j.length ≤ k.length)
      (later : Pass table rest out) : Pass table (k.toList ++ rest) (v.toList ++ out)
  | plain {c : Char} {cs out : List Char} (none : ∀ k ∈ Assoc.keys table, ¬ k.toList <+: c :: cs)
      (later : Pass table cs out) : Pass table (c :: cs) (c :: out)

theorem sorted_entries (table : Table) :
    (entries table).Pairwise fun d e => e.1.length ≤ d.1.length := by
  refine (List.pairwise_mergeSort ?_ ?_ _).imp of_decide_eq_true
  · intro a b c first second
    exact decide_eq_true (Nat.le_trans (of_decide_eq_true second) (of_decide_eq_true first))
  · intro a b
    rw [Bool.or_eq_true, decide_eq_true_eq, decide_eq_true_eq]
    exact Nat.le_total _ _

/-- What matches first in sorted entries is the longest of the keys that start the text. -/
theorem longest_of_match? {entries : List (List Char × List Char)}
    (sorted : entries.Pairwise fun d e => e.1.length ≤ d.1.length) {s value rest : List Char}
    (h : match? entries s = some (value, rest)) :
    ∃ key, (key, value) ∈ entries ∧ s = key ++ rest ∧
      ∀ e ∈ entries, e.1 <+: s → e.1.length ≤ key.length := by
  obtain ⟨before, ⟨key, _⟩, after, rfl, found, earlier⟩ := List.findSome?_eq_some_iff.1 h
  split at found
  · cases found
  · obtain ⟨left, dropped, same⟩ := Option.map_eq_some_iff.1 found
    obtain ⟨rfl, rfl⟩ := Prod.mk.inj same
    refine ⟨key, by simp, Text.dropPrefix?_eq_some_iff.1 dropped, fun e member starts => ?_⟩
    rcases List.mem_append.1 member with first | later
    · -- An entry in front that starts the text would have matched, unless its key is empty.
      obtain ⟨more, rfl⟩ := starts
      have nothing := earlier e first
      have stripped : Text.dropPrefix? e.1 (e.1 ++ more) = some more :=
        Text.dropPrefix?_eq_some_iff.2 rfl
      simp only [stripped, Option.map_some, ite_eq_left_iff] at nothing
      by_cases empty : e.1.isEmpty = true
      · rw [List.isEmpty_iff.1 empty]
        exact Nat.zero_le _
      · exact absurd (nothing empty) (by simp)
    · rcases List.mem_cons.1 later with rfl | behind
      · exact Nat.le_refl _
      · exact (List.pairwise_cons.1 (List.pairwise_append.1 sorted).2.1).1 e behind

section

variable {table : Table} (nonempty : ∀ k ∈ Assoc.keys table, k ≠ "")

include nonempty

theorem mem_entries_of_mem {k v : String} (member : (k, v) ∈ table) :
    (k.toList, v.toList) ∈ entries table := by
  rw [mem_entries, String.ofList_toList, String.ofList_toList]
  exact ⟨fun empty => nonempty k (List.mem_map.2 ⟨_, member, rfl⟩) (String.toList_eq_nil_iff.1 empty),
    member⟩

/-- The pass makes just one text, and it is the one with the keys replaced. -/
theorem replaced_of_pass (distinct : (Assoc.keys table).Nodup) {s out : List Char}
    (h : Pass table s out) : replaced (entries table) [] s = out := by
  induction h with
  | done => simp [replaced]
  | @key k v rest out entry longest _ ih =>
    have inside := mem_entries_of_mem nonempty entry
    have filled := (mem_entries.1 inside).1
    cases found : match? (entries table) (k.toList ++ rest) with
    | none => exact absurd rfl (match?_eq_none found inside filled rest)
    | some r =>
      obtain ⟨value, rest'⟩ := r
      obtain ⟨key, place, whole, maximal⟩ := longest_of_match? (sorted_entries table) found
      have kept := (mem_entries.1 place).2
      -- The key that was found is a longest one, as that of the pass is, and both start the text.
      have short := longest _ (List.mem_map.2 ⟨_, kept, rfl⟩)
        (by rw [String.toList_ofList, whole]; exact List.prefix_append _ _)
      have long := maximal _ inside (List.prefix_append _ _)
      have size : k.toList.length = key.length := by
        rw [String.length_ofList, ← String.length_toList] at short
        exact Nat.le_antisymm long short
      obtain ⟨rfl, rfl⟩ := List.append_inj whole size
      rw [String.ofList_toList] at kept
      have value_eq := Option.some.inj
        ((Assoc.lookup_of_mem distinct kept).symm.trans (Assoc.lookup_of_mem distinct entry))
      rw [replaced_of_match found, ih, ← value_eq, String.toList_ofList]
  | @plain c cs out none _ ih =>
    have nothing : match? (entries table) (c :: cs) = .none := by
      cases found : match? (entries table) (c :: cs) with
      | none => rfl
      | some r =>
        obtain ⟨key, place, whole⟩ := match?_eq_some found
        have starts : (String.ofList key).toList <+: c :: cs := by
          rw [String.toList_ofList, whole]
          exact List.prefix_append _ _
        exact absurd starts (none _ (List.mem_map.2 ⟨_, (mem_entries.1 place).2, rfl⟩))
    rw [replaced_of_none nothing, ih]
    rfl

theorem pass_replaced (s : List Char) : Pass table s (replaced (entries table) [] s) := by
  induction s using replaced.induct (entries table) with
  | case1 =>
    simp only [replaced]
    exact .done
  | case2 c cs value rest found _ ih =>
    obtain ⟨key, place, whole, maximal⟩ := longest_of_match? (sorted_entries table) found
    rw [replaced_of_match found, whole]
    have step : Pass table ((String.ofList key).toList ++ rest)
        ((String.ofList value).toList ++ replaced (entries table) [] rest) := by
      refine .key (mem_entries.1 place).2 (fun j member starts => ?_) ih
      obtain ⟨e, entry, rfl⟩ := List.mem_map.1 member
      rw [String.toList_ofList, ← whole] at starts
      rw [String.length_ofList, ← String.length_toList]
      exact maximal _ (mem_entries_of_mem nonempty entry) starts
    rwa [String.toList_ofList, String.toList_ofList] at step
  | case3 c cs found ih =>
    rw [replaced_of_none found, List.nil_append]
    refine .plain (fun k member => ?_) ih
    rintro ⟨more, same⟩
    obtain ⟨e, entry, rfl⟩ := List.mem_map.1 member
    have inside := mem_entries_of_mem nonempty entry
    exact match?_eq_none found inside (mem_entries.1 inside).1 more same.symm

theorem replaceAll_of_nonempty (text : String) :
    replaceAll table text = String.ofList (replaced (entries table) [] text.toList) := by
  have absent : table.lookup "" = none :=
    Assoc.lookup_eq_none_iff.2 fun member => nonempty "" member rfl
  rw [replaceAll, absent]
  rfl

end

theorem Pass.perm {table table' : Table} (same : table.Perm table') {s out : List Char}
    (h : Pass table s out) : Pass table' s out := by
  have keys (k : String) : k ∈ Assoc.keys table' → k ∈ Assoc.keys table :=
    ((same.map _).mem_iff (a := k)).2
  induction h with
  | done => exact .done
  | key entry longest _ ih =>
    exact .key (same.mem_iff.1 entry) (fun j member => longest j (keys j member)) ih
  | plain none _ ih => exact .plain (fun k member => none k (keys k member)) ih

theorem pass_of_no_key {table : Table} {s : List Char}
    (none : ∀ k ∈ Assoc.keys table, ¬ k.toList <:+: s) : Pass table s s := by
  induction s with
  | nil => exact .done
  | cons c cs ih =>
    refine .plain (fun k member starts => none k member starts.isInfix) (ih fun k member inside => ?_)
    exact none k member (inside.trans (List.suffix_cons c cs).isInfix)

/-- Replacing the keys of a table is the pass that takes the longest key at each place. So the order
of the table does not matter, and a text in which no key occurs stays as it is. -/
theorem replaceAll_eq_iff_pass {table : Table} (nonempty : ∀ k ∈ Assoc.keys table, k ≠ "")
    (distinct : (Assoc.keys table).Nodup) (text : String) :
    (∀ out, replaceAll table text = out ↔ Pass table text.toList out.toList) ∧
      (∀ table', table.Perm table' → replaceAll table' text = replaceAll table text) ∧
      ((∀ k ∈ Assoc.keys table, ¬ k.toList <:+: text.toList) → replaceAll table text = text) := by
  have passes := pass_replaced nonempty text.toList
  have unique {out : List Char} (h : Pass table text.toList out) :
      replaceAll table text = String.ofList out := by
    rw [replaceAll_of_nonempty nonempty, replaced_of_pass nonempty distinct h]
  refine ⟨fun out => ⟨?_, fun h => ?_⟩, fun table' same => ?_, fun none => ?_⟩
  · rintro rfl
    rwa [replaceAll_of_nonempty nonempty, String.toList_ofList]
  · rw [unique h, String.ofList_toList]
  · have nonempty' : ∀ k ∈ Assoc.keys table', k ≠ "" := fun k member =>
      nonempty k ((same.map _).mem_iff.2 member)
    have distinct' : (Assoc.keys table').Nodup := (same.map _).nodup_iff.1 distinct
    rw [replaceAll_of_nonempty nonempty', replaced_of_pass nonempty' distinct' (passes.perm same),
      replaceAll_of_nonempty nonempty]
  · rw [unique (pass_of_no_key none), String.ofList_toList]

/-- Keys that are parts of each other, with values that hold keys. -/
def nested : Table := [("a", "ab"), ("ab", "a"), ("b", "c"), ("ba", "b")]

theorem nested_keys_replaced :
    (∀ k ∈ Assoc.keys nested, k ≠ "") ∧ (Assoc.keys nested).Nodup ∧
      replaceAll nested "aabbad" = "ababd" ∧
      replaceAll nested.reverse "aabbad" = replaceAll nested "aabbad" ∧
      replaceAll nested "dd" = "dd" := by
  have nonempty : ∀ k ∈ Assoc.keys nested, k ≠ "" := by decide
  have distinct : (Assoc.keys nested).Nodup := by decide
  have pass : Pass nested "aabbad".toList "ababd".toList := by
    have last : Pass nested ['d'] ['d'] := .plain (by decide) .done
    have third : Pass nested "bad".toList "bd".toList :=
      .key (k := "ba") (v := "b") (by decide) (by decide) last
    have second : Pass nested "abbad".toList "abd".toList :=
      .key (k := "ab") (v := "a") (by decide) (by decide) third
    exact .key (k := "a") (v := "ab") (by decide) (by decide) second
  obtain ⟨whole, order, -⟩ := replaceAll_eq_iff_pass nonempty distinct "aabbad"
  exact ⟨nonempty, distinct, (whole _).2 pass, order _ (List.reverse_perm nested).symm,
    (replaceAll_eq_iff_pass nonempty distinct "dd").2.2 (by decide)⟩

end StoredRoutines.Substitution
