import Mathlib.Data.List.Nodup
import Mathlib.Data.List.Perm.Basic
import StoredRoutines.Build.Batch

/-!
Grouping of sources by the routine names that they imply. Each path is in one group; a routine is
handled exactly if one path implies its name, and each path is either handled or rejected.
-/

namespace StoredRoutines.Batch

theorem nodup_eraseDups {α : Type} [DecidableEq α] (as : List α) : as.eraseDups.Nodup := by
  induction h : as.length using Nat.strongRecOn generalizing as with
  | ind n ih =>
    cases as with
    | nil => simp
    | cons a as =>
      rw [List.eraseDups_cons, List.nodup_cons]
      have smaller : (as.filter fun b => !b == a).length < n := by
        have := List.length_filter_le (fun b => !b == a) as
        simp only [List.length_cons] at h
        omega
      refine ⟨?_, ih _ smaller _ rfl⟩
      rw [List.mem_eraseDups, List.mem_filter]
      simp

def implying (extension : String) (paths : List Path) (name : String) : List Path :=
  paths.filter fun p => routineName p extension = name

variable {extension : String} {paths : List Path}

theorem mem_implying {name : String} {p : Path} :
    p ∈ implying extension paths name ↔ p ∈ paths ∧ routineName p extension = name := by
  simp [implying]

theorem mem_groups {name : String} {group : List Path} :
    (name, group) ∈ groups extension paths ↔
      (∃ p ∈ paths, routineName p extension = name) ∧
        group = implying extension paths name := by
  simp only [groups, List.mem_map, List.mem_eraseDups, Prod.mk.injEq]
  constructor
  · rintro ⟨name', ⟨p, member, rfl⟩, rfl, rfl⟩
    exact ⟨⟨p, member, rfl⟩, rfl⟩
  · rintro ⟨⟨p, member, implied⟩, rfl⟩
    exact ⟨name, ⟨p, member, implied⟩, rfl, rfl⟩

theorem mem_sources {name : String} {p : Path} :
    (name, p) ∈ sources (groups extension paths) ↔ implying extension paths name = [p] := by
  simp only [sources, List.mem_filterMap]
  constructor
  · rintro ⟨⟨name', group⟩, member, found⟩
    dsimp only at found
    split at found <;> cases found
    exact (mem_groups.1 member).2.symm
  · intro alone
    have member : p ∈ implying extension paths name := by simp [alone]
    exact ⟨_, mem_groups.2 ⟨⟨p, mem_implying.1 member⟩, alone.symm⟩, rfl⟩

theorem name_of_mem_sources {name : String} {p : Path}
    (h : (name, p) ∈ sources (groups extension paths)) : routineName p extension = name := by
  have member : p ∈ implying extension paths name := by simp [mem_sources.1 h]
  exact (mem_implying.1 member).2

theorem mem_duplicates {name : String} {group : List Path} {p : Path} :
    (name, group, p) ∈ duplicates (groups extension paths) ↔
      group = implying extension paths name ∧ p ∈ group ∧ group ≠ [p] := by
  simp only [duplicates, List.mem_flatMap]
  constructor
  · rintro ⟨⟨name', group'⟩, member, inside⟩
    dsimp only at inside
    split at inside
    · cases inside
    · rename_i several
      obtain ⟨q, place, same⟩ := List.mem_map.1 inside
      cases same
      exact ⟨(mem_groups.1 member).2, place, several p⟩
  · rintro ⟨rfl, member, several⟩
    refine ⟨(name, _), mem_groups.2 ⟨⟨p, mem_implying.1 member⟩, rfl⟩, ?_⟩
    dsimp only
    split
    · rename_i q alone
      rw [alone, List.mem_singleton] at member
      exact absurd (by rw [alone, member]) several
    · exact List.mem_map.2 ⟨p, member, rfl⟩

theorem nodup_names_sources : ((sources (groups extension paths)).map (·.1)).Nodup := by
  have names : ((groups extension paths).map (·.1)).Nodup := by
    simp only [groups, List.map_map]
    have same : (Prod.fst ∘ fun name => (name, paths.filter fun p =>
        routineName p extension = name)) = id := by
      funext name
      rfl
    rw [same, List.map_id]
    exact nodup_eraseDups _
  generalize groups extension paths = gs at names ⊢
  have sublist : ((sources gs).map (·.1)).Sublist (gs.map (·.1)) := by
    clear names
    induction gs with
    | nil => simp [sources]
    | cons g gs ih =>
      obtain ⟨name, group⟩ := g
      simp only [sources, List.filterMap_cons] at ih ⊢
      split
      · exact ih.cons _
      · rename_i found
        split at found <;> cases found
        exact ih.cons_cons _
  exact names.sublist sublist

theorem flatMap_implying_perm (extension : String) (paths : List Path) {names : List String}
    (distinct : names.Nodup) :
    (names.flatMap (implying extension paths)).Perm
      (paths.filter fun p => decide (routineName p extension ∈ names)) := by
  induction names with
  | nil => simp
  | cons name names ih =>
    rw [List.nodup_cons] at distinct
    rw [List.flatMap_cons]
    refine (List.Perm.append_left _ (ih distinct.2)).trans ?_
    have parts := List.filter_append_perm (fun p => decide (routineName p extension = name))
      (paths.filter fun p => decide (routineName p extension ∈ name :: names))
    refine List.Perm.trans (List.Perm.of_eq ?_) parts
    rw [List.filter_filter, List.filter_filter, implying]
    congr 1
    · refine List.filter_congr (fun p _ => ?_)
      by_cases same : routineName p extension = name <;> simp [same]
    · refine List.filter_congr (fun p _ => ?_)
      by_cases same : routineName p extension = name
      · simp [same, distinct.1]
      · simp [same]

/-- Each path is either handled or rejected, and once only. -/
theorem rejected_handled_perm :
    ((duplicates (groups extension paths)).map (·.2.2) ++
      (sources (groups extension paths)).map (·.2)).Perm paths := by
  have parts (gs : List (String × List Path)) :
      ((duplicates gs).map (·.2.2) ++ (sources gs).map (·.2)).Perm (gs.flatMap (·.2)) := by
    induction gs with
    | nil => simp [duplicates, sources]
    | cons g gs ih =>
      obtain ⟨name, group⟩ := g
      simp only [duplicates, sources, List.flatMap_cons, List.filterMap_cons] at ih ⊢
      split
      · simpa using List.perm_middle.trans (ih.cons _)
      · have paths_of : (group.map fun p => (name, group, p)).map (·.2.2) = group := by
          simp [Function.comp_def]
        rw [List.map_append, paths_of, List.append_assoc]
        exact ih.append_left _
  have whole : ((groups extension paths).flatMap (·.2)).Perm paths := by
    have all := flatMap_implying_perm extension paths
      (nodup_eraseDups (paths.map (routineName · extension)))
    simp only [groups, List.flatMap_map]
    refine all.trans (List.Perm.of_eq (List.filter_eq_self.2 (fun p member => ?_)))
    simpa using ⟨p, member, rfl⟩
  exact (parts _).trans whole

end StoredRoutines.Batch
