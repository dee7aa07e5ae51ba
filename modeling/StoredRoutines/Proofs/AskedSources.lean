import StoredRoutines.Proofs.Isolation
import StoredRoutines.Proofs.Splitting

/-!
Sources asked for by a list. The order in which files are listed and the spelling of their paths
have no part in a batch. How often a file is listed has: a file listed twice is at odds with itself,
as two files of one routine are, and each listing comes to a result.
-/

namespace StoredRoutines

open Loader Outcomes

namespace Path

/-! The order of paths. It tells normal paths apart, so that a list of them has one sorted form. -/

theorem precedes_trans (p q r : Path) (first : p.precedes q = true)
    (second : q.precedes r = true) : p.precedes r = true := by
  simp only [precedes, Bool.not_eq_true', List.lex_eq_false_iff_ge] at first second ⊢
  exact List.le_trans first second

theorem precedes_total (p q : Path) : (p.precedes q || q.precedes p) = true := by
  simp only [precedes, Bool.or_eq_true, Bool.not_eq_true', List.lex_eq_false_iff_ge]
  exact List.le_total _ _

theorem key_eq_of_precedes {p q : Path} (first : p.precedes q = true)
    (second : q.precedes p = true) : p.key = q.key := by
  simp only [precedes, Bool.not_eq_true', List.lex_eq_false_iff_ge] at first second
  exact List.le_antisymm first second

/-- A slash stands in the root only: it is in no component, and in every root there is. -/
structure Normal (p : Path) : Prop where
  root : p.root ≠ "" → '/' ∈ p.root.toList
  parts : ∀ part ∈ p.parts, '/' ∉ part.toList

theorem mem_rootOf (s : List Char) (some' : rootOf s ≠ "") : '/' ∈ (rootOf s).toList := by
  revert some'
  fun_cases rootOf s <;> simp

theorem normal_ofString (s : String) : (ofString s).Normal where
  root := mem_rootOf s.toList
  parts := by
    intro part member
    obtain ⟨piece, inside, rfl⟩ := List.mem_map.1 (List.mem_filter.1 member).1
    rw [String.toList_ofList]
    exact Text.not_mem_of_mem_splitOn inside

theorem Normal.eq_of_key {p q : Path} (hp : p.Normal) (hq : q.Normal) (same : p.key = q.key) :
    p = q := by
  have apart {r s : Path} (hr : r.Normal) (hs : s.Normal) (rooted : r.root ≠ "") :
      r.root :: r.parts ≠ s.parts := by
    intro equal
    exact hs.parts r.root (equal ▸ List.mem_cons_self) (hr.root rooted)
  obtain ⟨root, parts⟩ := p
  obtain ⟨root', parts'⟩ := q
  -- Either both keys start with a root, or neither does.
  simp only [key, String.isEmpty_iff] at same
  split at same <;> split at same
  · rename_i none none'
    rw [same, none, none']
  · rename_i rooted
    exact absurd same.symm (apart hq hp rooted)
  · rename_i rooted _
    exact absurd same (apart hp hq rooted)
  · cases same
    rfl

end Path

theorem sortPaths_perm (paths : List Path) : (sortPaths paths).Perm paths :=
  List.mergeSort_perm paths _

theorem pairwise_sortPaths (paths : List Path) :
    (sortPaths paths).Pairwise fun p q => p.precedes q = true :=
  List.pairwise_mergeSort Path.precedes_trans Path.precedes_total paths

/-- Lists that hold the same normal paths, each as often, are sorted to the same list. -/
theorem sortPaths_eq_of_perm {paths paths' : List Path} (normal : ∀ p ∈ paths, p.Normal)
    (same : paths.Perm paths') : sortPaths paths = sortPaths paths' := by
  have arranged : (sortPaths paths).Perm (sortPaths paths') :=
    (sortPaths_perm paths).trans (same.trans (sortPaths_perm paths').symm)
  refine arranged.eq_of_pairwise (fun p q first second before after => ?_)
    (pairwise_sortPaths paths) (pairwise_sortPaths paths')
  have inside := (sortPaths_perm paths).mem_iff.1 first
  have inside' := same.mem_iff.2 ((sortPaths_perm paths').mem_iff.1 second)
  exact (normal p inside).eq_of_key (normal q inside') (Path.key_eq_of_precedes before after)

namespace Batch

def listed (asked : List String) : List Path := asked.map Path.ofString

theorem normal_of_mem_listed {asked : List String} {p : Path} (member : p ∈ listed asked) :
    p.Normal := by
  obtain ⟨s, -, rfl⟩ := List.mem_map.1 member
  exact Path.normal_ofString s

/-- The list has several sources for the routine of a path: another path that implies its name, or
the path once more. -/
def Contested (extension : String) (only : List Path) (p : Path) : Prop :=
  (∃ q ∈ only, q ≠ p ∧ routineName q extension = routineName p extension) ∨ 2 ≤ only.count p

theorem Contested.of_perm {extension : String} {only only' : List Path} {p : Path}
    (h : Contested extension only p) (same : only.Perm only') : Contested extension only' p := by
  rcases h with ⟨q, member, other⟩ | several
  · exact .inl ⟨q, same.mem_iff.1 member, other⟩
  · exact .inr (same.count_eq p ▸ several)

theorem implying_eq_singleton_iff {extension : String} {only : List Path} {p : Path}
    (member : p ∈ only) :
    implying extension only (routineName p extension) = [p] ↔ ¬ Contested extension only p := by
  have counted : (implying extension only (routineName p extension)).count p = only.count p :=
    List.count_filter (by simp)
  constructor
  · rintro alone (⟨q, inside, other, same⟩ | several)
    · have among : q ∈ [p] := alone ▸ mem_implying.2 ⟨inside, same⟩
      exact other (List.mem_singleton.1 among)
    · rw [← counted, alone, List.count_singleton_self] at several
      omega
  · intro free
    have each : ∀ q ∈ implying extension only (routineName p extension), q = p := by
      intro q among
      obtain ⟨inside, same⟩ := mem_implying.1 among
      by_contra other
      exact free (.inl ⟨q, inside, other, same⟩)
    -- All that imply the name are copies of the path, and there is one copy.
    have copies := List.eq_replicate_of_mem each
    have once : (implying extension only (routineName p extension)).length = 1 := by
      have upper : ¬ 2 ≤ only.count p := fun several => free (.inr several)
      have lower : 0 < only.count p := List.count_pos_iff.2 member
      rw [← counted, copies, List.count_replicate_self] at upper lower
      omega
    rw [copies, once]
    rfl

theorem contested_of_mem_rejected {extension : String} {paths : List Path}
    {rejected : List RoutineResult}
    (rejecting : RejectedBy (duplicates (groups extension paths)) rejected) {r : RoutineResult}
    (member : r ∈ rejected) : Contested extension paths r.path ∧
      r.outcome = .failed none false
        (duplicateError r.name (implying extension paths r.name) r.path) := by
  obtain ⟨⟨name, group, p⟩, place, rfl⟩ := exists_of_forall₂ rejecting member
  obtain ⟨rfl, inside, several⟩ := mem_duplicates.1 place
  obtain ⟨listed, rfl⟩ := mem_implying.1 inside
  exact ⟨not_not.1 fun free => several ((implying_eq_singleton_iff listed).2 free), rfl⟩

theorem not_contested_of_mem_sources {extension : String} {paths : List Path} {name : String}
    {p : Path} (place : (name, p) ∈ sources (groups extension paths)) :
    ¬ Contested extension paths p := by
  have alone := mem_sources.1 place
  obtain ⟨member, rfl⟩ := mem_implying.1 (alone ▸ List.mem_singleton_self p)
  exact (implying_eq_singleton_iff member).1 alone

section

variable {settings : LoaderSettings} {db : Sql.Database} {only : Option (List Path)}
  {w u v : World} {settled : Settled} {paths : List Path} {rejected : List RoutineResult}
  {start : Start} {handled : List Account}

/-- A result that is no rejection is that of a source which no other contests. -/
theorem Course.handled_of_mem
    (h : Course settings db.layer only w settled paths rejected start u handled)
    {r : RoutineResult} (member : r ∈ handled.map (·.result)) :
    ¬ Contested settings.extension paths r.path ∧
      r.name = routineName r.path settings.extension ∧ ∃ t v, t.files = w.files ∧
        (routine settings db.layer start (r.name, r.path)).run t = (.ok r, v) := by
  obtain ⟨a, inside, rfl⟩ := List.mem_map.1 member
  obtain ⟨⟨name, p⟩, place, t, v, files, ran, -⟩ := exists_of_forall₂ h.forall₂ inside
  have isOf := isOf_of_routine ran
  obtain rfl := name_of_mem_sources place
  rw [isOf.path_eq, isOf.name_eq]
  exact ⟨not_contested_of_mem_sources place, rfl, t, v, files, ran⟩

theorem Course.covered
    (h : Course settings db.layer only w settled paths rejected start u handled)
    (rejecting : RejectedBy (duplicates (groups settings.extension paths)) rejected) :
    (settled.batch.results.map (·.path)).Perm paths := by
  rw [h.results]
  refine paths_of_results rejecting (List.forall₂_map_right_iff.2 (h.forall₂.imp ?_))
  rintro s a ⟨t, v, -, ran, -⟩
  exact isOf_of_routine ran

end

/-- What a batch does about the paths that are listed. -/
structure Treats (settings : LoaderSettings) (db : Sql.Database) (only : List Path) (w : World)
    (batch : BatchResult) : Prop where
  /-- Each listing has its one result. -/
  covered : (batch.results.map (·.path)).Perm only
  named : ∀ r ∈ batch.results, r.name = routineName r.path settings.extension
  /-- A contested path is rejected. -/
  rejected : ∀ r ∈ batch.results, Contested settings.extension only r.path →
    r.outcome = .failed none false
      (duplicateError r.name (implying settings.extension (sortPaths only) r.name) r.path)
  /-- Any other path is handled for what its file holds. -/
  handled : ∃ start, RecordStore.load w.files settings.store = .ok start.store ∧
    ∀ r ∈ batch.results, ¬ Contested settings.extension only r.path →
      ∃ u v, u.files = w.files ∧
        (routine settings db.layer start (r.name, r.path)).run u = (.ok r, v)

theorem treats_of_run {settings : LoaderSettings} {db : Sql.Database} {only : List Path}
    {w v : World} {batch : BatchResult}
    (run : (loadAll settings db.layer (some only)).run w = (.ok batch, v)) :
    Treats settings db only w batch := by
  obtain ⟨settled, t, settling, rfl⟩ := settle_of_run run
  obtain ⟨paths, rejected, start, u, handled, course⟩ := course_of_run settling
  obtain ⟨found, rejecting, -, -, store, -⟩ := run_opening_eq_ok course.opened
  cases found
  have arranged := sortPaths_perm only
  -- A result is that of a rejected path, which is contested, or of one that is not.
  have cases_of {r : RoutineResult} (member : r ∈ settled.batch.results) :
      r ∈ rejected ∨ r ∈ handled.map (·.result) := by
    rw [course.results] at member
    exact mem_results.1 member
  refine ⟨(course.covered rejecting).trans arranged, fun r member => ?_,
    fun r member contested => ?_, start, store, fun r member free => ?_⟩
  · rcases cases_of member with first | second
    · exact (fails_of_mem_rejected rejecting first).2
    · exact (course.handled_of_mem second).2.1
  · rcases cases_of member with first | second
    · exact (contested_of_mem_rejected rejecting first).2
    · exact absurd (contested.of_perm arranged.symm) (course.handled_of_mem second).1
  · rcases cases_of member with first | second
    · exact absurd ((contested_of_mem_rejected rejecting first).1.of_perm arranged) free
    · exact (course.handled_of_mem second).2.2

end Batch

/-- A batch over listed files is determined by how often each file is listed: neither the order of
the list nor the spelling of a path has a part in it. So lists without repetitions that name the
same files have the same effect over every world, and a batch that ends with results tells the
number of listings of each file. A file is rejected exactly if another path of the list implies its
routine name or if it is listed more than once; any other file is handled for what it holds. -/
theorem loadAll_counts_listings (settings : LoaderSettings) (asked asked' : List String) :
    ((Batch.listed asked).Perm (Batch.listed asked') → ∀ layer,
      loadAll settings layer (some (Batch.listed asked)) =
        loadAll settings layer (some (Batch.listed asked'))) ∧
    ((Batch.listed asked).Nodup → (Batch.listed asked').Nodup →
      (∀ p, p ∈ Batch.listed asked ↔ p ∈ Batch.listed asked') → ∀ layer,
      loadAll settings layer (some (Batch.listed asked)) =
        loadAll settings layer (some (Batch.listed asked'))) ∧
    ∀ (db : Sql.Database) (w v : World) (batch : BatchResult),
      (loadAll settings db.layer (some (Batch.listed asked))).run w = (.ok batch, v) →
        Batch.Treats settings db (Batch.listed asked) w batch ∧
        ∀ w' v' batch', (loadAll settings db.layer (some (Batch.listed asked'))).run w' =
          (.ok batch', v') → batch'.results = batch.results →
            (Batch.listed asked).Perm (Batch.listed asked') := by
  have alike : (Batch.listed asked).Perm (Batch.listed asked') → ∀ layer,
      loadAll settings layer (some (Batch.listed asked)) =
        loadAll settings layer (some (Batch.listed asked')) := by
    intro same layer
    have sorted := sortPaths_eq_of_perm (fun p => Batch.normal_of_mem_listed) same
    simp only [loadAll, Batch.settle, Batch.paths, sorted, Option.isNone_some]
  refine ⟨alike, fun distinct distinct' same => alike ?_, ?_⟩
  · exact (List.perm_ext_iff_of_nodup distinct distinct').2 same
  · intro db w v batch run
    have treats := Batch.treats_of_run run
    refine ⟨treats, fun w' v' batch' run' results => ?_⟩
    have covered := (Batch.treats_of_run run').covered
    rw [results] at covered
    exact treats.covered.symm.trans covered

namespace Sample

theorem listed_backwards : Batch.listed ["/b.psql", "/./a.psql"] = [otherPath, path] := by
  decide +kernel

theorem listed_in_order : Batch.listed ["/a.psql", "/b.psql"] = [path, otherPath] := by
  decide +kernel

theorem listed_twice : Batch.listed ["/a.psql", "/a.psql"] = [path, path] := by
  decide +kernel

end Sample

open Sample in
/-- Two sources are handled alike when they are listed the other way round and spelled otherwise. -/
theorem load_listed_backwards : ∃ e v,
    (loadAll settings (answering []).layer (some (Batch.listed ["/b.psql", "/./a.psql"]))).run
      (worldBeside "") = (.ok ⟨[loaded, refused e], [], false⟩, v) ∧
    Batch.Treats settings (answering []) (Batch.listed ["/b.psql", "/./a.psql"]) (worldBeside "")
      ⟨[loaded, refused e], [], false⟩ := by
  have load : RoutineSource.load (filesBeside "") otherPath ".psql" =
      .ok ⟨otherPath, ".psql", "", 0⟩ := by decide +kernel
  obtain ⟨v, run⟩ := run_loadAll_beside load (ofSource_empty otherPath)
  have swapped : (Batch.listed ["/b.psql", "/./a.psql"]).Perm
      (Batch.listed ["/a.psql", "/b.psql"]) := by
    rw [listed_backwards, listed_in_order]
    exact .swap ..
  have counts := loadAll_counts_listings settings ["/b.psql", "/./a.psql"] ["/a.psql", "/b.psql"]
  rw [← listed_in_order, ← counts.1 swapped] at run
  exact ⟨_, v, run, (counts.2.2 _ _ _ _ run).1⟩

open Sample in
/-- A file listed once more changes what a batch comes to, though the files listed are the same. -/
theorem listing_again_matters : ¬ ∀ (settings : LoaderSettings) (db : Sql.Database) (w : World)
    (asked asked' : List String), db.Stateless →
      (∀ p, p ∈ Batch.listed asked ↔ p ∈ Batch.listed asked') →
        ((loadAll settings db.layer (some (Batch.listed asked))).run w).1 =
          ((loadAll settings db.layer (some (Batch.listed asked'))).run w).1 := by
  intro alike
  obtain ⟨v, run, -⟩ := run_loadAll_answering
  have once : Batch.listed ["/a.psql"] = [path] := by decide +kernel
  have same := alike settings (answering []) (world text) ["/a.psql"] ["/a.psql", "/a.psql"]
    stateless_answering (by rw [once, listed_twice]; simp)
  rw [once, listed_twice, run] at same
  have covered := (Batch.treats_of_run (run_eq_of_fst same.symm)).covered
  exact absurd covered.length_eq (by decide)

end StoredRoutines
