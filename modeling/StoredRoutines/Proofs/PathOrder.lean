import StoredRoutines.Proofs.AskedSources

/-!
The order of results. Sources are found in the order of their paths, which goes component by
component, but results come in the order of the texts of these paths, where the slash between
components is a character as any other. The two orders differ just for a path that goes on where
another has a slash, with a character below the slash.
-/

namespace StoredRoutines

open Loader Outcomes

theorem split_of_lt {α : Type} [LT α] {s t : List α} (h : s < t) : (∃ b more, t = s ++ b :: more) ∨
    ∃ front a s' b t', s = front ++ a :: s' ∧ t = front ++ b :: t' ∧ a < b := by
  rw [← List.lex_lt] at h
  induction h with
  | @nil b more => exact .inl ⟨b, more, rfl⟩
  | @rel a s b t less => exact .inr ⟨[], a, s, b, t, rfl, rfl, less⟩
  | @cons c s t _ ih =>
    rcases ih with ⟨b, more, rfl⟩ | ⟨front, a, s', b, t', rfl, rfl, less⟩
    · exact .inl ⟨b, more, rfl⟩
    · exact .inr ⟨c :: front, a, s', b, t', rfl, rfl, less⟩

namespace Path

/-! Paths as texts. -/

/-- The first path is earlier than the second one as a text, though later by its components: where
the second one has a slash, it goes on with a character below the slash. So `a.psql` undercuts
`a/b.psql`. -/
def Undercuts (q p : Path) : Prop :=
  ∃ before dir next after c rest more, p.parts = before ++ dir :: next :: after ∧
    q.parts = before ++ (dir ++ String.ofList (c :: rest)) :: more ∧ c < '/'

/-- Everything up to and with the slash behind these components. -/
def lead (parts : List String) : List Char := parts.flatMap fun part => part.toList ++ ['/']

/-- A slash and a component, for each of these components. -/
def trail (parts : List String) : List Char := parts.flatMap fun part => '/' :: part.toList

theorem joinWith_eq (before after : List String) (part : String) :
    Text.joinWith '/' ((before ++ part :: after).map String.toList) =
      lead before ++ (part.toList ++ trail after) := by
  induction before with
  | nil =>
    induction after generalizing part with
    | nil => simp [Text.joinWith, lead, trail]
    | cons next after ih =>
      rw [List.nil_append, List.map_cons, List.map_cons, Text.joinWith_cons_cons]
      simpa [lead, trail] using ih next
  | cons first before ih =>
    obtain ⟨next, more, split⟩ := List.exists_cons_of_ne_nil
      (show (before ++ part :: after).map String.toList ≠ [] by simp)
    rw [List.cons_append, List.map_cons, split, Text.joinWith_cons_cons, ← split, ih]
    simp [lead]

theorem toList_toText {p : Path} {before after : List String} {part : String}
    (parts : p.parts = before ++ part :: after) :
    p.toText.toList = p.root.toList ++ lead before ++ (part.toList ++ trail after) := by
  have some' : p.parts.isEmpty = false := by simp [parts]
  have joined : ("/".intercalate p.parts).toList = lead before ++ (part.toList ++ trail after) := by
    rw [String.toList_intercalate, ← joinWith_eq, ← parts]
    rfl
  rw [toText, some', Bool.and_false, if_neg Bool.false_ne_true, String.toList_append, joined,
    List.append_assoc]

theorem toText_lt {p q : Path} {front s t : List String} {part part' : String}
    (root : p.root = q.root) (first : p.parts = front ++ part :: s)
    (second : q.parts = front ++ part' :: t)
    (less : part.toList ++ trail s < part'.toList ++ trail t) : p.toText < q.toText := by
  rw [String.lt_iff, toList_toText first, toList_toText second, root]
  exact List.append_left_lt less

/-- A path whose components come earlier is the earlier text, or the other path undercuts it. -/
theorem toText_lt_or_undercuts {p q : Path} (root : p.root = q.root) (some' : p.parts ≠ [])
    (slashless : ∀ part ∈ q.parts, '/' ∉ part.toList) (h : p.parts < q.parts) :
    p.toText < q.toText ∨ Undercuts q p := by
  rcases split_of_lt h with ⟨next, more, longer⟩ | ⟨front, dir, s, part, t, first, second, less⟩
  · -- The first path ends, and the second one has a slash there.
    obtain ⟨front, last, split⟩ := List.eq_nil_or_concat' p.parts |>.resolve_left some'
    rw [split, List.append_assoc, List.singleton_append] at longer
    exact .inl (toText_lt root split longer (List.append_left_lt (List.nil_lt_cons ..)))
  · rcases split_of_lt (String.lt_iff.1 less) with
      ⟨c, rest, longer⟩ | ⟨same, a, rest, b, rest', left, right, less'⟩
    · cases s with
      | nil =>
        refine .inl (toText_lt root first second ?_)
        rw [longer, List.append_assoc]
        exact List.append_left_lt (List.nil_lt_cons ..)
      | cons next after =>
        have named : part = dir ++ String.ofList (c :: rest) := by
          rw [← String.toList_inj, longer, String.toList_append, String.toList_ofList]
        have other : '/' ≠ c := by
          rintro rfl
          exact slashless part (by simp [second]) (by simp [longer])
        -- One component starts the other: its slash meets the next character of the longer one.
        by_cases below : c < '/'
        · exact .inr ⟨front, dir, next, after, c, rest, t, first, named ▸ second, below⟩
        · have above : '/' < c := Std.lt_of_le_of_ne (Char.not_lt.1 below) other
          refine .inl (toText_lt root first second ?_)
          rw [longer, List.append_assoc]
          exact List.append_left_lt (List.Lex.rel above)
    · refine .inl (toText_lt root first second ?_)
      rw [left, right, List.append_assoc, List.append_assoc]
      exact List.append_left_lt (List.Lex.rel less')

theorem lt_of_undercuts {p q : Path} (root : p.root = q.root) (h : Undercuts q p) :
    q.toText < p.toText ∧ p.parts < q.parts := by
  obtain ⟨before, dir, next, after, c, rest, more, first, second, below⟩ := h
  constructor
  · refine toText_lt root.symm second first ?_
    rw [String.toList_append, String.toList_ofList, List.append_assoc]
    exact List.append_left_lt (List.Lex.rel below)
  · rw [first, second]
    refine List.append_left_lt (List.Lex.rel ?_)
    have longer : dir.toList ++ [] < dir.toList ++ c :: rest :=
      List.append_left_lt (List.nil_lt_cons ..)
    rw [String.lt_iff, String.toList_append, String.toList_ofList]
    rwa [List.append_nil] at longer

theorem precedes_iff_of_root {p q : Path} (root : p.root = q.root) :
    p.precedes q = true ↔ ¬ q.parts < p.parts := by
  simp only [precedes, Bool.not_eq_true', List.lex_eq_false_iff_ge, key, root, ← List.not_lt]
  split
  · rfl
  · simp

theorem lt_of_precedes {p q : Path} (root : p.root = q.root) (other : p ≠ q)
    (before : p.precedes q = true) : p.parts < q.parts := by
  by_contra notBefore
  have key := key_eq_of_precedes before ((precedes_iff_of_root root.symm).2 notBefore)
  obtain ⟨r, ps⟩ := p
  obtain ⟨_, qs⟩ := q
  obtain rfl : r = _ := root
  simp only [Path.key] at key
  split at key
  · exact other (by rw [key])
  · exact other (by rw [(List.cons.inj key).2])

/-- Paths of one root, each with some components, which have no slash in them. -/
structure Alike (paths : List Path) : Prop where
  root : ∀ p ∈ paths, ∀ q ∈ paths, p.root = q.root
  some' : ∀ p ∈ paths, p.parts ≠ []
  slashless : ∀ p ∈ paths, ∀ part ∈ p.parts, '/' ∉ part.toList

section

variable {paths : List Path} {p q : Path}

theorem Alike.lt_or_lt (alike : Alike paths) (here : p ∈ paths) (there : q ∈ paths)
    (other : p ≠ q) : p.parts < q.parts ∨ q.parts < p.parts := by
  have root := alike.root p here q there
  by_contra neither
  obtain ⟨first, second⟩ := not_or.1 neither
  exact first (lt_of_precedes root other ((precedes_iff_of_root root).2 second))

theorem Alike.eq_of_toText (alike : Alike paths) (here : p ∈ paths) (there : q ∈ paths)
    (same : p.toText = q.toText) : p = q := by
  by_contra other
  have apart {p q : Path} (here : p ∈ paths) (there : q ∈ paths) (less : p.parts < q.parts) :
      p.toText ≠ q.toText := by
    have root := alike.root p here q there
    rcases toText_lt_or_undercuts root (alike.some' p here) (alike.slashless q there) less with
      less' | under
    · exact Std.ne_of_lt less'
    · exact (Std.ne_of_lt (lt_of_undercuts root under).1).symm
  rcases alike.lt_or_lt here there other with less | less
  · exact apart here there less same
  · exact apart there here less same.symm

/-- Paths in the order of their components are in the order of their texts just if none undercuts
another. -/
theorem Alike.sorted_iff (alike : Alike paths)
    (ordered : paths.Pairwise fun p q => p.precedes q = true) :
    (paths.Pairwise fun p q => p.toText ≤ q.toText) ↔
      ∀ p ∈ paths, ∀ q ∈ paths, ¬ Undercuts q p := by
  constructor
  · intro texts p here q there under
    obtain ⟨text, parts⟩ := lt_of_undercuts (alike.root p here q there) under
    obtain ⟨i, inside, rfl⟩ := List.getElem_of_mem here
    obtain ⟨j, inside', rfl⟩ := List.getElem_of_mem there
    rcases Nat.lt_trichotomy i j with before | rfl | after
    · exact String.not_lt.2 (List.pairwise_iff_getElem.1 texts i j inside inside' before) text
    · exact String.lt_irrefl _ text
    · have back := List.pairwise_iff_getElem.1 ordered j i inside' inside after
      exact (precedes_iff_of_root (alike.root _ there _ here)).1 back parts
  · intro free
    refine ordered.imp_of_mem fun {p q} here there before => ?_
    by_cases same : p = q
    · subst same
      exact String.le_refl _
    · have less := (alike.lt_or_lt here there same).resolve_right
        ((precedes_iff_of_root (alike.root p here q there)).1 before)
      rcases toText_lt_or_undercuts (alike.root p here q there) (alike.some' p here)
        (alike.slashless q there) less with text | under
      · exact Std.le_of_lt text
      · exact absurd under (free p here q there)

end

end Path

/-! Sources that are found. -/

/-- A file system as there are: one entry for each place, and no slash in a name. -/
structure FileSystem.Proper (fs : FileSystem) : Prop where
  distinct : (Assoc.keys fs.entries).Nodup
  slashless : ∀ l ∈ Assoc.keys fs.entries, ∀ part ∈ l, '/' ∉ part.toList

theorem FileSystem.mem_filesBelow_iff {fs : FileSystem} {l : Location} {below : List String} :
    below ∈ fs.filesBelow l ↔ ∃ f, (l ++ below, Node.file f) ∈ fs.entries := by
  constructor
  · intro member
    obtain ⟨⟨m, node⟩, inside, found⟩ := List.mem_filterMap.1 member
    cases node with
    | directory => cases found
    | file f =>
      obtain rfl : l ++ below = m := List.isPrefixOf?_eq_some_iff_append_eq.1 found
      exact ⟨f, inside⟩
  · rintro ⟨f, inside⟩
    exact List.mem_filterMap.2 ⟨_, inside, List.isPrefixOf?_eq_some_iff_append_eq.2 rfl⟩

namespace FileSystem.Proper

variable {fs : FileSystem} {l : Location} {below : List String}

theorem mem_filesBelow (member : below ∈ fs.filesBelow l) : l ++ below ∈ Assoc.keys fs.entries := by
  obtain ⟨f, inside⟩ := mem_filesBelow_iff.1 member
  exact List.mem_map_of_mem inside

theorem nodup_filesBelow (proper : fs.Proper) (l : Location) : (fs.filesBelow l).Nodup := by
  refine List.Pairwise.filterMap _ ?_ (List.pairwise_map.1 proper.distinct)
  rintro ⟨m, node⟩ ⟨m', node'⟩ apart below found below' found' rfl
  cases node with
  | directory => cases found
  | file f =>
    cases node' with
    | directory => cases found'
    | file f' =>
      have split : l ++ below = m := List.isPrefixOf?_eq_some_iff_append_eq.1 found
      have split' : l ++ below = m' := List.isPrefixOf?_eq_some_iff_append_eq.1 found'
      exact apart (split.symm.trans split')

end FileSystem.Proper

namespace SourceSearch

variable {directory : Path} {extension : String} {found : List Path} {w u : World}

theorem listed_of_run (run : (SourceSearch.run directory extension).run w = (.ok found, u)) :
    (∃ place p, w.files.locate directory = .ok place ∧ pattern extension = .ok p ∧
      found = sortPaths (((w.files.filesBelow place).filter (selects p extension)).map
        directory.append)) ∨ found = [] := by
  obtain ⟨fs, _, got, rest⟩ := run_bind_eq_ok.1 run
  cases got
  split at rest
  · cases rest
  · rename_i place _ located
    obtain ⟨p, _, accepted, last⟩ := run_bind_eq_ok.1 rest
    cases last
    rw [run_ofExcept, Prod.mk.injEq] at accepted
    exact .inl ⟨place, p, located, accepted.1, rfl⟩
  · obtain ⟨_, _, -, last⟩ := run_bind_eq_ok.1 rest
    cases last
    exact .inr rfl

theorem selects_eq_true_iff {patterns below : List String} :
    selects patterns extension below = true ↔
      ∃ p name, patterns = [p] ∧ below.getLast? = some name ∧ p ≠ "**" ∧
        Wildcard.matchesName p name = true ∧ extension.toList <:+ name.toList := by
  unfold selects
  split
  · rename_i p name last
    simp [last, and_assoc]
  · rename_i other
    refine iff_of_false Bool.false_ne_true ?_
    rintro ⟨p, name, rfl, last, -⟩
    exact other p name rfl last

/-- The sources that are found are files below one place, in the order of their paths. -/
theorem found_of_run (run : (SourceSearch.run directory extension).run w = (.ok found, u)) :
    ∃ (place : Location) (below : List (List String)),
      found = sortPaths (below.map directory.append) ∧
      below.Sublist (w.files.filesBelow place) ∧ [] ∉ below := by
  rcases listed_of_run run with ⟨place, p, -, -, rfl⟩ | rfl
  · refine ⟨place, _, rfl, List.filter_sublist, fun member => ?_⟩
    obtain ⟨_, _, -, last, -⟩ := selects_eq_true_iff.1 (List.mem_filter.1 member).2
    cases last
  · exact ⟨[], [], List.mergeSort_nil.symm, List.nil_sublist _, List.not_mem_nil⟩

theorem nodup_of_run (proper : w.files.Proper)
    (run : (SourceSearch.run directory extension).run w = (.ok found, u)) : found.Nodup := by
  obtain ⟨place, below, rfl, chosen, -⟩ := found_of_run run
  have distinct : below.Nodup := chosen.nodup (proper.nodup_filesBelow place)
  refine (sortPaths_perm _).nodup_iff.2 (distinct.map fun parts parts' same => ?_)
  exact List.append_cancel_left (congrArg Path.parts same)

theorem alike_of_run (proper : w.files.Proper) (normal : directory.Normal)
    (run : (SourceSearch.run directory extension).run w = (.ok found, u)) : Path.Alike found := by
  obtain ⟨place, below, rfl, chosen, some'⟩ := found_of_run run
  have each {p : Path} (member : p ∈ sortPaths (below.map directory.append)) :
      ∃ parts ∈ below, directory.append parts = p :=
    List.mem_map.1 ((sortPaths_perm _).mem_iff.1 member)
  refine ⟨fun p here q there => ?_, fun p here => ?_, fun p here part inside => ?_⟩
  · obtain ⟨_, -, rfl⟩ := each here
    obtain ⟨_, -, rfl⟩ := each there
    rfl
  · obtain ⟨parts, member, rfl⟩ := each here
    intro none
    rw [(List.append_eq_nil_iff.1 none).2] at member
    exact some' member
  · obtain ⟨parts, member, rfl⟩ := each here
    rcases List.mem_append.1 inside with above | inBelow
    · exact normal.parts part above
    · exact proper.slashless _ (FileSystem.Proper.mem_filesBelow (chosen.subset member)) part
        (List.mem_append_right _ inBelow)

theorem pairwise_of_run (run : (SourceSearch.run directory extension).run w = (.ok found, u)) :
    found.Pairwise fun p q => p.precedes q = true := by
  obtain ⟨place, below, rfl, -⟩ := found_of_run run
  exact pairwise_sortPaths _

end SourceSearch

/-! Results of a batch. -/

theorem Batch.pairwise_sortResults (results : List RoutineResult) :
    ((sortResults results).map (·.path)).Pairwise fun p q => p.toText ≤ q.toText := by
  rw [List.pairwise_map]
  refine (List.pairwise_mergeSort (fun a b c first second => ?_) (fun a b => ?_) results).imp
    of_decide_eq_true
  · exact decide_eq_true (String.le_trans (of_decide_eq_true first) (of_decide_eq_true second))
  · rw [Bool.or_eq_true, decide_eq_true_iff, decide_eq_true_iff]
    exact String.le_total _ _

/-- A batch over all sources has one result for each of them, but in the order of the texts of their
paths. This is the order in which they are found just if no source lies in a directory that another
path undercuts. -/
theorem results_in_text_order {settings : LoaderSettings} {db : Sql.Database} {w v : World}
    {batch : BatchResult} (normal : settings.sourceDirectory.Normal) (proper : w.files.Proper)
    (run : (loadAll settings db.layer none).run w = (.ok batch, v)) :
    ∃ found u, (SourceSearch.run settings.sourceDirectory settings.extension).run w =
        (.ok found, u) ∧
      found.Nodup ∧ (batch.results.map (·.path)).Perm found ∧
      (found.Pairwise fun p q => p.precedes q = true) ∧
      ((batch.results.map (·.path)).Pairwise fun p q => p.toText ≤ q.toText) ∧
      (batch.results.map (·.path) = found ↔ ∀ p ∈ found, ∀ q ∈ found, ¬ Path.Undercuts q p) := by
  obtain ⟨settled, t, settling, rfl⟩ := Batch.settle_of_run run
  obtain ⟨found, rejected, start, u, handled, course⟩ := Batch.course_of_run settling
  obtain ⟨finding, rejecting, -⟩ := Batch.run_opening_eq_ok course.opened
  have search : (SourceSearch.run settings.sourceDirectory settings.extension).run w =
      (.ok found, _) := run_eq_of_fst finding
  have alike := SourceSearch.alike_of_run proper normal search
  have ordered := SourceSearch.pairwise_of_run search
  have covered := course.covered rejecting
  have texts : (settled.batch.results.map (·.path)).Pairwise fun p q => p.toText ≤ q.toText := by
    rw [course.results]
    exact Batch.pairwise_sortResults _
  refine ⟨found, _, search, SourceSearch.nodup_of_run proper search, covered, ordered, texts, ?_⟩
  rw [← alike.sorted_iff ordered]
  constructor
  · intro same
    rwa [same] at texts
  · intro sorted
    refine covered.eq_of_pairwise (fun p q here there first second => ?_) texts sorted
    exact alike.eq_of_toText (covered.mem_iff.1 here) there (String.le_antisymm first second)

namespace Sample

def nestedPath : Path := ⟨"/", ["a", "b.psql"]⟩

def filesNested : FileSystem where
  entries := [(["a"], .directory), (["a", "b.psql"], .file ⟨"".toUTF8, 0⟩),
    (["a.psql"], .file ⟨"".toUTF8, 0⟩)]
  workingDirectory := []

def worldNested : World := ⟨filesNested, true, []⟩

theorem proper_filesNested : filesNested.Proper where
  distinct := by decide
  slashless := by decide

theorem paths_nested : (Batch.paths drySettings none).run worldNested =
    (.ok [nestedPath, path], worldNested) := by
  have chosen : (filesNested.filesBelow []).filter (SourceSearch.selects ["*.psql"] ".psql") =
      [["a", "b.psql"], ["a.psql"]] := by decide +kernel
  have pattern : SourceSearch.pattern ".psql" = .ok ["*.psql"] := by decide +kernel
  have sorted : sortPaths [nestedPath, path] = [nestedPath, path] :=
    List.mergeSort_of_pairwise (by decide)
  have found : (Loader.ofExcept (SourceSearch.pattern ".psql") >>= fun pattern =>
      pure (sortPaths (((filesNested.filesBelow []).filter
        (SourceSearch.selects pattern ".psql")).map drySettings.sourceDirectory.append))).run
          worldNested = (.ok [nestedPath, path], worldNested) := by
    rw [pattern, ofExcept_ok, pure_bind, chosen]
    exact congrArg (fun paths => (Except.ok paths, worldNested)) sorted
  exact found

def refusedAt (p : Path) (name : String) : RoutineResult :=
  ⟨p, name, .failed (some .noRecord) false
    (.ofSource .designation Designation.Fault.noBegin.wording p.toText)⟩

theorem run_assess_empty {p : Path} (empty : filesNested.read p = .ok ⟨"".toUTF8, 0⟩) {w : World}
    (files : w.files = filesNested) : ∃ es, (assess drySettings p none [] none).run w =
      (.ok (refusedAt p (routineName p ".psql")), w.after es) := by
  have load : RoutineSource.load w.files p drySettings.extension = .ok ⟨p, ".psql", "", 0⟩ := by
    have decoded : Text.decodeMarked "".toUTF8 = .ok "" := by decide +kernel
    rw [files, RoutineSource.load, empty]
    simp only [decoded]
    rfl
  have judged : Freshness.judge none (0 : Int) [] drySettings.session none =
      .ok (.stale .noRecord) := rfl
  obtain ⟨es, run⟩ := run_assess_of_stale load judged
  rw [ofSource_empty] at run
  exact ⟨es, run⟩

theorem run_loadAll_nested : ∃ batch v,
    (loadAll drySettings (answering []).layer none).run worldNested = (.ok batch, v) := by
  have rejected : (Batch.rejectDuplicates (Batch.groups drySettings.extension
      [nestedPath, path])).run worldNested = (.ok [], worldNested) := rfl
  obtain ⟨es, prepared, -⟩ : ∃ es, (Batch.prepare drySettings (answering []).layer).run
      worldNested = (.ok ⟨[], [], []⟩, worldNested.after es) ∧
        Event.statements es = [RoutineCatalog.query, ColumnTypes.query] :=
    Batch.run_prepare_of_ok drySettings rfl rfl rfl rfl rfl
  obtain ⟨fs, first⟩ := run_assess_empty (p := nestedPath) rfl (w := worldNested.after es) rfl
  obtain ⟨gs, second⟩ := run_assess_empty (p := path) rfl (w := (worldNested.after es).after fs) rfl
  have handling : ((Batch.sources (Batch.groups drySettings.extension [nestedPath, path])).mapM
      (Batch.routine drySettings (answering []).layer ⟨[], [], []⟩)).run (worldNested.after es) =
        (.ok [refusedAt nestedPath "b", refusedAt path "a"],
          ((worldNested.after es).after fs).after gs) :=
    run_mapM_eq_ok.2 (.cons first (.cons second (.nil _)))
  have opened : (Batch.opening drySettings (answering []).layer none).run worldNested =
      (.ok ([nestedPath, path], [], ⟨[], [], []⟩), worldNested.after es) :=
    (run_bind_of_ok paths_nested).trans ((run_bind_of_ok rejected).trans (run_bind_of_ok prepared))
  have cleaned (results : List RoutineResult) (u : World) :
      (Batch.cleanUp drySettings (answering []).layer [] results []).run u = (.ok ([], []), u) := by
    have nothing : (Loader.ofExcept (Atom.inOrder [])).run u = (.ok [], u) := by
      rw [run_ofExcept, Atom.inOrder_nil]
    have drops : (Batch.dropAllObsolete drySettings (answering []).layer []
        (results.map (·.name))).run u = (.ok [], u) := (run_bind_of_ok nothing).trans rfl
    exact (run_bind_of_ok drops).trans (run_bind_of_ok ((run_bind_of_ok nothing).trans rfl))
  have settled : ∃ settled v, (Batch.settle drySettings (answering []).layer none).run worldNested =
      (.ok settled, v) := by
    rw [Batch.settle_eq, run_bind_of_ok opened, Batch.proceeding, run_bind_of_ok handling]
    exact ⟨_, _, run_bind_of_ok (cleaned _ _)⟩
  obtain ⟨settled, v, settling⟩ := settled
  exact ⟨_, _, run_bind_of_ok settling⟩

end Sample

open Sample in
/-- The results come in the order of texts, which is not the one of the search. -/
theorem nested_results_in_text_order : drySettings.sourceDirectory.Normal ∧
    worldNested.files.Proper ∧
    ((SourceSearch.run drySettings.sourceDirectory drySettings.extension).run worldNested).1 =
      .ok [nestedPath, path] ∧
    ∃ batch v, (loadAll drySettings (answering []).layer none).run worldNested = (.ok batch, v) ∧
      batch.results.map (·.path) = [path, nestedPath] := by
  have normal : drySettings.sourceDirectory.Normal := Path.normal_ofString "/"
  have search : (SourceSearch.run drySettings.sourceDirectory drySettings.extension).run
      worldNested = (.ok [nestedPath, path], worldNested) := paths_nested
  obtain ⟨batch, v, run⟩ := run_loadAll_nested
  obtain ⟨found, u, search', -, covered, -, texts, -⟩ :=
    results_in_text_order normal proper_filesNested run
  obtain rfl := Except.ok.inj (congrArg Prod.fst (search.symm.trans search'))
  refine ⟨normal, proper_filesNested, congrArg Prod.fst search, batch, v, run, ?_⟩
  refine (covered.trans (.swap ..)).eq_of_pairwise (fun p q here there first second => ?_) texts
    (List.pairwise_pair.2 (by decide))
  have same : p.toText = q.toText := String.le_antisymm first second
  rcases List.mem_pair.1 (covered.mem_iff.1 here) with rfl | rfl <;>
    rcases List.mem_pair.1 there with rfl | rfl <;>
      first | rfl | exact absurd same (by decide)

open Sample in
/-- A file that undercuts a directory beside it comes first in the results, not in the search. -/
theorem results_out_of_path_order : ¬ ∀ (settings : LoaderSettings) (db : Sql.Database)
    (w v : World) (batch : BatchResult), settings.sourceDirectory.Normal → w.files.Proper →
      (loadAll settings db.layer none).run w = (.ok batch, v) →
        ((SourceSearch.run settings.sourceDirectory settings.extension).run w).1 =
          .ok (batch.results.map (·.path)) := by
  intro alike
  obtain ⟨batch, v, run⟩ := run_loadAll_nested
  have normal : drySettings.sourceDirectory.Normal := Path.normal_ofString "/"
  have same := alike drySettings (answering []) worldNested v batch normal proper_filesNested run
  have found : ((SourceSearch.run drySettings.sourceDirectory drySettings.extension).run
      worldNested).1 = .ok [nestedPath, path] := congrArg Prod.fst paths_nested
  rw [found] at same
  obtain ⟨settled, t, settling, rfl⟩ := Batch.settle_of_run run
  obtain ⟨found', rejected, start, u, handled, course⟩ := Batch.course_of_run settling
  have texts := Batch.pairwise_sortResults (rejected ++ handled.map (·.result))
  rw [← course.results, ← Except.ok.inj same] at texts
  exact absurd (List.pairwise_pair.1 texts) (by decide)

end StoredRoutines
