import StoredRoutines.Proofs.PathOrder
import StoredRoutines.Proofs.StoreFile

/-!
Which files a search finds. A source is a file below the directory whose name ends in the
extension. The file system is asked for a pattern, though, which is a star and the extension, so an
extension with a star, a question mark or an opening bracket in it may stand for other names than
those that end in it.
-/

namespace StoredRoutines

open Loader

namespace Wildcard

/-! What a pattern stands for. -/

/-- A star and what follows it stand for a text if what follows stands for an end of the text. -/
theorem covers_star_iff {ws : List Wildcard} {s : List Char} :
    covers (star :: ws) s = true ↔ ∃ rest, rest <:+ s ∧ covers ws rest = true := by
  induction s with
  | nil => simp [covers]
  | cons c cs ih =>
    rw [covers_star_cons, Bool.or_eq_true, ih]
    simp only [List.suffix_cons_iff, or_and_right, exists_or, exists_eq_left]

theorem matchesName_star_iff {rest name : String} : matchesName ("*" ++ rest) name = true ↔
    ∃ s, s <:+ name.toList ∧ covers (ofPattern rest.toList) s = true := by
  have first : ofPattern ("*" ++ rest).toList = star :: ofPattern rest.toList := by
    rw [String.toList_append, show "*".toList = ['*'] from rfl, List.singleton_append, ofPattern,
      if_pos rfl]
  rw [matchesName_eq, first, covers_star_iff]

def IsPlain (c : Char) : Prop := c ≠ '*' ∧ c ≠ '?' ∧ c ≠ '['

theorem covers_of_plain {s : List Char} (plain : ∀ c ∈ s, IsPlain c) :
    covers (ofPattern s) s = true := by
  induction s with
  | nil => simp [ofPattern, covers]
  | cons c cs ih =>
    obtain ⟨star, one, set⟩ := plain c List.mem_cons_self
    rw [ofPattern, if_neg star, if_neg one, if_neg set, covers, if_neg (by simp),
      ih fun d inside => plain d (List.mem_cons_of_mem _ inside)]
    simp [accepts]

end Wildcard

theorem Text.occursIn_iff {needle s : List Char} :
    Text.occursIn needle s = true ↔ needle <:+: s := by
  induction s with
  | nil => rw [occursIn, List.isEmpty_iff, List.infix_nil]
  | cons c cs ih =>
    rw [occursIn, Bool.or_eq_true, List.isPrefixOf_iff_prefix, ih, List.infix_cons_iff]

theorem FileSystem.Proper.mem_filesBelow_iff {fs : FileSystem} (proper : fs.Proper) {l : Location}
    {below : List String} (some' : below ≠ []) :
    below ∈ fs.filesBelow l ↔ ∃ f, fs.node? (l ++ below) = some (.file f) := by
  have entry : fs.node? (l ++ below) = fs.entries.lookup (l ++ below) := if_neg (by simp [some'])
  rw [FileSystem.mem_filesBelow_iff, entry]
  exact exists_congr fun f => ⟨Assoc.lookup_of_mem proper.distinct, Assoc.mem_of_lookup⟩

theorem Path.getLast?_eq_name (p : Path) {below : List String} (some' : below ≠ []) :
    below.getLast? = some (p.append below).name := by
  obtain ⟨front, last, rfl⟩ := (List.eq_nil_or_concat' below).resolve_left some'
  simp [Path.append, Path.name]

theorem routineName_append {p : Path} {extension : String}
    (ends : extension.toList <:+ p.name.toList) :
    routineName p extension ++ extension = p.name := by
  obtain ⟨stem, split⟩ := ends
  have cut : Text.dropSuffix? extension.toList p.name.toList = some stem := by
    rw [Text.dropSuffix?, Option.map_eq_some_iff]
    refine ⟨stem.reverse, Text.dropPrefix?_eq_some_iff.2 ?_, List.reverse_reverse stem⟩
    rw [← split, List.reverse_append]
  rw [routineName]
  split
  · rename_i none
    rw [String.isEmpty_iff.1 none, String.append_empty]
  · rw [cut, ← String.toList_inj, String.toList_append, String.toList_ofList, split]

namespace SourceSearch

variable {fs : FileSystem} {directory q : Path} {place : Location} {extension : String}
  {patterns : List String}

/-- A file below the directory whose name ends in the extension. -/
def IsSource (fs : FileSystem) (directory : Path) (extension : String) (p : Path) : Prop :=
  ∃ place below f, fs.locate directory = .ok place ∧ below ≠ [] ∧
    fs.node? (place ++ below) = some (.file f) ∧ p = directory.append below ∧
    extension.toList <:+ p.name.toList

theorem IsSource.ends (h : IsSource fs directory extension q) :
    extension.toList <:+ q.name.toList := by
  obtain ⟨_, _, _, _, _, _, _, ends⟩ := h
  exact ends

/-- The name matches the pattern for sources. -/
def Matches (extension name : String) : Prop :=
  "*" ++ extension ≠ "**" ∧ Wildcard.matchesName ("*" ++ extension) name = true

/-- The extension is a pattern that is accepted, and it matches its own text. -/
def StandsForItself (extension : String) : Prop :=
  pattern extension = .ok ["*" ++ extension] ∧ Matches extension extension

/-! What a pattern selects. -/

theorem toList_star (extension : String) : ("*" ++ extension).toList = '*' :: extension.toList :=
  String.toList_append

theorem parts_ofString_star (slashless : '/' ∉ extension.toList) :
    (Path.ofString ("*" ++ extension)).parts = ["*" ++ extension] := by
  have single : Text.splitOn '/' ("*" ++ extension).toList = [("*" ++ extension).toList] :=
    Text.splitOn_of_not_mem (by simpa [toList_star] using slashless)
  have other {s : String} (first : s.toList.head? ≠ some '*') : "*" ++ extension ≠ s := by
    rintro rfl
    exact first (by rw [toList_star, List.head?_cons])
  have counts : ("*" ++ extension != "" && "*" ++ extension != ".") = true := by
    rw [Bool.and_eq_true, bne_iff_ne, bne_iff_ne]
    exact ⟨other (by decide), other (by decide)⟩
  simp only [Path.ofString, Text.pieces, single, List.map_cons, List.map_nil, String.ofList_toList]
  exact List.filter_cons_of_pos counts

theorem eq_of_pattern (slashless : '/' ∉ extension.toList)
    (accepted : pattern extension = .ok patterns) : patterns = ["*" ++ extension] := by
  simp only [pattern, parts_ofString_star slashless] at accepted
  split at accepted
  · cases accepted
  · cases accepted
    rfl

theorem matches_of_suffix {name : String} (itself : Matches extension extension)
    (ends : extension.toList <:+ name.toList) : Matches extension name := by
  obtain ⟨other, found⟩ := itself
  obtain ⟨s, inside, covered⟩ := Wildcard.matchesName_star_iff.1 found
  exact ⟨other, Wildcard.matchesName_star_iff.2 ⟨s, inside.trans ends, covered⟩⟩

theorem standsForItself_of_plain (slashless : '/' ∉ extension.toList)
    (plain : ∀ c ∈ extension.toList, Wildcard.IsPlain c) : StandsForItself extension := by
  have starless : '*' ∉ extension.toList := fun inside => (plain _ inside).1 rfl
  have refused : Text.occursIn "**".toList ("*" ++ extension).toList = false := by
    rw [← Bool.not_eq_true, Text.occursIn_iff, toList_star, List.infix_cons_iff]
    rintro (starts | later)
    · exact starless ((List.cons_prefix_cons.1 starts).2.subset List.mem_cons_self)
    · exact starless (later.subset List.mem_cons_self)
  refine ⟨?_, ?_, ?_⟩
  · simp only [pattern, parts_ofString_star slashless, List.any_cons, List.any_nil, refused,
      Bool.and_false, Bool.or_false, Bool.false_eq_true, if_false]
  · intro same
    have text := congrArg String.toList same
    rw [toList_star] at text
    exact starless ((List.cons.inj text).2 ▸ List.mem_cons_self)
  · exact Wildcard.matchesName_star_iff.2 ⟨_, List.suffix_rfl, Wildcard.covers_of_plain plain⟩

theorem mem_listed_iff (proper : fs.Proper) (located : fs.locate directory = .ok place) :
    q ∈ sortPaths (((fs.filesBelow place).filter (selects ["*" ++ extension] extension)).map
        directory.append) ↔
      IsSource fs directory extension q ∧ Matches extension q.name := by
  rw [(sortPaths_perm _).mem_iff, List.mem_map]
  constructor
  · rintro ⟨below, member, rfl⟩
    obtain ⟨inside, selected⟩ := List.mem_filter.1 member
    obtain ⟨p, name, same, last, other, found, ends⟩ := selects_eq_true_iff.1 selected
    cases same
    have some' : below ≠ [] := by
      rintro rfl
      cases last
    obtain rfl : name = _ := Option.some.inj (last.symm.trans (directory.getLast?_eq_name some'))
    obtain ⟨f, there⟩ := (proper.mem_filesBelow_iff some').1 inside
    exact ⟨⟨place, below, f, located, some', there, rfl, ends⟩, other, found⟩
  · rintro ⟨⟨place', below, f, located', some', there, rfl, ends⟩, other, found⟩
    cases located.symm.trans located'
    refine ⟨below, List.mem_filter.2 ⟨?_, ?_⟩, rfl⟩
    · exact (proper.mem_filesBelow_iff some').2 ⟨f, there⟩
    · exact selects_eq_true_iff.2
        ⟨_, _, rfl, directory.getLast?_eq_name some', other, found, ends⟩

/-- A search of a directory fails with its pattern, or lists what the pattern selects. -/
theorem run_of_directory {w : World} (isDirectory : w.files.find directory = .ok .directory)
    (located : w.files.locate directory = .ok place) :
    (SourceSearch.run directory extension).run w =
      ((pattern extension).map fun patterns => sortPaths
        (((w.files.filesBelow place).filter (selects patterns extension)).map directory.append),
        w) := by
  have there : w.files.find? directory = .ok (some .directory) := by
    rw [FileSystem.find?, isDirectory]
  rw [SourceSearch.run, run_bind_of_ok (run_getFiles w)]
  simp only [there, located]
  cases pattern extension <;> rfl

theorem mem_iff_of_run {w u : World} {found : List Path} (slashless : '/' ∉ extension.toList)
    (proper : w.files.Proper) (isDirectory : w.files.find directory = .ok .directory)
    (run : (SourceSearch.run directory extension).run w = (.ok found, u)) :
    pattern extension = .ok ["*" ++ extension] ∧ u = w ∧
      ∀ p, p ∈ found ↔ IsSource w.files directory extension p ∧ Matches extension p.name := by
  obtain ⟨place, located, -⟩ := FileSystem.find_eq_ok.1 isDirectory
  rw [run_of_directory isDirectory located, Prod.mk.injEq] at run
  obtain ⟨listed, rfl⟩ := run
  cases accepted : pattern extension with
  | error e =>
    rw [accepted] at listed
    cases listed
  | ok patterns =>
    obtain rfl := eq_of_pattern slashless accepted
    rw [accepted] at listed
    cases listed
    exact ⟨rfl, rfl, fun p => mem_listed_iff proper located⟩

theorem increasing_of_run {w u : World} {found : List Path} (proper : w.files.Proper)
    (run : (SourceSearch.run directory extension).run w = (.ok found, u)) :
    found.Pairwise fun p q => p.parts < q.parts := by
  have root {p : Path} (member : p ∈ found) : p.root = directory.root := by
    obtain ⟨place, below, rfl, -⟩ := found_of_run run
    obtain ⟨parts, -, rfl⟩ := List.mem_map.1 ((sortPaths_perm _).mem_iff.1 member)
    rfl
  refine ((pairwise_of_run run).and (nodup_of_run proper run)).imp_of_mem ?_
  rintro p q here there ⟨before, other⟩
  exact Path.lt_of_precedes ((root here).trans (root there).symm) other before

def filesNamed (name : String) : FileSystem where
  entries := [([name], .file ⟨"".toUTF8, 0⟩)]
  workingDirectory := []

def worldNamed (name : String) : World := ⟨filesNamed name, true, []⟩

def top : Path := ⟨"/", []⟩

theorem proper_filesNamed {name : String} (slashless : '/' ∉ name.toList) :
    (filesNamed name).Proper where
  distinct := List.nodup_singleton _
  slashless := by simpa [filesNamed, Assoc.keys] using slashless

theorem locate_top (fs : FileSystem) : fs.locate top = .ok [] := by
  have short : ¬ FileSystem.pathSizeLimit ≤ top.toText.utf8ByteSize := by decide
  rw [FileSystem.locate, if_neg (by decide), if_neg short]
  rfl

theorem find_top (fs : FileSystem) : fs.find top = .ok .directory := by
  rw [FileSystem.find, locate_top]
  rfl

theorem isSource_named {name extension : String} (ends : extension.toList <:+ name.toList) :
    IsSource (filesNamed name) top extension ⟨"/", [name]⟩ :=
  ⟨[], [name], ⟨"".toUTF8, 0⟩, locate_top _, List.cons_ne_nil _ _,
    by simp [FileSystem.node?, filesNamed], rfl, ends⟩

/-- A search finds files below the directory whose name ends in the extension, each of them once and
in the order of their components: those whose name matches the extension as a pattern too. These are
all of them, in whichever directory, just if the extension stands for itself, as one without
wildcards does. -/
theorem search_complete_iff {extension : String} (slashless : '/' ∉ extension.toList) :
    (∀ (w u : World) (directory : Path) (found : List Path), w.files.Proper →
      w.files.find directory = .ok .directory →
      (SourceSearch.run directory extension).run w = (.ok found, u) →
        u = w ∧ found.Nodup ∧ (found.Pairwise fun p q => p.parts < q.parts) ∧
        (∀ p, p ∈ found ↔ IsSource w.files directory extension p ∧ Matches extension p.name) ∧
        ∀ p ∈ found, routineName p extension ++ extension = p.name) ∧
    ((∀ (w : World) (directory : Path), w.files.Proper →
      w.files.find directory = .ok .directory →
        ∃ found, (SourceSearch.run directory extension).run w = (.ok found, w) ∧
          ∀ p, p ∈ found ↔ IsSource w.files directory extension p) ↔
      StandsForItself extension) ∧
    ((∀ c ∈ extension.toList, Wildcard.IsPlain c) → StandsForItself extension) := by
  refine ⟨?_, ⟨?_, ?_⟩, standsForItself_of_plain slashless⟩
  · intro w u directory found proper isDirectory run
    obtain ⟨-, same, mem⟩ := mem_iff_of_run slashless proper isDirectory run
    exact ⟨same, nodup_of_run proper run, increasing_of_run proper run, mem,
      fun p member => routineName_append ((mem p).1 member).1.ends⟩
  · -- A file that has the extension as its whole name has to be found too.
    intro complete
    have proper := proper_filesNamed slashless
    have isDirectory := find_top (filesNamed extension)
    obtain ⟨found, run, all⟩ := complete (worldNamed extension) top proper isDirectory
    obtain ⟨accepted, -, mem⟩ := mem_iff_of_run slashless proper isDirectory run
    have there := (all _).2 (isSource_named List.suffix_rfl)
    exact ⟨accepted, ((mem _).1 there).2⟩
  · rintro ⟨accepted, itself⟩ w directory proper isDirectory
    obtain ⟨place, located, -⟩ := FileSystem.find_eq_ok.1 isDirectory
    have run : (SourceSearch.run directory extension).run w = _ :=
      run_of_directory isDirectory located
    rw [accepted] at run
    refine ⟨_, run, fun p => (mem_listed_iff proper located).trans ?_⟩
    exact and_iff_left_of_imp fun source => matches_of_suffix itself source.ends

open Sample in
/-- The two sources of the sample are found, the one in the directory first. -/
theorem nested_sources_found : '/' ∉ ".psql".toList ∧ worldNested.files.Proper ∧
    worldNested.files.find top = .ok .directory ∧
    (∀ c ∈ ".psql".toList, Wildcard.IsPlain c) ∧
    (SourceSearch.run top ".psql").run worldNested =
      (.ok [nestedPath, path], worldNested) ∧
    nestedPath.parts < path.parts ∧
    (∀ p, p ∈ [nestedPath, path] ↔ IsSource worldNested.files top ".psql" p) ∧
    ∀ p ∈ [nestedPath, path], routineName p ".psql" ++ ".psql" = p.name := by
  have slashless : '/' ∉ ".psql".toList := by decide
  have plain : ∀ c ∈ ".psql".toList, Wildcard.IsPlain c := by simp [Wildcard.IsPlain]
  have isDirectory := find_top worldNested.files
  obtain ⟨sound, complete, itself⟩ := search_complete_iff slashless
  have search : (SourceSearch.run top ".psql").run worldNested =
      (.ok [nestedPath, path], worldNested) := paths_nested
  obtain ⟨-, -, ordered, -, named⟩ := sound _ _ _ _ proper_filesNested isDirectory search
  obtain ⟨found, search', all⟩ := complete.2 (itself plain) _ _ proper_filesNested isDirectory
  cases search.symm.trans search'
  exact ⟨slashless, proper_filesNested, isDirectory, plain, search,
    List.rel_of_pairwise_cons ordered List.mem_cons_self, all, named⟩

/-- With brackets in the extension a file whose name ends in it is not found. -/
theorem bracketed_source_missed : ¬ ∀ (extension : String) (w : World) (directory : Path),
    '/' ∉ extension.toList → w.files.Proper → w.files.find directory = .ok .directory →
      ∃ found u, (SourceSearch.run directory extension).run w = (.ok found, u) ∧
        ∀ p, p ∈ found ↔ IsSource w.files directory extension p := by
  intro complete
  have slashless : '/' ∉ "[x]".toList := by decide
  have proper : (filesNamed "a[x]").Proper := proper_filesNamed (by decide)
  have isDirectory := find_top (filesNamed "a[x]")
  obtain ⟨found, u, run, all⟩ :=
    complete "[x]" (worldNamed "a[x]") top slashless proper isDirectory
  obtain ⟨-, -, mem⟩ := mem_iff_of_run slashless proper isDirectory run
  have there := (all _).2 (isSource_named (by decide : "[x]".toList <:+ "a[x]".toList))
  have other : Wildcard.matchesName "*[x]" "a[x]" = false := by decide +kernel
  have same : Wildcard.matchesName "*[x]" "a[x]" = true := ((mem _).1 there).2.2
  rw [other] at same
  cases same

end SourceSearch

end StoredRoutines
