import StoredRoutines.Proofs.StoreFile

/-!
Where paths lead while the files change. Directories that are made on the way to a path change
nothing at the places that paths led to before, and a path that steps back by no double dots leads
to no file that it did not lead to before.
-/

namespace StoredRoutines.FileSystem

variable {fs gs hs : FileSystem} {p draft : Path} {l m : Location} {part : String}
  {parts more : List String}

def fileAt? (fs : FileSystem) (l : Location) : Option File :=
  match fs.node? l with
  | some (.file f) => some f
  | _ => none

theorem toOption_read (fs : FileSystem) (p : Path) :
    (fs.read p).toOption = (fs.locate p).toOption.bind fs.fileAt? := by
  unfold read find
  cases fs.locate p with
  | error e => rfl
  | ok l =>
    simp only [Except.toOption, Option.bind_some, fileAt?]
    cases fs.node? l with
    | none => rfl
    | some n => cases n <;> rfl

theorem fileAt?_congr (same : gs.node? l = fs.node? l) : gs.fileAt? l = fs.fileAt? l := by
  rw [fileAt?, fileAt?, same]

/-! ### Walks -/

/-- The place that a component leads to from a directory. -/
def stepTo (l : Location) (part : String) : Location :=
  if part = ".." then l.dropLast else l ++ [part]

theorem walk_cons_eq_ok : fs.walk l (part :: parts) = .ok m ↔
    fs.node? l = some .directory ∧ ¬ maxNameSize < part.utf8ByteSize ∧
      fs.walk (stepTo l part) parts = .ok m := by
  rw [walk, stepTo]
  cases fs.node? l with
  | none => simp
  | some n =>
    cases n with
    | file f => simp
    | directory => by_cases long : maxNameSize < part.utf8ByteSize <;> simp [long]

theorem walk_append_eq_ok : fs.walk l (parts ++ more) = .ok m ↔
    ∃ between, fs.walk l parts = .ok between ∧ fs.walk between more = .ok m := by
  induction parts generalizing l with
  | nil => simp [walk]
  | cons part parts ih =>
    simp only [List.cons_append, walk_cons_eq_ok, ih]
    constructor
    · rintro ⟨there, short, between, first, second⟩
      exact ⟨between, ⟨there, short, first⟩, second⟩
    · rintro ⟨between, ⟨there, short, first⟩, second⟩
      exact ⟨there, short, between, first, second⟩

theorem eq_append_of_walk (down : ".." ∉ parts) (walked : fs.walk l parts = .ok m) :
    m = l ++ parts := by
  induction parts generalizing l with
  | nil => simpa [walk] using walked.symm
  | cons part parts ih =>
    rw [List.mem_cons, not_or] at down
    have onwards := (walk_cons_eq_ok.1 walked).2.2
    rw [stepTo, if_neg (Ne.symm down.1)] at onwards
    rw [ih down.2 onwards, List.append_assoc, List.singleton_append]

/-- The place from which a path is walked. -/
def start (fs : FileSystem) (p : Path) : Location :=
  if p.root.isEmpty then fs.workingDirectory else []

theorem locate_eq_walk (p : Path) :
    (∀ fs : FileSystem, fs.locate p = fs.walk (fs.start p) p.parts) ∨
      ∃ e, e ≠ FileFault.missing ∧ ∀ fs : FileSystem, fs.locate p = .error e := by
  cases nameable : p.isNameable with
  | false => exact .inr ⟨.unnameable, nofun, fun _ => if_pos (by rw [nameable]; rfl)⟩
  | true =>
    have named : ¬ (!p.isNameable) = true := by simp [nameable]
    by_cases long : pathSizeLimit ≤ p.toText.utf8ByteSize
    · exact .inr ⟨.nameTooLong, nofun, fun _ => (if_neg named).trans (if_pos long)⟩
    · exact .inl fun _ => (if_neg named).trans (if_neg long)

theorem walk_of_locate (located : fs.locate p = .ok l) : fs.walk (fs.start p) p.parts = .ok l := by
  rcases locate_eq_walk p with walked | ⟨e, -, fault⟩
  · exact (walked fs).symm.trans located
  · cases (fault fs).symm.trans located

theorem draft_apart (beside : p.sibling? ".tmp" = some draft) (located : fs.locate p = .ok l)
    (drafted : fs.locate draft = .ok m) : l ≠ m := by
  have longer : (p.name ++ ".tmp").length = p.name.length + 4 := by rw [String.length_append]; rfl
  unfold Path.sibling? at beside
  split at beside
  · cases beside
  rename_i named
  obtain rfl := Option.some.inj beside
  have last : p.parts = p.parts.dropLast ++ [p.name] := by
    rw [Path.name, List.getLast?_eq_some_getLast (by simpa using named), Option.getD_some,
      List.dropLast_append_getLast]
  have walked := walk_of_locate located
  have walked' := walk_of_locate drafted
  change fs.walk (fs.start p) (p.parts.dropLast ++ [p.name ++ ".tmp"]) = _ at walked'
  rw [last] at walked
  obtain ⟨between, first, step⟩ := walk_append_eq_ok.1 walked
  obtain ⟨between', first', step'⟩ := walk_append_eq_ok.1 walked'
  -- Both paths lead to one directory and differ in the step from there.
  obtain rfl : between = between' := Except.ok.inj (first.symm.trans first')
  have dotless : p.name ++ ".tmp" ≠ ".." := fun same => by
    have counted : (p.name ++ ".tmp").length = 2 := congrArg String.length same
    omega
  obtain rfl : stepTo between p.name = l := by simpa [walk] using (walk_cons_eq_ok.1 step).2.2
  obtain rfl : stepTo between (p.name ++ ".tmp") = m := by
    simpa [walk] using (walk_cons_eq_ok.1 step').2.2
  intro same
  rw [stepTo, stepTo, if_neg dotless] at same
  split at same
  · have counted := congrArg List.length same
    simp at counted
  · have counted := congrArg String.length (List.singleton_inj.1 (List.append_cancel_left same))
    rw [longer] at counted
    omega

/-! ### Files and directories that stay -/

/-- Directories stay directories, and files stay files, perhaps with another content. -/
structure KeepsKinds (fs gs : FileSystem) : Prop extends KeepsDirectories fs gs where
  files : ∀ l f, fs.node? l = some (.file f) → ∃ g, gs.node? l = some (.file g)

theorem KeepsKinds.refl (fs : FileSystem) : KeepsKinds fs fs :=
  ⟨⟨rfl, fun _ there => there⟩, fun _ f there => ⟨f, there⟩⟩

theorem KeepsKinds.trans (first : KeepsKinds fs gs) (second : KeepsKinds gs hs) :
    KeepsKinds fs hs where
  toKeepsDirectories := first.toKeepsDirectories.trans second.toKeepsDirectories
  files := fun l f there => by
    obtain ⟨g, there'⟩ := first.files l f there
    exact second.files l g there'

theorem keepsKinds_put_file (free : fs.node? l ≠ some .directory) (f : File) :
    KeepsKinds fs (fs.put l (.file f)) where
  toKeepsDirectories := keepsDirectories_put free _
  files := fun m g there => by
    by_cases same : m = l
    · subst same
      exact ⟨f, node?_put_self (ne_nil_of_node? free) _⟩
    · exact ⟨g, (node?_put_of_ne same _).trans there⟩

theorem keepsDirectories_moved {f : File} (file : fs.node? l = some (.file f))
    (free : fs.node? m ≠ some .directory) : KeepsDirectories fs (fs.moved l m f) := by
  unfold moved
  split
  · exact ⟨rfl, fun _ there => there⟩
  · rename_i other
    refine (keepsDirectories_put free _).trans (keepsDirectories_without ?_)
    rw [node?_put_of_ne other, file]
    exact nofun

theorem node?_moved_of_ne {k : Location} (other : k ≠ l) (other' : k ≠ m) (f : File) :
    (fs.moved l m f).node? k = fs.node? k := by
  unfold moved
  split
  · rfl
  · rw [node?_without_of_ne other, node?_put_of_ne other']

theorem KeepsKinds.walk_fault (h : KeepsKinds fs gs) {e : FileFault}
    (fault : fs.walk l parts = .error e) (stuck : e ≠ .missing) : gs.walk l parts = .error e := by
  induction parts generalizing l with
  | nil => cases fault
  | cons part rest ih =>
    unfold FileSystem.walk at fault ⊢
    cases there : fs.node? l with
    | none =>
      rw [there] at fault
      cases fault
      exact absurd rfl stuck
    | some n =>
      rw [there] at fault
      cases n with
      | file f =>
        obtain ⟨g, there'⟩ := h.files l f there
        rw [there']
        exact fault
      | directory =>
        rw [h.directories l there]
        simp only at fault ⊢
        split at fault
        · rename_i long
          rwa [if_pos long]
        · rename_i short
          rw [if_neg short]
          exact ih fault

theorem KeepsKinds.start (h : KeepsKinds fs gs) (p : Path) : gs.start p = fs.start p := by
  rw [FileSystem.start, FileSystem.start, h.workingDirectory]

theorem KeepsKinds.locate_fault (h : KeepsKinds fs gs) {e : FileFault}
    (fault : fs.locate p = .error e) (stuck : e ≠ .missing) : gs.locate p = .error e := by
  rcases locate_eq_walk p with walked | ⟨e', -, all⟩
  · rw [walked] at fault ⊢
    rw [h.start]
    exact h.walk_fault fault stuck
  · exact (all gs).trans ((all fs).symm.trans fault)

/-! ### Nothing below what is missing -/

/-- Whatever there is lies in a directory, and so does whoever works there. -/
structure Rooted (fs : FileSystem) : Prop where
  working : fs.node? fs.workingDirectory = some .directory
  above : ∀ l part, fs.node? (l ++ [part]) ≠ none → fs.node? l = some .directory

theorem Rooted.below_missing (rooted : fs.Rooted) (absent : fs.node? l = none)
    (more : List String) : fs.node? (l ++ more) = none := by
  induction more generalizing l with
  | nil => rwa [List.append_nil]
  | cons part more ih =>
    have next : fs.node? (l ++ [part]) = none := by
      by_contra there
      rw [rooted.above l part there] at absent
      cases absent
    rw [← List.singleton_append, ← List.append_assoc]
    exact ih next

/-- Where a walk without double dots found something missing, there is nothing at its end. -/
theorem Rooted.nothing_at_end (rooted : fs.Rooted) (down : ".." ∉ parts)
    (walked : fs.walk l parts = .error .missing) : fs.node? (l ++ parts) = none := by
  induction parts generalizing l with
  | nil => cases walked
  | cons part rest ih =>
    rw [List.mem_cons, not_or] at down
    unfold FileSystem.walk at walked
    cases there : fs.node? l with
    | none => exact rooted.below_missing there _
    | some n =>
      rw [there] at walked
      cases n with
      | file f => cases walked
      | directory =>
        simp only at walked
        split at walked
        · cases walked
        · rw [if_neg (Ne.symm down.1)] at walked
          rw [← List.singleton_append, ← List.append_assoc]
          exact ih down.2 walked

/-- Where the files of a path stay what they are, the path leads to the same file, unless it steps
back and could not be followed before. -/
theorem KeepsKinds.read_eq (h : KeepsKinds fs gs)
    (same : ∀ l, gs.locate p = .ok l → gs.fileAt? l = fs.fileAt? l) (rooted : fs.Rooted)
    (followed : ".." ∈ p.parts → fs.locate p ≠ .error .missing) :
    (gs.read p).toOption = (fs.read p).toOption := by
  rw [toOption_read, toOption_read]
  cases before : fs.locate p with
  | ok l =>
    have after := h.locate before
    rw [after]
    exact same l after
  | error e =>
    by_cases stuck : e ≠ .missing
    · rw [h.locate_fault before stuck]
      rfl
    · obtain rfl := not_not.1 stuck
      have down : ".." ∉ p.parts := fun back => followed back before
      cases after : gs.locate p with
      | error e => rfl
      | ok l =>
        rcases locate_eq_walk p with walked | ⟨e, other, all⟩
        · have absent := rooted.nothing_at_end down ((walked fs).symm.trans before)
          rw [← h.start, ← eq_append_of_walk down ((walked gs).symm.trans after)] at absent
          have nothing := same l after
          rw [fileAt?, fileAt?, absent] at nothing
          exact nothing
        · exact absurd (Except.error.inj ((all fs).symm.trans before)) other

theorem Rooted.around (rooted : fs.Rooted) (located : fs.locate p = .ok l)
    (free : fs.node? l ≠ some .directory) : fs.node? l.dropLast = some .directory := by
  have walked := walk_of_locate located
  rcases List.eq_nil_or_concat p.parts with none | ⟨front, last, split⟩
  · -- The path leads to where it starts.
    rw [none] at walked
    obtain rfl : fs.start p = l := by simpa [walk] using walked
    unfold start at free
    split at free
    · exact absurd rooted.working free
    · exact absurd rfl free
  · rw [split, List.concat_eq_append] at walked
    obtain ⟨between, -, step⟩ := walk_append_eq_ok.1 walked
    obtain ⟨there, -, ended⟩ := walk_cons_eq_ok.1 step
    obtain rfl : stepTo between last = l := by simpa [walk] using ended
    unfold stepTo at free ⊢
    split
    · -- A step back leads to a directory, since the place that it leaves lies in one.
      rename_i back
      rw [if_pos back] at free
      rcases List.eq_nil_or_concat between with rfl | ⟨above, part, rfl⟩
      · exact absurd rfl free
      · rw [List.concat_eq_append] at there free
        rw [List.dropLast_concat] at free
        exact absurd (rooted.above above part (by simp [there])) free
    · rwa [List.dropLast_concat]

theorem Rooted.put (rooted : fs.Rooted) (free : fs.node? l ≠ some .directory)
    (around : fs.node? l.dropLast = some .directory) (n : Node) : (fs.put l n).Rooted where
  working := (keepsDirectories_put free n).directories _ rooted.working
  above := fun k part there => by
    refine (keepsDirectories_put free n).directories k ?_
    by_cases same : k ++ [part] = l
    · rwa [← same, List.dropLast_concat] at around
    · rw [node?_put_of_ne same] at there
      exact rooted.above k part there

theorem Rooted.without (rooted : fs.Rooted) (free : fs.node? l ≠ some .directory) :
    (fs.without l).Rooted where
  working := (keepsDirectories_without free).directories _ rooted.working
  above := fun k part there => by
    refine (keepsDirectories_without free).directories k (rooted.above k part ?_)
    by_cases same : k ++ [part] = l
    · rw [same, node?_without_self (ne_nil_of_node? free)] at there
      exact absurd rfl there
    · rwa [node?_without_of_ne same] at there

theorem Rooted.write (rooted : fs.Rooted) {f : File} (written : fs.write p f = .ok gs) :
    gs.Rooted := by
  obtain ⟨l, -, free, around, rfl⟩ := write_eq_ok.1 written
  exact rooted.put free around _

theorem Rooted.move (rooted : fs.Rooted) {q : Path} (move : fs.move p q = .ok gs) : gs.Rooted := by
  obtain ⟨source, target, f, -, to', -, holds, free, rfl⟩ := move_eq_ok.1 move
  unfold moved
  split
  · exact rooted
  · rename_i other
    refine (rooted.put free (rooted.around to' free) _).without ?_
    rw [node?_put_of_ne other, holds]
    exact nofun

/-! ### Directories made on the way to a path -/

/-- Some directories were made on the way to a path, and nothing else changed except perhaps what
stands at the given paths. -/
structure ChangesOnly (fs gs : FileSystem) (p : Path) (touched : List Path) : Prop where
  workingDirectory : gs.workingDirectory = fs.workingDirectory
  places : ∀ l, (∀ q ∈ touched, gs.locate q ≠ .ok l) → gs.node? l = fs.node? l ∨
    fs.node? l = none ∧ gs.node? l = some .directory ∧
      ∃ above, above <+: p.parts ∧ gs.locate ⟨p.root, above⟩ = .ok l

namespace ChangesOnly

variable {touched : List Path}

theorem refl (fs : FileSystem) (p : Path) (touched : List Path) : ChangesOnly fs fs p touched :=
  ⟨rfl, fun _ _ => .inl rfl⟩

theorem keeps (h : ChangesOnly fs gs p []) : KeepsKinds fs gs where
  workingDirectory := h.workingDirectory
  directories := fun l there => by
    rcases h.places l nofun with same | ⟨-, made, -⟩
    · exact same.trans there
    · exact made
  files := fun l f there => by
    rcases h.places l nofun with same | ⟨absent, -⟩
    · exact ⟨f, same.trans there⟩
    · cases absent.symm.trans there

theorem trans_touched (first : ChangesOnly fs gs p []) (kept : KeepsDirectories gs hs)
    (others : ∀ l, (∀ q ∈ touched, hs.locate q ≠ .ok l) → hs.node? l = gs.node? l) :
    ChangesOnly fs hs p touched where
  workingDirectory := kept.workingDirectory.trans first.workingDirectory
  places := fun l untouched => by
    rw [others l untouched]
    rcases first.places l nofun with same | ⟨absent, made, above, front, located⟩
    · exact .inl same
    · exact .inr ⟨absent, made, above, front, kept.locate located⟩

theorem trans (first : ChangesOnly fs gs p []) (second : ChangesOnly gs hs p []) :
    ChangesOnly fs hs p [] where
  workingDirectory := second.workingDirectory.trans first.workingDirectory
  places := fun l untouched => by
    rcases second.places l untouched with same | ⟨absent, made, way⟩
    · rw [same]
      rcases first.places l nofun with same | ⟨absent, made, above, front, located⟩
      · exact .inl same
      · exact .inr ⟨absent, made, above, front, second.keeps.locate located⟩
    · rcases first.places l nofun with same | ⟨-, there, -⟩
      · exact .inr ⟨same.symm.trans absent, made, way⟩
      · cases absent.symm.trans there

theorem longer {root : String} (h : ChangesOnly fs gs ⟨root, more⟩ []) (front : more <+: parts) :
    ChangesOnly fs gs ⟨root, parts⟩ [] where
  workingDirectory := h.workingDirectory
  places := fun l untouched => by
    rcases h.places l untouched with same | ⟨absent, made, above, front', located⟩
    · exact .inl same
    · exact .inr ⟨absent, made, above, front'.trans front, located⟩

end ChangesOnly

theorem makeDirectory_eq_ok : fs.makeDirectory p = .ok gs ↔
    ∃ l, fs.locate p = .ok l ∧ fs.node? l = none ∧ fs.put l .directory = gs := by
  unfold makeDirectory
  cases fs.locate p with
  | error e => simp
  | ok l => cases there : fs.node? l <;> simp [there]

theorem Rooted.makeOrKeep (rooted : fs.Rooted) (p : Path) : (fs.makeOrKeep p).files.Rooted := by
  unfold FileSystem.makeOrKeep
  split
  · rename_i gs making
    obtain ⟨l, located, absent, rfl⟩ := makeDirectory_eq_ok.1 making
    have free : fs.node? l ≠ some .directory := by simp [absent]
    exact rooted.put free (rooted.around located free) _
  · split <;> exact rooted

theorem Rooted.makeDirectoriesRev (rooted : fs.Rooted) (root : String) (reversed : List String) :
    (fs.makeDirectoriesRev root reversed).files.Rooted := by
  induction reversed with
  | nil => exact rooted.makeOrKeep _
  | cons part above ih =>
    unfold FileSystem.makeDirectoriesRev
    simp only
    split
    · split
      · exact ih.makeOrKeep _
      · exact ih
    · exact rooted.makeOrKeep _

theorem Rooted.makeDirectories (rooted : fs.Rooted) (p : Path) :
    (fs.makeDirectories p).files.Rooted :=
  rooted.makeDirectoriesRev _ _

theorem changesOnly_makeOrKeep (fs : FileSystem) (p : Path) :
    ChangesOnly fs (fs.makeOrKeep p).files p [] := by
  unfold makeOrKeep
  split
  · rename_i gs making
    obtain ⟨l, located, absent, rfl⟩ := makeDirectory_eq_ok.1 making
    have free : fs.node? l ≠ some .directory := by simp [absent]
    refine ⟨rfl, fun m _ => ?_⟩
    by_cases same : m = l
    · subst same
      exact .inr ⟨absent, node?_put_self (ne_nil_of_node? free) _, p.parts, List.prefix_refl _,
        (keepsDirectories_put free _).locate located⟩
    · exact .inl (node?_put_of_ne same _)
  · split <;> exact .refl _ _ _

theorem changesOnly_makeDirectoriesRev (fs : FileSystem) (root : String) (reversed : List String) :
    ChangesOnly fs (fs.makeDirectoriesRev root reversed).files ⟨root, reversed.reverse⟩ [] := by
  induction reversed with
  | nil => exact changesOnly_makeOrKeep fs ⟨root, []⟩
  | cons part above ih =>
    have front : above.reverse <+: (part :: above).reverse := by simp
    unfold makeDirectoriesRev
    simp only
    -- Only where something is missing are the directories above made first.
    split
    · have way := ih.longer front
      split
      · exact way.trans (changesOnly_makeOrKeep _ _)
      · exact way
    · exact changesOnly_makeOrKeep fs _

/-- Making directories changes nothing but that they are there, also if it fails on the way. -/
theorem changesOnly_makeDirectories (fs : FileSystem) (p : Path) :
    ChangesOnly fs (fs.makeDirectories p).files p [] := by
  have whole := changesOnly_makeDirectoriesRev fs p.root p.parts.reverse
  rwa [List.reverse_reverse] at whole

end StoredRoutines.FileSystem
