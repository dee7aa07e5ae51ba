import StoredRoutines.Proofs.StoredRecords
import StoredRoutines.Proofs.Runs
import StoredRoutines.Proofs.Tables

/-!
The file of a store. A store that was written stands in a file that can be replaced in the same way
again: the directories are there, and nothing stands in the place of the draft. Writing what the
file holds already changes nothing at all.
-/

namespace StoredRoutines

open Loader Outcomes

namespace FileSystem

variable {fs gs : FileSystem}

/-- The second file system has all directories of the first, so paths lead to the same places. -/
structure KeepsDirectories (fs gs : FileSystem) : Prop where
  workingDirectory : gs.workingDirectory = fs.workingDirectory
  directories : ∀ l, fs.node? l = some .directory → gs.node? l = some .directory

theorem KeepsDirectories.trans {hs : FileSystem} (first : KeepsDirectories fs gs)
    (second : KeepsDirectories gs hs) : KeepsDirectories fs hs where
  workingDirectory := second.workingDirectory.trans first.workingDirectory
  directories := fun l there => second.directories l (first.directories l there)

theorem KeepsDirectories.walk (h : KeepsDirectories fs gs) {l m : Location} {parts : List String}
    (walked : fs.walk l parts = .ok m) : gs.walk l parts = .ok m := by
  induction parts generalizing l with
  | nil => exact walked
  | cons part rest ih =>
    unfold FileSystem.walk at walked ⊢
    cases there : fs.node? l with
    | none => simp [there] at walked
    | some n =>
      cases n with
      | file f => simp [there] at walked
      | directory =>
        rw [h.directories l there]
        simp only [there] at walked ⊢
        split at walked
        · simp at walked
        · rename_i short
          rw [if_neg short]
          exact ih walked

theorem KeepsDirectories.locate (h : KeepsDirectories fs gs) {p : Path} {l : Location}
    (located : fs.locate p = .ok l) : gs.locate p = .ok l := by
  unfold FileSystem.locate at located ⊢
  split at located
  · simp at located
  · split at located
    · simp at located
    · rename_i nameable short
      rw [if_neg nameable, if_neg short, h.workingDirectory]
      exact h.walk located

theorem find_eq_ok {p : Path} {n : Node} :
    fs.find p = .ok n ↔ ∃ l, fs.locate p = .ok l ∧ fs.node? l = some n := by
  unfold find
  cases fs.locate p with
  | error e => simp
  | ok l => cases there : fs.node? l <;> simp [there]

theorem KeepsDirectories.find (h : KeepsDirectories fs gs) {p : Path}
    (found : fs.find p = .ok .directory) : gs.find p = .ok .directory := by
  obtain ⟨l, located, there⟩ := find_eq_ok.1 found
  exact find_eq_ok.2 ⟨l, h.locate located, h.directories l there⟩

theorem node?_put_of_ne {l m : Location} (other : m ≠ l) (n : Node) :
    (fs.put l n).node? m = fs.node? m := by
  unfold node? put
  rw [Assoc.lookup_put_of_ne other]

theorem node?_put_self {l : Location} (below : l ≠ []) (n : Node) :
    (fs.put l n).node? l = some n := by
  unfold node? put
  rw [if_neg (by simpa using below), Assoc.lookup_put_self]

theorem ne_nil_of_node? {l : Location} (h : fs.node? l ≠ some .directory) : l ≠ [] := by
  rintro rfl
  exact h rfl

theorem keepsDirectories_put {l : Location} (free : fs.node? l ≠ some .directory) (n : Node) :
    KeepsDirectories fs (fs.put l n) where
  workingDirectory := rfl
  directories := by
    intro m there
    have other : m ≠ l := by
      rintro rfl
      exact free there
    rw [node?_put_of_ne other, there]

def without (fs : FileSystem) (l : Location) : FileSystem :=
  { fs with entries := Assoc.remove l fs.entries }

theorem node?_without_of_ne {l m : Location} (other : m ≠ l) :
    (fs.without l).node? m = fs.node? m := by
  have kept : (!m == l) = true := by simpa using other
  unfold node? without Assoc.remove
  rw [Assoc.lookup_filter (fun k => !k == l), if_pos kept]

theorem node?_without_self {l : Location} (below : l ≠ []) : (fs.without l).node? l = none := by
  have gone : ¬ (!l == l) = true := by simp
  unfold node? without Assoc.remove
  rw [if_neg (by simpa using below), Assoc.lookup_filter (fun k => !k == l), if_neg gone]

theorem keepsDirectories_without {l : Location} (free : fs.node? l ≠ some .directory) :
    KeepsDirectories fs (fs.without l) where
  workingDirectory := rfl
  directories := by
    intro m there
    have other : m ≠ l := by
      rintro rfl
      exact free there
    rw [node?_without_of_ne other, there]

theorem without_put {l : Location} (absent : fs.node? l = none) (n : Node) :
    (fs.put l n).without l = fs := by
  have below : ¬ l.isEmpty = true := by
    intro empty
    simp [node?, empty] at absent
  have free : l ∉ Assoc.keys fs.entries := by
    rw [node?, if_neg below] at absent
    exact Assoc.lookup_eq_none_iff.1 absent
  have others : Assoc.remove l fs.entries = fs.entries := by
    refine List.filter_eq_self.2 (fun e member => ?_)
    have other : e.1 ≠ l := by
      rintro rfl
      exact free (List.mem_map_of_mem member)
    simpa using other
  have back : Assoc.remove l (Assoc.put l n fs.entries) = fs.entries := by
    rw [Assoc.put_of_not_mem free, Assoc.remove, List.filter_append]
    simpa [Assoc.remove] using others
  rw [put, without, back]

theorem find_of_makeOrKeep {p : Path} {made : FileSystem}
    (h : fs.makeOrKeep p = ⟨made, none⟩) : made.find p = .ok .directory := by
  unfold makeOrKeep at h
  split at h
  · rename_i gs making
    obtain rfl : gs = made := by simpa using h
    unfold makeDirectory at making
    split at making
    · simp at making
    · rename_i l located
      cases there : fs.node? l with
      | some n => simp [there] at making
      | none =>
        have free : fs.node? l ≠ some .directory := by simp [there]
        obtain rfl : fs.put l .directory = gs := by simpa [there] using making
        exact find_eq_ok.2 ⟨l, (keepsDirectories_put free _).locate located,
          node?_put_self (ne_nil_of_node? free) _⟩
  · split at h
    · rename_i found
      obtain rfl : fs = made := by simpa using h
      unfold find? at found
      split at found <;> simp_all
    · simp at h
    · simp at h

theorem find_of_makeDirectories {p : Path} {made : FileSystem}
    (h : fs.makeDirectories p = ⟨made, none⟩) : made.find p = .ok .directory := by
  have reversed : p = ⟨p.root, p.parts.reverse.reverse⟩ := by rw [List.reverse_reverse]
  rw [reversed]
  unfold makeDirectories at h
  generalize p.parts.reverse = parts at h ⊢
  cases parts with
  | nil => exact find_of_makeOrKeep h
  | cons part above =>
    unfold makeDirectoriesRev at h
    simp only at h
    split at h
    · split at h
      · exact find_of_makeOrKeep h
      · rename_i faulty
        simp [h] at faulty
    · exact find_of_makeOrKeep h

theorem makeOrKeep_of_directory {p : Path} (h : fs.find p = .ok .directory) :
    fs.makeOrKeep p = ⟨fs, none⟩ := by
  obtain ⟨l, located, there⟩ := find_eq_ok.1 h
  simp [makeOrKeep, makeDirectory, located, there, find?, h]

theorem makeDirectories_of_directory {p : Path} (h : fs.find p = .ok .directory) :
    fs.makeDirectories p = ⟨fs, none⟩ := by
  have reversed : p = ⟨p.root, p.parts.reverse.reverse⟩ := by rw [List.reverse_reverse]
  rw [reversed] at h
  unfold makeDirectories
  generalize p.parts.reverse = parts at h ⊢
  cases parts with
  | nil => exact makeOrKeep_of_directory h
  | cons part above =>
    obtain ⟨l, located, there⟩ := find_eq_ok.1 h
    have making : fs.makeDirectory ⟨p.root, (part :: above).reverse⟩ = .error .exists := by
      simp only [makeDirectory, located, there]
    unfold makeDirectoriesRev
    simp only [making]
    exact makeOrKeep_of_directory h

theorem write_eq_ok {p : Path} {f : File} : fs.write p f = .ok gs ↔
    ∃ l, fs.locate p = .ok l ∧ fs.node? l ≠ some .directory ∧
      fs.node? l.dropLast = some .directory ∧ fs.put l (.file f) = gs := by
  unfold write
  cases located : fs.locate p with
  | error e => simp
  | ok l =>
    simp only [Except.ok.injEq, exists_eq_left']
    split
    · rename_i directory
      simp [directory]
    · rename_i free
      have free' : fs.node? l ≠ some .directory := free
      simp only [ne_eq, free', not_false_eq_true, true_and]
      split <;> simp_all

def moved (fs : FileSystem) (source target : Location) (f : File) : FileSystem :=
  if source = target then fs
  else (fs.put target (.file f)).without source

theorem move_eq_ok {p q : Path} : fs.move p q = .ok gs ↔
    ∃ source target f, fs.locate p = .ok source ∧ fs.locate q = .ok target ∧
      ¬ (p.name = ".." ∨ q.name = "..") ∧ fs.node? source = some (.file f) ∧
      fs.node? target ≠ some .directory ∧ fs.moved source target f = gs := by
  unfold move
  cases from' : fs.locate p with
  | error e => simp
  | ok source =>
    cases to' : fs.locate q with
    | error e => simp
    | ok target =>
      simp only [Except.ok.injEq, exists_and_left, exists_eq_left']
      by_cases named : p.name = ".." ∨ q.name = ".."
      · have dotted : (decide (p.name = "..") || decide (q.name = "..")) = true := by simpa using named
        simp only [if_pos dotted, not_true_eq_false, named]
        simp
      · have plain : ¬ (decide (p.name = "..") || decide (q.name = "..")) = true := by simpa using named
        simp only [if_neg plain, named, not_false_eq_true, true_and]
        cases here : fs.node? source with
        | none => simp
        | some n =>
          cases n with
          | directory => simp
          | file f =>
            simp only [Option.some.injEq, Node.file.injEq, exists_eq_left']
            by_cases same : source = target
            · cases there : fs.node? target with
              | none => simp [moved, same]
              | some m => cases m <;> simp [moved, same]
            · cases there : fs.node? target with
              | none => simp [moved, same, put, without]
              | some m => cases m <;> simp [moved, same, put, without]

/-- The file stands at the path, and a draft beside it could be written and moved over it. -/
structure Replaceable (fs : FileSystem) (p draft : Path) (f : File) (there beside : Location) :
    Prop where
  room : fs.find p.parent = .ok .directory
  located : fs.locate p = .ok there
  drafted : fs.locate draft = .ok beside
  holds : fs.node? there = some (.file f)
  free : fs.node? beside = none ∨ beside = there
  around : fs.node? beside.dropLast = some .directory
  named : ¬ (draft.name = ".." ∨ p.name = "..")

/-- A file that was written to a draft and moved over a path could be replaced in the same way. -/
theorem replaceable_of_move {drafted : FileSystem} {p draft : Path} {f : File}
    (room : fs.find p.parent = .ok .directory) (written : fs.write draft f = .ok drafted)
    (move : drafted.move draft p = .ok gs) :
    ∃ there beside, Replaceable gs p draft f there beside := by
  obtain ⟨beside, located, free, around, rfl⟩ := write_eq_ok.1 written
  obtain ⟨source, there, g, from', to', named, holds, target, rfl⟩ := move_eq_ok.1 move
  have kept := keepsDirectories_put free (.file f)
  obtain rfl : beside = source := by simpa [kept.locate located] using from'
  have filed : (fs.put beside (.file f)).node? beside = some (.file f) :=
    node?_put_self (ne_nil_of_node? free) _
  obtain rfl : f = g := by simpa [filed] using holds
  refine ⟨there, beside, ?_⟩
  unfold moved
  split
  · rename_i same
    subst same
    exact ⟨kept.find room, to', from', filed, .inr rfl, kept.directories _ around, named⟩
  · rename_i other
    have placed := keepsDirectories_put target (.file f)
    have still : ((fs.put beside (.file f)).put there (.file f)).node? beside ≠ some .directory := by
      rw [node?_put_of_ne other, filed]
      simp
    have away := keepsDirectories_without still
    have all := (kept.trans placed).trans away
    refine ⟨all.find room, (placed.trans away).locate to', (placed.trans away).locate from', ?_,
      .inl (node?_without_self (ne_nil_of_node? free)), all.directories _ around, named⟩
    rw [node?_without_of_ne (Ne.symm other), node?_put_self (ne_nil_of_node? target)]

theorem put_eq_self {l : Location} {n : Node} (below : l ≠ []) (h : fs.node? l = some n) :
    fs.put l n = fs := by
  unfold node? at h
  rw [if_neg (by simpa using below)] at h
  rw [put, Assoc.put_eq_self h]

theorem Replaceable.again {p draft : Path} {f : File} {there beside : Location}
    (h : Replaceable fs p draft f there beside) :
    ∃ drafted, fs.write draft f = .ok drafted ∧ drafted.move draft p = .ok fs := by
  have free : fs.node? beside ≠ some .directory := by
    -- The draft stands nowhere yet, or it stands where the store does.
    rcases h.free with none | same
    · simp [none]
    · simp [same, h.holds]
  have written : fs.write draft f = .ok (fs.put beside (.file f)) :=
    write_eq_ok.2 ⟨beside, h.drafted, free, h.around, rfl⟩
  have kept := keepsDirectories_put free (.file f)
  have filed : (fs.put beside (.file f)).node? beside = some (.file f) :=
    node?_put_self (ne_nil_of_node? free) _
  have below : there ≠ [] := by
    have free : fs.node? there ≠ some .directory := by simp [h.holds]
    exact ne_nil_of_node? free
  -- Moving the draft puts back the file that was there, and the draft is gone again.
  refine ⟨_, written, move_eq_ok.2 ⟨beside, there, f, kept.locate h.drafted, kept.locate h.located,
    h.named, filed, ?_, ?_⟩⟩
  · by_cases same : there = beside
    · rw [same, filed]
      simp
    · rw [node?_put_of_ne same, h.holds]
      simp
  · unfold moved
    split
    · rename_i same
      subst same
      exact put_eq_self below h.holds
    · rename_i other
      have absent : fs.node? beside = none := h.free.resolve_right other
      have placed : (fs.put beside (.file f)).put there (.file f) = fs.put beside (.file f) := by
        refine put_eq_self below ?_
        rw [node?_put_of_ne (Ne.symm other), h.holds]
      rw [placed, without_put absent]

theorem exists_write_move {drafted : FileSystem} {p draft : Path} {f : File}
    (written : fs.write draft f = .ok drafted) (move : drafted.move draft p = .ok gs) (g : File) :
    ∃ drafted' gs', fs.write draft g = .ok drafted' ∧ drafted'.move draft p = .ok gs' := by
  obtain ⟨beside, located, free, around, rfl⟩ := write_eq_ok.1 written
  obtain ⟨source, there, f', from', to', named, -, target, rfl⟩ := move_eq_ok.1 move
  have filed : (fs.put beside (.file f)).node? beside = some (.file f) :=
    node?_put_self (ne_nil_of_node? free) _
  have filed' : (fs.put beside (.file g)).node? beside = some (.file g) :=
    node?_put_self (ne_nil_of_node? free) _
  -- Directories are where they were: the two drafts differ in nothing but their content.
  have other : (fs.put beside (.file f)).put beside (.file g) = fs.put beside (.file g) := by
    simp only [put, Assoc.put_put]
  have kept : KeepsDirectories (fs.put beside (.file f)) (fs.put beside (.file g)) :=
    other ▸ keepsDirectories_put (by simp [filed]) (.file g)
  obtain rfl : beside = source := by
    simpa [(keepsDirectories_put free (.file f)).locate located] using from'
  refine ⟨_, _, write_eq_ok.2 ⟨beside, located, free, around, rfl⟩, move_eq_ok.2 ⟨beside, there, g,
    kept.locate from', kept.locate to', named, filed', ?_, rfl⟩⟩
  by_cases same : there = beside
  · simp [same, filed']
  · rw [node?_put_of_ne same] at target ⊢
    exact target

theorem Replaceable.find {p draft : Path} {f : File} {there beside : Location}
    (h : Replaceable fs p draft f there beside) : fs.find p = .ok (.file f) :=
  find_eq_ok.2 ⟨there, h.located, h.holds⟩

end FileSystem

namespace RecordStore

variable {p : Path} {store : RecordStore}

/-- The files hold the store at the path in a file that can be replaced. -/
def StandsIn (fs : FileSystem) (p : Path) (store : RecordStore) : Prop :=
  ∃ v draft there beside, store.toValue = .ok v ∧ (Json.render v).failure = none ∧
    p.sibling? ".tmp" = some draft ∧
      fs.Replaceable p draft ⟨content (Json.render v), 0⟩ there beside

theorem run_change_eq_ok {explain : FileFault → String} {changed : Except FileFault FileSystem}
    {w v : World} : (change p explain changed).run w = (.ok (), v) ↔
      ∃ fs, changed = .ok fs ∧ v = { w with files := fs } := by
  cases changed with
  | ok fs => simp [change, eq_comm]
  | error fault => simp [change]

theorem run_makeRoom_eq_ok {w v : World} : (makeRoom p).run w = (.ok (), v) ↔
    ∃ made, w.files.makeDirectories p.parent = ⟨made, none⟩ ∧ v = { w with files := made } := by
  rw [makeRoom, run_bind_of_ok (run_getFiles w), run_bind_of_ok (run_setFiles _ w)]
  obtain ⟨made, fault⟩ := w.files.makeDirectories p.parent
  cases fault with
  | none => simp [eq_comm]
  | some fault => simp

/-- Writing a store makes its directories, writes all of it to a draft, and moves the draft. -/
theorem run_write_eq_ok {w v : World} : (store.write p).run w = (.ok (), v) ↔
    ∃ value draft made drafted moved, store.toValue = .ok value ∧ p.sibling? ".tmp" = some draft ∧
      w.files.makeDirectories p.parent = ⟨made, none⟩ ∧
      made.write draft ⟨content (Json.render value), 0⟩ = .ok drafted ∧
      (Json.render value).failure = none ∧ drafted.move draft p = .ok moved ∧
      v = { w with files := moved } := by
  constructor
  · intro run
    obtain ⟨value, u, valued, run⟩ := run_bind_eq_ok.1 run
    rw [run_ofExcept] at valued
    obtain ⟨shape, rfl⟩ := Prod.mk.inj valued
    cases sibling : p.sibling? ".tmp" with
    | none => simp [sibling] at run
    | some draft =>
      simp only [sibling] at run
      obtain ⟨_, u, room, run⟩ := run_bind_eq_ok.1 run
      obtain ⟨made, making, rfl⟩ := run_makeRoom_eq_ok.1 room
      obtain ⟨_, u, files, run⟩ := run_bind_eq_ok.1 run
      cases files
      obtain ⟨_, u, written, run⟩ := run_bind_eq_ok.1 run
      obtain ⟨drafted, drafting, rfl⟩ := run_change_eq_ok.1 written
      cases complete : (Json.render value).failure with
      | some e => simp [complete] at run
      | none =>
        simp only [complete] at run
        obtain ⟨_, u, files, run⟩ := run_bind_eq_ok.1 run
        cases files
        obtain ⟨moved, moving, rfl⟩ := run_change_eq_ok.1 run
        exact ⟨value, draft, made, drafted, moved, shape, rfl, making, drafting, complete, moving,
          rfl⟩
  · rintro ⟨value, draft, made, drafted, moved, shape, sibling, making, drafting, complete, moving,
      rfl⟩
    have valued : (Loader.ofExcept store.toValue).run w = (.ok value, w) := by
      rw [run_ofExcept, shape]
    refine run_bind_eq_ok.2 ⟨value, w, valued, ?_⟩
    simp only [sibling, complete]
    refine run_bind_eq_ok.2 ⟨_, _, run_makeRoom_eq_ok.2 ⟨made, making, rfl⟩, ?_⟩
    refine run_bind_eq_ok.2 ⟨_, _, run_getFiles _, ?_⟩
    refine run_bind_eq_ok.2 ⟨_, _, run_change_eq_ok.2 ⟨drafted, drafting, rfl⟩, ?_⟩
    refine run_bind_eq_ok.2 ⟨_, _, run_getFiles _, ?_⟩
    exact run_change_eq_ok.2 ⟨moved, moving, rfl⟩

theorem standsIn_of_write {w v : World} (run : (store.write p).run w = (.ok (), v)) :
    StandsIn v.files p store ∧ v.events = w.events := by
  obtain ⟨value, draft, made, drafted, moved, shape, sibling, making, drafting, complete, moving,
    rfl⟩ := run_write_eq_ok.1 run
  have room := FileSystem.find_of_makeDirectories making
  obtain ⟨there, beside, file⟩ := FileSystem.replaceable_of_move room drafting moving
  exact ⟨⟨value, draft, there, beside, shape, complete, sibling, file⟩, rfl⟩

theorem run_write_again {w : World} (stands : StandsIn w.files p store) {again : RecordStore}
    (same : ∀ v, store.toValue = .ok v →
      ∃ v', again.toValue = .ok v' ∧ Json.render v' = Json.render v) :
    (again.write p).run w = (.ok (), w) := by
  obtain ⟨v, draft, there, beside, shape, complete, sibling, file⟩ := stands
  obtain ⟨v', shape', rendered⟩ := same v shape
  obtain ⟨drafted, drafting, moving⟩ := file.again
  rw [← rendered] at drafting complete
  exact run_write_eq_ok.2 ⟨v', draft, w.files, drafted, w.files, shape', sibling,
    FileSystem.makeDirectories_of_directory file.room, drafting, complete, moving, rfl⟩

theorem load_of_standsIn {fs : FileSystem} (stands : StandsIn fs p store) :
    ∃ v, store.toValue = .ok v ∧ (Json.render v).failure = none ∧
      load fs p = ofBytes p (content (Json.render v)) := by
  obtain ⟨v, draft, there, beside, written, complete, -, file⟩ := stands
  refine ⟨v, written, complete, ?_⟩
  simp only [load, FileSystem.find?, FileSystem.read, file.find]

theorem Flat.load_of_standsIn {fs : FileSystem} (flat : store.Flat) (stands : StandsIn fs p store) :
    load fs p = .ok (store.afterLooks 1).inOrder := by
  obtain ⟨v, written, complete, loaded⟩ := RecordStore.load_of_standsIn stands
  rw [loaded, flat.ofBytes_content written complete]

theorem Scalar.load_of_standsIn {fs : FileSystem} (scalar : store.Scalar)
    (stands : StandsIn fs p store) : load fs p = .ok store.inOrder := by
  rw [scalar.flat.load_of_standsIn stands, scalar.afterLooks]

end RecordStore

end StoredRoutines
