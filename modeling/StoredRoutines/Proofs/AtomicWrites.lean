import StoredRoutines.Proofs.Keeping
import StoredRoutines.Proofs.Places

/-!
Writing a store is atomic. A store that was written is whole and has no draft beside it. A write
that fails, wherever it does, leaves the file at the place of the store as it was, and leaves
nothing behind but directories on the way and a draft.
-/

namespace StoredRoutines.RecordStore

open Loader Outcomes FileSystem

variable {p : Path} {store : RecordStore} {fs gs : FileSystem} {w v : World}

theorem exists_run_makeRoom (p : Path) (w : World) : ∃ r, (makeRoom p).run w =
    (r, { w with files := (w.files.makeDirectories p.parent).files }) := by
  rw [makeRoom, run_bind_of_ok (run_getFiles w), run_bind_of_ok (run_setFiles _ w)]
  cases (w.files.makeDirectories p.parent).fault with
  | none => exact ⟨_, rfl⟩
  | some fault => exact ⟨_, rfl⟩

/-- What a write that fails leaves of the files: what there was, also with the directories made on
the way, also with a draft. -/
inductive Interrupted (p : Path) (fs : FileSystem) : FileSystem → Prop
  | unstarted : Interrupted p fs fs
  | roomMade : Interrupted p fs (fs.makeDirectories p.parent).files
  | drafted {draft : Path} {f : File} {gs : FileSystem} (beside : p.sibling? ".tmp" = some draft)
      (written : (fs.makeDirectories p.parent).files.write draft f = .ok gs) :
      Interrupted p fs gs

theorem run_change_eq_error {explain : FileFault → String} {changed : Except FileFault FileSystem}
    {e : Failure} (run : (change p explain changed).run w = (.error e, v)) : v = w := by
  cases changed with
  | ok fs => cases run
  | error fault => exact (Prod.mk.inj run).2.symm

theorem interrupted_of_run_write {e : Failure} (run : (store.write p).run w = (.error e, v)) :
    v = { w with files := v.files } ∧ Interrupted p w.files v.files := by
  rw [write] at run
  cases shape : store.toValue with
  | error e =>
    rw [shape, run_bind_of_error (run_ofExcept _ _)] at run
    cases run
    exact ⟨rfl, .unstarted⟩
  | ok value =>
    rw [shape, run_bind_of_ok (run_ofExcept _ _)] at run
    cases beside : p.sibling? ".tmp" with
    | none =>
      simp only [beside] at run
      cases run
      exact ⟨rfl, .unstarted⟩
    | some draft =>
      simp only [beside] at run
      obtain ⟨r, room⟩ := exists_run_makeRoom p w
      cases r with
      | error e =>
        rw [run_bind_of_error room] at run
        cases run
        exact ⟨rfl, .roomMade⟩
      | ok _ =>
        rw [run_bind_of_ok room, run_bind_of_ok (run_getFiles _)] at run
        -- From here on there may be a draft, but nothing has been moved over the store.
        cases drafting : (w.files.makeDirectories p.parent).files.write draft
            ⟨content (Json.render value), 0⟩ with
        | error fault =>
          rw [drafting] at run
          cases run
          exact ⟨rfl, .roomMade⟩
        | ok drafted =>
          rw [drafting, run_bind_of_ok (run_change_eq_ok.2 ⟨drafted, rfl, rfl⟩)] at run
          cases complete : (Json.render value).failure with
          | some e =>
            simp only [complete] at run
            cases run
            exact ⟨rfl, .drafted beside drafting⟩
          | none =>
            simp only [complete] at run
            rw [run_bind_of_ok (run_getFiles _)] at run
            obtain rfl := run_change_eq_error run
            exact ⟨rfl, .drafted beside drafting⟩

/-- The files after a write that failed: the file of the store is untouched. -/
structure Spares (p : Path) (fs gs : FileSystem) : Prop where
  /-- Where the path leads now, there is the file that was there before, or none as before. -/
  target : ∀ l, gs.locate p = .ok l → gs.fileAt? l = fs.fileAt? l
  /-- Where the path led before, it leads now. -/
  followed : ∀ l, fs.locate p = .ok l → gs.locate p = .ok l
  /-- The file at the path is as before, unless the path steps back out of a missing directory. -/
  file : fs.Rooted → (".." ∈ p.parts → fs.locate p ≠ .error .missing) →
    (gs.read p).toOption = (fs.read p).toOption
  /-- Nothing else changed but that there are directories on the way, and perhaps the draft. -/
  rest : ChangesOnly fs gs p.parent (p.sibling? ".tmp").toList

theorem fileAt?_of_changesOnly (rest : ChangesOnly fs gs p.parent (p.sibling? ".tmp").toList)
    {l : Location} (located : gs.locate p = .ok l) : gs.fileAt? l = fs.fileAt? l := by
  have other : ∀ q ∈ (p.sibling? ".tmp").toList, gs.locate q ≠ .ok l := fun q beside drafted =>
    draft_apart (Option.mem_toList.1 beside) located drafted rfl
  rcases rest.places l other with same | ⟨absent, made, -⟩
  · exact fileAt?_congr same
  · rw [fileAt?, fileAt?, absent, made]

theorem Spares.of_changesOnly (kept : KeepsKinds fs gs)
    (rest : ChangesOnly fs gs p.parent (p.sibling? ".tmp").toList) : Spares p fs gs where
  target := fun _ => fileAt?_of_changesOnly rest
  followed := fun _ => kept.locate
  file := kept.read_eq fun _ => fileAt?_of_changesOnly rest
  rest := rest

theorem Interrupted.spares (h : Interrupted p fs gs) : Spares p fs gs := by
  have way := changesOnly_makeDirectories fs p.parent
  cases h with
  | unstarted => exact .of_changesOnly (.refl fs) (.refl _ _ _)
  | roomMade =>
    exact .of_changesOnly way.keeps (way.trans_touched ⟨rfl, fun _ there => there⟩ fun _ _ => rfl)
  | drafted beside written =>
    obtain ⟨l, located, free, -, rfl⟩ := write_eq_ok.1 written
    have kept := keepsKinds_put_file free ‹File›
    refine .of_changesOnly (way.keeps.trans kept) (way.trans_touched kept.toKeepsDirectories ?_)
    intro m untouched
    refine node?_put_of_ne ?_ _
    rintro rfl
    exact untouched _ (by rw [beside]; exact List.mem_singleton_self _) (kept.locate located)

/-- Also after a write that failed, whatever there is lies in a directory. -/
theorem Interrupted.rooted (h : Interrupted p fs gs) (rooted : fs.Rooted) : gs.Rooted := by
  cases h with
  | unstarted => exact rooted
  | roomMade => exact rooted.makeDirectories _
  | drafted _ written => exact (rooted.makeDirectories _).write written

/-- The files after a store was written: its file is whole, and the draft is gone. -/
structure Replaces (p draft : Path) (f : File) (fs gs : FileSystem) : Prop where
  whole : gs.read p = .ok f
  gone : gs.find draft = .error .missing
  /-- Nothing else changed but that there are directories on the way. -/
  rest : ChangesOnly fs gs p.parent [p, draft]

theorem replaces_of_move {draft : Path} {f : File} {made drafted : FileSystem}
    (way : ChangesOnly fs made p.parent []) (room : made.find p.parent = .ok .directory)
    (beside : p.sibling? ".tmp" = some draft) (written : made.write draft f = .ok drafted)
    (move : drafted.move draft p = .ok gs) : Replaces p draft f fs gs := by
  obtain ⟨there, apart, file⟩ := replaceable_of_move room written move
  -- The draft could only stand where the store does, and it has a longer name.
  have absent : gs.node? apart = none :=
    file.free.resolve_right (draft_apart beside file.located file.drafted).symm
  obtain ⟨l, located, free, -, rfl⟩ := write_eq_ok.1 written
  obtain ⟨source, target, g, from', to', -, holds, free', rfl⟩ := move_eq_ok.1 move
  have moving := keepsDirectories_moved holds free'
  have kept := (keepsDirectories_put free _).trans moving
  refine ⟨?_, ?_, way.trans_touched kept fun m untouched => ?_⟩
  · rw [FileSystem.read, file.find]
  · simp only [FileSystem.find, file.drafted, absent]
  · have apart' : m ≠ source := by
      rintro rfl
      exact untouched draft (by simp) (moving.locate from')
    have apart'' : m ≠ target := by
      rintro rfl
      exact untouched p (by simp) (moving.locate to')
    have other : m ≠ l := by
      rintro rfl
      exact untouched draft (by simp) (kept.locate located)
    rw [node?_moved_of_ne apart' apart'', node?_put_of_ne other]

/-- A store is written as a whole, and then there is no draft; or the write fails, and the file of
the store is what it was. In both cases nothing else changes but that directories are made. -/
theorem write_is_atomic {r : Except Failure Unit} (run : (store.write p).run w = (r, v)) :
    v = { w with files := v.files } ∧ (w.files.Rooted → v.files.Rooted) ∧
    (r = .ok () → ∃ value text draft, store.toValue = .ok value ∧
      Json.render value = ⟨text, none⟩ ∧ p.sibling? ".tmp" = some draft ∧
      Replaces p draft ⟨(String.ofList (text ++ ['\n'])).toUTF8, 0⟩ w.files v.files) ∧
    ((∃ e, r = .error e) → Spares p w.files v.files) := by
  cases r with
  | error e =>
    obtain ⟨files, interrupted⟩ := interrupted_of_run_write run
    exact ⟨files, interrupted.rooted, nofun, fun _ => interrupted.spares⟩
  | ok _ =>
    obtain ⟨value, draft, made, drafted, moved, shape, beside, making, drafting, complete, moving,
      rfl⟩ := run_write_eq_ok.1 run
    have way := changesOnly_makeDirectories w.files p.parent
    have rooted (before : w.files.Rooted) := before.makeDirectories p.parent
    have room := find_of_makeDirectories making
    rw [making] at way rooted
    cases rendered : Json.render value with
    | mk text failure =>
      rw [rendered] at complete drafting
      cases complete
      have replaces := replaces_of_move way room beside drafting moving
      exact ⟨rfl, fun before => ((rooted before).write drafting).move moving,
        fun _ => ⟨value, text, draft, shape, rendered, beside, replaces⟩, nofun⟩

end StoredRoutines.RecordStore

namespace StoredRoutines

open Loader

namespace Sample

/-- A file `b`, and a directory in the place of its draft. -/
def blocked : World where
  files := ⟨[(["b"], .file ⟨"old".toUTF8, 0⟩), (["b.tmp"], .directory)], []⟩

/-- A path to the file by way of a directory that is missing. -/
def detour : Path := ⟨"", ["a", "..", "b"]⟩

theorem toValue_nil : RecordStore.toValue [] = .ok (.object []) := by
  simp [RecordStore.toValue, Atom.sortEntries, Atom.areComparable]
  rfl

/-- Where a directory stands in the place of the draft, nothing is written. -/
theorem run_write_blocked {p draft : Path} {w : World} {made : FileSystem}
    (beside : p.sibling? ".tmp" = some draft)
    (room : w.files.makeDirectories p.parent = ⟨made, none⟩)
    (taken : made.find draft = .ok .directory) :
    ∃ e, (RecordStore.write p []).run w = (.error e, { w with files := made }) := by
  obtain ⟨l, located, there⟩ := FileSystem.find_eq_ok.1 taken
  have refused (f : File) : made.write draft f = .error .isDirectory := by
    simp only [FileSystem.write, located, there]
  rw [RecordStore.write, toValue_nil, run_bind_of_ok (run_ofExcept _ _)]
  simp only [beside]
  rw [run_bind_of_ok (RecordStore.run_makeRoom_eq_ok.2 ⟨made, room, rfl⟩),
    run_bind_of_ok (run_getFiles _)]
  simp only [refused]
  exact ⟨_, rfl⟩

theorem run_write_detour : ∃ e, (RecordStore.write detour []).run blocked =
    (.error e, { blocked with files := blocked.files.put ["a"] .directory }) :=
  run_write_blocked rfl rfl rfl

theorem rooted_blocked : blocked.files.Rooted := by
  refine ⟨rfl, fun l part there => ?_⟩
  cases l with
  | nil => rfl
  | cons c cs =>
    refine absurd ?_ there
    simp [FileSystem.node?, blocked]

end Sample

open Sample in
/-- One store is written over, the other one cannot be and is spared. -/
theorem written_over_or_spared :
    (∃ v f, (RecordStore.write storePath []).run (worldHolding scrambled) = (.ok (), v) ∧
      RecordStore.Replaces storePath ⟨"/", ["s.json.tmp"]⟩ f (worldHolding scrambled).files
        v.files) ∧
    ∃ e v, (RecordStore.write detour []).run blocked = (.error e, v) ∧
      RecordStore.Spares detour blocked.files v.files := by
  have complete : (Json.render (.object [])).failure = none :=
    (Json.complete_fields (by simp)).2 (by simp)
  have run : (RecordStore.write storePath []).run (worldHolding scrambled) = (.ok (), _) :=
    RecordStore.run_write_eq_ok.2 ⟨_, _, _, _, _, toValue_nil, rfl, rfl, rfl, complete, rfl, rfl⟩
  obtain ⟨_, text, _, -, -, beside, replaces⟩ := (RecordStore.write_is_atomic run).2.2.1 rfl
  obtain rfl := Option.some.inj beside
  obtain ⟨e, failed⟩ := run_write_detour
  exact ⟨⟨_, _, run, replaces⟩, e, _, failed, (RecordStore.write_is_atomic failed).2.2.2 ⟨e, rfl⟩⟩

open Sample in
/-- By way of a directory that a failing write makes, a file can be read that could not be read. -/
theorem file_appears_after_failure : ¬ ∀ (store : RecordStore) (p : Path) (w v : World)
    (e : Failure), w.files.Rooted → (store.write p).run w = (.error e, v) →
      (v.files.read p).toOption = (w.files.read p).toOption := by
  intro claimed
  obtain ⟨e, failed⟩ := run_write_detour
  have same := claimed [] detour blocked _ e rooted_blocked failed
  have before : (blocked.files.read detour).toOption = none := rfl
  have after : ((blocked.files.put ["a"] .directory).read detour).toOption =
      some ⟨"old".toUTF8, 0⟩ := rfl
  rw [before, after] at same
  cases same

end StoredRoutines
