import StoredRoutines.Proofs.Defects

/-!
What reading and writing a store can fail with: an error that is about just this store, or a defect.
-/

namespace StoredRoutines

open Loader Outcomes

/-- The error is that the store at the path cannot be used. -/
inductive LoaderError.AboutStore (p : Path) : LoaderError → Prop where
  | unreadable (explanation : String) : AboutStore p (RecordStore.unreadable p explanation)
  | unwritable (explanation : String) : AboutStore p (RecordStore.unwritable p explanation)
  | notAnObject : AboutStore p (RecordStore.notAnObject p)
  | malformed (explanation : String) : AboutStore p (RecordStore.malformed p explanation)

theorem LoaderError.AboutStore.kind {p : Path} {e : LoaderError} (h : e.AboutStore p) :
    e.kind = .metadata := by
  cases h <;> rfl

inductive Failure.OfStore (p : Path) : Failure → Prop where
  | error {e : LoaderError} (about : e.AboutStore p) : OfStore p (.error e)
  | defect (d : Defect) : OfStore p (.defect d)

namespace Failure

variable {p : Path} {e : Failure}

theorem IsDefect.ofStore (h : e.IsDefect) : e.OfStore p := by
  cases e with
  | error error => exact h.elim
  | defect d => exact .defect d

theorem OfStore.isConnectionLoss (h : e.OfStore p) : e.isConnectionLoss = false := by
  cases h with
  | error about => simp [Failure.isConnectionLoss, about.kind]
  | defect d => rfl

end Failure

theorem FileFault.ofStore_toFailure {p : Path} {e : LoaderError} (about : e.AboutStore p)
    (fault : FileFault) : (fault.toFailure e).OfStore p := by
  unfold toFailure
  split
  · exact .defect _
  · exact .error about

namespace RecordStore

variable {p : Path}

theorem ofStore_recordFailure {e : Failure} (h : e.IsDefect) : (recordFailure p e).OfStore p := by
  unfold recordFailure
  split
  · exact .error (.malformed _)
  · exact .error (.malformed _)
  · exact .error (.malformed _)
  · exact h.ofStore

theorem ofStore_ofValue (v : Value) : ErrsOnly (Failure.OfStore p) (ofValue p v) := by
  unfold ofValue
  split
  · exact ErrsOnly.mapError (P := Failure.IsDefect) (by simp) fun _ => ofStore_recordFailure
  · exact ErrsOnly.error_iff.2 (.error .notAnObject)

theorem ofStore_ofBytes (content : ByteArray) :
    ErrsOnly (Failure.OfStore p) (ofBytes p content) := by
  unfold ofBytes
  split
  · exact ErrsOnly.error_iff.2 (.error (.unreadable _))
  · split
    · exact ErrsOnly.error_iff.2 (.error (.unreadable _))
    · exact ErrsOnly.error_iff.2 (.defect _)
    · exact ofStore_ofValue _

theorem ofStore_load (fs : FileSystem) (p : Path) : ErrsOnly (Failure.OfStore p) (load fs p) := by
  unfold load
  split
  · rename_i fault found
    exact ErrsOnly.error_iff.2 (fault.isDefect_unforeseen _).ofStore
  · exact ErrsOnly.ok _
  · split
    · exact ErrsOnly.error_iff.2 (FileFault.ofStore_toFailure (.unreadable _) _)
    · exact ofStore_ofBytes _

theorem ofStore_change (explain : FileFault → String) (changed : Except FileFault FileSystem) :
    (change p explain changed).FailsOnly (Failure.OfStore p) := by
  unfold change
  split
  · exact .setFiles _
  · exact .fail (FileFault.ofStore_toFailure (.unwritable _) _)

theorem ofStore_makeRoom : (makeRoom p).FailsOnly (Failure.OfStore p) := by
  refine FailsOnly.getFiles.bind fun fs => (FailsOnly.setFiles _).bind fun _ => ?_
  split
  · exact .pure _
  · exact .fail (FileFault.ofStore_toFailure (.unwritable _) _)

theorem ofStore_write (store : RecordStore) : (store.write p).FailsOnly (Failure.OfStore p) := by
  have shape : ErrsOnly (Failure.OfStore p) store.toValue :=
    (defective_toValue store).mono fun _ => Failure.IsDefect.ofStore
  refine (FailsOnly.ofExcept shape).bind fun v => ?_
  split
  · exact .fail (.defect _)
  · refine ofStore_makeRoom.bind fun _ => FailsOnly.getFiles.bind fun fs => ?_
    refine (ofStore_change _ _).bind fun _ => ?_
    split
    · rename_i e failed
      exact .fail (Json.defective_render v e failed).ofStore
    · exact FailsOnly.getFiles.bind fun fs => ofStore_change _ _

end RecordStore

end StoredRoutines
