import StoredRoutines.Proofs.Outcomes
import StoredRoutines.Proofs.Tables
import StoredRoutines.Record.Store

/-!
The names in a store. An object that was read has no two members of one name, so a store that was
read has one record for each of its names.
-/

namespace StoredRoutines

namespace Json

theorem found_eq_ok {α : Type} {r : Option (α × List Char)} {x : α × List Char} :
    found r = .ok x ↔ r = some x := by
  cases r <;> simp [found]

theorem atom_of_wordValue?_or_number? {s rest : List Char} {v : Value}
    (h : (wordValue? s).or (number? s) = some (v, rest)) : ∃ a, v = .atom a := by
  rw [Option.or_eq_some_iff] at h
  rcases h with word | ⟨-, number⟩
  · obtain ⟨w, member, same⟩ := List.exists_of_findSome?_eq_some word
    obtain ⟨rest', -, same⟩ := Option.map_eq_some_iff.1 same
    cases same
    simp only [wordValues, List.mem_cons, List.not_mem_nil, or_false] at member
    rcases member with rfl | rfl | rfl | rfl | rfl | rfl <;> exact ⟨_, rfl⟩
  · unfold number? at number
    split at number
    dsimp only at number
    split at number
    · cases number
    · split at number
      · obtain ⟨n, -, same⟩ := Option.map_eq_some_iff.1 number
        cases same
        exact ⟨_, rfl⟩
      · cases number
        exact ⟨_, rfl⟩

theorem isText_ofPoints (points : List Nat) : (Atom.ofPoints points).isText = true := by
  unfold Atom.ofPoints
  split <;> rfl

theorem isText_of_string? {s rest : List Char} {a : Atom} (h : string? s = some (a, rest)) :
    a.isText = true := by
  obtain ⟨r, -, same⟩ := Option.map_eq_some_iff.1 h
  cases same
  exact isText_ofPoints _

theorem texts_of_fields {fuel depth : Nat} {s rest : List Char} {entries : List (Atom × Value)}
    (h : fields fuel depth s = .ok (entries, rest)) : ∀ e ∈ entries, e.1.isText = true := by
  induction fuel generalizing s entries with
  | zero => cases h
  | succ fuel ih =>
    unfold fields at h
    split at h
    · split at h
      · cases h
      · rename_i name _ named
        have text := isText_of_string? named
        split at h
        · split at h
          · cases h
          · split at h
            · cases h
              simpa using text
            · obtain ⟨r, later, same⟩ := Outcomes.map_eq_ok.1 h
              cases same
              exact List.forall_mem_cons.2 ⟨text, ih later⟩
            · cases h
        · cases h
    · cases h

/-- The members of an object that was read have distinct names, which are texts. -/
theorem names_of_value {fuel depth : Nat} {s rest : List Char} {entries : List (Atom × Value)}
    (h : value fuel depth s = .ok (.object entries, rest)) :
    (Assoc.keys entries).Nodup ∧ ∀ k ∈ Assoc.keys entries, k.isText = true := by
  cases fuel with
  | zero => cases h
  | succ fuel =>
    unfold value at h
    split at h
    · obtain ⟨r, -, same⟩ := Option.map_eq_some_iff.1 (found_eq_ok.1 h)
      cases same
    · split at h
      · cases h
      · split at h
        · cases h
        · obtain ⟨r, -, same⟩ := Outcomes.map_eq_ok.1 h
          cases same
    · split at h
      · cases h
      · split at h
        · cases h
          exact ⟨List.nodup_nil, by simp⟩
        · obtain ⟨r, read, same⟩ := Outcomes.map_eq_ok.1 h
          cases same
          refine ⟨Assoc.nodup_keys_ofPairs _, fun k member => ?_⟩
          obtain ⟨e, place, rfl⟩ := List.mem_map.1 (Assoc.mem_keys_of_mem_keys_ofPairs member)
          exact texts_of_fields read e place
    · obtain ⟨a, same⟩ := atom_of_wordValue?_or_number? (found_eq_ok.1 h)
      cases same

end Json

namespace RecordStore

variable {p : Path} {store : RecordStore}

theorem keys_ofValue {v : Value} (h : ofValue p v = .ok store) :
    ∃ entries, v = .object entries ∧ Assoc.keys store = Assoc.keys entries := by
  unfold ofValue at h
  split at h
  · rename_i entries
    refine ⟨entries, rfl, ?_⟩
    have each := Outcomes.mapM_eq_ok.1 (Outcomes.mapError_eq_ok.1 h)
    clear h
    induction each with
    | nil => rfl
    | cons head _ ih =>
      obtain ⟨record, -, entry⟩ := Outcomes.map_eq_ok.1 head
      rw [Assoc.keys_cons, Assoc.keys_cons, ih, ← entry]
  · cases h

theorem names_ofBytes {content : ByteArray} (h : ofBytes p content = .ok store) :
    (Assoc.keys store).Nodup ∧ ∀ k ∈ Assoc.keys store, k.isText = true := by
  unfold ofBytes at h
  split at h
  · cases h
  · split at h
    · cases h
    · cases h
    · rename_i v parsed
      obtain ⟨entries, rfl, same⟩ := keys_ofValue h
      rw [same]
      unfold Json.parseWithin at parsed
      dsimp only at parsed
      split at parsed
      · cases parsed
      · rename_i found
        split at parsed <;> cases parsed
        exact Json.names_of_value found

theorem names_of_load {fs : FileSystem} (h : load fs p = .ok store) :
    (Assoc.keys store).Nodup ∧ ∀ k ∈ Assoc.keys store, k.isText = true := by
  unfold load at h
  split at h
  · cases h
  · cases h
    exact ⟨List.nodup_nil, by simp⟩
  · split at h
    · cases h
    · exact names_ofBytes h

theorem nodup_keys_load {fs : FileSystem} (h : load fs p = .ok store) :
    (Assoc.keys store).Nodup :=
  (names_of_load h).1

theorem texts_load {fs : FileSystem} (h : load fs p = .ok store) :
    ∀ k ∈ Assoc.keys store, k.isText = true :=
  (names_of_load h).2

end RecordStore

end StoredRoutines
