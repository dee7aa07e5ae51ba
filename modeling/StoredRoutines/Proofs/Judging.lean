import StoredRoutines.Proofs.Outcomes
import StoredRoutines.Freshness

/-!
The judgement of a record. It rests on the source and the placeholders, or on the catalog: a record
that holds apart from the catalog is up to date exactly if the entry in the catalog matches the
session, and without such a record the catalog does not matter.
-/

namespace StoredRoutines

open Outcomes

namespace CatalogEntry

/-- The entry is that of a routine made under the settings of the session. -/
structure Matches (session : SessionSettings) (entry : CatalogEntry) : Prop where
  modes : ∃ names, Freshness.modesOf entry.sqlMode = .ok names ∧
    Freshness.sameElements names (Freshness.modes session.sqlMode) = true
  characterSet : entry.characterSet = .text session.characterSet
  collation : entry.collation = .text session.collation

end CatalogEntry

/-- The reason lies in the catalog and not in the source or its record. -/
def StaleReason.isOfCatalog : StaleReason → Bool
  | notInCatalog | otherSqlMode | otherCharacterSet | otherCollation => true
  | _ => false

namespace Freshness

variable {record : Option BuildRecord} {modified : Int} {table : ReplaceTable}
  {session : SessionSettings}

theorem ofCatalog_eq_none_iff {entry : CatalogEntry} :
    ofCatalog session (some entry) = .ok none ↔ entry.Matches session := by
  unfold ofCatalog
  constructor
  · intro h
    obtain ⟨names, found, rest⟩ := bind_eq_ok.1 h
    split at rest
    · cases rest
    · rename_i same
      split at rest
      · cases rest
      · rename_i characterSet
        split at rest
        · cases rest
        · rename_i collation
          exact ⟨⟨names, found, by simpa using same⟩, by simpa using characterSet,
            by simpa using collation⟩
  · rintro ⟨⟨names, found, same⟩, characterSet, collation⟩
    refine bind_eq_ok.2 ⟨names, found, ?_⟩
    simp [same, characterSet, collation]
    rfl

theorem isOfCatalog_of_ofCatalog {entry : Option CatalogEntry} {reason : StaleReason}
    (h : ofCatalog session entry = .ok (some reason)) : reason.isOfCatalog = true := by
  cases entry with
  | none =>
    cases h
    rfl
  | some entry =>
    obtain ⟨names, found, rest⟩ := bind_eq_ok.1 h
    split at rest
    · cases rest
      rfl
    · split at rest
      · cases rest
        rfl
      · split at rest <;> cases rest
        rfl

theorem not_isOfCatalog_of_ofPlaceholders {recorded : List (Atom × Value)} {reason : StaleReason}
    (h : ofPlaceholders table recorded = .ok (some reason)) : reason.isOfCatalog = false := by
  induction recorded with
  | nil => cases h
  | cons e rest ih =>
    obtain ⟨key, value⟩ := e
    unfold ofPlaceholders at h
    split at h
    · cases h
    · split at h
      · cases h
        rfl
      · split at h
        · simp_all
        · cases h
          rfl
    · split at h <;> cases h
      rfl

/-- Recorded placeholders hold exactly if each still has its recorded value. -/
theorem ofPlaceholders_eq_none_iff {recorded : List (Atom × Value)} :
    ofPlaceholders table recorded = .ok none ↔
      ∀ e ∈ recorded, ∃ token v, e.1 = .text token ∧ Placeholder.value? table token = some v ∧
        e.2 = .text v.display := by
  induction recorded with
  | nil => simp [ofPlaceholders]
  | cons e rest ih =>
    obtain ⟨key, value⟩ := e
    rw [List.forall_mem_cons, ← ih]
    cases key with
    | text token =>
      cases valued : Placeholder.value? table token with
      | none => simp [ofPlaceholders, valued]
      | some v =>
        by_cases same : value = .text v.display
        · simp [ofPlaceholders, valued, same]
        · simp [ofPlaceholders, valued, same]
    | _ => simp [ofPlaceholders, Atom.isText, Atom.isBytes]

/-- The record holds apart from the catalog. -/
def Holds (modified : Int) (table : ReplaceTable) (record : BuildRecord) : Prop :=
  record.timestamp = modified ∧ ofPlaceholders table record.replace = .ok none

theorem judge_of_holds {kept : BuildRecord} (h : Holds modified table kept)
    (entry : Option CatalogEntry) :
    judge (some kept) modified table session entry =
      (ofCatalog session entry).map fun reason =>
        match reason with
        | some reason => stale reason
        | none => upToDate kept := by
  obtain ⟨time, placeholders⟩ := h
  simp only [judge, time, placeholders, ne_eq, not_true_eq_false, if_false]
  cases ofCatalog session entry with
  | error e => rfl
  | ok reason => cases reason <;> rfl

/-- Without a record that holds, the catalog does not matter: the judgement is the same for all
entries, it is not that the routine is up to date, and it gives no reason of the catalog. -/
def Decided (record : Option BuildRecord) (modified : Int) (table : ReplaceTable)
    (session : SessionSettings) : Prop :=
  ∃ r : Except Failure Freshness, (∀ entry, judge record modified table session entry = r) ∧
    (∀ kept, r ≠ .ok (.upToDate kept)) ∧
      ∀ reason, r = .ok (.stale reason) → reason.isOfCatalog = false

theorem decided_stale (reason : StaleReason) (other : reason.isOfCatalog = false)
    (all : ∀ entry, judge record modified table session entry = .ok (.stale reason)) :
    Decided record modified table session := by
  refine ⟨_, all, by simp, ?_⟩
  intro reason' same
  cases same
  exact other

theorem holds_or_decided (record : Option BuildRecord) (modified : Int) (table : ReplaceTable)
    (session : SessionSettings) :
    (∃ kept, record = some kept ∧ Holds modified table kept) ∨
      Decided record modified table session := by
  cases record with
  | none => exact .inr (decided_stale .noRecord rfl (fun _ => rfl))
  | some kept =>
    -- The rules in the order in which they are tried; the first one that applies decides.
    by_cases time : kept.timestamp = modified
    · cases placeholders : ofPlaceholders table kept.replace with
      | error e =>
        refine .inr ⟨.error e, fun entry => ?_, by simp, by simp⟩
        simp only [judge, time, placeholders, ne_eq, not_true_eq_false, if_false]
        rfl
      | ok reason =>
        cases reason with
        | none => exact .inl ⟨kept, rfl, time, placeholders⟩
        | some reason =>
          refine .inr (decided_stale reason (not_isOfCatalog_of_ofPlaceholders placeholders)
            (fun entry => ?_))
          simp only [judge, time, placeholders, ne_eq, not_true_eq_false, if_false]
          rfl
    · refine .inr (decided_stale .modified rfl (fun entry => ?_))
      simp [judge, time]
      rfl

/-- A record is up to date exactly if it holds and the entry matches the session. -/
theorem judge_upToDate_iff {entry : Option CatalogEntry} {kept : BuildRecord} :
    judge record modified table session entry = .ok (.upToDate kept) ↔
      record = some kept ∧ Holds modified table kept ∧
        ∃ e, entry = some e ∧ e.Matches session := by
  constructor
  · intro h
    rcases holds_or_decided record modified table session with ⟨kept', rfl, holds⟩ | decided
    · rw [judge_of_holds holds] at h
      obtain ⟨reason, judged, result⟩ := map_eq_ok.1 h
      cases reason with
      | some reason => cases result
      | none =>
        cases result
        cases entry with
        | none => cases judged
        | some e => exact ⟨rfl, holds, e, rfl, ofCatalog_eq_none_iff.1 judged⟩
    · obtain ⟨r, all, notFresh, -⟩ := decided
      rw [all] at h
      exact absurd h (notFresh kept)
  · rintro ⟨rfl, holds, e, rfl, matching⟩
    rw [judge_of_holds holds, ofCatalog_eq_none_iff.2 matching]
    rfl

end Freshness

end StoredRoutines
