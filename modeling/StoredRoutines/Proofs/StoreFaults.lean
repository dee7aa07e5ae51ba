import StoredRoutines.Proofs.Assignments
import StoredRoutines.Proofs.Failing
import StoredRoutines.Proofs.SourceTexts
import StoredRoutines.Proofs.Tables
import StoredRoutines.Record.Store

/-!
Stores that cannot be read. Reading a record stops at the first member that is missing or has the
wrong shape, and for most of them the store is malformed. Three members are looked at in a way that
nothing provides for, and a value can be nested too deep: these failures reach the caller as they
are.
-/

namespace StoredRoutines

open Outcomes

/-- A record that fails so makes its store malformed. -/
def Failure.MakesMalformed : Failure → Prop
  | .defect (.missingKey _) | .defect (.wrongType _) | .defect (.invalidValue _) => True
  | _ => False

def Foreseen {α : Type} (x : Except Failure α) : Prop := ∀ e, x = .error e → e.MakesMalformed

namespace Foreseen

variable {α β : Type}

theorem ok (a : α) : Foreseen (.ok a) := ErrsOnly.ok a

theorem refuse (explanation : String) : Foreseen (Value.refuse explanation : Except Failure α) :=
  ErrsOnly.error_iff.2 trivial

theorem bind {x : Except Failure α} {f : α → Except Failure β} (first : Foreseen x)
    (second : ∀ a, x = .ok a → Foreseen (f a)) : Foreseen (x >>= f) :=
  ErrsOnly.bind_iff.2 ⟨first, second⟩

theorem map {x : Except Failure α} (h : Foreseen x) (f : α → β) : Foreseen (x.map f) :=
  (ErrsOnly.map_iff f).2 h

theorem mapM {f : α → Except Failure β} {as : List α} (each : ∀ a ∈ as, Foreseen (f a)) :
    Foreseen (as.mapM f) :=
  ErrsOnly.mapM_of_mem each

end Foreseen

namespace Value

theorem foreseen_member (v : Value) (k : String) : Foreseen (v.member k) := by
  intro e failed
  unfold member at failed
  split at failed
  · split at failed <;> cases failed
    trivial
  all_goals
    cases failed
    trivial

theorem object_of_member {v x : Value} {k : String} (h : v.member k = .ok x) :
    ∃ fields, v = .object fields := by
  unfold member at h
  split at h
  · exact ⟨_, rfl⟩
  all_goals cases h

theorem foreseen_parts (v : Value) : Foreseen v.parts := by
  unfold parts
  split <;> first | exact .ok _ | exact .refuse _

theorem foreseen_partsOrNone (v : Value) : Foreseen v.partsOrNone := by
  unfold partsOrNone
  split
  · exact .ok _
  · exact foreseen_parts v

theorem foreseen_asPair (v : Value) : Foreseen v.asPair := by
  apply Foreseen.bind (foreseen_parts v)
  intro parts _
  split
  · rename_i k x
    refine Foreseen.bind ?_ fun _ _ => .ok _
    unfold asKey
    split
    · exact .ok _
    · exact .refuse _
  · intro e failed
    cases failed
    trivial

theorem foreseen_entries (v : Value) : Foreseen v.entries := by
  unfold entries
  split
  · exact .ok _
  · split
    · exact .ok _
    · apply Foreseen.bind (foreseen_parts _)
      intro parts _
      apply Foreseen.bind (Foreseen.mapM fun part _ => foreseen_asPair part)
      intro pairs _
      exact .ok _

theorem toInteger_eq_error {v : Value} {e : Failure} (failed : v.toInteger = .error e) :
    e.MakesMalformed ∨ ∃ negative, v = .real (.infinite negative) ∧
      e = .defect (.tooLarge "cannot convert float infinity to integer") := by
  unfold toInteger at failed
  split at failed
  · cases failed
  · cases failed
  · rename_i x
    cases x with
    | finite negative place => cases failed
    | infinite negative =>
      cases failed
      exact .inr ⟨negative, rfl, rfl⟩
    | notANumber =>
      cases failed
      exact .inl trivial
  · split at failed <;> cases failed
    exact .inl trivial
  all_goals
    cases failed
    exact .inl trivial

end Value

theorem ExtendedParameter.foreseen_ofValue (v : Value) : Foreseen (ofValue v) := by
  apply Foreseen.bind (v.foreseen_member "name")
  intro name found
  obtain ⟨fields, rfl⟩ := Value.object_of_member found
  apply Foreseen.bind (Value.foreseen_member _ "data_type")
  intro type _
  exact .ok _

theorem CatalogParameter.foreseen_extendedOf (v : Value) : Foreseen (extendedOf v) := by
  unfold extendedOf
  split
  · exact .ok _
  · apply Foreseen.bind (v.foreseen_member "name")
    intro name _
    apply Foreseen.bind (v.foreseen_member "data_type")
    intro type _
    apply Foreseen.bind (v.foreseen_member "delimiter")
    intro delimiter _
    apply Foreseen.bind (v.foreseen_member "enclosure")
    intro enclosure _
    apply Foreseen.bind (v.foreseen_member "escape")
    intro escape _
    exact .ok _

theorem CatalogParameter.foreseen_ofValue (v : Value) : Foreseen (ofValue v) := by
  apply Foreseen.bind (foreseen_extendedOf v)
  intro extended _
  apply Foreseen.bind (v.foreseen_member "name")
  intro name found
  obtain ⟨fields, rfl⟩ := Value.object_of_member found
  apply Foreseen.bind (Value.foreseen_member _ "data_type")
  intro type _
  exact .ok _

theorem WrapperParameter.foreseen_ofValue (v : Value) : Foreseen (ofValue v) := by
  apply Foreseen.bind (v.foreseen_member "name")
  intro name found
  obtain ⟨fields, rfl⟩ := Value.object_of_member found
  apply Foreseen.bind (Value.foreseen_member _ "semantic_type")
  intro semantic _
  apply Foreseen.bind (Value.foreseen_member _ "data_type_descriptor")
  intro type _
  exact .ok _

theorem RoutineDoc.foreseen_ofValue (fields : List (Atom × Value)) :
    Foreseen (ofValue (.object fields)) := by
  apply Foreseen.bind (Value.foreseen_parts _)
  intro parts _
  apply Foreseen.bind (Foreseen.mapM fun part _ => WrapperParameter.foreseen_ofValue part)
  intro parameters _
  exact .ok _

namespace BuildRecord

/-- The record as far as it is read before its timestamp. -/
def front (v : Value) : Except Failure BuildRecord := do
  let designation ← v.member "designation"
  let table ← v.memberOr "table_name" .null
  let columns ← (← v.memberOr "columns" .null).partsOrNone
  let routineName ← v.member "routine_name"
  let routineType ← v.memberOr "routine_type" (.text "procedure")
  let parameters ← (← (← v.memberOr "parameters" (.list [])).parts).mapM CatalogParameter.ofValue
  let fields ← (← v.memberOr "fields" .null).partsOrNone
  let columnTypes ← (← v.memberOr "column_types" .null).partsOrNone
  return { routineName, routineType, designation, table, columns, parameters, fields, columnTypes }

/-- The documentation in a member. Nothing is documentation without descriptions. -/
def docOf (v : Value) : Except Failure RoutineDoc :=
  RoutineDoc.ofValue (if v.isNothing then .object [] else v)

theorem foreseen_front (v : Value) : Foreseen (front v) := by
  apply Foreseen.bind (v.foreseen_member "designation")
  intro designation found
  obtain ⟨fields, rfl⟩ := Value.object_of_member found
  apply Foreseen.bind (Value.foreseen_partsOrNone _)
  intro columns _
  apply Foreseen.bind (Value.foreseen_member _ "routine_name")
  intro name _
  apply Foreseen.bind (Value.foreseen_parts _)
  intro parts _
  apply Foreseen.bind (Foreseen.mapM fun part _ => CatalogParameter.foreseen_ofValue part)
  intro parameters _
  apply Foreseen.bind (Value.foreseen_partsOrNone _)
  intro fields _
  apply Foreseen.bind (Value.foreseen_partsOrNone _)
  intro types _
  exact .ok _

theorem docOf_eq_error {v : Value} {e : Failure} (failed : docOf v = .error e) :
    e.MakesMalformed ∨ v.isNothing = false ∧ (∀ members, v ≠ .object members) ∧
      e = .defect (.noTextFunction v "get") := by
  unfold docOf at failed
  cases nothing : v.isNothing with
  | true =>
    rw [nothing] at failed
    exact .inl (RoutineDoc.foreseen_ofValue [] e failed)
  | false =>
    rw [nothing] at failed
    cases v with
    | object members => exact .inl (RoutineDoc.foreseen_ofValue members e failed)
    | list items =>
      cases failed
      exact .inr ⟨rfl, by simp, rfl⟩
    | atom a =>
      cases failed
      exact .inr ⟨rfl, by simp, rfl⟩

theorem docOf_of_shapeless {v : Value} (something : v.isNothing = false)
    (shapeless : ∀ members, v ≠ .object members) :
    docOf v = .error (.defect (.noTextFunction v "get")) := by
  unfold docOf
  rw [something]
  cases v with
  | object members => exact absurd rfl (shapeless members)
  | list items => rfl
  | atom a => rfl

theorem declaredOf_eq_error {v : Value} {e : Failure} (failed : declaredOf v = .error e) :
    e.MakesMalformed ∨ v.isNothing = false ∧ (∀ members, v ≠ .object members) ∧
      e = .defect (.noTextFunction v "items") := by
  unfold declaredOf at failed
  cases nothing : v.isNothing with
  | true =>
    rw [nothing] at failed
    cases failed
  | false =>
    rw [nothing] at failed
    cases v with
    | object members =>
      refine .inl (Foreseen.mapM ?_ e failed)
      intro f _
      exact (ExtendedParameter.foreseen_ofValue f.2).map _
    | list items =>
      cases failed
      exact .inr ⟨rfl, by simp, rfl⟩
    | atom a =>
      cases failed
      exact .inr ⟨rfl, by simp, rfl⟩

theorem declaredOf_of_shapeless {v : Value} (something : v.isNothing = false)
    (shapeless : ∀ members, v ≠ .object members) :
    declaredOf v = .error (.defect (.noTextFunction v "items")) := by
  unfold declaredOf
  rw [something]
  cases v with
  | object members => exact absurd rfl (shapeless members)
  | list items => rfl
  | atom a => rfl

section

variable {fields : List (Atom × Value)}

def memberIn (fields : List (Atom × Value)) (k : String) : Value :=
  (fields.lookup (.text k)).getD .null

def timestampIn (fields : List (Atom × Value)) : Except Failure Int := do
  (← (Value.object fields).member "timestamp").toInteger

theorem ofValue_object (fields : List (Atom × Value)) : ofValue (.object fields) = do
    let r ← front (.object fields)
    let timestamp ← timestampIn fields
    let replace ← (memberIn fields "replace").entries
    let doc ← docOf (memberIn fields "doc")
    let declared ← declaredOf (memberIn fields "spec_params")
    return { r with timestamp, replace, doc, declared } := by
  simp only [ofValue, front, docOf, timestampIn, bind_assoc, pure_bind]
  rfl

theorem reads_iff : (∃ r, ofValue (.object fields) = .ok r) ↔
    (∃ r, front (.object fields) = .ok r) ∧ (∃ t, timestampIn fields = .ok t) ∧
      (∃ es, (memberIn fields "replace").entries = .ok es) ∧
      (∃ d, docOf (memberIn fields "doc") = .ok d) ∧
      ∃ ds, declaredOf (memberIn fields "spec_params") = .ok ds := by
  simp only [ofValue_object, bind_eq_ok]
  constructor
  · rintro ⟨r, r₀, front, t, time, es, entries, d, doc, ds, declared, -⟩
    exact ⟨⟨r₀, front⟩, ⟨t, time⟩, ⟨es, entries⟩, ⟨d, doc⟩, ds, declared⟩
  · rintro ⟨⟨r₀, front⟩, ⟨t, time⟩, ⟨es, entries⟩, ⟨d, doc⟩, ds, declared⟩
    exact ⟨_, r₀, front, t, time, es, entries, d, doc, ds, declared, rfl⟩

/-- The first part of a record that fails decides how the record fails. -/
theorem ofValue_eq_error_iff {e : Failure} : ofValue (.object fields) = .error e ↔
    front (.object fields) = .error e ∨
    (∃ r, front (.object fields) = .ok r) ∧ (timestampIn fields = .error e ∨
      (∃ t, timestampIn fields = .ok t) ∧ ((memberIn fields "replace").entries = .error e ∨
        (∃ es, (memberIn fields "replace").entries = .ok es) ∧
          (docOf (memberIn fields "doc") = .error e ∨
            (∃ d, docOf (memberIn fields "doc") = .ok d) ∧
              declaredOf (memberIn fields "spec_params") = .error e))) := by
  simp only [ofValue_object, bind_eq_error]
  constructor
  · rintro (front | ⟨r, front, time | ⟨t, time, entries | ⟨es, entries, doc | ⟨d, doc, declared |
      ⟨ds, declared, last⟩⟩⟩⟩⟩)
    · exact .inl front
    · exact .inr ⟨⟨r, front⟩, .inl time⟩
    · exact .inr ⟨⟨r, front⟩, .inr ⟨⟨t, time⟩, .inl entries⟩⟩
    · exact .inr ⟨⟨r, front⟩, .inr ⟨⟨t, time⟩, .inr ⟨⟨es, entries⟩, .inl doc⟩⟩⟩
    · exact .inr ⟨⟨r, front⟩, .inr ⟨⟨t, time⟩, .inr ⟨⟨es, entries⟩, .inr ⟨⟨d, doc⟩, declared⟩⟩⟩⟩
    · cases last
  · rintro (front | ⟨⟨r, front⟩, time | ⟨⟨t, time⟩, entries | ⟨⟨es, entries⟩, doc | ⟨⟨d, doc⟩,
      declared⟩⟩⟩⟩)
    · exact .inl front
    · exact .inr ⟨r, front, .inl time⟩
    · exact .inr ⟨r, front, .inr ⟨t, time, .inl entries⟩⟩
    · exact .inr ⟨r, front, .inr ⟨t, time, .inr ⟨es, entries, .inl doc⟩⟩⟩
    · exact .inr ⟨r, front, .inr ⟨t, time, .inr ⟨es, entries, .inr ⟨d, doc, .inl declared⟩⟩⟩⟩

theorem front_congr {others : List (Atom × Value)}
    (same : ∀ k ∈ ["designation", "table_name", "columns", "routine_name", "routine_type",
      "parameters", "fields", "column_types"],
      others.lookup (.text k) = fields.lookup (.text k)) :
    front (.object others) = front (.object fields) := by
  simp only [front, Value.member, Value.memberOr, List.forall_mem_cons] at same ⊢
  obtain ⟨designation, table, columns, name, type, parameters, own, types, -⟩ := same
  rw [designation, table, columns, name, type, parameters, own, types]

/-- A record in a value that fails in a way that nothing provides for, and the defect that shows.
The record reads but for the member that is to blame and those that are looked at after it. -/
inductive Unprovided : Value → Defect → Prop
  /-- The timestamp is a number beyond all bounds. -/
  | timestamp {fields : List (Atom × Value)} {negative : Bool} {r : BuildRecord}
      (given : fields.lookup (.text "timestamp") = some (.real (.infinite negative)))
      (otherwise : ofValue (.object (Assoc.putAll fields [(.text "timestamp", .int 0),
        (.text "replace", .null), (.text "doc", .null), (.text "spec_params", .null)])) = .ok r) :
      Unprovided (.object fields) (.tooLarge "cannot convert float infinity to integer")
  /-- The documentation is something that has no members. -/
  | doc {fields : List (Atom × Value)} {v : Value} {r : BuildRecord}
      (given : fields.lookup (.text "doc") = some v) (something : v.isNothing = false)
      (shapeless : ∀ members, v ≠ .object members)
      (otherwise : ofValue (.object (Assoc.putAll fields [(.text "doc", .null),
        (.text "spec_params", .null)])) = .ok r) :
      Unprovided (.object fields) (.noTextFunction v "get")
  /-- The declared parameters are something that has no members. -/
  | declared {fields : List (Atom × Value)} {v : Value} {r : BuildRecord}
      (given : fields.lookup (.text "spec_params") = some v) (something : v.isNothing = false)
      (shapeless : ∀ members, v ≠ .object members)
      (otherwise : ofValue (.object (Assoc.putAll fields [(.text "spec_params", .null)])) = .ok r) :
      Unprovided (.object fields) (.noTextFunction v "items")

theorem memberIn_of_something {k : String} (something : (memberIn fields k).isNothing = false) :
    fields.lookup (.text k) = some (memberIn fields k) := by
  unfold memberIn at something ⊢
  cases found : fields.lookup (.text k) with
  | none =>
    rw [found] at something
    cases something
  | some v => rfl

theorem memberIn_of_lookup {k : String} {v : Value} (given : fields.lookup (.text k) = some v) :
    memberIn fields k = v := by
  rw [memberIn, given]
  rfl

theorem front_putAll {late : List (Atom × Value)}
    (names : ∀ e ∈ late, e.1 ∈ [Atom.text "timestamp", .text "replace", .text "doc",
      .text "spec_params"]) :
    front (.object (Assoc.putAll fields late)) = front (.object fields) := by
  apply front_congr
  intro k early
  have absent : late.reverse.lookup (.text k) = none := by
    rw [Assoc.lookup_eq_none_iff]
    intro member
    obtain ⟨e, place, same⟩ := List.mem_map.1 member
    have late := names e (List.mem_reverse.1 place)
    rw [same] at late
    simp only [List.mem_cons, List.not_mem_nil, or_false] at early
    rcases early with rfl | rfl | rfl | rfl | rfl | rfl | rfl | rfl <;> simp at late
  rw [Assoc.lookup_putAll, absent, Option.none_or]

theorem reads_without_timestamp :
    (∃ r, ofValue (.object (Assoc.putAll fields [(.text "timestamp", .int 0),
      (.text "replace", .null), (.text "doc", .null), (.text "spec_params", .null)])) = .ok r) ↔
      ∃ r, front (.object fields) = .ok r := by
  rw [reads_iff, front_putAll (by simp)]
  simp only [timestampIn, memberIn, Value.member, Assoc.lookup_putAll]
  constructor
  · rintro ⟨front, -⟩
    exact front
  · intro front
    exact ⟨front, ⟨0, rfl⟩, ⟨[], rfl⟩, ⟨{}, rfl⟩, [], rfl⟩

theorem reads_without_doc :
    (∃ r, ofValue (.object (Assoc.putAll fields [(.text "doc", .null),
      (.text "spec_params", .null)])) = .ok r) ↔
      (∃ r, front (.object fields) = .ok r) ∧ (∃ t, timestampIn fields = .ok t) ∧
        ∃ es, (memberIn fields "replace").entries = .ok es := by
  rw [reads_iff, front_putAll (by simp)]
  simp only [timestampIn, memberIn, Value.member, Assoc.lookup_putAll]
  constructor
  · rintro ⟨front, time, entries, -⟩
    exact ⟨front, time, entries⟩
  · rintro ⟨front, time, entries⟩
    exact ⟨front, time, entries, ⟨{}, rfl⟩, [], rfl⟩

theorem reads_without_declared :
    (∃ r, ofValue (.object (Assoc.putAll fields [(.text "spec_params", .null)])) = .ok r) ↔
      (∃ r, front (.object fields) = .ok r) ∧ (∃ t, timestampIn fields = .ok t) ∧
        (∃ es, (memberIn fields "replace").entries = .ok es) ∧
          ∃ d, docOf (memberIn fields "doc") = .ok d := by
  rw [reads_iff, front_putAll (by simp)]
  simp only [timestampIn, memberIn, Value.member, Assoc.lookup_putAll]
  constructor
  · rintro ⟨front, time, entries, doc, -⟩
    exact ⟨front, time, entries, doc⟩
  · rintro ⟨front, time, entries, doc⟩
    exact ⟨front, time, entries, doc, [], rfl⟩

theorem timestampIn_eq_error {e : Failure} (failed : timestampIn fields = .error e) :
    e.MakesMalformed ∨
      ∃ negative, fields.lookup (.text "timestamp") = some (.real (.infinite negative)) ∧
        e = .defect (.tooLarge "cannot convert float infinity to integer") := by
  simp only [timestampIn, Value.member] at failed
  cases given : fields.lookup (.text "timestamp") with
  | none =>
    rw [given] at failed
    cases failed
    exact .inl trivial
  | some v =>
    rw [given] at failed
    rcases Value.toInteger_eq_error failed with bad | ⟨negative, rfl, same⟩
    · exact .inl bad
    · exact .inr ⟨negative, rfl, same⟩

/-- A record fails in a way that nothing provides for just if it is one of the three that do. -/
theorem unprovided_iff {v : Value} {e : Failure} :
    ofValue v = .error e ∧ ¬ e.MakesMalformed ↔ ∃ d, Unprovided v d ∧ e = .defect d := by
  constructor
  · rintro ⟨failed, unforeseen⟩
    obtain ⟨fields, rfl⟩ : ∃ fields, v = .object fields := by
      rcases bind_eq_error.1 failed with missing | ⟨x, found, -⟩
      · exact absurd (Value.foreseen_member _ _ e missing) unforeseen
      · exact Value.object_of_member found
    -- The member that fails is the first one in the order of reading, so those before it are fine.
    rcases ofValue_eq_error_iff.1 failed with front | ⟨front, time | ⟨time, entries | ⟨entries, doc |
      ⟨doc, declared⟩⟩⟩⟩
    · exact absurd (foreseen_front _ e front) unforeseen
    · obtain bad | ⟨negative, given, rfl⟩ := timestampIn_eq_error time
      · exact absurd bad unforeseen
      obtain ⟨r, reads⟩ := reads_without_timestamp.2 front
      exact ⟨_, .timestamp given reads, rfl⟩
    · exact absurd (Value.foreseen_entries _ e entries) unforeseen
    · obtain bad | ⟨something, shapeless, rfl⟩ := docOf_eq_error doc
      · exact absurd bad unforeseen
      obtain ⟨r, reads⟩ := reads_without_doc.2 ⟨front, time, entries⟩
      exact ⟨_, .doc (memberIn_of_something something) something shapeless reads, rfl⟩
    · obtain bad | ⟨something, shapeless, rfl⟩ := declaredOf_eq_error declared
      · exact absurd bad unforeseen
      obtain ⟨r, reads⟩ := reads_without_declared.2 ⟨front, time, entries, doc⟩
      exact ⟨_, .declared (memberIn_of_something something) something shapeless reads, rfl⟩
  · rintro ⟨d, unprovided, rfl⟩
    cases unprovided with
    | timestamp given otherwise =>
      have front := reads_without_timestamp.1 ⟨_, otherwise⟩
      refine ⟨ofValue_eq_error_iff.2 (.inr ⟨front, .inl ?_⟩), id⟩
      simp [timestampIn, Value.member, given, Value.toInteger, Number.Double.wholePart, bind,
        Except.bind]
    | doc given something shapeless otherwise =>
      obtain ⟨front, time, entries⟩ := reads_without_doc.1 ⟨_, otherwise⟩
      refine ⟨ofValue_eq_error_iff.2 (.inr ⟨front, .inr ⟨time, .inr ⟨entries, .inl ?_⟩⟩⟩), id⟩
      rw [memberIn_of_lookup given]
      exact docOf_of_shapeless something shapeless
    | declared given something shapeless otherwise =>
      obtain ⟨front, time, entries, doc⟩ := reads_without_declared.1 ⟨_, otherwise⟩
      refine ⟨ofValue_eq_error_iff.2 (.inr ⟨front, .inr ⟨time, .inr ⟨entries, .inr ⟨doc, ?_⟩⟩⟩⟩), id⟩
      rw [memberIn_of_lookup given]
      exact declaredOf_of_shapeless something shapeless

end

end BuildRecord

/-- The failure tells that the store cannot be read or written. -/
def Failure.IsOfStore : Failure → Prop
  | .error e => e.kind = .metadata
  | .defect _ => False

namespace RecordStore

variable {p : Path}

theorem recordFailure_of_malformed {e : Failure} (h : e.MakesMalformed) :
    (recordFailure p e).IsOfStore := by
  unfold Failure.MakesMalformed at h
  split at h
  · rfl
  · rfl
  · rfl
  · exact h.elim

theorem recordFailure_of_unforeseen {e : Failure} (h : ¬ e.MakesMalformed) :
    recordFailure p e = e := by
  unfold recordFailure
  split
  · exact absurd trivial h
  · exact absurd trivial h
  · exact absurd trivial h
  · rfl

theorem ofValue_fails_beyond {v : Value} {e : Failure} :
    ofValue p v = .error e ∧ ¬ e.IsOfStore ↔
      ∃ before name r after d, v = .object (before ++ (name, r) :: after) ∧
        (∀ b ∈ before, ∃ record, BuildRecord.ofValue b.2 = .ok record) ∧
        BuildRecord.Unprovided r d ∧ e = .defect d := by
  constructor
  · rintro ⟨failed, beyond⟩
    unfold ofValue at failed
    split at failed
    · rename_i fields
      obtain ⟨e', records, rfl⟩ := mapError_eq_error.1 failed
      obtain ⟨before, ⟨name, r⟩, after, rfl, fine, record⟩ := mapM_eq_error.1 records
      have unforeseen : ¬ e'.MakesMalformed := fun h => beyond (recordFailure_of_malformed h)
      obtain ⟨d, unprovided, rfl⟩ :=
        BuildRecord.unprovided_iff.1 ⟨map_eq_error.1 record, unforeseen⟩
      refine ⟨before, name, r, after, d, rfl, ?_, unprovided, recordFailure_of_unforeseen unforeseen⟩
      intro b member
      obtain ⟨entry, read⟩ := fine b member
      obtain ⟨record, read, -⟩ := map_eq_ok.1 read
      exact ⟨record, read⟩
    · cases failed
      exact absurd rfl beyond
  · rintro ⟨before, name, r, after, d, rfl, fine, unprovided, rfl⟩
    obtain ⟨failed, unforeseen⟩ := BuildRecord.unprovided_iff.2 ⟨d, unprovided, rfl⟩
    refine ⟨?_, id⟩
    refine mapError_eq_error.2 ⟨.defect d, ?_, recordFailure_of_unforeseen unforeseen⟩
    refine mapM_eq_error.2 ⟨before, (name, r), after, rfl, ?_, map_eq_error.2 failed⟩
    intro b member
    obtain ⟨record, read⟩ := fine b member
    exact ⟨(b.1, record), map_eq_ok.2 ⟨record, read, rfl⟩⟩

/-- The content is nested deeper than a value may be. -/
def TooDeep (content : ByteArray) : Prop :=
  ∃ s, Text.decode content = .ok s ∧
    Json.parseWithin maxDepth (Text.withUnifiedLineEnds s) = .error .tooDeep

/-- The value that the content writes. -/
def Writes (content : ByteArray) (v : Value) : Prop :=
  ∃ s, Text.decode content = .ok s ∧
    Json.parseWithin maxDepth (Text.withUnifiedLineEnds s) = .ok v

theorem ofBytes_fails_beyond {content : ByteArray} {e : Failure} :
    ofBytes p content = .error e ∧ ¬ e.IsOfStore ↔
      TooDeep content ∧ e = .defect .tooDeep ∨
      ∃ v, Writes content v ∧ ofValue p v = .error e ∧ ¬ e.IsOfStore := by
  constructor
  · rintro ⟨failed, beyond⟩
    unfold ofBytes at failed
    split at failed
    · cases failed
      exact absurd rfl beyond
    · rename_i s decoded
      split at failed
      · cases failed
        exact absurd rfl beyond
      · rename_i deep
        cases failed
        exact .inl ⟨⟨s, decoded, deep⟩, rfl⟩
      · rename_i v parsed
        exact .inr ⟨v, ⟨s, decoded, parsed⟩, failed, beyond⟩
  · rintro (⟨⟨s, decoded, deep⟩, rfl⟩ | ⟨v, ⟨s, decoded, parsed⟩, failed, beyond⟩)
    · refine ⟨?_, id⟩
      simp only [ofBytes, decoded, deep]
    · refine ⟨?_, beyond⟩
      simp only [ofBytes, decoded, parsed, failed]

theorem run_read (p : Path) (w : World) : (read p).run w = (load w.files p, w) := by
  rw [read, Loader.run_bind_of_ok (Loader.run_getFiles w), Loader.run_ofExcept]

theorem load_of_opened {fs : FileSystem} {f : File} (opened : fs.read p = .ok f) :
    load fs p = ofBytes p f.content := by
  have found : fs.find? p = .ok (some (.file f)) := by
    unfold FileSystem.read at opened
    unfold FileSystem.find?
    split at opened
    · rename_i file there
      cases opened
      rw [there]
    all_goals cases opened
  simp only [load, found, opened]

/-- Reading a store whose file can be opened fails with anything but an error of the store just if
the file is nested too deep, or the first record that fails does so in one of the three ways that
nothing provides for. -/
theorem read_fails_beyond_store_iff {w v : World} {f : File} (opened : w.files.read p = .ok f)
    {e : Failure} :
    (read p).run w = (.error e, v) ∧ ¬ e.IsOfStore ↔
      v = w ∧ (TooDeep f.content ∧ e = .defect .tooDeep ∨
        ∃ before name r after d, Writes f.content (.object (before ++ (name, r) :: after)) ∧
          (∀ b ∈ before, ∃ record, BuildRecord.ofValue b.2 = .ok record) ∧
          BuildRecord.Unprovided r d ∧ e = .defect d) := by
  have run : (read p).run w = (ofBytes p f.content, w) := by rw [run_read, load_of_opened opened]
  rw [run]
  constructor
  · rintro ⟨same, beyond⟩
    obtain ⟨failed, rfl⟩ := Prod.mk.inj same
    refine ⟨rfl, ?_⟩
    rcases ofBytes_fails_beyond.1 ⟨failed, beyond⟩ with deep | ⟨v, writes, failed⟩
    · exact .inl deep
    · obtain ⟨before, name, r, after, d, rfl, rest⟩ := ofValue_fails_beyond.1 failed
      exact .inr ⟨before, name, r, after, d, writes, rest⟩
  · rintro ⟨rfl, deep | ⟨before, name, r, after, d, writes, rest⟩⟩
    · obtain ⟨failed, beyond⟩ := ofBytes_fails_beyond.2 (.inl deep)
      exact ⟨by rw [failed], beyond⟩
    · obtain ⟨failed, beyond⟩ :=
        ofValue_fails_beyond.2 ⟨before, name, r, after, d, rfl, rest⟩
      obtain ⟨failed, -⟩ := ofBytes_fails_beyond.2 (.inr ⟨_, writes, failed, beyond⟩)
      exact ⟨by rw [failed], beyond⟩

end RecordStore

namespace Sample

def misdocumented : String :=
  "\x7b\"a\": \x7b\"designation\": \"rows\", \"routine_name\": \"a\", \"timestamp\": 0, " ++
    "\"doc\": 5\x7d\x7d"

def misdocumentedFields : List (Atom × Value) :=
  [("designation", .text "rows"), ("routine_name", .text "a"), ("timestamp", .int 0),
    ("doc", .int 5)]

def misdocumentedWorld : World := { files := ⟨[(["s.json"], .file ⟨misdocumented.toUTF8, 0⟩)], []⟩ }

theorem writes_misdocumented :
    RecordStore.Writes misdocumented.toUTF8 (.object [("a", .object misdocumentedFields)]) := by
  refine ⟨misdocumented, Text.decode_toUTF8 _, ?_⟩
  decide +kernel

theorem unprovided_misdocumented : BuildRecord.Unprovided (.object misdocumentedFields)
    (.noTextFunction (.int 5) "get") :=
  .doc rfl rfl (by simp) rfl

theorem load_misdocumented : RecordStore.load misdocumentedWorld.files ⟨"/", ["s.json"]⟩ =
    .error (.defect (.noTextFunction (.int 5) "get")) := by
  have opened : misdocumentedWorld.files.read ⟨"/", ["s.json"]⟩ = .ok ⟨misdocumented.toUTF8, 0⟩ :=
    rfl
  obtain ⟨failed, beyond⟩ := RecordStore.ofValue_fails_beyond.2
    ⟨[], _, _, [], _, rfl, by simp, unprovided_misdocumented, rfl⟩
  obtain ⟨failed, -⟩ :=
    RecordStore.ofBytes_fails_beyond.2 (.inr ⟨_, writes_misdocumented, failed, beyond⟩)
  rw [RecordStore.load_of_opened opened, failed]

end Sample

theorem misdocumented_store_escapes :
    Sample.misdocumentedWorld.files.read ⟨"/", ["s.json"]⟩ = .ok ⟨Sample.misdocumented.toUTF8, 0⟩ ∧
      (RecordStore.read ⟨"/", ["s.json"]⟩).run Sample.misdocumentedWorld =
        (.error (.defect (.noTextFunction (.int 5) "get")), Sample.misdocumentedWorld) := by
  refine ⟨rfl, ?_⟩
  refine ((RecordStore.read_fails_beyond_store_iff rfl).2 ⟨rfl, .inr ?_⟩).1
  exact ⟨[], _, _, [], _, Sample.writes_misdocumented, by simp, Sample.unprovided_misdocumented, rfl⟩

/-- Not every store whose file can be opened is read or refused with an error of the store. -/
theorem store_neither_read_nor_refused : ¬ ∀ (w : World) (p : Path) (f : File),
    w.files.read p = .ok f →
      (∃ store, (RecordStore.read p).run w = (.ok store, w)) ∨
        ∃ e, (RecordStore.read p).run w = (.error e, w) ∧ e.IsOfStore := by
  intro claimed
  have run : (RecordStore.read ⟨"/", ["s.json"]⟩).run Sample.misdocumentedWorld =
      (.error (.defect (.noTextFunction (.int 5) "get")), Sample.misdocumentedWorld) := by
    rw [RecordStore.run_read, Sample.load_misdocumented]
  rcases claimed Sample.misdocumentedWorld ⟨"/", ["s.json"]⟩ _ rfl with ⟨store, ended⟩ |
    ⟨e, ended, refused⟩
  · rw [run] at ended
    cases ended
  · rw [run] at ended
    cases ended
    exact refused

end StoredRoutines
