import Mathlib.Data.List.Basic
import StoredRoutines.Proofs.JsonNumbers
import StoredRoutines.Proofs.JsonStrings
import StoredRoutines.Proofs.KeyOrder
import StoredRoutines.Proofs.Tables

/-!
Values written and read back. The reader gives back what was written, with the members of each
object in the order of their names, as long as names are texts and no two of one object are the same.
-/

namespace StoredRoutines

open Text

/-- The reader gives the atom back as it was written. A byte string is not written at all. -/
def Atom.Readable : Atom → Prop
  | .broken points => Json.Sound points ∧ points.any Atom.isSurrogate = true
  | _ => True

/-- The atom is written, and read again as itself. -/
structure Atom.Storable (a : Atom) : Prop where
  readable : a.Readable
  noBytes : a.isBytes = false
  short : Json.isTooLong a = false

namespace Atom

theorem readable_ofPoints {points : List Nat} (sound : Json.Sound points) :
    (ofPoints points).Readable := by
  unfold ofPoints
  split
  · rename_i surrogate
    exact ⟨sound, surrogate⟩
  · trivial

theorem Readable.sound_displayPoints {a : Atom} (h : a.Readable) : Json.Sound a.displayPoints := by
  cases a with
  | broken points => exact h.1
  | _ => exact Json.sound_text _

/-- The text that the atom is as the name of a member. -/
def spelled (a : Atom) : Atom :=
  if a.isText then a else .text (String.ofList (Json.literal a))

theorem spelled_of_text {a : Atom} (text : a.isText = true) : a.spelled = a := if_pos text

theorem isText_spelled (a : Atom) : a.spelled.isText = true := by
  unfold spelled
  split
  · assumption
  · rfl

theorem Readable.spelled {a : Atom} (h : a.Readable) : a.spelled.Readable := by
  unfold Atom.spelled
  split
  · exact h
  · trivial

end Atom

namespace Value

/-- The value has no more than some levels of nesting, and the reader can give it back: its atoms are
readable, and its members have distinct texts as names. -/
inductive Readable : Nat → Value → Prop
  | atom {depth : Nat} {a : Atom} (readable : a.Readable) : Readable depth (.atom a)
  | list {depth : Nat} {items : List Value} (each : ∀ v ∈ items, Readable depth v) :
      Readable (depth + 1) (.list items)
  | object {depth : Nat} {fields : List (Atom × Value)}
      (names : ∀ e ∈ fields, e.1.isText = true ∧ e.1.Readable)
      (distinct : (Assoc.keys fields).Nodup) (each : ∀ e ∈ fields, Readable depth e.2) :
      Readable (depth + 1) (.object fields)

mutual

/-- The value with the members of each object in the order of their names. -/
def sorted : Value → Value
  | .atom a => .atom a
  | .list items => .list (sortedItems items)
  | .object fields => .object (Atom.ordered (sortedFields fields))

def sortedItems : List Value → List Value
  | [] => []
  | v :: vs => sorted v :: sortedItems vs

def sortedFields : List (Atom × Value) → List (Atom × Value)
  | [] => []
  | (k, v) :: fs => (k, sorted v) :: sortedFields fs

end

theorem sortedItems_eq (items : List Value) : sortedItems items = items.map sorted := by
  induction items with
  | nil => rfl
  | cons v vs ih => rw [sortedItems, List.map_cons, ih]

theorem sortedFields_eq (fields : List (Atom × Value)) :
    sortedFields fields = fields.map fun e => (e.1, e.2.sorted) := by
  induction fields with
  | nil => rfl
  | cons e es ih => rw [sortedFields, List.map_cons, ih]

mutual

/-- Nothing in the value stops the writer: its atoms have a JSON form, and its names are texts. -/
def isWritable : Value → Bool
  | .atom a => !a.isBytes && !Json.isTooLong a
  | .list items => areWritable items
  | .object fields => haveWritable fields

def areWritable : List Value → Bool
  | [] => true
  | v :: vs => v.isWritable && areWritable vs

def haveWritable : List (Atom × Value) → Bool
  | [] => true
  | (k, v) :: fs => k.isText && v.isWritable && haveWritable fs

end

end Value

namespace Json

theorem writtenItems_eq (level : Nat) (items : List Value) :
    writtenItems level items = items.map (written level) := by
  induction items with
  | nil => rfl
  | cons v vs ih => rw [writtenItems, List.map_cons, ih]

theorem writtenFields_eq (level : Nat) (fields : List (Atom × Value)) :
    writtenFields level fields = fields.map fun e => (e.1, written level e.2) := by
  induction fields with
  | nil => rfl
  | cons e es ih => rw [writtenFields, List.map_cons, ih]

namespace Output

@[simp] theorem failure_append {a b : Output} :
    (a ++ b).failure = none ↔ a.failure = none ∧ b.failure = none := by
  change (append a b).failure = none ↔ _
  unfold append
  cases failed : a.failure <;> simp [failed]

theorem characters_append {a : Output} (complete : a.failure = none) (b : Output) :
    (a ++ b).characters = a.characters ++ b.characters := by
  change (append a b).characters = _
  rw [append, complete]

theorem failure_joined (separator : List Char) {os : List Output} :
    (joined separator os).failure = none ↔ ∀ o ∈ os, o.failure = none := by
  induction os with
  | nil => simp [joined]
  | cons o os ih =>
    cases os with
    | nil => simp [joined]
    | cons p os =>
      rw [joined, failure_append, failure_append, ih]
      · simp
      · simp

theorem characters_joined {separator : List Char} {os : List Output}
    (complete : ∀ o ∈ os, o.failure = none) : (joined separator os).characters =
      List.intercalate separator (os.map Output.characters) := by
  induction os with
  | nil => rfl
  | cons o os ih =>
    cases os with
    | nil => simp [joined]
    | cons p os =>
      have first : o.failure = none := complete o (by simp)
      have tail := ih (fun q member => complete q (List.mem_cons_of_mem _ member))
      have front : (o ++ (separator : Output)).failure = none := by simp [first]
      rw [joined, characters_append front, characters_append first, tail]
      · simp [List.intercalate]
      · simp

end Output

theorem enclosed_nil (opening closing : Char) (level : Nat) :
    enclosed opening closing level [] = ⟨[opening, closing], none⟩ := rfl

theorem failure_enclosed {opening closing : Char} {level : Nat} {os : List Output} :
    (enclosed opening closing level os).failure = none ↔ ∀ o ∈ os, o.failure = none := by
  cases os with
  | nil => simp [enclosed_nil]
  | cons o os =>
    rw [enclosed, if_neg (by simp), Output.failure_append, Output.failure_append,
      Output.failure_joined]
    simp

theorem characters_enclosed {opening closing : Char} {level : Nat} {os : List Output}
    (some : os ≠ []) (complete : ∀ o ∈ os, o.failure = none) :
    (enclosed opening closing level os).characters = opening :: newLine (level + 1) ++
      (List.intercalate (',' :: newLine (level + 1)) (os.map Output.characters) ++
        (newLine level ++ [closing])) := by
  have inner := (Output.failure_joined (',' :: newLine (level + 1))).2 complete
  rw [enclosed, if_neg (by simpa using some), Output.append_of_complete,
    Output.characters_append inner, Output.characters_joined complete]

theorem skipBlanks_newLine {c : Char} (visible : isJsonBlank c = false) (level : Nat)
    (rest : List Char) : skipBlanks (newLine level ++ c :: rest) = c :: rest := by
  have blanks : ∀ b ∈ newLine level, isJsonBlank b = true := by
    intro b member
    rcases List.mem_cons.1 member with rfl | space
    · decide
    · rw [List.eq_of_mem_replicate space]
      decide
  rw [skipBlanks, List.dropWhile_append_of_pos blanks, List.dropWhile_cons_of_neg (by simp [visible])]

theorem writtenAtom_text {a : Atom} (text : a.isText = true) :
    writtenAtom a = ⟨writtenString a.points, none⟩ := by
  cases a <;> first | rfl | cases text

theorem writtenKey_eq {a : Atom} (noBytes : a.isBytes = false) (short : isTooLong a = false) :
    writtenKey a = ⟨writtenString a.spelled.points ++ [':', ' '], none⟩ := by
  have same : (if a.isText then a.points else (literal a).map Char.toNat) = a.spelled.points := by
    unfold Atom.spelled
    split
    · rfl
    · simp [Atom.points]
  rw [writtenKey, noBytes, short, same]
  rfl

theorem string?_readable {a : Atom} (text : a.isText = true) (readable : a.Readable)
    (rest : List Char) :
    string? (a.points.flatMap writtenPoint ++ '"' :: rest) = some (a, rest) := by
  cases a with
  | text s =>
    have read := string?_written (sound_text s) rest
    rwa [Atom.ofPoints_text] at read
  | broken points =>
    obtain ⟨sound, surrogate⟩ := readable
    have read := string?_written sound rest
    rwa [Atom.ofPoints, if_pos surrogate] at read
  | _ => cases text

theorem literal_finite (negative : Bool) (place : Fin Number.magnitudes) :
    literal (.real (.finite negative place)) =
      Number.signChars negative ++ Number.Double.magnitudeChars place :=
  String.toList_ofList

theorem wordOrNumber_literal {a : Atom} (text : a.isText = false)
    (complete : (writtenAtom a).failure = none) :
    (writtenAtom a).characters = literal a ∧
      (wordValue? (literal a)).or (number? (literal a)) = some (.atom a, []) := by
  cases a with
  | null => exact ⟨rfl, rfl⟩
  | bool b => cases b <;> exact ⟨rfl, rfl⟩
  | int n =>
    have short : (Nat.toDigits 10 n.natAbs).length ≤ maxDigits := by
      by_contra long
      have tooLong : isTooLong (.int n) = true := by
        simpa [isTooLong] using long
      have refused : writtenAtom (.int n) = .refused tooManyDigits := by
        simp [writtenAtom, Atom.isBytes, tooLong]
      rw [refused] at complete
      cases complete
    have fine : isTooLong (.int n) = false := by simpa [isTooLong] using short
    refine ⟨by simp [writtenAtom, Atom.isBytes, Atom.isText, fine], ?_⟩
    exact wordOrNumber_of_number? (number?_int short)
  | real x =>
    refine ⟨rfl, ?_⟩
    cases x with
    | finite negative place =>
      rw [literal_finite]
      exact wordOrNumber_of_number? (number?_finite negative place)
    | infinite negative => cases negative <;> rfl
    | notANumber => rfl
  | text s => cases text
  | broken points => cases text
  | bytes b => cases complete

theorem value_atom {a : Atom} (readable : a.Readable) (complete : (writtenAtom a).failure = none)
    {rest : List Char} (ends : EndsNumber rest) (fuel depth : Nat) :
    value (fuel + 1) depth ((writtenAtom a).characters ++ rest) = .ok (.atom a, rest) := by
  by_cases text : a.isText = true
  · rw [writtenAtom_text text]
    simp only [writtenString, List.cons_append, List.append_assoc, List.nil_append, value,
      string?_readable text readable]
    rfl
  · obtain ⟨same, read⟩ := wordOrNumber_literal (by simpa using text) complete
    rw [same]
    exact value_of_wordOrNumber (wordOrNumber_append read ends) fuel depth

def Starts (s : List Char) : Prop :=
  ∃ c rest, s = c :: rest ∧ isJsonBlank c = false ∧ c ≠ ']'

theorem starts_atom {a : Atom} (complete : (writtenAtom a).failure = none) :
    Starts (writtenAtom a).characters := by
  by_cases text : a.isText = true
  · rw [writtenAtom_text text]
    exact ⟨_, _, rfl, by decide, by decide⟩
  · obtain ⟨same, read⟩ := wordOrNumber_literal (by simpa using text) complete
    obtain ⟨c, rest, head, -, -, -, bracket, blank⟩ := head_of_wordOrNumber read
    exact ⟨c, rest, by rw [same, head], blank, bracket⟩

theorem starts_enclosed {opening closing : Char} (visible : isJsonBlank opening = false)
    (bracket : opening ≠ ']') {level : Nat} {os : List Output} :
    Starts (enclosed opening closing level os).characters := by
  cases os with
  | nil => exact ⟨_, _, rfl, visible, bracket⟩
  | cons o os =>
    rw [enclosed, if_neg (by simp), Output.append_of_complete]
    exact ⟨_, _, rfl, visible, bracket⟩

def writtenMembers (level : Nat) (fields : List (Atom × Value)) : List Output :=
  (Atom.ordered fields).map fun e => writtenKey e.1 ++ written level e.2

theorem written_object_of_comparable {fields : List (Atom × Value)}
    (comparable : Atom.areComparable (fields.map (·.1)) = true) (level : Nat) :
    written level (.object fields) =
      enclosed '\x7b' '\x7d' level (writtenMembers (level + 1) fields) := by
  have keys : (writtenFields (level + 1) fields).map (·.1) = fields.map (·.1) := by
    rw [writtenFields_eq, List.map_map]
    rfl
  have sorted : Atom.sortEntries (writtenFields (level + 1) fields) =
      .ok ((Atom.ordered fields).map fun e => (e.1, written (level + 1) e.2)) := by
    rw [Atom.sortEntries_of_comparable (by rwa [keys]), writtenFields_eq, Atom.ordered_map]
  rw [written, enclosedMembers, sorted]
  simp only [List.map_map, writtenMembers]
  rfl

theorem written_object {fields : List (Atom × Value)} (names : ∀ e ∈ fields, e.1.isText = true)
    (level : Nat) : written level (.object fields) =
      enclosed '\x7b' '\x7d' level (writtenMembers (level + 1) fields) :=
  written_object_of_comparable (Atom.comparable_of_texts names) level

theorem failure_of_incomparable {fields : List (Atom × Value)}
    (apart : Atom.areComparable (fields.map (·.1)) = false) (level : Nat) :
    (written level (.object fields)).failure = some Atom.unordered := by
  have keys : (writtenFields (level + 1) fields).map (·.1) = fields.map (·.1) := by
    rw [writtenFields_eq, List.map_map]
    rfl
  have refused : Atom.sortEntries (writtenFields (level + 1) fields) = .error Atom.unordered := by
    rw [Atom.sortEntries, keys, apart]
    rfl
  rw [written, enclosedMembers, refused]
  rfl

theorem written_ordered {fields : List (Atom × Value)} (names : ∀ e ∈ fields, e.1.isText = true)
    (level : Nat) : written level (.object (Atom.ordered fields)) = written level (.object fields) := by
  rw [written_object names, written_object fun e member => names e (Atom.mem_ordered.1 member),
    writtenMembers, writtenMembers, Atom.ordered_ordered names]

theorem written_congr {level : Nat} {fields fields' : List (Atom × Value)}
    (same : (fields.map fun e => (e.1, written (level + 1) e.2)) =
      fields'.map fun e => (e.1, written (level + 1) e.2)) :
    written level (.object fields) = written level (.object fields') := by
  rw [written, written, writtenFields_eq, writtenFields_eq, same]

theorem starts_written {depth level : Nat} {v : Value} (readable : v.Readable depth)
    (complete : (written level v).failure = none) : Starts (written level v).characters := by
  cases readable with
  | atom readable => exact starts_atom complete
  | list each => exact starts_enclosed (by decide) (by decide)
  | object names distinct each =>
    rw [written_object fun e member => (names e member).1]
    exact starts_enclosed (by decide) (by decide)

/-- A value that was written so reads as another one, in front of anything that ends it. -/
def ReadsAs (level depth : Nat) (v u : Value) : Prop :=
  ∀ fuel rest, 2 * (written level v).characters.length ≤ fuel → EndsNumber rest →
    value fuel depth ((written level v).characters ++ rest) = .ok (u, rest)

def ReadsBack (level depth : Nat) (v : Value) : Prop := ReadsAs level depth v v.sorted

theorem endsNumber_comma (rest : List Char) : EndsNumber (',' :: rest) := by
  rintro c r ⟨⟩
  exact ⟨by decide, by decide, by decide, by decide⟩

theorem endsNumber_newLine (level : Nat) (rest : List Char) :
    EndsNumber (newLine level ++ rest) := by
  rintro c r ⟨⟩
  exact ⟨by decide, by decide, by decide, by decide⟩

/-- Texts one to a line, with a comma behind each but the last. -/
def lined (level : Nat) (texts : List (List Char)) : List Char :=
  List.intercalate (',' :: newLine level) texts

theorem lined_singleton (level : Nat) (t : List Char) : lined level [t] = t :=
  List.intercalate_singleton

theorem lined_cons (level : Nat) (t : List Char) {ts : List (List Char)} (some : ts ≠ []) :
    lined level (t :: ts) = t ++ ',' :: (newLine level ++ lined level ts) := by
  obtain ⟨u, us, rfl⟩ := List.exists_cons_of_ne_nil some
  rw [lined, List.intercalate_cons_cons, List.append_assoc, List.cons_append]
  rfl

theorem starts_lined (level : Nat) {texts : List (List Char)} (some : texts ≠ [])
    (starts : ∀ t ∈ texts, Starts t) : Starts (lined level texts) := by
  obtain ⟨t, ts, rfl⟩ := List.exists_cons_of_ne_nil some
  obtain ⟨c, more, rfl, visible, bracket⟩ := starts t (by simp)
  cases ts with
  | nil => exact ⟨c, more, lined_singleton level _, visible, bracket⟩
  | cons u us =>
    rw [lined_cons level _ (by simp)]
    exact ⟨c, _, rfl, visible, bracket⟩

theorem Starts.skipBlanks_newLine {s : List Char} (h : Starts s) (level : Nat) (rest : List Char) :
    skipBlanks (newLine level ++ (s ++ rest)) = s ++ rest := by
  obtain ⟨c, more, rfl, visible, -⟩ := h
  exact Json.skipBlanks_newLine visible level (more ++ rest)

/-- The items of a list read back, each as what it reads as. -/
theorem items_written (back : Value → Value) {level depth : Nat} (outer : Nat) {items : List Value}
    (some : items ≠ [])
    (starts : ∀ v ∈ items, Starts (written level v).characters)
    (each : ∀ v ∈ items, ReadsAs level depth v (back v)) (rest : List Char) {fuel : Nat}
    (enough : 2 * (lined level (items.map fun v => (written level v).characters)).length < fuel) :
    Json.items fuel depth (lined level (items.map fun v => (written level v).characters) ++
      (newLine outer ++ ']' :: rest)) = .ok (items.map back, rest) := by
  induction items generalizing fuel with
  | nil => exact absurd rfl some
  | cons v vs ih =>
    obtain ⟨fuel, rfl⟩ : ∃ n, fuel = n + 1 := ⟨fuel - 1, by omega⟩
    by_cases last : vs = []
    · subst last
      rw [List.map_cons, List.map_nil, lined_singleton] at enough ⊢
      have read := each v (by simp) fuel (newLine outer ++ ']' :: rest) (by omega)
        (endsNumber_newLine _ _)
      have closed := skipBlanks_newLine (show isJsonBlank ']' = false by decide) outer rest
      simp only [Json.items, read, closed, List.map_cons, List.map_nil]
    · have more : (vs.map fun v => (written level v).characters) ≠ [] := by simpa using last
      have later : ∀ t ∈ vs.map fun v => (written level v).characters, Starts t := by
        intro t member
        obtain ⟨w, place, rfl⟩ := List.mem_map.1 member
        exact starts w (List.mem_cons_of_mem _ place)
      rw [List.map_cons, lined_cons level _ more] at enough ⊢
      simp only [List.length_append, List.length_cons] at enough
      have bound : 2 * (lined level (vs.map fun v => (written level v).characters)).length < fuel := by
        omega
      have tail := ih last (fun w place => starts w (List.mem_cons_of_mem _ place))
        (fun w place => each w (List.mem_cons_of_mem _ place)) bound
      have blanks := (starts_lined level more later).skipBlanks_newLine level
        (newLine outer ++ ']' :: rest)
      have comma (t : List Char) : skipBlanks (',' :: t) = ',' :: t := rfl
      simp only [List.append_assoc, List.cons_append, Json.items,
        each v (by simp) fuel _ (by omega) (endsNumber_comma _), comma, blanks,
        tail, Except.map, List.map_cons]

def memberText (level : Nat) (e : Atom × Value) : List Char :=
  '"' :: (e.1.spelled.points.flatMap writtenPoint ++ '"' :: ':' :: ' ' :: (written level e.2).characters)

def fieldsBehind (fuel depth : Nat) (member : Atom × Value) (s : List Char) :
    Except ReadFault (List (Atom × Value) × List Char) :=
  match skipBlanks s with
  | '\x7d' :: rest => .ok ([member], rest)
  | ',' :: rest => (Json.fields fuel depth (skipBlanks rest)).map fun r => (member :: r.1, r.2)
  | _ => .error .malformed

theorem fields_member {level depth fuel : Nat} {e : Atom × Value} (readable : e.1.Readable)
    (starts : Starts (written level e.2).characters) {u : Value} (back : ReadsAs level depth e.2 u)
    (enough : 2 * (written level e.2).characters.length ≤ fuel) {rest : List Char}
    (ends : EndsNumber rest) : Json.fields (fuel + 1) depth (memberText level e ++ rest) =
      fieldsBehind fuel depth (e.1.spelled, u) rest := by
  obtain ⟨c, more, same, visible, -⟩ := starts
  have value := back fuel rest enough ends
  have colon (t : List Char) : skipBlanks (':' :: t) = ':' :: t := rfl
  have blank : skipBlanks (' ' :: ((written level e.2).characters ++ rest)) =
      (written level e.2).characters ++ rest := by
    rw [same, List.cons_append]
    simp [skipBlanks, visible, show isJsonBlank ' ' = true by decide]
  have name := string?_readable e.1.isText_spelled readable.spelled
    (':' :: ' ' :: ((written level e.2).characters ++ rest))
  simp only [memberText, List.cons_append, List.append_assoc, Json.fields, name, colon, blank, value]
  rfl

/-- The members of an object read back, each as what it reads as. -/
theorem fields_written (back : Value → Value) {level depth : Nat} (outer : Nat)
    {entries : List (Atom × Value)} (some : entries ≠ []) (names : ∀ e ∈ entries, e.1.Readable)
    (starts : ∀ e ∈ entries, Starts (written level e.2).characters)
    (each : ∀ e ∈ entries, ReadsAs level depth e.2 (back e.2)) (rest : List Char) {fuel : Nat}
    (enough : 2 * (lined level (entries.map (memberText level))).length < fuel) :
    Json.fields fuel depth (lined level (entries.map (memberText level)) ++
      (newLine outer ++ '\x7d' :: rest)) =
        .ok (entries.map fun e => (e.1.spelled, back e.2), rest) := by
  induction entries generalizing fuel with
  | nil => exact absurd rfl some
  | cons e es ih =>
    obtain ⟨fuel, rfl⟩ : ∃ n, fuel = n + 1 := ⟨fuel - 1, by omega⟩
    have readable := names e (by simp)
    have size : (written level e.2).characters.length < (memberText level e).length := by
      simp only [memberText, List.length_cons, List.length_append]
      omega
    -- Behind the last member there is no comma but the line of the closing brace.
    by_cases last : es = []
    · subst last
      rw [List.map_cons, List.map_nil, lined_singleton] at enough ⊢
      have closed := skipBlanks_newLine (show isJsonBlank '\x7d' = false by decide) outer rest
      rw [fields_member readable (starts e (by simp)) (each e (by simp)) (by omega)
        (endsNumber_newLine _ _), fieldsBehind, closed]
      rfl
    · have more : es.map (memberText level) ≠ [] := by simpa using last
      have later : ∀ t ∈ es.map (memberText level), Starts t := by
        intro t member
        obtain ⟨d, -, rfl⟩ := List.mem_map.1 member
        exact ⟨_, _, rfl, by decide, by decide⟩
      rw [List.map_cons, lined_cons level _ more] at enough ⊢
      simp only [List.length_append, List.length_cons] at enough
      have bound : 2 * (lined level (es.map (memberText level))).length < fuel := by omega
      have tail := ih last (fun d place => names d (List.mem_cons_of_mem _ place))
        (fun d place => starts d (List.mem_cons_of_mem _ place))
        (fun d place => each d (List.mem_cons_of_mem _ place)) bound
      have blanks := (starts_lined level more later).skipBlanks_newLine level
        (newLine outer ++ '\x7d' :: rest)
      have comma (t : List Char) : skipBlanks (',' :: t) = ',' :: t := rfl
      rw [List.append_assoc, List.cons_append, fields_member readable (starts e (by simp))
        (each e (by simp)) (by omega) (endsNumber_comma _), fieldsBehind, comma]
      simp only [List.append_assoc, blanks, tail, Except.map, List.map_cons]

theorem complete_atom {level : Nat} {a : Atom} :
    (written level (.atom a)).failure = none ↔ a.isBytes = false ∧ isTooLong a = false := by
  rw [written, writtenAtom]
  split
  · rename_i bytes
    simp [bytes, Output.refused]
  · split
    · rename_i long
      simp [long, Output.refused]
    · rename_i other short
      split <;> simp [other, short]

theorem complete_items {level : Nat} {items : List Value} :
    (written level (.list items)).failure = none ↔
      ∀ v ∈ items, (written (level + 1) v).failure = none := by
  rw [written, failure_enclosed, writtenItems_eq]
  simp

theorem plain_of_text {a : Atom} (text : a.isText = true) :
    a.isBytes = false ∧ isTooLong a = false := by
  cases a <;> first | exact ⟨rfl, rfl⟩ | cases text

theorem complete_object {level : Nat} {fields : List (Atom × Value)}
    (names : ∀ e ∈ fields, e.1.isBytes = false ∧ isTooLong e.1 = false) :
    (written level (.object fields)).failure = none ↔
      Atom.areComparable (fields.map (·.1)) = true ∧
        ∀ e ∈ fields, (written (level + 1) e.2).failure = none := by
  cases comparable : Atom.areComparable (fields.map (·.1)) with
  | false => simp [failure_of_incomparable comparable]
  | true =>
    rw [written_object_of_comparable comparable, failure_enclosed, writtenMembers]
    constructor
    · intro complete
      refine ⟨rfl, fun e member => ?_⟩
      have place : e ∈ Atom.ordered fields := Atom.mem_ordered.2 member
      exact (Output.failure_append.1 (complete _ (List.mem_map.2 ⟨e, place, rfl⟩))).2
    · rintro ⟨-, complete⟩ o member
      obtain ⟨e, place, rfl⟩ := List.mem_map.1 member
      have inside := Atom.mem_ordered.1 place
      obtain ⟨noBytes, short⟩ := names e inside
      rw [Output.failure_append, writtenKey_eq noBytes short]
      exact ⟨rfl, complete e inside⟩

theorem complete_fields {level : Nat} {fields : List (Atom × Value)}
    (names : ∀ e ∈ fields, e.1.isText = true) :
    (written level (.object fields)).failure = none ↔
      ∀ e ∈ fields, (written (level + 1) e.2).failure = none := by
  rw [complete_object fun e member => plain_of_text (names e member)]
  exact and_iff_right (Atom.comparable_of_texts names)

mutual

/-- A value in which nothing stops the writer is written completely. -/
theorem complete_of_isWritable :
    ∀ {v : Value}, v.isWritable = true → ∀ level, (written level v).failure = none
  | .atom a, writable, level => by
    rw [Value.isWritable, Bool.and_eq_true, Bool.not_eq_true', Bool.not_eq_true'] at writable
    exact complete_atom.2 writable
  | .list items, writable, level =>
    complete_items.2 fun v member => complete_of_areWritable writable v member (level + 1)
  | .object fields, writable, level => by
    have each := complete_of_haveWritable writable
    exact (complete_fields fun e member => (each e member).1).2 fun e member =>
      (each e member).2 (level + 1)

theorem complete_of_areWritable : ∀ {items : List Value}, Value.areWritable items = true →
    ∀ v ∈ items, ∀ level, (written level v).failure = none
  | [], _, v, member, _ => by cases member
  | v :: vs, writable, u, member, level => by
    rw [Value.areWritable, Bool.and_eq_true] at writable
    rcases List.mem_cons.1 member with same | later
    · rw [same]
      exact complete_of_isWritable writable.1 level
    · exact complete_of_areWritable writable.2 u later level

theorem complete_of_haveWritable : ∀ {fields : List (Atom × Value)},
    Value.haveWritable fields = true → ∀ e ∈ fields,
      e.1.isText = true ∧ ∀ level, (written level e.2).failure = none
  | [], _, e, member => by cases member
  | (k, v) :: fs, writable, e, member => by
    rw [Value.haveWritable, Bool.and_eq_true, Bool.and_eq_true] at writable
    obtain ⟨⟨text, first⟩, rest⟩ := writable
    rcases List.mem_cons.1 member with same | later
    · rw [same]
      exact ⟨text, complete_of_isWritable first⟩
    · exact complete_of_haveWritable rest e later

end

theorem value_list {fuel depth : Nat} {s t : List Char} (first : skipBlanks s = t)
    (starts : Starts t) : value (fuel + 1) (depth + 1) ('[' :: s) =
      (items fuel depth t).map fun r => (.list r.1, r.2) := by
  obtain ⟨c, more, rfl, -, bracket⟩ := starts
  rw [value, first]
  split
  · rename_i same
    exact absurd (List.cons.inj same).1 bracket
  · rfl

theorem value_object {fuel depth : Nat} {s t : List Char} (first : skipBlanks s = '"' :: t) :
    value (fuel + 1) (depth + 1) ('\x7b' :: s) =
      (fields fuel depth ('"' :: t)).map fun r => (.object (Assoc.ofPairs r.1), r.2) := by
  rw [value, first]
  rfl

theorem readsBack_list {level depth : Nat} {items : List Value}
    (starts : ∀ v ∈ items, Starts (written (level + 1) v).characters)
    (completes : ∀ v ∈ items, (written (level + 1) v).failure = none)
    (backs : ∀ v ∈ items, ReadsBack (level + 1) depth v) :
    ReadsBack level (depth + 1) (.list items) := by
  intro fuel rest enough ends
  rw [written, writtenItems_eq] at enough ⊢
  -- An empty list is written on one line, any other with a line for each item.
  by_cases none : items = []
  · subst none
    obtain ⟨fuel, rfl⟩ : ∃ n, fuel = n + 1 := ⟨fuel - 1, by simp [enclosed_nil] at enough; omega⟩
    rfl
  · have some : items.map (written (level + 1)) ≠ [] := by simpa using none
    have complete : ∀ o ∈ items.map (written (level + 1)), o.failure = .none := by
      intro o member
      obtain ⟨v, place, rfl⟩ := List.mem_map.1 member
      exact completes v place
    have texts : (items.map (written (level + 1))).map Output.characters =
        items.map fun v => (written (level + 1) v).characters := List.map_map
    have first : Starts (lined (level + 1)
        (items.map fun v => (written (level + 1) v).characters)) := by
      refine starts_lined _ (by simpa using none) ?_
      intro t member
      obtain ⟨v, place, rfl⟩ := List.mem_map.1 member
      exact starts v place
    rw [characters_enclosed some complete, texts, ← lined] at enough ⊢
    simp only [List.length_append, List.length_cons, List.length_nil] at enough
    obtain ⟨fuel, rfl⟩ : ∃ n, fuel = n + 1 := ⟨fuel - 1, by omega⟩
    have bound : 2 * (lined (level + 1)
        (items.map fun v => (written (level + 1) v).characters)).length < fuel := by omega
    have read := items_written Value.sorted level none starts backs rest bound
    have blanks := first.skipBlanks_newLine (level + 1) (newLine level ++ ']' :: rest)
    obtain ⟨c, more, same, visible, bracket⟩ := first
    simp only [List.cons_append, List.append_assoc, List.nil_append]
    rw [value_list blanks ⟨c, _, by rw [same, List.cons_append], visible, bracket⟩, read]
    simp [Except.map, Value.sorted, Value.sortedItems_eq]

theorem characters_object {level : Nat} {fields : List (Atom × Value)} (some : fields ≠ [])
    (names : ∀ e ∈ fields, e.1.isBytes = false ∧ isTooLong e.1 = false)
    (complete : (written level (.object fields)).failure = none) :
    (written level (.object fields)).characters = '\x7b' :: newLine (level + 1) ++
      (lined (level + 1) ((Atom.ordered fields).map (memberText (level + 1))) ++
        (newLine level ++ ['\x7d'])) := by
  have comparable := ((complete_object names).1 complete).1
  have each : ∀ o ∈ writtenMembers (level + 1) fields, o.failure = none := by
    rwa [← failure_enclosed, ← written_object_of_comparable comparable]
  have texts : (writtenMembers (level + 1) fields).map Output.characters =
      (Atom.ordered fields).map (memberText (level + 1)) := by
    rw [writtenMembers, List.map_map]
    refine List.map_congr_left (fun e place => ?_)
    obtain ⟨noBytes, short⟩ := names e (Atom.mem_ordered.1 place)
    rw [Function.comp_apply, writtenKey_eq noBytes short, Output.characters_append rfl]
    simp [memberText, writtenString]
  have more : writtenMembers (level + 1) fields ≠ [] := by
    simpa [writtenMembers] using Atom.ordered_ne_nil some
  rw [written_object_of_comparable comparable, characters_enclosed more each, texts, ← lined]

theorem object_ofPairs_sorted {fields : List (Atom × Value)}
    (distinct : (Assoc.keys fields).Nodup) :
    Value.object (Assoc.ofPairs ((Atom.ordered fields).map fun e => (e.1, e.2.sorted))) =
      Value.sorted (.object fields) := by
  have keys : Assoc.keys ((Atom.ordered fields).map fun e => (e.1, e.2.sorted)) =
      Assoc.keys (Atom.ordered fields) := List.map_map
  have apart : (Assoc.keys ((Atom.ordered fields).map fun e => (e.1, e.2.sorted))).Nodup := by
    rw [keys]
    exact ((Atom.ordered_perm fields).map _).nodup_iff.2 distinct
  rw [Assoc.ofPairs_of_nodup apart, Value.sorted, Value.sortedFields_eq, Atom.ordered_map]

theorem lined_memberText (level : Nat) {entries : List (Atom × Value)} (some : entries ≠ []) :
    ∃ t, lined level (entries.map (memberText level)) = '"' :: t := by
  obtain ⟨e, es, rfl⟩ := List.exists_cons_of_ne_nil some
  rw [List.map_cons]
  by_cases alone : es.map (memberText level) = []
  · rw [alone, lined_singleton]
    exact ⟨_, rfl⟩
  · rw [lined_cons _ _ alone]
    exact ⟨_, rfl⟩

/-- An object reads as the object of what its members read as, under their names as texts. -/
theorem readsAs_object (back : Value → Value) {level depth : Nat} {fields : List (Atom × Value)}
    (names : ∀ e ∈ fields, e.1.Storable)
    (complete : (written level (.object fields)).failure = none)
    (starts : ∀ e ∈ fields, Starts (written (level + 1) e.2).characters)
    (backs : ∀ e ∈ fields, ReadsAs (level + 1) depth e.2 (back e.2)) :
    ReadsAs level (depth + 1) (.object fields)
      (.object (Assoc.ofPairs ((Atom.ordered fields).map fun e => (e.1.spelled, back e.2)))) := by
  intro fuel rest enough ends
  have plain : ∀ e ∈ fields, e.1.isBytes = false ∧ isTooLong e.1 = false :=
    fun e member => ⟨(names e member).noBytes, (names e member).short⟩
  have inside {e : Atom × Value} (member : e ∈ Atom.ordered fields) : e ∈ fields :=
    Atom.mem_ordered.1 member
  by_cases none : fields = []
  · subst none
    rw [written_object (by simp), writtenMembers, Atom.ordered_nil, List.map_nil,
      enclosed_nil] at enough ⊢
    obtain ⟨fuel, rfl⟩ : ∃ n, fuel = n + 1 := ⟨fuel - 1, by simp at enough; omega⟩
    rfl
  · have some : Atom.ordered fields ≠ [] := Atom.ordered_ne_nil none
    rw [characters_object none plain complete] at enough ⊢
    simp only [List.length_append, List.length_cons, List.length_nil] at enough
    obtain ⟨fuel, rfl⟩ : ∃ n, fuel = n + 1 := ⟨fuel - 1, by omega⟩
    have bound : 2 * (lined (level + 1)
        ((Atom.ordered fields).map (memberText (level + 1)))).length < fuel := by omega
    have read := fields_written back level some (fun e place => (names e (inside place)).readable)
      (fun e place => starts e (inside place)) (fun e place => backs e (inside place)) rest bound
    obtain ⟨t, quote⟩ := lined_memberText (level + 1) some
    have blanks := skipBlanks_newLine (show isJsonBlank '"' = false by decide) (level + 1)
      (t ++ (newLine level ++ '\x7d' :: rest))
    rw [quote] at read ⊢
    simp only [List.cons_append, List.append_assoc, List.nil_append] at read ⊢
    rw [value_object blanks, read]
    rfl

theorem readsBack_object {level depth : Nat} {fields : List (Atom × Value)}
    (names : ∀ e ∈ fields, e.1.isText = true ∧ e.1.Readable)
    (distinct : (Assoc.keys fields).Nodup)
    (starts : ∀ e ∈ fields, Starts (written (level + 1) e.2).characters)
    (completes : ∀ e ∈ fields, (written (level + 1) e.2).failure = none)
    (backs : ∀ e ∈ fields, ReadsBack (level + 1) depth e.2) :
    ReadsBack level (depth + 1) (.object fields) := by
  have texts : ∀ e ∈ fields, e.1.isText = true := fun e member => (names e member).1
  have storable : ∀ e ∈ fields, e.1.Storable := by
    intro e member
    obtain ⟨text, readable⟩ := names e member
    exact ⟨readable, (plain_of_text text).1, (plain_of_text text).2⟩
  have read := readsAs_object Value.sorted storable ((complete_fields texts).2 completes) starts backs
  have spelled : (Atom.ordered fields).map (fun e => (e.1.spelled, e.2.sorted)) =
      (Atom.ordered fields).map fun e => (e.1, e.2.sorted) := by
    refine List.map_congr_left (fun e place => ?_)
    rw [Atom.spelled_of_text (texts e (Atom.mem_ordered.1 place))]
  rwa [spelled, object_ofPairs_sorted distinct] at read

/-- A value that was written completely reads back in order. -/
theorem readsBack_written {level depth : Nat} {v : Value} (readable : v.Readable depth)
    (complete : (written level v).failure = none) : ReadsBack level depth v := by
  induction readable generalizing level with
  | @atom depth a readable =>
    intro fuel rest enough ends
    obtain ⟨c, more, same, -⟩ := starts_atom complete
    have positive : 0 < (written level (.atom a)).characters.length := by
      rw [written, same]
      simp
    obtain ⟨fuel, rfl⟩ : ∃ n, fuel = n + 1 := ⟨fuel - 1, by omega⟩
    exact value_atom readable complete ends fuel depth
  | @list depth items each ih =>
    have completes := complete_items.1 complete
    exact readsBack_list (fun v member => starts_written (each v member) (completes v member))
      completes (fun v member => ih v member (completes v member))
  | @object depth fields names distinct each ih =>
    have completes := (complete_fields (fun e member => (names e member).1)).1 complete
    exact readsBack_object names distinct
      (fun e member => starts_written (each e member) (completes e member)) completes
      (fun e member => ih e member (completes e member))

/-- The text of a value, with a line end behind it, is read as what the value reads as. -/
theorem parseWithin_of_readsAs {depth : Nat} {v u : Value} (starts : Starts (written 0 v).characters)
    (reads : ReadsAs 0 depth v u) :
    parseWithin depth (String.ofList ((render v).characters ++ ['\n'])) = .ok u := by
  have first : skipBlanks ((written 0 v).characters ++ ['\n']) =
      (written 0 v).characters ++ ['\n'] := by
    obtain ⟨c, more, same, visible, -⟩ := starts
    rw [same, List.cons_append, skipBlanks, List.dropWhile_cons_of_neg (by simp [visible])]
  have read := reads (2 * ((written 0 v).characters ++ ['\n']).length + 2) ['\n']
    (by simp only [List.length_append]; omega) (endsNumber_newLine 0 [])
  simp only [parseWithin, render, String.toList_ofList, first, read]
  rfl

def Plain (s : List Char) : Prop := ∀ c ∈ s, c = '\n' ∨ 32 ≤ c.toNat

theorem Plain.append {s t : List Char} (hs : Plain s) (ht : Plain t) : Plain (s ++ t) := by
  intro c member
  rcases List.mem_append.1 member with first | second
  · exact hs c first
  · exact ht c second

theorem Plain.no_return {s : List Char} (plain : Plain s) : '\r' ∉ s := by
  intro member
  rcases plain '\r' member with same | visible
  · cases same
  · exact absurd visible (by decide)

theorem plain_newLine (level : Nat) : Plain (newLine level) := by
  intro c member
  rcases List.mem_cons.1 member with rfl | space
  · exact .inl rfl
  · rw [List.eq_of_mem_replicate space]
    exact .inr (by decide)

theorem plain_writtenString (points : List Nat) : Plain (writtenString points) := by
  intro c member
  simp only [writtenString, List.mem_append, List.mem_cons, List.mem_flatMap,
    List.not_mem_nil, or_false] at member
  rcases member with (rfl | ⟨n, -, inside⟩) | rfl
  · exact .inr (by decide)
  · exact .inr (visible_writtenPoint inside)
  · exact .inr (by decide)

theorem plain_lined {level : Nat} {texts : List (List Char)} (each : ∀ t ∈ texts, Plain t) :
    Plain (lined level texts) := by
  induction texts with
  | nil =>
    intro c member
    cases member
  | cons t ts ih =>
    have first := each t (by simp)
    have tail := ih (fun u member => each u (List.mem_cons_of_mem _ member))
    by_cases alone : ts = []
    · rw [alone, lined_singleton]
      exact first
    · rw [lined_cons _ _ alone]
      refine first.append (Plain.append (s := [',']) ?_ ((plain_newLine level).append tail))
      intro c member
      rw [List.mem_singleton.1 member]
      exact .inr (by decide)

theorem plain_enclosed {opening closing : Char} (first : 32 ≤ opening.toNat)
    (last : 32 ≤ closing.toNat) {level : Nat} {os : List Output}
    (complete : ∀ o ∈ os, o.failure = none) (each : ∀ o ∈ os, Plain o.characters) :
    Plain (enclosed opening closing level os).characters := by
  by_cases none : os = []
  · subst none
    intro c member
    simp only [enclosed_nil, List.mem_cons, List.not_mem_nil, or_false] at member
    rcases member with rfl | rfl
    · exact .inr first
    · exact .inr last
  · have inner : Plain (lined (level + 1) (os.map Output.characters)) := by
      refine plain_lined (fun t member => ?_)
      obtain ⟨o, place, rfl⟩ := List.mem_map.1 member
      exact each o place
    have start : Plain [opening] := by
      intro c member
      rw [List.mem_singleton.1 member]
      exact .inr first
    have stop : Plain [closing] := by
      intro c member
      rw [List.mem_singleton.1 member]
      exact .inr last
    rw [characters_enclosed none complete]
    exact (start.append (plain_newLine _)).append (inner.append ((plain_newLine _).append stop))

theorem plain_object {level : Nat} {fields : List (Atom × Value)}
    (names : ∀ e ∈ fields, e.1.isBytes = false ∧ isTooLong e.1 = false)
    (complete : (written level (.object fields)).failure = none)
    (each : ∀ e ∈ fields, Plain (written (level + 1) e.2).characters) :
    Plain (written level (.object fields)).characters := by
  have comparable := ((complete_object names).1 complete).1
  rw [written_object_of_comparable comparable, failure_enclosed] at complete
  rw [written_object_of_comparable comparable]
  refine plain_enclosed (by decide) (by decide) complete (fun o member => ?_)
  obtain ⟨e, place, rfl⟩ := List.mem_map.1 member
  have inside := Atom.mem_ordered.1 place
  obtain ⟨noBytes, short⟩ := names e inside
  rw [writtenKey_eq noBytes short, Output.characters_append rfl]
  have colon : Plain [':', ' '] := by
    intro c member
    simp only [List.mem_cons, List.not_mem_nil, or_false] at member
    rcases member with rfl | rfl <;> exact .inr (by decide)
  exact ((plain_writtenString _).append colon).append (each e inside)

theorem plain_written {level depth : Nat} {v : Value} (readable : v.Readable depth)
    (complete : (written level v).failure = none) : Plain (written level v).characters := by
  induction readable generalizing level with
  | @atom depth a readable =>
    by_cases text : a.isText = true
    · rw [written, writtenAtom_text text]
      exact plain_writtenString _
    · obtain ⟨same, read⟩ := wordOrNumber_literal (by simpa using text) complete
      rw [written, same]
      exact fun c member => .inr (visible_wordOrNumber read c member)
  | @list depth items each ih =>
    have completes := complete_items.1 complete
    rw [written, failure_enclosed] at complete
    rw [written]
    refine plain_enclosed (by decide) (by decide) complete (fun o member => ?_)
    rw [writtenItems_eq] at member
    obtain ⟨v, place, rfl⟩ := List.mem_map.1 member
    exact ih v place (completes v place)
  | @object depth fields names distinct each ih =>
    have texts : ∀ e ∈ fields, e.1.isText = true := fun e member => (names e member).1
    have completes := (complete_fields texts).1 complete
    exact plain_object (fun e member => plain_of_text (texts e member)) complete
      fun e member => ih e member (completes e member)

end Json

end StoredRoutines
