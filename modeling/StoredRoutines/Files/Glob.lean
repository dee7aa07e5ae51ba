/-!
Wildcard patterns for one file name: a star stands for any text, a question mark for one character,
and brackets for one character of a set. An exclamation mark after the opening bracket negates the
set; a bracket that is never closed stands for itself. Matching takes one row of answers for each
wildcard, so its time does not depend on the number of stars.
-/

namespace StoredRoutines

inductive Wildcard where
  | star
  | one
  | literal (c : Char)
  | set (negated : Bool) (ranges : List (Char × Char))
  deriving DecidableEq, Repr

namespace Wildcard

/-- The members of a set: characters, and pairs joined by a hyphen. -/
def setItems : List Char → List (Char × Option Char)
  | a :: '-' :: b :: rest => (a, some b) :: setItems rest
  | a :: rest => (a, none) :: setItems rest
  | [] => []

/-- The member is not a range whose ends are in the wrong order. -/
def isProper (item : Char × Option Char) : Bool :=
  match item with
  | (a, some b) => a ≤ b
  | (_, none) => true

def range (item : Char × Option Char) : Char × Char := (item.1, item.2.getD item.1)

/-- The set between brackets. Ranges whose ends are in the wrong order are dropped, and an
exclamation mark that comes to the front by that negates the set too. -/
def ofBody (negated : Bool) (body : List Char) : Wildcard :=
  let items := (setItems body).filter isProper
  if negated then set true (items.map range)
  else
    match items with
    | ('!', none) :: items => set true (items.map range)
    | ('!', some b) :: items => set true (('-', '-') :: (b, b) :: items.map range)
    | items => set false (items.map range)

/-- The characters up to the closing bracket and those after it. A closing bracket at the very
start belongs to the set. -/
def setBody? : List Char → Option (List Char × List Char)
  | [] => none
  | c :: rest =>
    match rest.dropWhile (· != ']') with
    | _ :: after => some (c :: rest.takeWhile (· != ']'), after)
    | [] => none

theorem length_of_setBody? {s body after : List Char} (h : setBody? s = some (body, after)) :
    after.length < s.length := by
  cases s with
  | nil => simp [setBody?] at h
  | cons c rest =>
    have hle := (List.dropWhile_sublist (l := rest) (· != ']')).length_le
    simp only [setBody?] at h
    split at h
    · rename_i d tail hd
      simp only [Option.some.injEq, Prod.mk.injEq] at h
      rw [hd] at hle
      simp only [List.length_cons] at hle ⊢
      rw [← h.2]
      omega
    · simp at h

def ofPattern (s : List Char) : List Wildcard :=
  match s with
  | [] => []
  | c :: rest =>
    if c = '*' then star :: ofPattern rest
    else if c = '?' then one :: ofPattern rest
    else if c = '[' then
      let negated := rest.head? == some '!'
      match h : setBody? (if negated then rest.drop 1 else rest) with
      | some (body, after) =>
        have : after.length < (c :: rest).length := by
          have hb := length_of_setBody? h
          have hd : (if negated then rest.drop 1 else rest).length ≤ rest.length := by
            split <;> simp
          simp only [List.length_cons]
          omega
        ofBody negated body :: ofPattern after
      | none => literal '[' :: ofPattern rest
    else literal c :: ofPattern rest
termination_by s.length
decreasing_by
  · exact Nat.lt_succ_self _
  · exact Nat.lt_succ_self _
  · exact this
  · exact Nat.lt_succ_self _
  · exact Nat.lt_succ_self _

def accepts (c : Char) : Wildcard → Bool
  | star => false
  | one => true
  | literal a => a == c
  | set negated ranges => negated != ranges.any fun r => r.1 ≤ c && c ≤ r.2

/-- The text is one that the wildcards stand for. -/
def covers : List Wildcard → List Char → Bool
  | [], s => s.isEmpty
  | w :: ws, [] => w == star && covers ws []
  | w :: ws, c :: cs =>
    if w = star then covers ws (c :: cs) || covers (star :: ws) cs
    else w.accepts c && covers ws cs
termination_by ws s => (ws.length, s.length)

/-- For each entry, whether it or one behind it is true. -/
def anyFrom : List Bool → List Bool
  | [] => []
  | b :: bs => (b || bs.any id) :: anyFrom bs

/-- For the text and each of its shorter ends, whether the wildcards stand for it. -/
def row : List Wildcard → List Char → List Bool
  | [], s => s.map (fun _ => false) ++ [true]
  | w :: ws, s =>
    if w = star then anyFrom (row ws s)
    else List.zipWith (fun c b => w.accepts c && b) s (row ws s).tail ++ [false]

theorem covers_star_cons (ws : List Wildcard) (c : Char) (cs : List Char) :
    covers (star :: ws) (c :: cs) = (covers ws (c :: cs) || covers (star :: ws) cs) := by
  rw [covers]
  simp

/-- A row consists of the answers for the text and for what remains of it. -/
theorem row_eq (ws : List Wildcard) (s : List Char) :
    row ws s = covers ws s :: match s with
      | [] => []
      | _ :: cs => row ws cs := by
  induction ws generalizing s with
  | nil => cases s <;> simp [row, covers]
  | cons w ws ih =>
    cases s with
    | nil =>
      by_cases hw : w = star <;> simp [row, covers, hw, ih [], anyFrom]
    | cons c cs =>
      by_cases hw : w = star
      · subst hw
        have hany : ∀ t, (row ws t).any id = covers (star :: ws) t := by
          intro t
          induction t with
          | nil => simp [ih [], covers]
          | cons d t iht => simp [ih (d :: t), covers_star_cons, iht]
        simp only [row, ↓reduceIte]
        rw [ih (c :: cs), anyFrom, hany, covers_star_cons]
      · have hc : covers (w :: ws) (c :: cs) = (w.accepts c && covers ws cs) := by
          rw [covers]
          simp [hw]
        simp only [row, hw, ↓reduceIte, hc]
        rw [ih (c :: cs)]
        simp only [List.tail_cons]
        rw [ih cs]
        cases cs <;> simp

def matchesName (pattern name : String) : Bool :=
  ((row (ofPattern pattern.toList) name.toList).head?).getD false

theorem matchesName_eq (pattern name : String) :
    matchesName pattern name = covers (ofPattern pattern.toList) name.toList := by
  rw [matchesName, row_eq]
  rfl

end Wildcard

end StoredRoutines
