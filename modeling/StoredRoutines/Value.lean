import StoredRoutines.Value.Atom

/-!
Values of which nothing is known beforehand: cells of a result row and members of a stored record.
They are compared, tested for emptiness and shown as text, and otherwise copied as they are.
-/

namespace StoredRoutines

inductive Value where
  | atom (a : Atom)
  | list (items : List Value)
  /-- Entries in order; the keys are mostly texts. -/
  | object (fields : List (Atom × Value))
  deriving Inhabited, Repr

namespace Value

@[match_pattern] abbrev null : Value := atom .null

@[match_pattern] abbrev bool (b : Bool) : Value := atom (.bool b)

@[match_pattern] abbrev int (n : Int) : Value := atom (.int n)

@[match_pattern] abbrev real (x : Number.Double) : Value := atom (.real x)

@[match_pattern] abbrev text (s : String) : Value := atom (.text s)

@[match_pattern] abbrev bytes (b : List UInt8) : Value := atom (.bytes b)

mutual

def same : Value → Value → Bool
  | atom a, atom b => a == b
  | list a, list b => sameItems a b
  | object a, object b => sameFields a b
  | _, _ => false

def sameItems : List Value → List Value → Bool
  | [], [] => true
  | a :: as, b :: bs => same a b && sameItems as bs
  | _, _ => false

def sameFields : List (Atom × Value) → List (Atom × Value) → Bool
  | [], [] => true
  | (k, a) :: as, (j, b) :: bs => k == j && same a b && sameFields as bs
  | _, _ => false

end

mutual

theorem same_iff (a b : Value) : same a b = true ↔ a = b := by
  cases a <;> cases b <;> simp [same]
  case list.list a b => exact sameItems_iff a b
  case object.object a b => exact sameFields_iff a b

theorem sameItems_iff (a b : List Value) : sameItems a b = true ↔ a = b := by
  match a, b with
  | [], [] => simp [sameItems]
  | [], _ :: _ => simp [sameItems]
  | _ :: _, [] => simp [sameItems]
  | a :: as, b :: bs => simp [sameItems, same_iff a b, sameItems_iff as bs]

theorem sameFields_iff (a b : List (Atom × Value)) : sameFields a b = true ↔ a = b := by
  match a, b with
  | [], [] => simp [sameFields]
  | [], _ :: _ => simp [sameFields]
  | _ :: _, [] => simp [sameFields]
  | (k, a) :: as, (j, b) :: bs => simp [sameFields, same_iff a b, sameFields_iff as bs, and_assoc]

end

instance : DecidableEq Value := fun a b => decidable_of_iff _ (same_iff a b)

/-- Null, false, zero and everything empty count as nothing. -/
def isNothing : Value → Bool
  | atom a => a.isNothing
  | list items => items.isEmpty
  | object fields => fields.isEmpty

/-- The value, or nothing. -/
def something? (v : Value) : Option Value := if v.isNothing then none else some v

def ofOption : Option String → Value
  | some s => text s
  | none => null

def typeName : Value → String
  | atom a => a.typeName
  | list _ => "list"
  | object _ => "dict"

mutual

/-- The value as it is shown inside another one: texts are quoted. -/
def shown : Value → String
  | atom a => a.shown
  | list items => "[" ++ shownItems items ++ "]"
  | object fields => "\x7b" ++ shownFields fields ++ "\x7d"

def shownItems : List Value → String
  | [] => ""
  | [v] => shown v
  | v :: vs => shown v ++ ", " ++ shownItems vs

def shownFields : List (Atom × Value) → String
  | [] => ""
  | [(k, v)] => k.shown ++ ": " ++ shown v
  | (k, v) :: fs => k.shown ++ ": " ++ shown v ++ ", " ++ shownFields fs

end

/-- The value as text: a text stands for itself. -/
def display : Value → String
  | atom a => a.display
  | v => shown v

def displayPoints : Value → List Nat
  | atom a => a.displayPoints
  | v => v.shown.toList.map Char.toNat

def field? (k : String) : Value → Option Value
  | object fields => fields.lookup (.text k)
  | _ => none

end Value

end StoredRoutines
