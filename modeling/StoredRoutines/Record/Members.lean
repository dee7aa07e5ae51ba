import StoredRoutines.Assoc
import StoredRoutines.Failure

/-!
Taking values apart. A record is read from a value of which nothing is known, so each access may
meet a value of the wrong shape, and each says what is wrong with it.
-/

namespace StoredRoutines.Value

/-- A value of a type that the access does not provide for. -/
def refuse {α : Type} (explanation : String) : Except Failure α :=
  .error (.defect (.wrongType explanation))

/-- The member of an object, which must be there. -/
def member (k : String) : Value → Except Failure Value
  | object fields =>
    match fields.lookup (.text k) with
    | some v => .ok v
    | none => .error (.defect (.missingKey k))
  | list _ => refuse "list indices must be integers or slices, not str"
  | atom (.text _) | atom (.broken _) => refuse "string indices must be integers"
  | v => .error (.defect (.noMembers v))

/-- The member of an object, or a default. -/
def memberOr (v : Value) (k : String) (default : Value) : Except Failure Value :=
  match v with
  | object fields => .ok ((fields.lookup (.text k)).getD default)
  | v => .error (.defect (.noTextFunction v "get"))

/-- The parts of a value that has parts: items, characters, bytes, or keys. -/
def parts : Value → Except Failure (List Value)
  | list items => .ok items
  | atom (.text s) => .ok (s.toList.map fun c => text (String.ofList [c]))
  | atom (.broken points) => .ok (points.map fun n => atom (.ofPoints [n]))
  | atom (.bytes b) => .ok (b.map fun x => int x.toNat)
  | object fields => .ok (fields.map fun f => atom f.1)
  | v => refuse ("'" ++ v.typeName ++ "' object is not iterable")

/-- The parts of a value; nothing has none. -/
def partsOrNone (v : Value) : Except Failure (List Value) :=
  if v.isNothing then .ok [] else v.parts

/-- A value as the key of a table. A list or an object is none. -/
def asKey (v : Value) : Except Failure Key :=
  match v with
  | atom a => .ok ⟨a⟩
  | v => refuse ("unhashable type: '" ++ v.typeName ++ "'")

theorem asKey_eq_ok_iff {v : Value} {k : Key} : v.asKey = .ok k ↔ v = .atom k.atom := by
  cases v with
  | atom a =>
    cases k
    simp [asKey]
  | list _ | object _ => simp [asKey, refuse]

/-- A pair written as a value with two parts. -/
def asPair (v : Value) : Except Failure (Key × Value) := do
  match ← v.parts with
  | [k, x] => return (← k.asKey, x)
  | ps =>
    .error (.defect (.invalidValue
      ("dictionary update sequence element has length " ++ toString ps.length ++
        "; 2 is required")))

/-- The entries of a table: an object, or a list of pairs. -/
def entries (v : Value) : Except Failure (List (Atom × Value)) :=
  if v.isNothing then .ok []
  else
    match v with
    | object fields => .ok fields
    | v => do
      let pairs ← (← v.parts).mapM asPair
      return (Assoc.ofPairs pairs).map fun e => (e.1.atom, e.2)

def toInteger : Value → Except Failure Int
  | int n => .ok n
  | bool b => .ok (if b then 1 else 0)
  | real x =>
    match x.wholePart with
    | .ok n => .ok n
    | .error .infinite => .error (.defect (.tooLarge "cannot convert float infinity to integer"))
    | .error .notANumber => .error (.defect (.invalidValue "cannot convert float NaN to integer"))
  | text s =>
    match Text.integer? s with
    | some n => .ok n
    | none =>
      .error (.defect (.invalidValue
        ("invalid literal for int() with base 10: " ++ Text.quoted s)))
  | atom (.broken points) =>
    .error (.defect (.invalidValue
      ("invalid literal for int() with base 10: " ++ Atom.quotedPoints points)))
  | v =>
    refuse ("int() argument must be a string, a bytes-like object or a real number, not '" ++
      v.typeName ++ "'")

end StoredRoutines.Value
