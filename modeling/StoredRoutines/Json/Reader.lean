import StoredRoutines.Assoc
import StoredRoutines.Text.Lines
import StoredRoutines.Text.Numeral
import StoredRoutines.Value

/-!
Reading JSON. Members keep the order of their names, and of two members of one name the place of
the first and the value of the last count. Besides numbers the words `NaN`, `Infinity` and
`-Infinity` are numbers. Control characters may not stand in a string. Two escaped code units that
are a surrogate pair read as one character; a surrogate that stands alone is kept.
-/

namespace StoredRoutines.Json

def isJsonBlank (c : Char) : Bool := c = ' ' || c = '\t' || c = '\n' || c = '\r'

def skipBlanks (s : List Char) : List Char := s.dropWhile isJsonBlank

def hexValue? (c : Char) : Option Nat :=
  if '0' ≤ c ∧ c ≤ '9' then some (c.toNat - 48)
  else if 'a' ≤ c ∧ c ≤ 'f' then some (c.toNat - 87)
  else if 'A' ≤ c ∧ c ≤ 'F' then some (c.toNat - 55)
  else none

def codeUnit? (a b c d : Char) : Option Nat := do
  let a ← hexValue? a
  let b ← hexValue? b
  let c ← hexValue? c
  let d ← hexValue? d
  return 4096 * a + 256 * b + 16 * c + d

/-- The character of a backslash and one letter. -/
def shortEscape? (c : Char) : Option Char :=
  if c = '"' || c = '\\' || c = '/' then some c
  else if c = 'b' then some '\x08'
  else if c = 'f' then some '\x0c'
  else if c = 'n' then some '\n'
  else if c = 'r' then some '\r'
  else if c = 't' then some '\t'
  else none

/-- The points of a string after its opening quote, and what follows its closing quote. An escaped
code unit counts as a point of its own. -/
def stringBody : List Char → Option (List Nat × List Char)
  | [] => none
  | '\\' :: 'u' :: a :: b :: c :: d :: rest =>
    match codeUnit? a b c d with
    | none => none
    | some u => (stringBody rest).map fun r => (u :: r.1, r.2)
  | c :: rest =>
    if c = '"' then some ([], rest)
    else if c = '\\' then
      match rest with
      | [] => none
      | e :: rest =>
        match shortEscape? e with
        | none => none
        | some x => (stringBody rest).map fun r => (x.toNat :: r.1, r.2)
    else if c.toNat < 32 then none
    else (stringBody rest).map fun r => (c.toNat :: r.1, r.2)

/-- The point that two code units make together, if they are a surrogate pair. -/
def pairedPoint? (high low : Nat) : Option Nat :=
  if (0xD800 ≤ high ∧ high ≤ 0xDBFF) ∧ 0xDC00 ≤ low ∧ low ≤ 0xDFFF then
    some (0x10000 + (high - 0xD800) * 0x400 + (low - 0xDC00))
  else none

/-- The points with every surrogate pair made one point, from left to right. -/
def joinPairs : List Nat → List Nat
  | [] => []
  | [n] => [n]
  | m :: n :: rest =>
    match pairedPoint? m n with
    -- A low surrogate that completed a pair starts no other.
    | some p => p :: joinPairs rest
    | none => m :: joinPairs (n :: rest)

/-- The text of a string after its opening quote, and what follows its closing quote. -/
def string? (s : List Char) : Option (Atom × List Char) :=
  (stringBody s).map fun r => (.ofPoints (joinPairs r.1), r.2)

/-- The digits before anything else, if there is one. -/
def someDigits? (s : List Char) : Option (List Char × List Char) :=
  let ds := s.takeWhile Char.isDigit
  if ds.isEmpty then none else some (ds, s.dropWhile Char.isDigit)

/-- The digits of a whole number: a zero stands alone. -/
def wholeDigits? (s : List Char) : Option (List Char × List Char) :=
  match s with
  | '0' :: rest => some (['0'], rest)
  | _ => someDigits? s

def fraction? : List Char → Option (List Char × List Char)
  | '.' :: rest => (someDigits? rest).map fun r => ('.' :: r.1, r.2)
  | _ => none

def exponent? : List Char → Option (List Char × List Char)
  | e :: rest =>
    if e = 'e' ∨ e = 'E' then
      match rest with
      | '-' :: r => (someDigits? r).map fun x => (e :: '-' :: x.1, x.2)
      | '+' :: r => (someDigits? r).map fun x => (e :: '+' :: x.1, x.2)
      | r => (someDigits? r).map fun x => (e :: x.1, x.2)
    else none
  | [] => none

/-- A number and what follows it. A whole number of more than 4300 digits is refused. -/
def number? (s : List Char) : Option (Value × List Char) :=
  let (sign, body) :=
    match s with
    | '-' :: rest => (['-'], rest)
    | _ => ([], s)
  match wholeDigits? body with
  | none => none
  | some (ds, rest) =>
    -- A sign that no digits follow belongs to what comes behind the number.
    let (fraction, afterFraction) := (fraction? rest).getD ([], rest)
    let (exponent, rest) := (exponent? afterFraction).getD ([], afterFraction)
    if fraction.isEmpty && exponent.isEmpty then
      (Text.natural? ds).map fun n => (.int (if sign.isEmpty then (n : Int) else -(n : Int)), rest)
    else some (.real (.ofChars (sign ++ ds ++ fraction ++ exponent)), rest)

def wordValues : List (List Char × Value) :=
  [("null".toList, .null), ("true".toList, .bool true), ("false".toList, .bool false),
    ("NaN".toList, .real .notANumber), ("Infinity".toList, .real (.infinite false)),
    ("-Infinity".toList, .real (.infinite true))]

def wordValue? (s : List Char) : Option (Value × List Char) :=
  wordValues.findSome? fun w => (Text.dropPrefix? w.1 s).map fun rest => (w.2, rest)

inductive ReadFault where
  | malformed
  /-- The value is nested deeper than allowed. -/
  | tooDeep
  deriving DecidableEq, Repr

/-- What was read and the text behind it, or malformed if there is nothing. -/
def found {α : Type} (r : Option (α × List Char)) : Except ReadFault (α × List Char) :=
  match r with
  | some r => .ok r
  | none => .error .malformed

mutual

/-- A value at the start of the text, and what follows it. `depth` is the number of levels that it
may have. A level takes two units of `fuel` and each further item one, so two for each character
are enough. -/
def value (fuel depth : Nat) (s : List Char) : Except ReadFault (Value × List Char) :=
  match fuel with
  | 0 => .error .malformed
  | fuel + 1 =>
    match s with
    | '"' :: rest => found ((string? rest).map fun r => (.atom r.1, r.2))
    | '[' :: rest =>
      match depth with
      | 0 => .error .tooDeep
      | depth + 1 =>
        match skipBlanks rest with
        | ']' :: rest => .ok (.list [], rest)
        | rest => (items fuel depth rest).map fun r => (.list r.1, r.2)
    | '\x7b' :: rest =>
      match depth with
      | 0 => .error .tooDeep
      | depth + 1 =>
        match skipBlanks rest with
        | '\x7d' :: rest => .ok (.object [], rest)
        | rest => (fields fuel depth rest).map fun r => (.object (Assoc.ofPairs r.1), r.2)
    | s => found ((wordValue? s).or (number? s))

/-- One or more items up to the closing bracket. -/
def items (fuel depth : Nat) (s : List Char) : Except ReadFault (List Value × List Char) :=
  match fuel with
  | 0 => .error .malformed
  | fuel + 1 =>
    match value fuel depth s with
    | .error e => .error e
    | .ok (v, rest) =>
      match skipBlanks rest with
      | ']' :: rest => .ok ([v], rest)
      | ',' :: rest => (items fuel depth (skipBlanks rest)).map fun r => (v :: r.1, r.2)
      | _ => .error .malformed

/-- One or more members up to the closing brace. -/
def fields (fuel depth : Nat) (s : List Char) :
    Except ReadFault (List (Atom × Value) × List Char) :=
  match fuel with
  | 0 => .error .malformed
  | fuel + 1 =>
    match s with
    | '"' :: rest =>
      match string? rest with
      | none => .error .malformed
      | some (name, rest) =>
        match skipBlanks rest with
        | ':' :: rest =>
          match value fuel depth (skipBlanks rest) with
          | .error e => .error e
          | .ok (v, rest) =>
            match skipBlanks rest with
            | '\x7d' :: rest => .ok ([(name, v)], rest)
            | ',' :: rest =>
              (fields fuel depth (skipBlanks rest)).map fun r => ((name, v) :: r.1, r.2)
            | _ => .error .malformed
        | _ => .error .malformed
    | _ => .error .malformed

end

/-- The value that the whole text writes, of a limited depth. -/
def parseWithin (depth : Nat) (s : String) : Except ReadFault Value :=
  let chars := s.toList
  -- Fuel enough for every character to open a level.
  match value (2 * chars.length + 2) depth (skipBlanks chars) with
  | .error e => .error e
  | .ok (v, rest) => if (skipBlanks rest).isEmpty then .ok v else .error .malformed

/-- The value that the whole text writes, however deep it is. -/
def parse (s : String) : Option Value := (parseWithin s.length s).toOption

end StoredRoutines.Json
