import StoredRoutines.Text.Table.Case
import StoredRoutines.Text.Word

/-!
Full upper and lower case of a text. One character may become several, and a capital sigma at the
end of a word gets the final form.
-/

namespace StoredRoutines.Text

/-- The image of a code point under the runs; itself if no run holds it. -/
def shiftBy (runs : List Table.CaseRun) (n : Nat) : Nat :=
  match runs.find? fun r => r.first ≤ n && n ≤ r.last && (n - r.first) % r.step = 0 with
  | some r => (n + r.shift).toNat
  | none => n

/-- The case mapping given by the two tables, for a character beyond ASCII. -/
def mapBy (expansions : List (Nat × List Nat)) (runs : List Table.CaseRun) (c : Char) : List Char :=
  match expansions.lookup c.toNat with
  | some images => images.map Char.ofNat
  | none => [Char.ofNat (shiftBy runs c.toNat)]

def upperChar (c : Char) : List Char :=
  if c.toNat < 128 then [c.toUpper] else mapBy Table.upperExpansions Table.upperRuns c

def lowerChar (c : Char) : List Char :=
  if c.toNat < 128 then [c.toLower] else mapBy Table.lowerExpansions Table.lowerRuns c

/-- Past ignorable characters, the next one is cased. -/
def meetsCased : List Char → Bool
  | [] => false
  | c :: cs =>
    if inRanges Table.caseIgnorable c.toNat then meetsCased cs
    else inRanges Table.cased c.toNat

/-- Lower case of what follows, given the characters before it in reverse order. -/
def lowerAfter (before : List Char) : List Char → List Char
  | [] => []
  | c :: cs =>
    (if c.toNat = 0x3A3 then
      if meetsCased before && !meetsCased cs then [Char.ofNat 0x3C2] else [Char.ofNat 0x3C3]
    else lowerChar c) ++ lowerAfter (c :: before) cs

def upper (s : String) : String := String.ofList (s.toList.flatMap upperChar)

def lower (s : String) : String := String.ofList (lowerAfter [] s.toList)

end StoredRoutines.Text
