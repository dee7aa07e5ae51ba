import StoredRoutines.Failure
import StoredRoutines.Routine.Source
import StoredRoutines.Text.Letters

/-!
Placeholders in a source: `@NAME@` or `@TABLE.COLUMN%type@`. The tokens are found from left to
right without overlap. Each must have a value in the replace table, whose keys are in upper case.
-/

namespace StoredRoutines

/-- Values of placeholders by upper-case token. -/
abbrev ReplaceTable := List (String × Value)

namespace Placeholder

def isNameChar (c : Char) : Bool := Text.isPlain c || c = '.'

/-- What may stand between the name and the closing sign. -/
def typeMark : List Char := "%type".toList

/-- The rest of a token after its opening sign, and what follows the token. -/
def body? (s : List Char) : Option (List Char × List Char) :=
  let name := s.takeWhile isNameChar
  let rest := s.dropWhile isNameChar
  if name.isEmpty then none
  else
    match rest with
    | '@' :: after => some (name ++ ['@'], after)
    | rest =>
      match Text.dropPrefix? typeMark rest with
      | some ('@' :: after) => some (name ++ typeMark ++ ['@'], after)
      | _ => none

/-- The token at the start of the text, and what follows it. -/
def token? : List Char → Option (List Char × List Char)
  | '@' :: rest => (body? rest).map fun r => ('@' :: r.1, r.2)
  | _ => none

theorem body?_append {s token after : List Char} (h : body? s = some (token, after)) :
    s = token ++ after := by
  have hs := List.takeWhile_append_dropWhile (p := isNameChar) (l := s)
  simp only [body?] at h
  split at h
  · simp at h
  · split at h
    · rename_i hr
      simp only [Option.some.injEq, Prod.mk.injEq] at h
      rw [← h.1, ← h.2, List.append_assoc, List.singleton_append, ← hr, hs]
    · split at h
      · rename_i hp
        simp only [Option.some.injEq, Prod.mk.injEq] at h
        have hq := Text.dropPrefix?_eq_some_iff.1 hp
        rw [← h.1, ← h.2]
        simp only [List.append_assoc, List.singleton_append]
        rw [← hq, hs]
      · simp at h

/-- A token and what follows it make up the text. -/
theorem token?_append {s token after : List Char} (h : token? s = some (token, after)) :
    s = token ++ after := by
  unfold token? at h
  split at h
  · rename_i rest
    cases hb : body? rest with
    | none => simp [hb] at h
    | some r =>
      simp only [hb, Option.map_some, Option.some.injEq, Prod.mk.injEq] at h
      rw [← h.1, ← h.2, body?_append (show body? rest = some (r.1, r.2) from hb)]
      rfl
  · simp at h

theorem length_of_token? {s token after : List Char} (h : token? s = some (token, after)) :
    after.length < s.length := by
  have ha := token?_append h
  unfold token? at h
  split at h
  · rename_i rest
    cases hb : body? rest with
    | none => simp [hb] at h
    | some r =>
      simp only [hb, Option.map_some, Option.some.injEq, Prod.mk.injEq] at h
      rw [ha, ← h.1]
      simp only [List.cons_append, List.length_cons, List.length_append]
      omega
  · simp at h

/-- The tokens of a text, from left to right. -/
def tokens (s : List Char) : List (List Char) :=
  match s with
  | [] => []
  | c :: cs =>
    match h : token? (c :: cs) with
    | some (token, after) =>
      have := length_of_token? h
      token :: tokens after
    | none => tokens cs
termination_by s.length
decreasing_by
  · exact this
  · exact Nat.lt_succ_self _

/-- The distinct tokens of a text in the order of their first appearance. -/
def find (text : String) : List String := ((tokens text.toList).map String.ofList).eraseDups

def value? (table : ReplaceTable) (token : String) : Option Value :=
  table.lookup (Text.upper token)

def unknown (tokens : List String) (source : String) : LoaderError where
  kind := .placeholder
  wording := "Unknown placeholder(s) " ++ ", ".intercalate (tokens.map Text.quoted) ++ "."
  circumstances := { source := source, placeholders := tokens }

def sortTexts (texts : List String) : List String := texts.mergeSort fun a b => decide (a ≤ b)

/-- The tokens of a source with their values as text, sorted by token. -/
def resolve (source : RoutineSource) (table : ReplaceTable) :
    Except LoaderError (List (String × String)) :=
  let tokens := find source.text
  let missing := tokens.filter fun t => (value? table t).isNone
  if missing.isEmpty then
    .ok ((sortTexts tokens).map fun t => (t, ((value? table t).getD .null).display))
  else .error (unknown missing source.label)

end Placeholder

end StoredRoutines
