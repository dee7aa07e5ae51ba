/-!
Cutting a text at a separator, joining the pieces again, and the one spelling of a line end that
text files are read with.
-/

namespace StoredRoutines.Text

/-- The pieces of a text between separators: one more than there are separators. -/
def splitOn (sep : Char) : List Char → List (List Char)
  | [] => [[]]
  | c :: cs =>
    if c = sep then [] :: splitOn sep cs
    else
      match splitOn sep cs with
      | [] => [[c]]
      | piece :: pieces => (c :: piece) :: pieces

/-- The pieces with the separator between them. -/
def joinWith (sep : Char) (pieces : List (List Char)) : List Char :=
  List.intercalate [sep] pieces

theorem splitOn_ne_nil (sep : Char) (s : List Char) : splitOn sep s ≠ [] := by
  cases s with
  | nil => simp [splitOn]
  | cons c cs =>
    simp only [splitOn]
    split
    · simp
    · split <;> simp

theorem joinWith_splitOn (sep : Char) (s : List Char) : joinWith sep (splitOn sep s) = s := by
  induction s with
  | nil => simp [splitOn, joinWith]
  | cons c cs ih =>
    by_cases h : c = sep
    · obtain ⟨piece, more, hp⟩ := List.exists_cons_of_ne_nil (splitOn_ne_nil sep cs)
      simp only [joinWith, hp] at ih
      simp only [splitOn, joinWith, h, hp, ↓reduceIte, List.intercalate_cons_cons, ih,
        List.nil_append, List.singleton_append]
    · cases hp : splitOn sep cs with
      | nil => exact absurd hp (splitOn_ne_nil sep cs)
      | cons piece more => cases more <;> simp_all [splitOn, joinWith]

/-- The lines of a text; a final line end is followed by an empty line. -/
def lines (s : String) : List String := (splitOn '\n' s.toList).map String.ofList

/-- Lines joined by line ends. -/
def unlines (ls : List String) : String := String.ofList (joinWith '\n' (ls.map String.toList))

theorem unlines_lines (s : String) : unlines (lines s) = s := by
  have h : String.toList ∘ String.ofList = id := by funext l; simp
  simp [unlines, lines, h, joinWith_splitOn]

/-- Every line end, written as carriage return, line feed or both, becomes one line feed. -/
def unifyLineEnds : List Char → List Char
  | [] => []
  | '\r' :: '\n' :: cs => '\n' :: unifyLineEnds cs
  | c :: cs => (if c = '\r' then '\n' else c) :: unifyLineEnds cs

/-- The line without the carriage returns at its end. -/
def dropReturns (s : List Char) : List Char := (s.reverse.dropWhile (· == '\r')).reverse

def pieces (sep : Char) (s : String) : List String := (splitOn sep s.toList).map String.ofList

/-- The `needle` occurs somewhere in the text. -/
def occursIn (needle : List Char) : List Char → Bool
  | [] => needle.isEmpty
  | c :: cs => needle.isPrefixOf (c :: cs) || occursIn needle cs

/-- The text with `first` removed from its start, if it starts so. -/
def dropPrefix? : List Char → List Char → Option (List Char)
  | [], s => some s
  | c :: cs, d :: ds => if c = d then dropPrefix? cs ds else none
  | _ :: _, [] => none

/-- A text starts with `first` exactly if it is `first` followed by what is left. -/
theorem dropPrefix?_eq_some_iff {first s rest : List Char} :
    dropPrefix? first s = some rest ↔ s = first ++ rest := by
  induction first generalizing s with
  | nil => simp [dropPrefix?]
  | cons c cs ih =>
    cases s with
    | nil => simp [dropPrefix?]
    | cons d ds =>
      by_cases h : c = d
      · simp [dropPrefix?, h, ih]
      · simp [dropPrefix?, h, Ne.symm h]

/-- The text with `suffix` removed from its end, if it ends so. -/
def dropSuffix? (suffix s : List Char) : Option (List Char) :=
  (dropPrefix? suffix.reverse s.reverse).map List.reverse

end StoredRoutines.Text
