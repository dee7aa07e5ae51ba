import StoredRoutines.Assoc
import StoredRoutines.Files.Fault
import StoredRoutines.Routine.Source

/-!
Substitution in the text of a routine. All keys of a table are replaced in one pass from left to
right; at each place the longest key counts, and what a value puts in is never looked at again. A
source has, besides its placeholders, a few constants of its own: its file, its directory, the name
of the routine, and the number of the line.
-/

namespace StoredRoutines.Substitution

/-- What each key is replaced by. -/
abbrev Table := List (String × String)

/-- The entries with a key, as characters, longer keys first. -/
def entries (table : Table) : List (List Char × List Char) :=
  ((table.filter (!·.1.isEmpty)).map fun e => (e.1.toList, e.2.toList)).mergeSort fun a b =>
    decide (b.1.length ≤ a.1.length)

/-- The value for the first key that starts the text, and what follows the key. -/
def match? (entries : List (List Char × List Char)) (s : List Char) :
    Option (List Char × List Char) :=
  entries.findSome? fun e =>
    if e.1.isEmpty then none else (Text.dropPrefix? e.1 s).map fun rest => (e.2, rest)

theorem length_of_match? {entries : List (List Char × List Char)} {s value rest : List Char}
    (h : match? entries s = some (value, rest)) : rest.length < s.length := by
  obtain ⟨e, _, he⟩ := List.exists_of_findSome?_eq_some h
  split at he
  · simp at he
  · rename_i hne
    cases hp : Text.dropPrefix? e.1 s with
    | none => simp [hp] at he
    | some r =>
      simp only [hp, Option.map_some, Option.some.injEq, Prod.mk.injEq] at he
      have hs := Text.dropPrefix?_eq_some_iff.1 hp
      have hpos : 0 < e.1.length := List.length_pos_iff.mpr fun h => hne (by simp [h])
      rw [hs, ← he.2, List.length_append]
      omega

/-- The text with the keys of the entries replaced. The filling comes before each character that
starts no key, and at the end. -/
def replaced (entries : List (List Char × List Char)) (filling : List Char) (s : List Char) :
    List Char :=
  match s with
  | [] => filling
  | c :: cs =>
    match h : match? entries (c :: cs) with
    | some (value, rest) =>
      have := length_of_match? h
      value ++ replaced entries filling rest
    -- The empty key occurs here, since no other key starts at this place.
    | none => filling ++ c :: replaced entries filling cs
termination_by s.length
decreasing_by
  · exact this
  · exact Nat.lt_succ_self _

/-- The text with the keys of a table replaced. The empty key occurs wherever no other does. -/
def replaceAll (table : Table) (text : String) : String :=
  String.ofList (replaced (entries table) ((table.lookup "").getD "").toList text.toList)

/-- The key that stands for the number of its line. -/
def lineKey : String := "__LINE__"

/-- The constants of a source in a working directory, except for the line. A path that cannot be
named to a file system has no place in it. -/
def sourceConstants (quote : String → String) (directory : List String) (source : RoutineSource)
    (routine : String) : Except Failure Table :=
  if source.path.isNameable then
    let path := source.path.absolute directory
    .ok [("__FILE__", quote path.toText), ("__ROUTINE__", quote routine),
      ("__DIR__", quote path.parent.toText)]
  else .error (FileFault.unnameable.unforeseen source.path)

/-- The table for one line. Constants win over placeholders. -/
def lineTable (placeholders constants : Table) (number : Nat) : Table :=
  Assoc.put lineKey (toString number) (Assoc.putAll placeholders constants)

def lines (placeholders constants : Table) (ls : List String) : List String :=
  ls.zipIdx.map fun l => replaceAll (lineTable placeholders constants (l.2 + 1)) l.1

/-- The text of a source with its placeholders and constants replaced. -/
def source (quote : String → String) (directory : List String) (source : RoutineSource)
    (routine : String) (placeholders : Table) : Except Failure String := do
  let constants ← sourceConstants quote directory source routine
  return Text.unlines (lines placeholders constants source.lines)

end StoredRoutines.Substitution
