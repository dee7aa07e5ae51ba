import StoredRoutines.Routine.Substitution
import StoredRoutines.Proofs.Grouping
import StoredRoutines.Proofs.Tables
import StoredRoutines.Proofs.Tokens

/-!
Substitution as one pass. From left to right a line falls into pieces: a placeholder token where the
scanner sees one, else a constant where one starts, else a character. Substitution in a source puts
the value of each piece in its place. At most one key starts at a place, so it does not matter that
longer keys are tried first; and no constant holds the sign with which a token starts, so the pass
meets exactly the tokens that the scanner finds.
-/

namespace StoredRoutines.Substitution

inductive Constant where
  | file
  | routine
  | directory
  | line
  deriving DecidableEq, Repr

namespace Constant

def key : Constant → String
  | file => "__FILE__"
  | routine => "__ROUTINE__"
  | directory => "__DIR__"
  | line => lineKey

/-- What a constant stands for on the line of a number. -/
def value (quote : String → String) (workingDirectory : List String) (source : RoutineSource)
    (name : String) (number : Nat) : Constant → String
  | file => quote (source.path.absolute workingDirectory).toText
  | routine => quote name
  | directory => quote (source.path.absolute workingDirectory).parent.toText
  | line => toString number

def at? (s : List Char) : Option (Constant × List Char) :=
  [file, routine, directory, line].findSome? fun k =>
    (Text.dropPrefix? k.key.toList s).map fun rest => (k, rest)

theorem at?_eq_some_iff {s rest : List Char} {k : Constant} :
    at? s = some (k, rest) ↔ s = k.key.toList ++ rest := by
  constructor
  · intro h
    obtain ⟨j, -, found⟩ := List.exists_of_findSome?_eq_some h
    obtain ⟨left, dropped, same⟩ := Option.map_eq_some_iff.1 found
    obtain ⟨rfl, rfl⟩ := Prod.mk.inj same
    exact Text.dropPrefix?_eq_some_iff.1 dropped
  · rintro rfl
    cases k <;> rfl

theorem no_sign (k : Constant) : '@' ∉ k.key.toList := by
  cases k <;> decide

end Constant

/-- A part of a line: a placeholder token, a constant, or a character that starts neither. -/
inductive Piece where
  | token (spelling : List Char)
  | constant (k : Constant)
  | plain (c : Char)
  deriving DecidableEq, Repr

namespace Piece

def spelling : Piece → List Char
  | token t => t
  | constant k => k.key.toList
  | plain c => [c]

def token? : Piece → Option (List Char)
  | token t => some t
  | _ => none

def filled (table : ReplaceTable) (constants : Constant → String) : Piece → List Char
  | token t => ((Placeholder.value? table (String.ofList t)).getD .null).display.toList
  | constant k => (constants k).toList
  | plain c => [c]

def IsKey : Piece → Prop
  | token t => Placeholder.IsToken t
  | constant _ => True
  | plain _ => False

/-- The token that starts the text, else the constant that starts it, and what follows. -/
def at? (s : List Char) : Option (Piece × List Char) :=
  match Placeholder.token? s with
  | some (t, after) => some (token t, after)
  | none => (Constant.at? s).map fun found => (constant found.1, found.2)

theorem at?_eq_some_iff {s rest : List Char} {p : Piece} :
    at? s = some (p, rest) ↔ p.IsKey ∧ s = p.spelling ++ rest := by
  unfold at?
  cases found : Placeholder.token? s with
  | some r =>
    obtain ⟨isToken, whole⟩ := Placeholder.token?_eq_some_iff.1 found
    constructor
    · intro h
      obtain ⟨rfl, rfl⟩ := Prod.mk.inj (Option.some.inj h)
      exact ⟨isToken, whole⟩
    · rintro ⟨isKey, spelled⟩
      cases p with
      | token t =>
        have same := Placeholder.token?_eq_some_iff.2 ⟨isKey, spelled⟩
        rw [found] at same
        obtain rfl := Option.some.inj same
        rfl
      | constant k =>
        -- A token and a constant cannot start at one place: their first characters differ.
        obtain ⟨more, sign⟩ := isToken.starts
        have first : s.head? = some '@' := by rw [whole, sign]; rfl
        rw [spelled] at first
        cases k <;> cases first
      | plain c => cases isKey
  | none =>
    constructor
    · intro h
      obtain ⟨r, starting, same⟩ := Option.map_eq_some_iff.1 h
      obtain ⟨rfl, rfl⟩ := Prod.mk.inj same
      exact ⟨trivial, Constant.at?_eq_some_iff.1 starting⟩
    · rintro ⟨isKey, spelled⟩
      cases p with
      | token t =>
        have same := Placeholder.token?_eq_some_iff.2 ⟨isKey, spelled⟩
        rw [found] at same
        cases same
      | constant k =>
        have starting := Constant.at?_eq_some_iff.2 spelled
        simp [starting]
      | plain c => cases isKey

theorem IsKey.ne_nil {p : Piece} (h : p.IsKey) : p.spelling ≠ [] := by
  cases p with
  | token t => exact Placeholder.IsToken.ne_nil h
  | constant k => cases k <;> decide
  | plain c => cases h

theorem length_of_at? {s rest : List Char} {p : Piece} (h : at? s = some (p, rest)) :
    rest.length < s.length := by
  obtain ⟨isKey, rfl⟩ := at?_eq_some_iff.1 h
  have := List.length_pos_iff.2 isKey.ne_nil
  rw [List.length_append]
  omega

end Piece

def pieces (s : List Char) : List Piece :=
  match s with
  | [] => []
  | c :: cs =>
    match h : Piece.at? (c :: cs) with
    | some (p, rest) =>
      have := Piece.length_of_at? h
      p :: pieces rest
    | none => .plain c :: pieces cs
termination_by s.length
decreasing_by
  · exact this
  · exact Nat.lt_succ_self _

theorem pieces_of_key {s rest : List Char} {p : Piece} (h : Piece.at? s = some (p, rest)) :
    pieces s = p :: pieces rest := by
  cases s with
  | nil => cases h
  | cons c cs =>
    rw [pieces]
    split
    · rename_i found
      rw [h] at found
      obtain ⟨rfl, rfl⟩ := Prod.mk.inj (Option.some.inj found)
      rfl
    · rename_i none
      rw [h] at none
      cases none

theorem pieces_of_none {c : Char} {cs : List Char} (h : Piece.at? (c :: cs) = none) :
    pieces (c :: cs) = .plain c :: pieces cs := by
  rw [pieces]
  split
  · rename_i found
    rw [h] at found
    cases found
  · rfl

theorem pieces_of_no_key {s : List Char} (none : ∀ t ∈ s.tails, Piece.at? t = none) :
    pieces s = s.map .plain := by
  induction s with
  | nil => simp [pieces]
  | cons c cs ih =>
    rw [List.tails, List.forall_mem_cons] at none
    rw [pieces_of_none none.1, ih none.2, List.map_cons]

theorem spelling_pieces (s : List Char) : (pieces s).flatMap Piece.spelling = s := by
  induction s using pieces.induct with
  | case1 => simp [pieces]
  | case2 c cs p rest found _ ih =>
    rw [pieces_of_key found, List.flatMap_cons, ih, (Piece.at?_eq_some_iff.1 found).2]
  | case3 c cs none ih =>
    rw [pieces_of_none none, List.flatMap_cons, ih]
    rfl

/-- The tokens among the pieces are those that the scanner finds. -/
theorem tokens_pieces (s : List Char) :
    (pieces s).filterMap Piece.token? = Placeholder.tokens s := by
  induction s using pieces.induct with
  | case1 => simp [pieces, Placeholder.tokens]
  | case2 c cs p rest found _ ih =>
    obtain ⟨isKey, whole⟩ := Piece.at?_eq_some_iff.1 found
    rw [pieces_of_key found]
    cases p with
    | token t =>
      have scanned := Placeholder.token?_eq_some_iff.2 ⟨isKey, whole⟩
      have kept : (Piece.token t).token? = some t := rfl
      rw [List.filterMap_cons_some kept, ih, Placeholder.tokens_of_token scanned]
    | constant k =>
      rw [List.filterMap_cons_none rfl, ih, whole, Piece.spelling,
        Placeholder.tokens_append_of_no_sign k.no_sign]
    | plain c => cases isKey
  | case3 c cs none ih =>
    have scanned : Placeholder.token? (c :: cs) = .none := by
      cases found : Placeholder.token? (c :: cs) with
      | none => rfl
      | some r => simp [Piece.at?, found] at none
    rw [pieces_of_none none, List.filterMap_cons_none rfl, ih, Placeholder.tokens_of_none scanned]

/-- The table of a line holds the constants and some tokens, each with what takes its place. -/
structure Fits (entries : Table) (table : ReplaceTable) (values : Constant → String) : Prop where
  keys : ∀ e ∈ entries, ∃ p : Piece, p.IsKey ∧ p.spelling = e.1.toList ∧
    p.filled table values = e.2.toList
  constants : ∀ k : Constant, k.key ∈ Assoc.keys entries

theorem mem_entries {table : Table} {e : List Char × List Char} :
    e ∈ entries table ↔ e.1 ≠ [] ∧ (String.ofList e.1, String.ofList e.2) ∈ table := by
  obtain ⟨key, text⟩ := e
  rw [entries, (List.mergeSort_perm _ _).mem_iff, List.mem_map]
  constructor
  · rintro ⟨⟨k, v⟩, member, same⟩
    obtain ⟨rfl, rfl⟩ := Prod.mk.inj same
    simpa [and_comm] using member
  · rintro ⟨some, member⟩
    refine ⟨_, List.mem_filter.2 ⟨member, ?_⟩, ?_⟩
    · simpa using some
    · simp

theorem match?_eq_some {entries : List (List Char × List Char)} {s value rest : List Char}
    (h : match? entries s = some (value, rest)) : ∃ key, (key, value) ∈ entries ∧ s = key ++ rest := by
  obtain ⟨e, member, found⟩ := List.exists_of_findSome?_eq_some h
  split at found
  · cases found
  · obtain ⟨left, dropped, same⟩ := Option.map_eq_some_iff.1 found
    obtain ⟨rfl, rfl⟩ := Prod.mk.inj same
    exact ⟨e.1, member, Text.dropPrefix?_eq_some_iff.1 dropped⟩

theorem match?_eq_none {entries : List (List Char × List Char)} {s : List Char}
    (h : match? entries s = none) {key value : List Char} (member : (key, value) ∈ entries)
    (some : key ≠ []) (rest : List Char) : s ≠ key ++ rest := by
  rintro rfl
  have nothing := List.findSome?_eq_none_iff.1 h _ member
  have dropped : Text.dropPrefix? key (key ++ rest) = .some rest :=
    Text.dropPrefix?_eq_some_iff.2 rfl
  simp [some, dropped] at nothing

theorem replaced_of_match {entries : List (List Char × List Char)} {s value rest : List Char}
    (h : match? entries s = some (value, rest)) (filling : List Char) :
    replaced entries filling s = value ++ replaced entries filling rest := by
  cases s with
  | nil => exact absurd (length_of_match? h) (by simp)
  | cons c cs =>
    rw [replaced]
    split
    · rename_i found
      rw [h] at found
      obtain ⟨rfl, rfl⟩ := Prod.mk.inj (Option.some.inj found)
      rfl
    · rename_i none
      rw [h] at none
      cases none

theorem replaced_of_none {entries : List (List Char × List Char)} {c : Char} {cs : List Char}
    (h : match? entries (c :: cs) = none) (filling : List Char) :
    replaced entries filling (c :: cs) = filling ++ c :: replaced entries filling cs := by
  rw [replaced]
  split
  · rename_i found
    rw [h] at found
    cases found
  · rfl

namespace Fits

variable {filling : Table} {table : ReplaceTable} {values : Constant → String}

/-- What is replaced at a place is the key that starts there, if its token is known. -/
theorem match?_entries (h : Fits filling table values) {s : List Char}
    (known : ∀ t rest, Placeholder.token? s = some (t, rest) →
      String.ofList t ∈ Assoc.keys filling) :
    match? (entries filling) s =
      (Piece.at? s).map fun found => (found.1.filled table values, found.2) := by
  cases matched : match? (entries filling) s with
  | some r =>
    obtain ⟨value, rest⟩ := r
    obtain ⟨key, member, whole⟩ := match?_eq_some matched
    obtain ⟨p, isKey, spelled, filled⟩ := h.keys _ (mem_entries.1 member).2
    simp only [String.toList_ofList] at spelled filled
    have starting := Piece.at?_eq_some_iff.2 ⟨isKey, whole.trans (by rw [spelled])⟩
    rw [starting, Option.map_some, filled]
  | none =>
    have unmatched {key : String} (present : key ∈ Assoc.keys filling) (some : key.toList ≠ [])
        (rest : List Char) : s ≠ key.toList ++ rest := by
      obtain ⟨e, member, rfl⟩ := List.mem_map.1 present
      have inside : (e.1.toList, e.2.toList) ∈ entries filling :=
        mem_entries.2 ⟨some, by simpa using member⟩
      exact match?_eq_none matched inside some rest
    cases starting : Piece.at? s with
    | none => rfl
    | some r =>
      obtain ⟨p, rest⟩ := r
      obtain ⟨isKey, whole⟩ := Piece.at?_eq_some_iff.1 starting
      have some := isKey.ne_nil
      cases p with
      | token t =>
        have present := known t rest (Placeholder.token?_eq_some_iff.2 ⟨isKey, whole⟩)
        have other := unmatched present (by rwa [String.toList_ofList]) rest
        rw [String.toList_ofList] at other
        exact absurd whole other
      | constant k => exact absurd whole (unmatched (h.constants k) some rest)
      | plain c => cases isKey

/-- The replacement in a line fills each of its pieces, if its tokens are known. -/
theorem replaced_entries (h : Fits filling table values) (s : List Char)
    (known : ∀ t ∈ Placeholder.tokens s, String.ofList t ∈ Assoc.keys filling) :
    replaced (entries filling) [] s = (pieces s).flatMap (Piece.filled table values) := by
  have here {s : List Char} (known : ∀ t ∈ (pieces s).filterMap Piece.token?,
      String.ofList t ∈ Assoc.keys filling) := h.match?_entries (s := s) (fun t rest scanned => by
    refine known t ?_
    rw [tokens_pieces, Placeholder.tokens_of_token scanned]
    exact List.mem_cons_self)
  rw [← tokens_pieces] at known
  induction s using pieces.induct with
  | case1 => simp [replaced, pieces]
  | case2 c cs p rest found _ ih =>
    have matched := here known
    rw [found, Option.map_some] at matched
    rw [pieces_of_key found] at known ⊢
    have later := ih fun t inside =>
      known t (((List.sublist_cons_self p _).filterMap _).subset inside)
    rw [replaced_of_match matched, later, List.flatMap_cons]
  | case3 c cs none ih =>
    have matched := here known
    rw [none, Option.map_none] at matched
    rw [pieces_of_none none] at known ⊢
    rw [List.filterMap_cons_none rfl] at known
    rw [replaced_of_none matched, ih known]
    rfl

end Fits

def constantTable (values : Constant → String) : Table :=
  [(Constant.file.key, values .file), (Constant.routine.key, values .routine),
    (Constant.directory.key, values .directory)]

theorem mem_keys_lineTable {placeholders : Table} {values : Constant → String} {number : Nat}
    {key : String} : key ∈ Assoc.keys (lineTable placeholders (constantTable values) number) ↔
      (∃ k : Constant, key = k.key) ∨ key ∈ Assoc.keys placeholders := by
  change key ∈ Assoc.keys (Assoc.put _ _ (Assoc.put _ _ (Assoc.put _ _ (Assoc.put _ _ _)))) ↔ _
  simp only [Assoc.mem_keys_put]
  constructor
  · rintro (rfl | rfl | rfl | rfl | inside)
    · exact .inl ⟨.line, rfl⟩
    · exact .inl ⟨.directory, rfl⟩
    · exact .inl ⟨.routine, rfl⟩
    · exact .inl ⟨.file, rfl⟩
    · exact .inr inside
  · rintro (⟨k, rfl⟩ | inside)
    · cases k <;> simp [Constant.key]
    · simp [inside]

theorem sourceConstants_eq (quote : String → String) (workingDirectory : List String)
    (source : RoutineSource) (name : String) (number : Nat) :
    sourceConstants quote workingDirectory source name =
      if source.path.isNameable then
        .ok (constantTable (Constant.value quote workingDirectory source name number))
      else .error (FileFault.unnameable.unforeseen source.path) := rfl

section

variable {source : RoutineSource} {table : ReplaceTable} {placeholders : Table}
  (resolved : Placeholder.resolve source table = .ok placeholders)

include resolved

theorem fits_lineTable (values : Constant → String) {number : Nat}
    (numbered : values .line = toString number) :
    Fits (lineTable placeholders (constantTable values) number) table values where
  keys := by
    intro e member
    have sources : e ∈ placeholders ∨ ∃ k : Constant, e = (k.key, values k) := by
      rw [lineTable, ← numbered] at member
      rcases Assoc.mem_or_eq_of_mem_put member with member | rfl
      · rcases Assoc.mem_or_eq_of_mem_put member with member | rfl
        · rcases Assoc.mem_or_eq_of_mem_put member with member | rfl
          · rcases Assoc.mem_or_eq_of_mem_put member with member | rfl
            · exact .inl member
            · exact .inr ⟨.file, rfl⟩
          · exact .inr ⟨.routine, rfl⟩
        · exact .inr ⟨.directory, rfl⟩
      · exact .inr ⟨.line, rfl⟩
    rcases sources with inside | ⟨k, rfl⟩
    · obtain ⟨found, v, valued, same⟩ := (Placeholder.mem_placeholders resolved).1 inside
      refine ⟨.token e.1.toList, ?_, rfl, ?_⟩
      · exact Placeholder.isToken_of_mem_tokens (Placeholder.mem_find.1 found)
      · simp [Piece.filled, valued, same]
    · exact ⟨.constant k, trivial, rfl, rfl⟩
  constants := fun k => mem_keys_lineTable.2 (.inl ⟨k, rfl⟩)

theorem replaceAll_lineTable (values : Constant → String) {number : Nat}
    (numbered : values .line = toString number) {l : String} (inside : l ∈ source.lines) :
    replaceAll (lineTable placeholders (constantTable values) number) l =
      String.ofList ((pieces l.toList).flatMap (Piece.filled table values)) := by
  have fits := fits_lineTable resolved values numbered
  have unkeyed : (lineTable placeholders (constantTable values) number).lookup "" = none := by
    refine Assoc.lookup_eq_none_iff.2 fun member => ?_
    obtain ⟨e, place, same⟩ := List.mem_map.1 member
    obtain ⟨p, isKey, spelled, -⟩ := fits.keys e place
    exact isKey.ne_nil (by rw [spelled, same]; rfl)
  have known : ∀ t ∈ Placeholder.tokens l.toList,
      String.ofList t ∈ Assoc.keys (lineTable placeholders (constantTable values) number) := by
    intro t place
    have found : String.ofList t ∈ Placeholder.find source.text := by
      obtain ⟨s, part, rfl⟩ := List.mem_map.1 inside
      rw [Placeholder.mem_find, ← Placeholder.tokens_lines]
      exact List.mem_flatMap.2 ⟨s, part, by simpa using place⟩
    obtain ⟨v, valued⟩ := Placeholder.value_of_mem_find resolved found
    have kept := (Placeholder.mem_placeholders resolved (e := (_, v.display))).2
      ⟨found, v, valued, rfl⟩
    exact mem_keys_lineTable.2 (.inr (List.mem_map.2 ⟨_, kept, rfl⟩))
  rw [replaceAll, unkeyed, Option.getD_none, String.toList_empty, fits.replaced_entries _ known]

end

/-- Lines with their pieces filled. The constants depend on the number of the line. -/
def filledLines (table : ReplaceTable) (values : Nat → Constant → String) (ls : List String) :
    List String :=
  ls.zipIdx.map fun l =>
    String.ofList ((pieces l.1.toList).flatMap (Piece.filled table (values (l.2 + 1))))

theorem source_of_resolved {source : RoutineSource} {table : ReplaceTable} {placeholders : Table}
    (resolved : Placeholder.resolve source table = .ok placeholders) (quote : String → String)
    (workingDirectory : List String) (name : String) :
    Substitution.source quote workingDirectory source name placeholders =
      if source.path.isNameable then
        .ok (Text.unlines (filledLines table
          (Constant.value quote workingDirectory source name) source.lines))
      else .error (FileFault.unnameable.unforeseen source.path) := by
  rw [Substitution.source, sourceConstants_eq quote workingDirectory source name 0]
  split
  · refine congrArg (fun ls => Except.ok (Text.unlines ls)) (List.map_congr_left ?_)
    rintro ⟨l, i⟩ member
    have inside : l ∈ source.lines := List.fst_mem_of_mem_zipIdx member
    exact replaceAll_lineTable resolved
      (Constant.value quote workingDirectory source name (i + 1)) rfl inside
  · rfl

theorem filled_of_no_key {l : String} (none : ∀ t ∈ l.toList.tails, Piece.at? t = none)
    (table : ReplaceTable) (values : Constant → String) :
    String.ofList ((pieces l.toList).flatMap (Piece.filled table values)) = l := by
  rw [pieces_of_no_key none, List.flatMap_map]
  simp [Piece.filled]

theorem source_of_no_key {source : RoutineSource} {table : ReplaceTable} {placeholders : Table}
    (resolved : Placeholder.resolve source table = .ok placeholders)
    (nameable : source.path.isNameable = true)
    (none : ∀ l ∈ source.lines, ∀ t ∈ l.toList.tails, Piece.at? t = none)
    (quote : String → String) (workingDirectory : List String) (name : String) :
    Substitution.source quote workingDirectory source name placeholders = .ok source.text := by
  have filled : filledLines table (Constant.value quote workingDirectory source name)
      source.lines = source.lines.zipIdx.map Prod.fst := by
    refine List.map_congr_left ?_
    rintro ⟨l, i⟩ member
    exact filled_of_no_key (none l (List.fst_mem_of_mem_zipIdx member)) _ _
  rw [source_of_resolved resolved, if_pos nameable, filled, List.zipIdx_map_fst,
    RoutineSource.lines, Text.unlines_lines]

/-- Substitution in a source is one pass over each line, from left to right: a placeholder token
that starts at a place gives way to its value, else a constant that starts there to its own, and
any other character stays. The tokens that are replaced are those that the scanner finds in the
text, and each of them has a value. -/
theorem source_eq_filled_pieces {source : RoutineSource} {table : ReplaceTable}
    {placeholders : Table} (resolved : Placeholder.resolve source table = .ok placeholders)
    (quote : String → String) (workingDirectory : List String) (name : String) :
    Substitution.source quote workingDirectory source name placeholders =
      (if source.path.isNameable then
        .ok (Text.unlines (filledLines table
          (Constant.value quote workingDirectory source name) source.lines))
      else .error (FileFault.unnameable.unforeseen source.path)) ∧
    (∀ l ∈ source.lines, (pieces l.toList).flatMap Piece.spelling = l.toList) ∧
    (source.lines.flatMap fun l => (pieces l.toList).filterMap Piece.token?) =
      Placeholder.tokens source.text.toList ∧
    ∀ t ∈ Placeholder.tokens source.text.toList,
      ∃ v, Placeholder.value? table (String.ofList t) = some v := by
  refine ⟨source_of_resolved resolved quote workingDirectory name,
    fun l _ => spelling_pieces l.toList, ?_, ?_⟩
  · simp only [tokens_pieces]
    rw [RoutineSource.lines, Text.lines, List.flatMap_map, ← Placeholder.tokens_lines]
    simp
  · intro t place
    exact Placeholder.value_of_mem_find resolved (Placeholder.mem_find.2 (by simpa using place))

/-- A source with two would-be tokens that share a sign, of which only the first is one. -/
def sharedSign : RoutineSource := ⟨Path.ofString "r.psql", ".psql", "@a@b@__LINE__", 0⟩

theorem pieces_sharedSign : pieces sharedSign.text.toList =
    [.token "@a@".toList, .plain 'b', .plain '@', .constant .line] := by
  have token : Piece.at? sharedSign.text.toList =
      some (.token "@a@".toList, "b@__LINE__".toList) := by decide +kernel
  have letter : Piece.at? "b@__LINE__".toList = none := by decide +kernel
  have sign : Piece.at? "@__LINE__".toList = none := by decide +kernel
  have number : Piece.at? "__LINE__".toList = some (.constant .line, []) := by decide +kernel
  rw [pieces_of_key token]
  refine congrArg (_ :: ·) ((pieces_of_none letter).trans ?_)
  refine congrArg (_ :: ·) ((pieces_of_none sign).trans ?_)
  refine congrArg (_ :: ·) ((pieces_of_key number).trans ?_)
  simp [pieces]

theorem sharedSign_filled :
    Placeholder.resolve sharedSign [("@A@", .text "1")] = .ok [("@a@", "1")] ∧
    Substitution.source id [] sharedSign "r" [("@a@", "1")] = .ok "1b@1" := by
  have found : Placeholder.find sharedSign.text = ["@a@"] := by
    rw [Placeholder.find, ← tokens_pieces, pieces_sharedSign]
    decide +kernel
  have resolved : Placeholder.resolve sharedSign [("@A@", .text "1")] = .ok [("@a@", "1")] := by
    simp only [Placeholder.resolve, found, Placeholder.sortTexts, List.mergeSort_singleton]
    decide +kernel
  have lines : sharedSign.lines = [sharedSign.text] := by decide +kernel
  have nameable : sharedSign.path.isNameable = true := by decide +kernel
  refine ⟨resolved, (source_eq_filled_pieces resolved id [] "r").1.trans ?_⟩
  simp only [nameable, lines, filledLines, List.zipIdx_singleton, List.map_cons, List.map_nil,
    pieces_sharedSign, if_true]
  decide +kernel

end StoredRoutines.Substitution
