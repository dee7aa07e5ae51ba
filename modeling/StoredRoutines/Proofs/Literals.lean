import StoredRoutines.Build.Load
import StoredRoutines.Schema.BulkTable
import StoredRoutines.Schema.Parameters
import StoredRoutines.Sql.Connection

/-!
String literals as a server reads them. A text is escaped by replacements in the whole text, one
after the other, so that each of them runs over what the earlier ones put in. None puts in what a
later one looks for, and the chain comes to one replacement for each character, which reading
undoes.
-/

namespace StoredRoutines.Sql

namespace Literal

/-- The character that is meant by a backslash in front of this one. -/
def unescaped (c : Char) : Char :=
  if c = 'n' then '\n' else if c = 'r' then '\r' else c

/-- The value of a literal behind its opening quote, and what follows its closing quote. A quote
that is written twice stands for itself. -/
def body? : List Char → Option (List Char × List Char)
  | [] => none
  | ['\\'] => none
  | '\\' :: c :: rest => (body? rest).map fun r => (unescaped c :: r.1, r.2)
  | '\'' :: '\'' :: rest => (body? rest).map fun r => ('\'' :: r.1, r.2)
  | '\'' :: rest => some ([], rest)
  | c :: rest => (body? rest).map fun r => (c :: r.1, r.2)

/-- The value of the literal that a text starts with, and what follows the literal. -/
def value? : List Char → Option (List Char × List Char)
  | '\'' :: rest => body? rest
  | _ => none

theorem body?_escaped (c : Char) (rest : List Char) :
    body? ('\\' :: c :: rest) = (body? rest).map fun r => (unescaped c :: r.1, r.2) := by
  rw [body?]

theorem body?_plain {c : Char} (noBackslash : c ≠ '\\') (noQuote : c ≠ '\'') (rest : List Char) :
    body? (c :: rest) = (body? rest).map fun r => (c :: r.1, r.2) := by
  rw [body?] <;> simp_all

theorem body?_quote {rest : List Char} (stops : rest.head? ≠ some '\'') :
    body? ('\'' :: rest) = some ([], rest) := by
  rw [body?]
  rintro more rfl
  exact stops rfl

/-- Reading undoes the escape of each character: it is written behind a backslash in a form that
stands for it, or as it is if it is neither a backslash nor a quote. -/
def Undone (escape : Char → List Char) : Prop :=
  ∀ c, (∃ d, escape c = ['\\', d] ∧ unescaped d = c) ∨ escape c = [c] ∧ c ≠ '\\' ∧ c ≠ '\''

theorem undone_serverEscape : Undone serverEscape := by
  intro c
  unfold serverEscape
  split
  · rename_i special
    simp only [Bool.or_eq_true, decide_eq_true_eq] at special
    rcases special with ((rfl | rfl) | rfl) | rfl <;> exact .inl ⟨_, rfl, rfl⟩
  · rename_i plain
    simp only [Bool.or_eq_true, decide_eq_true_eq, not_or] at plain
    split
    · rename_i line
      exact .inl ⟨'n', rfl, line.symm⟩
    · split
      · rename_i line
        exact .inl ⟨'r', rfl, line.symm⟩
      · exact .inr ⟨rfl, plain.1.1.1, plain.1.1.2⟩

theorem undone_scriptEscape : Undone scriptEscape := by
  intro c
  unfold scriptEscape
  split
  · rename_i special
    simp only [Bool.or_eq_true, decide_eq_true_eq] at special
    rcases special with rfl | rfl <;> exact .inl ⟨_, rfl, rfl⟩
  · rename_i plain
    simp only [Bool.or_eq_true, decide_eq_true_eq, not_or] at plain
    exact .inr ⟨rfl, plain⟩

/-- Behind its opening quote, an escaped text is read up to the first quote that is not escaped. -/
theorem body?_flatMap {escape : Char → List Char} (undone : Undone escape) (s : List Char)
    {rest : List Char} (stops : rest.head? ≠ some '\'') :
    body? (s.flatMap escape ++ '\'' :: rest) = some (s, rest) := by
  -- The induction is on the value: each of its characters is written, and read, on its own.
  induction s with
  | nil => exact body?_quote stops
  | cons c s ih =>
    rw [List.flatMap_cons, List.append_assoc]
    rcases undone c with ⟨d, written, meant⟩ | ⟨written, noBackslash, noQuote⟩
    · rw [written, List.cons_append, List.cons_append, List.nil_append, body?_escaped, ih, meant]
      rfl
    · rw [written, List.cons_append, List.nil_append, body?_plain noBackslash noQuote, ih]
      rfl

/-- Wherever it is written, but in front of another quote, the text is a literal that is read as the
value and ends at its last character. -/
def StandsFor (written value : String) : Prop :=
  ∀ rest : List Char, rest.head? ≠ some '\'' →
    value? (written.toList ++ rest) = some (value.toList, rest)

/-- The escape of a text is that of its characters, and reading undoes it. -/
def Reversible (escape : String → String) : Prop :=
  ∃ each, Undone each ∧ ∀ s, escape s = String.ofList (s.toList.flatMap each)

theorem reversible_escapeForServer : Reversible escapeForServer :=
  ⟨serverEscape, undone_serverEscape, fun _ => rfl⟩

theorem reversible_escapeForScript : Reversible escapeForScript :=
  ⟨scriptEscape, undone_scriptEscape, fun _ => rfl⟩

theorem standsFor_literal {escape : String → String} (reversible : Reversible escape) (s : String) :
    StandsFor (literal escape s) s := by
  obtain ⟨each, undone, escaped⟩ := reversible
  intro rest stops
  have written : (literal escape s).toList ++ rest =
      '\'' :: (s.toList.flatMap each ++ '\'' :: rest) := by
    simp [literal, escaped]
  rw [written, value?]
  exact body?_flatMap undone s.toList stops

theorem standsFor_quoteText {escape : String → String} (reversible : Reversible escape) {s : String}
    (given : s ≠ "") : StandsFor (quoteText escape s) s := by
  have full : s.isEmpty = false := by simpa using given
  rw [quoteText, full]
  exact standsFor_literal reversible s

/-- The statement holds the literal, and a server that reads it from its opening quote finds the
value and the rest of the statement. -/
def HeldBy (statement written value : String) : Prop :=
  ∃ before after, statement = before ++ written ++ after ∧
    value? (written ++ after).toList = some (value.toList, after.toList)

theorem StandsFor.heldBy {written value : String} (h : StandsFor written value)
    (before after : String) (stops : after.toList.head? ≠ some '\'') :
    HeldBy (before ++ written ++ after) written value := by
  refine ⟨before, after, rfl, ?_⟩
  rw [String.toList_append]
  exact h after.toList stops

section Replacements

def replaceChar (c : Char) (value s : List Char) : List Char :=
  s.flatMap fun d => if d = c then value else [d]

/-- The text after replacements that follow one another, each in all of what the ones before it
left. -/
def replaceInTurn (steps : List (Char × List Char)) (s : List Char) : List Char :=
  steps.foldl (fun s step => replaceChar step.1 step.2 s) s

/-- The value of a character in a table of replacements; others stay as they are. -/
def replacement (steps : List (Char × List Char)) (c : Char) : List Char :=
  (steps.lookup c).getD [c]

/-- No replacement puts in a character that a later one looks for. -/
def Independent (steps : List (Char × List Char)) : Prop :=
  steps.Pairwise fun earlier later => later.1 ∉ earlier.2

variable {steps : List (Char × List Char)}

theorem replacement_cons (c d : Char) (value : List Char) :
    replacement ((d, value) :: steps) c = if c = d then value else replacement steps c := by
  unfold replacement
  rw [List.lookup_cons]
  by_cases same : c = d
  · rw [if_pos same, beq_iff_eq.2 same]
    rfl
  · rw [if_neg same, beq_eq_false_iff_ne.2 same]

theorem replacement_of_absent {c : Char} (absent : ∀ step ∈ steps, step.1 ≠ c) :
    replacement steps c = [c] := by
  induction steps with
  | nil => rfl
  | cons step steps ih =>
    rw [replacement_cons, if_neg (absent step List.mem_cons_self).symm]
    exact ih fun later place => absent later (List.mem_cons_of_mem _ place)

/-- Independent replacements one after the other come to one replacement of each character. -/
theorem replaceInTurn_eq_flatMap (independent : Independent steps) (s : List Char) :
    replaceInTurn steps s = s.flatMap (replacement steps) := by
  induction steps generalizing s with
  | nil => exact (List.flatMap_singleton' s).symm
  | cons step steps ih =>
    obtain ⟨c, value⟩ := step
    obtain ⟨later, rest⟩ := List.pairwise_cons.1 independent
    -- The later replacements pass over what the first one puts in.
    have kept : value.flatMap (replacement steps) = value := by
      have alone (d : Char) (member : d ∈ value) : replacement steps d = [d] :=
        replacement_of_absent fun step place same => later step place (same ▸ member)
      rw [List.flatMap_def, List.map_congr_left alone, ← List.flatMap_def, List.flatMap_singleton']
    have each (d : Char) : (if d = c then value else [d]).flatMap (replacement steps) =
        replacement ((c, value) :: steps) d := by
      rw [replacement_cons]
      split
      · exact kept
      · exact List.flatMap_singleton (replacement steps) d
    calc replaceInTurn ((c, value) :: steps) s
        = (replaceChar c value s).flatMap (replacement steps) := ih rest _
      _ = s.flatMap fun d => (if d = c then value else [d]).flatMap (replacement steps) :=
          List.flatMap_assoc
      _ = s.flatMap (replacement ((c, value) :: steps)) := by rw [funext each]

/-- In the other order, the second replacement would undo the first one: the quote is read as the
end of the literal. -/
example : body? (replaceInTurn [('\'', ['\\', '\'']), ('\\', ['\\', '\\'])] ['\'', 'x'] ++
    ['\'']) = some (['\\'], ['x', '\'']) := by
  decide +kernel

def serverSteps : List (Char × List Char) :=
  [('\\', ['\\', '\\']), ('\n', ['\\', 'n']), ('\r', ['\\', 'r']), ('\'', ['\\', '\'']),
    ('"', ['\\', '"']), ('\x1a', ['\\', '\x1a'])]

def scriptSteps : List (Char × List Char) := [('\\', ['\\', '\\']), ('\'', ['\\', '\''])]

theorem independent_serverSteps : Independent serverSteps := by
  unfold Independent
  decide

theorem independent_scriptSteps : Independent scriptSteps := by
  unfold Independent
  decide

theorem replacement_serverSteps (c : Char) : replacement serverSteps c = serverEscape c := by
  simp only [serverSteps, replacement_cons, serverEscape]
  grind [replacement]

theorem replacement_scriptSteps (c : Char) : replacement scriptSteps c = scriptEscape c := by
  simp only [scriptSteps, replacement_cons, scriptEscape]
  grind [replacement]

theorem escapeForServer_eq (s : String) :
    escapeForServer s = String.ofList (replaceInTurn serverSteps s.toList) := by
  rw [replaceInTurn_eq_flatMap independent_serverSteps, funext replacement_serverSteps]
  rfl

theorem escapeForScript_eq (s : String) :
    escapeForScript s = String.ofList (replaceInTurn scriptSteps s.toList) := by
  rw [replaceInTurn_eq_flatMap independent_scriptSteps, funext replacement_scriptSteps]
  rfl

end Replacements

end Literal

open Literal

/-- The literals that are sent to a database, each read as the value that it was made of. An empty
name is written as `NULL`, an empty setting as an empty literal. -/
structure DataLayer.SendsLiterals (layer : DataLayer) : Prop where
  quoted : ∀ s, s ≠ "" → StandsFor (layer.quote s) s
  settings : ∀ session : SessionSettings, ∃ mode names,
    session.apply layer = [mode, names].forM layer.execute ∧
      HeldBy mode (literal layer.escape session.sqlMode) session.sqlMode ∧
      HeldBy names (literal layer.escape session.characterSet) session.characterSet ∧
      HeldBy names (literal layer.escape session.collation) session.collation
  routine : ∀ name, name ≠ "" →
    HeldBy (CatalogParameter.query (layer.quote name)) (layer.quote name) name
  table : ∀ name, name ≠ "" →
    HeldBy (BulkTable.existsQuery (layer.quote name)) (layer.quote name) name
  /-- The constants of a source: its file and its directory, and the name of its routine. -/
  constants : ∀ directory source routine table,
    Substitution.sourceConstants layer.quote directory source routine = .ok table →
      ∃ file name parent, table = [("__FILE__", file), ("__ROUTINE__", name), ("__DIR__", parent)] ∧
        StandsFor file (source.path.absolute directory).toText ∧
        (routine ≠ "" → StandsFor name routine) ∧
        StandsFor parent (source.path.absolute directory).parent.toText

theorem toText_ne_empty {p : Path} (rooted : p.root = "/") : p.toText ≠ "" := by
  simp [Path.toText, rooted, ← String.toList_inj]

theorem sendsLiterals {layer : DataLayer} (reversible : Reversible layer.escape) :
    layer.SendsLiterals where
  quoted s given := standsFor_quoteText reversible given
  settings session := by
    have mode := (standsFor_literal reversible session.sqlMode).heldBy "set sql_mode = " ""
      (by decide)
    have characters := (standsFor_literal reversible session.characterSet).heldBy "set names "
      (" collate " ++ literal layer.escape session.collation) (by simp)
    have collation := (standsFor_literal reversible session.collation).heldBy
      ("set names " ++ literal layer.escape session.characterSet ++ " collate ") "" (by decide)
    rw [String.append_empty] at mode collation
    rw [← String.append_assoc] at characters
    exact ⟨_, _, rfl, mode, characters, collation⟩
  routine name given := (standsFor_quoteText reversible given).heldBy _ _ (by decide)
  table name given := (standsFor_quoteText reversible given).heldBy _ _ (by decide)
  constants := by
    intro directory source routine table made
    unfold Substitution.sourceConstants at made
    split at made
    · cases made
      exact ⟨_, _, _, rfl, standsFor_quoteText reversible (toText_ne_empty rfl),
        standsFor_quoteText reversible, standsFor_quoteText reversible (toText_ne_empty rfl)⟩
    · cases made

/-- The texts that a layer escapes by the replacements of a server's connector, or of a script, one
after the other, make literals that are read as the texts to their very ends. -/
theorem literals_stand_for_values (connector : Connector) (script : Script) :
    (∀ s, connector.layer.escape s = String.ofList (replaceInTurn serverSteps s.toList)) ∧
      (∀ s, script.database.layer.escape s = String.ofList (replaceInTurn scriptSteps s.toList)) ∧
      connector.layer.SendsLiterals ∧ script.database.layer.SendsLiterals :=
  ⟨escapeForServer_eq, escapeForScript_eq, sendsLiterals reversible_escapeForServer,
    sendsLiterals reversible_escapeForScript⟩

end StoredRoutines.Sql
