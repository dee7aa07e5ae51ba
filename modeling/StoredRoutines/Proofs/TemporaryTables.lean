import StoredRoutines.Proofs.ConnectionLoss
import StoredRoutines.Proofs.Consistency
import StoredRoutines.Proofs.DesignationForms
import StoredRoutines.Proofs.Protocol

/-!
The life of a temporary table. A bulk insert routine whose table is not permanent is called to make
it. Once this call was answered, the table is described and dropped, whatever fails. A call that was
refused is not followed by a drop, so a table that the routine made before it failed stays; a
permanent table is neither made nor dropped.
-/

namespace StoredRoutines

open Loader Outcomes TraceProperty

namespace Sql

/-- A run of ASCII letters, digits and underscores, one at least. -/
def PlainName (s : String) : Prop := s ≠ "" ∧ ∀ c ∈ s.toList, Text.isPlain c = true

variable {s : String}

theorem PlainName.no_newline (plain : PlainName s) : '\n' ∉ s.toList := fun inside =>
  absurd (plain.2 _ inside) (by decide)

theorem isIdentifier_of_plainName (plain : PlainName s) : isIdentifier s = true := by
  rw [← String.ofList_toList (s := s), isIdentifier_ofList plain.no_newline]
  exact ⟨String.toList_eq_nil_iff.not.2 plain.1, plain.2⟩

end Sql

theorem Designation.plainName_of_bulkInsert {source : RoutineSource} {table : String}
    {columns : List String} {i : Nat}
    (designated : ofSource source = .ok (.bulkInsert table columns, i)) : Sql.PlainName table := by
  obtain ⟨_, _, _, _, _, _, -, -, -, -, -, -, written⟩ := ofSource_eq_ok_iff.1 designated
  obtain @⟨_, name, _, _, -, named, -, -, -⟩ := written
  rw [Sql.PlainName, ne_eq, ← String.toList_eq_nil_iff, String.toList_ofList]
  exact named

theorem Designation.isIdentifier_of_bulkInsert {source : RoutineSource} {table : String}
    {columns : List String} {i : Nat}
    (designated : ofSource source = .ok (.bulkInsert table columns, i)) :
    Sql.isIdentifier table = true :=
  Sql.isIdentifier_of_plainName (plainName_of_bulkInsert designated)

namespace BulkTable

def routineCall (routine : String) : String := "call " ++ ("`" ++ routine ++ "`") ++ "()"

def tableDrop (table : String) : String :=
  "drop temporary table if exists " ++ ("`" ++ table ++ "`")

def tableDescription (table : String) : String := "describe " ++ ("`" ++ table ++ "`")

section

variable {name : String}

theorem backtickValue_text (plain : Sql.isIdentifier name = true) :
    Sql.backtickValue (.text name) = .ok ("`" ++ name ++ "`") :=
  if_pos plain

theorem callStatement_text (plain : Sql.isIdentifier name = true) :
    callStatement (.text name) = .ok (routineCall name) := by
  rw [callStatement, backtickValue_text plain]
  rfl

theorem callStatement_refused (odd : Sql.isIdentifier name = false) :
    ∃ e, callStatement (.text name) = .error e := by
  have refused : Sql.backtickValue (.text name) = .error _ := if_neg (by simp [odd])
  exact ⟨_, by rw [callStatement, refused]; rfl⟩

theorem dropStatement_text (plain : Sql.isIdentifier name = true) :
    BulkTable.dropStatement (.text name) = .ok (tableDrop name) := by
  rw [BulkTable.dropStatement, backtickValue_text plain]
  rfl

theorem describeQuery_text (plain : Sql.isIdentifier name = true) :
    describeQuery (.text name) = .ok (tableDescription name) := by
  rw [describeQuery, backtickValue_text plain]
  rfl

end

variable {db : Sql.Database}

/-- The statements with which a routine and its table are looked at, behind the question whether
the table is permanent. -/
def lookedAt (db : Sql.Database) (before : List String) (routine table : String) : List String :=
  if db.holdsTable before (.text table) then [tableDescription table]
  else if !Sql.isIdentifier routine then []
  else if (db.failure (before ++ [existsQuery (db.layer.quote table)])
    (routineCall routine)).isSome then [routineCall routine]
  else [routineCall routine, tableDescription table, tableDrop table]

theorem statements_of_bind_quiet {α β : Type} {x : Loader α} {f : α → Loader β}
    (quiet : ∀ a, (f a).Traces Quiet) (w : World) :
    ((x >>= f).run w).2.statements = (x.run w).2.statements := by
  cases ran : x.run w with
  | mk r v =>
    cases r with
    | error e => rw [run_bind_of_error ran]
    | ok a =>
      obtain ⟨es, step, silent, -⟩ := quiet a v
      rw [run_bind_of_ok ran, step, World.statements_after, silent, List.append_nil]

theorem run_isPermanent_text (db : Sql.Database) (table : String) (w : World) :
    (isPermanent db.layer (.text table)).run w =
      (match db.failure w.statements (existsQuery (db.layer.quote table)) with
        | some e => .error (.error e)
        | none => .ok (db.holdsTable w.statements (.text table)),
        w.after [.statement (existsQuery (db.layer.quote table))]) := by
  have answered := db.run_answer db.scalar (existsQuery (db.layer.quote table)) w
  change (db.layer.scalar (existsQuery (db.layer.quote table)) >>= fun answer =>
    pure !answer.isNothing).run w = _
  cases refused : db.failure w.statements (existsQuery (db.layer.quote table)) with
  | some e =>
    rw [refused] at answered
    exact run_bind_of_error answered
  | none =>
    rw [refused] at answered
    exact run_bind_of_ok answered

/-- Behind the call of a routine, its table is described and dropped unless the call is refused. -/
theorem statements_of_called {α : Type} {x : Loader α} {routine table : String}
    (plain : Sql.isIdentifier table = true) (plain' : Sql.isIdentifier routine = true)
    (describes : ∀ v, (x.run v).2.statements = v.statements ++ [tableDescription table])
    (w : World) :
    ((Loader.ofExcept (callStatement (.text routine)) >>= fun call => db.layer.execute call >>=
        fun _ => x.attempt >>= fun outcome =>
          Loader.ofExcept (BulkTable.dropStatement (.text table)) >>= fun drop =>
            db.layer.execute drop >>= fun _ => Loader.ofExcept outcome).run w).2.statements =
      w.statements ++ if (db.failure w.statements (routineCall routine)).isSome then
          [routineCall routine]
        else [routineCall routine, tableDescription table, tableDrop table] := by
  rw [callStatement_text plain', dropStatement_text plain]
  rw [run_bind_of_ok (run_ofExcept _ _)]
  cases refused : db.failure w.statements (routineCall routine) with
  | some e =>
    rw [run_bind_of_error (Sql.Database.run_execute_of_some refused)]
    exact World.statements_after _ _
  | none =>
    rw [run_bind_of_ok (Sql.Database.run_execute_of_none refused), run_bind_of_ok (run_attempt _ _),
      run_bind_of_ok (run_ofExcept _ _), run_execute_ofExcept, World.statements_after, describes,
      World.statements_after]
    simp

theorem statements_of_unanswered {α : Type} {x : Bool → Loader α} {routine table : String}
    {w : World} {e : LoaderError}
    (refused : db.failure w.statements (existsQuery (db.layer.quote table)) = some e) :
    ((whileMaterialized db.layer (.text routine) (.text table) x).run w).2.statements =
      w.statements ++ [existsQuery (db.layer.quote table)] := by
  have asked := run_isPermanent_text db table w
  rw [refused] at asked
  rw [whileMaterialized, run_bind_of_error asked]
  exact World.statements_after _ _

theorem statements_of_answered {α : Type} {x : Bool → Loader α} {routine table : String}
    (plain : Sql.isIdentifier table = true)
    (describes : ∀ b v, ((x b).run v).2.statements = v.statements ++ [tableDescription table])
    {w : World} (answered : db.failure w.statements (existsQuery (db.layer.quote table)) = none) :
    ((whileMaterialized db.layer (.text routine) (.text table) x).run w).2.statements =
      w.statements ++ existsQuery (db.layer.quote table) ::
        lookedAt db w.statements routine table := by
  have asked := run_isPermanent_text db table w
  rw [answered] at asked
  rw [whileMaterialized, run_bind_of_ok asked, lookedAt]
  generalize existsQuery (db.layer.quote table) = question
  have once : (w.after [.statement question]).statements = w.statements ++ [question] :=
    World.statements_after _ _
  cases db.holdsTable w.statements (.text table) with
  | true =>
    refine (describes false _).trans ?_
    rw [once, List.append_assoc]
    rfl
  | false =>
    cases named : Sql.isIdentifier routine with
    | false =>
      obtain ⟨e, odd⟩ := callStatement_refused named
      rw [odd]
      exact once
    | true =>
      refine (statements_of_called plain named (describes true) _).trans ?_
      rw [once, List.append_assoc]
      rfl

theorem statements_of_declaredColumns {table : String} (plain : Sql.isIdentifier table = true)
    (db : Sql.Database) (routine : String) (declared : Nat) (label : String) (w : World) :
    ((declaredColumns db.layer (.text routine) (.text table) declared label).run w).2.statements =
      w.statements ++ existsQuery (db.layer.quote table) ::
        if (db.failure w.statements (existsQuery (db.layer.quote table))).isSome then []
        else lookedAt db w.statements routine table := by
  refine (statements_of_bind_quiet (fun found => ?_) w).trans ?_
  · split
    · exact allowsQuiet_quiet.pure _
    · exact allowsQuiet_quiet.fail rfl
  · have describes (temporary : Bool) (v : World) := (statements_of_bind_quiet
      (f := fun found => Loader.log .debug .catalog ("Bulk insert table " ++
          (Value.text table).display ++ " (" ++ (if temporary then "temporary" else "permanent") ++
            "): " ++ toString found.fields.length ++ " columns") >>= fun _ => pure found)
      (fun _ => allowsQuiet_quiet.bind (allowsQuiet_quiet.log _ _ _) fun _ =>
        allowsQuiet_quiet.pure _) v).trans (statements_of_columns db (.text table) v)
    simp only [describeQuery_text plain] at describes
    cases refused : db.failure w.statements (existsQuery (db.layer.quote table)) with
    | some e => exact statements_of_unanswered refused
    | none => exact statements_of_answered plain describes refused

/-! ### What the statements begin with -/

theorem take_append {s : String} {c d : Char} (first : s.toList.take 2 = [c, d]) (t : String) :
    (s ++ t).toList.take 2 = [c, d] := by
  have long : 2 ≤ s.toList.length := by
    have counted := congrArg List.length first
    rw [List.length_take, List.length_cons, List.length_singleton] at counted
    omega
  rw [String.toList_append, List.take_append_of_le_length long, first]

theorem take_existsQuery (literal : String) :
    (existsQuery literal).toList.take 2 = ['\n', 's'] :=
  take_append (take_append rfl literal) _

theorem take_routineCall (routine : String) :
    (routineCall routine).toList.take 2 = ['c', 'a'] :=
  take_append (take_append rfl _) _

theorem take_tableDrop (table : String) : (tableDrop table).toList.take 2 = ['d', 'r'] :=
  take_append rfl _

theorem take_tableDescription (table : String) :
    (tableDescription table).toList.take 2 = ['d', 'e'] :=
  take_append rfl _

theorem ne_of_take {s t : String} {p q : List Char} (first : s.toList.take 2 = p)
    (first' : t.toList.take 2 = q) (different : p ≠ q) : s ≠ t := by
  rintro rfl
  exact different (first.symm.trans first')

section

variable {before pre post : List String} {routine table : String}

theorem routineCall_ne (literal routine table : String) :
    routineCall routine ≠ existsQuery literal ∧ routineCall routine ≠ tableDescription table ∧
      routineCall routine ≠ tableDrop table :=
  ⟨ne_of_take (take_routineCall _) (take_existsQuery _) (by decide),
    ne_of_take (take_routineCall _) (take_tableDescription _) (by decide),
    ne_of_take (take_routineCall _) (take_tableDrop _) (by decide)⟩

theorem tableDrop_ne (literal table : String) :
    tableDrop table ≠ existsQuery literal ∧ tableDrop table ≠ tableDescription table :=
  ⟨ne_of_take (take_tableDrop _) (take_existsQuery _) (by decide),
    ne_of_take (take_tableDrop _) (take_tableDescription _) (by decide)⟩

theorem lookedAt_of_permanent (permanent : db.holdsTable before (.text table) = true) :
    lookedAt db before routine table = [tableDescription table] :=
  if_pos permanent

/-- The call stands behind the question only, and what stands behind it depends on its answer. -/
theorem lookedAt_eq_append (called : lookedAt db before routine table =
    pre ++ routineCall routine :: post) :
    pre = [] ∧ post =
      if (db.failure (before ++ [existsQuery (db.layer.quote table)])
        (routineCall routine)).isSome then [] else [tableDescription table, tableDrop table] := by
  obtain ⟨-, other, other'⟩ := routineCall_ne "" routine table
  unfold lookedAt at called
  split at called
  · have listed : routineCall routine ∈ [tableDescription table] := by simp [called]
    exact absurd (List.mem_singleton.1 listed) other
  split at called
  · simp at called
  split at called
  -- Refused or not, the call is the first of the statements and the only one of its kind.
  all_goals
    rename_i answer
    cases pre with
    | nil =>
      rw [List.nil_append, List.cons.injEq] at called
      exact ⟨rfl, called.2.symm.trans (by simp [answer])⟩
    | cons s pre =>
      have listed : routineCall routine ∈ pre ++ routineCall routine :: post := by simp
      rw [List.cons_append, List.cons.injEq] at called
      rw [← called.2] at listed
      simp [other, other'] at listed

end

/-- The temporary table is released: it is dropped once, by the last of the statements. -/
structure Releases (table : String) (executed : List String) : Prop where
  once : executed.count (tableDrop table) = 1
  last : executed.getLast? = some (tableDrop table)

/-- The designated temporary table of a routine is released behind the call that made it, whatever
fails from then on, but it is not dropped if this call is refused. -/
theorem temporary_table_released {source : RoutineSource} {replacements : ReplaceTable}
    {a : Annotations} {table : String} {columns : List String}
    (annotated : Annotations.ofSource source replacements = .ok a)
    (bulk : a.designation = .bulkInsert table columns) (db : Sql.Database)
    (routine label : String) (w : World) :
    ∃ executed, ((declaredColumns db.layer (.text routine) (.text table) columns.length
        label).run w).2.statements = w.statements ++ executed ∧
      (db.holdsTable w.statements (.text table) = true →
        routineCall routine ∉ executed ∧ tableDrop table ∉ executed) ∧
      ∀ pre post, executed = pre ++ routineCall routine :: post → tableDrop table ∉ pre ∧
        (db.failure (w.statements ++ pre) (routineCall routine) = none → Releases table post) ∧
        (db.failure (w.statements ++ pre) (routineCall routine) ≠ none →
          tableDrop table ∉ post) := by
  obtain ⟨⟨_, designated⟩, -⟩ := Annotations.parts_of_ofSource annotated
  rw [bulk] at designated
  have plain := Designation.isIdentifier_of_bulkInsert designated
  have calls := routineCall_ne (db.layer.quote table) routine table
  have drops := tableDrop_ne (db.layer.quote table) table
  refine ⟨_, statements_of_declaredColumns plain db routine _ _ w, fun permanent => ?_,
    fun pre post split => ?_⟩
  · rw [lookedAt_of_permanent permanent]
    split <;> simp [calls, drops]
  · cases pre with
    | nil => exact absurd (List.cons.inj split).1.symm calls.1
    | cons s pre =>
      obtain ⟨rfl, rest⟩ := List.cons.inj split
      split at rest
      · simp at rest
      · obtain ⟨rfl, rfl⟩ := lookedAt_eq_append rest
        refine ⟨by simpa using drops.1, fun answered => ?_, fun refused => ?_⟩
        · rw [answered]
          exact ⟨by simp [drops.2.symm], by simp⟩
        · rw [if_pos (Option.isSome_iff_ne_none.2 refused)]
          simp

namespace Sample

def asked : World :=
  { files := StoredRoutines.Sample.filesWith StoredRoutines.Sample.bulkText,
    events := List.replicate 6 (.statement "select 1") }

def refusing : Sql.Database where
  failure _ sql := if sql = routineCall "a" then some ⟨.dataLayer, "refused", {}⟩ else none
  rows _ _ := []
  scalar _ _ := .null
  escape := Sql.escapeForScript

theorem refusing_answers {before : List String} {sql : String} (other : sql ≠ routineCall "a") :
    refusing.failure before sql = none :=
  if_neg other

end Sample

open StoredRoutines.Sample Sample in
/-- A table whose description loses the connection and whose drop is refused is released. -/
theorem undescribed_table_released : ∃ executed,
    ((declaredColumns losing.layer (.text "a") (.text "t") 1 "").run asked).2.statements =
      asked.statements ++ executed ∧
    ∃ pre post, executed = pre ++ routineCall "a" :: post ∧ Releases "t" post ∧
      losing.failure (asked.statements ++ pre ++ [routineCall "a"]) (tableDescription "t") ≠
        none := by
  obtain ⟨executed, statements, -, behind⟩ :=
    temporary_table_released ofSource_bulkSource rfl losing "a" "" asked
  have plain : Sql.isIdentifier "t" = true := by decide
  have whole := statements_of_declaredColumns plain losing "a" 1 "" asked
  have split : executed = [existsQuery (losing.layer.quote "t")] ++ routineCall "a" ::
      [tableDescription "t", tableDrop "t"] :=
    List.append_cancel_left (statements.symm.trans whole)
  exact ⟨_, statements, _, _, split, (behind _ _ split).2.1 rfl, nofun⟩

open StoredRoutines.Sample Sample in
/-- A routine that fails once it is called leaves its table behind. -/
theorem refused_call_not_released : ∃ executed,
    Annotations.ofSource bulkSource [] = .ok bulkAnnotations ∧
    bulkAnnotations.designation = .bulkInsert "t" ["x"] ∧
    ((declaredColumns refusing.layer (.text "a") (.text "t") 1 "").run asked).2.statements =
      asked.statements ++ executed ∧
    routineCall "a" ∈ executed ∧ tableDrop "t" ∉ executed := by
  have plain : Sql.isIdentifier "t" = true := by decide
  have whole := statements_of_declaredColumns plain refusing "a" 1 "" asked
  rw [refusing_answers (ne_of_take (take_existsQuery _) (take_routineCall _) (by decide))] at whole
  refine ⟨_, ofSource_bulkSource, rfl, whole, List.mem_cons_of_mem _ (List.mem_singleton_self _),
    ?_⟩
  rw [List.mem_cons, not_or]
  exact ⟨(tableDrop_ne _ _).1, by decide⟩

end BulkTable

end StoredRoutines
