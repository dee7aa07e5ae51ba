import StoredRoutines.Record.Basic
import StoredRoutines.Routine.Placeholder
import StoredRoutines.Schema.Routines
import StoredRoutines.Settings

/-!
Whether a routine must be loaded again. The rules are tried in a fixed order and the first that
applies is the reason: no record, another time of change, a placeholder without its value, no entry
in the catalog, other session settings. SQL modes are compared as sets of names, since a server
lists them in an order of its own.
-/

namespace StoredRoutines

inductive StaleReason where
  | noRecord
  | modified
  /-- The name of the placeholder as the record has it. -/
  | placeholderRemoved (token : Atom)
  | placeholderChanged (token : String)
  | notInCatalog
  | otherSqlMode
  | otherCharacterSet
  | otherCollation
  deriving DecidableEq, Repr

namespace StaleReason

def message : StaleReason → String
  | noRecord => "no previous metadata"
  | modified => "source file modified"
  | placeholderRemoved token => "placeholder " ++ token.display ++ " removed"
  | placeholderChanged token => "placeholder " ++ token ++ " changed"
  | notInCatalog => "routine not in database"
  | otherSqlMode => "sql_mode changed"
  | otherCharacterSet => "character set changed"
  | otherCollation => "collation changed"

/-- The message by its code points. The name of a placeholder may hold a surrogate that stands
alone. -/
def messagePoints : StaleReason → List Nat
  | placeholderRemoved token =>
    Atom.points "placeholder " ++ token.displayPoints ++ Atom.points " removed"
  | reason => Atom.points reason.message

end StaleReason

/-- A routine is as its record says, or must be loaded for a reason. -/
inductive Freshness where
  | upToDate (record : BuildRecord)
  | stale (reason : StaleReason)
  deriving Repr

namespace Freshness

def reason? : Freshness → Option StaleReason
  | upToDate _ => none
  | stale reason => some reason

/-- The names in a list of SQL modes, in upper case. -/
def modes (s : String) : List String :=
  ((Text.splitOn ',' s.toList).map Text.trim).filterMap fun m =>
    if m.isEmpty then none else some (Text.upper (String.ofList m))

def modesOf (v : Value) : Except Failure (List String) :=
  if v.isNothing then .ok []
  else
    match v with
    | .text s => .ok (modes s)
    -- A text with lone surrogates is still a text.
    | .atom (.broken points) => .ok (modes (Atom.broken points).display)
    | .bytes _ => Value.refuse "a bytes-like object is required, not 'str'"
    | v => .error (.defect (.noTextFunction v "split"))

def sameElements (xs ys : List String) : Bool :=
  (xs.all fun x => ys.contains x) && ys.all fun y => xs.contains y

/-- The first recorded placeholder whose value is gone or differs. -/
def ofPlaceholders (table : ReplaceTable) :
    List (Atom × Value) → Except Failure (Option StaleReason)
  | [] => .ok none
  | (.text token, recorded) :: rest =>
    match Placeholder.value? table token with
    | none => .ok (some (.placeholderRemoved token))
    | some v =>
      if recorded = .text v.display then ofPlaceholders table rest
      else .ok (some (.placeholderChanged token))
  | (key, _) :: _ =>
    -- Lone surrogates and bytes have an upper case too, but neither is a key of the table.
    if key.isText || key.isBytes then .ok (some (.placeholderRemoved key))
    else .error (.defect (.noTextFunction (.atom key) "upper"))

/-- What in the catalog differs from the session settings. -/
def ofCatalog (session : SessionSettings) :
    Option CatalogEntry → Except Failure (Option StaleReason)
  | none => .ok (some .notInCatalog)
  | some entry => do
    if !sameElements (← modesOf entry.sqlMode) (modes session.sqlMode) then
      return some .otherSqlMode
    else if entry.characterSet ≠ .text session.characterSet then return some .otherCharacterSet
    else if entry.collation ≠ .text session.collation then return some .otherCollation
    else return none

/-- Judges a routine by its record, the time of change of its source, the values of placeholders,
the session settings, and its entry in the catalog. -/
def judge (record : Option BuildRecord) (modified : Int) (table : ReplaceTable)
    (session : SessionSettings) (entry : Option CatalogEntry) : Except Failure Freshness := do
  match record with
  | none => return stale .noRecord
  | some record =>
    if record.timestamp ≠ modified then return stale .modified
    match ← ofPlaceholders table record.replace with
    | some reason => return stale reason
    | none =>
      match ← ofCatalog session entry with
      | some reason => return stale reason
      | none => return upToDate record

end Freshness

end StoredRoutines
