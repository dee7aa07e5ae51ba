import StoredRoutines.Loader
import StoredRoutines.Sql.Literal
import StoredRoutines.Text.Lines

/-!
Access to a database, as the loader sees it: statements, queries for rows or for one value, and the
escaping of texts. A database whose answers depend on nothing but the statements it has seen is one
such access; a script with a few answers is the simplest of those.
-/

namespace StoredRoutines.Sql

/-- A result row: values by column, in the order of the columns. -/
abbrev Row := List (String × Value)

structure DataLayer where
  /-- Executes a statement that yields no rows. -/
  execute : String → Loader Unit
  /-- Executes a query for rows. -/
  rows : String → Loader (List Row)
  /-- Executes a query for at most one row; its first column, or null. -/
  scalar : String → Loader Value
  /-- Escapes a text for use in a string literal. -/
  escape : String → String

namespace Row

def toValue (row : Row) : Value := .object (row.map fun c => (.text c.1, c.2))

end Row

def DataLayer.quote (layer : DataLayer) (s : String) : String := quoteText layer.escape s

/-- The literal of a name that may be missing. Only texts can be escaped. -/
def DataLayer.quoteValue (layer : DataLayer) : Value → Except Failure String
  | .null => .ok (quoteOptional layer.escape none)
  | .text s => .ok (layer.quote s)
  | v => .error (.defect (.noTextFunction v "replace"))

/-- A database by its answers. Each depends on the statements seen before and on the statement. -/
structure Database where
  failure : List String → String → Option LoaderError
  rows : List String → String → List Row
  scalar : List String → String → Value
  escape : String → String

namespace Database

/-- Records the statement, then fails or answers. -/
def answer {α : Type} (db : Database) (result : List String → String → α) (sql : String) :
    Loader α := do
  let before := (← Loader.getWorld).statements
  Loader.emit (.statement sql)
  match db.failure before sql with
  | some e => Loader.raise e
  | none => return result before sql

def layer (db : Database) : DataLayer where
  execute := db.answer fun _ _ => ()
  rows := db.answer db.rows
  scalar := db.answer db.scalar
  escape := db.escape

/-- The answers do not depend on the statements seen before. -/
def Stateless (db : Database) : Prop :=
  (∀ before sql, db.failure before sql = db.failure [] sql) ∧
    (∀ before sql, db.rows before sql = db.rows [] sql) ∧
    ∀ before sql, db.scalar before sql = db.scalar [] sql

end Database

/-- Answers by parts of statements. The first part that a statement contains decides. -/
structure Script where
  rows : List (String × List Row) := []
  scalars : List (String × Value) := []
  failures : List (String × LoaderError) := []

namespace Script

/-- The first entry whose key occurs in the statement. -/
def choose {α : Type} (entries : List (String × α)) (sql : String) : Option α :=
  (entries.find? fun e => Text.occursIn e.1.toList sql.toList).map (·.2)

def database (s : Script) : Database where
  failure _ sql := choose s.failures sql
  rows _ sql := (choose s.rows sql).getD []
  scalar _ sql := (choose s.scalars sql).getD .null
  escape := escapeForScript

theorem stateless (s : Script) : s.database.Stateless :=
  ⟨fun _ _ => rfl, fun _ _ => rfl, fun _ _ => rfl⟩

end Script

end StoredRoutines.Sql
