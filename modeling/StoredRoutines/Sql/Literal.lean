import StoredRoutines.Failure

/-!
String literals. A literal is the escaped text between single quotes; how a text is escaped depends
on the data layer. A missing or empty text is written `NULL`.
-/

namespace StoredRoutines.Sql

/-- The escape of one character for a server: quotes, backslashes, line ends and U+001A. -/
def serverEscape (c : Char) : List Char :=
  if c = '\\' || c = '\'' || c = '"' || c = '\x1a' then ['\\', c]
  else if c = '\n' then ['\\', 'n']
  else if c = '\r' then ['\\', 'r']
  else [c]

def escapeForServer (s : String) : String := String.ofList (s.toList.flatMap serverEscape)

/-- The escape of one character for a scripted database: backslashes and single quotes. -/
def scriptEscape (c : Char) : List Char :=
  if c = '\\' || c = '\'' then ['\\', c] else [c]

def escapeForScript (s : String) : String := String.ofList (s.toList.flatMap scriptEscape)

/-- The escaped text between single quotes. -/
def literal (escape : String → String) (s : String) : String := "'" ++ escape s ++ "'"

/-- The literal of a text, or `NULL` if it is empty. -/
def quoteText (escape : String → String) (s : String) : String :=
  if s.isEmpty then "NULL" else literal escape s

def quoteOptional (escape : String → String) : Option String → String
  | none => "NULL"
  | some s => quoteText escape s

def decodeBytes (bytes : List UInt8) : Except Failure String :=
  match Text.decode ⟨bytes.toArray⟩ with
  | .ok s => .ok s
  | .error fault => .error (.defect (.undecodable fault))

end StoredRoutines.Sql
