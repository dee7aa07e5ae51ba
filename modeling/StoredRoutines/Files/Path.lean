import StoredRoutines.Text.Lines

/-!
Paths with slashes. A path is kept in normal form: empty components and single dots are gone, and
exactly two leading slashes differ from one. Double dots stay, since they mean something only
against a file system.
-/

namespace StoredRoutines

structure Path where
  /-- Empty for a relative path, else `/` or `//`. -/
  root : String
  parts : List String
  deriving DecidableEq, Repr, Inhabited

namespace Path

/-- The leading slashes that count. -/
def rootOf : List Char → String
  | '/' :: '/' :: '/' :: _ => "/"
  | '/' :: '/' :: _ => "//"
  | '/' :: _ => "/"
  | _ => ""

def ofString (s : String) : Path where
  root := rootOf s.toList
  parts := (Text.pieces '/' s).filter fun part => part != "" && part != "."

/-- The path as text; a dot if nothing is left of it. -/
def toText (p : Path) : String :=
  if p.root.isEmpty && p.parts.isEmpty then "." else p.root ++ "/".intercalate p.parts

/-- The last component, empty if there is none. -/
def name (p : Path) : String := p.parts.getLast?.getD ""

/-- The path can be named to a file system: it holds no character NUL. -/
def isNameable (p : Path) : Bool := p.parts.all fun part => !part.toList.contains (Char.ofNat 0)

def parent (p : Path) : Path := { p with parts := p.parts.dropLast }

def append (p : Path) (more : List String) : Path := { p with parts := p.parts ++ more }

/-- The path beside this one whose name is this name and an ending; none if the path has no name. -/
def sibling? (p : Path) (ending : String) : Option Path :=
  if p.parts.isEmpty then none else some { p with parts := p.parts.dropLast ++ [p.name ++ ending] }

/-- The components by which paths are ordered. A root counts as the first of them. -/
def key (p : Path) : List String := if p.root.isEmpty then p.parts else p.root :: p.parts

/-- Earlier in the order of component lists, or equal. -/
def precedes (p q : Path) : Bool := !List.lex q.key p.key fun a b => decide (a < b)

/-- Components without the double dots, each of which removes the component before it. -/
def collapse (before : List String) : List String → List String
  | [] => before
  | part :: rest => collapse (if part = ".." then before.dropLast else before ++ [part]) rest

/-- The absolute path that a path means in a directory. -/
def absolute (directory : List String) (p : Path) : Path where
  root := "/"
  parts := collapse (if p.root.isEmpty then directory else []) p.parts

end Path

def sortPaths (paths : List Path) : List Path := paths.mergeSort Path.precedes

end StoredRoutines
