import StoredRoutines.Text.Blank
import StoredRoutines.Text.Lines
import StoredRoutines.Text.Word

/-!
Documentation comments: the first block between `/**` and `*/`. The text before the first tag is a
short description, up to a blank line or a line that ends with a period, and a long one. A tag
starts on a line that begins with `@name` and lasts up to the next tag.
-/

namespace StoredRoutines

structure DocTag where
  name : String
  /-- Everything after the tag name. -/
  content : String
  /-- The content without the parameter name of a `param` tag. -/
  description : String
  deriving DecidableEq, Repr

structure DocComment where
  short : String := ""
  long : String := ""
  tags : List DocTag := []
  deriving DecidableEq, Repr

namespace DocComment

/-- What follows the first opening of a documentation comment. -/
def afterOpening? : List Char → Option (List Char)
  | '/' :: '*' :: '*' :: rest => some rest
  | _ :: cs => afterOpening? cs
  | [] => none

/-- What precedes the first closing of a comment. -/
def beforeClosing? : List Char → Option (List Char)
  | '*' :: '/' :: _ => some []
  | c :: cs => (beforeClosing? cs).map (c :: ·)
  | [] => none

/-- The text of the first documentation comment. -/
def block? (s : List Char) : Option (List Char) := (afterOpening? s).bind beforeClosing?

/-- A line without its margin: blanks, a star if there is one, and one space behind it. Further spaces
stay, so what is left may be indented, also if it is a tag. -/
def dropMargin (line : List Char) : List Char :=
  let rest :=
    match Text.trimLeft line with
    | '*' :: rest => rest
    | rest => rest
  match rest with
  | ' ' :: rest => rest
  | rest => rest

/-- The lines of a block without margins and without blanks at their ends. -/
def blockLines (block : List Char) : List (List Char) :=
  (Text.splitOn '\n' block).map fun line => Text.trimRight (dropMargin line)

/-- The line starts a tag, or at least looks like it. -/
def startsTag (line : List Char) : Bool := (Text.trimLeft line).head? == some '@'

/-- The groups of lines that start with a tag line, each as its first line and the others. -/
def tagGroups : List (List Char) → List (List Char × List (List Char))
  | [] => []
  | line :: lines =>
    if startsTag line then
      (Text.trim line, lines.takeWhile (!startsTag ·)) :: tagGroups lines
    else tagGroups lines

def isBlankLine (line : List Char) : Bool := (Text.trim line).isEmpty

/-- The lines of the short description, and the lines after it. -/
def splitShort : List (List Char) → List (List Char) × List (List Char)
  | [] => ([], [])
  | line :: lines =>
    if isBlankLine line then ([], line :: lines)
    -- The line that ends with a period is the last of the short description.
    else if (Text.trimRight line).getLast? = some '.' then ([Text.trim line], lines)
    else
      let r := splitShort lines
      (Text.trim line :: r.1, r.2)

/-- The short and the long description in the lines before the first tag. -/
def descriptions (lines : List (List Char)) : List Char × List Char :=
  let r := splitShort (lines.dropWhile isBlankLine)
  (Text.joinWith ' ' r.1, Text.trim (Text.joinWith '\n' r.2))

/-- A character of a tag name after the first. -/
def isTagChar (c : Char) : Bool := Text.isWord c || c = '-'

/-- The name on a tag line and what follows it. A tag name starts with an ASCII letter. -/
def tagName? : List Char → Option (List Char × List Char)
  | '@' :: c :: cs =>
    if c.isAlpha then some (c :: cs.takeWhile isTagChar, Text.trimLeft (cs.dropWhile isTagChar))
    else none
  | _ => none

def afterFirstWord (s : List Char) : List Char := Text.trimLeft (s.dropWhile (!Text.isBlank ·))

/-- The tag that a group of lines makes; none if its name is malformed. -/
def tagOfGroup? (group : List Char × List (List Char)) : Option DocTag :=
  match tagName? group.1 with
  | none => none
  | some (name, rest) =>
    let content := Text.trim (Text.joinWith '\n' (rest :: group.2))
    let description := if name = "param".toList then afterFirstWord content else content
    some ⟨String.ofList name, String.ofList content, String.ofList description⟩

def ofBlock (block : List Char) : DocComment :=
  let lines := blockLines block
  let (short, long) := descriptions (lines.takeWhile (!startsTag ·))
  ⟨String.ofList short, String.ofList long, (tagGroups lines).filterMap tagOfGroup?⟩

/-- The first documentation comment of a text; empty if there is none. -/
def ofText (text : String) : DocComment :=
  match block? text.toList with
  | some block => ofBlock block
  | none => {}

def tagsNamed (d : DocComment) (name : String) : List DocTag := d.tags.filter (·.name == name)

/-- Name and description of a `param` tag. The name is the content before the description, and
every line of the description is trimmed. -/
def parameterDescription (tag : DocTag) : String × String :=
  let content := tag.content.toList
  let description := tag.description.toList
  (String.ofList (Text.trim (content.take (content.length - description.length))),
    String.ofList (Text.joinWith '\n' ((Text.splitOn '\n' description).map Text.trim)))

def parameterDescriptions (d : DocComment) : List (String × String) :=
  (d.tagsNamed "param").map parameterDescription

end DocComment

end StoredRoutines
