import StoredRoutines.Text.Lines
import StoredRoutines.Text.Numeral

/-!
The arguments of the command line: `[-v] load [--dry-run] [options] [file …]` or
`[-v] check [options] [file …]`. A long option may be cut short as long as it stays unambiguous, its
value may be attached with an equals sign, and flags of one letter may be joined. Two hyphens end
the options. Whoever asks for help gets it, unless an error comes first.
-/

namespace StoredRoutines.Command

/-- Why the arguments lead to no run. -/
inductive Stop where
  | help
  | misuse
  deriving DecidableEq, Repr

def Stop.exitCode : Stop → Nat
  | .help => 0
  | .misuse => 2

inductive Switch where
  | help
  | verbose
  | dryRun
  | sourceDirectory
  | extension
  | metadata
  | constants
  deriving DecidableEq, Repr

def Switch.takesValue : Switch → Bool
  | .help | .verbose | .dryRun => false
  | _ => true

abbrev OptionTable := List (String × Switch)

def mainOptions : OptionTable :=
  [("-h", .help), ("--help", .help), ("--verbose", .verbose), ("-v", .verbose)]

inductive Task where
  | load
  | check
  deriving DecidableEq, Repr

namespace Task

def name : Task → String
  | load => "load"
  | check => "check"

def ofName? (s : String) : Option Task := [load, check].find? fun t => t.name = s

def options (t : Task) : OptionTable :=
  [("-h", .help), ("--help", .help)] ++
    (match t with
      | load => [("--dry-run", .dryRun)]
      | check => []) ++
    [("--source-dir", .sourceDirectory), ("--extension", .extension), ("--metadata", .metadata),
      ("--constants", .constants)]

end Task

/-- What is written together with an option. -/
inductive Attachment where
  | nothing
  /-- A value behind an equals sign. -/
  | value (s : String)
  /-- What follows the letter of a short option. -/
  | letters (cs : List Char)
  deriving DecidableEq, Repr

/-- What an argument is before its meaning is known. -/
inductive Word where
  | operand (s : String)
  /-- Two hyphens: all that follows is operands. -/
  | separator
  | option (switch : Switch) (attached : Attachment)
  | unknownOption
  deriving DecidableEq, Repr

namespace Word

/-- The part before the first equals sign, and the value after it if there is one. -/
def cut (s : List Char) : List Char × Attachment :=
  match s.dropWhile (· != '=') with
  | _ :: value => (s.takeWhile (· != '='), .value (String.ofList value))
  | [] => (s, .nothing)

/-- A number with a minus sign, possibly with a point. -/
def isNegativeNumber (s : List Char) : Bool :=
  let body := if s.getLast? = some '\n' then s.dropLast else s
  let isDigit := fun c => (Text.digitValue? c).isSome
  match body with
  | '-' :: rest =>
    match rest.dropWhile isDigit with
    | [] => !rest.isEmpty
    | '.' :: decimals => !decimals.isEmpty && decimals.all isDigit
    | _ => false
  | _ => false

/-- The options that an argument may mean when none is written exactly so. -/
def candidates (options : OptionTable) (s : List Char) : List Word :=
  match s with
  | '-' :: '-' :: _ =>
    let (name, attached) := cut s
    (options.filter fun o => name.isPrefixOf o.1.toList).map fun o =>
      .option o.2 attached
  | '-' :: letter :: rest =>
    (options.filter fun o => o.1.toList = ['-', letter]).map fun o =>
      .option o.2 (.letters rest)
  | _ => []

/-- What an equals sign attaches to an option of the given name. Behind a single letter it attaches
further letters. -/
def attachment (name : List Char) (value : String) : Attachment :=
  if ['-', '-'].isPrefixOf name || value.isEmpty then .value value else .letters value.toList

/-- The word for an argument that starts with a hyphen and is no option as it stands. -/
def ofUnlisted (options : OptionTable) (s : List Char) : Except Stop Word :=
  let (name, attached) := cut s
  match attached, options.lookup (String.ofList name) with
  | .value value, some switch => .ok (.option switch (attachment name value))
  | _, _ =>
    match candidates options s with
    | [word] => .ok word
    | [] => .ok (if isNegativeNumber s || s.contains ' ' then .operand (String.ofList s)
        else .unknownOption)
    | _ => .error .misuse

def ofArgument (options : OptionTable) (s : String) : Except Stop Word :=
  match options.lookup s with
  | some switch => .ok (.option switch .nothing)
  | none =>
    match s.toList with
    | '-' :: c :: cs => ofUnlisted options ('-' :: c :: cs)
    | _ => .ok (.operand s)

def ofArguments (options : OptionTable) : List String → Except Stop (List Word)
  | [] => .ok []
  | s :: rest =>
    if s = "--" then .ok (.separator :: rest.map .operand)
    else do
      let word ← ofArgument options s
      return word :: (← ofArguments options rest)

/-- The flags that a flag with further letters stands for. Every letter must be a flag. -/
def joinedFlags (options : OptionTable) (switch : Switch) : List Char → Except Stop (List Switch)
  | [] => .ok [switch]
  | letter :: rest =>
    match options.lookup (String.ofList ['-', letter]) with
    | none => .error .misuse
    | some next => (joinedFlags options next rest).map (switch :: ·)

/-- The flags that a flag with its attachment stands for. A flag takes no value. -/
def flags (options : OptionTable) (switch : Switch) : Attachment → Except Stop (List Switch)
  | .nothing => .ok [switch]
  | .value _ => .error .misuse
  | .letters cs => joinedFlags options switch cs

end Word

/-- What is known of an option that takes a value. -/
inductive OptionValue where
  | absent
  /-- The option was given no text. -/
  | empty
  | text (s : String)
  deriving DecidableEq, Repr

namespace OptionValue

/-- The value that an argument gives. Two hyphens only mark an end and give nothing. -/
def ofArgument (s : String) : OptionValue := if s = "--" then empty else text s

/-- The text, unless it is empty. -/
def text? : OptionValue → Option String
  | text s => if s.isEmpty then none else some s
  | _ => none

end OptionValue

structure Arguments where
  task : Task
  verbose : Bool := false
  dryRun : Bool := false
  sourceDirectory : OptionValue := .absent
  extension : OptionValue := .absent
  metadata : OptionValue := .absent
  constants : OptionValue := .absent
  files : List String := []
  deriving DecidableEq, Repr

namespace Arguments

def withValue (a : Arguments) (switch : Switch) (argument : String) : Arguments :=
  let value := OptionValue.ofArgument argument
  match switch with
  | .sourceDirectory => { a with sourceDirectory := value }
  | .extension => { a with extension := value }
  | .metadata => { a with metadata := value }
  | .constants => { a with constants := value }
  | _ => a

def withFlag (a : Arguments) : Switch → Except Stop Arguments
  | .help => .error .help
  | .verbose => .ok { a with verbose := true }
  | .dryRun => .ok { a with dryRun := true }
  | _ => .error .misuse

/-- How far the operands have come: only one run of them is taken. -/
inductive Phase where
  | before
  | during
  | after
  deriving DecidableEq, Repr

structure Progress where
  arguments : Arguments
  phase : Phase := .before
  /-- There was an argument that nothing takes. -/
  surplus : Bool := false
  deriving Repr

namespace Progress

/-- An option ends the run of operands. -/
def endRun (p : Progress) : Progress :=
  if p.phase = .during then { p with phase := .after } else p

def addOperands (p : Progress) (operands : List String) : Progress :=
  if p.phase = .after then { p with surplus := true }
  else
    { p with
      arguments := { p.arguments with files := p.arguments.files ++ operands }
      phase := .during }

def withValue (p : Progress) (switch : Switch) (value : String) : Progress :=
  { p with arguments := p.arguments.withValue switch value }

end Progress

/-- Takes the words behind the name of the task. -/
def ofTaskWords (options : OptionTable) (p : Progress) : List Word → Except Stop Progress
  | [] => .ok p
  | .operand s :: rest => ofTaskWords options (p.addOperands [s]) rest
  | .separator :: rest => ofTaskWords options (p.addOperands []) rest
  | .unknownOption :: rest => ofTaskWords options { p.endRun with surplus := true } rest
  | .option switch attached :: rest =>
    let p := p.endRun
    if switch.takesValue then
      match attached, rest with
      | .value value, rest => ofTaskWords options (p.withValue switch value) rest
      | .letters cs, rest => ofTaskWords options (p.withValue switch (String.ofList cs)) rest
      | .nothing, .operand value :: rest => ofTaskWords options (p.withValue switch value) rest
      | .nothing, _ => .error .misuse
    else do
      let flags ← Word.flags options switch attached
      let arguments ← flags.foldlM withFlag p.arguments
      ofTaskWords options { p with arguments := arguments } rest

def ofTask (task : Task) (verbose surplus : Bool) (rest : List String) :
    Except Stop Arguments := do
  let words ← Word.ofArguments task.options rest
  let p ← ofTaskWords task.options
    { arguments := { task := task, verbose := verbose }, surplus := surplus } words
  if p.surplus then .error .misuse else return p.arguments

/-- Takes the words up to the name of the task. Each word stands for one argument. -/
def ofMainWords (verbose surplus : Bool) : List Word → List String → Except Stop Arguments
  | .operand name :: _, _ :: rest =>
    match Task.ofName? name with
    | some task => ofTask task verbose surplus rest
    | none => .error .misuse
  | .unknownOption :: words, _ :: rest => ofMainWords verbose true words rest
  | .option switch attached :: words, _ :: rest => do
    let flags ← Word.flags mainOptions switch attached
    if flags.contains .help then .error .help
    else ofMainWords true surplus words rest
  | _, _ => .error .misuse

def ofCommandLine (arguments : List String) : Except Stop Arguments := do
  ofMainWords false false (← Word.ofArguments mainOptions arguments) arguments

end Arguments

end StoredRoutines.Command
