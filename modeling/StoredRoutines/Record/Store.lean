import StoredRoutines.Json.Reader
import StoredRoutines.Json.Writer
import StoredRoutines.Loader
import StoredRoutines.Record.Basic

/-!
The store of build records: one file that holds an object with a member for each routine. A store
that does not exist is empty. Writing goes to a draft beside the store that is then moved over it,
so the store is never half written; a draft that could not be finished stays.
-/

namespace StoredRoutines

/-- Build records by routine name. -/
abbrev RecordStore := List (Atom × BuildRecord)

namespace RecordStore

def unreadable (p : Path) (explanation : String) : LoaderError :=
  ⟨.metadata, "Cannot read metadata store " ++ p.toText ++ explanation, {}⟩

def unwritable (p : Path) (explanation : String) : LoaderError :=
  ⟨.metadata, "Cannot write metadata store " ++ p.toText ++ ": " ++ explanation, {}⟩

def notAnObject (p : Path) : LoaderError :=
  ⟨.metadata, "Metadata store " ++ p.toText ++ " does not hold a JSON object.", {}⟩

def malformed (p : Path) (explanation : String) : LoaderError :=
  ⟨.metadata, "Malformed record in metadata store " ++ p.toText ++ explanation, {}⟩

/-- The failure of reading a record, as a failure of reading the store. A member that is missing is
named. A value that lacks a function, or that is out of all bounds, stays the failure it is. -/
def recordFailure (p : Path) : Failure → Failure
  | .defect (.missingKey key) => .error (malformed p (": " ++ Text.quoted key))
  | .defect (.wrongType _) | .defect (.invalidValue _) => .error (malformed p "")
  | e => e

def ofValue (p : Path) : Value → Except Failure RecordStore
  | .object fields =>
    let records := fields.mapM fun f => (BuildRecord.ofValue f.2).map fun r => (f.1, r)
    records.mapError (recordFailure p)
  | _ => .error (.error (notAnObject p))

/-- Levels of nesting that a store may have. -/
def maxDepth : Nat := 985

def ofBytes (p : Path) (content : ByteArray) : Except Failure RecordStore :=
  match Text.decode content with
  | .error _ => .error (.error (unreadable p ""))
  | .ok s =>
    match Json.parseWithin maxDepth (Text.withUnifiedLineEnds s) with
    | .error .malformed => .error (.error (unreadable p ""))
    | .error .tooDeep => .error (.defect .tooDeep)
    | .ok v => ofValue p v

def load (fs : FileSystem) (p : Path) : Except Failure RecordStore :=
  match fs.find? p with
  | .error fault => .error (fault.unforeseen p)
  | .ok none => .ok []
  | .ok (some _) =>
    match fs.read p with
    | .error fault => .error (fault.toFailure (unreadable p (": " ++ fault.describe p)))
    | .ok f => ofBytes p f.content

def read (p : Path) : Loader RecordStore := do
  Loader.ofExcept (load (← Loader.getFiles) p)

/-- The store as an object whose members are in the order of their names. -/
def toValue (store : RecordStore) : Except Failure Value := do
  let sorted ← Atom.sortEntries store
  return .object (← sorted.mapM fun e => e.2.toValue.map fun v => (e.1, v))

/-- The content of a file for the output: a line end follows if it is complete. -/
def content (output : Json.Output) : ByteArray :=
  (String.ofList (output.characters ++ if output.failure.isNone then ['\n'] else [])).toUTF8

/-- Goes on with the changed files, or ends with the fault of the change. -/
def change (p : Path) (explain : FileFault → String) (changed : Except FileFault FileSystem) :
    Loader Unit :=
  match changed with
  | .ok fs => Loader.setFiles fs
  | .error fault => Loader.fail (fault.toFailure (unwritable p (explain fault)))

def makeRoom (p : Path) : Loader Unit := do
  let made := (← Loader.getFiles).makeDirectories p.parent
  Loader.setFiles made.files
  match made.fault with
  | none => pure ()
  | some (fault, place) => Loader.fail (fault.toFailure (unwritable p (fault.describe place)))

def write (p : Path) (store : RecordStore) : Loader Unit := do
  -- Names that have no common order fail here, before a directory is made.
  let v ← Loader.ofExcept store.toValue
  match p.sibling? ".tmp" with
  | none => Loader.fail (.defect (.invalidValue "the path has an empty name"))
  | some draft =>
    makeRoom p
    let output := Json.render v
    change p (·.describe draft) ((← Loader.getFiles).write draft ⟨content output, 0⟩)
    -- What was written of a value that fails midway stays in the draft; the store is not touched.
    match output.failure with
    | some e => Loader.fail e
    | none => change p (·.describeMove draft p) ((← Loader.getFiles).move draft p)

end RecordStore

end StoredRoutines
