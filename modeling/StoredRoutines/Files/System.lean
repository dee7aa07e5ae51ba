import StoredRoutines.Assoc
import StoredRoutines.Files.Fault
import StoredRoutines.Number.Binary64

/-!
A file system without links: directories and files by their place, and a working directory that
relative paths start from. Every access walks the components of a path, so a missing directory, a
file in the place of one, or a component that is too long stops it.
-/

namespace StoredRoutines

/-- The components of an absolute path without double dots. -/
abbrev Location := List String

structure File where
  content : ByteArray
  /-- Time of the last change, in nanoseconds. -/
  modified : Int

instance : DecidableEq File := fun a b =>
  decidable_of_iff (a.content.data = b.content.data ∧ a.modified = b.modified) (by
    obtain ⟨⟨x⟩, s⟩ := a
    obtain ⟨⟨y⟩, t⟩ := b
    simp)

inductive Node where
  | file (f : File)
  | directory
  deriving DecidableEq

structure FileSystem where
  entries : List (Location × Node)
  workingDirectory : Location

namespace FileSystem

/-- Only the working directory and the directories above it. -/
def empty (workingDirectory : Location) : FileSystem where
  entries := (List.range workingDirectory.length).map fun n =>
    (workingDirectory.take (n + 1), .directory)
  workingDirectory := workingDirectory

def node? (fs : FileSystem) (l : Location) : Option Node :=
  if l.isEmpty then some .directory else fs.entries.lookup l

/-- Bytes that a component may have. -/
def maxNameSize : Nat := 255

/-- Bytes that a path may not reach. -/
def pathSizeLimit : Nat := 4096

/-- Walks from a place along components. All but the last must be directories. -/
def walk (fs : FileSystem) (l : Location) : List String → Except FileFault Location
  | [] => .ok l
  | part :: rest =>
    match fs.node? l with
    | none => .error .missing
    | some (.file _) => .error .notDirectory
    | some .directory =>
      if maxNameSize < part.utf8ByteSize then .error .nameTooLong
      -- The place itself need not exist yet, so only what is walked through is looked at.
      else fs.walk (if part = ".." then l.dropLast else l ++ [part]) rest

/-- The place that a path leads to. There need not be anything. -/
def locate (fs : FileSystem) (p : Path) : Except FileFault Location :=
  if !p.isNameable then .error .unnameable
  else if pathSizeLimit ≤ p.toText.utf8ByteSize then .error .nameTooLong
  else fs.walk (if p.root.isEmpty then fs.workingDirectory else []) p.parts

def find (fs : FileSystem) (p : Path) : Except FileFault Node :=
  match fs.locate p with
  | .error e => .error e
  | .ok l =>
    match fs.node? l with
    | some n => .ok n
    | none => .error .missing

/-- What stands at a path, if anything does. Only a name that is too long is a fault. -/
def find? (fs : FileSystem) (p : Path) : Except FileFault (Option Node) :=
  match fs.find p with
  | .ok n => .ok (some n)
  | .error .nameTooLong => .error .nameTooLong
  | .error _ => .ok none

def read (fs : FileSystem) (p : Path) : Except FileFault File :=
  match fs.find p with
  | .ok (.file f) => .ok f
  | .ok .directory => .error .isDirectory
  | .error e => .error e

def put (fs : FileSystem) (l : Location) (n : Node) : FileSystem :=
  { fs with entries := Assoc.put l n fs.entries }

/-- Makes one directory in a directory that exists. -/
def makeDirectory (fs : FileSystem) (p : Path) : Except FileFault FileSystem :=
  match fs.locate p with
  | .error e => .error e
  | .ok l =>
    match fs.node? l with
    | some _ => .error .exists
    | none => .ok (fs.put l .directory)

/-- The files after directories were made, and the fault that put an end to it with its path. -/
structure Making where
  files : FileSystem
  fault : Option (FileFault × Path) := none

/-- Makes a directory, or leaves the one that is there. -/
def makeOrKeep (fs : FileSystem) (p : Path) : Making :=
  match fs.makeDirectory p with
  | .ok made => ⟨made, none⟩
  | .error e =>
    match fs.find? p with
    | .ok (some .directory) => ⟨fs, none⟩
    | .ok _ => ⟨fs, some (e, p)⟩
    | .error e => ⟨fs, some (e, p)⟩

/-- Makes a directory and the missing ones above it. The components come in reverse order. What was
made before a fault stays. -/
def makeDirectoriesRev (fs : FileSystem) (root : String) : List String → Making
  | [] => fs.makeOrKeep ⟨root, []⟩
  | part :: above =>
    let p : Path := ⟨root, (part :: above).reverse⟩
    match fs.makeDirectory p with
    | .error .missing =>
      let made := fs.makeDirectoriesRev root above
      match made.fault with
      | none => made.files.makeOrKeep p
      | some _ => made
    | _ => fs.makeOrKeep p

def makeDirectories (fs : FileSystem) (p : Path) : Making :=
  fs.makeDirectoriesRev p.root p.parts.reverse

/-- Writes a file in a directory that exists. -/
def write (fs : FileSystem) (p : Path) (f : File) : Except FileFault FileSystem :=
  match fs.locate p with
  | .error e => .error e
  | .ok l =>
    match fs.node? l with
    | some .directory => .error .isDirectory
    | _ =>
      if fs.node? l.dropLast = some .directory then .ok (fs.put l (.file f)) else .error .missing

def remove (fs : FileSystem) (p : Path) : Except FileFault FileSystem :=
  match fs.locate p with
  | .error e => .error e
  | .ok l =>
    match fs.node? l with
    | none => .error .missing
    | some .directory => .error .isDirectory
    | some (.file _) => .ok { fs with entries := Assoc.remove l fs.entries }

/-- Moves a file over whatever file stands at the target. A path that ends in double dots names no
entry of a directory that could be replaced. -/
def move (fs : FileSystem) (p q : Path) : Except FileFault FileSystem :=
  match fs.locate p, fs.locate q with
  | .error e, _ => .error e
  | _, .error e => .error e
  | .ok source, .ok target =>
    if p.name = ".." || q.name = ".." then .error .busy
    else
      match fs.node? source, fs.node? target with
      | none, _ => .error .missing
      | some .directory, _ => .error .isDirectory
      | some (.file _), some .directory => .error .isDirectory
      | some (.file f), _ =>
        if source = target then .ok fs
        else .ok { fs with entries := Assoc.remove source (Assoc.put target (.file f) fs.entries) }

/-- The files below a place, by the components that lead to them from there. -/
def filesBelow (fs : FileSystem) (l : Location) : List (List String) :=
  fs.entries.filterMap fun e =>
    match e.2 with
    | .directory => none
    | .file _ => l.isPrefixOf? e.1

end FileSystem

end StoredRoutines
