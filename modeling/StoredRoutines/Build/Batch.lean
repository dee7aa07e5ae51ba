import StoredRoutines.Build.Assess
import StoredRoutines.Build.Compile
import StoredRoutines.Record.Store
import StoredRoutines.Schema.ColumnTypes
import StoredRoutines.Value.Order

/-!
A batch: every routine that must be loaded is loaded, and the store is written. A batch over all
sources also removes what has no source any more. Two sources of one name both fail, and a failed
routine keeps its record.
-/

namespace StoredRoutines

structure BatchResult where
  /-- The results in the order of the paths as text. -/
  results : List RoutineResult
  /-- The names of the routines that were dropped because they have no source. -/
  dropped : List Atom
  dryRun : Bool
  deriving Repr

namespace BatchResult

def failed (b : BatchResult) : List RoutineResult := b.results.filter (!·.succeeded)

def succeeded (b : BatchResult) : Bool := b.failed.isEmpty

/-- The number of routines that were made again without an error. -/
def loadedCount (b : BatchResult) : Nat :=
  (b.results.filter fun r => r.outcome.isRemade && r.succeeded).length

end BatchResult

namespace Batch

/-- Paths by the routine name they imply, in the order in which the names first come. -/
def groups (extension : String) (paths : List Path) : List (String × List Path) :=
  let names := (paths.map (routineName · extension)).eraseDups
  names.map fun name => (name, paths.filter fun p => routineName p extension = name)

/-- The one source of each routine that has just one. -/
def sources (groups : List (String × List Path)) : List (String × Path) :=
  groups.filterMap fun g =>
    match g.2 with
    | [p] => some (g.1, p)
    | _ => none

/-- The routines with several sources, by path. -/
def duplicates (groups : List (String × List Path)) : List (String × List Path × Path) :=
  groups.flatMap fun g =>
    match g.2 with
    | [_] => []
    | paths => paths.map fun p => (g.1, paths, p)

def duplicateError (name : String) (paths : List Path) (path : Path) : LoaderError :=
  .ofSource .parse
    ("Duplicate routine '" ++ name ++ "' in " ++ ", ".intercalate (paths.map Path.toText) ++ ".")
    path.toText

def rejectDuplicates (groups : List (String × List Path)) : Loader (List RoutineResult) :=
  (duplicates groups).mapM fun d =>
    RoutineResult.failed d.2.2 d.1 none false (duplicateError d.1 d.2.1 d.2.2)

/-- What a batch knows when it starts on the routines. -/
structure Start where
  store : RecordStore
  catalog : RoutineCatalog
  table : ReplaceTable

/-- Handles one routine: compiles it, or assesses it in a dry run. -/
def routine (settings : LoaderSettings) (layer : Sql.DataLayer) (start : Start)
    (source : String × Path) : Loader RoutineResult :=
  let record := start.store.lookup (.text source.1)
  let entry := start.catalog.lookup ⟨.text source.1⟩
  if settings.dryRun then assess settings source.2 record start.table entry
  else compile settings layer source.2 record start.table entry

/-- The store with the record of a result, if the result has one. -/
def keep (store : RecordStore) (r : RoutineResult) : RecordStore :=
  match r.outcome.record? with
  | some record => Assoc.put (.text r.name) record store
  | none => store

def sortResults (results : List RoutineResult) : List RoutineResult :=
  results.mergeSort fun a b => decide (a.path.toText ≤ b.path.toText)

/-- Drops an obsolete routine, and says whether it is gone. A statement that fails is logged. -/
def dropObsolete (layer : Sql.DataLayer) (entry : CatalogEntry) (name : Atom) : Loader Bool := do
  let label := entry.routineType.display ++ " " ++ name.display
  match ← (dropRoutine layer entry.routineType (.atom name)).attempt with
  | .ok _ =>
    Loader.log .info .batch ("Dropped obsolete " ++ label)
    return true
  | .error (.error e) =>
    if e.kind = .dataLayer then
      Loader.log .error .batch ("Could not drop obsolete " ++ label ++ ": " ++ e.message)
      return false
    else Loader.raise e
  | .error e => Loader.fail e

/-- A source implies the name. -/
def isKnown (known : List String) (name : Atom) : Bool := (known.map Atom.text).contains name

/-- The names in the catalog that no source implies. -/
def obsoleteNames (catalog : RoutineCatalog) (known : List String) : List Atom :=
  ((Assoc.keys catalog).map Key.atom).filter fun n => !isKnown known n

/-- Handles an obsolete routine; its name is returned if it was dropped. -/
def obsolete (settings : LoaderSettings) (layer : Sql.DataLayer) (catalog : RoutineCatalog)
    (name : Atom) : Loader (Option Atom) := do
  match catalog.lookup ⟨name⟩ with
  | none => return none
  | some entry =>
    if settings.dryRun then
      Loader.log .info .batch
        ("Would drop obsolete " ++ entry.routineType.display ++ " " ++ name.display)
      return none
    else return if ← dropObsolete layer entry name then some name else none

/-- Drops the routines without a source, in the order of their names. -/
def dropAllObsolete (settings : LoaderSettings) (layer : Sql.DataLayer)
    (catalog : RoutineCatalog) (known : List String) : Loader (List Atom) := do
  if settings.dropsObsolete then
    -- Names that have no common order fail here, before the first of them is dropped.
    let names ← Loader.ofExcept (Atom.inOrder (obsoleteNames catalog known))
    return (← names.mapM (obsolete settings layer catalog)).filterMap id
  else return []

def prune (store : RecordStore) (known : List String) : Loader RecordStore := do
  let gone ← Loader.ofExcept
    (Atom.inOrder ((Assoc.keys store).filter fun n => !isKnown known n))
  gone.forM fun n =>
    Loader.log .info .batch ("Removing metadata of " ++ n.display ++ ": no source file")
  return store.filter fun e => isKnown known e.1

def finish (settings : LoaderSettings) (store : RecordStore) : Loader Unit :=
  if settings.dryRun then Loader.log .info .batch "Dry-run: metadata store not written."
  else store.write settings.store

def summary (b : BatchResult) : String :=
  "Loaded " ++ toString b.loadedCount ++ ", failed " ++ toString b.failed.length ++
    ", dropped " ++ toString b.dropped.length ++ " of " ++ toString b.results.length ++
    " routine(s)"

/-- The sources of a batch: those asked for, else all. -/
def paths (settings : LoaderSettings) : Option (List Path) → Loader (List Path)
  | some only => return sortPaths only
  | none => SourceSearch.run settings.sourceDirectory settings.extension

def prepare (settings : LoaderSettings) (layer : Sql.DataLayer) : Loader Start := do
  let store ← RecordStore.read settings.store
  let catalog ← RoutineCatalog.fetch layer
  return ⟨store, catalog, ← ReplaceTable.build layer settings.constants⟩

/-- Cleans up behind all sources: obsolete routines and their records. -/
def cleanUp (settings : LoaderSettings) (layer : Sql.DataLayer) (catalog : RoutineCatalog)
    (results : List RoutineResult) (store : RecordStore) : Loader (List Atom × RecordStore) := do
  let known := results.map (·.name)
  let dropped ← dropAllObsolete settings layer catalog known
  return (dropped, ← prune store known)

/-- What a batch comes to before the store is written. -/
structure Settled where
  batch : BatchResult
  records : RecordStore

/-- Handles all sources, of all files or only of those asked for, and cleans up behind them. -/
def settle (settings : LoaderSettings) (layer : Sql.DataLayer) (only : Option (List Path)) :
    Loader Settled := do
  let groups := groups settings.extension (← paths settings only)
  -- Names that several files share are refused before the store or the database is looked at.
  let rejected ← rejectDuplicates groups
  let start ← prepare settings layer
  let handled ← (sources groups).mapM (routine settings layer start)
  let results := sortResults (rejected ++ handled)
  let store := handled.foldl keep start.store
  let (dropped, store) ←
    -- A run over some files does not know what else has a source.
    if only.isNone then cleanUp settings layer start.catalog results store
    else pure ([], store)
  return ⟨⟨results, dropped, settings.dryRun⟩, store⟩

end Batch

/-- Loads every routine that must be loaded, of all sources or only of those asked for, and writes
the store. -/
def loadAll (settings : LoaderSettings) (layer : Sql.DataLayer) (only : Option (List Path)) :
    Loader BatchResult := do
  let settled ← Batch.settle settings layer only
  Batch.finish settings settled.records
  Loader.log .info .batch (Batch.summary settled.batch)
  return settled.batch

end StoredRoutines
