import StoredRoutines.Files.Path

/-!
Settings of the loader: where sources and records lie, under which session settings routines are
made, and how much a batch may change.
-/

namespace StoredRoutines

structure SessionSettings where
  sqlMode : String
  characterSet : String
  collation : String
  deriving DecidableEq, Repr

structure LoaderSettings where
  sourceDirectory : Path
  /-- The ending of the names of source files. -/
  extension : String
  store : Path
  constants : Option Path := none
  session : SessionSettings
  /-- A batch over all sources drops the routines without a source. -/
  dropsObsolete : Bool := true
  /-- A batch reports what it would do and changes nothing. -/
  dryRun : Bool := false
  deriving DecidableEq, Repr

end StoredRoutines
