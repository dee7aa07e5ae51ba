import StoredRoutines.Failure
import StoredRoutines.Files.System

/-!
Computations of the loader. A computation changes a world and ends with a value or a failure; what
it did before a failure stays done. The world holds the files, the state of the connection, and
everything that happened, in order: statements, calls of the connector and the cursors it handed
out, log lines and printed text.
-/

namespace StoredRoutines

inductive LogLevel where
  | debug
  | info
  | warning
  | error
  deriving DecidableEq, Repr

namespace LogLevel

def label : LogLevel → String
  | debug => "DEBUG"
  | info => "INFO"
  | warning => "WARNING"
  | error => "ERROR"

end LogLevel

/-- The part of the loader that a log line comes from. -/
inductive Channel where
  | command
  | batch
  | sources
  | replaceTable
  | catalog
  | connection
  | routines
  | documentation
  deriving DecidableEq, Repr

namespace Channel

def label : Channel → String
  | command => "stratum.cli"
  | batch => "stratum.pipeline"
  | sources => "stratum.discovery.source_reader"
  | replaceTable => "stratum.discovery.replace_pairs"
  | catalog => "stratum.discovery.catalog"
  | connection => "stratum.discovery.mysql_client"
  | routines => "stratum.loaders.routine_loader"
  | documentation => "stratum.utils.validation"

end Channel

structure LogLine where
  level : LogLevel
  channel : Channel
  text : String
  deriving DecidableEq, Repr

inductive CursorMode where
  | buffered
  | dictionary
  deriving DecidableEq, Repr

inductive ConnectorCall where
  | connect (options : List (String × Value))
  | execute (sql : String) (mode : CursorMode)
  | closeCursor
  | close
  deriving DecidableEq, Repr

inductive Event where
  | statement (sql : String)
  | call (c : ConnectorCall)
  /-- The connector handed out a cursor. -/
  | cursor (mode : CursorMode)
  /-- The connector was asked for a cursor and refused. -/
  | refusedCursor (mode : CursorMode)
  | log (line : LogLine)
  | print (text : String)
  | complain (text : String)
  deriving DecidableEq, Repr

def Event.statements (es : List Event) : List String :=
  es.filterMap fun
    | .statement sql => some sql
    | _ => none

/-- The connector takes part in the event. -/
def Event.isOfConnector : Event → Bool
  | call _ | cursor _ | refusedCursor _ => true
  | _ => false

structure World where
  files : FileSystem
  /-- The connector holds a live connection. -/
  connected : Bool := false
  events : List Event := []

namespace World

def statements (w : World) : List String := Event.statements w.events

def calls (w : World) : List ConnectorCall :=
  w.events.filterMap fun
    | .call c => some c
    | _ => none

/-- All that the connector has seen. -/
def history (w : World) : List Event := w.events.filter Event.isOfConnector

def logLines (w : World) : List LogLine :=
  w.events.filterMap fun
    | .log line => some line
    | _ => none

end World

/-- A computation that changes the world and ends with a value or a failure. -/
def Loader (α : Type) : Type := World → Except Failure α × World

namespace Loader

variable {α β : Type}

def run (x : Loader α) (w : World) : Except Failure α × World := x w

protected def pure (a : α) : Loader α := fun w => (.ok a, w)

protected def bind (x : Loader α) (f : α → Loader β) : Loader β := fun w =>
  match x w with
  | (.ok a, w) => f a w
  | (.error e, w) => (.error e, w)

instance : Monad Loader where
  pure := Loader.pure
  bind := Loader.bind

def fail (e : Failure) : Loader α := fun w => (.error e, w)

theorem bind_pure (x : Loader α) (w : World) : Loader.bind x (fun a => Loader.pure a) w = x w := by
  unfold Loader.bind Loader.pure
  cases x w with
  | mk r w => cases r <;> rfl

theorem bind_bind {γ : Type} (x : Loader α) (f : α → Loader β) (g : β → Loader γ) (w : World) :
    Loader.bind (Loader.bind x f) g w = Loader.bind x (fun a => Loader.bind (f a) g) w := by
  unfold Loader.bind
  cases x w with
  | mk r w => cases r <;> rfl

instance : LawfulMonad Loader :=
  LawfulMonad.mk' Loader (fun x => funext fun w => bind_pure x w) (fun _ _ => rfl)
    (fun x f g => funext fun w => bind_bind x f g w)

def raise (e : LoaderError) : Loader α := fail (.error e)

/-- The outcome of the computation as a value. -/
def attempt (x : Loader α) : Loader (Except Failure α) := fun w =>
  let (r, w) := x w
  (.ok r, w)

def ofExcept : Except Failure α → Loader α
  | .ok a => Loader.pure a
  | .error e => fail e

def getWorld : Loader World := fun w => (.ok w, w)

def getFiles : Loader FileSystem := fun w => (.ok w.files, w)

def setFiles (fs : FileSystem) : Loader Unit := fun w => (.ok (), { w with files := fs })

def setConnected (c : Bool) : Loader Unit := fun w => (.ok (), { w with connected := c })

def emit (e : Event) : Loader Unit := fun w => (.ok (), { w with events := w.events ++ [e] })

def log (level : LogLevel) (channel : Channel) (text : String) : Loader Unit :=
  emit (.log ⟨level, channel, text⟩)

def print (text : String) : Loader Unit := emit (.print text)

@[simp] theorem run_pure (a : α) (w : World) : (pure a : Loader α).run w = (.ok a, w) := rfl

theorem run_bind (x : Loader α) (f : α → Loader β) (w : World) :
    (x >>= f).run w =
      match x.run w with
      | (.ok a, w) => (f a).run w
      | (.error e, w) => (.error e, w) := rfl

@[simp] theorem run_fail (e : Failure) (w : World) : (fail e : Loader α).run w = (.error e, w) :=
  rfl

@[simp] theorem run_emit (e : Event) (w : World) :
    (emit e).run w = (.ok (), { w with events := w.events ++ [e] }) := rfl

end Loader

end StoredRoutines
