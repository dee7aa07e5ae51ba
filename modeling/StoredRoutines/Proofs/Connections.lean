import Mathlib.Data.List.Induction
import StoredRoutines.Proofs.Traces
import StoredRoutines.Sql.Connection

/-!
The life of a connection. The connector's own account of it, the number of connections that are live
after its calls, is kept apart from what the layer believes. Whatever a layer is used for, the two
agree: a connection is asked for while none is live, and all else is asked of the one that is.
-/

namespace StoredRoutines.Sql

open Loader

/-- A use of a data layer by its owner. A sequence of steps is a use: its steps are guarded, and one
comes after the other. -/
inductive Use where
  | idle
  | «open»
  | close
  | execute (sql : String)
  | rows (sql : String)
  | scalar (sql : String)
  /-- A failure of the first use skips the second one. -/
  | andThen (first second : Use)
  /-- A failure of the use goes no further. -/
  | guarded (use : Use)
  /-- The use has an open connection, which is closed behind it. -/
  | within (body : Use)
  deriving DecidableEq, Repr

def Use.perform (connector : Connector) (options : ConnectOptions) : Use → Loader Unit
  | idle => pure ()
  | «open» => connector.open options
  | close => connector.close
  | execute sql => connector.layer.execute sql
  | rows sql => do let _ ← connector.layer.rows sql
  | scalar sql => do let _ ← connector.layer.scalar sql
  | andThen first second => do
    first.perform connector options
    second.perform connector options
  | guarded use => do let _ ← (use.perform connector options).attempt
  | within body => connector.within options (body.perform connector options)

/-- The statement of a use that is a single one, and how its rows are handed out. -/
def Use.statement? : Use → Option (String × CursorMode)
  | execute sql => some (sql, .buffered)
  | rows sql | scalar sql => some (sql, .dictionary)
  | _ => none

namespace Connector

variable (connector : Connector)

/-- Connections that are live after an event, given what the connector saw before it and the number
before it. -/
def liveAfter (before : List Event) (n : Nat) : Event → Nat
  | .call (.connect _) => if (connector.connectError before).isNone then n + 1 else n
  | .call .close => n - 1
  | _ => n

def liveFrom (before : List Event) (n : Nat) : List Event → Nat
  | [] => n
  | e :: es => liveFrom (before ++ [e]) (connector.liveAfter before n e) es

def live (history : List Event) : Nat := connector.liveFrom [] 0 history

theorem liveFrom_concat (before : List Event) (n : Nat) (es : List Event) (e : Event) :
    connector.liveFrom before n (es ++ [e]) =
      connector.liveAfter (before ++ es) (connector.liveFrom before n es) e := by
  induction es generalizing before n with
  | nil => simp [liveFrom]
  | cons d ds ih => simp [liveFrom, ih]

theorem live_concat (history : List Event) (e : Event) :
    connector.live (history ++ [e]) = connector.liveAfter history (connector.live history) e := by
  rw [live, liveFrom_concat, List.nil_append, live]

end Connector

/-- The number of live connections that something is asked of the connector with: a connection while
there is none, and all else while there is one. -/
def neededLive : Event → Nat
  | .call (.connect _) => 0
  | _ => 1

namespace Connector

variable {connector : Connector} {history : List Event}

/-- All that was asked of the connector was asked with the number of live connections that it
needs. -/
def Orderly (connector : Connector) (history : List Event) : Prop :=
  ∀ before e after, history = before ++ e :: after → connector.live before = neededLive e

theorem Orderly.concat (h : connector.Orderly history) {e : Event}
    (needed : connector.live history = neededLive e) : connector.Orderly (history ++ [e]) := by
  intro before e' after split
  rcases List.eq_nil_or_concat after with rfl | ⟨more, last, rfl⟩
  · obtain ⟨rfl, same⟩ := List.append_inj' split rfl
    obtain rfl := List.singleton_inj.1 same
    exact needed
  · rw [List.concat_eq_append, ← List.cons_append, ← List.append_assoc] at split
    exact h before e' more (List.append_inj' split rfl).1

theorem liveAfter_le_one {before : List Event} {n : Nat} {e : Event} (needed : n = neededLive e) :
    connector.liveAfter before n e ≤ 1 := by
  subst needed
  unfold liveAfter
  split
  · simp only [neededLive]
    split <;> omega
  · simp [neededLive]
  · unfold neededLive
    split <;> omega

theorem Orderly.live_le_one (h : connector.Orderly history) {before after : List Event}
    (split : history = before ++ after) : connector.live before ≤ 1 := by
  rcases List.eq_nil_or_concat before with rfl | ⟨earlier, e, rfl⟩
  · exact Nat.zero_le 1
  · rw [List.concat_eq_append] at split ⊢
    rw [live_concat]
    refine liveAfter_le_one (h earlier e after ?_)
    rw [split, List.append_assoc, List.singleton_append]

/-- Until the next connection is asked for, a connection is live or it has been closed once. -/
theorem Orderly.live_add_closings (h : connector.Orderly history) {before mid after : List Event}
    {arguments : List (String × Value)}
    (split : history = before ++ .call (.connect arguments) :: (mid ++ after))
    (obtained : connector.connectError before = none) (noConnect : ∀ o, .call (.connect o) ∉ mid) :
    connector.live (before ++ .call (.connect arguments) :: mid) + mid.count (.call .close) = 1 := by
  -- From the last event backwards: each is judged by the connections that those before it left.
  induction mid using List.reverseRecOn generalizing after with
  | nil =>
    have none_before : connector.live before = 0 := h before _ _ split
    rw [live_concat, none_before]
    simp [liveAfter, obtained]
  | append_singleton mid e ih =>
    rw [List.append_assoc] at split
    have earlier := ih split fun o member => noConnect o (List.mem_append_left _ member)
    have needed : connector.live (before ++ .call (.connect arguments) :: mid) = neededLive e := by
      refine h _ e after ?_
      rw [split, List.append_assoc]
      rfl
    rw [← List.cons_append, ← List.append_assoc, live_concat, List.count_append]
    rcases eq_or_ne e (.call .close) with rfl | other
    · rw [needed] at earlier ⊢
      simp only [liveAfter, neededLive, List.count_singleton_self] at earlier ⊢
      omega
    · have kept : connector.liveAfter (before ++ .call (.connect arguments) :: mid)
          (connector.live (before ++ .call (.connect arguments) :: mid)) e =
            connector.live (before ++ .call (.connect arguments) :: mid) := by
        unfold liveAfter
        split
        · rename_i o
          exact absurd (List.mem_append_right _ List.mem_cons_self) (noConnect o)
        · exact absurd rfl other
        · rfl
      rw [kept, List.count_singleton, beq_eq_false_iff_ne.2 other]
      simpa using earlier

/-- The account of a world: the connector was asked in order, and a connection is live just if the
layer believes that it holds one. -/
structure Accounted (connector : Connector) (w : World) : Prop where
  orderly : connector.Orderly w.history
  live : connector.live w.history = if w.connected then 1 else 0

section Runs

variable {connector : Connector} {options : ConnectOptions} {w : World}

@[simp] theorem run_call {α : Type} (c : ConnectorCall) (answer : List Event → α)
    (w : World) : (Connector.call c answer).run w = (.ok (answer w.history), w.after [.call c]) :=
  rfl

/-- What the connector sees of some events. -/
def seen (es : List Event) : List Event := es.filter Event.isOfConnector

@[simp] theorem seen_nil : seen [] = [] := rfl

@[simp] theorem seen_cons_call (c : ConnectorCall) (es : List Event) :
    seen (.call c :: es) = .call c :: seen es := rfl

@[simp] theorem seen_cons_cursor (mode : CursorMode) (es : List Event) :
    seen (.cursor mode :: es) = .cursor mode :: seen es := rfl

@[simp] theorem seen_cons_refusedCursor (mode : CursorMode) (es : List Event) :
    seen (.refusedCursor mode :: es) = .refusedCursor mode :: seen es := rfl

@[simp] theorem seen_cons_log (line : LogLine) (es : List Event) :
    seen (.log line :: es) = seen es := rfl

@[simp] theorem history_after (w : World) (es : List Event) :
    (w.after es).history = w.history ++ seen es :=
  List.filter_append _ _

theorem history_after_call (w : World) (c : ConnectorCall) :
    (w.after [.call c]).history = w.history ++ [.call c] :=
  history_after w _

theorem history_after_log (w : World) (line : LogLine) :
    (w.after [.log line]).history = w.history := by
  simp

theorem open_of_held (held : w.connected = true) :
    (connector.open options).run w = (.ok (), w) := by
  simp [Connector.open, run_bind, held]

variable (connector) in
theorem open_of_misused (closed : w.connected = false)
    (given : Assoc.hasKey "autocommit" options.further = true) :
    ∃ d, (connector.open options).run w = (.error (.defect d), w) := by
  simp [Connector.open, run_bind, closed, given]

theorem open_of_refused (closed : w.connected = false)
    (wellUsed : Assoc.hasKey "autocommit" options.further = false) {e : ConnectorError}
    (refused : connector.connectError w.history = some e) :
    ∃ text, (connector.open options).run w =
      (.error (.error ⟨.connection, text, {}⟩), w.after [.call (.connect options.arguments)]) := by
  simp [Connector.open, run_bind, closed, wellUsed, refused]

def openedFrom (options : ConnectOptions) (w : World) : World :=
  ({ w.after [.call (.connect options.arguments)] with connected := true } : World).after
    [.log ⟨.debug, .connection, "Connected to " ++ options.address⟩]

theorem history_openedFrom (options : ConnectOptions) (w : World) :
    (openedFrom options w).history = w.history ++ [.call (.connect options.arguments)] :=
  (history_after_log _ _).trans (history_after_call w _)

theorem open_of_obtained (closed : w.connected = false)
    (wellUsed : Assoc.hasKey "autocommit" options.further = false)
    (obtained : connector.connectError w.history = none) :
    (connector.open options).run w = (.ok (), openedFrom options w) := by
  simp only [Connector.open, run_bind, run_getWorld, closed, Bool.false_eq_true, if_false, wellUsed,
    run_call, obtained]
  rfl

variable (connector options w) in
/-- What opening comes to: nothing on an open layer, a defect without a call of the connector, a
refused connection, or a connection. -/
theorem open_cases :
    (w.connected = true ∧ (connector.open options).run w = (.ok (), w)) ∨
    (w.connected = false ∧ Assoc.hasKey "autocommit" options.further = true ∧
      ∃ d, (connector.open options).run w = (.error (.defect d), w)) ∨
    (w.connected = false ∧ Assoc.hasKey "autocommit" options.further = false ∧
      ∃ e text, connector.connectError w.history = some e ∧ (connector.open options).run w =
        (.error (.error ⟨.connection, text, {}⟩), w.after [.call (.connect options.arguments)])) ∨
    (w.connected = false ∧ Assoc.hasKey "autocommit" options.further = false ∧
      connector.connectError w.history = none ∧
      (connector.open options).run w = (.ok (), openedFrom options w)) := by
  cases state : w.connected with
  | true => exact .inl ⟨rfl, open_of_held state⟩
  | false =>
    cases used : Assoc.hasKey "autocommit" options.further with
    | true => exact .inr (.inl ⟨rfl, rfl, open_of_misused connector state used⟩)
    | false =>
      cases answer : connector.connectError w.history with
      | some e =>
        obtain ⟨text, run⟩ := open_of_refused state used answer
        exact .inr (.inr (.inl ⟨rfl, rfl, e, text, rfl, run⟩))
      | none => exact .inr (.inr (.inr ⟨rfl, rfl, rfl, open_of_obtained state used answer⟩))

theorem close_of_closed (closed : w.connected = false) : connector.close.run w = (.ok (), w) := by
  simp [Connector.close, run_bind, closed]

variable (connector) in
theorem close_of_held (held : w.connected = true) :
    ∃ v, connector.close.run w = (.ok (), v) ∧ v.history = w.history ++ [.call .close] ∧
      v.connected = false := by
  simp only [Connector.close, run_bind, run_getWorld, held, if_true, run_call]
  cases connector.closeError w.history with
  | none => exact ⟨_, rfl, history_after_call w .close, rfl⟩
  | some e => exact ⟨_, rfl, (history_after_log _ _).trans (history_after_call w .close), rfl⟩

/-- What is logged if the connector refuses to close a cursor after what it saw. -/
def refusalLog (connector : Connector) (history : List Event) : List Event :=
  match connector.cursorCloseError history with
  | some _ => [.log ⟨.debug, .connection, "Ignoring error while closing a cursor."⟩]
  | none => []

@[simp] theorem seen_refusalLog (history : List Event) :
    seen (refusalLog connector history) = [] := by
  unfold refusalLog
  split <;> rfl

theorem run_closeCursor (connector : Connector) (w : World) : connector.closeCursor.run w =
    (.ok (), w.after (.call .closeCursor :: refusalLog connector w.history)) := by
  rw [Connector.closeCursor, run_bind_of_ok (run_call _ _ w), refusalLog]
  cases connector.cursorCloseError w.history with
  | none => rfl
  | some e => exact congrArg (Prod.mk _) (World.after_after w [.call .closeCursor] _)

variable {sql : String} {mode : CursorMode}

theorem withCursor_of_closed (closed : w.connected = false) :
    (connector.withCursor mode sql).run w =
      (.error (.error (.ofStatement .connection "MySqlDataLayer.open() must be called first." sql)),
        w) := by
  simp [Connector.withCursor, run_bind, closed]

theorem withCursor_of_refused (held : w.connected = true) {e : ConnectorError}
    (refused : connector.cursorError w.history = some e) :
    (connector.withCursor mode sql).run w =
      (.error (.error (e.toLoaderError sql)), w.after [.refusedCursor mode]) := by
  simp only [Connector.withCursor, run_bind, run_getWorld, held, Bool.not_true, Bool.false_eq_true,
    if_false, refused]
  rfl

/-- What happens on a cursor that the connector hands out for a statement after what it saw. -/
def cursorScope (connector : Connector) (mode : CursorMode) (sql : String)
    (history : List Event) : List Event :=
  .cursor mode :: .call (.execute sql mode) :: .call .closeCursor ::
    refusalLog connector (history ++ [.cursor mode, .call (.execute sql mode)])

@[simp] theorem seen_cursorScope (history : List Event) :
    seen (cursorScope connector mode sql history) =
      [.cursor mode, .call (.execute sql mode), .call .closeCursor] := by
  simp [cursorScope]

theorem run_withCursor_of_granted (held : w.connected = true)
    (granted : connector.cursorError w.history = none) :
    (connector.withCursor mode sql).run w =
      ((connector.reply mode sql (w.history ++ [.cursor mode])).mapError fun e =>
          .error (e.toLoaderError sql),
        w.after (cursorScope connector mode sql w.history)) := by
  have handed : (emit (.cursor mode)).run w = (.ok (), w.after [.cursor mode]) := rfl
  have closing := run_closeCursor connector
    ((w.after [.cursor mode]).after [.call (.execute sql mode)])
  simp only [history_after, seen_cons_cursor, seen_cons_call, seen_nil,
    World.after_after, List.cons_append, List.nil_append] at closing
  simp only [Connector.withCursor, run_bind, run_getWorld, held, Bool.not_true, Bool.false_eq_true,
    if_false, granted, handed, run_call, history_after, seen_cons_cursor, seen_nil,
    World.after_after, List.cons_append, List.nil_append, closing]
  cases connector.reply mode sql (w.history ++ [.cursor mode]) <;> rfl

variable (sql mode) in
theorem withCursor_of_granted (held : w.connected = true)
    (granted : connector.cursorError w.history = none) :
    ∃ v, (connector.withCursor mode sql).run w =
        ((connector.reply mode sql (w.history ++ [.cursor mode])).mapError fun e =>
          .error (e.toLoaderError sql), v) ∧
      v.history = w.history ++ [.cursor mode, .call (.execute sql mode), .call .closeCursor] ∧
      v.connected = true :=
  ⟨_, run_withCursor_of_granted held granted, by simp, held⟩

namespace Accounted

theorem step {v : World} {e : Event} (h : Accounted connector w)
    (history : v.history = w.history ++ [e])
    (needed : (if w.connected then 1 else 0) = neededLive e)
    (state : (if v.connected then 1 else 0) = connector.liveAfter w.history (neededLive e) e) :
    Accounted connector v := by
  have live : connector.live w.history = neededLive e := h.live.trans needed
  constructor
  · rw [history]
    exact h.orderly.concat live
  · rw [history, live_concat, live, state]

theorem «open» (h : Accounted connector w) :
    Accounted connector ((connector.open options).run w).2 := by
  rcases open_cases connector options w with ⟨-, run⟩ | ⟨-, -, d, run⟩ |
    ⟨state, -, e, text, answer, run⟩ | ⟨state, -, answer, run⟩
  · rwa [run]
  · rwa [run]
  · rw [run]
    refine h.step (history_after_call w _) (by simp [state, neededLive]) ?_
    simp [World.after, state, neededLive, liveAfter, answer]
  · rw [run]
    refine h.step (history_openedFrom options w) (by simp [state, neededLive]) ?_
    simp [openedFrom, World.after, neededLive, liveAfter, answer]

theorem close (h : Accounted connector w) : Accounted connector (connector.close.run w).2 := by
  cases state : w.connected with
  | false =>
    rw [close_of_closed state]
    exact h
  | true =>
    obtain ⟨v, run, history, closed⟩ := close_of_held connector state
    rw [run]
    exact h.step history (by simp [state, neededLive]) (by simp [closed, neededLive, liveAfter])

theorem withCursor (h : Accounted connector w) :
    Accounted connector ((connector.withCursor mode sql).run w).2 := by
  cases state : w.connected with
  | false =>
    rw [withCursor_of_closed state]
    exact h
  | true =>
    -- Each of the requests is made on the connection, and none of them ends it.
    have held {v : World} {e : Event} (account : Accounted connector v) (on : v.connected = true)
        (needed : neededLive e = 1) (kept : ∀ before n, connector.liveAfter before n e = n)
        (shown : e.isOfConnector = true) : Accounted connector (v.after [e]) :=
      account.step (e := e) ((history_after v _).trans (by simp [seen, shown])) (by simp [on, needed])
        (by simp [World.after, on, needed, kept])
    cases answer : connector.cursorError w.history with
    | some e =>
      rw [withCursor_of_refused state answer]
      exact held h state rfl (fun _ _ => rfl) rfl
    | none =>
      obtain ⟨v, run, history, still⟩ := withCursor_of_granted sql mode state answer
      rw [run]
      have granted := held h state (e := .cursor mode) rfl (fun _ _ => rfl) rfl
      have executed := held granted state (e := .call (.execute sql mode)) rfl (fun _ _ => rfl) rfl
      have closed := held executed state (e := .call .closeCursor) rfl (fun _ _ => rfl) rfl
      have same : v.history = (((w.after [.cursor mode]).after [.call (.execute sql mode)]).after
          [.call .closeCursor]).history := by
        simp [history]
      constructor
      · rw [same]
        exact closed.orderly
      · rw [same, closed.live, still]
        simp [World.after, state]

end Accounted

/-- What holds of a world before the computation holds after it, however it ends. -/
def Keeps {α : Type} (I : World → Prop) (x : Loader α) : Prop := ∀ w, I w → I (x.run w).2

namespace Keeps

variable {α β : Type} {I : World → Prop}

theorem bind {x : Loader α} {f : α → Loader β} (first : Keeps I x)
    (second : ∀ a, Keeps I (f a)) : Keeps I (x >>= f) := by
  intro w h
  have mid := first w h
  cases hx : x.run w with
  | mk r v =>
    rw [hx] at mid
    cases r with
    | error e =>
      rw [run_bind_of_error hx]
      exact mid
    | ok a =>
      rw [run_bind_of_ok hx]
      exact second a v mid

theorem pure (a : α) : Keeps I (Pure.pure a) := fun _ h => h

theorem ofExcept (r : Except Failure α) : Keeps I (Loader.ofExcept r) := by
  intro w h
  rw [run_ofExcept]
  exact h

theorem attempt {x : Loader α} (h : Keeps I x) : Keeps I x.attempt := h

/-- What is kept by opening, by closing and by statements is kept by all uses of a layer. -/
theorem perform (opening : Keeps I (connector.open options)) (closing : Keeps I connector.close)
    (statement : ∀ mode sql, Keeps I (connector.withCursor mode sql)) (use : Use) :
    Keeps I (use.perform connector options) := by
  have queryRows (sql : String) : Keeps I (connector.queryRows sql) :=
    bind (statement .dictionary sql) fun rows => ofExcept (rows.mapM decodeRow)
  have queryScalar (sql : String) : Keeps I (connector.queryScalar sql) := by
    apply bind (queryRows sql)
    intro rows w h
    match rows with
    | [] | [[]] | [_ :: _] | _ :: _ :: _ => exact h
  induction use with
  | idle => exact pure ()
  | «open» => exact opening
  | close => exact closing
  | execute sql => exact bind (statement .buffered sql) fun _ => pure ()
  | rows sql => exact bind (queryRows sql) fun _ => pure ()
  | scalar sql => exact bind (queryScalar sql) fun _ => pure ()
  | andThen first second ih₁ ih₂ => exact bind ih₁ fun _ => ih₂
  | guarded use ih => exact bind (attempt ih) fun _ => pure ()
  | within body ih =>
    apply bind opening
    intro _
    apply bind (attempt ih)
    intro outcome
    exact bind closing fun _ => ofExcept outcome

end Keeps

/-- A failure of the statement's cursor is the failure of the step, and nothing comes after it. -/
theorem perform_of_failed {use : Use} (given : use.statement? = some (sql, mode)) {v : World}
    {e : Failure} (run : (connector.withCursor mode sql).run w = (.error e, v)) :
    (use.perform connector options).run w = (.error e, v) := by
  cases use with
  | execute s =>
    cases given
    exact run_bind_of_error run
  | rows s =>
    cases given
    exact run_bind_of_error (run_bind_of_error run)
  | scalar s =>
    cases given
    exact run_bind_of_error (run_bind_of_error (run_bind_of_error run))
  | idle | «open» | close | andThen | guarded | within => cases given

theorem world_of_bind {α β : Type} {x : Loader α} {f : α → Loader β}
    (looks : ∀ a v, ((f a).run v).2 = v) (w : World) : ((x >>= f).run w).2 = (x.run w).2 := by
  rw [run_bind]
  cases x.run w with
  | mk r v =>
    cases r with
    | ok a => exact looks a v
    | error e => rfl

variable (connector options) in
theorem world_of_perform {use : Use} (given : use.statement? = some (sql, mode)) (w : World) :
    ((use.perform connector options).run w).2 = ((connector.withCursor mode sql).run w).2 := by
  have queried : ((connector.queryRows sql).run w).2 =
      ((connector.withCursor .dictionary sql).run w).2 :=
    world_of_bind (fun rows v => by rw [run_ofExcept]) w
  cases use with
  | execute s =>
    cases given
    exact world_of_bind (fun _ _ => rfl) w
  | rows s =>
    cases given
    exact (world_of_bind (fun _ _ => rfl) w).trans queried
  | scalar s =>
    cases given
    have scalar : ((connector.queryScalar sql).run w).2 = ((connector.queryRows sql).run w).2 := by
      apply world_of_bind
      intro rows v
      match rows with
      | [] | [[]] | [_ :: _] | _ :: _ :: _ => rfl
    exact ((world_of_bind (fun _ _ => rfl) w).trans scalar).trans queried
  | idle | «open» | close | andThen | guarded | within => cases given

variable (connector options w) in
/-- What one more step does in a world, by whether the layer holds a connection there. -/
structure FollowsCycle : Prop where
  reopened : w.connected = true → (connector.open options).run w = (.ok (), w)
  obtained : w.connected = false → Assoc.hasKey "autocommit" options.further = false →
    connector.connectError w.history = none →
    ∃ v, (connector.open options).run w = (.ok (), v) ∧
      v.history = w.history ++ [.call (.connect options.arguments)] ∧ v.connected = true
  refused : ∀ e, w.connected = false → Assoc.hasKey "autocommit" options.further = false →
    connector.connectError w.history = some e →
    ∃ text v, (connector.open options).run w = (.error (.error ⟨.connection, text, {}⟩), v) ∧
      v.history = w.history ++ [.call (.connect options.arguments)] ∧ v.connected = false
  /-- Options that the layer sets itself are not the caller's to give. -/
  misused : w.connected = false → Assoc.hasKey "autocommit" options.further = true →
    ∃ d, (connector.open options).run w = (.error (.defect d), w)
  /-- Whatever the connector says to being closed. -/
  closed : ∃ v, connector.close.run w = (.ok (), v) ∧
    v.history = w.history ++ (if w.connected then [.call .close] else []) ∧ v.connected = false
  unopened : ∀ (use : Use) sql mode, use.statement? = some (sql, mode) → w.connected = false →
    ∃ e, (use.perform connector options).run w = (.error (.error e), w) ∧ e.kind = .connection
  turnedAway : ∀ (use : Use) sql mode e, use.statement? = some (sql, mode) → w.connected = true →
    connector.cursorError w.history = some e → ∃ v, (use.perform connector options).run w =
      (.error (.error (e.toLoaderError sql)), v) ∧
      v.history = w.history ++ [.refusedCursor mode] ∧ v.connected = true
  executed : ∀ (use : Use) sql mode, use.statement? = some (sql, mode) → w.connected = true →
    connector.cursorError w.history = none →
    ∃ r v, (use.perform connector options).run w = (r, v) ∧
      v.history = w.history ++ [.cursor mode, .call (.execute sql mode), .call .closeCursor] ∧
      v.connected = true ∧
      ∀ e, connector.statementError (w.history ++ [.cursor mode]) sql = some e →
        r = .error (.error (e.toLoaderError sql))
  /-- Whatever the body does, and however it ends. -/
  left : ∀ (body : Use) u, (connector.open options).run w = (.ok (), u) →
    ∃ r v, ((Use.within body).perform connector options).run w = (r, v) ∧
      v.history = ((body.perform connector options).run u).2.history ++
        (if ((body.perform connector options).run u).2.connected then [.call .close] else []) ∧
      v.connected = false
  notEntered : ∀ (body : Use) e u, (connector.open options).run w = (.error e, u) →
    ((Use.within body).perform connector options).run w = (.error e, u)

theorem run_close (connector : Connector) (w : World) :
    ∃ v, connector.close.run w = (.ok (), v) ∧
      v.history = w.history ++ (if w.connected then [.call .close] else []) ∧
      v.connected = false := by
  cases state : w.connected with
  | false => exact ⟨w, close_of_closed state, by simp, state⟩
  | true => exact close_of_held connector state

theorem followsCycle (connector : Connector) (options : ConnectOptions) (w : World) :
    FollowsCycle connector options w where
  reopened := open_of_held
  obtained closed wellUsed obtained :=
    ⟨_, open_of_obtained closed wellUsed obtained, history_openedFrom options w, rfl⟩
  refused e closed wellUsed refused := by
    obtain ⟨text, run⟩ := open_of_refused closed wellUsed refused
    exact ⟨text, _, run, history_after_call w _, closed⟩
  misused := open_of_misused connector
  closed := run_close connector w
  unopened use sql mode given closed :=
    ⟨_, perform_of_failed given (withCursor_of_closed closed), rfl⟩
  turnedAway use sql mode e given held refused :=
    ⟨_, perform_of_failed given (withCursor_of_refused held refused), by simp, held⟩
  executed use sql mode given held granted := by
    obtain ⟨v, run, calls, still⟩ := withCursor_of_granted sql mode held granted
    have world := world_of_perform connector options given w
    refine ⟨_, v, Prod.ext rfl (world.trans (congrArg Prod.snd run)), calls, still, ?_⟩
    intro e failed
    rw [reply, failed] at run
    rw [perform_of_failed given run]
  left body u opened := by
    obtain ⟨v, closing, calls, closed⟩ :=
      run_close connector ((body.perform connector options).run u).2
    refine ⟨((body.perform connector options).run u).1, v, ?_, calls, closed⟩
    rw [Use.perform, within, run_bind_of_ok opened, run_bind_of_ok (run_attempt _ u),
      run_bind_of_ok closing, run_ofExcept]
  notEntered body e u failed := run_bind_of_error failed

/-- A connection that was obtained is closed once by the time that none is held any more or that the
next one is asked for, and not before. -/
theorem Accounted.closings (h : Accounted connector w) {before mid after : List Event}
    {arguments : List (String × Value)}
    (split : w.history = before ++ .call (.connect arguments) :: (mid ++ after))
    (obtained : connector.connectError before = none) (noConnect : ∀ o, .call (.connect o) ∉ mid)
    (whole : after = [] ∨ ∃ o rest, after = .call (.connect o) :: rest) :
    mid.count (.call .close) = if after = [] ∧ w.connected = true then 0 else 1 := by
  have sum := h.orderly.live_add_closings split obtained noConnect
  rcases whole with rfl | ⟨o, rest, rfl⟩
  · rw [List.append_nil] at split
    rw [← split, h.live] at sum
    cases state : w.connected with
    | true =>
      simp only [state, if_true] at sum ⊢
      simpa using sum
    | false => simpa [state] using sum
  · have none_live : connector.live (before ++ .call (.connect arguments) :: mid) = 0 := by
      refine h.orderly _ (.call (.connect o)) rest ?_
      rw [split, List.append_assoc]
      rfl
    rw [none_live] at sum
    simpa using sum

/-- The life of the connections of a layer, over all uses of it and whatever the connector answers:
a connection is asked for only while none is held; at no time is more than one of them live; each is
closed once, by the first step that closes or leaves, even if the connector refuses; and a statement
reaches the connector just if a connection is held. -/
theorem connections_live_one_by_one (connector : Connector) (options : ConnectOptions) (use : Use)
    (files : FileSystem) :
    let w := ((use.perform connector options).run { files := files }).2
    Accounted connector w ∧
      (∀ before after, w.history = before ++ after → connector.live before ≤ 1) ∧
      (∀ before arguments mid after,
        w.history = before ++ .call (.connect arguments) :: (mid ++ after) →
        connector.connectError before = none → (∀ o, .call (.connect o) ∉ mid) →
        (after = [] ∨ ∃ o rest, after = .call (.connect o) :: rest) →
        mid.count (.call .close) = if after = [] ∧ w.connected = true then 0 else 1) ∧
      FollowsCycle connector options w := by
  intro w
  have start : Accounted connector { files := files } := by
    constructor
    · intro before call after split
      cases before <;> cases split
    · rfl
  have accounted : Accounted connector w :=
    Keeps.perform (fun _ h => h.open) (fun _ h => h.close) (fun _ _ _ h => h.withCursor) use _ start
  refine ⟨accounted, ?_, ?_, followsCycle connector options w⟩
  · intro before after split
    exact accounted.orderly.live_le_one split
  · intro before arguments mid after split obtained noConnect whole
    exact accounted.closings split obtained noConnect whole

end Runs

end Connector

end StoredRoutines.Sql
