import Tunnix.Server.TcpReports
import Tunnix.Server.PtyRelay
import Tunnix.Server.PullRelay

namespace Tunnix

/-- Three kinds of relay produce output for a connection. -/
inductive Producer where
  | tcp (state : TcpRelay.State)
  | pty (state : PtyRelay.State)
  | pull (state : PullRelay.State)
deriving DecidableEq

namespace Producer

/-- These are the kinds of relay. -/
inductive Kind where
  | tcp
  | pty
  | pull
deriving DecidableEq, Repr

/-- Each relay starts in the state in which `handle_send` spawns it. -/
def Kind.start : Kind → Producer
  | .tcp => .tcp TcpRelay.start
  | .pty => .pty PtyRelay.start
  | .pull => .pull PullRelay.start

/-- A relay moves by an action of its own kind. -/
inductive Action where
  | tcp (action : TcpRelay.Action)
  | pty (action : PtyRelay.Action)
  | pull (action : PullRelay.Action)
deriving DecidableEq, Repr

/-- The task that forwards the output and the task beside it send to the client independently. -/
inductive Side where
  | output
  | control
deriving DecidableEq, Repr

/-- A relay refuses the actions of the other kinds. -/
def step : Producer → Action → Option Producer
  | .tcp state, .tcp action => (TcpRelay.step state action).map .tcp
  | .pty state, .pty action => (PtyRelay.step state action).map .pty
  | .pull state, .pull action => (PullRelay.step state action).map .pull
  | _, _ => none

/-- The relay produced these chunks. -/
def produced : Producer → List Bytes
  | .tcp state => state.produced
  | .pty state => state.produced
  | .pull state => state.produced

/-- The relay has delivered these events. -/
def queued : Producer → List TunnelEvent
  | .tcp state => state.queued.map TcpRelay.Report.event
  | .pty state => state.queued
  | .pull state => state.queued

/-- A task sends this event with a budget of attempts. Only a relay that already knows its client to
be gone spends a single attempt. -/
def sending : Producer → Side → Option (TunnelEvent × Nat)
  | .tcp state, .output =>
      match state.read with
      | .sending chunk => some (.data chunk, sendAttempts)
      | .reporting report =>
          some (report.event, if report = .clientUnreachable then 1 else sendAttempts)
      | _ => none
  | .tcp state, .control =>
      match state.write with
      | .reporting error => some ((TcpRelay.Report.writeFailed error).event, sendAttempts)
      | _ => none
  | .pty state, .output =>
      match state.read with
      | .sending chunk => some (.data chunk, sendAttempts)
      | _ => none
  | .pty state, .control =>
      match state.main with
      | .reporting event => some (event, state.attempts)
      | _ => none
  | .pull state, .output =>
      match state.phase with
      | .sending chunk => some (.data chunk, sendAttempts)
      | .reporting event => some (event, sendAttempts)
      | _ => none
  | .pull _, .control => none

/-- The delivery of a task ends with this action. -/
def returned : Producer → Side → Bool → Option Action
  | .tcp state, .output, ok =>
      match state.read with
      | .sending _ => some (.tcp (.delivered ok))
      | .reporting _ => some (.tcp (.reported ok))
      | _ => none
  | .tcp _, .control, ok => some (.tcp (.failureReported ok))
  | .pty _, .output, ok => some (.pty (.delivered ok))
  | .pty _, .control, ok => some (.pty (.reported ok))
  | .pull state, .output, ok =>
      match state.phase with
      | .sending _ => some (.pull (.delivered ok))
      | .reporting _ => some (.pull (.reported ok))
      | _ => none
  | .pull _, .control, _ => none

/-- These actions end no delivery. -/
def Action.internal : Action → Bool
  | .tcp (.delivered _) | .tcp (.reported _) | .tcp (.failureReported _) => false
  | .pty (.delivered _) | .pty (.reported _) => false
  | .pull (.delivered _) | .pull (.reported _) => false
  | .tcp _ | .pty _ | .pull _ => true

/-- A PTY relay queues its `Close` only after a read task that dropped nothing. -/
def Whole : Producer → Action → Prop
  | .pty state, .pty action => PtyRelay.Whole state action
  | _, _ => True

theorem whole_internal {relay : Producer} {action : Action} (internal : action.internal = true) :
    relay.Whole action := by
  cases relay with
  | tcp | pull => trivial
  | pty state =>
      cases action with
      | tcp | pull => trivial
      | pty action =>
          cases action with
          | reported => contradiction
          | _ => trivial

theorem whole_failed {relay : Producer} {side : Side} {action : Action}
    (returns : relay.returned side false = some action) : relay.Whole action := by
  cases relay with
  | tcp | pull => trivial
  | pty state =>
      cases side with
      | output =>
          cases returns
          trivial
      | control =>
          cases returns
          trivial

/-- The relay keeps its reports in order. -/
def Sound : Producer → Prop
  | .tcp state => TcpRelay.Reports state ∧ TcpRelay.Ordered state
  | .pty state => PtyRelay.Reports state
  | .pull state => PullRelay.Reports state

theorem Kind.sound (kind : Kind) : kind.start.Sound := by
  cases kind with
  | tcp => exact ⟨TcpRelay.Reports.start, TcpRelay.Ordered.start⟩
  | pty => exact PtyRelay.Reports.start
  | pull => exact PullRelay.Reports.start

theorem Kind.silent (kind : Kind) : kind.start.queued = [] := by
  cases kind <;> rfl

section Sound
variable {relay next : Producer}

theorem Sound.orderly (sound : relay.Sound) : Orderly relay.queued relay.produced := by
  cases relay with
  | tcp state => exact sound.2
  | pty state => exact PtyRelay.Reports.orderly sound
  | pull state => exact PullRelay.Reports.orderly sound

/-- Every step that meets the condition keeps the reports in order. -/
theorem Sound.step {action : Action} (sound : relay.Sound) (whole : relay.Whole action)
    (moved : relay.step action = some next) : next.Sound := by
  cases relay with
  | tcp state =>
      cases action with
      | tcp action =>
          obtain ⟨after, stepped, rfl⟩ := Option.map_eq_some_iff.mp moved
          exact ⟨sound.1.step stepped, sound.2.step sound.1 stepped⟩
      | pty action => contradiction
      | pull action => contradiction
  | pty state =>
      cases action with
      | tcp action => contradiction
      | pty action =>
          obtain ⟨after, stepped, rfl⟩ := Option.map_eq_some_iff.mp moved
          exact PtyRelay.Reports.step sound whole stepped
      | pull action => contradiction
  | pull state =>
      cases action with
      | tcp action => contradiction
      | pty action => contradiction
      | pull action =>
          obtain ⟨after, stepped, rfl⟩ := Option.map_eq_some_iff.mp moved
          exact PullRelay.Reports.step sound stepped

end Sound

/-- A TCP relay queues nothing outside of deliveries. -/
theorem tcp_queued_internal {state next : TcpRelay.State} {action : TcpRelay.Action}
    (internal : (Action.tcp action).internal = true)
    (moved : TcpRelay.step state action = some next) : next.queued = state.queued := by
  cases TcpRelay.step_move moved with
  | @settle reason => cases reason <;> rfl
  | delivered | undelivered | reported | failureReported | failureUnreported => contradiction
  | _ => rfl

/-- A PTY relay queues nothing outside of deliveries. -/
theorem pty_queued_internal {state next : PtyRelay.State} {action : PtyRelay.Action}
    (internal : (Action.pty action).internal = true)
    (moved : PtyRelay.step state action = some next) : next.queued = state.queued := by
  have awaited {handle : JoinHandle} {joined : JoinHandle → PtyRelay.State}
      (kept : ∀ after, (joined after).queued = state.queued) :
      (state.await handle joined).queued = state.queued := by
    rcases state.await_cases handle joined with ⟨-, same⟩ | ⟨-, same⟩
    · rw [same, kept]
    · rw [same]
  cases PtyRelay.step_move moved with
  | childExits | clientLeaves | drained | drainTimesOut | writeStopped =>
      exact awaited fun _ => rfl
  | delivered | reported => contradiction
  | _ => rfl

/-- A pull relay queues nothing outside of deliveries. -/
theorem pull_queued_internal {state next : PullRelay.State} {action : PullRelay.Action}
    (internal : (Action.pull action).internal = true)
    (moved : PullRelay.step state action = some next) : next.queued = state.queued := by
  cases PullRelay.step_move moved with
  | delivered | reported => contradiction
  | _ => rfl

section Queued
variable {relay next : Producer}

/-- Nothing is queued outside of deliveries. -/
theorem queued_internal {action : Action} (internal : action.internal = true)
    (moved : relay.step action = some next) : next.queued = relay.queued := by
  cases relay <;> cases action <;> try contradiction
  case tcp.tcp state action =>
    obtain ⟨after, stepped, rfl⟩ := Option.map_eq_some_iff.mp moved
    exact congrArg (List.map _) (tcp_queued_internal internal stepped)
  case pty.pty state action =>
    obtain ⟨after, stepped, rfl⟩ := Option.map_eq_some_iff.mp moved
    exact pty_queued_internal internal stepped
  case pull.pull state action =>
    obtain ⟨after, stepped, rfl⟩ := Option.map_eq_some_iff.mp moved
    exact pull_queued_internal internal stepped

/-- A delivery of a TCP relay ends with its event in the queue, or without it. -/
theorem tcp_queued_returned {state : TcpRelay.State} {side : Side} {ok : Bool} {action : Action}
    {event : TunnelEvent} {attempts : Nat}
    (sends : (tcp state).sending side = some (event, attempts))
    (returns : (tcp state).returned side ok = some action)
    (moved : (tcp state).step action = some next) :
    next.queued = if ok then (tcp state).queued ++ [event] else (tcp state).queued := by
  cases side with
  | output =>
      simp only [sending] at sends
      simp only [returned] at returns
      split at sends
      · next chunk reading =>
          cases sends
          simp only [reading, Option.some.injEq] at returns
          subst returns
          simp only [step, TcpRelay.step, reading, Option.map_some, Option.some.injEq] at moved
          subst moved
          cases ok with
          | true => exact List.map_append
          | false => rfl
      · next report reading =>
          cases sends
          simp only [reading, Option.some.injEq] at returns
          subst returns
          simp only [step, TcpRelay.step, reading, Option.map_some, Option.some.injEq] at moved
          subst moved
          cases ok with
          | true => exact List.map_append
          | false => rfl
      · contradiction
  | control =>
      simp only [sending] at sends
      cases returns
      split at sends
      · next error writing =>
          cases sends
          simp only [step, TcpRelay.step, writing, Option.map_some, Option.some.injEq] at moved
          subst moved
          cases ok with
          | true => exact List.map_append
          | false => rfl
      · contradiction

/-- A delivery of a PTY relay ends with its event in the queue, or without it. -/
theorem pty_queued_returned {state : PtyRelay.State} {side : Side} {ok : Bool} {action : Action}
    {event : TunnelEvent} {attempts : Nat}
    (sends : (pty state).sending side = some (event, attempts))
    (returns : (pty state).returned side ok = some action)
    (moved : (pty state).step action = some next) :
    next.queued = if ok then (pty state).queued ++ [event] else (pty state).queued := by
  cases side with
  | output =>
      simp only [sending] at sends
      cases returns
      split at sends
      · next chunk reading =>
          cases sends
          simp only [step, PtyRelay.step, reading, Option.map_some, Option.some.injEq] at moved
          subst moved
          cases ok <;> rfl
      · contradiction
  | control =>
      simp only [sending] at sends
      cases returns
      split at sends
      · next event reporting =>
          cases sends
          simp only [step, PtyRelay.step, reporting, Option.map_some, Option.some.injEq] at moved
          subst moved
          cases ok <;> rfl
      · contradiction

/-- A delivery of a pull relay ends with its event in the queue, or without it. -/
theorem pull_queued_returned {state : PullRelay.State} {side : Side} {ok : Bool} {action : Action}
    {event : TunnelEvent} {attempts : Nat}
    (sends : (pull state).sending side = some (event, attempts))
    (returns : (pull state).returned side ok = some action)
    (moved : (pull state).step action = some next) :
    next.queued = if ok then (pull state).queued ++ [event] else (pull state).queued := by
  cases side with
  | output =>
      simp only [sending] at sends
      simp only [returned] at returns
      split at sends
      · next chunk phase =>
          cases sends
          simp only [phase, Option.some.injEq] at returns
          subst returns
          simp only [step, PullRelay.step, phase, Option.map_some, Option.some.injEq] at moved
          subst moved
          cases ok <;> rfl
      · next event phase =>
          cases sends
          simp only [phase, Option.some.injEq] at returns
          subst returns
          simp only [step, PullRelay.step, phase, Option.map_some, Option.some.injEq] at moved
          subst moved
          cases ok <;> rfl
      · contradiction
  | control => contradiction

/-- A delivery ends with its event in the queue, or without it. -/
theorem queued_returned {side : Side} {ok : Bool} {action : Action} {event : TunnelEvent}
    {attempts : Nat} (sends : relay.sending side = some (event, attempts))
    (returns : relay.returned side ok = some action) (moved : relay.step action = some next) :
    next.queued = if ok then relay.queued ++ [event] else relay.queued := by
  cases relay with
  | tcp state => exact tcp_queued_returned sends returns moved
  | pty state => exact pty_queued_returned sends returns moved
  | pull state => exact pull_queued_returned sends returns moved

end Queued

end Producer

end Tunnix
