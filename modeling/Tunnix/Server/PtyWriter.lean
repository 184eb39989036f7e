import Tunnix.Library.Channel
import Tunnix.Protocol

namespace Tunnix.PtyWriter

/-- The write channel of a PTY holds this many chunks. -/
def channelCap : Nat := 256

/-- The write task receives a chunk and writes it from a position on, until the position reaches its
end. The last field records what the PTY has taken. -/
structure State where
  channel : Channel channelCap Bytes
  writing : Option (Bytes × Nat)
  ended : Bool
  written : Bytes

def start : State where
  channel := .empty _ _
  writing := none
  ended := false
  written := []

/-- `write` takes at most what it is given, or it is interrupted, would block, or fails. -/
inductive Outcome where
  | wrote (count : Nat)
  | interrupted
  | wouldBlock
  | failed
deriving DecidableEq, Repr

/-- The handler of a `Data` sends a chunk. The other actions belong to the write task, which ends after
a failed write, once its channel is empty and closed, or with the relay. -/
inductive Action where
  | send (data : Bytes)
  | receive
  | write (outcome : Outcome)
  | stop
deriving DecidableEq, Repr

/-- The task drops its channel when it ends. -/
def State.finish (state : State) : State :=
  { state with channel := state.channel.drop, writing := none, ended := true }

/-- A task that is done with its chunk receives the next one. -/
def advance (data : Bytes) (pos : Nat) : Option (Bytes × Nat) :=
  if pos < data.length then some (data, pos) else none

/-- The task moves by one action, or refuses one that its state does not allow. -/
def step (state : State) : Action → Option State
  | .send data => (state.channel.send data).map fun channel => { state with channel }
  -- An empty chunk is skipped.
  | .receive =>
      match state.writing, state.channel.receive with
      | none, some (data, channel) => some { state with channel, writing := advance data 0 }
      | _, _ => none
  | .write outcome =>
      match state.writing, outcome with
      | some (data, pos), .wrote count =>
          if count ≤ data.length - pos then
            some { state with
              writing := advance data (pos + count)
              written := state.written ++ (data.drop pos).take count }
          else none
      | some _, .interrupted | some _, .wouldBlock => some state
      | some _, .failed => some state.finish
      | none, _ => none
  | .stop => some state.finish

/-- These bytes of the current chunk are not yet written. -/
def unwritten : Option (Bytes × Nat) → Bytes
  | some (data, pos) => data.drop pos
  | none => []

/-- The task has accepted these bytes and not lost them. -/
def State.total (state : State) : Bytes :=
  state.written ++ unwritten state.writing ++ state.channel.items.flatten

/-- These are the possible steps of the task, by what they do to the bytes. -/
inductive Move (state : State) : Action → State → Prop
  | send {data channel} : state.channel.send data = some channel →
      Move state (.send data) { state with channel }
  | receive {data channel} : state.writing = none → state.channel.receive = some (data, channel) →
      Move state .receive { state with channel, writing := advance data 0 }
  | wrote {data pos count} : state.writing = some (data, pos) →
      Move state (.write (.wrote count)) { state with
        writing := advance data (pos + count)
        written := state.written ++ (data.drop pos).take count }
  | retry {outcome} : Move state (.write outcome) state
  | failed : Move state (.write .failed) state.finish
  | stop : Move state .stop state.finish

variable {state next : State} {action : Action}

/-- Each accepted action is one of the possible steps. -/
theorem step_move (moved : step state action = some next) : Move state action next := by
  cases action with
  | send data =>
      obtain ⟨channel, sent, rfl⟩ := Option.map_eq_some_iff.mp moved
      exact .send sent
  | receive =>
      simp only [step] at moved
      split at moved
      · next idle received =>
          cases moved
          exact .receive idle received
      · contradiction
  | write outcome =>
      simp only [step] at moved
      split at moved
      · next writing =>
          rw [Option.ite_none_right_eq_some, Option.some.injEq] at moved
          obtain ⟨-, rfl⟩ := moved
          exact .wrote writing
      · cases moved
        exact .retry
      · cases moved
        exact .retry
      · cases moved
        exact .failed
      · contradiction
  | stop =>
      cases moved
      exact .stop

@[simp] theorem unwritten_advance (data : Bytes) (pos : Nat) :
    unwritten (advance data pos) = data.drop pos := by
  unfold advance
  split
  · rfl
  · next done => exact (List.drop_eq_nil_of_le (Nat.le_of_not_lt done)).symm

/-- What is written is a part of what was accepted. -/
theorem State.written_prefix (state : State) : state.written <+: state.total :=
  (List.prefix_append _ _).trans (List.prefix_append _ _)

/-- A task that has ended has lost what it had not written. -/
@[simp] theorem State.finish_total (state : State) : state.finish.total = state.written := by
  simp [State.total, State.finish, unwritten]

/-- The task accepts a chunk behind everything else. -/
theorem send_total {data : Bytes} (moved : step state (.send data) = some next) :
    next.total = state.total ++ data ∧ next.ended = state.ended := by
  obtain ⟨channel, sent, rfl⟩ := Option.map_eq_some_iff.mp moved
  obtain ⟨-, items, -⟩ := Channel.send_some sent
  refine ⟨?_, rfl⟩
  simp only [State.total, items, List.flatten_append, List.flatten_singleton, List.append_assoc]

/-- The task writes what it has accepted in order, and it loses bytes only when it ends. -/
theorem own_total (own : ∀ data, action ≠ .send data) (moved : step state action = some next) :
    next.total = state.total ∧ next.ended = state.ended ∨ next = state.finish := by
  cases step_move moved with
  | send => exact absurd rfl (own _)
  | receive idle received =>
      obtain ⟨items, -⟩ := Channel.receive_some received
      refine .inl ⟨?_, rfl⟩
      simp only [State.total, idle, items, unwritten_advance]
      simp [unwritten]
  | @wrote data pos count writing =>
      refine .inl ⟨?_, rfl⟩
      have rest : (data.drop pos).take count ++ data.drop (pos + count) = data.drop pos := by
        rw [← List.drop_drop, List.take_append_drop]
      simp only [State.total, writing, unwritten_advance]
      rw [List.append_assoc state.written, rest]
      rfl
  | retry => exact .inl ⟨rfl, rfl⟩
  | failed | stop => exact .inr rfl

end Tunnix.PtyWriter
