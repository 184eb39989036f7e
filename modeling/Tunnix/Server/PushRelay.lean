import Tunnix.Library.Machine
import Tunnix.Library.Channel
import Tunnix.Protocol

namespace Tunnix.PushRelay

/-- The unpack task returns, or it fails, or it panics. -/
inductive Unpacked where
  | ok
  | failed (error : String)
  | panicked (error : String)
deriving DecidableEq, Repr

/-- The relay reports how the unpack task has ended. -/
def Unpacked.event : Unpacked → TunnelEvent
  | .ok => .exit 0
  | .failed error => .error error
  | .panicked error => .error ("unpack task failed: " ++ error)

/-- The relay waits for the unpack task, and its watchdog may force the end of the archive. Then it
drops the writer and reports. -/
inductive Main where
  | selecting
  | expired
  | forced
  | joined (unpacked : Unpacked)
  | reporting (event : TunnelEvent)
  | finished
deriving DecidableEq, Repr

/-- The channel to the unpack task holds this many chunks. -/
def channelCap : Nat := 256

/-- The state joins the relay, the unpack task and the relay's entry in the session. The last two
fields record what the unpack task took and what was queued for the client. -/
structure State where
  main : Main
  unpacked : Option Unpacked
  writer : Channel channelCap Bytes
  /-- `tcp_writers` holds this relay's sender. -/
  registered : Bool
  /-- Each `Data` handler between its lookup and its send holds a sender. -/
  handlers : List Bytes
  received : List Bytes
  queued : List TunnelEvent
deriving DecidableEq

/-- A `Push` registers the unpack task's channel before it spawns the relay. -/
def start : State where
  main := .selecting
  unpacked := none
  writer := .empty _ _
  registered := true
  handlers := []
  received := []
  queued := []

/-- The first group of actions belongs to `handle_send`, the next one to the unpack task, and the
last one to the relay. -/
inductive Action where
  | handleData (data : Bytes)
  | enqueue (index : Nat)
  | forget (index : Nat)
  | handleClose
  | handleAbort
  | takeChunk
  | unpackEnds (unpacked : Unpacked)
  | join
  | watchdog
  | forceEof
  | release
  | reported (ok : Bool)
deriving DecidableEq, Repr

/-- A `Close` follows a delivered exit status, and every other report is the last one. -/
def afterReport : TunnelEvent → Bool → Main
  | .exit _, true => .reporting .close
  | .exit _, false | .close, _ | .error _, _ | .data _, _ => .finished

/-- A delivered event is queued for the client. -/
def State.queue (state : State) (event : TunnelEvent) (ok : Bool) : State :=
  if ok then { state with queued := state.queued ++ [event] } else state

/-- The relay moves by one action, or refuses one that its state does not allow. -/
def step (state : State) : Action → Option State
  | .handleData data =>
      if state.registered then some { state with handlers := state.handlers ++ [data] }
      else some state
  | .enqueue index =>
      match state.handlers[index]? with
      | none => none
      | some data =>
          if state.writer.receiving then
            (state.writer.send data).map fun writer =>
              { state with writer, handlers := state.handlers.eraseIdx index }
          else some { state with handlers := state.handlers.eraseIdx index }
  | .forget index =>
      if index < state.handlers.length then
        some { state with handlers := state.handlers.eraseIdx index }
      else none
  | .handleClose | .handleAbort => some { state with registered := false }
  | .takeChunk =>
      if state.unpacked = none then
        state.writer.receive.map fun (chunk, writer) =>
          { state with writer, received := state.received ++ [chunk] }
      else none
  -- The unpack task may end before it has seen the end of its input.
  | .unpackEnds unpacked =>
      if state.unpacked = none then
        some { state with unpacked := some unpacked, writer := state.writer.drop }
      else none
  | .join =>
      match state.unpacked with
      | some unpacked =>
          if state.main = .selecting ∨ state.main = .forced then
            some { state with main := .joined unpacked }
          else none
      | none => none
  | .watchdog => if state.main = .selecting then some { state with main := .expired } else none
  | .forceEof =>
      if state.main = .expired then some { state with registered := false, main := .forced }
      else none
  | .release =>
      match state.main with
      | .joined unpacked =>
          some { state with registered := false, main := .reporting unpacked.event }
      | _ => none
  | .reported ok =>
      match state.main with
      | .reporting event => some { state.queue event ok with main := afterReport event ok }
      | _ => none

/-- These are the relay's possible steps, one for each branch of the source. -/
inductive Move (state : State) : Action → State → Prop
  | handleData {data} : state.registered = true →
      Move state (.handleData data) { state with handlers := state.handlers ++ [data] }
  | discardData {data} : state.registered = false → Move state (.handleData data) state
  | enqueue {index data writer} : state.handlers[index]? = some data →
      state.writer.send data = some writer →
      Move state (.enqueue index)
        { state with writer, handlers := state.handlers.eraseIdx index }
  | refuse {index data} : state.handlers[index]? = some data → state.writer.receiving = false →
      Move state (.enqueue index) { state with handlers := state.handlers.eraseIdx index }
  | forget {index} : index < state.handlers.length →
      Move state (.forget index) { state with handlers := state.handlers.eraseIdx index }
  | handleClose : Move state .handleClose { state with registered := false }
  | handleAbort : Move state .handleAbort { state with registered := false }
  | takeChunk {chunk writer} : state.unpacked = none →
      state.writer.receive = some (chunk, writer) →
      Move state .takeChunk { state with writer, received := state.received ++ [chunk] }
  | unpackEnds {unpacked} : state.unpacked = none →
      Move state (.unpackEnds unpacked)
        { state with unpacked := some unpacked, writer := state.writer.drop }
  | join {unpacked} : state.unpacked = some unpacked →
      state.main = .selecting ∨ state.main = .forced →
      Move state .join { state with main := .joined unpacked }
  | watchdog : state.main = .selecting → Move state .watchdog { state with main := .expired }
  | forceEof : state.main = .expired →
      Move state .forceEof { state with registered := false, main := .forced }
  | release {unpacked} : state.main = .joined unpacked →
      Move state .release { state with registered := false, main := .reporting unpacked.event }
  | reported {event ok} : state.main = .reporting event →
      Move state (.reported ok) { state.queue event ok with main := afterReport event ok }

/-- Each accepted action is one of the possible steps. -/
theorem step_move {state next : State} {action : Action}
    (moved : step state action = some next) : Move state action next := by
  cases action with
  | handleData data =>
      simp only [step] at moved
      split at moved
      · next registered =>
          cases moved
          exact .handleData registered
      · next removed =>
          cases moved
          exact .discardData (Bool.eq_false_iff.mpr removed)
  | enqueue index =>
      simp only [step] at moved
      split at moved
      · contradiction
      · next held =>
          split at moved
          · obtain ⟨writer, sent, rfl⟩ := Option.map_eq_some_iff.mp moved
            exact .enqueue held sent
          · next dropped =>
              cases moved
              exact .refuse held (Bool.eq_false_iff.mpr dropped)
  | forget index =>
      simp only [step, Option.ite_none_right_eq_some, Option.some.injEq] at moved
      obtain ⟨within, rfl⟩ := moved
      exact .forget within
  | handleClose =>
      cases moved
      exact .handleClose
  | handleAbort =>
      cases moved
      exact .handleAbort
  | takeChunk =>
      simp only [step, Option.ite_none_right_eq_some, Option.map_eq_some_iff] at moved
      obtain ⟨running, ⟨chunk, writer⟩, taken, rfl⟩ := moved
      exact .takeChunk running taken
  | unpackEnds unpacked =>
      simp only [step, Option.ite_none_right_eq_some, Option.some.injEq] at moved
      obtain ⟨running, rfl⟩ := moved
      exact .unpackEnds running
  | join =>
      simp only [step] at moved
      split at moved
      · next ended =>
          rw [Option.ite_none_right_eq_some, Option.some.injEq] at moved
          obtain ⟨waiting, rfl⟩ := moved
          exact .join ended waiting
      · contradiction
  | watchdog =>
      simp only [step, Option.ite_none_right_eq_some, Option.some.injEq] at moved
      obtain ⟨selecting, rfl⟩ := moved
      exact .watchdog selecting
  | forceEof =>
      simp only [step, Option.ite_none_right_eq_some, Option.some.injEq] at moved
      obtain ⟨expired, rfl⟩ := moved
      exact .forceEof expired
  | release =>
      simp only [step] at moved
      split at moved
      · next joined =>
          cases moved
          exact .release joined
      · contradiction
  | reported ok =>
      simp only [step] at moved
      split at moved
      · next reporting =>
          cases moved
          exact .reported reporting
      · contradiction

/-- The relay has dropped its writer. -/
def Main.past : Main → Bool
  | .reporting _ | .finished => true
  | .selecting | .expired | .forced | .joined _ => false

/-- These steps remove the relay's entry. -/
def Action.removes : Action → Bool
  | .handleClose | .handleAbort | .forceEof | .release => true
  | .handleData _ | .enqueue _ | .forget _ | .takeChunk | .unpackEnds _ | .join | .watchdog
  | .reported _ => false

/-- A relay reports once its entry is removed, and no step brings the entry back. -/
theorem step_entry {state next : State} {action : Action}
    (moved : step state action = some next) :
    next.registered = (state.registered && !action.removes) ∧
      (next.main.past = true → state.main.past = true ∨ action.removes = true) := by
  have kept (registered : Bool) : registered = (registered && !false) := (Bool.and_true _).symm
  have lost (registered : Bool) : false = (registered && !true) := (Bool.and_false _).symm
  cases step_move moved with
  | handleData | discardData | enqueue | refuse | forget | takeChunk | unpackEnds =>
      exact ⟨kept _, .inl⟩
  | handleClose | handleAbort | forceEof | release => exact ⟨lost _, fun _ => .inr rfl⟩
  | join | watchdog => exact ⟨kept _, nofun⟩
  | @reported event ok reporting =>
      have past : state.main.past = true := by rw [reporting]; rfl
      cases ok with
      | true => exact ⟨kept _, fun _ => .inl past⟩
      | false => exact ⟨kept _, fun _ => .inl past⟩

/-- A relay that reports has no entry left. -/
def Released (state : State) : Prop := state.main.past = true → state.registered = false

/-- Every step keeps a reporting relay without an entry. -/
theorem Released.step {state next : State} {action : Action} (released : Released state)
    (moved : PushRelay.step state action = some next) : Released next := by
  obtain ⟨registered, onward⟩ := step_entry moved
  intro past
  rw [registered]
  rcases onward past with before | removes
  · rw [released before, Bool.false_and]
  · rw [removes, Bool.not_true, Bool.and_false]

end Tunnix.PushRelay
