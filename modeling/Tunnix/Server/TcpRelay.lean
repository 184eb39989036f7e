import Tunnix.Library.Machine
import Tunnix.Library.Channel
import Tunnix.Library.Socket
import Tunnix.Protocol
import Mathlib.Tactic.Simps.Basic

namespace Tunnix.TcpRelay

/-- `Report` names the messages that the relay queues for its client. -/
inductive Report where
  | data (chunk : Bytes)
  | close
  | readFailed (error : String)
  | writeFailed (error : String)
  | clientUnreachable
deriving DecidableEq, Repr

/-- Each report is one message for the relay's `conn_id`. -/
def Report.message (connId : ConnId) : Report → Message
  | .data chunk => .data connId chunk
  | .close => .close connId
  | .readFailed error => .error (some connId) ("target read failed: " ++ error)
  | .writeFailed error => .error (some connId) ("target write failed: " ++ error)
  | .clientUnreachable => .error (some connId) "client unreachable; target relay abandoned"

/-- The read task leaves its loop for one of four reasons. -/
inductive ReadEnd where
  | eof
  | failed (error : String)
  | clientGone
  | aborted
deriving DecidableEq, Repr

/-- The read task waits in its `select!` or in a delivery, or it is about to take the
session's lock, or it has ended. -/
inductive ReadTask where
  | selecting
  | sending (chunk : Bytes)
  | ended (reason : ReadEnd)
  | reporting (report : Report)
  | unsent
  | done
deriving DecidableEq, Repr

/-- The write task waits in its `select!`, in `write_all` or in a delivery, or it has ended. -/
inductive WriteTask where
  | selecting
  | writing (rest : Bytes)
  | failing (error : String)
  | reporting (error : String)
  | done
deriving DecidableEq, Repr

/-- The writer channel of a connection holds this many chunks. -/
def writerCapacity : Nat := 256

/-- The read buffer of the relay holds this many bytes. -/
def bufferSize : Nat := 32768

/-- The state joins both tasks of one relay, its entries in the session and its target.
The fields from `produced` on record the history that the statements about a run refer to. -/
structure State where
  read : ReadTask
  write : WriteTask
  writer : Channel writerCapacity Bytes
  /-- `tcp_writers` holds this relay's sender. -/
  registered : Bool
  /-- `aborts` holds this relay's signal. -/
  abortable : Bool
  /-- The abort signal holds a permit. -/
  notified : Bool
  /-- Each `Data` handler between its lookup and its send holds a sender. -/
  handlers : List Bytes
  target : Socket
  finished : Bool
  produced : List Bytes
  queued : List Report
  accepted : List Bytes
  closeProcessed : Bool
deriving DecidableEq

/-- A `Connect` registers the writer and the abort signal before it spawns the relay. -/
def start : State where
  read := .selecting
  write := .selecting
  writer := .empty _ _
  registered := true
  abortable := true
  notified := false
  handlers := []
  target := .fresh
  finished := false
  produced := []
  queued := []
  accepted := []
  closeProcessed := false

/-- The first group of actions belongs to `handle_send` and the rest of the session, the next
one to the read task, and the last one to the write task and the final cleanup. -/
inductive Action where
  | handleData (data : Bytes)
  | enqueue (index : Nat)
  | forget (index : Nat)
  | handleClose
  | handleAbort
  | loseWriter
  | loseAbort
  | readTarget (chunk : Bytes)
  | readEof
  | readFails (error : String)
  | takeAbort
  | clientLost
  | delivered (ok : Bool)
  | settle
  | reported (ok : Bool)
  | releaseUnsent
  | takeData
  | watchdog
  | writeSome (count : Nat)
  | writeFails (error : String)
  | releaseFailed
  | failureReported (ok : Bool)
  | cleanup
deriving DecidableEq, Repr

/-- `tcp_writers.remove` drops the session's sender. -/
@[simps] def State.releaseWriter (state : State) : State := { state with registered := false }

/-- An ended write task drops its receiver and its half of the target's socket. -/
@[simps] def State.endWrite (state : State) : State :=
  { state with
    write := .done
    writer := state.writer.drop
    target := state.target.shutdown }

/-- A delivered report is queued for the client. -/
@[simps] def State.queue (state : State) (report : Report) : State :=
  { state with queued := state.queued ++ [report] }

/-- The read task continues after its loop as the reason for its end requires. -/
def State.settle (state : State) : ReadEnd → State
  | .eof => { state with read := .reporting .close }
  | .failed error => { state.releaseWriter with read := .reporting (.readFailed error) }
  | .clientGone => { state.releaseWriter with read := .reporting .clientUnreachable }
  | .aborted => { state.releaseWriter with read := .done }

/-- A terminal report ends the read task, or it leaves a writer to release. -/
def State.reported (state : State) (report : Report) : Bool → State
  | true => { state.queue report with read := .done }
  | false => { state with read := if report = .clientUnreachable then .done else .unsent }

/-- The relay moves by one action, or refuses one that its state does not allow. -/
def step (state : State) : Action → Option State
  | .handleData data =>
      if state.registered then some { state with handlers := state.handlers ++ [data] }
      else some state
  | .enqueue index =>
      match state.handlers[index]? with
      | none => none
      | some data =>
          if state.writer.receiving then
            (state.writer.send data).map fun writer =>
              { state with
                writer
                handlers := state.handlers.eraseIdx index
                accepted := state.accepted ++ [data] }
          else some { state with handlers := state.handlers.eraseIdx index }
  | .forget index =>
      if index < state.handlers.length then
        some { state with handlers := state.handlers.eraseIdx index }
      else none
  | .handleClose => some { state.releaseWriter with closeProcessed := true }
  | .handleAbort =>
      some { state.releaseWriter with
        abortable := false
        notified := state.notified || state.abortable }
  | .loseWriter => if state.registered then some state.releaseWriter else none
  | .loseAbort => if state.abortable then some { state with abortable := false } else none
  | .readTarget chunk =>
      if state.read = .selecting ∧ chunk ≠ [] ∧ chunk.length ≤ bufferSize then
        some { state with read := .sending chunk, produced := state.produced ++ [chunk] }
      else none
  | .readEof =>
      if state.read = .selecting then some { state with read := .ended .eof } else none
  | .readFails error =>
      if state.read = .selecting then some { state with read := .ended (.failed error) } else none
  | .takeAbort =>
      if state.read = .selecting ∧ state.notified = true then
        some { state with read := .ended .aborted, notified := false }
      else none
  | .clientLost =>
      if state.read = .selecting then some { state with read := .ended .clientGone } else none
  | .delivered ok =>
      match state.read with
      | .sending chunk =>
          some (if ok then { state.queue (.data chunk) with read := .selecting }
            else { state with read := .ended .clientGone })
      | _ => none
  | .settle =>
      match state.read with
      | .ended reason => some (state.settle reason)
      | _ => none
  | .reported ok =>
      match state.read with
      | .reporting report => some (state.reported report ok)
      | _ => none
  | .releaseUnsent =>
      if state.read = .unsent then some { state.releaseWriter with read := .done } else none
  | .takeData =>
      if state.write = .selecting then
        match state.writer.receive with
        | some ([], writer) => some { state with writer }
        | some (byte :: bytes, writer) =>
            some { state with writer, write := .writing (byte :: bytes) }
        | none => if state.registered ∨ state.handlers ≠ [] then none else some state.endWrite
      else none
  -- The write task's own watchdog starts only once the read task is gone.
  | .watchdog =>
      if state.write = .selecting ∧ state.read = .done then some state.endWrite else none
  | .writeSome count =>
      match state.write with
      | .writing rest =>
          if 0 < count ∧ count ≤ rest.length then
            some { state with
              target := state.target.accept (rest.take count)
              write := if count = rest.length then .selecting else .writing (rest.drop count) }
          else none
      | _ => none
  | .writeFails error =>
      match state.write with
      | .writing _ => some { state with target := state.target.fail, write := .failing error }
      | _ => none
  | .releaseFailed =>
      match state.write with
      | .failing error => some { state.releaseWriter with write := .reporting error }
      | _ => none
  | .failureReported ok =>
      match state.write with
      | .reporting error =>
          some (if ok then state.queue (.writeFailed error) else state).endWrite
      | _ => none
  | .cleanup =>
      if state.read = .done ∧ state.write = .done ∧ state.finished = false then
        some { state.releaseWriter with abortable := false, finished := true }
      else none

/-- These are the relay's possible steps, one for each branch of the source. -/
inductive Move (state : State) : Action → State → Prop
  | handleData {data} : state.registered = true →
      Move state (.handleData data) { state with handlers := state.handlers ++ [data] }
  | discardData {data} : state.registered = false → Move state (.handleData data) state
  | enqueue {index data writer} : state.handlers[index]? = some data →
      state.writer.send data = some writer →
      Move state (.enqueue index) { state with
        writer
        handlers := state.handlers.eraseIdx index
        accepted := state.accepted ++ [data] }
  | refuse {index data} : state.handlers[index]? = some data → state.writer.receiving = false →
      Move state (.enqueue index) { state with handlers := state.handlers.eraseIdx index }
  | forget {index} : index < state.handlers.length →
      Move state (.forget index) { state with handlers := state.handlers.eraseIdx index }
  | handleClose : Move state .handleClose { state.releaseWriter with closeProcessed := true }
  | handleAbort : Move state .handleAbort { state.releaseWriter with
      abortable := false
      notified := state.notified || state.abortable }
  | loseWriter : state.registered = true → Move state .loseWriter state.releaseWriter
  | loseAbort : Move state .loseAbort { state with abortable := false }
  | readTarget {chunk} : state.read = .selecting → chunk ≠ [] → chunk.length ≤ bufferSize →
      Move state (.readTarget chunk)
        { state with read := .sending chunk, produced := state.produced ++ [chunk] }
  | readEof : state.read = .selecting → Move state .readEof { state with read := .ended .eof }
  | readFails {error} : state.read = .selecting →
      Move state (.readFails error) { state with read := .ended (.failed error) }
  | takeAbort : state.read = .selecting → state.notified = true →
      Move state .takeAbort { state with read := .ended .aborted, notified := false }
  | clientLost : state.read = .selecting →
      Move state .clientLost { state with read := .ended .clientGone }
  | delivered {chunk} : state.read = .sending chunk →
      Move state (.delivered true) { state.queue (.data chunk) with read := .selecting }
  | undelivered {chunk} : state.read = .sending chunk →
      Move state (.delivered false) { state with read := .ended .clientGone }
  | settle {reason} : state.read = .ended reason → Move state .settle (state.settle reason)
  | reported {report ok} : state.read = .reporting report →
      Move state (.reported ok) (state.reported report ok)
  | releaseUnsent : state.read = .unsent →
      Move state .releaseUnsent { state.releaseWriter with read := .done }
  | takeEmpty {writer} : state.write = .selecting → state.writer.receive = some ([], writer) →
      Move state .takeData { state with writer }
  | takeData {data writer} : state.write = .selecting → state.writer.receive = some (data, writer) →
      data ≠ [] → Move state .takeData { state with writer, write := .writing data }
  | sendersGone : state.write = .selecting → state.writer.items = [] → state.registered = false →
      state.handlers = [] → Move state .takeData state.endWrite
  | watchdog : state.write = .selecting → state.read = .done → Move state .watchdog state.endWrite
  | writeSome {rest count} : state.write = .writing rest → 0 < count → count < rest.length →
      Move state (.writeSome count)
        { state with
          target := state.target.accept (rest.take count)
          write := .writing (rest.drop count) }
  | writeAll {rest} : state.write = .writing rest → 0 < rest.length →
      Move state (.writeSome rest.length)
        { state with target := state.target.accept rest, write := .selecting }
  | writeFails {rest error} : state.write = .writing rest →
      Move state (.writeFails error)
        { state with target := state.target.fail, write := .failing error }
  | releaseFailed {error} : state.write = .failing error →
      Move state .releaseFailed { state.releaseWriter with write := .reporting error }
  | failureReported {error} : state.write = .reporting error →
      Move state (.failureReported true) (state.queue (.writeFailed error)).endWrite
  | failureUnreported {error} : state.write = .reporting error →
      Move state (.failureReported false) state.endWrite
  | cleanup : state.read = .done → state.write = .done → state.finished = false →
      Move state .cleanup { state.releaseWriter with abortable := false, finished := true }

/-- Each accepted action is one of the possible steps. -/
theorem step_move {state next : State} {action : Action}
    (moved : step state action = some next) : Move state action next := by
  cases action with
  | handleData data =>
      simp only [step] at moved
      split at moved
      · next registered => cases moved; exact .handleData registered
      · next unregistered => cases moved; exact .discardData (by simpa using unregistered)
  | enqueue index =>
      simp only [step] at moved
      split at moved
      · cases moved
      · next data present =>
          split at moved
          · obtain ⟨writer, sent, rfl⟩ := Option.map_eq_some_iff.mp moved
            exact .enqueue present sent
          · next gone => cases moved; exact .refuse present (by simpa using gone)
  | forget index =>
      simp only [step] at moved
      split at moved
      · next present => cases moved; exact .forget present
      · cases moved
  | handleClose => cases moved; exact .handleClose
  | handleAbort => cases moved; exact .handleAbort
  | loseWriter =>
      simp only [step] at moved
      split at moved
      · next registered => cases moved; exact .loseWriter registered
      · cases moved
  | loseAbort =>
      simp only [step] at moved
      split at moved
      · cases moved; exact .loseAbort
      · cases moved
  | readTarget chunk =>
      simp only [step] at moved
      split at moved
      · next allowed => cases moved; exact .readTarget allowed.1 allowed.2.1 allowed.2.2
      · cases moved
  | readEof =>
      simp only [step] at moved
      split at moved
      · next selecting => cases moved; exact .readEof selecting
      · cases moved
  | readFails error =>
      simp only [step] at moved
      split at moved
      · next selecting => cases moved; exact .readFails selecting
      · cases moved
  | takeAbort =>
      simp only [step] at moved
      split at moved
      · next allowed => cases moved; exact .takeAbort allowed.1 allowed.2
      · cases moved
  | clientLost =>
      simp only [step] at moved
      split at moved
      · next selecting => cases moved; exact .clientLost selecting
      · cases moved
  | delivered ok =>
      simp only [step] at moved
      split at moved
      · next chunk sending =>
          cases ok with
          | true => cases moved; exact .delivered sending
          | false => cases moved; exact .undelivered sending
      · cases moved
  | settle =>
      simp only [step] at moved
      split at moved
      · next reason ended => cases moved; exact .settle ended
      · cases moved
  | reported ok =>
      simp only [step] at moved
      split at moved
      · next report reporting => cases moved; exact .reported reporting
      · cases moved
  | releaseUnsent =>
      simp only [step] at moved
      split at moved
      · next unsent => cases moved; exact .releaseUnsent unsent
      · cases moved
  | takeData =>
      simp only [step] at moved
      split at moved
      · next selecting =>
          split at moved
          · next received => cases moved; exact .takeEmpty selecting received
          · next received =>
              cases moved
              exact .takeData selecting received (List.cons_ne_nil _ _)
          · next empty =>
              split at moved
              · cases moved
              · next gone =>
                  cases moved
                  rw [not_or, not_not, Bool.not_eq_true] at gone
                  exact .sendersGone selecting (Channel.receive_none.mp empty) gone.1 gone.2
      · cases moved
  | watchdog =>
      simp only [step] at moved
      split at moved
      · next allowed => cases moved; exact .watchdog allowed.1 allowed.2
      · cases moved
  | writeSome count =>
      simp only [step] at moved
      split at moved
      · next rest writing =>
          split at moved
          · next allowed =>
              obtain ⟨positive, within⟩ := allowed
              cases moved
              by_cases all : count = rest.length
              · subst all
                rw [if_pos rfl, List.take_length]
                exact .writeAll writing positive
              · rw [if_neg all]
                exact .writeSome writing positive (Nat.lt_of_le_of_ne within all)
          · cases moved
      · cases moved
  | writeFails error =>
      simp only [step] at moved
      split at moved
      · next rest writing => cases moved; exact .writeFails writing
      · cases moved
  | releaseFailed =>
      simp only [step] at moved
      split at moved
      · next error failing => cases moved; exact .releaseFailed failing
      · cases moved
  | failureReported ok =>
      simp only [step] at moved
      split at moved
      · next error reporting =>
          cases ok with
          | true => cases moved; exact .failureReported reporting
          | false => cases moved; exact .failureUnreported reporting
      · cases moved
  | cleanup =>
      simp only [step] at moved
      split at moved
      · next allowed => cases moved; exact .cleanup allowed.1 allowed.2.1 allowed.2.2
      · cases moved

end Tunnix.TcpRelay
