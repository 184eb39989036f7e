import Tunnix.Library.Machine
import Tunnix.Library.Channel
import Tunnix.Library.Socket
import Tunnix.Protocol
import Mathlib.Tactic.Simps.Basic

namespace Tunnix.ClientRelay

/-- `Stop` says why the write half stops the read half; `localFailure` is `Stop::Local`. -/
inductive Stop where
  | serverReported
  | localFailure
deriving DecidableEq, Repr

/-- `Upload` says how the read half's loop ended. -/
inductive Upload where
  | eof
  | failed
  | stopped (stop : Stop)
deriving DecidableEq, Repr

/-- `UploadEnd` is what the read half tells the write half. -/
inductive UploadEnd where
  | eof
  | failed
deriving DecidableEq, Repr

/-- The read half waits in its `select!`, in one of its two awaited posts, or has returned. -/
inductive ReadHalf where
  | selecting
  | sending (chunk : Bytes)
  | closing
  | ended (outcome : Upload)
deriving DecidableEq, Repr

/-- The write half waits in its `select!`, in a socket call, or has returned its abort flag. -/
inductive WriteHalf where
  | selecting
  | writing (rest : Bytes)
  | shuttingDown
  | ended (abort : Bool)
deriving DecidableEq, Repr

/-- `CONN_CHANNEL_CAPACITY` bounds the events that one connection may have queued. -/
def connChannelCapacity : Nat := 256

/-- The read buffer of the relay holds this many bytes. -/
def bufferSize : Nat := 32768

/-- The state of one `relay` call joins both halves, their signals and the app's socket.
The last four fields record the history that the statements about a run refer to. -/
structure State where
  read : ReadHalf
  write : WriteHalf
  upload : OneShot UploadEnd
  stop : OneShot Stop
  failed : Bool
  serverReported : Bool
  responseClosed : Bool
  uploadEnded : Bool
  events : Channel connChannelCapacity TunnelEvent
  /-- Some sender of the event channel is still held by the tunnel. -/
  registered : Bool
  app : Socket
  returned : Bool
  arrived : List TunnelEvent
  processed : List TunnelEvent
  posts : List Message
  closeAccepted : Bool
deriving DecidableEq

/-- The relay starts with both halves in their loops and an open event channel. -/
def start : State where
  read := .selecting
  write := .selecting
  upload := .waiting
  stop := .waiting
  failed := false
  serverReported := false
  responseClosed := false
  uploadEnded := false
  events := .empty _ _
  registered := true
  app := .fresh
  returned := false
  arrived := []
  processed := []
  posts := []
  closeAccepted := false

/-- The first three actions belong to the environment, the others to the two halves. -/
inductive Action where
  | event (event : TunnelEvent)
  | dropChannel
  | readStop
  | readApp (chunk : Bytes)
  | readEof
  | readError
  | sent (ok : Bool)
  | closed (accepted : Bool)
  | takeEvent
  | takeUpload
  | writeSome (count : Nat)
  | writeFails
  | shutdown (ok : Bool)
  | finish
deriving DecidableEq, Repr

/-- The read half spawns an `Abort` for a local failure and then reports the upload's end. -/
@[simps] def State.endRead (state : State) (connId : ConnId) (outcome : Upload) : State :=
  { state with
    read := .ended outcome
    posts := match outcome with
      | .failed | .stopped .localFailure => state.posts ++ [.abort connId]
      | .eof | .stopped .serverReported => state.posts
    upload := .sent (match outcome with
      | .failed => .failed
      | .eof | .stopped _ => .eof) }

/-- The write half signals a failure, drops its receiver and returns its abort flag. -/
@[simps] def State.endWrite (state : State) : State :=
  { state with
    write := .ended (state.failed && !state.responseClosed)
    events := state.events.drop
    stop := if state.failed then
        .sent (if state.serverReported then .serverReported else .localFailure)
      else .dropped }

/-- The write half ends its loop with a failure that is local to this client. -/
def State.failWrite (state : State) : State := { state with failed := true }.endWrite

/-- The write half has taken one event off its channel. -/
def State.receive (state : State) (event : TunnelEvent)
    (events : Channel connChannelCapacity TunnelEvent) : State :=
  { state with events, processed := state.processed ++ [event] }

/-- The write half handles one event up to its next await or the end of its loop. -/
def State.handle (state : State) : TunnelEvent → State
  | .data [] => state
  | .data (byte :: bytes) => { state with write := .writing (byte :: bytes) }
  | .close => { state with responseClosed := true, write := .shuttingDown }
  | .error _ => { state with failed := true, serverReported := true }.endWrite
  -- An exit status has no meaning for a TCP relay and fails the connection.
  | .exit _ => state.failWrite

/-- The write half handles the report that the upload has ended. -/
def State.handleUpload (state : State) : UploadEnd → State
  | .eof => if state.responseClosed then state.endWrite else state
  | .failed => state.failWrite

/-- The relay moves by one action, or refuses one that its state does not allow. -/
def step (connId : ConnId) (state : State) : Action → Option State
  | .event event =>
      if state.registered then
        (state.events.send event).map fun events =>
          { state with events, arrived := state.arrived ++ [event] }
      else none
  | .dropChannel =>
      if state.registered then some { state with registered := false } else none
  | .readStop =>
      match state.read, state.stop with
      | .selecting, .sent stop =>
          some ({ state with stop := .taken }.endRead connId (.stopped stop))
      | .selecting, .dropped =>
          some ({ state with stop := .taken }.endRead connId (.stopped .localFailure))
      | _, _ => none
  -- The biased `select!` polls the stop signal first, so the read needs it to be pending. One step
  -- takes the whole poll, and `RelayPoll` splits it.
  | .readApp chunk =>
      if state.read = .selecting ∧ state.stop = .waiting ∧ chunk ≠ [] ∧
          chunk.length ≤ bufferSize then
        some { state with read := .sending chunk, posts := state.posts ++ [.data connId chunk] }
      else none
  | .readEof =>
      if state.read = .selecting ∧ state.stop = .waiting then
        some { state with read := .closing, posts := state.posts ++ [.close connId] }
      else none
  | .readError =>
      if state.read = .selecting ∧ state.stop = .waiting then
        some (state.endRead connId .failed)
      else none
  | .sent ok =>
      match state.read with
      | .sending _ =>
          some (if ok then { state with read := .selecting } else state.endRead connId .failed)
      | _ => none
  | .closed accepted =>
      if state.read = .closing then
        some ({ state with closeAccepted := accepted }.endRead connId .eof)
      else none
  | .takeEvent =>
      if state.write = .selecting then
        match state.events.receive with
        | some (event, events) =>
            some ((state.receive event events).handle event)
        | none => if state.registered then none else some state.failWrite
      else none
  -- The biased `select!` polls the event channel first, so nothing may be ready there. What comes
  -- between the two polls is taken to come after the second one.
  | .takeUpload =>
      if state.write = .selecting ∧ state.uploadEnded = false ∧ state.events.items = [] ∧
          state.registered = true then
        match state.upload with
        | .sent reported =>
            some ({ state with uploadEnded := true, upload := .taken }.handleUpload reported)
        | .dropped =>
            some ({ state with uploadEnded := true, upload := .taken }.handleUpload .failed)
        | _ => none
      else none
  | .writeSome count =>
      match state.write with
      | .writing rest =>
          if 0 < count ∧ count ≤ rest.length ∧ state.app.writable then
            some { state with
              app := state.app.accept (rest.take count)
              write := if count = rest.length then .selecting else .writing (rest.drop count) }
          else none
      | _ => none
  | .writeFails =>
      match state.write with
      | .writing _ => some { state with app := state.app.fail }.failWrite
      | _ => none
  | .shutdown ok =>
      if state.write = .shuttingDown ∧ (ok = true → state.app.broken = false) then
        let shut := { state with
          app := if ok then state.app.shutdown else state.app.fail
          write := .selecting }
        some (if state.uploadEnded then shut.endWrite else shut)
      else none
  | .finish =>
      match state.read, state.write with
      | .ended _, .ended abort =>
          if state.returned then none
          else some { state with
            returned := true
            registered := false
            app := if abort then state.app.abort else state.app.shutdown }
      | _, _ => none

/-- These are the relay's possible steps, one for each branch of the source. -/
inductive Move (connId : ConnId) (state : State) : Action → State → Prop
  | event {event events} : state.registered = true → state.events.send event = some events →
      Move connId state (.event event) { state with events, arrived := state.arrived ++ [event] }
  | dropChannel : state.registered = true →
      Move connId state .dropChannel { state with registered := false }
  | readStop {stop} : state.read = .selecting →
      state.stop = .sent stop ∨ state.stop = .dropped ∧ stop = .localFailure →
      Move connId state .readStop
        ({ state with stop := .taken }.endRead connId (.stopped stop))
  | readApp {chunk} : state.read = .selecting → state.stop = .waiting → chunk ≠ [] →
      chunk.length ≤ bufferSize →
      Move connId state (.readApp chunk)
        { state with read := .sending chunk, posts := state.posts ++ [.data connId chunk] }
  | readEof : state.read = .selecting → state.stop = .waiting →
      Move connId state .readEof
        { state with read := .closing, posts := state.posts ++ [.close connId] }
  | readError : state.read = .selecting → state.stop = .waiting →
      Move connId state .readError (state.endRead connId .failed)
  | sent {chunk} : state.read = .sending chunk →
      Move connId state (.sent true) { state with read := .selecting }
  | sendFailed {chunk} : state.read = .sending chunk →
      Move connId state (.sent false) (state.endRead connId .failed)
  | closed {accepted} : state.read = .closing →
      Move connId state (.closed accepted)
        ({ state with closeAccepted := accepted }.endRead connId .eof)
  | takeEvent {event events} : state.write = .selecting →
      state.events.receive = some (event, events) →
      Move connId state .takeEvent
        ((state.receive event events).handle event)
  | channelGone : state.write = .selecting → state.events.items = [] →
      state.registered = false → Move connId state .takeEvent state.failWrite
  | takeUpload {reported} : state.write = .selecting → state.uploadEnded = false →
      state.events.items = [] → state.registered = true →
      state.upload = .sent reported ∨ state.upload = .dropped ∧ reported = .failed →
      Move connId state .takeUpload
        ({ state with uploadEnded := true, upload := .taken }.handleUpload reported)
  | writeSome {rest count} : state.write = .writing rest → 0 < count → count < rest.length →
      state.app.writable = true →
      Move connId state (.writeSome count)
        { state with app := state.app.accept (rest.take count), write := .writing (rest.drop count) }
  | writeAll {rest} : state.write = .writing rest → 0 < rest.length →
      state.app.writable = true →
      Move connId state (.writeSome rest.length)
        { state with app := state.app.accept rest, write := .selecting }
  | writeFails {rest} : state.write = .writing rest →
      Move connId state .writeFails { state with app := state.app.fail }.failWrite
  | shutdown {ok app} : state.write = .shuttingDown → state.uploadEnded = false →
      app = (if ok then state.app.shutdown else state.app.fail) →
      (ok = true → state.app.broken = false) →
      Move connId state (.shutdown ok) { state with app, write := .selecting }
  | shutdownLast {ok app} : state.write = .shuttingDown → state.uploadEnded = true →
      app = (if ok then state.app.shutdown else state.app.fail) →
      (ok = true → state.app.broken = false) →
      Move connId state (.shutdown ok) { state with app, write := .selecting }.endWrite
  | finish {outcome abort} : state.read = .ended outcome → state.write = .ended abort →
      state.returned = false →
      Move connId state .finish { state with
        returned := true
        registered := false
        app := if abort then state.app.abort else state.app.shutdown }

/-- Each accepted action is one of the possible steps. -/
theorem step_move {connId : ConnId} {state next : State} {action : Action}
    (moved : step connId state action = some next) : Move connId state action next := by
  cases action with
  | event event =>
      simp only [step] at moved
      split at moved
      · next registered =>
          obtain ⟨events, sent, rfl⟩ := Option.map_eq_some_iff.mp moved
          exact .event registered sent
      · cases moved
  | dropChannel =>
      simp only [step] at moved
      split at moved
      · next registered => cases moved; exact .dropChannel registered
      · cases moved
  | readStop =>
      simp only [step] at moved
      split at moved
      · next stop reading signal => cases moved; exact .readStop reading (.inl signal)
      · next reading signal => cases moved; exact .readStop reading (.inr ⟨signal, rfl⟩)
      · cases moved
  | readApp chunk =>
      simp only [step] at moved
      split at moved
      · next allowed =>
          cases moved
          exact .readApp allowed.1 allowed.2.1 allowed.2.2.1 allowed.2.2.2
      · cases moved
  | readEof =>
      simp only [step] at moved
      split at moved
      · next allowed => cases moved; exact .readEof allowed.1 allowed.2
      · cases moved
  | readError =>
      simp only [step] at moved
      split at moved
      · next allowed => cases moved; exact .readError allowed.1 allowed.2
      · cases moved
  | sent ok =>
      simp only [step] at moved
      split at moved
      · next reading =>
          cases ok with
          | true => cases moved; exact .sent reading
          | false => cases moved; exact .sendFailed reading
      · cases moved
  | closed accepted =>
      simp only [step] at moved
      split at moved
      · next closing => cases moved; exact .closed closing
      · cases moved
  | takeEvent =>
      simp only [step] at moved
      split at moved
      · next selecting =>
          split at moved
          · next event events received => cases moved; exact .takeEvent selecting received
          · next empty =>
              split at moved
              · cases moved
              · next gone =>
                  cases moved
                  exact .channelGone selecting (Channel.receive_none.mp empty) (by simpa using gone)
      · cases moved
  | takeUpload =>
      simp only [step] at moved
      split at moved
      · next allowed =>
          obtain ⟨selecting, pending, empty, registered⟩ := allowed
          split at moved
          · next reported signal =>
              cases moved
              exact .takeUpload selecting pending empty registered (.inl signal)
          · next signal =>
              cases moved
              exact .takeUpload selecting pending empty registered (.inr ⟨signal, rfl⟩)
          · cases moved
      · cases moved
  | writeSome count =>
      simp only [step] at moved
      split at moved
      · next rest writing =>
          split at moved
          · next allowed =>
              obtain ⟨positive, within, writable⟩ := allowed
              cases moved
              by_cases all : count = rest.length
              · subst all
                rw [if_pos rfl, List.take_length]
                exact .writeAll writing positive writable
              · rw [if_neg all]
                exact .writeSome writing positive (Nat.lt_of_le_of_ne within all) writable
          · cases moved
      · cases moved
  | writeFails =>
      simp only [step] at moved
      split at moved
      · next writing => cases moved; exact .writeFails writing
      · cases moved
  | shutdown ok =>
      simp only [step] at moved
      split at moved
      · next allowed =>
          by_cases ended : state.uploadEnded = true
          · rw [if_pos ended] at moved
            cases moved
            exact .shutdownLast allowed.1 ended rfl allowed.2
          · rw [if_neg ended] at moved
            cases moved
            exact .shutdown allowed.1 (by simpa using ended) rfl allowed.2
      · cases moved
  | finish =>
      simp only [step] at moved
      split at moved
      · next outcome abort reading writing =>
          split at moved
          · cases moved
          · next running =>
              cases moved
              exact .finish reading writing (by simpa using running)
      · cases moved

end Tunnix.ClientRelay
