import Tunnix.Server.PtyRelay

namespace Tunnix.ExecSession

/-- The first descriptor that knows a size of the terminal tells it. -/
def terminalSize (readings : List (Option PtyRelay.PtySize)) : PtyRelay.PtySize :=
  ((readings.filterMap id).find? fun size => 0 < size.cols && 0 < size.rows).getD
    { rows := 24, cols := 80 }

/-- The session asks the server for a PTY of the terminal's size. -/
def announcement (connId : ConnId) (cmd : Option String)
    (readings : List (Option PtyRelay.PtySize)) (term : Option String) : Message :=
  let size := terminalSize readings
  .exec connId cmd size.cols size.rows (term.getD "xterm-256color")

/-- `session` announces its command, installs its signal handler, selects, waits until its sender has
flushed, posts its `Close` and returns, and `run` unregisters the connection. -/
inductive Phase where
  | announcing
  | starting
  | selecting
  | flushing
  | closing (result : Except String Int32)
  | leaving (result : Except String Int32)
  | returned (result : Except String Int32)
deriving DecidableEq

/-- The sender task posts one message after another, and it ends after a failed POST or at the end
of its channel. -/
inductive Sender where
  | unspawned
  | waiting
  | posting (message : Message)
  | ended
deriving DecidableEq, Repr

/-- The buffer for the standard input holds this many bytes. -/
def bufferSize : Nat := 8192

/-- A read of the standard input finds bytes, its end, or an error. -/
inductive Stdin where
  | chunk (bytes : Bytes)
  | eof
  | error
deriving DecidableEq, Repr

/-- The state joins the session, its sender task and its event channel. The last seven fields record
what was read, written and received, what the sender's channel has accepted, what was given to
`send_message`, and whether the session left its loop early, a POST of the sender has failed, or a
write to the standard output has failed. -/
structure State where
  phase : Phase
  sender : Sender
  queue : List Message
  /-- The session holds the sending end of the sender's channel. -/
  sending : Bool
  stdinOpen : Bool
  lastWasNewline : Bool
  exitCode : Int32
  sawExit : Bool
  events : List TunnelEvent
  registered : Bool
  input : Bytes
  eof : Bool
  stdout : Bytes
  received : List TunnelEvent
  enqueued : List Message
  sent : List Message
  bailed : Bool
  failed : Bool
  broken : Bool

/-- `run` registers the connection, and the session begins with its announcement. -/
def start (announcement : Message) : State where
  phase := .announcing
  sender := .unspawned
  queue := []
  sending := false
  stdinOpen := true
  lastWasNewline := true
  exitCode := 0
  sawExit := false
  events := []
  registered := true
  input := []
  eof := false
  stdout := []
  received := []
  enqueued := []
  sent := [announcement]
  bailed := false
  failed := false
  broken := false

/-- The first group of actions belongs to the session, the next one to the tunnel, and the last one to
the sender task. A failed write to the standard output has written some bytes. -/
inductive Action where
  | announced (failure : Option String)
  | started (failure : Option String)
  | stdin (read : Stdin)
  | event (broken : Option Nat)
  | senderGone
  | winch (readings : List (Option PtyRelay.PtySize))
  | flushed
  | close
  | unregister
  | arrive (event : TunnelEvent)
  | hangUp
  | take
  | posted (ok : Bool)
  | drained

/-- A line that is still open is ended before the end of the file is signalled. -/
def eofData (lastWasNewline : Bool) : Bytes := if lastWasNewline then [0x04] else [0x0A, 0x04]

namespace State

/-- An early return drops the channel and leaves the sender task alone. -/
def bail (state : State) (message : String) : State :=
  { state with phase := .closing (.error message), sending := false, bailed := true }

/-- The loop ends, and the sender finds the end of its channel. -/
def leave (state : State) : State := { state with phase := .flushing, sending := false }

/-- A sender task that has ended takes no message. -/
def enqueue (state : State) (message : Message) : State :=
  if state.sender = .ended then state
  else { state with queue := state.queue ++ [message], enqueued := state.enqueued ++ [message] }

/-- The session handles one event. -/
def onEvent (state : State) (broken : Option Nat) : TunnelEvent → State
  -- The result of the `flush` after a write is ignored. A write that fails only there counts as
  -- written.
  | .data bytes =>
      match broken with
      | none => { state with stdout := state.stdout ++ bytes }
      | some count => { state.leave with stdout := state.stdout ++ bytes.take count, broken := true }
  | .exit code => { state with exitCode := code, sawExit := true }
  | .error message => state.bail ("remote error: " ++ message)
  | .close => state.leave

/-- Only an exit status of the server makes the command's exit code meaningful. -/
def result (state : State) : Except String Int32 :=
  if state.sawExit then .ok state.exitCode
  else .error "connection closed before the remote command reported an exit status"

end State

/-- The session moves by one action, or refuses one that its state does not allow. -/
def step (connId : ConnId) (state : State) : Action → Option State
  | .announced failure =>
      match state.phase, failure with
      | .announcing, none => some { state with
          phase := .starting
          sender := .waiting
          sending := true }
      | .announcing, some message => some (state.bail message)
      | _, _ => none
  | .started failure =>
      match state.phase, failure with
      | .starting, none => some { state with phase := .selecting }
      | .starting, some message => some (state.bail message)
      | _, _ => none
  | .stdin read =>
      if state.phase = .selecting ∧ state.stdinOpen = true then
        match read with
        | .chunk bytes =>
            if bytes ≠ [] ∧ bytes.length ≤ bufferSize then
              let taken := { state with
                input := state.input ++ bytes
                lastWasNewline := decide (bytes.getLast? = some 0x0A) }
              if state.sender = .ended then some (taken.bail "sender channel closed")
              else some (taken.enqueue (.data connId bytes))
            else none
        | .eof => some (State.enqueue { state with stdinOpen := false, eof := true }
            (.data connId (eofData state.lastWasNewline)))
        | .error => some { state with stdinOpen := false }
      else none
  | .event broken =>
      match state.phase, state.events with
      | .selecting, event :: events =>
          some (State.onEvent { state with events, received := state.received ++ [event] }
            broken event)
      | .selecting, [] => if state.registered then none else some state.leave
      | _, _ => none
  | .senderGone =>
      if state.phase = .selecting ∧ state.sender = .ended then
        some (state.bail "outbound sender task exited; tunnel is down")
      else none
  | .winch readings =>
      if state.phase = .selecting then
        let size := terminalSize readings
        some (state.enqueue (.resize connId size.cols size.rows))
      else none
  | .flushed =>
      if state.phase = .flushing ∧ state.sender = .ended then
        some { state with phase := .closing state.result }
      else none
  -- The outcome of the POST of the `Close` is ignored.
  | .close =>
      match state.phase with
      | .closing result => some { state with
          phase := .leaving result
          sent := state.sent ++ [.close connId] }
      | _ => none
  | .unregister =>
      match state.phase with
      | .leaving result => some { state with phase := .returned result, registered := false }
      | _ => none
  | .arrive event =>
      if state.registered then some { state with events := state.events ++ [event] } else none
  | .hangUp => some { state with registered := false }
  | .take =>
      match state.sender, state.queue with
      | .waiting, message :: queue => some { state with
          sender := .posting message
          queue
          sent := state.sent ++ [message] }
      | _, _ => none
  -- A failed POST ends the task, and its channel is closed with what is queued.
  | .posted ok =>
      match state.sender with
      | .posting _ =>
          if ok then some { state with sender := .waiting }
          else some { state with sender := .ended, queue := [], failed := true }
      | _ => none
  | .drained =>
      if state.sender = .waiting ∧ state.queue = [] ∧ state.sending = false then
        some { state with sender := .ended }
      else none

/-- These are the possible steps of the session and its surroundings, one for each branch of the
source. -/
inductive Move (connId : ConnId) (state : State) : Action → State → Prop
  | announced : state.phase = .announcing → Move connId state (.announced none)
      { state with phase := .starting, sender := .waiting, sending := true }
  | unannounced {message} : state.phase = .announcing →
      Move connId state (.announced (some message)) (state.bail message)
  | started : state.phase = .starting →
      Move connId state (.started none) { state with phase := .selecting }
  | unstarted {message} : state.phase = .starting →
      Move connId state (.started (some message)) (state.bail message)
  | read {bytes} : state.phase = .selecting → state.stdinOpen = true → state.sender ≠ .ended →
      bytes ≠ [] → Move connId state (.stdin (.chunk bytes)) { state with
        input := state.input ++ bytes
        lastWasNewline := decide (bytes.getLast? = some 0x0A)
        queue := state.queue ++ [.data connId bytes]
        enqueued := state.enqueued ++ [.data connId bytes] }
  | unsent {bytes} : state.phase = .selecting → state.stdinOpen = true → state.sender = .ended →
      bytes ≠ [] → Move connId state (.stdin (.chunk bytes)) (State.bail { state with
        input := state.input ++ bytes
        lastWasNewline := decide (bytes.getLast? = some 0x0A) } "sender channel closed")
  | eof : state.phase = .selecting → state.stdinOpen = true →
      Move connId state (.stdin .eof) (State.enqueue { state with stdinOpen := false, eof := true }
        (.data connId (eofData state.lastWasNewline)))
  | unreadable : state.phase = .selecting → state.stdinOpen = true →
      Move connId state (.stdin .error) { state with stdinOpen := false }
  | event {broken event events} : state.phase = .selecting → state.events = event :: events →
      Move connId state (.event broken) (State.onEvent { state with
        events
        received := state.received ++ [event] } broken event)
  | lost {broken} : state.phase = .selecting → state.events = [] → state.registered = false →
      Move connId state (.event broken) state.leave
  | senderGone : state.phase = .selecting → state.sender = .ended →
      Move connId state .senderGone (state.bail "outbound sender task exited; tunnel is down")
  | winch {readings cols rows} : state.phase = .selecting →
      Move connId state (.winch readings) (state.enqueue (.resize connId cols rows))
  | flushed : state.phase = .flushing → state.sender = .ended →
      Move connId state .flushed { state with phase := .closing state.result }
  | close {result} : state.phase = .closing result → Move connId state .close
      { state with phase := .leaving result, sent := state.sent ++ [.close connId] }
  | unregister {result} : state.phase = .leaving result → Move connId state .unregister
      { state with phase := .returned result, registered := false }
  | arrive {event} : state.registered = true → Move connId state (.arrive event)
      { state with events := state.events ++ [event] }
  | hangUp : Move connId state .hangUp { state with registered := false }
  | take {message queue} : state.sender = .waiting → state.queue = message :: queue →
      Move connId state .take
        { state with sender := .posting message, queue, sent := state.sent ++ [message] }
  | posted {message} : state.sender = .posting message →
      Move connId state (.posted true) { state with sender := .waiting }
  | unposted {message} : state.sender = .posting message → Move connId state (.posted false)
      { state with sender := .ended, queue := [], failed := true }
  | drained : state.sender = .waiting → state.queue = [] → state.sending = false →
      Move connId state .drained { state with sender := .ended }

variable {connId : ConnId} {state next : State} {action : Action}

/-- Each accepted action is one of the possible steps. -/
theorem step_move (moved : step connId state action = some next) :
    Move connId state action next := by
  cases action with
  | announced failure =>
      simp only [step] at moved
      split at moved
      · next announcing =>
          cases moved
          exact .announced announcing
      · next announcing =>
          cases moved
          exact .unannounced announcing
      · contradiction
  | started failure =>
      simp only [step] at moved
      split at moved
      · next starting =>
          cases moved
          exact .started starting
      · next starting =>
          cases moved
          exact .unstarted starting
      · contradiction
  | stdin read =>
      unfold step at moved
      dsimp only at moved
      rw [Option.ite_none_right_eq_some] at moved
      obtain ⟨⟨selecting, opened⟩, moved⟩ := moved
      cases read with
      | chunk bytes =>
          dsimp only at moved
          rw [Option.ite_none_right_eq_some] at moved
          obtain ⟨⟨some_, -⟩, moved⟩ := moved
          split at moved
          · next ended =>
              cases moved
              exact .unsent selecting opened ended some_
          · next runs =>
              rw [State.enqueue, if_neg runs] at moved
              cases moved
              exact .read selecting opened runs some_
      | eof =>
          cases moved
          exact .eof selecting opened
      | error =>
          cases moved
          exact .unreadable selecting opened
  | event broken =>
      simp only [step] at moved
      split at moved
      · next selecting arrived =>
          cases moved
          exact .event selecting arrived
      · next selecting empty =>
          rw [Option.ite_none_left_eq_some, Option.some.injEq] at moved
          obtain ⟨unregistered, rfl⟩ := moved
          exact .lost selecting empty (Bool.eq_false_iff.mpr unregistered)
      · contradiction
  | senderGone =>
      rw [step, Option.ite_none_right_eq_some, Option.some.injEq] at moved
      obtain ⟨⟨selecting, ended⟩, rfl⟩ := moved
      exact .senderGone selecting ended
  | winch readings =>
      rw [step, Option.ite_none_right_eq_some, Option.some.injEq] at moved
      obtain ⟨selecting, rfl⟩ := moved
      exact .winch selecting
  | flushed =>
      rw [step, Option.ite_none_right_eq_some, Option.some.injEq] at moved
      obtain ⟨⟨flushing, ended⟩, rfl⟩ := moved
      exact .flushed flushing ended
  | close =>
      simp only [step] at moved
      split at moved
      · next closing =>
          cases moved
          exact .close closing
      · contradiction
  | unregister =>
      simp only [step] at moved
      split at moved
      · next leaving =>
          cases moved
          exact .unregister leaving
      · contradiction
  | arrive event =>
      rw [step, Option.ite_none_right_eq_some, Option.some.injEq] at moved
      obtain ⟨registered, rfl⟩ := moved
      exact .arrive registered
  | hangUp =>
      cases moved
      exact .hangUp
  | take =>
      simp only [step] at moved
      split at moved
      · next waiting queued =>
          cases moved
          exact .take waiting queued
      · contradiction
  | posted ok =>
      simp only [step] at moved
      split at moved
      · next posting =>
          cases ok with
          | true =>
              cases moved
              exact .posted posting
          | false =>
              cases moved
              exact .unposted posting
      · contradiction
  | drained =>
      rw [step, Option.ite_none_right_eq_some, Option.some.injEq] at moved
      obtain ⟨⟨waiting, empty, dropped⟩, rfl⟩ := moved
      exact .drained waiting empty dropped

/-- These bytes reach the server in the `Data` messages of a connection. -/
def uploaded (connId : ConnId) (messages : List Message) : Bytes :=
  payload (messages.filterMap (Message.event connId))

/-- The input ends at the beginning of a line. -/
def terminated (input : Bytes) : Bool := input.getLast?.all fun byte => decide (byte = 0x0A)

/-- The server should see the input and then the mark of its end. -/
def State.forwarded (state : State) : Bytes :=
  state.input ++ if state.eof then eofData (terminated state.input) else []

/-- The session is between its announcement and the end of its loop. -/
def Phase.inside : Phase → Bool
  | .starting | .selecting => true
  | .announcing | .flushing | .closing _ | .leaving _ | .returned _ => false

/-- The session has posted its `Close`. -/
def Phase.left : Phase → Bool
  | .leaving _ | .returned _ => true
  | .announcing | .starting | .selecting | .flushing | .closing _ => false

/-- The session knows its result from its `Close` on. -/
def Phase.result? : Phase → Option (Except String Int32)
  | .closing result | .leaving result | .returned result => some result
  | .announcing | .starting | .selecting | .flushing => none

/-- The session has left its loop. -/
def Phase.past : Phase → Bool
  | .flushing | .closing _ | .leaving _ | .returned _ => true
  | .announcing | .starting | .selecting => false

/-- Only an exit status carries a code. -/
def exit? : TunnelEvent → Option Int32
  | .exit code => some code
  | .data _ | .close | .error _ => none

/-- The last exit status of the server is the command's. -/
def earned (received : List TunnelEvent) : Except String Int32 :=
  match (received.filterMap exit?).getLast? with
  | some code => .ok code
  | none => .error "connection closed before the remote command reported an exit status"

/-- The session holds its channel inside the loop only. The sender ends after a failed POST or at the
end of the channel, and it has ended whenever the session is past its flush. -/
structure Staged (state : State) : Prop where
  announcing : state.phase = .announcing → state.sender = .unspawned
  inside : state.sending = state.phase.inside
  spawned : state.phase.inside = true → state.sender ≠ .unspawned
  ended : state.sender = .ended → state.failed = false → state.sending = false
  failed : state.failed = true → state.sender = .ended
  flushed : state.bailed = false → state.phase.result?.isSome = true → state.sender = .ended
  emptied : state.sender = .ended → state.queue = []
  bailed : state.bailed = true → state.phase.result?.isSome = true

/-- The sender's channel accepts the input in order, as long as no POST has failed, and everything it
accepts is posted or queued behind the announcement. -/
structure Ledger (connId : ConnId) (opening : Message) (state : State) : Prop where
  newline : state.lastWasNewline = terminated state.input
  closed : state.eof = true → state.stdinOpen = false
  part : uploaded connId state.enqueued <+: state.forwarded
  whole : state.failed = false → uploaded connId state.enqueued = state.forwarded
  ordered : state.sent.filter (· ≠ .close connId) ++ state.queue <+: opening :: state.enqueued
  kept : state.failed = false →
    state.sent.filter (· ≠ .close connId) ++ state.queue = opening :: state.enqueued
  unclosed : .close connId ∉ opening :: state.enqueued

/-- The session posts a single `Close`, and nothing is sent after that of a session that has flushed
its sender. -/
structure Closed (connId : ConnId) (state : State) : Prop where
  once : state.sent.count (.close connId) = if state.phase.left then 1 else 0
  last : state.phase.left = true → state.bailed = false →
    state.sent.getLast? = some (.close connId)
  unregistered : ∀ result, state.phase = .returned result → state.registered = false

/-- The result and the output follow from what was received. -/
structure Earned (state : State) : Prop where
  exits : state.result = earned state.received
  result : ∀ result, state.phase.result? = some result →
    if state.bailed then ∃ message, result = .error message else result = earned state.received
  part : state.stdout <+: payload state.received
  shown : state.broken = false → state.stdout = payload state.received
  broken : state.broken = true → state.phase.past = true
  failed : ∀ message, .error message ∈ state.received → state.bailed = true

@[simp] theorem uploaded_append (first second : List Message) :
    uploaded connId (first ++ second) = uploaded connId first ++ uploaded connId second := by
  simp [uploaded]

@[simp] theorem uploaded_data (bytes : Bytes) : uploaded connId [.data connId bytes] = bytes := by
  simp [uploaded, Message.event, TunnelEvent.bytes]

@[simp] theorem uploaded_resize (cols rows : UInt16) :
    uploaded connId [.resize connId cols rows] = [] := rfl

/-- A `Close` carries no bytes. -/
theorem uploaded_filter (messages : List Message) :
    uploaded connId (messages.filter (· ≠ .close connId)) = uploaded connId messages := by
  induction messages with
  | nil => rfl
  | cons message rest ih =>
      by_cases close : message = .close connId
      · subst close
        rw [List.filter_cons_of_neg (by simp), ih]
        simp [uploaded, Message.event, payload, TunnelEvent.bytes]
      · rw [List.filter_cons_of_pos (by simpa using close)]
        rw [← List.singleton_append, uploaded_append, ih, ← uploaded_append]
        rfl

/-- A prefix of the messages carries a prefix of the bytes. -/
theorem uploaded_prefix (connId : ConnId) {first second : List Message} (part : first <+: second) :
    uploaded connId first <+: uploaded connId second := by
  obtain ⟨rest, rfl⟩ := part
  rw [uploaded_append]
  exact List.prefix_append _ _

theorem Staged.start (opening : Message) : Staged (start opening) where
  announcing _ := rfl
  inside := rfl
  spawned inside := by cases inside
  ended ended := by cases ended
  failed failed := by cases failed
  flushed _ known := by cases known
  emptied ended := by cases ended
  bailed bailed := by cases bailed

theorem Ledger.start {opening : Message} (opens : opening ≠ .close connId) :
    Ledger connId opening (start opening) where
  newline := rfl
  closed ended := by cases ended
  part := List.prefix_rfl
  whole _ := rfl
  ordered := by simp [ExecSession.start, opens]
  kept _ := by simp [ExecSession.start, opens]
  unclosed := by simpa [ExecSession.start] using opens.symm

theorem Closed.start {opening : Message} (opens : opening ≠ .close connId) :
    Closed connId (start opening) where
  once := List.count_eq_zero_of_not_mem (by simpa [ExecSession.start] using opens.symm)
  last left := by cases left
  unregistered _ := by simp [ExecSession.start]

theorem Earned.start (opening : Message) : Earned (start opening) where
  exits := rfl
  result := nofun
  part := List.prefix_rfl
  shown _ := rfl
  broken broken := by cases broken
  failed := nofun

/-- A session that has bailed knows its result. -/
theorem Staged.unbailed (staged : Staged state) (unknown : state.phase.result? = none) :
    state.bailed = false := by
  by_contra bailed
  have known := staged.bailed (eq_true_of_ne_false bailed)
  rw [unknown] at known
  cases known

/-- A bail leaves the loop with an error. -/
theorem Staged.bail (staged : Staged state) (message : String) : Staged (state.bail message) where
  announcing announcing := by cases announcing
  inside := rfl
  spawned inside := by cases inside
  ended _ _ := rfl
  failed := staged.failed
  flushed bailed := by cases bailed
  emptied := staged.emptied
  bailed _ := rfl

/-- The session leaves its loop without an error yet. -/
theorem Staged.leave (staged : Staged state) (selecting : state.phase = .selecting) :
    Staged state.leave where
  announcing announcing := by cases announcing
  inside := rfl
  spawned inside := by cases inside
  ended _ _ := rfl
  failed := staged.failed
  flushed _ known := by cases known
  emptied := staged.emptied
  bailed bailed := by
    have known := staged.bailed bailed
    rw [selecting] at known
    cases known

/-- A message for the sender does not move the session. -/
theorem Staged.enqueue (staged : Staged state) (message : Message) :
    Staged (state.enqueue message) := by
  unfold State.enqueue
  split
  · exact staged
  · next runs => exact ⟨staged.announcing, staged.inside, staged.spawned, staged.ended,
      staged.failed, staged.flushed, fun ended => absurd ended runs, staged.bailed⟩

/-- An event leaves the loop or keeps the session in it. -/
theorem Staged.onEvent (staged : Staged state) (selecting : state.phase = .selecting)
    (broken : Option Nat) (event : TunnelEvent) : Staged (state.onEvent broken event) := by
  cases event with
  | data bytes =>
      cases broken with
      | none => exact ⟨staged.announcing, staged.inside, staged.spawned, staged.ended,
          staged.failed, staged.flushed, staged.emptied, staged.bailed⟩
      | some count =>
          have left := staged.leave selecting
          exact ⟨left.announcing, left.inside, left.spawned, left.ended, left.failed, left.flushed,
            left.emptied, left.bailed⟩
  | exit code => exact ⟨staged.announcing, staged.inside, staged.spawned, staged.ended,
      staged.failed, staged.flushed, staged.emptied, staged.bailed⟩
  | error message => exact staged.bail _
  | close => exact staged.leave selecting

/-- The sender task is between its spawn and its end. -/
def Sender.runs : Sender → Bool
  | .waiting | .posting _ => true
  | .unspawned | .ended => false

/-- A running sender may move on or end. -/
theorem Staged.sender (staged : Staged state) {sender : Sender} {queue sent : List Message}
    {failed : Bool} (runs : state.sender.runs = true) (spawned : sender ≠ .unspawned)
    (ended : sender = .ended → failed = false → state.sending = false)
    (stops : failed = true → state.failed = true ∨ sender = .ended)
    (emptied : sender = .ended → queue = []) :
    Staged { state with sender, queue, sent, failed } where
  announcing announcing := by
    rw [staged.announcing announcing] at runs
    cases runs
  inside := staged.inside
  spawned _ := spawned
  ended := ended
  failed failed := by
    rcases stops failed with before | ended
    · rw [staged.failed before] at runs
      cases runs
    · exact ended
  flushed bailed known := by
    rw [staged.flushed bailed known] at runs
    cases runs
  emptied := emptied
  bailed := staged.bailed

/-- Every step keeps the session and its sender in their stages. -/
theorem Staged.step (staged : Staged state) (moved : step connId state action = some next) :
    Staged next := by
  -- A change of the remaining fields keeps the stages.
  have same {other : State} (phase : other.phase = state.phase) (sender : other.sender = state.sender)
      (sending : other.sending = state.sending) (failed : other.failed = state.failed)
      (bailed : other.bailed = state.bailed) (queue : other.queue = state.queue) :
      Staged other := by
    constructor
    · rw [phase, sender]; exact staged.announcing
    · rw [sending, phase]; exact staged.inside
    · rw [phase, sender]; exact staged.spawned
    · rw [sender, failed, sending]; exact staged.ended
    · rw [failed, sender]; exact staged.failed
    · rw [bailed, phase, sender]; exact staged.flushed
    · rw [sender, queue]; exact staged.emptied
    · rw [bailed, phase]; exact staged.bailed
  cases step_move moved with
  | announced announcing =>
      have idle := staged.announcing announcing
      have unfailed : state.failed = false := by
        by_contra failed
        have ended := staged.failed (eq_true_of_ne_false failed)
        rw [idle] at ended
        cases ended
      exact
        { announcing := nofun
          inside := rfl
          spawned := fun _ => nofun
          ended := nofun
          failed := fun failed => by rw [unfailed] at failed; cases failed
          flushed := fun _ => nofun
          emptied := nofun
          bailed := fun bailed => by
            rw [staged.unbailed (by rw [announcing]; rfl)] at bailed
            cases bailed }
  | unannounced | unstarted | senderGone => exact staged.bail _
  | started starting =>
      exact
        { announcing := nofun
          inside := by
            have inside := staged.inside
            rw [starting] at inside
            exact inside
          spawned := fun _ => staged.spawned (by rw [starting]; rfl)
          ended := staged.ended
          failed := staged.failed
          flushed := fun _ => nofun
          emptied := staged.emptied
          bailed := fun bailed => by
            rw [staged.unbailed (by rw [starting]; rfl)] at bailed
            cases bailed }
  | read _ _ runs => exact ⟨staged.announcing, staged.inside, staged.spawned, staged.ended,
      staged.failed, staged.flushed, fun ended => absurd ended runs, staged.bailed⟩
  | unreadable | arrive | hangUp => exact same rfl rfl rfl rfl rfl rfl
  | unsent =>
      apply Staged.bail
      exact same rfl rfl rfl rfl rfl rfl
  | eof =>
      apply Staged.enqueue
      exact same rfl rfl rfl rfl rfl rfl
  | @event broken event events selecting =>
      have received : Staged { state with events, received := state.received ++ [event] } :=
        same rfl rfl rfl rfl rfl rfl
      exact received.onEvent selecting broken event
  | lost selecting => exact staged.leave selecting
  | winch => exact staged.enqueue _
  | flushed flushing ended =>
      refine ⟨nofun, ?_, nofun, ?_, staged.failed, fun _ _ => ended, staged.emptied, fun _ => rfl⟩
      · rw [staged.inside, flushing]
        rfl
      · intro _ _
        rw [staged.inside, flushing]
        rfl
  | close closing =>
      refine ⟨nofun, ?_, nofun, staged.ended, staged.failed, ?_, staged.emptied, fun _ => rfl⟩
      · rw [staged.inside, closing]
        rfl
      · exact fun bailed _ => staged.flushed bailed (by rw [closing]; rfl)
  | unregister leaving =>
      refine ⟨nofun, ?_, nofun, staged.ended, staged.failed, ?_, staged.emptied, fun _ => rfl⟩
      · rw [staged.inside, leaving]
        rfl
      · exact fun bailed _ => staged.flushed bailed (by rw [leaving]; rfl)
  | take waiting => exact staged.sender (by rw [waiting]; rfl) nofun nofun .inl nofun
  | posted posting => exact staged.sender (by rw [posting]; rfl) nofun nofun .inl nofun
  | unposted posting =>
      exact staged.sender (by rw [posting]; rfl) nofun (fun _ => nofun) (fun _ => .inr rfl) fun _ => rfl
  | drained waiting empty dropped =>
      exact staged.sender (by rw [waiting]; rfl) nofun (fun _ _ => dropped) .inl fun _ => empty


variable {opening : Message}

/-- While the session selects, its sender has ended exactly if a POST has failed. -/
theorem Staged.ended_iff (staged : Staged state) (selecting : state.phase = .selecting) :
    state.sender = .ended ↔ state.failed = true := by
  refine ⟨fun ended => ?_, staged.failed⟩
  by_contra failed
  have dropped := staged.ended ended (Bool.eq_false_iff.mpr failed)
  rw [staged.inside, selecting] at dropped
  cases dropped

/-- Whether an input is terminated depends on its last chunk. -/
theorem terminated_append (input : Bytes) {bytes : Bytes} (some_ : bytes ≠ []) :
    terminated (input ++ bytes) = decide (bytes.getLast? = some 0x0A) := by
  rw [terminated, List.getLast?_append_of_ne_nil _ some_]
  cases last : bytes.getLast? with
  | none => exact absurd (List.getLast?_eq_none_iff.mp last) some_
  | some byte => simp

/-- The ledger speaks of the input and of the sender's messages only. -/
theorem Ledger.of_same {other : State} (ledger : Ledger connId opening state)
    (newline : other.lastWasNewline = state.lastWasNewline) (input : other.input = state.input)
    (eof : other.eof = state.eof) (closed : state.stdinOpen = false → other.stdinOpen = false)
    (queue : other.queue = state.queue) (enqueued : other.enqueued = state.enqueued)
    (sent : other.sent = state.sent) (failed : other.failed = state.failed) :
    Ledger connId opening other := by
  have forwarded : other.forwarded = state.forwarded := by
    unfold State.forwarded
    rw [input, eof]
  constructor
  · rw [newline, input]; exact ledger.newline
  · rw [eof]; exact closed ∘ ledger.closed
  · rw [enqueued, forwarded]; exact ledger.part
  · rw [failed, enqueued, forwarded]; exact ledger.whole
  · rw [sent, queue, enqueued]; exact ledger.ordered
  · rw [failed, sent, queue, enqueued]; exact ledger.kept
  · rw [enqueued]; exact ledger.unclosed

/-- The sender's channel takes a message unless a POST has failed. -/
theorem Ledger.offer {other : State} (ledger : Ledger connId opening state) (message : Message)
    (open_ : message ≠ .close connId) (newline : other.lastWasNewline = terminated other.input)
    (closed : other.eof = true → other.stdinOpen = false)
    (forwarded : other.forwarded = state.forwarded ++ uploaded connId [message])
    (sent : other.sent = state.sent) (failed : other.failed = state.failed)
    (taken : state.failed = false →
      other.queue = state.queue ++ [message] ∧ other.enqueued = state.enqueued ++ [message])
    (lost : state.failed = true → other.queue = state.queue ∧ other.enqueued = state.enqueued) :
    Ledger connId opening other := by
  cases before : state.failed with
  | false =>
      obtain ⟨queue, enqueued⟩ := taken before
      have whole : uploaded connId other.enqueued = other.forwarded := by
        rw [enqueued, uploaded_append, ledger.whole before, forwarded]
      have kept : other.sent.filter (· ≠ .close connId) ++ other.queue =
          opening :: other.enqueued := by
        rw [sent, queue, enqueued, ← List.append_assoc, ledger.kept before, List.cons_append]
      refine ⟨newline, closed, whole ▸ List.prefix_rfl, fun _ => whole, kept ▸ List.prefix_rfl,
        fun _ => kept, ?_⟩
      rw [enqueued, ← List.cons_append, List.mem_append, not_or, List.mem_singleton]
      exact ⟨ledger.unclosed, open_.symm⟩
  | true =>
      obtain ⟨queue, enqueued⟩ := lost before
      rw [before] at failed
      constructor
      · exact newline
      · exact closed
      · rw [enqueued, forwarded]
        exact ledger.part.trans (List.prefix_append _ _)
      · intro whole
        rw [failed] at whole
        cases whole
      · rw [sent, queue, enqueued]
        exact ledger.ordered
      · intro kept
        rw [failed] at kept
        cases kept
      · rw [enqueued]
        exact ledger.unclosed

/-- An event does not concern the ledger. -/
theorem Ledger.onEvent (ledger : Ledger connId opening state) (broken : Option Nat)
    (event : TunnelEvent) : Ledger connId opening (state.onEvent broken event) := by
  cases event with
  | data bytes =>
      cases broken with
      | none => exact ledger.of_same rfl rfl rfl id rfl rfl rfl rfl
      | some count => exact ledger.of_same rfl rfl rfl id rfl rfl rfl rfl
  | exit code | error message | close => exact ledger.of_same rfl rfl rfl id rfl rfl rfl rfl

/-- Every step keeps the ledger. -/
theorem Ledger.step (ledger : Ledger connId opening state) (staged : Staged state)
    (moved : step connId state action = some next) : Ledger connId opening next := by
  have uneof (opened : state.stdinOpen = true) : state.eof = false := by
    by_contra eof
    rw [ledger.closed (eq_true_of_ne_false eof)] at opened
    cases opened
  cases step_move moved with
  | announced | unannounced | started | unstarted | lost | senderGone | flushed | unregister | arrive
  | hangUp | posted | drained => exact ledger.of_same rfl rfl rfl id rfl rfl rfl rfl
  | unreadable => exact ledger.of_same rfl rfl rfl (fun _ => rfl) rfl rfl rfl rfl
  | @read bytes selecting opened runs some_ =>
      refine ledger.offer (.data connId bytes) nofun (terminated_append _ some_).symm ?_ ?_ rfl rfl
        (fun _ => ⟨rfl, rfl⟩) fun failed => absurd (staged.failed failed) runs
      · exact ledger.closed
      · simp [State.forwarded, uneof opened]
  | @unsent bytes selecting opened ended some_ =>
      have failed := (staged.ended_iff selecting).mp ended
      refine ledger.offer (.data connId bytes) nofun (terminated_append _ some_).symm ?_ ?_ rfl rfl
        (fun kept => ?_) fun _ => ⟨rfl, rfl⟩
      · exact ledger.closed
      · simp [State.forwarded, State.bail, uneof opened]
      · rw [failed] at kept
        cases kept
  | eof selecting opened =>
      have forwarded (other : State) (input : other.input = state.input) (eof : other.eof = true) :
          other.forwarded = state.forwarded ++
            uploaded connId [.data connId (eofData state.lastWasNewline)] := by
        simp [State.forwarded, input, eof, uneof opened, ledger.newline]
      unfold State.enqueue
      split
      · next ended =>
          have failed := (staged.ended_iff selecting).mp ended
          refine ledger.offer (.data connId (eofData state.lastWasNewline)) nofun ledger.newline
            (fun _ => rfl) ?_ rfl rfl (fun kept => ?_) fun _ => ⟨rfl, rfl⟩
          · exact forwarded _ rfl rfl
          · rw [failed] at kept
            cases kept
      · next runs =>
          refine ledger.offer (.data connId (eofData state.lastWasNewline)) nofun ledger.newline
            (fun _ => rfl) ?_ rfl rfl (fun _ => ⟨rfl, rfl⟩) fun failed => ?_
          · exact forwarded _ rfl rfl
          · exact absurd (staged.failed failed) runs
  | @event broken event events =>
      have received : Ledger connId opening
          { state with events, received := state.received ++ [event] } :=
        ledger.of_same rfl rfl rfl id rfl rfl rfl rfl
      exact received.onEvent broken event
  | @winch readings cols rows selecting =>
      have forwarded (other : State) (input : other.input = state.input)
          (eof : other.eof = state.eof) : other.forwarded = state.forwarded ++
            uploaded connId [.resize connId cols rows] := by
        simp [State.forwarded, input, eof]
      unfold State.enqueue
      split
      · exact ledger
      · next runs =>
          refine ledger.offer (.resize connId cols rows) nofun ledger.newline ledger.closed ?_ rfl rfl
            (fun _ => ⟨rfl, rfl⟩) fun failed => ?_
          · exact forwarded _ rfl rfl
          · exact absurd (staged.failed failed) runs
  | close =>
      have posts : (state.sent ++ [Message.close connId]).filter (· ≠ Message.close connId) =
          state.sent.filter (· ≠ Message.close connId) := by simp
      refine ⟨ledger.newline, ledger.closed, ledger.part, ledger.whole, ?_, ?_, ledger.unclosed⟩
      · rw [posts]
        exact ledger.ordered
      · rw [posts]
        exact ledger.kept
  | @take message queue waiting queued =>
      have open_ : message ≠ .close connId := by
        rintro rfl
        refine ledger.unclosed (ledger.ordered.subset ?_)
        rw [queued]
        simp
      have posts : (state.sent ++ [message]).filter (· ≠ Message.close connId) ++ queue =
          state.sent.filter (· ≠ Message.close connId) ++ state.queue := by
        simp [queued, open_]
      refine ⟨ledger.newline, ledger.closed, ledger.part, ledger.whole, ?_, ?_, ledger.unclosed⟩
      · rw [posts]
        exact ledger.ordered
      · rw [posts]
        exact ledger.kept
  | unposted =>
      refine ⟨ledger.newline, ledger.closed, ledger.part, nofun, ?_, nofun, ledger.unclosed⟩
      rw [List.append_nil]
      exact (List.prefix_append _ _).trans ledger.ordered

/-- A session that has not posted its `Close` may move as long as it does not post it. -/
theorem Closed.early {other : State} (closed : Closed connId state)
    (before : state.phase.left = false) (after : other.phase.left = false)
    (sent : other.sent = state.sent) : Closed connId other where
  once := by
    rw [sent, closed.once, before, after]
  last left := by
    rw [after] at left
    cases left
  unregistered result returned := by
    rw [returned] at after
    cases after

/-- What happens within one phase does not concern the `Close`. -/
theorem Closed.of_same {other : State} (closed : Closed connId state)
    (phase : other.phase = state.phase) (sent : other.sent = state.sent)
    (bailed : other.bailed = state.bailed)
    (registered : state.registered = false → other.registered = false) : Closed connId other := by
  constructor
  · rw [phase, sent]; exact closed.once
  · rw [phase, sent, bailed]; exact closed.last
  · rw [phase]; exact fun result returned => registered (closed.unregistered result returned)

/-- No event makes the session post its `Close` at once. -/
theorem onEvent_close {state : State} (selecting : state.phase = .selecting)
    (broken : Option Nat) (event : TunnelEvent) :
    (state.onEvent broken event).phase.left = false ∧
      (state.onEvent broken event).sent = state.sent := by
  have inside : state.phase.left = false := by
    rw [selecting]
    rfl
  cases event with
  | data bytes =>
      cases broken with
      | none => exact ⟨inside, rfl⟩
      | some count => exact ⟨rfl, rfl⟩
  | exit code => exact ⟨inside, rfl⟩
  | error message | close => exact ⟨rfl, rfl⟩

/-- A message for the sender does not concern the `Close`. -/
theorem Closed.enqueue (closed : Closed connId state) (message : Message) :
    Closed connId (state.enqueue message) := by
  unfold State.enqueue
  split
  · exact closed
  · exact closed.of_same rfl rfl rfl id

/-- Every step keeps the `Close` single and last. -/
theorem Closed.step (closed : Closed connId state) (staged : Staged state)
    (ledger : Ledger connId opening state) (moved : step connId state action = some next) :
    Closed connId next := by
  cases step_move moved with
  | announced phase | unannounced phase | started phase | unstarted phase | lost phase
  | senderGone phase | flushed phase =>
      refine closed.early ?_ rfl rfl
      rw [phase]
      rfl
  | read | unreadable | posted | unposted | drained => exact closed.of_same rfl rfl rfl id
  | arrive => exact closed.of_same rfl rfl rfl id
  | hangUp => exact closed.of_same rfl rfl rfl fun _ => rfl
  | unsent selecting =>
      refine closed.early ?_ rfl rfl
      rw [selecting]
      rfl
  | eof =>
      apply Closed.enqueue
      exact closed.of_same rfl rfl rfl id
  | winch => exact closed.enqueue _
  | @event broken event events selecting =>
      have received : Closed connId { state with events, received := state.received ++ [event] } :=
        closed.of_same rfl rfl rfl id
      have taken : ({ state with events, received := state.received ++ [event] } : State).phase =
          .selecting := selecting
      have handled := onEvent_close taken broken event
      refine received.early ?_ handled.1 handled.2
      rw [selecting]
      rfl
  | close closing =>
      have none_ : state.sent.count (.close connId) = 0 := by
        rw [closed.once, closing]
        rfl
      refine ⟨?_, fun _ _ => List.getLast?_concat, nofun⟩
      rw [List.count_append, none_, List.count_singleton_self]
      rfl
  | @unregister result leaving =>
      have left : state.phase.left = true := by
        rw [leaving]
        rfl
      refine ⟨?_, fun _ => closed.last left, fun _ _ => rfl⟩
      rw [closed.once, left]
      rfl
  | @take message queue waiting queued =>
      have open_ : message ≠ .close connId := by
        rintro rfl
        refine ledger.unclosed (ledger.ordered.subset ?_)
        rw [queued]
        simp
      refine ⟨?_, ?_, closed.unregistered⟩
      · rw [List.count_append, List.count_singleton, closed.once]
        simp [open_]
      · intro left bailed
        have known : state.phase.result?.isSome = true := by
          cases phase : state.phase with
          | leaving | returned => rfl
          | announcing | starting | selecting | flushing | closing =>
              rw [phase] at left
              cases left
        rw [staged.flushed bailed known] at waiting
        cases waiting

/-- The last exit status counts. -/
theorem earned_exit (events : List TunnelEvent) (code : Int32) :
    earned (events ++ [.exit code]) = .ok code := by
  have taken : [TunnelEvent.exit code].filterMap exit? = [code] := rfl
  rw [earned, List.filterMap_append, taken, List.getLast?_concat]

/-- Any other event does not change the result. -/
theorem earned_silent (events : List TunnelEvent) {event : TunnelEvent}
    (silent : exit? event = none) : earned (events ++ [event]) = earned events := by
  rw [earned, List.filterMap_append, List.filterMap_cons_none silent, List.filterMap_nil,
    List.append_nil, earned]

/-- What was received decides the result, and nothing else concerns it. -/
theorem Earned.of_same {other : State} (earns : Earned state)
    (received : other.received = state.received) (phase : other.phase.result? = state.phase.result?)
    (past : state.phase.past = true → other.phase.past = true)
    (result : other.result = state.result) (stdout : other.stdout = state.stdout)
    (bailed : other.bailed = state.bailed) (broken : other.broken = state.broken) :
    Earned other := by
  constructor
  · rw [result, received]; exact earns.exits
  · rw [phase, bailed, received]; exact earns.result
  · rw [stdout, received]; exact earns.part
  · rw [broken, stdout, received]; exact earns.shown
  · rw [broken]; exact past ∘ earns.broken
  · rw [received, bailed]; exact earns.failed

/-- A bail is an error. -/
theorem Earned.bail (earns : Earned state) (message : String) : Earned (state.bail message) where
  exits := earns.exits
  result result known := by
    cases known
    exact ⟨message, rfl⟩
  part := earns.part
  shown := earns.shown
  broken _ := rfl
  failed _ _ := rfl

/-- A message for the sender does not concern the result. -/
theorem Earned.enqueue (earns : Earned state) (message : Message) :
    Earned (state.enqueue message) := by
  unfold State.enqueue
  split
  · exact earns
  · exact earns.of_same rfl rfl id rfl rfl rfl rfl

/-- The session takes its event off the channel. -/
theorem Earned.onEvent {events : List TunnelEvent} (earns : Earned state)
    (selecting : state.phase = .selecting) (unbailed : state.bailed = false) (broken : Option Nat)
    (event : TunnelEvent) : Earned (State.onEvent
      { state with events, received := state.received ++ [event] } broken event) := by
  have unbroken : state.broken = false := by
    by_contra broken
    have past := earns.broken (eq_true_of_ne_false broken)
    rw [selecting] at past
    cases past
  have unfailed (silent : ∀ message, event ≠ .error message) (message : String) :
      .error message ∉ state.received ++ [event] := by
    rw [List.mem_append, List.mem_singleton, not_or]
    refine ⟨fun failed => ?_, fun failed => silent message failed.symm⟩
    rw [earns.failed message failed] at unbailed
    cases unbailed
  have unknown (result : Except String Int32) : state.phase.result? ≠ some result := by
    rw [selecting]
    nofun
  have shown := earns.shown unbroken
  have whole : payload (state.received ++ [event]) = state.stdout ++ event.bytes := by
    rw [payload_append, payload_singleton, shown]
  cases event with
  | data bytes =>
      have silent : state.result = earned (state.received ++ [TunnelEvent.data bytes]) :=
        earns.exits.trans (earned_silent _ rfl).symm
      cases broken with
      | none =>
          exact
            { exits := silent
              result := fun result known => absurd known (unknown result)
              part := whole ▸ List.prefix_rfl
              shown := fun _ => whole.symm
              broken := earns.broken
              failed := fun message failed => absurd failed (unfailed nofun message) }
      | some count =>
          exact
            { exits := silent
              result := nofun
              part := whole ▸ (List.prefix_append_right_inj _).mpr (List.take_prefix _ _)
              shown := nofun
              broken := fun _ => rfl
              failed := fun message failed => absurd failed (unfailed nofun message) }
  | exit code =>
      exact
        { exits := (earned_exit _ code).symm
          result := fun result known => absurd known (unknown result)
          part := whole ▸ List.prefix_append _ _
          shown := fun _ => (whole.trans (List.append_nil _)).symm
          broken := earns.broken
          failed := fun message failed => absurd failed (unfailed nofun message) }
  | error message =>
      exact
        { exits := earns.exits.trans (earned_silent _ rfl).symm
          result := fun result known => by
            cases known
            exact ⟨_, rfl⟩
          part := whole ▸ List.prefix_append _ _
          shown := fun _ => (whole.trans (List.append_nil _)).symm
          broken := fun _ => rfl
          failed := fun _ _ => rfl }
  | close =>
      exact
        { exits := earns.exits.trans (earned_silent _ rfl).symm
          result := nofun
          part := whole ▸ List.prefix_append _ _
          shown := fun _ => (whole.trans (List.append_nil _)).symm
          broken := fun _ => rfl
          failed := fun message failed => absurd failed (unfailed nofun message) }

/-- Every step keeps the result earned. -/
theorem Earned.step (earns : Earned state) (staged : Staged state)
    (moved : step connId state action = some next) : Earned next := by
  cases step_move moved with
  | announced phase | started phase =>
      refine earns.of_same rfl ?_ ?_ rfl rfl rfl rfl
      · rw [phase]
        rfl
      · rw [phase]
        exact nofun
  | unannounced | unstarted | senderGone => exact earns.bail _
  | read | unreadable | arrive | hangUp | take | posted | unposted | drained =>
      exact earns.of_same rfl rfl id rfl rfl rfl rfl
  | unsent =>
      apply Earned.bail
      exact earns.of_same rfl rfl id rfl rfl rfl rfl
  | eof =>
      apply Earned.enqueue
      exact earns.of_same rfl rfl id rfl rfl rfl rfl
  | winch => exact earns.enqueue _
  | event selecting =>
      exact earns.onEvent selecting (staged.unbailed (by rw [selecting]; rfl)) _ _
  | lost selecting =>
      exact earns.of_same rfl (by rw [selecting]; rfl) (fun _ => rfl) rfl rfl rfl rfl
  | flushed flushing =>
      refine ⟨earns.exits, ?_, earns.part, earns.shown, fun _ => rfl, earns.failed⟩
      intro result known
      cases known
      rw [staged.unbailed (by rw [flushing]; rfl)]
      exact earns.exits
  | close closing | unregister closing =>
      exact earns.of_same rfl (by rw [closing]; rfl) (fun _ => rfl) rfl rfl rfl rfl

/-- These facts hold in every state that a session reaches. -/
structure Sound (connId : ConnId) (opening : Message) (state : State) : Prop where
  staged : Staged state
  ledger : Ledger connId opening state
  closed : Closed connId state
  earned : Earned state

theorem Sound.start {opening : Message} (opens : opening ≠ .close connId) :
    Sound connId opening (start opening) := ⟨.start _, .start opens, .start opens, .start _⟩

/-- Every step keeps the session sound. -/
theorem Sound.step (sound : Sound connId opening state)
    (moved : step connId state action = some next) : Sound connId opening next where
  staged := sound.staged.step moved
  ledger := sound.ledger.step sound.staged moved
  closed := sound.closed.step sound.staged sound.ledger moved
  earned := sound.earned.step sound.staged moved

section Run
variable {cmd term : Option String} {readings : List (Option PtyRelay.PtySize)}
  {actions : List Action} {final : State}

/-- Every run from the announcement is sound. -/
theorem sound_run (ran : Machine.run (step connId) (start
      (announcement connId cmd readings term)) actions = some final) :
    Sound connId (announcement connId cmd readings term) final :=
  Machine.run_invariant Sound.step (Sound.start nofun) ran

/-- What reaches the server is a part of what the sender's channel has accepted. -/
theorem Ledger.sent (ledger : Ledger connId opening state)
    (opens : opening.event connId = none) :
    uploaded connId state.sent <+: state.forwarded ∧
      (state.failed = false → state.queue = [] →
        uploaded connId state.sent = state.forwarded) := by
  have announced (messages : List Message) :
      uploaded connId (opening :: messages) = uploaded connId messages := by
    rw [uploaded, List.filterMap_cons_none opens, uploaded]
  constructor
  · have part := uploaded_prefix connId
      ((List.prefix_append _ state.queue).trans ledger.ordered)
    rw [uploaded_filter, announced] at part
    exact part.trans ledger.part
  · intro whole empty
    have kept := ledger.kept whole
    rw [empty, List.append_nil] at kept
    rw [← uploaded_filter, kept, announced, ledger.whole whole]

/-- In every run, however the standard input is cut into reads, the `Data` messages that the session
has given to `send_message` carry a prefix of the input and the mark of its end, which ends an open
line before it. They carry all of it once the sender has emptied its channel without a failed POST. -/
theorem stdin_forwarded (ran : Machine.run (step connId) (start
      (announcement connId cmd readings term)) actions = some final) :
    uploaded connId final.sent <+: final.input ++
        (if final.eof then (if terminated final.input then [0x04] else [0x0A, 0x04]) else []) ∧
    (final.failed = false → final.queue = [] → uploaded connId final.sent = final.input ++
      (if final.eof then (if terminated final.input then [0x04] else [0x0A, 0x04]) else [])) :=
  (sound_run ran).ledger.sent rfl

end Run

/-- A shell is given a line and the end of its input, and it exits. -/
def oneLine : List Action :=
  [.announced none, .started none, .stdin (.chunk [0x6C, 0x73]), .take, .arrive (.data [0x61]),
    .event none, .posted true, .stdin .eof, .take, .posted true, .arrive (.exit 3), .arrive .close,
    .event none, .event none, .drained, .flushed, .close, .unregister]

/-- The open line is ended before the mark. -/
theorem stdin_forwarded_of_oneLine : ∃ final,
    Machine.run (step 7) (start (announcement 7 (some "sh") [] none)) oneLine = some final ∧
    uploaded 7 final.sent = [0x6C, 0x73, 0x0A, 0x04] := by
  obtain ⟨final, ran, same⟩ := Option.map_eq_some_iff.mp (show (Machine.run (step 7)
      (start (announcement 7 (some "sh") [] none)) oneLine).map (fun final =>
    (final.failed, final.queue, final.input, final.eof)) =
      some (false, [], [0x6C, 0x73], true) by decide +kernel)
  simp only [Prod.mk.injEq] at same
  obtain ⟨failed, empty, input, eof⟩ := same
  refine ⟨final, ran, ?_⟩
  rw [(stdin_forwarded ran).2 failed empty, input, eof]
  decide

section Run
variable {cmd term : Option String} {readings : List (Option PtyRelay.PtySize)}
  {actions : List Action} {final : State}

/-- A session that has returned is unregistered and has posted a single `Close`, behind everything its
sender's channel has accepted if it has flushed the sender and no POST has failed. Its result is `Ok`
exactly if it has not bailed and has received an exit status, the last of which is the result. An
`Error` of the server makes it an error, and the output is a prefix of what was received, all of it
unless a write has failed. -/
theorem exec_returned (ran : Machine.run (step connId) (start
      (announcement connId cmd readings term)) actions = some final)
    {result : Except String Int32} (returned : final.phase = .returned result) :
    final.registered = false ∧ final.sent.count (.close connId) = 1 ∧
    (final.bailed = false → final.failed = false → final.sent =
      announcement connId cmd readings term :: final.enqueued ++ [.close connId]) ∧
    (∀ code, result = .ok code ↔ final.bailed = false ∧
      (final.received.filterMap exit?).getLast? = some code) ∧
    ((∃ message, .error message ∈ final.received) → ∃ message, result = .error message) ∧
    final.stdout <+: payload final.received ∧
    (final.broken = false → final.stdout = payload final.received) := by
  obtain ⟨staged, ledger, closed, earns⟩ := sound_run ran
  have left : final.phase.left = true := by
    rw [returned]
    rfl
  have known := earns.result result (by rw [returned]; rfl)
  have once := closed.once
  rw [left] at once
  refine ⟨closed.unregistered result returned, once, ?_, ?_, ?_, earns.part, earns.shown⟩
  · intro unbailed whole
    have empty := staged.emptied (staged.flushed unbailed (by rw [returned]; rfl))
    obtain ⟨posts, last⟩ := List.getLast?_eq_some_iff.mp (closed.last left unbailed)
    have kept := ledger.kept whole
    have alone : .close connId ∉ posts := by
      intro twice
      have count := once
      rw [last, List.count_append, List.count_singleton_self, if_pos rfl] at count
      have some_ := List.count_pos_iff.mpr twice
      omega
    have posted : posts.filter (· ≠ Message.close connId) = posts := by
      rw [List.filter_eq_self]
      intro message member
      rw [decide_eq_true_iff]
      rintro rfl
      exact alone member
    rw [empty, List.append_nil, last, List.filter_append, posted] at kept
    rw [last, ← kept]
    simp
  · intro code
    cases bailed : final.bailed with
    | true =>
        rw [bailed] at known
        obtain ⟨message, rfl⟩ := known
        simp
    | false =>
        rw [bailed] at known
        obtain rfl : result = earned final.received := known
        unfold earned
        split
        · next code' last => simp [last]
        · next none_ => simp [none_]
  · rintro ⟨message, failed⟩
    rw [earns.failed message failed] at known
    exact known

end Run

/-- The exit status of the shell is the result. -/
theorem exec_returned_of_oneLine : ∃ final,
    Machine.run (step 7) (start (announcement 7 (some "sh") [] none)) oneLine = some final ∧
    final.phase = .returned (.ok 3) ∧ final.sent.count (.close 7) = 1 ∧ final.stdout = [0x61] := by
  obtain ⟨final, ran, same⟩ := Option.map_eq_some_iff.mp (show (Machine.run (step 7)
      (start (announcement 7 (some "sh") [] none)) oneLine).map (fun final =>
    (final.phase, final.broken, final.received)) =
      some (.returned (.ok 3), false, [.data [0x61], .exit 3, .close]) by decide +kernel)
  simp only [Prod.mk.injEq] at same
  obtain ⟨returned, broken, received⟩ := same
  have ended := exec_returned ran returned
  refine ⟨final, ran, returned, ended.2.1, ?_⟩
  rw [ended.2.2.2.2.2.2 broken, received]
  rfl

end Tunnix.ExecSession
