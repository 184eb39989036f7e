import Tunnix.Client.ExecSession
import Tunnix.Server.PtyOutput
import Tunnix.Server.PtyWriter
import Tunnix.Server.Grammar
import Tunnix.Library.Feed

namespace Tunnix.RemoteExec

/-- The handler of the sender's last message sends a chunk to the write task, has answered, or was
dropped before it could. -/
inductive Call where
  | sending (data : Bytes)
  | answered
  | dropped
deriving DecidableEq, Repr

/-- A remote command joins a session of the client with a PTY relay of the server and its write task.
The server has handled this many messages of the sender, and this many events of the relay have reached
the session's channel or are lost. -/
structure State where
  client : ExecSession.State
  server : PtyRelay.State
  writer : PtyWriter.State
  spawned : Bool
  call : Call
  handled : Nat
  arrived : Nat

def start (announcement : Message) : State where
  client := ExecSession.start announcement
  server := PtyRelay.start
  writer := PtyWriter.start
  spawned := false
  call := .answered
  handled := 0
  arrived := 0

/-- The two sides take their own steps. The server handles the announcement and each later message of
the sender, once or again, its handler goes on, and it handles the `Close` at any time. The next event
of the relay reaches the session. A lost or replaced stream takes the events with it that have not
arrived, also one that a delivery queues on it afterwards. -/
inductive Action where
  | client (action : ExecSession.Action)
  | server (action : PtyRelay.Action)
  | writer (action : PtyWriter.Action)
  | spawn (ok : Bool)
  | handle (again : Bool)
  | enqueue
  | forget
  | handleClose
  | deliver
  | replace

/-- The sender has posted these messages. -/
def posts (connId : ConnId) (client : ExecSession.State) : List Message :=
  client.sent.filter (· ≠ .close connId)

/-- A request is answered once its handler has returned. -/
def State.answers (connId : ConnId) (state : State) : Bool :=
  decide (state.handled = (posts connId state.client).length ∧ state.call = .answered)

/-- The session learns of its PTY and of its successful POSTs from the server's answers, and of the
relay's events through `deliver` alone. -/
def State.permitsClient (connId : ConnId) (state : State) : ExecSession.Action → Bool
  | .announced none => state.spawned && state.answers connId
  | .posted true => state.answers connId
  | .arrive _ => false
  | .announced (some _) | .posted false | .started _ | .stdin _ | .event _ | .senderGone | .winch _
  | .flushed | .close | .unregister | .hangUp | .take | .drained => true

/-- The handlers move the relay through actions of their own. Its write task ends by itself once its
channel is empty and no handler holds a sender. -/
def State.permitsServer (state : State) : PtyRelay.Action → Bool
  | .handleClose | .handleAbort | .handleResize _ => false
  | .writerGone => state.writer.writing.isNone && state.writer.channel.items.isEmpty &&
      match state.call with
      | .sending _ => false
      | .answered | .dropped => true
  | _ => true

/-- The write task of a relay receives and writes; it ends with the relay's own actions. -/
def taskOwn : PtyWriter.Action → Bool
  | .receive | .write (.wrote _) | .write .interrupted | .write .wouldBlock => true
  | .send _ | .write .failed | .stop => false

/-- A relay whose write task has ended has dropped its channel. -/
def State.settle (state : State) (server : PtyRelay.State) : State :=
  { state with server, writer := if server.writeEnded then state.writer.finish else state.writer }

/-- The handler of a `Data` looks its writer up, and a `Resize` is handled at once. -/
def State.onMessage (connId : ConnId) (state : State) : Message → Option State
  | .data id bytes =>
      if state.spawned = true ∧ state.server.registered = true ∧ id = connId then
        some { state with call := .sending bytes }
      else some { state with call := .answered }
  | .resize _ cols rows =>
      (PtyRelay.step state.server (.handleResize { rows, cols })).map fun server =>
        { state with server, call := .answered }
  | _ => some { state with call := .answered }

/-- The system moves by one action, or refuses one that its state does not allow. -/
def step (connId : ConnId) (state : State) : Action → Option State
  | .client action =>
      if state.permitsClient connId action then
        (ExecSession.step connId state.client action).map fun client => { state with client }
      else none
  | .server action =>
      if state.spawned && state.permitsServer action then
        (PtyRelay.step state.server action).map state.settle
      else none
  | .writer action =>
      if taskOwn action then
        (PtyWriter.step state.writer action).map fun writer => { state with writer }
      else none
  | .spawn ok =>
      if state.handled = 0 then some { state with spawned := ok, handled := 1 } else none
  | .handle again =>
      if state.call = .answered ∨ state.call = .dropped then
        -- A message is handled again when its response was lost.
        let handled := if again then state.handled else state.handled + 1
        match (posts connId state.client)[handled - 1]? with
        | some message =>
            if 2 ≤ handled then
              (state.onMessage connId message).map fun next => { next with handled }
            else none
        | none => none
      else none
  | .enqueue =>
      match state.call with
      | .sending data =>
          if state.writer.ended then some { state with call := .answered }
          else (PtyWriter.step state.writer (.send data)).map fun writer =>
            { state with writer, call := .answered }
      | _ => none
  | .forget =>
      match state.call with
      | .sending _ => some { state with call := .dropped }
      | _ => none
  | .handleClose =>
      if .close connId ∈ state.client.sent ∧ state.spawned = true then
        (PtyRelay.step state.server .handleClose).map fun server => { state with server }
      else none
  | .deliver =>
      match state.server.queued[state.arrived]? with
      | some event => (ExecSession.step connId state.client (.arrive event)).map fun client =>
          { state with client, arrived := state.arrived + 1 }
      | none => none
  | .replace => some { state with arrived := state.server.queued.length }

/-- A stream is lost or replaced only when all events have arrived. -/
def Intact (state : State) : Action → Prop
  | .replace => state.arrived = state.server.queued.length
  | .client _ | .server _ | .writer _ | .spawn _ | .handle _ | .enqueue | .forget | .handleClose
  | .deliver => True

instance (state : State) : (action : Action) → Decidable (Intact state action)
  | .replace => inferInstanceAs (Decidable (_ = _))
  | .client _ | .server _ | .writer _ | .spawn _ | .handle _ | .enqueue | .forget | .handleClose
  | .deliver => isTrue trivial

/-- These are the possible steps of the system. -/
inductive Move (connId : ConnId) (state : State) : Action → State → Prop
  | client {own client} : state.permitsClient connId own = true →
      ExecSession.step connId state.client own = some client →
      Move connId state (.client own) { state with client }
  | server {own server} : PtyRelay.step state.server own = some server →
      Move connId state (.server own) (state.settle server)
  | writer {own writer} : (∀ data, own ≠ .send data) → PtyWriter.step state.writer own = some writer →
      Move connId state (.writer own) { state with writer }
  | spawn {ok} : state.handled = 0 →
      Move connId state (.spawn ok) { state with spawned := ok, handled := 1 }
  | handle {message next} : state.call = .answered ∨ state.call = .dropped →
      (posts connId state.client)[state.handled]? = some message →
      1 ≤ state.handled → state.onMessage connId message = some next →
      Move connId state (.handle false) { next with handled := state.handled + 1 }
  | again {message next} : state.onMessage connId message = some next →
      Move connId state (.handle true) { next with handled := state.handled }
  | lost {data} : state.call = .sending data → state.writer.ended = true →
      Move connId state .enqueue { state with call := .answered }
  | enqueue {data writer} : state.call = .sending data → state.writer.ended = false →
      PtyWriter.step state.writer (.send data) = some writer →
      Move connId state .enqueue { state with writer, call := .answered }
  | forget {data} : state.call = .sending data →
      Move connId state .forget { state with call := .dropped }
  | handleClose {server} : PtyRelay.step state.server .handleClose = some server →
      Move connId state .handleClose { state with server }
  | deliver {event} : state.server.queued[state.arrived]? = some event →
      state.client.registered = true →
      Move connId state .deliver { state with
        client := { state.client with events := state.client.events ++ [event] }
        arrived := state.arrived + 1 }
  | replace : Move connId state .replace { state with arrived := state.server.queued.length }

variable {connId : ConnId} {state next : State} {action : Action}

/-- Each accepted action is one of the possible steps. -/
theorem step_move (moved : step connId state action = some next) :
    Move connId state action next := by
  cases action with
  | client own =>
      rw [step, Option.ite_none_right_eq_some] at moved
      obtain ⟨permitted, moved⟩ := moved
      obtain ⟨client, taken, rfl⟩ := Option.map_eq_some_iff.mp moved
      exact .client permitted taken
  | server own =>
      rw [step, Option.ite_none_right_eq_some] at moved
      obtain ⟨server, taken, rfl⟩ := Option.map_eq_some_iff.mp moved.2
      exact .server taken
  | writer own =>
      rw [step, Option.ite_none_right_eq_some] at moved
      obtain ⟨permitted, moved⟩ := moved
      obtain ⟨writer, taken, rfl⟩ := Option.map_eq_some_iff.mp moved
      refine .writer (fun data same => ?_) taken
      rw [same] at permitted
      cases permitted
  | spawn ok =>
      rw [step, Option.ite_none_right_eq_some, Option.some.injEq] at moved
      obtain ⟨first, rfl⟩ := moved
      exact .spawn first
  | handle again =>
      simp only [step] at moved
      rw [Option.ite_none_right_eq_some] at moved
      obtain ⟨idle, moved⟩ := moved
      split at moved
      · next posted =>
          rw [Option.ite_none_right_eq_some] at moved
          obtain ⟨later, moved⟩ := moved
          obtain ⟨next, taken, rfl⟩ := Option.map_eq_some_iff.mp moved
          cases again with
          | true => exact .again taken
          | false =>
              refine .handle idle posted ?_ taken
              simpa using later
      · contradiction
  | enqueue =>
      simp only [step] at moved
      split at moved
      · next sending =>
          split at moved
          · next ended =>
              cases moved
              exact .lost sending ended
          · next runs =>
              obtain ⟨writer, taken, rfl⟩ := Option.map_eq_some_iff.mp moved
              exact .enqueue sending (Bool.eq_false_iff.mpr runs) taken
      · contradiction
  | forget =>
      simp only [step] at moved
      split at moved
      · next sending =>
          cases moved
          exact .forget sending
      · contradiction
  | handleClose =>
      rw [step, Option.ite_none_right_eq_some] at moved
      obtain ⟨server, taken, rfl⟩ := Option.map_eq_some_iff.mp moved.2
      exact .handleClose taken
  | deliver =>
      simp only [step] at moved
      split at moved
      · next found =>
          obtain ⟨client, taken, rfl⟩ := Option.map_eq_some_iff.mp moved
          cases ExecSession.step_move taken with
          | arrive registered => exact .deliver found registered
      · contradiction
  | replace =>
      cases moved
      exact .replace

/-- The session's channel carries the relay's events in order. -/
def Fed (state : State) : Prop :=
  Feed (state.client.received ++ state.client.events) state.server.queued state.arrived

/-- The session's channel carries some of the relay's events, in order. -/
def Reached (state : State) : Prop :=
  Thinned (state.client.received ++ state.client.events) state.server.queued state.arrived

/-- The sender posts one message after another, and the server has handled all of them but the last. -/
structure Served (connId : ConnId) (state : State) : Prop where
  opened : 1 ≤ (posts connId state.client).length
  waiting : state.client.sender = .waiting → state.answers connId = true
  busy : state.call ≠ .answered → state.handled = (posts connId state.client).length
  within : state.handled ≤ (posts connId state.client).length
  near : (posts connId state.client).length ≤ state.handled + 1

/-- The handler's chunk is still on its way to the write task. -/
def State.pending (state : State) : Bytes :=
  match state.call with
  | .sending data => if state.writer.ended then [] else data
  | .answered | .dropped => []

/-- The write task accepts the bytes of the messages that were handled, in order, and all of them while
the relay takes input and no handler was dropped. -/
structure Input (connId : ConnId) (state : State) : Prop where
  part : state.writer.total ++ state.pending <+:
    ExecSession.uploaded connId ((posts connId state.client).take state.handled)
  whole : state.spawned = true → state.server.registered = true → state.writer.ended = false →
    state.call ≠ .dropped → state.writer.total ++ state.pending =
      ExecSession.uploaded connId ((posts connId state.client).take state.handled)

theorem Fed.start (announcement : Message) : Fed (start announcement) := Feed.start

theorem Reached.start (announcement : Message) : Reached (start announcement) := Thinned.start

/-- The session takes its events off the channel in order. -/
theorem client_fed {client after : ExecSession.State} {own : ExecSession.Action}
    (separate : ∀ event, own ≠ .arrive event)
    (moved : ExecSession.step connId client own = some after) :
    after.received ++ after.events = client.received ++ client.events := by
  cases ExecSession.step_move moved with
  | arrive => exact absurd rfl (separate _)
  | @event broken event events selecting arrived =>
      have handled : ∀ state : ExecSession.State,
          (state.onEvent broken event).received = state.received ∧
            (state.onEvent broken event).events = state.events := by
        intro state
        cases event with
        | data bytes => cases broken <;> exact ⟨rfl, rfl⟩
        | exit | error | close => exact ⟨rfl, rfl⟩
      rw [(handled _).1, (handled _).2, arrived, List.append_assoc]
      rfl
  | eof | winch =>
      unfold ExecSession.State.enqueue
      split <;> rfl
  | _ => rfl

/-- The relay's events stay in order when it queues another one. -/
theorem server_queued {server after : PtyRelay.State} {own : PtyRelay.Action}
    (moved : PtyRelay.step server own = some after) : server.queued <+: after.queued := by
  cases PtyRelay.step_move moved with
  | @delivered chunk ok | @reported event ok =>
      cases ok with
      | true => exact List.prefix_append _ _
      | false => exact List.prefix_rfl
  | childExits | clientLeaves | drained | drainTimesOut | writeStopped =>
      unfold PtyRelay.State.await
      split <;> exact List.prefix_rfl
  | _ => exact List.prefix_rfl

/-- A relay that has released its writer never takes it back. -/
theorem server_registered {server after : PtyRelay.State} {own : PtyRelay.Action}
    (moved : PtyRelay.step server own = some after) (registered : after.registered = true) :
    server.registered = true := by
  cases PtyRelay.step_move moved with
  | handleClose | handleAbort | setupFails | cleanup => cases registered
  | @delivered chunk ok | @reported event ok => cases ok <;> exact registered
  | childExits | clientLeaves | drained | drainTimesOut | writeStopped =>
      revert registered
      unfold PtyRelay.State.await
      split <;> exact id
  | _ => exact registered

/-- Only a `Data` carries bytes. -/
theorem uploaded_other {message : Message} (other : ∀ id bytes, message ≠ .data id bytes) :
    ExecSession.uploaded connId [message] = [] := by
  unfold ExecSession.uploaded
  cases event : message.event connId with
  | none => rw [List.filterMap_cons_none event, List.filterMap_nil, payload_nil]
  | some event_ =>
      rw [List.filterMap_cons_some event, List.filterMap_nil, payload_singleton]
      cases event_ with
      | data bytes => exact absurd (message_of_event event) (other connId bytes)
      | close | error | exit => rfl

/-- A message moves the relay by its own handler at most, and it does not concern the session. -/
theorem onMessage_cases {message : Message} (handled : state.onMessage connId message = some next) :
    (∃ bytes, message = .data connId bytes ∧ next = { state with call := .sending bytes } ∧
      state.spawned = true ∧ state.server.registered = true) ∨
    (∃ server size, PtyRelay.step state.server (.handleResize size) = some server ∧
      next = { state with server, call := .answered } ∧
      ExecSession.uploaded connId [message] = []) ∨
    next = { state with call := .answered } ∧
      (ExecSession.uploaded connId [message] = [] ∨ state.spawned = false ∨
        state.server.registered = false) := by
  unfold State.onMessage at handled
  split at handled
  · next id bytes =>
      split at handled
      · next taken =>
          cases handled
          obtain ⟨spawned, registered, rfl⟩ := taken
          exact .inl ⟨bytes, rfl, rfl, spawned, registered⟩
      · next lost =>
          cases handled
          refine .inr (.inr ⟨rfl, ?_⟩)
          by_cases own : id = connId
          · subst own
            cases spawned : state.spawned <;> cases registered : state.server.registered <;>
              simp_all
          · exact .inl (by simp [ExecSession.uploaded, Message.event, own])
  · next cols rows =>
      obtain ⟨server, moved, rfl⟩ := Option.map_eq_some_iff.mp handled
      exact .inr (.inl ⟨server, _, moved, rfl, rfl⟩)
  · next other _ =>
      cases handled
      exact .inr (.inr ⟨rfl, .inl (uploaded_other other)⟩)

/-- A step moves the events on, or a stream takes those with it that have not arrived. -/
theorem feed_move (moved : step connId state action = some next) :
    Feed.Move (state.client.received ++ state.client.events) state.server.queued state.arrived
      (next.client.received ++ next.client.events) next.server.queued next.arrived ∨
    action = .replace ∧ next = { state with arrived := state.server.queued.length } := by
  -- A handled message moves at most the relay, whose events stay in order.
  have message {message : Message} {after : State}
      (taken : state.onMessage connId message = some after) :
      Feed.Move (state.client.received ++ state.client.events) state.server.queued state.arrived
        (after.client.received ++ after.client.events) after.server.queued after.arrived := by
    rcases onMessage_cases taken with ⟨bytes, -, rfl, -⟩ | ⟨server, size, moved, rfl, -⟩ | ⟨rfl, -⟩
    · exact .grow List.prefix_rfl
    · exact .grow (server_queued moved)
    · exact .grow List.prefix_rfl
  cases step_move moved with
  | client permitted taken =>
      rw [client_fed (fun event arrives => by rw [arrives] at permitted; cases permitted) taken]
      exact .inl (.grow List.prefix_rfl)
  | server taken | handleClose taken => exact .inl (.grow (server_queued taken))
  | writer | spawn | lost | enqueue | forget => exact .inl (.grow List.prefix_rfl)
  | handle _ _ _ taken =>
      have moves := message taken
      exact .inl moves
  | again taken =>
      have moves := message taken
      exact .inl moves
  | deliver found =>
      rw [← List.append_assoc]
      exact .inl (.deliver found)
  | replace => exact .inr ⟨rfl, rfl⟩

/-- Every step that loses nothing keeps the channel fed. -/
theorem Fed.step (fed : Fed state) (intact : Intact state action)
    (moved : step connId state action = some next) : Fed next := by
  rcases feed_move moved with move | ⟨rfl, rfl⟩
  · exact Feed.step fed move
  · have same : state.arrived = state.server.queued.length := intact
    unfold Fed
    rw [← same]
    exact fed

/-- Every step keeps the events in order. -/
theorem Reached.step (reached : Reached state) (moved : step connId state action = some next) :
    Reached next := by
  rcases feed_move moved with move | ⟨-, rfl⟩
  · exact Thinned.step reached move
  · exact Thinned.lose reached

theorem Served.start {announcement : Message} (opens : announcement ≠ .close connId) :
    Served connId (start announcement) := by
  have posted : posts connId (ExecSession.start announcement) = [announcement] := by
    simp [posts, ExecSession.start, opens]
  refine ⟨?_, fun waiting => (by cases waiting), fun busy => absurd rfl busy, Nat.zero_le _, ?_⟩
  · exact Nat.le_of_eq (congrArg List.length posted).symm
  · exact Nat.le_of_eq (congrArg List.length posted)

/-- The sender posts its next message, or its messages stay. -/
theorem client_posts {client after : ExecSession.State} {own : ExecSession.Action}
    (closed : .close connId ∉ client.queue) (moved : ExecSession.step connId client own = some after) :
    (posts connId after = posts connId client ∧
      (after.sender = .waiting → client.sender = .waiting ∨ own = .announced none ∨
        own = .posted true)) ∨
    ∃ message, client.sender = .waiting ∧ after.sender = .posting message ∧
      posts connId after = posts connId client ++ [message] := by
  have enqueued (client : ExecSession.State) (message : Message) :
      (client.enqueue message).sent = client.sent ∧
        (client.enqueue message).sender = client.sender := by
    unfold ExecSession.State.enqueue
    split <;> exact ⟨rfl, rfl⟩
  cases ExecSession.step_move moved with
  | announced => exact .inl ⟨rfl, fun _ => .inr (.inl rfl)⟩
  | posted => exact .inl ⟨rfl, fun _ => .inr (.inr rfl)⟩
  | unposted | drained => exact .inl ⟨rfl, nofun⟩
  | close => exact .inl ⟨by simp [posts], .inl⟩
  | eof | winch =>
      rw [posts, posts, (enqueued _ _).1, (enqueued _ _).2]
      exact .inl ⟨rfl, .inl⟩
  | @event broken event =>
      refine .inl ?_
      cases event with
      | data bytes => cases broken <;> exact ⟨rfl, .inl⟩
      | exit | error | close => exact ⟨rfl, .inl⟩
  | @take message queue waiting queued =>
      refine .inr ⟨message, waiting, rfl, ?_⟩
      have open_ : message ≠ .close connId := by
        rintro rfl
        exact closed (queued ▸ List.mem_cons_self)
      simp [posts, open_]
  | _ => exact .inl ⟨rfl, .inl⟩

/-- What does not concern the sender and its handler keeps the messages served. -/
theorem Served.of_same {after : State} (served : Served connId state)
    (client : after.client = state.client) (handled : after.handled = state.handled)
    (call : after.call = state.call ∨ after.call = .answered) : Served connId after := by
  constructor
  · rw [client]; exact served.opened
  · intro waiting
    rw [client] at waiting
    have answers := of_decide_eq_true (served.waiting waiting)
    refine decide_eq_true ⟨by rw [handled, client, answers.1], ?_⟩
    exact call.elim (fun same => same.trans answers.2) id
  · intro busy
    rw [handled, client]
    rcases call with same | answered
    · exact served.busy (same ▸ busy)
    · exact absurd answered busy
  · rw [handled, client]; exact served.within
  · rw [handled, client]; exact served.near

/-- Every message is handled once. -/
def Once : Action → Prop
  | .handle again => again = false
  | _ => True

/-- Every step of such a run keeps the sender's messages served. -/
theorem Served.step (served : Served connId state) (closed : .close connId ∉ state.client.queue)
    (once : Once action) (moved : step connId state action = some next) : Served connId next := by
  cases step_move moved with
  | @client own client permitted taken =>
      rcases client_posts closed taken with ⟨same, waits⟩ | ⟨message, waiting, posting, longer⟩
      · constructor
        · change 1 ≤ (posts connId client).length
          rw [same]
          exact served.opened
        · intro waiting
          have answers : state.answers connId = true := by
            rcases waits waiting with before | rfl | rfl
            · exact served.waiting before
            · exact (Bool.and_eq_true_iff.mp permitted).2
            · exact permitted
          have current := of_decide_eq_true answers
          exact decide_eq_true ⟨current.1.trans (congrArg List.length same.symm), current.2⟩
        · exact fun busy => (served.busy busy).trans (congrArg List.length same.symm)
        · change _ ≤ (posts connId client).length
          rw [same]
          exact served.within
        · change (posts connId client).length ≤ _
          rw [same]
          exact served.near
      · have answers := of_decide_eq_true (served.waiting waiting)
        have count : (posts connId client).length = state.handled + 1 := by
          rw [longer, List.length_append, answers.1, List.length_singleton]
        constructor
        · change 1 ≤ (posts connId client).length
          omega
        · intro waits
          rw [posting] at waits
          cases waits
        · exact fun busy => absurd answers.2 busy
        · change state.handled ≤ (posts connId client).length
          omega
        · exact Nat.le_of_eq count
  | server | writer | handleClose => exact served.of_same rfl rfl (.inl rfl)
  | lost | enqueue => exact served.of_same rfl rfl (.inr rfl)
  | spawn first =>
      have near := served.near
      have opened := served.opened
      constructor
      · exact opened
      · intro waiting
        have answers := of_decide_eq_true (served.waiting waiting)
        omega
      · intro busy
        have same := served.busy busy
        omega
      · exact opened
      · change (posts connId state.client).length ≤ 1 + 1
        omega
  | @handle message after idle posted later taken =>
      obtain ⟨inside, -⟩ := List.getElem?_eq_some_iff.mp posted
      have near := served.near
      have client : after.client = state.client := by
        rcases onMessage_cases taken with ⟨bytes, -, rfl, -⟩ | ⟨server, size, -, rfl, -⟩ | ⟨rfl, -⟩
        · rfl
        · rfl
        · rfl
      have all : (posts connId after.client).length = state.handled + 1 := by
        rw [client]
        omega
      constructor
      · change 1 ≤ (posts connId after.client).length
        omega
      · intro waiting
        have before : state.client.sender = .waiting := client ▸ waiting
        have answers := of_decide_eq_true (served.waiting before)
        omega
      · exact fun _ => all.symm
      · exact Nat.le_of_eq all.symm
      · exact Nat.le_succ_of_le (Nat.le_of_eq all)
  | again => cases once
  | forget sending =>
      have same := served.busy (by rw [sending]; nofun)
      refine ⟨served.opened, fun waiting => ?_, fun _ => same, served.within, served.near⟩
      have answers := of_decide_eq_true (served.waiting waiting)
      rw [sending] at answers
      cases answers.2
  | deliver | replace =>
      exact ⟨served.opened, served.waiting, served.busy, served.within, served.near⟩

theorem Input.start (announcement : Message) : Input connId (start announcement) :=
  ⟨List.nil_prefix, nofun⟩

/-- A message moves no input but its own. -/
theorem Input.handle {message : Message} {after : State} (input : Input connId state)
    (served : Served connId state) (idle : state.call = .answered ∨ state.call = .dropped)
    (posted : (posts connId state.client)[state.handled]? = some message)
    (taken : state.onMessage connId message = some after) :
    Input connId { after with handled := state.handled + 1 } := by
  obtain ⟨inside, found⟩ := List.getElem?_eq_some_iff.mp posted
  have answered : state.call = .answered := by
    rcases idle with answered | dropped
    · exact answered
    · have same := served.busy (by rw [dropped]; nofun)
      omega
  have nothing : state.pending = [] := by rw [State.pending, answered]
  have part := input.part
  have whole (spawned : state.spawned = true) (registered : state.server.registered = true)
      (runs : state.writer.ended = false) := input.whole spawned registered runs (by rw [answered]; nofun)
  rw [nothing, List.append_nil] at part whole
  have more : ExecSession.uploaded connId ((posts connId state.client).take (state.handled + 1)) =
      ExecSession.uploaded connId ((posts connId state.client).take state.handled) ++
        ExecSession.uploaded connId [message] := by
    rw [List.take_add_one, posted, ExecSession.uploaded_append]
    rfl
  rcases onMessage_cases taken with ⟨bytes, rfl, rfl, spawned, registered⟩ |
    ⟨server, size, moved, rfl, silent⟩ | ⟨rfl, silent⟩
  · rw [ExecSession.uploaded_data] at more
    cases ended : state.writer.ended with
    | true =>
        refine ⟨?_, fun _ _ runs => absurd (ended.symm.trans runs) nofun⟩
        simp only [State.pending, ended, if_true, List.append_nil, more]
        exact part.trans (List.prefix_append _ _)
    | false =>
        have all : state.writer.total ++ bytes =
            ExecSession.uploaded connId ((posts connId state.client).take (state.handled + 1)) := by
          rw [more, whole spawned registered ended]
        constructor
        · simp only [State.pending, ended, Bool.false_eq_true, if_false]
          exact all ▸ List.prefix_rfl
        · intro _ _ _ _
          simp only [State.pending, ended, Bool.false_eq_true, if_false]
          exact all
  · rw [silent, List.append_nil] at more
    constructor
    · simp only [State.pending, List.append_nil, more]
      exact part
    · intro spawned registered runs _
      simp only [State.pending, List.append_nil, more]
      exact whole spawned (server_registered moved registered) runs
  · constructor
    · simp only [State.pending, List.append_nil, more]
      exact part.trans (List.prefix_append _ _)
    · intro spawned registered runs _
      rcases silent with silent | lost | lost
      · simp only [State.pending, List.append_nil, more, silent]
        exact whole spawned registered runs
      · cases lost.symm.trans spawned
      · cases lost.symm.trans registered

/-- A write task that has ended keeps what it has written. -/
theorem Input.finish (input : Input connId state) {server : PtyRelay.State} :
    Input connId { state with server, writer := state.writer.finish } where
  part := by
    have nothing : State.pending { state with server, writer := state.writer.finish } = [] := by
      unfold State.pending
      cases state.call <;> rfl
    rw [nothing, List.append_nil, PtyWriter.State.finish_total]
    exact (state.writer.written_prefix.trans (List.prefix_append _ _)).trans input.part
  whole _ _ runs := by cases runs

/-- Every step of a run that handles each message once keeps the input in order. -/
theorem Input.step (input : Input connId state) (served : Served connId state)
    (closed : .close connId ∉ state.client.queue)
    (opens : ExecSession.uploaded connId ((posts connId state.client).take 1) = [])
    (once : Once action) (moved : step connId state action = some next) : Input connId next := by
  cases step_move moved with
  | @client own client permitted taken =>
      have same : (posts connId client).take state.handled =
          (posts connId state.client).take state.handled := by
        rcases client_posts closed taken with ⟨same, -⟩ | ⟨message, -, -, longer⟩
        · rw [same]
        · rw [longer, List.take_append_of_le_length served.within]
      constructor
      · change _ <+: ExecSession.uploaded connId ((posts connId client).take state.handled)
        rw [same]
        exact input.part
      · intro spawned registered runs kept
        change _ = ExecSession.uploaded connId ((posts connId client).take state.handled)
        rw [same]
        exact input.whole spawned registered runs kept
  | @server own server taken =>
      unfold State.settle
      split
      · exact input.finish
      · exact ⟨input.part, fun spawned registered =>
          input.whole spawned (server_registered taken registered)⟩
  | @writer own writer internal taken =>
      rcases PtyWriter.own_total internal taken with ⟨total, ended⟩ | rfl
      · have pending : State.pending { state with writer } = state.pending := by
          unfold State.pending
          rw [ended]
        constructor
        · rw [pending, total]
          exact input.part
        · rw [pending, total, ended]
          exact input.whole
      · exact input.finish
  | spawn first =>
      have part := input.part
      rw [first] at part
      have nothing := List.prefix_nil.mp part
      constructor
      · change state.writer.total ++ state.pending <+: _
        rw [nothing]
        exact List.nil_prefix
      · intro _ _ _ _
        change state.writer.total ++ state.pending = _
        rw [nothing, opens]
  | handle idle posted later taken => exact input.handle served idle posted taken
  | again => cases once
  | lost sending ended =>
      have nothing : state.pending = [] := by
        rw [State.pending, sending]
        exact if_pos ended
      refine ⟨?_, fun _ _ runs => absurd (ended.symm.trans runs) nofun⟩
      have part := input.part
      rw [nothing] at part
      exact part
  | @enqueue data writer sending ended taken =>
      have pending : state.pending = data := by
        rw [State.pending, sending]
        exact if_neg (by rw [ended]; nofun)
      obtain ⟨total, -⟩ := PtyWriter.send_total taken
      have moves : writer.total ++ [] = state.writer.total ++ state.pending := by
        rw [List.append_nil, total, pending]
      constructor
      · change writer.total ++ [] <+: _
        rw [moves]
        exact input.part
      · intro spawned registered _ _
        change writer.total ++ [] = _
        rw [moves]
        exact input.whole spawned registered ended (by rw [sending]; nofun)
  | forget sending =>
      have part := (List.prefix_append _ _).trans input.part
      refine ⟨?_, fun _ _ _ kept => absurd rfl kept⟩
      rw [State.pending, List.append_nil]
      exact part
  | handleClose taken => exact ⟨input.part, fun spawned registered =>
      input.whole spawned (server_registered taken registered)⟩
  | deliver | replace => exact ⟨input.part, input.whole⟩

/-- The session moves by steps of its own. -/
theorem client_run (moved : step connId state action = some next) :
    ∃ taken, Machine.run (ExecSession.step connId) state.client taken = some next.client := by
  have message {message : Message} {after : State}
      (taken : state.onMessage connId message = some after) : after.client = state.client := by
    rcases onMessage_cases taken with ⟨bytes, -, rfl, -⟩ | ⟨server, size, -, rfl, -⟩ | ⟨rfl, -⟩
    · rfl
    · rfl
    · rfl
  cases step_move moved with
  | client _ taken => exact ⟨[_], Machine.run_cons.mpr ⟨_, taken, rfl⟩⟩
  | @deliver event found registered =>
      have arrives : ExecSession.step connId state.client (.arrive event) = some _ :=
        if_pos registered
      exact ⟨[.arrive event], Machine.run_cons.mpr ⟨_, arrives, rfl⟩⟩
  | handle _ _ _ taken => exact ⟨[], congrArg some (message taken).symm⟩
  | again taken => exact ⟨[], congrArg some (message taken).symm⟩
  | server | writer | spawn | lost | enqueue | forget | handleClose | replace => exact ⟨[], rfl⟩

/-- The relay moves by steps of its own, and its child exits in an action of the relay. -/
theorem server_run (moved : step connId state action = some next) : ∃ taken,
    Machine.run PtyRelay.step state.server taken = some next.server ∧
      ∀ entry ∈ taken, ∀ code, entry = .childExits code → action = .server (.childExits code) := by
  have message {message : Message} {after : State}
      (taken : state.onMessage connId message = some after) : ∃ taken,
      Machine.run PtyRelay.step state.server taken = some after.server ∧
        ∀ entry ∈ taken, ∀ code, entry ≠ .childExits code := by
    rcases onMessage_cases taken with ⟨bytes, -, rfl, -⟩ | ⟨server, size, moved, rfl, -⟩ | ⟨rfl, -⟩
    · exact ⟨[], rfl, nofun⟩
    · refine ⟨[.handleResize size], Machine.run_cons.mpr ⟨_, moved, rfl⟩, fun entry member code => ?_⟩
      rw [List.mem_singleton.mp member]
      nofun
    · exact ⟨[], rfl, nofun⟩
  cases step_move moved with
  | @server own server taken =>
      refine ⟨[own], Machine.run_cons.mpr ⟨_, taken, rfl⟩, fun entry member code exits => ?_⟩
      rw [← List.mem_singleton.mp member, exits]
  | handle _ _ _ taken =>
      obtain ⟨taken, ran, other⟩ := message taken
      exact ⟨taken, ran, fun entry member code exits => absurd exits (other entry member code)⟩
  | again taken =>
      obtain ⟨taken, ran, other⟩ := message taken
      exact ⟨taken, ran, fun entry member code exits => absurd exits (other entry member code)⟩
  | handleClose taken =>
      refine ⟨[.handleClose], Machine.run_cons.mpr ⟨_, taken, rfl⟩, fun entry member code exits => ?_⟩
      rw [List.mem_singleton.mp member] at exits
      cases exits
  | client | writer | spawn | lost | enqueue | forget | deliver | replace => exact ⟨[], rfl, nofun⟩

section Run
variable {cmd term : Option String} {readings : List (Option PtyRelay.PtySize)}
  {actions : List Action} {final : State}

/-- These facts hold in every state of a run that handles each message once. -/
structure Sound (connId : ConnId) (announcement : Message) (state : State) : Prop where
  client : ExecSession.Sound connId announcement state.client
  served : Served connId state
  input : Input connId state

/-- Every step of such a run keeps the system sound. -/
theorem Sound.step {opening : Message} (opens : opening.event connId = none)
    (sound : Sound connId opening state) (once : Once action)
    (moved : step connId state action = some next) : Sound connId opening next := by
  obtain ⟨taken, ran⟩ := client_run moved
  have ledger := sound.client.ledger
  have closed : .close connId ∉ state.client.queue := fun member =>
    ledger.unclosed (ledger.ordered.subset (List.mem_append_right _ member))
  have first : ExecSession.uploaded connId ((posts connId state.client).take 1) = [] := by
    have part : posts connId state.client <+: opening :: state.client.enqueued :=
      (List.prefix_append _ _).trans ledger.ordered
    cases posted : posts connId state.client with
    | nil => rfl
    | cons message rest =>
        rw [posted] at part
        obtain rfl := (List.cons_prefix_cons.mp part).1
        exact congrArg payload (List.filterMap_cons_none opens)
  exact
    { client := Machine.run_invariant ExecSession.Sound.step sound.client ran
      served := sound.served.step closed once moved
      input := sound.input.step sound.served closed first once moved }

/-- Nothing is on its way to a PTY that still takes input. -/
structure Quiet (connId : ConnId) (state : State) : Prop where
  spawned : state.spawned = true
  registered : state.server.registered = true
  writes : state.writer.ended = false
  answered : state.answers connId = true
  written : state.writer.writing = none
  received : state.writer.channel.items = []
  posted : state.client.failed = false
  taken : state.client.queue = []

/-- In every run in which the server handles no message twice, the PTY is given a prefix of the
standard input and the mark of its end, and all of it once nothing is on its way. -/
theorem input_exact (ran : Machine.run (step connId)
      (start (ExecSession.announcement connId cmd readings term)) actions = some final)
    (once : .handle true ∉ actions) :
    final.writer.written <+: final.client.input ++ (if final.client.eof then
        (if ExecSession.terminated final.client.input then [0x04] else [0x0A, 0x04]) else []) ∧
    (Quiet connId final → final.writer.written = final.client.input ++ (if final.client.eof then
        (if ExecSession.terminated final.client.input then [0x04] else [0x0A, 0x04]) else [])) := by
  have single (action : Action) (member : action ∈ actions) : Once action := by
    cases action with
    | handle again =>
        cases again with
        | true => exact absurd member once
        | false => rfl
    | client | server | writer | spawn | enqueue | forget | handleClose | deliver | replace =>
        trivial
  have opens : ExecSession.announcement connId cmd readings term ≠ .close connId := nofun
  have first : Sound connId (ExecSession.announcement connId cmd readings term)
      (start (ExecSession.announcement connId cmd readings term)) :=
    ⟨.start opens, .start opens, .start _⟩
  have along : Machine.Along (step connId) (fun _ => Once)
      (start (ExecSession.announcement connId cmd readings term)) actions :=
    Machine.along_of_forall (fun action member _ => single action member) _
  have sound := Machine.run_along (Sound.step rfl) first along ran
  obtain ⟨sent, all⟩ := sound.client.ledger.sent rfl
  have posted : ExecSession.uploaded connId (posts connId final.client) =
      ExecSession.uploaded connId final.client.sent := ExecSession.uploaded_filter _
  constructor
  · have taken := ExecSession.uploaded_prefix connId
      (List.take_prefix final.handled (posts connId final.client))
    rw [posted] at taken
    exact ((final.writer.written_prefix.trans (List.prefix_append _ _)).trans
      sound.input.part).trans (taken.trans sent)
  · intro quiet
    obtain ⟨handled, answered⟩ := of_decide_eq_true quiet.answered
    have whole := sound.input.whole quiet.spawned quiet.registered quiet.writes
      (by rw [answered]; nofun)
    have total : final.writer.total ++ final.pending = final.writer.written := by
      simp [PtyWriter.State.total, PtyWriter.unwritten, State.pending, quiet.written,
        quiet.received, answered]
    rw [total, handled, List.take_length, posted, all quiet.posted quiet.taken] at whole
    exact whole

end Run

/-- A shell is given a line and the end of its input, and the PTY takes the line in two parts. -/
def typed : List Action :=
  [.spawn true, .server .setupDone, .client (.announced none), .client (.started none),
    .client (.stdin (.chunk [0x6C, 0x73])), .client .take, .handle false, .enqueue,
    .client (.posted true), .writer .receive, .writer (.write (.wrote 1)),
    .writer (.write .wouldBlock), .writer (.write (.wrote 1)), .client (.stdin .eof), .client .take,
    .handle false, .enqueue, .client (.posted true), .writer .receive, .writer (.write (.wrote 2))]

/-- The PTY is given the line, its end, and the mark. -/
theorem input_exact_of_typed : ∃ final, Machine.run (step 7)
      (start (ExecSession.announcement 7 none [] none)) typed = some final ∧
    final.writer.written = [0x6C, 0x73, 0x0A, 0x04] := by
  obtain ⟨final, ran, same⟩ := Option.map_eq_some_iff.mp (show (Machine.run (step 7)
      (start (ExecSession.announcement 7 none [] none)) typed).map (fun final =>
    (final.spawned && final.server.registered && !final.writer.ended && final.answers 7 &&
      final.writer.writing.isNone && final.writer.channel.items.isEmpty && !final.client.failed &&
      final.client.queue.isEmpty, final.client.input, final.client.eof)) =
    some (true, [0x6C, 0x73], true) by decide +kernel)
  simp only [Prod.mk.injEq, Bool.and_eq_true, Bool.not_eq_true', Option.isNone_iff_eq_none,
    List.isEmpty_iff] at same
  obtain ⟨⟨⟨⟨⟨⟨⟨⟨spawned, registered⟩, writes⟩, answered⟩, written⟩, received⟩, posted⟩, taken⟩,
    input, eof⟩ := same
  have once : Action.handle true ∉ typed := by simp [typed]
  refine ⟨final, ran, ?_⟩
  rw [(input_exact ran once).2
    ⟨spawned, registered, writes, answered, written, received, posted, taken⟩, input, eof]
  decide

end Tunnix.RemoteExec
