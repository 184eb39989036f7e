import Tunnix.Library.Machine
import Tunnix.Library.Table
import Tunnix.Protocol
import Mathlib.Logic.Function.Basic

namespace Tunnix.SessionReset

/-- A frame is a `Reset`, another message, or a keepalive comment. -/
inductive Frame where
  | reset (session : Nat)
  | message
  | keepalive
deriving DecidableEq, Repr

/-- `handle_stream` inserts the session first and queues its `Reset` afterwards. Only then does the
client get a response to its GET. A restart leaves the response that is on its way, if there is
one. -/
inductive Phase where
  | requested
  | opened (reset : Option Nat)
  | serving
  | ended
  | gone
deriving DecidableEq, Repr

/-- A stream has one channel on the server and one ordered connection to the client. -/
structure Stream where
  phase : Phase
  queue : List Frame
  wire : List Frame
deriving DecidableEq, Repr

/-- The SSE task reads at most one stream at a time. -/
inductive Reader where
  | resting
  | connecting (stream : Nat)
  | reading (stream : Nat) (signaledReady : Bool)
deriving DecidableEq, Repr

/-- A connection handler registers its channel, posts its `Connect` at most twice, and relays after
the ACK. -/
inductive Progress where
  | registered
  | posting (retry : Bool)
  | waiting (ready : Bool)
  | acked (session : Nat)
  | failing
  | relaying
  | ended
deriving DecidableEq, Repr

/-- The relay of the connection may still start. -/
def Progress.awaits : Progress → Bool
  | .registered | .posting _ | .waiting _ | .acked _ => true
  | .failing | .relaying | .ended => false

/-- A connection has an id, under which its channel is registered. -/
structure Connection where
  connId : ConnId
  progress : Progress
deriving DecidableEq, Repr

/-- A POST carries the `Connect` of one connection. -/
structure Request where
  connection : Nat
  retry : Bool
deriving DecidableEq, Repr

/-- `handle_send` found the session and dials the target. -/
structure Dial where
  connection : Nat
  retry : Bool
  session : Nat
deriving DecidableEq, Repr

/-- The server knows no session, cannot reach the target, or accepts the `Connect`. -/
inductive Outcome where
  | refused
  | failed
  | acked (session : Nat)
deriving DecidableEq, Repr

/-- A response answers one POST. -/
structure Reply where
  connection : Nat
  retry : Bool
  outcome : Outcome
deriving DecidableEq, Repr

/-- A relay starts with an open or a closed event channel when this many sessions were created. -/
structure Start where
  session : Nat
  isOpen : Bool
  created : Nat
deriving DecidableEq, Repr

/-- The state joins the client, its streams and POSTs, and the server. Sessions are numbered in the
order of their creation. The last four fields record which session accepted which connection, which
ACKs reached the client, which `Reset` removed which channel, and how the relays started. -/
structure State where
  counter : ConnId
  connected : Bool
  isReconnect : Bool
  reader : Reader
  channels : ConnId → Option Nat
  connections : List Connection
  requests : List Request
  dials : List Dial
  replies : List Reply
  streams : List Stream
  session : Option Nat
  created : Nat
  accepted : List (Nat × Nat)
  acks : List (Nat × Nat)
  removed : List (Nat × Nat)
  started : List Start

/-- A run begins with a fresh client and a server that has no session for it. -/
def start : State where
  counter := 1
  connected := false
  isReconnect := false
  reader := .resting
  channels _ := none
  connections := []
  requests := []
  dials := []
  replies := []
  streams := []
  session := none
  created := 0
  accepted := []
  acks := []
  removed := []
  started := []

/-- The first group of actions belongs to the SSE task, the next one to the connection handlers and
the dispatch loop, and the last one to the network and the server. -/
inductive Action where
  | get
  | establish
  | leave
  | read
  | connectTimesOut
  | register
  | post (connection : Nat)
  | postFails (connection : Nat)
  | resume (connection : Nat) (timesOut : Bool)
  | reply (index : Nat)
  | relay (connection : Nat)
  | abandon (connection : Nat)
  | finish (connection : Nat)
  | drop (connId : ConnId)
  | loseRequest (index : Nat)
  | loseDial (index : Nat)
  | loseReply (index : Nat)
  | openStream (stream : Nat)
  | respond (stream : Nat)
  | message (stream : Nat)
  | keepalive (stream : Nat)
  | pump (stream : Nat)
  | arrive (index : Nat)
  | dial (index : Nat) (ok : Bool)
  | restart
deriving DecidableEq, Repr

/-- `handle_stream` creates a channel of this capacity. -/
def channelCapacity : Nat := 1024

/-- The connection's handler moves on. -/
def State.proceed (state : State) (index : Nat) (progress : Progress) : State :=
  { state with
    connections := state.connections.modify index fun connection => { connection with progress } }

/-- `unregister_connection` removes the channel of an id. -/
def State.unregister (state : State) (connId : ConnId) : State :=
  { state with channels := Function.update state.channels connId none }

/-- A handler unregisters its connection and returns. -/
def State.quit (state : State) (index : Nat) (connId : ConnId) : State :=
  (state.unregister connId).proceed index .ended

/-- The first failed POST waits for the stream, and the second one fails the connection. -/
def State.fail (state : State) (index : Nat) : Bool → State
  | false => state.proceed index (.waiting false)
  | true => state.proceed index .failing

/-- One stream changes. -/
def State.setStream (state : State) (index : Nat) (stream : Stream) : State :=
  { state with streams := state.streams.set index stream }

/-- The connection's own channel is in `response_channels`. -/
def State.registered (state : State) (index : Nat) : Bool :=
  (state.connections[index]?).any fun connection =>
    decide (state.channels connection.connId = some index)

/-- `handle_sse_message` clears all channels on a `Reset`. -/
def State.process (state : State) : Frame → State
  | .reset session => { state with
      channels := fun _ => none
      removed := state.removed ++
        ((List.range state.connections.length).filter state.registered).map fun index =>
          (session, index) }
  | .message | .keepalive => state

/-- A handler that waits for the stream is woken. -/
def Connection.wake (connection : Connection) : Connection :=
  match connection.progress with
  | .waiting _ => { connection with progress := .waiting true }
  | _ => connection

/-- `notify_waiters` wakes the initial connect and every handler that waits for the stream. -/
def State.notify (state : State) : State :=
  { state with
    connected := true
    connections := state.connections.map Connection.wake }

/-- The first stream signals readiness on its first data frame, and later ones on any event. -/
def State.signal (state : State) (stream : Nat) (frame : Frame) (signaledReady : Bool) : State :=
  if signaledReady = false ∧ (frame ≠ .keepalive ∨ state.isReconnect = true) then
    { state.notify with reader := .reading stream true }
  else state

/-- A restart ends every stream that the server knows. What is on its way to the client remains. -/
def Stream.hangUp (stream : Stream) : Stream :=
  match stream.phase with
  | .opened _ => { stream with phase := .gone, queue := [] }
  | .serving => { stream with phase := .ended, queue := [] }
  | .requested | .ended | .gone => stream

/-- The world moves by one action, or refuses one that its state does not allow. -/
def step (state : State) : Action → Option State
  | .get =>
      match state.reader with
      | .resting => some { state with
          reader := .connecting state.streams.length
          streams := state.streams ++ [⟨.requested, [], []⟩] }
      | _ => none
  | .establish =>
      match state.reader with
      | .connecting stream =>
          match state.streams[stream]? with
          | some ⟨.serving, _, _⟩ | some ⟨.ended, _, _⟩ =>
              some { state with reader := .reading stream false }
          | _ => none
      | _ => none
  -- The stream ended, failed, timed out, or was given up for a forced reconnect.
  | .leave =>
      match state.reader with
      | .resting => none
      | _ => some { state with reader := .resting, isReconnect := true }
  | .read =>
      match state.reader with
      | .reading index signaledReady =>
          match state.streams[index]? with
          | some ⟨phase, queue, frame :: wire⟩ =>
              some (((state.setStream index ⟨phase, queue, wire⟩).process frame).signal index frame
                signaledReady)
          | _ => none
      | _ => none
  | .connectTimesOut => some { state with connected := true }
  | .register =>
      if state.connected then
        some { state with
          counter := state.counter + 1
          channels := Function.update state.channels state.counter (some state.connections.length)
          connections := state.connections ++ [⟨state.counter, .registered⟩] }
      else none
  | .post index =>
      match state.connections[index]? with
      | some ⟨_, .registered⟩ => some { state.proceed index (.posting false) with
          requests := state.requests ++ [⟨index, false⟩] }
      | _ => none
  | .postFails index =>
      match state.connections[index]? with
      | some ⟨_, .posting retry⟩ => some (state.fail index retry)
      | _ => none
  | .resume index timesOut =>
      match state.connections[index]? with
      | some ⟨_, .waiting ready⟩ =>
          if ready = true ∨ timesOut = true then
            some { state.proceed index (.posting true) with
              requests := state.requests ++ [⟨index, true⟩] }
          else none
      | _ => none
  | .reply index =>
      match state.replies[index]? with
      | some ⟨owner, retry, outcome⟩ =>
          let taken := { state with replies := state.replies.eraseIdx index }
          match state.connections[owner]? with
          | some connection =>
              -- Nobody reads the response of an attempt that was given up.
              if connection.progress = .posting retry then
                match outcome with
                | .refused => some (taken.fail owner retry)
                | .failed => some (taken.proceed owner .failing)
                | .acked session => some { taken.proceed owner (.acked session) with
                    acks := state.acks ++ [(session, owner)] }
              else some taken
          | none => some taken
      | none => none
  | .relay index =>
      match state.connections[index]? with
      | some ⟨connId, .acked session⟩ => some { state.proceed index .relaying with
          started := state.started ++
            [⟨session, decide (state.channels connId = some index), state.created⟩] }
      | _ => none
  -- The local application is gone before it gets the reply, and the channel stays registered.
  | .abandon index =>
      match state.connections[index]? with
      | some ⟨_, .acked _⟩ | some ⟨_, .failing⟩ => some (state.proceed index .ended)
      | _ => none
  | .finish index =>
      match state.connections[index]? with
      | some ⟨connId, .relaying⟩ | some ⟨connId, .failing⟩ => some (state.quit index connId)
      | _ => none
  -- `dispatch_event` gives up on a connection that does not take its events.
  | .drop connId => some (state.unregister connId)
  | .loseRequest index => some { state with requests := state.requests.eraseIdx index }
  | .loseDial index => some { state with dials := state.dials.eraseIdx index }
  | .loseReply index => some { state with replies := state.replies.eraseIdx index }
  | .openStream index =>
      match state.streams[index]? with
      | some ⟨.requested, queue, wire⟩ =>
          match state.session with
          | some _ => some (state.setStream index ⟨.opened none, queue, wire⟩)
          | none => some { state.setStream index ⟨.opened (some state.created), queue, wire⟩ with
              session := some state.created
              created := state.created + 1 }
      | _ => none
  | .respond index =>
      match state.streams[index]? with
      | some ⟨.opened none, queue, wire⟩ =>
          some (state.setStream index ⟨.serving, queue, wire⟩)
      | some ⟨.opened (some session), queue, wire⟩ =>
          if queue.length < channelCapacity then
            some (state.setStream index ⟨.serving, queue ++ [.reset session], wire⟩)
          else none
      | _ => none
  -- A relay may still hold the sender of a stream that was replaced.
  | .message index =>
      match state.streams[index]? with
      | some ⟨phase, queue, wire⟩ =>
          match phase with
          | .opened _ | .serving =>
              if queue.length < channelCapacity then
                some (state.setStream index ⟨phase, queue ++ [.message], wire⟩)
              else none
          | .requested | .ended | .gone => none
      | none => none
  | .keepalive index =>
      match state.streams[index]? with
      | some ⟨.serving, queue, wire⟩ =>
          some (state.setStream index ⟨.serving, queue, wire ++ [.keepalive]⟩)
      | _ => none
  | .pump index =>
      match state.streams[index]? with
      | some ⟨.serving, frame :: queue, wire⟩ =>
          some (state.setStream index ⟨.serving, queue, wire ++ [frame]⟩)
      | _ => none
  | .arrive index =>
      match state.requests[index]? with
      | some ⟨connection, retry⟩ =>
          let taken := { state with requests := state.requests.eraseIdx index }
          match state.session with
          | some session =>
              some { taken with dials := state.dials ++ [⟨connection, retry, session⟩] }
          | none => some { taken with replies := state.replies ++ [⟨connection, retry, .refused⟩] }
      | none => none
  | .dial index ok =>
      match state.dials[index]? with
      | some ⟨connection, retry, session⟩ =>
          let taken := { state with dials := state.dials.eraseIdx index }
          some (if ok then { taken with
              replies := state.replies ++ [⟨connection, retry, .acked session⟩]
              accepted := state.accepted ++ [(session, connection)] }
            else { taken with replies := state.replies ++ [⟨connection, retry, .failed⟩] })
      | none => none
  | .restart => some { state with
      session := none
      dials := []
      streams := state.streams.map Stream.hangUp }

/-- A session's `Reset` is read before the session, or a later one, accepts a `Connect`, and a
`Connect` is accepted only while the connection that waits for it is registered. The id counter
does not wrap onto a connection that has not ended, and the dispatch loop drops no connection
before its relay starts. -/
def Settled (state : State) : Action → Prop
  | .read => ∀ index signaledReady phase queue session wire,
      state.reader = .reading index signaledReady →
      state.streams[index]? = some ⟨phase, queue, .reset session :: wire⟩ →
        ∀ accept ∈ state.accepted, accept.1 < session
  | .dial index true => ∀ owner retry session, state.dials[index]? = some ⟨owner, retry, session⟩ →
      ∀ connection, state.connections[owner]? = some connection →
        connection.progress.awaits = true → state.channels connection.connId = some owner
  | .register => ∀ connection ∈ state.connections,
      connection.connId = state.counter → connection.progress = .ended
  | .drop connId => ∀ owner, state.channels connId = some owner →
      ∀ connection, state.connections[owner]? = some connection →
        connection.progress.awaits = false
  | _ => True

/-- No session's `Reset` removed a connection whose `Connect` that session accepted with an ACK that
reached the client, and a relay that starts with a closed channel finds a later session. -/
structure Spared (state : State) : Prop where
  kept : ∀ ack ∈ state.acks, ack ∉ state.removed
  opened : ∀ relay ∈ state.started, relay.isOpen = true ∨ relay.session + 1 < relay.created

/-- Every session that a stream announces, or will announce, has been created. -/
structure Stream.Below (stream : Stream) (created : Nat) : Prop where
  phase : ∀ session, stream.phase = .opened (some session) → session < created
  queue : ∀ session, .reset session ∈ stream.queue → session < created
  wire : ∀ session, .reset session ∈ stream.wire → session < created

/-- The streams announce only sessions that have been created. -/
def Numbered (state : State) : Prop :=
  ∀ stream ∈ state.streams, stream.Below state.created

section Numbered
variable {state : State}

theorem Numbered.start : Numbered start := by
  intro stream member
  contradiction

/-- A stream may change if it still announces only created sessions. -/
theorem Numbered.setStream (numbered : Numbered state) {index : Nat} {stream : Stream}
    (below : stream.Below state.created) : Numbered (state.setStream index stream) := by
  intro other member
  rcases List.mem_or_eq_of_mem_set member with old | same
  · exact numbered other old
  · exact same ▸ below

/-- A hung up stream announces nothing new. -/
theorem Stream.Below.hangUp {stream : Stream} {created : Nat} (below : stream.Below created) :
    stream.hangUp.Below created := by
  unfold Stream.hangUp
  split
  · exact ⟨nofun, nofun, below.wire⟩
  · exact ⟨nofun, nofun, below.wire⟩
  · exact below
  · exact below
  · exact below

theorem Stream.Below.mono {stream : Stream} {created more : Nat} (below : stream.Below created)
    (grows : created ≤ more) : stream.Below more where
  phase session announced := Nat.lt_of_lt_of_le (below.phase session announced) grows
  queue session announced := Nat.lt_of_lt_of_le (below.queue session announced) grows
  wire session announced := Nat.lt_of_lt_of_le (below.wire session announced) grows

end Numbered

/-- An accepted connection whose handler waits is registered unless a later session was created, and
no `Reset` of the accepting session has removed it. -/
structure Spares (state : State) : Prop where
  distinct : ∀ (i j : Nat) (connection other : Connection),
    state.connections[i]? = some connection → state.connections[j]? = some other →
    connection.connId = other.connId → connection.progress ≠ .ended → other.progress ≠ .ended →
    i = j
  gone : ∀ removal ∈ state.removed, ∃ connection,
    state.connections[removal.2]? = some connection ∧
      state.channels connection.connId ≠ some removal.2
  replied : ∀ reply ∈ state.replies, ∀ session, reply.outcome = .acked session →
    (session, reply.connection) ∈ state.accepted
  told : ∀ (i : Nat) (connection : Connection) (session : Nat),
    state.connections[i]? = some connection → connection.progress = .acked session →
    (session, i) ∈ state.accepted
  known : ∀ ack ∈ state.acks, ack ∈ state.accepted
  spared : ∀ accept ∈ state.accepted, accept ∈ state.removed → ∃ connection,
    state.connections[accept.2]? = some connection ∧ connection.progress.awaits = false
  registered : ∀ accept ∈ state.accepted, ∀ connection,
    state.connections[accept.2]? = some connection → connection.progress.awaits = true →
    state.channels connection.connId = some accept.2 ∨ accept.1 + 1 < state.created
  kept : ∀ ack ∈ state.acks, ack ∉ state.removed
  opened : ∀ relay ∈ state.started, relay.isOpen = true ∨ relay.session + 1 < relay.created

theorem Spares.start : Spares start where
  distinct := by simp [SessionReset.start]
  gone := by simp [SessionReset.start]
  replied := by simp [SessionReset.start]
  told := by simp [SessionReset.start]
  known := by simp [SessionReset.start]
  spared := by simp [SessionReset.start]
  registered := by simp [SessionReset.start]
  kept := by simp [SessionReset.start]
  opened := by simp [SessionReset.start]

/-- The handler has moved on, and it neither awaits a relay again nor comes back to life. -/
structure Moves (before after : Connection) : Prop where
  connId : after.connId = before.connId
  awaits : after.progress.awaits = true → before.progress.awaits = true
  ended : before.progress = .ended → after.progress = .ended

theorem Moves.refl (connection : Connection) : Moves connection connection :=
  ⟨rfl, id, id⟩

/-- A step that registers and accepts nothing removes at most channels that nobody waits for. Its
ACKs are those of accepted connections, and its relays start with an open channel or after a later
session. -/
structure Keeps (state next : State) : Prop where
  created : state.created ≤ next.created
  accepted : next.accepted = state.accepted
  removed : next.removed = state.removed
  acks : ∀ ack ∈ next.acks, ack ∈ state.acks ∨ ack ∈ state.accepted ∧ ack ∉ state.removed
  started : ∀ relay ∈ next.started, relay ∈ state.started ∨ relay.isOpen = true ∨
    relay.session + 1 < relay.created
  told : ∀ (i : Nat) (after : Connection) (session : Nat), next.connections[i]? = some after →
    after.progress = .acked session → (session, i) ∈ state.accepted ∨
      ∃ before, state.connections[i]? = some before ∧ before.progress = .acked session
  replies : ∀ reply ∈ next.replies, reply ∈ state.replies ∨ ∀ session, reply.outcome ≠ .acked session
  after : ∀ (i : Nat) (before : Connection), state.connections[i]? = some before →
    ∃ after, next.connections[i]? = some after ∧ Moves before after
  before : ∀ (i : Nat) (after : Connection), next.connections[i]? = some after →
    ∃ before, state.connections[i]? = some before ∧ Moves before after
  channels : ∀ connId i, next.channels connId = some i → state.channels connId = some i
  waits : ∀ (i : Nat) (after : Connection), next.connections[i]? = some after →
    after.progress.awaits = true → state.channels after.connId = some i →
    next.channels after.connId = some i

section Keeps
variable {state next : State}

/-- The books survive such a step. -/
theorem Spares.keep (spares : Spares state) (keeps : Keeps state next) : Spares next where
  distinct := by
    intro i j connection other first second same alive alive'
    obtain ⟨before, was, moves⟩ := keeps.before i connection first
    obtain ⟨before', was', moves'⟩ := keeps.before j other second
    apply spares.distinct i j before before' was was'
    · rw [← moves.connId, ← moves'.connId, same]
    · exact fun ended => alive (moves.ended ended)
    · exact fun ended => alive' (moves'.ended ended)
  gone := by
    intro removal member
    rw [keeps.removed] at member
    obtain ⟨connection, found, absent⟩ := spares.gone removal member
    obtain ⟨after, found', moves⟩ := keeps.after removal.2 connection found
    refine ⟨after, found', fun present => absent ?_⟩
    exact moves.connId ▸ keeps.channels _ _ present
  replied := by
    intro reply member session acked
    rw [keeps.accepted]
    rcases keeps.replies reply member with old | other
    · exact spares.replied reply old session acked
    · exact absurd acked (other session)
  told := by
    intro i connection session found acked
    rw [keeps.accepted]
    rcases keeps.told i connection session found acked with new | ⟨before, was, acked⟩
    · exact new
    · exact spares.told i before session was acked
  known := by
    intro ack member
    rw [keeps.accepted]
    rcases keeps.acks ack member with old | ⟨accepted, -⟩
    · exact spares.known ack old
    · exact accepted
  spared := by
    intro accept member removed
    rw [keeps.accepted] at member
    rw [keeps.removed] at removed
    obtain ⟨connection, found, rests⟩ := spares.spared accept member removed
    obtain ⟨after, found', moves⟩ := keeps.after accept.2 connection found
    refine ⟨after, found', Bool.eq_false_iff.mpr fun awaits => ?_⟩
    rw [moves.awaits awaits] at rests
    contradiction
  registered := by
    intro accept member connection found awaits
    rw [keeps.accepted] at member
    obtain ⟨before, was, moves⟩ := keeps.before accept.2 connection found
    rcases spares.registered accept member before was (moves.awaits awaits) with present | later
    · left
      apply keeps.waits accept.2 connection found awaits
      rw [moves.connId, present]
    · right
      exact Nat.lt_of_lt_of_le later keeps.created
  kept := by
    intro ack member
    rw [keeps.removed]
    rcases keeps.acks ack member with old | ⟨-, unremoved⟩
    · exact spares.kept ack old
    · exact unremoved
  opened := by
    intro relay member
    rcases keeps.started relay member with old | new
    · exact spares.opened relay old
    · exact new

/-- A step that only moves streams and POSTs keeps everything. -/
theorem Keeps.refl (state : State) : Keeps state state where
  created := Nat.le_refl _
  accepted := rfl
  removed := rfl
  acks _ member := .inl member
  started _ member := .inl member
  told _ after _ found acked := .inr ⟨after, found, acked⟩
  replies _ member := .inl member
  after _ before found := ⟨before, found, .refl before⟩
  before _ after found := ⟨after, found, .refl after⟩
  channels _ _ present := present
  waits _ _ _ _ present := present

/-- The handler of one connection moves on. -/
theorem Keeps.proceed {index : Nat} {connection : Connection} {progress : Progress}
    (found : state.connections[index]? = some connection)
    (moves : Moves connection { connection with progress })
    (acked : ∀ session, progress = .acked session → (session, index) ∈ state.accepted) :
    Keeps state (state.proceed index progress) :=
  { Keeps.refl state with
    told := by
      intro i after session found' acked'
      rcases Table.modify_cases found' with ⟨before, was, rfl, rfl⟩ | ⟨was, -⟩
      · exact .inl (acked session acked')
      · exact .inr ⟨after, was, acked'⟩
    waits := fun _ _ _ _ present => present
    after := by
      intro i before was
      by_cases same : index = i
      · subst same
        rw [found, Option.some.injEq] at was
        subst was
        exact ⟨_, Table.modify_self found, moves⟩
      · exact ⟨before, (List.getElem?_modify_ne _ _ same).trans was, .refl before⟩
    before := by
      intro i after found'
      rcases Table.modify_cases found' with ⟨before, was, rfl, rfl⟩ | ⟨was, -⟩
      · rw [found, Option.some.injEq] at was
        subst was
        exact ⟨connection, found, moves⟩
      · exact ⟨after, was, .refl after⟩ }

/-- A handler that ends unregisters its own id, which no other waiting handler has. -/
theorem Keeps.quit (spares : Spares state) {index : Nat} {connection : Connection}
    (found : state.connections[index]? = some connection)
    (alive : connection.progress ≠ .ended) :
    Keeps state (state.quit index connection.connId) := by
  have keeps : Keeps state (state.proceed index .ended) :=
    Keeps.proceed found ⟨rfl, nofun, fun _ => rfl⟩ nofun
  exact { keeps with
    channels := by
      intro connId i present
      change Function.update state.channels connection.connId none connId = some i at present
      rw [Function.update_apply] at present
      split at present
      · contradiction
      · exact present
    waits := by
      intro i after found' awaits present
      change Function.update state.channels connection.connId none after.connId = some i
      rw [Function.update_of_ne, present]
      intro same
      obtain ⟨before, was, moves⟩ := keeps.before i after found'
      have awaiting := moves.awaits awaits
      have living : before.progress ≠ .ended := by
        intro ended
        rw [ended] at awaiting
        contradiction
      have itself := spares.distinct i index before connection was found
        (moves.connId ▸ same) living alive
      subst itself
      rw [show (state.quit i connection.connId).connections[i]? = some _ from
        Table.modify_self found, Option.some.injEq] at found'
      subst found'
      contradiction }

/-- The dispatch loop drops a connection that waits for nothing. -/
theorem Keeps.drop {connId : ConnId} (settled : Settled state (.drop connId)) :
    Keeps state (state.unregister connId) :=
  { Keeps.refl state with
    channels := by
      intro other i present
      change Function.update state.channels connId none other = some i at present
      rw [Function.update_apply] at present
      split at present
      · contradiction
      · exact present
    waits := by
      intro i after found awaits present
      change Function.update state.channels connId none after.connId = some i
      rw [Function.update_of_ne, present]
      intro same
      have rests := settled i (same ▸ present) after found
      rw [awaits] at rests
      contradiction }

theorem Moves.wake (connection : Connection) : Moves connection connection.wake := by
  unfold Connection.wake
  split
  · next waits => exact ⟨rfl, fun _ => by rw [waits]; rfl, by simp [waits]⟩
  · exact .refl connection

theorem Connection.wake_acked {connection : Connection} {session : Nat}
    (acked : connection.wake.progress = .acked session) : connection.progress = .acked session := by
  unfold Connection.wake at acked
  split at acked
  · contradiction
  · exact acked

/-- A readiness signal moves on only the handlers that wait for it. -/
theorem Keeps.notify : Keeps state state.notify :=
  { Keeps.refl state with
    waits := fun _ _ _ _ present => present
    told := by
      intro i after session found acked
      rw [State.notify, List.getElem?_map] at found
      obtain ⟨before, was, same⟩ := Option.map_eq_some_iff.mp found
      exact .inr ⟨before, was, Connection.wake_acked (same ▸ acked)⟩
    after := by
      intro i before was
      exact ⟨before.wake, by simp [State.notify, was], .wake before⟩
    before := by
      intro i after found
      rw [State.notify, List.getElem?_map] at found
      obtain ⟨before, was, same⟩ := Option.map_eq_some_iff.mp found
      exact ⟨before, was, same ▸ .wake before⟩ }

end Keeps

section Steps
variable {state : State}

theorem registered_iff {index : Nat} : state.registered index = true ↔ ∃ connection,
    state.connections[index]? = some connection ∧
      state.channels connection.connId = some index := by
  rw [State.registered, Option.any_eq_true]
  simp only [decide_eq_true_eq]

/-- A `Reset` adds exactly the connections that were registered. -/
theorem mem_removed_process {session : Nat} {removal : Nat × Nat} :
    removal ∈ (state.process (.reset session)).removed ↔ removal ∈ state.removed ∨
      removal.1 = session ∧ state.registered removal.2 = true := by
  obtain ⟨number, index⟩ := removal
  simp only [State.process, List.mem_append, List.mem_map, List.mem_filter, List.mem_range,
    Prod.mk.injEq]
  constructor
  · rintro (old | ⟨other, ⟨-, present⟩, rfl, rfl⟩)
    · exact .inl old
    · exact .inr ⟨rfl, present⟩
  · rintro (old | ⟨rfl, present⟩)
    · exact .inl old
    · obtain ⟨connection, found, -⟩ := registered_iff.mp present
      have inside := (List.getElem?_eq_some_iff.mp found).1
      exact .inr ⟨index, ⟨inside, present⟩, rfl, rfl⟩

/-- A `Reset` that is read before its session accepts anything spares all that was accepted. -/
theorem Spares.reset (spares : Spares state) {session : Nat} (created : session < state.created)
    (settled : ∀ accept ∈ state.accepted, accept.1 < session) :
    Spares (state.process (.reset session)) := by
  have old {accept : Nat × Nat} (member : accept ∈ state.accepted)
      (removed : accept ∈ (state.process (.reset session)).removed) : accept ∈ state.removed := by
    rcases mem_removed_process.mp removed with old | ⟨same, -⟩
    · exact old
    · have before := settled accept member
      omega
  constructor
  case distinct => exact spares.distinct
  case gone =>
    intro removal member
    rcases mem_removed_process.mp member with old | ⟨-, present⟩
    · obtain ⟨connection, found, -⟩ := spares.gone removal old
      exact ⟨connection, found, nofun⟩
    · obtain ⟨connection, found, -⟩ := registered_iff.mp present
      exact ⟨connection, found, nofun⟩
  case replied => exact spares.replied
  case told => exact spares.told
  case known => exact spares.known
  case spared =>
    intro accept member removed
    exact spares.spared accept member (old member removed)
  case registered =>
    intro accept member connection found awaits
    right
    have before := settled accept member
    change accept.1 + 1 < state.created
    omega
  case kept =>
    intro ack member removed
    exact spares.kept ack member (old (spares.known ack member) removed)
  case opened => exact spares.opened

/-- A new connection registers under an id that no other handler uses. -/
theorem Spares.register (spares : Spares state) (settled : Settled state .register) :
    Spares { state with
      counter := state.counter + 1
      channels := Function.update state.channels state.counter (some state.connections.length)
      connections := state.connections ++ [⟨state.counter, .registered⟩] } := by
  constructor
  case distinct =>
    intro i j connection other first second same alive alive'
    rcases Table.concat_iff.mp first with first | ⟨last, added⟩
    · rcases Table.concat_iff.mp second with second | ⟨last', added'⟩
      · exact spares.distinct i j connection other first second same alive alive'
      · rw [added'] at same
        exact absurd (settled connection (List.mem_of_getElem? first) same) alive
    · rcases Table.concat_iff.mp second with second | ⟨last', added'⟩
      · rw [added] at same
        exact absurd (settled other (List.mem_of_getElem? second) same.symm) alive'
      · exact last.trans last'.symm
  case gone =>
    intro removal member
    obtain ⟨connection, found, absent⟩ := spares.gone removal member
    refine ⟨connection, Table.append_of found, ?_⟩
    change Function.update state.channels _ _ connection.connId ≠ _
    rw [Function.update_apply]
    split
    · have inside := (List.getElem?_eq_some_iff.mp found).1
      intro same
      rw [Option.some.injEq] at same
      omega
    · exact absent
  case replied => exact spares.replied
  case told =>
    intro i connection session found acked
    rcases Table.concat_iff.mp found with found | ⟨last, added⟩
    · exact spares.told i connection session found acked
    · rw [added] at acked
      contradiction
  case known => exact spares.known
  case spared =>
    intro accept member removed
    obtain ⟨connection, found, rests⟩ := spares.spared accept member removed
    exact ⟨connection, Table.append_of found, rests⟩
  case registered =>
    intro accept member connection found awaits
    change Function.update state.channels state.counter (some state.connections.length)
      connection.connId = _ ∨ _
    rcases Table.concat_iff.mp found with found | ⟨last, added⟩
    · rw [Function.update_of_ne]
      · exact spares.registered accept member connection found awaits
      · intro same
        rw [settled connection (List.mem_of_getElem? found) same] at awaits
        contradiction
    · rw [added, last]
      exact .inl (Function.update_self ..)
  case kept => exact spares.kept
  case opened => exact spares.opened

/-- A session accepts a `Connect` while the connection that waits for it is registered. -/
theorem Spares.accept (spares : Spares state) {index owner session : Nat} {retry : Bool}
    (registered : ∀ connection, state.connections[owner]? = some connection →
      connection.progress.awaits = true → state.channels connection.connId = some owner) :
    Spares { state with
      dials := state.dials.eraseIdx index
      replies := state.replies ++ [⟨owner, retry, .acked session⟩]
      accepted := state.accepted ++ [(session, owner)] } := by
  constructor
  case distinct => exact spares.distinct
  case gone => exact spares.gone
  case replied =>
    intro reply member number acked
    rcases List.mem_append.mp member with old | added
    · exact List.mem_append_left _ (spares.replied reply old number acked)
    · rw [List.mem_singleton] at added
      subst added
      cases acked
      exact List.mem_append_right _ (List.mem_singleton_self _)
  case told =>
    intro i connection number found acked
    exact List.mem_append_left _ (spares.told i connection number found acked)
  case known =>
    intro ack member
    exact List.mem_append_left _ (spares.known ack member)
  case spared =>
    intro accept member removed
    rcases List.mem_append.mp member with old | added
    · exact spares.spared accept old removed
    · rw [List.mem_singleton] at added
      subst added
      obtain ⟨connection, found, absent⟩ := spares.gone _ removed
      refine ⟨connection, found, Bool.eq_false_iff.mpr fun awaits => ?_⟩
      exact absent (registered connection found awaits)
  case registered =>
    intro accept member connection found awaits
    rcases List.mem_append.mp member with old | added
    · exact spares.registered accept old connection found awaits
    · rw [List.mem_singleton] at added
      subst added
      exact .inl (registered connection found awaits)
  case kept => exact spares.kept
  case opened => exact spares.opened

/-- The ACK of an accepted `Connect` reaches the handler that still waits for it. -/
theorem Keeps.acknowledge (spares : Spares state) {owner session : Nat} {connection : Connection}
    (found : state.connections[owner]? = some connection)
    (awaits : connection.progress.awaits = true) (accepted : (session, owner) ∈ state.accepted) :
    Keeps state { state.proceed owner (.acked session) with
      acks := state.acks ++ [(session, owner)] } := by
  have living : connection.progress ≠ .ended := by
    intro ended
    rw [ended] at awaits
    contradiction
  have keeps : Keeps state (state.proceed owner (.acked session)) :=
    Keeps.proceed found ⟨rfl, fun _ => awaits, fun ended => absurd ended living⟩
      fun number same => by
        cases same
        exact accepted
  exact { keeps with
    acks := by
      intro ack member
      rcases List.mem_append.mp member with old | added
      · exact .inl old
      · rw [List.mem_singleton] at added
        subst added
        refine .inr ⟨accepted, fun removed => ?_⟩
        obtain ⟨same, found', rests⟩ := spares.spared _ accepted removed
        rw [found, Option.some.injEq] at found'
        subst found'
        rw [awaits] at rests
        contradiction }

/-- A relay starts with the channel of its connection. -/
theorem Keeps.relay (spares : Spares state) {index session : Nat} {connId : ConnId}
    (found : state.connections[index]? = some ⟨connId, .acked session⟩) :
    Keeps state { state.proceed index .relaying with
      started := state.started ++
        [⟨session, decide (state.channels connId = some index), state.created⟩] } := by
  have keeps : Keeps state (state.proceed index .relaying) :=
    Keeps.proceed found ⟨rfl, nofun, nofun⟩ nofun
  exact { keeps with
    started := by
      intro relay member
      rcases List.mem_append.mp member with old | added
      · exact .inl old
      · rw [List.mem_singleton] at added
        subst added
        have accepted := spares.told index _ session found rfl
        rcases spares.registered _ accepted _ found rfl with present | later
        · exact .inr (.inl (decide_eq_true present))
        · exact .inr (.inr later) }

end Steps

/-- The streams announce created sessions, and the books of the connections are in order. -/
structure Inv (state : State) : Prop where
  numbered : Numbered state
  spares : Spares state

section Inv
variable {state next : State}

/-- A step that leaves the streams alone keeps the invariant if it keeps the books. -/
theorem Inv.keep (inv : Inv state) (streams : next.streams = state.streams)
    (created : next.created = state.created) (keeps : Keeps state next) : Inv next where
  numbered := by
    unfold Numbered
    rw [streams, created]
    exact inv.numbered
  spares := inv.spares.keep keeps

/-- A step that changes one stream keeps the invariant if the stream announces nothing new. -/
theorem Inv.setStream (inv : Inv state) {index : Nat} {stream : Stream}
    (below : stream.Below state.created) : Inv (state.setStream index stream) where
  numbered := inv.numbered.setStream below
  spares := inv.spares.keep { Keeps.refl state with }

/-- The first handler of a GET creates the session. -/
theorem Inv.openStream (inv : Inv state) {index : Nat}
    (moved : step state (.openStream index) = some next) : Inv next := by
  simp only [SessionReset.step] at moved
  split at moved
  · next queue wire found =>
      have below := inv.numbered _ (List.mem_of_getElem? found)
      split at moved
      · cases moved
        exact inv.setStream ⟨nofun, below.queue, below.wire⟩
      · cases moved
        constructor
        · intro other member
          rcases List.mem_or_eq_of_mem_set member with old | same
          · exact (inv.numbered other old).mono (Nat.le_succ _)
          · subst same
            refine ⟨?_, (below.mono (Nat.le_succ _)).queue, (below.mono (Nat.le_succ _)).wire⟩
            intro session announced
            cases announced
            exact Nat.lt_succ_self _
        · exact inv.spares.keep { Keeps.refl state with created := Nat.le_succ _ }
  · contradiction

/-- `handle_stream` queues the `Reset` of the session that it created. -/
theorem Inv.respond (inv : Inv state) {index : Nat}
    (moved : step state (.respond index) = some next) : Inv next := by
  simp only [SessionReset.step] at moved
  split at moved
  · next queue wire found =>
      have below := inv.numbered _ (List.mem_of_getElem? found)
      cases moved
      exact inv.setStream ⟨nofun, below.queue, below.wire⟩
  · next session queue wire found =>
      have below := inv.numbered _ (List.mem_of_getElem? found)
      rw [Option.ite_none_right_eq_some, Option.some.injEq] at moved
      obtain ⟨-, rfl⟩ := moved
      refine inv.setStream ⟨nofun, ?_, below.wire⟩
      intro number queued
      rcases List.mem_append.mp queued with old | added
      · exact below.queue number old
      · cases List.mem_singleton.mp added
        exact below.phase session rfl
  · contradiction

/-- A frame moves from the channel to the connection. -/
theorem Inv.pump (inv : Inv state) {index : Nat} (moved : step state (.pump index) = some next) :
    Inv next := by
  simp only [SessionReset.step] at moved
  split at moved
  · next frame queue wire found =>
      have below := inv.numbered _ (List.mem_of_getElem? found)
      cases moved
      refine inv.setStream ⟨nofun, ?_, ?_⟩
      · intro session queued
        exact below.queue session (List.mem_cons_of_mem _ queued)
      · intro session sent
        rcases List.mem_append.mp sent with old | added
        · exact below.wire session old
        · exact below.queue session (List.mem_singleton.mp added ▸ List.mem_cons_self)
  · contradiction

/-- A message is queued. -/
theorem Inv.message (inv : Inv state) {index : Nat}
    (moved : step state (.message index) = some next) : Inv next := by
  simp only [SessionReset.step] at moved
  split at moved
  · next phase queue wire found =>
      have below := inv.numbered _ (List.mem_of_getElem? found)
      have longer : ∀ session, .reset session ∈ queue ++ [.message] → session < state.created := by
        intro session queued
        rcases List.mem_append.mp queued with old | added
        · exact below.queue session old
        · cases List.mem_singleton.mp added
      split at moved
      · rw [Option.ite_none_right_eq_some, Option.some.injEq] at moved
        obtain ⟨-, rfl⟩ := moved
        exact inv.setStream ⟨below.phase, longer, below.wire⟩
      · rw [Option.ite_none_right_eq_some, Option.some.injEq] at moved
        obtain ⟨-, rfl⟩ := moved
        exact inv.setStream ⟨nofun, longer, below.wire⟩
      · contradiction
      · contradiction
      · contradiction
  · contradiction

/-- A keepalive comment is sent. -/
theorem Inv.keepalive (inv : Inv state) {index : Nat}
    (moved : step state (.keepalive index) = some next) : Inv next := by
  simp only [SessionReset.step] at moved
  split at moved
  · next queue wire found =>
      have below := inv.numbered _ (List.mem_of_getElem? found)
      cases moved
      refine inv.setStream ⟨nofun, below.queue, ?_⟩
      intro session sent
      rcases List.mem_append.mp sent with old | added
      · exact below.wire session old
      · cases List.mem_singleton.mp added
  · contradiction

/-- A new GET announces nothing yet. -/
theorem Inv.get (inv : Inv state) (moved : step state .get = some next) : Inv next := by
  simp only [SessionReset.step] at moved
  split at moved
  · cases moved
    constructor
    · intro stream member
      rcases List.mem_append.mp member with old | added
      · exact inv.numbered stream old
      · rw [List.mem_singleton] at added
        subst added
        exact ⟨nofun, nofun, nofun⟩
    · exact inv.spares.keep { Keeps.refl state with }
  · contradiction

/-- A restart leaves only what is on its way to the client. -/
theorem Inv.restart (inv : Inv state) : Inv { state with
    session := none
    dials := []
    streams := state.streams.map Stream.hangUp } where
  numbered := by
    intro stream member
    obtain ⟨before, was, same⟩ := List.mem_map.mp member
    exact same ▸ (inv.numbered before was).hangUp
  spares := inv.spares.keep { Keeps.refl state with }

/-- A readiness signal keeps the invariant. -/
theorem Inv.signal (inv : Inv state) (index : Nat) (frame : Frame) (signaledReady : Bool) :
    Inv (state.signal index frame signaledReady) := by
  unfold State.signal
  split
  · have keeps : Keeps state state.notify := Keeps.notify
    exact inv.keep rfl rfl { keeps with }
  · exact inv

/-- The SSE task reads a frame. A `Reset` among them meets the condition. -/
theorem Inv.read (inv : Inv state) (settled : Settled state .read)
    (moved : step state .read = some next) : Inv next := by
  simp only [SessionReset.step] at moved
  split at moved
  · next index signaledReady reads =>
      split at moved
      · next phase queue frame wire found =>
          have below := inv.numbered _ (List.mem_of_getElem? found)
          have taken : Inv (state.setStream index ⟨phase, queue, wire⟩) :=
            inv.setStream ⟨below.phase, below.queue, fun session sent =>
              below.wire session (List.mem_cons_of_mem _ sent)⟩
          cases moved
          apply Inv.signal
          cases frame with
          | reset session =>
              constructor
              · exact taken.numbered
              · apply taken.spares.reset
                · exact below.wire session List.mem_cons_self
                · exact settled index signaledReady phase queue session wire reads found
          | message => exact taken
          | keepalive => exact taken
      · contradiction
  · contradiction

/-- A refusal or a failure is no ACK. -/
theorem Keeps.answer (connection : Nat) (retry : Bool) (outcome : Outcome)
    (other : ∀ session, outcome ≠ .acked session) :
    Keeps state { state with replies := state.replies ++ [⟨connection, retry, outcome⟩] } :=
  { Keeps.refl state with
    replies := by
      intro reply member
      rcases List.mem_append.mp member with old | added
      · exact .inl old
      · rw [List.mem_singleton] at added
        subst added
        exact .inr other }

/-- A POST that arrives is dialled or refused. -/
theorem Inv.arrive (inv : Inv state) {index : Nat}
    (moved : step state (.arrive index) = some next) : Inv next := by
  simp only [SessionReset.step] at moved
  split at moved
  · next connection retry found =>
      split at moved
      · cases moved
        exact inv.keep rfl rfl { Keeps.refl state with }
      · cases moved
        have keeps : Keeps state _ := Keeps.answer connection retry .refused nofun
        exact inv.keep rfl rfl { keeps with }
  · contradiction

/-- The target is reached or not. An accepted `Connect` meets the condition. -/
theorem Inv.dial (inv : Inv state) {index : Nat} {ok : Bool}
    (settled : Settled state (.dial index ok))
    (moved : step state (.dial index ok) = some next) : Inv next := by
  simp only [SessionReset.step] at moved
  split at moved
  · next owner retry session found =>
      rw [Option.some.injEq] at moved
      subst moved
      cases ok with
      | true =>
          constructor
          · exact inv.numbered
          · exact inv.spares.accept (settled owner retry session found)
      | false =>
          have keeps : Keeps state _ := Keeps.answer owner retry .failed nofun
          exact inv.keep rfl rfl { keeps with }
  · contradiction

/-- A POST that failed moves its handler on. -/
theorem Keeps.fail {index : Nat} {connId : ConnId} {retry : Bool}
    (found : state.connections[index]? = some ⟨connId, .posting retry⟩) :
    Keeps state (state.fail index retry) := by
  cases retry with
  | false => exact Keeps.proceed found ⟨rfl, fun _ => rfl, nofun⟩ nofun
  | true => exact Keeps.proceed found ⟨rfl, nofun, nofun⟩ nofun

/-- The handler of a failed POST touches no stream. -/
theorem Inv.fail (inv : Inv state) {index : Nat} {connId : ConnId} {retry : Bool}
    (found : state.connections[index]? = some ⟨connId, .posting retry⟩) :
    Inv (state.fail index retry) := by
  have keeps := Keeps.fail found
  cases retry with
  | false => exact inv.keep rfl rfl keeps
  | true => exact inv.keep rfl rfl keeps

/-- A response reaches the handler of its connection, or nobody. -/
theorem Inv.reply (inv : Inv state) {index : Nat}
    (moved : step state (.reply index) = some next) : Inv next := by
  simp only [SessionReset.step] at moved
  split at moved
  · next owner retry outcome replied =>
      have taken : Inv { state with replies := state.replies.eraseIdx index } :=
        inv.keep rfl rfl { Keeps.refl state with
          replies := fun _ member => .inl (List.mem_of_mem_eraseIdx member) }
      split at moved
      · next connection found =>
          obtain ⟨connId, progress⟩ := connection
          split at moved
          · next posting =>
              change progress = _ at posting
              subst posting
              cases outcome with
              | refused =>
                  cases moved
                  exact taken.fail found
              | failed =>
                  cases moved
                  exact taken.keep rfl rfl (Keeps.proceed found ⟨rfl, nofun, nofun⟩ nofun)
              | acked session =>
                  cases moved
                  have accepted := inv.spares.replied _ (List.mem_of_getElem? replied) session rfl
                  exact taken.keep rfl rfl (Keeps.acknowledge taken.spares found rfl accepted)
          · cases moved
            exact taken
      · cases moved
        exact taken
  · contradiction

/-- Every step that meets the condition keeps the invariant. -/
theorem Inv.step {action : Action} (inv : Inv state) (settled : Settled state action)
    (moved : step state action = some next) : Inv next := by
  cases action
  case get => exact inv.get moved
  case establish =>
    simp only [SessionReset.step] at moved
    split at moved
    · split at moved
      · cases moved
        exact inv.keep rfl rfl { Keeps.refl state with }
      · cases moved
        exact inv.keep rfl rfl { Keeps.refl state with }
      · contradiction
    · contradiction
  case leave =>
    simp only [SessionReset.step] at moved
    split at moved
    · contradiction
    · cases moved
      exact inv.keep rfl rfl { Keeps.refl state with }
  case read => exact inv.read settled moved
  case connectTimesOut =>
    cases moved
    exact inv.keep rfl rfl { Keeps.refl state with }
  case register =>
    rw [SessionReset.step, Option.ite_none_right_eq_some, Option.some.injEq] at moved
    obtain ⟨-, rfl⟩ := moved
    exact ⟨inv.numbered, inv.spares.register settled⟩
  case post index =>
    simp only [SessionReset.step] at moved
    split at moved
    · next connId found =>
        cases moved
        have keeps : Keeps state (state.proceed index (.posting false)) :=
          Keeps.proceed found ⟨rfl, fun _ => rfl, nofun⟩ nofun
        exact inv.keep rfl rfl { keeps with }
    · contradiction
  case postFails index =>
    simp only [SessionReset.step] at moved
    split at moved
    · next connId retry found =>
        cases moved
        exact inv.fail found
    · contradiction
  case resume index timesOut =>
    simp only [SessionReset.step] at moved
    split at moved
    · next connId ready found =>
        rw [Option.ite_none_right_eq_some, Option.some.injEq] at moved
        obtain ⟨-, rfl⟩ := moved
        have keeps : Keeps state (state.proceed index (.posting true)) :=
          Keeps.proceed found ⟨rfl, fun _ => rfl, nofun⟩ nofun
        exact inv.keep rfl rfl { keeps with }
    · contradiction
  case reply index => exact inv.reply moved
  case relay index =>
    simp only [SessionReset.step] at moved
    split at moved
    · next connId session found =>
        cases moved
        exact inv.keep rfl rfl (Keeps.relay inv.spares found)
    · contradiction
  case abandon index =>
    simp only [SessionReset.step] at moved
    split at moved
    · next connId session found =>
        cases moved
        exact inv.keep rfl rfl (Keeps.proceed found ⟨rfl, nofun, nofun⟩ nofun)
    · next connId found =>
        cases moved
        exact inv.keep rfl rfl (Keeps.proceed found ⟨rfl, nofun, nofun⟩ nofun)
    · contradiction
  case finish index =>
    simp only [SessionReset.step] at moved
    split at moved
    · next connId found =>
        cases moved
        exact inv.keep rfl rfl (Keeps.quit inv.spares found nofun)
    · next connId found =>
        cases moved
        exact inv.keep rfl rfl (Keeps.quit inv.spares found nofun)
    · contradiction
  case drop connId =>
    cases moved
    exact inv.keep rfl rfl (Keeps.drop settled)
  case loseRequest index =>
    cases moved
    exact inv.keep rfl rfl { Keeps.refl state with }
  case loseDial index =>
    cases moved
    exact inv.keep rfl rfl { Keeps.refl state with }
  case loseReply index =>
    cases moved
    exact inv.keep rfl rfl { Keeps.refl state with
      replies := fun _ member => .inl (List.mem_of_mem_eraseIdx member) }
  case openStream index => exact inv.openStream moved
  case respond index => exact inv.respond moved
  case message index => exact inv.message moved
  case keepalive index => exact inv.keepalive moved
  case pump index => exact inv.pump moved
  case arrive index => exact inv.arrive moved
  case dial index ok => exact inv.dial settled moved
  case restart =>
    cases moved
    exact inv.restart

end Inv

/-- In every run whose steps meet the condition, no session's `Reset` removes a connection that the
session accepted, and every relay starts with an open channel unless a later session exists. -/
theorem reset_spares_accepted {actions : List Action} {final : State}
    (settled : Machine.Along step Settled start actions)
    (ran : Machine.run step start actions = some final) : Spared final := by
  have inv : Inv final := Machine.run_along Inv.step ⟨Numbered.start, Spares.start⟩ settled ran
  exact ⟨inv.spares.kept, inv.spares.opened⟩

/-- A client that connects after the first `Reset` was read is such a run. -/
theorem reset_spares_first_connection : ∃ final, Machine.run step start
    [.get, .openStream 0, .respond 0, .establish, .pump 0, .read, .register, .post 0, .arrive 0,
      .dial 0 true, .reply 0, .relay 0] = some final ∧ Spared final := by
  obtain ⟨final, ran⟩ := Option.isSome_iff_exists.mp (show (Machine.run step start
    [.get, .openStream 0, .respond 0, .establish, .pump 0, .read, .register, .post 0, .arrive 0,
      .dial 0 true, .reply 0, .relay 0]).isSome = true by decide)
  refine ⟨final, ran, reset_spares_accepted ?_ ran⟩
  refine ⟨trivial, trivial, trivial, trivial, trivial, ?_, ?_, trivial, trivial, ?_, trivial,
    trivial, trivial⟩
  · intro index signaledReady phase queue session wire reads found accept member
    contradiction
  · intro connection member
    contradiction
  · intro owner retry session found connection registered awaits
    cases found
    cases registered
    rfl

/-- A connection registers, and a restart makes its first POST fail. The reconnect creates a session
whose `Reset` removes the connection, and the retry is accepted by that same session. The relay
then starts with a closed channel. -/
theorem reset_removes_retried_connection : ∃ final, Machine.run step start
    [.get, .openStream 0, .respond 0, .establish, .pump 0, .read, .register, .restart, .post 0,
      .arrive 0, .reply 0, .leave, .get, .openStream 1, .respond 1, .establish, .pump 1, .read,
      .resume 0 false, .arrive 0, .dial 0 true, .reply 0, .relay 0] = some final ∧
    final.accepted = [(1, 0)] ∧ final.acks = [(1, 0)] ∧ final.removed = [(1, 0)] ∧
    final.started = [⟨1, false, 2⟩] ∧ ¬ Spared final := by
  obtain ⟨final, ran, same⟩ := Option.map_eq_some_iff.mp (show (Machine.run step start
    [.get, .openStream 0, .respond 0, .establish, .pump 0, .read, .register, .restart, .post 0,
      .arrive 0, .reply 0, .leave, .get, .openStream 1, .respond 1, .establish, .pump 1, .read,
      .resume 0 false, .arrive 0, .dial 0 true, .reply 0, .relay 0]).map (fun final =>
        (final.accepted, final.acks, final.removed, final.started)) =
    some ([(1, 0)], [(1, 0)], [(1, 0)], [⟨1, false, 2⟩]) by decide)
  simp only [Prod.mk.injEq] at same
  obtain ⟨accepted, acks, removed, started⟩ := same
  refine ⟨final, ran, accepted, acks, removed, started, fun spared => ?_⟩
  have kept := spared.kept (1, 0) (by rw [acks]; exact List.mem_singleton_self _)
  rw [removed] at kept
  exact kept (List.mem_singleton_self _)

end Tunnix.SessionReset
