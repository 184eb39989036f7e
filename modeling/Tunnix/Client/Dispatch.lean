import Tunnix.Client.Relay
import Mathlib.Logic.Function.Basic

namespace Tunnix.Dispatch

/-- Each `register_connection` opens one channel. The last two fields record what its receiver has
taken and how many events had been dispatched to the `conn_id` before. -/
structure Registration where
  channel : Channel ClientRelay.connChannelCapacity TunnelEvent
  received : List TunnelEvent
  since : Nat
deriving DecidableEq

/-- A detached task holds a sender for the `Close` that it waits to hand over. -/
structure HandOff where
  registration : Nat
  expired : Bool
deriving DecidableEq, Repr

/-- `dispatch_event` waits for a slot, or for the lock under which it drops the connection. -/
inductive Waiting where
  | reserving (registration : Nat) (event : TunnelEvent)
  | unregistering
deriving DecidableEq, Repr

/-- All senders and receivers of one `conn_id` refer to its registrations in their order.
`response_channels` holds a sender of the current one. -/
structure Conn where
  registrations : List Registration
  current : Option Nat
  handOffs : List HandOff
  waiting : Option Waiting
deriving DecidableEq

/-- These steps belong to the owner of one connection, to the dispatch loop's wait for it, to its
detached tasks and to its consumers. -/
inductive Conn.Action where
  | register
  | unregister
  | reserve
  | refuse
  | stall
  | dropStalled
  | handOff (task : Nat)
  | handOffRefused (task : Nat)
  | handOffExpires (task : Nat)
  | handOffRemoves (task : Nat)
  | receive (registration : Nat)
  | dropReceiver (registration : Nat)
deriving DecidableEq, Repr

/-- `register_connection` replaces the sender of its `conn_id`. -/
def Conn.registerConnection (conn : Conn) (dispatched : Nat) : Conn :=
  { conn with
    registrations := conn.registrations ++ [⟨.empty _ _, [], dispatched⟩]
    current := some conn.registrations.length }

/-- `unregister_connection` drops the sender that is in the map, whichever registration it is of. -/
def Conn.unregisterConnection (conn : Conn) : Conn := { conn with current := none }

/-- A sender puts an event into the channel of its registration. -/
def Conn.send (conn : Conn) (registration : Nat) (event : TunnelEvent) : Option Conn :=
  conn.registrations[registration]?.bind fun held =>
    (held.channel.send event).map fun channel =>
      { conn with
        registrations := conn.registrations.modify registration fun held => { held with channel } }

/-- A send fails once the receiver is gone. -/
def Conn.gone (conn : Conn) (registration : Nat) : Bool :=
  conn.registrations[registration]?.all fun held => !held.channel.receiving

/-- A connection moves by one action, or refuses one that its state does not allow. A timeout may
expire whenever its task waits. -/
def Conn.step (conn : Conn) (dispatched : Nat) : Conn.Action → Option Conn
  | .register => some (conn.registerConnection dispatched)
  | .unregister => some conn.unregisterConnection
  | .reserve =>
      match conn.waiting with
      | some (.reserving registration event) =>
          { conn with waiting := none }.send registration event
      | _ => none
  | .refuse =>
      match conn.waiting with
      | some (.reserving registration _) =>
          if conn.gone registration then some { conn with waiting := none } else none
      | _ => none
  | .stall =>
      match conn.waiting with
      -- A stalled `Close` leaves the dispatch loop together with its sender.
      | some (.reserving registration .close) =>
          some { conn with
            waiting := none
            handOffs := conn.handOffs ++ [⟨registration, false⟩] }
      | some (.reserving _ _) => some { conn with waiting := some .unregistering }
      | _ => none
  | .dropStalled =>
      match conn.waiting with
      | some .unregistering => some { conn.unregisterConnection with waiting := none }
      | _ => none
  | .handOff task =>
      match conn.handOffs[task]? with
      | some ⟨registration, false⟩ =>
          { conn with handOffs := conn.handOffs.eraseIdx task }.send registration .close
      | _ => none
  | .handOffRefused task =>
      match conn.handOffs[task]? with
      | some ⟨registration, false⟩ =>
          if conn.gone registration then
            some { conn with handOffs := conn.handOffs.eraseIdx task }
          else none
      | _ => none
  | .handOffExpires task =>
      match conn.handOffs[task]? with
      | some ⟨registration, false⟩ =>
          some { conn with handOffs := conn.handOffs.set task ⟨registration, true⟩ }
      | _ => none
  -- The task removes its `conn_id` from the map without regard to its own sender.
  | .handOffRemoves task =>
      match conn.handOffs[task]? with
      | some ⟨_, true⟩ =>
          some { conn.unregisterConnection with handOffs := conn.handOffs.eraseIdx task }
      | _ => none
  | .receive registration =>
      conn.registrations[registration]?.bind fun held =>
        held.channel.receive.map fun received =>
          { conn with
            registrations := conn.registrations.modify registration fun held =>
              { held with channel := received.2, received := held.received ++ [received.1] } }
  | .dropReceiver registration =>
      some { conn with
        registrations := conn.registrations.modify registration fun held =>
          { held with channel := held.channel.drop } }

/-- These are a connection's possible steps, one for each branch of the source. -/
inductive Conn.Move (conn : Conn) (dispatched : Nat) : Conn.Action → Conn → Prop
  | register : Move conn dispatched .register (conn.registerConnection dispatched)
  | unregister : Move conn dispatched .unregister conn.unregisterConnection
  | reserve {registration event next} :
      conn.waiting = some (.reserving registration event) →
      Conn.send { conn with waiting := none } registration event = some next →
      Move conn dispatched .reserve next
  | refuse {registration event} : conn.waiting = some (.reserving registration event) →
      conn.gone registration = true → Move conn dispatched .refuse { conn with waiting := none }
  | stallClose {registration} : conn.waiting = some (.reserving registration .close) →
      Move conn dispatched .stall
        { conn with waiting := none, handOffs := conn.handOffs ++ [⟨registration, false⟩] }
  | stall {registration event} : conn.waiting = some (.reserving registration event) →
      event ≠ .close → Move conn dispatched .stall { conn with waiting := some .unregistering }
  | dropStalled : conn.waiting = some .unregistering →
      Move conn dispatched .dropStalled { conn.unregisterConnection with waiting := none }
  | handOff {task registration next} : conn.handOffs[task]? = some ⟨registration, false⟩ →
      Conn.send { conn with handOffs := conn.handOffs.eraseIdx task } registration .close =
        some next →
      Move conn dispatched (.handOff task) next
  | handOffRefused {task registration} : conn.handOffs[task]? = some ⟨registration, false⟩ →
      conn.gone registration = true →
      Move conn dispatched (.handOffRefused task)
        { conn with handOffs := conn.handOffs.eraseIdx task }
  | handOffExpires {task registration} : conn.handOffs[task]? = some ⟨registration, false⟩ →
      Move conn dispatched (.handOffExpires task)
        { conn with handOffs := conn.handOffs.set task ⟨registration, true⟩ }
  | handOffRemoves {task registration} : conn.handOffs[task]? = some ⟨registration, true⟩ →
      Move conn dispatched (.handOffRemoves task)
        { conn.unregisterConnection with handOffs := conn.handOffs.eraseIdx task }
  | receive {registration held event channel} : conn.registrations[registration]? = some held →
      held.channel.receive = some (event, channel) →
      Move conn dispatched (.receive registration) { conn with
        registrations := conn.registrations.modify registration fun held =>
          { held with channel, received := held.received ++ [event] } }
  | dropReceiver {registration} :
      Move conn dispatched (.dropReceiver registration) { conn with
        registrations := conn.registrations.modify registration fun held =>
          { held with channel := held.channel.drop } }

/-- Each accepted action is one of the possible steps. -/
theorem Conn.step_move {conn next : Conn} {dispatched : Nat} {action : Conn.Action}
    (moved : conn.step dispatched action = some next) : Conn.Move conn dispatched action next := by
  cases action with
  | register =>
      cases moved
      exact .register
  | unregister =>
      cases moved
      exact .unregister
  | reserve =>
      simp only [Conn.step] at moved
      split at moved
      · next waits => exact .reserve waits moved
      · contradiction
  | refuse =>
      simp only [Conn.step] at moved
      split at moved
      · next waits =>
          rw [Option.ite_none_right_eq_some, Option.some.injEq] at moved
          obtain ⟨gone, rfl⟩ := moved
          exact .refuse waits gone
      · contradiction
  | stall =>
      simp only [Conn.step] at moved
      split at moved
      · next waits =>
          cases moved
          exact .stallClose waits
      · next other waits =>
          cases moved
          exact .stall waits other
      · contradiction
  | dropStalled =>
      simp only [Conn.step] at moved
      split at moved
      · next waits =>
          cases moved
          exact .dropStalled waits
      · contradiction
  | handOff task =>
      simp only [Conn.step] at moved
      split at moved
      · next waits => exact .handOff waits moved
      · contradiction
  | handOffRefused task =>
      simp only [Conn.step] at moved
      split at moved
      · next waits =>
          rw [Option.ite_none_right_eq_some, Option.some.injEq] at moved
          obtain ⟨gone, rfl⟩ := moved
          exact .handOffRefused waits gone
      · contradiction
  | handOffExpires task =>
      simp only [Conn.step] at moved
      split at moved
      · next waits =>
          cases moved
          exact .handOffExpires waits
      · contradiction
  | handOffRemoves task =>
      simp only [Conn.step] at moved
      split at moved
      · next expired =>
          cases moved
          exact .handOffRemoves expired
      · contradiction
  | receive registration =>
      obtain ⟨held, found, moved⟩ := Option.bind_eq_some_iff.mp moved
      obtain ⟨⟨event, channel⟩, received, rfl⟩ := Option.map_eq_some_iff.mp moved
      exact .receive found received
  | dropReceiver registration =>
      cases moved
      exact .dropReceiver

/-- The dispatch loop waits for at most one connection. The last field records the events that it has
dispatched to each `conn_id`. -/
structure State where
  conns : ConnId → Conn
  busy : Option ConnId
  dispatched : ConnId → List TunnelEvent

/-- A run begins without connections. -/
def start : State where
  conns _ := ⟨[], none, [], none⟩
  busy := none
  dispatched _ := []

/-- The dispatch loop is busy with a connection as long as it waits for it. -/
def State.put (state : State) (connId : ConnId) (conn : Conn) : State :=
  { state with
    conns := Function.update state.conns connId conn
    busy := if conn.waiting.isSome then some connId
      else if state.busy = some connId then none else state.busy }

/-- This event counts as dispatched to its `conn_id`. -/
def State.record (state : State) (connId : ConnId) (event : TunnelEvent) : State :=
  { state with
    dispatched := Function.update state.dispatched connId (state.dispatched connId ++ [event]) }

/-- `dispatch_event` clones the sender of the connection and waits for a slot. -/
def Conn.dispatch (conn : Conn) (event : TunnelEvent) : Option Conn :=
  conn.current.map fun registration =>
    { conn with waiting := some (.reserving registration event) }

/-- `dispatch_event` ignores an unknown `conn_id`. -/
def State.dispatchEvent (state : State) (connId : ConnId) (event : TunnelEvent) : State :=
  match (state.conns connId).dispatch event with
  | some conn => (state.record connId event).put connId conn
  | none => state.record connId event

/-- `handle_sse_message` dispatches what concerns one connection, and a `Reset` clears the map. -/
def State.handleSseMessage (state : State) : Message → State
  | .data connId data => state.dispatchEvent connId (.data data)
  | .close connId => state.dispatchEvent connId .close
  | .error (some connId) message => state.dispatchEvent connId (.error message)
  | .exitStatus connId code => state.dispatchEvent connId (.exit code)
  | .reset => { state with conns := fun connId => (state.conns connId).unregisterConnection }
  | _ => state

/-- A run interleaves the decrypted messages with the steps of all connections. -/
inductive Action where
  | dispatch (message : Message)
  | connection (connId : ConnId) (action : Conn.Action)
deriving DecidableEq, Repr

/-- The next message is handled once the dispatch loop is idle. -/
def step (state : State) : Action → Option State
  | .dispatch message =>
      if state.busy = none then some (state.handleSseMessage message) else none
  | .connection connId action =>
      ((state.conns connId).step (state.dispatched connId).length action).map (state.put connId)

/-- No `Data` follows a `Close` for the same `conn_id`. -/
def InOrder (state : State) : Action → Prop
  | .dispatch (.data connId _) => .close ∉ state.dispatched connId
  | _ => True

/-- A connection is concerned by its own messages and steps, and by every `Reset`. -/
def Action.concerns (connId : ConnId) : Action → Bool
  | .dispatch message => (message.event connId).isSome || message = .reset
  | .connection id _ => id = connId

/-- A connection and the events dispatched to it are all that it sees of a state. -/
def State.view (state : State) (connId : ConnId) : Conn × List TunnelEvent :=
  (state.conns connId, state.dispatched connId)

@[simp] theorem view_put (state : State) (connId other : ConnId) (conn : Conn) :
    (state.put connId conn).view other =
      if other = connId then (conn, state.dispatched connId) else state.view other := by
  by_cases same : other = connId
  · rw [if_pos same, same]
    exact congrArg (·, _) (Function.update_self ..)
  · rw [if_neg same]
    exact congrArg (·, _) (Function.update_of_ne same ..)

@[simp] theorem view_record (state : State) (connId other : ConnId) (event : TunnelEvent) :
    (state.record connId event).view other =
      if other = connId then (state.conns connId, state.dispatched connId ++ [event])
      else state.view other := by
  by_cases same : other = connId
  · rw [if_pos same, same]
    exact congrArg (_, ·) (Function.update_self ..)
  · rw [if_neg same]
    exact congrArg (_, ·) (Function.update_of_ne same ..)

/-- Only its own connection sees a dispatched event. -/
theorem view_dispatchEvent (state : State) (connId other : ConnId) (event : TunnelEvent) :
    (state.dispatchEvent connId event).view other =
      if other = connId then
        (((state.conns connId).dispatch event).getD (state.conns connId),
          state.dispatched connId ++ [event])
      else state.view other := by
  unfold State.dispatchEvent
  cases (state.conns connId).dispatch event with
  | none => exact view_record state connId other event
  | some conn =>
      rw [view_put, view_record]
      split
      · simp [State.record]
      · rfl

/-- A message for a connection is handled by `dispatch_event`. -/
theorem handleSseMessage_event {state : State} {connId : ConnId} {message : Message}
    {event : TunnelEvent} (own : message.event connId = some event) :
    state.handleSseMessage message = state.dispatchEvent connId event := by
  rw [message_of_event own]
  cases event <;> rfl

/-- A connection sees the events of its own messages. -/
theorem view_own {state : State} {connId : ConnId} {message : Message} {event : TunnelEvent}
    (own : message.event connId = some event) :
    (state.handleSseMessage message).view connId =
      (((state.conns connId).dispatch event).getD (state.conns connId),
        state.dispatched connId ++ [event]) := by
  rw [handleSseMessage_event own, view_dispatchEvent, if_pos rfl]

/-- It sees nothing of any other message but a `Reset`. -/
theorem view_foreign {state : State} {connId : ConnId} {message : Message}
    (foreign : message.event connId = none) :
    (state.handleSseMessage message).view connId =
      if message = .reset then ((state.conns connId).unregisterConnection, state.dispatched connId)
      else state.view connId := by
  have elsewhere {id : ConnId} {event : TunnelEvent}
      (foreign : (if id = connId then some event else none) = none) :
      (state.dispatchEvent id event).view connId = state.view connId := by
    have other : connId ≠ id := by
      rintro rfl
      rw [if_pos rfl] at foreign
      cases foreign
    rw [view_dispatchEvent, if_neg other]
  cases message with
  | reset => rfl
  | data id data => exact elsewhere foreign
  | close id => exact elsewhere foreign
  | exitStatus id code => exact elsewhere foreign
  | error id message =>
      cases id with
      | none => rfl
      | some id => exact elsewhere foreign
  | connect | ping | pong | exec | resize | pull | push | abort => rfl

end Tunnix.Dispatch
