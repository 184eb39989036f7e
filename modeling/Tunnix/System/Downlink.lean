import Tunnix.Client.Relay
import Tunnix.Server.Producer
import Mathlib.Logic.Function.Basic
import Mathlib.Data.List.Infix

namespace Tunnix.Downlink
open Producer (Side)

/-- `handle_stream` creates a channel of this capacity for every stream. -/
def streamCapacity : Nat := 1024

/-- The state joins one relay, the session's current stream and the client's dispatch of the
connection. Streams are numbered in the order of their creation. The last two fields record which
events of the connection the client has dispatched, and which of them it has handed over. -/
structure State where
  relay : Producer
  deliveries : Side → Option Delivery
  stream : Nat
  channel : Channel streamCapacity Message
  wire : List Message
  events : Channel ClientRelay.connChannelCapacity TunnelEvent
  registered : Bool
  handoffs : Nat
  dispatched : List TunnelEvent
  handed : List TunnelEvent

/-- A run begins with a fresh relay of one kind, an open stream and a registered connection. -/
def start (kind : Producer.Kind) : State where
  relay := kind.start
  deliveries _ := none
  stream := 0
  channel := .empty _ _
  wire := []
  events := .empty _ _
  registered := true
  handoffs := 0
  dispatched := []
  handed := []

/-- The chunks are handed over in order, without a gap or a duplicate, and a `Close` only after all of
them. -/
structure InOrder (state : State) : Prop where
  part : datas state.handed <+: state.relay.produced
  closed : .close ∈ state.handed → datas (beforeClose state.handed) = state.relay.produced

/-- The first group of actions belongs to the relay and its deliveries, the next one to the streams,
and the last one to the client. -/
inductive Action where
  | relay (action : Producer.Action)
  | fetch (side : Side)
  | enqueue (side : Side)
  | attemptFails (side : Side)
  | traffic (message : Message)
  | pump
  | lose
  | replace
  | dispatch
  | stall
  | take
  | handOff
  | handOffFails (timedOut : Bool)
  | unregister
  | dropReceiver
deriving DecidableEq, Repr

/-- A delivery starts afresh, or it ends with its task. -/
def State.deliver (state : State) (side : Side) (delivery : Option Delivery) : State :=
  { state with deliveries := Function.update state.deliveries side delivery }

/-- The relay moves, and a task that no longer sends has no delivery. -/
def State.withRelay (state : State) (relay : Producer) : State :=
  { state with
    relay
    deliveries := fun side => if (relay.sending side).isSome then state.deliveries side else none }

/-- `send_to_client` returns to its task. -/
def State.returned (state : State) (side : Side) (ok : Bool) : Option State :=
  (state.relay.returned side ok).bind fun action =>
    (state.relay.step action).map fun relay => (state.withRelay relay).deliver side none

/-- The connection's events reach its receiver as long as it is registered. -/
def State.listens (state : State) : Bool := state.registered && state.events.receiving

/-- `dispatch_event` has found a slot for the event. -/
def State.hand (state : State) (event : TunnelEvent) : Option State :=
  (state.events.send event).map fun events =>
    { state with events, handed := state.handed ++ [event] }

/-- `dispatch_event` hands an event to the connection, or ignores it. It waits while the channel is
full. A `Reset` unregisters all connections. -/
def State.dispatch (state : State) (connId : ConnId) (message : Message) : Option State :=
  match message.event connId with
  | some event =>
      let seen := { state with dispatched := state.dispatched ++ [event] }
      if state.listens then seen.hand event else some seen
  | none => some (if message = .reset then { state with registered := false } else state)

/-- `dispatch_event` hands a stalled `Close` to a task of its own, and drops the connection over any
other stalled event. -/
def State.stall (state : State) : TunnelEvent → State
  | .close => { state with
      dispatched := state.dispatched ++ [.close]
      handoffs := state.handoffs + 1 }
  | event => { state with dispatched := state.dispatched ++ [event], registered := false }

/-- The downlink moves by one action, or refuses one that its state does not allow. -/
def step (connId : ConnId) (state : State) : Action → Option State
  | .relay action =>
      if action.internal then (state.relay.step action).map state.withRelay else none
  -- Each attempt clones the session's `sse_tx`.
  | .fetch side =>
      match state.relay.sending side, state.deliveries side with
      | some (_, attempts), none => some (state.deliver side (some ⟨attempts, some state.stream⟩))
      | some _, some ⟨attempts, none⟩ =>
          some (state.deliver side (some ⟨attempts, some state.stream⟩))
      | _, _ => none
  | .enqueue side =>
      match state.relay.sending side, state.deliveries side with
      | some (event, _), some ⟨_, some sender⟩ =>
          if sender = state.stream then
            (state.channel.send (event.message connId)).bind fun channel =>
              { state with channel }.returned side true
          -- The channel of a replaced stream takes the message and loses it.
          else state.returned side true
      | _, _ => none
  | .attemptFails side =>
      match state.relay.sending side, state.deliveries side with
      | some _, some ⟨attempts, some _⟩ =>
          if attempts ≤ 1 then state.returned side false
          else some (state.deliver side (some ⟨attempts - 1, none⟩))
      | _, _ => none
  | .traffic message =>
      if message.event connId = none then
        (state.channel.send message).map fun channel => { state with channel }
      else none
  | .pump =>
      (state.channel.receive).map fun received =>
        { state with channel := received.2, wire := state.wire ++ [received.1] }
  | .lose => some { state with channel := state.channel.drop, wire := [] }
  | .replace => some { state with stream := state.stream + 1, channel := .empty _ _, wire := [] }
  | .dispatch =>
      match state.wire with
      | message :: wire => { state with wire }.dispatch connId message
      | [] => none
  | .stall =>
      match state.wire with
      | message :: wire =>
          (message.event connId).bind fun event =>
            if state.listens = true ∧ state.events.send event = none then
              some ({ state with wire }.stall event)
            else none
      | [] => none
  | .take => (state.events.receive).map fun received => { state with events := received.2 }
  | .handOff =>
      if 0 < state.handoffs then { state with handoffs := state.handoffs - 1 }.hand .close else none
  | .handOffFails timedOut =>
      if 0 < state.handoffs ∧ (timedOut = true ∨ state.events.receiving = false) then
        some { state with
          handoffs := state.handoffs - 1
          registered := state.registered && !timedOut }
      else none
  | .unregister => some { state with registered := false }
  | .dropReceiver => some { state with events := state.events.drop }

/-- These messages are in the stream's channel or on their way to the client. -/
def State.underway (state : State) : List Message := state.wire ++ state.channel.items

/-- A stream is lost or replaced only when it holds no message of the connection, a message is
queued only in the session's current stream, and a PTY relay queues its `Close` only after a read
task that dropped nothing. -/
def Intact (connId : ConnId) (state : State) : Action → Prop
  | .lose | .replace => ∀ message ∈ state.underway, message.event connId = none
  | .enqueue side =>
      (∀ attempts sender, state.deliveries side = some ⟨attempts, some sender⟩ →
        sender = state.stream) ∧
      ∀ action, state.relay.returned side true = some action → state.relay.Whole action
  | _ => True

/-- The connection was handed an in-order prefix of the dispatched chunks, all of them as long as it
listens, and all that precede a `Close` before that `Close`. -/
structure Handed (dispatched handed : List TunnelEvent) (listens : Bool) (handoffs : Nat) : Prop where
  part : datas handed <+: datas dispatched
  whole : listens = true → datas handed = datas dispatched
  closed : .close ∈ handed ∨ 0 < handoffs → .close ∈ dispatched ∧
    datas (beforeClose dispatched) <+: datas (beforeClose handed)

section Handed
variable {dispatched handed : List TunnelEvent} {listens : Bool} {handoffs : Nat}

theorem Handed.start : Handed [] [] true 0 where
  part := List.prefix_refl _
  whole _ := rfl
  closed := by simp

/-- What was handed after a `Close` changes nothing before it. -/
theorem datas_beforeClose_append (handed : List TunnelEvent) (event : TunnelEvent) :
    datas (beforeClose handed) <+: datas (beforeClose (handed ++ [event])) := by
  by_cases closed : .close ∈ handed
  · rw [beforeClose_append closed]
  · rw [beforeClose_of_not_mem closed]
    by_cases close : event = .close
    · rw [close, beforeClose_append_close closed]
    · rw [beforeClose_of_not_mem (unclosed_append closed close), datas_append]
      exact List.prefix_append _ _

/-- A connection that was handed everything was handed everything before the next `Close`. -/
theorem datas_beforeClose_whole (whole : datas handed = datas dispatched)
    (unclosed : .close ∉ handed) :
    datas (beforeClose (dispatched ++ [.close])) <+: datas (beforeClose handed) := by
  have before := (prefix_beforeClose (dispatched ++ [.close])).filterMap TunnelEvent.data?
  change datas _ <+: datas _ at before
  rw [datas_append, datas_silent rfl, List.append_nil, ← whole] at before
  rwa [beforeClose_of_not_mem unclosed]

/-- A listening connection is handed the next event. -/
theorem Handed.hand (book : Handed dispatched handed true handoffs) (event : TunnelEvent) :
    Handed (dispatched ++ [event]) (handed ++ [event]) listens handoffs := by
  have whole : datas (handed ++ [event]) = datas (dispatched ++ [event]) := by
    rw [datas_append, datas_append, book.whole rfl]
  constructor
  case part => exact whole ▸ List.prefix_refl _
  case whole => exact fun _ => whole
  case closed =>
    intro closing
    by_cases earlier : .close ∈ handed ∨ 0 < handoffs
    · obtain ⟨close, before⟩ := book.closed earlier
      rw [beforeClose_append close]
      exact ⟨List.mem_append_left _ close, before.trans (datas_beforeClose_append handed event)⟩
    · rw [not_or] at earlier
      have last : event = .close := by
        rcases closing with close | waits
        · rcases List.mem_append.mp close with before | last
          · exact absurd before earlier.1
          · exact (List.mem_singleton.mp last).symm
        · exact absurd waits earlier.2
      subst last
      exact ⟨List.mem_append_right _ (List.mem_singleton_self _),
        (datas_beforeClose_whole (book.whole rfl) earlier.1).trans
          (datas_beforeClose_append handed .close)⟩

/-- An event that is not handed over ends the listening. -/
theorem Handed.ignore (book : Handed dispatched handed listens handoffs) (event : TunnelEvent) :
    Handed (dispatched ++ [event]) handed false handoffs where
  part := by
    rw [datas_append]
    exact book.part.trans (List.prefix_append _ _)
  whole := nofun
  closed closing := by
    obtain ⟨close, before⟩ := book.closed closing
    rw [beforeClose_append close]
    exact ⟨List.mem_append_left _ close, before⟩

/-- A stalled `Close` waits in a task of its own. -/
theorem Handed.stall (book : Handed dispatched handed true handoffs) :
    Handed (dispatched ++ [.close]) handed listens (handoffs + 1) := by
  have whole : datas handed = datas (dispatched ++ [.close]) := by
    rw [datas_append, datas_silent rfl, List.append_nil, book.whole rfl]
  constructor
  case part => exact whole ▸ List.prefix_refl _
  case whole => exact fun _ => whole
  case closed =>
    intro _
    refine ⟨List.mem_append_right _ (List.mem_singleton_self _), ?_⟩
    by_cases closed : .close ∈ handed
    · obtain ⟨close, before⟩ := book.closed (.inl closed)
      rw [beforeClose_append close]
      exact before
    · exact datas_beforeClose_whole (book.whole rfl) closed

/-- A `Close` that waited is handed over. -/
theorem Handed.handOff (book : Handed dispatched handed listens handoffs) (waits : 0 < handoffs) :
    Handed dispatched (handed ++ [.close]) listens (handoffs - 1) := by
  have same : datas (handed ++ [.close]) = datas handed := by
    rw [datas_append, datas_silent rfl, List.append_nil]
  constructor
  case part =>
    rw [same]
    exact book.part
  case whole =>
    rw [same]
    exact book.whole
  case closed =>
    intro _
    obtain ⟨close, before⟩ := book.closed (.inr waits)
    exact ⟨close, before.trans (datas_beforeClose_append handed .close)⟩

/-- A connection may stop listening, and a waiting `Close` may be given up. -/
theorem Handed.weaken (book : Handed dispatched handed listens handoffs) {still : Bool} {less : Nat}
    (stops : still = true → listens = true) (fewer : less ≤ handoffs) :
    Handed dispatched handed still less where
  part := book.part
  whole open_ := book.whole (stops open_)
  closed closing := book.closed (closing.imp_right fun waits => Nat.lt_of_lt_of_le waits fewer)

end Handed

/-- These events of the connection are underway. -/
def State.coming (state : State) (connId : ConnId) : List TunnelEvent :=
  state.underway.filterMap (Message.event connId)

/-- The relay's reports are in order, each of them was dispatched or is underway, and the connection
was handed what was dispatched. -/
structure Inv (connId : ConnId) (state : State) : Prop where
  sound : state.relay.Sound
  flow : state.dispatched ++ state.coming connId = state.relay.queued
  handed : Handed state.dispatched state.handed state.listens state.handoffs

section Inv
variable {connId : ConnId} {state next : State}

theorem Inv.start (kind : Producer.Kind) : Inv connId (start kind) where
  sound := kind.sound
  flow := kind.silent.symm
  handed := Handed.start

/-- A step of the relay and its deliveries keeps the invariant if its reports stay in order and go
underway as they are queued. -/
theorem Inv.of_relay (inv : Inv connId state) (sound : next.relay.Sound)
    (flow : ∃ added, next.relay.queued = state.relay.queued ++ added ∧
      next.coming connId = state.coming connId ++ added)
    (dispatched : next.dispatched = state.dispatched) (handed : next.handed = state.handed)
    (listens : next.listens = state.listens) (handoffs : next.handoffs = state.handoffs) :
    Inv connId next where
  sound := sound
  flow := by
    obtain ⟨added, queued, coming⟩ := flow
    rw [queued, coming, dispatched, ← List.append_assoc, inv.flow]
  handed := by
    rw [dispatched, handed, listens, handoffs]
    exact inv.handed

/-- A relay's own step queues nothing. -/
theorem Inv.relay (inv : Inv connId state) {action : Producer.Action}
    (moved : step connId state (.relay action) = some next) : Inv connId next := by
  rw [step, Option.ite_none_right_eq_some] at moved
  obtain ⟨internal, moved⟩ := moved
  obtain ⟨relay, stepped, rfl⟩ := Option.map_eq_some_iff.mp moved
  have whole : state.relay.Whole action := Producer.whole_internal internal
  refine inv.of_relay (inv.sound.step whole stepped) ⟨[], ?_, ?_⟩ rfl rfl rfl rfl
  · rw [List.append_nil]
    exact Producer.queued_internal internal stepped
  · rw [List.append_nil]
    rfl

/-- A delivery ends: its event is queued and underway, or the relay hears of its failure. -/
theorem Inv.returned (inv : Inv connId state) {side : Side} {event : TunnelEvent} {attempts : Nat}
    {before : State} {ok : Bool}
    (sends : state.relay.sending side = some (event, attempts))
    (moved : before.returned side ok = some next)
    (same : before.relay = state.relay ∧ before.dispatched = state.dispatched ∧
      before.handed = state.handed ∧ before.listens = state.listens ∧
      before.handoffs = state.handoffs)
    (whole : ∀ action, state.relay.returned side ok = some action → state.relay.Whole action)
    (coming : before.coming connId = state.coming connId ++ if ok then [event] else []) :
    Inv connId next := by
  obtain ⟨relay, dispatched, handed, listens, handoffs⟩ := same
  rw [State.returned, relay, Option.bind_eq_some_iff] at moved
  obtain ⟨action, returns, moved⟩ := moved
  obtain ⟨after, stepped, rfl⟩ := Option.map_eq_some_iff.mp moved
  refine inv.of_relay (inv.sound.step (whole action returns) stepped)
    ⟨if ok then [event] else [], ?_, coming⟩ dispatched handed listens handoffs
  have queued := Producer.queued_returned sends returns stepped
  cases ok with
  | true => exact queued
  | false => exact queued.trans (List.append_nil _).symm

/-- An attempt begins or fails before the delivery ends. -/
theorem Inv.deliver (inv : Inv connId state) (side : Side) (delivery : Option Delivery) :
    Inv connId (state.deliver side delivery) :=
  inv.of_relay inv.sound ⟨[], (List.append_nil _).symm, (List.append_nil _).symm⟩ rfl rfl rfl rfl

/-- A delivered event is queued in the session's current stream. -/
theorem Inv.enqueue (inv : Inv connId state) {side : Side}
    (intact : Intact connId state (.enqueue side))
    (moved : step connId state (.enqueue side) = some next) : Inv connId next := by
  obtain ⟨current, whole⟩ := intact
  simp only [step] at moved
  split at moved
  · next event budget attempts sender sends delivers =>
      rw [if_pos (current attempts sender delivers), Option.bind_eq_some_iff] at moved
      obtain ⟨channel, sent, moved⟩ := moved
      have items := (Channel.send_some sent).2.1
      apply inv.returned sends moved ⟨rfl, rfl, rfl, rfl, rfl⟩ whole
      simp only [State.coming, State.underway, items, List.filterMap_append]
      rw [List.append_assoc]
      congr 2
      exact List.filterMap_cons_some (TunnelEvent.message_event connId event)
  · contradiction

/-- A failed attempt is repeated, or it ends its delivery without the event. -/
theorem Inv.attemptFails (inv : Inv connId state) {side : Side}
    (moved : step connId state (.attemptFails side) = some next) : Inv connId next := by
  simp only [step] at moved
  split at moved
  · next sends delivers =>
      split at moved
      · exact inv.returned sends moved ⟨rfl, rfl, rfl, rfl, rfl⟩ (fun _ => Producer.whole_failed)
          (List.append_nil _).symm
      · cases moved
        exact inv.deliver side _
  · contradiction

/-- The streams change without changing what is underway. -/
theorem Inv.of_stream (inv : Inv connId state) {stream : Nat}
    {channel : Channel streamCapacity Message} {wire : List Message}
    (coming : { state with stream, channel, wire }.coming connId = state.coming connId) :
    Inv connId { state with stream, channel, wire } :=
  inv.of_relay inv.sound ⟨[], (List.append_nil _).symm, by rw [coming, List.append_nil]⟩
    rfl rfl rfl rfl

/-- Nothing of the connection is lost with a stream that holds nothing of it. -/
theorem coming_of_clear (clear : ∀ message ∈ state.underway, message.event connId = none) :
    state.coming connId = [] := List.filterMap_eq_nil_iff.mpr clear

/-- A step of the client keeps the invariant if no event is lost between the wire and the log. -/
theorem Inv.of_client (inv : Inv connId state) (relay : next.relay = state.relay)
    (flow : next.dispatched ++ next.coming connId = state.dispatched ++ state.coming connId)
    (handed : Handed next.dispatched next.handed next.listens next.handoffs) :
    Inv connId next where
  sound := relay ▸ inv.sound
  flow := by
    rw [flow, relay]
    exact inv.flow
  handed := handed

/-- The first message on the wire is the next one of the connection, or none of it. -/
theorem coming_cons {message : Message} {wire : List Message}
    (arrives : state.wire = message :: wire) : state.coming connId =
      (message.event connId).toList ++ { state with wire }.coming connId := by
  unfold State.coming State.underway
  rw [arrives, List.cons_append, List.filterMap_cons]
  cases message.event connId <;> rfl

/-- The client dispatches the next message, which the connection is handed or does not listen to. -/
theorem Inv.dispatch (inv : Inv connId state)
    (moved : step connId state .dispatch = some next) : Inv connId next := by
  simp only [step] at moved
  split at moved
  · next message wire arrives =>
      have coming : state.coming connId = _ := coming_cons arrives
      unfold State.dispatch at moved
      split at moved
      · next event own =>
          rw [own] at coming
          have flow : (state.dispatched ++ [event]) ++ { state with wire }.coming connId =
              state.dispatched ++ state.coming connId := by
            rw [coming, List.append_assoc]
            rfl
          have book := inv.handed
          split at moved
          · next listens =>
              change state.listens = true at listens
              obtain ⟨events, sent, rfl⟩ := Option.map_eq_some_iff.mp moved
              rw [listens] at book
              exact inv.of_client rfl flow (book.hand event)
          · next deaf =>
              cases moved
              change ¬ state.listens = true at deaf
              refine inv.of_client rfl flow ?_
              change Handed _ _ state.listens _
              rw [Bool.not_eq_true] at deaf
              rw [deaf]
              exact book.ignore event
      · next foreign =>
          rw [foreign] at coming
          rw [Option.some.injEq] at moved
          split at moved
          · subst moved
            refine inv.of_client rfl (congrArg _ coming.symm) (inv.handed.weaken ?_ (Nat.le_refl _))
            exact fun stops => absurd stops (by simp [State.listens])
          · subst moved
            exact inv.of_client rfl (congrArg _ coming.symm) inv.handed
  · contradiction

/-- A stalled event is handed to a task of its own, or ends the connection. -/
theorem Inv.stall (inv : Inv connId state) (moved : step connId state .stall = some next) :
    Inv connId next := by
  simp only [step] at moved
  split at moved
  · next message wire arrives =>
      obtain ⟨event, own, moved⟩ := Option.bind_eq_some_iff.mp moved
      rw [Option.ite_none_right_eq_some, Option.some.injEq] at moved
      obtain ⟨⟨listens, -⟩, rfl⟩ := moved
      have coming : state.coming connId = _ := coming_cons arrives
      rw [own] at coming
      have flow : (state.dispatched ++ [event]) ++ { state with wire }.coming connId =
          state.dispatched ++ state.coming connId := by
        rw [coming, List.append_assoc]
        rfl
      change state.listens = true at listens
      have book := inv.handed
      cases event with
      | close =>
          rw [listens] at book
          exact inv.of_client rfl flow book.stall
      | data => exact inv.of_client rfl flow (book.ignore _)
      | error => exact inv.of_client rfl flow (book.ignore _)
      | exit => exact inv.of_client rfl flow (book.ignore _)
  · contradiction

/-- A waiting `Close` is handed over or given up. -/
theorem Inv.handOff (inv : Inv connId state) (moved : step connId state .handOff = some next) :
    Inv connId next := by
  rw [step, Option.ite_none_right_eq_some] at moved
  obtain ⟨waits, moved⟩ := moved
  obtain ⟨events, sent, rfl⟩ := Option.map_eq_some_iff.mp moved
  obtain ⟨receiving, -, still⟩ := Channel.send_some sent
  change state.events.receiving = true at receiving
  refine inv.of_client rfl rfl ((inv.handed.handOff waits).weaken ?_ (Nat.le_refl _))
  intro listens
  change (state.registered && events.receiving) = true at listens
  rw [still] at listens
  rw [State.listens, receiving]
  exact listens

/-- Every step that meets the condition keeps the invariant. -/
theorem Inv.step {action : Action} (inv : Inv connId state)
    (intact : Intact connId state action) (moved : step connId state action = some next) :
    Inv connId next := by
  cases action
  case relay action => exact inv.relay moved
  case fetch side =>
    simp only [Downlink.step] at moved
    split at moved
    · cases moved
      exact inv.deliver side _
    · cases moved
      exact inv.deliver side _
    · contradiction
  case enqueue side => exact inv.enqueue intact moved
  case attemptFails side => exact inv.attemptFails moved
  case traffic message =>
    rw [Downlink.step, Option.ite_none_right_eq_some] at moved
    obtain ⟨foreign, moved⟩ := moved
    obtain ⟨channel, sent, rfl⟩ := Option.map_eq_some_iff.mp moved
    apply inv.of_stream
    simp only [State.coming, State.underway, (Channel.send_some sent).2.1, List.filterMap_append]
    rw [List.filterMap_cons_none foreign, List.filterMap_nil, List.append_nil]
  case pump =>
    obtain ⟨⟨message, channel⟩, received, rfl⟩ := Option.map_eq_some_iff.mp moved
    apply inv.of_stream
    simp only [State.coming, State.underway, (Channel.receive_some received).1]
    rw [List.append_assoc]
    rfl
  case lose =>
    cases moved
    apply inv.of_stream
    rw [coming_of_clear intact]
    rfl
  case replace =>
    cases moved
    apply inv.of_stream
    rw [coming_of_clear intact]
    rfl
  case dispatch => exact inv.dispatch moved
  case stall => exact inv.stall moved
  case take =>
    obtain ⟨⟨event, events⟩, received, rfl⟩ := Option.map_eq_some_iff.mp moved
    obtain ⟨-, receiving, still⟩ := Channel.receive_some received
    refine inv.of_client rfl rfl (inv.handed.weaken ?_ (Nat.le_refl _))
    intro listens
    change (state.registered && events.receiving) = true at listens
    rw [still] at listens
    rw [State.listens, receiving]
    exact listens
  case handOff => exact inv.handOff moved
  case handOffFails timedOut =>
    rw [Downlink.step, Option.ite_none_right_eq_some, Option.some.injEq] at moved
    obtain ⟨-, rfl⟩ := moved
    refine inv.of_client rfl rfl (inv.handed.weaken ?_ (Nat.sub_le _ _))
    intro listens
    change (state.registered && !timedOut && state.events.receiving) = true at listens
    rw [State.listens]
    rw [Bool.and_eq_true, Bool.and_eq_true] at listens
    rw [listens.1.1, listens.2]
    rfl
  case unregister =>
    cases moved
    refine inv.of_client rfl rfl (inv.handed.weaken ?_ (Nat.le_refl _))
    exact fun stops => absurd stops (by simp [State.listens])
  case dropReceiver =>
    cases moved
    refine inv.of_client rfl rfl (inv.handed.weaken ?_ (Nat.le_refl _))
    exact fun stops => absurd stops (by simp [State.listens])

end Inv

/-- What was dispatched is in order with what the relay produced. -/
theorem Inv.inOrder {connId : ConnId} {state : State} (inv : Inv connId state) :
    InOrder state := by
  have orderly := inv.sound.orderly
  rw [← inv.flow] at orderly
  have part : datas state.handed <+: state.relay.produced := by
    have dispatched := (List.prefix_append _ (datas (state.coming connId))).trans
      (datas_append state.dispatched (state.coming connId) ▸ orderly.part)
    exact inv.handed.part.trans dispatched
  refine ⟨part, fun closing => ?_⟩
  obtain ⟨close, before⟩ := inv.handed.closed (.inl closing)
  have all := orderly.closed (List.mem_append_left _ close)
  rw [beforeClose_append close] at all
  rw [all] at before
  have rest := (prefix_beforeClose state.handed).filterMap TunnelEvent.data?
  have within : datas (beforeClose state.handed) <+: state.relay.produced := rest.trans part
  exact within.eq_of_length_le before.length_le

/-- In every run whose steps meet the condition, a connection is handed an in-order prefix of what
its relay produced, and a `Close` only after all of it. -/
theorem handed_in_order {connId : ConnId} {kind : Producer.Kind} {actions : List Action}
    {final : State} (intact : Machine.Along (step connId) (Intact connId) (start kind) actions)
    (ran : Machine.run (step connId) (start kind) actions = some final) : InOrder final :=
  (Machine.run_along Inv.step (Inv.start kind) intact ran).inOrder

/-- A target sends two chunks and closes. While the second one is tried, a reconnect replaces a stream
that holds only a message of nobody. -/
def reconnected : List Action :=
  [.relay (.tcp (.readTarget [1])), .fetch .output, .enqueue .output, .pump, .dispatch,
    .relay (.tcp (.readTarget [2])), .fetch .output, .attemptFails .output, .traffic .pong,
    .replace, .fetch .output, .enqueue .output, .pump, .dispatch, .relay (.tcp .readEof),
    .relay (.tcp .settle), .fetch .output, .enqueue .output, .pump, .dispatch]

/-- The connection is then handed both chunks and the `Close`. -/
theorem handed_in_order_of_reconnect : ∃ final,
    Machine.run (step 7) (start .tcp) reconnected = some final ∧
    final.handed = [.data [1], .data [2], .close] ∧ InOrder final := by
  obtain ⟨final, ran, handed⟩ := Option.map_eq_some_iff.mp
    (show (Machine.run (step 7) (start .tcp) reconnected).map (fun final => final.handed) =
      some [.data [1], .data [2], .close] by decide)
  refine ⟨final, ran, handed, handed_in_order ?_ ran⟩
  refine ⟨trivial, trivial, ⟨?_, fun _ _ => trivial⟩, trivial, trivial, trivial, trivial, trivial,
    trivial, ?_, trivial, ⟨?_, fun _ _ => trivial⟩, trivial, trivial, trivial, trivial, trivial,
    ⟨?_, fun _ _ => trivial⟩, trivial, trivial, trivial⟩
  · rintro attempts sender ⟨⟩
    rfl
  · change ∀ message ∈ [Message.pong], message.event 7 = none
    decide
  · rintro attempts sender ⟨⟩
    rfl
  · rintro attempts sender ⟨⟩
    rfl

/-- A chunk counts as delivered once it is queued. A reconnect replaces its stream, the next chunk
and the `Close` go through the new one, and the connection never gets the first chunk. -/
theorem replaced_stream_loses_chunk : ∃ final, Machine.run (step 7) (start .tcp)
    [.relay (.tcp (.readTarget [1])), .fetch .output, .enqueue .output, .replace,
      .relay (.tcp (.readTarget [2])), .fetch .output, .enqueue .output, .pump, .dispatch,
      .relay (.tcp .readEof), .relay (.tcp .settle), .fetch .output, .enqueue .output, .pump,
      .dispatch] = some final ∧ final.relay.produced = [[1], [2]] ∧
    final.handed = [.data [2], .close] ∧ ¬ InOrder final := by
  obtain ⟨final, ran, same⟩ := Option.map_eq_some_iff.mp (show (Machine.run (step 7) (start .tcp)
    [.relay (.tcp (.readTarget [1])), .fetch .output, .enqueue .output, .replace,
      .relay (.tcp (.readTarget [2])), .fetch .output, .enqueue .output, .pump, .dispatch,
      .relay (.tcp .readEof), .relay (.tcp .settle), .fetch .output, .enqueue .output, .pump,
      .dispatch]).map (fun final => (final.relay.produced, final.handed)) =
    some ([[1], [2]], [.data [2], .close]) by decide)
  obtain ⟨produced, handed⟩ := Prod.mk.injEq .. ▸ same
  refine ⟨final, ran, produced, handed, fun inOrder => ?_⟩
  have part := inOrder.part
  rw [produced, handed] at part
  have first : ¬ datas [.data [2], .close] <+: [[1], [2]] := by decide
  exact first part

end Tunnix.Downlink
