import Tunnix.Client.PushSession
import Tunnix.Server.Grammar
import Tunnix.Library.Feed

namespace Tunnix.PushTransfer

/-- The newest handler has answered, it still holds its chunk, or it was dropped with its
connection. -/
inductive Call where
  | answered
  | sending
  | dropped
deriving DecidableEq, Repr

/-- A push joins a session of the client with a relay of the server. This many posted chunks have
been handled, and this many events of the relay have reached the session's channel or are lost. -/
structure State where
  client : PushSession.State
  server : PushRelay.State
  spawned : Bool
  handled : Nat
  call : Call
  arrived : Nat

def start (archive : List Bytes) : State where
  client := PushSession.start archive
  server := PushRelay.start
  spawned := false
  handled := 0
  call := .answered
  arrived := 0

/-- The two sides take their own steps. The server spawns the relay, it handles the next chunk, once
or again, and it handles the `Close`. The relay's next event reaches the session. A lost or replaced
stream takes the events with it that have not arrived, also one that a delivery queues on it
afterwards. -/
inductive Action where
  | client (action : PushSession.Action)
  | server (action : PushRelay.Action)
  | spawn
  | handle (again : Bool)
  | close
  | deliver
  | replace

/-- A POST succeeds once its handler has answered, and events reach the session through `deliver`
alone. -/
def State.permits (state : State) : PushSession.Action → Bool
  | .announced none => state.spawned
  | .posted none => state.handled = state.client.posted.length && state.call = .answered
  | .arrive _ => false
  | .announced (some _) | .posted (some _) | .chunk | .joined _ | .event | .closed | .hangUp => true

/-- The session posts its `Close` once its stream has ended. -/
def closes : PushSession.Phase → Bool
  | .closing _ | .confirming | .returned _ => true
  | .announcing | .streaming | .posting _ | .joining => false

/-- The newest handler ends when its chunk is in the channel or refused, or when it is dropped. -/
def State.callAfter (state : State) : PushRelay.Action → Call
  | .enqueue index => if index + 1 = state.server.handlers.length then .answered else state.call
  | .forget index => if index + 1 = state.server.handlers.length then .dropped else state.call
  | .handleData _ | .handleClose | .handleAbort | .takeChunk | .unpackEnds _ | .join | .watchdog
  | .forceEof | .release | .reported _ => state.call

/-- These steps are not taken by `handle_send`. -/
def relayOwn : PushRelay.Action → Bool
  | .handleData _ | .handleClose | .handleAbort => false
  | .enqueue _ | .forget _ | .takeChunk | .unpackEnds _ | .join | .watchdog | .forceEof | .release
  | .reported _ => true

/-- A handler finds the sender in the session, or it answers at once. -/
def State.receive (state : State) (data : Bytes) (handled : Nat) : Option State :=
  (PushRelay.step state.server (.handleData data)).map fun server => { state with
    server
    handled
    call := if state.server.registered then .sending else .answered }

/-- The push moves by one action, or refuses one that its state does not allow. -/
def step (state : State) : Action → Option State
  | .client action =>
      if state.permits action then
        (PushSession.step state.client action).map fun client => { state with client }
      else none
  | .server action =>
      if state.spawned && relayOwn action then
        (PushRelay.step state.server action).map fun server =>
          { state with server, call := state.callAfter action }
      else none
  | .spawn => some { state with spawned := true }
  | .handle again =>
      -- A chunk is handled again when its response was lost.
      let handled := if again then state.handled else state.handled + 1
      match state.client.posted[handled - 1]? with
      | some data => if 1 ≤ handled then state.receive data handled else none
      | none => none
  | .close =>
      if closes state.client.phase then
        (PushRelay.step state.server .handleClose).map fun server => { state with server }
      else none
  | .deliver =>
      match state.server.queued[state.arrived]? with
      | some event => (PushSession.step state.client (.arrive event)).map fun client =>
          { state with client, arrived := state.arrived + 1 }
      | none => none
  | .replace => some { state with arrived := state.server.queued.length }

/-- The session or the relay moves, a chunk or the `Close` is handled, or the relay's next events reach
the session or are lost. -/
inductive Move (state : State) : Action → State → Prop
  | client {own client} : state.permits own = true →
      PushSession.step state.client own = some client →
      Move state (.client own) { state with client }
  | server {own server} : relayOwn own = true → PushRelay.step state.server own = some server →
      Move state (.server own) { state with server, call := state.callAfter own }
  | spawn : Move state .spawn { state with spawned := true }
  | handle {data next} : state.client.posted[state.handled]? = some data →
      state.receive data (state.handled + 1) = some next → Move state (.handle false) next
  | again {data next} : state.receive data state.handled = some next →
      Move state (.handle true) next
  | close : Move state .close { state with server := { state.server with registered := false } }
  | deliver {event} : state.server.queued[state.arrived]? = some event →
      state.client.registered = true →
      Move state .deliver { state with
        client := { state.client with events := state.client.events ++ [event] }
        arrived := state.arrived + 1 }
  | replace : Move state .replace { state with arrived := state.server.queued.length }

section Move
variable {state next : State} {action : Action}

/-- Each accepted action is one of the possible steps. -/
theorem step_move (moved : step state action = some next) : Move state action next := by
  cases action with
  | client own =>
      rw [step, Option.ite_none_right_eq_some] at moved
      obtain ⟨permitted, moved⟩ := moved
      obtain ⟨client, taken, rfl⟩ := Option.map_eq_some_iff.mp moved
      exact .client permitted taken
  | server own =>
      rw [step, Option.ite_none_right_eq_some, Bool.and_eq_true] at moved
      obtain ⟨⟨-, separate⟩, moved⟩ := moved
      obtain ⟨server, taken, rfl⟩ := Option.map_eq_some_iff.mp moved
      exact .server separate taken
  | spawn =>
      cases moved
      exact .spawn
  | handle again =>
      simp only [step] at moved
      split at moved
      · next found =>
          rw [Option.ite_none_right_eq_some] at moved
          cases again with
          | true => exact .again moved.2
          | false => exact .handle found moved.2
      · cases moved
  | close =>
      rw [step, Option.ite_none_right_eq_some] at moved
      obtain ⟨server, taken, rfl⟩ := Option.map_eq_some_iff.mp moved.2
      cases taken
      exact .close
  | deliver =>
      simp only [step] at moved
      split at moved
      · next found =>
          obtain ⟨client, taken, rfl⟩ := Option.map_eq_some_iff.mp moved
          cases PushSession.step_move taken with
          | arrive registered => exact .deliver found registered
      · cases moved
  | replace =>
      cases moved
      exact .replace

/-- A handler holds its chunk, or the relay's entry is gone. -/
theorem receive_some {data : Bytes} {handled : Nat}
    (done : state.receive data handled = some next) :
    state.server.registered = true ∧ next = { state with
        server := { state.server with handlers := state.server.handlers ++ [data] }
        handled
        call := .sending } ∨
      state.server.registered = false ∧ next = { state with handled, call := .answered } := by
  obtain ⟨server, taken, rfl⟩ := Option.map_eq_some_iff.mp done
  cases PushRelay.step_move taken with
  | handleData registered => exact .inl ⟨registered, by simp [registered]⟩
  | discardData removed => exact .inr ⟨removed, by simp [removed]⟩

end Move

/-- A handler's chunk can still reach the unpack task. -/
def State.pending (state : State) : List Bytes :=
  if state.server.writer.receiving then state.server.handlers else []

/-- The unpack task is given the posted chunks in order. All of them reach it while the relay takes
chunks and no handler was dropped. -/
structure Intake (archive : List Bytes) (state : State) : Prop where
  stream : state.client.posted ++ state.client.archive = archive
  within : state.handled ≤ state.client.posted.length
  near : state.client.posted.length ≤ state.handled + 1
  idle : state.call ≠ .sending → state.server.handlers = []
  single : state.server.handlers.length ≤ 1
  busy : state.call ≠ .answered → state.handled = state.client.posted.length
  streaming : state.client.phase = .announcing ∨ state.client.phase = .streaming →
    state.call = .answered ∧ state.handled = state.client.posted.length
  part : state.server.received ++ state.server.writer.items ++ state.pending <+:
    state.client.posted.take state.handled
  whole : state.call ≠ .dropped → state.server.registered = true →
    state.server.writer.receiving = true →
      state.server.received ++ state.server.writer.items ++ state.server.handlers =
        state.client.posted.take state.handled

section Intake
variable {archive : List Bytes} {state next : State} {action : Action}

theorem Intake.start (archive : List Bytes) : Intake archive (start archive) where
  stream := rfl
  within := Nat.le_refl _
  near := Nat.zero_le _
  idle _ := rfl
  single := Nat.zero_le _
  busy _ := rfl
  streaming _ := ⟨rfl, rfl⟩
  part := List.nil_prefix
  whole _ _ _ := rfl

/-- The session does not go back to its streaming loop. -/
theorem confirmEvent_settles (event : Option TunnelEvent) :
    ¬ (PushSession.confirmEvent event = .announcing ∨
      PushSession.confirmEvent event = .streaming) := by
  rcases PushSession.confirmEvent_cases event with ⟨data, -, same⟩ | ⟨-, same⟩ | ⟨-, message, same⟩
  · simp [same]
  · simp [same]
  · simp [same]

/-- The session posts its next chunk after its streaming loop has found it, and otherwise its chunks
stay. -/
theorem client_posts {client after : PushSession.State} {own : PushSession.Action}
    (moved : PushSession.step client own = some after) :
    after.posted ++ after.archive = client.posted ++ client.archive ∧
      ((∃ data, client.phase = .streaming ∧ after.posted = client.posted ++ [data] ∧
          after.phase = .posting data) ∨
        after.posted = client.posted ∧
          (after.phase = .announcing ∨ after.phase = .streaming →
            client.phase = .announcing ∨ client.phase = .streaming ∨ own = .posted none)) := by
  cases PushSession.step_move moved with
  | announced announcing => exact ⟨rfl, .inr ⟨rfl, fun _ => .inl announcing⟩⟩
  | chunk streaming found => exact ⟨by simp [found], .inl ⟨_, streaming, rfl, rfl⟩⟩
  | posted => exact ⟨rfl, .inr ⟨rfl, fun _ => .inr (.inr rfl)⟩⟩
  | event found taken =>
      refine ⟨rfl, .inr ⟨rfl, fun goes => ?_⟩⟩
      rcases PushSession.onEvent_some taken with ⟨streaming, -⟩ | ⟨-, rfl⟩
      · exact .inr (.inl streaming)
      · exact absurd goes (confirmEvent_settles _)
  | lost _ _ taken =>
      refine ⟨rfl, .inr ⟨rfl, fun goes => ?_⟩⟩
      rcases PushSession.onEvent_some taken with ⟨streaming, -⟩ | ⟨-, rfl⟩
      · exact .inr (.inl streaming)
      · exact absurd goes (confirmEvent_settles none)
  | arrive | hangUp =>
      exact ⟨rfl, .inr ⟨rfl, fun goes => goes.imp_right .inl⟩⟩
  | lastChunk | refused | unposted | joined | unjoined | closed | reported =>
      exact ⟨rfl, .inr ⟨rfl, by simp⟩⟩

/-- A step of the session keeps the intake. -/
theorem Intake.client (intake : Intake archive state) {own : PushSession.Action}
    {client : PushSession.State} (permitted : state.permits own = true)
    (moved : PushSession.step state.client own = some client) :
    Intake archive { state with client } := by
  obtain ⟨stream, posts⟩ := client_posts moved
  rcases posts with ⟨data, streaming, posted, phase⟩ | ⟨posted, goes⟩
  · obtain ⟨answered, handled⟩ := intake.streaming (.inr streaming)
    have taken : client.posted.take state.handled = state.client.posted.take state.handled := by
      rw [posted, List.take_append_of_le_length intake.within]
    refine ⟨stream.trans intake.stream, ?_, ?_, intake.idle, intake.single, ?_, ?_, ?_, ?_⟩
    · simp only [posted, List.length_append]
      omega
    · simp [posted, handled]
    · exact fun busy => absurd answered busy
    · simp [phase]
    · exact taken ▸ intake.part
    · exact fun kept registered receiving => taken ▸ intake.whole kept registered receiving
  · refine ⟨stream.trans intake.stream, ?_, ?_, intake.idle, intake.single, ?_, fun streams => ?_,
      ?_, ?_⟩
    · exact posted ▸ intake.within
    · exact posted ▸ intake.near
    · exact fun busy => posted ▸ intake.busy busy
    · rcases goes streams with before | before | rfl
      · exact posted ▸ intake.streaming (.inl before)
      · exact posted ▸ intake.streaming (.inr before)
      · simp only [State.permits, Bool.and_eq_true, decide_eq_true_eq] at permitted
        exact ⟨permitted.2, posted ▸ permitted.1⟩
    · exact posted ▸ intake.part
    · exact fun kept registered receiving => posted ▸ intake.whole kept registered receiving

/-- The newest handler is the only one. -/
theorem Intake.only (intake : Intake archive state) {index : Nat} {data : Bytes}
    (held : state.server.handlers[index]? = some data) :
    state.server.handlers = [data] ∧ index = 0 ∧ state.call = .sending := by
  have single := intake.single
  match found : state.server.handlers with
  | [] => simp [found] at held
  | [other] =>
      rw [found] at held
      obtain ⟨rfl, rfl⟩ : index = 0 ∧ other = data := by
        cases index with
        | zero => exact ⟨rfl, Option.some.inj held⟩
        | succ index => simp at held
      refine ⟨rfl, rfl, ?_⟩
      by_contra other
      rw [intake.idle other] at found
      cases found
  | _ :: _ :: _ => simp [found] at single

/-- The only handler leaves the relay. -/
theorem Intake.leave (intake : Intake archive state) {server : PushRelay.State} {call : Call}
    (sending : state.call = .sending) (gone : server.handlers = []) (ended : call ≠ .sending)
    (part : server.received ++ server.writer.items <+: state.client.posted.take state.handled)
    (whole : call = .answered → server.registered = true → server.writer.receiving = true →
      server.received ++ server.writer.items = state.client.posted.take state.handled) :
    Intake archive { state with server, call } := by
  have all := intake.busy (by simp [sending])
  refine ⟨intake.stream, intake.within, intake.near, fun _ => gone, by simp [gone], fun _ => all,
    fun streams => ?_, ?_, fun kept registered receiving => ?_⟩
  · have answered := (intake.streaming streams).1
    rw [sending] at answered
    cases answered
  · simpa [State.pending, gone] using part
  · rw [gone, List.append_nil]
    cases call with
    | answered => exact whole rfl registered receiving
    | sending => exact absurd rfl ended
    | dropped => exact absurd rfl kept

/-- The relay and its unpack task move on without a handler. -/
theorem Intake.onward (intake : Intake archive state) {server : PushRelay.State}
    (handlers : server.handlers = state.server.handlers)
    (part : server.received ++ server.writer.items <+:
      state.server.received ++ state.server.writer.items)
    (same : server.writer.receiving = true → state.server.writer.receiving = true ∧
      server.received ++ server.writer.items = state.server.received ++ state.server.writer.items)
    (entry : server.registered = true → state.server.registered = true) :
    Intake archive { state with server } := by
  refine ⟨intake.stream, intake.within, intake.near,
    fun ended => handlers.trans (intake.idle ended), handlers ▸ intake.single, intake.busy,
    intake.streaming, ?_, fun kept registered receiving => ?_⟩
  · cases receiving : server.writer.receiving with
    | true =>
        obtain ⟨before, whole⟩ := same receiving
        have earlier := intake.part
        rw [State.pending, before, if_pos rfl] at earlier
        simpa [State.pending, receiving, whole, handlers] using earlier
    | false =>
        simpa [State.pending, receiving] using
          part.trans ((List.prefix_append _ _).trans intake.part)
  · obtain ⟨before, whole⟩ := same receiving
    simp only [whole, handlers]
    exact intake.whole kept (entry registered) before

/-- A step of the relay keeps the intake. -/
theorem Intake.server (intake : Intake archive state) {own : PushRelay.Action}
    {server : PushRelay.State} (separate : relayOwn own = true)
    (moved : PushRelay.step state.server own = some server) :
    Intake archive { state with server, call := state.callAfter own } := by
  cases PushRelay.step_move moved with
  | handleData | discardData | handleClose | handleAbort => cases separate
  | @enqueue index data writer held sent =>
      obtain ⟨handlers, rfl, sending⟩ := intake.only held
      obtain ⟨receiving, items, -⟩ := Channel.send_some sent
      have moves : state.server.received ++ writer.items =
          state.server.received ++ state.server.writer.items ++ state.server.handlers := by
        rw [items, handlers, List.append_assoc]
      have call : state.callAfter (.enqueue 0) = .answered := by simp [State.callAfter, handlers]
      rw [call]
      refine intake.leave sending (by simp [handlers]) (by simp) ?_ ?_
      · have part := intake.part
        rw [State.pending, receiving, if_pos rfl] at part
        exact moves ▸ part
      · exact fun _ registered _ =>
          moves.trans (intake.whole (by simp [sending]) registered receiving)
  | @refuse index data held dropped =>
      obtain ⟨handlers, rfl, sending⟩ := intake.only held
      have call : state.callAfter (.enqueue 0) = .answered := by simp [State.callAfter, handlers]
      rw [call]
      refine intake.leave sending (by simp [handlers]) (by simp) ?_ ?_
      · exact (List.prefix_append _ _).trans intake.part
      · intro _ _ receiving
        rw [dropped] at receiving
        cases receiving
  | @forget index within =>
      obtain ⟨data, held⟩ : ∃ data, state.server.handlers[index]? = some data :=
        ⟨_, List.getElem?_eq_getElem within⟩
      obtain ⟨handlers, rfl, sending⟩ := intake.only held
      have call : state.callAfter (.forget 0) = .dropped := by simp [State.callAfter, handlers]
      rw [call]
      refine intake.leave sending (by simp [handlers]) (by simp) ?_ (by simp)
      exact (List.prefix_append _ _).trans intake.part
  | @takeChunk chunk writer running taken =>
      obtain ⟨items, before, -⟩ := Channel.receive_some taken
      have same : state.server.received ++ [chunk] ++ writer.items =
          state.server.received ++ state.server.writer.items := by
        rw [items, List.append_assoc]
        rfl
      refine intake.onward rfl ?_ (fun _ => ⟨before, same⟩) id
      exact same ▸ List.prefix_rfl
  | unpackEnds =>
      refine intake.onward rfl ?_ (by simp) id
      simp
  | join | watchdog => exact intake.onward rfl List.prefix_rfl (fun held => ⟨held, rfl⟩) id
  | forceEof | release =>
      exact intake.onward rfl List.prefix_rfl (fun held => ⟨held, rfl⟩) (by simp)
  | @reported event ok =>
      have kept : (state.server.queue event ok).handlers = state.server.handlers ∧
          (state.server.queue event ok).received = state.server.received ∧
          (state.server.queue event ok).writer = state.server.writer ∧
          (state.server.queue event ok).registered = state.server.registered := by
        cases ok <;> exact ⟨rfl, rfl, rfl, rfl⟩
      obtain ⟨handlers, received, writer, registered⟩ := kept
      refine intake.onward handlers ?_ ?_ ?_
      · simp [received, writer]
      · simp [received, writer]
      · simp [registered]

/-- Every step keeps the intake, if no chunk is handled twice. -/
theorem Intake.step (intake : Intake archive state) (once : action ≠ .handle true)
    (moved : step state action = some next) : Intake archive next := by
  cases step_move moved with
  | client permitted taken => exact intake.client permitted taken
  | server separate taken => exact intake.server separate taken
  | spawn =>
      exact ⟨intake.stream, intake.within, intake.near, intake.idle, intake.single, intake.busy,
        intake.streaming, intake.part, intake.whole⟩
  | again => exact absurd rfl once
  | close =>
      exact ⟨intake.stream, intake.within, intake.near, intake.idle, intake.single, intake.busy,
        intake.streaming, intake.part, by simp⟩
  | deliver | replace =>
      exact ⟨intake.stream, intake.within, intake.near, intake.idle, intake.single, intake.busy,
        intake.streaming, intake.part, intake.whole⟩
  | @handle data next found done =>
      obtain ⟨inside, same⟩ := List.getElem?_eq_some_iff.mp found
      have answered : state.call = .answered := by
        by_contra busy
        have := intake.busy busy
        omega
      have empty := intake.idle (by simp [answered])
      have grown : state.client.posted.take (state.handled + 1) =
          state.client.posted.take state.handled ++ [data] := by
        rw [List.take_add_one, found]
        rfl
      have idle : ¬ (state.client.phase = .announcing ∨ state.client.phase = .streaming) := by
        intro streams
        have := (intake.streaming streams).2
        omega
      have near := intake.near
      rcases receive_some done with ⟨registered, rfl⟩ | ⟨removed, rfl⟩
      · refine ⟨intake.stream, inside, by simp only; omega, by simp, by simp [empty],
          fun _ => by simp only; omega, fun streams => absurd streams idle, ?_,
          fun _ _ receiving => ?_⟩
        · cases receiving : state.server.writer.receiving with
          | true =>
              have whole := intake.whole (by simp [answered]) registered receiving
              simp only [State.pending, receiving, if_true, grown, empty, List.nil_append, ← whole,
                List.append_nil]
              exact List.prefix_rfl
          | false =>
              have part := intake.part
              simp only [State.pending, receiving, Bool.false_eq_true, if_false] at part ⊢
              exact part.trans (grown ▸ List.prefix_append _ _)
        · have whole := intake.whole (by simp [answered]) registered receiving
          simp only [grown, ← whole, empty, List.append_nil, List.nil_append]
      · refine ⟨intake.stream, inside, by simp only; omega, fun _ => empty,
          intake.single, by simp, fun streams => absurd streams idle, ?_, fun _ registered => ?_⟩
        · exact intake.part.trans (grown ▸ List.prefix_append _ _)
        · rw [removed] at registered
          cases registered

end Intake

/-- A stream that has ended well has posted the whole archive, and the compressor has succeeded. -/
structure Complete (history : List PushSession.Action) (client : PushSession.State) : Prop where
  joining : client.phase = .joining → client.archive = []
  ended : client.phase = .closing (.ok ()) ∨ client.phase = .confirming ∨
    client.phase = .returned (.ok ()) → client.archive = [] ∧ .joined none ∈ history

section Complete
variable {history : List PushSession.Action} {client after : PushSession.State}
  {own : PushSession.Action}

theorem Complete.start (archive : List Bytes) : Complete [] (PushSession.start archive) :=
  ⟨by simp [PushSession.start], by simp [PushSession.start]⟩

/-- The stream ends at the end of the archive. -/
theorem archive_of_joining (moved : PushSession.step client .chunk = some after)
    (joining : after.phase = .joining) : after.archive = [] := by
  simp only [PushSession.step] at moved
  split at moved
  · cases moved
    cases joining
  · next empty =>
      cases moved
      exact empty
  · cases moved

theorem Complete.step (complete : Complete history client)
    (moved : PushSession.step client own = some after) : Complete (history ++ [own]) after := by
  have later {archive : List Bytes} (ended : archive = [] ∧ .joined none ∈ history) :
      archive = [] ∧ PushSession.Action.joined none ∈ history ++ [own] :=
    ⟨ended.1, List.mem_append_left _ ended.2⟩
  have onward (event : Option TunnelEvent) {phase : PushSession.Phase}
      (taken : client.phase.onEvent event = some phase) : phase ≠ .joining ∧
        (phase = .closing (.ok ()) ∨ phase = .confirming ∨ phase = .returned (.ok ()) →
          client.archive = [] ∧ PushSession.Action.joined none ∈ history ++ [own]) := by
    rcases PushSession.onEvent_some taken with ⟨-, rfl⟩ | ⟨confirming, rfl⟩
    · rcases PushSession.streamEvent_cases event with ⟨same, -⟩ | ⟨message, same⟩
      · simp [same]
      · simp [same]
    · refine ⟨?_, fun _ => later (complete.ended (.inr (.inl confirming)))⟩
      rcases PushSession.confirmEvent_cases event with ⟨data, -, same⟩ | ⟨-, same⟩ |
        ⟨-, message, same⟩
      · simp [same]
      · simp [same]
      · simp [same]
  cases PushSession.step_move moved with
  | lastChunk => exact ⟨archive_of_joining moved, by simp⟩
  | joined joining => exact ⟨by simp, fun _ => ⟨complete.joining joining, by simp⟩⟩
  | event found taken => exact ⟨fun same => absurd same (onward _ taken).1, (onward _ taken).2⟩
  | lost _ _ taken => exact ⟨fun same => absurd same (onward _ taken).1, (onward _ taken).2⟩
  | closed closing => exact ⟨by simp, fun _ => later (complete.ended (.inl closing))⟩
  | arrive | hangUp => exact ⟨complete.joining, fun ended => later (complete.ended ended)⟩
  | announced | refused | chunk | posted | unposted | unjoined | reported =>
      exact ⟨by simp, by simp⟩

end Complete

section Push
variable {archive : List Bytes} {state next : State} {action : Action}

/-- The session's channel carries some of the relay's events, in order. -/
def Reached (state : State) : Prop :=
  Thinned (state.client.received ++ state.client.events) state.server.queued state.arrived

theorem Reached.start (archive : List Bytes) : Reached (start archive) := Thinned.start

/-- The session takes its events off the channel in order. -/
theorem client_fed {client after : PushSession.State} {own : PushSession.Action}
    (separate : ∀ event, own ≠ .arrive event) (moved : PushSession.step client own = some after) :
    after.received ++ after.events = client.received ++ client.events := by
  cases PushSession.step_move moved with
  | arrive => exact absurd rfl (separate _)
  | event found => simp [found]
  | _ => rfl

/-- The relay's events stay in order when it queues another one. -/
theorem server_queued {server after : PushRelay.State} {own : PushRelay.Action}
    (moved : PushRelay.step server own = some after) : server.queued <+: after.queued := by
  cases PushRelay.step_move moved with
  | @reported event ok =>
      cases ok with
      | true => exact List.prefix_append _ _
      | false => exact List.prefix_rfl
  | _ => exact List.prefix_rfl

theorem receive_queued {data : Bytes} {handled : Nat}
    (done : state.receive data handled = some next) :
    next.client = state.client ∧ next.arrived = state.arrived ∧
      next.server.queued = state.server.queued := by
  rcases receive_some done with ⟨-, rfl⟩ | ⟨-, rfl⟩ <;> exact ⟨rfl, rfl, rfl⟩

theorem Reached.step (reached : Reached state) (moved : step state action = some next) :
    Reached next := by
  cases step_move moved with
  | client permitted taken =>
      unfold Reached
      rw [client_fed (by rintro event rfl; cases permitted) taken]
      exact reached
  | server _ taken => exact Thinned.step reached (.grow (server_queued taken))
  | spawn | close => exact reached
  | handle _ done | again done =>
      obtain ⟨client, arrived, queued⟩ := receive_queued done
      unfold Reached
      rw [client, arrived, queued]
      exact reached
  | deliver found =>
      unfold Reached
      rw [← List.append_assoc]
      exact Thinned.step reached (.deliver found)
  | replace => exact Thinned.lose reached

/-- The session moves by steps of its own, and events arrive. -/
theorem client_run (moved : step state action = some next) : ∃ taken,
    Machine.run PushSession.step state.client taken = some next.client ∧
      ∀ entry ∈ taken, action = .client entry ∨ ∃ event, entry = .arrive event := by
  cases step_move moved with
  | @client own client _ taken =>
      refine ⟨[own], Machine.run_cons.mpr ⟨_, taken, rfl⟩, ?_⟩
      simp
  | @deliver event found registered =>
      have arrives : PushSession.step state.client (.arrive event) = some _ := if_pos registered
      refine ⟨[.arrive event], Machine.run_cons.mpr ⟨_, arrives, rfl⟩, ?_⟩
      simp
  | handle _ done | again done =>
      exact ⟨[], congrArg some (receive_queued done).1.symm, by simp⟩
  | server | spawn | close | replace => exact ⟨[], rfl, by simp⟩

/-- The relay moves by steps of its own. -/
theorem server_run (moved : step state action = some next) :
    ∃ taken, Machine.run PushRelay.step state.server taken = some next.server := by
  have single {own : PushRelay.Action} {server : PushRelay.State}
      (taken : PushRelay.step state.server own = some server) :
      ∃ taken, Machine.run PushRelay.step state.server taken = some server :=
    ⟨[own], Machine.run_cons.mpr ⟨_, taken, rfl⟩⟩
  cases step_move moved with
  | server _ taken => exact single taken
  | handle _ done | again done =>
      obtain ⟨server, taken, rfl⟩ := Option.map_eq_some_iff.mp done
      exact single taken
  | close => exact ⟨[.handleClose], rfl⟩
  | client | spawn | deliver | replace => exact ⟨[], rfl⟩

/-- In every run in which no chunk is handled twice, the unpack task is given a prefix of the
archive, however the two sides, the failures of POSTs and the watchdog interleave. A push that
returns `Ok` has posted the whole archive after its compressor has succeeded, and the unpack task has
succeeded. -/
theorem push_exact {actions : List Action} {final : State}
    (ran : Machine.run step (start archive) actions = some final)
    (once : .handle true ∉ actions) :
    final.server.received <+: archive ∧
    (final.client.phase = .returned (.ok ()) → final.client.posted = archive ∧
      .client (.joined none) ∈ actions ∧ final.server.unpacked = some .ok) := by
  have along : Machine.Along step (fun _ action => action ≠ .handle true) (start archive) actions :=
    (Machine.along_forall_iff ran).mpr fun action member same => once (same ▸ member)
  have intake := Machine.run_along (fun earlier once moved => Intake.step earlier once moved)
    (Intake.start archive) along ran
  have reached := Machine.run_invariant Reached.step (Reached.start archive) ran
  obtain ⟨_, serverRan, -⟩ := Machine.run_component State.server (fun _ _ => True)
    (fun moved => (server_run moved).imp fun _ taken => ⟨taken, fun _ _ => trivial⟩) ran
  have shape := Machine.run_invariant PushRelay.Shape.step PushRelay.Shape.start serverRan
  obtain ⟨taken, clientRan, origins⟩ := Machine.run_component State.client
    (fun (entry : PushSession.Action) action => action = .client entry ∨
      ∃ event, entry = .arrive event) client_run ran
  have sound := Machine.run_invariant PushSession.Sound.step (PushSession.Sound.start archive)
    clientRan
  have complete := Machine.run_history Complete (fun earlier moved => earlier.step moved)
    (Complete.start archive) clientRan
  constructor
  · have given : final.server.received <+: final.client.posted.take final.handled :=
      (List.prefix_append _ _).trans ((List.prefix_append _ _).trans intake.part)
    refine given.trans ((List.take_prefix _ _).trans ?_)
    exact intake.stream ▸ List.prefix_append _ _
  · intro returned
    obtain ⟨empty, joined⟩ := complete.ended (.inr (.inr returned))
    refine ⟨?_, ?_, ?_⟩
    · have stream := intake.stream
      rwa [empty, List.append_nil] at stream
    · obtain ⟨action, member, rfl | ⟨event, same⟩⟩ := origins _ joined
      · exact member
      · cases same
    · obtain ⟨before, received, -⟩ := sound.confirmed returned
      have exits : .exit 0 ∈ final.server.queued := by
        apply (Thinned.part reached).subset
        simp [received]
      rcases shape.queued with none_ | ⟨message, failed⟩ | ⟨-, unpacked⟩
      · simp [none_] at exits
      · simp [failed] at exits
      · exact unpacked

end Push

/-- A push of one chunk that is confirmed. -/
def confirmedPush : List Action :=
  [.spawn, .client (.announced none), .client .chunk, .handle false, .server (.enqueue 0),
    .client (.posted none), .server .takeChunk, .client .chunk, .client (.joined none), .close,
    .client .closed, .server (.unpackEnds .ok), .server .join, .server .release,
    .server (.reported true), .deliver, .client .event]

theorem push_exact_of_confirmedPush : ∃ final,
    Machine.run step (start [[1]]) confirmedPush = some final ∧
      final.client.phase = .returned (.ok ()) ∧ final.server.received = [[1]] ∧
      final.client.posted = [[1]] := by
  obtain ⟨final, ran, same⟩ := Option.map_eq_some_iff.mp (show
    (Machine.run step (start [[1]]) confirmedPush).map (fun final =>
      (final.client.phase, final.server.received)) =
    some (.returned (.ok ()), [[1]]) by decide +kernel)
  rw [Prod.mk.injEq] at same
  exact ⟨final, ran, same.1, same.2, ((push_exact ran (by simp [confirmedPush])).2 same.1).1⟩

end Tunnix.PushTransfer
