import Tunnix.Client.PushSession
import Tunnix.Server.Grammar
import Mathlib.Data.List.Nodup

namespace Tunnix.PushConfirm

/-- A push joins a session of the client with a relay of the server. This many events of the relay have
reached the session's channel. -/
structure State where
  client : PushSession.State
  server : PushRelay.State
  arrived : Nat
deriving DecidableEq

def start (archive : List Bytes) : State := ⟨PushSession.start archive, PushRelay.start, 0⟩

/-- The two sides take their own steps, and the next event of the relay reaches the session. -/
inductive Action where
  | client (action : PushSession.Action)
  | server (action : PushRelay.Action)
  | deliver
deriving DecidableEq, Repr

/-- The session posts its `Close` once its stream has ended. -/
def closes : PushSession.Phase → Bool
  | .closing _ | .confirming | .returned _ => true
  | .announcing | .streaming | .posting _ | .joining => false

/-- The server handles what the session has posted, at any time and any number of times. -/
def State.permits (state : State) : PushRelay.Action → Bool
  | .handleData data => decide (data ∈ state.client.posted)
  | .handleClose => closes state.client.phase
  | .handleAbort => false
  | .enqueue _ | .forget _ | .takeChunk | .unpackEnds _ | .join | .watchdog | .forceEof | .release
  | .reported _ => true

/-- Events reach the session through `deliver` alone. -/
def clientOwn : PushSession.Action → Bool
  | .arrive _ => false
  | .announced _ | .chunk | .posted _ | .joined _ | .event | .closed | .hangUp => true

/-- The push moves by one action, or refuses one that its state does not allow. -/
def step (state : State) : Action → Option State
  | .client action =>
      if clientOwn action then
        (PushSession.step state.client action).map fun client => { state with client }
      else none
  | .server action =>
      if state.permits action then
        (PushRelay.step state.server action).map fun server => { state with server }
      else none
  | .deliver =>
      match state.server.queued[state.arrived]? with
      | some event => (PushSession.step state.client (.arrive event)).map fun client =>
          { state with client, arrived := state.arrived + 1 }
      | none => none

/-- The session or the relay moves, or the relay's next event reaches the session. -/
inductive Move (state : State) : Action → State → Prop
  | client {own client} : clientOwn own = true → PushSession.step state.client own = some client →
      Move state (.client own) { state with client }
  | server {action server} : PushRelay.step state.server action = some server →
      Move state (.server action) { state with server }
  | deliver {event} : state.server.queued[state.arrived]? = some event →
      state.client.registered = true →
      Move state .deliver { state with
        client := { state.client with events := state.client.events ++ [event] }
        arrived := state.arrived + 1 }

/-- Each accepted action is one of the possible steps. -/
theorem step_move {state next : State} {action : Action}
    (moved : step state action = some next) : Move state action next := by
  cases action with
  | client own =>
      rw [step, Option.ite_none_right_eq_some] at moved
      obtain ⟨separate, moved⟩ := moved
      obtain ⟨client, taken, rfl⟩ := Option.map_eq_some_iff.mp moved
      exact .client separate taken
  | server action =>
      rw [step, Option.ite_none_right_eq_some] at moved
      obtain ⟨server, taken, rfl⟩ := Option.map_eq_some_iff.mp moved.2
      exact .server taken
  | deliver =>
      simp only [step] at moved
      split at moved
      · next found =>
          obtain ⟨client, taken, rfl⟩ := Option.map_eq_some_iff.mp moved
          cases PushSession.step_move taken with
          | arrive registered => exact .deliver found registered
      · contradiction

/-- The session's own steps. -/
def Action.own : Action → Bool
  | .client action => action.own
  | .server _ | .deliver => false

/-- No POST of the session fails, and neither does its compressor. -/
def Action.smooth : Action → Bool
  | .client action => action.smooth
  | .server _ | .deliver => true

/-- The streaming loop of the session takes no exit status 0 off its channel. -/
def Heard (state : State) : Action → Prop
  | .client action => PushSession.Heard state.client action
  | .server _ | .deliver => True

instance (state : State) : (action : Action) → Decidable (Heard state action)
  | .client action => inferInstanceAs (Decidable (PushSession.Heard state.client action))
  | .server _ | .deliver => isTrue trivial

/-- The session has taken the exit status 0, but it has not returned `Ok`. -/
def Missed (state : State) : Prop :=
  .exit 0 ∈ state.client.received ∧ state.client.phase ≠ .returned (.ok ())

/-- The session's channel carries the relay's events in order, and the relay queues its reports in
order. -/
structure Fed (state : State) : Prop where
  fed : state.client.received ++ state.client.events = state.server.queued.take state.arrived
  within : state.arrived ≤ state.server.queued.length
  shape : PushRelay.Shape state.server

section Fed
variable {state next : State} {action : Action}

theorem Fed.start (archive : List Bytes) : Fed (start archive) := ⟨rfl, Nat.le_refl _, .start⟩

/-- The session takes its events off the channel in order. -/
theorem client_fed {client after : PushSession.State} {action : PushSession.Action}
    (own : clientOwn action = true) (moved : PushSession.step client action = some after) :
    after.received ++ after.events = client.received ++ client.events := by
  cases PushSession.step_move moved with
  | arrive => contradiction
  | event arrived =>
      rw [arrived, List.append_assoc]
      rfl
  | _ => rfl

/-- The relay's events stay in order when it queues another one. -/
theorem server_queued {server after : PushRelay.State} {action : PushRelay.Action}
    (moved : PushRelay.step server action = some after) : server.queued <+: after.queued := by
  cases PushRelay.step_move moved with
  | @reported event ok =>
      cases ok with
      | true => exact List.prefix_append _ _
      | false => exact List.prefix_rfl
  | _ => exact List.prefix_rfl

/-- Every step keeps the channel fed. -/
theorem Fed.step (fed : Fed state) (moved : step state action = some next) : Fed next := by
  cases step_move moved with
  | client own taken => exact ⟨(client_fed own taken).trans fed.fed, fed.within, fed.shape⟩
  | server taken =>
      obtain ⟨more, queued⟩ := server_queued taken
      refine ⟨?_, ?_, fed.shape.step taken⟩
      · rw [← queued, List.take_append_of_le_length fed.within]
        exact fed.fed
      · rw [← queued, List.length_append]
        exact Nat.le_add_right_of_le fed.within
  | deliver found =>
      obtain ⟨inside, same⟩ := List.getElem?_eq_some_iff.mp found
      refine ⟨?_, inside, fed.shape⟩
      rw [List.take_add_one, found, ← List.append_assoc, fed.fed]
      rfl

/-- The relay queues no event twice. -/
theorem queued_nodup {server : PushRelay.State} (shape : PushRelay.Shape server) :
    server.queued.Nodup := by
  rcases shape.queued with none_ | ⟨message, failed⟩ | ⟨exited | exited, -⟩
  · rw [none_]
    exact List.nodup_nil
  · rw [failed]
    exact List.nodup_singleton _
  · rw [exited]
    exact List.nodup_singleton _
  · rw [exited]
    decide

/-- An event that was received does not come again. -/
theorem Fed.once (fed : Fed state) {event : TunnelEvent} (received : event ∈ state.client.received) :
    event ∉ state.client.events := by
  have nodup : (state.client.received ++ state.client.events).Nodup := by
    rw [fed.fed]
    exact (queued_nodup fed.shape).sublist (List.take_sublist _ _)
  exact List.disjoint_of_nodup_append nodup received

/-- The session takes a step, or the step does not concern what it has received. -/
theorem step_client (moved : step state action = some next) :
    (∃ own, action = .client own ∧ PushSession.step state.client own = some next.client) ∨
      (∀ own, action ≠ .client own) ∧ next.client.received = state.client.received ∧
        next.client.phase = state.client.phase := by
  cases step_move moved with
  | client own taken => exact .inl ⟨_, rfl, taken⟩
  | server | deliver => exact .inr ⟨by simp, rfl, rfl⟩

/-- A session that has missed its confirmation never returns `Ok`. -/
theorem Fed.missed_step (fed : Fed state) (missed : Missed state)
    (moved : PushConfirm.step state action = some next) : Missed next := by
  obtain ⟨received, failed⟩ := missed
  rcases step_client moved with ⟨own, rfl, taken⟩ | ⟨-, same, phase⟩
  · rcases PushSession.step_received taken with ⟨same, back⟩ |
      ⟨rfl, event, events, arrived, more, handled⟩
    · exact ⟨same ▸ received, fun returned => failed (back returned)⟩
    · refine ⟨more ▸ List.mem_append_left _ received, fun returned => ?_⟩
      rw [returned] at handled
      obtain ⟨-, found⟩ := PushSession.onEvent_ok.mp handled
      rw [Option.some.inj found] at arrived
      exact fed.once received (arrived ▸ List.mem_cons_self)
  · exact ⟨same ▸ received, phase ▸ failed⟩

/-- The confirmation is missed exactly if the streaming loop takes it. -/
theorem missed_iff (heard : ¬ Missed state) (moved : step state action = some next) :
    Missed next ↔ ¬ Heard state action := by
  constructor
  · rintro ⟨received, failed⟩ admitted
    by_cases before : .exit 0 ∈ state.client.received
    · have returned : state.client.phase = .returned (.ok ()) :=
        not_not.mp fun failed => heard ⟨before, failed⟩
      rcases step_client moved with ⟨own, rfl, taken⟩ | ⟨-, -, phase⟩
      · exact failed ((PushSession.step_returned returned taken).trans returned)
      · exact failed (phase.trans returned)
    · rcases step_client moved with ⟨own, rfl, taken⟩ | ⟨-, same, -⟩
      · rcases PushSession.step_received taken with ⟨same, -⟩ |
          ⟨rfl, event, events, arrived, more, handled⟩
        · exact before (same ▸ received)
        · rw [more, List.mem_append, List.mem_singleton] at received
          obtain rfl := received.resolve_left before
          rcases PushSession.onEvent_some handled with ⟨streaming, -⟩ | ⟨-, phase⟩
          · exact admitted streaming (by rw [arrived]; rfl)
          · exact failed phase
      · exact before (same ▸ received)
  · intro missed
    cases action with
    | server | deliver => exact absurd trivial missed
    | client own =>
        cases own with
        | event =>
            obtain ⟨streaming, first⟩ := Classical.not_imp.mp missed
            obtain ⟨events, arrived⟩ := List.head?_eq_some_iff.mp (not_not.mp first)
            rw [step, Option.ite_none_right_eq_some] at moved
            obtain ⟨-, moved⟩ := moved
            simp only [PushSession.step, arrived, streaming, PushSession.Phase.onEvent,
              PushSession.streamEvent, Option.map_some, Option.some.injEq] at moved
            subst moved
            exact ⟨List.mem_append_right _ (List.mem_singleton_self _), by simp⟩
        | announced | chunk | posted | joined | closed | arrive | hangUp => exact absurd trivial missed

/-- Every step of the push keeps its session sound. -/
theorem sound_step (sound : PushSession.Sound state.client)
    (moved : step state action = some next) : PushSession.Sound next.client := by
  cases step_move moved with
  | client own taken => exact sound.step taken
  | server => exact sound
  | deliver => exact ⟨sound.goes, sound.confirmed⟩

/-- Every step that succeeds keeps the session calm. -/
theorem calm_step (calm : PushSession.Calm state.client) (smooth : action.smooth = true)
    (moved : step state action = some next) : PushSession.Calm next.client := by
  cases step_move moved with
  | client own taken => exact calm.step smooth taken
  | server => exact calm
  | @deliver event found registered =>
      have arrives : PushSession.step state.client (.arrive event) = some _ := if_pos registered
      exact calm.step rfl arrives

/-- A step of the session leaves fewer before it, and each arrival adds one. -/
theorem steps_step (moved : step state action = some next) :
    next.client.steps + (if action.own then 1 else 0) + state.arrived ≤
      state.client.steps + next.arrived := by
  cases step_move moved with
  | @client own client separate taken =>
      cases owns : own.own with
      | true =>
          have fewer := PushSession.steps_own owns taken
          simp only [Action.own, owns, if_true]
          omega
      | false =>
          cases own with
          | hangUp =>
              cases taken
              exact Nat.le_refl _
          | arrive | announced | chunk | posted | joined | event | closed => contradiction
  | server => exact Nat.le_refl _
  | deliver =>
      simp only [Action.own, PushSession.State.steps, List.length_append, List.length_singleton,
        Bool.false_eq_true, if_false]
      omega

/-- A session that has both reports on its channel returns `Ok` unless it misses the first one. -/
theorem Fed.returned_iff (fed : Fed state) (calm : PushSession.Calm state.client)
    (reached : state.server.queued.take state.arrived = [.exit 0, .close])
    (waits : PushSession.Waits state.client) :
    state.client.phase = .returned (.ok ()) ↔ ¬ Missed state := by
  constructor
  · exact fun returned missed => missed.2 returned
  · intro heard
    have both := fed.fed.trans reached
    by_cases received : .exit 0 ∈ state.client.received
    · exact not_not.mp fun failed => heard ⟨received, failed⟩
    · -- Nothing was received, so the session still waits for an event that is there.
      have silent : state.client.received = [] := by
        cases first : state.client.received with
        | nil => rfl
        | cons event rest =>
            rw [first, List.cons_append, List.cons.injEq] at both
            rw [first, both.1] at received
            exact absurd List.mem_cons_self received
      rw [silent, List.nil_append] at both
      have empty : state.client.events = [] :=
        (calm silent).elim (fun goes => PushSession.waits_empty goes waits) And.right
      rw [empty] at both
      cases both

end Fed

/-- In every run, a push that returns `Ok` has received the exit status 0 before any `Close` or `Error`,
and its session takes boundedly many steps. If no POST and no compression fails and the relay's exit
status 0 and `Close` have both reached the session, then the session has returned `Ok` at the end
exactly if its streaming loop did not take the exit status. -/
theorem push_confirmed_iff {archive : List Bytes} {actions : List Action} {final : State}
    (ran : Machine.run step (start archive) actions = some final) :
    (final.client.phase = .returned (.ok ()) → ∃ before,
      final.client.received = before ++ [.exit 0] ∧
        ∀ event ∈ before, PushSession.harmless event = true) ∧
    actions.countP Action.own ≤ 2 * archive.length + 5 + final.arrived ∧
    ((∀ action ∈ actions, action.smooth = true) →
      final.server.queued.take final.arrived = [.exit 0, .close] →
      PushSession.Waits final.client →
      (final.client.phase = .returned (.ok ()) ↔
        Machine.Along step Heard (start archive) actions)) := by
  have fed := Machine.run_invariant Fed.step (Fed.start archive) ran
  refine ⟨?_, ?_, fun smooth reached waits => ?_⟩
  · exact (Machine.run_invariant sound_step (PushSession.Sound.start archive) ran).confirmed
  · have bounded := Machine.run_history
      (fun history state => history.countP Action.own + state.client.steps ≤
        2 * archive.length + 5 + state.arrived) ?_ ?_ ran
    · exact Nat.le_trans (Nat.le_add_right _ _) bounded
    · intro history state action next before moved
      have onward := steps_step moved
      rw [List.countP_append, List.countP_singleton]
      omega
    · simp [start, PushSession.start, PushSession.State.steps, PushSession.Phase.steps]
      omega
  · have along : Machine.Along step (fun _ action => action.smooth = true) (start archive) actions :=
      Machine.along_of_forall (fun action member _ => smooth action member) _
    have begun : PushSession.Calm (start archive).client := fun _ => .inl rfl
    have calm := Machine.run_along calm_step begun along ran
    rw [fed.returned_iff calm reached waits]
    have both {state next : State} {action : Action} (before : Fed state) (missed : Missed state)
        (moved : step state action = some next) : Missed next := before.missed_step missed moved
    refine Machine.along_iff Fed.step both (fun _ => missed_iff) (Fed.start archive) ?_ ran
    rintro ⟨received, -⟩
    exact List.not_mem_nil received

/-- The server unpacks the only chunk, and its exit status is on its way. -/
def unpackedEarly : List Action :=
  [.client (.announced none), .client .chunk, .server (.handleData [1]), .server (.enqueue 0),
    .client (.posted none), .server .takeChunk, .server (.unpackEnds .ok), .server .join,
    .server .release, .server (.reported true), .deliver]

/-- The session finds the end of the archive before it looks at its channel. -/
theorem push_confirmed_of_order : ∃ final, Machine.run step (start [[1]])
      (unpackedEarly ++ [.client .chunk, .client (.joined none), .client .closed,
        .server (.reported true), .deliver, .client .event]) = some final ∧
    final.client.phase = .returned (.ok ()) := by
  obtain ⟨final, ran, same⟩ := Option.map_eq_some_iff.mp (show (Machine.run step (start [[1]])
      (unpackedEarly ++ [.client .chunk, .client (.joined none), .client .closed,
        .server (.reported true), .deliver, .client .event])).map (fun final =>
    (final.client.phase, final.server.queued.take final.arrived)) =
      some (.returned (.ok ()), [.exit 0, .close]) by decide +kernel)
  rw [Prod.mk.injEq] at same
  obtain ⟨phase, reached⟩ := same
  have waits : PushSession.Waits final.client := by
    intro action own
    cases action with
    | event =>
        cases events : final.client.events <;>
          simp [PushSession.step, phase, events, PushSession.Phase.onEvent]
    | announced | chunk | posted | joined | closed => simp [PushSession.step, phase]
    | arrive | hangUp => cases own
  exact ⟨final, ran, ((push_confirmed_iff ran).2.2 (by decide) reached waits).mpr (by decide)⟩

/-- The session takes the exit status in its streaming loop, although the end of the archive is there
as well, and then it finds the `Close` alone. -/
theorem early_confirmation_lost : ∃ final, Machine.run step (start [[1]])
      (unpackedEarly ++ [.client .event, .client .chunk, .client (.joined none), .client .closed,
        .server (.reported true), .deliver, .client .event]) = some final ∧
    (∀ action ∈ unpackedEarly ++ [.client .event, .client .chunk, .client (.joined none),
      .client .closed, .server (.reported true), .deliver, .client .event], action.smooth = true) ∧
    final.server.unpacked = some .ok ∧
    final.server.queued.take final.arrived = [.exit 0, .close] ∧
    final.client.phase =
      .returned (.error "connection closed before the server confirmed the transfer") := by
  obtain ⟨final, ran, same⟩ := Option.map_eq_some_iff.mp (show (Machine.run step (start [[1]])
      (unpackedEarly ++ [.client .event, .client .chunk, .client (.joined none), .client .closed,
        .server (.reported true), .deliver, .client .event])).map (fun final =>
    (final.server.unpacked, final.server.queued.take final.arrived, final.client.phase)) =
      some (some .ok, [.exit 0, .close],
        .returned (.error "connection closed before the server confirmed the transfer")) by
        decide +kernel)
  rw [Prod.mk.injEq, Prod.mk.injEq] at same
  exact ⟨final, ran, by decide, same.1, same.2.1, same.2.2⟩

end Tunnix.PushConfirm
