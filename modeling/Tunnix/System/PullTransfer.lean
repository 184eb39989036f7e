import Tunnix.Client.PullSession
import Tunnix.Server.Grammar
import Tunnix.Library.Feed

namespace Tunnix.PullTransfer

/-- A pull joins a session of the client with a relay of the server and its compressor. This many events
of the relay have reached the session's channel or are lost. -/
structure State where
  client : PullSession.State
  server : PullArchive.State
  spawned : Bool
  arrived : Nat

def start : State where
  client := PullSession.start
  server := PullArchive.start
  spawned := false
  arrived := 0

/-- The two sides take their own steps, the server spawns the relay, and the relay's next event reaches
the session. A lost or replaced stream takes the events with it that have not arrived, also one that a
delivery queues on it afterwards. -/
inductive Action where
  | client (action : PullSession.Action)
  | server (action : PullArchive.Action)
  | spawn
  | deliver
  | replace

/-- The session is acknowledged by the server that has spawned the relay, and events reach it through
`deliver` alone. -/
def State.permits (state : State) : PullSession.Action → Bool
  | .announced none => state.spawned
  | .arrive _ => false
  | .announced (some _) | .receive | .feed | .posted | .join | .hangUp | .takeChunk
  | .unpackEnds _ => true

/-- The pull moves by one action, or refuses one that its state does not allow. -/
def step (state : State) : Action → Option State
  | .client action =>
      if state.permits action then
        (PullSession.step state.client action).map fun client => { state with client }
      else none
  | .server action =>
      if state.spawned then
        (PullArchive.step state.server action).map fun server => { state with server }
      else none
  | .spawn => some { state with spawned := true }
  | .deliver =>
      match state.server.relay.queued[state.arrived]? with
      | some event => (PullSession.step state.client (.arrive event)).map fun client =>
          { state with client, arrived := state.arrived + 1 }
      | none => none
  | .replace => some { state with arrived := state.server.relay.queued.length }

/-- A stream is lost or replaced only when all events have arrived. -/
def Intact (state : State) : Action → Prop
  | .replace => state.arrived = state.server.relay.queued.length
  | .client _ | .server _ | .spawn | .deliver => True

instance (state : State) : (action : Action) → Decidable (Intact state action)
  | .replace => inferInstanceAs (Decidable (_ = _))
  | .client _ | .server _ | .spawn | .deliver => isTrue trivial

/-- The session or the relay moves, or the relay's next events reach the session or are lost. -/
inductive Move (state : State) : Action → State → Prop
  | client {own client} : (∀ event, own ≠ .arrive event) →
      PullSession.step state.client own = some client → Move state (.client own) { state with client }
  | server {own server} : PullArchive.step state.server own = some server →
      Move state (.server own) { state with server }
  | spawn : Move state .spawn { state with spawned := true }
  | replace : Move state .replace { state with arrived := state.server.relay.queued.length }
  | deliver {event} : state.server.relay.queued[state.arrived]? = some event →
      state.client.registered = true →
      Move state .deliver { state with
        client := { state.client with events := state.client.events ++ [event] }
        arrived := state.arrived + 1 }

variable {state next : State} {action : Action}

/-- Each accepted action is one of the possible steps. -/
theorem step_move (moved : step state action = some next) : Move state action next := by
  cases action with
  | client own =>
      rw [step, Option.ite_none_right_eq_some] at moved
      obtain ⟨permitted, moved⟩ := moved
      obtain ⟨client, taken, rfl⟩ := Option.map_eq_some_iff.mp moved
      refine .client (fun event arrives => ?_) taken
      rw [arrives] at permitted
      cases permitted
  | server own =>
      rw [step, Option.ite_none_right_eq_some] at moved
      obtain ⟨server, taken, rfl⟩ := Option.map_eq_some_iff.mp moved.2
      exact .server taken
  | spawn =>
      cases moved
      exact .spawn
  | replace =>
      cases moved
      exact .replace
  | deliver =>
      simp only [step] at moved
      split at moved
      · next found =>
          obtain ⟨client, taken, rfl⟩ := Option.map_eq_some_iff.mp moved
          cases PullSession.step_move taken with
          | arrive registered => exact .deliver found registered
      · contradiction

/-- The session's channel carries the relay's events in order. -/
def Fed (state : State) : Prop :=
  Feed (state.client.received ++ state.client.events) state.server.relay.queued state.arrived

/-- The session's channel carries some of the relay's events, in order. -/
def Reached (state : State) : Prop :=
  Thinned (state.client.received ++ state.client.events) state.server.relay.queued state.arrived

theorem Fed.start : Fed start := Feed.start

theorem Reached.start : Reached start := Thinned.start

/-- The session takes its events off the channel in order. -/
theorem client_fed {client after : PullSession.State} {own : PullSession.Action}
    (separate : ∀ event, own ≠ .arrive event) (moved : PullSession.step client own = some after) :
    after.received ++ after.events = client.received ++ client.events := by
  cases PullSession.step_move moved with
  | arrive => exact absurd rfl (separate _)
  | receive receiving arrived =>
      rw [arrived, List.append_assoc]
      rfl
  | _ => rfl

/-- The relay's events stay in order when it queues another one. -/
theorem server_queued {server after : PullArchive.State} {own : PullArchive.Action}
    (moved : PullArchive.step server own = some after) :
    server.relay.queued <+: after.relay.queued := by
  cases PullArchive.step_move moved with
  | @delivered chunk ok | @reported event ok =>
      cases ok with
      | true => exact List.prefix_append _ _
      | false => exact List.prefix_rfl
  | _ => exact List.prefix_rfl

/-- A step moves the events on, or a stream takes those with it that have not arrived. -/
theorem feed_move (moved : step state action = some next) :
    Feed.Move (state.client.received ++ state.client.events) state.server.relay.queued state.arrived
      (next.client.received ++ next.client.events) next.server.relay.queued next.arrived ∨
    action = .replace ∧ next = { state with arrived := state.server.relay.queued.length } := by
  cases step_move moved with
  | client separate taken =>
      rw [client_fed separate taken]
      exact .inl (.grow List.prefix_rfl)
  | server taken => exact .inl (.grow (server_queued taken))
  | spawn => exact .inl (.grow List.prefix_rfl)
  | replace => exact .inr ⟨rfl, rfl⟩
  | deliver found =>
      rw [← List.append_assoc]
      exact .inl (.deliver found)

/-- Every step that loses nothing keeps the channel fed. -/
theorem Fed.step (fed : Fed state) (intact : Intact state action)
    (moved : step state action = some next) : Fed next := by
  rcases feed_move moved with move | ⟨rfl, rfl⟩
  · exact Feed.step fed move
  · have same : state.arrived = state.server.relay.queued.length := intact
    unfold Fed
    rw [← same]
    exact fed

/-- Every step keeps the events in order. -/
theorem Reached.step (reached : Reached state) (moved : step state action = some next) :
    Reached next := by
  rcases feed_move moved with move | ⟨-, rfl⟩
  · exact Thinned.step reached move
  · exact Thinned.lose reached

/-- Every step keeps the session sound. -/
theorem sound_step (sound : PullSession.Sound state.client) (moved : step state action = some next) :
    PullSession.Sound next.client := by
  cases step_move moved with
  | client separate taken => exact sound.step taken
  | server | spawn | replace => exact sound
  | @deliver event found registered =>
      have arrives : PullSession.step state.client (.arrive event) = some _ := if_pos registered
      exact sound.step arrives

/-- The relay and its compressor move by steps of their own. -/
theorem server_run (moved : step state action = some next) : ∃ taken,
    Machine.run PullArchive.step state.server taken = some next.server ∧
      ∀ entry ∈ taken, action = .server entry := by
  cases step_move moved with
  | @server own server taken =>
      refine ⟨[own], Machine.run_cons.mpr ⟨_, taken, rfl⟩, fun entry member => ?_⟩
      rw [List.mem_singleton.mp member]
  | client | spawn | replace | deliver => exact ⟨[], rfl, nofun⟩

/-- A pull of two chunks is confirmed. The compressor emits the second one while the relay delivers the
first one, and the stream is replaced between the two. -/
def confirmedPull : List Action :=
  [.spawn, .client (.announced none), .server (.begin [1]), .server .write, .server .receive,
    .server (.begin [2, 3]), .server .write, .server (.delivered true), .deliver, .replace,
    .client .receive, .client .feed, .client .takeChunk, .server (.finish .ok), .server .receive,
    .server (.delivered true), .deliver, .client .receive, .client .feed, .client .takeChunk,
    .server .endOfChunks, .server .join, .server (.reported true), .deliver, .client .receive,
    .client (.unpackEnds .ok), .client .posted, .client .join]

end Tunnix.PullTransfer
