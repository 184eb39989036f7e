import Tunnix.Client.RelayNotice
import Tunnix.Client.RelayEnd

namespace Tunnix.ClientRelay

/-- A connection that nothing disturbs sees only data and its end. -/
def quietEvent : TunnelEvent → Bool
  | .data _ | .close => true
  | .error _ | .exit _ => false

/-- These actions are no failure of a socket, of a POST or of the dispatch channel. -/
def Action.quiet : Action → Bool
  | .event arriving => quietEvent arriving
  | .dropChannel | .readError | .sent false | .closed false | .writeFails | .shutdown false => false
  | .readStop | .readApp _ | .readEof | .sent true | .closed true | .takeEvent | .takeUpload
  | .writeSome _ | .shutdown true | .finish => true

/-- An undisturbed relay has no failure to signal, and each half ends by its EOF alone. -/
structure Calm (state : State) : Prop where
  events : ∀ event ∈ state.arrived, quietEvent event = true
  healthy : state.failed = false
  reading : ∀ outcome, state.read = .ended outcome → outcome = .eof
  writing : ∀ abort, state.write = .ended abort →
    state.responseClosed = true ∧ state.uploadEnded = true
  registered : state.returned = false → state.registered = true
  standing : state.app.broken = false

theorem Calm.start : Calm start where
  events := nofun
  healthy := rfl
  reading := nofun
  writing := nofun
  registered _ := rfl
  standing := rfl

/-- An undisturbed relay never receives its stop signal while it reads. -/
theorem Calm.unstopped {connId : ConnId} {state : State} (calm : Calm state)
    (ordered : Ordered connId state) (reading : state.read = .selecting) :
    state.stop = .waiting := by
  apply (ordered.stopping.hearing ?_).2.1
  unfold State.hearing
  cases write : state.write with
  | selecting | writing | shuttingDown => rfl
  | ended abort =>
      obtain ⟨-, ceased⟩ := calm.writing abort write
      obtain ⟨outcome, ended⟩ := ordered.reporting.ended ceased
      rw [reading] at ended
      cases ended

/-- The event that an undisturbed write half takes is data or the end. -/
theorem Calm.taken {state : State} (calm : Calm state) (arrival : Arrival state)
    {event : TunnelEvent} {events : Channel connChannelCapacity TunnelEvent}
    (received : state.events.receive = some (event, events)) : quietEvent event = true := by
  obtain ⟨oldest, held, -⟩ := Channel.receive_some received
  apply calm.events
  rw [arrival.queued held, oldest]
  simp

/-- The read half of an undisturbed relay moves on. -/
theorem Calm.read {state next : State} (calm : Calm state) (events : next.arrived = state.arrived)
    (healthy : next.failed = state.failed)
    (reading : ∀ outcome, next.read = .ended outcome → outcome = .eof)
    (write : next.write = state.write) (closed : next.responseClosed = state.responseClosed)
    (ceased : next.uploadEnded = state.uploadEnded) (returned : next.returned = state.returned)
    (registered : next.registered = state.registered) (app : next.app = state.app) :
    Calm next := by
  refine ⟨?_, healthy.trans calm.healthy, reading, ?_, ?_, ?_⟩
  · rw [events]
    exact calm.events
  · rw [write, closed, ceased]
    exact calm.writing
  · rw [returned, registered]
    exact calm.registered
  · rw [app]
    exact calm.standing

/-- The write half of an undisturbed relay moves on. -/
theorem Calm.write {state next : State} (calm : Calm state)
    (events : next.arrived = state.arrived) (healthy : next.failed = state.failed)
    (read : next.read = state.read)
    (writing : ∀ abort, next.write = .ended abort →
      next.responseClosed = true ∧ next.uploadEnded = true)
    (returned : next.returned = state.returned)
    (registered : next.registered = state.registered)
    (standing : next.app.broken = state.app.broken) : Calm next := by
  refine ⟨?_, healthy.trans calm.healthy, ?_, writing, ?_, standing.trans calm.standing⟩
  · rw [events]
    exact calm.events
  · rw [read]
    exact calm.reading
  · rw [returned, registered]
    exact calm.registered

/-- Handling data or the end keeps the relay undisturbed. -/
theorem Calm.handle {state : State} (calm : Calm state) (selecting : state.write = .selecting)
    {event : TunnelEvent} (events : Channel connChannelCapacity TunnelEvent)
    (quiet : quietEvent event = true) : Calm ((state.receive event events).handle event) := by
  cases event with
  | data bytes =>
      cases bytes with
      | nil =>
          refine calm.write rfl rfl rfl ?_ rfl rfl rfl
          intro abort ended
          rw [show state.write = .ended abort from ended] at selecting
          cases selecting
      | cons byte rest => exact calm.write rfl rfl rfl nofun rfl rfl rfl
  | close => exact calm.write rfl rfl rfl nofun rfl rfl rfl
  | error | exit => cases quiet

/-- Every quiet step keeps the relay undisturbed. -/
theorem Calm.step {connId : ConnId} {state next : State} {action : Action} (calm : Calm state)
    (ordered : Ordered connId state) (arrival : Arrival state) (quiet : action.quiet = true)
    (moved : step connId state action = some next) : Calm next := by
  cases step_move moved with
  | @event event events registered _ =>
      refine ⟨?_, calm.healthy, calm.reading, calm.writing, calm.registered, calm.standing⟩
      intro arrived member
      rcases List.mem_append.mp member with earlier | last
      · exact calm.events arrived earlier
      · rw [List.mem_singleton.mp last]
        exact quiet
  | dropChannel | readError | sendFailed | writeFails => cases quiet
  | readStop reading signal =>
      rw [calm.unstopped ordered reading] at signal
      rcases signal with sent | ⟨dropped, -⟩ <;> contradiction
  | readApp | readEof | sent => exact calm.read rfl rfl nofun rfl rfl rfl rfl rfl rfl
  | closed =>
      refine calm.read rfl rfl ?_ rfl rfl rfl rfl rfl rfl
      rintro outcome ⟨⟩
      rfl
  | takeEvent selecting received => exact calm.handle selecting _ (calm.taken arrival received)
  | channelGone selecting _ gone =>
      have returned : state.returned = true := by
        by_contra running
        rw [calm.registered (Bool.eq_false_iff.mpr running)] at gone
        cases gone
      obtain ⟨abort, ended⟩ := ordered.response.finished returned
      rw [selecting] at ended
      cases ended
  | @takeUpload reported selecting _ _ _ signal =>
      have sent := signal.resolve_right fun dropped => ordered.reporting.held dropped.1
      obtain ⟨outcome, ended, failed⟩ := ordered.reporting.upload reported sent
      have eof : reported = .eof := by
        cases reported with
        | eof => rfl
        | failed => cases (calm.reading outcome ended).symm.trans (failed.mp rfl)
      subst eof
      unfold State.handleUpload
      dsimp only
      split
      · next closed => exact calm.write rfl rfl rfl (fun _ _ => ⟨closed, rfl⟩) rfl rfl rfl
      · refine calm.write rfl rfl rfl ?_ rfl rfl rfl
        intro abort ceased
        rw [show state.write = .ended abort from ceased] at selecting
        cases selecting
  | writeSome | writeAll => exact calm.write rfl rfl rfl nofun rfl rfl rfl
  | @shutdown ok app _ _ result _ =>
      cases ok with
      | false => cases quiet
      | true => exact calm.write rfl rfl rfl nofun rfl rfl (by rw [result]; rfl)
  | @shutdownLast ok app shutting ceased result _ =>
      cases ok with
      | false => cases quiet
      | true =>
          have closed : state.responseClosed = true := by
            by_contra open_
            exact (ordered.response.unclosed (Bool.eq_false_iff.mpr open_)).not_shutting shutting
          exact calm.write rfl rfl rfl (fun _ _ => ⟨closed, ceased⟩) rfl rfl (by rw [result]; rfl)
  | @finish outcome abort _ _ _ =>
      refine ⟨calm.events, calm.healthy, calm.reading, calm.writing, nofun, ?_⟩
      cases abort <;> exact calm.standing

/-- An undisturbed relay posts no `Abort`. -/
theorem Calm.no_abort {connId : ConnId} {state : State} (calm : Calm state)
    (ordered : Ordered connId state) : .abort connId ∉ state.posts := by
  rw [ordered.reporting.aborted]
  rintro (failed | stopped)
  · cases calm.reading _ failed
  · cases calm.reading _ stopped

/-- Only an arriving event extends the history of arrivals. -/
theorem arrived_same {connId : ConnId} {state next : State} {action : Action}
    (moved : step connId state action = some next) (inner : ∀ event, action ≠ .event event) :
    next.arrived = state.arrived := by
  cases step_move moved with
  | event => exact absurd rfl (inner _)
  | @takeEvent event events _ _ => exact ((state.receive event events).handle_queue event).1
  | @takeUpload reported _ _ _ _ _ =>
      exact (State.handleUpload_queue { state with uploadEnded := true, upload := .taken }
        reported).1
  | dropChannel | readStop | readApp | readEof | readError | sent | sendFailed | closed |
    channelGone | writeSome | writeAll | writeFails | shutdown | shutdownLast | finish => rfl

end Tunnix.ClientRelay
