import Tunnix.Client.RelayResponse

namespace Tunnix.ClientRelay

/-- The write half handles the events that reached the relay in their order of arrival. -/
structure Arrival (state : State) : Prop where
  handled : state.processed <+: state.arrived
  queued : state.events.receiving = true → state.arrived = state.processed ++ state.events.items

/-- A run begins before any event has arrived. -/
theorem Arrival.start : Arrival start := ⟨List.prefix_refl _, fun _ => rfl⟩

/-- Only the event channel and the two event histories enter the arrival order. -/
theorem Arrival.of_same {state next : State} (arrival : Arrival state)
    (arrived : next.arrived = state.arrived) (processed : next.processed = state.processed)
    (events : next.events = state.events ∨ next.events = state.events.drop) : Arrival next where
  handled := by rw [arrived, processed]; exact arrival.handled
  queued held := by
    rcases events with same | dropped
    · rw [arrived, processed, same]
      exact arrival.queued (same ▸ held)
    · rw [dropped] at held
      cases held

/-- An arriving event joins the end of the queue. -/
theorem Arrival.event {state : State} (arrival : Arrival state) {event : TunnelEvent}
    {events : Channel connChannelCapacity TunnelEvent}
    (sent : state.events.send event = some events) :
    Arrival { state with events, arrived := state.arrived ++ [event] } where
  handled := arrival.handled.trans (List.prefix_append _ _)
  queued _ := by
    obtain ⟨held, appended, -⟩ := Channel.send_some sent
    change state.arrived ++ [event] = state.processed ++ events.items
    rw [appended, arrival.queued held, List.append_assoc]

/-- The event that the write half takes is the oldest one it has not handled. -/
theorem Arrival.receive {state : State} (arrival : Arrival state) {event : TunnelEvent}
    {events : Channel connChannelCapacity TunnelEvent}
    (received : state.events.receive = some (event, events)) :
    Arrival (state.receive event events) := by
  obtain ⟨oldest, held, -⟩ := Channel.receive_some received
  have order : state.arrived = state.processed ++ [event] ++ events.items := by
    rw [arrival.queued held, oldest, List.append_assoc, List.singleton_append]
  exact ⟨⟨events.items, order.symm⟩, fun _ => order⟩

/-- Handling an event or the upload's end either keeps the queue or drops its receiver. -/
theorem State.handle_queue (state : State) (event : TunnelEvent) :
    (state.handle event).arrived = state.arrived ∧
      (state.handle event).processed = state.processed ∧
      ((state.handle event).events = state.events ∨
        (state.handle event).events = state.events.drop) := by
  cases event with
  | data bytes => cases bytes <;> exact ⟨rfl, rfl, .inl rfl⟩
  | close => exact ⟨rfl, rfl, .inl rfl⟩
  | error message => exact ⟨rfl, rfl, .inr rfl⟩
  | exit code => exact ⟨rfl, rfl, .inr rfl⟩

theorem State.handleUpload_queue (state : State) (reported : UploadEnd) :
    (state.handleUpload reported).arrived = state.arrived ∧
      (state.handleUpload reported).processed = state.processed ∧
      ((state.handleUpload reported).events = state.events ∨
        (state.handleUpload reported).events = state.events.drop) := by
  cases reported with
  | failed => exact ⟨rfl, rfl, .inr rfl⟩
  | eof =>
      rw [State.handleUpload]
      split
      · exact ⟨rfl, rfl, .inr rfl⟩
      · exact ⟨rfl, rfl, .inl rfl⟩

/-- Every step of the relay keeps the order of arrival. -/
theorem Arrival.step {connId : ConnId} {state next : State} {action : Action}
    (arrival : Arrival state) (moved : step connId state action = some next) : Arrival next := by
  cases step_move moved with
  | event _ sent => exact arrival.event sent
  | dropChannel | readStop | readApp | readEof | readError | sent | sendFailed | closed |
    writeSome | writeAll | shutdown | finish => exact arrival.of_same rfl rfl (.inl rfl)
  | channelGone | writeFails | shutdownLast => exact arrival.of_same rfl rfl (.inr rfl)
  | takeEvent _ received =>
      have order := arrival.receive received
      obtain ⟨arrived, processed, events⟩ := State.handle_queue (state.receive _ _) _
      exact order.of_same arrived processed events
  | takeUpload _ _ _ _ _ =>
      obtain ⟨arrived, processed, events⟩ :=
        State.handleUpload_queue { state with uploadEnded := true, upload := .taken } _
      exact arrival.of_same arrived processed events

/-- The app is shown a clean end exactly when its response was complete. -/
structure EarnedEnd (state : State) : Prop where
  /-- A returned relay closed the socket without RST exactly after a handled `Close`. -/
  clean_iff : state.returned = true → (state.app.reset = false ↔ .close ∈ state.processed)
  /-- With a handled `Close` the app has the bytes before the first one and nothing else. -/
  complete : .close ∈ state.processed → state.app.written = payload (beforeClose state.arrived)
  /-- Without a handled `Close` the app never sees FIN. -/
  no_fin : .close ∉ state.processed → state.app.fin = false
  /-- A returned relay sent FIN on a clean connection that still stood. -/
  fin : state.returned = true → .close ∈ state.processed → state.app.broken = false →
    state.app.fin = true
  /-- No RST is sent before the relay returns. -/
  late_reset : state.returned = false → state.app.reset = false

/-- The response direction and the order of arrival give the app an earned end. -/
theorem Response.earned {state : State} (response : Response state) (arrival : Arrival state) :
    EarnedEnd state := by
  have closed_iff : state.responseClosed = true ↔ .close ∈ state.processed := by
    constructor
    · intro closed
      exact (response.closed closed).close
    · intro close
      cases closed : state.responseClosed with
      | true => rfl
      | false => exact absurd close (response.unclosed closed).no_close
  refine ⟨?_, ?_, ?_, ?_, ?_⟩
  · intro returned
    have reset := response.reset
    rw [returned] at reset
    rw [← closed_iff]
    cases sent : state.app.reset <;> cases closed : state.responseClosed <;>
      simp [sent, closed] at reset ⊢
  · intro close
    obtain ⟨rest, split⟩ := arrival.handled
    rw [← split, beforeClose_append close]
    exact (response.closed (closed_iff.mpr close)).complete
  · intro unclosed
    exact (response.unclosed (Bool.eq_false_iff.mpr (mt closed_iff.mp unclosed))).no_fin
  · intro returned close standing
    obtain ⟨abort, ended⟩ := response.finished returned
    have shut := (response.closed (closed_iff.mpr close)).shut
    rw [ended, Socket.writable, standing] at shut
    simpa using shut
  · intro running
    have reset := response.reset
    rw [running] at reset
    simpa using reset

/-- In every run the relay ends the app's connection without RST exactly when it handled a
`Close`, and then the app has exactly the data before the first one. -/
theorem clean_end_earned {connId : ConnId} {actions : List Action} {final : State}
    (ran : Machine.run (step connId) start actions = some final) : EarnedEnd final :=
  (Machine.run_invariant Response.step .start ran).earned
    (Machine.run_invariant Arrival.step .start ran)

/-- A relay whose server sends two bytes and `Close` gives the app these bytes and FIN. -/
theorem clean_end_of_two_bytes : ∃ final,
    Machine.run (step 7) start [.event (.data [1, 2]), .event .close, .takeEvent, .writeSome 2,
      .takeEvent, .shutdown true, .readEof, .closed true, .takeUpload, .finish] = some final ∧
    EarnedEnd final := by
  obtain ⟨final, ran⟩ := Option.isSome_iff_exists.mp
    (show (Machine.run (step 7) start [.event (.data [1, 2]), .event .close, .takeEvent,
      .writeSome 2, .takeEvent, .shutdown true, .readEof, .closed true, .takeUpload,
      .finish]).isSome = true by decide)
  exact ⟨final, ran, clean_end_earned ran⟩

end Tunnix.ClientRelay
