import Tunnix.Client.RelaySignals

namespace Tunnix.ClientRelay

/-- The server was told how the connection ended, or told the client itself. -/
def Notified (connId : ConnId) (state : State) : Prop :=
  state.errorHandled ∨ .abort connId ∈ state.posts ∨
    state.closeAccepted = true ∧ .close ∈ state.processed

/-- These failures of the write half are local to the client. -/
def LocalFailure (state : State) : Action → Prop
  | .takeEvent => (∃ code, state.events.items.head? = some (.exit code)) ∨
      state.events.items = [] ∧ state.registered = false
  | .writeFails => True
  | _ => False

/-- These steps end the write half because both directions have closed. -/
def BothClosed (state : State) : Action → Prop
  | .takeUpload => state.responseClosed = true
  | .shutdown _ => state.uploadEnded = true
  | _ => False

/-- After the app's EOF a local failure comes only after a handled `Close`, and no `Close`
post is refused unless the server's `Error` was handled or can still be handled. -/
structure Told (state : State) (action : Action) : Prop where
  failure : LocalFailure state action → state.uploadClosed = true → .close ∈ state.processed
  ending : LocalFailure state action ∨ BothClosed state action → state.read = .ended .eof →
    state.closeAccepted = true
  refusal : action = .closed false → state.hearing = true ∨ state.errorHandled

/-- The server will never be told how the connection ended. -/
structure Unheard (state : State) : Prop where
  deaf : state.hearing = false
  silent : ¬ state.errorHandled
  closed : state.uploadClosed = true
  open_ : .close ∈ state.processed → state.read = .ended .eof ∧ state.closeAccepted = false

/-- The relay's two directions and their signals are in order. -/
structure Ordered (connId : ConnId) (state : State) : Prop where
  response : Response state
  reporting : Reporting connId state
  stopping : Stopping state
  finished : state.returned = true → ∃ outcome, state.read = .ended outcome

theorem Ordered.start (connId : ConnId) : Ordered connId start :=
  ⟨.start, .start connId, .start, nofun⟩

/-- Every step of the relay keeps its directions and signals in order. -/
theorem Ordered.step {connId : ConnId} {state next : State} {action : Action}
    (ordered : Ordered connId state) (moved : step connId state action = some next) :
    Ordered connId next where
  response := ordered.response.step moved
  reporting := ordered.reporting.step moved
  stopping := ordered.stopping.step ordered.reporting moved
  finished done := by
    have ceased (returned : state.returned = true) {read : ReadHalf} (reading : state.read = read)
        (runs : ∀ outcome, read ≠ .ended outcome) : False := by
      obtain ⟨outcome, ended⟩ := ordered.finished returned
      exact runs outcome (reading ▸ ended)
    cases step_move moved with
    | event | dropChannel | channelGone | writeSome | writeAll | writeFails | shutdown |
      shutdownLast => exact ordered.finished done
    | readStop reading _ => exact (ceased done reading nofun).elim
    | readApp reading _ _ _ => exact (ceased done reading nofun).elim
    | readEof reading _ => exact (ceased done reading nofun).elim
    | readError reading _ => exact (ceased done reading nofun).elim
    | sent sending => exact (ceased done sending nofun).elim
    | sendFailed sending => exact (ceased done sending nofun).elim
    | closed closing => exact (ceased done closing nofun).elim
    | finish ended _ _ => exact ⟨_, ended⟩
    | @takeEvent event events _ _ =>
        obtain ⟨read, -⟩ := (state.receive event events).handle_reports event
        rw [read]
        refine ordered.finished ?_
        cases event with
        | data bytes => cases bytes <;> exact done
        | close | error | exit => exact done
    | @takeUpload reported _ _ _ _ _ =>
        obtain ⟨read, -⟩ :=
          ({ state with uploadEnded := true, upload := .taken } : State).handleUpload_reports
            reported
        rw [read]
        refine ordered.finished ?_
        rw [State.handleUpload.eq_def] at done
        split at done
        · split at done <;> exact done
        · exact done

/-- A step that neither ends the write half nor loses a `Close` post is always admitted. -/
theorem Told.of_quiet {state : State} {action : Action} (working : ¬ LocalFailure state action)
    (open_ : ¬ BothClosed state action) (answered : action ≠ .closed false) :
    Told state action :=
  ⟨fun failed => absurd failed working, fun ceased => (ceased.elim working open_).elim,
    fun refused => absurd refused answered⟩

/-- A write half that ends without the server's report leaves the server unheard exactly when
the step is not admitted. -/
theorem unheard_of_ending {state next : State} {action : Action}
    (silent : ¬ state.errorHandled) (read : next.read = state.read)
    (accepted : next.closeAccepted = state.closeAccepted) (deaf : next.hearing = false)
    (errors : next.errorHandled ↔ state.errorHandled)
    (closes : .close ∈ next.processed ↔ .close ∈ state.processed)
    (ends : LocalFailure state action ∨ BothClosed state action ∧ .close ∈ state.processed)
    (answered : action ≠ .closed false) : Unheard next ↔ ¬ Told state action := by
  constructor
  · intro unheard told
    have uploadClosed : state.uploadClosed = true := by
      rw [State.uploadClosed, ← read]
      exact unheard.closed
    have close : .close ∈ state.processed :=
      ends.elim (fun failed => told.failure failed uploadClosed) And.right
    obtain ⟨eof, refused⟩ := unheard.open_ (closes.mpr close)
    have taken := told.ending (ends.imp_right And.left) (read ▸ eof)
    rw [accepted, taken] at refused
    cases refused
  · intro untold
    have closed (eof : state.read = .ended .eof) : state.uploadClosed = true := by
      rw [State.uploadClosed, eof]
    have same : next.uploadClosed = state.uploadClosed := by
      rw [State.uploadClosed, State.uploadClosed, read]
    by_cases loses : state.read = .ended .eof ∧ state.closeAccepted = false
    · exact ⟨deaf, mt errors.mp silent, same.trans (closed loses.1),
        fun _ => ⟨read.trans loses.1, accepted.trans loses.2⟩⟩
    · have ending : state.read = .ended .eof → state.closeAccepted = true := by simpa using loses
      have failure : ¬ (LocalFailure state action → state.uploadClosed = true →
          .close ∈ state.processed) :=
        fun failure => untold ⟨failure, fun _ => ending, fun refused => absurd refused answered⟩
      push Not at failure
      obtain ⟨-, uploadClosed, unclosed⟩ := failure
      exact ⟨deaf, mt errors.mp silent, same.trans uploadClosed,
        fun close => absurd (closes.mp close) unclosed⟩

/-- A server that will never be told stays so. -/
theorem Unheard.step {connId : ConnId} {state next : State} {action : Action}
    (unheard : Unheard state) (moved : step connId state action = some next) : Unheard next := by
  obtain ⟨deaf, silent, closed, open_⟩ := unheard
  have writing {ended : Prop} {write : WriteHalf} (same : state.write = write)
      (runs : ∀ abort, write ≠ .ended abort) : ended := by
    rw [State.hearing, same] at deaf
    cases write with
    | ended abort => exact absurd rfl (runs abort)
    | selecting | writing | shuttingDown => cases deaf
  have reading {ended : Prop} {read : ReadHalf} (same : state.read = read)
      (runs : read = .selecting ∨ ∃ chunk, read = .sending chunk) : ended := by
    rw [State.uploadClosed, same] at closed
    rcases runs with rfl | ⟨chunk, rfl⟩ <;> cases closed
  cases step_move moved with
  | event | dropChannel | finish => exact ⟨deaf, silent, closed, open_⟩
  | readStop selecting _ => exact reading selecting (.inl rfl)
  | readApp selecting _ _ _ => exact reading selecting (.inl rfl)
  | readEof selecting _ => exact reading selecting (.inl rfl)
  | readError selecting _ => exact reading selecting (.inl rfl)
  | sent sending => exact reading sending (.inr ⟨_, rfl⟩)
  | sendFailed sending => exact reading sending (.inr ⟨_, rfl⟩)
  | closed closing =>
      refine ⟨deaf, silent, rfl, fun close => ?_⟩
      have eof := (open_ close).1
      rw [closing] at eof
      cases eof
  | takeEvent selecting _ => exact writing selecting (by simp)
  | channelGone selecting _ _ => exact writing selecting (by simp)
  | takeUpload selecting _ _ _ _ => exact writing selecting (by simp)
  | writeSome busy _ _ _ => exact writing busy (by simp)
  | writeAll busy _ _ => exact writing busy (by simp)
  | writeFails busy => exact writing busy (by simp)
  | shutdown shutting _ _ _ => exact writing shutting (by simp)
  | shutdownLast shutting _ _ _ => exact writing shutting (by simp)

/-- Taking any event but an exit status is no local failure. -/
theorem not_localFailure_takeEvent {state : State} {event : TunnelEvent}
    {events : Channel connChannelCapacity TunnelEvent}
    (received : state.events.receive = some (event, events)) (common : ∀ code, event ≠ .exit code) :
    ¬ LocalFailure state .takeEvent := by
  obtain ⟨oldest, -⟩ := Channel.receive_some received
  rw [LocalFailure, oldest, List.head?_cons]
  rintro (⟨code, same⟩ | ⟨empty, -⟩)
  · exact common code (Option.some.inj same)
  · cases empty

/-- Handling an event leaves the server unheard exactly when the step is not admitted. -/
theorem unheard_of_takeEvent {state : State} (hears : state.hearing = true)
    (silent : ¬ state.errorHandled) {event : TunnelEvent}
    {events : Channel connChannelCapacity TunnelEvent}
    (received : state.events.receive = some (event, events)) :
    Unheard ((state.receive event events).handle event) ↔ ¬ Told state .takeEvent := by
  have quiet (common : ∀ code, event ≠ .exit code) : Told state .takeEvent :=
    .of_quiet (not_localFailure_takeEvent received common) not_false nofun
  cases event with
  | data bytes =>
      refine iff_of_false (fun unheard => ?_) (not_not_intro (quiet nofun))
      have deaf := unheard.deaf
      cases bytes with
      | nil => exact Bool.false_ne_true (deaf.symm.trans hears)
      | cons byte rest => cases deaf
  | close => exact iff_of_false (fun unheard => nomatch unheard.deaf) (not_not_intro (quiet nofun))
  | error message =>
      refine iff_of_false (fun unheard => ?_) (not_not_intro (quiet nofun))
      exact unheard.silent ⟨message, List.mem_append_right _ (List.mem_singleton.mpr rfl)⟩
  | exit code =>
      obtain ⟨oldest, -⟩ := Channel.receive_some received
      have failed : LocalFailure state .takeEvent :=
        .inl ⟨code, by rw [oldest, List.head?_cons]⟩
      exact unheard_of_ending silent rfl rfl rfl (state.receive_errorHandled events nofun)
        (by simp [State.handle, State.failWrite, State.receive]) (.inl failed) nofun

/-- The post of `Close` leaves the server unheard exactly when it is refused by a relay that neither
hears the server nor has heard its error. -/
theorem unheard_of_closed {connId : ConnId} {state : State} (whole : ¬ Unheard state)
    (closing : state.read = .closing) (accepted : Bool) :
    Unheard ({ state with closeAccepted := accepted }.endRead connId .eof) ↔
      ¬ Told state (.closed accepted) := by
  cases accepted with
  | true =>
      refine iff_of_false (fun unheard => ?_) (not_not_intro ?_)
      · have unclosed : .close ∉ state.processed := fun close =>
          Bool.false_ne_true (unheard.open_ close).2.symm
        exact whole ⟨unheard.deaf, unheard.silent, by rw [State.uploadClosed, closing],
          fun close => absurd close unclosed⟩
      · exact .of_quiet not_false not_false (by simp)
  | false =>
      constructor
      · intro unheard told
        rcases told.refusal rfl with hears | handled
        · exact absurd (unheard.deaf.symm.trans hears) Bool.false_ne_true
        · exact unheard.silent handled
      · intro untold
        have unreported : ¬ (state.hearing = true ∨ state.errorHandled) := fun reported =>
          untold ⟨fun failed => failed.elim, fun ceased => (ceased.elim id id).elim, fun _ => reported⟩
        rw [not_or] at unreported
        exact ⟨Bool.eq_false_iff.mpr unreported.1, unreported.2, rfl, fun _ => ⟨rfl, rfl⟩⟩

/-- The end of the upload leaves the server unheard exactly when both sides are closed and the
`Close` was not accepted. -/
theorem unheard_of_takeUpload {connId : ConnId} {state : State} (ordered : Ordered connId state)
    (selecting : state.write = .selecting) {reported : UploadEnd}
    (signal : state.upload = .sent reported ∨ state.upload = .dropped ∧ reported = .failed) :
    Unheard ({ state with uploadEnded := true, upload := .taken }.handleUpload reported) ↔
      ¬ Told state .takeUpload := by
  have hears : state.hearing = true := by rw [State.hearing, selecting]
  cases reported with
  | failed =>
      obtain ⟨outcome, ended, failed⟩ := ordered.reporting.upload .failed
        (signal.resolve_right fun dropped => ordered.reporting.held dropped.1)
      obtain rfl : outcome = .failed := failed.mp rfl
      refine iff_of_false (fun unheard => ?_) (not_not_intro ?_)
      · have closed : state.uploadClosed = true := unheard.closed
        rw [State.uploadClosed, ended] at closed
        cases closed
      · refine ⟨fun failed => failed.elim, fun _ eof => ?_, by simp⟩
        rw [ended] at eof
        cases eof
  | eof =>
      rw [State.handleUpload]
      split
      · next closed =>
          have close : .close ∈ state.processed := (ordered.response.closed closed).close
          exact unheard_of_ending (ordered.stopping.hearing hears).1 rfl rfl rfl Iff.rfl Iff.rfl
            (.inr ⟨closed, close⟩) (by simp)
      · next open_ =>
          refine iff_of_false (fun unheard => ?_)
            (not_not_intro (.of_quiet not_false open_ (by simp)))
          exact Bool.false_ne_true (unheard.deaf.symm.trans hears)

/-- The steps that leave the server unheard are exactly those that are not admitted. -/
theorem unheard_iff_not_told {connId : ConnId} {state next : State} {action : Action}
    (ordered : Ordered connId state) (whole : ¬ Unheard state)
    (moved : step connId state action = some next) :
    Unheard next ↔ ¬ Told state action := by
  have hearing := ordered.stopping.hearing
  have quiet (working : ¬ LocalFailure state action) (open_ : ¬ BothClosed state action)
      (answered : action ≠ .closed false) (same : Unheard next → Unheard state) :
      Unheard next ↔ ¬ Told state action :=
    iff_of_false (mt same whole) (not_not_intro (.of_quiet working open_ answered))
  have heard {claim : Prop} (hears : next.hearing = true) (unheard : Unheard next) : claim :=
    absurd (unheard.deaf.symm.trans hears) Bool.false_ne_true
  cases step_move moved with
  | event | dropChannel | finish =>
      exact quiet not_false not_false (by simp) fun unheard =>
        ⟨unheard.deaf, unheard.silent, unheard.closed, unheard.open_⟩
  | readStop | readApp | readError | sent | sendFailed =>
      refine quiet not_false not_false (by simp) fun unheard => ?_
      exact absurd unheard.closed Bool.false_ne_true
  | readEof _ waiting =>
      refine quiet not_false not_false (by simp) fun unheard => ?_
      exact absurd waiting (ordered.stopping.signalled unheard.deaf)
  | @closed accepted closing => exact unheard_of_closed whole closing accepted
  | takeEvent selecting received =>
      have hears : state.hearing = true := by rw [State.hearing, selecting]
      exact unheard_of_takeEvent hears (hearing hears).1 received
  | channelGone selecting empty gone =>
      have hears : state.hearing = true := by rw [State.hearing, selecting]
      exact unheard_of_ending (hearing hears).1 rfl rfl rfl Iff.rfl Iff.rfl
        (.inl (.inr ⟨empty, gone⟩)) (by simp)
  | takeUpload selecting _ _ _ signal => exact unheard_of_takeUpload ordered selecting signal
  | writeSome => exact quiet not_false not_false (by simp) (heard rfl)
  | writeAll => exact quiet not_false not_false (by simp) (heard rfl)
  | writeFails writing =>
      have hears : state.hearing = true := by rw [State.hearing, writing]
      exact unheard_of_ending (hearing hears).1 rfl rfl rfl Iff.rfl Iff.rfl (.inl trivial) (by simp)
  | shutdown _ running _ _ =>
      refine quiet not_false ?_ (by simp) (heard rfl)
      rw [BothClosed, running]
      exact Bool.false_ne_true
  | shutdownLast shutting ceased _ _ =>
      have hears : state.hearing = true := by rw [State.hearing, shutting]
      have closed : state.responseClosed = true := by
        cases open_ : state.responseClosed with
        | true => rfl
        | false => exact absurd shutting (ordered.response.unclosed open_).not_shutting
      have close : .close ∈ state.processed := (ordered.response.closed closed).close
      exact unheard_of_ending (hearing hears).1 rfl rfl rfl Iff.rfl Iff.rfl
        (.inr ⟨ceased, close⟩) (by simp)

/-- A returned relay has notified the server unless the server is left unheard. -/
theorem Ordered.notified_iff {connId : ConnId} {state : State} (ordered : Ordered connId state)
    (returned : state.returned = true) : Notified connId state ↔ ¬ Unheard state := by
  obtain ⟨outcome, ended⟩ := ordered.finished returned
  obtain ⟨abort, done⟩ := ordered.response.finished returned
  constructor
  · rintro notified ⟨-, silent, closed, open_⟩
    rcases notified with handled | aborted | ⟨accepted, close⟩
    · exact silent handled
    · rw [State.uploadClosed] at closed
      rcases ordered.reporting.aborted.mp aborted with failed | stopped
      · rw [failed] at closed
        cases closed
      · rw [stopped] at closed
        cases closed
    · exact Bool.false_ne_true ((open_ close).2.symm.trans accepted)
  · intro heard
    by_cases handled : state.errorHandled
    · exact .inl handled
    refine .inr ?_
    cases outcome with
    | failed => exact .inl (ordered.reporting.aborted.mpr (.inl ended))
    | stopped stop =>
        cases stop with
        | localFailure => exact .inl (ordered.reporting.aborted.mpr (.inr ended))
        | serverReported => exact absurd (ordered.stopping.reported (.inr ended)) handled
    | eof =>
        refine .inr ?_
        by_contra unclosed
        rw [not_and] at unclosed
        refine heard ⟨by rw [State.hearing, done], handled, by rw [State.uploadClosed, ended],
          fun close => ⟨ended, Bool.eq_false_iff.mpr fun accepted => unclosed accepted close⟩⟩

/-- A finished relay has notified the server exactly when each of its steps was admitted. -/
theorem notified_iff_told {connId : ConnId} {actions : List Action} {final : State}
    (ran : Machine.run (step connId) start actions = some final)
    (returned : final.returned = true) :
    Notified connId final ↔ Machine.Along (step connId) Told start actions := by
  have ordered := Machine.run_invariant Ordered.step (.start connId) ran
  rw [ordered.notified_iff returned]
  exact Machine.along_iff Ordered.step (fun _ unheard moved => unheard.step moved)
    unheard_iff_not_told (.start connId) (fun unheard => nomatch unheard.deaf) ran

/-- A relay that reads EOF, handles `Close` and finishes shows both sides of the equivalence. -/
theorem notified_iff_told_closed : ∃ final,
    Machine.run (step 7) start [.readEof, .closed true, .takeUpload, .event .close, .takeEvent,
      .shutdown true, .finish] = some final ∧
    (Notified 7 final ↔ Machine.Along (step 7) Told start [.readEof, .closed true, .takeUpload,
      .event .close, .takeEvent, .shutdown true, .finish]) := by
  obtain ⟨final, ran, returned⟩ := Option.map_eq_some_iff.mp
    (show (Machine.run (step 7) start [.readEof, .closed true, .takeUpload, .event .close,
      .takeEvent, .shutdown true, .finish]).map State.returned = some true by decide)
  exact ⟨final, ran, notified_iff_told ran returned⟩

/-- An app that sends EOF and then resets its connection leaves the server untold. -/
theorem reset_after_eof_unnotified : ∃ final,
    Machine.run (step 7) start [.readEof, .closed true, .event (.data [1]), .takeEvent,
      .writeFails, .finish] = some final ∧
    final.returned = true ∧ ¬ Notified 7 final := by
  obtain ⟨final, ran, ended⟩ := Option.map_eq_some_iff.mp
    (show (Machine.run (step 7) start [.readEof, .closed true, .event (.data [1]), .takeEvent,
      .writeFails, .finish]).map (fun final => (final.returned, final.processed, final.posts)) =
      some (true, [.data [1]], [.close 7]) by decide)
  rw [Prod.mk.injEq, Prod.mk.injEq] at ended
  obtain ⟨returned, processed, posts⟩ := ended
  refine ⟨final, ran, returned, ?_⟩
  simp [Notified, State.errorHandled, processed, posts]

end Tunnix.ClientRelay
