import Tunnix.Client.Relay

namespace Tunnix.ClientRelay

/-- These bytes are handed to `write_all` and not yet accepted by the app's socket. -/
def State.unsent (state : State) : Bytes :=
  match state.write with
  | .writing rest => rest
  | .selecting | .shuttingDown | .ended _ => []

/-- Before the first `Close` the app has every handled byte and no FIN. -/
structure Unclosed (state : State) : Prop where
  no_close : .close ∉ state.processed
  no_fin : state.app.fin = false
  not_shutting : state.write ≠ .shuttingDown
  sent : (∃ abort, state.write = .ended abort) ∨
    state.app.written ++ state.unsent = payload state.processed

/-- After the first `Close` the app has exactly the bytes before it and takes no more. -/
structure Closed (state : State) : Prop where
  close : .close ∈ state.processed
  complete : state.app.written = payload (beforeClose state.processed)
  shut : state.write = .shuttingDown ∨ state.app.writable = false

/-- The response direction knows at every step whether the app has a complete response. -/
structure Response (state : State) : Prop where
  unclosed : state.responseClosed = false → Unclosed state
  closed : state.responseClosed = true → Closed state
  abort : ∀ abort, state.write = .ended abort → abort = !state.responseClosed
  reset : state.app.reset = true ↔ state.returned = true ∧ state.responseClosed = false
  finished : state.returned = true → ∃ abort, state.write = .ended abort

/-- A run begins with an open response of which the app has nothing. -/
theorem Response.start : Response start where
  unclosed _ := ⟨List.not_mem_nil, rfl, nofun, .inr rfl⟩
  closed := nofun
  abort := nofun
  reset := by decide
  finished := nofun

/-- A closed response stays closed while later events are handled. -/
theorem Closed.of_later {state next : State} (closed : Closed state) (event : TunnelEvent)
    (processed : next.processed = state.processed ++ [event])
    (written : next.app.written = state.app.written)
    (shut : next.app.writable = false) : Closed next where
  close := by rw [processed]; exact List.mem_append_left _ closed.close
  complete := by rw [processed, beforeClose_append closed.close, written, closed.complete]
  shut := .inr shut

/-- Only the app's socket, the write half and the handled events enter the response. -/
theorem Response.of_same {state next : State} (response : Response state)
    (write : next.write = state.write) (closed : next.responseClosed = state.responseClosed)
    (processed : next.processed = state.processed) (app : next.app = state.app)
    (returned : next.returned = state.returned) : Response next where
  unclosed open_ := by
    have before := response.unclosed (closed ▸ open_)
    exact ⟨processed ▸ before.no_close, app ▸ before.no_fin, write ▸ before.not_shutting, by
      simpa only [State.unsent, write, processed, app] using before.sent⟩
  closed shut := by
    have before := response.closed (closed ▸ shut)
    exact ⟨processed ▸ before.close, by rw [processed, app]; exact before.complete, by
      rw [write, app]; exact before.shut⟩
  abort value ended := by rw [closed]; exact response.abort value (write ▸ ended)
  reset := by rw [app, returned, closed]; exact response.reset
  finished done := by rw [write]; exact response.finished (returned ▸ done)

/-- The write half ends with a failure or after a closed response, never otherwise. -/
theorem Response.endWrite {state : State} (response : Response state)
    (running : state.returned = false)
    (earned : state.failed = true ∨ state.responseClosed = true)
    (settled : state.write ≠ .shuttingDown) : Response state.endWrite where
  unclosed open_ := by
    have before := response.unclosed open_
    exact ⟨before.no_close, before.no_fin, nofun, .inl ⟨_, rfl⟩⟩
  closed shut := by
    have before := response.closed shut
    exact ⟨before.close, before.complete, .inr (before.shut.resolve_left settled)⟩
  abort value ended := by
    rw [State.endWrite_write, WriteHalf.ended.injEq] at ended
    rw [← ended, State.endWrite_responseClosed]
    rcases earned with failed | closed
    · rw [failed, Bool.true_and]
    · rw [closed, Bool.not_true, Bool.and_false]
  reset := response.reset
  finished done := absurd done (by simp [running])

/-- A local failure ends the write half and keeps what the app has. -/
theorem Response.failWrite {state : State} (response : Response state)
    (running : state.returned = false) (settled : state.write ≠ .shuttingDown) :
    Response state.failWrite := by
  have failing : Response { state with failed := true } :=
    response.of_same rfl rfl rfl rfl rfl
  exact failing.endWrite running (.inl rfl) settled

/-- An event that is no `Close` and carries no bytes only extends the history. -/
theorem Response.receive {state : State} (response : Response state)
    (running : state.returned = false) (selecting : state.write = .selecting)
    {event : TunnelEvent} (events : Channel connChannelCapacity TunnelEvent)
    (unclosing : event ≠ .close) (silent : event.bytes = []) :
    Response (state.receive event events) where
  unclosed open_ := by
    have before := response.unclosed open_
    have sent := before.sent
    refine ⟨?_, before.no_fin, before.not_shutting, .inr ?_⟩
    · simpa [State.receive, Ne.symm unclosing] using before.no_close
    · simpa [State.receive, State.unsent, selecting, silent] using sent
  closed shut := by
    have before := response.closed shut
    exact before.of_later event rfl rfl (before.shut.resolve_left (by rw [selecting]; nofun))
  abort := response.abort
  reset := response.reset
  finished done := absurd done (by simp [State.receive, running])

/-- A nonempty `Data` event starts a write of exactly its bytes. -/
theorem Response.receiveData {state : State} (response : Response state)
    (running : state.returned = false) (selecting : state.write = .selecting)
    (events : Channel connChannelCapacity TunnelEvent) (bytes : Bytes) :
    Response { state.receive (.data bytes) events with write := .writing bytes } where
  unclosed open_ := by
    have before := response.unclosed open_
    have sent := before.sent
    refine ⟨?_, before.no_fin, nofun, .inr ?_⟩
    · simpa [State.receive] using before.no_close
    · simpa [State.receive, State.unsent, selecting, TunnelEvent.bytes] using sent
  closed shut := by
    have before := response.closed shut
    exact before.of_later (.data bytes) rfl rfl
      (before.shut.resolve_left (by rw [selecting]; nofun))
  abort := nofun
  reset := response.reset
  finished done := absurd done (by simp [State.receive, running])

/-- The first `Close` finds that the app has every byte before it. -/
theorem Response.receiveClose {state : State} (response : Response state)
    (running : state.returned = false) (selecting : state.write = .selecting)
    (events : Channel connChannelCapacity TunnelEvent) :
    Response { state.receive .close events with
      responseClosed := true, write := .shuttingDown } where
  unclosed := nofun
  closed _ := by
    cases earlier : state.responseClosed with
    | true =>
        have before := response.closed earlier
        exact before.of_later .close rfl rfl
          (before.shut.resolve_left (by rw [selecting]; nofun))
    | false =>
        have before := response.unclosed earlier
        have sent := before.sent
        refine ⟨List.mem_append_right _ (List.mem_singleton.mpr rfl), ?_, .inl rfl⟩
        simpa [State.receive, State.unsent, selecting,
          beforeClose_append_close before.no_close] using sent
  abort := nofun
  reset := by
    have before := response.reset
    simpa [State.receive, running] using before
  finished done := absurd done (by simp [State.receive, running])

/-- Handling one event keeps the response direction's knowledge. -/
theorem Response.handle {state : State} (response : Response state)
    (running : state.returned = false) (selecting : state.write = .selecting)
    (event : TunnelEvent) (events : Channel connChannelCapacity TunnelEvent) :
    Response ((state.receive event events).handle event) := by
  have settled : state.write ≠ .shuttingDown := by rw [selecting]; nofun
  cases event with
  | data bytes =>
      cases bytes with
      | nil => exact response.receive running selecting events nofun rfl
      | cons byte rest => exact response.receiveData running selecting events (byte :: rest)
  | close => exact response.receiveClose running selecting events
  | error message =>
      have received := response.receive running selecting events
        (show TunnelEvent.error message ≠ .close from nofun) rfl
      have failing : Response { state.receive (.error message) events with
          failed := true
          serverReported := true } := received.of_same rfl rfl rfl rfl rfl
      exact failing.endWrite running (.inl rfl) settled
  | exit code =>
      have received := response.receive running selecting events
        (show TunnelEvent.exit code ≠ .close from nofun) rfl
      exact received.failWrite running settled

/-- Handling the upload's end keeps the response direction's knowledge. -/
theorem Response.handleUpload {state : State} (response : Response state)
    (running : state.returned = false) (selecting : state.write = .selecting)
    (reported : UploadEnd) :
    Response ({ state with uploadEnded := true, upload := .taken }.handleUpload reported) := by
  have settled : state.write ≠ .shuttingDown := by rw [selecting]; nofun
  have taken : Response { state with uploadEnded := true, upload := .taken } :=
    response.of_same rfl rfl rfl rfl rfl
  cases reported with
  | failed => exact taken.failWrite running settled
  | eof =>
      rw [State.handleUpload]
      split
      · next closed => exact taken.endWrite running (.inr closed) settled
      · exact taken

/-- The kernel's partial acceptance of a write keeps what the app has and what is left. -/
theorem Response.write {state : State} (response : Response state)
    (running : state.returned = false) {rest sent left : Bytes}
    (writing : state.write = .writing rest) (parts : rest = sent ++ left)
    (writable : state.app.writable = true) {write : WriteHalf}
    (next : write = .writing left ∨ write = .selecting ∧ left = []) :
    Response { state with app := state.app.accept sent, write } where
  unclosed open_ := by
    have before := response.unclosed open_
    have total : state.app.written ++ rest = payload state.processed := by
      simpa [State.unsent, writing] using before.sent
    refine ⟨before.no_close, before.no_fin, ?_, .inr ?_⟩
    · rcases next with rfl | ⟨rfl, -⟩ <;> nofun
    · rcases next with rfl | ⟨rfl, rfl⟩ <;>
        simpa [State.unsent, parts, List.append_assoc] using total
  closed shut := by
    have before := (response.closed shut).shut
    rw [writing, writable] at before
    rcases before with shutting | unwritable
    · cases shutting
    · cases unwritable
  abort value ended := by rcases next with rfl | ⟨rfl, -⟩ <;> cases ended
  reset := response.reset
  finished done := absurd done (by simp [running])

/-- A shutdown or its failure leaves no way to write further bytes to the app. -/
theorem Response.shutdown {state : State} (response : Response state)
    (running : state.returned = false) (shutting : state.write = .shuttingDown)
    {app : Socket} (ok : Bool)
    (result : app = if ok then state.app.shutdown else state.app.fail) :
    Response { state with app, write := .selecting } where
  unclosed open_ := absurd shutting (response.unclosed open_).not_shutting
  closed shut := by
    have before := response.closed shut
    refine ⟨before.close, ?_, .inr ?_⟩
    · rw [result]
      cases ok <;> exact before.complete
    · rw [result]
      cases ok with
      | true => cases broken : state.app.broken <;> simp [Socket.writable, broken]
      | false => simp [Socket.writable]
  abort := nofun
  reset := by
    rw [result]
    cases ok <;> exact response.reset
  finished done := absurd done (by simp [running])

/-- Tearing the relay down resets the app's connection unless its response is complete. -/
theorem Response.finish {state : State} (response : Response state) {abort : Bool}
    (ended : state.write = .ended abort) (running : state.returned = false) :
    Response { state with
      returned := true
      registered := false
      app := if abort then state.app.abort else state.app.shutdown } where
  unclosed open_ := by
    have before := response.unclosed open_
    have aborted : abort = true := by rw [response.abort abort ended, open_]; rfl
    refine ⟨before.no_close, ?_, before.not_shutting, .inl ⟨abort, ended⟩⟩
    rw [aborted]
    exact before.no_fin
  closed shut := by
    have before := response.closed shut
    have kept : abort = false := by rw [response.abort abort ended, shut]; rfl
    subst kept
    refine ⟨before.close, before.complete, .inr ?_⟩
    cases broken : state.app.broken <;> simp [Socket.writable, broken]
  abort := response.abort
  reset := by
    have unreset : state.app.reset = false := by
      simpa [running] using response.reset
    have aborted := response.abort abort ended
    cases closed : state.responseClosed with
    | true => simp [aborted, closed, unreset]
    | false => simp [aborted, closed]
  finished _ := ⟨abort, ended⟩

/-- Every step of the relay keeps the response direction's knowledge. -/
theorem Response.step {connId : ConnId} {state next : State} {action : Action}
    (response : Response state) (moved : step connId state action = some next) :
    Response next := by
  have running {write : WriteHalf} (same : state.write = write)
      (unended : ∀ abort, write ≠ .ended abort) : state.returned = false := by
    cases returned : state.returned with
    | false => rfl
    | true =>
        obtain ⟨abort, ended⟩ := response.finished returned
        exact absurd (same ▸ ended) (unended abort)
  cases step_move moved with
  | event | dropChannel | readStop | readApp | readEof | readError | sent | sendFailed | closed =>
      exact response.of_same rfl rfl rfl rfl rfl
  | takeEvent selecting _ => exact response.handle (running selecting nofun) selecting _ _
  | channelGone selecting _ _ =>
      exact response.failWrite (running selecting nofun) (by rw [selecting]; nofun)
  | takeUpload selecting _ _ _ _ =>
      exact response.handleUpload (running selecting nofun) selecting _
  | @writeSome rest count writing _ _ writable =>
      exact response.write (running writing nofun) writing (List.take_append_drop count rest).symm
        writable (.inl rfl)
  | writeAll writing _ writable =>
      exact response.write (running writing nofun) writing (List.append_nil _).symm writable
        (.inr ⟨rfl, rfl⟩)
  | writeFails writing =>
      have broken : Response { state with app := state.app.fail } := {
        unclosed := fun open_ =>
          let before := response.unclosed open_
          ⟨before.no_close, before.no_fin, before.not_shutting, before.sent⟩
        closed := fun shut =>
          let before := response.closed shut
          ⟨before.close, before.complete, .inr (by simp [Socket.writable])⟩
        abort := response.abort
        reset := response.reset
        finished := response.finished }
      exact broken.failWrite (running writing nofun) (by rw [writing]; nofun)
  | @shutdown ok app shutting _ result _ =>
      exact response.shutdown (running shutting nofun) shutting ok result
  | @shutdownLast ok app shutting ended result _ =>
      have shut := response.shutdown (running shutting nofun) shutting ok result
      have closed : state.responseClosed = true := by
        cases open_ : state.responseClosed with
        | true => rfl
        | false => exact absurd shutting (response.unclosed open_).not_shutting
      exact shut.endWrite (running shutting nofun) (.inr closed) nofun
  | finish _ ended unreturned => exact response.finish ended unreturned

end Tunnix.ClientRelay
