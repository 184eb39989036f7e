import Tunnix.Client.RelayResponse

namespace Tunnix.ClientRelay

/-- The write half still hears events. -/
def State.hearing (state : State) : Bool :=
  match state.write with
  | .ended _ => false
  | .selecting | .writing _ | .shuttingDown => true

/-- The read half still uploads and can be stopped. -/
def State.uploading (state : State) : Bool :=
  match state.read with
  | .selecting | .sending _ => true
  | .closing | .ended _ => false

/-- The read half has read the app's EOF. -/
def State.uploadClosed (state : State) : Bool :=
  match state.read with
  | .closing | .ended .eof => true
  | .selecting | .sending _ | .ended _ => false

/-- An `Error` event of the server was handled. -/
def State.errorHandled (state : State) : Prop := ∃ message, .error message ∈ state.processed

/-- The read half's reports follow from how its loop ended. -/
structure Reporting (connId : ConnId) (state : State) : Prop where
  aborted : .abort connId ∈ state.posts ↔
    state.read = .ended .failed ∨ state.read = .ended (.stopped .localFailure)
  upload : ∀ reported, state.upload = .sent reported →
    ∃ outcome, state.read = .ended outcome ∧ (reported = .failed ↔ outcome = .failed)
  held : state.upload ≠ .dropped
  ended : state.uploadEnded = true → ∃ outcome, state.read = .ended outcome

/-- The stop signal follows from how the write half's loop ended. -/
structure Stopping (state : State) : Prop where
  hearing : state.hearing = true →
    ¬ state.errorHandled ∧ state.stop = .waiting ∧ state.failed = false ∧
      state.serverReported = false
  stopped : state.hearing = false → state.uploading = true → ∃ stop, state.stop = .sent stop
  signalled : state.hearing = false → state.stop ≠ .waiting
  reported : state.stop = .sent .serverReported ∨
    state.read = .ended (.stopped .serverReported) → state.errorHandled

/-- A run begins with both halves in their loops and nothing reported. -/
theorem Reporting.start (connId : ConnId) : Reporting connId start where
  aborted := by simp [ClientRelay.start]
  upload := nofun
  held := nofun
  ended := nofun

theorem Stopping.start : Stopping start where
  hearing _ := ⟨fun ⟨_, handled⟩ => List.not_mem_nil handled, rfl, rfl, rfl⟩
  stopped := nofun
  signalled := nofun
  reported := by rintro (sent | ended) <;> contradiction

/-- Only the read half's end enters its reports. -/
theorem Reporting.of_same {connId : ConnId} {state next : State}
    (reporting : Reporting connId state) (read : next.read = state.read)
    (posts : next.posts = state.posts)
    (upload : next.upload = state.upload ∨ next.upload = .taken)
    (ended : next.uploadEnded = true → ∃ outcome, state.read = .ended outcome) :
    Reporting connId next where
  aborted := by rw [read, posts]; exact reporting.aborted
  upload reported sent := by
    rw [read]
    rcases upload with same | taken
    · exact reporting.upload reported (same ▸ sent)
    · rw [taken] at sent
      cases sent
  held := by
    rcases upload with same | taken
    · rw [same]; exact reporting.held
    · rw [taken]; nofun
  ended := by rw [read]; exact ended

/-- The read half reports each end of its loop as that end requires. -/
theorem Reporting.endRead {connId : ConnId} {state : State} (reporting : Reporting connId state)
    (running : ∀ outcome, state.read ≠ .ended outcome) (outcome : Upload) :
    Reporting connId (state.endRead connId outcome) where
  aborted := by
    have quiet : .abort connId ∉ state.posts := by
      rw [reporting.aborted, not_or]
      exact ⟨running _, running _⟩
    rcases outcome with _ | _ | _ | _ <;> simp [State.endRead, quiet]
  upload reported sent := by
    refine ⟨outcome, rfl, ?_⟩
    rcases outcome with _ | _ | _ | _ <;> cases sent <;> simp
  held := nofun
  ended _ := ⟨outcome, rfl⟩

/-- Posting a chunk or a `Close` is no end of the read half's loop. -/
theorem Reporting.post {connId : ConnId} {state : State} (reporting : Reporting connId state)
    (running : ∀ outcome, state.read ≠ .ended outcome) {read : ReadHalf}
    (runs : ∀ outcome, read ≠ .ended outcome) {posts : List Message}
    (kept : .abort connId ∈ posts ↔ .abort connId ∈ state.posts) :
    Reporting connId { state with read, posts } where
  aborted := by
    have quiet : .abort connId ∉ state.posts := by
      rw [reporting.aborted, not_or]
      exact ⟨running _, running _⟩
    refine iff_of_false (mt kept.mp quiet) ?_
    rw [not_or]
    exact ⟨runs _, runs _⟩
  upload reported sent := by
    obtain ⟨outcome, ended, -⟩ := reporting.upload reported sent
    exact absurd ended (running outcome)
  held := reporting.held
  ended ceased := by
    obtain ⟨outcome, ended⟩ := reporting.ended ceased
    exact absurd ended (running outcome)

/-- Handling an event or the upload's end leaves the read half's reports alone. -/
theorem State.handle_reports (state : State) (event : TunnelEvent) :
    (state.handle event).read = state.read ∧ (state.handle event).posts = state.posts ∧
      (state.handle event).upload = state.upload ∧
      (state.handle event).uploadEnded = state.uploadEnded := by
  cases event with
  | data bytes => cases bytes <;> exact ⟨rfl, rfl, rfl, rfl⟩
  | close | error | exit => exact ⟨rfl, rfl, rfl, rfl⟩

theorem State.handleUpload_reports (state : State) (reported : UploadEnd) :
    (state.handleUpload reported).read = state.read ∧
      (state.handleUpload reported).posts = state.posts ∧
      (state.handleUpload reported).upload = state.upload ∧
      (state.handleUpload reported).uploadEnded = state.uploadEnded := by
  cases reported with
  | failed => exact ⟨rfl, rfl, rfl, rfl⟩
  | eof =>
      rw [State.handleUpload]
      split <;> exact ⟨rfl, rfl, rfl, rfl⟩

/-- Every step of the relay keeps the read half's reports in line with its end. -/
theorem Reporting.step {connId : ConnId} {state next : State} {action : Action}
    (reporting : Reporting connId state) (moved : step connId state action = some next) :
    Reporting connId next := by
  have running {read : ReadHalf} (same : state.read = read)
      (unended : ∀ outcome, read ≠ .ended outcome) (outcome : Upload) :
      state.read ≠ .ended outcome := same ▸ unended outcome
  cases step_move moved with
  | event | dropChannel | channelGone | writeSome | writeAll | writeFails | shutdown |
    shutdownLast | finish => exact reporting.of_same rfl rfl (.inl rfl) reporting.ended
  | readStop reading _ =>
      have taken : Reporting connId { state with stop := .taken } :=
        reporting.of_same rfl rfl (.inl rfl) reporting.ended
      exact taken.endRead (running reading nofun) _
  | readApp reading _ _ _ => exact reporting.post (running reading nofun) (by nofun) (by simp)
  | readEof reading _ => exact reporting.post (running reading nofun) (by nofun) (by simp)
  | readError reading _ => exact reporting.endRead (running reading nofun) _
  | sent sending => exact reporting.post (running sending nofun) (by nofun) Iff.rfl
  | sendFailed sending => exact reporting.endRead (running sending nofun) _
  | @closed accepted closing =>
      have answered : Reporting connId { state with closeAccepted := accepted } :=
        reporting.of_same rfl rfl (.inl rfl) reporting.ended
      exact answered.endRead (running closing nofun) _
  | @takeEvent event events _ _ =>
      obtain ⟨read, posts, upload, ended⟩ := (state.receive event events).handle_reports event
      exact reporting.of_same read posts (.inl upload) (ended ▸ reporting.ended)
  | @takeUpload reported _ _ _ _ signal =>
      obtain ⟨read, posts, upload, -⟩ :=
        ({ state with uploadEnded := true, upload := .taken } : State).handleUpload_reports reported
      refine reporting.of_same read posts (.inr upload) fun _ => ?_
      rcases signal with sent | ⟨dropped, -⟩
      · obtain ⟨outcome, ended, -⟩ := reporting.upload reported sent
        exact ⟨outcome, ended⟩
      · exact absurd dropped reporting.held

/-- Only the stop signal, the two halves and the handled events enter the stopping order. -/
theorem Stopping.of_same {state next : State} (stopping : Stopping state)
    (hearing : next.hearing = state.hearing) (stop : next.stop = state.stop)
    (failed : next.failed = state.failed) (server : next.serverReported = state.serverReported)
    (errors : next.errorHandled ↔ state.errorHandled)
    (uploading : next.uploading = true → state.uploading = true)
    (reported : next.read = .ended (.stopped .serverReported) →
      state.read = .ended (.stopped .serverReported)) : Stopping next where
  hearing hears := by
    rw [stop, failed, server, errors]
    exact stopping.hearing (hearing ▸ hears)
  stopped deaf runs := by
    rw [stop]
    exact stopping.stopped (hearing ▸ deaf) (uploading runs)
  signalled deaf := by rw [stop]; exact stopping.signalled (hearing ▸ deaf)
  reported cause := by
    rw [errors]
    exact stopping.reported (cause.imp (stop ▸ ·) reported)

/-- The write half signals its end to a read half that can still be stopped. -/
theorem Stopping.endWrite {state : State}
    (signal : state.failed = true ∨ state.uploading = false)
    (server : state.serverReported = true → state.errorHandled)
    (earlier : state.read = .ended (.stopped .serverReported) → state.errorHandled) :
    Stopping state.endWrite where
  hearing := nofun
  stopped _ runs := by
    have failed : state.failed = true :=
      signal.resolve_right (by rw [show state.uploading = true from runs]; nofun)
    exact ⟨_, by rw [State.endWrite_stop, if_pos failed]⟩
  signalled _ := by
    rw [State.endWrite_stop]
    split <;> nofun
  reported cause := by
    rcases cause with sent | ended
    · rw [State.endWrite_stop] at sent
      split at sent
      · split at sent
        · next told => exact server told
        · cases sent
      · cases sent
    · exact earlier ended

/-- A local failure of the write half always signals the read half. -/
theorem Stopping.failWrite {state : State} (stopping : Stopping state)
    (hears : state.hearing = true) : Stopping state.failWrite := by
  obtain ⟨-, -, -, unreported⟩ := stopping.hearing hears
  have server (told : state.serverReported = true) : state.errorHandled := by
    rw [unreported] at told
    cases told
  exact .endWrite (.inl rfl) server fun ended => stopping.reported (.inr ended)

/-- Only an `Error` event changes whether the server reported an error. -/
theorem State.receive_errorHandled (state : State) {event : TunnelEvent}
    (events : Channel connChannelCapacity TunnelEvent) (silent : ∀ message, event ≠ .error message) :
    (state.receive event events).errorHandled ↔ state.errorHandled := by
  constructor
  · rintro ⟨message, handled⟩
    rcases List.mem_append.mp handled with earlier | here
    · exact ⟨message, earlier⟩
    · exact absurd (List.mem_singleton.mp here).symm (silent message)
  · rintro ⟨message, handled⟩
    exact ⟨message, List.mem_append_left _ handled⟩

/-- Handling one event keeps the stopping order. -/
theorem Stopping.handle {state : State} (stopping : Stopping state)
    (selecting : state.write = .selecting) (event : TunnelEvent)
    (events : Channel connChannelCapacity TunnelEvent) :
    Stopping ((state.receive event events).handle event) := by
  have hears : state.hearing = true := by rw [State.hearing, selecting]
  have received (silent : ∀ message, event ≠ .error message) :
      Stopping (state.receive event events) :=
    stopping.of_same rfl rfl rfl rfl (state.receive_errorHandled events silent) id id
  cases event with
  | data bytes =>
      have same := received nofun
      cases bytes with
      | nil => exact same
      | cons byte rest => exact same.of_same hears.symm rfl rfl rfl Iff.rfl id id
  | close => exact (received nofun).of_same hears.symm rfl rfl rfl Iff.rfl id id
  | error message =>
      have told : (state.receive (.error message) events).errorHandled :=
        ⟨message, List.mem_append_right _ (List.mem_singleton.mpr rfl)⟩
      exact .endWrite (.inl rfl) (fun _ => told) fun _ => told
  | exit code => exact (received nofun).failWrite hears

/-- Every step of the relay keeps the stopping order. -/
theorem Stopping.step {connId : ConnId} {state next : State} {action : Action}
    (stopping : Stopping state) (reporting : Reporting connId state)
    (moved : step connId state action = some next) : Stopping next := by
  have uploaded (ceased : ∃ outcome, state.read = .ended outcome) : state.uploading = false := by
    obtain ⟨outcome, ended⟩ := ceased
    rw [State.uploading, ended]
  have unended {ended : Prop} {read : ReadHalf} (reading : state.read = read)
      (runs : ∀ outcome, read ≠ .ended outcome) {outcome : Upload}
      (ceased : state.read = .ended outcome) : ended :=
    absurd (reading ▸ ceased) (runs outcome)
  cases step_move moved with
  | event | dropChannel | finish =>
      exact stopping.of_same rfl rfl rfl rfl Iff.rfl id id
  | readApp reading _ _ _ =>
      refine stopping.of_same rfl rfl rfl rfl Iff.rfl ?_ ?_
      · exact fun _ => by rw [State.uploading, reading]
      · simp
  | readEof => exact stopping.of_same rfl rfl rfl rfl Iff.rfl (by simp [State.uploading]) (by simp)
  | sent sending =>
      refine stopping.of_same rfl rfl rfl rfl Iff.rfl ?_ ?_
      · exact fun _ => by rw [State.uploading, sending]
      · simp
  | readError | sendFailed | closed =>
      refine stopping.of_same rfl rfl rfl rfl Iff.rfl ?_ ?_
      · simp [State.uploading, State.endRead]
      · simp [State.endRead]
  | @readStop stop reading signal =>
      have deaf : state.hearing = false := by
        cases hears : state.hearing with
        | false => rfl
        | true =>
            obtain ⟨-, waiting, -⟩ := stopping.hearing hears
            rw [waiting] at signal
            rcases signal with sent | ⟨dropped, -⟩ <;> contradiction
      refine ⟨fun hears => ?_, by simp [State.uploading, State.endRead], by simp [State.endRead],
        fun cause => ?_⟩
      · exact absurd (show state.hearing = true from hears) (by rw [deaf]; simp)
      · rcases cause with sent | ended
        · cases sent
        · obtain rfl : stop = .serverReported := by simpa [State.endRead] using ended
          rcases signal with sent | ⟨-, same⟩
          · exact stopping.reported (.inl sent)
          · cases same
  | takeEvent selecting _ => exact stopping.handle selecting _ _
  | channelGone selecting _ _ => exact stopping.failWrite (by rw [State.hearing, selecting])
  | @takeUpload reported selecting _ _ _ signal =>
      have hears : state.hearing = true := by rw [State.hearing, selecting]
      have taken : Stopping { state with uploadEnded := true, upload := .taken } :=
        stopping.of_same rfl rfl rfl rfl Iff.rfl id id
      cases reported with
      | failed => exact taken.failWrite hears
      | eof =>
          rw [State.handleUpload]
          split
          · obtain ⟨-, -, -, unreported⟩ := stopping.hearing hears
            obtain ⟨outcome, ended, -⟩ := reporting.upload .eof
              (signal.resolve_right (by simp))
            exact .endWrite (.inr (uploaded ⟨outcome, ended⟩))
              (fun told => absurd (unreported.symm.trans told) Bool.false_ne_true)
              fun earlier => stopping.reported (.inr earlier)
          · exact taken
  | writeSome writing _ _ _ =>
      exact stopping.of_same (by simp [State.hearing, writing]) rfl rfl rfl Iff.rfl id id
  | writeAll writing _ _ =>
      exact stopping.of_same (by simp [State.hearing, writing]) rfl rfl rfl Iff.rfl id id
  | writeFails writing =>
      have broken : Stopping { state with app := state.app.fail } :=
        stopping.of_same rfl rfl rfl rfl Iff.rfl id id
      exact broken.failWrite (by simp [State.hearing, writing])
  | shutdown shutting _ _ _ =>
      exact stopping.of_same (by simp [State.hearing, shutting]) rfl rfl rfl Iff.rfl id id
  | shutdownLast shutting ceased _ _ =>
      obtain ⟨-, -, -, unreported⟩ := stopping.hearing (by rw [State.hearing, shutting])
      exact .endWrite (.inr (uploaded (reporting.ended ceased)))
        (fun told => absurd (unreported.symm.trans told) Bool.false_ne_true)
        fun earlier => stopping.reported (.inr earlier)

/-- A write half that still hears events holds its receiver. -/
def Held (state : State) : Prop := state.hearing = true → state.events.receiving = true

/-- Every step of the relay keeps the receiver as long as the write half hears. -/
theorem Held.step {connId : ConnId} {state next : State} {action : Action} (held : Held state)
    (moved : step connId state action = some next) : Held next := by
  have busy {write : WriteHalf} (same : state.write = write)
      (runs : ∀ abort, write ≠ .ended abort) : state.events.receiving = true := by
    apply held
    unfold State.hearing
    rw [same]
    cases write with
    | ended abort => exact absurd rfl (runs abort)
    | selecting | writing | shuttingDown => rfl
  intro hears
  cases step_move moved with
  | event _ sent => exact (Channel.send_some sent).2.2
  | dropChannel | readStop | readApp | readEof | readError | sent | sendFailed | closed | finish =>
      exact held hears
  | @takeEvent event events _ received =>
      have receiving := (Channel.receive_some received).2.2
      cases event with
      | data bytes => cases bytes <;> exact receiving
      | close => exact receiving
      | error | exit => cases hears
  | channelGone | writeFails | shutdownLast => cases hears
  | @takeUpload reported selecting _ _ _ _ =>
      cases reported with
      | failed => cases hears
      | eof =>
          unfold State.handleUpload at hears ⊢
          dsimp only at hears ⊢
          split at hears
          · cases hears
          · next open_ =>
              rw [if_neg open_]
              exact busy selecting nofun
  | writeSome writing _ _ _ => exact busy writing nofun
  | writeAll writing _ _ => exact busy writing nofun
  | shutdown shutting _ _ _ => exact busy shutting nofun

end Tunnix.ClientRelay
