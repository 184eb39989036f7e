import Tunnix.Client.RelaySignals

namespace Tunnix.ClientRelay

/-- The read half has reported the end of the upload. -/
def State.uploadReported (state : State) : Prop := ∃ outcome, state.read = .ended outcome

/-- One of the two halves has failed. -/
def State.broken (state : State) : Prop := state.failed = true ∨ state.read = .ended .failed

/-- These chunks were posted as `Data`. -/
def State.chunks (state : State) : List Bytes :=
  state.posts.filterMap fun
    | .data _ chunk => some chunk
    | _ => none

/-- The read half polls the stop signal in its `select!`. -/
def State.pollsStop (state : State) : Prop := state.read = .selecting

/-- The write half polls the upload's end in its `select!` when no event is ready. -/
def State.pollsUpload (state : State) : Prop :=
  state.write = .selecting ∧ state.uploadEnded = false ∧ state.events.items = [] ∧
    state.registered = true

/-- The two halves stay coordinated. -/
structure Coordinated (connId : ConnId) (state : State) : Prop where
  unfailed : state.hearing = false → state.failed = false →
    state.uploadEnded = true ∧ state.uploadReported
  stoppable : state.hearing = false → state.uploadReported ∨ ∃ stop, state.stop = .sent stop
  aborted : .abort connId ∈ state.posts → state.broken
  abortEnds : .abort connId ∈ state.posts → state.hearing = false → state.failed = true
  exclusive : ¬ (.close connId ∈ state.posts ∧ .abort connId ∈ state.posts)
  stopOnce : state.pollsStop → state.stop ≠ .taken
  uploadOnce : state.pollsUpload → state.upload ≠ .taken

/-- Each signal was sent for the reason that its receiver relies on. -/
structure Signals (connId : ConnId) (state : State) : Prop where
  failure : state.stop ≠ .waiting → state.failed = true ∨ state.uploadReported
  stopped : ∀ stop, state.stop = .sent stop ∨ state.read = .ended (.stopped stop) →
    state.failed = true
  finished : state.hearing = false → state.failed = false → state.uploadEnded = true
  uploaded : state.uploadEnded = true → state.failed = true ∨ state.read ≠ .ended .failed
  stopDropped : state.stop = .dropped → state.uploadReported
  stopTaken : state.stop = .taken → state.uploadReported
  uploadTaken : state.upload = .taken → state.uploadEnded = true
  closes : .close connId ∈ state.posts → state.uploadClosed = true

theorem Signals.start (connId : ConnId) : Signals connId start where
  failure waits := absurd rfl waits
  stopped _ ends := by simp [ClientRelay.start] at ends
  finished := nofun
  uploaded := nofun
  stopDropped := nofun
  stopTaken := nofun
  uploadTaken := nofun
  closes := nofun

section Signals
variable {connId : ConnId} {state next : State}

/-- Only the signals, the reports and the ends of both loops enter. -/
theorem Signals.of_same (signals : Signals connId state) (hearing : next.hearing = state.hearing)
    (failed : next.failed = state.failed) (read : next.read = state.read)
    (posts : next.posts = state.posts) (stop : next.stop = state.stop)
    (upload : next.upload = state.upload) (ended : next.uploadEnded = state.uploadEnded) :
    Signals connId next where
  failure := by
    rw [stop, failed, State.uploadReported, read]
    exact signals.failure
  stopped := by
    rw [stop, failed, read]
    exact signals.stopped
  finished := by
    rw [hearing, failed, ended]
    exact signals.finished
  uploaded := by
    rw [ended, failed, read]
    exact signals.uploaded
  stopDropped := by
    rw [stop, State.uploadReported, read]
    exact signals.stopDropped
  stopTaken := by
    rw [stop, State.uploadReported, read]
    exact signals.stopTaken
  uploadTaken := by
    rw [upload, ended]
    exact signals.uploadTaken
  closes := by
    rw [posts, State.uploadClosed, read]
    exact signals.closes

/-- A failure is no signal by itself. -/
theorem Signals.fail (signals : Signals connId state) :
    Signals connId { state with failed := true } where
  failure _ := Or.inl rfl
  stopped _ _ := rfl
  finished := nofun
  uploaded _ := Or.inl rfl
  stopDropped := signals.stopDropped
  stopTaken := signals.stopTaken
  uploadTaken := signals.uploadTaken
  closes := signals.closes

/-- The write half ends when it has failed or when it knows the end of the upload. -/
theorem Signals.endWrite (signals : Signals connId state)
    (cause : state.failed = true ∨ state.uploadEnded = true ∧ state.uploadReported) :
    Signals connId state.endWrite where
  failure _ := cause.imp_right And.right
  stopped stop sends := by
    rcases sends with sent | ended
    · rw [State.endWrite_stop] at sent
      split at sent
      · next failed => exact failed
      · cases sent
    · exact signals.stopped stop (Or.inr ended)
  finished _ unfailed := by
    rcases cause with failed | ended
    · exact absurd (unfailed.symm.trans failed) Bool.false_ne_true
    · exact ended.1
  uploaded := signals.uploaded
  stopDropped dropped := by
    rw [State.endWrite_stop] at dropped
    split at dropped
    · cases dropped
    · next unfailed => exact (cause.resolve_left unfailed).2
  stopTaken taken := by
    rw [State.endWrite_stop] at taken
    split at taken <;> cases taken
  uploadTaken := signals.uploadTaken
  closes := signals.closes

theorem Signals.failWrite (signals : Signals connId state) : Signals connId state.failWrite :=
  signals.fail.endWrite (Or.inl rfl)

/-- The read half is stopped only after a failure, and only after an EOF has it posted a `Close`. -/
theorem Signals.endRead (signals : Signals connId state) {outcome : Upload}
    (continues : state.uploadEnded = false)
    (cause : ∀ stop, outcome = .stopped stop → state.failed = true)
    (closed : outcome = .eof ∨ state.uploadClosed = false) :
    Signals connId (state.endRead connId outcome) where
  failure _ := Or.inr ⟨outcome, rfl⟩
  stopped stop ends := by
    rcases ends with sent | ended
    · exact signals.stopped stop (Or.inl sent)
    · exact cause stop (ReadHalf.ended.inj ended)
  finished := signals.finished
  uploaded ended := absurd (continues.symm.trans ended) Bool.false_ne_true
  stopDropped _ := ⟨outcome, rfl⟩
  stopTaken _ := ⟨outcome, rfl⟩
  uploadTaken := nofun
  closes member := by
    rcases closed with rfl | open_
    · rfl
    · have silent : .close connId ∉ state.posts := by
        intro posted
        exact Bool.false_ne_true (open_.symm.trans (signals.closes posted))
      rcases outcome with _ | _ | _ | _ <;> simp [State.endRead, silent] at member ⊢

/-- The stop signal is taken by a read half that has ended. -/
theorem Signals.takeStop (signals : Signals connId state) (reported : state.uploadReported) :
    Signals connId { state with stop := .taken } where
  failure _ := Or.inr reported
  stopped stop ends := by
    rcases ends with sent | ended
    · cases sent
    · exact signals.stopped stop (Or.inr ended)
  finished := signals.finished
  uploaded := signals.uploaded
  stopDropped := nofun
  stopTaken _ := reported
  uploadTaken := signals.uploadTaken
  closes := signals.closes

/-- The read half goes on with its loop, or it posts a `Close` after the app's EOF. -/
theorem Signals.post (signals : Signals connId state) (unreported : ¬ state.uploadReported)
    {read : ReadHalf} (runs : ∀ outcome, read ≠ .ended outcome) {posts : List Message}
    (closes : .close connId ∈ posts → read = .closing) :
    Signals connId { state with read, posts } where
  failure signal := Or.inl ((signals.failure signal).resolve_right unreported)
  stopped stop ends := by
    rcases ends with sent | ended
    · exact signals.stopped stop (Or.inl sent)
    · exact absurd ended (runs _)
  finished := signals.finished
  uploaded _ := Or.inr (runs _)
  stopDropped dropped := absurd (signals.stopDropped dropped) unreported
  stopTaken taken := absurd (signals.stopTaken taken) unreported
  uploadTaken := signals.uploadTaken
  closes member := by
    rw [State.uploadClosed, show read = .closing from closes member]

/-- The end of the upload is taken once. -/
theorem Signals.takeUpload (signals : Signals connId state)
    (uploaded : state.read ≠ .ended .failed ∨ state.failed = true) :
    Signals connId { state with uploadEnded := true, upload := .taken } where
  failure := signals.failure
  stopped := signals.stopped
  finished _ _ := rfl
  uploaded _ := uploaded.symm
  stopDropped := signals.stopDropped
  stopTaken := signals.stopTaken
  uploadTaken _ := rfl
  closes := signals.closes

/-- Handling an event keeps the reasons of the signals. -/
theorem Signals.handle (signals : Signals connId state) (selecting : state.write = .selecting)
    (event : TunnelEvent) (events : Channel connChannelCapacity TunnelEvent) :
    Signals connId ((state.receive event events).handle event) := by
  have hears : state.hearing = true := by rw [State.hearing, selecting]
  have received : Signals connId (state.receive event events) :=
    signals.of_same rfl rfl rfl rfl rfl rfl rfl
  cases event with
  | data bytes =>
      cases bytes with
      | nil => exact received
      | cons byte rest => exact received.of_same hears.symm rfl rfl rfl rfl rfl rfl
  | close => exact received.of_same hears.symm rfl rfl rfl rfl rfl rfl
  | error message =>
      have told : Signals connId { state.receive (.error message) events with
          failed := true
          serverReported := true } := received.fail.of_same rfl rfl rfl rfl rfl rfl rfl
      exact told.endWrite (Or.inl rfl)
  | exit code => exact received.failWrite

/-- Every step keeps the reasons of the signals. -/
theorem Signals.step {action : Action} (signals : Signals connId state)
    (reporting : Reporting connId state) (moved : step connId state action = some next) :
    Signals connId next := by
  have unreported {read : ReadHalf} (same : state.read = read)
      (runs : ∀ outcome, read ≠ .ended outcome) : ¬ state.uploadReported := by
    rintro ⟨outcome, ended⟩
    exact runs outcome (same ▸ ended)
  have running {read : ReadHalf} (same : state.read = read)
      (runs : ∀ outcome, read ≠ .ended outcome) : state.uploadEnded = false := by
    apply Bool.eq_false_iff.mpr
    exact fun ended => unreported same runs (reporting.ended ended)
  have silent {read : ReadHalf} (same : state.read = read)
      (runs : read = .selecting ∨ ∃ chunk, read = .sending chunk) :
      state.uploadClosed = false ∧ .close connId ∉ state.posts := by
    have open_ : state.uploadClosed = false := by
      rw [State.uploadClosed, same]
      rcases runs with rfl | ⟨chunk, rfl⟩ <;> rfl
    exact ⟨open_, fun posted => Bool.false_ne_true (open_.symm.trans (signals.closes posted))⟩
  cases step_move moved with
  | event | dropChannel | finish => exact signals.of_same rfl rfl rfl rfl rfl rfl rfl
  | writeSome writing | writeAll writing =>
      exact signals.of_same (by simp [State.hearing, writing]) rfl rfl rfl rfl rfl rfl
  | shutdown shutting =>
      exact signals.of_same (by simp [State.hearing, shutting]) rfl rfl rfl rfl rfl rfl
  | @readStop stop reading signal =>
      have signalled : state.stop ≠ .waiting := by
        rcases signal with sent | ⟨dropped, _⟩
        · simp [sent]
        · simp [dropped]
      have failed := (signals.failure signalled).resolve_right (unreported reading (by simp))
      have ended : Signals connId (state.endRead connId (.stopped stop)) :=
        signals.endRead (running reading (by simp)) (fun _ _ => failed)
          (Or.inr (silent reading (Or.inl rfl)).1)
      exact ended.takeStop ⟨.stopped stop, rfl⟩
  | readApp reading =>
      apply signals.post (unreported reading (by simp)) (by simp)
      simp [(silent reading (Or.inl rfl)).2]
  | readEof reading =>
      apply signals.post (unreported reading (by simp)) (by simp)
      simp
  | readError reading =>
      exact signals.endRead (running reading (by simp)) (by simp)
        (Or.inr (silent reading (Or.inl rfl)).1)
  | sent sending =>
      apply signals.post (unreported sending (by simp)) (by simp)
      exact fun posted => absurd posted (silent sending (Or.inr ⟨_, rfl⟩)).2
  | sendFailed sending =>
      exact signals.endRead (running sending (by simp)) (by simp)
        (Or.inr (silent sending (Or.inr ⟨_, rfl⟩)).1)
  | @closed accepted closing =>
      have answered : Signals connId { state with closeAccepted := accepted } :=
        signals.of_same rfl rfl rfl rfl rfl rfl rfl
      exact answered.endRead (running closing (by simp)) (by simp) (Or.inl rfl)
  | takeEvent selecting _ => exact signals.handle selecting _ _
  | channelGone => exact signals.failWrite
  | @takeUpload reported selecting _ _ _ signal =>
      have sent := signal.resolve_right fun dropped => reporting.held dropped.1
      obtain ⟨outcome, ended, failed⟩ := reporting.upload reported sent
      cases reported with
      | failed =>
          have failing := signals.fail.takeUpload (Or.inr rfl)
          exact failing.endWrite (Or.inl rfl)
      | eof =>
          have other : outcome ≠ .failed := mt failed.mpr (by simp)
          have taken := signals.takeUpload (Or.inl (by simpa [ended] using other))
          rw [State.handleUpload]
          split
          · exact taken.endWrite (Or.inr ⟨rfl, outcome, ended⟩)
          · exact taken
  | writeFails =>
      have broken : Signals connId { state with app := state.app.fail } :=
        signals.of_same rfl rfl rfl rfl rfl rfl rfl
      exact broken.failWrite
  | @shutdownLast ok app shutting ceased =>
      have shut : Signals connId { state with app, write := .selecting } :=
        signals.of_same (by simp [State.hearing, shutting]) rfl rfl rfl rfl rfl rfl
      exact shut.endWrite (Or.inr ⟨ceased, reporting.ended ceased⟩)

end Signals

/-- The reports, the stop signal and their reasons hold together. -/
structure Joined (connId : ConnId) (state : State) : Prop where
  reporting : Reporting connId state
  stopping : Stopping state
  signals : Signals connId state

section Joined
variable {connId : ConnId} {state next : State} {action : Action}

theorem Joined.start (connId : ConnId) : Joined connId start :=
  ⟨.start connId, .start, .start connId⟩

theorem Joined.step (joined : Joined connId state) (moved : step connId state action = some next) :
    Joined connId next where
  reporting := joined.reporting.step moved
  stopping := joined.stopping.step joined.reporting moved
  signals := joined.signals.step joined.reporting moved

theorem Joined.coordinated (joined : Joined connId state) : Coordinated connId state := by
  obtain ⟨reporting, stopping, signals⟩ := joined
  constructor
  case unfailed =>
    intro deaf unfailed
    have ended := signals.finished deaf unfailed
    exact ⟨ended, reporting.ended ended⟩
  case stoppable =>
    intro deaf
    cases signal : state.stop with
    | waiting => exact absurd signal (stopping.signalled deaf)
    | sent stop => exact Or.inr ⟨stop, rfl⟩
    | dropped => exact Or.inl (signals.stopDropped signal)
    | taken => exact Or.inl (signals.stopTaken signal)
  case aborted =>
    intro posted
    rcases reporting.aborted.mp posted with failed | stopped
    · exact Or.inr failed
    · exact Or.inl (signals.stopped _ (Or.inr stopped))
  case abortEnds =>
    intro posted deaf
    by_contra unfailed
    rw [Bool.not_eq_true] at unfailed
    have ended := signals.finished deaf unfailed
    rcases reporting.aborted.mp posted with failed | stopped
    · have known := (signals.uploaded ended).resolve_right (fun other => other failed)
      exact Bool.false_ne_true (unfailed.symm.trans known)
    · have known := signals.stopped _ (Or.inr stopped)
      exact Bool.false_ne_true (unfailed.symm.trans known)
  case exclusive =>
    rintro ⟨close, abort⟩
    have closed := signals.closes close
    rw [State.uploadClosed] at closed
    rcases reporting.aborted.mp abort with ended | ended
    · rw [ended] at closed
      cases closed
    · rw [ended] at closed
      cases closed
  case stopOnce =>
    intro polls taken
    obtain ⟨outcome, ended⟩ := signals.stopTaken taken
    rw [show state.read = .selecting from polls] at ended
    cases ended
  case uploadOnce =>
    intro polls taken
    exact Bool.false_ne_true (polls.2.1.symm.trans (signals.uploadTaken taken))

/-- The end of the read half posts no chunk. -/
@[simp] theorem endRead_chunks (outcome : Upload) :
    (state.endRead connId outcome).chunks = state.chunks := by
  rcases outcome with _ | _ | _ | _ <;> simp [State.chunks, State.endRead]

/-- The write half posts nothing, and its end is a signal. -/
theorem endWrite_signal (state : State) :
    state.endWrite.stop ≠ .waiting ∧ state.endWrite.chunks = state.chunks := by
  constructor
  · rw [State.endWrite_stop]
    split <;> simp
  · rfl

/-- A read half that was sent a signal starts no further `Data` POST. -/
theorem chunks_of_signal (signal : state.stop ≠ .waiting)
    (moved : ClientRelay.step connId state action = some next) :
    next.stop ≠ .waiting ∧ next.chunks = state.chunks := by
  cases step_move moved with
  | event | dropChannel | writeSome | writeAll | shutdown | finish | sent => exact ⟨signal, rfl⟩
  | readStop => exact ⟨by simp [State.endRead], endRead_chunks _⟩
  | readApp _ waiting => exact absurd waiting signal
  | readEof _ waiting => exact absurd waiting signal
  | readError _ waiting => exact absurd waiting signal
  | sendFailed | closed => exact ⟨signal, endRead_chunks _⟩
  | @takeEvent event =>
      cases event with
      | data bytes => cases bytes <;> exact ⟨signal, rfl⟩
      | close => exact ⟨signal, rfl⟩
      | error | exit => exact endWrite_signal _
  | @takeUpload reported =>
      cases reported with
      | failed => exact endWrite_signal _
      | eof =>
          rw [State.handleUpload]
          split
          · exact endWrite_signal _
          · exact ⟨signal, rfl⟩
  | channelGone | writeFails | shutdownLast => exact endWrite_signal _

end Joined

end Tunnix.ClientRelay
