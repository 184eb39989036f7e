import Tunnix.Server.TcpReports
import Tunnix.Server.UploadEnd

namespace Tunnix.TcpRelay

/-- These actions are no failure of a socket or a delivery, no abort and no watchdog. -/
def Action.quiet : Action → Bool
  | .handleAbort | .loseWriter | .loseAbort | .readFails _ | .clientLost | .delivered false
  | .reported false | .watchdog | .writeFails _ => false
  | .handleData _ | .enqueue _ | .forget _ | .handleClose | .readTarget _ | .readEof | .takeAbort
  | .delivered true | .settle | .reported true | .releaseUnsent | .takeData | .writeSome _
  | .releaseFailed | .failureReported _ | .cleanup => true

theorem Action.stands_of_quiet {action : Action} (quiet : action.quiet = true) :
    action.breaks = false := by
  cases action with
  | writeFails error => cases quiet
  | _ => rfl

/-- An undisturbed relay queues the target's output and ends it with one `Close`. -/
structure Calm (state : State) : Prop where
  reading : state.read.lossless = true ∨ state.read = .done
  unnotified : state.notified = false
  running : state.read ≠ .done → state.queued = (chunks state.queued).map .data
  ended : state.read = .done → state.queued = (chunks state.queued).map .data ++ [.close]

theorem Calm.start : Calm start where
  reading := .inl rfl
  unnotified := rfl
  running _ := rfl
  ended := nofun

/-- Only the read task, its signal and its reports enter an undisturbed output. -/
theorem Calm.of_same {state next : State} (calm : Calm state) (read : next.read = state.read)
    (notified : next.notified = state.notified) (queued : next.queued = state.queued) :
    Calm next where
  reading := by rw [read]; exact calm.reading
  unnotified := notified.trans calm.unnotified
  running := by rw [read, queued]; exact calm.running
  ended := by rw [read, queued]; exact calm.ended

/-- The read task moves on and has not reported its end. -/
theorem Calm.move {state next : State} (calm : Calm state) (running : state.read ≠ .done)
    (lossless : next.read.lossless = true) (notified : next.notified = state.notified)
    (queued : next.queued = state.queued) : Calm next where
  reading := .inl lossless
  unnotified := notified.trans calm.unnotified
  running _ := by rw [queued]; exact calm.running running
  ended done := by
    rw [done] at lossless
    cases lossless

/-- An undisturbed write task has no failure to report. -/
theorem Upload.unfailing {state : State} (upload : Upload state) (error : String) :
    state.write ≠ .failing error ∧ state.write ≠ .reporting error := by
  rcases upload.looping with done | selecting | ⟨rest, writing⟩
  · rw [done]
    exact ⟨nofun, nofun⟩
  · rw [selecting]
    exact ⟨nofun, nofun⟩
  · rw [writing]
    exact ⟨nofun, nofun⟩

/-- Every quiet step keeps the relay undisturbed. -/
theorem Calm.step {state next : State} {action : Action} (calm : Calm state)
    (upload : Upload state) (quiet : action.quiet = true)
    (moved : step state action = some next) : Calm next := by
  have running {read : ReadTask} (same : state.read = read) (unended : read ≠ .done) :
      state.read ≠ .done := same ▸ unended
  cases step_move moved with
  | handleData | discardData | enqueue | refuse | forget | handleClose | takeEmpty | takeData |
    sendersGone | writeSome | writeAll | releaseFailed | cleanup => exact calm.of_same rfl rfl rfl
  | handleAbort | loseWriter | loseAbort | readFails | clientLost | undelivered | watchdog |
    writeFails => cases quiet
  | readTarget selecting _ _ => exact calm.move (running selecting nofun) rfl rfl rfl
  | readEof selecting => exact calm.move (running selecting nofun) rfl rfl rfl
  | takeAbort _ notified => cases calm.unnotified.symm.trans notified
  | @delivered chunk sending =>
      have before := calm.running (running sending nofun)
      refine ⟨.inl rfl, calm.unnotified, fun _ => ?_, nofun⟩
      show state.queued ++ [.data chunk] = (chunks (state.queued ++ [.data chunk])).map .data
      rw [chunks_append, chunks_data, List.map_append, ← before]
      rfl
  | @settle reason ended =>
      have lossless := calm.reading.resolve_right (running ended nofun)
      cases reason with
      | eof => exact calm.move (running ended nofun) rfl rfl rfl
      | failed | clientGone | aborted =>
          rw [ended] at lossless
          cases lossless
  | @reported report ok reporting =>
      have lossless := calm.reading.resolve_right (running reporting nofun)
      cases ok with
      | false => cases quiet
      | true =>
          have close : report = .close := by
            rw [reporting] at lossless
            cases report with
            | close => rfl
            | data | readFailed | writeFailed | clientUnreachable => cases lossless
          subst close
          refine ⟨.inr rfl, calm.unnotified, fun unended => absurd rfl unended, fun _ => ?_⟩
          show state.queued ++ [.close] = (chunks (state.queued ++ [.close])).map .data ++ [.close]
          rw [chunks_append, chunks_silent rfl, List.append_nil,
            ← calm.running (running reporting nofun)]
  | releaseUnsent unsent =>
      have lossless := calm.reading.resolve_right (running unsent nofun)
      rw [unsent] at lossless
      cases lossless
  | failureReported reporting => exact absurd reporting (upload.unfailing _).2
  | failureUnreported reporting => exact absurd reporting (upload.unfailing _).2

/-- A quiet step releases the writer only for the client's `Close`. -/
theorem Calm.closedFirst {state next : State} {action : Action} (calm : Calm state)
    (quiet : action.quiet = true) (moved : TcpRelay.step state action = some next) :
    ClosedFirst state action := by
  cases step_move moved with
  | handleAbort | loseWriter | watchdog | writeFails => cases quiet
  | @settle reason ended =>
      rcases calm.reading with lossless | done
      · cases reason with
        | eof => exact .inl ended
        | failed | clientGone | aborted =>
            rw [ended] at lossless
            cases lossless
      · rw [ended] at done
        cases done
  | releaseUnsent unsent =>
      rcases calm.reading with lossless | done
      · rw [unsent] at lossless
        cases lossless
      · rw [unsent] at done
        cases done
  | handleData | discardData | enqueue | refuse | forget | handleClose | loseAbort | readTarget |
    readEof | readFails | takeAbort | clientLost | delivered | undelivered | reported | takeEmpty |
    takeData | sendersGone | writeSome | writeAll | releaseFailed | failureReported |
    failureUnreported | cleanup => trivial

/-- A finished relay has ended both of its tasks. -/
def Settled (state : State) : Prop :=
  state.finished = true → state.read = .done ∧ state.write = .done

/-- Every step keeps a finished relay settled. -/
theorem Settled.step {state next : State} {action : Action} (settled : Settled state)
    (moved : step state action = some next) : Settled next := by
  intro finished
  have reads {claim : Prop} (ceased : state.finished = true) {read : ReadTask}
      (same : state.read = read) (runs : read ≠ .done) : claim :=
    absurd (same.symm.trans (settled ceased).1) runs
  have writes {claim : Prop} (ceased : state.finished = true) {write : WriteTask}
      (same : state.write = write) (runs : write ≠ .done) : claim :=
    absurd (same.symm.trans (settled ceased).2) runs
  cases step_move moved with
  | cleanup read write _ => exact ⟨read, write⟩
  | handleData | discardData | enqueue | refuse | forget | handleClose | handleAbort | loseWriter |
    loseAbort => exact settled finished
  | readTarget selecting _ _ => exact reads finished selecting nofun
  | readEof selecting => exact reads finished selecting nofun
  | readFails selecting => exact reads finished selecting nofun
  | takeAbort selecting _ => exact reads finished selecting nofun
  | clientLost selecting => exact reads finished selecting nofun
  | delivered sending => exact reads finished sending nofun
  | undelivered sending => exact reads finished sending nofun
  | @settle reason ended =>
      have ceased : state.finished = true := by cases reason <;> exact finished
      exact reads ceased ended nofun
  | @reported report ok reporting =>
      have ceased : state.finished = true := by cases ok <;> exact finished
      exact reads ceased reporting nofun
  | releaseUnsent unsent => exact reads finished unsent nofun
  | takeEmpty selecting _ => exact writes finished selecting nofun
  | takeData selecting _ _ => exact writes finished selecting nofun
  | sendersGone selecting _ _ _ => exact writes finished selecting nofun
  | watchdog selecting _ => exact writes finished selecting nofun
  | writeSome writing _ _ => exact writes finished writing nofun
  | writeAll writing _ => exact writes finished writing nofun
  | writeFails writing => exact writes finished writing nofun
  | releaseFailed failing => exact writes finished failing nofun
  | failureReported reporting => exact writes finished reporting nofun
  | failureUnreported reporting => exact writes finished reporting nofun

/-- The target is shown FIN by the end of the write task, on a connection that stands. -/
structure Shut (state : State) : Prop where
  standing : state.target.broken = false
  unreset : state.target.reset = false
  shut : state.write = .done → state.target.fin = true

theorem Shut.start : Shut start := ⟨rfl, rfl, nofun⟩

/-- An ending write task shuts the target's connection. -/
theorem Shut.endWrite {state : State} (shut : Shut state) : Shut state.endWrite := by
  refine ⟨shut.standing, shut.unreset, fun _ => ?_⟩
  rw [State.endWrite_target, Socket.shutdown_fin, shut.standing]
  exact Bool.or_true _

/-- Every step that breaks no socket keeps what the target is shown at the end. -/
theorem Shut.step {state next : State} {action : Action} (shut : Shut state)
    (stands : action.breaks = false) (moved : step state action = some next) : Shut next := by
  cases step_move moved with
  | writeFails => cases stands
  | sendersGone | watchdog | failureUnreported => exact shut.endWrite
  | @failureReported error _ =>
      have queued : Shut (state.queue (.writeFailed error)) :=
        ⟨shut.standing, shut.unreset, shut.shut⟩
      exact queued.endWrite
  | takeData | writeSome | writeAll | releaseFailed =>
      exact ⟨shut.standing, shut.unreset, nofun⟩
  | @settle reason _ =>
      cases reason <;> exact ⟨shut.standing, shut.unreset, shut.shut⟩
  | @reported report ok _ =>
      cases ok <;> exact ⟨shut.standing, shut.unreset, shut.shut⟩
  | handleData | discardData | enqueue | refuse | forget | handleClose | handleAbort | loseWriter |
    loseAbort | readTarget | readEof | readFails | takeAbort | clientLost | delivered |
    undelivered | releaseUnsent | takeEmpty | cleanup =>
      exact ⟨shut.standing, shut.unreset, shut.shut⟩

/-- A step queues its reports behind the earlier ones. -/
theorem queued_prefix {state next : State} {action : Action}
    (moved : step state action = some next) : state.queued <+: next.queued := by
  cases step_move moved with
  | delivered => exact List.prefix_append _ _
  | failureReported => exact List.prefix_append _ _
  | @settle reason _ => cases reason <;> exact List.prefix_refl _
  | @reported report ok _ =>
      cases ok with
      | true => exact List.prefix_append _ _
      | false => exact List.prefix_refl _
  | handleData | discardData | enqueue | refuse | forget | handleClose | handleAbort | loseWriter |
    loseAbort | readTarget | readEof | readFails | takeAbort | clientLost | undelivered |
    releaseUnsent | takeEmpty | takeData | sendersGone | watchdog | writeSome | writeAll |
    writeFails | releaseFailed | failureUnreported | cleanup => exact List.prefix_refl _

end Tunnix.TcpRelay
