import Tunnix.Server.TcpReports

namespace Tunnix.TcpRelay

/-- The read task reports a failed target read or an unreachable client by an `Error`. -/
def Report.readError : Report → Bool
  | .readFailed _ | .clientUnreachable => true
  | .data _ | .close | .writeFailed _ => false

theorem Report.readError_terminal {report : Report} (error : report.readError = true) :
    report.terminal = true := by
  cases report with
  | readFailed | clientUnreachable => rfl
  | data | close | writeFailed => cases error

/-- An ended read task has taken nothing more from the target since this earlier state, and
only a failed write was reported since. -/
structure Silent (earlier state : State) : Prop where
  done : state.read = .done
  produced : state.produced = earlier.produced
  queued : ∃ later, state.queued = earlier.queued ++ later ∧
    ∀ report ∈ later, ∃ error, report = .writeFailed error

theorem Silent.start {state : State} (done : state.read = .done) : Silent state state :=
  ⟨done, rfl, [], (List.append_nil _).symm, nofun⟩

/-- A step without reports keeps an ended read task silent. -/
theorem Silent.of_same {earlier state next : State} (silent : Silent earlier state)
    (read : next.read = state.read) (produced : next.produced = state.produced)
    (queued : next.queued = state.queued) : Silent earlier next :=
  ⟨read.trans silent.done, produced.trans silent.produced, by rw [queued]; exact silent.queued⟩

/-- The write task's failure is the only report that can still follow. -/
theorem Silent.writeFailed {earlier state : State} (silent : Silent earlier state)
    (error : String) : Silent earlier (state.queue (.writeFailed error)) := by
  obtain ⟨done, produced, later, queued, failures⟩ := silent
  refine ⟨done, produced, later ++ [.writeFailed error], ?_, ?_⟩
  · rw [State.queue_queued, queued, List.append_assoc]
  · intro report last
    rcases List.mem_append.mp last with before | here
    · exact failures report before
    · exact ⟨error, List.mem_singleton.mp here⟩

/-- Every step keeps an ended read task silent. -/
theorem Silent.step {earlier state next : State} {action : Action} (silent : Silent earlier state)
    (moved : step state action = some next) : Silent earlier next := by
  have ended {claim : Prop} {read : ReadTask} (same : state.read = read) (running : read ≠ .done) :
      claim := absurd (same.symm.trans silent.done) running
  cases step_move moved with
  | readTarget selecting _ _ => exact ended selecting nofun
  | readEof selecting => exact ended selecting nofun
  | readFails selecting => exact ended selecting nofun
  | takeAbort selecting _ => exact ended selecting nofun
  | clientLost selecting => exact ended selecting nofun
  | delivered sending => exact ended sending nofun
  | undelivered sending => exact ended sending nofun
  | settle reason => exact ended reason nofun
  | reported reporting => exact ended reporting nofun
  | releaseUnsent unsent => exact ended unsent nofun
  | failureReported _ => exact (silent.writeFailed _).of_same rfl rfl rfl
  | handleData | discardData | enqueue | refuse | forget | handleClose | handleAbort | loseWriter |
    loseAbort | takeEmpty | takeData | sendersGone | watchdog | writeSome | writeAll | writeFails |
    releaseFailed | failureUnreported | cleanup => exact silent.of_same rfl rfl rfl

/-- The read task is past a failed target read and no `Close` was queued. -/
structure ReadFailed (state : State) : Prop where
  unclosed : .close ∉ state.queued
  past : (∃ error, state.read = .ended (.failed error)) ∨
    (∃ error, state.read = .reporting (.readFailed error)) ∨ state.read = .unsent ∨
    state.read = .done

/-- Every step after a failed target read leaves the queue without `Close`. -/
theorem ReadFailed.step {state next : State} {action : Action} (failed : ReadFailed state)
    (moved : step state action = some next) : ReadFailed next := by
  obtain ⟨unclosed, past⟩ := failed
  cases step_move moved with
  | readTarget selecting _ _ => simp [selecting] at past
  | readEof selecting => simp [selecting] at past
  | readFails selecting => simp [selecting] at past
  | takeAbort selecting _ => simp [selecting] at past
  | clientLost selecting => simp [selecting] at past
  | delivered sending => simp [sending] at past
  | undelivered sending => simp [sending] at past
  | @settle reason ended =>
      obtain ⟨error, rfl⟩ : ∃ error, reason = .failed error := by simpa [ended] using past
      exact ⟨unclosed, .inr (.inl ⟨error, rfl⟩)⟩
  | @reported report ok reporting =>
      obtain ⟨error, rfl⟩ : ∃ error, report = .readFailed error := by simpa [reporting] using past
      cases ok with
      | true => exact ⟨by simpa [State.reported] using unclosed, .inr (.inr (.inr rfl))⟩
      | false => exact ⟨unclosed, .inr (.inr (.inl rfl))⟩
  | releaseUnsent _ => exact ⟨unclosed, .inr (.inr (.inr rfl))⟩
  | failureReported _ => exact ⟨by simpa using unclosed, past⟩
  | handleData | discardData | enqueue | refuse | forget | handleClose | handleAbort | loseWriter |
    loseAbort | takeEmpty | takeData | sendersGone | watchdog | writeSome | writeAll | writeFails |
    releaseFailed | failureUnreported | cleanup => exact ⟨unclosed, past⟩

/-- A run in which a target read failed never queues `Close`. -/
theorem readFails_unclosed {actions : List Action} {final : State} {error : String}
    (ran : Machine.run step start actions = some final) (failed : .readFails error ∈ actions) :
    .close ∉ final.queued := by
  obtain ⟨before, after, rfl⟩ := List.append_of_mem failed
  obtain ⟨middle, reached, rest⟩ := Machine.run_append.mp ran
  obtain ⟨next, moved, later⟩ := Machine.run_cons.mp rest
  have reports := Machine.run_invariant Reports.step .start reached
  have past : ReadFailed next := by
    cases step_move moved with
    | readFails selecting =>
        exact ⟨reports.unclosed (by rw [selecting]; nofun), .inl ⟨error, rfl⟩⟩
  exact (Machine.run_invariant ReadFailed.step past later).unclosed

/-- After an `Error` of the read task no chunk, no `Close` and no read of the target follows,
and a run with a failed target read has no `Close` at all. -/
theorem read_error_final {before after : List Action} {middle final : State}
    (reached : Machine.run step start before = some middle)
    (ran : Machine.run step middle after = some final) :
    ((∃ report ∈ middle.queued, report.readError = true) →
      final.produced = middle.produced ∧ ∃ later, final.queued = middle.queued ++ later ∧
        ∀ report ∈ later, ∃ error, report = .writeFailed error) ∧
    ((∃ error, .readFails error ∈ before ++ after) → .close ∉ final.queued) := by
  constructor
  · rintro ⟨report, queued, error⟩
    have reports := Machine.run_invariant Reports.step .start reached
    have done : middle.read = .done := by
      by_contra running
      have open_ := reports.unended running report queued
      exact Bool.false_ne_true (open_.symm.trans (Report.readError_terminal error))
    have silent := Machine.run_invariant Silent.step (.start done) ran
    exact ⟨silent.produced, silent.queued⟩
  · rintro ⟨error, failed⟩
    exact readFails_unclosed (Machine.run_append.mpr ⟨middle, reached, ran⟩) failed

/-- A target whose read fails is reported by an `Error`, and nothing follows it. -/
theorem read_error_final_reset : ∃ middle final,
    Machine.run step start [.readFails "reset", .settle, .reported true] = some middle ∧
    Machine.run step middle [.takeData, .cleanup] = some final ∧
    final.produced = middle.produced ∧ .close ∉ final.queued := by
  obtain ⟨final, ran⟩ := Option.isSome_iff_exists.mp
    (show (Machine.run step start ([.readFails "reset", .settle, .reported true] ++
      [.takeData, .cleanup])).isSome = true by rfl)
  obtain ⟨middle, reached, rest⟩ := Machine.run_append.mp ran
  have queued : some middle.queued = some [.readFailed "reset"] :=
    (congrArg (Option.map State.queued) reached).symm
  obtain ⟨silent, unclosed⟩ := read_error_final reached rest
  refine ⟨middle, final, reached, rest, (silent ⟨.readFailed "reset", ?_, rfl⟩).1,
    unclosed ⟨"reset", by simp⟩⟩
  rw [Option.some.inj queued]
  exact List.mem_singleton.mpr rfl

/-- A target that ends its output and then refuses the upload has both a `Close` and a later
write failure queued for the client. -/
theorem close_before_write_failure : ∃ final,
    Machine.run step start [.readEof, .settle, .reported true, .handleData [1], .enqueue 0, .takeData,
      .writeFails "reset", .releaseFailed, .failureReported true] = some final ∧
    final.queued = [.close, .writeFailed "reset"] := by
  exact Option.map_eq_some_iff.mp rfl

end Tunnix.TcpRelay
