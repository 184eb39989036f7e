import Tunnix.Server.PtyRelay

namespace Tunnix.PtyRelay

/-- The relay queues its output in order, and everything once the read task has ended without a
drop. -/
structure Delivered (state : State) : Prop where
  part : datas state.queued <+: state.produced
  whole : state.read ≠ .ended true → datas state.queued ++ state.read.pending = state.produced
  silent : ∀ event, state.main = .reporting event → event.data? = none
  unspawned : state.main = .setup → state.read = .unspawned

/-- The relay reports the status its child has exited with. -/
structure Reaped (history : List Action) (state : State) : Prop where
  draining : ∀ code, state.main = .draining code → .childExits code ∈ history
  stopping : ∀ code, state.main = .stopping code → .childExits code ∈ history
  reporting : ∀ code, state.main = .reporting (.exit code) → .childExits code ∈ history
  queued : ∀ code, .exit code ∈ state.queued → .childExits code ∈ history

section Invariants
variable {state next : State} {action : Action} {history : List Action}

theorem Delivered.start : Delivered start where
  part := List.prefix_rfl
  whole _ := rfl
  silent _ := nofun
  unspawned _ := rfl

/-- The main task may move on as long as it keeps to its reports. -/
theorem Delivered.move (delivered : Delivered state) (queued : next.queued = state.queued)
    (produced : next.produced = state.produced)
    (read : next.read ≠ .ended true → state.read ≠ .ended true ∧
      next.read.pending = state.read.pending)
    (silent : ∀ event, next.main = .reporting event → event.data? = none)
    (unspawned : next.main = .setup → next.read = .unspawned) : Delivered next where
  part := by
    rw [queued, produced]
    exact delivered.part
  whole kept := by
    obtain ⟨before, pending⟩ := read kept
    rw [queued, produced, pending]
    exact delivered.whole before
  silent := silent
  unspawned := unspawned

/-- Awaiting a handle moves the main task only. -/
theorem Delivered.await (delivered : Delivered state) {handle : JoinHandle}
    {joined : JoinHandle → State} (moved : ∀ after, Delivered (joined after)) :
    Delivered (state.await handle joined) := by
  rcases state.await_cases handle joined with ⟨-, same⟩ | ⟨-, same⟩
  · rw [same]
    exact moved _
  · rw [same]
    exact delivered.move rfl rfl (fun kept => ⟨kept, rfl⟩) nofun nofun

/-- An aborted read task has dropped its chunk. -/
theorem ReadTask.abort_pending {read : ReadTask} (kept : read.abort ≠ .ended true) :
    read ≠ .ended true ∧ read.abort.pending = read.pending := by
  cases read with
  | sending chunk => exact absurd rfl kept
  | unspawned | selecting => exact ⟨nofun, rfl⟩
  | ended dropped => exact ⟨kept, rfl⟩

/-- Every step keeps the output in order. -/
theorem Delivered.step (delivered : Delivered state) (moved : step state action = some next) :
    Delivered next := by
  have same {read : ReadTask} (kept : read ≠ .ended true) :
      read ≠ .ended true ∧ read.pending = read.pending := ⟨kept, rfl⟩
  cases step_move moved with
  | handleClose | handleAbort | handleResize | writerGone | writeFails | takeResize =>
      exact delivered.move rfl rfl same delivered.silent delivered.unspawned
  | setupDone setup =>
      refine delivered.move rfl rfl (fun _ => ?_) (by simp) (by simp)
      rw [delivered.unspawned setup]
      exact ⟨by simp, rfl⟩
  | setupFails =>
      refine delivered.move rfl rfl same ?_ (by simp)
      rintro event ⟨⟩
      rfl
  | readMaster selecting =>
      refine ⟨delivered.part.trans (List.prefix_append _ _), fun _ => ?_, delivered.silent,
        fun setup => ?_⟩
      · have whole := delivered.whole (by simp [selecting])
        rw [selecting, ReadTask.pending, List.append_nil] at whole
        exact congrArg (· ++ [_]) whole
      · rw [delivered.unspawned setup] at selecting
        cases selecting
  | readEnds selecting =>
      refine delivered.move rfl rfl (fun _ => ?_) delivered.silent fun setup => ?_
      · rw [selecting]
        exact ⟨by simp, rfl⟩
      · rw [delivered.unspawned setup] at selecting
        cases selecting
  | @delivered chunk ok sending =>
      have whole := delivered.whole (by simp [sending])
      rw [sending, ReadTask.pending] at whole
      have spawned (setup : state.main = .setup) : False := by
        rw [delivered.unspawned setup] at sending
        cases sending
      cases ok with
      | true =>
          have all : datas (state.queued ++ [.data chunk]) = state.produced := by
            rw [datas_append, datas_data, whole]
          refine ⟨?_, fun _ => ?_, delivered.silent, fun setup => (spawned setup).elim⟩
          · exact all ▸ List.prefix_rfl
          · exact (List.append_nil _).trans all
      | false => exact ⟨delivered.part, fun kept => absurd rfl kept, delivered.silent,
          fun setup => (spawned setup).elim⟩
  | childExits => exact delivered.await fun _ => delivered.move rfl rfl same (by simp) (by simp)
  | clientLeaves => exact delivered.await fun _ => delivered.move rfl rfl same (by simp) (by simp)
  | watchdog => exact delivered.move rfl rfl same (by simp) (by simp)
  | drained => exact delivered.await fun _ => delivered.move rfl rfl same (by simp) (by simp)
  | drainTimesOut =>
      exact delivered.await fun _ => delivered.move rfl rfl ReadTask.abort_pending (by simp) (by simp)
  | writeStopped =>
      refine delivered.await fun _ => delivered.move rfl rfl same ?_ (by simp)
      rintro event ⟨⟩
      rfl
  | @reported event ok reporting =>
      have silent := delivered.silent event reporting
      obtain ⟨read, produced, chunks⟩ : (state.queue event ok).read = state.read ∧
          (state.queue event ok).produced = state.produced ∧
          datas (state.queue event ok).queued = datas state.queued := by
        cases ok with
        | true =>
            refine ⟨rfl, rfl, (datas_append _ _).trans ?_⟩
            rw [datas_silent silent, List.append_nil]
        | false => exact ⟨rfl, rfl, rfl⟩
      have after : ∀ later, afterReport event ok = .reporting later → later = .close := by
        intro later reports
        cases event <;> cases ok <;> cases reports
        rfl
      refine ⟨?_, fun kept => ?_, ?_, fun setup => ?_⟩
      · rw [chunks, produced]
        exact delivered.part
      · rw [chunks, produced, read] at *
        exact delivered.whole kept
      · intro later reports
        rw [after later reports]
        rfl
      · cases event <;> cases ok <;> cases setup
  | cleanup => exact delivered.move rfl rfl same (by simp) (by simp)

theorem Reaped.start : Reaped [] start := ⟨nofun, nofun, nofun, nofun⟩

/-- What does not concern the main task and its reports keeps the account of the exit status. -/
theorem Reaped.of_same (reaped : Reaped history state) (main : next.main = state.main)
    (queued : ∀ code, .exit code ∈ next.queued → .exit code ∈ state.queued) :
    Reaped history next where
  draining := by rw [main]; exact reaped.draining
  stopping := by rw [main]; exact reaped.stopping
  reporting := by rw [main]; exact reaped.reporting
  queued code member := reaped.queued code (queued code member)

/-- The main task moves on with a status that is accounted for. -/
theorem Reaped.move (reaped : Reaped history state) (queued : next.queued = state.queued)
    (draining : ∀ code, next.main = .draining code → .childExits code ∈ history)
    (stopping : ∀ code, next.main = .stopping code → .childExits code ∈ history)
    (reporting : ∀ code, next.main = .reporting (.exit code) → .childExits code ∈ history) :
    Reaped history next where
  draining := draining
  stopping := stopping
  reporting := reporting
  queued := by rw [queued]; exact reaped.queued

/-- Awaiting a handle moves the main task only. -/
theorem Reaped.await (reaped : Reaped history state) {handle : JoinHandle}
    {joined : JoinHandle → State} (moved : ∀ after, Reaped history (joined after)) :
    Reaped history (state.await handle joined) := by
  rcases state.await_cases handle joined with ⟨-, same⟩ | ⟨-, same⟩
  · rw [same]
    exact moved _
  · rw [same]
    exact reaped.move rfl nofun nofun nofun

/-- The account grows with the history. -/
theorem Reaped.later (reaped : Reaped history state) (action : Action) :
    Reaped (history ++ [action]) state where
  draining code main := List.mem_append_left _ (reaped.draining code main)
  stopping code main := List.mem_append_left _ (reaped.stopping code main)
  reporting code main := List.mem_append_left _ (reaped.reporting code main)
  queued code member := List.mem_append_left _ (reaped.queued code member)

/-- Every step keeps the account of the exit status. -/
theorem Reaped.step (reaped : Reaped history state) (moved : step state action = some next) :
    Reaped (history ++ [action]) next := by
  have later := reaped.later action
  cases step_move moved with
  | handleClose | handleAbort | handleResize | writerGone | writeFails | takeResize | readMaster
  | readEnds => exact later.of_same rfl fun _ => id
  | setupDone | setupFails | watchdog | cleanup => exact later.move rfl nofun nofun nofun
  | @delivered chunk ok =>
      cases ok with
      | true =>
          refine later.of_same rfl fun code member => ?_
          rcases List.mem_append.mp member with before | last
          · exact before
          · cases List.mem_singleton.mp last
      | false => exact later.of_same rfl fun _ => id
  | @childExits code =>
      refine later.await fun _ => later.move rfl ?_ nofun nofun
      rintro other ⟨⟩
      exact List.mem_append_right _ (List.mem_singleton_self _)
  | clientLeaves => exact later.await fun _ => later.move rfl nofun nofun nofun
  | drained draining =>
      refine later.await fun _ => later.move rfl nofun ?_ nofun
      rintro other ⟨⟩
      exact later.draining _ draining
  | drainTimesOut draining =>
      refine later.await fun _ => later.move rfl nofun ?_ nofun
      rintro other ⟨⟩
      exact later.draining _ draining
  | writeStopped stopping =>
      refine later.await fun _ => later.move rfl nofun nofun ?_
      rintro other ⟨⟩
      exact later.stopping _ stopping
  | @reported event ok reporting =>
      have after : ∀ code, afterReport event ok ≠ .reporting (.exit code) := by
        intro code reports
        cases event <;> cases ok <;> cases reports
      refine ⟨?_, ?_, fun code reports => absurd reports (after code), fun code member => ?_⟩
      · intro code draining
        cases event <;> cases ok <;> cases draining
      · intro code stopping
        cases event <;> cases ok <;> cases stopping
      · cases ok with
        | false => exact later.queued code member
        | true =>
            rcases List.mem_append.mp member with before | last
            · exact later.queued code before
            · rw [← List.mem_singleton.mp last] at reporting
              exact later.reporting code reporting

end Invariants

end Tunnix.PtyRelay
