import Tunnix.Server.PtyRelay

namespace Tunnix.PtyRelay

/-- The relay's task has ended. -/
def Main.over : Main → Bool
  | .finished | .panicked => true
  | .setup | .waiting | .killed | .draining _ | .stopping _ | .reporting _ | .leaving => false

/-- The relay has this many stages of its teardown before it. -/
def Main.remaining : Main → Nat
  | .setup => 8
  | .waiting => 7
  | .killed => 6
  | .draining _ => 5
  | .stopping _ => 4
  | .reporting (.exit _) => 3
  | .reporting _ => 2
  | .leaving => 1
  | .finished | .panicked => 0

/-- The relay delivers its exit status, or it has tried to. -/
def State.exitTried (state : State) : Prop :=
  (∃ code, state.main = .reporting (.exit code)) ∨
    ∃ code attempts, (.exit code, attempts) ∈ state.tried

/-- The teardown joins the read task before it reports, leaves no entry behind, and always has a
next stage until it has finished. -/
structure Teardown (state : State) : Prop where
  unbroken : state.main ≠ .panicked
  stopped : state.exitTried → state.read.runs = false
  attempted : state.main = .finished →
    ∃ code attempts, (.exit code, attempts) ∈ state.tried ∧ 0 < attempts
  released : state.main = .finished → state.registered = false ∧ state.resizable = false
  onward : state.main.over = false → ∃ action next, step state action = some next ∧
    next.main.remaining < state.main.remaining
  shrinks : ∀ action next, step state action = some next →
    next.main.remaining ≤ state.main.remaining

/-- The relay has not yet left its loop. -/
def Main.loops : Main → Bool
  | .setup | .waiting => true
  | .killed | .draining _ | .stopping _ | .reporting _ | .leaving | .finished | .panicked => false

/-- The relay has not yet awaited the write task at the end of its teardown. -/
def Main.awaitsWrite : Main → Bool
  | .setup | .waiting | .killed | .draining _ | .stopping _ => true
  | .reporting _ | .leaving | .finished | .panicked => false

/-- The relay leaves its loop through the branch of its write task. -/
def Doomed (state : State) : Prop :=
  state.main = .panicked ∨ state.main.awaitsWrite = true ∧ state.writeHandle = .taken

/-- The relay awaits each other handle once, and its reports are the exit status and the `Close`. -/
structure Stages (state : State) : Prop where
  spawned : state.main ≠ .setup
  waits : state.main = .waiting ∨ state.main = .killed → state.waitHandle = .owed
  reads : state.main.reports = false → state.main ≠ .panicked → state.readHandle = .owed
  writes : state.main.loops = true → state.writeHandle = .owed
  joined : state.main.reports = true → state.read.runs = false
  exits : ∀ event, state.main = .reporting event → event = .close ∨ ∃ code, event = .exit code
  early : state.main.awaitsWrite = true → state.tried = []
  tried : state.main = .reporting .close ∨ state.main.left = true →
    ∃ code attempts, (.exit code, attempts) ∈ state.tried ∧ 0 < attempts
  released : state.main = .finished → state.registered = false ∧ state.resizable = false

/-- A delivery has at least one attempt. -/
theorem State.attempts_pos (state : State) : 0 < state.attempts := by
  rw [State.attempts]
  split
  · exact Nat.one_pos
  · decide

section Stages
variable {state next : State}

/-- The loop begins once the PTY is set up. -/
theorem Stages.start (moved : step start .setupDone = some next) : Stages next := by
  cases moved
  exact ⟨nofun, fun _ => rfl, fun _ _ => rfl, fun _ => rfl, nofun, nofun, fun _ => rfl,
    fun gone => by simp [Main.left] at gone, nofun⟩

/-- The stages concern the relay's progress, its handles and its reports. -/
theorem Stages.of_same (stages : Stages state) (main : next.main = state.main)
    (wait : next.waitHandle = state.waitHandle) (read : next.readHandle = state.readHandle)
    (write : next.writeHandle = state.writeHandle)
    (joined : state.read.runs = false → next.read.runs = false) (tried : next.tried = state.tried)
    (released : state.registered = false ∧ state.resizable = false →
      next.registered = false ∧ next.resizable = false) : Stages next := by
  constructor
  case spawned => rw [main]; exact stages.spawned
  case waits => rw [main, wait]; exact stages.waits
  case reads => rw [main, read]; exact stages.reads
  case writes => rw [main, write]; exact stages.writes
  case joined => rw [main]; exact fun reports => joined (stages.joined reports)
  case exits => rw [main]; exact stages.exits
  case early => rw [main, tried]; exact stages.early
  case tried => rw [main, tried]; exact stages.tried
  case released => rw [main]; exact fun finished => released (stages.released finished)

/-- A panic leaves nothing to await. -/
theorem Stages.panic : Stages { state with main := .panicked } :=
  ⟨nofun, by simp, fun _ ended => absurd rfl ended, nofun, nofun, nofun, nofun,
    by simp [Main.left], nofun⟩

/-- An awaited handle lets the relay enter its next stage, or it panics. -/
theorem Stages.await {handle : JoinHandle} {joined : JoinHandle → State}
    (moves : Stages (joined .taken)) : Stages (state.await handle joined) := by
  rcases state.await_cases handle joined with ⟨-, same⟩ | ⟨-, same⟩
  · rw [same]
    exact moves
  · rw [same]
    exact .panic

/-- A relay that kills its child has awaited nothing yet. -/
theorem Stages.kill (killed : state.main = .killed) (waits : state.waitHandle = .owed)
    (reads : state.readHandle = .owed) (early : state.tried = []) : Stages state := by
  constructor <;>
    simp [killed, waits, reads, early, Main.loops, Main.reports, Main.left]

/-- A relay that drains its output still awaits its read task. -/
theorem Stages.drain {code : Int32} (draining : state.main = .draining code)
    (reads : state.readHandle = .owed) (early : state.tried = []) : Stages state := by
  constructor <;>
    simp [draining, reads, early, Main.loops, Main.reports, Main.left]

/-- A relay that stops its write task has joined its read task. -/
theorem Stages.stop {code : Int32} (stopping : state.main = .stopping code)
    (joined : state.read.runs = false) (early : state.tried = []) : Stages state := by
  constructor <;>
    simp [stopping, joined, early, Main.loops, Main.reports, Main.left]

/-- The reports are the exit status and the `Close`, which comes after it was tried. -/
theorem Stages.report {event : TunnelEvent} (reporting : state.main = .reporting event)
    (joined : state.read.runs = false) (ending : event = .close ∨ ∃ code, event = .exit code)
    (tried : event = .close → ∃ code attempts, (.exit code, attempts) ∈ state.tried ∧ 0 < attempts) :
    Stages state := by
  constructor
  case exits => simpa [reporting] using ending
  case tried => simpa [reporting, Main.left] using tried
  all_goals simp [reporting, joined, Main.loops, Main.reports, Main.awaitsWrite]

/-- A relay that leaves has tried to report. -/
theorem Stages.leave (leaving : state.main = .leaving) (joined : state.read.runs = false)
    (tried : ∃ code attempts, (.exit code, attempts) ∈ state.tried ∧ 0 < attempts) :
    Stages state := by
  constructor
  case tried => exact fun _ => tried
  all_goals simp [leaving, joined, Main.loops, Main.reports, Main.awaitsWrite]

/-- A finished relay leaves no entry behind. -/
theorem Stages.finish (finished : state.main = .finished) (joined : state.read.runs = false)
    (tried : ∃ code attempts, (.exit code, attempts) ∈ state.tried ∧ 0 < attempts)
    (released : state.registered = false ∧ state.resizable = false) : Stages state := by
  constructor
  case tried => exact fun _ => tried
  case released => exact fun _ => released
  all_goals simp [finished, joined, Main.loops, Main.reports, Main.awaitsWrite]

/-- The `Close` follows a delivered exit status, and otherwise the relay leaves. -/
theorem afterReport_ending {event : TunnelEvent} (ok : Bool)
    (ending : event = .close ∨ ∃ code, event = .exit code) :
    afterReport event ok = .reporting .close ∨ afterReport event ok = .leaving := by
  rcases ending with rfl | ⟨code, rfl⟩
  · exact .inr rfl
  · cases ok with
    | true => exact .inl rfl
    | false => exact .inr rfl

/-- A report is tried once its delivery returns. -/
theorem Stages.reporting (stages : Stages state) {event : TunnelEvent}
    (reporting : state.main = .reporting event) (ok : Bool) :
    Stages { state.queue event ok with
      main := afterReport event ok
      tried := state.tried ++ [(event, state.attempts)] } := by
  have ending := stages.exits event reporting
  have joined := stages.joined (by rw [reporting]; rfl)
  have kept : (state.queue event ok).read = state.read := by cases ok <;> rfl
  have tried : ∃ code attempts,
      (.exit code, attempts) ∈ state.tried ++ [(event, state.attempts)] ∧ 0 < attempts := by
    rcases ending with rfl | ⟨code, rfl⟩
    · obtain ⟨code, attempts, member, positive⟩ := stages.tried (.inl reporting)
      exact ⟨code, attempts, List.mem_append_left _ member, positive⟩
    · exact ⟨code, _, List.mem_append_right _ (List.mem_singleton_self _), state.attempts_pos⟩
  have joined : (state.queue event ok).read.runs = false :=
    (congrArg ReadTask.runs kept).trans joined
  rcases afterReport_ending ok ending with after | after
  · exact .report after joined (.inl rfl) fun _ => tried
  · exact .leave after joined tried

/-- Every step keeps the stages in order. -/
theorem Stages.step {action : Action} (stages : Stages state)
    (moved : step state action = some next) : Stages next := by
  cases step_move moved with
  | handleClose | handleAbort =>
      exact stages.of_same rfl rfl rfl rfl id rfl fun released => ⟨rfl, released.2⟩
  | handleResize | writerGone | writeFails | takeResize =>
      exact stages.of_same rfl rfl rfl rfl id rfl id
  | setupDone setup | setupFails setup => exact absurd setup stages.spawned
  | readMaster selecting =>
      exact stages.of_same rfl rfl rfl rfl (fun ended => by simp [selecting, ReadTask.runs] at ended)
        rfl id
  | readEnds => exact stages.of_same rfl rfl rfl rfl (fun _ => rfl) rfl id
  | @delivered chunk ok sending =>
      refine stages.of_same ?_ ?_ ?_ ?_ (fun ended => by simp [sending, ReadTask.runs] at ended) ?_ ?_
      all_goals cases ok <;> first | rfl | exact id
  | childExits alive =>
      have early := stages.early (by rcases alive with main | main <;> rw [main] <;> rfl)
      have reads := stages.reads (by rcases alive with main | main <;> rw [main] <;> rfl)
        (by rcases alive with main | main <;> rw [main] <;> nofun)
      apply Stages.await
      exact .drain rfl reads early
  | clientLeaves waiting =>
      have early := stages.early (by rw [waiting]; rfl)
      have reads := stages.reads (by rw [waiting]; rfl) (by rw [waiting]; nofun)
      have waits := stages.waits (.inl waiting)
      apply Stages.await
      exact .kill rfl waits reads early
  | watchdog waiting =>
      have early := stages.early (by rw [waiting]; rfl)
      have reads := stages.reads (by rw [waiting]; rfl) (by rw [waiting]; nofun)
      have waits := stages.waits (.inl waiting)
      exact .kill rfl waits reads early
  | drained draining ended =>
      have early := stages.early (by rw [draining]; rfl)
      have joined : state.read.runs = false := by rw [ended]; rfl
      apply Stages.await
      exact .stop rfl joined early
  | drainTimesOut draining =>
      have early := stages.early (by rw [draining]; rfl)
      apply Stages.await
      exact .stop rfl (ReadTask.abort_stops state.read) early
  | @writeStopped code stopping =>
      have joined := stages.joined (by rw [stopping]; rfl)
      apply Stages.await
      exact .report rfl joined (.inr ⟨code, rfl⟩) nofun
  | reported reporting => exact stages.reporting reporting _
  | cleanup leaving =>
      have joined := stages.joined (by rw [leaving]; rfl)
      have tried := stages.tried (.inr (by rw [leaving]; rfl))
      exact .finish rfl joined tried ⟨rfl, rfl⟩

/-- A relay that is doomed stays so. -/
theorem Doomed.step {action : Action} (stages : Stages state) (doomed : Doomed state)
    (moved : step state action = some next) : Doomed next := by
  have keeps {main : Main} (awaits : main.awaitsWrite = true) (held : state.main = main) :
      state.writeHandle = .taken := by
    rcases doomed with panicked | ⟨-, taken⟩
    · rw [← held, panicked] at awaits
      contradiction
    · exact taken
  have awaited {handle : JoinHandle} {joined : JoinHandle → State}
      (after : Doomed (joined .taken)) : Doomed (state.await handle joined) := by
    rcases state.await_cases handle joined with ⟨-, same⟩ | ⟨-, same⟩
    · rw [same]
      exact after
    · rw [same]
      exact .inl rfl
  cases step_move moved with
  | handleClose | handleAbort | handleResize | readMaster | readEnds | writerGone | writeFails |
    takeResize => exact doomed
  | delivered => cases ‹Bool› <;> exact doomed
  | setupDone setup | setupFails setup => exact absurd setup stages.spawned
  | childExits alive =>
      apply awaited
      rcases alive with main | main
      · exact .inr ⟨rfl, keeps rfl main⟩
      · exact .inr ⟨rfl, keeps rfl main⟩
  | clientLeaves => exact awaited (.inr ⟨rfl, rfl⟩)
  | watchdog waiting => exact .inr ⟨rfl, keeps rfl waiting⟩
  | drained draining => exact awaited (.inr ⟨rfl, keeps rfl draining⟩)
  | drainTimesOut draining => exact awaited (.inr ⟨rfl, keeps rfl draining⟩)
  | writeStopped stopping =>
      rw [keeps rfl stopping]
      exact .inl rfl
  | reported reporting =>
      simp [Doomed, reporting, Main.awaitsWrite] at doomed
  | cleanup leaving =>
      simp [Doomed, leaving, Main.awaitsWrite] at doomed

/-- Only the loop's branch for the write task dooms the relay. -/
theorem Stages.doomed_iff {action : Action} (stages : Stages state) (intact : ¬ Doomed state)
    (moved : PtyRelay.step state action = some next) :
    Doomed next ↔ ¬ action ≠ .clientLeaves := by
  have held {main : Main} (awaits : main.awaitsWrite = true) (same : state.main = main) :
      state.writeHandle ≠ .taken := by
    intro taken
    exact intact (.inr ⟨same ▸ awaits, taken⟩)
  rw [not_ne_iff]
  cases step_move moved with
  | clientLeaves waiting =>
      rw [stages.writes (by rw [waiting]; rfl)]
      exact iff_of_true (.inr ⟨rfl, rfl⟩) rfl
  | handleClose | handleAbort | handleResize | readMaster | readEnds | writerGone | writeFails |
    takeResize => exact iff_of_false intact nofun
  | delivered => cases ‹Bool› <;> exact iff_of_false intact nofun
  | setupDone setup | setupFails setup => exact absurd setup stages.spawned
  | childExits alive =>
      rw [stages.waits alive]
      have kept : state.writeHandle ≠ .taken := by
        rcases alive with main | main
        · exact held rfl main
        · exact held rfl main
      refine iff_of_false ?_ nofun
      rintro (panicked | ⟨-, taken⟩)
      · contradiction
      · exact kept taken
  | watchdog waiting =>
      refine iff_of_false ?_ nofun
      rintro (panicked | ⟨-, taken⟩)
      · contradiction
      · exact held rfl waiting taken
  | drained draining | drainTimesOut draining =>
      rw [stages.reads (by rw [draining]; rfl) (by rw [draining]; nofun)]
      refine iff_of_false ?_ nofun
      rintro (panicked | ⟨-, taken⟩)
      · contradiction
      · exact held rfl draining taken
  | writeStopped stopping =>
      rcases state.await_cases state.writeHandle _ with ⟨-, same⟩ | ⟨taken, -⟩
      · rw [same]
        exact iff_of_false (by simp [Doomed, Main.awaitsWrite]) nofun
      · exact absurd taken (held rfl stopping)
  | reported reporting =>
      rcases afterReport_ending ‹Bool› (stages.exits _ reporting) with after | after
      · exact iff_of_false (by simp [Doomed, after, Main.awaitsWrite]) nofun
      · exact iff_of_false (by simp [Doomed, after, Main.awaitsWrite]) nofun
  | cleanup => exact iff_of_false (by simp [Doomed, Main.awaitsWrite]) nofun

/-- No step goes back to an earlier stage. -/
theorem remaining_step {action : Action} (moved : step state action = some next) :
    next.main.remaining ≤ state.main.remaining := by
  have awaited {handle : JoinHandle} {joined : JoinHandle → State}
      (after : (joined .taken).main.remaining ≤ state.main.remaining) :
      (state.await handle joined).main.remaining ≤ state.main.remaining := by
    rcases state.await_cases handle joined with ⟨-, same⟩ | ⟨-, same⟩
    · rw [same]
      exact after
    · rw [same]
      exact Nat.zero_le _
  cases step_move moved with
  | handleClose | handleAbort | handleResize | readMaster | readEnds | writerGone | writeFails |
    takeResize => exact Nat.le_refl _
  | delivered => cases ‹Bool› <;> exact Nat.le_refl _
  | setupDone main | setupFails main | watchdog main | cleanup main =>
      rw [main]
      exact Nat.le_of_ble_eq_true rfl
  | childExits alive =>
      apply awaited
      rcases alive with main | main
      · rw [main]
        exact Nat.le_of_ble_eq_true rfl
      · rw [main]
        exact Nat.le_of_ble_eq_true rfl
  | clientLeaves main | drained main | drainTimesOut main | writeStopped main =>
      apply awaited
      rw [main]
      exact Nat.le_of_ble_eq_true rfl
  | @reported event ok main =>
      rw [main]
      cases event with
      | exit => cases ok <;> exact Nat.le_of_ble_eq_true rfl
      | data | close | error => exact Nat.le_of_ble_eq_true rfl

/-- A step that awaits a handle enters the next stage or the last one. -/
theorem enters (action : Action) {handle : JoinHandle} {joined : JoinHandle → State}
    (enabled : step state action = some (state.await handle joined))
    (later : (joined .taken).main.remaining < state.main.remaining) :
    ∃ action next, step state action = some next ∧ next.main.remaining < state.main.remaining := by
  refine ⟨action, _, enabled, ?_⟩
  rcases state.await_cases handle joined with ⟨-, same⟩ | ⟨-, same⟩
  · rw [same]
    exact later
  · rw [same]
    exact Nat.zero_lt_of_lt later

/-- The relay can always enter its next stage. -/
theorem Stages.onward (stages : Stages state) (running : state.main.over = false) :
    ∃ action next, PtyRelay.step state action = some next ∧
      next.main.remaining < state.main.remaining := by
  cases main : state.main with
  | setup => exact absurd main stages.spawned
  | waiting =>
      rw [← main]
      apply enters (.childExits 0)
      · rw [PtyRelay.step, if_pos (.inl main)]
      · rw [main]
        exact Nat.le_of_ble_eq_true rfl
  | killed =>
      rw [← main]
      apply enters (.childExits 0)
      · rw [PtyRelay.step, if_pos (.inr main)]
      · rw [main]
        exact Nat.le_of_ble_eq_true rfl
  | draining code =>
      rw [← main]
      apply enters .drainTimesOut
      · simp only [PtyRelay.step, main]
        rfl
      · rw [main]
        exact Nat.le_of_ble_eq_true rfl
  | stopping code =>
      rw [← main]
      apply enters .writeStopped
      · simp only [PtyRelay.step, main]
        rfl
      · rw [main]
        exact Nat.le_of_ble_eq_true rfl
  | reporting event =>
      refine ⟨.reported false, _, by simp only [PtyRelay.step, main]; rfl, ?_⟩
      rcases stages.exits event main with rfl | ⟨code, rfl⟩
      · exact Nat.le_of_ble_eq_true rfl
      · exact Nat.le_of_ble_eq_true rfl
  | leaving => exact ⟨.cleanup, _, if_pos main, Nat.one_pos⟩
  | finished | panicked =>
      rw [main] at running
      contradiction

/-- The read task has ended before the exit status is tried. -/
theorem Stages.stopped (stages : Stages state) (unbroken : state.main ≠ .panicked)
    (tried : state.exitTried) : state.read.runs = false := by
  apply stages.joined
  rcases tried with ⟨code, reporting⟩ | ⟨code, attempts, member⟩
  · rw [reporting]
    rfl
  · have past : state.main.awaitsWrite = false := by
      apply Bool.eq_false_iff.mpr
      intro awaits
      rw [stages.early awaits] at member
      contradiction
    cases main : state.main with
    | panicked => exact absurd main unbroken
    | reporting | leaving | finished => rfl
    | setup | waiting | killed | draining | stopping =>
        rw [main] at past
        contradiction

/-- A relay that has not panicked is on its way through the teardown. -/
theorem Stages.teardown (stages : Stages state) (unbroken : state.main ≠ .panicked) :
    Teardown state where
  unbroken := unbroken
  stopped := stages.stopped unbroken
  attempted finished := stages.tried (.inr (by rw [finished]; rfl))
  released := stages.released
  onward := stages.onward
  shrinks _ _ := remaining_step

end Stages

/-- A relay whose task ends has torn down exactly when it did not leave its loop through the branch
of the write task, and until then it is always on its way. -/
theorem teardown_completes_iff {actions : List Action} {final : State}
    (ran : Machine.run step start (.setupDone :: actions) = some final) :
    Teardown final ↔ (final.main.over = true → .clientLeaves ∉ actions) := by
  obtain ⟨ready, set, after⟩ := Machine.run_cons.mp ran
  have begun := Stages.start set
  have stages := Machine.run_invariant Stages.step begun after
  have whole : ¬ Doomed ready := by
    cases set
    simp [Doomed, start]
  have intact : ¬ Doomed final ↔ .clientLeaves ∉ actions := by
    rw [Machine.along_iff Stages.step Doomed.step Stages.doomed_iff begun whole after,
      Machine.along_forall_iff after]
    exact ⟨fun all member => all _ member rfl, fun absent _ member same => absent (same ▸ member)⟩
  constructor
  · intro teardown done
    apply intact.mp
    rintro (panicked | ⟨awaits, -⟩)
    · exact teardown.unbroken panicked
    · cases main : final.main with
      | finished | panicked =>
          rw [main] at awaits
          contradiction
      | setup | waiting | killed | draining | stopping | reporting | leaving =>
          rw [main] at done
          contradiction
  · intro absent
    apply stages.teardown
    intro panicked
    exact intact.mpr (absent (by rw [panicked]; rfl)) (.inl panicked)

/-- A relay whose child exits by itself tears down. -/
theorem teardown_completes_after_exit : ∃ final, Machine.run step start
    [.setupDone, .readMaster [1], .delivered true, .childExits 0, .readEnds, .drained,
      .writeStopped, .reported true, .reported true, .cleanup] = some final ∧
    final.main = .finished ∧ Teardown final := by
  obtain ⟨final, ran, finished⟩ := Option.map_eq_some_iff.mp (show (Machine.run step start
    [.setupDone, .readMaster [1], .delivered true, .childExits 0, .readEnds, .drained,
      .writeStopped, .reported true, .reported true, .cleanup]).map (fun final => final.main) =
    some .finished by decide)
  exact ⟨final, ran, finished, (teardown_completes_iff ran).mpr fun _ => by decide⟩

/-- The client's `Close` ends the write task, and the loop takes the output of its handle. The
teardown awaits that handle again and panics: no exit status is tried, and the resize entry stays. -/
theorem closed_relay_panics : ∃ final, Machine.run step start
    [.setupDone, .handleClose, .writerGone, .clientLeaves, .childExits 0, .readEnds, .drained,
      .writeStopped] = some final ∧
    final.main = .panicked ∧ final.tried = [] ∧ final.resizable = true ∧ ¬ Teardown final := by
  obtain ⟨final, ran, same⟩ := Option.map_eq_some_iff.mp (show (Machine.run step start
    [.setupDone, .handleClose, .writerGone, .clientLeaves, .childExits 0, .readEnds, .drained,
      .writeStopped]).map (fun final => (final.main, final.tried, final.resizable)) =
    some (.panicked, [], true) by decide)
  simp only [Prod.mk.injEq] at same
  obtain ⟨main, tried, resizable⟩ := same
  exact ⟨final, ran, main, tried, resizable, fun teardown => teardown.unbroken main⟩

end Tunnix.PtyRelay
