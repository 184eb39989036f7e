import Tunnix.Library.Forwarder
import Tunnix.Server.Producer

namespace Tunnix.TcpRelay

/-- The read task may still forward output. -/
def ReadTask.forwards : ReadTask → Bool
  | .selecting | .sending _ => true
  | .ended _ | .reporting _ | .unsent | .done => false

/-- The read task forwards the target's output in `Data` reports. -/
def State.output (state : State) : Forwarder Bytes where
  taken := state.produced
  held := state.read.pending.head?
  passed := chunks state.queued
  running := state.read.forwards

section Output
variable {state next : State}

/-- Only the read task, its output and the queued chunks enter the forwarder. -/
theorem output_of_same (read : next.read = state.read) (queued : next.queued = state.queued)
    (produced : next.produced = state.produced) : state.output.Move next.output := by
  have same : next.output = state.output := by
    unfold State.output
    rw [read, queued, produced]
  exact same ▸ .stay

/-- A read task without a chunk that leaves its loop stops the forwarder. -/
theorem output_of_left (forwards : next.read.forwards = false)
    (queued : chunks next.queued = chunks state.queued)
    (produced : next.produced = state.produced) : state.output.Move next.output := by
  refine .of_stop forwards ?_ produced queued
  change next.read.pending.head? = none
  cases reading : next.read with
  | selecting | sending =>
      rw [reading] at forwards
      contradiction
  | ended | reporting | unsent | done => rfl

/-- A report leaves the read task out of its loop. -/
theorem reported_left (report : Report) (ok : Bool) :
    (state.reported report ok).read.forwards = false := by
  cases ok with
  | true => rfl
  | false =>
      change ReadTask.forwards (if report = .clientUnreachable then .done else .unsent) = false
      split <;> rfl

/-- A terminal report carries no chunk. -/
theorem chunks_terminal {report : Report} (terminal : report.terminal = true)
    (reports : List Report) : chunks (reports ++ [report]) = chunks reports := by
  rw [chunks_append, chunks_silent (Report.chunk?_terminal terminal), List.append_nil]

/-- Each step of the relay is a step of its forwarder. -/
theorem output_move {action : Action} (reports : Reports state)
    (moved : step state action = some next) : state.output.Move next.output := by
  cases step_move moved with
  | @readTarget chunk selecting =>
      apply Forwarder.Move.of_take chunk
      · simp [State.output, selecting, ReadTask.forwards]
      · simp [State.output, selecting, ReadTask.pending]
      · rfl
  | @delivered chunk sending =>
      apply Forwarder.Move.of_pass chunk
      · simp [State.output, sending, ReadTask.forwards]
      · simp [State.output, sending, ReadTask.pending]
      · exact Forwarder.ext rfl rfl (chunks_append state.queued [.data chunk]) rfl
  | readEof | readFails | takeAbort | clientLost | undelivered | releaseUnsent =>
      exact output_of_left rfl rfl rfl
  | @settle reason => cases reason <;> exact output_of_left rfl rfl rfl
  | @reported report ok reporting =>
      have terminal := reports.terminal report reporting
      cases ok with
      | true => exact output_of_left rfl (chunks_terminal terminal _) rfl
      | false => exact output_of_left (reported_left report false) rfl rfl
  | @failureReported error =>
      have silent : chunks (state.queued ++ [.writeFailed error]) = chunks state.queued := by
        rw [chunks_append, chunks_silent rfl, List.append_nil]
      have same : (state.queue (.writeFailed error)).endWrite.output = state.output := by
        simp [State.output, silent]
      exact same ▸ .stay
  | _ => exact output_of_same rfl rfl rfl

end Output

end Tunnix.TcpRelay

namespace Tunnix.PtyRelay

/-- The read task may still forward output. -/
def ReadTask.forwards : ReadTask → Bool
  | .unspawned | .selecting | .sending _ => true
  | .ended _ => false

/-- The read task forwards the output of the PTY in `Data` messages. -/
def State.output (state : State) : Forwarder Bytes where
  taken := state.produced
  held := state.read.pending.head?
  passed := datas state.queued
  running := state.read.forwards

/-- The relay spawns its read task after the setup and leaves all output to it. -/
structure Separate (state : State) : Prop where
  unspawned : state.main = .setup → state.read = .unspawned
  silent : ∀ event, state.main = .reporting event → event.data? = none

theorem Separate.start : Separate start where
  unspawned _ := rfl
  silent := nofun

section Output
variable {state next : State}

/-- The read task moves, and the relay does not. -/
theorem Separate.of_main (separate : Separate state) (main : next.main = state.main)
    (read : state.read = .unspawned → next.read = .unspawned) : Separate next where
  unspawned setup := read (separate.unspawned (main ▸ setup))
  silent event reporting := separate.silent event (main ▸ reporting)

/-- The relay has left its setup and does not report. -/
theorem Separate.of_quiet (left : next.main ≠ .setup)
    (quiet : ∀ event, next.main ≠ .reporting event) : Separate next where
  unspawned setup := absurd setup left
  silent event reporting := absurd reporting (quiet event)

/-- An awaited handle lets the relay move on, or it panics. -/
theorem Separate.await {handle : JoinHandle} {joined : JoinHandle → State}
    (moves : ∀ after, Separate (joined after)) : Separate (state.await handle joined) := by
  rcases state.await_cases handle joined with ⟨-, same⟩ | ⟨-, same⟩
  · rw [same]
    exact moves .taken
  · rw [same]
    exact .of_quiet nofun nofun

/-- Every step keeps the output with the read task. -/
theorem Separate.step {action : Action} (separate : Separate state)
    (moved : step state action = some next) : Separate next := by
  cases step_move moved with
  | handleClose | handleAbort | handleResize | writerGone | writeFails | takeResize =>
      exact separate.of_main rfl id
  | setupDone => exact .of_quiet nofun nofun
  | setupFails setup =>
      constructor
      case unspawned => exact nofun
      case silent =>
        rintro event ⟨⟩
        rfl
  | readMaster selecting =>
      refine separate.of_main rfl ?_
      rw [selecting]
      nofun
  | readEnds selecting =>
      refine separate.of_main rfl ?_
      rw [selecting]
      nofun
  | @delivered chunk ok sending =>
      apply separate.of_main
      · cases ok <;> rfl
      · rw [sending]
        nofun
  | childExits | clientLeaves | drained | drainTimesOut =>
      exact Separate.await fun _ => .of_quiet nofun nofun
  | watchdog => exact .of_quiet nofun nofun
  | writeStopped =>
      apply Separate.await
      intro after
      constructor
      case unspawned => exact nofun
      case silent =>
        rintro event ⟨⟩
        rfl
  | @reported event ok reporting =>
      rcases afterReport_cases event ok with ⟨close, -⟩ | left
      · constructor
        case unspawned =>
          intro setup
          change afterReport event ok = .setup at setup
          rw [close] at setup
          contradiction
        case silent =>
          intro other next
          change afterReport event ok = .reporting other at next
          rw [close] at next
          cases next
          rfl
      · apply Separate.of_quiet
        · intro setup
          change afterReport event ok = .setup at setup
          rw [setup] at left
          contradiction
        · intro other next
          change afterReport event ok = .reporting other at next
          rw [next] at left
          contradiction
  | cleanup => exact .of_quiet nofun nofun

/-- Only the read task, its output and the queued chunks enter the forwarder. -/
theorem output_of_same (read : next.read = state.read)
    (queued : datas next.queued = datas state.queued)
    (produced : next.produced = state.produced) : state.output.Move next.output := by
  have same : next.output = state.output := by
    unfold State.output
    rw [read, queued, produced]
  exact same ▸ .stay

/-- A read task that ends stops the forwarder. -/
theorem output_of_ended {dropped : Bool} (ended : next.read = .ended dropped)
    (queued : next.queued = state.queued) (produced : next.produced = state.produced) :
    state.output.Move next.output := by
  apply Forwarder.Move.of_stop
  · simp [State.output, ended, ReadTask.forwards]
  · simp [State.output, ended, ReadTask.pending]
  · exact produced
  · exact congrArg datas queued

/-- An abort ends the read task. -/
theorem ReadTask.abort_ended (read : ReadTask) : ∃ dropped, read.abort = .ended dropped := by
  cases read with
  | unspawned | selecting => exact ⟨false, rfl⟩
  | sending chunk => exact ⟨true, rfl⟩
  | ended dropped => exact ⟨dropped, rfl⟩

/-- A relay that panics keeps its output. -/
theorem output_await {handle : JoinHandle} {joined : JoinHandle → State}
    (moves : ∀ after, state.output.Move (joined after).output) :
    state.output.Move (state.await handle joined).output := by
  rcases state.await_cases handle joined with ⟨-, same⟩ | ⟨-, same⟩
  · rw [same]
    exact moves .taken
  · rw [same]
    exact output_of_same rfl rfl rfl

/-- Each step of the relay is a step of its forwarder. -/
theorem output_move {action : Action} (separate : Separate state)
    (moved : step state action = some next) : state.output.Move next.output := by
  cases step_move moved with
  | setupDone setup =>
      have unspawned := separate.unspawned setup
      have same :
          State.output { state with main := .waiting, read := .selecting } = state.output := by
        simp [State.output, unspawned, ReadTask.pending, ReadTask.forwards]
      exact same ▸ .stay
  | @readMaster chunk selecting =>
      apply Forwarder.Move.of_take chunk
      · simp [State.output, selecting, ReadTask.forwards]
      · simp [State.output, selecting, ReadTask.pending]
      · rfl
  | readEnds => exact output_of_ended rfl rfl rfl
  | @delivered chunk ok sending =>
      cases ok with
      | true =>
          apply Forwarder.Move.of_pass chunk
          · simp [State.output, sending, ReadTask.forwards]
          · simp [State.output, sending, ReadTask.pending]
          · exact Forwarder.ext rfl rfl (datas_append state.queued [.data chunk]) rfl
      | false => exact output_of_ended rfl rfl rfl
  | drainTimesOut =>
      obtain ⟨dropped, ended⟩ := ReadTask.abort_ended state.read
      exact output_await fun _ => output_of_ended ended rfl rfl
  | childExits | clientLeaves | drained | writeStopped =>
      exact output_await fun _ => output_of_same rfl rfl rfl
  | @reported event ok reporting =>
      have silent := datas_silent (separate.silent event reporting)
      cases ok with
      | true =>
          refine output_of_same rfl ?_ rfl
          change datas (state.queued ++ [event]) = datas state.queued
          rw [datas_append, silent, List.append_nil]
      | false => exact output_of_same rfl rfl rfl
  | _ => exact output_of_same rfl rfl rfl

end Output

end Tunnix.PtyRelay

namespace Tunnix.PullRelay

/-- The relay may still forward chunks of the archive. -/
def Phase.forwards : Phase → Bool
  | .receiving | .sending _ => true
  | .joining | .gone | .reporting _ | .done => false

/-- The relay forwards the archive in `Data` messages. -/
def State.output (state : State) : Forwarder Bytes where
  taken := state.produced
  held := state.phase.pending.head?
  passed := datas state.queued
  running := state.phase.forwards

section Output
variable {state next : State}

/-- A relay that has left its loop stops the forwarder. -/
theorem output_of_left (forwards : next.phase.forwards = false)
    (queued : datas next.queued = datas state.queued) (produced : next.produced = state.produced) :
    state.output.Move next.output := by
  refine .of_stop forwards ?_ produced queued
  change next.phase.pending.head? = none
  cases phase : next.phase with
  | receiving | sending =>
      rw [phase] at forwards
      contradiction
  | joining | gone | reporting | done => rfl

/-- The phase after a report is out of the loop. -/
theorem afterReport_left (event : TunnelEvent) (ok : Bool) :
    (afterReport event ok).forwards = false := by
  rcases afterReport_cases event ok with ⟨close, -⟩ | done
  · rw [close]
    rfl
  · rw [done]
    rfl

/-- Each step of the relay is a step of its forwarder. -/
theorem output_move {action : Action} (reports : Reports state)
    (moved : step state action = some next) : state.output.Move next.output := by
  cases step_move moved with
  | @receive chunk receiving =>
      apply Forwarder.Move.of_take chunk
      · simp [State.output, receiving, Phase.forwards]
      · simp [State.output, receiving, Phase.pending]
      · rfl
  | @delivered chunk ok sending =>
      cases ok with
      | true =>
          apply Forwarder.Move.of_pass chunk
          · simp [State.output, sending, Phase.forwards]
          · simp [State.output, sending, Phase.pending]
          · exact Forwarder.ext rfl rfl (datas_append state.queued [.data chunk]) rfl
      | false => exact output_of_left rfl rfl rfl
  | endOfChunks | joined | failed | silenced => exact output_of_left rfl rfl rfl
  | @reported event ok reporting =>
      have silent := datas_silent (reports.silent event reporting)
      refine output_of_left (afterReport_left event ok) ?_ ?_
      · cases ok with
        | true =>
            change datas (state.queued ++ [event]) = datas state.queued
            rw [datas_append, silent, List.append_nil]
        | false => rfl
      · cases ok <;> rfl

end Output

end Tunnix.PullRelay

namespace Tunnix.Producer

/-- The output task of a relay forwards what the relay produces. -/
def output : Producer → Forwarder Bytes
  | .tcp state => state.output
  | .pty state => state.output
  | .pull state => state.output

/-- All output of the relay goes through its output task. -/
def Separate : Producer → Prop
  | .tcp state => TcpRelay.Reports state
  | .pty state => PtyRelay.Separate state
  | .pull state => PullRelay.Reports state

theorem Kind.separate (kind : Kind) : kind.start.Separate := by
  cases kind with
  | tcp => exact TcpRelay.Reports.start
  | pty => exact PtyRelay.Separate.start
  | pull => exact PullRelay.Reports.start

theorem Kind.output (kind : Kind) : kind.start.output = .fresh := by
  cases kind <;> rfl

section Output
variable {relay next : Producer}

/-- The forwarder takes what the relay produces. -/
theorem output_taken (relay : Producer) : relay.output.taken = relay.produced := by
  cases relay <;> rfl

/-- The forwarder passes on the queued chunks. -/
theorem output_passed (relay : Producer) : relay.output.passed = datas relay.queued := by
  cases relay with
  | tcp state => exact (TcpRelay.datas_event state.queued).symm
  | pty state => rfl
  | pull state => rfl

/-- Every step keeps the output with the output task and is a step of its forwarder. -/
theorem Separate.step {action : Action} (separate : relay.Separate)
    (moved : relay.step action = some next) :
    next.Separate ∧ relay.output.Move next.output := by
  cases relay <;> cases action <;> try contradiction
  case tcp.tcp state action =>
    obtain ⟨after, stepped, rfl⟩ := Option.map_eq_some_iff.mp moved
    exact ⟨TcpRelay.Reports.step separate stepped, TcpRelay.output_move separate stepped⟩
  case pty.pty state action =>
    obtain ⟨after, stepped, rfl⟩ := Option.map_eq_some_iff.mp moved
    exact ⟨PtyRelay.Separate.step separate stepped, PtyRelay.output_move separate stepped⟩
  case pull.pull state action =>
    obtain ⟨after, stepped, rfl⟩ := Option.map_eq_some_iff.mp moved
    exact ⟨PullRelay.Reports.step separate stepped, PullRelay.output_move separate stepped⟩

/-- The task beside the output task sends no chunk. -/
theorem Separate.control (separate : relay.Separate) {event : TunnelEvent} {attempts : Nat}
    (sends : relay.sending .control = some (event, attempts)) : event.data? = none := by
  cases relay with
  | tcp state =>
      simp only [sending] at sends
      split at sends
      · cases sends
        rfl
      · contradiction
  | pty state =>
      simp only [sending] at sends
      split at sends
      · next reporting =>
          cases sends
          exact PtyRelay.Separate.silent separate _ reporting
      · contradiction
  | pull state => contradiction

/-- A failed delivery of the output task stops its forwarder. -/
theorem stops_of_failed {action : Action} (returns : relay.returned .output false = some action)
    (moved : relay.step action = some next) : next.output.running = false := by
  cases relay with
  | tcp state =>
      simp only [returned] at returns
      split at returns
      · next chunk sending =>
          cases returns
          simp only [step, TcpRelay.step, sending, Option.map_some, Option.some.injEq] at moved
          subst moved
          rfl
      · next report reporting =>
          cases returns
          simp only [step, TcpRelay.step, reporting, Option.map_some, Option.some.injEq] at moved
          subst moved
          exact TcpRelay.reported_left report false
      · contradiction
  | pty state =>
      cases returns
      simp only [step, PtyRelay.step] at moved
      split at moved
      · cases moved
        rfl
      · contradiction
  | pull state =>
      simp only [returned] at returns
      split at returns
      · next chunk sending =>
          cases returns
          simp only [step, PullRelay.step, sending, Option.map_some, Option.some.injEq] at moved
          subst moved
          rfl
      · next event reporting =>
          cases returns
          simp only [step, PullRelay.step, reporting, Option.map_some, Option.some.injEq] at moved
          subst moved
          exact PullRelay.afterReport_left event false
      · contradiction

end Output

end Tunnix.Producer
