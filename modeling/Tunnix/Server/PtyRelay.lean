import Tunnix.Library.Machine
import Tunnix.Library.Channel
import Tunnix.Server.Delivery

namespace Tunnix.PtyRelay

/-- The read task waits for the PTY or in a delivery. It ends at the end of the output, or it drops
the chunk that it could not deliver. -/
inductive ReadTask where
  | unspawned
  | selecting
  | sending (chunk : Bytes)
  | ended (dropped : Bool)
deriving DecidableEq, Repr

/-- The relay sets the PTY up, waits for its child, drains the output, stops the write task, reports
and cleans up. A handle awaited twice ends it early. -/
inductive Main where
  | setup
  | waiting
  | killed
  | draining (code : Int32)
  | stopping (code : Int32)
  | reporting (event : TunnelEvent)
  | leaving
  | finished
  | panicked
deriving DecidableEq, Repr

/-- The read buffer of the relay holds this many bytes. -/
def bufferSize : Nat := 32768

/-- The resize channel of a PTY holds this many sizes. -/
def resizeCapacity : Nat := 4

/-- A terminal has this many rows and columns. -/
structure PtySize where
  rows : UInt16
  cols : UInt16
deriving DecidableEq, Repr

/-- The state joins the tasks of one relay, their handles and the relay's entries in the session.
The last three fields record what was read from the PTY, what was queued for the client, and the
reports whose delivery has returned, with the attempts each one had. -/
structure State where
  read : ReadTask
  main : Main
  writeEnded : Bool
  readHandle : JoinHandle
  writeHandle : JoinHandle
  waitHandle : JoinHandle
  clientGone : Bool
  /-- `tcp_writers` holds this relay's sender. -/
  registered : Bool
  /-- `pty_resize` holds this relay's sender. -/
  resizable : Bool
  resizes : Channel resizeCapacity PtySize
  size : Option PtySize
  produced : List Bytes
  queued : List TunnelEvent
  tried : List (TunnelEvent × Nat)
deriving DecidableEq

/-- An `Exec` registers the relay's channels before it spawns the relay. -/
def start : State where
  read := .unspawned
  main := .setup
  writeEnded := false
  readHandle := .owed
  writeHandle := .owed
  waitHandle := .owed
  clientGone := false
  registered := true
  resizable := true
  resizes := .empty _ _
  size := none
  produced := []
  queued := []
  tried := []

/-- The first group of actions belongs to `handle_send`, the next one to the setup and the tasks,
and the last one to the relay. -/
inductive Action where
  | handleClose
  | handleAbort
  | handleResize (size : PtySize)
  | setupDone
  | setupFails (error : String)
  | readMaster (chunk : Bytes)
  | readEnds
  | delivered (ok : Bool)
  | writerGone
  | writeFails
  | childExits (code : Int32)
  | clientLeaves
  | watchdog
  | takeResize (ok : Bool)
  | drained
  | drainTimesOut
  | writeStopped
  | reported (ok : Bool)
  | cleanup
deriving DecidableEq, Repr

/-- `abort` drops the chunk that the read task holds. -/
def ReadTask.abort : ReadTask → ReadTask
  | .sending _ => .ended true
  | .selecting | .unspawned => .ended false
  | .ended dropped => .ended dropped

/-- The `Close` follows a delivered exit status, and every other report is the last one. -/
def afterReport : TunnelEvent → Bool → Main
  | .exit _, true => .reporting .close
  | .exit _, false | .close, _ => .leaving
  | .error _, _ | .data _, _ => .finished

/-- A delivered event is queued for the client. -/
def State.queue (state : State) (event : TunnelEvent) (ok : Bool) : State :=
  if ok then { state with queued := state.queued ++ [event] } else state

/-- A relay that knows its client to be gone spends a single attempt on a report. -/
def State.attempts (state : State) : Nat := if state.clientGone then 1 else sendAttempts

/-- A second await of a handle panics. -/
def State.await (state : State) (handle : JoinHandle) (joined : JoinHandle → State) : State :=
  match handle.await with
  | some after => joined after
  | none => { state with main := .panicked }

/-- The relay moves by one action, or refuses one that its state does not allow. -/
def step (state : State) : Action → Option State
  | .handleClose | .handleAbort => some { state with registered := false }
  -- `try_send` discards a size that finds no room.
  | .handleResize size =>
      if state.resizable then
        some { state with resizes := (state.resizes.send size).getD state.resizes }
      else some state
  | .setupDone =>
      if state.main = .setup then some { state with main := .waiting, read := .selecting } else none
  | .setupFails error =>
      if state.main = .setup then
        some { state with
          registered := false
          resizable := false
          main := .reporting (.error ("PTY setup failed: " ++ error)) }
      else none
  | .readMaster chunk =>
      if state.read = .selecting ∧ chunk ≠ [] ∧ chunk.length ≤ bufferSize then
        some { state with read := .sending chunk, produced := state.produced ++ [chunk] }
      else none
  -- The slave is fully closed, or the read failed.
  | .readEnds =>
      if state.read = .selecting then some { state with read := .ended false } else none
  | .delivered ok =>
      match state.read with
      | .sending chunk => some { state.queue (.data chunk) ok with
          read := if ok then .selecting else .ended true }
      | _ => none
  | .writerGone =>
      if state.main ≠ .setup ∧ state.registered = false then some { state with writeEnded := true }
      else none
  | .writeFails => if state.main = .setup then none else some { state with writeEnded := true }
  -- `killer.kill` only asks the child to exit. A relay that has asked waits for the exit without a
  -- bound.
  | .childExits code =>
      if state.main = .waiting ∨ state.main = .killed then
        some (state.await state.waitHandle fun waitHandle =>
          { state with waitHandle, main := .draining code })
      else none
  -- The loop's branch for the write task takes the output of its handle.
  | .clientLeaves =>
      if state.main = .waiting ∧ state.writeEnded = true then
        some (state.await state.writeHandle fun writeHandle =>
          { state with writeHandle, main := .killed, clientGone := true })
      else none
  | .watchdog =>
      if state.main = .waiting then some { state with main := .killed, clientGone := true }
      else none
  | .takeResize ok =>
      if state.main = .waiting then
        match state.resizes.receive with
        | some (size, resizes) =>
            some { state with resizes, size := if ok then some size else state.size }
        | none => if state.resizable then none else some state
      else none
  | .drained =>
      match state.main, state.read with
      | .draining code, .ended _ =>
          some (state.await state.readHandle fun readHandle =>
            { state with readHandle, main := .stopping code })
      | _, _ => none
  -- Two seconds after its child's exit the relay aborts a read task that is still pending.
  | .drainTimesOut =>
      match state.main with
      | .draining code =>
          some (state.await state.readHandle fun readHandle =>
            { state with readHandle, read := state.read.abort, main := .stopping code })
      | _ => none
  -- The write task is aborted and its handle awaited, whichever branch has ended the loop.
  | .writeStopped =>
      match state.main with
      | .stopping code =>
          some (state.await state.writeHandle fun writeHandle =>
            { state with writeHandle, writeEnded := true, main := .reporting (.exit code) })
      | _ => none
  | .reported ok =>
      match state.main with
      | .reporting event => some { state.queue event ok with
          main := afterReport event ok
          tried := state.tried ++ [(event, state.attempts)] }
      | _ => none
  | .cleanup =>
      if state.main = .leaving then
        some { state with registered := false, resizable := false, main := .finished }
      else none

/-- These are the relay's possible steps, one for each branch of the source. -/
inductive Move (state : State) : Action → State → Prop
  | handleClose : Move state .handleClose { state with registered := false }
  | handleAbort : Move state .handleAbort { state with registered := false }
  | handleResize {size resizes} : Move state (.handleResize size) { state with resizes }
  | setupDone : state.main = .setup →
      Move state .setupDone { state with main := .waiting, read := .selecting }
  | setupFails {error} : state.main = .setup →
      Move state (.setupFails error) { state with
        registered := false
        resizable := false
        main := .reporting (.error ("PTY setup failed: " ++ error)) }
  | readMaster {chunk} : state.read = .selecting → chunk ≠ [] → chunk.length ≤ bufferSize →
      Move state (.readMaster chunk)
        { state with read := .sending chunk, produced := state.produced ++ [chunk] }
  | readEnds : state.read = .selecting → Move state .readEnds { state with read := .ended false }
  | delivered {chunk ok} : state.read = .sending chunk →
      Move state (.delivered ok) { state.queue (.data chunk) ok with
        read := if ok then .selecting else .ended true }
  | writerGone : state.main ≠ .setup → state.registered = false →
      Move state .writerGone { state with writeEnded := true }
  | writeFails : state.main ≠ .setup → Move state .writeFails { state with writeEnded := true }
  | childExits {code} : state.main = .waiting ∨ state.main = .killed →
      Move state (.childExits code) (state.await state.waitHandle fun waitHandle =>
        { state with waitHandle, main := .draining code })
  | clientLeaves : state.main = .waiting → state.writeEnded = true →
      Move state .clientLeaves (state.await state.writeHandle fun writeHandle =>
        { state with writeHandle, main := .killed, clientGone := true })
  | watchdog : state.main = .waiting →
      Move state .watchdog { state with main := .killed, clientGone := true }
  | takeResize {ok resizes size} : state.main = .waiting →
      Move state (.takeResize ok) { state with resizes, size }
  | drained {code dropped} : state.main = .draining code → state.read = .ended dropped →
      Move state .drained (state.await state.readHandle fun readHandle =>
        { state with readHandle, main := .stopping code })
  | drainTimesOut {code} : state.main = .draining code →
      Move state .drainTimesOut (state.await state.readHandle fun readHandle =>
        { state with readHandle, read := state.read.abort, main := .stopping code })
  | writeStopped {code} : state.main = .stopping code →
      Move state .writeStopped (state.await state.writeHandle fun writeHandle =>
        { state with writeHandle, writeEnded := true, main := .reporting (.exit code) })
  | reported {event ok} : state.main = .reporting event →
      Move state (.reported ok) { state.queue event ok with
        main := afterReport event ok
        tried := state.tried ++ [(event, state.attempts)] }
  | cleanup : state.main = .leaving →
      Move state .cleanup { state with registered := false, resizable := false, main := .finished }

/-- Each accepted action is one of the possible steps. -/
theorem step_move {state next : State} {action : Action}
    (moved : step state action = some next) : Move state action next := by
  cases action with
  | handleClose => cases moved; exact .handleClose
  | handleAbort => cases moved; exact .handleAbort
  | handleResize size =>
      simp only [step] at moved
      split at moved
      · cases moved; exact .handleResize
      · cases moved; exact .handleResize
  | setupDone =>
      simp only [step, Option.ite_none_right_eq_some, Option.some.injEq] at moved
      obtain ⟨setup, rfl⟩ := moved
      exact .setupDone setup
  | setupFails error =>
      simp only [step, Option.ite_none_right_eq_some, Option.some.injEq] at moved
      obtain ⟨setup, rfl⟩ := moved
      exact .setupFails setup
  | readMaster chunk =>
      simp only [step, Option.ite_none_right_eq_some, Option.some.injEq] at moved
      obtain ⟨⟨selecting, some_, fits⟩, rfl⟩ := moved
      exact .readMaster selecting some_ fits
  | readEnds =>
      simp only [step, Option.ite_none_right_eq_some, Option.some.injEq] at moved
      obtain ⟨selecting, rfl⟩ := moved
      exact .readEnds selecting
  | delivered ok =>
      simp only [step] at moved
      split at moved
      · next sending => cases moved; exact .delivered sending
      · cases moved
  | writerGone =>
      simp only [step, Option.ite_none_right_eq_some, Option.some.injEq] at moved
      obtain ⟨⟨spawned, released⟩, rfl⟩ := moved
      exact .writerGone spawned released
  | writeFails =>
      simp only [step, Option.ite_none_left_eq_some, Option.some.injEq] at moved
      obtain ⟨spawned, rfl⟩ := moved
      exact .writeFails spawned
  | childExits code =>
      simp only [step, Option.ite_none_right_eq_some, Option.some.injEq] at moved
      obtain ⟨alive, rfl⟩ := moved
      exact .childExits alive
  | clientLeaves =>
      simp only [step, Option.ite_none_right_eq_some, Option.some.injEq] at moved
      obtain ⟨⟨waiting, ended⟩, rfl⟩ := moved
      exact .clientLeaves waiting ended
  | watchdog =>
      simp only [step, Option.ite_none_right_eq_some, Option.some.injEq] at moved
      obtain ⟨waiting, rfl⟩ := moved
      exact .watchdog waiting
  | takeResize ok =>
      simp only [step] at moved
      split at moved
      · next waiting =>
          split at moved
          · cases moved; exact .takeResize waiting
          · rw [Option.ite_none_left_eq_some, Option.some.injEq] at moved
            obtain ⟨-, rfl⟩ := moved
            exact .takeResize waiting
      · cases moved
  | drained =>
      simp only [step] at moved
      split at moved
      · next draining ended => cases moved; exact .drained draining ended
      · cases moved
  | drainTimesOut =>
      simp only [step] at moved
      split at moved
      · next draining => cases moved; exact .drainTimesOut draining
      · cases moved
  | writeStopped =>
      simp only [step] at moved
      split at moved
      · next stopping => cases moved; exact .writeStopped stopping
      · cases moved
  | reported ok =>
      simp only [step] at moved
      split at moved
      · next reporting => cases moved; exact .reported reporting
      · cases moved
  | cleanup =>
      simp only [step, Option.ite_none_right_eq_some, Option.some.injEq] at moved
      obtain ⟨leaving, rfl⟩ := moved
      exact .cleanup leaving

/-- An await takes the output of an untaken handle, or the relay panics. -/
theorem State.await_cases (state : State) (handle : JoinHandle) (joined : JoinHandle → State) :
    handle = .owed ∧ state.await handle joined = joined .taken ∨
      handle = .taken ∧ state.await handle joined = { state with main := .panicked } := by
  cases handle with
  | owed => exact .inl ⟨rfl, rfl⟩
  | taken => exact .inr ⟨rfl, rfl⟩

/-- The relay queues its `Close` only after a read task that dropped nothing. -/
def Whole (state : State) : Action → Prop
  | .reported true => state.main = .reporting .close → state.read = .ended false
  | _ => True

/-- This chunk was read from the PTY and is not yet delivered. -/
def ReadTask.pending : ReadTask → List Bytes
  | .sending chunk => [chunk]
  | .unspawned | .selecting | .ended _ => []

/-- The read task is in its loop. -/
def ReadTask.runs : ReadTask → Bool
  | .selecting | .sending _ => true
  | .unspawned | .ended _ => false

/-- The relay has no read task left that it could wait for. -/
def Main.reports : Main → Bool
  | .stopping _ | .reporting _ | .leaving | .finished => true
  | .setup | .waiting | .killed | .draining _ | .panicked => false

/-- The relay has reported. -/
def Main.left : Main → Bool
  | .leaving | .finished => true
  | .setup | .waiting | .killed | .draining _ | .stopping _ | .reporting _ | .panicked => false

/-- The relay queues the output of its PTY in order and reports after it. -/
structure Reports (state : State) : Prop where
  whole : state.read ≠ .ended true → datas state.queued ++ state.read.pending = state.produced
  unspawned : state.main = .setup → state.read = .unspawned
  stopped : state.main.reports = true → state.read.runs = false
  silent : ∀ event, state.main = .reporting event → event.data? = none
  unclosed : state.main.left = false → .close ∉ state.queued
  orderly : Orderly state.queued state.produced

theorem Reports.start : Reports start where
  whole _ := rfl
  unspawned _ := rfl
  stopped := nofun
  silent := nofun
  unclosed _ := nofun
  orderly := Orderly.nil

section Reports
variable {state next : State}

theorem Main.reports_of_left {main : Main} (left : main.left = true) : main.reports = true := by
  cases main <;> first | rfl | contradiction

/-- An aborted read task has left its loop. -/
theorem ReadTask.abort_stops (read : ReadTask) : read.abort.runs = false := by
  cases read <;> rfl

/-- An abort that drops nothing changes nothing that is pending. -/
theorem ReadTask.abort_kept {read : ReadTask} (kept : read.abort ≠ .ended true) :
    read ≠ .ended true ∧ read.abort.pending = read.pending := by
  cases read with
  | sending => exact absurd rfl kept
  | unspawned => exact ⟨nofun, rfl⟩
  | selecting => exact ⟨nofun, rfl⟩
  | ended dropped => exact ⟨kept, rfl⟩

/-- A read task in its loop runs before the relay reports. -/
theorem Reports.unreported (reports : Reports state) (runs : state.read.runs = true) :
    state.main.reports = false := by
  apply Bool.eq_false_iff.mpr
  intro reporting
  rw [reports.stopped reporting] at runs
  contradiction

/-- No `Close` is queued while the read task is in its loop. -/
theorem Reports.open (reports : Reports state) (runs : state.read.runs = true) :
    .close ∉ state.queued := by
  apply reports.unclosed
  apply Bool.eq_false_iff.mpr
  intro left
  have unreported := reports.unreported runs
  rw [Main.reports_of_left left] at unreported
  contradiction

/-- The relay moves on without reading and without queueing anything. -/
theorem Reports.move (reports : Reports state) (queued : next.queued = state.queued)
    (produced : next.produced = state.produced)
    (whole : next.read ≠ .ended true →
      state.read ≠ .ended true ∧ next.read.pending = state.read.pending)
    (unspawned : next.main = .setup → next.read = .unspawned)
    (stopped : next.main.reports = true → next.read.runs = false)
    (silent : ∀ event, next.main = .reporting event → event.data? = none)
    (left : next.main.left = false → state.main.left = false) : Reports next where
  whole kept := by
    obtain ⟨before, pending⟩ := whole kept
    rw [pending, queued, produced]
    exact reports.whole before
  unspawned := unspawned
  stopped := stopped
  silent := silent
  unclosed stays := by
    rw [queued]
    exact reports.unclosed (left stays)
  orderly := by
    rw [queued, produced]
    exact reports.orderly

/-- Only the read task, the relay's progress and its output enter the reports. -/
theorem Reports.of_same (reports : Reports state) (read : next.read = state.read)
    (main : next.main = state.main) (queued : next.queued = state.queued)
    (produced : next.produced = state.produced) : Reports next := by
  apply reports.move queued produced
  · exact fun kept => ⟨read ▸ kept, congrArg ReadTask.pending read⟩
  · rw [main, read]
    exact reports.unspawned
  · rw [main, read]
    exact reports.stopped
  · rw [main]
    exact reports.silent
  · rw [main]
    exact id

/-- An awaited handle lets the relay move on, or it panics. -/
theorem Reports.await (reports : Reports state) {handle : JoinHandle} {joined : JoinHandle → State}
    (open_ : state.main.left = false) (moves : ∀ after, Reports (joined after)) :
    Reports (state.await handle joined) := by
  cases handle with
  | owed => exact moves .taken
  | taken =>
      refine reports.move rfl rfl ?_ ?_ ?_ ?_ ?_
      · exact fun kept => ⟨kept, rfl⟩
      · exact nofun
      · exact nofun
      · exact nofun
      · exact fun _ => open_

/-- The read task takes one more chunk from the PTY. -/
theorem Reports.readMaster (reports : Reports state) (selecting : state.read = .selecting)
    (chunk : Bytes) :
    Reports { state with read := .sending chunk, produced := state.produced ++ [chunk] } := by
  have runs : state.read.runs = true := by rw [selecting]; rfl
  have unreported := reports.unreported runs
  constructor
  case whole =>
    intro _
    have whole := reports.whole (by rw [selecting]; nofun)
    rw [selecting, ReadTask.pending, List.append_nil] at whole
    rw [ReadTask.pending, whole]
  case unspawned =>
    intro setup
    rw [reports.unspawned setup] at selecting
    contradiction
  case stopped =>
    intro reporting
    rw [unreported] at reporting
    contradiction
  case silent => exact reports.silent
  case unclosed => exact reports.unclosed
  case orderly => exact reports.orderly.produce chunk (reports.open runs)

/-- A delivered chunk is the next one of the output, and a dropped one ends the read task. -/
theorem Reports.delivered (reports : Reports state) {chunk : Bytes}
    (sending : state.read = .sending chunk) (ok : Bool) :
    Reports { state.queue (.data chunk) ok with
      read := if ok then .selecting else .ended true } := by
  have runs : state.read.runs = true := by rw [sending]; rfl
  have unreported := reports.unreported runs
  have open_ := reports.open runs
  cases ok with
  | false =>
      change Reports { state with read := .ended true }
      refine reports.move rfl rfl ?_ ?_ ?_ ?_ ?_
      · exact fun kept => absurd rfl kept
      · intro setup
        rw [reports.unspawned setup] at sending
        contradiction
      · exact fun _ => rfl
      · exact reports.silent
      · exact id
  | true =>
      have whole := reports.whole (by rw [sending]; nofun)
      rw [sending, ReadTask.pending] at whole
      constructor
      case whole =>
        intro _
        change datas (state.queued ++ [.data chunk]) ++ [] = state.produced
        rw [datas_append, datas_data, List.append_nil, whole]
      case unspawned =>
        intro setup
        change state.main = .setup at setup
        rw [reports.unspawned setup] at sending
        contradiction
      case stopped =>
        intro reporting
        change state.main.reports = true at reporting
        rw [unreported] at reporting
        contradiction
      case silent => exact reports.silent
      case unclosed => exact fun _ => unclosed_append open_ nofun
      case orderly => exact Orderly.data open_ whole

/-- After a report comes the `Close`, or the relay leaves. -/
theorem afterReport_cases (event : TunnelEvent) (ok : Bool) :
    afterReport event ok = .reporting .close ∧ event ≠ .close ∨
      (afterReport event ok).left = true := by
  cases event with
  | exit code =>
      cases ok with
      | true => exact .inl ⟨rfl, nofun⟩
      | false => exact .inr rfl
  | close | error | data => exact .inr rfl

/-- A report comes after the output, and the `Close` after all of it. -/
theorem Reports.reported (reports : Reports state) {event : TunnelEvent}
    (reporting : state.main = .reporting event) (ok : Bool)
    (complete : Whole state (.reported ok)) (tried : List (TunnelEvent × Nat)) :
    Reports { state.queue event ok with main := afterReport event ok, tried } := by
  have silent := reports.silent event reporting
  have stopped := reports.stopped (by rw [reporting]; rfl)
  have unclosed := reports.unclosed (by rw [reporting]; rfl)
  have after := afterReport_cases event ok
  have unspawned : afterReport event ok ≠ .setup := by
    intro setup
    rw [setup] at after
    simp [Main.left] at after
  have close : ∀ other, afterReport event ok = .reporting other → other.data? = none := by
    intro other same
    rcases after with ⟨close, -⟩ | left
    · rw [close] at same
      cases same
      rfl
    · rw [same] at left
      contradiction
  cases ok with
  | false =>
      change Reports { state with main := afterReport event false, tried }
      refine reports.move rfl rfl ?_ ?_ ?_ ?_ ?_
      · exact fun kept => ⟨kept, rfl⟩
      · exact fun setup => absurd setup unspawned
      · exact fun _ => stopped
      · exact close
      · exact fun _ => by rw [reporting]; rfl
  | true =>
      constructor
      case whole =>
        intro kept
        have whole := reports.whole kept
        change datas (state.queued ++ [event]) ++ state.read.pending = state.produced
        rwa [datas_append, datas_silent silent, List.append_nil]
      case unspawned => exact fun setup => absurd setup unspawned
      case stopped => exact fun _ => stopped
      case silent => exact close
      case unclosed =>
        intro stays
        rcases after with ⟨-, other⟩ | left
        · exact unclosed_append unclosed other
        · rw [left] at stays
          contradiction
      case orderly =>
        apply reports.orderly.report silent unclosed
        rintro rfl
        have ended := complete reporting
        have whole := reports.whole (by rw [ended]; nofun)
        rwa [ended, ReadTask.pending, List.append_nil] at whole

/-- Every step that meets the condition keeps the reports in order. -/
theorem Reports.step {action : Action} (reports : Reports state) (complete : Whole state action)
    (moved : step state action = some next) : Reports next := by
  cases step_move moved with
  | handleClose | handleAbort | handleResize | writerGone | writeFails | takeResize =>
      exact reports.of_same rfl rfl rfl rfl
  | setupDone setup =>
      have unspawned := reports.unspawned setup
      refine reports.move rfl rfl ?_ nofun nofun nofun ?_
      · intro _
        rw [unspawned]
        exact ⟨nofun, rfl⟩
      · exact fun _ => by rw [setup]; rfl
  | setupFails setup =>
      refine reports.move rfl rfl (fun kept => ⟨kept, rfl⟩) nofun ?_ ?_ ?_
      · exact fun _ => by rw [reports.unspawned setup]; rfl
      · rintro event ⟨⟩
        rfl
      · exact fun _ => by rw [setup]; rfl
  | readMaster selecting => exact reports.readMaster selecting _
  | readEnds selecting =>
      refine reports.move rfl rfl ?_ ?_ (fun _ => rfl) reports.silent id
      · intro _
        rw [selecting]
        exact ⟨nofun, rfl⟩
      · intro setup
        rw [reports.unspawned setup] at selecting
        contradiction
  | delivered sending => exact reports.delivered sending _
  | childExits alive =>
      have open_ : state.main.left = false := by rcases alive with main | main <;> rw [main] <;> rfl
      refine reports.await open_ fun _ => ?_
      exact reports.move rfl rfl (fun kept => ⟨kept, rfl⟩) nofun nofun nofun fun _ => open_
  | clientLeaves waiting =>
      have open_ : state.main.left = false := by rw [waiting]; rfl
      refine reports.await open_ fun _ => ?_
      exact reports.move rfl rfl (fun kept => ⟨kept, rfl⟩) nofun nofun nofun fun _ => open_
  | watchdog waiting =>
      refine reports.move rfl rfl (fun kept => ⟨kept, rfl⟩) nofun nofun nofun ?_
      exact fun _ => by rw [waiting]; rfl
  | drained draining ended =>
      have open_ : state.main.left = false := by rw [draining]; rfl
      refine reports.await open_ fun _ => ?_
      refine reports.move rfl rfl (fun kept => ⟨kept, rfl⟩) nofun ?_ nofun fun _ => open_
      exact fun _ => by rw [ended]; rfl
  | drainTimesOut draining =>
      have open_ : state.main.left = false := by rw [draining]; rfl
      refine reports.await open_ fun _ => ?_
      refine reports.move rfl rfl ReadTask.abort_kept nofun ?_ nofun fun _ => open_
      exact fun _ => ReadTask.abort_stops state.read
  | writeStopped stopping =>
      have open_ : state.main.left = false := by rw [stopping]; rfl
      have stopped := reports.stopped (by rw [stopping]; rfl)
      refine reports.await open_ fun _ => ?_
      refine reports.move rfl rfl (fun kept => ⟨kept, rfl⟩) nofun (fun _ => stopped) ?_ fun _ => open_
      rintro event ⟨⟩
      rfl
  | reported reporting => exact reports.reported reporting _ complete _
  | cleanup leaving =>
      have stopped := reports.stopped (by rw [leaving]; rfl)
      exact reports.move rfl rfl (fun kept => ⟨kept, rfl⟩) nofun (fun _ => stopped) nofun nofun

end Reports

end Tunnix.PtyRelay
