import Tunnix.Library.Ending
import Tunnix.Server.RegistryExact

namespace Tunnix.TcpRelay

/-- The read task has this many stages before it. -/
def ReadTask.stages : ReadTask → Nat
  | .selecting => 5
  | .sending _ => 4
  | .ended _ => 3
  | .reporting _ => 2
  | .unsent => 1
  | .done => 0

/-- The write task has its stages before it, and the bytes that it still has to write. -/
def WriteTask.stages : WriteTask → Nat
  | .selecting => 3
  | .writing rest => 4 + rest.length
  | .failing _ => 2
  | .reporting _ => 1
  | .done => 0

/-- A queued chunk is taken and then written, and a handler queues its chunk first. -/
def takeCost (chunk : Bytes) : Nat := chunk.length + 2

def handleCost (chunk : Bytes) : Nat := chunk.length + 3

/-- The relay can make this many steps at most before it waits for its client or its target. -/
def State.work (state : State) : Nat :=
  state.read.stages + state.write.stages + (state.handlers.map handleCost).sum +
    (state.writer.items.map takeCost).sum + (!state.finished).toNat

/-- The relay is fed by the client's messages and by every chunk of the target that it delivers. -/
def Action.fuel : Action → Nat
  | .handleData data => handleCost data + 1
  | .handleClose | .handleAbort | .loseWriter | .loseAbort => 1
  | .delivered true => 2
  | .delivered false | .enqueue _ | .forget _ | .readTarget _ | .readEof | .readFails _ | .takeAbort
  | .clientLost | .settle | .reported _ | .releaseUnsent | .takeData | .watchdog | .writeSome _
  | .writeFails _ | .releaseFailed | .failureReported _ | .cleanup => 0

section Work
variable {state next : State} {action : Action}

/-- Every step spends some work. -/
theorem work_step (moved : step state action = some next) :
    next.work + 1 ≤ state.work + action.fuel := by
  cases step_move moved with
  | handleData =>
      simp only [State.work, Action.fuel, List.map_append, List.sum_append, List.map_cons,
        List.map_nil, List.sum_cons, List.sum_nil]
      omega
  | discardData | handleClose | handleAbort | loseWriter | loseAbort =>
      simp only [State.work, Action.fuel, State.releaseWriter]
      omega
  | @enqueue index data writer found sent =>
      obtain ⟨-, items, -⟩ := Channel.send_some sent
      have held := List.sum_map_eraseIdx handleCost found
      simp only [State.work, Action.fuel, items, held, List.map_append, List.sum_append,
        List.map_cons, List.map_nil, List.sum_cons, List.sum_nil, handleCost, takeCost]
      omega
  | @refuse index data found =>
      have held := List.sum_map_eraseIdx handleCost found
      simp only [State.work, Action.fuel, held, handleCost]
      omega
  | @forget index inside =>
      have held := List.sum_map_eraseIdx handleCost (List.getElem?_eq_getElem inside)
      simp only [State.work, Action.fuel, held, handleCost]
      omega
  | takeEmpty _ received =>
      obtain ⟨items, -⟩ := Channel.receive_some received
      simp only [State.work, Action.fuel, items, List.map_cons, List.sum_cons, takeCost]
      omega
  | takeData selecting received =>
      obtain ⟨items, -⟩ := Channel.receive_some received
      simp only [State.work, Action.fuel, selecting, items, List.map_cons, List.sum_cons, takeCost,
        WriteTask.stages]
      omega
  | writeSome writing positive less =>
      simp only [State.work, Action.fuel, writing, WriteTask.stages, List.length_drop]
      omega
  | writeAll writing positive =>
      simp only [State.work, Action.fuel, writing, WriteTask.stages]
      omega
  | @settle reason ended =>
      cases reason with
      | eof | failed | clientGone | aborted =>
          simp only [State.work, Action.fuel, State.settle, State.releaseWriter, ended,
            ReadTask.stages]
          omega
  | @reported report ok reporting =>
      cases ok with
      | true =>
          simp only [State.work, Action.fuel, State.reported, State.queue, reporting,
            ReadTask.stages]
          omega
      | false =>
          have less : (state.reported report false).read.stages ≤ 1 := by
            simp only [State.reported]
            split <;> decide
          simp only [State.work, Action.fuel, reporting, ReadTask.stages] at less ⊢
          simp only [State.reported] at less ⊢
          omega
  | readTarget selecting | readEof selecting | readFails selecting | takeAbort selecting
  | clientLost selecting =>
      simp only [State.work, Action.fuel, selecting, ReadTask.stages]
      omega
  | delivered sending | undelivered sending =>
      simp only [State.work, Action.fuel, State.queue, sending, ReadTask.stages]
      omega
  | releaseUnsent unsent =>
      simp only [State.work, Action.fuel, State.releaseWriter, unsent, ReadTask.stages]
      omega
  | sendersGone selecting | watchdog selecting =>
      simp only [State.work, Action.fuel, State.endWrite, Channel.drop_items, selecting,
        WriteTask.stages, List.map_nil, List.sum_nil]
      omega
  | writeFails writing =>
      simp only [State.work, Action.fuel, writing, WriteTask.stages]
      omega
  | releaseFailed failing =>
      simp only [State.work, Action.fuel, State.releaseWriter, failing, WriteTask.stages]
      omega
  | failureReported reporting | failureUnreported reporting =>
      simp only [State.work, Action.fuel, State.endWrite, State.queue, Channel.drop_items,
        reporting, WriteTask.stages, List.map_nil, List.sum_nil]
      omega
  | cleanup _ _ unfinished =>
      simp only [State.work, Action.fuel, State.releaseWriter, unfinished, Bool.not_true,
        Bool.not_false, Bool.toNat_true, Bool.toNat_false]
      omega

/-- Nothing of the relay is left: its tasks have ended, no handler is on its way to them, and the
session has no entry of it. -/
structure Over (state : State) : Prop where
  read : state.read = .done
  write : state.write = .done
  handlers : state.handlers = []
  finished : state.finished = true
  registered : state.registered = false
  abortable : state.abortable = false

/-- A read task that can no longer move by itself has ended. -/
theorem read_of_stuck
    (stuck : ∀ action, action.fuel = 0 → TcpRelay.step state action = none) :
    state.read = .done := by
  cases read : state.read with
  | selecting => simpa [step, read] using stuck .clientLost rfl
  | sending => simpa [step, read] using stuck (.delivered false) rfl
  | ended => simpa [step, read] using stuck .settle rfl
  | reporting => simpa [step, read] using stuck (.reported false) rfl
  | unsent => simpa [step, read] using stuck .releaseUnsent rfl
  | done => rfl

/-- A write task that can no longer move by itself has ended. Its target takes what is written, or
the write fails. -/
theorem write_of_stuck (read : state.read = .done)
    (stuck : ∀ action, action.fuel = 0 → TcpRelay.step state action = none) :
    state.write = .done := by
  cases write : state.write with
  | selecting => simpa [step, read, write] using stuck .watchdog rfl
  | writing => simpa [step, write] using stuck (.writeFails "") rfl
  | failing => simpa [step, write] using stuck .releaseFailed rfl
  | reporting => simpa [step, write] using stuck (.failureReported false) rfl
  | done => rfl

/-- A relay that can no longer move by itself is over. -/
theorem Released.over (released : Released state)
    (stuck : ∀ action, action.fuel = 0 → TcpRelay.step state action = none) : Over state := by
  have read := read_of_stuck stuck
  have write := write_of_stuck read stuck
  have finished : state.finished = true := by
    by_contra unfinished
    simpa [TcpRelay.step, read, write, unfinished] using stuck .cleanup rfl
  have handlers : state.handlers = [] := by
    by_contra some_
    simpa [TcpRelay.step, List.length_pos_iff.mpr some_] using stuck (.forget 0) rfl
  exact ⟨read, write, handlers, finished, (released finished).1, (released finished).2⟩

end Work

theorem released_start : Released start := nofun

/-- A relay makes a bounded number of steps for the messages of its client and the chunks that reach
it, and it stops only when nothing of it is left. So it ends once its client is gone, whatever its
target does, as long as a write to the target does not last forever. -/
theorem tcp_relay_ends {actions : List Action} {state : State}
    (ran : Machine.run step start actions = some state) :
    Machine.Ends step Action.fuel Over state.work state :=
  Machine.ends_of_spends (fun _ _ _ (moved : step _ _ = _) => work_step moved)
    (fun _ _ _ => Released.step) (fun _ => Released.over)
    (Machine.run_invariant Released.step released_start ran)

/-- A chunk of the client is on its way to the target, and the client vanishes. -/
def vanished : List Action :=
  [.handleData [1], .enqueue 0, .takeData, .readTarget [2], .delivered false, .settle]

theorem tcp_relay_ends_of_vanished : ∃ state, Machine.run step start vanished = some state ∧
    ∀ actions final, Machine.run step state actions = some final →
      (actions.map Action.fuel).sum = 0 → actions.length ≤ 8 := by
  obtain ⟨state, ran, work⟩ := Option.map_eq_some_iff.mp
    (show (Machine.run step start vanished).map State.work = some 8 by decide)
  refine ⟨state, ran, fun actions final later unfed => ?_⟩
  have bounded := (tcp_relay_ends ran).bounded actions final later
  rwa [work, unfed] at bounded

end Tunnix.TcpRelay
