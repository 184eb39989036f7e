import Tunnix.Library.Ending
import Tunnix.Client.RelayHalves

namespace Tunnix.ClientRelay

/-- The read half has this many stages before it. -/
def ReadHalf.stages : ReadHalf → Nat
  | .sending _ => 3
  | .selecting => 2
  | .closing => 1
  | .ended _ => 0

/-- The write half has its stages before it, and the bytes that it still has to write. -/
def WriteHalf.stages : WriteHalf → Nat
  | .writing rest => 2 + rest.length
  | .shuttingDown => 2
  | .selecting => 1
  | .ended _ => 0

/-- An event is taken, and its bytes are written. -/
def eventCost (event : TunnelEvent) : Nat := event.bytes.length + 2

/-- The relay can make this many steps at most before it waits for the app or the tunnel. -/
def State.work (state : State) : Nat :=
  state.read.stages + state.write.stages + (state.events.items.map eventCost).sum +
    (!state.uploadEnded).toNat + (!state.returned).toNat

/-- The relay is fed by the tunnel's events and by what it reads from the app. -/
def Action.fuel : Action → Nat
  | .event arrived => eventCost arrived + 1
  | .readApp _ => 2
  | .dropChannel | .readEof | .readError => 1
  | .readStop | .sent _ | .closed _ | .takeEvent | .takeUpload | .writeSome _ | .writeFails
  | .shutdown _ | .finish => 0

section Work
variable {connId : ConnId} {state next : State} {action : Action}

/-- The end of the write half spends what it had before it. -/
theorem endWrite_work (state : State) : state.endWrite.work + state.write.stages +
    (state.events.items.map eventCost).sum = state.work := by
  simp only [State.work, State.endWrite, WriteHalf.stages, Channel.drop_items, List.map_nil,
    List.sum_nil]
  omega

theorem failWrite_work (state : State) : state.failWrite.work + state.write.stages +
    (state.events.items.map eventCost).sum = state.work :=
  endWrite_work { state with failed := true }

/-- The write half spends an event that it takes. -/
theorem handle_work (selecting : state.write = .selecting) (event : TunnelEvent) :
    (state.handle event).work + 1 ≤ state.work + eventCost event := by
  cases event with
  | data bytes =>
      cases bytes with
      | nil => simp only [State.handle, eventCost, TunnelEvent.bytes, List.length_nil]; omega
      | cons byte bytes =>
          simp only [State.handle, State.work, eventCost, TunnelEvent.bytes, selecting,
            WriteHalf.stages]
          omega
  | close =>
      simp only [State.handle, State.work, eventCost, TunnelEvent.bytes, selecting,
        WriteHalf.stages, List.length_nil]
      omega
  | error =>
      have spent := endWrite_work { state with failed := true, serverReported := true }
      have same : { state with failed := true, serverReported := true : State }.work =
        state.work := rfl
      simp only [State.handle, eventCost]
      omega
  | exit =>
      have spent := failWrite_work state
      simp only [State.handle, eventCost]
      omega

/-- Every step spends some work. -/
theorem work_step (moved : step connId state action = some next) :
    next.work + 1 ≤ state.work + action.fuel := by
  cases step_move moved with
  | event _ sent =>
      obtain ⟨-, items, -⟩ := Channel.send_some sent
      simp only [State.work, Action.fuel, items, List.map_append, List.sum_append, List.map_cons,
        List.map_nil, List.sum_cons, List.sum_nil]
      omega
  | dropChannel =>
      simp only [State.work, Action.fuel]
      omega
  | readStop read | readError read | sendFailed read | closed read =>
      simp only [State.work, Action.fuel, State.endRead, read, ReadHalf.stages]
      omega
  | readApp read | readEof read | sent read =>
      simp only [State.work, Action.fuel, read, ReadHalf.stages]
      omega
  | @takeEvent event events selecting received =>
      obtain ⟨items, -⟩ := Channel.receive_some received
      have handled := handle_work (show (state.receive event events).write = _ from selecting) event
      simp only [State.work, State.receive, Action.fuel, items, List.map_cons, List.sum_cons]
        at handled ⊢
      omega
  | channelGone selecting =>
      have spent := failWrite_work state
      simp only [Action.fuel, selecting, WriteHalf.stages] at spent ⊢
      omega
  | @takeUpload reported selecting unended =>
      let taken := { state with uploadEnded := true, upload := .taken }
      have spent : taken.work + 1 = state.work := by
        simp only [taken, State.work, unended, Bool.not_true, Bool.not_false, Bool.toNat_true,
          Bool.toNat_false]
        omega
      have handled : (taken.handleUpload reported).work ≤ taken.work := by
        have ended := endWrite_work taken
        have failed := failWrite_work taken
        cases reported with
        | eof =>
            simp only [State.handleUpload]
            split
            · omega
            · exact Nat.le_refl _
        | failed =>
            simp only [State.handleUpload]
            omega
      exact Nat.le_trans (Nat.add_le_add_right handled 1) (Nat.le_of_eq spent)
  | writeSome writing positive less =>
      simp only [State.work, Action.fuel, writing, WriteHalf.stages, List.length_drop]
      omega
  | writeAll writing positive =>
      simp only [State.work, Action.fuel, writing, WriteHalf.stages]
      omega
  | writeFails writing =>
      have spent := failWrite_work { state with app := state.app.fail }
      simp only [State.work, Action.fuel, writing, WriteHalf.stages] at spent ⊢
      omega
  | shutdown shutting =>
      simp only [State.work, Action.fuel, shutting, WriteHalf.stages]
      omega
  | @shutdownLast ok app shutting =>
      have spent := endWrite_work { state with app, write := .selecting }
      simp only [State.work, Action.fuel, shutting, WriteHalf.stages] at spent ⊢
      omega
  | finish _ _ unreturned =>
      simp only [State.work, Action.fuel, unreturned, Bool.not_true, Bool.not_false,
        Bool.toNat_true, Bool.toNat_false]
      omega

/-- The end of the upload is reported, and the write half ends with it once the response is
closed. -/
structure Paired (state : State) : Prop where
  reported : ∀ outcome, state.read = .ended outcome → state.upload ≠ .waiting
  listens : state.uploadEnded = true → state.hearing = true → state.responseClosed = true →
    state.write = .shuttingDown

theorem Paired.start : Paired start := ⟨nofun, nofun⟩

/-- A write half that waits for events has not closed the response behind the end of the upload. -/
theorem Paired.unclosed (paired : Paired state) (hears : state.hearing = true)
    (unshut : state.write ≠ .shuttingDown) (ended : state.uploadEnded = true) :
    state.responseClosed ≠ true :=
  fun closed => unshut (paired.listens ended hears closed)

theorem Paired.step (paired : Paired state)
    (moved : ClientRelay.step connId state action = some next) : Paired next := by
  cases step_move moved with
  | event | dropChannel => exact ⟨paired.reported, paired.listens⟩
  | readApp | readEof | sent => exact ⟨by simp, paired.listens⟩
  | readStop | readError | sendFailed | closed => exact ⟨by simp, paired.listens⟩
  | @takeEvent event events selecting received =>
      have unclosed := paired.unclosed (by simp [State.hearing, selecting]) (by simp [selecting])
      cases event with
      | data bytes =>
          cases bytes with
          | nil | cons =>
              exact ⟨paired.reported, fun ended _ closed => absurd closed (unclosed ended)⟩
      | close => exact ⟨paired.reported, fun _ _ _ => rfl⟩
      | error | exit => exact ⟨paired.reported, fun _ hears => by cases hears⟩
  | channelGone | writeFails | shutdownLast =>
      exact ⟨paired.reported, fun _ hears => by cases hears⟩
  | @takeUpload reported =>
      cases reported with
      | eof =>
          simp only [State.handleUpload]
          split
          · exact ⟨by simp, fun _ hears => by cases hears⟩
          · next unclosed => exact ⟨by simp, fun _ _ closed => absurd closed unclosed⟩
      | failed => exact ⟨by simp [State.handleUpload, State.failWrite], fun _ hears => by cases hears⟩
  | writeSome writing | writeAll writing =>
      have unclosed := paired.unclosed (by simp [State.hearing, writing]) (by simp [writing])
      exact ⟨paired.reported, fun ended _ closed => absurd closed (unclosed ended)⟩
  | shutdown _ unended =>
      refine ⟨paired.reported, fun ended => ?_⟩
      rw [unended] at ended
      cases ended
  | finish => exact ⟨paired.reported, paired.listens⟩

/-- The relay waits for a live tunnel. Nothing has failed, no event is queued, and the app may still
send, or it is done and the response is still open. -/
structure Waits (state : State) : Prop where
  registered : state.registered = true
  quiet : state.events.items = []
  unfailed : state.failed = false
  write : state.write = .selecting
  read : state.read = .selecting ∨ state.read = .ended .eof ∧ state.responseClosed = false

/-- The relay has returned, or it waits as it should. -/
def Rests (state : State) : Prop := state.returned = true ∨ Waits state

/-- Both relations between the halves hold together. -/
structure Sound (connId : ConnId) (state : State) : Prop where
  joined : Joined connId state
  paired : Paired state

section Stuck
variable (stuck : ∀ action, action.fuel = 0 → ClientRelay.step connId state action = none)
include stuck

/-- A stuck read half waits in its `select!`, or it has ended. -/
theorem read_of_stuck : state.read = .selecting ∨ ∃ outcome, state.read = .ended outcome := by
  cases read : state.read with
  | selecting => exact .inl rfl
  | sending => simpa [step, read] using stuck (.sent false) rfl
  | closing => simpa [step, read] using stuck (.closed false) rfl
  | ended outcome => exact .inr ⟨outcome, rfl⟩

/-- A stuck write half waits in its `select!`, or it has ended. -/
theorem write_of_stuck : state.write = .selecting ∨ ∃ abort, state.write = .ended abort := by
  cases write : state.write with
  | selecting => exact .inl rfl
  | writing => simpa [step, write] using stuck .writeFails rfl
  | shuttingDown => simpa [step, write] using stuck (.shutdown false) rfl
  | ended abort => exact .inr ⟨abort, rfl⟩

/-- A relay whose write half has ended returns. -/
theorem Sound.returned (sound : Sound connId state) {abort : Bool}
    (ended : state.write = .ended abort) : state.returned = true := by
  have deaf : state.hearing = false := by simp [State.hearing, ended]
  have signalled := sound.joined.stopping.signalled deaf
  rcases read_of_stuck stuck with read | ⟨outcome, read⟩
  · -- The stop signal is there, and the read half takes it.
    cases stop : state.stop with
    | waiting => exact absurd stop signalled
    | sent => simpa [ClientRelay.step, read, stop] using stuck .readStop rfl
    | dropped => simpa [ClientRelay.step, read, stop] using stuck .readStop rfl
    | taken =>
        obtain ⟨outcome, reported⟩ := sound.joined.signals.stopTaken stop
        rw [read] at reported
        cases reported
  · by_contra unreturned
    simpa [ClientRelay.step, read, ended, unreturned] using stuck .finish rfl

/-- A write half that waits for the upload's end has not missed it. -/
theorem Sound.uploadEnded (sound : Sound connId state) (selecting : state.write = .selecting)
    (quiet : state.events.items = []) (registered : state.registered = true) {outcome : Upload}
    (ended : state.read = .ended outcome) : state.uploadEnded = true := by
  by_contra unended
  have polls := stuck .takeUpload rfl
  cases upload : state.upload with
  | waiting => exact sound.paired.reported outcome ended upload
  | sent => simp [ClientRelay.step, selecting, quiet, registered, unended, upload] at polls
  | dropped => exact sound.joined.reporting.held upload
  | taken => exact unended (sound.joined.signals.uploadTaken upload)

/-- A relay whose write half waits is fed by nobody but the tunnel and the app. -/
theorem Sound.waits (sound : Sound connId state) (selecting : state.write = .selecting) :
    Waits state := by
  have hears : state.hearing = true := by simp [State.hearing, selecting]
  obtain ⟨-, -, unfailed, -⟩ := sound.joined.stopping.hearing hears
  have takes := stuck .takeEvent rfl
  cases received : state.events.receive with
  | some => simp [ClientRelay.step, selecting, received] at takes
  | none =>
      have quiet := Channel.receive_none.mp received
      have registered : state.registered = true := by
        simpa [ClientRelay.step, selecting, received] using takes
      refine ⟨registered, quiet, unfailed, selecting, ?_⟩
      rcases read_of_stuck stuck with read | ⟨outcome, read⟩
      · exact .inl read
      · have ended := sound.uploadEnded stuck selecting quiet registered read
        cases outcome with
        | eof =>
            have unclosed := sound.paired.unclosed hears (by simp [selecting]) ended
            exact .inr ⟨read, Bool.eq_false_iff.mpr unclosed⟩
        | failed =>
            rcases sound.joined.signals.uploaded ended with failed | whole
            · rw [unfailed] at failed
              cases failed
            · exact absurd read whole
        | stopped stop =>
            have failed := sound.joined.signals.stopped stop (.inr read)
            rw [unfailed] at failed
            cases failed

theorem Sound.rests (sound : Sound connId state) : Rests state := by
  rcases write_of_stuck stuck with selecting | ⟨abort, ended⟩
  · exact .inr (sound.waits stuck selecting)
  · exact .inl (sound.returned stuck ended)

end Stuck

theorem Sound.start (connId : ConnId) : Sound connId start := ⟨.start connId, .start⟩

theorem Sound.step (sound : Sound connId state)
    (moved : ClientRelay.step connId state action = some next) : Sound connId next :=
  ⟨sound.joined.step moved, sound.paired.step moved⟩

end Work

/-- A relay makes a bounded number of steps for the events of the tunnel and the reads from the app,
and it stops only when it has returned or waits for a live tunnel on which nothing has failed. So a
failed upload, a dropped channel or a reported error never parks it. -/
theorem client_relay_rests {connId : ConnId} {actions : List Action} {state : State}
    (ran : Machine.run (step connId) start actions = some state) :
    Machine.Ends (step connId) Action.fuel Rests state.work state :=
  Machine.ends_of_spends (fun _ _ _ (moved : step connId _ _ = _) => work_step moved)
    (fun _ _ _ => Sound.step) (fun _ sound stuck => Sound.rests stuck sound)
    (Machine.run_invariant Sound.step (Sound.start connId) ran)

/-- The app's chunk cannot be posted. -/
def failedUpload : List Action := [.readApp [1], .sent false]

/-- The relay returns although the tunnel stays silent. -/
theorem client_relay_rests_of_failedUpload : ∃ state,
    Machine.run (step 7) start failedUpload = some state ∧
      ∀ actions final, Machine.run (step 7) state actions = some final →
        (actions.map Action.fuel).sum = 0 → actions.length ≤ 3 := by
  obtain ⟨state, ran, work⟩ := Option.map_eq_some_iff.mp
    (show (Machine.run (step 7) start failedUpload).map State.work = some 3 by decide)
  refine ⟨state, ran, fun actions final later unfed => ?_⟩
  have bounded := (client_relay_rests ran).bounded actions final later
  rwa [work, unfed] at bounded

end Tunnix.ClientRelay
