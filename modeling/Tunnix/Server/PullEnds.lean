import Tunnix.Library.Ending
import Tunnix.Server.PullArchive

namespace Tunnix.PullArchive
open Archive
open PullRelay (Phase)
open PushRelay (channelCap)

section Work

/-- The relay has this many stages before it, if it takes no more chunks. -/
def stages : Phase → Nat
  | .sending _ => 5
  | .receiving => 4
  | .joining => 3
  | .reporting (.exit _) => 2
  | .reporting _ => 1
  | .gone => 1
  | .done => 0

/-- The relay and its compressor can make this many steps at most unless the compressor writes
more. -/
def State.work (state : State) : Nat :=
  stages state.relay.phase + 2 * state.chunks.items.length + 3 * state.writing.isSome.toNat +
    state.compHandle.isNone.toNat

/-- The relay is fed by the compressor's archive. -/
def Action.fuel : Action → Nat
  | .begin _ => 4
  | .write | .finish _ | .receive | .endOfChunks | .delivered _ | .join | .reported _ => 0

/-- A write adds one chunk at most. -/
theorem write_length {tx sent : Channel channelCap Bytes} {buf : Bytes}
    {result : Except IoError Nat} (wrote : ChannelWriter.write tx buf = some (result, sent)) :
    sent.items.length ≤ tx.items.length + 1 := by
  rw [ChannelWriter.write] at wrote
  split at wrote
  · obtain ⟨-, rfl⟩ := Prod.mk.inj (Option.some.inj wrote)
    omega
  · split at wrote
    · obtain ⟨next, queued, same⟩ := Option.map_eq_some_iff.mp wrote
      obtain ⟨-, rfl⟩ := Prod.mk.inj same
      obtain ⟨-, items, -⟩ := Channel.send_some queued
      simp [items]
    · obtain ⟨-, rfl⟩ := Prod.mk.inj (Option.some.inj wrote)
      omega

/-- A write blocks only on a full channel whose receiver is held. -/
theorem write_none {tx : Channel channelCap Bytes} {buf : Bytes}
    (blocked : ChannelWriter.write tx buf = none) : tx.receiving = true ∧ tx.items ≠ [] := by
  rw [ChannelWriter.write] at blocked
  split at blocked
  · cases blocked
  · split at blocked
    · next receiving =>
        refine ⟨receiving, fun empty => ?_⟩
        simp [Channel.send, receiving, empty, channelCap] at blocked
    · cases blocked

/-- Each report brings the relay closer to its end. -/
theorem afterReport_stages (event : TunnelEvent) (ok : Bool) :
    stages (PullRelay.afterReport event ok) < stages (.reporting event) := by
  cases event with
  | exit => cases ok <;> simp [PullRelay.afterReport, stages]
  | data | close | error => simp [PullRelay.afterReport, stages]

variable {state next : State} {action : Action}

/-- Every step spends some work. -/
theorem work_step (moved : step state action = some next) :
    next.work + 1 ≤ state.work + action.fuel := by
  cases step_move moved with
  | begin running =>
      simp only [State.work, Action.fuel, Option.isSome_some, Bool.toNat_true]
      omega
  | write writing wrote =>
      have length := write_length wrote
      simp only [State.work, Action.fuel, writing, Option.isSome_some, Option.isSome_none,
        Bool.toNat_true, Bool.toNat_false]
      omega
  | finish idle running =>
      simp only [State.work, Action.fuel, running, Option.isNone_none, Option.isNone_some,
        Bool.toNat_true, Bool.toNat_false]
      omega
  | receive received receiving =>
      obtain ⟨items, -⟩ := Channel.receive_some received
      simp only [State.work, Action.fuel, items, receiving, stages, List.length_cons]
      omega
  | endOfChunks _ _ receiving =>
      simp only [State.work, Action.fuel, receiving, stages]
      omega
  | @delivered chunk ok sending =>
      cases ok with
      | true =>
          simp only [State.work, Action.fuel, sending, stages, if_true]
          omega
      | false =>
          simp only [State.work, Action.fuel, sending, stages, Channel.drop_items, List.length_nil,
            Bool.false_eq_true, if_false]
          omega
  | joined _ joining | failed _ _ joining =>
      simp only [State.work, Action.fuel, joining, stages]
      omega
  | silenced _ gone =>
      simp only [State.work, Action.fuel, gone, stages]
      omega
  | @reported event ok reporting =>
      have less := afterReport_stages event ok
      simp only [State.work, Action.fuel, reporting]
      omega

/-- Nothing of the relay is left: it has returned, and so has its compressor. -/
structure Over (state : State) : Prop where
  relay : state.relay.phase = .done
  compressor : state.compHandle ≠ none
  writing : state.writing = none

/-- A relay that waits for chunks takes one that is there. -/
theorem receive_moves (receiving : state.relay.phase = .receiving)
    (filled : state.chunks.items ≠ []) : PullArchive.step state .receive ≠ none := by
  obtain ⟨chunk, rest, items⟩ := List.exists_cons_of_ne_nil filled
  simp [PullArchive.step, Channel.receive, items, PullRelay.step, receiving]

/-- A delivery ends. -/
theorem delivered_moves {chunk : Bytes} (sending : state.relay.phase = .sending chunk) :
    PullArchive.step state (.delivered true) ≠ none := by
  simp [PullArchive.step, PullRelay.step, sending]

/-- A relay that can no longer move by itself is over. -/
theorem Joint.over (joint : Joint state)
    (stuck : ∀ action, action.fuel = 0 → PullArchive.step state action = none) : Over state := by
  have writing : state.writing = none := by
    by_contra some_
    obtain ⟨buf, inside⟩ := Option.ne_none_iff_exists'.mp some_
    have blocked := stuck .write rfl
    simp only [PullArchive.step, inside, Option.map_eq_none_iff] at blocked
    obtain ⟨receiving, filled⟩ := write_none blocked
    have running : state.compHandle = none := by
      by_contra ended
      exact some_ (joint.returned ended)
    obtain ⟨notJoining, notReporting, notDone⟩ := joint.ended running
    -- The relay takes the chunks that block the compressor, or has dropped their receiver.
    cases phase : state.relay.phase with
    | receiving => exact receive_moves phase filled (stuck .receive rfl)
    | sending chunk => exact delivered_moves phase (stuck (.delivered true) rfl)
    | joining => exact notJoining phase
    | gone => simp [joint.dropped phase] at receiving
    | reporting event => exact notReporting event phase
    | done => exact notDone phase
  have compressor : state.compHandle ≠ none := by
    intro running
    simpa [PullArchive.step, State.compressing, writing, running] using stuck (.finish .ok) rfl
  obtain ⟨outcome, ended⟩ := Option.ne_none_iff_exists'.mp compressor
  refine ⟨?_, compressor, writing⟩
  cases phase : state.relay.phase with
  | receiving =>
      by_cases empty : state.chunks.items = []
      · simpa [PullArchive.step, empty, ended, PullRelay.step, phase] using stuck .endOfChunks rfl
      · exact absurd (stuck .receive rfl) (receive_moves phase empty)
  | sending chunk => exact absurd (stuck (.delivered true) rfl) (delivered_moves phase)
  | joining =>
      have refused := stuck .join rfl
      cases failure : outcome.failure <;>
        simp [PullArchive.step, ended, failure, PullRelay.step, phase] at refused
  | gone =>
      have refused := stuck .join rfl
      simp [PullArchive.step, ended, PullRelay.step, phase] at refused
  | reporting event =>
      simpa [PullArchive.step, PullRelay.step, phase] using stuck (.reported false) rfl
  | done => rfl

end Work

/-- A pull relay and its compressor make a bounded number of steps for what the compressor writes,
and they stop only when both have returned, whenever the client vanishes. A success is reported only
after the whole archive of a compressor that has succeeded. -/
theorem pull_relay_ends {actions : List Action} {state : State}
    (ran : Machine.run step start actions = some state) :
    Machine.Ends step Action.fuel Over state.work state ∧
    ∀ code, .exit code ∈ state.relay.queued →
      state.compHandle = some .ok ∧ (datas state.relay.queued).flatten = state.written := by
  have whole := Machine.run_invariant Whole.step Whole.start ran
  refine ⟨Machine.ends_of_spends (fun _ _ _ (moved : step _ _ = _) => work_step moved)
    (fun _ _ _ => Joint.step) (fun _ => Joint.over) whole.joint, fun code queued => ?_⟩
  obtain ⟨-, succeeded, archive⟩ := whole.earned code queued
  exact ⟨succeeded, congrArg List.flatten archive⟩

/-- The client vanishes while the compressor is in a write. -/
def vanished : List Action :=
  [.begin [1], .write, .receive, .begin [2], .write, .begin [3], .delivered false]

theorem pull_relay_ends_of_vanished : ∃ state, Machine.run step start vanished = some state ∧
    ∀ actions final, Machine.run step state actions = some final →
      (actions.map Action.fuel).sum = 0 → actions.length ≤ 5 := by
  obtain ⟨state, ran, work⟩ := Option.map_eq_some_iff.mp
    (show (Machine.run step start vanished).map State.work = some 5 by decide)
  refine ⟨state, ran, fun actions final later unfed => ?_⟩
  have bounded := (pull_relay_ends ran).1.bounded actions final later
  rwa [work, unfed] at bounded

end Tunnix.PullArchive
