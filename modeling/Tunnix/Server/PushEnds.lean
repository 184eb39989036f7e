import Tunnix.Library.Ending
import Tunnix.Server.PushRelay

namespace Tunnix.PushRelay

/-- The relay has this many stages before it. -/
def Main.stages : Main → Nat
  | .selecting => 6
  | .expired => 5
  | .forced => 4
  | .joined _ => 3
  | .reporting (.exit _) => 2
  | .reporting _ => 1
  | .finished => 0

/-- The relay and its unpack task can make this many steps at most before they wait for the
client. -/
def State.work (state : State) : Nat :=
  state.main.stages + state.unpacked.isNone.toNat + 2 * state.handlers.length +
    state.writer.items.length

/-- The relay is fed by the client's messages. -/
def Action.fuel : Action → Nat
  | .handleData _ => 3
  | .handleClose | .handleAbort => 1
  | .enqueue _ | .forget _ | .takeChunk | .unpackEnds _ | .join | .watchdog | .forceEof | .release
  | .reported _ => 0

section Work
variable {state next : State} {action : Action}

/-- Each report brings the relay closer to its end. -/
theorem afterReport_stages (event : TunnelEvent) (ok : Bool) :
    (afterReport event ok).stages < (Main.reporting event).stages := by
  cases event with
  | exit => cases ok <;> simp [afterReport, Main.stages]
  | data | close | error => simp [afterReport, Main.stages]

/-- Every step spends some work. -/
theorem work_step (moved : step state action = some next) :
    next.work + 1 ≤ state.work + action.fuel := by
  cases step_move moved with
  | handleData =>
      simp only [State.work, Action.fuel, List.length_append, List.length_singleton]
      omega
  | discardData | handleClose | handleAbort =>
      simp only [State.work, Action.fuel]
      omega
  | @enqueue index data writer found sent =>
      obtain ⟨inside, -⟩ := List.getElem?_eq_some_iff.mp found
      obtain ⟨-, items, -⟩ := Channel.send_some sent
      simp only [State.work, Action.fuel, items, List.length_append, List.length_singleton,
        List.length_eraseIdx_of_lt inside]
      omega
  | @refuse index data found =>
      obtain ⟨inside, -⟩ := List.getElem?_eq_some_iff.mp found
      simp only [State.work, Action.fuel, List.length_eraseIdx_of_lt inside]
      omega
  | forget inside =>
      simp only [State.work, Action.fuel, List.length_eraseIdx_of_lt inside]
      omega
  | takeChunk _ received =>
      obtain ⟨items, -⟩ := Channel.receive_some received
      simp only [State.work, Action.fuel, items, List.length_cons]
      omega
  | unpackEnds running =>
      simp only [State.work, Action.fuel, running, Channel.drop_items, Option.isNone_none,
        Option.isNone_some, Bool.toNat_true, Bool.toNat_false, List.length_nil]
      omega
  | join _ waits =>
      rcases waits with main | main
      · simp only [State.work, Action.fuel, main, Main.stages]
        omega
      · simp only [State.work, Action.fuel, main, Main.stages]
        omega
  | watchdog main | forceEof main =>
      simp only [State.work, Action.fuel, main, Main.stages]
      omega
  | @release unpacked main =>
      cases unpacked with
      | ok | failed | panicked =>
          simp only [State.work, Action.fuel, main, Unpacked.event, Main.stages]
          omega
  | @reported event ok main =>
      have less := afterReport_stages event ok
      cases ok with
      | true =>
          simp only [State.work, Action.fuel, main, State.queue, if_true]
          omega
      | false =>
          simp only [State.work, Action.fuel, main, State.queue, Bool.false_eq_true, if_false]
          omega

/-- A relay that has joined its unpack task has an outcome of it, and one that reports has no entry
left. -/
structure Joined (state : State) : Prop where
  unpacked : state.unpacked = none →
    state.main = .selecting ∨ state.main = .expired ∨ state.main = .forced
  released : Released state

theorem Joined.start : Joined start := ⟨fun _ => .inl rfl, nofun⟩

theorem Joined.step (joined : Joined state) (moved : PushRelay.step state action = some next) :
    Joined next := by
  refine ⟨fun running => ?_, joined.released.step moved⟩
  cases step_move moved with
  | unpackEnds => cases running
  | join found =>
      rw [found] at running
      cases running
  | watchdog => exact .inr (.inl rfl)
  | forceEof => exact .inr (.inr rfl)
  | release main => simpa [main] using joined.unpacked running
  | reported main =>
      have running : state.unpacked = none := by cases ‹Bool› <;> exact running
      simpa [main] using joined.unpacked running
  | _ => exact joined.unpacked running

/-- Nothing of the relay is left: its unpack task and its handlers have ended, and the session has
no entry of it. -/
structure Over (state : State) : Prop where
  main : state.main = .finished
  unpacked : state.unpacked ≠ none
  handlers : state.handlers = []
  registered : state.registered = false

/-- A relay that can no longer move by itself is over. -/
theorem Joined.over (joined : Joined state)
    (stuck : ∀ action, action.fuel = 0 → PushRelay.step state action = none) : Over state := by
  have unpacked : state.unpacked ≠ none := by
    intro running
    simpa [PushRelay.step, running] using stuck (.unpackEnds .ok) rfl
  obtain ⟨outcome, found⟩ := Option.ne_none_iff_exists'.mp unpacked
  have main : state.main = .finished := by
    cases main : state.main with
    | selecting => simpa [PushRelay.step, main] using stuck .watchdog rfl
    | expired => simpa [PushRelay.step, main] using stuck .forceEof rfl
    | forced => simpa [PushRelay.step, main, found] using stuck .join rfl
    | joined => simpa [PushRelay.step, main] using stuck .release rfl
    | reporting => simpa [PushRelay.step, main] using stuck (.reported false) rfl
    | finished => rfl
  have handlers : state.handlers = [] := by
    by_contra some_
    simpa [PushRelay.step, List.length_pos_iff.mpr some_] using stuck (.forget 0) rfl
  exact ⟨main, unpacked, handlers, joined.released (by rw [main]; rfl)⟩

end Work

/-- A push relay makes a bounded number of steps for the messages of its client, and it stops only
when nothing of it is left. So it ends once its client is gone, at whatever point of the archive, as
long as its unpack task ends at the end of its input. -/
theorem push_relay_ends {actions : List Action} {state : State}
    (ran : Machine.run step start actions = some state) :
    Machine.Ends step Action.fuel Over state.work state :=
  Machine.ends_of_spends (fun _ _ _ (moved : step _ _ = _) => work_step moved)
    (fun _ _ _ => Joined.step) (fun _ => Joined.over)
    (Machine.run_invariant Joined.step Joined.start ran)

/-- A chunk of the archive is on its way to the unpack task, and the client vanishes. -/
def abandoned : List Action := [.handleData [1], .enqueue 0, .takeChunk, .watchdog, .forceEof]

theorem push_relay_ends_of_abandoned : ∃ state, Machine.run step start abandoned = some state ∧
    ∀ actions final, Machine.run step state actions = some final →
      (actions.map Action.fuel).sum = 0 → actions.length ≤ 5 := by
  obtain ⟨state, ran, work⟩ := Option.map_eq_some_iff.mp
    (show (Machine.run step start abandoned).map State.work = some 5 by decide)
  refine ⟨state, ran, fun actions final later unfed => ?_⟩
  have bounded := (push_relay_ends ran).bounded actions final later
  rwa [work, unfed] at bounded

end Tunnix.PushRelay
