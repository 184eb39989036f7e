import Tunnix.Library.Machine
import Tunnix.Library.Outlets

namespace Tunnix.SendToClient

/-- A call of `send_to_client_with_attempts` is about to fetch a sender, it awaits its send, it
sleeps before its next attempt, or it has returned. -/
inductive Phase where
  | fetching
  | sending (sender : Nat)
  | sleeping
  | returned (ok : Bool)
deriving DecidableEq, Repr

/-- A call belongs to one task, holds the message that it sends, and counts its attempts. -/
structure Call (Task Item : Type*) where
  task : Task
  item : Item
  attempts : Nat
  attempt : Nat
  phase : Phase
deriving DecidableEq, Repr

/-- The loop does not begin if the message cannot be serialized or encrypted, or if it has no
attempt to make. -/
def Call.start {Task Item : Type*} (task : Task) (item : Item) (attempts : Nat) (prepared : Bool) :
    Call Task Item where
  task := task
  item := item
  attempts := attempts
  attempt := 0
  phase := if prepared = true ∧ 0 < attempts then .fetching else .returned false

/-- An attempt clones the session's current sender, and its send succeeds or fails. -/
inductive Move where
  | fetch
  | send
  | fails (timedOut : Bool)
  | wake
deriving DecidableEq, Repr

section Call
variable {capacity : Nat} {Task Item : Type*}

/-- The put that a call would make with its sender. -/
def Call.put (call : Call Task Item) (sender : Nat) : Put Task Item :=
  ⟨call.task, sender, call.item⟩

/-- The call moves on, or refuses a move that its phase does not allow. A reconnect between the
fetch and the send leaves it with the sender of the replaced stream. -/
def Call.step (outlets : Outlets capacity Task Item) (call : Call Task Item) :
    Move → Option (Outlets capacity Task Item × Call Task Item)
  | .fetch =>
      if call.phase = .fetching then some (outlets, { call with phase := .sending outlets.current })
      else none
  | .send =>
      match call.phase with
      | .sending sender =>
          (outlets.put (call.put sender)).map fun outlets =>
            (outlets, { call with phase := .returned true })
      | _ => none
  -- The send fails at once on a closed channel, and it is cancelled when its time is over.
  | .fails timedOut =>
      match call.phase with
      | .sending sender =>
          if timedOut = true ∨ (outlets.channels sender).receiving = false then
            some (outlets, { call with
              phase := if call.attempt + 1 < call.attempts then .sleeping else .returned false })
          else none
      | _ => none
  | .wake =>
      if call.phase = .sleeping then
        some (outlets, { call with attempt := call.attempt + 1, phase := .fetching })
      else none

variable {outlets others : Outlets capacity Task Item} {call next : Call Task Item} {move : Move}

/-- A move either puts the message and returns, or it puts nothing and does not return `true`. -/
theorem Call.step_cases (moved : call.step outlets move = some (others, next)) :
    next.task = call.task ∧ next.item = call.item ∧ (∀ ok, call.phase ≠ .returned ok) ∧
      ((∃ sender, outlets.put (call.put sender) = some others ∧ next.phase = .returned true) ∨
        others = outlets ∧ next.phase ≠ .returned true) := by
  cases move with
  | fetch =>
      rw [step, Option.ite_none_right_eq_some, Option.some.injEq, Prod.mk.injEq] at moved
      obtain ⟨fetching, rfl, rfl⟩ := moved
      refine ⟨rfl, rfl, ?_, .inr ⟨rfl, nofun⟩⟩
      rw [fetching]
      nofun
  | send =>
      simp only [step] at moved
      split at moved
      · next sender sending =>
          obtain ⟨after, done, same⟩ := Option.map_eq_some_iff.mp moved
          rw [Prod.mk.injEq] at same
          obtain ⟨rfl, rfl⟩ := same
          refine ⟨rfl, rfl, ?_, .inl ⟨sender, done, rfl⟩⟩
          rw [sending]
          nofun
      · contradiction
  | fails timedOut =>
      simp only [step] at moved
      split at moved
      · next sender sending =>
          rw [Option.ite_none_right_eq_some, Option.some.injEq, Prod.mk.injEq] at moved
          obtain ⟨-, rfl, rfl⟩ := moved
          refine ⟨rfl, rfl, ?_, .inr ⟨rfl, ?_⟩⟩
          · rw [sending]
            nofun
          · dsimp only
            split <;> nofun
      · contradiction
  | wake =>
      rw [step, Option.ite_none_right_eq_some, Option.some.injEq, Prod.mk.injEq] at moved
      obtain ⟨sleeping, rfl, rfl⟩ := moved
      refine ⟨rfl, rfl, ?_, .inr ⟨rfl, nofun⟩⟩
      rw [sleeping]
      nofun

end Call

section Session
variable {capacity : Nat} {Task Item : Type*}

/-- The state joins the session's streams and one call. -/
structure State (capacity : Nat) (Task Item : Type*) where
  outlets : Outlets capacity Task Item
  call : Call Task Item

/-- The call moves, the streams move, or another task puts a message. -/
inductive Action (Task Item : Type*) where
  | call (move : Move)
  | outlets (action : Outlets.Action)
  | traffic (put : Put Task Item)
deriving DecidableEq, Repr

/-- The session begins with a call. -/
def start (capacity : Nat) {Task Item : Type*} (call : Call Task Item) : State capacity Task Item :=
  ⟨.fresh _ _ _, call⟩

variable [DecidableEq Task]

/-- The session moves by one action, or refuses one that its state does not allow. -/
def step (state : State capacity Task Item) : Action Task Item → Option (State capacity Task Item)
  | .call move =>
      (state.call.step state.outlets move).map fun moved => ⟨moved.1, moved.2⟩
  | .outlets action => (state.outlets.step action).map fun outlets => { state with outlets }
  | .traffic put =>
      if put.task = state.call.task then none
      else (state.outlets.put put).map fun outlets => { state with outlets }

/-- A call that has returned `true` has put its message into one stream, once, and a call that has
returned `false` into none. -/
def Exact (state : State capacity Task Item) : Prop :=
  ∀ ok, state.call.phase = .returned ok →
    (ok = true ↔ ∃ sender, state.outlets.madeBy state.call.task = [state.call.put sender]) ∧
      (ok = false ↔ state.outlets.madeBy state.call.task = [])

/-- The call has put its message once if it has returned `true`, and not yet otherwise. -/
structure Inv (state : State capacity Task Item) : Prop where
  put : state.call.phase = .returned true →
    ∃ sender, state.outlets.madeBy state.call.task = [state.call.put sender]
  unput : state.call.phase ≠ .returned true → state.outlets.madeBy state.call.task = []

/-- A call that begins has put nothing. -/
theorem Inv.start (task : Task) (item : Item) (attempts : Nat) (prepared : Bool) :
    Inv (start capacity (.start task item attempts prepared)) where
  put returned := by
    change (if prepared = true ∧ 0 < attempts then Phase.fetching else .returned false) = _
      at returned
    split at returned <;> contradiction
  unput _ := rfl

variable {state next : State capacity Task Item}

/-- The streams move without a put of the call. -/
theorem Inv.of_outlets (inv : Inv state) {outlets : Outlets capacity Task Item}
    (kept : outlets.madeBy state.call.task = state.outlets.madeBy state.call.task) :
    Inv { state with outlets } where
  put returned := by
    obtain ⟨sender, once⟩ := inv.put returned
    exact ⟨sender, kept.trans once⟩
  unput returned := kept.trans (inv.unput returned)

/-- The call puts its message at most once, as it returns. -/
theorem Inv.call (inv : Inv state) {move : Move} {others : Outlets capacity Task Item}
    {call : Call Task Item} (moved : state.call.step state.outlets move = some (others, call)) :
    Inv ⟨others, call⟩ := by
  obtain ⟨task, item, running, done⟩ := Call.step_cases moved
  have none_ := inv.unput (running true)
  rcases done with ⟨sender, done, returned⟩ | ⟨rfl, waits⟩
  · constructor
    case put =>
      intro _
      refine ⟨sender, ?_⟩
      have one := Outlets.madeBy_put done
      change others.madeBy state.call.task = state.outlets.madeBy state.call.task ++ _ at one
      rw [none_, List.nil_append] at one
      change others.madeBy call.task = [⟨call.task, sender, call.item⟩]
      rw [task, item]
      exact one
    case unput => exact fun other => absurd returned other
  · constructor
    case put => exact fun other => absurd other waits
    case unput =>
      intro _
      change state.outlets.madeBy call.task = []
      rw [task]
      exact none_

/-- Every step of the session keeps the invariant. -/
theorem Inv.step {action : Action Task Item} (inv : Inv state)
    (moved : step state action = some next) : Inv next := by
  cases action with
  | call move =>
      obtain ⟨⟨others, call⟩, stepped, rfl⟩ := Option.map_eq_some_iff.mp moved
      exact inv.call stepped
  | outlets action =>
      obtain ⟨outlets, stepped, rfl⟩ := Option.map_eq_some_iff.mp moved
      exact inv.of_outlets (Outlets.madeBy_step stepped _)
  | traffic put =>
      rw [SendToClient.step, Option.ite_none_left_eq_some] at moved
      obtain ⟨foreign, moved⟩ := moved
      obtain ⟨outlets, done, rfl⟩ := Option.map_eq_some_iff.mp moved
      exact inv.of_outlets (Outlets.madeBy_put_other foreign done)

/-- The result of a call tells exactly whether its message is queued. -/
theorem Inv.exact (inv : Inv state) : Exact state := by
  intro ok returned
  cases ok with
  | true =>
      obtain ⟨sender, once⟩ := inv.put returned
      rw [once]
      exact ⟨iff_of_true rfl ⟨sender, rfl⟩, iff_of_false nofun (List.cons_ne_nil _ _)⟩
  | false =>
      have none_ := inv.unput (by rw [returned]; nofun)
      rw [none_]
      refine ⟨iff_of_false nofun ?_, iff_of_true rfl rfl⟩
      rintro ⟨sender, once⟩
      exact List.cons_ne_nil _ _ once.symm

/-- In every run each call returns `true` exactly if its message is in one stream, once, and `false`
exactly if it is in none. -/
theorem exact_run {task : Task} {item : Item} {attempts : Nat} {prepared : Bool}
    {actions : List (Action Task Item)} {final : State capacity Task Item}
    (ran : Machine.run step (start capacity (.start task item attempts prepared)) actions =
      some final) : Exact final :=
  (Machine.run_invariant Inv.step (Inv.start task item attempts prepared) ran).exact

end Session

end Tunnix.SendToClient
