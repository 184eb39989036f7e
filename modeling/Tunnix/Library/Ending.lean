import Tunnix.Library.Machine
import Mathlib.Algebra.BigOperators.Group.List.Basic
import Mathlib.Algebra.GroupWithZero.Nat
import Mathlib.Data.List.Perm.Basic

/-- What is held for each item of a list is held for one item and for the rest of the list. -/
theorem List.sum_map_eraseIdx {Item : Type*} (cost : Item → Nat) {items : List Item} {index : Nat}
    {item : Item} (found : items[index]? = some item) :
    (items.map cost).sum = cost item + ((items.eraseIdx index).map cost).sum := by
  obtain ⟨inside, rfl⟩ := List.getElem?_eq_some_iff.mp found
  rw [← List.sum_cons, ← List.map_cons]
  exact ((List.getElem_cons_eraseIdx_perm inside).map cost).sum_eq.symm

namespace Machine
variable {State Action : Type*} {step : State → Action → Option State} {fuel : Action → Nat}
  {work : State → Nat} {Over Invariant : State → Prop}

/-- A machine can make a bounded number of steps for what it is fed, and it stops only when it is
over. -/
structure Ends (step : State → Action → Option State) (fuel : Action → Nat) (Over : State → Prop)
    (work : Nat) (state : State) : Prop where
  bounded : ∀ actions final, run step state actions = some final →
    actions.length ≤ work + (actions.map fuel).sum
  stops : ∀ actions final, run step state actions = some final →
    (∀ action, fuel action = 0 → step final action = none) → Over final

/-- A machine whose steps all spend some work, except for what they are fed, spends no more than it
has. -/
theorem length_le
    (spends : ∀ state action next, step state action = some next →
      work next + 1 ≤ work state + fuel action)
    {state final : State} {actions : List Action} (ran : run step state actions = some final) :
    work final + actions.length ≤ work state + (actions.map fuel).sum := by
  induction actions generalizing state with
  | nil =>
      obtain rfl := Option.some.inj ran
      simp
  | cons action rest ih =>
      obtain ⟨next, moved, after⟩ := run_cons.mp ran
      have first := spends _ _ _ moved
      have later := ih after
      simp only [List.length_cons, List.map_cons, List.sum_cons]
      omega

/-- A machine ends if every step spends some work and only what is over has no step of its own. -/
theorem ends_of_spends
    (spends : ∀ state action next, step state action = some next →
      work next + 1 ≤ work state + fuel action)
    (keeps : ∀ state action next, Invariant state → step state action = some next →
      Invariant next)
    (stuck : ∀ state, Invariant state → (∀ action, fuel action = 0 → step state action = none) →
      Over state)
    {state : State} (reached : Invariant state) : Ends step fuel Over (work state) state where
  bounded actions final ran := by
    have total := length_le spends ran
    omega
  stops _ final ran := stuck final (run_invariant (keeps _ _ _) reached ran)

end Machine
