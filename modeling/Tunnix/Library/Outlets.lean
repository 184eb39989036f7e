import Tunnix.Library.Channel
import Mathlib.Data.List.Infix
import Mathlib.Logic.Function.Basic

/-- A task has put an item into the channel of one outlet. -/
structure Put (Task Item : Type*) where
  task : Task
  outlet : Nat
  item : Item
deriving DecidableEq, Repr

/-- One outlet has taken these items. -/
def Put.into {Task Item : Type*} (puts : List (Put Task Item)) (outlet : Nat) : List Item :=
  (puts.filter fun put => put.outlet = outlet).map Put.item

/-- Each outlet has a channel of its own, and a newer outlet replaces the current one. The log holds
every put in the order of time, and a channel holds the last items that its outlet has taken. -/
structure Outlets (capacity : Nat) (Task Item : Type*) where
  channels : Nat → Channel capacity Item
  current : Nat
  puts : List (Put Task Item)
  recorded : ∀ outlet, (channels outlet).items <:+ Put.into puts outlet

namespace Outlets
variable {capacity : Nat} {Task Item : Type*}

/-- The outlets begin with empty channels. -/
def fresh (capacity : Nat) (Task Item : Type*) : Outlets capacity Task Item where
  channels _ := .empty _ _
  current := 0
  puts := []
  recorded _ := List.suffix_refl _

/-- An item that its outlet has just taken is the last one. -/
theorem into_append (puts : List (Put Task Item)) (put : Put Task Item) :
    Put.into (puts ++ [put]) put.outlet = Put.into puts put.outlet ++ [put.item] := by
  simp [Put.into, List.filter_append]

/-- The other outlets have taken nothing. -/
theorem into_append_other (puts : List (Put Task Item)) {put : Put Task Item} {outlet : Nat}
    (other : outlet ≠ put.outlet) : Put.into (puts ++ [put]) outlet = Put.into puts outlet := by
  simp [Put.into, List.filter_append, other.symm]

/-- A successful send keeps the log complete. -/
theorem recorded_put (outlets : Outlets capacity Task Item) {put : Put Task Item}
    {channel : Channel capacity Item}
    (sent : (outlets.channels put.outlet).send put.item = some channel) (outlet : Nat) :
    (Function.update outlets.channels put.outlet channel outlet).items <:+
      Put.into (outlets.puts ++ [put]) outlet := by
  by_cases same : outlet = put.outlet
  · subst same
    rw [Function.update_self, (Channel.send_some sent).2.1, into_append]
    obtain ⟨earlier, whole⟩ := outlets.recorded put.outlet
    exact ⟨earlier, by rw [← List.append_assoc, whole]⟩
  · rw [Function.update_of_ne same, into_append_other outlets.puts same]
    exact outlets.recorded outlet

/-- A put needs a held receiver and room in the channel of its outlet. -/
def put (outlets : Outlets capacity Task Item) (put : Put Task Item) :
    Option (Outlets capacity Task Item) :=
  match sent : (outlets.channels put.outlet).send put.item with
  | some channel => some
      { channels := Function.update outlets.channels put.outlet channel
        current := outlets.current
        puts := outlets.puts ++ [put]
        recorded := outlets.recorded_put sent }
  | none => none

/-- A channel may lose its first items. -/
def shorten (outlets : Outlets capacity Task Item) (outlet : Nat) (channel : Channel capacity Item)
    (rest : channel.items <:+ (outlets.channels outlet).items) : Outlets capacity Task Item :=
  { outlets with
    channels := Function.update outlets.channels outlet channel
    recorded := by
      intro other
      by_cases same : other = outlet
      · subst same
        rw [Function.update_self]
        exact rest.trans (outlets.recorded other)
      · rw [Function.update_of_ne same]
        exact outlets.recorded other }

/-- Receivers take items, receivers are dropped, and a new outlet replaces the current one. -/
inductive Action where
  | replace
  | receive (outlet : Nat)
  | drop (outlet : Nat)
deriving DecidableEq, Repr

/-- The outlets move by one action, or refuse a receive that finds nothing. -/
def step (outlets : Outlets capacity Task Item) : Action → Option (Outlets capacity Task Item)
  | .replace => some { outlets.shorten (outlets.current + 1) (.empty _ _) (List.nil_suffix) with
      current := outlets.current + 1 }
  | .receive outlet =>
      if (outlets.channels outlet).items = [] then none
      else some (outlets.shorten outlet (outlets.channels outlet).rest (List.tail_suffix _))
  | .drop outlet =>
      some (outlets.shorten outlet (outlets.channels outlet).drop (List.nil_suffix))

/-- One task has made these puts. -/
def madeBy [DecidableEq Task] (outlets : Outlets capacity Task Item) (task : Task) :
    List (Put Task Item) := outlets.puts.filter fun put => put.task = task

section Puts
variable {outlets next : Outlets capacity Task Item} {item : Put Task Item}

/-- A put is logged after all earlier ones. -/
theorem put_puts (done : outlets.put item = some next) : next.puts = outlets.puts ++ [item] := by
  unfold put at done
  split at done
  · cases done
    rfl
  · contradiction

/-- Only a put is logged. -/
theorem step_puts {action : Action} (moved : outlets.step action = some next) :
    next.puts = outlets.puts := by
  cases action with
  | replace =>
      cases moved
      rfl
  | receive outlet =>
      rw [step, Option.ite_none_left_eq_some, Option.some.injEq] at moved
      obtain ⟨-, rfl⟩ := moved
      rfl
  | drop outlet =>
      cases moved
      rfl

variable [DecidableEq Task]

/-- A put is one more of its task. -/
theorem madeBy_put (done : outlets.put item = some next) :
    next.madeBy item.task = outlets.madeBy item.task ++ [item] := by
  unfold madeBy
  rw [put_puts done]
  simp [List.filter_append]

/-- A put of one task is none of another. -/
theorem madeBy_put_other {task : Task} (other : item.task ≠ task)
    (done : outlets.put item = some next) : next.madeBy task = outlets.madeBy task := by
  unfold madeBy
  rw [put_puts done]
  simp [List.filter_append, other]

/-- A task makes no put while the outlets move. -/
theorem madeBy_step {action : Action} (moved : outlets.step action = some next) (task : Task) :
    next.madeBy task = outlets.madeBy task := by
  rw [madeBy, step_puts moved, madeBy]

end Puts

end Outlets
