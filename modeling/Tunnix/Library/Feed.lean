import Mathlib.Data.List.Infix

/-- A consumer was handed some of the first items of a queue that only grows. The others are lost. -/
structure Thinned {Item : Type*} (taken queued : List Item) (count : Nat) : Prop where
  order : taken.Sublist (queued.take count)
  within : count ≤ queued.length

/-- A consumer was handed the first items of a queue that only grows. None of them is lost. -/
structure Feed {Item : Type*} (taken queued : List Item) (count : Nat) : Prop
    extends Thinned taken queued count where
  all : taken.length = count

variable {Item : Type*}

/-- The queue grows, or its next item is handed over. -/
inductive Feed.Move (taken queued : List Item) (count : Nat) : List Item → List Item → Nat → Prop
  | grow {longer} : queued <+: longer → Move taken queued count taken longer count
  | deliver {item} : queued[count]? = some item →
      Move taken queued count (taken ++ [item]) queued (count + 1)

variable {taken queued taken' queued' : List Item} {count count' : Nat}

namespace Thinned

theorem start : Thinned ([] : List Item) [] 0 := ⟨List.Sublist.refl _, Nat.le_refl 0⟩

/-- Every move keeps the items in order. -/
theorem step (thinned : Thinned taken queued count)
    (move : Feed.Move taken queued count taken' queued' count') : Thinned taken' queued' count' := by
  cases move with
  | grow grows =>
      obtain ⟨more, rfl⟩ := grows
      refine ⟨?_, ?_⟩
      · rw [List.take_append_of_le_length thinned.within]
        exact thinned.order
      · rw [List.length_append]
        exact Nat.le_add_right_of_le thinned.within
  | deliver found =>
      obtain ⟨inside, -⟩ := List.getElem?_eq_some_iff.mp found
      refine ⟨?_, inside⟩
      rw [List.take_add_one, found]
      exact thinned.order.append (List.Sublist.refl _)

/-- All items that are not handed over yet are lost. -/
theorem lose (thinned : Thinned taken queued count) : Thinned taken queued queued.length := by
  refine ⟨?_, Nat.le_refl _⟩
  rw [List.take_length]
  exact thinned.order.trans (List.take_sublist _ _)

/-- The consumer has items of the queue in their order. -/
theorem part (thinned : Thinned taken queued count) : taken.Sublist queued :=
  thinned.order.trans (List.take_sublist _ _)

end Thinned

namespace Feed

theorem start : Feed ([] : List Item) [] 0 := ⟨.start, rfl⟩

/-- Every move keeps the consumer fed. -/
theorem step (feed : Feed taken queued count)
    (move : Feed.Move taken queued count taken' queued' count') : Feed taken' queued' count' := by
  refine ⟨feed.toThinned.step move, ?_⟩
  cases move with
  | grow => exact feed.all
  | deliver => rw [List.length_append, feed.all, List.length_singleton]

/-- The consumer has a part of the queue. -/
theorem part (feed : Feed taken queued count) : taken <+: queued := by
  have same : taken = queued.take count := by
    apply feed.order.eq_of_length
    rw [List.length_take, Nat.min_eq_left feed.within, feed.all]
  rw [same]
  exact List.take_prefix _ _

end Feed
