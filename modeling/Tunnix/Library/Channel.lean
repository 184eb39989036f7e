import Mathlib.Data.List.Basic

/-- A bounded first-in first-out queue never holds more than its capacity, and it holds
nothing once its receiver is dropped. -/
structure Channel (capacity : Nat) (Item : Type*) where
  items : List Item
  receiving : Bool
  within : items.length ≤ capacity
  held : receiving = true ∨ items = []
deriving DecidableEq

namespace Channel
variable {capacity : Nat} {Item : Type*}

/-- A new channel is empty and its receiver is held. -/
def empty (capacity : Nat) (Item : Type*) : Channel capacity Item :=
  ⟨[], true, Nat.zero_le _, .inl rfl⟩

/-- A send needs a held receiver and one free slot. -/
def send (channel : Channel capacity Item) (item : Item) : Option (Channel capacity Item) :=
  if room : channel.receiving = true ∧ channel.items.length < capacity then
    some ⟨channel.items ++ [item], true, by rw [List.length_append]; exact room.2, .inl rfl⟩
  else none

/-- This channel has lost its oldest item. -/
def rest (channel : Channel capacity Item) : Channel capacity Item where
  items := channel.items.tail
  receiving := channel.receiving
  within := Nat.le_trans (by simp) channel.within
  held := channel.held.imp_right fun empty => by rw [empty, List.tail_nil]

/-- A receive takes the oldest item. -/
def receive (channel : Channel capacity Item) : Option (Item × Channel capacity Item) :=
  channel.items.head?.map fun item => (item, channel.rest)

/-- A dropped receiver discards everything that is still queued. -/
def drop (_channel : Channel capacity Item) : Channel capacity Item :=
  ⟨[], false, Nat.zero_le _, .inr rfl⟩

@[simp] theorem empty_items : (empty capacity Item).items = [] := rfl

@[simp] theorem empty_receiving : (empty capacity Item).receiving = true := rfl

@[simp] theorem drop_items (channel : Channel capacity Item) : channel.drop.items = [] := rfl

@[simp] theorem drop_receiving (channel : Channel capacity Item) :
    channel.drop.receiving = false := rfl

/-- A send appends its item and keeps the receiver. -/
theorem send_some {channel next : Channel capacity Item} {item : Item}
    (sent : channel.send item = some next) :
    channel.receiving = true ∧ next.items = channel.items ++ [item] ∧ next.receiving = true := by
  rw [send] at sent
  split at sent
  · next room =>
      rw [Option.some.injEq] at sent
      subst sent
      exact ⟨room.1, rfl, rfl⟩
  · cases sent

/-- A receive removes the head, and only a held receiver finds one. -/
theorem receive_some {channel next : Channel capacity Item} {item : Item}
    (received : channel.receive = some (item, next)) :
    channel.items = item :: next.items ∧ channel.receiving = true ∧ next.receiving = true := by
  rw [receive, Option.map_eq_some_iff] at received
  obtain ⟨first, present, same⟩ := received
  rw [Prod.mk.injEq] at same
  obtain ⟨rfl, rfl⟩ := same
  obtain ⟨tail, split⟩ := List.head?_eq_some_iff.mp present
  have receiving := channel.held.resolve_right (by rw [split]; exact List.cons_ne_nil _ _)
  exact ⟨by rw [split]; simp [rest, split], receiving, receiving⟩

/-- Nothing is received exactly when nothing is queued. -/
theorem receive_none {channel : Channel capacity Item} :
    channel.receive = none ↔ channel.items = [] := by
  simp [receive]

end Channel

/-- A one-shot channel carries at most one value, and its sender may be dropped unused. -/
inductive OneShot (Value : Type*) where
  | waiting
  | sent (value : Value)
  | dropped
  | taken
deriving DecidableEq, Repr

/-- The handle of a task yields the task's output once. -/
inductive JoinHandle where
  | owed
  | taken
deriving DecidableEq, Repr

namespace JoinHandle

/-- An await takes the output, and there is none to take a second time. -/
def await : JoinHandle → Option JoinHandle
  | .owed => some .taken
  | .taken => none

@[simp] theorem await_owed : await .owed = some .taken := rfl

@[simp] theorem await_taken : await .taken = none := rfl

end JoinHandle
