import Mathlib.Data.List.Infix

/-- A forwarder takes one item at a time and passes it on before it takes the next one. The lists
hold what it has taken and what it has passed on. -/
@[ext] structure Forwarder (Item : Type*) where
  taken : List Item
  held : Option Item
  passed : List Item
  running : Bool
deriving DecidableEq, Repr

namespace Forwarder
variable {Item : Type*}

/-- A forwarder begins without an item. -/
def fresh : Forwarder Item := ⟨[], none, [], true⟩

/-- A forwarder that stops gives up the item that it holds. -/
def stop (forwarder : Forwarder Item) : Forwarder Item :=
  { forwarder with held := none, running := false }

/-- These are the possible steps of a forwarder. -/
inductive Move (forwarder : Forwarder Item) : Forwarder Item → Prop
  | take (item : Item) : forwarder.running = true → forwarder.held = none →
      Move forwarder
        { forwarder with taken := forwarder.taken ++ [item], held := some item }
  | pass (item : Item) : forwarder.running = true → forwarder.held = some item →
      Move forwarder
        { forwarder with held := none, passed := forwarder.passed ++ [item] }
  | stop : Move forwarder forwarder.stop
  | stay : Move forwarder forwarder

/-- A forwarder has passed its items on in order, all but the held one as long as it runs. -/
structure Faithful (forwarder : Forwarder Item) : Prop where
  whole : forwarder.running = true →
    forwarder.passed ++ forwarder.held.toList = forwarder.taken
  part : forwarder.passed <+: forwarder.taken

theorem Faithful.fresh : Faithful (fresh : Forwarder Item) where
  whole _ := rfl
  part := List.prefix_refl _

section Move
variable {forwarder next : Forwarder Item}

/-- A forwarder that holds one more item and changes nothing else has taken it. -/
theorem Move.of_take (item : Item) (running : forwarder.running = true)
    (empty : forwarder.held = none)
    (same : next = ⟨forwarder.taken ++ [item], some item, forwarder.passed, true⟩) :
    Move forwarder next := by
  have taken := Move.take item running empty
  rw [running] at taken
  rw [same]
  exact taken

/-- A forwarder that no longer holds its item and changes nothing else has passed it on. -/
theorem Move.of_pass (item : Item) (running : forwarder.running = true)
    (holds : forwarder.held = some item)
    (same : next = ⟨forwarder.taken, none, forwarder.passed ++ [item], true⟩) :
    Move forwarder next := by
  have passed := Move.pass item running holds
  rw [running] at passed
  rw [same]
  exact passed

/-- A forwarder that no longer runs and has lost nothing but its held item has stopped. -/
theorem Move.of_stop (stopped : next.running = false) (held : next.held = none)
    (taken : next.taken = forwarder.taken) (passed : next.passed = forwarder.passed) :
    Move forwarder next := by
  have same : next = forwarder.stop := by
    ext1
    · exact taken
    · exact held
    · exact passed
    · exact stopped
  rw [same]
  exact .stop

/-- Every step keeps the items in order. -/
theorem Faithful.move (faithful : Faithful forwarder) (moved : Move forwarder next) :
    Faithful next := by
  cases moved with
  | take item running empty =>
      have whole := faithful.whole running
      rw [empty, Option.toList_none, List.append_nil] at whole
      constructor
      case whole =>
        intro _
        rw [Option.toList_some, whole]
      case part => exact faithful.part.trans (List.prefix_append _ _)
  | pass item running holds =>
      have whole := faithful.whole running
      rw [holds, Option.toList_some] at whole
      constructor
      case whole =>
        intro _
        rw [Option.toList_none, List.append_nil, whole]
      case part =>
        rw [whole]
  | stop => exact ⟨nofun, faithful.part⟩
  | stay => exact faithful

/-- A stopped forwarder remains stopped. -/
theorem Move.stopped (moved : Move forwarder next) (stopped : forwarder.running = false) :
    next.running = false := by
  cases moved with
  | take | pass => exact stopped
  | stop => rfl
  | stay => exact stopped

/-- A stopped forwarder passes nothing on. -/
theorem Move.passed (moved : Move forwarder next) (stopped : forwarder.running = false) :
    next.passed = forwarder.passed := by
  cases moved with
  | pass item running => exact absurd (running.symm.trans stopped) (by decide)
  | take | stop | stay => rfl

end Move

end Forwarder
