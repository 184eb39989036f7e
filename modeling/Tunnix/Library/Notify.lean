import Mathlib.Logic.Basic

/-- A task that waits is notified directly, before anything is stored. -/
inductive Notify.Waiter where
  | absent
  | waiting
  | notified
deriving DecidableEq, Repr

/-- A `Notify` stores at most one permit, and one task at most waits for it. -/
structure Notify where
  permit : Bool
  waiter : Notify.Waiter
deriving DecidableEq, Repr

namespace Notify

/-- A new `Notify` has no permit and no waiter. -/
def fresh : Notify := ⟨false, .absent⟩

/-- A notification goes to the waiter, and it is stored if there is none left to notify. -/
def notifyOne (notify : Notify) : Notify :=
  match notify.waiter with
  | .waiting => { notify with waiter := .notified }
  | .absent | .notified => { notify with permit := true }

/-- The first poll takes the stored permit. Without one, it begins to wait. -/
def poll (notify : Notify) : Bool × Notify :=
  if notify.permit then (true, { notify with permit := false })
  else (false, { notify with waiter := .waiting })

/-- A waiter that is dropped passes its notification on. -/
def forget (notify : Notify) : Notify where
  permit := notify.permit || decide (notify.waiter = .notified)
  waiter := .absent

/-- A task polls once and waits no longer. -/
def drain (notify : Notify) : Notify := notify.poll.2.forget

/-- Some notification was not consumed yet. -/
def pending (notify : Notify) : Bool := notify.permit || decide (notify.waiter = .notified)

@[simp] theorem notifyOne_pending (notify : Notify) : notify.notifyOne.pending = true := by
  unfold notifyOne
  split
  · exact Bool.or_true _
  · rfl
  · rfl

/-- A notification brings no waiter. -/
theorem notifyOne_waiter {notify : Notify} (absent : notify.waiter = .absent) :
    notify.notifyOne.waiter = .absent := by
  rw [notifyOne, absent]

@[simp] theorem forget_waiter (notify : Notify) : notify.forget.waiter = .absent := rfl

@[simp] theorem drain_waiter (notify : Notify) : notify.drain.waiter = .absent := rfl

@[simp] theorem forget_pending (notify : Notify) : notify.forget.pending = notify.pending := by
  simp [forget, pending]

/-- A poll that begins to wait has consumed nothing. -/
theorem poll_waits {notify : Notify} (absent : notify.waiter = .absent)
    (waits : notify.poll.1 = false) : notify.poll.2.pending = notify.pending := by
  unfold poll at waits ⊢
  split
  · next stored =>
      rw [if_pos stored] at waits
      cases waits
  · simp [pending, absent]

/-- A poll that finds the permit begins no wait. -/
theorem poll_takes {notify : Notify} (absent : notify.waiter = .absent)
    (takes : notify.poll.1 = true) : notify.poll.2.waiter = .absent := by
  unfold poll at takes ⊢
  split
  · exact absent
  · next empty =>
      rw [if_neg empty] at takes
      cases takes

/-- Nothing is pending after a drain. -/
theorem drain_pending {notify : Notify} (absent : notify.waiter = .absent) :
    notify.drain.pending = false := by
  rw [drain, forget_pending, poll]
  split
  · simp [pending, absent]
  · next empty => simpa [pending] using empty

end Notify
