import Mathlib.Data.List.Basic

/-- A source has sent bytes that its reader takes in order, until it closes its stream. -/
structure Source where
  taken : List UInt8
  left : List UInt8
  closed : Bool
deriving DecidableEq, Repr

namespace Source

/-- A new source has sent nothing. -/
def fresh : Source := ⟨[], [], false⟩

/-- The bytes sent so far are those taken and those still left. -/
def sent (source : Source) : List UInt8 := source.taken ++ source.left

@[simps] def write (source : Source) (bytes : List UInt8) : Source :=
  { source with left := source.left ++ bytes }

@[simps] def close (source : Source) : Source := { source with closed := true }

/-- The reader takes the given bytes off the front. -/
@[simps] def take (source : Source) (bytes : List UInt8) : Source :=
  { source with
    taken := source.taken ++ bytes
    left := source.left.drop bytes.length }

@[simp] theorem write_sent (source : Source) (bytes : List UInt8) :
    (source.write bytes).sent = source.sent ++ bytes := by
  rw [sent, sent, write_taken, write_left, List.append_assoc]

@[simp] theorem close_sent (source : Source) : source.close.sent = source.sent := rfl

end Source
