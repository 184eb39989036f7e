import Tunnix.Server.PushRelay
import Tunnix.Library.Source

namespace Tunnix.Archive
open PushRelay (channelCap)

/-- This is the kind of the one error that the archive channel reports. -/
inductive ErrorKind where
  | brokenPipe
deriving DecidableEq, Repr

structure IoError where
  kind : ErrorKind
  message : String
deriving DecidableEq, Repr

/-- `write` sends its whole buffer as one chunk. It blocks on a full channel, and it fails once the
receiver is dropped. -/
def ChannelWriter.write (tx : Channel channelCap Bytes) (buf : Bytes) :
    Option (Except IoError Nat × Channel channelCap Bytes) :=
  -- The reader must not see an empty chunk.
  if buf = [] then some (.ok 0, tx)
  else if tx.receiving then (tx.send buf).map fun sent => (.ok buf.length, sent)
  else some (.error ⟨.brokenPipe, "transfer channel closed"⟩, tx)

/-- The writer has written the bytes that `write` counts. -/
def counted (buf : Bytes) : Except IoError Nat → Bytes
  | .ok count => buf.take count
  | .error _ => []

/-- The writer has put these chunks into the channel. -/
def emits (buf : Bytes) : Except IoError Nat → List Bytes
  | .ok count => if count = 0 then [] else [buf]
  | .error _ => []

/-- The reader keeps the last chunk and its position in it. -/
structure ChannelReader where
  leftover : Bytes
  pos : Nat
deriving DecidableEq, Repr

/-- An index range panics unless it is ordered and within its slice. -/
def slice (bytes : Bytes) (first last : Nat) : Option Bytes :=
  if first ≤ last ∧ last ≤ bytes.length then some ((bytes.take last).drop first) else none

/-- One pass of the loop copies bytes out of the leftover chunk, or an index is out of range, or
nothing is left over. -/
inductive Pass where
  | copied (bytes : Bytes) (reader : ChannelReader)
  | outOfRange
  | exhausted
deriving DecidableEq, Repr

namespace ChannelReader

def new : ChannelReader := ⟨[], 0⟩

/-- A received chunk replaces the one that is used up. -/
def load (chunk : Bytes) : ChannelReader := ⟨chunk, 0⟩

/-- The loop of `read` makes this pass before each receive. The buffer has the given length. -/
def pass (reader : ChannelReader) (room : Nat) : Pass :=
  if reader.pos < reader.leftover.length then
    let n := min room (reader.leftover.length - reader.pos)
    if n ≤ room then
      match slice reader.leftover reader.pos (reader.pos + n) with
      | some bytes => .copied bytes { reader with pos := reader.pos + n }
      | none => .outOfRange
    else .outOfRange
  else .exhausted

/-- These bytes of the last chunk are still to be returned. -/
def unread (reader : ChannelReader) : Bytes := reader.leftover.drop reader.pos

@[simp] theorem new_unread : new.unread = [] := rfl

@[simp] theorem load_unread (chunk : Bytes) : (load chunk).unread = chunk := rfl

variable {reader : ChannelReader} {room : Nat}

theorem unread_eq_nil : reader.unread = [] ↔ ¬ reader.pos < reader.leftover.length := by
  rw [unread, List.drop_eq_nil_iff, Nat.not_lt]

/-- A pass over a chunk that is used up leads to a receive. -/
theorem pass_exhausted (used : reader.unread = []) : reader.pass room = .exhausted := by
  rw [pass, if_neg (unread_eq_nil.mp used)]

/-- Any other pass stays in range and copies what fits into the buffer. -/
theorem pass_copied (room : Nat) (left : reader.unread ≠ []) : ∃ next : ChannelReader,
    reader.pass room = .copied (reader.unread.take room) next ∧
      next.unread = reader.unread.drop room ∧ next.pos ≤ next.leftover.length := by
  have before : reader.pos < reader.leftover.length := by
    rw [Ne, unread_eq_nil, not_not] at left
    exact left
  have fits : reader.pos + min room (reader.leftover.length - reader.pos) ≤
      reader.leftover.length := by omega
  refine ⟨{ reader with pos := reader.pos + min room (reader.leftover.length - reader.pos) },
    ?_, ?_, fits⟩
  · have part : slice reader.leftover reader.pos
        (reader.pos + min room (reader.leftover.length - reader.pos)) =
          some (reader.unread.take room) := by
      rw [slice, if_pos ⟨Nat.le_add_right _ _, fits⟩, unread, List.drop_take,
        Nat.add_sub_cancel_left, ← List.take_take, ← List.length_drop, List.take_length]
    simp only [pass, if_pos before, if_pos (Nat.min_le_left _ _), part]
  · simp only [unread, List.drop_drop]
    rcases Nat.le_total room (reader.leftover.length - reader.pos) with short | long
    · rw [Nat.min_eq_left short]
    · rw [Nat.min_eq_right long, List.drop_eq_nil_of_le (by omega),
        List.drop_eq_nil_of_le (by omega)]

end ChannelReader

namespace ChannelWriter
variable {tx sent : Channel channelCap Bytes} {buf : Bytes} {result : Except IoError Nat}

/-- A `write` appends what it counts to the channel, and it never sends an empty chunk. -/
theorem write_some (wrote : write tx buf = some (result, sent)) :
    sent.items.flatten = tx.items.flatten ++ counted buf result ∧
      sent.receiving = tx.receiving ∧ (tx.receiving = false → counted buf result = []) ∧
      ((∀ chunk ∈ tx.items, chunk ≠ []) → ∀ chunk ∈ sent.items, chunk ≠ []) := by
  rw [write] at wrote
  split at wrote
  · obtain ⟨rfl, rfl⟩ := Prod.mk.inj (Option.some.inj wrote)
    simp [counted]
  · next filled =>
      split at wrote
      · next receiving =>
          obtain ⟨next, queued, same⟩ := Option.map_eq_some_iff.mp wrote
          obtain ⟨rfl, rfl⟩ := Prod.mk.inj same
          obtain ⟨_, items, held⟩ := Channel.send_some queued
          refine ⟨?_, held.trans receiving.symm, ?_, ?_⟩
          · rw [items, List.flatten_append, counted, List.take_length, List.flatten_singleton]
          · intro dropped
            rw [receiving] at dropped
            cases dropped
          · intro solid chunk member
            rw [items, List.mem_append, List.mem_singleton] at member
            rcases member with earlier | rfl
            · exact solid chunk earlier
            · exact filled
      · obtain ⟨rfl, rfl⟩ := Prod.mk.inj (Option.some.inj wrote)
        simp [counted]

/-- A `write` appends what it emits to the channel. -/
theorem write_emits (wrote : write tx buf = some (result, sent)) :
    sent.items = tx.items ++ emits buf result := by
  rw [write] at wrote
  split at wrote
  · obtain ⟨rfl, rfl⟩ := Prod.mk.inj (Option.some.inj wrote)
    exact (List.append_nil _).symm
  · next filled =>
      split at wrote
      · obtain ⟨next, queued, same⟩ := Option.map_eq_some_iff.mp wrote
        obtain ⟨rfl, rfl⟩ := Prod.mk.inj same
        rw [(Channel.send_some queued).2.1, emits, if_neg (mt List.length_eq_zero_iff.mp filled)]
      · obtain ⟨rfl, rfl⟩ := Prod.mk.inj (Option.some.inj wrote)
        exact (List.append_nil _).symm

end ChannelWriter

end Tunnix.Archive
