import Mathlib.Data.List.Basic
import Mathlib.Algebra.Group.Nat.Defs

namespace Utf8

/-- A started character needs one next byte from a range and then some more continuation bytes. -/
structure Pending where
  more : Nat
  low : UInt8
  high : UInt8
  value : Nat
  continues : 0x80 ≤ low
  large : 0x80 ≤ (value * 64 + (low.toNat - 0x80)) * 64 ^ more
deriving DecidableEq

/-- The decoder stands between two characters or inside of one. -/
inductive State where
  | between
  | inside (pending : Pending)
deriving DecidableEq

/-- One byte completes some characters, and it may show that its text is malformed. -/
structure Output where
  chars : List Char
  malformed : Bool
  state : State
deriving DecidableEq

/-- The replacement character stands for a malformed sequence. -/
def replacement : Char := Char.ofNat 0xFFFD

/-- A byte below 128 is a character of its own. -/
def ascii (byte : UInt8) : Char := Char.ofNat byte.toNat

/-- A character begins with this byte. -/
def lead (byte : UInt8) : Output :=
  if byte < 0x80 then ⟨[ascii byte], false, .between⟩
  else if two : 0xC2 ≤ byte ∧ byte ≤ 0xDF then
    ⟨[], false, .inside ⟨0, 0x80, 0xBF, byte.toNat - 0xC0, by decide, by
      have := UInt8.le_iff_toNat_le.mp two.1
      simp at this ⊢
      omega⟩⟩
  else if byte = 0xE0 then ⟨[], false, .inside ⟨1, 0xA0, 0xBF, 0, by decide, by decide⟩⟩
  else if byte = 0xED then ⟨[], false, .inside ⟨1, 0x80, 0x9F, 0xD, by decide, by decide⟩⟩
  else if three : 0xE1 ≤ byte ∧ byte ≤ 0xEF then
    ⟨[], false, .inside ⟨1, 0x80, 0xBF, byte.toNat - 0xE0, by decide, by
      have := UInt8.le_iff_toNat_le.mp three.1
      simp at this ⊢
      omega⟩⟩
  else if byte = 0xF0 then ⟨[], false, .inside ⟨2, 0x90, 0xBF, 0, by decide, by decide⟩⟩
  else if byte = 0xF4 then ⟨[], false, .inside ⟨2, 0x80, 0x8F, 4, by decide, by decide⟩⟩
  else if four : 0xF1 ≤ byte ∧ byte ≤ 0xF3 then
    ⟨[], false, .inside ⟨2, 0x80, 0xBF, byte.toNat - 0xF0, by decide, by
      have := UInt8.le_iff_toNat_le.mp four.1
      simp at this ⊢
      omega⟩⟩
  else ⟨[replacement], true, .between⟩

/-- A byte in the range continues a character. Any other byte cuts it short and begins anew. -/
def step : State → UInt8 → Output
  | .between, byte => lead byte
  | .inside pending, byte =>
      if fits : pending.low ≤ byte ∧ byte ≤ pending.high then
        match last : pending.more with
        | 0 => ⟨[Char.ofNat (pending.value * 64 + (byte.toNat - 0x80))], false, .between⟩
        | more + 1 => ⟨[], false, .inside ⟨more, 0x80, 0xBF,
            pending.value * 64 + (byte.toNat - 0x80), by decide, by
              have large := pending.large
              have least := UInt8.le_iff_toNat_le.mp fits.1
              rw [last] at large
              calc 0x80 ≤ (pending.value * 64 + (pending.low.toNat - 0x80)) * 64 ^ (more + 1) := large
                _ ≤ (pending.value * 64 + (byte.toNat - 0x80)) * 64 ^ (more + 1) :=
                    Nat.mul_le_mul_right _ (by omega)
                _ = ((pending.value * 64 + (byte.toNat - 0x80)) * 64 + 0) * 64 ^ more := by
                    rw [Nat.pow_succ, Nat.add_zero, Nat.mul_assoc, Nat.mul_comm 64]⟩⟩
      else ⟨replacement :: (lead byte).chars, true, (lead byte).state⟩

/-- Decoding replaces each malformed sequence. -/
def lossyFrom : State → List UInt8 → List Char
  | .between, [] => []
  | .inside _, [] => [replacement]
  | state, byte :: rest => (step state byte).chars ++ lossyFrom (step state byte).state rest

/-- Decoding begins between two characters. -/
def lossy (bytes : List UInt8) : List Char := lossyFrom .between bytes

/-- Every byte is well-formed, and the last character is complete. -/
def validFrom : State → List UInt8 → Bool
  | .between, [] => true
  | .inside _, [] => false
  | state, byte :: rest => !(step state byte).malformed && validFrom (step state byte).state rest

/-- A byte sequence is well-formed text. -/
def valid (bytes : List UInt8) : Bool := validFrom .between bytes

/-- Only well-formed text decodes. -/
def decode (bytes : List UInt8) : Option (List Char) :=
  if valid bytes then some (lossy bytes) else none

theorem toNat_ascii (byte : UInt8) : (ascii byte).toNat = byte.toNat := by
  have valid : byte.toNat.isValidChar := .inl (Nat.lt_trans byte.toNat_lt (by decide))
  rw [ascii, Char.ofNat, dif_pos valid]
  rfl

theorem ascii_injective : Function.Injective ascii := by
  intro first second same
  apply UInt8.toNat_inj.mp
  rw [← toNat_ascii, same, toNat_ascii]

theorem lossyFrom_cons (state : State) (byte : UInt8) (rest : List UInt8) :
    lossyFrom state (byte :: rest) =
      (step state byte).chars ++ lossyFrom (step state byte).state rest := by
  cases state <;> rfl

theorem lead_ascii {byte : UInt8} (small : byte < 0x80) :
    lead byte = ⟨[ascii byte], false, .between⟩ := if_pos small

/-- A byte below 128 ends whatever was begun before it. -/
theorem step_ascii {byte : UInt8} (small : byte < 0x80) (state : State) :
    (step state byte).chars = lossyFrom state [] ++ [ascii byte] ∧
      (step state byte).state = .between := by
  cases state with
  | between =>
      rw [step, lead_ascii small]
      exact ⟨rfl, rfl⟩
  | inside pending =>
      have below : ¬ (pending.low ≤ byte ∧ byte ≤ pending.high) := by
        rintro ⟨above, -⟩
        have continues := UInt8.le_iff_toNat_le.mp (UInt8.le_trans pending.continues above)
        have least := UInt8.lt_iff_toNat_lt.mp small
        omega
      rw [step, dif_neg below, lead_ascii small]
      exact ⟨rfl, rfl⟩

/-- Text splits at every byte below 128. -/
theorem lossyFrom_append_ascii {byte : UInt8} (small : byte < 0x80) (state : State)
    (before after : List UInt8) :
    lossyFrom state (before ++ byte :: after) =
      lossyFrom state before ++ ascii byte :: lossy after := by
  induction before generalizing state with
  | nil =>
      obtain ⟨chars, ended⟩ := step_ascii small state
      rw [List.nil_append, lossyFrom_cons, chars, ended, List.append_assoc]
      rfl
  | cons first rest ih =>
      rw [List.cons_append, lossyFrom_cons, lossyFrom_cons, ih, List.append_assoc]

/-- Bytes below 128 decode one by one. -/
theorem lossy_ascii {bytes : List UInt8} (small : ∀ byte ∈ bytes, byte < 0x80) :
    lossy bytes = bytes.map ascii := by
  induction bytes with
  | nil => rfl
  | cons byte rest ih =>
      rw [List.forall_mem_cons] at small
      have split := lossyFrom_append_ascii small.1 .between [] rest
      rw [List.map_cons, ← ih small.2]
      exact split

/-- Text that needed no replacement is complete, so what follows decodes by itself. -/
theorem lossyFrom_append {state : State} {before : List UInt8}
    (whole : replacement ∉ lossyFrom state before) (after : List UInt8) :
    lossyFrom state (before ++ after) = lossyFrom state before ++ lossy after := by
  induction before generalizing state with
  | nil =>
      cases state with
      | between => rfl
      | inside pending => exact absurd (List.mem_singleton_self _) whole
  | cons first rest ih =>
      rw [lossyFrom_cons, List.mem_append, not_or] at whole
      rw [List.cons_append, lossyFrom_cons, lossyFrom_cons, ih whole.2, List.append_assoc]

/-- A large code point is no character below 128 but the null character. -/
theorem ofNat_large {value : Nat} (large : 0x80 ≤ value) :
    (Char.ofNat value).toNat = 0 ∨ 0x80 ≤ (Char.ofNat value).toNat := by
  by_cases valid : value.isValidChar
  · right
    rw [Char.ofNat, dif_pos valid]
    exact large
  · left
    rw [Char.ofNat, dif_neg valid]
    rfl

/-- A character below 128 that begins with a byte is this byte. -/
theorem lead_small {byte : UInt8} {char : Char} (member : char ∈ (lead byte).chars)
    (small : char.toNat < 0x80) : byte < 0x80 ∧ char = ascii byte := by
  unfold lead at member
  repeat' split at member
  · next below => exact ⟨below, List.mem_singleton.mp member⟩
  all_goals simp only [List.not_mem_nil, List.mem_singleton] at member
  subst member
  exact absurd small (by decide)

/-- A character below 128 comes from its own byte, or it is the null character. -/
theorem step_small {state : State} {byte : UInt8} {char : Char}
    (member : char ∈ (step state byte).chars) (small : char.toNat < 0x80) (some_ : char.toNat ≠ 0) :
    byte < 0x80 ∧ char = ascii byte := by
  cases state with
  | between => exact lead_small member small
  | inside pending =>
      rw [step] at member
      split at member
      · next fits =>
          split at member
          · next last =>
              rw [List.mem_singleton] at member
              have large := pending.large
              have least := UInt8.le_iff_toNat_le.mp fits.1
              rw [last, Nat.pow_zero, Nat.mul_one] at large
              have value := ofNat_large (show 0x80 ≤ pending.value * 64 + (byte.toNat - 0x80) by omega)
              rw [← member] at value
              omega
          · contradiction
      · rw [List.mem_cons] at member
        rcases member with rfl | member
        · exact absurd small (by decide)
        · exact lead_small member small

/-- A character below 128 in decoded text was a byte of its own. -/
theorem mem_lossyFrom {state : State} {bytes : List UInt8} {char : Char}
    (member : char ∈ lossyFrom state bytes) (small : char.toNat < 0x80) (some_ : char.toNat ≠ 0) :
    ∃ byte ∈ bytes, char = ascii byte := by
  induction bytes generalizing state with
  | nil =>
      cases state with
      | between => contradiction
      | inside pending =>
          rw [lossyFrom, List.mem_singleton] at member
          subst member
          exact absurd small (by decide)
  | cons first rest ih =>
      rw [lossyFrom_cons, List.mem_append] at member
      rcases member with now | later
      · exact ⟨first, List.mem_cons_self, (step_small now small some_).2⟩
      · obtain ⟨byte, inside, same⟩ := ih later
        exact ⟨byte, List.mem_cons_of_mem _ inside, same⟩

end Utf8
