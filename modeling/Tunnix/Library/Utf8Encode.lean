import Tunnix.Library.Utf8
import Mathlib.Tactic.SplitIfs

namespace Utf8

/-- Each character has one to four bytes. -/
def encode (chars : List Char) : List UInt8 := chars.flatMap String.utf8EncodeChar

theorem encode_cons (char : Char) (rest : List Char) :
    encode (char :: rest) = String.utf8EncodeChar char ++ encode rest := List.flatMap_cons

/-- A decoder in this state completes the character and then stands between two characters. -/
structure Completes (state : State) (bytes : List UInt8) (char : Char) : Prop where
  lossy : ∀ rest, lossyFrom state (bytes ++ rest) = char :: lossyFrom .between rest
  valid : ∀ rest, validFrom state (bytes ++ rest) = validFrom .between rest

theorem validFrom_cons (state : State) (byte : UInt8) (rest : List UInt8) :
    validFrom state (byte :: rest) =
      (!(step state byte).malformed && validFrom (step state byte).state rest) := by
  cases state <;> rfl

theorem Completes.single {state : State} {byte : UInt8} {char : Char}
    (stepped : step state byte = ⟨[char], false, .between⟩) : Completes state [byte] char where
  lossy rest := by
    rw [List.singleton_append, lossyFrom_cons, stepped]
    rfl
  valid rest := by
    rw [List.singleton_append, validFrom_cons, stepped]
    rfl

theorem Completes.cons {state next : State} {byte : UInt8} {bytes : List UInt8} {char : Char}
    (stepped : step state byte = ⟨[], false, next⟩) (later : Completes next bytes char) :
    Completes state (byte :: bytes) char where
  lossy rest := by
    rw [List.cons_append, lossyFrom_cons, stepped, ← later.lossy rest]
    rfl
  valid rest := by
    rw [List.cons_append, validFrom_cons, stepped, ← later.valid rest]
    rfl

/-- The last byte of a character completes it. -/
theorem step_last {pending : Pending} {byte : UInt8} (last : pending.more = 0)
    (fits : pending.low ≤ byte ∧ byte ≤ pending.high) :
    step (.inside pending) byte =
      ⟨[Char.ofNat (pending.value * 64 + (byte.toNat - 0x80))], false, .between⟩ := by
  rw [step, dif_pos fits]
  split
  · rfl
  · next more some_ =>
      rw [last] at some_
      contradiction

/-- An earlier byte of a character extends it. -/
theorem step_more {pending : Pending} {byte : UInt8} {more : Nat} (some_ : pending.more = more + 1)
    (fits : pending.low ≤ byte ∧ byte ≤ pending.high) :
    ∃ next : Pending, step (.inside pending) byte = ⟨[], false, .inside next⟩ ∧
      next.more = more ∧ next.low = 0x80 ∧ next.high = 0xBF ∧
      next.value = pending.value * 64 + (byte.toNat - 0x80) := by
  rw [step, dif_pos fits]
  split
  · next last =>
      rw [last] at some_
      contradiction
  · next more' some' =>
      obtain rfl := Nat.succ.inj (some'.symm.trans some_)
      exact ⟨_, rfl, rfl, rfl, rfl, rfl⟩

/-- These bytes continue a character that has this value so far. -/
def Continues : Nat → UInt8 → UInt8 → List UInt8 → Prop
  | _, _, _, [] => False
  | 0, low, high, byte :: rest => low ≤ byte ∧ byte ≤ high ∧ rest = []
  | more + 1, low, high, byte :: rest =>
      low ≤ byte ∧ byte ≤ high ∧ Continues more 0x80 0xBF rest

/-- One byte is the last one of a character. -/
theorem continues_zero {low high : UInt8} {bytes : List UInt8}
    (continues : Continues 0 low high bytes) :
    ∃ byte, bytes = [byte] ∧ low ≤ byte ∧ byte ≤ high := by
  cases bytes with
  | nil => exact continues.elim
  | cons byte rest =>
      obtain ⟨least, most, rfl⟩ := continues
      exact ⟨byte, rfl, least, most⟩

theorem continues_succ {more : Nat} {low high : UInt8} {bytes : List UInt8}
    (continues : Continues (more + 1) low high bytes) :
    ∃ byte rest, bytes = byte :: rest ∧ low ≤ byte ∧ byte ≤ high ∧
      Continues more 0x80 0xBF rest := by
  cases bytes with
  | nil => exact continues.elim
  | cons byte rest => exact ⟨byte, rest, rfl, continues⟩

def extend (value : Nat) (bytes : List UInt8) : Nat :=
  bytes.foldl (fun value byte => value * 64 + (byte.toNat - 0x80)) value

theorem extend_cons (value : Nat) (byte : UInt8) (rest : List UInt8) :
    extend value (byte :: rest) = extend (value * 64 + (byte.toNat - 0x80)) rest := by
  unfold extend
  rw [List.foldl_cons]

theorem completes_inside {bytes : List UInt8} {pending : Pending}
    (continues : Continues pending.more pending.low pending.high bytes) :
    Completes (.inside pending) bytes (Char.ofNat (extend pending.value bytes)) := by
  induction bytes generalizing pending with
  | nil =>
      cases more : pending.more with
      | zero | succ =>
          rw [more] at continues
          exact continues.elim
  | cons byte rest ih =>
      cases more : pending.more with
      | zero =>
          rw [more] at continues
          obtain ⟨least, most, rfl⟩ := continues
          exact .single (step_last more ⟨least, most⟩)
      | succ count =>
          rw [more] at continues
          obtain ⟨least, most, later⟩ := continues
          obtain ⟨next, stepped, more', low, high, value⟩ := step_more more ⟨least, most⟩
          rw [← more', ← low, ← high] at later
          have completed := ih later
          rw [value, ← extend_cons] at completed
          exact .cons stepped completed

/-- Well-formed text goes on with the bytes that complete its character. -/
theorem continues_of_valid {bytes : List UInt8} {pending : Pending}
    (valid : validFrom (.inside pending) bytes = true) :
    ∃ front rest, bytes = front ++ rest ∧
      Continues pending.more pending.low pending.high front := by
  induction bytes generalizing pending with
  | nil => contradiction
  | cons byte rest ih =>
      rw [validFrom_cons] at valid
      by_cases fits : pending.low ≤ byte ∧ byte ≤ pending.high
      · cases more : pending.more with
        | zero => exact ⟨[byte], rest, rfl, fits.1, fits.2, rfl⟩
        | succ count =>
            obtain ⟨next, stepped, more', low, high, -⟩ := step_more more fits
            rw [stepped] at valid
            obtain ⟨front, rest', rfl, later⟩ := ih valid
            rw [more', low, high] at later
            exact ⟨byte :: front, rest', rfl, fits.1, fits.2, later⟩
      · rw [step, dif_neg fits] at valid
        contradiction

/-- A longer character begins with this byte. -/
def Begins (byte : UInt8) (more : Nat) (low high : UInt8) (value : Nat) : Prop :=
  ∃ pending : Pending, lead byte = ⟨[], false, .inside pending⟩ ∧ pending.more = more ∧
    pending.low = low ∧ pending.high = high ∧ pending.value = value

section Lead
variable {byte low high mark : UInt8}

theorem not_ascii (least : 0x80 ≤ byte.toNat) : ¬ byte < 0x80 := by
  rw [UInt8.lt_iff_toNat_lt]
  exact Nat.not_lt.mpr least

/-- A byte above a range lies outside of it. -/
theorem not_within (above : high.toNat < byte.toNat) : ¬ (low ≤ byte ∧ byte ≤ high) := by
  rw [UInt8.le_iff_toNat_le, UInt8.le_iff_toNat_le]
  exact fun range => absurd range.2 (Nat.not_le.mpr above)

theorem within (least : low.toNat ≤ byte.toNat) (most : byte.toNat ≤ high.toNat) :
    low ≤ byte ∧ byte ≤ high :=
  ⟨UInt8.le_iff_toNat_le.mpr least, UInt8.le_iff_toNat_le.mpr most⟩

theorem differs (above : mark.toNat < byte.toNat) : byte ≠ mark := by
  rintro rfl
  exact Nat.lt_irrefl _ above

theorem begins_two (byte : UInt8) (least : 0xC2 ≤ byte.toNat) (most : byte.toNat ≤ 0xDF) :
    Begins byte 0 0x80 0xBF (byte.toNat - 0xC0) := by
  rw [Begins, lead, if_neg (not_ascii (Nat.le_trans (by decide) least)),
    dif_pos (show 0xC2 ≤ byte ∧ byte ≤ 0xDF from within least most)]
  exact ⟨_, rfl, rfl, rfl, rfl, rfl⟩

theorem begins_three (byte : UInt8) (least : 0xE0 ≤ byte.toNat) (most : byte.toNat ≤ 0xEF) :
    Begins byte 1 (if byte = 0xE0 then 0xA0 else 0x80) (if byte = 0xED then 0x9F else 0xBF)
      (byte.toNat - 0xE0) := by
  rw [Begins, lead, if_neg (not_ascii (Nat.le_trans (by decide) least)),
    dif_neg (not_within (Nat.lt_of_lt_of_le (by decide) least))]
  by_cases first : byte = 0xE0
  · subst first
    exact ⟨_, rfl, rfl, rfl, rfl, rfl⟩
  by_cases surrogate : byte = 0xED
  · subst surrogate
    exact ⟨_, rfl, rfl, rfl, rfl, rfl⟩
  have more : 0xE0 < byte.toNat :=
    Nat.lt_of_le_of_ne least fun same => first (UInt8.toNat_inj.mp same.symm)
  have other : 0xE1 ≤ byte ∧ byte ≤ 0xEF := within more most
  rw [if_neg first, if_neg surrogate, dif_pos other, if_neg first, if_neg surrogate]
  exact ⟨_, rfl, rfl, rfl, rfl, rfl⟩

theorem begins_four (byte : UInt8) (least : 0xF0 ≤ byte.toNat) (most : byte.toNat ≤ 0xF4) :
    Begins byte 2 (if byte = 0xF0 then 0x90 else 0x80) (if byte = 0xF4 then 0x8F else 0xBF)
      (byte.toNat - 0xF0) := by
  have above {value : Nat} (below : value < 0xF0) : value < byte.toNat :=
    Nat.lt_of_lt_of_le below least
  rw [Begins, lead, if_neg (not_ascii (Nat.le_trans (by decide) least)),
    dif_neg (not_within (above (by decide))), if_neg (differs (above (by decide))),
    if_neg (differs (above (by decide))), dif_neg (not_within (above (by decide)))]
  by_cases first : byte = 0xF0
  · subst first
    exact ⟨_, rfl, rfl, rfl, rfl, rfl⟩
  by_cases last : byte = 0xF4
  · subst last
    exact ⟨_, rfl, rfl, rfl, rfl, rfl⟩
  have more : 0xF0 < byte.toNat :=
    Nat.lt_of_le_of_ne least fun same => first (UInt8.toNat_inj.mp same.symm)
  have less : byte.toNat < 0xF4 :=
    Nat.lt_of_le_of_ne most fun same => last (UInt8.toNat_inj.mp same)
  have other : 0xF1 ≤ byte ∧ byte ≤ 0xF3 := within more (Nat.le_of_lt_succ less)
  rw [if_neg first, if_neg last, dif_pos other, if_neg first, if_neg last]
  exact ⟨_, rfl, rfl, rfl, rfl, rfl⟩

/-- No other byte begins a character. -/
theorem lead_malformed (least : 0x80 ≤ byte.toNat) (lone : byte.toNat < 0xC2 ∨ 0xF4 < byte.toNat) :
    (lead byte).malformed = true := by
  have outside {low high : UInt8} (low_ : 0xC2 ≤ low.toNat) (high_ : high.toNat ≤ 0xF4) :
      ¬ (low ≤ byte ∧ byte ≤ high) := by
    rw [UInt8.le_iff_toNat_le, UInt8.le_iff_toNat_le]
    omega
  have other {exact_ : UInt8} (range : 0xC2 ≤ exact_.toNat ∧ exact_.toNat ≤ 0xF4) :
      byte ≠ exact_ := by
    rintro rfl
    omega
  rw [lead, if_neg (not_ascii least), dif_neg (outside (by decide) (by decide)),
    if_neg (other (by decide)), if_neg (other (by decide)),
    dif_neg (outside (by decide) (by decide)), if_neg (other (by decide)),
    if_neg (other (by decide)), dif_neg (outside (by decide) (by decide))]

/-- A longer character is complete after the bytes that continue it. -/
theorem Begins.completes {more value : Nat} {low high : UInt8} {front : List UInt8}
    (begins : Begins byte more low high value) (continues : Continues more low high front) :
    Completes .between (byte :: front) (Char.ofNat (extend value front)) := by
  obtain ⟨pending, led, rfl, rfl, rfl, rfl⟩ := begins
  exact .cons led (completes_inside continues)

/-- Well-formed text goes on with the bytes that continue its character. -/
theorem Begins.continues {more value : Nat} {low high : UInt8} {rest : List UInt8}
    (begins : Begins byte more low high value)
    (valid : validFrom .between (byte :: rest) = true) :
    ∃ front rest', rest = front ++ rest' ∧ Continues more low high front := by
  obtain ⟨pending, led, rfl, rfl, rfl, rfl⟩ := begins
  rw [validFrom_cons, step, led] at valid
  exact continues_of_valid valid

end Lead

section Characters
variable {char : Char} {value : Nat}

theorem toNat_ofNat (valid : value.isValidChar) : (Char.ofNat value).toNat = value := by
  rw [Char.ofNat, dif_pos valid]
  rfl

theorem toNat_byte (value : Nat) (small : value < 256) : (UInt8.ofNat value).toNat = value := by
  rw [UInt8.toNat_ofNat']
  exact Nat.mod_eq_of_lt small

theorem byte_eq (byte : UInt8) (same : value = byte.toNat) : UInt8.ofNat value = byte := by
  rw [same]
  exact UInt8.ofNat_toNat

/-- The last six bits of a code point go into a byte of their own. -/
theorem cut_sextet (value : Nat) : ∃ front last, value = front * 64 + last ∧ last < 64 :=
  ⟨value / 64, value % 64, (Nat.div_add_mod' value 64).symm, Nat.mod_lt _ (by decide)⟩

theorem sextet_front {front last : Nat} (small : last < 64) : (front * 64 + last) / 64 = front := by
  rw [Nat.mul_comm, Nat.mul_add_div (by decide), Nat.div_eq_of_lt small, Nat.add_zero]

theorem sextet_last {front last : Nat} (small : last < 64) : (front * 64 + last) % 64 = last := by
  rw [Nat.mul_add_mod', Nat.mod_eq_of_lt small]

/-- The bytes of a character depend on the size of its code point. -/
theorem encodeChar_one (small : char.toNat ≤ 0x7F) :
    String.utf8EncodeChar char = [UInt8.ofNat char.toNat] := if_pos small

theorem encodeChar_two {first last : Nat} (value : char.toNat = first * 64 + last)
    (tail : last < 64) (large : 0x7F < char.toNat) (small : char.toNat ≤ 0x7FF) :
    String.utf8EncodeChar char = [UInt8.ofNat (0xC0 + first), UInt8.ofNat (0x80 + last)] := by
  have front : char.toNat / 64 % 0x20 + 0xC0 = 0xC0 + first := by
    rw [value, sextet_front tail, Nat.mod_eq_of_lt (by omega), Nat.add_comm]
  have back : char.toNat % 0x40 + 0x80 = 0x80 + last := by
    rw [value, sextet_last tail, Nat.add_comm]
  rw [← front, ← back]
  exact (if_neg (Nat.not_le.mpr large)).trans (if_pos small)

theorem encodeChar_three {first middle last : Nat}
    (value : char.toNat = (first * 64 + middle) * 64 + last) (inner : middle < 64)
    (tail : last < 64) (large : 0x7FF < char.toNat) (small : char.toNat ≤ 0xFFFF) :
    String.utf8EncodeChar char =
      [UInt8.ofNat (0xE0 + first), UInt8.ofNat (0x80 + middle), UInt8.ofNat (0x80 + last)] := by
  have shifted : char.toNat / 64 = first * 64 + middle := by rw [value, sextet_front tail]
  have front : char.toNat / 4096 % 0x10 + 0xE0 = 0xE0 + first := by
    rw [← Nat.div_div_eq_div_mul char.toNat 64 64, shifted, sextet_front inner,
      Nat.mod_eq_of_lt (by omega), Nat.add_comm]
  have second : char.toNat / 64 % 0x40 + 0x80 = 0x80 + middle := by
    rw [shifted, sextet_last inner, Nat.add_comm]
  have back : char.toNat % 0x40 + 0x80 = 0x80 + last := by
    rw [value, sextet_last tail, Nat.add_comm]
  rw [← front, ← second, ← back]
  exact (if_neg (Nat.not_le.mpr (Nat.lt_trans (by decide) large))).trans
    ((if_neg (Nat.not_le.mpr large)).trans (if_pos small))

theorem toNat_lt (char : Char) : char.toNat < 0x110000 := by
  rcases char.valid with small | small
  · exact Nat.lt_trans small (by decide)
  · exact small.2

theorem encodeChar_four {first middle later last : Nat}
    (value : char.toNat = ((first * 64 + middle) * 64 + later) * 64 + last) (inner : middle < 64)
    (next : later < 64) (tail : last < 64) (large : 0xFFFF < char.toNat) :
    String.utf8EncodeChar char =
      [UInt8.ofNat (0xF0 + first), UInt8.ofNat (0x80 + middle), UInt8.ofNat (0x80 + later),
        UInt8.ofNat (0x80 + last)] := by
  have range := toNat_lt char
  have shifted : char.toNat / 64 = (first * 64 + middle) * 64 + later := by
    rw [value, sextet_front tail]
  have shifted' : char.toNat / 4096 = first * 64 + middle := by
    rw [← Nat.div_div_eq_div_mul char.toNat 64 64, shifted, sextet_front next]
  have front : char.toNat / 262144 % 0x08 + 0xF0 = 0xF0 + first := by
    rw [← Nat.div_div_eq_div_mul char.toNat 4096 64, shifted', sextet_front inner,
      Nat.mod_eq_of_lt (by omega), Nat.add_comm]
  have second : char.toNat / 4096 % 0x40 + 0x80 = 0x80 + middle := by
    rw [shifted', sextet_last inner, Nat.add_comm]
  have third : char.toNat / 64 % 0x40 + 0x80 = 0x80 + later := by
    rw [shifted, sextet_last next, Nat.add_comm]
  have back : char.toNat % 0x40 + 0x80 = 0x80 + last := by
    rw [value, sextet_last tail, Nat.add_comm]
  rw [← front, ← second, ← third, ← back]
  exact (if_neg (Nat.not_le.mpr (Nat.lt_trans (by decide) large))).trans
    ((if_neg (Nat.not_le.mpr (Nat.lt_trans (by decide) large))).trans
      (if_neg (Nat.not_le.mpr large)))

section Bytes
variable {byte second tight : UInt8}

theorem tail_iff :
    (0x80 ≤ byte ∧ byte ≤ 0xBF) ↔ 0x80 ≤ byte.toNat ∧ byte.toNat ≤ 0xBF := by
  rw [UInt8.le_iff_toNat_le, UInt8.le_iff_toNat_le]
  rfl

/-- Six bits fit into a byte that continues a character. -/
theorem tail_toNat {value : Nat} (small : value < 64) :
    (UInt8.ofNat (0x80 + value)).toNat = 0x80 + value :=
  toNat_byte _ (Nat.lt_trans (Nat.add_lt_add_left small _) (by decide))

theorem tail_range {value : Nat} (small : value < 64) :
    0x80 ≤ UInt8.ofNat (0x80 + value) ∧ UInt8.ofNat (0x80 + value) ≤ 0xBF := by
  rw [tail_iff, tail_toNat small]
  exact ⟨Nat.le_add_right _ _, Nat.add_le_add_left (Nat.le_of_lt_succ small) _⟩

/-- A bound that is tighter after one byte holds after all bytes, and it holds after that one. -/
theorem narrow_low (byte mark : UInt8) (looser : 0x80 ≤ tight) :
    (if byte = mark then tight else 0x80) ≤ second ↔
      0x80 ≤ second ∧ (byte.toNat = mark.toNat → tight.toNat ≤ second.toNat) := by
  rw [UInt8.toNat_inj, ← UInt8.le_iff_toNat_le]
  split
  · next same =>
      rw [forall_prop_of_true same]
      exact ⟨fun least => ⟨UInt8.le_trans looser least, least⟩, And.right⟩
  · next other => exact ⟨fun least => ⟨least, fun same => absurd same other⟩, And.left⟩

theorem narrow_high (byte mark : UInt8) (looser : tight ≤ 0xBF) :
    second ≤ (if byte = mark then tight else 0xBF) ↔
      second ≤ 0xBF ∧ (byte.toNat = mark.toNat → second.toNat ≤ tight.toNat) := by
  rw [UInt8.toNat_inj, ← UInt8.le_iff_toNat_le]
  split
  · next same =>
      rw [forall_prop_of_true same]
      exact ⟨fun most => ⟨UInt8.le_trans most looser, most⟩, And.right⟩
  · next other => exact ⟨fun most => ⟨most, fun same => absurd same other⟩, And.left⟩

/-- A byte that continues a character carries six bits. -/
theorem sextet (range : 0x80 ≤ byte ∧ byte ≤ 0xBF) :
    ∃ value < 64, byte = UInt8.ofNat (0x80 + value) := by
  obtain ⟨least, most⟩ := tail_iff.mp range
  exact ⟨byte.toNat - 0x80, by omega, (byte_eq byte (Nat.add_sub_of_le least)).symm⟩

/-- The bytes that carry these sextets. -/
def tails (sextets : List Nat) : List UInt8 :=
  sextets.map fun value => UInt8.ofNat (0x80 + value)

theorem extend_tails {sextets : List Nat} (small : ∀ value ∈ sextets, value < 64) (value : Nat) :
    extend value (tails sextets) = sextets.foldl (fun value last => value * 64 + last) value := by
  induction sextets generalizing value with
  | nil => rfl
  | cons last rest ih =>
      obtain ⟨now, later⟩ := List.forall_mem_cons.mp small
      rw [tails, List.map_cons, extend_cons, tail_toNat now, Nat.add_sub_cancel_left]
      exact ih later _

/-- The bytes of the sextets continue a character if the first of them is within its bounds. -/
theorem continues_tails {low high : UInt8} {sextet : Nat} {rest : List Nat}
    (first : low ≤ UInt8.ofNat (0x80 + sextet) ∧ UInt8.ofNat (0x80 + sextet) ≤ high)
    (small : ∀ value ∈ rest, value < 64) :
    Continues rest.length low high (tails (sextet :: rest)) := by
  induction rest generalizing low high sextet with
  | nil => exact ⟨first.1, first.2, rfl⟩
  | cons next rest ih =>
      obtain ⟨now, later⟩ := List.forall_mem_cons.mp small
      exact ⟨first.1, first.2, ih (tail_range now) later⟩

/-- A first byte and the bytes of some sextets complete a character. -/
theorem Begins.completes_tails {low high : UInt8} {value sextet : Nat} (rest : List Nat)
    (begins : Begins byte rest.length low high value)
    (first : low ≤ UInt8.ofNat (0x80 + sextet) ∧ UInt8.ofNat (0x80 + sextet) ≤ high)
    (small : ∀ value ∈ sextet :: rest, value < 64)
    (same : (sextet :: rest).foldl (fun value last => value * 64 + last) value = char.toNat) :
    Completes .between (byte :: tails (sextet :: rest)) char := by
  have completes :=
    begins.completes (continues_tails first (List.forall_mem_cons.mp small).2)
  rw [extend_tails small, same, Char.ofNat_toNat char] at completes
  exact completes

end Bytes

/-- The decoder inverts the encoder on a character of two bytes. -/
theorem completes_two (large : 0x7F < char.toNat) (small : char.toNat ≤ 0x7FF) :
    Completes .between (String.utf8EncodeChar char) char := by
  obtain ⟨first, last, value, tail⟩ := cut_sextet char.toNat
  rw [encodeChar_two value tail large small]
  have lead := toNat_byte (0xC0 + first) (by omega)
  have begins := begins_two (UInt8.ofNat (0xC0 + first)) (by omega) (by omega)
  rw [lead, Nat.add_sub_cancel_left] at begins
  exact begins.completes_tails [] (tail_range tail) (List.forall_mem_singleton.mpr tail) value.symm

/-- The decoder inverts the encoder on a character of three bytes. -/
theorem completes_three (large : 0x7FF < char.toNat) (small : char.toNat ≤ 0xFFFF) :
    Completes .between (String.utf8EncodeChar char) char := by
  obtain ⟨front, last, value, tail⟩ := cut_sextet char.toNat
  obtain ⟨first, middle, rfl, inner⟩ := cut_sextet front
  rw [encodeChar_three value inner tail large small]
  have valid : char.toNat < 0xD800 ∨ 0xDFFF < char.toNat ∧ char.toNat < 0x110000 := char.valid
  have lead := toNat_byte (0xE0 + first) (by omega)
  have begins := begins_three (UInt8.ofNat (0xE0 + first)) (by omega) (by omega)
  have second := tail_range inner
  -- A smaller code point has fewer bytes, and the surrogates are no characters.
  have low := (narrow_low (UInt8.ofNat (0xE0 + first)) 0xE0
    (by decide : 0x80 ≤ (0xA0 : UInt8))).mpr ⟨second.1, by
      rw [lead, tail_toNat inner]
      exact fun (least : 0xE0 + first = 0xE0) => show 0xA0 ≤ 0x80 + middle by omega⟩
  have high := (narrow_high (UInt8.ofNat (0xE0 + first)) 0xED
    (by decide : (0x9F : UInt8) ≤ 0xBF)).mpr ⟨second.2, by
      rw [lead, tail_toNat inner]
      exact fun (surrogate : 0xE0 + first = 0xED) => show 0x80 + middle ≤ 0x9F by omega⟩
  rw [lead, Nat.add_sub_cancel_left] at begins
  exact begins.completes_tails [last] ⟨low, high⟩
    (List.forall_mem_cons.mpr ⟨inner, List.forall_mem_singleton.mpr tail⟩) value.symm

/-- The decoder inverts the encoder on a character of four bytes. -/
theorem completes_four (large : 0xFFFF < char.toNat) :
    Completes .between (String.utf8EncodeChar char) char := by
  obtain ⟨front, last, value, tail⟩ := cut_sextet char.toNat
  obtain ⟨front, later, rfl, next⟩ := cut_sextet front
  obtain ⟨first, middle, rfl, inner⟩ := cut_sextet front
  rw [encodeChar_four value inner next tail large]
  have range := toNat_lt char
  have lead := toNat_byte (0xF0 + first) (by omega)
  have begins := begins_four (UInt8.ofNat (0xF0 + first)) (by omega) (by omega)
  have second := tail_range inner
  have low := (narrow_low (UInt8.ofNat (0xF0 + first)) 0xF0
    (by decide : 0x80 ≤ (0x90 : UInt8))).mpr ⟨second.1, by
      rw [lead, tail_toNat inner]
      exact fun (least : 0xF0 + first = 0xF0) => show 0x90 ≤ 0x80 + middle by omega⟩
  have high := (narrow_high (UInt8.ofNat (0xF0 + first)) 0xF4
    (by decide : (0x8F : UInt8) ≤ 0xBF)).mpr ⟨second.2, by
      rw [lead, tail_toNat inner]
      exact fun (most : 0xF0 + first = 0xF4) => show 0x80 + middle ≤ 0x8F by omega⟩
  rw [lead, Nat.add_sub_cancel_left] at begins
  exact begins.completes_tails [later, last] ⟨low, high⟩
    (List.forall_mem_cons.mpr ⟨inner, List.forall_mem_cons.mpr
      ⟨next, List.forall_mem_singleton.mpr tail⟩⟩) value.symm

/-- The decoder inverts the encoder on each character. -/
theorem completes_encodeChar (char : Char) :
    Completes .between (String.utf8EncodeChar char) char := by
  by_cases one : char.toNat ≤ 0x7F
  · rw [encodeChar_one one]
    have same := toNat_byte char.toNat (Nat.lt_of_le_of_lt one (by decide))
    have small : UInt8.ofNat char.toNat < 0x80 := by
      rw [UInt8.lt_iff_toNat_lt, same]
      exact Nat.lt_succ_of_le one
    have led : step .between (UInt8.ofNat char.toNat) = ⟨[char], false, .between⟩ := by
      rw [step, lead_ascii small, ascii, same, Char.ofNat_toNat char]
    exact .single led
  by_cases two : char.toNat ≤ 0x7FF
  · exact completes_two (Nat.not_le.mp one) two
  by_cases three : char.toNat ≤ 0xFFFF
  · exact completes_three (Nat.not_le.mp two) three
  · exact completes_four (Nat.not_le.mp three)

section Bytes
variable {byte second third fourth : UInt8}

/-- The encoder inverts the decoder on two bytes. -/
theorem encodeChar_ofNat_two (first : 0xC2 ≤ byte.toNat ∧ byte.toNat ≤ 0xDF)
    (last : 0x80 ≤ second ∧ second ≤ 0xBF) :
    ∃ char, String.utf8EncodeChar char = [byte, second] := by
  obtain ⟨low, tail, rfl⟩ := sextet last
  obtain ⟨high, split⟩ := Nat.exists_eq_add_of_le (Nat.le_trans (by decide) first.1 : 0xC0 ≤ _)
  have value := toNat_ofNat (show (high * 64 + low).isValidChar from .inl (by omega))
  exact ⟨_, by rw [encodeChar_two value tail (by omega) (by omega), byte_eq byte split.symm]⟩

/-- The encoder inverts the decoder on three bytes. -/
theorem encodeChar_ofNat_three (first : 0xE0 ≤ byte.toNat ∧ byte.toNat ≤ 0xEF)
    (middle : 0x80 ≤ second ∧ second ≤ 0xBF)
    (least : byte.toNat = 0xE0 → 0xA0 ≤ second.toNat)
    (most : byte.toNat = 0xED → second.toNat ≤ 0x9F)
    (last : 0x80 ≤ third ∧ third ≤ 0xBF) :
    ∃ char, String.utf8EncodeChar char = [byte, second, third] := by
  obtain ⟨next, inner, rfl⟩ := sextet middle
  obtain ⟨low, tail, rfl⟩ := sextet last
  obtain ⟨high, split⟩ := Nat.exists_eq_add_of_le first.1
  rw [tail_toNat inner, split] at least most
  have value := toNat_ofNat
    (show ((high * 64 + next) * 64 + low).isValidChar by unfold Nat.isValidChar; omega)
  exact ⟨_, by rw [encodeChar_three value inner tail (by omega) (by omega),
    byte_eq byte split.symm]⟩

/-- The encoder inverts the decoder on four bytes. -/
theorem encodeChar_ofNat_four (first : 0xF0 ≤ byte.toNat ∧ byte.toNat ≤ 0xF4)
    (middle : 0x80 ≤ second ∧ second ≤ 0xBF)
    (least : byte.toNat = 0xF0 → 0x90 ≤ second.toNat)
    (most : byte.toNat = 0xF4 → second.toNat ≤ 0x8F)
    (later : 0x80 ≤ third ∧ third ≤ 0xBF) (last : 0x80 ≤ fourth ∧ fourth ≤ 0xBF) :
    ∃ char, String.utf8EncodeChar char = [byte, second, third, fourth] := by
  obtain ⟨next, inner, rfl⟩ := sextet middle
  obtain ⟨after, small, rfl⟩ := sextet later
  obtain ⟨low, tail, rfl⟩ := sextet last
  obtain ⟨high, split⟩ := Nat.exists_eq_add_of_le first.1
  rw [tail_toNat inner, split] at least most
  have value := toNat_ofNat
    (show (((high * 64 + next) * 64 + after) * 64 + low).isValidChar from .inr (by omega))
  exact ⟨_, by rw [encodeChar_four value inner small tail (by omega), byte_eq byte split.symm]⟩

end Bytes

/-- Well-formed text begins with the bytes of a character. -/
theorem encodeChar_of_valid {byte : UInt8} {rest : List UInt8}
    (valid : validFrom .between (byte :: rest) = true) :
    ∃ char rest', byte :: rest = String.utf8EncodeChar char ++ rest' := by
  by_cases one : byte.toNat < 0x80
  · have small : (Char.ofNat byte.toNat).toNat = byte.toNat :=
      toNat_ofNat (.inl (Nat.lt_trans one (by decide)))
    refine ⟨Char.ofNat byte.toNat, rest, ?_⟩
    rw [encodeChar_one (by omega), small, byte_eq byte rfl]
    rfl
  by_cases lone : byte.toNat < 0xC2 ∨ 0xF4 < byte.toNat
  · rw [validFrom_cons, step, lead_malformed (by omega) lone] at valid
    contradiction
  by_cases two : byte.toNat ≤ 0xDF
  · have range : 0xC2 ≤ byte.toNat ∧ byte.toNat ≤ 0xDF := by omega
    obtain ⟨front, rest', rfl, continues⟩ := (begins_two byte range.1 range.2).continues valid
    obtain ⟨second, rfl, last⟩ := continues_zero continues
    obtain ⟨char, encoded⟩ := encodeChar_ofNat_two range last
    exact ⟨char, rest', by rw [encoded]; rfl⟩
  by_cases three : byte.toNat ≤ 0xEF
  · have range : 0xE0 ≤ byte.toNat ∧ byte.toNat ≤ 0xEF := by omega
    obtain ⟨front, rest', rfl, continues⟩ := (begins_three byte range.1 range.2).continues valid
    obtain ⟨second, front, rfl, least, most, continues⟩ := continues_succ continues
    obtain ⟨third, rfl, last⟩ := continues_zero continues
    obtain ⟨low, tight⟩ := (narrow_low byte _ (by decide)).mp least
    obtain ⟨high, tight'⟩ := (narrow_high byte _ (by decide)).mp most
    obtain ⟨char, encoded⟩ := encodeChar_ofNat_three range ⟨low, high⟩ tight tight' last
    exact ⟨char, rest', by rw [encoded]; rfl⟩
  · have range : 0xF0 ≤ byte.toNat ∧ byte.toNat ≤ 0xF4 := by omega
    obtain ⟨front, rest', rfl, continues⟩ := (begins_four byte range.1 range.2).continues valid
    obtain ⟨second, front, rfl, least, most, continues⟩ := continues_succ continues
    obtain ⟨third, front, rfl, least', most', continues⟩ := continues_succ continues
    obtain ⟨fourth, rfl, last⟩ := continues_zero continues
    obtain ⟨low, tight⟩ := (narrow_low byte _ (by decide)).mp least
    obtain ⟨high, tight'⟩ := (narrow_high byte _ (by decide)).mp most
    obtain ⟨char, encoded⟩ :=
      encodeChar_ofNat_four range ⟨low, high⟩ tight tight' ⟨least', most'⟩ last
    exact ⟨char, rest', by rw [encoded]; rfl⟩

end Characters

/-- The decoder inverts the encoder. -/
theorem decode_encode_append (chars : List Char) (rest : List UInt8) :
    lossy (encode chars ++ rest) = chars ++ lossy rest ∧
      valid (encode chars ++ rest) = valid rest := by
  induction chars with
  | nil => exact ⟨rfl, rfl⟩
  | cons char later ih =>
      rw [encode_cons, List.append_assoc]
      have completes := completes_encodeChar char
      exact ⟨(completes.lossy _).trans (congrArg _ ih.1), (completes.valid _).trans ih.2⟩

theorem encode_lossy {bytes : List UInt8} (whole : valid bytes = true) :
    encode (lossy bytes) = bytes := by
  induction length : bytes.length using Nat.strongRecOn generalizing bytes with
  | _ count ih =>
      cases bytes with
      | nil => rfl
      | cons byte rest =>
          obtain ⟨char, rest', split⟩ := encodeChar_of_valid whole
          have completes := completes_encodeChar char
          have some_ := List.length_pos_of_ne_nil (String.utf8EncodeChar_ne_nil (c := char))
          have shorter := congrArg List.length split
          rw [List.length_append] at shorter
          rw [split] at whole ⊢
          have later := ih rest'.length (by omega) ((completes.valid rest').symm.trans whole) rfl
          rw [lossy, completes.lossy rest', encode_cons]
          exact congrArg _ later

/-- Text decodes exactly from its own bytes. -/
theorem decode_eq_some_iff {bytes : List UInt8} {chars : List Char} :
    decode bytes = some chars ↔ bytes = encode chars := by
  unfold decode
  constructor
  · intro decoded
    split at decoded
    · next whole =>
        cases decoded
        exact (encode_lossy whole).symm
    · contradiction
  · rintro rfl
    have inverts := decode_encode_append chars []
    rw [List.append_nil] at inverts
    have whole : valid (encode chars) = true := inverts.2
    rw [if_pos whole, inverts.1]
    exact congrArg some (List.append_nil chars)

/-- The bytes of a string are those of its characters. -/
theorem toUTF8_eq (text : String) : text.toUTF8.data.toList = encode text.toList := by
  have encoded : text.toUTF8 = text.toList.utf8Encode := String.utf8Encode_toList.symm
  rw [encoded]
  exact List.toList_data_toByteArray

end Utf8
