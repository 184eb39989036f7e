import Mathlib.Data.List.Basic

namespace Base64

/-- These symbols stand for the values below 64 in their order. -/
def symbols : List UInt8 :=
  "ABCDEFGHIJKLMNOPQRSTUVWXYZabcdefghijklmnopqrstuvwxyz0123456789+/".toUTF8.data.toList

/-- This symbol fills the last group up. -/
def pad : UInt8 := 0x3D

/-- Encoded text consists of these symbols. -/
def alphabet : List UInt8 := pad :: symbols

def symbol (value : Nat) : UInt8 := symbols.getD value pad

def value (symbol : UInt8) : Option Nat := symbols.idxOf? symbol

/-- Three bytes make four symbols. -/
def encode : List UInt8 → List UInt8
  | [] => []
  | [first] => [symbol (first.toNat / 4), symbol (first.toNat % 4 * 16), pad, pad]
  | [first, second] =>
      [symbol (first.toNat / 4), symbol (first.toNat % 4 * 16 + second.toNat / 16),
        symbol (second.toNat % 16 * 4), pad]
  | first :: second :: third :: rest =>
      symbol (first.toNat / 4) :: symbol (first.toNat % 4 * 16 + second.toNat / 16) ::
        symbol (second.toNat % 16 * 4 + third.toNat / 64) :: symbol (third.toNat % 64) ::
        encode rest

/-- The last group ends in one or two padding symbols, and its unused bits are zero. -/
def decodeLast (first second third : UInt8) : Option (List UInt8) :=
  (value first).bind fun a => (value second).bind fun b =>
    if third = pad then
      if b % 16 = 0 then some [UInt8.ofNat (a * 4 + b / 16)] else none
    else
      (value third).bind fun c =>
        if c % 4 = 0 then
          some [UInt8.ofNat (a * 4 + b / 16), UInt8.ofNat (b % 16 * 16 + c / 4)]
        else none

/-- Four symbols make three bytes. -/
def decode : List UInt8 → Option (List UInt8)
  | [] => some []
  | first :: second :: third :: fourth :: rest =>
      if fourth = pad then
        if rest = [] then decodeLast first second third else none
      else
        (value first).bind fun a => (value second).bind fun b => (value third).bind fun c =>
          (value fourth).bind fun d => (decode rest).map fun bytes =>
            UInt8.ofNat (a * 4 + b / 16) :: UInt8.ofNat (b % 16 * 16 + c / 4) ::
              UInt8.ofNat (c % 4 * 64 + d) :: bytes
  | _ => none

theorem symbols_eq : symbols = [65, 66, 67, 68, 69, 70, 71, 72, 73, 74, 75, 76, 77, 78, 79, 80, 81,
    82, 83, 84, 85, 86, 87, 88, 89, 90, 97, 98, 99, 100, 101, 102, 103, 104, 105, 106, 107, 108, 109,
    110, 111, 112, 113, 114, 115, 116, 117, 118, 119, 120, 121, 122, 48, 49, 50, 51, 52, 53, 54, 55,
    56, 57, 43, 47] := rfl

/-- The code of a symbol tells its place. -/
def place (symbol : UInt8) : Nat :=
  if 97 ≤ symbol.toNat then symbol.toNat - 71
  else if 65 ≤ symbol.toNat then symbol.toNat - 65
  else if 48 ≤ symbol.toNat then symbol.toNat + 4
  else if symbol.toNat = 43 then 62 else 63

theorem place_symbol {number : Nat} (small : number < 64) :
    place (symbol number) = number ∧ symbol number ≠ pad := by
  have all : ∀ number : Fin 64, place (symbol number) = number.val ∧ symbol number ≠ pad := by
    unfold symbol
    rw [symbols_eq]
    decide +kernel
  exact all ⟨number, small⟩

/-- Every value has a symbol of its own, which is not the padding symbol. -/
theorem value_symbol {number : Nat} (small : number < 64) :
    value (symbol number) = some number ∧ symbol number ≠ pad := by
  have length : symbols.length = 64 := by rw [symbols_eq]; rfl
  have symbol_eq {number : Nat} (inside : number < symbols.length) :
      symbols[number] = symbol number := by
    rw [symbol, List.getD_eq_getElem?_getD, List.getElem?_eq_getElem inside]
    rfl
  refine ⟨List.idxOf?_eq_some_iff.mpr ⟨length ▸ small, symbol_eq _, ?_⟩, (place_symbol small).2⟩
  intro earlier before same
  rw [symbol_eq] at same
  have places := congrArg place same
  rw [(place_symbol (Nat.lt_trans before small)).1, (place_symbol small).1] at places
  omega

/-- A symbol with a value belongs to the alphabet. -/
theorem mem_of_value {byte : UInt8} {number : Nat} (found : value byte = some number) :
    byte ∈ alphabet := by
  apply List.mem_cons_of_mem
  by_contra absent
  rw [value, List.idxOf?_eq_none_iff.mpr absent] at found
  cases found

theorem symbol_mem {number : Nat} (small : number < 64) : symbol number ∈ alphabet :=
  mem_of_value (value_symbol small).1

/-- Encoded bytes stay in the alphabet. -/
theorem encode_mem {bytes : List UInt8} {byte : UInt8} (member : byte ∈ encode bytes) :
    byte ∈ alphabet := by
  fun_induction encode bytes with
  | case1 => cases member
  | case2 first =>
      have bound := first.toNat_lt
      simp only [List.mem_cons, List.not_mem_nil, or_false] at member
      rcases member with rfl | rfl | rfl | rfl
      · exact symbol_mem (by omega)
      · exact symbol_mem (by omega)
      · exact List.mem_cons_self
      · exact List.mem_cons_self
  | case3 first second =>
      have bound := first.toNat_lt
      have bound' := second.toNat_lt
      simp only [List.mem_cons, List.not_mem_nil, or_false] at member
      rcases member with rfl | rfl | rfl | rfl
      · exact symbol_mem (by omega)
      · exact symbol_mem (by omega)
      · exact symbol_mem (by omega)
      · exact List.mem_cons_self
  | case4 first second third rest ih =>
      have bound := first.toNat_lt
      have bound' := second.toNat_lt
      have bound'' := third.toNat_lt
      simp only [List.mem_cons] at member
      rcases member with rfl | rfl | rfl | rfl | later
      · exact symbol_mem (by omega)
      · exact symbol_mem (by omega)
      · exact symbol_mem (by omega)
      · exact symbol_mem (by omega)
      · exact ih later

/-- A byte is put together from its parts. -/
theorem ofNat_parts (byte : UInt8) {number : Nat} (same : number = byte.toNat) :
    UInt8.ofNat number = byte := by
  rw [same, UInt8.ofNat_toNat]

/-- Decoding inverts encoding. -/
theorem decode_encode (bytes : List UInt8) : decode (encode bytes) = some bytes := by
  fun_induction encode bytes with
  | case1 => rfl
  | case2 first =>
      have bound := first.toNat_lt
      have high := (value_symbol (show first.toNat / 4 < 64 by omega)).1
      have low := (value_symbol (show first.toNat % 4 * 16 < 64 by omega)).1
      rw [decode, if_pos rfl, if_pos rfl, decodeLast, high, low]
      simp only [Option.bind_some, if_true]
      rw [if_pos (by omega), ofNat_parts first (by omega)]
  | case3 first second =>
      have bound := first.toNat_lt
      have bound' := second.toNat_lt
      have high := (value_symbol (show first.toNat / 4 < 64 by omega)).1
      have middle := (value_symbol (show first.toNat % 4 * 16 + second.toNat / 16 < 64 by omega)).1
      have low := value_symbol (show second.toNat % 16 * 4 < 64 by omega)
      rw [decode, if_pos rfl, if_pos rfl, decodeLast, high, middle, low.1]
      simp only [Option.bind_some]
      rw [if_neg low.2, if_pos (by omega), ofNat_parts first (by omega),
        ofNat_parts second (by omega)]
  | case4 first second third rest ih =>
      have bound := first.toNat_lt
      have bound' := second.toNat_lt
      have bound'' := third.toNat_lt
      have one := (value_symbol (show first.toNat / 4 < 64 by omega)).1
      have two := (value_symbol (show first.toNat % 4 * 16 + second.toNat / 16 < 64 by omega)).1
      have three := (value_symbol (show second.toNat % 16 * 4 + third.toNat / 64 < 64 by omega)).1
      have four := value_symbol (show third.toNat % 64 < 64 by omega)
      rw [decode, if_neg four.2, one, two, three, four.1, ih]
      simp only [Option.bind_some, Option.map_some]
      rw [ofNat_parts first (by omega), ofNat_parts second (by omega),
        ofNat_parts third (by omega)]

/-- The last group decodes only from the alphabet. -/
theorem decodeLast_mem {first second third : UInt8} {bytes : List UInt8}
    (decoded : decodeLast first second third = some bytes) :
    ∀ byte ∈ [first, second, third], byte ∈ alphabet := by
  obtain ⟨a, one, decoded⟩ := Option.bind_eq_some_iff.mp decoded
  obtain ⟨b, two, decoded⟩ := Option.bind_eq_some_iff.mp decoded
  have last : third ∈ alphabet := by
    by_cases padded : third = pad
    · rw [padded]
      exact List.mem_cons_self
    · rw [if_neg padded] at decoded
      obtain ⟨c, three, -⟩ := Option.bind_eq_some_iff.mp decoded
      exact mem_of_value three
  intro byte member
  simp only [List.mem_cons, List.not_mem_nil, or_false] at member
  rcases member with rfl | rfl | rfl
  · exact mem_of_value one
  · exact mem_of_value two
  · exact last

/-- Only text in the alphabet decodes. -/
theorem decode_mem {text bytes : List UInt8} {byte : UInt8} (decoded : decode text = some bytes)
    (member : byte ∈ text) : byte ∈ alphabet := by
  fun_induction decode text generalizing bytes with
  | case1 => cases member
  | case2 first second third =>
      rw [List.mem_cons, List.mem_cons, List.mem_cons, List.mem_singleton] at member
      have all := decodeLast_mem decoded
      rcases member with rfl | rfl | rfl | rfl
      · exact all _ (by simp)
      · exact all _ (by simp)
      · exact all _ (by simp)
      · exact List.mem_cons_self
  | case3 => cases decoded
  | case4 first second third fourth rest other ih =>
      obtain ⟨a, one, decoded⟩ := Option.bind_eq_some_iff.mp decoded
      obtain ⟨b, two, decoded⟩ := Option.bind_eq_some_iff.mp decoded
      obtain ⟨c, three, decoded⟩ := Option.bind_eq_some_iff.mp decoded
      obtain ⟨d, four, decoded⟩ := Option.bind_eq_some_iff.mp decoded
      obtain ⟨more, later, -⟩ := Option.map_eq_some_iff.mp decoded
      simp only [List.mem_cons] at member
      rcases member with rfl | rfl | rfl | rfl | inside
      · exact mem_of_value one
      · exact mem_of_value two
      · exact mem_of_value three
      · exact mem_of_value four
      · exact ih later inside
  | case5 => cases decoded

end Base64
