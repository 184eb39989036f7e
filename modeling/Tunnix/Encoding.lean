import Tunnix.Protocol
import Tunnix.Library.Base64
import Tunnix.Library.Utf8
import Mathlib.Data.Bool.AllAny

namespace Tunnix

/-- The crate `base64ct` encodes bytes as the bytes of a string, and it decodes a string slice. -/
structure Encoding where
  encodeString : Bytes → Bytes
  decodeVec : List Char → Option Bytes

namespace Encoding

/-- Decoding inverts encoding, and encoded text has no character outside of the alphabet. -/
structure Standard (encoding : Encoding) : Prop where
  inverts : ∀ data, encoding.decodeVec ((encoding.encodeString data).map Utf8.ascii) = some data
  emits : ∀ {data byte}, byte ∈ encoding.encodeString data → byte ∈ Base64.alphabet
  accepts : ∀ {text data char}, encoding.decodeVec text = some data → char ∈ text →
    ∃ byte ∈ Base64.alphabet, char = Utf8.ascii byte

/-- The standard alphabet with padding is such an encoding. -/
def base64 : Encoding where
  encodeString := Base64.encode
  decodeVec text :=
    if text.all (·.toNat < 0x80) then
      Base64.decode (text.map fun char => UInt8.ofNat char.toNat)
    else none

/-- The alphabet is ASCII. -/
theorem alphabet_small {byte : UInt8} (member : byte ∈ Base64.alphabet) : byte < 0x80 := by
  have all : ∀ byte ∈ Base64.alphabet, byte < 0x80 := by
    rw [Base64.alphabet, Base64.symbols_eq]
    exact List.all_iff_forall_prop.mp (by decide)
  exact all byte member

theorem ofNat_ascii (byte : UInt8) : UInt8.ofNat (Utf8.ascii byte).toNat = byte := by
  rw [Utf8.toNat_ascii, UInt8.ofNat_toNat]

theorem ascii_ofNat {char : Char} (small : char.toNat < 0x80) :
    Utf8.ascii (UInt8.ofNat char.toNat) = char := by
  have fits : char.toNat < 256 := Nat.lt_trans small (by decide)
  apply Char.toNat_inj.mp
  rw [Utf8.toNat_ascii, UInt8.toNat_ofNat_of_lt' fits]

theorem base64_standard : base64.Standard where
  inverts data := by
    have small : ((Base64.encode data).map Utf8.ascii).all (·.toNat < 0x80) = true := by
      apply List.all_iff_forall_prop.mpr
      intro char member
      obtain ⟨byte, encoded, rfl⟩ := List.mem_map.mp member
      rw [Utf8.toNat_ascii]
      exact UInt8.lt_iff_toNat_lt.mp (alphabet_small (Base64.encode_mem encoded))
    have bytes : ((Base64.encode data).map Utf8.ascii).map (fun char => UInt8.ofNat char.toNat) =
        Base64.encode data := by
      rw [List.map_map]
      exact (List.map_congr_left fun byte _ => ofNat_ascii byte).trans (List.map_id _)
    have decoded := (congrArg Base64.decode bytes).trans (Base64.decode_encode data)
    exact (if_pos small).trans decoded
  emits := Base64.encode_mem
  accepts {text data char} decoded member := by
    change (if _ then _ else none) = _ at decoded
    rw [Option.ite_none_right_eq_some] at decoded
    obtain ⟨small, decoded⟩ := decoded
    have below := List.all_iff_forall_prop.mp small
    refine ⟨_, Base64.decode_mem decoded (List.mem_map_of_mem member), ?_⟩
    exact (ascii_ofNat (below char member)).symm

end Encoding

end Tunnix
