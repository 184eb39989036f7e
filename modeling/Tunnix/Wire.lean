import Tunnix.Protocol
import Tunnix.Crypto
import Tunnix.Library.Codec
import Tunnix.Library.Utf8Encode

namespace Tunnix.Wire
open Codec

/-- A number of the wire has a fixed width. -/
def u16 (value : UInt16) : Bytes := leBytes 2 value.toNat

def u32 (value : UInt32) : Bytes := leBytes 4 value.toNat

def i32 (value : Int32) : Bytes := u32 value.toUInt32

/-- A length has 64 bits. -/
def length (count : Nat) : Bytes := leBytes 8 count

def byte (value : UInt8) : Bytes := [value]

/-- Text is its bytes behind their number. -/
def string (text : String) : Bytes :=
  length text.toUTF8.data.toList.length ++ text.toUTF8.data.toList

/-- A sequence is its values behind their number. -/
def vec {Value : Type} (encode : Value → Bytes) (values : List Value) : Bytes :=
  length values.length ++ values.flatMap encode

/-- One byte tells whether there is a value. -/
def option {Value : Type} (encode : Value → Bytes) : Option Value → Bytes
  | none => [0]
  | some value => 1 :: encode value

/-- The variants are numbered in the order of their declaration. -/
def variant (index : Nat) : Bytes := leBytes 4 index

/-- `to_bytes` writes the number of the variant and then its fields. -/
def toBytes : Message → Bytes
  | .connect connId host port => [variant 0, u32 connId, string host, u16 port].flatten
  | .data connId data => [variant 1, u32 connId, vec byte data].flatten
  | .close connId => [variant 2, u32 connId].flatten
  | .ping => [variant 3].flatten
  | .pong => [variant 4].flatten
  | .error connId message => [variant 5, option u32 connId, string message].flatten
  | .reset => [variant 6].flatten
  | .exec connId cmd cols rows term =>
      [variant 7, u32 connId, option string cmd, u16 cols, u16 rows, string term].flatten
  | .resize connId cols rows => [variant 8, u32 connId, u16 cols, u16 rows].flatten
  | .exitStatus connId code => [variant 9, u32 connId, i32 code].flatten
  | .pull connId paths level => [variant 10, u32 connId, vec string paths, i32 level].flatten
  | .push connId path => [variant 11, u32 connId, string path].flatten
  | .abort connId => [variant 12, u32 connId].flatten

abbrev Reader := Codec.Reader UInt8

def readNumber (size : Nat) : Reader Nat := little <$> take size

def readU16 : Reader UInt16 := UInt16.ofNat <$> readNumber 2

def readU32 : Reader UInt32 := UInt32.ofNat <$> readNumber 4

def readI32 : Reader Int32 := UInt32.toInt32 <$> readU32

/-- Only well-formed text is accepted. -/
def readText (bytes : Bytes) : Reader String :=
  match Utf8.decode bytes with
  | some chars => pure (String.ofList chars)
  | none => failure

def readString : Reader String := readNumber 8 >>= take >>= readText

def readVec {Value : Type} (reader : Reader Value) : Reader (List Value) :=
  readNumber 8 >>= many reader

/-- The byte in front of an optional value is 0 or 1. -/
def readOption {Value : Type} (reader : Reader Value) : Reader (Option Value) := do
  match ← next with
  | 0 => return none
  | 1 => return some (← reader)
  | _ => failure

/-- The number of the variant decides which fields follow. -/
def readFields : Nat → Reader Message
  | 0 => return .connect (← readU32) (← readString) (← readU16)
  | 1 => return .data (← readU32) (← readVec next)
  | 2 => return .close (← readU32)
  | 3 => return .ping
  | 4 => return .pong
  | 5 => return .error (← readOption readU32) (← readString)
  | 6 => return .reset
  | 7 => return .exec (← readU32) (← readOption readString) (← readU16) (← readU16) (← readString)
  | 8 => return .resize (← readU32) (← readU16) (← readU16)
  | 9 => return .exitStatus (← readU32) (← readI32)
  | 10 => return .pull (← readU32) (← readVec readString) (← readI32)
  | 11 => return .push (← readU32) (← readString)
  | 12 => return .abort (← readU32)
  | _ => failure

def readMessage : Reader Message := readNumber 4 >>= readFields

/-- `from_bytes` takes a message and ignores what follows it. -/
def fromBytes (bytes : Bytes) : Option Message := (readMessage bytes).map Prod.fst

/-- An allocation has at most `isize::MAX` bytes. -/
def Allocated (size : Nat) : Prop := size < 2 ^ 63

instance (size : Nat) : Decidable (Allocated size) := inferInstanceAs (Decidable (size < 2 ^ 63))

def AllocatedText (text : String) : Prop := Allocated text.toUTF8.data.toList.length

instance (text : String) : Decidable (AllocatedText text) := inferInstanceAs (Decidable (Allocated _))

/-- A message of the program holds allocated texts and sequences. -/
def AllocatedMessage : Message → Prop
  | .connect _ host _ => AllocatedText host
  | .data _ data => Allocated data.length
  | .error _ message => AllocatedText message
  | .exec _ cmd _ _ term => (∀ text ∈ cmd, AllocatedText text) ∧ AllocatedText term
  | .pull _ paths _ => Allocated paths.length ∧ ∀ path ∈ paths, AllocatedText path
  | .push _ path => AllocatedText path
  | .close _ | .ping | .pong | .reset | .resize .. | .exitStatus .. | .abort _ => True

/-- The bytes of a number that fits tell it. -/
theorem little_leBytes {size value : Nat} (fits : value < 256 ^ size) :
    little (leBytes size value) = value := by
  induction size generalizing value with
  | zero =>
      rw [Nat.pow_zero] at fits
      exact (Nat.lt_one_iff.mp fits).symm
  | succ size ih =>
      rw [Nat.pow_succ'] at fits
      rw [leBytes, little, ih (Nat.div_lt_of_lt_mul fits), UInt8.toNat_ofNat']
      exact Nat.mod_add_div value 256

section Fields

theorem takes_number (size : Nat) {value : Nat} (fits : value < 256 ^ size) :
    Takes (readNumber size) value (leBytes size value) := by
  have taken := (Takes.take (leBytes size value)).map little
  rw [leBytes_length, little_leBytes fits] at taken
  exact taken

theorem takes_u16 (value : UInt16) : Takes readU16 value (u16 value) := by
  have taken := (takes_number 2 value.toNat_lt).map UInt16.ofNat
  rw [UInt16.ofNat_toNat] at taken
  exact taken

theorem takes_u32 (value : UInt32) : Takes readU32 value (u32 value) := by
  have taken := (takes_number 4 value.toNat_lt).map UInt32.ofNat
  rw [UInt32.ofNat_toNat] at taken
  exact taken

theorem takes_i32 (value : Int32) : Takes readI32 value (i32 value) :=
  (takes_u32 value.toUInt32).map UInt32.toInt32

theorem takes_length {count : Nat} (allocated : Allocated count) :
    Takes (readNumber 8) count (length count) :=
  takes_number 8 (Nat.lt_trans allocated (by decide))

theorem takes_text (text : String) : Takes (readText text.toUTF8.data.toList) text [] := by
  have decoded := Utf8.decode_eq_some_iff.mpr (Utf8.toUTF8_eq text)
  rw [readText, decoded]
  dsimp only
  rw [String.ofList_toList]
  exact .pure text

theorem takes_string {text : String} (allocated : AllocatedText text) :
    Takes readString text (string text) := by
  have bytes := (takes_length allocated).bind (.take text.toUTF8.data.toList)
  have taken := bytes.bind (takes_text text)
  rw [List.append_nil] at taken
  exact taken

theorem takes_vec {Value : Type} {reader : Reader Value} {encode : Value → Bytes}
    {values : List Value} (allocated : Allocated values.length)
    (each : ∀ value ∈ values, Takes reader value (encode value)) :
    Takes (readVec reader) values (vec encode values) :=
  (takes_length allocated).bind (.many each)

theorem takes_option {Value : Type} {reader : Reader Value} {encode : Value → Bytes}
    (value : Option Value) (each : ∀ inner ∈ value, Takes reader inner (encode inner)) :
    Takes (readOption reader) value (option encode value) := by
  cases value with
  | none => exact (Takes.next (0 : UInt8)).bind (.pure none)
  | some inner =>
      have present := (each inner rfl).map some
      exact (Takes.next (1 : UInt8)).bind present

theorem takes_variant {index : Nat} {message : Message} {fields : Bytes} (small : index < 256 ^ 4)
    (taken : Takes (readFields index) message fields) :
    Takes readMessage message (variant index ++ fields) := (takes_number 4 small).bind taken

end Fields

/-- The reader takes every message from its own bytes. -/
theorem takes_message {message : Message} (allocated : AllocatedMessage message) :
    Takes readMessage message (toBytes message) := by
  cases message with
  | connect connId host port =>
      exact takes_variant (by decide)
        ((takes_u32 connId).bind ((takes_string allocated).bind ((takes_u16 port).bind (.pure _))))
  | data connId data =>
      have bytes := takes_vec allocated fun byte _ => Takes.next byte
      exact takes_variant (by decide) ((takes_u32 connId).bind (bytes.bind (.pure _)))
  | close connId => exact takes_variant (by decide) ((takes_u32 connId).bind (.pure _))
  | ping => exact takes_variant (by decide) (.pure _)
  | pong => exact takes_variant (by decide) (.pure _)
  | error connId message =>
      have owner := takes_option connId fun id _ => takes_u32 id
      exact takes_variant (by decide) (owner.bind ((takes_string allocated).bind (.pure _)))
  | reset => exact takes_variant (by decide) (.pure _)
  | exec connId cmd cols rows term =>
      have command := takes_option cmd fun text member =>
        takes_string (allocated.1 text member)
      exact takes_variant (by decide)
        ((takes_u32 connId).bind (command.bind ((takes_u16 cols).bind ((takes_u16 rows).bind
          ((takes_string allocated.2).bind (.pure _))))))
  | resize connId cols rows =>
      exact takes_variant (by decide)
        ((takes_u32 connId).bind ((takes_u16 cols).bind ((takes_u16 rows).bind (.pure _))))
  | exitStatus connId code =>
      exact takes_variant (by decide) ((takes_u32 connId).bind ((takes_i32 code).bind (.pure _)))
  | pull connId paths level =>
      have texts := takes_vec allocated.1 fun path member => takes_string (allocated.2 path member)
      exact takes_variant (by decide)
        ((takes_u32 connId).bind (texts.bind ((takes_i32 level).bind (.pure _))))
  | push connId path =>
      exact takes_variant (by decide)
        ((takes_u32 connId).bind ((takes_string allocated).bind (.pure _)))
  | abort connId => exact takes_variant (by decide) ((takes_u32 connId).bind (.pure _))

/-- A message is read back from its bytes, whatever follows them. A front of them is an error, and
it is not the encoding of another message. -/
theorem message_round_trip {message : Message} (allocated : AllocatedMessage message) :
    (∀ rest, fromBytes (toBytes message ++ rest) = some message) ∧
      (∀ front, front <+: toBytes message → front ≠ toBytes message → fromBytes front = none) ∧
      ∀ other, AllocatedMessage other → toBytes other <+: toBytes message → other = message := by
  have taken := takes_message allocated
  refine ⟨fun rest => ?_, fun front short torn => ?_, fun other allocated' short => ?_⟩
  · rw [fromBytes, taken.whole]
    rfl
  · rw [fromBytes, taken.torn front short torn]
    rfl
  · exact ((takes_message allocated').unique taken short).1

/-- A request for one path, and a reply of the other party behind it. -/
theorem pull_round_trip :
    toBytes (.pull 1 ["a"] (-1)) =
        [10, 0, 0, 0, 1, 0, 0, 0, 1, 0, 0, 0, 0, 0, 0, 0, 1, 0, 0, 0, 0, 0, 0, 0, 97,
          255, 255, 255, 255] ∧
      fromBytes (toBytes (.pull 1 ["a"] (-1)) ++ [0]) = some (.pull 1 ["a"] (-1)) ∧
      fromBytes ((toBytes (.pull 1 ["a"] (-1))).take 24) = none := by
  have allocated : AllocatedMessage (.pull 1 ["a"] (-1)) :=
    ⟨by decide +kernel, List.forall_mem_singleton.mpr (by decide +kernel)⟩
  obtain ⟨whole, torn, -⟩ := message_round_trip allocated
  exact ⟨by decide +kernel, whole [0], torn _ (List.take_prefix _ _) (by decide +kernel)⟩

end Tunnix.Wire
