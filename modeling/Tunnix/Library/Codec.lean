import Mathlib.Data.List.Basic

namespace Codec

/-- A reader takes a value from the front of a stream, or it fails. -/
abbrev Reader (Symbol Value : Type) := StateT (List Symbol) Option Value

/-- A reader takes one symbol. -/
def next {Symbol : Type} : Reader Symbol Symbol
  | [] => none
  | symbol :: rest => some (symbol, rest)

/-- A reader takes a number of symbols at once. -/
def take {Symbol : Type} (count : Nat) : Reader Symbol (List Symbol) := fun stream =>
  if count ≤ stream.length then some (stream.take count, stream.drop count) else none

/-- A reader takes a number of values one after the other. -/
def many {Symbol Value : Type} (reader : Reader Symbol Value) : Nat → Reader Symbol (List Value)
  | 0 => pure []
  | count + 1 => do return (← reader) :: (← many reader count)

/-- A little-endian number begins with its lowest byte. -/
def little : List UInt8 → Nat
  | [] => 0
  | byte :: rest => byte.toNat + 256 * little rest

/-- A reader takes exactly these symbols for a value, and fails when some of them are missing. -/
structure Takes {Symbol Value : Type} (reader : Reader Symbol Value) (value : Value)
    (symbols : List Symbol) : Prop where
  whole : ∀ rest, reader (symbols ++ rest) = some (value, rest)
  torn : ∀ front, front <+: symbols → front ≠ symbols → reader front = none

namespace Takes
variable {Symbol Value Result : Type} {reader : Reader Symbol Value} {value : Value}
  {symbols : List Symbol}

theorem pure (value : Value) : Takes (Pure.pure value : Reader Symbol Value) value [] where
  whole _ := rfl
  torn _ short torn := absurd (List.prefix_nil.mp short) torn

/-- Two readers in a row take the symbols of both values. A torn stream is torn in the first value
or in the second one. -/
theorem bind {next : Value → Reader Symbol Result} {result : Result} {symbols' : List Symbol}
    (first : Takes reader value symbols) (second : Takes (next value) result symbols') :
    Takes (reader >>= next) result (symbols ++ symbols') where
  whole rest := by
    change (reader (symbols ++ symbols' ++ rest)).bind _ = _
    rw [List.append_assoc, first.whole]
    exact second.whole rest
  torn front short torn := by
    change (reader front).bind _ = _
    by_cases longer : symbols <+: front
    · obtain ⟨more, rfl⟩ := longer
      rw [first.whole]
      refine second.torn more ((List.prefix_append_right_inj symbols).mp short) ?_
      rintro rfl
      exact torn rfl
    · have inside := (List.prefix_or_prefix_of_prefix short (List.prefix_append _ _)).resolve_right
        longer
      rw [first.torn front inside fun same => longer (same ▸ List.prefix_rfl)]
      rfl

theorem map (convert : Value → Result) (taken : Takes reader value symbols) :
    Takes (convert <$> reader) (convert value) symbols where
  whole rest := by
    change (reader (symbols ++ rest)).bind _ = _
    rw [taken.whole]
    rfl
  torn front short torn := by
    change (reader front).bind _ = _
    rw [taken.torn front short torn]
    rfl

theorem next (symbol : Symbol) : Takes next symbol [symbol] where
  whole _ := rfl
  torn front short torn := by
    rcases List.prefix_cons_iff.mp short with rfl | ⟨rest, rfl, empty⟩
    · rfl
    · rw [List.prefix_nil.mp empty] at torn
      contradiction

theorem take (symbols : List Symbol) : Takes (take symbols.length) symbols symbols where
  whole rest := by
    have enough : symbols.length ≤ (symbols ++ rest).length := by
      rw [List.length_append]
      exact Nat.le_add_right _ _
    rw [Codec.take, if_pos enough, List.take_left, List.drop_left]
  torn front short torn := by
    have shorter : ¬ symbols.length ≤ front.length := fun longer =>
      torn (short.eq_of_length_le longer)
    rw [Codec.take, if_neg shorter]

theorem many {encode : Value → List Symbol} {values : List Value}
    (each : ∀ value ∈ values, Takes reader value (encode value)) :
    Takes (many reader values.length) values (values.flatMap encode) := by
  induction values with
  | nil => exact pure []
  | cons value rest ih =>
      obtain ⟨now, later⟩ := List.forall_mem_cons.mp each
      have tail : Takes (Codec.many reader rest.length >>= fun values => Pure.pure (value :: values))
          (value :: rest) (rest.flatMap encode ++ []) := (ih later).bind (pure (value :: rest))
      rw [List.append_nil] at tail
      exact now.bind tail

/-- No encoding begins with another one. -/
theorem unique {value' : Value} {symbols' : List Symbol} (first : Takes reader value symbols)
    (second : Takes reader value' symbols') (front : symbols <+: symbols') :
    value = value' ∧ symbols = symbols' := by
  have whole := first.whole []
  rw [List.append_nil] at whole
  by_cases same : symbols = symbols'
  · have whole' := second.whole []
    rw [List.append_nil, ← same, whole] at whole'
    cases whole'
    exact ⟨rfl, same⟩
  · rw [second.torn symbols front same] at whole
    contradiction

end Takes

end Codec
