import Tunnix.Library.Utf8

namespace Utf8

/-- A text is a reading of some bytes if it arises when they are decoded chunk by chunk. A chunk may
end inside of a character, which both parts then replace. -/
def Reading (bytes : List UInt8) (text : List Char) : Prop :=
  ∃ chunks : List (List UInt8), chunks.flatten = bytes ∧ chunks.flatMap lossy = text

/-- One chunk reads everything at once. -/
theorem Reading.lossy (bytes : List UInt8) : Reading bytes (lossy bytes) :=
  ⟨[bytes], List.append_nil _, List.append_nil _⟩

/-- This output has a character, or it leaves one incomplete. -/
def Output.Progress (output : Output) : Prop :=
  output.chars ≠ [] ∨ ∃ pending, output.state = .inside pending

theorem Output.Progress.dite {condition : Prop} [Decidable condition]
    {first : condition → Output} {second : ¬ condition → Output}
    (holds : ∀ met, (first met).Progress) (fails : ∀ missed, (second missed).Progress) :
    (if met : condition then first met else second met).Progress := by
  split
  · exact holds _
  · exact fails _

theorem lead_progress (byte : UInt8) : (lead byte).Progress := by
  have incomplete {pending : Pending} : (⟨[], false, .inside pending⟩ : Output).Progress :=
    .inr ⟨pending, rfl⟩
  unfold lead
  refine .dite (fun _ => .inl (List.cons_ne_nil _ _)) fun _ => ?_
  refine .dite (fun _ => incomplete) fun _ => ?_
  refine .dite (fun _ => incomplete) fun _ => ?_
  refine .dite (fun _ => incomplete) fun _ => ?_
  refine .dite (fun _ => incomplete) fun _ => ?_
  refine .dite (fun _ => incomplete) fun _ => ?_
  refine .dite (fun _ => incomplete) fun _ => ?_
  exact .dite (fun _ => incomplete) fun _ => .inl (List.cons_ne_nil _ _)

/-- A byte completes a character, or it leaves one incomplete. -/
theorem step_progress (state : State) (byte : UInt8) : (step state byte).Progress := by
  cases state with
  | between => exact lead_progress byte
  | inside pending =>
      rw [step]
      split
      · split
        · exact .inl (List.cons_ne_nil _ _)
        · exact .inr ⟨_, rfl⟩
      · exact .inl (List.cons_ne_nil _ _)

/-- An incomplete character is not lost. -/
theorem lossyFrom_inside (pending : Pending) (bytes : List UInt8) :
    lossyFrom (.inside pending) bytes ≠ [] := by
  induction bytes generalizing pending with
  | nil => exact List.cons_ne_nil _ _
  | cons byte rest ih =>
      rw [lossyFrom_cons]
      rcases step_progress (.inside pending) byte with some_ | ⟨next, inside⟩
      · exact List.append_ne_nil_of_left_ne_nil some_ _
      · rw [inside]
        exact List.append_ne_nil_of_right_ne_nil _ (ih next)

/-- No byte is lost. -/
theorem lossy_ne_nil {bytes : List UInt8} (some_ : bytes ≠ []) : lossy bytes ≠ [] := by
  cases bytes with
  | nil => exact absurd rfl some_
  | cons byte rest =>
      unfold lossy
      rw [lossyFrom_cons]
      rcases step_progress .between byte with chars | ⟨next, inside⟩
      · exact List.append_ne_nil_of_left_ne_nil chars _
      · rw [inside]
        exact List.append_ne_nil_of_right_ne_nil _ (lossyFrom_inside next rest)

namespace Reading
variable {bytes : List UInt8} {text : List Char}

/-- Only the empty text reads no bytes. -/
theorem nil_iff (reading : Reading bytes text) : text = [] ↔ bytes = [] := by
  obtain ⟨chunks, rfl, rfl⟩ := reading
  rw [List.flatMap_eq_nil_iff, List.flatten_eq_nil_iff]
  constructor
  · intro empty chunk member
    by_contra some_
    exact lossy_ne_nil some_ (empty chunk member)
  · intro empty chunk member
    rw [empty chunk member]
    rfl

/-- A reading splits at every byte below 128. -/
theorem split (byte : UInt8) (small : byte < 0x80) {before after : List UInt8}
    (reading : Reading (before ++ byte :: after) text) : ∃ first second,
      text = first ++ ascii byte :: second ∧ Reading before first ∧ Reading after second := by
  obtain ⟨chunks, same, rfl⟩ := reading
  induction chunks generalizing before with
  | nil => exact absurd same.symm (List.append_ne_nil_of_right_ne_nil _ (List.cons_ne_nil _ _))
  | cons chunk rest ih =>
      rw [List.flatten_cons] at same
      rw [List.flatMap_cons]
      rcases List.append_eq_append_iff.mp same with ⟨remains, rfl, later⟩ | ⟨part, rfl, here⟩
      · obtain ⟨first, second, text, ⟨earlier, rfl, rfl⟩, reads⟩ := ih later
        refine ⟨Utf8.lossy chunk ++ earlier.flatMap Utf8.lossy, second, ?_,
          ⟨chunk :: earlier, rfl, rfl⟩, reads⟩
        rw [text, List.append_assoc]
      · cases part with
        | nil =>
            rw [List.append_nil] at *
            have later : rest.flatten = [] ++ byte :: after := here.symm
            obtain ⟨first, second, text, reads, follows⟩ := ih later
            have none : first = [] := reads.nil_iff.mpr rfl
            refine ⟨Utf8.lossy before, second, ?_, .lossy before, follows⟩
            rw [text, none]
            rfl
        | cons head part =>
            rw [List.cons_append, List.cons.injEq] at here
            obtain ⟨rfl, rfl⟩ := here
            refine ⟨Utf8.lossy before, Utf8.lossy part ++ rest.flatMap Utf8.lossy, ?_,
              .lossy before, ⟨part :: rest, rfl, rfl⟩⟩
            unfold Utf8.lossy
            rw [lossyFrom_append_ascii small, List.append_assoc]
            rfl

/-- A character below 128 is read from its own byte. -/
theorem mem (reading : Reading bytes text) (byte : UInt8) (small : byte < 0x80) (some_ : byte ≠ 0)
    (member : ascii byte ∈ text) : byte ∈ bytes := by
  obtain ⟨chunks, rfl, rfl⟩ := reading
  obtain ⟨chunk, present, member⟩ := List.mem_flatMap.mp member
  have below : (ascii byte).toNat < 0x80 := by
    rw [toNat_ascii]
    exact UInt8.lt_iff_toNat_lt.mp small
  have positive : (ascii byte).toNat ≠ 0 := by
    rw [toNat_ascii]
    exact fun zero => some_ (UInt8.toNat_inj.mp zero)
  obtain ⟨source, inside, same⟩ := mem_lossyFrom member below positive
  rw [ascii_injective same]
  exact List.mem_flatten.mpr ⟨chunk, present, inside⟩

/-- Every character below 128 splits the bytes at its own byte. -/
theorem unsplit (byte : UInt8) (small : byte < 0x80) (some_ : byte ≠ 0)
    {first second : List Char} (reading : Reading bytes (first ++ ascii byte :: second)) :
    ∃ before after, bytes = before ++ byte :: after ∧ Reading before first ∧
      Reading after second := by
  induction length : bytes.length using Nat.strongRecOn generalizing bytes first with
  | _ count ih =>
      have member : byte ∈ bytes := reading.mem byte small some_ (by simp)
      obtain ⟨before, after, rfl, absent⟩ := List.eq_append_cons_of_mem member
      obtain ⟨head, tail, same, reads, follows⟩ := reading.split byte small
      have clean : ascii byte ∉ head := fun inside => absent (reads.mem byte small some_ inside)
      rcases List.append_eq_append_iff.mp same with ⟨more, rfl, rest⟩ | ⟨more, rfl, rest⟩
      · cases more with
        | nil =>
            rw [List.nil_append, List.cons.injEq] at rest
            rw [List.append_nil] at reads
            obtain ⟨-, rfl⟩ := rest
            exact ⟨before, after, rfl, reads, follows⟩
        | cons char more =>
            rw [List.cons_append, List.cons.injEq] at rest
            exact absurd (by simp [rest.1]) clean
      · cases more with
        | nil =>
            rw [List.nil_append, List.cons.injEq] at rest
            obtain ⟨-, rfl⟩ := rest
            refine ⟨before, after, rfl, ?_, follows⟩
            rw [List.append_nil]
            exact reads
        | cons char more =>
            rw [List.cons_append, List.cons.injEq] at rest
            obtain ⟨rfl, rfl⟩ := rest
            have shorter : after.length < count := by
              rw [← length, List.length_append, List.length_cons]
              omega
            obtain ⟨middle, last, rfl, reads', follows'⟩ := ih _ shorter follows rfl
            refine ⟨before ++ byte :: middle, last, by simp, ?_, follows'⟩
            obtain ⟨chunks, rfl, rfl⟩ := reads
            obtain ⟨later, rfl, rfl⟩ := reads'
            refine ⟨chunks ++ [byte] :: later, by simp, ?_⟩
            have alone : Utf8.lossy [byte] = [ascii byte] := lossy_ascii (by simpa using small)
            rw [List.flatMap_append, List.flatMap_cons, alone]
            rfl

/-- Bytes below 128 are read one by one. -/
theorem of_ascii (reading : Reading bytes text) (small : ∀ byte ∈ bytes, byte < 0x80) :
    text = bytes.map ascii := by
  obtain ⟨chunks, rfl, rfl⟩ := reading
  rw [List.map_flatten, List.flatMap_def]
  congr 1
  apply List.map_congr_left
  intro chunk member
  exact lossy_ascii fun byte inside => small byte (List.mem_flatten.mpr ⟨chunk, member, inside⟩)

/-- A reading without replacements cuts no character. -/
theorem of_whole (reading : Reading bytes text) (whole : replacement ∉ text) :
    text = Utf8.lossy bytes := by
  obtain ⟨chunks, rfl, rfl⟩ := reading
  induction chunks with
  | nil => rfl
  | cons chunk rest ih =>
      rw [List.flatMap_cons, List.mem_append, not_or] at whole
      rw [List.flatMap_cons, List.flatten_cons, ih whole.2]
      exact (lossyFrom_append whole.1 _).symm

/-- More chunks read more bytes. -/
theorem append (reading : Reading bytes text) (chunk : List UInt8) :
    Reading (bytes ++ chunk) (text ++ Utf8.lossy chunk) := by
  obtain ⟨chunks, rfl, rfl⟩ := reading
  refine ⟨chunks ++ [chunk], ?_, ?_⟩
  · simp
  · simp

end Reading

end Utf8
