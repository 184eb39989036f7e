import Mathlib.Data.List.Basic

namespace Framing
variable {Symbol : Type*} [DecidableEq Symbol] (mark : Symbol)

/-- A stream is cut at the first two marks in a row. -/
def cut : List Symbol → Option (List Symbol × List Symbol)
  | [] | [_] => none
  | first :: second :: rest =>
      if first = mark ∧ second = mark then some ([], rest)
      else (cut (second :: rest)).map fun parts => (first :: parts.1, parts.2)

variable {mark}

/-- A cut stream consists of its two parts and the marks between them. -/
theorem cut_some {stream event rest : List Symbol} (found : cut mark stream = some (event, rest)) :
    stream = event ++ mark :: mark :: rest := by
  fun_induction cut mark stream generalizing event with
  | case1 | case2 => contradiction
  | case3 first second tail marks =>
      rw [Option.some.injEq, Prod.mk.injEq] at found
      obtain ⟨rfl, rfl⟩ := found
      rw [marks.1, marks.2]
      rfl
  | case4 first second tail other ih =>
      obtain ⟨⟨before, after⟩, earlier, same⟩ := Option.map_eq_some_iff.mp found
      rw [Prod.mk.injEq] at same
      obtain ⟨rfl, rfl⟩ := same
      rw [List.cons_append, ← ih earlier]

/-- More symbols do not move the cut. -/
theorem cut_append {stream event rest : List Symbol} (found : cut mark stream = some (event, rest))
    (more : List Symbol) : cut mark (stream ++ more) = some (event, rest ++ more) := by
  fun_induction cut mark stream generalizing event with
  | case1 | case2 => contradiction
  | case3 first second tail marks =>
      rw [Option.some.injEq, Prod.mk.injEq] at found
      obtain ⟨rfl, rfl⟩ := found
      rw [List.cons_append, List.cons_append, cut, if_pos marks]
  | case4 first second tail other ih =>
      obtain ⟨⟨before, after⟩, earlier, same⟩ := Option.map_eq_some_iff.mp found
      rw [Prod.mk.injEq] at same
      obtain ⟨rfl, rfl⟩ := same
      have later := ih earlier
      rw [List.cons_append] at later
      rw [List.cons_append, List.cons_append, cut, if_neg other, later]
      rfl

/-- A part of a stream without a cut has none. -/
theorem cut_prefix {stream more : List Symbol} (none_ : cut mark (stream ++ more) = none) :
    cut mark stream = none := by
  cases found : cut mark stream with
  | none => rfl
  | some parts =>
      rw [cut_append found] at none_
      cases none_

/-- Two marks in a row cut every stream. -/
theorem cut_marks (before after : List Symbol) :
    cut mark (before ++ mark :: mark :: after) ≠ none := by
  induction before with
  | nil => simp [cut]
  | cons first rest ih =>
      cases rest with
      | nil =>
          rw [List.cons_append, List.nil_append, cut]
          split
          · nofun
          · simp [cut]
      | cons second rest =>
          rw [List.cons_append, List.cons_append, cut]
          split
          · nofun
          · intro none_
            exact ih (Option.map_eq_none_iff.mp none_)

variable (mark)

/-- An event is whole if the two marks that end it are the first two in a row. -/
def Whole (event : List Symbol) : Prop := cut mark (event ++ [mark]) = none

instance (event : List Symbol) : Decidable (Whole mark event) := inferInstanceAs (Decidable (_ = _))

/-- An event is sent with two marks behind it. -/
def frame (event : List Symbol) : List Symbol := event ++ [mark, mark]

variable {mark}

/-- The next event is cut off together with its marks. -/
theorem cut_frame {event : List Symbol} (whole : Whole mark event) (rest : List Symbol) :
    cut mark (frame mark event ++ rest) = some (event, rest) := by
  unfold Whole at whole
  rw [frame, List.append_assoc]
  change cut mark (event ++ mark :: mark :: rest) = _
  induction event with
  | nil => simp [cut]
  | cons first tail ih =>
      cases tail with
      | nil =>
          have other : ¬ (first = mark ∧ mark = mark) := by
            intro marks
            rw [List.cons_append, List.nil_append, cut, if_pos marks] at whole
            cases whole
          rw [List.cons_append, List.nil_append, cut, if_neg other]
          simp [cut]
      | cons second tail =>
          rw [List.cons_append, List.cons_append, cut] at whole ⊢
          split at whole
          · cases whole
          · next other =>
              have later := ih (Option.map_eq_none_iff.mp whole)
              rw [if_neg other]
              rw [List.cons_append] at later
              rw [later]
              rfl

/-- What comes before the second mark of a frame is not cut. -/
theorem cut_partial {event tail : List Symbol} (whole : Whole mark event)
    (part : tail <+: frame mark event) (incomplete : tail ≠ frame mark event) :
    cut mark tail = none := by
  have shorter : tail <+: event ++ [mark] := by
    have split : frame mark event = (event ++ [mark]) ++ [mark] := by simp [frame]
    rw [split] at part incomplete
    exact (List.prefix_concat_iff.mp part).resolve_left incomplete
  obtain ⟨more, same⟩ := shorter
  unfold Whole at whole
  rw [← same] at whole
  exact cut_prefix whole

/-- An event without a mark is whole. -/
theorem whole_of_not_mem {event : List Symbol} (absent : mark ∉ event) : Whole mark event := by
  induction event with
  | nil => rfl
  | cons first rest ih =>
      rw [List.mem_cons, not_or] at absent
      have later : cut mark (rest ++ [mark]) = none := ih absent.2
      have other (second : Symbol) : ¬ (first = mark ∧ second = mark) :=
        fun marks => absent.1 marks.1.symm
      unfold Whole
      cases rest with
      | nil => rw [List.cons_append, List.nil_append, cut, if_neg (other mark), cut, Option.map_none]
      | cons second rest =>
          rw [List.cons_append] at later
          rw [List.cons_append, List.cons_append, cut, if_neg (other second), later, Option.map_none]

/-- A remaining stream is shorter than the one that it was cut from. -/
theorem cut_shorter {stream event rest : List Symbol}
    (found : cut mark stream = some (event, rest)) : rest.length < stream.length := by
  rw [cut_some found, List.length_append, List.length_cons, List.length_cons]
  omega

variable (mark)

/-- A stream is cut as often as possible, and its last part stays. -/
def drain (stream : List Symbol) : List (List Symbol) × List Symbol :=
  match found : cut mark stream with
  | none => ([], stream)
  | some (event, rest) =>
      have := cut_shorter found
      (event :: (drain rest).1, (drain rest).2)
termination_by stream.length

variable {mark}

theorem drain_none {stream : List Symbol} (uncut : cut mark stream = none) :
    drain mark stream = ([], stream) := by
  rw [drain]
  split
  · rfl
  · next found =>
      rw [uncut] at found
      cases found

theorem drain_some {stream event rest : List Symbol}
    (found : cut mark stream = some (event, rest)) :
    drain mark stream = (event :: (drain mark rest).1, (drain mark rest).2) := by
  rw [drain]
  split
  · next uncut =>
      rw [uncut] at found
      cases found
  · next same =>
      rw [same, Option.some.injEq, Prod.mk.injEq] at found
      obtain ⟨rfl, rfl⟩ := found
      rfl

/-- A stream is drained alike in one piece and in two. -/
theorem drain_append (stream more : List Symbol) :
    drain mark (stream ++ more) =
      ((drain mark stream).1 ++ (drain mark ((drain mark stream).2 ++ more)).1,
        (drain mark ((drain mark stream).2 ++ more)).2) := by
  fun_induction drain mark stream with
  | case1 stream uncut => rfl
  | case2 stream event rest found shorter ih =>
      rw [drain_some (cut_append found more), ih]
      rfl

end Framing
