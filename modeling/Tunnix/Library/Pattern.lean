import Mathlib.Data.List.Infix

namespace Pattern
variable {Symbol : Type} [DecidableEq Symbol]

/-- The pattern is removed from the start of a text as long as it is there. -/
def trimFrom (pattern : List Symbol) : Nat → List Symbol → List Symbol
  | 0, text => text
  | fuel + 1, text =>
      match pattern.isPrefixOf? text with
      | some rest => trimFrom pattern fuel rest
      | none => text

/-- A text holds the pattern at most as often as its length. -/
def trimStart (pattern text : List Symbol) : List Symbol := trimFrom pattern text.length text

variable {pattern text rest : List Symbol}

theorem isPrefixOf?_none (absent : ¬ pattern <+: text) : pattern.isPrefixOf? text = none := by
  cases found : pattern.isPrefixOf? text with
  | none => rfl
  | some rest => exact absurd ⟨rest, List.isPrefixOf?_eq_some_iff_append_eq.mp found⟩ absent

/-- A rest that does not begin with the pattern is left, if the fuel reaches it. -/
theorem trimFrom_repeated (done : ¬ pattern <+: rest) {times fuel : Nat} (enough : times ≤ fuel) :
    trimFrom pattern fuel ((List.replicate times pattern).flatten ++ rest) = rest := by
  induction times generalizing fuel with
  | zero =>
      cases fuel with
      | zero => rfl
      | succ fuel => simp [trimFrom, isPrefixOf?_none done]
  | succ times ih =>
      cases fuel with
      | zero => omega
      | succ fuel =>
          have found : pattern.isPrefixOf?
              ((List.replicate (times + 1) pattern).flatten ++ rest) =
                some ((List.replicate times pattern).flatten ++ rest) := by
            simp [List.isPrefixOf?_eq_some_iff_append_eq, List.replicate_succ]
          simp only [trimFrom, found]
          exact ih (by omega)

/-- Every text repeats the pattern some times before a rest that does not begin with it. -/
theorem exists_repeated (proper : pattern ≠ []) (text : List Symbol) :
    ∃ times rest, text = (List.replicate times pattern).flatten ++ rest ∧ ¬ pattern <+: rest := by
  induction size : text.length using Nat.strong_induction_on generalizing text with
  | _ size ih =>
    by_cases begins : pattern <+: text
    · obtain ⟨rest, rfl⟩ := begins
      have positive := List.length_pos_iff.mpr proper
      rw [List.length_append] at size
      obtain ⟨times, last, same, done⟩ := ih rest.length (by omega) rest rfl
      exact ⟨times + 1, last, by simp [List.replicate_succ, ← same], done⟩
    · exact ⟨0, text, by simp, begins⟩

/-- Trimming leaves exactly the rest behind the repeated pattern. -/
theorem trimStart_eq_iff (proper : pattern ≠ []) : trimStart pattern text = rest ↔
    ¬ pattern <+: rest ∧ ∃ times, text = (List.replicate times pattern).flatten ++ rest := by
  have exactly {times : Nat} {rest : List Symbol} (done : ¬ pattern <+: rest) :
      trimStart pattern ((List.replicate times pattern).flatten ++ rest) = rest := by
    apply trimFrom_repeated done
    have positive := List.length_pos_iff.mpr proper
    have : times ≤ times * pattern.length := Nat.le_mul_of_pos_right times positive
    simp
    omega
  constructor
  · rintro rfl
    obtain ⟨times, last, rfl, done⟩ := exists_repeated proper text
    rw [exactly done]
    exact ⟨done, times, rfl⟩
  · rintro ⟨done, times, rfl⟩
    exact exactly done

end Pattern
