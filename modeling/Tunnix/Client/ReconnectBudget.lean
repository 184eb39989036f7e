import Tunnix.Library.Machine
import Mathlib.Data.List.Induction
import Mathlib.Tactic.SplitIfs

namespace Tunnix.ReconnectBudget

/-- `sse_read_loop` returns `Ok`, an error, or the error text `forced reconnect`. -/
inductive Ending where
  | clean
  | error
  | forced
deriving DecidableEq, Repr

/-- One attempt records whether the stream yielded a byte and how it ended. -/
structure Attempt where
  progress : Bool
  ending : Ending
deriving DecidableEq, Repr

/-- The reconnect task keeps one counter and ends the process at most once. -/
structure Loop where
  failures : UInt32
  exited : Bool
deriving DecidableEq, Repr

def Loop.start : Loop := ⟨0, false⟩

/-- The task updates its counter and compares it with the budget after one attempt.
The counter is a `u32`; it can wrap only in a client without a budget. -/
def Loop.after (max : UInt32) (loop : Loop) (attempt : Attempt) : Loop :=
  -- The `continue` of a forced reconnect skips the reset below as well as the count.
  if attempt.ending = .forced then loop
  else
    let failures := if attempt.progress then 0 else loop.failures + 1
    ⟨failures, max ≠ 0 && decide (failures ≥ max)⟩

theorem Loop.after_failures (max : UInt32) (loop : Loop) (attempt : Attempt) :
    (loop.after max attempt).failures =
      if attempt.ending = .forced then loop.failures
      else if attempt.progress then 0 else loop.failures + 1 := by
  rw [after]
  split <;> rfl

theorem Loop.after_exited (max : UInt32) (loop : Loop) (attempt : Attempt) :
    (loop.after max attempt).exited =
      if attempt.ending = .forced then loop.exited
      else max ≠ 0 && decide ((loop.after max attempt).failures ≥ max) := by
  rw [after]
  split <;> rfl

/-- An exited process makes no further attempt. -/
def step (max : UInt32) (loop : Loop) (attempt : Attempt) : Option Loop :=
  if loop.exited then none else some (loop.after max attempt)

/-- This attempt is one of those the budget is about: unforced and without data. -/
def Attempt.counts (attempt : Attempt) : Bool :=
  !attempt.progress && attempt.ending ≠ .forced

/-- This number counts the unforced attempts without data since the last one with data. -/
def spent (attempts : List Attempt) : Nat :=
  (attempts.reverse.takeWhile (!·.progress)).countP Attempt.counts

/-- This number counts the same attempts since the last unforced one with data. -/
def standing (attempts : List Attempt) : Nat :=
  (attempts.reverse.takeWhile fun attempt =>
    !(attempt.progress && attempt.ending ≠ .forced)).countP Attempt.counts

theorem spent_append (before : List Attempt) (last : Attempt) :
    spent (before ++ [last]) =
      if last.progress then 0 else spent before + if last.ending = .forced then 0 else 1 := by
  cases progress : last.progress <;> by_cases forced : last.ending = .forced <;>
    simp [spent, Attempt.counts, progress, forced]

theorem standing_append (before : List Attempt) (last : Attempt) :
    standing (before ++ [last]) =
      if last.ending = .forced then standing before
      else if last.progress then 0 else standing before + 1 := by
  cases progress : last.progress <;> by_cases forced : last.ending = .forced <;>
    simp [standing, Attempt.counts, progress, forced]

/-- A run over one more attempt is the run before it and one step of a live client. -/
theorem run_snoc {max : UInt32} {before : List Attempt} {last : Attempt} {loop : Loop}
    (ran : Machine.run (step max) .start (before ++ [last]) = some loop) :
    ∃ previous, Machine.run (step max) .start before = some previous ∧
      previous.exited = false ∧ loop = previous.after max last := by
  obtain ⟨previous, earlier, later⟩ := Machine.run_append.mp ran
  obtain ⟨next, moved, done⟩ := Machine.run_cons.mp later
  rw [Machine.run_nil, Option.some.injEq] at done
  subst done
  cases exited : previous.exited with
  | true => simp [step, exited] at moved
  | false =>
      simp only [step, exited, Bool.false_eq_true, if_false, Option.some.injEq] at moved
      exact ⟨previous, earlier, exited, moved.symm⟩

/-- The counter holds the standing failures of the attempts so far. -/
theorem run_failures {max : UInt32} {attempts : List Attempt} {loop : Loop}
    (ran : Machine.run (step max) .start attempts = some loop) :
    loop.failures = UInt32.ofNat (standing attempts) := by
  induction attempts using List.reverseRecOn generalizing loop with
  | nil =>
      rw [Machine.run_nil, Option.some.injEq] at ran
      exact ran ▸ rfl
  | append_singleton before last ih =>
      obtain ⟨previous, earlier, -, result⟩ := run_snoc ran
      have counted := ih earlier
      rw [result, standing_append, Loop.after_failures]
      split_ifs with forced progress
      · exact counted
      · rfl
      · rw [counted, UInt32.ofNat_add]
        rfl

/-- A client with a budget stays below it until it exits at exactly the budget. -/
theorem run_budget {max : UInt32} (limited : max ≠ 0) {attempts : List Attempt} {loop : Loop}
    (ran : Machine.run (step max) .start attempts = some loop) :
    if loop.exited then standing attempts = max.toNat else standing attempts < max.toNat := by
  induction attempts using List.reverseRecOn generalizing loop with
  | nil =>
      rw [Machine.run_nil, Option.some.injEq] at ran
      subst ran
      exact Nat.pos_of_ne_zero fun zero => limited (UInt32.toNat_inj.mp zero)
  | append_singleton before last ih =>
      have counted := run_failures ran
      obtain ⟨previous, earlier, alive, result⟩ := run_snoc ran
      have below := ih earlier
      rw [alive, if_neg Bool.false_ne_true] at below
      have small : standing (before ++ [last]) < 2 ^ 32 := by
        have bound := max.toNat_lt
        rw [standing_append]
        split_ifs <;> omega
      have exact : loop.failures.toNat = standing (before ++ [last]) := by
        rw [counted, UInt32.toNat_ofNat_of_lt' small]
      rw [result, Loop.after_exited, ← result]
      rw [standing_append] at exact ⊢
      by_cases forced : last.ending = .forced
      · rw [if_pos forced, if_pos forced, alive, if_neg Bool.false_ne_true]
        exact below
      · rw [if_neg forced] at exact
        rw [if_neg forced, if_neg forced, ← exact]
        have reached : (max ≠ 0 && decide (loop.failures ≥ max)) = true ↔
            max.toNat ≤ loop.failures.toNat := by
          simp [limited, UInt32.le_iff_toNat_le]
        have above : loop.failures.toNat ≤ max.toNat := by
          rw [exact]
          split_ifs
          · exact Nat.zero_le _
          · exact below
        split_ifs with exited
        · exact Nat.le_antisymm above (reached.mp exited)
        · exact Nat.lt_of_not_le (mt reached.mpr exited)

/-- The process ends only with a budget. -/
theorem run_unlimited {attempts : List Attempt} {loop : Loop}
    (ran : Machine.run (step 0) .start attempts = some loop) : loop.exited = false := by
  induction attempts using List.reverseRecOn generalizing loop with
  | nil =>
      rw [Machine.run_nil, Option.some.injEq] at ran
      exact ran ▸ rfl
  | append_singleton before last ih =>
      obtain ⟨previous, earlier, alive, result⟩ := run_snoc ran
      rw [result, Loop.after_exited]
      split_ifs
      · exact alive
      · rfl

/-- The budget is kept when an exit spends exactly `max` attempts since the last data, the
last data-bearing attempt left the counter at zero, and no exit comes without a budget. -/
def Kept (max : UInt32) (attempts : List Attempt) : Prop :=
  ∀ loop, Machine.run (step max) .start attempts = some loop →
    (loop.exited = true → max ≠ 0 ∧ spent attempts = max.toNat) ∧
    (∀ before last, attempts = before ++ [last] → last.progress = true → loop.failures = 0) ∧
    (max = 0 → loop.exited = false)

/-- No forced reconnect ends a stream with data while unforced failures stand on the counter. -/
def NoForcedResetLost (attempts : List Attempt) : Prop :=
  ∀ before last after, attempts = before ++ last :: after → last.progress = true →
    last.ending = .forced → UInt32.ofNat (standing before) = 0

theorem NoForcedResetLost.of_prefix {first attempts : List Attempt}
    (leading : first <+: attempts) (kept : NoForcedResetLost attempts) :
    NoForcedResetLost first := by
  obtain ⟨rest, rfl⟩ := leading
  intro before last after split progress forced
  exact kept before last (after ++ rest) (by rw [split]; simp) progress forced

/-- Without a lost reset the counter holds what the budget is about. -/
theorem standing_eq_spent {max : UInt32} (limited : max ≠ 0) {attempts : List Attempt}
    {loop : Loop} (ran : Machine.run (step max) .start attempts = some loop)
    (kept : NoForcedResetLost attempts) : standing attempts = spent attempts := by
  induction attempts using List.reverseRecOn generalizing loop with
  | nil => rfl
  | append_singleton before last ih =>
      obtain ⟨previous, earlier, alive, -⟩ := run_snoc ran
      have same := ih earlier (kept.of_prefix (List.prefix_append before [last]))
      have below := run_budget limited earlier
      rw [alive, if_neg Bool.false_ne_true] at below
      rw [standing_append, spent_append]
      split_ifs with forced progress progress
      · have lost := kept before last [] rfl progress forced
        have bound := max.toNat_lt
        have value := congrArg UInt32.toNat lost
        rw [UInt32.toNat_ofNat_of_lt' (Nat.lt_trans below bound)] at value
        exact value
      · rw [same, Nat.add_zero]
      · rfl
      · rw [same]

/-- The reconnect budget is kept on every part of a history exactly when no forced reconnect
ends a data-bearing stream while failures stand on the counter. -/
theorem budget_kept_iff {max : UInt32} {attempts : List Attempt} {loop : Loop}
    (ran : Machine.run (step max) .start attempts = some loop) :
    (∀ first, first <+: attempts → Kept max first) ↔ NoForcedResetLost attempts := by
  constructor
  · intro kept before last after split progress forced
    rw [show before ++ last :: after = (before ++ [last]) ++ after by simp] at split
    obtain ⟨middle, earlier, -⟩ := Machine.run_append.mp (split ▸ ran)
    have reset := (kept (before ++ [last]) ⟨after, split.symm⟩ middle earlier).2.1
      before last rfl progress
    rw [run_failures earlier, standing_append, if_pos forced] at reset
    exact reset
  · intro kept first leading loop ran
    have here := kept.of_prefix leading
    refine ⟨?_, ?_, ?_⟩
    · intro exited
      have limited : max ≠ 0 := by
        rintro rfl
        rw [run_unlimited ran] at exited
        exact Bool.false_ne_true exited
      have reached := run_budget limited ran
      rw [if_pos exited] at reached
      exact ⟨limited, by rw [← standing_eq_spent limited ran here, reached]⟩
    · rintro before last rfl progress
      rw [run_failures ran, standing_append]
      split_ifs with forced
      · exact here before last [] rfl progress forced
      · rfl
    · rintro rfl
      exact run_unlimited ran

/-- Two failures around a stream with data keep the budget when no reconnect is forced. -/
theorem budget_kept_unforced : Kept 2 [⟨false, .error⟩, ⟨true, .clean⟩, ⟨false, .error⟩] := by
  have ran : Machine.run (step 2) .start
      [⟨false, .error⟩, ⟨true, .clean⟩, ⟨false, .error⟩] = some ⟨1, false⟩ := by decide
  refine (budget_kept_iff ran).mpr ?_ _ (List.prefix_refl _)
  intro before last after split progress forced
  have member : last ∈ [⟨false, .error⟩, ⟨true, .clean⟩, ⟨false, .error⟩] := split ▸ by simp
  simp only [List.mem_cons, List.not_mem_nil, or_false] at member
  rcases member with rfl | rfl | rfl <;> cases forced

/-- One failure on each side of a data-bearing stream ends a client whose budget is two, since
a forced reconnect ended that stream. -/
theorem forced_reconnect_keeps_failures :
    ¬ Kept 2 [⟨false, .error⟩, ⟨true, .forced⟩, ⟨false, .error⟩] := by
  intro kept
  have exit := (kept ⟨2, true⟩ (by decide)).1 rfl
  exact absurd exit.2 (by decide)

end Tunnix.ReconnectBudget
