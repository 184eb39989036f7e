import Mathlib.Algebra.Order.Monoid.Defs
import Mathlib.Algebra.Order.Monoid.Unbundled.Pow
import Mathlib.Data.List.Chain

/-- An attempt ends at some moment, with or without success. -/
structure Attempt (Time : Type*) where
  ok : Bool
  ends : Time
deriving DecidableEq, Repr

namespace Pacing
variable {Time : Type*} (attempt : Time → Attempt Time) (pause : Time → Time → Time)

/-- A loop makes attempts until one succeeds, and it pauses between two of them. -/
def retry : Nat → Time → Attempt Time
  | 0, now => ⟨false, now⟩
  | 1, now => attempt now
  | left + 2, now =>
      let made := attempt now
      if made.ok then made else retry (left + 1) (pause now made.ends)

/-- The attempts begin at these moments as long as none succeeds. -/
def begins : Nat → Time → List Time
  | 0, _ => []
  | left + 1, now => now :: begins left (pause now (attempt now).ends)

variable {attempt pause} {attempts left : Nat} {now moment : Time}

/-- A loop succeeds exactly if one of its attempts would. -/
theorem retry_ok_iff : (retry attempt pause attempts now).ok = true ↔
    ∃ moment ∈ begins attempt pause attempts now, (attempt moment).ok = true := by
  induction attempts generalizing now with
  | zero => simp [retry, begins]
  | succ left ih =>
      cases left with
      | zero => simp [retry, begins]
      | succ left =>
          rw [retry, begins]
          simp only [List.exists_mem_cons_iff]
          cases made : (attempt now).ok with
          | true => simp [made]
          | false => simp [ih]

/-- A loop ends with the attempt that succeeds, or with its last one. -/
theorem retry_eq (attempt : Time → Attempt Time) (pause : Time → Time → Time) (now : Time)
    (positive : 0 < attempts) :
    ∃ moment ∈ begins attempt pause attempts now,
      retry attempt pause attempts now = attempt moment ∧
      ((attempt moment).ok = false →
        (begins attempt pause attempts now).getLast? = some moment) := by
  induction attempts generalizing now with
  | zero => cases positive
  | succ left ih =>
      cases left with
      | zero => exact ⟨now, by simp [begins], rfl, fun _ => rfl⟩
      | succ left =>
          rw [retry, begins]
          cases made : (attempt now).ok with
          | true => exact ⟨now, by simp, by simp, by simp [made]⟩
          | false =>
              obtain ⟨moment, member, same, last⟩ :=
                ih (pause now (attempt now).ends) left.succ_pos
              refine ⟨moment, List.mem_cons_of_mem _ member, by simpa using same, fun failed => ?_⟩
              simp [List.getLast?_cons, last failed]

/-- The last attempt of a loop is the last one of the loop after its first attempt. -/
theorem getLast?_begins : (begins attempt pause (left + 2) now).getLast? =
    (begins attempt pause (left + 1) (pause now (attempt now).ends)).getLast? := by
  simp [begins]

section Order
variable [AddCommMonoid Time] [LinearOrder Time] [IsOrderedAddMonoid Time]
  {interval gap opened last : Time}

/-- A loop whose attempts are spaced out makes its last attempt late. -/
theorem le_last (paced : ∀ now, now + interval ≤ pause now (attempt now).ends)
    (found : (begins attempt pause (left + 1) now).getLast? = some last) :
    now + left • interval ≤ last := by
  induction left generalizing now with
  | zero =>
      obtain rfl : now = last := by simpa [begins] using found
      simp
  | succ left ih =>
      rw [getLast?_begins] at found
      calc now + (left + 1) • interval
        _ = now + interval + left • interval := by rw [succ_nsmul', add_assoc]
        _ ≤ pause now (attempt now).ends + left • interval := by gcongr; exact paced now
        _ ≤ last := ih found

/-- A loop that makes its attempts in time does not make its last one too late. -/
theorem le_of_mem_begins (nonneg : 0 ≤ gap)
    (prompt : ∀ now, pause now (attempt now).ends ≤ now + gap)
    (member : moment ∈ begins attempt pause (left + 1) now) : moment ≤ now + left • gap := by
  induction left generalizing now with
  | zero =>
      obtain rfl : moment = now := by simpa [begins] using member
      simp
  | succ left ih =>
      rcases List.mem_cons.mp member with rfl | later
      · exact le_add_of_nonneg_right (nsmul_nonneg nonneg _)
      · calc moment
          _ ≤ pause now (attempt now).ends + left • gap := ih later
          _ ≤ now + gap + left • gap := by gcongr; exact prompt now
          _ = now + (left + 1) • gap := by rw [succ_nsmul', add_assoc]

/-- A loop that makes its attempts in time begins one soon after any moment before its last one. -/
theorem exists_begin_soon (nonneg : 0 ≤ gap)
    (prompt : ∀ now, pause now (attempt now).ends ≤ now + gap) (before : now ≤ opened)
    (found : (begins attempt pause (left + 1) now).getLast? = some last) (within : opened ≤ last) :
    ∃ moment ∈ begins attempt pause (left + 1) now, opened ≤ moment ∧ moment ≤ opened + gap := by
  induction left generalizing now with
  | zero =>
      obtain rfl : now = last := by simpa [begins] using found
      exact ⟨now, by simp [begins], within, le_add_of_le_of_nonneg before nonneg⟩
  | succ left ih =>
      rw [getLast?_begins] at found
      rcases le_or_gt (pause now (attempt now).ends) opened with early | late
      · obtain ⟨moment, member, soon⟩ := ih early found
        exact ⟨moment, List.mem_cons_of_mem _ member, soon⟩
      · refine ⟨pause now (attempt now).ends, by simp [begins], late.le, (prompt now).trans ?_⟩
        gcongr

end Order

end Pacing
