import Mathlib.Data.List.Pairwise
import Mathlib.Data.List.Range

/-!
# Numbers from a counter

A counter is raised whenever an event takes its number. Where a number is taken and then thrown away
it is raised all the same, and the numbers of the events have a gap there.
-/

namespace Async

variable {ω : Type*} (num : ω → Option ℕ)

/-- The numbers in the events. -/
def numbers (log : List ω) : List ℕ := log.filterMap num

@[simp] theorem numbers_nil : numbers num [] = [] := rfl

@[simp] theorem numbers_append (a b : List ω) :
    numbers num (a ++ b) = numbers num a ++ numbers num b := List.filterMap_append

/-- The events take their numbers in order from a counter that goes from `lo` to `hi`. -/
structure Draws (lo : ℕ) (log : List ω) (hi : ℕ) : Prop where
  le : lo ≤ hi
  within : ∀ n ∈ numbers num log, lo ≤ n ∧ n < hi
  increasing : (numbers num log).Pairwise (· < ·)

/-- The events take every number from `lo` up to `hi`, in order. -/
structure Counts (lo : ℕ) (log : List ω) (hi : ℕ) : Prop where
  le : lo ≤ hi
  all : numbers num log = List.range' lo (hi - lo)

variable {num} {lo mid hi : ℕ} {a b log : List ω}

namespace Draws

theorem trans (h : Draws num lo a mid) (k : Draws num mid b hi) : Draws num lo (a ++ b) hi where
  le := h.le.trans k.le
  within n hn := by
    have hle := h.le
    have hle' := k.le
    rw [numbers_append, List.mem_append] at hn
    rcases hn with hn | hn
    · have := h.within n hn
      omega
    · have := k.within n hn
      omega
  increasing := by
    rw [numbers_append, List.pairwise_append]
    refine ⟨h.increasing, k.increasing, fun m hm n hn => ?_⟩
    have := h.within m hm
    have := k.within n hn
    omega

theorem gap (hle : lo ≤ hi) (hnone : numbers num log = []) : Draws num lo log hi where
  le := hle
  within := by simp [hnone]
  increasing := by simp [hnone]

theorem refl (hnone : numbers num log = []) : Draws num lo log lo := gap (Nat.le_refl lo) hnone

theorem one (hlog : numbers num log = [lo]) : Draws num lo log (lo + 1) where
  le := Nat.le_succ lo
  within := by simp [hlog]
  increasing := by simp [hlog]

end Draws

namespace Counts

theorem trans (h : Counts num lo a mid) (k : Counts num mid b hi) : Counts num lo (a ++ b) hi where
  le := h.le.trans k.le
  all := by
    have hle := h.le
    have hle' := k.le
    have hmid : lo + (mid - lo) = mid := by omega
    have hsum : mid - lo + (hi - mid) = hi - lo := by omega
    rw [numbers_append, h.all, k.all, ← hsum, ← List.range'_append_1, hmid]

theorem refl (hnone : numbers num log = []) : Counts num lo log lo where
  le := Nat.le_refl lo
  all := by simp [hnone]

theorem one (hlog : numbers num log = [lo]) : Counts num lo log (lo + 1) where
  le := Nat.le_succ lo
  all := by simp [hlog]

end Counts

end Async
