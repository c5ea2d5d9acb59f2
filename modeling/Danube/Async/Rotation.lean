import Mathlib.Data.Int.CardIntervalMod

/-!
# Taking turns

Turn `k` goes to place `k % n`. Any `n` turns in a row visit each place once, and in any window two
places differ by at most one visit.
-/

namespace Async

/-- The places of the turns `a`, …, `a + m - 1`. -/
def turns (n a m : Nat) : List Nat := (List.range' a m).map (· % n)

theorem turns_succ (n a m : Nat) : turns n a (m + 1) = turns n a m ++ [(a + m) % n] := by
  simp [turns, List.range'_concat]

theorem turns_window (n : Nat) {a m k : Nat} (h : a + m ≤ k) :
    ((turns n 0 k).drop a).take m = turns n a m := by
  refine List.ext_getElem? fun i => ?_
  by_cases hi : i < m
  · simp [turns, List.getElem?_drop, hi, show a + i < k by omega]
  · simp [turns, hi]

theorem count_turns {n p : Nat} (hp : p < n) (a m : Nat) :
    (turns n a m).count p + a.count (· ≡ p [MOD n]) = (a + m).count (· ≡ p [MOD n]) := by
  induction m with
  | zero => simp [turns]
  | succ m ih =>
    have hmod : (a + m) % n = p ↔ a + m ≡ p [MOD n] := by
      rw [Nat.ModEq, Nat.mod_eq_of_lt hp]
    rw [turns_succ, List.count_append, List.count_singleton, ← Nat.add_assoc, Nat.count_succ, ← ih]
    by_cases h : (a + m) % n = p
    · simp [h, hmod.mp h]
      omega
    · have h' : ¬ a + m ≡ p [MOD n] := fun hc => h (hmod.mpr hc)
      simp [h, h']

theorem count_turns_eq {n p : Nat} (hp : p < n) (a m : Nat) :
    (turns n a m).count p + a / n + (if p < a % n then 1 else 0) =
      (a + m) / n + if p < (a + m) % n then 1 else 0 := by
  have hpos : 0 < n := by omega
  have h := count_turns hp a m
  rw [Nat.count_modEq_card a hpos, Nat.count_modEq_card (a + m) hpos, Nat.mod_eq_of_lt hp] at h
  omega

/-- Any `n` turns in a row visit each place once. -/
theorem count_turns_full {n p : Nat} (hp : p < n) (a : Nat) : (turns n a n).count p = 1 := by
  have h := count_turns_eq hp a n
  rw [Nat.add_div_right a (by omega), Nat.add_mod_right] at h
  omega

/-- No place is more than one visit ahead of another one. -/
theorem count_turns_le {n p q : Nat} (hp : p < n) (hq : q < n) (a m : Nat) :
    (turns n a m).count p ≤ (turns n a m).count q + 1 := by
  have hcp := count_turns_eq hp a m
  have hcq := count_turns_eq hq a m
  split at hcp <;> split at hcp <;> split at hcq <;> split at hcq <;> omega

end Async
