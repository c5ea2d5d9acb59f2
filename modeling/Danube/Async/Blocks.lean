import Mathlib.Data.List.Basic

/-!
# Lists in blocks

A list whose entries have owners, in the order of their owners, is the entries of the first owner,
then those of the second, and so on.
-/

namespace Async

variable {α β : Type*} (owner : α → Nat)

/-- The entries of one owner. -/
def block (l : List α) (i : Nat) : List α := l.filter fun x => owner x = i

variable {owner}

theorem eq_filter_append_filter {l : List α} (h : l.Pairwise fun x y => owner x ≤ owner y)
    (n : Nat) : l = l.filter (fun x => owner x < n) ++ l.filter fun x => ¬ owner x < n := by
  induction l with
  | nil => rfl
  | cons x xs ih =>
    rw [List.pairwise_cons] at h
    by_cases hx : owner x < n
    · simp only [List.filter_cons, hx, decide_true, if_true, not_true, decide_false,
        Bool.false_eq_true, if_false, List.cons_append]
      exact congrArg _ (ih h.2)
    · have hrest : ∀ y ∈ xs, ¬ owner y < n := fun y hy hlt => hx (Nat.lt_of_le_of_lt (h.1 y hy) hlt)
      simp only [List.filter_cons, hx, decide_false, Bool.false_eq_true, if_false, not_false_eq_true,
        decide_true, if_true]
      rw [List.filter_eq_nil_iff.mpr (by simpa using hrest), List.nil_append,
        List.filter_eq_self.mpr (by simpa using hrest)]

theorem eq_flatMap_block {l : List α} (h : l.Pairwise fun x y => owner x ≤ owner y) {n : Nat}
    (hlt : ∀ x ∈ l, owner x < n) : l = (List.range n).flatMap (block owner l) := by
  induction n generalizing l with
  | zero =>
    rw [List.eq_nil_iff_forall_not_mem.mpr fun x hx => Nat.not_lt_zero _ (hlt x hx)]
    rfl
  | succ n ih =>
    have hbelow : l.filter (fun x => owner x < n) =
        (List.range n).flatMap (block owner l) := by
      rw [ih (h.filter _) fun x hx => by simpa using (List.mem_filter.mp hx).2]
      refine List.flatMap_congr fun i hi => ?_
      rw [block, block, List.filter_filter]
      refine List.filter_congr fun x _ => ?_
      have := List.mem_range.mp hi
      by_cases hx : owner x = i <;> simp [hx, this]
    have hlast : l.filter (fun x => ¬ owner x < n) = block owner l n := by
      refine List.filter_congr fun x hx => ?_
      have := hlt x hx
      simp only [decide_eq_decide]
      omega
    rw [List.range_succ, List.flatMap_append, List.flatMap_singleton, ← hbelow, ← hlast]
    exact eq_filter_append_filter h n

theorem eq_flatMap_zipIdx {l : List α} {owners : List β}
    (h : l.Pairwise fun x y => owner x ≤ owner y) (hlt : ∀ x ∈ l, owner x < owners.length) :
    l = owners.zipIdx.flatMap fun x => block owner l x.2 := by
  have hrange : List.range owners.length = owners.zipIdx.map Prod.snd := by
    rw [List.zipIdx_map_snd, List.range_eq_range']
  rw [← List.flatMap_map Prod.snd, ← hrange]
  exact eq_flatMap_block h hlt

theorem flatMap_filter {γ : Type*} (p : α → Bool) (g : α → List γ) (l : List α) :
    (l.filter p).flatMap g = l.flatMap fun x => if p x then g x else [] := by
  induction l with
  | nil => rfl
  | cons x xs ih =>
    rw [List.filter_cons, List.flatMap_cons, ← ih]
    split
    · rw [List.flatMap_cons]
    · rw [List.nil_append]

end Async
