import Mathlib.Data.List.Induction

/-! # Setters: of the calls that set a field the last one counts -/

namespace Setters

variable {σ ι β : Type*}

/-- What the last call sets that sets the field, or `d` when there is none. -/
def lastSet (f : ι → Option β) (calls : List ι) (d : β) : β := (calls.filterMap f).getLast?.getD d

theorem lastSet_snoc (f : ι → Option β) (calls : List ι) (c : ι) (d : β) :
    lastSet f (calls ++ [c]) d = (f c).getD (lastSet f calls d) := by
  unfold lastSet
  rw [List.filterMap_append]
  cases hc : f c with
  | none => simp [hc]
  | some b => simp [hc]

theorem foldl_lastSet (apply : σ → ι → σ) (g : σ → β) (f : ι → Option β)
    (h : ∀ s c, g (apply s c) = (f c).getD (g s)) (s : σ) (calls : List ι) :
    g (calls.foldl apply s) = lastSet f calls (g s) := by
  induction calls using List.reverseRecOn with
  | nil => rfl
  | append_singleton calls c ih =>
    rw [List.foldl_append, List.foldl_cons, List.foldl_nil, h, ih, lastSet_snoc]

theorem foldl_flatMap (apply : σ → ι → σ) (g : σ → List β) (f : ι → List β)
    (h : ∀ s c, g (apply s c) = g s ++ f c) (s : σ) (calls : List ι) :
    g (calls.foldl apply s) = g s ++ calls.flatMap f := by
  induction calls using List.reverseRecOn with
  | nil => simp
  | append_singleton calls c ih =>
    rw [List.foldl_append, List.foldl_cons, List.foldl_nil, h, ih, List.flatMap_append,
      List.append_assoc]
    simp

end Setters
