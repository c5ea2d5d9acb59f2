import Danube.Async.Coroutine

/-!
# Pieces made of actions

What a coroutine does between two suspension points is a sequence of actions. What every action keeps,
and what carries over from one to the next, holds of every piece.
-/

namespace Async

variable {σ ω : Type*}

/-- A sequence of actions, with the events of all of them in a row. -/
inductive Acts (act : σ → List ω → σ → Prop) : σ → List ω → σ → Prop
  | nil (s : σ) : Acts act s [] s
  | cons {s t u : σ} {a b : List ω} (h : act s a t) (rest : Acts act t b u) : Acts act s (a ++ b) u

namespace Acts

variable {act : σ → List ω → σ → Prop} {s t u : σ} {a b : List ω}

theorem single (h : act s a t) : Acts act s a t := by
  have h' := Acts.cons h (.nil t)
  rwa [List.append_nil] at h'

theorem trans (h : Acts act s a t) (k : Acts act t b u) : Acts act s (a ++ b) u := by
  induction h with
  | nil s => exact k
  | cons hact _ ih =>
    rw [List.append_assoc]
    exact .cons hact (ih k)

theorem spec {J : σ → List ω → σ → Prop} (hnil : ∀ s, J s [] s)
    (hact : ∀ s a t, act s a t → J s a t)
    (htrans : ∀ s a t b u, J s a t → J t b u → J s (a ++ b) u) (h : Acts act s a t) : J s a t := by
  induction h with
  | nil s => exact hnil s
  | cons h _ ih => exact htrans _ _ _ _ _ (hact _ _ _ h) ih

theorem invariant {P : σ → Prop} (hact : ∀ s a t, P s → act s a t → P t) (h : Acts act s a t)
    (hs : P s) : P t := by
  induction h with
  | nil s => exact hs
  | cons h _ ih => exact ih (hact _ _ _ hs h)

end Acts

end Async
