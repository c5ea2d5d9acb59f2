import Danube.Async.Coroutine
import Mathlib.Data.List.Forall2
import Mathlib.Order.Basic

/-!
# Two systems in step

Two coroutines that do the same in states that correspond. A world says what corresponds to what, and it
grows while they run: what corresponds in a world corresponds in every later one.
-/

namespace Async

/-! ## Lists whose elements correspond -/

section Lists

variable {α β : Type*} {R S : α → β → Prop} {xs : List α} {ys : List β} {x : α} {y : β}

theorem forall₂_getElem? (h : List.Forall₂ R xs ys) (i : ℕ) : Option.Rel R xs[i]? ys[i]? := by
  induction h generalizing i with
  | nil => exact .none
  | cons hab _ ih =>
    cases i with
    | zero => exact .some hab
    | succ i => exact ih i

theorem forall₂_get? (h : List.Forall₂ R xs ys) {i : ℕ} (hx : xs[i]? = some x) :
    ∃ y, ys[i]? = some y ∧ R x y := by
  have hrel := forall₂_getElem? h i
  rw [hx] at hrel
  generalize hy : ys[i]? = o at hrel
  cases hrel with
  | some hxy => exact ⟨_, rfl, hxy⟩

theorem forall₂_set (h : List.Forall₂ R xs ys) (hxy : R x y) (i : ℕ) :
    List.Forall₂ R (xs.set i x) (ys.set i y) := by
  induction h generalizing i with
  | nil => exact .nil
  | cons hab hrest ih =>
    cases i with
    | zero => exact .cons hxy hrest
    | succ i => exact .cons hab (ih i)

theorem forall₂_modify (h : List.Forall₂ R xs ys) {f : α → α} {g : β → β}
    (hfg : ∀ x y, R x y → R (f x) (g y)) (i : ℕ) :
    List.Forall₂ R (xs.modify i f) (ys.modify i g) := by
  induction h generalizing i with
  | nil => simp
  | cons hab hrest ih =>
    cases i with
    | zero => simpa using ⟨hfg _ _ hab, hrest⟩
    | succ i => simpa using ⟨hab, ih i⟩

theorem forall₂_map {γ δ : Type*} {T : γ → δ → Prop} {f : γ → α} {g : δ → β} {zs : List γ} {us : List δ}
    (h : List.Forall₂ T zs us) (hfg : ∀ z u, T z u → R (f z) (g u)) :
    List.Forall₂ R (zs.map f) (us.map g) := by
  rw [List.forall₂_map_left_iff, List.forall₂_map_right_iff]
  exact h.imp hfg

end Lists

/-! ## Pieces -/

/-- Two outcomes that differ only in where they wait. -/
inductive Outcome.Alike {κ κ' α ε : Type*} (K : κ → κ' → Prop) :
    Outcome κ α ε → Outcome κ' α ε → Prop
  | await {k : κ} {k' : κ'} (h : K k k') : Alike K (.await k) (.await k')
  | ret (a : α) : Alike K (.ret a) (.ret a)
  | raise (e : ε) : Alike K (.raise e) (.raise e)

theorem Outcome.Alike.imp {κ κ' α ε : Type*} {K L : κ → κ' → Prop} {o : Outcome κ α ε}
    {o' : Outcome κ' α ε} (h : Outcome.Alike K o o') (hKL : ∀ k k', K k k' → L k k') :
    Outcome.Alike L o o' := by
  cases h with
  | await h => exact .await (hKL _ _ h)
  | ret a => exact .ret a
  | raise e => exact .raise e

/-- Which states and which events correspond in a world. -/
structure Correspondence (W σ τ ω ω' : Type*) [Preorder W] where
  state : W → σ → τ → Prop
  event : W → ω → ω' → Prop
  later : ∀ {w v}, w ≤ v → ∀ x y, event w x y → event v x y

namespace Ran

variable {W σ τ ω ω' κ κ' l l' α β ε ε' : Type*} [Preorder W] {C : Correspondence W σ τ ω ω'}
  {K : W → κ → κ' → Prop} {L : W → l → l' → Prop} {w v : W} {r : Ran σ ω κ α ε} {q : Ran τ ω' κ' α ε}

/-- What two pieces from the world `w` did corresponds in some later world. -/
def Coupled (C : Correspondence W σ τ ω ω') (K : W → κ → κ' → Prop) (w : W) (r : Ran σ ω κ α ε)
    (q : Ran τ ω' κ' α ε) : Prop :=
  ∃ v, w ≤ v ∧ C.state v r.state q.state ∧ List.Forall₂ (C.event v) r.log q.log ∧
    Outcome.Alike (K v) r.next q.next

theorem coupled {s : σ} {t : τ} {a : List ω} {b : List ω'} {o : Outcome κ α ε} {o' : Outcome κ' α ε}
    (hs : C.state w s t) (hlog : List.Forall₂ (C.event w) a b) (ho : Outcome.Alike (K w) o o') :
    Coupled C K w ⟨s, a, o⟩ ⟨t, b, o'⟩ := ⟨w, le_rfl, hs, hlog, ho⟩

theorem Coupled.later (hw : w ≤ v) (h : Coupled C K v r q) : Coupled C K w r q := by
  obtain ⟨u, hu, h⟩ := h
  exact ⟨u, hw.trans hu, h⟩

theorem Coupled.after (h : Coupled C K w r q) {a : List ω} {b : List ω'}
    (hlog : List.Forall₂ (C.event w) a b) : Coupled C K w (r.after a) (q.after b) := by
  obtain ⟨v, hv, hstate, hrest, hnext⟩ := h
  exact ⟨v, hv, hstate, List.rel_append (hlog.imp (C.later hv)) hrest, hnext⟩

/-- Callers in step, whose callees are in step. -/
theorem Coupled.andThen (h : Coupled C K w r q) {lift : κ → l} {lift' : κ' → l'}
    {onRet : σ → α → Ran σ ω l β ε'} {onRet' : τ → α → Ran τ ω' l' β ε'}
    {onRaise : σ → ε → Ran σ ω l β ε'} {onRaise' : τ → ε → Ran τ ω' l' β ε'}
    (hlift : ∀ v k k', K v k k' → L v (lift k) (lift' k'))
    (hret : ∀ v s t a, w ≤ v → C.state v s t → Coupled C L v (onRet s a) (onRet' t a))
    (hraise : ∀ v s t e, w ≤ v → C.state v s t → Coupled C L v (onRaise s e) (onRaise' t e)) :
    Coupled C L w (r.andThen lift onRet onRaise) (q.andThen lift' onRet' onRaise') := by
  obtain ⟨v, hv, hstate, hlog, hnext⟩ := h
  unfold Ran.andThen
  generalize r.next = o at hnext ⊢
  generalize q.next = o' at hnext ⊢
  cases hnext with
  | await hk => exact ⟨v, hv, hstate, hlog, .await (hlift v _ _ hk)⟩
  | ret a => exact .later hv ((hret v _ _ a hv hstate).after hlog)
  | raise e => exact .later hv ((hraise v _ _ e hv hstate).after hlog)

end Ran

end Async
