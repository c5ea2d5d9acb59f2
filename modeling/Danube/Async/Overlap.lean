import Danube.Async.Journal

/-!
# Calls that overlap

Several actors try something, and each calls the same operation when its tries have failed. The
operation should not run twice at once, nor for an actor that another one's call has already helped.
-/

namespace Async

/-- What an actor does. -/
inductive Phase
  /-- It tries what it wants. -/
  | tries
  | starts
  /-- Its call asks for what it was made for. -/
  | requests
  | returns
  | raises
  /-- Its call raised because that had been done before. -/
  | refused
  | other
  deriving DecidableEq, Repr

/-- The calls that run, the actors whose call has made a request, and those for whom a call of
another actor returned since their last try. -/
structure Overlap (α : Type*) where
  running : List α := []
  asked : α → Bool := fun _ => false
  renewed : α → Bool := fun _ => false

namespace Overlap

variable {α : Type*} [DecidableEq α]

def apply (v : Overlap α) : α × Phase → Overlap α
  | (a, .tries) => { v with renewed := Function.update v.renewed a false }
  | (a, .starts) =>
    { v with running := a :: v.running, asked := Function.update v.asked a false }
  | (a, .requests) => { v with asked := Function.update v.asked a true }
  | (a, .returns) =>
    { v with running := v.running.erase a, renewed := fun b => v.renewed b || decide (b ≠ a) }
  | (a, .raises) | (a, .refused) => { v with running := v.running.erase a }
  | (_, .other) => v

/-- At most one call runs, and a call asks only for an actor that was not helped. -/
def Apart (v : Overlap α) (x : α × Phase) : Prop :=
  (v.apply x).running.length ≤ 1 ∧ (x.2 = .requests → v.renewed x.1 = false)

/-- Moreover no call is refused because of another one. -/
def Alone (v : Overlap α) (x : α × Phase) : Prop :=
  v.Apart x ∧ (x.2 = .refused → v.renewed x.1 = false)

instance (v : Overlap α) (x : α × Phase) : Decidable (v.Apart x) :=
  inferInstanceAs (Decidable (_ ∧ _))

instance (v : Overlap α) (x : α × Phase) : Decidable (v.Alone x) :=
  inferInstanceAs (Decidable (_ ∧ _))

/-- Only a call that runs ends, and only one that has asked is refused. -/
def Balanced (v : Overlap α) (x : α × Phase) : Prop :=
  (x.2 = .returns ∨ x.2 = .raises ∨ x.2 = .refused → x.1 ∈ v.running) ∧
    (x.2 = .refused → v.asked x.1 = true)

/-- At most one call runs, and has asked only for an actor that was not helped. -/
structure Single (v : Overlap α) : Prop where
  one : v.running.length ≤ 1
  fresh : ∀ a ∈ v.running, v.asked a = true → v.renewed a = false

omit [DecidableEq α] in
theorem single_empty : Single ({} : Overlap α) := ⟨by simp, by simp⟩

theorem erase_eq_nil {v : Overlap α} (h : v.Single) {a : α} (ha : a ∈ v.running) :
    v.running.erase a = [] := by
  have hone := h.one
  obtain ⟨b, hb⟩ : ∃ b, v.running = [b] :=
    List.length_eq_one_iff.mp (Nat.le_antisymm hone (List.length_pos_of_mem ha))
  rw [hb, List.mem_singleton] at ha
  simp [hb, ha]

theorem single_apply {v : Overlap α} {x : α × Phase} (h : v.Single) (hapart : v.Apart x)
    (hbalanced : v.Balanced x) : (v.apply x).Single := by
  refine ⟨hapart.1, fun b hb hasked => ?_⟩
  obtain ⟨a, p⟩ := x
  cases p with
  | tries =>
    by_cases hab : b = a
    · subst hab
      simp [apply]
    · simpa [apply, Function.update_of_ne hab] using h.fresh b hb hasked
  | starts =>
    -- The call that starts has asked nothing yet.
    have hba : b ≠ a := by
      rintro rfl
      simp [apply] at hasked
    have hmem : b ∈ v.running := (List.mem_cons.mp hb).resolve_left hba
    exact h.fresh b hmem (by simpa [apply, Function.update_of_ne hba] using hasked)
  | requests =>
    by_cases hab : b = a
    · subst hab
      exact hapart.2 rfl
    · exact h.fresh b hb (by simpa [apply, Function.update_of_ne hab] using hasked)
  | returns =>
    -- The only call that runs is the one that returns.
    have hnil := erase_eq_nil h (hbalanced.1 (Or.inl rfl))
    simp [apply, hnil] at hb
  | raises =>
    have hnil := erase_eq_nil h (hbalanced.1 (Or.inr (Or.inl rfl)))
    simp [apply, hnil] at hb
  | refused =>
    have hnil := erase_eq_nil h (hbalanced.1 (Or.inr (Or.inr rfl)))
    simp [apply, hnil] at hb
  | other => exact h.fresh b hb hasked

/-- When the calls of a balanced journal stay apart, at most one runs at any time. -/
theorem single_replay {v : Overlap α} {log : List (α × Phase)} (h : v.Single)
    (hapart : Always apply Apart v log) (hbalanced : Always apply Balanced v log) :
    (replay apply v log).Single := by
  induction log generalizing v with
  | nil => exact h
  | cons x xs ih => exact ih (single_apply h hapart.1 hbalanced.1) hapart.2 hbalanced.2

/-- In a balanced journal, calls that stay apart are not refused because of each other. -/
theorem always_alone_iff {v : Overlap α} {log : List (α × Phase)} (h : v.Single)
    (hbalanced : Always apply Balanced v log) :
    Always apply Alone v log ↔ Always apply Apart v log := by
  refine ⟨Always.mono fun _ _ => And.left, fun hapart => ?_⟩
  induction log generalizing v with
  | nil => trivial
  | cons x xs ih =>
    refine ⟨⟨hapart.1, fun hx => ?_⟩, ih (single_apply h hapart.1 hbalanced.1) hbalanced.2 hapart.2⟩
    exact h.fresh x.1 (hbalanced.1.1 (Or.inr (Or.inr hx))) (hbalanced.1.2 hx)

theorem count_apply {v : Overlap α} {a b : α} (h : b ≠ a) (p : Phase) :
    (v.apply (a, p)).running.count b = v.running.count b := by
  cases p with
  | starts => exact List.count_cons_of_ne (Ne.symm h)
  | returns | raises | refused => exact List.count_erase_of_ne h
  | tries | requests | other => rfl

theorem count_replay {v : Overlap α} {a b : α} (h : b ≠ a) (ps : List Phase) :
    (replay apply v (ps.map fun p => (a, p))).running.count b = v.running.count b := by
  induction ps generalizing v with
  | nil => rfl
  | cons p ps ih => exact ih.trans (count_apply h p)

theorem asked_apply {v : Overlap α} {a b : α} (h : b ≠ a) (p : Phase) :
    (v.apply (a, p)).asked b = v.asked b := by
  cases p with
  | starts | requests => exact Function.update_of_ne h _ _
  | returns | raises | refused | tries | other => rfl

theorem asked_replay {v : Overlap α} {a b : α} (h : b ≠ a) (ps : List Phase) :
    (replay apply v (ps.map fun p => (a, p))).asked b = v.asked b := by
  induction ps generalizing v with
  | nil => rfl
  | cons p ps ih => exact ih.trans (asked_apply h p)

theorem renewed_apply_self {v : Overlap α} {a : α} (hv : v.renewed a = false) (p : Phase) :
    (v.apply (a, p)).renewed a = false := by
  cases p <;> simp [apply, hv]

theorem renewed_replay_self {v : Overlap α} {a : α} (hv : v.renewed a = false) (ps : List Phase) :
    (replay apply v (ps.map fun p => (a, p))).renewed a = false := by
  induction ps generalizing v with
  | nil => exact hv
  | cons p ps ih => exact ih (renewed_apply_self hv p)

end Overlap

end Async
