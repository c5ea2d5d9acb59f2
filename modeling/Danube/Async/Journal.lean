import Mathlib.Data.List.Basic

/-!
# Journals

A journal is the list of events of a run. `replay` folds it into what an observer knows, and
`Always` says that every event fits what was known when it was written.
-/

namespace Async

variable {V E : Type*} (apply : V → E → V)

/-- What is known after the events. -/
def replay (v : V) (log : List E) : V := log.foldl apply v

/-- Every event of the journal is written where `P` holds of it. -/
def Always (P : V → E → Prop) : V → List E → Prop
  | _, [] => True
  | v, e :: es => P v e ∧ Always P (apply v e) es

variable {apply}

@[simp] theorem replay_nil (v : V) : replay apply v [] = v := rfl

@[simp] theorem replay_cons (v : V) (e : E) (es : List E) :
    replay apply v (e :: es) = replay apply (apply v e) es := rfl

theorem replay_append (v : V) (a b : List E) :
    replay apply v (a ++ b) = replay apply (replay apply v a) b := List.foldl_append

@[simp] theorem always_nil (P : V → E → Prop) (v : V) : Always apply P v [] := trivial

@[simp] theorem always_cons (P : V → E → Prop) (v : V) (e : E) (es : List E) :
    Always apply P v (e :: es) ↔ P v e ∧ Always apply P (apply v e) es := Iff.rfl

theorem always_append (P : V → E → Prop) (v : V) (a b : List E) :
    Always apply P v (a ++ b) ↔ Always apply P v a ∧ Always apply P (replay apply v a) b := by
  induction a generalizing v with
  | nil => simp
  | cons e es ih => simp [ih, and_assoc]

theorem Always.mono {P Q : V → E → Prop} (hPQ : ∀ v e, P v e → Q v e) {v : V} {log : List E}
    (h : Always apply P v log) : Always apply Q v log := by
  induction log generalizing v with
  | nil => trivial
  | cons e es ih => exact ⟨hPQ v e h.1, ih h.2⟩

theorem always_of_forall {P : V → E → Prop} {log : List E} (h : ∀ e ∈ log, ∀ v, P v e) (v : V) :
    Always apply P v log := by
  induction log generalizing v with
  | nil => trivial
  | cons e es ih => exact ⟨h e (by simp) v, ih (fun x hx => h x (by simp [hx])) _⟩

theorem replay_eq_self {v : V} {log : List E} (h : ∀ e ∈ log, apply v e = v) :
    replay apply v log = v := by
  induction log with
  | nil => rfl
  | cons e es ih =>
    rw [replay_cons, h e (by simp)]
    exact ih fun x hx => h x (by simp [hx])

theorem always_of_fixed {P : V → E → Prop} {v : V} {log : List E}
    (h : ∀ e ∈ log, apply v e = v ∧ P v e) : Always apply P v log := by
  induction log with
  | nil => trivial
  | cons e es ih =>
    obtain ⟨he, hP⟩ := h e (by simp)
    rw [always_cons, he]
    exact ⟨hP, ih fun x hx => h x (by simp [hx])⟩

theorem forall_always_append {α : Type*} {P : V → E → Prop} {v : V} {logs logs' : α → List E} {a : α}
    {log : List E} (ha : logs' a = logs a ++ log) (hne : ∀ b, b ≠ a → logs' b = logs b) :
    (∀ b, Always apply P v (logs' b)) ↔
      (∀ b, Always apply P v (logs b)) ∧ Always apply P (replay apply v (logs a)) log := by
  constructor
  · intro h
    have hlog := h a
    rw [ha, always_append] at hlog
    refine ⟨fun b => ?_, hlog.2⟩
    by_cases hb : b = a
    · exact hb ▸ hlog.1
    · exact hne b hb ▸ h b
  · rintro ⟨h, hlog⟩ b
    by_cases hb : b = a
    · rw [hb, ha, always_append]
      exact ⟨h a, hlog⟩
    · exact hne b hb ▸ h b

/-- `Always` at one position of the journal. -/
theorem always_iff_split (P : V → E → Prop) (v : V) (log : List E) :
    Always apply P v log ↔
      ∀ pre e post, log = pre ++ e :: post → P (replay apply v pre) e := by
  induction log generalizing v with
  | nil => simp
  | cons x xs ih =>
    rw [always_cons, ih]
    constructor
    · rintro ⟨hx, hxs⟩ pre e post hlog
      cases pre with
      | nil => simp only [List.nil_append, List.cons.injEq] at hlog; exact hlog.1 ▸ hx
      | cons y ys =>
        simp only [List.cons_append, List.cons.injEq] at hlog
        obtain ⟨rfl, hlog⟩ := hlog
        exact hxs ys e post hlog
    · intro h
      exact ⟨h [] x xs rfl, fun pre e post hlog => h (x :: pre) e post (by simp [hlog])⟩

instance Always.decidable (P : V → E → Prop) [∀ v e, Decidable (P v e)] :
    ∀ (v : V) (log : List E), Decidable (Always apply P v log)
  | _, [] => isTrue trivial
  | v, e :: es =>
    match inferInstanceAs (Decidable (P v e)), Always.decidable P (apply v e) es with
    | isTrue h, isTrue h' => isTrue ⟨h, h'⟩
    | isFalse h, _ => isFalse fun hall => h hall.1
    | _, isFalse h' => isFalse fun hall => h' hall.2

end Async
