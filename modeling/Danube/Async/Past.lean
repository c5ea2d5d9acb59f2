import Danube.Async.Journal

/-! # What the events say of the events before them -/

namespace Async

variable {E : Type*}

/-- Every event is as `P` says, given the events before it. -/
def Throughout (P : List E → E → Prop) (log : List E) : Prop :=
  ∀ before e after, log = before ++ e :: after → P before e

variable {P Q : List E → E → Prop} {log : List E}

theorem replay_past (past log : List E) : replay (fun l e => l ++ [e]) past log = past ++ log := by
  induction log generalizing past with
  | nil => simp [replay]
  | cons e es ih =>
    rw [replay_cons, ih]
    simp

theorem throughout_iff_always : Throughout P log ↔ Always (fun l e => l ++ [e]) P [] log := by
  rw [always_iff_split]
  unfold Throughout
  simp only [replay_past, List.nil_append]

@[simp] theorem throughout_nil : Throughout P [] := by simp [Throughout]

theorem throughout_snoc {e : E} : Throughout P (log ++ [e]) ↔ Throughout P log ∧ P log e := by
  rw [throughout_iff_always, throughout_iff_always, always_append, replay_past, always_cons]
  simp [Always]

theorem Throughout.mono (h : Throughout P log) (hPQ : ∀ before e, P before e → Q before e) :
    Throughout Q log := fun before e after hlog => hPQ before e (h before e after hlog)

/-! ## What comes next -/

/-- Each `x` is followed by `y`. -/
def Followed (x y : E) (log : List E) : Prop := ∀ a b, log = a ++ x :: b → ∃ c, b = y :: c

variable {x y : E} {a b : List E}

theorem followed_of_not_mem (h : x ∉ log) : Followed x y log := by
  rintro a b rfl
  simp at h

theorem Followed.append (ha : Followed x y a) (hb : Followed x y b) : Followed x y (a ++ b) := by
  intro l r hsplit
  rcases List.append_eq_append_iff.mp hsplit with ⟨m, rfl, hm⟩ | ⟨m, rfl, hm⟩
  · exact hb m r hm
  · cases m with
    -- The two lists meet where `x` is.
    | nil => exact hb [] r hm.symm
    | cons z m =>
      obtain ⟨rfl, rfl⟩ := List.cons.inj hm
      obtain ⟨c, rfl⟩ := ha l m rfl
      exact ⟨c ++ b, rfl⟩

end Async
