import Danube.Async.Runs
import Mathlib.Algebra.Order.BigOperators.Group.List
import Mathlib.Data.ENat.Lattice

/-!
# Retry loops

A retry loop looks for its peer, tries, and after a failure that may pass looks again, sleeps and
tries again, a bounded number of times. Here it is a machine that reads its own trace.
-/

namespace Async.Retry

variable {ε α : Type*}

/-- One thing that the loop does. -/
inductive Turn (ε α : Type*)
  | lookup
  | sleep (ms : ℕ)
  | attempt (outcome : Except ε α)

/-- What the loop does next. `n` counts the attempts that failed. -/
inductive Phase (ε α : Type*)
  | lookup (n : ℕ)
  | sleep (n : ℕ)
  | attempt (n : ℕ)
  | over (outcome : Except ε α)

/-- Which failures are retried, how often, and between which bounds the sleeps are. -/
structure Policy (ε : Type*) where
  retryable : ε → Bool
  maxRetries : ℕ
  low : ℕ → ℕ
  high : ℕ → ℕ

/-- The outcome ends the loop whatever its budget. -/
def Policy.Final (p : Policy ε) (o : Except ε α) : Prop := ∀ e, o = .error e → p.retryable e = false

def Policy.afterAttempt (p : Policy ε) (n : ℕ) : Except ε α → Phase ε α
  | .ok a => .over (.ok a)
  | .error e =>
    if p.retryable e then if n + 1 > p.maxRetries then .over (.error e) else .lookup (n + 1)
    else .over (.error e)

def step (p : Policy ε) : Phase ε α → Turn ε α → Option (Phase ε α)
  | .lookup n, .lookup => some (if n = 0 then .attempt 0 else .sleep n)
  | .sleep n, .sleep ms => if p.low (n - 1) ≤ ms ∧ ms ≤ p.high (n - 1) then some (.attempt n) else none
  | .attempt n, .attempt o => some (p.afterAttempt n o)
  | _, _ => none

/-! ## What a trace shows -/

/-- A turn without its data. -/
inductive Kind
  | lookup | sleep | attempt
  deriving DecidableEq, Repr

def Turn.kind : Turn ε α → Kind
  | .lookup => .lookup
  | .sleep _ => .sleep
  | .attempt _ => .attempt

def Turn.outcome? : Turn ε α → Option (Except ε α)
  | .attempt o => some o
  | _ => none

def Turn.sleep? : Turn ε α → Option ℕ
  | .sleep ms => some ms
  | _ => none

def kinds (turns : List (Turn ε α)) : List Kind := turns.map Turn.kind

/-- What the attempts made, in order. -/
def outcomes (turns : List (Turn ε α)) : List (Except ε α) := turns.filterMap Turn.outcome?

def sleeps (turns : List (Turn ε α)) : List ℕ := turns.filterMap Turn.sleep?

/-- The turns of the `n`-th attempt: there is no sleep before the first one. -/
def round (n : ℕ) : List Kind := if n = 0 then [.lookup, .attempt] else [.lookup, .sleep, .attempt]

/-- The turns of the first `n` attempts. -/
def rounds (n : ℕ) : List Kind := (List.range n).flatMap round

@[simp] theorem rounds_zero : rounds 0 = [] := rfl

theorem rounds_succ (n : ℕ) : rounds (n + 1) = rounds n ++ round n := by
  simp [rounds, List.range_succ]

section Snoc

variable (turns : List (Turn ε α)) (t : Turn ε α)

@[simp] theorem kinds_append_singleton : kinds (turns ++ [t]) = kinds turns ++ [t.kind] := by
  simp [kinds]

@[simp] theorem outcomes_append_singleton :
    outcomes (turns ++ [t]) = outcomes turns ++ t.outcome?.toList := by
  rw [outcomes, List.filterMap_append]
  cases h : t.outcome? <;> simp [outcomes, h]

@[simp] theorem sleeps_append_singleton :
    sleeps (turns ++ [t]) = sleeps turns ++ t.sleep?.toList := by
  rw [sleeps, List.filterMap_append]
  cases h : t.sleep? <;> simp [sleeps, h]

end Snoc

/-- After `n` attempts that failed and may be retried. -/
structure Failed (p : Policy ε) (n : ℕ) (outcomes : List (Except ε α)) : Prop where
  length : outcomes.length = n
  within : n ≤ p.maxRetries
  retried : ∀ o ∈ outcomes, ¬ p.Final o

/-- The sleeps so far are within their bounds. -/
def Slept (p : Policy ε) (n : ℕ) (sleeps : List ℕ) : Prop :=
  sleeps.length = n ∧ ∀ i ms, sleeps[i]? = some ms → p.low i ≤ ms ∧ ms ≤ p.high i

/-- What the loop has done when it gets to the phase. -/
def Shape (p : Policy ε) (turns : List (Turn ε α)) : Phase ε α → Prop
  | .lookup n => Failed p n (outcomes turns) ∧ Slept p (n - 1) (sleeps turns) ∧ kinds turns = rounds n
  | .sleep n => 0 < n ∧ Failed p n (outcomes turns) ∧ Slept p (n - 1) (sleeps turns) ∧
      kinds turns = rounds n ++ [.lookup]
  | .attempt n => Failed p n (outcomes turns) ∧ Slept p n (sleeps turns) ∧
      kinds turns ++ [.attempt] = rounds (n + 1)
  | .over o => ∃ k failed, outcomes turns = failed ++ [o] ∧ Failed p k failed ∧
      (p.Final o ∨ k = p.maxRetries) ∧ Slept p k (sleeps turns) ∧ kinds turns = rounds (k + 1)

theorem getElem?_snoc {β : Type*} {l : List β} {x y : β} {i : ℕ} (h : (l ++ [x])[i]? = some y) :
    l[i]? = some y ∨ i = l.length ∧ x = y := by
  rcases Nat.lt_or_ge i l.length with hlt | hge
  · exact Or.inl ((List.getElem?_append_left hlt).symm.trans h)
  · right
    rw [List.getElem?_append_right hge] at h
    obtain ⟨hlt, hy⟩ := List.getElem?_eq_some_iff.mp h
    rw [List.length_singleton] at hlt
    simp only [Nat.lt_one_iff.mp hlt, List.getElem_cons_zero] at hy
    exact ⟨by omega, hy⟩

theorem Slept.snoc {p : Policy ε} {n ms : ℕ} {sleeps : List ℕ} (h : Slept p n sleeps)
    (hlow : p.low n ≤ ms) (hhigh : ms ≤ p.high n) : Slept p (n + 1) (sleeps ++ [ms]) := by
  refine ⟨by simp [h.1], fun i x hx => ?_⟩
  rcases getElem?_snoc hx with hx | ⟨hi, hms⟩
  · exact h.2 i x hx
  · rw [hi, h.1]
    exact hms ▸ ⟨hlow, hhigh⟩

theorem Slept.sum_le {p : Policy ε} {n bound : ℕ} {sleeps : List ℕ} (h : Slept p n sleeps)
    (hbound : ∀ i, p.high i ≤ bound) : sleeps.sum ≤ n * bound := by
  have hle : ∀ ms ∈ sleeps, ms ≤ bound := by
    intro ms hms
    obtain ⟨i, hi⟩ := List.mem_iff_getElem?.mp hms
    exact (h.2 i ms hi).2.trans (hbound i)
  have hsum := List.sum_le_card_nsmul sleeps bound hle
  rwa [h.1, smul_eq_mul] at hsum

theorem Failed.snoc {p : Policy ε} {n : ℕ} {outcomes : List (Except ε α)} (h : Failed p n outcomes)
    {o : Except ε α} (ho : ¬ p.Final o) (hn : n + 1 ≤ p.maxRetries) :
    Failed p (n + 1) (outcomes ++ [o]) where
  length := by simp [h.length]
  within := hn
  retried x hx := by
    rcases List.mem_append.mp hx with hx | hx
    · exact h.retried x hx
    · exact List.mem_singleton.mp hx ▸ ho

theorem afterAttempt_shape {p : Policy ε} {n : ℕ} {turns : List (Turn ε α)} {o : Except ε α}
    (h : Shape p turns (.attempt n)) :
    Shape p (turns ++ [.attempt o]) (p.afterAttempt n o) := by
  obtain ⟨hfailed, hslept, hkinds⟩ := h
  -- The attempt is the last one.
  have hends : (p.Final o ∨ n = p.maxRetries) → Shape p (turns ++ [.attempt o]) (.over o) := by
    intro hfinal
    refine ⟨n, outcomes turns, by simp [Turn.outcome?], hfailed, hfinal, ?_, ?_⟩
    · simpa [Turn.sleep?] using hslept
    · simpa [Turn.kind] using hkinds
  cases o with
  | ok a => exact hends (Or.inl (by simp [Policy.Final]))
  | error e =>
    have hwithin := hfailed.within
    unfold Policy.afterAttempt
    dsimp only
    split
    · rename_i hretry
      split
      · -- No retry is left.
        exact hends (Or.inr (by omega))
      · -- A retry follows.
        rename_i hle
        refine ⟨?_, ?_, ?_⟩
        · simp only [outcomes_append_singleton, Turn.outcome?, Option.toList_some]
          exact hfailed.snoc (fun hfinal => by simp [hfinal e rfl] at hretry) (by omega)
        · simpa [Turn.sleep?] using hslept
        · simpa [Turn.kind] using hkinds
    · rename_i hretry
      refine hends (Or.inl fun e' he => ?_)
      cases he
      simpa using hretry

theorem step_shape {p : Policy ε} {turns : List (Turn ε α)} {a b : Phase ε α} {t : Turn ε α}
    (h : Shape p turns a) (hstep : step p a t = some b) : Shape p (turns ++ [t]) b := by
  unfold step at hstep
  split at hstep
  case h_1 n =>
    cases hstep
    obtain ⟨hfailed, hslept, hkinds⟩ := h
    split
    · rename_i hn
      subst hn
      refine ⟨by simpa [Turn.outcome?] using hfailed, by simpa [Turn.sleep?] using hslept, ?_⟩
      simp [Turn.kind, hkinds, rounds_succ, round]
    · rename_i hn
      refine ⟨Nat.pos_of_ne_zero hn, by simpa [Turn.outcome?] using hfailed,
        by simpa [Turn.sleep?] using hslept, by simp [Turn.kind, hkinds]⟩
  case h_2 n ms =>
    split at hstep
    · rename_i hms
      cases hstep
      obtain ⟨hpos, hfailed, hslept, hkinds⟩ := h
      obtain ⟨m, rfl⟩ : ∃ m, n = m + 1 := ⟨n - 1, by omega⟩
      refine ⟨by simpa [Turn.outcome?] using hfailed, ?_, ?_⟩
      · simp only [sleeps_append_singleton, Turn.sleep?, Option.toList_some]
        exact hslept.snoc hms.1 hms.2
      · simp [Turn.kind, hkinds, rounds_succ (m + 1), round]
    · cases hstep
  case h_3 n o => cases hstep; exact afterAttempt_shape h
  case h_4 => cases hstep

theorem exec_shape {p : Policy ε} {turns : List (Turn ε α)} {b : Phase ε α}
    (h : exec (step p) (.lookup 0) turns = some b) : Shape p turns b := by
  refine exec_induction (P := fun turns b => Shape p turns b) ?_ (fun ls a t b _ ha hb => ?_) h
  · exact ⟨⟨rfl, Nat.zero_le _, by simp [outcomes]⟩, ⟨rfl, by simp [sleeps]⟩, rfl⟩
  · exact step_shape ha hb

/-! ## How many attempts there are -/

/-- The index of the first outcome that ends the loop whatever its budget, `⊤` if there is none. -/
noncomputable def firstFinal (p : Policy ε) (o : ℕ → Except ε α) : ℕ∞ := ⨅ i : {i // p.Final (o i)}, (i : ℕ∞)

theorem min_firstFinal {p : Policy ε} {o : ℕ → Except ε α} {k : ℕ} (hk : k ≤ p.maxRetries)
    (hfailed : ∀ i < k, ¬ p.Final (o i)) (hlast : p.Final (o k) ∨ k = p.maxRetries) :
    min (firstFinal p o) p.maxRetries = k := by
  have hge : (k : ℕ∞) ≤ firstFinal p o := by
    refine le_iInf fun i => Nat.cast_le.mpr ?_
    by_contra hlt
    exact hfailed i (by omega) i.2
  refine le_antisymm ?_ (le_min hge (Nat.cast_le.mpr hk))
  rcases hlast with hfinal | rfl
  · exact min_le_of_left_le (iInf_le (fun i : {i // p.Final (o i)} => (i : ℕ∞)) ⟨k, hfinal⟩)
  · exact min_le_right _ _

/-- The loop makes as many attempts as it takes to get a final outcome, and at most one more than it
has retries. -/
theorem exec_over {p : Policy ε} {turns : List (Turn ε α)} {res : Except ε α}
    (h : exec (step p) (.lookup 0) turns = some (.over res)) {o : ℕ → Except ε α}
    (ho : ∀ i x, (outcomes turns)[i]? = some x → o i = x) :
    ∃ k : ℕ, (k : ℕ∞) = min (firstFinal p o) p.maxRetries ∧ res = o k ∧
      outcomes turns = (List.range (k + 1)).map o ∧ kinds turns = rounds (k + 1) ∧
      Slept p k (sleeps turns) := by
  obtain ⟨k, failed, houtcomes, hfailed, hlast, hslept, hkinds⟩ := exec_shape h
  have hbefore : ∀ i < k, o i ∈ failed := by
    intro i hi
    have hlt : i < failed.length := hfailed.length.symm ▸ hi
    rw [ho i failed[i] (by rw [houtcomes, List.getElem?_append_left hlt, List.getElem?_eq_getElem hlt])]
    exact List.getElem_mem hlt
  have hres : o k = res := ho k res (by simp [houtcomes, ← hfailed.length])
  refine ⟨k, (min_firstFinal hfailed.within (fun i hi => ?_) (hres ▸ hlast)).symm, hres.symm, ?_,
    hkinds, hslept⟩
  · exact hfailed.retried _ (hbefore i hi)
  · refine List.ext_getElem (by simp [houtcomes, hfailed.length]) fun i hi _ => ?_
    rw [List.getElem_map, List.getElem_range]
    exact (ho i _ (List.getElem?_eq_getElem hi)).symm

end Async.Retry
