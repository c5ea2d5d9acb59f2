import Mathlib.Data.List.Induction

/-!
# Runs of a labelled step function

A run is a list of labels. `exec` plays it, and stops at the first label that is not enabled.
-/

namespace Async

variable {σ ι : Type*} (step : σ → ι → Option σ)

/-- The state after the labels, if each of them was enabled in turn. -/
def exec : σ → List ι → Option σ
  | s, [] => some s
  | s, l :: ls => (step s l).bind fun s' => exec s' ls

/-- Each label of the run is taken in a state where `C` holds of it. -/
def Steps (C : σ → ι → Prop) : σ → List ι → Prop
  | _, [] => True
  | s, l :: ls => C s l ∧ ∀ s', step s l = some s' → Steps C s' ls

variable {step}

@[simp] theorem exec_nil (s : σ) : exec step s [] = some s := rfl

theorem exec_cons {s s' : σ} {l : ι} {ls : List ι} :
    exec step s (l :: ls) = some s' ↔ ∃ t, step s l = some t ∧ exec step t ls = some s' := by
  simp [exec, Option.bind_eq_some_iff]

theorem exec_append {s s' : σ} {ls ms : List ι} :
    exec step s (ls ++ ms) = some s' ↔
      ∃ t, exec step s ls = some t ∧ exec step t ms = some s' := by
  induction ls generalizing s with
  | nil => simp
  | cons l ls ih =>
    simp only [List.cons_append, exec_cons, ih]
    constructor
    · rintro ⟨t, ht, u, hu, hs⟩
      exact ⟨u, ⟨t, ht, hu⟩, hs⟩
    · rintro ⟨u, ⟨t, ht, hu⟩, hs⟩
      exact ⟨t, ht, u, hu, hs⟩

instance Steps.decidable {C : σ → ι → Prop} [∀ s l, Decidable (C s l)] :
    ∀ (s : σ) (ls : List ι), Decidable (Steps step C s ls)
  | _, [] => isTrue trivial
  | s, l :: ls =>
    match (inferInstance : Decidable (C s l)), h : step s l with
    | isFalse hc, _ => isFalse fun hall => hc hall.1
    | isTrue hc, none => isTrue ⟨hc, fun t ht => by simp [h] at ht⟩
    | isTrue hc, some t =>
      match Steps.decidable t ls with
      | isTrue hrest => isTrue ⟨hc, fun u hu => by rw [h, Option.some.injEq] at hu; exact hu ▸ hrest⟩
      | isFalse hrest => isFalse fun hall => hrest (hall.2 t h)

theorem steps_append {C : σ → ι → Prop} {s t : σ} {ls ms : List ι}
    (h : exec step s ls = some t) :
    Steps step C s (ls ++ ms) ↔ Steps step C s ls ∧ Steps step C t ms := by
  induction ls generalizing s with
  | nil => simp [exec_nil] at h; subst h; simp [Steps]
  | cons l ls ih =>
    obtain ⟨u, hu, hls⟩ := exec_cons.mp h
    simp only [List.cons_append, Steps, hu, Option.some.injEq, forall_eq', ih hls, and_assoc]

theorem exec_map {τ : Type*} {step' : τ → ι → Option τ} {g : σ → τ} {ls : List ι}
    (h : ∀ s, ∀ l ∈ ls, (step s l).map g = step' (g s) l) (s : σ) :
    (exec step s ls).map g = exec step' (g s) ls := by
  induction ls generalizing s with
  | nil => rfl
  | cons l ls ih =>
    simp only [exec, ← h s l (by simp)]
    cases step s l with
    | none => rfl
    | some t => exact ih (fun u m hm => h u m (by simp [hm])) t

theorem Steps.and_mem {C : σ → ι → Prop} {D : ι → Prop} {s : σ} {ls : List ι}
    (h : Steps step C s ls) (hD : ∀ l ∈ ls, D l) : Steps step (fun s l => C s l ∧ D l) s ls := by
  induction ls generalizing s with
  | nil => trivial
  | cons l ls ih =>
    exact ⟨⟨h.1, hD l (by simp)⟩, fun t ht => ih (h.2 t ht) fun m hm => hD m (by simp [hm])⟩

theorem steps_of_mem {D : ι → Prop} (s : σ) {ls : List ι} (hD : ∀ l ∈ ls, D l) :
    Steps step (fun _ l => D l) s ls := by
  induction ls generalizing s with
  | nil => trivial
  | cons l ls ih => exact ⟨hD l (by simp), fun t _ => ih t fun m hm => hD m (by simp [hm])⟩

/-- The invariant rule: what every step keeps, every run keeps. -/
theorem exec_invariant {P : σ → Prop} (hstep : ∀ s l s', P s → step s l = some s' → P s')
    {s s' : σ} {ls : List ι} (hs : P s) (h : exec step s ls = some s') : P s' := by
  induction ls generalizing s with
  | nil => simp only [exec_nil, Option.some.injEq] at h; exact h ▸ hs
  | cons l ls ih =>
    obtain ⟨t, ht, hls⟩ := exec_cons.mp h
    exact ih (hstep s l t hs ht) hls

theorem exec_invariant_of_steps {P : σ → Prop} {C : σ → ι → Prop}
    (hstep : ∀ s l s', P s → C s l → step s l = some s' → P s')
    {s s' : σ} {ls : List ι} (hs : P s) (hc : Steps step C s ls)
    (h : exec step s ls = some s') : P s' := by
  induction ls generalizing s with
  | nil => simp only [exec_nil, Option.some.injEq] at h; exact h ▸ hs
  | cons l ls ih =>
    obtain ⟨t, ht, hls⟩ := exec_cons.mp h
    exact ih (hstep s l t hs hc.1 ht) (hc.2 t ht) hls

theorem exec_induction {P : List ι → σ → Prop} {s : σ} (hnil : P [] s)
    (hstep : ∀ ls t l u, exec step s ls = some t → P ls t → step t l = some u → P (ls ++ [l]) u)
    {s' : σ} {ls : List ι} (h : exec step s ls = some s') : P ls s' := by
  induction ls using List.reverseRecOn generalizing s' with
  | nil =>
    rw [exec_nil, Option.some.injEq] at h
    exact h ▸ hnil
  | append_singleton ls l ih =>
    obtain ⟨t, ht, hl⟩ := exec_append.mp h
    obtain ⟨u, hu, hnone⟩ := exec_cons.mp hl
    rw [exec_nil, Option.some.injEq] at hnone
    exact hnone ▸ hstep ls t l u ht (ih ht) hu

theorem exec_countP_le {P : σ → Prop} {used : σ → Nat} {counts : ι → Bool}
    (hstep : ∀ s l s', P s → step s l = some s' →
      P s' ∧ used s + (if counts l then 1 else 0) ≤ used s')
    {s s' : σ} {ls : List ι} (hs : P s) (h : exec step s ls = some s') :
    used s + ls.countP counts ≤ used s' := by
  induction ls generalizing s with
  | nil =>
    simp only [exec_nil, Option.some.injEq] at h
    simp [h]
  | cons l ls ih =>
    obtain ⟨t, ht, hls⟩ := exec_cons.mp h
    obtain ⟨hPt, hused⟩ := hstep s l t hs ht
    have hrest := ih hPt hls
    rw [List.countP_cons]
    omega

theorem exec_length_le_of_steps {P : σ → Prop} {C : σ → ι → Prop} {used : σ → Nat}
    (hstep : ∀ s l s', P s → C s l → step s l = some s' → P s' ∧ used s + 1 ≤ used s')
    {s s' : σ} {ls : List ι} (hs : P s) (hc : Steps step C s ls) (h : exec step s ls = some s') :
    P s' ∧ used s + ls.length ≤ used s' := by
  induction ls generalizing s with
  | nil =>
    simp only [exec_nil, Option.some.injEq] at h
    exact h ▸ ⟨hs, Nat.le_refl _⟩
  | cons l ls ih =>
    obtain ⟨t, ht, hls⟩ := exec_cons.mp h
    obtain ⟨hPt, hused⟩ := hstep s l t hs hc.1 ht
    obtain ⟨hPs, hrest⟩ := ih hPt (hc.2 t ht) hls
    refine ⟨hPs, ?_⟩
    rw [List.length_cons]
    omega

/-- The potential method: when each step that meets `C` pays for itself with what it takes from `left`
or adds to `paid`, the steps that count are paid for over a whole run. -/
theorem exec_amortized {P : σ → Prop} {C : σ → ι → Prop} {left paid : σ → Nat} {counts : ι → Bool}
    (hstep : ∀ s l s', P s → C s l → step s l = some s' →
      P s' ∧ left s' + (if counts l then 1 else 0) + paid s ≤ left s + paid s')
    {s s' : σ} {ls : List ι} (hs : P s) (hc : Steps step C s ls) (h : exec step s ls = some s') :
    P s' ∧ left s' + ls.countP counts + paid s ≤ left s + paid s' := by
  induction ls generalizing s with
  | nil =>
    simp only [exec_nil, Option.some.injEq] at h
    subst h
    exact ⟨hs, by simp⟩
  | cons l ls ih =>
    obtain ⟨t, ht, hls⟩ := exec_cons.mp h
    obtain ⟨hPt, hpays⟩ := hstep s l t hs hc.1 ht
    obtain ⟨hPs, hrest⟩ := ih hPt (hc.2 t ht) hls
    refine ⟨hPs, ?_⟩
    rw [List.countP_cons]
    omega

/-- When a step with a label in `L` keeps `Q` exactly if it meets `C`, a run of such labels keeps `Q`
exactly if its steps all do. -/
theorem exec_iff_steps_of {I Q : σ → Prop} {C : σ → ι → Prop} {L : ι → Prop}
    (hstep : ∀ s l s', I s → L l → step s l = some s' → I s' ∧ (Q s' ↔ Q s ∧ C s l))
    {s s' : σ} {ls : List ι} (hs : I s) (hL : ∀ l ∈ ls, L l) (h : exec step s ls = some s') :
    Q s' ↔ Q s ∧ Steps step C s ls := by
  induction ls generalizing s with
  | nil =>
    simp only [exec_nil, Option.some.injEq] at h
    simp [h, Steps]
  | cons l ls ih =>
    obtain ⟨t, ht, hls⟩ := exec_cons.mp h
    obtain ⟨hIt, hQ⟩ := hstep s l t hs (hL l (by simp)) ht
    rw [ih hIt (fun x hx => hL x (List.mem_cons_of_mem _ hx)) hls, hQ]
    simp only [Steps, ht, Option.some.injEq, forall_eq', and_assoc]

theorem exec_iff_steps {I Q : σ → Prop} {C : σ → ι → Prop}
    (hstep : ∀ s l s', I s → step s l = some s' → I s' ∧ (Q s' ↔ Q s ∧ C s l))
    {s s' : σ} {ls : List ι} (hs : I s) (h : exec step s ls = some s') :
    Q s' ↔ Q s ∧ Steps step C s ls :=
  exec_iff_steps_of (L := fun _ => True) (fun s l s' hI _ ht => hstep s l s' hI ht) hs
    (fun _ _ => trivial) h

/-- When a step out of a state with `Q` keeps `Q` exactly if it meets `C`, all states of a run have `Q`
exactly if its steps all meet `C`. -/
theorem forall_states_iff_steps {I Q : σ → Prop} {C : σ → ι → Prop}
    (hstep : ∀ s l s', I s → Q s → step s l = some s' → I s' ∧ (Q s' ↔ C s l))
    {s s' : σ} {ls : List ι} (hI : I s) (hQ : Q s) (h : exec step s ls = some s') :
    (∀ pre, pre <+: ls → ∀ t, exec step s pre = some t → Q t) ↔ Steps step C s ls := by
  induction ls generalizing s with
  | nil =>
    refine iff_of_true (fun pre hpre t ht => ?_) trivial
    rw [List.prefix_nil.mp hpre, exec_nil, Option.some.injEq] at ht
    exact ht ▸ hQ
  | cons l ls ih =>
    obtain ⟨t, ht, hls⟩ := exec_cons.mp h
    obtain ⟨hIt, hiff⟩ := hstep s l t hI hQ ht
    simp only [Steps, ht, Option.some.injEq, forall_eq']
    constructor
    · -- The state after `l` is the one after the prefix `[l]`.
      intro hall
      have hQt : Q t := hall [l] ⟨ls, rfl⟩ t (exec_cons.mpr ⟨t, ht, rfl⟩)
      refine ⟨hiff.mp hQt, (ih hIt hQt hls).mp fun pre hpre u hu => ?_⟩
      exact hall (l :: pre) (List.cons_prefix_cons.mpr ⟨rfl, hpre⟩) u (exec_cons.mpr ⟨t, ht, hu⟩)
    · -- A prefix is empty, or it starts with `l`.
      rintro ⟨hc, hrest⟩ pre hpre u hu
      have hQt : Q t := hiff.mpr hc
      cases pre with
      | nil =>
        rw [exec_nil, Option.some.injEq] at hu
        exact hu ▸ hQ
      | cons m pre =>
        obtain ⟨rfl, hrestpre⟩ := List.cons_prefix_cons.mp hpre
        obtain ⟨v, hv, hu⟩ := exec_cons.mp hu
        obtain rfl : t = v := Option.some.inj (ht.symm.trans hv)
        exact (ih hIt hQt hls).mpr hrest pre hrestpre u hu

/-- A run either meets `C` throughout, or has a first part that ends right before a step that
does not. -/
theorem steps_or_breaks (C : σ → ι → Prop) {s s' : σ} {ls : List ι}
    (h : exec step s ls = some s') :
    Steps step C s ls ∨ ∃ pre l post t, ls = pre ++ l :: post ∧ exec step s pre = some t ∧
      Steps step C s pre ∧ ¬ C t l := by
  induction ls generalizing s with
  | nil => exact Or.inl trivial
  | cons l ls ih =>
    obtain ⟨t, ht, hls⟩ := exec_cons.mp h
    by_cases hc : C s l
    · rcases ih hls with hsteps | ⟨pre, m, post, u, rfl, hpre, hsteps, hbad⟩
      · left
        refine ⟨hc, fun u hu => ?_⟩
        rw [ht, Option.some.injEq] at hu
        exact hu ▸ hsteps
      · right
        refine ⟨l :: pre, m, post, u, rfl, exec_cons.mpr ⟨t, ht, hpre⟩, ⟨hc, fun v hv => ?_⟩, hbad⟩
        rw [ht, Option.some.injEq] at hv
        exact hv ▸ hsteps
    · exact Or.inr ⟨[], l, ls, s, rfl, rfl, trivial, hc⟩

/-- What holds at the end of a run and not at its start becomes true at one of its steps. -/
theorem exec_becomes {Q : σ → Prop} {s s' : σ} {ls : List ι} (h : exec step s ls = some s')
    (hs : ¬ Q s) (hs' : Q s') : ∃ pre l post t u, ls = pre ++ l :: post ∧
      exec step s pre = some t ∧ step t l = some u ∧ exec step u post = some s' ∧ ¬ Q t ∧ Q u := by
  induction ls generalizing s with
  | nil =>
    simp only [exec_nil, Option.some.injEq] at h
    exact (hs (h ▸ hs')).elim
  | cons l ls ih =>
    obtain ⟨t, ht, hls⟩ := exec_cons.mp h
    by_cases hq : Q t
    · exact ⟨[], l, ls, s, t, rfl, rfl, ht, hls, hs, hq⟩
    · obtain ⟨pre, m, post, u, v, rfl, hpre, hm, hpost, hu, hv⟩ := ih hls hq
      exact ⟨l :: pre, m, post, u, v, rfl, exec_cons.mpr ⟨t, ht, hpre⟩, hm, hpost, hu, hv⟩

end Async
