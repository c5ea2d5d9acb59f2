import Danube.PoolTrace

/-! # What a step of a pool does to one endpoint -/

namespace Danube

open Async

/-! ## One element of a filtered list -/

section Filter

variable {α : Type} {p : α → Bool} {xs : List α} {i : Nat} {x y : α}

theorem filter_set_of_pos (hx : xs[i]? = some x) (hpx : p x = true) (hpy : p y = true) :
    ∃ pre post, xs.filter p = pre ++ x :: post ∧ (xs.set i y).filter p = pre ++ y :: post := by
  obtain ⟨hlt, rfl⟩ := List.getElem?_eq_some_iff.mp hx
  refine ⟨(xs.take i).filter p, (xs.drop (i + 1)).filter p, ?_, ?_⟩
  · conv_lhs => rw [← List.take_append_drop i xs, List.drop_eq_getElem_cons hlt]
    rw [List.filter_append, List.filter_cons_of_pos hpx]
  · rw [List.set_eq_take_append_cons_drop, if_pos hlt, List.filter_append,
      List.filter_cons_of_pos hpy]

theorem filter_set_of_neg (hx : xs[i]? = some x) (hpx : p x = false) (hpy : p y = false) :
    (xs.set i y).filter p = xs.filter p := by
  obtain ⟨hlt, rfl⟩ := List.getElem?_eq_some_iff.mp hx
  rw [List.set_eq_take_append_cons_drop, if_pos hlt]
  conv_rhs => rw [← List.take_append_drop i xs, List.drop_eq_getElem_cons hlt]
  rw [List.filter_append, List.filter_append, List.filter_cons_of_neg (by simp [hpy]),
    List.filter_cons_of_neg (by simp [hpx])]

end Filter

namespace Pool

variable {ρ κ α : Type} {p q : Pool ρ}

/-- The health loops of one endpoint. -/
def loopsOf (r : Nat) (p : Pool ρ) : List HealthLoop := p.loops.filter fun l => l.owner = r

theorem mem_loopsOf {r : Nat} {l : HealthLoop} : l ∈ p.loopsOf r ↔ l ∈ p.loops ∧ l.owner = r := by
  simp [loopsOf]

/-- Nothing happens to the endpoint `r`. -/
structure Leaves (p q : Pool ρ) (r : Nat) : Prop where
  endpoint : q.endpoints[r]? = p.endpoints[r]?
  child : q.children[r]? = p.children[r]?
  log : logOf r q.trace = logOf r p.trace
  loops : q.loopsOf r = p.loopsOf r

theorem Leaves.refl (p : Pool ρ) (r : Nat) : p.Leaves p r := ⟨rfl, rfl, rfl, rfl⟩

theorem Leaves.trans {o : Pool ρ} {r : Nat} (h : p.Leaves q r) (h' : q.Leaves o r) :
    p.Leaves o r where
  endpoint := h'.endpoint.trans h.endpoint
  child := h'.child.trans h.child
  log := h'.log.trans h.log
  loops := h'.loops.trans h.loops

/-- A piece of a task on the endpoint `r`. -/
structure Runs (p q : Pool ρ) (r : Nat) (ran : Piece ρ κ α) : Prop where
  endpoint : q.endpoints[r]? = some ran.state.self
  log : logOf r q.trace = logOf r p.trace ++ ran.log
  loops : q.loopsOf r = p.loopsOf r ++ startedLoops ran.log

/-- What a piece may do to the loops. -/
structure Grows (s : Scope ρ) (ran : Piece ρ κ α) : Prop where
  ref : ran.state.ref = s.ref
  loops : ran.state.loops = s.loops ++ startedLoops ran.log
  owner : ∀ l ∈ startedLoops ran.log, l.owner = s.ref

theorem grows_of_journaled {s : Scope ρ} {ran : Piece ρ κ α} (h : Piece.Journaled s ran) :
    Grows s ran := ⟨h.ref, h.loops, fun _ hl => h.owner hl⟩

theorem commit_runs {ref : Nat} {s : Scope ρ} {ran : Piece ρ κ α} (hs : p.scope ref = some s)
    (h : Grows s ran) (actor : Actor) : p.Runs (p.commit actor ran) ref ran := by
  obtain ⟨hself, -, hloops, href⟩ := scope_eq_some.mp hs
  have href' : ran.state.ref = ref := h.ref.trans href
  constructor
  · simp only [commit, href']
    exact List.getElem?_set_self (List.getElem?_eq_some_iff.mp hself).1
  · simp only [commit, logOf_append, href', logOf_entries_self]
  · simp only [loopsOf, commit, h.loops, hloops, List.filter_append]
    congr 1
    refine List.filter_eq_self.mpr fun l hl => ?_
    simp [h.owner l hl, href]

theorem commit_leaves {ref r : Nat} {s : Scope ρ} {ran : Piece ρ κ α} (hs : p.scope ref = some s)
    (h : Grows s ran) (actor : Actor) (hr : r ≠ ref) : p.Leaves (p.commit actor ran) r := by
  obtain ⟨-, -, hloops, href⟩ := scope_eq_some.mp hs
  have href' : ran.state.ref = ref := h.ref.trans href
  constructor
  · simp only [commit, href']
    exact List.getElem?_set_ne (Ne.symm hr)
  · rfl
  · simp only [commit, logOf_append, href', logOf_entries_ne hr, List.append_nil]
  · simp only [loopsOf, commit, h.loops, hloops, List.filter_append]
    have hnone : (startedLoops ran.log).filter (fun l => decide (l.owner = r)) = [] := by
      refine List.filter_eq_nil_iff.mpr fun l hl => ?_
      simp [h.owner l hl, href, Ne.symm hr]
    rw [hnone, List.append_nil]

/-- A health task moves its loop on. -/
structure ChecksOn (p q : Pool ρ) (r : Nat) (e : Endpoint ρ) (l : HealthLoop) (position : HealthAt)
    (log : List Event) (stop : Bool) : Prop where
  self : p.endpoints[r]? = some e
  endpoint : q.endpoints[r]? = some (if stop then { e with stopEvent := true } else e)
  child : q.children[r]? = p.children[r]?
  log : logOf r q.trace = logOf r p.trace ++ log
  loops : ∃ pre post, p.loopsOf r = pre ++ l :: post ∧
    q.loopsOf r = pre ++ { l with position := position } :: post

theorem checked_on {task : Nat} {l : HealthLoop} {e : Endpoint ρ} (hl : p.loops[task]? = some l)
    (he : p.endpoints[l.owner]? = some e) (c : Client) (position : HealthAt) (log : List Event)
    (stop : Bool) :
    p.ChecksOn (p.checked task l c position log stop) l.owner e l position log stop where
  self := he
  endpoint := by
    cases stop
    · exact he
    · simp [checked, he]
  child := rfl
  log := by simp only [checked, logOf_append, logOf_entries_self]
  loops := filter_set_of_pos hl (by simp) (by simp)

theorem checked_leaves {task r : Nat} {l : HealthLoop} (hl : p.loops[task]? = some l)
    (hr : r ≠ l.owner) (c : Client) (position : HealthAt) (log : List Event) (stop : Bool) :
    p.Leaves (p.checked task l c position log stop) r where
  endpoint := by
    cases stop
    · rfl
    · simp [checked, Ne.symm hr]
  child := rfl
  log := by simp only [checked, logOf_append, logOf_entries_ne hr, List.append_nil]
  loops := filter_set_of_neg hl (by simpa using Ne.symm hr) (by simpa using Ne.symm hr)

theorem alloc_leaves {r : Nat} (h : p.Sound) (hr : r < p.endpoints.length) (es : List (Endpoint ρ)) :
    p.Leaves (p.alloc es) r where
  endpoint := List.getElem?_append_left hr
  child := List.getElem?_append_left (h.length ▸ hr)
  log := rfl
  loops := rfl

theorem alloc_fresh {r : Nat} (h : p.Sound) (hr : p.endpoints.length ≤ r) (es : List (Endpoint ρ)) :
    (p.alloc es).endpoints[r]? = es[r - p.endpoints.length]? ∧
      (p.alloc es).children[r]? = es[r - p.endpoints.length]?.map fun _ => .scheduled := by
  constructor
  · exact List.getElem?_append_right hr
  · unfold alloc
    rw [List.getElem?_append_right (h.length ▸ hr), List.getElem?_map, h.length]

theorem child_leaves {role : Role ρ} {ref r : Nat} {w : Wake} {env : Env}
    (hq : p.child role ref w env = some q) (hr : r ≠ ref) : p.Leaves q r := by
  obtain ⟨c, s, ran, -, hs, hran, rfl⟩ := child_eq_some.mp hq
  obtain ⟨hendpoint, -, hlog, hloops⟩ :=
    commit_leaves hs (grows_of_journaled (childPiece_journaled hran)) (.child ref) hr
  exact ⟨hendpoint, List.getElem?_set_ne (Ne.symm hr), hlog, hloops⟩

theorem child_runs {role : Role ρ} {r : Nat} {w : Wake} {env : Env}
    (hq : p.child role r w env = some q) : ∃ c s ran, p.children[r]? = some c ∧
      p.scope r = some s ∧ childPiece role env s c w = some ran ∧
      q.children[r]? = some (.started ran.next) ∧ p.Runs q r ran := by
  obtain ⟨c, s, ran, hc, hs, hran, rfl⟩ := child_eq_some.mp hq
  obtain ⟨hendpoint, hlog, hloops⟩ :=
    commit_runs hs (grows_of_journaled (childPiece_journaled hran)) (.child r)
  exact ⟨c, s, ran, hc, hs, hran, List.getElem?_set_self (List.getElem?_eq_some_iff.mp hc).1,
    hendpoint, hlog, hloops⟩

theorem child_callLog {role : Role ρ} {r : Nat} {w : Wake} {env : Env} {ran : Piece ρ Registering Nat}
    (hs : p.Sound) (hq : p.child role r w env = some q) (hruns : p.Runs q r ran)
    (hnext : q.children[r]? = some (.started ran.next)) :
    ∃ log, CallLog ran.next log ∧ ∀ e ∈ ran.log, e = .creating ∨ e ∈ log := by
  obtain ⟨⟨log, hwrites, htrace⟩, -⟩ := child_writes hs hq
  have hsame : log = ran.log := by
    have heq := congrArg (logOf r) htrace
    rw [logOf_append, logOf_entries_self] at heq
    exact List.append_cancel_left (heq.symm.trans hruns.log)
  rw [← hsame]
  cases hwrites with
  | starts log o hfresh hlog hasking ho =>
    rw [hnext, Option.some.injEq, Child.started.injEq] at ho
    exact ⟨log, ho ▸ hlog, by simp⟩
  | resumes k log o hk hlog hasking ho =>
    rw [hnext, Option.some.injEq, Child.started.injEq] at ho
    exact ⟨log, ho ▸ hlog, fun _ he => Or.inr he⟩

theorem stop_leaves (h : p.Sound) {ref r : Nat} (hr : r ≠ ref) : p.Leaves (p.stop ref) r := by
  unfold stop
  split
  · exact .refl p r
  · rename_i e he
    refine ⟨List.getElem?_set_ne (Ne.symm hr), rfl, ?_, ?_⟩
    · simp [logOf, Ne.symm hr]
    · split
      · rename_i task htask
        have howner := h.healthTask ref e task he htask
        rw [List.getElem?_map] at howner
        obtain ⟨l, hl, hlref⟩ := Option.map_eq_some_iff.mp howner
        have hne : decide (l.owner = r) = false := by simpa [hlref] using Ne.symm hr
        unfold loopsOf
        rw [List.modify_eq_set_getElem?, hl]
        exact filter_set_of_neg hl hne (by simpa using hne)
      · rfl

theorem foldl_stop_leaves (h : p.Sound) {refs : List Nat} {r : Nat} (hr : r ∉ refs)
    (hstarted : ∀ ref ∈ refs, ∃ o, p.children[ref]? = some (.started o)) :
    p.Leaves (refs.foldl stop p) r := by
  induction refs generalizing p with
  | nil => exact .refl p r
  | cons ref refs ih =>
    rw [List.mem_cons, not_or] at hr
    refine (stop_leaves h hr.1).trans (ih (stop_sound h (hstarted ref (by simp))) hr.2 ?_)
    intro ref' href'
    rw [stop_children]
    exact hstarted ref' (List.mem_cons_of_mem _ href')

theorem foldl_stop_stopped {refs : List Nat} {r : Nat} (hr : r ∈ refs) (hlt : r < p.endpoints.length) :
    .stopped ∈ logOf r (refs.foldl stop p).trace := by
  induction refs generalizing p with
  | nil => cases hr
  | cons ref refs ih =>
    rw [List.foldl_cons]
    by_cases hself : r = ref
    · subst hself
      obtain ⟨log, hlog, -⟩ := foldl_stop_writes refs (p.stop r)
      have hstopped : .stopped ∈ logOf r (p.stop r).trace := by
        unfold stop
        rw [List.getElem?_eq_getElem hlt]
        simp [logOf]
      rw [hlog, logOf_append]
      exact List.mem_append_left _ hstopped
    · refine ih ((List.mem_cons.mp hr).resolve_left hself) ?_
      unfold stop
      split
      · exact hlt
      · simpa using hlt

theorem loopsOf_of_length_le {r : Nat} (h : p.Sound) (hr : p.endpoints.length ≤ r) :
    p.loopsOf r = [] := by
  refine List.filter_eq_nil_iff.mpr fun l hl howner => ?_
  obtain ⟨o, ho⟩ := h.owners l hl
  have hlt := (List.getElem?_eq_some_iff.mp ho).1
  have hr' : l.owner = r := by simpa using howner
  rw [h.length] at hlt
  omega

end Pool

end Danube
