import Danube.PoolSteps

/-!
# Endpoints that nobody stops

A health loop whose endpoint is never stopped ends with what the broker or the token supplier answers.
-/

namespace Danube

open Async

def Event.isHealthCheck : Event → Bool
  | .rpc call => match call.request with
    | .healthCheck .. => true
    | _ => false
  | _ => false

/-- The coroutine returned or raised. -/
def Child.done : Child → Bool
  | .started (.ret _) | .started (.raise _) => true
  | _ => false

theorem childPiece_of_over {ρ : Type} {role : Role ρ} {env : Env} {s : Scope ρ} {c : Child} {w : Wake}
    (h : c.done = true) : Pool.childPiece role env s c w = none := by
  cases c with
  | scheduled => cases h
  | started o => cases o <;> first | rfl | cases h

theorem CallLog.not_closed {α : Type} {o : Outcome Registering α Error} {log : List Event}
    (h : CallLog o log) (id : Nat) : .closed id ∉ log := by
  intro hmem
  rcases h.mem hmem with hinner | ⟨-, id', -, hid⟩ | ⟨err, herr⟩
  · exact hinner
  · cases hid
  · cases herr

namespace Pool

variable {ρ : Type} {p q : Pool ρ} {r : Nat}

/-- The coroutine of `r` is over. -/
def CoroutineOver (p : Pool ρ) (r : Nat) : Prop := ∃ c, p.children[r]? = some c ∧ c.done = true

/-- How many `HealthCheck` RPCs were issued for the endpoint `r`. -/
def healthChecks (p : Pool ρ) (r : Nat) : Nat := (logOf r p.trace).countP Event.isHealthCheck

/-- The broker answered a health check of `r` with CLOSE. -/
def CloseAnswered (p : Pool ρ) (r : Nat) : Prop := ∃ id, .closed id ∈ logOf r p.trace

/-- The broker closed `r`, or every health loop of `r` ended with an error of its RPC or its token. -/
def Ended (p : Pool ρ) (r : Nat) : Prop :=
  p.CloseAnswered r ∨
    ∀ l ∈ p.loopsOf r, l.position = .finished .failed ∨ l.position = .finished .refused

/-- The stop event of `r` is set, or no health loop of `r` goes on. -/
def Over (p : Pool ρ) (r : Nat) : Prop :=
  (∀ e, p.endpoints[r]? = some e → e.stopEvent = true) ∨ ∀ l ∈ p.loopsOf r, l.Finished

theorem closeAnswered_append {log : List Event} (hlog : logOf r q.trace = logOf r p.trace ++ log)
    (hnone : ∀ id, .closed id ∉ log) : q.CloseAnswered r ↔ p.CloseAnswered r := by
  unfold CloseAnswered
  rw [hlog]
  refine exists_congr fun id => ?_
  rw [List.mem_append, or_iff_left (hnone id)]

/-! ## Up to the end of the coroutines -/

/-- Only CLOSE answers have set the stop event of `r`, and nothing cancelled its health loops. -/
structure Unstopped (p : Pool ρ) (r : Nat) : Prop where
  stop : ∀ e, p.endpoints[r]? = some e → (e.stopEvent = true ↔ p.CloseAnswered r)
  loops : ∀ l ∈ p.loopsOf r, ∀ why, l.position = .finished why →
    p.CloseAnswered r ∨ why = .failed ∨ why = .refused

theorem Unstopped.leaves (h : p.Unstopped r) (hleaves : p.Leaves q r) : q.Unstopped r where
  stop := by
    unfold CloseAnswered
    rw [hleaves.endpoint, hleaves.log]
    exact h.stop
  loops := by
    unfold CloseAnswered
    rw [hleaves.loops, hleaves.log]
    exact h.loops

theorem Unstopped.alloc (h : p.Unstopped r) (hs : p.Sound) (hk : p.Kept) {es : List (Endpoint ρ)}
    (hes : ∀ e ∈ es, Fresh p.client.uri e) : (p.alloc es).Unstopped r := by
  rcases Nat.lt_or_ge r p.endpoints.length with hlt | hge
  · exact h.leaves (alloc_leaves hs hlt es)
  · have hlog : ¬ (p.alloc es).CloseAnswered r := by
      rintro ⟨id, hid⟩
      have hnil : logOf r (p.alloc es).trace = [] := hk.fresh r hge
      rw [hnil] at hid
      cases hid
    refine ⟨fun e he => iff_of_false ?_ hlog, fun l hl => ?_⟩
    · rcases alloc_endpoint he with he | ⟨-, he⟩
      · rw [List.getElem?_eq_none hge] at he
        cases he
      · simp [(hes e he).stopEvent]
    · have hnil : p.loopsOf r = [] := loopsOf_of_length_le hs hge
      change l ∈ p.loopsOf r at hl
      rw [hnil] at hl
      cases hl

theorem Unstopped.child {role : Role ρ} {ref : Nat} {w : Wake} {env : Env} (h : p.Unstopped r)
    (hs : p.Sound) (hq : p.child role ref w env = some q) : q.Unstopped r := by
  by_cases hr : r = ref
  · subst hr
    obtain ⟨c, s, ran, hc, hsc, hran, hnext, hruns⟩ := child_runs hq
    have hj := childPiece_journaled hran
    obtain ⟨log, hcall, hmem⟩ := child_callLog hs hq hruns hnext
    obtain ⟨hself, hlog, hloops⟩ := hruns
    have hiff := closeAnswered_append hlog fun id hid =>
      hcall.not_closed id ((hmem _ hid).resolve_left (by simp))
    constructor
    · intro e he
      rw [hself.symm.trans he |> Option.some.inj |>.symm, hj.stopEvent]
      exact (h.stop s.self (scope_eq_some.mp hsc).1).trans hiff.symm
    · intro l hl why hwhy
      rcases List.mem_append.mp (hloops ▸ hl) with hl | hl
      · exact (h.loops l hl why hwhy).imp_left hiff.mpr
      · rw [hj.scheduled hl] at hwhy
        cases hwhy
  · exact h.leaves (child_leaves hq hr)

theorem Unstopped.checksOn {e : Endpoint ρ} {l : HealthLoop} {position : HealthAt}
    {log : List Event} {stop : Bool} (h : p.Unstopped r) (hon : p.ChecksOn q r e l position log stop)
    (hchecks : Checks l e.stopEvent position log stop) : q.Unstopped r := by
  have hstop := h.stop e hon.self
  obtain ⟨pre, post, hpre, hpost⟩ := hon.loops
  have hloops : ∀ {C : Prop}, (p.CloseAnswered r → C) →
      (∀ why, position = .finished why → C ∨ why = .failed ∨ why = .refused) →
      ∀ l' ∈ q.loopsOf r, ∀ why, l'.position = .finished why → C ∨ why = .failed ∨ why = .refused := by
    intro C hmono hnew l' hl' why hwhy
    have hold := h.loops l'
    rw [hpre] at hold
    rw [hpost] at hl'
    rcases List.mem_append.mp hl' with hl' | hl'
    · exact (hold (by simp [hl']) why hwhy).imp_left hmono
    · rcases List.mem_cons.mp hl' with rfl | hl'
      · exact hnew why hwhy
      · exact (hold (by simp [hl']) why hwhy).imp_left hmono
  by_cases hclose : stop = true
  · -- The health check was answered CLOSE.
    subst hclose
    have hanswered : q.CloseAnswered r := by
      cases hchecks with
      | close call hcall => exact ⟨l.clientId, by rw [hon.log]; simp⟩
    refine ⟨fun e' he' => iff_of_true ?_ hanswered, hloops (fun _ => hanswered) fun _ _ => Or.inl hanswered⟩
    rw [hon.endpoint, Option.some.injEq] at he'
    rw [← he']
    rfl
  · have hiff : q.CloseAnswered r ↔ p.CloseAnswered r := closeAnswered_append hon.log fun id => by
      cases hchecks with
      | close => exact (hclose rfl).elim
      | _ => simp
    rw [Bool.not_eq_true] at hclose
    subst hclose
    refine ⟨fun e' he' => ?_, hloops hiff.mpr fun why hwhy => ?_⟩
    · rw [hon.endpoint, Option.some.injEq] at he'
      rw [← he']
      exact hstop.trans hiff.symm
    · cases hchecks with
      | stopped _ hset => exact Or.inl (hiff.mpr (hstop.mp hset))
      | refused => cases hwhy; exact Or.inr (Or.inr rfl)
      | failed => cases hwhy; exact Or.inr (Or.inl rfl)
      | poll => cases hwhy
      | alive => cases hwhy

theorem Unstopped.health {task : Nat} {w : Wake} {env : Env} (h : p.Unstopped r)
    (hq : p.health task w env = some q) : q.Unstopped r := by
  obtain ⟨l, e, c, position, log, stop, hl, he, -, hchecks, rfl⟩ := health_eq_some hq
  by_cases hr : r = l.owner
  · subst hr
    exact h.checksOn (checked_on hl he c position log stop) hchecks
  · exact h.leaves (checked_leaves hl hr c position log stop)

theorem Unstopped.ended_iff (h : p.Unstopped r) (hlt : r < p.endpoints.length) :
    p.Ended r ↔ p.Over r := by
  have hstop := h.stop _ (List.getElem?_eq_getElem hlt)
  constructor
  · rintro (hclose | hloops)
    · refine Or.inl fun e he => ?_
      rw [List.getElem?_eq_getElem hlt, Option.some.injEq] at he
      exact he ▸ hstop.mpr hclose
    · exact Or.inr fun l hl => (hloops l hl).elim (fun hf => ⟨_, hf⟩) fun hf => ⟨_, hf⟩
  · rintro (hset | hloops)
    · exact Or.inl (hstop.mp (hset _ (List.getElem?_eq_getElem hlt)))
    · by_cases hclose : p.CloseAnswered r
      · exact Or.inl hclose
      · refine Or.inr fun l hl => ?_
        obtain ⟨why, hwhy⟩ := hloops l hl
        rcases (h.loops l hl why hwhy).resolve_left hclose with rfl | rfl
        · exact Or.inl hwhy
        · exact Or.inr hwhy

/-! ## After it -/

/-- Only a health task does something to `r`. -/
def OnlyHealth (p q : Pool ρ) (r : Nat) : Prop :=
  p.Leaves q r ∨ ∃ e l position log stop, p.ChecksOn q r e l position log stop ∧
    Checks l e.stopEvent position log stop

theorem CoroutineOver.onlyHealth (h : p.CoroutineOver r) (hq : p.OnlyHealth q r) :
    q.CoroutineOver r := by
  have hchild : q.children[r]? = p.children[r]? := by
    rcases hq with hleaves | ⟨e, l, position, log, stop, hon, -⟩
    · exact hleaves.child
    · exact hon.child
  unfold CoroutineOver
  rw [hchild]
  exact h

theorem CoroutineOver.not_child (h : p.CoroutineOver r) {role : Role ρ} {w : Wake} {env : Env} :
    p.child role r w env ≠ some q := by
  intro hq
  obtain ⟨c, hc, hover⟩ := h
  obtain ⟨c', s, ran, hc', -, hran, -⟩ := child_eq_some.mp hq
  rw [hc, Option.some.injEq] at hc'
  rw [← hc', childPiece_of_over hover] at hran
  cases hran

theorem onlyHealth_of_health {task : Nat} {w : Wake} {env : Env} (hq : p.health task w env = some q)
    (r : Nat) : p.OnlyHealth q r := by
  obtain ⟨l, e, c, position, log, stop, hl, he, -, hchecks, rfl⟩ := health_eq_some hq
  by_cases hr : r = l.owner
  · subst hr
    exact Or.inr ⟨e, l, position, log, stop, checked_on hl he c position log stop, hchecks⟩
  · exact Or.inl (checked_leaves hl hr c position log stop)

/-- A step in which no send, receive loop or `stop()` runs on `r`. -/
inductive Unserved (p q : Pool ρ) (r : Nat) : Prop
  | leaves (h : p.Leaves q r)
  | builds (es : List (Endpoint ρ)) (hes : ∀ e ∈ es, Fresh p.client.uri e) (hq : q = p.alloc es)
  | starts (es : List (Endpoint ρ)) (hes : ∀ e ∈ es, Fresh p.client.uri e) (role : Role ρ) (w : Wake)
    (env : Env) (hq : (p.alloc es).child role p.endpoints.length w env = some q)
  | child (role : Role ρ) (ref : Nat) (w : Wake) (env : Env) (hq : p.child role ref w env = some q)
  | health (task : Nat) (w : Wake) (env : Env) (hq : p.health task w env = some q)

theorem Unserved.unstopped (h : p.Unserved q r) (hs : p.Sound) (hk : p.Kept)
    (hunstopped : p.Unstopped r) : q.Unstopped r := by
  cases h with
  | leaves hleaves => exact hunstopped.leaves hleaves
  | builds es hes hq => exact hq ▸ hunstopped.alloc hs hk hes
  | starts es hes role w env hq =>
    exact (hunstopped.alloc hs hk hes).child (alloc_sound hs hk fun e he => (hes e he).healthTask) hq
  | child role ref w env hq => exact hunstopped.child hs hq
  | health task w env hq => exact hunstopped.health hq

theorem Unserved.onlyHealth (h : p.Unserved q r) (hs : p.Sound) (hlt : r < p.endpoints.length)
    (hover : p.CoroutineOver r) : p.OnlyHealth q r := by
  cases h with
  | leaves hleaves => exact Or.inl hleaves
  | builds es hes hq => exact Or.inl (hq ▸ alloc_leaves hs hlt es)
  | starts es hes role w env hq =>
    exact Or.inl ((alloc_leaves hs hlt es).trans (child_leaves hq (Nat.ne_of_lt hlt)))
  | child role ref w env hq =>
    refine Or.inl (child_leaves hq ?_)
    rintro rfl
    exact hover.not_child hq
  | health task w env hq => exact onlyHealth_of_health hq r

/-- No health check is begun, and none will be. -/
theorem Over.onlyHealth (h : p.Over r) (hq : p.OnlyHealth q r) :
    q.Over r ∧ q.healthChecks r = p.healthChecks r := by
  rcases hq with hleaves | ⟨e, l, position, log, stop, hon, hchecks⟩
  · refine ⟨?_, by unfold healthChecks; rw [hleaves.log]⟩
    unfold Over
    rw [hleaves.endpoint, hleaves.loops]
    exact h
  · obtain ⟨pre, post, hpre, -⟩ := hon.loops
    -- The loop went on, so it is the stop event that is set.
    have hset : e.stopEvent = true := by
      rcases h with hstop | hloops
      · exact hstop e hon.self
      · exact (hchecks.unfinished (hloops l (by rw [hpre]; simp))).elim
    have hnone : log.countP Event.isHealthCheck = 0 := by
      rw [hset] at hchecks
      cases hchecks with
      | poll _ hclear => cases hclear
      | _ => rfl
    constructor
    · refine Or.inl fun e' he' => ?_
      rw [hon.endpoint, Option.some.injEq] at he'
      rw [← he']
      cases stop
      · exact hset
      · rfl
    · unfold healthChecks
      rw [hon.log, List.countP_append, hnone]
      rfl

/-! ## A loop that goes on polls -/

/-- One piece of the health task `i`. -/
def check (i : Nat) (p : Pool ρ) (l : Wake × Env) : Option (Pool ρ) := p.health i l.1 l.2

theorem turn_polls (l : HealthLoop) (c : Client) : ∃ c' l' call,
    l.turn {} false c = (c', l', some call) ∧ Event.isHealthCheck (.rpc call) = true := by
  have htoken : ∃ metadata, c.attachTokenIfNeeded {} = .ok metadata := by
    unfold Client.attachTokenIfNeeded ConnectionOptions.attachTokenIfNeeded
      ConnectionOptions.resolveToken
    split
    · rename_i herr
      split at herr <;> cases herr
    · exact ⟨_, rfl⟩
  obtain ⟨metadata, hmetadata⟩ := htoken
  have hok : Client.attachTokenIfNeeded { c with healthRequestId := c.healthRequestId + 1 } {} =
    .ok metadata := hmetadata
  let call : Call := ⟨l.conn, .healthCheck c.healthRequestId l.clientType l.clientId,
    insertProxyHeader metadata l.brokerAddr l.proxy⟩
  refine ⟨{ c with healthRequestId := c.healthRequestId + 1 }, { l with position := .polling call },
    call, ?_, rfl⟩
  simp only [HealthLoop.turn, Bool.false_eq_true, if_false, hok, call]

theorem check_turn {i : Nat} {l : HealthLoop} {e : Endpoint ρ} {w : Wake} (hl : p.loops[i]? = some l)
    (he : p.endpoints[l.owner]? = some e) (hclear : e.stopEvent = false)
    (hw : l.position = .scheduled ∧ w = .start ∨ l.position = .sleeping ∧ w = .timer) :
    ∃ q, p.check i (w, {}) = some q ∧ q.healthChecks l.owner = p.healthChecks l.owner + 1 := by
  obtain ⟨c, l', call, hturn, hcall⟩ := turn_polls l p.client
  have hq : p.health i w {} = some (p.healthTurn i l false {}) := by
    rcases hw with ⟨hpos, rfl⟩ | ⟨hpos, rfl⟩ <;> simp [health, hl, he, hpos, hclear]
  refine ⟨_, hq, ?_⟩
  have hlog : logOf l.owner (p.healthTurn i l false {}).trace = logOf l.owner p.trace ++ [.rpc call] := by
    unfold healthTurn
    simp only [hturn, write, setLoop, logOf_append, Option.toList_some]
    rw [logOf_entries_self]
    rfl
  unfold healthChecks
  rw [hlog, List.countP_append, List.countP_singleton, if_pos hcall]

theorem exists_check (h : ¬ p.Over r) (hlt : r < p.endpoints.length) : ∃ i ls q,
    exec (check i) p ls = some q ∧ q.healthChecks r = p.healthChecks r + 1 := by
  unfold Over at h
  push Not at h
  obtain ⟨⟨e, he, hset⟩, l, hmem, hgoes⟩ := h
  obtain ⟨hloop, rfl⟩ := mem_loopsOf.mp hmem
  obtain ⟨i, hl⟩ := List.mem_iff_getElem?.mp hloop
  have hclear : e.stopEvent = false := by simpa using hset
  refine ⟨i, ?_⟩
  cases hpos : l.position with
  | scheduled =>
    obtain ⟨q, hq, hcount⟩ := check_turn hl he hclear (Or.inl ⟨hpos, rfl⟩)
    exact ⟨[(.start, {})], q, exec_cons.mpr ⟨q, hq, rfl⟩, hcount⟩
  | sleeping =>
    obtain ⟨q, hq, hcount⟩ := check_turn hl he hclear (Or.inr ⟨hpos, rfl⟩)
    exact ⟨[(.timer, {})], q, exec_cons.mpr ⟨q, hq, rfl⟩, hcount⟩
  | polling call =>
    -- The broker answers that all is well, and the loop sleeps first.
    let p' := p.setLoop i { l with position := .sleeping }
    have hp' : p.check i (.answer (.health .ok), {}) = some p' := by
      simp [check, health, hl, he, hpos, Wake.answer, p']
    have hl' : p'.loops[i]? = some { l with position := .sleeping } :=
      List.getElem?_set_self (List.getElem?_eq_some_iff.mp hl).1
    obtain ⟨q, hq, hcount⟩ := check_turn hl' he hclear (Or.inr ⟨rfl, rfl⟩)
    exact ⟨[(.answer (.health .ok), {}), (.timer, {})], q,
      exec_cons.mpr ⟨p', hp', exec_cons.mpr ⟨q, hq, rfl⟩⟩, hcount⟩
  | finished why => exact (hgoes ⟨why, hpos⟩).elim

/-! ## A client whose health tasks are these -/

section Client

variable {σ ι : Type} {step : σ → ι → Option σ} {pool : σ → Pool ρ}

theorem exec_checks (hruns : ∀ s i l q, (pool s).check i l = some q → ∃ m s', step s m = some s' ∧
      pool s' = q) {s : σ} {i : Nat} {ls : List (Wake × Env)} {q : Pool ρ}
    (h : exec (check i) (pool s) ls = some q) : ∃ ms s', exec step s ms = some s' ∧ pool s' = q := by
  induction ls generalizing s with
  | nil => exact ⟨[], s, rfl, Option.some.inj h⟩
  | cons l ls ih =>
    obtain ⟨p, hp, hls⟩ := exec_cons.mp h
    obtain ⟨m, t, hm, rfl⟩ := hruns s i l p hp
    obtain ⟨ms, s', hms, hs'⟩ := ih hls
    exact ⟨m :: ms, s', exec_cons.mpr ⟨t, hm, hms⟩, hs'⟩

/-- When only health tasks do something to `r`, and these can always run, no health check of `r` is
begun any more exactly if `r` is over. -/
theorem healthChecks_same_iff {I : σ → Prop} (hruns : ∀ s i l q, (pool s).check i l = some q →
      ∃ m s', step s m = some s' ∧ pool s' = q)
    (hstep : ∀ s l s', I s → step s l = some s' → I s' ∧ (pool s).OnlyHealth (pool s') r)
    {s : σ} (hs : I s) (hlt : r < (pool s).endpoints.length) :
    (∀ ls s', exec step s ls = some s' → (pool s').healthChecks r = (pool s).healthChecks r) ↔
      (pool s).Over r := by
  constructor
  · intro hend
    by_contra hnot
    obtain ⟨i, ls, q, hq, hcount⟩ := exists_check hnot hlt
    obtain ⟨ms, s', hrun, rfl⟩ := exec_checks hruns hq
    have hsame := hend ms s' hrun
    omega
  · intro hover ls s' hrun
    refine (exec_invariant (P := fun t => I t ∧ (pool t).Over r ∧
      (pool t).healthChecks r = (pool s).healthChecks r) ?_ ⟨hs, hover, rfl⟩ hrun).2.2
    rintro t l u ⟨ht, hover, hcount⟩ hl
    obtain ⟨hu, honly⟩ := hstep t l u ht hl
    obtain ⟨hover', hcount'⟩ := hover.onlyHealth honly
    exact ⟨hu, hover', hcount'.trans hcount⟩

end Client

end Pool

end Danube
