import Danube.PoolJournal
import Danube.Registration

/-! # The coroutines and health tasks of a pool -/

namespace Danube

open Async

namespace Pool

variable {ρ κ α : Type}

/-! ## One piece of a health task -/

/-- What a health task does to its loop, what it writes, and whether it sets the stop event. -/
inductive Checks (l : HealthLoop) (stopEvent : Bool) : HealthAt → List Event → Bool → Prop
  | stopped (h : l.position = .scheduled ∨ l.position = .sleeping) (hstop : stopEvent = true) :
    Checks l stopEvent (.finished .stopped) [] false
  | refused (h : l.position = .scheduled ∨ l.position = .sleeping) (hstop : stopEvent = false) :
    Checks l stopEvent (.finished .refused) [] false
  | poll (h : l.position = .scheduled ∨ l.position = .sleeping) (hstop : stopEvent = false)
    (call : Call) (n : Nat) (hcall : call.request = .healthCheck n l.clientType l.clientId) :
    Checks l stopEvent (.polling call) [.rpc call] false
  | close (call : Call) (h : l.position = .polling call) :
    Checks l stopEvent (.finished .closed) [.closed l.clientId] true
  | alive (call : Call) (h : l.position = .polling call) : Checks l stopEvent .sleeping [] false
  | failed (call : Call) (h : l.position = .polling call) :
    Checks l stopEvent (.finished .failed) [] false

theorem Checks.unfinished {l : HealthLoop} {stopEvent : Bool} {position : HealthAt} {log : List Event}
    {stop : Bool} (h : Checks l stopEvent position log stop) : ¬ l.Finished := by
  rintro ⟨why, hwhy⟩
  cases h with
  | stopped h => rcases h with h | h <;> cases hwhy.symm.trans h
  | refused h => rcases h with h | h <;> cases hwhy.symm.trans h
  | poll h => rcases h with h | h <;> cases hwhy.symm.trans h
  | close call h => cases hwhy.symm.trans h
  | alive call h => cases hwhy.symm.trans h
  | failed call h => cases hwhy.symm.trans h

/-- The pool after a health task moved its loop on. -/
def checked (p : Pool ρ) (task : Nat) (l : HealthLoop) (c : Client) (position : HealthAt)
    (log : List Event) (stop : Bool) : Pool ρ :=
  { p with
    client := c
    endpoints := if stop then p.endpoints.modify l.owner fun e => { e with stopEvent := true }
      else p.endpoints
    loops := p.loops.set task { l with position := position }
    trace := p.trace ++ log.map fun e => ⟨.health task, l.owner, e⟩ }

theorem healthTurn_checks (p : Pool ρ) (task : Nat) {l : HealthLoop} (stopEvent : Bool) (env : Env)
    (h : l.position = .scheduled ∨ l.position = .sleeping) :
    ∃ c position log, p.client.Extends c ∧ Checks l stopEvent position log false ∧
      p.healthTurn task l stopEvent env = p.checked task l c position log false := by
  have hext := l.turn_extends env.call stopEvent p.client
  unfold healthTurn
  rcases hturn : l.turn env.call stopEvent p.client with ⟨c, l', call⟩
  rw [hturn] at hext
  unfold HealthLoop.turn at hturn
  split at hturn
  · rename_i hstop
    cases hturn
    exact ⟨p.client, _, [], hext, .stopped h hstop, by simp [checked, setLoop, write]⟩
  · rename_i hstop
    have hstop' : stopEvent = false := by simpa using hstop
    dsimp only at hturn
    split at hturn
    · cases hturn
      exact ⟨_, _, [], hext, .refused h hstop', by simp [checked, setLoop, write]⟩
    · rename_i metadata _
      cases hturn
      let call : Call := ⟨l.conn, .healthCheck p.client.healthRequestId l.clientType l.clientId,
        insertProxyHeader metadata l.brokerAddr l.proxy⟩
      exact ⟨_, .polling call, [.rpc call], hext, .poll h hstop' call _ rfl, by
        simp [checked, setLoop, write, call]⟩

theorem health_eq_some {p q : Pool ρ} {task : Nat} {w : Wake} {env : Env}
    (hq : p.health task w env = some q) :
    ∃ l e c position log stop, p.loops[task]? = some l ∧ p.endpoints[l.owner]? = some e ∧
      p.client.Extends c ∧ Checks l e.stopEvent position log stop ∧
      q = p.checked task l c position log stop := by
  simp only [health, Option.bind_eq_bind, Option.bind_eq_some_iff] at hq
  obtain ⟨l, hl, e, he, hq⟩ := hq
  split at hq
  · rename_i hpos
    cases hq
    obtain ⟨c, pos, log, hc, hchecks, heq⟩ :=
      healthTurn_checks p task e.stopEvent env (Or.inl hpos)
    exact ⟨l, e, c, pos, log, false, hl, he, hc, hchecks, heq⟩
  · rename_i hpos
    cases hq
    obtain ⟨c, pos, log, hc, hchecks, heq⟩ :=
      healthTurn_checks p task e.stopEvent env (Or.inr hpos)
    exact ⟨l, e, c, pos, log, false, hl, he, hc, hchecks, heq⟩
  · -- The answer is CLOSE.
    rename_i call hpos
    cases hq
    exact ⟨l, e, p.client, _, _, true, hl, he, .refl _, .close call hpos, rfl⟩
  · -- Another answer.
    rename_i call _ _ hpos
    cases hq
    exact ⟨l, e, p.client, _, [], false, hl, he, .refl _, .alive call hpos, by
      simp [checked, setLoop]⟩
  · -- The RPC failed.
    rename_i call _ hpos
    cases hq
    exact ⟨l, e, p.client, _, [], false, hl, he, .refl _, .failed call hpos, by
      simp [checked, setLoop]⟩
  · simp at hq

/-! ## The coroutines -/

/-- Each coroutine has its endpoint and is ready for where it waits. Nothing happens on an endpoint
before its coroutine starts. -/
structure Sound (p : Pool ρ) : Prop where
  length : p.children.length = p.endpoints.length
  scheduled : ∀ r : Nat, p.children[r]? = some .scheduled → logOf r p.trace = []
  owners : ∀ l ∈ p.loops, ∃ o, p.children[l.owner]? = some (Child.started o)
  ready : ∀ (r : Nat) o e, p.children[r]? = some (.started o) → p.endpoints[r]? = some e →
    Ready p.client e o
  healthTask : ∀ (r : Nat) e task, p.endpoints[r]? = some e → e.healthTask = some task →
    (p.loops.map HealthLoop.owner)[task]? = some r

theorem sound_init (client : Client) : Sound ({ client := client } : Pool ρ) where
  length := rfl
  scheduled := by simp
  owners := by simp
  ready := by simp
  healthTask := by simp

theorem Sound.congr {p q : Pool ρ} (h : p.Sound) (hc : p.client.Extends q.client)
    (hchildren : q.children = p.children) (hlen : q.endpoints.length = p.endpoints.length)
    (htrace : ∀ r : Nat, p.children[r]? = some .scheduled → logOf r q.trace = logOf r p.trace)
    (hloops : q.loops.map HealthLoop.owner = p.loops.map HealthLoop.owner)
    (hsame : ∀ (r : Nat) e e', p.endpoints[r]? = some e → q.endpoints[r]? = some e' →
      e'.stub = e.stub ∧ (e'.healthTask = e.healthTask ∨ e'.healthTask = none)) : q.Sound where
  length := by rw [hchildren, hlen, h.length]
  scheduled r hr := by
    rw [hchildren] at hr
    rw [htrace r hr, h.scheduled r hr]
  owners l hl := by
    obtain ⟨l', hl', howner⟩ := List.mem_map.mp (hloops ▸ List.mem_map_of_mem hl)
    rw [hchildren, ← howner]
    exact h.owners l' hl'
  ready r o e' hr he' := by
    rw [hchildren] at hr
    have hlt : r < p.endpoints.length := hlen ▸ (List.getElem?_eq_some_iff.mp he').1
    have he := List.getElem?_eq_getElem hlt
    exact (h.ready r o _ hr he).mono hc fun hstub => by rwa [(hsame r _ e' he he').1]
  healthTask r e' task he' htask := by
    have hlt : r < p.endpoints.length := hlen ▸ (List.getElem?_eq_some_iff.mp he').1
    have he := List.getElem?_eq_getElem hlt
    rcases (hsame r _ e' he he').2 with heq | hnone
    · rw [hloops]
      exact h.healthTask r _ task he (heq ▸ htask)
    · rw [hnone] at htask
      cases htask

theorem commit_sound {p : Pool ρ} {ref : Nat} {s : Scope ρ} {ran : Piece ρ κ α} (h : p.Sound)
    (hs : p.scope ref = some s) (hj : Piece.Journaled s ran) (actor : Actor)
    {children : List Child} (hlen : children.length = p.children.length)
    (hother : ∀ r : Nat, r ≠ ref → children[r]? = p.children[r]?)
    {o : Outcome Registering Nat Error} (ho : children[ref]? = some (.started o))
    (hready : Ready ran.state.client ran.state.self o) :
    Sound { p.commit actor ran with children := children } := by
  obtain ⟨hself, hclient, hloops, href⟩ := scope_eq_some.mp hs
  have href' : ran.state.ref = ref := hj.ref.trans href
  have hext : p.client.Extends ran.state.client := hclient ▸ hj.client
  constructor
  · simp [commit, hlen, h.length]
  · -- A coroutine that is only scheduled has written nothing.
    intro r hr
    have hne : r ≠ ref := by
      rintro rfl
      rw [ho] at hr
      simp at hr
    simp only [commit, logOf_append, href', logOf_entries_ne hne, List.append_nil]
    exact h.scheduled r (hother r hne ▸ hr)
  · -- The loops that the piece started belong to `ref`.
    intro l hl
    simp only [commit, hj.loops, hloops, List.mem_append] at hl
    rcases hl with hl | hl
    · by_cases hr : l.owner = ref
      · exact ⟨o, hr ▸ ho⟩
      · obtain ⟨o', ho'⟩ := h.owners l hl
        exact ⟨o', (hother _ hr).trans ho'⟩
    · exact ⟨o, by rw [hj.owner hl, href]; exact ho⟩
  · -- The endpoint that ran is as its coroutine needs it.
    intro r o' e hr he
    simp only [commit, href', List.getElem?_set] at he
    split at he
    · rename_i heq
      subst heq
      rw [ho] at hr
      cases hr
      split at he
      · cases he; exact hready
      · simp at he
    · rename_i hne
      have hne' : r ≠ ref := Ne.symm hne
      exact (h.ready r o' e (hother r hne' ▸ hr) he).mono hext id
  · -- `health_task` is the last loop that was started.
    intro r e task he htask
    have hmap : ran.state.loops.map HealthLoop.owner =
        p.loops.map HealthLoop.owner ++ (startedLoops ran.log).map HealthLoop.owner := by
      rw [hj.loops, hloops, List.map_append]
    simp only [commit, hmap]
    simp only [commit, href', List.getElem?_set] at he
    have hold : ∀ {r : Nat} {e : Endpoint ρ}, p.endpoints[r]? = some e → e.healthTask = some task →
        (p.loops.map HealthLoop.owner ++ (startedLoops ran.log).map HealthLoop.owner)[task]? =
          some r := by
      intro r e he htask
      have hp := h.healthTask r e task he htask
      rw [List.getElem?_append_left (List.getElem?_eq_some_iff.mp hp).1]
      exact hp
    split at he
    · rename_i heq
      subst heq
      split at he
      · cases he
        rw [hj.healthTask] at htask
        split at htask
        · exact hold hself htask
        · -- The last of the loops that the piece started.
          rename_i hstarted
          obtain ⟨l, hl⟩ := List.getLast?_isSome.mpr hstarted |> Option.isSome_iff_exists.mp
          have howner : l.owner = ref := (hj.owner (List.mem_of_getLast? hl)).trans href
          rw [Option.some.injEq] at htask
          rw [← htask, ← hmap, List.getElem?_map, hj.loops, ← List.getLast?_eq_getElem?,
            List.getLast?_append, hl]
          simp [howner]
      · simp at he
    · exact hold he htask

theorem alloc_sound {p : Pool ρ} (h : p.Sound) (hk : p.Kept) {es : List (Endpoint ρ)}
    (hes : ∀ e ∈ es, e.healthTask = none) : (p.alloc es).Sound := by
  constructor
  · simp [alloc, h.length]
  · intro r hr
    simp only [alloc] at hr
    rcases Nat.lt_or_ge r p.children.length with hlt | hge
    · rw [List.getElem?_append_left hlt] at hr
      exact h.scheduled r hr
    · exact hk.fresh r (h.length ▸ hge)
  · intro l hl
    obtain ⟨o, ho⟩ := h.owners l hl
    exact ⟨o, (alloc_started p es _ o).mpr ho⟩
  · intro r o e hr he
    have hr' := (alloc_started p es r o).mp hr
    rcases alloc_endpoint he with he | ⟨hge, -⟩
    · exact h.ready r o e hr' he
    · have hlt : r < p.endpoints.length := h.length ▸ (List.getElem?_eq_some_iff.mp hr').1
      exact absurd hge (Nat.not_le.mpr hlt)
  · intro r e task he htask
    rcases alloc_endpoint he with he | ⟨-, he⟩
    · exact h.healthTask r e task he htask
    · rw [hes e he] at htask
      cases htask

theorem child_sound {role : Role ρ} {p q : Pool ρ} (h : p.Sound) {ref : Nat} {w : Wake} {env : Env}
    (hq : p.child role ref w env = some q) : q.Sound := by
  obtain ⟨c, s, ran, hc, hs, hran, rfl⟩ := child_eq_some.mp hq
  have hlt := (List.getElem?_eq_some_iff.mp hc).1
  have hself := (scope_eq_some.mp hs).1
  have hclient := (scope_eq_some.mp hs).2.1
  have hready : Ready ran.state.client ran.state.self ran.next := by
    rcases childPiece_cases hran with ⟨-, -, rfl⟩ | ⟨k, rfl, hresume⟩
    · obtain ⟨r, hr, hshaped⟩ := Endpoint.create_shaped (α := Nat) role env s
      rw [hr]
      exact hshaped.ready
    · refine (Endpoint.resume_shaped role env (fun hconn => ?_) hresume).ready
      exact (h.ready ref _ s.self hc hself).stub _ rfl hconn
  exact commit_sound h hs (childPiece_journaled hran) _ (by simp)
    (fun r hr => List.getElem?_set_ne (Ne.symm hr)) (List.getElem?_set_self hlt) hready

theorem health_sound {p q : Pool ρ} (h : p.Sound) {task : Nat} {w : Wake} {env : Env}
    (hq : p.health task w env = some q) : q.Sound := by
  obtain ⟨l, e, c, pos, log, stop, hl, he, hc, -, rfl⟩ := health_eq_some hq
  obtain ⟨o, ho⟩ := h.owners l (List.mem_of_getElem? hl)
  refine h.congr hc rfl ?_ ?_ ?_ ?_
  · cases stop <;> simp [checked]
  · intro r hr
    have hne : r ≠ l.owner := by
      rintro rfl
      simp [ho] at hr
    simp [checked, logOf_entries_ne hne]
  · refine List.ext_getElem? fun i => ?_
    simp only [checked, List.getElem?_map, List.getElem?_set]
    split
    · rename_i heq
      subst heq
      rw [hl, if_pos (List.getElem?_eq_some_iff.mp hl).1]
      rfl
    · rfl
  · intro r x x' hx hx'
    cases stop
    · simp only [checked, Bool.false_eq_true, if_false] at hx'
      rw [hx, Option.some.injEq] at hx'
      exact hx' ▸ ⟨rfl, Or.inl rfl⟩
    · simp only [checked, if_true, List.getElem?_modify, hx] at hx'
      split at hx' <;> cases hx' <;> exact ⟨rfl, Or.inl rfl⟩

theorem stop_sound {p : Pool ρ} (h : p.Sound) {ref : Nat}
    (hstarted : ∃ o, p.children[ref]? = some (.started o)) : (p.stop ref).Sound := by
  obtain ⟨o, ho⟩ := hstarted
  unfold stop
  split
  · exact h
  · rename_i e he
    refine h.congr (.refl _) rfl (by simp) ?_ ?_ ?_
    · intro r hr
      have hne : r ≠ ref := by
        rintro rfl
        simp [ho] at hr
      simp [logOf, Ne.symm hne]
    · split
      · refine List.ext_getElem? fun i => ?_
        rw [List.getElem?_map, List.getElem?_map, List.getElem?_modify]
        split <;> cases p.loops[i]? <;> simp
      · rfl
    · intro r x x' hx hx'
      rw [List.getElem?_set] at hx'
      split at hx'
      · rename_i heq
        subst heq
        rw [he, Option.some.injEq] at hx
        subst hx
        split at hx'
        · cases hx'
          exact ⟨rfl, Or.inr rfl⟩
        · simp at hx'
      · rw [hx, Option.some.injEq] at hx'
        exact hx' ▸ ⟨rfl, Or.inl rfl⟩

end Pool

end Danube
