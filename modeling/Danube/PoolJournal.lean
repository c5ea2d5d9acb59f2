import Danube.Pool
import Danube.Journaled

/-! # The journals of a pool -/

namespace Danube

open Async

/-- The journal of one endpoint: the events about it, whatever task they happened in. -/
def logOf (ref : Nat) (trace : List Entry) : List Event :=
  (trace.filter fun x => x.ref = ref).map Entry.event

@[simp] theorem logOf_nil (ref : Nat) : logOf ref [] = [] := rfl

@[simp] theorem logOf_append (ref : Nat) (t u : List Entry) :
    logOf ref (t ++ u) = logOf ref t ++ logOf ref u := by
  simp [logOf]

theorem logOf_entries_self (actor : Actor) (ref : Nat) (log : List Event) :
    logOf ref (log.map fun e => ⟨actor, ref, e⟩) = log := by
  induction log with
  | nil => rfl
  | cons e es ih => simpa [logOf] using ih

theorem logOf_entries_ne {actor : Actor} {ref r : Nat} (h : r ≠ ref) (log : List Event) :
    logOf r (log.map fun e => ⟨actor, ref, e⟩) = [] := by
  induction log with
  | nil => rfl
  | cons e es ih => simp [logOf, Ne.symm h]

theorem mem_logOf {ref : Nat} {trace : List Entry} {e : Event} :
    e ∈ logOf ref trace ↔ ∃ actor, ⟨actor, ref, e⟩ ∈ trace := by
  simp only [logOf, List.mem_map, List.mem_filter, decide_eq_true_eq]
  constructor
  · rintro ⟨⟨a, r, f⟩, ⟨hx, rfl⟩, rfl⟩
    exact ⟨a, hx⟩
  · rintro ⟨a, ha⟩
    exact ⟨⟨a, ref, e⟩, ⟨ha, rfl⟩, rfl⟩

/-- What the journal of an endpoint says of it. -/
def viewOf (uri : String) (ref : Nat) (trace : List Entry) : View :=
  replay View.apply (View.init uri) (logOf ref trace)

namespace Pool

variable {ρ κ α : Type}

/-- Every endpoint is what its journal says, and every event fits the journal before it. -/
structure Kept (p : Pool ρ) : Prop where
  tracks : ∀ r e, p.endpoints[r]? = some e → Tracks (viewOf p.client.uri r p.trace) e
  fits : ∀ r e, p.endpoints[r]? = some e →
    Always View.apply (Fits e.topic r) (View.init p.client.uri) (logOf r p.trace)
  fresh : ∀ r, p.endpoints.length ≤ r → logOf r p.trace = []
  connected : ∀ r a conn, .connected a conn ∈ logOf r p.trace →
    p.client.connection? a.brokerUrl a.connectUrl = some conn

theorem scope_eq_some {p : Pool ρ} {ref : Nat} {s : Scope ρ} :
    p.scope ref = some s ↔
      p.endpoints[ref]? = some s.self ∧ s.client = p.client ∧ s.loops = p.loops ∧ s.ref = ref := by
  obtain ⟨c, ls, r, e⟩ := s
  simp only [scope, Option.map_eq_some_iff, Scope.mk.injEq]
  constructor
  · rintro ⟨e', he, rfl, rfl, rfl, rfl⟩
    exact ⟨he, rfl, rfl, rfl⟩
  · rintro ⟨he, rfl, rfl, rfl⟩
    exact ⟨e, he, rfl, rfl, rfl, rfl⟩

theorem kept_init (client : Client) : Kept ({ client := client } : Pool ρ) where
  tracks := by simp
  fits := by simp
  fresh := by simp
  connected := by simp

theorem Kept.congr {p q : Pool ρ} (h : p.Kept) (hc : p.client.Extends q.client)
    (ht : q.trace = p.trace)
    (he : ∀ r : Nat, (q.endpoints[r]?).map (fun e => (e.topic, e.address, e.stub, e.id)) =
      (p.endpoints[r]?).map fun e => (e.topic, e.address, e.stub, e.id))
    (hlen : q.endpoints.length = p.endpoints.length) : q.Kept := by
  have hback : ∀ (r : Nat) (e : Endpoint ρ), q.endpoints[r]? = some e → ∃ e', p.endpoints[r]? = some e' ∧
      e'.topic = e.topic ∧ e'.address = e.address ∧ e'.stub = e.stub ∧ e'.id = e.id := by
    intro r e hr
    have := he r
    rw [hr] at this
    obtain ⟨e', he', heq⟩ := Option.map_eq_some_iff.mp this.symm
    simp only [Prod.mk.injEq] at heq
    exact ⟨e', he', heq⟩
  constructor
  · intro r e hr
    obtain ⟨e', he', -, haddr, hstub, hid⟩ := hback r e hr
    have := h.tracks r e' he'
    rw [ht, hc.uri]
    exact ⟨haddr ▸ this.address, hstub ▸ this.stub, hid ▸ this.id⟩
  · intro r e hr
    obtain ⟨e', he', htopic, -⟩ := hback r e hr
    rw [ht, hc.uri, ← htopic]
    exact h.fits r e' he'
  · intro r hr
    rw [ht]
    exact h.fresh r (hlen ▸ hr)
  · intro r a conn hmem
    rw [ht] at hmem
    exact hc.connection? (h.connected r a conn hmem)

theorem commit_kept {p : Pool ρ} {ref : Nat} {s : Scope ρ} {ran : Piece ρ κ α} (h : p.Kept)
    (hs : p.scope ref = some s) (hj : Piece.Journaled s ran) (actor : Actor) :
    (p.commit actor ran).Kept := by
  obtain ⟨hself, hclient, -, href⟩ := scope_eq_some.mp hs
  have hlt : ref < p.endpoints.length := (List.getElem?_eq_some_iff.mp hself).1
  have href' : ran.state.ref = ref := hj.ref.trans href
  have hext : p.client.Extends ran.state.client := hclient ▸ hj.client
  have huri : ran.state.client.uri = p.client.uri := hext.uri
  have hlogSelf : logOf ref (p.commit actor ran).trace = logOf ref p.trace ++ ran.log := by
    simp only [commit, logOf_append, href', logOf_entries_self]
  have hlogNe : ∀ r, r ≠ ref → logOf r (p.commit actor ran).trace = logOf r p.trace := by
    intro r hr
    simp only [commit, logOf_append, href', logOf_entries_ne hr, List.append_nil]
  constructor
  · intro r e hr
    simp only [commit, href', List.getElem?_set] at hr
    simp only [viewOf]
    split at hr
    · rename_i heq
      subst heq
      simp only [Option.some.injEq] at hr
      subst hr
      rw [hlogSelf, replay_append]
      simp only [commit, huri]
      exact hj.tracks _ (h.tracks ref s.self hself)
    · rename_i hne
      rw [hlogNe r (Ne.symm hne)]
      simp only [commit, huri]
      exact h.tracks r e hr
  · intro r e hr
    simp only [commit, href', List.getElem?_set] at hr
    split at hr
    · rename_i heq
      subst heq
      simp only [Option.some.injEq] at hr
      subst hr
      rw [hlogSelf, always_append]
      have hold := h.fits ref s.self hself
      have hnew := hj.fits _ (h.tracks ref s.self hself)
      rw [href] at hnew
      rw [hj.topic]
      simp only [commit, huri]
      exact ⟨hold, hnew⟩
    · rename_i hne
      rw [hlogNe r (Ne.symm hne)]
      simpa only [commit, huri] using h.fits r e hr
  · -- No event is on an endpoint that is not there.
    intro r hr
    simp only [commit, List.length_set] at hr
    rw [hlogNe r (by omega)]
    exact h.fresh r hr
  · -- What was connected is in the cache.
    intro r a conn hmem
    by_cases hr : r = ref
    · subst hr
      rw [hlogSelf, List.mem_append] at hmem
      rcases hmem with hmem | hmem
      · exact hext.connection? (h.connected r a conn hmem)
      · exact hj.connected a conn hmem
    · rw [hlogNe r hr] at hmem
      exact hext.connection? (h.connected r a conn hmem)

/-- An endpoint as its constructor leaves it. -/
structure Fresh (uri : String) (e : Endpoint ρ) : Prop where
  address : e.address = ⟨uri, uri, false⟩
  stub : e.stub = none
  id : e.id = 0
  stopEvent : e.stopEvent = false
  healthTask : e.healthTask = none

theorem Fresh.tracks {uri : String} {e : Endpoint ρ} (h : Fresh uri e) :
    Tracks (View.init uri) e := ⟨h.address, h.stub, h.id⟩

theorem alloc_endpoint {p : Pool ρ} {es : List (Endpoint ρ)} {r : Nat} {e : Endpoint ρ}
    (h : (p.alloc es).endpoints[r]? = some e) :
    p.endpoints[r]? = some e ∨ p.endpoints.length ≤ r ∧ e ∈ es := by
  unfold alloc at h
  rcases Nat.lt_or_ge r p.endpoints.length with hlt | hge
  · exact Or.inl (by rwa [List.getElem?_append_left hlt] at h)
  · rw [List.getElem?_append_right hge] at h
    exact Or.inr ⟨hge, List.mem_of_getElem? h⟩

theorem alloc_started (p : Pool ρ) (es : List (Endpoint ρ)) (r : Nat)
    (o : Outcome Registering Nat Error) :
    (p.alloc es).children[r]? = some (.started o) ↔ p.children[r]? = some (.started o) := by
  simp only [alloc]
  rcases Nat.lt_or_ge r p.children.length with hlt | hge
  · rw [List.getElem?_append_left hlt]
  · rw [List.getElem?_append_right hge, List.getElem?_eq_none hge]
    refine iff_of_false (fun hr => ?_) (by simp)
    obtain ⟨e, -, he⟩ := List.mem_map.mp (List.mem_of_getElem? hr)
    cases he

theorem alloc_kept {p : Pool ρ} (h : p.Kept) {es : List (Endpoint ρ)}
    (hes : ∀ e ∈ es, Fresh p.client.uri e) : (p.alloc es).Kept := by
  constructor
  · intro r e hr
    rcases alloc_endpoint hr with hr | ⟨hr, he⟩
    · exact h.tracks r e hr
    · have : logOf r (p.alloc es).trace = [] := h.fresh r hr
      rw [viewOf, this]
      exact (hes e he).tracks
  · intro r e hr
    rcases alloc_endpoint hr with hr | ⟨hr, he⟩
    · exact h.fits r e hr
    · have : logOf r (p.alloc es).trace = [] := h.fresh r hr
      rw [this]
      trivial
  · intro r hr
    simp only [alloc, List.length_append] at hr
    exact h.fresh r (by omega)
  · exact h.connected

theorem write_kept {p : Pool ρ} (h : p.Kept) {ref : Nat} (hlt : ref < p.endpoints.length)
    (actor : Actor) {log : List Event} (hlog : ∀ e ∈ log, Journaled.Plain e) :
    (p.write actor ref log).Kept := by
  have hplain : ∀ s : Scope ρ, Journaled s log s := by
    intro s
    induction log with
    | nil => exact .refl s
    | cons e es ih =>
      exact (Journaled.plain (hlog e (by simp)) s).trans (ih fun x hx => hlog x (by simp [hx]))
  obtain ⟨e, he⟩ : ∃ e, p.endpoints[ref]? = some e := ⟨_, List.getElem?_eq_getElem hlt⟩
  -- The events are a piece that leaves the endpoint as it is.
  let s : Scope ρ := { client := p.client, loops := p.loops, ref := ref, self := e }
  have hs : p.scope ref = some s := scope_eq_some.mpr ⟨he, rfl, rfl, rfl⟩
  let ran : Piece ρ Unit Unit := ⟨s, log, .ret ()⟩
  have hran : Piece.Journaled s ran := hplain s
  have hk := commit_kept h hs hran actor
  refine hk.congr (.refl _) rfl (fun r => ?_) (by simp [commit, write])
  simp only [commit, write, s, ran]
  by_cases hr : ref = r
  · subst hr; rw [List.getElem?_set_self hlt, he]
  · rw [List.getElem?_set_ne hr]

theorem setLoop_kept {p : Pool ρ} (h : p.Kept) (task : Nat) (l : HealthLoop) :
    (p.setLoop task l).Kept := ⟨h.tracks, h.fits, h.fresh, h.connected⟩

theorem setStop_kept {p : Pool ρ} (h : p.Kept) (ref : Nat) (b : Bool) : (p.setStop ref b).Kept := by
  refine h.congr (.refl _) rfl (fun r => ?_) (by simp [setStop])
  simp only [setStop, List.getElem?_modify]
  split
  · cases p.endpoints[r]? <;> rfl
  · cases p.endpoints[r]? <;> rfl

theorem ofClient_kept {p : Pool ρ} (h : p.Kept) {c : Client} (hc : p.client.Extends c) :
    Kept { p with client := c } := h.congr hc rfl (fun _ => rfl) rfl

theorem turn_rpc_plain {l l' : HealthLoop} {out : Outside} {b : Bool} {c c' : Client} {call : Call}
    (h : l.turn out b c = (c', l', some call)) : Journaled.Plain (.rpc call) := by
  unfold HealthLoop.turn at h
  split at h
  · simp at h
  · dsimp only at h
    split at h <;> simp at h
    obtain ⟨-, -, rfl⟩ := h
    rfl

theorem healthTurn_kept {p : Pool ρ} (h : p.Kept) {l : HealthLoop}
    (hlt : l.owner < p.endpoints.length) (task : Nat) (b : Bool) (env : Env) :
    (p.healthTurn task l b env).Kept := by
  unfold healthTurn
  have hext := l.turn_extends env.call b p.client
  rcases hturn : l.turn env.call b p.client with ⟨c, l', call⟩
  rw [hturn] at hext
  dsimp only
  refine write_kept (setLoop_kept (ofClient_kept h hext) task l') hlt _ fun e he => ?_
  cases call with
  | none => simp at he
  | some call =>
    simp only [Option.toList_some, List.map_cons, List.map_nil, List.mem_singleton] at he
    exact he ▸ turn_rpc_plain hturn

theorem health_kept {p q : Pool ρ} (h : p.Kept) {task : Nat} {w : Wake} {env : Env}
    (hq : p.health task w env = some q) : q.Kept := by
  simp only [health, Option.bind_eq_bind, Option.bind_eq_some_iff] at hq
  obtain ⟨l, -, e, he, hq⟩ := hq
  have hlt : l.owner < p.endpoints.length := (List.getElem?_eq_some_iff.mp he).1
  split at hq
  · cases hq; exact healthTurn_kept h hlt _ _ _
  · cases hq; exact healthTurn_kept h hlt _ _ _
  · cases hq
    refine write_kept (setLoop_kept (setStop_kept h l.owner true) task _) ?_ _ ?_
    · simpa [setLoop, setStop] using hlt
    · simp [Journaled.Plain]
  · cases hq; exact setLoop_kept h _ _
  · cases hq; exact setLoop_kept h _ _
  · simp at hq

theorem stop_kept {p : Pool ρ} (h : p.Kept) (ref : Nat) : (p.stop ref).Kept := by
  unfold stop
  split
  · exact h
  · rename_i e he
    have hlt : ref < p.endpoints.length := (List.getElem?_eq_some_iff.mp he).1
    have hplain : ∀ x ∈ [Event.stopped], Journaled.Plain x := by simp [Journaled.Plain]
    refine (write_kept h hlt .app hplain).congr
      (.refl _) rfl (fun r => ?_) (by simp [write])
    simp only [write]
    by_cases hr : ref = r
    · subst hr; rw [List.getElem?_set_self hlt, he]; rfl
    · rw [List.getElem?_set_ne hr]

theorem childPiece_cases {role : Role ρ} {env : Env} {s : Scope ρ} {c : Child} {w : Wake}
    {ran : Piece ρ Registering Nat} (h : childPiece role env s c w = some ran) :
    (c = .scheduled ∧ w = .start ∧ ran = Endpoint.create role env s) ∨
      ∃ k, c = .started (.await k) ∧ Endpoint.resume role env s k w = some ran := by
  unfold childPiece at h
  split at h
  · exact Or.inl ⟨rfl, rfl, (Option.some.inj h).symm⟩
  · exact Or.inr ⟨_, rfl, h⟩
  · cases h

theorem childPiece_journaled {role : Role ρ} {env : Env} {s : Scope ρ} {c : Child} {w : Wake}
    {ran : Piece ρ Registering Nat} (h : childPiece role env s c w = some ran) :
    Piece.Journaled s ran := by
  rcases childPiece_cases h with ⟨-, -, rfl⟩ | ⟨k, -, hr⟩
  · exact create_journaled role env s
  · exact resume_journaled role env hr

theorem child_eq_some {role : Role ρ} {p q : Pool ρ} {ref : Nat} {w : Wake} {env : Env} :
    p.child role ref w env = some q ↔ ∃ c s ran, p.children[ref]? = some c ∧
      p.scope ref = some s ∧ childPiece role env s c w = some ran ∧
      q = { p.commit (.child ref) ran with children := p.children.set ref (.started ran.next) } := by
  simp only [child, Option.bind_eq_bind, Option.bind_eq_some_iff, Option.pure_def,
    Option.some.injEq]
  constructor
  · rintro ⟨c, hc, s, hs, ran, hran, rfl⟩
    exact ⟨c, s, ran, hc, hs, hran, rfl⟩
  · rintro ⟨c, s, ran, hc, hs, hran, rfl⟩
    exact ⟨c, hc, s, hs, ran, hran, rfl⟩

theorem child_kept {role : Role ρ} {p q : Pool ρ} (h : p.Kept) {ref : Nat} {w : Wake} {env : Env}
    (hq : p.child role ref w env = some q) : q.Kept := by
  obtain ⟨c, s, ran, -, hs, hran, rfl⟩ := child_eq_some.mp hq
  exact (commit_kept h hs (childPiece_journaled hran) _).congr (.refl _) rfl (fun _ => rfl) rfl

end Pool

end Danube
