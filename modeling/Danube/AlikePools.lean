import Danube.AlikeTasks
import Danube.PoolTasks

/-!
# Pools on clients that are alike

A task of one pool can run whenever its counterpart can, and writes the same.
-/

namespace Danube

open Async

inductive Child.Alike (w : Channels) : Child → Child → Prop
  | scheduled : Alike w .scheduled .scheduled
  | started {o o' : Outcome Registering Nat Error} (h : Outcome.Alike (Registering.Alike w) o o') :
    Alike w (.started o) (.started o')

structure Entry.Alike (w : Channels) (x y : Entry) : Prop where
  actor : y.actor = x.actor
  ref : y.ref = x.ref
  event : x.event.Alike w y.event

structure Pool.Alike {ρ : Type} (broken : String → Option String) (w : Channels) (p q : Pool ρ) :
    Prop where
  client : Client.Alike broken w p.client q.client
  endpoints : List.Forall₂ (Endpoint.Alike w) p.endpoints q.endpoints
  children : List.Forall₂ (Child.Alike w) p.children q.children
  loops : List.Forall₂ (HealthLoop.Alike w) p.loops q.loops
  trace : List.Forall₂ (Entry.Alike w) p.trace q.trace

theorem Child.Alike.later {w v : Channels} (hv : w ≤ v) {x y : Child} (h : x.Alike w y) :
    x.Alike v y := by
  cases h with
  | scheduled => exact .scheduled
  | started h => exact .started (h.imp fun _ _ hk => hk.later hv)

theorem Entry.Alike.later {w v : Channels} (hv : w ≤ v) {x y : Entry} (h : x.Alike w y) :
    x.Alike v y := ⟨h.actor, h.ref, h.event.later hv⟩

theorem note_alike {w : Channels} (g : Gather) (ref : Nat) {x y : Option Child} (h : Option.Rel (Child.Alike w) x y) :
    g.note ref y = g.note ref x := by
  cases h with
  | none => rfl
  | some h =>
    cases h with
    | scheduled => rfl
    | started h => cases h <;> rfl

theorem allReturned_alike {w : Channels} (g : Gather) {xs ys : List Child} (h : List.Forall₂ (Child.Alike w) xs ys) :
    g.allReturned ys = g.allReturned xs := by
  unfold Gather.allReturned
  refine List.all_congr rfl fun r => ?_
  have hr := forall₂_getElem? h r
  generalize xs[r]? = x at hr ⊢
  generalize ys[r]? = y at hr ⊢
  cases hr with
  | none => rfl
  | some hr =>
    cases hr with
    | scheduled => rfl
    | started hr => cases hr <;> rfl

namespace Pool

variable {ρ κ α : Type} {broken : String → Option String} {w v : Channels} {p q p' : Pool ρ} {c d : Client}
  {env : Env}

theorem alike_init (h : Client.Alike broken w c d) :
    Pool.Alike (ρ := ρ) broken w { client := c } { client := d } :=
  ⟨h, .nil, .nil, .nil, .nil⟩

theorem Alike.go (h : Pool.Alike broken w p q) (hv : w ≤ v) (hc : Client.Alike broken v c d) :
    Pool.Alike broken v { p with client := c } { q with client := d } where
  client := hc
  endpoints := h.endpoints.imp fun _ _ he => he.later hv
  children := h.children.imp fun _ _ hc => hc.later hv
  loops := h.loops.imp fun _ _ hl => hl.later hv
  trace := h.trace.imp fun _ _ hx => hx.later hv

theorem Alike.scope (h : Pool.Alike broken w p q) {ref : Nat} {s : Scope ρ} (hs : p.scope ref = some s) :
    ∃ t, q.scope ref = some t ∧ Scope.Alike broken w s t := by
  obtain ⟨hself, hclient, hloops, href⟩ := scope_eq_some.mp hs
  obtain ⟨e, he, hself'⟩ := forall₂_get? h.endpoints hself
  refine ⟨⟨q.client, q.loops, ref, e⟩, scope_eq_some.mpr ⟨he, rfl, rfl, rfl⟩, ?_, ?_, href.symm, hself'⟩
  · rw [hclient]
    exact h.client
  · rw [hloops]
    exact h.loops

theorem entries_alike {x y : List Event} (h : List.Forall₂ (Event.Alike w) x y) (actor : Actor)
    (ref : Nat) : List.Forall₂ (Entry.Alike w) (x.map fun e => ⟨actor, ref, e⟩)
      (y.map fun e => ⟨actor, ref, e⟩) :=
  forall₂_map h fun _ _ he => ⟨rfl, rfl, he⟩

theorem Alike.commit {K : Channels → κ → κ → Prop} {ran ran' : Piece ρ κ α}
    (h : Pool.Alike broken w p q) (hran : Ran.Coupled (scopes ρ broken) K w ran ran') (actor : Actor) :
    ∃ v, w ≤ v ∧ Pool.Alike broken v (p.commit actor ran) (q.commit actor ran') ∧
      Outcome.Alike (K v) ran.next ran'.next := by
  obtain ⟨v, hv, hstate, hlog, hnext⟩ := hran
  have hgone := h.go hv hstate.client
  refine ⟨v, hv, ⟨hstate.client, ?_, hgone.children, hstate.loops, ?_⟩, hnext⟩
  · unfold Pool.commit
    rw [hstate.ref]
    exact forall₂_set hgone.endpoints hstate.self _
  · unfold Pool.commit
    rw [hstate.ref]
    exact List.rel_append hgone.trace (entries_alike hlog actor _)

theorem Alike.alloc (h : Pool.Alike broken w p q) (es : List (Endpoint ρ)) (hes : ∀ e ∈ es, e.stub = none) :
    Pool.Alike broken w (p.alloc es) (q.alloc es) where
  client := h.client
  endpoints := by
    refine List.rel_append h.endpoints (List.forall₂_same.mpr fun e he => ⟨?_, rfl⟩)
    rw [hes e he]
    exact .none
  children := by
    refine List.rel_append h.children (List.forall₂_same.mpr fun x hx => ?_)
    obtain ⟨-, -, rfl⟩ := List.mem_map.mp hx
    exact .scheduled
  loops := h.loops
  trace := h.trace

variable {role : Role ρ}

theorem childPiece_alike (henv : env.Reaches broken) (hrole : role.Hides) {s t : Scope ρ}
    (h : Scope.Alike broken w s t) {x y : Child} (hxy : x.Alike w y) {wake : Wake}
    {ran : Piece ρ Registering Nat} (hran : childPiece role env s x wake = some ran) :
    ∃ ran', childPiece role env t y wake = some ran' ∧ Endpoint.InStep broken w ran ran' := by
  unfold childPiece at hran
  split at hran
  · cases hxy
    cases hran
    exact ⟨_, rfl, Endpoint.create_alike henv hrole h⟩
  · cases hxy with
    | started ho =>
      cases ho with
      | await hk => exact Endpoint.resume_alike henv hrole h hk hran
  · cases hran

theorem Alike.child (henv : env.Reaches broken) (hrole : role.Hides) (h : Pool.Alike broken w p q)
    {ref : Nat} {wake : Wake} (hp : p.child role ref wake env = some p') :
    ∃ q' v, w ≤ v ∧ q.child role ref wake env = some q' ∧ Pool.Alike broken v p' q' := by
  obtain ⟨x, s, ran, hx, hs, hran, rfl⟩ := child_eq_some.mp hp
  obtain ⟨y, hy, hxy⟩ := forall₂_get? h.children hx
  obtain ⟨t, ht, hst⟩ := h.scope hs
  obtain ⟨ran', hran', hstep⟩ := childPiece_alike henv hrole hst hxy hran
  obtain ⟨v, hv, hcommit, hnext⟩ := h.commit hstep (.child ref)
  refine ⟨_, v, hv, child_eq_some.mpr ⟨y, t, ran', hy, ht, hran', rfl⟩, ?_⟩
  exact ⟨hcommit.client, hcommit.endpoints,
    forall₂_set (h.children.imp fun _ _ hc => hc.later hv) (.started hnext) ref,
    hcommit.loops, hcommit.trace⟩

/-! ## Health tasks -/

theorem exists_loop {l m : HealthLoop} (h : l.Alike w m) : ∃ conn position,
    m = { l with conn := conn, position := position } ∧ w l.conn conn ∧
      HealthAt.Alike w l.position position := ⟨m.conn, m.position, h.rest, h.conn, h.position⟩

theorem Alike.turned (h : Pool.Alike broken w p q) (hc : Client.Alike broken w c d) {l m : HealthLoop}
    (hlm : l.Alike w m) (task : Nat) {x y : List Event} (hxy : List.Forall₂ (Event.Alike w) x y)
    (actor : Actor) (ref : Nat) :
    Pool.Alike broken w (({ p with client := c }.setLoop task l).write actor ref x)
      (({ q with client := d }.setLoop task m).write actor ref y) where
  client := hc
  endpoints := h.endpoints
  children := h.children
  loops := forall₂_set h.loops hlm task
  trace := List.rel_append h.trace (entries_alike hxy actor ref)

theorem Alike.healthTurn (h : Pool.Alike broken w p q) {l m : HealthLoop} (hlm : l.Alike w m) (task : Nat)
    (stopEvent : Bool) :
    Pool.Alike broken w (p.healthTurn task l stopEvent env) (q.healthTurn task m stopEvent env) := by
  obtain ⟨conn, position, rfl, hconn, -⟩ := exists_loop hlm
  unfold Pool.healthTurn HealthLoop.turn
  cases stopEvent with
  | true => exact h.turned h.client ⟨hconn, .finished _, rfl⟩ task .nil _ _
  | false =>
    have hcounted := h.client.counters p.client.lookupRequestId (p.client.healthRequestId + 1)
      q.client.lookupRequestId (q.client.healthRequestId + 1)
    dsimp only
    rw [if_neg Bool.false_ne_true, if_neg Bool.false_ne_true, hcounted.attachToken]
    split
    · exact h.turned hcounted ⟨hconn, .finished _, rfl⟩ task .nil _ _
    · refine h.turned hcounted ⟨hconn, .polling ?_, rfl⟩ task (.cons (.rpc ?_) .nil) _ _ <;>
        exact ⟨hconn, rfl, rfl⟩

theorem Alike.setStop (h : Pool.Alike broken w p q) (ref : Nat) (b : Bool) :
    Pool.Alike broken w (p.setStop ref b) (q.setStop ref b) :=
  ⟨h.client, forall₂_modify h.endpoints
    (fun _ _ he => he.update (g := fun e => { e with stopEvent := b }) fun _ _ => rfl) ref,
    h.children, h.loops, h.trace⟩

theorem Alike.health (h : Pool.Alike broken w p q) {task : Nat} {wake : Wake}
    (hp : p.health task wake env = some p') :
    ∃ q', q.health task wake env = some q' ∧ Pool.Alike broken w p' q' := by
  simp only [Pool.health, Option.bind_eq_bind, Option.bind_eq_some_iff] at hp
  obtain ⟨l, hl, e, he, hp⟩ := hp
  obtain ⟨m, hm, hlm⟩ := forall₂_get? h.loops hl
  obtain ⟨conn, position, rfl, hconn, hposition⟩ := exists_loop hlm
  obtain ⟨f, hf, hef⟩ := forall₂_get? h.endpoints he
  have hstop : f.stopEvent = e.stopEvent := by rw [hef.rest]
  unfold Pool.health
  simp only [hm, hf, hstop, Option.bind_eq_bind, Option.bind_some]
  split at hp
  · rename_i heq
    rw [heq] at hposition
    cases hposition
    cases hp
    exact ⟨_, rfl, h.healthTurn hlm task e.stopEvent⟩
  · rename_i heq
    rw [heq] at hposition
    cases hposition
    cases hp
    exact ⟨_, rfl, h.healthTurn hlm task e.stopEvent⟩
  · rename_i heq
    rw [heq] at hposition
    cases hposition
    cases hp
    exact ⟨_, rfl, (h.setStop l.owner true).turned h.client ⟨hconn, .finished _, rfl⟩ task
      (Endpoint.same_log rfl) _ _⟩
  · rename_i status hclose heq
    rw [heq] at hposition
    cases hposition
    cases hp
    have hloops : List.Forall₂ (HealthLoop.Alike w)
        (p.loops.set task { l with position := .sleeping })
        (q.loops.set task { l with conn := conn, position := .sleeping }) :=
      forall₂_set h.loops ⟨hconn, .sleeping, rfl⟩ task
    cases status with
    | close => exact (hclose rfl).elim
    | ok | unknown => exact ⟨_, rfl, h.client, h.endpoints, h.children, hloops, h.trace⟩
  · rename_i heq
    rw [heq] at hposition
    cases hposition
    cases hp
    exact ⟨_, rfl, ⟨h.client, h.endpoints, h.children,
      forall₂_set h.loops ⟨hconn, .finished _, rfl⟩ task, h.trace⟩⟩
  · cases hp

/-! ## `stop()` -/

theorem cancel_alike {l m : HealthLoop} (h : l.Alike w m) : l.cancel.Alike w m.cancel := by
  obtain ⟨conn, position, rfl, hconn, hposition⟩ := exists_loop h
  obtain ⟨owner, conn', connectUrl, brokerAddr, proxy, client, id, position'⟩ := l
  cases hposition with
  | scheduled | sleeping | polling hcall => exact ⟨hconn, .finished _, rfl⟩
  | finished why => exact ⟨hconn, .finished why, rfl⟩

theorem Alike.stop (h : Pool.Alike broken w p q) (ref : Nat) :
    Pool.Alike broken w (p.stop ref) (q.stop ref) := by
  unfold Pool.stop
  cases he : p.endpoints[ref]? with
  | none =>
    have hnone : q.endpoints[ref]? = none := by
      rw [List.getElem?_eq_none_iff] at he ⊢
      rwa [← h.endpoints.length_eq]
    rw [hnone]
    exact h
  | some e =>
    obtain ⟨f, hf, hef⟩ := forall₂_get? h.endpoints he
    have htask : f.healthTask = e.healthTask := by rw [hef.rest]
    rw [hf]
    refine ⟨h.client, forall₂_set h.endpoints (hef.update fun _ _ => rfl) ref, h.children, ?_,
      List.rel_append h.trace (.cons ⟨rfl, rfl, .same _ rfl⟩ .nil)⟩
    dsimp only
    rw [htask]
    split
    · exact forall₂_modify h.loops (fun _ _ hl => cancel_alike hl) _
    · exact h.loops

theorem Alike.foldl_stop (h : Pool.Alike broken w p q) (refs : List Nat) :
    Pool.Alike broken w (refs.foldl Pool.stop p) (refs.foldl Pool.stop q) := by
  induction refs generalizing p q with
  | nil => exact h
  | cons ref refs ih => exact ih (h.stop ref)

end Pool

end Danube
