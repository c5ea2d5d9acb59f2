import Danube.Renewals

/-!
# One health check for each producer

`create()` starts a new health loop and forgets the handle of the last one, and all of them look at
the same stop event.
-/

namespace Danube

open Async

/-- The broker answered CLOSE, or the RPC raised. -/
def HealthLoop.Ended (l : HealthLoop) : Prop :=
  l.position = .finished .closed ∨ l.position = .finished .failed

theorem HealthLoop.Ended.finished {l : HealthLoop} (h : l.Ended) : l.Finished :=
  h.elim (fun h => ⟨_, h⟩) fun h => ⟨_, h⟩

/-- A CLOSE is the answer to a check of the current registration. -/
def View.ClosesOwn (v : View) (e : Event) : Prop := ∀ id, e = .closed id → id = v.id

theorem CallLog.returned {α : Type} {o : Outcome Registering α Error} {log : List Event}
    (h : CallLog o log) {id : Nat} (hid : .created id ∈ log) : ∃ a, o = .ret a := by
  rcases h.mem hid with hinner | ⟨a, -, ho, -⟩ | ⟨err, herr⟩
  · exact hinner.elim
  · exact ⟨a, ho⟩
  · cases herr

namespace Pool

variable {ρ κ α : Type} {p q : Pool ρ} {r : Nat} {uri : String}

/-- At most the last health loop goes on. It polls the current registration, and its stop event is
clear. -/
inductive Checked (stopEvent : Bool) (registration : Option (BrokerAddress × Nat)) :
    List HealthLoop → Prop
  | ended (loops : List HealthLoop) (h : ∀ l ∈ loops, l.Ended) : Checked stopEvent registration loops
  | polls (pre : List HealthLoop) (l : HealthLoop) (hpre : ∀ x ∈ pre, x.Ended) (hl : ¬ l.Finished)
    (hcurrent : registration = some (l.address, l.clientId)) (hclear : stopEvent = false) :
    Checked stopEvent registration (pre ++ [l])

/-- A registration of `r` at `addr` is the only one whose loop goes on. -/
def Vacant (p : Pool ρ) (r : Nat) (addr : BrokerAddress) : Prop :=
  (∀ e ∈ p.endpoints[r]?, e.stopEvent = false ∧ e.address = addr) ∧ ∀ l ∈ p.loopsOf r, l.Finished

instance (p : Pool ρ) (r : Nat) (addr : BrokerAddress) : Decidable (p.Vacant r addr) :=
  inferInstanceAs (Decidable (_ ∧ _))

/-- An endpoint of which each registration found the one before it over. -/
structure OneLoop (uri : String) (p : Pool ρ) (r : Nat) : Prop where
  started : ∀ o, p.children[r]? = some (.started o) → Endpoint.Past o → p.loopsOf r ≠ []
  created : ∀ id, .created id ∈ logOf r p.trace → p.loopsOf r ≠ []
  loops : ∀ e, p.endpoints[r]? = some e →
    Checked e.stopEvent (viewOf uri r p.trace).registration (p.loopsOf r)
  closes : Always View.apply View.ClosesOwn (View.init uri) (logOf r p.trace)

theorem OneLoop.leaves (h : OneLoop uri p r) (hleaves : p.Leaves q r) : OneLoop uri q r := by
  constructor
  · rw [hleaves.child, hleaves.loops]
    exact h.started
  · rw [hleaves.log, hleaves.loops]
    exact h.created
  · unfold viewOf
    rw [hleaves.endpoint, hleaves.log, hleaves.loops]
    exact h.loops
  · rw [hleaves.log]
    exact h.closes

theorem OneLoop.alloc (h : OneLoop uri p r) (hs : p.Sound) (hk : p.Kept) (es : List (Endpoint ρ)) :
    OneLoop uri (p.alloc es) r := by
  rcases Nat.lt_or_ge r p.endpoints.length with hlt | hge
  · exact h.leaves (alloc_leaves hs hlt es)
  · have hlog : logOf r (p.alloc es).trace = [] := hk.fresh r hge
    have hloops : (p.alloc es).loopsOf r = [] :=
      (loopsOf_of_length_le hs hge : p.loopsOf r = [])
    constructor
    · intro o ho
      have hlt := (List.getElem?_eq_some_iff.mp ((alloc_started p es r o).mp ho)).1
      rw [hs.length] at hlt
      omega
    · simp [hlog]
    · intro e _
      rw [hloops]
      exact .ended [] (by simp)
    · rw [hlog]
      trivial

theorem Checked.runs {e e' : Endpoint ρ} {v : View} {loops : List HealthLoop}
    {answered : Option BrokerAddress} {log : List Event} (h : Checked e.stopEvent v.registration loops)
    (hstop : e'.stopEvent = e.stopEvent) (hrenews : Renews e.address answered log)
    (hscheduled : ∀ l ∈ startedLoops log, l.position = .scheduled)
    (hvacant : ∀ addr ∈ answered, (e.stopEvent = false ∧ e.address = addr) ∧ ∀ l ∈ loops, l.Finished) :
    Checked e'.stopEvent (replay View.apply v log).registration (loops ++ startedLoops log) := by
  rw [hstop]
  rcases hrenews with hkeeps | ⟨addr, haddr, id, hreg, hstarted⟩
  · rwa [hkeeps.registration, hkeeps.loops, List.append_nil]
  · obtain ⟨⟨hclear, hat⟩, hfinished⟩ := hvacant addr haddr
    have hended : ∀ l ∈ loops, l.Ended := by
      cases h with
      | ended _ h => exact h
      | polls pre l _ hl => exact (hl (hfinished l (by simp))).elim
    rcases hstarted with hnone | ⟨l, hl, hid, haddress⟩
    · rw [hnone, List.append_nil]
      exact .ended loops hended
    · rw [hl] at hscheduled ⊢
      refine .polls loops l hended ?_ ?_ hclear
      · rintro ⟨why, hwhy⟩
        rw [hscheduled l (by simp)] at hwhy
        cases hwhy
      · rw [hreg v, hid, haddress, hat]

theorem OneLoop.runs {s : Scope ρ} {ran : Piece ρ κ α} {answered : Option BrokerAddress}
    (h : OneLoop uri p r) (hs : p.scope r = some s) (hruns : p.Runs q r ran)
    (hj : Piece.Journaled s ran) (hrenews : Renews s.self.address answered ran.log)
    (hclosed : ∀ id, .closed id ∉ ran.log) (hvacant : ∀ addr ∈ answered, p.Vacant r addr)
    (hstarted : ∀ o, q.children[r]? = some (.started o) → Endpoint.Past o → q.loopsOf r ≠ [])
    (hcreated : ∀ id, .created id ∈ ran.log → q.loopsOf r ≠ []) : OneLoop uri q r where
  started := hstarted
  created id hid := by
    rcases List.mem_append.mp (hruns.log ▸ hid) with hid | hid
    · rw [hruns.loops]
      exact fun hnil => h.created id hid (List.append_eq_nil_iff.mp hnil).1
    · exact hcreated id hid
  loops e he := by
    have hself := (scope_eq_some.mp hs).1
    rw [hruns.endpoint, Option.some.injEq] at he
    subst he
    unfold viewOf
    rw [hruns.log, hruns.loops, replay_append]
    refine (h.loops s.self hself).runs hj.stopEvent hrenews (fun l hl => hj.scheduled hl) ?_
    intro addr haddr
    obtain ⟨hfields, hfinished⟩ := hvacant addr haddr
    exact ⟨hfields s.self hself, hfinished⟩
  closes := by
    rw [hruns.log, always_append]
    refine ⟨h.closes, always_of_forall (fun x hx v id hid => ?_) _⟩
    exact (hclosed id (hid ▸ hx)).elim

theorem OneLoop.child {role : Role ρ} {ref : Nat} {w : Wake} {env : Env} (h : OneLoop uri p r)
    (hs : p.Sound) (hq : p.child role ref w env = some q)
    (hvacant : ref = r → ∀ c, p.children[r]? = some c → ∀ addr ∈ c.answered? w, p.Vacant r addr) :
    OneLoop uri q r := by
  by_cases hr : r = ref
  · subst hr
    obtain ⟨c, s, ran, hc, hsc, hran, hnext, hruns⟩ := child_runs hq
    obtain ⟨hrenews, hpast⟩ := childPiece_renews hran
    obtain ⟨log, hcall, hmem⟩ := child_callLog hs hq hruns hnext
    have hgrows : Endpoint.Past ran.next → q.loopsOf r ≠ [] := by
      intro hp hnil
      rw [hruns.loops] at hnil
      obtain ⟨hbefore, hnone⟩ := List.append_eq_nil_iff.mp hnil
      rcases hpast hp with ⟨k, rfl, hk⟩ | hloops
      · exact h.started _ hc (Or.inr ⟨k, rfl, hk⟩) hbefore
      · exact hloops hnone
    refine h.runs hsc hruns (childPiece_journaled hran) hrenews (fun id hid => ?_) (hvacant rfl c hc)
      (fun o ho hp => ?_) fun id hid => ?_
    · exact hcall.not_closed id ((hmem _ hid).resolve_left (by simp))
    · rw [hnext, Option.some.injEq, Child.started.injEq] at ho
      exact hgrows (ho ▸ hp)
    · exact hgrows (Or.inl (hcall.returned ((hmem _ hid).resolve_left (by simp))))
  · exact h.leaves (child_leaves hq hr)

/-! ## A piece of a health task -/

theorem Checked.last {stopEvent : Bool} {registration : Option (BrokerAddress × Nat)}
    {pre post : List HealthLoop} {l : HealthLoop}
    (h : Checked stopEvent registration (pre ++ l :: post)) (hl : ¬ l.Finished) :
    post = [] ∧ (∀ x ∈ pre, x.Ended) ∧ registration = some (l.address, l.clientId) ∧
      stopEvent = false := by
  generalize hloops : pre ++ l :: post = loops at h
  cases h with
  | ended _ h => exact (hl (h l (by simp [← hloops])).finished).elim
  | polls pre' l' hpre hl' hcurrent hclear =>
    rcases List.eq_nil_or_concat post with rfl | ⟨post', x, rfl⟩
    · obtain ⟨rfl, heq⟩ := List.append_inj' hloops rfl
      obtain rfl := List.singleton_inj.mp heq
      exact ⟨rfl, hpre, hcurrent, hclear⟩
    · have hsplit : (pre ++ l :: post') ++ [x] = pre' ++ [l'] := by simpa using hloops
      obtain ⟨rfl, -⟩ := List.append_inj' hsplit rfl
      exact (hl (hpre l (by simp)).finished).elim

theorem Checked.current {stopEvent : Bool} {registration : Option (BrokerAddress × Nat)}
    {loops : List HealthLoop} (h : Checked stopEvent registration loops) {l : HealthLoop}
    (hl : l ∈ loops) (hgoes : ¬ l.Finished) : registration = some (l.address, l.clientId) := by
  obtain ⟨pre, post, rfl⟩ := List.append_of_mem hl
  exact (h.last hgoes).2.2.1

theorem Checked.shape {stopEvent : Bool} {registration : Option (BrokerAddress × Nat)}
    {pre : List HealthLoop} {l : HealthLoop} (h : Checked stopEvent registration (pre ++ [l])) :
    (∀ x ∈ pre, x.Finished) ∧ (¬ l.Finished ∨ l.Ended) := by
  generalize hloops : pre ++ [l] = loops at h
  cases h with
  | ended _ h =>
    subst hloops
    exact ⟨fun x hx => (h x (by simp [hx])).finished, Or.inr (h l (by simp))⟩
  | polls pre' l' hpre hl =>
    obtain ⟨rfl, heq⟩ := List.append_inj' hloops rfl
    obtain rfl := List.singleton_inj.mp heq
    exact ⟨fun x hx => (hpre x hx).finished, Or.inl hl⟩

theorem Checks.keeps {l : HealthLoop} {stopEvent : Bool} {position : HealthAt} {log : List Event}
    {stop : Bool} (h : Checks l stopEvent position log stop) : Keeps log := by
  cases h <;> exact ⟨rfl, rfl⟩

theorem Checked.checks {e : Endpoint ρ} {registration : Option (BrokerAddress × Nat)}
    {pre : List HealthLoop} {l : HealthLoop} {position : HealthAt} {log : List Event} {stop : Bool}
    (hpre : ∀ x ∈ pre, x.Ended) (hcurrent : registration = some (l.address, l.clientId))
    (hclear : e.stopEvent = false) (hchecks : Checks l e.stopEvent position log stop)
    (hrefused : position ≠ .finished .refused) :
    Checked (if stop then { e with stopEvent := true } else e).stopEvent registration
      (pre ++ [{ l with position := position }]) := by
  have hends : ({ l with position := position } : HealthLoop).Ended →
      ∀ x ∈ pre ++ [{ l with position := position }], x.Ended := by
    intro hl x hx
    rcases List.mem_append.mp hx with hx | hx
    · exact hpre x hx
    · exact List.mem_singleton.mp hx ▸ hl
  have hgoes : (∀ why, position ≠ .finished why) → stop = false →
      Checked (if stop then { e with stopEvent := true } else e).stopEvent registration
        (pre ++ [{ l with position := position }]) := by
    rintro hnot rfl
    exact .polls pre _ hpre (fun ⟨why, hwhy⟩ => hnot why hwhy) hcurrent hclear
  cases hchecks with
  | stopped _ hset => cases hset.symm.trans hclear
  | refused => exact (hrefused rfl).elim
  | poll => exact hgoes (by simp) rfl
  | close => exact .ended _ (hends (Or.inl rfl))
  | alive => exact hgoes (by simp) rfl
  | failed => exact .ended _ (hends (Or.inr rfl))

theorem OneLoop.checksOn {e : Endpoint ρ} {l : HealthLoop} {position : HealthAt} {log : List Event}
    {stop : Bool} (h : OneLoop uri p r) (hon : p.ChecksOn q r e l position log stop)
    (hchecks : Checks l e.stopEvent position log stop) (hrefused : position ≠ .finished .refused) :
    OneLoop uri q r := by
  obtain ⟨pre, post, hbefore, hafter⟩ := hon.loops
  have hchecked := h.loops e hon.self
  rw [hbefore] at hchecked
  obtain ⟨rfl, hpre, hcurrent, hclear⟩ := hchecked.last hchecks.unfinished
  have hloops : q.loopsOf r ≠ [] := by simp [hafter]
  refine ⟨fun _ _ _ => hloops, fun _ _ => hloops, fun e' he' => ?_, ?_⟩
  · rw [hon.endpoint, Option.some.injEq] at he'
    unfold viewOf
    rw [← he', hon.log, hafter, replay_append, hchecks.keeps.registration]
    exact Checked.checks hpre hcurrent hclear hchecks hrefused
  · rw [hon.log, always_append]
    refine ⟨h.closes, ?_⟩
    cases hchecks with
    | close call _ =>
      refine ⟨fun id hid => ?_, trivial⟩
      cases hid
      change l.clientId = (viewOf uri r p.trace).id
      unfold View.id
      rw [hcurrent]
      rfl
    | poll => exact ⟨fun id hid => Event.noConfusion hid, trivial⟩
    | _ => trivial

/-- Where the health task `i` is one of `r` and about to poll, its token can be had. -/
def TokenHad (p : Pool ρ) (r i : Nat) (env : Env) : Prop :=
  ∀ l ∈ p.loops[i]?, l.owner = r → (l.position = .scheduled ∨ l.position = .sleeping) →
    (p.client.attachTokenIfNeeded env.call).isOk

instance (p : Pool ρ) (r i : Nat) (env : Env) : Decidable (p.TokenHad r i env) :=
  inferInstanceAs (Decidable (∀ l ∈ p.loops[i]?, _))

theorem turn_not_refused {c : Client} {out : Outside} (h : (c.attachTokenIfNeeded out).isOk)
    (l : HealthLoop) (stopEvent : Bool) :
    (l.turn out stopEvent c).2.1.position ≠ .finished .refused := by
  unfold HealthLoop.turn
  split
  · simp
  · dsimp only
    split
    · rename_i err herr
      have herr' : c.attachTokenIfNeeded out = .error err := herr
      rw [herr'] at h
      cases h
    · simp

theorem health_not_refused {i : Nat} {w : Wake} {env : Env} {l l' : HealthLoop}
    (hq : p.health i w env = some q) (hl : p.loops[i]? = some l) (hl' : q.loops[i]? = some l')
    (htoken : (l.position = .scheduled ∨ l.position = .sleeping) →
      (p.client.attachTokenIfNeeded env.call).isOk) : l'.position ≠ .finished .refused := by
  have hset : ∀ x : HealthLoop, (p.loops.set i x)[i]? = some x := fun x =>
    List.getElem?_set_self (List.getElem?_eq_some_iff.mp hl).1
  simp only [health, Option.bind_eq_bind, hl, Option.bind_some, Option.bind_eq_some_iff] at hq
  obtain ⟨e, -, hq⟩ := hq
  split at hq
  case h_1 hpos =>
    cases hq
    have hturn := turn_not_refused (htoken (Or.inl hpos)) l e.stopEvent
    simp only [healthTurn, write, setLoop, hset, Option.some.injEq] at hl'
    exact hl' ▸ hturn
  case h_2 hpos =>
    cases hq
    have hturn := turn_not_refused (htoken (Or.inr hpos)) l e.stopEvent
    simp only [healthTurn, write, setLoop, hset, Option.some.injEq] at hl'
    exact hl' ▸ hturn
  case h_6 => cases hq
  all_goals
    cases hq
    simp only [write, setLoop, setStop, hset, Option.some.injEq] at hl'
    simp [← hl']

theorem OneLoop.health {i : Nat} {w : Wake} {env : Env} (h : OneLoop uri p r)
    (hq : p.health i w env = some q) (htoken : p.TokenHad r i env) : OneLoop uri q r := by
  obtain ⟨l, e, c, position, log, stop, hl, he, -, hchecks, heq⟩ := health_eq_some hq
  by_cases hr : r = l.owner
  · subst hr
    have hl' : q.loops[i]? = some { l with position := position } := by
      rw [heq]
      exact List.getElem?_set_self (List.getElem?_eq_some_iff.mp hl).1
    have hrefused := health_not_refused hq hl hl' (htoken l hl rfl)
    rw [heq]
    exact h.checksOn (checked_on hl he c position log stop) hchecks hrefused
  · rw [heq]
    exact h.leaves (checked_leaves hl hr c position log stop)

end Pool

/-! ## Every step -/

/-- `create()` returned or raised. -/
def Event.endsCreate : Event → Bool
  | .created _ | .notCreated _ => true
  | _ => false

/-- No `create()` is in progress, and the last one to end returned. -/
structure CreateReturned (log : List Event) : Prop where
  idle : log.count .creating = log.countP Event.endsCreate
  last : ∃ id, (log.filter Event.endsCreate).getLast? = some (.created id)

theorem CreateReturned.created {log : List Event} (h : CreateReturned log) :
    ∃ id, .created id ∈ log := by
  obtain ⟨id, hid⟩ := h.last
  exact ⟨id, List.mem_of_mem_filter (List.mem_of_getLast? hid)⟩

namespace Producer

/-- Before `stop()` of the `TopicProducer` `r`, a health loop of `r` that goes on polls the id that `r`
has at the broker that gave it out, and a CLOSE is the answer to such a poll. Once `create()` returned,
exactly one loop goes on, unless CLOSE or an RPC error ended the last one. -/
structure OneCheck (s : ProducerState) (r : Nat) : Prop where
  current : ∀ e ∈ s.pool.endpoints[r]?, ∀ l ∈ s.pool.loopsOf r, ¬ l.Finished → l.clientId = e.id ∧
    (viewOf s.pool.client.uri r s.pool.trace).registration = some (l.address, l.clientId)
  one : CreateReturned (logOf r s.pool.trace) → ∃ pre l, s.pool.loopsOf r = pre ++ [l] ∧
    (∀ x ∈ pre, x.Finished) ∧ (¬ l.Finished ∨ l.Ended)
  closes : Always View.apply View.ClosesOwn (View.init s.pool.client.uri) (logOf r s.pool.trace)

def OneHealthCheck (s : ProducerState) (r : Nat) : Prop :=
  .stopped ∉ logOf r s.pool.trace → OneCheck s r

theorem OneCheck.earlier {s : ProducerState} {r : Nat} (h : OneCheck s r)
    (hreturned : CreateReturned (logOf r s.pool.trace)) :
    ∀ l ∈ (s.pool.loopsOf r).dropLast, l.Finished := by
  obtain ⟨pre, l, hloops, hpre, -⟩ := h.one hreturned
  rw [hloops, List.dropLast_concat]
  exact hpre

/-- The address fields of the registration of `r` to which the step is the answer. -/
def answered? (s : ProducerState) (r : Nat) : ProducerLabel → Option BrokerAddress
  | .child ref w _ => if ref = r then s.pool.children[ref]?.bind fun c => c.answered? w else none
  | .sending task w _ => s.sends[task]?.bind fun t =>
    match t.status with
    | .await k => if s.producers[t.partition]? = some r then k.answered? w else none
    | _ => none
  | _ => none

/-- A health loop of `r` gets its token for the poll that the step begins. -/
def TokenHad (s : ProducerState) (r : Nat) : ProducerLabel → Prop
  | .health i _ env => s.pool.TokenHad r i env
  | _ => True

instance (s : ProducerState) (r : Nat) : ∀ l, Decidable (TokenHad s r l)
  | .health i _ env => inferInstanceAs (Decidable (s.pool.TokenHad r i env))
  | .create .. | .child .. | .gathered | .send .. | .sending .. | .close => isTrue trivial

/-- Before `stop()`, a registration of `r` is answered where no health loop of `r` goes on, its stop
event is clear and its address fields are still those of the request, and its polls get their token. -/
def Replaces (r : Nat) (s : ProducerState) (l : ProducerLabel) : Prop :=
  .stopped ∈ logOf r s.pool.trace ∨
    (∀ addr ∈ answered? s r l, s.pool.Vacant r addr) ∧ TokenHad s r l

instance (r : Nat) (s : ProducerState) (l : ProducerLabel) : Decidable (Replaces r s l) :=
  inferInstanceAs (Decidable (_ ∨ _ ∧ _))

theorem step_client {s s' : ProducerState} {l : ProducerLabel} (hstep : step s l = some s') :
    s.pool.client.Extends s'.pool.client := by
  cases l with
  | create env =>
    obtain ⟨-, -, ⟨-, p, hp, rfl⟩ | ⟨hpos, rfl⟩⟩ := create_eq_some hstep
    · rw [settle_pool]
      exact Pool.child_extends (p := s.pool.alloc _) hp
    · exact .refl _
  | child ref w env =>
    obtain ⟨p, hp, rfl⟩ := Option.map_eq_some_iff.mp hstep
    rw [settle_pool]
    exact Pool.child_extends hp
  | gathered =>
    obtain ⟨g, -, ⟨-, rfl⟩ | ⟨-, -, rfl⟩⟩ := gathered_eq_some hstep <;> exact .refl _
  | send data attributes routingKey env =>
    obtain ⟨-, p, router, t, -, -, ⟨-, rfl⟩ | ⟨ref, sc, -, hsc, rfl⟩⟩ := send_eq_some hstep
    · exact .refl _
    · exact (Pool.scope_eq_some.mp hsc).2.1 ▸ (sendAttempt_journaled env t.call 0 sc).client
  | sending task w env =>
    obtain ⟨t, ref, sc, k, ran, -, -, hsc, -, hran, rfl⟩ := sending_eq_some.mp hstep
    exact (Pool.scope_eq_some.mp hsc).2.1 ▸ (sendResume_journaled env hran).client
  | health task w env =>
    obtain ⟨p, hp, rfl⟩ := Option.map_eq_some_iff.mp hstep
    obtain ⟨l, e, c, pos, log, stop, -, -, hc, -, rfl⟩ := Pool.health_eq_some hp
    exact hc
  | close =>
    cases hstep
    change s.pool.client.Extends (s.producers.foldl Pool.stop s.pool).client
    rw [Pool.foldl_stop_client]
    exact .refl _

theorem step_log {s s' : ProducerState} {l : ProducerLabel} (hs : Sound s)
    (hstep : step s l = some s') : ∃ log, s'.pool.trace = s.pool.trace ++ log := by
  cases step_writes hs hstep with
  | silent _ _ htrace => exact ⟨[], by simpa using htrace⟩
  | child _ _ _ _ _ _ _ htrace => exact ⟨_, htrace⟩
  | outOfRange _ _ _ _ _ htrace => exact ⟨[], by simpa using htrace⟩
  | attempt _ _ _ _ _ _ _ _ _ _ _ _ htrace => exact ⟨_, htrace⟩
  | sending _ _ _ _ _ _ _ _ _ _ _ _ _ _ _ htrace => exact ⟨_, htrace⟩
  | health _ _ _ _ _ _ _ _ _ _ htrace => exact ⟨_, htrace⟩
  | close log _ htrace => exact ⟨log, htrace⟩

theorem commitSend_oneLoop {uri : String} {s : ProducerState} {i r : Nat} {sc : Scope ProducerFields}
    {ran : Piece ProducerFields Sending Nat} {answered : Option BrokerAddress} (hs : Sound s)
    (h : s.pool.OneLoop uri r) (hr : s.producers[i]? = some r) (hsc : s.pool.scope r = some sc)
    (hj : Piece.Journaled sc ran) (hrenews : Renews sc.self.address answered ran.log)
    (hclosed : ∀ id, .closed id ∉ ran.log) (hvacant : ∀ addr ∈ answered, s.pool.Vacant r addr)
    (actor : Actor) : (s.pool.commit actor ran).OneLoop uri r := by
  have hruns := Pool.commit_runs hsc (Pool.grows_of_journaled hj) actor
  obtain ⟨id, hid⟩ := hs.producers r (List.mem_of_getElem? hr)
  have hbegun := h.started _ hid (Or.inl ⟨id, rfl⟩)
  have hloops : (s.pool.commit actor ran).loopsOf r ≠ [] := by
    rw [hruns.loops]
    exact fun hnil => hbegun (List.append_eq_nil_iff.mp hnil).1
  exact h.runs hsc hruns hj hrenews hclosed hvacant (fun _ _ _ => hloops) fun _ _ => hloops

theorem answered?_child {s : ProducerState} {r : Nat} {w : Wake} {env : Env} {c : Child}
    (hc : s.pool.children[r]? = some c) : answered? s r (.child r w env) = c.answered? w := by
  simp [answered?, hc]

theorem answered?_sending {s : ProducerState} {r task : Nat} {w : Wake} {env : Env} {t : SendTask}
    {k : Sending} (ht : s.sends[task]? = some t) (hr : s.producers[t.partition]? = some r)
    (hk : t.status = .await k) : answered? s r (.sending task w env) = k.answered? w := by
  simp [answered?, ht, hr, hk]

theorem step_oneLoop {uri : String} {s s' : ProducerState} {l : ProducerLabel} {r : Nat}
    (hs : Sound s) (h : s.pool.OneLoop uri r)
    (hvacant : ∀ addr ∈ answered? s r l, s.pool.Vacant r addr) (htoken : TokenHad s r l)
    (hstep : step s l = some s') (hrunning : .stopped ∉ logOf r s'.pool.trace) :
    s'.pool.OneLoop uri r := by
  cases l with
  | create env =>
    obtain ⟨-, -, ⟨-, p, hp, rfl⟩ | ⟨hpos, rfl⟩⟩ := create_eq_some hstep
    · rw [settle_pool]
      refine (h.alloc hs.pool hs.kept _).child (Pool.alloc_sound hs.pool hs.kept (by simpa using (topicProducer_fresh s _ _).healthTask)) hp ?_
      intro _ c _ addr haddr
      rw [Child.answered?_start] at haddr
      cases haddr
    · exact h.alloc hs.pool hs.kept _
  | child ref w env =>
    obtain ⟨p, hp, rfl⟩ := Option.map_eq_some_iff.mp hstep
    rw [settle_pool]
    refine h.child hs.pool hp ?_
    rintro rfl c hc
    rwa [answered?_child hc] at hvacant
  | gathered =>
    obtain ⟨g, -, ⟨-, rfl⟩ | ⟨-, -, rfl⟩⟩ := gathered_eq_some hstep <;> exact h
  | send data attributes routingKey env =>
    obtain ⟨-, p, router, t, -, -, ⟨-, rfl⟩ | ⟨ref, sc, hi, hsc, rfl⟩⟩ := send_eq_some hstep
    · exact h
    · have hj := sendAttempt_journaled env t.call 0 sc
      have hspec := @SendCall.attempt_spec t.call env sc 0 (hs.stub hi hsc)
      by_cases hr : r = ref
      · subst hr
        -- The first attempt of a send registers nothing.
        have hrenews : Renews sc.self.address none (t.call.attempt env 0 sc).log := Or.inl hspec.keeps
        exact commitSend_oneLoop hs h hi hsc hj hrenews hspec.not_closed (by simp) _
      · exact h.leaves (Pool.commit_leaves hsc (Pool.grows_of_journaled hj) _ hr)
  | sending task w env =>
    obtain ⟨t, ref, sc, k, ran, ht, hi, hsc, hk, hran, rfl⟩ := sending_eq_some.mp hstep
    have hj := sendResume_journaled env hran
    by_cases hr : r = ref
    · subst hr
      rw [answered?_sending ht hi hk] at hvacant
      exact commitSend_oneLoop hs h hi hsc hj (SendCall.resume_renews (hs.stub hi hsc) hran)
        (hs.resumes ht hi hsc hk hran).not_closed hvacant _
    · exact h.leaves (Pool.commit_leaves hsc (Pool.grows_of_journaled hj) _ hr)
  | health task w env =>
    obtain ⟨p, hp, rfl⟩ := Option.map_eq_some_iff.mp hstep
    exact h.health hp htoken
  | close =>
    cases hstep
    -- `close()` was not called on `r`, which would have written so.
    have hreturned : ∀ ref ∈ s.producers, ∃ o, s.pool.children[ref]? = some (.started o) := by
      intro ref href
      obtain ⟨id, hid⟩ := hs.producers ref href
      exact ⟨_, hid⟩
    refine h.leaves (Pool.foldl_stop_leaves hs.pool (fun hr => hrunning ?_) hreturned)
    obtain ⟨o, ho⟩ := hreturned r hr
    exact Pool.foldl_stop_stopped hr (hs.pool.length ▸ (List.getElem?_eq_some_iff.mp ho).1)

theorem exec_oneLoop {client : Client} {config : ProducerConfig} {ls : List ProducerLabel}
    {s : ProducerState} {r : Nat} (h : exec step (init client config) ls = some s)
    (hsteps : Steps step (Replaces r) (init client config) ls) :
    Sound s ∧ s.pool.client.uri = client.uri ∧
      (.stopped ∉ logOf r s.pool.trace → s.pool.OneLoop client.uri r) := by
  refine exec_invariant_of_steps (P := fun s => Sound s ∧ s.pool.client.uri = client.uri ∧
    (.stopped ∉ logOf r s.pool.trace → s.pool.OneLoop client.uri r)) ?_ ?_ hsteps h
  · rintro s l s' ⟨hs, huri, ht⟩ hc hstep
    refine ⟨step_sound hs hstep, (step_client hstep).uri.trans huri, fun hrunning => ?_⟩
    obtain ⟨log, hlog⟩ := step_log hs hstep
    have hbefore : .stopped ∉ logOf r s.pool.trace := by
      intro hmem
      exact hrunning (by rw [hlog, logOf_append]; exact List.mem_append_left _ hmem)
    obtain ⟨hvacant, htoken⟩ := hc.resolve_left hbefore
    exact step_oneLoop hs (ht hbefore) hvacant htoken hstep hrunning
  · refine ⟨sound_init client config, rfl, fun _ => ⟨?_, ?_, ?_, trivial⟩⟩ <;> simp [init]

theorem oneCheck_of_oneLoop {s : ProducerState} {r : Nat} (hs : Sound s)
    (h : s.pool.OneLoop s.pool.client.uri r) : OneCheck s r := by
  constructor
  · intro e he l hl hgoes
    have hcurrent := (h.loops e he).current hl hgoes
    refine ⟨?_, hcurrent⟩
    rw [(hs.kept.tracks r e he).id, View.id, hcurrent]
    rfl
  · intro hreturned
    obtain ⟨id, hid⟩ := hreturned.created
    have hne := h.created id hid
    have hlt : r < s.pool.endpoints.length := by
      by_contra hge
      rw [hs.kept.fresh r (Nat.le_of_not_lt hge)] at hid
      cases hid
    cases hloops : s.pool.loopsOf r using List.reverseRecOn with
    | nil => exact (hne hloops).elim
    | append_singleton pre l _ =>
      have hchecked := h.loops _ (List.getElem?_eq_getElem hlt)
      rw [hloops] at hchecked
      exact ⟨pre, l, rfl, hchecked.shape⟩
  · exact h.closes

/-- Before `stop()` there is one health check for each producer, as long as each registration finds the
one before it over, its stop event clear and its address fields as they were when it was requested, and
no poll is left out for want of a token. -/
theorem one_health_check_of_replaced {client : Client} {config : ProducerConfig}
    {ls : List ProducerLabel} {s : ProducerState} {r : Nat}
    (h : exec step (init client config) ls = some s)
    (hsteps : Steps step (Replaces r) (init client config) ls) : OneHealthCheck s r := by
  obtain ⟨hs, huri, hone⟩ := exec_oneLoop h hsteps
  exact fun hrunning => oneCheck_of_oneLoop hs (huri ▸ hone hrunning)

/-- A send runs out of retries, and the producer is created again. -/
def recreatedWhilePolled : List ProducerLabel :=
  [.create {}, .child 0 (.answer (.address "a")) {}, .child 0 (.answer (.registered 1)) {},
    .health 0 .start {}, .send [1] none none {}, .sending 0 (.fail .unavailable) {},
    .sending 0 .timer {}, .sending 0 (.fail .unavailable) {},
    .sending 0 (.answer (.address "b")) {}, .sending 0 (.answer (.address "b")) {},
    .sending 0 (.answer (.registered 2)) {}]

/-- The health loop of the first registration goes on next to that of the second. -/
theorem recreated_checks_twice :
    ∃ s, exec step (init (.init "a" {}) (.oneRetry none)) recreatedWhilePolled = some s ∧
      ¬ OneHealthCheck s 0 := by
  refine ⟨_, rfl, fun h => ?_⟩
  have hearlier := (h (by decide)).earlier ⟨by decide, 2, by decide⟩
  revert hearlier
  decide

/-- The same, but the health check fails before the producer is created again. -/
def recreatedWhenFailed : List ProducerLabel :=
  [.create {}, .child 0 (.answer (.address "a")) {}, .child 0 (.answer (.registered 1)) {},
    .health 0 .start {}, .health 0 (.fail .unavailable) {}, .send [1] none none {},
    .sending 0 (.fail .unavailable) {}, .sending 0 .timer {}, .sending 0 (.fail .unavailable) {},
    .sending 0 (.answer (.address "b")) {}, .sending 0 (.answer (.address "b")) {},
    .sending 0 (.answer (.registered 2)) {}, .health 1 .start {}]

theorem recreated_when_failed_checks_once :
    ∃ s, exec step (init (.init "a" {}) (.oneRetry none)) recreatedWhenFailed = some s ∧
      Steps step (Replaces 0) (init (.init "a" {}) (.oneRetry none)) recreatedWhenFailed ∧
      OneHealthCheck s 0 := by
  obtain ⟨s, hs⟩ := Option.isSome_iff_exists.mp
    (by rfl : (exec step (init (.init "a" {}) (.oneRetry none)) recreatedWhenFailed).isSome)
  have hsteps : Steps step (Replaces 0) (init (.init "a" {}) (.oneRetry none)) recreatedWhenFailed := by
    decide
  exact ⟨s, hs, hsteps, one_health_check_of_replaced hs hsteps⟩

end Producer

end Danube
