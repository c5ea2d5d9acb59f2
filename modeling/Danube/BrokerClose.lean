import Danube.ProducerTrace
import Danube.Cleanup

/-!
# A broker that closes a producer

The broker asks a client to leave by answering CLOSE to the health check of its registration.
-/

namespace Danube

open Async

/-- The id that the broker gave out last, and whether it has answered CLOSE for it since. -/
structure Grant where
  id : Nat := 0
  closed : Bool := false
  deriving DecidableEq, Repr

namespace Grant

def apply (v : Grant) : Event → Grant
  | .registered _ id => { id := id, closed := false }
  | .closed id => if id = v.id then { v with closed := true } else v
  | _ => v

/-- No message goes out under an id that the broker has closed. -/
def Honours (v : Grant) (e : Event) : Prop :=
  ∀ m ∈ e.message?, m.msgId.producerId = v.id → v.closed = false

instance (v : Grant) (e : Event) : Decidable (v.Honours e) :=
  decidable_of_iff (∀ m ∈ e.message?.toList, m.msgId.producerId = v.id → v.closed = false)
    (by simp [Honours])

end Grant

/-- What the broker granted and closed on one endpoint. -/
def grantOf (ref : Nat) (trace : List Entry) : Grant := replay Grant.apply {} (logOf ref trace)

theorem replay_view_id {v : View} {g : Grant} (h : v.id = g.id) (log : List Event) :
    (replay View.apply v log).id = (replay Grant.apply g log).id := by
  induction log generalizing v g with
  | nil => exact h
  | cons e es ih =>
    refine ih ?_
    cases e with
    | closed id =>
      simp only [Grant.apply]
      split <;> exact h
    | registered addr id => rfl
    | _ => exact h

theorem Pool.Kept.message_id {ρ : Type} {p : Pool ρ} (h : p.Kept) {ref : Nat} {e : Endpoint ρ}
    (he : p.endpoints[ref]? = some e) {pre post : List Event} {call : Call} {m : StreamMessage}
    (hlog : logOf ref p.trace = pre ++ .rpc call :: post) (hm : call.request = .sendMessage m) :
    m.msgId.producerId = (replay Grant.apply {} pre).id := by
  have hfits := (always_iff_split ..).mp (h.fits ref e he) pre (.rpc call) post hlog
  obtain ⟨-, -, hmsg, -⟩ := hfits (by simp [hm, Request.onStub])
  rw [hmsg m hm]
  exact replay_view_id rfl pre

/-! ## Where `create()` returns -/

/-- The latest version is the one that the reference asks for. -/
def SchemaReference.Met (ref : SchemaReference) (latest : SchemaInfo) : Prop :=
  match ref.versionRef with
  | some (.pinnedVersion version) => version.toNat = latest.version
  | some (.minVersion version) => version.toNat ≤ latest.version
  | _ => True

namespace Endpoint

variable {ρ : Type} (role : Role ρ) (env : Env)

/-- The answer resolves the schema of a registration, so the call returns. -/
def Resolved (s : Scope ρ) : Registering → Wake → Prop
  | .latest .., .reply (.ok (.schema latest)) =>
    ∃ ref, role.schemaRef s.self.own = some ref ∧ ref.Met latest
  | .pinned .., .reply (.ok (.schema _)) => True
  | _, _ => False

theorem Resolved.resolving {role : Role ρ} {s : Scope ρ} {k : Registering} {w : Wake}
    (h : Resolved role s k w) : k.resolving = true := by
  unfold Resolved at h
  split at h
  · rfl
  · rfl
  · exact h.elim

theorem unresolved_next (n : Nat) (err : Error) (s : Scope ρ) (id : Nat) :
    (unresolved env n err s).next ≠ .ret id := by
  rcases (unresolved_quiet env n err s).next with ⟨k, hk, -⟩ | ⟨e, he⟩
  · simp [hk]
  · simp [he]

theorem latestSchema_returns (n : Nat) (ref : SchemaReference) (latest : SchemaInfo) (s : Scope ρ) :
    (∃ id, (latestSchema role env n ref latest s).next = .ret id) ↔ ref.Met latest := by
  obtain ⟨subject, version⟩ := ref
  rcases version with _ | _ | version | version
  · exact iff_of_true ⟨_, rfl⟩ trivial
  · exact iff_of_true ⟨_, rfl⟩ trivial
  · change _ ↔ version.toNat = latest.version
    simp only [latestSchema]
    split
    · rename_i hlt
      exact iff_of_false (fun ⟨id, hid⟩ => unresolved_next env n _ s id hid) (by omega)
    · split
      · rename_i heq
        exact iff_of_true ⟨_, rfl⟩ heq
      · rename_i hne
        split
        · exact iff_of_false (fun ⟨id, hid⟩ => unresolved_next env n _ _ id hid) hne
        · exact iff_of_false (by simp) hne
  · change _ ↔ version.toNat ≤ latest.version
    simp only [latestSchema]
    split
    · rename_i hlt
      exact iff_of_false (fun ⟨id, hid⟩ => unresolved_next env n _ s id hid) (by omega)
    · rename_i hle
      exact iff_of_true ⟨_, rfl⟩ (by omega)

theorem resume_returns {s : Scope ρ} {k : Registering} {w : Wake} {r : Piece ρ Registering Nat}
    (h : resume role env s k w = some r) (hk : k.resolving) :
    ((∃ id, r.next = .ret id) ↔ Resolved role s k w) ∧ registrations r.log = [] := by
  refine ⟨?_, ?_⟩
  · cases resumption h with
    | latest n call info ref href =>
      rw [latestSchema_returns]
      simp [Resolved, href]
    | pinned => exact iff_of_true ⟨_, rfl⟩ trivial
    | latestFailed n | pinnedFailed n =>
      exact iff_of_false (fun ⟨id, hid⟩ => unresolved_next env n _ s id hid) (by simp [Resolved])
    | _ => cases hk
  · rcases resume_cases role env h with ⟨n, addr, call, id, rfl, -⟩ | ⟨-, -, hr⟩ | ⟨-, hr⟩
    · simp [Registering.resolving] at hk
    · exact hr.registrations
    · exact hr.registrations

theorem resume_registers {s : Scope ρ} {k : Registering} {w : Wake} {r : Piece ρ Registering Nat}
    (h : resume role env s k w = some r) (hk : k.resolving = false) {id : Nat}
    (hret : r.next = .ret id) : registrations r.log ≠ [] := by
  rcases resume_cases role env h with ⟨n, addr, call, id, rfl, rfl, rfl⟩ | ⟨hres, -⟩ | ⟨-, hr⟩
  · simp [registered, registrations, Event.registeredId?]
  · simp [hk] at hres
  · rcases hr.next with ⟨k', hk', -⟩ | ⟨err, herr⟩
    · simp [hk'] at hret
    · simp [herr] at hret

end Endpoint

/-! ## What pieces do to the grant -/

/-- An event that closes nothing. -/
def Event.closes : Event → Bool
  | .closed _ => true
  | _ => false

theorem replay_grant_of_no_registration {log : List Event} (hreg : registrations log = [])
    (hclosed : ∀ e ∈ log, e.closes = false) (v : Grant) : replay Grant.apply v log = v := by
  refine replay_eq_self fun e he => ?_
  cases e with
  | registered addr id =>
    have hid : id ∈ registrations log := List.mem_filterMap.mpr ⟨_, he, rfl⟩
    simp [hreg] at hid
  | closed id => simpa [Event.closes] using hclosed _ he
  | _ => rfl

theorem replay_grant_of_registration {log : List Event} (hreg : registrations log ≠ [])
    (hclosed : ∀ e ∈ log, e.closes = false) (v : Grant) :
    (replay Grant.apply v log).closed = false := by
  induction log generalizing v with
  | nil => exact (hreg rfl).elim
  | cons e es ih =>
    have hes : ∀ x ∈ es, x.closes = false := fun x hx => hclosed x (List.mem_cons_of_mem _ hx)
    rw [replay_cons]
    by_cases hrest : registrations es = []
    · rw [replay_grant_of_no_registration hrest hes]
      cases e with
      | registered addr id => rfl
      | _ => exact (hreg hrest).elim
    · exact ih hrest hes _

theorem Event.Inner.closes {e : Event} (h : e.Inner) : e.closes = false := by
  cases e <;> first | rfl | exact h.elim

theorem honours_of_no_message {log : List Event} (h : ∀ e ∈ log, e.message? = none) (v : Grant) :
    Always Grant.apply Grant.Honours v log :=
  always_of_forall (fun e he v m hm => by simp [h e he] at hm) v

theorem Pool.Checks.message? {l : HealthLoop} {stopEvent : Bool} {position : HealthAt}
    {log : List Event} {stop : Bool} (h : Pool.Checks l stopEvent position log stop) :
    ∀ e ∈ log, e.message? = none := by
  cases h with
  | poll _ _ call n hcall =>
    intro e he
    rw [List.mem_singleton.mp he]
    simp [Event.message?, hcall]
  | close call _ =>
    intro e he
    rw [List.mem_singleton.mp he]
    rfl
  | _ => simp

theorem CallLog.message? {α : Type} {o : Outcome Registering α Error} {log : List Event}
    (h : CallLog o log) : ∀ e ∈ log, e.message? = none := by
  intro e he
  rcases h.mem he with hinner | ⟨-, id, -, rfl⟩ | ⟨err, rfl⟩
  · exact hinner.message?
  · rfl
  · rfl

namespace Producer

/-- No message starts under an id for which the broker has answered CLOSE. -/
def ClosesHonoured (s : ProducerState) : Prop :=
  ∀ ref, Always Grant.apply Grant.Honours {} (logOf ref s.pool.trace)

/-- A suspended send goes on with an attempt under the id that its producer has: after its sleep, or
once the answer has resolved the schema of its recreation. -/
def AttemptsNext (sc : Scope ProducerFields) : Sending → Wake → Prop
  | .backoff _, .timer => True
  | .create k, w => Endpoint.Resolved producerRole sc k w
  | _, _ => False

/-- No attempt begins under an id that the broker has closed, unless its token cannot be had. -/
def AttemptsOpen (s : ProducerState) : ProducerLabel → Prop
  | .send _ _ routingKey env => ∀ ref sc,
    s.producers[(selectPartition s routingKey).1]? = some ref → s.pool.scope ref = some sc →
    SendCall.Sendable env sc → (grantOf ref s.pool.trace).closed = false
  | .sending task w env => ∀ t ref sc k, s.sends[task]? = some t →
    s.producers[t.partition]? = some ref → s.pool.scope ref = some sc → t.status = .await k →
    AttemptsNext sc k w → SendCall.Sendable env sc → (grantOf ref s.pool.trace).closed = false
  | _ => True

/-- Every message of the piece names the id of the grant that it goes out under. -/
def Named (g : Grant) (log : List Event) : Prop :=
  ∀ pre call m post, log = pre ++ .rpc call :: post → call.request = .sendMessage m →
    m.msgId.producerId = (replay Grant.apply g pre).id

theorem attempts_honour {env : Env} {sc : Scope ProducerFields} {n : Nat} {log : List Event}
    {o : Outcome Sending Nat Error} (h : SendCall.Attempts env sc n log o) {g : Grant}
    (hnamed : Named g log) :
    Always Grant.apply Grant.Honours g log ↔ (SendCall.Sendable env sc → g.closed = false) := by
  cases h with
  | issued rpc hrpc htoken =>
    obtain ⟨m, hm⟩ := hrpc
    have hid := hnamed [] rpc m [] rfl hm
    have hmsg : (Event.rpc rpc).message? = some m := Event.message?_eq_some.mpr ⟨rpc, rfl, hm⟩
    constructor
    · rintro ⟨h, -⟩ -
      exact h m hmsg hid
    · intro h
      exact ⟨fun _ _ _ => h htoken, trivial⟩
  | refused err htoken => exact iff_of_true trivial fun h => (htoken h).elim

theorem sendable_of_extends (env : Env) {sc sc' : Scope ProducerFields}
    (h : sc.client.Extends sc'.client) : SendCall.Sendable env sc' ↔ SendCall.Sendable env sc := by
  unfold SendCall.Sendable Client.attachTokenIfNeeded
  rw [h.connections.options]

theorem resumes_honour {call : SendCall} {env : Env} {sc : Scope ProducerFields} {c : Client}
    {k : Sending} {w : Wake} {log : List Event} {o : Outcome Sending Nat Error}
    (h : SendCall.Resumes call env sc c k w log o) {g : Grant} (hnamed : Named g log) :
    Always Grant.apply Grant.Honours g log ↔
      (AttemptsNext sc k w → SendCall.Sendable env sc → g.closed = false) := by
  cases h with
  | done | failed | notMoved => exact iff_of_true trivial (by simp [AttemptsNext])
  | backoff n rpc w ms hn =>
    exact iff_of_true (honours_of_no_message (by simp [Event.message?]) g) (by simp [AttemptsNext])
  | exhausted n rpc w err lookup hlookup =>
    refine iff_of_true (honours_of_no_message ?_ g) (by simp [AttemptsNext])
    simpa using Event.Inner.message? hlookup
  | retried n h => simpa [AttemptsNext] using attempts_honour h hnamed
  | moved err rpc response addr haddr h hasking =>
    -- A call that goes on sends no message.
    obtain ⟨o', hlog⟩ := h.callLog
    refine iff_of_true (honours_of_no_message ?_ g) (by simp [AttemptsNext])
    simpa [Event.message?] using hlog.message?
  | creating k w hr hret h hrank hasking =>
    obtain ⟨o', hlog⟩ := h.callLog
    refine iff_of_true (honours_of_no_message hlog.message? g) fun hres => ?_
    have hk := Endpoint.Resolved.resolving (k := k) hres
    obtain ⟨id, hid⟩ := (Endpoint.resume_returns producerRole env hr hk).1.mpr hres
    exact (hret id hid).elim
  | @created k w r hr id id' hret inner hinner hlog log _ h hasks =>
    -- `create()` returns, and an attempt follows in the same piece.
    have hcall : CallLog (.ret id : Outcome Registering Nat Error) r.log :=
      ⟨inner, _, hlog, hinner, id', rfl⟩
    have hclosed : ∀ e ∈ r.log, e.closes = false := by
      intro e he
      rw [hlog, List.mem_append, List.mem_singleton] at he
      rcases he with he | rfl
      · exact (hinner e he).closes
      · rfl
    have htoken := sendable_of_extends env (resume_journaled producerRole env hr).client
    have hrest : Named (replay Grant.apply g r.log) log := by
      intro pre call' m post hpre hm
      rw [← replay_append]
      exact hnamed (r.log ++ pre) call' m post (by rw [hpre, List.append_assoc]) hm
    rw [always_append, and_iff_right (honours_of_no_message hcall.message? g),
      attempts_honour h hrest, htoken]
    cases hk : k.resolving with
    | true =>
      -- Only the schema was resolved: the grant is that of before.
      obtain ⟨hreturns, hreg⟩ := Endpoint.resume_returns producerRole env hr hk
      have hres : AttemptsNext sc (.create k) w := hreturns.mp ⟨id, hret⟩
      rw [replay_grant_of_no_registration hreg hclosed]
      exact ⟨fun h _ => h, fun h => h hres⟩
    | false =>
      -- The broker has just answered with an id, which is open.
      have hreg := Endpoint.resume_registers producerRole env hr hk hret
      refine iff_of_true (fun _ => replay_grant_of_registration hreg hclosed g) fun hres => ?_
      rw [Endpoint.Resolved.resolving (k := k) hres] at hk
      cases hk

/-! ## Every step -/

theorem grant_named {s : ProducerState} (h : Sound s) {ref : Nat} {e : TopicProducer}
    (he : s.pool.endpoints[ref]? = some e) {before : List Entry} {actor : Actor} {log : List Event}
    (htrace : s.pool.trace = before ++ log.map fun e => ⟨actor, ref, e⟩) :
    Named (grantOf ref before) log := by
  intro pre call m post hlog hm
  unfold grantOf
  rw [← replay_append]
  have hsplit : logOf ref s.pool.trace = (logOf ref before ++ pre) ++ .rpc call :: post := by
    rw [htrace, logOf_append, logOf_entries_self, hlog, List.append_assoc]
  exact h.kept.message_id he hsplit hm

theorem closesHonoured_piece {s s' : ProducerState} {actor : Actor} {ref : Nat} {log : List Event}
    (htrace : s'.pool.trace = s.pool.trace ++ log.map fun e => ⟨actor, ref, e⟩) :
    ClosesHonoured s' ↔ ClosesHonoured s ∧
      Always Grant.apply Grant.Honours (grantOf ref s.pool.trace) log := by
  unfold ClosesHonoured
  rw [htrace]
  have h := @always_append_entries _ _ Grant.apply Grant.Honours Entry.event {} s.pool.trace
    actor ref log
  rw [List.map_id'] at h
  exact h

theorem closesHonoured_of_no_message {s s' : ProducerState} (log : List Entry)
    (htrace : s'.pool.trace = s.pool.trace ++ log) (h : ∀ x ∈ log, x.event.message? = none) :
    ClosesHonoured s' ↔ ClosesHonoured s := by
  refine forall_congr' fun ref => ?_
  rw [htrace, logOf_append, always_append]
  refine and_iff_left (honours_of_no_message (fun e he => ?_) _)
  obtain ⟨actor, hx⟩ := mem_logOf.mp he
  exact h _ hx

theorem endpoint_of_scope {s s' : ProducerState} (h : Sound s) (h' : Sound s')
    (hchildren : s'.pool.children = s.pool.children) {ref : Nat} {sc : Scope ProducerFields}
    (hsc : s.pool.scope ref = some sc) : ∃ e', s'.pool.endpoints[ref]? = some e' := by
  have hlt := (List.getElem?_eq_some_iff.mp (Pool.scope_eq_some.mp hsc).1).1
  have hlt' : ref < s'.pool.endpoints.length := by
    rw [← h'.pool.length, hchildren, h.pool.length]
    exact hlt
  exact ⟨_, List.getElem?_eq_getElem hlt'⟩

theorem step_closesHonoured {s s' : ProducerState} {l : ProducerLabel} (h : Sound s)
    (hstep : step s l = some s') : ClosesHonoured s' ↔ ClosesHonoured s ∧ AttemptsOpen s l := by
  have hs' := step_sound h hstep
  have hregisters : ∀ {l : ProducerLabel}, Registers l → AttemptsOpen s l := by
    intro l hl
    cases l <;> trivial
  cases step_writes h hstep with
  | silent l hl htrace hsends hchildren =>
    rw [closesHonoured_of_no_message [] (by simpa using htrace) (by simp)]
    exact (and_iff_left (hregisters hl)).symm
  | child l hl p hp ref log hlog htrace hchildren hothers hsends =>
    have hmessage : ∀ e ∈ log, e.message? = none := by
      cases hlog with
      | starts log o hfresh hcall hasking ho =>
        simpa [Event.message?] using hcall.message?
      | resumes k log o hk hcall hasking ho => exact hcall.message?
    rw [closesHonoured_of_no_message _ htrace (by simpa using hmessage)]
    exact (and_iff_left (hregisters hl)).symm
  | outOfRange data attributes routingKey env hr htrace hchildren t hsends err ht =>
    rw [closesHonoured_of_no_message [] (by simpa using htrace) (by simp)]
    refine (and_iff_left ?_).symm
    intro ref sc hr'
    rw [hr] at hr'
    cases hr'
  | attempt data attributes routingKey env ref hr sc hsc log t ht hatt htrace hchildren hsends =>
    -- The message names the id that its journal says.
    obtain ⟨e', he'⟩ := endpoint_of_scope h hs' hchildren hsc
    rw [closesHonoured_piece htrace, attempts_honour hatt (grant_named hs' he' htrace)]
    refine and_congr_right fun _ => ⟨?_, fun hopen => hopen ref sc hr hsc⟩
    intro hopen ref' sc' hr' hsc'
    obtain rfl : ref = ref' := Option.some.inj (hr.symm.trans hr')
    obtain rfl : sc = sc' := Option.some.inj (hsc.symm.trans hsc')
    exact hopen
  | sending task w env t ht ref hr sc hsc k hk c log o hres htrace hchildren hsends =>
    obtain ⟨e', he'⟩ := endpoint_of_scope h hs' hchildren hsc
    rw [closesHonoured_piece htrace, resumes_honour hres (grant_named hs' he' htrace)]
    refine and_congr_right fun _ => ?_
    exact (forall_resumed (P := fun _ ref sc k => AttemptsNext sc k w → SendCall.Sendable env sc →
      (grantOf ref s.pool.trace).closed = false) ht hr hsc hk).symm
  | health task w env l hl stopEvent position log stop hchecks htrace hchildren hsends =>
    rw [closesHonoured_of_no_message _ htrace (by simpa using hchecks.message?)]
    exact (and_iff_left trivial).symm
  | close log hlog htrace hchildren hsends =>
    rw [closesHonoured_of_no_message _ htrace fun x hx => by rw [(hlog x hx).1]; rfl]
    exact (and_iff_left trivial).symm

/-- A CLOSE answer is honoured exactly as far as no attempt happens to begin after it: nothing in the
code of a send looks at the stop event. -/
theorem closes_honoured_iff {client : Client} {config : ProducerConfig} {ls : List ProducerLabel}
    {s : ProducerState} (h : exec step (init client config) ls = some s) :
    ClosesHonoured s ↔ Steps step AttemptsOpen (init client config) ls := by
  have hrun := exec_iff_steps (Q := ClosesHonoured) (C := AttemptsOpen)
    (fun s l s' hs hstep => ⟨step_sound hs hstep, step_closesHonoured hs hstep⟩)
    (sound_init client config) h
  have hinit : ClosesHonoured (init client config) := fun ref => by simp [init]
  rw [hrun, and_iff_right hinit]

/-- The broker closes producer 1, and the application sends. -/
def sendAfterClose : List ProducerLabel :=
  [.create {}, .child 0 (.answer (.address "a")) {}, .child 0 (.answer (.registered 1)) {},
    .health 0 .start {}, .health 0 (.answer (.health .close)) {}, .send [1] none none {}]

/-- The message goes out under the closed id. -/
theorem send_after_close_unheeded :
    ∃ s, exec step (init (.init "a" {}) (.oneRetry none)) sendAfterClose = some s ∧
      ¬ ClosesHonoured s :=
  ⟨_, rfl, fun h => absurd (h 0) (by decide)⟩

theorem send_after_close_not_open :
    ∃ s, exec step (init (.init "a" {}) (.oneRetry none)) sendAfterClose = some s ∧
      (ClosesHonoured s ↔
        Steps step AttemptsOpen (init (.init "a" {}) (.oneRetry none)) sendAfterClose) := by
  obtain ⟨s, hs⟩ := Option.isSome_iff_exists.mp
    (by rfl : (exec step (init (.init "a" {}) (.oneRetry none)) sendAfterClose).isSome)
  exact ⟨s, hs, closes_honoured_iff hs⟩

end Producer

end Danube
