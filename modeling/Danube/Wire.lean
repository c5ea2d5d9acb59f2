import Danube.EndpointMoves

/-!
# What the RPCs say of a producer or consumer

Names, topics, the schema reference, the dispatch strategy, the subscription and the key filters of an RPC
are what was set on the builder, in the first registration and in all later ones.
-/

namespace Danube

open Async Producer

/-- `tells` of every RPC in a journal, and of the client type of every health loop in it. -/
structure Tells (clientType : ClientType) (tells : Request → Prop) (log : List Event) : Prop where
  calls : ∀ call, .rpc call ∈ log → tells call.request
  loops : ∀ l, .healthStarted l ∈ log → l.clientType = clientType

namespace Tells

variable {clientType : ClientType} {tells : Request → Prop} {a b : List Event}

theorem nil : Tells clientType tells [] := ⟨by simp, by simp⟩

theorem append (ha : Tells clientType tells a) (hb : Tells clientType tells b) :
    Tells clientType tells (a ++ b) where
  calls call hcall := (List.mem_append.mp hcall).elim (ha.calls call) (hb.calls call)
  loops l hl := (List.mem_append.mp hl).elim (ha.loops l) (hb.loops l)

theorem quiet {e : Event} (hrpc : ∀ call, e ≠ .rpc call) (hloop : ∀ l, e ≠ .healthStarted l) :
    Tells clientType tells [e] where
  calls call hcall := (hrpc call (List.mem_singleton.mp hcall).symm).elim
  loops l hl := (hloop l (List.mem_singleton.mp hl).symm).elim

theorem rpc {call : Call} (h : tells call.request) : Tells clientType tells [.rpc call] where
  calls x hx := by
    cases List.mem_singleton.mp hx
    exact h
  loops l hl := by cases List.mem_singleton.mp hl

end Tells

/-! ## The actions -/

variable {ρ : Type}

/-- What the RPCs of a role tell when the endpoint is as `fixed` has it. -/
structure Voice (role : Role ρ) (acks : Request → Prop) (fixed : Endpoint ρ → Prop)
    (tells : Request → Prop) : Prop where
  change : ∀ e e' : Endpoint ρ, fixed e → e'.topic = e.topic → e'.name = e.name →
    (e'.own = e.own ∨ ∃ info, e'.own = role.setSchema e.own info) → fixed e'
  lookup : ∀ e n, fixed e → tells (.topicLookup n e.topic)
  register : ∀ e, fixed e → tells (role.request e)
  schema : ∀ e ref request, fixed e → role.schemaRef e.own = some ref → ref.Asks request → tells request
  message : ∀ e m, fixed e → Endpoint.IsFrom e m → role.clientType = .producer → tells (.sendMessage m)
  receive : ∀ n id, role.clientType = .consumer → tells (.receiveMessages n id)
  ack : ∀ request, acks request → tells request
  check : ∀ n id, tells (.healthCheck n role.clientType id)

variable {role : Role ρ} {acks : Request → Prop} {fixed : Endpoint ρ → Prop} {tells : Request → Prop}

theorem Voice.act (h : Voice role acks fixed tells) {env : Env} {s s' : Scope ρ} {log : List Event}
    (hs : fixed s.self) (hact : Endpoint.Act role env s log s') :
    fixed s'.self ∧ Tells role.clientType tells log := by
  cases hact with
  | remark x hx =>
    refine ⟨hs, .quiet ?_ ?_⟩
    · rintro call rfl
      cases hx
    · rintro l rfl
      cases hx
  | lookup c conn metadata hprepare => exact ⟨hs, .rpc (h.lookup s.self _ hs)⟩
  | registry c conn metadata ref href request hrequest hprepare =>
    exact ⟨hs, .rpc (h.schema s.self ref request hs href hrequest)⟩
  | unprepared | unconnected => exact ⟨hs, .nil⟩
  | moved | registered =>
    exact ⟨h.change _ _ hs rfl rfl (Or.inl rfl), .quiet (fun _ hx => by cases hx) fun _ hx => by cases hx⟩
  | connect =>
    exact ⟨h.change _ _ hs rfl rfl (Or.inl rfl), .quiet (fun _ hx => by cases hx) fun _ hx => by cases hx⟩
  | clearStop => exact ⟨h.change _ _ hs rfl rfl (Or.inl rfl), by simp, by simp⟩
  | register c conn metadata hconn hmetadata =>
    refine ⟨h.change _ _ hs rfl rfl (Or.inl rfl), ?_⟩
    have hconnected : Tells role.clientType tells [.connected s.self.address conn] :=
      .quiet (fun _ hx => by cases hx) fun _ hx => by cases hx
    exact hconnected.append (.rpc (h.register s.self hs))
  | skip => exact ⟨h.change _ _ hs rfl rfl (Or.inl rfl), .nil⟩
  | startHealthCheck c conn hconn =>
    refine ⟨h.change _ _ hs rfl rfl (Or.inl rfl), fun _ hx => by simp at hx, fun l hl => ?_⟩
    cases List.mem_singleton.mp hl
    rfl
  | setSchema info => exact ⟨h.change _ _ hs rfl rfl (Or.inr ⟨info, rfl⟩), .nil⟩
  | stream conn metadata request hstub hmetadata hrequest =>
    refine ⟨h.change _ _ hs rfl rfl (Or.inl rfl), .rpc ?_⟩
    rcases hrequest with ⟨m, rfl, hm, hrole⟩ | ⟨rfl, hrole⟩
    · exact h.message s.self m hs hm hrole
    · exact h.receive _ _ hrole

/-- What this step builds a producer with, when it builds one. -/
def SessionLabel.producer? : SessionLabel → Option ProducerConfig
  | .newProducer calls =>
    if (ProducerConfig.set calls).topicName = "" ∨ (ProducerConfig.set calls).producerName = "" then none
    else some (ProducerConfig.set calls)
  | _ => none

/-- What this step builds a consumer with. -/
def SessionLabel.consumer? : SessionLabel → Option ConsumerConfig
  | .newConsumer calls => if (ConsumerConfig.set calls).Complete then some (.set calls) else none
  | _ => none

namespace Session

variable {s : Session} {uri : String} {options : List OptionsCall} {ls : List SessionLabel}

theorem map_set_of_eq {α β : Type} {f : α → β} {xs : List α} {i : Nat} {x y : α} (hx : xs[i]? = some x)
    (hy : f y = f x) : (xs.set i y).map f = xs.map f := by
  obtain ⟨hlt, rfl⟩ := List.getElem?_eq_some_iff.mp hx
  rw [List.map_set, hy, ← List.map_set, List.set_getElem_self]

theorem built (h : exec step (init uri options) ls = some s) :
    s.producers.map ProducerState.config = ls.filterMap SessionLabel.producer? ∧
      s.consumers.map ConsumerState.config = ls.filterMap SessionLabel.consumer? := by
  refine exec_induction (P := fun ls s =>
    s.producers.map ProducerState.config = ls.filterMap SessionLabel.producer? ∧
      s.consumers.map ConsumerState.config = ls.filterMap SessionLabel.consumer?) ⟨rfl, rfl⟩
    (fun ls s l s' _ hs hstep => ?_) h
  rw [List.filterMap_append, List.filterMap_append, ← hs.1, ← hs.2]
  cases stepped hstep with
  | options | registry | answer => simp [SessionLabel.producer?, SessionLabel.consumer?]
  | newProducer calls config hbuild =>
    rw [ProducerBuilder.build_ofCalls] at hbuild
    split at hbuild
    · cases hbuild
    · split at hbuild
      · cases hbuild
      · rename_i htopic hname
        cases hbuild
        simp [SessionLabel.producer?, SessionLabel.consumer?, htopic, hname, Producer.init]
  | noProducer calls err hbuild =>
    rw [ProducerBuilder.build_ofCalls] at hbuild
    split at hbuild
    · rename_i htopic
      simp [SessionLabel.producer?, SessionLabel.consumer?, htopic]
    · split at hbuild
      · rename_i hname
        simp [SessionLabel.producer?, SessionLabel.consumer?, hname]
      · cases hbuild
  | newConsumer calls hcomplete =>
    simp [SessionLabel.producer?, SessionLabel.consumer?, Consumer.init, hcomplete]
  | noConsumer calls hincomplete => simp [SessionLabel.producer?, SessionLabel.consumer?, hincomplete]
  | producer i l p p' hp hstep' =>
    have hconfig : p'.config = (p.withClient s.client).config := Producer.step_config hstep'
    simp [SessionLabel.producer?, SessionLabel.consumer?, map_set_of_eq hp hconfig]
  | consumer i l p p' hp hstep' =>
    have hconfig : p'.config = (p.withClient s.client).config := Consumer.step_config hstep'
    simp [SessionLabel.producer?, SessionLabel.consumer?, map_set_of_eq hp hconfig]

end Session

end Danube
