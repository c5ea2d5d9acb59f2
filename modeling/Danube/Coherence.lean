import Danube.ProducerJournal

/-! # The address, the stub and the producer id of a message -/

namespace Danube

open Async

/-- The message goes out on the stub that `_connect` built for the pair of addresses it is sent
with, and under an id that the broker it names gave out. `log` is the journal before it. -/
structure Coherent (topic uri : String) (log : List Event) (call : Call) (m : StreamMessage) :
    Prop where
  broker : m.msgId.brokerAddr = (replay View.apply (View.init uri) log).addr.brokerUrl
  topicName : m.msgId.topicName = topic
  stub : ∃ a, .connected a call.conn ∈ log ∧ a.brokerUrl = m.msgId.brokerAddr ∧
    a.connectUrl = (replay View.apply (View.init uri) log).addr.connectUrl
  header : ∃ metadata, call.metadata = insertProxyHeader metadata m.msgId.brokerAddr
    (replay View.apply (View.init uri) log).addr.proxy
  registration : ∃ b, .registered b m.msgId.producerId ∈ log ∧ b.brokerUrl = m.msgId.brokerAddr

/-- The last `_connect` was made with the addresses of the last lookup answer, and that broker
gave out the id of the last registration. -/
def Settled (uri : String) (log : List Event) : Prop :=
  let v := replay View.apply (View.init uri) log
  (∃ a conn, v.stub = some (a, conn) ∧ a.brokerUrl = v.addr.brokerUrl ∧
    a.connectUrl = v.addr.connectUrl) ∧
  ∃ b, .registered b v.id ∈ log ∧ b.brokerUrl = v.addr.brokerUrl

namespace Producer

/-- `P` holds of every `SendMessage` and of the journal of its `TopicProducer` before it. -/
def AtEverySend (s : ProducerState) (P : String → List Event → Call → StreamMessage → Prop) :
    Prop :=
  ∀ r e, s.pool.endpoints[r]? = some e → ∀ pre call m post,
    logOf r s.pool.trace = pre ++ .rpc call :: post → call.request = .sendMessage m →
      P e.topic pre call m

def SendsCoherent (s : ProducerState) : Prop := AtEverySend s (Coherent · s.pool.client.uri)

def SendsSettled (s : ProducerState) : Prop :=
  AtEverySend s fun _ log _ _ => Settled s.pool.client.uri log

theorem stub_mem_log {v : View} {log : List Event} {a : BrokerAddress} {conn : RpcConnection}
    (h : (replay View.apply v log).stub = some (a, conn)) :
    v.stub = some (a, conn) ∨ .connected a conn ∈ log := by
  induction log generalizing v with
  | nil => exact Or.inl h
  | cons e es ih =>
    rcases ih h with h | h
    · cases e with
      | connected a' conn' =>
        simp only [View.apply, Option.some.injEq, Prod.mk.injEq] at h
        exact Or.inr (by simp [h])
      | _ => exact Or.inl h
    · exact Or.inr (List.mem_cons_of_mem _ h)

section Reachable

variable {client : Client} {config : ProducerConfig} {ls : List ProducerLabel} {s : ProducerState}

theorem send_fits (h : exec step (init client config) ls = some s) :
    AtEverySend s fun topic log call m =>
      Fits topic 0 (replay View.apply (View.init s.pool.client.uri) log) (.rpc call) ∧
      call.request = .sendMessage m ∧
      ∀ a conn, .connected a conn ∈ log →
        s.pool.client.connection? a.brokerUrl a.connectUrl = some conn := by
  have hk := exec_kept h
  intro r e he pre call m post hlog hm
  refine ⟨(always_iff_split _ _ _).mp (hk.fits r e he) pre _ post hlog, hm, ?_⟩
  intro a conn hmem
  exact hk.connected r a conn (by rw [hlog]; exact List.mem_append_left _ hmem)

theorem settled_of_coherent {uri topic : String} {client : Client} {log : List Event} {call : Call}
    {m : StreamMessage} (hm : call.request = .sendMessage m)
    (hfits : Fits topic 0 (replay View.apply (View.init uri) log) (.rpc call))
    (hconn : ∀ a conn, .connected a conn ∈ log →
      client.connection? a.brokerUrl a.connectUrl = some conn)
    (h : Coherent topic uri log call m) : Settled uri log := by
  obtain ⟨⟨a, ha⟩, -, hmsg, -⟩ := hfits (by simp [hm, Request.onStub])
  have hid := hmsg m hm
  obtain ⟨a', hmem, hb, hc⟩ := h.stub
  have hlast : .connected a call.conn ∈ log :=
    (stub_mem_log ha).resolve_left (by simp [View.init])
  -- Both connects gave the same channel, so they were for the same pair.
  obtain ⟨hbroker, hconnect⟩ :=
    ConnectionManager.connection?_inj (hconn a _ hlast) (hconn a' _ hmem)
  refine ⟨⟨a, call.conn, ha, ?_, ?_⟩, ?_⟩
  · rw [hbroker, hb, h.broker]
  · rw [hconnect, hc]
  · obtain ⟨b, hreg, hbroker'⟩ := h.registration
    rw [hid] at hreg hbroker'
    exact ⟨b, hreg, hbroker'⟩

theorem coherent_of_settled {uri topic : String} {log : List Event} {call : Call}
    {m : StreamMessage} (hm : call.request = .sendMessage m)
    (hfits : Fits topic 0 (replay View.apply (View.init uri) log) (.rpc call))
    (h : Settled uri log) : Coherent topic uri log call m := by
  obtain ⟨⟨a, ha⟩, hmd, hmsg, -⟩ := hfits (by simp [hm, Request.onStub])
  have hid := hmsg m hm
  obtain ⟨⟨a', conn, ha', hb, hc⟩, b, hreg, hbroker⟩ := h
  rw [ha, Option.some.injEq, Prod.mk.injEq] at ha'
  obtain ⟨rfl, -⟩ := ha'
  constructor
  · rw [hid]
  · rw [hid]
  · refine ⟨a, (stub_mem_log ha).resolve_left (by simp [View.init]), ?_, hc⟩
    rw [hb, hid]
  · rw [hid]
    exact hmd
  · rw [hid]
    exact ⟨b, hreg, hbroker⟩

/-- In every run the messages are coherent exactly when each of them goes out settled: a lookup
answer that moves the address opens a window, which only a `_connect` and a registration at that
address close. -/
theorem sends_coherent_iff_settled (h : exec step (init client config) ls = some s) :
    SendsCoherent s ↔ SendsSettled s := by
  have hfits := send_fits h
  constructor
  · intro hcoh r e he pre call m post hlog hm
    obtain ⟨hf, -, hconn⟩ := hfits r e he pre call m post hlog hm
    exact settled_of_coherent hm hf hconn (hcoh r e he pre call m post hlog hm)
  · intro hset r e he pre call m post hlog hm
    obtain ⟨hf, -, -⟩ := hfits r e he pre call m post hlog hm
    exact coherent_of_settled hm hf (hset r e he pre call m post hlog hm)

end Reachable

/-- Every broker that a message names has registered the producer. -/
theorem SendsCoherent.registeredAt {s : ProducerState} (h : SendsCoherent s) {r : Nat}
    {e : TopicProducer} (he : s.pool.endpoints[r]? = some e) {m : StreamMessage}
    (hm : m ∈ (logOf r s.pool.trace).filterMap Event.message?) :
    m.msgId.brokerAddr ∈ (logOf r s.pool.trace).filterMap Event.registeredAt? := by
  obtain ⟨x, hx, hxm⟩ := List.mem_filterMap.mp hm
  obtain ⟨call, rfl, hreq⟩ := Event.message?_eq_some.mp hxm
  obtain ⟨pre, post, hlog⟩ := List.append_of_mem hx
  obtain ⟨b, hb, hbroker⟩ := (h r e he pre call m post hlog hreq).registration
  refine List.mem_filterMap.mpr ⟨.registered b m.msgId.producerId, ?_, congrArg some hbroker⟩
  rw [hlog]
  exact List.mem_append_left _ hb

/-- The first send exhausts its retries, and the lookup of its recreation answers another broker.
The second send starts while that recreation waits for its own lookup. -/
def halfRecreated : List ProducerLabel :=
  [.create {}, .child 0 (.answer (.address "a")) {}, .child 0 (.answer (.registered 1)) {},
    .send [1] none none {}, .sending 0 (.fail .unavailable) {}, .sending 0 .timer {},
    .sending 0 (.fail .unavailable) {}, .sending 0 (.answer (.address "b")) {},
    .send [2] none none {}]

/-- The second message names the new broker, which never registered the producer. -/
theorem half_recreated_mixes_brokers :
    ∃ s, exec step (init (.init "a" {}) (.oneRetry none)) halfRecreated = some s ∧
      ¬ SendsCoherent s := by
  refine ⟨_, rfl, fun h => ?_⟩
  have hb := List.forall_mem_map.mpr (fun m hm => h.registeredAt (r := 0) rfl (m := m) hm) "b"
    (by decide)
  revert hb
  decide

theorem half_recreated_unsettled :
    ∃ s, exec step (init (.init "a" {}) (.oneRetry none)) halfRecreated = some s ∧
      (SendsCoherent s ↔ SendsSettled s) := by
  obtain ⟨s, hs⟩ := Option.isSome_iff_exists.mp
    (by rfl : (exec step (init (.init "a" {}) (.oneRetry none)) halfRecreated).isSome)
  exact ⟨s, hs, sends_coherent_iff_settled hs⟩

end Producer

end Danube
