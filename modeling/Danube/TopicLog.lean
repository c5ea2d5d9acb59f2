import Danube.Attempts

/-!
# The topic logs behind a producer

The brokers append messages to the log of their topic, which outlives a move of the topic. An
answered message has been appended; one that is reported failed may have been, before the report.
-/

namespace Danube

open Async

/-- A message in a topic's log, with the call that sent it. -/
structure Append where
  call : Nat
  message : StreamMessage
  deriving DecidableEq, Repr

/-- A producer and the logs. `taken` are the calls whose `SendMessage` in flight is appended. -/
structure Cluster where
  producer : ProducerState
  log : List Append := []
  taken : List Nat := []

inductive ClusterLabel
  | producer (l : ProducerLabel)
  | append (call : Nat)

/-- The calls whose message is answered with the label. -/
def ProducerLabel.answers : ProducerLabel → Option Nat
  | .sending i (.reply (.ok (.message _))) _ => some i
  | _ => none

/-- The call that goes on with the label. -/
def ProducerLabel.resumes : ProducerLabel → Option Nat
  | .sending i _ _ => some i
  | _ => none

namespace Cluster

def init (client : Client) (config : ProducerConfig) : Cluster where
  producer := Producer.init client config

/-- The message of a call that is in flight. -/
def inFlight (s : ProducerState) (i : Nat) : Option StreamMessage :=
  match s.sends[i]? with
  | some ⟨_, _, .await (.message _ rpc)⟩ => (Event.rpc rpc).message?
  | _ => none

/-- A message is appended while it is in flight, and answered only once it is. -/
def step (s : Cluster) : ClusterLabel → Option Cluster
  | .producer l =>
    if ∀ i ∈ l.answers, i ∈ s.taken then
      (Producer.step s.producer l).map fun p =>
        { s with producer := p, taken := s.taken.filter fun i => l.resumes ≠ some i }
    else none
  | .append i =>
    if i ∈ s.taken then none
    else (inFlight s.producer i).map fun m =>
      { s with log := s.log ++ [⟨i, m⟩], taken := i :: s.taken }

/-- The producer's own labels. -/
def producerLabels (ls : List ClusterLabel) : List ProducerLabel :=
  ls.filterMap fun
    | .producer l => some l
    | .append _ => none

theorem step_producer {s s' : Cluster} {l : ProducerLabel} :
    step s (.producer l) = some s' ↔ (∀ i ∈ l.answers, i ∈ s.taken) ∧
      ∃ p, Producer.step s.producer l = some p ∧ s' = { s with
        producer := p, taken := s.taken.filter fun i => l.resumes ≠ some i } := by
  unfold step
  dsimp only
  by_cases h : ∀ i ∈ l.answers, i ∈ s.taken
  · rw [if_pos h, Option.map_eq_some_iff, and_iff_right h]
    exact exists_congr fun p => and_congr_right fun _ => eq_comm
  · rw [if_neg h]
    exact iff_of_false (by simp) fun hstep => h hstep.1

theorem step_append {s s' : Cluster} {i : Nat} :
    step s (.append i) = some s' ↔ i ∉ s.taken ∧ ∃ m, inFlight s.producer i = some m ∧
      s' = { s with log := s.log ++ [⟨i, m⟩], taken := i :: s.taken } := by
  unfold step
  dsimp only
  by_cases h : i ∈ s.taken
  · rw [if_pos h]
    exact iff_of_false (by simp) fun hstep => hstep.1 h
  · rw [if_neg h, Option.map_eq_some_iff, and_iff_right h]
    exact exists_congr fun m => and_congr_right fun _ => eq_comm

theorem inFlight_eq_some {s : ProducerState} {i : Nat} {m : StreamMessage} :
    inFlight s i = some m ↔ ∃ t n rpc, s.sends[i]? = some t ∧ t.status = .await (.message n rpc) ∧
      rpc.request = .sendMessage m := by
  unfold inFlight
  constructor
  · intro h
    split at h
    · rename_i partition call n rpc ht
      obtain ⟨rpc', hrpc, hm⟩ := Event.message?_eq_some.mp h
      cases hrpc
      exact ⟨_, n, rpc, ht, rfl, hm⟩
    · simp at h
  · rintro ⟨⟨partition, call, status⟩, n, rpc, ht, rfl, hm⟩
    rw [ht]
    exact Event.message?_eq_some.mpr ⟨rpc, rfl, hm⟩

/-! ## What is in the log -/

/-- The call has a message in the log. -/
def Accepted (s : Cluster) (i : Nat) : Prop := ∃ x ∈ s.log, x.call = i

structure Logged (s : Cluster) : Prop where
  steady : Producer.Steady s.producer
  entries : ∀ x ∈ s.log, ∃ t, s.producer.sends[x.call]? = some t ∧
    x.message.content = t.call.content ∧
    x.message.msgId.topicName = Producer.topicOf s.producer.config t.partition ∧
    s.producer.producers[t.partition]? ≠ none
  taken : ∀ i ∈ s.taken, s.Accepted i
  returned : ∀ i t id, s.producer.sends[i]? = some t → t.status = .ret id → s.Accepted i

theorem logged_init (client : Client) (config : ProducerConfig) : Logged (init client config) where
  steady := Producer.steady_init client config
  entries := by simp [init]
  taken := by simp [init]
  returned := by simp [init, Producer.init]

theorem Accepted.append {s s' : Cluster} {i : Nat} (h : s.Accepted i) {x : Append}
    (hlog : s'.log = s.log ++ [x]) : s'.Accepted i := by
  obtain ⟨y, hy, hcall⟩ := h
  exact ⟨y, by rw [hlog]; exact List.mem_append_left _ hy, hcall⟩

theorem step_logged {s s' : Cluster} {l : ClusterLabel} (h : Logged s)
    (hstep : step s l = some s') : Logged s' := by
  cases l with
  | producer l =>
    obtain ⟨hanswers, p, hp, rfl⟩ := step_producer.mp hstep
    refine ⟨Producer.step_steady h.steady hp, fun x hx => ?_, fun i hi => ?_, ?_⟩
    · obtain ⟨t, ht, hcontent, htopic, hbound⟩ := h.entries x hx
      obtain ⟨o, ho⟩ := Producer.step_status h.steady.sound hp ht
      have hne : s.producer.producers ≠ [] := by
        intro hnil
        simp [hnil] at hbound
      refine ⟨_, ho, hcontent, ?_, ?_⟩
      · rw [htopic, Producer.step_config hp]
      · rw [Producer.step_producers h.steady.sound hp hne]
        exact hbound
    · exact h.taken i (List.mem_filter.mp hi).1
    · intro i t id ht hret
      cases Producer.step_attempted h.steady.sound hp i with
      | idle hl hbegins htask hissued => exact h.returned i t id (by rw [← htask, ht]) hret
      | begins hbegins u hu hflight hissued hbefore =>
        -- A message that begins its flight has not returned.
        obtain ⟨n, rpc, hawait⟩ := hflight
        rw [ht, Option.some.injEq] at hu
        subst hu
        rw [hret] at hawait
        cases hawait
      | goesOn hl hbegins u hu hflight hissued hanswer =>
        rw [ht, Option.some.injEq] at hu
        subst hu
        -- What the send returned is the answer of the broker, which appended it before.
        obtain ⟨env, rfl⟩ := hanswer id hret
        exact h.taken i (hanswers i rfl)
  | append i =>
    obtain ⟨-, m, hm, rfl⟩ := step_append.mp hstep
    obtain ⟨t, n, rpc, ht, hstatus, hrpc⟩ := inFlight_eq_some.mp hm
    have hmem := List.mem_of_getElem? ht
    refine ⟨h.steady, fun x hx => ?_, fun j hj => ?_, fun j u id hu hret => ?_⟩
    · rcases List.mem_append.mp hx with hx | hx
      · exact h.entries x hx
      · rw [List.mem_singleton.mp hx]
        obtain ⟨m', hm', hcontent, htopic⟩ := h.steady.carrying t hmem n rpc hstatus
        rw [hrpc, Request.sendMessage.injEq] at hm'
        subst hm'
        obtain ⟨ref, href⟩ := h.steady.sound.ref t hmem _ hstatus
        exact ⟨t, ht, hcontent, htopic, by simp [href]⟩
    · rcases List.mem_cons.mp hj with rfl | hj
      · exact ⟨⟨j, m⟩, by simp, rfl⟩
      · exact (h.taken j hj).append rfl
    · exact (h.returned j u id hu hret).append rfl

end Cluster

end Danube
