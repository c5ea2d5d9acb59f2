import Danube.ProducerTrace

/-! # How long a send can take -/

namespace Danube

open Async

def Event.isCreated : Event → Bool
  | .created _ => true
  | _ => false

/-- The number of `SendMessage` RPCs. -/
def messages (log : List Event) : Nat := log.countP fun e => e.message?.isSome

/-- The number of calls of `create()` that returned. -/
def recreations (log : List Event) : Nat := log.countP Event.isCreated

@[simp] theorem messages_nil : messages [] = 0 := rfl

@[simp] theorem recreations_nil : recreations [] = 0 := rfl

@[simp] theorem messages_append (a b : List Event) : messages (a ++ b) = messages a + messages b :=
  List.countP_append

@[simp] theorem recreations_append (a b : List Event) :
    recreations (a ++ b) = recreations a + recreations b := List.countP_append

@[simp] theorem messages_cons (e : Event) (log : List Event) :
    messages (e :: log) = messages log + if e.message?.isSome then 1 else 0 := List.countP_cons ..

@[simp] theorem recreations_cons (e : Event) (log : List Event) :
    recreations (e :: log) = recreations log + if e.isCreated then 1 else 0 := List.countP_cons ..

theorem inner_messages {log : List Event} (h : ∀ e ∈ log, e.Inner) : messages log = 0 := by
  rw [messages, List.countP_eq_zero]
  intro e he
  simp [(h e he).message?]

theorem inner_recreations {log : List Event} (h : ∀ e ∈ log, e.Inner) : recreations log = 0 := by
  rw [recreations, List.countP_eq_zero]
  intro e he
  have := h e he
  cases e <;> first | exact this.elim | simp [Event.isCreated]

namespace SendCall

variable {env : Env} {s : Scope ProducerFields} {n : Nat} {log : List Event}
  {o : Outcome Sending Nat Error}

theorem IsMessage.message? {rpc : Call} (h : IsMessage rpc) :
    ((Event.rpc rpc).message?).isSome := by
  obtain ⟨m, hm⟩ := h
  simp [Event.message?_eq_some.mpr ⟨rpc, rfl, hm⟩]

/-! ## The measures -/

/-- How many messages may be out since the last recreation. -/
def allowed (maxRetries : Nat) : Outcome Sending Nat Error → Nat
  | .await (.message n _) => n + 1
  | .await (.backoff n) => n
  | _ => maxRetries + 1

/-- How often a send can be resumed before its next recreation. -/
def stage (maxRetries : Nat) : Outcome Sending Nat Error → Nat
  | .await (.message n _) => 5 * (maxRetries + 1) + 2 * (maxRetries - n) + 2
  | .await (.backoff n) => 5 * (maxRetries + 1) + 2 * (maxRetries - n) + 3
  | .await (.lookup ..) => 5 * (maxRetries + 1) + 1
  | .await (.create k) => k.rank maxRetries
  | _ => 0

section Simp

variable (m n : Nat) (rpc : Call) (err : Error) (k : TopicProducer.Creating) (id : Nat)

@[simp] theorem allowed_message : allowed m (.await (.message n rpc)) = n + 1 := rfl
@[simp] theorem allowed_backoff : allowed m (.await (.backoff n)) = n := rfl
@[simp] theorem allowed_lookup : allowed m (.await (.lookup err rpc)) = m + 1 := rfl
@[simp] theorem allowed_create : allowed m (.await (.create k)) = m + 1 := rfl
@[simp] theorem allowed_ret : allowed m (.ret id) = m + 1 := rfl
@[simp] theorem allowed_raise : allowed m (.raise err) = m + 1 := rfl

@[simp] theorem stage_message :
    stage m (.await (.message n rpc)) = 5 * (m + 1) + 2 * (m - n) + 2 := rfl
@[simp] theorem stage_backoff : stage m (.await (.backoff n)) = 5 * (m + 1) + 2 * (m - n) + 3 := rfl
@[simp] theorem stage_lookup : stage m (.await (.lookup err rpc)) = 5 * (m + 1) + 1 := rfl
@[simp] theorem stage_create : stage m (.await (.create k)) = k.rank m := rfl
@[simp] theorem stage_ret : stage m (.ret id) = 0 := rfl
@[simp] theorem stage_raise : stage m (.raise err) = 0 := rfl

end Simp

/-- The resumptions between two recreations. -/
def round (maxRetries : Nat) : Nat := 7 * maxRetries + 8

theorem stage_le (maxRetries : Nat) (o : Outcome Sending Nat Error) :
    stage maxRetries o ≤ round maxRetries := by
  unfold stage round
  split
  · omega
  · omega
  · omega
  · rename_i k
    have := k.rank_le maxRetries
    omega
  · omega

theorem Attempts.count (h : Attempts env s n log o) (maxRetries : Nat) (hn : n ≤ maxRetries) :
    messages log + n ≤ allowed maxRetries o ∧ recreations log = 0 ∧
      stage maxRetries o ≤ 5 * (maxRetries + 1) + 2 * (maxRetries - n) + 2 := by
  cases h with
  | issued rpc hrpc _ => simp [hrpc.message?, Event.isCreated, Nat.add_comm]
  | refused err _ => simp; omega

theorem Creates.count {c : Client} (h : Creates c n log o) (maxRetries : Nat) :
    messages log = 0 ∧ recreations log = 0 ∧ allowed maxRetries o = maxRetries + 1 ∧
      stage maxRetries o ≤ 5 * (maxRetries + 1) := by
  cases h with
  | waits log k hlog _ _ =>
    exact ⟨inner_messages hlog, inner_recreations hlog, rfl, k.rank_le maxRetries⟩
  | raises log err hlog =>
    simp [inner_messages hlog, inner_recreations hlog, Event.message?, Event.isCreated]

theorem Creates.next {c : Client} (h : Creates c n log o) :
    (∃ k, o = .await (.create k)) ∨ ∃ err, o = .raise err := by
  cases h with
  | waits log k _ _ _ => exact Or.inl ⟨k, rfl⟩
  | raises log err _ => exact Or.inr ⟨err, rfl⟩

/-- One resumption keeps to the budget of messages, and uses up one of the resumptions. -/
theorem Resumes.count {call : SendCall} {c : Client} {k : Sending} {w : Wake} {m : Nat}
    (h : Resumes call env s c k w log o) (hself : s.self.retryManager.maxRetries = m)
    (hcall : call.retryManager.maxRetries = m) (hmessage : ∀ n rpc, k = .message n rpc → n ≤ m)
    (hbackoff : ∀ n, k = .backoff n → n ≤ m) :
    messages log + allowed m (.await k) ≤ (m + 1) * recreations log + allowed m o ∧
      stage m o + 1 ≤ round m * recreations log + stage m (.await k) := by
  cases h with
  | done n rpc w id =>
    have := hmessage n rpc rfl
    simp; omega
  | failed n rpc w err =>
    have := hmessage n rpc rfl
    simp; omega
  | backoff n rpc w ms hn =>
    simp [Event.message?, Event.isCreated]
    omega
  | exhausted n rpc w err lookup hlookup =>
    have := hmessage n rpc rfl
    simp [hlookup.message?, Event.isCreated]
    omega
  | retried n h =>
    have hn := hbackoff n rfl
    obtain ⟨hmsg, hrec, hstage⟩ := h.count m hn
    simp only [hrec, allowed_backoff, stage_backoff, Nat.mul_zero, Nat.zero_add]
    omega
  | notMoved err rpc w _ => simp
  | moved err rpc response addr haddr h =>
    obtain ⟨hmsg, hrec, hallowed, hstage⟩ := h.count m
    simpa [hmsg, hrec, hallowed, Event.message?, Event.isCreated] using hstage
  | creating k w hr hret h hrank =>
    obtain ⟨hmsg, hrec, hallowed, -⟩ := h.count m
    refine ⟨by simp [hmsg, hrec, hallowed], ?_⟩
    rw [hrec]
    have hpos := k.rank_pos m
    -- `create()` goes on with less left, or raises.
    rcases h.next with ⟨k', rfl⟩ | ⟨err, rfl⟩
    · have := hrank k' rfl
      rw [hself] at this
      simp only [stage_create, Nat.mul_zero, Nat.zero_add]
      omega
    · simp only [stage_raise, stage_create, Nat.mul_zero, Nat.zero_add]
      omega
  | created k w hr id id' hret inner hinner hlog h =>
    obtain ⟨hmsg, hrec, hstage⟩ := h.count m (Nat.zero_le m)
    have hpos := k.rank_pos m
    -- The recreation pays for a new round.
    have hround : round m = 7 * m + 8 := rfl
    rw [hlog]
    simp only [messages_append, recreations_append, inner_messages hinner, inner_recreations hinner,
      hrec]
    simp only [messages_cons, recreations_cons, Event.message?, Event.isCreated, messages_nil,
      recreations_nil, allowed_create, stage_create, Option.isSome_none, if_false, if_true,
      Bool.false_eq_true]
    omega

end SendCall

namespace Producer

/-! ## Whole runs -/

/-- The messages of the send `i` are within its budget. -/
def Within (s : ProducerState) (i : Nat) : Prop :=
  match s.sends[i]? with
  | none => journalOf (.send i) s.pool.trace = []
  | some t =>
    messages (journalOf (.send i) s.pool.trace) ≤
      ((retryManager s.config).maxRetries + 1) * recreations (journalOf (.send i) s.pool.trace) +
        SendCall.allowed (retryManager s.config).maxRetries t.status

/-- The resumptions of the send `i` that its state accounts for. -/
def used (i : Nat) (s : ProducerState) : Nat :=
  match s.sends[i]? with
  | none => 0
  | some t =>
    let m := (retryManager s.config).maxRetries
    SendCall.round m * recreations (journalOf (.send i) s.pool.trace) +
      (SendCall.round m - SendCall.stage m t.status)

def resumesSend (i : Nat) : ProducerLabel → Bool
  | .sending task _ _ => task = i
  | _ => false

theorem resumesSend_eq_false {i : Nat} {l : ProducerLabel} (hl : ∀ w env, l ≠ .sending i w env) :
    resumesSend i l = false := by
  cases l with
  | sending task w env =>
    simp only [resumesSend, decide_eq_false_iff_not]
    rintro rfl
    exact hl w env rfl
  | _ => rfl

theorem step_within {s s' : ProducerState} {l : ProducerLabel} (h : Sound s)
    (hstep : step s l = some s') {i : Nat} (hi : Within s i) :
    Within s' i ∧ used i s + (if resumesSend i l then 1 else 0) ≤ used i s' := by
  unfold Within at hi
  unfold Within used
  rw [step_config hstep]
  cases step_moves h hstep i with
  | idle l hl htask hlog =>
    simp only [htask, hlog, resumesSend_eq_false hl]
    exact ⟨hi, by simp⟩
  | outOfRange l hl hnew t htask err ht hlog =>
    rw [hnew] at hi
    simp only [hnew, htask, hlog, hi, ht, resumesSend_eq_false hl]
    simp
  | starts l hl hnew t htask env sc log h hlog =>
    rw [hnew] at hi
    obtain ⟨hmsg, hrec, -⟩ := h.count _ (Nat.zero_le _)
    simp only [hnew, htask, hlog, hi, List.nil_append, hrec, resumesSend_eq_false hl]
    simpa using hmsg
  | resumes w env t htask r hr sc hsc k hk c log o hres htask' hlog =>
    -- Each resumption is paid for by the stage that it reaches, or by a recreation.
    have hmem := List.mem_of_getElem? htask
    have hwaits := h.waits t hmem k hk
    obtain ⟨hmsg, hstage⟩ := hres.count (congrArg RetryManager.maxRetries (h.self_retryManager hsc))
      (congrArg RetryManager.maxRetries (h.calls t hmem)) hwaits.message hwaits.backoff
    rw [htask] at hi
    dsimp only at hi
    rw [hk] at hi
    simp only [htask, htask', hlog, messages_append, recreations_append, hk, resumesSend,
      decide_true, if_true, Nat.mul_add]
    have hle := SendCall.stage_le (retryManager s.config).maxRetries (.await k)
    exact ⟨by omega, by omega⟩

theorem Sound.allowed_le {s : ProducerState} (h : Sound s) {i : Nat} {t : SendTask}
    (ht : s.sends[i]? = some t) :
    SendCall.allowed (retryManager s.config).maxRetries t.status ≤
      (retryManager s.config).maxRetries + 1 := by
  have hmem := List.mem_of_getElem? ht
  cases hstatus : t.status with
  | await k =>
    have hwaits := h.waits t hmem k hstatus
    cases k with
    | message n rpc =>
      have := hwaits.message n rpc rfl
      simp only [SendCall.allowed_message]
      omega
    | backoff n =>
      have := hwaits.backoff n rfl
      simp only [SendCall.allowed_backoff]
      omega
    | lookup err rpc => simp
    | create k => simp
  | ret id => simp
  | raise err => simp

/-- Between two recreations a send issues at most `max_retries + 1` messages and is resumed a bounded
number of times, so it can only go on for ever while its recreations go on succeeding. -/
theorem send_within_budget {client : Client} {config : ProducerConfig} {ls : List ProducerLabel}
    {s : ProducerState} (h : exec step (init client config) ls = some s) (i : Nat) :
    let m := (retryManager config).maxRetries
    let log := journalOf (.send i) s.pool.trace
    messages log ≤ (m + 1) * (recreations log + 1) ∧
      ls.countP (resumesSend i) ≤ SendCall.round m * (recreations log + 1) := by
  have hconfig := exec_config h
  have hinv : ∀ s l s', Sound s ∧ Within s i → step s l = some s' →
      (Sound s' ∧ Within s' i) ∧ used i s + (if resumesSend i l then 1 else 0) ≤ used i s' := by
    rintro s l s' ⟨hs, hw⟩ hstep
    obtain ⟨hw', hused⟩ := step_within hs hstep hw
    exact ⟨⟨step_sound hs hstep, hw'⟩, hused⟩
  have hinit : Sound (init client config) ∧ Within (init client config) i :=
    ⟨sound_init client config, by simp [Within, init, journalOf]⟩
  have hwithin := exec_invariant (P := fun s => Sound s ∧ Within s i)
    (fun s l s' hs hstep => (hinv s l s' hs hstep).1) hinit h
  have hcount := exec_countP_le hinv hinit h
  have hw := hwithin.2
  unfold Within at hw
  unfold used at hcount
  rw [hconfig] at hw hcount
  dsimp only
  rw [Nat.mul_add, Nat.mul_one, Nat.mul_add, Nat.mul_one]
  cases htask : s.sends[i]? with
  | none =>
    simp only [htask] at hw hcount
    simp only [hw, messages_nil, recreations_nil]
    omega
  | some t =>
    simp only [htask] at hw hcount
    have hallowed := hwithin.1.allowed_le htask
    rw [hconfig] at hallowed
    omega

/-- The producer is created, and a send issues its first message. -/
def firstSend : List ProducerLabel :=
  [.create {}, .child 0 (.answer (.address "a")) {}, .child 0 (.answer (.registered 1)) {},
    .send [1] none none {}]

/-- The retries of the send are used up, it recreates its producer, and they are used up again. -/
def spentTwice : List ProducerLabel :=
  firstSend ++ [.sending 0 (.fail .unavailable) {}, .sending 0 .timer {},
    .sending 0 (.fail .unavailable) {}, .sending 0 (.answer (.address "b")) {},
    .sending 0 (.answer (.address "b")) {}, .sending 0 (.answer (.registered 2)) {},
    .sending 0 (.fail .unavailable) {}, .sending 0 .timer {}, .sending 0 (.fail .unavailable) {}]

theorem spent_send_within_budget :
    ∃ s, exec step (init (.init "a" {}) (.oneRetry none)) spentTwice = some s ∧
      recreations (journalOf (.send 0) s.pool.trace) = 1 ∧
      messages (journalOf (.send 0) s.pool.trace) = 4 ∧
      messages (journalOf (.send 0) s.pool.trace) ≤
        2 * (recreations (journalOf (.send 0) s.pool.trace) + 1) ∧
      spentTwice.countP (resumesSend 0) ≤
        SendCall.round 1 * (recreations (journalOf (.send 0) s.pool.trace) + 1) := by
  obtain ⟨s, hs, hrecreated, hmessages⟩ :
      ∃ s, exec step (init (.init "a" {}) (.oneRetry none)) spentTwice = some s ∧
        recreations (journalOf (.send 0) s.pool.trace) = 1 ∧
        messages (journalOf (.send 0) s.pool.trace) = 4 := ⟨_, rfl, by decide, by decide⟩
  exact ⟨s, hs, hrecreated, hmessages, send_within_budget hs 0⟩

end Producer

/-! ## No bound by the retries alone -/

namespace SendCall

/-- Nothing outside the brokers stands in the way of a send: there is no token and no schema. -/
structure Easy (s : Scope ProducerFields) : Prop where
  options : s.client.connectionManager.options = {}
  schemaRef : s.self.own.schemaRef = none
  stub : s.self.stub ≠ none

theorem Easy.token {s : Scope ProducerFields} (h : Easy s) :
    s.client.attachTokenIfNeeded {} = .ok none := by
  unfold Client.attachTokenIfNeeded
  rw [h.options]
  rfl

theorem getConnection_easy (c : Client) (b u : String) :
    ∃ c' conn, c.getConnection {} b u = (c', .ok conn) ∧
      c'.connectionManager.options = c.connectionManager.options := by
  unfold Client.getConnection ConnectionManager.getConnection
  split
  · exact ⟨_, _, rfl, rfl⟩
  · exact ⟨_, _, rfl, rfl⟩

theorem lookupTopic_easy {c : Client} (h : c.connectionManager.options = {}) (addr topic : String) :
    ∃ c' call, c.lookupTopic {} addr topic = (c', .ok call) ∧ c'.connectionManager.options = {} := by
  obtain ⟨c', conn, hconn, hopt⟩ := getConnection_easy c addr addr
  have htoken : c'.attachTokenIfNeeded {} = .ok none := by
    unfold Client.attachTokenIfNeeded
    rw [hopt, h]
    rfl
  unfold Client.lookupTopic Client.prepare
  simp only [hconn, htoken]
  exact ⟨_, _, rfl, hopt.trans h⟩

theorem attempt_easy (call : SendCall) (n : Nat) {s : Scope ProducerFields} (h : Easy s) :
    ∃ s' rpc, attempt {} call n s = ⟨s', [.rpc rpc], .await (.message n rpc)⟩ ∧ IsMessage rpc ∧
      Easy s' := by
  obtain ⟨stub, hstub⟩ := Option.ne_none_iff_exists'.mp h.stub
  unfold attempt TopicProducer.send
  simp only [hstub, h.token]
  exact ⟨_, _, rfl, ⟨_, rfl⟩, h.options, h.schemaRef, by simp⟩

theorem lookupAndRecreate_easy (err : Error) {s : Scope ProducerFields} (h : Easy s) :
    ∃ s' rpc, lookupAndRecreate {} err s = ⟨s', [.rpc rpc], .await (.lookup err rpc)⟩ ∧
      Event.Inner (.rpc rpc) ∧ Easy s' := by
  obtain ⟨c, rpc, hlookup, hopt⟩ := lookupTopic_easy h.options s.self.connectUrl s.self.topic
  unfold lookupAndRecreate
  simp only [hlookup]
  exact ⟨_, _, rfl, Endpoint.lookup_inner {} hlookup, hopt, h.schemaRef, h.stub⟩

theorem recreateProducer_easy {s : Scope ProducerFields} (h : Easy s) :
    ∃ s' rpc, recreateProducer {} s =
        ⟨s', [.creating, .rpc rpc], .await (.create (.lookup 0 rpc))⟩ ∧
      Event.Inner (.rpc rpc) ∧ Easy s' := by
  obtain ⟨c, rpc, hlookup, hopt⟩ := lookupTopic_easy h.options s.self.connectUrl s.self.topic
  unfold recreateProducer TopicProducer.create Endpoint.create
  simp only [hlookup]
  exact ⟨_, _, rfl, Endpoint.lookup_inner {} hlookup, hopt, h.schemaRef, h.stub⟩

theorem register_easy (n : Nat) {s : Scope ProducerFields} (h : Easy s) :
    ∃ s' addr rpc, Endpoint.attempt (α := Nat) producerRole {} n s =
        ⟨s', [.connected s.self.address rpc.conn, .rpc rpc], .await (.request n addr rpc)⟩ ∧
      Event.Inner (.rpc rpc) ∧ Easy s' := by
  obtain ⟨c, conn, hconn, hopt⟩ := getConnection_easy s.client s.self.brokerAddr s.self.connectUrl
  have htoken : c.attachTokenIfNeeded {} = .ok none := by
    unfold Client.attachTokenIfNeeded
    rw [hopt, h.options]
    rfl
  unfold Endpoint.attempt
  simp only [hconn, htoken]
  exact ⟨Endpoint.countRequest (Endpoint.connect conn c s), s.self.address,
    ⟨conn, producerRole.request s.self, insertProxyHeader none s.self.brokerAddr s.self.proxy⟩, rfl,
    rfl, hopt.trans h.options, h.schemaRef, by simp [Endpoint.countRequest, Endpoint.connect]⟩

theorem registered_easy (n : Nat) (addr : BrokerAddress) (id : Nat) {s : Scope ProducerFields}
    (h : Easy s) :
    ∃ s' loop, Endpoint.registered producerRole {} n addr id s =
      ⟨s', [.registered addr id, .healthStarted loop, .created id], .ret id⟩ ∧ Easy s' := by
  obtain ⟨c, conn, hconn, hopt⟩ := getConnection_easy s.client s.self.brokerAddr s.self.connectUrl
  have hschema : producerRole.schemaRef s.self.own = none := h.schemaRef
  unfold Endpoint.registered Endpoint.checkHealth Endpoint.resolveSchema
  simp only [Endpoint.withId, hconn, Endpoint.startHealthCheck, hschema]
  exact ⟨_, _, rfl, hopt.trans h.options, h.schemaRef, h.stub⟩

/-- Two messages that the broker is too busy for, and a recreation that it takes. -/
def busyRound : List (Wake × Env) :=
  [(.fail .resourceExhausted, {}), (.timer, {}), (.fail .resourceExhausted, {}),
    (.answer (.address "a"), {}), (.answer (.address "a"), {}), (.answer (.registered 1), {})]

theorem advance_of {call : SendCall} {t r : Piece ProducerFields Sending Nat} {k : Sending}
    {l : Wake × Env} (hk : t.next = .await k) (hr : call.resume l.2 t.state k l.1 = some r) :
    call.advance t l = some (r.after t.log) := advance_eq_some.mpr ⟨k, r, hk, hr, rfl⟩

theorem busyRound_runs {call : SendCall} (hcall : call.retryManager.maxRetries = 1)
    {t : Piece ProducerFields Sending Nat} {rpc : Call} (hnext : t.next = .await (.message 0 rpc))
    (ht : Easy t.state) :
    ∃ t' rpc', exec call.advance t busyRound = some t' ∧ t'.next = .await (.message 0 rpc') ∧
      Easy t'.state ∧ messages t'.log = messages t.log + 2 := by
  obtain ⟨s₁, rpc₁, h₁, hm₁, he₁⟩ := attempt_easy call 1 ht
  obtain ⟨s₂, rpc₂, h₂, hm₂, he₂⟩ := lookupAndRecreate_easy (.rpc ⟨.resourceExhausted, ""⟩) he₁
  have he₃ : Easy { s₂ with self := s₂.self.moveTo ⟨"a", "a", false⟩ } :=
    ⟨he₂.options, he₂.schemaRef, he₂.stub⟩
  obtain ⟨s₄, rpc₄, h₄, hm₄, he₄⟩ := recreateProducer_easy he₃
  have he₅ : Easy { s₄ with self := s₄.self.moveTo ⟨"a", "a", false⟩ } :=
    ⟨he₄.options, he₄.schemaRef, he₄.stub⟩
  obtain ⟨s₆, addr, rpc₆, h₆, hm₆, he₆⟩ := register_easy 0 he₅
  obtain ⟨s₇, loop, h₇, he₇⟩ := registered_easy 0 addr 1 he₆
  obtain ⟨s₈, rpc₈, h₈, hm₈, he₈⟩ := attempt_easy call 0 he₇
  -- The first failure leads to a sleep, the second one to the lookup.
  have hbusy : ∀ (n : Nat) (s : Scope ProducerFields) (rpc : Call),
      call.resume {} s (.message n rpc) (.fail .resourceExhausted) =
        some (caught {} call n (.rpc ⟨.resourceExhausted, ""⟩) s) := fun _ _ _ => rfl
  have hsleep : caught {} call 0 (.rpc ⟨.resourceExhausted, ""⟩) t.state =
      ⟨t.state, [.backoff (call.retryManager.calculateBackoff 0 0)], .await (.backoff 1)⟩ := by
    simp [caught, RetryManager.isRetryable, hcall]
  have hlookup : caught {} call 1 (.rpc ⟨.resourceExhausted, ""⟩) s₁ =
      lookupAndRecreate {} (.rpc ⟨.resourceExhausted, ""⟩) s₁ := by
    simp [caught, RetryManager.isRetryable, hcall]
  have hregister : call.resume {} s₄ (.create (.lookup 0 rpc₄)) (.answer (.address "a")) =
      some ⟨s₆, .moved ⟨"a", "a", false⟩ :: [.connected ⟨"a", "a", false⟩ rpc₆.conn, .rpc rpc₆],
        .await (.create (.request 0 addr rpc₆))⟩ := by
    have hresume : call.resume {} s₄ (.create (.lookup 0 rpc₄)) (.answer (.address "a")) =
        some (recreated {} call ((Endpoint.attempt producerRole {} 0
          { s₄ with self := s₄.self.moveTo ⟨"a", "a", false⟩ }).after
            [.moved ⟨"a", "a", false⟩])) := rfl
    rw [hresume, h₆]
    rfl
  have hcreated : call.resume {} s₆ (.create (.request 0 addr rpc₆)) (.answer (.registered 1)) =
      some ⟨s₈, [.registered addr 1, .healthStarted loop, .created 1, .rpc rpc₈],
        .await (.message 0 rpc₈)⟩ := by
    have hregistered : TopicProducer.createResume {} s₆ (.request 0 addr rpc₆)
        (.answer (.registered 1)) = some (Endpoint.registered producerRole {} 0 addr 1 s₆) := rfl
    simp only [resume, hregistered, h₇, Option.map_some, recreated, Ran.andThen, h₈]
    rfl
  refine ⟨_, rpc₈, exec_cons.mpr ⟨_, advance_of hnext ((hbusy 0 _ rpc).trans (congrArg some hsleep)),
    exec_cons.mpr ⟨_, advance_of rfl (congrArg some h₁),
    exec_cons.mpr ⟨_, advance_of rfl ((hbusy 1 _ rpc₁).trans (congrArg some (hlookup.trans h₂))),
    exec_cons.mpr ⟨_, advance_of rfl (congrArg some (congrArg (Ran.after _) h₄)),
    exec_cons.mpr ⟨_, advance_of rfl hregister,
    exec_cons.mpr ⟨_, advance_of rfl hcreated, rfl⟩⟩⟩⟩⟩⟩, ?_, ?_, ?_⟩
  · rfl
  · exact he₈
  · simp only [Ran.after_log, messages_append, messages_cons, messages_nil, hm₁.message?,
      hm₂.message?, hm₄.message?, hm₆.message?, hm₈.message?]
    simp [Event.message?]

theorem busyRounds_run {call : SendCall} (hcall : call.retryManager.maxRetries = 1) (n : Nat)
    {t : Piece ProducerFields Sending Nat} {rpc : Call} (hnext : t.next = .await (.message 0 rpc))
    (ht : Easy t.state) :
    ∃ t', exec call.advance t (List.replicate n busyRound).flatten = some t' ∧
      messages t'.log = messages t.log + 2 * n := by
  induction n generalizing t rpc with
  | zero => exact ⟨t, rfl, rfl⟩
  | succ n ih =>
    obtain ⟨u, rpc', hu, hnext', hu', hmsg⟩ := busyRound_runs hcall hnext ht
    obtain ⟨t', ht', hmsg'⟩ := ih hnext' hu'
    refine ⟨t', ?_, by omega⟩
    rw [List.replicate_succ, List.flatten_cons]
    exact exec_append.mpr ⟨u, hu, ht'⟩

end SendCall

namespace Producer

theorem exec_sending {s : ProducerState} {task r : Nat} {t : SendTask}
    (hr : s.producers[t.partition]? = some r) {ran ran' : Piece ProducerFields Sending Nat}
    (ht : s.sends[task]? = some { t with status := ran.next })
    (hsc : s.pool.scope r = some ran.state) {ls : List (Wake × Env)}
    (h : exec t.call.advance ran ls = some ran') :
    ∃ s' log, exec step s (ls.map fun l => .sending task l.1 l.2) = some s' ∧
      s'.sends[task]? = some { t with status := ran'.next } ∧ ran'.log = ran.log ++ log ∧
      journalOf (.send task) s'.pool.trace = journalOf (.send task) s.pool.trace ++ log := by
  induction ls generalizing s ran with
  | nil =>
    simp only [exec_nil, Option.some.injEq] at h
    subst h
    exact ⟨s, [], rfl, ht, by simp, by simp⟩
  | cons l ls ih =>
    obtain ⟨u, hu, hrun⟩ := exec_cons.mp h
    obtain ⟨k, x, hk, hx, rfl⟩ := advance_eq_some.mp hu
    -- The piece of the call is a step of the producer.
    have hstep : step s (.sending task l.1 l.2) =
        some (commitSend s task { t with status := ran.next } x) :=
      sending_eq_some.mpr ⟨_, r, ran.state, k, x, ht, hr, hsc, hk, hx, rfl⟩
    have href : x.state.ref = r :=
      (sendResume_journaled l.2 hx).ref.trans (Pool.scope_eq_some.mp hsc).2.2.2
    have hlt := (List.getElem?_eq_some_iff.mp (Pool.scope_eq_some.mp hsc).1).1
    let s₁ := commitSend s task { t with status := ran.next } x
    have hr' : s₁.producers[t.partition]? = some r := hr
    have ht' : s₁.sends[task]? = some { t with status := (x.after ran.log).next } :=
      List.getElem?_set_self (List.getElem?_eq_some_iff.mp ht).1
    have hsc' : s₁.pool.scope r = some (x.after ran.log).state :=
      Pool.scope_eq_some.mpr ⟨by simp [s₁, commitSend, Pool.commit, href, hlt], rfl, rfl, href⟩
    obtain ⟨s', log, hs', hstatus, hlog, hjournal⟩ := ih hr' ht' hsc' hrun
    refine ⟨s', x.log ++ log, exec_cons.mpr ⟨_, hstep, hs'⟩, hstatus, ?_, ?_⟩
    · rw [hlog, Ran.after_log, List.append_assoc]
    · rw [hjournal, commitSend_trace task _ hsc (sendResume_journaled l.2 hx), journalOf_append,
        journalOf_entries_self, List.append_assoc]

/-- A run with any number of messages of one send, at one retry. -/
theorem exists_run_with_messages (n : Nat) :
    ∃ ls s, exec step (init (.init "a" {}) (.oneRetry none)) ls = some s ∧
      n ≤ messages (journalOf (.send 0) s.pool.trace) := by
  obtain ⟨s, t, rpc, sc, hs, ht, hr, hsc, heasy, hcall⟩ :
      ∃ (s : ProducerState) (t : SendTask) (rpc : Call) (sc : Scope ProducerFields),
      exec step (init (.init "a" {}) (.oneRetry none)) firstSend = some s ∧
      s.sends[0]? = some { t with status := .await (.message 0 rpc) } ∧
      s.producers[t.partition]? = some 0 ∧ s.pool.scope 0 = some sc ∧ SendCall.Easy sc ∧
      t.call.retryManager.maxRetries = 1 :=
    ⟨_, _, _, _, rfl, rfl, rfl, rfl, ⟨rfl, rfl, by decide⟩, rfl⟩
  obtain ⟨t', ht', hmsg⟩ := @SendCall.busyRounds_run t.call hcall n
    ⟨sc, [], .await (.message 0 rpc)⟩ rpc rfl heasy
  obtain ⟨s', log, hs', -, hlog, hjournal⟩ := exec_sending hr ht hsc ht'
  refine ⟨_, s', exec_append.mpr ⟨s, hs, hs'⟩, ?_⟩
  simp only [List.nil_append] at hlog
  rw [hjournal, messages_append, ← hlog, hmsg]
  simp only [messages_nil]
  omega

/-- No number of messages that depends on `max_retries` alone bounds a send. -/
theorem retries_alone_bound_nothing :
    ¬ ∃ bound : Int → Nat, ∀ client config ls s i, exec step (init client config) ls = some s →
      messages (journalOf (.send i) s.pool.trace) ≤ bound config.options.maxRetries := by
  rintro ⟨bound, hbound⟩
  obtain ⟨ls, s, h, hle⟩ := exists_run_with_messages (bound 1 + 1)
  have := hbound _ _ ls s 0 h
  simp only [ProducerConfig.oneRetry] at this
  omega

end Producer

end Danube
