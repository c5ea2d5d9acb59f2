import Danube.Consulting
import Danube.SendBudget

/-!
# Sends that are granted

A send whose own RPCs are granted returns after at most six more of its pieces, whatever happened to it
before and whatever other sends, recreations and health checks do to its producer meanwhile.
-/

namespace Danube

open Async

/-- The answers that a send can be woken with when it is granted: its message is accepted, its own
lookup finds the topic and its registrations are granted. -/
def Sending.Granted (schemaRef : Option SchemaReference) : Sending → Wake → Prop
  | .message .., .reply (.error _) => False
  | .lookup .., .reply (.error _) => False
  | .lookup .., .reply (.ok (.topicLookup response)) =>
    ∃ addr, Client.handleLookup response = .ok addr
  | .create k, w => k.Granted schemaRef w
  | _, _ => True

/-- The pieces that a granted send has left, the one it waits for included. -/
def Sending.left : Sending → Nat
  | .message .. => 1
  | .backoff _ => 2
  | .lookup .. => 6
  | .create k => k.left + 1

theorem Sending.left_pos (k : Sending) : 0 < k.left := by
  unfold left
  split <;> omega

theorem Sending.left_le (k : Sending) : k.left ≤ 6 := by
  cases k with
  | create k =>
    have hle := k.left_le
    simp only [left]
    omega
  | _ => simp [left]

theorem Sending.granted_answer {schemaRef : Option SchemaReference} {response : Response}
    (hlookup : ∀ r, response = .topicLookup r → ∃ addr, Client.handleLookup r = .ok addr)
    (hschema : ∀ info, response ≠ .schema info) (k : Sending) :
    k.Granted schemaRef (.answer response) := by
  cases k with
  | create k => exact k.granted_answer hschema
  | lookup err rpc =>
    cases response with
    | topicLookup r => exact hlookup r rfl
    | _ => trivial
  | _ => trivial

namespace SendCall

variable {env : Env} {call : SendCall} {s : Scope ProducerFields} {bound : Nat}

/-- The piece returns, or suspends the send with less than `bound` pieces left. -/
def Nears (bound : Nat) (r : Piece ProducerFields Sending Nat) : Prop :=
  match r.next with
  | .await k => k.left < bound
  | .ret _ => True
  | .raise _ => False

theorem Nears.after {r : Piece ProducerFields Sending Nat} (h : Nears bound r) (log : List Event) :
    Nears bound (r.after log) := h

theorem Nears.mono {a b : Nat} {r : Piece ProducerFields Sending Nat} (h : Nears a r) (hab : a ≤ b) :
    Nears b r := by
  unfold Nears at h ⊢
  cases hnext : r.next with
  | await k =>
    rw [hnext] at h
    exact Nat.lt_of_lt_of_le h hab
  | ret a => trivial
  | raise err =>
    rw [hnext] at h
    exact h

theorem nears_andThen {α : Type} {r : Piece ProducerFields TopicProducer.Creating α}
    {onRet : Scope ProducerFields → α → Piece ProducerFields Sending Nat} (h : Endpoint.Nears bound r)
    (hret : ∀ a, r.next = .ret a → Nears (bound + 1) (onRet r.state a)) :
    Nears (bound + 1) (r.andThen .create onRet fun s e => raise e s) := by
  unfold Endpoint.Nears at h
  unfold Ran.andThen
  cases hnext : r.next with
  | await k =>
    rw [hnext] at h
    simpa [Nears, Sending.left] using h
  | ret a => exact (hret a hnext).after _
  | raise err =>
    rw [hnext] at h
    exact h.elim

theorem attempt_nears (hw : env.Works) (call : SendCall) (n : Nat) (hs : s.self.stub ≠ none) :
    Nears 2 (attempt env call n s) := by
  obtain ⟨stub, hstub⟩ := Option.ne_none_iff_exists'.mp hs
  obtain ⟨metadata, hmetadata⟩ := Client.attachToken_works hw.call s.client
  unfold attempt TopicProducer.send
  rw [hstub]
  dsimp only
  rw [hmetadata]
  simp [Nears, Sending.left]

theorem recreateProducer_nears (hw : env.Works) (s : Scope ProducerFields) :
    Nears 6 (recreateProducer env s) :=
  nears_andThen (Endpoint.create_nears producerRole hw s) fun a => a.elim

theorem resume_nears (hw : env.Works) (hs : s.self.stub ≠ none) {k : Sending} {w : Wake}
    {r : Piece ProducerFields Sending Nat} (hg : k.Granted s.self.own.schemaRef w)
    (h : call.resume env s k w = some r) : Nears k.left r := by
  cases resumption h with
  | answered => trivial
  | failed | lookupFailed => exact hg.elim
  | slept n => exact attempt_nears hw call n hs
  | moved => exact (recreateProducer_nears hw _).after _
  | notMoved err rpc response err' herr =>
    obtain ⟨addr, haddr⟩ := hg
    rw [haddr] at herr
    cases herr
  | creating k w r' hr' =>
    refine nears_andThen (Endpoint.resume_nears producerRole hw hg hr') fun a ha => ?_
    have hstub : r'.state.self.stub ≠ none :=
      (Endpoint.resume_shaped producerRole env (fun _ => hs) hr').stubRet a ha
    have hpos := k.left_pos
    exact (attempt_nears hw call 0 hstub).mono (by omega)

/-- There is an answer that grants what a suspended send waits for. -/
theorem exists_granted (call : SendCall) {k : Sending}
    (hk : ∀ k', k = .create k' → k'.Consults s.self.own.schemaRef) :
    ∃ w, k.Granted s.self.own.schemaRef w ∧ ∀ env, (call.resume env s k w).isSome := by
  cases k with
  | message n rpc => exact ⟨.answer (.message 1), trivial, fun env => rfl⟩
  | backoff n => exact ⟨.timer, trivial, fun env => rfl⟩
  | lookup err rpc => exact ⟨.answer (.address "a"), ⟨_, rfl⟩, fun env => rfl⟩
  | create k =>
    obtain ⟨w, hg, hw⟩ := Endpoint.exists_granted producerRole (hk k rfl)
    exact ⟨w, hg, fun env => by simpa [resume, TopicProducer.createResume] using hw env⟩

end SendCall

namespace Producer

/-- If the label resumes the send `i`, nothing outside the client raises and the answer grants what the
send waits for. -/
def GrantsSend (i : Nat) (s : ProducerState) (l : ProducerLabel) : Prop :=
  ∀ w env, l = .sending i w env → env.Works ∧
    ∀ t k, s.sends[i]? = some t → t.status = .await k → k.Granted s.config.schemaRef w

/-- The pieces that the send `i` has left when it is granted. -/
def sendLeft (i : Nat) (s : ProducerState) : Nat :=
  match s.sends[i]? with
  | some ⟨_, _, .await k⟩ => k.left
  | _ => 0

theorem sendLeft_await {s : ProducerState} {i : Nat} {t : SendTask} {k : Sending}
    (ht : s.sends[i]? = some t) (hk : t.status = .await k) : sendLeft i s = k.left := by
  obtain ⟨partition, call, status⟩ := t
  obtain rfl : status = .await k := hk
  unfold sendLeft
  rw [ht]

/-- The send `i` was made and has not raised. -/
def Going (i : Nat) (s : ProducerState) : Prop :=
  ∃ t, s.sends[i]? = some t ∧ ∀ err, t.status ≠ .raise err

variable {s s' : ProducerState} {i : Nat} {l : ProducerLabel}

theorem step_other_sends (h : Sound s) (hstep : step s l = some s') {t : SendTask}
    (ht : s.sends[i]? = some t) (hl : resumesSend i l = false) : s'.sends[i]? = some t := by
  cases step_moves h hstep i with
  | idle _ _ htask => rw [htask, ht]
  | outOfRange _ _ hnew | starts _ _ hnew =>
    rw [hnew] at ht
    cases ht
  | resumes => simp [resumesSend] at hl

/-- One step: the send `i` does not raise, and is nearer to its return if the step resumed it. -/
theorem step_granted (hs : Sound s) (hc : Consulting s) (hi : Going i s) (hg : GrantsSend i s l)
    (hstep : step s l = some s') :
    Going i s' ∧ sendLeft i s' + (if resumesSend i l then 1 else 0) ≤ sendLeft i s := by
  obtain ⟨t, ht, hraise⟩ := hi
  cases hl : resumesSend i l with
  | false =>
    have ht' := step_other_sends hs hstep ht hl
    refine ⟨⟨t, ht', hraise⟩, ?_⟩
    unfold sendLeft
    rw [ht, ht']
    simp
  | true =>
    cases l with
    | sending task w env =>
      obtain rfl : task = i := by simpa [resumesSend] using hl
      obtain ⟨hw, hgrant⟩ := hg w env rfl
      obtain ⟨u, r, sc, k, ran, hu, hr, hsc, hk, hran, rfl⟩ := sending_eq_some.mp hstep
      obtain rfl : t = u := Option.some.inj (ht.symm.trans hu)
      have hgk : k.Granted sc.self.own.schemaRef w := by
        -- The reference that is resolved is the one of the configuration.
        have hown : sc.self.own.schemaRef = s.config.schemaRef := hc.pool.scope hsc
        rw [hown]
        exact hgrant t k ht hk
      have hnears := SendCall.resume_nears hw (hs.stub hr hsc) hgk hran
      have ht' : (commitSend s task t ran).sends[task]? = some { t with status := ran.next } :=
        List.getElem?_set_self (List.getElem?_eq_some_iff.mp ht).1
      have hpos := k.left_pos
      rw [sendLeft_await ht hk]
      unfold SendCall.Nears at hnears
      unfold sendLeft
      rw [ht']
      cases hnext : ran.next with
      | await k' =>
        rw [hnext] at hnears
        exact ⟨⟨_, ht', by simp [hnext]⟩, hnears⟩
      | ret id => exact ⟨⟨_, ht', by simp [hnext]⟩, hpos⟩
      | raise err =>
        rw [hnext] at hnears
        exact hnears.elim
    | _ => simp [resumesSend] at hl

theorem exists_grant (hs : Sound s) (hc : Consulting s) {t : SendTask} (ht : s.sends[i]? = some t)
    {k : Sending} (hk : t.status = .await k) :
    ∃ w, ∀ env, env.Works →
      GrantsSend i s (.sending i w env) ∧ (step s (.sending i w env)).isSome := by
  have hmem := List.mem_of_getElem? ht
  obtain ⟨r, hr⟩ := hs.ref t hmem k hk
  obtain ⟨id, hid⟩ := hs.producers r (List.mem_of_getElem? hr)
  have hlt : r < s.pool.endpoints.length :=
    hs.pool.length ▸ (List.getElem?_eq_some_iff.mp hid).1
  obtain ⟨sc, hsc⟩ : ∃ sc, s.pool.scope r = some sc :=
    ⟨_, by rw [Pool.scope, List.getElem?_eq_getElem hlt]; rfl⟩
  have hown : sc.self.own.schemaRef = s.config.schemaRef := hc.pool.scope hsc
  have hconsults : ∀ k', k = .create k' → k'.Consults sc.self.own.schemaRef := by
    rintro k' rfl
    rw [hown]
    exact hc.sends t hmem k' hk
  obtain ⟨w, hg, hresume⟩ := SendCall.exists_granted t.call hconsults
  refine ⟨w, fun env hw => ⟨?_, ?_⟩⟩
  · rintro w' env' heq
    cases heq
    refine ⟨hw, fun t' k' ht' hk' => ?_⟩
    obtain rfl : t = t' := Option.some.inj (ht.symm.trans ht')
    obtain rfl : k = k' := by simpa using hk.symm.trans hk'
    exact hown ▸ hg
  · obtain ⟨ran, hran⟩ := Option.isSome_iff_exists.mp (hresume env)
    exact Option.isSome_iff_exists.mpr
      ⟨_, sending_eq_some.mpr ⟨t, r, sc, k, ran, ht, hr, hsc, hk, hran, rfl⟩⟩

/-- In every run in which the answers to the RPCs of one send are granted, the send returns after at most
six of its own pieces: while it has not returned it has not raised either, it waits for an answer, and
there is one that grants what it waits for. The other steps of the run are any. -/
theorem granted_send_returns {client : Client} {config : ProducerConfig} {ls run : List ProducerLabel}
    (h : exec step (init client config) ls = some s) {t : SendTask} (ht : s.sends[i]? = some t)
    {k : Sending} (hk : t.status = .await k) (hrun : exec step s run = some s')
    (hgranted : Steps step (GrantsSend i) s run) :
    ∃ t', s'.sends[i]? = some t' ∧
      ((∃ id, t'.status = .ret id) ∧ run.countP (resumesSend i) ≤ 6 ∨
        (∃ k', t'.status = .await k') ∧ run.countP (resumesSend i) < 6 ∧
          ∃ w, ∀ env, env.Works →
            GrantsSend i s' (.sending i w env) ∧ (step s' (.sending i w env)).isSome) := by
  have hstep : ∀ s l s', Sound s ∧ Consulting s ∧ Going i s → GrantsSend i s l →
      step s l = some s' → (Sound s' ∧ Consulting s' ∧ Going i s') ∧
        sendLeft i s' + (if resumesSend i l then 1 else 0) + 0 ≤ sendLeft i s + 0 := by
    rintro s l s' ⟨hs, hc, hi⟩ hg hstep
    obtain ⟨hi', hleft⟩ := step_granted hs hc hi hg hstep
    exact ⟨⟨step_sound hs hstep, step_consulting hs hc hstep, hi'⟩, by omega⟩
  -- The potential is what the send has left.
  have hgoing : Going i s := ⟨t, ht, by simp [hk]⟩
  obtain ⟨⟨hs, hc, t', ht', hraise⟩, hcount⟩ :=
    exec_amortized hstep ⟨exec_sound h, exec_consulting h, hgoing⟩ hgranted hrun
  refine ⟨t', ht', ?_⟩
  have hle := k.left_le
  rw [sendLeft_await ht hk] at hcount
  cases hstatus : t'.status with
  | await k' =>
    have hpos := k'.left_pos
    rw [sendLeft_await ht' hstatus] at hcount
    exact Or.inr ⟨⟨k', rfl⟩, by omega, exists_grant hs hc ht' hstatus⟩
  | ret id => exact Or.inl ⟨⟨id, rfl⟩, by omega⟩
  | raise err => exact (hraise err hstatus).elim

/-- The retries of a send are used up, and it asks where its topic is. -/
def lookingUp : List ProducerLabel :=
  firstSend ++ [.sending 0 (.fail .unavailable) {}, .sending 0 .timer {},
    .sending 0 (.fail .unavailable) {}]

/-- It is granted everything, while another send fails. -/
def grantedWhileOtherFails : List ProducerLabel :=
  [.send [2] none none {}, .sending 0 (.answer (.address "b")) {}, .sending 1 (.fail .internal) {},
    .sending 0 (.answer (.address "b")) {}, .sending 0 (.answer (.registered 2)) {},
    .sending 0 (.answer (.message 3)) {}]

theorem looking_up_returns : ∃ s s' t', exec step (init (.init "a" {}) (.oneRetry none)) lookingUp = some s ∧
    exec step s grantedWhileOtherFails = some s' ∧ s'.sends[0]? = some t' ∧
    ((∃ id, t'.status = .ret id) ∧ grantedWhileOtherFails.countP (resumesSend 0) ≤ 6 ∨
      (∃ k', t'.status = .await k') ∧ grantedWhileOtherFails.countP (resumesSend 0) < 6 ∧
        ∃ w, ∀ env, env.Works →
          GrantsSend 0 s' (.sending 0 w env) ∧ (step s' (.sending 0 w env)).isSome) := by
  have hanswer : ∀ (s : ProducerState) (response : Response),
      (∀ r, response = .topicLookup r → ∃ addr, Client.handleLookup r = .ok addr) →
      (∀ info, response ≠ .schema info) → GrantsSend 0 s (.sending 0 (.answer response) {}) := by
    rintro s response hlookup hschema w env heq
    cases heq
    exact ⟨works_default, fun t k _ _ => Sending.granted_answer hlookup hschema k⟩
  have hother : ∀ (s : ProducerState) l, (∀ w env, l ≠ .sending 0 w env) → GrantsSend 0 s l :=
    fun s l hl w env heq => (hl w env heq).elim
  have haddress : ∀ r, Response.address "b" = .topicLookup r →
      ∃ addr, Client.handleLookup r = .ok addr := by
    rintro r heq
    cases heq
    exact ⟨_, rfl⟩
  obtain ⟨s, t, k, s', hs, ht, hk, hs'⟩ : ∃ (s : ProducerState) (t : SendTask) (k : Sending)
      (s' : ProducerState), exec step (init (.init "a" {}) (.oneRetry none)) lookingUp = some s ∧
      s.sends[0]? = some t ∧ t.status = .await k ∧ exec step s grantedWhileOtherFails = some s' :=
    ⟨_, _, _, _, rfl, rfl, rfl, rfl⟩
  have hsteps : Steps step (GrantsSend 0) s grantedWhileOtherFails :=
    ⟨hother _ _ (by simp), fun _ _ => ⟨hanswer _ _ haddress (by simp [Response.address]),
      fun _ _ => ⟨hother _ _ (by simp), fun _ _ =>
        ⟨hanswer _ _ haddress (by simp [Response.address]), fun _ _ =>
          ⟨hanswer _ _ (by simp) (by simp), fun _ _ =>
            ⟨hanswer _ _ (by simp) (by simp), fun _ _ => trivial⟩⟩⟩⟩⟩⟩
  obtain ⟨t', ht', hend⟩ := granted_send_returns hs ht hk hs' hsteps
  exact ⟨s, s', t', hs, hs', ht', hend⟩

end Producer

end Danube
