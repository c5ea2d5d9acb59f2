import Danube.BrokerClose
import Danube.RoundRobin

/-!
# The attempts of a send

Each attempt that gets its token puts one `SendMessage` in flight. Which calls have begun one, and
which label begins the next, is read off the state and the label.
-/

namespace Danube

open Async

/-- What the application hands to a call and finds in the topic's log. -/
structure Content where
  payload : List UInt8
  attributes : List (String × String)
  routingKey : Option String
  deriving DecidableEq, Repr

def StreamMessage.content (m : StreamMessage) : Content := ⟨m.payload, m.attributes, m.routingKey⟩

namespace SendCall

def content (call : SendCall) : Content := ⟨call.data, call.attributes.getD [], call.routingKey⟩

/-- The RPC carries what the call was given, to that topic. -/
def Carries (call : SendCall) (topic : String) (rpc : Call) : Prop :=
  ∃ m, rpc.request = .sendMessage m ∧ m.content = call.content ∧ m.msgId.topicName = topic

variable {env : Env} {call : SendCall} {s : Scope ProducerFields}

/-- The outcome neither has a message in flight nor returns a response. -/
def Unsent (o : Outcome Sending Nat Error) : Prop :=
  (∀ n rpc, o ≠ .await (.message n rpc)) ∧ ∀ id, o ≠ .ret id

theorem recreateProducer_next : Unsent (recreateProducer env s).next := by
  unfold recreateProducer Ran.andThen
  split
  · simp [Unsent]
  · rename_i a _
    exact a.elim
  · simp [Unsent, raise]

theorem caught_next (m : Nat) (err : Error) : Unsent (caught env call m err s).next := by
  unfold caught
  split
  · exact recreateProducer_next
  · split
    · split
      · unfold lookupAndRecreate
        split <;> simp [Unsent, raise]
      · simp [Unsent]
    · simp [Unsent, raise]

theorem attempt_carries {m n : Nat} {rpc : Call}
    (h : (attempt env call m s).next = .await (.message n rpc)) :
    call.Carries s.self.topic rpc := by
  unfold attempt at h
  split at h
  · rename_i s' rpc' heq
    cases h
    unfold TopicProducer.send at heq
    split at heq
    · simp at heq
    · dsimp only at heq
      split at heq
      · simp at heq
      · simp only [Prod.mk.injEq, Except.ok.injEq] at heq
        obtain ⟨-, rfl⟩ := heq
        exact ⟨_, rfl, rfl, rfl⟩
  · exact ((caught_next _ _).1 n rpc h).elim

theorem resume_carries {k : Sending} {w : Wake} {r : Piece ProducerFields Sending Nat}
    (h : call.resume env s k w = some r) {n : Nat} {rpc : Call}
    (hnext : r.next = .await (.message n rpc)) : call.Carries s.self.topic rpc := by
  cases resumption h with
  | answered | notMoved | lookupFailed => cases hnext
  | failed => exact ((caught_next _ _).1 n rpc hnext).elim
  | slept => exact attempt_carries hnext
  | moved => exact (recreateProducer_next.1 n rpc hnext).elim
  | creating k w r' hr' =>
    have htopic := (resume_journaled producerRole env hr').topic
    unfold recreated Ran.andThen at hnext
    split at hnext
    · cases hnext
    · rw [← htopic]
      exact attempt_carries hnext
    · cases hnext

theorem attempt_next_ne_ret (m : Nat) (id : Nat) : (attempt env call m s).next ≠ .ret id := by
  unfold attempt
  split
  · simp
  · exact (caught_next _ _).2 id

theorem resume_ret {k : Sending} {w : Wake} {r : Piece ProducerFields Sending Nat}
    (h : call.resume env s k w = some r) {id : Nat} (hnext : r.next = .ret id) :
    (∃ n rpc, k = .message n rpc) ∧ w = .reply (.ok (.message id)) := by
  cases resumption h with
  | answered n rpc =>
    cases hnext
    exact ⟨⟨n, rpc, rfl⟩, rfl⟩
  | failed => exact ((caught_next _ _).2 id hnext).elim
  | slept => exact (attempt_next_ne_ret _ id hnext).elim
  | moved => exact (recreateProducer_next.2 id hnext).elim
  | notMoved | lookupFailed => cases hnext
  | creating k w r' hr' =>
    unfold recreated Ran.andThen at hnext
    split at hnext
    · cases hnext
    · exact (attempt_next_ne_ret _ id hnext).elim
    · cases hnext

end SendCall

/-! ## Where an attempt begins -/

namespace Endpoint

variable {ρ : Type} (role : Role ρ) (env : Env)

/-- The answer makes the registration return. -/
def Returns (s : Scope ρ) : Registering → Wake → Prop
  | .request .., .reply (.ok (.registered _)) => role.schemaRef s.self.own = none ∧
    ∃ conn, (s.client.getConnection env.health s.self.brokerAddr s.self.connectUrl).2 = .ok conn
  | k, w => Resolved role s k w

theorem failed_next_ne_ret (n : Nat) (err : Error) (s : Scope ρ) (id : Nat) :
    (failed env n err s : Piece ρ Registering Nat).next ≠ .ret id := by
  rcases (failed_quiet env n err s (α := Nat)).next with ⟨k, hk, -⟩ | ⟨e, he⟩
  · simp [hk]
  · simp [he]

theorem resolveSchema_returns (n : Nat) (s : Scope ρ) :
    (∃ id, (resolveSchema role env n s).next = .ret id) ↔ role.schemaRef s.self.own = none := by
  unfold resolveSchema
  split
  · rename_i hnone
    exact iff_of_true ⟨_, rfl⟩ hnone
  · rename_i ref href
    refine iff_of_false ?_ (by simp [href])
    rintro ⟨id, hid⟩
    split at hid
    · exact unresolved_next env n _ _ id hid
    · cases hid

theorem checkHealth_returns (n : Nat) (s : Scope ρ) :
    (∃ id, (checkHealth role env n s).next = .ret id) ↔ role.schemaRef s.self.own = none ∧
      ∃ conn, (s.client.getConnection env.health s.self.brokerAddr s.self.connectUrl).2 =
        .ok conn := by
  unfold checkHealth
  rcases hget : s.client.getConnection env.health s.self.brokerAddr s.self.connectUrl with
    ⟨c, err | conn⟩
  · refine iff_of_false ?_ (by simp)
    rintro ⟨id, hid⟩
    exact failed_next_ne_ret env n err _ id hid
  · dsimp only
    rw [Ran.after_next, resolveSchema_returns]
    simp [startHealthCheck]

/-- A suspended registration returns in this piece exactly when its answer lets it. -/
theorem resume_returns_iff {s : Scope ρ} {k : Registering} {w : Wake} {r : Piece ρ Registering Nat}
    (h : resume role env s k w = some r) :
    (∃ id, r.next = .ret id) ↔ Returns role env s k w := by
  by_cases hreg : ∃ n addr call id, k = .request n addr call ∧ w = .reply (.ok (.registered id))
  · obtain ⟨n, addr, call, id, rfl, rfl⟩ := hreg
    cases h
    exact checkHealth_returns role env n (withId id s)
  · have hreturns : Returns role env s k w ↔ Resolved role s k w := by
      unfold Returns
      split
      · exact (hreg ⟨_, _, _, _, rfl, rfl⟩).elim
      · exact Iff.rfl
    rw [hreturns]
    cases hk : k.resolving with
    | true => exact (resume_returns role env h hk).1
    | false =>
      refine iff_of_false ?_ fun hres => by simp [hres.resolving] at hk
      rintro ⟨id, hid⟩
      rcases resume_cases role env h with ⟨n, addr, call, id, rfl, rfl, -⟩ | ⟨hres, -⟩ | ⟨-, hr⟩
      · exact hreg ⟨_, _, _, _, rfl, rfl⟩
      · simp [hk] at hres
      · rcases hr.next with ⟨k', hk', -⟩ | ⟨err, herr⟩
        · simp [hk'] at hid
        · simp [herr] at hid

end Endpoint

/-- The `SendMessage` of the call is in flight. -/
def SendTask.InFlight (t : SendTask) : Prop := ∃ n rpc, t.status = .await (.message n rpc)

/-- The call has returned or raised. -/
def SendTask.Ended (t : SendTask) : Prop := ∀ k, t.status ≠ .await k

namespace Producer

/-- The call has begun an attempt. -/
def Issued (s : ProducerState) (i : Nat) : Prop :=
  ∃ e ∈ journalOf (.send i) s.pool.trace, e.message? ≠ none

/-- A suspended send goes on with an attempt: its sleep is over, or its `create()` returns. -/
def GoesOn (env : Env) (sc : Scope ProducerFields) : Sending → Wake → Prop
  | .backoff _, .timer => True
  | .create k, w => Endpoint.Returns producerRole env sc k w
  | _, _ => False

/-- The label makes the call `i` begin an attempt that gets its token. -/
def Begins (s : ProducerState) (i : Nat) : ProducerLabel → Prop
  | .send _ _ routingKey env => i = s.sends.length ∧
    ∃ ref sc, s.producers[(selectPartition s routingKey).1]? = some ref ∧
      s.pool.scope ref = some sc ∧ SendCall.Sendable env sc
  | .sending task w env => i = task ∧ ∃ t ref sc k, s.sends[task]? = some t ∧
    s.producers[t.partition]? = some ref ∧ s.pool.scope ref = some sc ∧ t.status = .await k ∧
    GoesOn env sc k w ∧ SendCall.Sendable env sc
  | _ => False

/-- What a step does to the attempts of the call `i`. -/
inductive Attempted (s s' : ProducerState) (i : Nat) (l : ProducerLabel) : Prop
  | idle (hl : ∀ w env, l ≠ .sending i w env) (hbegins : ¬ Begins s i l)
    (htask : s'.sends[i]? = s.sends[i]?) (hissued : Issued s' i ↔ Issued s i)
  | begins (hbegins : Begins s i l) (t : SendTask) (htask : s'.sends[i]? = some t)
    (hflight : t.InFlight) (hissued : Issued s' i)
    (hbefore : ∀ u, s.sends[i]? = some u → ¬ u.InFlight ∧ ¬ u.Ended)
  | goesOn (hl : s.sends[i]? = none ∨ ∃ w env, l = .sending i w env) (hbegins : ¬ Begins s i l)
    (t : SendTask) (htask : s'.sends[i]? = some t)
    (hflight : ¬ t.InFlight) (hissued : Issued s' i ↔ Issued s i)
    (hret : ∀ id, t.status = .ret id → ∃ env, l = .sending i (.reply (.ok (.message id))) env)

theorem issued_append {s s' : ProducerState} {i : Nat} {log : List Event}
    (h : journalOf (.send i) s'.pool.trace = journalOf (.send i) s.pool.trace ++ log) :
    Issued s' i ↔ Issued s i ∨ ∃ e ∈ log, e.message? ≠ none := by
  simp only [Issued, h, List.mem_append, or_and_right, exists_or]

theorem issued_same {s s' : ProducerState} {i : Nat}
    (h : journalOf (.send i) s'.pool.trace = journalOf (.send i) s.pool.trace) :
    Issued s' i ↔ Issued s i := by
  rw [Issued, h, Issued]

theorem attempts_begins {env : Env} {sc : Scope ProducerFields} {n : Nat} {log : List Event}
    {o : Outcome Sending Nat Error} (h : SendCall.Attempts env sc n log o)
    (htoken : SendCall.Sendable env sc) :
    (∃ m rpc, o = .await (.message m rpc)) ∧ ∃ e ∈ log, e.message? ≠ none := by
  cases h with
  | issued rpc hrpc _ =>
    obtain ⟨m, hm⟩ := hrpc
    exact ⟨⟨n, rpc, rfl⟩, .rpc rpc, by simp, by simp [Event.message?, hm]⟩
  | refused err hno => exact (hno htoken).elim

theorem attempts_refused {env : Env} {sc : Scope ProducerFields} {n : Nat} {log : List Event}
    {o : Outcome Sending Nat Error} (h : SendCall.Attempts env sc n log o)
    (htoken : ¬ SendCall.Sendable env sc) : (∃ err, o = .raise err) ∧ log = [] := by
  cases h with
  | issued rpc hrpc hyes => exact (htoken hyes).elim
  | refused err _ => exact ⟨⟨err, rfl⟩, rfl⟩

theorem creates_message? {c : Client} {n : Nat} {log : List Event} {o : Outcome Sending Nat Error}
    (h : SendCall.Creates c n log o) :
    (∀ m rpc, o ≠ .await (.message m rpc)) ∧ ∀ e ∈ log, e.message? = none := by
  obtain ⟨o', hlog⟩ := h.callLog
  exact ⟨by cases h <;> simp, hlog.message?⟩

theorem resumes_begins {call : SendCall} {env : Env} {sc : Scope ProducerFields} {c : Client}
    {k : Sending} {w : Wake} {log : List Event} {o : Outcome Sending Nat Error}
    (h : SendCall.Resumes call env sc c k w log o) (hgoes : GoesOn env sc k w)
    (htoken : SendCall.Sendable env sc) :
    (∃ m rpc, o = .await (.message m rpc)) ∧ ∃ e ∈ log, e.message? ≠ none := by
  cases h with
  | done | failed | backoff | exhausted | notMoved | moved => exact hgoes.elim
  | retried n h => exact attempts_begins h htoken
  | creating k w hr hret h hrank hasking =>
    obtain ⟨id, hid⟩ := (Endpoint.resume_returns_iff producerRole env hr).mpr hgoes
    exact (hret id hid).elim
  | created k w hr id id' hret inner hinner hlog h hasks =>
    have htoken' := (sendable_of_extends env (resume_journaled producerRole env hr).client).mpr htoken
    obtain ⟨hflight, e, he, hm⟩ := attempts_begins h htoken'
    exact ⟨hflight, e, List.mem_append_right _ he, hm⟩

theorem resumes_silent {call : SendCall} {env : Env} {sc : Scope ProducerFields} {c : Client}
    {k : Sending} {w : Wake} {log : List Event} {o : Outcome Sending Nat Error}
    (h : SendCall.Resumes call env sc c k w log o)
    (hgoes : ¬ (GoesOn env sc k w ∧ SendCall.Sendable env sc)) :
    (∀ m rpc, o ≠ .await (.message m rpc)) ∧ ∀ e ∈ log, e.message? = none := by
  cases h with
  | done | failed | notMoved => simp
  | backoff => simp [Event.message?]
  | exhausted n rpc w err lookup hlookup =>
    refine ⟨by simp, ?_⟩
    simpa using Event.Inner.message? hlookup
  | retried n h =>
    obtain ⟨⟨err, rfl⟩, rfl⟩ := attempts_refused h fun htoken => hgoes ⟨trivial, htoken⟩
    simp
  | moved err rpc response addr haddr h hasking =>
    obtain ⟨hnext, hlog⟩ := creates_message? h
    exact ⟨hnext, by simpa [Event.message?] using hlog⟩
  | creating k w hr hret h hrank hasking => exact creates_message? h
  | @created k w r hr id id' hret inner hinner hlog log _ h hasks =>
    have hreturns : GoesOn env sc (.create k) w :=
      (Endpoint.resume_returns_iff producerRole env hr).mp ⟨id, hret⟩
    have hext := (resume_journaled producerRole env hr).client
    obtain ⟨⟨err, rfl⟩, rfl⟩ := attempts_refused h fun htoken =>
      hgoes ⟨hreturns, (sendable_of_extends env hext).mp htoken⟩
    have hcall : CallLog (.ret id : Outcome Registering Nat Error) r.log :=
      ⟨inner, _, hlog, hinner, id', rfl⟩
    exact ⟨by simp, by simpa using hcall.message?⟩

section

variable {s s' : ProducerState} {l : ProducerLabel} {i : Nat}

theorem issued_other {actor : Actor} {ref : Nat} {log : List Event} (hne : .send i ≠ actor)
    (htrace : s'.pool.trace = s.pool.trace ++ log.map fun e => ⟨actor, ref, e⟩) :
    Issued s' i ↔ Issued s i := by
  refine issued_same ?_
  rw [htrace, journalOf_append, journalOf_entries_ne hne, List.append_nil]

theorem issued_self {ref : Nat} {log : List Event}
    (htrace : s'.pool.trace = s.pool.trace ++ log.map fun e => ⟨.send i, ref, e⟩) :
    Issued s' i ↔ Issued s i ∨ ∃ e ∈ log, e.message? ≠ none := by
  refine issued_append ?_
  rw [htrace, journalOf_append, journalOf_entries_self]

theorem outOfRange_attempted {data : List UInt8} {attributes : Option (List (String × String))}
    {routingKey : Option String} {env : Env} (hr : s.producers[(selectPartition s routingKey).1]? = none)
    (htrace : s'.pool.trace = s.pool.trace) {t : SendTask} (hsends : s'.sends = s.sends ++ [t])
    {err : Error} (ht : t.status = .raise err) :
    Attempted s s' i (.send data attributes routingKey env) := by
  have hno : ¬ Begins s i (.send data attributes routingKey env) := by
    rintro ⟨-, ref, sc, href, -⟩
    rw [hr] at href
    cases href
  have hissued : Issued s' i ↔ Issued s i := issued_same (by rw [htrace])
  by_cases hi : i = s.sends.length
  · refine .goesOn (Or.inl (by simp [hi])) hno t (by simp [hsends, hi]) ?_ hissued (by simp [ht])
    rintro ⟨n, rpc, hflight⟩
    simp [ht] at hflight
  · exact .idle (by simp) hno (by rw [hsends, getElem?_append_singleton_ne hi]) hissued

theorem attempt_attempted {data : List UInt8} {attributes : Option (List (String × String))}
    {routingKey : Option String} {env : Env} {ref : Nat}
    (hr : s.producers[(selectPartition s routingKey).1]? = some ref) {sc : Scope ProducerFields}
    (hsc : s.pool.scope ref = some sc) {log : List Event} {t : SendTask}
    (hatt : SendCall.Attempts env sc 0 log t.status)
    (htrace : s'.pool.trace = s.pool.trace ++ log.map fun e => ⟨.send s.sends.length, ref, e⟩)
    (hsends : s'.sends = s.sends ++ [t]) :
    Attempted s s' i (.send data attributes routingKey env) := by
  by_cases hi : i = s.sends.length
  · subst hi
    by_cases htoken : SendCall.Sendable env sc
    · obtain ⟨hflight, hmsg⟩ := attempts_begins hatt htoken
      exact .begins ⟨rfl, ref, sc, hr, hsc, htoken⟩ t (by simp [hsends]) hflight
        ((issued_self htrace).mpr (Or.inr hmsg)) (by simp)
    -- It gets no token, and raises.
    · obtain ⟨⟨err, herr⟩, rfl⟩ := attempts_refused hatt htoken
      refine .goesOn (Or.inl (by simp)) ?_ t (by simp [hsends]) ?_ (by simpa using issued_self htrace)
        (by simp [herr])
      · rintro ⟨-, ref', sc', hr', hsc', htoken'⟩
        rw [hr, Option.some.injEq] at hr'
        subst hr'
        rw [hsc, Option.some.injEq] at hsc'
        exact htoken (hsc' ▸ htoken')
      · rintro ⟨n, rpc, hflight⟩
        simp [herr] at hflight
  · exact .idle (by simp) (fun hbegins => hi hbegins.1)
      (by rw [hsends, getElem?_append_singleton_ne hi]) (issued_other (by simpa using hi) htrace)

theorem sending_attempted {w : Wake} {env : Env} (hstep : step s (.sending i w env) = some s')
    {t : SendTask} (ht : s.sends[i]? = some t) {ref : Nat} (hr : s.producers[t.partition]? = some ref)
    {sc : Scope ProducerFields} (hsc : s.pool.scope ref = some sc) {k : Sending}
    (hk : t.status = .await k) {c : Client} {log : List Event} {o : Outcome Sending Nat Error}
    (hres : SendCall.Resumes t.call env sc c k w log o)
    (htrace : s'.pool.trace = s.pool.trace ++ log.map fun e => ⟨.send i, ref, e⟩)
    (hsends : s'.sends = s.sends.set i { t with status := o }) :
    Attempted s s' i (.sending i w env) := by
  have htask : s'.sends[i]? = some { t with status := o } := by
    rw [hsends, List.getElem?_set_self (List.getElem?_eq_some_iff.mp ht).1]
  by_cases hgoes : GoesOn env sc k w ∧ SendCall.Sendable env sc
  · obtain ⟨hflight, hmsg⟩ := resumes_begins hres hgoes.1 hgoes.2
    refine .begins ⟨rfl, t, ref, sc, k, ht, hr, hsc, hk, hgoes⟩ _ htask hflight
      ((issued_self htrace).mpr (Or.inr hmsg)) fun u hu => ?_
    rw [ht, Option.some.injEq] at hu
    subst hu
    refine ⟨?_, fun hended => hended k hk⟩
    -- A call whose message is in flight does not go on with an attempt.
    rintro ⟨n, rpc, hmessage⟩
    rw [hk, Outcome.await.injEq] at hmessage
    subst hmessage
    exact hgoes.1.elim
  · obtain ⟨hnext, hlog⟩ := resumes_silent hres hgoes
    refine .goesOn (Or.inr ⟨w, env, rfl⟩) ?_ _ htask (fun ⟨n, rpc, hflight⟩ => hnext n rpc hflight) ?_ ?_
    · rintro ⟨-, t', ref', sc', k', ht', hr', hsc', hk', hgoes'⟩
      rw [ht, Option.some.injEq] at ht'
      subst ht'
      rw [hr, Option.some.injEq] at hr'
      subst hr'
      rw [hsc, Option.some.injEq] at hsc'
      subst hsc'
      rw [hk, Outcome.await.injEq] at hk'
      subst hk'
      exact hgoes hgoes'
    · rw [issued_self htrace]
      refine or_iff_left ?_
      rintro ⟨e, he, hm⟩
      exact hm (hlog e he)
    -- What it returns is what the broker answered.
    · intro id hid
      obtain ⟨t', ref', sc', k', ran, ht', -, -, -, hran, rfl⟩ := sending_eq_some.mp hstep
      have hlt := (List.getElem?_eq_some_iff.mp ht').1
      simp only [commitSend, List.getElem?_set_self hlt, Option.some.injEq] at htask
      obtain ⟨-, rfl⟩ := SendCall.resume_ret hran ((congrArg SendTask.status htask).trans hid)
      exact ⟨env, rfl⟩

end

theorem step_attempted {s s' : ProducerState} {l : ProducerLabel} (h : Sound s)
    (hstep : step s l = some s') (i : Nat) : Attempted s s' i l := by
  cases step_writes h hstep with
  | silent l hl htrace hsends hchildren =>
    refine .idle ?_ ?_ (by rw [hsends]) (issued_same (by rw [htrace]))
    · rintro w env rfl
      exact hl
    · cases l <;> first | exact id | exact hl.elim
  | child l hl p hp ref log hlog htrace hchildren hothers hsends =>
    refine .idle ?_ ?_ (by rw [hsends]) (issued_other (by simp) htrace)
    · rintro w env rfl
      exact hl
    · cases l <;> first | exact id | exact hl.elim
  | outOfRange data attributes routingKey env hr htrace hchildren t hsends err ht =>
    exact outOfRange_attempted hr htrace hsends ht
  | attempt data attributes routingKey env ref hr sc hsc log t ht hatt htrace hchildren hsends =>
    exact attempt_attempted hr hsc hatt htrace hsends
  | sending task w env t ht ref hr sc hsc k hk c log o hres htrace hchildren hsends =>
    by_cases hi : i = task
    · subst hi
      exact sending_attempted hstep ht hr hsc hk hres htrace hsends
    -- Another call is woken.
    · refine .idle (by simpa using fun h => (hi h.symm).elim) (fun hbegins => hi hbegins.1) ?_
        (issued_other (by simpa using hi) htrace)
      rw [hsends, List.getElem?_set_ne (Ne.symm hi)]
  | health task w env l hl stopEvent position log stop hchecks htrace hchildren hsends =>
    exact .idle (by simp) id (by rw [hsends]) (issued_other (by simp) htrace)
  | close log hlog htrace hchildren hsends =>
    refine .idle (by simp) id (by rw [hsends]) (issued_same ?_)
    rw [htrace, journalOf_append, journalOf_of_app (fun x hx => (hlog x hx).2) (by simp),
      List.append_nil]

/-! ## The calls -/

theorem step_status {s s' : ProducerState} {l : ProducerLabel} (h : Sound s)
    (hstep : step s l = some s') {i : Nat} {t : SendTask} (ht : s.sends[i]? = some t) :
    ∃ o, s'.sends[i]? = some { t with status := o } := by
  have hlt := (List.getElem?_eq_some_iff.mp ht).1
  cases step_writes h hstep with
  | silent l hl htrace hsends | child l hl p hp ref log hlog htrace hchildren hothers hsends
  | health task w env l hl stopEvent position log stop hchecks htrace hchildren hsends
  | close log hlog htrace hchildren hsends => exact ⟨t.status, by rw [hsends, ht]⟩
  | outOfRange data attributes routingKey env hr htrace hchildren t' hsends
  | attempt data attributes routingKey env ref hr sc hsc log t' ht' hatt htrace hchildren hsends =>
    exact ⟨t.status, by rw [hsends, List.getElem?_append_left hlt, ht]⟩
  | sending task w env u hu ref hr sc hsc k hk c log o hres htrace hchildren hsends =>
    by_cases hi : i = task
    · subst hi
      rw [ht, Option.some.injEq] at hu
      subst hu
      exact ⟨o, by rw [hsends, List.getElem?_set_self hlt]⟩
    · exact ⟨t.status, by rw [hsends, List.getElem?_set_ne (Ne.symm hi), ht]⟩

theorem step_ended {s s' : ProducerState} {l : ProducerLabel} (h : Sound s)
    (hstep : step s l = some s') {i : Nat} {t : SendTask} (ht : s.sends[i]? = some t)
    (hended : t.Ended) : s'.sends[i]? = some t := by
  cases step_moves h hstep i with
  | idle l hl htask hlog => rw [htask, ht]
  | outOfRange l hl hnew | starts l hl hnew =>
    rw [ht] at hnew
    cases hnew
  | resumes w env u hu r hr sc hsc k hk =>
    rw [ht, Option.some.injEq] at hu
    subst hu
    exact (hended k hk).elim

theorem step_new {s s' : ProducerState} {l : ProducerLabel} (hstep : step s l = some s')
    {i : Nat} {t : SendTask} (hnew : s.sends[i]? = none) (ht : s'.sends[i]? = some t) :
    i = s.sends.length ∧ ∃ data attributes env, l = .send data attributes t.call.routingKey env := by
  have hle := List.getElem?_eq_none_iff.mp hnew
  have hlt := (List.getElem?_eq_some_iff.mp ht).1
  have hroute : (s'.sends.map SendTask.route)[i]? = some t.route := by simp [ht]
  cases step_routes hstep with
  | other l hsends hrouter =>
    have hlen := congrArg List.length hsends
    simp only [List.length_map] at hlen
    omega
  | send data attributes routingKey env hsends hrouter =>
    have hlen := congrArg List.length hsends
    simp only [List.length_map, List.length_append, List.length_singleton] at hlen
    obtain rfl : i = s.sends.length := by omega
    rw [hsends, List.getElem?_append_right (by simp)] at hroute
    simp only [List.length_map, Nat.sub_self, List.getElem?_cons_zero, Option.some.injEq] at hroute
    exact ⟨rfl, data, attributes, env, by rw [show routingKey = t.call.routingKey from
      congrArg Prod.fst hroute]⟩

theorem step_length {s s' : ProducerState} {l : ProducerLabel} (hstep : step s l = some s') :
    s'.sends.length = s.sends.length ∨ s'.sends.length = s.sends.length + 1 ∧
      ∃ data attributes routingKey env, l = .send data attributes routingKey env := by
  cases step_routes hstep with
  | other l hsends => exact Or.inl (by simpa using congrArg List.length hsends)
  | send data attributes routingKey env hsends =>
    exact Or.inr ⟨by simpa using congrArg List.length hsends, _, _, _, _, rfl⟩

/-- A message in flight carries what its call was given, to the topic of its partition. -/
def Carrying (s : ProducerState) : Prop :=
  ∀ t ∈ s.sends, ∀ n rpc, t.status = .await (.message n rpc) →
    t.call.Carries (topicOf s.config t.partition) rpc

theorem scope_topic {s : ProducerState} (h : Placed s) {i ref : Nat}
    (hr : s.producers[i]? = some ref) {sc : Scope ProducerFields}
    (hsc : s.pool.scope ref = some sc) : sc.self.topic = topicOf s.config i := by
  have hne : s.producers ≠ [] := by
    intro hnil
    simp [hnil] at hr
  obtain ⟨e, he, htopic, -⟩ := (h.producers hne).entries i ref hr
  rw [(Pool.scope_eq_some.mp hsc).1, Option.some.injEq] at he
  rw [he, htopic]

theorem step_carrying {s s' : ProducerState} {l : ProducerLabel} (hp : Placed s)
    (h : Carrying s) (hstep : step s l = some s') : Carrying s' := by
  have hconfig := step_config hstep
  unfold Carrying
  rw [hconfig]
  have hsame : s'.sends = s.sends → ∀ t ∈ s'.sends, ∀ n rpc,
      t.status = .await (.message n rpc) → t.call.Carries (topicOf s.config t.partition) rpc := by
    intro hsends
    rw [hsends]
    exact h
  cases l with
  | create env =>
    obtain ⟨-, -, ⟨-, p, -, rfl⟩ | ⟨hpos, rfl⟩⟩ := create_eq_some hstep
    · exact hsame (by rw [settle_sends])
    · exact hsame rfl
  | child ref w env =>
    obtain ⟨p, -, rfl⟩ := Option.map_eq_some_iff.mp hstep
    exact hsame (by rw [settle_sends])
  | gathered =>
    obtain ⟨g, hg, ⟨-, rfl⟩ | ⟨-, -, rfl⟩⟩ := gathered_eq_some hstep <;> exact hsame rfl
  | send data attributes routingKey env =>
    obtain ⟨-, p, r, t, -, rfl, ⟨-, rfl⟩ | ⟨ref, sc, href, hsc, rfl⟩⟩ := send_eq_some hstep
    · intro u hu n rpc hrpc
      rcases List.mem_append.mp hu with hu | hu
      · exact h u hu n rpc hrpc
      · rw [List.mem_singleton.mp hu] at hrpc
        cases hrpc
    · intro u hu n rpc hrpc
      rcases List.mem_or_eq_of_mem_set hu with hu | rfl
      · rcases List.mem_append.mp hu with hu | hu
        · exact h u hu n rpc hrpc
        · rw [List.mem_singleton.mp hu] at hrpc
          cases hrpc
      · -- The message of the first attempt.
        rw [← scope_topic hp href hsc]
        exact SendCall.attempt_carries hrpc
  | sending task w env =>
    obtain ⟨t, ref, sc, k, ran, ht, href, hsc, hk, hran, rfl⟩ := sending_eq_some.mp hstep
    intro u hu n rpc hrpc
    rcases List.mem_or_eq_of_mem_set hu with hu | rfl
    · exact h u hu n rpc hrpc
    · rw [← scope_topic hp href hsc]
      exact SendCall.resume_carries hran hrpc
  | health task w env =>
    obtain ⟨p, -, rfl⟩ := Option.map_eq_some_iff.mp hstep
    exact hsame rfl
  | close =>
    obtain rfl := Option.some.inj hstep
    exact hsame rfl

/-- What holds of the calls in every run. -/
structure Steady (s : ProducerState) : Prop where
  sound : Sound s
  placed : Placed s
  carrying : Carrying s
  onPartition : OnPartition s
  issued : ∀ i t, s.sends[i]? = some t → t.InFlight → Issued s i

theorem steady_init (client : Client) (config : ProducerConfig) : Steady (init client config) where
  sound := sound_init client config
  placed := placed_init client config
  carrying := by simp [Carrying, init]
  onPartition := by simp [OnPartition, init]
  issued := by simp [init]

theorem step_steady {s s' : ProducerState} {l : ProducerLabel} (h : Steady s)
    (hstep : step s l = some s') : Steady s' where
  sound := step_sound h.sound hstep
  placed := step_placed h.sound h.placed hstep
  carrying := step_carrying h.placed h.carrying hstep
  onPartition := step_onPartition h.sound h.onPartition hstep
  issued i t ht hflight := by
    cases step_attempted h.sound hstep i with
    | idle hl hbegins htask hissued => exact hissued.mpr (h.issued i t (by rw [← htask, ht]) hflight)
    | begins hbegins u hu hflight' hissued hbefore => exact hissued
    | goesOn hl hbegins u hu hno hissued hret =>
      rw [ht, Option.some.injEq] at hu
      exact (hno (hu ▸ hflight)).elim

theorem Steady.exists_of_issued {s : ProducerState} (h : Steady s) {i : Nat} (hissued : Issued s i) :
    ∃ t, s.sends[i]? = some t := by
  obtain ⟨e, he, -⟩ := hissued
  obtain ⟨x, hx, -⟩ := List.mem_map.mp he
  obtain ⟨hmem, hactor⟩ := List.mem_filter.mp hx
  obtain ⟨t, ht, -⟩ := h.onPartition x hmem i (of_decide_eq_true hactor)
  exact ⟨t, ht⟩

end Producer

end Danube
