import Danube.SendLoop
import Danube.SchemaPieces

/-! # The trace of a send -/

namespace Danube

open Async

namespace SendCall

/-- Where the loop is that waits there, or ended so. -/
def roundPhase : Outcome Sending Nat Error → Rounds.Phase Error Nat
  | .await (.message n _) => .attempt n
  | .await (.backoff n) => .attempt n
  | .await (.lookup err _) => .lookup err
  | .await (.create _) => .renew
  | .ret id => .over (.ok id)
  | .raise err => .over (.error err)

/-- The turns that the piece notes take the loop from `a` to where it stops. -/
abbrev Rounded (p : Retry.Policy Error) (a : Rounds.Phase Error Nat) (r : SendNoting) : Prop :=
  Follows (Rounds.step p) roundPhase a r

section Pieces

variable {env : Env} {call : SendCall} {s : Scope ProducerFields}

theorem noteRecreate_rounded (p : Retry.Policy Error) : Rounded p .renew (noteRecreate env s) :=
  follows_andThen (fun _ _ => rfl) (fun a _ => a.elim) fun _ _ => exec_cons.mpr ⟨_, rfl, rfl⟩

theorem noteLookupAndRecreate_rounded (p : Retry.Policy Error) (err : Error) :
    Rounded p (.lookup err) (noteLookupAndRecreate env err s) := by
  unfold noteLookupAndRecreate
  split
  · rfl
  · exact exec_cons.mpr ⟨_, rfl, rfl⟩

theorem noteCaught_rounded (n : Nat) {err : Error} (herr : ∀ text, err ≠ .unrecoverable text) :
    Rounded call.retryManager.policy (.attempt n) (noteCaught env call n err s) := by
  unfold noteCaught
  refine Follows.after_note (b := Rounds.afterAttempt call.retryManager.policy n (.error err)) ?_ rfl
  unfold Rounds.afterAttempt RetryManager.policy
  cases err with
  | unrecoverable text => exact (herr text rfl).elim
  | rpc e =>
    dsimp only
    by_cases hretry : RetryManager.isRetryable (.rpc e) = true
    · rw [if_pos hretry, if_pos hretry]
      by_cases hlast : n + 1 > call.retryManager.maxRetries
      · rw [if_pos hlast, if_pos hlast]
        exact noteLookupAndRecreate_rounded _ _
      · rw [if_neg hlast, if_neg hlast]
        refine exec_cons.mpr ⟨.attempt (n + 1), ?_, rfl⟩
        exact if_pos (call.retryManager.calculateBackoff_bounds n env.draw)
    · rw [if_neg hretry, if_neg hretry]
      rfl
  | _ => rfl

theorem send_error {data : List UInt8} {attributes : Option (List (String × String))}
    {routingKey : Option String} (hs : s.self.stub ≠ none) {s' : Scope ProducerFields} {err : Error}
    (h : TopicProducer.send env data attributes routingKey s = (s', .error err)) :
    ∃ text, err = .other text := by
  obtain ⟨stub, hstub⟩ := Option.ne_none_iff_exists'.mp hs
  unfold TopicProducer.send at h
  rw [hstub] at h
  dsimp only at h
  split at h
  · rename_i e htoken
    cases h
    exact Client.attachTokenIfNeeded_error htoken
  · cases h

theorem noteAttempt_rounded (n : Nat) (hs : s.self.stub ≠ none) :
    Rounded call.retryManager.policy (.attempt n) (noteAttempt env call n s) := by
  unfold noteAttempt
  split
  · rfl
  · rename_i s' err hsend
    obtain ⟨text, rfl⟩ := send_error hs hsend
    exact noteCaught_rounded n (by simp)

theorem noteResume_rounded (hs : s.self.stub ≠ none) {k : Sending} {w : Wake} {r : SendNoting}
    (h : noteResume env call s k w = some r) :
    Rounded call.retryManager.policy (roundPhase (.await k)) r := by
  unfold noteResume at h
  split at h
  case h_1 => cases h; exact exec_cons.mpr ⟨_, rfl, rfl⟩
  case h_2 => cases h; exact noteCaught_rounded _ (by simp)
  case h_3 => cases h; exact noteAttempt_rounded _ hs
  case h_4 =>
    rename_i err rpc response
    split at h <;> cases h
    · rename_i addr haddr
      have hlookup : Rounded call.retryManager.policy (.lookup err)
          ((noteRecreate env { s with self := s.self.moveTo addr }).after [.inr (.lookup true)]) :=
        (noteRecreate_rounded _).after_note rfl
      exact hlookup.after_events [.moved addr]
    · exact exec_cons.mpr ⟨_, rfl, rfl⟩
  case h_5 => cases h; exact exec_cons.mpr ⟨_, rfl, rfl⟩
  case h_6 =>
    obtain ⟨r, hr, rfl⟩ := Option.map_eq_some_iff.mp h
    have hstub := (resume_journaled producerRole env hr).stub_ne_none hs
    refine follows_andThen (fun _ _ => rfl) (fun id _ => ?_) fun _ _ => exec_cons.mpr ⟨_, rfl, rfl⟩
    exact (noteAttempt_rounded 0 hstub).after_note rfl
  case h_7 => cases h

end Pieces

/-! ## What the messages carry -/

/-- The messages of the journal carry what the call was given. -/
def Carried (call : SendCall) (log : List Event) : Prop :=
  ∀ e ∈ log, ∀ m, e.message? = some m → m.content = call.content

theorem Carried.append {call : SendCall} {a b : List Event} (ha : call.Carried a)
    (hb : call.Carried b) : call.Carried (a ++ b) := by
  intro e he
  exact (List.mem_append.mp he).elim (ha e) (hb e)

theorem carried_of_silent (call : SendCall) {log : List Event} (h : ∀ e ∈ log, e.message? = none) :
    call.Carried log := by
  intro e he m hm
  rw [h e he] at hm
  cases hm

section Carried

variable {env : Env} (call : SendCall) {s : Scope ProducerFields}

theorem andThen_carried {κ κ' β β' : Type} {r : Piece ProducerFields κ β} {lift : κ → κ'}
    {onRet : Scope ProducerFields → β → Piece ProducerFields κ' β'}
    {onRaise : Scope ProducerFields → Error → Piece ProducerFields κ' β'} (hr : call.Carried r.log)
    (hret : ∀ s a, call.Carried (onRet s a).log) (hraise : ∀ s e, call.Carried (onRaise s e).log) :
    call.Carried (r.andThen lift onRet onRaise).log :=
  Ran.andThen_spec (J := fun _ log _ => call.Carried log) (fun ha hb => ha.append hb) (s := r.state) hr
    (fun a _ => hret _ a) fun e _ => hraise _ e

theorem recreateProducer_carried : call.Carried (recreateProducer env s).log :=
  andThen_carried call (carried_of_silent call (Endpoint.create_message? producerRole env s))
    (fun _ a => a.elim) fun _ _ => carried_of_silent call (by simp [raise])

theorem caught_carried (n : Nat) (err : Error) : call.Carried (caught env call n err s).log := by
  unfold caught
  split
  · exact recreateProducer_carried call
  · refine carried_of_silent call ?_
    split
    · split
      · unfold lookupAndRecreate
        split
        · rename_i heq
          simpa using (Endpoint.lookup_inner env heq).message?
        · simp [raise]
      · simp [Event.message?]
    · simp [raise]

theorem attempt_carried (n : Nat) : call.Carried (attempt env call n s).log := by
  unfold attempt
  split
  · rename_i s' rpc hsend
    have hnext : (attempt env call n s).next = .await (.message n rpc) := by simp [attempt, hsend]
    obtain ⟨m, hm, hcontent, -⟩ := attempt_carries hnext
    intro e he m' hm'
    rw [List.mem_singleton.mp he] at hm'
    obtain ⟨rpc', hrpc, hreq⟩ := Event.message?_eq_some.mp hm'
    cases hrpc
    rw [hm] at hreq
    cases hreq
    exact hcontent
  · exact caught_carried call n _

theorem resume_carried {k : Sending} {w : Wake} {r : Piece ProducerFields Sending Nat}
    (hs : s.self.stub ≠ none) (h : call.resume env s k w = some r) : call.Carried r.log := by
  cases resumption h with
  | answered => exact carried_of_silent call (by simp)
  | failed n => exact caught_carried call n _
  | slept n => exact attempt_carried call n
  | moved err rpc response addr =>
    have hmoved : call.Carried [.moved addr] := carried_of_silent call (by simp [Event.message?])
    exact hmoved.append (recreateProducer_carried call)
  | notMoved | lookupFailed => exact carried_of_silent call (by simp [raise])
  | creating k w r' hr' =>
    refine andThen_carried call (carried_of_silent call ?_) (fun _ _ => attempt_carried call 0)
      fun _ _ => carried_of_silent call (by simp [raise])
    exact Endpoint.resume_message? producerRole env (fun _ => hs) hr'

end Carried

/-! ## A failed lookup -/

section Lost

variable {env : Env} {call : SendCall} {s : Scope ProducerFields}

theorem noteRecreate_finds : .lookup false ∉ notes (noteRecreate env s).log := by
  unfold noteRecreate Ran.andThen
  split
  · exact fun h => by simp [Ran.mapLog] at h
  · rename_i a _
    exact a.elim
  · simp [Ran.mapLog, notes]

theorem noteAttempt_finds (n : Nat) (hs : s.self.stub ≠ none) :
    .lookup false ∉ notes (noteAttempt env call n s).log := by
  unfold noteAttempt
  split
  · simp [notes]
  · rename_i s' err hsend
    obtain ⟨text, rfl⟩ := send_error hs hsend
    simp [noteCaught, RetryManager.isRetryable, notes]

theorem noteRecreated_finds {r : Piece ProducerFields TopicProducer.Creating Nat}
    (hs : r.state.self.stub ≠ none) : .lookup false ∉ notes (noteRecreated env call r).log := by
  unfold noteRecreated Ran.andThen
  split
  · exact fun h => by simp [Ran.mapLog] at h
  · rw [Ran.after_log, Ran.after_log, notes_append, notes_append]
    intro h
    rcases List.mem_append.mp h with h | h
    · simp [Ran.mapLog] at h
    · rcases List.mem_append.mp h with h | h
      · simp [notes] at h
      · exact noteAttempt_finds 0 hs h
  · simp [Ran.mapLog, notes]

theorem noteCaught_lost (n : Nat) (err : Error)
    (h : .lookup false ∈ notes (noteCaught env call n err s).log) :
    (noteCaught env call n err s).state.self = s.self := by
  unfold noteCaught at h ⊢
  rw [Ran.after_log, notes_append, List.mem_append] at h
  rw [Ran.after_state]
  rcases h with h | h
  · simp [notes] at h
  · cases err with
    | unrecoverable text => exact (noteRecreate_finds h).elim
    | rpc e =>
      dsimp only
      split
      · split
        · unfold noteLookupAndRecreate
          split <;> rfl
        · rfl
      · rfl
    | _ => rfl

theorem noteResume_lost (hs : s.self.stub ≠ none) {k : Sending} {w : Wake} {r : SendNoting}
    (hr : noteResume env call s k w = some r) (h : .lookup false ∈ notes r.log) :
    r.state.self = s.self := by
  unfold noteResume at hr
  split at hr
  case h_1 => cases hr; rfl
  case h_2 => cases hr; exact noteCaught_lost _ _ h
  case h_3 => cases hr; exact (noteAttempt_finds _ hs h).elim
  case h_4 =>
    split at hr <;> cases hr
    · rw [Ran.after_log, notes_append, List.mem_append] at h
      rcases h with h | h
      · simp [notes] at h
      · exact (noteRecreate_finds h).elim
    · rfl
  case h_5 => cases hr; rfl
  case h_6 =>
    obtain ⟨r, hr', rfl⟩ := Option.map_eq_some_iff.mp hr
    have hstub := (resume_journaled producerRole env hr').stub_ne_none hs
    exact (noteRecreated_finds hstub h).elim
  case h_7 => cases hr

end Lost

/-! ## Without the routing key -/

/-- `send` with the same data and attributes. -/
def keyless (call : SendCall) : SendCall := { call with routingKey := none }

end SendCall

def Call.keyless (rpc : Call) : Call :=
  match rpc.request with
  | .sendMessage m => { rpc with request := .sendMessage { m with routingKey := none } }
  | _ => rpc

def Event.keyless : Event → Event
  | .rpc call => .rpc call.keyless
  | e => e

def Sending.keyless : Sending → Sending
  | .message n rpc => .message n rpc.keyless
  | k => k

/-- The piece with no routing key in its messages. -/
def SendNoting.keyless (r : SendNoting) : SendNoting where
  state := r.state
  log := r.log.map (Sum.map Event.keyless id)
  next :=
    match r.next with
    | .await k => .await k.keyless
    | .ret id => .ret id
    | .raise err => .raise err

theorem Event.keyless_of_silent {e : Event} (h : e.message? = none) : e.keyless = e := by
  unfold Event.message? at h
  cases e with
  | rpc call =>
    refine congrArg Event.rpc ?_
    unfold Call.keyless
    split
    · rename_i m hm
      simp [hm] at h
    · rfl
  | _ => rfl

namespace SendCall

section Keyless

variable {env : Env} {call : SendCall} {s : Scope ProducerFields}

theorem keyless_after (log : List (Event ⊕ SendTurn)) (r : SendNoting) :
    SendNoting.keyless (r.after log) = (SendNoting.keyless r).after (log.map (Sum.map Event.keyless id)) := by
  simp [SendNoting.keyless, Ran.after]

theorem keyless_andThen {β : Type} {r : Piece ProducerFields TopicProducer.Creating β}
    (hlog : ∀ e ∈ r.log, e.message? = none) {onRet onRet' : Scope ProducerFields → β → SendNoting}
    {onRaise : Scope ProducerFields → Error → SendNoting}
    (hret : ∀ s a, SendNoting.keyless (onRet s a) = onRet' s a)
    (hraise : ∀ s e, SendNoting.keyless (onRaise s e) = onRaise s e) :
    SendNoting.keyless ((r.mapLog .inl).andThen .create onRet onRaise) =
      (r.mapLog .inl).andThen .create onRet' onRaise := by
  have hkeyless : (r.log.map Sum.inl).map (Sum.map Event.keyless id) =
      (r.log.map Sum.inl : List (Event ⊕ SendTurn)) := by
    rw [List.map_map]
    exact List.map_congr_left fun e he => congrArg Sum.inl (Event.keyless_of_silent (hlog e he))
  unfold Ran.andThen
  have hnext : (r.mapLog (Sum.inl : Event → Event ⊕ SendTurn)).next = r.next := rfl
  rw [hnext]
  cases r.next with
  | await k => exact congrArg (fun log => (⟨r.state, log, .await (.create k)⟩ : SendNoting)) hkeyless
  | ret a => exact (keyless_after _ _).trans (congr (congrArg Ran.after hkeyless) (hret _ a))
  | raise e => exact (keyless_after _ _).trans (congr (congrArg Ran.after hkeyless) (hraise _ e))

theorem noteRecreate_keyless (s : Scope ProducerFields) :
    SendNoting.keyless (noteRecreate env s) = noteRecreate env s :=
  keyless_andThen (Endpoint.create_message? producerRole env s) (fun _ a => a.elim) fun _ _ => rfl

theorem noteLookupAndRecreate_keyless (err : Error) (s : Scope ProducerFields) :
    SendNoting.keyless (noteLookupAndRecreate env err s) = noteLookupAndRecreate env err s := by
  unfold noteLookupAndRecreate
  split
  · rename_i c rpc hlookup
    have hrpc := Event.keyless_of_silent (Endpoint.lookup_inner env hlookup).message?
    simp [SendNoting.keyless, Sending.keyless, hrpc]
  · rfl

theorem noteCaught_keyless (n : Nat) (err : Error) (s : Scope ProducerFields) :
    SendNoting.keyless (noteCaught env call n err s) = noteCaught env call.keyless n err s := by
  have hmanager : call.keyless.retryManager = call.retryManager := rfl
  unfold noteCaught
  rw [keyless_after, hmanager]
  refine congrArg (Ran.after _) ?_
  cases err with
  | unrecoverable text => exact noteRecreate_keyless s
  | rpc e =>
    dsimp only
    split
    · by_cases hlast : n + 1 > call.retryManager.maxRetries
      · rw [if_pos hlast]
        exact noteLookupAndRecreate_keyless _ s
      · rw [if_neg hlast]
        rfl
    · rfl
  | _ => rfl

theorem noteAttempt_keyless (n : Nat) (s : Scope ProducerFields) :
    SendNoting.keyless (noteAttempt env call n s) = noteAttempt env call.keyless n s := by
  unfold noteAttempt TopicProducer.send
  cases s.self.stub with
  | none => exact noteCaught_keyless n _ s
  | some stub =>
    dsimp only
    cases s.client.attachTokenIfNeeded env.call with
    | error err => exact noteCaught_keyless n _ _
    | ok metadata => rfl

theorem noteResume_keyless (hs : s.self.stub ≠ none) (k : Sending) (w : Wake) :
    (noteResume env call s k w).map SendNoting.keyless = noteResume env call.keyless s k.keyless w := by
  cases k with
  | message n rpc =>
    rcases w with _ | _ | (err | response) | _
    · rfl
    · rfl
    · exact congrArg some (noteCaught_keyless n _ s)
    · cases response <;> rfl
    · rfl
  | backoff n =>
    cases w with
    | timer => exact congrArg some (noteAttempt_keyless n s)
    | _ => rfl
  | lookup err rpc =>
    rcases w with _ | _ | (e | response) | _
    · rfl
    · rfl
    · rfl
    · cases response with
      | topicLookup response =>
        simp only [noteResume, Sending.keyless]
        cases Client.handleLookup response with
        | ok addr =>
          simp only [Option.map_some, keyless_after, noteRecreate_keyless]
          rfl
        | error _ => rfl
      | _ => rfl
    · rfl
  | create k =>
    simp only [noteResume, Sending.keyless, Option.map_map]
    refine Option.map_congr fun r hr => ?_
    exact keyless_andThen (Endpoint.resume_message? producerRole env (fun _ => hs) hr)
      (fun s id => (keyless_after _ _).trans (congrArg (Ran.after _) (noteAttempt_keyless 0 s)))
      fun _ _ => rfl

end Keyless

/-! ## Runs among other tasks -/

/-- One resumption of a send, on the fields that other tasks have left. -/
abbrev proceed (call : SendCall) (t : Piece ProducerFields Sending Nat)
    (l : Scope ProducerFields × Wake × Env) : Option (Piece ProducerFields Sending Nat) :=
  Async.proceed (fun s k (l : Wake × Env) => call.resume l.2 s k l.1) t l

/-- The same, with notes. -/
abbrev noteProceed (call : SendCall) (t : SendNoting) (l : Scope ProducerFields × Wake × Env) :
    Option SendNoting :=
  Async.proceed (fun s k (l : Wake × Env) => noteResume l.2 call s k l.1) t l

section Runs

variable {call : SendCall} {env : Env} {s : Scope ProducerFields}
  {ls : List (Scope ProducerFields × Wake × Env)}

theorem exec_note_erase (call : SendCall) (env : Env) (s : Scope ProducerFields)
    (ls : List (Scope ProducerFields × Wake × Env)) :
    (exec call.noteProceed (call.noteAttempt env 0 s) ls).map Ran.erase =
      exec call.proceed (call.attempt env 0 s) ls := by
  rw [← noteAttempt_erase]
  exact exec_erase (fun s k (l : Wake × Env) => noteResume_erase l.2 call s k l.1) _ ls

theorem exec_carried (hls : ∀ l ∈ ls, l.1.self.stub ≠ none) {t : Piece ProducerFields Sending Nat}
    (h : exec call.proceed (call.attempt env 0 s) ls = some t) : call.Carried t.log := by
  refine exec_invariant_of_steps (P := fun t : Piece ProducerFields Sending Nat => call.Carried t.log)
    (fun t l t' ht hl hstep => ?_) (attempt_carried call 0) (steps_of_mem _ hls) h
  obtain ⟨k, r, -, hr, rfl⟩ := proceed_eq_some.mp hstep
  exact ht.append (resume_carried call hl hr)

theorem exec_keyless (hls : ∀ l ∈ ls, l.1.self.stub ≠ none) :
    (exec call.noteProceed (call.noteAttempt env 0 s) ls).map SendNoting.keyless =
      exec call.keyless.noteProceed (noteAttempt env call.keyless 0 s) ls := by
  rw [← noteAttempt_keyless]
  refine exec_map (fun t l hl => ?_) _
  unfold noteProceed Async.proceed
  cases hnext : t.next with
  | await k =>
    have hkeyless : (SendNoting.keyless t).next = .await k.keyless := by
      simp only [SendNoting.keyless, hnext]
    rw [hkeyless]
    simp only [← noteResume_keyless (hls l hl), Option.map_map, Function.comp_def, keyless_after]
    rfl
  | ret id => simp [SendNoting.keyless, hnext]
  | raise err => simp [SendNoting.keyless, hnext]

theorem keyless_notes (t : SendNoting) : notes (SendNoting.keyless t).log = notes t.log := by
  simp only [notes, SendNoting.keyless, List.filterMap_map]
  exact List.filterMap_congr fun e _ => by cases e <;> rfl

theorem exec_rounded (hs : s.self.stub ≠ none) (hls : ∀ l ∈ ls, l.1.self.stub ≠ none)
    {t : SendNoting} (h : exec call.noteProceed (call.noteAttempt env 0 s) ls = some t) :
    Rounded call.retryManager.policy (.attempt 0) t :=
  exec_follows (L := fun s => s.self.stub ≠ none) (fun _ _ _ _ hl hr => noteResume_rounded hl hr)
    (noteAttempt_rounded 0 hs) hls h

theorem exec_lost {pre : List (Scope ProducerFields × Wake × Env)}
    {l : Scope ProducerFields × Wake × Env} (hs : s.self.stub ≠ none)
    (hls : ∀ x ∈ pre ++ [l], x.1.self.stub ≠ none) {t : SendNoting}
    (h : exec call.noteProceed (call.noteAttempt env 0 s) (pre ++ [l]) = some t)
    (hlast : (notes t.log).getLast? = some (.lookup false)) : t.state.self = l.1.self := by
  obtain ⟨u, hu, hl⟩ := exec_append.mp h
  obtain ⟨t', hstep, hnil⟩ := exec_cons.mp hl
  rw [exec_nil, Option.some.injEq] at hnil
  subst hnil
  obtain ⟨k, r, hk, hr, rfl⟩ := proceed_eq_some.mp hstep
  refine noteResume_lost (r := r) (hls l (by simp)) hr ?_
  rw [Ran.after_log, notes_append] at hlast
  by_cases hempty : notes r.log = []
  · -- the lookup would have ended the send before
    rw [hempty, List.append_nil] at hlast
    have hrounded := exec_rounded hs (fun x hx => hls x (List.mem_append_left _ hx)) hu
    obtain ⟨e, he⟩ := Rounds.exec_lost hrounded hlast
    rw [hk] at he
    cases k <;> cases he
  · rw [List.getLast?_append_of_ne_nil _ hempty] at hlast
    exact List.mem_of_getLast? hlast

end Runs

end SendCall

/-- The trace of `send` and `send_with_key` after `create()`, whatever other tasks do to the fields in
between (none of them takes the stub away). -/
theorem send_trace (call : SendCall) {env : Env} {s : Scope ProducerFields}
    {ls : List (Scope ProducerFields × Wake × Env)} (hs : s.self.stub ≠ none)
    (hothers : ∀ l ∈ ls, l.1.self.stub ≠ none) {t : SendNoting}
    (h : exec call.noteProceed (call.noteAttempt env 0 s) ls = some t) :
    exec call.proceed (call.attempt env 0 s) ls = some t.erase ∧
      (∃ (rounds : List (List SendTurn)) (last : List SendTurn),
        notes t.log = rounds.flatten ++ last ∧
        (∀ r ∈ rounds, Rounds.Full call.retryManager.policy r) ∧
        Rounds.Last call.retryManager.policy (SendCall.roundPhase t.next) last) ∧
      call.Carried t.erase.log ∧
      (∀ pre l, ls = pre ++ [l] → (notes t.log).getLast? = some (.lookup false) →
        t.state.self.address = l.1.self.address) ∧
      exec call.keyless.noteProceed (call.keyless.noteAttempt env 0 s) ls =
          some (SendNoting.keyless t) ∧
        notes (SendNoting.keyless t).log = notes t.log := by
  have hrun : exec call.proceed (call.attempt env 0 s) ls = some t.erase := by
    rw [← SendCall.exec_note_erase, h]
    rfl
  refine ⟨hrun, ?_, SendCall.exec_carried hothers hrun, ?_, ?_, SendCall.keyless_notes t⟩
  · exact Rounds.exec_rounds (SendCall.exec_rounded hs hothers h)
  · rintro pre l rfl hlast
    exact congrArg Endpoint.address (SendCall.exec_lost hs hothers h hlast)
  · rw [← SendCall.exec_keyless hothers, h]
    rfl

/-- A message fails twice, and then the lookup. -/
def failedLookup (s : Scope ProducerFields) : List (Scope ProducerFields × Wake × Env) :=
  [.fail .unavailable, .timer, .fail .resourceExhausted, .fail .unavailable].map fun w => (s, w, {})

theorem failed_lookup_stays :
    ∃ t : Piece ProducerFields TopicProducer.Creating Nat,
      exec (Endpoint.advance producerRole) (TopicProducer.create {} (TopicProducer.oneRetry none))
        [(.answer (.address "a"), {}), (.answer (.registered 1), {})] = some t ∧
      ∃ u : SendNoting,
        exec SendCall.oneRetry.noteProceed (SendCall.oneRetry.noteAttempt {} 0 t.state)
          (failedLookup t.state) = some u ∧
        u.next = .raise (.rpc ⟨.resourceExhausted, ""⟩) ∧
        u.state.self.address = t.state.self.address := by
  obtain ⟨t, u, ht, hstub, hu, hnext, hlast⟩ :
      ∃ (t : Piece ProducerFields TopicProducer.Creating Nat) (u : SendNoting),
      exec (Endpoint.advance producerRole) (TopicProducer.create {} (TopicProducer.oneRetry none))
        [(.answer (.address "a"), {}), (.answer (.registered 1), {})] = some t ∧
      t.state.self.stub ≠ none ∧
      exec SendCall.oneRetry.noteProceed (SendCall.oneRetry.noteAttempt {} 0 t.state)
        (failedLookup t.state) = some u ∧
      u.next = .raise (.rpc ⟨.resourceExhausted, ""⟩) ∧
      (notes u.log).getLast? = some (.lookup false) := ⟨_, _, rfl, by decide, rfl, rfl, rfl⟩
  have hothers : ∀ l ∈ failedLookup t.state, l.1.self.stub ≠ none := by
    simpa [failedLookup] using hstub
  have htrace := (send_trace SendCall.oneRetry hstub hothers hu).2.2.2.1
  refine ⟨t, ht, u, hu, hnext, ?_⟩
  exact htrace [_, _, _] (t.state, .fail .unavailable, {}) rfl hlast

end Danube
