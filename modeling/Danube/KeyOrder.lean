import Danube.CallOrder

/-!
# Calls with one routing key

`send_with_key` gives the lock back before its first attempt, so calls with one key overlap. The order
in which the brokers accept them is the order of the calls as long as their attempts take turns.
-/

namespace Danube

open Async

namespace Producer

/-- The call `i` was made, with that routing key. -/
def HasKey (s : ProducerState) (key : String) (i : Nat) : Prop :=
  ∃ t, s.sends[i]? = some t ∧ t.call.routingKey = some key

/-- Two calls with one routing key, in the order in which they got the lock. -/
structure SameKey (s : ProducerState) (key : String) (i j : Nat) : Prop where
  before : i < j
  first : HasKey s key i
  second : HasKey s key j

/-- The routing key of the call that goes on or is made with the label. -/
def keyOf (s : ProducerState) : ProducerLabel → Option String
  | .send _ _ routingKey _ => routingKey
  | .sending i _ _ => s.sends[i]?.bind fun t => t.call.routingKey
  | _ => none

/-- Of the other calls with that key, no earlier one has a message in flight, and no later one has
begun an attempt. -/
def InTurn (s : ProducerState) (i : Nat) (key : String) : Prop :=
  ∀ j t, s.sends[j]? = some t → t.call.routingKey = some key →
    (j < i → ¬ t.InFlight) ∧ (i < j → ¬ Issued s j)

/-- An attempt of a keyed call begins in its turn. -/
def AttemptsInTurn (s : ProducerState) (l : ProducerLabel) : Prop :=
  ∀ i key, Begins s i l → keyOf s l = some key → InTurn s i key

/-- While a call has a message in flight, no later call with its key has begun an attempt. -/
def TakesTurns (s : ProducerState) : Prop :=
  ∀ key i j, SameKey s key i j → ∀ t, s.sends[i]? = some t → t.InFlight → ¬ Issued s j

theorem begins_unique {s : ProducerState} {l : ProducerLabel} {i j : Nat} (hi : Begins s i l)
    (hj : Begins s j l) : i = j := by
  cases l <;> first | exact hi.1.trans hj.1.symm | exact hi.elim

section Step

variable {s s' : ProducerState} {l : ProducerLabel}

theorem step_key (h : Steady s) (hstep : step s l = some s') {i : Nat} {t : SendTask}
    (ht : s'.sends[i]? = some t) {u : SendTask} (hu : s.sends[i]? = some u) :
    u.call.routingKey = t.call.routingKey := by
  obtain ⟨o, ho⟩ := step_status h.sound hstep hu
  rw [ht, Option.some.injEq] at ho
  rw [ho]

theorem SameKey.mono (h : Steady s) (hstep : step s l = some s') {key : String} {i j : Nat}
    (hkey : SameKey s key i j) : SameKey s' key i j := by
  have hcall : ∀ {i}, HasKey s key i → HasKey s' key i := by
    rintro i ⟨t, ht, hk⟩
    obtain ⟨o, ho⟩ := step_status h.sound hstep ht
    exact ⟨_, ho, hk⟩
  exact ⟨hkey.before, hcall hkey.first, hcall hkey.second⟩

theorem SameKey.old (h : Steady s) (hstep : step s l = some s') {key : String} {i j : Nat}
    (hkey : SameKey s' key i j) (hj : j < s.sends.length) : SameKey s key i j := by
  have hcall : ∀ {i}, i < s.sends.length → HasKey s' key i → HasKey s key i := by
    rintro i hi ⟨t, ht, hk⟩
    have hu := List.getElem?_eq_getElem hi
    exact ⟨_, hu, (step_key h hstep ht hu).trans hk⟩
  exact ⟨hkey.before, hcall (Nat.lt_trans hkey.before hj) hkey.first, hcall hj hkey.second⟩

theorem keyOf_of_begins (h : Steady s) (hstep : step s l = some s') {i : Nat} (hb : Begins s i l)
    {t : SendTask} (ht : s'.sends[i]? = some t) : keyOf s l = t.call.routingKey := by
  cases l with
  | send data attributes routingKey env =>
    obtain ⟨rfl, -⟩ := hb
    obtain ⟨-, d, a, e, heq⟩ := step_new hstep (by simp) ht
    cases heq
    rfl
  | sending task w env =>
    obtain ⟨rfl, u, ref, sc, k, hu, -⟩ := hb
    simp only [keyOf, hu, Option.bind_some]
    exact step_key h hstep ht hu
  | create | child | gathered | health | close => exact hb.elim

theorem issued_of_begins (h : Steady s) (hstep : step s l = some s') {i : Nat} (hb : Begins s i l) :
    ∃ t, s'.sends[i]? = some t ∧ t.InFlight := by
  cases step_attempted h.sound hstep i with
  | idle hl hno => exact (hno hb).elim
  | begins hb t ht hflight => exact ⟨t, ht, hflight⟩
  | goesOn hl hno => exact (hno hb).elim

theorem issued_iff (h : Steady s) (hstep : step s l = some s') (i : Nat) :
    Issued s' i ↔ Issued s i ∨ Begins s i l := by
  cases step_attempted h.sound hstep i with
  | idle hl hno htask hissued => rw [hissued, or_iff_left hno]
  | begins hb t ht hflight hissued => exact iff_of_true hissued (Or.inr hb)
  | goesOn hl hno t ht hflight hissued => rw [hissued, or_iff_left hno]

theorem inFlight_cases (h : Steady s) (hstep : step s l = some s') {i : Nat} {t : SendTask}
    (ht : s'.sends[i]? = some t) (hflight : t.InFlight) : Begins s i l ∨ s.sends[i]? = some t := by
  cases step_attempted h.sound hstep i with
  | idle hl hno htask => exact Or.inr (htask ▸ ht)
  | begins hb => exact Or.inl hb
  | goesOn hl hno u hu hnot =>
    rw [ht, Option.some.injEq] at hu
    exact (hnot (hu ▸ hflight)).elim

theorem step_takesTurns (h : Steady s) (hturns : TakesTurns s) (hc : AttemptsInTurn s l)
    (hstep : step s l = some s') : TakesTurns s' := by
  intro key i j hkey t ht hflight hissued
  have hlt := hkey.before
  obtain ⟨v, hv, hvkey⟩ := hkey.second
  have htkey : t.call.routingKey = some key := by
    obtain ⟨u, hu, hukey⟩ := hkey.first
    rw [ht, Option.some.injEq] at hu
    rw [hu, hukey]
  rcases (issued_iff h hstep j).mp hissued with hold | hbj
  · -- The later call had begun before.
    obtain ⟨w, hw⟩ := h.exists_of_issued hold
    have hsame := hkey.old h hstep (List.getElem?_eq_some_iff.mp hw).1
    rcases inFlight_cases h hstep ht hflight with hbi | hbefore
    · have hturn := hc i key hbi ((keyOf_of_begins h hstep hbi ht).trans htkey)
      exact (hturn j w hw ((step_key h hstep hv hw).trans hvkey)).2 hlt hold
    · exact hturns key i j hsame t hbefore hflight hold
  · rcases inFlight_cases h hstep ht hflight with hbi | hbefore
    · have := begins_unique hbi hbj
      omega
    · have hturn := hc j key hbj ((keyOf_of_begins h hstep hbj hv).trans hvkey)
      exact (hturn i t hbefore htkey).1 hlt hflight

end Step

end Producer

namespace Cluster

/-- Calls with one key are first accepted in the order in which they got the lock. -/
def KeysInOrder (s : Cluster) : Prop :=
  ∀ key i j, Producer.SameKey s.producer key i j → s.Accepted i → s.Accepted j →
    (s.log.map Append.call).idxOf i < (s.log.map Append.call).idxOf j

theorem accepted_iff {s : Cluster} {i : Nat} : s.Accepted i ↔ i ∈ s.log.map Append.call := by
  simp [Accepted]

theorem Accepted.hasCall {s : Cluster} (h : Logged s) {i : Nat} (hi : s.Accepted i) :
    i < s.producer.sends.length := by
  obtain ⟨x, hx, rfl⟩ := hi
  exact h.call_lt hx

structure InTurns (s : Cluster) : Prop where
  logged : Logged s
  issued : ∀ i, s.Accepted i → Producer.Issued s.producer i
  turns : Producer.TakesTurns s.producer
  order : KeysInOrder s

/-- The labels of the producer meet `C`. -/
def OfProducer (C : ProducerState → ProducerLabel → Prop) (s : Cluster) : ClusterLabel → Prop
  | .producer l => C s.producer l
  | .append _ => True

theorem steps_ofProducer {C : ProducerState → ProducerLabel → Prop} {s : Cluster}
    {ls : List ClusterLabel} (h : Steps Producer.step C s.producer (producerLabels ls)) :
    Steps step (OfProducer C) s ls := by
  induction ls generalizing s with
  | nil => trivial
  | cons l ls ih =>
    cases l with
    | producer l =>
      refine ⟨h.1, fun t ht => ?_⟩
      obtain ⟨-, p, hp, rfl⟩ := step_producer.mp ht
      exact ih (h.2 p hp)
    | append i =>
      refine ⟨trivial, fun t ht => ?_⟩
      obtain ⟨-, m, -, rfl⟩ := step_append.mp ht
      exact ih h

theorem step_inTurns {s s' : Cluster} {l : ClusterLabel} (h : InTurns s)
    (hc : OfProducer Producer.AttemptsInTurn s l) (hstep : step s l = some s') : InTurns s' := by
  have hlogged := step_logged h.logged hstep
  have hsteady := h.logged.steady
  cases l with
  | producer l =>
    obtain ⟨-, p, hp, rfl⟩ := step_producer.mp hstep
    refine ⟨hlogged, fun i hi => ?_, Producer.step_takesTurns hsteady h.turns hc hp, ?_⟩
    · exact (Producer.issued_iff hsteady hp i).mpr (Or.inl (h.issued i hi))
    · intro key i j hkey hi hj
      exact h.order key i j (hkey.old hsteady hp (Accepted.hasCall h.logged hj)) hi hj
  | append i =>
    obtain ⟨-, m, hm, rfl⟩ := step_append.mp hstep
    obtain ⟨t, n, rpc, ht, hstatus, -⟩ := inFlight_eq_some.mp hm
    have hflight : t.InFlight := ⟨n, rpc, hstatus⟩
    have hissued : ∀ j, Accepted { s with log := s.log ++ [⟨i, m⟩], taken := i :: s.taken } j →
        s.Accepted j ∨ j = i := by
      simp [accepted_iff]
    refine ⟨hlogged, fun j hj => ?_, h.turns, ?_⟩
    · rcases hissued j hj with hj | rfl
      · exact h.issued j hj
      · exact hsteady.issued j t ht hflight
    · intro key a b hkey ha hb
      have hlt := hkey.before
      rw [List.map_append]
      by_cases hold : s.Accepted b
      · -- A call that is accepted now for the first time is not earlier than one with its key.
        have ha' : s.Accepted a := (hissued a ha).resolve_right fun heq =>
          h.turns key a b hkey t (heq ▸ ht) hflight (h.issued b hold)
        rw [List.idxOf_append_of_mem (accepted_iff.mp ha'),
          List.idxOf_append_of_mem (accepted_iff.mp hold)]
        exact h.order key a b hkey ha' hold
      · -- The call that is accepted now comes after the earlier one.
        obtain rfl := (hissued b hb).resolve_left hold
        have ha' : s.Accepted a := (hissued a ha).resolve_right (Nat.ne_of_lt hlt)
        rw [List.idxOf_append_of_mem (accepted_iff.mp ha'),
          List.idxOf_append_of_notMem fun hmem => hold (accepted_iff.mpr hmem)]
        have := List.idxOf_lt_length_of_mem (accepted_iff.mp ha')
        omega

theorem inTurns_init (client : Client) (config : ProducerConfig) : InTurns (init client config) where
  logged := logged_init client config
  issued := by simp [init, Accepted]
  turns := by
    rintro key i j ⟨-, ⟨t, ht, -⟩, -⟩
    simp [init, Producer.init] at ht
  order := by simp [KeysInOrder, init, Accepted]

/-! ## A broker that appends only what it answers -/

/-- The call has returned. -/
def Returned (s : ProducerState) (i : Nat) : Prop :=
  ∃ t id, s.sends[i]? = some t ∧ t.status = .ret id

theorem Returned.step {s s' : ProducerState} {l : ProducerLabel} (h : Producer.Sound s) {i : Nat}
    (hi : Returned s i) (hstep : Producer.step s l = some s') : Returned s' i := by
  obtain ⟨t, id, ht, hret⟩ := hi
  exact ⟨t, id, Producer.step_ended h hstep ht fun k hk => by simp [hret] at hk, hret⟩

theorem Returned.not_inFlight {s : ProducerState} {i : Nat} (h : Returned s i) {t : SendTask}
    (ht : s.sends[i]? = some t) : ¬ t.InFlight := by
  rintro ⟨n, rpc, hflight⟩
  obtain ⟨u, id, hu, hret⟩ := h
  rw [ht, Option.some.injEq] at hu
  rw [hu, hret] at hflight
  cases hflight

/-- The log has only messages of the calls in `js` and of calls that have returned. -/
def Only (js : List Nat) (s : Cluster) : Prop :=
  ∀ i, s.Accepted i → i ∈ js ∨ Returned s.producer i

/-- A joint run with those labels of the producer. -/
structure Plays (s : Cluster) (ls : List ProducerLabel) (p : ProducerState) (js : List Nat)
    (s' : Cluster) : Prop where
  run : ∃ cs, exec step s cs = some s' ∧ producerLabels cs = ls
  producer : s'.producer = p
  only : Only js s'
  accepted : ∀ i, s.Accepted i → s'.Accepted i

theorem append_enabled {s : Cluster} (h : Logged s) {i : Nat} {t : SendTask}
    (ht : s.producer.sends[i]? = some t) (hflight : t.InFlight) (htaken : i ∉ s.taken) :
    ∃ m, step s (.append i) = some { s with log := s.log ++ [⟨i, m⟩], taken := i :: s.taken } := by
  obtain ⟨n, rpc, hstatus⟩ := hflight
  obtain ⟨m, hm, -⟩ := h.steady.carrying t (List.mem_of_getElem? ht) n rpc hstatus
  exact ⟨m, step_append.mpr ⟨htaken, m, inFlight_eq_some.mpr ⟨t, n, rpc, ht, hstatus, hm⟩, rfl⟩⟩

theorem answers_inFlight {s s' : ProducerState} {l : ProducerLabel}
    (hstep : Producer.step s l = some s') {i : Nat} (hi : l.answers = some i) :
    (∃ t, s.sends[i]? = some t ∧ t.InFlight) ∧ Returned s' i := by
  unfold ProducerLabel.answers at hi
  split at hi
  · rename_i task id env
    cases hi
    obtain ⟨t, ref, sc, k, ran, ht, -, -, hk, hran, rfl⟩ := Producer.sending_eq_some.mp hstep
    have hlt := (List.getElem?_eq_some_iff.mp ht).1
    cases k with
    | message n rpc =>
      cases hran
      refine ⟨⟨t, ht, n, rpc, hk⟩, { t with status := .ret id }, id, ?_, rfl⟩
      simp only [Producer.commitSend, List.getElem?_set_self hlt]
    | create k => cases k <;> simp [SendCall.resume, TopicProducer.createResume, Endpoint.resume] at hran
    | backoff n => simp [SendCall.resume] at hran
    | lookup err rpc => simp [SendCall.resume] at hran
  · simp at hi

theorem plays_step {s : Cluster} (h : Logged s) {js : List Nat} (honly : Only js s)
    {l : ProducerLabel} {p : ProducerState} (hp : Producer.step s.producer l = some p) :
    ∃ s', Plays s [l] p js s' := by
  have hstay : ∀ {i}, i ∈ js ∨ Returned s.producer i → i ∈ js ∨ Returned p i := fun hi =>
    hi.imp_right fun hr => hr.step h.steady.sound hp
  by_cases hready : ∀ i ∈ l.answers, i ∈ s.taken
  · exact ⟨_, ⟨[.producer l], exec_cons.mpr ⟨_, step_producer.mpr ⟨hready, p, hp, rfl⟩, rfl⟩, rfl⟩,
      rfl, fun i hi => hstay (honly i hi), fun i hi => hi⟩
  · push Not at hready
    obtain ⟨i, hi, htaken⟩ := hready
    obtain ⟨⟨t, ht, hflight⟩, hret⟩ := answers_inFlight hp hi
    obtain ⟨m, hm⟩ := append_enabled h ht hflight htaken
    refine ⟨_, ⟨[.append i, .producer l], exec_cons.mpr ⟨_, hm, exec_cons.mpr
      ⟨_, step_producer.mpr ⟨fun j hj => ?_, p, hp, rfl⟩, rfl⟩⟩, rfl⟩, rfl, fun j hj => ?_,
      fun j hj => hj.append rfl⟩
    · rw [hi, Option.mem_some] at hj
      simp [hj]
    · rcases (by simpa [accepted_iff] using hj : s.Accepted j ∨ j = i) with hj | rfl
      · exact hstay (honly j hj)
      · exact Or.inr hret

theorem Plays.append {s t u : Cluster} {ls ms : List ProducerLabel} {p q : ProducerState}
    {js ks : List Nat} (h : Plays s ls p js t) (h' : Plays t ms q ks u) :
    Plays s (ls ++ ms) q ks u := by
  obtain ⟨cs, hcs, rfl⟩ := h.run
  obtain ⟨ds, hds, rfl⟩ := h'.run
  exact ⟨⟨cs ++ ds, exec_append.mpr ⟨t, hcs, hds⟩, List.filterMap_append⟩, h'.producer, h'.only,
    fun i hi => h'.accepted i (h.accepted i hi)⟩

theorem Plays.logged {s s' : Cluster} {ls : List ProducerLabel} {p : ProducerState} {js : List Nat}
    (h : Plays s ls p js s') (hs : Logged s) : Logged s' := by
  obtain ⟨cs, hcs, -⟩ := h.run
  exact exec_invariant (fun _ _ _ => step_logged) hs hcs

theorem plays_exec {s : Cluster} (h : Logged s) {js : List Nat} (honly : Only js s)
    {ls : List ProducerLabel} {p : ProducerState}
    (hp : exec Producer.step s.producer ls = some p) : ∃ s', Plays s ls p js s' := by
  induction ls generalizing s with
  | nil =>
    rw [exec_nil, Option.some.injEq] at hp
    exact ⟨s, ⟨[], rfl, rfl⟩, hp, honly, fun i hi => hi⟩
  | cons l ls ih =>
    obtain ⟨q, hq, hls⟩ := exec_cons.mp hp
    obtain ⟨t, ht⟩ := plays_step h honly hq
    obtain ⟨u, hu⟩ := ih (ht.logged h) ht.only (ht.producer ▸ hls)
    exact ⟨u, ht.append hu⟩

theorem plays_append {s : Cluster} (h : Logged s) {js : List Nat} (honly : Only js s) {i : Nat}
    {t : SendTask} (ht : s.producer.sends[i]? = some t) (hflight : t.InFlight)
    (hnew : ¬ s.Accepted i) : ∃ s', Plays s [] s.producer (i :: js) s' ∧ s'.Accepted i ∧
      ∀ key j, Producer.SameKey s.producer key i j → s.Accepted j → ¬ KeysInOrder s' := by
  obtain ⟨m, hm⟩ := append_enabled h ht hflight fun htaken => hnew (h.taken i htaken)
  refine ⟨_, ⟨⟨[.append i], exec_cons.mpr ⟨_, hm, rfl⟩, rfl⟩, rfl, fun j hj => ?_,
    fun j hj => hj.append rfl⟩, ⟨⟨i, m⟩, by simp, rfl⟩, fun key j hkey hj horder => ?_⟩
  · rcases (by simpa [accepted_iff] using hj : s.Accepted j ∨ j = i) with hj | rfl
    · exact (honly j hj).imp_left (List.mem_cons_of_mem i)
    · simp
  · have hlate := horder key i j hkey ⟨⟨i, m⟩, by simp, rfl⟩ (hj.append rfl)
    rw [List.map_append, List.idxOf_append_of_mem (accepted_iff.mp hj),
      List.idxOf_append_of_notMem fun hmem => hnew (accepted_iff.mpr hmem)] at hlate
    have := List.idxOf_lt_length_of_mem (accepted_iff.mp hj)
    omega

theorem exec_disorder {s s' : Cluster} {ls : List ClusterLabel} (h : Logged s)
    (hbad : ¬ KeysInOrder s) (hexec : exec step s ls = some s') : ¬ KeysInOrder s' := by
  refine (exec_invariant (P := fun s => Logged s ∧ ¬ KeysInOrder s) ?_ ⟨h, hbad⟩ hexec).2
  intro s l s' ⟨hs, hbad⟩ hstep
  refine ⟨step_logged hs hstep, fun horder => hbad fun key i j hkey hi hj => ?_⟩
  cases l with
  | producer l =>
    obtain ⟨-, p, hp, rfl⟩ := step_producer.mp hstep
    exact horder key i j (hkey.mono hs.steady hp) hi hj
  | append k =>
    obtain ⟨-, m, -, rfl⟩ := step_append.mp hstep
    have hboth := horder key i j hkey (hi.append rfl) (hj.append rfl)
    rw [List.map_append, List.idxOf_append_of_mem (accepted_iff.mp hi),
      List.idxOf_append_of_mem (accepted_iff.mp hj)] at hboth
    exact hboth

section Break

variable {s : ProducerState} {l : ProducerLabel} {u : ProducerState} {a : Nat}

/-- An attempt begins while an earlier call with its key has a message in flight: the broker can append
the later message first. -/
theorem overtake_in_flight {c : Cluster} (hc : Logged c) (honly : Only [] c)
    (hstep : Producer.step c.producer l = some u) (hb : Producer.Begins c.producer a l)
    {key : String} {j : Nat} (hkey : Producer.SameKey u key j a) {t : SendTask}
    (ht : c.producer.sends[j]? = some t) (hflight : t.InFlight) :
    ∃ c' js, Plays c [l] u js c' ∧ ¬ KeysInOrder c' := by
  have hsteady := hc.steady
  have hne : j ≠ a := Nat.ne_of_lt hkey.before
  obtain ⟨c₁, h₁⟩ := plays_step hc honly hstep
  have hc₁ := h₁.logged hc
  obtain ⟨v, hv, hvflight⟩ := Producer.issued_of_begins hsteady hstep hb
  -- The earlier call is not touched by the step.
  have htu : u.sends[j]? = some t := by
    cases Producer.step_attempted hsteady.sound hstep j with
    | idle hl hno htask => rw [htask, ht]
    | begins hb' => exact (hne (Producer.begins_unique hb' hb)).elim
    | goesOn hl =>
      rcases hl with hnone | ⟨w, env, rfl⟩
      · simp [ht] at hnone
      · exact (hne hb.1.symm).elim
  obtain rfl := h₁.producer
  -- The broker appends the later message first, and then the earlier one.
  obtain ⟨c₂, h₂, ha, -⟩ := plays_append hc₁ h₁.only hv hvflight fun hacc =>
    (h₁.only a hacc).elim (by simp) fun hret => hret.not_inFlight hv hvflight
  obtain ⟨c₃, h₃, -, hbad⟩ := plays_append (t := t) (h₂.logged hc₁) h₂.only
    (by rw [h₂.producer]; exact htu) hflight fun hacc => by
      rcases h₂.only j hacc with hmem | hret
      · exact hne (List.mem_singleton.mp hmem)
      · rw [h₂.producer] at hret
        exact hret.not_inFlight htu hflight
  rw [h₂.producer] at h₃ hbad
  exact ⟨c₃, _, (h₁.append h₂).append h₃, hbad key a hkey ha⟩

/-- An attempt begins after a later call with its key has begun one, which the broker appended. -/
theorem overtaken_before {c : Cluster} (hc : Logged c) {j : Nat} (honly : Only [j] c)
    (hstep : Producer.step c.producer l = some u) (hb : Producer.Begins c.producer a l)
    {key : String} (hkey : Producer.SameKey u key a j) (hj : c.Accepted j) :
    ∃ c' js, Plays c [l] u js c' ∧ ¬ KeysInOrder c' := by
  obtain ⟨c₁, h₁⟩ := plays_step hc honly hstep
  obtain ⟨v, hv, hvflight⟩ := Producer.issued_of_begins hc.steady hstep hb
  have hnew : ¬ c₁.Accepted a := by
    intro hacc
    rcases h₁.only a hacc with hmem | hret
    · exact Nat.ne_of_lt hkey.before (List.mem_singleton.mp hmem)
    · rw [h₁.producer] at hret
      exact hret.not_inFlight hv hvflight
  obtain rfl := h₁.producer
  obtain ⟨c₂, h₂, -, hbad⟩ := plays_append (h₁.logged hc) h₁.only hv hvflight hnew
  exact ⟨c₂, _, h₁.append h₂, hbad key j hkey (h₁.accepted j hj)⟩

end Break

/-- After a step out of turn, a broker can have accepted the calls out of order. -/
theorem exists_disorder {client : Client} {config : ProducerConfig} {ls : List ProducerLabel}
    {s u : ProducerState} {l : ProducerLabel}
    (hs : exec Producer.step (Producer.init client config) ls = some s)
    (hstep : Producer.step s l = some u) (hbad : ¬ Producer.AttemptsInTurn s l) :
    ∃ c js, Plays (init client config) (ls ++ [l]) u js c ∧ ¬ KeysInOrder c := by
  have hinit := logged_init client config
  have hnone : ∀ js, Only js (init client config) := fun js i ⟨x, hx, _⟩ => by simp [init] at hx
  unfold Producer.AttemptsInTurn Producer.InTurn at hbad
  push Not at hbad
  obtain ⟨a, key, hb, hlabel, j, t, ht, htkey, hbreak⟩ := hbad
  have hsteady : Producer.Steady s :=
    exec_invariant (fun _ _ _ => Producer.step_steady) (Producer.steady_init client config) hs
  obtain ⟨v, hv, -⟩ := Producer.issued_of_begins hsteady hstep hb
  have hvkey : Producer.HasKey u key a :=
    ⟨v, hv, (Producer.keyOf_of_begins hsteady hstep hb hv).symm.trans hlabel⟩
  have htkey' : Producer.HasKey u key j := by
    obtain ⟨o, ho⟩ := Producer.step_status hsteady.sound hstep ht
    exact ⟨_, ho, htkey⟩
  by_cases hearlier : j < a ∧ t.InFlight
  · -- An earlier call with the key is in flight.
    obtain ⟨hlt, hflight⟩ := hearlier
    obtain ⟨c, hc⟩ := plays_exec hinit (hnone []) hs
    obtain rfl := hc.producer
    obtain ⟨c', js, hc', hdisorder⟩ := overtake_in_flight (hc.logged hinit) hc.only hstep hb
      ⟨hlt, htkey', hvkey⟩ ht hflight
    exact ⟨c', js, hc.append hc', hdisorder⟩
  · obtain ⟨hlt, hissued⟩ := hbreak fun hlt hflight => hearlier ⟨hlt, hflight⟩
    -- The broker appends the later call's first message right after it was sent.
    obtain ⟨pre, m, post, x, y, rfl, hpre, hm, hpost, hx, hy⟩ :=
      exec_becomes (Q := fun s => Producer.Issued s j) hs
        (by simp [Producer.Issued, Producer.init, journalOf]) hissued
    have hxsteady : Producer.Steady x :=
      exec_invariant (fun _ _ _ => Producer.step_steady) (Producer.steady_init client config) hpre
    have hbj := ((Producer.issued_iff hxsteady hm j).mp hy).resolve_left hx
    obtain ⟨w, hw, hwflight⟩ := Producer.issued_of_begins hxsteady hm hbj
    have hbegun : exec Producer.step (Producer.init client config) (pre ++ [m]) = some y :=
      exec_append.mpr ⟨x, hpre, exec_cons.mpr ⟨y, hm, rfl⟩⟩
    obtain ⟨c₁, h₁⟩ := plays_exec hinit (hnone []) hbegun
    obtain rfl := h₁.producer
    obtain ⟨c₂, h₂, hj, -⟩ := plays_append (h₁.logged hinit) h₁.only hw hwflight fun hacc =>
      (h₁.only j hacc).elim (by simp) fun hret => hret.not_inFlight hw hwflight
    obtain ⟨c₃, h₃⟩ := plays_exec (h₂.logged (h₁.logged hinit)) h₂.only (h₂.producer ▸ hpost)
    obtain rfl := h₃.producer
    have h := (h₁.append h₂).append h₃
    obtain ⟨c₄, js, h₄, hdisorder⟩ := overtaken_before (h.logged hinit) h.only hstep hb
      ⟨hlt, hvkey, htkey'⟩ (h₃.accepted j hj)
    refine ⟨c₄, js, ?_, hdisorder⟩
    simpa using h.append h₄

/-- Whatever the brokers append when, they accept the calls of each key in the order in which these got
the lock, exactly if each attempt begins in its turn. -/
theorem keys_in_order_iff {client : Client} {config : ProducerConfig} {ls : List ProducerLabel}
    {s : ProducerState} (h : exec Producer.step (Producer.init client config) ls = some s) :
    (∀ cs c, exec step (init client config) cs = some c → producerLabels cs = ls → KeysInOrder c) ↔
      Steps Producer.step Producer.AttemptsInTurn (Producer.init client config) ls := by
  constructor
  · intro horder
    rcases steps_or_breaks Producer.AttemptsInTurn h with hsteps | ⟨pre, l, post, t, rfl, hpre, -, hbad⟩
    · exact hsteps
    obtain ⟨t', ht', hrest⟩ := exec_append.mp h
    rw [hpre, Option.some.injEq] at ht'
    subst ht'
    obtain ⟨u, hu, hpost⟩ := exec_cons.mp hrest
    obtain ⟨c, js, hc, hdisorder⟩ := exists_disorder hpre hu hbad
    have hlogged := hc.logged (logged_init client config)
    have hall : Only (List.range c.producer.sends.length) c := fun i hi =>
      Or.inl (List.mem_range.mpr (Accepted.hasCall hlogged hi))
    obtain ⟨c', hc'⟩ := plays_exec hlogged hall (hc.producer ▸ hpost)
    obtain ⟨cs, hcs, hlabels⟩ := (hc.append hc').run
    obtain ⟨ds, hds, -⟩ := hc'.run
    exact (exec_disorder hlogged hdisorder hds (horder cs c' hcs (by simpa using hlabels))).elim
  · rintro hsteps cs c hcs rfl
    exact (exec_invariant_of_steps (fun _ _ _ => step_inTurns) (inTurns_init client config)
      (steps_ofProducer hsteps) hcs).order

/-- The first call sleeps before its retry while the second call with its key is sent and accepted. -/
def overtaken : List ClusterLabel :=
  [.producer (.create {}), .producer (.child 0 (.answer (.address "a")) {}),
    .producer (.child 0 (.answer (.registered 1)) {}), .producer (.send [1] none (some "k") {}),
    .producer (.sending 0 (.fail .unavailable) {}), .producer (.send [2] none (some "k") {}),
    .append 1, .producer (.sending 1 (.answer (.message 3)) {}), .producer (.sending 0 .timer {}),
    .append 0, .producer (.sending 0 (.answer (.message 4)) {})]

theorem overtaken_disorder :
    ∃ c, exec step (init (.init "a" {}) (.oneRetry none)) overtaken = some c ∧ ¬ KeysInOrder c := by
  refine ⟨_, rfl, fun h => ?_⟩
  have horder := h "k" 0 1 ⟨by decide, ⟨_, rfl, rfl⟩, ⟨_, rfl, rfl⟩⟩
    ⟨_, List.mem_cons_of_mem _ (List.mem_cons_self ..), rfl⟩ ⟨_, List.mem_cons_self .., rfl⟩
  revert horder
  decide

theorem overtaken_out_of_turn :
    ∃ s, exec Producer.step (Producer.init (.init "a" {}) (.oneRetry none))
        (producerLabels overtaken) = some s ∧
      ((∀ cs c, exec step (init (.init "a" {}) (.oneRetry none)) cs = some c →
          producerLabels cs = producerLabels overtaken → KeysInOrder c) ↔
        Steps Producer.step Producer.AttemptsInTurn (Producer.init (.init "a" {}) (.oneRetry none))
          (producerLabels overtaken)) := by
  obtain ⟨s, hs⟩ := Option.isSome_iff_exists.mp
    (by rfl : (exec Producer.step (Producer.init (.init "a" {}) (.oneRetry none))
      (producerLabels overtaken)).isSome)
  exact ⟨s, hs, keys_in_order_iff hs⟩

end Cluster

end Danube
