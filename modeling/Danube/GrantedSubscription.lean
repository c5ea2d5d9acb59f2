import Danube.GrantedChildren
import Danube.FailedCalls

/-!
# Calls of `subscribe()` that are granted

Once the partitions are known, a `subscribe()` whose registrations are granted returns with the last of
its coroutines.
-/

namespace Danube

open Async

/-- The labels that take a `subscribe()` on. -/
def ConsumerLabel.subscribes : ConsumerLabel → Bool
  | .subscribe _ | .partitions _ | .child .. | .gathered => true
  | _ => false

namespace Consumer

variable {s s' : ConsumerState} {l : ConsumerLabel} {names : List String} {refs : List Nat}

/-! ## The coroutines of `subscribe()` -/

theorem step_aside (hstep : step s l = some s') (hl : l.subscribes = false) :
    s'.subscribing = s.subscribing ∧ s'.consumers = s.consumers ∧
      s'.pool.children = s.pool.children := by
  cases l with
  | subscribe | partitions | child | gathered => cases hl
  | receive => cases hstep; exact ⟨rfl, rfl, rfl⟩
  | receiving task w env =>
    obtain ⟨t, sc, queue, ran, -, -, -, -, rfl⟩ := receiving_eq_some.mp hstep
    exact ⟨rfl, rfl, rfl⟩
  | get queue => obtain ⟨queues, rfl⟩ := get_eq_some hstep; exact ⟨rfl, rfl, rfl⟩
  | ack message env =>
    obtain ⟨acks, rfl | ⟨ref, sc, call, -, -, -, rfl⟩⟩ := onConsumer_eq_some hstep <;>
      exact ⟨rfl, rfl, rfl⟩
  | nack message delayMs reason env =>
    obtain ⟨acks, rfl | ⟨ref, sc, call, -, -, -, rfl⟩⟩ := onConsumer_eq_some hstep <;>
      exact ⟨rfl, rfl, rfl⟩
  | acked call w => obtain ⟨acks, rfl⟩ := acked_eq_some hstep; exact ⟨rfl, rfl, rfl⟩
  | health task w env =>
    obtain ⟨p, hp, rfl⟩ := Option.map_eq_some_iff.mp hstep
    obtain ⟨l, e, c, pos, log, stop, -, -, -, -, rfl⟩ := Pool.health_eq_some hp
    exact ⟨rfl, rfl, rfl⟩
  | close => cases hstep; exact ⟨rfl, rfl, Pool.foldl_stop_children _ _⟩

/-- A `gather` has a coroutine for each partition, and keeps the first exception. -/
structure Gathering (s : ConsumerState) (names : List String) (g : Gather) : Prop where
  length : g.refs.length = names.length
  coroutines : ∀ r ∈ g.refs, r < s.pool.children.length
  noted : g.failure = none → Pool.NoneRaised g.refs s.pool.children

/-- What the coroutines of a consumer are like. -/
structure Coroutines (s : ConsumerState) : Prop where
  consulting : s.pool.Consulting consumerRole none
  gathering : ∀ names g, s.subscribing = some (.gather names g) → Gathering s names g

theorem coroutines_init (client : Client) (config : ConsumerConfig) :
    Coroutines (init client config) := ⟨Pool.consulting_init client, by simp [init]⟩

theorem Gathering.congr {g : Gather} (h : Gathering s names g)
    (hchildren : s'.pool.children = s.pool.children) : Gathering s' names g where
  length := h.length
  coroutines := by rw [hchildren]; exact h.coroutines
  noted := by rw [hchildren]; exact h.noted

theorem Coroutines.aside (h : Coroutines s) (hchildren : s'.pool.children = s.pool.children)
    (hsubscribing : ∀ names g, s'.subscribing = some (.gather names g) →
      s.subscribing = some (.gather names g)) : Coroutines s' where
  consulting := ⟨fun _ _ => rfl, by rw [hchildren]; exact h.consulting.children⟩
  gathering names g hg := (h.gathering names g (hsubscribing names g hg)).congr hchildren

theorem note_failure {g : Gather} {ref : Nat} {b : Child} {children : List Child}
    (hlt : ref < children.length) (h : g.failure = none → Pool.NoneRaised g.refs children)
    (hnote : (g.note ref (children.set ref b)[ref]?).failure = none) :
    Pool.NoneRaised g.refs (children.set ref b) := by
  rw [List.getElem?_set_self hlt] at hnote
  have hfailure : g.failure = none := by
    unfold Gather.note at hnote
    split at hnote
    · split at hnote
      · cases hnote
      · exact hnote
    · exact hnote
  refine (h hfailure).set fun hr err hb => ?_
  subst hb
  simp [Gather.note, hr, hfailure] at hnote

theorem step_coroutines (hs : Sound s) (h : Coroutines s) (hstep : step s l = some s') :
    Coroutines s' := by
  cases hl : l.subscribes with
  | false =>
    obtain ⟨hsubscribing, -, hchildren⟩ := step_aside hstep hl
    exact h.aside hchildren fun names g hg => hsubscribing ▸ hg
  | true =>
    cases l with
    | subscribe env =>
      obtain ⟨-, -, c, x, -, hx, rfl⟩ := subscribe_eq_some hstep
      exact h.aside rfl fun names g hg => (hx names g hg).elim
    | partitions w =>
      rcases partitions_eq_some hstep with ⟨⟨names, rfl⟩, -⟩ | ⟨rfl, -⟩
      · refine ⟨Pool.alloc_consulting h.consulting fun _ _ => rfl, fun names' g hg => ?_⟩
        simp only [Option.some.injEq, SubscribeCall.gather.injEq] at hg
        obtain ⟨rfl, rfl⟩ := hg
        refine ⟨by simp, fun r hr => ?_, fun _ r hr err hraise => ?_⟩
        · have hlt := (List.mem_range'_1.mp hr).2
          simp only [Pool.alloc, List.length_append, List.length_map, hs.pool.length]
          omega
        · have hold := (List.getElem?_eq_some_iff.mp
            ((Pool.alloc_started s.pool _ r _).mp hraise)).1
          have hge := (List.mem_range'_1.mp hr).1
          rw [hs.pool.length] at hold
          omega
      · exact h.aside rfl (by simp)
    | child ref w env =>
      obtain ⟨p, hp, rfl⟩ := Option.map_eq_some_iff.mp hstep
      have hconsulting := Pool.child_consulting (fun _ _ => rfl) h.consulting hp
      obtain ⟨c, sc, ran, hc, -, -, hpool⟩ := Pool.child_eq_some.mp hp
      have hchildren : p.children = s.pool.children.set ref (.started ran.next) := by rw [hpool]
      unfold settle
      split
      · rename_i names g hg
        refine ⟨hconsulting, fun names' g' hg' => ?_⟩
        simp only [Option.some.injEq, SubscribeCall.gather.injEq] at hg'
        obtain ⟨rfl, rfl⟩ := hg'
        obtain ⟨hlen, hlt, hnoted⟩ := h.gathering names g hg
        refine ⟨by rw [Producer.note_refs]; exact hlen, fun r hr => ?_, fun hnone => ?_⟩
        · rw [Producer.note_refs] at hr
          simpa [hchildren] using hlt r hr
        · rw [Producer.note_refs]
          rw [hchildren] at hnone ⊢
          exact note_failure (List.getElem?_eq_some_iff.mp hc).1 hnoted hnone
      · rename_i hnone
        exact ⟨hconsulting, fun names g hg => (hnone names g hg).elim⟩
    | gathered =>
      obtain ⟨names, g, -, rfl | ⟨-, rfl⟩⟩ := gathered_eq_some hstep <;> exact h.aside rfl (by simp)
    | _ => cases hl

theorem exec_coroutines {client : Client} {config : ConsumerConfig} {ls : List ConsumerLabel}
    (h : exec step (init client config) ls = some s) : Coroutines s :=
  (exec_invariant (P := fun s => Sound s ∧ Coroutines s)
    (fun _ _ _ hs hstep => ⟨step_sound hs.1 hstep, step_coroutines hs.1 hs.2 hstep⟩)
    ⟨sound_init client config, coroutines_init client config⟩ h).2

/-! ## A `subscribe()` that is granted -/

/-- If the label runs a coroutine of `refs`, it is granted what it waits for. -/
def GrantsSubscribe (refs : List Nat) (s : ConsumerState) (l : ConsumerLabel) : Prop :=
  ∀ ref w env, l = .child ref w env → ref ∈ refs → s.pool.GrantsChild none ref w env

/-- The label is a step of the `subscribe()` that gathers `refs`. -/
def runsSubscribe (refs : List Nat) : ConsumerLabel → Bool
  | .child ref _ _ => ref ∈ refs
  | .gathered => true
  | _ => false

/-- The dict of the results of a `gather`. -/
def results (names : List String) (refs : List Nat) : List (String × Nat) :=
  (names.zip refs).foldl (fun d x => setItem d x.1 x.2) []

/-- The steps that a granted `subscribe()` has left. -/
def subscribeLeft (refs : List Nat) (s : ConsumerState) : Nat :=
  match s.subscribing with
  | some (.gather ..) => Pool.leftOf refs s.pool.children + 1
  | _ => 0

/-- The `subscribe()` that gathers `refs` goes on and nothing of it has raised, or it has returned. -/
inductive Subscribed (names : List String) (refs : List Nat) (s : ConsumerState) : Prop
  | goesOn (g : Gather) (h : s.subscribing = some (.gather names g)) (hrefs : g.refs = refs)
    (hfailure : g.failure = none)
  | returned (h : s.subscribing = none) (hconsumers : s.consumers = results names refs)
    (hne : s.consumers ≠ []) (hchildren : ∀ r ∈ refs, ∃ id, s.pool.children[r]? = some (.started (.ret id)))

theorem setItem_ne_nil (d : List (String × Nat)) (name : String) (ref : Nat) :
    setItem d name ref ≠ [] := by
  unfold setItem
  split
  · rename_i hmem
    rintro hnil
    rw [List.map_eq_nil_iff] at hnil
    simp [hnil] at hmem
  · simp

theorem results_ne_nil (hlen : refs.length = names.length) (hne : names ≠ []) :
    results names refs ≠ [] := by
  have hfold : ∀ (xs d : List (String × Nat)), d ≠ [] →
      xs.foldl (fun d x => setItem d x.1 x.2) d ≠ [] := by
    intro xs
    induction xs with
    | nil => exact fun d hd => hd
    | cons x xs ih => exact fun d _ => ih _ (setItem_ne_nil d x.1 x.2)
  unfold results
  cases hzip : names.zip refs with
  | nil =>
    have hzero : (names.zip refs).length = 0 := by rw [hzip]; rfl
    rw [List.length_zip, hlen, Nat.min_self] at hzero
    exact (hne (List.length_eq_zero_iff.mp hzero)).elim
  | cons x xs => exact hfold xs _ (setItem_ne_nil [] x.1 x.2)

/-- What a step gives a granted `subscribe()`: nothing of it raises, and it is nearer to its return if the
step is its own. -/
def Nearer (names : List String) (refs : List Nat) (s : ConsumerState) (l : ConsumerLabel)
    (s' : ConsumerState) : Prop :=
  Subscribed names refs s' ∧
    subscribeLeft refs s' + (if runsSubscribe refs l then 1 else 0) ≤ subscribeLeft refs s

theorem aside_nearer (h : Subscribed names refs s) (hl : l.subscribes = false)
    (hstep : step s l = some s') : Nearer names refs s l s' := by
  obtain ⟨hsubscribing, hconsumers, hchildren⟩ := step_aside hstep hl
  have hruns : runsSubscribe refs l = false := by
    cases l with
    | child | gathered => cases hl
    | _ => rfl
  refine ⟨?_, by simp [subscribeLeft, hruns, hsubscribing, hchildren]⟩
  cases h with
  | goesOn g h hrefs hfailure => exact .goesOn g (hsubscribing.trans h) hrefs hfailure
  | returned h hresults hnil hret =>
    exact .returned (hsubscribing.trans h) (hconsumers.trans hresults) (hconsumers ▸ hnil)
      (by rw [hchildren]; exact hret)

theorem settle_gather {names : List String} {g : Gather} {p : Pool ConsumerFields} {ref : Nat}
    (h : s.subscribing = some (.gather names g)) (hnote : g.note ref p.children[ref]? = g) :
    settle { s with pool := p } ref =
      { s with pool := p, subscribing := some (.gather names g) } := by
  simp only [settle, h, hnote]

theorem member_nearer {g : Gather} {p : Pool ConsumerFields} {ref : Nat} {w : Wake} {env : Env}
    (hc : Coroutines s) (h : s.subscribing = some (.gather names g)) (hfailure : g.failure = none)
    (hr : ref ∈ g.refs) (hg : s.pool.GrantsChild none ref w env)
    (hp : s.pool.child consumerRole ref w env = some p) :
    Nearer names g.refs s (.child ref w env) (settle { s with pool := p } ref) := by
  obtain ⟨b, b', hb, hb', hlt, hraise⟩ := Pool.child_nears hc.consulting hg hp
  have hnote : g.note ref p.children[ref]? = g := by
    refine Gather.note_eq_self fun _ err herr => ?_
    rw [hb', List.getElem?_set_self (List.getElem?_eq_some_iff.mp hb).1] at herr
    exact hraise err (Option.some.inj herr)
  have hleft : Pool.leftOf g.refs p.children < Pool.leftOf g.refs s.pool.children := by
    rw [hb']
    exact Pool.leftOf_set_lt hr hb hlt
  rw [settle_gather h hnote]
  refine ⟨.goesOn g rfl rfl hfailure, ?_⟩
  simp only [subscribeLeft, runsSubscribe, hr, decide_true, if_true, h]
  omega

theorem stranger_nearer {g : Gather} {p : Pool ConsumerFields} {ref : Nat} {w : Wake} {env : Env}
    (h : s.subscribing = some (.gather names g)) (hfailure : g.failure = none) (hr : ref ∉ g.refs)
    (hp : s.pool.child consumerRole ref w env = some p) :
    Nearer names g.refs s (.child ref w env) (settle { s with pool := p } ref) := by
  obtain ⟨c, sc, ran, -, -, -, hpool⟩ := Pool.child_eq_some.mp hp
  have hchildren : p.children = s.pool.children.set ref (.started ran.next) := by rw [hpool]
  rw [settle_gather h (Gather.note_eq_self fun hmem => (hr hmem).elim)]
  refine ⟨.goesOn g rfl rfl hfailure, ?_⟩
  simp [subscribeLeft, runsSubscribe, hr, h, hchildren, Pool.leftOf_set_of_notMem]

theorem later_nearer {p : Pool ConsumerFields} {ref : Nat} {w : Wake} {env : Env}
    (h : s.subscribing = none) (hconsumers : s.consumers = results names refs)
    (hne : s.consumers ≠ [])
    (hret : ∀ r ∈ refs, ∃ id, s.pool.children[r]? = some (.started (.ret id)))
    (hp : s.pool.child consumerRole ref w env = some p) :
    Nearer names refs s (.child ref w env) (settle { s with pool := p } ref) := by
  obtain ⟨c, sc, ran, hc, -, hran, hpool⟩ := Pool.child_eq_some.mp hp
  have hchildren : p.children = s.pool.children.set ref (.started ran.next) := by rw [hpool]
  have hr : ref ∉ refs := by
    intro hmem
    obtain ⟨id, hid⟩ := hret ref hmem
    rw [hid] at hc
    cases hc
    -- A coroutine that has returned takes no piece.
    rcases Pool.childPiece_cases hran with ⟨hx, -⟩ | ⟨k, hx, -⟩ <;> cases hx
  have heq : settle { s with pool := p } ref = { s with pool := p } := by
    simp only [settle, h]
  rw [heq]
  refine ⟨.returned h hconsumers hne fun r hmem => ?_, by simp [subscribeLeft, runsSubscribe, hr, h]⟩
  have hother : ref ≠ r := by
    rintro rfl
    exact hr hmem
  simp only [hchildren, List.getElem?_set_ne hother]
  exact hret r hmem

theorem gathered_nearer (hc : Coroutines s) (hne : names ≠ []) (h : Subscribed names refs s)
    (hstep : step s .gathered = some s') : Nearer names refs s .gathered s' := by
  simp only [step, gathered] at hstep
  cases h with
  | goesOn g h hrefs hfailure =>
    subst hrefs
    simp only [h, hfailure, Option.isSome_none, Bool.false_eq_true, if_false] at hstep
    split at hstep
    · rename_i hall
      cases hstep
      exact ⟨.returned rfl rfl (results_ne_nil (hc.gathering names g h).length hne) fun r hr =>
        allReturned_ret hall hr, by simp [subscribeLeft, runsSubscribe, h]⟩
    · cases hstep
  | returned h =>
    rw [h] at hstep
    cases hstep

/-- One step: a granted `subscribe()` does not raise, and is nearer to its return if the step is its own. -/
theorem step_subscribed (hc : Coroutines s) (hne : names ≠ [])
    (h : Subscribed names refs s) (hg : GrantsSubscribe refs s l) (hstep : step s l = some s') :
    Nearer names refs s l s' := by
  cases hl : l.subscribes with
  | false => exact aside_nearer h hl hstep
  | true =>
    cases l with
    | subscribe env =>
      -- No second `subscribe()` starts: this one goes on, or has left a consumer.
      obtain ⟨hnone, hnil, -⟩ := subscribe_eq_some hstep
      cases h with
      | goesOn g h => cases hnone.symm.trans h
      | returned _ _ hne' => exact (hne' hnil).elim
    | partitions w =>
      -- The partitions are known.
      have hasking : ∃ call, s.subscribing = some (.partitions call) := by
        rcases partitions_eq_some hstep with ⟨-, hcall⟩ | ⟨-, hcall⟩ <;> exact hcall
      obtain ⟨call, hcall⟩ := hasking
      cases h with
      | goesOn g h => cases hcall.symm.trans h
      | returned h => cases hcall.symm.trans h
    | child ref w env =>
      obtain ⟨p, hp, rfl⟩ := Option.map_eq_some_iff.mp hstep
      cases h with
      | goesOn g h hrefs hfailure =>
        subst hrefs
        by_cases hr : ref ∈ g.refs
        · exact member_nearer hc h hfailure hr (hg ref w env rfl hr) hp
        · exact stranger_nearer h hfailure hr hp
      | returned h hconsumers hnil hret => exact later_nearer h hconsumers hnil hret hp
    | gathered => exact gathered_nearer hc hne h hstep
    | _ => cases hl

theorem exists_subscribe_grant (hs : Sound s) (hc : Coroutines s) {g : Gather}
    (h : s.subscribing = some (.gather names g)) (hfailure : g.failure = none) :
    (step s .gathered).isSome ∨ ∃ r ∈ g.refs, ∃ w, ∀ env, env.Works →
      GrantsSubscribe g.refs s (.child r w env) ∧ (step s (.child r w env)).isSome := by
  obtain ⟨-, hlt, hnoted⟩ := hc.gathering names g h
  rcases Pool.returned_or_waits hlt (hnoted hfailure) with hall | ⟨r, hr, b, hb, hleft⟩
  · exact Or.inl (by simp [step, gathered, h, hfailure, hall])
  · obtain ⟨w, hw⟩ := Pool.exists_grant hc.consulting hs.pool hb hleft
    refine Or.inr ⟨r, hr, w, fun env henv => ⟨?_, by simpa [step] using (hw env henv).2⟩⟩
    rintro r' w' env' heq -
    cases heq
    exact (hw env henv).1

/-- From any point of a `subscribe()` that knows its partitions and of which nothing has raised, and in
every run in which its registrations are granted, `subscribe()` returns after at most five pieces for each
partition and the end of its `gather`, with a consumer for each. Until then it can be granted what it
waits for. -/
theorem granted_subscribe_returns {client : Client} {config : ConsumerConfig}
    {ls run : List ConsumerLabel} (h : exec step (init client config) ls = some s) {g : Gather}
    (hg : s.subscribing = some (.gather names g)) (hne : names ≠ []) (hfailure : g.failure = none)
    (hrun : exec step s run = some s') (hgranted : Steps step (GrantsSubscribe g.refs) s run) :
    s'.subscribing = none ∧ s'.consumers = results names g.refs ∧
        run.countP (runsSubscribe g.refs) ≤ 5 * names.length + 1 ∨
      s'.subscribing ≠ none ∧ run.countP (runsSubscribe g.refs) ≤ 5 * names.length ∧
        ((step s' .gathered).isSome ∨ ∃ r ∈ g.refs, ∃ w, ∀ env, env.Works →
          GrantsSubscribe g.refs s' (.child r w env) ∧ (step s' (.child r w env)).isSome) := by
  have hstep : ∀ s l s', (Sound s ∧ Coroutines s ∧ Subscribed names g.refs s) →
      GrantsSubscribe g.refs s l → step s l = some s' →
      (Sound s' ∧ Coroutines s' ∧ Subscribed names g.refs s') ∧
        subscribeLeft g.refs s' + (if runsSubscribe g.refs l then 1 else 0) + 0 ≤
          subscribeLeft g.refs s + 0 := by
    rintro s l s' ⟨hs, hc, hsub⟩ hgrants hstep
    obtain ⟨hsub', hleft⟩ := step_subscribed hc hne hsub hgrants hstep
    exact ⟨⟨step_sound hs hstep, step_coroutines hs hc hstep, hsub'⟩, by omega⟩
  have hc := exec_coroutines h
  have hlen := (hc.gathering names g hg).length
  have hstart : subscribeLeft g.refs s ≤ 5 * names.length + 1 := by
    have hle := Pool.leftOf_le g.refs s.pool.children
    simp only [subscribeLeft, hg]
    omega
  obtain ⟨⟨hs', hc', hend⟩, hcount⟩ := exec_amortized hstep
    ⟨exec_sound h, hc, .goesOn g hg rfl hfailure⟩ hgranted hrun
  cases hend with
  | goesOn g' h' hrefs hfailure' =>
    have hgrant := exists_subscribe_grant hs' hc' h' hfailure'
    rw [hrefs] at hgrant
    refine Or.inr ⟨by simp [h'], ?_, hgrant⟩
    simp only [subscribeLeft, h'] at hcount
    simp only [subscribeLeft] at hstart
    omega
  | returned h' hresults => exact Or.inl ⟨h', hresults, by omega⟩

/-- A consumer that knows its two partitions. -/
def subscribingTwo : List ConsumerLabel :=
  [.subscribe {}, .partitions (.answer (.topicPartitions ["p", "q"]))]

/-- Its registrations are granted, and the later one returns first. -/
def grantedSubscription : List ConsumerLabel :=
  [.child 0 .start {}, .child 1 .start {}, .child 1 (.answer (.address "b")) {},
    .child 1 (.answer (.registered 7)) {}, .child 0 (.answer (.address "a")) {},
    .child 0 (.answer (.registered 3)) {}, .gathered]

theorem subscribing_two_returns : ∃ s s' g,
    exec step (init (.init "a" {}) .oneRetry) subscribingTwo = some s ∧
    exec step s grantedSubscription = some s' ∧ s.subscribing = some (.gather ["p", "q"] g) ∧
    (s'.subscribing = none ∧ s'.consumers = results ["p", "q"] g.refs ∧
        grantedSubscription.countP (runsSubscribe g.refs) ≤ 5 * 2 + 1 ∨
      s'.subscribing ≠ none ∧ grantedSubscription.countP (runsSubscribe g.refs) ≤ 5 * 2 ∧
        ((step s' .gathered).isSome ∨ ∃ r ∈ g.refs, ∃ w, ∀ env, env.Works →
          GrantsSubscribe g.refs s' (.child r w env) ∧ (step s' (.child r w env)).isSome)) := by
  have hchild : ∀ (s : ConsumerState) (r : Nat) (w : Wake),
      (∀ (schemaRef : Option SchemaReference) (k : Registering), k.Granted schemaRef w) →
      GrantsSubscribe [0, 1] s (.child r w {}) := by
    rintro s r w hw r' w' env' heq -
    cases heq
    exact ⟨works_default, fun k _ => hw _ k⟩
  have hanswer : ∀ response : Response, (∀ info, response ≠ .schema info) →
      ∀ (schemaRef : Option SchemaReference) (k : Registering), k.Granted schemaRef (.answer response) :=
    fun _ hschema _ k => k.granted_answer hschema
  obtain ⟨s, s', hs, hs', hg⟩ : ∃ s s', exec step (init (.init "a" {}) .oneRetry) subscribingTwo = some s ∧
      exec step s grantedSubscription = some s' ∧
      s.subscribing = some (.gather ["p", "q"] { refs := [0, 1] }) := ⟨_, _, rfl, rfl, rfl⟩
  have hsteps : Steps step (GrantsSubscribe [0, 1]) s grantedSubscription :=
    ⟨hchild _ _ _ Registering.granted_start, fun _ _ => ⟨hchild _ _ _ Registering.granted_start, fun _ _ =>
      ⟨hchild _ _ _ (hanswer _ (by simp [Response.address])), fun _ _ =>
        ⟨hchild _ _ _ (hanswer _ (by simp)), fun _ _ =>
          ⟨hchild _ _ _ (hanswer _ (by simp [Response.address])), fun _ _ =>
            ⟨hchild _ _ _ (hanswer _ (by simp)), fun _ _ =>
              ⟨(fun _ _ _ heq => by cases heq), fun _ _ => trivial⟩⟩⟩⟩⟩⟩⟩
  exact ⟨s, s', _, hs, hs', hg, granted_subscribe_returns hs hg (by simp) rfl hs' hsteps⟩

end Consumer

end Danube
