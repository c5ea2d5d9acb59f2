import Danube.GrantedChildren
import Danube.UnmetSchema

/-!
# Calls of `create()` that are granted

A `create()` whose registrations are granted returns with the last of its coroutines.
-/

namespace Danube

open Async

namespace Producer

variable {s s' : ProducerState} {l : ProducerLabel} {refs : List Nat}

/-- If the label runs a coroutine of `refs`, it is granted what it waits for. -/
def GrantsCreate (refs : List Nat) (s : ProducerState) (l : ProducerLabel) : Prop :=
  ∀ ref w env, l = .child ref w env → ref ∈ refs →
    s.pool.GrantsChild s.config.schemaRef ref w env

/-- The label is a step of the `create()` on `refs`. -/
def runsCreate (refs : List Nat) : ProducerLabel → Bool
  | .child ref _ _ => ref ∈ refs
  | .gathered => true
  | _ => false

/-- The steps that a granted `create()` on `refs` has left. -/
def createLeft (refs : List Nat) (s : ProducerState) : Nat :=
  match s.creating with
  | some (.direct _) => Pool.leftOf refs s.pool.children
  | some (.gather _) => Pool.leftOf refs s.pool.children + 1
  | none => 0

/-- A `create()` that goes on, and nothing of which has raised. -/
structure Unfailed (c : CreateCall) (s : ProducerState) : Prop where
  creating : s.creating = some c
  failure : ∀ g, c = .gather g → g.failure = none
  raised : Pool.NoneRaised c.refs s.pool.children

/-- The `create()` on `refs` goes on, or has returned. -/
def Creating (refs : List Nat) (s : ProducerState) : Prop :=
  (∃ c, c.refs = refs ∧ Unfailed c s) ∨ s.creating = none ∧ s.producers = refs ∧ refs ≠ []

theorem unfailed_of_tended (h : Tended s) {c : CreateCall} (hc : s.creating = some c)
    (hfailure : ∀ g, c = .gather g → g.failure = none) : Unfailed c s where
  creating := hc
  failure := hfailure
  raised r hr err hraise := by
    cases c with
    | direct ref =>
      rw [Tended, hc] at h
      obtain ⟨k, hk⟩ := h
      obtain rfl : r = ref := by simpa [CreateCall.refs] using hr
      rw [hk] at hraise
      cases hraise
    | gather g =>
      rw [Tended, hc] at h
      exact h.2 r hr err hraise (hfailure g rfl)

theorem settle_eq_self {ref : Nat} (hdirect : ∀ r, s.creating = some (.direct r) →
      ∀ o, s.pool.children[r]? = some (.started o) → ∃ k, o = .await k)
    (hgather : ∀ g, s.creating = some (.gather g) → g.note ref s.pool.children[ref]? = g) :
    settle s ref = s := by
  unfold settle
  split
  · rename_i r hc
    split
    · rename_i id hid
      obtain ⟨k, hk⟩ := hdirect r hc _ hid
      cases hk
    · rename_i err herr
      obtain ⟨k, hk⟩ := hdirect r hc _ herr
      cases hk
    · rfl
  · rename_i g hc
    rw [hgather g hc, ← hc]
  · rfl

theorem other_child_creating (ht : Tended s) {c : CreateCall} (h : Unfailed c s)
    {p : Pool ProducerFields} {ref : Nat} {b : Child}
    (hp : p.children = s.pool.children.set ref b) (hr : ref ∉ c.refs) :
    Unfailed c (settle { s with pool := p } ref) ∧
      createLeft c.refs (settle { s with pool := p } ref) = createLeft c.refs s := by
  have hsame : settle { s with pool := p } ref = { s with pool := p } := by
    refine settle_eq_self (fun r hc o ho => ?_) fun g hc => Gather.note_eq_self fun hmem => ?_
    · obtain rfl : c = .direct r := Option.some.inj (h.creating.symm.trans hc)
      rw [Tended, h.creating] at ht
      obtain ⟨k, hk⟩ := ht
      have hne : ref ≠ r := by simpa [CreateCall.refs] using hr
      simp only [hp, List.getElem?_set_ne hne, hk, Option.some.injEq, Child.started.injEq] at ho
      exact ⟨k, ho.symm⟩
    · obtain rfl : c = .gather g := Option.some.inj (h.creating.symm.trans hc)
      exact (hr hmem).elim
  rw [hsame]
  refine ⟨⟨h.creating, h.failure, ?_⟩, ?_⟩
  · simp only [hp]
    exact h.raised.set fun hmem => (hr hmem).elim
  · simp only [createLeft, hp, Pool.leftOf_set_of_notMem b hr]

theorem own_child_creating {c : CreateCall} (h : Unfailed c s) {p : Pool ProducerFields} {ref : Nat}
    {b b' : Child} (hp : p.children = s.pool.children.set ref b') (hb : s.pool.children[ref]? = some b)
    (hlt : b'.left < b.left) (hraise : ∀ err, b' ≠ .started (.raise err)) (hr : ref ∈ c.refs) :
    Creating c.refs (settle { s with pool := p } ref) ∧
      createLeft c.refs (settle { s with pool := p } ref) + 1 ≤ createLeft c.refs s := by
  have hb' : p.children[ref]? = some b' := by
    rw [hp, List.getElem?_set_self (List.getElem?_eq_some_iff.mp hb).1]
  have hleft : Pool.leftOf c.refs p.children < Pool.leftOf c.refs s.pool.children := by
    rw [hp]
    exact Pool.leftOf_set_lt hr hb hlt
  have hon : Unfailed c { s with pool := p } := by
    refine ⟨h.creating, h.failure, ?_⟩
    simp only [hp]
    exact h.raised.set fun _ => hraise
  -- Where `settle` finds nothing to do, the coroutine alone has come nearer.
  have hsame : settle { s with pool := p } ref = { s with pool := p } →
      Creating c.refs (settle { s with pool := p } ref) ∧
        createLeft c.refs (settle { s with pool := p } ref) + 1 ≤ createLeft c.refs s := by
    intro heq
    rw [heq]
    refine ⟨Or.inl ⟨c, rfl, hon⟩, ?_⟩
    unfold createLeft
    dsimp only
    rw [h.creating]
    cases c with
    | direct r => exact hleft
    | gather g => exact Nat.succ_le_succ hleft
  cases c with
  | gather g =>
    refine hsame (settle_eq_self (fun r hc => ?_) fun g' hc => Gather.note_eq_self fun _ err herr => ?_)
    · cases h.creating.symm.trans hc
    · exact hraise err (Option.some.inj (hb'.symm.trans herr))
  | direct r =>
    obtain rfl : ref = r := by simpa [CreateCall.refs] using hr
    cases b' with
    | started o =>
      cases o with
      | await k =>
        refine hsame (settle_eq_self (fun r hc o ho => ?_) fun g hc => ?_)
        · obtain rfl : ref = r := by simpa using h.creating.symm.trans hc
          exact ⟨k, by simpa using ho.symm.trans hb'⟩
        · cases h.creating.symm.trans hc
      | ret id =>
        -- The one registration returned, and `create()` with it.
        have heq : settle { s with pool := p } ref =
            { s with pool := p, producers := [ref], creating := none } := by
          simp only [settle, h.creating, hb']
        rw [heq]
        refine ⟨Or.inr ⟨rfl, rfl, by simp [CreateCall.refs]⟩, ?_⟩
        simp only [createLeft, h.creating]
        omega
      | raise err => exact (hraise err rfl).elim
    | scheduled =>
      refine hsame (settle_eq_self (fun r hc o ho => ?_) fun g hc => ?_)
      · obtain rfl : ref = r := by simpa using h.creating.symm.trans hc
        simp [hb'] at ho
      · cases h.creating.symm.trans hc

/-- One step: a granted `create()` does not raise, and is nearer to its return if the step is its own. -/
theorem step_creating {l : ProducerLabel} (hs : Sound s) (ht : Tended s) (hc : Consulting s)
    (h : Creating refs s) (hg : GrantsCreate refs s l) (hstep : step s l = some s') :
    Creating refs s' ∧
      createLeft refs s' + (if runsCreate refs l then 1 else 0) ≤ createLeft refs s := by
  have hsame : runsCreate refs l = false → s'.producers = s.producers → s'.creating = s.creating →
      s'.pool.children = s.pool.children → Creating refs s' ∧
        createLeft refs s' + (if runsCreate refs l then 1 else 0) ≤ createLeft refs s := by
    intro hl hproducers hcreating hchildren
    refine ⟨?_, by simp [createLeft, hl, hcreating, hchildren]⟩
    obtain ⟨c, rfl, hunfailed⟩ | hreturned := h
    · exact Or.inl ⟨c, rfl, hcreating.trans hunfailed.creating, hunfailed.failure,
        by rw [hchildren]; exact hunfailed.raised⟩
    · exact Or.inr ⟨hcreating.trans hreturned.1, hproducers.trans hreturned.2.1, hreturned.2.2⟩
  cases l with
  | create env =>
    -- No second `create()` starts: this one goes on, or has left a producer.
    obtain ⟨hnone, hnil, -⟩ := create_eq_some hstep
    obtain ⟨c, rfl, hunfailed⟩ | ⟨-, hproducers, hne⟩ := h
    · cases hnone.symm.trans hunfailed.creating
    · exact (hne (hproducers.symm.trans hnil)).elim
  | child ref w env =>
    obtain ⟨p, hp, rfl⟩ := Option.map_eq_some_iff.mp hstep
    obtain ⟨c, rfl, hunfailed⟩ | ⟨hnone, hproducers, hne⟩ := h
    · by_cases hr : ref ∈ c.refs
      · obtain ⟨b, b', hb, hset, hlt, hraise⟩ := Pool.child_nears hc.pool (hg ref w env rfl hr) hp
        simpa [runsCreate, hr] using own_child_creating hunfailed hset hb hlt hraise hr
      · obtain ⟨c₀, sc, ran, -, -, -, hpool⟩ := Pool.child_eq_some.mp hp
        have hchildren : p.children = s.pool.children.set ref (.started ran.next) := by rw [hpool]
        obtain ⟨hon, hleft⟩ := other_child_creating ht hunfailed hchildren hr
        exact ⟨Or.inl ⟨c, rfl, hon⟩, by simp [runsCreate, hr, hleft]⟩
    · have heq : settle { s with pool := p } ref = { s with pool := p } :=
        settle_eq_self (fun r hr => by cases hnone.symm.trans hr) fun g hr => by cases hnone.symm.trans hr
      have hr : ref ∉ refs := by
        intro hmem
        obtain ⟨id, hid⟩ := hs.producers ref (hproducers ▸ hmem)
        obtain ⟨c₀, sc, ran, hc₀, -, hran, -⟩ := Pool.child_eq_some.mp hp
        rw [hid] at hc₀
        cases hc₀
        -- A coroutine that has returned runs no piece.
        rcases Pool.childPiece_cases hran with ⟨hx, -⟩ | ⟨k, hx, -⟩ <;> cases hx
      rw [heq]
      exact ⟨Or.inr ⟨hnone, hproducers, hne⟩, by simp [createLeft, runsCreate, hr, hnone]⟩
  | gathered =>
    obtain ⟨g, hcreating, hend⟩ := gathered_eq_some hstep
    obtain ⟨c, rfl, hunfailed⟩ | ⟨hnone, -⟩ := h
    · obtain rfl : c = .gather g := Option.some.inj (hunfailed.creating.symm.trans hcreating)
      obtain ⟨hsome, -⟩ | ⟨-, -, rfl⟩ := hend
      · simp [hunfailed.failure g rfl] at hsome
      · rw [Tended, hcreating] at ht
        exact ⟨Or.inr ⟨rfl, rfl, ht.1⟩, by simp [createLeft, runsCreate, hcreating]⟩
    · cases hnone.symm.trans hcreating
  | send | sending | health | close =>
    obtain ⟨hproducers, hcreating, hchildren⟩ := step_serves hstep fun h => h
    exact hsame rfl hproducers hcreating hchildren

theorem exists_create_grant (hs : Sound s) (hplaced : Placed s) (ht : Tended s) (hc : Consulting s)
    {c : CreateCall} (h : Unfailed c s) :
    (step s .gathered).isSome ∨ ∃ r ∈ c.refs, ∃ w, ∀ env, env.Works →
      GrantsCreate c.refs s (.child r w env) ∧ (step s (.child r w env)).isSome := by
  have hgrant : ∀ {r : Nat} {b : Child}, r ∈ c.refs → s.pool.children[r]? = some b → 0 < b.left →
      ∃ r ∈ c.refs, ∃ w, ∀ env, env.Works →
        GrantsCreate c.refs s (.child r w env) ∧ (step s (.child r w env)).isSome := by
    intro r b hr hb hleft
    obtain ⟨w, hw⟩ := Pool.exists_grant hc.pool hs.pool hb hleft
    refine ⟨r, hr, w, fun env henv => ⟨?_, by simpa [step] using (hw env henv).2⟩⟩
    rintro r' w' env' heq -
    cases heq
    exact (hw env henv).1
  cases c with
  | direct r =>
    rw [Tended, h.creating] at ht
    obtain ⟨k, hk⟩ := ht
    exact Or.inr (hgrant (by simp [CreateCall.refs]) hk k.left_pos)
  | gather g =>
    have hlt : ∀ r ∈ g.refs, r < s.pool.children.length := by
      intro r hr
      obtain ⟨i, hi⟩ := List.mem_iff_getElem?.mp hr
      obtain ⟨e, he, -⟩ := (hplaced.creating _ h.creating).entries i r hi
      exact hs.pool.length ▸ (List.getElem?_eq_some_iff.mp he).1
    rcases Pool.returned_or_waits hlt h.raised with hall | ⟨r, hr, b, hb, hleft⟩
    · exact Or.inl (by simp [step, gathered, h.creating, h.failure g rfl, hall])
    · exact Or.inr (hgrant hr hb hleft)

/-- From any point of a `create()` of which nothing has raised, and in every run in which its registrations
are granted, `create()` returns after at most five pieces for each partition and the end of its `gather`,
with all its `TopicProducer`s. Until then it can be granted what it waits for. -/
theorem granted_create_returns {client : Client} {config : ProducerConfig} {ls run : List ProducerLabel}
    (h : exec step (init client config) ls = some s) {c : CreateCall} (hc : s.creating = some c)
    (hfailure : ∀ g, c = .gather g → g.failure = none) (hrun : exec step s run = some s')
    (hgranted : Steps step (GrantsCreate c.refs) s run) :
    c.refs.length = max config.partitions 1 ∧
      (s'.creating = none ∧ s'.producers = c.refs ∧
          run.countP (runsCreate c.refs) ≤ 5 * c.refs.length + 1 ∨
        s'.creating ≠ none ∧ run.countP (runsCreate c.refs) ≤ 5 * c.refs.length ∧
          ((step s' .gathered).isSome ∨ ∃ r ∈ c.refs, ∃ w, ∀ env, env.Works →
            GrantsCreate c.refs s' (.child r w env) ∧ (step s' (.child r w env)).isSome)) := by
  have hstep : ∀ s l s',
      (Sound s ∧ Placed s ∧ Tended s ∧ Consulting s ∧ Creating c.refs s) → GrantsCreate c.refs s l →
      step s l = some s' → (Sound s' ∧ Placed s' ∧ Tended s' ∧ Consulting s' ∧ Creating c.refs s') ∧
        createLeft c.refs s' + (if runsCreate c.refs l then 1 else 0) + 0 ≤ createLeft c.refs s + 0 := by
    rintro s l s' ⟨hs, hp, ht, hcon, hcreating⟩ hg hstep
    obtain ⟨hcreating', hleft⟩ := step_creating hs ht hcon hcreating hg hstep
    exact ⟨⟨step_sound hs hstep, step_placed hs hp hstep, step_tended hs ht hstep,
      step_consulting hs hcon hstep, hcreating'⟩, by omega⟩
  obtain ⟨hs, hplaced⟩ := exec_placed h
  have htended : Tended s := (exec_invariant (P := fun s => Sound s ∧ Tended s)
    (fun _ _ _ hs hstep => ⟨step_sound hs.1 hstep, step_tended hs.1 hs.2 hstep⟩)
    ⟨sound_init client config, trivial⟩ h).2
  obtain ⟨base, hrange⟩ := (hplaced.creating c hc).range
  have hlen : c.refs.length = max config.partitions 1 := by
    rw [hrange, List.length_range', exec_config h]
  refine ⟨hlen, ?_⟩
  have hstart : createLeft c.refs s ≤ 5 * c.refs.length + 1 := by
    have hle := Pool.leftOf_le c.refs s.pool.children
    unfold createLeft
    split <;> omega
  -- The potential is what the coroutines have left.
  obtain ⟨⟨hs', hplaced', ht', hcon', hend⟩, hcount⟩ := exec_amortized hstep
    ⟨hs, hplaced, htended, exec_consulting h, Or.inl ⟨c, rfl, unfailed_of_tended htended hc hfailure⟩⟩
    hgranted hrun
  obtain ⟨c', hrefs, hunfailed⟩ | ⟨hnone, hproducers, -⟩ := hend
  · have hgrant := exists_create_grant hs' hplaced' ht' hcon' hunfailed
    rw [hrefs] at hgrant
    refine Or.inr ⟨by simp [hunfailed.creating], ?_, hgrant⟩
    -- A call that goes on has something left.
    have hpos : 0 < createLeft c.refs s' := by
      unfold createLeft
      rw [hunfailed.creating]
      cases c' with
      | gather g => exact Nat.succ_pos _
      | direct r =>
        rw [Tended, hunfailed.creating] at ht'
        obtain ⟨k, hk⟩ := ht'
        have hpos := k.left_pos
        dsimp only
        rw [← hrefs]
        simpa [CreateCall.refs, Pool.leftOf, hk, Child.left] using hpos
    omega
  · exact Or.inl ⟨hnone, hproducers, by omega⟩

/-- Two partitions, whose `create()` has begun. -/
def creatingTwo : List ProducerLabel := [.create {}]

/-- Its registrations are granted, and the later one returns first. -/
def grantedCreation : List ProducerLabel :=
  [.child 0 .start {}, .child 1 .start {}, .child 1 (.answer (.address "b")) {},
    .child 1 (.answer (.registered 7)) {}, .child 0 (.answer (.address "a")) {},
    .child 0 (.answer (.registered 3)) {}, .gathered]

theorem creating_two_returns : ∃ s s' c,
    exec step (init (.init "a" {}) { topicName := "t", producerName := "p", partitions := 2 })
      creatingTwo = some s ∧
    exec step s grantedCreation = some s' ∧ s.creating = some c ∧ c.refs.length = max 2 1 ∧
    (s'.creating = none ∧ s'.producers = c.refs ∧
        grantedCreation.countP (runsCreate c.refs) ≤ 5 * c.refs.length + 1 ∨
      s'.creating ≠ none ∧ grantedCreation.countP (runsCreate c.refs) ≤ 5 * c.refs.length ∧
        ((step s' .gathered).isSome ∨ ∃ r ∈ c.refs, ∃ w, ∀ env, env.Works →
          GrantsCreate c.refs s' (.child r w env) ∧ (step s' (.child r w env)).isSome)) := by
  have hchild : ∀ (s : ProducerState) (r : Nat) (w : Wake),
      (∀ (schemaRef : Option SchemaReference) (k : Registering), k.Granted schemaRef w) →
      GrantsCreate [0, 1] s (.child r w {}) := by
    rintro s r w hw r' w' env' heq -
    cases heq
    exact ⟨works_default, fun k _ => hw _ k⟩
  have hanswer : ∀ response : Response, (∀ info, response ≠ .schema info) →
      ∀ (schemaRef : Option SchemaReference) (k : Registering), k.Granted schemaRef (.answer response) :=
    fun _ hschema _ k => k.granted_answer hschema
  obtain ⟨s, s', hs, hs', hc⟩ : ∃ s s', exec step
      (init (.init "a" {}) { topicName := "t", producerName := "p", partitions := 2 }) creatingTwo =
        some s ∧ exec step s grantedCreation = some s' ∧
      s.creating = some (.gather { refs := [0, 1] }) := ⟨_, _, rfl, rfl, rfl⟩
  have hsteps : Steps step (GrantsCreate [0, 1]) s grantedCreation :=
    ⟨hchild _ _ _ Registering.granted_start, fun _ _ => ⟨hchild _ _ _ Registering.granted_start, fun _ _ =>
      ⟨hchild _ _ _ (hanswer _ (by simp [Response.address])), fun _ _ =>
        ⟨hchild _ _ _ (hanswer _ (by simp)), fun _ _ =>
          ⟨hchild _ _ _ (hanswer _ (by simp [Response.address])), fun _ _ =>
            ⟨hchild _ _ _ (hanswer _ (by simp)), fun _ _ =>
              ⟨(fun _ _ _ heq => by cases heq), fun _ _ => trivial⟩⟩⟩⟩⟩⟩⟩
  have hfailure : ∀ g, CreateCall.gather { refs := [0, 1] } = .gather g → g.failure = none := by
    rintro g heq
    cases heq
    rfl
  exact ⟨s, s', _, hs, hs', hc, granted_create_returns hs hc hfailure hs' hsteps⟩

end Producer

end Danube
