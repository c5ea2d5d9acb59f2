import Danube.ProducerTrace

/-!
# The partitions of a producer

`create()` binds entry `i` of `_producers` to partition `i`, whatever the order in which the
coroutines of its `gather` end.
-/

namespace Danube

open Async

/-! ## The topics of partitions -/

def partitionTopic (topic : String) (pid : Nat) : String := s!"{topic}-part-{pid}"

def partitionName (name : String) (pid : Nat) : String := s!"{name}-{pid}"

theorem eq_of_append_sep {α : Type} {sep : α} {a b d e : List α} (hd : sep ∉ d) (he : sep ∉ e)
    (h : a ++ sep :: d = b ++ sep :: e) : a = b ∧ d = e := by
  rcases List.append_eq_append_iff.mp h with ⟨c, rfl, hc⟩ | ⟨c, rfl, hc⟩
  · cases c with
    | nil => simpa using hc
    | cons x xs =>
      simp only [List.cons_append, List.cons.injEq] at hc
      exact (hd (hc.2 ▸ by simp)).elim
  · cases c with
    | nil => simpa using hc.symm
    | cons x xs =>
      simp only [List.cons_append, List.cons.injEq] at hc
      exact (he (hc.2 ▸ by simp)).elim

theorem dash_notMem_digits (n : Nat) : '-' ∉ Nat.toDigits 10 n := by
  intro h
  have hdigit := Nat.isDigit_of_mem_toDigits (by decide) (by decide) h
  simp at hdigit

theorem toDigits_injective {m n : Nat} (h : Nat.toDigits 10 m = Nat.toDigits 10 n) : m = n := by
  have hm := Nat.ofDigitChars_toDigits (b := 10) (n := m) (by decide) (by decide)
  rw [h, Nat.ofDigitChars_toDigits (by decide) (by decide)] at hm
  exact hm.symm

theorem partitionTopic_inj {topic topic' : String} {i j : Nat}
    (h : partitionTopic topic i = partitionTopic topic' j) : topic = topic' ∧ i = j := by
  have hchars : ∀ (t : String) (n : Nat), (partitionTopic t n).toList =
      (t.toList ++ "-part".toList) ++ '-' :: Nat.toDigits 10 n := by
    intro t n
    simp [partitionTopic, toString]
  have hlist := congrArg String.toList h
  rw [hchars, hchars] at hlist
  obtain ⟨hfront, hdigits⟩ :=
    eq_of_append_sep (dash_notMem_digits i) (dash_notMem_digits j) hlist
  exact ⟨String.toList_injective (List.append_cancel_right hfront), toDigits_injective hdigits⟩

/-! ## Endpoints keep their topics and names -/

namespace Pool

variable {ρ κ α : Type}

/-- The endpoints of `p` are there in `q`, with the topics and names that they were built with. -/
def KeepsNames (p q : Pool ρ) : Prop :=
  ∀ (r : Nat) (e : Endpoint ρ), p.endpoints[r]? = some e →
    ∃ e' : Endpoint ρ, q.endpoints[r]? = some e' ∧ e'.topic = e.topic ∧ e'.name = e.name

theorem KeepsNames.refl (p : Pool ρ) : p.KeepsNames p := fun _ e he => ⟨e, he, rfl, rfl⟩

theorem KeepsNames.trans {p q r : Pool ρ} (h : p.KeepsNames q) (k : q.KeepsNames r) :
    p.KeepsNames r := by
  intro i e he
  obtain ⟨e', he', htopic, hname⟩ := h i e he
  obtain ⟨e'', he'', htopic', hname'⟩ := k i e' he'
  exact ⟨e'', he'', htopic'.trans htopic, hname'.trans hname⟩

theorem KeepsNames.length_le {p q : Pool ρ} (h : p.KeepsNames q) :
    p.endpoints.length ≤ q.endpoints.length := by
  refine Nat.le_of_not_lt fun hlt => ?_
  obtain ⟨e, he, -⟩ := h q.endpoints.length _ (List.getElem?_eq_getElem hlt)
  rw [List.getElem?_eq_none (Nat.le_refl _)] at he
  cases he

theorem commit_keepsNames {p : Pool ρ} {ref : Nat} {s : Scope ρ} {ran : Piece ρ κ α}
    (hs : p.scope ref = some s) (hj : Piece.Journaled s ran) (actor : Actor)
    (children : List Child) : p.KeepsNames { p.commit actor ran with children := children } := by
  obtain ⟨hself, -, -, href⟩ := scope_eq_some.mp hs
  have href' : ran.state.ref = ref := hj.ref.trans href
  intro r e he
  simp only [commit, href']
  by_cases hr : ref = r
  · subst hr
    obtain rfl : s.self = e := Option.some.inj (hself.symm.trans he)
    refine ⟨ran.state.self, ?_, hj.topic, hj.name⟩
    exact List.getElem?_set_self (List.getElem?_eq_some_iff.mp he).1
  · exact ⟨e, by rw [List.getElem?_set_ne hr, he], rfl, rfl⟩

theorem alloc_keepsNames (p : Pool ρ) (es : List (Endpoint ρ)) : p.KeepsNames (p.alloc es) := by
  intro r e he
  refine ⟨e, ?_, rfl, rfl⟩
  rw [alloc, List.getElem?_append_left (List.getElem?_eq_some_iff.mp he).1, he]

theorem child_keepsNames {role : Role ρ} {p q : Pool ρ} {ref : Nat} {w : Wake} {env : Env}
    (hq : p.child role ref w env = some q) : p.KeepsNames q := by
  obtain ⟨c, s, ran, -, hs, hran, rfl⟩ := child_eq_some.mp hq
  exact commit_keepsNames hs (childPiece_journaled hran) (.child ref) _

theorem health_keepsNames {p q : Pool ρ} {task : Nat} {w : Wake} {env : Env}
    (hq : p.health task w env = some q) : p.KeepsNames q := by
  obtain ⟨l, e, c, pos, log, stop, -, -, -, -, rfl⟩ := health_eq_some hq
  intro r x hx
  cases stop
  · exact ⟨x, hx, rfl, rfl⟩
  · simp only [checked, if_true, List.getElem?_modify, hx]
    split
    · exact ⟨_, rfl, rfl, rfl⟩
    · exact ⟨_, rfl, rfl, rfl⟩

theorem stop_keepsNames (p : Pool ρ) (ref : Nat) : p.KeepsNames (p.stop ref) := by
  intro r x hx
  unfold stop
  split
  · exact ⟨x, hx, rfl, rfl⟩
  · rename_i e he
    by_cases hr : ref = r
    · subst hr
      obtain rfl : e = x := Option.some.inj (he.symm.trans hx)
      exact ⟨e.stop, List.getElem?_set_self (List.getElem?_eq_some_iff.mp he).1, rfl, rfl⟩
    · exact ⟨x, by simp only [List.getElem?_set_ne hr, hx], rfl, rfl⟩

theorem foldl_stop_keepsNames (refs : List Nat) (p : Pool ρ) :
    p.KeepsNames (refs.foldl stop p) := by
  induction refs generalizing p with
  | nil => exact .refl p
  | cons r rs ih => exact (stop_keepsNames p r).trans (ih (p.stop r))

end Pool

/-- A producer of a partitioned topic that retries once. -/
def ProducerConfig.partitioned (n : Nat) : ProducerConfig := { oneRetry none with partitions := n }

namespace Producer

/-- The topic of entry `i` of `_producers`. -/
def topicOf (config : ProducerConfig) (i : Nat) : String :=
  if config.partitions = 0 then config.topicName else partitionTopic config.topicName i

def nameOf (config : ProducerConfig) (i : Nat) : String :=
  if config.partitions = 0 then config.producerName else partitionName config.producerName i

/-! ## The array that the coroutines fill -/

/-- `producers[idx] = tp`, at the end of the coroutine of one partition. -/
def createOne (refs : List Nat) (producers : List (Option Nat)) (x : Entry) : List (Option Nat) :=
  match x.actor, x.event with
  | .child ref, .created _ =>
    match refs.idxOf? ref with
    | some idx => producers.set idx (some ref)
    | none => producers
  | _, _ => producers

/-- The array `producers` of a `create()` call that built `refs`, from `[None] * partitions` on. -/
def resultArray (refs : List Nat) (trace : List Entry) : List (Option Nat) :=
  trace.foldl (createOne refs) (List.replicate refs.length none)

/-- The coroutine of `ref` returned here. -/
def returnsHere (ref : Nat) (x : Entry) : Bool :=
  match x.actor, x.event with
  | .child r, .created _ => r = ref
  | _, _ => false

theorem createOne_length (refs : List Nat) (producers : List (Option Nat)) (x : Entry) :
    (createOne refs producers x).length = producers.length := by
  unfold createOne
  split
  · split
    · simp
    · rfl
  · rfl

theorem resultArray_length (refs : List Nat) (trace : List Entry) :
    (resultArray refs trace).length = refs.length := by
  induction trace using List.reverseRecOn with
  | nil => simp [resultArray]
  | append_singleton trace x ih =>
    unfold resultArray at ih ⊢
    rw [List.foldl_append, List.foldl_cons, List.foldl_nil, createOne_length, ih]

theorem createOne_entry {refs : List Nat} (hnodup : refs.Nodup) {producers : List (Option Nat)}
    (hlen : producers.length = refs.length) (x : Entry) {i ref : Nat} (hi : refs[i]? = some ref) :
    (createOne refs producers x)[i]? =
      if returnsHere ref x then some (some ref) else producers[i]? := by
  obtain ⟨hlt, hget⟩ := List.getElem?_eq_some_iff.mp hi
  unfold createOne returnsHere
  split
  · rename_i r id hactor hevent
    cases hidx : refs.idxOf? r with
    | none =>
      have hne : r ≠ ref := by
        rintro rfl
        exact List.idxOf?_eq_none_iff.mp hidx (List.mem_of_getElem? hi)
      simp [hne]
    | some idx =>
      obtain ⟨hlt', hget', -⟩ := List.idxOf?_eq_some_iff.mp hidx
      by_cases hr : r = ref
      · have heq : idx = i := (List.Nodup.getElem_inj_iff hnodup).mp (by rw [hget', hget, hr])
        subst heq
        simp [hr, hlen, hlt]
      · have hne : idx ≠ i := by
          rintro rfl
          exact hr (hget'.symm.trans hget)
        simp [hr, hne]
  · rfl

theorem resultArray_entry {refs : List Nat} (hnodup : refs.Nodup) (trace : List Entry) {i ref : Nat}
    (hi : refs[i]? = some ref) :
    (resultArray refs trace)[i]? =
      some (if trace.any (returnsHere ref) then some ref else none) := by
  induction trace using List.reverseRecOn with
  | nil =>
    have hlt := (List.getElem?_eq_some_iff.mp hi).1
    simp [resultArray, hlt]
  | append_singleton trace x ih =>
    have hlen := resultArray_length refs trace
    unfold resultArray at ih hlen ⊢
    rw [List.foldl_append, List.foldl_cons, List.foldl_nil, createOne_entry hnodup hlen x hi, ih]
    cases hx : returnsHere ref x <;> simp [hx]

theorem resultArray_filled {refs : List Nat} (hnodup : refs.Nodup) {trace : List Entry}
    (hall : ∀ ref ∈ refs, trace.any (returnsHere ref) = true) :
    resultArray refs trace = refs.map some := by
  refine List.ext_getElem? fun i => ?_
  cases hi : refs[i]? with
  | none =>
    have hlen := resultArray_length refs trace
    have hge := List.getElem?_eq_none_iff.mp hi
    rw [List.getElem?_eq_none (by omega), List.getElem?_eq_none (by simpa using hge)]
  | some ref =>
    rw [resultArray_entry hnodup trace hi, if_pos (hall ref (List.mem_of_getElem? hi))]
    simp [hi]

/-! ## What `create()` leaves behind -/

/-- The endpoints of a `create()` call are bound to its partitions, in order. -/
structure Bound (s : ProducerState) (refs : List Nat) : Prop where
  range : ∃ base, refs = List.range' base (max s.config.partitions 1)
  entries : ∀ i ref, refs[i]? = some ref → ∃ e, s.pool.endpoints[ref]? = some e ∧
    e.topic = topicOf s.config i ∧ e.name = nameOf s.config i

theorem Bound.mono {s s' : ProducerState} {refs : List Nat} (h : Bound s refs)
    (hconfig : s'.config = s.config) (hnames : s.pool.KeepsNames s'.pool) : Bound s' refs where
  range := by rw [hconfig]; exact h.range
  entries i ref hi := by
    obtain ⟨e, he, htopic, hname⟩ := h.entries i ref hi
    obtain ⟨e', he', htopic', hname'⟩ := hnames ref e he
    rw [hconfig]
    exact ⟨e', he', htopic'.trans htopic, hname'.trans hname⟩

/-- A coroutine that returned has said so. -/
def SaysReturned (p : Pool ProducerFields) : Prop :=
  ∀ (r : Nat) id, p.children[r]? = some (.started (.ret id)) → p.trace.any (returnsHere r) = true

/-- A router is there for a partitioned topic, once `create()` got to it. -/
structure Routed (s : ProducerState) : Prop where
  unpartitioned : s.config.partitions = 0 → s.router = none
  partitions : ∀ r, s.router = some r → r.partitions = s.config.partitions
  there : s.config.partitions ≠ 0 → s.creating ≠ none ∨ s.producers ≠ [] → s.router ≠ none

structure Placed (s : ProducerState) : Prop where
  creating : ∀ c, s.creating = some c → Bound s c.refs
  producers : s.producers ≠ [] → Bound s s.producers
  returned : SaysReturned s.pool
  routed : Routed s

theorem note_refs (g : Gather) (ref : Nat) (c : Option Child) : (g.note ref c).refs = g.refs := by
  unfold Gather.note
  split
  · split <;> rfl
  · rfl

theorem settle_cases (s : ProducerState) (ref : Nat) :
    ∃ c ps, settle s ref = { s with creating := c, producers := ps } ∧
      (∀ x, c = some x → ∃ y, s.creating = some y ∧ x.refs = y.refs) ∧
      (ps = s.producers ∨ ∃ y, s.creating = some y ∧ ps = y.refs) := by
  unfold settle
  split
  · rename_i r hc
    split
    · exact ⟨none, [r], rfl, by simp, Or.inr ⟨_, hc, rfl⟩⟩
    · exact ⟨none, s.producers, rfl, by simp, Or.inl rfl⟩
    · exact ⟨s.creating, s.producers, rfl, fun x hx => ⟨x, hx, rfl⟩, Or.inl rfl⟩
  · rename_i g hc
    refine ⟨_, s.producers, rfl, fun x hx => ⟨_, hc, ?_⟩, Or.inl rfl⟩
    rw [← Option.some.inj hx]
    exact note_refs g ref _
  · rename_i hc
    exact ⟨none, s.producers, by rw [← hc], by simp, Or.inl rfl⟩

theorem step_keepsNames {s s' : ProducerState} {l : ProducerLabel} (hstep : step s l = some s') :
    s.pool.KeepsNames s'.pool := by
  cases l with
  | create env =>
    obtain ⟨-, -, ⟨-, p, hp, rfl⟩ | ⟨hpos, rfl⟩⟩ := create_eq_some hstep
    · rw [settle_pool]
      exact (Pool.alloc_keepsNames s.pool _).trans (Pool.child_keepsNames hp)
    · exact Pool.alloc_keepsNames s.pool _
  | child ref w env =>
    obtain ⟨p, hp, rfl⟩ := Option.map_eq_some_iff.mp hstep
    rw [settle_pool]
    exact Pool.child_keepsNames hp
  | gathered =>
    obtain ⟨g, -, ⟨-, rfl⟩ | ⟨-, -, rfl⟩⟩ := gathered_eq_some hstep <;> exact .refl _
  | send data attributes routingKey env =>
    obtain ⟨-, p, r, t, -, -, ⟨-, rfl⟩ | ⟨ref, sc, -, hsc, rfl⟩⟩ := send_eq_some hstep
    · exact .refl _
    · exact Pool.commit_keepsNames hsc (sendAttempt_journaled env t.call 0 sc) (.send _) _
  | sending task w env =>
    obtain ⟨t, ref, sc, k, ran, -, -, hsc, -, hran, rfl⟩ := sending_eq_some.mp hstep
    exact Pool.commit_keepsNames hsc (sendResume_journaled env hran) (.send task) _
  | health task w env =>
    obtain ⟨p, hp, rfl⟩ := Option.map_eq_some_iff.mp hstep
    exact Pool.health_keepsNames hp
  | close =>
    cases hstep
    exact Pool.foldl_stop_keepsNames s.producers s.pool

theorem step_saysReturned {s s' : ProducerState} {l : ProducerLabel} (hs : Sound s)
    (h : SaysReturned s.pool) (hstep : step s l = some s') : SaysReturned s'.pool := by
  have hgrow : ∀ {log : List Entry}, s'.pool.trace = s.pool.trace ++ log → ∀ {r : Nat},
      s.pool.trace.any (returnsHere r) = true → s'.pool.trace.any (returnsHere r) = true := by
    intro log htrace r hr
    rw [htrace, List.any_append, hr, Bool.true_or]
  have hkeep : ∀ {log : List Entry}, s'.pool.trace = s.pool.trace ++ log →
      s'.pool.children = s.pool.children → SaysReturned s'.pool := by
    intro log htrace hchildren r id hr
    exact hgrow htrace (h r id (hchildren ▸ hr))
  cases step_writes hs hstep with
  | silent l hl htrace hsends hchildren =>
    intro r id hr
    rw [htrace]
    exact h r id ((hchildren r _).mp hr)
  | child l hl p hp ref log hlog htrace hchildren hothers hsends =>
    intro r id hr
    by_cases hne : r = ref
    · subst hne
      -- The piece that returned wrote so.
      have hend : ∀ o log, s'.pool.children[r]? = some (.started o) → CallLog o log →
          ∃ id, .created id ∈ log := by
        rintro o log ho ⟨inner, tail, rfl, -, htail⟩
        rw [hr, Option.some.injEq, Child.started.injEq] at ho
        subst ho
        obtain ⟨id', rfl⟩ := htail
        exact ⟨id', by simp⟩
      have hmem : ∃ id, .created id ∈ log := by
        cases hlog with
        | starts log o hfresh hcall hasking ho =>
          obtain ⟨id', hid'⟩ := hend o log ho hcall
          exact ⟨id', List.mem_cons_of_mem _ hid'⟩
        | resumes k log o hk hcall hasking ho => exact hend o log ho hcall
      obtain ⟨id', hid'⟩ := hmem
      rw [htrace, List.any_append, Bool.or_eq_true]
      right
      refine List.any_eq_true.mpr ⟨⟨.child r, r, .created id'⟩, ?_, by simp [returnsHere]⟩
      exact List.mem_map.mpr ⟨_, hid', rfl⟩
    · rw [hothers r hne] at hr
      exact hgrow htrace (h r id ((hchildren r _).mp hr))
  | outOfRange data attributes routingKey env hr htrace hchildren t hsends err ht =>
    exact hkeep (htrace.trans (List.append_nil _).symm) hchildren
  | attempt data attributes routingKey env ref hr sc hsc log t ht hatt htrace hchildren hsends =>
    exact hkeep htrace hchildren
  | sending task w env t ht ref hr sc hsc k hk c log o hres htrace hchildren hsends =>
    exact hkeep htrace hchildren
  | health task w env l hl stopEvent position log stop hchecks htrace hchildren hsends =>
    exact hkeep htrace hchildren
  | close log hlog htrace hchildren hsends => exact hkeep htrace hchildren

theorem bound_direct {s : ProducerState} (hzero : s.config.partitions = 0) {p : Pool ProducerFields}
    (hp : (s.pool.alloc [topicProducer s s.config.topicName s.config.producerName]).KeepsNames p)
    {s' : ProducerState} (hpool : s'.pool = p) (hconfig : s'.config = s.config) :
    Bound s' [s.pool.endpoints.length] where
  range := ⟨s.pool.endpoints.length, by simp [hconfig, hzero]⟩
  entries i ref hi := by
    obtain ⟨rfl, rfl⟩ : i = 0 ∧ s.pool.endpoints.length = ref := by
      cases i with
      | zero => simpa using hi
      | succ i => simp at hi
    obtain ⟨e, he, htopic, hname⟩ := hp s.pool.endpoints.length
      (topicProducer s s.config.topicName s.config.producerName) (by simp [Pool.alloc])
    refine ⟨e, hpool ▸ he, htopic.trans ?_, hname.trans ?_⟩ <;>
      simp [topicOf, nameOf, hconfig, hzero, topicProducer, TopicProducer.init]

theorem bound_gather {s : ProducerState} (hpos : 0 < s.config.partitions) {s' : ProducerState}
    (hpool : s'.pool = s.pool.alloc (partitionProducers s)) (hconfig : s'.config = s.config) :
    Bound s' (List.range' s.pool.endpoints.length s.config.partitions) where
  range := ⟨s.pool.endpoints.length, by rw [hconfig, Nat.max_eq_left (by omega)]⟩
  entries i ref hi := by
    obtain ⟨hlt, rfl⟩ : i < s.config.partitions ∧ s.pool.endpoints.length + i = ref := by
      simpa [List.getElem?_eq_some_iff] using hi
    have hne : s.config.partitions ≠ 0 := by omega
    refine ⟨topicProducer s (partitionTopic s.config.topicName i)
      (partitionName s.config.producerName i), ?_, ?_, ?_⟩
    · rw [hpool, Pool.alloc, List.getElem?_append_right (by omega)]
      simp [partitionProducers, hlt, partitionTopic, partitionName]
    · simp [topicOf, hconfig, hne, topicProducer, TopicProducer.init]
    · simp [nameOf, hconfig, hne, topicProducer, TopicProducer.init]

theorem step_bound {s s' : ProducerState} {l : ProducerLabel} (h : Placed s)
    (hstep : step s l = some s') :
    (∀ c, s'.creating = some c → Bound s' c.refs) ∧
      (s'.producers ≠ [] → Bound s' s'.producers) := by
  have hmono : ∀ {refs}, Bound s refs → Bound s' refs := fun hb =>
    hb.mono (step_config hstep) (step_keepsNames hstep)
  have hsame : s'.creating = s.creating → s'.producers = s.producers →
      (∀ c, s'.creating = some c → Bound s' c.refs) ∧
        (s'.producers ≠ [] → Bound s' s'.producers) := by
    intro hc hp
    rw [hc, hp]
    exact ⟨fun c hc => hmono (h.creating c hc), fun hne => hmono (h.producers hne)⟩
  cases l with
  | create env =>
    obtain ⟨-, hnil, ⟨hzero, p, hp, rfl⟩ | ⟨hpos, rfl⟩⟩ := create_eq_some hstep
    · -- No partitions: the registration may even return in the call.
      obtain ⟨c, ps, heq, hc, hps⟩ := settle_cases
        { s with pool := p, creating := some (.direct s.pool.endpoints.length) }
        s.pool.endpoints.length
      have hbound : Bound (settle
          { s with pool := p, creating := some (.direct s.pool.endpoints.length) }
          s.pool.endpoints.length) [s.pool.endpoints.length] :=
        bound_direct hzero (Pool.child_keepsNames hp) (settle_pool _ _) (settle_config _ _)
      rw [heq] at hbound ⊢
      constructor
      · rintro x rfl
        obtain ⟨y, hy, hrefs⟩ := hc x rfl
        rw [hrefs, ← Option.some.inj hy]
        exact hbound
      · intro hne
        rcases hps with rfl | ⟨y, hy, rfl⟩
        · exact (hne hnil).elim
        · cases hy
          exact hbound
    · -- The partitions get their endpoints, in order.
      refine ⟨fun c hc => ?_, fun hne => (hne hnil).elim⟩
      rw [← Option.some.inj hc]
      exact bound_gather hpos rfl rfl
  | child ref w env =>
    obtain ⟨p, hp, rfl⟩ := Option.map_eq_some_iff.mp hstep
    obtain ⟨c, ps, heq, hc, hps⟩ := settle_cases { s with pool := p } ref
    rw [heq] at hmono ⊢
    constructor
    · rintro x rfl
      obtain ⟨y, hy, hrefs⟩ := hc x rfl
      rw [hrefs]
      exact hmono (h.creating y hy)
    · intro hne
      rcases hps with rfl | ⟨y, hy, rfl⟩
      · exact hmono (h.producers hne)
      · exact hmono (h.creating y hy)
  | gathered =>
    obtain ⟨g, hg, ⟨-, rfl⟩ | ⟨-, -, rfl⟩⟩ := gathered_eq_some hstep
    · exact ⟨by simp, fun hne => hmono (h.producers hne)⟩
    · exact ⟨by simp, fun _ => hmono (h.creating _ hg)⟩
  | send | sending | health | close =>
    obtain ⟨hproducers, hcreating, -⟩ := step_serves hstep fun h => h
    exact hsame hcreating hproducers

theorem selectPartition_router (s : ProducerState) (routingKey : Option String) :
    (selectPartition s routingKey).2.map MessageRouter.partitions =
      s.router.map MessageRouter.partitions := by
  unfold selectPartition
  split
  · rename_i r hr
    rw [hr]
    split
    · split <;> rfl
    · rfl
  · rename_i hr
    rw [hr]

theorem Routed.congr {s s' : ProducerState} (h : Routed s) (hconfig : s'.config = s.config)
    (hrouter : s'.router.map MessageRouter.partitions = s.router.map MessageRouter.partitions)
    (hthere : s'.creating ≠ none ∨ s'.producers ≠ [] → s.creating ≠ none ∨ s.producers ≠ []) :
    Routed s' where
  unpartitioned hzero := by
    rw [hconfig] at hzero
    rw [h.unpartitioned hzero] at hrouter
    simpa using hrouter
  partitions r hr := by
    rw [hr] at hrouter
    obtain ⟨r', hr', heq⟩ := Option.map_eq_some_iff.mp hrouter.symm
    rw [← heq, hconfig]
    exact h.partitions r' hr'
  there hpos hany := by
    rw [hconfig] at hpos
    intro hnone
    rw [hnone] at hrouter
    exact h.there hpos (hthere hany) (by simpa using hrouter.symm)

theorem step_routed {s s' : ProducerState} {l : ProducerLabel} (h : Routed s)
    (hstep : step s l = some s') : Routed s' := by
  cases l with
  | create env =>
    obtain ⟨-, -, ⟨hzero, p, -, rfl⟩ | ⟨hpos, rfl⟩⟩ := create_eq_some hstep
    · obtain ⟨c, ps, heq, -, -⟩ := settle_cases
        { s with pool := p, creating := some (.direct s.pool.endpoints.length) }
        s.pool.endpoints.length
      rw [heq]
      exact ⟨h.unpartitioned, h.partitions, fun hne => (hne hzero).elim⟩
    · refine ⟨fun hzero => ?_, fun r hr => ?_, fun _ _ => by simp⟩
      · exact (Nat.ne_of_gt hpos hzero).elim
      · rw [← Option.some.inj hr]
        rfl
  | child ref w env =>
    obtain ⟨p, -, rfl⟩ := Option.map_eq_some_iff.mp hstep
    obtain ⟨c, ps, heq, hc, hps⟩ := settle_cases { s with pool := p } ref
    rw [heq]
    refine h.congr rfl rfl ?_
    dsimp only
    rintro (hne | hne)
    · obtain ⟨x, hx⟩ := Option.ne_none_iff_exists'.mp hne
      obtain ⟨y, hy, -⟩ := hc x hx
      exact Or.inl (by rw [show s.creating = some y from hy]; simp)
    · rcases hps with rfl | ⟨y, hy, -⟩
      · exact Or.inr hne
      · exact Or.inl (by rw [show s.creating = some y from hy]; simp)
  | gathered =>
    obtain ⟨g, hg, ⟨-, rfl⟩ | ⟨-, -, rfl⟩⟩ := gathered_eq_some hstep
    · exact h.congr rfl rfl fun _ => Or.inl (by simp [hg])
    · exact h.congr rfl rfl fun _ => Or.inl (by simp [hg])
  | send data attributes routingKey env =>
    obtain ⟨-, p, r, t, hsel, -, ⟨-, rfl⟩ | ⟨ref, sc, -, -, rfl⟩⟩ := send_eq_some hstep <;>
    · have hrouter := selectPartition_router s routingKey
      rw [hsel] at hrouter
      exact h.congr rfl hrouter id
  | sending task w env =>
    obtain ⟨t, ref, sc, k, ran, -, -, -, -, -, rfl⟩ := sending_eq_some.mp hstep
    exact h.congr rfl rfl id
  | health task w env =>
    obtain ⟨p, -, rfl⟩ := Option.map_eq_some_iff.mp hstep
    exact h.congr rfl rfl id
  | close => cases hstep; exact h.congr rfl rfl id

theorem step_placed {s s' : ProducerState} {l : ProducerLabel} (hs : Sound s) (h : Placed s)
    (hstep : step s l = some s') : Placed s' where
  creating := (step_bound h hstep).1
  producers := (step_bound h hstep).2
  returned := step_saysReturned hs h.returned hstep
  routed := step_routed h.routed hstep

theorem placed_init (client : Client) (config : ProducerConfig) : Placed (init client config) where
  creating := by simp [init]
  producers := by simp [init]
  returned := by simp [init, SaysReturned]
  routed := ⟨fun _ => rfl, by simp [init], by simp [init]⟩

theorem exec_placed {client : Client} {config : ProducerConfig} {ls : List ProducerLabel}
    {s : ProducerState} (h : exec step (init client config) ls = some s) : Sound s ∧ Placed s :=
  exec_invariant (P := fun s => Sound s ∧ Placed s)
    (fun _ _ _ hs hstep => ⟨step_sound hs.1 hstep, step_placed hs.1 hs.2 hstep⟩)
    ⟨sound_init client config, placed_init client config⟩ h

/-! ## Every run -/

/-- `create()` has returned: its last statement sets `_producers`. -/
def Created (s : ProducerState) : Prop := s.producers ≠ []

/-- `_producers` after `create()` returned. -/
structure PartitionsBound (s : ProducerState) : Prop where
  length : s.producers.length = max s.config.partitions 1
  filled : s.config.partitions ≠ 0 →
    resultArray s.producers s.pool.trace = s.producers.map some
  bound : ∀ i ref, s.producers[i]? = some ref → ∃ e, s.pool.endpoints[ref]? = some e ∧
    e.topic = topicOf s.config i ∧ e.name = nameOf s.config i ∧ e.stub ≠ none
  inRange : ∀ routingKey, (selectPartition s routingKey).1 < s.producers.length
  connected : ∀ ref ∈ s.producers, ∀ sc, s.pool.scope ref = some sc →
    ∀ env data attributes routingKey text,
      (TopicProducer.send env data attributes routingKey sc).2 ≠ .error (.unrecoverable text)

theorem selectPartition_lt {s : ProducerState} (h : Routed s) (routingKey : Option String) :
    (selectPartition s routingKey).1 < max s.config.partitions 1 := by
  unfold selectPartition
  split
  · rename_i r hr
    have hpartitions := h.partitions r hr
    split
    · rename_i hpos
      split
      · have hlt := Nat.mod_lt (fnv1aHash (by assumption)) r.partitions_pos
        simp only [MessageRouter.keyRoute]
        omega
      · have hlt := Nat.mod_lt (r.last + 1) r.partitions_pos
        simp only [MessageRouter.roundRobin]
        omega
    · show 0 < max s.config.partitions 1; omega
  · show 0 < max s.config.partitions 1; omega

theorem send_connected {sc : Scope ProducerFields} (h : sc.self.stub ≠ none) (env : Env)
    (data : List UInt8) (attributes : Option (List (String × String)))
    (routingKey : Option String) (text : String) :
    (TopicProducer.send env data attributes routingKey sc).2 ≠ .error (.unrecoverable text) := by
  obtain ⟨stub, hstub⟩ := Option.ne_none_iff_exists'.mp h
  unfold TopicProducer.send
  rw [hstub]
  dsimp only
  cases htoken : sc.client.attachTokenIfNeeded env.call with
  | error err =>
    obtain ⟨t, rfl⟩ := Client.attachTokenIfNeeded_error htoken
    simp
  | ok metadata => simp

theorem Bound.nodup {s : ProducerState} {refs : List Nat} (h : Bound s refs) : refs.Nodup := by
  obtain ⟨base, rfl⟩ := h.range
  exact List.nodup_range'

theorem Placed.partitionsBound {s : ProducerState} (hs : Sound s) (h : Placed s)
    (hcreated : Created s) : PartitionsBound s := by
  have hbound := h.producers hcreated
  have hlength : s.producers.length = max s.config.partitions 1 := by
    obtain ⟨base, heq⟩ := hbound.range
    rw [heq, List.length_range']
  have hstub : ∀ ref ∈ s.producers, ∀ e, s.pool.endpoints[ref]? = some e → e.stub ≠ none := by
    intro ref href e he
    obtain ⟨id, hid⟩ := hs.producers ref href
    exact (hs.pool.ready ref _ e hid he).stubRet id rfl
  constructor
  case length => exact hlength
  case filled =>
    intro _
    refine resultArray_filled hbound.nodup fun ref href => ?_
    obtain ⟨id, hid⟩ := hs.producers ref href
    exact h.returned ref id hid
  case bound =>
    intro i ref hi
    obtain ⟨e, he, htopic, hname⟩ := hbound.entries i ref hi
    exact ⟨e, he, htopic, hname, hstub ref (List.mem_of_getElem? hi) e he⟩
  case inRange =>
    intro routingKey
    rw [hlength]
    exact selectPartition_lt h.routed routingKey
  case connected =>
    intro ref href sc hsc env data attributes routingKey text
    exact send_connected (hstub ref href sc.self (Pool.scope_eq_some.mp hsc).1) env data attributes
      routingKey text

theorem exec_producers {ms : List ProducerLabel} {s s' : ProducerState} (hs : Sound s)
    (hcreated : Created s) (h : exec step s ms = some s') : s'.producers = s.producers :=
  (exec_invariant (P := fun t => Sound t ∧ t.producers = s.producers)
    (fun t l t' ht hstep => ⟨step_sound ht.1 hstep,
      (step_producers ht.1 hstep (by rw [ht.2]; exact hcreated)).trans ht.2⟩) ⟨hs, rfl⟩ h).2

/-- Once `create()` has returned, every entry of `_producers` is bound to its partition and has a
stub, now and after any further steps, and no two partitions share a topic. -/
theorem partitions_bound {client : Client} {config : ProducerConfig} {ls : List ProducerLabel}
    {s : ProducerState} (h : exec step (init client config) ls = some s)
    (hcreated : Created s) :
    (∀ ms s', exec step s ms = some s' → s'.producers = s.producers ∧ PartitionsBound s') ∧
      Function.Injective fun x : String × Nat => partitionTopic x.1 x.2 := by
  obtain ⟨hs, hp⟩ := exec_placed h
  constructor
  · intro ms s' hms
    have hproducers := exec_producers hs hcreated hms
    obtain ⟨hs', hp'⟩ := exec_placed (exec_append.mpr ⟨s, h, hms⟩)
    exact ⟨hproducers, hp'.partitionsBound hs' (by rw [Created, hproducers]; exact hcreated)⟩
  · rintro ⟨topic, i⟩ ⟨topic', j⟩ heq
    obtain ⟨rfl, rfl⟩ := partitionTopic_inj heq
    rfl

/-- Two partitions, whose coroutines end in the other order. -/
def secondFirst : List ProducerLabel :=
  [.create {}, .child 0 .start {}, .child 1 .start {}, .child 1 (.answer (.address "a")) {},
    .child 1 (.answer (.registered 1)) {}, .child 0 (.answer (.address "a")) {},
    .child 0 (.answer (.registered 2)) {}, .gathered]

theorem second_first_bound :
    ∃ s, exec step (init (.init "a" {}) (.partitioned 2)) secondFirst = some s ∧
      (∀ ms s', exec step s ms = some s' → s'.producers = s.producers ∧ PartitionsBound s') ∧
      Function.Injective fun x : String × Nat => partitionTopic x.1 x.2 := by
  obtain ⟨s, hs, hproducers⟩ : ∃ s, exec step (init (.init "a" {}) (.partitioned 2)) secondFirst =
      some s ∧ s.producers = [0, 1] := ⟨_, rfl, rfl⟩
  exact ⟨s, hs, partitions_bound hs (by simp [Created, hproducers])⟩

end Producer

end Danube
