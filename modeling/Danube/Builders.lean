import Danube.ConsumerBuilder
import Danube.ClientBuilder
import Danube.KeyFilters
import Danube.Acknowledgement

/-!
# What `build()` returned

A product of a builder shares the builder's mutable object, so a later call on the builder reaches it.
-/

namespace Danube

open Async Memory

/-! ## The lists of consumers -/

namespace ConsumerBuilding

/-- Where the lists of a consumer are: the builder's list if it had filters when the consumer was
built, and else lists of its own. -/
structure Linked (s : ConsumerBuilding) (c : BuiltConsumer) : Prop where
  length : c.topicFilters.length = c.consumer.pool.endpoints.length
  keyFilters : c.keyFilters < s.lists.next
  topicFilters : ∀ a ∈ c.topicFilters, a < s.lists.next
  shared : c.built ≠ [] → c.keyFilters = s.builder.keyFilters
  own : c.built = [] → c.keyFilters ≠ s.builder.keyFilters ∧
    ∀ a ∈ c.topicFilters, a ≠ s.builder.keyFilters

structure Valid (s : ConsumerBuilding) : Prop where
  builder : s.builder.keyFilters < s.lists.next
  consumers : ∀ c ∈ s.consumers, Linked s c

theorem valid_init (client : Client) : Valid (init client) where
  builder := Nat.one_pos
  consumers := by simp [init]

/-- The key filters of a consumer are those that the builder had at its `build()`: in its lists, which
the next requests are made from, and in every `Subscribe` so far. -/
structure AsBuilt (s : ConsumerBuilding) (c : BuiltConsumer) : Prop where
  filters : s.lists.read c.keyFilters = c.built
  topicFilters : ∀ a ∈ c.topicFilters, s.lists.read a = c.built
  requests : ∀ x ∈ c.consumer.pool.trace, ∀ r ∈ x.event.subscribe?, r.keyFilters = c.built

/-- No filter is added once a consumer with filters was built. -/
def FiltersKept (s : ConsumerBuilding) : ConsumerBuilderLabel → Prop
  | .set (.withKeyFilter _) => ∀ c ∈ s.consumers, c.built = []
  | .set (.withKeyFilters patterns) => patterns = [] ∨ ∀ c ∈ s.consumers, c.built = []
  | _ => True

/-! ## One step -/

theorem Linked.extends {s s' : ConsumerBuilding} {c : BuiltConsumer} (h : Linked s c)
    (hlists : s.lists.Extends s'.lists) (hbuilder : s'.builder.keyFilters = s.builder.keyFilters) :
    Linked s' c where
  length := h.length
  keyFilters := Nat.lt_of_lt_of_le h.keyFilters hlists.next
  topicFilters a ha := Nat.lt_of_lt_of_le (h.topicFilters a ha) hlists.next
  shared := hbuilder ▸ h.shared
  own := hbuilder ▸ h.own

theorem AsBuilt.extends {s s' : ConsumerBuilding} {c : BuiltConsumer} (h : AsBuilt s c)
    (hc : Linked s c) (hlists : s.lists.Extends s'.lists) : AsBuilt s' c where
  filters := (hlists.read _ hc.keyFilters).trans h.filters
  topicFilters a ha := (hlists.read a (hc.topicFilters a ha)).trans (h.topicFilters a ha)
  requests := h.requests

theorem extend_linked {s : ConsumerBuilding} {c : BuiltConsumer} (h : Linked s c)
    (patterns : List String) : Linked (s.extend patterns) c :=
  ⟨h.length, h.keyFilters, h.topicFilters, h.shared, h.own⟩

theorem extend_asBuilt_iff {s : ConsumerBuilding} {c : BuiltConsumer} (hc : Linked s c)
    (h : AsBuilt s c) (patterns : List String) :
    AsBuilt (s.extend patterns) c ↔ patterns = [] ∨ c.built = [] := by
  constructor
  · intro h'
    by_cases hnil : c.built = []
    · exact Or.inr hnil
    · left
      have hread := h'.filters
      rw [← h.filters, hc.shared hnil, extend, Store.read_write_self] at hread
      exact List.append_right_eq_self.mp hread
  · rintro (rfl | hnil)
    · have hsame : ∀ a, (s.extend []).lists.read a = s.lists.read a := by
        intro a
        by_cases ha : a = s.builder.keyFilters
        · rw [ha, extend, Store.read_write_self, List.append_nil]
        · exact Store.read_write_ne ha ..
      exact ⟨(hsame _).trans h.filters, fun a ha => (hsame a).trans (h.topicFilters a ha), h.requests⟩
    · obtain ⟨hne, hall⟩ := hc.own hnil
      exact ⟨(Store.read_write_ne hne ..).trans h.filters,
        fun a ha => (Store.read_write_ne (hall a ha) ..).trans (h.topicFilters a ha), h.requests⟩

theorem view_filtered {s : ConsumerBuilding} {c : BuiltConsumer} (h : AsBuilt s c) :
    Consumer.Filtered c.built (c.view s.client s.lists) where
  config := h.filters
  endpoints e he := by
    obtain ⟨i, hi⟩ := List.mem_iff_getElem?.mp he
    obtain ⟨e', a, -, ha, rfl⟩ := List.getElem?_zipWith_eq_some.mp hi
    exact h.topicFilters a (List.mem_of_getElem? ha)
  requests := h.requests

theorem view_length {s : ConsumerBuilding} {c : BuiltConsumer} (h : Linked s c) :
    (c.view s.client s.lists).pool.endpoints.length = c.topicFilters.length := by
  simp [BuiltConsumer.view, h.length]

/-- The consumers of `s` have the filters that they were built with. -/
def AllAsBuilt (s : ConsumerBuilding) : Prop := ∀ c ∈ s.consumers, AsBuilt s c

theorem kept_asBuilt {s s' : ConsumerBuilding} (hv : Valid s) (h : AllAsBuilt s)
    (hlists : s'.lists = s.lists) (hconsumers : s'.consumers = s.consumers)
    (hbuilder : s'.builder.keyFilters = s.builder.keyFilters) : Valid s' ∧ AllAsBuilt s' := by
  have hext : s.lists.Extends s'.lists := hlists ▸ .refl _
  refine ⟨⟨?_, fun c hc => ?_⟩, fun c hc => ?_⟩
  · rw [hlists, hbuilder]
    exact hv.builder
  · exact (hv.consumers c (hconsumers ▸ hc)).extends hext hbuilder
  · exact (h c (hconsumers ▸ hc)).extends (hv.consumers c (hconsumers ▸ hc)) hext

theorem extend_valid {s : ConsumerBuilding} (hv : Valid s) (patterns : List String) :
    Valid (s.extend patterns) :=
  ⟨hv.builder, fun c hc => extend_linked (hv.consumers c hc) patterns⟩

theorem build_asBuilt {s : ConsumerBuilding} (hv : Valid s) (h : AllAsBuilt s) :
    Valid s.build ∧ AllAsBuilt s.build := by
  unfold build
  dsimp only
  split
  · exact ⟨hv, h⟩
  · have hext := keyFiltersOr_extends s.lists s.builder.keyFilters
    obtain ⟨hlt, hread, hor⟩ := keyFiltersOr_spec hv.builder
    refine ⟨⟨Nat.lt_of_lt_of_le hv.builder hext.next, fun c hc => ?_⟩, fun c hc => ?_⟩
    · rcases List.mem_append.mp hc with hc | hc
      · exact (hv.consumers c hc).extends hext rfl
      · obtain rfl := List.mem_singleton.mp hc
        refine ⟨rfl, hlt, by simp, fun hne => ?_, fun hnil => ⟨?_, by simp⟩⟩
        · exact (hor.resolve_right fun h => hne h.2).1
        · rw [(hor.resolve_left fun h => h.2 hnil).1]
          exact Nat.ne_of_gt hv.builder
    · rcases List.mem_append.mp hc with hc | hc
      · exact (h c hc).extends (hv.consumers c hc) hext
      · obtain rfl := List.mem_singleton.mp hc
        exact ⟨hread, by simp, by simp [Consumer.init]⟩

theorem consumer_asBuilt {s s' : ConsumerBuilding} (hv : Valid s) (h : AllAsBuilt s) {i : Nat}
    {l : ConsumerLabel} (hstep : s.consumer i l = some s') : Valid s' ∧ AllAsBuilt s' := by
  simp only [consumer, Option.bind_eq_bind, Option.bind_eq_some_iff, Option.pure_def,
    Option.some.injEq] at hstep
  obtain ⟨c, hc, t, ht, rfl⟩ := hstep
  have hmem := List.mem_of_getElem? hc
  have hlink := hv.consumers c hmem
  have hbuilt := h c hmem
  have hlen : c.topicFilters.length ≤ t.pool.endpoints.length := by
    rw [← view_length hlink]
    exact Pool.KeepsNames.length_le (Consumer.step_keepsNames ht)
  have hfiltered := Consumer.step_filtered (view_filtered hbuilt) ht
  obtain ⟨hext, hn, hnew⟩ :=
    topicFilters_spec (t.pool.endpoints.length - c.topicFilters.length) hlink.keyFilters
  have hcases : ∀ c' ∈ s.consumers.set i (c.update s.lists t).1,
      c' ∈ s.consumers ∨ c' = (c.update s.lists t).1 := fun c' hc' => List.mem_or_eq_of_mem_set hc'
  refine ⟨⟨Nat.lt_of_lt_of_le hv.builder hext.next, fun c' hc' => ?_⟩, fun c' hc' => ?_⟩
  · rcases hcases c' hc' with hc' | rfl
    · exact (hv.consumers c' hc').extends hext rfl
    · constructor
      case length =>
        simp only [BuiltConsumer.update, List.length_append, hn]
        omega
      case keyFilters => exact Nat.lt_of_lt_of_le hlink.keyFilters hext.next
      case topicFilters =>
        intro a ha
        rcases List.mem_append.mp ha with ha | ha
        · exact Nat.lt_of_lt_of_le (hlink.topicFilters a ha) hext.next
        · exact (hnew a ha).1
      case shared => exact hlink.shared
      -- The list of a consumer without filters stays its own.
      case own =>
        intro hnil
        obtain ⟨hne, hall⟩ := hlink.own hnil
        refine ⟨hne, fun a ha => ?_⟩
        rcases List.mem_append.mp ha with ha | ha
        · exact hall a ha
        · rcases (hnew a ha).2.2 with rfl | hge
          · exact hne
          · exact Nat.ne_of_gt (Nat.lt_of_lt_of_le hv.builder hge)
  · rcases hcases c' hc' with hc' | rfl
    · -- Another consumer: its lists are as they were.
      exact (h c' hc').extends (hv.consumers c' hc') hext
    · constructor
      case filters => exact (hext.read _ hlink.keyFilters).trans hbuilt.filters
      case topicFilters =>
        intro a ha
        rcases List.mem_append.mp ha with ha | ha
        · exact (hext.read a (hlink.topicFilters a ha)).trans (hbuilt.topicFilters a ha)
        · exact (hnew a ha).2.1.trans hbuilt.filters
      case requests => exact hfiltered.requests

theorem step_asBuilt {s s' : ConsumerBuilding} {l : ConsumerBuilderLabel} (hv : Valid s)
    (h : AllAsBuilt s) (hstep : step s l = some s') :
    Valid s' ∧ (AllAsBuilt s' ↔ FiltersKept s l) := by
  -- A setter that adds filters adds them to every consumer that has the list of the builder.
  have hextend : ∀ patterns, AllAsBuilt (s.extend patterns) ↔
      patterns = [] ∨ ∀ c ∈ s.consumers, c.built = [] := by
    intro patterns
    have hiff : ∀ c ∈ s.consumers,
        (AsBuilt (s.extend patterns) c ↔ patterns = [] ∨ c.built = []) :=
      fun c hc => extend_asBuilt_iff (hv.consumers c hc) (h c hc) patterns
    constructor
    · intro hall
      by_cases hnil : patterns = []
      · exact Or.inl hnil
      · exact Or.inr fun c hc => ((hiff c hc).mp (hall c hc)).resolve_left hnil
    · exact fun hor c hc => (hiff c hc).mpr (hor.imp_right fun h => h c hc)
  cases l with
  | set call =>
    cases hstep
    cases call with
    | withKeyFilter pattern =>
      refine ⟨extend_valid hv [pattern], (hextend [pattern]).trans ?_⟩
      simp [FiltersKept]
    | withKeyFilters patterns => exact ⟨extend_valid hv patterns, hextend patterns⟩
    | _ =>
      refine And.imp_right (fun h' => iff_of_true h' trivial) ?_
      exact kept_asBuilt hv h rfl rfl rfl
  | build =>
    cases hstep
    exact (build_asBuilt hv h).imp_right fun h' => iff_of_true h' trivial
  | consumer i l =>
    exact (consumer_asBuilt hv h hstep).imp_right fun h' => iff_of_true h' trivial

end ConsumerBuilding

/-! ## Both builders -/

/-- In every state of a run a consumer has the key filters, and a client the settings, of its
`build()`, exactly if no filter is added after a consumer with filters was built and no setter changes
the settings after a client was built. -/
theorem products_unchanged_iff {client : Client} {ls : List ConsumerBuilderLabel}
    {s : ConsumerBuilding} (hs : exec ConsumerBuilding.step (.init client) ls = some s)
    {ms : List ClientBuilderLabel} {t : ClientBuilding}
    (ht : exec ClientBuilding.step .init ms = some t) :
    ((∀ pre, pre <+: ls → ∀ u, exec ConsumerBuilding.step (.init client) pre = some u →
        u.AllAsBuilt) ↔
      Steps ConsumerBuilding.step ConsumerBuilding.FiltersKept (.init client) ls) ∧
    ((∀ pre, pre <+: ms → ∀ u, exec ClientBuilding.step .init pre = some u → u.AllAsBuilt) ↔
      Steps ClientBuilding.step ClientBuilding.SettingsKept .init ms) := by
  constructor
  · exact forall_states_iff_steps (fun s l s' hv h hstep => ConsumerBuilding.step_asBuilt hv h hstep)
      (ConsumerBuilding.valid_init client) (by simp [ConsumerBuilding.AllAsBuilt, ConsumerBuilding.init])
      hs
  · exact forall_states_iff_steps (fun s l s' hl h hstep => ClientBuilding.step_asBuilt hl h hstep)
      (by simp [ClientBuilding.Linked, ClientBuilding.init])
      (by simp [ClientBuilding.AllAsBuilt, ClientBuilding.init]) ht

/-- A second filter for a second consumer, before the first one subscribes. -/
def twoConsumers : List ConsumerBuilderLabel :=
  [.set (.withTopic "t"), .set (.withConsumerName "c"), .set (.withSubscription "s"),
    .set (.withKeyFilter "user-*"), .build, .set (.withKeyFilter "eu-*"), .build, .consumer 0 (.subscribe {}),
    .consumer 0 (.partitions (.answer (.topicPartitions ["t"]))), .consumer 0 (.child 0 .start {}),
    .consumer 0 (.child 0 (.answer (.address "a")) {})]

/-- A second client with a token, before the first one opens its channel. -/
def twoClients : List ClientBuilderLabel :=
  [.serviceUrl "a", .build, .options (.withToken "x"), .build, .attachToken 0 {},
    .getConnection 0 "a" "a" {}]

/-- The first consumer's `Subscribe` carries both filters. The first client sends the token, and its
channel has TLS. -/
theorem two_products_shared :
    (∃ s, exec ConsumerBuilding.step (.init (.init "a" {})) twoConsumers = some s ∧
      ∃ c ∈ s.consumers, ∃ x ∈ c.consumer.pool.trace, ∃ r ∈ x.event.subscribe?,
        r.keyFilters ≠ c.built) ∧
    ∃ t, exec ClientBuilding.step .init twoClients = some t ∧
      ∃ c ∈ t.clients, (∃ x ∈ c.metadata, x.2 ≠ c.built.attachTokenIfNeeded x.1) ∧
        ∃ e ∈ c.client.connectionManager.connections,
          e.2.channel.credentials ≠ c.built.channelCredentials := by
  constructor
  · exact ⟨_, rfl, by decide⟩
  · exact ⟨_, rfl, by decide⟩

theorem two_products_not_kept :
    ∃ s, exec ConsumerBuilding.step (.init (.init "a" {})) twoConsumers = some s ∧
    ∃ t, exec ClientBuilding.step .init twoClients = some t ∧
      ((∀ pre, pre <+: twoConsumers → ∀ u,
          exec ConsumerBuilding.step (.init (.init "a" {})) pre = some u → u.AllAsBuilt) ↔
        Steps ConsumerBuilding.step ConsumerBuilding.FiltersKept (.init (.init "a" {})) twoConsumers) ∧
      ((∀ pre, pre <+: twoClients → ∀ u, exec ClientBuilding.step .init pre = some u →
          u.AllAsBuilt) ↔
        Steps ClientBuilding.step ClientBuilding.SettingsKept .init twoClients) := by
  obtain ⟨s, hs⟩ := Option.isSome_iff_exists.mp
    (by rfl : (exec ConsumerBuilding.step (.init (.init "a" {})) twoConsumers).isSome)
  obtain ⟨t, ht⟩ := Option.isSome_iff_exists.mp
    (by rfl : (exec ClientBuilding.step .init twoClients).isSome)
  exact ⟨s, hs, t, ht, products_unchanged_iff hs ht⟩

end Danube
