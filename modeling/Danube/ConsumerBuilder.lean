import Danube.Consumer
import Danube.Memory.Store
import Danube.Setters

/-!
# The builder of consumers (`consumer.py`)

`build()` passes the builder's list of key filters on by reference, and the `Consumer` and each
`TopicConsumer` keep it with `key_filters or []`: an empty list is replaced by a new one.
-/

namespace Danube

open Async Memory

/-- `keyFilters` is the address of the list. -/
structure ConsumerBuilder where
  topic : String := ""
  consumerName : String := ""
  subscription : String := ""
  subscriptionType : SubType := .shared
  options : ConsumerOptions := {}
  keyFilters : Address

/-- A consumer that was built, with the addresses of its list and of those of its topic consumers.
The lists in `consumer` itself are not looked at: `view` puts in what the addresses lead to. -/
structure BuiltConsumer where
  consumer : ConsumerState
  keyFilters : Address
  topicFilters : List Address := []
  /-- What the builder's list was when `build()` returned. -/
  built : List String

/-- A builder, its lists and the consumers that it built. -/
structure ConsumerBuilding where
  client : Client
  lists : Store (List String)
  builder : ConsumerBuilder
  consumers : List BuiltConsumer := []

/-- A call of a setter. -/
inductive ConsumerBuilderCall
  | withTopic (topic : String)
  | withConsumerName (name : String)
  | withSubscription (subscription : String)
  | withSubscriptionType (subType : SubType)
  | withOptions (options : ConsumerOptions)
  | withKeyFilter (pattern : String)
  | withKeyFilters (patterns : List String)

inductive ConsumerBuilderLabel
  | set (call : ConsumerBuilderCall)
  | build
  /-- A consumer that was built takes a step. -/
  | consumer (i : Nat) (l : ConsumerLabel)

/-- `key_filters or []`: the list at the address, or a new one. -/
def keyFiltersOr (lists : Store (List String)) (keyFilters : Address) :
    Store (List String) × Address :=
  if lists.read keyFilters = [] then (lists.alloc [], lists.next) else (lists, keyFilters)

/-- The lists of `n` topic consumers, which get the address of the consumer's list. -/
def topicFilters (lists : Store (List String)) (keyFilters : Address) :
    Nat → Store (List String) × List Address
  | 0 => (lists, [])
  | n + 1 =>
    let (lists, addr) := keyFiltersOr lists keyFilters
    let (lists, addrs) := topicFilters lists keyFilters n
    (lists, addr :: addrs)

namespace BuiltConsumer

def topicConsumer (lists : Store (List String)) (e : TopicConsumer) (keyFilters : Address) :
    TopicConsumer := { e with own := { e.own with keyFilters := lists.read keyFilters } }

/-- The consumer with its lists as they are now. -/
def view (c : BuiltConsumer) (client : Client) (lists : Store (List String)) : ConsumerState :=
  { c.consumer with
    config := { c.consumer.config with keyFilters := lists.read c.keyFilters }
    pool := { c.consumer.pool with
      client := client
      endpoints := List.zipWith (topicConsumer lists) c.consumer.pool.endpoints c.topicFilters } }

/-- After a step: the topic consumers that it built, if any, get their lists. -/
def update (c : BuiltConsumer) (lists : Store (List String)) (t : ConsumerState) :
    BuiltConsumer × Store (List String) :=
  let (lists, addrs) :=
    Danube.topicFilters lists c.keyFilters (t.pool.endpoints.length - c.topicFilters.length)
  ({ c with consumer := t, topicFilters := c.topicFilters ++ addrs }, lists)

end BuiltConsumer

namespace ConsumerBuilding

def init (client : Client) : ConsumerBuilding where
  client := client
  lists := .singleton []
  builder := { keyFilters := 0 }

/-- `self._key_filters.extend(patterns)`, and `append` for one pattern. -/
def extend (s : ConsumerBuilding) (patterns : List String) : ConsumerBuilding :=
  { s with lists := s.lists.write s.builder.keyFilters (s.lists.read s.builder.keyFilters ++ patterns) }

def setBuilder (s : ConsumerBuilding) (f : ConsumerBuilder → ConsumerBuilder) : ConsumerBuilding :=
  { s with builder := f s.builder }

/-- A setter. -/
def set (s : ConsumerBuilding) : ConsumerBuilderCall → ConsumerBuilding
  | .withTopic topic => s.setBuilder fun b => { b with topic := topic }
  | .withConsumerName name => s.setBuilder fun b => { b with consumerName := name }
  | .withSubscription subscription => s.setBuilder fun b => { b with subscription := subscription }
  | .withSubscriptionType subType => s.setBuilder fun b => { b with subscriptionType := subType }
  | .withOptions options => s.setBuilder fun b => { b with options := options }
  | .withKeyFilter pattern => s.extend [pattern]
  | .withKeyFilters patterns => s.extend patterns

/-- `build()`. It raises without a topic, a consumer name or a subscription. -/
def build (s : ConsumerBuilding) : ConsumerBuilding :=
  let b := s.builder
  if b.topic = "" ∨ b.consumerName = "" ∨ b.subscription = "" then s
  else
    let (lists, addr) := keyFiltersOr s.lists b.keyFilters
    let config : ConsumerConfig := {
      topicName := b.topic
      consumerName := b.consumerName
      subscription := b.subscription
      subscriptionType := b.subscriptionType
      options := b.options
      keyFilters := lists.read addr }
    { s with
      lists := lists
      consumers := s.consumers ++ [{
        consumer := Consumer.init s.client config
        keyFilters := addr
        built := s.lists.read b.keyFilters }] }

/-- A step of the consumer `i`. -/
def consumer (s : ConsumerBuilding) (i : Nat) (l : ConsumerLabel) : Option ConsumerBuilding := do
  let c ← s.consumers[i]?
  let t ← Consumer.step (c.view s.client s.lists) l
  let (c, lists) := c.update s.lists t
  return { s with client := t.pool.client, lists := lists, consumers := s.consumers.set i c }

def step (s : ConsumerBuilding) : ConsumerBuilderLabel → Option ConsumerBuilding
  | .set call => some (s.set call)
  | .build => some s.build
  | .consumer i l => s.consumer i l

/-- `client.new_consumer()` with the calls on it. -/
def ofCalls (client : Client) (calls : List ConsumerBuilderCall) : ConsumerBuilding :=
  calls.foldl set (init client)

/-- What `build()` returns after the calls, if it does not raise. -/
def product (client : Client) (calls : List ConsumerBuilderCall) : Option ConsumerState :=
  let s := (ofCalls client calls).build
  s.consumers.head?.map fun c => c.view s.client s.lists

end ConsumerBuilding

/-! ## What the addresses lead to -/

theorem keyFiltersOr_extends (lists : Store (List String)) (a : Address) :
    lists.Extends (keyFiltersOr lists a).1 := by
  unfold keyFiltersOr
  split
  · exact Store.extends_alloc lists []
  · exact .refl lists

theorem keyFiltersOr_spec {lists : Store (List String)} {a : Address} (ha : a < lists.next) :
    (keyFiltersOr lists a).2 < (keyFiltersOr lists a).1.next ∧
      (keyFiltersOr lists a).1.read (keyFiltersOr lists a).2 = lists.read a ∧
      ((keyFiltersOr lists a).2 = a ∧ lists.read a ≠ [] ∨
        (keyFiltersOr lists a).2 = lists.next ∧ lists.read a = []) := by
  unfold keyFiltersOr
  split
  · rename_i hnil
    exact ⟨Nat.lt_succ_self _, by simp [hnil], Or.inr ⟨rfl, hnil⟩⟩
  · rename_i hne
    exact ⟨ha, rfl, Or.inl ⟨rfl, hne⟩⟩

theorem topicFilters_spec (n : Nat) {lists : Store (List String)} {a : Address}
    (ha : a < lists.next) :
    lists.Extends (topicFilters lists a n).1 ∧ (topicFilters lists a n).2.length = n ∧
      ∀ b ∈ (topicFilters lists a n).2, b < (topicFilters lists a n).1.next ∧
        (topicFilters lists a n).1.read b = lists.read a ∧ (b = a ∨ lists.next ≤ b) := by
  induction n generalizing lists with
  | zero => exact ⟨.refl lists, rfl, by simp [topicFilters]⟩
  | succ n ih =>
    have hext := keyFiltersOr_extends lists a
    obtain ⟨hlt, hread, hor⟩ := keyFiltersOr_spec ha
    obtain ⟨hrest, hlen, hall⟩ := ih (Nat.lt_of_lt_of_le ha hext.next)
    refine ⟨hext.trans hrest, by simp [topicFilters, hlen], fun b hb => ?_⟩
    rcases List.mem_cons.mp hb with rfl | hb
    · refine ⟨Nat.lt_of_lt_of_le hlt hrest.next, (hrest.read _ hlt).trans hread, ?_⟩
      exact hor.imp And.left fun h => Nat.le_of_eq h.1.symm
    · obtain ⟨hblt, hbread, hbor⟩ := hall b hb
      exact ⟨hblt, hbread.trans (hext.read a ha), hbor.imp_right (Nat.le_trans hext.next)⟩

/-! ## What the calls set -/

namespace ConsumerBuilderCall

def topic? : ConsumerBuilderCall → Option String
  | .withTopic topic => some topic
  | _ => none

def name? : ConsumerBuilderCall → Option String
  | .withConsumerName name => some name
  | _ => none

def subscription? : ConsumerBuilderCall → Option String
  | .withSubscription subscription => some subscription
  | _ => none

def subType? : ConsumerBuilderCall → Option SubType
  | .withSubscriptionType subType => some subType
  | _ => none

def options? : ConsumerBuilderCall → Option ConsumerOptions
  | .withOptions options => some options
  | _ => none

/-- The key filters that it adds. -/
def patterns : ConsumerBuilderCall → List String
  | .withKeyFilter pattern => [pattern]
  | .withKeyFilters patterns => patterns
  | _ => []

end ConsumerBuilderCall

open Setters ConsumerBuilderCall in
/-- A consumer with what the calls set last, and all the key filters that they added. -/
def ConsumerConfig.set (calls : List ConsumerBuilderCall) : ConsumerConfig where
  topicName := lastSet topic? calls ""
  consumerName := lastSet name? calls ""
  subscription := lastSet subscription? calls ""
  subscriptionType := lastSet subType? calls .shared
  options := lastSet options? calls {}
  keyFilters := calls.flatMap patterns

/-- What `build()` asks for. -/
def ConsumerConfig.Complete (config : ConsumerConfig) : Prop :=
  config.topicName ≠ "" ∧ config.consumerName ≠ "" ∧ config.subscription ≠ ""

instance (config : ConsumerConfig) : Decidable config.Complete :=
  inferInstanceAs (Decidable (_ ∧ _ ∧ _))

namespace ConsumerBuilding

/-- The builder's list as it is now. -/
def filters (s : ConsumerBuilding) : List String := s.lists.read s.builder.keyFilters

theorem set_filters (s : ConsumerBuilding) (call : ConsumerBuilderCall) :
    (s.set call).filters = s.filters ++ call.patterns := by
  cases call with
  | withKeyFilter | withKeyFilters => exact Store.read_write_self ..
  | _ => exact (List.append_nil _).symm

theorem ofCalls_kept (client : Client) (calls : List ConsumerBuilderCall) :
    (ofCalls client calls).client = client ∧ (ofCalls client calls).consumers = [] ∧
      (ofCalls client calls).builder.keyFilters < (ofCalls client calls).lists.next := by
  unfold ofCalls
  induction calls using List.reverseRecOn with
  | nil => exact ⟨rfl, rfl, Nat.one_pos⟩
  | append_singleton calls call ih =>
    rw [List.foldl_append]
    cases call <;> exact ih

open Setters ConsumerBuilderCall in
/-- `build()` needs a topic, a consumer name and a subscription, and takes what was set last and all key
filters. -/
theorem product_eq (client : Client) (calls : List ConsumerBuilderCall) :
    product client calls = if (ConsumerConfig.set calls).Complete
      then some (Consumer.init client (.set calls)) else none := by
  let s := ofCalls client calls
  have htopic : s.builder.topic = lastSet topic? calls "" :=
    foldl_lastSet set (fun s => s.builder.topic) topic? (fun s c => by cases c <;> rfl) (init client) calls
  have hname : s.builder.consumerName = lastSet name? calls "" :=
    foldl_lastSet set (fun s => s.builder.consumerName) name? (fun s c => by cases c <;> rfl)
      (init client) calls
  have hsubscription : s.builder.subscription = lastSet subscription? calls "" :=
    foldl_lastSet set (fun s => s.builder.subscription) subscription? (fun s c => by cases c <;> rfl)
      (init client) calls
  have hsubType : s.builder.subscriptionType = lastSet subType? calls .shared :=
    foldl_lastSet set (fun s => s.builder.subscriptionType) subType? (fun s c => by cases c <;> rfl)
      (init client) calls
  have hoptions : s.builder.options = lastSet options? calls {} :=
    foldl_lastSet set (fun s => s.builder.options) options? (fun s c => by cases c <;> rfl)
      (init client) calls
  have hfilters : s.filters = calls.flatMap patterns :=
    foldl_flatMap set filters patterns set_filters (init client) calls
  obtain ⟨hclient, hconsumers, hlt⟩ : s.client = client ∧ s.consumers = [] ∧
    s.builder.keyFilters < s.lists.next := ofCalls_kept client calls
  obtain ⟨-, hread, -⟩ := keyFiltersOr_spec hlt
  have hlist : (keyFiltersOr s.lists s.builder.keyFilters).1.read
      (keyFiltersOr s.lists s.builder.keyFilters).2 = calls.flatMap patterns := hread.trans hfilters
  change (s.build.consumers.head?.map fun c => c.view s.build.client s.build.lists) = _
  unfold build
  dsimp only
  rw [htopic, hname, hsubscription]
  split
  · rename_i hmissing
    -- It raises.
    have hincomplete : ¬ (ConsumerConfig.set calls).Complete := by
      rintro ⟨ht, hn, hs⟩
      exact hmissing.elim ht (fun h => h.elim hn hs)
    rw [if_neg hincomplete, hconsumers]
    rfl
  · rename_i hmissing
    have hcomplete : (ConsumerConfig.set calls).Complete :=
      ⟨fun h => hmissing (Or.inl h), fun h => hmissing (Or.inr (Or.inl h)),
        fun h => hmissing (Or.inr (Or.inr h))⟩
    rw [if_pos hcomplete, hconsumers, hclient, hlist, hsubType, hoptions]
    simp [BuiltConsumer.view, Consumer.init, hlist, ConsumerConfig.set]

end ConsumerBuilding

end Danube
