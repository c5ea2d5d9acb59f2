import Danube.Producer
import Danube.Setters

/-! # The builder of producers (`producer.py`) -/

namespace Danube

structure ProducerBuilder where
  topic : String := ""
  producerName : String := ""
  partitions : Nat := 0
  schemaRef : Option SchemaReference := none
  dispatchStrategy : DispatchStrategy := .nonReliable
  options : ProducerOptions := {}
  deriving Repr

/-- A call of a setter. The two that take a version raise when it does not fit its field: such a call
sets nothing. -/
inductive ProducerBuilderCall
  | withTopic (topic : String)
  | withName (name : String)
  | withSchemaSubject (subject : String)
  | withSchemaVersion (subject : String) (version : UInt32)
  | withSchemaMinVersion (subject : String) (minVersion : UInt32)
  | withDispatchStrategy (strategy : DispatchStrategy)
  | withPartitions (partitions : Nat)
  | withOptions (options : ProducerOptions)

namespace ProducerBuilder

def apply (b : ProducerBuilder) : ProducerBuilderCall → ProducerBuilder
  | .withTopic topic => { b with topic := topic }
  | .withName name => { b with producerName := name }
  | .withSchemaSubject subject => { b with schemaRef := some ⟨subject, some (.useLatest true)⟩ }
  | .withSchemaVersion subject version =>
    { b with schemaRef := some ⟨subject, some (.pinnedVersion version)⟩ }
  | .withSchemaMinVersion subject minVersion =>
    { b with schemaRef := some ⟨subject, some (.minVersion minVersion)⟩ }
  | .withDispatchStrategy strategy => { b with dispatchStrategy := strategy }
  | .withPartitions partitions => { b with partitions := partitions }
  | .withOptions options => { b with options := options }

def build (b : ProducerBuilder) : Except Error ProducerConfig :=
  if b.topic = "" then .error (.value "topic must be set")
  else if b.producerName = "" then .error (.value "producer name must be set")
  else .ok {
    topicName := b.topic
    producerName := b.producerName
    partitions := b.partitions
    schemaRef := b.schemaRef
    dispatchStrategy := b.dispatchStrategy
    options := b.options }

/-- `client.new_producer()` with the calls on it. -/
def ofCalls (calls : List ProducerBuilderCall) : ProducerBuilder := calls.foldl apply {}

end ProducerBuilder

/-! ## What the calls set -/

namespace ProducerBuilderCall

def topic? : ProducerBuilderCall → Option String
  | .withTopic topic => some topic
  | _ => none

def name? : ProducerBuilderCall → Option String
  | .withName name => some name
  | _ => none

/-- The three setters of the schema set one field. -/
def schema? : ProducerBuilderCall → Option (Option SchemaReference)
  | .withSchemaSubject subject => some (some ⟨subject, some (.useLatest true)⟩)
  | .withSchemaVersion subject version => some (some ⟨subject, some (.pinnedVersion version)⟩)
  | .withSchemaMinVersion subject minVersion => some (some ⟨subject, some (.minVersion minVersion)⟩)
  | _ => none

def strategy? : ProducerBuilderCall → Option DispatchStrategy
  | .withDispatchStrategy strategy => some strategy
  | _ => none

def partitions? : ProducerBuilderCall → Option Nat
  | .withPartitions partitions => some partitions
  | _ => none

def options? : ProducerBuilderCall → Option ProducerOptions
  | .withOptions options => some options
  | _ => none

end ProducerBuilderCall

open Setters ProducerBuilderCall in
/-- A producer with what the calls set last. -/
def ProducerConfig.set (calls : List ProducerBuilderCall) : ProducerConfig where
  topicName := lastSet topic? calls ""
  producerName := lastSet name? calls ""
  partitions := lastSet partitions? calls 0
  schemaRef := lastSet schema? calls none
  dispatchStrategy := lastSet strategy? calls .nonReliable
  options := lastSet options? calls {}

namespace ProducerBuilder

open Setters ProducerBuilderCall in
theorem ofCalls_eq (calls : List ProducerBuilderCall) : ofCalls calls = {
    topic := lastSet topic? calls ""
    producerName := lastSet name? calls ""
    partitions := lastSet partitions? calls 0
    schemaRef := lastSet schema? calls none
    dispatchStrategy := lastSet strategy? calls .nonReliable
    options := lastSet options? calls {} } := by
  let b := ofCalls calls
  have htopic : b.topic = _ := foldl_lastSet apply topic topic? (fun b c => by cases c <;> rfl) {} calls
  have hname : b.producerName = _ :=
    foldl_lastSet apply producerName name? (fun b c => by cases c <;> rfl) {} calls
  have hpartitions : b.partitions = _ :=
    foldl_lastSet apply partitions partitions? (fun b c => by cases c <;> rfl) {} calls
  have hschema : b.schemaRef = _ :=
    foldl_lastSet apply schemaRef schema? (fun b c => by cases c <;> rfl) {} calls
  have hstrategy : b.dispatchStrategy = _ :=
    foldl_lastSet apply dispatchStrategy strategy? (fun b c => by cases c <;> rfl) {} calls
  have hoptions : b.options = _ :=
    foldl_lastSet apply options options? (fun b c => by cases c <;> rfl) {} calls
  calc ofCalls calls
      = ⟨b.topic, b.producerName, b.partitions, b.schemaRef, b.dispatchStrategy, b.options⟩ := rfl
    _ = _ := by rw [htopic, hname, hpartitions, hschema, hstrategy, hoptions]

/-- `build()` needs a topic and a name, and takes what was set last. -/
theorem build_ofCalls (calls : List ProducerBuilderCall) : (ofCalls calls).build =
    if (ProducerConfig.set calls).topicName = "" then .error (.value "topic must be set")
    else if (ProducerConfig.set calls).producerName = "" then .error (.value "producer name must be set")
    else .ok (ProducerConfig.set calls) := by
  rw [ofCalls_eq]
  rfl

end ProducerBuilder

end Danube
