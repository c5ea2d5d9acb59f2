import Danube.Client
import Danube.Async.Coroutine

/-!
# The schema registry (`schema_registry_client.py`, `schema.py`)

Every operation is one RPC to the service URL. What it asks is built before, and what its caller gets is
read off the answer.
-/

namespace Danube

open Async

inductive CompatibilityMode
  | none | backward | forward | full
  deriving DecidableEq, Repr

def CompatibilityMode.asString : CompatibilityMode → String
  | .none => "none"
  | .backward => "backward"
  | .forward => "forward"
  | .full => "full"

inductive SchemaType
  | bytes | string | number | avro | jsonSchema | protobuf
  deriving DecidableEq, Repr

def SchemaType.asString : SchemaType → String
  | .bytes => "bytes"
  | .string => "string"
  | .number => "number"
  | .avro => "avro"
  | .jsonSchema => "json_schema"
  | .protobuf => "protobuf"

structure RegisterSchemaRequest where
  subject : String
  schemaType : String
  schemaDefinition : List UInt8
  description : String
  createdBy : String
  tags : List String
  deriving DecidableEq, Repr

inductive RegistryRequest
  | registerSchema (request : RegisterSchemaRequest)
  | getSchema (schemaId : UInt64) (version : Option UInt32)
  | getLatestSchema (subject : String)
  | listVersions (subject : String)
  | checkCompatibility (subject : String) (newSchemaDefinition : List UInt8) (schemaType : String)
      (compatibilityMode : Option String)
  | setCompatibilityMode (subject compatibilityMode : String)
  | deleteSchemaVersion (subject : String) (version : UInt32)
  | configureTopicSchema (topicName schemaSubject validationPolicy : String)
      (enablePayloadValidation : Bool)
  | updateTopicValidationPolicy (topicName validationPolicy : String) (enablePayloadValidation : Bool)
  | getTopicSchemaConfig (topicName : String)
  deriving DecidableEq, Repr

/-- An RPC of the registry in flight. -/
structure RegistryRpc where
  conn : RpcConnection
  request : RegistryRequest
  metadata : Option Metadata
  deriving DecidableEq, Repr

/-- `GetSchemaResponse`, as far as the client reads it. -/
structure GetSchemaResponse where
  schemaId : Nat
  subject : String
  version : Nat
  schemaType : String
  schemaDefinition : List UInt8
  fingerprint : String
  deriving DecidableEq, Repr

structure GetTopicSchemaConfigResponse where
  schemaSubject : String
  validationPolicy : String
  enablePayloadValidation : Bool
  schemaId : Nat
  deriving DecidableEq, Repr

inductive RegistryResponse
  | registered (schemaId : Nat)
  | schema (response : GetSchemaResponse)
  | versions (versions : List Nat)
  | compatibility (isCompatible : Bool) (errors : List String)
  | outcome (success : Bool) (message : String)
  | topicSchema (response : GetTopicSchemaConfigResponse)
  deriving DecidableEq, Repr

/-! ## The registration builder -/

structure SchemaRegistrationBuilder where
  subject : String
  schemaType : Option SchemaType := none
  schemaData : List UInt8 := []
  description : String := ""
  createdBy : String := ""
  tags : List String := []
  deriving DecidableEq, Repr

/-- A call of a setter. `tags` is what the caller's list holds when `execute()` reads it. -/
inductive RegistrationCall
  | withType (schemaType : SchemaType)
  | withSchemaData (data : List UInt8)
  | withDescription (description : String)
  | withCreatedBy (createdBy : String)
  | withTags (tags : List String)
  deriving DecidableEq, Repr

namespace SchemaRegistrationBuilder

def apply (b : SchemaRegistrationBuilder) : RegistrationCall → SchemaRegistrationBuilder
  | .withType schemaType => { b with schemaType := some schemaType }
  | .withSchemaData data => { b with schemaData := data }
  | .withDescription description => { b with description := description }
  | .withCreatedBy createdBy => { b with createdBy := createdBy }
  | .withTags tags => { b with tags := tags }

/-- `execute()`, up to its RPC. -/
def execute (b : SchemaRegistrationBuilder) : Except Error RegistryRequest :=
  match b.schemaType with
  | none => .error (.value "schema type is required")
  | some schemaType =>
    if b.schemaData = [] then .error (.value "schema data is required")
    else .ok (.registerSchema {
      subject := b.subject
      schemaType := schemaType.asString
      schemaDefinition := b.schemaData
      description := b.description
      createdBy := if b.createdBy = "" then "danube-py" else b.createdBy
      tags := b.tags })

end SchemaRegistrationBuilder

/-! ## The operations -/

/-- A method of `SchemaRegistryClient`, with its arguments. `registerSchema` is a builder, the calls
on it and its `execute()`. Ids and versions are as wide as the fields that they are put in. -/
inductive RegistryOperation
  | registerSchema (subject : String) (calls : List RegistrationCall)
  | getSchemaById (schemaId : UInt64)
  | getSchemaVersion (schemaId : UInt64) (version : Option UInt32)
  | getLatestSchema (subject : String)
  | listVersions (subject : String)
  | checkCompatibility (subject : String) (schemaData : List UInt8) (schemaType : SchemaType)
      (mode : Option CompatibilityMode)
  | setCompatibilityMode (subject : String) (mode : CompatibilityMode)
  | deleteSchemaVersion (subject : String) (version : UInt32)
  | configureTopicSchema (topicName schemaSubject validationPolicy : String)
      (enablePayloadValidation : Bool)
  | updateTopicValidationPolicy (topicName validationPolicy : String) (enablePayloadValidation : Bool)
  | getTopicSchemaConfig (topicName : String)
  deriving DecidableEq, Repr

/-- What it asks the registry, unless it raises before. -/
def RegistryOperation.request : RegistryOperation → Except Error RegistryRequest
  | .registerSchema subject calls =>
    (calls.foldl SchemaRegistrationBuilder.apply { subject := subject }).execute
  | .getSchemaById schemaId => .ok (.getSchema schemaId none)
  | .getSchemaVersion schemaId version => .ok (.getSchema schemaId version)
  | .getLatestSchema subject => .ok (.getLatestSchema subject)
  | .listVersions subject => .ok (.listVersions subject)
  | .checkCompatibility subject schemaData schemaType mode =>
    .ok (.checkCompatibility subject schemaData schemaType.asString
      (mode.map CompatibilityMode.asString))
  | .setCompatibilityMode subject mode => .ok (.setCompatibilityMode subject mode.asString)
  | .deleteSchemaVersion subject version => .ok (.deleteSchemaVersion subject version)
  | .configureTopicSchema topicName schemaSubject validationPolicy enablePayloadValidation =>
    .ok (.configureTopicSchema topicName schemaSubject validationPolicy enablePayloadValidation)
  | .updateTopicValidationPolicy topicName validationPolicy enablePayloadValidation =>
    .ok (.updateTopicValidationPolicy topicName validationPolicy enablePayloadValidation)
  | .getTopicSchemaConfig topicName => .ok (.getTopicSchemaConfig topicName)

/-- Whether an answer is of the kind that a request gets. -/
def RegistryRequest.answers : RegistryRequest → RegistryResponse → Bool
  | .registerSchema _, .registered _ => true
  | .getSchema .., .schema _ | .getLatestSchema _, .schema _ => true
  | .listVersions _, .versions _ => true
  | .checkCompatibility .., .compatibility .. => true
  | .setCompatibilityMode .., .outcome .. | .deleteSchemaVersion .., .outcome .. => true
  | .configureTopicSchema .., .outcome .. | .updateTopicValidationPolicy .., .outcome .. => true
  | .getTopicSchemaConfig _, .topicSchema _ => true
  | _, _ => false

namespace Client

/-- `_prepare` and the RPC that follows it. -/
def registry (c : Client) (out : Outside) (request : RegistryRequest) :
    Client × Except Error RegistryRpc :=
  match c.prepare out c.uri with
  | (c, .error e) => (c, .error e)
  | (c, .ok (conn, metadata)) => (c, .ok ⟨conn, request, metadata⟩)

end Client

/-- A call of one of the operations. What it returns is the answer, from which each of them reads the
fields that it has. -/
structure RegistryTask where
  operation : RegistryOperation
  status : Outcome RegistryRpc RegistryResponse Error
  deriving DecidableEq, Repr

namespace RegistryTask

/-- The RPC that it awaits. -/
def rpc? (t : RegistryTask) : Option RegistryRpc :=
  match t.status with
  | .await rpc => some rpc
  | _ => none

/-- A call, up to its RPC. -/
def start (operation : RegistryOperation) (out : Outside) (c : Client) : Client × RegistryTask :=
  match operation.request with
  | .error e => (c, ⟨operation, .raise e⟩)
  | .ok request =>
    match c.registry out request with
    | (c, .error e) => (c, ⟨operation, .raise e⟩)
    | (c, .ok rpc) => (c, ⟨operation, .await rpc⟩)

/-- The answer wakes it. -/
def answer (t : RegistryTask) : Except RpcError RegistryResponse → Option RegistryTask
  | .ok response =>
    match t.status with
    | .await rpc => if rpc.request.answers response then some { t with status := .ret response } else none
    | _ => none
  | .error err =>
    match t.status with
    | .await _ => some { t with status := .raise (.rpc err) }
    | _ => none

/-- What `start` leads to. -/
inductive Started (operation : RegistryOperation) (out : Outside) (c : Client) :
    Client → RegistryTask → Prop
  | refused (err : Error) (hrequest : operation.request = .error err) :
    Started operation out c c ⟨operation, .raise err⟩
  | failed (request : RegistryRequest) (hrequest : operation.request = .ok request) (c' : Client)
    (err : Error) (hprepare : c.prepare out c.uri = (c', .error err)) :
    Started operation out c c' ⟨operation, .raise err⟩
  | issued (request : RegistryRequest) (hrequest : operation.request = .ok request) (c' : Client)
    (conn : RpcConnection) (metadata : Option Metadata)
    (hprepare : c.prepare out c.uri = (c', .ok (conn, metadata))) :
    Started operation out c c' ⟨operation, .await ⟨conn, request, metadata⟩⟩

theorem started {operation : RegistryOperation} {out : Outside} {c c' : Client} {t : RegistryTask}
    (h : start operation out c = (c', t)) : Started operation out c c' t := by
  unfold start Client.registry at h
  split at h
  · cases h
    exact .refused _ ‹_›
  · rename_i request hrequest
    cases hprepare : c.prepare out c.uri with
    | mk d x =>
      rw [hprepare] at h
      cases x with
      | error err =>
        cases h
        exact .failed request hrequest _ err hprepare
      | ok x =>
        cases h
        exact .issued request hrequest _ x.1 x.2 hprepare

end RegistryTask

end Danube
