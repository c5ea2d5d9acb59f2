import Mathlib.Data.List.Basic

/-! # Exceptions -/

namespace Danube

/-- `grpc.StatusCode`. -/
inductive StatusCode
  | ok | cancelled | unknown | invalidArgument | deadlineExceeded | notFound | alreadyExists
  | permissionDenied | resourceExhausted | failedPrecondition | aborted | outOfRange
  | unimplemented | internal | unavailable | dataLoss | unauthenticated
  deriving DecidableEq, Repr

/-- `grpc.aio.AioRpcError`: its code, and the text that `str(err)` gives. -/
structure RpcError where
  code : StatusCode
  text : String
  deriving DecidableEq, Repr

/-- The exceptions the client sees or raises. `other` is what a token supplier or the creation of
a channel raises: neither is an awaited RPC, so neither raises an `AioRpcError`. -/
inductive Error
  | rpc (err : RpcError)
  | danube (msg : String)
  | unrecoverable (msg : String)
  | lookup (msg : String)
  | value (msg : String)
  | other (msg : String)
  deriving DecidableEq, Repr

end Danube
