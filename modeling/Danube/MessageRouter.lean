import Mathlib.Data.List.Basic

/-! # Partition choice (`message_router.py`) -/

namespace Danube

/-- A router is only built for a partitioned topic. -/
structure MessageRouter where
  partitions : Nat
  last : Nat
  partitions_pos : 0 < partitions
  deriving Repr

def fnvOffset : Nat := 0xCBF29CE484222325
def fnvPrime : Nat := 0x100000001B3
def fnvMask : Nat := 0xFFFFFFFFFFFFFFFF

def fnv1aStep (h : Nat) (byte : UInt8) : Nat := ((h ^^^ byte.toNat) * fnvPrime) &&& fnvMask

def fnv1aHash (key : String) : Nat := key.toUTF8.toList.foldl fnv1aStep fnvOffset

namespace MessageRouter

def init (partitions : Nat) (h : 0 < partitions) : MessageRouter where
  partitions := partitions
  last := partitions - 1
  partitions_pos := h

def roundRobin (r : MessageRouter) : Nat × MessageRouter :=
  let nextPart := (r.last + 1) % r.partitions
  (nextPart, { r with last := nextPart })

def keyRoute (r : MessageRouter) (routingKey : String) : Nat := fnv1aHash routingKey % r.partitions

end MessageRouter

end Danube
