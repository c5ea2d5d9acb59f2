import Danube.MessageRouter
import Danube.Word.XorMultiply

/-! # The hash of a routing key (`message_router.py`) -/

namespace Danube

open Word

/-- The bytes that the hash takes in. -/
def keyBytes (key : String) : List UInt8 := key.toUTF8.toList

theorem toList_loop (bytes : ByteArray) (i : Nat) (r : List UInt8) :
    ByteArray.toList.loop bytes i r = r.reverse ++ bytes.data.toList.drop i := by
  have hsize : bytes.data.toList.length = bytes.size := rfl
  induction hn : bytes.size - i generalizing i r with
  | zero =>
    unfold ByteArray.toList.loop
    rw [if_neg (by omega), List.drop_of_length_le (by omega), List.append_nil]
  | succ n ih =>
    have hi : i < bytes.data.toList.length := by omega
    have hget : bytes.get! i = bytes.data.toList[i] := getElem!_pos bytes.data i hi
    unfold ByteArray.toList.loop
    rw [if_pos (by omega), ih _ _ (by omega), List.drop_eq_getElem_cons hi, hget, List.reverse_cons,
      List.append_assoc, List.singleton_append]

theorem keyBytes_ofList (cs : List Char) :
    keyBytes (String.ofList cs) = cs.flatMap String.utf8EncodeChar := by
  have hbytes : (String.ofList cs).toUTF8.data.toList = cs.flatMap String.utf8EncodeChar :=
    List.toList_data_toByteArray
  unfold keyBytes ByteArray.toList
  rw [toList_loop, List.reverse_nil, List.nil_append, List.drop_zero, hbytes]

/-- One step of FNV-1a in wrapping 64-bit arithmetic. -/
def fnv1aStep64 (h : UInt64) (byte : UInt8) : UInt64 := (h ^^^ byte.toUInt64) * 0x100000001B3

/-- FNV-1a in wrapping 64-bit arithmetic. -/
def fnv1a64 (bytes : List UInt8) : UInt64 := bytes.foldl fnv1aStep64 0xCBF29CE484222325

/-- The loop of `_fnv1a_hash` without its mask. -/
def fnv1aUnmasked (bytes : List UInt8) : Nat :=
  bytes.foldl (fun h byte => (h ^^^ byte.toNat) * fnvPrime) fnvOffset

theorem and_fnvMask (n : Nat) : n &&& fnvMask = n % 2 ^ 64 := Nat.and_two_pow_sub_one_eq_mod n 64

theorem fnv1aStep_eq (h : Nat) (byte : UInt8) :
    fnv1aStep h byte = xorMulMod 64 fnvPrime h byte.toNat := and_fnvMask _

theorem fnvOffset_lt : fnvOffset < 2 ^ 64 := by decide

theorem foldl_fnv1aStep (bytes : List UInt8) (h : Nat) :
    bytes.foldl fnv1aStep h = (bytes.map UInt8.toNat).foldl (xorMulMod 64 fnvPrime) h := by
  rw [List.foldl_map]
  exact congrArg (fun f => bytes.foldl f h) (funext₂ fnv1aStep_eq)

theorem fnv1aHash_eq (key : String) :
    fnv1aHash key = xorFold fnvPrime fnvOffset ((keyBytes key).map UInt8.toNat) % 2 ^ 64 := by
  unfold fnv1aHash
  rw [foldl_fnv1aStep]
  exact foldl_xorMulMod fnvOffset_lt _

theorem fnv1aStep64_toNat (h : UInt64) (byte : UInt8) :
    (fnv1aStep64 h byte).toNat = fnv1aStep h.toNat byte := by
  rw [fnv1aStep_eq, fnv1aStep64, UInt64.toNat_mul, UInt64.toNat_xor, UInt8.toNat_toUInt64]
  rfl

theorem foldl_fnv1aStep64_toNat (bytes : List UInt8) (h : UInt64) :
    (bytes.foldl fnv1aStep64 h).toNat = bytes.foldl fnv1aStep h.toNat := by
  induction bytes generalizing h with
  | nil => rfl
  | cons b bs ih => rw [List.foldl_cons, List.foldl_cons, ih, fnv1aStep64_toNat]

/-- The hash and the partition that it gives are those of wrapping 64-bit arithmetic, the running hash
never leaves 64 bits, and the masks could wait until the end. -/
theorem key_route_eq_wrapping (r : MessageRouter) (key : String) :
    fnv1aHash key = (fnv1a64 (keyBytes key)).toNat ∧
      (∀ pre, pre <+: keyBytes key → pre.foldl fnv1aStep fnvOffset < 2 ^ 64) ∧
      fnv1aUnmasked (keyBytes key) &&& fnvMask = fnv1aHash key ∧
      r.keyRoute key = (fnv1a64 (keyBytes key)).toNat % r.partitions ∧
      r.keyRoute key < r.partitions := by
  have hwrapping : fnv1aHash key = (fnv1a64 (keyBytes key)).toNat :=
    (foldl_fnv1aStep64_toNat (keyBytes key) 0xCBF29CE484222325).symm
  refine ⟨hwrapping, fun pre _ => ?_, ?_, ?_, Nat.mod_lt _ r.partitions_pos⟩
  · rw [foldl_fnv1aStep]
    exact foldl_xorMulMod_lt fnvOffset_lt _
  · rw [and_fnvMask, fnv1aHash_eq, xorFold, List.foldl_map]
    rfl
  · rw [← hwrapping]
    rfl

/-! ## Keys that differ in one byte -/

theorem fnvPrime_odd : Odd fnvPrime := by decide

theorem split_at_difference {α : Type} {as bs : List α} {i : Nat} {x y : α} (hx : as[i]? = some x) (hy : bs[i]? = some y)
    (hother : ∀ j : Nat, j ≠ i → as[j]? = bs[j]?) :
    ∃ pre post, as = pre ++ x :: post ∧ bs = pre ++ y :: post := by
  obtain ⟨hi, rfl⟩ := List.getElem?_eq_some_iff.mp hx
  obtain ⟨hi', rfl⟩ := List.getElem?_eq_some_iff.mp hy
  refine ⟨as.take i, as.drop (i + 1), ?_, ?_⟩
  · rw [← List.drop_eq_getElem_cons hi, List.take_append_drop]
  · have hpre : as.take i = bs.take i := by
      refine List.ext_getElem? fun j => ?_
      rw [List.getElem?_take, List.getElem?_take]
      split
      · exact hother j (by omega)
      · rfl
    have hpost : as.drop (i + 1) = bs.drop (i + 1) := by
      refine List.ext_getElem? fun j => ?_
      rw [List.getElem?_drop, List.getElem?_drop]
      exact hother _ (by omega)
    rw [hpre, hpost, ← List.drop_eq_getElem_cons hi', List.take_append_drop]

/-- Modulo a power of two that divides `2 ^ 64` the cut of the state does not show. -/
theorem keyRoute_eq_iff {r : MessageRouter} {k : Nat} (hk : k ≤ 64) (hr : r.partitions = 2 ^ k)
    (key key' : String) : r.keyRoute key = r.keyRoute key' ↔
      xorFold fnvPrime fnvOffset ((keyBytes key).map UInt8.toNat) ≡
        xorFold fnvPrime fnvOffset ((keyBytes key').map UInt8.toNat) [MOD 2 ^ k] := by
  have hdvd : 2 ^ k ∣ 2 ^ 64 := Nat.pow_dvd_pow 2 hk
  unfold MessageRouter.keyRoute
  rw [hr, fnv1aHash_eq, fnv1aHash_eq, Nat.mod_mod_of_dvd _ hdvd, Nat.mod_mod_of_dvd _ hdvd]
  rfl

/-- Over `2 ^ k` partitions, two keys that differ in one byte share a partition exactly if the low `k`
bits of these bytes agree: never over 256 partitions or more. -/
theorem near_keys_collide_iff {r : MessageRouter} {k : Nat} (hk : k ≤ 64)
    (hr : r.partitions = 2 ^ k) {key key' : String} {i : Nat} {x y : UInt8}
    (hx : (keyBytes key)[i]? = some x) (hy : (keyBytes key')[i]? = some y) (hxy : x ≠ y)
    (hother : ∀ j : Nat, j ≠ i → (keyBytes key)[j]? = (keyBytes key')[j]?) :
    (r.keyRoute key = r.keyRoute key' ↔ x.toNat % 2 ^ k = y.toNat % 2 ^ k) ∧
      (256 ≤ r.partitions → r.keyRoute key ≠ r.keyRoute key') := by
  obtain ⟨pre, post, hkey, hkey'⟩ := split_at_difference hx hy hother
  have hiff : r.keyRoute key = r.keyRoute key' ↔ x.toNat % 2 ^ k = y.toNat % 2 ^ k := by
    rw [keyRoute_eq_iff hk hr, hkey, hkey', List.map_append, List.map_append, List.map_cons,
      List.map_cons, xorFold_one_value fnvPrime_odd]
    rfl
  refine ⟨hiff, fun hmany heq => hxy ?_⟩
  have hbytes := hiff.mp heq
  rw [hr] at hmany
  rw [Nat.mod_eq_of_lt (Nat.lt_of_lt_of_le x.toNat_lt hmany),
    Nat.mod_eq_of_lt (Nat.lt_of_lt_of_le y.toNat_lt hmany)] at hbytes
  exact UInt8.toNat_inj.mp hbytes

/-- Two sequential keys over two partitions. -/
theorem sequential_keys_apart :
    ((MessageRouter.init (2 ^ 1) (by decide)).keyRoute "k1" =
      (MessageRouter.init (2 ^ 1) (by decide)).keyRoute "k2" ↔
        (0x31 : UInt8).toNat % 2 ^ 1 = (0x32 : UInt8).toNat % 2 ^ 1) ∧
      (256 ≤ (MessageRouter.init (2 ^ 1) (by decide)).partitions →
        (MessageRouter.init (2 ^ 1) (by decide)).keyRoute "k1" ≠
          (MessageRouter.init (2 ^ 1) (by decide)).keyRoute "k2") := by
  have hkey : keyBytes "k1" = [0x6B, 0x31] := keyBytes_ofList ['k', '1']
  have hkey' : keyBytes "k2" = [0x6B, 0x32] := keyBytes_ofList ['k', '2']
  refine near_keys_collide_iff (i := 1) (by decide) rfl ?_ ?_ (by decide) ?_
  · rw [hkey]
    rfl
  · rw [hkey']
    rfl
  · rw [hkey, hkey']
    intro j hj
    match j with
    | 0 => rfl
    | 1 => exact (hj rfl).elim
    | n + 2 => rfl

end Danube
