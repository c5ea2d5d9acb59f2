import Mathlib.Data.Nat.ModEq
import Mathlib.Data.Int.GCD
import Mathlib.Data.Nat.Prime.Basic

/-!
# Hashes that xor and multiply

The state takes each value in by xor and is then multiplied by a constant. Both steps agree with
reduction modulo a power of two, and for an odd constant they lose nothing of it.
-/

namespace Word

variable {p k : Nat}

/-- One step, with no bound on the state. -/
def xorMul (p h b : Nat) : Nat := (h ^^^ b) * p

def xorFold (p h : Nat) (bs : List Nat) : Nat := bs.foldl (xorMul p) h

@[simp] theorem xorFold_nil (p h : Nat) : xorFold p h [] = h := rfl

@[simp] theorem xorFold_cons (p h b : Nat) (bs : List Nat) :
    xorFold p h (b :: bs) = xorFold p (xorMul p h b) bs := rfl

theorem xorFold_append (p h : Nat) (as bs : List Nat) :
    xorFold p h (as ++ bs) = xorFold p (xorFold p h as) bs := List.foldl_append

/-! ## Modulo a power of two -/

theorem xor_modEq {a b c d : Nat} (h : a ≡ b [MOD 2 ^ k]) (h' : c ≡ d [MOD 2 ^ k]) :
    a ^^^ c ≡ b ^^^ d [MOD 2 ^ k] := by
  unfold Nat.ModEq at *
  rw [Nat.xor_mod_two_pow, Nat.xor_mod_two_pow, h, h']

theorem xor_modEq_iff (a b c : Nat) : a ^^^ c ≡ b ^^^ c [MOD 2 ^ k] ↔ a ≡ b [MOD 2 ^ k] := by
  refine ⟨fun h => ?_, fun h => xor_modEq h rfl⟩
  have hback := xor_modEq h (Nat.ModEq.refl c)
  rwa [Nat.xor_assoc, Nat.xor_assoc, Nat.xor_self, Nat.xor_zero, Nat.xor_zero] at hback

theorem xorMul_modEq {a b c d : Nat} (h : a ≡ b [MOD 2 ^ k]) (h' : c ≡ d [MOD 2 ^ k]) :
    xorMul p a c ≡ xorMul p b d [MOD 2 ^ k] := (xor_modEq h h').mul_right p

theorem mul_odd_modEq_iff (hp : Odd p) (a b : Nat) :
    a * p ≡ b * p [MOD 2 ^ k] ↔ a ≡ b [MOD 2 ^ k] := by
  refine ⟨Nat.ModEq.cancel_right_of_coprime ?_, fun h => h.mul_right p⟩
  exact hp.coprime_two_left.pow_left k

theorem xorMul_modEq_iff (hp : Odd p) (a b c : Nat) :
    xorMul p a c ≡ xorMul p b c [MOD 2 ^ k] ↔ a ≡ b [MOD 2 ^ k] := by
  unfold xorMul
  rw [mul_odd_modEq_iff hp, xor_modEq_iff]

theorem xorMul_modEq_iff_value (hp : Odd p) (h x y : Nat) :
    xorMul p h x ≡ xorMul p h y [MOD 2 ^ k] ↔ x ≡ y [MOD 2 ^ k] := by
  unfold xorMul
  rw [mul_odd_modEq_iff hp, Nat.xor_comm h x, Nat.xor_comm h y, xor_modEq_iff]

theorem xorFold_modEq {a b : Nat} (h : a ≡ b [MOD 2 ^ k]) (bs : List Nat) :
    xorFold p a bs ≡ xorFold p b bs [MOD 2 ^ k] := by
  induction bs generalizing a b with
  | nil => exact h
  | cons c cs ih => exact ih (xorMul_modEq h rfl)

theorem xorFold_modEq_iff (hp : Odd p) (bs : List Nat) (a b : Nat) :
    xorFold p a bs ≡ xorFold p b bs [MOD 2 ^ k] ↔ a ≡ b [MOD 2 ^ k] := by
  induction bs generalizing a b with
  | nil => rfl
  | cons c cs ih => rw [xorFold_cons, xorFold_cons, ih, xorMul_modEq_iff hp]

/-- Two inputs that differ in one value are told apart exactly as far as these values are. -/
theorem xorFold_one_value (hp : Odd p) (h : Nat) (pre post : List Nat) (x y : Nat) :
    xorFold p h (pre ++ x :: post) ≡ xorFold p h (pre ++ y :: post) [MOD 2 ^ k] ↔
      x ≡ y [MOD 2 ^ k] := by
  rw [xorFold_append, xorFold_append, xorFold_cons, xorFold_cons, xorFold_modEq_iff hp,
    xorMul_modEq_iff_value hp]

/-! ## A state of `k` bits -/

/-- One step whose result is cut to `k` bits. -/
def xorMulMod (k p h b : Nat) : Nat := xorMul p h b % 2 ^ k

theorem xorMulMod_lt (k p h b : Nat) : xorMulMod k p h b < 2 ^ k := Nat.mod_lt _ (Nat.two_pow_pos k)

theorem foldl_xorMulMod_lt {h : Nat} (hh : h < 2 ^ k) (bs : List Nat) :
    bs.foldl (xorMulMod k p) h < 2 ^ k := by
  induction bs generalizing h with
  | nil => exact hh
  | cons b bs ih => exact ih (xorMulMod_lt k p h b)

theorem foldl_xorMulMod_modEq (h : Nat) (bs : List Nat) :
    bs.foldl (xorMulMod k p) h ≡ xorFold p h bs [MOD 2 ^ k] := by
  induction bs generalizing h with
  | nil => rfl
  | cons b bs ih =>
    have hcut : xorMulMod k p h b ≡ xorMul p h b [MOD 2 ^ k] := Nat.mod_modEq _ _
    exact (ih _).trans (xorFold_modEq hcut bs)

theorem foldl_xorMulMod {h : Nat} (hh : h < 2 ^ k) (bs : List Nat) :
    bs.foldl (xorMulMod k p) h = xorFold p h bs % 2 ^ k := by
  rw [← Nat.mod_eq_of_lt (foldl_xorMulMod_lt hh bs)]
  exact foldl_xorMulMod_modEq h bs

end Word
