import Mathlib.Logic.Function.Basic

/-!
# Stores

Objects that are passed by reference live in the cells of a store. Two holders of one address share
the object: what one writes, the other reads.
-/

namespace Memory

abbrev Address := Nat

/-- The cells, and the first address that no one has been given. -/
structure Store (α : Type*) where
  cells : Address → α
  next : Address

namespace Store

variable {α : Type*}

/-- One cell, at address 0. -/
def singleton (x : α) : Store α where
  cells _ := x
  next := 1

def read (s : Store α) (a : Address) : α := s.cells a

def write (s : Store α) (a : Address) (x : α) : Store α :=
  { s with cells := Function.update s.cells a x }

/-- A new cell, whose address is `s.next`. -/
def alloc (s : Store α) (x : α) : Store α where
  cells := Function.update s.cells s.next x
  next := s.next + 1

@[simp] theorem read_write_self (s : Store α) (a : Address) (x : α) : (s.write a x).read a = x :=
  Function.update_self ..

theorem read_write_ne {a b : Address} (h : b ≠ a) (s : Store α) (x : α) :
    (s.write a x).read b = s.read b := Function.update_of_ne h ..

@[simp] theorem next_write (s : Store α) (a : Address) (x : α) : (s.write a x).next = s.next := rfl

@[simp] theorem read_alloc_self (s : Store α) (x : α) : (s.alloc x).read s.next = x :=
  Function.update_self ..

theorem read_alloc {s : Store α} {a : Address} (h : a < s.next) (x : α) :
    (s.alloc x).read a = s.read a := Function.update_of_ne (Nat.ne_of_lt h) ..

@[simp] theorem next_alloc (s : Store α) (x : α) : (s.alloc x).next = s.next + 1 := rfl

/-- `t` has the cells of `s` as they are, and maybe new ones. -/
structure Extends (s t : Store α) : Prop where
  next : s.next ≤ t.next
  read : ∀ a, a < s.next → t.read a = s.read a

theorem Extends.refl (s : Store α) : s.Extends s := ⟨Nat.le_refl _, fun _ _ => rfl⟩

theorem Extends.trans {s t u : Store α} (h : s.Extends t) (k : t.Extends u) : s.Extends u where
  next := Nat.le_trans h.next k.next
  read a ha := (k.read a (Nat.lt_of_lt_of_le ha h.next)).trans (h.read a ha)

theorem extends_alloc (s : Store α) (x : α) : s.Extends (s.alloc x) where
  next := Nat.le_succ _
  read _ ha := read_alloc ha x

end Store

end Memory
