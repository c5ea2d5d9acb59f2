import Danube.Consulting
import Mathlib.Algebra.Order.BigOperators.Group.List
import Mathlib.Algebra.Order.Group.Nat

/-!
# Coroutines that are granted

Each coroutine that a `gather` runs, or a `create()` on its own, returns after at most five of its pieces
when it is granted what it waits for.
-/

namespace Danube

open Async

/-- The pieces that a granted coroutine has left. -/
def Child.left : Child → Nat
  | .scheduled => 5
  | .started (.await k) => k.left
  | .started _ => 0

theorem Child.left_le (c : Child) : c.left ≤ 5 := by
  unfold left
  split
  · omega
  · exact Registering.left_le _
  · omega

namespace Pool

variable {ρ : Type} {role : Role ρ} {schemaRef : Option SchemaReference} {p q : Pool ρ} {ref : Nat}
  {refs : List Nat} {w : Wake} {env : Env}

/-! ## One coroutine -/

/-- Nothing outside the client raises, and the answer grants what the coroutine of `ref` waits for. -/
def GrantsChild (schemaRef : Option SchemaReference) (p : Pool ρ) (ref : Nat) (w : Wake) (env : Env) :
    Prop :=
  env.Works ∧ ∀ k, p.children[ref]? = some (.started (.await k)) → k.Granted schemaRef w

theorem child_nears (h : p.Consulting role schemaRef) (hg : p.GrantsChild schemaRef ref w env)
    (hq : p.child role ref w env = some q) :
    ∃ c c', p.children[ref]? = some c ∧ q.children = p.children.set ref c' ∧ c'.left < c.left ∧
      ∀ err, c' ≠ .started (.raise err) := by
  obtain ⟨c, s, ran, hc, hs, hran, rfl⟩ := child_eq_some.mp hq
  refine ⟨c, .started ran.next, hc, rfl, ?_⟩
  have hnears : Endpoint.Nears c.left ran := by
    rcases childPiece_cases hran with ⟨rfl, -, rfl⟩ | ⟨k, rfl, hresume⟩
    · exact Endpoint.create_nears role hg.1 s
    · have hgk : k.Granted (role.schemaRef s.self.own) w := by
        rw [h.scope hs]
        exact hg.2 k hc
      exact Endpoint.resume_nears role hg.1 hgk hresume
  have hpos : 0 < c.left := by
    rcases childPiece_cases hran with ⟨rfl, -, -⟩ | ⟨k, rfl, -⟩
    · simp [Child.left]
    · exact k.left_pos
  unfold Endpoint.Nears at hnears
  cases hnext : ran.next with
  | await k =>
    rw [hnext] at hnears
    exact ⟨hnears, by simp⟩
  | ret id => exact ⟨hpos, by simp⟩
  | raise err =>
    rw [hnext] at hnears
    exact hnears.elim

theorem exists_grant (h : p.Consulting role schemaRef) (hsound : p.Sound) {c : Child}
    (hc : p.children[ref]? = some c) (hleft : 0 < c.left) :
    ∃ w, ∀ env, env.Works → p.GrantsChild schemaRef ref w env ∧ (p.child role ref w env).isSome := by
  have hlt : ref < p.endpoints.length := hsound.length ▸ (List.getElem?_eq_some_iff.mp hc).1
  obtain ⟨s, hs⟩ : ∃ s, p.scope ref = some s :=
    ⟨_, by rw [scope, List.getElem?_eq_getElem hlt]; rfl⟩
  have hchild : ∀ {env : Env} {w : Wake}, (childPiece role env s c w).isSome →
      (p.child role ref w env).isSome := by
    intro env w hran
    obtain ⟨ran, hran⟩ := Option.isSome_iff_exists.mp hran
    exact Option.isSome_iff_exists.mpr ⟨_, child_eq_some.mpr ⟨c, s, ran, hc, hs, hran, rfl⟩⟩
  cases c with
  | scheduled =>
    refine ⟨.start, fun env hw => ⟨⟨hw, fun k hk => ?_⟩, hchild rfl⟩⟩
    rw [hc] at hk
    cases hk
  | started o =>
    cases o with
    | await k =>
      have hconsults : k.Consults (role.schemaRef s.self.own) := by
        rw [h.scope hs]
        exact h.children ref k hc
      -- Whatever it waits for, there is an answer that grants it.
      obtain ⟨w, hg, hresume⟩ := Endpoint.exists_granted role hconsults
      refine ⟨w, fun env hw => ⟨⟨hw, fun k' hk' => ?_⟩, hchild (hresume env)⟩⟩
      obtain rfl : k = k' := by simpa using hc.symm.trans hk'
      exact h.scope hs ▸ hg
    | ret id => simp [Child.left] at hleft
    | raise err => simp [Child.left] at hleft

/-! ## The coroutines of one call -/

/-- The pieces that the coroutines of `refs` have left when they are granted. -/
def leftOf (refs : List Nat) (children : List Child) : Nat :=
  (refs.map fun r => (children[r]?.map Child.left).getD 0).sum

def NoneRaised (refs : List Nat) (children : List Child) : Prop :=
  ∀ r ∈ refs, ∀ err, children[r]? ≠ some (.started (.raise err))

variable {children : List Child}

theorem leftOf_le (refs : List Nat) (children : List Child) :
    leftOf refs children ≤ 5 * refs.length := by
  unfold leftOf
  induction refs with
  | nil => simp
  | cons r rs ih =>
    have hle : (children[r]?.map Child.left).getD 0 ≤ 5 := by
      cases children[r]? with
      | none => simp
      | some c => simpa using c.left_le
    simp only [List.map_cons, List.sum_cons, List.length_cons]
    omega

theorem leftOf_set_lt {c c' : Child} (hr : ref ∈ refs) (hc : children[ref]? = some c)
    (hlt : c'.left < c.left) : leftOf refs (children.set ref c') < leftOf refs children := by
  have hset := List.getElem?_set_self (a := c') (List.getElem?_eq_some_iff.mp hc).1
  unfold leftOf
  refine List.sum_lt_sum _ _ (fun r _ => ?_) ⟨ref, hr, ?_⟩
  · rcases eq_or_ne r ref with rfl | hne
    · rw [hset, hc]
      exact Nat.le_of_lt hlt
    · rw [List.getElem?_set_ne (Ne.symm hne)]
  · rw [hset, hc]
    exact hlt

theorem leftOf_set_of_notMem (c : Child) (hr : ref ∉ refs) :
    leftOf refs (children.set ref c) = leftOf refs children := by
  unfold leftOf
  refine congrArg List.sum (List.map_congr_left fun r hmem => ?_)
  rw [List.getElem?_set_ne]
  rintro rfl
  exact hr hmem

theorem NoneRaised.set (h : NoneRaised refs children) {c : Child}
    (hc : ref ∈ refs → ∀ err, c ≠ .started (.raise err)) : NoneRaised refs (children.set ref c) := by
  intro r hr err hraise
  rw [List.getElem?_set] at hraise
  split at hraise
  · rename_i heq
    split at hraise
    · exact hc (heq ▸ hr) err (Option.some.inj hraise)
    · cases hraise
  · exact h r hr err hraise

theorem returned_or_waits {g : Gather} (hlt : ∀ r ∈ g.refs, r < children.length)
    (h : NoneRaised g.refs children) :
    g.allReturned children = true ∨ ∃ r ∈ g.refs, ∃ c, children[r]? = some c ∧ 0 < c.left := by
  by_cases hwaits : ∃ r ∈ g.refs, ∃ c, children[r]? = some c ∧ 0 < c.left
  · exact Or.inr hwaits
  · refine Or.inl (List.all_eq_true.mpr fun r hr => ?_)
    obtain ⟨c, hc⟩ : ∃ c, children[r]? = some c := ⟨_, List.getElem?_eq_getElem (hlt r hr)⟩
    cases c with
    | scheduled => exact (hwaits ⟨r, hr, _, hc, by simp [Child.left]⟩).elim
    | started o =>
      cases o with
      | await k => exact (hwaits ⟨r, hr, _, hc, k.left_pos⟩).elim
      | ret id => simp [hc]
      | raise err => exact (h r hr err hc).elim

end Pool

theorem Gather.note_eq_self {g : Gather} {ref : Nat} {c : Option Child}
    (h : ref ∈ g.refs → ∀ err, c ≠ some (.started (.raise err))) : g.note ref c = g := by
  unfold Gather.note
  split
  · rename_i err
    rw [if_neg fun hmem => h hmem.1 err rfl]
  · rfl

end Danube
