import Danube.Connection
import Danube.Async.Runs

/-!
# Concurrent calls of `get_connection`

The tasks of one client share its connection manager, and each looks its channel up and creates it
under the manager's lock.
-/

namespace Danube

open Async

/-- A call of `get_connection`: its arguments, and how it ended. It has no result while it waits for
the lock. -/
structure ConnectionCall where
  brokerUrl : String
  connectUrl : String
  result : Option (Except Error RpcConnection) := none

/-- A connection manager, whether its `asyncio.Lock` is held, and the calls so far. -/
structure ConnectionCache where
  manager : ConnectionManager
  locked : Bool := false
  calls : List ConnectionCall := []

inductive ConnectionLabel
  /-- A task calls `get_connection`. -/
  | call (brokerUrl connectUrl : String) (out : Outside)
  /-- A task that waits for the lock gets it. -/
  | resume (i : Nat) (out : Outside)

namespace ConnectionCache

def init (options : ConnectionOptions) : ConnectionCache where
  manager := .init options

def acquire (s : ConnectionCache) : ConnectionCache := { s with locked := true }

/-- `async with` releases its lock also when its body raises. -/
def release (s : ConnectionCache) : ConnectionCache := { s with locked := false }

/-- The body of the `async with` statement. It does not wait. -/
def lockedBody (s : ConnectionCache) (brokerUrl connectUrl : String) (out : Outside) :
    ConnectionCache × Except Error RpcConnection :=
  let (manager, result) := s.manager.getConnection out brokerUrl connectUrl
  ({ s with manager := manager }, result)

/-- The piece of a call that gets the lock. -/
def getConnection (s : ConnectionCache) (brokerUrl connectUrl : String) (out : Outside) :
    ConnectionCache × ConnectionCall :=
  let (s, result) := s.acquire.lockedBody brokerUrl connectUrl out
  (s.release, ⟨brokerUrl, connectUrl, some result⟩)

/-- `asyncio.Lock` is free for a new call. -/
def Free (s : ConnectionCache) : Prop :=
  s.locked = false ∧ ∀ call ∈ s.calls, call.result.isSome

instance (s : ConnectionCache) : Decidable s.Free := inferInstanceAs (Decidable (_ ∧ _))

def step (s : ConnectionCache) : ConnectionLabel → Option ConnectionCache
  | .call brokerUrl connectUrl out =>
    if s.Free then
      let (t, call) := s.getConnection brokerUrl connectUrl out
      some { t with calls := s.calls ++ [call] }
    else some { s with calls := s.calls ++ [⟨brokerUrl, connectUrl, none⟩] }
  | .resume i out =>
    match s.calls[i]? with
    | some ⟨brokerUrl, connectUrl, none⟩ =>
      if s.locked then none
      else
        let (t, call) := s.getConnection brokerUrl connectUrl out
        some { t with calls := s.calls.set i call }
    | _ => none

end ConnectionCache

/-! ## The target of a channel -/

theorem removePrefix?_append (p rest : String) : removePrefix? p (p ++ rest) = some rest := by
  unfold removePrefix?
  rw [String.toList_append, if_pos (by simp), ← String.length_toList, List.drop_left, String.ofList_toList]

theorem removePrefix?_eq_some {p url rest : String} (h : removePrefix? p url = some rest) :
    url = p ++ rest := by
  unfold removePrefix? at h
  split at h
  · rename_i hp
    obtain ⟨t, ht⟩ := List.isPrefixOf_iff_prefix.mp hp
    rw [Option.some.injEq, ← ht, ← String.length_toList, List.drop_left] at h
    apply String.toList_inj.mp
    rw [String.toList_append, ← h, ← ht, String.toList_ofList]
  · cases h

/-- The target is the URL without its scheme, if it has one: at most one is removed. -/
structure StripsScheme (connectUrl target : String) : Prop where
  https : ∀ rest, connectUrl = "https://" ++ rest → target = rest
  http : ∀ rest, connectUrl = "http://" ++ rest → target = rest
  plain : (∀ rest, connectUrl ≠ "https://" ++ rest ∧ connectUrl ≠ "http://" ++ rest) →
    target = connectUrl

theorem targetOf_stripsScheme (url : String) : StripsScheme url (targetOf url) where
  https rest h := by
    unfold targetOf
    rw [h, removePrefix?_append]
    rfl
  http rest h := by
    have hnot : removePrefix? "https://" ("http://" ++ rest) = none := by
      unfold removePrefix?
      rw [String.toList_append]
      rfl
    unfold targetOf
    rw [h, hnot, removePrefix?_append]
    rfl
  plain h := by
    have hnone : ∀ p, (∀ rest, url ≠ p ++ rest) → removePrefix? p url = none := by
      intro p hp
      cases hrest : removePrefix? p url with
      | none => rfl
      | some rest => exact (hp rest (removePrefix?_eq_some hrest)).elim
    unfold targetOf
    rw [hnone _ fun rest => (h rest).1, hnone _ fun rest => (h rest).2]
    rfl

namespace ConnectionCache

/-! ## Every interleaving -/

/-- A call returned `conn`. -/
def Returned (s : ConnectionCache) (brokerUrl connectUrl : String) (conn : RpcConnection) : Prop :=
  ⟨brokerUrl, connectUrl, some (.ok conn)⟩ ∈ s.calls

/-- No call waits, and what the calls returned is what the cache has. -/
structure Cached (s : ConnectionCache) : Prop where
  free : s.Free
  returned : ∀ b c conn, s.Returned b c conn → s.manager.connection? b c = some conn

theorem cached_init (options : ConnectionOptions) : (init options).Cached where
  free := ⟨rfl, by simp [init]⟩
  returned := by simp [init, Returned]

/-- What the call of a step leaves behind. -/
structure Calls (s s' : ConnectionCache) (b c : String) (result : Except Error RpcConnection) :
    Prop where
  calls : s'.calls = s.calls ++ [⟨b, c, some result⟩]
  manager : s.manager.Extends s'.manager
  ok : ∀ conn, result = .ok conn → s'.manager.connection? b c = some conn
  error : ∀ err, result = .error err → s'.manager = s.manager
  free : s'.locked = false

theorem getConnection_error {cm : ConnectionManager} {out : Outside} {b c : String} {err : Error}
    (h : (cm.getConnection out b c).2 = .error err) : (cm.getConnection out b c).1 = cm := by
  revert h
  unfold ConnectionManager.getConnection
  split
  · simp
  · split
    · simp
    · simp

theorem step_calls {s s' : ConnectionCache} {l : ConnectionLabel} (h : s.Free)
    (hstep : step s l = some s') : ∃ b c out, l = .call b c out ∧
      Calls s s' b c (s.manager.getConnection out b c).2 := by
  cases l with
  | call b c out =>
    simp only [step, if_pos h, Option.some.injEq] at hstep
    subst hstep
    exact ⟨b, c, out, rfl, rfl, ConnectionManager.getConnection_extends _ _ _ _,
      fun conn => ConnectionManager.getConnection_ok, fun err => getConnection_error, rfl⟩
  | resume i out =>
    simp only [step] at hstep
    split at hstep
    · rename_i b c hcall
      have hdone := h.2 _ (List.mem_of_getElem? hcall)
      cases hdone
    · cases hstep

theorem step_cached {s s' : ConnectionCache} {l : ConnectionLabel} (h : s.Cached)
    (hstep : step s l = some s') : s'.Cached := by
  obtain ⟨b, c, out, rfl, hcalls⟩ := step_calls h.free hstep
  constructor
  · refine ⟨hcalls.free, fun call hcall => ?_⟩
    rw [hcalls.calls] at hcall
    rcases List.mem_append.mp hcall with hcall | hcall
    · exact h.free.2 call hcall
    · rw [List.mem_singleton.mp hcall]
      rfl
  · intro b' c' conn hreturned
    unfold Returned at hreturned
    rw [hcalls.calls] at hreturned
    rcases List.mem_append.mp hreturned with hold | hnew
    · exact hcalls.manager.connection? (h.returned b' c' conn hold)
    · simp only [List.mem_singleton, ConnectionCall.mk.injEq, Option.some.injEq] at hnew
      obtain ⟨rfl, rfl, hok⟩ := hnew
      exact hcalls.ok conn hok.symm

theorem exec_cached {options : ConnectionOptions} {ls : List ConnectionLabel} {s : ConnectionCache}
    (h : exec step (init options) ls = some s) : s.Cached :=
  exec_invariant (P := Cached) (fun _ _ _ hs hstep => step_cached hs hstep) (cached_init options) h

theorem exec_extends {ls : List ConnectionLabel} {s s' : ConnectionCache} (h : s.Cached)
    (hrun : exec step s ls = some s') : s.manager.Extends s'.manager := by
  refine (exec_invariant (P := fun t => t.Cached ∧ s.manager.Extends t.manager) ?_
    ⟨h, .refl _⟩ hrun).2
  rintro t l t' ⟨ht, hext⟩ hstep
  obtain ⟨b, c, out, rfl, hcalls⟩ := step_calls ht.free hstep
  exact ⟨step_cached ht hstep, hext.trans hcalls.manager⟩

/-- What holds of the cache and of the calls so far, in whatever order they came. -/
structure Consistent (s : ConnectionCache) : Prop where
  distinct : (s.manager.connections.map Prod.fst).Nodup
  unlocked : s.Free
  same : ∀ b c conn b' c' conn', s.Returned b c conn → s.Returned b' c' conn' →
    (conn = conn' ↔ b = b' ∧ c = c')
  target : ∀ b c conn, s.Returned b c conn → StripsScheme c conn.channel.target

theorem Cached.consistent {s : ConnectionCache} (h : s.Cached) : s.Consistent where
  distinct := s.manager.distinct
  unlocked := h.free
  same b c conn b' c' conn' hconn hconn' := by
    have hc := h.returned b c conn hconn
    have hc' := h.returned b' c' conn' hconn'
    constructor
    · rintro rfl
      exact ConnectionManager.connection?_inj hc hc'
    · rintro ⟨rfl, rfl⟩
      exact Option.some.inj (hc.symm.trans hc')
  target b c conn hconn := by
    rw [ConnectionManager.target_of_connection? (h.returned b c conn hconn)]
    exact targetOf_stripsScheme c

/-- In every interleaving of calls the cache has one channel for each pair of addresses and keeps it,
each call gets the channel of its own pair, to its own address, and a call that raises leaves the cache
as it was and the lock free. -/
theorem get_connection_consistent {options : ConnectionOptions} {ls : List ConnectionLabel}
    {s : ConnectionCache} (h : exec step (init options) ls = some s) :
    s.Consistent ∧
      (∀ ms s', exec step s ms = some s' → s.manager.connections <+: s'.manager.connections) ∧
      ∀ l s' b c err, step s l = some s' → s'.calls = s.calls ++ [⟨b, c, some (.error err)⟩] →
        s'.manager = s.manager ∧ s'.locked = false := by
  have hcached := exec_cached h
  refine ⟨hcached.consistent, fun ms s' hms => (exec_extends hcached hms).connections, ?_⟩
  intro l s' b c err hstep hcalls
  obtain ⟨b', c', out, rfl, hstepCalls⟩ := step_calls hcached.free hstep
  have hlast := List.append_cancel_left (hstepCalls.calls.symm.trans hcalls)
  simp only [List.cons.injEq, ConnectionCall.mk.injEq, Option.some.injEq, and_true] at hlast
  exact ⟨hstepCalls.error err hlast.2.2, hstepCalls.free⟩

/-- Two tasks ask for one pair, and a third for another, whose channel cannot be created at first. -/
def twoPairs : List ConnectionLabel :=
  [.call "b" "http://b" {}, .call "c" "c" { channel := fun _ => some "no" }, .call "b" "http://b" {},
    .call "c" "c" {}]

theorem two_pairs_consistent :
    ∃ s, exec step (init {}) twoPairs = some s ∧ s.Consistent ∧
      (∀ ms s', exec step s ms = some s' → s.manager.connections <+: s'.manager.connections) ∧
      ∀ l s' b c err, step s l = some s' → s'.calls = s.calls ++ [⟨b, c, some (.error err)⟩] →
        s'.manager = s.manager ∧ s'.locked = false := by
  obtain ⟨s, hs⟩ := Option.isSome_iff_exists.mp
    (by rfl : (exec step (init {}) twoPairs).isSome)
  exact ⟨s, hs, get_connection_consistent hs⟩

end ConnectionCache

end Danube
