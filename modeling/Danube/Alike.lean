import Danube.Async.Coupled
import Danube.Endpoint

/-!
# Clients that are alike

Two clients of one service with the same options. They opened their channels in another order and have
counted other requests, and one may have more channels than the other. A world says which channels
correspond: those for the same pair of addresses. What creating a channel raises is `broken` for both.
-/

namespace Danube

open Async

/-- Which channels of two clients correspond. -/
abbrev Channels := RpcConnection → RpcConnection → Prop

/-- The request without the number that the client counts. -/
def Request.unnumbered : Request → Request
  | .topicLookup _ topic => .topicLookup 0 topic
  | .topicPartitions _ topic => .topicPartitions 0 topic
  | .healthCheck _ client id => .healthCheck 0 client id
  | request => request

structure Call.Alike (w : Channels) (x y : Call) : Prop where
  conn : w x.conn y.conn
  request : y.request.unnumbered = x.request.unnumbered
  metadata : y.metadata = x.metadata

theorem Call.Alike.later {w v : Channels} (hv : w ≤ v) {x y : Call} (h : x.Alike w y) :
    x.Alike v y := ⟨hv _ _ h.conn, h.request, h.metadata⟩

/-! ## The clients -/

/-- The client `d` has no channel that `c` has not. -/
structure Client.Alike (broken : String → Option String) (w : Channels) (c d : Client) : Prop where
  uri : d.uri = c.uri
  options : d.connectionManager.options = c.connectionManager.options
  cached : ∀ b u y, d.connection? b u = some y → ∃ x, c.connection? b u = some x ∧ w x y
  reachable : ∀ b u x, c.connection? b u = some x → broken u = none
  channels : ∀ x y, w x y → ∃ b u, c.connection? b u = some x ∧ d.connection? b u = some y

namespace ConnectionManager

theorem connection?_insert_iff {cm : ConnectionManager} {b u : String}
    (h : cm.connection? b u = none) {b' u' : String} {conn : RpcConnection} :
    (cm.insert b u h).connection? b' u' = some conn ↔ cm.connection? b' u' = some conn ∨
      (b' = b ∧ u' = u ∧ conn = ⟨cm.options.createChannel cm.connections.length u⟩) := by
  constructor
  · intro hconn
    cases hold : cm.connection? b' u' with
    | some x =>
      have hsame := (extends_insert cm b u h).connection? hold
      rw [hconn, Option.some.injEq] at hsame
      exact Or.inl (hsame ▸ rfl)
    | none =>
      right
      unfold connection? at hconn hold
      simp only [insert, List.lookup_append, hold, Option.none_or] at hconn
      obtain ⟨before, after, hsplit, -⟩ := List.lookup_eq_some_iff.mp hconn
      have hmem : (keyOf b' u', conn) ∈ before ++ (keyOf b' u', conn) :: after := by simp
      rw [← hsplit, List.mem_singleton] at hmem
      simp only [Prod.mk.injEq, keyOf, BrokerAddress.mk.injEq] at hmem
      exact ⟨hmem.1.2.1, hmem.1.1, hmem.2⟩
  · rintro (hold | ⟨rfl, rfl, rfl⟩)
    · exact (extends_insert cm b u h).connection? hold
    · exact connection?_insert cm b' u' h

theorem getConnection_refused {cm : ConnectionManager} {out : Outside} {b u text : String}
    (h : cm.connection? b u = none) (hout : out.channel u = some text) :
    cm.getConnection out b u = (cm, .error (.other text)) := by
  unfold getConnection
  split
  · simp_all
  · rw [hout]

theorem getConnection_opened {cm : ConnectionManager} {out : Outside} {b u : String}
    (h : cm.connection? b u = none) (hout : out.channel u = none) :
    cm.getConnection out b u =
      (cm.insert b u h, .ok ⟨cm.options.createChannel cm.connections.length u⟩) := by
  unfold getConnection
  split
  · simp_all
  · rw [hout]

end ConnectionManager

namespace Client

variable {broken : String → Option String} {w : Channels} {c d : Client} {out : Outside}

/-- Two clients give the same answer, and are alike after it. -/
inductive Answers {α β : Type} (broken : String → Option String) (V : Channels → α → β → Prop)
    (w : Channels) : Client × Except Error α → Client × Except Error β → Prop
  | ok {v : Channels} {c d : Client} {x : α} {y : β} (hv : w ≤ v) (hc : Client.Alike broken v c d)
    (h : V v x y) : Answers broken V w (c, .ok x) (d, .ok y)
  | error {v : Channels} {c d : Client} (hv : w ≤ v) (hc : Client.Alike broken v c d) (err : Error) :
    Answers broken V w (c, .error err) (d, .error err)

theorem Alike.insert_right (h : Client.Alike broken w c d) {b u : String} {x : RpcConnection}
    (hx : c.connection? b u = some x) (hnone : d.connectionManager.connection? b u = none) :
    ∃ v, w ≤ v ∧ Client.Alike broken v c
      { d with connectionManager := d.connectionManager.insert b u hnone } ∧
      v x ⟨d.connectionManager.options.createChannel d.connectionManager.connections.length u⟩ := by
  refine ⟨fun a a' => w a a' ∨ a = x ∧ a' = ⟨d.connectionManager.options.createChannel
    d.connectionManager.connections.length u⟩, fun _ _ => Or.inl, ?_, Or.inr ⟨rfl, rfl⟩⟩
  constructor
  · exact h.uri
  · exact h.options
  · intro b' u' y hy
    rcases (ConnectionManager.connection?_insert_iff hnone).mp hy with hy | ⟨rfl, rfl, rfl⟩
    · obtain ⟨x', hx', hw⟩ := h.cached b' u' y hy
      exact ⟨x', hx', Or.inl hw⟩
    · exact ⟨x, hx, Or.inr ⟨rfl, rfl⟩⟩
  · exact h.reachable
  · rintro x' y' (hw | ⟨rfl, rfl⟩)
    · obtain ⟨b', u', hc, hd⟩ := h.channels x' y' hw
      exact ⟨b', u', hc, (ConnectionManager.connection?_insert_iff hnone).mpr (Or.inl hd)⟩
    · exact ⟨b, u, hx, (ConnectionManager.connection?_insert_iff hnone).mpr (Or.inr ⟨rfl, rfl, rfl⟩)⟩

theorem Alike.insert_left (h : Client.Alike broken w c d) {b u : String} (hu : broken u = none)
    (hnone : c.connectionManager.connection? b u = none) :
    Client.Alike broken w { c with connectionManager := c.connectionManager.insert b u hnone } d := by
  have hkeep : ∀ {b' u' x}, c.connection? b' u' = some x →
      (c.connectionManager.insert b u hnone).connection? b' u' = some x :=
    fun hx => (ConnectionManager.connection?_insert_iff hnone).mpr (Or.inl hx)
  constructor
  · exact h.uri
  · exact h.options
  · intro b' u' y hy
    obtain ⟨x, hx, hw⟩ := h.cached b' u' y hy
    exact ⟨x, hkeep hx, hw⟩
  · intro b' u' x hx
    rcases (ConnectionManager.connection?_insert_iff hnone).mp hx with hx | ⟨-, rfl, -⟩
    · exact h.reachable b' u' x hx
    · exact hu
  · intro x y hw
    obtain ⟨b', u', hc, hd⟩ := h.channels x y hw
    exact ⟨b', u', hkeep hc, hd⟩

theorem getConnection_alike (h : Client.Alike broken w c d) (hout : out.channel = broken)
    (b u : String) :
    Answers broken (fun v x y => v x y) w (c.getConnection out b u) (d.getConnection out b u) := by
  unfold getConnection
  cases hx : c.connectionManager.connection? b u with
  | some x =>
    rw [ConnectionManager.getConnection_cached out hx]
    cases hy : d.connectionManager.connection? b u with
    | some y =>
      rw [ConnectionManager.getConnection_cached out hy]
      obtain ⟨x', hx', hw⟩ := h.cached b u y hy
      obtain rfl : x' = x := Option.some.inj (hx'.symm.trans hx)
      exact .ok le_rfl h hw
    | none =>
      -- Only the second client opens a channel.
      rw [ConnectionManager.getConnection_opened hy (by rw [hout, h.reachable b u x hx])]
      obtain ⟨v, hv, halike, hxy⟩ := h.insert_right hx hy
      exact .ok hv halike hxy
  | none =>
    -- What the second client has cached, the first one has too.
    have hy : d.connectionManager.connection? b u = none := by
      by_contra hsome
      obtain ⟨y, hy⟩ := Option.ne_none_iff_exists'.mp hsome
      obtain ⟨x, hx', -⟩ := h.cached b u y hy
      exact absurd (hx.symm.trans hx') (by simp)
    cases hu : broken u with
    | some text =>
      rw [ConnectionManager.getConnection_refused hx (by rw [hout, hu]),
        ConnectionManager.getConnection_refused hy (by rw [hout, hu])]
      exact .error le_rfl h (.other text)
    | none =>
      rw [ConnectionManager.getConnection_opened hx (by rw [hout, hu]),
        ConnectionManager.getConnection_opened hy (by rw [hout, hu])]
      obtain ⟨v, hv, halike, hxy⟩ := (h.insert_left hu hx).insert_right
        (ConnectionManager.connection?_insert c.connectionManager b u hx) hy
      exact .ok hv halike hxy

theorem Alike.attachToken (h : Client.Alike broken w c d) (out : Outside) :
    d.attachTokenIfNeeded out = c.attachTokenIfNeeded out := by
  unfold attachTokenIfNeeded
  rw [h.options]

theorem prepare_alike (h : Client.Alike broken w c d) (hout : out.channel = broken) (addr : String) :
    Answers broken (fun v x y => v x.1 y.1 ∧ y.2 = x.2) w (c.prepare out addr) (d.prepare out addr) := by
  have hanswers := getConnection_alike h hout addr addr
  unfold prepare
  generalize c.getConnection out addr addr = r at hanswers ⊢
  generalize d.getConnection out addr addr = q at hanswers ⊢
  cases hanswers with
  | error hv hc err => exact .error hv hc err
  | ok hv hc hconn =>
    dsimp only
    rw [hc.attachToken]
    split
    · exact .error hv hc _
    · exact .ok hv hc ⟨hconn, rfl⟩

theorem Alike.counters (h : Client.Alike broken w c d) (i j m n : Nat) :
    Client.Alike broken w { c with lookupRequestId := i, healthRequestId := j }
      { d with lookupRequestId := m, healthRequestId := n } :=
  ⟨h.uri, h.options, h.cached, h.reachable, h.channels⟩

theorem lookupTopic_alike (h : Client.Alike broken w c d) (hout : out.channel = broken)
    (addr topic : String) :
    Answers broken Call.Alike w (c.lookupTopic out addr topic) (d.lookupTopic out addr topic) := by
  have hanswers := prepare_alike h hout addr
  unfold lookupTopic
  generalize c.prepare out addr = r at hanswers ⊢
  generalize d.prepare out addr = q at hanswers ⊢
  cases hanswers with
  | error hv hc err => exact .error hv hc err
  | ok hv hc hboth => exact .ok hv (hc.counters ..) ⟨hboth.1, rfl, hboth.2⟩

theorem topicPartitions_alike (h : Client.Alike broken w c d) (hout : out.channel = broken)
    (addr topic : String) :
    Answers broken Call.Alike w (c.topicPartitions out addr topic) (d.topicPartitions out addr topic) := by
  have hanswers := prepare_alike h hout addr
  unfold topicPartitions
  generalize c.prepare out addr = r at hanswers ⊢
  generalize d.prepare out addr = q at hanswers ⊢
  cases hanswers with
  | error hv hc err => exact .error hv hc err
  | ok hv hc hboth => exact .ok hv (hc.counters ..) ⟨hboth.1, rfl, hboth.2⟩

theorem getLatestSchema_alike (h : Client.Alike broken w c d) (hout : out.channel = broken)
    (subject : String) :
    Answers broken Call.Alike w (c.getLatestSchema out subject) (d.getLatestSchema out subject) := by
  have hanswers := prepare_alike h hout c.uri
  unfold getLatestSchema
  rw [h.uri]
  generalize c.prepare out c.uri = r at hanswers ⊢
  generalize d.prepare out c.uri = q at hanswers ⊢
  cases hanswers with
  | error hv hc err => exact .error hv hc err
  | ok hv hc hboth => exact .ok hv hc ⟨hboth.1, rfl, hboth.2⟩

theorem getSchemaVersion_alike (h : Client.Alike broken w c d) (hout : out.channel = broken)
    (schemaId : Nat) (version : Option Nat) :
    Answers broken Call.Alike w (c.getSchemaVersion out schemaId version)
      (d.getSchemaVersion out schemaId version) := by
  have hanswers := prepare_alike h hout c.uri
  unfold getSchemaVersion
  rw [h.uri]
  generalize c.prepare out c.uri = r at hanswers ⊢
  generalize d.prepare out c.uri = q at hanswers ⊢
  cases hanswers with
  | error hv hc err => exact .error hv hc err
  | ok hv hc hboth => exact .ok hv hc ⟨hboth.1, rfl, hboth.2⟩

end Client

end Danube
