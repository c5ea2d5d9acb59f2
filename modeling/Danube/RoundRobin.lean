import Danube.Async.Rotation
import Danube.Partitions

/-!
# The partitions of unkeyed sends

The router's cursor moves with the calls of `send` alone, in the order in which they get the lock.
-/

namespace Danube

open Async

/-- The routing key and the partition of a call, which never change. -/
def SendTask.route (t : SendTask) : Option String × Nat := (t.call.routingKey, t.partition)

namespace Producer

/-- The calls of `send`, without those of `send_with_key`. -/
def unkeyed (tasks : List SendTask) : List SendTask :=
  tasks.filter fun t => t.call.routingKey.isNone

/-- Whatever a call does, it does on the `TopicProducer` of its partition. -/
def OnPartition (s : ProducerState) : Prop :=
  ∀ x ∈ s.pool.trace, ∀ i, x.actor = .send i →
    ∃ t, s.sends[i]? = some t ∧ s.producers[t.partition]? = some x.ref

/-- What a step does to the calls and the router. -/
inductive Routes (s s' : ProducerState) : ProducerLabel → Prop
  | other (l : ProducerLabel) (hsends : s'.sends.map SendTask.route = s.sends.map SendTask.route)
    (hrouter : Created s → s'.router = s.router) : Routes s s' l
  | send (data : List UInt8) (attributes : Option (List (String × String)))
    (routingKey : Option String) (env : Env)
    (hsends : s'.sends.map SendTask.route =
      s.sends.map SendTask.route ++ [(routingKey, (selectPartition s routingKey).1)])
    (hrouter : s'.router = (selectPartition s routingKey).2) :
    Routes s s' (.send data attributes routingKey env)

theorem map_set_route {tasks : List SendTask} {i : Nat} {t : SendTask} (h : tasks[i]? = some t)
    (o : Outcome Sending Nat Error) :
    (tasks.set i { t with status := o }).map SendTask.route = tasks.map SendTask.route := by
  rw [List.map_set]
  refine List.ext_getElem? fun j => ?_
  rw [List.getElem?_set]
  split
  · rename_i heq
    subst heq
    obtain ⟨hlt, hget⟩ := List.getElem?_eq_some_iff.mp h
    simp [hlt, hget, SendTask.route]
  · rfl

theorem step_routes {s s' : ProducerState} {l : ProducerLabel} (hstep : step s l = some s') :
    Routes s s' l := by
  cases l with
  | create env =>
    have hnil := (create_eq_some hstep).2.1
    refine .other _ ?_ fun hcreated => (hcreated hnil).elim
    obtain ⟨-, -, ⟨-, p, -, rfl⟩ | ⟨hpos, rfl⟩⟩ := create_eq_some hstep
    · rw [settle_sends]
    · rfl
  | child ref w env =>
    obtain ⟨p, -, rfl⟩ := Option.map_eq_some_iff.mp hstep
    obtain ⟨c, ps, heq, -, -⟩ := settle_cases { s with pool := p } ref
    rw [heq]
    exact .other _ rfl fun _ => rfl
  | gathered =>
    obtain ⟨g, hg, ⟨-, rfl⟩ | ⟨-, -, rfl⟩⟩ := gathered_eq_some hstep <;>
      exact .other _ rfl fun _ => rfl
  | send data attributes routingKey env =>
    obtain ⟨-, p, r, t, hsel, rfl, ⟨-, rfl⟩ | ⟨ref, sc, -, -, rfl⟩⟩ := send_eq_some hstep
    · refine .send _ _ _ _ ?_ ?_
      · rw [hsel, List.map_append]
        rfl
      · rw [hsel]
    · refine .send _ _ _ _ ?_ ?_
      · simp [commitSend, hsel, SendTask.route, sendCall]
      · rw [hsel]
        rfl
  | sending task w env =>
    obtain ⟨t, ref, sc, k, ran, ht, -, -, -, -, rfl⟩ := sending_eq_some.mp hstep
    exact .other _ (map_set_route ht _) fun _ => rfl
  | health task w env =>
    obtain ⟨p, -, rfl⟩ := Option.map_eq_some_iff.mp hstep
    exact .other _ rfl fun _ => rfl
  | close => cases hstep; exact .other _ rfl fun _ => rfl

/-- The partitions of the unkeyed calls among those routes. -/
def turnsTaken (routes : List (Option String × Nat)) : List Nat :=
  (routes.filter fun x => x.1.isNone).map Prod.snd

theorem turnsTaken_append (a b : List (Option String × Nat)) :
    turnsTaken (a ++ b) = turnsTaken a ++ turnsTaken b := by simp [turnsTaken]

theorem turnsTaken_route (tasks : List SendTask) :
    turnsTaken (tasks.map SendTask.route) = (unkeyed tasks).map SendTask.partition := by
  rw [turnsTaken, unkeyed, List.filter_map, List.map_map]
  rfl

/-- While `create()` runs, nothing has moved the cursor of its router. -/
def RouterFresh (s : ProducerState) : Prop :=
  s.creating ≠ none → ∀ r, s.router = some r → r.last + 1 = r.partitions

theorem step_routerFresh {s s' : ProducerState} {l : ProducerLabel} (h : RouterFresh s)
    (hrouted : Routed s') (hstep : step s l = some s') : RouterFresh s' := by
  intro hcreating r hr
  cases l with
  | create env =>
    obtain ⟨hfree, -, ⟨hzero, p, -, rfl⟩ | ⟨hpos, rfl⟩⟩ := create_eq_some hstep
    · -- Without partitions there is no router.
      rw [hrouted.unpartitioned (by rw [settle_config]; exact hzero)] at hr
      cases hr
    · cases hr
      simp only [MessageRouter.init]
      omega
  | child ref w env =>
    obtain ⟨p, -, rfl⟩ := Option.map_eq_some_iff.mp hstep
    obtain ⟨c, ps, heq, hc, -⟩ := settle_cases { s with pool := p } ref
    rw [heq] at hcreating hr
    obtain ⟨x, hx⟩ := Option.ne_none_iff_exists'.mp hcreating
    obtain ⟨y, hy, -⟩ := hc x hx
    exact h (by rw [show s.creating = some y from hy]; simp) r hr
  | gathered =>
    obtain ⟨g, hg, ⟨-, rfl⟩ | ⟨-, -, rfl⟩⟩ := gathered_eq_some hstep <;> exact (hcreating rfl).elim
  | send data attributes routingKey env =>
    obtain ⟨hfree, p, r, t, -, -, ⟨-, rfl⟩ | ⟨ref, sc, -, -, rfl⟩⟩ := send_eq_some hstep <;>
      exact (hcreating hfree).elim
  | sending task w env =>
    obtain ⟨t, ref, sc, k, ran, -, -, -, -, -, rfl⟩ := sending_eq_some.mp hstep
    exact h hcreating r hr
  | health task w env =>
    obtain ⟨p, -, rfl⟩ := Option.map_eq_some_iff.mp hstep
    exact h hcreating r hr
  | close => cases hstep; exact h hcreating r hr

/-- The partitions of the unkeyed calls since `before` calls had been made. -/
def turnsSince (before : Nat) (s : ProducerState) : List Nat :=
  turnsTaken ((s.sends.map SendTask.route).drop before)

/-- The unkeyed calls since then have taken turns, and the cursor is at the last one. -/
structure Rotates (before : Nat) (s : ProducerState) : Prop where
  created : Created s
  count : before ≤ s.sends.length
  rotation : turnsSince before s = turns s.config.partitions 0 (turnsSince before s).length
  cursor : ∃ r, s.router = some r ∧ r.partitions = s.config.partitions ∧
    (r.last + 1) % s.config.partitions = (turnsSince before s).length % s.config.partitions

theorem selectPartition_keyed {s : ProducerState} {r : MessageRouter} (hr : s.router = some r)
    (hpos : 0 < s.config.partitions) (key : String) :
    selectPartition s (some key) = (r.keyRoute key, some r) := by
  unfold selectPartition
  rw [hr]
  simp only [gt_iff_lt, hpos, if_true]

theorem selectPartition_unkeyed {s : ProducerState} {r : MessageRouter} (hr : s.router = some r)
    (hpos : 0 < s.config.partitions) :
    selectPartition s none = (r.roundRobin.1, some r.roundRobin.2) := by
  unfold selectPartition
  rw [hr]
  simp only [gt_iff_lt, hpos, if_true]

theorem step_rotates {s s' : ProducerState} {l : ProducerLabel} {before : Nat} (hs : Sound s)
    (h : Rotates before s) (hstep : step s l = some s') : Rotates before s' := by
  obtain ⟨r, hr, hpartitions, hcursor⟩ := h.cursor
  have hcreated : Created s' := by
    rw [Created, step_producers hs hstep h.created]
    exact h.created
  have hconfig := step_config hstep
  have hpos : 0 < s.config.partitions := hpartitions ▸ r.partitions_pos
  cases step_routes hstep with
  | other l hsends hrouter =>
    have hsince : turnsSince before s' = turnsSince before s := by rw [turnsSince, hsends, turnsSince]
    have hlen : s'.sends.length = s.sends.length := by
      simpa using congrArg List.length hsends
    refine ⟨hcreated, hlen ▸ h.count, ?_, ⟨r, (hrouter h.created).trans hr, ?_, ?_⟩⟩
    · rw [hsince, hconfig]
      exact h.rotation
    · rw [hconfig, hpartitions]
    · rw [hsince, hconfig, hcursor]
  | send data attributes routingKey env hsends hrouter =>
    have hcount := h.count
    have hlen : s'.sends.length = s.sends.length + 1 := by
      simpa using congrArg List.length hsends
    have hsince : turnsSince before s' = turnsSince before s ++
        turnsTaken [(routingKey, (selectPartition s routingKey).1)] := by
      rw [turnsSince, hsends, List.drop_append_of_le_length (by simpa using h.count),
        turnsTaken_append, turnsSince]
    cases routingKey with
    | some key =>
      -- A keyed call moves nothing.
      rw [selectPartition_keyed hr hpos] at hsince hrouter
      have hsame : turnsSince before s' = turnsSince before s := by
        simpa [turnsTaken] using hsince
      refine ⟨hcreated, by omega, ?_, ⟨r, hrouter, hconfig ▸ hpartitions, ?_⟩⟩
      · rw [hsame, hconfig]
        exact h.rotation
      · rw [hsame, hconfig, hcursor]
    | none =>
      rw [selectPartition_unkeyed hr hpos] at hsince hrouter
      -- The cursor moves on by one.
      have hnext : turnsSince before s' = turnsSince before s ++
          [(r.last + 1) % s.config.partitions] := by
        rw [hsince]
        simp [turnsTaken, MessageRouter.roundRobin, hpartitions]
      refine ⟨hcreated, by omega, ?_, ⟨r.roundRobin.2, hrouter, hconfig ▸ hpartitions, ?_⟩⟩
      · rw [hnext, hconfig, List.length_append, List.length_singleton, turns_succ, ← h.rotation, hcursor,
          Nat.zero_add]
      · simp only [MessageRouter.roundRobin, hnext, List.length_append, List.length_singleton]
        rw [hconfig, hpartitions, Nat.mod_add_mod, Nat.add_mod, hcursor, ← Nat.add_mod]

/-! ## Every run -/

theorem step_onPartition {s s' : ProducerState} {l : ProducerLabel} (hs : Sound s)
    (h : OnPartition s) (hstep : step s l = some s') : OnPartition s' := by
  have hproducers : ∀ {p r : Nat}, s.producers[p]? = some r → s'.producers[p]? = some r := by
    intro p r hp
    have hne : s.producers ≠ [] := by
      intro hnil
      simp [hnil] at hp
    rw [step_producers hs hstep hne]
    exact hp
  -- The partition of a call never changes.
  have hroute : ∀ {i : Nat} {t : SendTask}, s.sends[i]? = some t →
      ∃ t' : SendTask, s'.sends[i]? = some t' ∧ t'.partition = t.partition := by
    intro i t ht
    have hold : (s.sends.map SendTask.route)[i]? = some t.route := by simp [ht]
    have hnew : (s'.sends.map SendTask.route)[i]? = some t.route := by
      cases step_routes hstep with
      | other l hsends hrouter => rw [hsends, hold]
      | send data attributes routingKey env hsends hrouter =>
        rw [hsends, List.getElem?_append_left (List.getElem?_eq_some_iff.mp hold).1, hold]
    rw [List.getElem?_map] at hnew
    obtain ⟨t', ht', heq⟩ := Option.map_eq_some_iff.mp hnew
    exact ⟨t', ht', congrArg Prod.snd heq⟩
  -- What was written before is on the endpoint of its call.
  have hkeep : ∀ x ∈ s.pool.trace, ∀ i, x.actor = .send i →
      ∃ t, s'.sends[i]? = some t ∧ s'.producers[t.partition]? = some x.ref := by
    intro x hx i hactor
    obtain ⟨t, ht, href⟩ := h x hx i hactor
    obtain ⟨t', ht', hpart⟩ := hroute ht
    exact ⟨t', ht', hproducers (hpart ▸ href)⟩
  have hnew : ∀ {log : List Entry}, s'.pool.trace = s.pool.trace ++ log →
      (∀ x ∈ log, ∀ i, x.actor = .send i →
        ∃ t, s'.sends[i]? = some t ∧ s'.producers[t.partition]? = some x.ref) → OnPartition s' := by
    intro log htrace hlog x hx
    rw [htrace] at hx
    exact (List.mem_append.mp hx).elim (hkeep x) (hlog x)
  have hactor : ∀ {actor : Actor} {ref : Nat} {log : List Event} {x : Entry},
      x ∈ log.map (fun e => (⟨actor, ref, e⟩ : Entry)) → x.actor = actor ∧ x.ref = ref := by
    intro actor ref log x hx
    obtain ⟨e, -, rfl⟩ := List.mem_map.mp hx
    exact ⟨rfl, rfl⟩
  cases step_writes hs hstep with
  | silent l hl htrace hsends hchildren => exact hnew (htrace.trans (List.append_nil _).symm) (by simp)
  | child l hl p hp ref log hlog htrace hchildren hothers hsends =>
    refine hnew htrace fun x hx i hi => ?_
    rw [(hactor hx).1] at hi
    cases hi
  | outOfRange data attributes routingKey env hr htrace hchildren t hsends err ht =>
    exact hnew (htrace.trans (List.append_nil _).symm) (by simp)
  | attempt data attributes routingKey env ref hr sc hsc log t ht hatt htrace hchildren hsends =>
    refine hnew htrace fun x hx i hi => ?_
    obtain ⟨hsend, href⟩ := hactor hx
    rw [hsend, Actor.send.injEq] at hi
    subst hi
    -- The first attempt of a new call.
    exact ⟨t, by simp [hsends], by rw [ht, href]; exact hproducers hr⟩
  | sending task w env t ht ref hr sc hsc k hk c log o hres htrace hchildren hsends =>
    refine hnew htrace fun x hx i hi => ?_
    obtain ⟨hsend, href⟩ := hactor hx
    rw [hsend, Actor.send.injEq] at hi
    subst hi
    obtain ⟨t', ht', hpart⟩ := hroute ht
    exact ⟨t', ht', by rw [hpart, href]; exact hproducers hr⟩
  | health task w env l hl stopEvent position log stop hchecks htrace hchildren hsends =>
    refine hnew htrace fun x hx i hi => ?_
    rw [(hactor hx).1] at hi
    cases hi
  | close log hlog htrace hchildren hsends =>
    refine hnew htrace fun x hx i hi => ?_
    rw [(hlog x hx).2] at hi
    cases hi

theorem exec_onPartition {client : Client} {config : ProducerConfig} {ls : List ProducerLabel}
    {s : ProducerState} (h : exec step (init client config) ls = some s) : OnPartition s :=
  (exec_invariant (P := fun s => Sound s ∧ OnPartition s)
    (fun _ _ _ hs hstep => ⟨step_sound hs.1 hstep, step_onPartition hs.1 hs.2 hstep⟩)
    ⟨sound_init client config, by simp [OnPartition, init]⟩ h).2

theorem rotates_of_created {s s' : ProducerState} {l : ProducerLabel} (hp' : Placed s')
    (hf : RouterFresh s) (hpos : s.config.partitions ≠ 0) (hstep : step s l = some s')
    (hopen : s.producers = []) (hcreated : Created s') : Rotates s'.sends.length s' := by
  have hconfig := step_config hstep
  -- Only the end of the last coroutine, or of `gather`, fills `_producers`.
  have hbegan : s.creating ≠ none ∧ s'.router = s.router := by
    cases l with
    | create env =>
      obtain ⟨-, -, ⟨hzero, -⟩ | ⟨hsome, rfl⟩⟩ := create_eq_some hstep
      · exact (hpos hzero).elim
      · exact (hcreated hopen).elim
    | child ref w env =>
      obtain ⟨p, -, rfl⟩ := Option.map_eq_some_iff.mp hstep
      obtain ⟨c, ps, heq, -, hps⟩ := settle_cases { s with pool := p } ref
      rw [heq] at hcreated ⊢
      rcases hps with rfl | ⟨y, hy, -⟩
      · exact (hcreated hopen).elim
      · exact ⟨by rw [show s.creating = some y from hy]; simp, rfl⟩
    | gathered =>
      obtain ⟨g, hg, ⟨-, rfl⟩ | ⟨-, -, rfl⟩⟩ := gathered_eq_some hstep
      · exact (hcreated hopen).elim
      · exact ⟨by simp [hg], rfl⟩
    | send data attributes routingKey env =>
      obtain ⟨-, p, r, t, -, -, ⟨-, rfl⟩ | ⟨ref, sc, -, -, rfl⟩⟩ := send_eq_some hstep <;>
        exact (hcreated hopen).elim
    | sending task w env =>
      obtain ⟨t, ref, sc, k, ran, -, -, -, -, -, rfl⟩ := sending_eq_some.mp hstep
      exact (hcreated hopen).elim
    | health task w env =>
      obtain ⟨p, -, rfl⟩ := Option.map_eq_some_iff.mp hstep
      exact (hcreated hopen).elim
    | close =>
      obtain rfl := Option.some.inj hstep
      exact (hcreated hopen).elim
  have hsince : turnsSince s'.sends.length s' = [] := by
    rw [turnsSince, List.drop_eq_nil_of_le (by simp)]
    rfl
  obtain ⟨r, hr⟩ := Option.ne_none_iff_exists'.mp
    (hp'.routed.there (by rw [hconfig]; exact hpos) (Or.inr hcreated))
  have hpartitions := hp'.routed.partitions r hr
  refine ⟨hcreated, Nat.le_refl _, by rw [hsince]; rfl, r, hr, hpartitions, ?_⟩
  rw [hsince, hf hbegan.1 r (hbegan.2 ▸ hr), hpartitions, List.length_nil, Nat.mod_self,
    Nat.zero_mod]

/-- The calls since `create()` returned take the partitions in turn: the `k`-th call of `send` (from 0)
is bound for partition `k % n`, does all it does there, and in any window of calls no partition is
more than one ahead of another. -/
structure Fair (before : Nat) (s : ProducerState) : Prop where
  partition : ∀ k t, (unkeyed (s.sends.drop before))[k]? = some t →
    t.partition = k % s.config.partitions
  attempts : OnPartition s
  window : ∀ a m, a + m ≤ (unkeyed (s.sends.drop before)).length →
    ∀ p q, p < s.config.partitions → q < s.config.partitions →
      (((unkeyed (s.sends.drop before)).drop a).take m).countP (fun t => t.partition = p) ≤
        (((unkeyed (s.sends.drop before)).drop a).take m).countP (fun t => t.partition = q) + 1
  cover : ∀ a, a + s.config.partitions ≤ (unkeyed (s.sends.drop before)).length →
    ∀ p, p < s.config.partitions →
      (((unkeyed (s.sends.drop before)).drop a).take s.config.partitions).countP
        (fun t => t.partition = p) = 1

theorem Rotates.fair {before : Nat} {s : ProducerState} (h : Rotates before s)
    (hattempts : OnPartition s) : Fair before s := by
  have hturns : (unkeyed (s.sends.drop before)).map SendTask.partition =
      turns s.config.partitions 0 (unkeyed (s.sends.drop before)).length := by
    have hroutes := h.rotation
    have hmap : turnsSince before s = (unkeyed (s.sends.drop before)).map SendTask.partition := by
      rw [turnsSince, ← List.map_drop, turnsTaken_route]
    rw [hmap, List.length_map] at hroutes
    exact hroutes
  have hcount : ∀ a m p, a + m ≤ (unkeyed (s.sends.drop before)).length →
      (((unkeyed (s.sends.drop before)).drop a).take m).countP (fun t => t.partition = p) =
        (turns s.config.partitions a m).count p := by
    intro a m p hle
    have hwindow : (((unkeyed (s.sends.drop before)).drop a).take m).map SendTask.partition =
        turns s.config.partitions a m := by
      rw [List.map_take, List.map_drop, hturns, turns_window _ hle]
    rw [← hwindow, List.count, List.countP_map]
    congr 1
  constructor
  case partition =>
    intro k t hk
    have hpart : ((unkeyed (s.sends.drop before)).map SendTask.partition)[k]? = some t.partition := by
      simp [hk]
    rw [hturns] at hpart
    obtain ⟨hlt, hget⟩ := List.getElem?_eq_some_iff.mp hpart
    rw [← hget]
    simp [turns]
  case attempts => exact hattempts
  case window =>
    intro a m hle p q hp hq
    rw [hcount a m p hle, hcount a m q hle]
    exact count_turns_le hp hq a m
  case cover =>
    intro a hle p hp
    rw [hcount a _ p hle]
    exact count_turns_full hp a

theorem exec_routerFresh {client : Client} {config : ProducerConfig} {ls : List ProducerLabel}
    {s : ProducerState} (h : exec step (init client config) ls = some s) : RouterFresh s :=
  (exec_invariant (P := fun s => (Sound s ∧ Placed s) ∧ RouterFresh s)
    (fun _ _ _ hs hstep => by
      have hplaced := step_placed hs.1.1 hs.1.2 hstep
      exact ⟨⟨step_sound hs.1.1 hstep, hplaced⟩, step_routerFresh hs.2 hplaced.routed hstep⟩)
    ⟨⟨sound_init client config, placed_init client config⟩, by simp [RouterFresh, init]⟩ h).2

/-- From the step in which `create()` returns on, the calls of `send` are spread fairly over the
partitions, whatever keyed calls, retries and recreations come between them. -/
theorem round_robin_fair {client : Client} {config : ProducerConfig} {ls ms : List ProducerLabel}
    {l : ProducerLabel} {s₁ s₂ s : ProducerState}
    (hbefore : exec step (init client config) ls = some s₁) (hstep : step s₁ l = some s₂)
    (hopen : ¬ Created s₁) (hcreated : Created s₂) (hafter : exec step s₂ ms = some s)
    (hpos : 1 ≤ config.partitions) : Fair s₂.sends.length s := by
  have hcreate : exec step (init client config) (ls ++ [l]) = some s₂ :=
    exec_append.mpr ⟨s₁, hbefore, exec_cons.mpr ⟨s₂, hstep, rfl⟩⟩
  have hall := exec_append.mpr ⟨s₂, hcreate, hafter⟩
  obtain ⟨hs₂, hp₂⟩ := exec_placed hcreate
  have hpartitions : s₁.config.partitions ≠ 0 := by
    rw [exec_config hbefore]
    omega
  have hstart := rotates_of_created hp₂ (exec_routerFresh hbefore) hpartitions hstep
    (Decidable.not_not.mp hopen) hcreated
  have hrun := exec_invariant (P := fun t => Sound t ∧ Rotates s₂.sends.length t)
    (fun _ _ _ ht hstep => ⟨step_sound ht.1 hstep, step_rotates ht.1 ht.2 hstep⟩) ⟨hs₂, hstart⟩
    hafter
  exact hrun.2.fair (exec_onPartition hall)

theorem round_robin_two :
    ∃ s₁ s₂ s, exec step (init (.init "a" {}) (.partitioned 2)) secondFirst.dropLast = some s₁ ∧
      step s₁ .gathered = some s₂ ∧
      exec step s₂ [.send [1] none none {}, .send [2] none none {}] = some s ∧ Fair s₂.sends.length s := by
  obtain ⟨s₁, h₁, hopen, s₂, h₂, hcreated, s, h⟩ : ∃ s₁,
      exec step (init (.init "a" {}) (.partitioned 2)) secondFirst.dropLast = some s₁ ∧
      s₁.producers = [] ∧ ∃ s₂, step s₁ .gathered = some s₂ ∧ s₂.producers = [0, 1] ∧
      ∃ s, exec step s₂ [.send [1] none none {}, .send [2] none none {}] = some s :=
    ⟨_, rfl, rfl, _, rfl, rfl, _, rfl⟩
  exact ⟨s₁, s₂, s, h₁, h₂, h, round_robin_fair h₁ h₂ (by simp [Created, hopen])
    (by simp [Created, hcreated]) h (by decide)⟩

end Producer

end Danube
