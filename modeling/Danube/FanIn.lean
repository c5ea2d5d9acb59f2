import Danube.MessageLoss

/-!
# The queues of a consumer

The receive loops that one `receive()` starts put the messages of all partitions on one bounded
queue, which the application drains.
-/

namespace Danube

open Async

def Event.took? : Event → Option StreamMessage
  | .took message => some message
  | _ => none

/-- The messages that a loop took from its streams. -/
def taken (log : List Event) : List StreamMessage := log.filterMap Event.took?

/-- The messages that a loop put on its queue. -/
def puts (log : List Event) : List StreamMessage := log.filterMap Event.put?

@[simp] theorem taken_append (a b : List Event) : taken (a ++ b) = taken a ++ taken b :=
  List.filterMap_append

@[simp] theorem puts_append (a b : List Event) : puts (a ++ b) = puts a ++ puts b :=
  List.filterMap_append

theorem OffStream.puts {log : List Event} (h : OffStream log) : puts log = [] := by
  refine List.filterMap_eq_nil_iff.mpr fun e he => ?_
  have hoff := h e he
  cases e <;> first | rfl | cases hoff

namespace Hand

/-- A message that is put on the queue was in hand. -/
def Held (v : Option StreamMessage) (e : Event) : Prop := ∀ m, e.put? = some m → v = some m

/-- Every message that was put is one of those taken, in their order, and the one in hand is the last
that was taken. -/
theorem held_sublist {log : List Event} (h : Always apply Held none log) :
    ∃ read, taken log = read ++ (replay apply none log).toList ∧ (puts log).Sublist read := by
  induction log using List.reverseRecOn with
  | nil => exact ⟨[], rfl, .refl _⟩
  | append_singleton log e ih =>
    obtain ⟨hlog, he, -⟩ := (always_append _ _ _ _).mp h
    obtain ⟨read, hread, hsub⟩ := ih hlog
    rw [taken_append, puts_append, replay_append, replay_cons, replay_nil]
    by_cases htook : ∃ m, e = .took m
    · obtain ⟨m, rfl⟩ := htook
      -- The message that is taken is in hand, and the one before it was put or dropped.
      have hno : puts [.took m] = [] := rfl
      rw [hno, List.append_nil]
      exact ⟨taken log, rfl, hread ▸ hsub.trans (List.sublist_append_left _ _)⟩
    · have hno : taken [e] = [] := by
        cases e <;> first | rfl | exact (htook ⟨_, rfl⟩).elim
      rw [hno, List.append_nil]
      by_cases hput : ∃ m, e = .put m
      · obtain ⟨m, rfl⟩ := hput
        -- The message in hand is put.
        have hm := he m rfl
        rw [hm] at hread ⊢
        refine ⟨read ++ [m], by simp [hread, apply], hsub.append (.refl _)⟩
      · have hnoput : puts [e] = [] := by
          cases e <;> first | rfl | exact (hput ⟨_, rfl⟩).elim
        rw [hnoput, List.append_nil]
        by_cases hleft : e = .resubscribing
        · -- The loop subscribes again, and drops the message in hand.
          subst hleft
          exact ⟨taken log, by simp [apply], hread ▸ hsub.trans (List.sublist_append_left _ _)⟩
        · refine ⟨read, ?_, hsub⟩
          rw [hread]
          congr 2
          cases e <;>
            first
            | rfl
            | exact (htook ⟨_, rfl⟩).elim
            | exact (hput ⟨_, rfl⟩).elim
            | exact (hleft rfl).elim

theorem held_of_no_puts {log : List Event} (h : puts log = []) (v : Option StreamMessage) :
    Always apply Held v log :=
  always_of_forall (fun e he v m hm => by
    rw [List.filterMap_eq_nil_iff.mp h e he] at hm
    cases hm) v

end Hand

namespace Receive

variable {env : Env} {a : LoopArgs} {s : Scope ConsumerFields}

theorem taken_held (call : Call) (m : StreamMessage) (v : Option StreamMessage) :
    Always Hand.apply Hand.Held v ((taken env a call m s).after [.took m]).log := by
  have hfirst : Hand.Held v (.took m) := by simp [Hand.Held, Event.put?]
  rw [Ran.after_log, List.singleton_append, always_cons, and_iff_right hfirst]
  unfold taken
  split
  · trivial
  · split
    · exact Hand.held_of_no_puts (streamOver_aside env a s).log.puts _
    · split
      · trivial
      · simp [Hand.Held, Hand.apply, Event.put?]

theorem taken_left (call : Call) (m : StreamMessage) :
    (ReceiveStatus.started (taken env a call m s).next).hand = none ∨
      (taken env a call m s).log = [] ∧
        (ReceiveStatus.started (taken env a call m s).next).hand = some m := by
  unfold taken
  split
  · exact Or.inl rfl
  · split
    · exact Or.inl (streamOver_aside env a s).hand
    · split
      · exact Or.inr ⟨rfl, rfl⟩
      · exact Or.inl rfl

end Receive

namespace Consumer

variable {env : Env} {a : LoopArgs} {sc : Scope ConsumerFields} {status : ReceiveStatus} {w : Wake}
  {r : Piece ConsumerFields Receiving Unit}

/-- A loop waits with the message in hand or with none. -/
def Holds (status : ReceiveStatus) (v : Option StreamMessage) : Prop :=
  status.hand = none ∨ status.hand = v

theorem woken_held (h : Woken env a sc status w r) {v : Option StreamMessage} (hv : Holds status v) :
    Always Hand.apply Hand.Held v r.log ∧ Holds (.started r.next) (replay Hand.apply v r.log) := by
  have hend := Receive.streamOver_aside env a sc
  cases h with
  | took call m =>
    refine ⟨Receive.taken_held call m v, ?_⟩
    rcases Receive.taken_left (a := a) (s := sc) call m with hnone | ⟨hlog, hm⟩
    · exact Or.inl hnone
    · right
      rw [Ran.after_next, hm, Ran.after_log, hlog]
      rfl
  | ended call =>
    have hlog : puts [.streamEnded] = [] := rfl
    refine ⟨Hand.held_of_no_puts ?_ v, Or.inl hend.hand⟩
    rw [Ran.after_log, puts_append, hlog, hend.log.puts, List.append_nil]
  | failed call err =>
    have hlog : puts [.streamFailed err] = [] := rfl
    refine ⟨Hand.held_of_no_puts ?_ v, Or.inl hend.hand⟩
    rw [Ran.after_log, puts_append, hlog, hend.log.puts, List.append_nil]
  | room call m =>
    have hm : v = some m := (hv.resolve_left (by simp [ReceiveStatus.hand])).symm
    subst hm
    exact ⟨by simp [Hand.Held, Event.put?], Or.inl rfl⟩
  | aside status w r hreading hputting hr =>
    exact ⟨Hand.held_of_no_puts hr.log.puts v, Or.inl hr.hand⟩

end Consumer

/-! ## The queues -/

/-- The messages that the loops of queue `q` put on it, in the order in which they did. -/
def putsOn (tasks : List ReceiveTask) (q : Nat) (trace : List Entry) : List StreamMessage :=
  trace.filterMap fun x =>
    match x.actor with
    | .receive i => if tasks[i]?.map ReceiveTask.queue = some q then x.event.put? else none
    | _ => none

@[simp] theorem putsOn_append (tasks : List ReceiveTask) (q : Nat) (t u : List Entry) :
    putsOn tasks q (t ++ u) = putsOn tasks q t ++ putsOn tasks q u := List.filterMap_append

/-- Nothing that a receive loop wrote. -/
def OffLoops (log : List Entry) : Prop := ∀ x ∈ log, ∀ i, x.actor ≠ .receive i

theorem putsOn_offLoops {log : List Entry} (h : OffLoops log) (tasks : List ReceiveTask) (q : Nat) :
    putsOn tasks q log = [] := by
  refine List.filterMap_eq_nil_iff.mpr fun x hx => ?_
  split
  · rename_i i hi
    exact (h x hx i hi).elim
  · rfl

theorem putsOn_entries {tasks : List ReceiveTask} {i : Nat} {t : ReceiveTask}
    (ht : tasks[i]? = some t) (q ref : Nat) (log : List Event) :
    putsOn tasks q (log.map fun e => ⟨.receive i, ref, e⟩) = if t.queue = q then puts log else [] := by
  unfold putsOn puts
  rw [List.filterMap_map]
  split
  · rename_i hq
    refine List.filterMap_congr fun e _ => ?_
    simp [ht, hq]
  · rename_i hq
    refine List.filterMap_eq_nil_iff.mpr fun e _ => ?_
    simp [ht, hq]

theorem putsOn_congr {tasks tasks' : List ReceiveTask} {trace : List Entry} (q : Nat)
    (h : ∀ x ∈ trace, ∀ i, x.actor = .receive i →
      tasks'[i]?.map ReceiveTask.queue = tasks[i]?.map ReceiveTask.queue) :
    putsOn tasks' q trace = putsOn tasks q trace := by
  refine List.filterMap_congr fun x hx => ?_
  split
  · rename_i i hi
    rw [h x hx i hi]
  · rfl

theorem mem_putsOn {tasks : List ReceiveTask} {q : Nat} {trace : List Entry} {m : StreamMessage}
    (h : m ∈ putsOn tasks q trace) : ∃ (i : Nat) (t : ReceiveTask), tasks[i]? = some t ∧
      t.queue = q ∧ m ∈ puts (journalOf (.receive i) trace) := by
  obtain ⟨x, hx, hput⟩ := List.mem_filterMap.mp h
  split at hput
  · rename_i i hi
    split at hput
    · rename_i hq
      obtain ⟨t, ht, hqueue⟩ := Option.map_eq_some_iff.mp hq
      refine ⟨i, t, ht, hqueue, List.mem_filterMap.mpr ⟨x.event, ?_, hput⟩⟩
      exact List.mem_map_of_mem (List.mem_filter.mpr ⟨hx, by simpa using hi⟩)
    · cases hput
  · cases hput

namespace Consumer

/-- Each queue holds the last messages that were put on it, and not more than fit. -/
structure Fed (s : ConsumerState) : Prop where
  loops : ∀ x ∈ s.pool.trace, ∀ i, x.actor = .receive i → i < s.tasks.length
  queues : ∀ t ∈ s.tasks, t.queue < s.queues.length
  served : ∀ (q : Nat) queue, s.queues[q]? = some queue →
    queue <:+ putsOn s.tasks q s.pool.trace ∧ queue.length ≤ receiveChannelBuffer

theorem fed_init (client : Client) (config : ConsumerConfig) : Fed (init client config) where
  loops := by simp [init]
  queues := by simp [init]
  served := by simp [init]

theorem Fed.aside {s s' : ConsumerState} (h : Fed s) (log : List Entry) (hlog : OffLoops log)
    (htrace : s'.pool.trace = s.pool.trace ++ log) (hqueues : s'.queues = s.queues)
    (htasks : s'.tasks.map ReceiveTask.queue = s.tasks.map ReceiveTask.queue) : Fed s' where
  loops x hx i hi := by
    have hlen : s'.tasks.length = s.tasks.length := by simpa using congrArg List.length htasks
    rw [hlen]
    rw [htrace] at hx
    rcases List.mem_append.mp hx with hx | hx
    · exact h.loops x hx i hi
    · exact (hlog x hx i hi).elim
  queues t ht := by
    obtain ⟨t', ht', heq⟩ := List.mem_map.mp (htasks ▸ List.mem_map_of_mem ht)
    rw [hqueues, ← heq]
    exact h.queues t' ht'
  served q queue hq := by
    have hcongr : ∀ i : Nat, s'.tasks[i]?.map ReceiveTask.queue = s.tasks[i]?.map ReceiveTask.queue := by
      intro i
      rw [← List.getElem?_map, htasks, List.getElem?_map]
    rw [htrace, putsOn_append, putsOn_offLoops hlog, List.append_nil,
      putsOn_congr q fun _ _ i _ => hcongr i]
    exact h.served q queue (hqueues ▸ hq)

/-- A loop puts at most one message in a piece, and only when the queue is not full. -/
theorem receivePiece_puts {env : Env} {a : LoopArgs} {sc : Scope ConsumerFields}
    {status : ReceiveStatus} {w : Wake} {r : Piece ConsumerFields Receiving Unit}
    (hstub : sc.self.stub ≠ none) (h : receivePiece env a sc status w = some r) :
    puts r.log = [] ∨ a.full = false ∧ (puts r.log).length = 1 := by
  have hfull : ∀ call m, status = .started (.await (.putting call m)) → w = .room →
      a.full = false := by
    rintro call m rfl rfl
    simp only [receivePiece, Receive.resume] at h
    split at h
    · cases h
    · rename_i hfull
      simpa using hfull
  have hend := (Receive.streamOver_aside env a sc).log.puts
  cases receivePiece_woken hstub h with
  | took call m =>
    rw [Ran.after_log, puts_append, show puts [.took m] = [] from rfl, List.nil_append]
    unfold Receive.taken
    split
    · -- A shutdown: the message is dropped.
      exact Or.inl rfl
    · split
      · -- The stop event is set: the message is dropped.
        exact Or.inl hend
      · split
        · exact Or.inl rfl
        · -- There is room on the queue.
          rename_i hroom
          exact Or.inr ⟨by simpa using hroom, rfl⟩
  | ended call =>
    left
    rw [Ran.after_log, puts_append, hend]
    rfl
  | failed call err =>
    left
    rw [Ran.after_log, puts_append, hend]
    rfl
  | room call m => exact Or.inr ⟨hfull call m rfl rfl, rfl⟩
  | aside status w r hreading hputting hr => exact Or.inl hr.log.puts

theorem receiving_fed {s s' : ConsumerState} {i : Nat} {w : Wake} {env : Env} (h : Fed s)
    (hs : Sound s) (hstep : receiving s i w env = some s') : Fed s' := by
  obtain ⟨t, sc, queue, ran, ht, hsc, hqueue, hran, rfl⟩ := receiving_eq_some.mp hstep
  have hlt := (List.getElem?_eq_some_iff.mp ht).1
  have hsame : ∀ j : Nat, (s.tasks.set i { t with status := .started ran.next })[j]?.map
      ReceiveTask.queue = s.tasks[j]?.map ReceiveTask.queue := by
    intro j
    rw [List.getElem?_set]
    split
    · rename_i hj
      subst hj
      rw [ht]
      rfl
    · rfl
  constructor
  · intro x hx j hj
    rw [List.length_set]
    rcases List.mem_append.mp hx with hx | hx
    · exact h.loops x hx j hj
    · obtain ⟨e, -, rfl⟩ := List.mem_map.mp hx
      cases hj
      exact hlt
  · intro t' ht'
    rw [List.length_set]
    rcases List.mem_or_eq_of_mem_set ht' with ht' | rfl
    · exact h.queues t' ht'
    · exact h.queues t (List.mem_of_getElem? ht)
  · intro q queue' hq
    simp only [Pool.commit, putsOn_append]
    rw [putsOn_congr q fun _ _ j _ => hsame j,
      putsOn_entries (List.getElem?_set_self hlt) q]
    rw [List.getElem?_set] at hq
    split at hq
    · rename_i heq
      subst heq
      obtain ⟨hsuffix, hlen⟩ := h.served t.queue queue hqueue
      rw [if_pos (List.getElem?_eq_some_iff.mp hqueue).1, Option.some.injEq] at hq
      rw [if_pos rfl, ← hq]
      refine ⟨?_, ?_⟩
      · obtain ⟨before, hbefore⟩ := hsuffix
        exact ⟨before, by rw [← hbefore, List.append_assoc]; rfl⟩
      · rw [List.length_append]
        -- The queue was not full when the loop put a message on it.
        rcases receivePiece_puts (hs.stub ht hsc) hran with hnone | ⟨hroom, hone⟩
        · rw [show ran.log.filterMap Event.put? = [] from hnone]
          exact hlen
        · rw [show (ran.log.filterMap Event.put?).length = 1 from hone]
          have hlt : queue.length < receiveChannelBuffer := by
            simpa [loopArgs] using hroom
          omega
    · rename_i hne
      rw [if_neg hne, List.append_nil]
      exact h.served q queue' hq

theorem onConsumer_fed {s s' : ConsumerState} (h : Fed s) {topic : String}
    {send : Scope ConsumerFields → Except Error Call} (hstep : onConsumer s topic send = some s') :
    Fed s' := by
  obtain ⟨acks, rfl | ⟨ref, sc, call, -, -, -, rfl⟩⟩ := onConsumer_eq_some hstep
  · exact h.aside [] (by simp [OffLoops]) (by simp) rfl rfl
  · exact h.aside [⟨.app, ref, .rpc call⟩] (by simp [OffLoops]) (by simp [Pool.write]) rfl rfl

theorem receive_fed {s : ConsumerState} (h : Fed s) : Fed (receive s) := by
  have hqueue : ∀ t ∈ s.consumers.map fun x =>
      ({ ref := x.2, queue := s.queues.length } : ReceiveTask), t.queue = s.queues.length := by
    intro t ht
    obtain ⟨x, -, rfl⟩ := List.mem_map.mp ht
    rfl
  have hold : ∀ q, putsOn (receive s).tasks q s.pool.trace = putsOn s.tasks q s.pool.trace :=
    fun q => putsOn_congr q fun x hx i hi => by
      rw [receive, List.getElem?_append_left (h.loops x hx i hi)]
  constructor
  · intro x hx i hi
    have hlt := h.loops x hx i hi
    simp only [receive, List.length_append]
    omega
  · intro t ht
    simp only [receive, List.length_append, List.length_singleton]
    rcases List.mem_append.mp ht with ht | ht
    · have hlt := h.queues t ht
      omega
    · rw [hqueue t ht]
      omega
  · intro q queue hq
    rw [show (receive s).pool.trace = s.pool.trace from rfl, hold]
    simp only [receive] at hq
    rcases Nat.lt_or_ge q s.queues.length with hlt | hge
    · rw [List.getElem?_append_left hlt] at hq
      exact h.served q queue hq
    · rw [List.getElem?_append_right hge] at hq
      obtain rfl : queue = [] := by simpa using List.mem_of_getElem? hq
      exact ⟨List.nil_suffix, by simp⟩

theorem get_fed {s s' : ConsumerState} {queue : Nat} (h : Fed s) (hstep : get s queue = some s') :
    Fed s' := by
  simp only [get] at hstep
  split at hstep
  · rename_i m rest hget
    cases hstep
    refine ⟨h.loops, fun t ht => ?_, fun q queue' hq => ?_⟩
    · rw [List.length_set]
      exact h.queues t ht
    · rw [List.getElem?_set] at hq
      split at hq
      · rename_i heq
        subst heq
        obtain ⟨hsuffix, hlen⟩ := h.served queue _ hget
        rw [if_pos (List.getElem?_eq_some_iff.mp hget).1, Option.some.injEq] at hq
        subst hq
        rw [List.length_cons] at hlen
        exact ⟨(List.suffix_cons m rest).trans hsuffix, by omega⟩
      · exact h.served q queue' hq
  · cases hstep

theorem step_fed {s s' : ConsumerState} {l : ConsumerLabel} (h : Fed s) (hs : Sound s)
    (hstep : step s l = some s') : Fed s' := by
  cases l with
  | subscribe env =>
    obtain ⟨-, -, c, x, -, -, rfl⟩ := subscribe_eq_some hstep
    exact h.aside [] (by simp [OffLoops]) (by simp) rfl rfl
  | partitions w =>
    rcases partitions_eq_some hstep with ⟨⟨names, rfl⟩, -⟩ | ⟨rfl, -⟩ <;>
      exact h.aside [] (by simp [OffLoops]) (by simp [Pool.alloc]) rfl rfl
  | child ref w env =>
    obtain ⟨p, hp, rfl⟩ := Option.map_eq_some_iff.mp hstep
    obtain ⟨c, heq, -⟩ := settle_eq { s with pool := p } ref
    obtain ⟨⟨log, -, htrace⟩, -⟩ := Pool.child_writes hs.pool hp
    rw [heq]
    refine h.aside _ (fun x hx i => ?_) htrace rfl rfl
    obtain ⟨e, -, rfl⟩ := List.mem_map.mp hx
    simp
  | gathered =>
    obtain ⟨names, g, -, rfl | ⟨-, rfl⟩⟩ := gathered_eq_some hstep <;>
      exact h.aside [] (by simp [OffLoops]) (by simp) rfl rfl
  | receive =>
    cases hstep
    exact receive_fed h
  | receiving task w env => exact receiving_fed h hs hstep
  | get queue => exact get_fed h hstep
  | ack message env => exact onConsumer_fed h hstep
  | nack message delayMs reason env => exact onConsumer_fed h hstep
  | acked call w =>
    obtain ⟨acks, rfl⟩ := acked_eq_some hstep
    exact h.aside [] (by simp [OffLoops]) (by simp) rfl rfl
  | health task w env =>
    obtain ⟨p, hp, rfl⟩ := Option.map_eq_some_iff.mp hstep
    obtain ⟨l, e, c, pos, log, stop, -, -, -, -, rfl⟩ := Pool.health_eq_some hp
    refine h.aside _ (fun x hx i => ?_) rfl rfl rfl
    obtain ⟨e, -, rfl⟩ := List.mem_map.mp hx
    simp
  | close =>
    cases hstep
    obtain ⟨log, htrace, hlog⟩ := Pool.foldl_stop_writes (s.consumers.map Prod.snd) s.pool
    refine h.aside _ (fun x hx i => by simp [(hlog x hx).2]) htrace rfl ?_
    simp only [close, List.map_map]
    refine List.map_congr_left fun t _ => ?_
    unfold cancel
    simp only [Function.comp]
    split <;> rfl

/-! ## One loop for each partition -/

theorem setItem_pairwise {d : List (String × Nat)} (name : String) {ref : Nat}
    (h : d.Pairwise fun x y => x.1 ≠ y.1 ∧ x.2 ≠ y.2) (href : ∀ x ∈ d, x.2 ≠ ref) :
    (setItem d name ref).Pairwise fun x y => x.1 ≠ y.1 ∧ x.2 ≠ y.2 := by
  unfold setItem
  split
  · rw [List.pairwise_map]
    refine h.imp_of_mem fun {x y} hx hy hxy => ?_
    by_cases hname : x.1 = name
    · have hy' : y.1 ≠ name := fun hy' => hxy.1 (hname.trans hy'.symm)
      rw [if_pos hname, if_neg hy']
      exact ⟨Ne.symm hy', Ne.symm (href y hy)⟩
    · rw [if_neg hname]
      split
      · exact ⟨hname, href x hx⟩
      · exact hxy
  · rename_i hnew
    refine List.pairwise_append.mpr ⟨h, List.pairwise_singleton _ _, fun x hx y hy => ?_⟩
    rw [List.mem_singleton.mp hy]
    exact ⟨fun hname => hnew (List.mem_map.mpr ⟨x, hx, hname⟩), href x hx⟩

theorem foldl_setItem_pairwise {xs d : List (String × Nat)} (hxs : (xs.map Prod.snd).Nodup)
    (h : d.Pairwise fun x y => x.1 ≠ y.1 ∧ x.2 ≠ y.2)
    (href : ∀ x ∈ d, x.2 ∉ xs.map Prod.snd) :
    (xs.foldl (fun d x => setItem d x.1 x.2) d).Pairwise fun x y => x.1 ≠ y.1 ∧ x.2 ≠ y.2 := by
  induction xs generalizing d with
  | nil => exact h
  | cons x xs ih =>
    rw [List.map_cons, List.nodup_cons] at hxs
    refine ih hxs.2 (setItem_pairwise x.1 h fun y hy heq => ?_) fun y hy => ?_
    · exact href y hy (by simp [heq])
    · rcases mem_setItem hy with hy | hy
      · exact fun hmem => href y hy (List.mem_cons_of_mem _ hmem)
      · exact hy ▸ hxs.1

/-- No two consumers have one endpoint, and no two loops of one queue. -/
structure Distinct (s : ConsumerState) : Prop where
  consumers : (s.consumers.map Prod.snd).Nodup
  gather : ∀ names g, s.subscribing = some (.gather names g) → g.refs.Nodup
  tasks : (s.tasks.map fun t => (t.queue, t.ref)).Nodup

theorem distinct_init (client : Client) (config : ConsumerConfig) :
    Distinct (init client config) where
  consumers := by simp [init]
  gather := by simp [init]
  tasks := by simp [init]

theorem map_snd_zip_sublist {α β : Type} (as : List α) (bs : List β) :
    ((as.zip bs).map Prod.snd).Sublist bs := by
  induction as generalizing bs with
  | nil => simp
  | cons a as ih =>
    cases bs with
    | nil => simp
    | cons b bs => exact (ih bs).cons_cons b

theorem gathered_nodup {names : List String} {refs : List Nat} (h : refs.Nodup) :
    (((names.zip refs).foldl (fun d x => setItem d x.1 x.2) []).map Prod.snd).Nodup := by
  have hzip : ((names.zip refs).map Prod.snd).Nodup :=
    h.sublist (map_snd_zip_sublist names refs)
  have hd := foldl_setItem_pairwise (d := []) hzip List.Pairwise.nil (by simp)
  exact List.pairwise_map.mpr (hd.imp fun hxy => hxy.2)

theorem Distinct.aside {s s' : ConsumerState} (h : Distinct s) (hconsumers : s'.consumers = s.consumers)
    (hgather : ∀ names g, s'.subscribing = some (.gather names g) →
      ∃ names' g', s.subscribing = some (.gather names' g') ∧ g.refs = g'.refs)
    (htasks : (s'.tasks.map fun t => (t.queue, t.ref)) = s.tasks.map fun t => (t.queue, t.ref)) :
    Distinct s' where
  consumers := hconsumers ▸ h.consumers
  gather names g hg := by
    obtain ⟨names', g', hg', hrefs⟩ := hgather names g hg
    exact hrefs ▸ h.gather names' g' hg'
  tasks := htasks ▸ h.tasks

theorem step_distinct {s s' : ConsumerState} {l : ConsumerLabel} (h : Distinct s) (hf : Fed s)
    (hstep : step s l = some s') : Distinct s' := by
  have hsame : ∀ names g, s.subscribing = some (.gather names g) →
      ∃ names' g', s.subscribing = some (.gather names' g') ∧ g.refs = g'.refs :=
    fun names g hg => ⟨names, g, hg, rfl⟩
  cases l with
  | subscribe env =>
    obtain ⟨-, -, c, x, -, hx, rfl⟩ := subscribe_eq_some hstep
    exact h.aside rfl (fun names g hg => (hx names g hg).elim) rfl
  | partitions w =>
    rcases partitions_eq_some hstep with ⟨⟨names, rfl⟩, -⟩ | ⟨rfl, -⟩
    · refine ⟨h.consumers, fun names' g hg => ?_, h.tasks⟩
      simp only [Option.some.injEq, SubscribeCall.gather.injEq] at hg
      rw [← hg.2]
      exact List.nodup_range'
    · exact h.aside rfl (by simp) rfl
  | child ref w env =>
    obtain ⟨p, hp, rfl⟩ := Option.map_eq_some_iff.mp hstep
    obtain ⟨c, heq, -, hg⟩ := settle_eq { s with pool := p } ref
    rw [heq]
    refine h.aside rfl (fun names g hc => ?_) rfl
    obtain ⟨g', hg', hrefs⟩ := hg names g hc
    exact ⟨names, g', hg', hrefs⟩
  | gathered =>
    obtain ⟨names, g, hg, rfl | ⟨-, rfl⟩⟩ := gathered_eq_some hstep
    · exact h.aside rfl (by simp) rfl
    · exact ⟨gathered_nodup (h.gather names g hg), by simp, h.tasks⟩
  | receive =>
    cases hstep
    refine ⟨h.consumers, h.gather, ?_⟩
    simp only [receive, List.map_append, List.map_map]
    refine List.nodup_append.mpr ⟨h.tasks, ?_, fun x hx y hy heq => ?_⟩
    · -- The new loops are on different endpoints, and on a queue of their own.
      have hpairs := List.pairwise_map.mp h.consumers
      exact List.pairwise_map.mpr (hpairs.imp fun hxy heq => hxy (Prod.mk.inj heq).2)
    · obtain ⟨t, ht, rfl⟩ := List.mem_map.mp hx
      obtain ⟨c, -, rfl⟩ := List.mem_map.mp hy
      exact absurd (Prod.mk.inj heq).1 (Nat.ne_of_lt (hf.queues t ht))
  | receiving task w env =>
    obtain ⟨t, sc, queue, ran, ht, -, -, -, rfl⟩ := receiving_eq_some.mp hstep
    exact h.aside rfl hsame (tasks_set ht rfl)
  | get queue =>
    obtain ⟨queues, rfl⟩ := get_eq_some hstep
    exact h.aside rfl hsame rfl
  | ack message env =>
    obtain ⟨acks, rfl | ⟨ref, sc, call, -, -, -, rfl⟩⟩ := onConsumer_eq_some hstep <;>
      exact h.aside rfl hsame rfl
  | nack message delayMs reason env =>
    obtain ⟨acks, rfl | ⟨ref, sc, call, -, -, -, rfl⟩⟩ := onConsumer_eq_some hstep <;>
      exact h.aside rfl hsame rfl
  | acked call w =>
    obtain ⟨acks, rfl⟩ := acked_eq_some hstep
    exact h.aside rfl hsame rfl
  | health task w env =>
    obtain ⟨p, -, rfl⟩ := Option.map_eq_some_iff.mp hstep
    exact h.aside rfl hsame rfl
  | close =>
    cases hstep
    refine h.aside rfl hsame ?_
    simp only [close, List.map_map]
    refine List.map_congr_left fun t _ => ?_
    simp only [Function.comp, cancel]
    split <;> rfl

/-! ## The order on the queues -/

/-- The journal of every loop hands its messages on in order. -/
structure Handed (s : ConsumerState) : Prop where
  sound : Sound s
  fed : Fed s
  distinct : Distinct s
  held : ∀ i, Always Hand.apply Hand.Held none (journalOf (.receive i) s.pool.trace)
  hand : ∀ (i : Nat) t, s.tasks[i]? = some t →
    Holds t.status (replay Hand.apply none (journalOf (.receive i) s.pool.trace))

theorem cancel_hand (t : ReceiveTask) : (cancel t).status.hand = none := by
  rcases cancel_status t with h | ⟨a, h⟩ | ⟨e, h⟩ <;> rw [h] <;> rfl

theorem step_handed {s s' : ConsumerState} {l : ConsumerLabel} (h : Handed s)
    (hstep : step s l = some s') : Handed s' where
  sound := step_sound h.sound hstep
  fed := step_fed h.fed h.sound hstep
  distinct := step_distinct h.distinct h.fed hstep
  held i := by
    cases step_receives hstep i with
    | idle l hl htask hlog => exact hlog ▸ h.held i
    | piece w env t ht sc hsc queue ran hran htask hlog =>
      rw [hlog, always_append]
      exact ⟨h.held i, (woken_held (receivePiece_woken (h.sound.stub ht hsc) hran) (h.hand i t ht)).1⟩
    | close htask hlog => exact hlog ▸ h.held i
  hand i t' ht' := by
    cases step_receives hstep i with
    | idle l hl htask hlog =>
      rw [hlog]
      rcases htask with heq | ⟨-, t, ht, hnew⟩
      · exact h.hand i t' (heq ▸ ht')
      · -- A new loop has no message in hand.
        rw [ht, Option.some.injEq] at ht'
        subst ht'
        rw [hnew]
        exact Or.inl rfl
    | piece w env t ht sc hsc queue ran hran htask hlog =>
      rw [htask, Option.some.injEq] at ht'
      subst ht'
      rw [hlog, replay_append]
      exact (woken_held (receivePiece_woken (h.sound.stub ht hsc) hran) (h.hand i t ht)).2
    | close htask hlog =>
      rw [htask] at ht'
      obtain ⟨t, -, rfl⟩ := Option.map_eq_some_iff.mp ht'
      exact Or.inl (cancel_hand t)

theorem handed_init (client : Client) (config : ConsumerConfig) : Handed (init client config) where
  sound := sound_init client config
  fed := fed_init client config
  distinct := distinct_init client config
  held _ := trivial
  hand := by simp [init]

/-- A queue has one loop for each partition. Each loop puts messages that it took, in their order and
each at most once, and has at most one in hand. The queue holds messages that its loops put and the
application did not take yet. -/
structure FansIn (s : ConsumerState) : Prop where
  partitions : ∀ (i j : Nat) t u, s.tasks[i]? = some t → s.tasks[j]? = some u →
    t.queue = u.queue → t.ref = u.ref → i = j
  loops : ∀ (i : Nat) t, s.tasks[i]? = some t → ∃ read,
    taken (journalOf (.receive i) s.pool.trace) = read ++ t.status.hand.toList ∧
      (puts (journalOf (.receive i) s.pool.trace)).Sublist read
  queues : ∀ (q : Nat) queue, s.queues[q]? = some queue →
    queue <:+ putsOn s.tasks q s.pool.trace ∧ queue.length ≤ receiveChannelBuffer
  read : ∀ (q : Nat) queue, s.queues[q]? = some queue → ∀ m ∈ queue, ∃ (i : Nat) (t : ReceiveTask),
    s.tasks[i]? = some t ∧ t.queue = q ∧ m ∈ taken (journalOf (.receive i) s.pool.trace)

theorem Handed.loop {s : ConsumerState} (h : Handed s) {i : Nat} {t : ReceiveTask}
    (ht : s.tasks[i]? = some t) : ∃ read,
      taken (journalOf (.receive i) s.pool.trace) = read ++ t.status.hand.toList ∧
        (puts (journalOf (.receive i) s.pool.trace)).Sublist read := by
  obtain ⟨read, hread, hsub⟩ := Hand.held_sublist (h.held i)
  rcases h.hand i t ht with hnone | hsome
  · refine ⟨taken (journalOf (.receive i) s.pool.trace), by simp [hnone], ?_⟩
    rw [hread]
    exact hsub.trans (List.sublist_append_left _ _)
  · exact ⟨read, by rw [hsome]; exact hread, hsub⟩

theorem Distinct.loop {s : ConsumerState} (h : Distinct s) (i j : Nat) (t u : ReceiveTask)
    (ht : s.tasks[i]? = some t) (hu : s.tasks[j]? = some u) (hqueue : t.queue = u.queue)
    (href : t.ref = u.ref) : i = j := by
  have hi : i < (s.tasks.map fun t => (t.queue, t.ref)).length := by
    simpa using (List.getElem?_eq_some_iff.mp ht).1
  refine (List.getElem?_inj hi h.tasks).mp ?_
  rw [List.getElem?_map, List.getElem?_map, ht, hu]
  simp [hqueue, href]

theorem exec_handed {client : Client} {config : ConsumerConfig} {ls : List ConsumerLabel}
    {s : ConsumerState} (h : exec step (init client config) ls = some s) : Handed s :=
  exec_invariant (fun _ _ _ hs hstep => step_handed hs hstep) (handed_init client config) h

theorem Handed.fansIn {s : ConsumerState} (hs : Handed s) : FansIn s := by
  refine ⟨hs.distinct.loop, fun i t ht => hs.loop ht, hs.fed.served, fun q queue hq m hm => ?_⟩
  have hput : m ∈ putsOn s.tasks q s.pool.trace := (hs.fed.served q queue hq).1.subset hm
  obtain ⟨i, t, ht, hqueue, hputs⟩ := mem_putsOn hput
  obtain ⟨read, hread, hsub⟩ := hs.loop ht
  refine ⟨i, t, ht, hqueue, ?_⟩
  rw [hread]
  exact List.mem_append_left _ (hsub.subset hputs)

theorem fans_in {client : Client} {config : ConsumerConfig} {ls : List ConsumerLabel}
    {s : ConsumerState} (h : exec step (init client config) ls = some s) : FansIn s :=
  (exec_handed h).fansIn

/-- Two partitions: the second one's loop is ahead of the first one's, and then the first one's stream
breaks and a message comes in on its next stream. -/
def twoPartitions : List ConsumerLabel :=
  [.subscribe {}, .partitions (.answer (.topicPartitions ["t-part-0", "t-part-1"])),
    .child 0 .start {}, .child 0 (.answer (.address "a")) {}, .child 0 (.answer (.registered 1)) {},
    .child 1 .start {}, .child 1 (.answer (.address "a")) {}, .child 1 (.answer (.registered 2)) {},
    .gathered, .receive, .receiving 0 .start {}, .receiving 1 .start {},
    .receiving 1 (.answer (.stream message)) {}, .receiving 0 (.fail .unavailable) {},
    .receiving 0 (.answer (.stream { message with payload := [2] })) {}, .get 0]

theorem two_partitions_fan_in :
    ∃ s, exec step (init (.init "a" {}) .oneRetry) twoPartitions = some s ∧ FansIn s := by
  obtain ⟨s, hs⟩ := Option.isSome_iff_exists.mp
    (by rfl : (exec step (init (.init "a" {}) .oneRetry) twoPartitions).isSome)
  exact ⟨s, hs, fans_in hs⟩

end Consumer

end Danube
