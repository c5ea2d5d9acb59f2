import Danube.ConsumerJournal
import Danube.PoolTrace

/-! # The tasks of a consumer -/

namespace Danube

open Async

namespace Pool

variable {p : Pool ConsumerFields} {ref : Nat} {s : Scope ConsumerFields}

theorem cleared_kept {κ α : Type} {ran : Piece ConsumerFields κ α} (h : p.Kept)
    (hs : p.scope ref = some s) (hr : Cleared s ran) (actor : Actor) : (p.commit actor ran).Kept := by
  rcases hr with hj | ⟨-, hj⟩
  · exact commit_kept h hs hj actor
  · have href : ran.state.ref = ref := hj.ref.trans (scope_eq_some.mp hs).2.2.2
    rw [← commit_setStop false actor ran href]
    exact commit_kept (setStop_kept h ref false) (scope_setStop hs) hj actor

theorem cleared_sound {κ α : Type} {ran : Piece ConsumerFields κ α} (h : p.Sound)
    (hs : p.scope ref = some s) (hr : Cleared s ran) (actor : Actor) {id : Nat}
    (hret : p.children[ref]? = some (.started (.ret id))) : (p.commit actor ran).Sound := by
  have hstub : s.self.stub ≠ none := (h.ready ref _ s.self hret (scope_eq_some.mp hs).1).stubRet id rfl
  have hready : ran.state.self.stub ≠ none →
      Ready ran.state.client ran.state.self (.ret id : Outcome Registering Nat Error) :=
    fun hran => ⟨by simp, fun _ _ => hran, by simp⟩
  rcases hr with hj | ⟨-, hj⟩
  · exact commit_sound h hs hj actor rfl (fun _ _ => rfl) hret (hready (hj.stub_ne_none hstub))
  · have href : ran.state.ref = ref := hj.ref.trans (scope_eq_some.mp hs).2.2.2
    rw [← commit_setStop false actor ran href]
    exact commit_sound (setStop_sound h ref false) (scope_setStop hs) hj actor rfl (fun _ _ => rfl)
      hret (hready (hj.stub_ne_none hstub))

theorem write_eq_commit (hs : p.scope ref = some s) (actor : Actor) (log : List Event) :
    p.write actor ref log =
      p.commit actor (⟨s, log, .ret ()⟩ : Piece ConsumerFields Receiving Unit) := by
  obtain ⟨hself, hclient, hloops, href⟩ := scope_eq_some.mp hs
  have hset : p.endpoints.set ref s.self = p.endpoints := by
    refine List.ext_getElem? fun i => ?_
    rw [List.getElem?_set]
    split
    · rename_i heq
      subst heq
      rw [hself, if_pos (List.getElem?_eq_some_iff.mp hself).1]
    · rfl
  simp [write, commit, hclient, hloops, href, hset]

end Pool

namespace Consumer

/-- The tasks of a consumer run on endpoints whose `subscribe()` has returned. -/
structure Sound (s : ConsumerState) : Prop where
  kept : s.pool.Kept
  pool : s.pool.Sound
  consumers : ∀ x ∈ s.consumers, ∃ id, s.pool.children[x.2]? = some (.started (.ret id))
  subscribing : s.subscribing ≠ none → s.consumers = []
  tasks : ∀ t ∈ s.tasks, ∃ id, s.pool.children[t.ref]? = some (.started (.ret id))

theorem sound_init (client : Client) (config : ConsumerConfig) : Sound (init client config) where
  kept := Pool.kept_init client
  pool := Pool.sound_init client
  consumers := by simp [init]
  subscribing := by simp [init]
  tasks := by simp [init]

theorem Sound.withPool {s : ConsumerState} (h : Sound s) {p : Pool ConsumerFields} (hkept : p.Kept)
    (hsound : p.Sound) (hreturned : ∀ (r : Nat) id, s.pool.children[r]? = some (.started (.ret id)) →
      p.children[r]? = some (.started (.ret id))) : Sound { s with pool := p } where
  kept := hkept
  pool := hsound
  consumers x hx := (h.consumers x hx).imp fun id hid => hreturned _ id hid
  subscribing := h.subscribing
  tasks t ht := (h.tasks t ht).imp fun id hid => hreturned _ id hid

theorem mem_setItem {d : List (String × Nat)} {name : String} {ref : Nat} {x : String × Nat}
    (h : x ∈ setItem d name ref) : x ∈ d ∨ x = (name, ref) := by
  unfold setItem at h
  split at h
  · obtain ⟨y, hy, rfl⟩ := List.mem_map.mp h
    split
    · exact Or.inr rfl
    · exact Or.inl hy
  · exact (List.mem_append.mp h).imp_right List.mem_singleton.mp

theorem mem_foldl_setItem {xs d : List (String × Nat)} {x : String × Nat}
    (h : x ∈ xs.foldl (fun d x => setItem d x.1 x.2) d) : x ∈ d ∨ x ∈ xs := by
  induction xs generalizing d with
  | nil => exact Or.inl h
  | cons y ys ih =>
    rcases ih h with hd | hys
    · rcases mem_setItem hd with hd | rfl
      · exact Or.inl hd
      · exact Or.inr List.mem_cons_self
    · exact Or.inr (List.mem_cons_of_mem _ hys)

theorem mem_gathered {names : List String} {refs : List Nat} {x : String × Nat}
    (h : x ∈ (names.zip refs).foldl (fun d x => setItem d x.1 x.2) []) : x.2 ∈ refs := by
  rcases mem_foldl_setItem h with h | h
  · cases h
  · exact (List.of_mem_zip h).2

theorem tasks_set {β : Type} {f : ReceiveTask → β} {tasks : List ReceiveTask} {i : Nat}
    {t t' : ReceiveTask} (ht : tasks[i]? = some t) (hf : f t' = f t) :
    (tasks.set i t').map f = tasks.map f := by
  obtain ⟨hlt, rfl⟩ := List.getElem?_eq_some_iff.mp ht
  rw [List.map_set, hf, ← List.getElem_map f (h := by simpa using hlt), List.set_getElem_self]

theorem cancel_ref (t : ReceiveTask) : (cancel t).ref = t.ref := by
  unfold cancel
  split <;> rfl

theorem cancel_status (t : ReceiveTask) : (cancel t).status = .cancelled ∨
    (∃ a, (cancel t).status = .started (.ret a)) ∨ ∃ e, (cancel t).status = .started (.raise e) := by
  unfold cancel
  split
  · rename_i a hret
    exact Or.inr (Or.inl ⟨a, hret⟩)
  · rename_i e hraise
    exact Or.inr (Or.inr ⟨e, hraise⟩)
  · exact Or.inl rfl

theorem allReturned_ret {g : Gather} {children : List Child} (h : g.allReturned children = true)
    {r : Nat} (hr : r ∈ g.refs) : ∃ id, children[r]? = some (.started (.ret id)) := by
  have hall := List.all_eq_true.mp h r hr
  split at hall
  · rename_i id hid
    exact ⟨id, hid⟩
  · simp at hall

theorem mem_of_lookup {d : List (String × Nat)} {name : String} {ref : Nat}
    (h : d.lookup name = some ref) : (name, ref) ∈ d := by
  obtain ⟨l₁, l₂, hl, -⟩ := List.lookup_eq_some_iff.mp h
  rw [hl]
  simp

theorem settle_sound {s : ConsumerState} (h : Sound s) (ref : Nat) : Sound (settle s ref) := by
  obtain ⟨c, heq, hnone, -⟩ := settle_eq s ref
  rw [heq]
  exact ⟨h.kept, h.pool, h.consumers, fun hc => h.subscribing fun hs => hc (hnone.mpr hs), h.tasks⟩

theorem client_sound {p : Pool ConsumerFields} (h : p.Sound) {c : Client} (hc : p.client.Extends c) :
    Pool.Sound { p with client := c } :=
  h.congr hc rfl rfl (fun _ _ => rfl) rfl fun r e e' he he' => by
    rw [he, Option.some.injEq] at he'
    exact he' ▸ ⟨rfl, Or.inl rfl⟩

theorem receiving_sound {s s' : ConsumerState} {task : Nat} {w : Wake} {env : Env} (h : Sound s)
    (hstep : receiving s task w env = some s') : Sound s' := by
  obtain ⟨t, sc, queue, ran, ht, hsc, -, hran, rfl⟩ := receiving_eq_some.mp hstep
  obtain ⟨id, hid⟩ := h.tasks t (List.mem_of_getElem? ht)
  have hcleared := receivePiece_cleared env hran
  have hs := h.withPool (Pool.cleared_kept h.kept hsc hcleared (.receive task))
    (Pool.cleared_sound h.pool hsc hcleared (.receive task) hid) fun _ _ h => h
  refine ⟨hs.kept, hs.pool, hs.consumers, hs.subscribing, fun t' ht' => ?_⟩
  rcases List.mem_or_eq_of_mem_set ht' with ht' | rfl
  · exact hs.tasks t' ht'
  · exact ⟨id, hid⟩

theorem onConsumer_sound {s s' : ConsumerState} (h : Sound s) {topic : String}
    {send : Scope ConsumerFields → Except Error Call}
    (hsend : ∀ sc call, send sc = .ok call → Journaled sc [.rpc call] sc)
    (hstep : onConsumer s topic send = some s') : Sound s' := by
  obtain ⟨acks, rfl | ⟨ref, sc, call, href, hsc, hcall, rfl⟩⟩ := onConsumer_eq_some hstep
  · exact ⟨h.kept, h.pool, h.consumers, h.subscribing, h.tasks⟩
  · obtain ⟨id, hid⟩ := h.consumers _ (mem_of_lookup href)
    have hcleared : Cleared sc (⟨sc, [.rpc call], .ret ()⟩ : Piece ConsumerFields Receiving Unit) :=
      Or.inl (hsend sc call hcall)
    have hwrite := Pool.write_eq_commit hsc .app [.rpc call]
    have hs : Sound { s with pool := s.pool.write .app ref [.rpc call] } := by
      rw [hwrite]
      exact h.withPool (Pool.cleared_kept h.kept hsc hcleared .app)
        (Pool.cleared_sound h.pool hsc hcleared .app hid) fun _ _ h => h
    exact ⟨hs.kept, hs.pool, hs.consumers, hs.subscribing, hs.tasks⟩

theorem onStub_rpc {env : Env} {text : String} {request : Request} {sc : Scope ConsumerFields}
    {call : Call} (hmsg : ∀ m, request ≠ .sendMessage m)
    (hstream : ∀ n id, request ≠ .receiveMessages n id)
    (h : TopicConsumer.onStub env text request sc = .ok call) : Journaled sc [.rpc call] sc := by
  obtain ⟨hstub, hreq, hmd⟩ := onStub_ok env h
  exact .rpcOnStub hstub hmd (fun m hm => (hmsg m (hreq ▸ hm)).elim)
    fun n id hn => (hstream n id (hreq ▸ hn)).elim

theorem step_sound {s s' : ConsumerState} {l : ConsumerLabel} (h : Sound s)
    (hstep : step s l = some s') : Sound s' := by
  cases l with
  | subscribe env =>
    obtain ⟨-, hnil, c, x, hc, -, rfl⟩ := subscribe_eq_some hstep
    have hs := h.withPool (Pool.ofClient_kept h.kept hc) (client_sound h.pool hc) fun _ _ h => h
    exact ⟨hs.kept, hs.pool, hs.consumers, fun _ => hnil, hs.tasks⟩
  | partitions w =>
    rcases partitions_eq_some hstep with ⟨⟨names, rfl⟩, call, hcall⟩ | ⟨rfl, call, hcall⟩
    · have hfresh := topicConsumers_fresh s names
      have hs := h.withPool (Pool.alloc_kept h.kept hfresh)
        (Pool.alloc_sound h.pool h.kept fun e he => (hfresh e he).healthTask)
        (Pool.alloc_returned s.pool _)
      exact ⟨hs.kept, hs.pool, hs.consumers, fun _ => h.subscribing (by simp [hcall]), hs.tasks⟩
    · exact ⟨h.kept, h.pool, h.consumers, by simp, h.tasks⟩
  | child ref w env =>
    obtain ⟨p, hp, rfl⟩ := Option.map_eq_some_iff.mp hstep
    exact settle_sound (h.withPool (Pool.child_kept h.kept hp) (Pool.child_sound h.pool hp)
      (Pool.child_returned hp)) ref
  | gathered =>
    obtain ⟨names, g, hg, rfl | ⟨hall, rfl⟩⟩ := gathered_eq_some hstep
    · exact ⟨h.kept, h.pool, h.consumers, by simp, h.tasks⟩
    · exact ⟨h.kept, h.pool, fun x hx => allReturned_ret hall (mem_gathered hx), by simp, h.tasks⟩
  | receive =>
    cases hstep
    refine ⟨h.kept, h.pool, h.consumers, h.subscribing, fun t ht => ?_⟩
    rcases List.mem_append.mp ht with ht | ht
    · exact h.tasks t ht
    · obtain ⟨x, hx, rfl⟩ := List.mem_map.mp ht
      exact h.consumers x hx
  | receiving task w env => exact receiving_sound h hstep
  | get queue =>
    obtain ⟨queues, rfl⟩ := get_eq_some hstep
    exact ⟨h.kept, h.pool, h.consumers, h.subscribing, h.tasks⟩
  | ack message env =>
    exact onConsumer_sound h (fun sc call => onStub_rpc (by simp) (by simp)) hstep
  | nack message delayMs reason env =>
    exact onConsumer_sound h (fun sc call => onStub_rpc (by simp) (by simp)) hstep
  | acked call w =>
    obtain ⟨acks, rfl⟩ := acked_eq_some hstep
    exact ⟨h.kept, h.pool, h.consumers, h.subscribing, h.tasks⟩
  | health task w env =>
    obtain ⟨p, hp, rfl⟩ := Option.map_eq_some_iff.mp hstep
    refine h.withPool (Pool.health_kept h.kept hp) (Pool.health_sound h.pool hp) fun r id hr => ?_
    obtain ⟨l, e, c, pos, log, stop, -, -, -, -, rfl⟩ := Pool.health_eq_some hp
    exact hr
  | close =>
    cases hstep
    have hstop : ∀ (refs : List Nat) {s : ConsumerState}, Sound s →
        (∀ r ∈ refs, ∃ id, s.pool.children[r]? = some (.started (.ret id))) →
        Sound { s with pool := refs.foldl Pool.stop s.pool } := by
      intro refs
      induction refs with
      | nil => exact fun h _ => h
      | cons r rs ih =>
        intro s h hrefs
        obtain ⟨id, hid⟩ := hrefs r (by simp)
        have hs : Sound { s with pool := s.pool.stop r } :=
          h.withPool (Pool.stop_kept h.kept r) (Pool.stop_sound h.pool ⟨_, hid⟩) fun r' id' hr' => by
            rwa [Pool.stop_children]
        exact ih hs fun r' hr' => by
          simp only [Pool.stop_children]
          exact hrefs r' (List.mem_cons_of_mem _ hr')
    have hs := hstop (s.consumers.map Prod.snd) h fun r hr => by
      obtain ⟨x, hx, rfl⟩ := List.mem_map.mp hr
      exact h.consumers x hx
    refine ⟨hs.kept, hs.pool, hs.consumers, hs.subscribing, fun t ht => ?_⟩
    obtain ⟨t', ht', rfl⟩ := List.mem_map.mp ht
    have href : (cancel t').ref = t'.ref := by
      unfold cancel
      split <;> rfl
    rw [href]
    exact hs.tasks t' ht'

theorem exec_sound {client : Client} {config : ConsumerConfig} {ls : List ConsumerLabel}
    {s : ConsumerState} (h : exec step (init client config) ls = some s) : Sound s :=
  exec_invariant (fun _ _ _ hs hstep => step_sound hs hstep) (sound_init client config) h

/-! ## What a step does to one receive loop -/

/-- The loop `i` runs one piece, or nothing happens to it but that it may be made. -/
inductive Receives (s s' : ConsumerState) (i : Nat) : ConsumerLabel → Prop
  | idle (l : ConsumerLabel) (hl : ∀ w env, l ≠ .receiving i w env)
    (htask : s'.tasks[i]? = s.tasks[i]? ∨
      s.tasks[i]? = none ∧ ∃ t, s'.tasks[i]? = some t ∧ t.status = .scheduled)
    (hlog : journalOf (.receive i) s'.pool.trace = journalOf (.receive i) s.pool.trace) :
    Receives s s' i l
  | piece (w : Wake) (env : Env) (t : ReceiveTask) (ht : s.tasks[i]? = some t)
    (sc : Scope ConsumerFields) (hsc : s.pool.scope t.ref = some sc) (queue : List StreamMessage)
    (ran : Piece ConsumerFields Receiving Unit)
    (hran : receivePiece env (loopArgs s queue) sc t.status w = some ran)
    (htask : s'.tasks[i]? = some { t with status := .started ran.next })
    (hlog : journalOf (.receive i) s'.pool.trace = journalOf (.receive i) s.pool.trace ++ ran.log) :
    Receives s s' i (.receiving i w env)
  | close (htask : s'.tasks[i]? = s.tasks[i]?.map cancel)
    (hlog : journalOf (.receive i) s'.pool.trace = journalOf (.receive i) s.pool.trace) :
    Receives s s' i .close

theorem onConsumer_receives {s s' : ConsumerState} {topic : String}
    {send : Scope ConsumerFields → Except Error Call} (hstep : onConsumer s topic send = some s')
    (i : Nat) : s'.tasks = s.tasks ∧
      journalOf (.receive i) s'.pool.trace = journalOf (.receive i) s.pool.trace := by
  obtain ⟨acks, rfl | ⟨ref, sc, call, -, -, -, rfl⟩⟩ := onConsumer_eq_some hstep
  · exact ⟨rfl, rfl⟩
  · refine ⟨rfl, ?_⟩
    simp only [Pool.write, journalOf_append]
    rw [journalOf_entries_ne (by simp), List.append_nil]

theorem step_receives {s s' : ConsumerState} {l : ConsumerLabel} (hstep : step s l = some s')
    (i : Nat) : Receives s s' i l := by
  cases l with
  | subscribe env =>
    obtain ⟨-, -, c, x, -, -, rfl⟩ := subscribe_eq_some hstep
    exact .idle _ (by simp) (Or.inl rfl) rfl
  | partitions w =>
    rcases partitions_eq_some hstep with ⟨⟨names, rfl⟩, -⟩ | ⟨rfl, -⟩ <;>
      exact .idle _ (by simp) (Or.inl rfl) rfl
  | child ref w env =>
    obtain ⟨p, hp, rfl⟩ := Option.map_eq_some_iff.mp hstep
    obtain ⟨c, heq, -⟩ := settle_eq { s with pool := p } ref
    rw [heq]
    exact .idle _ (by simp) (Or.inl rfl) (Pool.child_journalOf hp (by simp))
  | gathered =>
    obtain ⟨names, g, -, rfl | ⟨-, rfl⟩⟩ := gathered_eq_some hstep <;>
      exact .idle _ (by simp) (Or.inl rfl) rfl
  | receive =>
    cases hstep
    refine .idle _ (by simp) ?_ rfl
    simp only [receive]
    rcases Nat.lt_or_ge i s.tasks.length with hlt | hge
    · exact Or.inl (List.getElem?_append_left hlt)
    · rw [List.getElem?_append_right hge, List.getElem?_eq_none hge]
      cases hnew : (s.consumers.map fun x =>
          ({ ref := x.2, queue := s.queues.length } : ReceiveTask))[i - s.tasks.length]? with
      | none => exact Or.inl rfl
      | some t =>
        obtain ⟨x, -, rfl⟩ := List.mem_map.mp (List.mem_of_getElem? hnew)
        exact Or.inr ⟨rfl, _, rfl, rfl⟩
  | receiving task w env =>
    obtain ⟨t, sc, queue, ran, ht, hsc, -, hran, rfl⟩ := receiving_eq_some.mp hstep
    by_cases hi : i = task
    · subst hi
      refine .piece w env t ht sc hsc queue ran hran
        (List.getElem?_set_self (List.getElem?_eq_some_iff.mp ht).1) ?_
      simp only [Pool.commit, journalOf_append, journalOf_entries_self]
    · refine .idle _ (by simpa using fun h => (hi h.symm).elim)
        (Or.inl (List.getElem?_set_ne (Ne.symm hi))) ?_
      simp only [Pool.commit, journalOf_append]
      rw [journalOf_entries_ne (by simpa using hi), List.append_nil]
  | get queue =>
    obtain ⟨queues, rfl⟩ := get_eq_some hstep
    exact .idle _ (by simp) (Or.inl rfl) rfl
  | ack message env =>
    obtain ⟨htasks, hlog⟩ := onConsumer_receives hstep i
    exact .idle _ (by simp) (Or.inl (by rw [htasks])) hlog
  | nack message delayMs reason env =>
    obtain ⟨htasks, hlog⟩ := onConsumer_receives hstep i
    exact .idle _ (by simp) (Or.inl (by rw [htasks])) hlog
  | acked call w =>
    obtain ⟨acks, rfl⟩ := acked_eq_some hstep
    exact .idle _ (by simp) (Or.inl rfl) rfl
  | health task w env =>
    obtain ⟨p, hp, rfl⟩ := Option.map_eq_some_iff.mp hstep
    exact .idle _ (by simp) (Or.inl rfl) (Pool.health_journalOf hp (by simp))
  | close =>
    cases hstep
    refine .close ?_ (Pool.foldl_stop_journalOf _ _ (by simp))
    simp [close]

end Consumer

end Danube
