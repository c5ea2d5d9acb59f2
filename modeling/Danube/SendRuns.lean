import Danube.SendTrace
import Danube.ProducerTrace

/-!
# The sends of a producer

Each send of a producer is a run of its call among the other tasks, on a `TopicProducer` whose
`create()` returned. Its journal therefore has the trace of such a run.
-/

namespace Danube

open Async

/-- The journal and the suspension point are those of a run of the call among other tasks. -/
def SendCall.HasRun (call : SendCall) (o : Outcome Sending Nat Error) (log : List Event) : Prop :=
  ∃ env s ls, s.self.stub ≠ none ∧ (∀ l ∈ ls, l.1.self.stub ≠ none) ∧
    ∃ t, exec call.proceed (call.attempt env 0 s) ls = some t ∧ t.next = o ∧ t.log = log

theorem SendCall.HasRun.resumed {call : SendCall} {k : Sending} {log : List Event}
    (h : call.HasRun (.await k) log) {env : Env} {s : Scope ProducerFields} {w : Wake}
    {r : Piece ProducerFields Sending Nat} (hs : s.self.stub ≠ none)
    (hr : call.resume env s k w = some r) : call.HasRun r.next (log ++ r.log) := by
  obtain ⟨env₀, s₀, ls, hstart, hls, t, hrun, hnext, rfl⟩ := h
  refine ⟨env₀, s₀, ls ++ [(s, w, env)], hstart, fun l hl => ?_, r.after t.log, ?_, rfl, rfl⟩
  · rcases List.mem_append.mp hl with hl | hl
    · exact hls l hl
    · exact List.mem_singleton.mp hl ▸ hs
  · refine exec_append.mpr ⟨t, hrun, exec_cons.mpr ⟨_, ?_, rfl⟩⟩
    exact proceed_eq_some.mpr ⟨k, r, hnext, hr, rfl⟩

namespace Producer

/-- The sends of the state are runs of their calls, except those without a partition to send to. -/
def SendsRun (s : ProducerState) : Prop :=
  ∀ i, match s.sends[i]? with
    | none => journalOf (.send i) s.pool.trace = []
    | some t =>
      (∃ err, t.status = .raise err) ∧ journalOf (.send i) s.pool.trace = [] ∨
        t.call.HasRun t.status (journalOf (.send i) s.pool.trace)

theorem sendsRun_init (client : Client) (config : ProducerConfig) : SendsRun (init client config) := by
  intro i
  simp [init, journalOf]

theorem step_sendsRun {s s' : ProducerState} {l : ProducerLabel} (h : Sound s) (hruns : SendsRun s)
    (hstep : step s l = some s') : SendsRun s' := by
  intro i
  have hi := hruns i
  cases step_moves h hstep i with
  | idle l hl htask hlog => rwa [htask, hlog]
  | outOfRange l hl hnew t htask err ht hlog =>
    rw [hnew] at hi
    rw [htask, hlog]
    exact Or.inl ⟨⟨err, ht⟩, hi⟩
  | starts l hl hnew t htask env sc log hatt hlog =>
    rw [hnew] at hi
    obtain ⟨rfl, data, attributes, env, rfl⟩ := step_new hstep hnew htask
    obtain ⟨-, partition, router, t₀, -, ht₀, hcase⟩ := send_eq_some hstep
    rcases hcase with ⟨-, rfl⟩ | ⟨r, sc, hr, hsc, rfl⟩
    · -- The partition is out of range.
      have htask' : (s.sends ++ [t₀])[s.sends.length]? = some t := htask
      rw [List.getElem?_concat_length, Option.some.injEq] at htask'
      subst htask'
      rw [htask]
      exact Or.inl ⟨⟨_, congrArg SendTask.status ht₀⟩, hi⟩
    · -- The run of the call starts with its first attempt.
      have htrace := commitSend_trace (s := { s with router := router, sends := s.sends ++ [t₀] })
        s.sends.length t₀ hsc (sendAttempt_journaled env t₀.call 0 sc)
      have htask' : (commitSend { s with router := router, sends := s.sends ++ [t₀] } s.sends.length t₀
          (t₀.call.attempt env 0 sc)).sends[s.sends.length]? =
            some { t₀ with status := (t₀.call.attempt env 0 sc).next } := by
        simp [commitSend]
      rw [htask', htrace, journalOf_append, journalOf_entries_self, hi, List.nil_append]
      exact Or.inr ⟨env, sc, [], h.stub hr hsc, by simp, _, rfl, rfl, rfl⟩
  | resumes w env t htask r hr sc hsc k hk c log o hres htask' hlog =>
    rw [htask] at hi
    obtain ⟨t₀, r₀, sc₀, k₀, ran, ht₀, hr₀, hsc₀, hk₀, hran, rfl⟩ := sending_eq_some.mp hstep
    obtain rfl : t = t₀ := Option.some.inj (htask.symm.trans ht₀)
    have htrace := commitSend_trace i t hsc₀ (sendResume_journaled env hran)
    have hset : (commitSend s i t ran).sends[i]? = some { t with status := ran.next } := by
      simp [commitSend, List.getElem?_set_self (List.getElem?_eq_some_iff.mp htask).1]
    rw [hset, htrace, journalOf_append, journalOf_entries_self]
    rcases hi with ⟨⟨err, herr⟩, -⟩ | hrun
    · rw [hk₀] at herr
      cases herr
    · rw [hk₀] at hrun
      exact Or.inr (hrun.resumed (h.stub hr₀ hsc₀) hran)

/-- Whatever its tasks do, every send of a producer that has a partition is a run of its call. -/
theorem exec_sendsRun {client : Client} {config : ProducerConfig} {ls : List ProducerLabel}
    {s : ProducerState} (h : exec step (init client config) ls = some s) : SendsRun s :=
  (exec_invariant (P := fun s => Sound s ∧ SendsRun s)
    (fun _ _ _ hs hstep => ⟨step_sound hs.1 hstep, step_sendsRun hs.1 hs.2 hstep⟩)
    ⟨sound_init client config, sendsRun_init client config⟩ h).2

/-- The journal of a send with its notes is a sequence of full rounds and a last one. -/
theorem sends_in_rounds {client : Client} {config : ProducerConfig} {ls : List ProducerLabel}
    {s : ProducerState} (h : exec step (init client config) ls = some s) {i : Nat} {t : SendTask}
    (ht : s.sends[i]? = some t) (hjournal : journalOf (.send i) s.pool.trace ≠ []) :
    ∃ u : SendNoting, u.erase.next = t.status ∧ u.erase.log = journalOf (.send i) s.pool.trace ∧
      ∃ (rounds : List (List SendTurn)) (last : List SendTurn),
        notes u.log = rounds.flatten ++ last ∧
        (∀ r ∈ rounds, Rounds.Full t.call.retryManager.policy r) ∧
        Rounds.Last t.call.retryManager.policy (SendCall.roundPhase t.status) last := by
  have hi := exec_sendsRun h i
  rw [ht] at hi
  rcases hi with ⟨-, hempty⟩ | ⟨env, sc, ls', hs, hls, r, hrun, hnext, hlog⟩
  · exact (hjournal hempty).elim
  · rw [← SendCall.exec_note_erase] at hrun
    obtain ⟨u, hu, rfl⟩ := Option.map_eq_some_iff.mp hrun
    have hrounds := Rounds.exec_rounds (SendCall.exec_rounded hs hls hu)
    rw [show u.next = t.status from hnext] at hrounds
    exact ⟨u, hnext, hlog, hrounds⟩

end Producer

end Danube
