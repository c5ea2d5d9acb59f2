import Danube.Async.Retry

/-!
# Retry loops that renew their peer

A loop that tries and sleeps until its retries are used up, then looks its peer up and renews it,
and starts over. Its trace is a sequence of full rounds and a last, partial one.
-/

namespace Async.Rounds

open Async.Retry (Policy)

variable {ε α : Type*}

/-- One thing that the loop does. -/
inductive Turn (ε α : Type*)
  | attempt (outcome : Except ε α)
  | sleep (ms : ℕ)
  | lookup (found : Bool)
  | renew (outcome : Except ε α)

/-- What the loop does next. `n` counts the attempts of the round that failed, `err` is the error of
the last one. -/
inductive Phase (ε α : Type*)
  | attempt (n : ℕ)
  | sleep (n : ℕ)
  | lookup (err : ε)
  | renew
  | over (outcome : Except ε α)

def afterAttempt (p : Policy ε) (n : ℕ) : Except ε α → Phase ε α
  | .ok a => .over (.ok a)
  | .error e =>
    if p.retryable e then if n + 1 > p.maxRetries then .lookup e else .sleep (n + 1)
    else .over (.error e)

def step (p : Policy ε) : Phase ε α → Turn ε α → Option (Phase ε α)
  | .attempt n, .attempt o => some (afterAttempt p n o)
  | .sleep n, .sleep ms => if p.low (n - 1) ≤ ms ∧ ms ≤ p.high (n - 1) then some (.attempt n) else none
  | .lookup e, .lookup found => some (if found then .renew else .over (.error e))
  | .renew, .renew (.ok _) => some (.attempt 0)
  | .renew, .renew (.error e) => some (.over (.error e))
  | _, _ => none

/-! ## The grammar of a trace -/

/-- Failed attempts, each with the sleep after it. -/
def retried (fails : List (ε × ℕ)) : List (Turn ε α) :=
  fails.flatMap fun f => [.attempt (.error f.1), .sleep f.2]

theorem retried_append (fails : List (ε × ℕ)) (f : ε × ℕ) :
    (retried (fails ++ [f]) : List (Turn ε α)) =
      retried fails ++ [.attempt (.error f.1), .sleep f.2] := by
  simp [retried]

/-- `n` failures that are retried, after sleeps within their bounds. -/
structure Retried (p : Policy ε) (n : ℕ) (fails : List (ε × ℕ)) : Prop where
  length : fails.length = n
  each : ∀ i e ms, fails[i]? = some (e, ms) → p.retryable e ∧ p.low i ≤ ms ∧ ms ≤ p.high i

/-- A round that ends with the peer renewed: one more failure than there are retries, a sleep after
each of them but the last, a lookup and a renewal. -/
inductive Full (p : Policy ε) : List (Turn ε α) → Prop
  | mk (fails : List (ε × ℕ)) (h : Retried p p.maxRetries fails) (e : ε) (he : p.retryable e) (a : α) :
    Full p (retried fails ++ [.attempt (.error e), .lookup true, .renew (.ok a)])

/-- The last round, in a loop that has come to the phase. -/
inductive Last (p : Policy ε) : Phase ε α → List (Turn ε α) → Prop
  | attempt (n : ℕ) (hn : n ≤ p.maxRetries) (fails : List (ε × ℕ)) (h : Retried p n fails) :
    Last p (.attempt n) (retried fails)
  | sleep (n : ℕ) (hn : n + 1 ≤ p.maxRetries) (fails : List (ε × ℕ)) (h : Retried p n fails) (e : ε)
    (he : p.retryable e) : Last p (.sleep (n + 1)) (retried fails ++ [.attempt (.error e)])
  | lookup (fails : List (ε × ℕ)) (h : Retried p p.maxRetries fails) (e : ε) (he : p.retryable e) :
    Last p (.lookup e) (retried fails ++ [.attempt (.error e)])
  | renew (fails : List (ε × ℕ)) (h : Retried p p.maxRetries fails) (e : ε) (he : p.retryable e) :
    Last p .renew (retried fails ++ [.attempt (.error e), .lookup true])
  /-- An attempt succeeds. -/
  | returned (n : ℕ) (hn : n ≤ p.maxRetries) (fails : List (ε × ℕ)) (h : Retried p n fails) (a : α) :
    Last p (.over (.ok a)) (retried fails ++ [.attempt (.ok a)])
  /-- An attempt fails for good. -/
  | failed (n : ℕ) (hn : n ≤ p.maxRetries) (fails : List (ε × ℕ)) (h : Retried p n fails) (e : ε)
    (he : ¬ p.retryable e) : Last p (.over (.error e)) (retried fails ++ [.attempt (.error e)])
  /-- The lookup fails: the error is that of the last attempt. -/
  | lost (fails : List (ε × ℕ)) (h : Retried p p.maxRetries fails) (e : ε) (he : p.retryable e) :
    Last p (.over (.error e)) (retried fails ++ [.attempt (.error e), .lookup false])
  /-- The renewal fails. -/
  | notRenewed (fails : List (ε × ℕ)) (h : Retried p p.maxRetries fails) (e : ε)
    (he : p.retryable e) (e' : ε) :
    Last p (.over (.error e'))
      (retried fails ++ [.attempt (.error e), .lookup true, .renew (.error e')])

theorem Retried.snoc {p : Policy ε} {n ms : ℕ} {fails : List (ε × ℕ)} (h : Retried p n fails) {e : ε}
    (he : p.retryable e) (hlow : p.low n ≤ ms) (hhigh : ms ≤ p.high n) :
    Retried p (n + 1) (fails ++ [(e, ms)]) where
  length := by simp [h.length]
  each i e' ms' hi := by
    rcases Retry.getElem?_snoc hi with hi | ⟨hlen, hlast⟩
    · exact h.each i e' ms' hi
    · cases hlast
      rw [hlen, h.length]
      exact ⟨he, hlow, hhigh⟩

theorem Last.afterAttempt {p : Policy ε} {n : ℕ} {last : List (Turn ε α)}
    (h : Last p (.attempt n) last) (o : Except ε α) :
    Last p (afterAttempt p n o) (last ++ [.attempt o]) := by
  cases h with
  | attempt _ hn fails hfails =>
    cases o with
    | ok a => exact .returned n hn fails hfails a
    | error e =>
      unfold Rounds.afterAttempt
      dsimp only
      split
      · rename_i he
        split
        · obtain rfl : n = p.maxRetries := by omega
          exact .lookup fails hfails e he
        · exact .sleep n (by omega) fails hfails e he
      · rename_i he
        exact .failed n hn fails hfails e he

theorem Last.step {p : Policy ε} {a b : Phase ε α} {t : Turn ε α} {last : List (Turn ε α)}
    (h : Last p a last) (hstep : step p a t = some b) :
    Last p b (last ++ [t]) ∨ Full p (last ++ [t]) ∧ Last p b [] := by
  unfold Rounds.step at hstep
  split at hstep
  case h_1 n o => cases hstep; exact Or.inl (h.afterAttempt o)
  case h_2 n ms =>
    split at hstep <;> cases hstep
    rename_i hms
    left
    cases h with
    | sleep n hn fails hfails e he =>
      have hnew := hfails.snoc he hms.1 hms.2
      have hlast := Last.attempt (α := α) (n + 1) hn _ hnew
      rw [retried_append] at hlast
      simpa using hlast
  case h_3 e found =>
    cases hstep
    left
    cases h with
    | lookup fails hfails e he =>
      cases found with
      | true => simpa using Last.renew (α := α) fails hfails e he
      | false => simpa using Last.lost (α := α) fails hfails e he
  case h_4 a =>
    cases hstep
    right
    cases h with
    | renew fails hfails e he =>
      refine ⟨by simpa using Full.mk fails hfails e he a, ?_⟩
      exact .attempt 0 (Nat.zero_le _) [] ⟨rfl, by simp⟩
  case h_5 e' =>
    cases hstep
    left
    cases h with
    | renew fails hfails e he => simpa using Last.notRenewed (α := α) fails hfails e he e'
  case h_6 => cases hstep

theorem exec_lost {p : Policy ε} {turns : List (Turn ε α)} {a b : Phase ε α}
    (h : exec (step p) a turns = some b) (hlast : turns.getLast? = some (.lookup false)) :
    ∃ e, b = .over (.error e) := by
  obtain ⟨ts, rfl⟩ := List.getLast?_eq_some_iff.mp hlast
  obtain ⟨c, -, hc⟩ := exec_append.mp h
  obtain ⟨d, hd, hnil⟩ := exec_cons.mp hc
  rw [exec_nil, Option.some.injEq] at hnil
  subst hnil
  cases c with
  | lookup e => exact ⟨e, (Option.some.inj hd).symm⟩
  | _ => cases hd

/-- The trace of a run is made of full rounds and a last one. -/
theorem exec_rounds {p : Policy ε} {turns : List (Turn ε α)} {b : Phase ε α}
    (h : exec (step p) (.attempt 0) turns = some b) : ∃ (rounds : List (List (Turn ε α))) (last : List (Turn ε α)),
      turns = rounds.flatten ++ last ∧ (∀ r ∈ rounds, Full p r) ∧ Last p b last := by
  refine exec_induction (P := fun turns b => ∃ (rounds : List (List (Turn ε α))) (last : List (Turn ε α)),
    turns = rounds.flatten ++ last ∧ (∀ r ∈ rounds, Full p r) ∧ Last p b last) ?_ ?_ h
  · exact ⟨[], [], rfl, by simp, .attempt 0 (Nat.zero_le _) [] ⟨rfl, by simp⟩⟩
  · rintro turns a t b - ⟨rounds, last, rfl, hfull, hlast⟩ hstep
    rcases hlast.step hstep with hnext | ⟨hround, hnext⟩
    · exact ⟨rounds, last ++ [t], by simp, hfull, hnext⟩
    · refine ⟨rounds ++ [last ++ [t]], [], by simp, fun r hr => ?_, hnext⟩
      rcases List.mem_append.mp hr with hr | hr
      · exact hfull r hr
      · exact List.mem_singleton.mp hr ▸ hround

end Async.Rounds
