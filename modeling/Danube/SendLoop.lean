import Danube.ProducerTasks
import Danube.RetryTrace
import Danube.Async.Rounds

/-!
# The loop of a send, with notes

`send` and `send_with_key` note what each `SendMessage`, sleep, lookup and `create()` made.
-/

namespace Danube

open Async

/-- A turn of the loop of a send. -/
abbrev SendTurn := Rounds.Turn Error Nat

abbrev SendNoting := Noting SendTurn ProducerFields Sending

namespace SendCall

variable (env : Env)

def noteRecreate (s : Scope ProducerFields) : SendNoting :=
  ((TopicProducer.create env s).mapLog .inl).andThen .create (fun _ (a : Empty) => a.elim)
    fun s e => ⟨s, [.inr (.renew (.error e))], .raise e⟩

def noteLookupAndRecreate (originalError : Error) (s : Scope ProducerFields) : SendNoting :=
  match s.client.lookupTopic env.lookup s.self.connectUrl s.self.topic with
  | (c, .ok call) => ⟨{ s with client := c }, [.inl (.rpc call)], .await (.lookup originalError call)⟩
  | (c, .error _) => ⟨{ s with client := c }, [.inr (.lookup false)], .raise originalError⟩

def noteCaught (call : SendCall) (attempts : Nat) (err : Error) (s : Scope ProducerFields) :
    SendNoting :=
  Ran.after [.inr (.attempt (.error err))] <|
    match err with
    | .unrecoverable _ => noteRecreate env s
    | _ =>
      if RetryManager.isRetryable err then
        if attempts + 1 > call.retryManager.maxRetries then noteLookupAndRecreate env err s
        else
          let ms := call.retryManager.calculateBackoff attempts env.draw
          ⟨s, [.inl (.backoff ms), .inr (.sleep ms)], .await (.backoff (attempts + 1))⟩
      else ⟨s, [], .raise err⟩

def noteAttempt (call : SendCall) (attempts : Nat) (s : Scope ProducerFields) : SendNoting :=
  match TopicProducer.send env call.data call.attributes call.routingKey s with
  | (s, .ok rpc) => ⟨s, [.inl (.rpc rpc)], .await (.message attempts rpc)⟩
  | (s, .error e) => noteCaught env call attempts e s

def noteRecreated (call : SendCall) (r : Piece ProducerFields TopicProducer.Creating Nat) :
    SendNoting :=
  (r.mapLog .inl).andThen .create
    (fun s id => (noteAttempt env call 0 s).after [.inr (.renew (.ok id))])
    fun s e => ⟨s, [.inr (.renew (.error e))], .raise e⟩

def noteResume (call : SendCall) (s : Scope ProducerFields) : Sending → Wake → Option SendNoting
  | .message _ _, .reply (.ok (.message requestId)) =>
    some ⟨s, [.inr (.attempt (.ok requestId))], .ret requestId⟩
  | .message n _, .reply (.error err) => some (noteCaught env call n (.rpc err) s)
  | .backoff n, .timer => some (noteAttempt env call n s)
  | .lookup originalError _, .reply (.ok (.topicLookup response)) =>
    match Client.handleLookup response with
    | .ok addr =>
      some ((noteRecreate env { s with self := s.self.moveTo addr }).after
        [.inl (.moved addr), .inr (.lookup true)])
    | .error _ => some ⟨s, [.inr (.lookup false)], .raise originalError⟩
  | .lookup originalError _, .reply (.error _) =>
    some ⟨s, [.inr (.lookup false)], .raise originalError⟩
  | .create k, w => (TopicProducer.createResume env s k w).map (noteRecreated env call)
  | _, _ => none

/-! ## Without its notes it is the send -/

section Erase

variable (call : SendCall)

theorem noteRecreate_erase (s : Scope ProducerFields) :
    (noteRecreate env s).erase = recreateProducer env s :=
  Ran.erase_andThen (fun _ a => a.elim) fun _ _ => rfl

theorem noteLookupAndRecreate_erase (err : Error) (s : Scope ProducerFields) :
    (noteLookupAndRecreate env err s).erase = lookupAndRecreate env err s := by
  unfold noteLookupAndRecreate lookupAndRecreate
  rcases s.client.lookupTopic env.lookup s.self.connectUrl s.self.topic with ⟨c, _ | rpc⟩ <;> rfl

theorem noteCaught_erase (n : Nat) (err : Error) (s : Scope ProducerFields) :
    (noteCaught env call n err s).erase = caught env call n err s := by
  have hnote : ∀ r : SendNoting, Ran.erase (r.after [.inr (.attempt (.error err))]) = r.erase :=
    fun r => Ran.erase_after _ r
  unfold noteCaught caught
  rw [hnote]
  cases err with
  | unrecoverable text => exact noteRecreate_erase env s
  | rpc e =>
    dsimp only
    split
    · split
      · exact noteLookupAndRecreate_erase env _ s
      · rfl
    · rfl
  | _ => rfl

theorem noteAttempt_erase (n : Nat) (s : Scope ProducerFields) :
    (noteAttempt env call n s).erase = attempt env call n s := by
  unfold noteAttempt attempt
  rcases TopicProducer.send env call.data call.attributes call.routingKey s with ⟨s', e | rpc⟩
  · exact noteCaught_erase env call n e s'
  · rfl

theorem noteRecreated_erase (r : Piece ProducerFields TopicProducer.Creating Nat) :
    (noteRecreated env call r).erase = recreated env call r :=
  Ran.erase_andThen (fun _ _ => (Ran.erase_after _ _).trans (noteAttempt_erase env call 0 _))
    fun _ _ => rfl

theorem noteResume_erase (s : Scope ProducerFields) (k : Sending) (w : Wake) :
    (noteResume env call s k w).map Ran.erase = call.resume env s k w := by
  unfold noteResume
  split
  · rfl
  · exact congrArg some (noteCaught_erase env call _ _ s)
  · exact congrArg some (noteAttempt_erase env call _ s)
  · rename_i err rpc response
    simp only [resume]
    cases Client.handleLookup response with
    | ok addr =>
      simp only [Option.map_some, Ran.erase_after, noteRecreate_erase]
      rfl
    | error _ => rfl
  · rfl
  · simp only [resume, Option.map_map, Function.comp_def, noteRecreated_erase]
  · rename_i hcreate hdone herror hbackoff hfound hlost
    cases k <;> rcases w with _ | _ | (err | response) | _ <;> try cases response
    all_goals first
      | rfl
      | exact (hcreate _ rfl).elim
      | exact (hdone _ _ _ rfl rfl).elim
      | exact (herror _ _ _ rfl rfl).elim
      | exact (hbackoff _ rfl rfl).elim
      | exact (hfound _ _ _ rfl rfl).elim
      | exact (hlost _ _ _ rfl rfl).elim

end Erase

end SendCall

end Danube
