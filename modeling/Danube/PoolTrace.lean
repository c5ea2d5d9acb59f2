import Danube.PoolTasks
import Danube.Asking

/-! # What the tasks of a pool write -/

namespace Danube

open Async

/-- The entries about one endpoint. -/
def entriesOf (ref : Nat) (trace : List Entry) : List Entry := trace.filter fun x => x.ref = ref

@[simp] theorem entriesOf_append (ref : Nat) (t u : List Entry) :
    entriesOf ref (t ++ u) = entriesOf ref t ++ entriesOf ref u := List.filter_append ..

theorem entriesOf_entries_self (actor : Actor) (ref : Nat) (log : List Event) :
    entriesOf ref (log.map fun e => ⟨actor, ref, e⟩) = log.map fun e => ⟨actor, ref, e⟩ := by
  simp [entriesOf, List.filter_eq_self]

theorem entriesOf_entries_ne {actor : Actor} {ref r : Nat} (h : r ≠ ref) (log : List Event) :
    entriesOf r (log.map fun e => ⟨actor, ref, e⟩) = [] := by
  simp [entriesOf, List.filter_eq_nil_iff, Ne.symm h]

theorem logOf_eq_map (ref : Nat) (trace : List Entry) :
    logOf ref trace = (entriesOf ref trace).map Entry.event := rfl

section Entries

variable {V E : Type} {apply : V → E → V}

theorem replay_append_entries (g : Entry → E) (v : V) (r : Nat) (t : List Entry) (actor : Actor)
    (ref : Nat) (log : List Event) :
    replay apply v ((entriesOf r (t ++ log.map fun e => ⟨actor, ref, e⟩)).map g) =
      if r = ref then replay apply (replay apply v ((entriesOf ref t).map g))
        (log.map fun e => g ⟨actor, ref, e⟩)
      else replay apply v ((entriesOf r t).map g) := by
  rw [entriesOf_append, List.map_append, replay_append]
  split
  · rename_i h
    rw [h, entriesOf_entries_self, List.map_map]
    rfl
  · rename_i h
    rw [entriesOf_entries_ne h, List.map_nil, replay_nil]

theorem always_append_entries (P : V → E → Prop) (g : Entry → E) (v : V) (t : List Entry)
    (actor : Actor) (ref : Nat) (log : List Event) :
    (∀ r, Always apply P v ((entriesOf r (t ++ log.map fun e => ⟨actor, ref, e⟩)).map g)) ↔
      (∀ r, Always apply P v ((entriesOf r t).map g)) ∧
        Always apply P (replay apply v ((entriesOf ref t).map g))
          (log.map fun e => g ⟨actor, ref, e⟩) := by
  have hself : (entriesOf ref (log.map fun e => (⟨actor, ref, e⟩ : Entry))).map g =
      log.map fun e => g ⟨actor, ref, e⟩ := by
    rw [entriesOf_entries_self, List.map_map]
    rfl
  constructor
  · intro h
    refine ⟨fun r => ?_, ?_⟩
    · have hr := h r
      rw [entriesOf_append, List.map_append, always_append] at hr
      exact hr.1
    · have href := h ref
      rw [entriesOf_append, List.map_append, always_append, hself] at href
      exact href.2
  · rintro ⟨h, hlog⟩ r
    rw [entriesOf_append, List.map_append, always_append]
    refine ⟨h r, ?_⟩
    -- Only the journal of `ref` has grown.
    by_cases hr : r = ref
    · subst hr
      rw [hself]
      exact hlog
    · rw [entriesOf_entries_ne hr]
      trivial

end Entries

/-- The journal of a piece that leaves its call at `o`. -/
def CallLog {α : Type} (o : Outcome Registering α Error) (log : List Event) : Prop :=
  ∃ inner tail, log = inner ++ tail ∧ (∀ e ∈ inner, e.Inner) ∧ Ends o tail

theorem CallLog.mem {α : Type} {o : Outcome Registering α Error} {log : List Event}
    (h : CallLog o log) {e : Event} (he : e ∈ log) :
    e.Inner ∨ (∃ a id, o = .ret a ∧ e = .created id) ∨ ∃ err, e = .notCreated err := by
  obtain ⟨inner, tail, rfl, hinner, htail⟩ := h
  rcases List.mem_append.mp he with he | he
  · exact Or.inl (hinner e he)
  · cases o with
    | await k => simp [show tail = [] from htail] at he
    | ret a =>
      obtain ⟨id, rfl⟩ := htail
      exact Or.inr (Or.inl ⟨a, id, rfl, List.mem_singleton.mp he⟩)
    | raise err =>
      obtain rfl : tail = [.notCreated err] := htail
      exact Or.inr (Or.inr ⟨err, List.mem_singleton.mp he⟩)

/-- The events of one task. -/
def journalOf (actor : Actor) (trace : List Entry) : List Event :=
  (trace.filter fun x => x.actor = actor).map Entry.event

@[simp] theorem journalOf_append (actor : Actor) (t u : List Entry) :
    journalOf actor (t ++ u) = journalOf actor t ++ journalOf actor u := by
  simp [journalOf]

theorem journalOf_entries_self (actor : Actor) (ref : Nat) (log : List Event) :
    journalOf actor (log.map fun e => ⟨actor, ref, e⟩) = log := by
  induction log with
  | nil => rfl
  | cons e es ih => simpa [journalOf] using ih

theorem journalOf_entries_ne {a actor : Actor} (h : a ≠ actor) (ref : Nat) (log : List Event) :
    journalOf a (log.map fun e => ⟨actor, ref, e⟩) = [] := by
  induction log with
  | nil => rfl
  | cons e es ih => simp [journalOf, Ne.symm h]

theorem journalOf_of_app {log : List Entry} (h : ∀ x ∈ log, x.actor = .app) {a : Actor}
    (ha : a ≠ .app) : journalOf a log = [] := by
  rw [journalOf, List.map_eq_nil_iff, List.filter_eq_nil_iff]
  intro x hx
  simp [h x hx, Ne.symm ha]

namespace Pool

variable {ρ : Type}

/-! ## The coroutines -/

theorem child_returned {role : Role ρ} {p q : Pool ρ} {ref : Nat} {w : Wake} {env : Env}
    (hq : p.child role ref w env = some q) (r id : Nat)
    (hr : p.children[r]? = some (.started (.ret id))) :
    q.children[r]? = some (.started (.ret id)) := by
  obtain ⟨c, s, ran, hc, -, hran, rfl⟩ := child_eq_some.mp hq
  have hne : ref ≠ r := by
    rintro rfl
    rw [hc, Option.some.injEq] at hr
    subst hr
    simp [childPiece] at hran
  simpa only [List.getElem?_set_ne hne] using hr

theorem child_extends {role : Role ρ} {p q : Pool ρ} {ref : Nat} {w : Wake} {env : Env}
    (hq : p.child role ref w env = some q) : p.client.Extends q.client := by
  obtain ⟨c, s, ran, -, hs, hran, rfl⟩ := child_eq_some.mp hq
  exact (scope_eq_some.mp hs).2.1 ▸ (childPiece_journaled hran).client

theorem alloc_returned (p : Pool ρ) (es : List (Endpoint ρ)) (r id : Nat)
    (hr : p.children[r]? = some (.started (.ret id))) :
    (p.alloc es).children[r]? = some (.started (.ret id)) :=
  (alloc_started p es r _).mpr hr

/-! ## Journals -/

theorem child_journalOf {role : Role ρ} {p q : Pool ρ} {ref : Nat} {w : Wake} {env : Env}
    (hq : p.child role ref w env = some q) {a : Actor} (ha : a ≠ .child ref) :
    journalOf a q.trace = journalOf a p.trace := by
  obtain ⟨c, s, ran, -, hs, hran, rfl⟩ := child_eq_some.mp hq
  simp only [commit, journalOf_append]
  rw [journalOf_entries_ne ha, List.append_nil]

theorem health_journalOf {p q : Pool ρ} {task : Nat} {w : Wake} {env : Env}
    (hq : p.health task w env = some q) {a : Actor} (ha : a ≠ .health task) :
    journalOf a q.trace = journalOf a p.trace := by
  obtain ⟨l, e, c, pos, log, stop, -, -, -, -, rfl⟩ := health_eq_some hq
  simp only [checked, journalOf_append]
  rw [journalOf_entries_ne ha, List.append_nil]

theorem stop_journalOf (p : Pool ρ) (ref : Nat) {a : Actor} (ha : a ≠ .app) :
    journalOf a (p.stop ref).trace = journalOf a p.trace := by
  unfold stop
  split
  · rfl
  · simp [journalOf, Ne.symm ha]

theorem foldl_stop_journalOf (refs : List Nat) (p : Pool ρ) {a : Actor} (ha : a ≠ .app) :
    journalOf a (refs.foldl stop p).trace = journalOf a p.trace := by
  induction refs generalizing p with
  | nil => rfl
  | cons r rs ih => rw [List.foldl_cons, ih, stop_journalOf p r ha]


/-- What a piece of a coroutine writes, and where it leaves the coroutines. -/
inductive ChildWrites (p q : Pool ρ) (ref : Nat) : List Event → Prop
  | starts (log : List Event) (o : Outcome Registering Nat Error)
    (hfresh : logOf ref p.trace = []) (hlog : CallLog o log)
    (hasking : Asking (fun k => k) (Asks log) False log o)
    (ho : q.children[ref]? = some (.started o)) : ChildWrites p q ref (.creating :: log)
  | resumes (k : Registering) (log : List Event) (o : Outcome Registering Nat Error)
    (hk : p.children[ref]? = some (.started (.await k))) (hlog : CallLog o log)
    (hasking : Asking (fun k => k) (Asks log) (∃ n addr call, k = .request n addr call) log o)
    (ho : q.children[ref]? = some (.started o)) : ChildWrites p q ref log

theorem child_writes {role : Role ρ} {p q : Pool ρ} (h : p.Sound) {ref : Nat} {w : Wake} {env : Env}
    (hq : p.child role ref w env = some q) :
    (∃ log, ChildWrites p q ref log ∧ q.trace = p.trace ++ log.map fun e => ⟨.child ref, ref, e⟩) ∧
      ∀ r : Nat, r ≠ ref → q.children[r]? = p.children[r]? := by
  obtain ⟨c, s, ran, hc, hs, hran, rfl⟩ := child_eq_some.mp hq
  obtain ⟨hself, -, -, href⟩ := scope_eq_some.mp hs
  have href' : ran.state.ref = ref := (childPiece_journaled hran).ref.trans href
  have ho : (p.children.set ref (.started ran.next))[ref]? = some (.started ran.next) :=
    List.getElem?_set_self (List.getElem?_eq_some_iff.mp hc).1
  refine ⟨⟨ran.log, ?_, by simp [commit, href']⟩, fun r hr => List.getElem?_set_ne (Ne.symm hr)⟩
  rcases childPiece_cases hran with ⟨rfl, -, rfl⟩ | ⟨k, rfl, hresume⟩
  · obtain ⟨r, hr, hshaped⟩ := Endpoint.create_shaped (α := Nat) role env s
    have hnext : (Endpoint.create (α := Nat) role env s).next = r.next := by rw [hr]; rfl
    have hlog : (Endpoint.create (α := Nat) role env s).log = .creating :: r.log := by rw [hr]; rfl
    have hasking := Endpoint.create_asking (α := Nat) role env s
    unfold Piece.Asking at hasking
    rw [hlog, hnext] at hasking
    have hasks : Asks (.creating :: r.log) → Asks r.log := by simp [Event.asks]
    rw [hlog]
    exact .starts r.log r.next (h.scheduled ref hc) hshaped.log
      ⟨Iff.rfl, fun n addr call ho => hasks (hasking.log.mpr (hasking.request n addr call ho)),
        hasking.refused⟩ (hnext ▸ ho)
  · have hasking := Endpoint.resume_asking role env hresume
    refine .resumes _ ran.log ran.next hc ?_ ⟨Iff.rfl, fun n addr call ho =>
      hasking.log.mpr (hasking.request n addr call ho), hasking.refused⟩ ho
    refine (Endpoint.resume_shaped role env (fun hconn => ?_) hresume).log
    exact (h.ready ref _ s.self hc hself).stub _ rfl hconn

theorem stop_writes (p : Pool ρ) (ref : Nat) :
    ∃ log, (p.stop ref).trace = p.trace ++ log ∧ ∀ x ∈ log, x.event = .stopped ∧ x.actor = .app := by
  unfold stop
  split
  · exact ⟨[], by simp, by simp⟩
  · exact ⟨_, rfl, by simp⟩

theorem foldl_stop_writes (refs : List Nat) (p : Pool ρ) :
    ∃ log, (refs.foldl stop p).trace = p.trace ++ log ∧ ∀ x ∈ log, x.event = .stopped ∧ x.actor = .app := by
  induction refs generalizing p with
  | nil => exact ⟨[], by simp, by simp⟩
  | cons r rs ih =>
    obtain ⟨log, hlog, hall⟩ := stop_writes p r
    obtain ⟨log', hlog', hall'⟩ := ih (p.stop r)
    refine ⟨log ++ log', by rw [List.foldl_cons, hlog', hlog, List.append_assoc], ?_⟩
    intro x hx
    exact (List.mem_append.mp hx).elim (hall x) (hall' x)

theorem stop_children (p : Pool ρ) (ref : Nat) : (p.stop ref).children = p.children := by
  unfold stop
  split <;> rfl

theorem stop_client (p : Pool ρ) (ref : Nat) : (p.stop ref).client = p.client := by
  unfold stop
  split <;> rfl

theorem foldl_stop_client (refs : List Nat) (p : Pool ρ) :
    (refs.foldl stop p).client = p.client := by
  induction refs generalizing p with
  | nil => rfl
  | cons r rs ih => rw [List.foldl_cons, ih, stop_client]

theorem foldl_stop_children (refs : List Nat) (p : Pool ρ) :
    (refs.foldl stop p).children = p.children := by
  induction refs generalizing p with
  | nil => rfl
  | cons r rs ih => rw [List.foldl_cons, ih, stop_children]

end Pool

end Danube
