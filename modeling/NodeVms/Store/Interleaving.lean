/-
# Interleaved requests

Any number of requests are under way at once, and each makes its steps one by
one: a query is answered from the committed state of that moment, and the
transaction at the end is applied to the committed state of its moment (read
committed).  Which request steps next is left open: a schedule is a list of
requests, and the interleavings are the runs of `Config.step` along schedules.

`Serial` is the other side, the requests executed atomically one after the
other.  A configuration is `Serialisable` if some order of the answered requests
explains every answer given so far and the state.
-/

import Mathlib.Data.List.Nodup
import Mathlib.Logic.Function.Basic
import NodeVms.Store.Runs
import NodeVms.Store.Script

namespace Store

variable {ι S ε α : Type}

/-- A request that has not been sent, is at a point of its script, or has been
answered. -/
inductive Thread (S ε α : Type) : Type where
  | idle
  | running (x : Script S ε (Tx S ε α))
  | done (r : Except ε α)

/-- One step of a script in a state. -/
def Script.advance : Script S ε (Tx S ε α) → S → Thread S ε α × S
  | .query next, s => (.running (next s), s)
  | .throw e, s => (.done (.error e), s)
  | .pure t, s =>
    match t.run s with
    | .ok (a, s') => (.done (.ok a), s')
    | .error e => (.done (.error e), s)

/-- The committed state and the requests. -/
structure Config (ι S ε α : Type) where
  state : S
  threads : ι → Thread S ε α

namespace Config

/-- No request has been sent. -/
def init (s : S) : Config ι S ε α := ⟨s, fun _ => .idle⟩

/-- What is left to do of a request that has not been answered. -/
def rest (h : ι → Script S ε (Tx S ε α)) (c : Config ι S ε α) (i : ι) :
    Option (Script S ε (Tx S ε α)) :=
  match c.threads i with
  | .idle => some (h i)
  | .running x => some x
  | .done _ => none

/-- Request `i` moves on, and the store with it. -/
def put [DecidableEq ι] (c : Config ι S ε α) (i : ι) (p : Thread S ε α × S) : Config ι S ε α :=
  ⟨p.2, Function.update c.threads i p.1⟩

/-- The next step of request `i`, if it has one. -/
def step [DecidableEq ι] (h : ι → Script S ε (Tx S ε α)) (i : ι) (c : Config ι S ε α) :
    Config ι S ε α :=
  match c.rest h i with
  | some x => c.put i (x.advance c.state)
  | none => c

/-- Request `i` is about to send its transaction, and the store will accept it. -/
def commits (h : ι → Script S ε (Tx S ε α)) (c : Config ι S ε α) (i : ι) : Bool :=
  match c.rest h i with
  | some (.pure t) => (t.run c.state).isOk
  | _ => false

/-- Request `i` has not been sent. -/
def unsent (c : Config ι S ε α) (i : ι) : Bool :=
  match c.threads i with
  | .idle => true
  | _ => false

/-- Request `i` has been sent and not been answered. -/
def underWay (c : Config ι S ε α) (i : ι) : Bool :=
  match c.threads i with
  | .running _ => true
  | _ => false

/-- Request `i` has been accepted. -/
def accepted (c : Config ι S ε α) (i : ι) : Bool :=
  match c.threads i with
  | .done (.ok _) => true
  | _ => false

/-- A request that has not begun has not been answered. -/
theorem unsent_of_idle {c : Config ι S ε α} {i : ι} (h : c.threads i = .idle) :
    c.unsent i = true := by
  rw [unsent, h]

/-- One that has begun and not ended is under way. -/
theorem underWay_of_running {c : Config ι S ε α} {i : ι} {x : Script S ε (Tx S ε α)}
    (h : c.threads i = .running x) : c.underWay i = true := by
  rw [underWay, h]

/-- An accepted request has its answer. -/
theorem accepted_eq_true {c : Config ι S ε α} {i : ι} :
    c.accepted i = true ↔ ∃ a, c.threads i = .done (.ok a) := by
  unfold accepted
  split
  · rename_i a h
    exact ⟨fun _ => ⟨a, h⟩, fun _ => rfl⟩
  · rename_i h
    exact ⟨nofun, fun ⟨a, ha⟩ => absurd ha (h a)⟩

variable {h : ι → Script S ε (Tx S ε α)} {c : Config ι S ε α} {i : ι}

/-- What is left of a request that has not ended. -/
theorem rest_eq_some {x : Script S ε (Tx S ε α)} :
    c.rest h i = some x ↔ (c.threads i = .idle ∧ h i = x) ∨ c.threads i = .running x := by
  unfold rest
  cases c.threads i <;> simp

/-- Nothing is left of one that has. -/
theorem rest_eq_none : c.rest h i = none ↔ ∃ r, c.threads i = .done r := by
  unfold rest
  cases c.threads i <;> simp

/-- The next step commits if only the transaction is left and goes through. -/
theorem commits_eq_true : c.commits h i = true ↔
    ∃ t a s', c.rest h i = some (.pure t) ∧ t.run c.state = .ok (a, s') := by
  unfold commits
  constructor
  · intro hc
    split at hc
    · rename_i t hrest
      cases ht : t.run c.state with
      | error e => simp [ht, Except.isOk, Except.toBool] at hc
      | ok r => exact ⟨t, r.1, r.2, hrest, ht⟩
    · cases hc
  · rintro ⟨t, a, s', hrest, ht⟩
    simp only [hrest, ht]
    rfl

variable [DecidableEq ι]

/-- The request that moves has moved. -/
@[simp] theorem put_threads_self (p : Thread S ε α × S) : (c.put i p).threads i = p.1 :=
  Function.update_self ..

/-- The others have not. -/
theorem put_threads_of_ne {j : ι} (hj : j ≠ i) (p : Thread S ε α × S) :
    (c.put i p).threads j = c.threads j :=
  Function.update_of_ne hj ..

/-- A request that has been accepted is not affected by the steps of others. -/
theorem accepted_put {x : Script S ε (Tx S ε α)} (hi : c.rest h i = some x)
    (p : Thread S ε α × S) {j : ι} (hj : c.accepted j = true) : (c.put i p).accepted j = true := by
  have hji : j ≠ i := by
    rintro rfl
    obtain ⟨a, ha⟩ := accepted_eq_true.1 hj
    rw [rest_eq_none.2 ⟨_, ha⟩] at hi
    cases hi
  rw [accepted_eq_true] at hj ⊢
  rwa [put_threads_of_ne hji]

/-- What is left of them is the same. -/
theorem rest_put_of_ne {j : ι} (hj : j ≠ i) (p : Thread S ε α × S) :
    (c.put i p).rest h j = c.rest h j := by
  simp only [rest, put_threads_of_ne hj]

/-- The step of a request that commits. -/
theorem step_of_commits {t : Tx S ε α} {a : α} {s' : S} (hi : c.rest h i = some (.pure t))
    (ht : t.run c.state = .ok (a, s')) : c.step h i = c.put i (.done (.ok a), s') := by
  simp only [step, hi, Script.advance, ht]

/-- What a step can do: nothing, since the request has been answered; a query; a
rejection, by the script or by the store; or a transaction. -/
theorem step_cases (h : ι → Script S ε (Tx S ε α)) (i : ι) (c : Config ι S ε α) :
    ((∃ r, c.threads i = .done r) ∧ step h i c = c) ∨
    (∃ next, c.rest h i = some (.query next) ∧
      step h i c = c.put i (.running (next c.state), c.state)) ∨
    (∃ x e, c.rest h i = some x ∧ x.exec c.state = .error e ∧
      step h i c = c.put i (.done (.error e), c.state)) ∨
    (∃ t a s', c.rest h i = some (.pure t) ∧ t.run c.state = .ok (a, s') ∧
      c.commits h i = true ∧ step h i c = c.put i (.done (.ok a), s')) := by
  cases hx : c.rest h i with
  | none => exact .inl ⟨rest_eq_none.1 hx, by simp only [step, hx]⟩
  | some x =>
    refine .inr ?_
    cases x with
    | query next => exact .inl ⟨next, rfl, by simp only [step, hx, Script.advance]⟩
    | throw e => exact .inr (.inl ⟨_, e, rfl, rfl, by simp only [step, hx, Script.advance]⟩)
    | pure t =>
      refine .inr ?_
      cases ht : t.run c.state with
      | error e => exact .inl ⟨_, e, rfl, ht, by simp only [step, hx, Script.advance, ht]⟩
      | ok r =>
        obtain ⟨a, s'⟩ := r
        exact .inr ⟨t, a, s', rfl, ht, commits_eq_true.2 ⟨t, a, s', hx, ht⟩,
          step_of_commits hx ht⟩

end Config

/-! ### Sequential executions -/

/-- The answer to a request executed atomically; `none` is a rejection. -/
def Script.answer (h : Script S ε (Tx S ε α)) (s : S) : Option α :=
  match h.exec s with
  | .ok r => some r.1
  | .error _ => none

/-- A request has an answer if it goes through. -/
theorem Script.answer_eq_some {h : Script S ε (Tx S ε α)} {s : S} {a : α} :
    h.answer s = some a ↔ h.exec s = .ok (a, h.next s) := by
  unfold answer next
  cases he : h.exec s with
  | ok r => simp [Prod.ext_iff]
  | error e => simp

/-- A request has none if its checks or its transaction fail. -/
theorem Script.answer_eq_none {h : Script S ε (Tx S ε α)} {s : S} :
    h.answer s = none ↔ ∀ t, h.eval s = .ok t → ∀ r, t.run s ≠ .ok r := by
  have hexec : h.answer s = none ↔ ∀ r, h.exec s ≠ .ok r := by
    unfold answer
    cases h.exec s <;> simp
  rw [hexec]
  constructor
  · exact fun hno t ht r hr => hno r (exec_eq_ok.2 ⟨t, ht, hr⟩)
  · rintro hno r hr
    obtain ⟨t, ht, hrun⟩ := exec_eq_ok.1 hr
    exact hno t ht r hrun

/-- A rejected request changes nothing. -/
theorem Script.next_of_answer_eq_none {h : Script S ε (Tx S ε α)} {s : S}
    (hn : h.answer s = none) : h.next s = s := by
  unfold answer at hn
  unfold next
  cases he : h.exec s with
  | ok r => simp [he] at hn
  | error e => rfl

/-- The requests of the log, executed one after the other from `s`, are answered
as it says and lead to `s'`. -/
def Serial (h : ι → Script S ε (Tx S ε α)) : S → List (ι × Option α) → S → Prop
  | s, [], s' => s = s'
  | s, (i, o) :: log, s' => (h i).answer s = o ∧ Serial h ((h i).next s) log s'

namespace Serial

variable {h : ι → Script S ε (Tx S ε α)} {s s' : S} {log : List (ι × Option α)}

/-- One request more. -/
theorem append_singleton (hs : Serial h s log s') (i : ι) :
    Serial h s (log ++ [(i, (h i).answer s')]) ((h i).next s') := by
  induction log generalizing s with
  | nil =>
    have hs : s = s' := hs
    rw [hs]
    exact ⟨rfl, rfl⟩
  | cons e log ih => exact ⟨hs.1, ih hs.2⟩

/-- The state is the one the run of the requests leads to. -/
theorem run_eq (hs : Serial h s log s') : run (fun i => (h i).next) (log.map Prod.fst) s = s' := by
  induction log generalizing s with
  | nil => exact hs
  | cons e log ih => exact ih hs.2

/-- Rejected requests can be left out. -/
theorem filter (hs : Serial h s log s') {p : ι × Option α → Bool}
    (hp : ∀ e ∈ log, p e = false → e.2 = none) : Serial h s (log.filter p) s' := by
  induction log generalizing s with
  | nil => exact hs
  | cons e log ih =>
    obtain ⟨ha, hs⟩ := hs
    have ih := ih hs fun e he => hp e (List.mem_cons_of_mem _ he)
    cases hpe : p e with
    | true =>
      rw [List.filter_cons_of_pos hpe]
      exact ⟨ha, ih⟩
    | false =>
      rw [List.filter_cons_of_neg (by simp [hpe])]
      have hnone : (h e.1).answer s = none := ha.trans (hp e List.mem_cons_self hpe)
      rwa [Script.next_of_answer_eq_none hnone] at ih

variable {P : S → Prop}

/-- A property every request keeps. -/
theorem invariant (hs : Serial h s log s') (hP : P s) (hkeep : ∀ i s, P s → P ((h i).next s)) :
    P s' := by
  rw [← hs.run_eq]
  exact run_invariant hkeep _ s hP

/-- Where the requests are steps of a system, the state is one the system reaches. -/
theorem reachable {Req : Type} {step : Req → S → S} {init : S} {req : ι → Req}
    (hs : Serial h s log s') (hreq : ∀ i, (h i).next = step (req i))
    (h₀ : Reachable step init s) : Reachable step init s' := by
  refine hs.invariant h₀ fun i s₁ h₁ => ?_
  rw [hreq]
  exact h₁.next (req i)

/-- A property that an accepted request establishes and every request keeps. -/
theorem of_accepted (hs : Serial h s log s') {i : ι} {a : α} (hi : (i, some a) ∈ log)
    (hest : ∀ s s', (h i).exec s = .ok (a, s') → P s') (hkeep : ∀ i s, P s → P ((h i).next s)) :
    P s' := by
  induction log generalizing s with
  | nil => exact absurd hi List.not_mem_nil
  | cons e log ih =>
    rcases List.mem_cons.1 hi with rfl | hi
    · exact hs.2.invariant (hest s _ (Script.answer_eq_some.1 hs.1)) hkeep
    · exact ih hs.2 hi

/-- Once the door is shut, no request that it stops is accepted. -/
theorem not_accepted (hs : Serial h s log s') (hP : P s) (hkeep : ∀ i s, P s → P ((h i).next s))
    {i : ι} {a : α} (hshut : ∀ s s', (h i).exec s = .ok (a, s') → ¬P s) : (i, some a) ∉ log := by
  induction log generalizing s with
  | nil => exact List.not_mem_nil
  | cons e log ih =>
    intro hi
    rcases List.mem_cons.1 hi with rfl | hi
    · exact hshut s _ (Script.answer_eq_some.1 hs.1) hP
    · exact ih hs.2 (hkeep e.1 s hP) hi

/-- Where an accepted request of a kind shuts the door to its kind, one request
of the kind is accepted at most. -/
theorem eq_of_accepted {A : ι → Prop} (hs : Serial h s log s')
    (hest : ∀ i a s s', A i → (h i).exec s = .ok (a, s') → P s')
    (hkeep : ∀ i s, P s → P ((h i).next s))
    (hshut : ∀ i a s s', A i → (h i).exec s = .ok (a, s') → ¬P s) {i j : ι} (hi : A i) (hj : A j)
    {a b : α} (hia : (i, some a) ∈ log) (hjb : (j, some b) ∈ log) : i = j := by
  induction log generalizing s with
  | nil => exact absurd hia List.not_mem_nil
  | cons e log ih =>
    obtain ⟨ha, hs⟩ := hs
    rcases List.mem_cons.1 hia with rfl | hia'
    · rcases List.mem_cons.1 hjb with hjb' | hjb'
      · exact (congrArg Prod.fst hjb').symm
      · have hP : P ((h i).next s) := hest i a s _ hi (Script.answer_eq_some.1 ha)
        exact absurd hjb' (hs.not_accepted hP hkeep fun s s' => hshut j b s s' hj)
    · rcases List.mem_cons.1 hjb with rfl | hjb'
      · have hP : P ((h j).next s) := hest j b s _ hj (Script.answer_eq_some.1 ha)
        exact absurd hia' (hs.not_accepted hP hkeep fun s s' => hshut i a s s' hi)
      · exact ih hs hia' hjb'

end Serial

/-- Some sequential execution of exactly the answered requests, each of them
once, gives the same answers and leads to the same state. -/
def Config.Serialisable (h : ι → Script S ε (Tx S ε α)) (s₀ : S) (c : Config ι S ε α) : Prop :=
  ∃ log, Serial h s₀ log c.state ∧ (log.map Prod.fst).Nodup ∧
    ∀ i o, (i, o) ∈ log ↔ ∃ r, c.threads i = .done r ∧ r.toOption = o

end Store
