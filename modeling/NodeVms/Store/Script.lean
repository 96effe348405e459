/-
# Check-then-act handlers

A handler of a transactional store first reads, one query at a time, and may
give up after any of them; when all its checks have passed it commits one
transaction.  `Script` is the reading phase, `Tx` the transaction, and a
handler a script that returns a transaction.

The same handler has two meanings.  Executed atomically (`Script.exec`) every
query is answered from one state and the transaction is applied to that state.
Executed step by step (`Store.Interleaving`) every query is answered from the
state the store is in when the query is sent.

The `_eq_ok` lemmas turn "this handler succeeds" into the list of the checks
it passed: `simp` with them computes what a successful request has tested and
what it has written.
-/

import Mathlib.Tactic.Common

namespace Store

variable {S ε α β : Type}

/-- A transaction: a result and the next state, or an error and no effect. -/
def Tx (S ε α : Type) : Type := S → Except ε (α × S)

namespace Tx

/-- Apply a transaction to a state. -/
def run (t : Tx S ε α) (s : S) : Except ε (α × S) := t s

instance : Monad (Tx S ε) where
  pure a := fun s => .ok (a, s)
  bind t f := fun s =>
    match t s with
    | .ok (a, s') => f a s'
    | .error e => .error e

/-- `if (c) { t }`. -/
def when (c : Prop) [Decidable c] (t : Tx S ε Unit) : Tx S ε Unit :=
  if c then t else pure ()

/-- `if (o) { f(o) }`. -/
def whenSome (o : Option α) (f : α → Tx S ε Unit) : Tx S ε Unit :=
  match o with
  | some a => f a
  | none => pure ()

/-- A transaction that does nothing. -/
@[simp] theorem run_pure_eq_ok {a b : α} {s s' : S} :
    (pure a : Tx S ε α).run s = .ok (b, s') ↔ b = a ∧ s' = s := by
  change (Except.ok (a, s) : Except ε (α × S)) = .ok (b, s') ↔ _
  rw [Except.ok.injEq, Prod.mk.injEq, eq_comm, @eq_comm _ s]

/-- One transaction after another, in the state the first has left. -/
theorem run_bind (t : Tx S ε α) (f : α → Tx S ε β) (s : S) :
    (t >>= f).run s =
      match t.run s with
      | .ok (a, s₁) => (f a).run s₁
      | .error e => .error e := rfl

/-- Both go through. -/
@[simp] theorem run_bind_eq_ok {t : Tx S ε α} {f : α → Tx S ε β} {s s' : S} {b : β} :
    (t >>= f).run s = .ok (b, s') ↔
      ∃ a s₁, t.run s = .ok (a, s₁) ∧ (f a).run s₁ = .ok (b, s') := by
  rw [run_bind]
  cases t.run s with
  | error e => simp
  | ok r => obtain ⟨a, s₁⟩ := r; simp [Except.ok.injEq, Prod.mk.injEq]

/-- It goes through and the condition holds, or nothing is done. -/
@[simp] theorem run_when_eq_ok {c : Prop} [Decidable c] {t : Tx S ε Unit} {s s' : S} {u : Unit} :
    (when c t).run s = .ok (u, s') ↔ (c ∧ t.run s = .ok (u, s')) ∨ (¬c ∧ s' = s) := by
  by_cases h : c <;> simp [when, h]

/-- Likewise for a value that may be missing. -/
@[simp] theorem run_whenSome_eq_ok {o : Option α} {f : α → Tx S ε Unit} {s s' : S} {u : Unit} :
    (whenSome o f).run s = .ok (u, s') ↔
      (∃ a, o = some a ∧ (f a).run s = .ok (u, s')) ∨ (o = none ∧ s' = s) := by
  cases o <;> simp [whenSome]

/-- A transaction fails in its first part, or in the rest. -/
theorem run_bind_eq_error {t : Tx S ε α} {f : α → Tx S ε β} {s : S} {e : ε} :
    (t >>= f).run s = .error e ↔
      t.run s = .error e ∨ ∃ a s₁, t.run s = .ok (a, s₁) ∧ (f a).run s₁ = .error e := by
  rw [run_bind]
  cases t.run s with
  | error e => simp
  | ok r => obtain ⟨a, s₁⟩ := r; simp [Except.ok.injEq, Prod.mk.injEq]

/-- Only what is done can fail. -/
theorem run_when_eq_error {c : Prop} [Decidable c] {t : Tx S ε Unit} {s : S} {e : ε} :
    (when c t).run s = .error e ↔ c ∧ t.run s = .error e := by
  by_cases h : c
  · rw [when, if_pos h, and_iff_right h]
  · rw [when, if_neg h]
    exact ⟨nofun, fun hc => absurd hc.1 h⟩

/-- Likewise for a value that may be missing. -/
theorem run_whenSome_eq_error {o : Option α} {f : α → Tx S ε Unit} {s : S} {e : ε} :
    (whenSome o f).run s = .error e ↔ ∃ a, o = some a ∧ (f a).run s = .error e := by
  cases o with
  | none => exact ⟨nofun, nofun⟩
  | some a => simp [whenSome]

/-- Doing nothing never fails. -/
@[simp] theorem run_pure_ne_error {a : α} {s : S} {e : ε} :
    (pure a : Tx S ε α).run s ≠ .error e := nofun

end Tx

/-- The reading phase of a handler: it returns, gives up, or sends one query
and goes on with the answer. -/
inductive Script (S ε α : Type) : Type where
  | protected pure (a : α)
  | protected throw (e : ε)
  | protected query (next : S → Script S ε α)

namespace Script

/-- Sequencing: the second script starts where the first one returns. -/
protected def bind : Script S ε α → (α → Script S ε β) → Script S ε β
  | .pure a, f => f a
  | .throw e, _ => .throw e
  | .query next, f => .query fun s => (next s).bind f

instance : Monad (Script S ε) where
  pure := .pure
  bind := Script.bind

/-- Every query answered from the one state `s`. -/
def eval : Script S ε α → S → Except ε α
  | .pure a, _ => .ok a
  | .throw e, _ => .error e
  | .query next, s => (next s).eval s

/-- One query: a function of the committed state. -/
def read (f : S → α) : Script S ε α := .query fun s => .pure (f s)

/-- `if (c) throw e`. -/
def throwIf (c : Prop) [Decidable c] (e : ε) : Script S ε Unit :=
  if c then .throw e else .pure ()

/-- `if (!o) throw e`, and the value of `o` otherwise. -/
def orThrow (o : Option α) (e : ε) : Script S ε α :=
  match o with
  | some a => .pure a
  | none => .throw e

/-- `if (o) throw e`. -/
def throwIfSome (o : Option α) (e : ε) : Script S ε Unit :=
  match o with
  | some _ => .throw e
  | none => .pure ()

/-- `if (c) { x }`. -/
def when (c : Prop) [Decidable c] (x : Script S ε Unit) : Script S ε Unit :=
  if c then x else .pure ()

/-- `if (o) { f(o) }`. -/
def whenSome (o : Option α) (f : α → Script S ε Unit) : Script S ε Unit :=
  match o with
  | some a => f a
  | none => .pure ()

/-- Where the brackets are does not matter. -/
theorem bind_assoc {γ : Type} (x : Script S ε α) (f : α → Script S ε β) (g : β → Script S ε γ) :
    x >>= f >>= g = x >>= fun a => f a >>= g := by
  change (x.bind f).bind g = x.bind fun a => (f a).bind g
  induction x with
  | pure a => rfl
  | throw e => rfl
  | query next ih => exact congrArg Script.query (funext ih)

/-- A value that is there is passed on. -/
theorem orThrow_some_bind (a : α) (e : ε) (f : α → Script S ε β) : orThrow (some a) e >>= f = f a :=
  rfl

/-- Only whether the condition holds matters. -/
theorem when_congr {c c' : Prop} [Decidable c] [Decidable c'] (hc : c ↔ c')
    (x : Script S ε Unit) : when c x = when c' x := by
  by_cases h : c
  · rw [when, when, if_pos h, if_pos (hc.1 h)]
  · rw [when, when, if_neg h, if_neg (mt hc.2 h)]

/-- Only what is done with the value that is there matters. -/
theorem whenSome_congr {o : Option α} {f g : α → Script S ε Unit}
    (hfg : ∀ a, o = some a → f a = g a) : whenSome o f = whenSome o g := by
  cases o with
  | none => rfl
  | some a => exact hfg a rfl

variable {s : S}

/-- What a script returns without a query. -/
@[simp] theorem eval_pure (a : α) : (Pure.pure a : Script S ε α).eval s = .ok a := rfl

/-- What a script ends with that refuses. -/
@[simp] theorem eval_throw (e : ε) : (.throw e : Script S ε α).eval s = .error e := rfl

/-- The answer of a query. -/
@[simp] theorem eval_read (f : S → α) : (read f : Script S ε α).eval s = .ok (f s) := rfl

/-- The queries of one part after those of the other, in one state. -/
theorem eval_bind (x : Script S ε α) (f : α → Script S ε β) :
    (x >>= f).eval s = (x.eval s).bind fun a => (f a).eval s := by
  change (x.bind f).eval s = _
  induction x with
  | pure a => rfl
  | throw e => rfl
  | query next ih => exact ih s

/-- Both parts go through. -/
@[simp] theorem eval_bind_eq_ok {x : Script S ε α} {f : α → Script S ε β} {b : β} :
    (x >>= f).eval s = .ok b ↔ ∃ a, x.eval s = .ok a ∧ (f a).eval s = .ok b := by
  rw [eval_bind]
  cases x.eval s <;> simp [Except.bind]

/-- The part that is taken goes through. -/
@[simp] theorem eval_ite_eq_ok {c : Prop} [Decidable c] {x y : Script S ε α} {a : α} :
    (if c then x else y).eval s = .ok a ↔ (c ∧ x.eval s = .ok a) ∨ (¬c ∧ y.eval s = .ok a) := by
  by_cases h : c <;> simp [h]

/-- A check goes through if its condition fails. -/
@[simp] theorem eval_throwIf_eq_ok {c : Prop} [Decidable c] {e : ε} {u : Unit} :
    (throwIf c e : Script S ε Unit).eval s = .ok u ↔ ¬c := by
  unfold throwIf
  split <;> simp_all [eval]

/-- A value that must be there is there. -/
@[simp] theorem eval_orThrow_eq_ok {o : Option α} {e : ε} {a : α} :
    (orThrow o e : Script S ε α).eval s = .ok a ↔ o = some a := by
  cases o <;> simp [orThrow, eval]

/-- A value that must not be there is not. -/
@[simp] theorem eval_throwIfSome_eq_ok {o : Option α} {e : ε} {u : Unit} :
    (throwIfSome o e : Script S ε Unit).eval s = .ok u ↔ o = none := by
  cases o <;> simp [throwIfSome, eval]

/-- A conditional check goes through or is left out. -/
@[simp] theorem eval_when_eq_ok {c : Prop} [Decidable c] {x : Script S ε Unit} {u : Unit} :
    (when c x).eval s = .ok u ↔ (c → x.eval s = .ok u) := by
  unfold when
  split <;> simp_all [eval]

/-- So does the check of a value that may be missing. -/
@[simp] theorem eval_whenSome_eq_ok {o : Option α} {f : α → Script S ε Unit} {u : Unit} :
    (whenSome o f).eval s = .ok u ↔ ∀ a, o = some a → (f a).eval s = .ok u := by
  cases o <;> simp [whenSome, eval]

/-! ### Execution -/

/-- The end of a handler: all checks have passed. -/
def commit (t : Tx S ε α) : Script S ε (Tx S ε α) := .pure t

/-- Atomic execution: the checks and the transaction see one state. -/
def exec (h : Script S ε (Tx S ε α)) (s : S) : Except ε (α × S) :=
  match h.eval s with
  | .ok t => t.run s
  | .error e => .error e

/-- The queries go through, and then the transaction. -/
theorem exec_eq_ok {h : Script S ε (Tx S ε α)} {r : α × S} :
    h.exec s = .ok r ↔ ∃ t, h.eval s = .ok t ∧ t.run s = .ok r := by
  unfold exec
  cases h.eval s <;> simp

/-- A handler that only commits is its transaction. -/
@[simp] theorem exec_commit (t : Tx S ε α) : (commit t).exec s = t.run s := rfl

/-- The first part has only queries. -/
@[simp] theorem exec_bind_eq_ok {x : Script S ε β} {f : β → Script S ε (Tx S ε α)} {r : α × S} :
    (x >>= f).exec s = .ok r ↔ ∃ b, x.eval s = .ok b ∧ (f b).exec s = .ok r := by
  simp only [exec, eval_bind]
  cases x.eval s <;> simp [Except.bind]

/-- The branch that is taken goes through. -/
@[simp] theorem exec_ite_eq_ok {c : Prop} [Decidable c] {x y : Script S ε (Tx S ε α)}
    {r : α × S} :
    (if c then x else y).exec s = .ok r ↔
      (c ∧ x.exec s = .ok r) ∨ (¬c ∧ y.exec s = .ok r) := by
  by_cases h : c <;> simp [h]

/-- The transaction a handler ends with. -/
@[simp] theorem eval_commit_eq_ok {t t' : Tx S ε α} :
    (commit t : Script S ε (Tx S ε α)).eval s = .ok t' ↔ t = t' := by
  change (Except.ok t : Except ε (Tx S ε α)) = .ok t' ↔ _
  rw [Except.ok.injEq]

/-- When the checks have passed, the outcome is that of the transaction. -/
theorem exec_of_eval {h : Script S ε (Tx S ε α)} {t : Tx S ε α} (ht : h.eval s = .ok t) :
    h.exec s = t.run s := by
  rw [exec, ht]

/-- All checks pass. -/
def Passes (h : Script S ε (Tx S ε α)) (s : S) : Prop := ∃ t, h.eval s = .ok t

instance (h : Script S ε (Tx S ε α)) (s : S) : Decidable (h.Passes s) :=
  decidable_of_iff ((h.eval s).isOk = true) (by
    unfold Passes
    cases h.eval s <;> simp [Except.isOk, Except.toBool])

/-- The state after a request: a rejected request leaves it unchanged. -/
def next (h : Script S ε (Tx S ε α)) (s : S) : S :=
  match h.exec s with
  | .ok r => r.2
  | .error _ => s

/-- The request goes through. -/
def Accepted (h : Script S ε (Tx S ε α)) (s : S) : Prop := (h.exec s).isOk = true

instance (h : Script S ε (Tx S ε α)) (s : S) : Decidable (h.Accepted s) := by
  unfold Accepted; infer_instance

/-- A request that goes through has an answer. -/
theorem accepted_iff {h : Script S ε (Tx S ε α)} :
    h.Accepted s ↔ ∃ a, h.exec s = .ok (a, h.next s) := by
  unfold Accepted next
  cases he : h.exec s with
  | error e => simp [Except.isOk, Except.toBool]
  | ok r => exact ⟨fun _ => ⟨r.1, rfl⟩, fun _ => rfl⟩

/-- An accepted request leaves the state of its transaction. -/
theorem next_of_ok {h : Script S ε (Tx S ε α)} {s' : S} {a : α}
    (hs : h.exec s = .ok (a, s')) : h.next s = s' := by
  simp [next, hs]

/-- A refused request leaves the state as it was. -/
theorem next_of_error {h : Script S ε (Tx S ε α)} {e : ε} (hs : h.exec s = .error e) :
    h.next s = s := by
  simp [next, hs]

/-- A request is rejected or goes through. -/
theorem next_cases (h : Script S ε (Tx S ε α)) (s : S) :
    h.next s = s ∨ ∃ a, h.exec s = .ok (a, h.next s) := by
  cases he : h.exec s with
  | error e => exact .inl (by rw [next, he])
  | ok r => exact .inr ⟨r.1, by rw [next, he]⟩

/-- A request that is not accepted leaves the state as it was. -/
theorem next_of_not_accepted {h : Script S ε (Tx S ε α)} (hs : ¬h.Accepted s) : h.next s = s :=
  (h.next_cases s).resolve_right fun hok => hs (accepted_iff.2 hok)

/-- What a request leaves behind holds if it held before and every successful
execution keeps it. -/
theorem next_induct {P : S → Prop} {h : Script S ε (Tx S ε α)} (hs : P s)
    (hok : ∀ a s', h.exec s = .ok (a, s') → P s') : P (h.next s) := by
  unfold next
  cases he : h.exec s with
  | ok r => exact hok r.1 r.2 he
  | error e => exact hs

/-- Why a request is rejected, if it is. -/
def failure (h : Script S ε (Tx S ε α)) (s : S) : Option ε :=
  match h.exec s with
  | .ok _ => none
  | .error e => some e

/-- So does one with a failure. -/
theorem next_of_failure {h : Script S ε (Tx S ε α)} {e : ε} (he : h.failure s = some e) :
    h.next s = s := by
  unfold failure at he
  unfold next
  cases hs : h.exec s with
  | ok r => simp [hs] at he
  | error e' => rfl

/-- One without a failure has an answer. -/
theorem exec_of_failure {h : Script S ε (Tx S ε α)} (hs : h.failure s = none) :
    ∃ a, h.exec s = .ok (a, h.next s) := by
  unfold failure at hs
  unfold next
  cases he : h.exec s with
  | ok r => exact ⟨r.1, rfl⟩
  | error e => simp [he] at hs

/-- A handler among others of different results: `tag` says which one answers. -/
def tagged (tag : α → β) (h : Script S ε (Tx S ε α)) : Script S ε (Tx S ε β) :=
  h >>= fun t => commit (t >>= fun a => pure (tag a))

/-- Only the answer is changed. -/
theorem exec_tagged (tag : α → β) (h : Script S ε (Tx S ε α)) (s : S) :
    (h.tagged tag).exec s = (h.exec s).map fun r => (tag r.1, r.2) := by
  unfold tagged exec
  rw [eval_bind]
  cases h.eval s with
  | error e => rfl
  | ok t =>
    change (t >>= fun a => pure (tag a)).run s = (t.run s).map _
    rw [Tx.run_bind]
    cases t.run s with
    | error e => rfl
    | ok r => rfl

/-- It fails for the same reasons. -/
theorem failure_tagged {tag : α → β} {h : Script S ε (Tx S ε α)} :
    (h.tagged tag).failure s = h.failure s := by
  unfold failure
  rw [exec_tagged]
  cases h.exec s <;> rfl

/-- It leaves the same state. -/
theorem next_tagged {tag : α → β} {h : Script S ε (Tx S ε α)} :
    (h.tagged tag).next = h.next := by
  funext s
  unfold next
  rw [exec_tagged]
  cases h.exec s with
  | error e => rfl
  | ok r => rfl

end Script

end Store
