/-
# When interleaved requests are serialisable

A request that checks first and writes later is as good as an atomic one if its
checks would still pass when it writes.  `Script.Checks R K` says what this asks
of a handler: `R` is what may happen to the store while the request is under
way, `K` a condition on the state its transaction finds.  A query asked again
after a change in `R` may change the course of the handler only by a refusal,
and under `K` not even so.

Then the requests can be put in the order of their transactions, a rejected one
where its fate is sealed: `serialisable_of_along` is the rule that reduces an
interleaving to its transactions.
-/

import NodeVms.Store.Interleaving

namespace Store

variable {ι S ε α β : Type}

namespace Script

/-! ### What a script can return -/

/-- Whatever the answers to its queries, the script returns a value in `Q` or
gives up. -/
def Ends (Q : α → Prop) : Script S ε α → Prop
  | .pure a => Q a
  | .throw _ => True
  | .query next => ∀ s, (next s).Ends Q

/-- The script can only give up. -/
def Refused (x : Script S ε α) : Prop := x.Ends fun _ => False

/-- What the second part returns, from what the first does. -/
theorem Ends.bind {Q : α → Prop} {Q' : β → Prop} {x : Script S ε α} {f : α → Script S ε β}
    (hx : x.Ends Q) (hf : ∀ a, Q a → (f a).Ends Q') : (x >>= f).Ends Q' := by
  change (x.bind f).Ends Q'
  induction x with
  | pure a => exact hf a hx
  | throw e => trivial
  | query next ih => exact fun s => ih s (hx s)

/-- What is returned has every weaker property. -/
theorem Ends.mono {Q Q' : α → Prop} {x : Script S ε α} (hx : x.Ends Q) (hQ : ∀ a, Q a → Q' a) :
    x.Ends Q' := by
  induction x with
  | pure a => exact hQ a hx
  | throw e => trivial
  | query next ih => exact fun s => ih s (hx s)

/-- Where a script returns anything it has the property. -/
theorem Ends.of_eval {Q : α → Prop} {x : Script S ε α} (hx : x.Ends Q) {s : S} {a : α}
    (h : x.eval s = .ok a) : Q a := by
  induction x with
  | pure b =>
    have hba : b = a := Except.ok.inj h
    exact hba ▸ hx
  | throw e => cases h
  | query next ih => exact ih s (hx s) h

/-- A script that throws at once is refused. -/
theorem refused_throw (e : ε) : (.throw e : Script S ε α).Refused := trivial

/-- What the transactions do, they do with their results tagged. -/
theorem Ends.tagged {P : S → S → Prop} {tag : α → β} {x : Script S ε (Tx S ε α)}
    (hx : x.Ends fun t => ∀ s a s', t.run s = .ok (a, s') → P s s') :
    (x.tagged tag).Ends fun t => ∀ s b s', t.run s = .ok (b, s') → P s s' := by
  refine Ends.bind hx fun t ht s b s' h => ?_
  obtain ⟨a, s₁, hrun, hpure⟩ := Tx.run_bind_eq_ok.1 h
  obtain ⟨-, rfl⟩ := Tx.run_pure_eq_ok.1 hpure
  exact ht s a s' hrun

/-- What a script returns however its first part ends. -/
theorem ends_bind {Q : β → Prop} {x : Script S ε α} {f : α → Script S ε β}
    (hf : ∀ a, (f a).Ends Q) : (x >>= f).Ends Q := by
  change (x.bind f).Ends Q
  induction x with
  | pure a => exact hf a
  | throw e => trivial
  | query next ih => exact ih

/-- Nothing that follows changes that. -/
theorem Refused.bind {x : Script S ε α} (hx : x.Refused) (f : α → Script S ε β) :
    (x >>= f).Refused :=
  Ends.bind hx fun _ h => h.elim

/-- A check whose condition holds refuses. -/
theorem refused_throwIf {c : Prop} [Decidable c] (hc : c) (e : ε) :
    (throwIf c e : Script S ε Unit).Refused := by
  rw [throwIf, if_pos hc]
  exact refused_throw e

/-- Whatever comes after it. -/
theorem refused_throwIf_bind {c : Prop} [Decidable c] (hc : c) (e : ε) (f : Unit → Script S ε α) :
    (throwIf c e >>= f).Refused :=
  (refused_throwIf hc e).bind f

/-- A check that does not hold is passed. -/
theorem throwIf_bind_of_not {c : Prop} [Decidable c] (hc : ¬c) (e : ε)
    (f : Unit → Script S ε α) : throwIf c e >>= f = f () := by
  rw [throwIf, if_neg hc]
  rfl

/-- A refused script returns nothing. -/
theorem Refused.eval_ne {x : Script S ε α} (hx : x.Refused) {s : S} {a : α} :
    x.eval s ≠ .ok a :=
  hx.of_eval

/-! ### Checks that bear repetition -/

/-- In states where `I` holds, a query asked again after a change in `R` sends
the script the same way, unless the first answer refused it or the second does;
the second does not under `K`.  What follows the query may rely on the state
having moved in `R` since. -/
def Checks (R : S → S → Prop) (K : S → Prop) : Script S ε α → (S → Prop) → Prop
  | .pure _, _ => True
  | .throw _, _ => True
  | .query next, I => ∀ s, I s → (next s).Checks R K (fun s' => I s' ∧ R s s') ∧
      ∀ s', R s s' → (next s).Refused ∨ next s' = next s ∨ ((next s').Refused ∧ ¬K s')

section Checks

variable {R : S → S → Prop} {K I I' : S → Prop}

/-- The state in between may be known better. -/
theorem Checks.mono {x : Script S ε α} (hx : x.Checks R K I) (hI : ∀ s, I' s → I s) :
    x.Checks R K I' := by
  induction x generalizing I I' with
  | pure a => trivial
  | throw e => trivial
  | query next ih =>
    intro s hs
    obtain ⟨hnext, hagain⟩ := hx s (hI s hs)
    exact ⟨ih s hnext fun s' hs' => ⟨hI s' hs'.1, hs'.2⟩, hagain⟩

/-- A handler checks if its parts do, one after the other. -/
theorem Checks.bind {x : Script S ε α} {f : α → Script S ε β} (hx : x.Checks R K I)
    (hf : ∀ a, (f a).Checks R K I) : (x >>= f).Checks R K I := by
  change (x.bind f).Checks R K I
  induction x generalizing I with
  | pure a => exact hf a
  | throw e => trivial
  | query next ih =>
    intro s hs
    obtain ⟨hnext, hagain⟩ := hx s hs
    refine ⟨ih s hnext fun a => (hf a).mono fun s' hs' => hs'.1, fun s' hR => ?_⟩
    rcases hagain s' hR with hs | hs | ⟨hs, hK⟩
    · exact .inl (hs.bind f)
    · exact .inr (.inl (congrArg (Script.bind · f) hs))
    · exact .inr (.inr ⟨hs.bind f, hK⟩)

/-- A check of what has been read already. -/
theorem checks_throwIf (c : Prop) [Decidable c] (e : ε) :
    (throwIf c e : Script S ε Unit).Checks R K I := by
  unfold throwIf
  split <;> trivial

/-- Likewise for a value that must be there. -/
theorem checks_orThrow (o : Option α) (e : ε) : (orThrow o e : Script S ε α).Checks R K I := by
  cases o <;> trivial

/-- A conditional check, under its condition. -/
theorem checks_when {c : Prop} [Decidable c] {x : Script S ε Unit}
    (hx : c → x.Checks R K I) : (when c x).Checks R K I := by
  unfold when
  split
  · rename_i hc
    exact hx hc
  · trivial

/-- A check of a value that may be missing. -/
theorem checks_whenSome {o : Option α} {f : α → Script S ε Unit}
    (hf : ∀ a, o = some a → (f a).Checks R K I) : (whenSome o f).Checks R K I := by
  cases o with
  | none => trivial
  | some a => exact hf a rfl

/-- What can only give up makes no difference. -/
theorem Refused.checks {x : Script S ε α} (hx : x.Refused) : x.Checks R K I := by
  induction x generalizing I with
  | pure a => trivial
  | throw e => trivial
  | query next ih => exact fun s _ => ⟨ih s (hx s), fun _ _ => .inl (hx s)⟩

/-- A query and what follows it. -/
theorem checks_query_bind {x : Script S ε β} {f : S → β} {k : β → Script S ε α} (hx : x = read f)
    (hk : ∀ s b, I s → x.eval s = .ok b → (k b).Checks R K fun s' => I s' ∧ R s s')
    (hagain : ∀ s s', I s → R s s' → ∀ b b', x.eval s = .ok b → x.eval s' = .ok b' →
      (k b).Refused ∨ k b' = k b ∨ ((k b').Refused ∧ ¬K s')) : (x >>= k).Checks R K I := by
  subst hx
  exact fun s hs => ⟨hk s (f s) hs rfl, fun s' hR => hagain s s' hs hR _ _ rfl rfl⟩

/-- A query that must find nothing, and under `K` does not find anything later
either. -/
theorem checks_absent_bind {x : Script S ε (Option β)} {f : S → Option β}
    {k : Option β → Script S ε α} (hx : x = read f) (hk : (k none).Checks R K I)
    (hrefused : ∀ b, (k (some b)).Refused)
    (hK : ∀ s s' b, I s → R s s' → x.eval s' = .ok (some b) → ¬K s') :
    (x >>= k).Checks R K I := by
  refine checks_query_bind hx (fun s o _ _ => ?_) fun s s' hI hR o o' _ ho' => ?_
  · cases o with
    | none => exact hk.mono fun _ hs' => hs'.1
    | some b => exact (hrefused b).checks
  · cases o with
    | some b => exact .inl (hrefused b)
    | none =>
      cases o' with
      | none => exact .inr (.inl rfl)
      | some b => exact .inr (.inr ⟨hrefused b, hK s s' b hI hR ho'⟩)

/-- A query that must find something, and goes on finding the same. -/
theorem checks_found_bind {x : Script S ε (Option β)} {f : S → Option β}
    {k : Option β → Script S ε α} (hx : x = read f) (hk : ∀ b, (k (some b)).Checks R K I)
    (hrefused : (k none).Refused)
    (hstays : ∀ s s' b, R s s' → f s = some b → f s' = some b) : (x >>= k).Checks R K I := by
  refine checks_query_bind hx (fun s o _ _ => ?_) fun s s' _ hR o o' ho ho' => ?_
  · cases o with
    | none => exact hrefused.checks
    | some b => exact (hk b).mono fun _ hs' => hs'.1
  · subst hx
    cases o with
    | none => exact .inl hrefused
    | some b =>
      have hb : f s' = some b := hstays s s' b hR (Except.ok.inj ho)
      have hsame : o' = some b := (Except.ok.inj ho').symm.trans hb
      exact .inr (.inl (congrArg k hsame))

/-- A query of something that does not change. -/
theorem checks_query_bind_of_eq {x : Script S ε β} {f : S → β} {k : β → Script S ε α}
    (hx : x = read f) (hk : ∀ b, (k b).Checks R K I) (hf : ∀ s s', R s s' → f s' = f s) :
    (x >>= k).Checks R K I := by
  refine checks_query_bind hx (fun s b _ _ => (hk b).mono fun _ hs' => hs'.1)
    fun s s' _ hR b b' hb hb' => ?_
  subst hx
  rw [← Except.ok.inj hb, ← Except.ok.inj hb']
  exact .inr (.inl (congrArg k (hf s s' hR)))

end Checks

/-- The handler `h` has arrived at `x` and has not been refused, and the state
may now be this one: it has moved in `R` between the queries. -/
inductive Past (R : S → S → Prop) (h : Script S ε α) : Script S ε α → S → Prop
  | start (s : S) : Past R h h s
  | read {next : S → Script S ε α} {s : S} (hx : Past R h (.query next) s)
      (hnext : ¬(next s).Refused) : Past R h (next s) s
  | wait {x : Script S ε α} {s s' : S} (hx : Past R h x s) (hR : R s s') : Past R h x s'

namespace Past

variable {R : S → S → Prop} {K : S → Prop} {h x : Script S ε α} {s : S}

/-- From now on the handler, executed atomically, goes the way it has gone: if it
passes its checks, so does the rest of it, and under `K` the other way round. -/
theorem eval_eq_ok (hx : Past R h x s) (hrefl : ∀ s, R s s)
    (htrans : ∀ s s' s'', R s s' → R s' s'' → R s s'') (hc : h.Checks R K fun _ => True) :
    ∃ I, x.Checks R K I ∧ ∀ s', R s s' → I s' ∧ ∀ a,
      (h.eval s' = .ok a → x.eval s' = .ok a) ∧
      (K s' → x.eval s' = .ok a → h.eval s' = .ok a) := by
  induction hx with
  | start s => exact ⟨_, hc, fun s' _ => ⟨trivial, fun a => ⟨id, fun _ => id⟩⟩⟩
  | @read next s hx hnext ih =>
    obtain ⟨I, hcx, ih⟩ := ih
    obtain ⟨hcnext, hagain⟩ := hcx s (ih s (hrefl s)).1
    refine ⟨_, hcnext, fun s' hR => ⟨⟨(ih s' hR).1, hR⟩, fun a => ?_⟩⟩
    obtain ⟨hto, hfrom⟩ := (ih s' hR).2 a
    -- the answer the query would get now, against the one it has got
    rcases hagain s' hR with hs | hs | ⟨hs, hK⟩
    · exact absurd hs hnext
    · rw [← hs]
      exact ⟨hto, hfrom⟩
    · exact ⟨fun ha => absurd (hto ha) hs.eval_ne, fun hK' => absurd hK' hK⟩
  | @wait x s s' hx hR ih =>
    obtain ⟨I, hcx, ih⟩ := ih
    exact ⟨I, hcx, fun s'' hR' => ih s'' (htrans s s' s'' hR hR')⟩

end Past

end Script

/-! ### The order of the requests -/

namespace Config

open Script

variable {R : ι → S → S → Prop} {K : ι → S → Prop} {h : ι → Script S ε (Tx S ε α)} {s₀ : S}
  {log : List (ι × Option α)} {c : Config ι S ε α} {i : ι}

/-- The log holds the requests whose fate is sealed; the others are on their
way. -/
structure Linearised (R : ι → S → S → Prop) (h : ι → Script S ε (Tx S ε α)) (s₀ : S)
    (log : List (ι × Option α)) (c : Config ι S ε α) : Prop where
  serial : Serial h s₀ log c.state
  nodup : (log.map Prod.fst).Nodup
  logged : ∀ i o, (i, o) ∈ log → (∃ x, c.threads i = .running x ∧ x.Refused ∧ o = none) ∨
    ∃ r, c.threads i = .done r ∧ r.toOption = o
  unlogged : ∀ i, i ∉ log.map Prod.fst → ∃ x, c.rest h i = some x ∧ Past (R i) (h i) x c.state

/-- Before the first step nothing has been committed. -/
theorem Linearised.init : Linearised R h s₀ [] (init s₀) where
  serial := rfl
  nodup := List.nodup_nil
  logged _ _ hi := absurd hi List.not_mem_nil
  unlogged i _ := ⟨h i, rfl, .start s₀⟩

/-- Sealed requests that are still under way are rejected, and need not be in the
order. -/
theorem Linearised.serialisable (hl : Linearised R h s₀ log c) : c.Serialisable h s₀ := by
  have hanswered : ∀ i, (c.rest h i).isNone = true ↔ ∃ r, c.threads i = .done r :=
    fun i => Option.isNone_iff_eq_none.trans rest_eq_none
  refine ⟨log.filter fun e => (c.rest h e.1).isNone, hl.serial.filter fun e he hp => ?_,
    hl.nodup.sublist (List.filter_sublist.map _), fun i o => ?_⟩
  · rcases hl.logged e.1 e.2 he with ⟨x, -, -, ho⟩ | ⟨r, hr, -⟩
    · exact ho
    · exact absurd ((hanswered e.1).2 ⟨r, hr⟩) (Bool.eq_false_iff.1 hp)
  · rw [List.mem_filter, hanswered]
    constructor
    · rintro ⟨hi, r, hr⟩
      rcases hl.logged i o hi with ⟨x, hx, -⟩ | hdone
      · rw [hr] at hx
        cases hx
      · exact hdone
    · rintro ⟨r, hr, ho⟩
      refine ⟨?_, r, hr⟩
      by_contra hi
      by_cases hmem : i ∈ log.map Prod.fst
      · obtain ⟨⟨_, o'⟩, hio, rfl⟩ := List.mem_map.1 hmem
        rcases hl.logged _ o' hio with ⟨x, hx, -⟩ | ⟨r', hr', ho'⟩
        · rw [hr] at hx
          cases hx
        · rw [hr, Thread.done.injEq] at hr'
          rw [← ho, hr', ho'] at hi
          exact hi hio
      · obtain ⟨x, hx, -⟩ := hl.unlogged i hmem
        rw [rest_eq_none.2 ⟨r, hr⟩] at hx
        cases hx

variable [DecidableEq ι]

/-- Whatever the schedule, a request ends in a transaction its handler can return. -/
theorem ends_step {Q : ι → Tx S ε α → Prop} (i : ι)
    (hc : ∀ j x, c.rest h j = some x → x.Ends (Q j)) :
    ∀ j x, (c.step h i).rest h j = some x → x.Ends (Q j) := by
  have hput : ∀ T s, (∀ x, (T = .idle ∧ h i = x) ∨ T = .running x → x.Ends (Q i)) →
      ∀ j x, (c.put i (T, s)).rest h j = some x → x.Ends (Q j) := by
    intro T s hT j x hx
    by_cases hji : j = i
    · subst hji
      rw [rest_eq_some, put_threads_self] at hx
      exact hT x hx
    · rw [rest_put_of_ne hji] at hx
      exact hc j x hx
  rcases step_cases h i c with ⟨-, hstep⟩ | ⟨next, hi, hstep⟩ | ⟨x, e, -, -, hstep⟩ |
    ⟨t, a, s', -, -, -, hstep⟩
  · rw [hstep]
    exact hc
  · rw [hstep]
    refine hput _ _ ?_
    rintro x (⟨hx, -⟩ | hx)
    · cases hx
    · rw [Thread.running.injEq] at hx
      exact hx ▸ hc i _ hi c.state
  · rw [hstep]
    refine hput _ _ ?_
    rintro x (⟨hx, -⟩ | hx) <;> cases hx
  · rw [hstep]
    refine hput _ _ ?_
    rintro x (⟨hx, -⟩ | hx) <;> cases hx

/-- A law that every transaction a handler can send keeps, in whatever state it is
applied, holds in every state of every interleaving. -/
theorem always_of_ends {P : S → Prop} {s : S} (hs : P s)
    (hP : ∀ i, (h i).Ends fun t => ∀ s a s', P s → t.run s = .ok (a, s') → P s') (sched : List ι) :
    Always (step h) (fun c => P c.state) sched (init s) := by
  let I : Config ι S ε α → Prop := fun c => P c.state ∧ ∀ j x, c.rest h j = some x →
    x.Ends fun t => ∀ s a s', P s → t.run s = .ok (a, s') → P s'
  have hinit : I (init s) := ⟨hs, fun j x hx => Option.some.inj hx ▸ hP j⟩
  have hstep : ∀ i c, I c → I (step h i c) := by
    rintro i c ⟨hc, hends⟩
    refine ⟨?_, ends_step i hends⟩
    rcases step_cases h i c with ⟨-, hstep⟩ | ⟨next, -, hstep⟩ | ⟨x, e, -, -, hstep⟩ |
      ⟨t, a, s', hrest, hrun, -, hstep⟩
    · rwa [hstep]
    · rwa [hstep]
    · rwa [hstep]
    · rw [hstep]
      exact hends i _ hrest c.state a s' hc hrun
  exact (Always.of_invariant hstep hinit sched).mono fun c hc => hc.1

/-- A step that changes neither the state nor the order. -/
theorem Linearised.keep (hl : Linearised R h s₀ log c) {x : Script S ε (Tx S ε α)}
    (hi : c.rest h i = some x) {T : Thread S ε α}
    (hlogged : ∀ o, (i, o) ∈ log → x.Refused → o = none →
      (∃ y, T = .running y ∧ y.Refused ∧ o = none) ∨ ∃ r, T = .done r ∧ r.toOption = o)
    (hunlogged : i ∉ log.map Prod.fst → Past (R i) (h i) x c.state →
      ∃ y, T = .running y ∧ Past (R i) (h i) y c.state) :
    Linearised R h s₀ log (c.put i (T, c.state)) where
  serial := hl.serial
  nodup := hl.nodup
  logged := by
    intro j o hj
    by_cases hji : j = i
    · subst hji
      rw [put_threads_self]
      rcases hl.logged j o hj with ⟨y, hy, href, ho⟩ | ⟨r, hr, -⟩
      · rcases rest_eq_some.1 hi with ⟨hidle, -⟩ | hrun
        · rw [hy] at hidle
          cases hidle
        · rw [hy, Thread.running.injEq] at hrun
          exact hlogged o hj (hrun ▸ href) ho
      · rw [rest_eq_none.2 ⟨r, hr⟩] at hi
        cases hi
    · rw [put_threads_of_ne hji]
      exact hl.logged j o hj
  unlogged := by
    intro j hj
    obtain ⟨y, hy, hpast⟩ := hl.unlogged j hj
    by_cases hji : j = i
    · subst hji
      rw [hi, Option.some.injEq] at hy
      subst hy
      obtain ⟨y, hT, hy⟩ := hunlogged hj hpast
      exact ⟨y, rest_eq_some.2 (.inr (by rw [put_threads_self, hT])), hy⟩
    · exact ⟨y, by rwa [rest_put_of_ne hji], hpast⟩

/-- A step at which a request takes its place in the order: it is answered now as
it is when executed atomically. -/
theorem Linearised.append (hl : Linearised R h s₀ log c) (hi : i ∉ log.map Prod.fst)
    {T : Thread S ε α}
    (hT : (∃ y, T = .running y ∧ y.Refused ∧ (h i).answer c.state = none) ∨
      ∃ r, T = .done r ∧ r.toOption = (h i).answer c.state)
    (hR : ∀ j ≠ i, ∀ x, c.threads j = .running x → R j c.state ((h i).next c.state)) :
    Linearised R h s₀ (log ++ [(i, (h i).answer c.state)])
      (c.put i (T, (h i).next c.state)) where
  serial := hl.serial.append_singleton i
  nodup := by
    rw [List.map_append]
    refine List.nodup_append.2 ⟨hl.nodup, List.nodup_singleton i, fun j hj k hk hjk => ?_⟩
    have hk : k = i := List.mem_singleton.1 hk
    rw [hjk, hk] at hj
    exact hi hj
  logged := by
    intro j o hj
    by_cases hji : j = i
    · subst hji
      rw [put_threads_self]
      rcases List.mem_append.1 hj with hj | hj
      · exact absurd (List.mem_map_of_mem hj) hi
      · have ho : o = (h j).answer c.state := (Prod.mk.inj (List.mem_singleton.1 hj)).2
        rw [ho]
        exact hT
    · rw [put_threads_of_ne hji]
      rcases List.mem_append.1 hj with hj | hj
      · exact hl.logged j o hj
      · exact absurd (congrArg Prod.fst (List.mem_singleton.1 hj)) hji
  unlogged := by
    intro j hj
    rw [List.map_append, List.mem_append, not_or] at hj
    have hji : j ≠ i := fun hji => hj.2 (List.mem_singleton.2 hji)
    obtain ⟨x, hx, hpast⟩ := hl.unlogged j hj.1
    refine ⟨x, by rwa [rest_put_of_ne hji], ?_⟩
    rcases rest_eq_some.1 hx with ⟨-, hx⟩ | hrun
    · rw [← hx]
      exact .start _
    · exact hpast.wait (hR j hji x hrun)

/-- A step that is no transaction leaves an order as long as the state. -/
theorem Linearised.reject (hl : Linearised R h s₀ log c) (hi : i ∉ log.map Prod.fst)
    (hrefl : ∀ i s, R i s s) {T : Thread S ε α} (hnone : (h i).answer c.state = none)
    (hT : (∃ y, T = .running y ∧ y.Refused) ∨ ∃ e, T = .done (.error e)) :
    Linearised R h s₀ (log ++ [(i, none)]) (c.put i (T, c.state)) := by
  have hnext : (h i).next c.state = c.state := next_of_answer_eq_none hnone
  have hT : (∃ y, T = .running y ∧ y.Refused ∧ (h i).answer c.state = none) ∨
      ∃ r, T = .done r ∧ r.toOption = (h i).answer c.state := by
    rcases hT with ⟨y, hy, href⟩ | ⟨e, he⟩
    · exact .inl ⟨y, hy, href, hnone⟩
    · exact .inr ⟨_, he, hnone.symm⟩
  have happ := hl.append hi hT fun j _ x _ => hnext.symm ▸ hrefl j c.state
  rwa [hnext, hnone] at happ

/-- Every step keeps an order, if transactions find `K` and change the store only
in ways the requests under way bear. -/
theorem Linearised.step (hl : Linearised R h s₀ log c) (hrefl : ∀ i s, R i s s)
    (htrans : ∀ i s s' s'', R i s s' → R i s' s'' → R i s s'')
    (hchecks : ∀ i, (h i).Checks (R i) (K i) fun _ => True) (i : ι)
    (hcommit : c.commits h i = true → K i c.state ∧
      ∀ j ≠ i, ∀ x, c.threads j = .running x → R j c.state ((h i).next c.state)) :
    ∃ log, Linearised R h s₀ log (c.step h i) := by
  have hpast : ∀ x, Past (R i) (h i) x c.state → ∀ a,
      ((h i).eval c.state = .ok a → x.eval c.state = .ok a) ∧
      (K i c.state → x.eval c.state = .ok a → (h i).eval c.state = .ok a) := fun x hx =>
    have ⟨_, _, hagree⟩ := hx.eval_eq_ok (hrefl i) (htrans i) (hchecks i)
    (hagree c.state (hrefl i c.state)).2
  rcases step_cases h i c with ⟨-, hstep⟩ | ⟨next, hi, hstep⟩ | ⟨x, e, hi, he, hstep⟩ |
    ⟨t, a, s', hi, ht, hc, hstep⟩
  · -- the request has been answered
    rw [hstep]
    exact ⟨log, hl⟩
  · -- a query: the request was sealed before, is sealed by the answer, or goes on
    rw [hstep]
    by_cases hlog : i ∈ log.map Prod.fst
    · exact ⟨log, hl.keep hi (fun o _ href ho => .inl ⟨_, rfl, href c.state, ho⟩)
        fun hnot => absurd hlog hnot⟩
    · by_cases href : (next c.state).Refused
      · obtain ⟨x, hx, hp⟩ := hl.unlogged i hlog
        rw [hi, Option.some.injEq] at hx
        rw [← hx] at hp
        have hnone : (h i).answer c.state = none := by
          refine answer_eq_none.2 fun t ht _ _ => ?_
          have hnext : (next c.state).eval c.state = .ok t := (hpast _ hp t).1 ht
          exact absurd hnext href.eval_ne
        exact ⟨_, hl.reject hlog hrefl hnone (.inl ⟨_, rfl, href⟩)⟩
      · exact ⟨log, hl.keep hi (fun o ho _ _ => absurd (List.mem_map_of_mem ho) hlog)
          fun _ hp => ⟨_, rfl, hp.read href⟩⟩
  · -- a rejection, by the script or by the store
    rw [hstep]
    by_cases hlog : i ∈ log.map Prod.fst
    · exact ⟨log, hl.keep hi (fun o _ _ ho => .inr ⟨_, rfl, ho.symm⟩)
        fun hnot => absurd hlog hnot⟩
    · obtain ⟨y, hy, hp⟩ := hl.unlogged i hlog
      rw [hi, Option.some.injEq] at hy
      rw [← hy] at hp
      have hnone : (h i).answer c.state = none := by
        refine answer_eq_none.2 fun t ht r hr => ?_
        have hx : x.exec c.state = .ok r := exec_eq_ok.2 ⟨t, (hpast x hp t).1 ht, hr⟩
        rw [he] at hx
        cases hx
      exact ⟨_, hl.reject hlog hrefl hnone (.inr ⟨e, rfl⟩)⟩
  · -- a transaction: under `K` the request would be accepted now as a whole
    rw [hstep]
    obtain ⟨hK, hR⟩ := hcommit hc
    have hlog : i ∉ log.map Prod.fst := by
      intro hlog
      obtain ⟨⟨_, o⟩, ho, rfl⟩ := List.mem_map.1 hlog
      rcases hl.logged _ o ho with ⟨x, hx, href, -⟩ | ⟨r, hr⟩
      · rw [rest_eq_some.2 (.inr hx), Option.some.injEq] at hi
        rw [hi] at href
        exact href
      · rw [rest_eq_none.2 ⟨r, hr.1⟩] at hi
        cases hi
    obtain ⟨y, hy, hp⟩ := hl.unlogged i hlog
    rw [hi, Option.some.injEq] at hy
    rw [← hy] at hp
    have hexec : (h i).exec c.state = .ok (a, s') :=
      exec_eq_ok.2 ⟨t, (hpast _ hp t).2 hK rfl, ht⟩
    have hnext : (h i).next c.state = s' := next_of_ok hexec
    have hans : (h i).answer c.state = some a := by rw [answer_eq_some, hnext, hexec]
    have happ := hl.append (T := .done (.ok a)) hlog (.inr ⟨_, rfl, hans.symm⟩) hR
    rw [hnext] at happ
    exact ⟨_, happ⟩

/-- Interleaved requests are serialisable at every moment, if each transaction
finds the store in a state in which the checks of its request still hold, and
makes no change that another request under way cannot bear. -/
theorem serialisable_of_along {P : ι → Config ι S ε α → Prop} (hrefl : ∀ i s, R i s s)
    (htrans : ∀ i s s' s'', R i s s' → R i s' s'' → R i s s'')
    (hchecks : ∀ i, (h i).Checks (R i) (K i) fun _ => True)
    (hcommit : ∀ i c, P i c → c.commits h i = true → K i c.state ∧
      ∀ j ≠ i, ∀ x, c.threads j = .running x → R j c.state ((h i).next c.state))
    {sched : List ι} (hP : Along (Config.step h) P sched (init s₀)) :
    Always (Config.step h) (Serialisable h s₀) sched (init s₀) := by
  have hlin : Always (Config.step h) (fun c => ∃ log, Linearised R h s₀ log c) sched (init s₀) :=
    Always.of_along (I := fun _ => True) (fun _ _ _ => trivial)
      (fun i c _ ⟨log, hl⟩ hc => hl.step hrefl htrans hchecks i (hcommit i c hc)) trivial
      ⟨[], .init⟩ hP
  exact hlin.mono fun c ⟨log, hl⟩ => hl.serialisable

/-- Where the store itself checks again what may have changed, no condition is
needed: every transaction that goes through has found `K`, and no request makes a
change another one cannot bear. -/
theorem serialisable_of_ends {R : S → S → Prop} (hrefl : ∀ s, R s s)
    (htrans : ∀ s s' s'', R s s' → R s' s'' → R s s'')
    (hchecks : ∀ i, (h i).Checks R (K i) fun _ => True)
    (hends : ∀ i, (h i).Ends fun t => ∀ s a s', t.run s = .ok (a, s') → K i s ∧ R s s')
    (sched : List ι) : Always (Config.step h) (Serialisable h s₀) sched (init s₀) := by
  let Q : ι → Tx S ε α → Prop := fun i t => ∀ s a s', t.run s = .ok (a, s') → K i s ∧ R s s'
  let I : Config ι S ε α → Prop := fun c => ∀ j x, c.rest h j = some x → x.Ends (Q j)
  have hinit : I (init s₀) := fun j x hx => Option.some.inj hx ▸ hends j
  have hstep : ∀ i c, I c → I (step h i c) := fun i c hc => ends_step i hc
  have halong : Along (step h) (fun _ => I) sched (init s₀) :=
    Along.of_invariant hstep (fun _ _ hc => hc) hinit sched
  refine serialisable_of_along (R := fun _ => R) (fun _ => hrefl) (fun _ => htrans) hchecks
    (fun i c hP hc => ?_) halong
  obtain ⟨t, a, s', hrest, ht⟩ := commits_eq_true.1 hc
  refine ⟨(hP i _ hrest c.state a s' ht).1, fun j _ x _ => ?_⟩
  refine next_induct (P := R c.state) (hrefl _) fun a s' hok => ?_
  obtain ⟨t, ht, hrun⟩ := exec_eq_ok.1 hok
  exact ((hends i).of_eval ht c.state a s' hrun).2

end Config

end Store
