/-
# What a system does not look at

`hide` takes part of a state away.  A script is blind to that part if every query has
the same answer in a state and in what `hide` leaves of it, and a transaction if it does
the same to both.  For a handler that is blind in both phases it makes no difference
whether the part is taken away before a request or after it (`Script.next_hide`).

`run_related` is the rule for two runs: if the steps one does not see keep two states
related, whichever of the two they change, and the other steps keep them related when
both make them, then two runs with the same visible steps end in related states.
-/

import NodeVms.Store.Runs
import NodeVms.Store.Script

namespace Store

variable {S ε α β : Type} {hide : S → S}

/-! ### Transactions -/

namespace Tx

/-- The transaction does to what `hide` leaves of a state what it does to the state. -/
def Blind (hide : S → S) (t : Tx S ε α) : Prop :=
  ∀ s, t.run (hide s) = (t.run s).map fun r => (r.1, hide r.2)

/-- A transaction that does nothing is blind. -/
theorem Blind.pure (a : α) : (Pure.pure a : Tx S ε α).Blind hide := fun _ => rfl

/-- A transaction is blind if its parts are. -/
theorem Blind.bind {t : Tx S ε α} {f : α → Tx S ε β} (ht : t.Blind hide)
    (hf : ∀ a, (f a).Blind hide) : (t >>= f).Blind hide := by
  intro s
  rw [run_bind, run_bind, ht s]
  cases t.run s with
  | error e => rfl
  | ok r => exact hf r.1 r.2

/-- A conditional transaction, whose condition is known by then. -/
theorem Blind.when {c : Prop} {_ : Decidable c} {t : Tx S ε Unit} (ht : t.Blind hide) :
    (when c t).Blind hide := by
  unfold Tx.when
  split
  · exact ht
  · exact .pure ()

/-- A transaction on an optional value. -/
theorem Blind.whenSome {o : Option α} {f : α → Tx S ε Unit} (hf : ∀ a, (f a).Blind hide) :
    (whenSome o f).Blind hide := by
  cases o with
  | none => exact .pure ()
  | some a => exact hf a

end Tx

/-! ### Scripts -/

namespace Script

/-- Every query has the same answer in what `hide` leaves of a state, and whatever the
script returns is in `P`. -/
def Blind (hide : S → S) (P : α → Prop) : Script S ε α → Prop
  | .pure a => P a
  | .throw _ => True
  | .query next => ∀ s, next (hide s) = next s ∧ (next s).Blind hide P

/-- A handler that is blind until it commits, and then. -/
abbrev Unaware (hide : S → S) (h : Script S ε (Tx S ε α)) : Prop := h.Blind hide (Tx.Blind hide)

variable {P : β → Prop} {x : Script S ε α} {f : α → Script S ε β}

/-- A script is blind if it begins so and goes on so, whatever it has read. -/
theorem blind_bind (hx : x.Blind hide fun _ => True) (hf : ∀ a, (f a).Blind hide P) :
    (x >>= f).Blind hide P := by
  change (x.bind f).Blind hide P
  induction x with
  | pure a => exact hf a
  | throw e => trivial
  | query next ih =>
    intro s
    obtain ⟨hnext, hrest⟩ := hx s
    exact ⟨congrArg (Script.bind · f) hnext, ih s hrest⟩

/-- A query is blind if its answer is the same in what is left. -/
theorem blind_read {g : S → α} (hg : ∀ s, g (hide s) = g s) :
    (read g : Script S ε α).Blind hide fun _ => True :=
  fun s => ⟨congrArg Script.pure (hg s), trivial⟩

/-- A check of what is known already is blind. -/
theorem blind_throwIf {c : Prop} {_ : Decidable c} {e : ε} :
    (throwIf c e : Script S ε Unit).Blind hide fun _ => True := by
  unfold throwIf
  split <;> trivial

/-- So is the check that a value is there. -/
theorem blind_orThrow {o : Option α} {e : ε} :
    (orThrow o e : Script S ε α).Blind hide fun _ => True := by
  cases o <;> trivial

/-- So is the check that a value is not there. -/
theorem blind_throwIfSome {o : Option α} {e : ε} :
    (throwIfSome o e : Script S ε Unit).Blind hide fun _ => True := by
  cases o <;> trivial

/-- A conditional script. -/
theorem blind_when {c : Prop} {_ : Decidable c} {x : Script S ε Unit}
    (hx : x.Blind hide fun _ => True) : (when c x).Blind hide fun _ => True := by
  unfold when
  split
  · exact hx
  · trivial

/-- A script on an optional value. -/
theorem blind_whenSome {o : Option α} {g : α → Script S ε Unit}
    (hg : ∀ a, (g a).Blind hide fun _ => True) : (whenSome o g).Blind hide fun _ => True := by
  cases o with
  | none => trivial
  | some a => exact hg a

/-- A script ends in a transaction that is blind. -/
theorem blind_commit {t : Tx S ε α} (ht : t.Blind hide) : (commit t).Unaware hide := ht

variable {Q : α → Prop} {s : S}

/-- The queries of a blind script lead to the same end in what is left. -/
theorem Blind.eval_hide (hx : x.Blind hide Q) : x.eval (hide s) = x.eval s := by
  induction x with
  | pure a => rfl
  | throw e => rfl
  | query next ih =>
    obtain ⟨hnext, hrest⟩ := hx s
    change (next (hide s)).eval (hide s) = (next s).eval s
    rw [hnext]
    exact ih s hrest

/-- In states that differ in what is hidden the script does the same. -/
theorem Blind.eval_congr (hx : x.Blind hide Q) {s' : S} (h : hide s = hide s') :
    x.eval s = x.eval s' := by
  rw [← hx.eval_hide, h, hx.eval_hide]

/-- What a blind script returns has the property claimed of it. -/
theorem Blind.of_eval (hx : x.Blind hide Q) {a : α} (h : x.eval s = .ok a) : Q a := by
  induction x with
  | pure b =>
    have hba : b = a := Except.ok.inj h
    exact hba ▸ hx
  | throw e => cases h
  | query next ih => exact ih s (hx s).2 h

variable {h : Script S ε (Tx S ε α)}

/-- An unaware handler answers the same and leaves the same of what is left. -/
theorem Blind.exec_hide (hh : h.Unaware hide) :
    h.exec (hide s) = (h.exec s).map fun r => (r.1, hide r.2) := by
  unfold exec
  rw [hh.eval_hide]
  cases ht : h.eval s with
  | error e => rfl
  | ok t => exact hh.of_eval ht s

/-- In states that differ in what is hidden the handler returns the same. -/
theorem Blind.exec_congr (hh : h.Unaware hide) {s' : S} (hs : hide s = hide s') :
    (h.exec s).map Prod.fst = (h.exec s').map Prod.fst := by
  have hfst : ∀ s, (h.exec s).map Prod.fst = (h.exec (hide s)).map Prod.fst := by
    intro s
    rw [hh.exec_hide]
    cases h.exec s <;> rfl
  rw [hfst s, hs, ← hfst s']

/-- Hidden before the request or after it. -/
theorem Blind.next_hide (hh : h.Unaware hide) : h.next (hide s) = hide (h.next s) := by
  unfold next
  rw [hh.exec_hide]
  cases h.exec s <;> rfl

end Script

/-! ### Two runs -/

section Runs

variable {R : Type} {step : R → S → S} {Sim : S → S → Prop} {P : R → S → Prop} {seen : R → Bool}
  {rs rs' : List R} {s s' : S}

/-- Steps that are not seen keep the states related. -/
theorem run_unseen (hright : ∀ r s s', seen r = false → Sim s s' → Sim s (step r s'))
    (hrs : ∀ r ∈ rs, seen r = false) (hs : Sim s s') : Sim s (run step rs s') := by
  induction rs generalizing s' with
  | nil => exact hs
  | cons r rs ih =>
    obtain ⟨hr, hrs⟩ := List.forall_mem_cons.1 hrs
    exact ih hrs (hright r s s' hr hs)

/-- The rule for two runs with the same visible steps. -/
theorem run_related (hleft : ∀ r s s', seen r = false → Sim s s' → Sim (step r s) s')
    (hright : ∀ r s s', seen r = false → Sim s s' → Sim s (step r s'))
    (hboth : ∀ r s s', seen r = true → P r s → P r s' → Sim s s' → Sim (step r s) (step r s'))
    (hsame : rs.filter seen = rs'.filter seen) (hrs : Along step P rs s) (hrs' : Along step P rs' s')
    (hs : Sim s s') : Sim (run step rs s) (run step rs' s') := by
  induction rs generalizing rs' s s' with
  | nil =>
    refine run_unseen hright (fun r hr => ?_) hs
    exact Bool.eq_false_iff.2 (List.filter_eq_nil_iff.1 hsame.symm r hr)
  | cons r rs ih =>
    cases hr : seen r with
    | false =>
      rw [List.filter_cons_of_neg (by rw [hr]; exact Bool.false_ne_true)] at hsame
      exact ih hsame hrs.2 hrs' (hleft r s s' hr hs)
    | true =>
      rw [List.filter_cons_of_pos hr] at hsame
      obtain ⟨us, vs, rfl, hus, -, hvs⟩ := List.filter_eq_cons_iff.1 hsame.symm
      obtain ⟨-, hPr', hvs'⟩ := along_append.1 hrs'
      have hunseen : ∀ u ∈ us, seen u = false := fun u hu => Bool.eq_false_iff.2 (hus u hu)
      have hmid : Sim s (run step us s') := run_unseen hright hunseen hs
      rw [run_append]
      show Sim (run step rs (step r s)) (run step vs (step r (run step us s')))
      exact ih hvs.symm hrs.2 hvs' (hboth r _ _ hr hrs.1 hPr' hmid)

end Runs

end Store
