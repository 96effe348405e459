/-
# Runs of a system that answers one request at a time

`step r s` is the state after request `r` in state `s`; it is total, since a
rejected request leaves a state too.  `Always Q` says that `Q` holds in every
state of a run, `Along P` that every request of the run meets `P` in the state
it finds.

`Always.of_along` is the rule for a law that one kind of request can break: if a
request that meets `P` keeps the law, then a run all of whose requests meet `P`
keeps it throughout.
-/

import Mathlib.Tactic.Common

namespace Store

variable {R S : Type} (step : R → S → S)

/-- The state after the requests of a list, from left to right. -/
def run (rs : List R) (s : S) : S := rs.foldl (fun s r => step r s) s

/-- The states some finite run from `init` ends in. -/
def Reachable (init s : S) : Prop := ∃ rs, run step rs init = s

/-- `Q` holds in every state of the run, the first and the last included. -/
def Always (Q : S → Prop) : List R → S → Prop
  | [], s => Q s
  | r :: rs, s => Q s ∧ Always Q rs (step r s)

/-- Every request of the run meets `P` in the state it is executed in. -/
def Along (P : R → S → Prop) : List R → S → Prop
  | [], _ => True
  | r :: rs, s => P r s ∧ Along P rs (step r s)

instance Along.decidable (P : R → S → Prop) [∀ r s, Decidable (P r s)] :
    ∀ rs s, Decidable (Along step P rs s)
  | [], _ => inferInstanceAs (Decidable True)
  | r :: rs, s =>
    have := Along.decidable P rs (step r s)
    inferInstanceAs (Decidable (P r s ∧ Along step P rs (step r s)))

variable {step} {P P' : R → S → Prop} {I Q : S → Prop} {init s : S} {rs : List R}

/-- One run after another. -/
theorem run_append (rs' : List R) : run step (rs ++ rs') s = run step rs' (run step rs s) :=
  List.foldl_append ..

/-- The last step of a run. -/
theorem run_concat (r : R) : run step (rs ++ [r]) s = step r (run step rs s) := run_append [r]

/-- What holds after a run and not before begins to hold at some request. -/
theorem exists_begin (hs : ¬Q s) (h : Q (run step rs s)) : ∃ before r after,
    rs = before ++ r :: after ∧ ¬Q (run step before s) ∧ Q (step r (run step before s)) := by
  induction rs generalizing s with
  | nil => exact absurd h hs
  | cons r rs ih =>
    by_cases hr : Q (step r s)
    · exact ⟨[], r, rs, rfl, hs, hr⟩
    · obtain ⟨before, r', after, rfl, hbefore, hafter⟩ := ih hr h
      exact ⟨r :: before, r', after, rfl, hbefore, hafter⟩

/-- What some requests switch on and others off is on after a run if it has been switched on,
before the run or in it, and not off since. -/
theorem run_iff_switched {On Off : R → Prop} (hstep : ∀ r s, Q (step r s) ↔ On r ∨ Q s ∧ ¬Off r) :
    Q (run step rs s) ↔
      (∃ before r after, rs = before ++ r :: after ∧ On r ∧ ∀ r' ∈ after, ¬Off r') ∨
        Q s ∧ ∀ r ∈ rs, ¬Off r := by
  induction rs generalizing s with
  | nil => simp [run]
  | cons r rs ih =>
    have hrun : run step (r :: rs) s = run step rs (step r s) := rfl
    rw [hrun, ih, hstep]
    constructor
    · rintro (⟨before, r', after, rfl, hon, hoff⟩ | ⟨hon | ⟨hs, hr⟩, hoff⟩)
      · exact .inl ⟨r :: before, r', after, rfl, hon, hoff⟩
      · exact .inl ⟨[], r, rs, rfl, hon, hoff⟩
      · exact .inr ⟨hs, List.forall_mem_cons.2 ⟨hr, hoff⟩⟩
    · rintro (⟨before, r', after, heq, hon, hoff⟩ | ⟨hs, hoff⟩)
      · obtain _ | ⟨r₀, before⟩ := before
        · obtain ⟨rfl, rfl⟩ := List.cons.inj heq
          exact .inr ⟨.inl hon, hoff⟩
        · obtain ⟨rfl, rfl⟩ := List.cons.inj heq
          exact .inl ⟨before, r', after, rfl, hon, hoff⟩
      · obtain ⟨hr, hrs⟩ := List.forall_mem_cons.1 hoff
        exact .inr ⟨.inr ⟨hs, hr⟩, hrs⟩

/-- A property every step keeps holds after every run. -/
theorem run_invariant (hstep : ∀ r s, I s → I (step r s)) (rs : List R) :
    ∀ s, I s → I (run step rs s) := by
  induction rs with
  | nil => exact fun _ h => h
  | cons r rs ih => exact fun s h => ih _ (hstep r s h)

/-- The initial state is reachable. -/
theorem Reachable.refl : Reachable step s s := ⟨[], rfl⟩

/-- So is the state after a step. -/
theorem Reachable.next (h : Reachable step init s) (r : R) : Reachable step init (step r s) := by
  obtain ⟨rs, rfl⟩ := h
  exact ⟨rs ++ [r], run_append [r]⟩

/-- So is that after a run. -/
theorem Reachable.run (h : Reachable step init s) (rs : List R) :
    Reachable step init (run step rs s) := by
  obtain ⟨rs', rfl⟩ := h
  exact ⟨rs' ++ rs, run_append rs⟩

/-- The invariant rule. -/
theorem Reachable.invariant (h : Reachable step init s) (hinit : I init)
    (hstep : ∀ r s, Reachable step init s → I s → I (step r s)) : I s := by
  obtain ⟨rs, rfl⟩ := h
  refine (run_invariant (I := fun s => Reachable step init s ∧ I s) (fun r s hs => ?_) rs init
    ⟨.refl, hinit⟩).2
  exact ⟨hs.1.next r, hstep r s hs.1 hs.2⟩

/-- What always holds does so at the start. -/
theorem Always.head (h : Always step Q rs s) : Q s := by
  cases rs with
  | nil => exact h
  | cons r rs => exact h.1

/-- The law holds in the last state of the run. -/
theorem Always.last (h : Always step Q rs s) : Q (run step rs s) := by
  induction rs generalizing s with
  | nil => exact h
  | cons r rs ih => exact ih h.2

/-- What always holds implies what follows from it. -/
theorem Always.mono {Q' : S → Prop} (h : Always step Q rs s) (hQ : ∀ s, Q s → Q' s) :
    Always step Q' rs s := by
  induction rs generalizing s with
  | nil => exact hQ s h
  | cons r rs ih => exact ⟨hQ s h.1, ih h.2⟩

/-- So does what holds of every step. -/
theorem Along.mono (h : Along step P rs s) (hP : ∀ r s, P r s → P' r s) : Along step P' rs s := by
  induction rs generalizing s with
  | nil => trivial
  | cons r rs ih => exact ⟨hP r s h.1, ih h.2⟩

/-- Two properties hold of every step if both do. -/
theorem Along.and (h : Along step P rs s) (h' : Along step P' rs s) :
    Along step (fun r s => P r s ∧ P' r s) rs s := by
  induction rs generalizing s with
  | nil => trivial
  | cons r rs ih => exact ⟨⟨h.1, h'.1⟩, ih h.2 h'.2⟩

/-- What holds of each request, whatever the state. -/
theorem Along.and_forall {F : R → Prop} (h : Along step P rs s) (hF : ∀ r ∈ rs, F r) :
    Along step (fun r s => P r s ∧ F r) rs s := by
  induction rs generalizing s with
  | nil => trivial
  | cons r rs ih =>
    obtain ⟨hr, hrs⟩ := List.forall_mem_cons.1 hF
    exact ⟨⟨h.1, hr⟩, ih h.2 hrs⟩

/-- A property of every step is one of the steps of both parts. -/
theorem along_append {rs' : List R} :
    Along step P (rs ++ rs') s ↔ Along step P rs s ∧ Along step P rs' (run step rs s) := by
  induction rs generalizing s with
  | nil => exact ⟨fun h => ⟨trivial, h⟩, And.right⟩
  | cons r rs ih =>
    constructor
    · rintro ⟨hr, hrs⟩
      obtain ⟨h, h'⟩ := ih.1 hrs
      exact ⟨⟨hr, h⟩, h'⟩
    · rintro ⟨⟨hr, h⟩, h'⟩
      exact ⟨hr, ih.2 ⟨h, h'⟩⟩

/-- A law each request keeps under `P` holds throughout a run that meets `P`. -/
theorem Always.of_along (hI : ∀ r s, I s → I (step r s))
    (hstep : ∀ r s, I s → Q s → P r s → Q (step r s)) (hs : I s) (hQ : Q s)
    (h : Along step P rs s) : Always step Q rs s := by
  induction rs generalizing s with
  | nil => exact hQ
  | cons r rs ih => exact ⟨hQ, ih (hI r s hs) (hstep r s hs hQ h.1) h.2⟩

/-- The same for a law that needs no invariant besides. -/
theorem Always.of_steps (hstep : ∀ r s, Q s → P r s → Q (step r s)) (hQ : Q s)
    (h : Along step P rs s) : Always step Q rs s :=
  .of_along (I := fun _ => True) (fun _ _ _ => trivial) (fun r s _ => hstep r s) trivial hQ h

/-- A law every step keeps holds throughout every run. -/
theorem Always.of_invariant (hstep : ∀ r s, Q s → Q (step r s)) (hQ : Q s) (rs : List R) :
    Always step Q rs s := by
  induction rs generalizing s with
  | nil => exact hQ
  | cons r rs ih => exact ⟨hQ, ih (hstep r s hQ)⟩

/-- Every state of a run is reachable. -/
theorem Always.reachable (rs : List R) : Always step (Reachable step init) rs init :=
  .of_invariant (fun r _ h => h.next r) .refl rs

/-- A law each request keeps under `P` in the states that are reachable. -/
theorem Always.and_reachable (hstep : ∀ r s, Reachable step init s → Q s → P r s → Q (step r s))
    (hQ : Q init) (h : Along step P rs init) :
    Always step (fun s => Reachable step init s ∧ Q s) rs init :=
  .of_steps (fun r s hs hr => ⟨hs.1.next r, hstep r s hs.1 hs.2 hr⟩) ⟨.refl, hQ⟩ h

/-- What a property every step keeps entails is met all along. -/
theorem Along.of_invariant (hI : ∀ r s, I s → I (step r s)) (hP : ∀ r s, I s → P r s) (hs : I s)
    (rs : List R) : Along step P rs s := by
  induction rs generalizing s with
  | nil => trivial
  | cons r rs ih => exact ⟨hP r s hs, ih (hI r s hs)⟩

/-- If each request that the law outlives meets `P`, then all requests of a run
that keeps the law do. -/
theorem Along.of_always (hI : ∀ r s, I s → I (step r s))
    (hstep : ∀ r s, I s → Q (step r s) → P r s) (hs : I s) (h : Always step Q rs s) :
    Along step P rs s := by
  induction rs generalizing s with
  | nil => trivial
  | cons r rs ih => exact ⟨hstep r s hs h.2.head, ih (hI r s hs) h.2⟩

end Store
