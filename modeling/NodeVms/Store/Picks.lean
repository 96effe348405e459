/-
# Queries without an order

A query that returns one of the rows that match, and asks for no order, may return any of
them.  What it returns depends on which rows match and not on where they lie in the table
(`Pick.OrderFree`).  `Pick.forall_orderFree_iff` says when two states give such a query the
same answer, whichever rows it returns.
-/

import Mathlib.Data.Set.Basic
import NodeVms.Store.Rows

namespace Store

variable {α κ : Type}

/-- The same rows, wherever they lie. -/
def SameRows (l l' : List α) : Prop := ∀ r, r ∈ l ↔ r ∈ l'

instance [DecidableEq α] (l l' : List α) : Decidable (SameRows l l') :=
  decidable_of_iff ((∀ r ∈ l, r ∈ l') ∧ ∀ r ∈ l', r ∈ l)
    ⟨fun h r => ⟨h.1 r, h.2 r⟩, fun h => ⟨fun r => (h r).1, fun r => (h r).2⟩⟩

/-- A filter that only admits rows of a kind needs only the rows of the kind. -/
theorem SameRows.filter_of_imp {p q : α → Bool} {l l' : List α}
    (h : SameRows (l.filter q) (l'.filter q)) (hpq : ∀ r, p r = true → q r = true) :
    SameRows (l.filter p) (l'.filter p) := by
  intro r
  rw [List.mem_filter, List.mem_filter]
  refine and_congr_left fun hp => ?_
  have hr := h r
  rwa [List.mem_filter, List.mem_filter, and_iff_left (hpq r hp), and_iff_left (hpq r hp)] at hr

namespace Pick

/-- Nothing is chosen exactly if nothing matches. -/
theorem choose_eq_none {pick : Pick α} {l : List α} : pick.choose l = none ↔ l = [] := by
  refine ⟨pick.eq_nil, ?_⟩
  rintro rfl
  exact Option.eq_none_iff_forall_not_mem.2 fun r hr => List.not_mem_nil (pick.mem hr)

/-- What is chosen depends on which rows match, not on where they lie. -/
def OrderFree (pick : Pick α) : Prop :=
  ∀ {l l'}, SameRows l l' → pick.choose l = pick.choose l'

open Classical in
/-- A choice from every set of rows. -/
noncomputable def ofSets (f : ∀ s : Set α, s.Nonempty → α) (hf : ∀ s hs, f s hs ∈ s) : Pick α where
  choose l := if hs : {r | r ∈ l}.Nonempty then some (f _ hs) else none
  mem := fun {l r} h => by
    obtain ⟨hs, h⟩ := Option.dite_none_right_eq_some.1 h
    rw [← Option.some.inj h]
    exact hf _ hs
  eq_nil := fun {l} h => by
    refine List.eq_nil_iff_forall_not_mem.2 fun r hr => ?_
    have hs : {r | r ∈ l}.Nonempty := ⟨r, hr⟩
    rw [dif_pos hs] at h
    cases h

section Sets

variable {f : ∀ s : Set α, s.Nonempty → α} {hf : ∀ s hs, f s hs ∈ s} {l l' : List α} {r r' : α}

/-- Where some row matches one of them is chosen. -/
theorem ofSets_of_mem (hr : r ∈ l) : (ofSets f hf).choose l = some (f {r | r ∈ l} ⟨r, hr⟩) :=
  dif_pos ⟨r, hr⟩

open Classical in
/-- A choice from sets does not see where the rows lie. -/
theorem ofSets_orderFree : (ofSets f hf).OrderFree := by
  intro l l' h
  have hsets : {r | r ∈ l} = {r | r ∈ l'} := Set.ext h
  have hchoose : ∀ s s' : Set α, s = s' →
      (if hs : s.Nonempty then some (f s hs) else none) =
        if hs : s'.Nonempty then some (f s' hs) else none := by
    rintro s _ rfl
    rfl
  exact hchoose _ _ hsets

/-- Some such choice. -/
noncomputable def any : Pick α := ofSets (fun _ hs => hs.some) fun _ hs => hs.some_mem

/-- That choice is one from sets. -/
theorem any_orderFree : (any : Pick α).OrderFree := ofSets_orderFree

open Classical in
/-- From two different sets of rows any two rows may be chosen. -/
theorem exists_choose_choose (h : ¬SameRows l l') (hr : r ∈ l) (hr' : r' ∈ l') :
    ∃ pick : Pick α, pick.OrderFree ∧ pick.choose l = some r ∧ pick.choose l' = some r' := by
  have hne : {r | r ∈ l'} ≠ {r | r ∈ l} := fun hsets => h fun o => (Set.ext_iff.1 hsets o).symm
  let f : ∀ s : Set α, s.Nonempty → α := fun s hs =>
    if s = {r | r ∈ l} then r else if s = {r | r ∈ l'} then r' else hs.some
  have hf : ∀ s hs, f s hs ∈ s := by
    intro s hs
    by_cases hl : s = {r | r ∈ l}
    · have hchosen : f s hs = r := if_pos hl
      rw [hchosen, hl]
      exact hr
    · by_cases hl' : s = {r | r ∈ l'}
      · have hchosen : f s hs = r' := (if_neg hl).trans (if_pos hl')
        rw [hchosen, hl']
        exact hr'
      · have hchosen : f s hs = hs.some := (if_neg hl).trans (if_neg hl')
        rw [hchosen]
        exact hs.some_mem
  refine ⟨ofSets f hf, ofSets_orderFree, ?_, ?_⟩
  · rw [ofSets_of_mem hr]
    exact congrArg some (if_pos rfl)
  · rw [ofSets_of_mem hr']
    exact congrArg some ((if_neg hne).trans (if_pos rfl))

end Sets

/-- **What a choice lets through.**  A value of the row chosen from `l` and of the one chosen
from `l'` is the same, however they are chosen, exactly if the rows are the same or all of
them, of both, have the same value. -/
theorem forall_orderFree_iff {g : α → κ} {l l' : List α} :
    (∀ pick : Pick α, pick.OrderFree → (pick.choose l).map g = (pick.choose l').map g) ↔
      SameRows l l' ∨ (l = [] ↔ l' = []) ∧ ∀ r ∈ l, ∀ r' ∈ l', g r = g r' := by
  constructor
  · intro h
    by_cases hsame : SameRows l l'
    · exact .inl hsame
    · refine .inr ⟨?_, fun r hr r' hr' => ?_⟩
      · have hnone := congrArg (· = none) (h any any_orderFree)
        simpa only [Option.map_eq_none_iff, choose_eq_none, eq_iff_iff] using hnone
      · obtain ⟨pick, hpick, hl, hl'⟩ := exists_choose_choose hsame hr hr'
        have hchosen := h pick hpick
        rw [hl, hl', Option.map_some, Option.map_some] at hchosen
        exact Option.some.inj hchosen
  · rintro (hsame | ⟨hnil, hvalue⟩) pick hpick
    · rw [hpick hsame]
    · cases hl : pick.choose l with
      | none => rw [choose_eq_none.2 (hnil.1 (choose_eq_none.1 hl))]
      | some r =>
        cases hl' : pick.choose l' with
        | none =>
          rw [choose_eq_none.2 (hnil.2 (choose_eq_none.1 hl'))] at hl
          cases hl
        | some r' => exact congrArg some (hvalue r (pick.mem hl) r' (pick.mem hl'))

end Pick

end Store
