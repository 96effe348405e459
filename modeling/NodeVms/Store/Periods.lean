/-
# Periods with an optional end

A period without an end is unbounded.  `closedFrom` includes its end,
`halfOpenFrom` does not; both include the start.  Two closed periods share an
instant, and a half-open period shares one with a range, exactly if each starts
before the other ends (`closedFrom_meet_iff`, `halfOpenFrom_meet_iff`).

A range that is cut in two meets a set exactly if one of its parts does; a
property of ranges with this law, `Splits`, passes on to every smaller range.

Moments of which each comes more than `d` after the one before are no more than
the range that holds them is long, in units of `d` (`length_le_of_spaced`).
-/

import Mathlib.Algebra.Order.Ring.Int
import Mathlib.Order.CompletePartialOrder
import Mathlib.Order.Interval.Set.Disjoint
import Mathlib.Order.Interval.Set.LinearOrder
import Mathlib.Tactic.Common
import Mathlib.Tactic.Ring

namespace Store

variable {α : Type} [LinearOrder α] {s s' a b c : α} {e e' : Option α}

/-- From `s` to `e`, both included. -/
def closedFrom (s : α) (e : Option α) : Set α := {i | s ≤ i ∧ ∀ x ∈ e, i ≤ x}

/-- From `s`, included, to `e`, excluded. -/
def halfOpenFrom (s : α) (e : Option α) : Set α := {i | s ≤ i ∧ ∀ x ∈ e, i < x}

/-- Two periods that are not empty share the later of their starts if each
starts before the other ends. -/
theorem closedFrom_meet_iff (h : ∀ x ∈ e, s ≤ x) (h' : ∀ x ∈ e', s' ≤ x) :
    ¬Disjoint (closedFrom s e) (closedFrom s' e') ↔ (∀ x ∈ e, s' ≤ x) ∧ ∀ x ∈ e', s ≤ x := by
  rw [Set.not_disjoint_iff]
  constructor
  · rintro ⟨i, hi, hi'⟩
    exact ⟨fun x hx => hi'.1.trans (hi.2 x hx), fun x hx => hi.1.trans (hi'.2 x hx)⟩
  · rintro ⟨he, he'⟩
    refine ⟨max s s', ⟨le_max_left _ _, fun x hx => ?_⟩, le_max_right _ _, fun x hx => ?_⟩
    · exact max_le (h x hx) (he x hx)
    · exact max_le (he' x hx) (h' x hx)

/-- A half-open period and a half-open range. -/
theorem halfOpenFrom_meet_iff (h : ∀ x ∈ e, s < x) (hab : a < b) :
    ¬Disjoint (halfOpenFrom s e) (Set.Ico a b) ↔ s < b ∧ ∀ x ∈ e, a < x := by
  rw [Set.not_disjoint_iff]
  constructor
  · rintro ⟨i, hi, hi'⟩
    exact ⟨hi.1.trans_lt hi'.2, fun x hx => hi'.1.trans_lt (hi.2 x hx)⟩
  · rintro ⟨hb, he⟩
    refine ⟨max s a, ⟨le_max_left _ _, fun x hx => ?_⟩, le_max_right _ _, max_lt hb hab⟩
    exact max_lt (h x hx) (he x hx)

/-- A period overlaps a range that is cut in two if it overlaps one of the parts. -/
theorem overlap_split (h : ∀ x ∈ e, s < x) (hab : a < b) (hbc : b < c) :
    (s < c ∧ ∀ x ∈ e, a < x) ↔ (s < b ∧ ∀ x ∈ e, a < x) ∨ (s < c ∧ ∀ x ∈ e, b < x) := by
  rw [← halfOpenFrom_meet_iff h (hab.trans hbc), ← halfOpenFrom_meet_iff h hab,
    ← halfOpenFrom_meet_iff h hbc, ← Set.Ico_union_Ico_eq_Ico hab.le hbc.le,
    Set.disjoint_union_right, not_and_or]

/-- An instant is in a closed range that is cut in two if it is in one of the parts. -/
theorem mem_Icc_split (hab : a ≤ b) (hbc : b ≤ c) {i : α} :
    (a ≤ i ∧ i ≤ c) ↔ (a ≤ i ∧ i ≤ b) ∨ (b ≤ i ∧ i ≤ c) := by
  have hmem : i ∈ Set.Icc a c ↔ i ∈ Set.Icc a b ∪ Set.Icc b c := by
    rw [Set.Icc_union_Icc_eq_Icc hab hbc]
  exact hmem

/-- The property holds of a range exactly if it holds of both parts, wherever it
is cut, and so of every range within it. -/
structure Splits (P : α → α → Prop) : Prop where
  cut : ∀ a b c, a < b → b < c → (P a c ↔ P a b ∧ P b c)
  within : ∀ a b b' c, a ≤ b → b < b' → b' ≤ c → P a c → P b b'

/-- It suffices that the predicate splits at one point. -/
theorem Splits.of_cut {P : α → α → Prop} (h : ∀ a b c, a < b → b < c → (P a c ↔ P a b ∧ P b c)) :
    Splits P where
  cut := h
  within a b b' c hab hbb' hbc hP := by
    have htail : P b c := by
      rcases hab.eq_or_lt with rfl | hab
      · exact hP
      · exact ((h a b c hab (hbb'.trans_le hbc)).1 hP).2
    rcases hbc.eq_or_lt with rfl | hbc
    · exact htail
    · exact ((h b b' c hbb' hbc).1 htail).1

/-! ### Moments apart from each other -/

/-- A range of `n` times `d` has room for `n` moments more than `d` apart, and one
of length zero for one. -/
theorem length_le_of_spaced {d : ℤ} (hd : 0 ≤ d) {l : List ℤ}
    (hl : l.Pairwise fun a b => a + d < b) {s : ℤ} {n : ℕ}
    (hmem : ∀ x ∈ l, s ≤ x ∧ x ≤ s + n * d) : l.length ≤ max 1 n := by
  induction l generalizing s n with
  | nil => exact Nat.zero_le _
  | cons a l ih =>
    obtain ⟨ha, hl⟩ := List.pairwise_cons.1 hl
    cases l with
    | nil => exact le_max_left _ _
    | cons b l =>
      have hsa : s ≤ a := (hmem a List.mem_cons_self).1
      have hab : a + d < b := ha b List.mem_cons_self
      have hb : b ≤ s + n * d := (hmem b (by simp)).2
      match n, hmem, hb with
      | 0, _, hb =>
        simp only [Nat.cast_zero, zero_mul, add_zero] at hb
        omega
      | 1, _, hb =>
        simp only [Nat.cast_one, one_mul] at hb
        omega
      | n + 2, hmem, _ =>
        -- the others are in the range that starts `d` later
        have hrest : (b :: l).length ≤ max 1 (n + 1) := by
          refine ih hl (s := s + d) (n := n + 1) fun x hx => ?_
          have hax : a + d < x := ha x hx
          have hx : x ≤ s + ((n + 2 : ℕ) : ℤ) * d := (hmem x (List.mem_cons_of_mem a hx)).2
          have hsum : s + d + ((n + 1 : ℕ) : ℤ) * d = s + ((n + 2 : ℕ) : ℤ) * d := by
            push_cast
            ring
          omega
        have hlength : (a :: b :: l).length = (b :: l).length + 1 := List.length_cons
        omega

end Store
