/-
# Sums over the rows of a query

A report adds up a column over the rows it selects.  Such a sum splits wherever
the rows do: over the groups of a `GROUP BY` (`sum_groupBy`), over the keys that
another query lists (`sum_keys`, `countP_keys`), and, for rows that happen at a moment, over
consecutive spans of time (`Span.Consecutive.sum_contains`).
-/

import Mathlib.Algebra.BigOperators.Group.List.Basic
import Mathlib.Algebra.Order.SuccPred
import Mathlib.Data.List.Dedup
import Mathlib.Tactic.Abel
import Mathlib.Tactic.Common
import NodeVms.Store.Rows

namespace Store

section Sums

variable {α M : Type}

/-- `SELECT SUM(f)`: no row, no sum. -/
def sum? [Add M] [Zero M] (f : α → M) : List α → Option M
  | [] => none
  | rows => some (rows.map f).sum

variable [AddCommMonoid M]

/-- `sum ?? 0`. -/
@[simp] theorem getD_sum? (f : α → M) (rows : List α) :
    (sum? f rows).getD 0 = (rows.map f).sum := by
  cases rows with
  | nil => rfl
  | cons r rows => rfl

/-- A sum over the rows of two disjoint kinds. -/
theorem sum_filter_or {p q : α → Prop} [DecidablePred p] [DecidablePred q] (f : α → M)
    {l : List α} (hpq : ∀ r ∈ l, p r → ¬q r) :
    ((l.filter fun r => p r ∨ q r).map f).sum =
      ((l.filter fun r => p r).map f).sum + ((l.filter fun r => q r).map f).sum := by
  induction l with
  | nil => simp
  | cons r l ih =>
    have ih := ih fun o ho => hpq o (List.mem_cons_of_mem r ho)
    have hr := hpq r List.mem_cons_self
    by_cases hp : p r
    · have hq : ¬q r := hr hp
      simp only [List.filter_cons, hp, hq, true_or, decide_true, decide_false, if_true,
        Bool.false_eq_true, if_false, List.map_cons, List.sum_cons]
      rw [ih, add_assoc]
    · by_cases hq : q r
      · simp only [List.filter_cons, hp, hq, or_true, decide_true, decide_false, if_true,
          Bool.false_eq_true, if_false, List.map_cons, List.sum_cons]
        rw [ih, add_left_comm]
      · simpa only [List.filter_cons, hp, hq, or_self, decide_false, Bool.false_eq_true,
          if_false] using ih

/-- A sum over the rows of one kind, as one over all rows. -/
theorem sum_filter {p : α → Prop} [DecidablePred p] (f : α → M) (l : List α) :
    ((l.filter fun r => p r).map f).sum = (l.map fun r => if p r then f r else 0).sum := by
  rw [List.sum_map_ite]
  simp

/-- An update changes a sum by what it makes of the rows it changes. -/
theorem sum_updateWhere {A : Type} [AddCommGroup A] (f : α → A) (p : α → Bool) (g : α → α)
    (l : List α) : ((updateWhere p g l).map f).sum =
      (l.map f).sum + ((l.filter p).map fun r => f (g r) - f r).sum := by
  induction l with
  | nil => simp [updateWhere]
  | cons r l ih =>
    have htail : ((l.map fun r => if p r then g r else r).map f).sum =
        (l.map f).sum + ((l.filter p).map fun r => f (g r) - f r).sum := ih
    unfold updateWhere
    rw [List.map_cons, List.map_cons, List.sum_cons, htail, List.map_cons, List.sum_cons]
    cases hp : p r with
    | true =>
      rw [List.filter_cons_of_pos hp, List.map_cons, List.sum_cons, if_pos rfl]
      abel
    | false =>
      have hpos : ¬p r = true := by simp [hp]
      rw [List.filter_cons_of_neg hpos, if_neg (by simp), add_assoc]

end Sums

/-- Counting is adding ones. -/
theorem sum_map_one {α : Type} (rows : List α) : (rows.map fun _ => 1).sum = rows.length := by
  simp

/-- Two counts, one of which leaves rows out, agree exactly if it leaves none out. -/
theorem countP_and_eq_iff {α : Type} {p q : α → Prop} [DecidablePred p] [DecidablePred q]
    {l : List α} :
    (l.countP fun r => p r ∧ q r) = (l.countP fun r => p r) ↔ ∀ r ∈ l, p r → q r := by
  have hsub : (l.filter fun r => p r ∧ q r).Sublist (l.filter fun r => p r) :=
    List.monotone_filter_right l fun r h => decide_eq_true (of_decide_eq_true h).1
  rw [List.countP_eq_length_filter, List.countP_eq_length_filter]
  constructor
  · intro h r hr hp
    have hmem : r ∈ l.filter fun r => p r ∧ q r := by
      rw [hsub.eq_of_length h]
      exact List.mem_filter.2 ⟨hr, decide_eq_true hp⟩
    exact (of_decide_eq_true (List.mem_filter.1 hmem).2).2
  · intro h
    refine congrArg List.length (List.filter_congr fun r hr => ?_)
    exact decide_eq_decide.2 (and_iff_left_of_imp (h r hr))

/-! ### Groups -/

section Groups

/-- A group of rows with one key. -/
structure Group (κ α : Type) where
  key : κ
  rows : List α

variable {α κ M : Type} [AddCommMonoid M]

/-- `group?._sum`, and zero without one. -/
theorem getD_bind_sum? (f : α → M) (group : Option (Group κ α)) :
    (group.bind fun g => sum? f g.rows).getD 0 =
      (((group.map Group.rows).getD []).map f).sum := by
  cases group with
  | none => rfl
  | some g => exact getD_sum? f g.rows

/-- `group?._count`, and zero without one. -/
theorem getD_map_length (group : Option (Group κ α)) :
    (group.map fun g => g.rows.length).getD 0 = ((group.map Group.rows).getD []).length := by
  cases group with
  | none => rfl
  | some g => rfl

variable [DecidableEq κ] {key : α → κ} {l : List α}

/-- `GROUP BY key`: the rows of each key that occurs. -/
def groupBy (key : α → κ) (l : List α) : List (Group κ α) :=
  (l.map key).dedup.map fun k => ⟨k, l.filter fun r => key r = k⟩

/-- A group has a key that occurs, and the rows with the key. -/
theorem mem_groupBy {g : Group κ α} :
    g ∈ groupBy key l ↔ (∃ r ∈ l, key r = g.key) ∧ g.rows = l.filter fun r => key r = g.key := by
  obtain ⟨k, rows⟩ := g
  simp only [groupBy, List.mem_map, List.mem_dedup, Group.mk.injEq]
  constructor
  · rintro ⟨k', hk', rfl, rfl⟩
    exact ⟨hk', rfl⟩
  · rintro ⟨hk, hrows⟩
    exact ⟨k, hk, rfl, hrows.symm⟩

/-- Every key has one group. -/
theorem map_key_groupBy : (groupBy key l).map Group.key = (l.map key).dedup := by
  simp [groupBy, Function.comp_def]

/-- One group a key. -/
theorem nodup_key_groupBy : ((groupBy key l).map Group.key).Nodup := by
  rw [map_key_groupBy]
  exact List.nodup_dedup _

/-- The rows in the group of a key, if it has a group, are the rows with the key. -/
theorem rows_find?_groupBy (k : κ) :
    (((groupBy key l).find? fun g => g.key = k).map Group.rows).getD [] =
      l.filter fun r => key r = k := by
  cases h : (groupBy key l).find? fun g => g.key = k with
  | some g =>
    have hg := mem_groupBy.1 (List.mem_of_find?_eq_some h)
    have hk : g.key = k := by simpa using List.find?_some h
    simpa [hk] using hg.2
  | none =>
    have hnone : ∀ r ∈ l, key r ≠ k := by
      intro r hr hk
      have hmem : (⟨k, l.filter fun r => key r = k⟩ : Group κ α) ∈ groupBy key l :=
        mem_groupBy.2 ⟨⟨r, hr, hk⟩, rfl⟩
      simpa using List.find?_eq_none.1 h _ hmem
    rw [Option.map_none, Option.getD_none, eq_comm, List.filter_eq_nil_iff]
    simpa using hnone

/-- Summing key by key over a list of keys is summing over the rows that have one of them. -/
theorem sum_keys (f : α → M) {ks : List κ} (hks : ks.Nodup) :
    (ks.map fun k => ((l.filter fun r => key r = k).map f).sum).sum =
      ((l.filter fun r => key r ∈ ks).map f).sum := by
  induction ks with
  | nil => simp
  | cons k ks ih =>
    obtain ⟨hk, hks⟩ := List.nodup_cons.1 hks
    have hdisjoint : ∀ r ∈ l, key r = k → ¬key r ∈ ks := by
      rintro r - rfl
      exact hk
    rw [List.map_cons, List.sum_cons, ih hks, ← sum_filter_or f hdisjoint]
    simp only [List.mem_cons]

/-- Counting key by key is counting the rows that have one of the keys. -/
theorem countP_keys {ks : List κ} (hks : ks.Nodup) {q : α → Prop} [DecidablePred q]
    (hq : ∀ r ∈ l, q r ↔ key r ∈ ks) :
    (ks.map fun k => l.countP fun r => key r = k).sum = l.countP fun r => q r := by
  have hone : (ks.map fun k => ((l.filter fun r => key r = k).map fun _ => 1).sum).sum =
      ((l.filter fun r => key r ∈ ks).map fun _ => 1).sum := sum_keys (fun _ => 1) hks
  simp only [sum_map_one, ← List.countP_eq_length_filter] at hone
  rw [hone]
  refine List.countP_congr fun r hr => ?_
  rw [decide_eq_true_eq, decide_eq_true_eq, hq r hr]

/-- The groups of a query together hold the rows of the query. -/
theorem sum_groupBy (f : α → M) :
    ((groupBy key l).map fun g => (g.rows.map f).sum).sum = (l.map f).sum := by
  have hall : (l.filter fun r => key r ∈ (l.map key).dedup) = l := by
    rw [List.filter_eq_self]
    intro r hr
    rw [decide_eq_true_eq, List.mem_dedup]
    exact List.mem_map_of_mem hr
  rw [groupBy, List.map_map]
  exact (sum_keys f (List.nodup_dedup _)).trans (by rw [hall])

/-- The groups of a query, in some order. -/
def IsGrouping (key : α → κ) (l : List α) (groups : List (Group κ α)) : Prop :=
  groups.Perm (groupBy key l)

namespace IsGrouping

variable {groups : List (Group κ α)} (h : IsGrouping key l groups)
include h

/-- No key has two groups. -/
theorem nodup_key : (groups.map Group.key).Nodup :=
  (h.map Group.key).nodup_iff.2 nodup_key_groupBy

/-- The sums of the groups add up to the sum of the rows. -/
theorem sum (f : α → M) : (groups.map fun g => (g.rows.map f).sum).sum = (l.map f).sum :=
  (h.map _).sum_eq.trans (sum_groupBy f)

/-- So do their sizes. -/
theorem length : (groups.map fun g => g.rows.length).sum = l.length := by
  have hone := h.sum fun _ => 1
  simpa only [sum_map_one] using hone

/-- The rows with a key make up a group, or there is no such row and no such group. -/
theorem mem_or (k : κ) : ⟨k, l.filter fun r => key r = k⟩ ∈ groups ∨
    (∀ g ∈ groups, g.key ≠ k) ∧ (l.filter fun r => key r = k) = [] := by
  by_cases hk : ∃ r ∈ l, key r = k
  · exact .inl (h.mem_iff.2 (mem_groupBy.2 ⟨hk, rfl⟩))
  · refine .inr ⟨fun g hg hgk => ?_, ?_⟩
    · obtain ⟨r, hr, hrk⟩ := (mem_groupBy.1 (h.mem_iff.1 hg)).1
      exact hk ⟨r, hr, hrk.trans hgk⟩
    · rw [List.filter_eq_nil_iff]
      simpa using hk

end IsGrouping

end Groups

/-! ### Spans of time -/

/-- What lies between two moments, both included; a missing end leaves that side open. -/
structure Span (ι : Type) where
  start : Option ι
  stop : Option ι
  deriving DecidableEq

namespace Span

variable {ι α M : Type}

/-- `start <= t <= stop`. -/
def Contains [LE ι] (s : Span ι) (t : ι) : Prop :=
  (∀ a ∈ s.start, a ≤ t) ∧ ∀ b ∈ s.stop, t ≤ b

instance [LE ι] [DecidableLE ι] (s : Span ι) (t : ι) : Decidable (s.Contains t) := by
  unfold Contains; infer_instance

/-- From the start of the one to the end of the other. -/
def upTo (s s' : Span ι) : Span ι := ⟨s.start, s'.stop⟩

/-- A span reaches up to its own end. -/
theorem upTo_self (s : Span ι) : s.upTo s = s := rfl

variable [LinearOrder ι] [Add ι] [One ι]

/-- The span does not end before it starts; it may be empty. -/
def Ordered (s : Span ι) : Prop := ∀ a ∈ s.start, ∀ b ∈ s.stop, a ≤ b + 1

/-- `s'` starts right after the end of `s`. -/
def Adjacent (s s' : Span ι) : Prop := ∃ b, s.stop = some b ∧ s'.start = some (b + 1)

/-- Spans that follow each other without a gap. -/
structure Consecutive (spans : List (Span ι)) : Prop where
  ordered : ∀ s ∈ spans, s.Ordered
  adjacent : spans.IsChain Adjacent

variable {s s' last : Span ι} {spans : List (Span ι)}

/-- The later spans follow each other. -/
theorem Consecutive.tail (h : Consecutive (s :: s' :: spans)) : Consecutive (s' :: spans) :=
  ⟨fun o ho => h.ordered o (List.mem_cons_of_mem s ho), (List.isChain_cons_cons.1 h.adjacent).2⟩

/-- Consecutive spans do not end before the first one starts. -/
theorem Consecutive.ordered_upTo (h : Consecutive (s :: spans))
    (hlast : last ∈ (s :: spans).getLast?) : (s.upTo last).Ordered := by
  induction spans generalizing s with
  | nil =>
    obtain rfl : s = last := by simpa using hlast
    exact h.ordered s List.mem_cons_self
  | cons s' spans ih =>
    obtain ⟨b, hb, hs'⟩ := (List.isChain_cons_cons.1 h.adjacent).1
    have htail : (s'.upTo last).Ordered := ih h.tail (by rwa [List.getLast?_cons_cons] at hlast)
    intro a ha c hc
    calc a ≤ b + 1 := h.ordered s List.mem_cons_self a ha b hb
      _ ≤ c + 1 := htail (b + 1) hs' c hc

/-- A quantity of spans that adds up over consecutive ones. -/
structure Additive [Add M] [Zero M] (F : Span ι → M) : Prop where
  sum_eq : ∀ {spans : List (Span ι)} {first last : Span ι}, Consecutive spans →
    first ∈ spans.head? → last ∈ spans.getLast? → F (first.upTo last) = (spans.map F).sum

/-- The sum of two additive figures is additive. -/
theorem Additive.add [AddCommMonoid M] {F G : Span ι → M} (hF : Additive F) (hG : Additive G) :
    Additive fun s => F s + G s := by
  constructor
  intro spans first last h hfirst hlast
  show F (first.upTo last) + G (first.upTo last) = (spans.map fun s => F s + G s).sum
  rw [hF.sum_eq h hfirst hlast, hG.sum_eq h hfirst hlast, List.sum_map_add]

/-- So is their difference. -/
theorem Additive.sub [AddCommGroup M] {F G : Span ι → M} (hF : Additive F) (hG : Additive G) :
    Additive fun s => F s - G s := by
  constructor
  intro spans first last h hfirst hlast
  show F (first.upTo last) - G (first.upTo last) = (spans.map fun s => F s - G s).sum
  rw [hF.sum_eq h hfirst hlast, hG.sum_eq h hfirst hlast, sub_eq_iff_eq_add, ← List.sum_map_add]
  simp only [sub_add_cancel]

variable [SuccAddOrder ι] [NoMaxOrder ι]

/-- A moment between the start of `s` and the end of `last` is in `s` or after it. -/
theorem Adjacent.contains_upTo (h : s.Adjacent s') (hs : s.Ordered) (hlast : (s'.upTo last).Ordered)
    (t : ι) : (s.upTo last).Contains t ↔ s.Contains t ∨ (s'.upTo last).Contains t := by
  obtain ⟨b, hb, hs'⟩ := h
  constructor
  · rintro ⟨hstart, hstop⟩
    rcases le_or_gt t b with ht | ht
    · exact .inl ⟨hstart, by simpa [hb] using ht⟩
    · have ht : b + 1 ≤ t := Order.add_one_le_iff.2 ht
      exact .inr ⟨by simpa [upTo, hs'] using ht, hstop⟩
  · rintro (⟨hstart, hstop⟩ | ⟨hstart, hstop⟩)
    · refine ⟨hstart, fun c hc => ?_⟩
      have htb : t ≤ b := hstop b hb
      have hbc : b + 1 ≤ c + 1 := hlast (b + 1) hs' c hc
      exact htb.trans (Order.lt_add_one_iff.1 (Order.add_one_le_iff.1 hbc))
    · refine ⟨fun a ha => ?_, hstop⟩
      exact (hs a ha b hb).trans (hstart (b + 1) hs')

/-- No moment is in two adjacent spans. -/
theorem Adjacent.not_contains (h : s.Adjacent s') {t : ι} (ht : s.Contains t) :
    ¬(s'.upTo last).Contains t := by
  obtain ⟨b, hb, hs'⟩ := h
  intro ht'
  have hlt : b < t := Order.add_one_le_iff.1 (ht'.1 (b + 1) hs')
  exact absurd (ht.2 b hb) (not_le.2 hlt)

/-- **A sum over a stretch of time is the sum of the sums over consecutive spans of it.**
Every row is counted in exactly one span, also at the cuts. -/
theorem Consecutive.sum_contains [AddCommMonoid M] (moment : α → ι) (f : α → M) (l : List α)
    (h : Consecutive (s :: spans)) (hlast : last ∈ (s :: spans).getLast?) :
    ((l.filter fun r => (s.upTo last).Contains (moment r)).map f).sum =
      ((s :: spans).map fun o => ((l.filter fun r => o.Contains (moment r)).map f).sum).sum := by
  induction spans generalizing s with
  | nil =>
    obtain rfl : s = last := by simpa using hlast
    rw [List.map_singleton, List.sum_singleton, s.upTo_self]
  | cons s' spans ih =>
    have hadj : s.Adjacent s' := (List.isChain_cons_cons.1 h.adjacent).1
    have hlast' : last ∈ (s' :: spans).getLast? := by rwa [List.getLast?_cons_cons] at hlast
    have hsplit : ∀ r, (s.upTo last).Contains (moment r) ↔
        s.Contains (moment r) ∨ (s'.upTo last).Contains (moment r) := fun r =>
      hadj.contains_upTo (h.ordered s List.mem_cons_self) (h.tail.ordered_upTo hlast') (moment r)
    rw [List.map_cons, List.sum_cons, ← ih h.tail hlast',
      ← sum_filter_or f fun r _ hr => hadj.not_contains hr]
    simp only [hsplit]

/-- What the rows of a span amount to is additive. -/
theorem additive_sum [AddCommMonoid M] (moment : α → ι) (f : α → M) (l : List α) :
    Additive fun s : Span ι => ((l.filter fun r => s.Contains (moment r)).map f).sum := by
  constructor
  intro spans first last h hfirst hlast
  cases spans with
  | nil => exact absurd hfirst (by simp)
  | cons s spans =>
    obtain rfl : s = first := by simpa using hfirst
    exact h.sum_contains moment f l hlast

end Span

end Store
