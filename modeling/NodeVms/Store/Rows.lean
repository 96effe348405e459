/-
# Tables as lists of rows

A table is the list of its rows in insertion order.  `updateWhere` is an
`UPDATE … WHERE`, `List.filter` a `DELETE`, `· ++ [r]` an `INSERT`.

`Touched` names the rows a statement has created, changed or removed, a changed
row by its old and by its new version.
-/

import Mathlib.Data.List.Nodup
import Mathlib.Tactic.Common

namespace Store

variable {α κ : Type}

/-- `UPDATE` every row that satisfies `p`. -/
def updateWhere (p : α → Bool) (f : α → α) (l : List α) : List α :=
  l.map fun r => if p r then f r else r

section Update

variable {p : α → Bool} {f : α → α} {l : List α} {r : α}

/-- A row of the new table is an old one that does not match, or a changed one. -/
theorem mem_updateWhere :
    r ∈ updateWhere p f l ↔ (r ∈ l ∧ p r = false) ∨ ∃ o ∈ l, p o ∧ r = f o := by
  simp only [updateWhere, List.mem_map]
  constructor
  · rintro ⟨o, ho, rfl⟩
    by_cases hp : p o
    · exact .inr ⟨o, ho, hp, by simp [hp]⟩
    · exact .inl (by simp [hp, ho])
  · rintro (⟨hr, hp⟩ | ⟨o, ho, hp, rfl⟩)
    · exact ⟨r, hr, by simp [hp]⟩
    · exact ⟨o, ho, by simp [hp]⟩

/-- An update keeps every column it does not write. -/
theorem map_updateWhere (g : α → κ) (hg : ∀ o ∈ l, p o → g (f o) = g o) :
    (updateWhere p f l).map g = l.map g := by
  simp only [updateWhere, List.map_map]
  refine List.map_congr_left fun o ho => ?_
  by_cases hp : p o
  · simp [hp, hg o ho hp]
  · simp [hp]

/-- What holds of every row still does when the update keeps it. -/
theorem forall_updateWhere {P : α → Prop} (hl : ∀ o ∈ l, P o) (hf : ∀ o ∈ l, p o → P o → P (f o)) :
    ∀ r ∈ updateWhere p f l, P r := by
  intro r hr
  rcases mem_updateWhere.1 hr with ⟨hr, -⟩ | ⟨o, ho, hp, rfl⟩
  · exact hl r hr
  · exact hf o ho hp (hl o ho)

/-- A row with a property the update keeps has a successor with it. -/
theorem exists_updateWhere {Q : α → Prop} (hf : ∀ o ∈ l, p o → Q o → Q (f o))
    (h : ∃ o ∈ l, Q o) : ∃ r ∈ updateWhere p f l, Q r := by
  obtain ⟨o, ho, hQ⟩ := h
  refine ⟨if p o then f o else o, List.mem_map.2 ⟨o, ho, rfl⟩, ?_⟩
  by_cases hp : p o
  · simpa [hp] using hf o ho hp hQ
  · simpa [hp] using hQ

/-- A lookup by columns the update does not write finds the row it found before, updated. -/
theorem find?_updateWhere {q : α → Bool} (hq : ∀ o, q (f o) = q o) :
    (updateWhere p f l).find? q = (l.find? q).map fun r => if p r then f r else r := by
  have hcomp : (q ∘ fun r => if p r then f r else r) = q := by
    funext r
    by_cases hp : p r <;> simp [hp, hq]
  rw [updateWhere, List.find?_map, hcomp]

end Update

/-- The row a query returns is in the table and satisfies its filter. -/
theorem mem_of_find? {p : α → Bool} {l : List α} {r : α} (h : l.find? p = some r) :
    r ∈ l ∧ p r = true :=
  ⟨List.mem_of_find?_eq_some h, List.find?_some h⟩

/-- With distinct keys, the row a lookup by key returns is the only one. -/
theorem eq_of_key_eq {key : α → κ} {l : List α} (hl : (l.map key).Nodup) {r r' : α}
    (hr : r ∈ l) (hr' : r' ∈ l) (h : key r = key r') : r = r' :=
  List.inj_on_of_nodup_map hl hr hr' h

/-- The same for a key that not every row has. -/
theorem eq_of_filterMap_nodup {key : α → Option κ} {l : List α} (hl : (l.filterMap key).Nodup)
    {r r' : α} (hr : r ∈ l) (hr' : r' ∈ l) {k : κ} (h : key r = some k) (h' : key r' = some k) :
    r = r' := by
  induction l with
  | nil => exact absurd hr List.not_mem_nil
  | cons a l ih =>
    have hnot : key a = some k → ∀ o ∈ l, key o ≠ some k := by
      intro ha o ho hk
      rw [List.filterMap_cons_some ha, List.nodup_cons] at hl
      exact hl.1 (List.mem_filterMap.2 ⟨o, ho, hk⟩)
    rcases List.mem_cons.1 hr with rfl | hrl
    · rcases List.mem_cons.1 hr' with rfl | hrl'
      · rfl
      · exact absurd h' (hnot h r' hrl')
    · rcases List.mem_cons.1 hr' with rfl | hrl'
      · exact absurd h (hnot h' r hrl)
      · exact ih (hl.sublist ((List.sublist_cons_self a l).filterMap key)) hrl hrl'

/-- A lookup that fixes the key finds a row exactly if the row is there and matches. -/
theorem find?_key_eq_some {key : α → κ} {l : List α} (hl : (l.map key).Nodup) {p : α → Bool}
    {k : κ} (hp : ∀ o, p o = true → key o = k) {r : α} :
    l.find? p = some r ↔ r ∈ l ∧ p r = true := by
  refine ⟨mem_of_find?, fun ⟨hr, hpr⟩ => ?_⟩
  obtain ⟨o, ho⟩ : ∃ o, l.find? p = some o := by
    rw [← Option.isSome_iff_exists, List.find?_isSome]
    exact ⟨r, hr, hpr⟩
  obtain ⟨hol, hpo⟩ := mem_of_find? ho
  rw [ho, eq_of_key_eq hl hol hr ((hp o hpo).trans (hp r hpr).symm)]

/-- How a query without an order chooses among the rows that match. -/
structure Pick (α : Type) where
  choose : List α → Option α
  mem : ∀ {l r}, choose l = some r → r ∈ l
  eq_nil : ∀ {l}, choose l = none → l = []

/-- The first row in insertion order. -/
def Pick.first : Pick α where
  choose := List.head?
  mem := List.mem_of_head?
  eq_nil := List.head?_eq_none_iff.1

/-- A row with the property, where there is one. -/
def Pick.prefer (p : α → Bool) : Pick α where
  choose l := (l.find? p).or l.head?
  mem := fun {l r} h => by
    rcases Option.or_eq_some_iff.1 h with h | ⟨-, h⟩
    · exact (mem_of_find? h).1
    · exact List.mem_of_head? h
  eq_nil := fun h => List.head?_eq_none_iff.1 (Option.or_eq_none_iff.1 h).2

/-- The only row with the property is preferred. -/
theorem Pick.prefer_eq_some {p : α → Bool} {l : List α} {r : α} (hr : r ∈ l) (hp : p r = true)
    (hl : ∀ o ∈ l, p o = true → o = r) : (Pick.prefer p).choose l = some r := by
  have hfind : l.find? p = some r := by
    cases h : l.find? p with
    | none => exact absurd hp (by simpa using List.find?_eq_none.1 h r hr)
    | some o =>
      obtain ⟨ho, hpo⟩ := mem_of_find? h
      rw [hl o ho hpo]
  exact Option.or_eq_some_iff.2 (.inl hfind)

/-- From a list with one row, that row is chosen. -/
theorem Pick.choose_eq_some (pick : Pick α) {l : List α} {r : α} (hr : r ∈ l)
    (hl : ∀ o ∈ l, o = r) : pick.choose l = some r := by
  cases h : pick.choose l with
  | none =>
    rw [pick.eq_nil h] at hr
    exact absurd hr List.not_mem_nil
  | some o => rw [hl o (pick.mem h)]

/-! ### Changes -/

/-- `r` was created, changed or removed between `l` and `l'`. -/
def Touched (l l' : List α) (r : α) : Prop := (r ∈ l' ∧ r ∉ l) ∨ (r ∈ l ∧ r ∉ l')

namespace Touched

variable {l : List α} {r : α}

/-- An insert touches the new rows. -/
theorem of_append {rs : List α} (h : Touched l (l ++ rs) r) : r ∈ rs := by
  rcases h with ⟨h', h⟩ | ⟨h, h'⟩
  · exact (List.mem_append.1 h').resolve_left h
  · exact absurd (List.mem_append_left _ h) h'

/-- An update touches selected rows, in their old and their new version. -/
theorem of_update {p : α → Bool} {f : α → α} (h : Touched l (updateWhere p f l) r) :
    ∃ o ∈ l, p o ∧ (r = o ∨ r = f o) := by
  rcases h with ⟨h', h⟩ | ⟨h, h'⟩
  · rcases mem_updateWhere.1 h' with ⟨hr, -⟩ | ⟨o, ho, hp, rfl⟩
    · exact absurd hr h
    · exact ⟨o, ho, hp, .inr rfl⟩
  · refine ⟨r, h, ?_, .inl rfl⟩
    by_contra hp
    exact h' (mem_updateWhere.2 (.inl ⟨h, by simpa using hp⟩))

/-- An update of the rows of one owner that leaves them to the owner. -/
theorem owner_of_update {p : α → Bool} {f : α → α} {g : α → κ} {k : κ}
    (hg : ∀ o ∈ l, p o → g o = k) (hf : ∀ o, g (f o) = g o)
    (h : Touched l (updateWhere p f l) r) : g r = k := by
  obtain ⟨o, ho, hp, rfl | rfl⟩ := h.of_update
  · exact hg r ho hp
  · rw [hf, hg o ho hp]

/-- A delete touches the rows it removes. -/
theorem of_filter {q : α → Bool} (h : Touched l (l.filter q) r) : r ∈ l ∧ q r = false := by
  rcases h with ⟨h', h⟩ | ⟨h, h'⟩
  · exact absurd (List.mem_filter.1 h').1 h
  · exact ⟨h, by simpa [List.mem_filter, h] using h'⟩

/-- When all that is touched belongs to `k`, a row keeps its owner. -/
theorem owner_eq {κ' : Type} {key : α → κ} {g : α → κ'} {k : κ'} (hl : (l.map key).Nodup)
    (hl' : (l'.map key).Nodup) (hg : ∀ r, Touched l l' r → g r = k) {r' : α} (hr : r ∈ l)
    (hr' : r' ∈ l') (hk : key r' = key r) : g r' = g r := by
  by_cases hold : r' ∈ l
  · rw [eq_of_key_eq hl hold hr hk]
  · by_cases hnew : r ∈ l'
    · rw [eq_of_key_eq hl' hr' hnew hk]
    · rw [hg r' (.inl ⟨hr', hold⟩), hg r (.inr ⟨hr, hnew⟩)]

end Touched

end Store
