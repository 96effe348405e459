/-
# Tables that only grow

Where no row is ever deleted, the rows of a table stay where they are: after any
number of inserts and updates the old rows still come first, in their order and
each in a later version.  `Grows Q l l'` says so, `Q` being what links a row to
its later versions; with `Q` a preorder it is one too, so that what one statement
does (`grows_append`, `grows_updateWhere`) a whole run does (`Along.related`).

`Grows.filter_eq` turns a statement about membership into one about the lists:
the rows of a kind that are neither created nor changed are the same rows in the
same order.
-/

import NodeVms.Store.Rows
import NodeVms.Store.Runs

namespace Store

variable {α κ : Type} {Q : α → α → Prop} {l l' l'' : List α}

/-- `l'` holds a later version of every row of `l`, in its place, and new rows after them. -/
inductive Grows (Q : α → α → Prop) : List α → List α → Prop
  | nil (new : List α) : Grows Q [] new
  | cons {a b : α} {l l' : List α} (head : Q a b) (tail : Grows Q l l') : Grows Q (a :: l) (b :: l')

/-- An insert leaves the old rows as they are. -/
theorem grows_append (hQ : ∀ a, Q a a) (l new : List α) : Grows Q l (l ++ new) := by
  induction l with
  | nil => exact .nil new
  | cons a l ih => exact .cons (hQ a) ih

/-- A list that stays grows by nothing. -/
theorem Grows.refl (hQ : ∀ a, Q a a) (l : List α) : Grows Q l l := by
  have h := grows_append hQ l []
  rwa [List.append_nil] at h

/-- Growing twice is growing. -/
theorem Grows.trans (hQ : ∀ a b c, Q a b → Q b c → Q a c) (h : Grows Q l l')
    (h' : Grows Q l' l'') : Grows Q l l'' := by
  induction h generalizing l'' with
  | nil _ => exact .nil l''
  | cons hab _ ih =>
    cases h' with
    | cons hbc h' => exact .cons (hQ _ _ _ hab hbc) (ih h')

/-- An update replaces rows by later versions. -/
theorem grows_updateWhere {p : α → Bool} {f : α → α} (hQ : ∀ a, Q a a)
    (hf : ∀ o ∈ l, p o → Q o (f o)) : Grows Q l (updateWhere p f l) := by
  induction l with
  | nil => exact .nil []
  | cons a l ih =>
    obtain ⟨ha, hl⟩ := List.forall_mem_cons.1 hf
    refine .cons ?_ (ih hl)
    by_cases hp : p a
    · simpa [hp] using ha hp
    · simpa [hp] using hQ a

/-- Every row has a later version. -/
theorem Grows.exists_of_mem (h : Grows Q l l') {r : α} (hr : r ∈ l) : ∃ r' ∈ l', Q r r' := by
  induction h with
  | nil _ => exact absurd hr List.not_mem_nil
  | @cons a b l l' hab _ ih =>
    rcases List.mem_cons.1 hr with rfl | hr
    · exact ⟨b, List.mem_cons_self, hab⟩
    · obtain ⟨r', hr', hq⟩ := ih hr
      exact ⟨r', List.mem_cons_of_mem _ hr', hq⟩

/-- A column no update writes only grows at its end. -/
theorem Grows.map_prefix {key : α → κ} (h : Grows Q l l') (hQ : ∀ a b, Q a b → key b = key a) :
    l.map key <+: l'.map key := by
  induction h with
  | nil new => exact List.nil_prefix
  | cons hab _ ih =>
    rw [List.map_cons, List.map_cons, hQ _ _ hab]
    exact (List.prefix_cons_inj _).2 ih

/-- When no row changes, the table has the old one as its beginning. -/
theorem grows_eq_iff : Grows Eq l l' ↔ l <+: l' := by
  constructor
  · intro h
    have hid : l.map id <+: l'.map id := h.map_prefix fun _ _ hab => hab.symm
    rwa [List.map_id, List.map_id] at hid
  · rintro ⟨new, rfl⟩
    exact grows_append (fun _ => rfl) l new

/-- Rows of a kind that are neither created nor changed are the same ones in the
same order. -/
theorem Grows.filter_eq {key : α → κ} {q : α → Bool} (h : Grows Q l l')
    (hQ : ∀ a b, Q a b → key b = key a) (hl' : (l'.map key).Nodup)
    (hsame : ∀ r, q r = true → (r ∈ l' ↔ r ∈ l)) : l'.filter q = l.filter q := by
  induction h with
  | nil new =>
    refine List.filter_eq_nil_iff.2 fun r hr hq => ?_
    exact absurd ((hsame r hq).1 hr) List.not_mem_nil
  | @cons a b l l' hab htail ih =>
    have hkey : key b = key a := hQ a b hab
    have hkeys : l.map key <+: l'.map key := htail.map_prefix hQ
    obtain ⟨hb, hnodup⟩ := List.nodup_cons.1 (List.map_cons ▸ hl')
    have hal : key a ∉ l.map key := fun ha => hb (hkey ▸ hkeys.subset ha)
    -- the first row keeps its key, so of the kind it is only as it was
    have hhead : q a = true ∨ q b = true → b = a := by
      rintro (hq | hq)
      · rcases List.mem_cons.1 ((hsame a hq).2 List.mem_cons_self) with ha | ha
        · exact ha.symm
        · exact absurd (hkey ▸ List.mem_map_of_mem ha) hb
      · rcases List.mem_cons.1 ((hsame b hq).1 List.mem_cons_self) with hba | hbl
        · exact hba
        · exact absurd (hkey ▸ List.mem_map_of_mem hbl) hal
    have hrest : l'.filter q = l.filter q := by
      refine ih hnodup fun r hq => ⟨fun hr => ?_, fun hr => ?_⟩
      · rcases List.mem_cons.1 ((hsame r hq).1 (List.mem_cons_of_mem _ hr)) with rfl | hrl
        · exact absurd (hkey ▸ List.mem_map_of_mem hr) hb
        · exact hrl
      · rcases List.mem_cons.1 ((hsame r hq).2 (List.mem_cons_of_mem _ hr)) with rfl | hrl'
        · exact absurd (hkey ▸ List.mem_map_of_mem hr) hal
        · exact hrl'
    by_cases hq : q a = true ∨ q b = true
    · rw [hhead hq, List.filter_cons, List.filter_cons, hrest]
    · have hqa : ¬q a = true := fun h => hq (.inl h)
      have hqb : ¬q b = true := fun h => hq (.inr h)
      rw [List.filter_cons_of_neg hqa, List.filter_cons_of_neg hqb, hrest]

/-- A preorder that links each state of a run to the next links the first one to
the last. -/
theorem Along.related {R S : Type} {step : R → S → S} {E : S → S → Prop} (hrefl : ∀ s, E s s)
    (htrans : ∀ s s' s'', E s s' → E s' s'' → E s s'') {rs : List R} {s : S}
    (h : Along step (fun r s => E s (step r s)) rs s) : E s (run step rs s) := by
  induction rs generalizing s with
  | nil => exact hrefl s
  | cons r rs ih => exact htrans _ _ _ h.1 (ih h.2)

/-- What links every state to the next is met along every run. -/
theorem Along.of_forall {R S : Type} {step : R → S → S} {P : R → S → Prop} (hP : ∀ r s, P r s)
    (rs : List R) (s : S) : Along step P rs s := by
  induction rs generalizing s with
  | nil => trivial
  | cons r rs ih => exact ⟨hP r s, ih _⟩

end Store
