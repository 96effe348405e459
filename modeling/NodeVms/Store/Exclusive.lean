/-
# Rows that exclude each other

A schedule is a table in which no two rows clash: two bookings of one vehicle
over the same hours, two open trips of one driver.  `Exclusive C l` says that no
two rows of `l` stand in the relation `C`; an insert keeps it exactly if the new
row clashes with none, an update of one row exactly if its new version clashes
with none of the others.
-/

import NodeVms.Store.Rows

namespace Store

variable {α κ : Type} {C : α → α → Prop} {l : List α}

/-- No two rows of the table clash. -/
def Exclusive (C : α → α → Prop) (l : List α) : Prop :=
  ∀ a ∈ l, ∀ b ∈ l, a ≠ b → ¬C a b

/-- An empty table has no clash. -/
theorem exclusive_nil : Exclusive C [] := by
  intro a ha
  exact absurd ha List.not_mem_nil

/-- A new row keeps the schedule exactly if it clashes with no old one. -/
theorem exclusive_append_singleton (hsymm : ∀ a b, C a b → C b a) {r : α} (hr : r ∉ l) :
    Exclusive C (l ++ [r]) ↔ Exclusive C l ∧ ∀ a ∈ l, ¬C a r := by
  constructor
  · intro h
    refine ⟨fun a ha b hb => ?_, fun a ha => ?_⟩
    · exact h a (List.mem_append_left _ ha) b (List.mem_append_left _ hb)
    · have hne : a ≠ r := by
        rintro rfl
        exact hr ha
      exact h a (List.mem_append_left _ ha) r (List.mem_append_right _ (List.mem_singleton_self r))
        hne
  · rintro ⟨hl, hnew⟩ a ha b hb hne
    rcases List.mem_append.1 ha with ha | ha
    · rcases List.mem_append.1 hb with hb | hb
      · exact hl a ha b hb hne
      · rw [List.mem_singleton.1 hb]
        exact hnew a ha
    · rw [List.mem_singleton.1 ha] at hne ⊢
      rcases List.mem_append.1 hb with hb | hb
      · exact fun h => hnew b hb (hsymm r b h)
      · exact absurd (List.mem_singleton.1 hb).symm hne

section Update

variable [DecidableEq κ] {key : α → κ} {k : κ} {f : α → α} {o : α}

/-- The row with key `k` is the one that changes. -/
theorem mem_updateWhere_key (hl : (l.map key).Nodup) (ho : o ∈ l) (hk : key o = k) {r : α} :
    r ∈ updateWhere (fun r => key r = k) f l ↔ (r ∈ l ∧ key r ≠ k) ∨ r = f o := by
  rw [mem_updateWhere]
  constructor
  · rintro (⟨hr, hp⟩ | ⟨r', hr', hp, rfl⟩)
    · exact .inl ⟨hr, of_decide_eq_false hp⟩
    · have hr'k : key r' = key o := (of_decide_eq_true hp).trans hk.symm
      rw [eq_of_key_eq hl hr' ho hr'k]
      exact .inr rfl
  · rintro (⟨hr, hp⟩ | rfl)
    · exact .inl ⟨hr, decide_eq_false hp⟩
    · exact .inr ⟨o, ho, decide_eq_true hk, rfl⟩

/-- A changed row keeps the schedule exactly if its new version clashes with
none of the others. -/
theorem exclusive_updateWhere_key (hsymm : ∀ a b, C a b → C b a) (hl : (l.map key).Nodup)
    (ho : o ∈ l) (hk : key o = k) (hf : key (f o) = k) (h : Exclusive C l) :
    Exclusive C (updateWhere (fun r => key r = k) f l) ↔ ∀ a ∈ l, key a ≠ k → ¬C a (f o) := by
  constructor
  · intro h' a ha hak
    have hne : a ≠ f o := by
      rintro rfl
      exact hak hf
    exact h' a ((mem_updateWhere_key hl ho hk).2 (.inl ⟨ha, hak⟩)) (f o)
      ((mem_updateWhere_key hl ho hk).2 (.inr rfl)) hne
  · intro hnew a ha b hb hne
    rcases (mem_updateWhere_key hl ho hk).1 ha with ⟨ha, hak⟩ | rfl
    · rcases (mem_updateWhere_key hl ho hk).1 hb with ⟨hb, -⟩ | rfl
      · exact h a ha b hb hne
      · exact hnew a ha hak
    · rcases (mem_updateWhere_key hl ho hk).1 hb with ⟨hb, hbk⟩ | rfl
      · exact fun hC => hnew b hb hbk (hsymm _ _ hC)
      · exact absurd rfl hne

/-- A change after which the row clashes with no more than before. -/
theorem Exclusive.updateWhere_key (h : Exclusive C l) (hsymm : ∀ a b, C a b → C b a)
    (hl : (l.map key).Nodup) (ho : o ∈ l) (hk : key o = k) (hf : key (f o) = k)
    (hC : ∀ a, C a (f o) → C a o) : Exclusive C (updateWhere (fun r => key r = k) f l) := by
  refine (exclusive_updateWhere_key hsymm hl ho hk hf h).2 fun a ha hak hclash => ?_
  have hne : a ≠ o := by
    rintro rfl
    exact hak hk
  exact h a ha o ho hne (hC a hclash)

end Update

/-! ### Unique keys -/

section Keys

variable {ν : Type} {key : α → Option κ} {rs : List α} {o : α}

/-- The rows have one key in common, where not every row has a key. -/
def SameKey (key : α → Option κ) (a b : α) : Prop := ∃ k, key a = some k ∧ key b = some k

/-- Which row comes first does not matter. -/
theorem SameKey.symm (a b : α) (h : SameKey key a b) : SameKey key b a := by
  obtain ⟨k, ha, hb⟩ := h
  exact ⟨k, hb, ha⟩

/-- No key occurs twice exactly if no two rows have one in common. -/
theorem nodup_filterMap_iff (hl : l.Nodup) :
    (l.filterMap key).Nodup ↔ Exclusive (SameKey key) l := by
  constructor
  · rintro h a ha b hb hne ⟨k, hak, hbk⟩
    exact hne (eq_of_filterMap_nodup h ha hb hak hbk)
  · intro h
    induction l with
    | nil => exact List.nodup_nil
    | cons a l ih =>
      obtain ⟨hal, hl⟩ := List.nodup_cons.1 hl
      have htail : (l.filterMap key).Nodup :=
        ih hl fun b hb c hc => h b (List.mem_cons_of_mem _ hb) c (List.mem_cons_of_mem _ hc)
      cases hk : key a with
      | none => rwa [List.filterMap_cons_none hk]
      | some k =>
        rw [List.filterMap_cons_some hk, List.nodup_cons]
        refine ⟨fun hmem => ?_, htail⟩
        obtain ⟨b, hb, hbk⟩ := List.mem_filterMap.1 hmem
        have hne : a ≠ b := by
          rintro rfl
          exact hal hb
        exact h a (List.mem_cons_self ..) b (List.mem_cons_of_mem _ hb) hne ⟨k, hk, hbk⟩

/-- An insert repeats no key exactly if no new row has one in common with an old
one, nor with another new one. -/
theorem nodup_filterMap_append :
    ((l ++ rs).filterMap key).Nodup ↔ (l.filterMap key).Nodup ∧ (rs.filterMap key).Nodup ∧
      ∀ a ∈ l, ∀ r ∈ rs, ¬SameKey key a r := by
  rw [List.filterMap_append, List.nodup_append]
  refine and_congr_right fun _ => and_congr_right fun _ => ?_
  constructor
  · rintro h a ha r hr ⟨k, hak, hrk⟩
    exact h k (List.mem_filterMap.2 ⟨a, ha, hak⟩) k (List.mem_filterMap.2 ⟨r, hr, hrk⟩) rfl
  · rintro h k hk k' hk' rfl
    obtain ⟨a, ha, hak⟩ := List.mem_filterMap.1 hk
    obtain ⟨r, hr, hrk⟩ := List.mem_filterMap.1 hk'
    exact h a ha r hr ⟨k, hak, hrk⟩

/-- An update of one row, found by a key `id` it keeps, repeats no key exactly if
the new version has none in common with the other rows. -/
theorem nodup_filterMap_updateWhere [DecidableEq ν] {id : α → ν} {i : ν} {f : α → α}
    (hl : (l.map id).Nodup) (ho : o ∈ l) (hi : id o = i) (hf : ∀ a, id (f a) = id a)
    (h : (l.filterMap key).Nodup) :
    ((updateWhere (fun r => id r = i) f l).filterMap key).Nodup ↔
      ∀ a ∈ l, id a ≠ i → ¬SameKey key a (f o) := by
  have hids : ((updateWhere (fun r => id r = i) f l).map id).Nodup := by
    rwa [map_updateWhere id fun a _ _ => hf a]
  rw [nodup_filterMap_iff (List.Nodup.of_map id hids)]
  exact exclusive_updateWhere_key SameKey.symm hl ho hi ((hf o).trans hi)
    ((nodup_filterMap_iff (List.Nodup.of_map id hl)).1 h)

end Keys

end Store
