/-
# What a unique index lets through

`Model.Indexed m cols` lists the indexed columns of a model.  From it follows,
once for all models, when an insert and when an update by id keep every unique
index of the schema: exactly if no new version of a row shares an indexed value
with another row.
-/

import NodeVms.Database

namespace NodeVms

open Store

variable {α : Type} {m : Model α} {cols : List (α → Option (List String))} {db : Database}

/-- The index holds the values of one column, or of several together. -/
def UniqueIndex.On (ix : UniqueIndex) (m : Model α) (col : α → Option (List String)) : Prop :=
  ∀ t, ix.values t = (m.rows t).filterMap col

/-- The unique indexes of the model are those on `cols`. -/
structure Model.Indexed (m : Model α) (cols : List (α → Option (List String))) : Prop where
  complete : ∀ ix ∈ Schema.uniqueIndexes,
    (∃ col ∈ cols, ix.On m col) ∨ ∀ t l, ix.values (m.set t l) = ix.values t
  indexed : ∀ col ∈ cols, ∃ ix ∈ Schema.uniqueIndexes, ix.On m col

/-- Rewriting a table concerns its own indexes only. -/
theorem Model.Indexed.unique_set_iff (hm : m.Indexed cols) (l : List α) :
    (m.set db.toTables l).Unique ↔ ∀ col ∈ cols, (l.filterMap col).Nodup := by
  constructor
  · intro hu col hcol
    obtain ⟨ix, hix, hon⟩ := hm.indexed col hcol
    have hvalues := hu ix hix
    rwa [hon, m.rows_set] at hvalues
  · intro h ix hix
    rcases hm.complete ix hix with ⟨col, hcol, hon⟩ | hsame
    · rw [hon, m.rows_set]
      exact h col hcol
    · rw [hsame]
      exact db.unique ix hix

/-- No value of an indexed column is repeated. -/
theorem Model.Indexed.nodup (hm : m.Indexed cols) {col : α → Option (List String)}
    (hcol : col ∈ cols) : ((m.rows db.toTables).filterMap col).Nodup := by
  obtain ⟨ix, hix, hon⟩ := hm.indexed col hcol
  have hvalues := db.unique ix hix
  rwa [hon] at hvalues

/-- Two rows with one indexed value are one row. -/
theorem Model.Indexed.eq_of_sameKey (hm : m.Indexed cols) {col : α → Option (List String)}
    (hcol : col ∈ cols) {a b : α} (ha : a ∈ m.rows db.toTables) (hb : b ∈ m.rows db.toTables)
    (h : SameKey col a b) : a = b := by
  obtain ⟨k, hak, hbk⟩ := h
  exact eq_of_filterMap_nodup (hm.nodup hcol) ha hb hak hbk

/-- New rows fit if they repeat no value of each other or of an old row. -/
theorem Model.Indexed.unique_insert_iff (hm : m.Indexed cols) (rs : List α) :
    (m.insert rs db.toTables).Unique ↔ ∀ col ∈ cols, (rs.filterMap col).Nodup ∧
      ∀ a ∈ m.rows db.toTables, ∀ r ∈ rs, ¬SameKey col a r := by
  refine (hm.unique_set_iff _).trans (forall₂_congr fun col hcol => ?_)
  rw [nodup_filterMap_append]
  exact and_iff_right (hm.nodup hcol)

/-- One new row. -/
theorem Model.Indexed.unique_insert_singleton_iff (hm : m.Indexed cols) (r : α) :
    (m.insert [r] db.toTables).Unique ↔
      ∀ col ∈ cols, ∀ a ∈ m.rows db.toTables, ¬SameKey col a r := by
  refine (hm.unique_insert_iff _).trans (forall₂_congr fun col _ => ?_)
  constructor
  · rintro ⟨-, h⟩ a ha
    exact h a ha r (List.mem_singleton_self r)
  · refine fun h => ⟨?_, fun a ha b hb => ?_⟩
    · cases hk : col r with
      | none => rw [List.filterMap_cons_none hk]; exact List.nodup_nil
      | some k => rw [List.filterMap_cons_some hk]; exact List.nodup_singleton k
    · rw [List.mem_singleton.1 hb]
      exact h a ha

/-- A changed row fits if it takes no value of another. -/
theorem Model.Indexed.unique_updateAt_iff [m.Keyed] (hm : m.Indexed cols) {id : String}
    {f : α → α} {o : α} (ho : o ∈ m.rows db.toTables) (hid : (m.id o).val = id)
    (hf : ∀ a, m.id (f a) = m.id a) :
    (m.updateAt id f db.toTables).Unique ↔
      ∀ col ∈ cols, ∀ a ∈ m.rows db.toTables, (m.id a).val ≠ id → ¬SameKey col a (f o) := by
  refine (hm.unique_set_iff _).trans (forall₂_congr fun col hcol => ?_)
  exact nodup_filterMap_updateWhere (db.nodup_key m) ho hid
    (fun a => congrArg Cuid.val (hf a)) (hm.nodup hcol)

/-- An update that keeps the indexed values of the row it changes. -/
theorem Model.Indexed.unique_updateAt_of_keys [m.Keyed] (hm : m.Indexed cols) {id : String}
    {f : α → α} {o : α} (ho : o ∈ m.rows db.toTables) (hid : (m.id o).val = id)
    (hf : ∀ a, m.id (f a) = m.id a) (hkeys : ∀ col ∈ cols, col (f o) = col o) :
    (m.updateAt id f db.toTables).Unique := by
  refine (hm.unique_updateAt_iff ho hid hf).2 fun col hcol a ha hne h => ?_
  have hsame : SameKey col a o := by
    rwa [SameKey, hkeys col hcol] at h
  exact hne ((hm.eq_of_sameKey hcol ha ho hsame) ▸ hid)

/-- Fewer rows always fit. -/
theorem Model.Indexed.unique_delete (hm : m.Indexed cols) (p : α → Bool) :
    (m.delete p db.toTables).Unique := by
  refine (hm.unique_set_iff _).2 fun col hcol => ?_
  exact (hm.nodup hcol).sublist (List.filter_sublist.filterMap col)

/-- The foreign keys after a write whose new references refer to rows that are there. -/
theorem Tables.Resolved.grow {t t' : Tables} (h : t.Resolved)
    (hkeys : ∀ fk ∈ Schema.foreignKeys, ∀ k ∈ fk.keys t, k ∈ fk.keys t')
    (hrefs : ∀ fk ∈ Schema.foreignKeys, ∀ k ∈ fk.refs t', k ∈ fk.refs t ∨ k ∈ fk.keys t) :
    t'.Resolved := by
  intro fk hfk k hk
  rcases hrefs fk hfk k hk with hold | hthere
  · exact hkeys fk hfk k (h fk hfk k hold)
  · exact hkeys fk hfk k hthere

/-- What new rows refer to is there. -/
theorem mem_refs_append {col : α → Option String} {l rs : List α} {keys : List String}
    (h : ∀ r ∈ rs, ∀ k, col r = some k → k ∈ keys) :
    ∀ k ∈ (l ++ rs).filterMap col, k ∈ l.filterMap col ∨ k ∈ keys := by
  intro k hk
  rw [List.filterMap_append, List.mem_append] at hk
  refine hk.imp_right fun hk => ?_
  obtain ⟨r, hr, hrk⟩ := List.mem_filterMap.1 hk
  exact h r hr k hrk

/-! ### What a foreign key lets through -/

/-- The foreign keys of the model are on `cols`, each with the keys it may take. -/
structure Model.Refers (m : Model α) (cols : List ((α → Option String) × (Tables → List String))) :
    Prop where
  refs : ∀ fk ∈ Schema.foreignKeys,
    (∃ p ∈ cols, (∀ t, fk.refs t = (m.rows t).filterMap p.1) ∧ fk.keys = p.2) ∨
      ∀ t l, fk.refs (m.set t l) = fk.refs t
  keys : ∀ fk ∈ Schema.foreignKeys, (∀ t, fk.keys t = (m.rows t).map fun r => (m.id r).val) ∨
    ∀ t l, fk.keys (m.set t l) = fk.keys t

/-- New rows that refer to rows that are there. -/
theorem Model.Refers.resolved_insert
    {cols : List ((α → Option String) × (Tables → List String))} (hm : m.Refers cols) {rs : List α}
    (h : ∀ p ∈ cols, ∀ r ∈ rs, ∀ k, p.1 r = some k → k ∈ p.2 db.toTables) :
    (m.insert rs db.toTables).Resolved := by
  refine db.resolved.grow (fun fk hfk k hk => ?_) fun fk hfk k hk => ?_
  · rcases hm.keys fk hfk with hkeys | hsame
    · rw [hkeys] at hk
      rw [hkeys, Model.insert, m.rows_set, List.map_append]
      exact List.mem_append_left _ hk
    · rwa [Model.insert, hsame]
  · rcases hm.refs fk hfk with ⟨p, hp, hrefs, hkeys⟩ | hsame
    · rw [hrefs, Model.insert, m.rows_set] at hk
      rw [hrefs, hkeys]
      exact mem_refs_append (h p hp) k hk
    · rw [Model.insert, hsame] at hk
      exact .inl hk

/-! ### The models -/

/-- An index without `NULL`s. -/
theorem UniqueIndex.on_map (m : Model α) (name : String) (f : α → List String) :
    UniqueIndex.On ⟨name, fun t => (m.rows t).map f⟩ m fun r => some (f r) := by
  intro t
  exact (congrFun (List.filterMap_eq_map (f := f)) _).symm

/-- An index of the schema, as one on the table. -/
theorem UniqueIndex.exists_on (m : Model α) (name : String) {f : α → List String}
    (h : (⟨name, fun t => (m.rows t).map f⟩ : UniqueIndex) ∈ Schema.uniqueIndexes) :
    ∃ ix ∈ Schema.uniqueIndexes, ix.On m fun r => some (f r) :=
  ⟨_, h, UniqueIndex.on_map m name f⟩

/-- Rows that have a value have the same if they agree in it. -/
theorem sameKey_some {κ : Type} {f : α → κ} {a b : α} :
    SameKey (fun r => some (f r)) a b ↔ f a = f b := by
  constructor
  · rintro ⟨k, ha, hb⟩
    exact (Option.some.inj ha).trans (Option.some.inj hb).symm
  · intro h
    exact ⟨f b, congrArg some h, rfl⟩

/-- Rows that may have none have the same if both have it. -/
theorem sameKey_map {f : α → Option String} {a b : α} :
    SameKey (fun r => (f r).map fun k => [k]) a b ↔ ∃ k, f a = some k ∧ f b = some k := by
  constructor
  · rintro ⟨k, ha, hb⟩
    obtain ⟨x, hx, rfl⟩ := Option.map_eq_some_iff.1 ha
    obtain ⟨y, hy, hxy⟩ := Option.map_eq_some_iff.1 hb
    rw [(List.cons.inj hxy).1] at hy
    exact ⟨x, hx, hy⟩
  · rintro ⟨k, ha, hb⟩
    exact ⟨[k], Option.map_eq_some_iff.2 ⟨k, ha, rfl⟩, Option.map_eq_some_iff.2 ⟨k, hb, rfl⟩⟩

/-- Where the key is the only index, rows with new ids can be inserted. -/
theorem Model.Indexed.unique_insert_of_ids (hm : m.Indexed [fun r => some [(m.id r).val]])
    {rs : List α} (hnodup : (rs.map m.id).Nodup)
    (hnew : ∀ a ∈ m.rows db.toTables, ∀ r ∈ rs, m.id a ≠ m.id r) :
    (m.insert rs db.toTables).Unique := by
  refine (hm.unique_insert_iff rs).2 fun col hcol => ?_
  obtain rfl := List.mem_singleton.1 hcol
  constructor
  · have hinj : Function.Injective fun id : Cuid => [id.val] := fun a b h =>
      Cuid.val_injective (List.singleton_inj.1 h)
    have hvalues := hnodup.map hinj
    rw [List.map_map] at hvalues
    rwa [List.filterMap_eq_map']
  · intro a ha r hr h
    exact hnew a ha r hr (Cuid.val_injective (List.singleton_inj.1 (sameKey_some.1 h)))

/-- One such row. -/
theorem Model.Indexed.unique_insert_of_id (hm : m.Indexed [fun r => some [(m.id r).val]]) {r : α}
    (hnew : ∀ a ∈ m.rows db.toTables, m.id a ≠ m.id r) : (m.insert [r] db.toTables).Unique := by
  refine hm.unique_insert_of_ids (List.nodup_singleton _) fun a ha o ho => ?_
  rw [List.mem_singleton.1 ho]
  exact hnew a ha

namespace Schema

open Model UniqueIndex

/-- The key is the only index of the tenants. -/
theorem tenant_indexed : tenant.Indexed [fun t => some [t.id.val]] where
  complete := by
    simp only [uniqueIndexes, List.forall_mem_cons, List.not_mem_nil, false_implies, implies_true,
      and_true]
    and_intros
    all_goals first
      | exact .inr fun _ _ => rfl
      | exact .inl ⟨_, by simp, on_map tenant _ _⟩
  indexed := by
    simp only [List.forall_mem_cons, List.not_mem_nil, false_implies, implies_true, and_true]
    exact exists_on tenant "Tenant_pkey" (by simp [uniqueIndexes, pkey])

/-- Contracts have only their key as well. -/
theorem contract_indexed : contract.Indexed [fun c => some [c.id.val]] where
  complete := by
    simp only [uniqueIndexes, List.forall_mem_cons, List.not_mem_nil, false_implies, implies_true,
      and_true]
    and_intros
    all_goals first
      | exact .inr fun _ _ => rfl
      | exact .inl ⟨_, by simp, on_map contract _ _⟩
  indexed := by
    simp only [List.forall_mem_cons, List.not_mem_nil, false_implies, implies_true, and_true]
    exact exists_on contract "Contract_pkey" (by simp [uniqueIndexes, pkey])

/-- So have alerts. -/
theorem alert_indexed : alert.Indexed [fun a => some [a.id.val]] where
  complete := by
    simp only [uniqueIndexes, List.forall_mem_cons, List.not_mem_nil, false_implies, implies_true,
      and_true]
    and_intros
    all_goals first
      | exact .inr fun _ _ => rfl
      | exact .inl ⟨_, by simp, on_map alert _ _⟩
  indexed := by
    simp only [List.forall_mem_cons, List.not_mem_nil, false_implies, implies_true, and_true]
    exact exists_on alert "Alert_pkey" (by simp [uniqueIndexes, pkey])

/-- So have assignments. -/
theorem assignment_indexed : assignment.Indexed [fun a => some [a.id.val]] where
  complete := by
    simp only [uniqueIndexes, List.forall_mem_cons, List.not_mem_nil, false_implies, implies_true,
      and_true]
    and_intros
    all_goals first
      | exact .inr fun _ _ => rfl
      | exact .inl ⟨_, by simp, on_map assignment _ _⟩
  indexed := by
    simp only [List.forall_mem_cons, List.not_mem_nil, false_implies, implies_true, and_true]
    exact exists_on assignment "Assignment_pkey" (by simp [uniqueIndexes, pkey])

/-- Users have their emails as well. -/
theorem user_indexed : user.Indexed [fun u => some [u.id.val], fun u => some [u.email]] where
  complete := by
    simp only [uniqueIndexes, List.forall_mem_cons, List.not_mem_nil, false_implies, implies_true,
      and_true]
    and_intros
    all_goals first
      | exact .inr fun _ _ => rfl
      | exact .inl ⟨_, by simp, on_map user _ _⟩
  indexed := by
    simp only [List.forall_mem_cons, List.not_mem_nil, false_implies, implies_true, and_true]
    refine ⟨?_, ?_⟩
    · exact exists_on user "User_pkey" (by simp [uniqueIndexes, pkey])
    · exact exists_on user "User_email_key" (by simp [uniqueIndexes])

/-- A user is in a branch once. -/
theorem userBranch_indexed : userBranch.Indexed
    [fun b => some [b.id.val], fun b => some [b.userId, b.branchId]] where
  complete := by
    simp only [uniqueIndexes, List.forall_mem_cons, List.not_mem_nil, false_implies, implies_true,
      and_true]
    and_intros
    all_goals first
      | exact .inr fun _ _ => rfl
      | exact .inl ⟨_, by simp, on_map userBranch _ _⟩
  indexed := by
    simp only [List.forall_mem_cons, List.not_mem_nil, false_implies, implies_true, and_true]
    refine ⟨?_, ?_⟩
    · exact exists_on userBranch "UserBranch_pkey" (by simp [uniqueIndexes, pkey])
    · exact exists_on userBranch "UserBranch_userId_branchId_key" (by simp [uniqueIndexes])

/-- Vehicles have their registration numbers. -/
theorem vehicle_indexed : vehicle.Indexed
    [fun v => some [v.id.val], fun v => some [v.registrationNo]] where
  complete := by
    simp only [uniqueIndexes, List.forall_mem_cons, List.not_mem_nil, false_implies, implies_true,
      and_true]
    and_intros
    all_goals first
      | exact .inr fun _ _ => rfl
      | exact .inl ⟨_, by simp, on_map vehicle _ _⟩
  indexed := by
    simp only [List.forall_mem_cons, List.not_mem_nil, false_implies, implies_true, and_true]
    refine ⟨?_, ?_⟩
    · exact exists_on vehicle "Vehicle_pkey" (by simp [uniqueIndexes, pkey])
    · exact exists_on vehicle "Vehicle_registrationNo_key" (by simp [uniqueIndexes])

/-- An account is linked to one driver. -/
theorem driver_userId_key :
    ⟨"Driver_userId_key", fun t => t.drivers.filterMap fun d => d.userId.map fun u => [u]⟩ ∈
      uniqueIndexes := by
  simp [uniqueIndexes]

/-- Drivers have their accounts, phones and licences. -/
theorem driver_indexed : driver.Indexed
    [fun d => some [d.id.val], fun d => d.userId.map fun u => [u],
     fun d => some [d.phone], fun d => some [d.licenseNo]] where
  complete := by
    simp only [uniqueIndexes, List.forall_mem_cons, List.not_mem_nil, false_implies, implies_true,
      and_true]
    and_intros
    all_goals first
      | exact .inr fun _ _ => rfl
      | exact .inl ⟨_, by simp, on_map driver _ _⟩
      | exact .inl ⟨fun d => d.userId.map fun u => [u], by simp, fun _ => rfl⟩
  indexed := by
    simp only [List.forall_mem_cons, List.not_mem_nil, false_implies, implies_true, and_true]
    refine ⟨?_, ?_, ?_, ?_⟩
    · exact exists_on driver "Driver_pkey" (by simp [uniqueIndexes, pkey])
    · exact ⟨⟨"Driver_userId_key", _⟩, driver_userId_key, fun _ => rfl⟩
    · exact exists_on driver "Driver_phone_key" (by simp [uniqueIndexes])
    · exact exists_on driver "Driver_licenseNo_key" (by simp [uniqueIndexes])

/-- The keys of a table. -/
def idsOf (m : Model α) (t : Tables) : List String := (m.rows t).map fun r => (m.id r).val

/-- The ids of a table are those of its rows. -/
theorem mem_idsOf {t : Tables} {k : String} :
    k ∈ idsOf m t ↔ ∃ r ∈ m.rows t, (m.id r).val = k := by
  rw [idsOf, List.mem_map]

/-- A tenant refers to nothing. -/
theorem tenant_refers : tenant.Refers [] where
  refs := by
    simp only [foreignKeys, List.forall_mem_cons, List.not_mem_nil, false_implies, implies_true,
      and_true]
    and_intros
    all_goals exact .inr fun _ _ => rfl
  keys := by
    simp only [foreignKeys, List.forall_mem_cons, List.not_mem_nil, false_implies, implies_true,
      and_true]
    and_intros
    all_goals first
      | exact .inr fun _ _ => rfl
      | exact .inl fun _ => rfl

/-- A vehicle refers to its tenant and its branch. -/
theorem vehicle_refers : vehicle.Refers
    [(fun v => some v.tenantId, idsOf tenant), (fun v => v.branchId, idsOf branch)] where
  refs := by
    simp only [foreignKeys, List.forall_mem_cons, List.not_mem_nil, false_implies, implies_true,
      and_true]
    and_intros
    all_goals first
      | exact .inr fun _ _ => rfl
      | exact .inl ⟨_, List.mem_cons_self, fun _ => rfl, rfl⟩
      | exact .inl ⟨_, List.mem_cons_of_mem _ List.mem_cons_self, fun _ => rfl, rfl⟩
  keys := by
    simp only [foreignKeys, List.forall_mem_cons, List.not_mem_nil, false_implies, implies_true,
      and_true]
    and_intros
    all_goals first
      | exact .inr fun _ _ => rfl
      | exact .inl fun _ => rfl

/-- A contract refers to its tenant and its vehicle. -/
theorem contract_refers : contract.Refers
    [(fun c => some c.tenantId, idsOf tenant), (fun c => c.vehicleId, idsOf vehicle)] where
  refs := by
    simp only [foreignKeys, List.forall_mem_cons, List.not_mem_nil, false_implies, implies_true,
      and_true]
    and_intros
    all_goals first
      | exact .inr fun _ _ => rfl
      | exact .inl ⟨_, List.mem_cons_self, fun _ => rfl, rfl⟩
      | exact .inl ⟨_, List.mem_cons_of_mem _ List.mem_cons_self, fun _ => rfl, rfl⟩
  keys := by
    simp only [foreignKeys, List.forall_mem_cons, List.not_mem_nil, false_implies, implies_true,
      and_true]
    and_intros
    all_goals exact .inr fun _ _ => rfl

/-- An assignment refers to its vehicle and its driver. -/
theorem assignment_refers : assignment.Refers
    [(fun a => some a.vehicleId, idsOf vehicle), (fun a => some a.driverId, idsOf driver)] where
  refs := by
    simp only [foreignKeys, List.forall_mem_cons, List.not_mem_nil, false_implies, implies_true,
      and_true]
    and_intros
    all_goals first
      | exact .inr fun _ _ => rfl
      | exact .inl ⟨_, List.mem_cons_self, fun _ => rfl, rfl⟩
      | exact .inl ⟨_, List.mem_cons_of_mem _ List.mem_cons_self, fun _ => rfl, rfl⟩
  keys := by
    simp only [foreignKeys, List.forall_mem_cons, List.not_mem_nil, false_implies, implies_true,
      and_true]
    and_intros
    all_goals exact .inr fun _ _ => rfl

/-- An alert refers to its tenant. -/
theorem alert_refers : alert.Refers [(fun a => some a.tenantId, idsOf tenant)] where
  refs := by
    simp only [foreignKeys, List.forall_mem_cons, List.not_mem_nil, false_implies, implies_true,
      and_true]
    and_intros
    all_goals first
      | exact .inr fun _ _ => rfl
      | exact .inl ⟨_, List.mem_cons_self, fun _ => rfl, rfl⟩
  keys := by
    simp only [foreignKeys, List.forall_mem_cons, List.not_mem_nil, false_implies, implies_true,
      and_true]
    and_intros
    all_goals exact .inr fun _ _ => rfl

end Schema

end NodeVms
