/-
# Users and branches stay in the tenant

From closed tables, a request of tenant `T` keeps the references closed and
touches rows of `T` only.  A row that is written by bare id was found in the
tenant before; a row that is written through a foreign key is in the tenant
because the references are closed.

The first two sections serve the other services too.
-/

import NodeVms.Tenancy.Ownership

namespace NodeVms

open Store

variable {env : Env} {T : String} {db : Database}

/-- A rejected request is permitted; so only the successful ones matter. -/
theorem next_permitted {α : Type} {h : Query (Transaction α)} (hc : TenantClosed db.toTables)
    (hok : ∀ a db', h.exec db = .ok (a, db') → Permitted T db.toTables db'.toTables) :
    Permitted T db.toTables (h.next db).toTables :=
  Script.next_induct (P := fun db' : Database => Permitted T db.toTables db'.toTables)
    (.refl hc) hok

/-! ### Rows found by id -/

section Found

variable {id : String}

/-- A live vehicle of the tenant is one of its vehicles. -/
theorem LiveVehicle.own {t : Tables} (h : LiveVehicle t T id) : OwnVehicle t T id := by
  obtain ⟨v, hv, hid, ht, -⟩ := h
  exact ⟨v, hv, hid, ht⟩

/-- A live driver of the tenant is one of its drivers. -/
theorem LiveDriver.own {t : Tables} (h : LiveDriver t T id) : OwnDriver t T id := by
  obtain ⟨d, hd, hid, ht, -⟩ := h
  exact ⟨d, hd, hid, ht⟩

/-- An id names vehicles of one tenant only. -/
theorem OwnVehicle.tenant_of_id (h : OwnVehicle db.toTables T id) {v : Vehicle}
    (hv : v ∈ db.vehicles) (hid : v.id.val = id) : v.tenantId = T := by
  obtain ⟨o, ho, hoid, ht⟩ := h
  rw [db.eq_of_id .vehicle hv ho (hid.trans hoid.symm), ht]

/-- A vehicle has one tenant. -/
theorem OwnVehicle.tenant_eq (h : OwnVehicle db.toTables T id) {T' : String}
    (h' : OwnVehicle db.toTables T' id) : T' = T := by
  obtain ⟨v, hv, hid, rfl⟩ := h'
  exact h.tenant_of_id hv hid

/-- The row with the id of a tenant's driver is the tenant's. -/
theorem OwnDriver.tenant_of_id (h : OwnDriver db.toTables T id) {d : Driver}
    (hd : d ∈ db.drivers) (hid : d.id.val = id) : d.tenantId = T := by
  obtain ⟨o, ho, hoid, ht⟩ := h
  rw [db.eq_of_id .driver hd ho (hid.trans hoid.symm), ht]

/-- Likewise for a user. -/
theorem OwnUser.tenant_of_id (h : OwnUser db.toTables T id) {u : User}
    (hu : u ∈ db.users) (hid : u.id.val = id) : u.tenantId = T := by
  obtain ⟨o, ho, hoid, ht⟩ := h
  rw [db.eq_of_id .user hu ho (hid.trans hoid.symm), ht]

/-- Likewise for a branch. -/
theorem LiveBranch.tenant_of_id (h : LiveBranch db.toTables T id) {b : Branch}
    (hb : b ∈ db.branches) (hid : b.id.val = id) : b.tenantId = T := by
  obtain ⟨o, ho, hoid, ht, -⟩ := h
  rw [db.eq_of_id .branch hb ho (hid.trans hoid.symm), ht]

end Found

/-- The row an update by id touches, by its owner. -/
theorem Model.owner_of_updateAt {α : Type} (m : Model α) {t : Tables} {id : String} {f : α → α}
    {g : α → String} {r : α}
    (h : Touched (m.rows t) (updateWhere (fun r => (m.id r).val = id) f (m.rows t)) r)
    (hT : ∀ o ∈ m.rows t, (m.id o).val = id → g o = T) (hf : ∀ o, g (f o) = g o) : g r = T :=
  h.owner_of_update (fun o ho hp => hT o ho (of_decide_eq_true hp)) hf

/-! ### Statements on one's own rows -/

namespace Permitted

variable {t₀ t : Tables} {id : String}

/-- An update of one's own users that keeps their id and tenant; a new branch is
a live one of the tenant. -/
theorem updateUsers (h : Permitted T t₀ t) {p : User → Bool} {f : User → User}
    (hT : ∀ u ∈ t.users, p u → u.tenantId = T)
    (hf : ∀ u, (f u).id = u.id ∧ (f u).tenantId = u.tenantId)
    (hb : ∀ u k, (f u).branchId = some k → u.branchId = some k ∨ LiveBranch t T k) :
    Permitted T t₀ (Model.user.updateAll p f t) := by
  refine h.setUsers ?_ ?_ ?_
  · intro r hr
    exact hr.owner_of_update hT fun u => (hf u).2
  · refine fun _ _ h => exists_updateWhere (fun u _ _ hu => ?_) h
    rwa [(hf u).1, (hf u).2]
  · refine forall_updateWhere h.closed.user_branch fun u hu hp hold k hk => ?_
    rw [(hf u).2]
    rcases hb u k hk with hk | hk
    · exact hold k hk
    · rwa [hT u hu hp]

/-- A user of the tenant is changed, in a live branch of it or where it was. -/
theorem updateUser (h : Permitted T t₀ t) {f : User → User}
    (hT : ∀ u ∈ t.users, u.id.val = id → u.tenantId = T)
    (hf : ∀ u, (f u).id = u.id ∧ (f u).tenantId = u.tenantId)
    (hb : ∀ u k, (f u).branchId = some k → u.branchId = some k ∨ LiveBranch t T k) :
    Permitted T t₀ (Model.user.updateAt id f t) :=
  h.updateUsers (fun u hu hp => hT u hu (of_decide_eq_true hp)) hf hb

/-- A new vehicle of the tenant in a live branch of it or in none. -/
theorem insertVehicle (h : Permitted T t₀ t) {v : Vehicle} (hT : v.tenantId = T)
    (hb : ∀ k, v.branchId = some k → LiveBranch t T k) :
    Permitted T t₀ (Model.vehicle.insert [v] t) := by
  refine h.setVehicles ?_ ?_ ?_
  · intro r hr
    rw [List.mem_singleton.1 hr.of_append, hT]
  · exact fun _ _ ⟨o, ho, hk⟩ => ⟨o, List.mem_append_left _ ho, hk⟩
  · rw [← hT] at hb
    exact List.forall_mem_append.2 ⟨h.closed.vehicle_branch, List.forall_mem_singleton.2 hb⟩

/-- Vehicles of the tenant are changed. -/
theorem updateVehicles (h : Permitted T t₀ t) {p : Vehicle → Bool} {f : Vehicle → Vehicle}
    (hT : ∀ v ∈ t.vehicles, p v → v.tenantId = T)
    (hf : ∀ v, (f v).id = v.id ∧ (f v).tenantId = v.tenantId)
    (hb : ∀ v k, (f v).branchId = some k → v.branchId = some k ∨ LiveBranch t T k) :
    Permitted T t₀ (Model.vehicle.updateAll p f t) := by
  refine h.setVehicles ?_ ?_ ?_
  · intro r hr
    exact hr.owner_of_update hT fun v => (hf v).2
  · refine fun _ _ h => exists_updateWhere (fun v _ _ hv => ?_) h
    rwa [(hf v).1, (hf v).2]
  · refine forall_updateWhere h.closed.vehicle_branch fun v hv hp hold k hk => ?_
    rw [(hf v).2]
    rcases hb v k hk with hk | hk
    · exact hold k hk
    · rwa [hT v hv hp]

/-- One of them is. -/
theorem updateVehicle (h : Permitted T t₀ t) {f : Vehicle → Vehicle}
    (hT : ∀ v ∈ t.vehicles, v.id.val = id → v.tenantId = T)
    (hf : ∀ v, (f v).id = v.id ∧ (f v).tenantId = v.tenantId)
    (hb : ∀ v k, (f v).branchId = some k → v.branchId = some k ∨ LiveBranch t T k) :
    Permitted T t₀ (Model.vehicle.updateAt id f t) :=
  h.updateVehicles (fun v hv hp => hT v hv (of_decide_eq_true hp)) hf hb

/-- Drivers of the tenant are changed, linked to the users they were. -/
theorem updateDrivers (h : Permitted T t₀ t) {p : Driver → Bool} {f : Driver → Driver}
    (hT : ∀ d ∈ t.drivers, p d → d.tenantId = T)
    (hf : ∀ d, (f d).id = d.id ∧ (f d).tenantId = d.tenantId ∧ (f d).userId = d.userId)
    (hb : ∀ d k, (f d).branchId = some k → d.branchId = some k ∨ LiveBranch t T k) :
    Permitted T t₀ (Model.driver.updateAll p f t) := by
  refine h.setDrivers ?_ ?_ ?_ ?_
  · intro r hr
    exact hr.owner_of_update hT fun d => (hf d).2.1
  · refine fun _ _ h => exists_updateWhere (fun d _ _ hd => ?_) h
    rwa [(hf d).1, (hf d).2.1]
  · refine forall_updateWhere h.closed.driver_branch fun d hd hp hold k hk => ?_
    rw [(hf d).2.1]
    rcases hb d k hk with hk | hk
    · exact hold k hk
    · rwa [hT d hd hp]
  · refine forall_updateWhere h.closed.driver_user fun d _ _ hold => ?_
    rwa [(hf d).2.1, (hf d).2.2]

/-- One of them is. -/
theorem updateDriver (h : Permitted T t₀ t) {f : Driver → Driver}
    (hT : ∀ d ∈ t.drivers, d.id.val = id → d.tenantId = T)
    (hf : ∀ d, (f d).id = d.id ∧ (f d).tenantId = d.tenantId ∧ (f d).userId = d.userId)
    (hb : ∀ d k, (f d).branchId = some k → d.branchId = some k ∨ LiveBranch t T k) :
    Permitted T t₀ (Model.driver.updateAt id f t) :=
  h.updateDrivers (fun d hd hp => hT d hd (of_decide_eq_true hp)) hf hb

end Permitted

/-! ### Users -/

/-- New membership rows belong to the tenant and to the user. -/
theorem Users.mem_membershipRows {tenantId userId : String} {ids : List String} {m : UserBranch}
    (h : m ∈ membershipRows env tenantId userId ids) :
    m.tenantId = tenantId ∧ m.userId = userId ∧ m.branchId ∈ ids := by
  obtain ⟨i, hi, rfl⟩ := List.mem_mapIdx.1 h
  exact ⟨rfl, rfl, List.getElem_mem hi⟩

/-- A branch reference a request supplies is live when it is not empty, and the
foreign key keeps empty ones out. -/
theorem liveBranch_of_supplied {f : Field String} {t : Tables}
    (hb : ∀ b, f = .value b → b ≠ "" → LiveBranch t T b) (hne : f.nullish ≠ some "") :
    ∀ k, f.nullish = some k → LiveBranch t T k := by
  intro k hk
  refine hb k (Field.nullish_eq_some.1 hk) ?_
  rintro rfl
  exact hne hk

/-- A new user is the tenant's, and its branches are live ones of it. -/
theorem Users.create_permitted {dto : CreateUserDto} (hc : TenantClosed db.toTables) :
    Permitted T db.toTables ((Users.create env T dto).next db).toTables := by
  refine next_permitted hc fun user db' h => ?_
  obtain ⟨hbs, hb, hu, hw⟩ := create_ok h
  have hT : user.tenantId = T := by rw [hu]
  have hprimary : ∀ k, user.branchId = some k → LiveBranch db.toTables user.tenantId k := by
    have hne : user.branchId ≠ some "" :=
      db'.ref_ne_empty Schema.user_branchId_fkey
        (by rw [hw]; exact List.mem_append_right _ (List.mem_singleton_self _))
    intro k hk
    rw [hT]
    have hk' : dto.branchId.nullish.or dto.memberships.head? = some k := by rw [← hk, hu]
    rcases Option.or_eq_some_iff.1 hk' with hk' | ⟨-, hk'⟩
    · exact hb k (Field.nullish_eq_some.1 hk') (by rintro rfl; exact hne hk)
    · exact hbs k (List.mem_of_head? hk')
  have huser : Permitted T db.toTables (Model.user.insert [user] db.toTables) :=
    (Permitted.refl hc).setUsers (fun u hu => by rw [List.mem_singleton.1 hu.of_append, hT])
      (fun _ _ ⟨u, hu, h⟩ => ⟨u, List.mem_append_left _ hu, h⟩)
      (List.forall_mem_append.2 ⟨hc.user_branch, List.forall_mem_singleton.2 hprimary⟩)
  rw [hw]
  refine huser.setUserBranches (fun m hm => (mem_membershipRows hm.of_append).1)
    (List.forall_mem_append.2 ⟨huser.closed.userBranch_branch, fun m hm => ?_⟩)
    (List.forall_mem_append.2 ⟨huser.closed.userBranch_user, fun m hm => ?_⟩)
  · obtain ⟨ht, -, hk⟩ := mem_membershipRows hm
    rw [ht]
    exact hbs _ hk
  · obtain ⟨ht, hk, -⟩ := mem_membershipRows hm
    exact ⟨user, List.mem_append_right _ (List.mem_singleton_self _), hk.symm, by rw [hT, ht]⟩

/-- An update finds a user of the tenant. -/
theorem Users.update_permitted {id : String} {dto : UpdateUserDto} {currentUser : CurrentUser}
    (hc : TenantClosed db.toTables) :
    Permitted T db.toTables ((Users.update env T id dto currentUser).next db).toTables := by
  refine next_permitted hc fun _ db' h => ?_
  obtain ⟨target, ht, hid, hT, -, -, hb, hbs, t, ht', hw⟩ := update_ok h
  have hown : ∀ u ∈ db.users, u.id.val = id → u.tenantId = T := fun u hu hk =>
    OwnUser.tenant_of_id ⟨target, ht, hid, hT⟩ hu hk
  have huser :
      Permitted T db.toTables (Model.user.updateAt id (dto.apply env.hash) db.toTables) := by
    refine (Permitted.refl hc).updateUser hown (fun _ => ⟨rfl, rfl⟩) fun u k hk => ?_
    rcases Field.setRef_eq_some hk with ⟨hk, hne⟩ | hk
    · exact .inr (hb k hk hne)
    · exact .inl hk
  have hpt : Permitted T db.toTables t ∧ OwnUser t T id ∧ t.branches = db.branches := by
    rcases ht' with ⟨-, rfl⟩ | ⟨-, rfl⟩
    · exact ⟨.refl hc, ⟨target, ht, hid, hT⟩, rfl⟩
    · exact ⟨huser, exists_updateWhere (fun _ _ _ h => h) ⟨target, ht, hid, hT⟩, rfl⟩
  obtain ⟨hpt, hut, hbr⟩ := hpt
  rcases hw with ⟨-, hw⟩ | ⟨branchIds, hids, hw⟩
  · rw [hw]
    exact hpt
  · have hdel : Permitted T db.toTables
        (Model.userBranch.delete (fun b => b.tenantId = T ∧ b.userId = id) t) := by
      refine hpt.setUserBranches ?_ ?_ ?_
      · intro m hm
        have hm' := hm.of_filter.2
        simp only [Bool.not_eq_false', decide_eq_true_eq] at hm'
        exact hm'.1
      · exact fun m hm => hpt.closed.userBranch_branch m (List.mem_filter.1 hm).1
      · exact fun m hm => hpt.closed.userBranch_user m (List.mem_filter.1 hm).1
    rw [hw]
    refine hdel.setUserBranches (fun m hm => (mem_membershipRows hm.of_append).1)
      (List.forall_mem_append.2 ⟨hdel.closed.userBranch_branch, fun m hm => ?_⟩)
      (List.forall_mem_append.2 ⟨hdel.closed.userBranch_user, fun m hm => ?_⟩)
    · obtain ⟨ht, -, hk⟩ := mem_membershipRows hm
      have hlive := hbs branchIds hids _ hk
      rw [ht]
      unfold LiveBranch at hlive ⊢
      rw [← hbr] at hlive
      exact hlive
    · obtain ⟨ht, hk, -⟩ := mem_membershipRows hm
      rw [ht, hk]
      exact hut

/-- So does the reset of a password. -/
theorem Users.resetSubordinatePassword_permitted {targetId newPassword : String}
    {requesterRole : Role} (hc : TenantClosed db.toTables) :
    Permitted T db.toTables
      ((Users.resetSubordinatePassword env T targetId newPassword requesterRole).next
        db).toTables := by
  refine next_permitted hc fun _ db' h => ?_
  obtain ⟨u, hu, hid, hT, -, -, hw⟩ := resetSubordinatePassword_ok h
  rw [hw]
  exact (Permitted.refl hc).updateUser
    (fun _ ho hk => OwnUser.tenant_of_id ⟨u, hu, hid, hT⟩ ho hk) (fun _ => ⟨rfl, rfl⟩)
    fun _ _ => .inl

/-- So does a removal. -/
theorem Users.remove_permitted {id : String} {currentUser : CurrentUser}
    (hc : TenantClosed db.toTables) :
    Permitted T db.toTables ((Users.remove env T id currentUser).next db).toTables := by
  refine next_permitted hc fun _ db' h => ?_
  obtain ⟨u, hu, hid, hT, -, -, -, hw⟩ := remove_ok h
  rw [hw]
  exact (Permitted.refl hc).updateUser
    (fun _ ho hk => OwnUser.tenant_of_id ⟨u, hu, hid, hT⟩ ho hk) (fun _ => ⟨rfl, rfl⟩)
    fun _ _ => .inl

/-! ### Branches -/

/-- A new branch is the tenant's. -/
theorem Branches.create_permitted {dto : CreateBranchDto} (hc : TenantClosed db.toTables) :
    Permitted T db.toTables ((Branches.create env T dto).next db).toTables := by
  refine next_permitted hc fun branch db' h => ?_
  obtain ⟨-, hb, hw⟩ := create_ok h
  rw [hw]
  refine (Permitted.refl hc).setBranches (fun r hr => ?_) ?_
  · rw [List.mem_singleton.1 hr.of_append, hb]
  · exact fun _ _ _ ⟨o, ho, hk⟩ => ⟨o, List.mem_append_left _ ho, hk⟩

/-- An update finds a branch of the tenant. -/
theorem Branches.update_permitted {id : String} {dto : UpdateBranchDto}
    (hc : TenantClosed db.toTables) :
    Permitted T db.toTables ((Branches.update T id dto).next db).toTables := by
  refine next_permitted hc fun _ db' h => ?_
  obtain ⟨b, hb, hid, hT, hd, -, hw⟩ := update_ok h
  have hown : LiveBranch db.toTables T id := ⟨b, hb, hid, hT, hd⟩
  rw [hw]
  refine (Permitted.refl hc).setBranches (fun r hr => ?_) ?_
  · exact Model.branch.owner_of_updateAt hr (fun _ ho hk => hown.tenant_of_id ho hk)
      fun _ => rfl
  · exact fun _ _ _ h => exists_updateWhere (fun _ _ _ ho => ho) h

/-- The rows a removed branch is unlinked from are in its tenant, since every
reference to it is; afterwards no row refers to it. -/
theorem Branches.remove_permitted {id : String} (hc : TenantClosed db.toTables) :
    Permitted T db.toTables ((Branches.remove env T id).next db).toTables := by
  refine next_permitted hc fun _ db' h => ?_
  obtain ⟨hown, hw⟩ := remove_ok h
  have hT : ∀ {T'}, LiveBranch db.toTables T' id → T' = T := by
    rintro T' ⟨b, hb, hk, hT', -⟩
    rw [← hT', hown.tenant_of_id hb hk]
  rw [hw]
  have h₁ := (Permitted.refl hc).updateUsers (p := fun u => u.branchId = some id)
    (f := fun u => { u with branchId := none })
    (fun u hu hp => hT (hc.user_branch u hu id (of_decide_eq_true hp))) (fun _ => ⟨rfl, rfl⟩)
    (fun _ _ => nofun)
  have h₂ := h₁.setUserBranches (l := db.userBranches.filter fun b => !decide (b.branchId = id))
    (fun m hm => by
      obtain ⟨hm, hk⟩ := hm.of_filter
      have hk : m.branchId = id := by simpa using hk
      exact hT (hk ▸ hc.userBranch_branch m hm))
    (fun m hm => h₁.closed.userBranch_branch m (List.mem_filter.1 hm).1)
    (fun m hm => h₁.closed.userBranch_user m (List.mem_filter.1 hm).1)
  have h₃ := h₂.updateVehicles (p := fun v => v.branchId = some id)
    (f := fun v => { v with branchId := none })
    (fun v hv hp => hT (hc.vehicle_branch v hv id (of_decide_eq_true hp))) (fun _ => ⟨rfl, rfl⟩)
    (fun _ _ => nofun)
  have h₄ := h₃.updateDrivers (p := fun d => d.branchId = some id)
    (f := fun d => { d with branchId := none })
    (fun d hd hp => hT (hc.driver_branch d hd id (of_decide_eq_true hp)))
    (fun _ => ⟨rfl, rfl, rfl⟩) (fun _ _ => nofun)
  refine h₄.setBranches (fun r hr => ?_) fun T' k huse ⟨b, hb, hk⟩ => ?_
  · exact Model.branch.owner_of_updateAt hr (fun _ ho hk => hown.tenant_of_id ho hk)
      fun _ => rfl
  · -- a branch still in use is not the removed one, so its row is kept
    have hne : k ≠ id := by
      rintro rfl
      rcases huse with ⟨u, hu, hk⟩ | ⟨m, hm, hk⟩ | ⟨v, hv, hk⟩ | ⟨d, hd, hk⟩ | ⟨b, hb, hk⟩ |
        ⟨j, hj, hk⟩
      · rcases mem_updateWhere.1 hu with ⟨-, hp⟩ | ⟨o, -, -, rfl⟩
        · simp [hk] at hp
        · simp at hk
      · simpa [hk] using (List.mem_filter.1 hm).2
      · rcases mem_updateWhere.1 hv with ⟨-, hp⟩ | ⟨o, -, -, rfl⟩
        · simp [hk] at hp
        · simp at hk
      · rcases mem_updateWhere.1 hd with ⟨-, hp⟩ | ⟨o, -, -, rfl⟩
        · simp [hk] at hp
        · simp at hk
      · simp [h₄.closed.booking_branch b hb] at hk
      · simp [h₄.closed.workshopJob_branch j hj] at hk
    exact ⟨b, mem_updateWhere.2 (.inl ⟨hb, by simpa [hk.1] using hne⟩), hk⟩

end NodeVms
