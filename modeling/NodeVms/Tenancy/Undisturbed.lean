/-
# What others do does not show

A request that is not about a tenant leaves `Tables.seenBy` of the tenant as it is, row by
row and in the same order: for the requests of other tenants because they write rows of
their own only (`Permitted`) and no table but the memberships ever loses a row
(`Store.Grows`), for those of the platform because of the id they name.  So the reads of a
tenant's records (`TenantRead`) have the same answers after any run of such requests.
-/

import NodeVms.Calendar.Offline
import NodeVms.Integrity.History
import NodeVms.Tenancy.Reads

namespace NodeVms

open Store Script Prisma

namespace Model.Keyed

instance : userBranch.Keyed := ⟨"UserBranch_pkey", by simp [Schema.uniqueIndexes]⟩
instance : fuelLog.Keyed := ⟨"FuelLog_pkey", by simp [Schema.uniqueIndexes]⟩
instance : maintenanceItem.Keyed := ⟨"MaintenanceItem_pkey", by simp [Schema.uniqueIndexes]⟩
instance : expense.Keyed := ⟨"Expense_pkey", by simp [Schema.uniqueIndexes]⟩
instance : gpsLocation.Keyed := ⟨"GpsLocation_pkey", by simp [Schema.uniqueIndexes]⟩
instance : workshopItem.Keyed := ⟨"WorkshopItem_pkey", by simp [Schema.uniqueIndexes]⟩

end Model.Keyed

variable {α : Type} {db db' : Database} {env : Env} {T T' : String}

/-! ### Requests of another tenant -/

/-- A row of another tenant is in both states or in neither. -/
theorem Permitted.in_iff (h : Permitted T' db.toTables db'.toTables) (hne : T ≠ T') {row : Row}
    (hrow : row.OwnedBy db.toTables T) : row.In db'.toTables ↔ row.In db.toTables := by
  by_contra hiff
  have htouched : row.Touched db.toTables db'.toTables := by
    by_cases hin : row.In db.toTables
    · exact .inr ⟨hin, fun h' => hiff ⟨fun _ => hin, fun _ => h'⟩⟩
    · exact .inl ⟨by_contra fun h' => hiff ⟨fun h => absurd h h', fun h => absurd h hin⟩, hin⟩
  exact hne (h.owner_eq hrow (h.own row htouched))

/-- In a table that loses no row the rows of another tenant are the same in the same order;
`row` makes a row of the table one of the database. -/
theorem Permitted.rows_eq {m : Model α} [m.Keyed] {Q : α → α → Prop} {own : α → Prop}
    {_ : DecidablePred own} (h : Permitted T' db.toTables db'.toTables) (hne : T ≠ T')
    (hgrows : Grows Q (m.rows db.toTables) (m.rows db'.toTables))
    (hQ : ∀ a b, Q a b → m.id b = m.id a) (row : α → Row)
    (hin : ∀ t r, (row r).In t ↔ r ∈ m.rows t)
    (hown : ∀ r, own r → (row r).OwnedBy db.toTables T) :
    ((m.rows db'.toTables).filter fun r => own r) = (m.rows db.toTables).filter fun r => own r := by
  refine hgrows.filter_eq hQ (db'.nodup_id m) fun r hr => ?_
  rw [← hin, ← hin]
  exact h.in_iff hne (hown r (of_decide_eq_true hr))

/-- So are they in a table that keeps its records. -/
theorem Archive.Keeps.rows_eq {a : Archive α} [a.model.Keyed] {own : α → Prop}
    {_ : DecidablePred own} (h : a.Keeps db.toTables db'.toTables)
    (hp : Permitted T' db.toTables db'.toTables) (hne : T ≠ T') (row : α → Row)
    (hin : ∀ t r, (row r).In t ↔ r ∈ a.model.rows t)
    (hown : ∀ r, own r → (row r).OwnedBy db.toTables T) :
    ((a.model.rows db'.toTables).filter fun r => own r) =
      (a.model.rows db.toTables).filter fun r => own r :=
  hp.rows_eq hne h (fun _ _ hkept => hkept.id) row hin hown

/-- So are they in a table that only grows. -/
theorem Model.Extends.rows_eq {m : Model α} [m.Keyed] {own : α → Prop}
    {_ : DecidablePred own} (h : m.Extends db.toTables db'.toTables)
    (hp : Permitted T' db.toTables db'.toTables) (hne : T ≠ T') (row : α → Row)
    (hin : ∀ t r, (row r).In t ↔ r ∈ m.rows t)
    (hown : ∀ r, own r → (row r).OwnedBy db.toTables T) :
    ((m.rows db'.toTables).filter fun r => own r) = (m.rows db.toTables).filter fun r => own r :=
  hp.rows_eq hne (grows_eq_iff.2 h) (fun _ _ heq => by rw [heq]) row hin hown

/-! ### Memberships

They are replaced as a whole, those of another tenant never. -/

section Memberships

/-- The memberships of `T` are the same in both states. -/
def SameMemberships (T : String) (t t' : Tables) : Prop :=
  (t'.userBranches.filter fun m => m.tenantId = T) = t.userBranches.filter fun m => m.tenantId = T

/-- A request that does not write the memberships leaves them. -/
theorem sameMemberships_of_eq {t t' : Tables} (h : t'.userBranches = t.userBranches) :
    SameMemberships T t t' := by
  rw [SameMemberships, h]

/-- New memberships of another tenant do not show. -/
theorem filter_append_membershipRows (hne : T ≠ T') {l : List UserBranch} {userId : String}
    {ks : List String} :
    ((l ++ Users.membershipRows env T' userId ks).filter fun m => m.tenantId = T) =
      l.filter fun m => m.tenantId = T := by
  refine filter_append_of_not fun m hm => decide_eq_false ?_
  rw [(Users.mem_membershipRows hm).1]
  exact hne.symm

/-- Requests on users replace memberships of their own tenant. -/
theorem Users.Request.sameMemberships (r : Users.Request) (hne : T ≠ T') :
    SameMemberships T db.toTables (r.next env T' db).toTables := by
  cases r with
  | create dto =>
    refine next_frame (fun _ => rfl) fun user db' h => ?_
    obtain ⟨-, -, -, hw⟩ := create_ok h
    have hrows : db'.userBranches = db.userBranches ++
        membershipRows env T' user.id dto.memberships := congrArg Tables.userBranches hw
    rw [SameMemberships, hrows, filter_append_membershipRows hne]
  | update id dto currentUser =>
    refine next_frame (fun _ => rfl) fun _ db' h => ?_
    obtain ⟨-, -, -, -, -, -, -, -, t, ht, hw⟩ := update_ok h
    have htable : t.userBranches = db.userBranches := by
      rcases ht with ⟨-, rfl⟩ | ⟨-, rfl⟩ <;> rfl
    rcases hw with ⟨-, hw⟩ | ⟨branchIds, -, hw⟩
    · exact sameMemberships_of_eq (by rw [hw, htable])
    · have hrows : db'.userBranches =
          (db.userBranches.filter fun m => !decide (m.tenantId = T' ∧ m.userId = id)) ++
            membershipRows env T' id branchIds := by
        rw [← htable]
        exact congrArg Tables.userBranches hw
      rw [SameMemberships, hrows, filter_append_membershipRows hne]
      refine filter_filter_of_imp fun m _ hT => ?_
      have hT' : m.tenantId ≠ T' := fun hm => hne ((of_decide_eq_true hT).symm.trans hm)
      simp [hT']
  | resetSubordinatePassword targetId newPassword requesterRole =>
    refine next_frame (fun _ => rfl) fun _ db' h => ?_
    obtain ⟨-, -, -, -, -, -, hw⟩ := resetSubordinatePassword_ok h
    exact sameMemberships_of_eq (by rw [hw]; rfl)
  | remove id currentUser =>
    refine next_frame (fun _ => rfl) fun _ db' h => ?_
    obtain ⟨-, -, -, -, -, -, -, hw⟩ := remove_ok h
    exact sameMemberships_of_eq (by rw [hw]; rfl)

/-- A branch that is closed takes the memberships of its own tenant with it. -/
theorem Branches.Request.sameMemberships (hc : TenantClosed db.toTables) (r : Branches.Request)
    (hne : T ≠ T') : SameMemberships T db.toTables (r.next env T' db).toTables := by
  cases r with
  | create dto =>
    refine next_frame (fun _ => rfl) fun _ db' h => ?_
    obtain ⟨-, -, hw⟩ := create_ok h
    exact sameMemberships_of_eq (by rw [hw]; rfl)
  | update id dto =>
    refine next_frame (fun _ => rfl) fun _ db' h => ?_
    obtain ⟨-, -, -, -, -, -, hw⟩ := update_ok h
    exact sameMemberships_of_eq (by rw [hw]; rfl)
  | remove id =>
    refine next_frame (fun _ => rfl) fun _ db' h => ?_
    obtain ⟨⟨b, hb, hid, hbT, -⟩, hw⟩ := remove_ok h
    have hrows : db'.userBranches = db.userBranches.filter fun m => !decide (m.branchId = id) :=
      congrArg Tables.userBranches hw
    rw [SameMemberships, hrows]
    -- the branch is the caller's own, and so are the memberships that name it
    refine filter_filter_of_imp fun m hm hT => ?_
    have hid' : m.branchId ≠ id := by
      rintro rfl
      have hmT : b.tenantId = m.tenantId := (hc.userBranch_branch m hm).tenant_of_id hb hid
      exact hne ((of_decide_eq_true hT).symm.trans (hmT.symm.trans hbT))
    simp [hid']

/-- No request of another tenant touches the tenant's memberships. -/
theorem TenantRequest.sameMemberships (hc : TenantClosed db.toTables) (r : TenantRequest)
    (hne : T ≠ T') : SameMemberships T db.toTables (r.next env T' db).toTables := by
  by_cases hw : Table.userBranches ∈ r.writes
  · cases r with
    | users r => exact r.sameMemberships hne
    | branches r => exact r.sameMemberships hc hne
    | _ => simp [TenantRequest.writes] at hw
  · exact sameMemberships_of_eq (r.same env T' hw)

end Memberships

/-- The assignments of a tenant's vehicles are those of its drivers. -/
theorem TenantClosed.assignments_ofTenant (hc : TenantClosed db.toTables) :
    (db.assignments.filter fun a =>
      OwnVehicle db.toTables T a.vehicleId ∨ OwnDriver db.toTables T a.driverId) =
      db.assignments.filter fun a => OwnVehicle db.toTables T a.vehicleId := by
  refine List.filter_congr fun a ha => decide_eq_decide.2 (or_iff_left_of_imp fun hd => ?_)
  obtain ⟨T', hv, d, hdm, hid, hdT⟩ := hc.assignment a ha
  have hT : T' = T := hdT.symm.trans (hd.tenant_of_id hdm hid)
  exact hT ▸ hv

/-- The tenant's vehicles are known from its rows. -/
theorem ownVehicle_iff_of_filter_eq {t t' : Tables} {k : String}
    (h : (t'.vehicles.filter fun r => r.tenantId = T) = t.vehicles.filter fun r => r.tenantId = T) :
    OwnVehicle t' T k ↔ OwnVehicle t T k := by
  constructor
  · rintro ⟨v, hv, hid, hT⟩
    exact ⟨v, (mem_iff_of_filter_eq h (decide_eq_true hT)).1 hv, hid, hT⟩
  · rintro ⟨v, hv, hid, hT⟩
    exact ⟨v, (mem_iff_of_filter_eq h (decide_eq_true hT)).2 hv, hid, hT⟩

/-- So are its maintenance logs. -/
theorem ownMaintenanceLog_iff_of_filter_eq {t t' : Tables} {k : String}
    (h : (t'.maintenanceLogs.filter fun r => r.tenantId = T) =
      t.maintenanceLogs.filter fun r => r.tenantId = T) :
    OwnMaintenanceLog t' T k ↔ OwnMaintenanceLog t T k := by
  constructor
  · rintro ⟨l, hl, hid, hT⟩
    exact ⟨l, (mem_iff_of_filter_eq h (decide_eq_true hT)).1 hl, hid, hT⟩
  · rintro ⟨l, hl, hid, hT⟩
    exact ⟨l, (mem_iff_of_filter_eq h (decide_eq_true hT)).2 hl, hid, hT⟩

/-- So are its workshop jobs. -/
theorem ownWorkshopJob_iff_of_filter_eq {t t' : Tables} {k : String}
    (h : (t'.workshopJobs.filter fun r => r.tenantId = T) =
      t.workshopJobs.filter fun r => r.tenantId = T) :
    OwnWorkshopJob t' T k ↔ OwnWorkshopJob t T k := by
  constructor
  · rintro ⟨j, hj, hid, hT⟩
    exact ⟨j, (mem_iff_of_filter_eq h (decide_eq_true hT)).1 hj, hid, hT⟩
  · rintro ⟨j, hj, hid, hT⟩
    exact ⟨j, (mem_iff_of_filter_eq h (decide_eq_true hT)).2 hj, hid, hT⟩

/-- A request of another tenant leaves what a tenant sees as it is. -/
theorem TenantRequest.seenBy_next (hc : TenantClosed db.toTables) (r : TenantRequest)
    (hne : T ≠ T') : (r.next env T' db).seenBy T = db.seenBy T := by
  let q : Request := .tenant env T' r
  have hp : Permitted T' db.toTables (step q db).toTables := r.permitted hc
  have hbranches : ((step q db).branches.filter fun r => r.tenantId = T) =
      db.branches.filter fun r => r.tenantId = T :=
    (Archive.branch_keeps q db).rows_eq hp hne .branch (fun _ _ => Iff.rfl) fun _ h => h
  have hsubscriptions : ((step q db).subscriptions.filter fun r => r.tenantId = T) =
      db.subscriptions.filter fun r => r.tenantId = T :=
    (Archive.subscription_keeps q db).rows_eq hp hne .subscription (fun _ _ => Iff.rfl) fun _ h => h
  have hfeatureAccesses : ((step q db).featureAccesses.filter fun r => r.tenantId = T) =
      db.featureAccesses.filter fun r => r.tenantId = T :=
    (Archive.featureAccess_keeps q db).rows_eq hp hne .featureAccess (fun _ _ => Iff.rfl)
      fun _ h => h
  have husers : ((step q db).users.filter fun r => r.tenantId = T) =
      db.users.filter fun r => r.tenantId = T :=
    (Archive.user_keeps q db).rows_eq hp hne .user (fun _ _ => Iff.rfl) fun _ h => h
  have hvehicles : ((step q db).vehicles.filter fun r => r.tenantId = T) =
      db.vehicles.filter fun r => r.tenantId = T :=
    (Archive.vehicle_keeps q db).rows_eq hp hne .vehicle (fun _ _ => Iff.rfl) fun _ h => h
  have hdrivers : ((step q db).drivers.filter fun r => r.tenantId = T) =
      db.drivers.filter fun r => r.tenantId = T :=
    (Archive.driver_keeps q db).rows_eq hp hne .driver (fun _ _ => Iff.rfl) fun _ h => h
  have hbookings : ((step q db).bookings.filter fun r => r.tenantId = T) =
      db.bookings.filter fun r => r.tenantId = T :=
    (Archive.booking_keeps q db).rows_eq hp hne .booking (fun _ _ => Iff.rfl) fun _ h => h
  have hcontracts : ((step q db).contracts.filter fun r => r.tenantId = T) =
      db.contracts.filter fun r => r.tenantId = T :=
    (Archive.contract_keeps q db).rows_eq hp hne .contract (fun _ _ => Iff.rfl) fun _ h => h
  have htrips : ((step q db).trips.filter fun r => r.tenantId = T) =
      db.trips.filter fun r => r.tenantId = T :=
    (Archive.trip_keeps q db).rows_eq hp hne .trip (fun _ _ => Iff.rfl) fun _ h => h
  have hincomes : ((step q db).incomes.filter fun r => r.tenantId = T) =
      db.incomes.filter fun r => r.tenantId = T :=
    (Archive.income_keeps q db).rows_eq hp hne .income (fun _ _ => Iff.rfl) fun _ h => h
  have hworkshopJobs : ((step q db).workshopJobs.filter fun r => r.tenantId = T) =
      db.workshopJobs.filter fun r => r.tenantId = T :=
    (Archive.workshopJob_keeps q db).rows_eq hp hne .workshopJob (fun _ _ => Iff.rfl) fun _ h => h
  have halerts : ((step q db).alerts.filter fun r => r.tenantId = T) =
      db.alerts.filter fun r => r.tenantId = T :=
    (Archive.alert_keeps q db).rows_eq hp hne .alert (fun _ _ => Iff.rfl) fun _ h => h
  have hfuelLogs : ((step q db).fuelLogs.filter fun r => r.tenantId = T) =
      db.fuelLogs.filter fun r => r.tenantId = T :=
    (Model.fuelLog_extends q db).rows_eq hp hne .fuelLog (fun _ _ => Iff.rfl) fun _ h => h
  have hmaintenanceLogs : ((step q db).maintenanceLogs.filter fun r => r.tenantId = T) =
      db.maintenanceLogs.filter fun r => r.tenantId = T :=
    (Model.maintenance_extends q db).1.rows_eq hp hne .maintenanceLog (fun _ _ => Iff.rfl)
      fun _ h => h
  have hdocuments : ((step q db).documents.filter fun r => r.tenantId = T) =
      db.documents.filter fun r => r.tenantId = T :=
    (Model.document_extends q db).rows_eq hp hne .document (fun _ _ => Iff.rfl) fun _ h => h
  have hexpenses : ((step q db).expenses.filter fun r => r.tenantId = T) =
      db.expenses.filter fun r => r.tenantId = T :=
    (Model.expense_extends q db).rows_eq hp hne .expense (fun _ _ => Iff.rfl) fun _ h => h
  have hgpsLocations : ((step q db).gpsLocations.filter fun r => r.tenantId = T) =
      db.gpsLocations.filter fun r => r.tenantId = T :=
    (Model.gpsLocation_extends q db).rows_eq hp hne .gpsLocation (fun _ _ => Iff.rfl) fun _ h => h
  have huserBranches : ((step q db).userBranches.filter fun r => r.tenantId = T) =
      db.userBranches.filter fun r => r.tenantId = T := r.sameMemberships hc hne
  -- assignments and items belong to the tenant of their vehicle, log and job
  have hassignments : ((step q db).assignments.filter fun a =>
      OwnVehicle (step q db).toTables T a.vehicleId ∨
        OwnDriver (step q db).toTables T a.driverId) =
      db.assignments.filter fun a =>
        OwnVehicle db.toTables T a.vehicleId ∨ OwnDriver db.toTables T a.driverId := by
    rw [hc.assignments_ofTenant, TenantClosed.assignments_ofTenant hp.closed]
    simp only [ownVehicle_iff_of_filter_eq hvehicles]
    exact (Archive.assignment_keeps q db).rows_eq hp hne .assignment (fun _ _ => Iff.rfl)
      fun _ h => h
  have hmaintenanceItems : ((step q db).maintenanceItems.filter fun i =>
      OwnMaintenanceLog (step q db).toTables T i.maintenanceId) =
      db.maintenanceItems.filter fun i => OwnMaintenanceLog db.toTables T i.maintenanceId := by
    simp only [ownMaintenanceLog_iff_of_filter_eq hmaintenanceLogs]
    exact (Model.maintenance_extends q db).2.rows_eq hp hne .maintenanceItem
      (fun _ _ => Iff.rfl) fun _ h => h
  have hworkshopItems : ((step q db).workshopItems.filter fun i =>
      OwnWorkshopJob (step q db).toTables T i.jobId) =
      db.workshopItems.filter fun i => OwnWorkshopJob db.toTables T i.jobId := by
    simp only [ownWorkshopJob_iff_of_filter_eq hworkshopJobs]
    exact (Model.workshopItem_extends q db).rows_eq hp hne .workshopItem
      (fun _ _ => Iff.rfl) fun _ h => h
  show (step q db).seenBy T = db.seenBy T
  simp only [Tables.seenBy, Tables.ofTenant, hbranches, hsubscriptions, hfeatureAccesses, husers,
    huserBranches, hvehicles, hdrivers, hassignments, hbookings, hcontracts, htrips, hfuelLogs,
    hmaintenanceLogs, hmaintenanceItems, hdocuments, hexpenses, hincomes, hgpsLocations,
    hworkshopJobs, hworkshopItems, halerts]

/-! ### Requests of the platform -/

/-- The request is about the tenant: it names the tenant, a user or a subscription of the
tenant, or it looks for vehicles that are offline while the tenant has one on a trip. -/
def PlatformRequest.Concerns (T : String) (t : Tables) : PlatformRequest → Prop
  | .approve userId | .reject userId | .suspend userId | .reactivate userId
  | .resetAdminPassword userId _ | .changePassword userId _ | .changeName userId _ =>
    OwnUser t T userId
  | .enableFeature tenantId _ | .disableFeature tenantId _ => tenantId = T
  | .createSubscription dto => dto.tenantId = T
  | .updateSubscription id _ => ∃ s ∈ t.subscriptions, s.id.val = id ∧ s.tenantId = T
  | .runOfflineDetection => ∃ v ∈ t.vehicles, v.tenantId = T ∧ Jobs.OnTrip v
  -- these write the tenant's own record, which no read of its users shows, or a new tenant
  | .registerTenant _ | .seedSuperAdmin _ | .updateTenant _ _ | .removeTenant _ => False

/-- A request is about a tenant if it is one of its users', or a platform request about it. -/
def Request.Concerns (T : String) (t : Tables) : Request → Prop
  | .tenant _ T' _ => T' = T
  | .platform _ r => r.Concerns T t

instance (t : Tables) (tenantId k : String) : Decidable (OwnUser t tenantId k) := by
  unfold OwnUser; infer_instance

instance PlatformRequest.decidableConcerns (T : String) (t : Tables) :
    ∀ r : PlatformRequest, Decidable (r.Concerns T t)
  | .approve userId | .reject userId | .suspend userId | .reactivate userId
  | .resetAdminPassword userId _ | .changePassword userId _ | .changeName userId _ =>
    inferInstanceAs (Decidable (OwnUser t T userId))
  | .enableFeature tenantId _ | .disableFeature tenantId _ =>
    inferInstanceAs (Decidable (tenantId = T))
  | .createSubscription dto => inferInstanceAs (Decidable (dto.tenantId = T))
  | .updateSubscription id _ =>
    inferInstanceAs (Decidable (∃ s ∈ t.subscriptions, s.id.val = id ∧ s.tenantId = T))
  | .runOfflineDetection =>
    inferInstanceAs (Decidable (∃ v ∈ t.vehicles, v.tenantId = T ∧ Jobs.OnTrip v))
  | .registerTenant _ | .seedSuperAdmin _ | .updateTenant _ _ | .removeTenant _ =>
    inferInstanceAs (Decidable False)

instance Request.decidableConcerns (T : String) (t : Tables) :
    ∀ r : Request, Decidable (r.Concerns T t)
  | .tenant _ T' _ => inferInstanceAs (Decidable (T' = T))
  | .platform _ r => inferInstanceAs (Decidable (r.Concerns T t))

section Platform

variable {t : Tables}

/-- Users of other tenants do not show. -/
theorem seenBy_setUsers {l : List User}
    (h : (l.filter fun u => u.tenantId = T) = t.users.filter fun u => u.tenantId = T) :
    ({ t with users := l } : Tables).seenBy T = t.seenBy T :=
  congrArg (fun us => { t.seenBy T with users := us }) h

/-- Nor do features of other tenants. -/
theorem seenBy_setFeatureAccesses {l : List FeatureAccess}
    (h : (l.filter fun f => f.tenantId = T) = t.featureAccesses.filter fun f => f.tenantId = T) :
    ({ t with featureAccesses := l } : Tables).seenBy T = t.seenBy T :=
  congrArg (fun fs => { t.seenBy T with featureAccesses := fs }) h

/-- Nor do subscriptions of other tenants. -/
theorem seenBy_setSubscriptions {l : List Subscription}
    (h : (l.filter fun s => s.tenantId = T) = t.subscriptions.filter fun s => s.tenantId = T) :
    ({ t with subscriptions := l } : Tables).seenBy T = t.seenBy T :=
  congrArg (fun ss => { t.seenBy T with subscriptions := ss }) h

/-- Nor do alerts of other tenants. -/
theorem seenBy_setAlerts {l : List Alert}
    (h : (l.filter fun a => a.tenantId = T) = t.alerts.filter fun a => a.tenantId = T) :
    ({ t with alerts := l } : Tables).seenBy T = t.seenBy T :=
  congrArg (fun as => { t.seenBy T with alerts := as }) h

/-- An update of a user of another tenant. -/
theorem seenBy_updateUser {id : String} {f : User → User} (hid : ¬OwnUser t T id)
    (hf : ∀ u, (f u).tenantId = u.tenantId) :
    (Model.user.updateAt id f t).seenBy T = t.seenBy T := by
  refine seenBy_setUsers (filter_updateWhere_of_not fun u hu hp => ?_)
  have hT : u.tenantId ≠ T := fun hT => hid ⟨u, hu, of_decide_eq_true hp, hT⟩
  exact ⟨decide_eq_false hT, decide_eq_false (by rwa [hf])⟩

/-- The owner of a new tenant is not in one that exists already. -/
theorem seenBy_insertOwner {tenant : Tenant} {user : User}
    (hT : ∃ o ∈ db.tenants, o.id.val = T) (huser : user.tenantId = tenant.id)
    (hw : db'.toTables = Model.user.insert [user] (Model.tenant.insert [tenant] db.toTables)) :
    db'.seenBy T = db.seenBy T := by
  have htenants : db'.tenants = db.tenants ++ [tenant] := congrArg Tables.tenants hw
  obtain ⟨o, ho, rfl⟩ := hT
  have hnew : o.id.val ≠ tenant.id.val := db'.id_ne_of_append .tenant htenants o ho
  rw [hw]
  refine seenBy_setUsers (t := Model.tenant.insert [tenant] db.toTables)
    (filter_append_of_not fun u hu => decide_eq_false ?_)
  rw [List.mem_singleton.1 hu, huser]
  exact hnew.symm

/-- A switch for another tenant does not show. -/
theorem seenBy_setEnabled {tenantId moduleName : String} {isEnabled : Bool} {flag : FeatureAccess}
    (hne : tenantId ≠ T)
    (h : (FeatureAccesses.setEnabled env tenantId moduleName isEnabled).exec db = .ok (flag, db')) :
    db'.seenBy T = db.seenBy T := by
  rcases FeatureAccesses.setEnabled_ok h with ⟨f, hf, hfT, -, -, hw⟩ | ⟨-, rfl, hw⟩
  · rw [hw]
    refine seenBy_setFeatureAccesses (filter_updateWhere_of_not fun o ho hp => ?_)
    have hof : o = f := db.eq_of_id .featureAccess ho hf (of_decide_eq_true hp)
    have hoT : o.tenantId ≠ T := by rwa [hof, hfT]
    exact ⟨decide_eq_false hoT, decide_eq_false hoT⟩
  · rw [hw]
    refine seenBy_setFeatureAccesses (filter_append_of_not fun o ho => decide_eq_false ?_)
    rwa [List.mem_singleton.1 ho]

/-- A request of the platform that is not about a tenant leaves what it sees as it is. -/
theorem PlatformRequest.seenBy_next (r : PlatformRequest) (hT : ∃ o ∈ db.tenants, o.id.val = T)
    (hr : ¬r.Concerns T db.toTables) : (r.next env db).seenBy T = db.seenBy T := by
  have hnext : ∀ {β : Type} {h : Query (Transaction β)},
      (∀ b db', h.exec db = .ok (b, db') → db'.seenBy T = db.seenBy T) →
        (h.next db).seenBy T = db.seenBy T := fun hok =>
    Script.next_induct (P := fun db' : Database => db'.seenBy T = db.seenBy T) rfl hok
  cases r with
  | registerTenant dto =>
    refine hnext fun user db' h => ?_
    obtain ⟨hu, hw⟩ := Auth.registerTenant_ok h
    exact seenBy_insertOwner hT (by rw [hu]) hw
  | seedSuperAdmin dto =>
    refine hnext fun user db' h => ?_
    obtain ⟨-, -, hu, hw⟩ := Auth.seedSuperAdmin_ok h
    exact seenBy_insertOwner hT (by rw [hu]) hw
  | approve userId =>
    refine hnext fun _ db' h => ?_
    obtain ⟨u, -, -, hw⟩ := AdminApplications.approve_ok h
    rw [hw]
    exact seenBy_updateUser hr fun _ => rfl
  | reject userId =>
    refine hnext fun _ db' h => ?_
    obtain ⟨u, -, -, hw⟩ := AdminApplications.reject_ok h
    rw [hw]
    exact seenBy_updateUser hr fun _ => rfl
  | suspend userId =>
    refine hnext fun _ db' h => ?_
    obtain ⟨u, -, -, hw⟩ := AdminApplications.suspend_ok h
    rw [hw]
    exact seenBy_updateUser hr fun _ => rfl
  | reactivate userId =>
    refine hnext fun _ db' h => ?_
    obtain ⟨u, -, -, hw⟩ := AdminApplications.reactivate_ok h
    rw [hw]
    exact seenBy_updateUser hr fun _ => rfl
  | resetAdminPassword userId newPassword =>
    refine hnext fun _ db' h => ?_
    rw [(AdminApplications.resetAdminPassword_ok h).2]
    exact seenBy_updateUser hr fun _ => rfl
  | updateTenant id dto =>
    refine hnext fun _ db' h => ?_
    rw [(Tenants.update_ok h).2]
    rfl
  | removeTenant id =>
    refine hnext fun _ db' h => ?_
    rw [(Tenants.remove_ok h).2]
    rfl
  | enableFeature tenantId moduleName => exact hnext fun _ _ h => seenBy_setEnabled hr h
  | disableFeature tenantId moduleName => exact hnext fun _ _ h => seenBy_setEnabled hr h
  | createSubscription dto =>
    refine hnext fun _ db' h => ?_
    obtain ⟨hrow, hw⟩ := Subscriptions.create_ok h
    rw [hw]
    refine seenBy_setSubscriptions (filter_append_of_not fun o ho => decide_eq_false ?_)
    rw [List.mem_singleton.1 ho, hrow]
    exact hr
  | updateSubscription id dto =>
    refine hnext fun _ db' h => ?_
    rw [Subscriptions.update_ok h]
    refine seenBy_setSubscriptions (filter_updateWhere_of_not fun o ho hp => ?_)
    have hoT : o.tenantId ≠ T := fun hoT => hr ⟨o, ho, of_decide_eq_true hp, hoT⟩
    exact ⟨decide_eq_false hoT, decide_eq_false hoT⟩
  | changePassword userId dto =>
    refine hnext fun _ db' h => ?_
    obtain ⟨-, -, -, -, -, -, hw⟩ := Profile.changePassword_ok h
    rw [hw]
    exact seenBy_updateUser hr fun _ => rfl
  | changeName userId name =>
    refine hnext fun _ db' h => ?_
    rw [(Profile.changeName_ok h).2]
    exact seenBy_updateUser hr fun _ => rfl
  | runOfflineDetection =>
    refine hnext fun u db' h => ?_
    rw [Jobs.exec_runOfflineDetection, Tx.run_when_eq_ok] at h
    rcases h with ⟨-, h⟩ | ⟨-, rfl⟩
    · rw [run_createMany_eq_ok.1 h]
      refine seenBy_setAlerts (filter_append_of_not fun a ha => decide_eq_false fun haT => hr ?_)
      obtain ⟨i, d, hd, rfl⟩ := Alerts.mem_alertRows ha
      obtain ⟨v, hv, rfl⟩ := List.mem_map.1 hd
      obtain ⟨hv, hp⟩ := List.mem_filter.1 hv
      exact ⟨v, hv, haT, (of_decide_eq_true hp).1⟩
    · rfl

end Platform

/-! ### Runs -/

/-- A request that is not about a tenant leaves what it sees as it is. -/
theorem step_seenBy (r : Request) (hc : TenantClosed db.toTables)
    (hT : ∃ o ∈ db.tenants, o.id.val = T) (hr : ¬r.Concerns T db.toTables) :
    (step r db).seenBy T = db.seenBy T := by
  cases r with
  | tenant env T' r => exact r.seenBy_next hc fun h => hr h.symm
  | platform env r => exact r.seenBy_next hT hr

/-- A tenant stays in the table. -/
theorem exists_tenant_step (r : Request) (hT : ∃ o ∈ db.tenants, o.id.val = T) :
    ∃ o ∈ (step r db).tenants, o.id.val = T := by
  obtain ⟨o, ho, hid⟩ := hT
  obtain ⟨o', ho', hkept⟩ := Grows.exists_of_mem (Archive.tenant_keeps r db) ho
  exact ⟨o', ho', (congrArg Cuid.val hkept.id).trans hid⟩

/-- Requests that are not about the tenant leave what it sees, one after the other. -/
theorem run_seenBy {rs : List Request} (hc : TenantClosed db.toTables)
    (hT : ∃ o ∈ db.tenants, o.id.val = T)
    (hrs : Along step (fun r db => ¬r.Concerns T db.toTables) rs db) :
    (run step rs db).seenBy T = db.seenBy T := by
  induction rs generalizing db with
  | nil => rfl
  | cons r rs ih =>
    have hstep : (step r db).seenBy T = db.seenBy T := step_seenBy r hc hT hrs.1
    have hrest : (run step rs (step r db)).seenBy T = (step r db).seenBy T :=
      ih (tenantClosed_step r hc) (exists_tenant_step r hT) hrs.2
    exact hrest.trans hstep

/-- Whatever requests of other tenants and of the platform are executed, as long as none is
about the tenant every read of its records has the answer it had before. -/
theorem reads_undisturbed (h : Reachable db) (hT : ∃ o ∈ db.tenants, o.id.val = T)
    {rs : List Request} (hrs : Along step (fun r db => ¬r.Concerns T db.toTables) rs db)
    {ω : Type} (q : TenantRead ω) (collate : String → String → Bool) (now : Time) :
    (q.answer collate now T).eval (run step rs db) = (q.answer collate now T).eval db :=
  q.respects collate now _ _
    ⟨tenantClosed_of_reachable (h.run rs), tenantClosed_of_reachable h,
      run_seenBy (tenantClosed_of_reachable h) hT hrs⟩

/-- A second company registers, gets a vehicle and removes it, and fails to remove one of the
first company's. -/
theorem reads_undisturbed_two_companies :
    ((TenantRead.vehicles none none).answer (fun a b => a ≤ b) 2 "t0").eval
      (run step [Sample.tenant "s", Sample.vehicle "x" "s0",
        .tenant (.sample "y" 1) "s0" (.vehicles (.remove "x0")),
        .tenant (.sample "y" 1) "s0" (.vehicles (.remove "v0"))]
        (run step Sample.company Database.empty)) =
      ((TenantRead.vehicles none none).answer (fun a b => a ≤ b) 2 "t0").eval
        (run step Sample.company Database.empty) :=
  reads_undisturbed ⟨_, rfl⟩ (by decide) (by decide) (.vehicles none none) _ _

end NodeVms
