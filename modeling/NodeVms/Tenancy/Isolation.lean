/-
# Tenants are isolated

The platform's requests keep `TenantClosed` as well, so it holds in every
reachable state; there every request of a tenant touches rows of that tenant
only, and leaves the rows of every other one as they were.
-/

import NodeVms.Frames
import NodeVms.Tenancy.Records

namespace NodeVms

open Store

variable {env : Env} {T : String} {db : Database}

/-! ### The platform's requests -/

/-- An update of a user that keeps its id, tenant and branch. -/
theorem TenantClosed.updateUser (hc : TenantClosed db.toTables) {u : User} (hu : u ∈ db.users)
    {id : String} (hid : u.id.val = id) {f : User → User}
    (hf : ∀ u, (f u).id = u.id ∧ (f u).tenantId = u.tenantId ∧ (f u).branchId = u.branchId) :
    TenantClosed (Model.user.updateAt id f db.toTables) := by
  have h : Permitted u.tenantId db.toTables (Model.user.updateAt id f db.toTables) :=
    (Permitted.refl hc).updateUser
      (fun o ho hk => by rw [db.eq_of_id .user ho hu (hk.trans hid.symm)])
      (fun o => ⟨(hf o).1, (hf o).2.1⟩) fun o k hk => .inl ((hf o).2.2 ▸ hk)
  exact h.closed

/-- The first user of a new tenant has no branch. -/
theorem TenantClosed.insertUser {t : Tables} (hc : TenantClosed t) {u : User}
    (hb : u.branchId = none) : TenantClosed (Model.user.insert [u] t) := by
  have h := (Permitted.refl (T := u.tenantId) hc).setUsers (l := t.users ++ [u])
    (fun r hr => by rw [List.mem_singleton.1 hr.of_append])
    (fun _ _ ⟨o, ho, hk⟩ => ⟨o, List.mem_append_left _ ho, hk⟩)
    (List.forall_mem_append.2 ⟨hc.user_branch,
      List.forall_mem_singleton.2 fun k hk => by simp [hb] at hk⟩)
  exact h.closed

/-- No reference is to a column of a tenant. -/
theorem TenantClosed.setTenants {t : Tables} (hc : TenantClosed t) (l : List Tenant) :
    TenantClosed { t with tenants := l } :=
  { hc with }

/-- Nor is one broken by an update of a tenant. -/
theorem TenantClosed.updateTenant {t : Tables} (hc : TenantClosed t) {id : String}
    {f : Tenant → Tenant} : TenantClosed (Model.tenant.updateAt id f t) :=
  hc.setTenants _

/-- Nothing refers to a feature. -/
theorem TenantClosed.setFeatureAccesses {t : Tables} (hc : TenantClosed t)
    (l : List FeatureAccess) : TenantClosed { t with featureAccesses := l } :=
  { hc with }

/-- Nothing refers to a subscription. -/
theorem TenantClosed.setSubscriptions {t : Tables} (hc : TenantClosed t) (l : List Subscription) :
    TenantClosed { t with subscriptions := l } :=
  { hc with }

/-- Nothing refers to an alert. -/
theorem TenantClosed.setAlerts {t : Tables} (hc : TenantClosed t) (l : List Alert) :
    TenantClosed { t with alerts := l } :=
  { hc with }

/-- No request of the platform writes a reference. -/
theorem PlatformRequest.closed (r : PlatformRequest) (hc : TenantClosed db.toTables) :
    TenantClosed (r.next env db).toTables := by
  have hnext : ∀ {α : Type} {h : Query (Transaction α)},
      (∀ a db', h.exec db = .ok (a, db') → TenantClosed db'.toTables) →
      TenantClosed (h.next db).toTables := fun hok =>
    Script.next_induct (P := fun db' : Database => TenantClosed db'.toTables) hc hok
  cases r with
  | registerTenant dto =>
    refine hnext fun user db' h => ?_
    obtain ⟨hu, hw⟩ := Auth.registerTenant_ok h
    rw [hw]
    exact (hc.setTenants _).insertUser (by rw [hu])
  | seedSuperAdmin dto =>
    refine hnext fun user db' h => ?_
    obtain ⟨-, -, hu, hw⟩ := Auth.seedSuperAdmin_ok h
    rw [hw]
    exact (hc.setTenants _).insertUser (by rw [hu])
  | approve userId =>
    refine hnext fun user db' h => ?_
    obtain ⟨u, hu, -, hw⟩ := AdminApplications.approve_ok h
    rw [hw]
    refine TenantClosed.updateTenant ?_
    exact hc.updateUser hu.1 hu.2.1 fun _ => ⟨rfl, rfl, rfl⟩
  | reject userId =>
    refine hnext fun user db' h => ?_
    obtain ⟨u, hu, -, hw⟩ := AdminApplications.reject_ok h
    rw [hw]
    exact hc.updateUser hu.1 hu.2.1 fun _ => ⟨rfl, rfl, rfl⟩
  | suspend userId =>
    refine hnext fun user db' h => ?_
    obtain ⟨u, hu, -, hw⟩ := AdminApplications.suspend_ok h
    rw [hw]
    refine TenantClosed.updateTenant ?_
    exact hc.updateUser hu.1 hu.2.1 fun _ => ⟨rfl, rfl, rfl⟩
  | reactivate userId =>
    refine hnext fun user db' h => ?_
    obtain ⟨u, hu, -, hw⟩ := AdminApplications.reactivate_ok h
    rw [hw]
    refine TenantClosed.updateTenant ?_
    exact hc.updateUser hu.1 hu.2.1 fun _ => ⟨rfl, rfl, rfl⟩
  | resetAdminPassword userId newPassword =>
    refine hnext fun user db' h => ?_
    obtain ⟨⟨u, hu⟩, hw⟩ := AdminApplications.resetAdminPassword_ok h
    rw [hw]
    exact hc.updateUser hu.1 hu.2.1 fun _ => ⟨rfl, rfl, rfl⟩
  | updateTenant id dto =>
    refine hnext fun tenant db' h => ?_
    rw [(Tenants.update_ok h).2]
    exact hc.updateTenant
  | removeTenant id =>
    refine hnext fun tenant db' h => ?_
    rw [(Tenants.remove_ok h).2]
    exact hc.updateTenant
  | enableFeature tenantId moduleName =>
    refine hnext fun flag db' h => ?_
    rcases FeatureAccesses.setEnabled_ok h with ⟨f, -, -, -, -, hw⟩ | ⟨-, -, hw⟩ <;>
      (rw [hw]; exact hc.setFeatureAccesses _)
  | disableFeature tenantId moduleName =>
    refine hnext fun flag db' h => ?_
    rcases FeatureAccesses.setEnabled_ok h with ⟨f, -, -, -, -, hw⟩ | ⟨-, -, hw⟩ <;>
      (rw [hw]; exact hc.setFeatureAccesses _)
  | createSubscription dto =>
    refine hnext fun subscription db' h => ?_
    rw [(Subscriptions.create_ok h).2]
    exact hc.setSubscriptions _
  | updateSubscription id dto =>
    refine hnext fun subscription db' h => ?_
    rw [Subscriptions.update_ok h]
    exact hc.setSubscriptions _
  | changePassword userId dto =>
    refine hnext fun user db' h => ?_
    obtain ⟨u, hu, hid, -, -, -, hw⟩ := Profile.changePassword_ok h
    rw [hw]
    exact hc.updateUser hu hid fun _ => ⟨rfl, rfl, rfl⟩
  | changeName userId name =>
    refine hnext fun user db' h => ?_
    obtain ⟨⟨u, hu, hid, -⟩, hw⟩ := Profile.changeName_ok h
    rw [hw]
    exact hc.updateUser hu hid fun _ => ⟨rfl, rfl, rfl⟩
  | runOfflineDetection =>
    refine hnext fun _ db' h => ?_
    obtain ⟨data, hw⟩ := Jobs.runOfflineDetection_ok h
    rw [hw]
    exact hc.setAlerts _

/-! ### Every reachable state -/

/-- There is no reference at the start. -/
theorem tenantClosed_empty : TenantClosed Database.empty.toTables := by
  constructor <;> exact List.forall_mem_nil _

/-- Every request keeps the references in their tenants. -/
theorem tenantClosed_step (r : Request) (hc : TenantClosed db.toTables) :
    TenantClosed (step r db).toTables := by
  cases r with
  | tenant env T r => exact (r.permitted (T := T) hc).closed
  | platform env r => exact r.closed hc

/-- In every reachable state the references between rows of tenants stay in the
tenant, and no row refers to a removed branch. -/
theorem tenantClosed_of_reachable (h : Reachable db) : TenantClosed db.toTables :=
  h.invariant (I := fun db => TenantClosed db.toTables) tenantClosed_empty
    fun r _ _ => tenantClosed_step r

/-! ### References -/

/-- Every foreign key between rows of tenants, bookings apart, joins rows of one
tenant. -/
structure SameTenant (t : Tables) : Prop where
  assignment : ∀ a ∈ t.assignments, ∀ v ∈ t.vehicles, ∀ d ∈ t.drivers,
    a.vehicleId = v.id → a.driverId = d.id → v.tenantId = d.tenantId
  trip_vehicle : ∀ r ∈ t.trips, ∀ v ∈ t.vehicles, r.vehicleId = v.id → v.tenantId = r.tenantId
  trip_driver : ∀ r ∈ t.trips, ∀ d ∈ t.drivers, r.driverId = d.id → d.tenantId = r.tenantId
  contract_vehicle : ∀ c ∈ t.contracts, ∀ v ∈ t.vehicles,
    c.vehicleId = some v.id.val → v.tenantId = c.tenantId
  fuelLog_vehicle : ∀ l ∈ t.fuelLogs, ∀ v ∈ t.vehicles,
    l.vehicleId = v.id → v.tenantId = l.tenantId
  maintenanceLog_vehicle : ∀ l ∈ t.maintenanceLogs, ∀ v ∈ t.vehicles,
    l.vehicleId = v.id → v.tenantId = l.tenantId
  document_vehicle : ∀ d ∈ t.documents, ∀ v ∈ t.vehicles,
    d.vehicleId = v.id → v.tenantId = d.tenantId
  workshopJob_vehicle : ∀ j ∈ t.workshopJobs, ∀ v ∈ t.vehicles,
    j.vehicleId = v.id → v.tenantId = j.tenantId
  gpsLocation_vehicle : ∀ l ∈ t.gpsLocations, ∀ v ∈ t.vehicles,
    l.vehicleId = v.id → v.tenantId = l.tenantId
  driver_user : ∀ d ∈ t.drivers, ∀ u ∈ t.users, d.userId = some u.id.val → u.tenantId = d.tenantId
  user_branch : ∀ u ∈ t.users, ∀ b ∈ t.branches,
    u.branchId = some b.id.val → b.tenantId = u.tenantId
  vehicle_branch : ∀ v ∈ t.vehicles, ∀ b ∈ t.branches,
    v.branchId = some b.id.val → b.tenantId = v.tenantId
  driver_branch : ∀ d ∈ t.drivers, ∀ b ∈ t.branches,
    d.branchId = some b.id.val → b.tenantId = d.tenantId
  booking_branch : ∀ o ∈ t.bookings, ∀ b ∈ t.branches,
    o.branchId = some b.id.val → b.tenantId = o.tenantId
  workshopJob_branch : ∀ j ∈ t.workshopJobs, ∀ b ∈ t.branches,
    j.branchId = some b.id.val → b.tenantId = j.tenantId
  userBranch_user : ∀ m ∈ t.userBranches, ∀ u ∈ t.users, m.userId = u.id → u.tenantId = m.tenantId
  userBranch_branch : ∀ m ∈ t.userBranches, ∀ b ∈ t.branches,
    m.branchId = b.id → b.tenantId = m.tenantId

/-- An id names one row, so a reference that names some row of the tenant names
only rows of the tenant. -/
theorem TenantClosed.sameTenant (hc : TenantClosed db.toTables) : SameTenant db.toTables where
  assignment a ha v hv d hd hk hk' := by
    obtain ⟨T, hown, hdown⟩ := hc.assignment a ha
    rw [hown.tenant_of_id hv hk.symm, hdown.tenant_of_id hd hk'.symm]
  trip_vehicle r hr v hv hk := (hc.trip_vehicle r hr).tenant_of_id hv hk.symm
  trip_driver r hr d hd hk := (hc.trip_driver r hr).tenant_of_id hd hk.symm
  contract_vehicle c hcm v hv hk := (hc.contract_vehicle c hcm _ hk).tenant_of_id hv rfl
  fuelLog_vehicle l hl v hv hk := (hc.fuelLog_vehicle l hl).tenant_of_id hv hk.symm
  maintenanceLog_vehicle l hl v hv hk := (hc.maintenanceLog_vehicle l hl).tenant_of_id hv hk.symm
  document_vehicle d hd v hv hk := (hc.document_vehicle d hd).tenant_of_id hv hk.symm
  workshopJob_vehicle j hj v hv hk := (hc.workshopJob_vehicle j hj).tenant_of_id hv hk.symm
  gpsLocation_vehicle l hl v hv hk := (hc.gpsLocation_vehicle l hl).tenant_of_id hv hk.symm
  driver_user d hd u hu hk := (hc.driver_user d hd _ hk).tenant_of_id hu rfl
  user_branch u hu b hb hk := (hc.user_branch u hu _ hk).tenant_of_id hb rfl
  vehicle_branch v hv b hb hk := (hc.vehicle_branch v hv _ hk).tenant_of_id hb rfl
  driver_branch d hd b hb hk := (hc.driver_branch d hd _ hk).tenant_of_id hb rfl
  booking_branch o ho b hb hk := by simp [hc.booking_branch o ho] at hk
  workshopJob_branch j hj b hb hk := by simp [hc.workshopJob_branch j hj] at hk
  userBranch_user m hm u hu hk := (hc.userBranch_user m hm).tenant_of_id hu hk.symm
  userBranch_branch m hm b hb hk := (hc.userBranch_branch m hm).tenant_of_id hb hk.symm

/-- A branch some row refers to is live. -/
theorem TenantClosed.live_of_inUse (hc : TenantClosed db.toTables) {b : Branch}
    (hb : b ∈ db.branches) (h : BranchInUse db.toTables b.id.val) : b.deletedAt = none := by
  have hlive : ∀ {T}, LiveBranch db.toTables T b.id.val → b.deletedAt = none := by
    rintro T ⟨o, ho, hk, -, hd⟩
    rwa [← db.eq_of_id .branch ho hb hk]
  rcases h with ⟨u, hu, hk⟩ | ⟨m, hm, hk⟩ | ⟨v, hv, hk⟩ | ⟨d, hd, hk⟩ | ⟨o, ho, hk⟩ | ⟨j, hj, hk⟩
  · exact hlive (hc.user_branch u hu _ hk)
  · exact hlive (hk ▸ hc.userBranch_branch m hm)
  · exact hlive (hc.vehicle_branch v hv _ hk)
  · exact hlive (hc.driver_branch d hd _ hk)
  · simp [hc.booking_branch o ho] at hk
  · simp [hc.workshopJob_branch j hj] at hk

/-- In every reachable state each foreign key between rows of tenants joins rows
of one tenant, and a soft-deleted branch is not referred to, not even by
soft-deleted rows. -/
theorem references_stay_in_tenant (h : Reachable db) :
    SameTenant db.toTables ∧
      ∀ b ∈ db.branches, b.deletedAt ≠ none → ¬BranchInUse db.toTables b.id.val := by
  have hc := tenantClosed_of_reachable h
  exact ⟨hc.sameTenant, fun b hb hd huse => hd (hc.live_of_inUse hb huse)⟩

/-- A company that opens a branch with a vehicle and closes it again. -/
theorem references_stay_in_tenant_closed_branch :
    ∃ db : Database, (∃ b ∈ db.branches, b.deletedAt ≠ none) ∧ SameTenant db.toTables ∧
      ∀ b ∈ db.branches, b.deletedAt ≠ none → ¬BranchInUse db.toTables b.id.val :=
  let rs := Sample.company ++
    [.tenant (.sample "b" 0) "t0" (.branches (.create { name := "b" })),
     .tenant (.sample "b" 0) "t0" (.vehicles (.update "v0" { branchId := .value "b0" })),
     .tenant (.sample "b" 0) "t0" (.branches (.remove "b0"))]
  ⟨run step rs Database.empty, by decide, references_stay_in_tenant ⟨rs, rfl⟩⟩

/-! ### Writes -/

/-- A row keeps its owner: what belonged to `T'` before a request of `T` and
belongs to `T` afterwards shows that the two are one. -/
theorem Permitted.owner_eq {T' : String} {db' : Database}
    (h : Permitted T db.toTables db'.toTables) {row : Row} (hrow : row.OwnedBy db.toTables T')
    (hrow' : row.OwnedBy db'.toTables T) : T' = T := by
  cases row
  case assignment a =>
    obtain ⟨v, hv, hk, rfl⟩ := hrow
    by_cases hv' : v ∈ db'.vehicles
    · exact hrow'.tenant_of_id hv' hk
    · exact h.own (.vehicle v) (.inr ⟨hv, hv'⟩)
  case maintenanceItem i =>
    obtain ⟨l, hl, hk, rfl⟩ := hrow
    by_cases hl' : l ∈ db'.maintenanceLogs
    · obtain ⟨o, ho, hok, hoT⟩ := hrow'
      rw [db'.eq_of_id .maintenanceLog hl' ho (hk.trans hok.symm), hoT]
    · exact h.own (.maintenanceLog l) (.inr ⟨hl, hl'⟩)
  case workshopItem i =>
    obtain ⟨j, hj, hk, rfl⟩ := hrow
    by_cases hj' : j ∈ db'.workshopJobs
    · obtain ⟨o, ho, hok, hoT⟩ := hrow'
      rw [db'.eq_of_id .workshopJob hj' ho (hk.trans hok.symm), hoT]
    · exact h.own (.workshopJob j) (.inr ⟨hj, hj'⟩)
  all_goals exact hrow.symm.trans hrow'

/-- In every reachable state a request of tenant `T` creates, updates and deletes
rows of `T` only, and leaves those of every other tenant exactly as they were. -/
theorem writes_stay_in_tenant (h : Reachable db) (env : Env) (T : String) (r : TenantRequest) :
    (∀ row : Row, row.Touched db.toTables (r.next env T db).toTables →
      row.OwnedBy (r.next env T db).toTables T) ∧
    ∀ T', T' ≠ T → ∀ row : Row, row.OwnedBy db.toTables T' →
      (row.In (r.next env T db).toTables ↔ row.In db.toTables) := by
  have hp : Permitted T db.toTables (r.next env T db).toTables :=
    r.permitted (tenantClosed_of_reachable h)
  refine ⟨hp.own, fun T' hne row hrow => ?_⟩
  by_contra hiff
  refine hne (hp.owner_eq hrow (hp.own row ?_))
  by_cases hin : row.In db.toTables
  · exact .inr ⟨hin, fun h' => hiff ⟨fun _ => hin, fun _ => h'⟩⟩
  · exact .inl ⟨by_contra fun h' => hiff ⟨fun h => absurd h h', fun h => absurd h hin⟩, hin⟩

/-- A second tenant removes a vehicle of its own, and fails to remove one of the first. -/
theorem writes_stay_in_tenant_two_tenants :
    let db := run step (Sample.company ++ [Sample.tenant "s", Sample.vehicle "x" "s0"])
      Database.empty
    ∀ id ∈ ["x0", "v0"], ∀ row : Row, row.OwnedBy db.toTables "t0" →
      (row.In (TenantRequest.next (.sample "y" 1) "s0" (.vehicles (.remove id)) db).toTables ↔
        row.In db.toTables) :=
  fun id _ => (writes_stay_in_tenant ⟨_, rfl⟩ (.sample "y" 1) "s0" (.vehicles (.remove id))).2
    "t0" (by decide)

/-! ### Owners -/

/-- No request moves a vehicle to another tenant. -/
theorem vehicle_tenant_step (hc : TenantClosed db.toTables) (r : Request) {v v' : Vehicle}
    (hv : v ∈ db.vehicles) (hv' : v' ∈ (step r db).vehicles) (hid : v'.id.val = v.id.val) :
    v'.tenantId = v.tenantId := by
  cases r with
  | tenant env T r =>
    have hp : Permitted T db.toTables (step (.tenant env T r) db).toTables := r.permitted hc
    exact Touched.owner_eq (db.nodup_key .vehicle) ((step (.tenant env T r) db).nodup_key .vehicle)
      (fun o ho => hp.own (.vehicle o) ho) hv hv' hid
  | platform env r =>
    have hw : Table.vehicles ∉ (Request.platform env r).writes := by simp [Request.writes]
    have hsame : (step (.platform env r) db).vehicles = db.vehicles := step_same _ hw
    rw [hsame] at hv'
    rw [db.eq_of_id .vehicle hv' hv hid]

/-- Nor a driver. -/
theorem driver_tenant_step (hc : TenantClosed db.toTables) (r : Request) {d d' : Driver}
    (hd : d ∈ db.drivers) (hd' : d' ∈ (step r db).drivers) (hid : d'.id.val = d.id.val) :
    d'.tenantId = d.tenantId := by
  cases r with
  | tenant env T r =>
    have hp : Permitted T db.toTables (step (.tenant env T r) db).toTables := r.permitted hc
    exact Touched.owner_eq (db.nodup_key .driver) ((step (.tenant env T r) db).nodup_key .driver)
      (fun o ho => hp.own (.driver o) ho) hd hd' hid
  | platform env r =>
    have hw : Table.drivers ∉ (Request.platform env r).writes := by simp [Request.writes]
    have hsame : (step (.platform env r) db).drivers = db.drivers := step_same _ hw
    rw [hsame] at hd'
    rw [db.eq_of_id .driver hd' hd hid]

end NodeVms
