/-
# What a tenant sees

`Tables.seenBy` is what belongs to a tenant: its rows, the assignments of its vehicles and
drivers, the items of its logs and jobs.  Each read of a tenant's records (`TenantRead`)
depends on these rows only: in states that agree on them it has one answer, whatever else
the tables hold.  The filters ask for the tenant, and the related rows an answer shows are
the tenant's own because references do not leave it (`TenantClosed`).  The two availability
checks are not among these reads: they look at rows of other tenants too
(`leaks_between_tenants`).
-/

import NodeVms.Services.Reads
import NodeVms.Services.Reports
import NodeVms.Store.Views
import NodeVms.Tenancy.Availability
import NodeVms.Tenancy.Isolation
import NodeVms.Tracking.Latest

namespace NodeVms

open Store Script Prisma

/-! ### The reads -/

/-- A read of a tenant's records, by the method that answers it; `cached` is what Redis answers
to `getLatest`.  The availability checks of the schedule, the profile of the user and the audit
log are read otherwise. -/
inductive TenantRead : Type → Type where
  | users (branchId : Option String) : TenantRead (List Users.SelectedUser)
  | user (id : String) : TenantRead Users.SelectedUser
  | branches : TenantRead (List Branches.ListedBranch)
  | aggregateSummary : TenantRead Branches.AggregateSummary
  | branch (id : String) : TenantRead Branches.BranchDetails
  | vehicles (status branchId : Option String) : TenantRead (List Vehicles.VehicleWithBranch)
  | vehicle (id : String) : TenantRead Vehicles.VehicleWithBranch
  | drivers (branchId : Option String) : TenantRead (List Drivers.SelectedDriver)
  | driver (id : String) : TenantRead Drivers.SelectedDriver
  | assignments (vehicleId driverId : Option String) :
    TenantRead (List Assignments.AssignmentWithParties)
  | assignment (id : String) : TenantRead Assignments.AssignmentWithParties
  | bookings : TenantRead (List Bookings.SelectedBooking)
  | booking (id : String) : TenantRead Bookings.SelectedBooking
  | contracts (type : Option String) : TenantRead (List Contracts.SelectedContract)
  | contract (id : String) : TenantRead Contracts.SelectedContract
  | expiringContracts (daysAhead : Int) : TenantRead (List Contracts.SelectedContract)
  | trips : TenantRead (List Trips.SelectedTrip)
  | trip (id : String) : TenantRead Trips.SelectedTrip
  | fuelLogs (vehicleId : Option String) : TenantRead (List Fuel.SelectedFuelLog)
  | maintenanceLogs (vehicleId : Option String) :
    TenantRead (List Maintenance.SelectedMaintenanceLog)
  | maintenanceLog (id : String) : TenantRead Maintenance.SelectedMaintenanceLog
  | documents (vehicleId : Option String) : TenantRead (List Documents.SelectedDocument)
  | expiringDocuments (daysAhead : Int) : TenantRead (List Documents.SelectedDocument)
  | jobs (status : Option WorkshopJobStatus) : TenantRead (List Workshop.SelectedJob)
  | job (id : String) : TenantRead Workshop.SelectedJob
  | incomes : TenantRead (List Income)
  | income (id : String) : TenantRead Income
  | expenses (type : Option String) : TenantRead (List Expenses.SelectedExpense)
  | alerts (status : Option AlertStatus) : TenantRead (List Alerts.SelectedAlert)
  | latest (vehicleId : String) (cached : Option RedisValue) :
    TenantRead (Option Tracking.Latest)
  | history (vehicleId : String) (limit : Nat) : TenantRead (List Tracking.SelectedLocation)
  | featureAccesses : TenantRead (List FeatureAccess)
  | subscriptions : TenantRead (List Subscription)
  | profitLoss (query : Accounting.ProfitLossQueryDto) : TenantRead Accounting.ProfitLoss
  | mileageReport (query : Reports.ReportQueryDto) : TenantRead (List Reports.MileageRow)
  | fuelReport (query : Reports.ReportQueryDto) : TenantRead (List Reports.FuelRow)
  | profitLossReport (query : Reports.ReportQueryDto) : TenantRead Accounting.ProfitLoss
  | vehicleUsageReport (query : Reports.ReportQueryDto) : TenantRead (List Reports.UsageRow)

/-- The methods, as the controllers call them for the tenant of the session. -/
def TenantRead.answer (collate : String → String → Bool) (now : Time) (tenantId : String)
    {ω : Type} : TenantRead ω → Query ω
  | .users branchId => Users.findAll collate tenantId branchId
  | .user id => Users.findOne tenantId id
  | .branches => Branches.findAll collate tenantId
  | .aggregateSummary => Branches.getAggregateSummary collate tenantId
  | .branch id => Branches.findOne tenantId id
  | .vehicles status branchId => Vehicles.findAll tenantId status branchId
  | .vehicle id => Vehicles.findOne tenantId id
  | .drivers branchId => Drivers.findAll collate tenantId branchId
  | .driver id => Drivers.findOne tenantId id
  | .assignments vehicleId driverId => Assignments.findAll tenantId vehicleId driverId
  | .assignment id => Assignments.findOne tenantId id
  | .bookings => Bookings.findAll tenantId
  | .booking id => Bookings.findOne tenantId id
  | .contracts type => Contracts.findAll tenantId type
  | .contract id => Contracts.findOne tenantId id
  | .expiringContracts daysAhead => Contracts.findExpiring now tenantId daysAhead
  | .trips => Trips.listTrips tenantId
  | .trip id => Trips.getTrip id tenantId
  | .fuelLogs vehicleId => Fuel.listLogs tenantId vehicleId
  | .maintenanceLogs vehicleId => Maintenance.findAll tenantId vehicleId
  | .maintenanceLog id => Maintenance.findOne tenantId id
  | .documents vehicleId => Documents.findAll tenantId vehicleId
  | .expiringDocuments daysAhead => Documents.findExpiring now tenantId daysAhead
  | .jobs status => Workshop.findAll tenantId status
  | .job id => Workshop.findOne tenantId id
  | .incomes => Income.findAll tenantId
  | .income id => Income.findOne tenantId id
  | .expenses type => Expenses.findAll tenantId type
  | .alerts status => Alerts.findAll tenantId status
  | .latest vehicleId cached => Tracking.getLatest tenantId vehicleId cached
  | .history vehicleId limit => Tracking.getHistory tenantId vehicleId limit
  | .featureAccesses => FeatureAccesses.findAll collate tenantId
  | .subscriptions => Subscriptions.findByTenant tenantId
  | .profitLoss query => Accounting.getProfitLoss tenantId query
  | .mileageReport query => Reports.getMileageReport tenantId query
  | .fuelReport query => Reports.getFuelReport tenantId query
  | .profitLossReport query => Reports.getProfitLossReport tenantId query
  | .vehicleUsageReport query => Reports.getVehicleUsageReport collate tenantId query

/-! ### What belongs to a tenant -/

instance (t : Tables) (tenantId k : String) : Decidable (OwnMaintenanceLog t tenantId k) := by
  unfold OwnMaintenanceLog; infer_instance

instance (t : Tables) (tenantId k : String) : Decidable (OwnWorkshopJob t tenantId k) := by
  unfold OwnWorkshopJob; infer_instance

/-- The rows of a tenant, the items of its maintenance logs and workshop jobs included. -/
def Tables.seenBy (t : Tables) (tenantId : String) : Tables :=
  { t.ofTenant tenantId with
    maintenanceItems := t.maintenanceItems.filter fun i =>
      OwnMaintenanceLog t tenantId i.maintenanceId
    workshopItems := t.workshopItems.filter fun i => OwnWorkshopJob t tenantId i.jobId }

/-- Two states a tenant cannot tell apart. -/
structure Indistinct (T : String) (db db' : Database) : Prop where
  closed : TenantClosed db.toTables
  closed' : TenantClosed db'.toTables
  seen : db.seenBy T = db'.seenBy T

/-! ### Tables with a tenant -/

/-- A table whose rows carry their tenant. -/
structure Model.Owned {α : Type} (m : Model α) (owner : α → String) : Prop where
  seen : ∀ t T, m.rows (t.seenBy T) = (m.rows t).filter fun r => owner r = T

namespace Model

theorem branch_owned : branch.Owned Branch.tenantId := ⟨fun _ _ => rfl⟩
theorem subscription_owned : subscription.Owned Subscription.tenantId := ⟨fun _ _ => rfl⟩
theorem featureAccess_owned : featureAccess.Owned FeatureAccess.tenantId := ⟨fun _ _ => rfl⟩
theorem user_owned : user.Owned User.tenantId := ⟨fun _ _ => rfl⟩
theorem userBranch_owned : userBranch.Owned UserBranch.tenantId := ⟨fun _ _ => rfl⟩
theorem vehicle_owned : vehicle.Owned Vehicle.tenantId := ⟨fun _ _ => rfl⟩
theorem driver_owned : driver.Owned Driver.tenantId := ⟨fun _ _ => rfl⟩
theorem booking_owned : booking.Owned Booking.tenantId := ⟨fun _ _ => rfl⟩
theorem contract_owned : contract.Owned Contract.tenantId := ⟨fun _ _ => rfl⟩
theorem trip_owned : trip.Owned Trip.tenantId := ⟨fun _ _ => rfl⟩
theorem fuelLog_owned : fuelLog.Owned FuelLog.tenantId := ⟨fun _ _ => rfl⟩
theorem maintenanceLog_owned : maintenanceLog.Owned MaintenanceLog.tenantId := ⟨fun _ _ => rfl⟩
theorem document_owned : document.Owned Document.tenantId := ⟨fun _ _ => rfl⟩
theorem expense_owned : expense.Owned Expense.tenantId := ⟨fun _ _ => rfl⟩
theorem income_owned : income.Owned Income.tenantId := ⟨fun _ _ => rfl⟩
theorem gpsLocation_owned : gpsLocation.Owned GpsLocation.tenantId := ⟨fun _ _ => rfl⟩
theorem workshopJob_owned : workshopJob.Owned WorkshopJob.tenantId := ⟨fun _ _ => rfl⟩
theorem alert_owned : alert.Owned Alert.tenantId := ⟨fun _ _ => rfl⟩

end Model

section Queries

variable {α ω : Type} {m : Model α} {owner : α → String} {T : String} {db db' : Database}

/-- Which of the two states comes first does not matter. -/
theorem Indistinct.symm (h : Indistinct T db db') : Indistinct T db' db :=
  ⟨h.closed', h.closed, h.seen.symm⟩

/-- A table with a tenant holds the same rows of this one. -/
theorem Indistinct.rows (h : Indistinct T db db') (hm : m.Owned owner) :
    ((m.rows db.toTables).filter fun r => owner r = T) =
      (m.rows db'.toTables).filter fun r => owner r = T := by
  rw [← hm.seen, ← hm.seen, h.seen]

/-- A row of the tenant is in both states. -/
theorem Indistinct.mem_rows (h : Indistinct T db db') (hm : m.Owned owner) {r : α}
    (hr : r ∈ m.rows db.toTables) (hT : owner r = T) : r ∈ m.rows db'.toTables := by
  have hmem : r ∈ (m.rows db'.toTables).filter fun r => owner r = T := by
    rw [← h.rows hm]
    exact List.mem_filter.2 ⟨hr, decide_eq_true hT⟩
  exact (List.mem_filter.1 hmem).1

/-- A filter that admits rows of the tenant only finds the same rows. -/
theorem Indistinct.filter_eq (h : Indistinct T db db') (hm : m.Owned owner) {p p' : α → Bool}
    (hp : ∀ r ∈ m.rows db.toTables, p r = true → owner r = T)
    (hp' : ∀ r ∈ m.rows db'.toTables, p' r = true → owner r = T)
    (heq : ∀ r ∈ m.rows db.toTables, owner r = T → p r = p' r) :
    (m.rows db.toTables).filter p = (m.rows db'.toTables).filter p' := by
  refine filter_eq_of_agree (h.rows hm) (fun r hr hpr => decide_eq_true (hp r hr hpr))
    (fun r hr hpr => decide_eq_true (hp' r hr hpr)) fun r hr => ?_
  obtain ⟨hr, hT⟩ := List.mem_filter.1 hr
  exact heq r hr (of_decide_eq_true hT)

/-- A query that asks for the tenant finds the same rows. -/
theorem respects_findMany (hm : m.Owned owner) {p : α → Bool}
    (hp : ∀ r, p r = true → owner r = T) : (findMany m p).Respects (Indistinct T) :=
  respects_read fun _ _ h =>
    h.filter_eq hm (fun r _ => hp r) (fun r _ => hp r) fun _ _ _ => rfl

/-- The lookup of a vehicle asks for the tenant. -/
theorem respects_findVehicle {id : String} : (findVehicle T id).Respects (Indistinct T) := by
  refine respects_bind (respects_read fun db db' h => ?_) fun _ => respects_orThrow
  refine find?_eq_of_filter_eq (h.filter_eq Model.vehicle_owned ?_ ?_ fun _ _ _ => rfl)
  all_goals exact fun v _ hv => (of_decide_eq_true hv).2.1

/-! ### Lists and single records -/

/-- A query that finds the same rows in states the tenant cannot tell apart, and shows the same
of them. -/
structure Shows (T : String) (m : Model α) (p : Tables → α → Prop) [∀ t r, Decidable (p t r)]
    (select : Tables → α → ω) : Prop where
  rows : ∀ db db', Indistinct T db db' →
    ((m.rows db.toTables).filter fun r => p db.toTables r) =
      (m.rows db'.toTables).filter fun r => p db'.toTables r
  select : ∀ db db', Indistinct T db db' → ∀ r ∈ m.rows db.toTables, r ∈ m.rows db'.toTables →
    p db.toTables r → select db.toTables r = select db'.toTables r

namespace Shows

variable {p : Tables → α → Prop} [∀ t r, Decidable (p t r)] {select : Tables → α → ω}

/-- A filter that asks for the tenant and does not tell the states apart. -/
theorem of_owned (hm : m.Owned owner) (hT : ∀ t r, p t r → owner r = T)
    (hp : ∀ db db', Indistinct T db db' → ∀ r, p db.toTables r ↔ p db'.toTables r)
    (hselect : ∀ {db db' : Database} {r}, Indistinct T db db' → r ∈ m.rows db.toTables →
      r ∈ m.rows db'.toTables → owner r = T → select db.toTables r = select db'.toTables r) :
    Shows T m p select where
  rows db db' h := h.filter_eq hm (fun r _ hr => hT _ r (of_decide_eq_true hr))
    (fun r _ hr => hT _ r (of_decide_eq_true hr)) fun r _ _ => decide_eq_decide.2 (hp db db' h r)
  select _ _ h r hr hr' hpr := hselect h hr hr' (hT _ r hpr)

/-- A filter on the columns of the row. -/
theorem of_row {p : α → Prop} [DecidablePred p] (hm : m.Owned owner) (hT : ∀ r, p r → owner r = T)
    (hselect : ∀ {db db' : Database} {r}, Indistinct T db db' → r ∈ m.rows db.toTables →
      r ∈ m.rows db'.toTables → owner r = T → select db.toTables r = select db'.toTables r) :
    Shows T m (fun _ => p) select :=
  of_owned hm (fun _ => hT) (fun _ _ _ _ => Iff.rfl) hselect

/-- A filter on the columns of the row, of which others are shown. -/
theorem of_columns {p : α → Prop} [DecidablePred p] {select : α → ω} (hm : m.Owned owner)
    (hT : ∀ r, p r → owner r = T) : Shows T m (fun _ => p) fun _ => select :=
  of_row hm hT fun _ _ _ _ => rfl

/-- What is shown of a row that is found. -/
theorem select_eq (hs : Shows T m p select) (h : Indistinct T db db') {r : α}
    (hr : r ∈ (m.rows db.toTables).filter fun r => p db.toTables r) :
    select db.toTables r = select db'.toTables r := by
  have hr' := hr
  rw [hs.rows db db' h] at hr'
  obtain ⟨hmem, hp⟩ := List.mem_filter.1 hr
  exact hs.select db db' h r hmem (List.mem_filter.1 hr').1 (of_decide_eq_true hp)

/-- So the list of such records is the same, in whatever order it is put. -/
theorem findRecords (hs : Shows T m p select) {orderBy : List α → List α}
    (hperm : ∀ l r, r ∈ orderBy l → r ∈ l) :
    (findRecords m p select orderBy).Respects (Indistinct T) := by
  refine respects_read fun db db' h => ?_
  rw [← hs.rows db db' h]
  exact List.map_congr_left fun r hr => hs.select_eq h (hperm _ r hr)

/-- A single record is the same as well. -/
theorem findRecord (hs : Shows T m p select) {message id : String} :
    (findRecord m id p select message).Respects (Indistinct T) := by
  refine respects_bind (respects_read fun db db' h => ?_) fun _ => respects_orThrow
  -- the lookup is one in the rows that the filter finds
  have hfind : ∀ t : Tables, ((m.rows t).find? fun r => (m.id r).val = id ∧ p t r) =
      ((m.rows t).filter fun r => p t r).find? fun r => (m.id r).val = id := by
    intro t
    rw [List.find?_filter]
    refine congrFun (congrArg List.find? (funext fun r => ?_)) _
    rw [Bool.decide_and, Bool.and_comm]
    simp
  rw [hfind, hfind, ← hs.rows db db' h]
  cases hfound : ((m.rows db.toTables).filter fun r => p db.toTables r).find? fun r =>
      (m.id r).val = id with
  | none => rfl
  | some r => exact congrArg some (hs.select_eq h (mem_of_find? hfound).1)

end Shows

end Queries

/-! ### Related rows -/

section Related

variable {T : String} {db db' : Database}

/-- The tenant's own branch is the same in both states. -/
theorem Indistinct.namedBranch_eq (h : Indistinct T db db') {k : String}
    (hk : LiveBranch db.toTables T k) (hk' : LiveBranch db'.toTables T k) :
    namedBranch db.toTables (some k) = namedBranch db'.toTables (some k) := by
  have hfind : (db.branches.find? fun b => b.id.val = k) =
      db'.branches.find? fun b => b.id.val = k := by
    refine find?_eq_of_filter_eq (h.filter_eq Model.branch_owned ?_ ?_ fun _ _ _ => rfl)
    · exact fun b hb hid => hk.tenant_of_id hb (of_decide_eq_true hid)
    · exact fun b hb hid => hk'.tenant_of_id hb (of_decide_eq_true hid)
  simp only [namedBranch, Option.bind_some, hfind]

/-- So is the branch a reference of the tenant names. -/
theorem Indistinct.namedBranch_ref (h : Indistinct T db db') {branchId : Option String}
    (href : ∀ k, branchId = some k → LiveBranch db.toTables T k)
    (href' : ∀ k, branchId = some k → LiveBranch db'.toTables T k) :
    namedBranch db.toTables branchId = namedBranch db'.toTables branchId := by
  cases branchId with
  | none => rfl
  | some k => exact h.namedBranch_eq (href k rfl) (href' k rfl)

/-- The vehicles of the tenant are the same. -/
theorem Indistinct.ownVehicle_iff (h : Indistinct T db db') {k : String} :
    OwnVehicle db.toTables T k ↔ OwnVehicle db'.toTables T k := by
  constructor
  · rintro ⟨v, hv, hid, hT⟩
    exact ⟨v, h.mem_rows Model.vehicle_owned hv hT, hid, hT⟩
  · rintro ⟨v, hv, hid, hT⟩
    exact ⟨v, h.symm.mem_rows Model.vehicle_owned hv hT, hid, hT⟩

/-- So are its drivers. -/
theorem Indistinct.ownDriver_iff (h : Indistinct T db db') {k : String} :
    OwnDriver db.toTables T k ↔ OwnDriver db'.toTables T k := by
  constructor
  · rintro ⟨d, hd, hid, hT⟩
    exact ⟨d, h.mem_rows Model.driver_owned hd hT, hid, hT⟩
  · rintro ⟨d, hd, hid, hT⟩
    exact ⟨d, h.symm.mem_rows Model.driver_owned hd hT, hid, hT⟩

/-! ### What the services show -/

/-- A user with its branches. -/
theorem Users.userSelect_eq {u : User} (h : Indistinct T db db') (hu : u ∈ db.users)
    (hu' : u ∈ db'.users) (hT : u.tenantId = T) :
    userSelect db.toTables u = userSelect db'.toTables u := by
  have hmemberships : (db.userBranches.filter fun m => m.userId = u.id.val) =
      db'.userBranches.filter fun m => m.userId = u.id.val := by
    refine h.filter_eq Model.userBranch_owned ?_ ?_ fun _ _ _ => rfl
    · intro m hm hid
      have hown : u.tenantId = m.tenantId :=
        (h.closed.userBranch_user m hm).tenant_of_id hu (of_decide_eq_true hid).symm
      exact hown.symm.trans hT
    · intro m hm hid
      have hown : u.tenantId = m.tenantId :=
        (h.closed'.userBranch_user m hm).tenant_of_id hu' (of_decide_eq_true hid).symm
      exact hown.symm.trans hT
  have hbranches : ((db.userBranches.filter fun m => m.userId = u.id.val).map fun m =>
      namedBranch db.toTables (some m.branchId)) =
      (db'.userBranches.filter fun m => m.userId = u.id.val).map fun m =>
        namedBranch db'.toTables (some m.branchId) := by
    rw [← hmemberships]
    refine List.map_congr_left fun m hm => ?_
    have hm' : m ∈ db'.userBranches := (List.mem_filter.1 (hmemberships ▸ hm)).1
    obtain ⟨hm, hid⟩ := List.mem_filter.1 hm
    have hmT : m.tenantId = T :=
      ((h.closed.userBranch_user m hm).tenant_of_id hu (of_decide_eq_true hid).symm).symm.trans hT
    exact h.namedBranch_eq (hmT ▸ h.closed.userBranch_branch m hm)
      (hmT ▸ h.closed'.userBranch_branch m hm')
  have hbranch : namedBranch db.toTables u.branchId = namedBranch db'.toTables u.branchId :=
    h.namedBranch_ref (fun k hk => hT ▸ h.closed.user_branch u hu k hk)
      fun k hk => hT ▸ h.closed'.user_branch u hu' k hk
  rw [userSelect, userSelect, hbranch, hbranches]

/-- Whether a user is in a branch depends on the user's memberships. -/
theorem Users.inBranch_eq (h : Indistinct T db db') (branchId : Option String) (u : User) :
    inBranch T branchId db.toTables u = inBranch T branchId db'.toTables u := by
  refine decide_eq_decide.2 (forall_congr' fun k => imp_congr_right fun _ => or_congr_right ?_)
  constructor
  · rintro ⟨m, hm, hid, hk, hT⟩
    exact ⟨m, h.mem_rows Model.userBranch_owned hm hT, hid, hk, hT⟩
  · rintro ⟨m, hm, hid, hk, hT⟩
    exact ⟨m, h.symm.mem_rows Model.userBranch_owned hm hT, hid, hk, hT⟩

/-- The users of a branch, or of all. -/
theorem Users.shows {branchId : Option String} : Shows T .user
    (fun t u => u.tenantId = T ∧ u.deletedAt = none ∧ u.role ∈ MANAGEABLE_ROLES ∧
      inBranch T branchId t u) userSelect :=
  .of_owned Model.user_owned (fun _ _ h => h.1)
    (fun _ _ h u => by rw [inBranch_eq h branchId u]) userSelect_eq

/-- What refers to a branch of the tenant is the tenant's. -/
theorem Indistinct.filter_branchId {α : Type} {m : Model α} {owner : α → String}
    (h : Indistinct T db db') (hm : m.Owned owner) {branchId : α → Option String} {b : Branch}
    (hb : b ∈ db.branches) (hb' : b ∈ db'.branches) (hT : b.tenantId = T)
    (href : ∀ db : Database, TenantClosed db.toTables → ∀ r ∈ m.rows db.toTables, ∀ k,
      branchId r = some k → LiveBranch db.toTables (owner r) k) {p : α → Bool}
    (hp : ∀ r, p r = true → branchId r = some b.id.val) :
    (m.rows db.toTables).filter p = (m.rows db'.toTables).filter p := by
  refine h.filter_eq hm ?_ ?_ fun _ _ _ => rfl
  · intro r hr hk
    have hown : b.tenantId = owner r :=
      (href db h.closed r hr _ (hp r hk)).tenant_of_id hb rfl
    exact hown.symm.trans hT
  · intro r hr hk
    have hown : b.tenantId = owner r :=
      (href db' h.closed' r hr _ (hp r hk)).tenant_of_id hb' rfl
    exact hown.symm.trans hT

/-- The users of one of the tenant's branches are the tenant's. -/
theorem Indistinct.usersOf (h : Indistinct T db db') {b : Branch} (hb : b ∈ db.branches)
    (hb' : b ∈ db'.branches) (hT : b.tenantId = T) {p : User → Bool}
    (hp : ∀ u, p u = true → u.branchId = some b.id.val) : db.users.filter p = db'.users.filter p :=
  h.filter_branchId Model.user_owned hb hb' hT (fun _ hc => hc.user_branch) hp

/-- So are its vehicles. -/
theorem Indistinct.vehiclesOf (h : Indistinct T db db') {b : Branch} (hb : b ∈ db.branches)
    (hb' : b ∈ db'.branches) (hT : b.tenantId = T) {p : Vehicle → Bool}
    (hp : ∀ v, p v = true → v.branchId = some b.id.val) :
    db.vehicles.filter p = db'.vehicles.filter p :=
  h.filter_branchId Model.vehicle_owned hb hb' hT (fun _ hc => hc.vehicle_branch) hp

/-- So are its drivers. -/
theorem Indistinct.driversOf (h : Indistinct T db db') {b : Branch} (hb : b ∈ db.branches)
    (hb' : b ∈ db'.branches) (hT : b.tenantId = T) {p : Driver → Bool}
    (hp : ∀ d, p d = true → d.branchId = some b.id.val) :
    db.drivers.filter p = db'.drivers.filter p :=
  h.filter_branchId Model.driver_owned hb hb' hT (fun _ hc => hc.driver_branch) hp

/-- A branch with what refers to it. -/
theorem Branches.listed_eq {b : Branch} (h : Indistinct T db db') (hb : b ∈ db.branches)
    (hb' : b ∈ db'.branches) (hT : b.tenantId = T) :
    listed db.toTables b = listed db'.toTables b := by
  rw [listed, listed,
    countP_eq_of_filter_eq (h.usersOf hb hb' hT fun _ hp => of_decide_eq_true hp),
    countP_eq_of_filter_eq (h.vehiclesOf hb hb' hT fun _ hp => of_decide_eq_true hp),
    countP_eq_of_filter_eq (h.driversOf hb hb' hT fun _ hp => of_decide_eq_true hp)]

/-- The counts of a branch of the tenant. -/
theorem Branches.count_eq (h : Indistinct T db db') {b : Branch} (hb : b ∈ db.branches)
    (hb' : b ∈ db'.branches) (hT : b.tenantId = T) :
    BranchCount.of db.toTables b.id = BranchCount.of db'.toTables b.id := by
  have hbookings : (db.bookings.filter fun o => o.branchId = some b.id.val) =
      db'.bookings.filter fun o => o.branchId = some b.id.val :=
    h.filter_branchId Model.booking_owned hb hb' hT
      (fun _ hc o ho k hk => by simp [hc.booking_branch o ho] at hk) fun _ hp =>
        of_decide_eq_true hp
  have hjobs : (db.workshopJobs.filter fun j => j.branchId = some b.id.val) =
      db'.workshopJobs.filter fun j => j.branchId = some b.id.val :=
    h.filter_branchId Model.workshopJob_owned hb hb' hT
      (fun _ hc j hj k hk => by simp [hc.workshopJob_branch j hj] at hk) fun _ hp =>
        of_decide_eq_true hp
  rw [BranchCount.of, BranchCount.of,
    countP_eq_of_filter_eq (h.usersOf hb hb' hT fun _ hp => of_decide_eq_true hp),
    countP_eq_of_filter_eq (h.vehiclesOf hb hb' hT fun _ hp => of_decide_eq_true hp),
    countP_eq_of_filter_eq (h.driversOf hb hb' hT fun _ hp => of_decide_eq_true hp),
    countP_eq_of_filter_eq hbookings, countP_eq_of_filter_eq hjobs]

/-- A vehicle with its branch. -/
theorem Vehicles.withBranch_eq {v : Vehicle} (h : Indistinct T db db') (hv : v ∈ db.vehicles)
    (hv' : v ∈ db'.vehicles) (hT : v.tenantId = T) :
    withBranch db.toTables v = withBranch db'.toTables v := by
  rw [withBranch, withBranch, h.namedBranch_ref
    (fun k hk => hT ▸ h.closed.vehicle_branch v hv k hk)
    fun k hk => hT ▸ h.closed'.vehicle_branch v hv' k hk]

/-- A driver with its branch. -/
theorem Drivers.driverSelect_eq {d : Driver} (h : Indistinct T db db') (hd : d ∈ db.drivers)
    (hd' : d ∈ db'.drivers) (hT : d.tenantId = T) :
    driverSelect db.toTables d = driverSelect db'.toTables d := by
  rw [driverSelect, driverSelect, h.namedBranch_ref
    (fun k hk => hT ▸ h.closed.driver_branch d hd k hk)
    fun k hk => hT ▸ h.closed'.driver_branch d hd' k hk]

/-- The driver of an assignment is the tenant's whose the vehicle is. -/
theorem TenantClosed.ownDriver_of_assignment (hc : TenantClosed db.toTables) {a : Assignment}
    (ha : a ∈ db.assignments) (hv : OwnVehicle db.toTables T a.vehicleId) :
    OwnDriver db.toTables T a.driverId := by
  obtain ⟨T', hv', hd⟩ := hc.assignment a ha
  obtain rfl : T' = T := hv.tenant_eq hv'
  exact hd

/-- The assignments of a tenant's vehicles, with a condition on their columns. -/
theorem Assignments.shows {q : Assignment → Prop} [DecidablePred q] :
    Shows T .assignment (fun t a => a.deletedAt = none ∧ vehicleOf T t a ∧ q a) withParties where
  rows db db' h := by
    have hseen : (db.assignments.filter fun a =>
        OwnVehicle db.toTables T a.vehicleId ∨ OwnDriver db.toTables T a.driverId) =
        db'.assignments.filter fun a =>
          OwnVehicle db'.toTables T a.vehicleId ∨ OwnDriver db'.toTables T a.driverId :=
      congrArg Tables.assignments h.seen
    refine filter_eq_of_agree hseen ?_ ?_ fun a _ => decide_eq_decide.2 ?_
    · exact fun a _ ha => decide_eq_true (.inl (of_decide_eq_true ha).2.1)
    · exact fun a _ ha => decide_eq_true (.inl (of_decide_eq_true ha).2.1)
    · exact and_congr_right fun _ => and_congr_left fun _ => h.ownVehicle_iff
  select db db' h a ha ha' hp := by
    have hv : OwnVehicle db.toTables T a.vehicleId := hp.2.1
    have hv' : OwnVehicle db'.toTables T a.vehicleId := h.ownVehicle_iff.1 hv
    have hd : OwnDriver db.toTables T a.driverId := h.closed.ownDriver_of_assignment ha hv
    have hd' : OwnDriver db'.toTables T a.driverId := h.ownDriver_iff.1 hd
    have hvehicle : (db.vehicles.find? fun v => v.id.val = a.vehicleId) =
        db'.vehicles.find? fun v => v.id.val = a.vehicleId := by
      refine find?_eq_of_filter_eq (h.filter_eq Model.vehicle_owned ?_ ?_ fun _ _ _ => rfl)
      · exact fun v hv₁ hid => hv.tenant_of_id hv₁ (of_decide_eq_true hid)
      · exact fun v hv₁ hid => hv'.tenant_of_id hv₁ (of_decide_eq_true hid)
    have hdriver : (db.drivers.find? fun d => d.id.val = a.driverId) =
        db'.drivers.find? fun d => d.id.val = a.driverId := by
      refine find?_eq_of_filter_eq (h.filter_eq Model.driver_owned ?_ ?_ fun _ _ _ => rfl)
      · exact fun d hd₁ hid => hd.tenant_of_id hd₁ (of_decide_eq_true hid)
      · exact fun d hd₁ hid => hd'.tenant_of_id hd₁ (of_decide_eq_true hid)
    rw [withParties, withParties, hvehicle, hdriver]

/-- And without one. -/
theorem Assignments.shows_one :
    Shows T .assignment (fun t a => a.deletedAt = none ∧ vehicleOf T t a) withParties := by
  have hs := Assignments.shows (T := T) (q := fun _ => True)
  simpa only [and_true] using hs

/-- A maintenance log with its items. -/
theorem Maintenance.maintenanceLogSelect_eq {l : MaintenanceLog} (h : Indistinct T db db')
    (hl : l ∈ db.maintenanceLogs) (hl' : l ∈ db'.maintenanceLogs) (hT : l.tenantId = T) :
    maintenanceLogSelect db.toTables l = maintenanceLogSelect db'.toTables l := by
  have hseen : (db.maintenanceItems.filter fun i =>
      OwnMaintenanceLog db.toTables T i.maintenanceId) =
      db'.maintenanceItems.filter fun i => OwnMaintenanceLog db'.toTables T i.maintenanceId :=
    congrArg Tables.maintenanceItems h.seen
  have hitems : (db.maintenanceItems.filter fun i => i.maintenanceId = l.id.val) =
      db'.maintenanceItems.filter fun i => i.maintenanceId = l.id.val := by
    refine filter_eq_of_agree hseen ?_ ?_ fun _ _ => rfl
    · exact fun i _ hi => decide_eq_true ⟨l, hl, (of_decide_eq_true hi).symm, hT⟩
    · exact fun i _ hi => decide_eq_true ⟨l, hl', (of_decide_eq_true hi).symm, hT⟩
  rw [maintenanceLogSelect, maintenanceLogSelect, hitems]

/-- A workshop job with its items. -/
theorem Workshop.jobSelect_eq {j : WorkshopJob} (h : Indistinct T db db')
    (hj : j ∈ db.workshopJobs) (hj' : j ∈ db'.workshopJobs) (hT : j.tenantId = T) :
    jobSelect db.toTables j = jobSelect db'.toTables j := by
  have hseen : (db.workshopItems.filter fun i => OwnWorkshopJob db.toTables T i.jobId) =
      db'.workshopItems.filter fun i => OwnWorkshopJob db'.toTables T i.jobId :=
    congrArg Tables.workshopItems h.seen
  have hitems : (db.workshopItems.filter fun i => i.jobId = j.id.val) =
      db'.workshopItems.filter fun i => i.jobId = j.id.val := by
    refine filter_eq_of_agree hseen ?_ ?_ fun _ _ => rfl
    · exact fun i _ hi => decide_eq_true ⟨j, hj, (of_decide_eq_true hi).symm, hT⟩
    · exact fun i _ hi => decide_eq_true ⟨j, hj', (of_decide_eq_true hi).symm, hT⟩
  rw [jobSelect, jobSelect, hitems]

/-! ### Reads of several queries -/

/-- Whether a status is known does not depend on the tables. -/
theorem VehicleStatus.respects_parse (status : Option String) :
    (parse status).Respects (Indistinct T) := by
  unfold parse
  split
  · exact respects_pure none
  · exact respects_bind respects_orThrow fun _ => respects_pure _

/-- The page of a branch counts and lists what is in the branch. -/
theorem Branches.respects_findOne {id : String} :
    (Branches.findOne T id).Respects (Indistinct T) := by
  let R : Branch → Database → Database → Prop := fun b db db' =>
    Indistinct T db db' ∧ b ∈ db.branches ∧ b ∈ db'.branches ∧ b.id.val = id ∧ b.tenantId = T
  have hfound : ∀ {db : Database} {b : Branch}, (findOwn T id).eval db = .ok b →
      b ∈ db.branches ∧ b.id.val = id ∧ b.tenantId = T := by
    intro db b hb
    simp [findOwn] at hb
    exact ⟨hb.1, hb.2.1, hb.2.2.1⟩
  have hown : (findOwn T id).Respects (Indistinct T) := by
    refine respects_bind (respects_read fun db db' h => ?_) fun _ => respects_orThrow
    refine find?_eq_of_filter_eq (h.filter_eq Model.branch_owned ?_ ?_ fun _ _ _ => rfl)
    all_goals exact fun b _ hb => (of_decide_eq_true hb).2.1
  refine respects_bind_of R hown (fun b db db' h hb hb' => ?_) fun b => ?_
  · obtain ⟨hmem, hid, hT⟩ := hfound hb
    exact ⟨h, hmem, (hfound hb').1, hid, hT⟩
  -- from here on the branch is one of the tenant, in both states
  · refine respects_bind (respects_read fun db db' => ?_) fun _ => ?_
    · rintro ⟨h, hb, hb', rfl, hT⟩
      exact h.usersOf hb hb' hT fun _ hp => (of_decide_eq_true hp).1
    refine respects_bind (respects_read fun db db' => ?_) fun _ => ?_
    · rintro ⟨h, hb, hb', rfl, hT⟩
      exact h.vehiclesOf hb hb' hT fun _ hp => (of_decide_eq_true hp).1
    refine respects_bind (respects_read fun db db' => ?_) fun _ => ?_
    · rintro ⟨h, hb, hb', rfl, hT⟩
      exact h.driversOf hb hb' hT fun _ hp => (of_decide_eq_true hp).1
    refine respects_bind (respects_read fun db db' => ?_) fun _ => respects_pure _
    rintro ⟨h, hb, hb', rfl, hT⟩
    exact count_eq h hb hb' hT

/-- The summary counts what is in each branch of the tenant. -/
theorem Branches.respects_getAggregateSummary {collate : String → String → Bool} :
    (getAggregateSummary collate T).Respects (Indistinct T) := by
  let R : List Branch → Database → Database → Prop := fun rows db db' =>
    Indistinct T db db' ∧ ∀ b ∈ rows, b ∈ db.branches ∧ b ∈ db'.branches ∧ b.tenantId = T
  refine respects_bind_of R
    (respects_findMany Model.branch_owned fun _ h => (of_decide_eq_true h).1)
    (fun rows db db' h hrows hrows' => ⟨h, fun b hb => ?_⟩) fun rows =>
      respects_bind (respects_read fun db db' hR => ?_) fun _ => respects_pure _
  · rw [eval_findMany, Except.ok.injEq] at hrows hrows'
    obtain ⟨hmem, hp⟩ := List.mem_filter.1 (hrows ▸ hb)
    exact ⟨hmem, (List.mem_filter.1 (hrows' ▸ hb)).1, (of_decide_eq_true hp).1⟩
  · refine List.map_congr_left fun b hb => ?_
    obtain ⟨hb, hb', hT⟩ := hR.2 b ((List.perm_insertionSort _ _).mem_iff.1 hb)
    rw [count_eq hR.1 hb hb' hT]

/-- The cached position answers before the table is read. -/
theorem Tracking.respects_getLatest {vehicleId : String} {cached : Option RedisValue} :
    (getLatest T vehicleId cached).Respects (Indistinct T) := by
  refine respects_bind respects_findVehicle fun _ => ?_
  cases cached with
  | some value => exact respects_pure _
  | none =>
    exact respects_bind (respects_findMany Model.gpsLocation_owned
      fun _ h => (of_decide_eq_true h).2) fun _ => respects_pure _

/-- Whether a date is one does not depend on them either. -/
theorem JsDate.respects_validOpt (d : Option JsDate) : (validOpt d).Respects (Indistinct T) := by
  cases d with
  | none => exact respects_pure none
  | some d => exact respects_bind respects_orThrow fun _ => respects_pure _

/-- Each of the five queries asks for the tenant. -/
theorem Accounting.respects_getProfitLoss (query : ProfitLossQueryDto) :
    (getProfitLoss T query).Respects (Indistinct T) := by
  refine respects_bind (JsDate.respects_validOpt _) fun _ => ?_
  refine respects_bind (JsDate.respects_validOpt _) fun _ => ?_
  refine respects_bind (respects_findMany Model.income_owned
    fun _ h => (of_decide_eq_true h).1) fun _ => ?_
  refine respects_bind (respects_findMany Model.trip_owned
    fun _ h => (of_decide_eq_true h).1) fun _ => ?_
  refine respects_bind (respects_findMany Model.expense_owned
    fun _ h => (of_decide_eq_true h).1) fun _ => ?_
  refine respects_bind (respects_findMany Model.fuelLog_owned
    fun _ h => (of_decide_eq_true h).1) fun _ => ?_
  exact respects_bind (respects_findMany Model.maintenanceLog_owned
    fun _ h => (of_decide_eq_true h).1) fun _ => respects_pure _

/-- The trips are the tenant's, and the vehicles whose numbers are shown. -/
theorem Reports.respects_getMileageReport (query : ReportQueryDto) :
    (getMileageReport T query).Respects (Indistinct T) := by
  refine respects_bind (JsDate.respects_validOpt _) fun _ => ?_
  refine respects_bind (JsDate.respects_validOpt _) fun _ => ?_
  refine respects_bind (respects_findMany Model.trip_owned
    fun _ h => (of_decide_eq_true h).1) fun _ => respects_ite (respects_pure _) ?_
  exact respects_bind (respects_findMany Model.vehicle_owned
    fun _ h => (of_decide_eq_true h).2.1) fun _ => respects_pure _

/-- Likewise the fuel logs. -/
theorem Reports.respects_getFuelReport (query : ReportQueryDto) :
    (getFuelReport T query).Respects (Indistinct T) := by
  refine respects_bind (JsDate.respects_validOpt _) fun _ => ?_
  refine respects_bind (JsDate.respects_validOpt _) fun _ => ?_
  refine respects_bind (respects_findMany Model.fuelLog_owned
    fun _ h => (of_decide_eq_true h).1) fun _ => respects_ite (respects_pure _) ?_
  exact respects_bind (respects_findMany Model.vehicle_owned
    fun _ h => (of_decide_eq_true h).2.1) fun _ => respects_pure _

/-- The report joins four tables, all of the tenant. -/
theorem Reports.respects_getVehicleUsageReport {collate : String → String → Bool}
    (query : ReportQueryDto) : (getVehicleUsageReport collate T query).Respects (Indistinct T) := by
  refine respects_bind (JsDate.respects_validOpt _) fun _ => ?_
  refine respects_bind (JsDate.respects_validOpt _) fun _ => ?_
  refine respects_bind (respects_findMany Model.vehicle_owned
    fun _ h => (of_decide_eq_true h).1) fun _ => ?_
  refine respects_bind (respects_findMany Model.trip_owned
    fun _ h => (of_decide_eq_true h).1) fun _ => ?_
  refine respects_bind (respects_findMany Model.fuelLog_owned
    fun _ h => (of_decide_eq_true h).1) fun _ => ?_
  exact respects_bind (respects_findMany Model.maintenanceLog_owned
    fun _ h => (of_decide_eq_true h).1) fun _ => respects_pure _

/-! ### Every read -/

/-- No read of a tenant's records tells apart states that agree on them. -/
theorem TenantRead.respects {ω : Type} (q : TenantRead ω) (collate : String → String → Bool)
    (now : Time) : (q.answer collate now T).Respects (Indistinct T) := by
  have hasc : ∀ {α : Type} {column : α → Time} (l : List α) (r : α),
      r ∈ asc column l → r ∈ l := fun _ _ => asc_perm.mem_iff.1
  have hdesc : ∀ {α : Type} {column : α → Time} (l : List α) (r : α),
      r ∈ desc column l → r ∈ l := fun _ _ => desc_perm.mem_iff.1
  have halphabetic : ∀ {α : Type} {column : α → String} (l : List α) (r : α),
      r ∈ alphabetic collate column l → r ∈ l := fun _ _ => alphabetic_perm.mem_iff.1
  have hnewest : ∀ {α : Type} (l : List α) (r : α), r ∈ newest l → r ∈ l :=
    fun _ _ => newest_perm.mem_iff.1
  cases q with
  | users branchId =>
    exact Users.shows.findRecords halphabetic
  | user id => exact (Shows.of_row Model.user_owned (fun _ h => h.1) Users.userSelect_eq).findRecord
  | branches =>
    exact (Shows.of_row Model.branch_owned (fun _ h => h.1) Branches.listed_eq).findRecords
      halphabetic
  | aggregateSummary => exact Branches.respects_getAggregateSummary
  | branch id => exact Branches.respects_findOne
  | vehicles status branchId =>
    exact respects_bind (VehicleStatus.respects_parse status) fun _ =>
      (Shows.of_row Model.vehicle_owned (fun _ h => h.1) Vehicles.withBranch_eq).findRecords hnewest
  | vehicle id =>
    exact (Shows.of_row Model.vehicle_owned (fun _ h => h.1) Vehicles.withBranch_eq).findRecord
  | drivers branchId =>
    exact (Shows.of_row Model.driver_owned (fun _ h => h.1) Drivers.driverSelect_eq).findRecords
      halphabetic
  | driver id =>
    exact (Shows.of_row Model.driver_owned (fun _ h => h.1) Drivers.driverSelect_eq).findRecord
  | assignments vehicleId driverId => exact Assignments.shows.findRecords hdesc
  | assignment id => exact Assignments.shows_one.findRecord
  | bookings => exact (Shows.of_columns Model.booking_owned fun _ h => h.1).findRecords hasc
  | booking id => exact (Shows.of_columns Model.booking_owned fun _ h => h.1).findRecord
  | contracts type => exact (Shows.of_columns Model.contract_owned fun _ h => h.1).findRecords hasc
  | contract id => exact (Shows.of_columns Model.contract_owned fun _ h => h.1).findRecord
  | expiringContracts daysAhead =>
    exact (Shows.of_columns Model.contract_owned fun _ h => h.1).findRecords hasc
  | trips => exact (Shows.of_columns Model.trip_owned fun _ h => h.1).findRecords hdesc
  | trip id => exact (Shows.of_columns Model.trip_owned fun _ h => h.1).findRecord
  | fuelLogs vehicleId =>
    exact (Shows.of_columns Model.fuelLog_owned fun _ h => h.1).findRecords hdesc
  | maintenanceLogs vehicleId =>
    exact (Shows.of_row Model.maintenanceLog_owned (fun _ h => h.1)
      Maintenance.maintenanceLogSelect_eq).findRecords hdesc
  | maintenanceLog id =>
    exact (Shows.of_row Model.maintenanceLog_owned (fun _ h => h.1)
      Maintenance.maintenanceLogSelect_eq).findRecord
  | documents vehicleId =>
    exact (Shows.of_columns Model.document_owned fun _ h => h.1).findRecords hasc
  | expiringDocuments daysAhead =>
    exact (Shows.of_columns Model.document_owned fun _ h => h.1).findRecords hasc
  | jobs status =>
    exact (Shows.of_row Model.workshopJob_owned (fun _ h => h.1)
      Workshop.jobSelect_eq).findRecords hnewest
  | job id =>
    exact (Shows.of_row Model.workshopJob_owned (fun _ h => h.1) Workshop.jobSelect_eq).findRecord
  | incomes => exact (Shows.of_columns Model.income_owned fun _ h => h.1).findRecords hdesc
  | income id => exact (Shows.of_columns Model.income_owned fun _ h => h.1).findRecord
  | expenses type => exact (Shows.of_columns Model.expense_owned fun _ h => h.1).findRecords hdesc
  | alerts status => exact (Shows.of_columns Model.alert_owned fun _ h => h.1).findRecords hdesc
  | latest vehicleId cached => exact Tracking.respects_getLatest
  | history vehicleId limit =>
    exact respects_bind respects_findVehicle fun _ =>
      (Shows.of_columns Model.gpsLocation_owned fun _ h => h.2).findRecords
        fun l r hr => hdesc l r (List.mem_of_mem_take hr)
  | featureAccesses =>
    exact (Shows.of_columns Model.featureAccess_owned fun _ h => h.1).findRecords halphabetic
  | subscriptions =>
    exact (Shows.of_columns Model.subscription_owned fun _ h => h.1).findRecords hnewest
  | profitLoss query => exact Accounting.respects_getProfitLoss query
  | mileageReport query => exact Reports.respects_getMileageReport query
  | fuelReport query => exact Reports.respects_getFuelReport query
  | profitLossReport query => exact Accounting.respects_getProfitLoss _
  | vehicleUsageReport query => exact Reports.respects_getVehicleUsageReport query

/-- In reachable states that agree on what belongs to a tenant every read of its records has
the same answer, whatever the tables hold of other tenants. -/
theorem reads_see_own_rows (h : Reachable db) (h' : Reachable db')
    (hsee : db.seenBy T = db'.seenBy T) {ω : Type} (q : TenantRead ω)
    (collate : String → String → Bool) (now : Time) :
    (q.answer collate now T).eval db = (q.answer collate now T).eval db' :=
  q.respects collate now db db'
    ⟨tenantClosed_of_reachable h, tenantClosed_of_reachable h', hsee⟩

end Related

/-- A second company with a vehicle, which the first one does not see. -/
theorem reads_see_own_rows_two_companies :
    let db := run step Sample.company Database.empty
    let db' := run step (Sample.company ++ [Sample.tenant "s", Sample.vehicle "x" "s0"])
      Database.empty
    db.vehicles ≠ db'.vehicles ∧
      ((TenantRead.vehicles none none).answer (fun a b => a ≤ b) 0 "t0").eval db =
        ((TenantRead.vehicles none none).answer (fun a b => a ≤ b) 0 "t0").eval db' :=
  ⟨by decide, reads_see_own_rows ⟨_, rfl⟩ ⟨_, rfl⟩ (by decide) (.vehicles none none) _ _⟩

end NodeVms
