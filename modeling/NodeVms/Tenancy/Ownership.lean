/-
# Which tenant a row belongs to

A row belongs to the tenant in its `tenantId`; a row without one belongs to the
tenant of its parent: an assignment to that of its vehicle, an item to that of
its log or job.  `TenantClosed` says that references never leave the tenant and
never name a removed branch.

Most services check the tenant on a read and then write by bare id, or write
rows they reach through a foreign key, so the two questions (do references stay
inside, does a request only touch its own rows) have to be answered together:
`Permitted T t₀ t` says that the statements from `t₀` to `t` keep `TenantClosed`
and touch rows of `T` only, and the lemmas below extend it by one statement.
-/

import NodeVms.System

namespace NodeVms

open Store

/-! ### Names of rows -/

/-- `k` names a vehicle of the tenant, soft-deleted or not. -/
def OwnVehicle (t : Tables) (tenantId k : String) : Prop :=
  ∃ v ∈ t.vehicles, v.id.val = k ∧ v.tenantId = tenantId

/-- A driver of the tenant has this id. -/
def OwnDriver (t : Tables) (tenantId k : String) : Prop :=
  ∃ d ∈ t.drivers, d.id.val = k ∧ d.tenantId = tenantId

/-- A user of the tenant has it. -/
def OwnUser (t : Tables) (tenantId k : String) : Prop :=
  ∃ u ∈ t.users, u.id.val = k ∧ u.tenantId = tenantId

/-- A maintenance log of the tenant has it. -/
def OwnMaintenanceLog (t : Tables) (tenantId k : String) : Prop :=
  ∃ l ∈ t.maintenanceLogs, l.id.val = k ∧ l.tenantId = tenantId

/-- A workshop job of the tenant has it. -/
def OwnWorkshopJob (t : Tables) (tenantId k : String) : Prop :=
  ∃ j ∈ t.workshopJobs, j.id.val = k ∧ j.tenantId = tenantId

/-- Some row refers to the branch `k`. -/
def BranchInUse (t : Tables) (k : String) : Prop :=
  (∃ u ∈ t.users, u.branchId = some k) ∨ (∃ m ∈ t.userBranches, m.branchId = k) ∨
    (∃ v ∈ t.vehicles, v.branchId = some k) ∨ (∃ d ∈ t.drivers, d.branchId = some k) ∨
    (∃ b ∈ t.bookings, b.branchId = some k) ∨ ∃ j ∈ t.workshopJobs, j.branchId = some k

/-! ### References -/

/-- Every reference between rows of tenants joins rows of one tenant, and every
reference to a branch names a live one.  `Booking.vehicle` and `Booking.driver`
are not in the list: see `NodeVms.Bookings`. -/
structure TenantClosed (t : Tables) : Prop where
  user_branch : ∀ u ∈ t.users, ∀ k, u.branchId = some k → LiveBranch t u.tenantId k
  userBranch_branch : ∀ m ∈ t.userBranches, LiveBranch t m.tenantId m.branchId
  userBranch_user : ∀ m ∈ t.userBranches, OwnUser t m.tenantId m.userId
  vehicle_branch : ∀ v ∈ t.vehicles, ∀ k, v.branchId = some k → LiveBranch t v.tenantId k
  driver_branch : ∀ d ∈ t.drivers, ∀ k, d.branchId = some k → LiveBranch t d.tenantId k
  driver_user : ∀ d ∈ t.drivers, ∀ k, d.userId = some k → OwnUser t d.tenantId k
  /-- An assignment has no `tenantId`; its vehicle and its driver agree on one. -/
  assignment : ∀ a ∈ t.assignments, ∃ T, OwnVehicle t T a.vehicleId ∧ OwnDriver t T a.driverId
  /-- No service fills the `branchId` of a booking. -/
  booking_branch : ∀ b ∈ t.bookings, b.branchId = none
  contract_vehicle : ∀ c ∈ t.contracts, ∀ k, c.vehicleId = some k → OwnVehicle t c.tenantId k
  trip_vehicle : ∀ r ∈ t.trips, OwnVehicle t r.tenantId r.vehicleId
  trip_driver : ∀ r ∈ t.trips, OwnDriver t r.tenantId r.driverId
  fuelLog_vehicle : ∀ l ∈ t.fuelLogs, OwnVehicle t l.tenantId l.vehicleId
  maintenanceLog_vehicle : ∀ l ∈ t.maintenanceLogs, OwnVehicle t l.tenantId l.vehicleId
  document_vehicle : ∀ d ∈ t.documents, OwnVehicle t d.tenantId d.vehicleId
  gpsLocation_vehicle : ∀ l ∈ t.gpsLocations, OwnVehicle t l.tenantId l.vehicleId
  workshopJob_vehicle : ∀ j ∈ t.workshopJobs, OwnVehicle t j.tenantId j.vehicleId
  /-- Nor that of a workshop job. -/
  workshopJob_branch : ∀ j ∈ t.workshopJobs, j.branchId = none

/-! ### Rows -/

/-- A row of some table. -/
inductive Row where
  | tenant (r : Tenant)
  | branch (r : Branch)
  | subscription (r : Subscription)
  | featureAccess (r : FeatureAccess)
  | user (r : User)
  | userBranch (r : UserBranch)
  | vehicle (r : Vehicle)
  | driver (r : Driver)
  | assignment (r : Assignment)
  | booking (r : Booking)
  | contract (r : Contract)
  | trip (r : Trip)
  | fuelLog (r : FuelLog)
  | maintenanceLog (r : MaintenanceLog)
  | maintenanceItem (r : MaintenanceItem)
  | document (r : Document)
  | expense (r : Expense)
  | income (r : Income)
  | gpsLocation (r : GpsLocation)
  | workshopJob (r : WorkshopJob)
  | workshopItem (r : WorkshopItem)
  | alert (r : Alert)

namespace Row

/-- The row is in its table. -/
def In (t : Tables) : Row → Prop
  | .tenant r => r ∈ t.tenants
  | .branch r => r ∈ t.branches
  | .subscription r => r ∈ t.subscriptions
  | .featureAccess r => r ∈ t.featureAccesses
  | .user r => r ∈ t.users
  | .userBranch r => r ∈ t.userBranches
  | .vehicle r => r ∈ t.vehicles
  | .driver r => r ∈ t.drivers
  | .assignment r => r ∈ t.assignments
  | .booking r => r ∈ t.bookings
  | .contract r => r ∈ t.contracts
  | .trip r => r ∈ t.trips
  | .fuelLog r => r ∈ t.fuelLogs
  | .maintenanceLog r => r ∈ t.maintenanceLogs
  | .maintenanceItem r => r ∈ t.maintenanceItems
  | .document r => r ∈ t.documents
  | .expense r => r ∈ t.expenses
  | .income r => r ∈ t.incomes
  | .gpsLocation r => r ∈ t.gpsLocations
  | .workshopJob r => r ∈ t.workshopJobs
  | .workshopItem r => r ∈ t.workshopItems
  | .alert r => r ∈ t.alerts

/-- The row belongs to the tenant. -/
def OwnedBy (t : Tables) (T : String) : Row → Prop
  | .tenant r => r.id.val = T
  | .branch r => r.tenantId = T
  | .subscription r => r.tenantId = T
  | .featureAccess r => r.tenantId = T
  | .user r => r.tenantId = T
  | .userBranch r => r.tenantId = T
  | .vehicle r => r.tenantId = T
  | .driver r => r.tenantId = T
  | .assignment r => OwnVehicle t T r.vehicleId
  | .booking r => r.tenantId = T
  | .contract r => r.tenantId = T
  | .trip r => r.tenantId = T
  | .fuelLog r => r.tenantId = T
  | .maintenanceLog r => r.tenantId = T
  | .maintenanceItem r => OwnMaintenanceLog t T r.maintenanceId
  | .document r => r.tenantId = T
  | .expense r => r.tenantId = T
  | .income r => r.tenantId = T
  | .gpsLocation r => r.tenantId = T
  | .workshopJob r => r.tenantId = T
  | .workshopItem r => OwnWorkshopJob t T r.jobId
  | .alert r => r.tenantId = T

/-- The row was created, changed or removed, a changed row by both versions. -/
def Touched (t t' : Tables) (row : Row) : Prop := (row.In t' ∧ ¬row.In t) ∨ (row.In t ∧ ¬row.In t')

/-- A row that two steps touch is touched by one of them. -/
theorem Touched.split {t t' t'' : Tables} {row : Row} (h : row.Touched t t'') :
    row.Touched t t' ∨ row.Touched t' t'' := by
  by_cases hr : row.In t'
  · rcases h with ⟨h'', h⟩ | ⟨h, h''⟩
    · exact .inl (.inl ⟨hr, h⟩)
    · exact .inr (.inr ⟨hr, h''⟩)
  · rcases h with ⟨h'', h⟩ | ⟨h, h''⟩
    · exact .inr (.inl ⟨h'', hr⟩)
    · exact .inl (.inr ⟨h, hr⟩)

/-- A row of a table with the same contents is not touched. -/
theorem Touched.false_of_iff {t t' : Tables} {row : Row} (h : row.Touched t t')
    (hiff : row.In t' ↔ row.In t) : False := by
  rcases h with ⟨h', h⟩ | ⟨h, h'⟩
  · exact h (hiff.1 h')
  · exact h' (hiff.2 h)

end Row

/-! ### One statement after another -/

/-- The statements from `t₀` to `t` are ones a request of `T` may issue: they
keep the references closed and touch only rows of `T`. -/
structure Permitted (T : String) (t₀ t : Tables) : Prop where
  closed : TenantClosed t
  own : ∀ row : Row, row.Touched t₀ t → row.OwnedBy t T

namespace Permitted

variable {T : String} {t₀ t : Tables}

/-- A request that writes nothing is permitted. -/
theorem refl (h : TenantClosed t) : Permitted T t t :=
  ⟨h, fun _ hrow => (hrow.false_of_iff Iff.rfl).elim⟩

/-- One more statement: it keeps the references closed, touches rows of `T`,
and takes no row away from its owner. -/
theorem step (h : Permitted T t₀ t) {t' : Tables} (hclosed : TenantClosed t')
    (hown : ∀ row : Row, row.OwnedBy t T → row.OwnedBy t' T)
    (htouched : ∀ row : Row, row.Touched t t' → row.OwnedBy t' T) : Permitted T t₀ t' where
  closed := hclosed
  own row hrow := by
    have hsplit : row.Touched t₀ t ∨ row.Touched t t' := hrow.split
    rcases hsplit with hrow | hrow
    · exact hown row (h.own row hrow)
    · exact htouched row hrow

/-- Users: the tenant's own, who stay its users and refer to its live branches. -/
theorem setUsers (h : Permitted T t₀ t) {l : List User}
    (htouched : ∀ r, Store.Touched t.users l r → r.tenantId = T)
    (hown : ∀ T k, OwnUser t T k → OwnUser { t with users := l } T k)
    (hb : ∀ u ∈ l, ∀ k, u.branchId = some k → LiveBranch t u.tenantId k) :
    Permitted T t₀ { t with users := l } := by
  refine h.step { h.closed with
    user_branch := hb
    userBranch_user := fun m hm => hown _ _ (h.closed.userBranch_user m hm)
    driver_user := fun d hd k hk => hown _ _ (h.closed.driver_user d hd k hk) } ?_ ?_
  · intro row; cases row <;> exact id
  · intro row hrow
    cases row
    case user r => exact htouched r hrow
    all_goals exact (hrow.false_of_iff Iff.rfl).elim

/-- Memberships: of the tenant's users in its live branches. -/
theorem setUserBranches (h : Permitted T t₀ t) {l : List UserBranch}
    (htouched : ∀ r, Store.Touched t.userBranches l r → r.tenantId = T)
    (hb : ∀ m ∈ l, LiveBranch t m.tenantId m.branchId)
    (hu : ∀ m ∈ l, OwnUser t m.tenantId m.userId) :
    Permitted T t₀ { t with userBranches := l } := by
  refine h.step { h.closed with
    userBranch_branch := hb
    userBranch_user := hu } ?_ ?_
  · intro row; cases row <;> exact id
  · intro row hrow
    cases row
    case userBranch r => exact htouched r hrow
    all_goals exact (hrow.false_of_iff Iff.rfl).elim

/-- Branches: the tenant's own, live as long as anything refers to them. -/
theorem setBranches (h : Permitted T t₀ t) {l : List Branch}
    (htouched : ∀ r, Store.Touched t.branches l r → r.tenantId = T)
    (hlive : ∀ T k, BranchInUse t k → LiveBranch t T k →
      LiveBranch { t with branches := l } T k) :
    Permitted T t₀ { t with branches := l } := by
  refine h.step { h.closed with
    user_branch := fun u hu k hk =>
      hlive _ _ (.inl ⟨u, hu, hk⟩) (h.closed.user_branch u hu k hk)
    userBranch_branch := fun m hm =>
      hlive _ _ (.inr (.inl ⟨m, hm, rfl⟩)) (h.closed.userBranch_branch m hm)
    vehicle_branch := fun v hv k hk =>
      hlive _ _ (.inr (.inr (.inl ⟨v, hv, hk⟩))) (h.closed.vehicle_branch v hv k hk)
    driver_branch := fun d hd k hk =>
      hlive _ _ (.inr (.inr (.inr (.inl ⟨d, hd, hk⟩)))) (h.closed.driver_branch d hd k hk) } ?_ ?_
  · intro row; cases row <;> exact id
  · intro row hrow
    cases row
    case branch r => exact htouched r hrow
    all_goals exact (hrow.false_of_iff Iff.rfl).elim

/-- Vehicles: the tenant's own, which stay its vehicles. -/
theorem setVehicles (h : Permitted T t₀ t) {l : List Vehicle}
    (htouched : ∀ r, Store.Touched t.vehicles l r → r.tenantId = T)
    (hown : ∀ T k, OwnVehicle t T k → OwnVehicle { t with vehicles := l } T k)
    (hb : ∀ v ∈ l, ∀ k, v.branchId = some k → LiveBranch t v.tenantId k) :
    Permitted T t₀ { t with vehicles := l } := by
  refine h.step { h.closed with
    vehicle_branch := hb
    assignment := fun a ha =>
      let ⟨T, hv, hd⟩ := h.closed.assignment a ha
      ⟨T, hown _ _ hv, hd⟩
    contract_vehicle := fun c hc k hk => hown _ _ (h.closed.contract_vehicle c hc k hk)
    trip_vehicle := fun r hr => hown _ _ (h.closed.trip_vehicle r hr)
    fuelLog_vehicle := fun l hl => hown _ _ (h.closed.fuelLog_vehicle l hl)
    maintenanceLog_vehicle := fun l hl => hown _ _ (h.closed.maintenanceLog_vehicle l hl)
    document_vehicle := fun d hd => hown _ _ (h.closed.document_vehicle d hd)
    gpsLocation_vehicle := fun l hl => hown _ _ (h.closed.gpsLocation_vehicle l hl)
    workshopJob_vehicle := fun j hj => hown _ _ (h.closed.workshopJob_vehicle j hj) } ?_ ?_
  · intro row
    cases row
    case assignment a => exact hown _ _
    all_goals exact id
  · intro row hrow
    cases row
    case vehicle r => exact htouched r hrow
    all_goals exact (hrow.false_of_iff Iff.rfl).elim

/-- Drivers: the tenant's own, with its branches and its users. -/
theorem setDrivers (h : Permitted T t₀ t) {l : List Driver}
    (htouched : ∀ r, Store.Touched t.drivers l r → r.tenantId = T)
    (hown : ∀ T k, OwnDriver t T k → OwnDriver { t with drivers := l } T k)
    (hb : ∀ d ∈ l, ∀ k, d.branchId = some k → LiveBranch t d.tenantId k)
    (hu : ∀ d ∈ l, ∀ k, d.userId = some k → OwnUser t d.tenantId k) :
    Permitted T t₀ { t with drivers := l } := by
  refine h.step { h.closed with
    driver_branch := hb
    driver_user := hu
    assignment := fun a ha =>
      let ⟨T, hv, hd⟩ := h.closed.assignment a ha
      ⟨T, hv, hown _ _ hd⟩
    trip_driver := fun r hr => hown _ _ (h.closed.trip_driver r hr) } ?_ ?_
  · intro row; cases row <;> exact id
  · intro row hrow
    cases row
    case driver r => exact htouched r hrow
    all_goals exact (hrow.false_of_iff Iff.rfl).elim

/-- Assignments: of the tenant's vehicles to drivers of the same tenant. -/
theorem setAssignments (h : Permitted T t₀ t) {l : List Assignment}
    (htouched : ∀ r, Store.Touched t.assignments l r → OwnVehicle t T r.vehicleId)
    (href : ∀ a ∈ l, ∃ T, OwnVehicle t T a.vehicleId ∧ OwnDriver t T a.driverId) :
    Permitted T t₀ { t with assignments := l } := by
  refine h.step { h.closed with
    assignment := href } ?_ ?_
  · intro row; cases row <;> exact id
  · intro row hrow
    cases row
    case assignment r => exact htouched r hrow
    all_goals exact (hrow.false_of_iff Iff.rfl).elim

/-- Bookings: the tenant's own, which never have a branch. -/
theorem setBookings (h : Permitted T t₀ t) {l : List Booking}
    (htouched : ∀ r, Store.Touched t.bookings l r → r.tenantId = T)
    (href : ∀ b ∈ l, b.branchId = none) :
    Permitted T t₀ { t with bookings := l } := by
  refine h.step { h.closed with
    booking_branch := href } ?_ ?_
  · intro row; cases row <;> exact id
  · intro row hrow
    cases row
    case booking r => exact htouched r hrow
    all_goals exact (hrow.false_of_iff Iff.rfl).elim

/-- Contracts: the tenant's own, for its vehicles. -/
theorem setContracts (h : Permitted T t₀ t) {l : List Contract}
    (htouched : ∀ r, Store.Touched t.contracts l r → r.tenantId = T)
    (href : ∀ c ∈ l, ∀ k, c.vehicleId = some k → OwnVehicle t c.tenantId k) :
    Permitted T t₀ { t with contracts := l } := by
  refine h.step { h.closed with
    contract_vehicle := href } ?_ ?_
  · intro row; cases row <;> exact id
  · intro row hrow
    cases row
    case contract r => exact htouched r hrow
    all_goals exact (hrow.false_of_iff Iff.rfl).elim

/-- Trips: the tenant's own, with its vehicles and drivers. -/
theorem setTrips (h : Permitted T t₀ t) {l : List Trip}
    (htouched : ∀ r, Store.Touched t.trips l r → r.tenantId = T)
    (hv : ∀ r ∈ l, OwnVehicle t r.tenantId r.vehicleId)
    (hd : ∀ r ∈ l, OwnDriver t r.tenantId r.driverId) :
    Permitted T t₀ { t with trips := l } := by
  refine h.step { h.closed with
    trip_vehicle := hv
    trip_driver := hd } ?_ ?_
  · intro row; cases row <;> exact id
  · intro row hrow
    cases row
    case trip r => exact htouched r hrow
    all_goals exact (hrow.false_of_iff Iff.rfl).elim

/-- Fuel logs: the tenant's own, of its vehicles. -/
theorem setFuelLogs (h : Permitted T t₀ t) {l : List FuelLog}
    (htouched : ∀ r, Store.Touched t.fuelLogs l r → r.tenantId = T)
    (href : ∀ r ∈ l, OwnVehicle t r.tenantId r.vehicleId) :
    Permitted T t₀ { t with fuelLogs := l } := by
  refine h.step { h.closed with
    fuelLog_vehicle := href } ?_ ?_
  · intro row; cases row <;> exact id
  · intro row hrow
    cases row
    case fuelLog r => exact htouched r hrow
    all_goals exact (hrow.false_of_iff Iff.rfl).elim

/-- Maintenance logs: the tenant's own, of its vehicles. -/
theorem setMaintenanceLogs (h : Permitted T t₀ t) {l : List MaintenanceLog}
    (htouched : ∀ r, Store.Touched t.maintenanceLogs l r → r.tenantId = T)
    (hown : ∀ T k, OwnMaintenanceLog t T k → OwnMaintenanceLog { t with maintenanceLogs := l } T k)
    (href : ∀ r ∈ l, OwnVehicle t r.tenantId r.vehicleId) :
    Permitted T t₀ { t with maintenanceLogs := l } := by
  refine h.step { h.closed with
    maintenanceLog_vehicle := href } ?_ ?_
  · intro row
    cases row
    case maintenanceItem i => exact hown _ _
    all_goals exact id
  · intro row hrow
    cases row
    case maintenanceLog r => exact htouched r hrow
    all_goals exact (hrow.false_of_iff Iff.rfl).elim

/-- Items of the tenant's maintenance logs. -/
theorem setMaintenanceItems (h : Permitted T t₀ t) {l : List MaintenanceItem}
    (htouched : ∀ r, Store.Touched t.maintenanceItems l r → OwnMaintenanceLog t T r.maintenanceId) :
    Permitted T t₀ { t with maintenanceItems := l } := by
  refine h.step { h.closed with } ?_ ?_
  · intro row; cases row <;> exact id
  · intro row hrow
    cases row
    case maintenanceItem r => exact htouched r hrow
    all_goals exact (hrow.false_of_iff Iff.rfl).elim

/-- Documents: the tenant's own, of its vehicles. -/
theorem setDocuments (h : Permitted T t₀ t) {l : List Document}
    (htouched : ∀ r, Store.Touched t.documents l r → r.tenantId = T)
    (href : ∀ r ∈ l, OwnVehicle t r.tenantId r.vehicleId) :
    Permitted T t₀ { t with documents := l } := by
  refine h.step { h.closed with
    document_vehicle := href } ?_ ?_
  · intro row; cases row <;> exact id
  · intro row hrow
    cases row
    case document r => exact htouched r hrow
    all_goals exact (hrow.false_of_iff Iff.rfl).elim

/-- Positions: the tenant's own, of its vehicles. -/
theorem setGpsLocations (h : Permitted T t₀ t) {l : List GpsLocation}
    (htouched : ∀ r, Store.Touched t.gpsLocations l r → r.tenantId = T)
    (href : ∀ r ∈ l, OwnVehicle t r.tenantId r.vehicleId) :
    Permitted T t₀ { t with gpsLocations := l } := by
  refine h.step { h.closed with
    gpsLocation_vehicle := href } ?_ ?_
  · intro row; cases row <;> exact id
  · intro row hrow
    cases row
    case gpsLocation r => exact htouched r hrow
    all_goals exact (hrow.false_of_iff Iff.rfl).elim

/-- Workshop jobs: the tenant's own, of its vehicles. -/
theorem setWorkshopJobs (h : Permitted T t₀ t) {l : List WorkshopJob}
    (htouched : ∀ r, Store.Touched t.workshopJobs l r → r.tenantId = T)
    (hown : ∀ T k, OwnWorkshopJob t T k → OwnWorkshopJob { t with workshopJobs := l } T k)
    (hv : ∀ r ∈ l, OwnVehicle t r.tenantId r.vehicleId)
    (hb : ∀ r ∈ l, r.branchId = none) :
    Permitted T t₀ { t with workshopJobs := l } := by
  refine h.step { h.closed with
    workshopJob_vehicle := hv
    workshopJob_branch := hb } ?_ ?_
  · intro row
    cases row
    case workshopItem i => exact hown _ _
    all_goals exact id
  · intro row hrow
    cases row
    case workshopJob r => exact htouched r hrow
    all_goals exact (hrow.false_of_iff Iff.rfl).elim

/-- Items of the tenant's workshop jobs. -/
theorem setWorkshopItems (h : Permitted T t₀ t) {l : List WorkshopItem}
    (htouched : ∀ r, Store.Touched t.workshopItems l r → OwnWorkshopJob t T r.jobId) :
    Permitted T t₀ { t with workshopItems := l } := by
  refine h.step { h.closed with } ?_ ?_
  · intro row; cases row <;> exact id
  · intro row hrow
    cases row
    case workshopItem r => exact htouched r hrow
    all_goals exact (hrow.false_of_iff Iff.rfl).elim

/-- Expenses: the tenant's own, which refer to nothing else. -/
theorem setExpenses (h : Permitted T t₀ t) {l : List Expense}
    (htouched : ∀ r, Store.Touched t.expenses l r → r.tenantId = T) :
    Permitted T t₀ { t with expenses := l } := by
  refine h.step { h.closed with } ?_ ?_
  · intro row; cases row <;> exact id
  · intro row hrow
    cases row
    case expense r => exact htouched r hrow
    all_goals exact (hrow.false_of_iff Iff.rfl).elim

/-- Incomes: the same. -/
theorem setIncomes (h : Permitted T t₀ t) {l : List Income}
    (htouched : ∀ r, Store.Touched t.incomes l r → r.tenantId = T) :
    Permitted T t₀ { t with incomes := l } := by
  refine h.step { h.closed with } ?_ ?_
  · intro row; cases row <;> exact id
  · intro row hrow
    cases row
    case income r => exact htouched r hrow
    all_goals exact (hrow.false_of_iff Iff.rfl).elim

/-- Alerts: the same. -/
theorem setAlerts (h : Permitted T t₀ t) {l : List Alert}
    (htouched : ∀ r, Store.Touched t.alerts l r → r.tenantId = T) :
    Permitted T t₀ { t with alerts := l } := by
  refine h.step { h.closed with } ?_ ?_
  · intro row; cases row <;> exact id
  · intro row hrow
    cases row
    case alert r => exact htouched r hrow
    all_goals exact (hrow.false_of_iff Iff.rfl).elim

end Permitted

end NodeVms
