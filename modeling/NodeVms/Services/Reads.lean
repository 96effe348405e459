/-
# What the services answer

The reading methods behind the `GET` routes of a tenant.  Each of them sends one
query: a filter that asks for the tenant of the caller and leaves removed rows out,
conditions from the query string, an order, and the columns it selects, some of them
of related rows.

`createdAt` is kept only where a query reads it.  A table is in the order in which its
rows were created, so the newest come first in the reversed table.  `collate` orders
texts as the collation of the database does; rows an order does not tell apart stay in
the order of the table.
-/

import Mathlib.Data.List.Sort
import NodeVms.Services.Alerts
import NodeVms.Services.Branches
import NodeVms.Services.Records
import NodeVms.Services.Users

namespace NodeVms

open Store Script Prisma

variable {α ω : Type}

/-- `findFirst({ where: { id, … }, select })`, or the exception. -/
def findRecord (m : Model α) (id : String) (filter : Tables → α → Prop)
    [∀ t r, Decidable (filter t r)] (select : Tables → α → ω) (message : String) : Query ω := do
  let record ← Script.read fun db =>
    ((m.rows db.toTables).find? fun r => (m.id r).val = id ∧ filter db.toTables r).map
      (select db.toTables)
  orThrow record (.notFound message)

/-- `findMany({ where, select, orderBy })`. -/
def findRecords (m : Model α) (filter : Tables → α → Prop) [∀ t r, Decidable (filter t r)]
    (select : Tables → α → ω) (orderBy : List α → List α) : Query (List ω) :=
  Script.read fun db =>
    (orderBy ((m.rows db.toTables).filter fun r => filter db.toTables r)).map (select db.toTables)

/-! ### Orders and conditions -/

/-- `{ column: 'asc' }`. -/
def asc (column : α → Time) (rows : List α) : List α :=
  rows.insertionSort fun a b => column a ≤ column b

/-- `{ column: 'desc' }`. -/
def desc (column : α → Time) (rows : List α) : List α :=
  rows.insertionSort fun a b => column b ≤ column a

/-- `{ column: 'asc' }` on a text. -/
def alphabetic (collate : String → String → Bool) (column : α → String) (rows : List α) : List α :=
  rows.insertionSort fun a b => collate (column a) (column b)

/-- `{ createdAt: 'desc' }` on a table whose `createdAt` is not kept. -/
def newest (rows : List α) : List α := rows.reverse

section Orders

variable {rows : List α} {column : α → Time}

/-- Sorting changes the order only. -/
theorem asc_perm : (asc column rows).Perm rows := List.perm_insertionSort _ _

/-- So does sorting the other way. -/
theorem desc_perm : (desc column rows).Perm rows := List.perm_insertionSort _ _

/-- The latest row comes first. -/
theorem desc_pairwise : (desc column rows).Pairwise fun a b => column b ≤ column a := by
  have htotal : Std.Total fun a b : α => column b ≤ column a :=
    ⟨fun a b => Int.le_total (column b) (column a)⟩
  have htrans : IsTrans α fun a b => column b ≤ column a :=
    ⟨fun _ _ _ hab hbc => Int.le_trans hbc hab⟩
  exact List.pairwise_insertionSort _ _

/-- Rows in the order of time come back in reverse. -/
theorem desc_eq_reverse (h : rows.Pairwise fun a b => column a < column b) :
    desc column rows = rows.reverse := by
  have hreverse : rows.reverse.Pairwise fun a b => column b ≤ column a :=
    List.pairwise_reverse.2 (h.imp fun hab => Int.le_of_lt hab)
  have hperm : (desc column rows).Perm rows.reverse := desc_perm.trans (List.reverse_perm _).symm
  -- two rows of one moment are the same row
  have hmoment : ∀ a ∈ rows, ∀ b ∈ rows, column a = column b → a = b := by
    have hne : rows.Pairwise fun a b => column a ≠ column b := h.imp fun hab => ne_of_lt hab
    exact fun a ha b hb => List.inj_on_of_nodup_map (List.pairwise_map.2 hne) ha hb
  refine hperm.eq_of_pairwise (fun a b ha hb hab hba => ?_) desc_pairwise hreverse
  exact hmoment a (desc_perm.mem_iff.1 ha) b (List.mem_reverse.1 hb) (Int.le_antisymm hba hab)

/-- What `take` leaves out is no later than what it keeps, and there is enough of that. -/
theorem take_desc {n : Nat} {a : α} (ha : a ∈ rows) (hout : a ∉ (desc column rows).take n) :
    ((desc column rows).take n).length = n ∧
      ∀ b ∈ (desc column rows).take n, column a ≤ column b := by
  have hmem : a ∈ (desc column rows).take n ++ (desc column rows).drop n := by
    rw [List.take_append_drop]
    exact desc_perm.mem_iff.2 ha
  have hdrop := (List.mem_append.1 hmem).resolve_left hout
  constructor
  · have hlength := List.length_pos_of_mem hdrop
    rw [List.length_drop] at hlength
    rw [List.length_take]
    omega
  · intro b hb
    have hpairs : (desc column rows).Pairwise fun a b => column b ≤ column a := desc_pairwise
    rw [← List.take_append_drop n (desc column rows)] at hpairs
    exact (List.pairwise_append.1 hpairs).2.2 b hb a hdrop

/-- Sorting by a text changes the order only. -/
theorem alphabetic_perm {collate : String → String → Bool} {column : α → String} :
    (alphabetic collate column rows).Perm rows := List.perm_insertionSort _ _

/-- So does sorting by age. -/
theorem newest_perm : (newest rows).Perm rows := List.reverse_perm rows

end Orders

/-- `...(value && { column: value })`. -/
def given (value : Option String) (column : α → Option String) (r : α) : Bool :=
  ∀ k ∈ nonEmpty value, column r = some k

/-- `...(value && { column: value })` on an enumeration. -/
def givenEnum {ε : Type} [DecidableEq ε] (value : Option ε) (column : α → ε) (r : α) : Bool :=
  ∀ v ∈ value, column r = v

/-! ### Columns of related rows -/

/-- `select: { id: true, name: true }` of a branch. -/
structure NamedBranch where
  id : String
  name : String
  deriving DecidableEq

/-- `branch: { select: { id: true, name: true } }`. -/
def namedBranch (t : Tables) (branchId : Option String) : Option NamedBranch :=
  branchId.bind fun k =>
    (t.branches.find? fun b => b.id.val = k).map fun b => { id := b.id, name := b.name }

/-- An item of a maintenance log or of a workshop job. -/
structure BillItem where
  id : String
  name : String
  cost : Amount
  deriving DecidableEq

/-! ### Users -/

namespace Users

structure SelectedUser where
  id : String
  tenantId : String
  branchId : Option String
  name : String
  email : String
  role : Role
  approvalStatus : ApprovalStatus
  isActive : Bool
  branch : Option NamedBranch
  userBranches : List (Option NamedBranch)
  deriving DecidableEq

def userSelect (t : Tables) (u : User) : SelectedUser where
  id := u.id
  tenantId := u.tenantId
  branchId := u.branchId
  name := u.name
  email := u.email
  role := u.role
  approvalStatus := u.approvalStatus
  isActive := u.isActive
  branch := namedBranch t u.branchId
  userBranches :=
    (t.userBranches.filter fun m => m.userId = u.id.val).map fun m =>
      namedBranch t (some m.branchId)

/-- `OR: [{ branchId }, { userBranches: { some: { branchId, tenantId } } }]`. -/
def inBranch (tenantId : String) (branchId : Option String) (t : Tables) (u : User) : Bool :=
  ∀ k ∈ nonEmpty branchId, u.branchId = some k ∨
    ∃ m ∈ t.userBranches, m.userId = u.id.val ∧ m.branchId = k ∧ m.tenantId = tenantId

/-- An administrator sees drivers and employees only. -/
def findAll (collate : String → String → Bool) (tenantId : String) (branchId : Option String) :
    Query (List SelectedUser) :=
  findRecords .user
    (fun t u => u.tenantId = tenantId ∧ u.deletedAt = none ∧ u.role ∈ MANAGEABLE_ROLES ∧
      inBranch tenantId branchId t u)
    userSelect (alphabetic collate User.name)

def findOne (tenantId id : String) : Query SelectedUser :=
  findRecord .user id
    (fun _ u => u.tenantId = tenantId ∧ u.deletedAt = none ∧ u.role ∈ MANAGEABLE_ROLES)
    userSelect "User not found"

end Users

/-! ### Branches -/

namespace Branches

/-- A branch with `_count: { select: { users: true, vehicles: true, drivers: true } }`. -/
structure ListedBranch where
  branch : Branch
  users : Nat
  vehicles : Nat
  drivers : Nat
  deriving DecidableEq

def listed (t : Tables) (b : Branch) : ListedBranch where
  branch := b
  users := t.users.countP fun u => u.branchId = some b.id.val
  vehicles := t.vehicles.countP fun v => v.branchId = some b.id.val
  drivers := t.drivers.countP fun d => d.branchId = some b.id.val

def findAll (collate : String → String → Bool) (tenantId : String) : Query (List ListedBranch) :=
  findRecords .branch (fun _ b => b.tenantId = tenantId ∧ b.deletedAt = none) listed
    (alphabetic collate Branch.name)

end Branches

/-! ### Vehicles -/

/-- The client refuses a value the enumeration does not have. -/
def VehicleStatus.parse (status : Option String) : Query (Option VehicleStatus) :=
  match nonEmpty status with
  | none => pure none
  | some s => do
    let v ← orThrow ([available, onTrip, maintenance, inactive].find? fun v => v.text = s)
      .invalidArgument
    pure (some v)

namespace Vehicles

/-- A vehicle with `branch: { select: { id: true, name: true } }`. -/
structure VehicleWithBranch where
  vehicle : Vehicle
  branch : Option NamedBranch
  deriving DecidableEq

def withBranch (t : Tables) (v : Vehicle) : VehicleWithBranch where
  vehicle := v
  branch := namedBranch t v.branchId

def findAll (tenantId : String) (status branchId : Option String) :
    Query (List VehicleWithBranch) := do
  let status ← VehicleStatus.parse status
  findRecords .vehicle
    (fun _ v => v.tenantId = tenantId ∧ v.deletedAt = none ∧ givenEnum status Vehicle.status v ∧
      given branchId Vehicle.branchId v)
    withBranch newest

def findOne (tenantId id : String) : Query VehicleWithBranch :=
  findRecord .vehicle id (fun _ v => v.tenantId = tenantId ∧ v.deletedAt = none) withBranch
    "Vehicle not found"

end Vehicles

/-! ### Drivers -/

namespace Drivers

structure SelectedDriver where
  id : String
  tenantId : String
  branchId : Option String
  userId : Option String
  name : String
  phone : String
  licenseNo : String
  isAvailable : Bool
  branch : Option NamedBranch
  deriving DecidableEq

def driverSelect (t : Tables) (d : Driver) : SelectedDriver where
  id := d.id
  tenantId := d.tenantId
  branchId := d.branchId
  userId := d.userId
  name := d.name
  phone := d.phone
  licenseNo := d.licenseNo
  isAvailable := d.isAvailable
  branch := namedBranch t d.branchId

def findAll (collate : String → String → Bool) (tenantId : String) (branchId : Option String) :
    Query (List SelectedDriver) :=
  findRecords .driver
    (fun _ d => d.tenantId = tenantId ∧ d.deletedAt = none ∧ given branchId Driver.branchId d)
    driverSelect (alphabetic collate Driver.name)

def findOne (tenantId id : String) : Query SelectedDriver :=
  findRecord .driver id (fun _ d => d.tenantId = tenantId ∧ d.deletedAt = none) driverSelect
    "Driver not found"

end Drivers

/-! ### Assignments -/

namespace Assignments

/-- `select: { id: true, registrationNo: true, model: true }`. -/
structure AssignedVehicle where
  id : String
  registrationNo : String
  model : String
  deriving DecidableEq

/-- `select: { id: true, name: true, licenseNo: true }`. -/
structure AssignedDriver where
  id : String
  name : String
  licenseNo : String
  deriving DecidableEq

structure AssignmentWithParties where
  assignment : Assignment
  vehicle : Option AssignedVehicle
  driver : Option AssignedDriver
  deriving DecidableEq

def withParties (t : Tables) (a : Assignment) : AssignmentWithParties where
  assignment := a
  vehicle := (t.vehicles.find? fun v => v.id.val = a.vehicleId).map fun v =>
    { id := v.id, registrationNo := v.registrationNo, model := v.model }
  driver := (t.drivers.find? fun d => d.id.val = a.driverId).map fun d =>
    { id := d.id, name := d.name, licenseNo := d.licenseNo }

/-- `vehicle: { tenantId }`: an assignment belongs to the tenant of its vehicle. -/
def vehicleOf (tenantId : String) (t : Tables) (a : Assignment) : Prop :=
  ∃ v ∈ t.vehicles, v.id.val = a.vehicleId ∧ v.tenantId = tenantId

instance (tenantId : String) (t : Tables) (a : Assignment) : Decidable (vehicleOf tenantId t a) := by
  unfold vehicleOf; infer_instance

def findAll (tenantId : String) (vehicleId driverId : Option String) :
    Query (List AssignmentWithParties) :=
  findRecords .assignment
    (fun t a => a.deletedAt = none ∧ vehicleOf tenantId t a ∧
      given vehicleId (some ·.vehicleId) a ∧ given driverId (some ·.driverId) a)
    withParties (desc Assignment.startDate)

def findOne (tenantId id : String) : Query AssignmentWithParties :=
  findRecord .assignment id (fun t a => a.deletedAt = none ∧ vehicleOf tenantId t a) withParties
    "Assignment not found"

end Assignments

/-! ### Bookings -/

namespace Bookings

structure SelectedBooking where
  id : String
  tenantId : String
  vehicleId : String
  driverId : Option String
  startDate : Time
  endDate : Time
  status : BookingStatus
  advancePaid : Amount
  customerName : String
  contact : String
  deriving DecidableEq

def bookingSelect (b : Booking) : SelectedBooking where
  id := b.id
  tenantId := b.tenantId
  vehicleId := b.vehicleId
  driverId := b.driverId
  startDate := b.startDate
  endDate := b.endDate
  status := b.status
  advancePaid := b.advancePaid
  customerName := b.customerName
  contact := b.contact

def findAll (tenantId : String) : Query (List SelectedBooking) :=
  findRecords .booking (fun _ b => b.tenantId = tenantId ∧ b.deletedAt = none)
    (fun _ => bookingSelect) (asc Booking.startDate)

def findOne (tenantId id : String) : Query SelectedBooking :=
  findRecord .booking id (fun _ b => b.tenantId = tenantId ∧ b.deletedAt = none)
    (fun _ => bookingSelect) "Booking not found"

end Bookings

/-! ### Contracts -/

namespace Contracts

structure SelectedContract where
  id : String
  tenantId : String
  type : ContractType
  startDate : Time
  endDate : Time
  amount : Amount
  commission : Amount
  vehicleId : Option String
  contactName : Option String
  contactEmail : Option String
  contactPhone : Option String
  contactAddress : Option String
  deriving DecidableEq

def contractSelect (c : Contract) : SelectedContract where
  id := c.id
  tenantId := c.tenantId
  type := c.type
  startDate := c.startDate
  endDate := c.endDate
  amount := c.amount
  commission := c.commission
  vehicleId := c.vehicleId
  contactName := c.contactName
  contactEmail := c.contactEmail
  contactPhone := c.contactPhone
  contactAddress := c.contactAddress

/-- Any text but the two of the enumeration is ignored. -/
def validType (type : Option String) : Option ContractType :=
  type.bind fun s => [ContractType.vehicleSource, .client].find? fun c => c.text = s

def findAll (tenantId : String) (type : Option String) : Query (List SelectedContract) :=
  findRecords .contract
    (fun _ c => c.tenantId = tenantId ∧ c.deletedAt = none ∧
      givenEnum (validType type) Contract.type c)
    (fun _ => contractSelect) (asc Contract.endDate)

def findOne (tenantId id : String) : Query SelectedContract :=
  findRecord .contract id (fun _ c => c.tenantId = tenantId ∧ c.deletedAt = none)
    (fun _ => contractSelect) "Contract not found"

def findExpiring (now : Time) (tenantId : String) (daysAhead : Int := 30) :
    Query (List SelectedContract) :=
  findRecords .contract
    (fun _ c => c.tenantId = tenantId ∧ c.deletedAt = none ∧ now ≤ c.endDate ∧
      c.endDate ≤ Time.addDays now daysAhead)
    (fun _ => contractSelect) (asc Contract.endDate)

end Contracts

/-! ### Trips -/

namespace Trips

structure SelectedTrip where
  id : String
  tenantId : String
  vehicleId : String
  driverId : String
  startTime : Time
  endTime : Option Time
  distance : Amount
  income : Amount
  tollCost : Amount
  policeCost : Amount
  deriving DecidableEq

def tripSelect (r : Trip) : SelectedTrip where
  id := r.id
  tenantId := r.tenantId
  vehicleId := r.vehicleId
  driverId := r.driverId
  startTime := r.startTime
  endTime := r.endTime
  distance := r.distance
  income := r.income
  tollCost := r.tollCost
  policeCost := r.policeCost

def listTrips (tenantId : String) : Query (List SelectedTrip) :=
  findRecords .trip (fun _ r => r.tenantId = tenantId ∧ r.deletedAt = none) (fun _ => tripSelect)
    (desc Trip.startTime)

def getTrip (tripId tenantId : String) : Query SelectedTrip :=
  findRecord .trip tripId (fun _ r => r.tenantId = tenantId ∧ r.deletedAt = none)
    (fun _ => tripSelect) "Trip not found"

end Trips

/-! ### Fuel, maintenance, documents -/

namespace Fuel

structure SelectedFuelLog where
  id : String
  tenantId : String
  vehicleId : String
  liters : Amount
  cost : Amount
  odometer : Amount
  date : Time
  deriving DecidableEq

def fuelLogSelect (l : FuelLog) : SelectedFuelLog where
  id := l.id
  tenantId := l.tenantId
  vehicleId := l.vehicleId
  liters := l.liters
  cost := l.cost
  odometer := l.odometer
  date := l.date

def listLogs (tenantId : String) (vehicleId : Option String) : Query (List SelectedFuelLog) :=
  findRecords .fuelLog
    (fun _ l => l.tenantId = tenantId ∧ l.deletedAt = none ∧ given vehicleId (some ·.vehicleId) l)
    (fun _ => fuelLogSelect) (desc FuelLog.date)

end Fuel

namespace Maintenance

structure SelectedMaintenanceLog where
  id : String
  tenantId : String
  vehicleId : String
  totalCost : Amount
  note : Option String
  date : Time
  items : List BillItem
  deriving DecidableEq

def maintenanceLogSelect (t : Tables) (l : MaintenanceLog) : SelectedMaintenanceLog where
  id := l.id
  tenantId := l.tenantId
  vehicleId := l.vehicleId
  totalCost := l.totalCost
  note := l.note
  date := l.date
  items := (t.maintenanceItems.filter fun i => i.maintenanceId = l.id.val).map fun i =>
    { id := i.id, name := i.name, cost := i.cost }

def findAll (tenantId : String) (vehicleId : Option String) :
    Query (List SelectedMaintenanceLog) :=
  findRecords .maintenanceLog
    (fun _ l => l.tenantId = tenantId ∧ l.deletedAt = none ∧ given vehicleId (some ·.vehicleId) l)
    maintenanceLogSelect (desc MaintenanceLog.date)

def findOne (tenantId id : String) : Query SelectedMaintenanceLog :=
  findRecord .maintenanceLog id (fun _ l => l.tenantId = tenantId ∧ l.deletedAt = none)
    maintenanceLogSelect "Maintenance log not found"

end Maintenance

namespace Documents

structure SelectedDocument where
  id : String
  tenantId : String
  vehicleId : String
  type : String
  expiryDate : Time
  deriving DecidableEq

def documentSelect (d : Document) : SelectedDocument where
  id := d.id
  tenantId := d.tenantId
  vehicleId := d.vehicleId
  type := d.type
  expiryDate := d.expiryDate

def findAll (tenantId : String) (vehicleId : Option String) : Query (List SelectedDocument) :=
  findRecords .document
    (fun _ d => d.tenantId = tenantId ∧ d.deletedAt = none ∧ given vehicleId (some ·.vehicleId) d)
    (fun _ => documentSelect) (asc Document.expiryDate)

def findExpiring (now : Time) (tenantId : String) (daysAhead : Int := 30) :
    Query (List SelectedDocument) :=
  findRecords .document
    (fun _ d => d.tenantId = tenantId ∧ d.deletedAt = none ∧ now ≤ d.expiryDate ∧
      d.expiryDate ≤ Time.addDays now daysAhead)
    (fun _ => documentSelect) (asc Document.expiryDate)

end Documents

/-! ### Workshop -/

namespace Workshop

structure SelectedJob where
  id : String
  tenantId : String
  vehicleId : String
  issue : String
  status : WorkshopJobStatus
  totalCost : Amount
  items : List BillItem
  deriving DecidableEq

def jobSelect (t : Tables) (j : WorkshopJob) : SelectedJob where
  id := j.id
  tenantId := j.tenantId
  vehicleId := j.vehicleId
  issue := j.issue
  status := j.status
  totalCost := j.totalCost
  items := (t.workshopItems.filter fun i => i.jobId = j.id.val).map fun i =>
    { id := i.id, name := i.name, cost := i.cost }

def findAll (tenantId : String) (status : Option WorkshopJobStatus) : Query (List SelectedJob) :=
  findRecords .workshopJob
    (fun _ j => j.tenantId = tenantId ∧ j.deletedAt = none ∧ givenEnum status WorkshopJob.status j)
    jobSelect newest

def findOne (tenantId id : String) : Query SelectedJob :=
  findRecord .workshopJob id (fun _ j => j.tenantId = tenantId ∧ j.deletedAt = none) jobSelect
    "Workshop job not found"

end Workshop

/-! ### Books -/

namespace Income

def findAll (tenantId : String) : Query (List NodeVms.Income) :=
  findRecords .income (fun _ i => i.tenantId = tenantId ∧ i.deletedAt = none) (fun _ i => i)
    (desc Income.createdAt)

def findOne (tenantId id : String) : Query NodeVms.Income :=
  findRecord .income id (fun _ i => i.tenantId = tenantId ∧ i.deletedAt = none) (fun _ i => i)
    "Income record not found"

end Income

namespace Expenses

structure SelectedExpense where
  id : String
  tenantId : String
  type : String
  amount : Amount
  note : Option String
  createdAt : Time
  deriving DecidableEq

def expenseSelect (e : Expense) : SelectedExpense where
  id := e.id
  tenantId := e.tenantId
  type := e.type
  amount := e.amount
  note := e.note
  createdAt := e.createdAt

def findAll (tenantId : String) (type : Option String) : Query (List SelectedExpense) :=
  findRecords .expense
    (fun _ e => e.tenantId = tenantId ∧ e.deletedAt = none ∧ given type (some ·.type) e)
    (fun _ => expenseSelect) (desc Expense.createdAt)

end Expenses

/-! ### Alerts -/

namespace Alerts

structure SelectedAlert where
  id : String
  tenantId : String
  type : String
  message : String
  status : AlertStatus
  createdAt : Time
  deriving DecidableEq

def alertSelect (a : Alert) : SelectedAlert where
  id := a.id
  tenantId := a.tenantId
  type := a.type
  message := a.message
  status := a.status
  createdAt := a.createdAt

def findAll (tenantId : String) (status : Option AlertStatus) : Query (List SelectedAlert) :=
  findRecords .alert
    (fun _ a => a.tenantId = tenantId ∧ a.deletedAt = none ∧ givenEnum status Alert.status a)
    (fun _ => alertSelect) (desc Alert.createdAt)

end Alerts

/-! ### Positions -/

namespace Tracking

structure SelectedLocation where
  id : String
  vehicleId : String
  lat : Amount
  lng : Amount
  speed : Amount
  timestamp : Time
  deriving DecidableEq

def locationSelect (l : GpsLocation) : SelectedLocation where
  id := l.id
  vehicleId := l.vehicleId
  lat := l.lat
  lng := l.lng
  speed := l.speed
  timestamp := l.timestamp

def getHistory (tenantId vehicleId : String) (limit : Nat := 100) :
    Query (List SelectedLocation) := do
  let _ ← findVehicle tenantId vehicleId
  findRecords .gpsLocation (fun _ l => l.vehicleId = vehicleId ∧ l.tenantId = tenantId)
    (fun _ => locationSelect) fun rows => (desc GpsLocation.timestamp rows).take limit

end Tracking

/-! ### What the platform keeps of a tenant -/

namespace FeatureAccesses

def findAll (collate : String → String → Bool) (tenantId : String) : Query (List FeatureAccess) :=
  findRecords .featureAccess (fun _ f => f.tenantId = tenantId ∧ f.deletedAt = none) (fun _ f => f)
    (alphabetic collate FeatureAccess.moduleName)

end FeatureAccesses

namespace Subscriptions

def findByTenant (tenantId : String) : Query (List Subscription) :=
  findRecords .subscription (fun _ s => s.tenantId = tenantId ∧ s.deletedAt = none) (fun _ s => s)
    newest

end Subscriptions

end NodeVms
