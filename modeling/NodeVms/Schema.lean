/-
# The data model

The tables of `prisma/schema.prisma`, one structure a model, under the
schema's column names.  Left out are the `createdAt` columns no query reads and
every `updatedAt`, the unused `success`, `statusCode` and `errorMessage` of
`FuelLog`, and the `AuditLog` table, which only the audit interceptor writes.

`DateTime` is a number of milliseconds, `Float` an exact number.  Ids are
strings; those the database generates (`@default(cuid())`) are never empty,
which `Cuid` records.
-/

import Mathlib.Algebra.Order.Ring.Rat
import Mathlib.Tactic.Common
import Mathlib.Tactic.Simps.Basic

namespace NodeVms

/-- A `DateTime`: milliseconds since the epoch. -/
abbrev Time : Type := Int

/-- `Float` columns, as exact numbers: a sum is not rounded. -/
abbrev Amount : Type := ℚ

/-- A generated id. -/
structure Cuid where
  val : String
  ne_empty : val ≠ ""
  deriving DecidableEq

instance : CoeOut Cuid String := ⟨Cuid.val⟩

/-- An id is its text. -/
theorem Cuid.val_injective : Function.Injective Cuid.val :=
  fun ⟨_, _⟩ ⟨_, _⟩ h => by cases h; rfl

/-! ### Enums -/

inductive Role where
  | superAdmin | admin | employee | driver
  deriving DecidableEq, Repr

inductive ApprovalStatus where
  | pending | approved | rejected | suspended
  deriving DecidableEq, Repr

inductive VehicleStatus where
  | available | onTrip | maintenance | inactive
  deriving DecidableEq, Repr

/-- The value as an error message prints it. -/
def VehicleStatus.text : VehicleStatus → String
  | .available => "AVAILABLE"
  | .onTrip => "ON_TRIP"
  | .maintenance => "MAINTENANCE"
  | .inactive => "INACTIVE"

inductive VehicleSourceType where
  | owned | contract
  deriving DecidableEq, Repr

inductive FuelType where
  | petrol | diesel | cng | electric | hybrid
  deriving DecidableEq, Repr

inductive BookingStatus where
  | pending | confirmed | completed | cancelled
  deriving DecidableEq, Repr

/-- The value as an error message prints it. -/
def BookingStatus.text : BookingStatus → String
  | .pending => "PENDING"
  | .confirmed => "CONFIRMED"
  | .completed => "COMPLETED"
  | .cancelled => "CANCELLED"

inductive ContractType where
  | vehicleSource | client
  deriving DecidableEq, Repr

/-- The value as an alert message prints it. -/
def ContractType.text : ContractType → String
  | .vehicleSource => "VEHICLE_SOURCE"
  | .client => "CLIENT"

inductive WorkshopJobStatus where
  | open | inProgress | completed | cancelled
  deriving DecidableEq, Repr

inductive AlertStatus where
  | unread | read | dismissed
  deriving DecidableEq, Repr

/-! ### Models -/

structure Tenant where
  id : Cuid
  name : String
  isActive : Bool
  deletedAt : Option Time
  deriving DecidableEq

structure Branch where
  id : Cuid
  tenantId : String
  name : String
  address : Option String
  phone : Option String
  isActive : Bool
  deletedAt : Option Time
  deriving DecidableEq

structure Subscription where
  id : Cuid
  tenantId : String
  planName : String
  isActive : Bool
  deletedAt : Option Time
  deriving DecidableEq

structure FeatureAccess where
  id : Cuid
  tenantId : String
  moduleName : String
  isEnabled : Bool
  deletedAt : Option Time
  deriving DecidableEq

structure User where
  id : Cuid
  tenantId : String
  branchId : Option String
  name : String
  email : String
  password : String
  role : Role
  approvalStatus : ApprovalStatus
  isActive : Bool
  deletedAt : Option Time
  deriving DecidableEq

structure UserBranch where
  id : Cuid
  tenantId : String
  userId : String
  branchId : String
  deriving DecidableEq

structure Vehicle where
  id : Cuid
  tenantId : String
  branchId : Option String
  registrationNo : String
  make : Option String
  model : String
  year : Option Int
  color : Option String
  fuelType : Option FuelType
  seatCount : Int
  status : VehicleStatus
  sourceType : VehicleSourceType
  fitnessExpiryDate : Option Time
  taxTokenExpiryDate : Option Time
  deletedAt : Option Time
  deriving DecidableEq

structure Driver where
  id : Cuid
  tenantId : String
  branchId : Option String
  userId : Option String
  name : String
  phone : String
  licenseNo : String
  isAvailable : Bool
  deletedAt : Option Time
  deriving DecidableEq

structure Assignment where
  id : Cuid
  vehicleId : String
  driverId : String
  startDate : Time
  endDate : Option Time
  deletedAt : Option Time
  deriving DecidableEq

structure Booking where
  id : Cuid
  tenantId : String
  branchId : Option String
  vehicleId : String
  driverId : Option String
  startDate : Time
  endDate : Time
  status : BookingStatus
  advancePaid : Amount
  customerName : String
  contact : String
  deletedAt : Option Time
  deriving DecidableEq

structure Contract where
  id : Cuid
  tenantId : String
  type : ContractType
  startDate : Time
  endDate : Time
  amount : Amount
  commission : Amount
  vehicleId : Option String
  contactName : Option String
  contactEmail : Option String
  contactPhone : Option String
  contactAddress : Option String
  deletedAt : Option Time
  deriving DecidableEq

structure Trip where
  id : Cuid
  tenantId : String
  vehicleId : String
  driverId : String
  startTime : Time
  endTime : Option Time
  distance : Amount
  income : Amount
  tollCost : Amount
  policeCost : Amount
  deletedAt : Option Time
  deriving DecidableEq

structure FuelLog where
  id : Cuid
  tenantId : String
  vehicleId : String
  liters : Amount
  cost : Amount
  odometer : Amount
  date : Time
  deletedAt : Option Time
  deriving DecidableEq

structure MaintenanceLog where
  id : Cuid
  tenantId : String
  vehicleId : String
  totalCost : Amount
  note : Option String
  date : Time
  deletedAt : Option Time
  deriving DecidableEq

structure MaintenanceItem where
  id : Cuid
  maintenanceId : String
  name : String
  cost : Amount
  deriving DecidableEq

structure Document where
  id : Cuid
  tenantId : String
  vehicleId : String
  type : String
  expiryDate : Time
  deletedAt : Option Time
  deriving DecidableEq

structure Expense where
  id : Cuid
  tenantId : String
  type : String
  amount : Amount
  note : Option String
  createdAt : Time
  deletedAt : Option Time
  deriving DecidableEq

structure Income where
  id : Cuid
  tenantId : String
  source : String
  amount : Amount
  createdAt : Time
  deletedAt : Option Time
  deriving DecidableEq

structure GpsLocation where
  id : Cuid
  tenantId : String
  vehicleId : String
  lat : Amount
  lng : Amount
  speed : Amount
  timestamp : Time
  deriving DecidableEq

structure WorkshopJob where
  id : Cuid
  tenantId : String
  branchId : Option String
  vehicleId : String
  issue : String
  status : WorkshopJobStatus
  totalCost : Amount
  deletedAt : Option Time
  deriving DecidableEq

structure WorkshopItem where
  id : Cuid
  jobId : String
  name : String
  cost : Amount
  deriving DecidableEq

structure Alert where
  id : Cuid
  tenantId : String
  type : String
  message : String
  status : AlertStatus
  createdAt : Time
  deletedAt : Option Time
  deriving DecidableEq

/-! ### The contents of a database -/

/-- The rows of every table, in insertion order. -/
structure Tables where
  tenants : List Tenant := []
  branches : List Branch := []
  subscriptions : List Subscription := []
  featureAccesses : List FeatureAccess := []
  users : List User := []
  userBranches : List UserBranch := []
  vehicles : List Vehicle := []
  drivers : List Driver := []
  assignments : List Assignment := []
  bookings : List Booking := []
  contracts : List Contract := []
  trips : List Trip := []
  fuelLogs : List FuelLog := []
  maintenanceLogs : List MaintenanceLog := []
  maintenanceItems : List MaintenanceItem := []
  documents : List Document := []
  expenses : List Expense := []
  incomes : List Income := []
  gpsLocations : List GpsLocation := []
  workshopJobs : List WorkshopJob := []
  workshopItems : List WorkshopItem := []
  alerts : List Alert := []
  deriving DecidableEq

/-- A table of the schema: where its rows are kept and their primary key. -/
structure Model (α : Type) where
  rows : Tables → List α
  set : Tables → List α → Tables
  id : α → Cuid
  rows_set : ∀ t l, rows (set t l) = l

/-! The models by their Prisma client names, `prisma.tenant`, `prisma.branch`, … -/

namespace Model

@[simps] def tenant : Model Tenant :=
  ⟨Tables.tenants, fun t l => { t with tenants := l }, Tenant.id, fun _ _ => rfl⟩
@[simps] def branch : Model Branch :=
  ⟨Tables.branches, fun t l => { t with branches := l }, Branch.id, fun _ _ => rfl⟩
@[simps] def subscription : Model Subscription :=
  ⟨Tables.subscriptions, fun t l => { t with subscriptions := l }, Subscription.id, fun _ _ => rfl⟩
@[simps] def featureAccess : Model FeatureAccess :=
  ⟨Tables.featureAccesses, fun t l => { t with featureAccesses := l }, FeatureAccess.id,
    fun _ _ => rfl⟩
@[simps] def user : Model User :=
  ⟨Tables.users, fun t l => { t with users := l }, User.id, fun _ _ => rfl⟩
@[simps] def userBranch : Model UserBranch :=
  ⟨Tables.userBranches, fun t l => { t with userBranches := l }, UserBranch.id, fun _ _ => rfl⟩
@[simps] def vehicle : Model Vehicle :=
  ⟨Tables.vehicles, fun t l => { t with vehicles := l }, Vehicle.id, fun _ _ => rfl⟩
@[simps] def driver : Model Driver :=
  ⟨Tables.drivers, fun t l => { t with drivers := l }, Driver.id, fun _ _ => rfl⟩
@[simps] def assignment : Model Assignment :=
  ⟨Tables.assignments, fun t l => { t with assignments := l }, Assignment.id, fun _ _ => rfl⟩
@[simps] def booking : Model Booking :=
  ⟨Tables.bookings, fun t l => { t with bookings := l }, Booking.id, fun _ _ => rfl⟩
@[simps] def contract : Model Contract :=
  ⟨Tables.contracts, fun t l => { t with contracts := l }, Contract.id, fun _ _ => rfl⟩
@[simps] def trip : Model Trip :=
  ⟨Tables.trips, fun t l => { t with trips := l }, Trip.id, fun _ _ => rfl⟩
@[simps] def fuelLog : Model FuelLog :=
  ⟨Tables.fuelLogs, fun t l => { t with fuelLogs := l }, FuelLog.id, fun _ _ => rfl⟩
@[simps] def maintenanceLog : Model MaintenanceLog :=
  ⟨Tables.maintenanceLogs, fun t l => { t with maintenanceLogs := l }, MaintenanceLog.id,
    fun _ _ => rfl⟩
@[simps] def maintenanceItem : Model MaintenanceItem :=
  ⟨Tables.maintenanceItems, fun t l => { t with maintenanceItems := l }, MaintenanceItem.id,
    fun _ _ => rfl⟩
@[simps] def document : Model Document :=
  ⟨Tables.documents, fun t l => { t with documents := l }, Document.id, fun _ _ => rfl⟩
@[simps] def expense : Model Expense :=
  ⟨Tables.expenses, fun t l => { t with expenses := l }, Expense.id, fun _ _ => rfl⟩
@[simps] def income : Model Income :=
  ⟨Tables.incomes, fun t l => { t with incomes := l }, Income.id, fun _ _ => rfl⟩
@[simps] def gpsLocation : Model GpsLocation :=
  ⟨Tables.gpsLocations, fun t l => { t with gpsLocations := l }, GpsLocation.id, fun _ _ => rfl⟩
@[simps] def workshopJob : Model WorkshopJob :=
  ⟨Tables.workshopJobs, fun t l => { t with workshopJobs := l }, WorkshopJob.id, fun _ _ => rfl⟩
@[simps] def workshopItem : Model WorkshopItem :=
  ⟨Tables.workshopItems, fun t l => { t with workshopItems := l }, WorkshopItem.id, fun _ _ => rfl⟩
@[simps] def alert : Model Alert :=
  ⟨Tables.alerts, fun t l => { t with alerts := l }, Alert.id, fun _ _ => rfl⟩

end Model

end NodeVms
