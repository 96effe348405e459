/-
# The system

The requests the controllers pass to the services, service by service, and the
two kinds a run is made of: those of a tenant, which carry the `tenantId` of
the caller's token, and those of the platform (registration, the
administrator's operations, a user's own profile, the offline job).  The daily
scan of `JobsService` is one `Alerts.Request.scan` for each active tenant.

A request is executed atomically here; `NodeVms.Concurrency` interleaves them.
-/

import NodeVms.Services.Accounts
import NodeVms.Services.Alerts
import NodeVms.Services.Assignments
import NodeVms.Services.Bookings
import NodeVms.Services.Branches
import NodeVms.Services.Drivers
import NodeVms.Services.Records
import NodeVms.Services.Trips
import NodeVms.Services.Users
import NodeVms.Services.Vehicles
import NodeVms.Store.Runs

namespace NodeVms

open Store

/-! ### The requests of a tenant -/

namespace Users

inductive Request where
  | create (dto : CreateUserDto)
  | update (id : String) (dto : UpdateUserDto) (currentUser : CurrentUser)
  | resetSubordinatePassword (targetId newPassword : String) (requesterRole : Role)
  | remove (id : String) (currentUser : CurrentUser)

def Request.next (env : Env) (tenantId : String) : Request → Database → Database
  | .create dto => (Users.create env tenantId dto).next
  | .update id dto currentUser => (Users.update env tenantId id dto currentUser).next
  | .resetSubordinatePassword targetId newPassword requesterRole =>
    (Users.resetSubordinatePassword env tenantId targetId newPassword requesterRole).next
  | .remove id currentUser => (Users.remove env tenantId id currentUser).next

end Users

namespace Branches

inductive Request where
  | create (dto : CreateBranchDto)
  | update (id : String) (dto : UpdateBranchDto)
  | remove (id : String)

def Request.next (env : Env) (tenantId : String) : Request → Database → Database
  | .create dto => (Branches.create env tenantId dto).next
  | .update id dto => (Branches.update tenantId id dto).next
  | .remove id => (Branches.remove env tenantId id).next

end Branches

namespace Vehicles

inductive Request where
  | create (dto : CreateVehicleDto)
  | update (id : String) (dto : UpdateVehicleDto)
  | remove (id : String)

def Request.next (env : Env) (tenantId : String) : Request → Database → Database
  | .create dto => (Vehicles.create env tenantId dto).next
  | .update id dto => (Vehicles.update tenantId id dto).next
  | .remove id => (Vehicles.remove env tenantId id).next

end Vehicles

namespace Drivers

inductive Request where
  | create (dto : CreateDriverDto)
  | update (id : String) (dto : UpdateDriverDto)
  | remove (id : String)

def Request.next (env : Env) (tenantId : String) : Request → Database → Database
  | .create dto => (Drivers.create env tenantId dto).next
  | .update id dto => (Drivers.update tenantId id dto).next
  | .remove id => (Drivers.remove env tenantId id).next

end Drivers

namespace Assignments

inductive Request where
  | create (dto : CreateAssignmentDto)
  | update (id : String) (dto : UpdateAssignmentDto)
  | remove (id : String)

def Request.handler (env : Env) (tenantId : String) : Request → Query (Transaction Assignment)
  | .create dto => Assignments.create env tenantId dto
  | .update id dto => Assignments.update tenantId id dto
  | .remove id => Assignments.remove env tenantId id

def Request.next (env : Env) (tenantId : String) (r : Request) : Database → Database :=
  (r.handler env tenantId).next

end Assignments

namespace Bookings

inductive Request where
  | create (dto : CreateBookingDto)
  | confirm (id : String)
  | cancel (id : String)
  | assign (id : String) (dto : AssignDriverVehicleDto)

def Request.handler (env : Env) (tenantId : String) : Request → Query (Transaction Booking)
  | .create dto => Bookings.create env tenantId dto
  | .confirm id => Bookings.confirm tenantId id
  | .cancel id => Bookings.cancel tenantId id
  | .assign id dto => Bookings.assign tenantId id dto

def Request.next (env : Env) (tenantId : String) (r : Request) : Database → Database :=
  (r.handler env tenantId).next

end Bookings

namespace Contracts

inductive Request where
  | create (dto : CreateContractDto)
  | update (id : String) (dto : UpdateContractDto)
  | remove (id : String)

def Request.next (env : Env) (tenantId : String) : Request → Database → Database
  | .create dto => (Contracts.create env tenantId dto).next
  | .update id dto => (Contracts.update tenantId id dto).next
  | .remove id => (Contracts.remove env tenantId id).next

end Contracts

namespace Trips

inductive Request where
  | startTrip (vehicleId userId : String)
  | endTrip (tripId userId : String) (dto : UpdateTripDto) (userRole : Role)
  | updateTrip (tripId : String) (dto : UpdateTripDto)

def Request.handler (env : Env) (tenantId : String) : Request → Query (Transaction Trip)
  | .startTrip vehicleId userId => Trips.startTrip env vehicleId tenantId userId
  | .endTrip tripId userId dto userRole => Trips.endTrip env tripId tenantId userId dto userRole
  | .updateTrip tripId dto => Trips.updateTrip tripId tenantId dto

def Request.next (env : Env) (tenantId : String) (r : Request) : Database → Database :=
  (r.handler env tenantId).next

end Trips

namespace Workshop

inductive Request where
  | createJob (dto : CreateWorkshopJobDto)
  | addItem (jobId : String) (dto : AddWorkshopItemDto)
  | updateStatus (jobId : String) (status : WorkshopJobStatus)

def Request.next (env : Env) (tenantId : String) : Request → Database → Database
  | .createJob dto => (Workshop.createJob env tenantId dto).next
  | .addItem jobId dto => (Workshop.addItem env tenantId jobId dto).next
  | .updateStatus jobId status => (Workshop.updateStatus tenantId jobId status).next

end Workshop

namespace Income

inductive Request where
  | create (dto : CreateIncomeDto)
  | update (id : String) (dto : UpdateIncomeDto)
  | remove (id : String)

def Request.next (env : Env) (tenantId : String) : Request → Database → Database
  | .create dto => (Income.create env tenantId dto).next
  | .update id dto => (Income.update tenantId id dto).next
  | .remove id => (Income.remove env tenantId id).next

end Income

namespace Alerts

inductive Request where
  | scan (daysAhead : Int)
  | markRead (alertId : String)
  | dismiss (alertId : String)

def Request.next (env : Env) (tenantId : String) : Request → Database → Database
  | .scan daysAhead => (Alerts.scan env tenantId daysAhead).next
  | .markRead alertId => (Alerts.markRead tenantId alertId).next
  | .dismiss alertId => (Alerts.dismiss tenantId alertId).next

end Alerts

/-- A request of a tenant's user, by the service that handles it. -/
inductive TenantRequest where
  | users (r : Users.Request)
  | branches (r : Branches.Request)
  | vehicles (r : Vehicles.Request)
  | drivers (r : Drivers.Request)
  | assignments (r : Assignments.Request)
  | bookings (r : Bookings.Request)
  | contracts (r : Contracts.Request)
  | trips (r : Trips.Request)
  | fuel (dto : Fuel.CreateFuelLogDto)
  | maintenance (dto : Maintenance.CreateMaintenanceLogDto)
  | documents (dto : Documents.CreateDocumentDto)
  | workshop (r : Workshop.Request)
  | expenses (dto : Expenses.CreateExpenseDto)
  | income (r : Income.Request)
  | alerts (r : Alerts.Request)
  | tracking (limited : Bool) (dto : Tracking.SaveLocationDto)

def TenantRequest.next (env : Env) (tenantId : String) : TenantRequest → Database → Database
  | .users r => r.next env tenantId
  | .branches r => r.next env tenantId
  | .vehicles r => r.next env tenantId
  | .drivers r => r.next env tenantId
  | .assignments r => r.next env tenantId
  | .bookings r => r.next env tenantId
  | .contracts r => r.next env tenantId
  | .trips r => r.next env tenantId
  | .fuel dto => (Fuel.addLog env tenantId dto).next
  | .maintenance dto => (Maintenance.create env tenantId dto).next
  | .documents dto => (Documents.create env tenantId dto).next
  | .workshop r => r.next env tenantId
  | .expenses dto => (Expenses.create env tenantId dto).next
  | .income r => r.next env tenantId
  | .alerts r => r.next env tenantId
  | .tracking limited dto => (Tracking.saveLocation env tenantId limited dto).next

/-! ### The requests of the platform -/

inductive PlatformRequest where
  | registerTenant (dto : Auth.RegisterTenantDto)
  | seedSuperAdmin (dto : Auth.SeedSuperAdminDto)
  | approve (userId : String)
  | reject (userId : String)
  | suspend (userId : String)
  | reactivate (userId : String)
  | resetAdminPassword (userId newPassword : String)
  | updateTenant (id : String) (dto : Tenants.UpdateTenantDto)
  | removeTenant (id : String)
  | enableFeature (tenantId moduleName : String)
  | disableFeature (tenantId moduleName : String)
  | createSubscription (dto : Subscriptions.CreateSubscriptionDto)
  | updateSubscription (id : String) (dto : Subscriptions.UpdateSubscriptionDto)
  | changePassword (userId : String) (dto : Profile.ChangePasswordDto)
  | changeName (userId name : String)
  | runOfflineDetection

def PlatformRequest.next (env : Env) : PlatformRequest → Database → Database
  | .registerTenant dto => (Auth.registerTenant env dto).next
  | .seedSuperAdmin dto => (Auth.seedSuperAdmin env dto).next
  | .approve userId => (AdminApplications.approve userId).next
  | .reject userId => (AdminApplications.reject userId).next
  | .suspend userId => (AdminApplications.suspend userId).next
  | .reactivate userId => (AdminApplications.reactivate userId).next
  | .resetAdminPassword userId newPassword =>
    (AdminApplications.resetAdminPassword env userId newPassword).next
  | .updateTenant id dto => (Tenants.update id dto).next
  | .removeTenant id => (Tenants.remove env id).next
  | .enableFeature tenantId moduleName => (FeatureAccesses.enable env tenantId moduleName).next
  | .disableFeature tenantId moduleName => (FeatureAccesses.disable env tenantId moduleName).next
  | .createSubscription dto => (Subscriptions.create env dto).next
  | .updateSubscription id dto => (Subscriptions.update id dto).next
  | .changePassword userId dto => (Profile.changePassword env userId dto).next
  | .changeName userId name => (Profile.changeName userId name).next
  | .runOfflineDetection => (Jobs.runOfflineDetection env).next

/-! ### Runs -/

/-- A request with what its handler draws from its surroundings. -/
inductive Request where
  | tenant (env : Env) (tenantId : String) (r : TenantRequest)
  | platform (env : Env) (r : PlatformRequest)

/-- What the handler draws from its surroundings. -/
def Request.env : Request → Env
  | .tenant env _ _ => env
  | .platform env _ => env

/-- A request on one service with what its handler gets besides. -/
structure Call (ρ : Type) where
  env : Env
  tenantId : String
  request : ρ

/-- The tenant and the request, if it is one on bookings. -/
def Request.booking? : Request → Option (String × Bookings.Request)
  | .tenant _ tenantId (.bookings r) => some (tenantId, r)
  | _ => none

/-- The request, if it is one on assignments. -/
def Request.assignment? : Request → Option Assignments.Request
  | .tenant _ _ (.assignments r) => some r
  | _ => none

/-- The tenant, the vehicle and the body, if it is a `PATCH /vehicles/:id`. -/
def Request.vehicleUpdate? : Request → Option (String × String × UpdateVehicleDto)
  | .tenant _ tenantId (.vehicles (.update id dto)) => some (tenantId, id, dto)
  | _ => none

/-- The body, if it is a `PATCH /drivers/:id`. -/
def Request.driverUpdate? : Request → Option Drivers.UpdateDriverDto
  | .tenant _ _ (.drivers (.update _ dto)) => some dto
  | _ => none

/-- The tenant and the user, if it starts a trip. -/
def Request.startTrip? : Request → Option (String × String)
  | .tenant _ tenantId (.trips (.startTrip _ userId)) => some (tenantId, userId)
  | _ => none

/-- One request, executed atomically; a rejected one leaves the database as it is. -/
def step : Request → Database → Database
  | .tenant env tenantId r => r.next env tenantId
  | .platform env r => r.next env

/-- The states some run of requests leads to from the empty database. -/
abbrev Reachable (db : Database) : Prop := Store.Reachable step Database.empty db

/-! ### A small company

Requests on fixed inputs, for the runs that show a law to be violated or its
hypotheses to be satisfiable. -/

/-- Generated ids are the tag and a digit; nothing is encrypted. -/
def Env.sample (tag : String) (now : Time) : Env where
  now
  cuid i := ⟨tag.push (Nat.digitChar i), by simp⟩
  hash := id
  compare a b := a = b
  seedSecret := ""

namespace Sample

def tenant (tag : String) : Request :=
  .platform (.sample tag 0)
    (.registerTenant { tenantName := tag, adminName := tag, email := tag, password := tag })

def user (tag tenantId : String) : Request :=
  .tenant (.sample tag 0) tenantId
    (.users (.create { name := tag, email := tag, password := tag }))

def vehicle (tag tenantId : String) : Request :=
  .tenant (.sample tag 0) tenantId (.vehicles (.create { registrationNo := tag, model := tag }))

def driver (tag tenantId : String) (userId : Field String) : Request :=
  .tenant (.sample tag 0) tenantId
    (.drivers (.create { name := tag, phone := tag, licenseNo := tag, userId }))

def assignment (tag tenantId vehicleId driverId : String) (startDate : Time)
    (endDate : Field JsDate) : Request :=
  .tenant (.sample tag 0) tenantId
    (.assignments (.create { vehicleId, driverId, startDate := some startDate, endDate }))

def booking (tag tenantId vehicleId : String) (driverId : Field String) (startDate endDate : Time) :
    Request :=
  .tenant (.sample tag 0) tenantId (.bookings (.create
    { vehicleId, driverId, startDate := some startDate, endDate := some endDate,
      customerName := tag, contact := tag }))

def startTrip (tag tenantId vehicleId userId : String) (now : Time) : Request :=
  .tenant (.sample tag now) tenantId (.trips (.startTrip vehicleId userId))

def endTrip (tag tenantId tripId : String) (now : Time) : Request :=
  .tenant (.sample tag now) tenantId (.trips (.endTrip tripId "" {} .admin))

/-- Tenant `t0` with the vehicles `v0` and `w0` and the drivers `d0` and `e0`;
`d0` has the account `u0`. -/
def company : List Request :=
  [tenant "t", user "u" "t0", vehicle "v" "t0", vehicle "w" "t0",
   driver "d" "t0" (.value "u0"), driver "e" "t0" .undefined]

end Sample

end NodeVms
