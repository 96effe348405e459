/-
# The controllers

Every controller class with its handlers, and the decorators of both as the
source has them: `@Public`, `@Roles`, `@Feature`, `@UseGuards(RolesGuard)`.  A
controller is the type of its handlers.

`documentedModules` is the table of feature keys in `README.md`, which says what
each key covers.
-/

import NodeVms.Http.Guards

namespace NodeVms

inductive AppController where
  | getHello

def AppController.cls : Annotations := {}

def AppController.annotations : AppController → Annotations
  | .getHello => { isPublic := some true }

inductive AccountingController where
  | getProfitLoss

def AccountingController.cls : Annotations :=
  { roles := some [.admin, .employee, .superAdmin], useRolesGuard := true }

def AccountingController.annotations (_ : AccountingController) : Annotations := {}

inductive AdminApplicationsController where
  | findAll | approve | reject | suspend | reactivate | resetAdminPassword

def AdminApplicationsController.cls : Annotations :=
  { roles := some [.superAdmin], useRolesGuard := true }

def AdminApplicationsController.annotations (_ : AdminApplicationsController) : Annotations := {}

inductive AlertsController where
  | scan | findAll | markRead | dismiss

def AlertsController.cls : Annotations :=
  { roles := some [.admin, .employee, .superAdmin], useRolesGuard := true }

def AlertsController.annotations (_ : AlertsController) : Annotations := {}

inductive AssignmentsController where
  | create | findAll | findOne | update | remove

def AssignmentsController.cls : Annotations :=
  { roles := some [.superAdmin, .admin, .employee], useRolesGuard := true }

def AssignmentsController.annotations : AssignmentsController → Annotations
  | .create | .update | .remove => { roles := some [.superAdmin, .admin] }
  | _ => {}

inductive AuditController where
  | findAll

def AuditController.cls : Annotations :=
  { roles := some [.admin, .superAdmin], useRolesGuard := true }

def AuditController.annotations (_ : AuditController) : Annotations := {}

inductive AuthController where
  | register | login | refresh | logout | seedSuperAdmin

def AuthController.cls : Annotations := {}

def AuthController.annotations : AuthController → Annotations
  | .register | .login | .refresh | .seedSuperAdmin => { isPublic := some true }
  | _ => {}

inductive BookingsController where
  | create | findAll | findOne | confirm | cancel | assign

def BookingsController.cls : Annotations :=
  { roles := some [.superAdmin, .admin, .employee], useRolesGuard := true }

def BookingsController.annotations : BookingsController → Annotations
  | .confirm | .assign => { roles := some [.superAdmin, .admin] }
  | _ => {}

inductive BranchesController where
  | create | findAll | getAggregateSummary | findOne | update | remove

def BranchesController.cls : Annotations :=
  { roles := some [.admin, .employee], useRolesGuard := true }

def BranchesController.annotations : BranchesController → Annotations
  | .create | .getAggregateSummary | .update | .remove => { roles := some [.admin] }
  | _ => {}

inductive ContractsController where
  | create | findExpiring | findAll | findOne | update | remove

def ContractsController.cls : Annotations :=
  { roles := some [.admin, .employee, .superAdmin], useRolesGuard := true }

def ContractsController.annotations (_ : ContractsController) : Annotations := {}

inductive DocumentsController where
  | create | findExpiring | findAll

def DocumentsController.cls : Annotations :=
  { roles := some [.admin, .employee, .superAdmin], useRolesGuard := true }

def DocumentsController.annotations (_ : DocumentsController) : Annotations := {}

inductive DriversController where
  | create | findAll | findOne | update | remove

def DriversController.cls : Annotations :=
  { roles := some [.admin, .employee], feature := some "vehicles", useRolesGuard := true }

def DriversController.annotations : DriversController → Annotations
  | .create | .update | .remove => { roles := some [.admin] }
  | _ => {}

inductive ExpensesController where
  | create | findAll

def ExpensesController.cls : Annotations :=
  { roles := some [.admin, .employee, .superAdmin], useRolesGuard := true }

def ExpensesController.annotations (_ : ExpensesController) : Annotations := {}

inductive FeatureAccessController where
  | findAll | enable | disable

def FeatureAccessController.cls : Annotations := { useRolesGuard := true }

def FeatureAccessController.annotations : FeatureAccessController → Annotations
  | .findAll => { roles := some [.superAdmin, .admin] }
  | .enable | .disable => { roles := some [.superAdmin] }

inductive FuelController where
  | addLog | listLogs

def FuelController.cls : Annotations :=
  { roles := some [.admin, .employee, .superAdmin], useRolesGuard := true }

def FuelController.annotations (_ : FuelController) : Annotations := {}

inductive IncomeController where
  | create | findAll | findOne | update | remove

def IncomeController.cls : Annotations :=
  { roles := some [.superAdmin, .admin, .employee], useRolesGuard := true }

def IncomeController.annotations : IncomeController → Annotations
  | .create | .update | .remove => { roles := some [.superAdmin, .admin] }
  | _ => {}

inductive MaintenanceController where
  | create | findAll | findOne

def MaintenanceController.cls : Annotations :=
  { roles := some [.admin, .employee], feature := some "maintenance", useRolesGuard := true }

def MaintenanceController.annotations (_ : MaintenanceController) : Annotations := {}

inductive ProfileController where
  | getProfile | changePassword | changeName

def ProfileController.cls : Annotations := { useRolesGuard := true }

def ProfileController.annotations (_ : ProfileController) : Annotations := {}

inductive ReportsController where
  | getMileage | getFuel | getProfitLoss | getVehicleUsage

def ReportsController.cls : Annotations :=
  { roles := some [.admin, .employee, .superAdmin], useRolesGuard := true }

def ReportsController.annotations (_ : ReportsController) : Annotations := {}

inductive SchedulingController where
  | checkVehicle | checkDriver

def SchedulingController.cls : Annotations := { useRolesGuard := true }

def SchedulingController.annotations : SchedulingController → Annotations
  | .checkVehicle | .checkDriver => { roles := some [.admin, .employee, .superAdmin] }

inductive SubscriptionsController where
  | create | findAll | findMine | findByTenant | findOne | update

def SubscriptionsController.cls : Annotations :=
  { roles := some [.superAdmin], useRolesGuard := true }

def SubscriptionsController.annotations : SubscriptionsController → Annotations
  | .findMine => { roles := some [.superAdmin, .admin] }
  | _ => {}

inductive TenantsController where
  | findAll | findOne | update | remove

def TenantsController.cls : Annotations := { roles := some [.superAdmin], useRolesGuard := true }

def TenantsController.annotations (_ : TenantsController) : Annotations := {}

inductive TrackingController where
  | saveLocation | getLatest | getHistory

def TrackingController.cls : Annotations := { feature := some "tracking", useRolesGuard := true }

def TrackingController.annotations : TrackingController → Annotations
  | .saveLocation => { roles := some [.driver, .admin, .employee, .superAdmin] }
  | .getLatest | .getHistory => { roles := some [.admin, .employee, .superAdmin] }

inductive TripsController where
  | startTrip | endTrip | updateTrip | listTrips | getTrip

def TripsController.cls : Annotations := { useRolesGuard := true }

def TripsController.annotations : TripsController → Annotations
  | .startTrip => { roles := some [.driver] }
  | .endTrip | .getTrip => { roles := some [.driver, .admin, .employee, .superAdmin] }
  | .updateTrip | .listTrips => { roles := some [.admin, .employee, .superAdmin] }

inductive UsersController where
  | create | findAll | findOne | update | resetPassword | remove

def UsersController.cls : Annotations := { roles := some [.admin], useRolesGuard := true }

def UsersController.annotations (_ : UsersController) : Annotations := {}

inductive VehiclesController where
  | create | findAll | findOne | update | remove

def VehiclesController.cls : Annotations :=
  { roles := some [.admin, .employee], feature := some "vehicles", useRolesGuard := true }

def VehiclesController.annotations : VehiclesController → Annotations
  | .create | .update | .remove => { roles := some [.admin] }
  | _ => {}

inductive WorkshopController where
  | createJob | findAll | findOne | addItem | updateStatus

def WorkshopController.cls : Annotations :=
  { roles := some [.admin, .employee], feature := some "workshop", useRolesGuard := true }

def WorkshopController.annotations (_ : WorkshopController) : Annotations := {}

/-! ### Endpoints -/

/-- The controllers, by their paths. -/
inductive Controller where
  | app | accounting | adminApplications | alerts | assignments | audit | auth | bookings
  | branches | contracts | documents | drivers | expenses | featureAccess | fuel | income
  | maintenance | profile | reports | scheduling | subscriptions | tenants | tracking | trips
  | users | vehicles | workshop
  deriving DecidableEq

namespace Controller

/-- The handlers of a controller. -/
abbrev Handler : Controller → Type
  | .app => AppController
  | .accounting => AccountingController
  | .adminApplications => AdminApplicationsController
  | .alerts => AlertsController
  | .assignments => AssignmentsController
  | .audit => AuditController
  | .auth => AuthController
  | .bookings => BookingsController
  | .branches => BranchesController
  | .contracts => ContractsController
  | .documents => DocumentsController
  | .drivers => DriversController
  | .expenses => ExpensesController
  | .featureAccess => FeatureAccessController
  | .fuel => FuelController
  | .income => IncomeController
  | .maintenance => MaintenanceController
  | .profile => ProfileController
  | .reports => ReportsController
  | .scheduling => SchedulingController
  | .subscriptions => SubscriptionsController
  | .tenants => TenantsController
  | .tracking => TrackingController
  | .trips => TripsController
  | .users => UsersController
  | .vehicles => VehiclesController
  | .workshop => WorkshopController

/-- The decorators of the class. -/
def cls : Controller → Annotations
  | .app => AppController.cls
  | .accounting => AccountingController.cls
  | .adminApplications => AdminApplicationsController.cls
  | .alerts => AlertsController.cls
  | .assignments => AssignmentsController.cls
  | .audit => AuditController.cls
  | .auth => AuthController.cls
  | .bookings => BookingsController.cls
  | .branches => BranchesController.cls
  | .contracts => ContractsController.cls
  | .documents => DocumentsController.cls
  | .drivers => DriversController.cls
  | .expenses => ExpensesController.cls
  | .featureAccess => FeatureAccessController.cls
  | .fuel => FuelController.cls
  | .income => IncomeController.cls
  | .maintenance => MaintenanceController.cls
  | .profile => ProfileController.cls
  | .reports => ReportsController.cls
  | .scheduling => SchedulingController.cls
  | .subscriptions => SubscriptionsController.cls
  | .tenants => TenantsController.cls
  | .tracking => TrackingController.cls
  | .trips => TripsController.cls
  | .users => UsersController.cls
  | .vehicles => VehiclesController.cls
  | .workshop => WorkshopController.cls

/-- The decorators of a handler. -/
def annotations : (c : Controller) → c.Handler → Annotations
  | .app, h => AppController.annotations h
  | .accounting, h => AccountingController.annotations h
  | .adminApplications, h => AdminApplicationsController.annotations h
  | .alerts, h => AlertsController.annotations h
  | .assignments, h => AssignmentsController.annotations h
  | .audit, h => AuditController.annotations h
  | .auth, h => AuthController.annotations h
  | .bookings, h => BookingsController.annotations h
  | .branches, h => BranchesController.annotations h
  | .contracts, h => ContractsController.annotations h
  | .documents, h => DocumentsController.annotations h
  | .drivers, h => DriversController.annotations h
  | .expenses, h => ExpensesController.annotations h
  | .featureAccess, h => FeatureAccessController.annotations h
  | .fuel, h => FuelController.annotations h
  | .income, h => IncomeController.annotations h
  | .maintenance, h => MaintenanceController.annotations h
  | .profile, h => ProfileController.annotations h
  | .reports, h => ReportsController.annotations h
  | .scheduling, h => SchedulingController.annotations h
  | .subscriptions, h => SubscriptionsController.annotations h
  | .tenants, h => TenantsController.annotations h
  | .tracking, h => TrackingController.annotations h
  | .trips, h => TripsController.annotations h
  | .users, h => UsersController.annotations h
  | .vehicles, h => VehiclesController.annotations h
  | .workshop, h => WorkshopController.annotations h

end Controller

/-- A handler of some controller. -/
structure Endpoint where
  controller : Controller
  handler : controller.Handler

def Endpoint.context (e : Endpoint) : ExecutionContext :=
  ⟨e.controller.annotations e.handler, e.controller.cls⟩

/-- The feature keys of `README.md` and what each of them covers. -/
def documentedModules : List (String × List Controller) :=
  [("vehicles", [.vehicles, .drivers]), ("workshop", [.workshop]),
   ("maintenance", [.maintenance, .documents]), ("tracking", [.tracking]),
   ("bookings", [.bookings]), ("fuel", [.fuel]), ("accounting", [.accounting, .expenses, .income]),
   ("reports", [.reports])]

end NodeVms
