/-
# Methods and status codes

The decorator of each handler that makes it a route (`@Get`, `@Post`, `@Patch`,
`@Delete`), and the status of its successful answers: that of `@HttpCode`, or else
201 for a `POST` and 200 for the others.
-/

import NodeVms.Http.World

namespace NodeVms

inductive HttpMethod where
  | get | post | patch | put | delete
  deriving DecidableEq

def HttpMethod.text : HttpMethod → String
  | .get => "GET"
  | .post => "POST"
  | .patch => "PATCH"
  | .put => "PUT"
  | .delete => "DELETE"

structure Route where
  method : HttpMethod
  /-- `@HttpCode` -/
  httpCode : Option Nat := none

/-- The status of a successful answer. -/
def Route.status (r : Route) : Nat := r.httpCode.getD (if r.method = .post then 201 else 200)

def AppController.route : AppController → Route
  | .getHello => ⟨.get, none⟩

def AccountingController.route : AccountingController → Route
  | .getProfitLoss => ⟨.get, none⟩

def AdminApplicationsController.route : AdminApplicationsController → Route
  | .findAll => ⟨.get, none⟩
  | .approve | .reject | .suspend | .reactivate | .resetAdminPassword => ⟨.patch, some 200⟩

def AlertsController.route : AlertsController → Route
  | .scan => ⟨.post, none⟩
  | .findAll => ⟨.get, none⟩
  | .markRead | .dismiss => ⟨.patch, none⟩

def AssignmentsController.route : AssignmentsController → Route
  | .create => ⟨.post, none⟩
  | .findAll | .findOne => ⟨.get, none⟩
  | .update => ⟨.patch, none⟩
  | .remove => ⟨.delete, some 204⟩

def AuditController.route : AuditController → Route
  | .findAll => ⟨.get, none⟩

def AuthController.route : AuthController → Route
  | .register | .seedSuperAdmin => ⟨.post, some 201⟩
  | .login | .refresh => ⟨.post, some 200⟩
  | .logout => ⟨.post, some 204⟩

def BookingsController.route : BookingsController → Route
  | .create => ⟨.post, none⟩
  | .findAll | .findOne => ⟨.get, none⟩
  | .confirm | .cancel | .assign => ⟨.patch, none⟩

def BranchesController.route : BranchesController → Route
  | .create => ⟨.post, none⟩
  | .findAll | .getAggregateSummary | .findOne => ⟨.get, none⟩
  | .update => ⟨.patch, none⟩
  | .remove => ⟨.delete, some 204⟩

def ContractsController.route : ContractsController → Route
  | .create => ⟨.post, none⟩
  | .findExpiring | .findAll | .findOne => ⟨.get, none⟩
  | .update => ⟨.patch, none⟩
  | .remove => ⟨.delete, some 204⟩

def DocumentsController.route : DocumentsController → Route
  | .create => ⟨.post, none⟩
  | .findExpiring | .findAll => ⟨.get, none⟩

def DriversController.route : DriversController → Route
  | .create => ⟨.post, none⟩
  | .findAll | .findOne => ⟨.get, none⟩
  | .update => ⟨.patch, none⟩
  | .remove => ⟨.delete, some 204⟩

def ExpensesController.route : ExpensesController → Route
  | .create => ⟨.post, none⟩
  | .findAll => ⟨.get, none⟩

def FeatureAccessController.route : FeatureAccessController → Route
  | .findAll => ⟨.get, none⟩
  | .enable | .disable => ⟨.patch, none⟩

def FuelController.route : FuelController → Route
  | .addLog => ⟨.post, none⟩
  | .listLogs => ⟨.get, none⟩

def IncomeController.route : IncomeController → Route
  | .create => ⟨.post, none⟩
  | .findAll | .findOne => ⟨.get, none⟩
  | .update => ⟨.patch, none⟩
  | .remove => ⟨.delete, some 204⟩

def MaintenanceController.route : MaintenanceController → Route
  | .create => ⟨.post, none⟩
  | .findAll | .findOne => ⟨.get, none⟩

def ProfileController.route : ProfileController → Route
  | .getProfile => ⟨.get, none⟩
  | .changePassword | .changeName => ⟨.patch, some 200⟩

def ReportsController.route (_ : ReportsController) : Route := ⟨.get, none⟩

def SchedulingController.route (_ : SchedulingController) : Route := ⟨.get, none⟩

def SubscriptionsController.route : SubscriptionsController → Route
  | .create => ⟨.post, none⟩
  | .findAll | .findMine | .findByTenant | .findOne => ⟨.get, none⟩
  | .update => ⟨.patch, none⟩

def TenantsController.route : TenantsController → Route
  | .findAll | .findOne => ⟨.get, none⟩
  | .update => ⟨.patch, none⟩
  | .remove => ⟨.delete, some 204⟩

def TrackingController.route : TrackingController → Route
  | .saveLocation => ⟨.post, none⟩
  | .getLatest | .getHistory => ⟨.get, none⟩

def TripsController.route : TripsController → Route
  | .startTrip | .endTrip => ⟨.post, none⟩
  | .updateTrip => ⟨.patch, none⟩
  | .listTrips | .getTrip => ⟨.get, none⟩

def UsersController.route : UsersController → Route
  | .create => ⟨.post, none⟩
  | .findAll | .findOne => ⟨.get, none⟩
  | .update => ⟨.patch, none⟩
  | .resetPassword => ⟨.patch, some 200⟩
  | .remove => ⟨.delete, some 204⟩

def VehiclesController.route : VehiclesController → Route
  | .create => ⟨.post, none⟩
  | .findAll | .findOne => ⟨.get, none⟩
  | .update => ⟨.patch, none⟩
  | .remove => ⟨.delete, some 204⟩

def WorkshopController.route : WorkshopController → Route
  | .createJob | .addItem => ⟨.post, none⟩
  | .findAll | .findOne => ⟨.get, none⟩
  | .updateStatus => ⟨.patch, none⟩

/-- The route of a handler. -/
def Controller.route : (c : Controller) → c.Handler → Route
  | .app, h => AppController.route h
  | .accounting, h => AccountingController.route h
  | .adminApplications, h => AdminApplicationsController.route h
  | .alerts, h => AlertsController.route h
  | .assignments, h => AssignmentsController.route h
  | .audit, h => AuditController.route h
  | .auth, h => AuthController.route h
  | .bookings, h => BookingsController.route h
  | .branches, h => BranchesController.route h
  | .contracts, h => ContractsController.route h
  | .documents, h => DocumentsController.route h
  | .drivers, h => DriversController.route h
  | .expenses, h => ExpensesController.route h
  | .featureAccess, h => FeatureAccessController.route h
  | .fuel, h => FuelController.route h
  | .income, h => IncomeController.route h
  | .maintenance, h => MaintenanceController.route h
  | .profile, h => ProfileController.route h
  | .reports, h => ReportsController.route h
  | .scheduling, h => SchedulingController.route h
  | .subscriptions, h => SubscriptionsController.route h
  | .tenants, h => TenantsController.route h
  | .tracking, h => TrackingController.route h
  | .trips, h => TripsController.route h
  | .users, h => UsersController.route h
  | .vehicles, h => VehiclesController.route h
  | .workshop, h => WorkshopController.route h

def Endpoint.route (e : Endpoint) : Route := e.controller.route e.handler

/-- Successful answers have a status below 400. -/
theorem Controller.status_lt (c : Controller) (h : c.Handler) : (c.route h).status < 400 := by
  cases c <;> cases h <;> decide

end NodeVms
