/-
# Which tables a request writes

One frame per service: the tables after a request of the service differ from
the tables before in those the service keeps, whatever the request and whether
or not it succeeds.  What a later module says about tables a request leaves
alone comes from here.
-/

import NodeVms.System

namespace NodeVms

open Store

variable {db : Database}

/-- A frame that the tables satisfy with themselves and that every successful
execution satisfies is one of the request. -/
theorem next_frame {α : Type} {F : Tables → Tables → Prop} {h : Query (Transaction α)}
    (hrefl : ∀ t, F t t) (hok : ∀ a db', h.exec db = .ok (a, db') → F db.toTables db'.toTables) :
    F db.toTables (h.next db).toTables :=
  Script.next_induct (P := fun db' : Database => F db.toTables db'.toTables) (hrefl _) hok

/-- What every successful execution keeps is kept by the request: if it is rejected, it changes
nothing. -/
theorem next_holds {α : Type} {P : Tables → Prop} {h : Query (Transaction α)} (hs : P db.toTables)
    (hok : ∀ a db', h.exec db = .ok (a, db') → P db'.toTables) : P (h.next db).toTables :=
  Script.next_induct (P := fun db' : Database => P db'.toTables) hs hok

/-! ### Services with several tables -/

/-- `UsersService` writes users and their memberships. -/
def Users.Frame (t t' : Tables) : Prop :=
  ∃ us ubs, t' = { t with users := us, userBranches := ubs }

/-- Requests on users write users and memberships. -/
theorem Users.Request.frame (r : Users.Request) (env : Env) (tenantId : String) (db : Database) :
    Users.Frame db.toTables (r.next env tenantId db).toTables := by
  cases r with
  | create dto =>
    refine next_frame (fun _ => ⟨_, _, rfl⟩) fun _ _ h => ?_
    obtain ⟨-, -, -, hw⟩ := create_ok h
    exact ⟨_, _, hw⟩
  | update id dto currentUser =>
    refine next_frame (fun _ => ⟨_, _, rfl⟩) fun _ _ h => ?_
    obtain ⟨-, -, -, -, -, -, -, -, t, ⟨-, rfl⟩ | ⟨-, rfl⟩, ⟨-, hw⟩ | ⟨_, -, hw⟩⟩ := update_ok h
    all_goals exact ⟨_, _, hw⟩
  | resetSubordinatePassword targetId newPassword requesterRole =>
    refine next_frame (fun _ => ⟨_, _, rfl⟩) fun _ _ h => ?_
    obtain ⟨-, -, -, -, -, -, hw⟩ := resetSubordinatePassword_ok h
    exact ⟨_, _, hw⟩
  | remove id currentUser =>
    refine next_frame (fun _ => ⟨_, _, rfl⟩) fun _ _ h => ?_
    obtain ⟨-, -, -, -, -, -, -, hw⟩ := remove_ok h
    exact ⟨_, _, hw⟩

/-- `BranchesService` writes branches, and detaches what is in one it closes. -/
def Branches.Frame (t t' : Tables) : Prop :=
  ∃ bs us ubs vs ds,
    t' = { t with branches := bs, users := us, userBranches := ubs, vehicles := vs, drivers := ds }

/-- Requests on branches write branches, and the references to one that is closed. -/
theorem Branches.Request.frame (r : Branches.Request) (env : Env) (tenantId : String)
    (db : Database) :
    Branches.Frame db.toTables (r.next env tenantId db).toTables := by
  cases r with
  | create dto =>
    refine next_frame (fun _ => ⟨_, _, _, _, _, rfl⟩) fun _ _ h => ?_
    obtain ⟨-, -, hw⟩ := create_ok h
    exact ⟨_, _, _, _, _, hw⟩
  | update id dto =>
    refine next_frame (fun _ => ⟨_, _, _, _, _, rfl⟩) fun _ _ h => ?_
    obtain ⟨-, -, -, -, -, -, hw⟩ := update_ok h
    exact ⟨_, _, _, _, _, hw⟩
  | remove id =>
    refine next_frame (fun _ => ⟨_, _, _, _, _, rfl⟩) fun _ _ h => ?_
    obtain ⟨-, hw⟩ := remove_ok h
    exact ⟨_, _, _, _, _, hw⟩

/-- `VehiclesService` and `ContractsService` write vehicles and contracts. -/
def Vehicles.Frame (t t' : Tables) : Prop :=
  ∃ vs cs, t' = { t with vehicles := vs, contracts := cs }

/-- Requests on vehicles write vehicles and contracts. -/
theorem Vehicles.Request.frame (r : Vehicles.Request) (env : Env) (tenantId : String)
    (db : Database) :
    Vehicles.Frame db.toTables (r.next env tenantId db).toTables := by
  cases r with
  | create dto =>
    refine next_frame (fun _ => ⟨_, _, rfl⟩) fun _ _ h => ?_
    obtain ⟨-, _, _, -, -, -, ⟨-, hw⟩ | ⟨-, _, _, _, -, -, -, -, hw⟩⟩ := create_ok h
    all_goals exact ⟨_, _, hw⟩
  | update id dto =>
    refine next_frame (fun _ => ⟨_, _, rfl⟩) fun _ _ h => ?_
    obtain ⟨-, -, _, _, hw⟩ := update_ok h
    exact ⟨_, _, hw⟩
  | remove id =>
    refine next_frame (fun _ => ⟨_, _, rfl⟩) fun _ _ h => ?_
    exact ⟨_, _, (remove_ok h).2⟩

/-- So do those on contracts. -/
theorem Contracts.Request.frame (r : Contracts.Request) (env : Env) (tenantId : String)
    (db : Database) :
    Vehicles.Frame db.toTables (r.next env tenantId db).toTables := by
  cases r with
  | create dto =>
    refine next_frame (fun _ => ⟨_, _, rfl⟩) fun _ _ h => ?_
    obtain ⟨-, ⟨-, _, -, h⟩ | h⟩ := create_ok h
    · obtain ⟨-, _, _, -, -, -, hw⟩ := createWith_ok h
      exact ⟨_, _, hw⟩
    · obtain ⟨-, _, _, -, -, -, hw⟩ := createFor_ok h
      exact ⟨_, _, hw⟩
  | update id dto =>
    refine next_frame (fun _ => ⟨_, _, rfl⟩) fun _ _ h => ?_
    obtain ⟨-, -, -, -, -, -, _, _, -, -, -, hw⟩ := update_ok h
    exact ⟨_, _, hw⟩
  | remove id =>
    refine next_frame (fun _ => ⟨_, _, rfl⟩) fun _ _ h => ?_
    exact ⟨_, _, (remove_ok h).2⟩

/-- `TripsService` writes trips and the state of their vehicles and drivers. -/
def Trips.Frame (t t' : Tables) : Prop :=
  ∃ ts vs ds, t' = { t with trips := ts, vehicles := vs, drivers := ds }

/-- Requests on trips write trips and vehicles. -/
theorem Trips.Request.frame (r : Trips.Request) (env : Env) (tenantId : String) (db : Database) :
    Trips.Frame db.toTables (r.next env tenantId db).toTables := by
  cases r with
  | startTrip vehicleId userId =>
    refine next_frame (fun _ => ⟨_, _, _, rfl⟩) fun _ _ h => ?_
    obtain ⟨_, -, -, -, -, -, -, hw⟩ := startTrip_ok h
    exact ⟨_, _, _, hw⟩
  | endTrip tripId userId dto userRole =>
    refine next_frame (fun _ => ⟨_, _, _, rfl⟩) fun _ _ h => ?_
    obtain ⟨_, -, -, -, -, -, -, hw⟩ := endTrip_ok h
    exact ⟨_, _, _, hw⟩
  | updateTrip tripId dto =>
    refine next_frame (fun _ => ⟨_, _, _, rfl⟩) fun _ _ h => ?_
    obtain ⟨_, -, -, -, -, hw⟩ := updateTrip_ok h
    exact ⟨_, _, _, hw⟩

/-- `MaintenanceService` writes logs and their items. -/
def Maintenance.Frame (t t' : Tables) : Prop :=
  ∃ ls is, t' = { t with maintenanceLogs := ls, maintenanceItems := is }

/-- Maintenance writes logs and their items. -/
theorem Maintenance.create_frame (dto : Maintenance.CreateMaintenanceLogDto) (env : Env)
    (tenantId : String) (db : Database) :
    Maintenance.Frame db.toTables ((Maintenance.create env tenantId dto).next db).toTables := by
  refine next_frame (fun _ => ⟨_, _, rfl⟩) fun _ _ h => ?_
  obtain ⟨-, _, _, -, -, -, hw⟩ := create_ok h
  exact ⟨_, _, hw⟩

/-- `WorkshopService` writes jobs and their items. -/
def Workshop.Frame (t t' : Tables) : Prop :=
  ∃ js is, t' = { t with workshopJobs := js, workshopItems := is }

/-- Requests on the workshop write jobs and their items. -/
theorem Workshop.Request.frame (r : Workshop.Request) (env : Env) (tenantId : String)
    (db : Database) :
    Workshop.Frame db.toTables (r.next env tenantId db).toTables := by
  cases r with
  | createJob dto =>
    refine next_frame (fun _ => ⟨_, _, rfl⟩) fun _ _ h => ?_
    exact ⟨_, _, (createJob_ok h).2.2⟩
  | addItem jobId dto =>
    refine next_frame (fun _ => ⟨_, _, rfl⟩) fun _ _ h => ?_
    obtain ⟨_, -, -, -, -, -, hw⟩ := addItem_ok h
    exact ⟨_, _, hw⟩
  | updateStatus jobId status =>
    refine next_frame (fun _ => ⟨_, _, rfl⟩) fun _ _ h => ?_
    exact ⟨_, _, (updateStatus_ok h).2⟩

/-! ### Services with one table -/

/-- `FuelService` writes fuel logs. -/
def Fuel.Frame (t t' : Tables) : Prop := ∃ ls, t' = { t with fuelLogs := ls }

/-- A fuel log is written into its table only. -/
theorem Fuel.addLog_frame (dto : Fuel.CreateFuelLogDto) (env : Env) (tenantId : String)
    (db : Database) : Fuel.Frame db.toTables ((Fuel.addLog env tenantId dto).next db).toTables := by
  refine next_frame (fun _ => ⟨_, rfl⟩) fun _ _ h => ?_
  obtain ⟨-, -, _, -, -, hw⟩ := addLog_ok h
  exact ⟨_, hw⟩

/-- `DocumentsService` writes documents. -/
def Documents.Frame (t t' : Tables) : Prop := ∃ ds, t' = { t with documents := ds }

/-- So is a document. -/
theorem Documents.create_frame (dto : Documents.CreateDocumentDto) (env : Env) (tenantId : String)
    (db : Database) :
    Documents.Frame db.toTables ((Documents.create env tenantId dto).next db).toTables := by
  refine next_frame (fun _ => ⟨_, rfl⟩) fun _ _ h => ?_
  obtain ⟨-, _, -, -, hw⟩ := create_ok h
  exact ⟨_, hw⟩

/-- `ExpensesService` writes expenses. -/
def Expenses.Frame (t t' : Tables) : Prop := ∃ es, t' = { t with expenses := es }

/-- So is an expense. -/
theorem Expenses.create_frame (dto : Expenses.CreateExpenseDto) (env : Env) (tenantId : String)
    (db : Database) :
    Expenses.Frame db.toTables ((Expenses.create env tenantId dto).next db).toTables :=
  next_frame (fun _ => ⟨_, rfl⟩) fun _ _ h => ⟨_, (create_ok h).2⟩

/-- `TrackingService` writes locations. -/
def Tracking.Frame (t t' : Tables) : Prop := ∃ ls, t' = { t with gpsLocations := ls }

/-- So is a position. -/
theorem Tracking.saveLocation_frame (limited : Bool) (dto : Tracking.SaveLocationDto) (env : Env)
    (tenantId : String) (db : Database) :
    Tracking.Frame db.toTables
      ((Tracking.saveLocation env tenantId limited dto).next db).toTables :=
  next_frame (fun _ => ⟨_, rfl⟩) fun _ _ h => ⟨_, (saveLocation_ok h).2.2.2⟩

/-- `DriversService` writes drivers. -/
def Drivers.Frame (t t' : Tables) : Prop := ∃ ds, t' = { t with drivers := ds }

/-- Requests on drivers write drivers only. -/
theorem Drivers.Request.frame (r : Drivers.Request) (env : Env) (tenantId : String)
    (db : Database) :
    Drivers.Frame db.toTables (r.next env tenantId db).toTables := by
  cases r with
  | create dto =>
    refine next_frame (fun _ => ⟨_, rfl⟩) fun _ _ h => ?_
    exact ⟨_, (create_ok h).2.2.2⟩
  | update id dto =>
    refine next_frame (fun _ => ⟨_, rfl⟩) fun _ _ h => ?_
    exact ⟨_, (update_ok h).2.2⟩
  | remove id =>
    refine next_frame (fun _ => ⟨_, rfl⟩) fun _ _ h => ?_
    exact ⟨_, (remove_ok h).2⟩

/-- `AssignmentsService` writes assignments. -/
def Assignments.Frame (t t' : Tables) : Prop := ∃ as, t' = { t with assignments := as }

/-- Requests on assignments write assignments only. -/
theorem Assignments.Request.frame (r : Assignments.Request) (env : Env) (tenantId : String)
    (db : Database) :
    Assignments.Frame db.toTables (r.next env tenantId db).toTables := by
  cases r with
  | create dto =>
    refine next_frame (fun _ => ⟨_, rfl⟩) fun _ _ h => ?_
    obtain ⟨_, _, -, -, -, -, -, -, -, -, hw⟩ := create_ok h
    exact ⟨_, hw⟩
  | update id dto =>
    refine next_frame (fun _ => ⟨_, rfl⟩) fun _ _ h => ?_
    obtain ⟨_, -, -, -, _, _, -, -, -, hw⟩ := update_ok h
    exact ⟨_, hw⟩
  | remove id =>
    refine next_frame (fun _ => ⟨_, rfl⟩) fun _ _ h => ?_
    exact ⟨_, (remove_ok h).2⟩

/-- `BookingsService` writes bookings. -/
def Bookings.Frame (t t' : Tables) : Prop := ∃ bs, t' = { t with bookings := bs }

/-- Requests on bookings write bookings only. -/
theorem Bookings.Request.frame (r : Bookings.Request) (env : Env) (tenantId : String)
    (db : Database) :
    Bookings.Frame db.toTables (r.next env tenantId db).toTables := by
  cases r with
  | create dto =>
    refine next_frame (fun _ => ⟨_, rfl⟩) fun _ _ h => ?_
    obtain ⟨_, _, -, -, -, -, -, -, hw⟩ := create_ok h
    exact ⟨_, hw⟩
  | confirm id =>
    refine next_frame (fun _ => ⟨_, rfl⟩) fun _ _ h => ?_
    obtain ⟨_, -, -, -, -, -, hw⟩ := confirm_ok h
    exact ⟨_, hw⟩
  | cancel id =>
    refine next_frame (fun _ => ⟨_, rfl⟩) fun _ _ h => ?_
    obtain ⟨_, -, -, -, -, -, hw⟩ := cancel_ok h
    exact ⟨_, hw⟩
  | assign id dto =>
    refine next_frame (fun _ => ⟨_, rfl⟩) fun _ _ h => ?_
    obtain ⟨_, -, -, -, -, -, -, -, -, hw⟩ := assign_ok h
    exact ⟨_, hw⟩

/-- `IncomeService` writes income records. -/
def Income.Frame (t t' : Tables) : Prop := ∃ is, t' = { t with incomes := is }

/-- Requests on incomes write incomes only. -/
theorem Income.Request.frame (r : Income.Request) (env : Env) (tenantId : String) (db : Database) :
    Income.Frame db.toTables (r.next env tenantId db).toTables := by
  cases r with
  | create dto =>
    refine next_frame (fun _ => ⟨_, rfl⟩) fun _ _ h => ?_
    exact ⟨_, (create_ok h).2⟩
  | update id dto =>
    refine next_frame (fun _ => ⟨_, rfl⟩) fun _ _ h => ?_
    exact ⟨_, (update_ok h).2⟩
  | remove id =>
    refine next_frame (fun _ => ⟨_, rfl⟩) fun _ _ h => ?_
    exact ⟨_, (remove_ok h).2⟩

/-- `AlertsService` writes alerts. -/
def Alerts.Frame (t t' : Tables) : Prop := ∃ as, t' = { t with alerts := as }

/-- Requests on alerts write alerts only. -/
theorem Alerts.Request.frame (r : Alerts.Request) (env : Env) (tenantId : String) (db : Database) :
    Alerts.Frame db.toTables (r.next env tenantId db).toTables := by
  cases r with
  | scan daysAhead =>
    refine next_frame (fun _ => ⟨_, rfl⟩) fun _ _ h => ?_
    obtain ⟨_, -, -, hw⟩ := scan_ok h
    exact ⟨_, hw⟩
  | markRead alertId =>
    refine next_frame (fun _ => ⟨_, rfl⟩) fun _ _ h => ?_
    exact ⟨_, (updateStatus_ok h).2⟩
  | dismiss alertId =>
    refine next_frame (fun _ => ⟨_, rfl⟩) fun _ _ h => ?_
    exact ⟨_, (updateStatus_ok h).2⟩

/-! ### The platform -/

/-- The super admin, registrations and the jobs write accounts and alerts. -/
def PlatformRequest.Frame (t t' : Tables) : Prop :=
  ∃ ts us fs ss as,
    t' = { t with tenants := ts, users := us, featureAccesses := fs, subscriptions := ss,
                  alerts := as }

/-- The platform writes tenants, users, features, subscriptions and alerts. -/
theorem PlatformRequest.frame (r : PlatformRequest) (env : Env) (db : Database) :
    PlatformRequest.Frame db.toTables (r.next env db).toTables := by
  cases r <;> refine next_frame (fun _ => ⟨_, _, _, _, _, rfl⟩) fun _ _ h => ?_
  case registerTenant => exact ⟨_, _, _, _, _, (Auth.registerTenant_ok h).2⟩
  case seedSuperAdmin => exact ⟨_, _, _, _, _, (Auth.seedSuperAdmin_ok h).2.2.2⟩
  case approve =>
    obtain ⟨_, -, -, hw⟩ := AdminApplications.approve_ok h
    exact ⟨_, _, _, _, _, hw⟩
  case reject =>
    obtain ⟨_, -, -, hw⟩ := AdminApplications.reject_ok h
    exact ⟨_, _, _, _, _, hw⟩
  case suspend =>
    obtain ⟨_, -, -, hw⟩ := AdminApplications.suspend_ok h
    exact ⟨_, _, _, _, _, hw⟩
  case reactivate =>
    obtain ⟨_, -, -, hw⟩ := AdminApplications.reactivate_ok h
    exact ⟨_, _, _, _, _, hw⟩
  case resetAdminPassword =>
    exact ⟨_, _, _, _, _, (AdminApplications.resetAdminPassword_ok h).2⟩
  case updateTenant => exact ⟨_, _, _, _, _, (Tenants.update_ok h).2⟩
  case removeTenant => exact ⟨_, _, _, _, _, (Tenants.remove_ok h).2⟩
  case enableFeature =>
    obtain ⟨_, -, -, -, -, hw⟩ | ⟨-, -, hw⟩ := FeatureAccesses.setEnabled_ok h
    all_goals exact ⟨_, _, _, _, _, hw⟩
  case disableFeature =>
    obtain ⟨_, -, -, -, -, hw⟩ | ⟨-, -, hw⟩ := FeatureAccesses.setEnabled_ok h
    all_goals exact ⟨_, _, _, _, _, hw⟩
  case createSubscription => exact ⟨_, _, _, _, _, (Subscriptions.create_ok h).2⟩
  case updateSubscription => exact ⟨_, _, _, _, _, Subscriptions.update_ok h⟩
  case changePassword =>
    obtain ⟨_, -, -, -, -, -, hw⟩ := Profile.changePassword_ok h
    exact ⟨_, _, _, _, _, hw⟩
  case changeName => exact ⟨_, _, _, _, _, (Profile.changeName_ok h).2⟩
  case runOfflineDetection =>
    obtain ⟨_, hw⟩ := Jobs.runOfflineDetection_ok h
    exact ⟨_, _, _, _, _, hw⟩

/-! ### Who writes a table -/

/-- The tables of the schema. -/
inductive Table where
  | tenants | branches | subscriptions | featureAccesses | users | userBranches | vehicles
  | drivers | assignments | bookings | contracts | trips | fuelLogs | maintenanceLogs
  | maintenanceItems | documents | expenses | incomes | gpsLocations | workshopJobs
  | workshopItems | alerts
  deriving DecidableEq

/-- The table has the same rows in `t` and `t'`. -/
def Table.Same (t t' : Tables) : Table → Prop
  | .tenants => t'.tenants = t.tenants
  | .branches => t'.branches = t.branches
  | .subscriptions => t'.subscriptions = t.subscriptions
  | .featureAccesses => t'.featureAccesses = t.featureAccesses
  | .users => t'.users = t.users
  | .userBranches => t'.userBranches = t.userBranches
  | .vehicles => t'.vehicles = t.vehicles
  | .drivers => t'.drivers = t.drivers
  | .assignments => t'.assignments = t.assignments
  | .bookings => t'.bookings = t.bookings
  | .contracts => t'.contracts = t.contracts
  | .trips => t'.trips = t.trips
  | .fuelLogs => t'.fuelLogs = t.fuelLogs
  | .maintenanceLogs => t'.maintenanceLogs = t.maintenanceLogs
  | .maintenanceItems => t'.maintenanceItems = t.maintenanceItems
  | .documents => t'.documents = t.documents
  | .expenses => t'.expenses = t.expenses
  | .incomes => t'.incomes = t.incomes
  | .gpsLocations => t'.gpsLocations = t.gpsLocations
  | .workshopJobs => t'.workshopJobs = t.workshopJobs
  | .workshopItems => t'.workshopItems = t.workshopItems
  | .alerts => t'.alerts = t.alerts

/-- The tables a request may write. -/
def TenantRequest.writes : TenantRequest → List Table
  | .users _ => [.users, .userBranches]
  | .branches _ => [.branches, .users, .userBranches, .vehicles, .drivers]
  | .vehicles _ => [.vehicles, .contracts]
  | .drivers _ => [.drivers]
  | .assignments _ => [.assignments]
  | .bookings _ => [.bookings]
  | .contracts _ => [.vehicles, .contracts]
  | .trips _ => [.trips, .vehicles, .drivers]
  | .fuel _ => [.fuelLogs]
  | .maintenance _ => [.maintenanceLogs, .maintenanceItems]
  | .documents _ => [.documents]
  | .workshop _ => [.workshopJobs, .workshopItems]
  | .expenses _ => [.expenses]
  | .income _ => [.incomes]
  | .alerts _ => [.alerts]
  | .tracking _ _ => [.gpsLocations]

/-- The tables a request may write to. -/
def Request.writes : Request → List Table
  | .tenant _ _ r => r.writes
  | .platform _ _ => [.tenants, .users, .featureAccesses, .subscriptions, .alerts]

/-- A tenant's request leaves every other table as it is. -/
theorem TenantRequest.same (r : TenantRequest) (env : Env) (tenantId : String) {tbl : Table}
    (h : tbl ∉ r.writes) : tbl.Same db.toTables (r.next env tenantId db).toTables := by
  unfold TenantRequest.next
  cases r with
  | users r =>
    obtain ⟨_, _, hw⟩ := r.frame env tenantId db
    rw [hw]
    cases tbl <;> first | rfl | simp [writes] at h
  | branches r =>
    obtain ⟨_, _, _, _, _, hw⟩ := r.frame env tenantId db
    rw [hw]
    cases tbl <;> first | rfl | simp [writes] at h
  | vehicles r =>
    obtain ⟨_, _, hw⟩ := r.frame env tenantId db
    rw [hw]
    cases tbl <;> first | rfl | simp [writes] at h
  | contracts r =>
    obtain ⟨_, _, hw⟩ := r.frame env tenantId db
    rw [hw]
    cases tbl <;> first | rfl | simp [writes] at h
  | workshop r =>
    obtain ⟨_, _, hw⟩ := r.frame env tenantId db
    rw [hw]
    cases tbl <;> first | rfl | simp [writes] at h
  | trips r =>
    obtain ⟨_, _, _, hw⟩ := r.frame env tenantId db
    rw [hw]
    cases tbl <;> first | rfl | simp [writes] at h
  | drivers r =>
    obtain ⟨_, hw⟩ := r.frame env tenantId db
    rw [hw]
    cases tbl <;> first | rfl | simp [writes] at h
  | assignments r =>
    obtain ⟨_, hw⟩ := r.frame env tenantId db
    rw [hw]
    cases tbl <;> first | rfl | simp [writes] at h
  | bookings r =>
    obtain ⟨_, hw⟩ := r.frame env tenantId db
    rw [hw]
    cases tbl <;> first | rfl | simp [writes] at h
  | income r =>
    obtain ⟨_, hw⟩ := r.frame env tenantId db
    rw [hw]
    cases tbl <;> first | rfl | simp [writes] at h
  | alerts r =>
    obtain ⟨_, hw⟩ := r.frame env tenantId db
    rw [hw]
    cases tbl <;> first | rfl | simp [writes] at h
  | maintenance dto =>
    obtain ⟨_, _, hw⟩ := Maintenance.create_frame dto env tenantId db
    rw [hw]
    cases tbl <;> first | rfl | simp [writes] at h
  | fuel dto =>
    obtain ⟨_, hw⟩ := Fuel.addLog_frame dto env tenantId db
    rw [hw]
    cases tbl <;> first | rfl | simp [writes] at h
  | documents dto =>
    obtain ⟨_, hw⟩ := Documents.create_frame dto env tenantId db
    rw [hw]
    cases tbl <;> first | rfl | simp [writes] at h
  | expenses dto =>
    obtain ⟨_, hw⟩ := Expenses.create_frame dto env tenantId db
    rw [hw]
    cases tbl <;> first | rfl | simp [writes] at h
  | tracking limited dto =>
    obtain ⟨_, hw⟩ := Tracking.saveLocation_frame limited dto env tenantId db
    rw [hw]
    cases tbl <;> first | rfl | simp [writes] at h

/-- A request leaves every table it does not write as it is. -/
theorem step_same (r : Request) {tbl : Table} (h : tbl ∉ r.writes) :
    tbl.Same db.toTables (step r db).toTables := by
  cases r with
  | tenant env tenantId r => exact r.same env tenantId h
  | platform env r =>
    obtain ⟨_, _, _, _, _, hw⟩ := r.frame env db
    rw [step, hw]
    cases tbl <;> first | rfl | simp [Request.writes] at h

/-- The tables a request of the platform may write. -/
def PlatformRequest.writes : PlatformRequest → List Table
  | .registerTenant _ | .seedSuperAdmin _ => [.tenants, .users]
  | .approve _ | .suspend _ | .reactivate _ => [.tenants, .users]
  | .reject _ | .resetAdminPassword .. | .changePassword .. | .changeName .. => [.users]
  | .updateTenant .. | .removeTenant _ => [.tenants]
  | .enableFeature .. | .disableFeature .. => [.featureAccesses]
  | .createSubscription _ | .updateSubscription .. => [.subscriptions]
  | .runOfflineDetection => [.alerts]

/-- A state has the same table as itself. -/
theorem Table.same_refl (tbl : Table) (t : Tables) : tbl.Same t t := by
  cases tbl <;> rfl

/-- A request of the platform leaves every other table as it is. -/
theorem PlatformRequest.same (r : PlatformRequest) (env : Env) {tbl : Table} (h : tbl ∉ r.writes) :
    tbl.Same db.toTables (r.next env db).toTables := by
  cases r <;> refine next_frame (F := fun t t' => tbl.Same t t') tbl.same_refl fun _ _ hok => ?_
  case registerTenant =>
    rw [(Auth.registerTenant_ok hok).2]
    cases tbl <;> first | rfl | simp [writes] at h
  case seedSuperAdmin =>
    rw [(Auth.seedSuperAdmin_ok hok).2.2.2]
    cases tbl <;> first | rfl | simp [writes] at h
  case approve =>
    obtain ⟨_, -, -, hw⟩ := AdminApplications.approve_ok hok
    rw [hw]
    cases tbl <;> first | rfl | simp [writes] at h
  case reject =>
    obtain ⟨_, -, -, hw⟩ := AdminApplications.reject_ok hok
    rw [hw]
    cases tbl <;> first | rfl | simp [writes] at h
  case suspend =>
    obtain ⟨_, -, -, hw⟩ := AdminApplications.suspend_ok hok
    rw [hw]
    cases tbl <;> first | rfl | simp [writes] at h
  case reactivate =>
    obtain ⟨_, -, -, hw⟩ := AdminApplications.reactivate_ok hok
    rw [hw]
    cases tbl <;> first | rfl | simp [writes] at h
  case resetAdminPassword =>
    rw [(AdminApplications.resetAdminPassword_ok hok).2]
    cases tbl <;> first | rfl | simp [writes] at h
  case updateTenant =>
    rw [(Tenants.update_ok hok).2]
    cases tbl <;> first | rfl | simp [writes] at h
  case removeTenant =>
    rw [(Tenants.remove_ok hok).2]
    cases tbl <;> first | rfl | simp [writes] at h
  case enableFeature =>
    obtain ⟨_, -, -, -, -, hw⟩ | ⟨-, -, hw⟩ := FeatureAccesses.setEnabled_ok hok
    all_goals rw [hw]; cases tbl <;> first | rfl | simp [writes] at h
  case disableFeature =>
    obtain ⟨_, -, -, -, -, hw⟩ | ⟨-, -, hw⟩ := FeatureAccesses.setEnabled_ok hok
    all_goals rw [hw]; cases tbl <;> first | rfl | simp [writes] at h
  case createSubscription =>
    rw [(Subscriptions.create_ok hok).2]
    cases tbl <;> first | rfl | simp [writes] at h
  case updateSubscription =>
    rw [Subscriptions.update_ok hok]
    cases tbl <;> first | rfl | simp [writes] at h
  case changePassword =>
    obtain ⟨_, -, -, -, -, -, hw⟩ := Profile.changePassword_ok hok
    rw [hw]
    cases tbl <;> first | rfl | simp [writes] at h
  case changeName =>
    rw [(Profile.changeName_ok hok).2]
    cases tbl <;> first | rfl | simp [writes] at h
  case runOfflineDetection =>
    obtain ⟨_, hw⟩ := Jobs.runOfflineDetection_ok hok
    rw [hw]
    cases tbl <;> first | rfl | simp [writes] at h

/-! ### Requests that change a table -/

/-- A request that changes the bookings is one on bookings that goes through. -/
theorem step_bookings (r : Request) (db : Database) :
    (step r db).bookings = db.bookings ∨
      ∃ env T rb b, r = .tenant env T (.bookings rb) ∧
        (rb.handler env T).exec db = .ok (b, step r db) := by
  by_cases hw : Table.bookings ∈ r.writes
  · cases r with
    | platform env r => simp [Request.writes] at hw
    | tenant env T r =>
      cases r with
      | bookings rb =>
        rcases (rb.handler env T).next_cases db with hsame | ⟨b, hok⟩
        · exact .inl (congrArg (fun db : Database => db.bookings) hsame)
        · exact .inr ⟨env, T, rb, b, rfl, hok⟩
      | _ => simp [Request.writes, TenantRequest.writes] at hw
  · exact .inl (step_same r hw)

/-- A request that changes the assignments is one on assignments that goes through. -/
theorem step_assignments (r : Request) (db : Database) :
    (step r db).assignments = db.assignments ∨
      ∃ env T ra a, r = .tenant env T (.assignments ra) ∧
        (ra.handler env T).exec db = .ok (a, step r db) := by
  by_cases hw : Table.assignments ∈ r.writes
  · cases r with
    | platform env r => simp [Request.writes] at hw
    | tenant env T r =>
      cases r with
      | assignments ra =>
        rcases (ra.handler env T).next_cases db with hsame | ⟨a, hok⟩
        · exact .inl (congrArg (fun db : Database => db.assignments) hsame)
        · exact .inr ⟨env, T, ra, a, rfl, hok⟩
      | _ => simp [Request.writes, TenantRequest.writes] at hw
  · exact .inl (step_same r hw)

/-- A request that changes the trips is one on trips that goes through. -/
theorem step_trips (r : Request) (db : Database) :
    (step r db).trips = db.trips ∨
      ∃ env T rt t, r = .tenant env T (.trips rt) ∧
        (rt.handler env T).exec db = .ok (t, step r db) := by
  by_cases hw : Table.trips ∈ r.writes
  · cases r with
    | platform env r => simp [Request.writes] at hw
    | tenant env T r =>
      cases r with
      | trips rt =>
        rcases (rt.handler env T).next_cases db with hsame | ⟨t, hok⟩
        · exact .inl (congrArg (fun db : Database => db.trips) hsame)
        · exact .inr ⟨env, T, rt, t, rfl, hok⟩
      | _ => simp [Request.writes, TenantRequest.writes] at hw
  · exact .inl (step_same r hw)

/-! ### Where rows come from -/

section Descends

variable {α : Type} {m : Model α} {Q : α → α → Prop} {N : α → Prop} {db' : Database}

/-- A row of the second state has a predecessor with its id, to which it stands
in the relation `Q`, or is a new row that satisfies `N`. -/
def Model.Descends (m : Model α) (Q : α → α → Prop) (N : α → Prop) (db db' : Database) : Prop :=
  ∀ r' ∈ m.rows db'.toTables,
    (∃ r ∈ m.rows db.toTables, m.id r = m.id r' ∧ Q r r') ∨
      (∀ r ∈ m.rows db.toTables, (m.id r).val ≠ (m.id r').val) ∧ N r'

/-- A table that is not written descends from itself. -/
theorem descends_same (hQ : ∀ r, Q r r) (h : m.rows db'.toTables = m.rows db.toTables) :
    m.Descends Q N db db' := by
  intro r hr
  rw [h] at hr
  exact .inl ⟨r, hr, rfl, hQ r⟩

/-- A new row, besides the old ones. -/
theorem descends_insert [m.Keyed] (hQ : ∀ r, Q r r) {r : α}
    (h : m.rows db'.toTables = m.rows db.toTables ++ [r]) (hN : N r) : m.Descends Q N db db' := by
  intro r' hr'
  rw [h] at hr'
  rcases List.mem_append.1 hr' with hr' | hr'
  · exact .inl ⟨r', hr', rfl, hQ r'⟩
  · rw [List.mem_singleton.1 hr']
    exact .inr ⟨db'.id_ne_of_append m h, hN⟩

/-- Some rows changed, the others as they were. -/
theorem descends_update (hQ : ∀ r, Q r r) {p : α → Bool} {f : α → α}
    (h : m.rows db'.toTables = updateWhere p f (m.rows db.toTables))
    (hf : ∀ r ∈ m.rows db.toTables, p r → m.id (f r) = m.id r ∧ Q r (f r)) :
    m.Descends Q N db db' := by
  intro r' hr'
  rw [h] at hr'
  rcases mem_updateWhere.1 hr' with ⟨hr', -⟩ | ⟨r, hr, hp, rfl⟩
  · exact .inl ⟨r', hr', rfl, hQ r'⟩
  · exact .inl ⟨r, hr, (hf r hr hp).1.symm, (hf r hr hp).2⟩

/-- What a step does to a row may be told more coarsely. -/
theorem Model.Descends.mono {Q' : α → α → Prop} {N' : α → Prop} (h : m.Descends Q N db db')
    (hQ : ∀ r r', Q r r' → Q' r r') (hN : ∀ r, N r → N' r) : m.Descends Q' N' db db' :=
  fun r' hr' => (h r' hr').imp
    (fun ⟨r, hr, hid, hrel⟩ => ⟨r, hr, hid, hQ r r' hrel⟩) (And.imp_right (hN r'))

/-- `Descends`, and no row is lost. -/
structure Model.Evolves (m : Model α) (Q : α → α → Prop) (N : α → Prop) (db db' : Database) :
    Prop where
  descends : m.Descends Q N db db'
  survives : ∀ r ∈ m.rows db.toTables, ∃ r' ∈ m.rows db'.toTables, m.id r' = m.id r

/-- A table that is not written evolves by nothing. -/
theorem evolves_same (hQ : ∀ r, Q r r) (h : m.rows db'.toTables = m.rows db.toTables) :
    m.Evolves Q N db db' where
  descends := descends_same hQ h
  survives r hr := ⟨r, by rwa [h], rfl⟩

/-- A new row, after the old ones. -/
theorem evolves_insert [m.Keyed] (hQ : ∀ r, Q r r) {r : α}
    (h : m.rows db'.toTables = m.rows db.toTables ++ [r]) (hN : N r) : m.Evolves Q N db db' where
  descends := descends_insert hQ h hN
  survives o ho := ⟨o, by rw [h]; exact List.mem_append_left _ ho, rfl⟩

/-- Some rows changed, each in its place. -/
theorem evolves_update (hQ : ∀ r, Q r r) {p : α → Bool} {f : α → α}
    (h : m.rows db'.toTables = updateWhere p f (m.rows db.toTables))
    (hf : ∀ r ∈ m.rows db.toTables, p r → m.id (f r) = m.id r ∧ Q r (f r)) :
    m.Evolves Q N db db' where
  descends := descends_update hQ h hf
  survives r hr := by
    have hid : ∃ o ∈ m.rows db.toTables, m.id o = m.id r := ⟨r, hr, rfl⟩
    rw [h]
    exact exists_updateWhere (fun o ho hp ho' => (hf o ho hp).1.trans ho') hid

/-- An update of the row with one id. -/
theorem evolves_updateAt [m.Keyed] (hQ : ∀ r, Q r r) {r : α} (hr : r ∈ m.rows db.toTables)
    {f : α → α}
    (h : m.rows db'.toTables =
      updateWhere (fun o => (m.id o).val = (m.id r).val) f (m.rows db.toTables))
    (hid : ∀ o, m.id (f o) = m.id o) (hf : Q r (f r)) : m.Evolves Q N db db' := by
  refine evolves_update hQ h fun o ho hp => ⟨hid o, ?_⟩
  obtain rfl := db.eq_of_id m ho hr (of_decide_eq_true hp)
  exact hf

/-- The successor of a row stands in the relation to it. -/
theorem Model.Evolves.of_id [m.Keyed] (h : m.Evolves Q N db db') {r r' : α}
    (hr : r ∈ m.rows db.toTables) (hr' : r' ∈ m.rows db'.toTables) (hid : m.id r' = m.id r) :
    Q r r' := by
  rcases h.descends r' hr' with ⟨o, ho, hoid, hQ⟩ | ⟨hnew, -⟩
  · rwa [db.eq_of_id m hr ho (congrArg Cuid.val (hid.symm.trans hoid.symm))]
  · exact absurd (congrArg Cuid.val hid.symm) (hnew r hr)

/-- No row is lost, and each is what the step has made of it. -/
theorem Model.Evolves.exists_next [m.Keyed] (h : m.Evolves Q N db db') {r : α}
    (hr : r ∈ m.rows db.toTables) : ∃ r' ∈ m.rows db'.toTables, m.id r' = m.id r ∧ Q r r' := by
  obtain ⟨r', hr', hid⟩ := h.survives r hr
  exact ⟨r', hr', hid, h.of_id hr hr' hid⟩

/-- It suffices that the accepted requests let it evolve. -/
theorem next_evolves {β : Type} {h : Query (Transaction β)} (hQ : ∀ r, Q r r)
    (hok : ∀ b db', h.exec db = .ok (b, db') → m.Evolves Q N db db') :
    m.Evolves Q N db (h.next db) :=
  Script.next_induct (P := m.Evolves Q N db) (evolves_same hQ rfl) hok

/-- A rejected request changes nothing; so only the successful ones matter. -/
theorem next_descends {β : Type} {h : Query (Transaction β)} (hQ : ∀ r, Q r r)
    (hok : ∀ b db', h.exec db = .ok (b, db') → m.Descends Q N db db') :
    m.Descends Q N db (h.next db) :=
  Script.next_induct (P := m.Descends Q N db) (descends_same hQ rfl) hok

end Descends

end NodeVms
