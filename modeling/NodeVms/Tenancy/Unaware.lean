/-
# What the location history reaches

Nothing but itself and the alerts: every handler of every service is blind to the two
tables (`Script.Unaware`), so whatever a request does to the rest of the database it does
with the two tables out of sight as well (`step_hideLocations`).
-/

import NodeVms.Tenancy.Locations

namespace NodeVms

open Store Script Prisma

/-! ### The checks the services share -/

section Checks

variable {T id : String}

/-- A check of the body looks at no table. -/
theorem Field.blind_notNull {α : Type} (f : Field α) :
    f.notNull.Blind Database.hideLocations fun _ => True := by
  cases f <;> trivial

/-- Nor does the check of a date. -/
theorem JsDate.blind_valid (d : JsDate) :
    d.valid.Blind Database.hideLocations fun _ => True :=
  blind_orThrow

/-- Nor that of an optional one. -/
theorem JsDate.blind_validOpt (d : Option JsDate) :
    (validOpt d).Blind Database.hideLocations fun _ => True := by
  cases d with
  | none => trivial
  | some d => exact blind_bind d.blind_valid fun _ => trivial

/-- The lookup of a vehicle reads the vehicles. -/
theorem blind_findVehicle : (findVehicle T id).Blind Database.hideLocations fun _ => True :=
  blind_bind (blind_read fun _ => rfl) fun _ => blind_orThrow

/-- The lookup of a driver reads the drivers. -/
theorem blind_findDriver : (findDriver T id).Blind Database.hideLocations fun _ => True :=
  blind_bind (blind_read fun _ => rfl) fun _ => blind_orThrow

namespace Validator

variable {excludeId branchId : Option String}

/-- The checks of columns read tables of other rows. -/
theorem blind_assertUnique {α κ : Type} [DecidableEq κ] {m : Model α} {deletedAt : α → Option Time}
    {column : α → κ} {value : κ} {message : String}
    (hm : ∀ db : Database, m.rows db.hideLocations.toTables = m.rows db.toTables) :
    (assertUnique m deletedAt column value excludeId message).Blind Database.hideLocations
      fun _ => True :=
  blind_bind (blind_read fun db => congrArg (List.find? _) (hm db)) fun _ => blind_throwIfSome

/-- The lookup of a user reads the users. -/
theorem blind_assertUserExists {label : String} :
    (assertUserExists T id label).Blind Database.hideLocations fun _ => True :=
  blind_bind (blind_read fun _ => rfl) fun _ => blind_orThrow

/-- The lookup of a branch, where one is named, reads the branches. -/
theorem blind_assertBranchExists :
    (assertBranchExists T branchId).Blind Database.hideLocations fun _ => True :=
  blind_whenSome fun _ => blind_bind (blind_read fun _ => rfl) fun _ =>
    blind_bind blind_orThrow fun _ => trivial

/-- The link of a driver to a user is a column like the others. -/
theorem blind_assertUserNotAlreadyDriver :
    (assertUserNotAlreadyDriver id excludeId).Blind Database.hideLocations fun _ => True :=
  blind_assertUnique fun _ => rfl

end Validator

end Checks

/-! ### The requests -/

open Validator

variable {env : Env} {T id : String}

namespace Users

/-- The lookup that the writes of a user begin with. -/
theorem blind_findActiveUser :
    (findActiveUser T id).Blind Database.hideLocations fun _ => True :=
  blind_bind (blind_read fun _ => rfl) fun _ => blind_orThrow

/-- The branches of the memberships are counted in the branches. -/
theorem blind_assertBranchesExist (branchIds : List String) :
    (assertBranchesExist T branchIds).Blind Database.hideLocations fun _ => True :=
  blind_when (blind_bind (blind_read fun _ => rfl) fun _ => blind_throwIf)

/-- A new user is written with its memberships. -/
theorem create_unaware (dto : CreateUserDto) :
    (create env T dto).Unaware Database.hideLocations := by
  unfold create assertManageableRole
  refine blind_bind blind_throwIf fun _ => blind_bind (blind_assertUnique fun _ => rfl) fun _ => ?_
  refine blind_bind blind_assertBranchExists fun _ => ?_
  refine blind_bind (blind_assertBranchesExist _) fun _ => blind_commit ?_
  exact .bind (blind_create _) fun _ => .bind (.when (blind_createMany _)) fun _ => .pure _

/-- An update of a user writes its row and replaces its memberships. -/
theorem update_unaware (dto : UpdateUserDto) (currentUser : CurrentUser) :
    (update env T id dto currentUser).Unaware Database.hideLocations := by
  unfold update assertManageableRole
  refine blind_bind blind_findActiveUser fun _ => blind_bind blind_throwIf fun _ => ?_
  refine blind_bind (blind_when (blind_bind blind_throwIf fun _ => blind_throwIf)) fun _ => ?_
  refine blind_bind (blind_when blind_throwIf) fun _ => ?_
  refine blind_bind (blind_when blind_assertBranchExists) fun _ => blind_bind blind_throwIf fun _ => ?_
  refine blind_bind (blind_whenSome blind_assertBranchesExist) fun _ => ?_
  refine blind_bind blind_throwIf fun _ => blind_bind dto.name.blind_notNull fun _ => ?_
  refine blind_bind dto.role.blind_notNull fun _ => ?_
  refine blind_bind dto.isActive.blind_notNull fun _ => blind_commit ?_
  refine .bind (.when (.bind (blind_update id fun _ => rfl) fun _ => .pure _)) fun _ => ?_
  exact .whenSome fun _ => .bind (blind_deleteMany_userBranch _) fun _ => .when (blind_createMany _)

/-- A password is written into the row of the user. -/
theorem resetSubordinatePassword_unaware (newPassword : String) (requesterRole : Role) :
    (resetSubordinatePassword env T id newPassword requesterRole).Unaware
      Database.hideLocations := by
  unfold resetSubordinatePassword
  refine blind_bind blind_findActiveUser fun _ => blind_bind blind_throwIf fun _ => ?_
  exact blind_commit (blind_update id fun _ => rfl)

/-- A user is removed by its row alone. -/
theorem remove_unaware (currentUser : CurrentUser) :
    (remove env T id currentUser).Unaware Database.hideLocations := by
  unfold remove
  refine blind_bind blind_findActiveUser fun _ => blind_bind blind_throwIf fun _ => ?_
  exact blind_bind blind_throwIf fun _ => blind_commit (blind_update id fun _ => rfl)

/-- Requests on users pass over the two tables. -/
theorem Request.next_hide (r : Request) (db : Database) :
    r.next env T db.hideLocations = (r.next env T db).hideLocations := by
  cases r with
  | create dto => exact (create_unaware dto).next_hide
  | update id dto currentUser => exact (update_unaware dto currentUser).next_hide
  | resetSubordinatePassword targetId newPassword requesterRole =>
    exact (resetSubordinatePassword_unaware newPassword requesterRole).next_hide
  | remove id currentUser => exact (remove_unaware currentUser).next_hide

end Users

namespace Branches

/-- The lookup that the writes of a branch begin with. -/
theorem blind_findOwn : (findOwn T id).Blind Database.hideLocations fun _ => True :=
  blind_bind (blind_read fun _ => rfl) fun _ => blind_orThrow

/-- A new branch looks for its name among the branches. -/
theorem create_unaware (dto : CreateBranchDto) :
    (create env T dto).Unaware Database.hideLocations := by
  unfold create
  refine blind_bind (blind_read fun _ => rfl) fun _ => blind_bind blind_throwIfSome fun _ => ?_
  exact blind_commit (blind_create _)

/-- So does a branch that gets a new name. -/
theorem update_unaware (dto : UpdateBranchDto) :
    (update T id dto).Unaware Database.hideLocations := by
  unfold update
  refine blind_bind blind_findOwn fun _ => blind_bind (blind_whenSome fun _ => blind_when
    (blind_bind (blind_read fun _ => rfl) fun _ => blind_throwIfSome)) fun _ => ?_
  refine blind_bind dto.name.blind_notNull fun _ => ?_
  exact blind_bind dto.isActive.blind_notNull fun _ =>
    blind_commit (blind_update id fun _ => rfl)

/-- Closing a branch clears the references of users, vehicles and drivers. -/
theorem remove_unaware : (remove env T id).Unaware Database.hideLocations := by
  unfold remove
  refine blind_bind blind_findOwn fun _ => blind_commit ?_
  refine .bind (blind_updateMany _ fun _ => rfl) fun _ => ?_
  refine .bind (blind_deleteMany_userBranch _) fun _ => ?_
  refine .bind (blind_updateMany _ fun _ => rfl) fun _ => ?_
  exact .bind (blind_updateMany _ fun _ => rfl) fun _ => blind_update id fun _ => rfl

/-- Requests on branches pass over the two tables. -/
theorem Request.next_hide (r : Request) (db : Database) :
    r.next env T db.hideLocations = (r.next env T db).hideLocations := by
  cases r with
  | create dto => exact (create_unaware dto).next_hide
  | update id dto => exact (update_unaware dto).next_hide
  | remove id => exact remove_unaware.next_hide

end Branches

namespace Vehicles

/-- A new vehicle may bring a contract with it. -/
theorem create_unaware (dto : CreateVehicleDto) :
    (create env T dto).Unaware Database.hideLocations := by
  unfold create
  refine blind_bind (blind_assertUnique fun _ => rfl) fun _ => ?_
  refine blind_bind blind_assertBranchExists fun _ => ?_
  dsimp only
  split
  · refine blind_bind blind_orThrow fun _ => blind_bind blind_throwIf fun _ => ?_
    refine blind_bind (JsDate.blind_validOpt _) fun _ => ?_
    refine blind_bind (JsDate.blind_validOpt _) fun _ => ?_
    refine blind_bind (JsDate.blind_valid _) fun _ => ?_
    refine blind_bind (JsDate.blind_valid _) fun _ => blind_commit ?_
    exact .bind (blind_create _) fun _ => .bind (blind_create _) fun _ => .pure _
  · refine blind_bind (JsDate.blind_validOpt _) fun _ => ?_
    exact blind_bind (JsDate.blind_validOpt _) fun _ => blind_commit (blind_create _)

/-- An update of a vehicle looks at the other vehicles and at the branches. -/
theorem update_unaware (dto : UpdateVehicleDto) :
    (update T id dto).Unaware Database.hideLocations := by
  unfold update
  refine blind_bind blind_findVehicle fun _ => ?_
  refine blind_bind (blind_whenSome fun _ => blind_when (blind_assertUnique fun _ => rfl))
    fun _ => ?_
  refine blind_bind (blind_when blind_assertBranchExists) fun _ => blind_bind blind_throwIf fun _ => ?_
  refine blind_bind dto.registrationNo.blind_notNull fun _ => ?_
  refine blind_bind dto.model.blind_notNull fun _ => ?_
  refine blind_bind dto.seatCount.blind_notNull fun _ => ?_
  refine blind_bind dto.status.blind_notNull fun _ => ?_
  refine blind_bind dto.sourceType.blind_notNull fun _ => ?_
  refine blind_bind (JsDate.blind_validOpt _) fun _ => ?_
  exact blind_bind (JsDate.blind_validOpt _) fun _ => blind_commit (blind_update id fun _ => rfl)

/-- A vehicle is removed by its row alone; its positions stay where they are. -/
theorem remove_unaware : (remove env T id).Unaware Database.hideLocations := by
  unfold remove
  exact blind_bind blind_findVehicle fun _ => blind_commit (blind_update id fun _ => rfl)

/-- Requests on vehicles pass over the two tables. -/
theorem Request.next_hide (r : Request) (db : Database) :
    r.next env T db.hideLocations = (r.next env T db).hideLocations := by
  cases r with
  | create dto => exact (create_unaware dto).next_hide
  | update id dto => exact (update_unaware dto).next_hide
  | remove id => exact remove_unaware.next_hide

end Vehicles

namespace Contracts

/-- The lookup that the writes of a contract begin with. -/
theorem blind_findOwn : (findOwn T id).Blind Database.hideLocations fun _ => True :=
  blind_bind (blind_read fun _ => rfl) fun _ => blind_orThrow

/-- A contract for a vehicle of the fleet, or for none. -/
theorem createFor_unaware (dto : CreateContractDto) :
    (createFor env T dto).Unaware Database.hideLocations := by
  unfold createFor
  refine blind_bind (blind_whenSome fun _ => blind_bind blind_findVehicle fun _ => trivial) fun _ => ?_
  refine blind_bind (JsDate.blind_valid _) fun _ => ?_
  exact blind_bind (JsDate.blind_valid _) fun _ => blind_commit (blind_create _)

/-- A contract that brings its vehicle. -/
theorem createWith_unaware (dto : CreateContractDto) (vehicleInput : CreateContractVehicleDto) :
    (createWith env T dto vehicleInput).Unaware Database.hideLocations := by
  unfold createWith
  refine blind_bind (blind_assertUnique fun _ => rfl) fun _ => ?_
  refine blind_bind blind_assertBranchExists fun _ => ?_
  refine blind_bind (JsDate.blind_valid _) fun _ => ?_
  refine blind_bind (JsDate.blind_valid _) fun _ => blind_commit ?_
  exact .bind (blind_create _) fun _ => blind_create _

/-- Both ways to a new contract, after the checks of the body. -/
theorem create_unaware (dto : CreateContractDto) :
    (create env T dto).Unaware Database.hideLocations := by
  unfold create
  refine blind_bind blind_throwIf fun _ => blind_bind blind_throwIf fun _ => ?_
  refine blind_bind blind_throwIf fun _ => ?_
  split
  · exact createWith_unaware dto _
  · exact createFor_unaware dto

/-- An update of a contract may name another vehicle. -/
theorem update_unaware (dto : UpdateContractDto) :
    (update T id dto).Unaware Database.hideLocations := by
  unfold update
  refine blind_bind blind_findOwn fun _ => blind_bind blind_throwIf fun _ => ?_
  refine blind_bind (blind_whenSome fun _ => blind_bind blind_findVehicle fun _ => trivial) fun _ => ?_
  refine blind_bind dto.type.blind_notNull fun _ => ?_
  refine blind_bind (JsDate.blind_valid _) fun _ => ?_
  refine blind_bind (JsDate.blind_valid _) fun _ => ?_
  refine blind_bind dto.amount.blind_notNull fun _ => ?_
  exact blind_bind dto.commission.blind_notNull fun _ => blind_commit (blind_update id fun _ => rfl)

/-- A contract is removed by its row alone. -/
theorem remove_unaware : (remove env T id).Unaware Database.hideLocations := by
  unfold remove
  exact blind_bind blind_findOwn fun _ => blind_commit (blind_update id fun _ => rfl)

/-- Requests on contracts pass over the two tables. -/
theorem Request.next_hide (r : Request) (db : Database) :
    r.next env T db.hideLocations = (r.next env T db).hideLocations := by
  cases r with
  | create dto => exact (create_unaware dto).next_hide
  | update id dto => exact (update_unaware dto).next_hide
  | remove id => exact remove_unaware.next_hide

end Contracts

namespace Drivers

/-- A new driver looks at the other drivers, the users and the branches. -/
theorem create_unaware (dto : CreateDriverDto) :
    (create env T dto).Unaware Database.hideLocations := by
  unfold create
  refine blind_bind (blind_assertUnique fun _ => rfl) fun _ => ?_
  refine blind_bind (blind_assertUnique fun _ => rfl) fun _ => ?_
  refine blind_bind (blind_whenSome fun _ => blind_bind blind_assertUserExists fun _ =>
    blind_assertUserNotAlreadyDriver) fun _ => ?_
  exact blind_bind blind_assertBranchExists fun _ => blind_commit (blind_create _)

/-- So does a driver with a new phone, licence or branch. -/
theorem update_unaware (dto : UpdateDriverDto) :
    (update T id dto).Unaware Database.hideLocations := by
  unfold update
  refine blind_bind blind_findDriver fun _ => ?_
  refine blind_bind (blind_whenSome fun _ => blind_when (blind_assertUnique fun _ => rfl))
    fun _ => ?_
  refine blind_bind (blind_whenSome fun _ => blind_when (blind_assertUnique fun _ => rfl))
    fun _ => ?_
  refine blind_bind (blind_when blind_assertBranchExists) fun _ => blind_bind blind_throwIf fun _ => ?_
  refine blind_bind dto.name.blind_notNull fun _ => ?_
  refine blind_bind dto.phone.blind_notNull fun _ => ?_
  refine blind_bind dto.licenseNo.blind_notNull fun _ => ?_
  exact blind_bind dto.isAvailable.blind_notNull fun _ => blind_commit (blind_update id fun _ => rfl)

/-- A driver is removed by its row alone. -/
theorem remove_unaware : (remove env T id).Unaware Database.hideLocations := by
  unfold remove
  exact blind_bind blind_findDriver fun _ => blind_commit (blind_update id fun _ => rfl)

/-- Requests on drivers pass over the two tables. -/
theorem Request.next_hide (r : Request) (db : Database) :
    r.next env T db.hideLocations = (r.next env T db).hideLocations := by
  cases r with
  | create dto => exact (create_unaware dto).next_hide
  | update id dto => exact (update_unaware dto).next_hide
  | remove id => exact remove_unaware.next_hide

end Drivers

namespace Assignments

/-- The lookup that the writes of an assignment begin with. -/
theorem blind_findOwn : (findOwn T id).Blind Database.hideLocations fun _ => True :=
  blind_bind (blind_read fun _ => rfl) fun _ => blind_orThrow

/-- A new assignment looks at those it might overlap. -/
theorem create_unaware (dto : CreateAssignmentDto) :
    (create env T dto).Unaware Database.hideLocations := by
  unfold create
  refine blind_bind blind_throwIf fun _ => blind_bind blind_findVehicle fun _ => ?_
  refine blind_bind blind_findDriver fun _ => blind_bind (JsDate.blind_valid _) fun _ => ?_
  refine blind_bind (JsDate.blind_validOpt _) fun _ => ?_
  refine blind_bind (blind_read fun _ => rfl) fun _ => blind_bind blind_throwIfSome fun _ => ?_
  refine blind_bind (blind_read fun _ => rfl) fun _ => blind_bind blind_throwIfSome fun _ => ?_
  exact blind_commit (blind_create _)

/-- An update of an assignment looks at the vehicle and the driver it may name. -/
theorem update_unaware (dto : UpdateAssignmentDto) :
    (update T id dto).Unaware Database.hideLocations := by
  unfold update
  refine blind_bind blind_findOwn fun _ => blind_bind blind_throwIf fun _ => ?_
  refine blind_bind (blind_whenSome fun _ => blind_when
    (blind_bind blind_findVehicle fun _ => trivial)) fun _ => ?_
  refine blind_bind (blind_whenSome fun _ => blind_when
    (blind_bind blind_findDriver fun _ => trivial)) fun _ => ?_
  refine blind_bind (JsDate.blind_valid _) fun _ => ?_
  exact blind_bind (JsDate.blind_validOpt _) fun _ => blind_commit (blind_update id fun _ => rfl)

/-- An assignment is removed by its row alone. -/
theorem remove_unaware : (remove env T id).Unaware Database.hideLocations := by
  unfold remove
  exact blind_bind blind_findOwn fun _ => blind_commit (blind_update id fun _ => rfl)

/-- Requests on assignments pass over the two tables. -/
theorem Request.next_hide (r : Request) (db : Database) :
    r.next env T db.hideLocations = (r.next env T db).hideLocations := by
  cases r with
  | create dto => exact (create_unaware dto).next_hide
  | update id dto => exact (update_unaware dto).next_hide
  | remove id => exact remove_unaware.next_hide

end Assignments

namespace Bookings

open Scheduling

variable {message : String} {s e : Time}

/-- The lookup that the writes of a booking begin with. -/
theorem blind_findOwn : (findOwn T id).Blind Database.hideLocations fun _ => True :=
  blind_bind (blind_read fun _ => rfl) fun _ => blind_orThrow

/-- The availability of a vehicle does not depend on where it is. -/
theorem blind_assertVehicleAvailable :
    (assertAvailable (checkVehicleAvailability id T s e) message).Blind Database.hideLocations
      fun _ => True := by
  unfold assertAvailable checkVehicleAvailability
  refine blind_bind ?_ fun _ => blind_throwIf
  refine blind_bind (blind_read fun _ => rfl) fun _ => ?_
  refine blind_bind (blind_read fun _ => rfl) fun _ => ?_
  refine blind_bind (blind_read fun _ => rfl) fun _ => ?_
  split
  · trivial
  · exact blind_bind (blind_read fun _ => rfl) fun _ => trivial

/-- Nor does that of a driver. -/
theorem blind_assertDriverAvailable :
    (assertAvailable (checkDriverAvailability id T s e) message).Blind Database.hideLocations
      fun _ => True := by
  unfold assertAvailable checkDriverAvailability
  refine blind_bind ?_ fun _ => blind_throwIf
  refine blind_bind (blind_read fun _ => rfl) fun _ => ?_
  exact blind_bind (blind_read fun _ => rfl) fun _ => trivial

/-- A new booking asks for the availability of its vehicle. -/
theorem create_unaware (dto : CreateBookingDto) :
    (create env T dto).Unaware Database.hideLocations := by
  unfold create
  refine blind_bind blind_throwIf fun _ => blind_bind (JsDate.blind_valid _) fun _ => ?_
  refine blind_bind (JsDate.blind_valid _) fun _ => ?_
  refine blind_bind blind_assertVehicleAvailable fun _ => ?_
  refine blind_bind (blind_whenSome fun _ => blind_assertDriverAvailable) fun _ => ?_
  exact blind_commit (blind_create _)

/-- Confirming a booking writes its status. -/
theorem confirm_unaware : (confirm T id).Unaware Database.hideLocations := by
  unfold confirm
  refine blind_bind blind_findOwn fun _ => blind_bind blind_throwIf fun _ => ?_
  exact blind_commit (blind_update id fun _ => rfl)

/-- So does cancelling one. -/
theorem cancel_unaware : (cancel T id).Unaware Database.hideLocations := by
  unfold cancel
  refine blind_bind blind_findOwn fun _ => blind_bind blind_throwIf fun _ => ?_
  exact blind_commit (blind_update id fun _ => rfl)

/-- An assignment to a booking asks for both availabilities. -/
theorem assign_unaware (dto : AssignDriverVehicleDto) :
    (assign T id dto).Unaware Database.hideLocations := by
  unfold assign
  refine blind_bind blind_findOwn fun _ => blind_bind blind_throwIf fun _ => ?_
  refine blind_bind (blind_whenSome fun _ => blind_when blind_assertVehicleAvailable) fun _ => ?_
  refine blind_bind (blind_whenSome fun _ => blind_when blind_assertDriverAvailable) fun _ => ?_
  refine blind_bind dto.vehicleId.blind_notNull fun _ => ?_
  exact blind_bind dto.advancePaid.blind_notNull fun _ => blind_commit (blind_update id fun _ => rfl)

/-- Requests on bookings pass over the two tables. -/
theorem Request.next_hide (r : Request) (db : Database) :
    r.next env T db.hideLocations = (r.next env T db).hideLocations := by
  cases r with
  | create dto => exact (create_unaware dto).next_hide
  | confirm id => exact confirm_unaware.next_hide
  | cancel id => exact cancel_unaware.next_hide
  | assign id dto => exact (assign_unaware dto).next_hide

end Bookings

namespace Trips

/-- The lookup that the writes of a trip begin with. -/
theorem blind_findOwn : (findOwn T id).Blind Database.hideLocations fun _ => True :=
  blind_bind (blind_read fun _ => rfl) fun _ => blind_orThrow

/-- The checks of the body of a trip. -/
theorem blind_notNull (dto : UpdateTripDto) :
    dto.notNull.Blind Database.hideLocations fun _ => True := by
  unfold UpdateTripDto.notNull
  refine blind_bind dto.tollCost.blind_notNull fun _ => ?_
  refine blind_bind dto.policeCost.blind_notNull fun _ => ?_
  exact blind_bind dto.income.blind_notNull fun _ => dto.distance.blind_notNull

/-- A trip starts from the status of the vehicle and its assignment. -/
theorem startTrip_unaware (userId : String) :
    (startTrip env id T userId).Unaware Database.hideLocations := by
  unfold startTrip
  refine blind_bind (blind_read fun _ => rfl) fun _ => blind_bind blind_orThrow fun _ => ?_
  refine blind_bind (blind_read fun _ => rfl) fun _ => blind_bind blind_orThrow fun _ => ?_
  refine blind_bind blind_findVehicle fun _ => blind_bind blind_throwIf fun _ => ?_
  refine blind_bind (blind_read fun _ => rfl) fun _ => blind_bind blind_throwIfSome fun _ => ?_
  refine blind_commit (.bind (blind_create _) fun _ => ?_)
  refine .bind (blind_update _ fun _ => rfl) fun _ => ?_
  exact .bind (blind_update _ fun _ => rfl) fun _ => .pure _

/-- The end of a trip writes the trip and the status of its vehicle. -/
theorem endTrip_unaware (userId : String) (dto : UpdateTripDto) (userRole : Role) :
    (endTrip env id T userId dto userRole).Unaware Database.hideLocations := by
  unfold endTrip
  refine blind_bind blind_findOwn fun _ => blind_bind blind_throwIf fun _ => ?_
  refine blind_bind (blind_when (blind_bind (blind_read fun _ => rfl) fun _ => blind_throwIf))
    fun _ => ?_
  refine blind_bind (blind_notNull dto) fun _ => blind_commit ?_
  refine .bind (blind_update _ fun _ => rfl) fun _ => ?_
  refine .bind (blind_update _ fun _ => rfl) fun _ => ?_
  exact .bind (blind_update _ fun _ => rfl) fun _ => .pure _

/-- An update of a trip writes the trip. -/
theorem updateTrip_unaware (dto : UpdateTripDto) :
    (updateTrip id T dto).Unaware Database.hideLocations := by
  unfold updateTrip
  refine blind_bind blind_findOwn fun _ => blind_bind (blind_notNull dto) fun _ => ?_
  exact blind_commit (blind_update id fun _ => rfl)

/-- Requests on trips pass over the two tables. -/
theorem Request.next_hide (r : Request) (db : Database) :
    r.next env T db.hideLocations = (r.next env T db).hideLocations := by
  cases r with
  | startTrip vehicleId userId => exact (startTrip_unaware userId).next_hide
  | endTrip tripId userId dto userRole => exact (endTrip_unaware userId dto userRole).next_hide
  | updateTrip tripId dto => exact (updateTrip_unaware dto).next_hide

end Trips

/-- A fuel log looks at the last odometer reading. -/
theorem Fuel.addLog_unaware (dto : CreateFuelLogDto) :
    (addLog env T dto).Unaware Database.hideLocations := by
  unfold addLog
  refine blind_bind blind_findVehicle fun _ => blind_bind (blind_read fun _ => rfl) fun _ => ?_
  refine blind_bind (blind_whenSome fun _ => blind_throwIf) fun _ => ?_
  exact blind_bind (JsDate.blind_valid _) fun _ => blind_commit (blind_create _)

/-- A maintenance log is written with its items. -/
theorem Maintenance.create_unaware (dto : CreateMaintenanceLogDto) :
    (create env T dto).Unaware Database.hideLocations := by
  unfold create totalCost
  refine blind_bind blind_findVehicle fun _ => blind_bind ?_ fun _ => ?_
  · split
    · trivial
    · split <;> trivial
  · refine blind_bind (JsDate.blind_valid _) fun _ => blind_commit ?_
    exact .bind (blind_create _) fun _ => .bind (.when (blind_createMany _)) fun _ => .pure _

/-- A document needs its vehicle. -/
theorem Documents.create_unaware (dto : CreateDocumentDto) :
    (create env T dto).Unaware Database.hideLocations := by
  unfold create
  refine blind_bind blind_findVehicle fun _ => blind_bind (JsDate.blind_valid _) fun _ => ?_
  exact blind_commit (blind_create _)

/-- An expense needs nothing. -/
theorem Expenses.create_unaware (dto : CreateExpenseDto) :
    (create env T dto).Unaware Database.hideLocations :=
  blind_commit (blind_create _)

namespace Workshop

/-- The lookup that the writes of a job begin with. -/
theorem blind_findOwn : (findOwn T id).Blind Database.hideLocations fun _ => True :=
  blind_bind (blind_read fun _ => rfl) fun _ => blind_orThrow

/-- A workshop job needs its vehicle. -/
theorem createJob_unaware (dto : CreateWorkshopJobDto) :
    (createJob env T dto).Unaware Database.hideLocations := by
  unfold createJob
  exact blind_bind blind_findVehicle fun _ => blind_commit (blind_create _)

/-- An item is written and added to the cost of its job. -/
theorem addItem_unaware (dto : AddWorkshopItemDto) :
    (addItem env T id dto).Unaware Database.hideLocations := by
  unfold addItem
  refine blind_bind blind_findOwn fun _ => blind_bind blind_throwIf fun _ => blind_commit ?_
  exact .bind (blind_create _) fun _ => blind_update id fun _ => rfl

/-- The status of a job is written into its row. -/
theorem updateStatus_unaware (status : WorkshopJobStatus) :
    (updateStatus T id status).Unaware Database.hideLocations := by
  unfold updateStatus
  exact blind_bind blind_findOwn fun _ => blind_commit (blind_update id fun _ => rfl)

/-- Requests on the workshop pass over the two tables. -/
theorem Request.next_hide (r : Request) (db : Database) :
    r.next env T db.hideLocations = (r.next env T db).hideLocations := by
  cases r with
  | createJob dto => exact (createJob_unaware dto).next_hide
  | addItem jobId dto => exact (addItem_unaware dto).next_hide
  | updateStatus jobId status => exact (updateStatus_unaware status).next_hide

end Workshop

namespace Income

/-- The lookup that the writes of an income begin with. -/
theorem blind_findOwn : (findOwn T id).Blind Database.hideLocations fun _ => True :=
  blind_bind (blind_read fun _ => rfl) fun _ => blind_orThrow

/-- An income record needs nothing. -/
theorem create_unaware (dto : CreateIncomeDto) :
    (create env T dto).Unaware Database.hideLocations :=
  blind_commit (blind_create _)

/-- An update of an income writes its row. -/
theorem update_unaware (dto : UpdateIncomeDto) :
    (update T id dto).Unaware Database.hideLocations := by
  unfold update
  refine blind_bind blind_findOwn fun _ => blind_bind dto.source.blind_notNull fun _ => ?_
  exact blind_bind dto.amount.blind_notNull fun _ => blind_commit (blind_update id fun _ => rfl)

/-- An income is removed by its row alone. -/
theorem remove_unaware : (remove env T id).Unaware Database.hideLocations := by
  unfold remove
  exact blind_bind blind_findOwn fun _ => blind_commit (blind_update id fun _ => rfl)

/-- Requests on incomes pass over the two tables. -/
theorem Request.next_hide (r : Request) (db : Database) :
    r.next env T db.hideLocations = (r.next env T db).hideLocations := by
  cases r with
  | create dto => exact (create_unaware dto).next_hide
  | update id dto => exact (update_unaware dto).next_hide
  | remove id => exact remove_unaware.next_hide

end Income

/-! ### The requests of the platform -/

namespace Auth

/-- A company is written with its first user. -/
theorem blind_createTenantWith (tenant : Tenant) (user : User) :
    (createTenantWith tenant user).Blind Database.hideLocations :=
  .bind (blind_create _) fun _ => blind_create _

/-- A registration looks for the email among the users. -/
theorem registerTenant_unaware (dto : RegisterTenantDto) :
    (registerTenant env dto).Unaware Database.hideLocations := by
  unfold registerTenant
  refine blind_bind (blind_assertUnique fun _ => rfl) fun _ => ?_
  exact blind_commit (blind_createTenantWith _ _)

/-- So does the seeding of the super admin. -/
theorem seedSuperAdmin_unaware (dto : SeedSuperAdminDto) :
    (seedSuperAdmin env dto).Unaware Database.hideLocations := by
  unfold seedSuperAdmin
  refine blind_bind blind_throwIf fun _ => blind_bind (blind_read fun _ => rfl) fun _ => ?_
  refine blind_bind blind_throwIfSome fun _ => ?_
  refine blind_bind (blind_assertUnique fun _ => rfl) fun _ => ?_
  exact blind_commit (blind_createTenantWith _ _)

end Auth

namespace AdminApplications

/-- The lookup of the admin an application is about. -/
theorem blind_findAdmin {message : String} :
    (findAdmin id message).Blind Database.hideLocations fun _ => True :=
  blind_bind (blind_read fun _ => rfl) fun _ => blind_orThrow

/-- The decision on an application is written to the user and the tenant. -/
theorem blind_setStatus (tenantId : String) (approvalStatus : ApprovalStatus) (isActive : Bool) :
    (setStatus id tenantId approvalStatus isActive).Blind Database.hideLocations :=
  .bind (blind_update id fun _ => rfl) fun _ => .bind (blind_update tenantId fun _ => rfl) fun _ =>
    .pure _

/-- An approval makes both active. -/
theorem approve_unaware : (approve id).Unaware Database.hideLocations := by
  unfold approve
  refine blind_bind blind_findAdmin fun _ => blind_bind blind_throwIf fun _ => ?_
  exact blind_commit (blind_setStatus _ _ _)

/-- A rejection is written to the admin only. -/
theorem reject_unaware : (reject id).Unaware Database.hideLocations := by
  unfold reject
  refine blind_bind blind_findAdmin fun _ => blind_bind blind_throwIf fun _ => ?_
  exact blind_commit (blind_update id fun _ => rfl)

/-- A suspension makes both inactive. -/
theorem suspend_unaware : (suspend id).Unaware Database.hideLocations := by
  unfold suspend
  refine blind_bind blind_findAdmin fun _ => blind_bind blind_throwIf fun _ => ?_
  exact blind_commit (blind_setStatus _ _ _)

/-- A reactivation makes both active again. -/
theorem reactivate_unaware : (reactivate id).Unaware Database.hideLocations := by
  unfold reactivate
  refine blind_bind blind_findAdmin fun _ => blind_bind blind_throwIf fun _ => ?_
  exact blind_commit (blind_setStatus _ _ _)

/-- The reset of an admin's password writes the row of the admin. -/
theorem resetAdminPassword_unaware (newPassword : String) :
    (resetAdminPassword env id newPassword).Unaware Database.hideLocations := by
  unfold resetAdminPassword
  exact blind_bind blind_findAdmin fun _ => blind_commit (blind_update id fun _ => rfl)

end AdminApplications

namespace Tenants

/-- The lookup that the writes of a tenant begin with. -/
theorem blind_findLive : (findLive id).Blind Database.hideLocations fun _ => True :=
  blind_bind (blind_read fun _ => rfl) fun _ => blind_orThrow

/-- An update of a tenant writes its row. -/
theorem update_unaware (dto : UpdateTenantDto) :
    (update id dto).Unaware Database.hideLocations := by
  unfold update
  refine blind_bind blind_findLive fun _ => blind_bind dto.name.blind_notNull fun _ => ?_
  exact blind_bind dto.isActive.blind_notNull fun _ => blind_commit (blind_update id fun _ => rfl)

/-- A tenant is removed by its row alone. -/
theorem remove_unaware : (remove env id).Unaware Database.hideLocations := by
  unfold remove
  exact blind_bind blind_findLive fun _ => blind_commit (blind_update id fun _ => rfl)

end Tenants

/-- A switch of a feature is written over the old one. -/
theorem FeatureAccesses.setEnabled_unaware (moduleName : String) (isEnabled : Bool) :
    (setEnabled env T moduleName isEnabled).Unaware Database.hideLocations := by
  unfold setEnabled
  refine blind_bind (blind_read fun _ => rfl) fun existing => ?_
  cases existing with
  | some f => exact blind_commit (blind_update _ fun _ => rfl)
  | none => exact blind_commit (blind_create _)

namespace Subscriptions

/-- A subscription needs its tenant. -/
theorem create_unaware (dto : CreateSubscriptionDto) :
    (create env dto).Unaware Database.hideLocations :=
  blind_commit (blind_create _)

/-- An update of a subscription writes its row. -/
theorem update_unaware (dto : UpdateSubscriptionDto) :
    (update id dto).Unaware Database.hideLocations := by
  unfold update
  refine blind_bind (blind_read fun _ => rfl) fun _ => blind_bind blind_orThrow fun _ => ?_
  refine blind_bind dto.planName.blind_notNull fun _ => ?_
  exact blind_bind dto.isActive.blind_notNull fun _ => blind_commit (blind_update id fun _ => rfl)

end Subscriptions

namespace Profile

/-- The lookup that the writes of a profile begin with. -/
theorem blind_findActiveUser : (findActiveUser id).Blind Database.hideLocations fun _ => True :=
  blind_bind (blind_read fun _ => rfl) fun _ => blind_orThrow

/-- A new password is compared with the old hash. -/
theorem changePassword_unaware (dto : ChangePasswordDto) :
    (changePassword env id dto).Unaware Database.hideLocations := by
  unfold changePassword
  refine blind_bind blind_findActiveUser fun _ => blind_bind blind_throwIf fun _ => ?_
  exact blind_bind blind_throwIf fun _ => blind_commit (blind_update id fun _ => rfl)

/-- A new name is written into the row of the user. -/
theorem changeName_unaware (name : String) :
    (changeName id name).Unaware Database.hideLocations := by
  unfold changeName
  exact blind_bind blind_findActiveUser fun _ => blind_commit (blind_update id fun _ => rfl)

end Profile

/-! ### All requests -/

/-- A request that writes nothing but the two tables is not seen. -/
theorem hideLocations_of_frame {db db' : Database} {ls : List GpsLocation} {as : List Alert}
    (h : db'.toTables = { db.toTables with gpsLocations := ls, alerts := as }) :
    db'.hideLocations = db.hideLocations :=
  Database.ext (by
    change db'.toTables.hideLocations = db.toTables.hideLocations
    rw [h]
    rfl)

/-- Requests on alerts write what is out of sight. -/
theorem Alerts.Request.hideLocations_next (r : Alerts.Request) (db : Database) :
    (r.next env T db).hideLocations = db.hideLocations := by
  obtain ⟨_, h⟩ := r.frame env T db
  exact hideLocations_of_frame h

/-- A saved position is out of sight. -/
theorem Tracking.saveLocation_hideLocations (limited : Bool) (dto : SaveLocationDto)
    (db : Database) :
    ((saveLocation env T limited dto).next db).hideLocations = db.hideLocations := by
  obtain ⟨_, h⟩ := saveLocation_frame limited dto env T db
  exact hideLocations_of_frame h

/-- The offline detection reads positions, but writes alerts only. -/
theorem Jobs.runOfflineDetection_hideLocations (db : Database) :
    ((runOfflineDetection env).next db).hideLocations = db.hideLocations := by
  rcases Script.next_cases (runOfflineDetection env) db with hnext | ⟨u, h⟩
  · rw [hnext]
  · obtain ⟨_, hw⟩ := runOfflineDetection_ok h
    exact hideLocations_of_frame hw

/-- Two states that differ in the two tables go to states that differ in the two tables. -/
theorem hideLocations_congr {next : Database → Database}
    (h : ∀ db : Database, (next db.hideLocations).hideLocations = (next db).hideLocations)
    {db db' : Database} (hdb : db.hideLocations = db'.hideLocations) :
    (next db).hideLocations = (next db').hideLocations := by
  rw [← h db, hdb, h db']

/-- A request that passes over the two tables does the same to what is left. -/
theorem hideLocations_next {next : Database → Database}
    (h : ∀ db : Database, next db.hideLocations = (next db).hideLocations) (db : Database) :
    (next db.hideLocations).hideLocations = (next db).hideLocations := by
  rw [h]
  rfl

/-- Every request of a tenant does the same to what is left. -/
theorem TenantRequest.next_hideLocations (r : TenantRequest) (db : Database) :
    (r.next env T db.hideLocations).hideLocations = (r.next env T db).hideLocations := by
  cases r with
  | users r => exact hideLocations_next r.next_hide db
  | branches r => exact hideLocations_next r.next_hide db
  | vehicles r => exact hideLocations_next r.next_hide db
  | drivers r => exact hideLocations_next r.next_hide db
  | assignments r => exact hideLocations_next r.next_hide db
  | bookings r => exact hideLocations_next r.next_hide db
  | contracts r => exact hideLocations_next r.next_hide db
  | trips r => exact hideLocations_next r.next_hide db
  | fuel dto => exact hideLocations_next (fun _ => (Fuel.addLog_unaware dto).next_hide) db
  | maintenance dto =>
    exact hideLocations_next (fun _ => (Maintenance.create_unaware dto).next_hide) db
  | documents dto => exact hideLocations_next (fun _ => (Documents.create_unaware dto).next_hide) db
  | workshop r => exact hideLocations_next r.next_hide db
  | expenses dto => exact hideLocations_next (fun _ => (Expenses.create_unaware dto).next_hide) db
  | income r => exact hideLocations_next r.next_hide db
  | alerts r =>
    change (r.next env T db.hideLocations).hideLocations = (r.next env T db).hideLocations
    rw [r.hideLocations_next, r.hideLocations_next]
    rfl
  | tracking limited dto =>
    unfold TenantRequest.next
    rw [Tracking.saveLocation_hideLocations, Tracking.saveLocation_hideLocations]
    rfl

/-- So does every request of the platform. -/
theorem PlatformRequest.next_hideLocations (r : PlatformRequest) (db : Database) :
    (r.next env db.hideLocations).hideLocations = (r.next env db).hideLocations := by
  cases r with
  | registerTenant dto =>
    exact hideLocations_next (fun _ => (Auth.registerTenant_unaware dto).next_hide) db
  | seedSuperAdmin dto =>
    exact hideLocations_next (fun _ => (Auth.seedSuperAdmin_unaware dto).next_hide) db
  | approve id => exact hideLocations_next (fun _ => AdminApplications.approve_unaware.next_hide) db
  | reject id => exact hideLocations_next (fun _ => AdminApplications.reject_unaware.next_hide) db
  | suspend id => exact hideLocations_next (fun _ => AdminApplications.suspend_unaware.next_hide) db
  | reactivate id =>
    exact hideLocations_next (fun _ => AdminApplications.reactivate_unaware.next_hide) db
  | resetAdminPassword id password =>
    exact hideLocations_next
      (fun _ => (AdminApplications.resetAdminPassword_unaware password).next_hide) db
  | updateTenant id dto =>
    exact hideLocations_next (fun _ => (Tenants.update_unaware dto).next_hide) db
  | removeTenant id => exact hideLocations_next (fun _ => Tenants.remove_unaware.next_hide) db
  | enableFeature T name =>
    exact hideLocations_next (fun _ => (FeatureAccesses.setEnabled_unaware name true).next_hide) db
  | disableFeature T name =>
    exact hideLocations_next (fun _ => (FeatureAccesses.setEnabled_unaware name false).next_hide) db
  | createSubscription dto =>
    exact hideLocations_next (fun _ => (Subscriptions.create_unaware dto).next_hide) db
  | updateSubscription id dto =>
    exact hideLocations_next (fun _ => (Subscriptions.update_unaware dto).next_hide) db
  | changePassword id dto =>
    exact hideLocations_next (fun _ => (Profile.changePassword_unaware dto).next_hide) db
  | changeName id name =>
    exact hideLocations_next (fun _ => (Profile.changeName_unaware name).next_hide) db
  | runOfflineDetection =>
    unfold PlatformRequest.next
    rw [Jobs.runOfflineDetection_hideLocations, Jobs.runOfflineDetection_hideLocations]
    rfl

/-- **The location history reaches nothing but itself and the alerts.** -/
theorem step_hideLocations (r : Request) {db db' : Database}
    (h : db.hideLocations = db'.hideLocations) :
    (step r db).hideLocations = (step r db').hideLocations := by
  cases r with
  | tenant env T r => exact hideLocations_congr r.next_hideLocations h
  | platform env r => exact hideLocations_congr r.next_hideLocations h

end NodeVms
