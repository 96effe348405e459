/-
# `TripsService`

A trip starts with four reads and one transaction that writes the trip, its
vehicle and its driver, and ends with one or two reads and a transaction on
the same three rows.
-/

import NodeVms.Services.Validator

namespace NodeVms
namespace Trips

open Store Script Prisma

/-- `UpdateTripDto`. -/
structure UpdateTripDto where
  tollCost : Field Amount := .undefined
  policeCost : Field Amount := .undefined
  income : Field Amount := .undefined
  distance : Field Amount := .undefined
  deriving DecidableEq

/-- The columns of the body are required ones. -/
def UpdateTripDto.notNull (dto : UpdateTripDto) : Query Unit := do
  dto.tollCost.notNull
  dto.policeCost.notNull
  dto.income.notNull
  dto.distance.notNull

/-- The conditional spreads of `dto` into `data`. -/
def UpdateTripDto.apply (dto : UpdateTripDto) (t : Trip) : Trip :=
  { t with
    tollCost := dto.tollCost.set t.tollCost
    policeCost := dto.policeCost.set t.policeCost
    income := dto.income.set t.income
    distance := dto.distance.set t.distance }

/-- `data: { endTime: now, … }`. -/
def UpdateTripDto.close (dto : UpdateTripDto) (now : Time) (t : Trip) : Trip :=
  { dto.apply t with endTime := some now }

/-- `data: { status }`. -/
def setStatus (status : VehicleStatus) (v : Vehicle) : Vehicle := { v with status }

/-- `data: { isAvailable }`. -/
def setAvailable (isAvailable : Bool) (d : Driver) : Driver := { d with isAvailable }

/-- `where: { userId, tenantId, deletedAt: null }` of the driver lookups. -/
def isDriverOf (userId tenantId : String) (d : Driver) : Prop :=
  d.userId = some userId ∧ d.tenantId = tenantId ∧ d.deletedAt = none

instance (userId tenantId : String) (d : Driver) : Decidable (isDriverOf userId tenantId d) := by
  unfold isDriverOf; infer_instance

/-- The row `trip.create` inserts. -/
def newTrip (env : Env) (vehicleId tenantId driverId : String) : Trip :=
  { id := env.cuid 0, tenantId, vehicleId, driverId, startTime := env.now, endTime := none,
    distance := 0, income := 0, tollCost := 0, policeCost := 0, deletedAt := none }

/-- The filter of the active assignment. -/
def assignedNow (now : Time) (vehicleId driverId : String) (a : Assignment) : Prop :=
  a.vehicleId = vehicleId ∧ a.driverId = driverId ∧ a.deletedAt = none ∧ a.startDate ≤ now ∧
    ∀ e ∈ a.endDate, now ≤ e

instance (now : Time) (vehicleId driverId : String) (a : Assignment) :
    Decidable (assignedNow now vehicleId driverId a) := by
  unfold assignedNow; infer_instance

def startTrip (env : Env) (vehicleId tenantId userId : String) : Query (Transaction Trip) := do
  let driver ← orThrow (← findFirst .driver fun d => isDriverOf userId tenantId d)
    (.forbidden "No driver profile found for this user")
  let now := env.now
  let _ ← orThrow
    (← findFirst .assignment fun a => assignedNow now vehicleId driver.id a)
    (.forbidden "You are not assigned to this vehicle for the current period")
  let vehicle ← findVehicle tenantId vehicleId
  throwIf (vehicle.status ≠ .available)
    (.badRequest s!"Vehicle is not available (current status: {vehicle.status.text})")
  let activeTrip ← findFirst .trip fun t =>
    t.vehicleId = vehicleId ∧ t.tenantId = tenantId ∧ t.deletedAt = none ∧ t.endTime = none
  throwIfSome activeTrip (.badRequest "Vehicle already has an active trip in progress")
  commit do
    let trip ← create .trip (newTrip env vehicleId tenantId driver.id)
    let _ ← update .vehicle vehicleId (setStatus .onTrip)
    let _ ← update .driver driver.id (setAvailable false)
    pure trip

def findOwn (tenantId tripId : String) : Query Trip := do
  orThrow (← findById .trip tripId fun _ t => t.tenantId = tenantId ∧ t.deletedAt = none)
    (.notFound "Trip not found")

def endTrip (env : Env) (tripId tenantId userId : String) (dto : UpdateTripDto) (userRole : Role) :
    Query (Transaction Trip) := do
  let trip ← findOwn tenantId tripId
  throwIf (trip.endTime ≠ none) (.badRequest "Trip has already ended")
  when (userRole = .driver) do
    let driver ← findFirst .driver fun d => isDriverOf userId tenantId d
    throwIf (driver.map (·.id.val) ≠ some trip.driverId)
      (.forbidden "You are not the driver for this trip")
  let now := env.now
  dto.notNull
  commit do
    let updatedTrip ← update .trip tripId (dto.close now)
    let _ ← update .vehicle trip.vehicleId (setStatus .available)
    let _ ← update .driver trip.driverId (setAvailable true)
    pure updatedTrip

def updateTrip (tripId tenantId : String) (dto : UpdateTripDto) : Query (Transaction Trip) := do
  let _ ← findOwn tenantId tripId
  dto.notNull
  commit (update .trip tripId dto.apply)

/-! ### What a successful request has checked and written -/

variable {env : Env} {tenantId userId vehicleId tripId : String} {dto : UpdateTripDto}
  {userRole : Role} {db db' : Database} {trip : Trip}

/-- A trip starts for a driver who is assigned to the vehicle now, on a live and
available vehicle of the tenant without an open trip. -/
theorem startTrip_ok (h : (startTrip env vehicleId tenantId userId).exec db = .ok (trip, db')) :
    ∃ d ∈ db.drivers, isDriverOf userId tenantId d ∧
      (∃ a ∈ db.assignments, assignedNow env.now vehicleId d.id a) ∧
      (∃ v ∈ db.vehicles, v.id.val = vehicleId ∧ v.tenantId = tenantId ∧ v.deletedAt = none ∧
        v.status = .available) ∧
      (∀ t ∈ db.trips, t.vehicleId = vehicleId → t.tenantId = tenantId → t.deletedAt = none →
        t.endTime ≠ none) ∧
      trip = newTrip env vehicleId tenantId d.id ∧
      db'.toTables = Model.driver.updateAt d.id (setAvailable false)
        (Model.vehicle.updateAt vehicleId (setStatus .onTrip)
          (Model.trip.insert [trip] db.toTables)) := by
  simp [startTrip] at h
  obtain ⟨d, hd, ⟨a, ha⟩, v, ⟨hv, hvid, hvt, hvd⟩, hvs, hopen, db₁, h₁, _, db₂, ⟨h₂, -⟩, ⟨h₃, -⟩,
    rfl⟩ := h
  obtain ⟨hd, hdu⟩ := mem_of_find? hd
  obtain ⟨ha, haa⟩ := mem_of_find? ha
  rw [h₂, h₁] at h₃
  exact ⟨d, hd, by simpa using hdu, ⟨a, ha, by simpa using haa⟩, ⟨v, hv, hvid, hvt, hvd, hvs⟩,
    hopen, rfl, h₃⟩

/-- A trip ends if it is an open one of the tenant; a driver must be its driver. -/
theorem endTrip_ok
    (h : (endTrip env tripId tenantId userId dto userRole).exec db = .ok (trip, db')) :
    ∃ t ∈ db.trips, t.id.val = tripId ∧ t.tenantId = tenantId ∧ t.deletedAt = none ∧
      t.endTime = none ∧
      (userRole = .driver →
        ∃ d ∈ db.drivers, isDriverOf userId tenantId d ∧ d.id.val = t.driverId) ∧
      db'.toTables = Model.driver.updateAt t.driverId (setAvailable true)
        (Model.vehicle.updateAt t.vehicleId (setStatus .available)
          (Model.trip.updateAt tripId (dto.close env.now) db.toTables)) := by
  simp [endTrip, findOwn] at h
  obtain ⟨t, ⟨ht, htid, htt, htd⟩, hopen, hrole, -, db₁, ⟨h₁, -⟩, _, db₂, ⟨h₂, -⟩, h₃, -⟩ := h
  refine ⟨t, ht, htid, htt, htd, hopen, fun hr => ?_, by rw [h₃, h₂, h₁]⟩
  obtain ⟨d, hd, hdt⟩ := hrole hr
  obtain ⟨hd, hdu⟩ := mem_of_find? hd
  exact ⟨d, hd, by simpa using hdu, hdt⟩

/-- An accepted update is of a live trip of the tenant, open or not. -/
theorem updateTrip_ok (h : (updateTrip tripId tenantId dto).exec db = .ok (trip, db')) :
    ∃ t ∈ db.trips, t.id.val = tripId ∧ t.tenantId = tenantId ∧ t.deletedAt = none ∧
      db'.toTables = Model.trip.updateAt tripId dto.apply db.toTables := by
  simp [updateTrip, findOwn] at h
  obtain ⟨⟨t, ht, htid, htt, htd⟩, -, hw, -⟩ := h
  exact ⟨t, ht, htid, htt, htd, hw⟩

end Trips
end NodeVms
