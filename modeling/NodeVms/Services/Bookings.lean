/-
# `SchedulingService` and `BookingsService`

The two availability checks answer with the reasons that speak against a
period; `create` and `assign` consult them and then write the booking by its
id.  `confirm` and `cancel` only look at the booking's status.
-/

import NodeVms.Request

namespace NodeVms

open Store Script Prisma

/-! ### Scheduling -/

namespace Scheduling

structure AvailabilityResult where
  available : Bool
  reasons : List String
  deriving DecidableEq

/-- `status: { in: [PENDING, CONFIRMED] }`. -/
def isActive (s : BookingStatus) : Prop := s = .pending ∨ s = .confirmed

instance : DecidablePred isActive := fun s => by unfold isActive; infer_instance

/-- The filter of the booking conflict. -/
def bookingConflicts (vehicleId tenantId : String) (startDate endDate : Time) (b : Booking) :
    Prop :=
  b.vehicleId = vehicleId ∧ b.tenantId = tenantId ∧ b.deletedAt = none ∧ isActive b.status ∧
    b.startDate < endDate ∧ startDate < b.endDate

/-- `startTime: { lt: endDate }, OR: [{ endTime: null }, { endTime: { gt: startDate } }]`. -/
def tripOverlaps (startDate endDate : Time) (t : Trip) : Prop :=
  t.startTime < endDate ∧ ∀ e ∈ t.endTime, startDate < e

/-- The same for the period of an assignment. -/
def assignmentOverlaps (startDate endDate : Time) (a : Assignment) : Prop :=
  a.startDate < endDate ∧ ∀ e ∈ a.endDate, startDate < e

instance (vehicleId tenantId : String) (startDate endDate : Time) (b : Booking) :
    Decidable (bookingConflicts vehicleId tenantId startDate endDate b) := by
  unfold bookingConflicts; infer_instance

instance (startDate endDate : Time) (t : Trip) : Decidable (tripOverlaps startDate endDate t) := by
  unfold tripOverlaps; infer_instance

instance (startDate endDate : Time) (a : Assignment) :
    Decidable (assignmentOverlaps startDate endDate a) := by
  unfold assignmentOverlaps; infer_instance

def bookingReason (b : Booking) : String :=
  s!"Vehicle has a conflicting booking from {b.startDate.toISOString} to {b.endDate.toISOString}"

def vehicleTripReason (t : Trip) : String :=
  if t.endTime.isSome then s!"Vehicle has an active trip from {t.startTime.toISOString}"
  else "Vehicle has a trip overlapping the requested period"

def maintenanceReason (l : MaintenanceLog) : String :=
  s!"Vehicle has maintenance scheduled on {l.date.toISOString}"

def assignmentReason (a : Assignment) : String :=
  match a.endDate with
  | some e => s!"Driver is assigned to a vehicle until {e.toISOString}"
  | none => "Driver is currently assigned to a vehicle with no end date"

def driverTripReason (t : Trip) : String :=
  if t.endTime.isSome then "Driver has a trip overlapping the requested period"
  else "Driver is currently on an active trip"

/-- The answer that lists the reasons found. -/
def AvailabilityResult.of (reasons : List String) : AvailabilityResult :=
  { available := reasons.length = 0, reasons }

def checkVehicleAvailability (vehicleId tenantId : String) (startDate endDate : Time) :
    Query AvailabilityResult := do
  let bookingConflict ← findFirst .booking fun b =>
    bookingConflicts vehicleId tenantId startDate endDate b
  let tripConflict ← findFirst .trip fun t =>
    t.vehicleId = vehicleId ∧ t.tenantId = tenantId ∧ t.deletedAt = none ∧
      tripOverlaps startDate endDate t
  let vehicle ← findById .vehicle vehicleId fun _ _ => True
  let maintenance ←
    if vehicle.map Vehicle.status = some .maintenance then
      pure (some "Vehicle is currently under maintenance")
    else do
      let maintenanceConflict ← findFirst .maintenanceLog fun l =>
        l.vehicleId = vehicleId ∧ l.tenantId = tenantId ∧ l.deletedAt = none ∧
          startDate ≤ l.date ∧ l.date ≤ endDate
      pure (maintenanceConflict.map maintenanceReason)
  pure (.of ((bookingConflict.map bookingReason).toList ++
    (tripConflict.map vehicleTripReason).toList ++ maintenance.toList))

def checkDriverAvailability (driverId tenantId : String) (startDate endDate : Time) :
    Query AvailabilityResult := do
  let assignmentConflict ← findFirst .assignment fun a =>
    a.driverId = driverId ∧ a.deletedAt = none ∧ assignmentOverlaps startDate endDate a
  let tripConflict ← findFirst .trip fun t =>
    t.driverId = driverId ∧ t.tenantId = tenantId ∧ t.deletedAt = none ∧
      tripOverlaps startDate endDate t
  pure (.of ((assignmentConflict.map assignmentReason).toList ++
    (tripConflict.map driverTripReason).toList))

/-! ### Any matching row -/

/-- Which of the rows that match `findFirst` returns, for the tables the checks look into. -/
structure Picks where
  booking : Pick Booking
  trip : Pick Trip
  maintenanceLog : Pick MaintenanceLog
  assignment : Pick Assignment

/-- `checkVehicleAvailability`, whichever rows its queries return. -/
def checkVehicleAvailabilityBy (pick : Picks) (vehicleId tenantId : String)
    (startDate endDate : Time) : Query AvailabilityResult := do
  let bookingConflict ← findAny pick.booking .booking fun b =>
    bookingConflicts vehicleId tenantId startDate endDate b
  let tripConflict ← findAny pick.trip .trip fun t =>
    t.vehicleId = vehicleId ∧ t.tenantId = tenantId ∧ t.deletedAt = none ∧
      tripOverlaps startDate endDate t
  let vehicle ← findById .vehicle vehicleId fun _ _ => True
  let maintenance ←
    if vehicle.map Vehicle.status = some .maintenance then
      pure (some "Vehicle is currently under maintenance")
    else do
      let maintenanceConflict ← findAny pick.maintenanceLog .maintenanceLog fun l =>
        l.vehicleId = vehicleId ∧ l.tenantId = tenantId ∧ l.deletedAt = none ∧
          startDate ≤ l.date ∧ l.date ≤ endDate
      pure (maintenanceConflict.map maintenanceReason)
  pure (.of ((bookingConflict.map bookingReason).toList ++
    (tripConflict.map vehicleTripReason).toList ++ maintenance.toList))

/-- `checkDriverAvailability`, whichever rows its queries return. -/
def checkDriverAvailabilityBy (pick : Picks) (driverId tenantId : String)
    (startDate endDate : Time) : Query AvailabilityResult := do
  let assignmentConflict ← findAny pick.assignment .assignment fun a =>
    a.driverId = driverId ∧ a.deletedAt = none ∧ assignmentOverlaps startDate endDate a
  let tripConflict ← findAny pick.trip .trip fun t =>
    t.driverId = driverId ∧ t.tenantId = tenantId ∧ t.deletedAt = none ∧
      tripOverlaps startDate endDate t
  pure (.of ((assignmentConflict.map assignmentReason).toList ++
    (tripConflict.map driverTripReason).toList))

/-- The first of them in the order of the table. -/
def Picks.first : Picks := ⟨.first, .first, .first, .first⟩

/-- The check of a vehicle, with the rows found first. -/
theorem checkVehicleAvailabilityBy_first (id T : String) (s e : Time) :
    checkVehicleAvailabilityBy .first id T s e = checkVehicleAvailability id T s e := by
  unfold checkVehicleAvailabilityBy Picks.first
  simp only [findAny_first]
  rfl

/-- The check of a driver, likewise. -/
theorem checkDriverAvailabilityBy_first (id T : String) (s e : Time) :
    checkDriverAvailabilityBy .first id T s e = checkDriverAvailability id T s e := by
  unfold checkDriverAvailabilityBy Picks.first
  simp only [findAny_first]
  rfl

/-! ### What the answers mean -/

/-- Nothing speaks against the period: no active booking and no trip of the
vehicle overlaps it, the vehicle is not under maintenance and has no
maintenance scheduled in it.  An id that names no vehicle is free. -/
structure VehicleFree (t : Tables) (vehicleId tenantId : String) (s e : Time) : Prop where
  bookings : ∀ b ∈ t.bookings, ¬bookingConflicts vehicleId tenantId s e b
  trips : ∀ r ∈ t.trips, r.vehicleId = vehicleId → r.tenantId = tenantId → r.deletedAt = none →
    ¬tripOverlaps s e r
  status : ∀ v ∈ t.vehicles, v.id.val = vehicleId → v.status ≠ .maintenance
  maintenance : ∀ l ∈ t.maintenanceLogs, l.vehicleId = vehicleId → l.tenantId = tenantId →
    l.deletedAt = none → s ≤ l.date → ¬l.date ≤ e

/-- No assignment and no trip of the driver overlaps the period. -/
structure DriverFree (t : Tables) (driverId tenantId : String) (s e : Time) : Prop where
  assignments : ∀ a ∈ t.assignments, a.driverId = driverId → a.deletedAt = none →
    ¬assignmentOverlaps s e a
  trips : ∀ r ∈ t.trips, r.driverId = driverId → r.tenantId = tenantId → r.deletedAt = none →
    ¬tripOverlaps s e r

end Scheduling

/-! ### Bookings -/

namespace Bookings

open Scheduling

structure CreateBookingDto where
  vehicleId : String
  driverId : Field String := .undefined
  startDate : JsDate
  endDate : JsDate
  customerName : String
  contact : String
  advancePaid : Field Amount := .undefined
  deriving DecidableEq

structure AssignDriverVehicleDto where
  vehicleId : Field String := .undefined
  driverId : Field String := .undefined
  advancePaid : Field Amount := .undefined
  deriving DecidableEq

/-- `if (!check.available) throw new BadRequestException({ message, reasons })`. -/
def assertAvailable (check : Query AvailabilityResult) (message : String) : Query Unit := do
  let check ← check
  throwIf (check.available = false) (.unavailable message check.reasons)

section

variable {id tenantId message : String} {s e : Time} {db : Database} {u : Unit}

/-- The vehicle check passes exactly when nothing speaks against the period. -/
@[simp] theorem eval_assertVehicleAvailable_eq_ok :
    (assertAvailable (checkVehicleAvailability id tenantId s e) message).eval db = .ok u ↔
      VehicleFree db.toTables id tenantId s e := by
  simp only [assertAvailable, checkVehicleAvailability, AvailabilityResult.of, eval_bind_eq_ok,
    eval_ite_eq_ok, eval_pure, Except.ok.injEq, eval_throwIf_eq_ok]
  constructor
  · rintro ⟨r, ⟨b, hb, t, ht, v, hv, ⟨-, m, rfl, rfl⟩ | ⟨hs, l, hl, m, rfl, rfl⟩⟩, hr⟩
    · simp at hr
    · simp only [Bool.not_eq_false, decide_eq_true_eq, List.length_append, Nat.add_eq_zero_iff,
        List.length_eq_zero_iff, Option.toList_eq_nil_iff, Option.map_eq_none_iff] at hr
      obtain ⟨⟨rfl, rfl⟩, rfl⟩ := hr
      refine ⟨by simpa using hb, by simpa using ht, fun w hw hid hws => hs ?_, by simpa using hl⟩
      have hf : (findById .vehicle id fun _ _ => True).eval db = .ok (some w) := by
        simpa using ⟨hw, hid⟩
      rw [hv, Except.ok.injEq] at hf
      rw [hf, Option.map_some, hws]
  · intro h
    refine ⟨⟨true, []⟩, ⟨none, by simpa using h.bookings, none, by simpa using h.trips, _, rfl,
      .inr ⟨fun hs => ?_, none, by simpa using h.maintenance, none, rfl, rfl⟩⟩, by simp⟩
    obtain ⟨v, hv, hvs⟩ := Option.map_eq_some_iff.1 hs
    obtain ⟨hmem, hid⟩ := mem_of_find? hv
    exact h.status v hmem (by simpa using hid) hvs

/-- The driver check passes exactly when no assignment and no trip overlaps. -/
@[simp] theorem eval_assertDriverAvailable_eq_ok :
    (assertAvailable (checkDriverAvailability id tenantId s e) message).eval db = .ok u ↔
      DriverFree db.toTables id tenantId s e := by
  simp [assertAvailable, checkDriverAvailability, AvailabilityResult.of]
  exact ⟨fun h => ⟨h.1, h.2⟩, fun h => ⟨h.1, h.2⟩⟩

end

def create (env : Env) (tenantId : String) (dto : CreateBookingDto) :
    Query (Transaction Booking) := do
  throwIf (JsDate.le dto.endDate dto.startDate) (.badRequest "endDate must be after startDate")
  let start ← dto.startDate.valid
  let end' ← dto.endDate.valid
  assertAvailable (checkVehicleAvailability dto.vehicleId tenantId start end')
    "Vehicle is not available for the requested period"
  whenSome dto.driverId.truthy fun driverId =>
    assertAvailable (checkDriverAvailability driverId tenantId start end')
      "Driver is not available for the requested period"
  commit (Prisma.create .booking
    { id := env.cuid 0, tenantId, branchId := none, vehicleId := dto.vehicleId,
      driverId := dto.driverId.nullish, startDate := start, endDate := end', status := .pending,
      advancePaid := dto.advancePaid.nullish.getD 0, customerName := dto.customerName,
      contact := dto.contact, deletedAt := none })

def findOwn (tenantId id : String) : Query Booking := do
  orThrow (← findById .booking id fun _ b => b.tenantId = tenantId ∧ b.deletedAt = none)
    (.notFound "Booking not found")

def confirm (tenantId id : String) : Query (Transaction Booking) := do
  let booking ← findOwn tenantId id
  throwIf (booking.status ≠ .pending)
    (.badRequest s!"Cannot confirm a booking with status: {booking.status.text}")
  commit (Prisma.update .booking id fun b => { b with status := .confirmed })

def cancel (tenantId id : String) : Query (Transaction Booking) := do
  let booking ← findOwn tenantId id
  throwIf (booking.status = .completed ∨ booking.status = .cancelled)
    (.badRequest s!"Cannot cancel a booking with status: {booking.status.text}")
  commit (Prisma.update .booking id fun b => { b with status := .cancelled })

/-- The conditional spreads of `dto` into `data`. -/
def AssignDriverVehicleDto.apply (dto : AssignDriverVehicleDto) (b : Booking) : Booking :=
  { b with
    vehicleId := dto.vehicleId.set b.vehicleId
    driverId := dto.driverId.setNullable b.driverId
    advancePaid := dto.advancePaid.set b.advancePaid }

def assign (tenantId id : String) (dto : AssignDriverVehicleDto) :
    Query (Transaction Booking) := do
  let booking ← findOwn tenantId id
  throwIf (booking.status = .completed ∨ booking.status = .cancelled)
    (.forbidden s!"Cannot assign to a booking with status: {booking.status.text}")
  let start := booking.startDate
  let end' := booking.endDate
  whenSome dto.vehicleId.truthy fun vehicleId => when (vehicleId ≠ booking.vehicleId)
    (assertAvailable (checkVehicleAvailability vehicleId tenantId start end')
      "Vehicle is not available for the booking period")
  whenSome dto.driverId.truthy fun driverId => when (some driverId ≠ booking.driverId)
    (assertAvailable (checkDriverAvailability driverId tenantId start end')
      "Driver is not available for the booking period")
  dto.vehicleId.notNull
  dto.advancePaid.notNull
  commit (Prisma.update .booking id dto.apply)

/-! ### What a successful request has checked and written -/

variable {env : Env} {tenantId id : String} {db db' : Database} {booking : Booking}

/-- A booking is created for a proper period that nothing speaks against. -/
theorem create_ok {dto : CreateBookingDto}
    (h : (create env tenantId dto).exec db = .ok (booking, db')) :
    ∃ s e, dto.startDate = some s ∧ dto.endDate = some e ∧ s < e ∧
      VehicleFree db.toTables dto.vehicleId tenantId s e ∧
      (∀ d, dto.driverId = .value d → d ≠ "" → DriverFree db.toTables d tenantId s e) ∧
      booking =
        { id := env.cuid 0, tenantId, branchId := none, vehicleId := dto.vehicleId,
          driverId := dto.driverId.nullish, startDate := s, endDate := e, status := .pending,
          advancePaid := dto.advancePaid.nullish.getD 0, customerName := dto.customerName,
          contact := dto.contact, deletedAt := none } ∧
      db'.toTables = Model.booking.insert [booking] db.toTables := by
  simp [create] at h
  obtain ⟨hle, s, hs, e, he, hv, hd, rfl, hw⟩ := h
  refine ⟨s, e, hs, he, ?_, hv, hd, rfl, hw⟩
  simpa [hs, he, JsDate.le] using hle

/-- An accepted confirmation is of a pending booking. -/
theorem confirm_ok (h : (confirm tenantId id).exec db = .ok (booking, db')) :
    ∃ b ∈ db.bookings, b.id.val = id ∧ b.tenantId = tenantId ∧ b.deletedAt = none ∧
      b.status = .pending ∧
      db'.toTables = Model.booking.updateAt id (fun b => { b with status := .confirmed })
        db.toTables := by
  simp [confirm, findOwn] at h
  obtain ⟨b, ⟨hb, hid, ht, hd⟩, hs, hw, -⟩ := h
  exact ⟨b, hb, hid, ht, hd, hs, hw⟩

/-- An accepted cancellation is of an active booking. -/
theorem cancel_ok (h : (cancel tenantId id).exec db = .ok (booking, db')) :
    ∃ b ∈ db.bookings, b.id.val = id ∧ b.tenantId = tenantId ∧ b.deletedAt = none ∧
      isActive b.status ∧
      db'.toTables = Model.booking.updateAt id (fun b => { b with status := .cancelled })
        db.toTables := by
  simp [cancel, findOwn] at h
  obtain ⟨b, ⟨hb, hid, ht, hd⟩, hs, hw, -⟩ := h
  refine ⟨b, hb, hid, ht, hd, ?_, hw⟩
  cases hst : b.status <;> simp [isActive, hst] at hs ⊢

/-- A new vehicle or driver must be free over the period the booking has. -/
theorem assign_ok {dto : AssignDriverVehicleDto}
    (h : (assign tenantId id dto).exec db = .ok (booking, db')) :
    ∃ b ∈ db.bookings, b.id.val = id ∧ b.tenantId = tenantId ∧ b.deletedAt = none ∧
      isActive b.status ∧ dto.vehicleId ≠ .null ∧
      (∀ v, dto.vehicleId = .value v → v ≠ "" → v ≠ b.vehicleId →
        VehicleFree db.toTables v tenantId b.startDate b.endDate) ∧
      (∀ d, dto.driverId = .value d → d ≠ "" → some d ≠ b.driverId →
        DriverFree db.toTables d tenantId b.startDate b.endDate) ∧
      db'.toTables = Model.booking.updateAt id dto.apply db.toTables := by
  simp [assign, findOwn] at h
  obtain ⟨b, ⟨hb, hid, ht, hd⟩, hs, hv, hdr, hnull, -, hw, -⟩ := h
  refine ⟨b, hb, hid, ht, hd, ?_, hnull, hv, hdr, hw⟩
  cases hst : b.status <;> simp [isActive, hst] at hs ⊢

end Bookings

end NodeVms
