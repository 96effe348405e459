/-
# `AssignmentsService`

An assignment has no `tenantId` of its own; it belongs to the tenant of its
vehicle.  `create` rejects a period that meets that of another live assignment
of the vehicle or of the driver; `update` has no such check.
-/

import NodeVms.Services.Validator

namespace NodeVms
namespace Assignments

open Store Script Prisma

structure CreateAssignmentDto where
  vehicleId : String
  driverId : String
  startDate : JsDate
  endDate : Field JsDate := .undefined
  deriving DecidableEq

structure UpdateAssignmentDto where
  vehicleId : Field String := .undefined
  driverId : Field String := .undefined
  startDate : Field JsDate := .undefined
  endDate : Field JsDate := .undefined
  deriving DecidableEq

def endBeforeStart : Error := .badRequest "endDate must be after startDate"

/-- The date part of the overlap filters:
`startDate: end ? { lte: end } : undefined, OR: [{ endDate: null }, { endDate: { gte: start } }]`. -/
def overlaps (start : Time) (end' : Option Time) (a : Assignment) : Prop :=
  (∀ e ∈ end', a.startDate ≤ e) ∧ ∀ e ∈ a.endDate, start ≤ e

instance (start : Time) (end' : Option Time) (a : Assignment) :
    Decidable (overlaps start end' a) := by
  unfold overlaps; infer_instance

def create (env : Env) (tenantId : String) (dto : CreateAssignmentDto) :
    Query (Transaction Assignment) := do
  throwIf (∃ e ∈ dto.endDate.nullish, JsDate.le e dto.startDate) endBeforeStart
  let _ ← findVehicle tenantId dto.vehicleId
  let _ ← findDriver tenantId dto.driverId
  let start ← dto.startDate.valid
  let end' ← JsDate.validOpt dto.endDate.nullish
  let vehicleOverlap ← findFirst .assignment fun a =>
    a.vehicleId = dto.vehicleId ∧ a.deletedAt = none ∧ overlaps start end' a
  throwIfSome vehicleOverlap
    (.badRequest "Vehicle already has an overlapping assignment in this period")
  let driverOverlap ← findFirst .assignment fun a =>
    a.driverId = dto.driverId ∧ a.deletedAt = none ∧ overlaps start end' a
  throwIfSome driverOverlap
    (.badRequest "Driver already has an overlapping assignment in this period")
  commit (Prisma.create .assignment
    { id := env.cuid 0, vehicleId := dto.vehicleId, driverId := dto.driverId,
      startDate := start, endDate := end', deletedAt := none })

/-- `where: { id, deletedAt: null, vehicle: { tenantId } }`. -/
def findOwn (tenantId id : String) : Query Assignment := do
  orThrow
    (← findById .assignment id fun t a =>
      a.deletedAt = none ∧ ∃ v ∈ t.vehicles, v.id.val = a.vehicleId ∧ v.tenantId = tenantId)
    (.notFound "Assignment not found")

/-- The conditional spreads of `dto` into `data`, with the dates already computed. -/
def UpdateAssignmentDto.apply (dto : UpdateAssignmentDto) (start : Time) (end' : Option Time)
    (a : Assignment) : Assignment :=
  { a with
    vehicleId := dto.vehicleId.truthy.getD a.vehicleId
    driverId := dto.driverId.truthy.getD a.driverId
    startDate := if dto.startDate.nullish.isSome then start else a.startDate
    endDate := if dto.endDate.defined then end' else a.endDate }

def update (tenantId id : String) (dto : UpdateAssignmentDto) :
    Query (Transaction Assignment) := do
  let assignment ← findOwn tenantId id
  let start := dto.startDate.nullish.getD (some assignment.startDate)
  let end' := if dto.endDate.defined then dto.endDate.nullish else assignment.endDate.map some
  throwIf (∃ e ∈ end', JsDate.le e start) endBeforeStart
  whenSome dto.vehicleId.truthy fun vehicleId => when (vehicleId ≠ assignment.vehicleId) do
    let _ ← findVehicle tenantId vehicleId
  whenSome dto.driverId.truthy fun driverId => when (driverId ≠ assignment.driverId) do
    let _ ← findDriver tenantId driverId
  let start ← start.valid
  let end' ← JsDate.validOpt end'
  commit (Prisma.update .assignment id (dto.apply start end'))

def remove (env : Env) (tenantId id : String) : Query (Transaction Assignment) := do
  let _ ← findOwn tenantId id
  commit (Prisma.update .assignment id fun a => { a with deletedAt := some env.now })

/-! ### What a successful request has checked and written -/

variable {env : Env} {tenantId id : String} {db db' : Database} {assignment : Assignment}

/-- `a` is a live assignment of a vehicle of the tenant. -/
def OwnAssignment (t : Tables) (tenantId id : String) (a : Assignment) : Prop :=
  a ∈ t.assignments ∧ a.id.val = id ∧ a.deletedAt = none ∧
    ∃ v ∈ t.vehicles, v.id.val = a.vehicleId ∧ v.tenantId = tenantId

/-- An assignment is created for a live vehicle and a live driver of the tenant
that have no live assignment in the period. -/
theorem create_ok {dto : CreateAssignmentDto}
    (h : (create env tenantId dto).exec db = .ok (assignment, db')) :
    ∃ s e, dto.startDate = some s ∧ dto.endDate.nullish = e.map some ∧ (∀ e' ∈ e, s < e') ∧
      LiveVehicle db.toTables tenantId dto.vehicleId ∧
      LiveDriver db.toTables tenantId dto.driverId ∧
      (∀ a ∈ db.assignments, a.vehicleId = dto.vehicleId → a.deletedAt = none →
        ¬overlaps s e a) ∧
      (∀ a ∈ db.assignments, a.driverId = dto.driverId → a.deletedAt = none →
        ¬overlaps s e a) ∧
      assignment =
        { id := env.cuid 0, vehicleId := dto.vehicleId, driverId := dto.driverId,
          startDate := s, endDate := e, deletedAt := none } ∧
      db'.toTables = Model.assignment.insert [assignment] db.toTables := by
  simp [create] at h
  obtain ⟨hle, hv, hd, s, hs, e, he, hov, hod, rfl, hw⟩ := h
  refine ⟨s, e, hs, he, fun e' he' => ?_, hv, hd, hov, hod, rfl, hw⟩
  rw [Option.mem_def.1 he', Option.map_some, Field.nullish_eq_some] at he
  simpa [hs] using hle _ he

/-- The new vehicle or driver of an assignment is a live one of the tenant; the
other assignments are not looked at. -/
theorem update_ok {dto : UpdateAssignmentDto}
    (h : (update tenantId id dto).exec db = .ok (assignment, db')) :
    ∃ a, OwnAssignment db.toTables tenantId id a ∧
      (∀ v, dto.vehicleId = .value v → v ≠ "" → v ≠ a.vehicleId →
        LiveVehicle db.toTables tenantId v) ∧
      (∀ d, dto.driverId = .value d → d ≠ "" → d ≠ a.driverId →
        LiveDriver db.toTables tenantId d) ∧
      ∃ s e, dto.startDate.nullish.getD (some a.startDate) = some s ∧
        (if dto.endDate.defined then dto.endDate.nullish else a.endDate.map some) = e.map some ∧
        (∀ e' ∈ e, s < e') ∧
        db'.toTables = Model.assignment.updateAt id (dto.apply s e) db.toTables := by
  simp [update, findOwn] at h
  obtain ⟨a, ha, hle, hv, hd, s, hs, e, he, hw, -⟩ := h
  refine ⟨a, ha, hv, hd, s, e, hs, he, fun e' he' => ?_, hw⟩
  rw [Option.mem_def.1 he', Option.map_some] at he
  simpa [hs] using hle _ he

/-- An accepted removal is of an assignment of the tenant. -/
theorem remove_ok (h : (remove env tenantId id).exec db = .ok (assignment, db')) :
    (∃ a, OwnAssignment db.toTables tenantId id a) ∧
      db'.toTables = Model.assignment.updateAt id (fun a => { a with deletedAt := some env.now })
        db.toTables := by
  simp [remove, findOwn] at h
  exact ⟨h.1, h.2.1⟩

end Assignments
end NodeVms
