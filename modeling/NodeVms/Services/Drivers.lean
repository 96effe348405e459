/-
# `DriversService`

A driver may be linked to a user account when it is created; the link is never
changed afterwards.
-/

import NodeVms.Services.Validator

namespace NodeVms
namespace Drivers

open Store Script Prisma Validator

structure CreateDriverDto where
  name : String
  phone : String
  licenseNo : String
  userId : Field String := .undefined
  branchId : Field String := .undefined
  deriving DecidableEq

structure UpdateDriverDto where
  name : Field String := .undefined
  phone : Field String := .undefined
  licenseNo : Field String := .undefined
  isAvailable : Field Bool := .undefined
  branchId : Field String := .undefined
  deriving DecidableEq

def create (env : Env) (tenantId : String) (dto : CreateDriverDto) :
    Query (Transaction Driver) := do
  assertPhoneUnique dto.phone
  assertLicenseUnique dto.licenseNo
  whenSome dto.userId.truthy fun userId => do
    let _ ← assertUserExists tenantId userId "User"
    assertUserNotAlreadyDriver userId
  assertBranchExists tenantId dto.branchId.nullish
  commit (Prisma.create .driver
    { id := env.cuid 0, tenantId, branchId := dto.branchId.nullish,
      userId := dto.userId.nullish, name := dto.name, phone := dto.phone,
      licenseNo := dto.licenseNo, isAvailable := true, deletedAt := none })

/-- The columns of `data`. -/
def UpdateDriverDto.apply (dto : UpdateDriverDto) (d : Driver) : Driver :=
  { d with
    name := dto.name.set d.name
    phone := dto.phone.set d.phone
    licenseNo := dto.licenseNo.set d.licenseNo
    isAvailable := dto.isAvailable.set d.isAvailable
    branchId := dto.branchId.setRef d.branchId }

def update (tenantId id : String) (dto : UpdateDriverDto) : Query (Transaction Driver) := do
  let driver ← findDriver tenantId id
  whenSome dto.phone.truthy fun phone =>
    when (phone ≠ driver.phone) (assertPhoneUnique phone (some id))
  whenSome dto.licenseNo.truthy fun licenseNo =>
    when (licenseNo ≠ driver.licenseNo) (assertLicenseUnique licenseNo (some id))
  when dto.branchId.defined (assertBranchExists tenantId dto.branchId.nullish)
  throwIf (dto = {}) (.badRequest "No updatable fields provided")
  dto.name.notNull
  dto.phone.notNull
  dto.licenseNo.notNull
  dto.isAvailable.notNull
  commit (Prisma.update .driver id dto.apply)

def remove (env : Env) (tenantId id : String) : Query (Transaction Driver) := do
  let _ ← findDriver tenantId id
  commit (Prisma.update .driver id fun d => { d with deletedAt := some env.now })

/-! ### What a successful request has checked and written -/

variable {env : Env} {tenantId id : String} {db db' : Database} {driver : Driver}

/-- A new driver is linked to a live user and a live branch of the tenant, if at all. -/
theorem create_ok {dto : CreateDriverDto}
    (h : (create env tenantId dto).exec db = .ok (driver, db')) :
    (∀ u, dto.userId = .value u → u ≠ "" →
      ∃ r ∈ db.users, r.id.val = u ∧ r.tenantId = tenantId ∧ r.deletedAt = none) ∧
    (∀ b, dto.branchId = .value b → b ≠ "" → LiveBranch db.toTables tenantId b) ∧
    driver =
      { id := env.cuid 0, tenantId, branchId := dto.branchId.nullish,
        userId := dto.userId.nullish, name := dto.name, phone := dto.phone,
        licenseNo := dto.licenseNo, isAvailable := true, deletedAt := none } ∧
    db'.toTables = Model.driver.insert [driver] db.toTables := by
  simp [create] at h
  obtain ⟨-, -, ⟨_, hu⟩, hb, rfl, hw⟩ := h
  exact ⟨fun u hu' hne => (hu u hu' hne).1, hb, rfl, hw⟩

/-- The branch of a driver changes to a live one of the tenant, or to none. -/
theorem update_ok {dto : UpdateDriverDto}
    (h : (update tenantId id dto).exec db = .ok (driver, db')) :
    LiveDriver db.toTables tenantId id ∧
      (∀ b, dto.branchId = .value b → b ≠ "" → LiveBranch db.toTables tenantId b) ∧
      db'.toTables = Model.driver.updateAt id dto.apply db.toTables := by
  simp [update] at h
  obtain ⟨d, hd, -, -, hb, -, -, -, -, -, hw, -⟩ := h
  exact ⟨⟨d, hd⟩, fun b hb' hne => hb (by rw [hb', Field.defined_value]) b hb' hne, hw⟩

/-- An accepted removal is of a live driver of the tenant. -/
theorem remove_ok (h : (remove env tenantId id).exec db = .ok (driver, db')) :
    LiveDriver db.toTables tenantId id ∧
      db'.toTables = Model.driver.updateAt id (fun d => { d with deletedAt := some env.now })
        db.toTables := by
  simp [remove] at h
  exact ⟨h.1, h.2.1⟩

end Drivers
end NodeVms
