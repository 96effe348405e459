/-
# `EntityValidator`

The checks the services share.  Those on `email`, `registrationNo`, `phone`,
`licenseNo` and `userId` look at live rows only, of every tenant, and may leave
one row out; `assertUserExists` and `assertBranchExists` look for a live row of
the caller's tenant.  `findVehicle` and `findDriver` are the lookups that the
services spell out each time.
-/

import NodeVms.Request

namespace NodeVms

open Store Script Prisma

/-- `id` names a live vehicle of the tenant. -/
def LiveVehicle (t : Tables) (tenantId id : String) : Prop :=
  ∃ v ∈ t.vehicles, v.id.val = id ∧ v.tenantId = tenantId ∧ v.deletedAt = none

/-- `id` names a live driver of the tenant. -/
def LiveDriver (t : Tables) (tenantId id : String) : Prop :=
  ∃ d ∈ t.drivers, d.id.val = id ∧ d.tenantId = tenantId ∧ d.deletedAt = none

/-- `id` names a live branch of the tenant. -/
def LiveBranch (t : Tables) (tenantId id : String) : Prop :=
  ∃ b ∈ t.branches, b.id.val = id ∧ b.tenantId = tenantId ∧ b.deletedAt = none

instance (t : Tables) (tenantId id : String) : Decidable (LiveVehicle t tenantId id) := by
  unfold LiveVehicle; infer_instance

instance (t : Tables) (tenantId id : String) : Decidable (LiveDriver t tenantId id) := by
  unfold LiveDriver; infer_instance

instance (t : Tables) (tenantId id : String) : Decidable (LiveBranch t tenantId id) := by
  unfold LiveBranch; infer_instance

/-- `where: { id, tenantId, deletedAt: null }`, or `Vehicle not found`. -/
def findVehicle (tenantId id : String) : Query Vehicle := do
  orThrow (← findById .vehicle id fun _ v => v.tenantId = tenantId ∧ v.deletedAt = none)
    (.notFound "Vehicle not found")

/-- `where: { id, tenantId, deletedAt: null }`, or `Driver not found`. -/
def findDriver (tenantId id : String) : Query Driver := do
  orThrow (← findById .driver id fun _ d => d.tenantId = tenantId ∧ d.deletedAt = none)
    (.notFound "Driver not found")

namespace Validator

/-- `...(excludeId && { id: { not: excludeId } })`. -/
def notExcluded (excludeId : Option String) (id : Cuid) : Prop :=
  ∀ x ∈ nonEmpty excludeId, id.val ≠ x

instance (excludeId : Option String) (id : Cuid) : Decidable (notExcluded excludeId id) := by
  unfold notExcluded; infer_instance

/-- The checks below: no live row, but for the excluded one, has the value in the column. -/
def assertUnique {α κ : Type} [DecidableEq κ] (m : Model α) (deletedAt : α → Option Time)
    (column : α → κ) (value : κ) (excludeId : Option String) (message : String) : Query Unit := do
  let existing ← findFirst m fun r =>
    column r = value ∧ deletedAt r = none ∧ notExcluded excludeId (m.id r)
  throwIfSome existing (.conflict message)

def assertEmailUnique (email : String) (excludeId : Option String := none) : Query Unit :=
  assertUnique .user User.deletedAt User.email email excludeId "Email already in use"

def assertUserExists (tenantId userId : String) (label : String := "User") : Query User := do
  orThrow (← findById .user userId fun _ u => u.tenantId = tenantId ∧ u.deletedAt = none)
    (.notFound s!"{label} not found")

/-- `null`, `undefined` and the empty string skip the check. -/
def assertBranchExists (tenantId : String) (branchId : Option String) : Query Unit :=
  whenSome (nonEmpty branchId) fun branchId => do
    let _ ← orThrow
      (← findById .branch branchId fun _ b => b.tenantId = tenantId ∧ b.deletedAt = none)
      (.notFound "Branch not found or does not belong to your organization")

def assertRegistrationUnique (registrationNo : String) (excludeId : Option String := none) :
    Query Unit :=
  assertUnique .vehicle Vehicle.deletedAt Vehicle.registrationNo registrationNo excludeId
    "Registration number is already in use"

def assertPhoneUnique (phone : String) (excludeId : Option String := none) : Query Unit :=
  assertUnique .driver Driver.deletedAt Driver.phone phone excludeId
    "Phone number is already in use"

def assertLicenseUnique (licenseNo : String) (excludeId : Option String := none) : Query Unit :=
  assertUnique .driver Driver.deletedAt Driver.licenseNo licenseNo excludeId
    "License number is already in use"

def assertUserNotAlreadyDriver (userId : String) (excludeDriverId : Option String := none) :
    Query Unit :=
  assertUnique .driver Driver.deletedAt Driver.userId (some userId) excludeDriverId
    "This user is already linked to a driver profile"

end Validator

/-! ### What a passed check says about the database -/

section Passed

variable {db : Database} {tenantId id : String} {u : Unit}

/-- The vehicle found is a live one of the tenant. -/
@[simp] theorem eval_findVehicle_eq_ok {v : Vehicle} :
    (findVehicle tenantId id).eval db = .ok v ↔
      v ∈ db.vehicles ∧ v.id.val = id ∧ v.tenantId = tenantId ∧ v.deletedAt = none := by
  simp [findVehicle]

/-- So is the driver found. -/
@[simp] theorem eval_findDriver_eq_ok {d : Driver} :
    (findDriver tenantId id).eval db = .ok d ↔
      d ∈ db.drivers ∧ d.id.val = id ∧ d.tenantId = tenantId ∧ d.deletedAt = none := by
  simp [findDriver]

/-- So is the user found. -/
@[simp] theorem Validator.eval_assertUserExists_eq_ok {label : String} {r : User} :
    (assertUserExists tenantId id label).eval db = .ok r ↔
      r ∈ db.users ∧ r.id.val = id ∧ r.tenantId = tenantId ∧ r.deletedAt = none := by
  simp [assertUserExists]

/-- A value that has passed its check is in no live row but the excluded one. -/
theorem Validator.eval_assertUnique_eq_ok {α κ : Type} [DecidableEq κ] {m : Model α}
    {deletedAt : α → Option Time} {column : α → κ} {value : κ} {excludeId : Option String}
    {message : String} :
    (assertUnique m deletedAt column value excludeId message).eval db = .ok u ↔
      ∀ r ∈ m.rows db.toTables, column r = value → deletedAt r = none →
        ¬notExcluded excludeId (m.id r) := by
  simp [assertUnique]

/-- A branch reference that has passed `assertBranchExists` is empty or names a
live branch of the tenant. -/
@[simp] theorem Validator.eval_assertBranchExists_eq_ok {branchId : Option String} :
    (assertBranchExists tenantId branchId).eval db = .ok u ↔
      ∀ k, branchId = some k → k ≠ "" → LiveBranch db.toTables tenantId k := by
  simp [assertBranchExists, LiveBranch]

end Passed

end NodeVms
