/-
# `BranchesService`

`remove` unlinks every user, vehicle and driver of the branch and deletes its
memberships in the transaction that soft-deletes it.  Bookings and workshop
jobs have a `branchId` column too; no service ever fills it.

Two reads count what belongs to a branch: `findOne`, which lists it as well, and
`getAggregateSummary`, which adds it up over the branches of the tenant.
-/

import Mathlib.Data.List.Sort
import NodeVms.Services.Validator

namespace NodeVms
namespace Branches

open Store Script Prisma

structure CreateBranchDto where
  name : String
  address : Field String := .undefined
  phone : Field String := .undefined
  deriving DecidableEq

structure UpdateBranchDto where
  name : Field String := .undefined
  address : Field String := .undefined
  phone : Field String := .undefined
  isActive : Field Bool := .undefined
  deriving DecidableEq

def nameTaken (name : String) : Error :=
  .conflict s!"A branch named \"{name}\" already exists for your organization"

def create (env : Env) (tenantId : String) (dto : CreateBranchDto) :
    Query (Transaction Branch) := do
  let existing ← findFirst .branch fun b =>
    b.tenantId = tenantId ∧ b.name = dto.name ∧ b.deletedAt = none
  throwIfSome existing (nameTaken dto.name)
  commit (Prisma.create .branch
    { id := env.cuid 0, tenantId, name := dto.name, address := dto.address.nullish,
      phone := dto.phone.nullish, isActive := true, deletedAt := none })

def findOwn (tenantId id : String) : Query Branch := do
  orThrow (← findById .branch id fun _ b => b.tenantId = tenantId ∧ b.deletedAt = none)
    (.notFound "Branch not found")

/-- `data: dto`. -/
def UpdateBranchDto.apply (dto : UpdateBranchDto) (b : Branch) : Branch :=
  { b with
    name := dto.name.set b.name
    address := dto.address.setNullable b.address
    phone := dto.phone.setNullable b.phone
    isActive := dto.isActive.set b.isActive }

def update (tenantId id : String) (dto : UpdateBranchDto) : Query (Transaction Branch) := do
  let branch ← findOwn tenantId id
  whenSome dto.name.truthy fun name => when (name ≠ branch.name) do
    let dup ← findFirst .branch fun b =>
      b.tenantId = tenantId ∧ b.name = name ∧ b.deletedAt = none ∧ b.id.val ≠ id
    throwIfSome dup (nameTaken name)
  dto.name.notNull
  dto.isActive.notNull
  commit (Prisma.update .branch id dto.apply)

def remove (env : Env) (tenantId id : String) : Query (Transaction Branch) := do
  let _ ← findOwn tenantId id
  commit do
    updateMany .user (fun u => u.branchId = some id) fun u => { u with branchId := none }
    deleteMany .userBranch fun b => b.branchId = id
    updateMany .vehicle (fun v => v.branchId = some id) fun v => { v with branchId := none }
    updateMany .driver (fun d => d.branchId = some id) fun d => { d with branchId := none }
    Prisma.update .branch id fun b => { b with deletedAt := some env.now }

/-! ### Dashboards -/

/-- `_count: { select: … }`: the rows of five relations of a branch. -/
structure BranchCount where
  users : Nat
  vehicles : Nat
  drivers : Nat
  bookings : Nat
  workshopJobs : Nat
  deriving DecidableEq

def BranchCount.of (t : Tables) (id : String) : BranchCount where
  users := t.users.countP fun u => u.branchId = some id
  vehicles := t.vehicles.countP fun v => v.branchId = some id
  drivers := t.drivers.countP fun d => d.branchId = some id
  bookings := t.bookings.countP fun b => b.branchId = some id
  workshopJobs := t.workshopJobs.countP fun j => j.branchId = some id

structure BranchUser where
  id : String
  name : String
  email : String
  role : Role
  isActive : Bool
  deriving DecidableEq

structure BranchVehicle where
  id : String
  registrationNo : String
  model : String
  status : VehicleStatus
  deriving DecidableEq

structure BranchDriver where
  id : String
  name : String
  phone : String
  isAvailable : Bool
  deriving DecidableEq

def BranchUser.of (u : User) : BranchUser :=
  { id := u.id, name := u.name, email := u.email, role := u.role, isActive := u.isActive }

def BranchVehicle.of (v : Vehicle) : BranchVehicle :=
  { id := v.id, registrationNo := v.registrationNo, model := v.model, status := v.status }

def BranchDriver.of (d : Driver) : BranchDriver :=
  { id := d.id, name := d.name, phone := d.phone, isAvailable := d.isAvailable }

structure BranchDetails where
  branch : Branch
  users : List BranchUser
  vehicles : List BranchVehicle
  drivers : List BranchDriver
  count : BranchCount
  deriving DecidableEq

/-- The lists leave removed rows out, the counts have no such filter. -/
def findOne (tenantId id : String) : Query BranchDetails := do
  let branch ← findOwn tenantId id
  let users ← findMany .user fun u => u.branchId = some id ∧ u.deletedAt = none
  let vehicles ← findMany .vehicle fun v => v.branchId = some id ∧ v.deletedAt = none
  let drivers ← findMany .driver fun d => d.branchId = some id ∧ d.deletedAt = none
  let count ← Script.read fun db => BranchCount.of db.toTables id
  pure
    { branch, users := users.map .of, vehicles := vehicles.map .of, drivers := drivers.map .of,
      count }

structure Totals where
  branches : Nat
  users : Nat
  vehicles : Nat
  drivers : Nat
  bookings : Nat
  workshopJobs : Nat
  deriving DecidableEq

structure CountedBranch where
  branch : Branch
  count : BranchCount
  deriving DecidableEq

structure AggregateSummary where
  totals : Totals
  branches : List CountedBranch
  deriving DecidableEq

/-- `branches.reduce((s, b) => s + b._count.relation, 0)`. -/
def total (relation : BranchCount → Nat) (branches : List CountedBranch) : Nat :=
  branches.foldl (fun s b => s + relation b.count) 0

/-- `collate` orders names as the collation of the database does. -/
def getAggregateSummary (collate : String → String → Bool) (tenantId : String) :
    Query AggregateSummary := do
  let rows ← findMany .branch fun b => b.tenantId = tenantId ∧ b.deletedAt = none
  let branches ← Script.read fun db =>
    (rows.insertionSort fun a b => collate a.name b.name).map fun b =>
      ⟨b, BranchCount.of db.toTables b.id⟩
  let totals : Totals :=
    { branches := branches.length, users := total BranchCount.users branches,
      vehicles := total BranchCount.vehicles branches,
      drivers := total BranchCount.drivers branches,
      bookings := total BranchCount.bookings branches,
      workshopJobs := total BranchCount.workshopJobs branches }
  pure { totals, branches }

/-! ### What a successful request has checked and written -/

variable {env : Env} {tenantId id : String} {db db' : Database} {branch : Branch}

/-- An accepted branch has a name no live branch of the tenant has. -/
theorem create_ok {dto : CreateBranchDto}
    (h : (create env tenantId dto).exec db = .ok (branch, db')) :
    (∀ b ∈ db.branches, b.tenantId = tenantId → b.name = dto.name → b.deletedAt ≠ none) ∧
      branch =
        { id := env.cuid 0, tenantId, name := dto.name, address := dto.address.nullish,
          phone := dto.phone.nullish, isActive := true, deletedAt := none } ∧
      db'.toTables = Model.branch.insert [branch] db.toTables := by
  simp [create] at h
  obtain ⟨hname, rfl, hw⟩ := h
  exact ⟨hname, rfl, hw⟩

/-- An accepted update is of a live branch, and checks a name that is not empty. -/
theorem update_ok {dto : UpdateBranchDto}
    (h : (update tenantId id dto).exec db = .ok (branch, db')) :
    ∃ b ∈ db.branches, b.id.val = id ∧ b.tenantId = tenantId ∧ b.deletedAt = none ∧
      (∀ name, dto.name = .value name → name ≠ "" → name ≠ b.name →
        ∀ o ∈ db.branches, o.tenantId = tenantId → o.name = name → o.deletedAt = none →
          o.id.val = id) ∧
      db'.toTables = Model.branch.updateAt id dto.apply db.toTables := by
  simp [update, findOwn] at h
  obtain ⟨b, ⟨hb, hid, ht, hd⟩, hname, -, -, hw, -⟩ := h
  exact ⟨b, hb, hid, ht, hd, hname, hw⟩

/-- A branch is removed together with every reference to it. -/
theorem remove_ok (h : (remove env tenantId id).exec db = .ok (branch, db')) :
    LiveBranch db.toTables tenantId id ∧
      db'.toTables = Model.branch.updateAt id (fun b => { b with deletedAt := some env.now })
        (Model.driver.updateAll (fun d => d.branchId = some id)
          (fun d => { d with branchId := none })
          (Model.vehicle.updateAll (fun v => v.branchId = some id)
            (fun v => { v with branchId := none })
            (Model.userBranch.delete (fun b => b.branchId = id)
              (Model.user.updateAll (fun u => u.branchId = some id)
                (fun u => { u with branchId := none }) db.toTables)))) := by
  simp [remove, findOwn] at h
  obtain ⟨hb, db₁, h₁, db₂, h₂, db₃, h₃, db₄, h₄, h₅, -⟩ := h
  exact ⟨hb, by rw [h₅, h₄, h₃, h₂, h₁]⟩

end Branches
end NodeVms
