/-
# `VehiclesService` and `ContractsService`

A contracted vehicle and its source contract can be created in one
transaction from either side: `Vehicles.create` with a `contract` payload,
`Contracts.create` with a `vehicle` payload.
-/

import NodeVms.Services.Validator

namespace NodeVms

open Store Script Prisma Validator

/-- `CreateVehicleSourceContractDto`. -/
structure CreateVehicleSourceContractDto where
  startDate : JsDate
  endDate : JsDate
  amount : Amount
  commission : Field Amount := .undefined
  contactName : Field String := .undefined
  contactEmail : Field String := .undefined
  contactPhone : Field String := .undefined
  contactAddress : Field String := .undefined
  deriving DecidableEq

structure CreateVehicleDto where
  registrationNo : String
  make : Field String := .undefined
  model : String
  year : Field Int := .undefined
  color : Field String := .undefined
  fuelType : Field FuelType := .undefined
  seatCount : Field Int := .undefined
  sourceType : Field VehicleSourceType := .undefined
  branchId : Field String := .undefined
  fitnessExpiryDate : Field JsDate := .undefined
  taxTokenExpiryDate : Field JsDate := .undefined
  contract : Field CreateVehicleSourceContractDto := .undefined
  deriving DecidableEq

structure UpdateVehicleDto where
  registrationNo : Field String := .undefined
  make : Field String := .undefined
  model : Field String := .undefined
  year : Field Int := .undefined
  color : Field String := .undefined
  fuelType : Field FuelType := .undefined
  seatCount : Field Int := .undefined
  status : Field VehicleStatus := .undefined
  sourceType : Field VehicleSourceType := .undefined
  branchId : Field String := .undefined
  fitnessExpiryDate : Field JsDate := .undefined
  taxTokenExpiryDate : Field JsDate := .undefined
  deriving DecidableEq

structure CreateContractVehicleDto where
  registrationNo : String
  make : Field String := .undefined
  model : String
  year : Field Int := .undefined
  color : Field String := .undefined
  fuelType : Field FuelType := .undefined
  seatCount : Field Int := .undefined
  branchId : Field String := .undefined
  sourceType : Field VehicleSourceType := .undefined
  deriving DecidableEq

structure CreateContractDto where
  type : ContractType
  startDate : JsDate
  endDate : JsDate
  amount : Amount
  commission : Field Amount := .undefined
  vehicleId : Field String := .undefined
  vehicle : Field CreateContractVehicleDto := .undefined
  contactName : Field String := .undefined
  contactEmail : Field String := .undefined
  contactPhone : Field String := .undefined
  contactAddress : Field String := .undefined
  deriving DecidableEq

structure UpdateContractDto where
  type : Field ContractType := .undefined
  startDate : Field JsDate := .undefined
  endDate : Field JsDate := .undefined
  amount : Field Amount := .undefined
  commission : Field Amount := .undefined
  vehicleId : Field String := .undefined
  contactName : Field String := .undefined
  contactEmail : Field String := .undefined
  contactPhone : Field String := .undefined
  contactAddress : Field String := .undefined
  deriving DecidableEq

/-- The end of every period must come after its start. -/
def endBeforeStart : Error := .badRequest "endDate must be after startDate"

/-! ### The rows the bodies describe -/

/-- The `data` of both `vehicle.create` calls. -/
def CreateVehicleDto.row (dto : CreateVehicleDto) (env : Env) (tenantId : String)
    (fitnessExpiryDate taxTokenExpiryDate : Option Time) : Vehicle :=
  { id := env.cuid 0
    tenantId
    branchId := dto.branchId.nullish
    registrationNo := dto.registrationNo
    make := dto.make.nullish
    model := dto.model
    year := dto.year.nullish
    color := dto.color.nullish
    fuelType := dto.fuelType.nullish
    seatCount := dto.seatCount.nullish.getD 4
    status := .available
    sourceType := dto.sourceType.nullish.getD .owned
    fitnessExpiryDate
    taxTokenExpiryDate
    deletedAt := none }

/-- The `data` of the source contract. -/
def CreateVehicleSourceContractDto.row (dto : CreateVehicleSourceContractDto) (id : Cuid)
    (tenantId : String) (startDate endDate : Time) (vehicleId : String) : Contract :=
  { id, tenantId, type := .vehicleSource, startDate, endDate, amount := dto.amount,
    commission := dto.commission.nullish.getD 0, vehicleId := some vehicleId,
    contactName := dto.contactName.nullish, contactEmail := dto.contactEmail.nullish,
    contactPhone := dto.contactPhone.nullish, contactAddress := dto.contactAddress.nullish,
    deletedAt := none }

/-- The columns of the `data` of `vehicle.update`. -/
def UpdateVehicleDto.apply (dto : UpdateVehicleDto)
    (fitnessExpiryDate taxTokenExpiryDate : Option Time) (v : Vehicle) : Vehicle :=
  { v with
    registrationNo := dto.registrationNo.set v.registrationNo
    make := dto.make.setNullable v.make
    model := dto.model.set v.model
    year := dto.year.setNullable v.year
    color := dto.color.setNullable v.color
    fuelType := dto.fuelType.setNullable v.fuelType
    seatCount := dto.seatCount.set v.seatCount
    status := dto.status.set v.status
    sourceType := dto.sourceType.set v.sourceType
    branchId := dto.branchId.setRef v.branchId
    fitnessExpiryDate :=
      if dto.fitnessExpiryDate.defined then fitnessExpiryDate else v.fitnessExpiryDate
    taxTokenExpiryDate :=
      if dto.taxTokenExpiryDate.defined then taxTokenExpiryDate else v.taxTokenExpiryDate }

/-- The `data` of `vehicle.create`; the `sourceType` of the payload is not used. -/
def CreateContractVehicleDto.row (dto : CreateContractVehicleDto) (env : Env) (tenantId : String) :
    Vehicle :=
  { id := env.cuid 0
    tenantId
    branchId := dto.branchId.nullish
    registrationNo := dto.registrationNo
    make := dto.make.nullish
    model := dto.model
    year := dto.year.nullish
    color := dto.color.nullish
    fuelType := dto.fuelType.nullish
    seatCount := dto.seatCount.nullish.getD 4
    status := .available
    sourceType := .contract
    fitnessExpiryDate := none
    taxTokenExpiryDate := none
    deletedAt := none }

/-- The `data` of both `contract.create` calls. -/
def CreateContractDto.row (dto : CreateContractDto) (id : Cuid) (tenantId : String)
    (startDate endDate : Time) (vehicleId : Option String) : Contract :=
  { id, tenantId, type := dto.type, startDate, endDate, amount := dto.amount,
    commission := dto.commission.nullish.getD 0, vehicleId,
    contactName := dto.contactName.nullish, contactEmail := dto.contactEmail.nullish,
    contactPhone := dto.contactPhone.nullish, contactAddress := dto.contactAddress.nullish,
    deletedAt := none }

/-- The `data` of `contract.update`. -/
def UpdateContractDto.apply (dto : UpdateContractDto) (startDate endDate : Time) (c : Contract) :
    Contract :=
  { c with
    type := dto.type.set c.type
    startDate
    endDate
    amount := dto.amount.set c.amount
    commission := dto.commission.set c.commission
    vehicleId := dto.vehicleId.setNullable c.vehicleId
    contactName := dto.contactName.setNullable c.contactName
    contactEmail := dto.contactEmail.setNullable c.contactEmail
    contactPhone := dto.contactPhone.setNullable c.contactPhone
    contactAddress := dto.contactAddress.setNullable c.contactAddress }

/-! ### Vehicles -/

namespace Vehicles

def create (env : Env) (tenantId : String) (dto : CreateVehicleDto) :
    Query (Transaction Vehicle) := do
  assertRegistrationUnique dto.registrationNo
  assertBranchExists tenantId dto.branchId.nullish
  let sourceType := dto.sourceType.nullish.getD .owned
  if sourceType = .contract then
    let contract ← orThrow dto.contract.nullish
      (.badRequest "contract is required when sourceType is CONTRACT")
    throwIf (JsDate.le contract.endDate contract.startDate) endBeforeStart
    let fitness ← JsDate.validOpt dto.fitnessExpiryDate.nullish
    let taxToken ← JsDate.validOpt dto.taxTokenExpiryDate.nullish
    let start ← contract.startDate.valid
    let end' ← contract.endDate.valid
    commit do
      let vehicle ← Prisma.create .vehicle (dto.row env tenantId fitness taxToken)
      let _ ← Prisma.create .contract (contract.row (env.cuid 1) tenantId start end' vehicle.id)
      pure vehicle
  else
    let fitness ← JsDate.validOpt dto.fitnessExpiryDate.nullish
    let taxToken ← JsDate.validOpt dto.taxTokenExpiryDate.nullish
    commit (Prisma.create .vehicle (dto.row env tenantId fitness taxToken))

def update (tenantId id : String) (dto : UpdateVehicleDto) : Query (Transaction Vehicle) := do
  let vehicle ← findVehicle tenantId id
  whenSome dto.registrationNo.truthy fun registrationNo =>
    when (registrationNo ≠ vehicle.registrationNo)
      (assertRegistrationUnique registrationNo (some id))
  when dto.branchId.defined (assertBranchExists tenantId dto.branchId.nullish)
  throwIf (dto = {}) (.badRequest "No updatable fields provided")
  dto.registrationNo.notNull
  dto.model.notNull
  dto.seatCount.notNull
  dto.status.notNull
  dto.sourceType.notNull
  let fitness ← JsDate.validOpt dto.fitnessExpiryDate.nullish
  let taxToken ← JsDate.validOpt dto.taxTokenExpiryDate.nullish
  commit (Prisma.update .vehicle id (dto.apply fitness taxToken))

def remove (env : Env) (tenantId id : String) : Query (Transaction Vehicle) := do
  let _ ← findVehicle tenantId id
  commit (Prisma.update .vehicle id fun v => { v with deletedAt := some env.now })

variable {env : Env} {tenantId id : String} {db db' : Database} {vehicle : Vehicle}

/-- A new vehicle, with its source contract when it is a contracted one. -/
theorem create_ok {dto : CreateVehicleDto}
    (h : (create env tenantId dto).exec db = .ok (vehicle, db')) :
    (∀ b, dto.branchId = .value b → b ≠ "" → LiveBranch db.toTables tenantId b) ∧
    ∃ fitness taxToken, dto.fitnessExpiryDate.nullish = fitness.map some ∧
      dto.taxTokenExpiryDate.nullish = taxToken.map some ∧
      vehicle = dto.row env tenantId fitness taxToken ∧
      (vehicle.sourceType ≠ .contract ∧ db'.toTables = Model.vehicle.insert [vehicle] db.toTables ∨
        vehicle.sourceType = .contract ∧
        ∃ contract s e, dto.contract = .value contract ∧ contract.startDate = some s ∧
          contract.endDate = some e ∧ s < e ∧
          db'.toTables =
            Model.contract.insert [contract.row (env.cuid 1) tenantId s e vehicle.id]
              (Model.vehicle.insert [vehicle] db.toTables)) := by
  simp [create] at h
  obtain ⟨-, hb,
    ⟨hs, contract, hc, hle, fitness, hf, taxToken, ht, s, hst, e, he, db₁, h₁, h₂, rfl⟩ |
    ⟨hs, fitness, hf, taxToken, ht, rfl, hw⟩⟩ := h
  · refine ⟨hb, fitness, taxToken, hf, ht, rfl, .inr ⟨hs, contract, s, e, hc, hst, he, ?_, ?_⟩⟩
    · simpa [hst, he] using hle
    · rw [h₂, h₁]
  · exact ⟨hb, fitness, taxToken, hf, ht, rfl, .inl ⟨hs, hw⟩⟩

/-- An accepted update is of a live vehicle, and names a live branch. -/
theorem update_ok {dto : UpdateVehicleDto}
    (h : (update tenantId id dto).exec db = .ok (vehicle, db')) :
    LiveVehicle db.toTables tenantId id ∧
      (∀ b, dto.branchId = .value b → b ≠ "" → LiveBranch db.toTables tenantId b) ∧
      ∃ fitness taxToken,
        db'.toTables = Model.vehicle.updateAt id (dto.apply fitness taxToken) db.toTables := by
  simp [update] at h
  obtain ⟨v, hv, -, hb, -, -, -, -, -, -, fitness, -, taxToken, -, hw, -⟩ := h
  exact ⟨⟨v, hv⟩, fun b hb' hne => hb (by rw [hb', Field.defined_value]) b hb' hne, fitness,
    taxToken, hw⟩

/-- So is an accepted removal. -/
theorem remove_ok (h : (remove env tenantId id).exec db = .ok (vehicle, db')) :
    LiveVehicle db.toTables tenantId id ∧
      db'.toTables = Model.vehicle.updateAt id (fun v => { v with deletedAt := some env.now })
        db.toTables := by
  simp [remove] at h
  exact ⟨h.1, h.2.1⟩

end Vehicles

/-! ### Contracts -/

namespace Contracts

/-- Without a `vehicle` payload of type `VEHICLE_SOURCE`. -/
def createFor (env : Env) (tenantId : String) (dto : CreateContractDto) :
    Query (Transaction Contract) := do
  whenSome dto.vehicleId.truthy fun vehicleId => do
    let _ ← findVehicle tenantId vehicleId
  let start ← dto.startDate.valid
  let end' ← dto.endDate.valid
  commit (Prisma.create .contract (dto.row (env.cuid 0) tenantId start end' dto.vehicleId.nullish))

/-- Vehicle and contract in one transaction. -/
def createWith (env : Env) (tenantId : String) (dto : CreateContractDto)
    (vehicleInput : CreateContractVehicleDto) : Query (Transaction Contract) := do
  assertRegistrationUnique vehicleInput.registrationNo
  assertBranchExists tenantId vehicleInput.branchId.nullish
  let start ← dto.startDate.valid
  let end' ← dto.endDate.valid
  commit do
    let vehicle ← Prisma.create .vehicle (vehicleInput.row env tenantId)
    Prisma.create .contract (dto.row (env.cuid 1) tenantId start end' (some vehicle.id))

def create (env : Env) (tenantId : String) (dto : CreateContractDto) :
    Query (Transaction Contract) := do
  throwIf (JsDate.le dto.endDate dto.startDate) endBeforeStart
  throwIf (dto.type = .vehicleSource ∧ dto.vehicleId.truthy = none ∧ dto.vehicle.nullish = none)
    (.badRequest "Provide vehicleId or vehicle for VEHICLE_SOURCE contracts")
  throwIf (dto.vehicleId.truthy ≠ none ∧ dto.vehicle.nullish ≠ none)
    (.badRequest "Provide only one of vehicleId or vehicle, not both")
  match dto.type, dto.vehicle.nullish with
  | .vehicleSource, some vehicleInput => createWith env tenantId dto vehicleInput
  | _, _ => createFor env tenantId dto

def findOwn (tenantId id : String) : Query Contract := do
  orThrow (← findById .contract id fun _ c => c.tenantId = tenantId ∧ c.deletedAt = none)
    (.notFound "Contract not found")

def update (tenantId id : String) (dto : UpdateContractDto) : Query (Transaction Contract) := do
  let contract ← findOwn tenantId id
  let newStart := dto.startDate.nullish.getD (some contract.startDate)
  let newEnd := dto.endDate.nullish.getD (some contract.endDate)
  throwIf (JsDate.le newEnd newStart) endBeforeStart
  whenSome dto.vehicleId.truthy fun vehicleId => do
    let _ ← findVehicle tenantId vehicleId
  dto.type.notNull
  let startDate ← newStart.valid
  let endDate ← newEnd.valid
  dto.amount.notNull
  dto.commission.notNull
  commit (Prisma.update .contract id (dto.apply startDate endDate))

def remove (env : Env) (tenantId id : String) : Query (Transaction Contract) := do
  let _ ← findOwn tenantId id
  commit (Prisma.update .contract id fun c => { c with deletedAt := some env.now })

variable {env : Env} {tenantId id : String} {db db' : Database} {contract : Contract}

/-- A contract may name a live vehicle of the tenant. -/
theorem createFor_ok {dto : CreateContractDto}
    (h : (createFor env tenantId dto).exec db = .ok (contract, db')) :
    (∀ v, dto.vehicleId = .value v → v ≠ "" → LiveVehicle db.toTables tenantId v) ∧
      ∃ s e, dto.startDate = some s ∧ dto.endDate = some e ∧
        contract = dto.row (env.cuid 0) tenantId s e dto.vehicleId.nullish ∧
        db'.toTables = Model.contract.insert [contract] db.toTables := by
  simp [createFor] at h
  obtain ⟨hv, s, hs, e, he, rfl, hw⟩ := h
  exact ⟨hv, s, e, hs, he, rfl, hw⟩

/-- A contract and its vehicle are created together. -/
theorem createWith_ok {dto : CreateContractDto} {vehicleInput : CreateContractVehicleDto}
    (h : (createWith env tenantId dto vehicleInput).exec db = .ok (contract, db')) :
    (∀ b, vehicleInput.branchId = .value b → b ≠ "" → LiveBranch db.toTables tenantId b) ∧
      ∃ s e, dto.startDate = some s ∧ dto.endDate = some e ∧
        contract = dto.row (env.cuid 1) tenantId s e (some (env.cuid 0).val) ∧
        db'.toTables = Model.contract.insert [contract]
          (Model.vehicle.insert [vehicleInput.row env tenantId] db.toTables) := by
  simp [createWith] at h
  obtain ⟨-, hb, s, hs, e, he, db₁, h₁, rfl, h₂⟩ := h
  refine ⟨hb, s, e, hs, he, rfl, ?_⟩
  rw [h₂, h₁]

/-- A contract is created with its vehicle or for an existing one. -/
theorem create_ok {dto : CreateContractDto}
    (h : (create env tenantId dto).exec db = .ok (contract, db')) :
    JsDate.le dto.endDate dto.startDate = false ∧
      (dto.type = .vehicleSource ∧
        (∃ vehicleInput, dto.vehicle = .value vehicleInput ∧
          (createWith env tenantId dto vehicleInput).exec db = .ok (contract, db')) ∨
      (createFor env tenantId dto).exec db = .ok (contract, db')) := by
  simp [create] at h
  obtain ⟨hle, -, -, h⟩ := h
  refine ⟨hle, ?_⟩
  split at h
  · exact .inl ⟨by assumption, _, Field.nullish_eq_some.1 (by assumption), h⟩
  · exact .inr h

/-- A source contract is created with a vehicle or names one. -/
theorem create_names {dto : CreateContractDto}
    (h : (create env tenantId dto).exec db = .ok (contract, db'))
    (htype : contract.type = .vehicleSource) : contract.vehicleId ≠ none := by
  simp [create] at h
  obtain ⟨-, hsource, -, h⟩ := h
  split at h
  · obtain ⟨-, s, e, -, -, hrow, -⟩ := createWith_ok h
    rw [hrow]
    exact nofun
  · rename_i hno
    obtain ⟨-, s, e, -, -, hrow, -⟩ := createFor_ok h
    rw [hrow] at htype ⊢
    intro hnone
    have hvehicle : dto.vehicle.nullish = none := by
      cases hv : dto.vehicle.nullish with
      | none => rfl
      | some vehicleInput => exact (hno vehicleInput htype hv).elim
    have htruthy : dto.vehicleId.truthy = none := by
      rw [Field.truthy, show dto.vehicleId.nullish = none from hnone]
      rfl
    exact hsource htype htruthy hvehicle

/-- An accepted update is of a live contract, and may name another vehicle. -/
theorem update_ok {dto : UpdateContractDto}
    (h : (update tenantId id dto).exec db = .ok (contract, db')) :
    ∃ c ∈ db.contracts, c.id.val = id ∧ c.tenantId = tenantId ∧ c.deletedAt = none ∧
      (∀ v, dto.vehicleId = .value v → v ≠ "" → LiveVehicle db.toTables tenantId v) ∧
      ∃ s e, dto.startDate.nullish.getD (some c.startDate) = some s ∧
        dto.endDate.nullish.getD (some c.endDate) = some e ∧ s < e ∧
        db'.toTables = Model.contract.updateAt id (dto.apply s e) db.toTables := by
  simp [update, findOwn] at h
  obtain ⟨c, ⟨hc, hid, ht, hd⟩, hle, hv, -, s, hs, e, he, -, -, hw, -⟩ := h
  refine ⟨c, hc, hid, ht, hd, hv, s, e, hs, he, ?_, hw⟩
  simpa [hs, he] using hle

/-- So is an accepted removal. -/
theorem remove_ok (h : (remove env tenantId id).exec db = .ok (contract, db')) :
    (∃ c ∈ db.contracts, c.id.val = id ∧ c.tenantId = tenantId ∧ c.deletedAt = none) ∧
      db'.toTables = Model.contract.updateAt id (fun c => { c with deletedAt := some env.now })
        db.toTables := by
  simp [remove, findOwn] at h
  exact ⟨h.1, h.2.1⟩

end Contracts

end NodeVms
