/-
# The record-keeping services

`FuelService`, `MaintenanceService`, `DocumentsService`, `TrackingService` and
`WorkshopService` file records under a live vehicle of the tenant;
`ExpensesService` and `IncomeService` keep the tenant's books.
-/

import Mathlib.Data.List.Induction
import NodeVms.Services.Validator

namespace NodeVms

open Store Script Prisma

variable {env : Env} {tenantId id : String} {db db' : Database}

/-! ### Fuel -/

namespace Fuel

structure CreateFuelLogDto where
  vehicleId : String
  liters : Amount
  cost : Amount
  odometer : Amount
  date : JsDate
  deriving DecidableEq

/-- `orderBy: { odometer: 'desc' }`: the log with the highest reading. -/
def lastLog (logs : List FuelLog) : Option FuelLog :=
  logs.foldl (fun best l =>
    match best with
    | some b => if b.odometer < l.odometer then some l else some b
    | none => some l) none

def odometerTooLow (odometer last : Amount) : Error :=
  .badRequest s!"Odometer reading ({odometer.text}) cannot be less than the last recorded reading ({last.text})"

def addLog (env : Env) (tenantId : String) (dto : CreateFuelLogDto) :
    Query (Transaction FuelLog) := do
  let _ ← findVehicle tenantId dto.vehicleId
  let logs ← findMany .fuelLog fun l =>
    l.vehicleId = dto.vehicleId ∧ l.tenantId = tenantId ∧ l.deletedAt = none
  whenSome (lastLog logs) fun last =>
    throwIf (dto.odometer < last.odometer) (odometerTooLow dto.odometer last.odometer)
  let date ← dto.date.valid
  commit (create .fuelLog
    { id := env.cuid 0, tenantId, vehicleId := dto.vehicleId, liters := dto.liters,
      cost := dto.cost, odometer := dto.odometer, date, deletedAt := none })

/-- Logs have one with the highest reading. -/
theorem exists_lastLog {logs : List FuelLog} {l : FuelLog} (hl : l ∈ logs) :
    ∃ last, lastLog logs = some last ∧ l.odometer ≤ last.odometer := by
  induction logs using List.reverseRecOn with
  | nil => exact absurd hl List.not_mem_nil
  | append_singleton logs o ih =>
    have hfold : lastLog (logs ++ [o]) = match lastLog logs with
        | some b => if b.odometer < o.odometer then some o else some b
        | none => some o := List.foldl_concat ..
    rw [hfold]
    rcases List.mem_append.1 hl with hl | hl
    · obtain ⟨b, hb, hlb⟩ := ih hl
      rw [hb]
      by_cases hbo : b.odometer < o.odometer
      · exact ⟨o, if_pos hbo, hlb.trans hbo.le⟩
      · exact ⟨b, if_neg hbo, hlb⟩
    · obtain rfl := List.mem_singleton.1 hl
      cases lastLog logs with
      | none => exact ⟨l, rfl, le_rfl⟩
      | some b =>
        by_cases hbl : b.odometer < l.odometer
        · exact ⟨l, if_pos hbl, le_rfl⟩
        · exact ⟨b, if_neg hbl, not_lt.1 hbl⟩

/-- An accepted fuel log is of a live vehicle, and its odometer does not go back. -/
theorem addLog_ok {dto : CreateFuelLogDto} {log : FuelLog}
    (h : (addLog env tenantId dto).exec db = .ok (log, db')) :
    LiveVehicle db.toTables tenantId dto.vehicleId ∧
      (∀ last, lastLog (db.fuelLogs.filter fun l =>
        l.vehicleId = dto.vehicleId ∧ l.tenantId = tenantId ∧ l.deletedAt = none) = some last →
          last.odometer ≤ dto.odometer) ∧
      ∃ date, dto.date = some date ∧
        log =
          { id := env.cuid 0, tenantId, vehicleId := dto.vehicleId, liters := dto.liters,
            cost := dto.cost, odometer := dto.odometer, date, deletedAt := none } ∧
        db'.toTables = Model.fuelLog.insert [log] db.toTables := by
  simp [addLog] at h
  obtain ⟨hv, hlast, date, hdate, rfl, hw⟩ := h
  refine ⟨hv, ?_, date, hdate, rfl, hw⟩
  simpa only [Bool.decide_and] using hlast

/-- No live log of the vehicle in the tenant has a higher reading than a new one. -/
theorem le_odometer_of_addLog {dto : CreateFuelLogDto} {log l : FuelLog}
    (h : (addLog env tenantId dto).exec db = .ok (log, db')) (hl : l ∈ db.fuelLogs)
    (hv : l.vehicleId = dto.vehicleId) (hT : l.tenantId = tenantId) (hlive : l.deletedAt = none) :
    l.odometer ≤ dto.odometer := by
  obtain ⟨-, hlast, -⟩ := addLog_ok h
  have hmem : l ∈ db.fuelLogs.filter fun l =>
      l.vehicleId = dto.vehicleId ∧ l.tenantId = tenantId ∧ l.deletedAt = none :=
    List.mem_filter.2 ⟨hl, decide_eq_true ⟨hv, hT, hlive⟩⟩
  obtain ⟨last, hsome, hle⟩ := exists_lastLog hmem
  exact hle.trans (hlast last hsome)

end Fuel

/-! ### Maintenance -/

namespace Maintenance

structure CreateMaintenanceItemDto where
  name : String
  cost : Amount
  deriving DecidableEq

structure CreateMaintenanceLogDto where
  vehicleId : String
  date : JsDate
  note : Field String := .undefined
  totalCost : Field Amount := .undefined
  items : Field (List CreateMaintenanceItemDto) := .undefined
  deriving DecidableEq

/-- The sum of the items if there are any, the supplied total otherwise; a
`null` total reaches the client, which refuses it. -/
def totalCost (items : List CreateMaintenanceItemDto) (total : Field Amount) : Query Amount :=
  if items ≠ [] then pure (items.foldl (fun sum item => sum + item.cost) 0)
  else match total with
    | .value c => pure c
    | .null => .throw .invalidArgument
    | .undefined =>
      .throw (.badRequest "Provide either totalCost (simple) or items[] (breakdown)")

/-- The item rows of a new log. -/
def itemRows (env : Env) (maintenanceId : String) (items : List CreateMaintenanceItemDto) :
    List MaintenanceItem :=
  items.mapIdx fun i item =>
    { id := env.cuid (i + 1), maintenanceId, name := item.name, cost := item.cost }

def create (env : Env) (tenantId : String) (dto : CreateMaintenanceLogDto) :
    Query (Transaction MaintenanceLog) := do
  let _ ← findVehicle tenantId dto.vehicleId
  let items := dto.items.nullish.getD []
  let totalCost ← totalCost items dto.totalCost
  let date ← dto.date.valid
  commit do
    let log ← Prisma.create .maintenanceLog
      { id := env.cuid 0, tenantId, vehicleId := dto.vehicleId, totalCost,
        note := dto.note.nullish, date, deletedAt := none }
    Tx.when (items.length > 0)
      (createMany .maintenanceItem (itemRows env log.id items))
    pure log

/-- Without items the insert does nothing. -/
theorem insert_itemRows_nil {maintenanceId : String} {items : List CreateMaintenanceItemDto}
    (h : items = []) (t : Tables) :
    Model.maintenanceItem.insert (itemRows env maintenanceId items) t = t := by
  rw [h, Model.insert, show itemRows env maintenanceId [] = [] from rfl, List.append_nil]
  rfl

/-- An accepted maintenance log is of a live vehicle, with its items and their total. -/
theorem create_ok {dto : CreateMaintenanceLogDto} {log : MaintenanceLog}
    (h : (create env tenantId dto).exec db = .ok (log, db')) :
    LiveVehicle db.toTables tenantId dto.vehicleId ∧
      ∃ total date,
        (totalCost (dto.items.nullish.getD []) dto.totalCost).eval db = .ok total ∧
        dto.date = some date ∧
        log =
          { id := env.cuid 0, tenantId, vehicleId := dto.vehicleId, totalCost := total,
            note := dto.note.nullish, date, deletedAt := none } ∧
        db'.toTables =
          Model.maintenanceItem.insert (itemRows env log.id (dto.items.nullish.getD []))
            (Model.maintenanceLog.insert [log] db.toTables) := by
  simp [create] at h
  obtain ⟨hv, total, htotal, date, hdate, db₁, h₁, hw, rfl⟩ := h
  refine ⟨hv, total, date, htotal, hdate, rfl, ?_⟩
  rcases hw with ⟨-, hw⟩ | ⟨hnil, rfl⟩
  · rw [hw, h₁]
  · rw [insert_itemRows_nil hnil, h₁]

end Maintenance

/-! ### Documents -/

namespace Documents

/-- `documentNo` and `notes` of the body are not stored. -/
structure CreateDocumentDto where
  vehicleId : String
  type : String
  expiryDate : JsDate
  deriving DecidableEq

def create (env : Env) (tenantId : String) (dto : CreateDocumentDto) :
    Query (Transaction Document) := do
  let _ ← findVehicle tenantId dto.vehicleId
  let expiryDate ← dto.expiryDate.valid
  commit (Prisma.create .document
    { id := env.cuid 0, tenantId, vehicleId := dto.vehicleId, type := dto.type, expiryDate,
      deletedAt := none })

/-- An accepted document is of a live vehicle, with a valid expiry date. -/
theorem create_ok {dto : CreateDocumentDto} {document : Document}
    (h : (create env tenantId dto).exec db = .ok (document, db')) :
    LiveVehicle db.toTables tenantId dto.vehicleId ∧
      ∃ expiryDate, dto.expiryDate = some expiryDate ∧
        document =
          { id := env.cuid 0, tenantId, vehicleId := dto.vehicleId, type := dto.type, expiryDate,
            deletedAt := none } ∧
        db'.toTables = Model.document.insert [document] db.toTables := by
  simp [create] at h
  obtain ⟨hv, expiryDate, he, rfl, hw⟩ := h
  exact ⟨hv, expiryDate, he, rfl, hw⟩

end Documents

/-! ### Tracking -/

namespace Tracking

structure SaveLocationDto where
  vehicleId : String
  lat : Amount
  lng : Amount
  speed : Field Amount := .undefined
  deriving DecidableEq

/-- `limited` is the answer of the rate-limit flag in Redis.  The cache entry
and the socket event that follow the insert are not part of the database. -/
def saveLocation (env : Env) (tenantId : String) (limited : Bool) (dto : SaveLocationDto) :
    Query (Transaction GpsLocation) := do
  throwIf (limited = true)
    (.tooManyRequests "Rate limit: max 1 GPS update per vehicle per 5 seconds")
  let _ ← findVehicle tenantId dto.vehicleId
  commit (create .gpsLocation
    { id := env.cuid 0, tenantId, vehicleId := dto.vehicleId, lat := dto.lat, lng := dto.lng,
      speed := dto.speed.nullish.getD 0, timestamp := env.now })

/-- A position is saved for a live vehicle, where the limit admits it. -/
theorem saveLocation_ok {limited : Bool} {dto : SaveLocationDto} {location : GpsLocation}
    (h : (saveLocation env tenantId limited dto).exec db = .ok (location, db')) :
    limited = false ∧ LiveVehicle db.toTables tenantId dto.vehicleId ∧
      location =
        { id := env.cuid 0, tenantId, vehicleId := dto.vehicleId, lat := dto.lat, lng := dto.lng,
          speed := dto.speed.nullish.getD 0, timestamp := env.now } ∧
      db'.toTables = Model.gpsLocation.insert [location] db.toTables := by
  simp [saveLocation] at h
  obtain ⟨hl, hv, rfl, hw⟩ := h
  exact ⟨hl, hv, rfl, hw⟩

end Tracking

/-! ### Workshop -/

namespace Workshop

structure CreateWorkshopJobDto where
  vehicleId : String
  issue : String
  deriving DecidableEq

structure AddWorkshopItemDto where
  name : String
  cost : Amount
  deriving DecidableEq

def createJob (env : Env) (tenantId : String) (dto : CreateWorkshopJobDto) :
    Query (Transaction WorkshopJob) := do
  let _ ← findVehicle tenantId dto.vehicleId
  commit (create .workshopJob
    { id := env.cuid 0, tenantId, branchId := none, vehicleId := dto.vehicleId,
      issue := dto.issue, status := .open, totalCost := 0, deletedAt := none })

def findOwn (tenantId id : String) : Query WorkshopJob := do
  orThrow (← findById .workshopJob id fun _ j => j.tenantId = tenantId ∧ j.deletedAt = none)
    (.notFound "Workshop job not found")

def addItem (env : Env) (tenantId jobId : String) (dto : AddWorkshopItemDto) :
    Query (Transaction WorkshopJob) := do
  let job ← findOwn tenantId jobId
  throwIf (job.status = .completed) (.badRequest "Cannot add items to a completed job")
  commit do
    let _ ← create .workshopItem
      { id := env.cuid 0, jobId, name := dto.name, cost := dto.cost }
    update .workshopJob jobId fun j => { j with totalCost := j.totalCost + dto.cost }

def updateStatus (tenantId jobId : String) (status : WorkshopJobStatus) :
    Query (Transaction WorkshopJob) := do
  let _ ← findOwn tenantId jobId
  commit (update .workshopJob jobId fun j => { j with status })

variable {job : WorkshopJob}

/-- An accepted job is of a live vehicle. -/
theorem createJob_ok {dto : CreateWorkshopJobDto}
    (h : (createJob env tenantId dto).exec db = .ok (job, db')) :
    LiveVehicle db.toTables tenantId dto.vehicleId ∧
      job =
        { id := env.cuid 0, tenantId, branchId := none, vehicleId := dto.vehicleId,
          issue := dto.issue, status := .open, totalCost := 0, deletedAt := none } ∧
      db'.toTables = Model.workshopJob.insert [job] db.toTables := by
  simp [createJob] at h
  obtain ⟨hv, rfl, hw⟩ := h
  exact ⟨hv, rfl, hw⟩

/-- An item is added to a job that is not completed, and to its cost. -/
theorem addItem_ok {dto : AddWorkshopItemDto}
    (h : (addItem env tenantId id dto).exec db = .ok (job, db')) :
    ∃ j ∈ db.workshopJobs, j.id.val = id ∧ j.tenantId = tenantId ∧ j.deletedAt = none ∧
      j.status ≠ .completed ∧
      db'.toTables =
        Model.workshopJob.updateAt id (fun j => { j with totalCost := j.totalCost + dto.cost })
          (Model.workshopItem.insert
            [{ id := env.cuid 0, jobId := id, name := dto.name, cost := dto.cost }]
              db.toTables) := by
  simp [addItem, findOwn] at h
  obtain ⟨j, ⟨hj, hid, ht, hd⟩, hs, db₁, h₁, h₂, -⟩ := h
  exact ⟨j, hj, hid, ht, hd, hs, by rw [h₂, h₁]⟩

/-- The status of any job of the tenant is written. -/
theorem updateStatus_ok {status : WorkshopJobStatus}
    (h : (updateStatus tenantId id status).exec db = .ok (job, db')) :
    (∃ j ∈ db.workshopJobs, j.id.val = id ∧ j.tenantId = tenantId ∧ j.deletedAt = none) ∧
      db'.toTables = Model.workshopJob.updateAt id (fun j => { j with status }) db.toTables := by
  simp [updateStatus, findOwn] at h
  exact ⟨h.1, h.2.1⟩

end Workshop

/-! ### Expenses and income -/

namespace Expenses

structure CreateExpenseDto where
  type : String
  amount : Amount
  note : Field String := .undefined
  deriving DecidableEq

def create (env : Env) (tenantId : String) (dto : CreateExpenseDto) :
    Query (Transaction Expense) :=
  commit (Prisma.create .expense
    { id := env.cuid 0, tenantId, type := dto.type, amount := dto.amount,
      note := dto.note.nullish, createdAt := env.now, deletedAt := none })

/-- An accepted expense is written as it was asked for. -/
theorem create_ok {dto : CreateExpenseDto} {expense : Expense}
    (h : (create env tenantId dto).exec db = .ok (expense, db')) :
    expense =
        { id := env.cuid 0, tenantId, type := dto.type, amount := dto.amount,
          note := dto.note.nullish, createdAt := env.now, deletedAt := none } ∧
      db'.toTables = Model.expense.insert [expense] db.toTables := by
  simp [create] at h
  obtain ⟨rfl, hw⟩ := h
  exact ⟨rfl, hw⟩

end Expenses

namespace Income

structure CreateIncomeDto where
  source : String
  amount : Amount
  deriving DecidableEq

structure UpdateIncomeDto where
  source : Field String := .undefined
  amount : Field Amount := .undefined
  deriving DecidableEq

def create (env : Env) (tenantId : String) (dto : CreateIncomeDto) :
    Query (Transaction NodeVms.Income) :=
  commit (Prisma.create .income
    { id := env.cuid 0, tenantId, source := dto.source, amount := dto.amount,
      createdAt := env.now, deletedAt := none })

def findOwn (tenantId id : String) : Query NodeVms.Income := do
  orThrow (← findById .income id fun _ i => i.tenantId = tenantId ∧ i.deletedAt = none)
    (.notFound "Income record not found")

def update (tenantId id : String) (dto : UpdateIncomeDto) :
    Query (Transaction NodeVms.Income) := do
  let _ ← findOwn tenantId id
  dto.source.notNull
  dto.amount.notNull
  commit (Prisma.update .income id fun i =>
    { i with source := dto.source.set i.source, amount := dto.amount.set i.amount })

def remove (env : Env) (tenantId id : String) : Query (Transaction NodeVms.Income) := do
  let _ ← findOwn tenantId id
  commit (Prisma.update .income id fun i => { i with deletedAt := some env.now })

variable {income : NodeVms.Income}

/-- An accepted income is written as it was asked for. -/
theorem create_ok {dto : CreateIncomeDto}
    (h : (create env tenantId dto).exec db = .ok (income, db')) :
    income =
        { id := env.cuid 0, tenantId, source := dto.source, amount := dto.amount,
          createdAt := env.now, deletedAt := none } ∧
      db'.toTables = Model.income.insert [income] db.toTables := by
  simp [create] at h
  obtain ⟨rfl, hw⟩ := h
  exact ⟨rfl, hw⟩

/-- An accepted update is of a live income of the tenant. -/
theorem update_ok {dto : UpdateIncomeDto}
    (h : (update tenantId id dto).exec db = .ok (income, db')) :
    (∃ i ∈ db.incomes, i.id.val = id ∧ i.tenantId = tenantId ∧ i.deletedAt = none) ∧
      db'.toTables = Model.income.updateAt id (fun i =>
        { i with source := dto.source.set i.source, amount := dto.amount.set i.amount })
        db.toTables := by
  simp [update, findOwn] at h
  exact ⟨h.1, h.2.2.2.1⟩

/-- So is an accepted removal. -/
theorem remove_ok (h : (remove env tenantId id).exec db = .ok (income, db')) :
    (∃ i ∈ db.incomes, i.id.val = id ∧ i.tenantId = tenantId ∧ i.deletedAt = none) ∧
      db'.toTables = Model.income.updateAt id (fun i => { i with deletedAt := some env.now })
        db.toTables := by
  simp [remove, findOwn] at h
  exact ⟨h.1, h.2.1⟩

end Income

end NodeVms
