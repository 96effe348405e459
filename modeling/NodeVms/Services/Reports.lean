/-
# `AccountingService` and `ReportsService`

The reads behind `/accounting/profit-loss` and `/reports`.  An aggregate is
taken of the list of the rows it ranges over; the concurrent queries of one
report are answered from one state.  Where PostgreSQL leaves an order open, or
takes it from the collation of the database, `collate` stands for the choice.
-/

import Mathlib.Data.List.Sort
import NodeVms.Request
import NodeVms.Store.Sums

namespace NodeVms

open Store Script Prisma

/-- A filter on a date column. -/
structure DateTimeFilter where
  gte : Option Time
  lte : Option Time
  deriving DecidableEq

/-- `where: { column: filter }`; without a filter every row passes. -/
def admits (filter : Option DateTimeFilter) (t : Time) : Prop :=
  ∀ f ∈ filter, (∀ gte ∈ f.gte, gte ≤ t) ∧ ∀ lte ∈ f.lte, t ≤ lte

instance (filter : Option DateTimeFilter) (t : Time) : Decidable (admits filter t) := by
  unfold admits; infer_instance

/-! ### Profit and loss -/

namespace Accounting

structure ProfitLossQueryDto where
  startDate : Field JsDate := .undefined
  endDate : Field JsDate := .undefined
  deriving DecidableEq

structure Breakdown where
  incomeFromRecords : Amount
  incomeFromTrips : Amount
  expenseFromRecords : Amount
  fuelCosts : Amount
  maintenanceCosts : Amount
  tripTollCosts : Amount
  tripPoliceCosts : Amount
  deriving DecidableEq

structure Period where
  startDate : Option String
  endDate : Option String
  deriving DecidableEq

structure ProfitLoss where
  totalIncome : Amount
  totalExpenses : Amount
  profit : Amount
  breakdown : Breakdown
  period : Period
  deriving DecidableEq

def dateRange (gte lte : Option Time) : DateTimeFilter := { gte, lte }

/-- `startDate || endDate ? { column: dateRange(startDate, endDate) } : …`, the same for
each of the five tables. -/
def columnFilter (startDate endDate : Option Time) : Option DateTimeFilter :=
  if startDate.isSome ∨ endDate.isSome then some (dateRange startDate endDate) else none

def getProfitLoss (tenantId : String) (query : ProfitLossQueryDto) : Query ProfitLoss := do
  let startDate ← JsDate.validOpt query.startDate.nullish
  let endDate ← JsDate.validOpt query.endDate.nullish
  let filter := columnFilter startDate endDate
  let incomes ← findMany .income fun i =>
    i.tenantId = tenantId ∧ i.deletedAt = none ∧ admits filter i.createdAt
  let trips ← findMany .trip fun t =>
    t.tenantId = tenantId ∧ t.deletedAt = none ∧ admits filter t.startTime
  let expenses ← findMany .expense fun e =>
    e.tenantId = tenantId ∧ e.deletedAt = none ∧ admits filter e.createdAt
  let fuelLogs ← findMany .fuelLog fun l =>
    l.tenantId = tenantId ∧ l.deletedAt = none ∧ admits filter l.date
  let maintenanceLogs ← findMany .maintenanceLog fun l =>
    l.tenantId = tenantId ∧ l.deletedAt = none ∧ admits filter l.date
  let incomeFromRecords := (sum? Income.amount incomes).getD 0
  let incomeFromTrips := (sum? Trip.income trips).getD 0
  let totalIncome := incomeFromRecords + incomeFromTrips
  let expenseFromRecords := (sum? Expense.amount expenses).getD 0
  let fuelCosts := (sum? FuelLog.cost fuelLogs).getD 0
  let maintenanceCosts := (sum? MaintenanceLog.totalCost maintenanceLogs).getD 0
  let tripTollCosts := (sum? Trip.tollCost trips).getD 0
  let tripPoliceCosts := (sum? Trip.policeCost trips).getD 0
  let totalExpenses :=
    expenseFromRecords + fuelCosts + maintenanceCosts + tripTollCosts + tripPoliceCosts
  pure
    { totalIncome, totalExpenses, profit := totalIncome - totalExpenses,
      breakdown :=
        { incomeFromRecords, incomeFromTrips, expenseFromRecords, fuelCosts, maintenanceCosts,
          tripTollCosts, tripPoliceCosts },
      period :=
        { startDate := startDate.map Time.toISOString, endDate := endDate.map Time.toISOString } }

end Accounting

/-! ### Reports -/

namespace Reports

structure ReportQueryDto where
  vehicleId : Field String := .undefined
  startDate : Field JsDate := .undefined
  endDate : Field JsDate := .undefined
  deriving DecidableEq

def dateRange (start stop : Option Time) : Option DateTimeFilter :=
  if start = none ∧ stop = none then none else some { gte := start, lte := stop }

/-- `orderBy: { _sum: { column: 'desc' } }`; groups with one sum stay in the order they have. -/
def orderBySumDesc {κ α : Type} (column : α → Amount) (groups : List (Group κ α)) :
    List (Group κ α) :=
  groups.insertionSort fun g h => (h.rows.map column).sum ≤ (g.rows.map column).sum

/-- `vehicleMap.get(id)?.col ?? 'Unknown'`, the map being keyed by the id. -/
def lookup (vehicles : List Vehicle) (col : Vehicle → String) (id : String) : String :=
  ((vehicles.find? fun v => v.id.val = id).map col).getD "Unknown"

structure MileageRow where
  vehicleId : String
  registrationNo : String
  model : String
  tripCount : Nat
  totalDistance : Amount
  deriving DecidableEq

def mileageRow (vehicles : List Vehicle) (g : Group String Trip) : MileageRow :=
  { vehicleId := g.key, registrationNo := lookup vehicles Vehicle.registrationNo g.key,
    model := lookup vehicles Vehicle.model g.key, tripCount := g.rows.length,
    totalDistance := (sum? Trip.distance g.rows).getD 0 }

def getMileageReport (tenantId : String) (query : ReportQueryDto) : Query (List MileageRow) := do
  let startDate ← JsDate.validOpt query.startDate.nullish
  let endDate ← JsDate.validOpt query.endDate.nullish
  let tripTimeRange := dateRange startDate endDate
  let trips ← findMany .trip fun t =>
    t.tenantId = tenantId ∧ t.deletedAt = none ∧
      (∀ id ∈ query.vehicleId.truthy, t.vehicleId = id) ∧ admits tripTimeRange t.startTime
  let tripGroups := orderBySumDesc Trip.distance (groupBy Trip.vehicleId trips)
  if tripGroups.length = 0 then pure []
  else do
    let vehicleIds := tripGroups.map Group.key
    let vehicles ← findMany .vehicle fun v =>
      v.id.val ∈ vehicleIds ∧ v.tenantId = tenantId ∧ v.deletedAt = none
    pure (tripGroups.map (mileageRow vehicles))

structure FuelRow where
  vehicleId : String
  registrationNo : String
  model : String
  fillupCount : Nat
  totalLiters : Amount
  totalCost : Amount
  deriving DecidableEq

def fuelRow (vehicles : List Vehicle) (g : Group String FuelLog) : FuelRow :=
  { vehicleId := g.key, registrationNo := lookup vehicles Vehicle.registrationNo g.key,
    model := lookup vehicles Vehicle.model g.key, fillupCount := g.rows.length,
    totalLiters := (sum? FuelLog.liters g.rows).getD 0,
    totalCost := (sum? FuelLog.cost g.rows).getD 0 }

def getFuelReport (tenantId : String) (query : ReportQueryDto) : Query (List FuelRow) := do
  let startDate ← JsDate.validOpt query.startDate.nullish
  let endDate ← JsDate.validOpt query.endDate.nullish
  let fuelDateRange := dateRange startDate endDate
  let fuelLogs ← findMany .fuelLog fun l =>
    l.tenantId = tenantId ∧ l.deletedAt = none ∧
      (∀ id ∈ query.vehicleId.truthy, l.vehicleId = id) ∧ admits fuelDateRange l.date
  let fuelGroups := orderBySumDesc FuelLog.cost (groupBy FuelLog.vehicleId fuelLogs)
  if fuelGroups.length = 0 then pure []
  else do
    let vehicleIds := fuelGroups.map Group.key
    let vehicles ← findMany .vehicle fun v =>
      v.id.val ∈ vehicleIds ∧ v.tenantId = tenantId ∧ v.deletedAt = none
    pure (fuelGroups.map (fuelRow vehicles))

/-- Delegates to `AccountingService`. -/
def getProfitLossReport (tenantId : String) (query : ReportQueryDto) :
    Query Accounting.ProfitLoss :=
  Accounting.getProfitLoss tenantId { startDate := query.startDate, endDate := query.endDate }

structure TripUsage where
  count : Nat
  totalDistance : Amount
  totalIncome : Amount
  deriving DecidableEq

structure FuelUsage where
  fillups : Nat
  totalLiters : Amount
  totalCost : Amount
  deriving DecidableEq

structure MaintenanceUsage where
  count : Nat
  totalCost : Amount
  deriving DecidableEq

structure UsageRow where
  vehicleId : String
  registrationNo : String
  model : String
  status : VehicleStatus
  sourceType : VehicleSourceType
  trips : TripUsage
  fuel : FuelUsage
  maintenance : MaintenanceUsage
  deriving DecidableEq

/-- One row of the report, from the groups of the three tables. -/
def usageRow (tripGroups : List (Group String Trip)) (fuelGroups : List (Group String FuelLog))
    (maintGroups : List (Group String MaintenanceLog)) (vehicle : Vehicle) : UsageRow :=
  let trips := tripGroups.find? fun g => g.key = vehicle.id.val
  let fuel := fuelGroups.find? fun g => g.key = vehicle.id.val
  let maint := maintGroups.find? fun g => g.key = vehicle.id.val
  { vehicleId := vehicle.id, registrationNo := vehicle.registrationNo, model := vehicle.model,
    status := vehicle.status, sourceType := vehicle.sourceType,
    trips :=
      { count := (trips.map fun g => g.rows.length).getD 0,
        totalDistance := (trips.bind fun g => sum? Trip.distance g.rows).getD 0,
        totalIncome := (trips.bind fun g => sum? Trip.income g.rows).getD 0 },
    fuel :=
      { fillups := (fuel.map fun g => g.rows.length).getD 0,
        totalLiters := (fuel.bind fun g => sum? FuelLog.liters g.rows).getD 0,
        totalCost := (fuel.bind fun g => sum? FuelLog.cost g.rows).getD 0 },
    maintenance :=
      { count := (maint.map fun g => g.rows.length).getD 0,
        totalCost := (maint.bind fun g => sum? MaintenanceLog.totalCost g.rows).getD 0 } }

/-- `collate` orders registration numbers as the collation of the database does. -/
def getVehicleUsageReport (collate : String → String → Bool) (tenantId : String)
    (query : ReportQueryDto) : Query (List UsageRow) := do
  let startDate ← JsDate.validOpt query.startDate.nullish
  let endDate ← JsDate.validOpt query.endDate.nullish
  let tripTimeRange := dateRange startDate endDate
  let fuelDateRange := dateRange startDate endDate
  let maintDateRange := dateRange startDate endDate
  let vehicles ← findMany .vehicle fun v =>
    v.tenantId = tenantId ∧ v.deletedAt = none ∧ ∀ id ∈ query.vehicleId.truthy, v.id.val = id
  let trips ← findMany .trip fun t =>
    t.tenantId = tenantId ∧ t.deletedAt = none ∧
      (∀ id ∈ query.vehicleId.truthy, t.vehicleId = id) ∧ admits tripTimeRange t.startTime
  let fuelLogs ← findMany .fuelLog fun l =>
    l.tenantId = tenantId ∧ l.deletedAt = none ∧
      (∀ id ∈ query.vehicleId.truthy, l.vehicleId = id) ∧ admits fuelDateRange l.date
  let maintenanceLogs ← findMany .maintenanceLog fun l =>
    l.tenantId = tenantId ∧ l.deletedAt = none ∧
      (∀ id ∈ query.vehicleId.truthy, l.vehicleId = id) ∧ admits maintDateRange l.date
  let tripGroups := groupBy Trip.vehicleId trips
  let fuelGroups := groupBy FuelLog.vehicleId fuelLogs
  let maintGroups := groupBy MaintenanceLog.vehicleId maintenanceLogs
  pure ((vehicles.insertionSort fun v w => collate v.registrationNo w.registrationNo).map
    (usageRow tripGroups fuelGroups maintGroups))

end Reports

end NodeVms
