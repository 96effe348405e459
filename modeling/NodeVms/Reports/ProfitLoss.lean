/-
# Profit and loss over time

Each figure of the profit and loss report is a sum over the live records of the
tenant in one of five tables, each dated by a column of its own.  A `Book` is
such a table; its totals are additive over consecutive spans of time, and so is
everything the report computes from them (`profitLoss_additive`).
-/

import Mathlib.Data.Int.SuccPred
import NodeVms.Services.Reports
import NodeVms.System

namespace NodeVms

open Store Script Prisma

/-! ### Books -/

/-- A table of the dated records of the tenants. -/
structure Book (α : Type) where
  model : Model α
  tenantId : α → String
  deletedAt : α → Option Time
  moment : α → Time

namespace Book

def incomes : Book NodeVms.Income := ⟨.income, Income.tenantId, Income.deletedAt, Income.createdAt⟩
def trips : Book Trip := ⟨.trip, Trip.tenantId, Trip.deletedAt, Trip.startTime⟩
def expenses : Book Expense := ⟨.expense, Expense.tenantId, Expense.deletedAt, Expense.createdAt⟩
def fuelLogs : Book FuelLog := ⟨.fuelLog, FuelLog.tenantId, FuelLog.deletedAt, FuelLog.date⟩
def maintenanceLogs : Book MaintenanceLog :=
  ⟨.maintenanceLog, MaintenanceLog.tenantId, MaintenanceLog.deletedAt, MaintenanceLog.date⟩

variable {α : Type} (book : Book α) (tenantId : String) (t : Tables)

/-- The record counts for the tenant in the span. -/
def Counts (s : Span Time) (r : α) : Prop :=
  book.tenantId r = tenantId ∧ book.deletedAt r = none ∧ s.Contains (book.moment r)

instance (s : Span Time) (r : α) : Decidable (book.Counts tenantId s r) := by
  unfold Counts; infer_instance

/-- The live records of a tenant in a span of time. -/
def entries (s : Span Time) : List α := (book.model.rows t).filter (book.Counts tenantId s)

/-- What they amount to. -/
def total (column : α → Amount) (s : Span Time) : Amount :=
  ((book.entries tenantId t s).map column).sum

/-- Every record is counted once, also at the cuts. -/
theorem additive_total (column : α → Amount) : Span.Additive (book.total tenantId t column) := by
  have hsplit : ∀ s : Span Time, book.entries tenantId t s =
      ((book.model.rows t).filter fun r => book.tenantId r = tenantId ∧
        book.deletedAt r = none).filter fun r => s.Contains (book.moment r) := by
    intro s
    rw [List.filter_filter]
    refine List.filter_congr fun r _ => ?_
    rw [← Bool.decide_and, decide_eq_decide, Counts]
    tauto
  have htotal : book.total tenantId t column = fun s =>
      ((((book.model.rows t).filter fun r => book.tenantId r = tenantId ∧
        book.deletedAt r = none).filter fun r => s.Contains (book.moment r)).map column).sum := by
    funext s
    rw [total, hsplit]
  rw [htotal]
  exact Span.additive_sum book.moment column _

end Book

/-! ### The report -/

/-- An optional bound of a query asks for an end of a span: left out or `null`
if the span is open there, a valid date otherwise. -/
def Field.Bounds (f : Field JsDate) (stop : Option Time) : Prop := f.nullish = stop.map some

def Sample.fuelLog (tag tenantId vehicleId : String) (cost : Amount) (date : Time) : Request :=
  .tenant (.sample tag 0) tenantId
    (.fuel { vehicleId, liters := 1, cost, odometer := 0, date := some date })

/-- The small company after its two vehicles were filled up, on the first and on the second day. -/
def Sample.refuelled : Database :=
  run step (company ++ [fuelLog "f" "t0" "v0" 10 0, fuelLog "g" "t0" "w0" 20 86400000])
    Database.empty

/-- The query asks for the records of the span. -/
structure Reports.ReportQueryDto.Asks (q : Reports.ReportQueryDto) (s : Span Time) : Prop where
  start : q.startDate.Bounds s.start
  stop : q.endDate.Bounds s.stop

namespace Accounting

/-- The same of a query of the accounts. -/
structure ProfitLossQueryDto.Asks (q : ProfitLossQueryDto) (s : Span Time) : Prop where
  start : q.startDate.Bounds s.start
  stop : q.endDate.Bounds s.stop

/-- The filter on a date column admits the dates of the span. -/
theorem admits_columnFilter (s : Span Time) (t : Time) :
    admits (columnFilter s.start s.stop) t ↔ s.Contains t := by
  obtain ⟨start, stop⟩ := s
  cases start <;> cases stop <;> simp [admits, columnFilter, dateRange, Span.Contains]

/-- The report as sums over the books. -/
def profitLoss (tenantId : String) (t : Tables) (s : Span Time) : ProfitLoss :=
  let incomeFromRecords := Book.incomes.total tenantId t Income.amount s
  let incomeFromTrips := Book.trips.total tenantId t Trip.income s
  let expenseFromRecords := Book.expenses.total tenantId t Expense.amount s
  let fuelCosts := Book.fuelLogs.total tenantId t FuelLog.cost s
  let maintenanceCosts := Book.maintenanceLogs.total tenantId t MaintenanceLog.totalCost s
  let tripTollCosts := Book.trips.total tenantId t Trip.tollCost s
  let tripPoliceCosts := Book.trips.total tenantId t Trip.policeCost s
  let totalIncome := incomeFromRecords + incomeFromTrips
  let totalExpenses :=
    expenseFromRecords + fuelCosts + maintenanceCosts + tripTollCosts + tripPoliceCosts
  { totalIncome, totalExpenses, profit := totalIncome - totalExpenses,
    breakdown :=
      { incomeFromRecords, incomeFromTrips, expenseFromRecords, fuelCosts, maintenanceCosts,
        tripTollCosts, tripPoliceCosts },
    period :=
      { startDate := s.start.map Time.toISOString, endDate := s.stop.map Time.toISOString } }

/-- The service answers with the figures of the books. -/
theorem eval_getProfitLoss {tenantId : String} {q : ProfitLossQueryDto} {s : Span Time}
    (hq : q.Asks s) (db : Database) :
    (getProfitLoss tenantId q).eval db = .ok (profitLoss tenantId db.toTables s) := by
  simp only [getProfitLoss, eval_bind_eq_ok, JsDate.eval_validOpt_eq_ok]
  refine ⟨s.start, hq.start, s.stop, hq.stop, _, eval_findMany, _, eval_findMany, _,
    eval_findMany, _, eval_findMany, _, eval_findMany, ?_⟩
  simp only [admits_columnFilter, getD_sum?]
  rfl

/-- `/reports/profit-loss` answers the same. -/
theorem eval_getProfitLossReport {tenantId : String} {q : Reports.ReportQueryDto} {s : Span Time}
    (hq : q.Asks s) (db : Database) :
    (Reports.getProfitLossReport tenantId q).eval db = .ok (profitLoss tenantId db.toTables s) :=
  eval_getProfitLoss ⟨hq.start, hq.stop⟩ db

/-- The totals are the sums of their breakdown entries, and the profit is their difference. -/
structure ProfitLoss.Balanced (pl : ProfitLoss) : Prop where
  totalIncome : pl.totalIncome = pl.breakdown.incomeFromRecords + pl.breakdown.incomeFromTrips
  totalExpenses : pl.totalExpenses =
    pl.breakdown.expenseFromRecords + pl.breakdown.fuelCosts + pl.breakdown.maintenanceCosts +
      pl.breakdown.tripTollCosts + pl.breakdown.tripPoliceCosts
  profit : pl.profit = pl.totalIncome - pl.totalExpenses

/-- Every figure of `pl` is the sum of the same figure of `pls`. -/
structure ProfitLoss.IsSum (pl : ProfitLoss) (pls : List ProfitLoss) : Prop where
  totalIncome : pl.totalIncome = (pls.map fun p => p.totalIncome).sum
  totalExpenses : pl.totalExpenses = (pls.map fun p => p.totalExpenses).sum
  profit : pl.profit = (pls.map fun p => p.profit).sum
  incomeFromRecords :
    pl.breakdown.incomeFromRecords = (pls.map fun p => p.breakdown.incomeFromRecords).sum
  incomeFromTrips :
    pl.breakdown.incomeFromTrips = (pls.map fun p => p.breakdown.incomeFromTrips).sum
  expenseFromRecords :
    pl.breakdown.expenseFromRecords = (pls.map fun p => p.breakdown.expenseFromRecords).sum
  fuelCosts : pl.breakdown.fuelCosts = (pls.map fun p => p.breakdown.fuelCosts).sum
  maintenanceCosts :
    pl.breakdown.maintenanceCosts = (pls.map fun p => p.breakdown.maintenanceCosts).sum
  tripTollCosts : pl.breakdown.tripTollCosts = (pls.map fun p => p.breakdown.tripTollCosts).sum
  tripPoliceCosts :
    pl.breakdown.tripPoliceCosts = (pls.map fun p => p.breakdown.tripPoliceCosts).sum

section Additive

variable (tenantId : String) (t : Tables)

/-- Its totals are the sums of its parts. -/
theorem balanced_profitLoss (s : Span Time) : (profitLoss tenantId t s).Balanced :=
  ⟨rfl, rfl, rfl⟩

/-- The total income is additive over spans. -/
theorem additive_totalIncome : Span.Additive fun s => (profitLoss tenantId t s).totalIncome :=
  (Book.incomes.additive_total tenantId t Income.amount).add
    (Book.trips.additive_total tenantId t Trip.income)

/-- So are the total expenses. -/
theorem additive_totalExpenses : Span.Additive fun s => (profitLoss tenantId t s).totalExpenses :=
  ((((Book.expenses.additive_total tenantId t Expense.amount).add
    (Book.fuelLogs.additive_total tenantId t FuelLog.cost)).add
    (Book.maintenanceLogs.additive_total tenantId t MaintenanceLog.totalCost)).add
    (Book.trips.additive_total tenantId t Trip.tollCost)).add
    (Book.trips.additive_total tenantId t Trip.policeCost)

/-- So is the profit. -/
theorem additive_profit : Span.Additive fun s => (profitLoss tenantId t s).profit :=
  (additive_totalIncome tenantId t).sub (additive_totalExpenses tenantId t)

end Additive

/-- **Profit and loss is additive over time.**  Every figure of the report on a stretch of time
is the sum of that figure over consecutive ranges of it, and every report is balanced. -/
theorem profitLoss_additive (db : Database) (tenantId : String) {ranges : List (Span Time)}
    {first last : Span Time} (h : Span.Consecutive ranges) (hfirst : first ∈ ranges.head?)
    (hlast : last ∈ ranges.getLast?) :
    ∃ pl : Span Time → ProfitLoss,
      (∀ s q, q.Asks s → (getProfitLoss tenantId q).eval db = .ok (pl s)) ∧
      (∀ s q, q.Asks s → (Reports.getProfitLossReport tenantId q).eval db = .ok (pl s)) ∧
      (∀ s, (pl s).Balanced) ∧ (pl (first.upTo last)).IsSum (ranges.map pl) := by
  have hadd : ∀ F : Span Time → Amount, Span.Additive F →
      F (first.upTo last) = (ranges.map F).sum := fun F hF => hF.sum_eq h hfirst hlast
  refine ⟨profitLoss tenantId db.toTables, fun s q hq => eval_getProfitLoss hq db,
    fun s q hq => eval_getProfitLossReport hq db, balanced_profitLoss tenantId db.toTables, ?_⟩
  constructor <;> rw [List.map_map]
  · exact hadd _ (additive_totalIncome tenantId db.toTables)
  · exact hadd _ (additive_totalExpenses tenantId db.toTables)
  · exact hadd _ (additive_profit tenantId db.toTables)
  · exact hadd _ (Book.incomes.additive_total tenantId db.toTables Income.amount)
  · exact hadd _ (Book.trips.additive_total tenantId db.toTables Trip.income)
  · exact hadd _ (Book.expenses.additive_total tenantId db.toTables Expense.amount)
  · exact hadd _ (Book.fuelLogs.additive_total tenantId db.toTables FuelLog.cost)
  · exact hadd _ (Book.maintenanceLogs.additive_total tenantId db.toTables MaintenanceLog.totalCost)
  · exact hadd _ (Book.trips.additive_total tenantId db.toTables Trip.tollCost)
  · exact hadd _ (Book.trips.additive_total tenantId db.toTables Trip.policeCost)

/-- Up to the first day, that day, and all that follows. -/
theorem profitLoss_additive_days :
    Span.Consecutive [⟨none, some (-1)⟩, ⟨some 0, some 86399999⟩, ⟨some 86400000, none⟩] ∧
      ∃ pl : Span Time → ProfitLoss,
        (∀ s q, q.Asks s → (getProfitLoss "t0" q).eval Sample.refuelled = .ok (pl s)) ∧
        (∀ s q, q.Asks s →
          (Reports.getProfitLossReport "t0" q).eval Sample.refuelled = .ok (pl s)) ∧
        (∀ s, (pl s).Balanced) ∧
        (pl ⟨none, none⟩).IsSum
          ([⟨none, some (-1)⟩, ⟨some 0, some 86399999⟩, ⟨some 86400000, none⟩].map pl) :=
  have h : Span.Consecutive
      [(⟨none, some (-1)⟩ : Span Time), ⟨some 0, some 86399999⟩, ⟨some 86400000, none⟩] :=
    ⟨by simp [Span.Ordered], by simp [Span.Adjacent]⟩
  ⟨h, profitLoss_additive _ "t0" h rfl rfl⟩

end Accounting

end NodeVms
