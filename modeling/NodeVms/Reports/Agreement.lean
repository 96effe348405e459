/-
# The reports agree

Mileage, fuel, usage and profit and loss are computed along different paths:
an aggregate without groups, the groups of a table, and the live vehicles with
the groups attached to them.  Each path is reduced to the same entries of the
same book (`Book.entriesOf`), so that what the reports say about a vehicle, or
about the whole fleet, can be compared.
-/

import NodeVms.Reports.ProfitLoss

namespace NodeVms

open Store Script Prisma

/-! ### The entries of one vehicle -/

namespace Book

variable {α : Type} (book : Book α) (vehicleId : α → String) (tenantId : String) (t : Tables)

/-- The entries of the vehicle a query names, or of all vehicles. -/
def entriesOf (only : Option String) (s : Span Time) : List α :=
  (book.entries tenantId t s).filter fun r => ∀ id ∈ only, vehicleId r = id

/-- Without a vehicle filter all entries count. -/
theorem entriesOf_none (s : Span Time) :
    book.entriesOf vehicleId tenantId t none s = book.entries tenantId t s := by
  simp [entriesOf]

end Book

namespace Reports

/-- The query names no vehicle; an empty string names none. -/
def ReportQueryDto.AllVehicles (q : ReportQueryDto) : Prop := q.vehicleId.truthy = none

/-- A date filter admits the dates of its span. -/
theorem admits_dateRange (s : Span Time) (t : Time) :
    admits (dateRange s.start s.stop) t ↔ s.Contains t := by
  obtain ⟨start, stop⟩ := s
  cases start <;> cases stop <;> simp [admits, dateRange, Span.Contains]

/-- The filter of a report finds the entries of the book. -/
theorem filter_eq_entriesOf {α : Type} (book : Book α) (vehicleId : α → String)
    (tenantId : String) (t : Tables) (only : Option String) (s : Span Time) :
    ((book.model.rows t).filter fun r => book.tenantId r = tenantId ∧ book.deletedAt r = none ∧
      (∀ id ∈ only, vehicleId r = id) ∧ admits (dateRange s.start s.stop) (book.moment r)) =
      book.entriesOf vehicleId tenantId t only s := by
  rw [Book.entriesOf, Book.entries, List.filter_filter]
  refine List.filter_congr fun r _ => ?_
  rw [← Bool.decide_and, decide_eq_decide, admits_dateRange, Book.Counts]
  tauto

variable {q : ReportQueryDto} {s : Span Time}

/-! ### What each report is made of -/

/-- Groups may be put in any order. -/
theorem isGrouping_orderBySumDesc {α : Type} (column : α → Amount) (key : α → String)
    (l : List α) : IsGrouping key l (orderBySumDesc column (groupBy key l)) :=
  List.perm_insertionSort _ _

/-- Without groups there are no rows; otherwise the names of the vehicles are looked up. -/
theorem eval_rows {α β : Type} (groups : List (Group String α)) (p : Vehicle → Bool)
    (row : List Vehicle → Group String α → β) (db : Database) :
    ∃ vehicles, (if groups.length = 0 then pure [] else do
      let vehicles ← findMany .vehicle p
      pure (groups.map (row vehicles)) : Query (List β)).eval db =
        .ok (groups.map (row vehicles)) := by
  by_cases hnil : groups = []
  · subst hnil
    exact ⟨[], rfl⟩
  · refine ⟨(Model.vehicle.rows db.toTables).filter p, ?_⟩
    rw [if_neg (mt List.length_eq_zero_iff.1 hnil), eval_bind_eq_ok]
    exact ⟨_, eval_findMany, rfl⟩

/-- What the mileage report answers. -/
theorem eval_getMileageReport (tenantId : String) (hq : q.Asks s) (db : Database) :
    ∃ groups vehicles,
    IsGrouping Trip.vehicleId
      (Book.trips.entriesOf Trip.vehicleId tenantId db.toTables q.vehicleId.truthy s) groups ∧
    (getMileageReport tenantId q).eval db = .ok (groups.map (mileageRow vehicles)) := by
  have htrips := filter_eq_entriesOf Book.trips Trip.vehicleId tenantId db.toTables
    q.vehicleId.truthy s
  obtain ⟨vehicles, hrows⟩ := eval_rows _ _ mileageRow db
  refine ⟨_, vehicles, isGrouping_orderBySumDesc Trip.distance Trip.vehicleId _, ?_⟩
  simp only [getMileageReport, eval_bind_eq_ok, JsDate.eval_validOpt_eq_ok]
  refine ⟨s.start, hq.start, s.stop, hq.stop, _, eval_findMany, ?_⟩
  rw [← htrips]
  exact hrows

/-- What the fuel report answers. -/
theorem eval_getFuelReport (tenantId : String) (hq : q.Asks s) (db : Database) :
    ∃ groups vehicles,
    IsGrouping FuelLog.vehicleId
      (Book.fuelLogs.entriesOf FuelLog.vehicleId tenantId db.toTables q.vehicleId.truthy s)
      groups ∧
    (getFuelReport tenantId q).eval db = .ok (groups.map (fuelRow vehicles)) := by
  have hlogs := filter_eq_entriesOf Book.fuelLogs FuelLog.vehicleId tenantId db.toTables
    q.vehicleId.truthy s
  obtain ⟨vehicles, hrows⟩ := eval_rows _ _ fuelRow db
  refine ⟨_, vehicles, isGrouping_orderBySumDesc FuelLog.cost FuelLog.vehicleId _, ?_⟩
  simp only [getFuelReport, eval_bind_eq_ok, JsDate.eval_validOpt_eq_ok]
  refine ⟨s.start, hq.start, s.stop, hq.stop, _, eval_findMany, ?_⟩
  rw [← hlogs]
  exact hrows

/-- The live vehicles of the tenant, or the one the query names. -/
def fleet (tenantId : String) (t : Tables) (only : Option String) : List Vehicle :=
  t.vehicles.filter fun v =>
    v.tenantId = tenantId ∧ v.deletedAt = none ∧ ∀ id ∈ only, v.id.val = id

/-- The entries of one vehicle among those of a query. -/
def entriesAt {α : Type} (vehicleId : α → String) (entries : List α) (v : Vehicle) : List α :=
  entries.filter fun r => vehicleId r = v.id.val

/-- A vehicle with the sums over its entries. -/
theorem usageRow_eq (trips : List Trip) (fuelLogs : List FuelLog)
    (maintenanceLogs : List MaintenanceLog) (v : Vehicle) :
    usageRow (groupBy Trip.vehicleId trips) (groupBy FuelLog.vehicleId fuelLogs)
      (groupBy MaintenanceLog.vehicleId maintenanceLogs) v =
      { vehicleId := v.id, registrationNo := v.registrationNo, model := v.model,
        status := v.status, sourceType := v.sourceType,
        trips :=
          { count := (entriesAt Trip.vehicleId trips v).length,
            totalDistance := ((entriesAt Trip.vehicleId trips v).map Trip.distance).sum,
            totalIncome := ((entriesAt Trip.vehicleId trips v).map Trip.income).sum },
        fuel :=
          { fillups := (entriesAt FuelLog.vehicleId fuelLogs v).length,
            totalLiters := ((entriesAt FuelLog.vehicleId fuelLogs v).map FuelLog.liters).sum,
            totalCost := ((entriesAt FuelLog.vehicleId fuelLogs v).map FuelLog.cost).sum },
        maintenance :=
          { count := (entriesAt MaintenanceLog.vehicleId maintenanceLogs v).length,
            totalCost := ((entriesAt MaintenanceLog.vehicleId maintenanceLogs v).map
              MaintenanceLog.totalCost).sum } } := by
  simp only [usageRow, getD_map_length, getD_bind_sum?, rows_find?_groupBy, entriesAt]

/-- What the usage report answers, in some order of the vehicles. -/
theorem eval_getVehicleUsageReport (tenantId : String) (collate : String → String → Bool)
    (hq : q.Asks s) (db : Database) : ∃ vehicles : List Vehicle,
    vehicles.Perm (fleet tenantId db.toTables q.vehicleId.truthy) ∧
    (getVehicleUsageReport collate tenantId q).eval db = .ok (vehicles.map (usageRow
      (groupBy Trip.vehicleId
        (Book.trips.entriesOf Trip.vehicleId tenantId db.toTables q.vehicleId.truthy s))
      (groupBy FuelLog.vehicleId
        (Book.fuelLogs.entriesOf FuelLog.vehicleId tenantId db.toTables q.vehicleId.truthy s))
      (groupBy MaintenanceLog.vehicleId
        (Book.maintenanceLogs.entriesOf MaintenanceLog.vehicleId tenantId db.toTables
          q.vehicleId.truthy s)))) := by
  refine ⟨_, List.perm_insertionSort (fun v w => collate v.registrationNo w.registrationNo) _, ?_⟩
  simp only [getVehicleUsageReport, eval_bind_eq_ok, JsDate.eval_validOpt_eq_ok]
  refine ⟨s.start, hq.start, s.stop, hq.stop, _, eval_findMany, _, eval_findMany, _,
    eval_findMany, _, eval_findMany, ?_⟩
  rw [← filter_eq_entriesOf, ← filter_eq_entriesOf, ← filter_eq_entriesOf]
  rfl

/-! ### Agreement -/

/-- What a row says about trips is what the mileage report says about its vehicle,
and zero if the vehicle is not in it. -/
def UsageRow.AgreesWithMileage (u : UsageRow) (mileage : List MileageRow) : Prop :=
  (∃ m ∈ mileage, m.vehicleId = u.vehicleId ∧ u.trips.count = m.tripCount ∧
    u.trips.totalDistance = m.totalDistance) ∨
  (∀ m ∈ mileage, m.vehicleId ≠ u.vehicleId) ∧ u.trips.count = 0 ∧ u.trips.totalDistance = 0

/-- The same of the fuel report. -/
def UsageRow.AgreesWithFuel (u : UsageRow) (fuel : List FuelRow) : Prop :=
  (∃ f ∈ fuel, f.vehicleId = u.vehicleId ∧ u.fuel.fillups = f.fillupCount ∧
    u.fuel.totalLiters = f.totalLiters ∧ u.fuel.totalCost = f.totalCost) ∨
  (∀ f ∈ fuel, f.vehicleId ≠ u.vehicleId) ∧ u.fuel.fillups = 0 ∧ u.fuel.totalLiters = 0 ∧
    u.fuel.totalCost = 0

section Rows

variable {trips : List Trip} {fuelLogs : List FuelLog} {maintenanceLogs : List MaintenanceLog}

/-- A row of the usage report agrees with the mileage report. -/
theorem agreesWithMileage_usageRow {groups : List (Group String Trip)}
    (hgroups : IsGrouping Trip.vehicleId trips groups) (vehicles : List Vehicle) (v : Vehicle) :
    (usageRow (groupBy Trip.vehicleId trips) (groupBy FuelLog.vehicleId fuelLogs)
      (groupBy MaintenanceLog.vehicleId maintenanceLogs) v).AgreesWithMileage
      (groups.map (mileageRow vehicles)) := by
  rw [usageRow_eq]
  rcases hgroups.mem_or v.id.val with hmem | ⟨hno, hnil⟩
  · refine .inl ⟨_, List.mem_map_of_mem hmem, rfl, rfl, ?_⟩
    simp only [mileageRow, getD_sum?, entriesAt]
  · have hnil : entriesAt Trip.vehicleId trips v = [] := hnil
    refine .inr ⟨fun m hm => ?_, ?_, ?_⟩
    · obtain ⟨g, hg, rfl⟩ := List.mem_map.1 hm
      exact hno g hg
    · simp only [hnil, List.length_nil]
    · simp only [hnil, List.map_nil, List.sum_nil]

/-- It agrees with the fuel report. -/
theorem agreesWithFuel_usageRow {groups : List (Group String FuelLog)}
    (hgroups : IsGrouping FuelLog.vehicleId fuelLogs groups) (vehicles : List Vehicle)
    (v : Vehicle) :
    (usageRow (groupBy Trip.vehicleId trips) (groupBy FuelLog.vehicleId fuelLogs)
      (groupBy MaintenanceLog.vehicleId maintenanceLogs) v).AgreesWithFuel
      (groups.map (fuelRow vehicles)) := by
  rw [usageRow_eq]
  rcases hgroups.mem_or v.id.val with hmem | ⟨hno, hnil⟩
  · refine .inl ⟨_, List.mem_map_of_mem hmem, rfl, rfl, ?_, ?_⟩
    · simp only [fuelRow, getD_sum?, entriesAt]
    · simp only [fuelRow, getD_sum?, entriesAt]
  · have hnil : entriesAt FuelLog.vehicleId fuelLogs v = [] := hnil
    refine .inr ⟨fun f hf => ?_, ?_, ?_, ?_⟩
    · obtain ⟨g, hg, rfl⟩ := List.mem_map.1 hf
      exact hno g hg
    · simp only [hnil, List.length_nil]
    · simp only [hnil, List.map_nil, List.sum_nil]
    · simp only [hnil, List.map_nil, List.sum_nil]

end Rows

/-- A vehicle is in the fleet once. -/
theorem nodup_fleet (tenantId : String) (db : Database) (only : Option String) :
    ((fleet tenantId db.toTables only).map fun v => v.id.val).Nodup :=
  (db.nodup_key .vehicle).sublist (List.filter_sublist.map _)

/-- **The reports agree with each other**, for every query that asks for a span of time. -/
theorem reports_agree (db : Database) (tenantId : String) (collate : String → String → Bool)
    {q : ReportQueryDto} {s : Span Time} (hq : q.Asks s) :
    ∃ mileage fuel usage pl,
      (getMileageReport tenantId q).eval db = .ok mileage ∧
      (getFuelReport tenantId q).eval db = .ok fuel ∧
      (getVehicleUsageReport collate tenantId q).eval db = .ok usage ∧
      (∀ q' : Accounting.ProfitLossQueryDto, q'.Asks s →
        (Accounting.getProfitLoss tenantId q').eval db = .ok pl) ∧
      (q.AllVehicles →
        (fuel.map fun f => f.totalCost).sum = pl.breakdown.fuelCosts ∧
        (mileage.map fun m => m.tripCount).sum =
          (db.trips.filter fun t =>
            t.tenantId = tenantId ∧ t.deletedAt = none ∧ s.Contains t.startTime).length) ∧
      (∀ u ∈ usage, u.AgreesWithMileage mileage ∧ u.AgreesWithFuel fuel) ∧
      (mileage.map fun m => m.vehicleId).Nodup ∧ (fuel.map fun f => f.vehicleId).Nodup ∧
      (usage.map fun u => u.vehicleId).Nodup := by
  obtain ⟨tripGroups, named, htrips, hmileage⟩ := eval_getMileageReport tenantId hq db
  obtain ⟨fuelGroups, named', hlogs, hfuel⟩ := eval_getFuelReport tenantId hq db
  obtain ⟨vehicles, hvehicles, husage⟩ :=
    eval_getVehicleUsageReport tenantId collate hq db
  refine ⟨_, _, _, _, hmileage, hfuel, husage, fun q' hq' => Accounting.eval_getProfitLoss hq' db,
    fun hall => ⟨?_, ?_⟩, ?_, ?_, ?_, ?_⟩
  · rw [hall, Book.entriesOf_none] at hlogs
    rw [List.map_map]
    simp only [Function.comp_def, fuelRow, getD_sum?]
    exact hlogs.sum FuelLog.cost
  · rw [hall, Book.entriesOf_none] at htrips
    rw [List.map_map]
    exact htrips.length
  · intro u hu
    obtain ⟨v, -, rfl⟩ := List.mem_map.1 hu
    exact ⟨agreesWithMileage_usageRow htrips named v, agreesWithFuel_usageRow hlogs named' v⟩
  · rw [List.map_map]
    exact htrips.nodup_key
  · rw [List.map_map]
    exact hlogs.nodup_key
  · rw [List.map_map]
    exact (hvehicles.map _).nodup_iff.2 (nodup_fleet tenantId db q.vehicleId.truthy)

/-- The fuel of two vehicles, from the first day on. -/
theorem reports_agree_fuel :
    ∃ mileage fuel usage pl,
      (getMileageReport "t0" { startDate := .value (some 0) }).eval Sample.refuelled =
        .ok mileage ∧
      (getFuelReport "t0" { startDate := .value (some 0) }).eval Sample.refuelled = .ok fuel ∧
      (getVehicleUsageReport (fun a b => a ≤ b) "t0" { startDate := .value (some 0) }).eval
        Sample.refuelled = .ok usage ∧
      (∀ q' : Accounting.ProfitLossQueryDto, q'.Asks ⟨some 0, none⟩ →
        (Accounting.getProfitLoss "t0" q').eval Sample.refuelled = .ok pl) ∧
      (fuel.map fun f => f.totalCost).sum = pl.breakdown.fuelCosts ∧
      ∀ u ∈ usage, u.AgreesWithMileage mileage ∧ u.AgreesWithFuel fuel := by
  obtain ⟨mileage, fuel, usage, pl, hm, hf, hu, hpl, hall, hagree, -⟩ :=
    reports_agree Sample.refuelled "t0" (fun a b => a ≤ b)
      (q := { startDate := .value (some 0) }) (s := ⟨some 0, none⟩) ⟨rfl, rfl⟩
  exact ⟨mileage, fuel, usage, pl, hm, hf, hu, hpl, (hall rfl).1, hagree⟩

example : (getFuelReport "t0" {}).eval Sample.refuelled = .ok
    [{ vehicleId := "w0", registrationNo := "w", model := "w", fillupCount := 1, totalLiters := 1,
       totalCost := 20 },
     { vehicleId := "v0", registrationNo := "v", model := "v", fillupCount := 1, totalLiters := 1,
       totalCost := 10 }] := by
  decide +kernel

end Reports

end NodeVms
