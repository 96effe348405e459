/-
# The money of the fleet

The usage report has one row for each live vehicle.  Entries are filed under
live vehicles only, but they stay when their vehicle is removed, and profit and
loss goes on counting them.  So the rows account for all money exactly if the
entries of removed vehicles amount to nothing (`accountsForMoney_iff`), and
always in a run that removes no vehicle with entries.
-/

import NodeVms.Calendar.TripLife
import NodeVms.Integrity.Odometer
import NodeVms.Integrity.Steps
import NodeVms.Reports.Agreement

namespace NodeVms

open Store Script Prisma

/-- The query for an end of a span. -/
def Field.bound : Option Time → Field JsDate
  | some t => .value (some t)
  | none => .undefined

/-- A date that is supplied bounds the span. -/
theorem Field.bounds_bound (stop : Option Time) : (Field.bound stop).Bounds stop := by
  cases stop <;> rfl

namespace Reports

variable {α : Type} {tenantId : String} {s : Span Time} {db : Database}

/-- The query for a span and all vehicles. -/
def ReportQueryDto.of (s : Span Time) : ReportQueryDto :=
  { startDate := Field.bound s.start, endDate := Field.bound s.stop }

/-- Every span can be asked for. -/
theorem ReportQueryDto.asks_of (s : Span Time) : (ReportQueryDto.of s).Asks s :=
  ⟨Field.bounds_bound _, Field.bounds_bound _⟩

/-! ### What the rows leave out -/

/-- The id names a removed vehicle. -/
def Removed (t : Tables) (id : String) : Prop :=
  ∃ v ∈ t.vehicles, v.id.val = id ∧ v.deletedAt ≠ none

instance (t : Tables) (id : String) : Decidable (Removed t id) := by
  unfold Removed; infer_instance

/-- What the entries of removed vehicles amount to. -/
def removedTotal (book : Book α) (vehicleId : α → String) (tenantId : String) (t : Tables)
    (column : α → Amount) (s : Span Time) : Amount :=
  (((book.entries tenantId t s).filter fun r => Removed t (vehicleId r)).map column).sum

/-- The vehicle of an entry is in the fleet, or it has been removed; it is never both. -/
theorem mem_fleet_iff_not_removed {T id : String} (h : OwnVehicle db.toTables T id) :
    (∃ v ∈ fleet T db.toTables none, v.id.val = id) ↔ ¬Removed db.toTables id := by
  obtain ⟨v, hv, hid, hvT⟩ := h
  constructor
  · rintro ⟨w, hw, hwid⟩ ⟨o, ho, hoid, hremoved⟩
    obtain ⟨hw, hp⟩ := List.mem_filter.1 hw
    obtain rfl := db.eq_of_id .vehicle ho hw (hoid.trans hwid.symm)
    exact hremoved (of_decide_eq_true hp).2.1
  · intro hremoved
    have hlive : v.deletedAt = none := by
      by_contra hgone
      exact hremoved ⟨v, hv, hid, hgone⟩
    refine ⟨v, List.mem_filter.2 ⟨hv, decide_eq_true ?_⟩, hid⟩
    exact ⟨hvT, hlive, nofun⟩

/-- The rows and the entries of removed vehicles make up the book. -/
theorem sum_vehicles_add_removed {vehicles : List Vehicle}
    (hvehicles : vehicles.Perm (fleet tenantId db.toTables none)) (book : Book α)
    (vehicleId : α → String)
    (hown : ∀ r ∈ book.model.rows db.toTables,
      OwnVehicle db.toTables (book.tenantId r) (vehicleId r))
    (column : α → Amount) (s : Span Time) :
    (vehicles.map fun v =>
        ((entriesAt vehicleId (book.entries tenantId db.toTables s) v).map column).sum).sum +
      removedTotal book vehicleId tenantId db.toTables column s =
      book.total tenantId db.toTables column s := by
  let ids := vehicles.map fun v => v.id.val
  have hids : ids.Nodup := (hvehicles.map _).nodup_iff.2 (nodup_fleet tenantId db none)
  have hmem : ∀ r ∈ book.entries tenantId db.toTables s,
      vehicleId r ∈ ids ↔ ¬Removed db.toTables (vehicleId r) := by
    intro r hr
    obtain ⟨hrow, hcounts⟩ := List.mem_filter.1 hr
    have hT : book.tenantId r = tenantId := (of_decide_eq_true hcounts).1
    rw [← mem_fleet_iff_not_removed (hT ▸ hown r hrow)]
    simp [ids, hvehicles.mem_iff]
  have hkeys : (ids.map fun k => (((book.entries tenantId db.toTables s).filter fun r =>
        vehicleId r = k).map column).sum).sum =
      (((book.entries tenantId db.toTables s).filter fun r => vehicleId r ∈ ids).map column).sum :=
    sum_keys column hids
  rw [List.map_map] at hkeys
  have hall : ((book.entries tenantId db.toTables s).filter fun r =>
      vehicleId r ∈ ids ∨ Removed db.toTables (vehicleId r)) =
      book.entries tenantId db.toTables s := by
    rw [List.filter_eq_self]
    exact fun r hr => decide_eq_true ((Decidable.em _).symm.imp_left (hmem r hr).2)
  have hsplit := sum_filter_or column fun r hr => (hmem r hr).1
  rw [hall] at hsplit
  exact (congrArg (· + removedTotal book vehicleId tenantId db.toTables column s) hkeys).trans
    hsplit.symm

/-- The entries of removed vehicles amount to nothing: trips, fuel and maintenance. -/
structure NothingRemoved (tenantId : String) (t : Tables) (s : Span Time) : Prop where
  trips : removedTotal Book.trips Trip.vehicleId tenantId t Trip.income s = 0
  fuel : removedTotal Book.fuelLogs FuelLog.vehicleId tenantId t FuelLog.cost s = 0
  maintenance : removedTotal Book.maintenanceLogs MaintenanceLog.vehicleId tenantId t
    MaintenanceLog.totalCost s = 0

/-- The rows of the usage report add up to the entries of profit and loss. -/
structure AccountFor (usage : List UsageRow) (pl : Accounting.ProfitLoss) : Prop where
  trips : (usage.map fun u => u.trips.totalIncome).sum = pl.breakdown.incomeFromTrips
  fuel : (usage.map fun u => u.fuel.totalCost).sum = pl.breakdown.fuelCosts
  maintenance : (usage.map fun u => u.maintenance.totalCost).sum = pl.breakdown.maintenanceCosts

/-- The usage report on all vehicles accounts for the money of the tenant in the span. -/
def AccountsForMoney (tenantId : String) (db : Database) (s : Span Time) : Prop :=
  ∀ (collate : String → String → Bool) (q : ReportQueryDto), q.Asks s → q.AllVehicles →
    ∃ usage pl, (getVehicleUsageReport collate tenantId q).eval db = .ok usage ∧
      (∀ q' : Accounting.ProfitLossQueryDto, q'.Asks s →
        (Accounting.getProfitLoss tenantId q').eval db = .ok pl) ∧
      AccountFor usage pl

/-- What one figure of the rows falls short by is what it leaves out. -/
theorem sum_eq_iff_removed {a r total : Amount} (h : a + r = total) : a = total ↔ r = 0 := by
  rw [← h, left_eq_add]

/-- The usage report accounts for all money if removed vehicles have none. -/
theorem accountFor_iff (hc : TenantClosed db.toTables) {vehicles : List Vehicle}
    (hvehicles : vehicles.Perm (fleet tenantId db.toTables none)) :
    AccountFor
      (vehicles.map (usageRow
        (groupBy Trip.vehicleId (Book.trips.entries tenantId db.toTables s))
        (groupBy FuelLog.vehicleId (Book.fuelLogs.entries tenantId db.toTables s))
        (groupBy MaintenanceLog.vehicleId (Book.maintenanceLogs.entries tenantId db.toTables s))))
      (Accounting.profitLoss tenantId db.toTables s) ↔
      NothingRemoved tenantId db.toTables s := by
  have htrips := sum_eq_iff_removed (sum_vehicles_add_removed hvehicles Book.trips Trip.vehicleId
    hc.trip_vehicle Trip.income s)
  have hfuel := sum_eq_iff_removed (sum_vehicles_add_removed hvehicles Book.fuelLogs
    FuelLog.vehicleId hc.fuelLog_vehicle FuelLog.cost s)
  have hmaintenance := sum_eq_iff_removed (sum_vehicles_add_removed hvehicles
    Book.maintenanceLogs MaintenanceLog.vehicleId hc.maintenanceLog_vehicle
    MaintenanceLog.totalCost s)
  constructor
  · rintro ⟨h₁, h₂, h₃⟩
    simp only [List.map_map, Function.comp_def, usageRow_eq] at h₁ h₂ h₃
    exact ⟨htrips.1 h₁, hfuel.1 h₂, hmaintenance.1 h₃⟩
  · rintro ⟨h₁, h₂, h₃⟩
    constructor <;> simp only [List.map_map, Function.comp_def, usageRow_eq]
    · exact htrips.2 h₁
    · exact hfuel.2 h₂
    · exact hmaintenance.2 h₃

/-- The rows account for all money exactly if nothing is left out. -/
theorem accountsForMoney_iff (hc : TenantClosed db.toTables) :
    AccountsForMoney tenantId db s ↔ NothingRemoved tenantId db.toTables s := by
  have heval : ∀ collate q, q.Asks s → q.AllVehicles → ∃ vehicles : List Vehicle,
      vehicles.Perm (fleet tenantId db.toTables none) ∧
      (getVehicleUsageReport collate tenantId q).eval db = .ok (vehicles.map (usageRow
        (groupBy Trip.vehicleId (Book.trips.entries tenantId db.toTables s))
        (groupBy FuelLog.vehicleId (Book.fuelLogs.entries tenantId db.toTables s))
        (groupBy MaintenanceLog.vehicleId
          (Book.maintenanceLogs.entries tenantId db.toTables s)))) := by
    intro collate q hq hall
    have h := eval_getVehicleUsageReport tenantId collate hq db
    rw [hall] at h
    simpa only [Book.entriesOf_none] using h
  constructor
  · intro h
    have hasks : (ReportQueryDto.of s).Asks s := ReportQueryDto.asks_of s
    obtain ⟨usage, pl, husage, hpl, haccount⟩ := h (fun _ _ => true) (.of s) hasks rfl
    obtain ⟨vehicles, hvehicles, husage'⟩ := heval _ _ hasks rfl
    obtain rfl := Except.ok.inj (husage.symm.trans husage')
    have hasks' : Accounting.ProfitLossQueryDto.Asks
        ⟨(ReportQueryDto.of s).startDate, (ReportQueryDto.of s).endDate⟩ s :=
      ⟨hasks.start, hasks.stop⟩
    obtain rfl := Except.ok.inj
      ((hpl _ hasks').symm.trans (Accounting.eval_getProfitLoss hasks' db))
    exact (accountFor_iff hc hvehicles).1 haccount
  · intro h collate q hq hall
    obtain ⟨vehicles, hvehicles, husage⟩ := heval collate q hq hall
    exact ⟨_, _, husage, fun q' hq' => Accounting.eval_getProfitLoss hq' db,
      (accountFor_iff hc hvehicles).2 h⟩

/-! ### Runs -/

/-- Some live entry is filed under the vehicle `id`. -/
def InUse (t : Tables) (id : String) : Prop :=
  (∃ r ∈ t.trips, r.vehicleId = id ∧ r.deletedAt = none) ∨
    (∃ l ∈ t.fuelLogs, l.vehicleId = id ∧ l.deletedAt = none) ∨
      ∃ l ∈ t.maintenanceLogs, l.vehicleId = id ∧ l.deletedAt = none

instance (t : Tables) (id : String) : Decidable (InUse t id) := by unfold InUse; infer_instance

/-- No removed vehicle has live entries. -/
def RemovedUnused (t : Tables) : Prop := ∀ v ∈ t.vehicles, v.deletedAt ≠ none → ¬InUse t v.id

/-- Where no live entry is of a removed vehicle their total is zero. -/
theorem removedTotal_eq_zero {book : Book α} {vehicleId : α → String} {t : Tables}
    (h : ∀ r ∈ book.model.rows t, book.deletedAt r = none → ¬Removed t (vehicleId r))
    (column : α → Amount) : removedTotal book vehicleId tenantId t column s = 0 := by
  have hnil : ((book.entries tenantId t s).filter fun r => Removed t (vehicleId r)) = [] := by
    rw [List.filter_eq_nil_iff]
    intro r hr
    obtain ⟨hrow, hcounts⟩ := List.mem_filter.1 hr
    simpa using h r hrow (of_decide_eq_true hcounts).2.1
  rw [removedTotal, hnil, List.map_nil, List.sum_nil]

/-- Then nothing is missing in the report. -/
theorem RemovedUnused.nothingRemoved {t : Tables} (h : RemovedUnused t) :
    NothingRemoved tenantId t s where
  trips := by
    refine removedTotal_eq_zero ?_ Trip.income
    rintro r hr hlive ⟨v, hv, hid, hremoved⟩
    exact h v hv hremoved (.inl ⟨r, hr, hid.symm, hlive⟩)
  fuel := by
    refine removedTotal_eq_zero ?_ FuelLog.cost
    rintro l hl hlive ⟨v, hv, hid, hremoved⟩
    exact h v hv hremoved (.inr (.inl ⟨l, hl, hid.symm, hlive⟩))
  maintenance := by
    refine removedTotal_eq_zero ?_ MaintenanceLog.totalCost
    rintro l hl hlive ⟨v, hv, hid, hremoved⟩
    exact h v hv hremoved (.inr (.inr ⟨l, hl, hid.symm, hlive⟩))

/-- The request removes no vehicle that is in use. -/
def RemovesUnused (r : Request) (db : Database) : Prop :=
  ∀ p ∈ r.vehicleRemoval?, ∀ v ∈ db.vehicles, v.id.val = p.2 → v.tenantId = p.1 →
    v.deletedAt = none → ¬InUse db.toTables p.2

instance (r : Request) (db : Database) : Decidable (RemovesUnused r db) := by
  unfold RemovesUnused; infer_instance

section Step

variable {r : Request} {id : String}

/-- Nothing is added to a table, or a row filed under a live vehicle. -/
def FilesUnderLive (vehicleId : α → String) (db : Database) (l l' : List α) : Prop :=
  l' = l ∨ ∃ r T, l' = l ++ [r] ∧ LiveVehicle db.toTables T (vehicleId r)

/-- An entry is an old one or one of a live vehicle. -/
theorem FilesUnderLive.exists_mem {vehicleId : α → String} {l l' : List α}
    (h : FilesUnderLive vehicleId db l l') {Q : α → Prop} (hQ : ∃ r ∈ l', vehicleId r = id ∧ Q r) :
    (∃ r ∈ l, vehicleId r = id ∧ Q r) ∨ ∃ T, LiveVehicle db.toTables T id := by
  obtain ⟨r, hr, hid, hrQ⟩ := hQ
  rcases h with rfl | ⟨o, T, rfl, hlive⟩
  · exact .inl ⟨r, hr, hid, hrQ⟩
  · rcases List.mem_append.1 hr with hr | hr
    · exact .inl ⟨r, hr, hid, hrQ⟩
    · obtain rfl := List.mem_singleton.1 hr
      exact .inr ⟨T, hid ▸ hlive⟩

/-- New fuel logs are of live vehicles. -/
theorem fuelLogs_step (r : Request) (db : Database) :
    FilesUnderLive FuelLog.vehicleId db db.fuelLogs (step r db).fuelLogs := by
  rcases Fuel.step_fuelLogs r db with hsame | ⟨log, hlogs, hlive, -⟩
  · exact .inl hsame
  · exact .inr ⟨log, log.tenantId, hlogs, hlive⟩

/-- So are new maintenance logs. -/
theorem maintenanceLogs_step (r : Request) (db : Database) :
    FilesUnderLive MaintenanceLog.vehicleId db db.maintenanceLogs
      (step r db).maintenanceLogs := by
  by_cases hw : Table.maintenanceLogs ∈ r.writes
  · cases r with
    | platform env r => simp [Request.writes] at hw
    | tenant env T r =>
      cases r with
      | maintenance dto =>
        rcases (Maintenance.create env T dto).next_cases db with hsame | ⟨log, hok⟩
        · exact .inl (congrArg (fun db : Database => db.maintenanceLogs) hsame)
        · obtain ⟨hv, total, date, -, -, rfl, hw⟩ := Maintenance.create_ok hok
          exact .inr ⟨_, T, congrArg Tables.maintenanceLogs hw, hv⟩
      | _ => simp [Request.writes, TenantRequest.writes] at hw
  · exact .inl (@step_same db r .maintenanceLogs hw)

/-- Trips are started on live vehicles and stay on them. -/
theorem trips_step (h : ∃ t ∈ (step r db).trips, t.vehicleId = id ∧ t.deletedAt = none) :
    (∃ t ∈ db.trips, t.vehicleId = id ∧ t.deletedAt = none) ∨
      ∃ T, LiveVehicle db.toTables T id := by
  have hupdate : ∀ {p : Trip → Bool} {f : Trip → Trip},
      (step r db).trips = updateWhere p f db.trips →
      (∀ t, (f t).vehicleId = t.vehicleId ∧ (f t).deletedAt = t.deletedAt) →
      ∃ t ∈ db.trips, t.vehicleId = id ∧ t.deletedAt = none := by
    intro p f hupd hf
    obtain ⟨t', ht', hid, hlive⟩ := h
    rw [hupd] at ht'
    rcases mem_updateWhere.1 ht' with ⟨ht', -⟩ | ⟨o, ho, -, rfl⟩
    · exact ⟨t', ht', hid, hlive⟩
    · exact ⟨o, ho, (hf o).1.symm.trans hid, (hf o).2.symm.trans hlive⟩
  rcases Trips.step_trips_cases r db with hsame | ⟨env, T, vehicleId, userId, trip, -, hok, happ⟩ |
    ⟨t, -, dto, -, hupd⟩ | ⟨tripId, dto, hupd⟩
  · have hfiles : FilesUnderLive Trip.vehicleId db db.trips (step r db).trips := .inl hsame
    exact hfiles.exists_mem h
  · obtain ⟨d, -, -, -, ⟨v, hv, hvid, hvT, hvlive, -⟩, -, rfl, -⟩ := Trips.startTrip_ok hok
    have hfiles : FilesUnderLive Trip.vehicleId db db.trips (step r db).trips :=
      .inr ⟨_, T, happ, v, hv, hvid, hvT, hvlive⟩
    exact hfiles.exists_mem h
  · exact .inl (hupdate hupd fun _ => ⟨rfl, rfl⟩)
  · exact .inl (hupdate hupd fun _ => ⟨rfl, rfl⟩)

/-- What is in use afterwards was before, or is a live vehicle. -/
theorem inUse_step (h : InUse (step r db).toTables id) :
    InUse db.toTables id ∨ ∃ T, LiveVehicle db.toTables T id := by
  rcases h with h | h | h
  · exact (trips_step h).imp_left .inl
  · exact ((fuelLogs_step r db).exists_mem h).imp_left fun h => .inr (.inl h)
  · exact ((maintenanceLogs_step r db).exists_mem h).imp_left fun h => .inr (.inr h)

/-- A request removes no vehicle with live entries, and none gets one later. -/
theorem removedUnused_step (h : RemovedUnused db.toTables) (hr : RemovesUnused r db) :
    RemovedUnused (step r db).toTables := by
  intro v' hv' hremoved huse
  have hstays : ∀ v ∈ db.vehicles, v.id = v'.id → v.deletedAt ≠ none → False := by
    intro v hv hid hgone
    rcases inUse_step huse with hold | ⟨T, hT⟩
    · exact h v hv hgone (hid ▸ hold)
    · exact hgone (hT.of_id hv (congrArg Cuid.val hid)).2
  rcases (step_vehicles r db).descends v' hv' with ⟨v, hv, hid, hstep⟩ | ⟨-, hnew⟩
  · cases hstep with
    | same => exact hstays _ hv rfl hremoved
    | unbranch => exact hstays v hv rfl hremoved
    | trip => exact hstays v hv rfl hremoved
    | update => exact hstays v hv rfl hremoved
    | @remove env hreq hlive =>
      have hunused : ¬InUse db.toTables v.id :=
        hr (v.tenantId, v.id) (by rw [hreq]; rfl) v hv rfl rfl hlive
      have hwrites : r.writes = [.vehicles, .contracts] := by rw [hreq]; rfl
      have htrips : (step r db).trips = db.trips :=
        @step_same db r .trips (by rw [hwrites]; decide)
      have hfuel : (step r db).fuelLogs = db.fuelLogs :=
        @step_same db r .fuelLogs (by rw [hwrites]; decide)
      have hmaint : (step r db).maintenanceLogs = db.maintenanceLogs :=
        @step_same db r .maintenanceLogs (by rw [hwrites]; decide)
      rw [InUse, htrips, hfuel, hmaint] at huse
      exact hunused huse
  · exact hremoved hnew.live

end Step

/-- **The usage report accounts for all money** exactly where the entries of removed vehicles
amount to nothing, hence throughout a run that removes no vehicle with live entries. -/
theorem usage_accounts_for_money (rs : List Request) :
    Always step (fun db => ∀ tenantId s,
      AccountsForMoney tenantId db s ↔ NothingRemoved tenantId db.toTables s) rs Database.empty ∧
    (Along step RemovesUnused rs Database.empty →
      Always step (fun db => ∀ tenantId s, AccountsForMoney tenantId db s) rs Database.empty) := by
  constructor
  · exact (Always.reachable rs).mono fun db h tenantId s =>
      accountsForMoney_iff (tenantClosed_of_reachable h)
  · intro hrs
    have hlaw : Always step (fun db => Reachable db ∧ RemovedUnused db.toTables) rs
        Database.empty :=
      Always.and_reachable (fun r db _ h hr => removedUnused_step h hr)
        (fun v hv => absurd hv List.not_mem_nil) hrs
    exact hlaw.mono fun db h tenantId s =>
      (accountsForMoney_iff (tenantClosed_of_reachable h.1)).2 h.2.nothingRemoved

/-- `w0`, which has never been filled up, is removed. -/
theorem usage_accounts_for_money_unused :
    Always step (fun db => ∀ tenantId s, AccountsForMoney tenantId db s)
      (Sample.company ++
        [Sample.fuelLog "f" "t0" "v0" 10 0,
         .tenant (.sample "x" 0) "t0" (.vehicles (.remove "w0"))]) Database.empty :=
  (usage_accounts_for_money _).2 (by decide +kernel)

/-- `v0` is removed after it was filled up. -/
theorem usage_loses_removed :
    ¬∀ db, Reachable db → ∀ tenantId s, AccountsForMoney tenantId db s := by
  intro h
  let rs := Sample.company ++
    [Sample.fuelLog "f" "t0" "v0" 10 0, .tenant (.sample "x" 0) "t0" (.vehicles (.remove "v0"))]
  have hdb : Reachable (run step rs Database.empty) := ⟨rs, rfl⟩
  have hcost : removedTotal Book.fuelLogs FuelLog.vehicleId "t0"
      (run step rs Database.empty).toTables FuelLog.cost ⟨none, none⟩ ≠ 0 := by decide +kernel
  have hmoney : AccountsForMoney "t0" (run step rs Database.empty) ⟨none, none⟩ := h _ hdb _ _
  exact hcost ((accountsForMoney_iff (tenantClosed_of_reachable hdb)).1 hmoney).fuel

end Reports

end NodeVms
