/-
# `AlertsService` and the offline detection of `JobsService`

`scan` looks for expiring documents, expiring contracts and vehicles without
recent maintenance; the daily job runs it for every active tenant.
`runOfflineDetection` looks at the vehicles of all tenants.
-/

import Mathlib.Data.List.Induction
import NodeVms.Request
import NodeVms.Store.Like

namespace NodeVms

open Store Script Prisma

/-- `setDate(getDate() + n)`, with days of 24 hours. -/
def Time.addDays (t : Time) (n : Int) : Time := t + n * 86400000

/-- `setMinutes(getMinutes() + n)`, with minutes of 60 seconds: the code reckons in local time,
and no clock change lies in between. -/
def Time.addMinutes (t : Time) (n : Int) : Time := t + n * 60000

/-- The `data` of an alert before its id is generated. -/
structure AlertData where
  tenantId : String
  type : String
  message : String
  deriving DecidableEq

/-- The rows `alert.createMany` inserts. -/
def alertRows (env : Env) (data : List AlertData) : List Alert :=
  data.mapIdx fun i a =>
    { id := env.cuid i, tenantId := a.tenantId, type := a.type, message := a.message,
      status := .unread, createdAt := env.now, deletedAt := none }

/-- Without alerts the insert does nothing. -/
theorem insert_alertRows_nil {env : Env} {data : List AlertData} (h : data = []) (t : Tables) :
    Model.alert.insert (alertRows env data) t = t := by
  rw [h, Model.insert, show alertRows env [] = [] from rfl, List.append_nil]
  rfl

namespace Alerts

structure ScanSummary where
  documentExpiry : Nat
  contractExpiry : Nat
  maintenanceDue : Nat
  deriving DecidableEq

structure ScanResult where
  created : Nat
  summary : ScanSummary
  deriving DecidableEq

/-- Documents expiring in the window, with the `registrationNo` of their vehicle. -/
def expiringDocs (tenantId : String) (now threshold : Time) : Query (List (Document × String)) :=
  read fun db =>
    (db.documents.filter fun d =>
      d.tenantId = tenantId ∧ d.deletedAt = none ∧ now ≤ d.expiryDate ∧ d.expiryDate ≤ threshold)
    |>.map fun d =>
      (d, ((db.vehicles.find? fun v => v.id.val = d.vehicleId).map Vehicle.registrationNo).getD "")

/-- Vehicles without a maintenance log since the threshold. -/
def vehiclesNeedingMaintenance (tenantId : String) (threshold : Time) : Query (List Vehicle) :=
  read fun db => db.vehicles.filter fun v =>
    v.tenantId = tenantId ∧ v.deletedAt = none ∧ v.status ≠ .inactive ∧
      ∀ l ∈ db.maintenanceLogs, l.vehicleId = v.id → ¬(threshold ≤ l.date ∧ l.deletedAt = none)

def documentAlert (tenantId : String) (doc : Document) (registrationNo : String) : AlertData :=
  { tenantId, type := "DOCUMENT_EXPIRY",
    message :=
      s!"{doc.type} document for vehicle {registrationNo} expires on {doc.expiryDate.toISODate}" }

def contractAlert (tenantId : String) (c : Contract) : AlertData :=
  { tenantId, type := "CONTRACT_EXPIRY",
    message := s!"{c.type.text} contract expires on {c.endDate.toISODate}" }

def maintenanceAlert (tenantId : String) (v : Vehicle) : AlertData :=
  { tenantId, type := "MAINTENANCE_DUE",
    message := s!"Vehicle {v.registrationNo} has had no maintenance in the last 90 days" }

def scan (env : Env) (tenantId : String) (daysAhead : Int := 30) :
    Query (Transaction ScanResult) := do
  let expiryThreshold := Time.addDays env.now daysAhead
  let maintenanceThreshold := Time.addDays env.now (-90)
  let docs ← expiringDocs tenantId env.now expiryThreshold
  let contracts ← findMany .contract fun c =>
    c.tenantId = tenantId ∧ c.deletedAt = none ∧ env.now ≤ c.endDate ∧ c.endDate ≤ expiryThreshold
  let vehicles ← vehiclesNeedingMaintenance tenantId maintenanceThreshold
  let alertData := docs.map (fun d => documentAlert tenantId d.1 d.2) ++
    contracts.map (contractAlert tenantId) ++ vehicles.map (maintenanceAlert tenantId)
  commit do
    Tx.when (alertData.length > 0) (createMany .alert (alertRows env alertData))
    pure
      { created := alertData.length,
        summary :=
          { documentExpiry := docs.length, contractExpiry := contracts.length,
            maintenanceDue := vehicles.length } }

def updateStatus (tenantId alertId : String) (status : AlertStatus) :
    Query (Transaction Alert) := do
  let _ ← orThrow
    (← findById .alert alertId fun _ a => a.tenantId = tenantId ∧ a.deletedAt = none)
    (.notFound "Alert not found")
  commit (update .alert alertId fun a => { a with status })

def markRead (tenantId alertId : String) : Query (Transaction Alert) :=
  updateStatus tenantId alertId .read

def dismiss (tenantId alertId : String) : Query (Transaction Alert) :=
  updateStatus tenantId alertId .dismissed

variable {env : Env} {tenantId id : String} {db db' : Database}

/-- A scan inserts alerts of its own tenant and nothing else. -/
theorem scan_ok {daysAhead : Int} {r : ScanResult}
    (h : (scan env tenantId daysAhead).exec db = .ok (r, db')) :
    ∃ data : List AlertData, (∀ a ∈ data, a.tenantId = tenantId) ∧ r.created = data.length ∧
      db'.toTables = Model.alert.insert (alertRows env data) db.toTables := by
  simp only [scan, exec_bind_eq_ok, exec_commit, Tx.run_bind_eq_ok, Tx.run_when_eq_ok,
    run_createMany_eq_ok, Tx.run_pure_eq_ok] at h
  obtain ⟨docs, -, contracts, -, vehicles, -, -, db₁, hw, rfl, rfl⟩ := h
  refine ⟨_, fun a ha => ?_, rfl, ?_⟩
  · simp only [List.mem_append, List.mem_map] at ha
    rcases ha with (⟨d, -, rfl⟩ | ⟨c, -, rfl⟩) | ⟨v, -, rfl⟩ <;> rfl
  · rcases hw with ⟨-, hw⟩ | ⟨hnil, rfl⟩
    · exact hw
    · exact (insert_alertRows_nil (by simpa using hnil) _).symm

/-- An accepted update is of a live alert of the tenant. -/
theorem updateStatus_ok {status : AlertStatus} {alert : Alert}
    (h : (updateStatus tenantId id status).exec db = .ok (alert, db')) :
    (∃ a ∈ db.alerts, a.id.val = id ∧ a.tenantId = tenantId ∧ a.deletedAt = none) ∧
      db'.toTables = Model.alert.updateAt id (fun a => { a with status }) db.toTables := by
  simp [updateStatus] at h
  exact ⟨h.1, h.2.1⟩

end Alerts

namespace Jobs

def OFFLINE_THRESHOLD_MINUTES : Int := 30

/-- `orderBy: { timestamp: 'desc' }`: the latest location. -/
def latest (locations : List GpsLocation) : Option GpsLocation :=
  locations.foldl (fun best l =>
    match best with
    | some b => if b.timestamp < l.timestamp then some l else some b
    | none => some l) none

/-- A later row is the latest only if it is later in time. -/
theorem latest_concat (l : List GpsLocation) (a : GpsLocation) : latest (l ++ [a]) =
    match latest l with
    | some b => if b.timestamp < a.timestamp then some a else some b
    | none => some a := by
  rw [latest, List.foldl_append]
  rfl

/-- The latest location is before a moment exactly if all are. -/
theorem forall_latest_lt_iff {locations : List GpsLocation} {t : Time} :
    (∀ l ∈ latest locations, l.timestamp < t) ↔ ∀ l ∈ locations, l.timestamp < t := by
  induction locations using List.reverseRecOn with
  | nil => simp [latest]
  | append_singleton locations a ih =>
    rw [latest_concat, List.forall_mem_append, List.forall_mem_singleton, ← ih]
    cases latest locations with
    | none => simp
    | some b =>
      by_cases hab : b.timestamp < a.timestamp
      · simpa [hab] using fun ha => hab.trans ha
      · simpa [hab] using fun hb => (not_lt.1 hab).trans_lt hb

/-- `message: { contains: text }`, for which the client sends `LIKE '%text%'` and escapes
nothing in the text. -/
def contains (message text : String) : Bool := Like.contains message.toList text.toList

def offlineAlert (v : Vehicle) : AlertData :=
  { tenantId := v.tenantId, type := "VEHICLE_OFFLINE",
    message := s!"Vehicle {v.registrationNo} is offline — no GPS update for {toString OFFLINE_THRESHOLD_MINUTES}+ minutes" }

/-- One round of the loop: the alert for this vehicle, unless it is online or
has an unread one from the last hour. -/
def alertFor (env : Env) (vehicle : Vehicle) : Query (Option AlertData) := do
  let threshold := Time.addMinutes env.now (-OFFLINE_THRESHOLD_MINUTES)
  let locations ← findMany .gpsLocation fun l =>
    l.vehicleId = vehicle.id ∧ l.tenantId = vehicle.tenantId
  if ∃ l ∈ latest locations, ¬l.timestamp < threshold then
    pure none
  else do
    let duplicate ← findFirst .alert fun a =>
      a.tenantId = vehicle.tenantId ∧ a.type = "VEHICLE_OFFLINE" ∧ a.status = .unread ∧
        contains a.message vehicle.registrationNo ∧ Time.addMinutes env.now (-60) ≤ a.createdAt
    pure (if duplicate.isSome then none else some (offlineAlert vehicle))

/-- `for (const vehicle of onTripVehicles)`, which collects `alertsToCreate`. -/
def alertsToCreate (env : Env) : List Vehicle → Query (List AlertData)
  | [] => pure []
  | vehicle :: vehicles => do
    let alert ← alertFor env vehicle
    let alerts ← alertsToCreate env vehicles
    pure (alert.toList ++ alerts)

def runOfflineDetection (env : Env) : Query (Transaction Unit) := do
  let onTripVehicles ← findMany .vehicle fun v => v.status = .onTrip ∧ v.deletedAt = none
  let alerts ← alertsToCreate env onTripVehicles
  commit (Tx.when (alerts.length > 0) (createMany .alert (alertRows env alerts)))

/-- `tenant.findMany({ where: { isActive: true, deletedAt: null } })`. -/
def activeTenants (t : Tables) : List Tenant :=
  t.tenants.filter fun tenant => tenant.isActive = true ∧ tenant.deletedAt = none

/-- `for (const tenant of tenants)`: a scan that fails is logged, and the next
one follows.  Each scan is a request of its own, with its own surroundings. -/
def scanEach (envs : Tenant → Env) : List Tenant → Database → Database
  | [], db => db
  | tenant :: tenants, db =>
    scanEach envs tenants ((Alerts.scan (envs tenant) tenant.id 30).next db)

def runDailyAlertsScan (envs : Tenant → Env) (db : Database) : Database :=
  scanEach envs (activeTenants db.toTables) db

/-- `switch (job.name)`; a job of another name is only logged. -/
def processJob (envs : Tenant → Env) (env : Env) (name : String) (db : Database) : Database :=
  if name = "daily-alerts-scan" then runDailyAlertsScan envs db
  else if name = "offline-detection" then (runOfflineDetection env).next db
  else db

/-- Offline detection inserts alerts and nothing else. -/
theorem runOfflineDetection_ok {env : Env} {db db' : Database} {u : Unit}
    (h : (runOfflineDetection env).exec db = .ok (u, db')) :
    ∃ data, db'.toTables = Model.alert.insert (alertRows env data) db.toTables := by
  simp only [runOfflineDetection, exec_bind_eq_ok, exec_commit, Tx.run_when_eq_ok,
    run_createMany_eq_ok] at h
  obtain ⟨-, -, data, -, ⟨-, hw⟩ | ⟨hnil, rfl⟩⟩ := h
  · exact ⟨data, hw⟩
  · exact ⟨data, (insert_alertRows_nil (by simpa using hnil) _).symm⟩

end Jobs

end NodeVms
