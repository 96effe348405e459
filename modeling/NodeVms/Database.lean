/-
# The database and its client

`Database` is the contents of the tables together with the proof that they
satisfy the constraints of `prisma/schema.prisma`: a state that violates a
unique index or a foreign key cannot be built, and a statement that would
produce one is rejected (`Prisma.put`).

`Prisma` names the calls of the generated client.  `findFirst`, `findMany` and
`count` are queries, `create`, `createMany`, `update`, `updateMany` and
`deleteMany` statements of a transaction.  `findFirst` returns the first match
in insertion order.  The database promises no order: where it matters which of
several rows is found (the flag that is switched, the reasons of an
availability check) the choice is left open (`findAny`), and elsewhere what is
used of the row found is that it matches.  `findById` is the `findFirst` whose
filter fixes the primary key, and has at most one match.
-/

import NodeVms.Schema
import NodeVms.Store.Exclusive
import NodeVms.Store.Rows
import NodeVms.Store.Script

namespace NodeVms

open Store

/-- Why a request fails.  The first seven are the HTTP exceptions the services
throw, with their messages; the others surface as an internal server error. -/
inductive Error where
  | badRequest (message : String)
  | unavailable (message : String) (reasons : List String)
  | unauthorized (message : String)
  | forbidden (message : String)
  | notFound (message : String)
  | conflict (message : String)
  | tooManyRequests (message : String)
  /-- The client refuses an argument: `null` for a required column, an invalid date. -/
  | invalidArgument
  /-- `P2002`. -/
  | uniqueViolation
  /-- `P2003`. -/
  | foreignKeyViolation
  /-- `P2025`. -/
  | recordNotFound
  | typeError
  deriving DecidableEq

/-! ### Constraints -/

/-- A unique index: the indexed values, one per row.  Rows whose column is
`NULL` have none. -/
structure UniqueIndex where
  name : String
  values : Tables → List (List String)

/-- A foreign key: the non-null references, and the keys they may take. -/
structure ForeignKey where
  name : String
  refs : Tables → List String
  keys : Tables → List String

/-- The primary key of a model. -/
def Model.pkey {α : Type} (m : Model α) (name : String) : UniqueIndex :=
  ⟨name, fun t => (m.rows t).map fun r => [(m.id r).val]⟩

/-- `@relation(fields: [col], references: [id])`. -/
def Model.fkey {α β : Type} (m : Model α) (name : String) (col : α → Option String) (n : Model β) :
    ForeignKey :=
  ⟨name, fun t => (m.rows t).filterMap col, fun t => (n.rows t).map fun r => (n.id r).val⟩

namespace Schema

open Model

/-- Every `@id`, `@unique` and `@@unique` of the schema. -/
def uniqueIndexes : List UniqueIndex :=
  [tenant.pkey "Tenant_pkey", branch.pkey "Branch_pkey", subscription.pkey "Subscription_pkey",
   featureAccess.pkey "FeatureAccess_pkey", user.pkey "User_pkey",
   userBranch.pkey "UserBranch_pkey", vehicle.pkey "Vehicle_pkey", driver.pkey "Driver_pkey",
   assignment.pkey "Assignment_pkey", booking.pkey "Booking_pkey", contract.pkey "Contract_pkey",
   trip.pkey "Trip_pkey", fuelLog.pkey "FuelLog_pkey", maintenanceLog.pkey "MaintenanceLog_pkey",
   maintenanceItem.pkey "MaintenanceItem_pkey", document.pkey "Document_pkey",
   expense.pkey "Expense_pkey", income.pkey "Income_pkey", gpsLocation.pkey "GpsLocation_pkey",
   workshopJob.pkey "WorkshopJob_pkey", workshopItem.pkey "WorkshopItem_pkey",
   alert.pkey "Alert_pkey",
   ⟨"User_email_key", fun t => t.users.map fun u => [u.email]⟩,
   ⟨"UserBranch_userId_branchId_key", fun t => t.userBranches.map fun b => [b.userId, b.branchId]⟩,
   ⟨"Vehicle_registrationNo_key", fun t => t.vehicles.map fun v => [v.registrationNo]⟩,
   ⟨"Driver_userId_key", fun t => t.drivers.filterMap fun d => d.userId.map fun u => [u]⟩,
   ⟨"Driver_phone_key", fun t => t.drivers.map fun d => [d.phone]⟩,
   ⟨"Driver_licenseNo_key", fun t => t.drivers.map fun d => [d.licenseNo]⟩]

/-- Every `@relation` of the schema. -/
def foreignKeys : List ForeignKey :=
  [branch.fkey "Branch_tenantId_fkey" (some ·.tenantId) tenant,
   subscription.fkey "Subscription_tenantId_fkey" (some ·.tenantId) tenant,
   featureAccess.fkey "FeatureAccess_tenantId_fkey" (some ·.tenantId) tenant,
   user.fkey "User_tenantId_fkey" (some ·.tenantId) tenant,
   user.fkey "User_branchId_fkey" (·.branchId) branch,
   userBranch.fkey "UserBranch_tenantId_fkey" (some ·.tenantId) tenant,
   userBranch.fkey "UserBranch_userId_fkey" (some ·.userId) user,
   userBranch.fkey "UserBranch_branchId_fkey" (some ·.branchId) branch,
   vehicle.fkey "Vehicle_tenantId_fkey" (some ·.tenantId) tenant,
   vehicle.fkey "Vehicle_branchId_fkey" (·.branchId) branch,
   driver.fkey "Driver_tenantId_fkey" (some ·.tenantId) tenant,
   driver.fkey "Driver_branchId_fkey" (·.branchId) branch,
   driver.fkey "Driver_userId_fkey" (·.userId) user,
   assignment.fkey "Assignment_vehicleId_fkey" (some ·.vehicleId) vehicle,
   assignment.fkey "Assignment_driverId_fkey" (some ·.driverId) driver,
   booking.fkey "Booking_tenantId_fkey" (some ·.tenantId) tenant,
   booking.fkey "Booking_branchId_fkey" (·.branchId) branch,
   booking.fkey "Booking_vehicleId_fkey" (some ·.vehicleId) vehicle,
   booking.fkey "Booking_driverId_fkey" (·.driverId) driver,
   contract.fkey "Contract_tenantId_fkey" (some ·.tenantId) tenant,
   contract.fkey "Contract_vehicleId_fkey" (·.vehicleId) vehicle,
   trip.fkey "Trip_tenantId_fkey" (some ·.tenantId) tenant,
   trip.fkey "Trip_vehicleId_fkey" (some ·.vehicleId) vehicle,
   trip.fkey "Trip_driverId_fkey" (some ·.driverId) driver,
   fuelLog.fkey "FuelLog_tenantId_fkey" (some ·.tenantId) tenant,
   fuelLog.fkey "FuelLog_vehicleId_fkey" (some ·.vehicleId) vehicle,
   maintenanceLog.fkey "MaintenanceLog_tenantId_fkey" (some ·.tenantId) tenant,
   maintenanceLog.fkey "MaintenanceLog_vehicleId_fkey" (some ·.vehicleId) vehicle,
   maintenanceItem.fkey "MaintenanceItem_maintenanceId_fkey" (some ·.maintenanceId) maintenanceLog,
   document.fkey "Document_tenantId_fkey" (some ·.tenantId) tenant,
   document.fkey "Document_vehicleId_fkey" (some ·.vehicleId) vehicle,
   expense.fkey "Expense_tenantId_fkey" (some ·.tenantId) tenant,
   income.fkey "Income_tenantId_fkey" (some ·.tenantId) tenant,
   gpsLocation.fkey "GpsLocation_tenantId_fkey" (some ·.tenantId) tenant,
   gpsLocation.fkey "GpsLocation_vehicleId_fkey" (some ·.vehicleId) vehicle,
   workshopJob.fkey "WorkshopJob_tenantId_fkey" (some ·.tenantId) tenant,
   workshopJob.fkey "WorkshopJob_branchId_fkey" (·.branchId) branch,
   workshopJob.fkey "WorkshopJob_vehicleId_fkey" (some ·.vehicleId) vehicle,
   workshopItem.fkey "WorkshopItem_jobId_fkey" (some ·.jobId) workshopJob,
   alert.fkey "Alert_tenantId_fkey" (some ·.tenantId) tenant]

/-- A feature is switched for a tenant. -/
theorem featureAccess_tenantId_fkey :
    featureAccess.fkey "FeatureAccess_tenantId_fkey" (some ·.tenantId) tenant ∈ foreignKeys := by
  simp [foreignKeys]

/-- A user belongs to a tenant. -/
theorem user_tenantId_fkey :
    user.fkey "User_tenantId_fkey" (some ·.tenantId) tenant ∈ foreignKeys := by
  simp [foreignKeys]

/-- The branch of a user, if there is one. -/
theorem user_branchId_fkey : user.fkey "User_branchId_fkey" (·.branchId) branch ∈ foreignKeys := by
  simp [foreignKeys]

/-- A membership is a user's. -/
theorem userBranch_userId_fkey :
    userBranch.fkey "UserBranch_userId_fkey" (some ·.userId) user ∈ foreignKeys := by
  simp [foreignKeys]

/-- A vehicle belongs to a tenant. -/
theorem vehicle_tenantId_fkey :
    vehicle.fkey "Vehicle_tenantId_fkey" (some ·.tenantId) tenant ∈ foreignKeys := by
  simp [foreignKeys]

/-- The branch of a vehicle, if there is one. -/
theorem vehicle_branchId_fkey :
    vehicle.fkey "Vehicle_branchId_fkey" (·.branchId) branch ∈ foreignKeys := by
  simp [foreignKeys]

/-- The branch of a driver, if there is one. -/
theorem driver_branchId_fkey :
    driver.fkey "Driver_branchId_fkey" (·.branchId) branch ∈ foreignKeys := by
  simp [foreignKeys]

/-- The account of a driver, if there is one. -/
theorem driver_userId_fkey : driver.fkey "Driver_userId_fkey" (·.userId) user ∈ foreignKeys := by
  simp [foreignKeys]

/-- A booking is of a vehicle. -/
theorem booking_vehicleId_fkey :
    booking.fkey "Booking_vehicleId_fkey" (some ·.vehicleId) vehicle ∈ foreignKeys := by
  simp [foreignKeys]

/-- The driver of a booking, if there is one. -/
theorem booking_driverId_fkey :
    booking.fkey "Booking_driverId_fkey" (·.driverId) driver ∈ foreignKeys := by
  simp [foreignKeys]

/-- A trip is made with a vehicle. -/
theorem trip_vehicleId_fkey :
    trip.fkey "Trip_vehicleId_fkey" (some ·.vehicleId) vehicle ∈ foreignKeys := by
  simp [foreignKeys]

/-- A trip is made by a driver. -/
theorem trip_driverId_fkey :
    trip.fkey "Trip_driverId_fkey" (some ·.driverId) driver ∈ foreignKeys := by
  simp [foreignKeys]

/-- An item belongs to a job. -/
theorem workshopItem_jobId_fkey :
    workshopItem.fkey "WorkshopItem_jobId_fkey" (some ·.jobId) workshopJob ∈ foreignKeys := by
  simp [foreignKeys]

/-- A document belongs to a tenant. -/
theorem document_tenantId_fkey :
    document.fkey "Document_tenantId_fkey" (some ·.tenantId) tenant ∈ foreignKeys := by
  simp [foreignKeys]

/-- A document is of a vehicle. -/
theorem document_vehicleId_fkey :
    document.fkey "Document_vehicleId_fkey" (some ·.vehicleId) vehicle ∈ foreignKeys := by
  simp [foreignKeys]

/-- A contract belongs to a tenant. -/
theorem contract_tenantId_fkey :
    contract.fkey "Contract_tenantId_fkey" (some ·.tenantId) tenant ∈ foreignKeys := by
  simp [foreignKeys]

/-- The vehicle of a contract, if there is one. -/
theorem contract_vehicleId_fkey :
    contract.fkey "Contract_vehicleId_fkey" (·.vehicleId) vehicle ∈ foreignKeys := by
  simp [foreignKeys]

end Schema

/-- No unique index holds a value twice. -/
def Tables.Unique (t : Tables) : Prop :=
  ∀ ix ∈ Schema.uniqueIndexes, (ix.values t).Nodup

/-- Every reference resolves. -/
def Tables.Resolved (t : Tables) : Prop :=
  ∀ fk ∈ Schema.foreignKeys, ∀ k ∈ fk.refs t, k ∈ fk.keys t

instance (t : Tables) : Decidable t.Unique := by unfold Tables.Unique; infer_instance

instance (t : Tables) : Decidable t.Resolved := by unfold Tables.Resolved; infer_instance

/-- A database: tables that satisfy every constraint of the schema. -/
structure Database extends Tables where
  unique : toTables.Unique
  resolved : toTables.Resolved

/-- A database is what its tables hold. -/
theorem Database.ext {db db' : Database} (h : db.toTables = db'.toTables) : db = db' := by
  cases db; cases db'; cases h; rfl

/-- The database after the migrations and before the first request. -/
def Database.empty : Database where
  toTables := {}
  unique := by decide
  resolved := by decide

/-- A model whose primary key the schema declares. -/
class Model.Keyed {α : Type} (m : Model α) : Prop where
  exists_pkey : ∃ name, m.pkey name ∈ Schema.uniqueIndexes

namespace Model.Keyed

instance : tenant.Keyed := ⟨"Tenant_pkey", by simp [Schema.uniqueIndexes]⟩
instance : branch.Keyed := ⟨"Branch_pkey", by simp [Schema.uniqueIndexes]⟩
instance : subscription.Keyed := ⟨"Subscription_pkey", by simp [Schema.uniqueIndexes]⟩
instance : featureAccess.Keyed := ⟨"FeatureAccess_pkey", by simp [Schema.uniqueIndexes]⟩
instance : user.Keyed := ⟨"User_pkey", by simp [Schema.uniqueIndexes]⟩
instance : vehicle.Keyed := ⟨"Vehicle_pkey", by simp [Schema.uniqueIndexes]⟩
instance : driver.Keyed := ⟨"Driver_pkey", by simp [Schema.uniqueIndexes]⟩
instance : assignment.Keyed := ⟨"Assignment_pkey", by simp [Schema.uniqueIndexes]⟩
instance : booking.Keyed := ⟨"Booking_pkey", by simp [Schema.uniqueIndexes]⟩
instance : contract.Keyed := ⟨"Contract_pkey", by simp [Schema.uniqueIndexes]⟩
instance : trip.Keyed := ⟨"Trip_pkey", by simp [Schema.uniqueIndexes]⟩
instance : maintenanceLog.Keyed := ⟨"MaintenanceLog_pkey", by simp [Schema.uniqueIndexes]⟩
instance : document.Keyed := ⟨"Document_pkey", by simp [Schema.uniqueIndexes]⟩
instance : income.Keyed := ⟨"Income_pkey", by simp [Schema.uniqueIndexes]⟩
instance : workshopJob.Keyed := ⟨"WorkshopJob_pkey", by simp [Schema.uniqueIndexes]⟩
instance : alert.Keyed := ⟨"Alert_pkey", by simp [Schema.uniqueIndexes]⟩

end Model.Keyed

/-- Primary keys are distinct. -/
theorem Database.nodup_id {α : Type} (db : Database) (m : Model α) [m.Keyed] :
    ((m.rows db.toTables).map m.id).Nodup := by
  obtain ⟨name, hm⟩ := Model.Keyed.exists_pkey (m := m)
  have h : ((m.rows db.toTables).map fun r => [(m.id r).val]).Nodup := db.unique _ hm
  exact List.Nodup.of_map (fun i : Cuid => [i.val]) (by rwa [List.map_map])

/-- Two rows with one id are one row. -/
theorem Database.eq_of_id {α : Type} (db : Database) (m : Model α) [m.Keyed] {r r' : α}
    (hr : r ∈ m.rows db.toTables) (hr' : r' ∈ m.rows db.toTables)
    (h : (m.id r).val = (m.id r').val) : r = r' :=
  eq_of_key_eq (db.nodup_id m) hr hr' (Cuid.val_injective h)

/-- The key column holds no value twice. -/
theorem Database.nodup_key {α : Type} (db : Database) (m : Model α) [m.Keyed] :
    ((m.rows db.toTables).map fun r => (m.id r).val).Nodup := by
  have h := (db.nodup_id m).map Cuid.val_injective
  rwa [List.map_map] at h

/-- A user account is linked to one driver at most. -/
theorem Database.driver_eq_of_userId (db : Database) {d d' : Driver} (hd : d ∈ db.drivers)
    (hd' : d' ∈ db.drivers) {u : String} (h : d.userId = some u) (h' : d'.userId = some u) :
    d = d' := by
  have hnodup : (db.drivers.filterMap fun d => d.userId.map fun u => [u]).Nodup :=
    db.unique ⟨"Driver_userId_key", fun t => t.drivers.filterMap fun d => d.userId.map fun u => [u]⟩
      (by simp [Schema.uniqueIndexes])
  have hu : ∀ d : Driver, d.userId = some u → (d.userId.map fun u => [u]) = some [u] := by
    intro d h
    rw [h, Option.map_some]
  exact eq_of_filterMap_nodup hnodup hd hd' (hu d h) (hu d' h')

/-- A foreign key names a row of the referred table. -/
theorem Database.exists_of_fkey {α β : Type} (db : Database) {m : Model α} {name : String}
    {col : α → Option String} {n : Model β} (h : m.fkey name col n ∈ Schema.foreignKeys)
    {r : α} (hr : r ∈ m.rows db.toTables) {k : String} (hk : col r = some k) :
    ∃ o ∈ n.rows db.toTables, (n.id o).val = k := by
  have h := db.resolved _ h k (List.mem_filterMap.2 ⟨r, hr, hk⟩)
  simpa [Model.fkey] using h

/-- No reference is the empty string. -/
theorem Database.ref_ne_empty {α β : Type} (db : Database) {m : Model α} {name : String}
    {col : α → Option String} {n : Model β} (h : m.fkey name col n ∈ Schema.foreignKeys)
    {r : α} (hr : r ∈ m.rows db.toTables) : col r ≠ some "" := by
  intro hk
  obtain ⟨o, -, ho⟩ := db.exists_of_fkey h hr hk
  exact (n.id o).ne_empty ho

/-! ### Statements on the tables -/

namespace Model

variable {α : Type} (m : Model α)

/-- `INSERT`. -/
def insert (rs : List α) (t : Tables) : Tables := m.set t (m.rows t ++ rs)

/-- `UPDATE … WHERE id = …`. -/
def updateAt (id : String) (f : α → α) (t : Tables) : Tables :=
  m.set t (updateWhere (fun r => (m.id r).val = id) f (m.rows t))

/-- `UPDATE … WHERE …`. -/
def updateAll (p : α → Bool) (f : α → α) (t : Tables) : Tables :=
  m.set t (updateWhere p f (m.rows t))

/-- `DELETE … WHERE …`. -/
def delete (p : α → Bool) (t : Tables) : Tables := m.set t ((m.rows t).filter fun r => !p r)

end Model

/-- A new row has a new id. -/
theorem Database.id_ne_of_append {α : Type} (db : Database) (m : Model α) [m.Keyed] {l : List α}
    {r : α} (h : m.rows db.toTables = l ++ [r]) : ∀ o ∈ l, (m.id o).val ≠ (m.id r).val := by
  intro o ho hid
  have hnodup := db.nodup_key m
  rw [h, List.map_append] at hnodup
  have hmem : (m.id o).val ∈ l.map fun r => (m.id r).val := List.mem_map_of_mem ho
  exact List.disjoint_of_nodup_append hnodup hmem (by simp [hid])

section Exclusive

variable {α : Type} {m : Model α} [m.Keyed] {C : α → α → Prop} {db db' : Database}

/-- An insert that the primary key admits keeps rows exclusive exactly if the
new row clashes with none. -/
theorem exclusive_insert (hsymm : ∀ a b, C a b → C b a) {r : α}
    (hw : db'.toTables = m.insert [r] db.toTables) :
    Exclusive C (m.rows db'.toTables) ↔
      Exclusive C (m.rows db.toTables) ∧ ∀ a ∈ m.rows db.toTables, ¬C a r := by
  have hrows : m.rows db'.toTables = m.rows db.toTables ++ [r] := by
    rw [hw, Model.insert, m.rows_set]
  have hr : r ∉ m.rows db.toTables := fun hr => db'.id_ne_of_append m hrows r hr rfl
  rw [hrows]
  exact exclusive_append_singleton hsymm hr

/-- An update by id keeps rows exclusive exactly if the new version clashes with
none of the others. -/
theorem exclusive_updateAt (hsymm : ∀ a b, C a b → C b a) {id : String} {f : α → α} {o : α}
    (ho : o ∈ m.rows db.toTables) (hid : (m.id o).val = id) (hf : m.id (f o) = m.id o)
    (hw : db'.toTables = m.updateAt id f db.toTables) (h : Exclusive C (m.rows db.toTables)) :
    Exclusive C (m.rows db'.toTables) ↔
      ∀ a ∈ m.rows db.toTables, (m.id a).val ≠ id → ¬C a (f o) := by
  rw [hw, Model.updateAt, m.rows_set]
  exact exclusive_updateWhere_key hsymm (db.nodup_key m) ho hid (by rw [hf, hid]) h

/-- An update by id after which the row clashes with no more than before. -/
theorem exclusive_updateAt_of_imp (hsymm : ∀ a b, C a b → C b a) {id : String} {f : α → α} {o : α}
    (ho : o ∈ m.rows db.toTables) (hid : (m.id o).val = id) (hf : m.id (f o) = m.id o)
    (hw : db'.toTables = m.updateAt id f db.toTables) (h : Exclusive C (m.rows db.toTables))
    (hC : ∀ a, C a (f o) → C a o) : Exclusive C (m.rows db'.toTables) := by
  rw [hw, Model.updateAt, m.rows_set]
  exact h.updateWhere_key hsymm (db.nodup_key m) ho hid (by rw [hf, hid]) hC

end Exclusive

/-! ### The client -/

/-- The reading part of a service method. -/
abbrev Query : Type → Type := Script Database Error

/-- `$transaction`, or a single statement.  A service method that writes is a
`Query (Transaction α)`: it reads, checks, and ends in a transaction. -/
abbrev Transaction : Type → Type := Tx Database Error

namespace Prisma

variable {α : Type}

/-- One statement: its result is checked against every constraint. -/
def put (f : Tables → Tables) : Transaction Unit := fun db =>
  if hu : (f db.toTables).Unique then
    if hr : (f db.toTables).Resolved then .ok ((), ⟨f db.toTables, hu, hr⟩)
    else .error .foreignKeyViolation
  else .error .uniqueViolation

/-- `findFirst({ where: { id } })` after an update: the record it returns. -/
def fetch (m : Model α) (id : String) : Transaction α := fun db =>
  match (m.rows db.toTables).find? fun r => (m.id r).val = id with
  | some r => .ok (r, db)
  | none => .error .recordNotFound

def create (m : Model α) (r : α) : Transaction α := do
  put (m.insert [r])
  pure r

def createMany (m : Model α) (rs : List α) : Transaction Unit := put (m.insert rs)

def update (m : Model α) (id : String) (f : α → α) : Transaction α := do
  put (m.updateAt id f)
  fetch m id

def updateMany (m : Model α) (p : α → Bool) (f : α → α) : Transaction Unit :=
  put (m.updateAll p f)

def deleteMany (m : Model α) (p : α → Bool) : Transaction Unit := put (m.delete p)

def findFirst (m : Model α) (p : α → Bool) : Query (Option α) :=
  Script.read fun db => (m.rows db.toTables).find? p

/-- `findFirst` where the choice among several matches is left open. -/
def findAny (pick : Pick α) (m : Model α) (p : α → Bool) : Query (Option α) :=
  Script.read fun db => pick.choose ((m.rows db.toTables).filter p)

/-- `findFirst` with a filter on a related row. -/
def findFirstRel (m : Model α) (p : Tables → α → Bool) : Query (Option α) :=
  Script.read fun db => (m.rows db.toTables).find? (p db.toTables)

/-- `findFirst({ where: { id, … } })`; the rest of the filter may look at related rows. -/
def findById (m : Model α) (id : String) (q : Tables → α → Prop) [∀ t r, Decidable (q t r)] :
    Query (Option α) :=
  findFirstRel m fun t r => (m.id r).val = id ∧ q t r

def findMany (m : Model α) (p : α → Bool) : Query (List α) :=
  Script.read fun db => (m.rows db.toTables).filter p

def count (m : Model α) (p : α → Bool) : Query Nat :=
  Script.read fun db => ((m.rows db.toTables).filter p).length

variable {m : Model α} {db db' : Database}

/-- A write that the constraints admit. -/
@[simp] theorem run_put_eq_ok {f : Tables → Tables} {u : Unit} :
    (put f).run db = .ok (u, db') ↔ db'.toTables = f db.toTables := by
  simp only [put, Tx.run]
  constructor
  · intro h
    split_ifs at h
    simpa using (congrArg Database.toTables (Prod.mk.inj (Except.ok.inj h)).2).symm
  · intro h
    rw [dif_pos (h ▸ db'.unique), dif_pos (h ▸ db'.resolved)]
    exact congrArg _ (Prod.ext rfl (Database.ext h.symm))

/-- The row that is returned after a write. -/
@[simp] theorem run_fetch_eq_ok {id : String} {r : α} :
    (fetch m id).run db = .ok (r, db') ↔
      ((m.rows db.toTables).find? fun r => (m.id r).val = id) = some r ∧ db' = db := by
  simp only [fetch, Tx.run]
  cases h : (m.rows db.toTables).find? fun r => (m.id r).val = id with
  | none => simp
  | some o => simp [Prod.ext_iff, eq_comm]

/-- A new row, returned as it was given. -/
@[simp] theorem run_create_eq_ok {r o : α} :
    (create m r).run db = .ok (o, db') ↔ o = r ∧ db'.toTables = m.insert [r] db.toTables := by
  simp [create, and_comm]

/-- New rows. -/
@[simp] theorem run_createMany_eq_ok {rs : List α} {u : Unit} :
    (createMany m rs).run db = .ok (u, db') ↔ db'.toTables = m.insert rs db.toTables :=
  run_put_eq_ok

/-- The row with the id, changed, and returned as it is then. -/
@[simp] theorem run_update_eq_ok {id : String} {f : α → α} {o : α} :
    (update m id f).run db = .ok (o, db') ↔
      db'.toTables = m.updateAt id f db.toTables ∧
        ((m.rows db'.toTables).find? fun r => (m.id r).val = id) = some o := by
  simp only [update, Tx.run_bind_eq_ok, run_put_eq_ok, run_fetch_eq_ok]
  constructor
  · rintro ⟨-, db₁, h, ho, rfl⟩
    exact ⟨h, ho⟩
  · rintro ⟨h, ho⟩
    exact ⟨(), db', h, ho, rfl⟩

/-- All rows that match, changed. -/
@[simp] theorem run_updateMany_eq_ok {p : α → Bool} {f : α → α} {u : Unit} :
    (updateMany m p f).run db = .ok (u, db') ↔ db'.toTables = m.updateAll p f db.toTables :=
  run_put_eq_ok

/-- All rows that match, gone. -/
@[simp] theorem run_deleteMany_eq_ok {p : α → Bool} {u : Unit} :
    (deleteMany m p).run db = .ok (u, db') ↔ db'.toTables = m.delete p db.toTables :=
  run_put_eq_ok

/-- A query that finds nothing tells that no row matches. -/
@[simp] theorem eval_findFirst_eq_none {p : α → Bool} :
    (findFirst m p).eval db = .ok none ↔ ∀ r ∈ m.rows db.toTables, p r = false := by
  change Except.ok _ = Except.ok none ↔ _
  rw [Except.ok.injEq, List.find?_eq_none]
  simp

/-- The first row that matches. -/
@[simp] theorem eval_findFirst_eq_some {p : α → Bool} {r : α} :
    (findFirst m p).eval db = .ok (some r) ↔ (m.rows db.toTables).find? p = some r := by
  change Except.ok _ = Except.ok (some r) ↔ _
  rw [Except.ok.injEq]

/-- Some row that matches. -/
theorem eval_findAny_eq_some {pick : Pick α} {p : α → Bool} {r : α}
    (h : (findAny pick m p).eval db = .ok (some r)) : r ∈ m.rows db.toTables ∧ p r = true :=
  List.mem_filter.1 (pick.mem (Except.ok.inj h))

/-- None does. -/
theorem eval_findAny_eq_none {pick : Pick α} {p : α → Bool}
    (h : (findAny pick m p).eval db = .ok none) : ∀ r ∈ m.rows db.toTables, p r = false := by
  have hnil : (m.rows db.toTables).filter p = [] := pick.eq_nil (Except.ok.inj h)
  intro r hr
  by_contra hp
  have hmem : r ∈ (m.rows db.toTables).filter p :=
    List.mem_filter.2 ⟨hr, Bool.eq_true_of_not_eq_false hp⟩
  rw [hnil] at hmem
  exact absurd hmem List.not_mem_nil

/-- The first match is one way to choose. -/
theorem findAny_first (m : Model α) (p : α → Bool) : findAny .first m p = findFirst m p := by
  unfold findAny findFirst
  refine congrArg Script.read (funext fun db => ?_)
  exact List.head?_filter

/-- No row with the id matches. -/
@[simp] theorem eval_findById_eq_none {id : String} {q : Tables → α → Prop}
    [∀ t r, Decidable (q t r)] :
    (findById m id q).eval db = .ok none ↔
      ∀ r ∈ m.rows db.toTables, (m.id r).val = id → ¬q db.toTables r := by
  change Except.ok _ = Except.ok none ↔ _
  rw [Except.ok.injEq, List.find?_eq_none]
  simp

/-- A query by primary key finds a row exactly if the row is there and matches. -/
@[simp] theorem eval_findById_eq_some [m.Keyed] {id : String} {q : Tables → α → Prop}
    [∀ t r, Decidable (q t r)] {r : α} :
    (findById m id q).eval db = .ok (some r) ↔
      r ∈ m.rows db.toTables ∧ (m.id r).val = id ∧ q db.toTables r := by
  change Except.ok _ = Except.ok (some r) ↔ _
  rw [Except.ok.injEq]
  refine (find?_key_eq_some (k := id) (db.nodup_key m) fun o ho => ?_).trans (by simp)
  simp only [decide_eq_true_eq] at ho
  exact ho.1

/-- All rows that match. -/
@[simp] theorem eval_findMany {p : α → Bool} :
    (findMany m p).eval db = .ok ((m.rows db.toTables).filter p) := rfl

/-- How many rows match. -/
@[simp] theorem eval_count {p : α → Bool} :
    (count m p).eval db = .ok ((m.rows db.toTables).filter p).length := rfl

end Prisma

end NodeVms
