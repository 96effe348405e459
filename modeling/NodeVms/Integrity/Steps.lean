/-
# What a request does to vehicles and contracts

`VehicleStep` and `ContractStep` list everything a request can do to one vehicle
or one contract, `NewVehicle` and `NewContract` say what new ones look like.
`step_vehicles` and `step_contracts` say that the lists are complete.

Both services can create a contracted vehicle together with its source contract;
a new vehicle is therefore described by the contracts beside it.
-/

import NodeVms.Frames

namespace NodeVms

open Store

variable {db db' : Database} {r : Request}

/-- The contract is a live source contract of the vehicle. -/
def Sources (c : Contract) (v : Vehicle) : Prop :=
  c.deletedAt = none ∧ c.type = .vehicleSource ∧ c.tenantId = v.tenantId ∧
    c.vehicleId = some v.id.val

/-- Some contract is a live source contract of the vehicle. -/
def Sourced (t : Tables) (v : Vehicle) : Prop := ∃ c ∈ t.contracts, Sources c v

instance (c : Contract) (v : Vehicle) : Decidable (Sources c v) := by
  unfold Sources; infer_instance

instance (t : Tables) (v : Vehicle) : Decidable (Sourced t v) := by
  unfold Sourced; infer_instance

/-- The tenant and the request, if it is one on vehicles. -/
def Request.vehicles? : Request → Option (String × Vehicles.Request)
  | .tenant _ T (.vehicles rv) => some (T, rv)
  | _ => none

/-- The tenant and the vehicle, if it is a `DELETE /vehicles/:id`. -/
def Request.vehicleRemoval? : Request → Option (String × String)
  | .tenant _ T (.vehicles (.remove id)) => some (T, id)
  | _ => none

/-- The tenant and the request, if it is one on contracts. -/
def Request.contracts? : Request → Option (String × Contracts.Request)
  | .tenant _ T (.contracts rc) => some (T, rc)
  | _ => none

/-- A request on vehicles is one of a tenant. -/
theorem eq_of_vehicles? {T : String} {rv : Vehicles.Request} (h : r.vehicles? = some (T, rv)) :
    ∃ env, r = .tenant env T (.vehicles rv) := by
  unfold Request.vehicles? at h
  split at h
  · rename_i env _ _
    cases h
    exact ⟨env, rfl⟩
  · cases h

/-- So is a request on contracts. -/
theorem eq_of_contracts? {T : String} {rc : Contracts.Request} (h : r.contracts? = some (T, rc)) :
    ∃ env, r = .tenant env T (.contracts rc) := by
  unfold Request.contracts? at h
  split at h
  · rename_i env _ _
    cases h
    exact ⟨env, rfl⟩
  · cases h

/-! ### Vehicles -/

/-- What a request can do to a vehicle. -/
inductive VehicleStep (r : Request) (v : Vehicle) : Vehicle → Prop
  | same : VehicleStep r v v
  | unbranch : VehicleStep r v { v with branchId := none }
  | trip {env T rt status} (h : r = .tenant env T (.trips rt)) : VehicleStep r v { v with status }
  | update {env dto} (h : r = .tenant env v.tenantId (.vehicles (.update v.id dto)))
      (hlive : v.deletedAt = none) (fitness taxToken : Option Time) :
      VehicleStep r v (dto.apply fitness taxToken v)
  | remove {env} (h : r = .tenant env v.tenantId (.vehicles (.remove v.id)))
      (hlive : v.deletedAt = none) : VehicleStep r v { v with deletedAt := some env.now }

/-- A new vehicle is live and available; if it is a contracted one, its contract
is there too. -/
structure NewVehicle (t : Tables) (v : Vehicle) : Prop where
  live : v.deletedAt = none
  available : v.status = .available
  sourced : v.sourceType = .contract → Sourced t v

/-- A request changes vehicles as listed. -/
abbrev VehiclesEvolve (r : Request) (db db' : Database) : Prop :=
  Model.vehicle.Evolves (VehicleStep r) (NewVehicle db'.toTables) db db'

/-- A transaction changes vehicles as listed if a successful one does. -/
theorem next_vehiclesEvolve {β : Type} {h : Query (Transaction β)}
    (hok : ∀ b db', h.exec db = .ok (b, db') → VehiclesEvolve r db db') :
    VehiclesEvolve r db (h.next db) :=
  Script.next_induct (P := VehiclesEvolve r db) (evolves_same (fun _ => .same) rfl) hok

/-- An update of the vehicle with one id. -/
theorem vehiclesEvolve_of_updateAt {id : String} {f : Vehicle → Vehicle}
    (h : db'.vehicles = updateWhere (fun v => v.id.val = id) f db.vehicles)
    (hid : ∀ v, (f v).id = v.id)
    (hf : ∀ v ∈ db.vehicles, v.id.val = id → VehicleStep r v (f v)) : VehiclesEvolve r db db' :=
  evolves_update (fun _ => .same) h fun v hv hp => ⟨hid v, hf v hv (of_decide_eq_true hp)⟩

/-- The row with the id of a live vehicle of the tenant. -/
theorem LiveVehicle.of_id {T id : String} (h : LiveVehicle db.toTables T id) {v : Vehicle}
    (hv : v ∈ db.vehicles) (hid : v.id.val = id) : v.tenantId = T ∧ v.deletedAt = none := by
  obtain ⟨o, ho, hoid, hoT, hlive⟩ := h
  obtain rfl := db.eq_of_id .vehicle hv ho (hid.trans hoid.symm)
  exact ⟨hoT, hlive⟩

/-- What requests on vehicles do to a vehicle. -/
theorem Vehicles.Request.vehiclesEvolve (rv : Vehicles.Request) (env : Env) (T : String)
    (db : Database) : VehiclesEvolve (.tenant env T (.vehicles rv)) db (rv.next env T db) := by
  cases rv with
  | create dto =>
    refine next_vehiclesEvolve fun v db' h => ?_
    obtain ⟨-, fitness, taxToken, -, -, hrow, hw⟩ := create_ok h
    rcases hw with ⟨hs, hw⟩ | ⟨hs, contract, s, e, -, -, -, -, hw⟩
    · refine evolves_insert (fun _ => .same) (congrArg Tables.vehicles hw) ⟨?_, ?_, ?_⟩
      · rw [hrow]; rfl
      · rw [hrow]; rfl
      · exact fun h => absurd h hs
    · refine evolves_insert (fun _ => .same) (congrArg Tables.vehicles hw) ⟨?_, ?_, fun _ => ?_⟩
      · rw [hrow]; rfl
      · rw [hrow]; rfl
      · refine ⟨contract.row (env.cuid 1) T s e v.id, ?_, rfl, rfl, ?_, rfl⟩
        · rw [hw]
          exact List.mem_append_right _ (List.mem_singleton_self _)
        · rw [hrow]; rfl
  | update id dto =>
    refine next_vehiclesEvolve fun v db' h => ?_
    obtain ⟨hv, -, fitness, taxToken, hw⟩ := update_ok h
    refine vehiclesEvolve_of_updateAt (congrArg Tables.vehicles hw) (fun _ => rfl)
      fun o ho hoid => ?_
    obtain ⟨rfl, hlive⟩ := hv.of_id ho hoid
    exact .update (by rw [← hoid]) hlive fitness taxToken
  | remove id =>
    refine next_vehiclesEvolve fun v db' h => ?_
    obtain ⟨hv, hw⟩ := remove_ok h
    refine vehiclesEvolve_of_updateAt (congrArg Tables.vehicles hw) (fun _ => rfl)
      fun o ho hoid => ?_
    obtain ⟨rfl, hlive⟩ := hv.of_id ho hoid
    exact .remove (by rw [← hoid]) hlive

/-- A contract may bring a new vehicle. -/
theorem Contracts.Request.vehiclesEvolve (rc : Contracts.Request) (env : Env) (T : String)
    (db : Database) : VehiclesEvolve (.tenant env T (.contracts rc)) db (rc.next env T db) := by
  cases rc with
  | create dto =>
    refine next_vehiclesEvolve fun c db' h => ?_
    obtain ⟨-, ⟨htype, vehicleInput, -, h⟩ | h⟩ := create_ok h
    · obtain ⟨-, s, e, -, -, hrow, hw⟩ := createWith_ok h
      refine evolves_insert (fun _ => .same) (congrArg Tables.vehicles hw) ⟨rfl, rfl, fun _ => ?_⟩
      refine ⟨c, ?_, ?_⟩
      · rw [hw]
        exact List.mem_append_right _ (List.mem_singleton_self _)
      · rw [hrow]
        exact ⟨rfl, htype, rfl, rfl⟩
    · obtain ⟨-, _, _, -, -, -, hw⟩ := createFor_ok h
      exact evolves_same (fun _ => .same) (by rw [hw]; rfl)
  | update id dto =>
    refine next_vehiclesEvolve fun c db' h => ?_
    obtain ⟨_, -, -, -, -, -, _, _, -, -, -, hw⟩ := update_ok h
    exact evolves_same (fun _ => .same) (by rw [hw]; rfl)
  | remove id =>
    refine next_vehiclesEvolve fun c db' h => ?_
    exact evolves_same (fun _ => .same) (by rw [(remove_ok h).2]; rfl)

/-- A vehicle leaves a branch that is closed. -/
theorem Branches.Request.vehiclesEvolve (rb : Branches.Request) (env : Env) (T : String)
    (db : Database) : VehiclesEvolve (.tenant env T (.branches rb)) db (rb.next env T db) := by
  cases rb with
  | create dto =>
    refine next_vehiclesEvolve fun b db' h => ?_
    exact evolves_same (fun _ => .same) (by rw [(create_ok h).2.2]; rfl)
  | update id dto =>
    refine next_vehiclesEvolve fun b db' h => ?_
    obtain ⟨_, -, -, -, -, -, hw⟩ := update_ok h
    exact evolves_same (fun _ => .same) (by rw [hw]; rfl)
  | remove id =>
    refine next_vehiclesEvolve fun b db' h => ?_
    exact evolves_update (fun _ => .same) (congrArg Tables.vehicles (remove_ok h).2)
      fun _ _ _ => ⟨rfl, .unbranch⟩

/-- A trip writes the status of its vehicle. -/
theorem Trips.Request.vehiclesEvolve (rt : Trips.Request) (env : Env) (T : String)
    (db : Database) : VehiclesEvolve (.tenant env T (.trips rt)) db (rt.next env T db) := by
  refine next_vehiclesEvolve fun t db' h => ?_
  cases rt with
  | startTrip vehicleId userId =>
    obtain ⟨_, -, -, -, -, -, -, hw⟩ := startTrip_ok h
    exact evolves_update (fun _ => .same) (congrArg Tables.vehicles hw)
      fun _ _ _ => ⟨rfl, .trip rfl⟩
  | endTrip tripId userId dto userRole =>
    obtain ⟨_, -, -, -, -, -, -, hw⟩ := endTrip_ok h
    exact evolves_update (fun _ => .same) (congrArg Tables.vehicles hw)
      fun _ _ _ => ⟨rfl, .trip rfl⟩
  | updateTrip tripId dto =>
    obtain ⟨_, -, -, -, -, hw⟩ := updateTrip_ok h
    exact evolves_same (fun _ => .same) (by rw [hw]; rfl)

/-- What a request does to the vehicles is on the list. -/
theorem step_vehicles (r : Request) (db : Database) : VehiclesEvolve r db (step r db) := by
  by_cases hw : Table.vehicles ∈ r.writes
  · cases r with
    | platform env r => simp [Request.writes] at hw
    | tenant env T r =>
      cases r with
      | trips rt => exact rt.vehiclesEvolve env T db
      | vehicles rv => exact rv.vehiclesEvolve env T db
      | contracts rc => exact rc.vehiclesEvolve env T db
      | branches rb => exact rb.vehiclesEvolve env T db
      | _ => simp [Request.writes, TenantRequest.writes] at hw
  · exact evolves_same (fun _ => .same) (@step_same db r .vehicles hw)

/-! ### Contracts -/

/-- What a request can do to a contract. -/
inductive ContractStep (r : Request) (c : Contract) : Contract → Prop
  | same : ContractStep r c c
  | update {env dto s e} (h : r = .tenant env c.tenantId (.contracts (.update c.id dto)))
      (hlive : c.deletedAt = none) (hs : dto.startDate.nullish.getD (some c.startDate) = some s)
      (he : dto.endDate.nullish.getD (some c.endDate) = some e) (hse : s < e) :
      ContractStep r c (dto.apply s e c)
  | remove {env} (h : r = .tenant env c.tenantId (.contracts (.remove c.id)))
      (hlive : c.deletedAt = none) : ContractStep r c { c with deletedAt := some env.now }

/-- A new contract is live, has a proper period, and names a vehicle if it sources one. -/
structure NewContract (c : Contract) : Prop where
  live : c.deletedAt = none
  period : c.startDate < c.endDate
  vehicle : c.type = .vehicleSource → c.vehicleId ≠ none

/-- A request changes contracts as listed. -/
abbrev ContractsEvolve (r : Request) (db db' : Database) : Prop :=
  Model.contract.Evolves (ContractStep r) NewContract db db'

/-- A vehicle may bring a new contract. -/
theorem Vehicles.Request.contractsEvolve (rv : Vehicles.Request) (env : Env) (T : String)
    (db : Database) : ContractsEvolve (.tenant env T (.vehicles rv)) db (rv.next env T db) := by
  cases rv with
  | create dto =>
    refine next_evolves (fun _ => .same) fun v db' h => ?_
    obtain ⟨-, _, _, -, -, -, ⟨-, hw⟩ | ⟨-, contract, s, e, -, -, -, hse, hw⟩⟩ := create_ok h
    · exact evolves_same (fun _ => .same) (by rw [hw]; rfl)
    · exact evolves_insert (fun _ => .same) (congrArg Tables.contracts hw) ⟨rfl, hse, nofun⟩
  | update id dto =>
    refine next_evolves (fun _ => .same) fun v db' h => ?_
    obtain ⟨-, -, _, _, hw⟩ := update_ok h
    exact evolves_same (fun _ => .same) (by rw [hw]; rfl)
  | remove id =>
    refine next_evolves (fun _ => .same) fun v db' h => ?_
    exact evolves_same (fun _ => .same) (by rw [(remove_ok h).2]; rfl)

/-- What requests on contracts do to a contract. -/
theorem Contracts.Request.contractsEvolve (rc : Contracts.Request) (env : Env) (T : String)
    (db : Database) : ContractsEvolve (.tenant env T (.contracts rc)) db (rc.next env T db) := by
  cases rc with
  | create dto =>
    refine next_evolves (fun _ => .same) fun c db' h => ?_
    have hnames : c.type = .vehicleSource → c.vehicleId ≠ none := create_names h
    obtain ⟨hle, ⟨-, vehicleInput, -, h⟩ | h⟩ := create_ok h
    · obtain ⟨-, s, e, hs, he, rfl, hw⟩ := createWith_ok h
      have hse : s < e := by simpa [hs, he] using hle
      exact evolves_insert (fun _ => .same) (congrArg Tables.contracts hw) ⟨rfl, hse, hnames⟩
    · obtain ⟨-, s, e, hs, he, rfl, hw⟩ := createFor_ok h
      have hse : s < e := by simpa [hs, he] using hle
      exact evolves_insert (fun _ => .same) (congrArg Tables.contracts hw) ⟨rfl, hse, hnames⟩
  | update id dto =>
    refine next_evolves (fun _ => .same) fun _ db' h => ?_
    obtain ⟨c, hc, rfl, rfl, hlive, -, s, e, hs, he, hse, hw⟩ := update_ok h
    exact evolves_updateAt (fun _ => .same) hc (congrArg Tables.contracts hw) (fun _ => rfl)
      (.update rfl hlive hs he hse)
  | remove id =>
    refine next_evolves (fun _ => .same) fun _ db' h => ?_
    obtain ⟨⟨c, hc, rfl, rfl, hlive⟩, hw⟩ := remove_ok h
    exact evolves_updateAt (fun _ => .same) hc (congrArg Tables.contracts hw) (fun _ => rfl)
      (.remove rfl hlive)

/-- What a request does to the contracts is on the list. -/
theorem step_contracts (r : Request) (db : Database) : ContractsEvolve r db (step r db) := by
  by_cases hw : Table.contracts ∈ r.writes
  · cases r with
    | platform env r => simp [Request.writes] at hw
    | tenant env T r =>
      cases r with
      | vehicles rv => exact rv.contractsEvolve env T db
      | contracts rc => exact rc.contractsEvolve env T db
      | _ => simp [Request.writes, TenantRequest.writes] at hw
  · exact evolves_same (fun _ => .same) (@step_same db r .contracts hw)

end NodeVms
