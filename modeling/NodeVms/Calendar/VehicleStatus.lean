/-
# The status of vehicles and the trips

`Vehicle.status` repeats what the trip table says: `startTrip` writes `ON_TRIP`,
`endTrip` `AVAILABLE`.  `PATCH /vehicles` may write any status at any time, so
the two agree for the vehicles no such request, once accepted, has set against the
trip table.
-/

import NodeVms.Calendar.OpenTrips
import NodeVms.Integrity.Steps

namespace NodeVms
namespace Trips

open Store

variable {env : Env} {T : String} {db db' : Database}

/-! ### Where the vehicles of the next state come from -/

/-- The request is a `PATCH /vehicles/:id` that supplies the status. -/
def SetsStatus (r : NodeVms.Request) (id : String) (status : VehicleStatus) : Prop :=
  ∃ env T dto, r = .tenant env T (.vehicles (.update id dto)) ∧ dto.status = .value status

/-- A live vehicle was live before, with the same status unless the request has
set it. -/
def KeepsStatus (r : NodeVms.Request) (v v' : Vehicle) : Prop :=
  (v'.deletedAt = none → v.deletedAt = none) ∧
    (v'.status = v.status ∨ SetsStatus r v'.id.val v'.status)

/-- The vehicles are old ones with their status, or new and available. -/
abbrev VehiclesFrom (r : NodeVms.Request) (db db' : Database) : Prop :=
  Model.vehicle.Descends (KeepsStatus r) (fun v => v.status = .available) db db'

/-- What a request can do to a vehicle, requests on trips aside. -/
theorem keepsStatus_of_vehicleStep {r : NodeVms.Request} {v v' : Vehicle}
    (hr : ∀ env T rt, r ≠ .tenant env T (.trips rt)) (h : VehicleStep r v v') :
    KeepsStatus r v v' := by
  cases h with
  | same => exact ⟨fun h => h, .inl rfl⟩
  | unbranch => exact ⟨fun h => h, .inl rfl⟩
  | trip h => exact absurd h (hr _ _ _)
  | @update env dto h hlive fitness taxToken =>
    refine ⟨fun _ => hlive, ?_⟩
    change dto.status.set v.status = v.status ∨ SetsStatus r v.id (dto.status.set v.status)
    cases hf : dto.status with
    | undefined => exact .inl rfl
    | null => exact .inl rfl
    | value s => exact .inr ⟨env, v.tenantId, dto, h, hf⟩
  | remove h hlive => exact ⟨nofun, .inl rfl⟩

/-- Requests on trips aside, a request creates available vehicles and changes
the status of old ones only by supplying it. -/
theorem vehiclesFrom_step (r : NodeVms.Request)
    (hr : ∀ env T rt, r ≠ .tenant env T (.trips rt)) : VehiclesFrom r db (step r db) := by
  intro v' hv'
  rcases (step_vehicles r db).descends v' hv' with ⟨v, hv, hid, hstep⟩ | ⟨hnew, hv'⟩
  · exact .inl ⟨v, hv, hid, keepsStatus_of_vehicleStep hr hstep⟩
  · exact .inr ⟨hnew, hv'.available⟩

/-! ### The law -/

/-- The vehicle `id` is on a trip exactly if its status says so. -/
def StatusMirrorsTrips (id : String) (t : Tables) : Prop :=
  ∀ v ∈ t.vehicles, v.id.val = id → v.deletedAt = none →
    (v.status = .onTrip ↔ OpenTrip Trip.vehicleId t.trips id)

instance (id : String) (t : Tables) : Decidable (StatusMirrorsTrips id t) := by
  unfold StatusMirrorsTrips; infer_instance

/-- If the request is an accepted update that sets the status of the vehicle `id`, then to
what the trip table says. -/
def SetsStatusByTrips (id : String) (r : NodeVms.Request) (db : Database) : Prop :=
  ∀ p ∈ r.vehicleUpdate?, p.2.1 = id → (Vehicles.update p.1 p.2.1 p.2.2).Accepted db →
    ∀ s ∈ p.2.2.status.nullish, (s = .onTrip ↔ OpenTrip Trip.vehicleId db.trips id)

instance (id : String) (r : NodeVms.Request) (db : Database) :
    Decidable (SetsStatusByTrips id r db) := by
  unfold SetsStatusByTrips; infer_instance

/-- A request that changes anything is accepted, so the status it sets is that of the trips. -/
theorem SetsStatusByTrips.iff_openTrip {r : NodeVms.Request} {id : String} {s : VehicleStatus}
    (hr : SetsStatusByTrips id r db) (hchanges : step r db ≠ db) (hs : SetsStatus r id s) :
    s = .onTrip ↔ OpenTrip Trip.vehicleId db.trips id := by
  obtain ⟨env, T, dto, rfl, hs⟩ := hs
  have haccepted : (Vehicles.update T id dto).Accepted db := by
    by_contra hnot
    exact hchanges (Script.next_of_not_accepted hnot)
  exact hr _ rfl rfl haccepted s (Field.nullish_eq_some.2 hs)

/-- The request starts a trip on the vehicle `id` or ends one of its trips. -/
def Request.Moves (id : String) (db : Database) : Request → Prop
  | .startTrip vehicleId _ => vehicleId = id
  | .endTrip tripId _ _ _ => ∃ t ∈ db.trips, t.id.val = tripId ∧ t.vehicleId = id
  | .updateTrip _ _ => False

/-- Requests on trips aside, the vehicle keeps mirroring its trips. -/
theorem statusMirrorsTrips_of_vehiclesFrom {r : NodeVms.Request} {id : String}
    (h : StatusMirrorsTrips id db.toTables)
    (hr : ∀ s, SetsStatus r id s → (s = .onTrip ↔ OpenTrip Trip.vehicleId db.trips id))
    (htrips : db'.trips = db.trips) (hfrom : VehiclesFrom r db db') :
    StatusMirrorsTrips id db'.toTables := by
  intro v' hv' hid hd
  rw [htrips]
  rcases hfrom v' hv' with ⟨v, hv, hvid, hvd, hs⟩ | ⟨hnew, hs⟩
  · have hvid : v.id.val = id := (congrArg Cuid.val hvid).trans hid
    rcases hs with hs | hs
    · rw [hs]
      exact h v hv hvid (hvd hd)
    · rw [hid] at hs
      exact hr v'.status hs
  · -- a trip of a new vehicle would have referred to no vehicle
    rw [hs]
    refine ⟨nofun, ?_⟩
    rintro ⟨r, hr, hk, -⟩
    obtain ⟨o, ho, hoid⟩ := db.exists_of_fkey Schema.trip_vehicleId_fkey hr rfl
    exact absurd (hoid.trans (hk.trans hid.symm)) (hnew o ho)

/-- A request on trips has the vehicle mirror them if it did before or if the
trip is one of the vehicle. -/
theorem statusMirrorsTrips_trips {rt : Request} {trip : Trip} {id : String} (hdb : Reachable db)
    (hok : (rt.handler env T).exec db = .ok (trip, db'))
    (h : rt.Moves id db ∨ StatusMirrorsTrips id db.toTables) :
    StatusMirrorsTrips id db'.toTables := by
  have hx := vehicle_exclusive_of_reachable hdb
  cases rt with
  | startTrip vehicleId userId =>
    obtain ⟨d, -, -, -, -, -, ht, hw⟩ := startTrip_ok hok
    have htrips : db'.trips = db.trips ++ [trip] := congrArg Tables.trips hw
    have hopen : trip.endTime = none := by rw [ht]; rfl
    have hvid : trip.vehicleId = vehicleId := by rw [ht]; rfl
    intro v' hv' hid hd
    rw [htrips, openTrip_append hopen, hvid]
    have hv' : v' ∈
        updateWhere (fun v => v.id.val = vehicleId) (setStatus .onTrip) db.vehicles := by
      rw [hw] at hv'
      exact hv'
    rcases mem_updateWhere.1 hv' with ⟨hv, hp⟩ | ⟨v, hv, hp, rfl⟩
    · have hne : vehicleId ≠ id := fun hk => of_decide_eq_false hp (hid.trans hk.symm)
      rw [h.resolve_left hne v' hv hid hd]
      exact ⟨.inl, fun h => h.resolve_right hne⟩
    · have hk : vehicleId = id := (of_decide_eq_true hp).symm.trans hid
      exact ⟨fun _ => .inr hk, fun _ => rfl⟩
  | endTrip tripId userId dto userRole =>
    obtain ⟨t, ht, htid, -, -, htopen, -, hw⟩ := endTrip_ok hok
    intro v' hv' hid hd
    rw [endTrip_openTrip_iff hok ht htid]
    have hv' : v' ∈ updateWhere (fun v => v.id.val = t.vehicleId) (setStatus .available)
        db.vehicles := by
      rw [hw] at hv'
      exact hv'
    rcases mem_updateWhere.1 hv' with ⟨hv, hp⟩ | ⟨v, hv, hp, rfl⟩
    · have hne : t.vehicleId ≠ id := fun hk => of_decide_eq_false hp (hid.trans hk.symm)
      have hmoves : ¬(Request.endTrip tripId userId dto userRole).Moves id db := by
        rintro ⟨t', ht', htid', hk⟩
        rw [db.eq_of_id .trip ht' ht (htid'.trans htid.symm)] at hk
        exact hne hk
      rw [h.resolve_left hmoves v' hv hid hd]
      constructor
      · rintro ⟨r, hr, hk, hopen⟩
        refine ⟨r, hr, ?_, hk, hopen⟩
        rintro rfl
        exact hne hk
      · rintro ⟨r, hr, -, hk, hopen⟩
        exact ⟨r, hr, hk, hopen⟩
    · -- the trip that ended was the only open one of the vehicle
      have hk : t.vehicleId = id := (of_decide_eq_true hp).symm.trans hid
      refine ⟨nofun, ?_⟩
      rintro ⟨r, hr, hne, hrk, hopen⟩
      exact absurd ⟨hopen, htopen, hrk.trans hk.symm⟩ (hx r hr t ht hne)
  | updateTrip tripId dto =>
    obtain ⟨t, -, -, -, -, hw⟩ := updateTrip_ok hok
    intro v' hv' hid hd
    rw [updateTrip_openTrip_iff hok fun _ => rfl]
    have hv' : v' ∈ db.vehicles := by
      rw [hw] at hv'
      exact hv'
    exact h.resolve_left (fun h => h) v' hv' hid hd

/-- A request keeps a vehicle mirroring its trips, unless it is accepted and sets the
status against them. -/
theorem statusMirrorsTrips_step {r : NodeVms.Request} {id : String} (hdb : Reachable db)
    (h : StatusMirrorsTrips id db.toTables) (hr : SetsStatusByTrips id r db) :
    StatusMirrorsTrips id (step r db).toTables := by
  by_cases htrips : ∃ env T rt, r = .tenant env T (.trips rt)
  · obtain ⟨env, T, rt, rfl⟩ := htrips
    rcases (rt.handler env T).next_cases db with hsame | ⟨t, hok⟩
    · have hsame : step (.tenant env T (.trips rt)) db = db := hsame
      rwa [hsame]
    · exact statusMirrorsTrips_trips hdb hok (.inr h)
  · have hne : ∀ env T rt, r ≠ .tenant env T (.trips rt) := fun env T rt hrt =>
      htrips ⟨env, T, rt, hrt⟩
    rcases step_trips r db with hsame | ⟨env, T, rt, t, hrt, -⟩
    · by_cases hchanges : step r db = db
      · rwa [hchanges]
      · exact statusMirrorsTrips_of_vehiclesFrom h (fun _ hs => hr.iff_openTrip hchanges hs) hsame
          (vehiclesFrom_step r hne)
    · exact absurd hrt (hne env T rt)

/-- From a state in which the vehicle mirrors its trips it does so until a request
sets the status against them. -/
theorem always_statusMirrorsTrips {id : String} {rs : List NodeVms.Request} (hdb : Reachable db)
    (h : StatusMirrorsTrips id db.toTables) (hrs : Along step (SetsStatusByTrips id) rs db) :
    Always step (fun db => StatusMirrorsTrips id db.toTables) rs db :=
  Always.of_along (I := Reachable) (fun r _ hdb => hdb.next r)
    (fun _ _ hdb h hr => statusMirrorsTrips_step hdb h hr) hdb h hrs

/-- From the empty database on, and again from every start and every end of one
of its trips on, a live vehicle has status `ON_TRIP` exactly if it has an open
trip, until a request sets its status against the trip table. -/
theorem vehicle_status_mirrors_trips (id : String) :
    (∀ rs, Along step (SetsStatusByTrips id) rs Database.empty →
      Always step (fun db => StatusMirrorsTrips id db.toTables) rs Database.empty) ∧
    ∀ db, Reachable db → ∀ env T (rt : Request) trip,
      (rt.handler env T).exec db = .ok (trip, step (.tenant env T (.trips rt)) db) →
      rt.Moves id db →
      ∀ rs, Along step (SetsStatusByTrips id) rs (step (.tenant env T (.trips rt)) db) →
        Always step (fun db => StatusMirrorsTrips id db.toTables) rs
          (step (.tenant env T (.trips rt)) db) := by
  refine ⟨fun rs hrs => ?_, fun db hdb env T rt trip hok hmoves rs hrs => ?_⟩
  · exact always_statusMirrorsTrips .refl (fun _ hv => absurd hv List.not_mem_nil) hrs
  · exact always_statusMirrorsTrips (hdb.next _) (statusMirrorsTrips_trips hdb hok (.inl hmoves))
      hrs

/-- A trip with `v0`, and a workshop stay after it. -/
theorem vehicle_status_mirrors_trips_workshop :
    Always step (fun db => StatusMirrorsTrips "v0" db.toTables)
      (Sample.company ++
        [Sample.assignment "a" "t0" "v0" "d0" 0 .null, Sample.startTrip "r" "t0" "v0" "u0" 5,
         Sample.endTrip "x" "t0" "r0" 7,
         .tenant (.sample "x" 8) "t0"
           (.vehicles (.update "v0" { status := .value .maintenance }))]) Database.empty :=
  (vehicle_status_mirrors_trips "v0").1 _ (by decide)

/-- An administrator sends `v0` to the workshop in the middle of a trip. -/
theorem vehicle_status_during_trip :
    ¬∀ db, Reachable db → ∀ id, StatusMirrorsTrips id db.toTables := by
  intro h
  let rs := Sample.company ++
    [Sample.assignment "a" "t0" "v0" "d0" 0 .null, Sample.startTrip "r" "t0" "v0" "u0" 5,
     .tenant (.sample "x" 6) "t0" (.vehicles (.update "v0" { status := .value .maintenance }))]
  have hrow : ¬StatusMirrorsTrips "v0" (run step rs Database.empty).toTables := by decide
  exact hrow (h _ ⟨rs, rfl⟩ "v0")

end Trips
end NodeVms
