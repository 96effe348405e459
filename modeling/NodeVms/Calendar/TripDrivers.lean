/-
# Drivers and their trips

`startTrip` asks for an assignment of the driver to the vehicle and for the
state of the vehicle, not for the driver's other trips.  A driver whose
assignment ends, or is removed, during a trip can be assigned to a second
vehicle and start a second trip; the end of either makes the driver available.
-/

import NodeVms.Calendar.OpenTrips

namespace NodeVms
namespace Trips

open Store

variable {env : Env} {T : String} {db db' : Database}

/-! ### Where the drivers of the next state come from -/

/-- No request edits the availability of a driver by hand. -/
def LeavesAvailability (r : NodeVms.Request) : Prop :=
  ∀ dto ∈ r.driverUpdate?, dto.isAvailable.nullish = none

instance (r : NodeVms.Request) : Decidable (LeavesAvailability r) := by
  unfold LeavesAvailability; infer_instance

/-- The drivers are old ones with their availability, or new and available. -/
abbrev DriversFrom (db db' : Database) : Prop :=
  Model.driver.Descends (fun d d' => d'.isAvailable = d.isAvailable)
    (fun d => d.isAvailable = true) db db'

/-- A request on drivers leaves the availability alone, unless it edits it by hand. -/
theorem driversFrom_drivers (rd : Drivers.Request)
    (hr : LeavesAvailability (.tenant env T (.drivers rd))) :
    DriversFrom db (rd.next env T db) := by
  cases rd with
  | create dto =>
    refine next_descends (fun _ => rfl) fun d db' hok => ?_
    obtain ⟨-, -, hd, hw⟩ := Drivers.create_ok hok
    exact descends_insert (fun _ => rfl) (congrArg Tables.drivers hw) (by rw [hd])
  | update id dto =>
    refine next_descends (fun _ => rfl) fun d db' hok => ?_
    obtain ⟨-, -, hw⟩ := Drivers.update_ok hok
    refine descends_update (fun _ => rfl) (congrArg Tables.drivers hw) fun d _ _ => ⟨rfl, ?_⟩
    have hnone : dto.isAvailable.nullish = none := hr dto rfl
    change dto.isAvailable.set d.isAvailable = d.isAvailable
    cases hf : dto.isAvailable with
    | undefined => rfl
    | null => rfl
    | value b => rw [hf] at hnone; exact nomatch hnone
  | remove id =>
    refine next_descends (fun _ => rfl) fun d db' hok => ?_
    exact descends_update (fun _ => rfl) (congrArg Tables.drivers (Drivers.remove_ok hok).2)
      fun _ _ _ => ⟨rfl, rfl⟩

/-- Requests on branches leave it alone. -/
theorem driversFrom_branches (rb : Branches.Request) : DriversFrom db (rb.next env T db) := by
  cases rb with
  | create dto =>
    refine next_descends (fun _ => rfl) fun b db' hok => ?_
    exact descends_same (fun _ => rfl) (by rw [(Branches.create_ok hok).2.2]; rfl)
  | update id dto =>
    refine next_descends (fun _ => rfl) fun b db' hok => ?_
    obtain ⟨_, -, -, -, -, -, hw⟩ := Branches.update_ok hok
    exact descends_same (fun _ => rfl) (by rw [hw]; rfl)
  | remove id =>
    refine next_descends (fun _ => rfl) fun b db' hok => ?_
    exact descends_update (fun _ => rfl) (congrArg Tables.drivers (Branches.remove_ok hok).2)
      fun _ _ _ => ⟨rfl, rfl⟩

/-- Requests on trips aside, a request creates available drivers and leaves the
availability of old ones as it is. -/
theorem driversFrom_step (r : NodeVms.Request) (hr : LeavesAvailability r)
    (htrips : ∀ env T rt, r ≠ .tenant env T (.trips rt)) : DriversFrom db (step r db) := by
  by_cases hw : Table.drivers ∈ r.writes
  · cases r with
    | platform env r => simp [Request.writes] at hw
    | tenant env T r =>
      cases r with
      | trips rt => exact absurd rfl (htrips env T rt)
      | drivers rd => exact driversFrom_drivers rd hr
      | branches rb => exact driversFrom_branches rb
      | _ => simp [Request.writes, TenantRequest.writes] at hw
  · have hsame : (step r db).drivers = db.drivers := step_same r hw
    exact descends_same (fun _ => rfl) hsame

/-! ### The law -/

/-- Every driver has at most one open trip, and is unavailable exactly while
there is one. -/
def OneTripPerDriver (t : Tables) : Prop :=
  Exclusive (Clash Trip.driverId) t.trips ∧
    ∀ d ∈ t.drivers, (d.isAvailable = false ↔ OpenTrip Trip.driverId t.trips d.id)

instance (t : Tables) : Decidable (OneTripPerDriver t) := by
  unfold OneTripPerDriver Exclusive; infer_instance

/-- A request that starts a trip comes from a driver without an open one. -/
def StartsIdleDriver (r : NodeVms.Request) (db : Database) : Prop :=
  ∀ p ∈ r.startTrip?, ∀ d ∈ db.drivers, isDriverOf p.2 p.1 d →
    ¬OpenTrip Trip.driverId db.trips d.id

instance (r : NodeVms.Request) (db : Database) : Decidable (StartsIdleDriver r db) := by
  unfold StartsIdleDriver; infer_instance

/-- The trips as they are, the drivers keep the law. -/
theorem oneTripPerDriver_of_driversFrom (h : OneTripPerDriver db.toTables)
    (htrips : db'.trips = db.trips) (hfrom : DriversFrom db db') :
    OneTripPerDriver db'.toTables := by
  refine ⟨htrips ▸ h.1, fun d' hd' => ?_⟩
  rw [htrips]
  rcases hfrom d' hd' with ⟨d, hd, hid, ha⟩ | ⟨hnew, ha⟩
  · have hid : d.id = d'.id := hid
    rw [ha, ← hid]
    exact h.2 d hd
  · -- a trip of a new driver would have referred to no driver
    rw [ha]
    refine ⟨nofun, ?_⟩
    rintro ⟨r, hr, hk, -⟩
    obtain ⟨o, ho, hoid⟩ := db.exists_of_fkey Schema.trip_driverId_fkey hr rfl
    exact absurd (hoid.trans hk) (hnew o ho)

/-- Starting a trip keeps the law exactly if the driver had no open one. -/
theorem startTrip_oneTripPerDriver_iff {vehicleId userId : String} {trip : Trip}
    (h : OneTripPerDriver db.toTables)
    (hok : (startTrip env vehicleId T userId).exec db = .ok (trip, db')) :
    OneTripPerDriver db'.toTables ↔ ∀ d ∈ db.drivers, isDriverOf userId T d →
      ¬OpenTrip Trip.driverId db.trips d.id := by
  obtain ⟨d, hd, hdu, -, -, -, ht, hw⟩ := startTrip_ok hok
  have htrips : db'.trips = db.trips ++ [trip] := congrArg Tables.trips hw
  have hopen : trip.endTime = none := by rw [ht]; rfl
  have hdid : trip.driverId = d.id := by rw [ht]; rfl
  have hone : ∀ o ∈ db.drivers, isDriverOf userId T o → o = d := fun o ho hou =>
    db.driver_eq_of_userId ho hd hou.1 hdu.1
  constructor
  · rintro ⟨hx, -⟩ o ho hou
    rw [hone o ho hou, ← hdid]
    exact ((startTrip_exclusive_iff hok).1 hx).2
  · intro hidle
    refine ⟨(startTrip_exclusive_iff hok).2 ⟨h.1, ?_⟩, fun d' hd' => ?_⟩
    · rw [hdid]
      exact hidle d hd hdu
    rw [htrips, openTrip_append hopen, hdid]
    have hd' : d' ∈ updateWhere (fun o => o.id.val = d.id.val) (setAvailable false) db.drivers := by
      rw [hw] at hd'
      exact hd'
    rcases mem_updateWhere.1 hd' with ⟨ho, hp⟩ | ⟨o, ho, hp, rfl⟩
    · have hne : d.id.val ≠ d'.id.val := fun hk => of_decide_eq_false hp hk.symm
      rw [h.2 d' ho]
      exact ⟨.inl, fun h => h.resolve_right hne⟩
    · have hk : o.id.val = d.id.val := of_decide_eq_true hp
      exact ⟨fun _ => .inr hk.symm, fun _ => rfl⟩

/-- The trip that ends is the only open one of its driver. -/
theorem endTrip_oneTripPerDriver {tripId userId : String} {dto : UpdateTripDto} {userRole : Role}
    {trip : Trip} (h : OneTripPerDriver db.toTables)
    (hok : (endTrip env tripId T userId dto userRole).exec db = .ok (trip, db')) :
    OneTripPerDriver db'.toTables := by
  obtain ⟨t, ht, htid, -, -, htopen, -, hw⟩ := endTrip_ok hok
  refine ⟨endTrip_exclusive hok h.1, fun d' hd' => ?_⟩
  rw [endTrip_openTrip_iff hok ht htid]
  have hd' : d' ∈ updateWhere (fun o => o.id.val = t.driverId) (setAvailable true) db.drivers := by
    rw [hw] at hd'
    exact hd'
  rcases mem_updateWhere.1 hd' with ⟨ho, hp⟩ | ⟨o, ho, hp, rfl⟩
  · have hne : d'.id.val ≠ t.driverId := of_decide_eq_false hp
    rw [h.2 d' ho]
    constructor
    · rintro ⟨r, hr, hk, hopen⟩
      refine ⟨r, hr, ?_, hk, hopen⟩
      rintro rfl
      exact hne hk.symm
    · rintro ⟨r, hr, -, hk, hopen⟩
      exact ⟨r, hr, hk, hopen⟩
  · have hk : o.id.val = t.driverId := of_decide_eq_true hp
    refine ⟨nofun, ?_⟩
    rintro ⟨r, hr, hne, hrk, hopen⟩
    exact absurd ⟨hopen, htopen, hrk.trans hk⟩ (h.1 r hr t ht hne)

/-- An update changes neither the driver of a trip nor its end. -/
theorem updateTrip_oneTripPerDriver {tripId : String} {dto : UpdateTripDto} {trip : Trip}
    (h : OneTripPerDriver db.toTables)
    (hok : (updateTrip tripId T dto).exec db = .ok (trip, db')) :
    OneTripPerDriver db'.toTables := by
  refine ⟨updateTrip_exclusive hok (fun _ => rfl) h.1, fun d hd => ?_⟩
  obtain ⟨t, -, -, -, -, hw⟩ := updateTrip_ok hok
  rw [updateTrip_openTrip_iff hok fun _ => rfl]
  rw [hw] at hd
  exact h.2 d hd

/-- A request that does not edit the availability keeps the law exactly if a
trip it starts is the driver's only open one, or it changes nothing. -/
theorem oneTripPerDriver_step_iff {r : NodeVms.Request} (h : OneTripPerDriver db.toTables)
    (hr : LeavesAvailability r) :
    OneTripPerDriver (step r db).toTables ↔ StartsIdleDriver r db ∨ step r db = db := by
  by_cases htrips : ∃ env T rt, r = .tenant env T (.trips rt)
  · obtain ⟨env, T, rt, rfl⟩ := htrips
    have hsame : step (.tenant env T (.trips rt)) db = db →
        OneTripPerDriver (step (.tenant env T (.trips rt)) db).toTables := by
      intro hsame
      rwa [hsame]
    rcases (rt.handler env T).next_cases db with hnext | ⟨t, hok⟩
    · exact ⟨fun _ => .inr hnext, fun _ => hsame hnext⟩
    · cases rt with
      | startTrip vehicleId userId =>
        have hiff := startTrip_oneTripPerDriver_iff h hok
        constructor
        · intro h'
          refine .inl fun p hp => ?_
          rw [← Option.some.inj hp]
          exact hiff.1 h'
        · rintro (hidle | hnext)
          · exact hiff.2 (hidle (T, userId) rfl)
          · exact hsame hnext
      | endTrip tripId userId dto userRole =>
        exact ⟨fun _ => .inl nofun, fun _ => endTrip_oneTripPerDriver h hok⟩
      | updateTrip tripId dto =>
        exact ⟨fun _ => .inl nofun, fun _ => updateTrip_oneTripPerDriver h hok⟩
  · have hne : ∀ env T rt, r ≠ .tenant env T (.trips rt) := fun env T rt hrt =>
      htrips ⟨env, T, rt, hrt⟩
    have hkeep : OneTripPerDriver (step r db).toTables := by
      rcases step_trips r db with hsame | ⟨env, T, rt, t, hrt, -⟩
      · exact oneTripPerDriver_of_driversFrom h hsame (driversFrom_step r hr hne)
      · exact absurd hrt (hne env T rt)
    refine ⟨fun _ => .inl fun p hp => ?_, fun _ => hkeep⟩
    cases r with
    | platform env r => exact nomatch hp
    | tenant env T r =>
      cases r with
      | trips rt => exact absurd rfl (hne env T rt)
      | _ => exact nomatch hp

/-- In a run that does not edit the availability of drivers, and in which every
trip is started by a driver without an open one, a driver has at most one open
trip and is unavailable exactly while there is one; and after any run that
leaves the law intact, a start by a driver who has an open trip is rejected or
breaks it. -/
theorem one_trip_per_driver (rs : List NodeVms.Request) :
    (Along step (fun r db => LeavesAvailability r ∧ StartsIdleDriver r db) rs Database.empty →
      Always step (fun db => OneTripPerDriver db.toTables) rs Database.empty) ∧
    let db := run step rs Database.empty
    OneTripPerDriver db.toTables → ∀ r, LeavesAvailability r → ¬StartsIdleDriver r db →
      step r db = db ∨ ¬OneTripPerDriver (step r db).toTables := by
  refine ⟨fun hrs => ?_, fun h r hr hstarts => ?_⟩
  · have hempty : OneTripPerDriver Database.empty.toTables :=
      ⟨exclusive_nil, fun d hd => absurd hd List.not_mem_nil⟩
    exact Always.of_along (I := fun _ => True) (fun _ _ _ => trivial)
      (fun r db _ h hr => (oneTripPerDriver_step_iff h hr.1).2 (.inl hr.2)) trivial hempty hrs
  · rw [or_iff_not_imp_right, not_not]
    intro hlaw
    exact ((oneTripPerDriver_step_iff h hr).1 hlaw).resolve_left hstarts

/-- `d0` drives `v0` and, when that trip has ended, `w0`. -/
theorem one_trip_per_driver_in_turn :
    Always step (fun db => OneTripPerDriver db.toTables)
      (Sample.company ++
        [Sample.assignment "a" "t0" "v0" "d0" 0 (.value (some 10)),
         Sample.startTrip "r" "t0" "v0" "u0" 5, Sample.endTrip "x" "t0" "r0" 8,
         Sample.assignment "b" "t0" "w0" "d0" 20 .null,
         Sample.startTrip "q" "t0" "w0" "u0" 25]) Database.empty :=
  (one_trip_per_driver _).1 (by decide)

/-- The assignment of `d0` to `v0` is removed during the trip, and `d0` sets off
with `w0`. -/
theorem two_trips_of_one_driver :
    ¬∀ rs, (∀ r ∈ rs, LeavesAvailability r) →
      OneTripPerDriver (run step rs Database.empty).toTables := by
  intro h
  let rs := Sample.company ++
    [Sample.assignment "a" "t0" "v0" "d0" 0 .null, Sample.startTrip "r" "t0" "v0" "u0" 5,
     .tenant (.sample "x" 6) "t0" (.assignments (.remove "a0")),
     Sample.assignment "b" "t0" "w0" "d0" 6 .null, Sample.startTrip "q" "t0" "w0" "u0" 7]
  have hrs : ∀ r ∈ rs, LeavesAvailability r := by decide
  have hbroken : ¬OneTripPerDriver (run step rs Database.empty).toTables := by decide
  exact hbroken (h rs hrs)

end Trips
end NodeVms
