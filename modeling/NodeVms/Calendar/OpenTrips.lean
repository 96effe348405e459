/-
# Open trips

A trip is open until its `endTime` is written.  `startTrip` refuses a vehicle
with an open trip, so a vehicle has at most one.

The lemmas about one request are stated for a column of the trips, the vehicle
or the driver.
-/

import NodeVms.Tenancy.Isolation

namespace NodeVms
namespace Trips

open Store

variable {env : Env} {T : String} {db db' : Database} {trip : Trip} {col : Trip → String}

/-! ### Open trips -/

/-- Some trip is open in which the column (the vehicle or the driver) is `k`. -/
def OpenTrip (col : Trip → String) (l : List Trip) (k : String) : Prop :=
  ∃ r ∈ l, col r = k ∧ r.endTime = none

instance (col : Trip → String) (l : List Trip) (k : String) : Decidable (OpenTrip col l k) := by
  unfold OpenTrip; infer_instance

/-- Two open trips of one vehicle, or of one driver. -/
def Clash (col : Trip → String) (a b : Trip) : Prop :=
  a.endTime = none ∧ b.endTime = none ∧ col a = col b

instance (col : Trip → String) (a b : Trip) : Decidable (Clash col a b) := by
  unfold Clash; infer_instance

/-- Which of two trips comes first does not matter. -/
theorem Clash.symm (a b : Trip) (h : Clash col a b) : Clash col b a := by
  obtain ⟨ha, hb, hk⟩ := h
  exact ⟨hb, ha, hk.symm⟩

/-- A trip that starts is open. -/
theorem openTrip_append {l : List Trip} {r : Trip} {k : String} (hr : r.endTime = none) :
    OpenTrip col (l ++ [r]) k ↔ OpenTrip col l k ∨ col r = k := by
  constructor
  · rintro ⟨o, ho, hk, hopen⟩
    rcases List.mem_append.1 ho with ho | ho
    · exact .inl ⟨o, ho, hk, hopen⟩
    · rw [List.mem_singleton.1 ho] at hk
      exact .inr hk
  · rintro (⟨o, ho, hk, hopen⟩ | hk)
    · exact ⟨o, List.mem_append_left _ ho, hk, hopen⟩
    · exact ⟨r, List.mem_append_right _ (List.mem_singleton_self r), hk, hr⟩

section Written

variable {vehicleId userId tripId : String} {dto : UpdateTripDto} {userRole : Role}

/-- A new trip is open for its vehicle and its driver. -/
theorem startTrip_exclusive_iff (h : (startTrip env vehicleId T userId).exec db = .ok (trip, db')) :
    Exclusive (Clash col) db'.trips ↔
      Exclusive (Clash col) db.trips ∧ ¬OpenTrip col db.trips (col trip) := by
  obtain ⟨d, -, -, -, -, -, ht, hw⟩ := startTrip_ok h
  have hopen : trip.endTime = none := by rw [ht]; rfl
  have hrows : db'.trips = (Model.trip.insert [trip] db.toTables).trips := by rw [hw]; rfl
  have hfresh : trip ∉ db.trips := fun hmem =>
    db'.id_ne_of_append .trip (l := db.trips) hrows trip hmem rfl
  rw [hrows]
  refine (exclusive_append_singleton Clash.symm hfresh).trans (and_congr_right fun _ => ?_)
  constructor
  · rintro hno ⟨o, ho, hk, hoo⟩
    exact hno o ho ⟨hoo, hopen, hk⟩
  · rintro hno o ho ⟨hoo, -, hk⟩
    exact hno ⟨o, ho, hk, hoo⟩

/-- A closed trip clashes with none. -/
theorem endTrip_exclusive (h : (endTrip env tripId T userId dto userRole).exec db = .ok (trip, db'))
    (hx : Exclusive (Clash col) db.trips) : Exclusive (Clash col) db'.trips := by
  obtain ⟨t, ht, hid, -, -, -, -, hw⟩ := endTrip_ok h
  have hrows : db'.trips = (Model.trip.updateAt tripId (dto.close env.now) db.toTables).trips := by
    rw [hw]; rfl
  rw [hrows]
  refine hx.updateWhere_key Clash.symm (db.nodup_key .trip) ht hid hid ?_
  rintro o ⟨-, hclosed, -⟩
  cases hclosed

/-- The trips that are open after one has ended are the others. -/
theorem endTrip_openTrip_iff
    (h : (endTrip env tripId T userId dto userRole).exec db = .ok (trip, db')) {t : Trip}
    (ht : t ∈ db.trips) (hid : t.id.val = tripId) {k : String} :
    OpenTrip col db'.trips k ↔ ∃ r ∈ db.trips, r ≠ t ∧ col r = k ∧ r.endTime = none := by
  obtain ⟨t', -, -, -, -, -, -, hw⟩ := endTrip_ok h
  have hrows : db'.trips = (Model.trip.updateAt tripId (dto.close env.now) db.toTables).trips := by
    rw [hw]; rfl
  have hne : ∀ r ∈ db.trips, r.id.val ≠ tripId ↔ r ≠ t := by
    intro r hr
    refine not_congr ⟨fun hk => db.eq_of_id .trip hr ht (hk.trans hid.symm), ?_⟩
    rintro rfl
    exact hid
  rw [hrows]
  constructor
  · rintro ⟨r, hr, hk, hopen⟩
    rcases (mem_updateWhere_key (db.nodup_key .trip) ht hid).1 hr with ⟨hr, hrid⟩ | rfl
    · exact ⟨r, hr, (hne r hr).1 hrid, hk, hopen⟩
    · cases hopen
  · rintro ⟨r, hr, hrt, hk, hopen⟩
    exact ⟨r, (mem_updateWhere_key (db.nodup_key .trip) ht hid).2 (.inl ⟨hr, (hne r hr).2 hrt⟩), hk,
      hopen⟩

/-- A change of the costs opens and closes no trip. -/
theorem updateTrip_openTrip_iff (h : (updateTrip tripId T dto).exec db = .ok (trip, db'))
    (hcol : ∀ r, col (dto.apply r) = col r) {k : String} :
    OpenTrip col db'.trips k ↔ OpenTrip col db.trips k := by
  obtain ⟨t, ht, hid, -, -, hw⟩ := updateTrip_ok h
  rw [hw]
  constructor
  · rintro ⟨r, hr, hk, hopen⟩
    rcases mem_updateWhere.1 hr with ⟨hr, -⟩ | ⟨o, ho, -, rfl⟩
    · exact ⟨r, hr, hk, hopen⟩
    · exact ⟨o, ho, (hcol o).symm.trans hk, hopen⟩
  · intro hopen
    exact exists_updateWhere (fun r _ _ ⟨hk, ho⟩ => ⟨(hcol r).trans hk, ho⟩) hopen

/-- An update opens no trip. -/
theorem updateTrip_exclusive (h : (updateTrip tripId T dto).exec db = .ok (trip, db'))
    (hcol : ∀ r, col (dto.apply r) = col r) (hx : Exclusive (Clash col) db.trips) :
    Exclusive (Clash col) db'.trips := by
  obtain ⟨t, ht, hid, -, -, hw⟩ := updateTrip_ok h
  refine exclusive_updateAt_of_imp (m := .trip) Clash.symm ht hid rfl hw hx ?_
  rintro o ⟨ho, hopen, hk⟩
  exact ⟨ho, hopen, hk.trans (hcol t)⟩

end Written

/-! ### At most one open trip of a vehicle -/

/-- No service soft-deletes a trip. -/
theorem trips_live_of_reachable (h : Reachable db) : ∀ r ∈ db.trips, r.deletedAt = none := by
  refine h.invariant (I := fun db => ∀ r ∈ db.trips, r.deletedAt = none) (List.forall_mem_nil _)
    fun r db _ hlive => ?_
  rcases step_trips r db with hsame | ⟨env, T, rt, t, -, hok⟩
  · rwa [hsame]
  · cases rt with
    | startTrip vehicleId userId =>
      obtain ⟨d, -, -, -, -, -, ht, hw⟩ := startTrip_ok hok
      rw [hw]
      refine List.forall_mem_append.2 ⟨hlive, List.forall_mem_singleton.2 ?_⟩
      rw [ht]
      rfl
    | endTrip tripId userId dto userRole =>
      obtain ⟨t, -, -, -, -, -, -, hw⟩ := endTrip_ok hok
      rw [hw]
      exact forall_updateWhere hlive fun _ _ _ h => h
    | updateTrip tripId dto =>
      obtain ⟨t, -, -, -, -, hw⟩ := updateTrip_ok hok
      rw [hw]
      exact forall_updateWhere hlive fun _ _ _ h => h

/-- A vehicle on which a trip starts has no open trip, of whatever tenant. -/
theorem not_openTrip_of_startTrip {vehicleId userId : String} (hc : TenantClosed db.toTables)
    (hlive : ∀ r ∈ db.trips, r.deletedAt = none)
    (h : (startTrip env vehicleId T userId).exec db = .ok (trip, db')) :
    ¬OpenTrip Trip.vehicleId db.trips vehicleId := by
  obtain ⟨d, -, -, -, ⟨v, hv, hvid, hvT, -⟩, hno, -, -⟩ := startTrip_ok h
  rintro ⟨r, hr, hk, hopen⟩
  have hown : OwnVehicle db.toTables T vehicleId := ⟨v, hv, hvid, hvT⟩
  have hrT : r.tenantId = T := hown.tenant_eq (hk ▸ hc.trip_vehicle r hr)
  exact hno r hr hk hrT (hlive r hr) hopen

/-- In every reachable state a vehicle has at most one open trip. -/
theorem vehicle_exclusive_of_reachable (h : Reachable db) :
    Exclusive (Clash Trip.vehicleId) db.trips := by
  refine h.invariant (I := fun db => Exclusive (Clash Trip.vehicleId) db.trips) exclusive_nil
    fun r db hdb hx => ?_
  have hrows := step_trips r db
  rcases hrows with hsame | ⟨env, T, rt, t, -, hok⟩
  · rwa [hsame]
  · cases rt with
    | startTrip vehicleId userId =>
      refine (startTrip_exclusive_iff hok).2 ⟨hx, ?_⟩
      obtain ⟨d, -, -, -, -, -, ht, -⟩ := startTrip_ok hok
      rw [ht]
      exact not_openTrip_of_startTrip (tenantClosed_of_reachable hdb) (trips_live_of_reachable hdb)
        hok
    | endTrip tripId userId dto userRole => exact endTrip_exclusive hok hx
    | updateTrip tripId dto => exact updateTrip_exclusive hok (fun _ => rfl) hx

end Trips
end NodeVms
