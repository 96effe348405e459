/-
# The life of a trip

A trip is created by `startTrip`, under an assignment that is in force, and
closed by `endTrip`.  Its tenant, vehicle, driver and start are written once,
and so is its end; nothing else a request can do reaches them, whatever it does
to the status of the vehicle, the availability of the driver, or to vehicle,
driver and assignment themselves.

Who created a trip is found by going back along the run to the request before
which the trip was not there (`Store.exists_begin`).
-/

import NodeVms.Calendar.OpenTrips

namespace NodeVms
namespace Trips

open Store

variable {db : Database}

/-! ### What a request does to the trips -/

/-- Nothing, or it appends a trip, closes an open one, or changes costs. -/
theorem step_trips_cases (r : NodeVms.Request) (db : Database) :
    (step r db).trips = db.trips ∨
    (∃ env T vehicleId userId trip, r = .tenant env T (.trips (.startTrip vehicleId userId)) ∧
      (startTrip env vehicleId T userId).exec db = .ok (trip, step r db) ∧
      (step r db).trips = db.trips ++ [trip]) ∨
    (∃ t ∈ db.trips, ∃ dto : UpdateTripDto, t.endTime = none ∧
      (step r db).trips = updateWhere (fun o => o.id.val = t.id.val) (dto.close r.env.now)
        db.trips) ∨
    (∃ id, ∃ dto : UpdateTripDto,
      (step r db).trips = updateWhere (fun o => o.id.val = id) dto.apply db.trips) := by
  rcases step_trips r db with hsame | ⟨env, T, rt, trip, rfl, hok⟩
  · exact .inl hsame
  · cases rt with
    | startTrip vehicleId userId =>
      obtain ⟨_, -, -, -, -, -, -, hw⟩ := startTrip_ok hok
      exact .inr (.inl ⟨env, T, vehicleId, userId, trip, rfl, hok, by rw [hw]; rfl⟩)
    | endTrip tripId userId dto userRole =>
      obtain ⟨t, ht, htid, -, -, hopen, -, hw⟩ := endTrip_ok hok
      exact .inr (.inr (.inl ⟨t, ht, dto, hopen, by rw [hw, htid]; rfl⟩))
    | updateTrip tripId dto =>
      obtain ⟨t, -, -, -, -, hw⟩ := updateTrip_ok hok
      exact .inr (.inr (.inr ⟨tripId, dto, by rw [hw]; rfl⟩))

/-! ### What a trip keeps -/

/-- `t'` is the trip `t` later on. -/
structure Continues (t t' : Trip) : Prop where
  id : t'.id = t.id
  tenantId : t'.tenantId = t.tenantId
  vehicleId : t'.vehicleId = t.vehicleId
  driverId : t'.driverId = t.driverId
  startTime : t'.startTime = t.startTime
  endTime : ∀ e ∈ t.endTime, t'.endTime = some e

/-- A trip continues itself. -/
theorem Continues.refl (t : Trip) : Continues t t := ⟨rfl, rfl, rfl, rfl, rfl, fun _ h => h⟩

/-- Two continuations are one. -/
theorem Continues.trans {t t' t'' : Trip} (h : Continues t t') (h' : Continues t' t'') :
    Continues t t'' where
  id := h'.id.trans h.id
  tenantId := h'.tenantId.trans h.tenantId
  vehicleId := h'.vehicleId.trans h.vehicleId
  driverId := h'.driverId.trans h.driverId
  startTime := h'.startTime.trans h.startTime
  endTime e he := h'.endTime e (h.endTime e he)

/-- A request keeps every trip. -/
theorem continues_step (r : NodeVms.Request) {t : Trip} (ht : t ∈ db.trips) :
    ∃ t' ∈ (step r db).trips, Continues t t' := by
  rcases step_trips_cases r db with hsame | ⟨_, _, _, _, _, -, -, hrows⟩ |
    ⟨o, ho, dto, hopen, hrows⟩ | ⟨id, dto, hrows⟩
  · rw [hsame]
    exact ⟨t, ht, .refl t⟩
  · rw [hrows]
    exact ⟨t, List.mem_append_left _ ht, .refl t⟩
  · rw [hrows]
    refine exists_updateWhere (fun t' ht' hp hc => ?_) ⟨t, ht, .refl t⟩
    -- the trip that is closed is the open one
    have hto : t' = o := db.eq_of_id .trip ht' ho (of_decide_eq_true hp)
    refine hc.trans ⟨rfl, rfl, rfl, rfl, rfl, fun e he => ?_⟩
    rw [hto, hopen] at he
    exact nomatch he
  · rw [hrows]
    refine exists_updateWhere (fun t' _ _ hc => ?_) ⟨t, ht, .refl t⟩
    exact hc.trans ⟨rfl, rfl, rfl, rfl, rfl, fun _ h => h⟩

/-- A run keeps every trip. -/
theorem continues_run (rs : List NodeVms.Request) {t : Trip} (ht : t ∈ db.trips) :
    ∃ t' ∈ (run step rs db).trips, Continues t t' := by
  refine run_invariant (I := fun db : Database => ∃ t' ∈ db.trips, Continues t t')
    (fun r db h => ?_) rs db ⟨t, ht, .refl t⟩
  obtain ⟨t', ht', hc⟩ := h
  obtain ⟨t'', ht'', hc'⟩ := continues_step r ht'
  exact ⟨t'', ht'', hc.trans hc'⟩

/-! ### Where a trip comes from -/

/-- Every trip was created by a `startTrip` that went through. -/
theorem exists_startTrip {rs : List NodeVms.Request} {t : Trip}
    (ht : t ∈ (run step rs Database.empty).trips) :
    ∃ before env T vehicleId userId trip after,
      rs = before ++ .tenant env T (.trips (.startTrip vehicleId userId)) :: after ∧
      let db := run step before Database.empty
      let r : NodeVms.Request := .tenant env T (.trips (.startTrip vehicleId userId))
      (startTrip env vehicleId T userId).exec db = .ok (trip, step r db) ∧
        (∀ o ∈ db.trips, o.id ≠ t.id) ∧ Continues trip t := by
  let Q : Database → Prop := fun db => ∃ o ∈ db.trips, o.id = t.id
  have hempty : ¬Q Database.empty := by
    rintro ⟨o, ho, -⟩
    exact absurd ho List.not_mem_nil
  obtain ⟨before, r, after, rfl, hbefore, o, ho, hoid⟩ := exists_begin hempty ⟨t, ht, rfl⟩
  have hfresh : ∀ o ∈ (run step before Database.empty).trips, o.id ≠ t.id := fun o ho hid =>
    hbefore ⟨o, ho, hid⟩
  -- an update creates no trip
  have hupdate : ∀ {p : Trip → Bool} {f : Trip → Trip}, (∀ o, (f o).id = o.id) →
      o ∉ updateWhere p f (run step before Database.empty).trips := by
    intro p f hf ho
    rcases mem_updateWhere.1 ho with ⟨ho, -⟩ | ⟨o', ho', -, rfl⟩
    · exact hfresh o ho hoid
    · exact hfresh o' ho' ((hf o').symm.trans hoid)
  rcases step_trips_cases r (run step before Database.empty) with hsame |
    ⟨env, T, vehicleId, userId, trip, rfl, hok, hrows⟩ | ⟨_, -, dto, -, hrows⟩ | ⟨id, dto, hrows⟩
  · rw [hsame] at ho
    exact absurd hoid (hfresh o ho)
  · refine ⟨before, env, T, vehicleId, userId, trip, after, rfl, hok, hfresh, ?_⟩
    have htrip : trip.id = t.id := by
      rw [hrows] at ho
      rcases List.mem_append.1 ho with ho | ho
      · exact absurd hoid (hfresh o ho)
      · rwa [← List.mem_singleton.1 ho]
    rw [run_append] at ht
    obtain ⟨t', ht', hc⟩ := continues_run after (t := trip) (by
      rw [hrows]
      exact List.mem_append_right _ (List.mem_singleton_self _))
    have htt' : t = t' := Database.eq_of_id _ .trip ht ht'
      (congrArg Cuid.val (htrip.symm.trans hc.id.symm))
    rwa [htt']
  · rw [hrows] at ho
    exact absurd ho (hupdate fun _ => rfl)
  · rw [hrows] at ho
    exact absurd ho (hupdate fun _ => rfl)

/-! ### The clock -/

/-- No trip ends before it starts. -/
def EndsAfterStart (t : Trip) : Prop := ∀ e ∈ t.endTime, t.startTime ≤ e

/-- Under a clock that does not go back, no trip ends before it starts. -/
theorem endsAfterStart_run {rs : List NodeVms.Request}
    (hclock : rs.Pairwise fun r r' => r.env.now ≤ r'.env.now)
    (hdb : ∀ t ∈ db.trips, EndsAfterStart t ∧ ∀ r ∈ rs, t.startTime ≤ r.env.now) :
    ∀ t ∈ (run step rs db).trips, EndsAfterStart t := by
  induction rs generalizing db with
  | nil => exact fun t ht => (hdb t ht).1
  | cons r rs ih =>
    obtain ⟨hr, hrs⟩ := List.pairwise_cons.1 hclock
    refine ih hrs ?_
    have hold : ∀ t ∈ db.trips, EndsAfterStart t ∧ ∀ r ∈ rs, t.startTime ≤ r.env.now :=
      fun t ht => ⟨(hdb t ht).1, fun r' hr' => (hdb t ht).2 r' (List.mem_cons_of_mem _ hr')⟩
    rcases step_trips_cases r db with hsame | ⟨env, T, vehicleId, userId, trip, rfl, hok, hrows⟩ |
      ⟨o, -, dto, -, hrows⟩ | ⟨id, dto, hrows⟩
    · rw [hsame]
      exact hold
    · obtain ⟨_, -, -, -, -, -, ht, -⟩ := startTrip_ok hok
      rw [hrows]
      refine List.forall_mem_append.2 ⟨hold, List.forall_mem_singleton.2 ?_⟩
      rw [ht]
      exact ⟨nofun, hr⟩
    · rw [hrows]
      refine forall_updateWhere hold fun t ht _ h => ⟨?_, h.2⟩
      intro e he
      have hnow := (hdb t ht).2 r (List.mem_cons_self ..)
      rwa [← Option.some.inj he]
    · rw [hrows]
      exact forall_updateWhere hold fun t _ _ h => h

/-! ### The law -/

/-- At every point of a run a vehicle has at most one open trip, and every trip
ends after its start, is there with the same tenant, vehicle, driver and start
at every later point, with the same end once it has one, and was created at a
moment when a live assignment of its driver to its vehicle covered its start. -/
theorem trip_lifecycle (before after : List NodeVms.Request)
    (hclock : (before ++ after).Pairwise fun r r' => r.env.now ≤ r'.env.now) :
    let db := run step before Database.empty
    Exclusive (Clash Trip.vehicleId) db.trips ∧
      ∀ t ∈ db.trips, EndsAfterStart t ∧
        (∃ t' ∈ (run step (before ++ after) Database.empty).trips, Continues t t') ∧
        ∃ first r rest, before = first ++ r :: rest ∧
          (∀ o ∈ (run step first Database.empty).trips, o.id ≠ t.id) ∧
          (∃ o ∈ (run step (first ++ [r]) Database.empty).trips, Continues o t) ∧
          ∃ a ∈ (run step first Database.empty).assignments,
            assignedNow t.startTime t.vehicleId t.driverId a := by
  refine ⟨vehicle_exclusive_of_reachable ⟨before, rfl⟩, fun t ht => ⟨?_, ?_, ?_⟩⟩
  · have hbefore := (List.pairwise_append.1 hclock).1
    exact endsAfterStart_run hbefore (fun t ht => absurd ht List.not_mem_nil) t ht
  · rw [run_append]
    exact continues_run after ht
  · obtain ⟨first, env, T, vehicleId, userId, trip, rest, rfl, hok, hfresh, hc⟩ :=
      exists_startTrip ht
    refine ⟨first, _, rest, rfl, hfresh, ⟨trip, ?_, hc⟩, ?_⟩
    · obtain ⟨_, -, -, -, -, -, -, hw⟩ := startTrip_ok hok
      rw [run_concat, hw]
      exact List.mem_append_right _ (List.mem_singleton_self _)
    · obtain ⟨d, -, -, ha, -, -, htrip, -⟩ := startTrip_ok hok
      rw [hc.startTime, hc.vehicleId, hc.driverId, htrip]
      exact ha

/-- `d0` drives `v0` from 5 to 8. -/
theorem trip_lifecycle_one_trip :
    let before := Sample.company ++ [Sample.assignment "a" "t0" "v0" "d0" 0 .null,
      Sample.startTrip "r" "t0" "v0" "u0" 5]
    let after := [Sample.endTrip "x" "t0" "r0" 8]
    ∃ t ∈ (run step before Database.empty).trips,
      ∃ t' ∈ (run step (before ++ after) Database.empty).trips,
        Continues t t' ∧ t.endTime = none ∧ t'.endTime = some 8 := by
  intro before after
  obtain ⟨-, h⟩ := trip_lifecycle before after (by decide)
  obtain ⟨t, ht, hopen⟩ : ∃ t ∈ (run step before Database.empty).trips, t.endTime = none := by
    decide
  have hclosed : ∀ t ∈ (run step (before ++ after) Database.empty).trips, t.endTime = some 8 := by
    decide
  obtain ⟨-, ⟨t', ht', hc⟩, -⟩ := h t ht
  exact ⟨t, ht, t', ht', hc, hopen, hclosed t' ht'⟩

end Trips
end NodeVms
