/-
# Drivers end their own trips

`endTrip` compares the driver the caller's account leads to with the driver of
the trip, and `startTrip` has taken the latter from the account of its caller.
The two lookups happen at different times; they lead to one account because no
request changes the account of a driver.
-/

import NodeVms.Calendar.TripLife

namespace NodeVms
namespace Trips

open Store

variable {db : Database}

/-- The accounts of the drivers, in the order of their creation. -/
def accounts (t : Tables) : List (Cuid × Option String) := t.drivers.map fun d => (d.id, d.userId)

/-- A driver that is changed keeps its account. -/
theorem accounts_updateWhere {t t' : Tables} {p : Driver → Bool} {f : Driver → Driver}
    (hrows : t'.drivers = updateWhere p f t.drivers)
    (hf : ∀ d, (f d).id = d.id ∧ (f d).userId = d.userId) : accounts t <+: accounts t' := by
  have hsame : accounts t' = accounts t := by
    rw [accounts, hrows]
    exact map_updateWhere _ fun d _ _ => Prod.ext (hf d).1 (hf d).2
  exact hsame ▸ List.prefix_rfl

/-- New drivers come after the old ones. -/
theorem accounts_append {t t' : Tables} {ds : List Driver} (hrows : t'.drivers = t.drivers ++ ds) :
    accounts t <+: accounts t' := by
  rw [accounts, accounts, hrows, List.map_append]
  exact List.prefix_append ..

/-- A request that does not write the drivers keeps their accounts. -/
theorem accounts_same {t t' : Tables} (hrows : t'.drivers = t.drivers) :
    accounts t <+: accounts t' := by
  have hsame : accounts t' = accounts t := by
    rw [accounts, hrows]
    rfl
  exact hsame ▸ List.prefix_rfl

/-- It suffices that the accepted requests keep them. -/
theorem next_accounts {α : Type} {h : Query (Transaction α)}
    (hok : ∀ a db', h.exec db = .ok (a, db') → accounts db.toTables <+: accounts db'.toTables) :
    accounts db.toTables <+: accounts (h.next db).toTables :=
  next_frame (F := fun t t' => accounts t <+: accounts t') (fun _ => List.prefix_rfl) hok

/-- A request leaves the account of every driver as it is. -/
theorem accounts_step (r : NodeVms.Request) (db : Database) :
    accounts db.toTables <+: accounts (step r db).toTables := by
  by_cases hw : Table.drivers ∈ r.writes
  · cases r with
    | platform env r => simp [Request.writes] at hw
    | tenant env T r =>
      cases r with
      | drivers rd =>
        cases rd with
        | create dto =>
          refine next_accounts fun d db' hok => ?_
          exact accounts_append (by rw [(Drivers.create_ok hok).2.2.2]; rfl)
        | update id dto =>
          refine next_accounts fun d db' hok => ?_
          exact accounts_updateWhere (congrArg Tables.drivers (Drivers.update_ok hok).2.2)
            fun _ => ⟨rfl, rfl⟩
        | remove id =>
          refine next_accounts fun d db' hok => ?_
          exact accounts_updateWhere (congrArg Tables.drivers (Drivers.remove_ok hok).2)
            fun _ => ⟨rfl, rfl⟩
      | branches rb =>
        cases rb with
        | create dto =>
          refine next_accounts fun b db' hok => ?_
          exact accounts_same (by rw [(Branches.create_ok hok).2.2]; rfl)
        | update id dto =>
          refine next_accounts fun b db' hok => ?_
          obtain ⟨_, -, -, -, -, -, hw⟩ := Branches.update_ok hok
          exact accounts_same (by rw [hw]; rfl)
        | remove id =>
          refine next_accounts fun b db' hok => ?_
          exact accounts_updateWhere (congrArg Tables.drivers (Branches.remove_ok hok).2)
            fun _ => ⟨rfl, rfl⟩
      | trips rt =>
        cases rt with
        | startTrip vehicleId userId =>
          refine next_accounts fun t db' hok => ?_
          obtain ⟨_, -, -, -, -, -, -, hw⟩ := startTrip_ok hok
          exact accounts_updateWhere (congrArg Tables.drivers hw) fun _ => ⟨rfl, rfl⟩
        | endTrip tripId userId dto userRole =>
          refine next_accounts fun t db' hok => ?_
          obtain ⟨_, -, -, -, -, -, -, hw⟩ := endTrip_ok hok
          exact accounts_updateWhere (congrArg Tables.drivers hw) fun _ => ⟨rfl, rfl⟩
        | updateTrip tripId dto =>
          refine next_accounts fun t db' hok => ?_
          obtain ⟨_, -, -, -, -, hw⟩ := updateTrip_ok hok
          exact accounts_same (by rw [hw]; rfl)
      | _ => simp [Request.writes, TenantRequest.writes] at hw
  · have hsame : (step r db).drivers = db.drivers := step_same r hw
    exact accounts_same hsame

/-- No request unlinks a driver from an account. -/
theorem accounts_run (rs : List NodeVms.Request) (db : Database) :
    accounts db.toTables <+: accounts (run step rs db).toTables := by
  refine run_invariant (I := fun db' : Database => accounts db.toTables <+: accounts db'.toTables)
    (fun r db' h => ?_) rs db List.prefix_rfl
  exact h.trans (accounts_step r db')

/-- A driver keeps its account. -/
theorem userId_run (rs : List NodeVms.Request) {d d' : Driver} (hd : d ∈ db.drivers)
    (hd' : d' ∈ (run step rs db).drivers) (hid : d'.id.val = d.id.val) : d'.userId = d.userId := by
  have hmem : (d.id, d.userId) ∈ accounts (run step rs db).toTables :=
    (accounts_run rs db).mem (List.mem_map.2 ⟨d, hd, rfl⟩)
  obtain ⟨o, ho, hod⟩ := List.mem_map.1 hmem
  obtain ⟨hoid, hou⟩ := Prod.mk.inj hod
  have hod' : d' = o :=
    Database.eq_of_id _ .driver hd' ho (hid.trans (congrArg Cuid.val hoid.symm))
  rw [hod', hou]

/-- The trip that a driver ends in a run was started by the same account, in the
same tenant. -/
theorem drivers_end_own_trips (rs : List NodeVms.Request) {env : Env} {T tripId userId : String}
    {dto : UpdateTripDto} {ended : Trip} {db' : Database}
    (h : (endTrip env tripId T userId dto .driver).exec (run step rs Database.empty) =
      .ok (ended, db')) :
    ∃ before env' vehicleId started after,
      rs = before ++ .tenant env' T (.trips (.startTrip vehicleId userId)) :: after ∧
      (startTrip env' vehicleId T userId).exec (run step before Database.empty) =
        .ok (started, run step (before ++ [.tenant env' T (.trips (.startTrip vehicleId userId))])
          Database.empty) ∧
      started.id.val = tripId := by
  obtain ⟨t, ht, htid, htT, -, -, hdriver, -⟩ := endTrip_ok h
  obtain ⟨d, hd, ⟨hdu, -, -⟩, hdt⟩ := hdriver rfl
  obtain ⟨before, env', T', vehicleId, userId', started, after, rfl, hok, -, hc⟩ :=
    exists_startTrip ht
  obtain ⟨o, ho, ⟨hou, -, -⟩, -, -, -, hstarted, -⟩ := startTrip_ok hok
  -- the two driver records are one, so they have one account
  have hid : d.id.val = o.id.val := by
    rw [hdt, hc.driverId, hstarted]
    rfl
  have huser : d.userId = o.userId := by
    rw [run_append] at hd
    exact userId_run _ ho hd hid
  obtain rfl : userId = userId' := Option.some.inj (hdu.symm.trans (huser.trans hou))
  obtain rfl : T = T' := by
    rw [← htT, hc.tenantId, hstarted]
    rfl
  refine ⟨before, env', vehicleId, started, after, rfl, ?_, ?_⟩
  · rwa [run_concat]
  · rw [← hc.id, htid]

/-- `u0` ends the trip of `d0`. -/
theorem drivers_end_own_trips_one_trip :
    let rs := Sample.company ++ [Sample.assignment "a" "t0" "v0" "d0" 0 .null,
      Sample.startTrip "r" "t0" "v0" "u0" 5]
    ∃ before env' vehicleId started after,
      rs = before ++ .tenant env' "t0" (.trips (.startTrip vehicleId "u0")) :: after ∧
      (startTrip env' vehicleId "t0" "u0").exec (run step before Database.empty) =
        .ok (started, run step (before ++ [.tenant env' "t0" (.trips (.startTrip vehicleId "u0"))])
          Database.empty) ∧
      started.id.val = "r0" := by
  intro rs
  have haccepted : (endTrip (.sample "x" 8) "r0" "t0" "u0" {} .driver).Accepted
      (run step rs Database.empty) := by decide
  obtain ⟨ended, hok⟩ := Script.accepted_iff.1 haccepted
  exact drivers_end_own_trips rs hok

end Trips
end NodeVms
