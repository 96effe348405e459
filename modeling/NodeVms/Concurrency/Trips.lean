/-
# Concurrent requests on trips

`startTrip` and `endTrip` check first and commit later, and the transaction
checks nothing again.  Interleaved, they are serialisable as long as each
transaction finds what the checks have found: no active trip of the vehicle it
starts a trip on, the trip it ends still open.  Two drivers' clicks on one
vehicle are enough to break this.
-/

import Mathlib.Data.Fin.VecNotation
import NodeVms.Calendar.OpenTrips

namespace NodeVms
namespace Trips

open Store Script Prisma

variable {env : Env} {T : String} {db db' : Database} {trip : Trip}

/-! ### What one request does to another -/

/-- `where: { vehicleId, tenantId, deletedAt: null, endTime: null }`. -/
def isActiveTrip (vehicleId tenantId : String) (t : Trip) : Prop :=
  t.vehicleId = vehicleId ∧ t.tenantId = tenantId ∧ t.deletedAt = none ∧ t.endTime = none

instance (vehicleId tenantId : String) (t : Trip) :
    Decidable (isActiveTrip vehicleId tenantId t) := by
  unfold isActiveTrip; infer_instance

/-- The columns of a trip that are written once. -/
structure SameTrip (t t' : Trip) : Prop where
  id : t'.id = t.id
  tenantId : t'.tenantId = t.tenantId
  vehicleId : t'.vehicleId = t.vehicleId
  driverId : t'.driverId = t.driverId
  deletedAt : t'.deletedAt = t.deletedAt

/-- The vehicle is a live one of the tenant, and available or on an active trip. -/
def AvailableOrActive (tenantId vehicleId : String) (t : Tables) : Prop :=
  ∃ v ∈ t.vehicles, v.id.val = vehicleId ∧ v.tenantId = tenantId ∧ v.deletedAt = none ∧
    (v.status = .available ∨ ∃ r ∈ t.trips, isActiveTrip vehicleId tenantId r)

/-- What requests on trips leave as it is: the assignments, the drivers up to
their availability, the trips up to their end and their costs; and a vehicle
stops being available only by an active trip. -/
structure Kept (db db' : Database) : Prop where
  assignments : db'.assignments = db.assignments
  drivers : db'.drivers.map (setAvailable true) = db.drivers.map (setAvailable true)
  trips : ∀ t ∈ db.trips, ∃ t' ∈ db'.trips, SameTrip t t'
  vehicles : ∀ tenantId vehicleId, AvailableOrActive tenantId vehicleId db.toTables →
    AvailableOrActive tenantId vehicleId db'.toTables

/-- A request that does nothing keeps everything. -/
theorem Kept.refl (db : Database) : Kept db db where
  assignments := rfl
  drivers := rfl
  trips t ht := ⟨t, ht, rfl, rfl, rfl, rfl, rfl⟩
  vehicles _ _ h := h

/-- What two requests keep, both keep. -/
theorem Kept.trans {db db' db'' : Database} (h : Kept db db') (h' : Kept db' db'') :
    Kept db db'' where
  assignments := h'.assignments.trans h.assignments
  drivers := h'.drivers.trans h.drivers
  trips t ht := by
    obtain ⟨t', ht', hs⟩ := h.trips t ht
    obtain ⟨t'', ht'', hs'⟩ := h'.trips t' ht'
    exact ⟨t'', ht'', hs'.id.trans hs.id, hs'.tenantId.trans hs.tenantId,
      hs'.vehicleId.trans hs.vehicleId, hs'.driverId.trans hs.driverId,
      hs'.deletedAt.trans hs.deletedAt⟩
  vehicles T k hk := h'.vehicles T k (h.vehicles T k hk)

/-! ### The transactions -/

section Written

variable {vehicleId userId tripId : String} {dto : UpdateTripDto} {userRole : Role}

/-- A start keeps the trips there are. -/
theorem startTrip_kept (h : (startTrip env vehicleId T userId).exec db = .ok (trip, db')) :
    Kept db db' := by
  obtain ⟨d, -, -, -, ⟨v, hv, hvid, hvT, hvd, hvs⟩, -, ht, hw⟩ := startTrip_ok h
  have hvehicles : db'.vehicles =
      (Model.vehicle.updateAt vehicleId (setStatus .onTrip) db.toTables).vehicles := by rw [hw]; rfl
  have htrips : db'.trips = db.trips ++ [trip] := by rw [hw]; rfl
  refine ⟨by rw [hw]; rfl, ?_, fun t ht => ?_, fun T' k => ?_⟩
  · rw [hw]
    exact map_updateWhere _ fun _ _ _ => rfl
  · rw [htrips]
    exact ⟨t, List.mem_append_left _ ht, rfl, rfl, rfl, rfl, rfl⟩
  · rintro ⟨w, hwm, hwid, hwT, hwd, hws⟩
    rw [AvailableOrActive, hvehicles, htrips]
    by_cases hk : k = vehicleId
    · -- the trip is the active one of the vehicle
      have hwv : w = v := db.eq_of_id .vehicle hwm hv (hwid.trans (hk.trans hvid.symm))
      refine ⟨setStatus .onTrip w, mem_updateWhere.2 (.inr ⟨w, hwm, ?_, rfl⟩), hwid, hwT, hwd,
        .inr ⟨trip, List.mem_append_right _ (List.mem_singleton_self _), ?_⟩⟩
      · exact decide_eq_true (hwid.trans hk)
      · rw [ht]
        exact ⟨hk.symm, hvT.symm.trans (hwv ▸ hwT), rfl, rfl⟩
    · refine ⟨w, mem_updateWhere.2 (.inl ⟨hwm, ?_⟩), hwid, hwT, hwd, ?_⟩
      · exact decide_eq_false fun h => hk (hwid.symm.trans h)
      · exact hws.imp_right fun ⟨r, hr, hact⟩ => ⟨r, List.mem_append_left _ hr, hact⟩

/-- An end keeps them up to the end of one. -/
theorem endTrip_kept (h : (endTrip env tripId T userId dto userRole).exec db = .ok (trip, db')) :
    Kept db db' := by
  obtain ⟨t, ht, htid, -, -, -, -, hw⟩ := endTrip_ok h
  have hvehicles : db'.vehicles =
      (Model.vehicle.updateAt t.vehicleId (setStatus .available) db.toTables).vehicles := by
    rw [hw]; rfl
  have htrips : db'.trips = (Model.trip.updateAt tripId (dto.close env.now) db.toTables).trips := by
    rw [hw]; rfl
  refine ⟨by rw [hw]; rfl, ?_, fun r hr => ?_, fun T' k => ?_⟩
  · rw [hw]
    exact map_updateWhere _ fun _ _ _ => rfl
  · rw [htrips]
    refine exists_updateWhere (Q := SameTrip r) (fun o _ _ ho => ?_)
      ⟨r, hr, rfl, rfl, rfl, rfl, rfl⟩
    exact ⟨ho.id, ho.tenantId, ho.vehicleId, ho.driverId, ho.deletedAt⟩
  · rintro ⟨w, hwm, hwid, hwT, hwd, hws⟩
    rw [AvailableOrActive, hvehicles, htrips]
    by_cases hk : k = t.vehicleId
    · exact ⟨setStatus .available w,
        mem_updateWhere.2 (.inr ⟨w, hwm, decide_eq_true (hwid.trans hk), rfl⟩), hwid, hwT, hwd,
        .inl rfl⟩
    · refine ⟨w, mem_updateWhere.2 (.inl ⟨hwm, ?_⟩), hwid, hwT, hwd, ?_⟩
      · exact decide_eq_false fun h => hk (hwid.symm.trans h)
      · -- the trip that ends is one of another vehicle
        refine hws.imp_right fun ⟨r, hr, hact⟩ => ⟨r, mem_updateWhere.2 (.inl ⟨hr, ?_⟩), hact⟩
        refine decide_eq_false fun hid => hk ?_
        rw [← db.eq_of_id .trip hr ht (hid.trans htid.symm)]
        exact hact.1.symm

/-- An update keeps who drives what. -/
theorem updateTrip_kept (h : (updateTrip tripId T dto).exec db = .ok (trip, db')) :
    Kept db db' := by
  obtain ⟨t, -, -, -, -, hw⟩ := updateTrip_ok h
  refine ⟨by rw [hw]; rfl, by rw [hw]; rfl, fun r hr => ?_, fun T' k => ?_⟩
  · rw [hw]
    refine exists_updateWhere (Q := SameTrip r) (fun o _ _ ho => ?_)
      ⟨r, hr, rfl, rfl, rfl, rfl, rfl⟩
    exact ⟨ho.id, ho.tenantId, ho.vehicleId, ho.driverId, ho.deletedAt⟩
  · rintro ⟨w, hwm, hwid, hwT, hwd, hws⟩
    rw [hw]
    refine ⟨w, hwm, hwid, hwT, hwd, hws.imp_right fun hact => ?_⟩
    exact exists_updateWhere (Q := isActiveTrip k T') (fun _ _ _ ho => ho) hact

end Written

/-- Every request on trips leaves these things as they are. -/
theorem Request.kept (r : Request) (env : Env) (tenantId : String) (db : Database) :
    Kept db ((r.handler env tenantId).next db) := by
  refine next_induct (P := Kept db) (Kept.refl db) fun trip db' hok => ?_
  cases r with
  | startTrip vehicleId userId => exact startTrip_kept hok
  | endTrip tripId userId dto userRole => exact endTrip_kept hok
  | updateTrip tripId dto => exact updateTrip_kept hok

/-! ### The checks -/

/-- The transaction of the request finds what its checks have found: no active
trip of the vehicle, or the trip still open. -/
def Request.StillHolds (tenantId : String) (t : Tables) : Request → Prop
  | .startTrip vehicleId _ => ∀ r ∈ t.trips, ¬isActiveTrip vehicleId tenantId r
  | .endTrip tripId _ _ _ => ∀ r ∈ t.trips, r.id.val = tripId → r.endTime = none
  | .updateTrip _ _ => True

instance (tenantId : String) (t : Tables) : DecidablePred (Request.StillHolds tenantId t) :=
  fun r => by cases r <;> (unfold Request.StillHolds; infer_instance)

/-- The driver of a user is the same before and after. -/
theorem Kept.driver_find? (h : Kept db db') (userId tenantId : String) :
    (db'.drivers.find? fun d => isDriverOf userId tenantId d).map (·.id) =
      (db.drivers.find? fun d => isDriverOf userId tenantId d).map (·.id) := by
  have hfind : ∀ l : List Driver, (l.find? fun d => isDriverOf userId tenantId d).map (·.id) =
      ((l.map (setAvailable true)).find? fun d => isDriverOf userId tenantId d).map (·.id) := by
    intro l
    rw [List.find?_map, Option.map_map]
    rfl
  rw [hfind, h.drivers, ← hfind]

/-- A start asks for the status of the vehicle and the assignment of the driver. -/
theorem startTrip_checks (vehicleId userId : String) :
    (startTrip env vehicleId T userId).Checks Kept
      (fun db => Request.StillHolds T db.toTables (.startTrip vehicleId userId)) fun _ => True := by
  unfold startTrip findVehicle
  simp only [bind_assoc]
  refine checks_query_bind rfl (fun _ o _ _ => ?_) fun s s' _ hR o o' ho ho' => .inr (.inl ?_)
  · refine (checks_orThrow _ _).bind fun driver => ?_
    refine checks_query_bind_of_eq rfl (fun o => ?_) fun s s' hR => ?_
    · refine (checks_orThrow _ _).bind fun _ => ?_
      refine checks_query_bind rfl (fun _ o _ _ => ?_) fun s s' _ hR o o' ho ho' => ?_
      · refine (checks_orThrow _ _).bind fun vehicle => (checks_throwIf _ _).bind fun _ => ?_
        refine checks_absent_bind rfl trivial (fun t => refused_throw _) fun s s' t _ _ ht hK => ?_
        obtain ⟨hmem, hact⟩ := mem_of_find? (eval_findFirst_eq_some.1 ht)
        exact hK t hmem (of_decide_eq_true hact)
      · -- a vehicle found available is so later unless it has an active trip
        cases o with
        | none => exact .inl (refused_throw _)
        | some v =>
          by_cases hv : v.status = .available
          · obtain ⟨hmem, hid, hT, hd⟩ := eval_findById_eq_some.1 ho
            obtain ⟨w, hw, hwid, hwT, hwd, hws⟩ :=
              hR.vehicles T vehicleId ⟨v, hmem, hid, hT, hd, .inl hv⟩
            obtain rfl : o' = some w :=
              Except.ok.inj (ho'.symm.trans (eval_findById_eq_some.2 ⟨hw, hwid, hwT, hwd⟩))
            by_cases hw' : w.status = .available
            · refine .inr (.inl ?_)
              simp only [orThrow_some_bind, throwIf_bind_of_not (not_not.2 hv),
                throwIf_bind_of_not (not_not.2 hw')]
            · obtain ⟨t, ht, hact⟩ := hws.resolve_left hw'
              exact .inr (.inr ⟨refused_throwIf_bind hw' _ _, fun hK => hK t ht hact⟩)
          · exact .inl (refused_throwIf_bind hv _ _)
    · simp only [Model.assignment_rows, hR.assignments]
  · have hid : o'.map (·.id) = o.map (·.id) := by
      rw [← Except.ok.inj ho, ← Except.ok.inj ho']
      exact hR.driver_find? userId T
    cases o with
    | none =>
      rw [Option.map_none, Option.map_eq_none_iff] at hid
      rw [hid]
    | some d =>
      obtain ⟨d', rfl, hdd'⟩ := Option.map_eq_some_iff.1 hid
      simp only [orThrow_some_bind, hdd']

/-- A trip found again is the same one, up to its end. -/
theorem Kept.findOwn (h : Kept db db') {tripId : String} {o : Option Trip} {t : Trip}
    (ht : (findById .trip tripId fun _ t => t.tenantId = T ∧ t.deletedAt = none).eval db =
      .ok (some t))
    (ho : (findById .trip tripId fun _ t => t.tenantId = T ∧ t.deletedAt = none).eval db' = .ok o) :
    ∃ t' ∈ db'.trips, o = some t' ∧ t'.id.val = tripId ∧ SameTrip t t' := by
  obtain ⟨hmem, hid, hT, hd⟩ := eval_findById_eq_some.1 ht
  obtain ⟨t', ht', hs⟩ := h.trips t hmem
  have hid' : t'.id.val = tripId := (congrArg Cuid.val hs.id).trans hid
  refine ⟨t', ht', ?_, hid', hs⟩
  exact Except.ok.inj (ho.symm.trans (eval_findById_eq_some.2
    ⟨ht', hid', hs.tenantId.trans hT, hs.deletedAt.trans hd⟩))

/-- The body stays what it is. -/
theorem UpdateTripDto.checks_notNull (dto : UpdateTripDto) {R : Database → Database → Prop}
    {K I : Database → Prop} : dto.notNull.Checks R K I :=
  dto.tollCost.checks_notNull.bind fun _ => dto.policeCost.checks_notNull.bind fun _ =>
    dto.income.checks_notNull.bind fun _ => dto.distance.checks_notNull

/-- An end asks whether the trip is open. -/
theorem endTrip_checks (tripId userId : String) (dto : UpdateTripDto) (userRole : Role) :
    (endTrip env tripId T userId dto userRole).Checks Kept
      (fun db => Request.StillHolds T db.toTables (.endTrip tripId userId dto userRole))
      fun _ => True := by
  unfold endTrip findOwn
  simp only [bind_assoc]
  refine checks_query_bind rfl (fun _ o _ _ => ?_) fun s s' _ hR o o' ho ho' => ?_
  · refine (checks_orThrow _ _).bind fun trip => (checks_throwIf _ _).bind fun _ => ?_
    refine (checks_when fun _ => ?_).bind fun _ => dto.checks_notNull.bind fun _ => trivial
    refine checks_query_bind rfl (fun _ o _ _ => checks_throwIf _ _) fun s s' _ hR o o' ho ho' =>
      .inr (.inl ?_)
    have hid : o'.map (·.id) = o.map (·.id) := by
      rw [← Except.ok.inj ho, ← Except.ok.inj ho']
      exact hR.driver_find? userId T
    have hval := congrArg (Option.map Cuid.val) hid
    simp only [Option.map_map, Function.comp_def] at hval
    simp only [hval]
  · cases o with
    | none => exact .inl (refused_throw _)
    | some t =>
      obtain ⟨t', ht', rfl, hid', hs⟩ := hR.findOwn ho ho'
      by_cases ht : t.endTime = none
      · by_cases ht'e : t'.endTime = none
        · refine .inr (.inl ?_)
          simp only [orThrow_some_bind, throwIf_bind_of_not (not_not.2 ht),
            throwIf_bind_of_not (not_not.2 ht'e), hs.vehicleId, hs.driverId]
        · exact .inr (.inr ⟨refused_throwIf_bind ht'e _ _, fun hK => ht'e (hK t' ht' hid')⟩)
      · exact .inl (refused_throwIf_bind ht _ _)

/-- An update asks for the trip, whatever its state. -/
theorem updateTrip_checks (tripId : String) (dto : UpdateTripDto) {K : Database → Prop} :
    (updateTrip tripId T dto).Checks Kept K fun _ => True := by
  unfold updateTrip findOwn
  simp only [bind_assoc]
  refine checks_query_bind rfl (fun _ o _ _ => ?_) fun s s' _ hR o o' ho ho' => ?_
  · exact (checks_orThrow _ _).bind fun trip => dto.checks_notNull.bind fun _ => trivial
  · cases o with
    | none => exact .inl (refused_throw _)
    | some t =>
      obtain ⟨t', -, rfl, -⟩ := hR.findOwn ho ho'
      exact .inr (.inl rfl)

/-- What each request has asked before it commits. -/
theorem Request.checks (r : Request) (env : Env) (tenantId : String) :
    (r.handler env tenantId).Checks Kept (fun db => r.StillHolds tenantId db.toTables)
      fun _ => True := by
  cases r with
  | startTrip vehicleId userId => exact startTrip_checks vehicleId userId
  | endTrip tripId userId dto userRole => exact endTrip_checks tripId userId dto userRole
  | updateTrip tripId dto => exact updateTrip_checks tripId dto

/-! ### What the transactions write -/

/-- The trips after the transaction of the request. -/
def Request.WritesTrips (env : Env) (l l' : List Trip) : Request → Prop
  | .startTrip vehicleId _ => ∃ r, l' = l ++ [r] ∧ r.vehicleId = vehicleId ∧ r.endTime = none
  | .endTrip tripId _ dto _ =>
    l' = updateWhere (fun r : Trip => r.id.val = tripId) (dto.close env.now) l
  | .updateTrip tripId dto => l' = updateWhere (fun r : Trip => r.id.val = tripId) dto.apply l

/-- Whatever the request has read, its transaction writes these trips. -/
theorem Request.ends_writesTrips (r : Request) (env : Env) (tenantId : String) :
    (r.handler env tenantId).Ends fun t => ∀ db trip db', t.run db = .ok (trip, db') →
      r.WritesTrips env db.trips db'.trips := by
  cases r with
  | startTrip vehicleId userId =>
    refine ends_bind fun o => ends_bind fun driver => ends_bind fun a => ends_bind fun _ =>
      ends_bind fun vehicle => ends_bind fun _ => ends_bind fun activeTrip => ends_bind fun _ => ?_
    intro db trip db' h
    simp at h
    obtain ⟨db₁, h₁, _, db₂, ⟨h₂, -⟩, ⟨h₃, -⟩, -⟩ := h
    refine ⟨newTrip env vehicleId tenantId driver.id, ?_, rfl, rfl⟩
    rw [h₃, h₂, h₁]
    rfl
  | endTrip tripId userId dto userRole =>
    refine ends_bind fun trip => ends_bind fun _ => ends_bind fun _ => ends_bind fun _ => ?_
    intro db trip' db' h
    simp at h
    obtain ⟨db₁, ⟨h₁, -⟩, _, db₂, ⟨h₂, -⟩, h₃, -⟩ := h
    change db'.trips = _
    rw [h₃, h₂, h₁]
    rfl
  | updateTrip tripId dto =>
    refine ends_bind fun trip => ends_bind fun _ => ?_
    intro db trip' db' h
    change (update .trip tripId dto.apply).run db = _ at h
    simp at h
    change db'.trips = _
    rw [h.1]
    rfl

/-! ### Interleavings -/

section Interleaved

variable {ι : Type}

/-- The handlers of the requests. -/
def handlers (calls : ι → Call Request) (i : ι) : Query (Transaction Trip) :=
  (calls i).request.handler (calls i).env (calls i).tenantId

/-- A transaction of request `i` that goes through finds what its checks have found. -/
def CommitsInTime (calls : ι → Call Request) (i : ι) (c : Config ι Database Error Trip) : Prop :=
  c.commits (handlers calls) i = true →
    (calls i).request.StillHolds (calls i).tenantId c.state.toTables

instance (calls : ι → Call Request) (i : ι) (c : Config ι Database Error Trip) :
    Decidable (CommitsInTime calls i c) := by
  unfold CommitsInTime; infer_instance

/-- The trip the request is to end. -/
def Request.ends? : Request → Option String
  | .endTrip tripId _ _ _ => some tripId
  | _ => none

/-- The trip has ended. -/
def Ended (tripId : String) (t : Tables) : Prop :=
  ∃ r ∈ t.trips, r.id.val = tripId ∧ r.endTime ≠ none

/-- A trip that has ended has ended for good. -/
theorem ended_next {tripId : String} (r : Request) (env : Env) (tenantId : String) {db : Database}
    (h : Ended tripId db.toTables) : Ended tripId ((r.handler env tenantId).next db).toTables := by
  refine next_induct (P := fun db' : Database => Ended tripId db'.toTables) h fun trip db' hok => ?_
  cases r with
  | startTrip vehicleId userId =>
    obtain ⟨d, -, -, -, -, -, -, hw⟩ := startTrip_ok hok
    obtain ⟨r, hr, hid, hend⟩ := h
    rw [hw]
    exact ⟨r, List.mem_append_left _ hr, hid, hend⟩
  | endTrip tripId' userId dto userRole =>
    obtain ⟨t, -, -, -, -, -, -, hw⟩ := endTrip_ok hok
    rw [hw]
    exact exists_updateWhere (Q := fun r : Trip => r.id.val = tripId ∧ r.endTime ≠ none)
      (fun r _ _ hr => ⟨hr.1, nofun⟩) h
  | updateTrip tripId' dto =>
    obtain ⟨t, -, -, -, -, hw⟩ := updateTrip_ok hok
    rw [hw]
    exact exists_updateWhere (Q := fun r : Trip => r.id.val = tripId ∧ r.endTime ≠ none)
      (fun _ _ _ hr => hr) h

/-- A request that ends a trip finds it open and leaves it ended. -/
theorem ends_ok {r : Request} {tenantId tripId : String} (hr : r.ends? = some tripId)
    (h : (r.handler env tenantId).exec db = .ok (trip, db')) :
    ¬Ended tripId db.toTables ∧ Ended tripId db'.toTables := by
  cases r with
  | endTrip tripId' userId dto userRole =>
    obtain rfl : tripId' = tripId := Option.some.inj hr
    obtain ⟨t, ht, hid, -, -, hopen, -, hw⟩ := endTrip_ok h
    constructor
    · rintro ⟨r, hr, hrid, hend⟩
      rw [db.eq_of_id .trip hr ht (hrid.trans hid.symm)] at hend
      exact hend hopen
    · rw [hw]
      exact ⟨dto.close env.now t,
        mem_updateWhere.2 (.inr ⟨t, ht, decide_eq_true hid, rfl⟩), hid, nofun⟩
  | startTrip vehicleId userId => cases hr
  | updateTrip tripId' dto => cases hr

/-- In a serialisable configuration that started in a reachable state, a vehicle
has one open trip at most. -/
theorem exclusive_of_serialisable {calls : ι → Call Request} {c : Config ι Database Error Trip}
    (hdb : Reachable db) (h : c.Serialisable (handlers calls) db) :
    Exclusive (Clash Trip.vehicleId) c.state.trips := by
  obtain ⟨log, hs, -⟩ := h
  have hreq : ∀ i, (handlers calls i).next =
      step (.tenant (calls i).env (calls i).tenantId (.trips (calls i).request)) := fun _ => rfl
  exact vehicle_exclusive_of_reachable (hs.reachable hreq hdb)

/-- No request has ended a trip that had ended at the start, or that another
request has ended. -/
def EndedOnce (calls : ι → Call Request) (db : Database) (c : Config ι Database Error Trip) : Prop :=
  ∀ i tripId, (calls i).request.ends? = some tripId → c.accepted i = true →
    ¬Ended tripId db.toTables ∧
      ∀ j, (calls j).request.ends? = some tripId → c.accepted j = true → i = j

/-- In a serialisable configuration no trip has been ended twice. -/
theorem endedOnce_of_serialisable {calls : ι → Call Request} {c : Config ι Database Error Trip}
    (h : c.Serialisable (handlers calls) db) : EndedOnce calls db c := by
  obtain ⟨log, hs, -, hlog⟩ := h
  intro i tripId hi hai
  obtain ⟨a, ha⟩ := Config.accepted_eq_true.1 hai
  have hia : (i, some a) ∈ log := (hlog i (some a)).2 ⟨_, ha, rfl⟩
  have hkeep : ∀ k s, Ended tripId s.toTables → Ended tripId ((handlers calls k).next s).toTables :=
    fun k s hs => ended_next _ _ _ hs
  constructor
  · intro hend
    exact hs.not_accepted hend hkeep (fun s s' hok => (ends_ok hi hok).1) hia
  · intro j hj haj
    obtain ⟨b, hb⟩ := Config.accepted_eq_true.1 haj
    exact hs.eq_of_accepted (A := fun i => (calls i).request.ends? = some tripId)
      (fun k t s s' hk hok => (ends_ok hk hok).2) hkeep
      (fun k t s s' hk hok => (ends_ok hk hok).1) hi hj hia ((hlog j (some b)).2 ⟨_, hb, rfl⟩)

/-- What every interleaving satisfies: a request sends a transaction of its
handler, and a trip that has ended was ended by some accepted request, unless it
had ended at the start. -/
structure Traced (calls : ι → Call Request) (db : Database) (c : Config ι Database Error Trip) :
    Prop where
  ends : ∀ i x, c.rest (handlers calls) i = some x → x.Ends fun t => ∀ db trip db',
    t.run db = .ok (trip, db') → (calls i).request.WritesTrips (calls i).env db.trips db'.trips
  ended : ∀ tripId, Ended tripId c.state.toTables → Ended tripId db.toTables ∨
    ∃ j, (calls j).request.ends? = some tripId ∧ c.accepted j = true

/-- A trip that ends by the transaction of a request is the one the request ends. -/
theorem Request.WritesTrips.ended {r : Request} (h : r.WritesTrips env db.trips db'.trips)
    {tripId : String} (hend : Ended tripId db'.toTables) :
    Ended tripId db.toTables ∨ r.ends? = some tripId := by
  obtain ⟨o, ho, hid, hoe⟩ := hend
  cases r with
  | startTrip vehicleId userId =>
    obtain ⟨t, hw, -, hopen⟩ := h
    rw [hw] at ho
    rcases List.mem_append.1 ho with ho | ho
    · exact .inl ⟨o, ho, hid, hoe⟩
    · rw [List.mem_singleton.1 ho] at hoe
      exact absurd hopen hoe
  | endTrip tripId' userId dto userRole =>
    have hw : db'.trips =
        updateWhere (fun r : Trip => r.id.val = tripId') (dto.close env.now) db.trips := h
    rw [hw] at ho
    rcases mem_updateWhere.1 ho with ⟨ho, -⟩ | ⟨t, -, ht, rfl⟩
    · exact .inl ⟨o, ho, hid, hoe⟩
    · have ht : t.id.val = tripId' := of_decide_eq_true ht
      have hid : t.id.val = tripId := hid
      exact .inr (congrArg some (ht.symm.trans hid))
  | updateTrip tripId' dto =>
    have hw : db'.trips = updateWhere (fun r : Trip => r.id.val = tripId') dto.apply db.trips := h
    rw [hw] at ho
    rcases mem_updateWhere.1 ho with ⟨ho, -⟩ | ⟨t, ht, -, rfl⟩
    · exact .inl ⟨o, ho, hid, hoe⟩
    · exact .inl ⟨t, ht, hid, hoe⟩

/-- Before the first step nothing has happened. -/
theorem Traced.init {calls : ι → Call Request} : Traced calls db (.init db) where
  ends i x hx := by
    obtain rfl : handlers calls i = x := Option.some.inj hx
    exact (calls i).request.ends_writesTrips _ _
  ended _ h := .inl h

variable [DecidableEq ι] {calls : ι → Call Request} {c : Config ι Database Error Trip}

/-- A step of one call is a step of the trace. -/
theorem Traced.step (h : Traced calls db c) (i : ι) :
    Traced calls db (c.step (handlers calls) i) := by
  refine ⟨Config.ends_step i h.ends, fun tripId hend => ?_⟩
  have hold : ∀ {p x}, c.rest (handlers calls) i = some x →
      (Ended tripId db.toTables ∨
        ∃ j, (calls j).request.ends? = some tripId ∧ c.accepted j = true) →
      Ended tripId db.toTables ∨
        ∃ j, (calls j).request.ends? = some tripId ∧ (c.put i p).accepted j = true :=
    fun hi => Or.imp_right fun ⟨j, hj, hja⟩ => ⟨j, hj, Config.accepted_put hi _ hja⟩
  rcases Config.step_cases (handlers calls) i c with ⟨-, hstep⟩ | ⟨next, hi, hstep⟩ |
    ⟨x, e, hi, -, hstep⟩ | ⟨t, a, s', hi, ht, -, hstep⟩
  · rw [hstep] at hend ⊢
    exact h.ended tripId hend
  · rw [hstep] at hend ⊢
    exact hold hi (h.ended tripId hend)
  · rw [hstep] at hend ⊢
    exact hold hi (h.ended tripId hend)
  · rw [hstep] at hend ⊢
    rcases (h.ends i _ hi c.state a s' ht).ended hend with hend | hends
    · exact hold hi (h.ended tripId hend)
    · refine .inr ⟨i, hends, Config.accepted_eq_true.2 ⟨a, ?_⟩⟩
      rw [Config.put_threads_self]

/-- The outcome so far is that of a sequential execution; no vehicle has two open
trips, and no trip has been ended twice. -/
def Lawful (calls : ι → Call Request) (db : Database) (c : Config ι Database Error Trip) : Prop :=
  c.Serialisable (handlers calls) db ∧ Exclusive (Clash Trip.vehicleId) c.state.trips ∧
    EndedOnce calls db c

/-- A transaction that does not find what its checks have found breaks the law. -/
theorem commitsInTime_of_lawful_step {i : ι} (h : Traced calls db c)
    (hlaw : Lawful calls db (c.step (handlers calls) i)) : CommitsInTime calls i c := by
  intro hcommits
  obtain ⟨t, a, s', hi, ht⟩ := Config.commits_eq_true.1 hcommits
  rw [Config.step_of_commits hi ht] at hlaw
  obtain ⟨-, hx, honce⟩ := hlaw
  have hw := h.ends i _ hi c.state a s' ht
  cases hr : (calls i).request with
  | startTrip vehicleId userId =>
    rw [hr] at hw
    obtain ⟨o, hrows, hk, hopen⟩ := hw
    rintro r hmem ⟨hrk, -, -, hropen⟩
    have hne : r ≠ o := by
      rintro rfl
      exact s'.id_ne_of_append .trip (l := c.state.trips) hrows r hmem rfl
    have hx : Exclusive (Clash Trip.vehicleId) (c.state.trips ++ [o]) := by
      rw [← hrows]
      exact hx
    exact hx r (List.mem_append_left _ hmem) o (List.mem_append_right _ (List.mem_singleton_self o))
      hne ⟨hropen, hopen, hrk.trans hk.symm⟩
  | endTrip tripId userId dto userRole =>
    have hends : (calls i).request.ends? = some tripId := by rw [hr]; rfl
    have hacc : (c.put i (.done (.ok a), s')).accepted i = true :=
      Config.accepted_eq_true.2 ⟨a, Config.put_threads_self _⟩
    obtain ⟨hstart, hother⟩ := honce i tripId hends hacc
    intro r hmem hid
    by_contra hend
    rcases h.ended tripId ⟨r, hmem, hid, hend⟩ with hdb | ⟨j, hj, hja⟩
    · exact hstart hdb
    · have hij : i = j := hother j hj (Config.accepted_put hi _ hja)
      obtain ⟨b, hb⟩ := Config.accepted_eq_true.1 hja
      rw [hij, Config.rest_eq_none.2 ⟨_, hb⟩] at hi
      cases hi
  | updateTrip tripId dto => trivial

/-- Requests on trips are serialisable throughout an interleaving, no vehicle ever
has two open trips and no trip is ended twice, exactly if each transaction finds
what its checks have found. -/
theorem trips_serialisable (calls : ι → Call Request) (sched : List ι) (hdb : Reachable db) :
    Along (Config.step (handlers calls)) (CommitsInTime calls) sched (.init db) ↔
      Always (Config.step (handlers calls)) (Lawful calls db) sched (.init db) := by
  constructor
  · intro hsched
    have hser : Always (Config.step (handlers calls)) (Config.Serialisable (handlers calls) db)
        sched (.init db) := by
      refine Config.serialisable_of_along (R := fun _ => Kept)
        (K := fun i db => (calls i).request.StillHolds (calls i).tenantId db.toTables)
        (fun _ => Kept.refl) (fun _ _ _ _ => Kept.trans) (fun i => (calls i).request.checks _ _)
        (fun i c hi hc => ⟨hi hc, fun _ _ _ _ => (calls i).request.kept _ _ _⟩) hsched
    exact hser.mono fun c hc =>
      ⟨hc, exclusive_of_serialisable hdb hc, endedOnce_of_serialisable hc⟩
  · exact Along.of_always (I := Traced calls db) (fun i c hc => hc.step i)
      (fun i c hc hlaw => commitsInTime_of_lawful_step hc hlaw) .init

end Interleaved

/-- The company with `d0` assigned to `v0` and on a trip with it. -/
def onTheRoad : List NodeVms.Request :=
  Sample.company ++
    [Sample.assignment "a" "t0" "v0" "d0" 0 .undefined, Sample.startTrip "x" "t0" "v0" "u0" 1]

/-- The next trip starts while the last one ends, just after its transaction. -/
theorem trips_serialisable_handover :
    let calls : Fin 2 → Call Request :=
      ![⟨.sample "" 2, "t0", .endTrip "x0" "" {} .admin⟩,
        ⟨.sample "y" 2, "t0", .startTrip "v0" "u0"⟩]
    let db := run step onTheRoad Database.empty
    Always (Config.step (handlers calls)) (Lawful calls db) [1, 0, 1, 0, 1, 1, 1] (.init db) :=
  (trips_serialisable _ _ ⟨_, rfl⟩).1 (by decide)

/-- `u0` starts a trip with `v0` twice at once: both requests pass their checks,
then both transactions go through. -/
theorem trips_not_serialisable :
    ¬∀ (n : Nat) (calls : Fin n → Call Request) (db : Database), Reachable db → ∀ sched,
      Always (Config.step (handlers calls)) (Config.Serialisable (handlers calls) db) sched
        (.init db) := by
  intro h
  let calls : Fin 2 → Call Request :=
    ![⟨.sample "x" 1, "t0", .startTrip "v0" "u0"⟩, ⟨.sample "y" 1, "t0", .startTrip "v0" "u0"⟩]
  obtain ⟨db, hdb, c, hc, htwo⟩ : ∃ db, Reachable db ∧ ∃ c : Config (Fin 2) Database Error Trip,
      run (Config.step (handlers calls)) [0, 0, 0, 0, 1, 1, 1, 1, 0, 1] (.init db) = c ∧
      ∃ a ∈ c.state.trips, ∃ b ∈ c.state.trips, a ≠ b ∧ Clash Trip.vehicleId a b :=
    ⟨run step (Sample.company ++ [Sample.assignment "a" "t0" "v0" "d0" 0 .undefined])
      Database.empty, ⟨_, rfl⟩, _, rfl, by decide⟩
  obtain ⟨a, ha, b, hb, hne, hclash⟩ := htwo
  have hser := (h 2 calls db hdb [0, 0, 0, 0, 1, 1, 1, 1, 0, 1]).last
  rw [hc] at hser
  exact exclusive_of_serialisable hdb hser a ha b hb hne hclash

end Trips
end NodeVms
