/-
# What bookings refer to

`create` and `assign` look neither the vehicle nor the driver up; they ask the
availability checks, whose queries find nothing that speaks against an id of
another tenant or of a soft-deleted row.  An id that names no row at all is
refused by the foreign key.
-/

import NodeVms.Calendar.Bookings
import NodeVms.Tenancy.Isolation

namespace NodeVms
namespace Bookings

open Store Scheduling

/-! ### The law -/

/-- The vehicle a request supplies. -/
def Request.vehicleId : Request → Option String
  | .create dto => some dto.vehicleId
  | .assign _ dto => dto.vehicleId.nullish
  | _ => none

/-- The driver a request supplies. -/
def Request.driverId : Request → Option String
  | .create dto => dto.driverId.nullish
  | .assign _ dto => dto.driverId.nullish
  | _ => none

/-- The request refers to a live vehicle and a live driver of the tenant. -/
def Request.RefersToOwn (tenantId : String) (db : Database) (r : Request) : Prop :=
  (∀ k ∈ r.vehicleId, LiveVehicle db.toTables tenantId k) ∧
    ∀ k ∈ r.driverId, LiveDriver db.toTables tenantId k

/-- The request goes through. -/
def Request.Accepted (env : Env) (tenantId : String) (db : Database) (r : Request) : Prop :=
  ∃ b db', (r.handler env tenantId).exec db = .ok (b, db')

/-- A request that goes through writes references to live rows of the tenant. -/
def WritesOwn (r : NodeVms.Request) (db : Database) : Prop :=
  ∀ env T rb, r = .tenant env T (.bookings rb) → rb.Accepted env T db → rb.RefersToOwn T db

/-- The vehicle and the driver of the booking have its tenant. -/
def StaysInTenant (t : Tables) (b : Booking) : Prop :=
  (∀ v ∈ t.vehicles, b.vehicleId = v.id → v.tenantId = b.tenantId) ∧
    ∀ d ∈ t.drivers, b.driverId = some d.id.val → d.tenantId = b.tenantId

/-- Every booking does. -/
def BookingsStayInTenant (t : Tables) : Prop := ∀ b ∈ t.bookings, StaysInTenant t b

instance (t : Tables) : Decidable (BookingsStayInTenant t) := by
  unfold BookingsStayInTenant StaysInTenant; infer_instance

/-! ### The condition -/

/-- No vehicle and no driver the request names is another tenant's or soft-deleted. -/
def Request.NamesOwn (tenantId : String) (db : Database) (r : Request) : Prop :=
  (∀ k ∈ r.vehicleId, ∀ v ∈ db.vehicles, v.id.val = k →
    v.tenantId = tenantId ∧ v.deletedAt = none) ∧
  ∀ k ∈ r.driverId, ∀ d ∈ db.drivers, d.id.val = k → d.tenantId = tenantId ∧ d.deletedAt = none

instance (tenantId : String) (db : Database) : DecidablePred (Request.NamesOwn tenantId db) :=
  fun r => by unfold Request.NamesOwn; infer_instance

/-- A request that writes a booking names rows of its own tenant in it. -/
def NamesOwnRows (r : NodeVms.Request) (db : Database) : Prop :=
  ∀ p ∈ r.booking?, p.2.NamesOwn p.1 db

instance (r : NodeVms.Request) (db : Database) : Decidable (NamesOwnRows r db) := by
  unfold NamesOwnRows; infer_instance

variable {env : Env} {T : String} {db db' : Database} {booking : Booking}

/-- The booking a request has written carries what the request supplied. -/
theorem exists_booking_of_ok {rb : Request} (h : (rb.handler env T).exec db = .ok (booking, db')) :
    db'.vehicles = db.vehicles ∧ db'.drivers = db.drivers ∧
      ∃ b ∈ db'.bookings, (∀ k ∈ rb.vehicleId, b.vehicleId = k) ∧
        ∀ k ∈ rb.driverId, b.driverId = some k := by
  cases rb with
  | create dto =>
    obtain ⟨s, e, -, -, -, -, -, hb, hw⟩ := create_ok h
    rw [hw]
    refine ⟨rfl, rfl, booking, List.mem_append_right _ (List.mem_singleton_self _), ?_, ?_⟩
    · intro k hk
      rw [hb]
      exact Option.some.inj hk
    · intro k hk
      rw [hb]
      exact hk
  | confirm id =>
    obtain ⟨o, ho, hid, -, -, -, hw⟩ := confirm_ok h
    rw [hw]
    exact ⟨rfl, rfl, _, mem_updateWhere.2 (.inr ⟨o, ho, decide_eq_true hid, rfl⟩), nofun, nofun⟩
  | cancel id =>
    obtain ⟨o, ho, hid, -, -, -, hw⟩ := cancel_ok h
    rw [hw]
    exact ⟨rfl, rfl, _, mem_updateWhere.2 (.inr ⟨o, ho, decide_eq_true hid, rfl⟩), nofun, nofun⟩
  | assign id dto =>
    obtain ⟨o, ho, hid, -, -, -, -, -, -, hw⟩ := assign_ok h
    rw [hw]
    refine ⟨rfl, rfl, _, mem_updateWhere.2 (.inr ⟨o, ho, decide_eq_true hid, rfl⟩), ?_, ?_⟩
    · intro k hk
      change dto.vehicleId.set o.vehicleId = k
      rw [Field.nullish_eq_some.1 hk]
      rfl
    · intro k hk
      change dto.driverId.setNullable o.driverId = some k
      rw [Field.nullish_eq_some.1 hk]
      rfl

/-- Since an accepted request names rows that exist, it refers to live rows of
the tenant exactly if no row it names is foreign or soft-deleted. -/
theorem refersToOwn_iff_namesOwn {rb : Request} (h : rb.Accepted env T db) :
    rb.RefersToOwn T db ↔ rb.NamesOwn T db := by
  obtain ⟨b, db', h⟩ := h
  obtain ⟨hvs, hds, b', hb', hv, hd⟩ := exists_booking_of_ok h
  constructor
  · rintro ⟨hlv, hld⟩
    refine ⟨fun k hk v hvm hid => ?_, fun k hk d hdm hid => ?_⟩
    · obtain ⟨o, ho, hoid, hT, hdel⟩ := hlv k hk
      rw [db.eq_of_id .vehicle hvm ho (hid.trans hoid.symm)]
      exact ⟨hT, hdel⟩
    · obtain ⟨o, ho, hoid, hT, hdel⟩ := hld k hk
      rw [db.eq_of_id .driver hdm ho (hid.trans hoid.symm)]
      exact ⟨hT, hdel⟩
  · rintro ⟨hnv, hnd⟩
    refine ⟨fun k hk => ?_, fun k hk => ?_⟩
    · obtain ⟨o, ho, hoid⟩ :=
        db'.exists_of_fkey Schema.booking_vehicleId_fkey hb' (congrArg some (hv k hk))
      have ho : o ∈ db.vehicles := hvs ▸ ho
      exact ⟨o, ho, hoid, hnv k hk o ho hoid⟩
    · obtain ⟨o, ho, hoid⟩ := db'.exists_of_fkey Schema.booking_driverId_fkey hb' (hd k hk)
      have ho : o ∈ db.drivers := hds ▸ ho
      exact ⟨o, ho, hoid, hnd k hk o ho hoid⟩

/-- Vehicles and drivers do not change hands, so a booking that is left alone
stays in its tenant. -/
theorem StaysInTenant.step {b : Booking} (h : StaysInTenant db.toTables b)
    (hc : TenantClosed db.toTables) (hb : b ∈ db.bookings) (r : NodeVms.Request) :
    StaysInTenant (step r db).toTables b := by
  refine ⟨fun v hv hk => ?_, fun d hd hk => ?_⟩
  · obtain ⟨o, ho, hoid⟩ := db.exists_of_fkey Schema.booking_vehicleId_fkey hb rfl
    rw [vehicle_tenant_step hc r ho hv (hk.symm.trans hoid.symm)]
    exact h.1 o ho hoid.symm
  · obtain ⟨o, ho, hoid⟩ := db.exists_of_fkey Schema.booking_driverId_fkey hb hk
    rw [driver_tenant_step hc r ho hd hoid.symm]
    exact h.2 o ho (hk.trans (congrArg some hoid.symm))

/-- A request that names its own rows keeps the bookings in their tenants. -/
theorem bookingsStayInTenant_step {r : NodeVms.Request} (hc : TenantClosed db.toTables)
    (h : BookingsStayInTenant db.toTables) (hr : NamesOwnRows r db) :
    BookingsStayInTenant (step r db).toTables := by
  have hold : ∀ b ∈ db.bookings, StaysInTenant (step r db).toTables b :=
    fun b hb => (h b hb).step hc hb r
  have hrows := step_bookings r db
  unfold BookingsStayInTenant
  rcases hrows with hsame | ⟨env, T, rb, b, hrb, hok⟩
  · rwa [hsame]
  · obtain ⟨hvs, hds, -⟩ := exists_booking_of_ok hok
    obtain ⟨hnv, hnd⟩ : rb.NamesOwn T db := hr (T, rb) (by rw [hrb]; rfl)
    cases rb with
    | create dto =>
      obtain ⟨s, e, -, -, -, -, -, hb, hw⟩ := create_ok hok
      have hnew : StaysInTenant (step r db).toTables b := by
        rw [hb]
        refine ⟨fun v hv hk => ?_, fun d hd hk => ?_⟩
        · exact (hnv dto.vehicleId rfl v (hvs ▸ hv) hk.symm).1
        · exact (hnd d.id hk d (hds ▸ hd) rfl).1
      have hbookings : (step r db).bookings = db.bookings ++ [b] := by rw [hw]; rfl
      rw [hbookings]
      exact List.forall_mem_append.2 ⟨hold, List.forall_mem_singleton.2 hnew⟩
    | confirm id =>
      obtain ⟨o, -, -, -, -, -, hw⟩ := confirm_ok hok
      have hbookings : (step r db).bookings = (Model.booking.updateAt id _ db.toTables).bookings :=
        congrArg Tables.bookings hw
      rw [hbookings]
      exact forall_updateWhere hold fun _ _ _ h => h
    | cancel id =>
      obtain ⟨o, -, -, -, -, -, hw⟩ := cancel_ok hok
      have hbookings : (step r db).bookings = (Model.booking.updateAt id _ db.toTables).bookings :=
        congrArg Tables.bookings hw
      rw [hbookings]
      exact forall_updateWhere hold fun _ _ _ h => h
    | assign id dto =>
      obtain ⟨o, ho, hid, hT, -, -, hnull, -, -, hw⟩ := assign_ok hok
      have hbookings : (step r db).bookings =
          (Model.booking.updateAt id dto.apply db.toTables).bookings :=
        congrArg Tables.bookings hw
      rw [hbookings]
      refine forall_updateWhere hold fun b hb hbid hbold => ?_
      have hbT : b.tenantId = T := by
        rw [db.eq_of_id .booking hb ho ((of_decide_eq_true hbid).trans hid.symm), hT]
      refine ⟨fun v hv hk => ?_, fun d hd hk => ?_⟩
      · change dto.vehicleId.set b.vehicleId = v.id at hk
        cases hf : dto.vehicleId with
        | undefined =>
          rw [hf] at hk
          exact hbold.1 v hv hk
        | null => exact absurd hf hnull
        | value k =>
          rw [hf] at hk
          change v.tenantId = b.tenantId
          rw [hbT]
          exact (hnv k (Field.nullish_eq_some.2 hf) v (hvs ▸ hv) hk.symm).1
      · rcases Field.setNullable_eq_some hk with hk | hk
        · change d.tenantId = b.tenantId
          rw [hbT]
          exact (hnd d.id (Field.nullish_eq_some.2 hk) d (hds ▸ hd) rfl).1
        · exact hbold.2 d hd hk

/-- In a run in which no request on bookings names another tenant's or a
soft-deleted row, every request that goes through refers to live rows of its
tenant and all bookings stay in their tenants; and after any run, a request that
goes through refers to live rows of its tenant only if it names no other. -/
theorem bookings_refer_to_own (rs : List NodeVms.Request) :
    (Along step NamesOwnRows rs Database.empty →
      Along step WritesOwn rs Database.empty ∧
        Always step (fun db => BookingsStayInTenant db.toTables) rs Database.empty) ∧
    let db := run step rs Database.empty
    ∀ env T (rb : Request), rb.Accepted env T db → (rb.RefersToOwn T db ↔ rb.NamesOwn T db) := by
  refine ⟨fun hrs => ⟨?_, ?_⟩, fun env T rb h => refersToOwn_iff_namesOwn h⟩
  · refine hrs.mono fun r db hr env T rb hrb hacc => ?_
    refine (refersToOwn_iff_namesOwn hacc).2 (hr (T, rb) ?_)
    rw [hrb]
    rfl
  · exact Always.of_along (I := fun db => TenantClosed db.toTables)
      (fun r _ => tenantClosed_step r) (fun r db hc h hr => bookingsStayInTenant_step hc h hr)
      tenantClosed_empty (fun b hb => absurd hb List.not_mem_nil) hrs

/-- A booking with a vehicle and a driver of the tenant, then another driver. -/
theorem bookings_refer_to_own_company :
    let rs := Sample.company ++
      [Sample.booking "a" "t0" "v0" (.value "d0") 0 10,
       .tenant (.sample "x" 0) "t0" (.bookings (.assign "a0" { driverId := .value "e0" }))]
    Along step WritesOwn rs Database.empty ∧
      Always step (fun db => BookingsStayInTenant db.toTables) rs Database.empty :=
  (bookings_refer_to_own _).1 (by decide)

/-- Tenant `s0` books the vehicle and the driver of tenant `t0`. -/
theorem booking_of_foreign_vehicle :
    (¬∀ db, Reachable db → ∀ r, WritesOwn r db) ∧
      ¬∀ db, Reachable db → BookingsStayInTenant db.toTables := by
  let r := Sample.booking "a" "s0" "v0" (.value "d0") 0 10
  obtain ⟨db, hdb, hnames, hnew, hstays⟩ : ∃ db, Reachable db ∧
      ¬LiveVehicle db.toTables "s0" "v0" ∧ (step r db).bookings ≠ db.bookings ∧
      ¬BookingsStayInTenant (step r db).toTables :=
    ⟨run step (Sample.company ++ [Sample.tenant "s"]) Database.empty, ⟨_, rfl⟩, by decide,
      by decide, by decide⟩
  refine ⟨fun h => ?_, fun h => hstays (h _ (hdb.next r))⟩
  obtain hsame | ⟨env, T, rb, b, hr, hok⟩ := step_bookings r db
  · exact hnew hsame
  · obtain ⟨rfl, rfl⟩ := Prod.mk.inj (Option.some.inj (congrArg NodeVms.Request.booking? hr))
    exact hnames ((h db hdb r env _ _ hr ⟨b, _, hok⟩).1 "v0" rfl)

end Bookings
end NodeVms
