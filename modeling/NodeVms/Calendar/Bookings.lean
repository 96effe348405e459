/-
# Double bookings

A booking takes a vehicle and perhaps a driver over `[startDate, endDate)` as
long as it is live and its status is `PENDING` or `CONFIRMED`.

For vehicles the schedule holds in every reachable state: `create` and a
`assign` that changes the vehicle consult the other bookings, and no transition
makes a booking active again.  For drivers `checkDriverAvailability` looks at
assignments and trips only, so the schedule holds as long as nobody names a
driver who is booked already.
-/

import Mathlib.Data.Int.ConditionallyCompleteOrder
import Mathlib.Order.CompletePartialOrder
import Mathlib.Order.ConditionallyCompleteLattice.Basic
import Mathlib.Order.Interval.Set.Disjoint
import Mathlib.Order.Interval.Set.LinearOrder
import NodeVms.Frames

namespace NodeVms
namespace Bookings

open Store Scheduling

/-! ### The law -/

/-- What a booking takes. -/
inductive Resource where
  | vehicle | driver

/-- The resource of this kind that a booking takes. -/
def Resource.of : Resource → Booking → Option String
  | .vehicle, b => some b.vehicleId
  | .driver, b => b.driverId

/-- The booking is live and `PENDING` or `CONFIRMED`. -/
def Active (b : Booking) : Prop := b.deletedAt = none ∧ isActive b.status

instance : DecidablePred Active := fun b => by unfold Active; infer_instance

/-- Distinct active bookings of one tenant with one vehicle (or driver) have
disjoint periods. -/
def NoDoubleBooking (res : Resource) (t : Tables) : Prop :=
  ∀ a ∈ t.bookings, ∀ b ∈ t.bookings, a ≠ b → Active a → Active b → a.tenantId = b.tenantId →
    ∀ k, res.of a = some k → res.of b = some k →
      Disjoint (Set.Ico a.startDate a.endDate) (Set.Ico b.startDate b.endDate)

/-- The booking takes `k` from the tenant at some time of `[s, e)`. -/
def Takes (res : Resource) (tenantId k : String) (s e : Time) (b : Booking) : Prop :=
  Active b ∧ b.tenantId = tenantId ∧ res.of b = some k ∧ b.startDate < e ∧ s < b.endDate

instance (res : Resource) (tenantId k : String) (s e : Time) :
    DecidablePred (Takes res tenantId k s e) := fun b => by unfold Takes; infer_instance

/-- Two active bookings of one tenant take one thing at one time. -/
def Clash (res : Resource) (a b : Booking) : Prop :=
  Active b ∧ ∃ k, res.of b = some k ∧ Takes res b.tenantId k b.startDate b.endDate a

variable {res : Resource} {db : Database}

/-- Which of two bookings comes first does not matter. -/
theorem Clash.symm (a b : Booking) (h : Clash res a b) : Clash res b a := by
  obtain ⟨hb, k, hbk, ha, hT, hak, hs, he⟩ := h
  exact ⟨ha, k, hak, hb, hT.symm, hbk, he, hs⟩

/-- The conflict filter of the vehicle check looks for bookings that take the vehicle. -/
theorem bookingConflicts_iff_takes {vehicleId tenantId : String} {s e : Time} {b : Booking} :
    bookingConflicts vehicleId tenantId s e b ↔ Takes .vehicle tenantId vehicleId s e b := by
  constructor
  · rintro ⟨hv, hT, hd, ha, hs, he⟩
    exact ⟨⟨hd, ha⟩, hT, congrArg some hv, hs, he⟩
  · rintro ⟨⟨hd, ha⟩, hT, hv, hs, he⟩
    exact ⟨Option.some.inj hv, hT, hd, ha, hs, he⟩

/-- Every period has positive length. -/
def Proper (t : Tables) : Prop := ∀ b ∈ t.bookings, b.startDate < b.endDate

/-- Without clashes the periods are disjoint. -/
theorem noDoubleBooking_of_exclusive (h : Exclusive (Clash res) db.bookings) :
    NoDoubleBooking res db.toTables := by
  intro a ha b hb hne hact hbct hT k hak hbk
  rw [Set.disjoint_left]
  rintro x ⟨has, hae⟩ ⟨hbs, hbe⟩
  exact h a ha b hb hne ⟨hbct, k, hbk, hact, hT, hak, has.trans_lt hbe, hbs.trans_lt hae⟩

/-- Over proper periods a clash is a common instant. -/
theorem exclusive_iff_noDoubleBooking (hp : Proper db.toTables) :
    Exclusive (Clash res) db.bookings ↔ NoDoubleBooking res db.toTables := by
  refine ⟨noDoubleBooking_of_exclusive, fun h a ha b hb hne hclash => ?_⟩
  obtain ⟨hbct, k, hbk, hact, hT, hak, hs, he⟩ := hclash
  have hdisj := h a ha b hb hne hact hbct hT k hak hbk
  have hx : max a.startDate b.startDate ∈ Set.Ico a.startDate a.endDate :=
    ⟨le_max_left _ _, max_lt (hp a ha) he⟩
  have hx' : max a.startDate b.startDate ∈ Set.Ico b.startDate b.endDate :=
    ⟨le_max_right _ _, max_lt hs (hp b hb)⟩
  exact Set.disjoint_left.1 hdisj hx hx'

/-! ### What a request does to the bookings -/

/-- A request on bookings is one of a tenant. -/
theorem eq_of_booking? {r : NodeVms.Request} {T : String} {rb : Request}
    (h : r.booking? = some (T, rb)) : ∃ env, r = .tenant env T (.bookings rb) := by
  cases r with
  | platform env r => simp [NodeVms.Request.booking?] at h
  | tenant env tenantId r =>
    cases r with
    | bookings r =>
      obtain ⟨rfl, rfl⟩ := Prod.mk.inj (Option.some.inj h)
      exact ⟨env, rfl⟩
    | _ => simp [NodeVms.Request.booking?] at h

section Steps

variable {env : Env} {T id : String} {db' : Database} {booking : Booking}

/-- A new booking takes its vehicle and its driver over its period. -/
theorem create_exclusive_iff {dto : CreateBookingDto}
    (h : (create env T dto).exec db = .ok (booking, db')) :
    Exclusive (Clash res) db'.bookings ↔
      Exclusive (Clash res) db.bookings ∧ ∀ k, res.of booking = some k →
        ∀ a ∈ db.bookings, ¬Takes res T k booking.startDate booking.endDate a := by
  obtain ⟨s, e, -, -, -, -, -, hb, hw⟩ := create_ok h
  have hact : Active booking := by
    rw [hb]
    exact ⟨rfl, .inl rfl⟩
  have hT : booking.tenantId = T := by rw [hb]
  refine (exclusive_insert (m := .booking) Clash.symm hw).trans (and_congr_right fun _ => ?_)
  constructor
  · intro hno k hk a ha htakes
    exact hno a ha ⟨hact, k, hk, hT ▸ htakes⟩
  · rintro hno a ha ⟨-, k, hk, htakes⟩
    exact hno k hk a ha (hT ▸ htakes)

/-- A confirmed booking was active before. -/
theorem confirm_exclusive (h : (confirm T id).exec db = .ok (booking, db'))
    (hx : Exclusive (Clash res) db.bookings) : Exclusive (Clash res) db'.bookings := by
  obtain ⟨b, hb, hid, -, hd, hs, hw⟩ := confirm_ok h
  refine exclusive_updateAt_of_imp (m := .booking) Clash.symm hb hid rfl hw hx ?_
  rintro a ⟨-, k, hk, htakes⟩
  refine ⟨⟨hd, .inl hs⟩, k, ?_, htakes⟩
  cases res <;> exact hk

/-- A cancelled booking takes nothing. -/
theorem cancel_exclusive (h : (cancel T id).exec db = .ok (booking, db'))
    (hx : Exclusive (Clash res) db.bookings) : Exclusive (Clash res) db'.bookings := by
  obtain ⟨b, hb, hid, -, -, -, hw⟩ := cancel_ok h
  refine exclusive_updateAt_of_imp (m := .booking) Clash.symm hb hid rfl hw hx ?_
  rintro a ⟨⟨-, hact⟩, -⟩
  rcases hact with hact | hact <;> cases hact

/-- A reassigned booking keeps its period and its status. -/
theorem assign_exclusive_iff {dto : AssignDriverVehicleDto}
    (h : (assign T id dto).exec db = .ok (booking, db'))
    (hx : Exclusive (Clash res) db.bookings) {b : Booking} (hb : b ∈ db.bookings)
    (hid : b.id.val = id) :
    Exclusive (Clash res) db'.bookings ↔ ∀ k, res.of (dto.apply b) = some k →
      ∀ a ∈ db.bookings, a ≠ b → ¬Takes res T k b.startDate b.endDate a := by
  obtain ⟨o, ho, hoid, hoT, hd, hs, -, -, -, hw⟩ := assign_ok h
  have hbo : b = o := db.eq_of_id .booking hb ho (hid.trans hoid.symm)
  rw [← hbo] at hoT hd hs
  have hne : ∀ a ∈ db.bookings, a.id.val ≠ id ↔ a ≠ b := by
    intro a ha
    refine not_congr ⟨fun hk => db.eq_of_id .booking ha hb (hk.trans hid.symm), ?_⟩
    rintro rfl
    exact hid
  refine (exclusive_updateAt (m := .booking) Clash.symm hb hid rfl hw hx).trans ?_
  constructor
  · intro hno k hk a ha hab htakes
    exact hno a ha ((hne a ha).2 hab) ⟨⟨hd, hs⟩, k, hk, hoT ▸ htakes⟩
  · rintro hno a ha hab ⟨-, k, hk, htakes⟩
    exact hno k hk a ha ((hne a ha).1 hab) (hoT ▸ htakes)

end Steps

/-! ### Vehicles -/

/-- Every request keeps the schedule of the vehicles. -/
theorem vehicle_exclusive_step (r : NodeVms.Request) (h : Exclusive (Clash .vehicle) db.bookings) :
    Exclusive (Clash .vehicle) (step r db).bookings := by
  rcases step_bookings r db with hsame | ⟨env, T, rb, b, -, hok⟩
  · rwa [hsame]
  · cases rb with
    | create dto =>
      refine (create_exclusive_iff hok).2 ⟨h, fun k hk a ha htakes => ?_⟩
      obtain ⟨s, e, -, -, -, hfree, -, hb, -⟩ := create_ok hok
      rw [hb] at hk htakes
      rw [← Option.some.inj hk] at htakes
      exact hfree.bookings a ha (bookingConflicts_iff_takes.2 htakes)
    | confirm id => exact confirm_exclusive hok h
    | cancel id => exact cancel_exclusive hok h
    | assign id dto =>
      obtain ⟨o, ho, hid, hT, hd, hs, hnull, hfree, -, hw⟩ := assign_ok hok
      refine (assign_exclusive_iff hok h ho hid).2 fun k hk a ha hne htakes => ?_
      have hk : dto.vehicleId.set o.vehicleId = k := Option.some.inj hk
      by_cases hsame : k = o.vehicleId
      · -- the vehicle stays, and was not taken by another booking before
        rw [hsame, ← hT] at htakes
        exact h a ha o ho hne ⟨⟨hd, hs⟩, o.vehicleId, rfl, htakes⟩
      · cases hv : dto.vehicleId with
        | undefined => exact hsame (by rw [← hk, hv]; rfl)
        | null => exact hnull hv
        | value v =>
          have hvk : v = k := by
            rw [← hk, hv]
            rfl
          have hne' : k ≠ "" := by
            rintro rfl
            have hmem : dto.apply o ∈ (step r db).bookings := by
              rw [hw]
              exact mem_updateWhere.2 (.inr ⟨o, ho, decide_eq_true hid, rfl⟩)
            exact (step r db).ref_ne_empty Schema.booking_vehicleId_fkey hmem (congrArg some hk)
          rw [hvk] at hv
          exact (hfree k hv hne' hsame).bookings a ha (bookingConflicts_iff_takes.2 htakes)

/-- In every reachable state no two bookings clash over a vehicle. -/
theorem vehicle_exclusive_of_reachable (h : Reachable db) :
    Exclusive (Clash .vehicle) db.bookings :=
  h.invariant (I := fun db => Exclusive (Clash .vehicle) db.bookings) exclusive_nil
    fun r _ _ => vehicle_exclusive_step r

/-- No vehicle is booked twice: in every reachable state, distinct active
bookings of one tenant and one vehicle have disjoint periods. -/
theorem vehicle_noDoubleBooking (h : Reachable db) : NoDoubleBooking .vehicle db.toTables :=
  noDoubleBooking_of_exclusive (vehicle_exclusive_of_reachable h)

/-- Two bookings of `v0`, the second from the end of the first on, and one of
`w0` at the same time, which is then to move to `v0` and may not. -/
theorem vehicle_noDoubleBooking_back_to_back :
    let rs := Sample.company ++
      [Sample.booking "a" "t0" "v0" .undefined 0 10, Sample.booking "b" "t0" "v0" .undefined 10 20,
       Sample.booking "c" "t0" "w0" .undefined 5 15,
       .tenant (.sample "x" 0) "t0" (.bookings (.assign "c0" { vehicleId := .value "v0" }))]
    (run step rs Database.empty).bookings.map Booking.vehicleId = ["v0", "v0", "w0"] ∧
      NoDoubleBooking .vehicle (run step rs Database.empty).toTables :=
  ⟨by decide, vehicle_noDoubleBooking ⟨_, rfl⟩⟩

/-! ### Drivers -/

/-- The request names no driver whom another active booking of the tenant takes
in the period. -/
def Request.DriverUnbooked (tenantId : String) (db : Database) : Request → Prop
  | .create dto => ∀ d ∈ dto.driverId.nullish, ∀ s ∈ dto.startDate, ∀ e ∈ dto.endDate, s < e →
    ∀ a ∈ db.bookings, ¬Takes .driver tenantId d s e a
  | .assign id dto => ∀ b ∈ db.bookings, b.id.val = id → b.tenantId = tenantId → Active b →
    ∀ d ∈ dto.driverId.nullish,
      ∀ a ∈ db.bookings, a ≠ b → ¬Takes .driver tenantId d b.startDate b.endDate a
  | _ => True

instance (tenantId : String) (db : Database) : DecidablePred (Request.DriverUnbooked tenantId db) :=
  fun r => by cases r <;> (unfold Request.DriverUnbooked; infer_instance)

/-- A request on bookings names no booked driver. -/
def NamesUnbookedDriver (r : NodeVms.Request) (db : Database) : Prop :=
  ∀ p ∈ r.booking?, p.2.DriverUnbooked p.1 db

instance (r : NodeVms.Request) (db : Database) : Decidable (NamesUnbookedDriver r db) := by
  unfold NamesUnbookedDriver; infer_instance

/-- A request keeps the schedule of the drivers if it names no booked one. -/
theorem driver_exclusive_step {r : NodeVms.Request} (h : Exclusive (Clash .driver) db.bookings)
    (hr : NamesUnbookedDriver r db) : Exclusive (Clash .driver) (step r db).bookings := by
  rcases step_bookings r db with hsame | ⟨env, T, rb, b, rfl, hok⟩
  · rwa [hsame]
  · have hr : rb.DriverUnbooked T db := hr (T, rb) rfl
    cases rb with
    | create dto =>
      refine (create_exclusive_iff hok).2 ⟨h, fun k hk a ha htakes => ?_⟩
      obtain ⟨s, e, hs, he, hlt, -, -, hb, -⟩ := create_ok hok
      rw [hb] at hk htakes
      exact hr k hk s hs e he hlt a ha htakes
    | confirm id => exact confirm_exclusive hok h
    | cancel id => exact cancel_exclusive hok h
    | assign id dto =>
      obtain ⟨o, ho, hid, hT, hd, hs, -, -, -, -⟩ := assign_ok hok
      refine (assign_exclusive_iff hok h ho hid).2 fun k hk a ha hne htakes => ?_
      rcases Field.setNullable_eq_some hk with hk | hk
      · exact hr o ho hid hT ⟨hd, hs⟩ k (Field.nullish_eq_some.2 hk) a ha hne htakes
      · exact h a ha o ho hne ⟨⟨hd, hs⟩, k, hk, hT ▸ htakes⟩

/-- A request that names a booked driver and is not rejected makes a double booking. -/
theorem not_driver_exclusive_step {r : NodeVms.Request}
    (h : Exclusive (Clash .driver) db.bookings) (hr : ¬NamesUnbookedDriver r db)
    (hne : step r db ≠ db) : ¬Exclusive (Clash .driver) (step r db).bookings := by
  intro h'
  refine hr fun ⟨T, rb⟩ hrb => ?_
  obtain ⟨env, rfl⟩ := eq_of_booking? hrb
  obtain hsame | ⟨b, hok⟩ := (rb.handler env T).next_cases db
  · exact absurd hsame hne
  · cases rb with
    | create dto =>
      obtain ⟨s, e, hs, he, -, -, -, hb, -⟩ := create_ok hok
      obtain ⟨-, hno⟩ := (create_exclusive_iff hok).1 h'
      rw [hb] at hno
      intro d hd s' hs' e' he' _ a ha
      have hss : s = s' := Option.some.inj (hs.symm.trans hs')
      have hee : e = e' := Option.some.inj (he.symm.trans he')
      rw [← hss, ← hee]
      exact hno d hd a ha
    | confirm id => trivial
    | cancel id => trivial
    | assign id dto =>
      intro o ho hid _ _ d hd a ha hao
      refine (assign_exclusive_iff hok h ho hid).1 h' d ?_ a ha hao
      have hd : dto.driverId = .value d := Field.nullish_eq_some.1 hd
      change dto.driverId.setNullable o.driverId = some d
      rw [hd]
      rfl

/-- Every booking has a proper period. -/
theorem proper_of_reachable (h : Reachable db) : Proper db.toTables := by
  refine h.invariant (I := fun db => Proper db.toTables) (fun b hb => absurd hb List.not_mem_nil)
    fun r db _ hp => ?_
  have hrows := step_bookings r db
  unfold Proper
  rcases hrows with hsame | ⟨env, T, rb, b, rfl, hok⟩
  · rwa [hsame]
  · cases rb with
    | create dto =>
      obtain ⟨s, e, -, -, hlt, -, -, hb, hw⟩ := create_ok hok
      rw [hw]
      refine List.forall_mem_append.2 ⟨hp, List.forall_mem_singleton.2 ?_⟩
      rw [hb]
      exact hlt
    | confirm id =>
      obtain ⟨o, -, -, -, -, -, hw⟩ := confirm_ok hok
      rw [hw]
      exact forall_updateWhere hp fun _ _ _ h => h
    | cancel id =>
      obtain ⟨o, -, -, -, -, -, hw⟩ := cancel_ok hok
      rw [hw]
      exact forall_updateWhere hp fun _ _ _ h => h
    | assign id dto =>
      obtain ⟨o, -, -, -, -, -, -, -, -, hw⟩ := assign_ok hok
      rw [hw]
      exact forall_updateWhere hp fun _ _ _ h => h

/-- A run in which no request names a driver who is booked already books no
driver twice; and after any run without a double booking, a request that does
name one is rejected or books the driver twice. -/
theorem driver_noDoubleBooking (rs : List NodeVms.Request) :
    (Along step NamesUnbookedDriver rs Database.empty →
      Always step (fun db => NoDoubleBooking .driver db.toTables) rs Database.empty) ∧
    let db := run step rs Database.empty
    NoDoubleBooking .driver db.toTables → ∀ r, ¬NamesUnbookedDriver r db →
      step r db = db ∨ ¬NoDoubleBooking .driver (step r db).toTables := by
  refine ⟨fun hrs => ?_, fun h r hr => ?_⟩
  · have halways :
        Always step (fun db => Exclusive (Clash .driver) db.bookings) rs Database.empty :=
      Always.of_along (I := fun _ => True) (fun _ _ _ => trivial)
        (fun r db _ hx hr => driver_exclusive_step hx hr) trivial exclusive_nil hrs
    exact halways.mono fun db hx => noDoubleBooking_of_exclusive hx
  · have hdb : Reachable (run step rs Database.empty) := ⟨rs, rfl⟩
    rw [← exclusive_iff_noDoubleBooking (proper_of_reachable hdb)] at h
    rw [← exclusive_iff_noDoubleBooking (proper_of_reachable (hdb.next r))]
    rw [or_iff_not_imp_left]
    exact not_driver_exclusive_step h hr

/-- `d0` is booked twice over different hours, with `e0` for the hours in between. -/
theorem driver_noDoubleBooking_shifts :
    Always step (fun db => NoDoubleBooking .driver db.toTables)
      (Sample.company ++
        [Sample.booking "a" "t0" "v0" (.value "d0") 0 10,
         Sample.booking "b" "t0" "w0" (.value "e0") 5 15,
         Sample.booking "c" "t0" "v0" (.value "d0") 10 20]) Database.empty :=
  (driver_noDoubleBooking _).1 (by decide)

/-- Two bookings of `d0` over the same hours, with different vehicles. -/
theorem driver_double_booking :
    ¬∀ db, Reachable db → NoDoubleBooking .driver db.toTables := by
  intro h
  let rs := Sample.company ++
    [Sample.booking "a" "t0" "v0" (.value "d0") 0 10,
     Sample.booking "b" "t0" "w0" (.value "d0") 5 15]
  have hrow : ∃ a ∈ (run step rs Database.empty).bookings,
      ∃ b ∈ (run step rs Database.empty).bookings, a ≠ b ∧ Active a ∧ Active b ∧
        a.tenantId = b.tenantId ∧ Resource.driver.of a = some "d0" ∧
        Resource.driver.of b = some "d0" ∧ (a.startDate ≤ 5 ∧ 5 < a.endDate) ∧
        b.startDate ≤ 5 ∧ 5 < b.endDate := by
    decide
  obtain ⟨a, ha, b, hb, hne, hact, hbct, hT, hak, hbk, ha5, hb5⟩ := hrow
  exact Set.disjoint_left.1 (h _ ⟨rs, rfl⟩ a ha b hb hne hact hbct hT "d0" hak hbk) ha5 hb5

end Bookings
end NodeVms
