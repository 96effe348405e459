/-
# Availability over adjacent ranges

A check looks for bookings, trips and assignments that overlap a range, for
maintenance scheduled in it and for a vehicle that is in maintenance now.  Each of
the five speaks against a range exactly if it speaks against one of the parts of the
range, so nothing slips through where two requested ranges touch.
-/

import NodeVms.Store.Periods
import NodeVms.System

namespace NodeVms
namespace Scheduling

open Store Script Bookings

variable {t : Tables} {db : Database} {id T : String} {x y z s e : Time}

/-- The check answers that the range is available. -/
def Available (check : Query AvailabilityResult) (db : Database) : Prop :=
  ∃ r, check.eval db = .ok r ∧ r.available = true

/-- A resource is available if the check of a booking passes. -/
theorem available_iff {check : Query AvailabilityResult} (message : String) :
    Available check db ↔ (assertAvailable check message).eval db = .ok () := by
  simp [Available, assertAvailable]

/-- A vehicle is available if nothing of it overlaps. -/
theorem vehicle_available_iff :
    Available (checkVehicleAvailability id T s e) db ↔ VehicleFree db.toTables id T s e :=
  (available_iff "").trans eval_assertVehicleAvailable_eq_ok

/-- So is a driver. -/
theorem driver_available_iff :
    Available (checkDriverAvailability id T s e) db ↔ DriverFree db.toTables id T s e :=
  (available_iff "").trans eval_assertDriverAvailable_eq_ok

/-- A booking overlaps a period if it overlaps one of its parts. -/
theorem bookingConflicts_split {b : Booking} (h : b.startDate < b.endDate) (hxy : x < y)
    (hyz : y < z) : bookingConflicts id T x z b ↔
      bookingConflicts id T x y b ∨ bookingConflicts id T y z b := by
  have hend : ∀ e ∈ some b.endDate, b.startDate < e := by simpa using h
  have hsplit := overlap_split hend hxy hyz
  simp only [Option.mem_def, Option.some.injEq, forall_eq'] at hsplit
  simp only [bookingConflicts, hsplit, and_or_left]

/-- A vehicle is free in a period if it is in both parts. -/
theorem VehicleFree.split (hb : ∀ b ∈ t.bookings, b.startDate < b.endDate)
    (ht : ∀ r ∈ t.trips, ∀ e ∈ r.endTime, r.startTime < e) (hxy : x < y) (hyz : y < z) :
    VehicleFree t id T x z ↔ VehicleFree t id T x y ∧ VehicleFree t id T y z := by
  have hbookings : ∀ b ∈ t.bookings, ¬bookingConflicts id T x z b ↔
      ¬bookingConflicts id T x y b ∧ ¬bookingConflicts id T y z b := by
    intro b hmem
    rw [bookingConflicts_split (hb b hmem) hxy hyz, not_or]
  have htrips : ∀ r ∈ t.trips, ¬tripOverlaps x z r ↔ ¬tripOverlaps x y r ∧ ¬tripOverlaps y z r := by
    intro r hmem
    rw [← not_or]
    exact not_congr (overlap_split (ht r hmem) hxy hyz)
  have hmaintenance : ∀ d, (x ≤ d → ¬d ≤ z) ↔ (x ≤ d → ¬d ≤ y) ∧ (y ≤ d → ¬d ≤ z) := by
    intro d
    simp only [← not_and]
    rw [← not_or]
    exact not_congr (mem_Icc_split hxy.le hyz.le)
  constructor
  · intro h
    constructor
    · exact ⟨fun b hb => ((hbookings b hb).1 (h.bookings b hb)).1,
        fun r hr hid hT hlive => ((htrips r hr).1 (h.trips r hr hid hT hlive)).1, h.status,
        fun l hl hid hT hlive => ((hmaintenance _).1 (h.maintenance l hl hid hT hlive)).1⟩
    · exact ⟨fun b hb => ((hbookings b hb).1 (h.bookings b hb)).2,
        fun r hr hid hT hlive => ((htrips r hr).1 (h.trips r hr hid hT hlive)).2, h.status,
        fun l hl hid hT hlive => ((hmaintenance _).1 (h.maintenance l hl hid hT hlive)).2⟩
  · rintro ⟨h, h'⟩
    exact ⟨fun b hb => (hbookings b hb).2 ⟨h.bookings b hb, h'.bookings b hb⟩,
      fun r hr hid hT hlive =>
        (htrips r hr).2 ⟨h.trips r hr hid hT hlive, h'.trips r hr hid hT hlive⟩,
      h.status,
      fun l hl hid hT hlive =>
        (hmaintenance _).2 ⟨h.maintenance l hl hid hT hlive, h'.maintenance l hl hid hT hlive⟩⟩

/-- So is a driver. -/
theorem DriverFree.split (ha : ∀ a ∈ t.assignments, ∀ e ∈ a.endDate, a.startDate < e)
    (ht : ∀ r ∈ t.trips, ∀ e ∈ r.endTime, r.startTime < e) (hxy : x < y) (hyz : y < z) :
    DriverFree t id T x z ↔ DriverFree t id T x y ∧ DriverFree t id T y z := by
  have hassignments : ∀ a ∈ t.assignments, ¬assignmentOverlaps x z a ↔
      ¬assignmentOverlaps x y a ∧ ¬assignmentOverlaps y z a := by
    intro a hmem
    rw [← not_or]
    exact not_congr (overlap_split (ha a hmem) hxy hyz)
  have htrips : ∀ r ∈ t.trips, ¬tripOverlaps x z r ↔ ¬tripOverlaps x y r ∧ ¬tripOverlaps y z r := by
    intro r hmem
    rw [← not_or]
    exact not_congr (overlap_split (ht r hmem) hxy hyz)
  constructor
  · intro h
    constructor
    · exact ⟨fun a ha hid hlive => ((hassignments a ha).1 (h.assignments a ha hid hlive)).1,
        fun r hr hid hT hlive => ((htrips r hr).1 (h.trips r hr hid hT hlive)).1⟩
    · exact ⟨fun a ha hid hlive => ((hassignments a ha).1 (h.assignments a ha hid hlive)).2,
        fun r hr hid hT hlive => ((htrips r hr).1 (h.trips r hr hid hT hlive)).2⟩
  · rintro ⟨h, h'⟩
    exact ⟨fun a ha hid hlive =>
        (hassignments a ha).2 ⟨h.assignments a ha hid hlive, h'.assignments a ha hid hlive⟩,
      fun r hr hid hT hlive =>
        (htrips r hr).2 ⟨h.trips r hr hid hT hlive, h'.trips r hr hid hT hlive⟩⟩

/-- **Availability splits over adjacent ranges**, of vehicles and of drivers, whatever their
bookings, trips, assignments and maintenance. -/
theorem availability_splits (hb : ∀ b ∈ db.bookings, b.startDate < b.endDate)
    (ha : ∀ a ∈ db.assignments, ∀ e ∈ a.endDate, a.startDate < e)
    (ht : ∀ r ∈ db.trips, ∀ e ∈ r.endTime, r.startTime < e) (tenantId vehicleId driverId : String) :
    (Splits fun s e => Available (checkVehicleAvailability vehicleId tenantId s e) db) ∧
      Splits fun s e => Available (checkDriverAvailability driverId tenantId s e) db := by
  constructor
  · refine .of_cut fun x y z hxy hyz => ?_
    simp only [vehicle_available_iff]
    exact VehicleFree.split hb ht hxy hyz
  · refine .of_cut fun x y z hxy hyz => ?_
    simp only [driver_available_iff]
    exact DriverFree.split ha ht hxy hyz

/-- `v0` is booked until 10, so it is available from 12 to 15. -/
theorem availability_splits_booked :
    Available (checkVehicleAvailability "v0" "t0" 12 15)
      (run step (Sample.company ++ [Sample.booking "b" "t0" "v0" .undefined 0 10])
        Database.empty) := by
  refine (availability_splits ?_ ?_ ?_ "t0" "v0" "d0").1.within 10 12 15 20 ?_ ?_ ?_ ⟨_, rfl, rfl⟩
  all_goals decide

end Scheduling
end NodeVms
