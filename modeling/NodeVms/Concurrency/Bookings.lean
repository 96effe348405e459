/-
# Concurrent requests on bookings

Every request on bookings reads the booking or the calendar, decides, and then
writes by the bare id.  Interleaved, the requests are serialisable as long as
each write finds what the request has decided on, and as long as no
reassignment changes, under another one of the same booking, whether that one
moves it.  Two bookings of one vehicle made at the same time are enough to break
this, and so are a confirmation and a cancellation of one booking.
-/

import Mathlib.Data.Fin.VecNotation
import Mathlib.Data.Fintype.Basic
import NodeVms.Calendar.Bookings

namespace NodeVms
namespace Bookings

open Store Script Prisma Scheduling

variable {env : Env} {T : String} {db db' : Database} {booking : Booking}

/-! ### What one request does to another -/

/-- The columns of a booking that are written once. -/
structure SameBooking (b b' : Booking) : Prop where
  id : b'.id = b.id
  tenantId : b'.tenantId = b.tenantId
  startDate : b'.startDate = b.startDate
  endDate : b'.endDate = b.endDate
  deletedAt : b'.deletedAt = b.deletedAt

/-- A booking agrees with itself in what is written once. -/
theorem SameBooking.refl (b : Booking) : SameBooking b b := ⟨rfl, rfl, rfl, rfl, rfl⟩

/-- Agreement is passed on. -/
theorem SameBooking.trans {b b' b'' : Booking} (h : SameBooking b b') (h' : SameBooking b' b'') :
    SameBooking b b'' :=
  ⟨h'.id.trans h.id, h'.tenantId.trans h.tenantId, h'.startDate.trans h.startDate,
    h'.endDate.trans h.endDate, h'.deletedAt.trans h.deletedAt⟩

/-- `dto.vehicleId !== booking.vehicleId` and `dto.driverId !== booking.driverId`
give the same for both versions of the booking. -/
def AssignDriverVehicleDto.SameAnswers (dto : AssignDriverVehicleDto) (b b' : Booking) : Prop :=
  (∀ v ∈ dto.vehicleId.truthy, v ≠ b'.vehicleId ↔ v ≠ b.vehicleId) ∧
    ∀ d ∈ dto.driverId.truthy, some d ≠ b'.driverId ↔ some d ≠ b.driverId

instance (dto : AssignDriverVehicleDto) (b b' : Booking) : Decidable (dto.SameAnswers b b') := by
  unfold AssignDriverVehicleDto.SameAnswers; infer_instance

/-- A booking that stays as it is gets the same answers. -/
theorem AssignDriverVehicleDto.SameAnswers.refl (dto : AssignDriverVehicleDto) (b : Booking) :
    dto.SameAnswers b b :=
  ⟨fun _ _ => .rfl, fun _ _ => .rfl⟩

/-- The booking and the body, if it is an assignment. -/
def Request.assign? : Request → Option (String × AssignDriverVehicleDto)
  | .assign id dto => some (id, dto)
  | _ => none

/-- What requests on bookings leave as it is while `r` is under way: the other
tables, the periods of the bookings, and what `r` has asked about its booking. -/
structure Kept (r : Request) (db db' : Database) : Prop where
  frame : Frame db.toTables db'.toTables
  bookings : ∀ b ∈ db.bookings, ∃ b' ∈ db'.bookings, SameBooking b b'
  answers : ∀ p ∈ r.assign?, ∀ b ∈ db.bookings, ∀ b' ∈ db'.bookings, b.id.val = p.1 →
    b'.id.val = p.1 → p.2.SameAnswers b b'

/-- A request that does nothing keeps what a request has read. -/
theorem Kept.refl (r : Request) (db : Database) : Kept r db db where
  frame := ⟨_, rfl⟩
  bookings b hb := ⟨b, hb, .refl b⟩
  answers p _ b hb b' hb' hid hid' := by
    rw [db.eq_of_id .booking hb' hb (hid'.trans hid.symm)]
    exact .refl p.2 b

/-- What two requests keep, both keep. -/
theorem Kept.trans {r : Request} {db db' db'' : Database} (h : Kept r db db')
    (h' : Kept r db' db'') : Kept r db db'' where
  frame := by
    obtain ⟨bs, hbs⟩ := h.frame
    obtain ⟨bs', hbs'⟩ := h'.frame
    exact ⟨bs', by rw [hbs', hbs]⟩
  bookings b hb := by
    obtain ⟨b', hb', hs⟩ := h.bookings b hb
    obtain ⟨b'', hb'', hs'⟩ := h'.bookings b' hb'
    exact ⟨b'', hb'', hs.trans hs'⟩
  answers p hp b hb b'' hb'' hid hid'' := by
    obtain ⟨b', hb', hs⟩ := h.bookings b hb
    have hid' : b'.id.val = p.1 := (congrArg Cuid.val hs.id).trans hid
    obtain ⟨hv, hd⟩ := h.answers p hp b hb b' hb' hid hid'
    obtain ⟨hv', hd'⟩ := h'.answers p hp b' hb' b'' hb'' hid' hid''
    exact ⟨fun v hm => (hv' v hm).trans (hv v hm), fun d hm => (hd' d hm).trans (hd d hm)⟩

/-- What can be said without the bookings stays as it is. -/
theorem Kept.same {r : Request} (h : Kept r db db') {α : Type} (g : Tables → α)
    (hg : ∀ t bs, g { t with bookings := bs } = g t) : g db'.toTables = g db.toTables := by
  obtain ⟨bs, hbs⟩ := h.frame
  rw [hbs, hg]

/-- A new booking leaves the others. -/
theorem kept_insert {r : Request} (hw : db'.toTables = Model.booking.insert [booking] db.toTables) :
    Kept r db db' := by
  have hsub : ∀ b ∈ db.bookings, b ∈ db'.bookings := by
    intro b hb
    rw [hw]
    exact List.mem_append_left _ hb
  refine ⟨⟨_, hw⟩, fun b hb => ⟨b, hsub b hb, .refl b⟩, fun p _ b hb b' hb' hid hid' => ?_⟩
  rw [db'.eq_of_id .booking hb' (hsub b hb) (hid'.trans hid.symm)]
  exact .refl p.2 b

/-- A changed booking agrees with what it was in what is written once. -/
theorem kept_update {r : Request} {id : String} {f : Booking → Booking}
    (hw : db'.toTables = Model.booking.updateAt id f db.toTables) (hf : ∀ b, SameBooking b (f b))
    (hans : ∀ p ∈ r.assign?, p.1 = id → ∀ b ∈ db.bookings, b.id.val = id →
      p.2.SameAnswers b (f b)) : Kept r db db' := by
  have hrows : db'.bookings = updateWhere (fun b : Booking => b.id.val = id) f db.bookings := by
    rw [hw]; rfl
  refine ⟨⟨_, hw⟩, fun b hb => ?_, fun p hp b hb b' hb' hid hid' => ?_⟩
  · rw [hrows]
    exact exists_updateWhere (Q := SameBooking b) (fun o _ _ ho => ho.trans (hf o)) ⟨b, hb, .refl b⟩
  · rw [hrows] at hb'
    rcases mem_updateWhere.1 hb' with ⟨hb', -⟩ | ⟨o, ho, hoid, rfl⟩
    · rw [db.eq_of_id .booking hb' hb (hid'.trans hid.symm)]
      exact .refl p.2 b
    · have hop : o.id.val = p.1 := (congrArg Cuid.val (hf o).id).symm.trans hid'
      rw [← db.eq_of_id .booking ho hb (hop.trans hid.symm)]
      exact hans p hp (hop.symm.trans (of_decide_eq_true hoid)) o ho (of_decide_eq_true hoid)

/-- Unless both reassign one booking, and the answers to `r` with it, a request
leaves as it is what `r` relies on. -/
theorem Request.kept (r r' : Request) (env : Env) (tenantId : String) (db : Database)
    (hans : ∀ p ∈ r.assign?, ∀ q ∈ r'.assign?, p.1 = q.1 → ∀ b ∈ db.bookings, b.id.val = q.1 →
      p.2.SameAnswers b (q.2.apply b)) : Kept r db ((r'.handler env tenantId).next db) := by
  refine next_induct (P := Kept r db) (Kept.refl r db) fun booking db' hok => ?_
  cases r' with
  | create dto =>
    obtain ⟨s, e, -, -, -, -, -, -, hw⟩ := create_ok hok
    exact kept_insert hw
  | confirm id =>
    obtain ⟨b, -, -, -, -, -, hw⟩ := confirm_ok hok
    exact kept_update hw (fun _ => ⟨rfl, rfl, rfl, rfl, rfl⟩) fun p _ _ b _ _ => .refl p.2 b
  | cancel id =>
    obtain ⟨b, -, -, -, -, -, hw⟩ := cancel_ok hok
    exact kept_update hw (fun _ => ⟨rfl, rfl, rfl, rfl, rfl⟩) fun p _ _ b _ _ => .refl p.2 b
  | assign id dto =>
    obtain ⟨b, -, -, -, -, -, -, -, -, hw⟩ := assign_ok hok
    exact kept_update hw (fun _ => ⟨rfl, rfl, rfl, rfl, rfl⟩) fun p hp hid =>
      hans p hp (id, dto) rfl hid

/-! ### The checks -/

/-- The write of the request finds what the request has decided on: no booking
that conflicts with the period, or the booking in a status that admits it. -/
def Request.StillHolds (tenantId : String) (t : Tables) : Request → Prop
  | .create dto => ∀ s ∈ dto.startDate, ∀ e ∈ dto.endDate, ∀ b ∈ t.bookings,
    ¬bookingConflicts dto.vehicleId tenantId s e b
  | .confirm id => ∀ b ∈ t.bookings, b.id.val = id → b.status = .pending
  | .cancel id => ∀ b ∈ t.bookings, b.id.val = id → ¬(b.status = .completed ∨ b.status = .cancelled)
  | .assign id dto => ∀ b ∈ t.bookings, b.id.val = id →
    ¬(b.status = .completed ∨ b.status = .cancelled) ∧
    ∀ v ∈ dto.vehicleId.truthy, v ≠ b.vehicleId → ∀ o ∈ t.bookings,
      ¬bookingConflicts v tenantId b.startDate b.endDate o

instance (tenantId : String) (t : Tables) : DecidablePred (Request.StillHolds tenantId t)
  | .create _ => by unfold Request.StillHolds; infer_instance
  | .confirm _ => by unfold Request.StillHolds; infer_instance
  | .cancel _ => by unfold Request.StillHolds; infer_instance
  | .assign _ _ => by unfold Request.StillHolds; infer_instance

section Checks

variable {r : Request} {K I : Database → Prop} {id message : String} {s e : Time}

/-- The vehicle check bears repetition where `K` rules out a conflicting booking. -/
theorem checks_assertVehicleAvailable (hK : ∀ db db', I db → Kept r db db' → K db' →
    ∀ b ∈ db'.bookings, ¬bookingConflicts id T s e b) :
    (assertAvailable (checkVehicleAvailability id T s e) message).Checks (Kept r) K I := by
  have hreasons : ∀ {x y z : List String}, x ≠ [] →
      (AvailabilityResult.of (x ++ y ++ z)).available = false := by
    intro x y z hx
    simp [AvailabilityResult.of, hx]
  unfold assertAvailable checkVehicleAvailability
  simp only [bind_assoc]
  refine checks_absent_bind rfl ?_ (fun b => ?_) fun db db' b hI hR hb hK' => ?_
  · -- the other tables do not change
    refine checks_query_bind_of_eq rfl (fun t => ?_) fun db db' hR =>
      hR.same (fun t => t.trips.find? _) fun _ _ => rfl
    refine checks_query_bind_of_eq rfl (fun v => ?_) fun db db' hR =>
      hR.same (fun t => t.vehicles.find? _) fun _ _ => rfl
    refine Checks.bind ?_ fun m => checks_throwIf _ _
    split
    · trivial
    · exact checks_query_bind_of_eq rfl (fun _ => trivial) fun db db' hR =>
        hR.same (fun t => t.maintenanceLogs.find? _) fun _ _ => rfl
  · refine ends_bind fun t => ends_bind fun v => ?_
    refine Ends.bind (Q := fun m => m.available = false) ?_ ?_
    · split
      · exact hreasons (List.cons_ne_nil _ _)
      · exact fun _ => hreasons (List.cons_ne_nil _ _)
    · intro m hm
      exact refused_throwIf hm _
  · obtain ⟨hmem, hconf⟩ := mem_of_find? (eval_findFirst_eq_some.1 hb)
    exact hK db db' hI hR hK' b hmem (of_decide_eq_true hconf)

/-- The driver check asks for nothing that changes. -/
theorem checks_assertDriverAvailable :
    (assertAvailable (checkDriverAvailability id T s e) message).Checks (Kept r) K I := by
  unfold assertAvailable checkDriverAvailability
  simp only [bind_assoc]
  refine checks_query_bind_of_eq rfl (fun a => ?_) fun db db' hR =>
    hR.same (fun t => t.assignments.find? _) fun _ _ => rfl
  exact checks_query_bind_of_eq rfl (fun t => checks_throwIf _ _) fun db db' hR =>
    hR.same (fun t => t.trips.find? _) fun _ _ => rfl

/-- A booking found again is the same one, up to its status and what is assigned
to it. -/
theorem Kept.findOwn (h : Kept r db db') {o : Option Booking} {b : Booking}
    (hb : (findById .booking id fun _ b => b.tenantId = T ∧ b.deletedAt = none).eval db =
      .ok (some b))
    (ho : (findById .booking id fun _ b => b.tenantId = T ∧ b.deletedAt = none).eval db' = .ok o) :
    ∃ b' ∈ db'.bookings, o = some b' ∧ b'.id.val = id ∧ SameBooking b b' := by
  obtain ⟨hmem, hid, hT, hd⟩ := eval_findById_eq_some.1 hb
  obtain ⟨b', hb', hs⟩ := h.bookings b hmem
  have hid' : b'.id.val = id := (congrArg Cuid.val hs.id).trans hid
  refine ⟨b', hb', ?_, hid', hs⟩
  exact Except.ok.inj (ho.symm.trans (eval_findById_eq_some.2
    ⟨hb', hid', hs.tenantId.trans hT, hs.deletedAt.trans hd⟩))

end Checks

/-- A new booking asks for its vehicle; the availability is all that may change meanwhile. -/
theorem create_checks (dto : CreateBookingDto) :
    (create env T dto).Checks (Kept (.create dto))
      (fun db => Request.StillHolds T db.toTables (.create dto)) fun _ => True := by
  unfold create
  refine (checks_throwIf _ _).bind fun _ => ?_
  cases hs : dto.startDate with
  | none => trivial
  | some s =>
    cases he : dto.endDate with
    | none => trivial
    | some e =>
      refine (checks_assertVehicleAvailable fun db db' _ _ hK b hb => ?_).bind fun _ =>
        (checks_whenSome fun d _ => checks_assertDriverAvailable).bind fun _ => trivial
      exact hK s hs e he b hb

/-- A change of the status that looks at nothing but the status. -/
theorem checks_updateStatus {r : Request} {K : Database → Prop} (id : String)
    (refused : BookingStatus → Prop) [DecidablePred refused] (e : Booking → Error)
    (t : Transaction Booking)
    (hK : ∀ db, K db → ∀ b ∈ db.bookings, b.id.val = id → ¬refused b.status) :
    (findOwn T id >>= fun b => throwIf (refused b.status) (e b) >>= fun _ => commit t).Checks
      (Kept r) K fun _ => True := by
  unfold findOwn
  simp only [bind_assoc]
  refine checks_query_bind rfl (fun _ o _ _ => ?_) fun db db' _ hR o o' ho ho' => ?_
  · exact (checks_orThrow _ _).bind fun b => (checks_throwIf _ _).bind fun _ => trivial
  · cases o with
    | none => exact .inl (refused_throw _)
    | some b =>
      obtain ⟨b', hb', rfl, hid', -⟩ := hR.findOwn ho ho'
      by_cases hb : refused b.status
      · exact .inl (refused_throwIf_bind hb _ _)
      · by_cases hbc : refused b'.status
        · exact .inr (.inr ⟨refused_throwIf_bind hbc _ _, fun hK' => hK db' hK' b' hb' hid' hbc⟩)
        · refine .inr (.inl ?_)
          simp only [orThrow_some_bind, throwIf_bind_of_not hb, throwIf_bind_of_not hbc]

/-- A confirmation asks for the status of the booking. -/
theorem confirm_checks (id : String) :
    (confirm T id).Checks (Kept (.confirm id))
      (fun db => Request.StillHolds T db.toTables (.confirm id)) fun _ => True :=
  checks_updateStatus id (fun s => s ≠ .pending) _ _ fun _ hK b hb hid => not_not.2 (hK b hb hid)

/-- So does a cancellation. -/
theorem cancel_checks (id : String) :
    (cancel T id).Checks (Kept (.cancel id))
      (fun db => Request.StillHolds T db.toTables (.cancel id)) fun _ => True :=
  checks_updateStatus id (fun s => s = .completed ∨ s = .cancelled) _ _ fun _ hK => hK

/-- The vehicle check of an assignment asks about the period of the booking it
has read, which is that of the booking it will write. -/
theorem assign_checks (id : String) (dto : AssignDriverVehicleDto) :
    (assign T id dto).Checks (Kept (.assign id dto))
      (fun db => Request.StillHolds T db.toTables (.assign id dto)) fun _ => True := by
  unfold assign findOwn
  simp only [bind_assoc]
  refine checks_query_bind rfl (fun db₀ o _ ho => ?_) fun db db' _ hR o o' ho ho' => ?_
  · cases o with
    | none => trivial
    | some b =>
      obtain ⟨hb, hid, -, -⟩ := eval_findById_eq_some.1 ho
      refine (checks_throwIf _ _).bind fun _ => ?_
      refine (checks_whenSome fun v hv => checks_when fun hne =>
          checks_assertVehicleAvailable ?_).bind fun _ =>
        (checks_whenSome fun d _ => checks_when fun _ => checks_assertDriverAvailable).bind fun _ =>
          dto.vehicleId.checks_notNull.bind fun _ => dto.advancePaid.checks_notNull.bind fun _ =>
            trivial
      rintro db db' ⟨-, hR₀⟩ hR hK o ho
      have hR' : Kept (.assign id dto) db₀ db' := hR₀.trans hR
      obtain ⟨b', hb', hs⟩ := hR'.bookings b hb
      have hid' : b'.id.val = id := (congrArg Cuid.val hs.id).trans hid
      have hne' : v ≠ b'.vehicleId := ((hR'.answers _ rfl b hb b' hb' hid hid').1 v hv).2 hne
      have hfree := (hK b' hb' hid').2 v hv hne' o ho
      rwa [hs.startDate, hs.endDate] at hfree
  · cases o with
    | none => exact .inl (refused_throw _)
    | some b =>
      obtain ⟨b', hb', rfl, hid', hs⟩ := hR.findOwn ho ho'
      by_cases hb : b.status = .completed ∨ b.status = .cancelled
      · exact .inl (refused_throwIf_bind hb _ _)
      · by_cases hbc : b'.status = .completed ∨ b'.status = .cancelled
        · exact .inr (.inr ⟨refused_throwIf_bind hbc _ _, fun hK => (hK b' hb' hid').1 hbc⟩)
        · -- both answers send the script the same way
          obtain ⟨hbm, hid, -, -⟩ := eval_findById_eq_some.1 ho
          obtain ⟨hv, hd⟩ := hR.answers _ rfl b hbm b' hb' hid hid'
          refine .inr (.inl ?_)
          simp only [orThrow_some_bind, throwIf_bind_of_not hb, throwIf_bind_of_not hbc,
            hs.startDate, hs.endDate]
          rw [whenSome_congr fun v hm => when_congr (hv v hm) _,
            whenSome_congr fun d hm => when_congr (hd d hm) _]

/-- What each request has asked before it commits. -/
theorem Request.checks (r : Request) (env : Env) (tenantId : String) :
    (r.handler env tenantId).Checks (Kept r) (fun db => r.StillHolds tenantId db.toTables)
      fun _ => True := by
  cases r with
  | create dto => exact create_checks dto
  | confirm id => exact confirm_checks id
  | cancel id => exact cancel_checks id
  | assign id dto => exact assign_checks id dto

/-! ### What an accepted request leaves behind -/

/-- The booking is cancelled. -/
def Cancelled (id : String) (t : Tables) : Prop :=
  ∃ b ∈ t.bookings, b.id.val = id ∧ b.status = .cancelled

/-- The booking the request cancels. -/
def Request.cancels? : Request → Option String
  | .cancel id => some id
  | _ => none

/-- An accepted cancellation leaves the booking cancelled. -/
theorem cancels_ok {r : Request} {id : String} (hr : r.cancels? = some id)
    (h : (r.handler env T).exec db = .ok (booking, db')) : Cancelled id db'.toTables := by
  cases r with
  | cancel id' =>
    obtain rfl : id' = id := Option.some.inj hr
    obtain ⟨b, hb, hid, -, -, -, hw⟩ := cancel_ok h
    rw [hw]
    exact ⟨_, mem_updateWhere.2 (.inr ⟨b, hb, decide_eq_true hid, rfl⟩), hid, rfl⟩
  | create dto => cases hr
  | confirm id' => cases hr
  | assign id' dto => cases hr

/-- A cancelled booking stays cancelled. -/
theorem cancelled_next {id : String} (r : Request) (h : Cancelled id db.toTables) :
    Cancelled id ((r.handler env T).next db).toTables := by
  refine next_induct (P := fun db' : Database => Cancelled id db'.toTables) h fun o db' hok => ?_
  cases r with
  | create dto =>
    obtain ⟨s, e, -, -, -, -, -, -, hw⟩ := create_ok hok
    obtain ⟨b, hb, hid, hs⟩ := h
    rw [hw]
    exact ⟨b, List.mem_append_left _ hb, hid, hs⟩
  | confirm id' =>
    obtain ⟨o, ho, hoid, -, -, hos, hw⟩ := confirm_ok hok
    obtain ⟨b, hb, hid, hs⟩ := h
    rw [hw]
    refine ⟨b, mem_updateWhere.2 (.inl ⟨hb, decide_eq_false fun hb' => ?_⟩), hid, hs⟩
    -- only a pending booking is confirmed
    rw [db.eq_of_id .booking hb ho (hb'.trans hoid.symm), hos] at hs
    cases hs
  | cancel id' =>
    obtain ⟨o, -, -, -, -, -, hw⟩ := cancel_ok hok
    rw [hw]
    exact exists_updateWhere (Q := fun b : Booking => b.id.val = id ∧ b.status = .cancelled)
      (fun b _ _ hb => ⟨hb.1, rfl⟩) h
  | assign id' dto =>
    obtain ⟨o, -, -, -, -, -, -, -, -, hw⟩ := assign_ok hok
    rw [hw]
    exact exists_updateWhere (Q := fun b : Booking => b.id.val = id ∧ b.status = .cancelled)
      (fun _ _ _ hb => hb) h

/-- The booking the request may take away from its vehicle. -/
def Request.releases? : Request → Option String
  | .cancel id => some id
  | .assign id _ => some id
  | _ => none

/-- Two requests create bookings of one vehicle whose periods overlap. -/
def CreatesOverlap (a b : Call Request) : Prop :=
  a.tenantId = b.tenantId ∧ ∃ dto dto', a.request = .create dto ∧ b.request = .create dto' ∧
    dto.vehicleId = dto'.vehicleId ∧ ∃ s e s' e', dto.startDate = some s ∧ dto.endDate = some e ∧
      dto'.startDate = some s' ∧ dto'.endDate = some e' ∧ s < e' ∧ s' < e

/-- A booking with one of the ids conflicts with both periods. -/
def Blocks (ids : String → Prop) (tenantId vehicleId : String) (s e s' e' : Time) (t : Tables) :
    Prop :=
  ∃ b ∈ t.bookings, ids b.id.val ∧ bookingConflicts vehicleId tenantId s e b ∧
    bookingConflicts vehicleId tenantId s' e' b

/-- A booking goes on to block its vehicle until it is cancelled or reassigned. -/
theorem blocks_next {ids : String → Prop} {tenantId vehicleId : String} {s e s' e' : Time}
    (r : Request) (hr : ∀ id, r.releases? = some id → ¬ids id)
    (h : Blocks ids tenantId vehicleId s e s' e' db.toTables) :
    Blocks ids tenantId vehicleId s e s' e' ((r.handler env T).next db).toTables := by
  refine next_induct
    (P := fun db' : Database => Blocks ids tenantId vehicleId s e s' e' db'.toTables) h
    fun o db' hok => ?_
  obtain ⟨b, hb, hid, hc, hc'⟩ := h
  have hold : ∀ id, r.releases? = some id → decide (b.id.val = id) = false := by
    rintro id hrel
    refine decide_eq_false fun hbid => hr id hrel ?_
    rwa [← hbid]
  cases r with
  | create dto =>
    obtain ⟨_, _, -, -, -, -, -, -, hw⟩ := create_ok hok
    rw [hw]
    exact ⟨b, List.mem_append_left _ hb, hid, hc, hc'⟩
  | confirm id =>
    obtain ⟨_, -, -, -, -, -, hw⟩ := confirm_ok hok
    rw [hw]
    refine exists_updateWhere (Q := fun b : Booking => ids b.id.val ∧
      bookingConflicts vehicleId tenantId s e b ∧ bookingConflicts vehicleId tenantId s' e' b)
      (fun o _ _ ho => ⟨ho.1, ?_, ?_⟩) ⟨b, hb, hid, hc, hc'⟩
    · obtain ⟨-, ⟨hv, hT, hd, -, hp⟩, -⟩ := ho
      exact ⟨hv, hT, hd, .inr rfl, hp⟩
    · obtain ⟨-, -, hv, hT, hd, -, hp⟩ := ho
      exact ⟨hv, hT, hd, .inr rfl, hp⟩
  | cancel id =>
    obtain ⟨_, -, -, -, -, -, hw⟩ := cancel_ok hok
    rw [hw]
    exact ⟨b, mem_updateWhere.2 (.inl ⟨hb, hold id rfl⟩), hid, hc, hc'⟩
  | assign id dto =>
    obtain ⟨_, -, -, -, -, -, -, -, -, hw⟩ := assign_ok hok
    rw [hw]
    exact ⟨b, mem_updateWhere.2 (.inl ⟨hb, hold id rfl⟩), hid, hc, hc'⟩

/-! ### Interleavings -/

section Interleaved

variable {ι : Type}

/-- The handlers of the requests. -/
def handlers (calls : ι → Call Request) (i : ι) : Query (Transaction Booking) :=
  (calls i).request.handler (calls i).env (calls i).tenantId

/-- A write of request `i` that goes through finds what the request has decided
on, and changes what no assignment under way has asked about its booking. -/
def CommitsInTime (calls : ι → Call Request) (i : ι) (c : Config ι Database Error Booking) : Prop :=
  c.commits (handlers calls) i = true →
    (calls i).request.StillHolds (calls i).tenantId c.state.toTables ∧
    ∀ j ≠ i, c.underWay j = true → ∀ p ∈ (calls j).request.assign?,
      ∀ q ∈ (calls i).request.assign?, p.1 = q.1 →
        ∀ b ∈ c.state.bookings, b.id.val = q.1 → p.2.SameAnswers b (q.2.apply b)

instance [DecidableEq ι] [Fintype ι] (calls : ι → Call Request) (i : ι)
    (c : Config ι Database Error Booking) : Decidable (CommitsInTime calls i c) := by
  unfold CommitsInTime; infer_instance

variable {calls : ι → Call Request} {c : Config ι Database Error Booking}

/-- In a serialisable configuration that started in a reachable state, no vehicle
is booked twice. -/
theorem noDoubleBooking_of_serialisable (hdb : Reachable db)
    (h : c.Serialisable (handlers calls) db) : NoDoubleBooking .vehicle c.state.toTables := by
  obtain ⟨log, hs, -⟩ := h
  have hreq : ∀ i, (handlers calls i).next =
      step (.tenant (calls i).env (calls i).tenantId (.bookings (calls i).request)) := fun _ => rfl
  exact noDoubleBooking_of_exclusive (vehicle_exclusive_of_reachable (hs.reachable hreq hdb))

/-- The bookings that accepted requests have cancelled are cancelled. -/
def KeepsCancelled (calls : ι → Call Request) (c : Config ι Database Error Booking) : Prop :=
  ∀ i id, (calls i).request.cancels? = some id → c.accepted i = true → Cancelled id c.state.toTables

/-- In a serial run nothing follows a cancellation. -/
theorem keepsCancelled_of_serialisable (h : c.Serialisable (handlers calls) db) :
    KeepsCancelled calls c := by
  obtain ⟨log, hs, -, hlog⟩ := h
  intro i id hi hai
  obtain ⟨a, ha⟩ := Config.accepted_eq_true.1 hai
  refine hs.of_accepted (P := fun db => Cancelled id db.toTables) ((hlog i (some a)).2 ⟨_, ha, rfl⟩)
    (fun s s' hok => cancels_ok hi hok) fun j s hs => cancelled_next (calls j).request hs

/-- Of two overlapping bookings of one vehicle, neither of which a request is to
cancel or to reassign, one has been accepted at most. -/
def OneOfOverlapping (calls : ι → Call Request) (c : Config ι Database Error Booking) : Prop :=
  ∀ i j, CreatesOverlap (calls i) (calls j) →
    (∀ k id, (calls k).request.releases? = some id →
      id ≠ ((calls i).env.cuid 0).val ∧ id ≠ ((calls j).env.cuid 0).val) →
    c.accepted i = true → c.accepted j = true → i = j

/-- The booking a request creates blocks its own period and every one that
overlaps it. -/
theorem create_blocks {ids : String → Prop} {dto : CreateBookingDto} {s e s' e' : Time}
    (h : (create env T dto).exec db = .ok (booking, db')) (hids : ids (env.cuid 0).val)
    (hs : dto.startDate = some s) (he : dto.endDate = some e) (hse' : s < e') (hs'e : s' < e) :
    Blocks ids T dto.vehicleId s e s' e' db'.toTables := by
  obtain ⟨s₁, e₁, hs₁, he₁, hlt, -, -, hb, hw⟩ := create_ok h
  obtain rfl : s = s₁ := Option.some.inj (hs.symm.trans hs₁)
  obtain rfl : e = e₁ := Option.some.inj (he.symm.trans he₁)
  rw [hw]
  refine ⟨booking, List.mem_append_right _ (List.mem_singleton_self _), ?_⟩
  rw [hb]
  exact ⟨hids, ⟨rfl, rfl, rfl, .inl rfl, hlt, hlt⟩, rfl, rfl, rfl, .inl rfl, hse', hs'e⟩

/-- In a serial run the second of two overlapping bookings is refused. -/
theorem oneOfOverlapping_of_serialisable (h : c.Serialisable (handlers calls) db) :
    OneOfOverlapping calls c := by
  intro i j hij hrel hai haj
  obtain ⟨log, hs, -, hlog⟩ := h
  obtain ⟨a, ha⟩ := Config.accepted_eq_true.1 hai
  obtain ⟨b, hb⟩ := Config.accepted_eq_true.1 haj
  obtain ⟨hT, dto, dto', hi, hj, hv, s, e, s', e', hsi, hei, hsj, hej, hse', hs'e⟩ := hij
  let ids : String → Prop := fun id =>
    id = ((calls i).env.cuid 0).val ∨ id = ((calls j).env.cuid 0).val
  refine hs.eq_of_accepted
    (P := fun db => Blocks ids (calls i).tenantId dto.vehicleId s e s' e' db.toTables)
    (A := fun k => k = i ∨ k = j) ?_ ?_ ?_ (.inl rfl) (.inr rfl) ((hlog i (some a)).2 ⟨_, ha, rfl⟩)
    ((hlog j (some b)).2 ⟨_, hb, rfl⟩)
  · rintro k o db db' (rfl | rfl) hok
    · rw [handlers, hi] at hok
      exact create_blocks hok (.inl rfl) hsi hei hse' hs'e
    · rw [handlers, hj] at hok
      have hblocks : Blocks ids (calls k).tenantId dto'.vehicleId s' e' s e db'.toTables :=
        create_blocks hok (.inr rfl) hsj hej hs'e hse'
      obtain ⟨r, hr, hid, hc, hc'⟩ := hblocks
      rw [← hT, ← hv] at hc hc'
      exact ⟨r, hr, hid, hc', hc⟩
  · refine fun k db hb => blocks_next (calls k).request (fun id hid hmem => ?_) hb
    rcases hmem with hmem | hmem
    · exact (hrel k id hid).1 hmem
    · exact (hrel k id hid).2 hmem
  · rintro k o db db' (rfl | rfl) hok ⟨r, hr, -, hc, hc'⟩
    · rw [handlers, hi] at hok
      obtain ⟨s₁, e₁, hs₁, he₁, -, hfree, -, -, -⟩ := create_ok hok
      obtain rfl : s = s₁ := Option.some.inj (hsi.symm.trans hs₁)
      obtain rfl : e = e₁ := Option.some.inj (hei.symm.trans he₁)
      exact hfree.bookings r hr hc
    · rw [handlers, hj] at hok
      obtain ⟨s₁, e₁, hs₁, he₁, -, hfree, -, -, -⟩ := create_ok hok
      obtain rfl : s' = s₁ := Option.some.inj (hsj.symm.trans hs₁)
      obtain rfl : e' = e₁ := Option.some.inj (hej.symm.trans he₁)
      rw [← hT, ← hv] at hfree
      exact hfree.bookings r hr hc'

/-- Requests on bookings are serialisable in every interleaving in which each
write finds what its request has decided on and disturbs no assignment under
way; then no vehicle is ever booked twice, a cancelled booking stays cancelled,
and of two overlapping bookings of a vehicle one is accepted at most, unless
one is cancelled or reassigned. -/
theorem bookings_serialisable [DecidableEq ι] (calls : ι → Call Request) (sched : List ι)
    (hdb : Reachable db)
    (hsched : Along (Config.step (handlers calls)) (CommitsInTime calls) sched (.init db)) :
    Always (Config.step (handlers calls))
      (fun c => c.Serialisable (handlers calls) db ∧ NoDoubleBooking .vehicle c.state.toTables ∧
        KeepsCancelled calls c ∧ OneOfOverlapping calls c)
      sched (.init db) := by
  have hser : Always (Config.step (handlers calls)) (Config.Serialisable (handlers calls) db) sched
      (.init db) := by
    refine Config.serialisable_of_along (R := fun i => Kept (calls i).request)
      (K := fun i db => (calls i).request.StillHolds (calls i).tenantId db.toTables)
      (fun i => Kept.refl _) (fun i _ _ _ => Kept.trans) (fun i => (calls i).request.checks _ _)
      (fun i c hi hc => ⟨(hi hc).1, fun j hji x hx => ?_⟩) hsched
    exact Request.kept _ _ _ _ _ ((hi hc).2 j hji (Config.underWay_of_running hx))
  exact hser.mono fun c hc => ⟨hc, noDoubleBooking_of_serialisable hdb hc,
    keepsCancelled_of_serialisable hc, oneOfOverlapping_of_serialisable hc⟩

end Interleaved

/-- The company with one booking of `v0`. -/
def booked : List NodeVms.Request :=
  Sample.company ++ [Sample.booking "x" "t0" "v0" .undefined 0 10]

/-- A booking is confirmed while another one, of the same vehicle but later, is
made, and moved to `w0` while a third one is made. -/
theorem bookings_serialisable_busy_hour :
    let create : String → String → Time → Time → Call Request := fun tag vehicleId s e =>
      ⟨.sample tag 0, "t0", .create
        { vehicleId, startDate := some s, endDate := some e, customerName := tag, contact := tag }⟩
    let calls : Fin 4 → Call Request :=
      ![⟨.sample "" 0, "t0", .confirm "x0"⟩, create "y" "v0" 10 20,
        ⟨.sample "" 0, "t0", .assign "x0" { vehicleId := .value "w0" }⟩, create "z" "w0" 20 30]
    let sched := [0, 1, 1, 0, 1, 1, 1, 2, 3, 2, 3, 2, 3, 2, 2, 3, 2, 3]
    let h := handlers calls
    let db := run step booked Database.empty
    Always (Config.step h)
      (fun c => c.Serialisable h db ∧ NoDoubleBooking .vehicle c.state.toTables ∧
        KeepsCancelled calls c ∧ OneOfOverlapping calls c)
      sched (.init db) :=
  bookings_serialisable _ _ ⟨_, rfl⟩ (by decide)

/-- Two bookings of `v0` over the same hours are made at once: both requests find
the calendar free, then both write. -/
theorem bookings_not_serialisable :
    ¬∀ (n : Nat) (calls : Fin n → Call Request) (db : Database), Reachable db → ∀ sched,
      Always (Config.step (handlers calls)) (Config.Serialisable (handlers calls) db) sched
        (.init db) := by
  intro h
  let create : String → Call Request := fun tag =>
    ⟨.sample tag 0, "t0", .create
      { vehicleId := "v0", startDate := some 0, endDate := some 10, customerName := tag,
        contact := tag }⟩
  let calls : Fin 2 → Call Request := ![create "x", create "y"]
  obtain ⟨db, hdb, c, hc, htwo⟩ : ∃ db, Reachable db ∧ ∃ c : Config (Fin 2) Database Error Booking,
      run (Config.step (handlers calls)) [0, 0, 0, 0, 1, 1, 1, 1, 0, 1] (.init db) = c ∧
      ∃ a ∈ c.state.bookings, ∃ b ∈ c.state.bookings, a ≠ b ∧ Active a ∧ Active b ∧
        a.tenantId = b.tenantId ∧ Resource.vehicle.of a = some "v0" ∧
        Resource.vehicle.of b = some "v0" ∧ (a.startDate ≤ 5 ∧ 5 < a.endDate) ∧
        b.startDate ≤ 5 ∧ 5 < b.endDate :=
    ⟨run step Sample.company Database.empty, ⟨_, rfl⟩, _, rfl, by decide⟩
  obtain ⟨a, ha, b, hb, hne, hact, hbct, hT, hak, hbk, ha5, hb5⟩ := htwo
  have hser := (h 2 calls db hdb [0, 0, 0, 0, 1, 1, 1, 1, 0, 1]).last
  rw [hc] at hser
  have hno := noDoubleBooking_of_serialisable hdb hser
  exact Set.disjoint_left.1 (hno a ha b hb hne hact hbct hT "v0" hak hbk) ha5 hb5

end Bookings
end NodeVms
