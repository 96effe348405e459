/-
# The life of a booking

A booking is created as pending, may be confirmed once, may be given another vehicle,
driver or advance while it is pending or confirmed, and ends when it is cancelled.
`life` says this for one record.  Every booking in the table is the replay of the
requests on it that have been accepted: whatever else happens in between, nothing but
these requests reaches it, and each of them was possible when it was accepted.
-/

import NodeVms.Frames
import NodeVms.Store.Replay

namespace NodeVms
namespace Bookings

open Store Script Prisma Scheduling

variable {db db' : Database} {b : Booking} {k : String}

/-! ### One record -/

/-- What an accepted request has done to a booking, for which tenant. -/
inductive BookingEvent where
  | created (b : Booking)
  | confirmed (tenantId : String)
  | cancelled (tenantId : String)
  | assigned (tenantId : String) (dto : AssignDriverVehicleDto)

namespace BookingEvent

/-- It is the creation. -/
def Creates (e : BookingEvent) : Prop := ∃ b, e = created b

/-- It is a confirmation. -/
def Confirms (e : BookingEvent) : Prop := ∃ tenantId, e = confirmed tenantId

/-- It is a cancellation. -/
def Cancels (e : BookingEvent) : Prop := ∃ tenantId, e = cancelled tenantId

end BookingEvent

/-- What becomes of a booking, or of none. -/
def life : Option Booking → BookingEvent → Option (Option Booking)
  | none, .created b =>
    if b.status = .pending ∧ b.startDate < b.endDate ∧ b.deletedAt = none then some (some b)
    else none
  | some b, .confirmed tenantId =>
    if b.tenantId = tenantId ∧ b.status = .pending then some (some { b with status := .confirmed })
    else none
  | some b, .cancelled tenantId =>
    if b.tenantId = tenantId ∧ isActive b.status then some (some { b with status := .cancelled })
    else none
  | some b, .assigned tenantId dto =>
    if b.tenantId = tenantId ∧ isActive b.status then some (some (dto.apply b)) else none
  | _, _ => none

/-- What of a booking is settled when it is created. -/
structure SameTerms (b b' : Booking) : Prop where
  tenantId : b'.tenantId = b.tenantId
  startDate : b'.startDate = b.startDate
  endDate : b'.endDate = b.endDate
  customerName : b'.customerName = b.customerName
  contact : b'.contact = b.contact
  deletedAt : b'.deletedAt = b.deletedAt

/-- A booking has its own terms. -/
theorem SameTerms.refl (b : Booking) : SameTerms b b := ⟨rfl, rfl, rfl, rfl, rfl, rfl⟩

/-- Terms that stay the same twice stay the same. -/
theorem SameTerms.trans {b b' b'' : Booking} (h : SameTerms b b') (h' : SameTerms b' b'') :
    SameTerms b b'' where
  tenantId := h'.tenantId.trans h.tenantId
  startDate := h'.startDate.trans h.startDate
  endDate := h'.endDate.trans h.endDate
  customerName := h'.customerName.trans h.customerName
  contact := h'.contact.trans h.contact
  deletedAt := h'.deletedAt.trans h.deletedAt

/-- Events on an existing booking: none creates it, and none follows its end. -/
theorem life_some {e : BookingEvent} {o : Option Booking} (h : life (some b) e = some o) :
    ∃ b', o = some b' ∧ isActive b.status ∧ ¬e.Creates ∧
      (e.Confirms → b.status = .pending ∧ b'.status = .confirmed) ∧
      (e.Cancels → b'.status = .cancelled) ∧ (b.status ≠ .pending → b'.status ≠ .pending) ∧
      b'.status ≠ .completed ∧ SameTerms b b' := by
  cases e with
  | created b₀ => cases h
  | confirmed tenantId =>
    simp only [life, Option.ite_none_right_eq_some] at h
    obtain ⟨⟨-, hpending⟩, ho⟩ := h
    obtain rfl := Option.some.inj ho
    refine ⟨_, rfl, .inl hpending, ?_, fun _ => ⟨hpending, rfl⟩, ?_, ?_, ?_, ⟨rfl, rfl, rfl, rfl,
      rfl, rfl⟩⟩
    · rintro ⟨_, heq⟩
      cases heq
    · rintro ⟨_, heq⟩
      cases heq
    · exact fun hne => absurd hpending hne
    · show BookingStatus.confirmed ≠ .completed
      decide
  | cancelled tenantId =>
    simp only [life, Option.ite_none_right_eq_some] at h
    obtain ⟨⟨-, hactive⟩, ho⟩ := h
    obtain rfl := Option.some.inj ho
    refine ⟨_, rfl, hactive, ?_, ?_, fun _ => rfl, fun _ => ?_, ?_, ⟨rfl, rfl, rfl, rfl, rfl, rfl⟩⟩
    · rintro ⟨_, heq⟩
      cases heq
    · rintro ⟨_, heq⟩
      cases heq
    · show BookingStatus.cancelled ≠ .pending
      decide
    · show BookingStatus.cancelled ≠ .completed
      decide
  | assigned tenantId dto =>
    simp only [life, Option.ite_none_right_eq_some] at h
    obtain ⟨⟨-, hactive⟩, ho⟩ := h
    obtain rfl := Option.some.inj ho
    have hcompleted : b.status ≠ .completed := by
      rintro heq
      rw [heq] at hactive
      rcases hactive with heq | heq
      · cases heq
      · cases heq
    refine ⟨_, rfl, hactive, ?_, ?_, ?_, fun hne => hne, hcompleted,
      ⟨rfl, rfl, rfl, rfl, rfl, rfl⟩⟩
    · rintro ⟨_, heq⟩
      cases heq
    · rintro ⟨_, heq⟩
      cases heq
    · rintro ⟨_, heq⟩
      cases heq

/-- The first event. -/
theorem life_none {e : BookingEvent} {o : Option Booking} (h : life none e = some o) :
    ∃ b, e = .created b ∧ o = some b ∧ b.status = .pending ∧ b.deletedAt = none := by
  cases e with
  | created b =>
    simp only [life, Option.ite_none_right_eq_some] at h
    obtain ⟨⟨hpending, -, hlive⟩, ho⟩ := h
    exact ⟨b, rfl, (Option.some.inj ho).symm, hpending, hlive⟩
  | _ => cases h

/-- What may come later than an event. -/
structure Follows (e e' : BookingEvent) : Prop where
  not_cancelled : ¬e.Cancels
  confirmed_once : e.Confirms → ¬e'.Confirms
  not_created : ¬e'.Creates

/-- The events on an existing booking, by its status before them. -/
theorem follows_of_replay {es : List BookingEvent} {o : Option Booking}
    (h : replay life (some b) es = some o) :
    es.Pairwise Follows ∧ (∀ e ∈ es, ¬e.Creates) ∧
      (b.status ≠ .pending → ∀ e ∈ es, ¬e.Confirms) ∧ (¬isActive b.status → es = []) := by
  induction es generalizing b with
  | nil =>
    exact ⟨.nil, fun e he => absurd he List.not_mem_nil, fun _ e he => absurd he List.not_mem_nil,
      fun _ => rfl⟩
  | cons e es ih =>
    obtain ⟨o₁, h₁, hrest⟩ := Option.bind_eq_some_iff.1 h
    obtain ⟨b', rfl, hactive, hcreates, hconfirms, hcancels, hpending, -⟩ := life_some h₁
    obtain ⟨hpairs, hnone, hno, hend⟩ := ih hrest
    refine ⟨List.pairwise_cons.2 ⟨fun e' he' => ⟨?_, ?_, hnone e' he'⟩, hpairs⟩, ?_, ?_, ?_⟩
    · -- a cancelled booking has no later event
      intro hc
      have hstatus : ¬isActive b'.status := by
        rw [hcancels hc]
        decide
      rw [hend hstatus] at he'
      exact absurd he' List.not_mem_nil
    · intro hc
      have hstatus : b'.status ≠ .pending := by
        rw [(hconfirms hc).2]
        decide
      exact hno hstatus e' he'
    · exact List.forall_mem_cons.2 ⟨hcreates, hnone⟩
    · intro hne
      exact List.forall_mem_cons.2 ⟨fun hc => hne (hconfirms hc).1, hno (hpending hne)⟩
    · exact fun hnot => absurd hactive hnot

/-! ### The requests -/

/-- What an accepted request on bookings has done, and to which. -/
def Request.event (tenantId : String) (b : Booking) : Request → String × BookingEvent
  | .create _ => (b.id.val, .created b)
  | .confirm id => (id, .confirmed tenantId)
  | .cancel id => (id, .cancelled tenantId)
  | .assign id dto => (id, .assigned tenantId dto)

/-- The events of a request: none unless it is accepted. -/
def events : NodeVms.Request → Database → List (String × BookingEvent)
  | .tenant env tenantId (.bookings r), db =>
    match (r.handler env tenantId).exec db with
    | .ok (b, _) => [r.event tenantId b]
    | .error _ => []
  | _, _ => []

/-- The booking with the id. -/
def bookingOf (k : String) (db : Database) : Option Booking :=
  db.bookings.find? fun b => b.id.val = k

/-- The booking with the id of a row is the row. -/
theorem bookingOf_eq_some : bookingOf k db = some b ↔ b ∈ db.bookings ∧ b.id.val = k :=
  (find?_key_eq_some (db.nodup_key .booking) fun _ h => of_decide_eq_true h).trans
    (and_congr_right fun _ => decide_eq_true_iff)

/-- An update of one booking is an event of its life. -/
theorem replay_update {e : BookingEvent} {f : Booking → Booking} (hb : b ∈ db.bookings)
    (h : db'.bookings = updateWhere (fun o => o.id.val = b.id.val) f db.bookings)
    (hid : ∀ b, (f b).id = b.id) (hlife : life (some b) e = some (some (f b))) :
    replay life (bookingOf k db) (eventsOf k [(b.id.val, e)]) = some (bookingOf k db') := by
  have hq : ∀ o, decide ((f o).id.val = k) = decide (o.id.val = k) := fun o => by rw [hid]
  rw [eventsOf_single]
  unfold bookingOf
  rw [h, find?_updateWhere hq]
  by_cases hk : b.id.val = k
  · have hfind : (db.bookings.find? fun o => o.id.val = k) = some b := bookingOf_eq_some.2 ⟨hb, hk⟩
    rw [if_pos hk, replay_single, hfind, hlife]
    simp
  · have hsame : ((db.bookings.find? fun o => o.id.val = k).map fun o =>
        if decide (o.id.val = b.id.val) then f o else o) =
        db.bookings.find? fun o => o.id.val = k := by
      cases hfind : db.bookings.find? fun o => o.id.val = k with
      | none => rfl
      | some o =>
        have hok : o.id.val = k := by
          have hp := List.find?_some hfind
          exact of_decide_eq_true hp
        have hne : o.id.val ≠ b.id.val := fun heq => hk (heq.symm.trans hok)
        simp [hne]
    rw [if_neg hk, hsame]
    rfl

/-- A new booking is the first event of its life. -/
theorem replay_insert (hpending : b.status = .pending) (hperiod : b.startDate < b.endDate)
    (hlive : b.deletedAt = none) (h : db'.bookings = db.bookings ++ [b]) :
    replay life (bookingOf k db) (eventsOf k [(b.id.val, .created b)]) =
      some (bookingOf k db') := by
  have hnew : ∀ o ∈ db.bookings, o.id.val ≠ b.id.val := db'.id_ne_of_append .booking h
  rw [eventsOf_single]
  unfold bookingOf
  rw [h, List.find?_append]
  by_cases hk : b.id.val = k
  · have hnone : (db.bookings.find? fun o => o.id.val = k) = none := by
      rw [List.find?_eq_none]
      intro o ho
      have hne := hnew o ho
      rw [hk] at hne
      simp [hne]
    have hlife : life none (.created b) = some (some b) := if_pos ⟨hpending, hperiod, hlive⟩
    rw [if_pos hk, replay_single, hnone, hlife]
    simp [hk]
  · have hnone : ([b].find? fun o => o.id.val = k) = none := by simp [hk]
    rw [if_neg hk, hnone, Option.or_none]
    rfl

/-- An accepted request makes of each booking what its event makes of it. -/
theorem replay_of_ok {r : Request} {env : Env} {T : String}
    (h : (r.handler env T).exec db = .ok (b, db')) :
    replay life (bookingOf k db) (eventsOf k [r.event T b]) = some (bookingOf k db') := by
  cases r with
  | create dto =>
    obtain ⟨s, e, -, -, hlt, -, -, rfl, hw⟩ := create_ok h
    exact replay_insert rfl hlt rfl (congrArg Tables.bookings hw)
  | confirm id =>
    obtain ⟨o, ho, rfl, htenant, -, hpending, hw⟩ := confirm_ok h
    have hlife : life (some o) (.confirmed T) = some (some { o with status := .confirmed }) :=
      if_pos ⟨htenant, hpending⟩
    exact replay_update ho (congrArg Tables.bookings hw) (fun _ => rfl) hlife
  | cancel id =>
    obtain ⟨o, ho, rfl, htenant, -, hactive, hw⟩ := cancel_ok h
    have hlife : life (some o) (.cancelled T) = some (some { o with status := .cancelled }) :=
      if_pos ⟨htenant, hactive⟩
    exact replay_update ho (congrArg Tables.bookings hw) (fun _ => rfl) hlife
  | assign id dto =>
    obtain ⟨o, ho, rfl, htenant, -, hactive, -, -, -, hw⟩ := assign_ok h
    have hlife : life (some o) (.assigned T dto) = some (some (dto.apply o)) :=
      if_pos ⟨htenant, hactive⟩
    exact replay_update ho (congrArg Tables.bookings hw) (fun _ => rfl) hlife

/-- A step makes of each booking what its events make of it. -/
theorem replay_step (r : NodeVms.Request) (db : Database) :
    replay life (bookingOf k db) (eventsOf k (events r db)) = some (bookingOf k (step r db)) := by
  have hsame : Table.bookings ∉ r.writes → events r db = [] →
      replay life (bookingOf k db) (eventsOf k (events r db)) = some (bookingOf k (step r db)) := by
    intro hwrites hnil
    have hbookings : (step r db).bookings = db.bookings := step_same r hwrites
    rw [hnil]
    unfold bookingOf
    rw [hbookings]
    rfl
  cases r with
  | platform env pr => exact hsame (by simp [Request.writes]) rfl
  | tenant env T rt =>
    cases rt with
    | bookings rb =>
      have hnext : step (.tenant env T (.bookings rb)) db = (rb.handler env T).next db := rfl
      have hevents : events (.tenant env T (.bookings rb)) db =
          match (rb.handler env T).exec db with
          | .ok (b, _) => [rb.event T b]
          | .error _ => [] := rfl
      rw [hnext]
      cases hexec : (rb.handler env T).exec db with
      | error e =>
        have hnil : events (.tenant env T (.bookings rb)) db = [] := by rw [hevents, hexec]
        rw [hnil, next_of_error hexec]
        rfl
      | ok res =>
        obtain ⟨b, db'⟩ := res
        have hone : events (.tenant env T (.bookings rb)) db = [rb.event T b] := by
          rw [hevents, hexec]
        rw [hone, next_of_ok hexec]
        exact replay_of_ok hexec
    | _ => exact hsame (by simp [Request.writes, TenantRequest.writes]) rfl

/-! ### Runs -/

/-- After every run a booking is the replay of the requests on it that were accepted; in the
order of their acceptance nothing follows a cancellation, there is one creation, at the
beginning, and at most one confirmation. -/
theorem booking_replay (rs : List NodeVms.Request) (k : String) :
    let es := eventsOf k (sent step events rs Database.empty)
    replay life none es = some (bookingOf k (run step rs Database.empty)) ∧
      es.Pairwise Follows ∧
      ∀ b ∈ bookingOf k (run step rs Database.empty), b.status ≠ .completed ∧ b.deletedAt = none ∧
        ∃ b₀ later, es = .created b₀ :: later ∧ SameTerms b₀ b := by
  intro es
  have hreplay : replay life none es = some (bookingOf k (run step rs Database.empty)) :=
    run_eq_replay (fun r db => replay_step r db) rs Database.empty
  refine ⟨hreplay, ?_, fun b hb => ?_⟩
  · cases hes : es with
    | nil => exact .nil
    | cons e later =>
      rw [hes] at hreplay
      obtain ⟨o, ho, hlater⟩ := Option.bind_eq_some_iff.1 hreplay
      obtain ⟨b₀, rfl, rfl, -⟩ := life_none ho
      obtain ⟨hpairs, hnone, -⟩ := follows_of_replay hlater
      refine List.pairwise_cons.2 ⟨fun e' he' => ⟨?_, ?_, hnone e' he'⟩, hpairs⟩
      · rintro ⟨_, heq⟩
        cases heq
      · rintro ⟨_, heq⟩
        cases heq
  · rw [Option.mem_def.1 hb] at hreplay
    cases hes : es with
    | nil =>
      rw [hes] at hreplay
      cases hreplay
    | cons e later =>
      rw [hes] at hreplay
      obtain ⟨o, ho, hlater⟩ := Option.bind_eq_some_iff.1 hreplay
      obtain ⟨b₀, rfl, rfl, hpending, hlive⟩ := life_none ho
      -- what the later events keep
      obtain ⟨b', hb', hcompleted, hterms⟩ := replay_invariant
        (I := fun o => ∃ b', o = some b' ∧ b'.status ≠ .completed ∧ SameTerms b₀ b')
        (by
          rintro _ e o ⟨b', rfl, -, hterms⟩ hstep
          obtain ⟨b'', rfl, -, -, -, -, -, hcompleted, hsame⟩ := life_some hstep
          exact ⟨b'', rfl, hcompleted, hterms.trans hsame⟩)
        ⟨b₀, rfl, by rw [hpending]; decide, .refl b₀⟩ hlater
      obtain rfl := Option.some.inj hb'
      exact ⟨hcompleted, hterms.deletedAt.trans hlive, b₀, later, rfl, hterms⟩

end Bookings
end NodeVms
