/-
# Exclusive assignments

A live assignment covers the instants from its `startDate` to its `endDate`,
both included, or all from its `startDate` on.  `create` looks for an
assignment of the vehicle or of the driver that shares an instant with the new
one; `update` moves bounds, vehicle and driver without looking.
-/

import Mathlib.Data.Fintype.Defs
import NodeVms.Frames
import NodeVms.Store.Periods

namespace NodeVms
namespace Assignments

open Store

/-! ### The law -/

/-- The assignment is in force at the instant `i`. -/
def Covers (a : Assignment) (i : Time) : Prop := a.startDate ≤ i ∧ ∀ e ∈ a.endDate, i ≤ e

instance (a : Assignment) (i : Time) : Decidable (Covers a i) := by
  unfold Covers; infer_instance

/-- At every instant at most one live assignment of a vehicle and at most one of
a driver is in force. -/
def ExclusiveAssignments (t : Tables) : Prop :=
  ∀ i, ∀ a ∈ t.assignments, ∀ b ∈ t.assignments, a.deletedAt = none → b.deletedAt = none →
    Covers a i → Covers b i →
      (a.vehicleId = b.vehicleId → a = b) ∧ (a.driverId = b.driverId → a = b)

/-- The assignments have a vehicle or a driver in common. -/
def Shares (a b : Assignment) : Prop := a.vehicleId = b.vehicleId ∨ a.driverId = b.driverId

instance (a b : Assignment) : Decidable (Shares a b) := by unfold Shares; infer_instance

/-- Two live assignments of one vehicle or one driver are in force at one instant. -/
def Clash (a b : Assignment) : Prop :=
  a.deletedAt = none ∧ b.deletedAt = none ∧ Shares a b ∧ ∃ i, Covers a i ∧ Covers b i

variable {db db' : Database} {env : Env} {T id : String} {assignment : Assignment}

/-- Which of two assignments comes first does not matter. -/
theorem Clash.symm (a b : Assignment) (h : Clash a b) : Clash b a := by
  obtain ⟨ha, hb, hs, i, hai, hbi⟩ := h
  exact ⟨hb, ha, hs.imp Eq.symm Eq.symm, i, hbi, hai⟩

/-- No two assignments clash. -/
theorem exclusiveAssignments_iff :
    ExclusiveAssignments db.toTables ↔ Exclusive Clash db.assignments := by
  constructor
  · rintro h a ha b hb hne ⟨had, hbd, hs, i, hai, hbi⟩
    obtain ⟨hv, hd⟩ := h i a ha b hb had hbd hai hbi
    rcases hs with hs | hs
    · exact hne (hv hs)
    · exact hne (hd hs)
  · intro h i a ha b hb had hbd hai hbi
    refine ⟨fun hv => ?_, fun hd => ?_⟩
    · by_contra hne
      exact h a ha b hb hne ⟨had, hbd, .inl hv, i, hai, hbi⟩
    · by_contra hne
      exact h a ha b hb hne ⟨had, hbd, .inr hd, i, hai, hbi⟩

/-! ### Overlapping periods -/

/-- The period of the assignment is not empty. -/
def Proper (a : Assignment) : Prop := ∀ e ∈ a.endDate, a.startDate < e

/-- What shares an instant with a period meets the overlap filter for it. -/
theorem overlaps_of_covers {a b : Assignment} {i : Time} (ha : Covers a i) (hb : Covers b i) :
    overlaps b.startDate b.endDate a :=
  ⟨fun e he => ha.1.trans (hb.2 e he), fun e he => hb.1.trans (ha.2 e he)⟩

/-- And the other way round, for proper periods: they have an instant in common. -/
theorem exists_covers_of_overlaps {a b : Assignment} (ha : Proper a) (hb : Proper b)
    (h : overlaps b.startDate b.endDate a) : ∃ i, Covers a i ∧ Covers b i := by
  have hmeet : ¬Disjoint (closedFrom b.startDate b.endDate) (closedFrom a.startDate a.endDate) :=
    (closedFrom_meet_iff (fun e he => (hb e he).le) fun e he => (ha e he).le).2 h
  obtain ⟨i, hbi, hai⟩ := Set.not_disjoint_iff.1 hmeet
  exact ⟨i, hai, hbi⟩

/-! ### The condition -/

/-- The start of the updated assignment. -/
def UpdateAssignmentDto.start (dto : UpdateAssignmentDto) (a : Assignment) : JsDate :=
  dto.startDate.nullish.getD (some a.startDate)

/-- The end of the updated assignment. -/
def UpdateAssignmentDto.end' (dto : UpdateAssignmentDto) (a : Assignment) : Option JsDate :=
  if dto.endDate.defined then dto.endDate.nullish else a.endDate.map some

/-- An update has the new version of the assignment pass the test of `create`:
no other live assignment of its vehicle or its driver overlaps it. -/
def Request.PassesOverlapCheck (db : Database) : Request → Prop
  | .update id dto => ∀ a ∈ db.assignments, a.id.val = id → a.deletedAt = none →
    ∀ s ∈ dto.start a, ∀ o ∈ db.assignments, o ≠ a → o.deletedAt = none →
      Shares o (dto.apply s (dto.end' a).join a) → ¬overlaps s (dto.end' a).join o
  | _ => True

instance (db : Database) : DecidablePred (Request.PassesOverlapCheck db) :=
  fun r => by cases r <;> (unfold Request.PassesOverlapCheck; infer_instance)

/-- An update of an assignment would be admitted as a new assignment too. -/
def UpdatesPassOverlapCheck (r : NodeVms.Request) (db : Database) : Prop :=
  ∀ ra ∈ r.assignment?, ra.PassesOverlapCheck db

instance (r : NodeVms.Request) (db : Database) : Decidable (UpdatesPassOverlapCheck r db) := by
  unfold UpdatesPassOverlapCheck; infer_instance

/-! ### What a request does to the assignments -/

/-- An accepted update, in the terms of the condition. -/
theorem update_ok' {dto : UpdateAssignmentDto}
    (h : (update T id dto).exec db = .ok (assignment, db')) :
    ∃ a ∈ db.assignments, a.id.val = id ∧ a.deletedAt = none ∧
      ∃ s, dto.start a = some s ∧ (∀ e ∈ (dto.end' a).join, s < e) ∧
        (dto.apply s (dto.end' a).join a).startDate = s ∧
        (dto.apply s (dto.end' a).join a).endDate = (dto.end' a).join ∧
        db'.toTables = Model.assignment.updateAt id (dto.apply s (dto.end' a).join)
          db.toTables := by
  obtain ⟨a, ⟨ha, hid, hd, -⟩, -, -, s, e, hs, he, hlt, hw⟩ := update_ok h
  have he' : dto.end' a = e.map some := he
  have hjoin : (dto.end' a).join = e := by
    rw [he']
    cases e <;> rfl
  refine ⟨a, ha, hid, hd, s, hs, hjoin ▸ hlt, ?_, ?_, hjoin ▸ hw⟩
  · change (if dto.startDate.nullish.isSome then s else a.startDate) = s
    cases hf : dto.startDate.nullish with
    | some d => rfl
    | none =>
      rw [hf] at hs
      exact Option.some.inj hs
  · change (if dto.endDate.defined then (dto.end' a).join else a.endDate) = (dto.end' a).join
    by_cases hf : dto.endDate.defined
    · rw [if_pos hf]
    · rw [if_neg hf, hjoin]
      rw [if_neg hf] at he
      cases ha : a.endDate <;> cases e <;> simp_all

/-- A new assignment overlaps no other of its vehicle or its driver. -/
theorem create_exclusive {dto : CreateAssignmentDto}
    (h : (create env T dto).exec db = .ok (assignment, db')) (hx : Exclusive Clash db.assignments) :
    Exclusive Clash db'.assignments := by
  obtain ⟨s, e, -, -, -, -, -, hov, hod, ha, hw⟩ := create_ok h
  refine (exclusive_insert (m := .assignment) Clash.symm hw).2 ⟨hx, fun o ho hclash => ?_⟩
  obtain ⟨hd, -, hs, i, hoi, hai⟩ := hclash
  have hoverlap := overlaps_of_covers hoi hai
  rw [ha] at hs hoverlap
  rcases hs with hs | hs
  · exact hov o ho hs hd hoverlap
  · exact hod o ho hs hd hoverlap

/-- A removed assignment is in force no more. -/
theorem remove_exclusive (h : (remove env T id).exec db = .ok (assignment, db'))
    (hx : Exclusive Clash db.assignments) : Exclusive Clash db'.assignments := by
  obtain ⟨⟨a, ha, hid, -, -⟩, hw⟩ := remove_ok h
  refine exclusive_updateAt_of_imp (m := .assignment) Clash.symm ha hid rfl hw hx ?_
  rintro o ⟨-, hd, -⟩
  cases hd

/-- An update keeps the assignments exclusive exactly if the new version
overlaps no other assignment of its vehicle or its driver. -/
theorem update_exclusive_iff {dto : UpdateAssignmentDto}
    (h : (update T id dto).exec db = .ok (assignment, db')) (hp : ∀ a ∈ db.assignments, Proper a)
    (hx : Exclusive Clash db.assignments) :
    Exclusive Clash db'.assignments ↔ (Request.update id dto).PassesOverlapCheck db := by
  obtain ⟨a, ha, hid, hd, s, hs, hlt, hstart, hend, hw⟩ := update_ok' h
  have hne : ∀ o ∈ db.assignments, o.id.val ≠ id ↔ o ≠ a := by
    intro o ho
    refine not_congr ⟨fun hk => db.eq_of_id .assignment ho ha (hk.trans hid.symm), ?_⟩
    rintro rfl
    exact hid
  have hnew : Proper (dto.apply s (dto.end' a).join a) := by
    unfold Proper
    rw [hstart, hend]
    exact hlt
  refine (exclusive_updateAt (m := .assignment) Clash.symm ha hid rfl hw hx).trans ?_
  constructor
  · intro hno b hb hbid hbd s' hs' o ho hob hod hshares hoverlap
    have hba : b = a := db.eq_of_id .assignment hb ha (hbid.trans hid.symm)
    rw [hba] at hs' hshares hoverlap hob
    have hss : s' = s := Option.some.inj (hs'.symm.trans hs)
    rw [hss] at hshares hoverlap
    refine hno o ho ((hne o ho).2 hob) ⟨hod, hd, hshares, ?_⟩
    exact exists_covers_of_overlaps (hp o ho) hnew (by rwa [hstart, hend])
  · rintro hcheck o ho hoid ⟨hod, -, hshares, i, hoi, hai⟩
    have hoverlap := overlaps_of_covers hoi hai
    rw [hstart, hend] at hoverlap
    exact hcheck a ha hid hd s hs o ho ((hne o ho).1 hoid) hod hshares hoverlap

/-! ### Runs -/

/-- Every assignment has a proper period. -/
theorem proper_of_reachable (h : Reachable db) : ∀ a ∈ db.assignments, Proper a := by
  refine h.invariant (I := fun db => ∀ a ∈ db.assignments, Proper a) (List.forall_mem_nil _)
    fun r db _ hp => ?_
  have hrows := step_assignments r db
  rcases hrows with hsame | ⟨env, T, ra, a, -, hok⟩
  · rwa [hsame]
  · cases ra with
    | create dto =>
      obtain ⟨s, e, -, -, hlt, -, -, -, -, ha, hw⟩ := create_ok hok
      rw [hw]
      refine List.forall_mem_append.2 ⟨hp, List.forall_mem_singleton.2 ?_⟩
      rw [ha]
      exact hlt
    | update id dto =>
      obtain ⟨a, ha, hid, -, s, -, hlt, hstart, hend, hw⟩ := update_ok' hok
      rw [hw]
      refine forall_updateWhere hp fun o ho hoid _ => ?_
      rw [db.eq_of_id .assignment ho ha ((of_decide_eq_true hoid).trans hid.symm)]
      unfold Proper
      rw [hstart, hend]
      exact hlt
    | remove id =>
      rw [(remove_ok hok).2]
      exact forall_updateWhere hp fun _ _ _ h => h

/-- A request keeps the assignments exclusive exactly if an update among them
passes the overlap check, or nothing changes. -/
theorem exclusive_step_iff {r : NodeVms.Request} (hp : ∀ a ∈ db.assignments, Proper a)
    (hx : Exclusive Clash db.assignments) :
    Exclusive Clash (step r db).assignments ↔
      UpdatesPassOverlapCheck r db ∨ (step r db).assignments = db.assignments := by
  rcases step_assignments r db with hsame | ⟨env, T, ra, a, rfl, hok⟩
  · rw [hsame]
    exact ⟨fun _ => .inr rfl, fun _ => hx⟩
  · have hra : UpdatesPassOverlapCheck (.tenant env T (.assignments ra)) db ↔
        ra.PassesOverlapCheck db :=
      ⟨fun h => h ra rfl, fun h ra' hra' => Option.some.inj hra' ▸ h⟩
    have hsame : (step (.tenant env T (.assignments ra)) db).assignments = db.assignments →
        Exclusive Clash (step (.tenant env T (.assignments ra)) db).assignments := by
      intro hsame
      rwa [hsame]
    rw [hra]
    cases ra with
    | create dto => exact ⟨fun _ => .inl trivial, fun _ => create_exclusive hok hx⟩
    | update id dto =>
      have hiff := update_exclusive_iff hok hp hx
      exact ⟨fun h => .inl (hiff.1 h), fun h => h.elim hiff.2 hsame⟩
    | remove id => exact ⟨fun _ => .inl trivial, fun _ => remove_exclusive hok hx⟩

/-- In a run whose updates of assignments pass the overlap check of `create` the
assignments stay exclusive; and after any run that leaves them exclusive, an
update that does not pass it changes nothing or breaks the law. -/
theorem assignments_exclusive (rs : List NodeVms.Request) :
    (Along step UpdatesPassOverlapCheck rs Database.empty →
      Always step (fun db => ExclusiveAssignments db.toTables) rs Database.empty) ∧
    let db := run step rs Database.empty
    ExclusiveAssignments db.toTables → ∀ r, ¬UpdatesPassOverlapCheck r db →
      (step r db).assignments = db.assignments ∨ ¬ExclusiveAssignments (step r db).toTables := by
  refine ⟨fun hrs => ?_, fun h r hr => ?_⟩
  · have halways : Always step (fun db => Exclusive Clash db.assignments) rs Database.empty :=
      Always.of_along (I := Reachable) (fun r _ hdb => hdb.next r)
        (fun r db hdb hx hr => (exclusive_step_iff (proper_of_reachable hdb) hx).2 (.inl hr))
        .refl exclusive_nil hrs
    exact halways.mono fun db hx => exclusiveAssignments_iff.2 hx
  · rw [or_iff_not_imp_right, not_not]
    intro hlaw
    have hstep := (exclusive_step_iff (proper_of_reachable ⟨rs, rfl⟩)
      (exclusiveAssignments_iff.1 h)).1 (exclusiveAssignments_iff.1 hlaw)
    exact hstep.resolve_left hr

/-- `d0` has `v0` and then `w0`, and the first assignment is cut short. -/
theorem assignments_exclusive_shifts :
    Always step (fun db => ExclusiveAssignments db.toTables)
      (Sample.company ++
        [Sample.assignment "a" "t0" "v0" "d0" 0 (.value (some 10)),
         Sample.assignment "b" "t0" "w0" "d0" 20 .null,
         .tenant (.sample "x" 0) "t0"
           (.assignments (.update "a0" { endDate := .value (some 5) }))]) Database.empty :=
  (assignments_exclusive _).1 (by decide)

/-- Two assignments of `v0`, of which the first is then extended into the second. -/
theorem assignments_overlap :
    ¬∀ db, Reachable db → ExclusiveAssignments db.toTables := by
  intro h
  let rs := Sample.company ++
    [Sample.assignment "a" "t0" "v0" "d0" 0 (.value (some 10)),
     Sample.assignment "b" "t0" "v0" "e0" 20 (.value (some 30)),
     .tenant (.sample "x" 0) "t0" (.assignments (.update "a0" { endDate := .value (some 25) }))]
  have hrows : ∃ a ∈ (run step rs Database.empty).assignments,
      ∃ b ∈ (run step rs Database.empty).assignments, a ≠ b ∧ a.deletedAt = none ∧
        b.deletedAt = none ∧ Covers a 25 ∧ Covers b 25 ∧ a.vehicleId = b.vehicleId := by
    decide
  obtain ⟨a, ha, b, hb, hne, had, hbd, hai, hbi, hv⟩ := hrows
  exact hne ((h _ ⟨rs, rfl⟩ 25 a ha b hb had hbd hai hbi).1 hv)

end Assignments
end NodeVms
