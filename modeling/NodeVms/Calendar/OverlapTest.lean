/-
# The overlap test of `AssignmentsService.create`

Read as a statement about periods, the two queries of `create` ask for a live
assignment of the vehicle or of the driver that has an instant in common with the
requested period.  They find one exactly if there is one, so `create` accepts a
request exactly if the requested period is proper and shares no instant with theirs.
-/

import NodeVms.Calendar.Assignments
import NodeVms.Integrity.Unique
import NodeVms.Store.Periods

namespace NodeVms
namespace Assignments

open Store Script Prisma

variable {db : Database} {env : Env} {T : String} {s : Time} {e : Option Time}

/-- The instants an assignment covers. -/
def Covered (a : Assignment) : Set Time := closedFrom a.startDate a.endDate

/-- The filter of the queries finds the assignments that meet the period. -/
theorem overlaps_iff_meet {a : Assignment} (he : ∀ x ∈ e, s < x) (ha : Proper a) :
    overlaps s e a ↔ ¬Disjoint (closedFrom s e) (Covered a) :=
  (closedFrom_meet_iff (fun x hx => (he x hx).le) fun x hx => (ha x hx).le).symm

/-- The row that `create` inserts. -/
def CreateAssignmentDto.row (env : Env) (dto : CreateAssignmentDto) (s : Time) (e : Option Time) :
    Assignment :=
  { id := env.cuid 0, vehicleId := dto.vehicleId, driverId := dto.driverId, startDate := s,
    endDate := e, deletedAt := none }

/-- A new assignment of a vehicle and a driver that are there can be stored. -/
theorem exists_stored {a : Assignment} {T' : String} (hnew : ∀ o ∈ db.assignments, o.id ≠ a.id)
    (hv : LiveVehicle db.toTables T a.vehicleId) (hd : LiveDriver db.toTables T' a.driverId) :
    ∃ db' : Database, db'.toTables = Model.assignment.insert [a] db.toTables := by
  have hunique : (Model.assignment.insert [a] db.toTables).Unique := by
    refine Schema.assignment_indexed.unique_insert_of_ids (List.nodup_singleton _) ?_
    intro o ho r hr
    rw [List.mem_singleton.1 hr]
    exact hnew o ho
  have hresolved : (Model.assignment.insert [a] db.toTables).Resolved := by
    refine Schema.assignment_refers.resolved_insert ?_
    simp only [List.forall_mem_cons, List.not_mem_nil, false_implies, implies_true, and_true,
      Option.some.injEq, forall_eq', Schema.mem_idsOf]
    obtain ⟨v, hv, hvid, -⟩ := hv
    obtain ⟨d, hd, hdid, -⟩ := hd
    exact ⟨⟨v, hv, hvid⟩, d, hd, hdid⟩
  exact ⟨⟨_, hunique, hresolved⟩, rfl⟩

/-- `create` accepts a request that passes its checks, and no other. -/
theorem create_accepted_iff {dto : CreateAssignmentDto}
    (hnew : ∀ a ∈ db.assignments, a.id ≠ env.cuid 0) (hs : dto.startDate = some s)
    (he : dto.endDate.nullish = e.map some) (hv : LiveVehicle db.toTables T dto.vehicleId)
    (hd : LiveDriver db.toTables T dto.driverId) :
    (create env T dto).Accepted db ↔ (∀ x ∈ e, s < x) ∧
      ∀ a ∈ db.assignments, a.deletedAt = none →
        a.vehicleId = dto.vehicleId ∨ a.driverId = dto.driverId → ¬overlaps s e a := by
  rw [accepted_iff]
  constructor
  · rintro ⟨a, hok⟩
    obtain ⟨s', e', hs', he', hlt, -, -, hov, hod, -, -⟩ := create_ok hok
    obtain rfl : s = s' := Option.some.inj (hs.symm.trans hs')
    obtain rfl : e = e' :=
      Option.map_injective (Option.some_injective _) (he.symm.trans he')
    refine ⟨hlt, fun a ha hlive hshares => ?_⟩
    rcases hshares with hvehicle | hdriver
    · exact hov a ha hvehicle hlive
    · exact hod a ha hdriver hlive
  · rintro ⟨hlt, hfree⟩
    obtain ⟨db', hw⟩ := exists_stored (a := dto.row env s e) hnew hv hd
    have hle : ∀ x, dto.endDate = .value x → JsDate.le x dto.startDate = false := by
      intro x hx
      rw [← Field.nullish_eq_some, he, Option.map_eq_some_iff] at hx
      obtain ⟨x, hx, rfl⟩ := hx
      simpa [hs] using hlt x hx
    have hok : (create env T dto).exec db = .ok (dto.row env s e, db') := by
      simp [create]
      exact ⟨hle, hv, hd, s, hs, e, he, fun a ha hv hlive => hfree a ha hlive (.inl hv),
        fun a ha hd hlive => hfree a ha hlive (.inr hd), rfl, hw⟩
    exact ⟨_, next_of_ok hok ▸ hok⟩

/-- **The overlap test is exact:** `create` succeeds exactly if the requested period is proper
and shares no instant with a live assignment of the vehicle or of the driver; otherwise no row
changes. -/
theorem overlap_test_exact {dto : CreateAssignmentDto} (hproper : ∀ a ∈ db.assignments, Proper a)
    (hnew : ∀ a ∈ db.assignments, a.id ≠ env.cuid 0) (hs : dto.startDate = some s)
    (he : dto.endDate.nullish = e.map some) (hv : LiveVehicle db.toTables T dto.vehicleId)
    (hd : LiveDriver db.toTables T dto.driverId) :
    ((create env T dto).Accepted db ↔ (∀ x ∈ e, s < x) ∧
      ∀ a ∈ db.assignments, a.deletedAt = none →
        a.vehicleId = dto.vehicleId ∨ a.driverId = dto.driverId →
        Disjoint (closedFrom s e) (Covered a)) ∧
    (¬(create env T dto).Accepted db → (create env T dto).next db = db) := by
  refine ⟨?_, next_of_not_accepted⟩
  rw [create_accepted_iff hnew hs he hv hd]
  refine and_congr_right fun hlt => forall₄_congr fun a ha hlive hshares => ?_
  rw [overlaps_iff_meet hlt (hproper a ha), not_not]

/-- `v0` is assigned until 10, both included, so that it cannot be assigned from 10 on. -/
theorem overlap_test_exact_touching :
    let db := run step (Sample.company ++ [Sample.assignment "a" "t0" "v0" "d0" 0
      (.value (some 10))]) Database.empty
    (create Sample.unary "t0" ⟨"v0", "e0", some 10, .undefined⟩).next db = db := by
  intro db
  have hproper : ∀ a ∈ db.assignments, Proper a := by
    unfold Proper
    decide +kernel
  have hnew : ∀ a ∈ db.assignments, a.id ≠ Sample.unary.cuid 0 := by decide +kernel
  refine (overlap_test_exact (s := 10) (e := none) hproper hnew rfl rfl ?_ ?_).2 ?_
  all_goals decide +kernel

end Assignments
end NodeVms
