/-
# Branch dashboards

`findOne` lists the users, vehicles and drivers of a branch that are not removed
and counts those that are as well; `getAggregateSummary` adds the counts up over
the branches of a tenant.  Every row with a branch is a row of a live branch of
its tenant.  So each of the two agrees with what is there exactly if no removed
row still has a branch (`countsMatch_iff`, `totalsMatch_iff`).
-/

import NodeVms.Integrity.BranchLinks
import NodeVms.Store.Sums

namespace NodeVms
namespace Branches

open Store Script Prisma

variable {α : Type} {db : Database} {tenantId : String}

/-- The branches of a tenant that are not removed. -/
def liveBranches (tenantId : String) (t : Tables) : List Branch :=
  t.branches.filter fun b => b.tenantId = tenantId ∧ b.deletedAt = none

/-- The dashboards show the branches of the tenant that are not removed. -/
theorem mem_liveBranches {t : Tables} {b : Branch} :
    b ∈ liveBranches tenantId t ↔
      b ∈ t.branches ∧ b.tenantId = tenantId ∧ b.deletedAt = none := by
  simp [liveBranches]

namespace Relation

variable (rel : Relation α)

/-- `_count`: the rows of a branch, removed or not. -/
def count (t : Tables) (id : String) : Nat :=
  (rel.model.rows t).countP fun o => rel.branchId o = some id

/-- The rows of a branch that are not removed. -/
def listed (t : Tables) (id : String) : List α :=
  (rel.model.rows t).filter fun o => rel.branchId o = some id ∧ rel.deletedAt o = none

/-- How many rows of the tenant have a branch and are not removed. -/
def attached (tenantId : String) (t : Tables) : Nat :=
  (rel.model.rows t).countP fun o =>
    (rel.tenantId o = tenantId ∧ rel.branchId o ≠ none) ∧ rel.deletedAt o = none

/-- Count and list agree if nothing that is counted is removed. -/
theorem count_eq_length_listed_iff (t : Tables) (id : String) :
    rel.count t id = (rel.listed t id).length ↔
      ∀ o ∈ rel.model.rows t, rel.branchId o = some id → rel.deletedAt o = none := by
  rw [listed, ← List.countP_eq_length_filter, eq_comm]
  exact countP_and_eq_iff

namespace Lawful

variable {rel}

/-- A row has a branch exactly if it has a live one of its tenant. -/
theorem mem_liveBranches_iff (hrel : rel.Lawful) (hc : TenantClosed db.toTables) {o : α}
    (ho : o ∈ rel.model.rows db.toTables) :
    (∃ b ∈ liveBranches tenantId db.toTables, rel.branchId o = some b.id.val) ↔
      rel.tenantId o = tenantId ∧ rel.branchId o ≠ none := by
  constructor
  · rintro ⟨b, hb, hbranch⟩
    obtain ⟨hb, hbT, -⟩ := mem_liveBranches.1 hb
    obtain ⟨b', hb', hid, hT, -⟩ := hrel.closed _ hc o ho _ hbranch
    obtain rfl := db.eq_of_id .branch hb' hb hid
    exact ⟨hT.symm.trans hbT, by rw [hbranch]; exact Option.some_ne_none _⟩
  · rintro ⟨rfl, hlinked⟩
    obtain ⟨k, hk⟩ := Option.ne_none_iff_exists'.1 hlinked
    obtain ⟨b, hb, rfl, hT, hlive⟩ := hrel.closed _ hc o ho k hk
    exact ⟨b, mem_liveBranches.2 ⟨hb, hT, hlive⟩, hk⟩

/-- The counts of all branches match their lists exactly if no removed row has a branch. -/
theorem counts_iff (hrel : rel.Lawful) (hc : TenantClosed db.toTables) :
    (∀ b ∈ liveBranches tenantId db.toTables,
        rel.count db.toTables b.id = (rel.listed db.toTables b.id).length) ↔
      rel.Unlinked tenantId db.toTables := by
  simp only [count_eq_length_listed_iff]
  constructor
  · intro h o ho hT hremoved
    by_contra hlinked
    obtain ⟨b, hb, hbranch⟩ := (hrel.mem_liveBranches_iff hc ho).2 ⟨hT, hlinked⟩
    exact hremoved (h b hb o ho hbranch)
  · intro h b hb o ho hbranch
    obtain ⟨hT, hlinked⟩ := (hrel.mem_liveBranches_iff hc ho).1 ⟨b, hb, hbranch⟩
    by_contra hremoved
    exact hlinked (h o ho hT hremoved)

/-- The counts of all branches together count the rows that have a branch. -/
theorem sum_count (hrel : rel.Lawful) (hc : TenantClosed db.toTables) {branches : List Branch}
    (hbranches : branches.Perm (liveBranches tenantId db.toTables)) :
    (branches.map fun b => rel.count db.toTables b.id).sum =
      (rel.model.rows db.toTables).countP fun o =>
        rel.tenantId o = tenantId ∧ rel.branchId o ≠ none := by
  let ids := branches.map fun b => some b.id.val
  have hids : ids.Nodup := by
    have hkeys : ((liveBranches tenantId db.toTables).map fun b => b.id.val).Nodup :=
      (db.nodup_key .branch).sublist (List.filter_sublist.map _)
    have hnodup : (branches.map fun b => b.id.val).Nodup := (hbranches.map _).nodup_iff.2 hkeys
    have hsome : ids = (branches.map fun b => b.id.val).map some := by rw [List.map_map]; rfl
    rw [hsome]
    exact hnodup.map (Option.some_injective _)
  have hmem : ∀ o ∈ rel.model.rows db.toTables,
      rel.tenantId o = tenantId ∧ rel.branchId o ≠ none ↔ rel.branchId o ∈ ids := by
    intro o ho
    rw [← hrel.mem_liveBranches_iff hc ho]
    simp [ids, hbranches.mem_iff, eq_comm]
  rw [← countP_keys hids hmem, List.map_map]
  rfl

/-- They count what is attached to a branch exactly if no removed row has one. -/
theorem sum_count_iff (hrel : rel.Lawful) (hc : TenantClosed db.toTables)
    {branches : List Branch} (hbranches : branches.Perm (liveBranches tenantId db.toTables)) :
    (branches.map fun b => rel.count db.toTables b.id).sum = rel.attached tenantId db.toTables ↔
      rel.Unlinked tenantId db.toTables := by
  rw [hrel.sum_count hc hbranches, attached, eq_comm, countP_and_eq_iff]
  constructor
  · intro h o ho hT hremoved
    by_contra hlinked
    exact hremoved (h o ho ⟨hT, hlinked⟩)
  · rintro h o ho ⟨hT, hlinked⟩
    by_contra hremoved
    exact hlinked (h o ho hT hremoved)

end Lawful

end Relation

/-! ### One branch -/

/-- The counts are the lengths of the lists. -/
structure CountsMatch (d : BranchDetails) : Prop where
  users : d.count.users = d.users.length
  vehicles : d.count.vehicles = d.vehicles.length
  drivers : d.count.drivers = d.drivers.length

/-- The answer of `findOne`. -/
def details (t : Tables) (b : Branch) : BranchDetails where
  branch := b
  users := (Relation.users.listed t b.id).map .of
  vehicles := (Relation.vehicles.listed t b.id).map .of
  drivers := (Relation.drivers.listed t b.id).map .of
  count := .of t b.id

/-- What the page of a branch shows. -/
theorem eval_findOne {b : Branch} (hb : b ∈ liveBranches tenantId db.toTables) :
    (findOne tenantId b.id).eval db = .ok (details db.toTables b) := by
  obtain ⟨hmem, hT, hlive⟩ := mem_liveBranches.1 hb
  have hown : (findOwn tenantId b.id).eval db = .ok b := by
    simp only [findOwn, eval_bind_eq_ok, eval_orThrow_eq_ok]
    exact ⟨some b, eval_findById_eq_some.2 ⟨hmem, rfl, hT, hlive⟩, rfl⟩
  simp only [findOne, eval_bind_eq_ok]
  exact ⟨b, hown, _, eval_findMany, _, eval_findMany, _, eval_findMany, _, rfl, rfl⟩

/-- Its counts match if they do for users, vehicles and drivers. -/
theorem countsMatch_details {t : Tables} {b : Branch} :
    CountsMatch (details t b) ↔
      Relation.users.count t b.id = (Relation.users.listed t b.id).length ∧
        Relation.vehicles.count t b.id = (Relation.vehicles.listed t b.id).length ∧
        Relation.drivers.count t b.id = (Relation.drivers.listed t b.id).length := by
  constructor
  · rintro ⟨hu, hv, hd⟩
    simp only [details, List.length_map] at hu hv hd
    exact ⟨hu, hv, hd⟩
  · rintro ⟨hu, hv, hd⟩
    constructor <;> rw [details, List.length_map]
    · exact hu
    · exact hv
    · exact hd

/-- Each branch of the tenant counts what it lists exactly if no removed row has a branch. -/
theorem countsMatch_iff (hc : TenantClosed db.toTables) :
    (∀ b ∈ liveBranches tenantId db.toTables,
        ∃ d, (findOne tenantId b.id).eval db = .ok d ∧ CountsMatch d) ↔
      RemovedUnlinked tenantId db.toTables := by
  constructor
  · intro h
    have hcounts : ∀ b ∈ liveBranches tenantId db.toTables,
        CountsMatch (details db.toTables b) := by
      intro b hb
      obtain ⟨d, hd, hmatch⟩ := h b hb
      obtain rfl := Except.ok.inj ((eval_findOne hb).symm.trans hd)
      exact hmatch
    constructor
    · exact (users_lawful.counts_iff hc).1 fun b hb => (countsMatch_details.1 (hcounts b hb)).1
    · exact (vehicles_lawful.counts_iff hc).1 fun b hb =>
        (countsMatch_details.1 (hcounts b hb)).2.1
    · exact (drivers_lawful.counts_iff hc).1 fun b hb =>
        (countsMatch_details.1 (hcounts b hb)).2.2
  · intro h b hb
    have hu := (users_lawful.counts_iff hc).2 h.users b hb
    have hv := (vehicles_lawful.counts_iff hc).2 h.vehicles b hb
    have hd := (drivers_lawful.counts_iff hc).2 h.drivers b hb
    exact ⟨_, eval_findOne hb, countsMatch_details.2 ⟨hu, hv, hd⟩⟩

/-! ### All branches -/

/-- The totals are the numbers of rows that have a branch and are not removed. -/
structure TotalsMatch (tenantId : String) (t : Tables) (totals : Totals) : Prop where
  users : totals.users = Relation.users.attached tenantId t
  vehicles : totals.vehicles = Relation.vehicles.attached tenantId t
  drivers : totals.drivers = Relation.drivers.attached tenantId t

/-- The total is the sum of the counts. -/
theorem total_eq_sum (relation : BranchCount → Nat) (branches : List CountedBranch) :
    total relation branches = (branches.map fun b => relation b.count).sum := by
  rw [total, List.sum_eq_foldl, List.foldl_map]

/-- The totals add up the counts of the branches of the tenant. -/
theorem eval_getAggregateSummary (collate : String → String → Bool) (tenantId : String)
    (db : Database) :
    ∃ (branches : List Branch) (summary : AggregateSummary),
      branches.Perm (liveBranches tenantId db.toTables) ∧
      (getAggregateSummary collate tenantId).eval db = .ok summary ∧
      summary.totals.users =
        (branches.map fun b => Relation.users.count db.toTables b.id).sum ∧
      summary.totals.vehicles =
        (branches.map fun b => Relation.vehicles.count db.toTables b.id).sum ∧
      summary.totals.drivers =
        (branches.map fun b => Relation.drivers.count db.toTables b.id).sum := by
  have hsorted : ((liveBranches tenantId db.toTables).insertionSort
      fun a b => collate a.name b.name).Perm (liveBranches tenantId db.toTables) :=
    List.perm_insertionSort _ _
  refine ⟨_, _, hsorted, rfl, ?_⟩
  simp only [total_eq_sum, List.map_map]
  exact ⟨rfl, rfl, rfl⟩

/-- The totals match exactly if no removed row has a branch. -/
theorem totalsMatch_iff (hc : TenantClosed db.toTables) {branches : List Branch} {totals : Totals}
    (hbranches : branches.Perm (liveBranches tenantId db.toTables))
    (hu : totals.users = (branches.map fun b => Relation.users.count db.toTables b.id).sum)
    (hv : totals.vehicles = (branches.map fun b => Relation.vehicles.count db.toTables b.id).sum)
    (hd : totals.drivers = (branches.map fun b => Relation.drivers.count db.toTables b.id).sum) :
    TotalsMatch tenantId db.toTables totals ↔ RemovedUnlinked tenantId db.toTables := by
  have hu' := users_lawful.sum_count_iff hc hbranches
  have hv' := vehicles_lawful.sum_count_iff hc hbranches
  have hd' := drivers_lawful.sum_count_iff hc hbranches
  rw [← hu] at hu'
  rw [← hv] at hv'
  rw [← hd] at hd'
  constructor
  · rintro ⟨h₁, h₂, h₃⟩
    exact ⟨hu'.1 h₁, hv'.1 h₂, hd'.1 h₃⟩
  · rintro ⟨h₁, h₂, h₃⟩
    exact ⟨hu'.2 h₁, hv'.2 h₂, hd'.2 h₃⟩

/-! ### The dashboards of a tenant -/

/-- The dashboards count what they list: each live branch its rows, and the summary those of
the tenant that have a branch. -/
structure DashboardsMatch (tenantId : String) (db : Database) : Prop where
  branch : ∀ b ∈ liveBranches tenantId db.toTables,
    ∃ d, (findOne tenantId b.id).eval db = .ok d ∧ CountsMatch d
  summary : ∀ collate, ∃ s, (getAggregateSummary collate tenantId).eval db = .ok s ∧
    TotalsMatch tenantId db.toTables s.totals

/-- All dashboards match if nothing removed is in a branch. -/
theorem dashboardsMatch_iff (hc : TenantClosed db.toTables) :
    DashboardsMatch tenantId db ↔ RemovedUnlinked tenantId db.toTables := by
  refine ⟨fun h => (countsMatch_iff hc).1 h.branch, fun h => ⟨(countsMatch_iff hc).2 h, ?_⟩⟩
  intro collate
  obtain ⟨branches, s, hbranches, heval, hu, hv, hd⟩ :=
    eval_getAggregateSummary collate tenantId db
  exact ⟨s, heval, (totalsMatch_iff hc hbranches hu hv hd).2 h⟩

/-- **The branch dashboards count what they list** exactly where no removed user, vehicle or
driver still has a branch, hence throughout a run that removes none with a branch; and after any
run, a request that removes one with a branch is rejected or leaves a dashboard that does not. -/
theorem branch_dashboards_match (rs : List NodeVms.Request) :
    Always step (fun db => ∀ tenantId,
      DashboardsMatch tenantId db ↔ RemovedUnlinked tenantId db.toTables) rs Database.empty ∧
    (Along step RemovesUnlinked rs Database.empty →
      Always step (fun db => ∀ tenantId, DashboardsMatch tenantId db) rs Database.empty) ∧
    let db := run step rs Database.empty
    ∀ r, ¬RemovesUnlinked r db →
      step r db = db ∨ ∃ tenantId, ¬DashboardsMatch tenantId (step r db) := by
  refine ⟨?_, fun hrs => ?_, fun r hr => ?_⟩
  · exact (Always.reachable rs).mono fun db h tenantId =>
      dashboardsMatch_iff (tenantClosed_of_reachable h)
  · have hlaw : Always step (fun db => Reachable db ∧ ∀ tenantId,
        RemovedUnlinked tenantId db.toTables) rs Database.empty :=
      Always.and_reachable (fun r db _ h hr tenantId => removedUnlinked_step (h tenantId) hr)
        removedUnlinked_empty hrs
    exact hlaw.mono fun db h tenantId =>
      (dashboardsMatch_iff (tenantClosed_of_reachable h.1)).2 (h.2 tenantId)
  · rw [or_iff_not_imp_left]
    intro hne
    have hnext : Reachable (step r (run step rs Database.empty)) :=
      Store.Reachable.next ⟨rs, rfl⟩ r
    obtain ⟨tenantId, hlinked⟩ := exists_not_removedUnlinked_step hr hne
    exact ⟨tenantId, fun h =>
      hlinked ((dashboardsMatch_iff (tenantClosed_of_reachable hnext)).1 h)⟩

/-- A request on users, vehicles, drivers or branches, or the registration of a tenant. -/
def OnResources : NodeVms.Request → Prop
  | .platform _ (.registerTenant _) => True
  | .tenant _ _ (.users _) => True
  | .tenant _ _ (.vehicles _) => True
  | .tenant _ _ (.drivers _) => True
  | .tenant _ _ (.branches _) => True
  | _ => False

instance (r : NodeVms.Request) : Decidable (OnResources r) := by
  unfold OnResources; split <;> infer_instance

def Sample.vehicleAt (tag branchId : String) : NodeVms.Request :=
  .tenant (.sample tag 0) "t0"
    (.vehicles (.create { registrationNo := tag, model := tag, branchId := .value branchId }))

/-- Of two vehicles the one without a branch is removed. -/
theorem branch_dashboards_match_unlinked :
    Always step (fun db => ∀ tenantId, DashboardsMatch tenantId db)
      [NodeVms.Sample.tenant "t", NodeVms.Sample.branch "b" "t0", Sample.vehicleAt "v" "b0",
       NodeVms.Sample.vehicle "w" "t0", .tenant (.sample "x" 0) "t0" (.vehicles (.remove "w0"))]
      Database.empty :=
  (branch_dashboards_match _).2.1 (by decide +kernel)

/-- The only vehicle of a branch is removed. -/
theorem branch_counts_removed :
    ¬∀ rs, (∀ r ∈ rs, OnResources r) →
      ∀ tenantId, DashboardsMatch tenantId (run step rs Database.empty) := by
  intro h
  let rs := [NodeVms.Sample.tenant "t", NodeVms.Sample.branch "b" "t0",
    Sample.vehicleAt "v" "b0", .tenant (.sample "x" 0) "t0" (.vehicles (.remove "v0"))]
  have hdb : Reachable (run step rs Database.empty) := ⟨rs, rfl⟩
  have hlinked : ¬RemovedUnlinked "t0" (run step rs Database.empty).toTables := by decide +kernel
  have hmatch : DashboardsMatch "t0" (run step rs Database.empty) := h rs (by decide) "t0"
  exact hlinked ((dashboardsMatch_iff (tenantClosed_of_reachable hdb)).1 hmatch)

end Branches
end NodeVms
