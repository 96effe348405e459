/-
# Workshop bills

The total of a job is kept beside its items: `addItem` inserts the item and
increments the total in one transaction.  Both survive what other requests
write in between, since the increment is applied to the committed total.

A completed job takes no items.  But `updateStatus` does not look at the status
it replaces, so a completed job can be put back to work.
-/

import NodeVms.Frames

namespace NodeVms
namespace Workshop

open Store Script Prisma

variable {env : Env} {T : String} {db db' : Database} {job : WorkshopJob}

/-! ### What the transactions write -/

/-- The service behind a request to the workshop. -/
def Request.handler (env : Env) (tenantId : String) : Request → Query (Transaction WorkshopJob)
  | .createJob dto => Workshop.createJob env tenantId dto
  | .addItem jobId dto => Workshop.addItem env tenantId jobId dto
  | .updateStatus jobId status => Workshop.updateStatus tenantId jobId status

/-- A request on the workshop is its handler. -/
theorem Request.next_eq (r : Request) (env : Env) (tenantId : String) (db : Database) :
    r.next env tenantId db = (r.handler env tenantId).next db := by
  cases r <;> rfl

/-- The jobs and items after the transaction of the request. -/
def Request.Writes (env : Env) (t t' : Tables) : Request → Prop
  | .createJob _ => t'.workshopItems = t.workshopItems ∧
    ∃ job, job.totalCost = 0 ∧ t'.workshopJobs = t.workshopJobs ++ [job]
  | .addItem jobId dto =>
    t'.workshopItems = t.workshopItems ++
      [{ id := env.cuid 0, jobId, name := dto.name, cost := dto.cost }] ∧
    t'.workshopJobs = updateWhere (fun j => j.id.val = jobId)
      (fun j => { j with totalCost := j.totalCost + dto.cost }) t.workshopJobs
  | .updateStatus jobId status => t'.workshopItems = t.workshopItems ∧
    t'.workshopJobs = updateWhere (fun j => j.id.val = jobId) (fun j => { j with status })
      t.workshopJobs

/-- Whatever the request has read, this is what its transaction writes. -/
theorem Request.ends_writes (r : Request) (env : Env) (tenantId : String) :
    (r.handler env tenantId).Ends fun t => ∀ db job db', t.run db = .ok (job, db') →
      r.Writes env db.toTables db'.toTables := by
  cases r with
  | createJob dto =>
    refine ends_bind fun vehicle => ?_
    intro db job db' h
    obtain ⟨rfl, hw⟩ := run_create_eq_ok.1 h
    rw [hw]
    exact ⟨rfl, _, rfl, rfl⟩
  | addItem jobId dto =>
    refine ends_bind fun job => ends_bind fun _ => ?_
    intro db job' db' h
    simp at h
    obtain ⟨db₁, h₁, h₂, -⟩ := h
    rw [h₂, h₁]
    exact ⟨rfl, rfl⟩
  | updateStatus jobId status =>
    refine ends_bind fun job => ?_
    intro db job' db' h
    obtain ⟨hw, -⟩ := run_update_eq_ok.1 h
    rw [hw]
    exact ⟨rfl, rfl⟩

/-- What each accepted request writes. -/
theorem Request.writes_of_ok {r : Request} (h : (r.handler env T).exec db = .ok (job, db')) :
    r.Writes env db.toTables db'.toTables := by
  obtain ⟨t, ht, hrun⟩ := exec_eq_ok.1 h
  exact (r.ends_writes env T).of_eval ht db job db' hrun

/-- A request that changes the jobs or their items is one of the workshop that
goes through. -/
theorem step_workshop (r : NodeVms.Request) (db : Database) :
    ((step r db).workshopJobs = db.workshopJobs ∧ (step r db).workshopItems = db.workshopItems) ∨
      ∃ env T rw job, r = .tenant env T (.workshop rw) ∧
        (rw.handler env T).exec db = .ok (job, step r db) := by
  by_cases hw : Table.workshopJobs ∈ r.writes ∨ Table.workshopItems ∈ r.writes
  · cases r with
    | platform env r => simp [NodeVms.Request.writes] at hw
    | tenant env T r =>
      cases r with
      | workshop rw =>
        have hstep : step (.tenant env T (.workshop rw)) db = (rw.handler env T).next db :=
          rw.next_eq env T db
        rcases (rw.handler env T).next_cases db with hsame | ⟨job, hok⟩
        · rw [hstep, hsame]
          exact .inl ⟨rfl, rfl⟩
        · exact .inr ⟨env, T, rw, job, rfl, hstep ▸ hok⟩
      | _ => simp [NodeVms.Request.writes, TenantRequest.writes] at hw
  · rw [not_or] at hw
    have hjobs : (step r db).workshopJobs = db.workshopJobs := step_same r hw.1
    have hitems : (step r db).workshopItems = db.workshopItems := step_same r hw.2
    exact .inl ⟨hjobs, hitems⟩

/-! ### Totals -/

/-- The items of a job. -/
def items (t : Tables) (id : String) : List WorkshopItem :=
  t.workshopItems.filter fun i => i.jobId = id

/-- The total of every job is the sum of the costs of its items. -/
def Balanced (t : Tables) : Prop :=
  ∀ j ∈ t.workshopJobs, j.totalCost = ((items t j.id).map WorkshopItem.cost).sum

/-- A new item is on the bill of its job. -/
theorem items_append {t t' : Tables} {i : WorkshopItem}
    (h : t'.workshopItems = t.workshopItems ++ [i]) (id : String) :
    items t' id = items t id ++ if i.jobId = id then [i] else [] := by
  rw [items, h, List.filter_append]
  by_cases hi : i.jobId = id
  · simp [hi, items]
  · simp [hi, items]

/-- A new job has no items: they would have referred to no job. -/
theorem items_eq_nil {j : WorkshopJob} (hj : ∀ o ∈ db.workshopJobs, o.id.val ≠ j.id.val) :
    items db.toTables j.id = [] := by
  rw [items, List.filter_eq_nil_iff]
  intro i hi hij
  obtain ⟨o, ho, hoid⟩ := db.exists_of_fkey Schema.workshopItem_jobId_fkey hi rfl
  exact hj o ho (hoid.trans (of_decide_eq_true hij))

/-- A transaction of the workshop keeps the totals right, in whatever state it
is applied. -/
theorem Request.Writes.balanced {r : Request} (h : r.Writes env db.toTables db'.toTables)
    (hb : Balanced db.toTables) : Balanced db'.toTables := by
  cases r with
  | createJob dto =>
    obtain ⟨hitems, job, hzero, hjobs⟩ := h
    have hsame : ∀ id, items db'.toTables id = items db.toTables id := fun id => by
      rw [items, hitems, items]
    intro j hj
    rw [hsame]
    rw [hjobs] at hj
    rcases List.mem_append.1 hj with hj | hj
    · exact hb j hj
    · rw [List.mem_singleton.1 hj, hzero, items_eq_nil (db'.id_ne_of_append .workshopJob hjobs)]
      rfl
  | addItem jobId dto =>
    obtain ⟨hitems, hjobs⟩ := h
    intro j hj
    rw [items_append hitems, List.map_append, List.sum_append]
    rw [hjobs] at hj
    rcases mem_updateWhere.1 hj with ⟨hj, hne⟩ | ⟨o, ho, hid, rfl⟩
    · have hne : jobId ≠ j.id.val := fun h => of_decide_eq_false hne h.symm
      rw [if_neg hne, List.map_nil, List.sum_nil, add_zero]
      exact hb j hj
    · have hid : jobId = o.id.val := (of_decide_eq_true hid).symm
      rw [if_pos hid, List.map_singleton, List.sum_singleton]
      exact congrArg (· + dto.cost) (hb o ho)
  | updateStatus jobId status =>
    obtain ⟨hitems, hjobs⟩ := h
    intro j hj
    rw [items, hitems]
    rw [hjobs] at hj
    rcases mem_updateWhere.1 hj with ⟨hj, -⟩ | ⟨o, ho, -, rfl⟩
    · exact hb j hj
    · exact hb o ho

/-- The cost of each job is the sum of its items in every reachable state. -/
theorem balanced_of_reachable (h : Reachable db) : Balanced db.toTables := by
  refine h.invariant (I := fun db => Balanced db.toTables) (fun j hj => absurd hj List.not_mem_nil)
    fun r db _ hb => ?_
  rcases step_workshop r db with ⟨hjobs, hitems⟩ | ⟨env, T, rw', job, -, hok⟩
  · intro j hj
    rw [items, hitems]
    exact hb j (hjobs ▸ hj)
  · exact (Request.writes_of_ok hok).balanced hb

/-! ### Final bills -/

/-- The tenant, the job and the status, if the request sets the status of a job. -/
def statusUpdate? : NodeVms.Request → Option (String × String × WorkshopJobStatus)
  | .tenant _ tenantId (.workshop (.updateStatus jobId status)) => some (tenantId, jobId, status)
  | _ => none

/-- The request sets a completed job of its tenant to another status. -/
def Reopens (r : NodeVms.Request) (db : Database) : Prop :=
  ∃ p ∈ statusUpdate? r, p.2.2 ≠ .completed ∧ ∃ j ∈ db.workshopJobs, j.id.val = p.2.1 ∧
    j.tenantId = p.1 ∧ j.deletedAt = none ∧ j.status = .completed

instance (r : NodeVms.Request) (db : Database) : Decidable (Reopens r db) := by
  unfold Reopens; infer_instance

/-- Some job is completed and has the id, the total and the items. -/
def Billed (id : Cuid) (totalCost : Amount) (l : List WorkshopItem) (t : Tables) : Prop :=
  ∃ j ∈ t.workshopJobs, j.id = id ∧ j.status = .completed ∧ j.totalCost = totalCost ∧
    items t id = l

/-- A completed job that is not reopened keeps its bill. -/
theorem billed_step {r : NodeVms.Request} {id : Cuid} {totalCost : Amount} {l : List WorkshopItem}
    (h : Billed id totalCost l db.toTables) (hr : ¬Reopens r db) :
    Billed id totalCost l (step r db).toTables := by
  obtain ⟨j, hj, rfl, hstatus, htotal, hl⟩ := h
  rcases step_workshop r db with ⟨hjobs, hitems⟩ | ⟨env, T, rw, job, rfl, hok⟩
  · exact ⟨j, by rwa [hjobs], rfl, hstatus, htotal, by rw [items, hitems]; exact hl⟩
  · cases rw with
    | createJob dto =>
      obtain ⟨hitems, job, -, hjobs⟩ := Request.writes_of_ok hok
      refine ⟨j, ?_, rfl, hstatus, htotal, by rw [items, hitems]; exact hl⟩
      rw [hjobs]
      exact List.mem_append_left _ hj
    | addItem jobId dto =>
      obtain ⟨hitems, hjobs⟩ := Request.writes_of_ok hok
      obtain ⟨o, ho, hoid, -, -, hopen, -⟩ := addItem_ok hok
      -- the item goes to another job
      have hne : j.id.val ≠ jobId := by
        intro hid
        have hjo : j = o := db.eq_of_id .workshopJob hj ho (hid.trans hoid.symm)
        exact hopen (hjo ▸ hstatus)
      refine ⟨j, ?_, rfl, hstatus, htotal, ?_⟩
      · rw [hjobs]
        exact mem_updateWhere.2 (.inl ⟨hj, decide_eq_false hne⟩)
      · rw [items_append hitems, if_neg hne.symm, List.append_nil]
        exact hl
    | updateStatus jobId status =>
      obtain ⟨hitems, hjobs⟩ := Request.writes_of_ok hok
      obtain ⟨⟨o, ho, hoid, hT, hd⟩, -⟩ := updateStatus_ok hok
      have hlist : items (step (.tenant env T (.workshop (.updateStatus jobId status))) db).toTables
          j.id = l := by
        rw [items, hitems]
        exact hl
      by_cases hid : j.id.val = jobId
      · have hjo : j = o := db.eq_of_id .workshopJob hj ho (hid.trans hoid.symm)
        have hcompleted : status = .completed := by
          by_contra hne
          exact hr ⟨_, rfl, hne, o, ho, hoid, hT, hd, hjo ▸ hstatus⟩
        refine ⟨{ j with status }, ?_, rfl, hcompleted, htotal, hlist⟩
        rw [hjobs]
        exact mem_updateWhere.2 (.inr ⟨j, hj, decide_eq_true hid, rfl⟩)
      · refine ⟨j, ?_, rfl, hstatus, htotal, hlist⟩
        rw [hjobs]
        exact mem_updateWhere.2 (.inl ⟨hj, decide_eq_false hid⟩)

/-- In a run in which no completed job is set to another status, a job that is
completed at some point has the same total and the same items at every later
point. -/
theorem completed_bill_final (before after : List NodeVms.Request)
    (h : Along step (fun r db => ¬Reopens r db) (before ++ after) Database.empty) :
    let db := run step before Database.empty
    ∀ j ∈ db.workshopJobs, j.status = .completed →
      Always step (fun db' => Billed j.id j.totalCost (items db.toTables j.id) db'.toTables)
        after db := by
  intro db j hj hstatus
  have hafter := (along_append.1 h).2
  exact Always.of_steps (fun r db' hb hr => billed_step hb hr) ⟨j, hj, rfl, hstatus, rfl, rfl⟩
    hafter

namespace Sample

def createJob (tag tenantId vehicleId : String) : NodeVms.Request :=
  .tenant (.sample tag 0) tenantId (.workshop (.createJob { vehicleId, issue := tag }))

def addItem (tag tenantId jobId : String) (cost : Amount) : NodeVms.Request :=
  .tenant (.sample tag 0) tenantId (.workshop (.addItem jobId { name := tag, cost }))

def updateStatus (tenantId jobId : String) (status : WorkshopJobStatus) : NodeVms.Request :=
  .tenant (.sample "x" 0) tenantId (.workshop (.updateStatus jobId status))

end Sample

/-- The bill of a completed job, and a second job. -/
theorem completed_bill_final_two_jobs :
    let before := NodeVms.Sample.company ++ [Sample.createJob "j" "t0" "v0",
      Sample.addItem "i" "t0" "j0" 10, Sample.updateStatus "t0" "j0" .completed]
    let after := [Sample.createJob "k" "t0" "w0", Sample.addItem "l" "t0" "k0" 5]
    ∃ j ∈ (run step before Database.empty).workshopJobs, j.totalCost = 10 ∧
      Always step (fun db' => Billed j.id 10
        (items (run step before Database.empty).toTables j.id) db'.toTables) after
        (run step before Database.empty) := by
  intro before after
  obtain ⟨j, hj, hstatus, htotal⟩ : ∃ j ∈ (run step before Database.empty).workshopJobs,
      j.status = .completed ∧ j.totalCost = 10 := by decide +kernel
  have hlaw := completed_bill_final before after (by decide) j hj hstatus
  rw [htotal] at hlaw
  exact ⟨j, hj, htotal, hlaw⟩

/-- `ALLOWED_TRANSITIONS`: the statuses the body may carry. -/
def allowedTransitions : List WorkshopJobStatus := [.inProgress, .completed, .cancelled]

/-- The body passes validation, if the request sets a status. -/
def Admitted (r : NodeVms.Request) : Prop := ∀ p ∈ statusUpdate? r, p.2.2 ∈ allowedTransitions

instance (r : NodeVms.Request) : Decidable (Admitted r) := by unfold Admitted; infer_instance

/-- The job is completed, put back to work, and billed for another item. -/
theorem completed_bill_grows :
    ¬∀ before after : List NodeVms.Request, (∀ r ∈ before ++ after, Admitted r) →
      ∀ j ∈ (run step before Database.empty).workshopJobs, j.status = .completed →
        ∃ j' ∈ (run step (before ++ after) Database.empty).workshopJobs,
          j'.id = j.id ∧ j'.totalCost = j.totalCost := by
  intro h
  let before := NodeVms.Sample.company ++ [Sample.createJob "j" "t0" "v0",
    Sample.addItem "i" "t0" "j0" 10, Sample.updateStatus "t0" "j0" .completed]
  let after := [Sample.updateStatus "t0" "j0" .inProgress, Sample.addItem "l" "t0" "j0" 5]
  have hadmitted : ∀ r ∈ before ++ after, Admitted r := by decide
  obtain ⟨j, hj, hstatus, htotal⟩ : ∃ j ∈ (run step before Database.empty).workshopJobs,
      j.status = .completed ∧ j.totalCost = 10 := by decide +kernel
  obtain ⟨j', hj', -, htotal'⟩ := h before after hadmitted j hj hstatus
  have hgrown : ∀ j ∈ (run step (before ++ after) Database.empty).workshopJobs,
      j.totalCost = 15 := by decide +kernel
  rw [htotal, hgrown j' hj'] at htotal'
  exact absurd htotal' (by decide +kernel)

end Workshop
end NodeVms
