/-
# Records, books and alerts stay in the tenant

The records are filed under a live vehicle of the tenant, an item under a log
or a job of the tenant.  `TenantRequest.permitted` collects all services.
-/

import NodeVms.Tenancy.Fleet

namespace NodeVms

open Store

variable {env : Env} {T : String} {db : Database}

/-! ### Records -/

/-- A new fuel log is of a vehicle of the tenant. -/
theorem Fuel.addLog_permitted {dto : CreateFuelLogDto} (hc : TenantClosed db.toTables) :
    Permitted T db.toTables ((Fuel.addLog env T dto).next db).toTables := by
  refine next_permitted hc fun log db' h => ?_
  obtain ⟨hv, -, date, -, hl, hw⟩ := addLog_ok h
  rw [hw, hl]
  refine (Permitted.refl hc).setFuelLogs (fun r hr => ?_)
    (List.forall_mem_append.2 ⟨hc.fuelLog_vehicle, List.forall_mem_singleton.2 hv.own⟩)
  rw [List.mem_singleton.1 hr.of_append]

/-- So is a maintenance log, whose items come with it. -/
theorem Maintenance.create_permitted {dto : CreateMaintenanceLogDto}
    (hc : TenantClosed db.toTables) :
    Permitted T db.toTables ((Maintenance.create env T dto).next db).toTables := by
  refine next_permitted hc fun log db' h => ?_
  obtain ⟨hv, total, date, -, -, hl, hw⟩ := create_ok h
  have hT : log.tenantId = T := by rw [hl]
  have hlog : Permitted T db.toTables (Model.maintenanceLog.insert [log] db.toTables) := by
    refine (Permitted.refl hc).setMaintenanceLogs (fun r hr => ?_) ?_
      (List.forall_mem_append.2 ⟨hc.maintenanceLog_vehicle, List.forall_mem_singleton.2 ?_⟩)
    · rw [List.mem_singleton.1 hr.of_append, hT]
    · exact fun _ _ ⟨o, ho, hk⟩ => ⟨o, List.mem_append_left _ ho, hk⟩
    · rw [hl]
      exact hv.own
  rw [hw]
  refine hlog.setMaintenanceItems fun r hr => ?_
  obtain ⟨i, hi, rfl⟩ := List.mem_mapIdx.1 hr.of_append
  exact ⟨log, List.mem_append_right _ (List.mem_singleton_self _), rfl, hT⟩

/-- So is a document. -/
theorem Documents.create_permitted {dto : CreateDocumentDto} (hc : TenantClosed db.toTables) :
    Permitted T db.toTables ((Documents.create env T dto).next db).toTables := by
  refine next_permitted hc fun document db' h => ?_
  obtain ⟨hv, expiryDate, -, hd, hw⟩ := create_ok h
  rw [hw, hd]
  refine (Permitted.refl hc).setDocuments (fun r hr => ?_)
    (List.forall_mem_append.2 ⟨hc.document_vehicle, List.forall_mem_singleton.2 hv.own⟩)
  rw [List.mem_singleton.1 hr.of_append]

/-- So is a position. -/
theorem Tracking.saveLocation_permitted {limited : Bool} {dto : SaveLocationDto}
    (hc : TenantClosed db.toTables) :
    Permitted T db.toTables ((Tracking.saveLocation env T limited dto).next db).toTables := by
  refine next_permitted hc fun location db' h => ?_
  obtain ⟨-, hv, hl, hw⟩ := saveLocation_ok h
  rw [hw, hl]
  refine (Permitted.refl hc).setGpsLocations (fun r hr => ?_)
    (List.forall_mem_append.2 ⟨hc.gpsLocation_vehicle, List.forall_mem_singleton.2 hv.own⟩)
  rw [List.mem_singleton.1 hr.of_append]

/-- An update of one's own workshop job that keeps its key columns. -/
theorem Permitted.updateWorkshopJob {t₀ t : Tables} (h : Permitted T t₀ t) {id : String}
    {f : WorkshopJob → WorkshopJob}
    (hT : ∀ j ∈ t.workshopJobs, j.id.val = id → j.tenantId = T)
    (hf : ∀ j, (f j).id = j.id ∧ (f j).tenantId = j.tenantId ∧ (f j).vehicleId = j.vehicleId ∧
      (f j).branchId = j.branchId) :
    Permitted T t₀ (Model.workshopJob.updateAt id f t) := by
  refine h.setWorkshopJobs
    (fun r hr => Model.workshopJob.owner_of_updateAt hr hT fun j => (hf j).2.1) ?_
    (forall_updateWhere h.closed.workshopJob_vehicle fun j _ _ hold => ?_)
    (forall_updateWhere h.closed.workshopJob_branch fun j _ _ hold => ?_)
  · refine fun _ _ h => exists_updateWhere (fun j _ _ hj => ?_) h
    rwa [(hf j).1, (hf j).2.1]
  · rwa [(hf j).2.1, (hf j).2.2.1]
  · exact (hf j).2.2.2.trans hold

/-- So is a job. -/
theorem Workshop.createJob_permitted {dto : CreateWorkshopJobDto} (hc : TenantClosed db.toTables) :
    Permitted T db.toTables ((Workshop.createJob env T dto).next db).toTables := by
  refine next_permitted hc fun job db' h => ?_
  obtain ⟨hv, hj, hw⟩ := createJob_ok h
  rw [hw, hj]
  refine (Permitted.refl hc).setWorkshopJobs (fun r hr => ?_) ?_
    (List.forall_mem_append.2 ⟨hc.workshopJob_vehicle, List.forall_mem_singleton.2 hv.own⟩)
    (List.forall_mem_append.2 ⟨hc.workshopJob_branch, List.forall_mem_singleton.2 rfl⟩)
  · rw [List.mem_singleton.1 hr.of_append]
  · exact fun _ _ ⟨o, ho, hk⟩ => ⟨o, List.mem_append_left _ ho, hk⟩

/-- An item is added to a job of the tenant. -/
theorem Workshop.addItem_permitted {jobId : String} {dto : AddWorkshopItemDto}
    (hc : TenantClosed db.toTables) :
    Permitted T db.toTables ((Workshop.addItem env T jobId dto).next db).toTables := by
  refine next_permitted hc fun _ db' h => ?_
  obtain ⟨j, hj, hid, hT, -, -, hw⟩ := addItem_ok h
  rw [hw]
  have hitem : Permitted T db.toTables (Model.workshopItem.insert
      [{ id := env.cuid 0, jobId, name := dto.name, cost := dto.cost }] db.toTables) := by
    refine (Permitted.refl hc).setWorkshopItems fun r hr => ?_
    rw [List.mem_singleton.1 hr.of_append]
    exact ⟨j, hj, hid, hT⟩
  refine hitem.updateWorkshopJob (fun o ho hk => ?_) fun _ => ⟨rfl, rfl, rfl, rfl⟩
  rw [db.eq_of_id .workshopJob ho hj (hk.trans hid.symm), hT]

/-- The status is that of a job of the tenant. -/
theorem Workshop.updateStatus_permitted {jobId : String} {status : WorkshopJobStatus}
    (hc : TenantClosed db.toTables) :
    Permitted T db.toTables ((Workshop.updateStatus T jobId status).next db).toTables := by
  refine next_permitted hc fun _ db' h => ?_
  obtain ⟨⟨j, hj, hid, hT, -⟩, hw⟩ := updateStatus_ok h
  rw [hw]
  refine (Permitted.refl hc).updateWorkshopJob (fun o ho hk => ?_) fun _ => ⟨rfl, rfl, rfl, rfl⟩
  rw [db.eq_of_id .workshopJob ho hj (hk.trans hid.symm), hT]

/-! ### Books and alerts -/

/-- A new expense is the tenant's. -/
theorem Expenses.create_permitted {dto : CreateExpenseDto} (hc : TenantClosed db.toTables) :
    Permitted T db.toTables ((Expenses.create env T dto).next db).toTables := by
  refine next_permitted hc fun expense db' h => ?_
  obtain ⟨he, hw⟩ := create_ok h
  rw [hw, he]
  refine (Permitted.refl hc).setExpenses fun r hr => ?_
  rw [List.mem_singleton.1 hr.of_append]

/-- Requests on incomes write incomes of the tenant. -/
theorem Income.Request.permitted (r : Request) (hc : TenantClosed db.toTables) :
    Permitted T db.toTables (r.next env T db).toTables := by
  cases r with
  | create dto =>
    refine next_permitted hc fun income db' h => ?_
    obtain ⟨hi, hw⟩ := create_ok h
    rw [hw, hi]
    refine (Permitted.refl hc).setIncomes fun r hr => ?_
    rw [List.mem_singleton.1 hr.of_append]
  | update id dto =>
    refine next_permitted hc fun _ db' h => ?_
    obtain ⟨⟨i, hi, hid, hT, -⟩, hw⟩ := update_ok h
    rw [hw]
    refine (Permitted.refl hc).setIncomes fun r hr =>
      Model.income.owner_of_updateAt hr (fun o ho hk => ?_) fun _ => rfl
    rw [db.eq_of_id .income ho hi (hk.trans hid.symm), hT]
  | remove id =>
    refine next_permitted hc fun _ db' h => ?_
    obtain ⟨⟨i, hi, hid, hT, -⟩, hw⟩ := remove_ok h
    rw [hw]
    refine (Permitted.refl hc).setIncomes fun r hr =>
      Model.income.owner_of_updateAt hr (fun o ho hk => ?_) fun _ => rfl
    rw [db.eq_of_id .income ho hi (hk.trans hid.symm), hT]

/-- An alert that is read or dismissed is the tenant's. -/
theorem Alerts.updateStatus_permitted {alertId : String} {status : AlertStatus}
    (hc : TenantClosed db.toTables) :
    Permitted T db.toTables ((Alerts.updateStatus T alertId status).next db).toTables := by
  refine next_permitted hc fun _ db' h => ?_
  obtain ⟨⟨a, ha, hid, hT, -⟩, hw⟩ := updateStatus_ok h
  rw [hw]
  refine (Permitted.refl hc).setAlerts fun r hr =>
    Model.alert.owner_of_updateAt hr (fun o ho hk => ?_) fun _ => rfl
  rw [db.eq_of_id .alert ho ha (hk.trans hid.symm), hT]

/-- The alerts of a scan are the tenant's. -/
theorem Alerts.scan_permitted {daysAhead : Int} (hc : TenantClosed db.toTables) :
    Permitted T db.toTables ((Alerts.scan env T daysAhead).next db).toTables := by
  refine next_permitted hc fun _ db' h => ?_
  obtain ⟨data, hdata, -, hw⟩ := scan_ok h
  rw [hw]
  refine (Permitted.refl hc).setAlerts fun r hr => ?_
  obtain ⟨i, hi, rfl⟩ := List.mem_mapIdx.1 hr.of_append
  exact hdata _ (List.getElem_mem hi)

/-! ### All services -/

/-- From closed tables, every request of a tenant keeps the references closed
and touches only rows of the tenant. -/
theorem TenantRequest.permitted (r : TenantRequest) (hc : TenantClosed db.toTables) :
    Permitted T db.toTables (r.next env T db).toTables := by
  cases r with
  | users r =>
    cases r with
    | create dto => exact Users.create_permitted hc
    | update id dto currentUser => exact Users.update_permitted hc
    | resetSubordinatePassword targetId newPassword requesterRole =>
      exact Users.resetSubordinatePassword_permitted hc
    | remove id currentUser => exact Users.remove_permitted hc
  | branches r =>
    cases r with
    | create dto => exact Branches.create_permitted hc
    | update id dto => exact Branches.update_permitted hc
    | remove id => exact Branches.remove_permitted hc
  | vehicles r =>
    cases r with
    | create dto => exact Vehicles.create_permitted hc
    | update id dto => exact Vehicles.update_permitted hc
    | remove id => exact Vehicles.remove_permitted hc
  | drivers r =>
    cases r with
    | create dto => exact Drivers.create_permitted hc
    | update id dto => exact Drivers.update_permitted hc
    | remove id => exact Drivers.remove_permitted hc
  | assignments r =>
    cases r with
    | create dto => exact Assignments.create_permitted hc
    | update id dto => exact Assignments.update_permitted hc
    | remove id => exact Assignments.remove_permitted hc
  | bookings r => exact r.permitted hc
  | contracts r =>
    cases r with
    | create dto => exact Contracts.create_permitted hc
    | update id dto => exact Contracts.update_permitted hc
    | remove id => exact Contracts.remove_permitted hc
  | trips r => exact r.permitted hc
  | fuel dto => exact Fuel.addLog_permitted hc
  | maintenance dto => exact Maintenance.create_permitted hc
  | documents dto => exact Documents.create_permitted hc
  | workshop r =>
    cases r with
    | createJob dto => exact Workshop.createJob_permitted hc
    | addItem jobId dto => exact Workshop.addItem_permitted hc
    | updateStatus jobId status => exact Workshop.updateStatus_permitted hc
  | expenses dto => exact Expenses.create_permitted hc
  | income r => exact r.permitted hc
  | alerts r =>
    cases r with
    | scan daysAhead => exact Alerts.scan_permitted hc
    | markRead alertId => exact Alerts.updateStatus_permitted hc
    | dismiss alertId => exact Alerts.updateStatus_permitted hc
  | tracking limited dto => exact Tracking.saveLocation_permitted hc

end NodeVms
