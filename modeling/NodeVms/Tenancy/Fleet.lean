/-
# Vehicles, drivers and what is planned for them stay in the tenant

A new assignment joins a vehicle and a driver that were both found in the
tenant, and a trip writes the flags of the vehicle and the driver its row
refers to.
-/

import NodeVms.Tenancy.People

namespace NodeVms

open Store

variable {env : Env} {T : String} {db : Database}

/-! ### Vehicles and contracts -/

/-- A new vehicle, and the contract it may bring, are the tenant's. -/
theorem Vehicles.create_permitted {dto : CreateVehicleDto} (hc : TenantClosed db.toTables) :
    Permitted T db.toTables ((Vehicles.create env T dto).next db).toTables := by
  refine next_permitted hc fun vehicle db' h => ?_
  obtain ⟨hb, fitness, taxToken, -, -, hv, hw⟩ := create_ok h
  have hT : vehicle.tenantId = T := by rw [hv]; rfl
  have hmem : vehicle ∈ db'.vehicles := by
    rcases hw with ⟨-, hw⟩ | ⟨-, _, _, _, -, -, -, -, hw⟩ <;>
      (rw [hw]; exact List.mem_append_right _ (List.mem_singleton_self _))
  have hne : vehicle.branchId ≠ some "" :=
    db'.ref_ne_empty Schema.vehicle_branchId_fkey hmem
  have hbranch : vehicle.branchId = dto.branchId.nullish := by rw [hv]; rfl
  rw [hbranch] at hne
  have hins : Permitted T db.toTables (Model.vehicle.insert [vehicle] db.toTables) := by
    refine (Permitted.refl hc).insertVehicle hT fun k hk => ?_
    exact liveBranch_of_supplied hb hne k (hbranch ▸ hk)
  rcases hw with ⟨-, hw⟩ | ⟨-, contract, s, e, -, -, -, -, hw⟩
  · rw [hw]
    exact hins
  · rw [hw]
    refine hins.setContracts (fun c hc => ?_) (List.forall_mem_append.2
      ⟨hins.closed.contract_vehicle, List.forall_mem_singleton.2 fun k hk => ?_⟩)
    · rw [List.mem_singleton.1 hc.of_append]
      rfl
    · exact ⟨vehicle, List.mem_append_right _ (List.mem_singleton_self _), Option.some.inj hk, hT⟩

/-- An update finds a vehicle of the tenant. -/
theorem Vehicles.update_permitted {id : String} {dto : UpdateVehicleDto}
    (hc : TenantClosed db.toTables) :
    Permitted T db.toTables ((Vehicles.update T id dto).next db).toTables := by
  refine next_permitted hc fun _ db' h => ?_
  obtain ⟨hown, hb, fitness, taxToken, hw⟩ := update_ok h
  rw [hw]
  refine (Permitted.refl hc).updateVehicle (fun _ hv hk => hown.own.tenant_of_id hv hk)
    (fun _ => ⟨rfl, rfl⟩) fun v k hk => ?_
  rcases Field.setRef_eq_some hk with ⟨hk, hne⟩ | hk
  · exact .inr (hb k hk hne)
  · exact .inl hk

/-- So does a removal. -/
theorem Vehicles.remove_permitted {id : String} (hc : TenantClosed db.toTables) :
    Permitted T db.toTables ((Vehicles.remove env T id).next db).toTables := by
  refine next_permitted hc fun _ db' h => ?_
  obtain ⟨hown, hw⟩ := remove_ok h
  rw [hw]
  exact (Permitted.refl hc).updateVehicle (fun _ hv hk => hown.own.tenant_of_id hv hk)
    (fun _ => ⟨rfl, rfl⟩) fun _ _ => .inl

/-- A new contract is the tenant's, for one of its vehicles. -/
theorem Contracts.createFor_permitted {dto : CreateContractDto} {contract : Contract}
    {db' : Database} (hc : TenantClosed db.toTables)
    (h : (createFor env T dto).exec db = .ok (contract, db')) :
    Permitted T db.toTables db'.toTables := by
  obtain ⟨hv, s, e, -, -, hrow, hw⟩ := createFor_ok h
  have hne : contract.vehicleId ≠ some "" :=
    db'.ref_ne_empty Schema.contract_vehicleId_fkey
      (by rw [hw]; exact List.mem_append_right _ (List.mem_singleton_self _))
  rw [hrow] at hne
  rw [hw]
  refine (Permitted.refl hc).setContracts (fun c hc => ?_) (List.forall_mem_append.2
    ⟨hc.contract_vehicle, List.forall_mem_singleton.2 fun k hk => ?_⟩)
  · rw [List.mem_singleton.1 hc.of_append, hrow]
    rfl
  · rw [hrow] at hk ⊢
    refine (hv k (Field.nullish_eq_some.1 hk) ?_).own
    rintro rfl
    exact hne hk

/-- The vehicle that a contract brings is the tenant's. -/
theorem Contracts.createWith_permitted {dto : CreateContractDto}
    {vehicleInput : CreateContractVehicleDto} {contract : Contract} {db' : Database}
    (hc : TenantClosed db.toTables)
    (h : (createWith env T dto vehicleInput).exec db = .ok (contract, db')) :
    Permitted T db.toTables db'.toTables := by
  obtain ⟨hb, s, e, -, -, hrow, hw⟩ := createWith_ok h
  have hne : (vehicleInput.row env T).branchId ≠ some "" :=
    db'.ref_ne_empty Schema.vehicle_branchId_fkey
      (by rw [hw]; exact List.mem_append_right _ (List.mem_singleton_self _))
  have hins : Permitted T db.toTables
      (Model.vehicle.insert [vehicleInput.row env T] db.toTables) :=
    (Permitted.refl hc).insertVehicle rfl (liveBranch_of_supplied hb hne)
  rw [hw]
  refine hins.setContracts (fun c hc => ?_) (List.forall_mem_append.2
    ⟨hins.closed.contract_vehicle, List.forall_mem_singleton.2 fun k hk => ?_⟩)
  · rw [List.mem_singleton.1 hc.of_append, hrow]
    rfl
  · rw [hrow] at hk ⊢
    exact ⟨_, List.mem_append_right _ (List.mem_singleton_self _), Option.some.inj hk, rfl⟩

/-- Both ways to a new contract are permitted. -/
theorem Contracts.create_permitted {dto : CreateContractDto} (hc : TenantClosed db.toTables) :
    Permitted T db.toTables ((Contracts.create env T dto).next db).toTables := by
  refine next_permitted hc fun contract db' h => ?_
  obtain ⟨-, ⟨-, vehicleInput, -, h⟩ | h⟩ := create_ok h
  · exact createWith_permitted hc h
  · exact createFor_permitted hc h

/-- An update finds a contract of the tenant. -/
theorem Contracts.update_permitted {id : String} {dto : UpdateContractDto}
    (hc : TenantClosed db.toTables) :
    Permitted T db.toTables ((Contracts.update T id dto).next db).toTables := by
  refine next_permitted hc fun _ db' h => ?_
  obtain ⟨c, hcm, hid, hT, -, hv, s, e, -, -, -, hw⟩ := update_ok h
  have hown : ∀ o ∈ db.contracts, o.id.val = id → o.tenantId = T := fun o ho hk => by
    rw [db.eq_of_id .contract ho hcm (hk.trans hid.symm), hT]
  rw [hw]
  refine (Permitted.refl hc).setContracts
    (fun r hr => Model.contract.owner_of_updateAt hr hown fun _ => rfl) ?_
  intro r hr k hk
  have hmem : r ∈ db'.contracts := by rw [hw]; exact hr
  have hne : r.vehicleId ≠ some "" :=
    db'.ref_ne_empty Schema.contract_vehicleId_fkey hmem
  rcases mem_updateWhere.1 hr with ⟨hr, -⟩ | ⟨o, ho, hp, rfl⟩
  · exact hc.contract_vehicle r hr k hk
  · have hoT : o.tenantId = T := hown o ho (of_decide_eq_true hp)
    change OwnVehicle db.toTables o.tenantId k
    rcases Field.setNullable_eq_some hk with hk | hk
    · rw [hoT]
      refine (hv k hk ?_).own
      rintro rfl
      exact hne (by simp [UpdateContractDto.apply, hk, Field.setNullable])
    · exact hc.contract_vehicle o ho k hk

/-- So does a removal. -/
theorem Contracts.remove_permitted {id : String} (hc : TenantClosed db.toTables) :
    Permitted T db.toTables ((Contracts.remove env T id).next db).toTables := by
  refine next_permitted hc fun _ db' h => ?_
  obtain ⟨⟨c, hcm, hid, hT, -⟩, hw⟩ := remove_ok h
  rw [hw]
  refine (Permitted.refl hc).setContracts
    (fun r hr => Model.contract.owner_of_updateAt hr (fun o ho hk => ?_) fun _ => rfl)
    (forall_updateWhere hc.contract_vehicle fun _ _ _ hold => hold)
  rw [db.eq_of_id .contract ho hcm (hk.trans hid.symm), hT]

/-! ### Drivers and assignments -/

/-- A new driver is the tenant's, linked to one of its users. -/
theorem Drivers.create_permitted {dto : CreateDriverDto} (hc : TenantClosed db.toTables) :
    Permitted T db.toTables ((Drivers.create env T dto).next db).toTables := by
  refine next_permitted hc fun driver db' h => ?_
  obtain ⟨hu, hb, hd, hw⟩ := create_ok h
  have hmem : driver ∈ db'.drivers := by
    rw [hw]
    exact List.mem_append_right _ (List.mem_singleton_self _)
  have hneb : driver.branchId ≠ some "" :=
    db'.ref_ne_empty Schema.driver_branchId_fkey hmem
  have hneu : driver.userId ≠ some "" :=
    db'.ref_ne_empty Schema.driver_userId_fkey hmem
  rw [hw]
  rw [hd] at hneb hneu ⊢
  refine (Permitted.refl hc).setDrivers (fun r hr => ?_) ?_
    (List.forall_mem_append.2 ⟨hc.driver_branch,
      List.forall_mem_singleton.2 (liveBranch_of_supplied hb hneb)⟩)
    (List.forall_mem_append.2 ⟨hc.driver_user, List.forall_mem_singleton.2 fun k hk => ?_⟩)
  · rw [List.mem_singleton.1 hr.of_append]
  · exact fun _ _ ⟨o, ho, hk⟩ => ⟨o, List.mem_append_left _ ho, hk⟩
  · obtain ⟨u, hu, hid, hT, -⟩ := hu k (Field.nullish_eq_some.1 hk) (by rintro rfl; exact hneu hk)
    exact ⟨u, hu, hid, hT⟩

/-- An update finds a driver of the tenant. -/
theorem Drivers.update_permitted {id : String} {dto : UpdateDriverDto}
    (hc : TenantClosed db.toTables) :
    Permitted T db.toTables ((Drivers.update T id dto).next db).toTables := by
  refine next_permitted hc fun _ db' h => ?_
  obtain ⟨hown, hb, hw⟩ := update_ok h
  rw [hw]
  refine (Permitted.refl hc).updateDriver (fun _ hd hk => hown.own.tenant_of_id hd hk)
    (fun _ => ⟨rfl, rfl, rfl⟩) fun d k hk => ?_
  rcases Field.setRef_eq_some hk with ⟨hk, hne⟩ | hk
  · exact .inr (hb k hk hne)
  · exact .inl hk

/-- So does a removal. -/
theorem Drivers.remove_permitted {id : String} (hc : TenantClosed db.toTables) :
    Permitted T db.toTables ((Drivers.remove env T id).next db).toTables := by
  refine next_permitted hc fun _ db' h => ?_
  obtain ⟨hown, hw⟩ := remove_ok h
  rw [hw]
  exact (Permitted.refl hc).updateDriver (fun _ hd hk => hown.own.tenant_of_id hd hk)
    (fun _ => ⟨rfl, rfl, rfl⟩) fun _ _ => .inl

/-- The vehicle and the driver of one's own assignment are one's own. -/
theorem Assignments.OwnAssignment.own {id : String} {a : Assignment}
    (h : OwnAssignment db.toTables T id a) (hc : TenantClosed db.toTables) :
    OwnVehicle db.toTables T a.vehicleId ∧ OwnDriver db.toTables T a.driverId := by
  obtain ⟨ha, -, -, v, hv, hvid, hvT⟩ := h
  have hown : OwnVehicle db.toTables T a.vehicleId := ⟨v, hv, hvid, hvT⟩
  obtain ⟨T', hv', hd'⟩ := hc.assignment a ha
  rw [hown.tenant_eq hv'] at hd'
  exact ⟨hown, hd'⟩

/-- An update of one's own assignment to a vehicle and a driver of one's own. -/
theorem Permitted.updateAssignment {id : String} {a : Assignment} {f : Assignment → Assignment}
    (hc : TenantClosed db.toTables) (ha : Assignments.OwnAssignment db.toTables T id a)
    (hv : OwnVehicle db.toTables T (f a).vehicleId)
    (hd : OwnDriver db.toTables T (f a).driverId) :
    Permitted T db.toTables (Model.assignment.updateAt id f db.toTables) := by
  have ha' : ∀ o ∈ db.assignments, o.id.val = id → o = a := fun o ho hk =>
    db.eq_of_id .assignment ho ha.1 (hk.trans ha.2.1.symm)
  refine (Permitted.refl hc).setAssignments (fun r hr => ?_) (forall_updateWhere hc.assignment ?_)
  · obtain ⟨o, ho, hk, rfl | rfl⟩ := hr.of_update
    · rw [ha' r ho (of_decide_eq_true hk)]
      exact (ha.own hc).1
    · rw [ha' o ho (of_decide_eq_true hk)]
      exact hv
  · intro o ho hk _
    rw [ha' o ho (of_decide_eq_true hk)]
    exact ⟨T, hv, hd⟩

/-- A new assignment joins a vehicle and a driver of the tenant. -/
theorem Assignments.create_permitted {dto : CreateAssignmentDto} (hc : TenantClosed db.toTables) :
    Permitted T db.toTables ((Assignments.create env T dto).next db).toTables := by
  refine next_permitted hc fun assignment db' h => ?_
  obtain ⟨s, e, -, -, -, hv, hd, -, -, ha, hw⟩ := create_ok h
  rw [hw, ha]
  refine (Permitted.refl hc).setAssignments (fun r hr => ?_)
    (List.forall_mem_append.2 ⟨hc.assignment, List.forall_mem_singleton.2 ⟨T, hv.own, hd.own⟩⟩)
  rw [List.mem_singleton.1 hr.of_append]
  exact hv.own

/-- An update may name another vehicle and driver of it. -/
theorem Assignments.update_permitted {id : String} {dto : UpdateAssignmentDto}
    (hc : TenantClosed db.toTables) :
    Permitted T db.toTables ((Assignments.update T id dto).next db).toTables := by
  refine next_permitted hc fun _ db' h => ?_
  obtain ⟨a, ha, hv, hd, s, e, -, -, -, hw⟩ := update_ok h
  rw [hw]
  refine Permitted.updateAssignment hc ha ?_ ?_
  · change OwnVehicle db.toTables T (dto.vehicleId.truthy.getD a.vehicleId)
    cases hf : dto.vehicleId.truthy with
    | none => exact (ha.own hc).1
    | some v =>
      obtain ⟨hf, hne⟩ := Field.truthy_eq_some.1 hf
      by_cases hva : v = a.vehicleId
      · rw [Option.getD_some, hva]
        exact (ha.own hc).1
      · exact (hv v hf hne hva).own
  · change OwnDriver db.toTables T (dto.driverId.truthy.getD a.driverId)
    cases hf : dto.driverId.truthy with
    | none => exact (ha.own hc).2
    | some d =>
      obtain ⟨hf, hne⟩ := Field.truthy_eq_some.1 hf
      by_cases hda : d = a.driverId
      · rw [Option.getD_some, hda]
        exact (ha.own hc).2
      · exact (hd d hf hne hda).own

/-- A removal finds an assignment of one of its vehicles. -/
theorem Assignments.remove_permitted {id : String} (hc : TenantClosed db.toTables) :
    Permitted T db.toTables ((Assignments.remove env T id).next db).toTables := by
  refine next_permitted hc fun _ db' h => ?_
  obtain ⟨⟨a, ha⟩, hw⟩ := remove_ok h
  rw [hw]
  exact Permitted.updateAssignment hc ha (ha.own hc).1 (ha.own hc).2

/-! ### Bookings and trips -/

/-- An update of one's own booking that keeps its tenant and its branch. -/
theorem Permitted.updateBooking {id : String} {b : Booking} {f : Booking → Booking}
    (hc : TenantClosed db.toTables) (hb : b ∈ db.bookings) (hid : b.id.val = id)
    (hT : b.tenantId = T)
    (hf : ∀ b, (f b).tenantId = b.tenantId ∧ (f b).branchId = b.branchId) :
    Permitted T db.toTables (Model.booking.updateAt id f db.toTables) := by
  refine (Permitted.refl hc).setBookings
    (fun r hr => Model.booking.owner_of_updateAt hr (fun o ho hk => ?_) fun b => (hf b).1)
    (forall_updateWhere hc.booking_branch fun o _ _ hold => (hf o).2.trans hold)
  rw [db.eq_of_id .booking ho hb (hk.trans hid.symm), hT]

/-- Requests on bookings write bookings of the tenant. -/
theorem Bookings.Request.permitted (r : Request) (hc : TenantClosed db.toTables) :
    Permitted T db.toTables (r.next env T db).toTables := by
  refine next_permitted hc fun booking db' h => ?_
  cases r with
  | create dto =>
    obtain ⟨s, e, -, -, -, -, -, hb, hw⟩ := create_ok h
    rw [hw]
    refine (Permitted.refl hc).setBookings (fun r hr => ?_)
      (List.forall_mem_append.2 ⟨hc.booking_branch, List.forall_mem_singleton.2 ?_⟩)
    · rw [List.mem_singleton.1 hr.of_append, hb]
    · rw [hb]
  | confirm id =>
    obtain ⟨b, hb, hid, hT, -, -, hw⟩ := confirm_ok h
    rw [hw]
    exact .updateBooking hc hb hid hT fun _ => ⟨rfl, rfl⟩
  | cancel id =>
    obtain ⟨b, hb, hid, hT, -, -, hw⟩ := cancel_ok h
    rw [hw]
    exact .updateBooking hc hb hid hT fun _ => ⟨rfl, rfl⟩
  | assign id dto =>
    obtain ⟨b, hb, hid, hT, -, -, -, -, -, hw⟩ := assign_ok h
    rw [hw]
    exact .updateBooking hc hb hid hT fun _ => ⟨rfl, rfl⟩

/-- An update of one's own trip that keeps its tenant, vehicle and driver. -/
theorem Permitted.updateTrip {id : String} {r : Trip} {f : Trip → Trip}
    (hc : TenantClosed db.toTables) (hr : r ∈ db.trips) (hid : r.id.val = id) (hT : r.tenantId = T)
    (hf : ∀ r, (f r).tenantId = r.tenantId ∧ (f r).vehicleId = r.vehicleId ∧
      (f r).driverId = r.driverId) :
    Permitted T db.toTables (Model.trip.updateAt id f db.toTables) := by
  refine (Permitted.refl hc).setTrips
    (fun o ho => Model.trip.owner_of_updateAt ho (fun o ho hk => ?_) fun r => (hf r).1)
    (forall_updateWhere hc.trip_vehicle fun o _ _ hold => ?_)
    (forall_updateWhere hc.trip_driver fun o _ _ hold => ?_)
  · rw [db.eq_of_id .trip ho hr (hk.trans hid.symm), hT]
  · rwa [(hf o).1, (hf o).2.1]
  · rwa [(hf o).1, (hf o).2.2]

/-- The flags a trip writes are those of a vehicle and a driver of the tenant. -/
theorem Permitted.setFlags {t : Tables} (h : Permitted T db.toTables t)
    (hvs : t.vehicles = db.vehicles) (hds : t.drivers = db.drivers) {vehicleId driverId : String}
    (hv : OwnVehicle db.toTables T vehicleId) (hd : OwnDriver db.toTables T driverId)
    (status : VehicleStatus) (isAvailable : Bool) :
    Permitted T db.toTables (Model.driver.updateAt driverId (Trips.setAvailable isAvailable)
      (Model.vehicle.updateAt vehicleId (Trips.setStatus status) t)) := by
  have hveh : Permitted T db.toTables
      (Model.vehicle.updateAt vehicleId (Trips.setStatus status) t) :=
    h.updateVehicle (fun _ ho hk => hv.tenant_of_id (hvs ▸ ho) hk) (fun _ => ⟨rfl, rfl⟩)
      fun _ _ => .inl
  exact hveh.updateDriver (fun _ ho hk => hd.tenant_of_id (hds ▸ ho) hk)
    (fun _ => ⟨rfl, rfl, rfl⟩) fun _ _ => .inl

/-- Requests on trips write trips of the tenant and the status of its vehicles. -/
theorem Trips.Request.permitted (r : Request) (hc : TenantClosed db.toTables) :
    Permitted T db.toTables (r.next env T db).toTables := by
  refine next_permitted hc fun trip db' h => ?_
  cases r with
  | startTrip vehicleId userId =>
    obtain ⟨d, hd, hdu, -, ⟨v, hv, hvid, hvT, -⟩, -, htrip, hw⟩ := startTrip_ok h
    have hown : OwnVehicle db.toTables T vehicleId := ⟨v, hv, hvid, hvT⟩
    have hdown : OwnDriver db.toTables T d.id.val := ⟨d, hd, rfl, hdu.2.1⟩
    rw [hw, htrip]
    have hins : Permitted T db.toTables
        (Model.trip.insert [newTrip env vehicleId T d.id] db.toTables) := by
      refine (Permitted.refl hc).setTrips (fun r hr => ?_)
        (List.forall_mem_append.2 ⟨hc.trip_vehicle, List.forall_mem_singleton.2 hown⟩)
        (List.forall_mem_append.2 ⟨hc.trip_driver, List.forall_mem_singleton.2 hdown⟩)
      rw [List.mem_singleton.1 hr.of_append]
      rfl
    exact hins.setFlags rfl rfl hown hdown _ _
  | endTrip tripId userId dto userRole =>
    obtain ⟨t, ht, hid, hT, -, -, -, hw⟩ := endTrip_ok h
    rw [hw]
    have hclose : Permitted T db.toTables
        (Model.trip.updateAt tripId (dto.close env.now) db.toTables) :=
      .updateTrip hc ht hid hT fun _ => ⟨rfl, rfl, rfl⟩
    refine hclose.setFlags rfl rfl ?_ ?_ _ _
    · rw [← hT]
      exact hc.trip_vehicle t ht
    · rw [← hT]
      exact hc.trip_driver t ht
  | updateTrip tripId dto =>
    obtain ⟨t, ht, hid, hT, -, hw⟩ := updateTrip_ok h
    rw [hw]
    exact Permitted.updateTrip hc ht hid hT fun _ => ⟨rfl, rfl, rfl⟩

end NodeVms
