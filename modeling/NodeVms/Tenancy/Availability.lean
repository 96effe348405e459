/-
# What an availability answer depends on

The queries of the two checks filter by the tenant of the caller, but for two of them:
the status of a vehicle is read by the id alone, and so are the assignments of a driver.
`Tables.ofTenant` is what belongs to a tenant.  In states that agree on it the answers
to the tenant differ exactly when the answers to these two queries do, and for the
tenant's own vehicles and drivers they never do.

The answers show columns of the rows found, and none of the queries asks for an order:
which of several matching rows is found is left open (`Picks`), but for its depending on
which rows match only.
-/

import NodeVms.Services.Bookings
import NodeVms.Store.Picks
import NodeVms.Tenancy.Ownership

namespace NodeVms

open Store Script Prisma Scheduling

/-! ### What the queries find -/

namespace Scheduling.Picks

/-- Each query finds what it finds because of the rows that match. -/
structure OrderFree (pick : Picks) : Prop where
  booking : pick.booking.OrderFree
  trip : pick.trip.OrderFree
  maintenanceLog : pick.maintenanceLog.OrderFree
  assignment : pick.assignment.OrderFree

/-- Some such choice. -/
noncomputable def any : Picks := ⟨.any, .any, .any, .any⟩

/-- It depends on which rows match. -/
theorem any_orderFree : any.OrderFree :=
  ⟨Pick.any_orderFree, Pick.any_orderFree, Pick.any_orderFree, Pick.any_orderFree⟩

end Scheduling.Picks

/-! ### The rows of a tenant -/

instance (t : Tables) (tenantId k : String) : Decidable (OwnVehicle t tenantId k) := by
  unfold OwnVehicle; infer_instance

instance (t : Tables) (tenantId k : String) : Decidable (OwnDriver t tenantId k) := by
  unfold OwnDriver; infer_instance

/-- The rows with the `tenantId`, and the assignments of the tenant's vehicles and drivers. -/
def Tables.ofTenant (t : Tables) (tenantId : String) : Tables where
  tenants := []
  branches := t.branches.filter fun r => r.tenantId = tenantId
  subscriptions := t.subscriptions.filter fun r => r.tenantId = tenantId
  featureAccesses := t.featureAccesses.filter fun r => r.tenantId = tenantId
  users := t.users.filter fun r => r.tenantId = tenantId
  userBranches := t.userBranches.filter fun r => r.tenantId = tenantId
  vehicles := t.vehicles.filter fun r => r.tenantId = tenantId
  drivers := t.drivers.filter fun r => r.tenantId = tenantId
  assignments := t.assignments.filter fun a =>
    OwnVehicle t tenantId a.vehicleId ∨ OwnDriver t tenantId a.driverId
  bookings := t.bookings.filter fun r => r.tenantId = tenantId
  contracts := t.contracts.filter fun r => r.tenantId = tenantId
  trips := t.trips.filter fun r => r.tenantId = tenantId
  fuelLogs := t.fuelLogs.filter fun r => r.tenantId = tenantId
  maintenanceLogs := t.maintenanceLogs.filter fun r => r.tenantId = tenantId
  maintenanceItems := []
  documents := t.documents.filter fun r => r.tenantId = tenantId
  expenses := t.expenses.filter fun r => r.tenantId = tenantId
  incomes := t.incomes.filter fun r => r.tenantId = tenantId
  gpsLocations := t.gpsLocations.filter fun r => r.tenantId = tenantId
  workshopJobs := t.workshopJobs.filter fun r => r.tenantId = tenantId
  workshopItems := []
  alerts := t.alerts.filter fun r => r.tenantId = tenantId

/-- Every table holds the same rows, wherever they lie. -/
structure Tables.SameRows (t t' : Tables) : Prop where
  tenants : Store.SameRows t.tenants t'.tenants
  branches : Store.SameRows t.branches t'.branches
  subscriptions : Store.SameRows t.subscriptions t'.subscriptions
  featureAccesses : Store.SameRows t.featureAccesses t'.featureAccesses
  users : Store.SameRows t.users t'.users
  userBranches : Store.SameRows t.userBranches t'.userBranches
  vehicles : Store.SameRows t.vehicles t'.vehicles
  drivers : Store.SameRows t.drivers t'.drivers
  assignments : Store.SameRows t.assignments t'.assignments
  bookings : Store.SameRows t.bookings t'.bookings
  contracts : Store.SameRows t.contracts t'.contracts
  trips : Store.SameRows t.trips t'.trips
  fuelLogs : Store.SameRows t.fuelLogs t'.fuelLogs
  maintenanceLogs : Store.SameRows t.maintenanceLogs t'.maintenanceLogs
  maintenanceItems : Store.SameRows t.maintenanceItems t'.maintenanceItems
  documents : Store.SameRows t.documents t'.documents
  expenses : Store.SameRows t.expenses t'.expenses
  incomes : Store.SameRows t.incomes t'.incomes
  gpsLocations : Store.SameRows t.gpsLocations t'.gpsLocations
  workshopJobs : Store.SameRows t.workshopJobs t'.workshopJobs
  workshopItems : Store.SameRows t.workshopItems t'.workshopItems
  alerts : Store.SameRows t.alerts t'.alerts

variable {pick : Picks} {t t' : Tables} {db db' : Database} {id T : String} {s e : Time}

/-- A state has the rows it has. -/
theorem Tables.SameRows.refl (t : Tables) : t.SameRows t := by
  constructor <;> exact fun _ => Iff.rfl

/-- The vehicles of a tenant have its id. -/
theorem mem_vehicles_ofTenant {v : Vehicle} :
    v ∈ (t.ofTenant T).vehicles ↔ v ∈ t.vehicles ∧ v.tenantId = T := by
  simp [Tables.ofTenant]

/-- So have its drivers. -/
theorem mem_drivers_ofTenant {d : Driver} :
    d ∈ (t.ofTenant T).drivers ↔ d ∈ t.drivers ∧ d.tenantId = T := by
  simp [Tables.ofTenant]

/-- States that agree on the tenant have the same drivers of it. -/
theorem ownDriver_of_agree (h : (t.ofTenant T).SameRows (t'.ofTenant T)) (hid : OwnDriver t T id) :
    OwnDriver t' T id := by
  obtain ⟨d, hd, hdid, hdT⟩ := hid
  have hmem : d ∈ (t'.ofTenant T).drivers := (h.drivers d).1 (mem_drivers_ofTenant.2 ⟨hd, hdT⟩)
  exact ⟨d, (mem_drivers_ofTenant.1 hmem).1, hdid, hdT⟩

/-! ### Vehicles -/

/-- Different reasons make different answers. -/
theorem AvailabilityResult.of_inj {reasons reasons' : List String} :
    AvailabilityResult.of reasons = .of reasons' ↔ reasons = reasons' :=
  ⟨congrArg AvailabilityResult.reasons, congrArg AvailabilityResult.of⟩

/-- A text that starts otherwise is another one. -/
theorem append_ne_of_take {n : Nat} {s t u : String} (hn : n ≤ s.toList.length)
    (h : s.toList.take n ≠ u.toList.take n) : s ++ t ≠ u := by
  rintro rfl
  rw [String.toList_append, List.take_append_of_le_length hn] at h
  exact h rfl

/-- Scheduled maintenance is announced in other words. -/
theorem maintenanceReason_ne (l : MaintenanceLog) :
    maintenanceReason l ≠ "Vehicle is currently under maintenance" :=
  @append_ne_of_take 9 "Vehicle has maintenance scheduled on " _ _ (by decide) (by decide)

/-- The vehicle with this id, whosever it is, is under maintenance. -/
def UnderMaintenance (t : Tables) (vehicleId : String) : Prop :=
  ∃ v ∈ t.vehicles, v.id.val = vehicleId ∧ v.status = .maintenance

instance (t : Tables) (vehicleId : String) : Decidable (UnderMaintenance t vehicleId) := by
  unfold UnderMaintenance; infer_instance

/-- The reasons the bookings and trips of the tenant give. -/
def vehicleReasons (pick : Picks) (t : Tables) (vehicleId tenantId : String)
    (startDate endDate : Time) : List String :=
  ((pick.booking.choose (t.bookings.filter fun b =>
    bookingConflicts vehicleId tenantId startDate endDate b)).map bookingReason).toList ++
  ((pick.trip.choose (t.trips.filter fun r => r.vehicleId = vehicleId ∧ r.tenantId = tenantId ∧
    r.deletedAt = none ∧ tripOverlaps startDate endDate r)).map vehicleTripReason).toList

/-- The maintenance the tenant has scheduled in the period. -/
def maintenanceConflict (pick : Picks) (t : Tables) (vehicleId tenantId : String)
    (startDate endDate : Time) : Option MaintenanceLog :=
  pick.maintenanceLog.choose (t.maintenanceLogs.filter fun l => l.vehicleId = vehicleId ∧
    l.tenantId = tenantId ∧ l.deletedAt = none ∧ startDate ≤ l.date ∧ l.date ≤ endDate)

/-- They depend on the rows of the tenant only. -/
theorem vehicleReasons_eq (h : (t.ofTenant T).SameRows (t'.ofTenant T)) (hpick : pick.OrderFree) :
    vehicleReasons pick t id T s e = vehicleReasons pick t' id T s e := by
  unfold vehicleReasons
  rw [hpick.booking (h.bookings.filter_of_imp fun b hb => ?_),
    hpick.trip (h.trips.filter_of_imp fun r hr => ?_)]
  · exact decide_eq_true (of_decide_eq_true hr).2.1
  · exact decide_eq_true (of_decide_eq_true hb).2.1

/-- And so does this. -/
theorem maintenanceConflict_eq (h : (t.ofTenant T).SameRows (t'.ofTenant T))
    (hpick : pick.OrderFree) :
    maintenanceConflict pick t id T s e = maintenanceConflict pick t' id T s e :=
  hpick.maintenanceLog (h.maintenanceLogs.filter_of_imp fun _ hl =>
    decide_eq_true (of_decide_eq_true hl).2.1)

/-- What the check of a vehicle answers. -/
theorem eval_checkVehicleAvailabilityBy : (checkVehicleAvailabilityBy pick id T s e).eval db =
    .ok (.of (vehicleReasons pick db.toTables id T s e ++
      if UnderMaintenance db.toTables id then ["Vehicle is currently under maintenance"]
      else ((maintenanceConflict pick db.toTables id T s e).map maintenanceReason).toList)) := by
  have hstatus : (db.vehicles.find? fun v => v.id.val = id ∧ True).map Vehicle.status =
      some .maintenance ↔ UnderMaintenance db.toTables id := by
    have hfind : ∀ v, (db.vehicles.find? fun v => v.id.val = id ∧ True) = some v ↔
        v ∈ db.vehicles ∧ v.id.val = id := fun v =>
      (find?_key_eq_some (db.nodup_key .vehicle) fun _ h => (of_decide_eq_true h).1).trans
        (and_congr_right fun _ => decide_eq_true_iff.trans (and_true _).to_iff)
    simp only [Option.map_eq_some_iff, hfind, and_assoc]
    rfl
  simp only [checkVehicleAvailabilityBy, eval_bind, findAny, findById, findFirstRel, eval_read,
    Except.bind]
  change (Script.eval (if (db.vehicles.find? fun v => v.id.val = id ∧ True).map Vehicle.status =
    some .maintenance then _ else _) db : Except Error _) = _
  by_cases hm : UnderMaintenance db.toTables id
  · rw [if_pos (hstatus.2 hm), if_pos hm]
    rfl
  · rw [if_neg (mt hstatus.1 hm), if_neg hm]
    rfl

/-- The answers differ exactly when the vehicle is under maintenance in one of the states only. -/
theorem checkVehicleAvailabilityBy_eq_iff (h : (db.ofTenant T).SameRows (db'.ofTenant T))
    (hpick : pick.OrderFree) :
    (checkVehicleAvailabilityBy pick id T s e).eval db =
        (checkVehicleAvailabilityBy pick id T s e).eval db' ↔
      (UnderMaintenance db.toTables id ↔ UnderMaintenance db'.toTables id) := by
  have hne : ∀ log : Option MaintenanceLog, ["Vehicle is currently under maintenance"] ≠
      (log.map maintenanceReason).toList := by
    intro log
    cases log with
    | none => exact List.cons_ne_nil _ _
    | some l => exact fun heq => maintenanceReason_ne l (List.cons.inj heq).1.symm
  rw [eval_checkVehicleAvailabilityBy, eval_checkVehicleAvailabilityBy, Except.ok.injEq,
    AvailabilityResult.of_inj, vehicleReasons_eq h hpick, maintenanceConflict_eq h hpick,
    List.append_cancel_left_eq]
  by_cases hm : UnderMaintenance db.toTables id <;> by_cases hm' : UnderMaintenance db'.toTables id
  · simp [hm, hm']
  · simp [hm, hm', hne]
  · simp [hm, hm', (hne _).symm]
  · simp [hm, hm']

/-- The tenant's own vehicle is under maintenance in both or in neither. -/
theorem underMaintenance_iff_of_own (h : (db.ofTenant T).SameRows (db'.ofTenant T))
    (hid : OwnVehicle db.toTables T id) :
    UnderMaintenance db.toTables id ↔ UnderMaintenance db'.toTables id := by
  obtain ⟨v, hv, rfl, hvT⟩ := hid
  have hv' : v ∈ db'.vehicles := by
    have hmem := (h.vehicles v).1 (mem_vehicles_ofTenant.2 ⟨hv, hvT⟩)
    exact (mem_vehicles_ofTenant.1 hmem).1
  have hstatus : ∀ {db : Database}, v ∈ db.vehicles →
      (UnderMaintenance db.toTables v.id ↔ v.status = .maintenance) := by
    intro db hv
    constructor
    · rintro ⟨w, hw, hid, hws⟩
      obtain rfl := db.eq_of_id .vehicle hw hv hid
      exact hws
    · exact fun hs => ⟨v, hv, rfl, hs⟩
  rw [hstatus hv, hstatus hv']

/-! ### Drivers -/

/-- The live assignments of the driver, whosever the driver is, that overlap the period. -/
def assignmentsWithin (t : Tables) (driverId : String) (startDate endDate : Time) :
    List Assignment :=
  t.assignments.filter fun a => a.driverId = driverId ∧ a.deletedAt = none ∧
    assignmentOverlaps startDate endDate a

/-- The end of an assignment, as it is printed. -/
def printedEnd (a : Assignment) : Option String := a.endDate.map Time.toISOString

/-- The driver has the same assignments in the period, or some in both states and all of
them with the same end. -/
def SameAssignments (t t' : Tables) (driverId : String) (startDate endDate : Time) : Prop :=
  SameRows (assignmentsWithin t driverId startDate endDate)
      (assignmentsWithin t' driverId startDate endDate) ∨
    (assignmentsWithin t driverId startDate endDate = [] ↔
        assignmentsWithin t' driverId startDate endDate = []) ∧
      ∀ a ∈ assignmentsWithin t driverId startDate endDate,
        ∀ a' ∈ assignmentsWithin t' driverId startDate endDate, printedEnd a = printedEnd a'

instance (t t' : Tables) (driverId : String) (startDate endDate : Time) :
    Decidable (SameAssignments t t' driverId startDate endDate) := by
  unfold SameAssignments; infer_instance

/-- The trip of the tenant that overlaps the period. -/
def driverTripConflict (pick : Picks) (t : Tables) (driverId tenantId : String)
    (startDate endDate : Time) : Option Trip :=
  pick.trip.choose (t.trips.filter fun r => r.driverId = driverId ∧ r.tenantId = tenantId ∧
    r.deletedAt = none ∧ tripOverlaps startDate endDate r)

/-- It depends on the rows of the tenant only. -/
theorem driverTripConflict_eq (h : (t.ofTenant T).SameRows (t'.ofTenant T))
    (hpick : pick.OrderFree) :
    driverTripConflict pick t id T s e = driverTripConflict pick t' id T s e :=
  hpick.trip (h.trips.filter_of_imp fun _ hr => decide_eq_true (of_decide_eq_true hr).2.1)

/-- What the reason for an assignment says is its end. -/
def assignmentText : Option String → String
  | some e => s!"Driver is assigned to a vehicle until {e}"
  | none => "Driver is currently assigned to a vehicle with no end date"

/-- Different ends are told in different words. -/
theorem assignmentText_injective : Function.Injective assignmentText := by
  have hne : ∀ e : String, "Driver is assigned to a vehicle until " ++ e ≠
      "Driver is currently assigned to a vehicle with no end date" := fun e =>
    @append_ne_of_take 11 _ _ _ (by decide) (by decide)
  intro o o' h
  cases o with
  | none =>
    cases o' with
    | none => rfl
    | some e' => exact absurd h.symm (hne e')
  | some e =>
    cases o' with
    | none => exact absurd h (hne e)
    | some e' => exact congrArg some ((String.append_right_inj _).1 h)

/-- The reason shows the end of the assignment and nothing else of it. -/
theorem assignmentReason_eq (a : Assignment) :
    assignmentReason a = assignmentText (printedEnd a) := by
  unfold assignmentReason assignmentText printedEnd
  cases a.endDate <;> rfl

/-- What the check of a driver answers. -/
theorem eval_checkDriverAvailabilityBy : (checkDriverAvailabilityBy pick id T s e).eval db =
    .ok (.of ((((pick.assignment.choose (assignmentsWithin db.toTables id s e)).map
        printedEnd).map assignmentText).toList ++
      ((driverTripConflict pick db.toTables id T s e).map driverTripReason).toList)) := by
  have htext : ∀ o : Option Assignment,
      (o.map printedEnd).map assignmentText = o.map assignmentReason := by
    intro o
    rw [Option.map_map]
    exact congrArg (Option.map · o) (funext fun a => (assignmentReason_eq a).symm)
  rw [htext]
  rfl

/-- One choice: the answers differ exactly when it finds assignments with different ends. -/
theorem checkDriverAvailabilityBy_eq_iff (h : (db.ofTenant T).SameRows (db'.ofTenant T))
    (hpick : pick.OrderFree) :
    (checkDriverAvailabilityBy pick id T s e).eval db =
        (checkDriverAvailabilityBy pick id T s e).eval db' ↔
      (pick.assignment.choose (assignmentsWithin db.toTables id s e)).map printedEnd =
        (pick.assignment.choose (assignmentsWithin db'.toTables id s e)).map printedEnd := by
  have htoList : ∀ o o' : Option (Option String),
      (o.map assignmentText).toList = (o'.map assignmentText).toList ↔ o = o' := by
    intro o o'
    rw [← (Option.map_injective assignmentText_injective).eq_iff]
    cases o.map assignmentText <;> cases o'.map assignmentText <;> simp
  rw [eval_checkDriverAvailabilityBy, eval_checkDriverAvailabilityBy, Except.ok.injEq,
    AvailabilityResult.of_inj, driverTripConflict_eq h hpick, List.append_cancel_right_eq, htoList]

/-- Every choice: they never differ exactly when the driver's assignments in the period cannot
be told apart by their ends. -/
theorem forall_checkDriverAvailabilityBy_eq_iff (h : (db.ofTenant T).SameRows (db'.ofTenant T)) :
    (∀ pick : Picks, pick.OrderFree → (checkDriverAvailabilityBy pick id T s e).eval db =
        (checkDriverAvailabilityBy pick id T s e).eval db') ↔
      SameAssignments db.toTables db'.toTables id s e := by
  unfold SameAssignments
  rw [← Pick.forall_orderFree_iff]
  constructor
  · intro hsame assignment hassignment
    have hpick : Picks.OrderFree { Picks.any with assignment } :=
      { Picks.any_orderFree with assignment := hassignment }
    exact (checkDriverAvailabilityBy_eq_iff h hpick).1 (hsame _ hpick)
  · intro hsame pick hpick
    exact (checkDriverAvailabilityBy_eq_iff h hpick).2 (hsame _ hpick.assignment)

/-- The tenant's own driver has the same assignments in both. -/
theorem sameAssignments_of_own (h : (db.ofTenant T).SameRows (db'.ofTenant T))
    (hid : OwnDriver db.toTables T id) : SameAssignments db.toTables db'.toTables id s e := by
  have hid' := ownDriver_of_agree h hid
  have hrows : SameRows (db.assignments.filter fun a => a.driverId = id)
      (db'.assignments.filter fun a => a.driverId = id) := by
    intro a
    rw [List.mem_filter, List.mem_filter]
    refine and_congr_left fun ha => ?_
    obtain rfl := of_decide_eq_true ha
    have hmem := h.assignments a
    simp only [Tables.ofTenant, List.mem_filter, decide_eq_true_eq, or_true, hid, hid',
      and_true] at hmem
    exact hmem
  exact .inl (hrows.filter_of_imp fun a ha => decide_eq_true (of_decide_eq_true ha).1)

end NodeVms
