/-
# Lists and single records

Each service answers twice for its records, with a list and one by one, and each of the two
queries has a filter of its own.  The filters agree: whatever the query string asks for, the
list holds exactly the records that the single read serves and whose columns, as they are
shown, meet the conditions, each once, and for an id the single read does not serve it
answers 404 (`lists_match_records`).
A removed record is in neither, and since rows stay removed it never comes back: whoever
asks for it, changes it or removes it again, in any later state, gets the 404
(`removed_for_good`).
-/

import NodeVms.Integrity.History
import NodeVms.Services.Reads
import NodeVms.Tenancy.Isolation

namespace NodeVms

open Store Script Prisma

variable {α ω : Type} {db : Database}

/-! ### Two ways to read -/

/-- The list holds, each once, the records that the single read serves and that meet the
conditions.  For an id it does not serve the single read answers with the exception. -/
structure ListMatches (list : Query (List ω)) (one : String → Query ω) (idOf : ω → String)
    (meets : ω → Prop) (missing : Error) (db : Database) : Prop where
  list : ∃ records, list.eval db = .ok records ∧ (records.map idOf).Nodup ∧
    ∀ r, r ∈ records ↔ (one (idOf r)).eval db = .ok r ∧ meets r
  one : ∀ id, (∃ r, idOf r = id ∧ (one id).eval db = .ok r) ∨ (one id).eval db = .error missing

/-- Only the answer of the list counts. -/
theorem ListMatches.of_eval_list {list list' : Query (List ω)} {one : String → Query ω}
    {idOf : ω → String} {meets : ω → Prop} {missing : Error}
    (h : ListMatches list' one idOf meets missing db) (heq : list.eval db = list'.eval db) :
    ListMatches list one idOf meets missing db where
  list := heq ▸ h.list
  one := h.one

section Records

variable {m : Model α} {p q : Tables → α → Prop} [∀ t r, Decidable (p t r)]
  [∀ t r, Decidable (q t r)] {select : Tables → α → ω} {message : String}

/-- The single read answers for the ids of the rows its filter admits. -/
theorem eval_findRecord_eq_ok [m.Keyed] {id : String} {o : ω} :
    (findRecord m id q select message).eval db = .ok o ↔
      ∃ r ∈ m.rows db.toTables, (m.id r).val = id ∧ q db.toTables r ∧ select db.toTables r = o := by
  have hfind : ∀ r, ((m.rows db.toTables).find? fun r => (m.id r).val = id ∧ q db.toTables r) =
      some r ↔ r ∈ m.rows db.toTables ∧ (m.id r).val = id ∧ q db.toTables r := fun r =>
    (find?_key_eq_some (db.nodup_key m) fun _ h => (of_decide_eq_true h).1).trans
      (and_congr_right fun _ => decide_eq_true_iff)
  rw [findRecord, eval_bind_eq_ok]
  simp only [eval_read, Except.ok.injEq, exists_eq_left', eval_orThrow_eq_ok,
    Option.map_eq_some_iff, hfind, and_assoc]

/-- For any other id it answers 404. -/
theorem eval_findRecord_of_forall {id : String}
    (h : ∀ r ∈ m.rows db.toTables, (m.id r).val = id → ¬q db.toTables r) :
    (findRecord m id q select message).eval db = .error (.notFound message) := by
  have hfind : ((m.rows db.toTables).find? fun r => (m.id r).val = id ∧ q db.toTables r) = none := by
    rw [List.find?_eq_none]
    intro r hr hp
    obtain ⟨hid, hq⟩ := of_decide_eq_true hp
    exact h r hr hid hq
  rw [findRecord, eval_bind, eval_read, hfind]
  rfl

/-- The two match if the filter of the list adds the conditions to the filter of the single
read. -/
theorem listMatches [m.Keyed] {orderBy : List α → List α} {idOf : ω → String} {meets : ω → Prop}
    (hperm : ∀ l, (orderBy l).Perm l) (hid : ∀ r, idOf (select db.toTables r) = (m.id r).val)
    (hfilter : ∀ r ∈ m.rows db.toTables,
      (p db.toTables r ↔ q db.toTables r ∧ meets (select db.toTables r))) :
    ListMatches (findRecords m p select orderBy) (fun id => findRecord m id q select message) idOf
      meets (.notFound message) db where
  list := by
    refine ⟨_, rfl, ?_, fun o => ?_⟩
    · have hkeys : (((m.rows db.toTables).filter fun r => p db.toTables r).map fun r =>
          (m.id r).val).Nodup := (db.nodup_key m).sublist (List.filter_sublist.map _)
      have hids : idOf ∘ select db.toTables = fun r => (m.id r).val := funext hid
      rw [List.map_map, hids]
      exact ((hperm _).map _).nodup_iff.2 hkeys
    · simp only [List.mem_map, (hperm _).mem_iff, List.mem_filter, decide_eq_true_eq,
        eval_findRecord_eq_ok]
      constructor
      · rintro ⟨r, ⟨hr, hp⟩, rfl⟩
        obtain ⟨hq, hmeets⟩ := (hfilter r hr).1 hp
        exact ⟨⟨r, hr, (hid r).symm, hq, rfl⟩, hmeets⟩
      · rintro ⟨⟨r, hr, -, hq, rfl⟩, hmeets⟩
        exact ⟨r, ⟨hr, (hfilter r hr).2 ⟨hq, hmeets⟩⟩, rfl⟩
  one id := by
    by_cases h : ∃ r ∈ m.rows db.toTables, (m.id r).val = id ∧ q db.toTables r
    · obtain ⟨r, hr, hrid, hq⟩ := h
      exact .inl ⟨select db.toTables r, (hid r).trans hrid,
        eval_findRecord_eq_ok.2 ⟨r, hr, hrid, hq, rfl⟩⟩
    · exact .inr (eval_findRecord_of_forall fun r hr hrid hq => h ⟨r, hr, hrid, hq⟩)

end Records

/-! ### The conditions of the query string -/

/-- A condition on a column holds of the row exactly if it holds of what is shown. -/
theorem given_iff {value : Option String} {column : α → Option String} {r : α} :
    given value column r ↔ ∀ k ∈ nonEmpty value, column r = some k := decide_eq_true_iff

/-- A value that is not given is no condition. -/
theorem givenEnum_iff {ε : Type} [DecidableEq ε] {value : Option ε} {column : α → ε} {r : α} :
    givenEnum value column r ↔ ∀ v ∈ value, column r = v := decide_eq_true_iff

/-- The branch that is shown is the one referred to. -/
theorem namedBranch_id {t : Tables} {T k : String} (h : LiveBranch t T k) {l : String} :
    (namedBranch t (some k)).map NamedBranch.id = some l ↔ k = l := by
  obtain ⟨b, hb, hid, -⟩ := h
  obtain ⟨o, ho⟩ : ∃ o, (t.branches.find? fun b => b.id.val = k) = some o := by
    rw [← Option.isSome_iff_exists, List.find?_isSome]
    exact ⟨b, hb, decide_eq_true hid⟩
  obtain ⟨-, hok⟩ := mem_of_find? ho
  have hok : o.id.val = k := of_decide_eq_true hok
  simp [namedBranch, ho, hok]

/-- A user is listed under the branches that are shown: the primary one and those of the
memberships. -/
theorem Users.inBranch_iff (hc : TenantClosed db.toTables) {u : User} (hu : u ∈ db.users)
    {branchId : Option String} : inBranch u.tenantId branchId db.toTables u ↔
      ∀ k ∈ nonEmpty branchId, (userSelect db.toTables u).branchId = some k ∨
        ∃ b ∈ (userSelect db.toTables u).userBranches, b.map NamedBranch.id = some k := by
  refine decide_eq_true_iff.trans (forall_congr' fun k => imp_congr_right fun _ =>
    or_congr Iff.rfl ?_)
  constructor
  · rintro ⟨m, hm, hid, rfl, -⟩
    refine ⟨_, List.mem_map.2 ⟨m, List.mem_filter.2 ⟨hm, decide_eq_true hid⟩, rfl⟩, ?_⟩
    exact (namedBranch_id (hc.userBranch_branch m hm)).2 rfl
  · rintro ⟨b, hb, hk⟩
    obtain ⟨m, hm, rfl⟩ := List.mem_map.1 hb
    obtain ⟨hm, hid⟩ := List.mem_filter.1 hm
    have hid : m.userId = u.id.val := of_decide_eq_true hid
    have hown : u.tenantId = m.tenantId := (hc.userBranch_user m hm).tenant_of_id hu hid.symm
    exact ⟨m, hm, hid, (namedBranch_id (hc.userBranch_branch m hm)).1 hk, hown.symm⟩

/-- The services that answer with lists and with single records. -/
structure ListsMatch (collate : String → String → Bool) (T : String) (db : Database) : Prop where
  users : ∀ branchId, ListMatches (Users.findAll collate T branchId) (Users.findOne T)
    Users.SelectedUser.id
    (fun r => ∀ k ∈ nonEmpty branchId, r.branchId = some k ∨
      ∃ b ∈ r.userBranches, b.map NamedBranch.id = some k)
    (.notFound "User not found") db
  vehicles : ∀ (status : Option VehicleStatus) branchId,
    ListMatches (Vehicles.findAll T (status.map VehicleStatus.text) branchId) (Vehicles.findOne T)
    (·.vehicle.id.val)
    (fun r => (∀ s ∈ status, r.vehicle.status = s) ∧
      ∀ k ∈ nonEmpty branchId, r.vehicle.branchId = some k)
    (.notFound "Vehicle not found") db
  /-- Any other status is refused. -/
  vehicles_unknown : ∀ status ≠ "", (∀ s : VehicleStatus, s.text ≠ status) → ∀ branchId,
    (Vehicles.findAll T (some status) branchId).eval db = .error .invalidArgument
  drivers : ∀ branchId, ListMatches (Drivers.findAll collate T branchId) (Drivers.findOne T)
    Drivers.SelectedDriver.id (fun r => ∀ k ∈ nonEmpty branchId, r.branchId = some k)
    (.notFound "Driver not found") db
  assignments : ∀ vehicleId driverId,
    ListMatches (Assignments.findAll T vehicleId driverId) (Assignments.findOne T)
    (·.assignment.id.val)
    (fun r => (∀ k ∈ nonEmpty vehicleId, r.assignment.vehicleId = k) ∧
      ∀ k ∈ nonEmpty driverId, r.assignment.driverId = k)
    (.notFound "Assignment not found") db
  bookings : ListMatches (Bookings.findAll T) (Bookings.findOne T) Bookings.SelectedBooking.id
    (fun _ => True) (.notFound "Booking not found") db
  contracts : ∀ type, ListMatches (Contracts.findAll T type) (Contracts.findOne T)
    Contracts.SelectedContract.id (fun r => ∀ v ∈ Contracts.validType type, r.type = v)
    (.notFound "Contract not found") db
  expiringContracts : ∀ now daysAhead,
    ListMatches (Contracts.findExpiring now T daysAhead) (Contracts.findOne T)
    Contracts.SelectedContract.id
    (fun r => now ≤ r.endDate ∧ r.endDate ≤ Time.addDays now daysAhead)
    (.notFound "Contract not found") db
  trips : ListMatches (Trips.listTrips T) (fun id => Trips.getTrip id T) Trips.SelectedTrip.id
    (fun _ => True) (.notFound "Trip not found") db
  maintenanceLogs : ∀ vehicleId, ListMatches (Maintenance.findAll T vehicleId)
    (Maintenance.findOne T) Maintenance.SelectedMaintenanceLog.id
    (fun r => ∀ k ∈ nonEmpty vehicleId, r.vehicleId = k)
    (.notFound "Maintenance log not found") db
  jobs : ∀ status, ListMatches (Workshop.findAll T status) (Workshop.findOne T)
    Workshop.SelectedJob.id (fun r => ∀ s ∈ status, r.status = s)
    (.notFound "Workshop job not found") db
  incomes : ListMatches (Income.findAll T) (Income.findOne T) (·.id.val) (fun _ => True)
    (.notFound "Income record not found") db

/-- The list under a status of the enumeration. -/
theorem Vehicles.findAll_text (T : String) (status : Option VehicleStatus)
    (branchId : Option String) : (findAll T (status.map VehicleStatus.text) branchId).eval db =
      (findRecords .vehicle
        (fun _ v => v.tenantId = T ∧ v.deletedAt = none ∧ givenEnum status Vehicle.status v ∧
          given branchId Vehicle.branchId v) withBranch newest).eval db := by
  cases status with
  | none => rfl
  | some s => cases s <;> rfl

/-- An unknown status is refused by the database. -/
theorem Vehicles.findAll_unknown {T status : String} (hne : status ≠ "")
    (hunknown : ∀ s : VehicleStatus, s.text ≠ status) (branchId : Option String) :
    (findAll T (some status) branchId).eval db = .error .invalidArgument := by
  have hparse : (VehicleStatus.parse (some status)).eval db = .error .invalidArgument := by
    have hnonEmpty : nonEmpty (some status) = some status := nonEmpty_eq_some.2 ⟨rfl, hne⟩
    have hfind : ([VehicleStatus.available, .onTrip, .maintenance, .inactive].find? fun v =>
        v.text = status) = none := by
      rw [List.find?_eq_none]
      exact fun s _ hs => hunknown s (of_decide_eq_true hs)
    rw [VehicleStatus.parse, hnonEmpty]
    simp only [hfind]
    rfl
  rw [findAll, eval_bind, hparse]
  rfl

/-- **Lists show what single reads serve.**  In every reachable state, under any conditions of
the query string, the list of each service holds exactly the records that it serves one by one
and that meet the conditions. -/
theorem lists_match_records (collate : String → String → Bool) (T : String) (rs : List Request) :
    ListsMatch collate T (run step rs Database.empty) := by
  have hc := tenantClosed_of_reachable ⟨rs, rfl⟩
  constructor
  · refine fun branchId => listMatches (fun _ => alphabetic_perm) (fun _ => rfl) fun u hu => ?_
    constructor
    · rintro ⟨rfl, hlive, hrole, hbranch⟩
      exact ⟨⟨rfl, hlive, hrole⟩, (Users.inBranch_iff hc hu).1 hbranch⟩
    · rintro ⟨⟨rfl, hlive, hrole⟩, hbranch⟩
      exact ⟨rfl, hlive, hrole, (Users.inBranch_iff hc hu).2 hbranch⟩
  · intro status branchId
    refine (listMatches (fun _ => newest_perm) (fun _ => rfl) fun v _ => ?_).of_eval_list
      (Vehicles.findAll_text T status branchId)
    rw [givenEnum_iff, given_iff, ← and_assoc]
    exact Iff.rfl
  · exact fun status hne hunknown branchId => Vehicles.findAll_unknown hne hunknown branchId
  · refine fun branchId => listMatches (fun _ => alphabetic_perm) (fun _ => rfl) fun d _ => ?_
    rw [given_iff, ← and_assoc]
    exact Iff.rfl
  · refine fun vehicleId driverId => listMatches (fun _ => desc_perm) (fun _ => rfl) fun a _ => ?_
    simp only [given_iff, Option.some.injEq, ← and_assoc]
    exact Iff.rfl
  · exact listMatches (fun _ => asc_perm) (fun _ => rfl) fun _ _ => (and_true _).symm.to_iff
  · refine fun type => listMatches (fun _ => asc_perm) (fun _ => rfl) fun c _ => ?_
    rw [givenEnum_iff, ← and_assoc]
    exact Iff.rfl
  · refine fun now daysAhead => listMatches (fun _ => asc_perm) (fun _ => rfl) fun c _ => ?_
    rw [← and_assoc]
    exact Iff.rfl
  · exact listMatches (fun _ => desc_perm) (fun _ => rfl) fun _ _ => (and_true _).symm.to_iff
  · refine fun vehicleId => listMatches (fun _ => desc_perm) (fun _ => rfl) fun l _ => ?_
    simp only [given_iff, Option.some.injEq, ← and_assoc]
    exact Iff.rfl
  · refine fun status => listMatches (fun _ => newest_perm) (fun _ => rfl) fun j _ => ?_
    rw [givenEnum_iff, ← and_assoc]
    exact Iff.rfl
  · exact listMatches (fun _ => desc_perm) (fun _ => rfl) fun _ _ => (and_true _).symm.to_iff

/-! ### Removed records -/

namespace Archive

variable {a : Archive α} {id : String} {db' : Database}

/-- The record has been removed. -/
def Removed (a : Archive α) (id : String) (t : Tables) : Prop :=
  ∃ r ∈ a.model.rows t, (a.model.id r).val = id ∧ a.deletedAt r ≠ none

instance (a : Archive α) (id : String) (t : Tables) : Decidable (a.Removed id t) := by
  unfold Removed; infer_instance

/-- A removed record is still removed later on. -/
theorem Removed.of_keeps (h : a.Removed id db.toTables)
    (hkeeps : a.Keeps db.toTables db'.toTables) : a.Removed id db'.toTables := by
  obtain ⟨r, hr, hid, hd⟩ := h
  obtain ⟨r', hr', hkept⟩ := Grows.exists_of_mem hkeeps hr
  exact ⟨r', hr', (congrArg Cuid.val hkept.id).trans hid, by rwa [hkept.deletedAt_eq hd]⟩

/-- No filter that leaves removed rows out admits a row with its id. -/
theorem Removed.deletedAt_ne [a.model.Keyed] (h : a.Removed id db.toTables) {r : α}
    (hr : r ∈ a.model.rows db.toTables) (hid : (a.model.id r).val = id) : a.deletedAt r ≠ none := by
  obtain ⟨o, ho, hoid, hd⟩ := h
  rwa [db.eq_of_id a.model hr ho (hid.trans hoid.symm)]

end Archive

section Missing

variable {m : Model α} {β : Type} {id : String}

/-- The lookup a service begins with finds nothing. -/
theorem eval_find_error {q : Tables → α → Prop} [∀ t r, Decidable (q t r)] {e : Error}
    (h : ∀ r ∈ m.rows db.toTables, (m.id r).val = id → ¬q db.toTables r) :
    (findById m id q >>= fun o => orThrow o e).eval db = .error e := by
  have hnone : (findById m id q).eval db = .ok none := eval_findById_eq_none.2 h
  rw [eval_bind, hnone]
  rfl

/-- Nothing that follows is executed. -/
theorem exec_bind_of_error {x : Query α} {f : α → Query (Transaction β)} {e : Error}
    (h : x.eval db = .error e) : (x >>= f).exec db = .error e := by
  rw [exec, eval_bind, h]
  rfl

/-- Reading, changing and removing a record is answered 404, whoever asks. -/
structure NotFound {ρ δ σ τ : Type} (message : String) (read : String → Query ρ)
    (update : String → δ → Query (Transaction σ)) (remove : Env → String → Query (Transaction τ))
    (db : Database) : Prop where
  read : ∀ T, (read T).eval db = .error (.notFound message)
  update : ∀ T dto, (update T dto).exec db = .error (.notFound message)
  remove : ∀ env T, (remove env T).exec db = .error (.notFound message)

/-- It suffices that each of the three begins with a lookup of the record. -/
theorem notFound_of_lookup {ρ δ σ τ κ : Type} {message : String} {read : String → Query ρ}
    {find : String → Query κ} {update : String → δ → κ → Query (Transaction σ)}
    {remove : Env → String → κ → Query (Transaction τ)}
    (hread : ∀ T, (read T).eval db = .error (.notFound message))
    (hfind : ∀ T, (find T).eval db = .error (.notFound message)) :
    NotFound message read (fun T dto => find T >>= update T dto)
      (fun env T => find T >>= remove env T) db where
  read := hread
  update T _ := exec_bind_of_error (hfind T)
  remove _ T := exec_bind_of_error (hfind T)

end Missing

/-- What is answered for the id of a removed record. -/
structure RemovedGone (id : String) (t : Tables) (db : Database) : Prop where
  user : Archive.user.Removed id t → ∀ env me, NotFound "User not found" (Users.findOne · id)
    (fun T dto => Users.update env T id dto me) (fun env T => Users.remove env T id me) db
  password : Archive.user.Removed id t → ∀ env T newPassword role,
    (Users.resetSubordinatePassword env T id newPassword role).exec db =
      .error (.notFound "User not found")
  profile : Archive.user.Removed id t →
    (Profile.getProfile id).eval db = .error (.notFound "User not found")
  changePassword : Archive.user.Removed id t → ∀ env dto,
    (Profile.changePassword env id dto).exec db = .error (.notFound "User not found")
  changeName : Archive.user.Removed id t → ∀ name,
    (Profile.changeName id name).exec db = .error (.notFound "User not found")
  branch : Archive.branch.Removed id t → NotFound "Branch not found" (Branches.findOne · id)
    (Branches.update · id) (Branches.remove · · id) db
  vehicle : Archive.vehicle.Removed id t → NotFound "Vehicle not found" (Vehicles.findOne · id)
    (Vehicles.update · id) (Vehicles.remove · · id) db
  driver : Archive.driver.Removed id t → NotFound "Driver not found" (Drivers.findOne · id)
    (Drivers.update · id) (Drivers.remove · · id) db
  assignment : Archive.assignment.Removed id t → NotFound "Assignment not found"
    (Assignments.findOne · id) (Assignments.update · id) (Assignments.remove · · id) db
  contract : Archive.contract.Removed id t → NotFound "Contract not found" (Contracts.findOne · id)
    (Contracts.update · id) (Contracts.remove · · id) db
  income : Archive.income.Removed id t → NotFound "Income record not found" (Income.findOne · id)
    (Income.update · id) (Income.remove · · id) db

/-- What is answered while the record is removed. -/
theorem removedGone (id : String) (db : Database) : RemovedGone id db.toTables db where
  user h env me := by
    have hnone : ∀ u ∈ db.users, u.id.val = id → u.deletedAt ≠ none := fun u hu hid =>
      h.deletedAt_ne hu hid
    refine notFound_of_lookup (fun T => ?_) fun T => eval_find_error fun u hu hid hp =>
      hnone u hu hid hp.2
    exact eval_findRecord_of_forall fun u hu hid hp =>
      hnone u hu hid hp.2.1
  password h env T newPassword role :=
    exec_bind_of_error (eval_find_error fun u hu hid hp => h.deletedAt_ne hu hid hp.2)
  profile h := by
    have hfind : (Profile.findActiveUser id).eval db = .error (.notFound "User not found") :=
      eval_find_error fun u hu hid hp => h.deletedAt_ne hu hid hp
    change (Profile.findActiveUser id >>= fun u => pure (Profile.profileSelect u)).eval db = _
    rw [eval_bind, hfind]
    rfl
  changePassword h _ _ :=
    exec_bind_of_error (eval_find_error fun u hu hid hp => h.deletedAt_ne hu hid hp)
  changeName h _ :=
    exec_bind_of_error (eval_find_error fun u hu hid hp => h.deletedAt_ne hu hid hp)
  branch h := by
    have hnone : ∀ b ∈ db.branches, b.id.val = id → b.deletedAt ≠ none := fun b hb hid =>
      h.deletedAt_ne hb hid
    have hfind : ∀ T, (Branches.findOwn T id).eval db = .error (.notFound "Branch not found") :=
      fun T => eval_find_error fun b hb hid hp => hnone b hb hid hp.2
    refine notFound_of_lookup (fun T => ?_) hfind
    rw [Branches.findOne, eval_bind, hfind]
    rfl
  vehicle h := by
    have hnone : ∀ v ∈ db.vehicles, v.id.val = id → v.deletedAt ≠ none := fun v hv hid =>
      h.deletedAt_ne hv hid
    refine notFound_of_lookup (fun T => ?_) fun T => eval_find_error fun v hv hid hp =>
      hnone v hv hid hp.2
    exact eval_findRecord_of_forall fun v hv hid hp =>
      hnone v hv hid hp.2
  driver h := by
    have hnone : ∀ d ∈ db.drivers, d.id.val = id → d.deletedAt ≠ none := fun d hd hid =>
      h.deletedAt_ne hd hid
    refine notFound_of_lookup (fun T => ?_) fun T => eval_find_error fun d hd hid hp =>
      hnone d hd hid hp.2
    exact eval_findRecord_of_forall fun d hd hid hp =>
      hnone d hd hid hp.2
  assignment h := by
    have hnone : ∀ a ∈ db.assignments, a.id.val = id → a.deletedAt ≠ none := fun a ha hid =>
      h.deletedAt_ne ha hid
    refine notFound_of_lookup (fun T => ?_) fun T => eval_find_error fun a ha hid hp =>
      hnone a ha hid hp.1
    exact eval_findRecord_of_forall fun a ha hid hp =>
      hnone a ha hid hp.1
  contract h := by
    have hnone : ∀ c ∈ db.contracts, c.id.val = id → c.deletedAt ≠ none := fun c hc hid =>
      h.deletedAt_ne hc hid
    refine notFound_of_lookup (fun T => ?_) fun T => eval_find_error fun c hc hid hp =>
      hnone c hc hid hp.2
    exact eval_findRecord_of_forall fun c hc hid hp =>
      hnone c hc hid hp.2
  income h := by
    have hnone : ∀ i ∈ db.incomes, i.id.val = id → i.deletedAt ≠ none := fun i hi hid =>
      h.deletedAt_ne hi hid
    refine notFound_of_lookup (fun T => ?_) fun T => eval_find_error fun i hi hid hp =>
      hnone i hi hid hp.2
    exact eval_findRecord_of_forall fun i hi hid hp =>
      hnone i hi hid hp.2

/-- A record that is removed in some state is gone in every later one: no request, the
platform's included, brings it back. -/
theorem removed_for_good (rs : List Request) (db : Database) (id : String) :
    RemovedGone id db.toTables (run step rs db) where
  user h := (removedGone id _).user (h.of_keeps (Archive.run_keeps Archive.user_keeps rs db))
  password h :=
    (removedGone id _).password (h.of_keeps (Archive.run_keeps Archive.user_keeps rs db))
  profile h := (removedGone id _).profile (h.of_keeps (Archive.run_keeps Archive.user_keeps rs db))
  changePassword h :=
    (removedGone id _).changePassword (h.of_keeps (Archive.run_keeps Archive.user_keeps rs db))
  changeName h :=
    (removedGone id _).changeName (h.of_keeps (Archive.run_keeps Archive.user_keeps rs db))
  branch h := (removedGone id _).branch (h.of_keeps (Archive.run_keeps Archive.branch_keeps rs db))
  vehicle h :=
    (removedGone id _).vehicle (h.of_keeps (Archive.run_keeps Archive.vehicle_keeps rs db))
  driver h := (removedGone id _).driver (h.of_keeps (Archive.run_keeps Archive.driver_keeps rs db))
  assignment h :=
    (removedGone id _).assignment (h.of_keeps (Archive.run_keeps Archive.assignment_keeps rs db))
  contract h :=
    (removedGone id _).contract (h.of_keeps (Archive.run_keeps Archive.contract_keeps rs db))
  income h := (removedGone id _).income (h.of_keeps (Archive.run_keeps Archive.income_keeps rs db))

/-- A vehicle that is removed while it is on a trip: the end of the trip writes its status and
leaves it removed. -/
theorem removed_for_good_on_trip :
    let rs := Sample.company ++ [Sample.assignment "a" "t0" "v0" "d0" 0 .undefined,
      Sample.startTrip "r" "t0" "v0" "u0" 1,
      .tenant (.sample "x" 2) "t0" (.vehicles (.remove "v0"))]
    let db := run step rs Database.empty
    let later := run step [Sample.endTrip "x" "t0" "r0" 3] db
    later.vehicles ≠ db.vehicles ∧ NotFound "Vehicle not found" (Vehicles.findOne · "v0")
      (Vehicles.update · "v0") (Vehicles.remove · · "v0") later :=
  ⟨by decide, (removed_for_good _ _ "v0").vehicle (by decide)⟩

end NodeVms
