/-
# Concurrent requests that create

`EntityValidator` asks whether an email, a registration number, a phone or a
license number is free before the row is written, and two requests may both be
told that it is.  The unique indexes of the schema settle the race: the second
insert is refused, and with it the request.  A request that creates a row checks
nothing else that another one could change, so these requests are serialisable
without any condition, and of those that want one value at most one goes through.

Where the schema has no index for what the service checks (the name of a branch,
the calendar of a vehicle, the odometer), this is not so, and the requests that
check it are not among these.
-/

import Mathlib.Data.Fin.VecNotation
import NodeVms.Frames

namespace NodeVms
namespace Creates

open Store Script Prisma Validator

/-! ### The requests -/

/-- The requests that insert rows and check no more than that rows exist and that
unique columns are free. -/
inductive Request where
  | tenant (dto : Auth.RegisterTenantDto)
  | user (dto : Users.CreateUserDto)
  | vehicle (dto : CreateVehicleDto)
  | driver (dto : Drivers.CreateDriverDto)
  | contract (dto : CreateContractDto)
  | maintenance (dto : Maintenance.CreateMaintenanceLogDto)
  | document (dto : Documents.CreateDocumentDto)
  | job (dto : Workshop.CreateWorkshopJobDto)
  | expense (dto : Expenses.CreateExpenseDto)
  | income (dto : Income.CreateIncomeDto)
  | subscription (dto : Subscriptions.CreateSubscriptionDto)

/-- What the services return. -/
inductive Created where
  | user (user : User)
  | vehicle (vehicle : Vehicle)
  | driver (driver : Driver)
  | contract (contract : Contract)
  | maintenance (log : MaintenanceLog)
  | document (document : Document)
  | job (job : WorkshopJob)
  | expense (expense : Expense)
  | income (income : NodeVms.Income)
  | subscription (subscription : Subscription)
  deriving DecidableEq

/-- The service behind a creation. -/
def Request.handler (env : Env) (tenantId : String) : Request → Query (Transaction Created)
  | .tenant dto => (Auth.registerTenant env dto).tagged .user
  | .user dto => (Users.create env tenantId dto).tagged .user
  | .vehicle dto => (Vehicles.create env tenantId dto).tagged .vehicle
  | .driver dto => (Drivers.create env tenantId dto).tagged .driver
  | .contract dto => (Contracts.create env tenantId dto).tagged .contract
  | .maintenance dto => (Maintenance.create env tenantId dto).tagged .maintenance
  | .document dto => (Documents.create env tenantId dto).tagged .document
  | .job dto => (Workshop.createJob env tenantId dto).tagged .job
  | .expense dto => (Expenses.create env tenantId dto).tagged .expense
  | .income dto => (Income.create env tenantId dto).tagged .income
  | .subscription dto => (Subscriptions.create env dto).tagged .subscription

/-- The request of the system it is. -/
def Request.toRequest (env : Env) (tenantId : String) : Request → NodeVms.Request
  | .tenant dto => .platform env (.registerTenant dto)
  | .user dto => .tenant env tenantId (.users (.create dto))
  | .vehicle dto => .tenant env tenantId (.vehicles (.create dto))
  | .driver dto => .tenant env tenantId (.drivers (.create dto))
  | .contract dto => .tenant env tenantId (.contracts (.create dto))
  | .maintenance dto => .tenant env tenantId (.maintenance dto)
  | .document dto => .tenant env tenantId (.documents dto)
  | .job dto => .tenant env tenantId (.workshop (.createJob dto))
  | .expense dto => .tenant env tenantId (.expenses dto)
  | .income dto => .tenant env tenantId (.income (.create dto))
  | .subscription dto => .platform env (.createSubscription dto)

/-- The handler of a create is that of the system. -/
theorem Request.next_eq (r : Request) (env : Env) (tenantId : String) :
    (r.handler env tenantId).next = step (r.toRequest env tenantId) := by
  cases r <;> exact next_tagged

/-! ### Unique columns -/

/-- The columns with a unique index of their own, ids apart. -/
inductive Column where
  | email | registrationNo | phone | licenseNo | driverUser
  deriving DecidableEq

/-- The unique index on the column. -/
def Column.index : Column → UniqueIndex
  | email => ⟨"User_email_key", fun t => t.users.map fun u => [u.email]⟩
  | registrationNo =>
    ⟨"Vehicle_registrationNo_key", fun t => t.vehicles.map fun v => [v.registrationNo]⟩
  | phone => ⟨"Driver_phone_key", fun t => t.drivers.map fun d => [d.phone]⟩
  | licenseNo => ⟨"Driver_licenseNo_key", fun t => t.drivers.map fun d => [d.licenseNo]⟩
  | driverUser =>
    ⟨"Driver_userId_key", fun t => t.drivers.filterMap fun d => d.userId.map fun u => [u]⟩

/-- Each of the columns has an index. -/
theorem Column.index_mem (c : Column) : c.index ∈ Schema.uniqueIndexes := by
  cases c <;> simp [Column.index, Schema.uniqueIndexes]

/-- Some row, live or deleted, has the value. -/
def Taken (t : Tables) (k : Column × String) : Prop := [k.2] ∈ k.1.index.values t

/-- The values a request wants for itself. -/
def Request.keys : Request → List (Column × String)
  | .tenant dto => [(.email, dto.email)]
  | .user dto => [(.email, dto.email)]
  | .vehicle dto => [(.registrationNo, dto.registrationNo)]
  | .driver dto => [(.phone, dto.phone), (.licenseNo, dto.licenseNo)] ++
      dto.userId.nullish.toList.map fun u => (.driverUser, u)
  | .contract dto =>
    match dto.type, dto.vehicle.nullish with
    | .vehicleSource, some vehicleInput => [(.registrationNo, vehicleInput.registrationNo)]
    | _, _ => []
  | _ => []

/-- A value that an insert adds to a unique index was not there before. -/
theorem not_taken_of_append {db db' : Database} {k : Column × String} {new : List (List String)}
    (h : k.1.index.values db'.toTables = k.1.index.values db.toTables ++ new) (hk : [k.2] ∈ new) :
    ¬Taken db.toTables k := by
  have hnodup : (k.1.index.values db'.toTables).Nodup := db'.unique _ k.1.index_mem
  rw [h] at hnodup
  exact fun ht => List.disjoint_of_nodup_append hnodup ht hk

/-! ### What one request does to another -/

/-- What requests that create leave as it is: the branches, and every row of the
other tables the checks look at. -/
structure Kept (t t' : Tables) : Prop where
  branches : t'.branches = t.branches
  users : t.users ⊆ t'.users
  vehicles : t.vehicles ⊆ t'.vehicles
  drivers : t.drivers ⊆ t'.drivers

/-- A request that does nothing leaves all rows. -/
theorem Kept.refl (t : Tables) : Kept t t where
  branches := rfl
  users := List.Subset.refl _
  vehicles := List.Subset.refl _
  drivers := List.Subset.refl _

/-- What two requests leave, both leave. -/
theorem Kept.trans {t t' t'' : Tables} (h : Kept t t') (h' : Kept t' t'') : Kept t t'' where
  branches := h'.branches.trans h.branches
  users := List.Subset.trans h.users h'.users
  vehicles := List.Subset.trans h.vehicles h'.vehicles
  drivers := List.Subset.trans h.drivers h'.drivers

/-- A value that is taken stays taken. -/
theorem Kept.taken {t t' : Tables} (h : Kept t t') {k : Column × String} (hk : Taken t k) :
    Taken t' k := by
  obtain ⟨c, s⟩ := k
  cases c with
  | email => exact List.map_subset _ h.users hk
  | registrationNo => exact List.map_subset _ h.vehicles hk
  | phone => exact List.map_subset _ h.drivers hk
  | licenseNo => exact List.map_subset _ h.drivers hk
  | driverUser => exact List.filterMap_subset _ h.drivers hk

/-- A transaction that takes the keys, which were free, and keeps the rest. -/
structure Takes (keys : List (Column × String)) (t t' : Tables) : Prop where
  kept : Kept t t'
  free : ∀ k ∈ keys, ¬Taken t k
  taken : ∀ k ∈ keys, Taken t' k

/-- A transaction that takes no key. -/
theorem Kept.takes_nil {t t' : Tables} (h : Kept t t') : Takes [] t t' :=
  ⟨h, List.forall_mem_nil _, List.forall_mem_nil _⟩

/-- Keys that the transaction adds to their indexes. -/
theorem Kept.takes {db db' : Database} {keys : List (Column × String)}
    (h : Kept db.toTables db'.toTables)
    (hnew : ∀ k ∈ keys, ∃ new, k.1.index.values db'.toTables =
      k.1.index.values db.toTables ++ new ∧ [k.2] ∈ new) :
    Takes keys db.toTables db'.toTables := by
  refine ⟨h, fun k hk => ?_, fun k hk => ?_⟩
  · obtain ⟨new, hvalues, hmem⟩ := hnew k hk
    exact not_taken_of_append hvalues hmem
  · obtain ⟨new, hvalues, hmem⟩ := hnew k hk
    have ht : [k.2] ∈ k.1.index.values db'.toTables := hvalues ▸ List.mem_append_right _ hmem
    exact ht

/-! ### The checks -/

section Checks

variable {K I : Database → Prop} {tenantId : String}

/-- `Kept` between two databases. -/
abbrev Since (db db' : Database) : Prop := Kept db.toTables db'.toTables

/-- A row that is there and matches goes on being found. -/
theorem found_of_subset {α : Type} {m : Model α} [m.Keyed] {id : String} {p : α → Prop}
    [DecidablePred p] {db db' : Database} {r : α}
    (hsub : m.rows db.toTables ⊆ m.rows db'.toTables)
    (hr : (findById m id fun _ => p).eval db = .ok (some r)) :
    (findById m id fun _ => p).eval db' = .ok (some r) := by
  obtain ⟨hmem, hid, hp⟩ := eval_findById_eq_some.1 hr
  exact eval_findById_eq_some.2 ⟨hsub hmem, hid, hp⟩

/-- A row that is found is still there when the transaction runs. -/
theorem checks_lookup {α : Type} {m : Model α} [m.Keyed] {id : String} {p : α → Prop}
    [DecidablePred p] {e : Error}
    (hsub : ∀ db db', Since db db' → m.rows db.toTables ⊆ m.rows db'.toTables) :
    (findById m id (fun _ => p) >>= fun o => orThrow o e).Checks Since K I := by
  refine checks_found_bind rfl (fun r => trivial) (refused_throw _) fun db db' r hR hr => ?_
  exact Except.ok.inj (found_of_subset (hsub db db' hR) (congrArg Except.ok hr))

/-- No create removes a vehicle. -/
theorem checks_findVehicle {id : String} : (findVehicle tenantId id).Checks Since K I :=
  checks_lookup fun _ _ h => h.vehicles

/-- None removes a user. -/
theorem checks_assertUserExists {id label : String} :
    (assertUserExists tenantId id label).Checks Since K I :=
  checks_lookup fun _ _ h => h.users

/-- None removes a branch. -/
theorem checks_assertBranchExists {branchId : Option String} :
    (assertBranchExists tenantId branchId).Checks Since K I := by
  refine checks_whenSome fun id _ => ?_
  refine checks_query_bind_of_eq rfl (fun o => (checks_orThrow _ _).bind fun _ => trivial) ?_
  intro db db' h
  have hrows : db'.branches = db.branches := h.branches
  change db'.branches.find? _ = db.branches.find? _
  rw [hrows]

/-- The branches that are counted stay the same. -/
theorem checks_assertBranchesExist {ids : List String} :
    (Users.assertBranchesExist tenantId ids).Checks Since K I := by
  refine checks_when fun _ => ?_
  refine checks_query_bind_of_eq rfl (fun n => checks_throwIf _ _) ?_
  intro db db' h
  have hrows : db'.branches = db.branches := h.branches
  change (db'.branches.filter _).length = (db.branches.filter _).length
  rw [hrows]

/-- The value is free when the service asks; if another request takes it meanwhile,
the transaction does not find it free. -/
theorem checks_free {α : Type} {m : Model α} {p : α → Bool} {e : Error} {k : Column × String}
    (hK : ∀ db, K db → ¬Taken db.toTables k)
    (hp : ∀ (db : Database), ∀ r ∈ m.rows db.toTables, p r = true → Taken db.toTables k) :
    (findFirst m p >>= fun o => throwIfSome o e).Checks Since K I := by
  refine checks_absent_bind rfl trivial (fun r => refused_throw _) fun db db' r _ _ hr hK' => ?_
  obtain ⟨hmem, hpr⟩ := mem_of_find? (eval_findFirst_eq_some.1 hr)
  exact hK db' hK' (hp db' r hmem hpr)

/-- The check of a column. -/
theorem checks_assertUnique {α : Type} {m : Model α} {deletedAt : α → Option Time}
    {column : α → String} {value : String} {excludeId : Option String} {message : String}
    (c : Column) (hcolumn : ∀ t, c.index.values t = (m.rows t).map fun r => [column r])
    (hK : ∀ db, K db → ¬Taken db.toTables (c, value)) :
    (assertUnique m deletedAt column value excludeId message).Checks Since K I := by
  refine checks_free hK fun db r hr hp => ?_
  have hvalue : column r = value := (of_decide_eq_true hp).1
  rw [Taken, hcolumn, ← hvalue]
  exact List.mem_map_of_mem hr

/-- The check of an account that is linked to a driver. -/
theorem checks_assertUserNotAlreadyDriver {userId : String}
    (hK : ∀ db, K db → ¬Taken db.toTables (.driverUser, userId)) :
    (assertUserNotAlreadyDriver userId).Checks Since K I := by
  refine checks_free hK fun db d hd hp => ?_
  have huser : d.userId = some userId := (of_decide_eq_true hp).1
  exact List.mem_filterMap.2 ⟨d, hd, by rw [huser]; rfl⟩

/-- A date stays what it is. -/
theorem checks_valid (d : JsDate) : d.valid.Checks Since K I := checks_orThrow _ _

/-- So does an optional one. -/
theorem checks_validOpt (d : Option JsDate) : (JsDate.validOpt d).Checks Since K I := by
  cases d with
  | none => trivial
  | some d => exact (checks_valid d).bind fun _ => trivial

end Checks

/-- The condition a transaction finds when the store accepts it. -/
def Request.Free (r : Request) (db : Database) : Prop := ∀ k ∈ r.keys, ¬Taken db.toTables k

/-- Whatever the others have created meanwhile, the checks hold if the values are free. -/
theorem Request.checks (r : Request) (env : Env) (tenantId : String) :
    (r.handler env tenantId).Checks Since r.Free fun _ => True := by
  cases r with
  | tenant dto =>
    refine Checks.bind ?_ fun _ => trivial
    exact (checks_assertUnique .email (fun _ => rfl) fun db hK =>
      hK _ (by simp [Request.keys])).bind fun _ => trivial
  | user dto =>
    refine Checks.bind ?_ fun _ => trivial
    exact (checks_throwIf _ _).bind fun _ =>
      (checks_assertUnique .email (fun _ => rfl) fun db hK =>
          hK _ (by simp [Request.keys])).bind fun _ =>
        checks_assertBranchExists.bind fun _ => checks_assertBranchesExist.bind fun _ => trivial
  | vehicle dto =>
    refine Checks.bind ?_ fun _ => trivial
    refine (checks_assertUnique .registrationNo (fun _ => rfl) fun db hK =>
        hK _ (by simp [Request.keys])).bind fun _ =>
      checks_assertBranchExists.bind fun _ => ?_
    dsimp only
    split
    · exact (checks_orThrow _ _).bind fun _ => (checks_throwIf _ _).bind fun _ =>
        (checks_validOpt _).bind fun _ => (checks_validOpt _).bind fun _ =>
          (checks_valid _).bind fun _ => (checks_valid _).bind fun _ => trivial
    · exact (checks_validOpt _).bind fun _ => (checks_validOpt _).bind fun _ => trivial
  | driver dto =>
    refine Checks.bind ?_ fun _ => trivial
    refine (checks_assertUnique .phone (fun _ => rfl) fun db hK =>
        hK _ (by simp [Request.keys])).bind fun _ =>
      (checks_assertUnique .licenseNo (fun _ => rfl) fun db hK =>
        hK _ (by simp [Request.keys])).bind fun _ => ?_
    refine (checks_whenSome fun u hu => ?_).bind fun _ =>
      checks_assertBranchExists.bind fun _ => trivial
    have huser : dto.userId = .value u := (Field.truthy_eq_some.1 hu).1
    exact checks_assertUserExists.bind fun _ =>
      checks_assertUserNotAlreadyDriver fun db hK => hK _ (by simp [Request.keys, huser])
  | contract dto =>
    refine Checks.bind ?_ fun _ => trivial
    refine (checks_throwIf _ _).bind fun _ => (checks_throwIf _ _).bind fun _ =>
      (checks_throwIf _ _).bind fun _ => ?_
    split
    · rename_i vehicleInput htype hvehicle
      exact (checks_assertUnique .registrationNo (fun _ => rfl) fun db hK =>
          hK _ (by simp [Request.keys, htype, hvehicle])).bind fun _ =>
        checks_assertBranchExists.bind fun _ => (checks_valid _).bind fun _ =>
          (checks_valid _).bind fun _ => trivial
    · refine (checks_whenSome fun id _ => ?_).bind fun _ =>
        (checks_valid _).bind fun _ => (checks_valid _).bind fun _ => trivial
      exact checks_findVehicle.bind fun _ => trivial
  | maintenance dto =>
    refine Checks.bind ?_ fun _ => trivial
    refine checks_findVehicle.bind fun _ => Checks.bind ?_ fun _ =>
      (checks_valid _).bind fun _ => trivial
    unfold Maintenance.totalCost
    split
    · trivial
    · split <;> trivial
  | document dto =>
    refine Checks.bind ?_ fun _ => trivial
    exact checks_findVehicle.bind fun _ => (checks_valid _).bind fun _ => trivial
  | job dto => exact Checks.bind (checks_findVehicle.bind fun _ => trivial) fun _ => trivial
  | expense dto => exact Checks.bind trivial fun _ => trivial
  | income dto => exact Checks.bind trivial fun _ => trivial
  | subscription dto => exact Checks.bind trivial fun _ => trivial

/-! ### What the transactions write -/

/-- Whatever the request has read, its transaction takes its keys. -/
theorem Request.ends_takes (r : Request) (env : Env) (tenantId : String) :
    (r.handler env tenantId).Ends fun t => ∀ db created db', t.run db = .ok (created, db') →
      Takes r.keys db.toTables db'.toTables := by
  cases r with
  | tenant dto =>
    refine Ends.tagged (ends_bind fun _ => ?_)
    intro db user db' h
    obtain ⟨-, hw⟩ := Auth.createTenantWith_ok h
    refine Kept.takes ⟨?_, ?_, ?_, ?_⟩ ?_
    all_goals simp [hw, Model.insert, Request.keys, Column.index]
  | user dto =>
    refine Ends.tagged (ends_bind fun _ => ends_bind fun _ => ends_bind fun _ =>
      ends_bind fun _ => ?_)
    intro db user db' h
    simp at h
    obtain ⟨db₁, h₁, ⟨-, hw⟩ | ⟨-, rfl⟩, -⟩ := h
    · refine Kept.takes ⟨?_, ?_, ?_, ?_⟩ ?_
      all_goals simp [hw, h₁, Model.insert, Request.keys, Column.index]
    · refine Kept.takes ⟨?_, ?_, ?_, ?_⟩ ?_
      all_goals simp [h₁, Model.insert, Request.keys, Column.index]
  | vehicle dto =>
    refine Ends.tagged (ends_bind fun _ => ends_bind fun _ => ?_)
    dsimp only
    split
    · refine ends_bind fun contract => ends_bind fun _ => ends_bind fun _ => ends_bind fun _ =>
        ends_bind fun _ => ends_bind fun _ => ?_
      intro db vehicle db' h
      simp at h
      obtain ⟨db₁, h₁, hw, -⟩ := h
      refine Kept.takes ⟨?_, ?_, ?_, ?_⟩ ?_
      all_goals simp [hw, h₁, Model.insert, Request.keys, Column.index, CreateVehicleDto.row]
    · refine ends_bind fun _ => ends_bind fun _ => ?_
      intro db vehicle db' h
      obtain ⟨-, hw⟩ := run_create_eq_ok.1 h
      refine Kept.takes ⟨?_, ?_, ?_, ?_⟩ ?_
      all_goals simp [hw, Model.insert, Request.keys, Column.index, CreateVehicleDto.row]
  | driver dto =>
    refine Ends.tagged (ends_bind fun _ => ends_bind fun _ => ends_bind fun _ =>
      ends_bind fun _ => ?_)
    intro db driver db' h
    obtain ⟨-, hw⟩ := run_create_eq_ok.1 h
    refine Kept.takes ⟨?_, ?_, ?_, ?_⟩ ?_
    all_goals simp [hw, Model.insert, Request.keys, Column.index]
  | contract dto =>
    refine Ends.tagged (ends_bind fun _ => ends_bind fun _ => ends_bind fun _ => ?_)
    split
    · rename_i vehicleInput htype hvehicle
      refine ends_bind fun _ => ends_bind fun _ => ends_bind fun _ => ends_bind fun _ => ?_
      intro db contract db' h
      simp at h
      obtain ⟨db₁, h₁, -, hw⟩ := h
      refine Kept.takes ⟨?_, ?_, ?_, ?_⟩ ?_
      all_goals simp [hw, h₁, Model.insert, Request.keys, Column.index, htype, hvehicle,
        CreateContractVehicleDto.row]
    · refine ends_bind fun _ => ends_bind fun _ => ends_bind fun _ => ?_
      intro db contract db' h
      obtain ⟨-, hw⟩ := run_create_eq_ok.1 h
      have hkeys : (Request.contract dto).keys = [] := by simp only [Request.keys]
      rw [hkeys]
      exact Kept.takes_nil (by constructor <;> simp [hw, Model.insert])
  | maintenance dto =>
    refine Ends.tagged (ends_bind fun _ => ends_bind fun _ => ends_bind fun _ => ?_)
    intro db log db' h
    simp at h
    obtain ⟨db₁, h₁, ⟨-, hw⟩ | ⟨-, rfl⟩, -⟩ := h
    · exact Kept.takes_nil (by constructor <;> simp [hw, h₁, Model.insert])
    · exact Kept.takes_nil (by constructor <;> simp [h₁, Model.insert])
  | document dto =>
    refine Ends.tagged (ends_bind fun _ => ends_bind fun _ => ?_)
    intro db document db' h
    obtain ⟨-, hw⟩ := run_create_eq_ok.1 h
    exact Kept.takes_nil (by constructor <;> simp [hw, Model.insert])
  | job dto =>
    refine Ends.tagged (ends_bind fun _ => ?_)
    intro db job db' h
    obtain ⟨-, hw⟩ := run_create_eq_ok.1 h
    exact Kept.takes_nil (by constructor <;> simp [hw, Model.insert])
  | expense dto =>
    refine Ends.tagged fun db expense db' h => ?_
    obtain ⟨-, hw⟩ := run_create_eq_ok.1 h
    exact Kept.takes_nil (by constructor <;> simp [hw, Model.insert])
  | income dto =>
    refine Ends.tagged fun db income db' h => ?_
    obtain ⟨-, hw⟩ := run_create_eq_ok.1 h
    exact Kept.takes_nil (by constructor <;> simp [hw, Model.insert])
  | subscription dto =>
    refine Ends.tagged fun db subscription db' h => ?_
    obtain ⟨-, hw⟩ := run_create_eq_ok.1 h
    exact Kept.takes_nil (by constructor <;> simp [hw, Model.insert])

/-- An accepted create finds its values free and takes them. -/
theorem Request.takes_of_ok {r : Request} {env : Env} {tenantId : String} {db db' : Database}
    {created : Created} (h : (r.handler env tenantId).exec db = .ok (created, db')) :
    Takes r.keys db.toTables db'.toTables := by
  obtain ⟨t, ht, hrun⟩ := exec_eq_ok.1 h
  exact (r.ends_takes env tenantId).of_eval ht db created db' hrun

/-! ### Interleavings -/

section Interleaved

variable {ι : Type} {calls : ι → Call Request} {db : Database}

/-- The handlers of the requests. -/
def handlers (calls : ι → Call Request) (i : ι) : Query (Transaction Created) :=
  (calls i).request.handler (calls i).env (calls i).tenantId

/-- Of the requests that want one value, one is accepted at most. -/
def OneWinner (calls : ι → Call Request) (c : Config ι Database Error Created) : Prop :=
  ∀ k i j, c.accepted i = true → c.accepted j = true → k ∈ (calls i).request.keys →
    k ∈ (calls j).request.keys → i = j

/-- In a serial run the second request for a value is refused. -/
theorem oneWinner_of_serialisable {c : Config ι Database Error Created}
    (hc : c.Serialisable (handlers calls) db) : OneWinner calls c := by
  obtain ⟨log, hser, -, hlog⟩ := hc
  intro k i j hi hj hki hkj
  obtain ⟨a, ha⟩ := Config.accepted_eq_true.1 hi
  obtain ⟨b, hb⟩ := Config.accepted_eq_true.1 hj
  refine hser.eq_of_accepted (P := fun db : Database => Taken db.toTables k)
    (A := fun i => k ∈ (calls i).request.keys) (fun i a s s' hk hok => ?_) (fun i s hs => ?_)
    (fun i a s s' hk hok => ?_) hki hkj ((hlog i (some a)).2 ⟨_, ha, rfl⟩)
    ((hlog j (some b)).2 ⟨_, hb, rfl⟩)
  · exact (Request.takes_of_ok hok).taken k hk
  · refine next_induct (P := fun db : Database => Taken db.toTables k) hs fun a s' hok => ?_
    exact (Request.takes_of_ok hok).kept.taken hs
  · exact (Request.takes_of_ok hok).free k hk

/-- However the steps of the requests are interleaved, they are serialisable in
every state between two steps, such a state is one that the system also reaches
by requests executed one at a time, and of the requests that want one value of a
unique column at most one has been accepted. -/
theorem creates_serialisable [DecidableEq ι] (calls : ι → Call Request) (db : Database)
    (sched : List ι) :
    Always (Config.step (handlers calls))
      (fun c => c.Serialisable (handlers calls) db ∧ (Reachable db → Reachable c.state) ∧
        OneWinner calls c)
      sched (.init db) := by
  have hser : Always (Config.step (handlers calls)) (Config.Serialisable (handlers calls) db) sched
      (.init db) := by
    refine Config.serialisable_of_ends (R := Since) (K := fun i => (calls i).request.Free)
      (fun db => Kept.refl db.toTables) (fun _ _ _ h h' => h.trans h')
      (fun i => (calls i).request.checks _ _) (fun i => ?_) sched
    refine ((calls i).request.ends_takes _ _).mono fun t ht db a db' hrun => ?_
    obtain ⟨hkept, hfree, -⟩ := ht db a db' hrun
    exact ⟨hfree, hkept⟩
  refine hser.mono fun c hc => ⟨hc, fun hdb => ?_, oneWinner_of_serialisable hc⟩
  obtain ⟨log, hlog, -, -⟩ := hc
  let req : ι → NodeVms.Request :=
    fun i => (calls i).request.toRequest (calls i).env (calls i).tenantId
  have hreq : ∀ i, (handlers calls i).next = step (req i) :=
    fun i => (calls i).request.next_eq (calls i).env (calls i).tenantId
  exact hlog.reachable hreq hdb

/-- Two users register one email at once.  Both are told that it is free; the
store accepts one of them. -/
example :
    let calls : Fin 2 → Call Request :=
      ![⟨.sample "a" 0, "t0", .user { name := "a", email := "x", password := "p" }⟩,
        ⟨.sample "b" 0, "t0", .user { name := "b", email := "x", password := "q" }⟩]
    let db := run step [NodeVms.Sample.tenant "t"] Database.empty
    let c := run (Config.step (handlers calls)) [0, 1, 0, 1] (.init db)
    c.accepted 0 = true ∧ c.accepted 1 = false ∧ c.underWay 1 = false := by
  decide +kernel

end Interleaved

end Creates
end NodeVms
