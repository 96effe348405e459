/-
# Uniqueness checks and unique indexes

The checks of `EntityValidator` look at live rows, the unique indexes at all of
them.  A value that only a soft-deleted row carries passes the check and is
refused by the database, as an internal error instead of a conflict.  An update
to the empty string is not checked at all.
-/

import NodeVms.Integrity.Indexes
import NodeVms.System

namespace NodeVms

open Store Script Prisma

variable {α : Type} {m : Model α} {db : Database} {env : Env}

/-! ### Statements the database refuses -/

/-- A write fails at an index exactly if what it would leave breaks one. -/
theorem Prisma.run_put_eq_uniqueViolation {f : Tables → Tables} :
    (put f).run db = .error .uniqueViolation ↔ ¬(f db.toTables).Unique := by
  simp only [put, Tx.run]
  split_ifs with hu hr
  · exact ⟨False.elim, fun h => absurd hu h⟩
  · refine ⟨fun h => ?_, fun h => absurd hu h⟩
    cases h
  · exact ⟨fun _ => hu, fun _ => rfl⟩

/-- Reading a row back never does. -/
theorem Prisma.run_fetch_ne_uniqueViolation {id : String} :
    (fetch m id).run db ≠ .error .uniqueViolation := by
  simp only [fetch, Tx.run]
  split <;> (intro h; cases h)

/-- A new row fails if a value of it is taken. -/
theorem Prisma.run_create_eq_uniqueViolation {r : α} :
    (create m r).run db = .error .uniqueViolation ↔ ¬(m.insert [r] db.toTables).Unique := by
  rw [create, Tx.run_bind_eq_error, run_put_eq_uniqueViolation]
  refine or_iff_left ?_
  rintro ⟨-, db₁, -, h⟩
  exact Tx.run_pure_ne_error h

/-- A changed row likewise. -/
theorem Prisma.run_update_eq_uniqueViolation {id : String} {f : α → α} :
    (update m id f).run db = .error .uniqueViolation ↔ ¬(m.updateAt id f db.toTables).Unique := by
  rw [update, Tx.run_bind_eq_error, run_put_eq_uniqueViolation]
  refine or_iff_left ?_
  rintro ⟨-, db₁, -, h⟩
  exact run_fetch_ne_uniqueViolation h

/-! ### Generated ids -/

/-- The ids `cuid()` generates for a request are distinct, and no row has one. -/
structure NewIds (env : Env) (t : Tables) : Prop where
  injective : Function.Injective env.cuid
  tenants : ∀ r ∈ t.tenants, ∀ n, r.id ≠ env.cuid n
  users : ∀ r ∈ t.users, ∀ n, r.id ≠ env.cuid n
  userBranches : ∀ r ∈ t.userBranches, ∀ n, r.id ≠ env.cuid n
  vehicles : ∀ r ∈ t.vehicles, ∀ n, r.id ≠ env.cuid n
  drivers : ∀ r ∈ t.drivers, ∀ n, r.id ≠ env.cuid n
  contracts : ∀ r ∈ t.contracts, ∀ n, r.id ≠ env.cuid n

/-! ### The requests -/

/-- The requests that write a column with a unique index. -/
inductive UniqueWrite where
  | createUser (tenantId : String) (dto : Users.CreateUserDto)
  | registerTenant (dto : Auth.RegisterTenantDto)
  | seedSuperAdmin (dto : Auth.SeedSuperAdminDto)
  | createVehicle (tenantId : String) (dto : CreateVehicleDto)
  | createContract (tenantId : String) (dto : CreateContractDto)
  | createDriver (tenantId : String) (dto : Drivers.CreateDriverDto)
  | updateVehicle (tenantId id : String) (dto : UpdateVehicleDto)
  | updateDriver (tenantId id : String) (dto : Drivers.UpdateDriverDto)

namespace UniqueWrite

/-- All checks of the handler pass. -/
def Passes (env : Env) (db : Database) : UniqueWrite → Prop
  | createUser T dto => (Users.create env T dto).Passes db
  | registerTenant dto => (Auth.registerTenant env dto).Passes db
  | seedSuperAdmin dto => (Auth.seedSuperAdmin env dto).Passes db
  | createVehicle T dto => (Vehicles.create env T dto).Passes db
  | createContract T dto => (Contracts.create env T dto).Passes db
  | createDriver T dto => (Drivers.create env T dto).Passes db
  | updateVehicle T id dto => (Vehicles.update T id dto).Passes db
  | updateDriver T id dto => (Drivers.update T id dto).Passes db

/-- The request ends in an unhandled `P2002`. -/
def Violates (env : Env) (db : Database) : UniqueWrite → Prop
  | createUser T dto => (Users.create env T dto).exec db = .error .uniqueViolation
  | registerTenant dto => (Auth.registerTenant env dto).exec db = .error .uniqueViolation
  | seedSuperAdmin dto => (Auth.seedSuperAdmin env dto).exec db = .error .uniqueViolation
  | createVehicle T dto => (Vehicles.create env T dto).exec db = .error .uniqueViolation
  | createContract T dto => (Contracts.create env T dto).exec db = .error .uniqueViolation
  | createDriver T dto => (Drivers.create env T dto).exec db = .error .uniqueViolation
  | updateVehicle T id dto => (Vehicles.update T id dto).exec db = .error .uniqueViolation
  | updateDriver T id dto => (Drivers.update T id dto).exec db = .error .uniqueViolation

/-- A soft-deleted row of the table has the value `k` in the column. -/
def Removed {α : Type} (rows : List α) (deletedAt : α → Option Time) (col : α → Option String)
    (k : String) : Prop :=
  ∃ r ∈ rows, deletedAt r ≠ none ∧ col r = some k

/-- A row other than `id` has the value `k` in the column, and the check of an
update does not see it: the row is soft-deleted, or the value empty. -/
def Unseen {α : Type} (rows : List α) (key : α → Cuid) (deletedAt : α → Option Time)
    (col : α → String) (id k : String) : Prop :=
  ∃ r ∈ rows, (key r).val ≠ id ∧ col r = k ∧ (deletedAt r ≠ none ∨ k = "")

instance {α : Type} (rows : List α) (deletedAt : α → Option Time) (col : α → Option String)
    (k : String) : Decidable (Removed rows deletedAt col k) := by
  unfold Removed; infer_instance

/-- The request writes a value that another row carries out of the sight of the
check. -/
def Hidden (t : Tables) : UniqueWrite → Prop
  | createUser _ dto => Removed t.users User.deletedAt (some ·.email) dto.email
  | registerTenant dto => Removed t.users User.deletedAt (some ·.email) dto.email
  | seedSuperAdmin dto => Removed t.users User.deletedAt (some ·.email) dto.email
  | createVehicle _ dto =>
    Removed t.vehicles Vehicle.deletedAt (some ·.registrationNo) dto.registrationNo
  | createContract _ dto => dto.type = .vehicleSource ∧ ∃ vehicle, dto.vehicle = .value vehicle ∧
    Removed t.vehicles Vehicle.deletedAt (some ·.registrationNo) vehicle.registrationNo
  | createDriver _ dto =>
    Removed t.drivers Driver.deletedAt (some ·.phone) dto.phone ∨
      Removed t.drivers Driver.deletedAt (some ·.licenseNo) dto.licenseNo ∨
      ∃ userId, dto.userId = .value userId ∧
        Removed t.drivers Driver.deletedAt Driver.userId userId
  | updateVehicle _ id dto => ∃ k, dto.registrationNo = .value k ∧
    Unseen t.vehicles Vehicle.id Vehicle.deletedAt Vehicle.registrationNo id k
  | updateDriver _ id dto =>
    (∃ k, dto.phone = .value k ∧ Unseen t.drivers Driver.id Driver.deletedAt Driver.phone id k) ∨
      ∃ k, dto.licenseNo = .value k ∧
        Unseen t.drivers Driver.id Driver.deletedAt Driver.licenseNo id k

end UniqueWrite

/-! ### What the checks see -/

section Checks

open Validator UniqueWrite

variable {k : String} {excludeId : Option String} {u : Unit}

/-- Where no row is excluded none is. -/
theorem notExcluded_none (id : Cuid) : notExcluded none id := by
  intro x hx
  exact nomatch hx

/-- The row that is excluded is the one with the id. -/
theorem not_notExcluded_some {id : Cuid} {x : String} : ¬notExcluded (some x) id ↔ id.val = x := by
  unfold notExcluded
  have hx : x = "" → id.val ≠ x := by
    rintro rfl
    exact id.ne_empty
  by_cases hid : id.val = x
  · have hne : x ≠ "" := fun h => hx h hid
    simp [nonEmpty_eq_some, hid, hne]
  · simp [nonEmpty_eq_some, hid]

/-- With no row excluded the value is in no live row. -/
theorem eval_assertUnique_none_eq_ok {κ : Type} [DecidableEq κ] {m : Model α}
    {deletedAt : α → Option Time} {column : α → κ} {value : κ} {message : String} :
    (assertUnique m deletedAt column value none message).eval db = .ok u ↔
      ∀ r ∈ m.rows db.toTables, column r = value → deletedAt r ≠ none :=
  eval_assertUnique_eq_ok.trans (forall₃_congr fun _ _ _ =>
    imp_congr_right fun _ => iff_of_false (not_not_intro (notExcluded_none _)) id)

/-- An email that passes is a removed user's or nobody's. -/
theorem eval_assertEmailUnique_eq_ok :
    (assertEmailUnique k).eval db = .ok u ↔
      ∀ r ∈ db.users, r.email = k → r.deletedAt ≠ none :=
  eval_assertUnique_none_eq_ok

/-- A registration number that passes is on no live vehicle but the excluded one. -/
theorem eval_assertRegistrationUnique_eq_ok :
    (assertRegistrationUnique k excludeId).eval db = .ok u ↔
      ∀ r ∈ db.vehicles, r.registrationNo = k → r.deletedAt = none →
        ¬notExcluded excludeId r.id :=
  eval_assertUnique_eq_ok

/-- A phone number that passes is on no live driver but the excluded one. -/
theorem eval_assertPhoneUnique_eq_ok :
    (assertPhoneUnique k excludeId).eval db = .ok u ↔
      ∀ r ∈ db.drivers, r.phone = k → r.deletedAt = none → ¬notExcluded excludeId r.id :=
  eval_assertUnique_eq_ok

/-- A licence number likewise. -/
theorem eval_assertLicenseUnique_eq_ok :
    (assertLicenseUnique k excludeId).eval db = .ok u ↔
      ∀ r ∈ db.drivers, r.licenseNo = k → r.deletedAt = none → ¬notExcluded excludeId r.id :=
  eval_assertUnique_eq_ok

/-- A user who passes is linked to no live driver. -/
theorem eval_assertUserNotAlreadyDriver_eq_ok :
    (assertUserNotAlreadyDriver k).eval db = .ok u ↔
      ∀ r ∈ db.drivers, r.userId = some k → r.deletedAt ≠ none :=
  eval_assertUnique_none_eq_ok

/-- A value that has passed the check of a new row is a removed row's or nobody's. -/
theorem removed_iff {rows : List α} {deletedAt : α → Option Time} {col : α → Option String}
    (h : ∀ r ∈ rows, col r = some k → deletedAt r ≠ none) :
    Removed rows deletedAt col k ↔ ∃ r ∈ rows, col r = some k := by
  constructor
  · rintro ⟨r, hr, -, hk⟩
    exact ⟨r, hr, hk⟩
  · rintro ⟨r, hr, hk⟩
    exact ⟨r, hr, h r hr hk, hk⟩

/-- The new value of a column that an update has checked against the other live
rows, unless it is empty or the old one. -/
theorem unseen_iff {rows : List α} {key : α → Cuid} {deletedAt : α → Option Time}
    {col : α → String} {id : String} {o : α} {f : Field String}
    (hold : ∀ r ∈ rows, (key r).val ≠ id → col r ≠ col o)
    (h : ∀ k, f = .value k → k ≠ "" → k ≠ col o → ∀ r ∈ rows, col r = k → deletedAt r = none →
      (key r).val = id) :
    (∃ k, f = .value k ∧ Unseen rows key deletedAt col id k) ↔
      ∃ r ∈ rows, (key r).val ≠ id ∧ col r = f.set (col o) := by
  constructor
  · rintro ⟨k, rfl, r, hr, hid, hk, -⟩
    exact ⟨r, hr, hid, hk⟩
  · rintro ⟨r, hr, hid, hk⟩
    cases f with
    | undefined => exact absurd hk (hold r hr hid)
    | null => exact absurd hk (hold r hr hid)
    | value k =>
      refine ⟨k, rfl, r, hr, hid, hk, ?_⟩
      by_cases hempty : k = ""
      · exact .inr hempty
      · have hchanged : k ≠ col o := fun hko => hold r hr hid (hk.trans hko)
        exact .inl fun hd => hid (h k rfl hempty hchanged r hr hk hd)

end Checks

/-! ### What the indexes see -/

section Inserts

/-- A new user fits if the email is nobody's. -/
theorem unique_insert_user {r : User} (hid : ∀ a ∈ db.users, a.id ≠ r.id) :
    (Model.user.insert [r] db.toTables).Unique ↔ ∀ a ∈ db.users, a.email ≠ r.email := by
  rw [Schema.user_indexed.unique_insert_singleton_iff]
  simp only [List.forall_mem_cons, List.not_mem_nil, false_implies, implies_true, and_true,
    sameKey_some, List.singleton_inj, Model.user_rows]
  exact and_iff_right fun a ha h => hid a ha (Cuid.val_injective h)

/-- A new vehicle fits if the registration number is on no other. -/
theorem unique_insert_vehicle {r : Vehicle} (hid : ∀ a ∈ db.vehicles, a.id ≠ r.id) :
    (Model.vehicle.insert [r] db.toTables).Unique ↔
      ∀ a ∈ db.vehicles, a.registrationNo ≠ r.registrationNo := by
  rw [Schema.vehicle_indexed.unique_insert_singleton_iff]
  simp only [List.forall_mem_cons, List.not_mem_nil, false_implies, implies_true, and_true,
    sameKey_some, List.singleton_inj, Model.vehicle_rows]
  exact and_iff_right fun a ha h => hid a ha (Cuid.val_injective h)

/-- A new driver fits if account, phone and licence are no other's. -/
theorem unique_insert_driver {r : Driver} (hid : ∀ a ∈ db.drivers, a.id ≠ r.id) :
    (Model.driver.insert [r] db.toTables).Unique ↔
      (∀ a ∈ db.drivers, ¬∃ k, a.userId = some k ∧ r.userId = some k) ∧
      (∀ a ∈ db.drivers, a.phone ≠ r.phone) ∧ ∀ a ∈ db.drivers, a.licenseNo ≠ r.licenseNo := by
  rw [Schema.driver_indexed.unique_insert_singleton_iff]
  simp only [List.forall_mem_cons, List.not_mem_nil, false_implies, implies_true, and_true,
    sameKey_some, sameKey_map, List.singleton_inj, Model.driver_rows]
  exact and_iff_right fun a ha h => hid a ha (Cuid.val_injective h)

/-- A changed vehicle fits if its number is on no other. -/
theorem unique_update_vehicle {f : Vehicle → Vehicle} {v : Vehicle} {id : String}
    (hv : v ∈ db.vehicles) (hid : v.id.val = id) (hf : ∀ a, (f a).id = a.id) :
    (Model.vehicle.updateAt id f db.toTables).Unique ↔
      ∀ a ∈ db.vehicles, a.id.val ≠ id → a.registrationNo ≠ (f v).registrationNo := by
  rw [Schema.vehicle_indexed.unique_updateAt_iff hv hid hf]
  simp only [List.forall_mem_cons, List.not_mem_nil, false_implies, implies_true, and_true,
    sameKey_some, List.singleton_inj, Model.vehicle_rows, Model.vehicle_id]
  refine and_iff_right fun a _ hne h => hne ?_
  rw [h, hf, hid]

/-- A changed driver fits if phone and licence are no other's. -/
theorem unique_update_driver {f : Driver → Driver} {d : Driver} {id : String}
    (hd : d ∈ db.drivers) (hid : d.id.val = id) (hf : ∀ a, (f a).id = a.id)
    (huser : (f d).userId = d.userId) :
    (Model.driver.updateAt id f db.toTables).Unique ↔
      (∀ a ∈ db.drivers, a.id.val ≠ id → a.phone ≠ (f d).phone) ∧
        ∀ a ∈ db.drivers, a.id.val ≠ id → a.licenseNo ≠ (f d).licenseNo := by
  rw [Schema.driver_indexed.unique_updateAt_iff hd hid hf]
  simp only [List.forall_mem_cons, List.not_mem_nil, false_implies, implies_true, and_true,
    sameKey_some, sameKey_map, List.singleton_inj, Model.driver_rows, Model.driver_id]
  have hkey : ∀ a ∈ db.drivers, a.id.val ≠ id → ¬a.id.val = (f d).id.val := by
    intro a _ hne h
    rw [hf, hid] at h
    exact hne h
  have hlink : ∀ a ∈ db.drivers, a.id.val ≠ id →
      ¬∃ k, a.userId = some k ∧ (f d).userId = some k := by
    rintro a ha hne ⟨k, hak, hfk⟩
    rw [huser] at hfk
    exact hne ((db.driver_eq_of_userId ha hd hak hfk) ▸ hid)
  exact (and_iff_right hkey).trans (and_iff_right hlink)

/-- A new tenant refers to nothing. -/
theorem resolved_insert_tenant (r : Tenant) : (Model.tenant.insert [r] db.toTables).Resolved :=
  Schema.tenant_refers.resolved_insert fun _ hp => absurd hp List.not_mem_nil

end Inserts

/-! ### New users -/

section Users

open UniqueWrite

/-- A list without repetitions has none. -/
theorem nodup_eraseDups (l : List String) : l.eraseDups.Nodup := by
  induction h : l.length using Nat.strong_induction_on generalizing l with
  | _ n ih =>
    cases l with
    | nil => exact List.nodup_nil
    | cons a l =>
      rw [List.eraseDups_cons, List.nodup_cons, List.mem_eraseDups]
      have hlt : (l.filter fun b => !b == a).length < n := by
        have hle := List.length_filter_le (fun b => !b == a) l
        rw [List.length_cons] at h
        omega
      exact ⟨by simp, ih _ hlt _ rfl⟩

/-- The memberships of a user who has none repeat no key. -/
theorem unique_insert_membershipRows (hinj : Function.Injective env.cuid)
    (hnew : ∀ m ∈ db.userBranches, ∀ n, m.id ≠ env.cuid n) {T userId : String}
    (hnone : ∀ m ∈ db.userBranches, m.userId ≠ userId) {branchIds : List String}
    (hnodup : branchIds.Nodup) :
    (Model.userBranch.insert (Users.membershipRows env T userId branchIds) db.toTables).Unique := by
  have hmem : ∀ r ∈ Users.membershipRows env T userId branchIds,
      r.userId = userId ∧ ∃ i, r.id = env.cuid i := by
    intro r hr
    obtain ⟨i, hi, rfl⟩ := List.mem_mapIdx.1 hr
    exact ⟨rfl, i + 1, rfl⟩
  rw [Schema.userBranch_indexed.unique_insert_iff]
  simp only [List.forall_mem_cons, List.not_mem_nil, false_implies, implies_true, and_true,
    sameKey_some, Model.userBranch_rows, List.filterMap_eq_map']
  refine ⟨⟨?_, fun a ha r hr h => ?_⟩, ?_, fun a ha r hr h => ?_⟩
  · have hids : (Users.membershipRows env T userId branchIds).map (fun b => [b.id.val]) =
        (branchIds.zipIdx.map Prod.snd).map fun i => [(env.cuid (i + 1)).val] := by
      rw [Users.membershipRows, List.mapIdx_eq_zipIdx_map, List.map_map, List.map_map]
      rfl
    rw [hids, List.zipIdx_map_snd]
    refine List.Nodup.map (fun i j hij => ?_) (List.nodup_range' ..)
    have hcuid := hinj (Cuid.val_injective (List.singleton_inj.1 hij))
    omega
  · obtain ⟨-, i, hi⟩ := hmem r hr
    exact hnew a ha i ((Cuid.val_injective (List.singleton_inj.1 h)).trans hi)
  · have hpairs : (Users.membershipRows env T userId branchIds).map
        (fun b => [b.userId, b.branchId]) =
          (branchIds.zipIdx.map Prod.fst).map fun k => [userId, k] := by
      rw [Users.membershipRows, List.mapIdx_eq_zipIdx_map, List.map_map, List.map_map]
      rfl
    rw [hpairs, List.zipIdx_map_fst]
    exact hnodup.map fun i j hij => (List.cons.inj (List.cons.inj hij).2).1
  · obtain ⟨hru, -⟩ := hmem r hr
    exact hnone a ha ((List.cons.inj h).1.trans hru)

/-- A new user has no memberships: an old one names an old user. -/
theorem userId_ne_of_new {k : String} (hk : ∀ u ∈ db.users, u.id.val ≠ k) :
    ∀ m ∈ db.userBranches, m.userId ≠ k := by
  intro m hm hmk
  obtain ⟨u, hu, huid⟩ := db.exists_of_fkey Schema.userBranch_userId_fkey hm rfl
  exact hk u hu (huid.trans hmk)

/-- The memberships of the user that has just been inserted. -/
theorem unique_insert_memberships_of_new (hids : NewIds env db.toTables) {db₁ : Database}
    {T : String} {user : User} (hid : user.id = env.cuid 0) {branchIds : List String}
    (hnodup : branchIds.Nodup) (hw : db₁.toTables = Model.user.insert [user] db.toTables) :
    (Model.userBranch.insert (Users.membershipRows env T user.id branchIds)
      db₁.toTables).Unique := by
  have hrows : db₁.userBranches = db.userBranches := by rw [hw]; rfl
  refine unique_insert_membershipRows hids.injective ?_ ?_ hnodup
  · rw [hrows]
    exact hids.userBranches
  · rw [hrows]
    refine userId_ne_of_new fun u hu h => hids.users u hu 0 ?_
    exact (Cuid.val_injective h).trans hid

/-- No other row carries `k`, or some does. -/
theorem not_forall_other_iff {rows : List α} {key : α → Cuid} {col : α → String} {id k : String} :
    (¬∀ a ∈ rows, (key a).val ≠ id → col a ≠ k) ↔ ∃ r ∈ rows, (key r).val ≠ id ∧ col r = k := by
  simp

/-- No row carries `k`, or some does. -/
theorem not_forall_ne_iff {rows : List α} {col : α → String} {k : String} :
    (¬∀ a ∈ rows, col a ≠ k) ↔ ∃ r ∈ rows, some (col r) = some k := by
  simp

/-- A checked user fails exactly if a removed one has the email. -/
theorem createUser_violates_iff (hids : NewIds env db.toTables) {T : String}
    {dto : Users.CreateUserDto} (hp : (Users.create env T dto).Passes db) :
    (Users.create env T dto).exec db = .error .uniqueViolation ↔
      Removed db.users User.deletedAt (some ·.email) dto.email := by
  obtain ⟨t, ht⟩ := hp
  rw [exec_of_eval ht]
  simp only [Users.create, eval_bind_eq_ok, eval_assertEmailUnique_eq_ok, eval_commit_eq_ok] at ht
  obtain ⟨-, -, -, hemail, -, -, -, -, rfl⟩ := ht
  have hnew : ∀ a ∈ db.users, a.id ≠ env.cuid 0 := fun a ha => hids.users a ha 0
  rw [removed_iff fun r hr hk => hemail r hr (Option.some.inj hk), Tx.run_bind_eq_error,
    run_create_eq_uniqueViolation, unique_insert_user hnew]
  refine (or_iff_left ?_).trans not_forall_ne_iff
  -- the memberships cannot fail
  rintro ⟨user, db₁, hok, herr⟩
  obtain ⟨rfl, hw⟩ := run_create_eq_ok.1 hok
  rw [Tx.run_bind_eq_error, Tx.run_when_eq_error] at herr
  rcases herr with ⟨-, herr⟩ | ⟨-, db₂, -, herr⟩
  · exact run_put_eq_uniqueViolation.1 herr
      (unique_insert_memberships_of_new hids rfl (nodup_eraseDups _) hw)
  · exact Tx.run_pure_ne_error herr

/-- A company fails exactly if its first user does. -/
theorem createTenantWith_violates_iff (hids : NewIds env db.toTables) {tenant : Tenant}
    {user : User} (htenant : tenant.id = env.cuid 0) (huser : user.id = env.cuid 1) :
    (Auth.createTenantWith tenant user).run db = .error .uniqueViolation ↔
      ∃ r ∈ db.users, some r.email = some user.email := by
  have hnew : ∀ a ∈ db.tenants, a.id ≠ tenant.id := fun a ha => htenant ▸ hids.tenants a ha 0
  have hunique : (Model.tenant.insert [tenant] db.toTables).Unique :=
    Schema.tenant_indexed.unique_insert_of_id hnew
  obtain ⟨db₁, hw⟩ : ∃ db₁ : Database,
      db₁.toTables = Model.tenant.insert [tenant] db.toTables :=
    ⟨⟨_, hunique, resolved_insert_tenant tenant⟩, rfl⟩
  have husers : db₁.users = db.users := by rw [hw]; rfl
  have hnew : ∀ a ∈ db₁.users, a.id ≠ user.id := by
    rw [husers, huser]
    exact fun a ha => hids.users a ha 1
  have huser' : (create .user user).run db₁ = .error .uniqueViolation ↔
      ∃ r ∈ db.users, some r.email = some user.email := by
    rw [run_create_eq_uniqueViolation, unique_insert_user hnew, husers, not_forall_ne_iff]
  rw [Auth.createTenantWith, Tx.run_bind_eq_error, run_create_eq_uniqueViolation, ← huser']
  constructor
  · rintro (h | ⟨_, db₂, hok, h⟩)
    · exact absurd hunique h
    · obtain ⟨-, hw₂⟩ := run_create_eq_ok.1 hok
      rwa [Database.ext (hw.trans hw₂.symm)]
  · exact fun h => .inr ⟨tenant, db₁, run_create_eq_ok.2 ⟨rfl, hw⟩, h⟩

/-- A checked registration fails exactly if a removed user has the email. -/
theorem registerTenant_violates_iff (hids : NewIds env db.toTables) {dto : Auth.RegisterTenantDto}
    (hp : (Auth.registerTenant env dto).Passes db) :
    (Auth.registerTenant env dto).exec db = .error .uniqueViolation ↔
      Removed db.users User.deletedAt (some ·.email) dto.email := by
  obtain ⟨t, ht⟩ := hp
  rw [exec_of_eval ht]
  simp only [Auth.registerTenant, eval_bind_eq_ok, eval_assertEmailUnique_eq_ok,
    eval_commit_eq_ok] at ht
  obtain ⟨-, hemail, rfl⟩ := ht
  rw [removed_iff fun r hr hk => hemail r hr (Option.some.inj hk)]
  exact createTenantWith_violates_iff hids rfl rfl

/-- So does the seeding of the super admin. -/
theorem seedSuperAdmin_violates_iff (hids : NewIds env db.toTables) {dto : Auth.SeedSuperAdminDto}
    (hp : (Auth.seedSuperAdmin env dto).Passes db) :
    (Auth.seedSuperAdmin env dto).exec db = .error .uniqueViolation ↔
      Removed db.users User.deletedAt (some ·.email) dto.email := by
  obtain ⟨t, ht⟩ := hp
  rw [exec_of_eval ht]
  simp only [Auth.seedSuperAdmin, eval_bind_eq_ok, eval_assertEmailUnique_eq_ok,
    eval_commit_eq_ok] at ht
  obtain ⟨-, -, -, -, -, -, -, hemail, rfl⟩ := ht
  rw [removed_iff fun r hr hk => hemail r hr (Option.some.inj hk)]
  exact createTenantWith_violates_iff hids rfl rfl

end Users

/-! ### New and changed vehicles -/

section Vehicles

open UniqueWrite

/-- A vehicle and its contract: the contract has a new id. -/
theorem createBoth_violates_iff (hids : NewIds env db.toTables) {vehicle : Vehicle}
    {β : Type} {rest : Vehicle → Transaction β} (hid : vehicle.id = env.cuid 0)
    (hrest : ∀ db₁ : Database, db₁.contracts = db.contracts →
      (rest vehicle).run db₁ ≠ .error .uniqueViolation) :
    (create .vehicle vehicle >>= rest).run db = .error .uniqueViolation ↔
      ∃ r ∈ db.vehicles, some r.registrationNo = some vehicle.registrationNo := by
  have hnew : ∀ a ∈ db.vehicles, a.id ≠ vehicle.id := by
    rw [hid]
    exact fun a ha => hids.vehicles a ha 0
  rw [Tx.run_bind_eq_error, run_create_eq_uniqueViolation, unique_insert_vehicle hnew,
    not_forall_ne_iff]
  refine or_iff_left ?_
  rintro ⟨_, db₁, hok, herr⟩
  obtain ⟨rfl, hw⟩ := run_create_eq_ok.1 hok
  exact hrest db₁ (by rw [hw]; rfl) herr

/-- A checked vehicle fails exactly if a removed one has the number. -/
theorem createVehicle_violates_iff (hids : NewIds env db.toTables) {T : String}
    {dto : CreateVehicleDto} (hp : (Vehicles.create env T dto).Passes db) :
    (Vehicles.create env T dto).exec db = .error .uniqueViolation ↔
      Removed db.vehicles Vehicle.deletedAt (some ·.registrationNo) dto.registrationNo := by
  obtain ⟨t, ht⟩ := hp
  rw [exec_of_eval ht]
  simp only [Vehicles.create, eval_bind_eq_ok, eval_assertRegistrationUnique_eq_ok,
    eval_ite_eq_ok, eval_commit_eq_ok] at ht
  obtain ⟨-, hreg, -, -, ht⟩ := ht
  have hcheck : ∀ r ∈ db.vehicles, some r.registrationNo = some dto.registrationNo →
      r.deletedAt ≠ none := by
    intro r hr hk hd
    exact hreg r hr (Option.some.inj hk) hd (notExcluded_none _)
  rw [removed_iff hcheck]
  rcases ht with ⟨-, contract, -, -, -, fitness, -, taxToken, -, start, -, end', -, rfl⟩ |
    ⟨-, fitness, -, taxToken, -, rfl⟩
  · refine createBoth_violates_iff hids rfl fun db₁ hcontracts => ?_
    rw [Ne, Tx.run_bind_eq_error, run_create_eq_uniqueViolation]
    rintro (h | ⟨-, db₂, -, h⟩)
    · refine h (Schema.contract_indexed.unique_insert_of_id fun a ha => ?_)
      have ha : a ∈ db.contracts := hcontracts ▸ ha
      exact hids.contracts a ha 1
    · exact Tx.run_pure_ne_error h
  · have hnew : ∀ a ∈ db.vehicles, a.id ≠ env.cuid 0 := fun a ha => hids.vehicles a ha 0
    rw [run_create_eq_uniqueViolation, unique_insert_vehicle hnew]
    exact not_forall_ne_iff

/-- A checked contract fails exactly if it brings a vehicle with such a number. -/
theorem createContract_violates_iff (hids : NewIds env db.toTables) {T : String}
    {dto : CreateContractDto} (hp : (Contracts.create env T dto).Passes db) :
    (Contracts.create env T dto).exec db = .error .uniqueViolation ↔
      dto.type = .vehicleSource ∧ ∃ vehicle, dto.vehicle = .value vehicle ∧
        Removed db.vehicles Vehicle.deletedAt (some ·.registrationNo)
          vehicle.registrationNo := by
  obtain ⟨t, ht⟩ := hp
  rw [exec_of_eval ht]
  simp only [Contracts.create, eval_bind_eq_ok] at ht
  obtain ⟨-, -, -, -, -, -, ht⟩ := ht
  split at ht
  · rename_i vehicleInput htype hvehicle
    simp only [Contracts.createWith, eval_bind_eq_ok, eval_assertRegistrationUnique_eq_ok,
      eval_commit_eq_ok] at ht
    obtain ⟨-, hreg, -, -, start, -, end', -, rfl⟩ := ht
    have hcheck : ∀ r ∈ db.vehicles, some r.registrationNo = some vehicleInput.registrationNo →
        r.deletedAt ≠ none := by
      intro r hr hk hd
      exact hreg r hr (Option.some.inj hk) hd (notExcluded_none _)
    have hboth : (create .vehicle (vehicleInput.row env T) >>= fun vehicle =>
        create .contract (dto.row (env.cuid 1) T start end' (some vehicle.id))).run db =
          .error .uniqueViolation ↔
        ∃ r ∈ db.vehicles, some r.registrationNo = some vehicleInput.registrationNo := by
      refine createBoth_violates_iff hids rfl fun db₁ hcontracts h => ?_
      refine run_create_eq_uniqueViolation.1 h
        (Schema.contract_indexed.unique_insert_of_id fun a ha => ?_)
      have ha : a ∈ db.contracts := hcontracts ▸ ha
      exact hids.contracts a ha 1
    rw [hboth, ← removed_iff hcheck]
    constructor
    · exact fun h => ⟨htype, vehicleInput, Field.nullish_eq_some.1 hvehicle, h⟩
    · rintro ⟨-, vehicle, hv, h⟩
      rw [hv] at hvehicle
      rwa [← Option.some.inj hvehicle]
  · rename_i hother
    simp only [Contracts.createFor, eval_bind_eq_ok, eval_commit_eq_ok] at ht
    obtain ⟨-, -, start, -, end', -, rfl⟩ := ht
    rw [run_create_eq_uniqueViolation]
    constructor
    · refine fun h => absurd (Schema.contract_indexed.unique_insert_of_id fun a ha => ?_) h
      exact hids.contracts a ha 0
    · rintro ⟨htype, vehicle, hv, -⟩
      exact absurd (Field.nullish_eq_some.2 hv) (hother vehicle htype)

/-- An update fails exactly if it sets a number the check does not see on another vehicle. -/
theorem updateVehicle_violates_iff {T id : String} {dto : UpdateVehicleDto}
    (hp : (Vehicles.update T id dto).Passes db) :
    (Vehicles.update T id dto).exec db = .error .uniqueViolation ↔
      ∃ k, dto.registrationNo = .value k ∧
        Unseen db.vehicles Vehicle.id Vehicle.deletedAt Vehicle.registrationNo id k := by
  obtain ⟨t, ht⟩ := hp
  rw [exec_of_eval ht]
  simp only [Vehicles.update, eval_bind_eq_ok, eval_findVehicle_eq_ok, eval_whenSome_eq_ok,
    eval_when_eq_ok, eval_assertRegistrationUnique_eq_ok, eval_commit_eq_ok] at ht
  obtain ⟨v, ⟨hv, hid, -, -⟩, -, hreg, -, -, -, -, -, -, -, -, -, -, -, -, -, -, fitness, -,
    taxToken, -, rfl⟩ := ht
  have hold : ∀ r ∈ db.vehicles, r.id.val ≠ id → r.registrationNo ≠ v.registrationNo := by
    intro r hr hne hk
    have hcol : SameKey (fun v : Vehicle => some [v.registrationNo]) r v :=
      sameKey_some.2 (List.singleton_inj.2 hk)
    exact hne ((Schema.vehicle_indexed.eq_of_sameKey (by simp) hr hv hcol) ▸ hid)
  have hcheck : ∀ k, dto.registrationNo = .value k → k ≠ "" → k ≠ v.registrationNo →
      ∀ r ∈ db.vehicles, r.registrationNo = k → r.deletedAt = none → r.id.val = id := by
    intro k hk hne hchanged r hr hrk hd
    exact not_notExcluded_some.1 (hreg k (Field.truthy_eq_some.2 ⟨hk, hne⟩) hchanged r hr hrk hd)
  have hunique := unique_update_vehicle (f := dto.apply fitness taxToken) hv hid fun _ => rfl
  rw [run_update_eq_uniqueViolation, unseen_iff hold hcheck, hunique]
  exact not_forall_other_iff

end Vehicles

/-! ### New and changed drivers -/

section Drivers

open UniqueWrite

/-- A checked driver fails if a removed one has the account, the phone or the licence. -/
theorem createDriver_violates_iff (hids : NewIds env db.toTables) {T : String}
    {dto : Drivers.CreateDriverDto} (hp : (Drivers.create env T dto).Passes db) :
    (Drivers.create env T dto).exec db = .error .uniqueViolation ↔
      Removed db.drivers Driver.deletedAt (some ·.phone) dto.phone ∨
        Removed db.drivers Driver.deletedAt (some ·.licenseNo) dto.licenseNo ∨
        ∃ userId, dto.userId = .value userId ∧
          Removed db.drivers Driver.deletedAt Driver.userId userId := by
  obtain ⟨t, ht⟩ := hp
  rw [exec_of_eval ht]
  simp only [Drivers.create, eval_bind_eq_ok, eval_whenSome_eq_ok, eval_assertPhoneUnique_eq_ok,
    eval_assertLicenseUnique_eq_ok, eval_assertUserNotAlreadyDriver_eq_ok,
    eval_commit_eq_ok] at ht
  obtain ⟨-, hphone, -, hlicense, -, huser, -, -, rfl⟩ := ht
  have hphone' : ∀ r ∈ db.drivers, some r.phone = some dto.phone → r.deletedAt ≠ none :=
    fun r hr hk hd => hphone r hr (Option.some.inj hk) hd (notExcluded_none _)
  have hlicense' : ∀ r ∈ db.drivers, some r.licenseNo = some dto.licenseNo → r.deletedAt ≠ none :=
    fun r hr hk hd => hlicense r hr (Option.some.inj hk) hd (notExcluded_none _)
  -- no account has an empty id
  have huser' : ∀ k, dto.userId = .value k → ∀ r ∈ db.drivers, r.userId = some k →
      r.deletedAt ≠ none := by
    intro k hk r hr hrk
    have hne : k ≠ "" := by
      rintro rfl
      exact db.ref_ne_empty Schema.driver_userId_fkey hr hrk
    obtain ⟨-, -, hcheck⟩ := huser k (Field.truthy_eq_some.2 ⟨hk, hne⟩)
    exact hcheck r hr hrk
  have hnew : ∀ a ∈ db.drivers, a.id ≠ env.cuid 0 := fun a ha => hids.drivers a ha 0
  have husers : (∃ userId, dto.userId = .value userId ∧
      Removed db.drivers Driver.deletedAt Driver.userId userId) ↔
        ¬∀ a ∈ db.drivers, ¬∃ k, a.userId = some k ∧ dto.userId.nullish = some k := by
    constructor
    · rintro ⟨k, hk, r, hr, -, hrk⟩ h
      exact h r hr ⟨k, hrk, Field.nullish_eq_some.2 hk⟩
    · intro h
      simp only [not_forall, not_not] at h
      obtain ⟨r, hr, k, hrk, hk⟩ := h
      have hk := Field.nullish_eq_some.1 hk
      exact ⟨k, hk, r, hr, huser' k hk r hr hrk, hrk⟩
  rw [run_create_eq_uniqueViolation, unique_insert_driver hnew, removed_iff hphone',
    removed_iff hlicense', husers, ← not_forall_ne_iff, ← not_forall_ne_iff]
  tauto

/-- An update fails if it sets a phone or a licence the checks do not see. -/
theorem updateDriver_violates_iff {T id : String} {dto : Drivers.UpdateDriverDto}
    (hp : (Drivers.update T id dto).Passes db) :
    (Drivers.update T id dto).exec db = .error .uniqueViolation ↔
      (∃ k, dto.phone = .value k ∧
        Unseen db.drivers Driver.id Driver.deletedAt Driver.phone id k) ∨
      ∃ k, dto.licenseNo = .value k ∧
        Unseen db.drivers Driver.id Driver.deletedAt Driver.licenseNo id k := by
  obtain ⟨t, ht⟩ := hp
  rw [exec_of_eval ht]
  simp only [Drivers.update, eval_bind_eq_ok, eval_findDriver_eq_ok, eval_whenSome_eq_ok,
    eval_when_eq_ok, eval_assertPhoneUnique_eq_ok, eval_assertLicenseUnique_eq_ok,
    eval_commit_eq_ok] at ht
  obtain ⟨d, ⟨hd, hid, -, -⟩, -, hphone, -, hlicense, -, -, -, -, -, -, -, -, -, -, -, -, rfl⟩ := ht
  have hother : ∀ {col : Driver → Option (List String)},
      col ∈ [fun d : Driver => some [d.phone], fun d => some [d.licenseNo]] →
        ∀ r ∈ db.drivers, r.id.val ≠ id → ¬SameKey col r d := by
    intro col hcol r hr hne h
    refine hne ((Schema.driver_indexed.eq_of_sameKey ?_ hr hd h) ▸ hid)
    exact List.mem_cons_of_mem _ (List.mem_cons_of_mem _ hcol)
  have hphoneOld : ∀ r ∈ db.drivers, r.id.val ≠ id → r.phone ≠ d.phone := fun r hr hne hk =>
    hother (List.mem_cons_self ..) r hr hne (sameKey_some.2 (List.singleton_inj.2 hk))
  have hlicenseOld : ∀ r ∈ db.drivers, r.id.val ≠ id → r.licenseNo ≠ d.licenseNo :=
    fun r hr hne hk => hother (List.mem_cons_of_mem _ (List.mem_cons_self ..)) r hr hne
      (sameKey_some.2 (List.singleton_inj.2 hk))
  have hphone' : ∀ k, dto.phone = .value k → k ≠ "" → k ≠ d.phone →
      ∀ r ∈ db.drivers, r.phone = k → r.deletedAt = none → r.id.val = id := by
    intro k hk hne hchanged r hr hrk hlive
    exact not_notExcluded_some.1
      (hphone k (Field.truthy_eq_some.2 ⟨hk, hne⟩) hchanged r hr hrk hlive)
  have hlicense' : ∀ k, dto.licenseNo = .value k → k ≠ "" → k ≠ d.licenseNo →
      ∀ r ∈ db.drivers, r.licenseNo = k → r.deletedAt = none → r.id.val = id := by
    intro k hk hne hchanged r hr hrk hlive
    exact not_notExcluded_some.1
      (hlicense k (Field.truthy_eq_some.2 ⟨hk, hne⟩) hchanged r hr hrk hlive)
  have hunique := unique_update_driver (f := dto.apply) hd hid (fun _ => rfl) rfl
  rw [run_update_eq_uniqueViolation, unseen_iff hphoneOld hphone',
    unseen_iff hlicenseOld hlicense', hunique, not_and_or]
  exact or_congr not_forall_other_iff not_forall_other_iff

end Drivers

/-! ### The law -/

namespace UniqueWrite

/-- Whatever the database, a request that has passed the checks violates no
unique index exactly if no row out of the sight of the checks carries a value
that it writes. -/
theorem unique_checks_complete_iff (hids : NewIds env db.toTables) (w : UniqueWrite)
    (hp : w.Passes env db) : ¬w.Violates env db ↔ ¬w.Hidden db.toTables := by
  refine not_congr ?_
  cases w with
  | createUser T dto => exact createUser_violates_iff hids hp
  | registerTenant dto => exact registerTenant_violates_iff hids hp
  | seedSuperAdmin dto => exact seedSuperAdmin_violates_iff hids hp
  | createVehicle T dto => exact createVehicle_violates_iff hids hp
  | createContract T dto => exact createContract_violates_iff hids hp
  | createDriver T dto => exact createDriver_violates_iff hids hp
  | updateVehicle T id dto => exact updateVehicle_violates_iff hp
  | updateDriver T id dto => exact updateDriver_violates_iff hp

end UniqueWrite

/-- Generated ids are `z`, `zz`, `zzz`, … -/
def Sample.unary : Env where
  now := 9
  cuid i := ⟨String.ofList ('z' :: List.replicate i 'z'), by simp⟩
  hash := id
  compare a b := a = b
  seedSecret := ""

/-- The ids are numbers written in strokes. -/
theorem Sample.unary_injective : Function.Injective Sample.unary.cuid := by
  intro i j hij
  have hlist : 'z' :: List.replicate i 'z' = 'z' :: List.replicate j 'z' :=
    String.ofList_injective (congrArg Cuid.val hij)
  simpa using congrArg List.length hlist

/-- They begin with a `z`. -/
theorem Sample.ne_unary {id : Cuid} (h : id.val.toList.head? ≠ some 'z') (n : Nat) :
    id ≠ Sample.unary.cuid n := by
  rintro rfl
  exact h (by simp [Sample.unary])

/-- They are new where no id begins with a `z`. -/
theorem Sample.newIds {t : Tables} (htenants : ∀ r ∈ t.tenants, r.id.val.toList.head? ≠ some 'z')
    (husers : ∀ r ∈ t.users, r.id.val.toList.head? ≠ some 'z')
    (hvehicles : ∀ r ∈ t.vehicles, r.id.val.toList.head? ≠ some 'z')
    (hdrivers : ∀ r ∈ t.drivers, r.id.val.toList.head? ≠ some 'z')
    (huserBranches : t.userBranches = []) (hcontracts : t.contracts = []) :
    NewIds Sample.unary t where
  injective := unary_injective
  tenants r hr := ne_unary (htenants r hr)
  users r hr := ne_unary (husers r hr)
  userBranches r hr := by rw [huserBranches] at hr; exact absurd hr List.not_mem_nil
  vehicles r hr := ne_unary (hvehicles r hr)
  drivers r hr := ne_unary (hdrivers r hr)
  contracts r hr := by rw [hcontracts] at hr; exact absurd hr List.not_mem_nil

namespace UniqueWrite

/-- `v` is taken, `x` is not. -/
theorem unique_checks_complete_new_number :
    let db := run step Sample.company Database.empty
    ¬(createVehicle "t0" { registrationNo := "x", model := "x" }).Violates Sample.unary db := by
  intro db
  have hids : NewIds Sample.unary db.toTables :=
    Sample.newIds (by decide) (by decide) (by decide) (by decide) rfl rfl
  have hp : (createVehicle "t0" { registrationNo := "x", model := "x" }).Passes Sample.unary db := by
    change (Vehicles.create Sample.unary "t0" _).Passes db
    decide
  refine (unique_checks_complete_iff hids _ hp).2 ?_
  change ¬Removed db.vehicles Vehicle.deletedAt (some ·.registrationNo) "x"
  decide

/-- `v0` is removed, and registered again. -/
theorem removed_vehicle_blocks_number :
    ¬∀ db, Reachable db → ∀ env (w : UniqueWrite), NewIds env db.toTables → w.Passes env db →
      ¬w.Violates env db := by
  intro h
  let db := run step (Sample.company ++
    [.tenant (.sample "x" 5) "t0" (.vehicles (.remove "v0"))]) Database.empty
  let dto : CreateVehicleDto := { registrationNo := "v", model := "v" }
  have hids : NewIds Sample.unary db.toTables :=
    Sample.newIds (by decide) (by decide) (by decide) (by decide) (by decide +kernel) (by decide +kernel)
  have hp : (Vehicles.create Sample.unary "t0" dto).Passes db := by decide
  have hremoved : Removed db.vehicles Vehicle.deletedAt (some ·.registrationNo) "v" := by decide
  exact h db ⟨_, rfl⟩ Sample.unary (createVehicle "t0" dto) hids hp
    ((createVehicle_violates_iff hids hp).2 hremoved)

end UniqueWrite

end NodeVms
