/-
# What a request does to accounts

`UserStep` and `TenantStep` list everything a request can do to one account or
one tenant, with the checks it has passed; `NewUser` says where new accounts
come from.  `step_users` and `step_tenants` say that the lists are complete, so
that no later module opens a service again.

`AccountsInv` is what holds of the accounts in every reachable state: an ADMIN is
active exactly when approved, and an account that is neither a driver's nor an
employee's is never removed and has its tenant to itself.
-/

import NodeVms.Frames
import NodeVms.Services.Tokens

namespace NodeVms

open Store Users

variable {db db' : Database}

/-- The ADMIN an application is decided for, and the status it gets. -/
def PlatformRequest.application? : PlatformRequest → Option (String × ApprovalStatus)
  | .approve userId => some (userId, .approved)
  | .reject userId => some (userId, .rejected)
  | .suspend userId => some (userId, .suspended)
  | .reactivate userId => some (userId, .approved)
  | _ => none

/-! ### Accounts -/

/-- What a request can do to an account. -/
inductive UserStep (r : Request) (u : User) : User → Prop
  | same : UserStep r u u
  | unbranch : UserStep r u { u with branchId := none }
  | rename {env name} (h : r = .platform env (.changeName u.id name)) : UserStep r u { u with name }
  | update {env dto currentUser}
      (h : r = .tenant env u.tenantId (.users (.update u.id dto currentUser)))
      (hm : u.role ∈ MANAGEABLE_ROLES) (hrole : dto.role.set u.role ∈ MANAGEABLE_ROLES) :
      UserStep r u (dto.apply env.hash u)
  | resetPassword {env newPassword requesterRole}
      (h : r = .tenant env u.tenantId
        (.users (.resetSubordinatePassword u.id newPassword requesterRole)))
      (hm : requesterRole = .admin → u.role ∈ MANAGEABLE_ROLES) :
      UserStep r u { u with password := env.hash newPassword }
  | remove {env currentUser} (h : r = .tenant env u.tenantId (.users (.remove u.id currentUser)))
      (hm : u.role ∈ MANAGEABLE_ROLES) : UserStep r u { u with deletedAt := some env.now }
  | decided {env pr status} (h : r = .platform env pr)
      (hpr : pr.application? = some (u.id.val, status)) (hadmin : u.role = .admin) :
      UserStep r u { u with approvalStatus := status, isActive := decide (status = .approved) }
  | resetAdminPassword {env newPassword}
      (h : r = .platform env (.resetAdminPassword u.id newPassword)) (hadmin : u.role = .admin) :
      UserStep r u { u with password := env.hash newPassword }
  | changePassword {env dto} (h : r = .platform env (.changePassword u.id dto)) :
      UserStep r u { u with password := env.hash dto.newPassword }

/-- Where a new account comes from. -/
inductive NewUser (db : Database) (r : Request) (u : User) : Prop
  | created (hm : u.role ∈ MANAGEABLE_ROLES)
  | registered {env dto} (h : r = .platform env (.registerTenant dto)) (hid : u.id = env.cuid 1)
      (hT : u.tenantId = env.cuid 0) (hfresh : ∀ v ∈ db.users, v.tenantId ≠ env.cuid 0)
      (hrole : u.role = .admin) (hstatus : u.approvalStatus = .pending)
      (hactive : u.isActive = false) (hlive : u.deletedAt = none)
  | seeded {env dto} (h : r = .platform env (.seedSuperAdmin dto)) (hid : u.id = env.cuid 1)
      (hT : u.tenantId = env.cuid 0) (hfresh : ∀ v ∈ db.users, v.tenantId ≠ env.cuid 0)
      (hrole : u.role = .superAdmin) (hlive : u.deletedAt = none)

/-- A request changes accounts as listed. -/
abbrev UsersEvolve (r : Request) (db db' : Database) : Prop :=
  Model.user.Evolves (UserStep r) (NewUser db r) db db'

variable {r : Request}

/-- An update of the account with one id. -/
theorem usersEvolve_of_updateAt {id : String} {f : User → User}
    (h : db'.users = updateWhere (fun u => u.id.val = id) f db.users)
    (hid : ∀ u, (f u).id = u.id) (hf : ∀ u ∈ db.users, u.id.val = id → UserStep r u (f u)) :
    UsersEvolve r db db' :=
  evolves_update (fun _ => .same) h fun u hu hp => ⟨hid u, hf u hu (of_decide_eq_true hp)⟩

/-- The rows with the id of a live ADMIN: itself. -/
theorem AdminApplications.LiveAdmin.role_of_id {id : String} {a u : User}
    (ha : LiveAdmin db.toTables id a) (hu : u ∈ db.users) (hid : u.id.val = id) : u = a :=
  db.eq_of_id .user hu ha.1 (hid.trans ha.2.1.symm)

/-- A decided application: the account of the ADMIN gets the status. -/
theorem usersEvolve_of_decided {env : Env} {pr : PlatformRequest} {id : String} {a : User}
    {status : ApprovalStatus} (hpr : pr.application? = some (id, status))
    (ha : AdminApplications.LiveAdmin db.toTables id a)
    (h : db'.users = updateWhere (fun u => u.id.val = id)
      (fun u => { u with approvalStatus := status, isActive := decide (status = .approved) })
      db.users) : UsersEvolve (.platform env pr) db db' := by
  refine usersEvolve_of_updateAt h (fun _ => rfl) fun u hu hid => ?_
  obtain rfl := ha.role_of_id hu hid
  exact .decided rfl (by rw [hid]; exact hpr) ha.2.2.1

/-- What requests on users do to an account. -/
theorem Users.Request.usersEvolve (rq : Users.Request) (env : Env) (T : String) (db : Database) :
    UsersEvolve (.tenant env T (.users rq)) db (rq.next env T db) := by
  cases rq with
  | create dto =>
    refine next_evolves (fun _ => .same) fun u db' h => ?_
    have hm : u.role ∈ MANAGEABLE_ROLES := create_manageable h
    obtain ⟨-, -, -, hw⟩ := create_ok h
    exact evolves_insert (fun _ => .same) (congrArg Tables.users hw) (.created hm)
  | update id dto currentUser =>
    refine next_evolves (fun _ => .same) fun _ db' h => ?_
    obtain ⟨target, ht, hid, rfl, -, hm, -, -, t, ht', hw⟩ := update_ok h
    have husers : db'.users = t.users := by
      rcases hw with ⟨-, hw⟩ | ⟨_, -, hw⟩
      · rw [hw]
      · rw [hw]; rfl
    rcases ht' with ⟨-, rfl⟩ | ⟨-, rfl⟩
    · exact evolves_same (fun _ => .same) husers
    · refine usersEvolve_of_updateAt husers (fun _ => rfl) fun u hu huid => ?_
      obtain rfl := db.eq_of_id .user hu ht (huid.trans hid.symm)
      exact .update (by rw [← hid]) hm (update_manageable h hm)
  | resetSubordinatePassword id newPassword requesterRole =>
    refine next_evolves (fun _ => .same) fun _ db' h => ?_
    obtain ⟨target, ht, hid, rfl, -, hm, hw⟩ := resetSubordinatePassword_ok h
    refine usersEvolve_of_updateAt (congrArg Tables.users hw) (fun _ => rfl) fun u hu huid => ?_
    obtain rfl := db.eq_of_id .user hu ht (huid.trans hid.symm)
    exact .resetPassword (by rw [← hid]) hm
  | remove id currentUser =>
    refine next_evolves (fun _ => .same) fun _ db' h => ?_
    obtain ⟨target, ht, hid, rfl, -, -, hm, hw⟩ := remove_ok h
    refine usersEvolve_of_updateAt (congrArg Tables.users hw) (fun _ => rfl) fun u hu huid => ?_
    obtain rfl := db.eq_of_id .user hu ht (huid.trans hid.symm)
    exact .remove (by rw [← hid]) hm

/-- Requests on branches take an account out of a branch that is closed. -/
theorem Branches.Request.usersEvolve (rq : Branches.Request) (env : Env) (T : String)
    (db : Database) : UsersEvolve (.tenant env T (.branches rq)) db (rq.next env T db) := by
  cases rq with
  | create dto =>
    refine next_evolves (fun _ => .same) fun _ db' h => ?_
    exact evolves_same (fun _ => .same) ((congrArg Tables.users (create_ok h).2.2).trans rfl)
  | update id dto =>
    refine next_evolves (fun _ => .same) fun _ db' h => ?_
    obtain ⟨_, -, -, -, -, -, hw⟩ := update_ok h
    exact evolves_same (fun _ => .same) ((congrArg Tables.users hw).trans rfl)
  | remove id =>
    refine next_evolves (fun _ => .same) fun _ db' h => ?_
    exact evolves_update (fun _ => .same) (congrArg Tables.users (remove_ok h).2)
      fun _ _ _ => ⟨rfl, .unbranch⟩

/-- The first user of a new tenant: nobody else has the tenant. -/
theorem fresh_tenant {t : Tenant} (ht : db'.tenants = db.tenants ++ [t]) :
    ∀ v ∈ db.users, v.tenantId ≠ t.id := by
  intro v hv hvt
  obtain ⟨o, ho, hid⟩ := db.hasTenant hv
  have hne : ∀ o ∈ db.tenants, o.id.val ≠ t.id.val := db'.id_ne_of_append .tenant ht
  exact hne o ho (hid.trans hvt)

/-- The platform decides on admins, and accounts change their passwords and names. -/
theorem PlatformRequest.usersEvolve (pr : PlatformRequest) (env : Env) (db : Database) :
    UsersEvolve (.platform env pr) db (pr.next env db) := by
  have hsame : Table.users ∉ pr.writes → UsersEvolve (.platform env pr) db (pr.next env db) :=
    fun h => evolves_same (fun _ => .same) (pr.same env h)
  cases pr with
  | registerTenant dto =>
    refine next_evolves (fun _ => .same) fun u db' h => ?_
    obtain ⟨rfl, hw⟩ := Auth.registerTenant_ok h
    have htenants : db'.tenants = db.tenants ++ [_] := congrArg Tables.tenants hw
    have hfresh := fresh_tenant htenants
    exact evolves_insert (fun _ => .same) (congrArg Tables.users hw)
      (.registered rfl rfl rfl hfresh rfl rfl rfl rfl)
  | seedSuperAdmin dto =>
    refine next_evolves (fun _ => .same) fun u db' h => ?_
    obtain ⟨-, -, rfl, hw⟩ := Auth.seedSuperAdmin_ok h
    have htenants : db'.tenants = db.tenants ++ [_] := congrArg Tables.tenants hw
    have hfresh := fresh_tenant htenants
    exact evolves_insert (fun _ => .same) (congrArg Tables.users hw)
      (.seeded rfl rfl rfl hfresh rfl rfl)
  | approve id =>
    refine next_evolves (fun _ => .same) fun _ db' h => ?_
    obtain ⟨a, ha, -, hw⟩ := AdminApplications.approve_ok h
    exact usersEvolve_of_decided rfl ha (congrArg Tables.users hw)
  | reject id =>
    refine next_evolves (fun _ => .same) fun _ db' h => ?_
    obtain ⟨a, ha, -, hw⟩ := AdminApplications.reject_ok h
    exact usersEvolve_of_decided rfl ha (congrArg Tables.users hw)
  | suspend id =>
    refine next_evolves (fun _ => .same) fun _ db' h => ?_
    obtain ⟨a, ha, -, hw⟩ := AdminApplications.suspend_ok h
    exact usersEvolve_of_decided rfl ha (congrArg Tables.users hw)
  | reactivate id =>
    refine next_evolves (fun _ => .same) fun _ db' h => ?_
    obtain ⟨a, ha, -, hw⟩ := AdminApplications.reactivate_ok h
    exact usersEvolve_of_decided rfl ha (congrArg Tables.users hw)
  | resetAdminPassword id newPassword =>
    refine next_evolves (fun _ => .same) fun _ db' h => ?_
    obtain ⟨⟨a, ha⟩, hw⟩ := AdminApplications.resetAdminPassword_ok h
    refine usersEvolve_of_updateAt (congrArg Tables.users hw) (fun _ => rfl) fun u hu hid => ?_
    obtain rfl := ha.role_of_id hu hid
    exact .resetAdminPassword (by rw [hid]) ha.2.2.1
  | changePassword id dto =>
    refine next_evolves (fun _ => .same) fun _ db' h => ?_
    obtain ⟨_, -, -, -, -, -, hw⟩ := Profile.changePassword_ok h
    refine usersEvolve_of_updateAt (congrArg Tables.users hw) (fun _ => rfl) fun u hu hid => ?_
    exact .changePassword (by rw [hid])
  | changeName id name =>
    refine next_evolves (fun _ => .same) fun _ db' h => ?_
    have hw := (Profile.changeName_ok h).2
    refine usersEvolve_of_updateAt (congrArg Tables.users hw) (fun _ => rfl) fun u hu hid => ?_
    exact .rename (by rw [hid])
  | _ => exact hsame (by simp [writes])

/-- What a request does to the accounts is on the list. -/
theorem step_users (r : Request) (db : Database) : UsersEvolve r db (step r db) := by
  cases r with
  | platform env pr => exact pr.usersEvolve env db
  | tenant env T rq =>
    cases rq with
    | users rq => exact rq.usersEvolve env T db
    | branches rq => exact rq.usersEvolve env T db
    | _ =>
      refine evolves_same (fun _ => .same) (@step_same db _ .users ?_)
      simp [Request.writes, TenantRequest.writes]

/-! ### Tenants -/

/-- What a request can do to a tenant. -/
inductive TenantStep (db : Database) (r : Request) (t : Tenant) : Tenant → Prop
  | same : TenantStep db r t t
  | decided {env pr a status} (h : r = .platform env pr)
      (hpr : pr.application? = some (a.id.val, status))
      (ha : AdminApplications.LiveAdmin db.toTables a.id a) (hT : a.tenantId = t.id) :
      TenantStep db r t { t with isActive := decide (status = .approved) }
  | update {env dto} (h : r = .platform env (.updateTenant t.id dto)) (hlive : t.deletedAt = none) :
      TenantStep db r t
        { t with name := dto.name.set t.name, isActive := dto.isActive.set t.isActive }
  | remove {env} (h : r = .platform env (.removeTenant t.id)) (hlive : t.deletedAt = none) :
      TenantStep db r t { t with deletedAt := some env.now, isActive := false }

/-- A request changes tenants as listed, and adds live ones only. -/
abbrev TenantsEvolve (r : Request) (db db' : Database) : Prop :=
  Model.tenant.Evolves (TenantStep db r) (·.deletedAt = none) db db'

/-- An update of the tenant with one id. -/
theorem tenantsEvolve_of_updateAt {id : String} {f : Tenant → Tenant}
    (h : db'.tenants = updateWhere (fun t => t.id.val = id) f db.tenants)
    (hid : ∀ t, (f t).id = t.id)
    (hf : ∀ t ∈ db.tenants, t.id.val = id → TenantStep db r t (f t)) : TenantsEvolve r db db' :=
  evolves_update (fun _ => .same) h fun t ht hp => ⟨hid t, hf t ht (of_decide_eq_true hp)⟩

/-- A decided application: the tenant of the ADMIN follows. -/
theorem tenantsEvolve_of_decided {env : Env} {pr : PlatformRequest} {id : String} {a : User}
    {status : ApprovalStatus} (hpr : pr.application? = some (id, status))
    (ha : AdminApplications.LiveAdmin db.toTables id a)
    (h : db'.tenants = updateWhere (fun t => t.id.val = a.tenantId)
      (fun t => { t with isActive := decide (status = .approved) }) db.tenants) :
    TenantsEvolve (.platform env pr) db db' := by
  obtain rfl := ha.2.1
  exact tenantsEvolve_of_updateAt h (fun _ => rfl) fun t _ hid => .decided rfl hpr ha hid.symm

/-- What the platform does to a tenant. -/
theorem PlatformRequest.tenantsEvolve (pr : PlatformRequest) (env : Env) (db : Database) :
    TenantsEvolve (.platform env pr) db (pr.next env db) := by
  have hsame : Table.tenants ∉ pr.writes → TenantsEvolve (.platform env pr) db (pr.next env db) :=
    fun h => evolves_same (fun _ => .same) (pr.same env h)
  cases pr with
  | registerTenant dto =>
    refine next_evolves (fun _ => .same) fun u db' h => ?_
    exact evolves_insert (fun _ => .same) (congrArg Tables.tenants (Auth.registerTenant_ok h).2) rfl
  | seedSuperAdmin dto =>
    refine next_evolves (fun _ => .same) fun u db' h => ?_
    obtain ⟨-, -, -, hw⟩ := Auth.seedSuperAdmin_ok h
    exact evolves_insert (fun _ => .same) (congrArg Tables.tenants hw) rfl
  | approve id =>
    refine next_evolves (fun _ => .same) fun _ db' h => ?_
    obtain ⟨a, ha, -, hw⟩ := AdminApplications.approve_ok h
    exact tenantsEvolve_of_decided rfl ha (congrArg Tables.tenants hw)
  | suspend id =>
    refine next_evolves (fun _ => .same) fun _ db' h => ?_
    obtain ⟨a, ha, -, hw⟩ := AdminApplications.suspend_ok h
    exact tenantsEvolve_of_decided rfl ha (congrArg Tables.tenants hw)
  | reactivate id =>
    refine next_evolves (fun _ => .same) fun _ db' h => ?_
    obtain ⟨a, ha, -, hw⟩ := AdminApplications.reactivate_ok h
    exact tenantsEvolve_of_decided rfl ha (congrArg Tables.tenants hw)
  | updateTenant id dto =>
    refine next_evolves (fun _ => .same) fun _ db' h => ?_
    obtain ⟨⟨o, ho, hoid, hlive⟩, hw⟩ := Tenants.update_ok h
    refine tenantsEvolve_of_updateAt (congrArg Tables.tenants hw) (fun _ => rfl) fun t ht hid => ?_
    obtain rfl := db.eq_of_id .tenant ht ho (hid.trans hoid.symm)
    exact .update (by rw [hid]) hlive
  | removeTenant id =>
    refine next_evolves (fun _ => .same) fun _ db' h => ?_
    obtain ⟨⟨o, ho, hoid, hlive⟩, hw⟩ := Tenants.remove_ok h
    refine tenantsEvolve_of_updateAt (congrArg Tables.tenants hw) (fun _ => rfl) fun t ht hid => ?_
    obtain rfl := db.eq_of_id .tenant ht ho (hid.trans hoid.symm)
    exact .remove (by rw [hid]) hlive
  | _ => exact hsame (by simp [writes])

/-- Only the platform writes tenants. -/
theorem TenantRequest.step_tenants (rq : TenantRequest) (env : Env) (T : String) (db : Database) :
    (step (.tenant env T rq) db).tenants = db.tenants := by
  refine @step_same db _ .tenants ?_
  cases rq <;> simp [Request.writes, TenantRequest.writes]

/-- What a request does to the tenants is on the list. -/
theorem step_tenants (r : Request) (db : Database) : TenantsEvolve r db (step r db) := by
  cases r with
  | platform env pr => exact pr.tenantsEvolve env db
  | tenant env T rq => exact evolves_same (fun _ => .same) (rq.step_tenants env T db)

/-- A new tenant gets the first id its request generates. -/
theorem step_tenant_ids (r : Request) (db : Database) :
    Model.tenant.Descends (fun _ _ => True) (fun t => t.id = r.env.cuid 0) db (step r db) := by
  cases r with
  | tenant env T rq => exact descends_same (fun _ => trivial) (rq.step_tenants env T db)
  | platform env pr =>
    have hsame : Table.tenants ∉ pr.writes → Model.tenant.Descends (fun _ _ => True)
        (fun t => t.id = env.cuid 0) db (pr.next env db) :=
      fun h => descends_same (fun _ => trivial) (pr.same env h)
    cases pr with
    | registerTenant dto =>
      refine next_descends (fun _ => trivial) fun u db' h => ?_
      have htenants := congrArg Tables.tenants (Auth.registerTenant_ok h).2
      exact descends_insert (fun _ => trivial) htenants rfl
    | seedSuperAdmin dto =>
      refine next_descends (fun _ => trivial) fun u db' h => ?_
      obtain ⟨-, -, -, hw⟩ := Auth.seedSuperAdmin_ok h
      exact descends_insert (fun _ => trivial) (congrArg Tables.tenants hw) rfl
    | approve id =>
      refine next_descends (fun _ => trivial) fun _ db' h => ?_
      obtain ⟨a, -, -, hw⟩ := AdminApplications.approve_ok h
      exact descends_update (fun _ => trivial) (congrArg Tables.tenants hw) fun _ _ _ => ⟨rfl, trivial⟩
    | suspend id =>
      refine next_descends (fun _ => trivial) fun _ db' h => ?_
      obtain ⟨a, -, -, hw⟩ := AdminApplications.suspend_ok h
      exact descends_update (fun _ => trivial) (congrArg Tables.tenants hw) fun _ _ _ => ⟨rfl, trivial⟩
    | reactivate id =>
      refine next_descends (fun _ => trivial) fun _ db' h => ?_
      obtain ⟨a, -, -, hw⟩ := AdminApplications.reactivate_ok h
      exact descends_update (fun _ => trivial) (congrArg Tables.tenants hw) fun _ _ _ => ⟨rfl, trivial⟩
    | updateTenant id dto =>
      refine next_descends (fun _ => trivial) fun _ db' h => ?_
      have htenants := congrArg Tables.tenants (Tenants.update_ok h).2
      exact descends_update (fun _ => trivial) htenants fun _ _ _ => ⟨rfl, trivial⟩
    | removeTenant id =>
      refine next_descends (fun _ => trivial) fun _ db' h => ?_
      have htenants := congrArg Tables.tenants (Tenants.remove_ok h).2
      exact descends_update (fun _ => trivial) htenants fun _ _ _ => ⟨rfl, trivial⟩
    | _ => exact hsame (by simp [PlatformRequest.writes])

/-! ### What follows from the lists -/

namespace UserStep

variable {u u' : User}

/-- An account stays with its tenant. -/
theorem tenantId_eq (h : UserStep r u u') : u'.tenantId = u.tenantId := by
  cases h <;> rfl

/-- A role only ever changes between the manageable ones. -/
theorem role_eq_or (h : UserStep r u u') :
    u'.role = u.role ∨ u.role ∈ MANAGEABLE_ROLES ∧ u'.role ∈ MANAGEABLE_ROLES := by
  cases h with
  | update h hm hrole => exact .inr ⟨hm, hrole⟩
  | _ => exact .inl rfl

/-- A role that is not managed stays what it is. -/
theorem role_eq (h : UserStep r u u') (hr : u.role ∉ MANAGEABLE_ROLES) : u'.role = u.role :=
  h.role_eq_or.resolve_right fun hm => hr hm.1

/-- An account with another role has kept it. -/
theorem eq_role (h : UserStep r u u') (hr : u'.role ∉ MANAGEABLE_ROLES) : u'.role = u.role :=
  h.role_eq_or.resolve_right fun hm => hr hm.2

/-- Only drivers and employees are removed. -/
theorem deletedAt_eq (h : UserStep r u u') (hr : u.role ∉ MANAGEABLE_ROLES) :
    u'.deletedAt = u.deletedAt := by
  cases h with
  | remove h hm => exact absurd hm hr
  | _ => rfl

/-- The flag of an ADMIN follows the application. -/
theorem active_iff (h : UserStep r u u') (hadmin : u.role = .admin)
    (hu : u.isActive = true ↔ u.approvalStatus = .approved) :
    u'.isActive = true ↔ u'.approvalStatus = .approved := by
  cases h with
  | update h hm hrole => rw [hadmin] at hm; exact absurd hm (by decide)
  | decided h hpr hadmin => exact decide_eq_true_iff
  | _ => exact hu

end UserStep

/-- What holds of the accounts in every reachable state. -/
structure AccountsInv (t : Tables) : Prop where
  admin_active : ∀ u ∈ t.users, u.role = .admin →
    (u.isActive = true ↔ u.approvalStatus = .approved)
  live : ∀ u ∈ t.users, u.role ∉ MANAGEABLE_ROLES → u.deletedAt = none
  /-- Two accounts that are neither drivers' nor employees' have different tenants. -/
  alone : ∀ u ∈ t.users, ∀ v ∈ t.users, u.role ∉ MANAGEABLE_ROLES → v.role ∉ MANAGEABLE_ROLES →
    u.tenantId = v.tenantId → u = v

namespace AccountsInv

/-- There is no account at the start. -/
theorem empty : AccountsInv Database.empty.toTables where
  admin_active _ h := nomatch h
  live _ h := nomatch h
  alone _ h := nomatch h

/-- A new account that is neither a driver's nor an employee's belongs to a new tenant. -/
theorem alone_of_new {v : User} (h : NewUser db r v) (hr : v.role ∉ MANAGEABLE_ROLES) :
    ∀ u ∈ db.users, u.tenantId ≠ v.tenantId := by
  intro u hu
  cases h with
  | created hm => exact absurd hm hr
  | registered _ _ hT hfresh => rw [hT]; exact hfresh u hu
  | seeded _ _ hT hfresh => rw [hT]; exact hfresh u hu

/-- There is one such account at a time. -/
theorem id_eq_of_new {u v : User} (hu : NewUser db r u) (hv : NewUser db r v)
    (hur : u.role ∉ MANAGEABLE_ROLES) (hvr : v.role ∉ MANAGEABLE_ROLES) : u.id = v.id := by
  cases hu with
  | created hm => exact absurd hm hur
  | registered h hid =>
    cases hv with
    | created hm => exact absurd hm hvr
    | registered h' hid' => rw [h] at h'; cases h'; rw [hid, hid']
    | seeded h' hid' => rw [h] at h'; cases h'
  | seeded h hid =>
    cases hv with
    | created hm => exact absurd hm hvr
    | registered h' hid' => rw [h] at h'; cases h'
    | seeded h' hid' => rw [h] at h'; cases h'; rw [hid, hid']

/-- Every request keeps the accounts in order. -/
theorem step (r : Request) (db : Database) (h : AccountsInv db.toTables) :
    AccountsInv (step r db).toTables where
  admin_active u' hu' hadmin := by
    rcases (step_users r db).descends u' hu' with ⟨u, hu, -, hstep⟩ | ⟨-, hnew⟩
    · have hrole : u.role = .admin := by rw [← hstep.eq_role (by rw [hadmin]; decide), hadmin]
      exact hstep.active_iff hrole (h.admin_active u hu hrole)
    · cases hnew with
      | created hm => rw [hadmin] at hm; exact absurd hm (by decide)
      | registered _ _ _ _ _ hstatus hactive => simp [hstatus, hactive]
      | seeded _ _ _ _ hrole => rw [hrole] at hadmin; cases hadmin
  live u' hu' hr := by
    rcases (step_users r db).descends u' hu' with ⟨u, hu, -, hstep⟩ | ⟨-, hnew⟩
    · rw [hstep.eq_role hr] at hr
      rw [hstep.deletedAt_eq hr]
      exact h.live u hu hr
    · cases hnew with
      | created hm => exact absurd hm hr
      | registered _ _ _ _ _ _ _ hlive => exact hlive
      | seeded _ _ _ _ _ hlive => exact hlive
  alone u' hu' v' hv' hur hvr hT := by
    refine (NodeVms.step r db).eq_of_id .user hu' hv' (congrArg Cuid.val ?_)
    rcases (step_users r db).descends u' hu' with ⟨u, hu, huid, hustep⟩ | ⟨-, hunew⟩
    · rcases (step_users r db).descends v' hv' with ⟨v, hv, hvid, hvstep⟩ | ⟨-, hvnew⟩
      · rw [hustep.eq_role hur] at hur
        rw [hvstep.eq_role hvr] at hvr
        rw [hustep.tenantId_eq, hvstep.tenantId_eq] at hT
        rw [← huid, ← hvid]
        exact congrArg User.id (h.alone u hu v hv hur hvr hT)
      · exact absurd (hustep.tenantId_eq.symm.trans hT) (alone_of_new hvnew hvr u hu)
    · rcases (step_users r db).descends v' hv' with ⟨v, hv, -, hvstep⟩ | ⟨-, hvnew⟩
      · exact absurd (hvstep.tenantId_eq.symm.trans hT.symm) (alone_of_new hunew hur v hv)
      · exact id_eq_of_new hunew hvnew hur hvr

/-- They are in order in every reachable state. -/
theorem of_reachable (h : Reachable db) : AccountsInv db.toTables :=
  h.invariant empty fun r db _ => step r db

end AccountsInv

end NodeVms
