/-
# Accounts

Registration (`AuthService`), the operations reserved to the platform
administrator (`AdminApplicationsService`, `TenantsService`,
`FeatureAccessService`, `SubscriptionsService`) and a user's own profile
(`ProfileService`).  Only the parts that write the database are here; the
tokens `AuthService` issues are not.
-/

import NodeVms.Services.Validator

namespace NodeVms

open Store Script Prisma

variable {env : Env} {id : String} {db db' : Database} {user : User}

/-! ### Registration -/

namespace Auth

structure RegisterTenantDto where
  tenantName : String
  adminName : String
  email : String
  password : String
  deriving DecidableEq

structure SeedSuperAdminDto where
  name : String
  email : String
  password : String
  seedSecret : String
  deriving DecidableEq

/-- `tenant.create` with one nested `users.create`. -/
def createTenantWith (tenant : Tenant) (user : User) : Transaction User := do
  let _ ← create .tenant tenant
  create .user user

def registerTenant (env : Env) (dto : RegisterTenantDto) : Query (Transaction User) := do
  Validator.assertEmailUnique dto.email
  let hashedPassword := env.hash dto.password
  commit (createTenantWith
    { id := env.cuid 0, name := dto.tenantName, isActive := false, deletedAt := none }
    { id := env.cuid 1, tenantId := env.cuid 0, branchId := none, name := dto.adminName,
      email := dto.email, password := hashedPassword, role := .admin,
      approvalStatus := .pending, isActive := false, deletedAt := none })

def seedSuperAdmin (env : Env) (dto : SeedSuperAdminDto) : Query (Transaction User) := do
  throwIf (dto.seedSecret ≠ env.seedSecret) (.forbidden "Invalid seed secret")
  let existing ← findFirst .user fun u => u.role = .superAdmin ∧ u.deletedAt = none
  throwIfSome existing (.conflict "Super admin already exists")
  Validator.assertEmailUnique dto.email
  let hashedPassword := env.hash dto.password
  commit (createTenantWith
    { id := env.cuid 0, name := "Platform (System)", isActive := true, deletedAt := none }
    { id := env.cuid 1, tenantId := env.cuid 0, branchId := none, name := dto.name,
      email := dto.email, password := hashedPassword, role := .superAdmin,
      approvalStatus := .approved, isActive := true, deletedAt := none })

/-- A registration inserts a tenant and its first user. -/
theorem createTenantWith_ok {tenant : Tenant} {r : User}
    (h : (createTenantWith tenant r).run db = .ok (user, db')) :
    user = r ∧ db'.toTables = Model.user.insert [r] (Model.tenant.insert [tenant] db.toTables) := by
  simp [createTenantWith] at h
  obtain ⟨db₁, h₁, rfl, h₂⟩ := h
  exact ⟨rfl, by rw [h₂, h₁]⟩

/-- An accepted registration: a tenant that is not active, and its admin, who is pending. -/
theorem registerTenant_ok {dto : RegisterTenantDto}
    (h : (registerTenant env dto).exec db = .ok (user, db')) :
    user =
        { id := env.cuid 1, tenantId := env.cuid 0, branchId := none, name := dto.adminName,
          email := dto.email, password := env.hash dto.password, role := .admin,
          approvalStatus := .pending, isActive := false, deletedAt := none } ∧
      db'.toTables = Model.user.insert [user] (Model.tenant.insert
        [{ id := env.cuid 0, name := dto.tenantName, isActive := false, deletedAt := none }]
        db.toTables) := by
  simp only [registerTenant, exec_bind_eq_ok, exec_commit] at h
  obtain ⟨-, -, h⟩ := h
  obtain ⟨rfl, hw⟩ := createTenantWith_ok h
  exact ⟨rfl, hw⟩

/-- An accepted seeding: the secret is right and there is no other super admin. -/
theorem seedSuperAdmin_ok {dto : SeedSuperAdminDto}
    (h : (seedSuperAdmin env dto).exec db = .ok (user, db')) :
    dto.seedSecret = env.seedSecret ∧
      (∀ u ∈ db.users, u.role = .superAdmin → u.deletedAt ≠ none) ∧
      user =
        { id := env.cuid 1, tenantId := env.cuid 0, branchId := none, name := dto.name,
          email := dto.email, password := env.hash dto.password, role := .superAdmin,
          approvalStatus := .approved, isActive := true, deletedAt := none } ∧
      db'.toTables = Model.user.insert [user] (Model.tenant.insert
        [{ id := env.cuid 0, name := "Platform (System)", isActive := true, deletedAt := none }]
        db.toTables) := by
  simp [seedSuperAdmin] at h
  obtain ⟨hs, hsa, -, h⟩ := h
  obtain ⟨rfl, hw⟩ := createTenantWith_ok h
  exact ⟨hs, hsa, rfl, hw⟩

end Auth

/-! ### Applications -/

namespace AdminApplications

def findAdmin (userId message : String) : Query User := do
  orThrow (← findById .user userId fun _ u => u.role = .admin ∧ u.deletedAt = none)
    (.notFound message)

/-- The transaction of `approve`, `suspend` and `reactivate`. -/
def setStatus (userId tenantId : String) (approvalStatus : ApprovalStatus) (isActive : Bool) :
    Transaction User := do
  let user ← update .user userId fun u => { u with approvalStatus, isActive }
  let _ ← update .tenant tenantId fun t => { t with isActive }
  pure user

def approve (userId : String) : Query (Transaction User) := do
  let user ← findAdmin userId "Admin application not found"
  throwIf (user.approvalStatus = .approved) (.badRequest "Application is already approved")
  commit (setStatus userId user.tenantId .approved true)

def reject (userId : String) : Query (Transaction User) := do
  let user ← findAdmin userId "Admin application not found"
  throwIf (user.approvalStatus = .approved)
    (.badRequest "Cannot reject an already approved account")
  commit (update .user userId fun u => { u with approvalStatus := .rejected, isActive := false })

def suspend (userId : String) : Query (Transaction User) := do
  let user ← findAdmin userId "Admin not found"
  throwIf (user.approvalStatus ≠ .approved) (.badRequest "Only approved admins can be suspended")
  commit (setStatus userId user.tenantId .suspended false)

def reactivate (userId : String) : Query (Transaction User) := do
  let user ← findAdmin userId "Admin not found"
  throwIf (user.approvalStatus ≠ .suspended)
    (.badRequest "Only suspended admins can be reactivated")
  commit (setStatus userId user.tenantId .approved true)

def resetAdminPassword (env : Env) (userId newPassword : String) : Query (Transaction User) := do
  let _ ← findAdmin userId "Admin not found"
  let hashed := env.hash newPassword
  commit (update .user userId fun u => { u with password := hashed })

/-- `u` is a live ADMIN. -/
def LiveAdmin (t : Tables) (id : String) (u : User) : Prop :=
  u ∈ t.users ∧ u.id.val = id ∧ u.role = .admin ∧ u.deletedAt = none

/-- The user's and the tenant's flags change together. -/
theorem setStatus_ok {tenantId : String} {approvalStatus : ApprovalStatus} {isActive : Bool}
    (h : (setStatus id tenantId approvalStatus isActive).run db = .ok (user, db')) :
    db'.toTables = Model.tenant.updateAt tenantId (fun t => { t with isActive })
      (Model.user.updateAt id (fun u => { u with approvalStatus, isActive }) db.toTables) := by
  simp [setStatus] at h
  obtain ⟨db₁, ⟨h₁, -⟩, h₂, -⟩ := h
  rw [h₂, h₁]

/-- An accepted approval is of an admin not yet approved, and makes both active. -/
theorem approve_ok (h : (approve id).exec db = .ok (user, db')) :
    ∃ u, LiveAdmin db.toTables id u ∧ u.approvalStatus ≠ .approved ∧
      db'.toTables = Model.tenant.updateAt u.tenantId (fun t => { t with isActive := true })
        (Model.user.updateAt id (fun u => { u with approvalStatus := .approved, isActive := true })
          db.toTables) := by
  simp [approve, findAdmin] at h
  obtain ⟨u, hu, hs, h⟩ := h
  exact ⟨u, hu, hs, setStatus_ok h⟩

/-- An accepted rejection is of an admin not yet approved. -/
theorem reject_ok (h : (reject id).exec db = .ok (user, db')) :
    ∃ u, LiveAdmin db.toTables id u ∧ u.approvalStatus ≠ .approved ∧
      db'.toTables = Model.user.updateAt id
        (fun u => { u with approvalStatus := .rejected, isActive := false }) db.toTables := by
  simp [reject, findAdmin] at h
  obtain ⟨u, hu, hs, h, -⟩ := h
  exact ⟨u, hu, hs, h⟩

/-- An accepted suspension is of an approved admin, and makes both inactive. -/
theorem suspend_ok (h : (suspend id).exec db = .ok (user, db')) :
    ∃ u, LiveAdmin db.toTables id u ∧ u.approvalStatus = .approved ∧
      db'.toTables = Model.tenant.updateAt u.tenantId (fun t => { t with isActive := false })
        (Model.user.updateAt id
          (fun u => { u with approvalStatus := .suspended, isActive := false })
          db.toTables) := by
  simp [suspend, findAdmin] at h
  obtain ⟨u, hu, hs, h⟩ := h
  exact ⟨u, hu, hs, setStatus_ok h⟩

/-- An accepted reactivation is of a suspended admin. -/
theorem reactivate_ok (h : (reactivate id).exec db = .ok (user, db')) :
    ∃ u, LiveAdmin db.toTables id u ∧ u.approvalStatus = .suspended ∧
      db'.toTables = Model.tenant.updateAt u.tenantId (fun t => { t with isActive := true })
        (Model.user.updateAt id (fun u => { u with approvalStatus := .approved, isActive := true })
          db.toTables) := by
  simp [reactivate, findAdmin] at h
  obtain ⟨u, hu, hs, h⟩ := h
  exact ⟨u, hu, hs, setStatus_ok h⟩

/-- An accepted reset writes the hash of the new password. -/
theorem resetAdminPassword_ok {newPassword : String}
    (h : (resetAdminPassword env id newPassword).exec db = .ok (user, db')) :
    (∃ u, LiveAdmin db.toTables id u) ∧
      db'.toTables = Model.user.updateAt id (fun u => { u with password := env.hash newPassword })
        db.toTables := by
  simp [resetAdminPassword, findAdmin] at h
  exact ⟨h.1, h.2.1⟩

end AdminApplications

/-! ### Tenants -/

namespace Tenants

structure UpdateTenantDto where
  name : Field String := .undefined
  isActive : Field Bool := .undefined
  deriving DecidableEq

def findLive (id : String) : Query Tenant := do
  orThrow (← findById .tenant id fun _ t => t.deletedAt = none) (.notFound "Tenant not found")

def update (id : String) (dto : UpdateTenantDto) : Query (Transaction Tenant) := do
  let _ ← findLive id
  dto.name.notNull
  dto.isActive.notNull
  commit (Prisma.update .tenant id fun t =>
    { t with name := dto.name.set t.name, isActive := dto.isActive.set t.isActive })

def remove (env : Env) (id : String) : Query (Transaction Tenant) := do
  let _ ← findLive id
  commit (Prisma.update .tenant id fun t =>
    { t with deletedAt := some env.now, isActive := false })

variable {tenant : Tenant}

/-- An accepted update is of a live tenant. -/
theorem update_ok {dto : UpdateTenantDto} (h : (update id dto).exec db = .ok (tenant, db')) :
    (∃ t ∈ db.tenants, t.id.val = id ∧ t.deletedAt = none) ∧
      db'.toTables = Model.tenant.updateAt id (fun t =>
        { t with name := dto.name.set t.name, isActive := dto.isActive.set t.isActive })
        db.toTables := by
  simp [update, findLive] at h
  exact ⟨h.1, h.2.2.2.1⟩

/-- An accepted removal is of a live tenant, and writes the time. -/
theorem remove_ok (h : (remove env id).exec db = .ok (tenant, db')) :
    (∃ t ∈ db.tenants, t.id.val = id ∧ t.deletedAt = none) ∧
      db'.toTables = Model.tenant.updateAt id (fun t =>
        { t with deletedAt := some env.now, isActive := false }) db.toTables := by
  simp [remove, findLive] at h
  exact ⟨h.1, h.2.1⟩

end Tenants

/-! ### Feature flags -/

namespace FeatureAccesses

/-- `enable` and `disable`: find the live flag, then update or create it. -/
def setEnabled (env : Env) (tenantId moduleName : String) (isEnabled : Bool) :
    Query (Transaction FeatureAccess) := do
  let existing ← findFirst .featureAccess fun f =>
    f.tenantId = tenantId ∧ f.moduleName = moduleName ∧ f.deletedAt = none
  match existing with
  | some existing => commit (update .featureAccess existing.id fun f => { f with isEnabled })
  | none =>
    commit (create .featureAccess
      { id := env.cuid 0, tenantId, moduleName, isEnabled, deletedAt := none })

def enable (env : Env) (tenantId moduleName : String) : Query (Transaction FeatureAccess) :=
  setEnabled env tenantId moduleName true

def disable (env : Env) (tenantId moduleName : String) : Query (Transaction FeatureAccess) :=
  setEnabled env tenantId moduleName false

/-- The flag that is there is switched, or a new one is created. -/
theorem setEnabled_ok {tenantId moduleName : String} {isEnabled : Bool} {flag : FeatureAccess}
    (h : (setEnabled env tenantId moduleName isEnabled).exec db = .ok (flag, db')) :
    (∃ f ∈ db.featureAccesses, f.tenantId = tenantId ∧ f.moduleName = moduleName ∧
      f.deletedAt = none ∧
      db'.toTables = Model.featureAccess.updateAt f.id (fun f => { f with isEnabled })
        db.toTables) ∨
    (∀ f ∈ db.featureAccesses, f.tenantId = tenantId → f.moduleName = moduleName →
      f.deletedAt ≠ none) ∧
      flag = { id := env.cuid 0, tenantId, moduleName, isEnabled, deletedAt := none } ∧
      db'.toTables = Model.featureAccess.insert [flag] db.toTables := by
  simp only [setEnabled, exec_bind_eq_ok] at h
  obtain ⟨existing, hf, h⟩ := h
  cases existing with
  | some f =>
    rw [eval_findFirst_eq_some] at hf
    obtain ⟨hmem, hp⟩ := mem_of_find? hf
    simp only [decide_eq_true_eq] at hp
    simp only [exec_commit, run_update_eq_ok] at h
    exact .inl ⟨f, hmem, hp.1, hp.2.1, hp.2.2, h.1⟩
  | none =>
    simp only [exec_commit, run_create_eq_ok] at h
    obtain ⟨rfl, hw⟩ := h
    exact .inr ⟨by simpa using hf, rfl, hw⟩

end FeatureAccesses

/-! ### Subscriptions -/

namespace Subscriptions

structure CreateSubscriptionDto where
  tenantId : String
  planName : String
  isActive : Field Bool := .undefined
  deriving DecidableEq

structure UpdateSubscriptionDto where
  planName : Field String := .undefined
  isActive : Field Bool := .undefined
  deriving DecidableEq

def create (env : Env) (dto : CreateSubscriptionDto) : Query (Transaction Subscription) :=
  commit (Prisma.create .subscription
    { id := env.cuid 0, tenantId := dto.tenantId, planName := dto.planName,
      isActive := dto.isActive.nullish.getD true, deletedAt := none })

def update (id : String) (dto : UpdateSubscriptionDto) : Query (Transaction Subscription) := do
  let _ ← orThrow (← findById .subscription id fun _ s => s.deletedAt = none)
    (.notFound "Subscription not found")
  dto.planName.notNull
  dto.isActive.notNull
  commit (Prisma.update .subscription id fun s =>
    { s with planName := dto.planName.set s.planName, isActive := dto.isActive.set s.isActive })

variable {subscription : Subscription}

/-- An accepted subscription is written as it was asked for. -/
theorem create_ok {dto : CreateSubscriptionDto}
    (h : (create env dto).exec db = .ok (subscription, db')) :
    subscription =
        { id := env.cuid 0, tenantId := dto.tenantId, planName := dto.planName,
          isActive := dto.isActive.nullish.getD true, deletedAt := none } ∧
      db'.toTables = Model.subscription.insert [subscription] db.toTables := by
  simp [create] at h
  obtain ⟨rfl, hw⟩ := h
  exact ⟨rfl, hw⟩

/-- An accepted update writes the fields that are supplied. -/
theorem update_ok {dto : UpdateSubscriptionDto}
    (h : (update id dto).exec db = .ok (subscription, db')) :
    db'.toTables = Model.subscription.updateAt id (fun s =>
      { s with planName := dto.planName.set s.planName, isActive := dto.isActive.set s.isActive })
      db.toTables := by
  simp [update] at h
  exact h.2.2.2.1

/-- Such an update is of a subscription that is not removed. -/
theorem update_live {dto : UpdateSubscriptionDto}
    (h : (update id dto).exec db = .ok (subscription, db')) :
    ∃ s ∈ db.subscriptions, s.id.val = id ∧ s.deletedAt = none := by
  simp [update] at h
  exact h.1

end Subscriptions

/-! ### Profile -/

namespace Profile

structure ChangePasswordDto where
  currentPassword : String
  newPassword : String
  deriving DecidableEq

def findActiveUser (id : String) : Query User := do
  orThrow (← findById .user id fun _ u => u.deletedAt = none) (.notFound "User not found")

def changePassword (env : Env) (userId : String) (dto : ChangePasswordDto) :
    Query (Transaction User) := do
  let user ← findActiveUser userId
  throwIf (env.compare dto.currentPassword user.password = false)
    (.unauthorized "Current password is incorrect")
  throwIf (dto.currentPassword = dto.newPassword)
    (.badRequest "New password must be different from the current password")
  let hashed := env.hash dto.newPassword
  commit (update .user userId fun u => { u with password := hashed })

def changeName (userId name : String) : Query (Transaction User) := do
  let _ ← findActiveUser userId
  commit (update .user userId fun u => { u with name })

structure SelectedProfile where
  id : String
  name : String
  email : String
  role : Role
  tenantId : String
  branchId : Option String
  isActive : Bool
  deriving DecidableEq

def profileSelect (u : User) : SelectedProfile where
  id := u.id
  name := u.name
  email := u.email
  role := u.role
  tenantId := u.tenantId
  branchId := u.branchId
  isActive := u.isActive

def getProfile (userId : String) : Query SelectedProfile := do
  let user ← orThrow (← findById .user userId fun _ u => u.deletedAt = none)
    (.notFound "User not found")
  pure (profileSelect user)

/-- An accepted change gives the current password and another one. -/
theorem changePassword_ok {dto : ChangePasswordDto}
    (h : (changePassword env id dto).exec db = .ok (user, db')) :
    ∃ u ∈ db.users, u.id.val = id ∧ u.deletedAt = none ∧
      env.compare dto.currentPassword u.password = true ∧ dto.currentPassword ≠ dto.newPassword ∧
      db'.toTables = Model.user.updateAt id
        (fun u => { u with password := env.hash dto.newPassword }) db.toTables := by
  simp [changePassword, findActiveUser] at h
  obtain ⟨u, ⟨hu, hid, hd⟩, hc, hne, hw, -⟩ := h
  exact ⟨u, hu, hid, hd, hc, hne, hw⟩

/-- An accepted change is of an active profile. -/
theorem changeName_ok {name : String} (h : (changeName id name).exec db = .ok (user, db')) :
    (∃ u ∈ db.users, u.id.val = id ∧ u.deletedAt = none) ∧
      db'.toTables = Model.user.updateAt id (fun u => { u with name }) db.toTables := by
  simp [changeName, findActiveUser] at h
  exact ⟨h.1, h.2.1⟩

end Profile

end NodeVms
