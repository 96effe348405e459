/-
# `UsersService`

A user has one primary branch (`branchId`) and a set of branch memberships
(`UserBranch`).  `create` and `update` accept the two together: the supplied
`branchId` is added to the supplied `branchIds`, blank ids are dropped and
repeated ones merged.
-/

import NodeVms.Services.Validator
import Mathlib.Data.List.Perm.Subperm

namespace NodeVms
namespace Users

open Store Script Prisma Validator

def MANAGEABLE_ROLES : List Role := [.driver, .employee]

/-- The user a request is made by. -/
structure CurrentUser where
  id : String
  role : Role
  deriving DecidableEq

structure CreateUserDto where
  name : String
  email : String
  password : String
  role : Field Role := .undefined
  branchId : Field String := .undefined
  branchIds : Field (List String) := .undefined
  deriving DecidableEq

structure UpdateUserDto where
  name : Field String := .undefined
  password : Field String := .undefined
  role : Field Role := .undefined
  isActive : Field Bool := .undefined
  branchId : Field String := .undefined
  branchIds : Field (List String) := .undefined
  deriving DecidableEq

def assertManageableRole (role : Option Role) : Query Unit :=
  throwIf (∃ r ∈ role, r ∉ MANAGEABLE_ROLES)
    (.badRequest "You can only create users with role DRIVER or EMPLOYEE")

def findActiveUser (tenantId id : String) : Query User := do
  orThrow (← findById .user id fun _ u => u.tenantId = tenantId ∧ u.deletedAt = none)
    (.notFound "User not found")

/-- The white space and line terminators `trim()` strips. -/
def isTrimmed (c : Char) : Bool :=
  (0x09 ≤ c.toNat && c.toNat ≤ 0x0D) || (0x2000 ≤ c.toNat && c.toNat ≤ 0x200A) ||
    [0x20, 0xA0, 0x1680, 0x2028, 0x2029, 0x202F, 0x205F, 0x3000, 0xFEFF].contains c.toNat

/-- `id && id.trim().length > 0`. -/
def notBlank (id : String) : Bool := id.toList.any fun c => !isTrimmed c

/-- `[...new Set(branchIds.filter(…))]`. -/
def normalizeBranchIds (branchIds : List String) : List String :=
  (branchIds.filter notBlank).eraseDups

def assertBranchesExist (tenantId : String) (branchIds : List String) : Query Unit :=
  when (branchIds.length ≠ 0) do
    let n ← count .branch fun b =>
      b.tenantId = tenantId ∧ b.deletedAt = none ∧ b.id.val ∈ branchIds
    throwIf (n ≠ branchIds.length) (.badRequest "One or more branches are invalid")

/-- The membership rows `tx.userBranch.createMany` inserts; the first generated
id of the request is the user's. -/
def membershipRows (env : Env) (tenantId userId : String) (branchIds : List String) :
    List UserBranch :=
  branchIds.mapIdx fun i branchId => { id := env.cuid (i + 1), tenantId, userId, branchId }

/-- The memberships a new user gets. -/
def CreateUserDto.memberships (dto : CreateUserDto) : List String :=
  normalizeBranchIds (dto.branchIds.nullish.getD [] ++ dto.branchId.truthy.toList)

def create (env : Env) (tenantId : String) (dto : CreateUserDto) : Query (Transaction User) := do
  assertManageableRole dto.role.nullish
  assertEmailUnique dto.email
  assertBranchExists tenantId dto.branchId.nullish
  let branchIds := dto.memberships
  assertBranchesExist tenantId branchIds
  let primaryBranchId := dto.branchId.nullish.or branchIds.head?
  let hashedPassword := env.hash dto.password
  commit do
    let user ← Prisma.create .user
      { id := env.cuid 0, tenantId, branchId := primaryBranchId, name := dto.name,
        email := dto.email, password := hashedPassword,
        role := dto.role.nullish.getD .employee, approvalStatus := .approved,
        isActive := true, deletedAt := none }
    Tx.when (branchIds.length > 0)
      (createMany .userBranch (membershipRows env tenantId user.id branchIds))
    pure user

namespace UpdateUserDto

/-- `incomingBranchIds`. -/
def memberships (dto : UpdateUserDto) : Option (List String) :=
  dto.branchIds.nullish.map fun branchIds =>
    normalizeBranchIds (branchIds ++ dto.branchId.truthy.toList)

/-- `data.branch`: the supplied branch, or else the first of the supplied memberships. -/
def branch (dto : UpdateUserDto) : Field String :=
  if dto.branchId.defined then dto.branchId
  else match dto.memberships with
    | some branchIds => (branchIds.head?.map Field.value).getD .null
    | none => .undefined

/-- `Object.keys(data).length > 0`. -/
def hasUserUpdates (dto : UpdateUserDto) : Bool :=
  dto.name.defined || dto.role.defined || dto.isActive.defined || dto.password.defined ||
    dto.branch.defined

/-- `data`. -/
def apply (dto : UpdateUserDto) (hash : String → String) (u : User) : User :=
  { u with
    name := dto.name.set u.name
    role := dto.role.set u.role
    isActive := dto.isActive.set u.isActive
    password := (dto.password.nullish.map hash).getD u.password
    branchId := dto.branch.setRef u.branchId }

end UpdateUserDto

def update (env : Env) (tenantId id : String) (dto : UpdateUserDto) (currentUser : CurrentUser) :
    Query (Transaction Unit) := do
  let target ← findActiveUser tenantId id
  throwIf (target.role ∉ MANAGEABLE_ROLES)
    (.forbidden "You can only update DRIVER or EMPLOYEE accounts")
  when dto.role.defined do
    assertManageableRole dto.role.nullish
    throwIf (currentUser.id = id) (.forbidden "You cannot change your own role")
  when dto.isActive.defined
    (throwIf (currentUser.id = id ∧ dto.isActive = .value false)
      (.forbidden "You cannot deactivate your own account"))
  when dto.branchId.defined (assertBranchExists tenantId dto.branchId.nullish)
  -- bcrypt and the array spread do not take `null`
  throwIf (dto.password = .null ∨ dto.branchIds = .null) .typeError
  whenSome dto.memberships (assertBranchesExist tenantId)
  throwIf (dto.hasUserUpdates = false ∧ dto.memberships = none)
    (.badRequest "No updatable fields provided")
  dto.name.notNull
  dto.role.notNull
  dto.isActive.notNull
  commit do
    Tx.when dto.hasUserUpdates do
      let _ ← Prisma.update .user id (dto.apply env.hash)
    Tx.whenSome dto.memberships fun branchIds => do
      deleteMany .userBranch fun b => b.tenantId = tenantId ∧ b.userId = id
      Tx.when (branchIds.length > 0)
        (createMany .userBranch (membershipRows env tenantId id branchIds))

def resetSubordinatePassword (env : Env) (tenantId targetId newPassword : String)
    (requesterRole : Role) : Query (Transaction User) := do
  let target ← findActiveUser tenantId targetId
  throwIf (requesterRole = .admin ∧ target.role ∉ MANAGEABLE_ROLES)
    (.forbidden "You can only reset passwords for DRIVER or EMPLOYEE accounts")
  let hashed := env.hash newPassword
  commit (Prisma.update .user targetId fun u => { u with password := hashed })

def remove (env : Env) (tenantId id : String) (currentUser : CurrentUser) :
    Query (Transaction User) := do
  let target ← findActiveUser tenantId id
  throwIf (currentUser.id = id) (.forbidden "You cannot delete your own account")
  throwIf (target.role ∉ MANAGEABLE_ROLES)
    (.forbidden "You can only delete DRIVER or EMPLOYEE accounts")
  commit (Prisma.update .user id fun u => { u with deletedAt := some env.now })

/-! ### What a successful request has checked and written -/

variable {env : Env} {tenantId id : String} {db db' : Database} {user : User}

/-- As many live branches of the tenant as there are ids: every id names one. -/
theorem liveBranch_of_assertBranchesExist {ids : List String} {u : Unit}
    (h : (assertBranchesExist tenantId ids).eval db = .ok u) {k : String} (hk : k ∈ ids) :
    LiveBranch db.toTables tenantId k := by
  simp [assertBranchesExist] at h
  have hlen := h (List.ne_nil_of_mem hk)
  let found := db.branches.filter fun b =>
    decide (b.tenantId = tenantId) && (decide (b.deletedAt = none) && decide (b.id.val ∈ ids))
  have hnodup : (found.map (·.id.val)).Nodup := by
    have := (db.nodup_id .branch).map Cuid.val_injective
    rw [List.map_map] at this
    exact this.sublist (List.filter_sublist.map _)
  have hsub : found.map (·.id.val) ⊆ ids := by
    intro x hx
    obtain ⟨b, hb, rfl⟩ := List.mem_map.1 hx
    have := (List.mem_filter.1 hb).2
    simp only [Bool.and_eq_true, decide_eq_true_eq] at this
    exact this.2.2
  -- a subset without repetitions that is as long as the whole list is the whole list
  have hperm : (found.map (·.id.val)).Perm ids :=
    (hnodup.subperm hsub).perm_of_length_le (by rw [List.length_map]; exact hlen.ge)
  obtain ⟨b, hb, hbk⟩ := List.mem_map.1 (hperm.mem_iff.2 hk)
  obtain ⟨hmem, hp⟩ := List.mem_filter.1 hb
  simp only [Bool.and_eq_true, decide_eq_true_eq] at hp
  exact ⟨b, hmem, hbk, hp.1, hp.2.1⟩

/-- Without memberships the insert does nothing. -/
theorem insert_membershipRows_nil {userId : String} {ids : List String} (h : ids = [])
    (t : Tables) : Model.userBranch.insert (membershipRows env tenantId userId ids) t = t := by
  rw [h, Model.insert, show membershipRows env tenantId userId [] = [] from rfl, List.append_nil]
  rfl

/-- The primary branch and the memberships of a new user are live branches of
the tenant. -/
theorem create_ok {dto : CreateUserDto}
    (h : (create env tenantId dto).exec db = .ok (user, db')) :
    (∀ k ∈ dto.memberships, LiveBranch db.toTables tenantId k) ∧
      (∀ k, dto.branchId = .value k → k ≠ "" → LiveBranch db.toTables tenantId k) ∧
      user =
        { id := env.cuid 0, tenantId, branchId := dto.branchId.nullish.or dto.memberships.head?,
          name := dto.name, email := dto.email, password := env.hash dto.password,
          role := dto.role.nullish.getD .employee, approvalStatus := .approved,
          isActive := true, deletedAt := none } ∧
      db'.toTables =
        Model.userBranch.insert (membershipRows env tenantId user.id dto.memberships)
          (Model.user.insert [user] db.toTables) := by
  simp [create] at h
  obtain ⟨-, -, hb, ⟨_, hbs⟩, db₁, h₁, hw, rfl⟩ := h
  refine ⟨fun k hk => liveBranch_of_assertBranchesExist hbs hk, hb, rfl, ?_⟩
  rcases hw with ⟨-, hw⟩ | ⟨hnil, rfl⟩
  · rw [hw, h₁]
  · rw [insert_membershipRows_nil hnil, h₁]

/-- The branch an update connects is the supplied one or one of the memberships. -/
theorem UpdateUserDto.branch_eq_value {dto : UpdateUserDto} {k : String}
    (h : dto.branch = .value k) :
    dto.branchId = .value k ∨ ∃ branchIds, dto.memberships = some branchIds ∧ k ∈ branchIds := by
  unfold UpdateUserDto.branch at h
  split at h
  · exact .inl h
  · split at h
    · rename_i branchIds hm
      cases hh : branchIds.head? with
      | none => simp [hh] at h
      | some x =>
        have hx : x = k := by simpa [hh] using h
        exact .inr ⟨branchIds, hm, hx ▸ List.mem_of_head? hh⟩
    · cases h

/-- An update writes the user and replaces the memberships, each if there is
something to write; every branch it writes is a live one of the tenant. -/
theorem update_ok {dto : UpdateUserDto} {currentUser : CurrentUser} {u : Unit}
    (h : (update env tenantId id dto currentUser).exec db = .ok (u, db')) :
    ∃ target ∈ db.users, target.id.val = id ∧ target.tenantId = tenantId ∧
      target.deletedAt = none ∧ target.role ∈ MANAGEABLE_ROLES ∧
      (∀ k, dto.branch = .value k → k ≠ "" → LiveBranch db.toTables tenantId k) ∧
      (∀ branchIds, dto.memberships = some branchIds →
        ∀ k ∈ branchIds, LiveBranch db.toTables tenantId k) ∧
      ∃ t, (dto.hasUserUpdates = false ∧ t = db.toTables ∨
          dto.hasUserUpdates = true ∧
            t = Model.user.updateAt id (dto.apply env.hash) db.toTables) ∧
        (dto.memberships = none ∧ db'.toTables = t ∨
          ∃ branchIds, dto.memberships = some branchIds ∧
            db'.toTables = Model.userBranch.insert (membershipRows env tenantId id branchIds)
              (Model.userBranch.delete (fun b => b.tenantId = tenantId ∧ b.userId = id) t)) := by
  simp [update, findActiveUser] at h
  obtain ⟨target, ⟨ht, hid, htt, htd⟩, hrole, -, -, hb, -, ⟨_, hbs⟩, -, -, -, -, db₁, hu, hw⟩ := h
  have hlive : ∀ branchIds, dto.memberships = some branchIds →
      ∀ k ∈ branchIds, LiveBranch db.toTables tenantId k :=
    fun branchIds hm k hk => liveBranch_of_assertBranchesExist (hbs branchIds hm) hk
  refine ⟨target, ht, hid, htt, htd, hrole, ?_, hlive, db₁.toTables, ?_, ?_⟩
  · intro k hk hne
    rcases UpdateUserDto.branch_eq_value hk with hk | ⟨branchIds, hm, hk⟩
    · exact hb (by rw [hk]; rfl) k hk hne
    · exact hlive branchIds hm k hk
  · rcases hu with ⟨hany, hu, -⟩ | ⟨hnone, rfl⟩
    · exact .inr ⟨hany, hu⟩
    · exact .inl ⟨hnone, rfl⟩
  · rcases hw with ⟨branchIds, hm, db₂, h₂, hw⟩ | ⟨hm, rfl⟩
    · refine .inr ⟨branchIds, hm, ?_⟩
      simp only [Bool.decide_and]
      rcases hw with ⟨-, hw⟩ | ⟨hnil, rfl⟩
      · rw [hw, h₂]
      · rw [insert_membershipRows_nil hnil, h₂]
    · exact .inl ⟨hm, rfl⟩

/-- Only the manageable roles are given away. -/
theorem create_manageable {dto : CreateUserDto}
    (h : (create env tenantId dto).exec db = .ok (user, db')) : user.role ∈ MANAGEABLE_ROLES := by
  have hrow := (create_ok h).2.2.1
  simp only [create, exec_bind_eq_ok, assertManageableRole, eval_throwIf_eq_ok] at h
  obtain ⟨-, hrole, -⟩ := h
  rw [hrow]
  cases hd : dto.role.nullish with
  | none => simp [MANAGEABLE_ROLES]
  | some r => simpa [hd] using hrole

/-- An update leaves a managed role managed. -/
theorem update_manageable {dto : UpdateUserDto} {currentUser : CurrentUser} {u : Unit}
    (h : (update env tenantId id dto currentUser).exec db = .ok (u, db')) {role : Role}
    (hr : role ∈ MANAGEABLE_ROLES) : dto.role.set role ∈ MANAGEABLE_ROLES := by
  simp only [update, exec_bind_eq_ok, assertManageableRole, eval_throwIf_eq_ok, eval_when_eq_ok,
    eval_bind_eq_ok] at h
  obtain ⟨-, -, -, -, -, hrole, -⟩ := h
  cases hd : dto.role with
  | value r =>
    obtain ⟨-, hr, -⟩ := hrole (by rw [hd]; rfl)
    simpa [hd, Field.nullish, Field.set] using hr
  | _ => exact hr

/-- An accepted reset is of a live user of the tenant, whose role an admin manages. -/
theorem resetSubordinatePassword_ok {newPassword : String} {requesterRole : Role}
    (h : (resetSubordinatePassword env tenantId id newPassword requesterRole).exec db =
      .ok (user, db')) :
    ∃ u ∈ db.users, u.id.val = id ∧ u.tenantId = tenantId ∧ u.deletedAt = none ∧
      (requesterRole = .admin → u.role ∈ MANAGEABLE_ROLES) ∧
      db'.toTables = Model.user.updateAt id (fun u => { u with password := env.hash newPassword })
        db.toTables := by
  simp [resetSubordinatePassword, findActiveUser] at h
  obtain ⟨u, ⟨hu, hid, ht, hd⟩, hr, hw, -⟩ := h
  exact ⟨u, hu, hid, ht, hd, hr, hw⟩

/-- An accepted removal is of another live user of the tenant. -/
theorem remove_ok {currentUser : CurrentUser}
    (h : (remove env tenantId id currentUser).exec db = .ok (user, db')) :
    ∃ u ∈ db.users, u.id.val = id ∧ u.tenantId = tenantId ∧ u.deletedAt = none ∧
      currentUser.id ≠ id ∧ u.role ∈ MANAGEABLE_ROLES ∧
      db'.toTables = Model.user.updateAt id (fun u => { u with deletedAt := some env.now })
        db.toTables := by
  simp [remove, findActiveUser] at h
  obtain ⟨u, ⟨hu, hid, ht, hd⟩, hc, hr, hw, -⟩ := h
  exact ⟨u, hu, hid, ht, hd, hc, hr, hw⟩

end Users
end NodeVms
