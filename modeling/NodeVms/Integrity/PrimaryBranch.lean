/-
# The primary branch of a user

The primary branch is a column of the user, the memberships are rows of their
own.  Each request that writes one of the two writes the other to match, apart
from `users.update` with a `branchId` and without `branchIds`: it moves the
primary branch and leaves the memberships as they are.
-/

import NodeVms.Integrity.Memberships

namespace NodeVms

open Store Script Prisma Users

variable {db db' : Database} {env : Env} {T id : String} {r : Request}

/-- The primary branch of every user is one that the user is a member of. -/
def PrimaryAssigned (t : Tables) : Prop :=
  ∀ u ∈ t.users, ∀ k, u.branchId = some k → k ∈ branchesOf t u.id

/-- The branch that the request supplies is left to the user as a membership. -/
def Users.Request.KeepsAssigned (t : Tables) : Users.Request → Prop
  | .create dto => ∀ k ∈ dto.branchId.truthy, notBlank k
  | .update id dto _ => ∀ k ∈ dto.branchId.truthy,
    if dto.branchIds.defined then notBlank k else k ∈ branchesOf t id
  | _ => True

/-- The request, if it is one on users. -/
def Request.users? : Request → Option Users.Request
  | .tenant _ _ (.users rq) => some rq
  | _ => none

/-- A request on users is one of a tenant. -/
theorem eq_of_users? {rq : Users.Request} (h : r.users? = some rq) :
    ∃ env T, r = .tenant env T (.users rq) := by
  unfold Request.users? at h
  split at h
  · rename_i env T _
    cases h
    exact ⟨env, T, rfl⟩
  · cases h

/-- No user gets a primary branch without the membership. -/
def KeepsAssigned (r : Request) (db : Database) : Prop :=
  ∀ rq ∈ r.users?, rq.KeepsAssigned db.toTables

instance (t : Tables) : Decidable (PrimaryAssigned t) :=
  decidable_of_iff (∀ u ∈ t.users, ∀ k ∈ u.branchId, k ∈ branchesOf t u.id)
    (forall₂_congr fun _ _ => Iff.rfl)

instance (t : Tables) : ∀ rq : Users.Request, Decidable (rq.KeepsAssigned t)
  | .create dto => inferInstanceAs (Decidable (∀ k ∈ dto.branchId.truthy, notBlank k))
  | .update id dto _ => inferInstanceAs (Decidable (∀ k ∈ dto.branchId.truthy,
    if dto.branchIds.defined then notBlank k else k ∈ branchesOf t id))
  | .resetSubordinatePassword .. => inferInstanceAs (Decidable True)
  | .remove .. => inferInstanceAs (Decidable True)

instance (r : Request) (db : Database) : Decidable (KeepsAssigned r db) := by
  unfold KeepsAssigned; infer_instance

/-! ### Requests that leave the memberships alone -/

/-- A user keeps the primary branch or loses it, and a new user has none. -/
abbrev BranchKept (db db' : Database) : Prop :=
  Model.user.Evolves (fun u u' => u'.branchId = u.branchId ∨ u'.branchId = none)
    (·.branchId = none) db db'

/-- A request that does not write the users keeps their branches. -/
theorem branchKept_same (h : db'.users = db.users) : BranchKept db db' :=
  evolves_same (fun _ => .inl rfl) h

/-- An update of users that does not touch their branch. -/
theorem branchKept_update {p : User → Bool} {f : User → User}
    (h : db'.users = updateWhere p f db.users)
    (hf : ∀ u, (f u).id = u.id ∧ (f u).branchId = u.branchId) : BranchKept db db' :=
  evolves_update (fun _ => .inl rfl) h fun u _ _ => ⟨(hf u).1, .inl (hf u).2⟩

/-- Where neither branches nor memberships change the law is kept. -/
theorem primaryAssigned_of_branchKept (h : PrimaryAssigned db.toTables) (hu : BranchKept db db')
    (hm : db'.userBranches = db.userBranches) : PrimaryAssigned db'.toTables := by
  intro u' hu' k hk
  rcases hu.descends u' hu' with ⟨u, humem, hid, hsame | hnone⟩ | ⟨-, hnone⟩
  · have hold : k ∈ branchesOf db.toTables u.id := h u humem k (hsame ▸ hk)
    rw [branchesOf, hm]
    rwa [branchesOf, show u.id = u'.id from hid] at hold
  · cases hnone.symm.trans hk
  · cases hnone.symm.trans hk

/-- The platform gives new accounts no branch and leaves the others theirs. -/
theorem PlatformRequest.branchKept (pr : PlatformRequest) (env : Env) (db : Database) :
    BranchKept db (pr.next env db) := by
  have hrefl : ∀ u : User, u.branchId = u.branchId ∨ u.branchId = none := fun _ => .inl rfl
  have hsame : Table.users ∉ pr.writes → BranchKept db (pr.next env db) :=
    fun h => branchKept_same (pr.same env h)
  cases pr with
  | registerTenant dto =>
    refine next_evolves hrefl fun u db' h => ?_
    obtain ⟨rfl, hw⟩ := Auth.registerTenant_ok h
    exact evolves_insert hrefl (congrArg Tables.users hw) rfl
  | seedSuperAdmin dto =>
    refine next_evolves hrefl fun u db' h => ?_
    obtain ⟨-, -, rfl, hw⟩ := Auth.seedSuperAdmin_ok h
    exact evolves_insert hrefl (congrArg Tables.users hw) rfl
  | approve id =>
    refine next_evolves hrefl fun _ db' h => ?_
    obtain ⟨a, ha, -, hw⟩ := AdminApplications.approve_ok h
    exact branchKept_update (congrArg Tables.users hw) fun _ => ⟨rfl, rfl⟩
  | reject id =>
    refine next_evolves hrefl fun _ db' h => ?_
    obtain ⟨a, ha, -, hw⟩ := AdminApplications.reject_ok h
    exact branchKept_update (congrArg Tables.users hw) fun _ => ⟨rfl, rfl⟩
  | suspend id =>
    refine next_evolves hrefl fun _ db' h => ?_
    obtain ⟨a, ha, -, hw⟩ := AdminApplications.suspend_ok h
    exact branchKept_update (congrArg Tables.users hw) fun _ => ⟨rfl, rfl⟩
  | reactivate id =>
    refine next_evolves hrefl fun _ db' h => ?_
    obtain ⟨a, ha, -, hw⟩ := AdminApplications.reactivate_ok h
    exact branchKept_update (congrArg Tables.users hw) fun _ => ⟨rfl, rfl⟩
  | resetAdminPassword id newPassword =>
    refine next_evolves hrefl fun _ db' h => ?_
    obtain ⟨⟨a, ha⟩, hw⟩ := AdminApplications.resetAdminPassword_ok h
    exact branchKept_update (congrArg Tables.users hw) fun _ => ⟨rfl, rfl⟩
  | changePassword id dto =>
    refine next_evolves hrefl fun _ db' h => ?_
    obtain ⟨_, -, -, -, -, -, hw⟩ := Profile.changePassword_ok h
    exact branchKept_update (congrArg Tables.users hw) fun _ => ⟨rfl, rfl⟩
  | changeName id name =>
    refine next_evolves hrefl fun _ db' h => ?_
    exact branchKept_update (congrArg Tables.users (Profile.changeName_ok h).2) fun _ => ⟨rfl, rfl⟩
  | _ => exact hsame (by simp [writes])

/-- So it keeps the law. -/
theorem PlatformRequest.primaryAssigned (pr : PlatformRequest)
    (h : PrimaryAssigned db.toTables) : PrimaryAssigned (pr.next env db).toTables := by
  have hm : Table.userBranches ∉ pr.writes := by cases pr <;> simp [writes]
  exact primaryAssigned_of_branchKept h (pr.branchKept env db) (pr.same env hm)

/-! ### Requests on users -/

/-- The branch of a new user is one of those the body supplies. -/
theorem Users.create_primaryAssigned {dto : CreateUserDto} {user : User}
    (h : PrimaryAssigned db.toTables) (hr : ∀ k ∈ dto.branchId.truthy, notBlank k)
    (hok : (Users.create env T dto).exec db = .ok (user, db')) :
    PrimaryAssigned db'.toTables := by
  obtain ⟨-, -, hrow, hw⟩ := create_ok hok
  have husers : db'.users = db.users ++ [user] := congrArg Tables.users hw
  have hmemberships : db'.userBranches =
      db.userBranches ++ membershipRows env T user.id dto.memberships :=
    congrArg Tables.userBranches hw
  intro u hu k hk
  rw [husers, List.mem_append, List.mem_singleton] at hu
  rcases hu with hu | rfl
  · obtain ⟨m, hm, hmu, hmk⟩ := mem_branchesOf.1 (h u hu k hk)
    refine mem_branchesOf.2 ⟨m, ?_, hmu, hmk⟩
    rw [hmemberships]
    exact List.mem_append_left _ hm
  · refine ((membershipsAre_create hok).mem_iff k).2 ?_
    have hbranch : dto.branchId.nullish.or dto.memberships.head? = some k := by
      rw [← hk, hrow]
    rcases Option.or_eq_some_iff.1 hbranch with hsome | ⟨-, hhead⟩
    · have hvalue := Field.nullish_eq_some.1 hsome
      have hne : k ≠ "" := by
        rintro rfl
        refine db'.ref_ne_empty Schema.user_branchId_fkey (r := u) ?_ hk
        rw [Model.user_rows, husers]
        exact List.mem_append_right _ (List.mem_singleton_self u)
      exact ⟨hr k (Field.truthy_eq_some.2 ⟨hvalue, hne⟩), .inl hvalue⟩
    · exact mem_normalize_iff_supplied.1 (List.mem_of_head? hhead)

/-- The branches of the users after an update. -/
theorem Users.update_branch {dto : UpdateUserDto} {me : CurrentUser} {x : Unit}
    (hok : (Users.update env T id dto me).exec db = .ok (x, db')) :
    ∀ u' ∈ db'.users, ∃ u ∈ db.users, u'.id = u.id ∧
      u'.branchId = if u.id.val = id then dto.branch.setRef u.branchId else u.branchId := by
  obtain ⟨-, -, -, -, -, -, -, -, t, ht', hw⟩ := update_ok hok
  have husers : db'.users = t.users := by
    rcases hw with ⟨-, hw⟩ | ⟨_, -, hw⟩
    · rw [hw]
    · rw [hw]; rfl
  rw [husers]
  intro u' hu'
  rcases ht' with ⟨hnone, rfl⟩ | ⟨-, rfl⟩
  · have hundefined : dto.branch.defined = false := by
      simp only [UpdateUserDto.hasUserUpdates, Bool.or_eq_false_iff] at hnone
      exact hnone.2
    refine ⟨u', hu', rfl, ?_⟩
    simp [Field.setRef, hundefined]
  · rcases mem_updateWhere.1 hu' with ⟨hu', hne⟩ | ⟨u, hu, hid, rfl⟩
    · refine ⟨u', hu', rfl, ?_⟩
      rw [if_neg (by simpa using hne)]
    · refine ⟨u, hu, rfl, ?_⟩
      rw [if_pos (by simpa using hid)]
      rfl

/-- An update keeps the memberships of other users. -/
theorem Users.mem_branchesOf_update {dto : UpdateUserDto} {me : CurrentUser} {x : Unit}
    {userId k : String} (hne : userId ≠ id)
    (hok : (Users.update env T id dto me).exec db = .ok (x, db'))
    (hk : k ∈ branchesOf db.toTables userId) : k ∈ branchesOf db'.toTables userId := by
  obtain ⟨m, hm, hmu, hmk⟩ := mem_branchesOf.1 hk
  obtain ⟨-, -, hmemberships⟩ := update_writes hok
  refine mem_branchesOf.2 ⟨m, ?_, hmu, hmk⟩
  rw [hmemberships]
  cases dto.memberships with
  | none => exact hm
  | some ks =>
    refine List.mem_append_left _ (List.mem_filter.2 ⟨hm, ?_⟩)
    simp [hmu, hne]

/-- With `branchIds`, the update always writes the primary branch. -/
theorem Users.UpdateUserDto.branch_defined {dto : UpdateUserDto} {ks : List String}
    (h : dto.memberships = some ks) : dto.branch.defined = true := by
  unfold UpdateUserDto.branch
  split
  · assumption
  · rw [h]
    cases ks <;> rfl

/-- An update keeps it if the branch it sets is among the memberships then. -/
theorem Users.update_primaryAssigned (hc : TenantClosed db.toTables) {dto : UpdateUserDto}
    {me : CurrentUser} {x : Unit} (h : PrimaryAssigned db.toTables)
    (hr : ∀ k ∈ dto.branchId.truthy,
      if dto.branchIds.defined then notBlank k else k ∈ branchesOf db.toTables id)
    (hok : (Users.update env T id dto me).exec db = .ok (x, db')) :
    PrimaryAssigned db'.toTables := by
  intro u' hu' k hk
  obtain ⟨u, hu, hid, hbranch⟩ := update_branch hok u' hu'
  rw [hbranch] at hk
  rw [hid]
  by_cases huid : u.id.val = id
  · rw [if_pos huid] at hk
    rw [huid]
    by_cases hnone : dto.branchIds = .undefined
    · -- the memberships are as before
      obtain ⟨-, -, hmemberships⟩ := update_writes hok
      have hnomemberships := UpdateUserDto.memberships_of_undefined hnone
      rw [hnomemberships] at hmemberships
      rw [branchesOf, hmemberships]
      rcases Field.setRef_eq_some hk with ⟨hvalue, hne⟩ | hold
      · rcases UpdateUserDto.branch_eq_value hvalue with hvalue | ⟨ks, hks, -⟩
        · have hkept := hr k (Field.truthy_eq_some.2 ⟨hvalue, hne⟩)
          rw [hnone] at hkept
          exact hkept
        · rw [hnomemberships] at hks
          cases hks
      · exact huid ▸ h u hu k hold
    · obtain ⟨t, ht, -⟩ := exec_eq_ok.1 hok
      obtain ⟨ks, hks⟩ := exists_branchIds_of_passes ⟨t, ht⟩ hnone
      have hsome := UpdateUserDto.memberships_of_value hks
      refine ((membershipsAre_update hc hks hok).mem_iff k).2 ?_
      rw [Field.setRef, if_pos (UpdateUserDto.branch_defined hsome), Field.truthy_eq_some] at hk
      obtain ⟨hvalue, hne⟩ := hk
      rcases UpdateUserDto.branch_eq_value hvalue with hvalue | ⟨ks', hks', hk⟩
      · have hkept := hr k (Field.truthy_eq_some.2 ⟨hvalue, hne⟩)
        rw [hks] at hkept
        exact ⟨hkept, .inl hvalue⟩
      · rw [hsome] at hks'
        exact mem_normalize_iff_supplied.1 (Option.some.inj hks' ▸ hk)
  · rw [if_neg huid] at hk
    exact mem_branchesOf_update huid hok (h u hu k hk)

/-- So do the other requests on users. -/
theorem Users.Request.primaryAssigned (rq : Users.Request) (hc : TenantClosed db.toTables)
    (h : PrimaryAssigned db.toTables) (hr : rq.KeepsAssigned db.toTables) :
    PrimaryAssigned (rq.next env T db).toTables := by
  cases rq with
  | create dto =>
    exact next_holds (P := PrimaryAssigned) h fun _ db' hok => create_primaryAssigned h hr hok
  | update id dto me =>
    exact next_holds (P := PrimaryAssigned) h fun _ db' hok => update_primaryAssigned hc h hr hok
  | resetSubordinatePassword id newPassword requesterRole =>
    refine next_holds (P := PrimaryAssigned) h fun _ db' hok => ?_
    obtain ⟨-, -, -, -, -, -, hw⟩ := resetSubordinatePassword_ok hok
    have hkept : BranchKept db db' :=
      branchKept_update (congrArg Tables.users hw) fun _ => ⟨rfl, rfl⟩
    exact primaryAssigned_of_branchKept h hkept ((congrArg Tables.userBranches hw).trans rfl)
  | remove id me =>
    refine next_holds (P := PrimaryAssigned) h fun _ db' hok => ?_
    obtain ⟨-, -, -, -, -, -, -, hw⟩ := remove_ok hok
    have hkept : BranchKept db db' :=
      branchKept_update (congrArg Tables.users hw) fun _ => ⟨rfl, rfl⟩
    exact primaryAssigned_of_branchKept h hkept ((congrArg Tables.userBranches hw).trans rfl)

/-! ### Requests on branches -/

/-- A removed branch is nobody's primary branch, and the other memberships stay. -/
theorem Branches.remove_primaryAssigned {branch : Branch} (h : PrimaryAssigned db.toTables)
    (hok : (Branches.remove env T id).exec db = .ok (branch, db')) :
    PrimaryAssigned db'.toTables := by
  obtain ⟨-, hw⟩ := remove_ok hok
  have husers : db'.users = updateWhere (fun u => u.branchId = some id)
      (fun u => { u with branchId := none }) db.users := congrArg Tables.users hw
  have hmemberships : db'.userBranches =
      db.userBranches.filter fun m => !decide (m.branchId = id) :=
    congrArg Tables.userBranches hw
  intro u' hu' k hk
  rw [husers] at hu'
  rcases mem_updateWhere.1 hu' with ⟨hu, hother⟩ | ⟨u, -, -, rfl⟩
  · have hne : k ≠ id := by
      rintro rfl
      simp [hk] at hother
    obtain ⟨m, hm, hmu, hmk⟩ := mem_branchesOf.1 (h u' hu k hk)
    refine mem_branchesOf.2 ⟨m, ?_, hmu, hmk⟩
    rw [hmemberships]
    exact List.mem_filter.2 ⟨hm, by simp [hmk, hne]⟩
  · cases hk

/-- A branch that is closed is no one's primary branch any more. -/
theorem Branches.Request.primaryAssigned (rb : Branches.Request)
    (h : PrimaryAssigned db.toTables) : PrimaryAssigned (rb.next env T db).toTables := by
  cases rb with
  | create dto =>
    refine next_holds (P := PrimaryAssigned) h fun _ db' hok => ?_
    have hw := (create_ok hok).2.2
    exact primaryAssigned_of_branchKept h
      (branchKept_same ((congrArg Tables.users hw).trans rfl))
      ((congrArg Tables.userBranches hw).trans rfl)
  | update id dto =>
    refine next_holds (P := PrimaryAssigned) h fun _ db' hok => ?_
    obtain ⟨_, -, -, -, -, -, hw⟩ := update_ok hok
    exact primaryAssigned_of_branchKept h
      (branchKept_same ((congrArg Tables.users hw).trans rfl))
      ((congrArg Tables.userBranches hw).trans rfl)
  | remove id =>
    exact next_holds (P := PrimaryAssigned) h fun _ db' hok => remove_primaryAssigned h hok

/-! ### The law -/

/-- Every request keeps the law, unless it sets a branch without a membership. -/
theorem primaryAssigned_step (hc : TenantClosed db.toTables) (h : PrimaryAssigned db.toTables)
    (hr : KeepsAssigned r db) : PrimaryAssigned (step r db).toTables := by
  cases r with
  | platform env pr => exact pr.primaryAssigned h
  | tenant env T rq =>
    cases rq with
    | users rq => exact rq.primaryAssigned hc h (hr rq rfl)
    | branches rb => exact rb.primaryAssigned h
    | _ =>
      refine primaryAssigned_of_branchKept h (branchKept_same (@step_same db _ .users ?_))
        (@step_same db _ .userBranches ?_)
      all_goals simp [Request.writes, TenantRequest.writes]

/-- If the law holds after an update that supplies a branch, then the user is a member of it. -/
theorem Users.mem_branchesOf_of_primaryAssigned {dto : UpdateUserDto} {me : CurrentUser} {x : Unit}
    {k : String} (hok : (Users.update env T id dto me).exec db = .ok (x, db'))
    (hlaw : PrimaryAssigned db'.toTables) (hk : k ∈ dto.branchId.truthy) :
    k ∈ branchesOf db'.toTables id := by
  obtain ⟨⟨u', hu', hid', -⟩, -⟩ := update_writes hok
  obtain ⟨u, -, hid, hbranch⟩ := update_branch hok u' hu'
  have hvalue : dto.branchId = .value k := (Field.truthy_eq_some.1 hk).1
  have hdefined : dto.branchId.defined = true := by rw [hvalue]; rfl
  rw [if_pos (by rw [← hid, hid']), UpdateUserDto.branch, if_pos hdefined, Field.setRef,
    if_pos hdefined] at hbranch
  exact hid' ▸ hlaw u' hu' k (hbranch.trans hk)

/-- If the law holds after an accepted create, then the branch it supplies is not blank. -/
theorem Users.notBlank_of_primaryAssigned {dto : CreateUserDto} {user : User} {k : String}
    (hok : (Users.create env T dto).exec db = .ok (user, db'))
    (hlaw : PrimaryAssigned db'.toTables) (hk : k ∈ dto.branchId.truthy) : notBlank k := by
  obtain ⟨-, -, hrow, hw⟩ := create_ok hok
  have husers : db'.users = db.users ++ [user] := congrArg Tables.users hw
  have huser : user ∈ db'.users := by
    rw [husers]
    exact List.mem_append_right _ (List.mem_singleton_self user)
  have hbranch : user.branchId = some k := by
    rw [hrow, Field.nullish_eq_some.2 (Field.truthy_eq_some.1 hk).1]
    rfl
  exact (((membershipsAre_create hok).mem_iff k).1 (hlaw user huser k hbranch)).1

/-- If the law holds after an accepted update, then the update leaves the membership. -/
theorem Users.keepsAssigned_of_primaryAssigned (hc : TenantClosed db.toTables)
    {dto : UpdateUserDto} {me : CurrentUser} {x : Unit}
    (hok : (Users.update env T id dto me).exec db = .ok (x, db'))
    (hlaw : PrimaryAssigned db'.toTables) :
    (Users.Request.update id dto me).KeepsAssigned db.toTables := by
  intro k hk
  have hmember := mem_branchesOf_of_primaryAssigned hok hlaw hk
  by_cases hnone : dto.branchIds = .undefined
  · obtain ⟨-, -, hmemberships⟩ := update_writes hok
    rw [UpdateUserDto.memberships_of_undefined hnone] at hmemberships
    rw [branchesOf, hmemberships] at hmember
    rw [hnone]
    exact hmember
  · obtain ⟨t, ht, -⟩ := exec_eq_ok.1 hok
    obtain ⟨ks, hks⟩ := exists_branchIds_of_passes ⟨t, ht⟩ hnone
    have hblank := (((membershipsAre_update hc hks hok).mem_iff k).1 hmember).1
    rw [hks]
    exact hblank

/-- An accepted request that leaves the law intact leaves the membership. -/
theorem Users.Request.keepsAssigned_of_next (rq : Users.Request) (hc : TenantClosed db.toTables)
    (hne : rq.next env T db ≠ db) (hlaw : PrimaryAssigned (rq.next env T db).toTables) :
    rq.KeepsAssigned db.toTables := by
  cases rq with
  | create dto =>
    obtain ⟨user, hok⟩ := ((Users.create env T dto).next_cases db).resolve_left hne
    exact fun k hk => notBlank_of_primaryAssigned hok hlaw hk
  | update id dto me =>
    obtain ⟨_, hok⟩ := ((Users.update env T id dto me).next_cases db).resolve_left hne
    exact keepsAssigned_of_primaryAssigned hc hok hlaw
  | resetSubordinatePassword id newPassword requesterRole => trivial
  | remove id me => trivial

/-- A request that is accepted without leaving the membership breaks the law. -/
theorem not_primaryAssigned_step (hc : TenantClosed db.toTables) (hr : ¬KeepsAssigned r db)
    (hne : step r db ≠ db) : ¬PrimaryAssigned (step r db).toTables := by
  intro hlaw
  refine hr fun rq hrq => ?_
  obtain ⟨env, T, rfl⟩ := eq_of_users? hrq
  exact rq.keepsAssigned_of_next hc hne hlaw

/-- **The primary branch is one of the assigned branches** in every state of a run in which no
request moves it alone; and after any run, a request that does so is rejected or breaks the
law. -/
theorem primary_branches_assigned (rs : List Request) :
    (Along step KeepsAssigned rs Database.empty →
      Always step (fun db => PrimaryAssigned db.toTables) rs Database.empty) ∧
    let db := run step rs Database.empty
    ∀ r, ¬KeepsAssigned r db → step r db = db ∨ ¬PrimaryAssigned (step r db).toTables := by
  refine ⟨fun hrs => ?_, fun r hr => ?_⟩
  · have hlaw : Always step (fun db => Reachable db ∧ PrimaryAssigned db.toTables) rs
        Database.empty :=
      Always.and_reachable
        (fun r db hreach h hr => primaryAssigned_step (tenantClosed_of_reachable hreach) h hr)
        (fun u hu => absurd hu List.not_mem_nil) hrs
    exact hlaw.mono fun db h => h.2
  · rw [or_iff_not_imp_left]
    exact not_primaryAssigned_step (tenantClosed_of_reachable ⟨rs, rfl⟩) hr

def Sample.branch (tag tenantId : String) : Request :=
  .tenant (.sample tag 0) tenantId (.branches (.create { name := tag }))

def Sample.updateUser (tag tenantId id : String) (dto : UpdateUserDto) : Request :=
  .tenant (.sample tag 0) tenantId (.users (.update id dto ⟨"x0", .admin⟩))

/-- `u0` moves to `b0` with `branchIds`, and the branch is removed. -/
theorem primary_branches_assigned_move :
    Always step (fun db => PrimaryAssigned db.toTables)
      (Sample.company ++
        [Sample.branch "b" "t0",
         Sample.updateUser "x" "t0" "u0" { branchIds := .value ["b0"] },
         Sample.updateUser "y" "t0" "u0" { branchId := .value "b0" },
         .tenant (.sample "z" 0) "t0" (.branches (.remove "b0"))]) Database.empty :=
  (primary_branches_assigned _).1 (by decide +kernel)

/-- `u0` moves to `b0` without `branchIds`. -/
theorem primary_branch_without_membership :
    ¬∀ db, Reachable db → PrimaryAssigned db.toTables := by
  intro h
  let rs := Sample.company ++
    [Sample.branch "b" "t0", Sample.updateUser "x" "t0" "u0" { branchId := .value "b0" }]
  have hrow : ¬PrimaryAssigned (run step rs Database.empty).toTables := by decide +kernel
  exact hrow (h _ ⟨rs, rfl⟩)

end NodeVms
