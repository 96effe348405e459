/-
# The branches of a user

A user has branch memberships (`UserBranch`) and a primary branch.  A body that
supplies `branchIds` replaces the memberships as a whole, by the ids it supplies
and nothing else (`memberships_replaced`).  The primary branch is one of them as
long as no body moves it alone: `users.update` with `branchId` but without
`branchIds` leaves the memberships as they are (`primary_branches_assigned`).
-/

import NodeVms.Integrity.Unique
import NodeVms.Tenancy.Isolation

namespace NodeVms

open Store Script Prisma

variable {db db' : Database} {env : Env} {T id : String}

/-! ### Why a statement fails -/

section Statements

variable {α : Type} {m : Model α} {e : Error}

/-- A write fails at a reference or at an index. -/
theorem Prisma.run_put_error {f : Tables → Tables} (h : (put f).run db = .error e) :
    e = .foreignKeyViolation ∨ ¬(f db.toTables).Unique := by
  simp only [put, Tx.run] at h
  split_ifs at h with hu hr
  · exact .inl (Except.error.inj h).symm
  · exact .inr hu

/-- So does a new row. -/
theorem Prisma.run_create_error {r : α} (h : (create m r).run db = .error e) :
    e = .foreignKeyViolation ∨ (create m r).run db = .error .uniqueViolation := by
  rw [run_create_eq_uniqueViolation]
  rw [create, Tx.run_bind_eq_error] at h
  rcases h with h | ⟨_, db₁, -, h⟩
  · exact run_put_error h
  · exact absurd h Tx.run_pure_ne_error

/-- The row an update by id has found is still there when it is returned. -/
theorem Prisma.run_update_error {f : α → α} {o : α} (ho : o ∈ m.rows db.toTables)
    (hid : (m.id o).val = id) (hf : ∀ a, m.id (f a) = m.id a)
    (h : (update m id f).run db = .error e) :
    e = .foreignKeyViolation ∨ ¬(m.updateAt id f db.toTables).Unique := by
  rw [update, Tx.run_bind_eq_error] at h
  rcases h with h | ⟨_, db₁, hput, hfetch⟩
  · exact run_put_error h
  · have hw := run_put_eq_ok.1 hput
    have hthere : ∃ r ∈ m.rows db₁.toTables, (m.id r).val = id := by
      rw [hw, Model.updateAt, m.rows_set]
      exact exists_updateWhere (fun a _ _ ha => (congrArg Cuid.val (hf a)).trans ha) ⟨o, ho, hid⟩
    simp only [fetch, Tx.run] at hfetch
    split at hfetch
    · cases hfetch
    · rename_i hnone
      obtain ⟨r, hr, hrid⟩ := hthere
      exact absurd (decide_eq_true hrid) (List.find?_eq_none.1 hnone r hr)

end Statements

namespace Users

/-! ### Memberships as a set of ids -/

/-- The branches a user is a member of. -/
def branchesOf (t : Tables) (userId : String) : List String :=
  (t.userBranches.filter fun m => m.userId = userId).map UserBranch.branchId

/-- The body supplies the id, and it is not blank. -/
def Supplied (branchIds : Field (List String)) (branchId : Field String) (k : String) : Prop :=
  notBlank k ∧ (branchId = .value k ∨ ∃ ks, branchIds = .value ks ∧ k ∈ ks)

/-- The memberships of a user of the tenant are exactly the supplied ids, each
once and each a live branch of the tenant. -/
structure MembershipsAre (T userId : String) (supplied : String → Prop) (t : Tables) : Prop where
  user : OwnUser t T userId
  mem_iff : ∀ k, k ∈ branchesOf t userId ↔ supplied k
  nodup : (branchesOf t userId).Nodup
  live : ∀ k ∈ branchesOf t userId, LiveBranch t T k
  tenant : ∀ m ∈ t.userBranches, m.userId = userId → m.tenantId = T

/-- The branches of a user are those of its memberships. -/
theorem mem_branchesOf {t : Tables} {userId k : String} :
    k ∈ branchesOf t userId ↔ ∃ m ∈ t.userBranches, m.userId = userId ∧ m.branchId = k := by
  simp [branchesOf, and_assoc]

/-- Blank ids are dropped, and repetitions. -/
theorem mem_normalizeBranchIds {ks : List String} {k : String} :
    k ∈ normalizeBranchIds ks ↔ k ∈ ks ∧ notBlank k := by
  rw [normalizeBranchIds, List.mem_eraseDups, List.mem_filter]

/-- The ids that are written, whether or not `branchIds` is there. -/
theorem mem_normalize_iff_supplied {branchIds : Field (List String)} {branchId : Field String}
    {k : String} :
    k ∈ normalizeBranchIds (branchIds.nullish.getD [] ++ branchId.truthy.toList) ↔
      Supplied branchIds branchId k := by
  rw [mem_normalizeBranchIds, Supplied, and_comm]
  refine and_congr_right fun hblank => ?_
  have hne : k ≠ "" := by
    rintro rfl
    exact absurd hblank (by decide)
  have hids : k ∈ branchIds.nullish.getD [] ↔ ∃ ks, branchIds = .value ks ∧ k ∈ ks := by
    cases branchIds <;> simp [Field.nullish]
  rw [List.mem_append, hids, Option.mem_toList, Field.truthy_eq_some, or_comm]
  exact or_congr_left (and_iff_left hne)

/-- The branches of the rows of one `createMany`. -/
theorem map_branchId_membershipRows {userId : String} (ks : List String) :
    (membershipRows env T userId ks).map UserBranch.branchId = ks := by
  rw [membershipRows, List.mapIdx_eq_zipIdx_map, List.map_map]
  exact List.zipIdx_map_fst 0 ks

/-- After the insert into memberships of other users. -/
theorem branchesOf_insert {t : Tables} {l : List UserBranch} {userId : String}
    {ks : List String} (h : t.userBranches = l ++ membershipRows env T userId ks)
    (hl : ∀ m ∈ l, m.userId ≠ userId) : branchesOf t userId = ks := by
  have hold : (l.filter fun m => m.userId = userId) = [] :=
    List.filter_eq_nil_iff.2 fun m hm hp => hl m hm (of_decide_eq_true hp)
  have hnew : ((membershipRows env T userId ks).filter fun m => m.userId = userId) =
      membershipRows env T userId ks :=
    List.filter_eq_self.2 fun m hm => decide_eq_true (mem_membershipRows hm).2.1
  rw [branchesOf, h, List.filter_append, hold, hnew, List.nil_append, map_branchId_membershipRows]

/-- What both requests write. -/
theorem membershipsAre_of_insert {t : Tables} {l : List UserBranch} {userId : String}
    {branchIds : Field (List String)} {branchId : Field String} (huser : OwnUser t T userId)
    (h : t.userBranches = l ++ membershipRows env T userId
      (normalizeBranchIds (branchIds.nullish.getD [] ++ branchId.truthy.toList)))
    (hl : ∀ m ∈ l, m.userId ≠ userId)
    (hlive : ∀ k ∈ normalizeBranchIds (branchIds.nullish.getD [] ++ branchId.truthy.toList),
      LiveBranch t T k) :
    MembershipsAre T userId (Supplied branchIds branchId) t := by
  have hof := branchesOf_insert h hl
  constructor
  · exact huser
  · intro k
    rw [hof]
    exact mem_normalize_iff_supplied
  · rw [hof]
    exact nodup_eraseDups _
  · rw [hof]
    exact hlive
  · intro m hm hmid
    rw [h, List.mem_append] at hm
    rcases hm with hm | hm
    · exact absurd hmid (hl m hm)
    · exact (mem_membershipRows hm).1

/-! ### A new user -/

/-- The row `tx.user.create` inserts. -/
def CreateUserDto.row (env : Env) (T : String) (dto : CreateUserDto) : User :=
  { id := env.cuid 0, tenantId := T, branchId := dto.branchId.nullish.or dto.memberships.head?,
    name := dto.name, email := dto.email, password := env.hash dto.password,
    role := dto.role.nullish.getD .employee, approvalStatus := .approved,
    isActive := true, deletedAt := none }

/-- Of the unique indexes only that of the new user's row can refuse a create. -/
theorem create_error (hids : NewIds env db.toTables) {dto : CreateUserDto} {e : Error}
    (hp : (create env T dto).Passes db) (h : (create env T dto).exec db = .error e) :
    e = .foreignKeyViolation ∨
      (Prisma.create .user (dto.row env T)).run db = .error .uniqueViolation := by
  obtain ⟨t, ht⟩ := hp
  rw [exec_of_eval ht] at h
  simp only [create, eval_bind_eq_ok, eval_commit_eq_ok] at ht
  obtain ⟨-, -, -, -, -, -, -, -, rfl⟩ := ht
  rw [Tx.run_bind_eq_error] at h
  rcases h with h | ⟨user, db₁, hok, h⟩
  · exact run_create_error h
  · obtain ⟨rfl, hw⟩ := run_create_eq_ok.1 hok
    rw [Tx.run_bind_eq_error, Tx.run_when_eq_error] at h
    rcases h with ⟨-, h⟩ | ⟨_, db₂, -, h⟩
    · refine .inl ((run_put_error h).resolve_right (not_not.2 ?_))
      exact unique_insert_memberships_of_new hids rfl (nodup_eraseDups _) hw
    · exact absurd h Tx.run_pure_ne_error

/-- A new user has the memberships that are supplied. -/
theorem membershipsAre_create {dto : CreateUserDto} {user : User}
    (h : (create env T dto).exec db = .ok (user, db')) :
    MembershipsAre T user.id (Supplied dto.branchIds dto.branchId) db'.toTables := by
  obtain ⟨hbs, -, hrow, hw⟩ := create_ok h
  have husers : db'.users = db.users ++ [user] := congrArg Tables.users hw
  have huser : OwnUser db'.toTables T user.id := by
    refine ⟨user, ?_, rfl, ?_⟩
    · rw [husers]
      exact List.mem_append_right _ (List.mem_singleton_self user)
    · rw [hrow]
  have hold : ∀ m ∈ db.userBranches, m.userId ≠ user.id :=
    userId_ne_of_new (db'.id_ne_of_append .user husers)
  refine membershipsAre_of_insert huser (congrArg Tables.userBranches hw) hold fun k hk => ?_
  obtain ⟨b, hb, hlive⟩ := hbs k hk
  exact ⟨b, (congrArg Tables.branches hw).symm ▸ hb, hlive⟩

/-! ### A changed user -/

/-- An update keeps the key and the email of the user. -/
theorem unique_updateAt {target : User} (ht : target ∈ db.users) (hid : target.id.val = id)
    (dto : UpdateUserDto) (hash : String → String) :
    (Model.user.updateAt id (dto.apply hash) db.toTables).Unique := by
  refine Schema.user_indexed.unique_updateAt_of_keys ht hid (fun _ => rfl) ?_
  simp only [List.forall_mem_cons, List.not_mem_nil, false_implies, implies_true, and_true]
  exact ⟨rfl, rfl⟩

/-- A membership and its user are of one tenant, so the delete of an update
leaves none of the user. -/
theorem userId_ne_of_deleted (hc : TenantClosed db.toTables) {target : User}
    (ht : target ∈ db.users) (hid : target.id.val = id) (hT : target.tenantId = T) :
    ∀ m ∈ db.userBranches.filter fun m => !decide (m.tenantId = T ∧ m.userId = id),
      m.userId ≠ id := by
  intro m hm hmid
  obtain ⟨hm, hkept⟩ := List.mem_filter.1 hm
  have hmT : m.tenantId = T :=
    (OwnUser.tenant_of_id (hc.userBranch_user m hm) ht (hid.trans hmid.symm)).symm.trans hT
  simp [hmT, hmid] at hkept

/-- No unique index refuses the memberships that an update writes. -/
theorem replace_error (hids : NewIds env db.toTables) {db₁ : Database}
    (hrows : db₁.userBranches = db.userBranches)
    (hold : ∀ m ∈ db.userBranches.filter fun m => !decide (m.tenantId = T ∧ m.userId = id),
      m.userId ≠ id)
    {ks : List String} (hks : ks.Nodup) {e : Error}
    (h : Tx.run (do
        deleteMany .userBranch fun b => b.tenantId = T ∧ b.userId = id
        Tx.when (ks.length > 0) (createMany .userBranch (membershipRows env T id ks))) db₁ =
      .error e) : e = .foreignKeyViolation := by
  rw [Tx.run_bind_eq_error] at h
  rcases h with h | ⟨_, db₂, hdelete, h⟩
  · exact (run_put_error h).resolve_right
      (not_not.2 (Schema.userBranch_indexed.unique_delete _))
  · obtain ⟨-, h⟩ := Tx.run_when_eq_error.1 h
    refine (run_put_error h).resolve_right (not_not.2 ?_)
    have hrows₂ : db₂.userBranches =
        db.userBranches.filter fun m => !decide (m.tenantId = T ∧ m.userId = id) := by
      rw [run_deleteMany_eq_ok.1 hdelete, ← hrows]
      rfl
    refine unique_insert_membershipRows hids.injective ?_ ?_ hks
    · rw [hrows₂]
      exact fun m hm => hids.userBranches m (List.mem_of_mem_filter hm)
    · rw [hrows₂]
      exact hold

/-- No unique index refuses an update. -/
theorem update_error (hc : TenantClosed db.toTables) (hids : NewIds env db.toTables)
    {dto : UpdateUserDto} {me : CurrentUser} {e : Error}
    (hp : (update env T id dto me).Passes db) (h : (update env T id dto me).exec db = .error e) :
    e = .foreignKeyViolation := by
  obtain ⟨t, ht⟩ := hp
  rw [exec_of_eval ht] at h
  simp only [update, findActiveUser, eval_bind_eq_ok, eval_orThrow_eq_ok, eval_throwIf_eq_ok,
    eval_commit_eq_ok] at ht
  obtain ⟨target, ⟨_, hfound, rfl⟩, -, -, -, -, -, -, -, -, -, -, -, -, -, -, -, -, -, -, -, -,
    rfl⟩ := ht
  obtain ⟨htarget, hid, hT, -⟩ := eval_findById_eq_some.1 hfound
  rw [Tx.run_bind_eq_error] at h
  rcases h with h | ⟨_, db₁, huser, h⟩
  · obtain ⟨-, h⟩ := Tx.run_when_eq_error.1 h
    rw [Tx.run_bind_eq_error] at h
    rcases h with h | ⟨_, _, -, h⟩
    · have hunique := unique_updateAt htarget hid dto env.hash
      exact (run_update_error htarget hid (f := dto.apply env.hash) (fun _ => rfl) h).resolve_right
        (not_not.2 hunique)
    · exact absurd h Tx.run_pure_ne_error
  · have hrows : db₁.userBranches = db.userBranches := by
      rcases Tx.run_when_eq_ok.1 huser with ⟨-, huser⟩ | ⟨-, rfl⟩
      · obtain ⟨_, db₂, hok, hpure⟩ := Tx.run_bind_eq_ok.1 huser
        obtain ⟨-, rfl⟩ := Tx.run_pure_eq_ok.1 hpure
        rw [(run_update_eq_ok.1 hok).1]
        rfl
      · rfl
    obtain ⟨branchIds, hks, h⟩ := Tx.run_whenSome_eq_error.1 h
    obtain ⟨ks, -, rfl⟩ := Option.map_eq_some_iff.1 hks
    exact replace_error hids hrows (userId_ne_of_deleted hc htarget hid hT) (nodup_eraseDups _) h

/-- A body without branches leaves the memberships. -/
theorem UpdateUserDto.memberships_of_undefined {dto : UpdateUserDto}
    (h : dto.branchIds = .undefined) : dto.memberships = none := by
  rw [UpdateUserDto.memberships, h]
  rfl

/-- A body with branches replaces them, the primary branch included. -/
theorem UpdateUserDto.memberships_of_value {dto : UpdateUserDto} {ks : List String}
    (h : dto.branchIds = .value ks) : dto.memberships = some (normalizeBranchIds
      (dto.branchIds.nullish.getD [] ++ dto.branchId.truthy.toList)) := by
  rw [UpdateUserDto.memberships, h]
  rfl

/-- The first statement of an update touches neither memberships nor branches. -/
theorem update_writes {dto : UpdateUserDto} {me : CurrentUser} {u : Unit}
    (h : (update env T id dto me).exec db = .ok (u, db')) :
    OwnUser db'.toTables T id ∧ db'.branches = db.branches ∧
      db'.userBranches = match dto.memberships with
        | some ks => (db.userBranches.filter fun m => !decide (m.tenantId = T ∧ m.userId = id)) ++
            membershipRows env T id ks
        | none => db.userBranches := by
  obtain ⟨target, ht, hid, hT, -, -, -, -, t, ht', hw⟩ := update_ok h
  have hown : OwnUser t T id ∧ t.branches = db.branches ∧ t.userBranches = db.userBranches := by
    rcases ht' with ⟨-, rfl⟩ | ⟨-, rfl⟩
    · exact ⟨⟨target, ht, hid, hT⟩, rfl, rfl⟩
    · exact ⟨exists_updateWhere (fun _ _ _ h => h) ⟨target, ht, hid, hT⟩, rfl, rfl⟩
  obtain ⟨hown, hbranches, hmemberships⟩ := hown
  rcases hw with ⟨hks, hw⟩ | ⟨ks, hks, hw⟩
  · rw [hks, hw]
    exact ⟨hown, hbranches, hmemberships⟩
  · rw [hks, hw]
    refine ⟨hown, hbranches, ?_⟩
    rw [← hmemberships]
    rfl

/-- After an update with branches a user has the memberships that are supplied. -/
theorem membershipsAre_update (hc : TenantClosed db.toTables) {dto : UpdateUserDto}
    {me : CurrentUser} {u : Unit} {ks : List String} (hks : dto.branchIds = .value ks)
    (h : (update env T id dto me).exec db = .ok (u, db')) :
    MembershipsAre T id (Supplied dto.branchIds dto.branchId) db'.toTables := by
  obtain ⟨target, ht, hid, hT, -, -, -, hbs, -⟩ := update_ok h
  obtain ⟨hown, hbranches, hmemberships⟩ := update_writes h
  have hsome := UpdateUserDto.memberships_of_value hks
  rw [hsome] at hmemberships
  refine membershipsAre_of_insert hown hmemberships (userId_ne_of_deleted hc ht hid hT)
    fun k hk => ?_
  obtain ⟨b, hb, hlive⟩ := hbs _ hsome k hk
  exact ⟨b, hbranches.symm ▸ hb, hlive⟩

/-- `null` is no list of branches. -/
theorem exists_branchIds_of_passes {dto : UpdateUserDto} {me : CurrentUser}
    (hp : (update env T id dto me).Passes db) (hdefined : dto.branchIds ≠ .undefined) :
    ∃ ks, dto.branchIds = .value ks := by
  obtain ⟨t, ht⟩ := hp
  simp only [update, eval_bind_eq_ok, eval_throwIf_eq_ok, not_or] at ht
  obtain ⟨-, -, -, -, -, -, -, -, -, -, -, ⟨-, hnull⟩, -⟩ := ht
  cases hks : dto.branchIds with
  | undefined => exact absurd hks hdefined
  | null => exact absurd hks hnull
  | value ks => exact ⟨ks, rfl⟩

/-- **Memberships are replaced exactly:** a create and an update that supplies
`branchIds` leave the user with the supplied ids, and no index on memberships
refuses them; an update without `branchIds` leaves the memberships alone. -/
theorem memberships_replaced (hdb : Reachable db) (hids : NewIds env db.toTables) (T : String) :
    (∀ dto, (create env T dto).Passes db →
      (create env T dto).exec db ≠ .error .foreignKeyViolation →
      (Prisma.create .user (dto.row env T)).run db = .error .uniqueViolation ∨
        ∃ user db', (create env T dto).exec db = .ok (user, db') ∧
          MembershipsAre T user.id (Supplied dto.branchIds dto.branchId) db'.toTables) ∧
    ∀ id dto me,
      (dto.branchIds ≠ .undefined → (update env T id dto me).Passes db →
        (update env T id dto me).exec db ≠ .error .foreignKeyViolation →
        ∃ db', (update env T id dto me).exec db = .ok ((), db') ∧
          MembershipsAre T id (Supplied dto.branchIds dto.branchId) db'.toTables) ∧
      (dto.branchIds = .undefined →
        ((update env T id dto me).next db).userBranches = db.userBranches) := by
  have hc := tenantClosed_of_reachable hdb
  refine ⟨fun dto hp hfk => ?_, fun id dto me => ⟨fun hdefined hp hfk => ?_, fun hnone => ?_⟩⟩
  · cases h : (create env T dto).exec db with
    | error e =>
      rcases create_error hids hp h with rfl | huser
      · exact absurd h hfk
      · exact .inl huser
    | ok r => exact .inr ⟨r.1, r.2, rfl, membershipsAre_create h⟩
  · obtain ⟨ks, hks⟩ := exists_branchIds_of_passes hp hdefined
    cases h : (update env T id dto me).exec db with
    | error e =>
      obtain rfl := update_error hc hids hp h
      exact absurd h hfk
    | ok r => exact ⟨r.2, rfl, membershipsAre_update hc hks h⟩
  · rcases (update env T id dto me).next_cases db with hsame | ⟨_, hok⟩
    · rw [hsame]
    · obtain ⟨-, -, hmemberships⟩ := update_writes hok
      rw [hmemberships, UpdateUserDto.memberships_of_undefined hnone]

/-- `u0` becomes a member of `b0`, which the body supplies three times. -/
theorem memberships_replaced_sample :
    let db := run step (Sample.company ++
      [.tenant (.sample "b" 0) "t0" (.branches (.create { name := "b" }))]) Database.empty
    let dto : UpdateUserDto := { branchId := .value "b0", branchIds := .value ["b0", " ", "b0"] }
    ∃ db', (update Sample.unary "t0" "u0" dto ⟨"x0", .admin⟩).exec db = .ok ((), db') ∧
      MembershipsAre "t0" "u0" (Supplied dto.branchIds dto.branchId) db'.toTables := by
  intro db dto
  have hids : NewIds Sample.unary db.toTables :=
    Sample.newIds (by decide) (by decide) (by decide) (by decide) (by decide +kernel)
      (by decide +kernel)
  have haccepted : (update Sample.unary "t0" "u0" dto ⟨"x0", .admin⟩).Accepted db := by
    decide +kernel
  obtain ⟨_, hok⟩ := accepted_iff.1 haccepted
  refine ((memberships_replaced ⟨_, rfl⟩ hids "t0").2 "u0" dto ⟨"x0", .admin⟩).1 ?_ ?_ ?_
  · exact nofun
  · decide +kernel
  · rw [hok]
    exact nofun

end Users

end NodeVms
