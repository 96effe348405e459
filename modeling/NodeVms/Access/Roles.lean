/-
# Roles

`no_privilege_escalation` collects what keeps the two privileged roles where they
are, over the runs of the application: who creates them, that nobody acquires or
loses one, that each registered company keeps its ADMIN, whose tokens claim one,
and who may touch the account of an ADMIN.

`RolesGuard` decides on the role the token claims and never looks at the
account.  `role_claims` says how far that role can be from the current one.
-/

import NodeVms.Access.Tokens

namespace NodeVms

open Store Users

variable {clients : Clients} {pick : Pick FeatureAccess} {w : World}

/-- The runs of the application. -/
abbrev World.Served (clients : Clients) (pick : Pick FeatureAccess) (w : World) : Prop :=
  Store.Reachable (World.serve clients pick) World.init w

/-! ### Who asks -/

/-- A call that has passed the guards of a handler that is not public. -/
theorem HttpCall.Admitted.session {call : HttpCall} {session : Option Session} {e : Endpoint}
    (h : call.Admitted clients pick w session) (he : call.action.endpoint = some e)
    (hpub : ¬e.context.Public) : ∃ s, session = some s ∧ ⟨.access, s.user⟩ ∈ w.tokens ∧
      (s.user.role = .superAdmin ∨ e.context.requiredRoles = [] ∨
        s.user.role ∈ e.context.requiredRoles) := by
  obtain ⟨e', he', hok⟩ := h
  obtain rfl := Option.some.inj (he.symm.trans he')
  exact session_of_authorize (guards_eq_ok.1 hok).1 hpub

/-- A request of the platform, unless it is the offline job, comes from a call. -/
theorem Event.platform_request {e : Event} {up : Bool} {env : Env} {pr : PlatformRequest}
    (h : e.operation clients pick w = some (.request up (.platform env pr)))
    (hpr : pr ≠ .runOfflineDetection) : ∃ call session pr₀, e = .http call ∧
      call.Admitted clients pick w session ∧ call.action = .platform pr₀ ∧ env = call.env ∧
      ((∃ s, session = some s ∧ pr = pr₀.by s.user) ∨ session = none ∧ pr = pr₀) := by
  cases e with
  | http call =>
    obtain ⟨session, hadm, hop⟩ := Event.operation_http h
    rcases HttpCall.operation_request hop with ⟨s, rt, _, -, -, hr⟩ | ⟨s, pr₀, hs, ha, hr⟩ |
      ⟨pr₀, hs, ha, hr⟩
    · cases hr
    · cases hr
      exact ⟨call, session, pr₀, rfl, hadm, ha, rfl, .inl ⟨s, hs, rfl⟩⟩
    · cases hr
      exact ⟨call, session, _, rfl, hadm, ha, rfl, .inr ⟨hs, rfl⟩⟩
  | dailyAlertsScan env T => cases h
  | offlineDetection env => cases h; exact absurd rfl hpr

/-- A request of a tenant, unless it is the daily scan, comes from a call. -/
theorem Event.tenant_request {e : Event} {up : Bool} {env : Env} {T : String} {rt : TenantRequest}
    (h : e.operation clients pick w = some (.request up (.tenant env T rt)))
    (hrt : rt ≠ .alerts (.scan 30)) : ∃ call s rt₀ limited, e = .http call ∧
      call.Admitted clients pick w (some s) ∧ call.action = .tenant rt₀ ∧ env = call.env ∧
      T = s.user.tenantId ∧ rt = rt₀.by s.user limited := by
  cases e with
  | http call =>
    obtain ⟨session, hadm, hop⟩ := Event.operation_http h
    rcases HttpCall.operation_request hop with ⟨s, rt₀, limited, rfl, ha, hr⟩ |
      ⟨s, pr₀, hs, ha, hr⟩ | ⟨pr₀, hs, ha, hr⟩
    · cases hr
      exact ⟨call, s, rt₀, limited, rfl, hadm, ha, rfl, rfl, rfl⟩
    · cases hr
    · cases hr
  | dailyAlertsScan env T => cases h; exact absurd rfl hrt
  | offlineDetection env => cases h

/-- By the account's own profile operations, or by one reserved to SUPER_ADMINs. -/
def Event.Entitled (clients : Clients) (pick : Pick FeatureAccess) (w : World) (u : User) :
    Event → Prop
  | .http call => ∃ e ∈ call.action.endpoint, ∃ s, call.Admitted clients pick w (some s) ∧
      (e.controller = .profile ∧ s.user.sub = u.id ∨
        e.context.requiredRoles = [.superAdmin] ∧ s.user.role = .superAdmin)
  | _ => False

/-- An administrator's operation is an administrator's. -/
theorem Event.entitled_of_reserved {e : Event} {u : User} {up : Bool} {env : Env}
    {pr : PlatformRequest} {p : Endpoint}
    (h : e.operation clients pick w = some (.request up (.platform env pr)))
    (hp : pr.endpoint = some p) (hpub : ¬p.context.Public)
    (hroles : p.context.requiredRoles = [.superAdmin]) : e.Entitled clients pick w u := by
  have hpr : pr ≠ .runOfflineDetection := by rintro rfl; cases hp
  obtain ⟨call, session, pr₀, rfl, hadm, ha, -, hpr₀⟩ := Event.platform_request h hpr
  have hend : pr₀.endpoint = some p := by
    rcases hpr₀ with ⟨s, -, rfl⟩ | ⟨-, rfl⟩
    · rwa [PlatformRequest.endpoint_by] at hp
    · exact hp
  have haction : call.action.endpoint = some p := by rw [ha]; exact hend
  obtain ⟨s, rfl, -, hrole⟩ := hadm.session haction hpub
  rw [hroles] at hrole
  refine ⟨p, haction, s, hadm, .inr ⟨hroles, ?_⟩⟩
  rcases hrole with h | h | h
  · exact h
  · cases h
  · exact List.mem_singleton.1 h

/-! ### The account of an ADMIN -/

/-- What the rights of an account depend on. -/
structure Rights where
  role : Role
  approvalStatus : ApprovalStatus
  isActive : Bool
  password : String
  deletedAt : Option Time
  deriving DecidableEq

/-- What the gates read of an account. -/
def User.rights (u : User) : Rights :=
  ⟨u.role, u.approvalStatus, u.isActive, u.password, u.deletedAt⟩

/-- The event is entitled to the change, if it changes the rights of an ADMIN. -/
theorem UserStep.entitled (hw : w.Reachable clients) {e : Event} {up : Bool} {r : Request}
    (hop : e.operation clients pick w = some (.request up r)) {u u' : User}
    (h : UserStep r u u') (hu : u ∈ w.db.users) (hadmin : u.role = .admin)
    (hne : u'.rights ≠ u.rights) : e.Entitled clients pick w u := by
  have hnot : u.role ∉ MANAGEABLE_ROLES := by rw [hadmin]; decide
  cases h with
  | same => exact absurd rfl hne
  | unbranch => exact absurd rfl hne
  | rename => exact absurd rfl hne
  | update h hm => exact absurd hm hnot
  | remove h hm => exact absurd hm hnot
  | @resetPassword env newPassword requesterRole h hm =>
    -- only a SUPER_ADMIN gets here, and no SUPER_ADMIN shares the ADMIN's tenant
    subst h
    obtain ⟨call, s, rt, limited, -, hadm, ha, -, hT, hrt⟩ := Event.tenant_request hop (by simp)
    have hend : call.action.endpoint = some ⟨.users, UsersController.resetPassword⟩ := by
      rw [ha]
      have := rt.endpoint_by s.user limited
      rw [← hrt] at this
      exact congrArg some this.symm
    obtain ⟨s', hs, htoken, hrole⟩ := hadm.session hend (by decide)
    obtain rfl := Option.some.inj hs
    have hrequester : requesterRole = s.user.role := by
      cases rt with
      | users rq => cases rq <;> cases hrt; rfl
      | trips rq => cases rq <;> cases hrt
      | _ => cases hrt
    have hsuper : s.user.role = .superAdmin := by
      rcases hrole with h | h | h
      · exact h
      · cases h
      · rw [← hrequester] at h
        exact absurd (hm (List.mem_singleton.1 h)) hnot
    obtain ⟨v, hv⟩ := hw.exists_bearer _ htoken
    have hvrole : v.role = .superAdmin := by
      have hakin := hv.akin
      rw [show (⟨Secret.access, s.user⟩ : Signed).payload.role = .superAdmin from hsuper] at hakin
      exact (hakin.eq_of_not_mem (by decide)).symm
    obtain rfl := hw.accounts.alone v hv.mem u hu (by rw [hvrole]; decide) hnot
      (hv.tenantId_eq.trans hT.symm)
    rw [hvrole] at hadmin
    cases hadmin
  | @decided env pr status h hpr =>
    subst h
    cases pr with
    | approve => exact e.entitled_of_reserved hop rfl (by decide) rfl
    | reject => exact e.entitled_of_reserved hop rfl (by decide) rfl
    | suspend => exact e.entitled_of_reserved hop rfl (by decide) rfl
    | reactivate => exact e.entitled_of_reserved hop rfl (by decide) rfl
    | _ => cases hpr
  | resetAdminPassword h =>
    subst h
    exact e.entitled_of_reserved hop rfl (by decide) rfl
  | @changePassword env dto h =>
    subst h
    obtain ⟨call, session, pr, rfl, hadm, ha, -, hpr⟩ := Event.platform_request hop (by simp)
    have hend : call.action.endpoint = some ⟨.profile, ProfileController.changePassword⟩ := by
      rw [ha]
      rcases hpr with ⟨s, -, hpr⟩ | ⟨-, rfl⟩
      · have := pr.endpoint_by s.user
        rw [← hpr] at this
        exact this.symm
      · rfl
    obtain ⟨s, rfl, -, -⟩ := hadm.session hend (by decide)
    refine ⟨_, hend, s, hadm, .inl ⟨rfl, ?_⟩⟩
    rcases hpr with ⟨s', hs, hpr⟩ | ⟨hs, -⟩
    · obtain rfl := Option.some.inj hs
      cases pr with
      | changePassword => exact (PlatformRequest.changePassword.inj hpr).1.symm
      | _ => cases hpr
    · cases hs

/-! ### Who creates a privileged account -/

/-- An account with a privileged role is new after one of two calls. -/
theorem World.created_by {e : Event} {u' : User}
    (hu' : u' ∈ (World.serve clients pick e w).db.users)
    (hnew : ∀ u ∈ w.db.users, u.id ≠ u'.id) :
    (u'.role = .superAdmin → ∃ call dto, e = .http call ∧
      call.action = .platform (.seedSuperAdmin dto)) ∧
    (u'.role = .admin → ∃ call dto, e = .http call ∧
      call.action = .platform (.registerTenant dto)) := by
  rcases World.serve_db e with hsame | ⟨up, r, hop, hdb⟩
  · rw [hsame] at hu'
    exact absurd rfl (hnew u' hu')
  · rw [hdb] at hu'
    rcases (step_users r w.db).descends u' hu' with ⟨u, hu, hid, -⟩ | ⟨-, hfrom⟩
    · exact absurd hid (hnew u hu)
    · cases hfrom with
      | created hm =>
        refine ⟨fun h => ?_, fun h => ?_⟩ <;> rw [h] at hm <;> exact absurd hm (by decide)
      | @registered env dto h hid hT hfresh hrole =>
        subst h
        obtain ⟨call, session, pr, rfl, -, ha, -, hpr⟩ := Event.platform_request hop (by simp)
        have hpr : pr = .registerTenant dto := by
          rcases hpr with ⟨s, -, hpr⟩ | ⟨-, rfl⟩
          · cases pr <;> cases hpr
            rfl
          · rfl
        refine ⟨fun h => ?_, fun _ => ⟨call, dto, rfl, by rw [ha, hpr]⟩⟩
        rw [hrole] at h
        cases h
      | @seeded env dto h hid hT hfresh hrole =>
        subst h
        obtain ⟨call, session, pr, rfl, -, ha, -, hpr⟩ := Event.platform_request hop (by simp)
        have hpr : pr = .seedSuperAdmin dto := by
          rcases hpr with ⟨s, -, hpr⟩ | ⟨-, rfl⟩
          · cases pr <;> cases hpr
            rfl
          · rfl
        refine ⟨fun _ => ⟨call, dto, rfl, by rw [ha, hpr]⟩, fun h => ?_⟩
        rw [hrole] at h
        cases h

/-! ### The ADMIN of a company -/

/-- The account is the company's ADMIN. -/
def IsAdminOf (db : Database) (id : Cuid) (tenantId : String) (a : User) : Prop :=
  a ∈ db.users ∧ a.id = id ∧ a.tenantId = tenantId ∧ a.role = .admin

/-- An account that was the admin of a tenant still is. -/
theorem exists_isAdminOf_serve {id : Cuid} {T : String} (e : Event)
    (h : ∃ a, IsAdminOf w.db id T a) :
    ∃ a, IsAdminOf (World.serve clients pick e w).db id T a := by
  rcases @World.serve_db clients pick w e with hsame | ⟨up, r, -, hdb⟩
  · rwa [hsame]
  · rw [hdb]
    obtain ⟨a, ha, hid, hT, hadmin⟩ := h
    obtain ⟨a', ha', hid', hstep⟩ := (step_users r w.db).exists_next ha
    have hnot : a.role ∉ MANAGEABLE_ROLES := by rw [hadmin]; decide
    exact ⟨a', ha', hid'.trans hid, hstep.tenantId_eq.trans hT,
      (hstep.role_eq hnot).trans hadmin⟩

/-- A registration has passed no guard: it is public. -/
theorem World.serve_registerTenant {call : HttpCall} {dto : Auth.RegisterTenantDto}
    (ha : call.action = .platform (.registerTenant dto)) :
    (World.serve clients pick (.http call) w).db = (Auth.registerTenant call.env dto).next w.db := by
  obtain ⟨request, env, action⟩ := call
  subst ha
  rfl

/-- A registration makes an account the admin of its tenant. -/
theorem exists_isAdminOf_of_registered {call : HttpCall} {dto : Auth.RegisterTenantDto}
    (ha : call.action = .platform (.registerTenant dto))
    (hok : (Auth.registerTenant call.env dto).Accepted w.db) :
    ∃ a, IsAdminOf (World.serve clients pick (.http call) w).db (call.env.cuid 1)
      (call.env.cuid 0) a := by
  rw [World.serve_registerTenant ha]
  obtain ⟨a, hok⟩ := Script.accepted_iff.1 hok
  obtain ⟨hrow, hw⟩ := Auth.registerTenant_ok hok
  have husers : ((Auth.registerTenant call.env dto).next w.db).users = w.db.users ++ [a] :=
    congrArg Tables.users hw
  refine ⟨a, ?_, by rw [hrow], by rw [hrow], by rw [hrow]⟩
  rw [husers]
  exact List.mem_append_right _ List.mem_cons_self

/-- **No privilege escalation**, in every run of the application from the empty
database. -/
theorem no_privilege_escalation (hw : w.Served clients pick) :
    (∀ e, let w' := World.serve clients pick e w
      (∀ u' ∈ w'.db.users, (∀ u ∈ w.db.users, u.id ≠ u'.id) →
        (u'.role = .superAdmin → ∃ call dto, e = .http call ∧
          call.action = .platform (.seedSuperAdmin dto)) ∧
        (u'.role = .admin → ∃ call dto, e = .http call ∧
          call.action = .platform (.registerTenant dto))) ∧
      ∀ u ∈ w.db.users, ∀ u' ∈ w'.db.users, u'.id = u.id →
        (u'.role = u.role ∨ u.role = .driver ∧ u'.role = .employee ∨
          u.role = .employee ∧ u'.role = .driver) ∧
        (u.role = .admin → u'.rights ≠ u.rights → e.Entitled clients pick w u)) ∧
    (∀ call dto es, call.action = .platform (.registerTenant dto) →
      (Auth.registerTenant call.env dto).Accepted w.db →
      let w' := run (World.serve clients pick) es (World.serve clients pick (.http call) w)
      ∃ a ∈ w'.db.users, a.id = call.env.cuid 1 ∧ a.tenantId = call.env.cuid 0 ∧
        a.role = .admin ∧ a.deletedAt = none ∧
        ∀ b ∈ w'.db.users, b.tenantId = a.tenantId → b.role = .admin → b = a) ∧
    ∀ t ∈ w.tokens, t.payload.role = .admin ∨ t.payload.role = .superAdmin →
      ∃ u ∈ w.db.users, u.id.val = t.payload.sub ∧ u.role = t.payload.role := by
  have hreach : w.Reachable clients := World.reachable_of_serve hw
  refine ⟨?_, ?_, ?_⟩
  · intro e w'
    refine ⟨fun u' hu' hnew => World.created_by hu' hnew, ?_⟩
    intro u hu u' hu' hid
    rcases @World.serve_db clients pick w e with
      hsame | ⟨up, r, hop, hdb⟩
    · have huu : u' = u := by
        rw [show w'.db = w.db from hsame] at hu'
        exact w.db.eq_of_id .user hu' hu (congrArg Cuid.val hid)
      rw [huu]
      exact ⟨.inl rfl, fun _ hne => absurd rfl hne⟩
    · rw [show w'.db = NodeVms.step r w.db from hdb] at hu'
      have hstep : UserStep r u u' := (step_users r w.db).of_id hu hu' hid
      refine ⟨?_, fun hadmin hne => hstep.entitled hreach hop hu hadmin hne⟩
      rcases hstep.role_eq_or with h | ⟨hm, hm'⟩
      · exact .inl h
      · revert hm hm'
        cases u.role <;> cases u'.role <;> simp [MANAGEABLE_ROLES]
  · intro call dto es ha hok w'
    have hw' : w'.Served clients pick := (hw.next (.http call)).run es
    obtain ⟨a, hmem, hid, hT, hadmin⟩ : ∃ a, IsAdminOf w'.db (call.env.cuid 1) (call.env.cuid 0) a :=
      run_invariant
        (I := fun w : World => ∃ a, IsAdminOf w.db (call.env.cuid 1) (call.env.cuid 0) a)
        (fun e _ h => exists_isAdminOf_serve e h) es _ (exists_isAdminOf_of_registered ha hok)
    have hinv := (World.reachable_of_serve hw').accounts
    have hnot : a.role ∉ MANAGEABLE_ROLES := by rw [hadmin]; decide
    refine ⟨a, hmem, hid, hT, hadmin, hinv.live a hmem hnot, fun b hb hbT hbadmin => ?_⟩
    exact hinv.alone b hb a hmem (by rw [hbadmin]; decide) hnot hbT
  · intro t ht hrole
    obtain ⟨u, hu⟩ := hreach.exists_bearer t ht
    refine ⟨u, hu.mem, hu.id_eq, (hu.akin.eq_of_not_mem ?_).symm⟩
    rcases hrole with h | h <;> rw [h] <;> decide

/-- A company registers; the SUPER_ADMIN approves its ADMIN and fails to remove it. -/
theorem no_privilege_escalation_registered :
    let clients := Sample.clients [("s", Sample.token .access "s1" "s" "s0" .superAdmin)]
    let seed := Sample.http (.sample "s" 0) none
      (.platform (.seedSuperAdmin { name := "s", email := "s", password := "s", seedSecret := "" }))
    let register := Sample.http (.sample "t" 0) none (.platform (.registerTenant
      { tenantName := "t", adminName := "t", email := "t", password := "t" }))
    let approve := Sample.http (.sample "x" 0) (some "s") (.platform (.approve "t1"))
    let remove := Sample.http (.sample "x" 0) (some "s") (.tenant (.users (.remove "t1" ⟨"", .admin⟩)))
    let w' := run (World.serve clients .first) [.http approve, .http remove]
      (World.serve clients .first (.http register)
        (run (World.serve clients .first) [.http seed] World.init))
    ∃ a ∈ w'.db.users, a.id.val = "t1" ∧ a.role = .admin ∧ a.approvalStatus = .approved ∧
      ∀ b ∈ w'.db.users, b.tenantId = a.tenantId → b.role = .admin → b = a := by
  intro clients seed register approve remove w'
  have hw : World.Served clients .first (run (World.serve clients .first) [.http seed] World.init) :=
    ⟨_, rfl⟩
  have happroved : ∀ u ∈ w'.db.users, u.role = .admin → u.approvalStatus = .approved := by
    decide +kernel
  obtain ⟨a, ha, hid, -, hadmin, -, halone⟩ := (no_privilege_escalation hw).2.1 register
    { tenantName := "t", adminName := "t", email := "t", password := "t" }
    [.http approve, .http remove] rfl (by decide +kernel)
  have hid : a.id.val = "t1" := by rw [hid]; decide
  subst w'
  exact ⟨a, ha, hid, hadmin, happroved a ha hadmin, halone⟩

/-! ### Roles and claims -/

/-- It changes the role of the account, or asks for the role it has. -/
def Operation.UpdatesRole (id : String) (op : Operation) (w : World) : Prop :=
  match op with
  | .request _ (.tenant env tenantId (.users (.update id' dto currentUser))) =>
    id' = id ∧ dto.role.defined = true ∧ (Users.update env tenantId id' dto currentUser).Accepted w.db
  | _ => False

instance (id : String) (op : Operation) (w : World) : Decidable (op.UpdatesRole id w) := by
  unfold Operation.UpdatesRole; split <;> infer_instance

/-- The account a token names has the role the token claims. -/
def ClaimsRole (p : JwtPayload) (db : Database) : Prop :=
  ∃ u ∈ db.users, u.id.val = p.sub ∧ u.role = p.role

/-- Only an update of the role makes the claim stale. -/
theorem ClaimsRole.step {p : JwtPayload} {op : Operation} (h : ClaimsRole p w.db)
    (hop : ¬op.UpdatesRole p.sub w) : ClaimsRole p (World.step clients op w).db := by
  cases op with
  | request up r =>
    obtain ⟨u, hu, hid, hrole⟩ := h
    obtain ⟨u', hu', hid', hstep⟩ := (step_users r w.db).exists_next hu
    refine ⟨u', hu', (congrArg Cuid.val hid').trans hid, ?_⟩
    have hu₁ : u' ∈ (NodeVms.step r w.db).users := hu'
    cases hstep with
    | @update env dto currentUser hr =>
      subst hr
      by_cases hok : (Users.update env u.tenantId u.id dto currentUser).Accepted w.db
      · have hundef : dto.role.defined ≠ true := fun hdef => hop ⟨hid, hdef, hok⟩
        have hset : dto.role.set u.role = u.role := by
          cases hf : dto.role with
          | value r => exact absurd (by rw [hf]; rfl) hundef
          | _ => rfl
        exact hset.trans hrole
      · have hsame : NodeVms.step (.tenant env u.tenantId (.users (.update u.id dto currentUser)))
            w.db = w.db := Script.next_of_not_accepted hok
        rw [hsame] at hu₁
        rw [w.db.eq_of_id .user hu₁ hu rfl]
        exact hrole
    | _ => exact hrole
  | _ => exact h

/-- **What a role check decides on.**  The role that `RolesGuard` compares is the one
the caller had when the token was signed; the caller still has it, unless a
`users.update` of the role has gone through since, and even then both are the role of
a driver or of an employee. -/
theorem role_claims {ops : List Operation} {ctx : ExecutionContext} {request : HttpRequest}
    {session : Option Session}
    (h : (authorize clients (run (World.step clients) ops World.init) ctx request).eval
      (run (World.step clients) ops World.init).db = .ok session)
    (hctx : ¬ctx.Public) (hroles : ctx.requiredRoles ≠ []) :
    ∃ s, session = some s ∧ ∃ u ∈ (run (World.step clients) ops World.init).db.users,
      u.id.val = s.user.sub ∧ (u.role ≠ .superAdmin →
        s.user.role ∈ ctx.requiredRoles ∧
        (u.role = s.user.role ∨ u.role ∈ MANAGEABLE_ROLES ∧ s.user.role ∈ MANAGEABLE_ROLES) ∧
        ∃ before op after, ops = before ++ op :: after ∧
          let atSigning := run (World.step clients) before World.init
          ⟨.access, s.user⟩ ∈ op.signs clients.jwt atSigning ∧
          ClaimsRole s.user (World.step clients op atSigning).db ∧
          (Along (World.step clients) (fun op w => ¬op.UpdatesRole u.id w) after
            (World.step clients op atSigning) → u.role = s.user.role)) := by
  have hw : (run (World.step clients) ops World.init).Reachable clients := ⟨ops, rfl⟩
  obtain ⟨s, hs, htoken, hrole⟩ := session_of_authorize h hctx
  obtain ⟨u, hu⟩ := hw.exists_bearer _ htoken
  have hakin : Role.Akin s.user.role u.role := hu.akin
  refine ⟨s, hs, u, hu.mem, hu.id_eq, fun hnot => ⟨?_, hakin.symm, ?_⟩⟩
  · rcases hrole with hsuper | hnil | hmem
    · rw [hsuper] at hakin
      exact absurd (hakin.eq_of_not_mem (by decide)).symm hnot
    · exact absurd hnil hroles
    · exact hmem
  · obtain ⟨before, op, after, hsplit, hbefore, hafter⟩ :=
      exists_begin (Q := fun w : World => (⟨.access, s.user⟩ : Signed) ∈ w.tokens)
        List.not_mem_nil htoken
    have hsigned : (⟨.access, s.user⟩ : Signed) ∈
        op.signs clients.jwt (run (World.step clients) before World.init) :=
      (List.mem_append.1 hafter).resolve_left hbefore
    have hclaims : ClaimsRole s.user
        (World.step clients op (run (World.step clients) before World.init)).db := by
      obtain ⟨v, hv, env, hsign⟩ := Operation.mem_signs hsigned
      have hpayload : s.user = (clients.jwt.sign env .access v).payload := congrArg Signed.payload hsign
      exact ⟨v, hv, by rw [hpayload]; rfl, by rw [hpayload]; rfl⟩
    refine ⟨before, op, after, hsplit, hsigned, hclaims, fun hafter => ?_⟩
    have hrun : run (World.step clients) ops World.init = run (World.step clients) after
        (World.step clients op (run (World.step clients) before World.init)) := by
      rw [hsplit, run_append]
      rfl
    have hid : u.id.val = s.user.sub := hu.id_eq
    rw [hid] at hafter
    -- the claim is true when the token is signed, and no operation since has changed it
    have hlast : ClaimsRole s.user (run (World.step clients) ops World.init).db := by
      rw [hrun]
      exact (Always.of_steps (Q := fun w : World => ClaimsRole s.user w.db)
        (fun _ _ h hop => h.step hop) hclaims hafter).last
    obtain ⟨v, hv, hvid, hvrole⟩ := hlast
    rw [← Database.eq_of_id _ .user hv hu.mem (hvid.trans hid.symm), hvrole]

namespace Sample

/-- The employee `u0` of tenant `t0` logs in and then becomes a driver. -/
def employeeBecomesDriver : List Operation :=
  [call (tenant "t"), platform 0 (.approve "t1"), call (user "u" "t0"), login "u" 0,
   call (.tenant (.sample "x" 0) "t0"
     (.users (.update "u0" { role := .value .driver } ⟨"t1", .admin⟩)))]

def employeeToken : Signed := token .access "u0" "u" "t0" .employee

end Sample

/-- The driver books with the token of the employee. -/
theorem role_claims_stale :
    let clients := Sample.clients [("a", Sample.employeeToken)]
    let w := run (World.step clients) Sample.employeeBecomesDriver World.init
    let create : Endpoint := ⟨.bookings, BookingsController.create⟩
    ∃ u ∈ w.db.users, u.id.val = "u0" ∧ (u.role ≠ .superAdmin →
      Role.employee ∈ create.context.requiredRoles ∧
        (u.role = .employee ∨ u.role ∈ MANAGEABLE_ROLES ∧ Role.employee ∈ MANAGEABLE_ROLES)) := by
  intro clients w create
  subst w
  have hok : (authorize clients (run (World.step clients) Sample.employeeBecomesDriver World.init)
      create.context { arrival := 0, accessCookie := some "a" }).eval
      (run (World.step clients) Sample.employeeBecomesDriver World.init).db =
      .ok (some ⟨Sample.employeeToken.payload, "a"⟩) := by decide +kernel
  obtain ⟨s, hs, u, hu, hid, h⟩ := role_claims hok (by decide) (by decide)
  obtain rfl := Option.some.inj hs
  exact ⟨u, hu, hid, fun hrole => ⟨(h hrole).1, (h hrole).2.1⟩⟩

/-- And no driver may book. -/
theorem role_check_of_former_role :
    ¬∀ clients w ctx request s, World.Reachable clients w →
      (authorize clients w ctx request).eval w.db = .ok (some s) → ¬ctx.Public →
      ctx.requiredRoles ≠ [] → ∀ u ∈ w.db.users, u.id.val = s.user.sub → u.role ≠ .superAdmin →
        u.role ∈ ctx.requiredRoles := by
  intro h
  let clients := Sample.clients [("a", Sample.employeeToken)]
  let create : Endpoint := ⟨.bookings, BookingsController.create⟩
  let u : User :=
    { id := (Env.sample "u" 0).cuid 0, tenantId := "t0", branchId := none, name := "u", email := "u",
      password := "u", role := .driver, approvalStatus := .approved, isActive := true,
      deletedAt := none }
  obtain ⟨w, hw, hok, hu⟩ : ∃ w, World.Reachable clients w ∧
      (authorize clients w create.context { arrival := 0, accessCookie := some "a" }).eval w.db =
        .ok (some ⟨Sample.employeeToken.payload, "a"⟩) ∧ u ∈ w.db.users :=
    ⟨run (World.step clients) Sample.employeeBecomesDriver World.init, ⟨_, rfl⟩, by decide +kernel,
      by decide +kernel⟩
  have hmem : u.role ∈ create.context.requiredRoles :=
    h clients w _ _ _ hw hok (by decide) (by decide) u hu (by decide) (by decide)
  exact absurd hmem (by decide)

end NodeVms
