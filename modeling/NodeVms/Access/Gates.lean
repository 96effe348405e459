/-
# The three gates

`login`, `refresh` and `TenantGuard` each decide whether an account is in use,
with different checks: `refresh` does not look at the approval of an ADMIN.
`gates_agree` says that they decide alike in every reachable state, because the
`isActive` of an ADMIN follows the approval.

All three ask for the `isActive` of the tenant, so a tenant without it is shut
(`World.Shut`).
-/

import NodeVms.Access.Tokens

namespace NodeVms

open Store

variable {clients : Clients} {w : World}

/-! ### Agreement -/

/-- An ADMIN in use has been approved. -/
theorem AccountsInv.approved {t : Tables} (h : AccountsInv t) {u : User} (hu : u ∈ t.users)
    (hin : InUse t u) : Approved u := by
  intro hadmin
  exact (h.admin_active u hu hadmin).1 hin.2.1

section Account

variable {u : User} (hu : u ∈ w.db.users)
include hu

/-- The password and an account in use are what `login` asks for. -/
theorem login_iff_inUse (h : w.Reachable clients) {env : Env} {dto : Auth.LoginDto}
    (hemail : dto.email = u.email) (hpass : env.compare dto.password u.password = true) :
    (∃ pair, (Auth.login clients.jwt env dto).eval w.db = .ok pair) ↔ InUse w.db.toTables u := by
  constructor
  · rintro ⟨pair, hlogin⟩
    obtain ⟨v, hv, hvemail, -, -, hin, -⟩ := Auth.login_eq_ok.1 hlogin
    rwa [← eq_of_key_eq w.db.nodup_email hv hu (hvemail.trans hemail)]
  · intro hin
    exact ⟨_, Auth.login_eq_ok.2
      ⟨u, hu, hemail.symm, hpass, h.accounts.approved hu hin, hin, rfl⟩⟩

/-- A valid refresh token and an account in use are what `refresh` asks for. -/
theorem refresh_iff_inUse {env : Env} {refreshToken : String} {p : JwtPayload}
    (hp : clients.jwt.verify w.tokens .refresh env.now refreshToken = some p)
    (hsub : p.sub = u.id) :
    (∃ accessToken, (Auth.refresh clients.jwt env w.tokens refreshToken).eval w.db =
      .ok accessToken) ↔ InUse w.db.toTables u := by
  constructor
  · rintro ⟨accessToken, hrefresh⟩
    obtain ⟨q, hq, v, hv, hvid, hin, -⟩ := Auth.refresh_eq_ok.1 hrefresh
    rw [hp] at hq
    obtain rfl := Option.some.inj hq
    rwa [← w.db.eq_of_id .user hv hu (hvid.trans hsub)]
  · intro hin
    exact ⟨_, Auth.refresh_eq_ok.2 ⟨p, hp, u, hu, hsub.symm, hin, rfl⟩⟩

/-- A token of an account in use is what `TenantGuard` asks for. -/
theorem tenantGuard_iff_inUse (h : w.Reachable clients) (hrole : u.role ≠ .superAdmin)
    {p : JwtPayload} (hp : ⟨.access, p⟩ ∈ w.tokens) (hsub : p.sub = u.id)
    {ctx : ExecutionContext} (hctx : ¬ctx.Public) :
    (TenantGuard.canActivate ctx (some p)).eval w.db = .ok () ↔ InUse w.db.toTables u := by
  have hclaim : p.role ≠ .superAdmin := by
    intro hclaim
    have hakin := (h.bearer hp hu hsub).akin
    rw [hclaim] at hakin
    exact hrole (hakin.eq_of_not_mem (by decide)).symm
  rw [TenantGuard.canActivate_eq_ok, or_iff_right hctx]
  constructor
  · rintro ⟨q, hq, hsuper | ⟨v, hv, hvid, -, hin⟩⟩
    · obtain rfl := Option.some.inj hq
      exact absurd hsuper hclaim
    · obtain rfl := Option.some.inj hq
      rwa [← w.db.eq_of_id .user hv hu (hvid.trans hsub)]
  · intro hin
    exact ⟨p, rfl, .inr ⟨u, hu, hsub.symm, h.accounts.approved hu hin, hin⟩⟩

end Account

/-- **The three gates agree** on every account but a SUPER_ADMIN's, in every
reachable state. -/
theorem gates_agree (h : w.Reachable clients) {u : User} (hu : u ∈ w.db.users)
    (hrole : u.role ≠ .superAdmin) :
    (∀ env dto env' refreshToken p, dto.email = u.email →
      env.compare dto.password u.password = true →
      clients.jwt.verify w.tokens .refresh env'.now refreshToken = some p → p.sub = u.id →
      ((∃ pair, (Auth.login clients.jwt env dto).eval w.db = .ok pair) ↔
        ∃ t, (Auth.refresh clients.jwt env' w.tokens refreshToken).eval w.db = .ok t)) ∧
    (∀ env dto now accessToken q ctx, dto.email = u.email →
      env.compare dto.password u.password = true →
      clients.jwt.verify w.tokens .access now accessToken = some q → q.sub = u.id →
      ¬ctx.Public →
      ((∃ pair, (Auth.login clients.jwt env dto).eval w.db = .ok pair) ↔
        (TenantGuard.canActivate ctx (some q)).eval w.db = .ok ())) ∧
    ∀ env refreshToken p now accessToken q ctx,
      clients.jwt.verify w.tokens .refresh env.now refreshToken = some p → p.sub = u.id →
      clients.jwt.verify w.tokens .access now accessToken = some q → q.sub = u.id →
      ¬ctx.Public →
      ((∃ t, (Auth.refresh clients.jwt env w.tokens refreshToken).eval w.db = .ok t) ↔
        (TenantGuard.canActivate ctx (some q)).eval w.db = .ok ()) := by
  have hguard : ∀ now accessToken q ctx,
      clients.jwt.verify w.tokens .access now accessToken = some q → q.sub = u.id → ¬ctx.Public →
      ((TenantGuard.canActivate ctx (some q)).eval w.db = .ok () ↔ InUse w.db.toTables u) :=
    fun _ _ _ _ hq hsub hctx =>
      tenantGuard_iff_inUse hu h hrole (Jwt.verify_eq_some.1 hq).2.1 hsub hctx
  refine ⟨?_, ?_, ?_⟩
  · intro env dto env' refreshToken p hemail hpass hp hsub
    exact (login_iff_inUse hu h hemail hpass).trans (refresh_iff_inUse hu hp hsub).symm
  · intro env dto now accessToken q ctx hemail hpass hq hsub hctx
    exact (login_iff_inUse hu h hemail hpass).trans (hguard now accessToken q ctx hq hsub hctx).symm
  · intro env refreshToken p now accessToken q ctx hp hpsub hq hqsub hctx
    exact (refresh_iff_inUse hu hp hpsub).trans (hguard now accessToken q ctx hq hqsub hctx).symm

/-- The ADMIN of a company that has been approved passes all of them. -/
theorem gates_agree_approved :
    let refreshToken := Sample.token .refresh "t1" "t" "t0" .admin
    let accessToken := Sample.token .access "t1" "t" "t0" .admin
    let clients := Sample.clients [("r", refreshToken), ("a", accessToken)]
    let w := run (World.step clients)
      [Sample.call (Sample.tenant "t"), Sample.platform 0 (.approve "t1"), Sample.login "t" 0]
      World.init
    (∃ pair, (Auth.login clients.jwt (.sample "x" 0) ⟨"t", "t"⟩).eval w.db = .ok pair) ∧
      (∃ t, (Auth.refresh clients.jwt (.sample "x" 0) w.tokens "r").eval w.db = .ok t) ∧
      (TenantGuard.canActivate ⟨{}, {}⟩ (some accessToken.payload)).eval w.db = .ok () := by
  intro refreshToken accessToken clients w
  let u : User :=
    { id := (Env.sample "t" 0).cuid 1, tenantId := "t0", branchId := none, name := "t", email := "t",
      password := "t", role := .admin, approvalStatus := .approved, isActive := true,
      deletedAt := none }
  have hw : w.Reachable clients := ⟨_, rfl⟩
  have hu : u ∈ w.db.users := by decide
  have hr : clients.jwt.verify w.tokens .refresh 0 "r" = some refreshToken.payload := by decide
  have ha : clients.jwt.verify w.tokens .access 0 "a" = some accessToken.payload := by decide
  obtain ⟨hlogin, -, hrefresh⟩ := gates_agree hw hu (by decide)
  have hpair : ∃ pair, (Auth.login clients.jwt (.sample "x" 0) ⟨"t", "t"⟩).eval w.db = .ok pair :=
    ⟨_, rfl⟩
  have ht := (hlogin (.sample "x" 0) ⟨"t", "t"⟩ (.sample "x" 0) "r" _ rfl (by decide) hr rfl).1 hpair
  exact ⟨hpair, ht,
    (hrefresh (.sample "x" 0) "r" _ 0 "a" _ ⟨{}, {}⟩ hr rfl ha rfl (by decide)).1 ht⟩

/-! ### Shut tenants -/

/-- No account of the tenant passes a gate, but for SUPER_ADMINs: not by a login, not
with a refresh token, not with an access token, whenever it was signed. -/
def World.Shut (clients : Clients) (tenantId : String) (w : World) : Prop :=
  ∀ u ∈ w.db.users, u.tenantId = tenantId → u.role ≠ .superAdmin →
    (∀ env dto pair, dto.email = u.email →
      (Auth.login clients.jwt env dto).eval w.db ≠ .ok pair) ∧
    (∀ env refreshToken p t,
      clients.jwt.verify w.tokens .refresh env.now refreshToken = some p → p.sub = u.id →
      (Auth.refresh clients.jwt env w.tokens refreshToken).eval w.db ≠ .ok t) ∧
    ∀ (ctx : ExecutionContext) (p : JwtPayload), ¬ctx.Public → ⟨.access, p⟩ ∈ w.tokens →
      p.sub = u.id →
      (TenantGuard.canActivate ctx (some p)).eval w.db ≠ .ok ()

/-- A tenant whose flag is down is shut. -/
theorem World.shut_of_not_open (h : w.Reachable clients) {tenantId : String}
    (hopen : ¬OpenTenant w.db.toTables tenantId) : Shut clients tenantId w := by
  intro u hu hT hrole
  have hin : ¬InUse w.db.toTables u := fun hin => hopen (hT ▸ hin.2.2)
  refine ⟨?_, ?_, ?_⟩
  · intro env dto pair hemail hlogin
    obtain ⟨v, hv, hvemail, -, -, hvin, -⟩ := Auth.login_eq_ok.1 hlogin
    obtain rfl := eq_of_key_eq w.db.nodup_email hv hu (hvemail.trans hemail)
    exact hin hvin
  · intro env refreshToken p t hp hsub hrefresh
    exact hin ((refresh_iff_inUse hu hp hsub).1 ⟨t, hrefresh⟩)
  · intro ctx p hctx hp hsub hguard
    exact hin ((tenantGuard_iff_inUse hu h hrole hp hsub hctx).1 hguard)

end NodeVms
