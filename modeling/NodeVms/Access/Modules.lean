/-
# Disabled modules

The table of feature keys in `README.md` names the controllers of every module.  A
controller that carries `@Feature` with the key of its module cannot be reached while
the module is off; seven of the twelve do not carry it, and of these the flag of the
module keeps nobody out.
-/

import NodeVms.Access.Features

namespace NodeVms

open Store

variable {clients : Clients} {pick : Pick FeatureAccess} {w : World} {ctx : ExecutionContext}
  {request : HttpRequest} {token : String} {p : JwtPayload} {session : Option Session}

/-! ### The decorators of the documented controllers -/

/-- No handler of a module is public or has a feature of its own; a class has the
feature of its module or none. -/
theorem documented_annotations {m : String} {cs : List Controller} (hm : (m, cs) ∈ documentedModules)
    {c : Controller} (hc : c ∈ cs) (h : c.Handler) :
    (c.annotations h).isPublic = none ∧ c.cls.isPublic = none ∧ (c.annotations h).feature = none ∧
      (c.cls.feature = none ∨ c.cls.feature = some m ∧ m ≠ "") := by
  simp only [documentedModules, List.mem_cons, Prod.mk.injEq, List.not_mem_nil, or_false] at hm
  rcases hm with ⟨rfl, rfl⟩ | ⟨rfl, rfl⟩ | ⟨rfl, rfl⟩ | ⟨rfl, rfl⟩ | ⟨rfl, rfl⟩ | ⟨rfl, rfl⟩ |
    ⟨rfl, rfl⟩ | ⟨rfl, rfl⟩ <;>
  simp only [List.mem_cons, List.not_mem_nil, or_false] at hc
  · rcases hc with rfl | rfl <;> cases h <;> decide
  · subst hc; cases h <;> decide
  · rcases hc with rfl | rfl <;> cases h <;> decide
  · subst hc; cases h <;> decide
  · subst hc; cases h <;> decide
  · subst hc; cases h <;> decide
  · rcases hc with rfl | rfl | rfl <;> cases h <;> decide
  · subst hc; cases h <;> decide

/-- The endpoints of the documented modules need a session. -/
theorem documented_not_public {m : String} {cs : List Controller}
    (hm : (m, cs) ∈ documentedModules) {c : Controller} (hc : c ∈ cs) (h : c.Handler) :
    ¬(Endpoint.context ⟨c, h⟩).Public := by
  obtain ⟨hhandler, hcls, -, -⟩ := documented_annotations hm hc h
  unfold ExecutionContext.Public ExecutionContext.getAllAndOverride Endpoint.context
  rw [hhandler, hcls]
  decide

/-- What the feature guard asks for is what the class carries. -/
theorem documented_requiredFeature {m : String} {cs : List Controller}
    (hm : (m, cs) ∈ documentedModules) {c : Controller} (hc : c ∈ cs) (h : c.Handler) :
    (Endpoint.context ⟨c, h⟩).requiredFeature = c.cls.feature := by
  obtain ⟨-, -, hhandler, hcls⟩ := documented_annotations hm hc h
  have hover : (Endpoint.context ⟨c, h⟩).requiredFeature = nonEmpty c.cls.feature := by
    unfold ExecutionContext.requiredFeature ExecutionContext.getAllAndOverride Endpoint.context
    rw [hhandler, Option.none_or]
  rw [hover]
  rcases hcls with hcls | ⟨hcls, hne⟩
  · rw [hcls]
    rfl
  · rw [hcls]
    exact nonEmpty_eq_some.2 ⟨rfl, hne⟩

/-! ### Requests of a tenant -/

/-- The request carries an access token that verifies, with this payload. -/
def CarriesToken (clients : Clients) (w : World) (request : HttpRequest) (token : String)
    (p : JwtPayload) : Prop :=
  nonEmpty (AuthGuard.extractToken request) = some token ∧
    clients.jwt.verify w.tokens .access request.arrival token = some p

/-- What the guards before `FeatureGuard` ask of a token of a tenant. -/
structure Authorized (clients : Clients) (w : World) (ctx : ExecutionContext)
    (request : HttpRequest) (token : String) (p : JwtPayload) : Prop where
  notRevoked : AuthGuard.blacklisted clients w request token = none
  role : ctx.requiredRoles = [] ∨ p.role ∈ ctx.requiredRoles
  account : ∃ u ∈ w.db.users, u.id.val = p.sub ∧ Approved u ∧ InUse w.db.toTables u

/-- Who is no super admin gets in if role, tenant and feature admit it. -/
theorem authorize_eq_ok_iff (ht : CarriesToken clients w request token p) (hpub : ¬ctx.Public)
    (hrole : p.role ≠ .superAdmin) : (authorize clients w ctx request).eval w.db = .ok session ↔
      session = some ⟨p, token⟩ ∧ Authorized clients w ctx request token p := by
  obtain ⟨htoken, hverify⟩ := ht
  have hauth : (AuthGuard.canActivate clients w ctx request).eval w.db = .ok session ↔
      session = some ⟨p, token⟩ ∧ AuthGuard.blacklisted clients w request token = none := by
    rw [AuthGuard.canActivate_eq_ok, or_iff_right fun h => hpub h.1, and_iff_right hpub]
    constructor
    · rintro ⟨s, rfl, hs, hp, hfree⟩
      obtain ⟨user, token'⟩ := s
      obtain rfl : token = token' := Option.some.inj (htoken.symm.trans hs)
      obtain rfl : p = user := Option.some.inj (hverify.symm.trans hp)
      exact ⟨rfl, hfree⟩
    · rintro ⟨rfl, hfree⟩
      exact ⟨_, rfl, htoken, hverify, hfree⟩
  rw [authorize_eq_ok, hauth]
  constructor
  · rintro ⟨⟨rfl, hfree⟩, hroles, htenant⟩
    refine ⟨rfl, hfree, ?_, ?_⟩
    · rcases RolesGuard.canActivate_eq_ok.1 hroles with h | h | ⟨q, hq, h⟩
      · exact absurd h hpub
      · exact .inl h
      · obtain rfl : p = q := Option.some.inj hq
        exact .inr (h.resolve_left hrole)
    · rcases TenantGuard.canActivate_eq_ok.1 htenant with h | ⟨q, hq, h⟩
      · exact absurd h hpub
      · obtain rfl : p = q := Option.some.inj hq
        exact h.resolve_left hrole
  · rintro ⟨rfl, h⟩
    refine ⟨⟨rfl, h.notRevoked⟩, ?_, ?_⟩
    · exact RolesGuard.canActivate_eq_ok.2
        (.inr (h.role.imp_right fun hmem => ⟨p, rfl, .inr hmem⟩))
    · exact TenantGuard.canActivate_eq_ok.2 (.inr ⟨p, rfl, .inr h.account⟩)

/-! ### Enforcement -/

/-- **When a disabled module is out of reach.**  A request of a tenant to a controller
of a module that is off for the tenant is turned away exactly if the controller carries
the module's feature or the guards before `FeatureGuard` turn it away. -/
theorem disabled_module_unreachable (hw : w.Reachable clients) {m : String} {cs : List Controller}
    (hm : (m, cs) ∈ documentedModules) {c : Controller} (hc : c ∈ cs) (h : c.Handler)
    {f : FeatureAccess} (hf : f ∈ w.db.featureAccesses) (hoff : f.isEnabled = false)
    (hT : isFlagOf p.tenantId m f) (hp : CarriesToken clients w request token p)
    (hrole : p.role ≠ .superAdmin) :
    (∀ session, (guards clients pick w (Endpoint.context ⟨c, h⟩) request).eval w.db ≠ .ok session) ↔
      c.cls.feature = some m ∨
        ¬Authorized clients w (Endpoint.context ⟨c, h⟩) request token p := by
  have hpub := documented_not_public hm hc h
  have hreq := documented_requiredFeature hm hc h
  have hone := FeatureAccesses.oneFlag_of_reachable hw.db
  constructor
  · intro hrejected
    by_contra hno
    obtain ⟨hnofeature, hauth⟩ := not_or.1 hno
    have hcls : c.cls.feature = none :=
      (documented_annotations hm hc h).2.2.2.resolve_right fun hcls => hnofeature hcls.1
    have hok := (authorize_eq_ok_iff hp hpub hrole).2 ⟨rfl, not_not.1 hauth⟩
    exact hrejected _
      (guards_eq_ok.2 ⟨hok, FeatureGuard.canActivate_of_none (hreq.trans hcls)⟩)
  · rintro hcond session hok
    obtain ⟨hok, hfeature⟩ := guards_eq_ok.1 hok
    obtain ⟨rfl, hauth⟩ := (authorize_eq_ok_iff hp hpub hrole).1 hok
    rcases hcond with hcls | hno
    · have hflag : FeatureAccesses.flag w.db.toTables (p.tenantId, m) = some false :=
        hone.flag_eq_some.2 ⟨f, hf, hT, hoff⟩
      rcases (hone.guard_eq_ok hpub (hreq.trans hcls)).1 hfeature with h | h
      · exact hrole h
      · exact h hflag
    · exact hno hauth

/-- The ADMIN of a company, with `vehicles` switched off for it, asks for its vehicles. -/
theorem disabled_module_unreachable_vehicles :
    let token := Sample.token .access "t1" "t" "t0" .admin
    let clients := Sample.clients [("a", token)]
    let w := run (World.step clients)
      [Sample.call (Sample.tenant "t"), Sample.platform 0 (.approve "t1"), Sample.login "t" 0,
        Sample.platform 0 (.disableFeature "t0" "vehicles")] World.init
    ∀ session, (guards clients .first w (Endpoint.context ⟨.vehicles, VehiclesController.findAll⟩)
      { arrival := 0, accessCookie := some "a" }).eval w.db ≠ .ok session := by
  intro token clients w
  have hw : w.Reachable clients := ⟨_, rfl⟩
  have hflag : ∃ f ∈ w.db.featureAccesses, f.isEnabled = false ∧ isFlagOf "t0" "vehicles" f := by
    decide
  obtain ⟨f, hf, hoff, hT⟩ := hflag
  have hp : CarriesToken clients w { arrival := 0, accessCookie := some "a" } "a" token.payload := by
    constructor <;> decide
  exact (disabled_module_unreachable hw (c := .vehicles) (.head _) (.head _)
    VehiclesController.findAll hf hoff hT hp (by decide)).2 (.inl rfl)

/-- With `bookings` switched off for it, the company still gets its bookings. -/
theorem disabled_module_reachable :
    ¬∀ clients pick w, World.Reachable clients w → ∀ m cs, (m, cs) ∈ documentedModules →
      ∀ c ∈ cs, ∀ (h : c.Handler), ∀ f ∈ w.db.featureAccesses, f.isEnabled = false →
      ∀ request token p, isFlagOf p.tenantId m f → CarriesToken clients w request token p →
      p.role ≠ .superAdmin → ∀ session,
      (guards clients pick w (Endpoint.context ⟨c, h⟩) request).eval w.db ≠ .ok session := by
  let token := Sample.token .access "t1" "t" "t0" .admin
  let clients := Sample.clients [("a", token)]
  let request : HttpRequest := { arrival := 0, accessCookie := some "a" }
  let bookings := Endpoint.context ⟨.bookings, BookingsController.findAll⟩
  obtain ⟨w, hw, ⟨f, hf, hoff, hT⟩, hp, hok⟩ : ∃ w, World.Reachable clients w ∧
      (∃ f ∈ w.db.featureAccesses, f.isEnabled = false ∧ isFlagOf "t0" "bookings" f) ∧
      CarriesToken clients w request "a" token.payload ∧
      (guards clients .first w bookings request).eval w.db = .ok (some ⟨token.payload, "a"⟩) :=
    ⟨run (World.step clients)
        [Sample.call (Sample.tenant "t"), Sample.platform 0 (.approve "t1"), Sample.login "t" 0,
          Sample.platform 0 (.disableFeature "t0" "bookings")] World.init,
      ⟨_, rfl⟩, by decide, ⟨by decide, by decide⟩, by decide⟩
  intro hclaim
  exact hclaim clients .first w hw "bookings" [.bookings] (by simp [documentedModules]) .bookings
    (.head _) BookingsController.findAll f hf hoff request "a" token.payload hT hp (by decide) _ hok

end NodeVms
