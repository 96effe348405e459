/-
# The guards

Every request passes four global guards in the order of `app.module.ts`:
`AuthGuard`, `RolesGuard`, `TenantGuard`, `FeatureGuard`; the controllers with
`@UseGuards(RolesGuard)` then ask the second one again.  A guard reads the
metadata of the handler and of its class (`Reflector.getAllAndOverride`: the
handler's wins), and the token.

A guard is a `Query Unit`: it may read the database, it lets the request pass or
throws.  `false` from `canActivate` is Nest's `ForbiddenException`.
-/

import NodeVms.Services.Tokens

namespace NodeVms

open Store Script Prisma

/-! ### What the guards look at -/

/-- The decorators of a handler or of a controller class. -/
structure Annotations where
  /-- `@Public()` -/
  isPublic : Option Bool := none
  /-- `@Roles(...)` -/
  roles : Option (List Role) := none
  /-- `@Feature(...)` -/
  feature : Option String := none
  /-- `@UseGuards(RolesGuard)` -/
  useRolesGuard : Bool := false
  deriving DecidableEq

/-- The handler a request is routed to and the class of the handler. -/
structure ExecutionContext where
  handler : Annotations
  cls : Annotations
  deriving DecidableEq

namespace ExecutionContext

/-- `reflector.getAllAndOverride(KEY, [context.getHandler(), context.getClass()])`. -/
def getAllAndOverride {α : Type} (ctx : ExecutionContext) (key : Annotations → Option α) :
    Option α :=
  (key ctx.handler).or (key ctx.cls)

/-- `isPublic` is there and `true`. -/
def Public (ctx : ExecutionContext) : Prop :=
  ctx.getAllAndOverride Annotations.isPublic = some true

instance (ctx : ExecutionContext) : Decidable ctx.Public := by
  unfold ExecutionContext.Public; infer_instance

/-- `requiredRoles`; none and the empty list are the same to `RolesGuard`. -/
def requiredRoles (ctx : ExecutionContext) : List Role :=
  (ctx.getAllAndOverride Annotations.roles).getD []

/-- `requiredFeature`; an empty name counts as none. -/
def requiredFeature (ctx : ExecutionContext) : Option String :=
  nonEmpty (ctx.getAllAndOverride Annotations.feature)

end ExecutionContext

/-- A request as it arrives: what it carries, when, and whether Redis answers. -/
structure HttpRequest where
  arrival : Time
  redisUp : Bool := true
  /-- The cookie `access_token`. -/
  accessCookie : Option String := none
  /-- The cookie `refresh_token`. -/
  refreshCookie : Option String := none
  authorization : Option String := none
  deriving DecidableEq

/-- `request['user']` and `request['token']`. -/
structure Session where
  user : JwtPayload
  token : String
  deriving DecidableEq

/-- The state of the system: the database, the tokens signed and the `SET`s sent
to Redis so far. -/
structure World where
  db : Database
  tokens : List Signed
  redis : List RedisSet

/-- What Nest throws when `canActivate` returns `false`. -/
def forbiddenResource : Error := .forbidden "Forbidden resource"

/-! ### `AuthGuard` -/

namespace AuthGuard

/-- The cookie comes first, then the header `Authorization: Bearer …`. -/
def extractToken (request : HttpRequest) : Option String :=
  match nonEmpty request.accessCookie with
  | some token => some token
  | none =>
    match request.authorization with
    | some auth =>
      if "Bearer ".toList.isPrefixOf auth.toList then some (String.ofList (auth.toList.drop 7))
      else none
    | none => none

/-- The answer of `redis.get`, or `null` when Redis does not answer. -/
def blacklisted (clients : Clients) (w : World) (request : HttpRequest) (token : String) :
    Option RedisValue :=
  if request.redisUp then
    clients.redis.get w.redis (Auth.blacklistKey token) request.arrival
  else none

/-- The session of the token in the header or in the cookie. -/
def canActivate (clients : Clients) (w : World) (ctx : ExecutionContext) (request : HttpRequest) :
    Query (Option Session) :=
  if ctx.Public then pure none
  else do
    let token ← orThrow (nonEmpty (extractToken request))
      (.unauthorized "Missing authentication token")
    let user ← orThrow (clients.jwt.verify w.tokens .access request.arrival token)
      (.unauthorized "Invalid or expired token")
    throwIf (blacklisted clients w request token ≠ none) (.unauthorized "Token has been revoked")
    pure (some ⟨user, token⟩)

end AuthGuard

/-! ### `RolesGuard` -/

/-- The role is the one the token was signed with. -/
def RolesGuard.canActivate (ctx : ExecutionContext) (user : Option JwtPayload) : Query Unit :=
  if ctx.Public ∨ ctx.requiredRoles = [] then pure ()
  else do
    let user ← orThrow user forbiddenResource
    when (user.role ≠ .superAdmin)
      (throwIf (user.role ∉ ctx.requiredRoles) (.forbidden "Insufficient permissions"))

/-! ### `TenantGuard` -/

/-- User and tenant are those of the database, at the time of the request. -/
def TenantGuard.canActivate (ctx : ExecutionContext) (user : Option JwtPayload) : Query Unit :=
  if ctx.Public then pure ()
  else do
    let user ← orThrow user forbiddenResource
    when (user.role ≠ .superAdmin) do
      let (dbUser, tenant) ← orThrow
        (← findUserWithTenant fun u => u.id.val = user.sub ∧ u.deletedAt = none)
        (.unauthorized "User not found")
      assertApproved dbUser
      throwIf (dbUser.isActive = false) (.unauthorized "Account is inactive")
      throwIf (tenant.isActive = false) (.forbidden "Tenant is suspended")

/-! ### `FeatureGuard` -/

/-- The filter of the flag that decides. -/
def isFlagOf (tenantId moduleName : String) (f : FeatureAccess) : Prop :=
  f.tenantId = tenantId ∧ f.moduleName = moduleName ∧ f.deletedAt = none

instance (tenantId moduleName : String) : DecidablePred (isFlagOf tenantId moduleName) := fun f => by
  unfold isFlagOf; infer_instance

/-- A module is enabled unless a flag says otherwise; `pick` is the flag that is found. -/
def FeatureGuard.canActivate (pick : Pick FeatureAccess) (ctx : ExecutionContext)
    (user : Option JwtPayload) : Query Unit :=
  if ctx.Public then pure ()
  else whenSome ctx.requiredFeature fun requiredFeature => do
    let user ← orThrow user forbiddenResource
    when (user.role ≠ .superAdmin) do
      let record ← findAny pick .featureAccess fun f => isFlagOf user.tenantId requiredFeature f
      whenSome record fun record => throwIf (record.isEnabled = false) (.forbidden
        s!"Module '{requiredFeature}' is disabled for your account. Contact your administrator.")

/-! ### The chain -/

/-- The guards that decide who the caller is and what the caller may do. -/
def authorize (clients : Clients) (w : World) (ctx : ExecutionContext) (request : HttpRequest) :
    Query (Option Session) := do
  let session ← AuthGuard.canActivate clients w ctx request
  RolesGuard.canActivate ctx (session.map Session.user)
  TenantGuard.canActivate ctx (session.map Session.user)
  pure session

/-- All guards of a handler. -/
def guards (clients : Clients) (pick : Pick FeatureAccess) (w : World) (ctx : ExecutionContext)
    (request : HttpRequest) : Query (Option Session) := do
  let session ← authorize clients w ctx request
  FeatureGuard.canActivate pick ctx (session.map Session.user)
  when (ctx.cls.useRolesGuard = true) (RolesGuard.canActivate ctx (session.map Session.user))
  pure session

/-! ### What a guard lets pass -/

section Admits

variable {clients : Clients} {pick : Pick FeatureAccess} {w : World} {ctx : ExecutionContext}
  {request : HttpRequest} {user : Option JwtPayload} {session : Option Session} {db : Database}
  {x : Unit}

/-- A public endpoint needs no session, every other a valid token of an account in use. -/
theorem AuthGuard.canActivate_eq_ok :
    (AuthGuard.canActivate clients w ctx request).eval db = .ok session ↔
      (ctx.Public ∧ session = none) ∨
      (¬ctx.Public ∧ ∃ s, session = some s ∧ nonEmpty (extractToken request) = some s.token ∧
        clients.jwt.verify w.tokens .access request.arrival s.token = some s.user ∧
        blacklisted clients w request s.token = none) := by
  simp only [AuthGuard.canActivate, eval_ite_eq_ok, eval_pure, Except.ok.injEq, eval_bind_eq_ok,
    eval_orThrow_eq_ok, eval_throwIf_eq_ok, ne_eq, not_not]
  refine or_congr (and_congr_right fun _ => eq_comm) (and_congr_right fun _ => ?_)
  constructor
  · rintro ⟨token, ht, p, hp, -, hb, rfl⟩
    exact ⟨⟨p, token⟩, rfl, ht, hp, hb⟩
  · rintro ⟨s, rfl, ht, hp, hb⟩
    exact ⟨s.token, ht, s.user, hp, (), hb, rfl⟩

/-- A role passes if none is required or it is among them. -/
theorem RolesGuard.canActivate_eq_ok :
    (RolesGuard.canActivate ctx user).eval db = .ok x ↔
      ctx.Public ∨ ctx.requiredRoles = [] ∨
        ∃ p, user = some p ∧ (p.role = .superAdmin ∨ p.role ∈ ctx.requiredRoles) := by
  unfold RolesGuard.canActivate
  by_cases h : ctx.Public ∨ ctx.requiredRoles = []
  · rw [if_pos h]
    exact ⟨fun _ => h.imp_right .inl, fun _ => rfl⟩
  · rw [if_neg h]
    simp only [eval_bind_eq_ok, eval_orThrow_eq_ok, eval_when_eq_ok, eval_throwIf_eq_ok, not_not]
    constructor
    · rintro ⟨p, hp, hr⟩
      exact .inr (.inr ⟨p, hp, or_iff_not_imp_left.2 hr⟩)
    · rintro (hpub | hnil | ⟨p, hp, hr⟩)
      · exact absurd (.inl hpub) h
      · exact absurd (.inr hnil) h
      · exact ⟨p, hp, or_iff_not_imp_left.1 hr⟩

/-- An account passes if it is approved and its tenant in use. -/
theorem TenantGuard.canActivate_eq_ok :
    (TenantGuard.canActivate ctx user).eval db = .ok x ↔
      ctx.Public ∨ ∃ p, user = some p ∧ (p.role = .superAdmin ∨
        ∃ u ∈ db.users, u.id.val = p.sub ∧ Approved u ∧ InUse db.toTables u) := by
  have hfind : ∀ (p : JwtPayload) u,
      (db.users.find? fun u => u.id.val = p.sub ∧ u.deletedAt = none) = some u ↔
        u ∈ db.users ∧ u.id.val = p.sub ∧ u.deletedAt = none := fun p u =>
    (find?_key_eq_some (db.nodup_key .user) fun _ h => (of_decide_eq_true h).1).trans
      (and_congr_right fun _ => decide_eq_true_iff)
  unfold TenantGuard.canActivate
  by_cases hpub : ctx.Public
  · rw [if_pos hpub]
    exact ⟨fun _ => .inl hpub, fun _ => rfl⟩
  · rw [if_neg hpub, or_iff_right hpub]
    simp only [eval_bind_eq_ok, eval_orThrow_eq_ok, eval_when_eq_ok, eval_throwIf_eq_ok,
      eval_assertApproved_eq_ok, Prod.exists, Bool.not_eq_false]
    refine exists_congr fun p => and_congr_right fun _ => ?_
    rw [or_iff_not_imp_left]
    refine imp_congr_right fun _ => ?_
    constructor
    · rintro ⟨o, ho, u, t, rfl, -, hok, -, hactive, hopen⟩
      obtain ⟨hu, ht, htid⟩ := eval_findUserWithTenant_eq_some.1 ho
      obtain ⟨hmem, hid, hlive⟩ := (hfind p u).1 hu
      exact ⟨u, hmem, hid, hok, hlive, hactive, t, ht, htid, hopen⟩
    · rintro ⟨u, hmem, hid, hok, hlive, hactive, t, ht, htid, hopen⟩
      have hu := (hfind p u).2 ⟨hmem, hid, hlive⟩
      exact ⟨_, eval_findUserWithTenant_eq_some.2 ⟨hu, ht, htid⟩, u, t, rfl, (), hok, (), hactive,
        hopen⟩

/-- The flag the query picks decides; without one the module is enabled. -/
theorem FeatureGuard.canActivate_eq_ok {p : JwtPayload} {m : String} (hpub : ¬ctx.Public)
    (hm : ctx.requiredFeature = some m) :
    (FeatureGuard.canActivate pick ctx (some p)).eval db = .ok x ↔ p.role = .superAdmin ∨
      ∀ f, pick.choose (db.featureAccesses.filter fun f => isFlagOf p.tenantId m f) = some f →
        f.isEnabled = true := by
  unfold FeatureGuard.canActivate
  rw [if_neg hpub, hm]
  change (when (p.role ≠ .superAdmin) _).eval db = .ok x ↔ _
  rw [eval_when_eq_ok, or_iff_not_imp_left]
  refine imp_congr_right fun _ => ?_
  simp only [eval_bind_eq_ok, eval_whenSome_eq_ok, eval_throwIf_eq_ok, Bool.not_eq_false]
  constructor
  · rintro ⟨o, ho, h⟩ f hf
    exact h f ((Except.ok.inj ho).symm.trans hf)
  · intro h
    exact ⟨_, rfl, h⟩

/-- A handler without a feature is not the feature guard's concern. -/
theorem FeatureGuard.canActivate_of_none (hm : ctx.requiredFeature = none) :
    (FeatureGuard.canActivate pick ctx user).eval db = .ok x := by
  unfold FeatureGuard.canActivate
  rw [hm]
  split <;> rfl

/-- A call is admitted if the four guards admit it. -/
theorem authorize_eq_ok : (authorize clients w ctx request).eval db = .ok session ↔
    (AuthGuard.canActivate clients w ctx request).eval db = .ok session ∧
      (RolesGuard.canActivate ctx (session.map Session.user)).eval db = .ok () ∧
      (TenantGuard.canActivate ctx (session.map Session.user)).eval db = .ok () := by
  simp only [authorize, eval_bind_eq_ok, eval_pure, Except.ok.injEq]
  constructor
  · rintro ⟨s, hs, _, hroles, _, htenant, rfl⟩
    exact ⟨hs, hroles, htenant⟩
  · rintro ⟨hs, hroles, htenant⟩
    exact ⟨session, hs, (), hroles, (), htenant, rfl⟩

/-- The second look of `RolesGuard` rejects nothing the first one has let pass. -/
theorem guards_eq_ok : (guards clients pick w ctx request).eval db = .ok session ↔
    (authorize clients w ctx request).eval db = .ok session ∧
      (FeatureGuard.canActivate pick ctx (session.map Session.user)).eval db = .ok () := by
  simp only [guards, eval_bind_eq_ok, eval_when_eq_ok, eval_pure, Except.ok.injEq]
  constructor
  · rintro ⟨s, hs, _, hf, _, -, rfl⟩
    exact ⟨hs, hf⟩
  · rintro ⟨hs, hf⟩
    exact ⟨session, hs, (), hf, (), fun _ => (authorize_eq_ok.1 hs).2.1, rfl⟩

/-- A call that `authorize` lets pass carries a token with a role the handler asks for. -/
theorem session_of_authorize (h : (authorize clients w ctx request).eval db = .ok session)
    (hctx : ¬ctx.Public) : ∃ s, session = some s ∧ ⟨.access, s.user⟩ ∈ w.tokens ∧
      (s.user.role = .superAdmin ∨ ctx.requiredRoles = [] ∨ s.user.role ∈ ctx.requiredRoles) := by
  obtain ⟨hauth, hroles, -⟩ := authorize_eq_ok.1 h
  rcases AuthGuard.canActivate_eq_ok.1 hauth with ⟨hpub, -⟩ | ⟨-, s, rfl, -, hverify, -⟩
  · exact absurd hpub hctx
  · refine ⟨s, rfl, (Jwt.verify_eq_some.1 hverify).2.1, ?_⟩
    rcases RolesGuard.canActivate_eq_ok.1 hroles with hpub | hnil | ⟨p, hp, hrole⟩
    · exact absurd hpub hctx
    · exact .inr (.inl hnil)
    · obtain rfl : s.user = p := Option.some.inj hp
      exact hrole.imp_right .inr

end Admits

end NodeVms
