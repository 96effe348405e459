/-
# Tokens

What `AuthService` does without writing the database: `login` and `refresh`
sign tokens, `logout` puts one on the revocation list in Redis.

Two libraries are parameters.  `Jwt` says what a token string stands for and how
long tokens are configured to live.  Signatures are ideal: `Jwt.verify` accepts
what has been signed with the secret and has not expired, and nothing else.
The Redis client is a `Store.Server`: it keeps a key set with `EX` until the
expiry.
-/

import NodeVms.Services.Accounts
import NodeVms.Store.Expiry

namespace NodeVms

open Store Script Prisma

/-- The claims of a token.  `sign` adds `iat` and `exp`, in seconds. -/
structure JwtPayload where
  sub : String
  email : String
  role : Role
  tenantId : String
  iat : Option Int
  exp : Option Int
  deriving DecidableEq

/-- `Math.floor(Date.now() / 1000)`. -/
def Time.seconds (t : Time) : Int := t / 1000

/-- `jsonwebtoken` refuses a token from the second `exp` on. -/
def JwtPayload.Expired (p : JwtPayload) (now : Time) : Prop :=
  ∃ exp ∈ p.exp, exp ≤ now.seconds

instance (p : JwtPayload) (now : Time) : Decidable (p.Expired now) := by
  unfold JwtPayload.Expired; infer_instance

/-- `JWT_SECRET` and `JWT_REFRESH_SECRET`. -/
inductive Secret where
  | access | refresh
  deriving DecidableEq, Repr

/-- A signed token. -/
structure Signed where
  secret : Secret
  payload : JwtPayload
  deriving DecidableEq

/-- `JwtService`. -/
structure Jwt where
  /-- The token a string is the encoding of. -/
  decode : String → Option Signed
  /-- `JWT_EXPIRES_IN` and `JWT_REFRESH_EXPIRES_IN`, in seconds. -/
  expiresIn : Secret → Int

namespace Jwt

/-- `sign(payload, { secret, expiresIn })` for the payload `AuthService` builds from a user. -/
def sign (jwt : Jwt) (env : Env) (secret : Secret) (user : User) : Signed where
  secret
  payload :=
    { sub := user.id, email := user.email, role := user.role, tenantId := user.tenantId,
      iat := some env.now.seconds, exp := some (env.now.seconds + jwt.expiresIn secret) }

/-- `verify(token, { secret })`, when `tokens` have been signed. -/
def verify (jwt : Jwt) (tokens : List Signed) (secret : Secret) (now : Time) (token : String) :
    Option JwtPayload :=
  match jwt.decode token with
  | some t => if t.secret = secret ∧ t ∈ tokens ∧ ¬t.payload.Expired now then some t.payload else none
  | none => none

/-- A token is valid if it was signed with the secret and has not expired. -/
theorem verify_eq_some {jwt : Jwt} {tokens : List Signed} {secret : Secret} {now : Time}
    {token : String} {p : JwtPayload} : jwt.verify tokens secret now token = some p ↔
      jwt.decode token = some ⟨secret, p⟩ ∧ ⟨secret, p⟩ ∈ tokens ∧ ¬p.Expired now := by
  unfold verify
  cases hd : jwt.decode token with
  | none => simp
  | some t =>
    obtain ⟨s, q⟩ := t
    simp only [Option.ite_none_right_eq_some, Option.some.injEq, Signed.mk.injEq]
    constructor
    · rintro ⟨⟨rfl, hmem, hexp⟩, rfl⟩
      exact ⟨⟨rfl, rfl⟩, hmem, hexp⟩
    · rintro ⟨⟨rfl, rfl⟩, hmem, hexp⟩
      exact ⟨⟨rfl, hmem, hexp⟩, rfl⟩

end Jwt

/-! ### Redis -/

/-- What `TrackingService` caches and sends to the tenant's sockets. -/
structure LocationData where
  vehicleId : String
  registrationNo : String
  lat : Amount
  lng : Amount
  speed : Amount
  timestamp : String
  deriving DecidableEq

/-- The values the application stores in Redis: the flag `'1'` and a location as JSON. -/
inductive RedisValue where
  | flag
  | json (data : LocationData)
  deriving DecidableEq

/-- A `SET`. -/
abbrev RedisSet : Type := Put String RedisValue Time

/-- `set(key, value, 'EX', seconds)`. -/
def setEx (now : Time) (key : String) (value : RedisValue) (seconds : Int) : RedisSet :=
  ⟨key, value, now + 1000 * seconds⟩

/-- The two clients a handler gets besides the database. -/
structure Clients where
  jwt : Jwt
  redis : Server String RedisValue Time

/-! ### `AuthService` -/

/-- A user and the tenant of `include: { tenant: true }`. -/
def findUserWithTenant (p : User → Bool) : Query (Option (User × Tenant)) :=
  Script.read fun db => do
    let user ← db.users.find? p
    let tenant ← db.tenants.find? fun t => t.id.val = user.tenantId
    return (user, tenant)

/-- The switch on the approval status of an ADMIN that `login` and `TenantGuard` share. -/
def assertApproved (user : User) : Query Unit :=
  when (user.role = .admin) do
    throwIf (user.approvalStatus = .pending)
      (.forbidden "Your account is pending approval by the platform administrator")
    throwIf (user.approvalStatus = .rejected)
      (.forbidden "Your account application has been rejected")
    throwIf (user.approvalStatus = .suspended) (.forbidden "Your account has been suspended")

namespace Auth

structure LoginDto where
  email : String
  password : String
  deriving DecidableEq

structure TokenPair where
  accessToken : Signed
  refreshToken : Signed
  deriving DecidableEq

def generateTokenPair (jwt : Jwt) (env : Env) (user : User) : TokenPair where
  accessToken := jwt.sign env .access user
  refreshToken := jwt.sign env .refresh user

def login (jwt : Jwt) (env : Env) (dto : LoginDto) : Query TokenPair := do
  let (user, tenant) ← orThrow
    (← findUserWithTenant fun u => u.email = dto.email ∧ u.deletedAt = none)
    (.unauthorized "Invalid credentials")
  throwIf (env.compare dto.password user.password = false) (.unauthorized "Invalid credentials")
  assertApproved user
  throwIf (user.isActive = false) (.unauthorized "Account is inactive")
  throwIf (tenant.isActive = false) (.forbidden "Tenant is suspended")
  pure (generateTokenPair jwt env user)

def refresh (jwt : Jwt) (env : Env) (tokens : List Signed) (refreshToken : String) :
    Query Signed := do
  let payload ← orThrow (jwt.verify tokens .refresh env.now refreshToken)
    (.unauthorized "Invalid refresh token")
  let (user, tenant) ← orThrow
    (← findUserWithTenant fun u => u.id.val = payload.sub ∧ u.deletedAt = none ∧ u.isActive = true)
    (.unauthorized "Invalid refresh token")
  throwIf (tenant.isActive = false) (.unauthorized "Invalid refresh token")
  pure (jwt.sign env .access user)

/-- The key of a revoked token. -/
def blacklistKey (token : String) : String := "blacklist:" ++ token

/-- The `SET`s `logout` sends. -/
def logout (now : Time) (token : String) (exp : Int) : List RedisSet :=
  let ttl := exp - now.seconds
  if ttl > 0 then [setEx now (blacklistKey token) .flag ttl] else []

end Auth

/-! ### What the checks amount to -/

section Checks

variable {db : Database} {u : User} {t : Tenant}

/-- The tenant is there, removed or not. -/
def HasTenant (t : Tables) (tenantId : String) : Prop := ∃ r ∈ t.tenants, r.id.val = tenantId

/-- The tenant's flag is up. -/
def OpenTenant (t : Tables) (tenantId : String) : Prop :=
  ∃ r ∈ t.tenants, r.id.val = tenantId ∧ r.isActive = true

/-- The account and its tenant are in use. -/
def InUse (t : Tables) (u : User) : Prop :=
  u.deletedAt = none ∧ u.isActive = true ∧ OpenTenant t u.tenantId

/-- An ADMIN's application has been approved. -/
def Approved (u : User) : Prop := u.role = .admin → u.approvalStatus = .approved

instance : Decidable (InUse db.toTables u) := by unfold InUse OpenTenant; infer_instance

instance : Decidable (Approved u) := by unfold Approved; infer_instance

/-- The check passes for an approved account. -/
@[simp] theorem eval_assertApproved_eq_ok {x : Unit} :
    (assertApproved u).eval db = .ok x ↔ Approved u := by
  simp only [assertApproved, eval_when_eq_ok, eval_bind_eq_ok, eval_throwIf_eq_ok, Approved]
  refine imp_congr_right fun _ => ?_
  cases u.approvalStatus <;> simp

/-- Emails are distinct. -/
theorem Database.nodup_email (db : Database) : (db.users.map User.email).Nodup := by
  have h : (db.users.map fun u => [u.email]).Nodup :=
    db.unique ⟨"User_email_key", fun t => t.users.map fun u => [u.email]⟩
      (by simp [Schema.uniqueIndexes])
  exact List.Nodup.of_map (fun e : String => [e]) (by rwa [List.map_map])

/-- The tenant of an account exists. -/
theorem Database.hasTenant (db : Database) (hu : u ∈ db.users) :
    HasTenant db.toTables u.tenantId :=
  db.exists_of_fkey Schema.user_tenantId_fkey hu rfl

/-- The user found, with the row of its tenant. -/
theorem eval_findUserWithTenant_eq_some {p : User → Bool} :
    (findUserWithTenant p).eval db = .ok (some (u, t)) ↔
      db.users.find? p = some u ∧ t ∈ db.tenants ∧ t.id.val = u.tenantId := by
  have hfind : ∀ k, (db.tenants.find? fun t => t.id.val = k) = some t ↔
      t ∈ db.tenants ∧ t.id.val = k := fun k =>
    (find?_key_eq_some (db.nodup_key .tenant) fun _ => of_decide_eq_true).trans
      (and_congr_right fun _ => decide_eq_true_iff)
  change Except.ok _ = Except.ok (some (u, t)) ↔ _
  rw [Except.ok.injEq, ← hfind]
  simp only [Option.bind_eq_bind, Option.pure_def, Option.bind_eq_some_iff, Option.some.injEq,
    Prod.mk.injEq]
  constructor
  · rintro ⟨v, hv, t', ht', rfl, rfl⟩
    exact ⟨hv, ht'⟩
  · rintro ⟨hu, ht⟩
    exact ⟨u, hu, t, ht, rfl, rfl⟩

end Checks

namespace Auth

variable {jwt : Jwt} {db : Database}

/-- `login` answers exactly if the account that has the email is in use, its
application approved and the password right. -/
theorem login_eq_ok {env : Env} {dto : LoginDto} {pair : TokenPair} :
    (login jwt env dto).eval db = .ok pair ↔ ∃ u ∈ db.users, u.email = dto.email ∧
      env.compare dto.password u.password = true ∧ Approved u ∧ InUse db.toTables u ∧
      pair = generateTokenPair jwt env u := by
  have hfind : ∀ u, (db.users.find? fun u => u.email = dto.email ∧ u.deletedAt = none) = some u ↔
      u ∈ db.users ∧ u.email = dto.email ∧ u.deletedAt = none := fun u =>
    (find?_key_eq_some db.nodup_email fun _ h => (of_decide_eq_true h).1).trans
      (and_congr_right fun _ => decide_eq_true_iff)
  simp only [login, eval_bind_eq_ok, eval_orThrow_eq_ok, Prod.exists, eval_throwIf_eq_ok,
    eval_assertApproved_eq_ok, eval_pure, Except.ok.injEq, Bool.not_eq_false]
  constructor
  · rintro ⟨o, ho, u, t, rfl, -, hpass, -, hok, -, hactive, -, hopen, rfl⟩
    obtain ⟨hu, ht, htid⟩ := eval_findUserWithTenant_eq_some.1 ho
    obtain ⟨hmem, hemail, hlive⟩ := (hfind u).1 hu
    exact ⟨u, hmem, hemail, hpass, hok, ⟨hlive, hactive, t, ht, htid, hopen⟩, rfl⟩
  · rintro ⟨u, hmem, hemail, hpass, hok, ⟨hlive, hactive, t, ht, htid, hopen⟩, rfl⟩
    have hu := (hfind u).2 ⟨hmem, hemail, hlive⟩
    exact ⟨_, eval_findUserWithTenant_eq_some.2 ⟨hu, ht, htid⟩, u, t, rfl, (), hpass, (), hok, (),
      hactive, (), hopen, rfl⟩

/-- `refresh` answers exactly if the token verifies and its account is in use. -/
theorem refresh_eq_ok {env : Env} {tokens : List Signed} {refreshToken : String}
    {accessToken : Signed} :
    (refresh jwt env tokens refreshToken).eval db = .ok accessToken ↔
      ∃ p, jwt.verify tokens .refresh env.now refreshToken = some p ∧
        ∃ u ∈ db.users, u.id.val = p.sub ∧ InUse db.toTables u ∧
          accessToken = jwt.sign env .access u := by
  have hfind : ∀ (p : JwtPayload) u, (db.users.find? fun u => u.id.val = p.sub ∧
      u.deletedAt = none ∧ u.isActive = true) = some u ↔
      u ∈ db.users ∧ u.id.val = p.sub ∧ u.deletedAt = none ∧ u.isActive = true := fun p u =>
    (find?_key_eq_some (db.nodup_key .user) fun _ h => (of_decide_eq_true h).1).trans
      (and_congr_right fun _ => decide_eq_true_iff)
  simp only [refresh, eval_bind_eq_ok, eval_orThrow_eq_ok, Prod.exists, eval_throwIf_eq_ok,
    eval_pure, Except.ok.injEq, Bool.not_eq_false]
  constructor
  · rintro ⟨p, hp, o, ho, u, t, rfl, -, hopen, rfl⟩
    obtain ⟨hu, ht, htid⟩ := eval_findUserWithTenant_eq_some.1 ho
    obtain ⟨hmem, hid, hlive, hactive⟩ := (hfind p u).1 hu
    exact ⟨p, hp, u, hmem, hid, ⟨hlive, hactive, t, ht, htid, hopen⟩, rfl⟩
  · rintro ⟨p, hp, u, hmem, hid, ⟨hlive, hactive, t, ht, htid, hopen⟩, rfl⟩
    have hu := (hfind p u).2 ⟨hmem, hid, hlive, hactive⟩
    exact ⟨p, hp, _, eval_findUserWithTenant_eq_some.2 ⟨hu, ht, htid⟩, u, t, rfl, (), hopen, rfl⟩

end Auth

end NodeVms
