/-
# The running application

`Operation` is what the services do, on the database, the tokens and Redis: a
request of `NodeVms.System`, or one of the three calls of `AuthService` that
leave the database alone.  A run of operations is executed whoever asks.

`Event` is what reaches the application: a call of an endpoint, which has to
pass the guards of the endpoint, or one of the two jobs.  The controllers take
the tenant and the caller from the token, never from the body.  Calls of the
endpoints that only read are left out.
-/

import NodeVms.Http.Endpoints
import NodeVms.System

namespace NodeVms

open Store

/-! ### Locations -/

namespace Tracking

def rateLimitKey (tenantId vehicleId : String) : String :=
  "tracking:ratelimit:" ++ tenantId ++ ":" ++ vehicleId

def cacheKey (tenantId vehicleId : String) : String := "gps:" ++ tenantId ++ ":" ++ vehicleId

/-- The location a successful `saveLocation` caches and emits. -/
def saved (env : Env) (tenantId : String) (limited : Bool) (dto : SaveLocationDto) (db : Database) :
    Option LocationData :=
  match (saveLocation env tenantId limited dto).exec db with
  | .ok (location, _) =>
    (db.vehicles.find? fun v => v.id.val = dto.vehicleId).map fun vehicle =>
      { vehicleId := dto.vehicleId, registrationNo := vehicle.registrationNo, lat := location.lat,
        lng := location.lng, speed := location.speed,
        timestamp := Time.toISOString location.timestamp }
  | .error _ => none

/-- The `SET`s `saveLocation` sends: the rate limit, and the location it has saved. -/
def sets (env : Env) (tenantId : String) (limited : Bool) (dto : SaveLocationDto) (db : Database) :
    List RedisSet :=
  if limited then []
  else
    setEx env.now (rateLimitKey tenantId dto.vehicleId) .flag 5 ::
      ((saved env tenantId limited dto db).map fun data =>
        setEx env.now (cacheKey tenantId dto.vehicleId) (.json data) 3600).toList

end Tracking

/-! ### Operations -/

/-- What a request comes to behind the guards. -/
inductive Operation where
  | request (redisUp : Bool) (r : Request)
  | login (env : Env) (dto : Auth.LoginDto)
  | refresh (env : Env) (refreshToken : String)
  | logout (redisUp : Bool) (now : Time) (session : Session)

namespace Operation

/-- What it does to the database. -/
def next : Operation → Database → Database
  | .request _ r => NodeVms.step r
  | _ => id

/-- The tokens it signs. -/
def signs (jwt : Jwt) (w : World) : Operation → List Signed
  | .login env dto =>
    match (Auth.login jwt env dto).eval w.db with
    | .ok pair => [pair.accessToken, pair.refreshToken]
    | .error _ => []
  | .refresh env refreshToken =>
    match (Auth.refresh jwt env w.tokens refreshToken).eval w.db with
    | .ok accessToken => [accessToken]
    | .error _ => []
  | .request _ (.platform env (.seedSuperAdmin dto)) =>
    match (Auth.seedSuperAdmin env dto).exec w.db with
    | .ok (user, _) =>
      let pair := Auth.generateTokenPair jwt env user
      [pair.accessToken, pair.refreshToken]
    | .error _ => []
  | _ => []

/-- The `SET`s it sends to Redis. -/
def sets (w : World) : Operation → List RedisSet
  | .logout true now session => Auth.logout now session.token (session.user.exp.getD 0)
  | .request true (.tenant env tenantId (.tracking limited dto)) =>
    Tracking.sets env tenantId limited dto w.db
  | _ => []

end Operation

namespace World

/-- Nobody is registered. -/
def init : World := ⟨Database.empty, [], []⟩

/-- One operation, executed atomically. -/
def step (clients : Clients) (op : Operation) (w : World) : World where
  db := op.next w.db
  tokens := w.tokens ++ op.signs clients.jwt w
  redis := w.redis ++ op.sets w

/-- The states some run of operations leads to. -/
abbrev Reachable (clients : Clients) (w : World) : Prop :=
  Store.Reachable (step clients) init w

variable {clients : Clients} {w : World}

/-- An operation does to the database what its request does. -/
@[simp] theorem step_db (op : Operation) : (step clients op w).db = op.next w.db := rfl

/-- The database of a reachable state is a reachable one. -/
theorem Reachable.db (h : Reachable clients w) : NodeVms.Reachable w.db := by
  refine h.invariant (I := fun w => NodeVms.Reachable w.db) Store.Reachable.refl ?_
  intro op w _ hw
  cases op with
  | request redisUp r => exact hw.next r
  | _ => exact hw

end World

/-! ### Calls -/

/-- What the controllers fill in from the token, and what `saveLocation` learns from Redis. -/
def TenantRequest.by (user : JwtPayload) (limited : Bool) : TenantRequest → TenantRequest
  | .users (.update id dto _) => .users (.update id dto ⟨user.sub, user.role⟩)
  | .users (.resetSubordinatePassword targetId newPassword _) =>
    .users (.resetSubordinatePassword targetId newPassword user.role)
  | .users (.remove id _) => .users (.remove id ⟨user.sub, user.role⟩)
  | .trips (.startTrip vehicleId _) => .trips (.startTrip vehicleId user.sub)
  | .trips (.endTrip tripId _ dto _) => .trips (.endTrip tripId user.sub dto user.role)
  | .tracking _ dto => .tracking limited dto
  | r => r

/-- A profile request is about the user of the session. -/
def PlatformRequest.by (user : JwtPayload) : PlatformRequest → PlatformRequest
  | .changePassword _ dto => .changePassword user.sub dto
  | .changeName _ name => .changeName user.sub name
  | r => r

/-- The handler a request of a tenant's user is routed to. -/
def TenantRequest.endpoint : TenantRequest → Endpoint
  | .users (.create _) => ⟨.users, UsersController.create⟩
  | .users (.update ..) => ⟨.users, UsersController.update⟩
  | .users (.resetSubordinatePassword ..) => ⟨.users, UsersController.resetPassword⟩
  | .users (.remove ..) => ⟨.users, UsersController.remove⟩
  | .branches (.create _) => ⟨.branches, BranchesController.create⟩
  | .branches (.update ..) => ⟨.branches, BranchesController.update⟩
  | .branches (.remove _) => ⟨.branches, BranchesController.remove⟩
  | .vehicles (.create _) => ⟨.vehicles, VehiclesController.create⟩
  | .vehicles (.update ..) => ⟨.vehicles, VehiclesController.update⟩
  | .vehicles (.remove _) => ⟨.vehicles, VehiclesController.remove⟩
  | .drivers (.create _) => ⟨.drivers, DriversController.create⟩
  | .drivers (.update ..) => ⟨.drivers, DriversController.update⟩
  | .drivers (.remove _) => ⟨.drivers, DriversController.remove⟩
  | .assignments (.create _) => ⟨.assignments, AssignmentsController.create⟩
  | .assignments (.update ..) => ⟨.assignments, AssignmentsController.update⟩
  | .assignments (.remove _) => ⟨.assignments, AssignmentsController.remove⟩
  | .bookings (.create _) => ⟨.bookings, BookingsController.create⟩
  | .bookings (.confirm _) => ⟨.bookings, BookingsController.confirm⟩
  | .bookings (.cancel _) => ⟨.bookings, BookingsController.cancel⟩
  | .bookings (.assign ..) => ⟨.bookings, BookingsController.assign⟩
  | .contracts (.create _) => ⟨.contracts, ContractsController.create⟩
  | .contracts (.update ..) => ⟨.contracts, ContractsController.update⟩
  | .contracts (.remove _) => ⟨.contracts, ContractsController.remove⟩
  | .trips (.startTrip ..) => ⟨.trips, TripsController.startTrip⟩
  | .trips (.endTrip ..) => ⟨.trips, TripsController.endTrip⟩
  | .trips (.updateTrip ..) => ⟨.trips, TripsController.updateTrip⟩
  | .fuel _ => ⟨.fuel, FuelController.addLog⟩
  | .maintenance _ => ⟨.maintenance, MaintenanceController.create⟩
  | .documents _ => ⟨.documents, DocumentsController.create⟩
  | .workshop (.createJob _) => ⟨.workshop, WorkshopController.createJob⟩
  | .workshop (.addItem ..) => ⟨.workshop, WorkshopController.addItem⟩
  | .workshop (.updateStatus ..) => ⟨.workshop, WorkshopController.updateStatus⟩
  | .expenses _ => ⟨.expenses, ExpensesController.create⟩
  | .income (.create _) => ⟨.income, IncomeController.create⟩
  | .income (.update ..) => ⟨.income, IncomeController.update⟩
  | .income (.remove _) => ⟨.income, IncomeController.remove⟩
  | .alerts (.scan _) => ⟨.alerts, AlertsController.scan⟩
  | .alerts (.markRead _) => ⟨.alerts, AlertsController.markRead⟩
  | .alerts (.dismiss _) => ⟨.alerts, AlertsController.dismiss⟩
  | .tracking .. => ⟨.tracking, TrackingController.saveLocation⟩

/-- The offline job has no endpoint. -/
def PlatformRequest.endpoint : PlatformRequest → Option Endpoint
  | .registerTenant _ => some ⟨.auth, AuthController.register⟩
  | .seedSuperAdmin _ => some ⟨.auth, AuthController.seedSuperAdmin⟩
  | .approve _ => some ⟨.adminApplications, AdminApplicationsController.approve⟩
  | .reject _ => some ⟨.adminApplications, AdminApplicationsController.reject⟩
  | .suspend _ => some ⟨.adminApplications, AdminApplicationsController.suspend⟩
  | .reactivate _ => some ⟨.adminApplications, AdminApplicationsController.reactivate⟩
  | .resetAdminPassword .. =>
    some ⟨.adminApplications, AdminApplicationsController.resetAdminPassword⟩
  | .updateTenant .. => some ⟨.tenants, TenantsController.update⟩
  | .removeTenant _ => some ⟨.tenants, TenantsController.remove⟩
  | .enableFeature .. => some ⟨.featureAccess, FeatureAccessController.enable⟩
  | .disableFeature .. => some ⟨.featureAccess, FeatureAccessController.disable⟩
  | .createSubscription _ => some ⟨.subscriptions, SubscriptionsController.create⟩
  | .updateSubscription .. => some ⟨.subscriptions, SubscriptionsController.update⟩
  | .changePassword .. => some ⟨.profile, ProfileController.changePassword⟩
  | .changeName .. => some ⟨.profile, ProfileController.changeName⟩
  | .runOfflineDetection => none

/-- The endpoint does not depend on who calls it. -/
@[simp] theorem TenantRequest.endpoint_by (r : TenantRequest) (user : JwtPayload) (limited : Bool) :
    (r.by user limited).endpoint = r.endpoint := by
  unfold TenantRequest.by
  split <;> rfl

/-- Nor does that of the platform's. -/
@[simp] theorem PlatformRequest.endpoint_by (r : PlatformRequest) (user : JwtPayload) :
    (r.by user).endpoint = r.endpoint := by
  unfold PlatformRequest.by
  split <;> rfl

/-- What a client asks for. -/
inductive Action where
  | tenant (r : TenantRequest)
  | platform (r : PlatformRequest)
  | login (dto : Auth.LoginDto)
  | refresh
  | logout

/-- The handler it is routed to; a job has none. -/
def Action.endpoint : Action → Option Endpoint
  | .tenant r => some r.endpoint
  | .platform r => r.endpoint
  | .login _ => some ⟨.auth, AuthController.login⟩
  | .refresh => some ⟨.auth, AuthController.refresh⟩
  | .logout => some ⟨.auth, AuthController.logout⟩

/-- A call: what the guards look at, what the handler draws from its
surroundings, and which handler with which arguments. -/
structure HttpCall where
  request : HttpRequest
  env : Env
  action : Action

/-- The answer of `redis.get` for the rate limit of a vehicle, if Redis answers. -/
def Tracking.limited (clients : Clients) (w : World) (call : HttpCall) (tenantId : String)
    (dto : SaveLocationDto) : Bool :=
  call.request.redisUp &&
    (clients.redis.get w.redis (rateLimitKey tenantId dto.vehicleId) call.env.now).isSome

/-- The handler, once the guards have let the call pass. -/
def HttpCall.operation (clients : Clients) (w : World) (call : HttpCall) :
    Option Session → Option Operation
  | some s =>
    match call.action with
    | .tenant r =>
      let limited := match r with
        | .tracking _ dto => Tracking.limited clients w call s.user.tenantId dto
        | _ => false
      some (.request call.request.redisUp
        (.tenant call.env s.user.tenantId (r.by s.user limited)))
    | .platform r => some (.request call.request.redisUp (.platform call.env (r.by s.user)))
    | .logout => some (.logout call.request.redisUp call.env.now s)
    | _ => none
  | none =>
    match call.action with
    | .platform r => some (.request call.request.redisUp (.platform call.env r))
    | .login dto => some (.login call.env dto)
    | .refresh => (nonEmpty call.request.refreshCookie).map (.refresh call.env)
    | _ => none

/-- What happens to the application. -/
inductive Event where
  | http (call : HttpCall)
  /-- The daily scan, for one of the active tenants. -/
  | dailyAlertsScan (env : Env) (tenantId : String)
  | offlineDetection (env : Env)

/-- The call passes the guards of its endpoint, with this session. -/
def HttpCall.Admitted (clients : Clients) (pick : Pick FeatureAccess) (w : World) (call : HttpCall)
    (session : Option Session) : Prop :=
  ∃ e ∈ call.action.endpoint,
    (guards clients pick w e.context call.request).eval w.db = .ok session

/-- The operation an event leads to, if any. -/
def Event.operation (clients : Clients) (pick : Pick FeatureAccess) (w : World) :
    Event → Option Operation
  | .http call => do
    let e ← call.action.endpoint
    let session ← ((guards clients pick w e.context call.request).eval w.db).toOption
    call.operation clients w session
  | .dailyAlertsScan env tenantId =>
    some (.request true (.tenant env tenantId (.alerts (.scan 30))))
  | .offlineDetection env => some (.request true (.platform env .runOfflineDetection))

/-- What an event does; a call that is turned away does nothing. -/
def World.serve (clients : Clients) (pick : Pick FeatureAccess) (e : Event) (w : World) : World :=
  match e.operation clients pick w with
  | some op => World.step clients op w
  | none => w

section Serve

variable {clients : Clients} {pick : Pick FeatureAccess} {w : World}

/-- Only admitted calls lead to an operation. -/
theorem Event.operation_http {call : HttpCall} {op : Operation}
    (h : (Event.http call).operation clients pick w = some op) :
    ∃ session, call.Admitted clients pick w session ∧
      call.operation clients w session = some op := by
  simp only [Event.operation, Option.bind_eq_bind, Option.bind_eq_some_iff] at h
  obtain ⟨e, he, session, hs, hop⟩ := h
  refine ⟨session, ⟨e, he, ?_⟩, hop⟩
  cases hg : (guards clients pick w e.context call.request).eval w.db with
  | error err => rw [hg] at hs; exact nomatch hs
  | ok s => rw [hg] at hs; rw [Option.some.inj hs]

/-- An admitted session is that of the token the call carries. -/
theorem HttpCall.Admitted.verified {call : HttpCall} {s : Session}
    (h : call.Admitted clients pick w (some s)) :
    nonEmpty (AuthGuard.extractToken call.request) = some s.token ∧
      clients.jwt.verify w.tokens .access call.request.arrival s.token = some s.user := by
  obtain ⟨e, -, hok⟩ := h
  have hauth := (authorize_eq_ok.1 (guards_eq_ok.1 hok).1).1
  rcases AuthGuard.canActivate_eq_ok.1 hauth with ⟨-, hnone⟩ | ⟨-, s', hs, htoken, hverify, -⟩
  · cases hnone
  · obtain rfl := Option.some.inj hs
    exact ⟨htoken, hverify⟩

/-- The requests a call leads to: of the tenant in the token, and made by the
caller in the token. -/
theorem HttpCall.operation_request {call : HttpCall} {session : Option Session} {up : Bool}
    {r : Request} (h : call.operation clients w session = some (.request up r)) :
    (∃ s rt limited, session = some s ∧ call.action = .tenant rt ∧
      r = .tenant call.env s.user.tenantId (rt.by s.user limited)) ∨
    (∃ s pr, session = some s ∧ call.action = .platform pr ∧
      r = .platform call.env (pr.by s.user)) ∨
    ∃ pr, session = none ∧ call.action = .platform pr ∧ r = .platform call.env pr := by
  unfold HttpCall.operation at h
  cases session with
  | some s =>
    cases ha : call.action with
    | tenant rt =>
      simp only [ha, Option.some.injEq, Operation.request.injEq] at h
      exact .inl ⟨s, rt, _, rfl, rfl, h.2.symm⟩
    | platform pr =>
      simp only [ha, Option.some.injEq, Operation.request.injEq] at h
      exact .inr (.inl ⟨s, pr, rfl, rfl, h.2.symm⟩)
    | _ => simp [ha] at h
  | none =>
    cases ha : call.action with
    | platform pr =>
      simp only [ha, Option.some.injEq, Operation.request.injEq] at h
      exact .inr (.inr ⟨pr, rfl, rfl, h.2.symm⟩)
    | _ => simp [ha] at h

/-- An event does one request of `NodeVms.System`, or leaves the database alone. -/
theorem World.serve_db (e : Event) : (World.serve clients pick e w).db = w.db ∨
    ∃ up r, e.operation clients pick w = some (.request up r) ∧
      (World.serve clients pick e w).db = NodeVms.step r w.db := by
  unfold World.serve
  cases hop : e.operation clients pick w with
  | none => exact .inl rfl
  | some op =>
    cases op with
    | request up r => exact .inr ⟨up, r, rfl, rfl⟩
    | _ => exact .inl rfl

/-- What the services keep, the application keeps. -/
theorem World.serve_induct {P : World → Prop} {e : Event} (hw : P w)
    (hstep : ∀ op, e.operation clients pick w = some op → P (World.step clients op w)) :
    P (World.serve clients pick e w) := by
  unfold World.serve
  cases hop : e.operation clients pick w with
  | none => exact hw
  | some op => exact hstep op hop

/-- A run of the application is a run of operations. -/
theorem World.reachable_of_serve (h : Store.Reachable (World.serve clients pick) World.init w) :
    World.Reachable clients w := by
  refine h.invariant (I := World.Reachable clients) Store.Reachable.refl ?_
  intro e w _ hw
  exact World.serve_induct hw fun op _ => hw.next op

end Serve

/-! ### A small application

For the runs on fixed inputs: tokens are named, live 15 minutes and 7 days, and
Redis drops a key the moment it expires. -/

namespace Sample

def expiresIn : Secret → Int
  | .access => 900
  | .refresh => 604800

def clients (tokens : List (String × Signed)) : Clients where
  jwt :=
    { decode := fun token => (tokens.find? fun t => t.1 = token).map Prod.snd
      expiresIn }
  redis := .prompt

/-- A token of the account `sub`, whose email is its tag, signed at the epoch. -/
def token (secret : Secret) (sub email tenantId : String) (role : Role) : Signed where
  secret
  payload := { sub, email, role, tenantId, iat := some 0, exp := some (expiresIn secret) }

/-- A request of a service, with Redis up. -/
def call (r : Request) : Operation := .request true r

def platform (now : Time) (r : PlatformRequest) : Operation :=
  call (.platform (.sample "x" now) r)

/-- The account `tag` logs in. -/
def login (tag : String) (now : Time) : Operation :=
  .login (.sample "x" now) ⟨tag, tag⟩

/-- A call with an access token. -/
def http (env : Env) (accessCookie : Option String) (action : Action) : HttpCall where
  request := { arrival := env.now, accessCookie }
  env
  action

end Sample

end NodeVms
