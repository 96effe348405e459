/-
# The audit log

`AuditInterceptor` sends an entry to `AuditService.log` when a handler that is no
`GET` is through with a call made with a session, one way or the other.  It does
not wait for the entry to be written: that happens at some later moment, after
whatever other requests (`Store.Outbox`), and an entry the database refuses is given
up.

An `Exchange` is a call with what the model of the services leaves open, and its
answer.
-/

import NodeVms.Http.Exceptions
import NodeVms.Services.Reads
import NodeVms.Store.Outbox

namespace NodeVms

open Store Script Js

variable {ν : Type}

/-! ### The log -/

/-- What `AuditService.log` is called with. -/
structure AuditEntry where
  tenantId : String
  userId : String
  action : String
  entity : String
  entityId : String
  success : Bool := true
  statusCode : Option Nat := none
  errorMessage : Option String := none
  deriving DecidableEq

/-- A row of the table `AuditLog`, which only `AuditService` reads and writes. -/
structure AuditLog where
  id : Cuid
  entry : AuditEntry
  createdAt : Time

namespace AuditService

/-- `log`: the row, unless the database refuses it for its key or a reference.  A text that no
column holds, one with the character `U+0000`, is refused too: such texts are left out. -/
def log (id : Cuid) (now : Time) (t : Tables) (logs : List AuditLog) (entry : AuditEntry) :
    Option AuditLog :=
  if (∀ l ∈ logs, l.id ≠ id) ∧ (∃ r ∈ t.tenants, r.id.val = entry.tenantId) ∧
      ∃ u ∈ t.users, u.id.val = entry.userId then
    some { id, entry, createdAt := now }
  else none

structure AuditQueryDto where
  entity : Option String := none
  entityId : Option String := none
  userId : Option String := none
  startDate : Option JsDate := none
  endDate : Option JsDate := none

/-- `user: { select: { id: true, name: true, email: true, role: true } }`. -/
structure Author where
  id : String
  name : String
  email : String
  role : Role
  deriving DecidableEq

/-- A row of the log with its author. -/
structure AuditRow where
  log : AuditLog
  user : Option Author

/-- `include: { user: { select } }`. -/
def withAuthor (t : Tables) (log : AuditLog) : AuditRow where
  log
  user := (t.users.find? fun u => u.id.val = log.entry.userId).map fun u =>
    { id := u.id, name := u.name, email := u.email, role := u.role }

/-- `where` of `findAll`. -/
structure Asked (tenantId : String) (query : AuditQueryDto) (startDate endDate : Option Time)
    (log : AuditLog) : Prop where
  tenantId : log.entry.tenantId = tenantId
  entity : ∀ k ∈ nonEmpty query.entity, log.entry.entity = k
  entityId : ∀ k ∈ nonEmpty query.entityId, log.entry.entityId = k
  userId : ∀ k ∈ nonEmpty query.userId, log.entry.userId = k
  startDate : ∀ d ∈ startDate, d ≤ log.createdAt
  endDate : ∀ d ∈ endDate, log.createdAt ≤ d

/-- The conditions of the query, one by one. -/
theorem asked_iff {tenantId : String} {query : AuditQueryDto} {startDate endDate : Option Time}
    {log : AuditLog} : Asked tenantId query startDate endDate log ↔
      log.entry.tenantId = tenantId ∧ (∀ k ∈ nonEmpty query.entity, log.entry.entity = k) ∧
      (∀ k ∈ nonEmpty query.entityId, log.entry.entityId = k) ∧
      (∀ k ∈ nonEmpty query.userId, log.entry.userId = k) ∧
      (∀ d ∈ startDate, d ≤ log.createdAt) ∧ ∀ d ∈ endDate, log.createdAt ≤ d :=
  ⟨fun ⟨h₁, h₂, h₃, h₄, h₅, h₆⟩ => ⟨h₁, h₂, h₃, h₄, h₅, h₆⟩,
    fun ⟨h₁, h₂, h₃, h₄, h₅, h₆⟩ => ⟨h₁, h₂, h₃, h₄, h₅, h₆⟩⟩

instance (tenantId : String) (query : AuditQueryDto) (startDate endDate : Option Time) :
    DecidablePred (Asked tenantId query startDate endDate) := fun _ =>
  decidable_of_iff _ asked_iff.symm

/-- `findAll`, from the rows of the log. -/
def findAll (logs : List AuditLog) (tenantId : String) (query : AuditQueryDto) :
    Query (List AuditRow) := do
  let startDate ← JsDate.validOpt query.startDate
  let endDate ← JsDate.validOpt query.endDate
  Script.read fun db =>
    ((desc AuditLog.createdAt
      (logs.filter fun log => Asked tenantId query startDate endDate log)).take 500).map
        (withAuthor db.toTables)

end AuditService

/-! ### `AuditInterceptor` -/

namespace AuditInterceptor

def MUTATION_METHODS : List HttpMethod := [.post, .patch, .put, .delete]

def PATH_KEYWORDS : List String :=
  ["start", "end", "items", "status", "read", "dismiss", "scan", "confirm", "cancel", "location",
    "latest", "history", "profit-loss", "expiring", "jobs"]

/-- `path.split('/').filter(Boolean)`, of the path before the query string. -/
def parts (url : String) : List String :=
  (((url.toList.takeWhile (· ≠ '?')).splitOn '/').map String.ofList).filter (· ≠ "")

section Extract

variable [Printed JsDate] [Printed ν]

/-- `extractMeta`: the entity and its id. -/
def extractMeta (url : String) (body : Data ν) : String × String :=
  let parts := parts url
  let fromBody := (body.get? "id").map Value.printed
  let fromUrl := (parts[1]?).filter (· ∉ PATH_KEYWORDS)
  ((parts[0]?).getD "unknown", (fromBody.or fromUrl).getD "unknown")

def extractErrorMessage : Thrown ν → String
  | .http _ (.primitive (.string response)) _ => response
  | .http _ response message =>
    match response.get? "message" with
    | some (.array items) => "; ".intercalate (items.map Value.printed)
    | some v => v.printed
    | none => message
  | .error message => message
  | .other => "Internal server error"

def statusCode : Thrown ν → Nat
  | .http status .. => status
  | _ => 500

/-- What is sent to `AuditService.log`, when `next.handle()` ends with this result. -/
def entry (method : HttpMethod) (url : String) (user : Option JwtPayload)
    (result : Except (Thrown ν) (Data ν)) : Option AuditEntry :=
  if method ∉ MUTATION_METHODS then none
  else user.map fun user =>
    match result with
    | .ok responseBody =>
      let (entity, entityId) := extractMeta url responseBody
      { tenantId := user.tenantId, userId := user.sub, action := method.text, entity, entityId }
    | .error e =>
      let (entity, entityId) := extractMeta url (.undefined : Data ν)
      { tenantId := user.tenantId, userId := user.sub, action := method.text, entity, entityId,
        success := false, statusCode := some (statusCode e),
        errorMessage := some (extractErrorMessage e) }

end Extract
end AuditInterceptor

/-! ### Calls and their answers -/

/-- A call with its URL, the constraints its body violates, and what is left to the
method: the value it returns if it goes through, and the text of what the database
client throws if that is how it ends. -/
structure Exchange (ν : Type) where
  call : HttpCall
  url : String
  violations : Option (List String) := none
  returned : Data ν
  clientError : String

namespace Exchange

section

variable (clients : Clients) (pick : Pick FeatureAccess) (w : World)

/-- What the guards of the endpoint say. -/
def admission (x : Exchange ν) : Option (Endpoint × Except Error (Option Session)) :=
  x.call.action.endpoint.map fun e =>
    (e, (guards clients pick w e.context x.call.request).eval w.db)

/-- The state after the call. -/
def serve (x : Exchange ν) : World :=
  match x.violations with
  | some _ => w
  | none => World.serve clients pick (.http x.call) w

variable [NatCast ν]

/-- What the pipes and the handler make of a call that has passed the guards; the
password is removed from what the handler returns. -/
def result (x : Exchange ν) (session : Option Session) : Except (Thrown ν) (Data ν) :=
  match x.violations with
  | some errors => .error (ValidationPipe.thrown errors)
  | none =>
    match x.call.operation clients w session with
    | some op =>
      match op.thrown clients.jwt w x.clientError with
      | some e => .error e
      | none => .ok (SensitiveFieldsInterceptor.intercept x.returned)
    | none => .error ((Error.unauthorized "Missing refresh token").thrown x.clientError)

variable [Printed JsDate] [Printed ν]

/-- What the interceptor sends to the audit log. -/
def entries (x : Exchange ν) : List AuditEntry :=
  match x.admission clients pick w with
  | some (e, .ok session) =>
    (AuditInterceptor.entry e.route.method x.url (session.map Session.user)
      (x.result clients w session)).toList
  | _ => []

/-- The answer. -/
def response (x : Exchange ν) : Option (Response ν) :=
  match x.admission clients pick w with
  | some (e, .ok session) =>
    match x.result clients w session with
    | .ok body => some
      { status := e.route.status
        body := ResponseInterceptor.intercept x.call.env.now x.url body }
    | .error thrown => some (AllExceptionsFilter.response x.call.env.now x.url thrown)
  | some (_, .error e) =>
    some (AllExceptionsFilter.response x.call.env.now x.url (e.thrown x.clientError))
  | none => none

end
end Exchange

/-! ### Runs -/

/-- The application with its audit log and the entries that are not yet written. -/
structure Audited where
  world : World
  audit : Outbox AuditEntry AuditLog

/-- What happens to the application and to its audit trail. -/
inductive AuditedEvent (ν : Type) where
  | exchange (x : Exchange ν)
  | dailyAlertsScan (env : Env) (tenantId : String)
  | offlineDetection (env : Env)
  /-- The `n`-th entry under way reaches the database, which gives it this id. -/
  | write (n : Nat) (id : Cuid) (now : Time)

/-- The id it generates for a row of the log. -/
def AuditedEvent.logId : AuditedEvent ν → Option Cuid
  | .write _ id _ => some id
  | _ => none

namespace Audited

variable [NatCast ν] [Printed JsDate] [Printed ν] (clients : Clients) (pick : Pick FeatureAccess)

/-- Nobody is registered and nothing recorded. -/
def init : Audited := ⟨World.init, .empty⟩

/-- The entries the interceptor sends while an event is handled. -/
def emits : AuditedEvent ν → Audited → List AuditEntry
  | .exchange x, s => x.entries clients pick s.world
  | _, _ => []

/-- An entry is sent when its call is answered and written in an event of its own. -/
def step : AuditedEvent ν → Audited → Audited
  | .exchange x, s =>
    { world := x.serve clients pick s.world
      audit := s.audit.send (x.entries clients pick s.world) }
  | .dailyAlertsScan env tenantId, s =>
    { s with world := World.serve clients pick (.dailyAlertsScan env tenantId) s.world }
  | .offlineDetection env, s =>
    { s with world := World.serve clients pick (.offlineDetection env) s.world }
  | .write n id now, s =>
    { s with
      audit := s.audit.deliver n
        (AuditService.log id now s.world.db.toTables s.audit.written) }

end Audited

end NodeVms
