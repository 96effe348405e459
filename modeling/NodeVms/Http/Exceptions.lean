/-
# What a client is told

A method throws an `HttpException` with a status and a response, or the database
client throws something else.  `AllExceptionsFilter` answers the first with its
status and message, the second with status 500 and nothing of what happened.
-/

import NodeVms.Http.Interceptors
import NodeVms.Http.Methods
import NodeVms.Http.Routes

namespace NodeVms

open Store Script Js

variable {ν : Type}

/-- A value that is thrown. -/
inductive Thrown (ν : Type) where
  /-- An `HttpException`, with its `getStatus()`, its `getResponse()` and its `message`. -/
  | http (status : Nat) (response : Data ν) (message : String)
  /-- Another `Error`. -/
  | error (message : String)
  | other

/-- A string as a value. -/
abbrev text (s : String) : Data ν := .primitive (.string s)

section Thrown

variable [NatCast ν]

/-- `HttpException.createBody`, of a message and the description of the status. -/
def createBody (message : Data ν) (description : String) (status : Nat) : Data ν :=
  .object [("message", message), ("error", text description),
    ("statusCode", .primitive (.number status))]

/-- `new …Exception(message)`, for the classes whose name is the description of their status. -/
def httpException (status : Nat) (description message : String) : Thrown ν :=
  .http status (createBody (text message) description status) message

/-- The exception; those of the database client have a text of their own. -/
def Error.thrown (clientError : String) : Error → Thrown ν
  | .badRequest message => httpException 400 "Bad Request" message
  | .unavailable message reasons =>
    .http 400 (.object [("message", text message), ("reasons", .array (reasons.map text))]) message
  | .unauthorized message => httpException 401 "Unauthorized" message
  | .forbidden message => httpException 403 "Forbidden" message
  | .notFound message => httpException 404 "Not Found" message
  | .conflict message => httpException 409 "Conflict" message
  | .tooManyRequests message => .http 429 (text message) message
  | _ => .error clientError

/-- `ValidationPipe`: the messages of all the constraints that a body violates. -/
def ValidationPipe.thrown (errors : List String) : Thrown ν :=
  .http 400 (createBody (.array (errors.map text)) "Bad Request" 400) "Bad Request Exception"

/-- What the method behind an operation throws, if it does. -/
def Operation.thrown (jwt : Jwt) (w : World) (clientError : String) :
    Operation → Option (Thrown ν)
  | .request _ r => (r.method.failure w.db).map (Error.thrown clientError)
  | .login env dto =>
    match (Auth.login jwt env dto).eval w.db with
    | .ok _ => none
    | .error e => some (e.thrown clientError)
  | .refresh env refreshToken =>
    match (Auth.refresh jwt env w.tokens refreshToken).eval w.db with
    | .ok _ => none
    | .error e => some (e.thrown clientError)
  | .logout redisUp now s =>
    if redisUp ∨ Auth.logout now s.token (s.user.exp.getD 0) = [] then none
    else some (.error clientError)

/-- A method that throws has changed nothing in the database. -/
theorem Operation.next_of_thrown {jwt : Jwt} {w : World} {clientError : String} {op : Operation}
    {e : Thrown ν} (h : op.thrown jwt w clientError = some e) : op.next w.db = w.db := by
  cases op with
  | request redisUp r =>
    obtain ⟨err, herr, -⟩ := Option.map_eq_some_iff.1 h
    have hnext := next_of_failure herr
    rwa [r.next_method] at hnext
  | _ => rfl

end Thrown

/-! ### `AllExceptionsFilter` -/

/-- What the client gets. -/
structure Response (ν : Type) where
  status : Nat
  body : Data ν

namespace AllExceptionsFilter

variable [Printed JsDate] [Printed ν]

def normalizeMessage (status : Nat) (rawMessage : Data ν) : Data ν :=
  if status = 500 then text "Internal server error"
  else
    match rawMessage with
    | .primitive (.string s) => text s
    | rawMessage =>
      match rawMessage.get? "message" with
      | some (.array items) => .array (items.map fun v => text v.printed)
      | some message => text message.printed
      | none => text "Request failed"

/-- `catch`: the status, and the body of the answer. -/
def response [NatCast ν] (now : Time) (path : String) (exception : Thrown ν) : Response ν :=
  let status := match exception with
    | .http status .. => status
    | _ => 500
  let rawMessage := match exception with
    | .http _ response _ => response
    | _ => text "Internal server error"
  { status
    body := .object [("success", .primitive (.boolean false)),
      ("error", .object [("statusCode", .primitive (.number status)),
        ("message", normalizeMessage status rawMessage)]),
      ("meta", .object [("timestamp", text now.toISOString), ("path", text path)])] }

end AllExceptionsFilter

/-- `error.message` of a body. -/
def Response.message (r : Response ν) : Option (Data ν) :=
  (r.body.get? "error").bind (Value.get? "message")

end NodeVms
