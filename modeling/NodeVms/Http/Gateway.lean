/-
# The socket gateway

A client opens a socket, sends `joinRoom` with the id of a tenant and is in the room of that
tenant from then on; `saveLocation` sends every location it has saved to the room of its
tenant.  `Live` is the application with its sockets, and a `LiveEvent` what reaches it: an
event of the application, or a message of a socket.  The room every socket has to itself,
under its id, plays no part.
-/

import Mathlib.Data.List.DropRight
import NodeVms.Http.World

namespace NodeVms

open Store

/-- A socket. -/
structure Socket where
  id : String
  /-- The account of the client, if it has one; no handler asks for it. -/
  openedBy : Option String
  deriving DecidableEq

/-- `trim()`. -/
def trim (s : String) : String :=
  String.ofList ((s.toList.dropWhile Users.isTrimmed).rdropWhile Users.isTrimmed)

namespace AppGateway

/-- Which sockets are in which rooms. -/
abbrev Rooms : Type := List (Socket × String)

/-- The room of a tenant. -/
def room (tenantId : String) : String := "tenant:" ++ tenantId

/-- `client.join(room)`. -/
def join (client : Socket) (room : String) (rooms : Rooms) : Rooms :=
  if (client, room) ∈ rooms then rooms else rooms ++ [(client, room)]

/-- The message is `none` when it is not a string. -/
def handleJoinRoom (client : Socket) (tenantId : Option String) (rooms : Rooms) : Rooms :=
  match tenantId with
  | some tenantId => if trim tenantId = "" then rooms else join client (room (trim tenantId)) rooms
  | none => rooms

/-- A socket that goes leaves its rooms. -/
def disconnect (client : Socket) (rooms : Rooms) : Rooms := rooms.filter fun m => m.1 ≠ client

/-- The sockets `locationUpdate` is sent to, with what they are sent. -/
def emitLocation (tenantId : String) (data : LocationData) (rooms : Rooms) :
    List (Socket × LocationData) :=
  (rooms.filter fun m => m.2 = room tenantId).map fun m => (m.1, data)

variable {client k : Socket} {tenantId T : String} {rooms : Rooms} {r : String}

/-- Tenants have different rooms. -/
theorem room_injective : Function.Injective room :=
  fun _ _ h => (String.append_right_inj _).1 h

/-- Joining adds one socket to one room. -/
theorem mem_join (h : (k, r) ∈ join client tenantId rooms) :
    (k, r) ∈ rooms ∨ k = client ∧ r = tenantId := by
  unfold join at h
  split at h
  · exact .inl h
  · rcases List.mem_append.1 h with h | h
    · exact .inl h
    · exact .inr (Prod.mk.inj (List.mem_singleton.1 h))

/-- A socket is put into the room it has named, and into no other. -/
theorem mem_handleJoinRoom {message : Option String}
    (h : (k, room T) ∈ handleJoinRoom client message rooms) :
    (k, room T) ∈ rooms ∨ k = client ∧ message.map trim = some T := by
  unfold handleJoinRoom at h
  cases message with
  | none => exact .inl h
  | some tenantId =>
    change _ ∈ ite _ _ _ at h
    split at h
    · exact .inl h
    · rcases mem_join h with h | ⟨rfl, hroom⟩
      · exact .inl h
      · exact .inr ⟨rfl, congrArg some (room_injective hroom).symm⟩

/-- Disconnecting adds none. -/
theorem mem_disconnect (h : (k, r) ∈ disconnect client rooms) : (k, r) ∈ rooms :=
  (List.mem_filter.1 h).1

/-- What a room is sent reaches the sockets in it only. -/
theorem mem_emitLocation {data data' : LocationData} (h : (k, data') ∈ emitLocation T data rooms) :
    (k, room T) ∈ rooms := by
  obtain ⟨m, hm, hmk⟩ := List.mem_map.1 h
  obtain ⟨hmem, hroom⟩ := List.mem_filter.1 hm
  obtain rfl : m.1 = k := congrArg Prod.fst hmk
  rwa [← of_decide_eq_true hroom]

end AppGateway

/-! ### Calls as they arrive -/

/-- What the token of the call claims, verified or not. -/
def HttpCall.payload (jwt : Jwt) (call : HttpCall) : Option JwtPayload := do
  let token ← nonEmpty (AuthGuard.extractToken call.request)
  let t ← jwt.decode token
  return t.payload

/-- `POST /tracking/location`. -/
def Action.isSaveLocation : Action → Bool
  | .tenant (.tracking ..) => true
  | _ => false

/-- A `saveLocation` of a caller of the tenant. -/
def Event.savesFor (jwt : Jwt) (tenantId : String) : Event → Bool
  | .http call =>
    call.action.isSaveLocation && (call.payload jwt).any fun p => p.tenantId = tenantId
  | _ => false

/-- The clock and the ids of an event. -/
def Event.env : Event → Env
  | .http call => call.env
  | .dailyAlertsScan env _ => env
  | .offlineDetection env => env

section Calls

variable {clients : Clients} {pick : Pick FeatureAccess} {w : World} {e : Event} {call : HttpCall}

/-- The request a call is admitted with draws from the call. -/
theorem Event.env_eq {up : Bool} {r : Request}
    (h : e.operation clients pick w = some (.request up r)) : r.env = e.env := by
  cases e with
  | http call =>
    obtain ⟨session, -, hop⟩ := Event.operation_http h
    rcases HttpCall.operation_request hop with ⟨s, rt, limited, -, -, rfl⟩ | ⟨s, pr, -, -, rfl⟩ |
      ⟨pr, -, -, rfl⟩ <;> rfl
  | dailyAlertsScan env T => cases h; rfl
  | offlineDetection env => cases h; rfl

/-- The session of an admitted call is what its token claims, and the token has been signed. -/
theorem HttpCall.Admitted.payload {s : Session} (h : call.Admitted clients pick w (some s)) :
    call.payload clients.jwt = some s.user ∧ ⟨.access, s.user⟩ ∈ w.tokens := by
  obtain ⟨htoken, hverify⟩ := h.verified
  obtain ⟨hdecode, hmem, -⟩ := Jwt.verify_eq_some.1 hverify
  refine ⟨?_, hmem⟩
  unfold HttpCall.payload
  rw [htoken]
  change (clients.jwt.decode s.token).bind (fun t => some t.payload) = _
  rw [hdecode]
  rfl

/-- A `saveLocation` of a tenant that is let pass saves for the tenant. -/
theorem Event.operation_of_savesFor {T : String} {op : Operation}
    (he : e.savesFor clients.jwt T = true) (hop : e.operation clients pick w = some op) :
    (∃ t ∈ w.tokens, t.payload.tenantId = T) ∧
      ∃ up env limited dto, op = .request up (.tenant env T (.tracking limited dto)) := by
  cases e with
  | http call =>
    obtain ⟨hsave, htenant⟩ := Bool.and_eq_true_iff.1 he
    obtain ⟨session, hadm, hcall⟩ := Event.operation_http hop
    cases ha : call.action with
    | tenant r =>
      cases r with
      | tracking limited dto =>
        cases session with
        | none => simp [HttpCall.operation, ha] at hcall
        | some s =>
          obtain ⟨hpayload, hmem⟩ := hadm.payload
          have hT : s.user.tenantId = T := by
            rw [hpayload] at htenant
            exact of_decide_eq_true htenant
          simp only [HttpCall.operation, ha, Option.some.injEq] at hcall
          rw [hT] at hcall
          exact ⟨⟨_, hmem, hT⟩, _, _, _, dto, hcall.symm⟩
      | _ => rw [ha] at hsave; cases hsave
    | _ => rw [ha] at hsave; cases hsave
  | dailyAlertsScan env T => cases he
  | offlineDetection env => cases he

end Calls

/-! ### The application and its sockets -/

/-- The location `saveLocation` emits, with the tenant whose room it goes to. -/
def Operation.emits (w : World) : Operation → Option (String × LocationData)
  | .request _ (.tenant env tenantId (.tracking limited dto)) =>
    (Tracking.saved env tenantId limited dto w.db).map fun data => (tenantId, data)
  | _ => none

/-- The location event that is emitted while an event is handled, to the room of a tenant. -/
def Event.emits (clients : Clients) (pick : Pick FeatureAccess) (w : World) (e : Event) :
    Option (String × LocationData) :=
  (e.operation clients pick w).bind (Operation.emits w)

/-- A `saveLocation` of a tenant emits into the tenant's room. -/
theorem Event.room_of_savesFor {clients : Clients} {pick : Pick FeatureAccess} {w : World} {e : Event}
    {T : String} {p : String × LocationData} (he : e.savesFor clients.jwt T = true)
    (h : e.emits clients pick w = some p) : p.1 = T := by
  obtain ⟨op, hop, hemit⟩ := Option.bind_eq_some_iff.1 h
  obtain ⟨-, up, env, limited, dto, rfl⟩ := Event.operation_of_savesFor he hop
  obtain ⟨data, -, rfl⟩ := Option.map_eq_some_iff.1 hemit
  rfl

/-- The application with its sockets. -/
structure Live where
  world : World
  rooms : AppGateway.Rooms
  /-- The location events sent so far, each with the socket it went to. -/
  delivered : List (Socket × LocationData)

/-- What happens to the application and to its sockets. -/
inductive LiveEvent where
  | app (e : Event)
  | joinRoom (client : Socket) (tenantId : Option String)
  | disconnect (client : Socket)

namespace Live

/-- No socket is in a room. -/
def init : Live := ⟨World.init, [], []⟩

/-- An emitted location goes to the sockets that are in the room at that moment. -/
def step (clients : Clients) (pick : Pick FeatureAccess) : LiveEvent → Live → Live
  | .app e, s =>
    { s with
      world := World.serve clients pick e s.world
      delivered := s.delivered ++ match e.emits clients pick s.world with
        | some (tenantId, data) => AppGateway.emitLocation tenantId data s.rooms
        | none => [] }
  | .joinRoom client tenantId, s =>
    { s with rooms := AppGateway.handleJoinRoom client tenantId s.rooms }
  | .disconnect client, s => { s with rooms := AppGateway.disconnect client s.rooms }

/-- The location events a socket has received, in order. -/
def received (s : Live) (client : Socket) : List LocationData :=
  s.delivered.filterMap fun d => if d.1 = client then some d.2 else none

end Live

end NodeVms
