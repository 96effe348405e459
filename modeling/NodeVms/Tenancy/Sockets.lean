/-
# What a socket receives

A `saveLocation` of a tenant leaves a location, two keys in Redis and an event in the room
of the tenant.  `World.Alike` relates states that differ in the first two.  No other call
tells them apart, so a socket outside the room receives the same whether the tenant has
saved locations or not (`received_eq_of_outside`).
-/

import NodeVms.Access.Tokens
import NodeVms.Http.Gateway
import NodeVms.Http.Keys
import NodeVms.Tenancy.Unaware

namespace NodeVms

open Store Script

/-! ### The keys of `saveLocation` -/

namespace Tracking

variable {T T' : String}

/-- A key `saveLocation` sets for the tenant, whose id has no colon. -/
def KeyOf (tenantId key : String) : Prop :=
  ':' ∉ tenantId.toList ∧
    ∃ vehicleId, key = rateLimitKey tenantId vehicleId ∨ key = cacheKey tenantId vehicleId

/-- The tenants' rate limits are apart. -/
theorem not_keyOf_rateLimitKey (hT' : ':' ∉ T'.toList) (hne : T' ≠ T) (v : String) :
    ¬KeyOf T (rateLimitKey T' v) := by
  rintro ⟨hT, v', h | h⟩
  · exact hne (eq_of_rateLimitKey_eq hT' hT h)
  · exact rateLimitKey_ne_cacheKey v v' h

/-- Revoked tokens are kept elsewhere. -/
theorem not_keyOf_blacklistKey (token : String) : ¬KeyOf T (Auth.blacklistKey token) := by
  rintro ⟨-, v', h | h⟩
  · exact rateLimitKey_ne T v' token h.symm
  · exact cacheKey_ne T v' token h.symm

/-! ### What is saved -/

variable {env : Env} {limited : Bool} {dto : SaveLocationDto} {db db' : Database}

/-- The location a call saves, if its id is new: that of a live vehicle of the tenant,
unless the vehicle has just sent one. -/
theorem saved_eq (hid : ∀ l ∈ db.gpsLocations, l.id ≠ env.cuid 0) :
    saved env T limited dto db =
      if limited = false ∧ LiveVehicle db.toTables T dto.vehicleId then
        (db.vehicles.find? fun v => v.id.val = dto.vehicleId).map fun vehicle =>
          { vehicleId := dto.vehicleId, registrationNo := vehicle.registrationNo, lat := dto.lat,
            lng := dto.lng, speed := dto.speed.nullish.getD 0,
            timestamp := Time.toISOString env.now }
      else none := by
  unfold saved
  split
  · rename_i location db' hok
    obtain ⟨hl, hv, hlocation, -⟩ := saveLocation_ok hok
    rw [if_pos ⟨hl, hv⟩, hlocation]
  · rename_i e herr
    rw [if_neg]
    rintro ⟨rfl, hv⟩
    obtain ⟨location, db', hok⟩ := saveLocation_accepted hid hv
    rw [hok] at herr
    cases herr

/-- Locations that are there already make no difference. -/
theorem saved_congr (hid : ∀ l ∈ db.gpsLocations, l.id ≠ env.cuid 0)
    (hid' : ∀ l ∈ db'.gpsLocations, l.id ≠ env.cuid 0) (h : db.hideLocations = db'.hideLocations) :
    saved env T limited dto db = saved env T limited dto db' := by
  have hvehicles : db.vehicles = db'.vehicles := congrArg (fun db => db.vehicles) h
  have hlive : LiveVehicle db.toTables T dto.vehicleId ↔ LiveVehicle db'.toTables T dto.vehicleId := by
    unfold LiveVehicle
    rw [hvehicles]
  rw [saved_eq hid, saved_eq hid']
  simp only [hlive, hvehicles]

/-- A request of a tenant sets keys of the tenant only. -/
theorem keyOf_of_mem_sets (hT : ':' ∉ T.toList) {p : RedisSet}
    (hp : p ∈ sets env T limited dto db) : KeyOf T p.key :=
  ⟨hT, dto.vehicleId, key_of_mem_sets hp⟩

end Tracking

/-! ### What guards and tokens depend on -/

section Guards

variable {clients : Clients} {pick : Pick FeatureAccess} {w w' : World} {ctx : ExecutionContext}
  {request : HttpRequest} {user : Option JwtPayload}

/-- The guards read users and tenants. -/
theorem blind_findUserWithTenant {p : User → Bool} :
    (findUserWithTenant p).Blind Database.hideLocations fun _ => True :=
  blind_read fun _ => rfl

/-- What they check of a user they have read already. -/
theorem blind_assertApproved {u : User} :
    (assertApproved u).Blind Database.hideLocations fun _ => True :=
  blind_when <| blind_bind blind_throwIf fun _ =>
    blind_bind blind_throwIf fun _ => blind_throwIf

/-- Whether a token is admitted does not depend on positions or alerts. -/
theorem AuthGuard.blind_canActivate :
    (canActivate clients w ctx request).Blind Database.hideLocations fun _ => True := by
  unfold canActivate
  split
  · trivial
  · refine blind_bind blind_orThrow fun _ => ?_
    refine blind_bind blind_orThrow fun _ => ?_
    exact blind_bind blind_throwIf fun _ => trivial

/-- Nor does whether the role fits. -/
theorem RolesGuard.blind_canActivate :
    (canActivate ctx user).Blind Database.hideLocations fun _ => True := by
  unfold canActivate
  split
  · trivial
  · exact blind_bind blind_orThrow fun _ => blind_when blind_throwIf

/-- Nor does whether the tenant is in use. -/
theorem TenantGuard.blind_canActivate :
    (canActivate ctx user).Blind Database.hideLocations fun _ => True := by
  unfold canActivate
  split
  · trivial
  · refine blind_bind blind_orThrow fun _ => blind_when ?_
    refine blind_bind blind_findUserWithTenant fun _ => ?_
    refine blind_bind blind_orThrow fun _ => ?_
    refine blind_bind blind_assertApproved fun _ => ?_
    exact blind_bind blind_throwIf fun _ => blind_throwIf

/-- Nor does whether the feature is on. -/
theorem FeatureGuard.blind_canActivate :
    (canActivate pick ctx user).Blind Database.hideLocations fun _ => True := by
  unfold canActivate
  split
  · trivial
  · refine blind_whenSome fun _ => blind_bind blind_orThrow fun _ => ?_
    refine blind_when (blind_bind (blind_read fun _ => rfl) fun _ => ?_)
    exact blind_whenSome fun _ => blind_throwIf

/-- So the four guards together do not depend on them. -/
theorem blind_guards :
    (guards clients pick w ctx request).Blind Database.hideLocations fun _ => True := by
  unfold guards authorize
  refine blind_bind ?_ fun _ => ?_
  · refine blind_bind AuthGuard.blind_canActivate fun _ => ?_
    refine blind_bind RolesGuard.blind_canActivate fun _ => ?_
    exact blind_bind TenantGuard.blind_canActivate fun _ => trivial
  · refine blind_bind FeatureGuard.blind_canActivate fun _ => ?_
    exact blind_bind (blind_when RolesGuard.blind_canActivate) fun _ => trivial

end Guards

namespace Auth

variable {jwt : Jwt} {env : Env} {tokens : List Signed}

/-- A login does not depend on them. -/
theorem blind_login (dto : LoginDto) :
    (login jwt env dto).Blind Database.hideLocations fun _ => True := by
  unfold login
  refine blind_bind blind_findUserWithTenant fun _ => ?_
  refine blind_bind blind_orThrow fun _ => ?_
  refine blind_bind blind_throwIf fun _ => ?_
  refine blind_bind blind_assertApproved fun _ => ?_
  refine blind_bind blind_throwIf fun _ => ?_
  exact blind_bind blind_throwIf fun _ => trivial

/-- The refresh of a token does not either. -/
theorem blind_refresh (refreshToken : String) :
    (refresh jwt env tokens refreshToken).Blind Database.hideLocations fun _ => True := by
  unfold refresh
  refine blind_bind blind_orThrow fun _ => ?_
  refine blind_bind blind_findUserWithTenant fun _ => ?_
  refine blind_bind blind_orThrow fun _ => ?_
  exact blind_bind blind_throwIf fun _ => trivial

end Auth

/-! ### States that differ in what is saved of a tenant's locations -/

namespace World

/-- The two differ in locations, in alerts and in the tenant's keys. -/
structure Alike (T : String) (w w' : World) : Prop where
  db : w.db.hideLocations = w'.db.hideLocations
  tokens : w.tokens = w'.tokens
  redis : ∀ key, ¬Tracking.KeyOf T key →
    (w.redis.filter fun p => p.key = key) = (w'.redis.filter fun p => p.key = key)

variable {clients : Clients} {pick : Pick FeatureAccess} {T : String} {w w' w'' : World}

namespace Alike

/-- A world is like itself. -/
theorem refl : Alike T w w := ⟨rfl, rfl, fun _ _ => rfl⟩

/-- Which world comes first does not matter. -/
theorem symm (h : Alike T w w') : Alike T w' w :=
  ⟨h.db.symm, h.tokens.symm, fun key hkey => (h.redis key hkey).symm⟩

/-- Likeness is passed on. -/
theorem trans (h : Alike T w w') (h' : Alike T w' w'') : Alike T w w'' :=
  ⟨h.db.trans h'.db, h.tokens.trans h'.tokens,
    fun key hkey => (h.redis key hkey).trans (h'.redis key hkey)⟩

/-- Redis answers the same for a key that is not the tenant's. -/
theorem get_eq (h : Alike T w w') (hredis : clients.redis.Local) {key : String}
    (hkey : ¬Tracking.KeyOf T key) (now : Time) :
    clients.redis.get w.redis key now = clients.redis.get w'.redis key now :=
  hredis _ _ _ _ (h.redis key hkey)

/-- Worlds that are alike admit the same calls. -/
theorem guards_eq (h : Alike T w w') (hredis : clients.redis.Local) (ctx : ExecutionContext)
    (request : HttpRequest) : (guards clients pick w ctx request).eval w.db =
      (guards clients pick w' ctx request).eval w'.db := by
  have hscript : guards clients pick w ctx request = guards clients pick w' ctx request := by
    have hblack : ∀ token, AuthGuard.blacklisted clients w request token =
        AuthGuard.blacklisted clients w' request token := by
      intro token
      unfold AuthGuard.blacklisted
      rw [h.get_eq hredis (Tracking.not_keyOf_blacklistKey token)]
    unfold guards authorize AuthGuard.canActivate
    simp only [hblack, h.tokens]
  rw [hscript]
  exact blind_guards.eval_congr h.db

/-- The same tokens are signed. -/
theorem signs_eq (h : Alike T w w') (jwt : Jwt) (op : Operation) :
    op.signs jwt w = op.signs jwt w' := by
  cases op with
  | login env dto =>
    have hlogin : (Auth.login jwt env dto).eval w.db = (Auth.login jwt env dto).eval w'.db :=
      (Auth.blind_login dto).eval_congr h.db
    simp only [Operation.signs, hlogin]
  | refresh env refreshToken =>
    have hrefresh : (Auth.refresh jwt env w.tokens refreshToken).eval w.db =
        (Auth.refresh jwt env w'.tokens refreshToken).eval w'.db := by
      rw [← h.tokens]
      exact (Auth.blind_refresh refreshToken).eval_congr h.db
    simp only [Operation.signs, hrefresh]
  | request redisUp r =>
    cases r with
    | tenant env T r => rfl
    | platform env pr =>
      cases pr with
      | seedSuperAdmin dto =>
        have hseed : ((Auth.seedSuperAdmin env dto).exec w.db).map Prod.fst =
            ((Auth.seedSuperAdmin env dto).exec w'.db).map Prod.fst :=
          (Auth.seedSuperAdmin_unaware dto).exec_congr h.db
        simp only [Operation.signs]
        cases hexec : (Auth.seedSuperAdmin env dto).exec w.db with
        | error e =>
          cases hexec' : (Auth.seedSuperAdmin env dto).exec w'.db with
          | error e' => rfl
          | ok r' => rw [hexec, hexec'] at hseed; cases hseed
        | ok r =>
          cases hexec' : (Auth.seedSuperAdmin env dto).exec w'.db with
          | error e' => rw [hexec, hexec'] at hseed; cases hseed
          | ok r' =>
            rw [hexec, hexec'] at hseed
            have huser : r.1 = r'.1 := Except.ok.inj hseed
            simp only [huser]
      | _ => rfl
  | logout redisUp now session => rfl

end Alike

/-- A state some run leads to, with no colon in the id of a tenant. -/
structure Plain (clients : Clients) (w : World) : Prop where
  reachable : w.Reachable clients
  tenants : ∀ t ∈ w.db.tenants, ':' ∉ t.id.val.toList

/-- The tenant of a token is one of the table, whose ids are plain. -/
theorem Plain.not_mem_tenantId (h : Plain clients w) {t : Signed} (ht : t ∈ w.tokens) :
    ':' ∉ t.payload.tenantId.toList := by
  obtain ⟨tenant, htenant, hid⟩ := h.reachable.hasTenant ht
  rw [← hid]
  exact h.tenants tenant htenant

/-! ### One event -/

variable {e : Event}

/-- What `cuid()` promises of the first id a request generates: it has no colon, and no
location has it yet. -/
structure Generates (w : World) (e : Event) : Prop where
  plain : ':' ∉ (e.env.cuid 0).val.toList
  fresh : ∀ l ∈ w.db.gpsLocations, l.id ≠ e.env.cuid 0

instance (w : World) (e : Event) : Decidable (Generates w e) :=
  decidable_of_iff (':' ∉ (e.env.cuid 0).val.toList ∧ ∀ l ∈ w.db.gpsLocations, l.id ≠ e.env.cuid 0)
    ⟨fun h => ⟨h.1, h.2⟩, fun h => ⟨h.plain, h.fresh⟩⟩

/-- A call with new ids keeps the ids plain. -/
theorem Plain.serve (h : Plain clients w) (he : Generates w e) :
    Plain clients (World.serve clients pick e w) := by
  refine World.serve_induct h fun op hop => ⟨h.reachable.next op, fun t ht => ?_⟩
  cases op with
  | request up r =>
    rcases step_tenant_ids r w.db t ht with ⟨t₀, ht₀, hid, -⟩ | ⟨-, hid⟩
    · have hid : t₀.id = t.id := hid
      rw [← hid]
      exact h.tenants t₀ ht₀
    · have hid : t.id = r.env.cuid 0 := hid
      rw [hid, Event.env_eq hop]
      exact he.plain
  | _ => exact h.tenants t ht

/-- A `saveLocation` of the tenant leaves a state like the one it has found. -/
theorem Plain.serve_savesFor (h : Plain clients w) (he : e.savesFor clients.jwt T = true) :
    Alike T (World.serve clients pick e w) w := by
  unfold World.serve
  cases hop : e.operation clients pick w with
  | none => exact .refl
  | some op =>
    obtain ⟨⟨t, ht, rfl⟩, up, env, limited, dto, rfl⟩ := Event.operation_of_savesFor he hop
    have hT := h.not_mem_tenantId ht
    refine ⟨Tracking.saveLocation_hideLocations limited dto w.db, List.append_nil _, ?_⟩
    intro key hkey
    change ((w.redis ++ _).filter _) = _
    rw [List.filter_append, List.append_right_eq_self, List.filter_eq_nil_iff]
    intro p hp hpkey
    cases up with
    | true => exact hkey (of_decide_eq_true hpkey ▸ Tracking.keyOf_of_mem_sets hT hp)
    | false => exact absurd hp List.not_mem_nil

/-- Worlds that are alike have the same ids. -/
theorem Plain.of_alike (h : Plain clients w) (h' : Alike T w' w) (hw' : w'.Reachable clients) :
    Plain clients w' where
  reachable := hw'
  tenants := by
    have htenants : w'.db.tenants = w.db.tenants := congrArg (fun db => db.tenants) h'.db
    rw [htenants]
    exact h.tenants

/-- Any other event leads to the same operation. -/
theorem Alike.operation_eq (h : Alike T w w') (hredis : clients.redis.Local)
    (hw' : Plain clients w') (he : e.savesFor clients.jwt T = false) :
    e.operation clients pick w = e.operation clients pick w' := by
  cases e with
  | http call =>
    simp only [Event.operation, h.guards_eq hredis]
    cases hend : call.action.endpoint with
    | none => rfl
    | some ep =>
      cases hok : (guards clients pick w' ep.context call.request).eval w'.db with
      | error err =>
        simp only [Option.bind_eq_bind, Option.bind_some, hok]
        rfl
      | ok session =>
        simp only [Option.bind_eq_bind, Option.bind_some, hok]
        change call.operation clients w session = call.operation clients w' session
        cases session with
        | none => rfl
        | some s =>
          have hadm : call.Admitted clients pick w' (some s) := ⟨ep, hend, hok⟩
          obtain ⟨hpayload, hmem⟩ := hadm.payload
          cases ha : call.action with
          | tenant r =>
            cases r with
            | tracking limited dto =>
              have hne : s.user.tenantId ≠ T := by
                rintro rfl
                simp [Event.savesFor, ha, hpayload, Action.isSaveLocation] at he
              have hkey := Tracking.not_keyOf_rateLimitKey (hw'.not_mem_tenantId hmem) hne
              simp only [HttpCall.operation, ha, Tracking.limited,
                h.get_eq hredis (hkey dto.vehicleId)]
            | _ => simp only [HttpCall.operation, ha]
          | _ => simp only [HttpCall.operation, ha]
  | dailyAlertsScan env tenantId => rfl
  | offlineDetection env => rfl

section Operations

variable {op : Operation}

/-- The first id the operation generates is not that of a location. -/
def Fresh (w : World) (op : Operation) : Prop :=
  ∀ up r, op = .request up r → ∀ l ∈ w.db.gpsLocations, l.id ≠ r.env.cuid 0

/-- An operation with new ids emits the same in both worlds. -/
theorem Alike.emits_eq (h : Alike T w w') (hop : Fresh w op) (hop' : Fresh w' op) :
    op.emits w = op.emits w' := by
  cases op with
  | request up r =>
    cases r with
    | tenant env tenantId rq =>
      cases rq with
      | tracking limited dto =>
        have hsaved : Tracking.saved env tenantId limited dto w.db =
            Tracking.saved env tenantId limited dto w'.db :=
          Tracking.saved_congr (hop up _ rfl) (hop' up _ rfl) h.db
        simp only [Operation.emits, hsaved]
      | _ => rfl
    | platform env pr => rfl
  | _ => rfl

/-- It sets the same keys. -/
theorem Alike.sets_eq (h : Alike T w w') (hop : Fresh w op) (hop' : Fresh w' op) :
    op.sets w = op.sets w' := by
  cases op with
  | request up r =>
    cases r with
    | tenant env tenantId rq =>
      cases rq with
      | tracking limited dto =>
        cases up with
        | true =>
          have hsaved : Tracking.saved env tenantId limited dto w.db =
              Tracking.saved env tenantId limited dto w'.db :=
            Tracking.saved_congr (hop true _ rfl) (hop' true _ rfl) h.db
          simp only [Operation.sets, Tracking.sets, hsaved]
        | false => rfl
      | _ => cases up <;> rfl
    | platform env pr => cases up <;> rfl
  | logout up now session => cases up <;> rfl
  | _ => rfl

/-- It leaves the worlds alike. -/
theorem Alike.step (h : Alike T w w') (hop : Fresh w op) (hop' : Fresh w' op) :
    Alike T (World.step clients op w) (World.step clients op w') where
  db := by
    cases op with
    | request up r => exact step_hideLocations r h.db
    | _ => exact h.db
  tokens := by
    change w.tokens ++ _ = w'.tokens ++ _
    rw [h.tokens, h.signs_eq]
  redis key hkey := by
    change (w.redis ++ _).filter _ = (w'.redis ++ _).filter _
    rw [List.filter_append, List.filter_append, h.redis key hkey, h.sets_eq hop hop']

end Operations

/-- The ids an admitted call draws are new. -/
theorem Generates.fresh_operation {op : Operation} (h : Generates w e)
    (hop : e.operation clients pick w = some op) : Fresh w op := by
  rintro up r rfl
  rw [Event.env_eq hop]
  exact h.fresh

/-- Any other event emits the same and leaves states alike. -/
theorem Alike.serve (h : Alike T w w') (hredis : clients.redis.Local) (hw' : Plain clients w')
    (he : e.savesFor clients.jwt T = false) (hgen : Generates w e) (hgen' : Generates w' e) :
    Alike T (World.serve clients pick e w) (World.serve clients pick e w') ∧
      e.emits clients pick w = e.emits clients pick w' := by
  have hsame : e.operation clients pick w = e.operation clients pick w' :=
    h.operation_eq hredis hw' he
  unfold World.serve Event.emits
  cases hop' : e.operation clients pick w' with
  | none =>
    rw [hsame, hop']
    exact ⟨h, rfl⟩
  | some op =>
    have hop := hsame.trans hop'
    rw [hop]
    have hfresh := hgen.fresh_operation hop
    have hfresh' := hgen'.fresh_operation hop'
    exact ⟨h.step hfresh hfresh', h.emits_eq hfresh hfresh'⟩

end World

/-! ### Runs -/

/-- A `saveLocation` of the tenant. -/
def LiveEvent.savesFor (jwt : Jwt) (tenantId : String) : LiveEvent → Bool
  | .app e => e.savesFor jwt tenantId
  | _ => false

/-- The socket asks for the room of the tenant. -/
def LiveEvent.Joins (k : Socket) (tenantId : String) : LiveEvent → Prop
  | .joinRoom client message => client = k ∧ message.map trim = some tenantId
  | _ => False

instance (k : Socket) (tenantId : String) : DecidablePred (LiveEvent.Joins k tenantId) := fun e => by
  unfold LiveEvent.Joins; split <;> infer_instance

namespace Live

variable {clients : Clients} {pick : Pick FeatureAccess} {T : String} {k : Socket} {s s' : Live}
  {es es' : List LiveEvent}

/-- The ids an event generates are new. -/
def Generates : LiveEvent → Live → Prop
  | .app e, s => World.Generates s.world e
  | _, _ => True

instance (e : LiveEvent) (s : Live) : Decidable (Generates e s) := by
  unfold Generates; split <;> infer_instance

/-- The socket is outside the tenant's room and has received the same in both states. -/
structure Outside (clients : Clients) (T : String) (k : Socket) (s s' : Live) : Prop where
  world : World.Alike T s.world s'.world
  plain : World.Plain clients s.world
  plain' : World.Plain clients s'.world
  rooms : s.rooms = s'.rooms
  outside : (k, AppGateway.room T) ∉ s.rooms
  received : s.received k = s'.received k

/-- Which run comes first does not matter. -/
theorem Outside.symm (h : Outside clients T k s s') : Outside clients T k s' s :=
  ⟨h.world.symm, h.plain', h.plain, h.rooms.symm, h.rooms ▸ h.outside, h.received.symm⟩

/-- The socket does not receive what the tenant's calls emit. -/
theorem Outside.step_savesFor (h : Outside clients T k s s') {e : LiveEvent}
    (he : e.savesFor clients.jwt T = true) : Outside clients T k (step clients pick e s) s' := by
  cases e with
  | app e =>
    have halike : World.Alike T (World.serve clients pick e s.world) s.world :=
      h.plain.serve_savesFor he
    have hreach : World.Reachable clients (World.serve clients pick e s.world) :=
      World.serve_induct h.plain.reachable fun op _ => h.plain.reachable.next op
    refine ⟨halike.trans h.world, h.plain.of_alike halike hreach, h.plain', h.rooms, h.outside, ?_⟩
    rw [← h.received]
    change (s.delivered ++ _).filterMap _ = s.delivered.filterMap _
    rw [List.filterMap_append, List.append_right_eq_self, List.filterMap_eq_nil_iff]
    rintro ⟨k', data⟩ hd
    refine if_neg fun hk => ?_
    obtain rfl : k' = k := hk
    cases hemit : e.emits clients pick s.world with
    | none =>
      rw [hemit] at hd
      exact absurd hd List.not_mem_nil
    | some p =>
      rw [hemit] at hd
      have hroom := AppGateway.mem_emitLocation hd
      rw [Event.room_of_savesFor he hemit] at hroom
      exact h.outside hroom
  | joinRoom client message => cases he
  | disconnect client => cases he

/-- An event of both runs, other than a saved position of the tenant. -/
theorem Outside.step (h : Outside clients T k s s') (hredis : clients.redis.Local) {e : LiveEvent}
    (he : e.savesFor clients.jwt T = false) (hjoin : ¬e.Joins k T) (hgen : Generates e s)
    (hgen' : Generates e s') : Outside clients T k (step clients pick e s) (step clients pick e s') := by
  cases e with
  | app e =>
    obtain ⟨halike, hemits⟩ := @World.Alike.serve clients pick T _ _ e h.world hredis h.plain' he
      hgen hgen'
    refine ⟨halike, h.plain.serve hgen, h.plain'.serve hgen', h.rooms, h.outside, ?_⟩
    change (s.delivered ++ _).filterMap _ = (s'.delivered ++ _).filterMap _
    rw [List.filterMap_append, List.filterMap_append, hemits, h.rooms]
    exact congrArg (· ++ _) h.received
  | joinRoom client message =>
    refine ⟨h.world, h.plain, h.plain', ?_, fun hk => ?_, h.received⟩
    · exact congrArg (AppGateway.handleJoinRoom client message) h.rooms
    rcases AppGateway.mem_handleJoinRoom hk with hk | hk
    · exact h.outside hk
    · exact hjoin ⟨hk.1.symm, hk.2⟩
  | disconnect client =>
    exact ⟨h.world, h.plain, h.plain', congrArg (AppGateway.disconnect client) h.rooms,
      fun hk => h.outside (AppGateway.mem_disconnect hk), h.received⟩

/-- **Whatever locations a tenant saves**, a socket that never asks for its room receives the same. -/
theorem received_eq_of_outside (hredis : clients.redis.Local)
    (hsame : (es.filter fun e => !e.savesFor clients.jwt T) =
      es'.filter fun e => !e.savesFor clients.jwt T)
    (hgen : Along (step clients pick) Generates es init)
    (hgen' : Along (step clients pick) Generates es' init) (hjoin : ∀ e ∈ es, ¬e.Joins k T) :
    (run (step clients pick) es init).received k =
      (run (step clients pick) es' init).received k := by
  have hjoin' : ∀ e ∈ es', ¬e.Joins k T := by
    intro e he hk
    have hseen : (!e.savesFor clients.jwt T) = true := by
      cases e with
      | app e => cases hk
      | _ => rfl
    have hmem : e ∈ es.filter fun e => !e.savesFor clients.jwt T := by
      rw [hsame]
      exact List.mem_filter.2 ⟨he, hseen⟩
    exact hjoin e (List.mem_filter.1 hmem).1 hk
  have hinit : Outside clients T k init init :=
    ⟨.refl, ⟨.refl, fun _ h => nomatch h⟩, ⟨.refl, fun _ h => nomatch h⟩, rfl, List.not_mem_nil, rfl⟩
  have hrel : Outside clients T k (run (Live.step clients pick) es init)
      (run (Live.step clients pick) es' init) := by
    refine run_related (P := fun e s => Generates e s ∧ ¬e.Joins k T) ?_ ?_ ?_ hsame
      (hgen.and_forall hjoin) (hgen'.and_forall hjoin') hinit
    · intro e s s' he h
      exact h.step_savesFor ((Bool.not_eq_false' _).mp he)
    · intro e s s' he h
      exact (h.symm.step_savesFor ((Bool.not_eq_false' _).mp he)).symm
    · intro e s s' he hP hP' h
      exact h.step hredis ((Bool.not_eq_true' _).mp he) hP.2 hP.1 hP'.1
  exact hrel.received

end Live

end NodeVms
