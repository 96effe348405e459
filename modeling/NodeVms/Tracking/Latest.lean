/-
# The latest position of a vehicle

`saveLocation` persists a location and puts it into the cache; `getLatest` asks
the cache first and the table only if the cache has no answer.  Each command to
Redis may fail, and a failure is passed over.

The cache is as good as the table as long as no `SET` of a location fails over an
older entry: that entry is then served until it expires.  Where there is none at
the time of the failure, the table answers until the next `SET`.
-/

import Mathlib.Data.List.Induction
import NodeVms.Access.Logout
import NodeVms.Http.Keys

namespace NodeVms
namespace Tracking

open Store Script Prisma

/-! ### `getLatest` -/

/-- What a response says about a position. -/
structure Position where
  lat : Amount
  lng : Amount
  speed : Amount
  timestamp : String
  deriving DecidableEq

/-- The position that is sent of a row. -/
def positionOf (location : GpsLocation) : Position where
  lat := location.lat
  lng := location.lng
  speed := location.speed
  timestamp := Time.toISOString location.timestamp

/-- The position in a cached value, `JSON.parse(cached)`. -/
def cachedPosition : RedisValue → Option Position
  | .flag => none
  | .json data =>
    some { lat := data.lat, lng := data.lng, speed := data.speed, timestamp := data.timestamp }

/-- The two answers of `getLatest`. -/
inductive Latest where
  | cached (value : RedisValue)
  | stored (location : GpsLocation)
  deriving DecidableEq

/-- The position in an answer of `getLatest`. -/
def Latest.position : Latest → Option Position
  | .cached value => cachedPosition value
  | .stored location => some (positionOf location)

/-- The locations of a vehicle, in the order in which they were persisted. -/
def history (t : Tables) (tenantId vehicleId : String) : List GpsLocation :=
  t.gpsLocations.filter fun l => l.vehicleId = vehicleId ∧ l.tenantId = tenantId

/-- `cached` is what Redis answers for the cache key of the vehicle, if it answers. -/
def getLatest (tenantId vehicleId : String) (cached : Option RedisValue) :
    Query (Option Latest) := do
  let _ ← findVehicle tenantId vehicleId
  match cached with
  | some value => return some (.cached value)
  | none =>
    let locations ← findMany .gpsLocation fun l => l.vehicleId = vehicleId ∧ l.tenantId = tenantId
    -- `orderBy: { timestamp: 'desc' }`
    return (Jobs.latest locations).map .stored

/-- The latest position is the cached one, or else the newest in the table. -/
theorem getLatest_ok {T v : String} {cached : Option RedisValue} {db : Database}
    {latest : Option Latest} (h : (getLatest T v cached).eval db = .ok latest) :
    LiveVehicle db.toTables T v ∧
      latest = cached.elim ((Jobs.latest (history db.toTables T v)).map .stored)
        fun value => some (.cached value) := by
  unfold getLatest at h
  obtain ⟨vehicle, hv, h⟩ := eval_bind_eq_ok.1 h
  have hlive : LiveVehicle db.toTables T v := ⟨vehicle, eval_findVehicle_eq_ok.1 hv⟩
  cases cached with
  | some value => exact ⟨hlive, (Except.ok.inj h).symm⟩
  | none => exact ⟨hlive, (Except.ok.inj h).symm⟩

/-- In a list in the order of time the latest is the last. -/
theorem latest_eq_getLast? {l : List GpsLocation}
    (h : l.Pairwise fun a b => a.timestamp < b.timestamp) : Jobs.latest l = l.getLast? := by
  induction l using List.reverseRecOn with
  | nil => rfl
  | append_singleton l a ih =>
    obtain ⟨hl, -, hlast⟩ := List.pairwise_append.1 h
    rw [Jobs.latest_concat, ih hl, List.getLast?_concat]
    cases hm : l.getLast? with
    | none => rfl
    | some m =>
      have hlt : m.timestamp < a.timestamp :=
        hlast m (List.mem_of_getLast? hm) a (List.mem_singleton_self a)
      exact if_pos hlt

/-! ### `saveLocation`, with commands that fail -/

/-- Which commands of a `saveLocation` Redis carries out. -/
structure Commands where
  getLimit : Bool := true
  setLimit : Bool := true
  setCache : Bool := true
  deriving DecidableEq

/-- A `saveLocation`. -/
structure Save where
  env : Env
  tenantId : String
  dto : SaveLocationDto

namespace Save

variable (clients : Clients) (commands : Commands) (s : Save) (w : World)

def rateLimitKey : String := Tracking.rateLimitKey s.tenantId s.dto.vehicleId

def cacheKey : String := Tracking.cacheKey s.tenantId s.dto.vehicleId

/-- `redis.get(rateLimitKey).catch(() => null)`, as a condition. -/
def limited : Bool :=
  commands.getLimit && (clients.redis.get w.redis s.rateLimitKey s.env.now).isSome

/-- The `SET`s that get through. -/
def sets : List RedisSet :=
  let limited := s.limited clients commands w
  if limited then []
  else
    (if commands.setLimit then [setEx s.env.now s.rateLimitKey .flag 5] else []) ++
      if commands.setCache then
        ((saved s.env s.tenantId limited s.dto w.db).map fun data =>
          setEx s.env.now s.cacheKey (.json data) 3600).toList
      else []

/-- The request to the database. -/
def request : Request :=
  .tenant s.env s.tenantId (.tracking (s.limited clients commands w) s.dto)

end Save

/-- The `saveLocation` of an operation. -/
def save? : Operation → Option Save
  | .request _ (.tenant env tenantId (.tracking _ dto)) => some ⟨env, tenantId, dto⟩
  | _ => none

/-- An operation, with the fate of its commands if it is a `saveLocation`. -/
structure Turn where
  op : Operation
  commands : Commands := {}

/-- One operation, executed atomically.  What a `saveLocation` learns from Redis
is up to its commands. -/
def turn (clients : Clients) (e : Turn) (w : World) : World :=
  match save? e.op with
  | some s =>
    { w with
      db := step (s.request clients e.commands w) w.db
      redis := w.redis ++ s.sets clients e.commands w }
  | none => World.step clients e.op w

/-- Without failures this is the step of the application. -/
theorem turn_eq_step (clients : Clients) (s : Save) (w : World) :
    let op := Operation.request true (s.request clients {} w)
    turn clients { op } w = World.step clients op w := by
  intro op
  have htokens : w.tokens ++ op.signs clients.jwt w = w.tokens := List.append_nil _
  have hsets : s.sets clients {} w = op.sets w := rfl
  rw [World.step, htokens, ← hsets]
  rfl

/-! ### What a turn does -/

section Turns

variable {clients : Clients} {w : World} {e : Turn} {s : Save}

/-- A position is never cached under the key of a limit. -/
theorem cacheKey_ne_rateLimitKey (T v : String) (s : Save) : s.rateLimitKey ≠ cacheKey T v :=
  rateLimitKey_ne_cacheKey s.dto.vehicleId v

/-- Locations are written by `saveLocation` only. -/
theorem gpsLocations_not_mem_writes {up : Bool} {r : Request} (h : save? (.request up r) = none) :
    Table.gpsLocations ∉ r.writes := by
  cases r with
  | platform env r => simp [Request.writes]
  | tenant env T r =>
    cases r with
    | tracking limited dto => cases h
    | _ => simp [Request.writes, TenantRequest.writes]

/-- The other operations write no location and no entry of the cache. -/
theorem turn_other (clients : Clients) (w : World) (h : save? e.op = none) :
    (turn clients e w).db.gpsLocations = w.db.gpsLocations ∧
      ∃ log, (turn clients e w).redis = w.redis ++ log ∧
        ∀ T v, ∀ p ∈ log, p.key ≠ cacheKey T v := by
  have hturn : turn clients e w = World.step clients e.op w := by rw [turn, h]
  rw [hturn]
  obtain ⟨op, commands⟩ := e
  have hlogout : ∀ redisUp now session, ∀ T v,
      ∀ p ∈ (Operation.logout redisUp now session).sets w, p.key ≠ cacheKey T v := by
    intro redisUp now session T v p hp
    cases redisUp with
    | false => exact absurd hp List.not_mem_nil
    | true =>
      rw [(Auth.expires_of_mem_logout hp).1]
      exact (cacheKey_ne T v session.token).symm
  cases op with
  | request up r =>
    have hsame : (step r w.db).gpsLocations = w.db.gpsLocations :=
      step_same r (gpsLocations_not_mem_writes h)
    have hsets : (Operation.request up r).sets w = [] := by
      unfold Operation.sets
      split
      · rename_i heq
        cases heq
      · rename_i heq
        cases heq
        cases h
      · rfl
    refine ⟨hsame, [], congrArg (w.redis ++ ·) hsets, fun T v p hp => ?_⟩
    exact absurd hp List.not_mem_nil
  | login env dto => exact ⟨rfl, [], rfl, fun T v p hp => absurd hp List.not_mem_nil⟩
  | refresh env token => exact ⟨rfl, [], rfl, fun T v p hp => absurd hp List.not_mem_nil⟩
  | logout redisUp now session => exact ⟨rfl, _, rfl, hlogout redisUp now session⟩

/-- What a `saveLocation` persists and caches: nothing but the rate limit, or a
location of a live vehicle. -/
theorem turn_save (clients : Clients) (w : World) (h : save? e.op = some s) :
    ((turn clients e w).db = w.db ∧ ∃ log, (turn clients e w).redis = w.redis ++ log ∧
      ∀ p ∈ log, p.key = s.rateLimitKey) ∨
    (s.limited clients e.commands w = false ∧
      LiveVehicle w.db.toTables s.tenantId s.dto.vehicleId ∧ ∃ location data,
        location.tenantId = s.tenantId ∧ location.vehicleId = s.dto.vehicleId ∧
        location.timestamp = s.env.now ∧
        (turn clients e w).db.toTables = Model.gpsLocation.insert [location] w.db.toTables ∧
        cachedPosition (.json data) = some (positionOf location) ∧
        ∃ log, (∀ p ∈ log, p.key = s.rateLimitKey) ∧ (turn clients e w).redis = w.redis ++ (log ++
          if e.commands.setCache then [setEx s.env.now s.cacheKey (.json data) 3600] else [])) := by
  have hdb : (turn clients e w).db = (saveLocation s.env s.tenantId
      (s.limited clients e.commands w) s.dto).next w.db := by
    rw [turn, h]
    rfl
  have hredis : (turn clients e w).redis = w.redis ++ s.sets clients e.commands w := by
    rw [turn, h]
  have hflag : ∀ p ∈ (if e.commands.setLimit then
      [setEx s.env.now s.rateLimitKey .flag 5] else []), p.key = s.rateLimitKey := by
    intro p hp
    split at hp
    · rw [List.mem_singleton.1 hp]
      rfl
    · exact absurd hp List.not_mem_nil
  rw [hdb, hredis]
  cases hexec : (saveLocation s.env s.tenantId (s.limited clients e.commands w) s.dto).exec w.db with
  | error err =>
    have hsaved : saved s.env s.tenantId (s.limited clients e.commands w) s.dto w.db = none := by
      rw [saved, hexec]
    refine .inl ⟨by rw [next, hexec], s.sets clients e.commands w, rfl, fun p hp => ?_⟩
    simp only [Save.sets, hsaved] at hp
    split at hp
    · exact absurd hp List.not_mem_nil
    · rw [Option.map_none, Option.toList_none, ite_self, List.append_nil] at hp
      exact hflag p hp
  | ok r =>
    obtain ⟨location, db'⟩ := r
    obtain ⟨hlimited, hlive, hlocation, hw⟩ := saveLocation_ok hexec
    have hnext : ((saveLocation s.env s.tenantId (s.limited clients e.commands w) s.dto).next
        w.db).toTables = Model.gpsLocation.insert [location] w.db.toTables := by
      rw [next, hexec]
      exact hw
    obtain ⟨data, hsaved, hdata⟩ : ∃ data,
        saved s.env s.tenantId (s.limited clients e.commands w) s.dto w.db = some data ∧
        cachedPosition (.json data) = some (positionOf location) := by
      obtain ⟨v, hv, hvid, -⟩ := hlive
      have hsome : (w.db.vehicles.find? fun v => v.id.val = s.dto.vehicleId).isSome = true :=
        List.find?_isSome.2 ⟨v, hv, decide_eq_true hvid⟩
      obtain ⟨o, ho⟩ := Option.isSome_iff_exists.1 hsome
      rw [saved, hexec]
      simp only [ho]
      exact ⟨_, rfl, rfl⟩
    refine .inr ⟨hlimited, hlive, location, data, ?_, ?_, ?_, hnext, hdata, _, hflag, ?_⟩
    · rw [hlocation]
    · rw [hlocation]
    · rw [hlocation]
    · simp only [Save.sets, hsaved]
      rw [hlimited]
      rfl

/-! ### Coherence -/

/-- No id of a tenant has a colon in it. -/
def PlainTenants (t : Tables) : Prop := ∀ tenant ∈ t.tenants, ':' ∉ tenant.id.val.toList

/-- The request to the database in an operation. -/
def request? : Operation → Option Request
  | .request _ r => some r
  | _ => none

/-- What `cuid()` promises of the first id a request generates: it has no colon. -/
def Turn.Plain (e : Turn) : Prop := ∀ r ∈ request? e.op, ':' ∉ (r.env.cuid 0).val.toList

instance (e : Turn) : Decidable e.Plain := by unfold Turn.Plain; infer_instance

/-- What the cache may answer: the position last persisted.  `now` is any moment
from the last location on. -/
structure Coherent (clients : Clients) (w : World) : Prop where
  plain : PlainTenants w.db.toTables
  ordered : w.db.gpsLocations.Pairwise fun a b => a.timestamp < b.timestamp
  cached : ∀ T v now value, ':' ∉ T.toList → (∀ l ∈ w.db.gpsLocations, l.timestamp ≤ now) →
    clients.redis.get w.redis (cacheKey T v) now = some value →
    ∃ l, (history w.db.toTables T v).getLast? = some l ∧
      cachedPosition value = some (positionOf l)

/-- A `saveLocation` persists a location and its `SET` fails over an older entry. -/
def Turn.LeavesStale (clients : Clients) (e : Turn) (w : World) : Prop :=
  ∃ s ∈ save? e.op, e.commands.setCache = false ∧ s.limited clients e.commands w = false ∧
    LiveVehicle w.db.toTables s.tenantId s.dto.vehicleId ∧
    (clients.redis.get w.redis s.cacheKey s.env.now).isSome = true

instance (clients : Clients) (e : Turn) (w : World) : Decidable (e.LeavesStale clients w) := by
  unfold Turn.LeavesStale; infer_instance

/-- The `saveLocation` comes after all locations that are there. -/
def Turn.InTime (e : Turn) (w : World) : Prop :=
  ∀ s ∈ save? e.op, ∀ l ∈ w.db.gpsLocations, l.timestamp < s.env.now

/-- New tenants have plain ids. -/
theorem plainTenants_turn (clients : Clients) (hplain : e.Plain)
    (h : PlainTenants w.db.toTables) :
    PlainTenants (turn clients e w).db.toTables := by
  cases hs : save? e.op with
  | some s =>
    rcases turn_save clients w hs with ⟨hdb, -⟩ | ⟨-, -, l, data, -, -, -, hw, -⟩
    · rw [hdb]
      exact h
    · rw [hw]
      exact h
  | none =>
    have hturn : turn clients e w = World.step clients e.op w := by rw [turn, hs]
    rw [hturn]
    obtain ⟨op, commands⟩ := e
    cases op with
    | request up r =>
      intro t ht
      rcases step_tenant_ids r w.db t ht with ⟨t₀, ht₀, hid, -⟩ | ⟨-, hid⟩
      · have hid : t₀.id = t.id := hid
        rw [← hid]
        exact h t₀ ht₀
      · have hid : t.id = r.env.cuid 0 := hid
        rw [hid]
        exact hplain r rfl
    | _ => exact h

/-- A new position is added to the history of its vehicle. -/
theorem history_insert {t t' : Tables} {l : GpsLocation}
    (hw : t' = Model.gpsLocation.insert [l] t) (T v : String) :
    history t' T v = history t T v ++ if l.vehicleId = v ∧ l.tenantId = T then [l] else [] := by
  rw [hw]
  change (t.gpsLocations ++ [l]).filter _ = _
  rw [List.filter_append, List.filter_cons, List.filter_nil]
  simp only [decide_eq_true_eq]
  rfl

/-- A tenant with a vehicle has an id without a colon. -/
theorem PlainTenants.of_live {db : Database} {T v : String} (h : PlainTenants db.toTables)
    (hlive : LiveVehicle db.toTables T v) : ':' ∉ T.toList := by
  obtain ⟨vehicle, hv, -, hvT, -⟩ := hlive
  obtain ⟨tenant, htenant, htid⟩ := db.exists_of_fkey Schema.vehicle_tenantId_fkey hv rfl
  rw [← hvT, ← htid]
  exact h tenant htenant

/-- Neither the locations nor the entries of the cache change. -/
theorem Coherent.frame {w' : World} {log : List RedisSet} (h : Coherent clients w)
    (hlocal : clients.redis.Local) (hplain : PlainTenants w'.db.toTables)
    (hsame : w'.db.gpsLocations = w.db.gpsLocations) (hredis : w'.redis = w.redis ++ log)
    (hlog : ∀ T v, ∀ p ∈ log, p.key ≠ cacheKey T v) : Coherent clients w' := by
  refine ⟨hplain, by rw [hsame]; exact h.ordered, fun T v now value hT hnow hget => ?_⟩
  rw [hsame] at hnow
  rw [hredis, hlocal.get_append (hlog T v)] at hget
  rw [history, hsame]
  exact h.cached T v now value hT hnow hget

/-- The entry that a `saveLocation` leaves at its own key is the location it has
persisted: it has just set it, or there was none. -/
theorem get_own {log : List RedisSet} {data : LocationData} {l : GpsLocation} {redis : List RedisSet}
    {set : Bool} {now : Time} {value : RedisValue} (hlocal : clients.redis.Local)
    (hforgets : clients.redis.Forgets) (hdata : cachedPosition (.json data) = some (positionOf l))
    (hlog : ∀ p ∈ log, p.key ≠ s.cacheKey)
    (hgone : set = false → clients.redis.get redis s.cacheKey s.env.now = none)
    (hnow : s.env.now ≤ now)
    (hget : clients.redis.get (redis ++ (log ++
      if set then [setEx s.env.now s.cacheKey (.json data) 3600] else [])) s.cacheKey now =
        some value) : cachedPosition value = some (positionOf l) := by
  cases set with
  | true =>
    rw [if_pos rfl, ← List.append_assoc] at hget
    obtain ⟨p, hp, hvalue⟩ := hforgets.sound _ _ _ _ hget
    have hlast := lastPut_concat (redis ++ log) (setEx s.env.now s.cacheKey (.json data) 3600)
    obtain rfl := Option.some.inj (hp.symm.trans hlast)
    rw [← hvalue]
    exact hdata
  | false =>
    have hnone : clients.redis.get redis s.cacheKey now = none :=
      hforgets.gone _ _ _ _ (hgone rfl) hnow
    rw [if_neg Bool.false_ne_true, List.append_nil, hlocal.get_append hlog, hnone] at hget
    cases hget

/-- The entries for the other vehicles stay. -/
theorem get_other {log : List RedisSet} {data : LocationData} {redis : List RedisSet} {set : Bool}
    {key : String} {now : Time} (hlocal : clients.redis.Local) (hlog : ∀ p ∈ log, p.key ≠ key)
    (hne : s.cacheKey ≠ key) :
    clients.redis.get (redis ++ (log ++
      if set then [setEx s.env.now s.cacheKey (.json data) 3600] else [])) key now =
        clients.redis.get redis key now := by
  refine hlocal.get_append (fun p hp => ?_) now
  rcases List.mem_append.1 hp with hp | hp
  · exact hlog p hp
  · split at hp
    · rw [List.mem_singleton.1 hp]
      exact hne
    · exact absurd hp List.not_mem_nil

/-- A turn leaves a coherent cache coherent, unless it leaves a stale entry. -/
theorem coherent_turn (h : Coherent clients w) (hlocal : clients.redis.Local)
    (hforgets : clients.redis.Forgets) (hplain : e.Plain) (htime : e.InTime w)
    (hstale : ¬e.LeavesStale clients w) : Coherent clients (turn clients e w) := by
  have hplain' := plainTenants_turn clients hplain h.plain
  cases hs : save? e.op with
  | none =>
    obtain ⟨hsame, log, hredis, hlog⟩ := turn_other clients w hs
    exact h.frame hlocal hplain' hsame hredis hlog
  | some s =>
    rcases turn_save clients w hs with ⟨hdb, log, hredis, hlog⟩ |
      ⟨hlimited, hlive, l, data, hlT, hlv, hltime, hw, hdata, log, hlog, hredis⟩
    · have hsame : (turn clients e w).db.gpsLocations = w.db.gpsLocations := by rw [hdb]
      exact h.frame hlocal hplain' hsame hredis fun T v p hp =>
        (hlog p hp).trans_ne (cacheKey_ne_rateLimitKey T v s)
    · have hrows : (turn clients e w).db.gpsLocations = w.db.gpsLocations ++ [l] := by
        rw [hw]
        rfl
      refine ⟨hplain', ?_, fun T v now value hT hnow hget => ?_⟩
      · rw [hrows, List.pairwise_append]
        refine ⟨h.ordered, List.pairwise_singleton _ _, fun a ha b hb => ?_⟩
        rw [List.mem_singleton.1 hb, hltime]
        exact htime s hs a ha
      · rw [hrows] at hnow
        rw [history_insert hw]
        rw [hredis] at hget
        have hkeep : ∀ p ∈ log, p.key ≠ cacheKey T v := fun p hp =>
          (hlog p hp).trans_ne (cacheKey_ne_rateLimitKey T v s)
        by_cases hk : l.vehicleId = v ∧ l.tenantId = T
        · obtain ⟨rfl, rfl⟩ := hk
          have hkey : cacheKey l.tenantId l.vehicleId = s.cacheKey := by
            rw [Save.cacheKey, hlT, hlv]
          have hgone : e.commands.setCache = false →
              clients.redis.get w.redis s.cacheKey s.env.now = none := by
            intro hset
            by_contra hsome
            exact hstale ⟨s, hs, hset, hlimited, hlive, Option.isSome_iff_ne_none.2 hsome⟩
          have hle : s.env.now ≤ now := by
            rw [← hltime]
            exact hnow l (List.mem_append_right _ (List.mem_singleton_self l))
          rw [hkey] at hget hkeep
          rw [if_pos ⟨rfl, rfl⟩]
          exact ⟨l, List.getLast?_concat, get_own hlocal hforgets hdata hkeep hgone hle hget⟩
        · have hne : s.cacheKey ≠ cacheKey T v := by
            intro heq
            obtain ⟨hT', hv'⟩ := eq_of_cacheKey_eq (h.plain.of_live hlive) hT heq
            exact hk ⟨hlv.trans hv', hlT.trans hT'⟩
          rw [get_other hlocal hkeep hne] at hget
          rw [if_neg hk, List.append_nil]
          exact h.cached T v now value hT (fun o ho => hnow o (List.mem_append_left _ ho)) hget

end Turns

/-! ### The law -/

section Law

variable {clients : Clients}

/-- `redis.get(cacheKey).catch(() => null)`. -/
def lookup (clients : Clients) (w : World) (up : Bool) (tenantId vehicleId : String) (now : Time) :
    Option RedisValue :=
  if up then clients.redis.get w.redis (cacheKey tenantId vehicleId) now else none

/-- Whenever it is asked after the last location, and whether Redis answers or
not, `getLatest` tells the position last persisted. -/
def Agrees (clients : Clients) (w : World) : Prop :=
  ∀ T v up now latest, (∀ l ∈ w.db.gpsLocations, l.timestamp ≤ now) →
    (getLatest T v (lookup clients w up T v now)).eval w.db = .ok latest →
    latest.map Latest.position =
      (history w.db.toTables T v).getLast?.map fun l => some (positionOf l)

/-- A coherent cache agrees with the table. -/
theorem Coherent.agrees {w : World} (h : Coherent clients w) : Agrees clients w := by
  intro T v up now latest hnow hlatest
  obtain ⟨hlive, rfl⟩ := getLatest_ok hlatest
  have hT : ':' ∉ T.toList := h.plain.of_live hlive
  cases hget : lookup clients w up T v now with
  | some value =>
    unfold lookup at hget
    split at hget
    · obtain ⟨l, hlast, hvalue⟩ := h.cached T v now value hT hnow hget
      rw [Option.elim_some, hlast]
      exact congrArg some hvalue
    · cases hget
  | none =>
    have hordered : (history w.db.toTables T v).Pairwise fun a b => a.timestamp < b.timestamp :=
      h.ordered.filter _
    rw [Option.elim_none, latest_eq_getLast? hordered, Option.map_map]
    rfl

/-- When the `saveLocation`s of a run take place. -/
def saveTimes (turns : List Turn) : List Time :=
  turns.filterMap fun e => (save? e.op).map fun s => s.env.now

/-- Under a clock that moves between two `saveLocation`s each comes after all
locations that are there. -/
theorem along_inTime {turns : List Turn} {w : World} (hclock : (saveTimes turns).Pairwise (· < ·))
    (hw : ∀ l ∈ w.db.gpsLocations, ∀ t ∈ saveTimes turns, l.timestamp < t) :
    Along (turn clients) Turn.InTime turns w := by
  induction turns generalizing w with
  | nil => trivial
  | cons e turns ih =>
    cases hs : save? e.op with
    | none =>
      have htimes : saveTimes (e :: turns) = saveTimes turns :=
        List.filterMap_cons_none (by rw [hs]; rfl)
      rw [htimes] at hclock hw
      refine ⟨fun s he => ?_, ih hclock ?_⟩
      · rw [hs] at he
        cases he
      · rw [(turn_other clients w hs).1]
        exact hw
    | some s =>
      have htimes : saveTimes (e :: turns) = s.env.now :: saveTimes turns :=
        List.filterMap_cons_some (by rw [hs]; rfl)
      rw [htimes] at hclock hw
      obtain ⟨hfirst, hclock⟩ := List.pairwise_cons.1 hclock
      refine ⟨fun s' he l hl => ?_, ih hclock ?_⟩
      · rw [hs] at he
        obtain rfl := Option.some.inj he
        exact hw l hl _ List.mem_cons_self
      · have hold : ∀ l ∈ w.db.gpsLocations, ∀ t ∈ saveTimes turns, l.timestamp < t :=
          fun l hl t ht => hw l hl t (List.mem_cons_of_mem _ ht)
        rcases turn_save clients w hs with ⟨hdb, -⟩ | ⟨-, -, l, data, -, -, hltime, hrows, -⟩
        · rw [hdb]
          exact hold
        · rw [hrows]
          intro o ho t ht
          rcases List.mem_append.1 ho with ho | ho
          · exact hold o ho t ht
          · rw [List.mem_singleton.1 ho, hltime]
            exact hfirst t ht

/-- In a run in which no `SET` of a location fails over an older entry, the
cache and the table agree at every point. -/
theorem cache_agrees (hlocal : clients.redis.Local) (hforgets : clients.redis.Forgets)
    {turns : List Turn} (hplain : ∀ e ∈ turns, e.Plain)
    (hclock : (saveTimes turns).Pairwise (· < ·))
    (hstale : Along (turn clients) (fun e w => ¬e.LeavesStale clients w) turns World.init) :
    Always (turn clients) (Agrees clients) turns World.init := by
  have htime : Along (turn clients) Turn.InTime turns World.init :=
    along_inTime hclock fun l hl => absurd hl List.not_mem_nil
  have hinit : Coherent clients World.init := by
    refine ⟨fun t ht => absurd ht List.not_mem_nil, .nil, fun T v now value hT hnow hget => ?_⟩
    obtain ⟨p, hp, -⟩ := hforgets.sound _ _ _ _ hget
    exact absurd (mem_of_lastPut hp).1 List.not_mem_nil
  have hcoherent := Always.of_steps (Q := Coherent clients)
    (fun e w h he => coherent_turn h hlocal hforgets he.2 he.1.1 he.1.2) hinit
    ((htime.and hstale).and_forall hplain)
  exact hcoherent.mono fun w h => h.agrees

end Law

namespace Sample

def clients : Clients := NodeVms.Sample.clients []

/-- The vehicle `v0` of the tenant `t0`. -/
def fleet : List Turn :=
  [{ op := NodeVms.Sample.call (NodeVms.Sample.tenant "t") },
    { op := NodeVms.Sample.call (NodeVms.Sample.vehicle "v" "t0") }]

def save (tag : String) (now : Time) (lat : Amount) (commands : Commands) : Turn where
  op := NodeVms.Sample.call
    (.tenant (.sample tag now) "t0" (.tracking false { vehicleId := "v0", lat, lng := 0 }))
  commands

end Sample

/-- The `SET` of the second position fails when the first entry has expired. -/
theorem cache_agrees_expired_entry :
    let turns := Sample.fleet ++ [Sample.save "a" 0 1 {},
      Sample.save "b" 4000000 2 { setCache := false }]
    Always (turn Sample.clients) (Agrees Sample.clients) turns World.init ∧
      (run (turn Sample.clients) turns World.init).db.gpsLocations.length = 2 := by
  intro turns
  refine ⟨?_, by decide +kernel⟩
  exact cache_agrees Server.prompt_local Server.prompt_forgets (by decide +kernel) (by decide)
    (by decide +kernel)

/-- The `SET` of the second position fails over the first entry, which is served. -/
theorem cache_goes_stale :
    ¬∀ (clients : Clients) (turns : List Turn), clients.redis.Local → clients.redis.Forgets →
      (∀ e ∈ turns, e.Plain) → (saveTimes turns).Pairwise (· < ·) →
      Always (turn clients) (Agrees clients) turns World.init := by
  intro h
  let turns := Sample.fleet ++
    [Sample.save "a" 0 1 {}, Sample.save "b" 6000 2 { setCache := false }]
  let w := run (turn Sample.clients) turns World.init
  have hagrees : Agrees Sample.clients w :=
    (h Sample.clients turns Server.prompt_local Server.prompt_forgets (by decide +kernel)
      (by decide)).last
  have hfirst : (((getLatest "t0" "v0" (lookup Sample.clients w true "t0" "v0" 7000)).eval
      w.db).toOption.bind id).map Latest.position =
        some (some ⟨1, 0, 0, "1970-01-01T00:00:00.000Z"⟩) := by
    decide +kernel
  have hsecond : ((history w.db.toTables "t0" "v0").getLast?.map fun l => some (positionOf l)) =
      some (some ⟨2, 0, 0, "1970-01-01T00:00:06.000Z"⟩) := by
    decide +kernel
  cases hlatest : (getLatest "t0" "v0" (lookup Sample.clients w true "t0" "v0" 7000)).eval w.db with
  | error err =>
    rw [hlatest] at hfirst
    cases hfirst
  | ok latest =>
    have hposition := hagrees "t0" "v0" true 7000 latest (by decide +kernel) hlatest
    rw [hlatest] at hfirst
    have hboth := hfirst.symm.trans (hposition.trans hsecond)
    exact absurd hboth (by decide +kernel)

end Tracking
end NodeVms
