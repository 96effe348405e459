/-
# The rate limit of locations

`saveLocation` reads the flag of the vehicle and sets it with two commands.  Any
number of calls are under way at once; each makes its steps one by one, at
moments that do not go back, and Redis works.

A flag that has been set keeps every other call out for five seconds.  But until
the call that has found none sets it, others find none either: two positions sent
at once both pass.  `Races` is this step, and without it the limit holds.
-/

import Mathlib.Data.Fin.VecNotation
import Mathlib.Logic.Function.Basic
import NodeVms.Tracking.Latest

namespace NodeVms
namespace Tracking

open Store Script Prisma

/-! ### A call under way -/

/-- What a `saveLocation` does next. -/
inductive Phase where
  /-- `redis.get(rateLimitKey)`. -/
  | getLimit
  /-- `redis.set(rateLimitKey, '1', 'EX', RATE_LIMIT_TTL)`. -/
  | setLimit
  /-- `prisma.vehicle.findFirst`. -/
  | findVehicle
  /-- `prisma.gpsLocation.create`, with the clock read just before. -/
  | create (registrationNo : String)
  /-- `redis.set(cacheKey, …, 'EX', LOCATION_CACHE_TTL)`. -/
  | setCache (data : LocationData)
  /-- `gateway.emitLocation`. -/
  | emit (data : LocationData)
  | answered (r : Except Error LocationData)
  deriving DecidableEq

/-- The call has passed the check and not set the flag yet. -/
def Phase.passing : Phase → Bool
  | .setLimit => true
  | _ => false

/-- Calls on one database, one Redis and the rooms of the gateway. -/
structure Traffic (ι : Type) where
  db : Database
  redis : List RedisSet
  /-- The locations emitted, with the tenants of the rooms. -/
  emitted : List (String × LocationData)
  phase : ι → Phase
  /-- The calls that have passed the check, with the moment. -/
  passed : List (ι × Time)

namespace Traffic

variable {ι : Type} [DecidableEq ι]

/-- Call `i` goes on with `phase`. -/
def put (c : Traffic ι) (i : ι) (phase : Phase) : Traffic ι :=
  { c with phase := Function.update c.phase i phase }

/-- The next step of call `e.1`, at the moment `e.2`. -/
def step (clients : Clients) (calls : ι → Save) (e : ι × Time) (c : Traffic ι) : Traffic ι :=
  let (i, now) := e
  let { env, tenantId, dto } := calls i
  match c.phase i with
  | .getLimit =>
    if (clients.redis.get c.redis (rateLimitKey tenantId dto.vehicleId) now).isSome then
      c.put i (.answered (.error
        (.tooManyRequests "Rate limit: max 1 GPS update per vehicle per 5 seconds")))
    else { c.put i .setLimit with passed := c.passed ++ [(i, now)] }
  | .setLimit =>
    { c.put i .findVehicle with
      redis := c.redis ++ [setEx now (rateLimitKey tenantId dto.vehicleId) .flag 5] }
  | .findVehicle =>
    match (NodeVms.findVehicle tenantId dto.vehicleId).eval c.db with
    | .ok vehicle => c.put i (.create vehicle.registrationNo)
    | .error e => c.put i (.answered (.error e))
  | .create registrationNo =>
    let insert : Transaction GpsLocation := Prisma.create .gpsLocation
      { id := env.cuid 0, tenantId, vehicleId := dto.vehicleId, lat := dto.lat, lng := dto.lng,
        speed := dto.speed.nullish.getD 0, timestamp := now }
    match insert.run c.db with
    | .ok (_, db) =>
      { c.put i (.setCache
          { vehicleId := dto.vehicleId, registrationNo, lat := dto.lat, lng := dto.lng,
            speed := dto.speed.nullish.getD 0, timestamp := Time.toISOString now }) with
        db }
    | .error e => c.put i (.answered (.error e))
  | .setCache data =>
    { c.put i (.emit data) with
      redis := c.redis ++ [setEx now (cacheKey tenantId dto.vehicleId) (.json data) 3600] }
  | .emit data =>
    { c.put i (.answered (.ok data)) with emitted := c.emitted ++ [(tenantId, data)] }
  | .answered _ => c

/-- No call has been sent. -/
def init (w : World) : Traffic ι := ⟨w.db, w.redis, [], fun _ => .getLimit, []⟩

/-- The two calls are about the same vehicle of the same tenant. -/
def SameVehicle (s s' : Save) : Prop :=
  s.tenantId = s'.tenantId ∧ s.dto.vehicleId = s'.dto.vehicleId

instance (s s' : Save) : Decidable (SameVehicle s s') := by unfold SameVehicle; infer_instance

variable {clients : Clients} {calls : ι → Save} {e : ι × Time} {c : Traffic ι}

/-- The call that moves is in its new phase. -/
@[simp] theorem put_phase_self (i : ι) (phase : Phase) : (c.put i phase).phase i = phase := by
  rw [put]
  exact Function.update_self i phase c.phase

/-- The others stay where they are. -/
theorem put_phase_of_ne {i j : ι} (hj : j ≠ i) (phase : Phase) :
    (c.put i phase).phase j = c.phase j := by
  rw [put]
  exact Function.update_of_ne hj phase c.phase

/-- A step that has nothing to do with the check: no call passes, no flag is set. -/
def Quiet (c c' : Traffic ι) (i : ι) : Prop :=
  (c.phase i).passing = false ∧ (c'.phase i).passing = false ∧
    (∀ j, j ≠ i → c'.phase j = c.phase j) ∧ c'.passed = c.passed ∧
    ∃ log, c'.redis = c.redis ++ log ∧ ∀ p ∈ log, ∀ s : Save, p.key ≠ s.rateLimitKey

/-- A move that neither passes nor has passed the limit makes no difference to it. -/
theorem quiet_put {i : ι} {phase : Phase} (hold : (c.phase i).passing = false)
    (hphase : phase.passing = false) : Quiet c (c.put i phase) i := by
  refine ⟨hold, ?_, fun j hj => put_phase_of_ne hj phase, rfl, [], ?_, ?_⟩
  · rw [put_phase_self]
    exact hphase
  · rw [List.append_nil]
    rfl
  · exact fun p hp => absurd hp List.not_mem_nil

/-- A step is quiet, or a call passes the check, or it sets the flag. -/
theorem step_cases (clients : Clients) (calls : ι → Save) (e : ι × Time) (c : Traffic ι) :
    Quiet c (step clients calls e c) e.1 ∨
    (c.phase e.1 = .getLimit ∧ clients.redis.get c.redis (calls e.1).rateLimitKey e.2 = none ∧
      step clients calls e c = { c.put e.1 .setLimit with passed := c.passed ++ [e] }) ∨
    (c.phase e.1 = .setLimit ∧ step clients calls e c =
      { c.put e.1 .findVehicle with
        redis := c.redis ++ [setEx e.2 (calls e.1).rateLimitKey .flag 5] }) := by
  obtain ⟨i, now⟩ := e
  cases hphase : c.phase i with
  | getLimit =>
    by_cases hget : (clients.redis.get c.redis (calls i).rateLimitKey now).isSome = true
    · have hstep : step clients calls (i, now) c = c.put i (.answered (.error
          (.tooManyRequests "Rate limit: max 1 GPS update per vehicle per 5 seconds"))) := by
        simp only [step, hphase]
        exact if_pos hget
      rw [hstep]
      exact .inl (quiet_put (by rw [hphase]; rfl) rfl)
    · have hstep : step clients calls (i, now) c =
          { c.put i .setLimit with passed := c.passed ++ [(i, now)] } := by
        simp only [step, hphase]
        exact if_neg hget
      exact .inr (.inl ⟨rfl, by simpa using hget, hstep⟩)
  | setLimit =>
    refine .inr (.inr ⟨rfl, ?_⟩)
    simp only [step, hphase]
    rfl
  | findVehicle =>
    refine .inl ?_
    simp only [step, hphase]
    split
    · exact quiet_put (by rw [hphase]; rfl) rfl
    · exact quiet_put (by rw [hphase]; rfl) rfl
  | create registrationNo =>
    refine .inl ?_
    simp only [step, hphase]
    split
    · exact quiet_put (by rw [hphase]; rfl) rfl
    · exact quiet_put (by rw [hphase]; rfl) rfl
  | setCache data =>
    refine .inl ?_
    have hput : Quiet c (c.put i (.emit data)) i := quiet_put (by rw [hphase]; rfl) rfl
    simp only [step, hphase]
    refine ⟨hput.1, hput.2.1, hput.2.2.1, rfl, _, rfl, fun p hp s => ?_⟩
    rw [List.mem_singleton.1 hp]
    exact (cacheKey_ne_rateLimitKey (calls i).tenantId (calls i).dto.vehicleId s).symm
  | emit data =>
    refine .inl ?_
    simp only [step, hphase]
    exact quiet_put (by rw [hphase]; rfl) rfl
  | answered r =>
    refine .inl ?_
    have hput : Quiet c (c.put i (.answered r)) i := quiet_put (by rw [hphase]; rfl) rfl
    have hself : c.put i (.answered r) = c := by rw [put, ← hphase, Function.update_eq_self]
    simp only [step, hphase]
    rwa [hself] at hput

/-! ### A call on its own -/

section Alone

variable {i : ι}

/-- A call that is answered does nothing more. -/
theorem step_answered {r : Except Error LocationData} (h : c.phase i = .answered r) (now : Time) :
    step clients calls (i, now) c = c := by
  simp only [step, h]

/-- However often it is its turn. -/
theorem run_answered {r : Except Error LocationData} (h : c.phase i = .answered r) (now : Time)
    (n : Nat) : run (step clients calls) (List.replicate n (i, now)) c = c := by
  induction n with
  | zero => rfl
  | succ n ih =>
    have hfirst : run (step clients calls) (List.replicate (n + 1) (i, now)) c =
        run (step clients calls) (List.replicate n (i, now)) (step clients calls (i, now) c) := rfl
    rw [hfirst, step_answered h, ih]

/-- A call for a vehicle outside the fleet is answered so. -/
theorem step_findVehicle_error {err : Error} (h : c.phase i = .findVehicle)
    (hv : (NodeVms.findVehicle (calls i).tenantId (calls i).dto.vehicleId).eval c.db = .error err)
    (now : Time) : step clients calls (i, now) c = c.put i (.answered (.error err)) := by
  simp only [step, h]
  rw [hv]

/-- A call for a vehicle of the fleet goes on to save the position. -/
theorem step_findVehicle_ok {v : Vehicle} (h : c.phase i = .findVehicle)
    (hv : (NodeVms.findVehicle (calls i).tenantId (calls i).dto.vehicleId).eval c.db = .ok v)
    (now : Time) : step clients calls (i, now) c = c.put i (.create v.registrationNo) := by
  simp only [step, h]
  rw [hv]

/-- The location a call inserts. -/
def location (s : Save) : GpsLocation where
  id := s.env.cuid 0
  tenantId := s.tenantId
  vehicleId := s.dto.vehicleId
  lat := s.dto.lat
  lng := s.dto.lng
  speed := s.dto.speed.nullish.getD 0
  timestamp := s.env.now

/-- The data a call caches and emits. -/
def locationData (s : Save) (registrationNo : String) : LocationData where
  vehicleId := s.dto.vehicleId
  registrationNo
  lat := s.dto.lat
  lng := s.dto.lng
  speed := s.dto.speed.nullish.getD 0
  timestamp := Time.toISOString s.env.now

/-- A position that the database refuses is the answer. -/
theorem step_create_error {registrationNo : String} {err : Error}
    (h : c.phase i = .create registrationNo)
    (hrun : (Prisma.create .gpsLocation (location (calls i))).run c.db = .error err) :
    step clients calls (i, (calls i).env.now) c = c.put i (.answered (.error err)) := by
  simp only [step, h]
  rw [location] at hrun
  rw [hrun]

/-- A position that is saved goes on to the cache. -/
theorem step_create_ok {registrationNo : String} {l : GpsLocation} {db : Database}
    (h : c.phase i = .create registrationNo)
    (hrun : (Prisma.create .gpsLocation (location (calls i))).run c.db = .ok (l, db)) :
    step clients calls (i, (calls i).env.now) c =
      { c.put i (.setCache (locationData (calls i) registrationNo)) with db } := by
  simp only [step, h]
  rw [location] at hrun
  rw [hrun]
  rfl

/-- The handler of the service is the two steps one after the other. -/
theorem saveLocation_exec (s : Save) (db : Database) :
    (saveLocation s.env s.tenantId false s.dto).exec db =
      ((NodeVms.findVehicle s.tenantId s.dto.vehicleId).eval db).bind fun _ =>
        (Prisma.create .gpsLocation (location s)).run db := by
  have hsave : saveLocation s.env s.tenantId false s.dto =
      NodeVms.findVehicle s.tenantId s.dto.vehicleId >>= fun _ =>
        commit (Prisma.create .gpsLocation (location s)) := rfl
  rw [hsave, exec, eval_bind]
  cases (NodeVms.findVehicle s.tenantId s.dto.vehicleId).eval db <;> rfl

/-- What is cached of an inserted location names the vehicle that has been found. -/
theorem saved_eq {s : Save} {db : Database} {v : Vehicle} {r : GpsLocation × Database}
    (hv : (NodeVms.findVehicle s.tenantId s.dto.vehicleId).eval db = .ok v)
    (hexec : (saveLocation s.env s.tenantId false s.dto).exec db =
      (Prisma.create .gpsLocation (location s)).run db)
    (hinsert : (Prisma.create .gpsLocation (location s)).run db = .ok r) :
    saved s.env s.tenantId false s.dto db = some (locationData s v.registrationNo) := by
  obtain ⟨hmem, hvid, -⟩ := eval_findVehicle_eq_ok.1 hv
  have hfind : db.vehicles.find? (fun o => o.id.val = s.dto.vehicleId) = some v :=
    (find?_key_eq_some (db.nodup_key .vehicle) fun _ => of_decide_eq_true).2
      ⟨hmem, decide_eq_true hvid⟩
  obtain ⟨l, db'⟩ := r
  obtain ⟨rfl, -⟩ := run_create_eq_ok.1 hinsert
  rw [saved, hexec, hinsert]
  simp only [hfind]
  rfl

variable (clients calls) in
/-- The last two steps of a call cache the location and send it. -/
theorem run_created {data : LocationData} (hphase : c.phase i = .setCache data) :
    let s := calls i
    let c' := run (step clients calls) (List.replicate 2 (i, s.env.now)) c
    c'.db = c.db ∧ c'.redis = c.redis ++ [setEx s.env.now s.cacheKey (.json data) 3600] := by
  intro s c'
  let c₁ : Traffic ι := { c.put i (.emit data) with
    redis := c.redis ++ [setEx s.env.now s.cacheKey (.json data) 3600] }
  have h₁ : step clients calls (i, s.env.now) c = c₁ := by
    simp only [step, hphase]
    rfl
  have h₂ : step clients calls (i, s.env.now) c₁ =
      { c₁.put i (.answered (.ok data)) with
        emitted := c.emitted ++ [(s.tenantId, data)] } := by
    have hphase₁ : c₁.phase i = .emit data := put_phase_self i _
    simp only [step, hphase₁]
    rfl
  have hrun : c' = step clients calls (i, s.env.now) (step clients calls (i, s.env.now) c) := rfl
  rw [hrun, h₁, h₂]
  exact ⟨rfl, rfl⟩

variable (clients calls) in
/-- What the last four steps of a call leave in the database and in Redis. -/
theorem run_checked (hphase : c.phase i = .findVehicle) :
    let s := calls i
    let c' := run (step clients calls) (List.replicate 4 (i, s.env.now)) c
    c'.db = (saveLocation s.env s.tenantId false s.dto).next c.db ∧
      c'.redis = c.redis ++ ((saved s.env s.tenantId false s.dto c.db).map fun data =>
        setEx s.env.now s.cacheKey (.json data) 3600).toList := by
  intro s c'
  have hexec := saveLocation_exec s c.db
  have hrun : c' = run (step clients calls) (List.replicate 3 (i, s.env.now))
      (step clients calls (i, s.env.now) c) := rfl
  rw [hrun]
  cases hv : (NodeVms.findVehicle s.tenantId s.dto.vehicleId).eval c.db with
  | error err =>
    rw [hv] at hexec
    have hexec : (saveLocation s.env s.tenantId false s.dto).exec c.db = .error err := hexec
    rw [step_findVehicle_error hphase hv, run_answered (put_phase_self i _), next, saved, hexec]
    exact ⟨rfl, (List.append_nil _).symm⟩
  | ok v =>
    rw [hv] at hexec
    have hexec : (saveLocation s.env s.tenantId false s.dto).exec c.db =
      (Prisma.create .gpsLocation (location s)).run c.db := hexec
    let c₁ := c.put i (.create v.registrationNo)
    have hphase₁ : c₁.phase i = .create v.registrationNo := put_phase_self i _
    have hrun₁ : run (step clients calls) (List.replicate 3 (i, s.env.now)) c₁ =
        run (step clients calls) (List.replicate 2 (i, s.env.now))
          (step clients calls (i, s.env.now) c₁) := rfl
    rw [step_findVehicle_ok hphase hv, hrun₁]
    cases hinsert : (Prisma.create .gpsLocation (location s)).run c.db with
    | error err =>
      rw [step_create_error hphase₁ hinsert, run_answered (put_phase_self i _), next, saved,
        hexec, hinsert]
      exact ⟨rfl, (List.append_nil _).symm⟩
    | ok r =>
      have hsaved := saved_eq hv hexec hinsert
      obtain ⟨l, db⟩ := r
      let data := locationData s v.registrationNo
      let c₂ : Traffic ι := { c₁.put i (.setCache data) with db }
      have hphase₂ : c₂.phase i = .setCache data := put_phase_self i _
      obtain ⟨hdb, hredis⟩ := run_created clients calls hphase₂
      rw [step_create_ok hphase₁ hinsert, next, hexec, hinsert, hsaved]
      exact ⟨hdb, hredis⟩

/-- A call whose steps all take place at its moment, with no step of another in
between, does what `saveLocation` does at once. -/
theorem run_alone (w : World) (hdb : c.db = w.db) (hredis : c.redis = w.redis)
    (hphase : c.phase i = .getLimit) :
    let op := Operation.request true ((calls i).request clients {} w)
    let c' := run (step clients calls) (List.replicate 6 (i, (calls i).env.now)) c
    c'.db = (turn clients { op } w).db ∧ c'.redis = (turn clients { op } w).redis := by
  intro op c'
  let s := calls i
  let now := s.env.now
  have htdb : (turn clients { op } w).db =
      (saveLocation s.env s.tenantId (s.limited clients {} w) s.dto).next w.db := rfl
  have htredis : (turn clients { op } w).redis = w.redis ++ s.sets clients {} w := rfl
  by_cases hget : (clients.redis.get c.redis s.rateLimitKey now).isSome = true
  · have hl : s.limited clients {} w = true := by
      rw [Save.limited, ← hredis]
      exact hget
    have hsets : s.sets clients {} w = [] := by
      rw [Save.sets, hl]
      rfl
    have h₁ : step clients calls (i, now) c = c.put i (.answered (.error
        (.tooManyRequests "Rate limit: max 1 GPS update per vehicle per 5 seconds"))) := by
      simp only [step, hphase]
      exact if_pos hget
    have hrun : c' = run (step clients calls) (List.replicate 5 (i, now))
        (step clients calls (i, now) c) := rfl
    rw [hrun, h₁, run_answered (put_phase_self i _), htdb, htredis, hl, hsets, List.append_nil]
    exact ⟨hdb, hredis⟩
  · have hl : s.limited clients {} w = false := by
      rw [Save.limited, ← hredis]
      exact Bool.eq_false_iff.2 hget
    let c₁ : Traffic ι := { c.put i .setLimit with passed := c.passed ++ [(i, now)] }
    let c₂ : Traffic ι := { c₁.put i .findVehicle with
      redis := c.redis ++ [setEx now s.rateLimitKey .flag 5] }
    have h₁ : step clients calls (i, now) c = c₁ := by
      simp only [step, hphase]
      exact if_neg hget
    have h₂ : step clients calls (i, now) c₁ = c₂ := by
      have hphase₁ : c₁.phase i = .setLimit := put_phase_self i _
      simp only [step, hphase₁]
      rfl
    have hphase₂ : c₂.phase i = .findVehicle := put_phase_self i _
    have hsets : s.sets clients {} w = setEx now s.rateLimitKey .flag 5 ::
        ((saved s.env s.tenantId false s.dto w.db).map fun data =>
          setEx s.env.now s.cacheKey (.json data) 3600).toList := by
      rw [Save.sets, hl]
      rfl
    have hrun : c' = run (step clients calls) (List.replicate 4 (i, now))
        (step clients calls (i, now) (step clients calls (i, now) c)) := rfl
    obtain ⟨hdb', hredis'⟩ := run_checked clients calls hphase₂
    rw [hrun, h₁, h₂, hdb', hredis', htdb, htredis, hl, hsets, ← hdb, ← hredis]
    exact ⟨rfl, List.append_assoc _ _ _⟩

end Alone

/-! ### The limit -/

/-- Every call that has passed is about to set the flag, or the flag is there
until five seconds after the check; and calls for one vehicle pass at least five
seconds apart. -/
structure Paced (calls : ι → Save) (c : Traffic ι) : Prop where
  flagged : ∀ p ∈ c.passed, (c.phase p.1).passing = true ∨
    ∃ q, lastPut c.redis (calls p.1).rateLimitKey = some q ∧ p.2 + 5000 ≤ q.expires
  spaced : c.passed.Pairwise fun p q =>
    SameVehicle (calls p.1) (calls q.1) → p.2 + 5000 ≤ q.2

/-- The call reads the flag while another one for the same vehicle, which has
passed within the last five seconds, has yet to set it. -/
def Races (calls : ι → Save) (e : ι × Time) (c : Traffic ι) : Prop :=
  (∃ p ∈ c.passed, (c.phase p.1).passing = true ∧ SameVehicle (calls p.1) (calls e.1) ∧
    e.2 < p.2 + 5000) ∧ c.phase e.1 = .getLimit

instance (calls : ι → Save) (e : ι × Time) (c : Traffic ι) : Decidable (Races calls e c) := by
  unfold Races; infer_instance

/-- The clock has not gone back. -/
def InTime (e : ι × Time) (c : Traffic ι) : Prop := ∀ p ∈ c.passed, p.2 ≤ e.2

/-- Calls for one vehicle of one tenant have one key. -/
theorem rateLimitKey_eq {s s' : Save} (h : SameVehicle s s') :
    s.rateLimitKey = s'.rateLimitKey := by
  rw [Save.rateLimitKey, Save.rateLimitKey, h.1, h.2]

omit [DecidableEq ι] in
/-- A step that makes no difference to the limit keeps the pace. -/
theorem paced_of_quiet {c' : Traffic ι} {i : ι} (h : Paced calls c) (hq : Quiet c c' i) :
    Paced calls c' := by
  obtain ⟨hold, -, hothers, hpassed, log, hredis, hlog⟩ := hq
  refine ⟨fun p hp => ?_, by rw [hpassed]; exact h.spaced⟩
  rw [hpassed] at hp
  rw [hredis, lastPut_append_of_ne fun q hq => hlog q hq (calls p.1)]
  rcases h.flagged p hp with hpassing | hflag
  · have hne : p.1 ≠ i := by
      intro hpi
      rw [hpi, hold] at hpassing
      cases hpassing
    rw [hothers p.1 hne]
    exact .inl hpassing
  · exact .inr hflag

/-- A call that finds no flag is five seconds behind the last one. -/
theorem paced_pass (h : Paced calls c) (hrace : ¬Races calls e c)
    (hphase : c.phase e.1 = .getLimit)
    (hget : clients.redis.get c.redis (calls e.1).rateLimitKey e.2 = none) :
    Paced calls { c.put e.1 .setLimit with passed := c.passed ++ [e] } where
  flagged := by
    intro p hp
    change ((c.put e.1 .setLimit).phase p.1).passing = true ∨ _
    by_cases hpe : p.1 = e.1
    · rw [hpe, put_phase_self]
      exact .inl rfl
    · rw [put_phase_of_ne hpe]
      rcases List.mem_append.1 hp with hp | hp
      · exact h.flagged p hp
      · rw [List.mem_singleton.1 hp] at hpe
        exact absurd rfl hpe
  spaced := by
    refine List.pairwise_append.2 ⟨h.spaced, List.pairwise_singleton _ _, fun p hp q hq hsame => ?_⟩
    obtain rfl := List.mem_singleton.1 hq
    by_contra hlt
    rw [not_le] at hlt
    rcases h.flagged p hp with hpassing | ⟨put, hlast, hexpires⟩
    · exact hrace ⟨⟨p, hp, hpassing, hsame, hlt⟩, hphase⟩
    · -- the flag would still be there
      rw [rateLimitKey_eq hsame] at hlast
      have hthere := clients.redis.keeps _ _ _ _ hlast (lt_of_lt_of_le hlt hexpires)
      rw [hget] at hthere
      cases hthere

/-- The flag that is set outlives every check that has been passed. -/
theorem paced_set (h : Paced calls c) (htime : InTime e c) :
    Paced calls { c.put e.1 .findVehicle with
      redis := c.redis ++ [setEx e.2 (calls e.1).rateLimitKey .flag 5] } where
  flagged := by
    intro p hp
    have hle : p.2 + 5000 ≤ (setEx e.2 (calls e.1).rateLimitKey .flag 5).expires :=
      Int.add_le_add_right (htime p hp) 5000
    by_cases hkey : (calls p.1).rateLimitKey = (calls e.1).rateLimitKey
    · have hlast := lastPut_concat c.redis (setEx e.2 (calls e.1).rateLimitKey .flag 5)
      exact .inr ⟨_, hkey ▸ hlast, hle⟩
    · have hpe : p.1 ≠ e.1 := fun hpe => hkey (by rw [hpe])
      change ((c.put e.1 .findVehicle).phase p.1).passing = true ∨ _
      rw [put_phase_of_ne hpe]
      have hlast : lastPut (c.redis ++ [setEx e.2 (calls e.1).rateLimitKey .flag 5])
          (calls p.1).rateLimitKey = lastPut c.redis (calls p.1).rateLimitKey := by
        refine lastPut_append_of_ne fun q hq => ?_
        rw [List.mem_singleton.1 hq]
        exact fun h => hkey h.symm
      rw [hlast]
      exact h.flagged p hp
  spaced := h.spaced

/-- So does every step in time, unless two calls have read the limit at once. -/
theorem paced_step (h : Paced calls c) (htime : InTime e c) (hrace : ¬Races calls e c) :
    Paced calls (step clients calls e c) := by
  rcases step_cases clients calls e c with hq | ⟨hphase, hget, hstep⟩ | ⟨-, hstep⟩
  · exact paced_of_quiet h hq
  · rw [hstep]
    exact paced_pass h hrace hphase hget
  · rw [hstep]
    exact paced_set h htime

/-- The calls for the vehicle that have passed within the five seconds from `t`. -/
def passes (calls : ι → Save) (c : Traffic ι) (tenantId vehicleId : String) (t : Time) :
    List (ι × Time) :=
  c.passed.filter fun p => (calls p.1).tenantId = tenantId ∧
    (calls p.1).dto.vehicleId = vehicleId ∧ t ≤ p.2 ∧ p.2 < t + 5000

omit [DecidableEq ι] in
/-- Within the window of the limit at most one call passes. -/
theorem Paced.length_passes (h : Paced calls c) (T v : String) (t : Time) :
    (passes calls c T v t).length ≤ 1 := by
  have hspaced : (passes calls c T v t).Pairwise fun p q =>
      SameVehicle (calls p.1) (calls q.1) → p.2 + 5000 ≤ q.2 := h.spaced.filter _
  have hmem : ∀ p ∈ passes calls c T v t, (calls p.1).tenantId = T ∧
      (calls p.1).dto.vehicleId = v ∧ t ≤ p.2 ∧ p.2 < t + 5000 := fun p hp =>
    of_decide_eq_true (List.mem_filter.1 hp).2
  match hl : passes calls c T v t with
  | [] => exact Nat.zero_le 1
  | [p] => exact Nat.le_refl 1
  | p :: q :: rest =>
    rw [hl] at hspaced hmem
    obtain ⟨hpT, hpv, hpt, -⟩ := hmem p List.mem_cons_self
    obtain ⟨hqT, hqv, -, hqt⟩ := hmem q (List.mem_cons_of_mem _ List.mem_cons_self)
    have hapart := (List.pairwise_cons.1 hspaced).1 q List.mem_cons_self
      ⟨hpT.trans hqT.symm, hpv.trans hqv.symm⟩
    have hlate : t + 5000 ≤ p.2 + 5000 := Int.add_le_add_right hpt 5000
    exact absurd hqt (not_lt.2 (hlate.trans hapart))

/-- Under a clock that does not go back every step comes after all checks that
have been passed. -/
theorem along_inTime (clients : Clients) (calls : ι → Save) {sched : List (ι × Time)}
    (hclock : sched.Pairwise fun e e' => e.2 ≤ e'.2)
    (hc : ∀ p ∈ c.passed, ∀ e ∈ sched, p.2 ≤ e.2) :
    Along (step clients calls) InTime sched c := by
  induction sched generalizing c with
  | nil => trivial
  | cons e sched ih =>
    obtain ⟨hfirst, hclock⟩ := List.pairwise_cons.1 hclock
    refine ⟨fun p hp => hc p hp e List.mem_cons_self, ih hclock fun p hp e' he' => ?_⟩
    have hold : ∀ p ∈ c.passed, p.2 ≤ e'.2 := fun p hp => hc p hp e' (List.mem_cons_of_mem _ he')
    rcases step_cases clients calls e c with ⟨-, -, -, hpassed, -⟩ | ⟨-, -, hstep⟩ | ⟨-, hstep⟩
    · rw [hpassed] at hp
      exact hold p hp
    · rw [hstep] at hp
      rcases List.mem_append.1 hp with hp | hp
      · exact hold p hp
      · rw [List.mem_singleton.1 hp]
        exact hfirst e' he'
    · rw [hstep] at hp
      exact hold p hp

/-- However the steps of any number of calls are interleaved: unless one reads
the flag between the check and the `SET` of another, at most one passes for a
vehicle in any five seconds. -/
theorem one_pass_per_window (w : World) {sched : List (ι × Time)}
    (hclock : sched.Pairwise fun e e' => e.2 ≤ e'.2)
    (hrace : Along (step clients calls) (fun e c => ¬Races calls e c) sched (init w)) :
    Always (step clients calls) (fun c => ∀ T v t, (passes calls c T v t).length ≤ 1) sched
      (init w) := by
  have htime : Along (step clients calls) InTime sched (init w) :=
    along_inTime clients calls hclock fun p hp => absurd hp List.not_mem_nil
  have hinit : Paced calls (init w) := ⟨fun p hp => absurd hp List.not_mem_nil, .nil⟩
  have hpaced : Always (step clients calls) (Paced calls) sched (init w) :=
    .of_steps (fun e c h he => paced_step h he.1 he.2) hinit (htime.and hrace)
  exact hpaced.mono fun c h => h.length_passes

end Traffic

namespace Sample

/-- The vehicle `v0` has not been heard of yet. -/
def parked : World := run (turn clients) fleet World.init

/-- A position of the vehicle `v0`. -/
def position (tag : String) (lat : Amount) : Save where
  env := .sample tag 0
  tenantId := "t0"
  dto := { vehicleId := "v0", lat, lng := 0 }

end Sample

/-- Of three positions the second is turned away, the third has waited. -/
theorem one_pass_per_window_three :
    let calls : Fin 3 → Save :=
      ![Sample.position "a" 1, Sample.position "b" 2, Sample.position "c" 3]
    let sched : List (Fin 3 × Time) := [(0, 0), (0, 1), (1, 2), (0, 3), (2, 5001), (2, 5002)]
    Always (Traffic.step Sample.clients calls)
      (fun c => ∀ T v t, (Traffic.passes calls c T v t).length ≤ 1) sched
      (Traffic.init Sample.parked) ∧
    (run (Traffic.step Sample.clients calls) sched (Traffic.init Sample.parked)).passed =
      [(0, 0), (2, 5001)] := by
  intro calls sched
  refine ⟨?_, by decide +kernel⟩
  exact Traffic.one_pass_per_window Sample.parked (by decide) (by decide +kernel)

/-- Two positions sent at once both find no flag. -/
theorem two_pass_at_once :
    ¬∀ (clients : Clients) (n : Nat) (calls : Fin n → Save) (w : World)
      (sched : List (Fin n × Time)), sched.Pairwise (fun e e' => e.2 ≤ e'.2) →
      Always (Traffic.step clients calls)
        (fun c => ∀ T v t, (Traffic.passes calls c T v t).length ≤ 1) sched (Traffic.init w) := by
  intro h
  let calls : Fin 2 → Save := ![Sample.position "a" 1, Sample.position "b" 2]
  have hone :=
    (h Sample.clients 2 calls Sample.parked [(0, 0), (1, 0)] (by decide)).last "t0" "v0" 0
  have htwo : (Traffic.passes calls (run (Traffic.step Sample.clients calls) [(0, 0), (1, 0)]
      (Traffic.init Sample.parked)) "t0" "v0" 0).length = 2 := by decide +kernel
  rw [htwo] at hone
  exact absurd hone (by decide)

end Tracking
end NodeVms
