/-
# Revoked tokens

`logout` blacklists its token for the whole seconds the token has left, counted
from a clock cut off to seconds.  Cutting off only ever lengthens the life of the key:
set at millisecond `n` for `exp - ⌊n / 1000⌋` seconds it expires at `1000 * exp` or
later, and the token is refused from the second `exp` on.

`Blacklisting` is what holds of the whole log of `SET`s in a run: a key of the
blacklist outlives its token, whoever logged out, when and how often, and no other
`SET` uses such a key.
-/

import NodeVms.Access.Roles
import NodeVms.Http.Keys

namespace NodeVms

open Store

variable {clients : Clients} {pick : Pick FeatureAccess} {w : World}

/-! ### The life of a key -/

/-- Cutting the clock off to seconds only lengthens the life of a key. -/
theorem Time.le_life (now exp : Int) : 1000 * exp ≤ now + 1000 * (exp - Time.seconds now) := by
  unfold Time.seconds
  omega

/-- A later moment is in a later second or in the same. -/
theorem Time.seconds_mono {now later : Int} (h : now ≤ later) :
    Time.seconds now ≤ Time.seconds later := by
  unfold Time.seconds
  omega

/-- A token that is not refused yet. -/
theorem Time.lt_of_not_le_seconds {now exp : Int} (h : ¬exp ≤ Time.seconds now) :
    now < 1000 * exp := by
  unfold Time.seconds at h
  omega

/-- The key is set for as long as the token may live. -/
theorem Auth.expires_of_mem_logout {now : Time} {token : String} {exp : Int} {p : RedisSet}
    (h : p ∈ logout now token exp) : p.key = blacklistKey token ∧ 1000 * exp ≤ p.expires := by
  unfold logout at h
  dsimp only at h
  split at h
  · obtain rfl := List.mem_singleton.1 h
    exact ⟨rfl, Time.le_life now exp⟩
  · exact nomatch h

/-- A token that is still alive is blacklisted. -/
theorem Auth.mem_logout {now later : Time} {token : String} {exp : Int} (hle : now ≤ later)
    (halive : ¬exp ≤ later.seconds) : ∃ p ∈ logout now token exp, p.key = blacklistKey token := by
  have hpos : exp - now.seconds > 0 :=
    sub_pos.2 (lt_of_le_of_lt (Time.seconds_mono hle) (not_le.1 halive))
  refine ⟨setEx now (blacklistKey token) .flag (exp - now.seconds), ?_, rfl⟩
  unfold logout
  rw [if_pos hpos]
  exact List.mem_singleton_self _

/-- Keys of the blacklist outlive their tokens. -/
def Blacklisting (jwt : Jwt) (redis : List RedisSet) : Prop :=
  ∀ p ∈ redis, ∀ token user exp, p.key = Auth.blacklistKey token →
    jwt.decode token = some ⟨.access, user⟩ → user.exp = some exp → 1000 * exp ≤ p.expires

/-- An admitted session carries the token it was read from. -/
theorem HttpCall.Admitted.decode {call : HttpCall} {s : Session}
    (h : call.Admitted clients pick w (some s)) :
    clients.jwt.decode s.token = some ⟨.access, s.user⟩ :=
  (Jwt.verify_eq_some.1 h.verified.2).1

/-- The logout of a call is that of its session. -/
theorem Event.operation_logout {e : Event} {up : Bool} {now : Time} {s : Session}
    (h : e.operation clients pick w = some (.logout up now s)) :
    ∃ call, e = .http call ∧ call.Admitted clients pick w (some s) := by
  cases e with
  | http call =>
    obtain ⟨session, hadm, hop⟩ := Event.operation_http h
    refine ⟨call, rfl, ?_⟩
    unfold HttpCall.operation at hop
    cases session with
    | some s' =>
      cases ha : call.action with
      | logout =>
        simp only [ha, Option.some.injEq, Operation.logout.injEq] at hop
        rwa [← hop.2.2]
      | _ => simp [ha] at hop
    | none =>
      cases ha : call.action with
      | refresh => simp [ha] at hop
      | _ => simp [ha] at hop
  | dailyAlertsScan env T => cases h
  | offlineDetection env => cases h

/-- A call puts tokens under their own keys, until they expire. -/
theorem blacklisting_serve (e : Event) (h : Blacklisting clients.jwt w.redis) :
    Blacklisting clients.jwt (World.serve clients pick e w).redis := by
  refine World.serve_induct (P := fun w => Blacklisting clients.jwt w.redis) h fun op hop => ?_
  intro p hp token user exp hkey hdecode hexp
  rcases List.mem_append.1 hp with hp | hp
  · exact h p hp token user exp hkey hdecode hexp
  · unfold Operation.sets at hp
    split at hp
    · rename_i now s _
      obtain ⟨hk, hlife⟩ := Auth.expires_of_mem_logout hp
      obtain rfl := Auth.blacklistKey_injective (hkey.symm.trans hk)
      obtain ⟨call, -, hadm⟩ := Event.operation_logout hop
      -- the claims of the session are those of its token
      have huser : some (⟨.access, user⟩ : Signed) = some ⟨.access, s.user⟩ :=
        hdecode.symm.trans hadm.decode
      cases huser
      rwa [hexp] at hlife
    · exact absurd hkey (Tracking.key_ne_of_mem_sets hp)
    · exact nomatch hp

/-- So whatever Redis holds of a token is its entry in the blacklist. -/
theorem World.Served.blacklisting (h : w.Served clients pick) : Blacklisting clients.jwt w.redis :=
  h.invariant (I := fun w => Blacklisting clients.jwt w.redis) (fun _ hp => nomatch hp)
    fun e _ _ hw => blacklisting_serve e hw

/-! ### After a logout -/

/-- What an admitted logout does. -/
theorem World.serve_logout {call : HttpCall} (ha : call.action = .logout) {s : Session}
    (hadm : call.Admitted clients pick w (some s)) (hup : call.request.redisUp = true) :
    (World.serve clients pick (.http call) w).redis =
      w.redis ++ Auth.logout call.env.now s.token (s.user.exp.getD 0) := by
  obtain ⟨e, he, hok⟩ := hadm
  have hop : (Event.http call).operation clients pick w =
      some (.logout true call.env.now s) := by
    simp only [Event.operation, Option.bind_eq_bind]
    rw [show call.action.endpoint = some e from he, Option.bind_some, hok]
    simp [Except.toOption, HttpCall.operation, ha, hup]
  simp only [World.serve, hop]
  rfl

/-- A `SET` stays in the log. -/
theorem World.mem_redis_serve (e : Event) {p : RedisSet} (h : p ∈ w.redis) :
    p ∈ (World.serve clients pick e w).redis :=
  World.serve_induct (P := fun w => p ∈ w.redis) h fun _ _ => List.mem_append_left _ h

/-- **A logout revokes its token until it dies.** -/
theorem logout_revokes (hw : w.Served clients pick) {call : HttpCall} (ha : call.action = .logout)
    {s : Session} (hadm : call.Admitted clients pick w (some s))
    (hup : call.request.redisUp = true) {exp : Int} (hexp : s.user.exp = some exp)
    (es : List Event) {ctx : ExecutionContext} (hctx : ¬ctx.Public) {request : HttpRequest}
    (htoken : AuthGuard.extractToken request = some s.token)
    (hle : call.env.now ≤ request.arrival) :
    let w' := run (World.serve clients pick) es (World.serve clients pick (.http call) w)
    (exp ≤ request.arrival.seconds ∧
        clients.jwt.verify w'.tokens .access request.arrival s.token = none ∨
      clients.redis.get w'.redis (Auth.blacklistKey s.token) request.arrival ≠ none) ∧
    (request.redisUp = true → ∀ session,
      (AuthGuard.canActivate clients w' ctx request).eval w'.db ≠ .ok session) := by
  intro w'
  have hdecode := hadm.decode
  have hdead : exp ≤ request.arrival.seconds ∧
        clients.jwt.verify w'.tokens .access request.arrival s.token = none ∨
      clients.redis.get w'.redis (Auth.blacklistKey s.token) request.arrival ≠ none := by
    by_cases halive : exp ≤ request.arrival.seconds
    · refine .inl ⟨halive, Option.eq_none_iff_forall_ne_some.2 fun p hp => ?_⟩
      obtain ⟨hp, -, hexpired⟩ := Jwt.verify_eq_some.1 hp
      cases hdecode.symm.trans hp
      exact hexpired ⟨exp, hexp, halive⟩
    · right
      have hw' : w'.Served clients pick := (hw.next (.http call)).run es
      have hput : ∃ p ∈ w'.redis, p.key = Auth.blacklistKey s.token := by
        obtain ⟨p, hp, hkey⟩ := Auth.mem_logout hle halive
        refine ⟨p, ?_, hkey⟩
        refine run_invariant (I := fun w : World => p ∈ w.redis)
          (fun e _ h => World.mem_redis_serve e h) es _ ?_
        rw [World.serve_logout ha hadm hup, hexp]
        exact List.mem_append_right _ hp
      have hall : ∀ p ∈ w'.redis, p.key = Auth.blacklistKey s.token → 1000 * exp ≤ p.expires :=
        fun p hp hkey => hw'.blacklisting p hp _ _ _ hkey hdecode hexp
      exact clients.redis.get_of_renewed hput hall (Time.lt_of_not_le_seconds halive)
  refine ⟨hdead, fun hredis session hok => ?_⟩
  rcases AuthGuard.canActivate_eq_ok.1 hok with ⟨hpub, -⟩ | ⟨-, s', -, htoken', hverify, hfree⟩
  · exact hctx hpub
  · rw [htoken, nonEmpty_eq_some] at htoken'
    have hsame : s.token = s'.token := Option.some.inj htoken'.1
    rw [← hsame] at hverify hfree
    rcases hdead with ⟨-, hnone⟩ | hkey
    · rw [hnone] at hverify
      cases hverify
    · rw [AuthGuard.blacklisted, if_pos hredis] at hfree
      exact hkey hfree

/-- A logout in the middle of second 500, another login, and a request in the last
millisecond of the token: the key is still there. -/
theorem logout_revokes_last_millisecond :
    let clients := Sample.clients [("s", Sample.token .access "s1" "s" "s0" .superAdmin)]
    let seed := Sample.http (.sample "s" 0) none
      (.platform (.seedSuperAdmin { name := "s", email := "s", password := "s", seedSecret := "" }))
    let logout := Sample.http (.sample "x" 500999) (some "s") .logout
    let login := Sample.http (.sample "x" 600000) none (.login ⟨"s", "s"⟩)
    let request : HttpRequest := { arrival := 899999, authorization := some "Bearer s" }
    let w := run (World.serve clients .first) [.http login] (World.serve clients .first (.http logout)
      (run (World.serve clients .first) [.http seed] World.init))
    clients.jwt.verify w.tokens .access request.arrival "s" ≠ none ∧
      ¬∃ session, (AuthGuard.canActivate clients w ⟨{}, {}⟩ request).eval w.db = .ok session := by
  intro clients seed logout login request w
  have halive : clients.jwt.verify w.tokens .access request.arrival "s" ≠ none := by decide +kernel
  subst w
  have hw : World.Served clients .first (run (World.serve clients .first) [.http seed] World.init) :=
    ⟨_, rfl⟩
  have hadm : logout.Admitted clients .first
      (run (World.serve clients .first) [.http seed] World.init)
      (some ⟨(Sample.token .access "s1" "s" "s0" .superAdmin).payload, "s"⟩) :=
    ⟨⟨.auth, AuthController.logout⟩, rfl, by decide +kernel⟩
  have hctx : ¬ExecutionContext.Public ⟨{}, {}⟩ := by decide
  have htoken : AuthGuard.extractToken request = some "s" := by decide
  have hle : logout.env.now ≤ request.arrival := by decide
  have hrevoked := (logout_revokes hw rfl hadm rfl rfl [.http login] hctx htoken hle).2 rfl
  exact ⟨halive, fun ⟨session, hok⟩ => hrevoked session hok⟩

end NodeVms
