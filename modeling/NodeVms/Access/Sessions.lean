/-
# How long a session lasts

A refresh token is signed at a login or when the SUPER_ADMIN is seeded, and only
there; refreshing signs access tokens and no refresh token, so that it does not prolong
the session.  Every admitted call therefore goes back to a login of its account, or
to the seeding of it, no longer ago than the lives of the two tokens together.
-/

import NodeVms.Access.Roles

namespace NodeVms

open Store

variable {clients : Clients} {pick : Pick FeatureAccess} {w : World} {t : Signed}

/-- An operation that hands out the token to somebody who knows the password of the account,
or has just chosen it. -/
inductive Operation.Opens (jwt : Jwt) (w : World) (t : Signed) : Operation → Time → Prop
  | login {env dto u} (hu : u ∈ w.db.users) (hemail : u.email = dto.email)
      (hpassword : env.compare dto.password u.password = true) (hok : Approved u)
      (huse : InUse w.db.toTables u) (ht : t = jwt.sign env t.secret u) :
      Opens jwt w t (.login env dto) env.now
  | seed {up env dto u db'} (h : (Auth.seedSuperAdmin env dto).exec w.db = .ok (u, db'))
      (ht : t = jwt.sign env t.secret u) :
      Opens jwt w t (.request up (.platform env (.seedSuperAdmin dto))) env.now

namespace Operation

variable {jwt : Jwt} {op : Operation} {now : Time}

/-- The token lives as long as is configured, from the moment it is handed out. -/
theorem Opens.exp (h : Opens jwt w t op now) :
    t.payload.exp = some (now.seconds + jwt.expiresIn t.secret) := by
  cases h with
  | login _ _ _ _ _ ht => rw [ht]; rfl
  | seed _ ht => rw [ht]; rfl

/-- A token is handed out with a session, or signed for a refresh token. -/
theorem opens_or_refresh (h : t ∈ op.signs jwt w) : (∃ now, Opens jwt w t op now) ∨
    ∃ env refreshToken p u, op = .refresh env refreshToken ∧
      jwt.verify w.tokens .refresh env.now refreshToken = some p ∧ u.id.val = p.sub ∧
      t = jwt.sign env .access u := by
  cases op with
  | login env dto =>
    unfold signs at h
    cases hl : (Auth.login jwt env dto).eval w.db with
    | error e => simp [hl] at h
    | ok pair =>
      obtain ⟨u, hu, hemail, hpassword, hok, huse, rfl⟩ := Auth.login_eq_ok.1 hl
      have ht : t = jwt.sign env t.secret u := by
        simp only [hl, List.mem_cons, List.not_mem_nil, or_false] at h
        rcases h with rfl | rfl <;> rfl
      exact .inl ⟨_, .login hu hemail hpassword hok huse ht⟩
  | refresh env refreshToken =>
    unfold signs at h
    cases hl : (Auth.refresh jwt env w.tokens refreshToken).eval w.db with
    | error e => simp [hl] at h
    | ok accessToken =>
      obtain ⟨p, hp, u, -, hid, -, rfl⟩ := Auth.refresh_eq_ok.1 hl
      simp only [hl, List.mem_singleton] at h
      exact .inr ⟨env, refreshToken, p, u, rfl, hp, hid, h⟩
  | request redisUp r =>
    cases r with
    | tenant env T r => exact absurd h List.not_mem_nil
    | platform env pr =>
      cases pr with
      | seedSuperAdmin dto =>
        unfold signs at h
        cases hl : (Auth.seedSuperAdmin env dto).exec w.db with
        | error e => simp [hl] at h
        | ok res =>
          have ht : t = jwt.sign env t.secret res.1 := by
            simp only [hl, Auth.generateTokenPair, List.mem_cons, List.not_mem_nil, or_false] at h
            rcases h with rfl | rfl <;> rfl
          exact .inl ⟨_, .seed hl ht⟩
      | _ => exact absurd h List.not_mem_nil
  | logout redisUp now session => exact absurd h List.not_mem_nil

end Operation

/-- A token in circulation was signed by an event of the run. -/
theorem exists_signed {es : List Event} (h : t ∈ (run (World.serve clients pick) es World.init).tokens) :
    ∃ before e after op, es = before ++ e :: after ∧
      e.operation clients pick (run (World.serve clients pick) before World.init) = some op ∧
      t ∈ op.signs clients.jwt (run (World.serve clients pick) before World.init) := by
  obtain ⟨before, e, after, rfl, hnot, hmem⟩ :=
    exists_begin (Q := fun w : World => t ∈ w.tokens) List.not_mem_nil h
  cases hop : e.operation clients pick (run (World.serve clients pick) before World.init) with
  | none =>
    rw [World.serve, hop] at hmem
    exact absurd hmem hnot
  | some op =>
    rw [World.serve, hop] at hmem
    exact ⟨before, e, after, op, rfl, hop, (List.mem_append.1 hmem).resolve_left hnot⟩

/-- The event of a run that opened a session of the account at this moment. -/
structure OpenedBy (clients : Clients) (pick : Pick FeatureAccess) (es : List Event) (sub : String)
    (now : Time) : Prop where
  exists_event : ∃ before e after op t, es = before ++ e :: after ∧
    e.operation clients pick (run (World.serve clients pick) before World.init) = some op ∧
    op.Opens clients.jwt (run (World.serve clients pick) before World.init) t now ∧
    t.payload.sub = sub

/-- Whoever is admitted has logged in before, no longer ago than a refresh token and an access
token live. -/
theorem session_age (es : List Event) {call : HttpCall} {s : Session}
    (h : call.Admitted clients pick (run (World.serve clients pick) es World.init) (some s)) :
    ∃ now, OpenedBy clients pick es s.user.sub now ∧
      call.request.arrival.seconds < now.seconds + clients.jwt.expiresIn .access +
        max 0 (clients.jwt.expiresIn .refresh) := by
  obtain ⟨-, hmem, halive⟩ := Jwt.verify_eq_some.1 h.verified.2
  have harith : ∀ a b c d : Int, a < b + c → a < b + c + max 0 d := by omega
  obtain ⟨before, e, after, op, rfl, hop, hsigns⟩ := exists_signed hmem
  rcases Operation.opens_or_refresh hsigns with ⟨now, hopens⟩ | ⟨env, token, p, u, rfl, hp, hid, ht⟩
  · have hexp := hopens.exp
    have hlt : ¬now.seconds + clients.jwt.expiresIn .access ≤ call.request.arrival.seconds :=
      fun hle => halive ⟨_, hexp, hle⟩
    exact ⟨now, ⟨before, e, after, op, _, rfl, hop, hopens, rfl⟩, harith _ _ _ _ (not_le.1 hlt)⟩
  · -- the refresh token goes back to a session of its own
    obtain ⟨-, hmem', halive'⟩ := Jwt.verify_eq_some.1 hp
    obtain ⟨before', e', after', op', rfl, hop', hsigns'⟩ := exists_signed hmem'
    have hpayload : s.user = (clients.jwt.sign env .access u).payload := congrArg Signed.payload ht
    have hsub : s.user.sub = p.sub := by
      rw [hpayload]
      exact hid
    rcases Operation.opens_or_refresh hsigns' with ⟨now, hopens⟩ | ⟨env', _, _, u', -, -, -, ht'⟩
    · have hexp := hopens.exp
      have hlt : ¬env.now.seconds + clients.jwt.expiresIn .access ≤ call.request.arrival.seconds :=
        fun hle => halive ⟨_, by rw [hpayload]; rfl, hle⟩
      have hlt' : ¬now.seconds + clients.jwt.expiresIn .refresh ≤ env.now.seconds :=
        fun hle => halive' ⟨_, hexp, hle⟩
      have hbound : ∀ a b c d x : Int, ¬a + c ≤ x → ¬b + d ≤ a → x < b + c + max 0 d := by omega
      exact ⟨now, ⟨before', e', after' ++ e :: after, op', _, by simp, hop', hopens, hsub.symm⟩,
        hbound _ _ _ _ _ hlt hlt'⟩
    · have hsecret : Secret.refresh = Secret.access := congrArg Signed.secret ht'
      cases hsecret

/-- A session that is refreshed after ten minutes, and a call ten minutes later. -/
theorem session_age_refreshed :
    let fresh := { Sample.token .access "s1" "s" "s0" .superAdmin with
      payload.iat := some 600, payload.exp := some 1500 }
    let clients := Sample.clients
      [("r", Sample.token .refresh "s1" "s" "s0" .superAdmin), ("f", fresh)]
    let seed := Sample.http (.sample "s" 0) none
      (.platform (.seedSuperAdmin { name := "s", email := "s", password := "s", seedSecret := "" }))
    let refresh := { Sample.http (.sample "x" 600000) none .refresh with
      request.refreshCookie := some "r" }
    let call := Sample.http (.sample "y" 1200000) (some "f") .logout
    ∃ now, OpenedBy clients .first [.http seed, .http refresh] "s1" now ∧
      call.request.arrival.seconds < now.seconds + 900 + 604800 := by
  intro fresh clients seed refresh call
  have hadm : call.Admitted clients .first
      (run (World.serve clients .first) [.http seed, .http refresh] World.init)
      (some ⟨fresh.payload, "f"⟩) :=
    ⟨⟨.auth, AuthController.logout⟩, rfl, by decide +kernel⟩
  exact session_age _ hadm

end NodeVms
