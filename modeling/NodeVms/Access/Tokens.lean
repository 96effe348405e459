/-
# Whose token it is

Every token in circulation was signed for an account that is still there, in the
tenant the token names.  The role a token claims is the role its account had when
the token was signed; since then it may have changed, but only between driver and
employee, which is what `Akin` allows.
-/

import NodeVms.Access.Accounts
import NodeVms.Http.World

namespace NodeVms

open Store Users

/-- Equal, or both roles a tenant's ADMIN manages. -/
def Role.Akin (a b : Role) : Prop := a = b ∨ a ∈ MANAGEABLE_ROLES ∧ b ∈ MANAGEABLE_ROLES

namespace Role.Akin

variable {a b c : Role}

/-- Kinship of roles is passed on. -/
theorem trans (hab : Akin a b) (hbc : Akin b c) : Akin a c := by
  rcases hab with rfl | ⟨ha, hb⟩
  · exact hbc
  · rcases hbc with rfl | ⟨-, hc⟩
    · exact .inr ⟨ha, hb⟩
    · exact .inr ⟨ha, hc⟩

/-- It goes both ways. -/
theorem symm (h : Akin a b) : Akin b a := h.imp Eq.symm And.symm

/-- A role that is not managed is akin to itself only. -/
theorem eq_of_not_mem (h : Akin a b) (ha : a ∉ MANAGEABLE_ROLES) : a = b :=
  h.resolve_right fun hm => ha hm.1

end Role.Akin

/-- No request changes a role but among the managed ones. -/
theorem UserStep.akin {r : Request} {u u' : User} (h : UserStep r u u') : Role.Akin u.role u'.role :=
  h.role_eq_or.imp Eq.symm id

variable {clients : Clients} {w : World}

/-- The accounts after an operation. -/
theorem Operation.users_evolve (op : Operation) (db : Database) :
    ∃ r, UsersEvolve r db (op.next db) := by
  cases op with
  | request redisUp r => exact ⟨r, step_users r db⟩
  | _ => exact ⟨.platform (.sample "" 0) .runOfflineDetection, evolves_same (fun _ => .same) rfl⟩

/-- A token is signed for an account, with the role the account has. -/
theorem Operation.mem_signs {jwt : Jwt} {op : Operation} {t : Signed} (h : t ∈ op.signs jwt w) :
    ∃ u ∈ (op.next w.db).users, ∃ env, t = jwt.sign env t.secret u := by
  cases op with
  | login env dto =>
    unfold signs at h
    cases hl : (Auth.login jwt env dto).eval w.db with
    | error e => simp [hl] at h
    | ok pair =>
      obtain ⟨u, hu, -, -, -, -, rfl⟩ := Auth.login_eq_ok.1 hl
      refine ⟨u, hu, env, ?_⟩
      simp only [hl, List.mem_cons, List.not_mem_nil, or_false] at h
      rcases h with rfl | rfl <;> rfl
  | refresh env refreshToken =>
    unfold signs at h
    cases hl : (Auth.refresh jwt env w.tokens refreshToken).eval w.db with
    | error e => simp [hl] at h
    | ok accessToken =>
      obtain ⟨-, -, u, hu, -, -, rfl⟩ := Auth.refresh_eq_ok.1 hl
      refine ⟨u, hu, env, ?_⟩
      simp only [hl, List.mem_singleton] at h
      rw [h]
      rfl
  | request redisUp r =>
    cases r with
    | tenant env T r => exact nomatch h
    | platform env pr =>
      cases pr with
      | seedSuperAdmin dto =>
        unfold signs at h
        cases hl : (Auth.seedSuperAdmin env dto).exec w.db with
        | error e => simp [hl] at h
        | ok res =>
          obtain ⟨u, db'⟩ := res
          have hnext : next (.request redisUp (.platform env (.seedSuperAdmin dto))) w.db = db' :=
            Script.next_of_ok hl
          obtain ⟨-, -, -, hw⟩ := Auth.seedSuperAdmin_ok hl
          have husers : db'.users = w.db.users ++ [u] := congrArg Tables.users hw
          refine ⟨u, ?_, env, ?_⟩
          · rw [hnext, husers]
            exact List.mem_append_right _ List.mem_cons_self
          · simp only [hl, List.mem_cons, List.not_mem_nil, or_false] at h
            rcases h with rfl | rfl <;> rfl
      | _ => exact nomatch h
  | logout redisUp now session => exact nomatch h

/-- The account of a token. -/
structure Bearer (db : Database) (p : JwtPayload) (u : User) : Prop where
  mem : u ∈ db.users
  id_eq : u.id.val = p.sub
  tenantId_eq : u.tenantId = p.tenantId
  akin : Role.Akin p.role u.role

namespace Bearer

variable {db : Database} {p : JwtPayload} {u : User}

/-- A token that is signed for a user is one of the user. -/
theorem of_sign {jwt : Jwt} {env : Env} {secret : Secret} (hu : u ∈ db.users) :
    Bearer db (jwt.sign env secret u).payload u := ⟨hu, rfl, rfl, .inl rfl⟩

/-- The account outlives an operation, and the token stays one of its own. -/
theorem next (h : Bearer db p u) (op : Operation) : ∃ u', Bearer (op.next db) p u' := by
  obtain ⟨r, hr⟩ := op.users_evolve db
  obtain ⟨u', hu', hid, hstep⟩ := hr.exists_next h.mem
  exact ⟨u', hu', (congrArg Cuid.val hid).trans h.id_eq, hstep.tenantId_eq.trans h.tenantId_eq,
    h.akin.trans hstep.akin⟩

end Bearer

/-- Every token has an account. -/
theorem World.Reachable.exists_bearer (h : Reachable clients w) :
    ∀ t ∈ w.tokens, ∃ u, Bearer w.db t.payload u := by
  refine h.invariant (I := fun w => ∀ t ∈ w.tokens, ∃ u, Bearer w.db t.payload u)
    (fun _ h => nomatch h) ?_
  intro op w _ hw t ht
  rcases List.mem_append.1 ht with ht | ht
  · obtain ⟨u, hu⟩ := hw t ht
    exact hu.next op
  · obtain ⟨u, hu, env, h⟩ := Operation.mem_signs ht
    rw [h]
    exact ⟨u, .of_sign hu⟩

/-- The account a token names is the account of the token. -/
theorem World.Reachable.bearer (h : Reachable clients w) {s : Secret} {p : JwtPayload}
    (ht : ⟨s, p⟩ ∈ w.tokens) {u : User} (hu : u ∈ w.db.users) (hsub : p.sub = u.id) :
    Bearer w.db p u := by
  obtain ⟨v, hv⟩ := h.exists_bearer _ ht
  obtain rfl := w.db.eq_of_id .user hv.mem hu (hv.id_eq.trans hsub)
  exact hv

/-- The tenant a token names is there. -/
theorem World.Reachable.hasTenant (h : Reachable clients w) {t : Signed} (ht : t ∈ w.tokens) :
    HasTenant w.db.toTables t.payload.tenantId := by
  obtain ⟨u, hu⟩ := h.exists_bearer t ht
  rw [← hu.tenantId_eq]
  exact w.db.hasTenant hu.mem

/-- What holds of the accounts in every reachable state of the application. -/
theorem World.Reachable.accounts (h : Reachable clients w) : AccountsInv w.db.toTables :=
  .of_reachable h.db

end NodeVms
