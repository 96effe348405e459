/-
# The last password counts

Seven requests give an account a password.  What an account answers to is the hash the
last accepted one of them has stored for it: the table of accounts is a register of the
passwords (`Store.run_eq_lastWrite_sent`), whatever else happens to the accounts in
between, and a login compares with what the register holds.
-/

import NodeVms.Access.Accounts
import NodeVms.Http.Methods
import NodeVms.Store.LastWrite

namespace NodeVms

open Store Script Users

variable {db db' : Database} {env : Env} {k : String}

/-! ### The register -/

/-- The accounts whose passwords a request sets if it is accepted, with the hashes. -/
def Request.passwords : Request → List (String × String)
  | .tenant env _ (.users (.create dto)) => [((env.cuid 0).val, env.hash dto.password)]
  | .tenant env _ (.users (.update id dto _)) =>
    (dto.password.nullish.map fun password => (id, env.hash password)).toList
  | .tenant env _ (.users (.resetSubordinatePassword targetId newPassword _)) =>
    [(targetId, env.hash newPassword)]
  | .platform env (.registerTenant dto) => [((env.cuid 1).val, env.hash dto.password)]
  | .platform env (.seedSuperAdmin dto) => [((env.cuid 1).val, env.hash dto.password)]
  | .platform env (.resetAdminPassword userId newPassword) => [(userId, env.hash newPassword)]
  | .platform env (.changePassword userId dto) => [(userId, env.hash dto.newPassword)]
  | _ => []

/-- The passwords a request sets: none if it is rejected. -/
def setsPasswords (r : Request) (db : Database) : List (String × String) :=
  match r.method.failure db with
  | none => r.passwords
  | some _ => []

/-- The hash of the account. -/
def passwordOf (k : String) (db : Database) : Option String :=
  (db.users.find? fun u => u.id.val = k).map User.password

/-- The hash is the one in the row of the account. -/
theorem passwordOf_eq_some {h : String} :
    passwordOf k db = some h ↔ ∃ u ∈ db.users, u.id.val = k ∧ u.password = h := by
  have hfind : ∀ u, (db.users.find? fun u => u.id.val = k) = some u ↔
      u ∈ db.users ∧ u.id.val = k := fun u =>
    (find?_key_eq_some (db.nodup_key .user) fun _ h => of_decide_eq_true h).trans
      (and_congr_right fun _ => decide_eq_true_iff)
  simp only [passwordOf, Option.map_eq_some_iff, hfind, and_assoc]

/-- The passwords in the second state are those of the first and what was written. -/
def Register (writes : List (String × String)) (db db' : Database) : Prop :=
  ∀ k, passwordOf k db' = (lastWrite Prod.fst Prod.snd writes k).or (passwordOf k db)

namespace Register

/-- A request that does not write the users sets no password. -/
theorem same (h : db'.users = db.users) : Register [] db db' := by
  intro k
  unfold passwordOf
  rw [h]
  rfl

/-- An account is added. -/
theorem insert {u : User} (h : db'.users = db.users ++ [u]) :
    Register [(u.id.val, u.password)] db db' := by
  intro k
  have hnew : ∀ v ∈ db.users, v.id.val ≠ u.id.val := db'.id_ne_of_append .user h
  rw [lastWrite_cons]
  unfold passwordOf
  rw [h, List.find?_append]
  by_cases hk : u.id.val = k
  · have hnone : (db.users.find? fun v => v.id.val = k) = none := by
      rw [List.find?_eq_none]
      intro v hv
      have hne := hnew v hv
      rw [hk] at hne
      simp [hne]
    simp [hnone, hk, lastWrite]
  · simp [hk, lastWrite]

/-- An update that does not concern the passwords. -/
theorem update {p : User → Bool} {f : User → User} (h : db'.users = updateWhere p f db.users)
    (hid : ∀ u, (f u).id = u.id) (hpassword : ∀ u, (f u).password = u.password) :
    Register [] db db' := by
  intro k
  have hq : ∀ u, decide ((f u).id.val = k) = decide (u.id.val = k) := fun u => by rw [hid]
  have hcomp : (User.password ∘ fun u => if p u then f u else u) = User.password := by
    funext u
    by_cases hu : p u <;> simp [hu, hpassword]
  unfold passwordOf
  rw [h, find?_updateWhere hq, Option.map_map, hcomp]
  rfl

/-- An update of the password of an account that is there. -/
theorem set {id hash : String} {f : User → User}
    (h : db'.users = updateWhere (fun u => u.id.val = id) f db.users) (hid : ∀ u, (f u).id = u.id)
    (hpassword : ∀ u, (f u).password = hash) (hmem : ∃ u ∈ db.users, u.id.val = id) :
    Register [(id, hash)] db db' := by
  intro k
  have hq : ∀ u, decide ((f u).id.val = k) = decide (u.id.val = k) := fun u => by rw [hid]
  rw [lastWrite_cons]
  unfold passwordOf
  rw [h, find?_updateWhere hq, Option.map_map]
  cases hfind : db.users.find? fun u => u.id.val = k with
  | none =>
    have hne : id ≠ k := by
      rintro rfl
      obtain ⟨u, hu, hku⟩ := hmem
      have hnone := List.find?_eq_none.1 hfind u hu
      exact hnone (decide_eq_true hku)
    simp [lastWrite, hne]
  | some u =>
    have hk : u.id.val = k := by
      have hp := List.find?_some hfind
      exact of_decide_eq_true hp
    by_cases hu : id = k
    · simp [lastWrite, hu, hk, hpassword]
    · have huid : u.id.val ≠ id := fun heq => hu (heq.symm.trans hk)
      simp [lastWrite, hu, huid]

/-- A handler: what is written is written if it goes through. -/
theorem next {α : Type} {h : Query (Transaction α)} {writes : List (String × String)}
    (hok : ∀ a db', h.exec db = .ok (a, db') → Register writes db db') :
    Register (match (unanswered h).failure db with | none => writes | some _ => []) db
      (h.next db) := by
  have hfailure : (unanswered h).failure db = h.failure db := failure_tagged
  rw [hfailure]
  cases hf : h.failure db with
  | some e =>
    rw [next_of_failure hf]
    exact same rfl
  | none =>
    obtain ⟨a, ha⟩ := exec_of_failure hf
    exact hok a _ ha

end Register

/-! ### Requests -/

/-- A request that sends no password sets none. -/
theorem setsPasswords_nil {r : Request} (h : r.passwords = []) : setsPasswords r db = [] := by
  unfold setsPasswords
  rw [h]
  split <;> rfl

/-- Requests on users set the password of the user they name. -/
theorem Users.Request.register (rq : Users.Request) (env : Env) (T : String) (db : Database) :
    Register (setsPasswords (.tenant env T (.users rq)) db) db (rq.next env T db) := by
  cases rq with
  | create dto =>
    refine Register.next fun u db' h => ?_
    obtain ⟨-, -, rfl, hw⟩ := create_ok h
    exact .insert (congrArg Tables.users hw)
  | update id dto currentUser =>
    refine Register.next fun _ db' h => ?_
    obtain ⟨target, ht, hid, -, -, -, -, -, t, ht', hw⟩ := update_ok h
    have husers : db'.users = t.users := by
      rcases hw with ⟨-, hw⟩ | ⟨_, -, hw⟩
      · rw [hw]
      · rw [hw]; rfl
    have hpassword : ∀ u, (dto.apply env.hash u).password =
        (dto.password.nullish.map env.hash).getD u.password := fun _ => rfl
    show Register (dto.password.nullish.map fun password => (id, env.hash password)).toList db db'
    rcases ht' with ⟨hnone, rfl⟩ | ⟨-, rfl⟩
    · -- without a field of the account there is no password either
      have hundefined : dto.password.nullish = none := by
        unfold UpdateUserDto.hasUserUpdates at hnone
        cases hp : dto.password with
        | value p => simp [hp] at hnone
        | _ => rfl
      rw [hundefined]
      exact .same husers
    · cases hp : dto.password.nullish with
      | none =>
        refine .update husers (fun _ => rfl) fun u => ?_
        rw [hpassword, hp]
        rfl
      | some password =>
        refine .set husers (fun _ => rfl) (fun u => ?_) ⟨target, ht, hid⟩
        rw [hpassword, hp]
        rfl
  | resetSubordinatePassword id newPassword requesterRole =>
    refine Register.next fun _ db' h => ?_
    obtain ⟨target, ht, hid, -, -, -, hw⟩ := resetSubordinatePassword_ok h
    show Register [(id, env.hash newPassword)] db db'
    exact .set (congrArg Tables.users hw) (fun _ => rfl) (fun _ => rfl) ⟨target, ht, hid⟩
  | remove id currentUser =>
    refine Register.next fun _ db' h => ?_
    obtain ⟨target, ht, hid, -, -, -, -, hw⟩ := remove_ok h
    exact .update (congrArg Tables.users hw) (fun _ => rfl) fun _ => rfl

/-- Requests on branches set none. -/
theorem Branches.Request.register (rq : Branches.Request) (env : Env) (T : String)
    (db : Database) :
    Register (setsPasswords (.tenant env T (.branches rq)) db) db (rq.next env T db) := by
  cases rq with
  | create dto =>
    refine Register.next fun _ db' h => ?_
    exact .same ((congrArg Tables.users (create_ok h).2.2).trans rfl)
  | update id dto =>
    refine Register.next fun _ db' h => ?_
    obtain ⟨_, -, -, -, -, -, hw⟩ := update_ok h
    exact .same ((congrArg Tables.users hw).trans rfl)
  | remove id =>
    refine Register.next fun _ db' h => ?_
    exact .update (congrArg Tables.users (remove_ok h).2) (fun _ => rfl) fun _ => rfl

/-- The platform sets those of new admins, and those it resets. -/
theorem PlatformRequest.register (pr : PlatformRequest) (env : Env) (db : Database) :
    Register (setsPasswords (.platform env pr) db) db (pr.next env db) := by
  have hsame : Table.users ∉ pr.writes → (Request.platform env pr).passwords = [] →
      Register (setsPasswords (.platform env pr) db) db (pr.next env db) := by
    intro hwrites hnil
    rw [setsPasswords_nil hnil]
    exact .same (pr.same env hwrites)
  cases pr with
  | registerTenant dto =>
    refine Register.next fun u db' h => ?_
    obtain ⟨rfl, hw⟩ := Auth.registerTenant_ok h
    exact .insert (congrArg Tables.users hw)
  | seedSuperAdmin dto =>
    refine Register.next fun u db' h => ?_
    obtain ⟨-, -, rfl, hw⟩ := Auth.seedSuperAdmin_ok h
    exact .insert (congrArg Tables.users hw)
  | approve id =>
    refine Register.next fun _ db' h => ?_
    obtain ⟨a, ha, -, hw⟩ := AdminApplications.approve_ok h
    exact .update (congrArg Tables.users hw) (fun _ => rfl) fun _ => rfl
  | reject id =>
    refine Register.next fun _ db' h => ?_
    obtain ⟨a, ha, -, hw⟩ := AdminApplications.reject_ok h
    exact .update (congrArg Tables.users hw) (fun _ => rfl) fun _ => rfl
  | suspend id =>
    refine Register.next fun _ db' h => ?_
    obtain ⟨a, ha, -, hw⟩ := AdminApplications.suspend_ok h
    exact .update (congrArg Tables.users hw) (fun _ => rfl) fun _ => rfl
  | reactivate id =>
    refine Register.next fun _ db' h => ?_
    obtain ⟨a, ha, -, hw⟩ := AdminApplications.reactivate_ok h
    exact .update (congrArg Tables.users hw) (fun _ => rfl) fun _ => rfl
  | resetAdminPassword id newPassword =>
    refine Register.next fun _ db' h => ?_
    obtain ⟨⟨a, hmem, hid, -⟩, hw⟩ := AdminApplications.resetAdminPassword_ok h
    show Register [(id, env.hash newPassword)] db db'
    exact .set (congrArg Tables.users hw) (fun _ => rfl) (fun _ => rfl) ⟨a, hmem, hid⟩
  | changePassword id dto =>
    refine Register.next fun _ db' h => ?_
    obtain ⟨u, hu, hid, -, -, -, hw⟩ := Profile.changePassword_ok h
    show Register [(id, env.hash dto.newPassword)] db db'
    exact .set (congrArg Tables.users hw) (fun _ => rfl) (fun _ => rfl) ⟨u, hu, hid⟩
  | changeName id name =>
    refine Register.next fun _ db' h => ?_
    exact .update (congrArg Tables.users (Profile.changeName_ok h).2) (fun _ => rfl) fun _ => rfl
  | _ => exact hsame (by simp [writes]) rfl

/-- A step writes the passwords its request sets, and no other. -/
theorem step_register (r : Request) (db : Database) :
    Register (setsPasswords r db) db (step r db) := by
  cases r with
  | platform env pr => exact pr.register env db
  | tenant env T rq =>
    cases rq with
    | users rq => exact rq.register env T db
    | branches rq => exact rq.register env T db
    | _ =>
      rw [setsPasswords_nil rfl]
      refine .same (@step_same db _ .users ?_)
      simp [Request.writes, TenantRequest.writes]

/-! ### Runs -/

/-- After a run an account has the password that was set last. -/
theorem passwordOf_run (rs : List Request) (db : Database) (k : String) :
    passwordOf k (run step rs db) =
      (lastWrite Prod.fst Prod.snd (sent step setsPasswords rs db) k).or (passwordOf k db) :=
  run_eq_lastWrite_sent (fun r db => step_register r db k) rs db

/-- A login goes through for the account with the email, if it is in use, with the password
whose hash was stored last, whoever set it. -/
theorem login_checks_last_password (rs : List Request) (jwt : Jwt) (env : Env)
    (dto : Auth.LoginDto) (pair : Auth.TokenPair) :
    let db := run step rs Database.empty
    (Auth.login jwt env dto).eval db = .ok pair ↔ ∃ u ∈ db.users, u.email = dto.email ∧
      (∃ hash, lastWrite Prod.fst Prod.snd (sent step setsPasswords rs Database.empty) u.id.val =
        some hash ∧ env.compare dto.password hash = true) ∧
      Approved u ∧ InUse db.toTables u ∧ pair = Auth.generateTokenPair jwt env u := by
  intro db
  have hlast : ∀ u ∈ db.users,
      lastWrite Prod.fst Prod.snd (sent step setsPasswords rs Database.empty) u.id.val =
        some u.password := by
    intro u hu
    have hpassword : passwordOf u.id.val db = some u.password :=
      passwordOf_eq_some.2 ⟨u, hu, rfl, rfl⟩
    have hempty : passwordOf u.id.val Database.empty = none := rfl
    rw [← hpassword, passwordOf_run, hempty, Option.or_none]
  rw [Auth.login_eq_ok]
  refine exists_congr fun u => and_congr_right fun hu => and_congr_right fun _ =>
    and_congr_left fun _ => ?_
  rw [hlast u hu]
  constructor
  · exact fun hcompare => ⟨_, rfl, hcompare⟩
  · rintro ⟨hash, hhash, hcompare⟩
    rwa [Option.some.inj hhash]

end NodeVms
