/-
# Suspended and removed tenants

A suspension takes the flag of the tenant down, and `Reopens` lists the requests
that put it up again: an approval or a reactivation of an ADMIN of the tenant, and
an update of the tenant that says so.  Nothing else a run may contain does.

A removal takes the flag down as well and marks the tenant removed.  Updates and
removals of tenants look at the mark, approvals and reactivations do not: one of
these for the ADMIN of a removed tenant (`Revives`) opens it again.
-/

import NodeVms.Access.Gates

namespace NodeVms

open Store AdminApplications

variable {clients : Clients} {w : World} {db : Database} {T : String}

/-! ### Suspension -/

/-- A request that puts the flag of the tenant up: one of the three, and it goes through. -/
def Reopens (tenantId : String) (db : Database) : Request → Prop
  | .platform _ (.approve id) =>
    (∃ a ∈ db.users, a.id.val = id ∧ a.role = .admin ∧ a.tenantId = tenantId) ∧
      (approve id).Accepted db
  | .platform _ (.reactivate id) =>
    (∃ a ∈ db.users, a.id.val = id ∧ a.role = .admin ∧ a.tenantId = tenantId) ∧
      (reactivate id).Accepted db
  | .platform _ (.updateTenant id dto) =>
    id = tenantId ∧ dto.isActive = .value true ∧ (Tenants.update id dto).Accepted db
  | _ => False

instance (tenantId : String) (db : Database) : DecidablePred (Reopens tenantId db) := fun r => by
  unfold Reopens; split <;> infer_instance

/-- Nothing else puts it up. -/
theorem not_open_step {r : Request} (hT : HasTenant db.toTables T)
    (hopen : ¬OpenTenant db.toTables T) (hr : ¬Reopens T db r) :
    ¬OpenTenant (step r db).toTables T := by
  rintro ⟨t', ht', hid, hactive⟩
  have hsame : step r db ≠ db := fun hsame => hopen (hsame ▸ ⟨t', ht', hid, hactive⟩)
  rcases (step_tenants r db).descends t' ht' with ⟨t, ht, htid, hstep⟩ | ⟨hnew, -⟩
  · have hdown : t.isActive = false := by
      by_contra hup
      exact hopen ⟨t, ht, (congrArg Cuid.val htid).trans hid, Bool.eq_true_of_not_eq_false hup⟩
    cases hstep with
    | same => rw [hdown] at hactive; cases hactive
    | @decided env pr a status h hpr ha haT =>
      obtain rfl : status = .approved := of_decide_eq_true hactive
      have hadmin : ∃ u ∈ db.users, u.id.val = a.id ∧ u.role = .admin ∧ u.tenantId = T :=
        ⟨a, ha.1, rfl, ha.2.2.1, haT.trans hid⟩
      subst h
      cases pr with
      | approve id =>
        obtain rfl : id = a.id := (Prod.mk.inj (Option.some.inj hpr)).1
        exact hr ⟨hadmin, by_contra fun hno => hsame (Script.next_of_not_accepted hno)⟩
      | reactivate id =>
        obtain rfl : id = a.id := (Prod.mk.inj (Option.some.inj hpr)).1
        exact hr ⟨hadmin, by_contra fun hno => hsame (Script.next_of_not_accepted hno)⟩
      | _ => cases hpr
    | @update env dto h hlive =>
      subst h
      have hdto : dto.isActive = .value true := by
        change dto.isActive.set t.isActive = true at hactive
        rw [hdown] at hactive
        cases hf : dto.isActive with
        | value b => rw [hf] at hactive; rw [show b = true from hactive]
        | _ => rw [hf] at hactive; cases hactive
      exact hr ⟨hid, hdto, by_contra fun hno => hsame (Script.next_of_not_accepted hno)⟩
    | remove => cases hactive
  · obtain ⟨t, ht, htid⟩ := hT
    exact hnew t ht (htid.trans hid.symm)

/-- A tenant stays in the table. -/
theorem hasTenant_step (r : Request) (hT : HasTenant db.toTables T) :
    HasTenant (step r db).toTables T := by
  obtain ⟨t, ht, hid⟩ := hT
  obtain ⟨t', ht', hid'⟩ := (step_tenants r db).survives t ht
  exact ⟨t', ht', (congrArg Cuid.val hid').trans hid⟩

/-- An operation other than those. -/
def Operation.LeavesShut (tenantId : String) (op : Operation) (w : World) : Prop :=
  match op with
  | .request _ r => ¬Reopens tenantId w.db r
  | _ => True

instance (tenantId : String) (op : Operation) (w : World) :
    Decidable (op.LeavesShut tenantId w) := by
  unfold Operation.LeavesShut; split <;> infer_instance

/-- The tenant is there and its flag is down. -/
def Down (clients : Clients) (tenantId : String) (w : World) : Prop :=
  w.Reachable clients ∧ HasTenant w.db.toTables tenantId ∧ ¬OpenTenant w.db.toTables tenantId

/-- A tenant that is shut stays so until it is opened again. -/
theorem Down.step {op : Operation} (h : Down clients T w) (hop : op.LeavesShut T w) :
    Down clients T (World.step clients op w) := by
  obtain ⟨hw, hT, hopen⟩ := h
  refine ⟨hw.next op, ?_⟩
  cases op with
  | request redisUp r => exact ⟨hasTenant_step r hT, not_open_step hT hopen hop⟩
  | _ => exact ⟨hT, hopen⟩

/-- A tenant stays shut until one of the three requests. -/
theorem Down.always_shut {ops : List Operation} (h : Down clients T w)
    (hops : Along (World.step clients) (Operation.LeavesShut T) ops w) :
    Always (World.step clients) (World.Shut clients T) ops w := by
  have hdown : Always (World.step clients) (Down clients T) ops w :=
    Always.of_steps (fun _ _ hd hop => hd.step hop) h hops
  exact hdown.mono fun w hd => World.shut_of_not_open hd.1 hd.2.2

/-- A suspension takes the flag of the ADMIN's tenant down. -/
theorem down_of_suspend (h : w.Reachable clients) {a : User} (ha : a ∈ w.db.users) {up : Bool}
    {env : Env} (hok : (suspend a.id).Accepted w.db) :
    Down clients a.tenantId
      (World.step clients (.request up (.platform env (.suspend a.id))) w) := by
  refine ⟨h.next _, hasTenant_step _ (w.db.hasTenant ha), ?_⟩
  obtain ⟨user, hok⟩ := Script.accepted_iff.1 hok
  obtain ⟨a', ha', -, hw⟩ := suspend_ok hok
  obtain rfl := ha'.role_of_id ha rfl
  have htenants : ((suspend a.id).next w.db).tenants =
      updateWhere (fun t => t.id.val = a.tenantId) (fun t => { t with isActive := false })
        w.db.tenants := congrArg Tables.tenants hw
  rintro ⟨t', ht', hid, hactive⟩
  have ht' : t' ∈ ((suspend a.id).next w.db).tenants := ht'
  rw [htenants] at ht'
  rcases mem_updateWhere.1 ht' with ⟨-, hne⟩ | ⟨t, -, -, rfl⟩
  · exact of_decide_eq_false hne hid
  · cases hactive

/-- **Suspension shuts the whole company** until a reactivation. -/
theorem suspended_tenant_stays_shut (h : w.Reachable clients) {a : User} (ha : a ∈ w.db.users)
    {up : Bool} {env : Env} (hok : (suspend a.id).Accepted w.db) {ops : List Operation}
    (hops : Along (World.step clients) (Operation.LeavesShut a.tenantId) ops
      (World.step clients (.request up (.platform env (.suspend a.id))) w)) :
    Always (World.step clients) (World.Shut clients a.tenantId) ops
      (World.step clients (.request up (.platform env (.suspend a.id))) w) :=
  (down_of_suspend h ha hok).always_shut hops

/-- A new account and a new tenant do not open the suspended one. -/
theorem suspended_tenant_stays_shut_new_user :
    let clients := Sample.clients []
    let w := run (World.step clients)
      [Sample.call (Sample.tenant "t"), Sample.platform 0 (.approve "t1"), Sample.login "t" 0]
      World.init
    Always (World.step clients) (World.Shut clients "t0")
      [Sample.call (Sample.user "u" "t0"), Sample.login "u" 0, Sample.call (Sample.tenant "s"),
       Sample.platform 0 (.approve "s1"), Sample.platform 0 (.changeName "t1" "x")]
      (World.step clients (Sample.platform 0 (.suspend "t1")) w) := by
  intro clients w
  let a : User :=
    { id := (Env.sample "t" 0).cuid 1, tenantId := "t0", branchId := none, name := "t", email := "t",
      password := "t", role := .admin, approvalStatus := .approved, isActive := true,
      deletedAt := none }
  have hw : w.Reachable clients := ⟨_, rfl⟩
  have ha : a ∈ w.db.users := by decide
  have hok : (suspend a.id).Accepted w.db := by decide
  exact suspended_tenant_stays_shut hw ha hok (by decide)

/-! ### Removal -/

/-- The tenant has been removed. -/
def RemovedTenant (t : Tables) (tenantId : String) : Prop :=
  ∃ r ∈ t.tenants, r.id.val = tenantId ∧ r.deletedAt ≠ none

/-- Removed tenants have their flag down. -/
def RemovedInactive (t : Tables) : Prop := ∀ r ∈ t.tenants, r.deletedAt ≠ none → r.isActive = false

/-- An approval or a reactivation for the ADMIN of a removed tenant, of an
application in a state that allows it. -/
def Revives (db : Database) : Request → Prop
  | .platform _ (.approve id) =>
    ∃ a ∈ db.users, (a.id.val = id ∧ a.role = .admin ∧ a.deletedAt = none) ∧
      a.approvalStatus ≠ .approved ∧ RemovedTenant db.toTables a.tenantId
  | .platform _ (.reactivate id) =>
    ∃ a ∈ db.users, (a.id.val = id ∧ a.role = .admin ∧ a.deletedAt = none) ∧
      a.approvalStatus = .suspended ∧ RemovedTenant db.toTables a.tenantId
  | _ => False

instance (t : Tables) (tenantId : String) : Decidable (RemovedTenant t tenantId) := by
  unfold RemovedTenant; infer_instance

instance (t : Tables) : Decidable (RemovedInactive t) := by
  unfold RemovedInactive; infer_instance

instance (db : Database) : DecidablePred (Revives db) := fun r => by
  unfold Revives; split <;> infer_instance

/-- Nothing else opens a removed tenant. -/
theorem removedInactive_step {r : Request} (h : RemovedInactive db.toTables) (hr : ¬Revives db r) :
    RemovedInactive (step r db).toTables := by
  intro t' ht' hdel
  by_contra hactive
  have hsame : step r db ≠ db := fun hsame => hactive (h t' (hsame ▸ ht') hdel)
  rcases (step_tenants r db).descends t' ht' with ⟨t, ht, -, hstep⟩ | ⟨-, hlive⟩
  · cases hstep with
    | same => exact hactive (h t' ht hdel)
    | @decided env pr a status heq hpr ha haT =>
      obtain rfl : status = .approved := of_decide_eq_true (Bool.eq_true_of_not_eq_false hactive)
      have hremoved : RemovedTenant db.toTables a.tenantId := ⟨t, ht, haT.symm, hdel⟩
      subst heq
      cases pr with
      | approve id =>
        obtain rfl : id = a.id := (Prod.mk.inj (Option.some.inj hpr)).1
        rcases (approve a.id).next_cases db with hno | ⟨user, hok⟩
        · exact hsame hno
        · obtain ⟨a', ha', hstatus, -⟩ := approve_ok hok
          exact hr ⟨a', ha'.1, ha'.2, hstatus, ha'.role_of_id ha.1 rfl ▸ hremoved⟩
      | reactivate id =>
        obtain rfl : id = a.id := (Prod.mk.inj (Option.some.inj hpr)).1
        rcases (reactivate a.id).next_cases db with hno | ⟨user, hok⟩
        · exact hsame hno
        · obtain ⟨a', ha', hstatus, -⟩ := reactivate_ok hok
          exact hr ⟨a', ha'.1, ha'.2, hstatus, ha'.role_of_id ha.1 rfl ▸ hremoved⟩
      | _ => cases hpr
    | update heq hlive => exact hdel hlive
    | remove => exact hactive rfl
  · exact hdel hlive

/-- A removed tenant's flag is up after an update that puts it up. -/
theorem not_removedInactive_of_updateAt {db' : Database} {tenantId : String}
    (hremoved : RemovedTenant db.toTables tenantId)
    (hw : db'.tenants = updateWhere (fun t => t.id.val = tenantId) (fun t => { t with isActive := true })
      db.tenants) : ¬RemovedInactive db'.toTables := by
  obtain ⟨t, ht, hid, hdel⟩ := hremoved
  intro h
  have hmem : { t with isActive := true } ∈ db'.tenants := by
    rw [hw]
    exact mem_updateWhere.2 (.inr ⟨t, ht, decide_eq_true hid, rfl⟩)
  exact nomatch h _ hmem hdel

/-- And each of the two does, if it goes through. -/
theorem not_removedInactive_of_revives {r : Request} (hr : Revives db r) (hsame : step r db ≠ db) :
    ¬RemovedInactive (step r db).toTables := by
  cases r with
  | tenant env T r => exact hr.elim
  | platform env pr =>
    cases pr with
    | approve id =>
      obtain ⟨a, ha, ⟨hid, -⟩, -, hremoved⟩ := hr
      obtain ⟨user, hok⟩ := ((approve id).next_cases db).resolve_left hsame
      obtain ⟨a', ha', -, hw⟩ := approve_ok hok
      obtain rfl := ha'.role_of_id ha hid
      exact not_removedInactive_of_updateAt hremoved (congrArg Tables.tenants hw)
    | reactivate id =>
      obtain ⟨a, ha, ⟨hid, -⟩, -, hremoved⟩ := hr
      obtain ⟨user, hok⟩ := ((reactivate id).next_cases db).resolve_left hsame
      obtain ⟨a', ha', -, hw⟩ := reactivate_ok hok
      obtain rfl := ha'.role_of_id ha hid
      exact not_removedInactive_of_updateAt hremoved (congrArg Tables.tenants hw)
    | _ => exact hr.elim

/-- Removed once and for all. -/
theorem removedTenant_step (r : Request) (h : RemovedTenant db.toTables T) :
    RemovedTenant (step r db).toTables T := by
  obtain ⟨t, ht, hid, hdel⟩ := h
  obtain ⟨t', ht', hid', hstep⟩ := (step_tenants r db).exists_next ht
  refine ⟨t', ht', (congrArg Cuid.val hid').trans hid, ?_⟩
  cases hstep with
  | remove => exact Option.some_ne_none _
  | _ => exact hdel

/-- A removed tenant that is not active is not open. -/
theorem not_open_of_removed (h : RemovedTenant db.toTables T) (hin : RemovedInactive db.toTables) :
    ¬OpenTenant db.toTables T := by
  rintro ⟨t, ht, hid, hactive⟩
  obtain ⟨o, ho, hoid, hdel⟩ := h
  obtain rfl := db.eq_of_id .tenant ht ho (hid.trans hoid.symm)
  rw [hin t ht hdel] at hactive
  cases hactive

/-- An operation that does not revive a removed tenant. -/
def Operation.KeepsRemoved (op : Operation) (w : World) : Prop :=
  match op with
  | .request _ r => ¬Revives w.db r
  | _ => True

instance (op : Operation) (w : World) : Decidable (op.KeepsRemoved w) := by
  unfold Operation.KeepsRemoved; split <;> infer_instance

/-- Removed tenants stay inactive until one is made active again. -/
theorem RemovedInactive.step {op : Operation} (h : RemovedInactive w.db.toTables)
    (hop : op.KeepsRemoved w) : RemovedInactive (World.step clients op w).db.toTables := by
  cases op with
  | request redisUp r => exact removedInactive_step h hop
  | _ => exact h

/-- The tenant is removed, and no removed tenant has its flag up. -/
structure Gone (clients : Clients) (tenantId : String) (w : World) : Prop where
  reachable : w.Reachable clients
  inactive : RemovedInactive w.db.toTables
  removed : RemovedTenant w.db.toTables tenantId

namespace Gone

/-- A tenant that is gone is shut. -/
theorem shut (h : Gone clients T w) : World.Shut clients T w :=
  World.shut_of_not_open h.reachable (not_open_of_removed h.removed h.inactive)

/-- It stays gone. -/
theorem step {op : Operation} (h : Gone clients T w) (hop : op.KeepsRemoved w) :
    Gone clients T (World.step clients op w) where
  reachable := h.reachable.next op
  inactive := h.inactive.step hop
  removed := by
    cases op with
    | request redisUp r => exact removedTenant_step r h.removed
    | _ => exact h.removed

/-- It is gone after its removal. -/
theorem of_remove (h : w.Reachable clients) (hin : RemovedInactive w.db.toTables) {up : Bool}
    {env : Env} (hok : (Tenants.remove env T).Accepted w.db) :
    Gone clients T (World.step clients (.request up (.platform env (.removeTenant T))) w) where
  reachable := h.next _
  inactive := removedInactive_step hin id
  removed := by
    obtain ⟨tenant, hok⟩ := Script.accepted_iff.1 hok
    obtain ⟨⟨t, ht, hid, -⟩, hw⟩ := Tenants.remove_ok hok
    refine ⟨{ t with deletedAt := some env.now, isActive := false }, ?_, hid,
      Option.some_ne_none env.now⟩
    change _ ∈ ((Tenants.remove env T).next w.db).tenants
    rw [congrArg Tables.tenants hw]
    exact mem_updateWhere.2 (.inr ⟨t, ht, decide_eq_true hid, rfl⟩)

end Gone

/-- A run that revives no tenant leaves the removed ones as they are. -/
theorem always_removedInactive {ops : List Operation}
    (hops : Along (World.step clients) Operation.KeepsRemoved ops World.init) :
    Always (World.step clients) (fun w => RemovedInactive w.db.toTables) ops World.init :=
  Always.of_steps (Q := fun w : World => RemovedInactive w.db.toTables)
    (fun _ _ h hop => h.step hop) (fun _ h => nomatch h) hops

/-- **A removed tenant stays shut** in every run that revives none: its flag is
down in every state, and once `tenants.remove` has gone through no account of it
passes a gate again.  A request that revives one, and goes through, puts the flag
of a removed tenant up. -/
theorem removed_tenant_stays_shut :
    (∀ ops, Along (World.step clients) Operation.KeepsRemoved ops World.init →
      Always (World.step clients) (fun w => RemovedInactive w.db.toTables) ops World.init ∧
      ∀ before up env T after,
        let op := Operation.request up (.platform env (.removeTenant T))
        let w := run (World.step clients) before World.init
        ops = before ++ op :: after → (Tenants.remove env T).Accepted w.db →
        Always (World.step clients) (World.Shut clients T) after (World.step clients op w)) ∧
    ∀ db r, Reachable db → Revives db r → step r db ≠ db →
      ¬RemovedInactive (step r db).toTables := by
  refine ⟨fun ops hops => ⟨always_removedInactive hops, ?_⟩,
    fun db r _ hr hsame => not_removedInactive_of_revives hr hsame⟩
  intro before up env T after op w hsplit hok
  rw [hsplit] at hops
  obtain ⟨hbefore, -, hafter⟩ := along_append.1 hops
  have hgone : Gone clients T (World.step clients op w) :=
    .of_remove ⟨before, rfl⟩ (always_removedInactive hbefore).last hok
  have halways : Always (World.step clients) (Gone clients T) after (World.step clients op w) :=
    Always.of_steps (fun _ _ h hop => h.step hop) hgone hafter
  exact halways.mono fun _ h => h.shut

/-- A company is removed, and its ADMIN logs in in vain. -/
theorem removed_tenant_stays_shut_login :
    let clients := Sample.clients []
    let before := [Sample.call (Sample.tenant "t"), Sample.platform 0 (.approve "t1")]
    let op := Sample.platform 9 (.removeTenant "t0")
    Always (World.step clients) (World.Shut clients "t0")
      [Sample.login "t" 9, Sample.platform 9 (.suspend "t1"), Sample.platform 9 (.reject "t1")]
      (World.step clients op (run (World.step clients) before World.init)) := by
  intro clients before op
  have hrun : Along (World.step clients) Operation.KeepsRemoved
      (before ++ op :: [Sample.login "t" 9, Sample.platform 9 (.suspend "t1"),
        Sample.platform 9 (.reject "t1")]) World.init := by decide
  exact (removed_tenant_stays_shut.1 _ hrun).2 before true _ "t0" _ rfl (by decide)

/-- Suspended and reactivated after the removal, the ADMIN of a removed company logs in. -/
theorem removed_tenant_reopened :
    (¬∀ db, Reachable db → RemovedInactive db.toTables) ∧
      ¬∀ clients w env up T ops, World.Reachable clients w → (Tenants.remove env T).Accepted w.db →
        Always (World.step clients) (World.Shut clients T) ops
          (World.step clients (.request up (.platform env (.removeTenant T))) w) := by
  let clients := Sample.clients []
  let op := Sample.platform 9 (.removeTenant "t0")
  let after := [Sample.platform 9 (.suspend "t1"), Sample.platform 9 (.reactivate "t1")]
  let env := Env.sample "x" 9
  let u : User :=
    { id := (Env.sample "t" 0).cuid 1, tenantId := "t0", branchId := none, name := "t", email := "t",
      password := "t", role := .admin, approvalStatus := .approved, isActive := true,
      deletedAt := none }
  obtain ⟨w, hw, hok, hactive, hu, hopen⟩ : ∃ w, World.Reachable clients w ∧
      (Tenants.remove env "t0").Accepted w.db ∧
      ¬RemovedInactive (run (World.step clients) after (World.step clients op w)).db.toTables ∧
      u ∈ (run (World.step clients) after (World.step clients op w)).db.users ∧
      InUse (run (World.step clients) after (World.step clients op w)).db.toTables u :=
    ⟨run (World.step clients)
        [Sample.call (Sample.tenant "t"), Sample.platform 0 (.approve "t1")] World.init,
      ⟨_, rfl⟩, by decide, by decide, by decide, by decide⟩
  constructor
  · intro h
    exact hactive (h _ (World.Reachable.db ((hw.next op).run after)))
  · intro h
    have hshut := (h clients w env true "t0" after hw hok).last
    obtain ⟨hlogin, -⟩ := hshut u hu rfl (by decide)
    exact hlogin env ⟨"t", "t"⟩ _ rfl
      (Auth.login_eq_ok.2 ⟨u, hu, rfl, rfl, fun _ => rfl, hopen, rfl⟩)

end NodeVms
