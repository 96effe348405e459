/-
# Removed rows and their branch

The users, vehicles and drivers of a branch are three relations of it with the
same columns.  `remove` of each service sets `deletedAt` and leaves the branch
of the row as it is; only the removal of the branch unlinks its rows.  So a
removed row has a branch exactly if it had one when it was removed and the
branch is still there.

`Relation.Lawful` lists what a request can do to a row of a relation, as far as
its branch is concerned; the three relations are shown to be lawful.
-/

import NodeVms.Access.Accounts
import NodeVms.Integrity.PrimaryBranch
import NodeVms.Integrity.Steps

namespace NodeVms

open Store

/-- The tenant and the user, if it is a `DELETE /users/:id`. -/
def Request.userRemoval? : Request → Option (String × String)
  | .tenant _ T (.users (.remove id _)) => some (T, id)
  | _ => none

/-- The tenant and the driver, if it is a `DELETE /drivers/:id`. -/
def Request.driverRemoval? : Request → Option (String × String)
  | .tenant _ T (.drivers (.remove id)) => some (T, id)
  | _ => none

namespace Branches

variable {α : Type} {db db' : Database} {r : NodeVms.Request} {T : String}

/-- A table whose rows may belong to a branch. -/
structure Relation (α : Type) where
  model : Model α
  tenantId : α → String
  branchId : α → Option String
  deletedAt : α → Option Time
  /-- The tenant and the id, if the request removes a row. -/
  removal? : NodeVms.Request → Option (String × String)

namespace Relation

def users : Relation User :=
  ⟨.user, User.tenantId, User.branchId, User.deletedAt, NodeVms.Request.userRemoval?⟩

def vehicles : Relation Vehicle :=
  ⟨.vehicle, Vehicle.tenantId, Vehicle.branchId, Vehicle.deletedAt,
    NodeVms.Request.vehicleRemoval?⟩

def drivers : Relation Driver :=
  ⟨.driver, Driver.tenantId, Driver.branchId, Driver.deletedAt, NodeVms.Request.driverRemoval?⟩

variable (rel : Relation α)

/-- No removed row of the tenant still has a branch. -/
def Unlinked (tenantId : String) (t : Tables) : Prop :=
  ∀ o ∈ rel.model.rows t, rel.tenantId o = tenantId → rel.deletedAt o ≠ none →
    rel.branchId o = none

/-- The request removes no row that has a branch. -/
def RemovesUnlinked (r : NodeVms.Request) (t : Tables) : Prop :=
  ∀ p ∈ rel.removal? r, ∀ o ∈ rel.model.rows t, (rel.model.id o).val = p.2 →
    rel.tenantId o = p.1 → rel.deletedAt o = none → rel.branchId o = none

instance (tenantId : String) (t : Tables) : Decidable (rel.Unlinked tenantId t) := by
  unfold Unlinked; infer_instance

instance (r : NodeVms.Request) (t : Tables) : Decidable (rel.RemovesUnlinked r t) := by
  unfold RemovesUnlinked; infer_instance

/-- What a request can do to a row. -/
inductive Step (r : NodeVms.Request) (o o' : α) : Prop
  | live (h : rel.deletedAt o' = none)
  | unlinked (h : rel.branchId o' = none)
  | kept (hT : rel.tenantId o' = rel.tenantId o) (hd : rel.deletedAt o' = rel.deletedAt o)
      (hb : rel.branchId o' = rel.branchId o)
  | removed (h : rel.removal? r = some (rel.tenantId o, (rel.model.id o).val))
      (hlive : rel.deletedAt o = none) (hb : rel.branchId o' = rel.branchId o)

/-- A row that stays as it is. -/
theorem Step.refl (o : α) : rel.Step r o o := .kept rfl rfl rfl

/-- Rows change as listed, and new ones are live or have no branch. -/
abbrev Descends (r : NodeVms.Request) (db db' : Database) : Prop :=
  rel.model.Descends (rel.Step r) (fun o => rel.deletedAt o = none ∨ rel.branchId o = none) db db'

/-- What the requests do to the rows of a relation of branches. -/
structure Lawful : Prop where
  /-- The branch of a row is a live one of its tenant. -/
  closed : ∀ t, TenantClosed t → ∀ o ∈ rel.model.rows t, ∀ k, rel.branchId o = some k →
    LiveBranch t (rel.tenantId o) k
  descends : ∀ r db, rel.Descends r db (step r db)
  /-- A removed row keeps its branch. -/
  removes : ∀ r db p, rel.removal? r = some p → step r db ≠ db →
    ∀ o ∈ rel.model.rows db.toTables, (rel.model.id o).val = p.2 →
      ∃ o' ∈ rel.model.rows (step r db).toTables, rel.tenantId o' = rel.tenantId o ∧
        rel.branchId o' = rel.branchId o ∧ rel.deletedAt o' ≠ none

namespace Lawful

variable {rel}

/-- If no row is removed with its branch, then no removed row has one. -/
theorem unlinked_step (hrel : rel.Lawful) (h : rel.Unlinked T db.toTables)
    (hr : rel.RemovesUnlinked r db.toTables) : rel.Unlinked T (step r db).toTables := by
  intro o' ho' hT hremoved
  rcases hrel.descends r db o' ho' with ⟨o, ho, -, hstep⟩ | ⟨-, hlive | hnone⟩
  · cases hstep with
    | live hlive => exact absurd hlive hremoved
    | unlinked hnone => exact hnone
    | kept hkeptT hkept hb =>
      have hold : rel.branchId o = none :=
        h o ho (hkeptT.symm.trans hT) fun hlive => hremoved (hkept.trans hlive)
      exact hb.trans hold
    | removed hreq hlive hb =>
      have hfree : rel.branchId o = none := hr _ hreq o ho rfl rfl hlive
      exact hb.trans hfree
  · exact absurd hlive hremoved
  · exact hnone

/-- A row that is removed with its branch still has it. -/
theorem exists_not_unlinked_step (hrel : rel.Lawful) (hr : ¬rel.RemovesUnlinked r db.toTables)
    (hne : step r db ≠ db) : ∃ T, ¬rel.Unlinked T (step r db).toTables := by
  simp only [RemovesUnlinked, not_forall] at hr
  obtain ⟨p, hp, o, ho, hid, -, -, hlinked⟩ := hr
  obtain ⟨o', ho', hT, hb, hremoved⟩ := hrel.removes r db p hp hne o ho hid
  refine ⟨rel.tenantId o, fun h => hlinked ?_⟩
  have hnone : rel.branchId o' = none := h o' ho' hT hremoved
  exact hb.symm.trans hnone

end Lawful

/-- The row with the id is removed and nothing else changes in it. -/
theorem exists_removed {k : String} {f : α → α}
    (h : rel.model.rows db'.toTables =
      updateWhere (fun o => (rel.model.id o).val = k) f (rel.model.rows db.toTables))
    (hf : ∀ o, rel.tenantId (f o) = rel.tenantId o ∧ rel.branchId (f o) = rel.branchId o ∧
      rel.deletedAt (f o) ≠ none) :
    ∀ o ∈ rel.model.rows db.toTables, (rel.model.id o).val = k →
      ∃ o' ∈ rel.model.rows db'.toTables, rel.tenantId o' = rel.tenantId o ∧
        rel.branchId o' = rel.branchId o ∧ rel.deletedAt o' ≠ none := by
  intro o ho hid
  have hmem : f o ∈ rel.model.rows db'.toTables := by
    rw [h]
    exact mem_updateWhere.2 (.inr ⟨o, ho, decide_eq_true hid, rfl⟩)
  exact ⟨f o, hmem, hf o⟩

/-- The removal of a branch unlinks rows; a new or updated branch leaves them alone. -/
theorem descends_branches {env : Env} (rb : Request)
    (hkept : ∀ t bs, rel.model.rows { t with branches := bs } = rel.model.rows t)
    (hremove : ∀ id branch db', (remove env T id).exec db = .ok (branch, db') →
      ∃ p f, rel.model.rows db'.toTables = updateWhere p f (rel.model.rows db.toTables) ∧
        ∀ o, rel.model.id (f o) = rel.model.id o ∧ rel.branchId (f o) = none) :
    rel.Descends (.tenant env T (.branches rb)) db (rb.next env T db) := by
  cases rb with
  | create dto =>
    refine next_descends (.refl rel) fun _ db' hok => ?_
    have hrows := congrArg rel.model.rows (create_ok hok).2.2
    exact descends_same (.refl rel) (hrows.trans (hkept _ _))
  | update id dto =>
    refine next_descends (.refl rel) fun _ db' hok => ?_
    obtain ⟨_, -, -, -, -, -, hw⟩ := update_ok hok
    have hrows := congrArg rel.model.rows hw
    exact descends_same (.refl rel) (hrows.trans (hkept _ _))
  | remove id =>
    refine next_descends (.refl rel) fun branch db' hok => ?_
    obtain ⟨p, f, hrows, hf⟩ := hremove id branch db' hok
    exact descends_update (.refl rel) hrows fun o _ _ => ⟨(hf o).1, .unlinked (hf o).2⟩

end Relation

/-! ### Users -/

/-- The platform removes nobody and links nobody. -/
theorem users_platform (pr : PlatformRequest) (env : Env) (db : Database) :
    Relation.users.Descends (.platform env pr) db (pr.next env db) := by
  intro u' hu'
  rcases (pr.branchKept env db).descends u' hu' with ⟨u, hu, hid, hbranch⟩ | ⟨hnew, hnone⟩
  · have hstep : UserStep (.platform env pr) u u' :=
      (pr.usersEvolve env db).of_id hu hu' hid.symm
    have hkept : u'.deletedAt = u.deletedAt := by
      cases hstep with
      | remove h => cases h
      | _ => rfl
    refine .inl ⟨u, hu, hid, ?_⟩
    rcases hbranch with hsame | hnone
    · exact .kept hstep.tenantId_eq hkept hsame
    · exact .unlinked hnone
  · exact .inr ⟨hnew, .inr hnone⟩

/-- Requests on users link a user to the branches they name. -/
theorem users_users (rq : Users.Request) (env : Env) (T : String) (db : Database) :
    Relation.users.Descends (.tenant env T (.users rq)) db (rq.next env T db) := by
  cases rq with
  | create dto =>
    refine next_descends (.refl _) fun user db' hok => ?_
    obtain ⟨-, -, hrow, hw⟩ := Users.create_ok hok
    have husers : db'.users = db.users ++ [user] := congrArg Tables.users hw
    have hlive : user.deletedAt = none := by rw [hrow]
    exact descends_insert (m := .user) (.refl _) husers (.inl hlive)
  | update id dto me =>
    refine next_descends (.refl _) fun _ db' hok => ?_
    obtain ⟨u, hu, rfl, -, hlive, -, -, -, t, ht, hw⟩ := Users.update_ok hok
    have husers : db'.users = t.users := by
      rcases hw with ⟨-, hw⟩ | ⟨_, -, hw⟩
      · rw [hw]
      · rw [hw]; rfl
    rcases ht with ⟨-, rfl⟩ | ⟨-, rfl⟩
    · exact descends_same (.refl _) husers
    · exact (evolves_updateAt (m := .user) (.refl _) hu husers (fun _ => rfl)
        (.live hlive)).descends
  | resetSubordinatePassword id newPassword requesterRole =>
    refine next_descends (.refl _) fun _ db' hok => ?_
    obtain ⟨u, -, -, -, -, -, hw⟩ := Users.resetSubordinatePassword_ok hok
    exact descends_update (m := .user) (.refl _) (congrArg Tables.users hw)
      fun _ _ _ => ⟨rfl, .kept rfl rfl rfl⟩
  | remove id me =>
    refine next_descends (.refl _) fun _ db' hok => ?_
    obtain ⟨u, hu, rfl, rfl, hlive, -, -, hw⟩ := Users.remove_ok hok
    exact (evolves_updateAt (m := .user) (.refl _) hu (congrArg Tables.users hw) (fun _ => rfl)
      (.removed rfl hlive rfl)).descends

/-- Requests on branches take a user out of a branch that is closed. -/
theorem users_branches (rb : Request) (env : Env) (T : String) (db : Database) :
    Relation.users.Descends (.tenant env T (.branches rb)) db (rb.next env T db) := by
  refine Relation.users.descends_branches rb (fun _ _ => rfl) fun id branch db' hok => ?_
  exact ⟨_, _, congrArg Tables.users (remove_ok hok).2, fun _ => ⟨rfl, rfl⟩⟩

/-- The primary branch of a user is such a relation. -/
theorem users_lawful : Relation.users.Lawful where
  closed t hc := hc.user_branch
  descends r db := by
    cases r with
    | platform env pr => exact users_platform pr env db
    | tenant env T rq =>
      cases rq with
      | users rq => exact users_users rq env T db
      | branches rb => exact users_branches rb env T db
      | _ =>
        refine descends_same (m := .user) (.refl _) (@step_same db _ .users ?_)
        simp [Request.writes, TenantRequest.writes]
  removes r db p hp hne := by
    cases r with
    | platform env pr => cases hp
    | tenant env T rq =>
      cases rq with
      | users rq =>
        cases rq with
        | remove id me =>
          obtain rfl := Option.some.inj hp
          obtain ⟨_, hok⟩ := ((Users.remove env T id me).next_cases db).resolve_left hne
          obtain ⟨u, -, -, -, -, -, -, hw⟩ := Users.remove_ok hok
          exact Relation.users.exists_removed (congrArg Tables.users hw)
            fun _ => ⟨rfl, rfl, Option.some_ne_none _⟩
        | _ => cases hp
      | _ => cases hp

/-! ### Vehicles -/

/-- So is the branch of a vehicle. -/
theorem vehicles_lawful : Relation.vehicles.Lawful where
  closed t hc := hc.vehicle_branch
  descends r db := by
    refine (step_vehicles r db).descends.mono (fun v v' hstep => ?_) fun v hnew => .inl hnew.live
    cases hstep with
    | same => exact .refl _ v
    | unbranch => exact .unlinked rfl
    | trip => exact .kept rfl rfl rfl
    | update hreq hlive fitness taxToken => exact .live hlive
    | remove hreq hlive => exact .removed (by rw [hreq]; rfl) hlive rfl
  removes r db p hp hne := by
    cases r with
    | platform env pr => cases hp
    | tenant env T rq =>
      cases rq with
      | vehicles rv =>
        cases rv with
        | remove id =>
          obtain rfl := Option.some.inj hp
          obtain ⟨_, hok⟩ := ((Vehicles.remove env T id).next_cases db).resolve_left hne
          exact Relation.vehicles.exists_removed (congrArg Tables.vehicles (Vehicles.remove_ok hok).2)
            fun _ => ⟨rfl, rfl, Option.some_ne_none _⟩
        | _ => cases hp
      | _ => cases hp

/-! ### Drivers -/

/-- Requests on drivers link a driver to the branch they name. -/
theorem drivers_drivers (rd : Drivers.Request) (env : Env) (T : String) (db : Database) :
    Relation.drivers.Descends (.tenant env T (.drivers rd)) db (rd.next env T db) := by
  cases rd with
  | create dto =>
    refine next_descends (.refl _) fun driver db' hok => ?_
    obtain ⟨-, -, hrow, hw⟩ := Drivers.create_ok hok
    have hlive : driver.deletedAt = none := by rw [hrow]
    exact descends_insert (m := .driver) (.refl _) (congrArg Tables.drivers hw) (.inl hlive)
  | update id dto =>
    refine next_descends (.refl _) fun _ db' hok => ?_
    obtain ⟨⟨d, hd, rfl, -, hlive⟩, -, hw⟩ := Drivers.update_ok hok
    exact (evolves_updateAt (m := .driver) (.refl _) hd (congrArg Tables.drivers hw)
      (fun _ => rfl) (.live hlive)).descends
  | remove id =>
    refine next_descends (.refl _) fun _ db' hok => ?_
    obtain ⟨⟨d, hd, rfl, rfl, hlive⟩, hw⟩ := Drivers.remove_ok hok
    exact (evolves_updateAt (m := .driver) (.refl _) hd (congrArg Tables.drivers hw)
      (fun _ => rfl) (.removed rfl hlive rfl)).descends

/-- Requests on branches take a driver out of a branch that is closed. -/
theorem drivers_branches (rb : Request) (env : Env) (T : String) (db : Database) :
    Relation.drivers.Descends (.tenant env T (.branches rb)) db (rb.next env T db) := by
  refine Relation.drivers.descends_branches rb (fun _ _ => rfl) fun id branch db' hok => ?_
  exact ⟨_, _, congrArg Tables.drivers (remove_ok hok).2, fun _ => ⟨rfl, rfl⟩⟩

/-- A trip takes its driver and lets it go. -/
theorem drivers_trips (rt : Trips.Request) (env : Env) (T : String) (db : Database) :
    Relation.drivers.Descends (.tenant env T (.trips rt)) db (rt.next env T db) := by
  refine next_descends (.refl _) fun trip db' hok => ?_
  cases rt with
  | startTrip vehicleId userId =>
    obtain ⟨_, -, -, -, -, -, -, hw⟩ := Trips.startTrip_ok hok
    exact descends_update (m := .driver) (.refl _) (congrArg Tables.drivers hw)
      fun _ _ _ => ⟨rfl, .kept rfl rfl rfl⟩
  | endTrip tripId userId dto userRole =>
    obtain ⟨_, -, -, -, -, -, -, hw⟩ := Trips.endTrip_ok hok
    exact descends_update (m := .driver) (.refl _) (congrArg Tables.drivers hw)
      fun _ _ _ => ⟨rfl, .kept rfl rfl rfl⟩
  | updateTrip tripId dto =>
    obtain ⟨_, -, -, -, -, hw⟩ := Trips.updateTrip_ok hok
    exact descends_same (m := .driver) (.refl _) ((congrArg Tables.drivers hw).trans rfl)

/-- So is the branch of a driver. -/
theorem drivers_lawful : Relation.drivers.Lawful where
  closed t hc := hc.driver_branch
  descends r db := by
    by_cases hw : Table.drivers ∈ r.writes
    · cases r with
      | platform env pr => simp [Request.writes] at hw
      | tenant env T rq =>
        cases rq with
        | drivers rd => exact drivers_drivers rd env T db
        | branches rb => exact drivers_branches rb env T db
        | trips rt => exact drivers_trips rt env T db
        | _ => simp [Request.writes, TenantRequest.writes] at hw
    · exact descends_same (m := .driver) (.refl _) (@step_same db r .drivers hw)
  removes r db p hp hne := by
    cases r with
    | platform env pr => cases hp
    | tenant env T rq =>
      cases rq with
      | drivers rd =>
        cases rd with
        | remove id =>
          obtain rfl := Option.some.inj hp
          obtain ⟨_, hok⟩ := ((Drivers.remove env T id).next_cases db).resolve_left hne
          exact Relation.drivers.exists_removed (congrArg Tables.drivers (Drivers.remove_ok hok).2)
            fun _ => ⟨rfl, rfl, Option.some_ne_none _⟩
        | _ => cases hp
      | _ => cases hp

/-! ### All three -/

/-- No removed user, vehicle or driver of the tenant still has a branch. -/
structure RemovedUnlinked (tenantId : String) (t : Tables) : Prop where
  users : Relation.users.Unlinked tenantId t
  vehicles : Relation.vehicles.Unlinked tenantId t
  drivers : Relation.drivers.Unlinked tenantId t

/-- The request removes no user, vehicle or driver that has a branch. -/
structure RemovesUnlinked (r : NodeVms.Request) (db : Database) : Prop where
  users : Relation.users.RemovesUnlinked r db.toTables
  vehicles : Relation.vehicles.RemovesUnlinked r db.toTables
  drivers : Relation.drivers.RemovesUnlinked r db.toTables

instance (tenantId : String) (t : Tables) : Decidable (RemovedUnlinked tenantId t) :=
  decidable_of_iff (Relation.users.Unlinked tenantId t ∧ Relation.vehicles.Unlinked tenantId t ∧
    Relation.drivers.Unlinked tenantId t)
    ⟨fun ⟨hu, hv, hd⟩ => ⟨hu, hv, hd⟩, fun h => ⟨h.users, h.vehicles, h.drivers⟩⟩

instance (r : NodeVms.Request) (db : Database) : Decidable (RemovesUnlinked r db) :=
  decidable_of_iff (Relation.users.RemovesUnlinked r db.toTables ∧
    Relation.vehicles.RemovesUnlinked r db.toTables ∧
    Relation.drivers.RemovesUnlinked r db.toTables)
    ⟨fun ⟨hu, hv, hd⟩ => ⟨hu, hv, hd⟩, fun h => ⟨h.users, h.vehicles, h.drivers⟩⟩

/-- Nothing has been removed at the start. -/
theorem removedUnlinked_empty (tenantId : String) :
    RemovedUnlinked tenantId Database.empty.toTables where
  users _ h := nomatch h
  vehicles _ h := nomatch h
  drivers _ h := nomatch h

/-- A request keeps removed records out of the branches, if it removes none in one. -/
theorem removedUnlinked_step (h : RemovedUnlinked T db.toTables) (hr : RemovesUnlinked r db) :
    RemovedUnlinked T (step r db).toTables where
  users := users_lawful.unlinked_step h.users hr.users
  vehicles := vehicles_lawful.unlinked_step h.vehicles hr.vehicles
  drivers := drivers_lawful.unlinked_step h.drivers hr.drivers

/-- A request against the law is rejected, or a removed row has a branch afterwards. -/
theorem exists_not_removedUnlinked_step (hr : ¬RemovesUnlinked r db) (hne : step r db ≠ db) :
    ∃ T, ¬RemovedUnlinked T (step r db).toTables := by
  by_cases hu : Relation.users.RemovesUnlinked r db.toTables
  · by_cases hv : Relation.vehicles.RemovesUnlinked r db.toTables
    · have hd : ¬Relation.drivers.RemovesUnlinked r db.toTables := fun hd => hr ⟨hu, hv, hd⟩
      obtain ⟨T, hT⟩ := drivers_lawful.exists_not_unlinked_step hd hne
      exact ⟨T, fun h => hT h.drivers⟩
    · obtain ⟨T, hT⟩ := vehicles_lawful.exists_not_unlinked_step hv hne
      exact ⟨T, fun h => hT h.vehicles⟩
  · obtain ⟨T, hT⟩ := users_lawful.exists_not_unlinked_step hu hne
    exact ⟨T, fun h => hT h.users⟩

end Branches
end NodeVms
