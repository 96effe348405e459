/-
# Nothing is lost

The services never delete a row of theirs but mark it as removed; the one
exception are branch memberships, which are replaced as a whole.  `Archive`
is a table under this regime: a row keeps its id and its tenant for ever, and
once it is removed nothing of it changes any more, `deletedAt` included, apart
from the columns `loose` names.  These are the ones other services write without
asking whether the row is removed: the end of a trip and the end of a branch reach
removed vehicles and drivers, a decided application reaches a removed tenant.

Money and measurements are kept more strictly: the logs with their items, the
documents, the expenses and the positions are only ever written at the end of
their table (`Model.Extends`).
-/

import NodeVms.Frames
import NodeVms.Store.History

namespace NodeVms

open Store

variable {α β : Type} {db db' : Database} {env : Env} {T : String}

/-- A table whose rows are marked as removed and never deleted. -/
structure Archive (α : Type) where
  model : Model α
  /-- The column `tenantId`; an assignment has none. -/
  tenantId : α → Option String
  deletedAt : α → Option Time
  /-- The second row, with the columns that may change on a removed row from the first. -/
  loose : α → α → α
  loose_self : ∀ a, loose a a = a
  loose_loose : ∀ c b a, loose c (loose b a) = loose c a
  deletedAt_loose : ∀ b a, deletedAt (loose b a) = deletedAt a

namespace Archive

/-- A row and a later version of it. -/
structure Kept (a : Archive α) (o o' : α) : Prop where
  id : a.model.id o' = a.model.id o
  tenantId : a.tenantId o' = a.tenantId o
  frozen : a.deletedAt o ≠ none → o' = a.loose o' o

variable {a : Archive α}

/-- A record that is not touched is kept. -/
theorem Kept.refl (o : α) : a.Kept o o where
  id := rfl
  tenantId := rfl
  frozen _ := (a.loose_self o).symm

/-- A removed row keeps the time of its removal. -/
theorem Kept.deletedAt_eq {o o' : α} (h : a.Kept o o') (ho : a.deletedAt o ≠ none) :
    a.deletedAt o' = a.deletedAt o := by
  rw [h.frozen ho, a.deletedAt_loose]

/-- What is kept twice is kept. -/
theorem Kept.trans {o o' o'' : α} (h : a.Kept o o') (h' : a.Kept o' o'') : a.Kept o o'' where
  id := h'.id.trans h.id
  tenantId := h'.tenantId.trans h.tenantId
  frozen ho := by
    have ho' : a.deletedAt o' ≠ none := by rwa [h.deletedAt_eq ho]
    calc o'' = a.loose o'' o' := h'.frozen ho'
      _ = a.loose o'' (a.loose o' o) := by rw [← h.frozen ho]
      _ = a.loose o'' o := a.loose_loose o'' o' o

/-- From one state to another every row is kept, in its place. -/
def Keeps (a : Archive α) (t t' : Tables) : Prop :=
  Grows a.Kept (a.model.rows t) (a.model.rows t')

/-- A table that is not touched keeps its records. -/
theorem Keeps.refl (t : Tables) : a.Keeps t t := Grows.refl Kept.refl _

/-- What two steps keep, both together keep. -/
theorem Keeps.trans {t t' t'' : Tables} (h : a.Keeps t t') (h' : a.Keeps t' t'') : a.Keeps t t'' :=
  Grows.trans (fun _ _ _ => Kept.trans) h h'

/-- A request that does not write the table keeps its records. -/
theorem keeps_same (h : a.model.rows db'.toTables = a.model.rows db.toTables) :
    a.Keeps db.toTables db'.toTables := by
  rw [Keeps, h]
  exact Grows.refl Kept.refl _

/-- New rows come after the old ones. -/
theorem keeps_insert {new : List α}
    (h : a.model.rows db'.toTables = a.model.rows db.toTables ++ new) :
    a.Keeps db.toTables db'.toTables := by
  rw [Keeps, h]
  exact grows_append Kept.refl _ new

/-- An update that leaves id and tenant alone, and of a removed row no more than is loose. -/
theorem keeps_update {p : α → Bool} {f : α → α}
    (h : a.model.rows db'.toTables = updateWhere p f (a.model.rows db.toTables))
    (hf : ∀ o, a.model.id (f o) = a.model.id o ∧ a.tenantId (f o) = a.tenantId o)
    (hloose : ∀ o ∈ a.model.rows db.toTables, p o → a.deletedAt o ≠ none → f o = a.loose (f o) o) :
    a.Keeps db.toTables db'.toTables := by
  rw [Keeps, h]
  refine grows_updateWhere Kept.refl fun o ho hp => ?_
  exact ⟨(hf o).1, (hf o).2, hloose o ho hp⟩

/-- An update by the id of a live row. -/
theorem keeps_updateAt [a.model.Keyed] {id : String} {f : α → α}
    (h : a.model.rows db'.toTables =
      updateWhere (fun o => (a.model.id o).val = id) f (a.model.rows db.toTables))
    (hf : ∀ o, a.model.id (f o) = a.model.id o ∧ a.tenantId (f o) = a.tenantId o)
    (hlive : ∃ o ∈ a.model.rows db.toTables, (a.model.id o).val = id ∧ a.deletedAt o = none) :
    a.Keeps db.toTables db'.toTables := by
  refine keeps_update h hf fun o ho hp hremoved => ?_
  obtain ⟨r, hr, hid, hr'⟩ := hlive
  obtain rfl := db.eq_of_id a.model hr ho (hid.trans (of_decide_eq_true hp).symm)
  exact absurd hr' hremoved

/-- A rejected request keeps everything. -/
theorem next_keeps {h : Query (Transaction β)}
    (hok : ∀ b db', h.exec db = .ok (b, db') → a.Keeps db.toTables db'.toTables) :
    a.Keeps db.toTables (h.next db).toTables :=
  next_frame Keeps.refl hok

/-- What every request keeps, a run keeps. -/
theorem run_keeps (h : ∀ r db, a.Keeps db.toTables (step r db).toTables) (rs : List Request)
    (db : Database) : a.Keeps db.toTables (run step rs db).toTables :=
  Along.related (E := fun db db' : Database => a.Keeps db.toTables db'.toTables)
    (fun db => Keeps.refl db.toTables) (fun _ _ _ h h' => h.trans h') (.of_forall h rs db)

/-! ### The tables -/

/-- A table whose removed rows do not change at all. -/
def strict (model : Model α) (tenantId : α → Option String) (deletedAt : α → Option Time) :
    Archive α where
  model
  tenantId
  deletedAt
  loose _ o := o
  loose_self _ := rfl
  loose_loose _ _ _ := rfl
  deletedAt_loose _ _ := rfl

def tenant : Archive Tenant where
  model := .tenant
  tenantId t := some t.id
  deletedAt := Tenant.deletedAt
  loose t' t := { t with isActive := t'.isActive }
  loose_self _ := rfl
  loose_loose _ _ _ := rfl
  deletedAt_loose _ _ := rfl

def branch : Archive Branch := strict .branch (some ·.tenantId) Branch.deletedAt

def subscription : Archive Subscription :=
  strict .subscription (some ·.tenantId) Subscription.deletedAt

def featureAccess : Archive FeatureAccess :=
  strict .featureAccess (some ·.tenantId) FeatureAccess.deletedAt

def user : Archive User where
  model := .user
  tenantId u := some u.tenantId
  deletedAt := User.deletedAt
  loose u' u := { u with branchId := u'.branchId }
  loose_self _ := rfl
  loose_loose _ _ _ := rfl
  deletedAt_loose _ _ := rfl

def vehicle : Archive Vehicle where
  model := .vehicle
  tenantId v := some v.tenantId
  deletedAt := Vehicle.deletedAt
  loose v' v := { v with branchId := v'.branchId, status := v'.status }
  loose_self _ := rfl
  loose_loose _ _ _ := rfl
  deletedAt_loose _ _ := rfl

def driver : Archive Driver where
  model := .driver
  tenantId d := some d.tenantId
  deletedAt := Driver.deletedAt
  loose d' d := { d with branchId := d'.branchId, isAvailable := d'.isAvailable }
  loose_self _ := rfl
  loose_loose _ _ _ := rfl
  deletedAt_loose _ _ := rfl

def assignment : Archive Assignment := strict .assignment (fun _ => none) Assignment.deletedAt

def booking : Archive Booking := strict .booking (some ·.tenantId) Booking.deletedAt

def contract : Archive Contract := strict .contract (some ·.tenantId) Contract.deletedAt

def trip : Archive Trip := strict .trip (some ·.tenantId) Trip.deletedAt

def income : Archive NodeVms.Income := strict .income (some ·.tenantId) NodeVms.Income.deletedAt

def workshopJob : Archive WorkshopJob := strict .workshopJob (some ·.tenantId) WorkshopJob.deletedAt

def alert : Archive Alert := strict .alert (some ·.tenantId) Alert.deletedAt

instance : tenant.model.Keyed := inferInstanceAs Model.tenant.Keyed
instance : branch.model.Keyed := inferInstanceAs Model.branch.Keyed
instance : subscription.model.Keyed := inferInstanceAs Model.subscription.Keyed
instance : featureAccess.model.Keyed := inferInstanceAs Model.featureAccess.Keyed
instance : user.model.Keyed := inferInstanceAs Model.user.Keyed
instance : vehicle.model.Keyed := inferInstanceAs Model.vehicle.Keyed
instance : driver.model.Keyed := inferInstanceAs Model.driver.Keyed
instance : assignment.model.Keyed := inferInstanceAs Model.assignment.Keyed
instance : booking.model.Keyed := inferInstanceAs Model.booking.Keyed
instance : contract.model.Keyed := inferInstanceAs Model.contract.Keyed
instance : trip.model.Keyed := inferInstanceAs Model.trip.Keyed
instance : income.model.Keyed := inferInstanceAs Model.income.Keyed
instance : workshopJob.model.Keyed := inferInstanceAs Model.workshopJob.Keyed
instance : alert.model.Keyed := inferInstanceAs Model.alert.Keyed

/-! ### The requests -/

/-- Tenants are updated and removed by the platform. -/
theorem tenant_keeps (r : Request) (db : Database) :
    tenant.Keeps db.toTables (step r db).toTables := by
  by_cases hw : Table.tenants ∈ r.writes
  · cases r with
    | tenant env T rq => cases rq <;> simp [Request.writes, TenantRequest.writes] at hw
    | platform env pr =>
      have hsame : Table.tenants ∉ pr.writes →
          tenant.Keeps db.toTables (step (.platform env pr) db).toTables :=
        fun h => keeps_same (pr.same env h)
      -- a decided application does not ask whether the tenant has been removed
      have hdecided : ∀ {db' : Database} {id : String} {isActive : Bool},
          db'.tenants = updateWhere (fun t => t.id.val = id) (fun t => { t with isActive })
            db.tenants → tenant.Keeps db.toTables db'.toTables :=
        fun h => keeps_update h (fun _ => ⟨rfl, rfl⟩) fun _ _ _ _ => rfl
      cases pr with
      | registerTenant dto =>
        refine next_keeps fun _ db' h => ?_
        exact keeps_insert (congrArg Tables.tenants (Auth.registerTenant_ok h).2)
      | seedSuperAdmin dto =>
        refine next_keeps fun _ db' h => ?_
        obtain ⟨-, -, -, hw⟩ := Auth.seedSuperAdmin_ok h
        exact keeps_insert (congrArg Tables.tenants hw)
      | approve id =>
        refine next_keeps fun _ db' h => ?_
        obtain ⟨_, -, -, hw⟩ := AdminApplications.approve_ok h
        exact hdecided (congrArg Tables.tenants hw)
      | suspend id =>
        refine next_keeps fun _ db' h => ?_
        obtain ⟨_, -, -, hw⟩ := AdminApplications.suspend_ok h
        exact hdecided (congrArg Tables.tenants hw)
      | reactivate id =>
        refine next_keeps fun _ db' h => ?_
        obtain ⟨_, -, -, hw⟩ := AdminApplications.reactivate_ok h
        exact hdecided (congrArg Tables.tenants hw)
      | updateTenant id dto =>
        refine next_keeps fun _ db' h => ?_
        obtain ⟨hlive, hw⟩ := Tenants.update_ok h
        exact keeps_updateAt (congrArg Tables.tenants hw) (fun _ => ⟨rfl, rfl⟩) hlive
      | removeTenant id =>
        refine next_keeps fun _ db' h => ?_
        obtain ⟨hlive, hw⟩ := Tenants.remove_ok h
        exact keeps_updateAt (congrArg Tables.tenants hw) (fun _ => ⟨rfl, rfl⟩) hlive
      | _ => exact hsame (by simp [PlatformRequest.writes])
  · exact keeps_same (@step_same db r .tenants hw)

/-- A branch is updated, and removed when it is closed. -/
theorem branch_keeps (r : Request) (db : Database) :
    branch.Keeps db.toTables (step r db).toTables := by
  by_cases hw : Table.branches ∈ r.writes
  · cases r with
    | platform env pr => simp [Request.writes] at hw
    | tenant env T rq =>
      cases rq with
      | branches rq =>
        cases rq with
        | create dto =>
          refine next_keeps fun _ db' h => ?_
          exact keeps_insert (congrArg Tables.branches (Branches.create_ok h).2.2)
        | update id dto =>
          refine next_keeps fun _ db' h => ?_
          obtain ⟨b, hb, hid, -, hlive, -, hw⟩ := Branches.update_ok h
          exact keeps_updateAt (congrArg Tables.branches hw) (fun _ => ⟨rfl, rfl⟩)
            ⟨b, hb, hid, hlive⟩
        | remove id =>
          refine next_keeps fun _ db' h => ?_
          obtain ⟨⟨b, hb, hid, -, hlive⟩, hw⟩ := Branches.remove_ok h
          exact keeps_updateAt (congrArg Tables.branches hw) (fun _ => ⟨rfl, rfl⟩)
            ⟨b, hb, hid, hlive⟩
      | _ => simp [Request.writes, TenantRequest.writes] at hw
  · exact keeps_same (@step_same db r .branches hw)

/-- Subscriptions are never removed. -/
theorem subscription_keeps (r : Request) (db : Database) :
    subscription.Keeps db.toTables (step r db).toTables := by
  by_cases hw : Table.subscriptions ∈ r.writes
  · cases r with
    | tenant env T rq => cases rq <;> simp [Request.writes, TenantRequest.writes] at hw
    | platform env pr =>
      have hsame : Table.subscriptions ∉ pr.writes →
          subscription.Keeps db.toTables (step (.platform env pr) db).toTables :=
        fun h => keeps_same (pr.same env h)
      cases pr with
      | createSubscription dto =>
        refine next_keeps fun _ db' h => ?_
        exact keeps_insert (congrArg Tables.subscriptions (Subscriptions.create_ok h).2)
      | updateSubscription id dto =>
        refine next_keeps fun _ db' h => ?_
        have hlive := Subscriptions.update_live h
        exact keeps_updateAt (congrArg Tables.subscriptions (Subscriptions.update_ok h))
          (fun _ => ⟨rfl, rfl⟩) hlive
      | _ => exact hsame (by simp [PlatformRequest.writes])
  · exact keeps_same (@step_same db r .subscriptions hw)

/-- A switch writes the row of its module or adds one. -/
theorem featureAccess_keeps (r : Request) (db : Database) :
    featureAccess.Keeps db.toTables (step r db).toTables := by
  have hset : ∀ {env : Env} {T moduleName : String} {isEnabled : Bool},
      featureAccess.Keeps db.toTables
        ((FeatureAccesses.setEnabled env T moduleName isEnabled).next db).toTables := by
    refine next_keeps fun _ db' h => ?_
    rcases FeatureAccesses.setEnabled_ok h with ⟨f, hf, -, -, hlive, hw⟩ | ⟨-, -, hw⟩
    · exact keeps_updateAt (congrArg Tables.featureAccesses hw) (fun _ => ⟨rfl, rfl⟩)
        ⟨f, hf, rfl, hlive⟩
    · exact keeps_insert (congrArg Tables.featureAccesses hw)
  by_cases hw : Table.featureAccesses ∈ r.writes
  · cases r with
    | tenant env T rq => cases rq <;> simp [Request.writes, TenantRequest.writes] at hw
    | platform env pr =>
      have hsame : Table.featureAccesses ∉ pr.writes →
          featureAccess.Keeps db.toTables (step (.platform env pr) db).toTables :=
        fun h => keeps_same (pr.same env h)
      cases pr with
      | enableFeature tenantId moduleName => exact hset
      | disableFeature tenantId moduleName => exact hset
      | _ => exact hsame (by simp [PlatformRequest.writes])
  · exact keeps_same (@step_same db r .featureAccesses hw)

/-- An update of the account of a live ADMIN. -/
theorem user_keeps_of_admin {id : String} {f : User → User} {u : User}
    (hu : AdminApplications.LiveAdmin db.toTables id u)
    (h : db'.users = updateWhere (fun o => o.id.val = id) f db.users)
    (hf : ∀ o, (f o).id = o.id ∧ some (f o).tenantId = some o.tenantId) :
    user.Keeps db.toTables db'.toTables :=
  keeps_updateAt h hf ⟨u, hu.1, hu.2.1, hu.2.2.2⟩

/-- The platform writes the status and the password of admins and the profiles. -/
theorem user_keeps_of_platform (pr : PlatformRequest) (env : Env) (db : Database) :
    user.Keeps db.toTables (pr.next env db).toTables := by
  have hsame : Table.users ∉ pr.writes → user.Keeps db.toTables (pr.next env db).toTables :=
    fun h => keeps_same (pr.same env h)
  cases pr with
  | registerTenant dto =>
    refine next_keeps fun _ db' h => ?_
    exact keeps_insert (congrArg Tables.users (Auth.registerTenant_ok h).2)
  | seedSuperAdmin dto =>
    refine next_keeps fun _ db' h => ?_
    obtain ⟨-, -, -, hw⟩ := Auth.seedSuperAdmin_ok h
    exact keeps_insert (congrArg Tables.users hw)
  | approve id =>
    refine next_keeps fun _ db' h => ?_
    obtain ⟨u, hu, -, hw⟩ := AdminApplications.approve_ok h
    exact user_keeps_of_admin hu (congrArg Tables.users hw) fun _ => ⟨rfl, rfl⟩
  | reject id =>
    refine next_keeps fun _ db' h => ?_
    obtain ⟨u, hu, -, hw⟩ := AdminApplications.reject_ok h
    exact user_keeps_of_admin hu (congrArg Tables.users hw) fun _ => ⟨rfl, rfl⟩
  | suspend id =>
    refine next_keeps fun _ db' h => ?_
    obtain ⟨u, hu, -, hw⟩ := AdminApplications.suspend_ok h
    exact user_keeps_of_admin hu (congrArg Tables.users hw) fun _ => ⟨rfl, rfl⟩
  | reactivate id =>
    refine next_keeps fun _ db' h => ?_
    obtain ⟨u, hu, -, hw⟩ := AdminApplications.reactivate_ok h
    exact user_keeps_of_admin hu (congrArg Tables.users hw) fun _ => ⟨rfl, rfl⟩
  | resetAdminPassword id newPassword =>
    refine next_keeps fun _ db' h => ?_
    obtain ⟨⟨u, hu⟩, hw⟩ := AdminApplications.resetAdminPassword_ok h
    exact user_keeps_of_admin hu (congrArg Tables.users hw) fun _ => ⟨rfl, rfl⟩
  | changePassword id dto =>
    refine next_keeps fun _ db' h => ?_
    obtain ⟨u, hu, hid, hlive, -, -, hw⟩ := Profile.changePassword_ok h
    exact keeps_updateAt (congrArg Tables.users hw) (fun _ => ⟨rfl, rfl⟩) ⟨u, hu, hid, hlive⟩
  | changeName id name =>
    refine next_keeps fun _ db' h => ?_
    obtain ⟨hlive, hw⟩ := Profile.changeName_ok h
    exact keeps_updateAt (congrArg Tables.users hw) (fun _ => ⟨rfl, rfl⟩) hlive
  | _ => exact hsame (by simp [PlatformRequest.writes])

/-- The users, under the requests of the tenants as well. -/
theorem user_keeps (r : Request) (db : Database) :
    user.Keeps db.toTables (step r db).toTables := by
  by_cases hw : Table.users ∈ r.writes
  · cases r with
    | platform env pr => exact user_keeps_of_platform pr env db
    | tenant env T rq =>
      cases rq with
      | users rq =>
        cases rq with
        | create dto =>
          refine next_keeps fun _ db' h => ?_
          obtain ⟨-, -, -, hw⟩ := Users.create_ok h
          exact keeps_insert (congrArg Tables.users hw)
        | update id dto currentUser =>
          refine next_keeps fun _ db' h => ?_
          obtain ⟨u, hu, hid, -, hlive, -, -, -, t, ht, hw⟩ := Users.update_ok h
          have husers : db'.users = t.users := by
            rcases hw with ⟨-, hw⟩ | ⟨_, -, hw⟩
            · rw [hw]
            · rw [hw]; rfl
          rcases ht with ⟨-, ht⟩ | ⟨-, ht⟩
          · exact keeps_same (husers.trans (congrArg Tables.users ht))
          · exact keeps_updateAt (husers.trans (congrArg Tables.users ht)) (fun _ => ⟨rfl, rfl⟩)
              ⟨u, hu, hid, hlive⟩
        | resetSubordinatePassword id newPassword requesterRole =>
          refine next_keeps fun _ db' h => ?_
          obtain ⟨u, hu, hid, -, hlive, -, hw⟩ := Users.resetSubordinatePassword_ok h
          exact keeps_updateAt (congrArg Tables.users hw) (fun _ => ⟨rfl, rfl⟩) ⟨u, hu, hid, hlive⟩
        | remove id currentUser =>
          refine next_keeps fun _ db' h => ?_
          obtain ⟨u, hu, hid, -, hlive, -, -, hw⟩ := Users.remove_ok h
          exact keeps_updateAt (congrArg Tables.users hw) (fun _ => ⟨rfl, rfl⟩) ⟨u, hu, hid, hlive⟩
      | branches rq =>
        cases rq with
        | create dto =>
          refine next_keeps fun _ db' h => ?_
          exact keeps_same (by rw [(Branches.create_ok h).2.2]; rfl)
        | update id dto =>
          refine next_keeps fun _ db' h => ?_
          obtain ⟨_, -, -, -, -, -, hw⟩ := Branches.update_ok h
          exact keeps_same (by rw [hw]; rfl)
        | remove id =>
          refine next_keeps fun _ db' h => ?_
          obtain ⟨-, hw⟩ := Branches.remove_ok h
          exact keeps_update (congrArg Tables.users hw) (fun _ => ⟨rfl, rfl⟩) fun _ _ _ _ => rfl
      | _ => simp [Request.writes, TenantRequest.writes] at hw
  · exact keeps_same (@step_same db r .users hw)

/-- Vehicles change by their updates, by trips and by the closing of a branch. -/
theorem vehicle_keeps (r : Request) (db : Database) :
    vehicle.Keeps db.toTables (step r db).toTables := by
  by_cases hw : Table.vehicles ∈ r.writes
  · cases r with
    | platform env pr => simp [Request.writes] at hw
    | tenant env T rq =>
      cases rq with
      | vehicles rq =>
        cases rq with
        | create dto =>
          refine next_keeps fun _ db' h => ?_
          obtain ⟨-, _, _, -, -, -, ⟨-, hw⟩ | ⟨-, _, _, _, -, -, -, -, hw⟩⟩ := Vehicles.create_ok h
          all_goals exact keeps_insert (congrArg Tables.vehicles hw)
        | update id dto =>
          refine next_keeps fun _ db' h => ?_
          obtain ⟨⟨v, hv, hid, -, hlive⟩, -, _, _, hw⟩ := Vehicles.update_ok h
          exact keeps_updateAt (congrArg Tables.vehicles hw) (fun _ => ⟨rfl, rfl⟩)
            ⟨v, hv, hid, hlive⟩
        | remove id =>
          refine next_keeps fun _ db' h => ?_
          obtain ⟨⟨v, hv, hid, -, hlive⟩, hw⟩ := Vehicles.remove_ok h
          exact keeps_updateAt (congrArg Tables.vehicles hw) (fun _ => ⟨rfl, rfl⟩)
            ⟨v, hv, hid, hlive⟩
      | contracts rq =>
        cases rq with
        | create dto =>
          refine next_keeps fun _ db' h => ?_
          obtain ⟨-, ⟨-, _, -, h⟩ | h⟩ := Contracts.create_ok h
          · obtain ⟨-, _, _, -, -, -, hw⟩ := Contracts.createWith_ok h
            exact keeps_insert (congrArg Tables.vehicles hw)
          · obtain ⟨-, _, _, -, -, -, hw⟩ := Contracts.createFor_ok h
            exact keeps_same (by rw [hw]; rfl)
        | update id dto =>
          refine next_keeps fun _ db' h => ?_
          obtain ⟨_, -, -, -, -, -, _, _, -, -, -, hw⟩ := Contracts.update_ok h
          exact keeps_same (by rw [hw]; rfl)
        | remove id =>
          refine next_keeps fun _ db' h => ?_
          exact keeps_same (by rw [(Contracts.remove_ok h).2]; rfl)
      | branches rq =>
        cases rq with
        | create dto =>
          refine next_keeps fun _ db' h => ?_
          exact keeps_same (by rw [(Branches.create_ok h).2.2]; rfl)
        | update id dto =>
          refine next_keeps fun _ db' h => ?_
          obtain ⟨_, -, -, -, -, -, hw⟩ := Branches.update_ok h
          exact keeps_same (by rw [hw]; rfl)
        | remove id =>
          refine next_keeps fun _ db' h => ?_
          obtain ⟨-, hw⟩ := Branches.remove_ok h
          exact keeps_update (congrArg Tables.vehicles hw) (fun _ => ⟨rfl, rfl⟩) fun _ _ _ _ => rfl
      | trips rq =>
        cases rq with
        | startTrip vehicleId userId =>
          refine next_keeps fun _ db' h => ?_
          obtain ⟨_, -, -, -, -, -, -, hw⟩ := Trips.startTrip_ok h
          exact keeps_update (congrArg Tables.vehicles hw) (fun _ => ⟨rfl, rfl⟩) fun _ _ _ _ => rfl
        | endTrip tripId userId dto userRole =>
          refine next_keeps fun _ db' h => ?_
          obtain ⟨_, -, -, -, -, -, -, hw⟩ := Trips.endTrip_ok h
          exact keeps_update (congrArg Tables.vehicles hw) (fun _ => ⟨rfl, rfl⟩) fun _ _ _ _ => rfl
        | updateTrip tripId dto =>
          refine next_keeps fun _ db' h => ?_
          obtain ⟨_, -, -, -, -, hw⟩ := Trips.updateTrip_ok h
          exact keeps_same (by rw [hw]; rfl)
      | _ => simp [Request.writes, TenantRequest.writes] at hw
  · exact keeps_same (@step_same db r .vehicles hw)

/-- Drivers change by their updates and by the closing of a branch. -/
theorem driver_keeps (r : Request) (db : Database) :
    driver.Keeps db.toTables (step r db).toTables := by
  by_cases hw : Table.drivers ∈ r.writes
  · cases r with
    | platform env pr => simp [Request.writes] at hw
    | tenant env T rq =>
      cases rq with
      | drivers rq =>
        cases rq with
        | create dto =>
          refine next_keeps fun _ db' h => ?_
          obtain ⟨-, -, -, hw⟩ := Drivers.create_ok h
          exact keeps_insert (congrArg Tables.drivers hw)
        | update id dto =>
          refine next_keeps fun _ db' h => ?_
          obtain ⟨⟨d, hd, hid, -, hlive⟩, -, hw⟩ := Drivers.update_ok h
          exact keeps_updateAt (congrArg Tables.drivers hw) (fun _ => ⟨rfl, rfl⟩)
            ⟨d, hd, hid, hlive⟩
        | remove id =>
          refine next_keeps fun _ db' h => ?_
          obtain ⟨⟨d, hd, hid, -, hlive⟩, hw⟩ := Drivers.remove_ok h
          exact keeps_updateAt (congrArg Tables.drivers hw) (fun _ => ⟨rfl, rfl⟩)
            ⟨d, hd, hid, hlive⟩
      | branches rq =>
        cases rq with
        | create dto =>
          refine next_keeps fun _ db' h => ?_
          exact keeps_same (by rw [(Branches.create_ok h).2.2]; rfl)
        | update id dto =>
          refine next_keeps fun _ db' h => ?_
          obtain ⟨_, -, -, -, -, -, hw⟩ := Branches.update_ok h
          exact keeps_same (by rw [hw]; rfl)
        | remove id =>
          refine next_keeps fun _ db' h => ?_
          obtain ⟨-, hw⟩ := Branches.remove_ok h
          exact keeps_update (congrArg Tables.drivers hw) (fun _ => ⟨rfl, rfl⟩) fun _ _ _ _ => rfl
      | trips rq =>
        cases rq with
        | startTrip vehicleId userId =>
          refine next_keeps fun _ db' h => ?_
          obtain ⟨_, -, -, -, -, -, -, hw⟩ := Trips.startTrip_ok h
          exact keeps_update (congrArg Tables.drivers hw) (fun _ => ⟨rfl, rfl⟩) fun _ _ _ _ => rfl
        | endTrip tripId userId dto userRole =>
          refine next_keeps fun _ db' h => ?_
          obtain ⟨_, -, -, -, -, -, -, hw⟩ := Trips.endTrip_ok h
          exact keeps_update (congrArg Tables.drivers hw) (fun _ => ⟨rfl, rfl⟩) fun _ _ _ _ => rfl
        | updateTrip tripId dto =>
          refine next_keeps fun _ db' h => ?_
          obtain ⟨_, -, -, -, -, hw⟩ := Trips.updateTrip_ok h
          exact keeps_same (by rw [hw]; rfl)
      | _ => simp [Request.writes, TenantRequest.writes] at hw
  · exact keeps_same (@step_same db r .drivers hw)

/-- Assignments are written by their own service only. -/
theorem assignment_keeps (r : Request) (db : Database) :
    assignment.Keeps db.toTables (step r db).toTables := by
  rcases step_assignments r db with hsame | ⟨env, T, ra, a, rfl, hok⟩
  · exact keeps_same hsame
  · cases ra with
    | create dto =>
      obtain ⟨_, _, -, -, -, -, -, -, -, -, hw⟩ := Assignments.create_ok hok
      exact keeps_insert (congrArg Tables.assignments hw)
    | update id dto =>
      obtain ⟨o, ⟨ho, hid, hlive, -⟩, -, -, _, _, -, -, -, hw⟩ := Assignments.update_ok hok
      exact keeps_updateAt (congrArg Tables.assignments hw) (fun _ => ⟨rfl, rfl⟩)
        ⟨o, ho, hid, hlive⟩
    | remove id =>
      obtain ⟨⟨o, ho, hid, hlive, -⟩, hw⟩ := Assignments.remove_ok hok
      exact keeps_updateAt (congrArg Tables.assignments hw) (fun _ => ⟨rfl, rfl⟩)
        ⟨o, ho, hid, hlive⟩

/-- So are bookings, which are never removed. -/
theorem booking_keeps (r : Request) (db : Database) :
    booking.Keeps db.toTables (step r db).toTables := by
  rcases step_bookings r db with hsame | ⟨env, T, rb, b, rfl, hok⟩
  · exact keeps_same hsame
  · cases rb with
    | create dto =>
      obtain ⟨_, _, -, -, -, -, -, -, hw⟩ := Bookings.create_ok hok
      exact keeps_insert (congrArg Tables.bookings hw)
    | confirm id =>
      obtain ⟨o, ho, hid, -, hlive, -, hw⟩ := Bookings.confirm_ok hok
      exact keeps_updateAt (congrArg Tables.bookings hw) (fun _ => ⟨rfl, rfl⟩) ⟨o, ho, hid, hlive⟩
    | cancel id =>
      obtain ⟨o, ho, hid, -, hlive, -, hw⟩ := Bookings.cancel_ok hok
      exact keeps_updateAt (congrArg Tables.bookings hw) (fun _ => ⟨rfl, rfl⟩) ⟨o, ho, hid, hlive⟩
    | assign id dto =>
      obtain ⟨o, ho, hid, -, hlive, -, -, -, -, hw⟩ := Bookings.assign_ok hok
      exact keeps_updateAt (congrArg Tables.bookings hw) (fun _ => ⟨rfl, rfl⟩) ⟨o, ho, hid, hlive⟩

/-- So are trips, which are never removed either. -/
theorem trip_keeps (r : Request) (db : Database) :
    trip.Keeps db.toTables (step r db).toTables := by
  rcases step_trips r db with hsame | ⟨env, T, rt, t, rfl, hok⟩
  · exact keeps_same hsame
  · cases rt with
    | startTrip vehicleId userId =>
      obtain ⟨_, -, -, -, -, -, -, hw⟩ := Trips.startTrip_ok hok
      exact keeps_insert (congrArg Tables.trips hw)
    | endTrip tripId userId dto userRole =>
      obtain ⟨o, ho, hid, -, hlive, -, -, hw⟩ := Trips.endTrip_ok hok
      exact keeps_updateAt (congrArg Tables.trips hw) (fun _ => ⟨rfl, rfl⟩) ⟨o, ho, hid, hlive⟩
    | updateTrip tripId dto =>
      obtain ⟨o, ho, hid, -, hlive, hw⟩ := Trips.updateTrip_ok hok
      exact keeps_updateAt (congrArg Tables.trips hw) (fun _ => ⟨rfl, rfl⟩) ⟨o, ho, hid, hlive⟩

/-- Contracts come with vehicles too. -/
theorem contract_keeps (r : Request) (db : Database) :
    contract.Keeps db.toTables (step r db).toTables := by
  by_cases hw : Table.contracts ∈ r.writes
  · cases r with
    | platform env pr => simp [Request.writes] at hw
    | tenant env T rq =>
      cases rq with
      | vehicles rq =>
        cases rq with
        | create dto =>
          refine next_keeps fun _ db' h => ?_
          obtain ⟨-, _, _, -, -, -, ⟨-, hw⟩ | ⟨-, _, _, _, -, -, -, -, hw⟩⟩ := Vehicles.create_ok h
          · exact keeps_same (by rw [hw]; rfl)
          · exact keeps_insert (congrArg Tables.contracts hw)
        | update id dto =>
          refine next_keeps fun _ db' h => ?_
          obtain ⟨-, -, _, _, hw⟩ := Vehicles.update_ok h
          exact keeps_same (by rw [hw]; rfl)
        | remove id =>
          refine next_keeps fun _ db' h => ?_
          exact keeps_same (by rw [(Vehicles.remove_ok h).2]; rfl)
      | contracts rq =>
        cases rq with
        | create dto =>
          refine next_keeps fun _ db' h => ?_
          obtain ⟨-, ⟨-, _, -, h⟩ | h⟩ := Contracts.create_ok h
          · obtain ⟨-, _, _, -, -, -, hw⟩ := Contracts.createWith_ok h
            exact keeps_insert (congrArg Tables.contracts hw)
          · obtain ⟨-, _, _, -, -, -, hw⟩ := Contracts.createFor_ok h
            exact keeps_insert (congrArg Tables.contracts hw)
        | update id dto =>
          refine next_keeps fun _ db' h => ?_
          obtain ⟨c, hc, hid, -, hlive, -, _, _, -, -, -, hw⟩ := Contracts.update_ok h
          exact keeps_updateAt (congrArg Tables.contracts hw) (fun _ => ⟨rfl, rfl⟩)
            ⟨c, hc, hid, hlive⟩
        | remove id =>
          refine next_keeps fun _ db' h => ?_
          obtain ⟨⟨c, hc, hid, -, hlive⟩, hw⟩ := Contracts.remove_ok h
          exact keeps_updateAt (congrArg Tables.contracts hw) (fun _ => ⟨rfl, rfl⟩)
            ⟨c, hc, hid, hlive⟩
      | _ => simp [Request.writes, TenantRequest.writes] at hw
  · exact keeps_same (@step_same db r .contracts hw)

/-- Incomes are written by their own service only. -/
theorem income_keeps (r : Request) (db : Database) :
    income.Keeps db.toTables (step r db).toTables := by
  by_cases hw : Table.incomes ∈ r.writes
  · cases r with
    | platform env pr => simp [Request.writes] at hw
    | tenant env T rq =>
      cases rq with
      | income rq =>
        cases rq with
        | create dto =>
          refine next_keeps fun _ db' h => ?_
          exact keeps_insert (congrArg Tables.incomes (Income.create_ok h).2)
        | update id dto =>
          refine next_keeps fun _ db' h => ?_
          obtain ⟨⟨i, hi, hid, -, hlive⟩, hw⟩ := Income.update_ok h
          exact keeps_updateAt (congrArg Tables.incomes hw) (fun _ => ⟨rfl, rfl⟩)
            ⟨i, hi, hid, hlive⟩
        | remove id =>
          refine next_keeps fun _ db' h => ?_
          obtain ⟨⟨i, hi, hid, -, hlive⟩, hw⟩ := Income.remove_ok h
          exact keeps_updateAt (congrArg Tables.incomes hw) (fun _ => ⟨rfl, rfl⟩)
            ⟨i, hi, hid, hlive⟩
      | _ => simp [Request.writes, TenantRequest.writes] at hw
  · exact keeps_same (@step_same db r .incomes hw)

/-- A job is changed by its items and its status. -/
theorem workshopJob_keeps (r : Request) (db : Database) :
    workshopJob.Keeps db.toTables (step r db).toTables := by
  by_cases hw : Table.workshopJobs ∈ r.writes
  · cases r with
    | platform env pr => simp [Request.writes] at hw
    | tenant env T rq =>
      cases rq with
      | workshop rq =>
        cases rq with
        | createJob dto =>
          refine next_keeps fun _ db' h => ?_
          exact keeps_insert (congrArg Tables.workshopJobs (Workshop.createJob_ok h).2.2)
        | addItem jobId dto =>
          refine next_keeps fun _ db' h => ?_
          obtain ⟨j, hj, hid, -, hlive, -, hw⟩ := Workshop.addItem_ok h
          exact keeps_updateAt (congrArg Tables.workshopJobs hw) (fun _ => ⟨rfl, rfl⟩)
            ⟨j, hj, hid, hlive⟩
        | updateStatus jobId status =>
          refine next_keeps fun _ db' h => ?_
          obtain ⟨⟨j, hj, hid, -, hlive⟩, hw⟩ := Workshop.updateStatus_ok h
          exact keeps_updateAt (congrArg Tables.workshopJobs hw) (fun _ => ⟨rfl, rfl⟩)
            ⟨j, hj, hid, hlive⟩
      | _ => simp [Request.writes, TenantRequest.writes] at hw
  · exact keeps_same (@step_same db r .workshopJobs hw)

/-- Only the status of an alert is ever changed. -/
theorem alert_keeps (r : Request) (db : Database) :
    alert.Keeps db.toTables (step r db).toTables := by
  have hstatus : ∀ {T id : String} {status : AlertStatus},
      alert.Keeps db.toTables ((Alerts.updateStatus T id status).next db).toTables := by
    refine next_keeps fun _ db' h => ?_
    obtain ⟨⟨a, ha, hid, -, hlive⟩, hw⟩ := Alerts.updateStatus_ok h
    exact keeps_updateAt (congrArg Tables.alerts hw) (fun _ => ⟨rfl, rfl⟩) ⟨a, ha, hid, hlive⟩
  by_cases hw : Table.alerts ∈ r.writes
  · cases r with
    | platform env pr =>
      have hsame : Table.alerts ∉ pr.writes →
          alert.Keeps db.toTables (step (.platform env pr) db).toTables :=
        fun h => keeps_same (pr.same env h)
      cases pr with
      | runOfflineDetection =>
        refine next_keeps fun _ db' h => ?_
        obtain ⟨_, hw⟩ := Jobs.runOfflineDetection_ok h
        exact keeps_insert (congrArg Tables.alerts hw)
      | _ => exact hsame (by simp [PlatformRequest.writes])
    | tenant env T rq =>
      cases rq with
      | alerts rq =>
        cases rq with
        | scan daysAhead =>
          refine next_keeps fun _ db' h => ?_
          obtain ⟨_, -, -, hw⟩ := Alerts.scan_ok h
          exact keeps_insert (congrArg Tables.alerts hw)
        | markRead alertId => exact hstatus
        | dismiss alertId => exact hstatus
      | _ => simp [Request.writes, TenantRequest.writes] at hw
  · exact keeps_same (@step_same db r .alerts hw)

end Archive

/-! ### Ledgers -/

/-- A table that is only written at its end. -/
def Model.Extends (m : Model α) (t t' : Tables) : Prop := m.rows t <+: m.rows t'

namespace Model

variable {m : Model α}

/-- A table that is not touched extends itself. -/
theorem Extends.refl (t : Tables) : m.Extends t t := List.prefix_rfl

/-- Two extensions are one. -/
theorem Extends.trans {t t' t'' : Tables} (h : m.Extends t t') (h' : m.Extends t' t'') :
    m.Extends t t'' :=
  List.IsPrefix.trans h h'

/-- A request that does not write the table extends it by nothing. -/
theorem extends_same {t t' : Tables} (h : m.rows t' = m.rows t) : m.Extends t t' :=
  ⟨[], by rw [List.append_nil, h]⟩

/-- New rows extend a table. -/
theorem extends_insert {t t' : Tables} {new : List α} (h : m.rows t' = m.rows t ++ new) :
    m.Extends t t' :=
  ⟨new, h.symm⟩

/-- It suffices that the accepted requests extend it. -/
theorem next_extends {h : Query (Transaction β)}
    (hok : ∀ b db', h.exec db = .ok (b, db') → m.Extends db.toTables db'.toTables) :
    m.Extends db.toTables (h.next db).toTables :=
  next_frame Extends.refl hok

/-- Fuel logs are only added. -/
theorem fuelLog_extends (r : Request) (db : Database) :
    fuelLog.Extends db.toTables (step r db).toTables := by
  by_cases hw : Table.fuelLogs ∈ r.writes
  · cases r with
    | platform env pr => simp [Request.writes] at hw
    | tenant env T rq =>
      cases rq with
      | fuel dto =>
        refine next_extends fun _ db' h => ?_
        obtain ⟨-, -, _, -, -, hw⟩ := Fuel.addLog_ok h
        exact extends_insert (congrArg Tables.fuelLogs hw)
      | _ => simp [Request.writes, TenantRequest.writes] at hw
  · exact extends_same (@step_same db r .fuelLogs hw)

/-- So are maintenance logs, with their items. -/
theorem maintenance_extends (r : Request) (db : Database) :
    maintenanceLog.Extends db.toTables (step r db).toTables ∧
      maintenanceItem.Extends db.toTables (step r db).toTables := by
  by_cases hw : Table.maintenanceLogs ∈ r.writes ∨ Table.maintenanceItems ∈ r.writes
  · cases r with
    | platform env pr => simp [Request.writes] at hw
    | tenant env T rq =>
      cases rq with
      | maintenance dto =>
        constructor
        all_goals
          refine next_extends fun _ db' h => ?_
          obtain ⟨-, _, _, -, -, -, hw⟩ := Maintenance.create_ok h
        · exact extends_insert (congrArg Tables.maintenanceLogs hw)
        · exact extends_insert (congrArg Tables.maintenanceItems hw)
      | _ => simp [Request.writes, TenantRequest.writes] at hw
  · obtain ⟨hl, hi⟩ := not_or.1 hw
    exact ⟨extends_same (@step_same db r .maintenanceLogs hl),
      extends_same (@step_same db r .maintenanceItems hi)⟩

/-- So are documents. -/
theorem document_extends (r : Request) (db : Database) :
    document.Extends db.toTables (step r db).toTables := by
  by_cases hw : Table.documents ∈ r.writes
  · cases r with
    | platform env pr => simp [Request.writes] at hw
    | tenant env T rq =>
      cases rq with
      | documents dto =>
        refine next_extends fun _ db' h => ?_
        obtain ⟨-, _, -, -, hw⟩ := Documents.create_ok h
        exact extends_insert (congrArg Tables.documents hw)
      | _ => simp [Request.writes, TenantRequest.writes] at hw
  · exact extends_same (@step_same db r .documents hw)

/-- So are expenses. -/
theorem expense_extends (r : Request) (db : Database) :
    expense.Extends db.toTables (step r db).toTables := by
  by_cases hw : Table.expenses ∈ r.writes
  · cases r with
    | platform env pr => simp [Request.writes] at hw
    | tenant env T rq =>
      cases rq with
      | expenses dto =>
        refine next_extends fun _ db' h => ?_
        exact extends_insert (congrArg Tables.expenses (Expenses.create_ok h).2)
      | _ => simp [Request.writes, TenantRequest.writes] at hw
  · exact extends_same (@step_same db r .expenses hw)

/-- So are positions. -/
theorem gpsLocation_extends (r : Request) (db : Database) :
    gpsLocation.Extends db.toTables (step r db).toTables := by
  by_cases hw : Table.gpsLocations ∈ r.writes
  · cases r with
    | platform env pr => simp [Request.writes] at hw
    | tenant env T rq =>
      cases rq with
      | tracking limited dto =>
        refine next_extends fun _ db' h => ?_
        obtain ⟨-, -, -, hw⟩ := Tracking.saveLocation_ok h
        exact extends_insert (congrArg Tables.gpsLocations hw)
      | _ => simp [Request.writes, TenantRequest.writes] at hw
  · exact extends_same (@step_same db r .gpsLocations hw)

/-- So are the items of a job. -/
theorem workshopItem_extends (r : Request) (db : Database) :
    workshopItem.Extends db.toTables (step r db).toTables := by
  by_cases hw : Table.workshopItems ∈ r.writes
  · cases r with
    | platform env pr => simp [Request.writes] at hw
    | tenant env T rq =>
      cases rq with
      | workshop rq =>
        cases rq with
        | createJob dto =>
          refine next_extends fun _ db' h => ?_
          exact extends_same (by rw [(Workshop.createJob_ok h).2.2]; rfl)
        | addItem jobId dto =>
          refine next_extends fun _ db' h => ?_
          obtain ⟨_, -, -, -, -, -, hw⟩ := Workshop.addItem_ok h
          exact extends_insert (congrArg Tables.workshopItems hw)
        | updateStatus jobId status =>
          refine next_extends fun _ db' h => ?_
          exact extends_same (by rw [(Workshop.updateStatus_ok h).2]; rfl)
      | _ => simp [Request.writes, TenantRequest.writes] at hw
  · exact extends_same (@step_same db r .workshopItems hw)

end Model

/-! ### Every table -/

namespace Table

/-- What is kept of a table from one state to a later one; of the memberships, nothing. -/
def Keeps (t t' : Tables) : Table → Prop
  | .tenants => Archive.tenant.Keeps t t'
  | .branches => Archive.branch.Keeps t t'
  | .subscriptions => Archive.subscription.Keeps t t'
  | .featureAccesses => Archive.featureAccess.Keeps t t'
  | .users => Archive.user.Keeps t t'
  | .userBranches => True
  | .vehicles => Archive.vehicle.Keeps t t'
  | .drivers => Archive.driver.Keeps t t'
  | .assignments => Archive.assignment.Keeps t t'
  | .bookings => Archive.booking.Keeps t t'
  | .contracts => Archive.contract.Keeps t t'
  | .trips => Archive.trip.Keeps t t'
  | .fuelLogs => Model.fuelLog.Extends t t'
  | .maintenanceLogs => Model.maintenanceLog.Extends t t'
  | .maintenanceItems => Model.maintenanceItem.Extends t t'
  | .documents => Model.document.Extends t t'
  | .expenses => Model.expense.Extends t t'
  | .incomes => Archive.income.Keeps t t'
  | .gpsLocations => Model.gpsLocation.Extends t t'
  | .workshopJobs => Archive.workshopJob.Keeps t t'
  | .workshopItems => Model.workshopItem.Extends t t'
  | .alerts => Archive.alert.Keeps t t'

/-- A state keeps what it has. -/
theorem keeps_refl (tbl : Table) (t : Tables) : tbl.Keeps t t := by
  cases tbl with
  | userBranches => trivial
  | fuelLogs | maintenanceLogs | maintenanceItems | documents | expenses | gpsLocations
  | workshopItems => exact Model.Extends.refl t
  | _ => exact Archive.Keeps.refl t

/-- What is kept in two steps is kept. -/
theorem Keeps.trans {tbl : Table} {t t' t'' : Tables} (h : tbl.Keeps t t')
    (h' : tbl.Keeps t' t'') : tbl.Keeps t t'' := by
  cases tbl with
  | userBranches => trivial
  | fuelLogs | maintenanceLogs | maintenanceItems | documents | expenses | gpsLocations
  | workshopItems => exact Model.Extends.trans h h'
  | _ => exact Archive.Keeps.trans h h'

/-- One request keeps every table. -/
theorem step_keeps (tbl : Table) (r : Request) (db : Database) :
    tbl.Keeps db.toTables (step r db).toTables := by
  cases tbl with
  | tenants => exact Archive.tenant_keeps r db
  | branches => exact Archive.branch_keeps r db
  | subscriptions => exact Archive.subscription_keeps r db
  | featureAccesses => exact Archive.featureAccess_keeps r db
  | users => exact Archive.user_keeps r db
  | userBranches => trivial
  | vehicles => exact Archive.vehicle_keeps r db
  | drivers => exact Archive.driver_keeps r db
  | assignments => exact Archive.assignment_keeps r db
  | bookings => exact Archive.booking_keeps r db
  | contracts => exact Archive.contract_keeps r db
  | trips => exact Archive.trip_keeps r db
  | fuelLogs => exact Model.fuelLog_extends r db
  | maintenanceLogs => exact (Model.maintenance_extends r db).1
  | maintenanceItems => exact (Model.maintenance_extends r db).2
  | documents => exact Model.document_extends r db
  | expenses => exact Model.expense_extends r db
  | incomes => exact Archive.income_keeps r db
  | gpsLocations => exact Model.gpsLocation_extends r db
  | workshopJobs => exact Archive.workshopJob_keeps r db
  | workshopItems => exact Model.workshopItem_extends r db
  | alerts => exact Archive.alert_keeps r db

end Table

/-- Over any run no row is lost in any table but the memberships: rows keep their
places, their ids and their tenants, removed rows are not changed in more than
their loose columns, and ledgers only grow at their end. -/
theorem nothing_is_lost (rs : List Request) (db : Database) (tbl : Table) :
    tbl.Keeps db.toTables (run step rs db).toTables :=
  Along.related (E := fun db db' : Database => tbl.Keeps db.toTables db'.toTables)
    (fun db => tbl.keeps_refl db.toTables) (fun _ _ _ h h' => h.trans h')
    (.of_forall (tbl.step_keeps) rs db)

end NodeVms
