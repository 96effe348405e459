/-
# The database without its locations

`saveLocation` adds to the location history, which only the offline job reads, and all
the job writes are alerts; alerts are read by the jobs that raise them.
`Database.hideLocations` takes both tables away.  No statement on the other tables is
admitted or rejected on their account (`blind_put`), and a location is, as long as its id
is new.
-/

import NodeVms.Frames
import NodeVms.Store.Hiding

namespace NodeVms

open Store Script Prisma

/-! ### The database without locations and alerts -/

namespace Tables

/-- The tables without locations and alerts. -/
def hideLocations (t : Tables) : Tables := { t with gpsLocations := [], alerts := [] }

/-- What the constraints on the two tables look at is as it was. -/
structure KeepsLocations (t t' : Tables) : Prop where
  gpsLocations : t'.gpsLocations = t.gpsLocations
  alerts : t'.alerts = t.alerts
  tenants : ∀ k ∈ t.tenants.map (·.id.val), k ∈ t'.tenants.map (·.id.val)
  vehicles : ∀ k ∈ t.vehicles.map (·.id.val), k ∈ t'.vehicles.map (·.id.val)

variable {t t' : Tables}

/-- A unique index looks at other tables or at one of the two. -/
theorem values_hideLocations : ∀ ix ∈ Schema.uniqueIndexes,
    (∀ t : Tables, ix.values t.hideLocations = ix.values t) ∨
    (∀ t : Tables, ix.values t.hideLocations = []) ∧
      ∀ t t', KeepsLocations t t' → ix.values t' = ix.values t := by
  unfold Schema.uniqueIndexes
  simp only [List.forall_mem_cons, List.not_mem_nil, false_implies, implies_true, and_true]
  and_intros
  all_goals first
    | exact .inl fun _ => rfl
    | exact .inr ⟨fun _ => rfl, fun _ _ h => congrArg (List.map _) h.gpsLocations⟩
    | exact .inr ⟨fun _ => rfl, fun _ _ h => congrArg (List.map _) h.alerts⟩

/-- No foreign key refers to one of the two tables. -/
theorem keys_hideLocations : ∀ fk ∈ Schema.foreignKeys, ∀ t : Tables,
    fk.keys t.hideLocations = fk.keys t := by
  unfold Schema.foreignKeys
  simp only [List.forall_mem_cons, List.not_mem_nil, false_implies, implies_true, and_true]
  and_intros
  all_goals exact fun _ => rfl

/-- A foreign key is of another table or of one of the two. -/
theorem refs_hideLocations : ∀ fk ∈ Schema.foreignKeys,
    (∀ t : Tables, fk.refs t.hideLocations = fk.refs t) ∨
    (∀ t : Tables, fk.refs t.hideLocations = []) ∧
      ∀ t t', KeepsLocations t t' → fk.refs t' = fk.refs t ∧ ∀ k ∈ fk.keys t, k ∈ fk.keys t' := by
  unfold Schema.foreignKeys
  simp only [List.forall_mem_cons, List.not_mem_nil, false_implies, implies_true, and_true]
  and_intros
  all_goals first
    | exact .inl fun _ => rfl
    | exact .inr ⟨fun _ => rfl,
        fun _ _ h => ⟨congrArg (List.filterMap _) h.gpsLocations, h.tenants⟩⟩
    | exact .inr ⟨fun _ => rfl,
        fun _ _ h => ⟨congrArg (List.filterMap _) h.gpsLocations, h.vehicles⟩⟩
    | exact .inr ⟨fun _ => rfl, fun _ _ h => ⟨congrArg (List.filterMap _) h.alerts, h.tenants⟩⟩

/-- Fewer rows break no index. -/
theorem Unique.hideLocations (h : t.Unique) : t.hideLocations.Unique := by
  intro ix hix
  rcases values_hideLocations ix hix with hsame | ⟨hnil, -⟩
  · rw [hsame]
    exact h ix hix
  · rw [hnil]
    exact .nil

/-- Nothing refers to a position or an alert. -/
theorem Resolved.hideLocations (h : t.Resolved) : t.hideLocations.Resolved := by
  intro fk hfk k hk
  rw [keys_hideLocations fk hfk]
  rcases refs_hideLocations fk hfk with hsame | ⟨hnil, -⟩
  · rw [hsame] at hk
    exact h fk hfk k hk
  · rw [hnil] at hk
    exact absurd hk List.not_mem_nil

/-- What the constraints admit with the two tables out of sight, they admit. -/
theorem Unique.of_hideLocations (h : t.Unique) (hkeep : KeepsLocations t t')
    (h' : t'.hideLocations.Unique) : t'.Unique := by
  intro ix hix
  rcases values_hideLocations ix hix with hsame | ⟨-, hold⟩
  · rw [← hsame]
    exact h' ix hix
  · rw [hold t t' hkeep]
    exact h ix hix

/-- The positions and alerts that come back refer to rows that are still there. -/
theorem Resolved.of_hideLocations (h : t.Resolved) (hkeep : KeepsLocations t t')
    (h' : t'.hideLocations.Resolved) : t'.Resolved := by
  intro fk hfk k hk
  rcases refs_hideLocations fk hfk with hsame | ⟨-, hold⟩
  · rw [← hsame] at hk
    rw [← keys_hideLocations fk hfk]
    exact h' fk hfk k hk
  · obtain ⟨hrefs, hkeys⟩ := hold t t' hkeep
    rw [hrefs] at hk
    exact hkeys k (h fk hfk k hk)

end Tables

/-- The database without them. -/
def Database.hideLocations (db : Database) : Database :=
  ⟨db.toTables.hideLocations, db.unique.hideLocations, db.resolved.hideLocations⟩

/-! ### Statements on the other tables -/

/-- A statement that does not look at the two tables and keeps the rows they refer to. -/
structure Elsewhere (f : Tables → Tables) : Prop where
  hide : ∀ t : Tables, f t.hideLocations = (f t).hideLocations
  keeps : ∀ t, Tables.KeepsLocations t (f t)

/-- A model other than the two. -/
class Model.Visible {α : Type} (m : Model α) : Prop where
  rows_hide : ∀ t : Tables, m.rows t.hideLocations = m.rows t
  set_hide : ∀ (t : Tables) l, m.set t.hideLocations l = (m.set t l).hideLocations
  keeps : ∀ t l, (∀ k ∈ (m.rows t).map fun r => (m.id r).val, k ∈ l.map fun r => (m.id r).val) →
    Tables.KeepsLocations t (m.set t l)

/-- It suffices that the two tables and those they refer to are the same. -/
theorem Tables.KeepsLocations.of_eq {t t' : Tables} (hgps : t'.gpsLocations = t.gpsLocations)
    (halerts : t'.alerts = t.alerts) (htenants : t'.tenants = t.tenants)
    (hvehicles : t'.vehicles = t.vehicles) : KeepsLocations t t' :=
  ⟨hgps, halerts, fun _ hk => htenants ▸ hk, fun _ hk => hvehicles ▸ hk⟩

namespace Model.Visible

instance : tenant.Visible :=
  ⟨fun _ => rfl, fun _ _ => rfl, fun _ _ h => ⟨rfl, rfl, h, fun _ hk => hk⟩⟩
instance : vehicle.Visible :=
  ⟨fun _ => rfl, fun _ _ => rfl, fun _ _ h => ⟨rfl, rfl, fun _ hk => hk, h⟩⟩
instance : branch.Visible :=
  ⟨fun _ => rfl, fun _ _ => rfl, fun _ _ _ => .of_eq rfl rfl rfl rfl⟩
instance : subscription.Visible :=
  ⟨fun _ => rfl, fun _ _ => rfl, fun _ _ _ => .of_eq rfl rfl rfl rfl⟩
instance : featureAccess.Visible :=
  ⟨fun _ => rfl, fun _ _ => rfl, fun _ _ _ => .of_eq rfl rfl rfl rfl⟩
instance : user.Visible :=
  ⟨fun _ => rfl, fun _ _ => rfl, fun _ _ _ => .of_eq rfl rfl rfl rfl⟩
instance : userBranch.Visible :=
  ⟨fun _ => rfl, fun _ _ => rfl, fun _ _ _ => .of_eq rfl rfl rfl rfl⟩
instance : driver.Visible :=
  ⟨fun _ => rfl, fun _ _ => rfl, fun _ _ _ => .of_eq rfl rfl rfl rfl⟩
instance : assignment.Visible :=
  ⟨fun _ => rfl, fun _ _ => rfl, fun _ _ _ => .of_eq rfl rfl rfl rfl⟩
instance : booking.Visible :=
  ⟨fun _ => rfl, fun _ _ => rfl, fun _ _ _ => .of_eq rfl rfl rfl rfl⟩
instance : contract.Visible :=
  ⟨fun _ => rfl, fun _ _ => rfl, fun _ _ _ => .of_eq rfl rfl rfl rfl⟩
instance : trip.Visible :=
  ⟨fun _ => rfl, fun _ _ => rfl, fun _ _ _ => .of_eq rfl rfl rfl rfl⟩
instance : fuelLog.Visible :=
  ⟨fun _ => rfl, fun _ _ => rfl, fun _ _ _ => .of_eq rfl rfl rfl rfl⟩
instance : maintenanceLog.Visible :=
  ⟨fun _ => rfl, fun _ _ => rfl, fun _ _ _ => .of_eq rfl rfl rfl rfl⟩
instance : maintenanceItem.Visible :=
  ⟨fun _ => rfl, fun _ _ => rfl, fun _ _ _ => .of_eq rfl rfl rfl rfl⟩
instance : document.Visible :=
  ⟨fun _ => rfl, fun _ _ => rfl, fun _ _ _ => .of_eq rfl rfl rfl rfl⟩
instance : expense.Visible :=
  ⟨fun _ => rfl, fun _ _ => rfl, fun _ _ _ => .of_eq rfl rfl rfl rfl⟩
instance : income.Visible :=
  ⟨fun _ => rfl, fun _ _ => rfl, fun _ _ _ => .of_eq rfl rfl rfl rfl⟩
instance : workshopJob.Visible :=
  ⟨fun _ => rfl, fun _ _ => rfl, fun _ _ _ => .of_eq rfl rfl rfl rfl⟩
instance : workshopItem.Visible :=
  ⟨fun _ => rfl, fun _ _ => rfl, fun _ _ _ => .of_eq rfl rfl rfl rfl⟩

end Model.Visible

section Statements

variable {α : Type} {m : Model α} [m.Visible]

/-- New rows of another table. -/
theorem elsewhere_insert (rs : List α) : Elsewhere (m.insert rs) where
  hide t := by
    unfold Model.insert
    rw [Model.Visible.rows_hide, Model.Visible.set_hide]
  keeps t := Model.Visible.keeps _ _ fun k hk => by
    rw [List.map_append]
    exact List.mem_append_left _ hk

/-- An update that leaves the ids alone. -/
theorem elsewhere_updateAll (p : α → Bool) {f : α → α} (hf : ∀ r, m.id (f r) = m.id r) :
    Elsewhere (m.updateAll p f) where
  hide t := by
    unfold Model.updateAll
    rw [Model.Visible.rows_hide, Model.Visible.set_hide]
  keeps t := Model.Visible.keeps _ _ fun k hk => by
    rwa [map_updateWhere (fun r => (m.id r).val) fun r _ _ => congrArg Cuid.val (hf r)]

/-- A changed row of another table. -/
theorem elsewhere_updateAt (id : String) {f : α → α} (hf : ∀ r, m.id (f r) = m.id r) :
    Elsewhere (m.updateAt id f) :=
  elsewhere_updateAll _ hf

/-- Memberships that are gone. -/
theorem elsewhere_delete_userBranch (p : UserBranch → Bool) :
    Elsewhere (Model.userBranch.delete p) :=
  ⟨fun _ => rfl, fun _ => .of_eq rfl rfl rfl rfl⟩

/-- The database admits the statement with the two tables in sight or out of it. -/
theorem blind_put {f : Tables → Tables} (hf : Elsewhere f) :
    (put f).Blind Database.hideLocations := by
  intro db
  have hunique : (f db.hideLocations.toTables).Unique ↔ (f db.toTables).Unique := by
    change (f db.toTables.hideLocations).Unique ↔ _
    rw [hf.hide]
    exact ⟨db.unique.of_hideLocations (hf.keeps _), Tables.Unique.hideLocations⟩
  have hresolved : (f db.hideLocations.toTables).Resolved ↔ (f db.toTables).Resolved := by
    change (f db.toTables.hideLocations).Resolved ↔ _
    rw [hf.hide]
    exact ⟨db.resolved.of_hideLocations (hf.keeps _), Tables.Resolved.hideLocations⟩
  unfold put Tx.run
  beta_reduce
  by_cases hu : (f db.toTables).Unique
  · by_cases hr : (f db.toTables).Resolved
    · rw [dif_pos (hunique.2 hu), dif_pos (hresolved.2 hr), dif_pos hu, dif_pos hr]
      exact congrArg (fun db => Except.ok ((), db)) (Database.ext (hf.hide db.toTables))
    · rw [dif_pos (hunique.2 hu), dif_neg (mt hresolved.1 hr), dif_pos hu, dif_neg hr]
      rfl
  · rw [dif_neg (mt hunique.1 hu), dif_neg hu]
    rfl

/-- A row is read back from another table. -/
theorem blind_fetch (id : String) : (fetch m id).Blind Database.hideLocations := by
  intro db
  have hrows : m.rows db.hideLocations.toTables = m.rows db.toTables :=
    Model.Visible.rows_hide db.toTables
  unfold fetch Tx.run
  beta_reduce
  rw [hrows]
  cases (m.rows db.toTables).find? fun r => (m.id r).val = id <;> rfl

/-- A new row of another table is written without a look at the two. -/
theorem blind_create (r : α) : (create m r).Blind Database.hideLocations :=
  (blind_put (elsewhere_insert [r])).bind fun _ => .pure r

/-- So are several. -/
theorem blind_createMany (rs : List α) : (createMany m rs).Blind Database.hideLocations :=
  blind_put (elsewhere_insert rs)

/-- So is a changed row. -/
theorem blind_update (id : String) {f : α → α} (hf : ∀ r, m.id (f r) = m.id r) :
    (update m id f).Blind Database.hideLocations :=
  (blind_put (elsewhere_updateAt id hf)).bind fun _ => blind_fetch id

/-- So are several. -/
theorem blind_updateMany (p : α → Bool) {f : α → α} (hf : ∀ r, m.id (f r) = m.id r) :
    (updateMany m p f).Blind Database.hideLocations :=
  blind_put (elsewhere_updateAll p hf)

/-- So is the loss of memberships. -/
theorem blind_deleteMany_userBranch (p : UserBranch → Bool) :
    (deleteMany .userBranch p).Blind Database.hideLocations :=
  blind_put (elsewhere_delete_userBranch p)

end Statements

/-! ### Which locations are saved -/

namespace Tracking

/-- No index looks at the positions but their own. -/
theorem values_gpsLocations : ∀ ix ∈ Schema.uniqueIndexes,
    (∀ (t : Tables) ls, ix.values { t with gpsLocations := ls } = ix.values t) ∨
      ∀ t : Tables, ix.values t = t.gpsLocations.map fun l => [l.id.val] := by
  unfold Schema.uniqueIndexes
  simp only [List.forall_mem_cons, List.not_mem_nil, false_implies, implies_true, and_true]
  and_intros
  all_goals first
    | exact .inl trivial
    | exact .inl fun _ _ => rfl
    | exact .inr fun _ => rfl

/-- No key but those of the positions is read from them. -/
theorem keys_gpsLocations : ∀ fk ∈ Schema.foreignKeys, ∀ (t : Tables) ls,
    fk.keys { t with gpsLocations := ls } = fk.keys t := by
  unfold Schema.foreignKeys
  simp only [List.forall_mem_cons, List.not_mem_nil, false_implies, implies_true, and_true]
  and_intros
  all_goals exact fun _ _ => rfl

/-- The tenant and the vehicle of the location are there. -/
structure Resolves (l : GpsLocation) (t : Tables) : Prop where
  tenant : l.tenantId ∈ t.tenants.map (·.id.val)
  vehicle : l.vehicleId ∈ t.vehicles.map (·.id.val)

/-- Nothing refers to a position. -/
theorem refs_gpsLocations : ∀ fk ∈ Schema.foreignKeys,
    (∀ (t : Tables) ls, fk.refs { t with gpsLocations := ls } = fk.refs t) ∨
    ∃ col : GpsLocation → String, (∀ t : Tables, fk.refs t = t.gpsLocations.filterMap (some <| col ·)) ∧
      ∀ l t, Resolves l t → col l ∈ fk.keys t := by
  unfold Schema.foreignKeys
  simp only [List.forall_mem_cons, List.not_mem_nil, false_implies, implies_true, and_true]
  and_intros
  all_goals first
    | exact .inl fun _ _ => rfl
    | exact .inr ⟨_, fun _ => rfl, fun _ _ h => h.tenant⟩
    | exact .inr ⟨_, fun _ => rfl, fun _ _ h => h.vehicle⟩

/-- A location with a new id can be inserted if its tenant and its vehicle are there. -/
theorem exists_database {db : Database} {l : GpsLocation} (hid : ∀ o ∈ db.gpsLocations, o.id ≠ l.id)
    (hl : Resolves l db.toTables) :
    ∃ db' : Database, db'.toTables = { db.toTables with gpsLocations := db.gpsLocations ++ [l] } := by
  refine ⟨⟨_, fun ix hix => ?_, fun fk hfk k hk => ?_⟩, rfl⟩
  · have hold := db.unique ix hix
    rcases values_gpsLocations ix hix with hsame | hids
    · rwa [hsame]
    · rw [hids] at hold ⊢
      change ((db.gpsLocations ++ [l]).map fun l => [l.id.val]).Nodup
      rw [List.map_append, List.map_singleton, ← List.concat_eq_append, List.nodup_concat]
      refine ⟨fun hmem => ?_, hold⟩
      obtain ⟨o, ho, hol⟩ := List.mem_map.1 hmem
      exact hid o ho (Cuid.val_injective (List.cons.inj hol).1)
  · rw [keys_gpsLocations fk hfk]
    rcases refs_gpsLocations fk hfk with hsame | ⟨col, hrefs, hcol⟩
    · rw [hsame] at hk
      exact db.resolved fk hfk k hk
    · rw [hrefs] at hk
      obtain ⟨o, ho, hok⟩ := List.mem_filterMap.1 hk
      obtain rfl := Option.some.inj hok
      rcases List.mem_append.1 ho with ho | ho
      · refine db.resolved fk hfk _ ?_
        rw [hrefs]
        exact List.mem_filterMap.2 ⟨o, ho, rfl⟩
      · rw [List.mem_singleton.1 ho]
        exact hcol l _ hl

/-- A location of a live vehicle is saved, unless the vehicle has just sent one. -/
theorem saveLocation_accepted {env : Env} {T : String} {db : Database} {dto : SaveLocationDto}
    (hid : ∀ l ∈ db.gpsLocations, l.id ≠ env.cuid 0)
    (hv : LiveVehicle db.toTables T dto.vehicleId) :
    ∃ location db', (saveLocation env T false dto).exec db = .ok (location, db') := by
  obtain ⟨v, hmem, hvid, hvT, hlive⟩ := hv
  obtain ⟨tenant, htenant, htid⟩ := db.exists_of_fkey Schema.vehicle_tenantId_fkey hmem rfl
  let l : GpsLocation :=
    { id := env.cuid 0, tenantId := T, vehicleId := dto.vehicleId, lat := dto.lat, lng := dto.lng,
      speed := dto.speed.nullish.getD 0, timestamp := env.now }
  have hl : Resolves l db.toTables :=
    ⟨List.mem_map.2 ⟨tenant, htenant, htid.trans hvT⟩, List.mem_map.2 ⟨v, hmem, hvid⟩⟩
  obtain ⟨db', hw⟩ := exists_database (l := l) hid hl
  refine ⟨l, db', ?_⟩
  simp [saveLocation]
  exact ⟨⟨v, hmem, hvid, hvT, hlive⟩, rfl, hw⟩

end Tracking

end NodeVms
