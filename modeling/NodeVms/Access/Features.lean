/-
# Feature flags

A module is switched off for a tenant by a `FeatureAccess` row with `isEnabled` false;
without a row it is on.  The schema does not keep a second row out, and `FeatureGuard`
reads any row that matches, so what makes the flag a flag is that the service never
leaves two live rows for one tenant and module (`OneFlag`).

With it the table is a register: `feature_flag_history` says that the guard obeys the
last call for the tenant and module.
-/

import NodeVms.Access.Tokens
import NodeVms.Store.LastWrite

namespace NodeVms

open Store

variable {db db' : Database} {env : Env} {T m : String} {isEnabled : Bool}

/-! ### One flag for each tenant and module -/

namespace FeatureAccesses

/-- Two live flags of one tenant and module. -/
def Clash (f g : FeatureAccess) : Prop :=
  f.deletedAt = none ∧ g.deletedAt = none ∧ f.tenantId = g.tenantId ∧ f.moduleName = g.moduleName

/-- Which of two flags comes first does not matter. -/
theorem Clash.symm (f g : FeatureAccess) (h : Clash f g) : Clash g f :=
  ⟨h.2.1, h.1, h.2.2.1.symm, h.2.2.2.symm⟩

/-- No tenant has two live flags for one module. -/
def OneFlag (t : Tables) : Prop := Exclusive Clash t.featureAccesses

/-- The flag that is found is the only one. -/
theorem OneFlag.eq (h : OneFlag db.toTables) {f g : FeatureAccess} (hf : f ∈ db.featureAccesses)
    (hg : g ∈ db.featureAccesses) (hfT : isFlagOf T m f) (hgT : isFlagOf T m g) : f = g := by
  by_contra hne
  exact h f hf g hg hne
    ⟨hfT.2.2, hgT.2.2, hfT.1.trans hgT.1.symm, hfT.2.1.trans hgT.2.1.symm⟩

/-- A call creates no second flag. -/
theorem setEnabled_oneFlag {flag : FeatureAccess}
    (h : (setEnabled env T m isEnabled).exec db = .ok (flag, db')) (hx : OneFlag db.toTables) :
    OneFlag db'.toTables := by
  rcases setEnabled_ok h with ⟨f, hf, -, -, -, hw⟩ | ⟨hnone, rfl, hw⟩
  · exact exclusive_updateAt_of_imp (m := .featureAccess) Clash.symm hf rfl rfl hw hx fun _ h => h
  · refine (exclusive_insert (m := .featureAccess) Clash.symm hw).2 ⟨hx, ?_⟩
    rintro f hf ⟨hlive, -, hT, hm⟩
    exact hnone f hf hT hm hlive

end FeatureAccesses

/-! ### Calls -/

/-- A call of `enable` or `disable`. -/
structure Switch where
  env : Env
  tenantId : String
  moduleName : String
  isEnabled : Bool

/-- The request of the super admin behind it. -/
def Switch.request (s : Switch) : Request :=
  .platform s.env
    (if s.isEnabled then .enableFeature s.tenantId s.moduleName
      else .disableFeature s.tenantId s.moduleName)

/-- The request of a switch is the service's. -/
theorem Switch.step_request (s : Switch) (db : Database) :
    step s.request db =
      (FeatureAccesses.setEnabled s.env s.tenantId s.moduleName s.isEnabled).next db := by
  obtain ⟨env, T, m, isEnabled⟩ := s
  cases isEnabled <;> rfl

/-- A request that changes the flags is one of these calls. -/
theorem step_featureAccesses (r : Request) (db : Database) :
    (step r db).featureAccesses = db.featureAccesses ∨ ∃ s : Switch, r = s.request := by
  cases r with
  | platform env pr =>
    have hsame : Table.featureAccesses ∉ pr.writes →
        (step (.platform env pr) db).featureAccesses = db.featureAccesses := pr.same env
    cases pr with
    | enableFeature T m => exact .inr ⟨⟨env, T, m, true⟩, rfl⟩
    | disableFeature T m => exact .inr ⟨⟨env, T, m, false⟩, rfl⟩
    | _ => exact .inl (hsame (by simp [PlatformRequest.writes]))
  | tenant env T rt =>
    refine .inl (@step_same db _ .featureAccesses ?_)
    cases rt <;> simp [Request.writes, TenantRequest.writes]

namespace FeatureAccesses

/-- No request adds a second flag of a module. -/
theorem oneFlag_step (r : Request) (h : OneFlag db.toTables) : OneFlag (step r db).toTables := by
  rcases step_featureAccesses r db with hsame | ⟨s, rfl⟩
  · unfold OneFlag
    rwa [hsame]
  · rw [s.step_request]
    exact Script.next_induct (P := fun db => OneFlag db.toTables) h
      fun _ _ hok => setEnabled_oneFlag hok h

/-- A module of a tenant has one flag at most in every reachable state. -/
theorem oneFlag_of_reachable (h : Reachable db) : OneFlag db.toTables :=
  h.invariant (I := fun db => OneFlag db.toTables)
    (show OneFlag Database.empty.toTables from exclusive_nil) fun r _ _ => oneFlag_step r

/-! ### Which calls go through -/

/-- The constraints look at the ids of the flags and at their tenants. -/
theorem exists_database {fs : List FeatureAccess} (hid : (fs.map FeatureAccess.id).Nodup)
    (hT : ∀ f ∈ fs, HasTenant db.toTables f.tenantId) :
    ∃ db' : Database, db'.toTables = { db.toTables with featureAccesses := fs } := by
  have hu := db.unique
  have hr := db.resolved
  unfold Tables.Unique Schema.uniqueIndexes at hu
  unfold Tables.Resolved Schema.foreignKeys at hr
  simp only [List.forall_mem_cons, List.not_mem_nil, false_implies, implies_true, and_true]
    at hu hr
  refine ⟨⟨_, ?_, ?_⟩, rfl⟩
  · unfold Tables.Unique Schema.uniqueIndexes
    simp only [List.forall_mem_cons, List.not_mem_nil, false_implies, implies_true, and_true]
    refine ⟨hu.1, hu.2.1, hu.2.2.1, ?_, hu.2.2.2.2⟩
    have hval := hid.map (f := fun i : Cuid => [i.val]) fun i j h =>
      Cuid.val_injective (List.cons.inj h).1
    rwa [List.map_map] at hval
  · unfold Tables.Resolved Schema.foreignKeys
    simp only [List.forall_mem_cons, List.not_mem_nil, false_implies, implies_true, and_true]
    refine ⟨hr.1, hr.2.1, ?_, hr.2.2.2⟩
    intro k hk
    obtain ⟨f, hf, hfk⟩ := List.mem_filterMap.1 hk
    obtain ⟨t, ht, hid⟩ := hT f hf
    exact List.mem_map.2 ⟨t, ht, hid.trans (Option.some.inj hfk)⟩

/-- The tenant of a flag exists. -/
theorem hasTenant {f : FeatureAccess} (hf : f ∈ db.featureAccesses) :
    HasTenant db.toTables f.tenantId :=
  db.exists_of_fkey Schema.featureAccess_tenantId_fkey hf rfl

/-- A flag that is there can be switched. -/
theorem update_accepted {f : FeatureAccess} (hf : f ∈ db.featureAccesses) : ∃ flag db',
    (Prisma.update .featureAccess f.id fun f => { f with isEnabled }).run db = .ok (flag, db') := by
  let fs := updateWhere (fun r => r.id.val = f.id.val) (fun f => { f with isEnabled })
    db.featureAccesses
  have hids : (fs.map FeatureAccess.id).Nodup := by
    have hmap : fs.map FeatureAccess.id = db.featureAccesses.map FeatureAccess.id :=
      map_updateWhere FeatureAccess.id fun _ _ _ => rfl
    rw [hmap]
    exact db.nodup_id .featureAccess
  have htenants : ∀ f ∈ fs, HasTenant db.toTables f.tenantId :=
    forall_updateWhere (fun _ => hasTenant) fun _ _ _ h => h
  obtain ⟨db', hw⟩ := exists_database hids htenants
  have hmem : { f with isEnabled } ∈ db'.featureAccesses := by
    rw [hw]
    exact mem_updateWhere.2 (.inr ⟨f, hf, decide_eq_true rfl, rfl⟩)
  have hfind : (db'.featureAccesses.find? fun r => r.id.val = f.id.val) =
      some { f with isEnabled } :=
    (find?_key_eq_some (db'.nodup_key .featureAccess) fun _ => of_decide_eq_true).2
      ⟨hmem, decide_eq_true rfl⟩
  exact ⟨_, db', Prisma.run_update_eq_ok.2 ⟨hw, hfind⟩⟩

/-- A flag can be created for a tenant that is there, under a new id. -/
theorem create_accepted {f : FeatureAccess} (hT : HasTenant db.toTables f.tenantId)
    (hid : ∀ g ∈ db.featureAccesses, g.id ≠ f.id) :
    ∃ db', (Prisma.create .featureAccess f).run db = .ok (f, db') := by
  have hids : ((db.featureAccesses ++ [f]).map FeatureAccess.id).Nodup := by
    rw [List.map_append, List.map_singleton, ← List.concat_eq_append, List.nodup_concat]
    refine ⟨fun hf => ?_, db.nodup_id .featureAccess⟩
    obtain ⟨g, hg, hgf⟩ := List.mem_map.1 hf
    exact hid g hg hgf
  have htenants : ∀ g ∈ db.featureAccesses ++ [f], HasTenant db.toTables g.tenantId := by
    intro g hg
    rcases List.mem_append.1 hg with hg | hg
    · exact hasTenant hg
    · rwa [List.mem_singleton.1 hg]
  obtain ⟨db', hw⟩ := exists_database hids htenants
  exact ⟨db', Prisma.run_create_eq_ok.2 ⟨rfl, hw⟩⟩

/-- A call for a tenant that is there goes through. -/
theorem setEnabled_accepted (hT : HasTenant db.toTables T)
    (hid : ∀ f ∈ db.featureAccesses, f.id ≠ env.cuid 0) :
    ∃ flag db', (setEnabled env T m isEnabled).exec db = .ok (flag, db') := by
  unfold setEnabled
  simp only [Script.exec_bind_eq_ok]
  cases h : db.featureAccesses.find? (isFlagOf T m ·) with
  | some f =>
    obtain ⟨flag, db', hok⟩ := @update_accepted db isEnabled f (mem_of_find? h).1
    exact ⟨flag, db', some f, congrArg Except.ok h, hok⟩
  | none =>
    obtain ⟨db', hok⟩ := @create_accepted db
      { id := env.cuid 0, tenantId := T, moduleName := m, isEnabled, deletedAt := none } hT hid
    exact ⟨_, db', none, congrArg Except.ok h, hok⟩

/-! ### The table as a register -/

/-- What the table says of a module: nothing, on or off. -/
def flag (t : Tables) (k : String × String) : Option Bool :=
  (t.featureAccesses.find? (isFlagOf k.1 k.2 ·)).map FeatureAccess.isEnabled

/-- The flag of a module is that of its row. -/
theorem OneFlag.flag_eq_some (h : OneFlag db.toTables) : flag db.toTables (T, m) = some isEnabled ↔
    ∃ f ∈ db.featureAccesses, isFlagOf T m f ∧ f.isEnabled = isEnabled := by
  unfold flag
  rw [Option.map_eq_some_iff]
  constructor
  · rintro ⟨f, hfind, hf⟩
    obtain ⟨hmem, hT⟩ := mem_of_find? hfind
    exact ⟨f, hmem, of_decide_eq_true hT, hf⟩
  · rintro ⟨f, hmem, hT, hf⟩
    obtain ⟨g, hg⟩ : ∃ g, db.featureAccesses.find? (isFlagOf T m ·) = some g := by
      rw [← Option.isSome_iff_exists, List.find?_isSome]
      exact ⟨f, hmem, decide_eq_true hT⟩
    obtain ⟨hgmem, hgT⟩ := mem_of_find? hg
    obtain rfl := h.eq hgmem hmem (of_decide_eq_true hgT) hT
    exact ⟨g, hg, hf⟩

/-- The guard obeys the flag, whichever row its query picks. -/
theorem OneFlag.guard_eq_ok {pick : Pick FeatureAccess} {ctx : ExecutionContext} {p : JwtPayload}
    {x : Unit} (h : OneFlag db.toTables) (hpub : ¬ctx.Public) (hm : ctx.requiredFeature = some m) :
    (FeatureGuard.canActivate pick ctx (some p)).eval db = .ok x ↔
      p.role = .superAdmin ∨ flag db.toTables (p.tenantId, m) ≠ some false := by
  rw [FeatureGuard.canActivate_eq_ok hpub hm, Ne, h.flag_eq_some]
  refine or_congr_right ?_
  constructor
  · rintro hpick ⟨f, hmem, hT, hoff⟩
    have hchoose := pick.choose_eq_some (List.mem_filter.2 ⟨hmem, decide_eq_true hT⟩) fun g hg => by
      obtain ⟨hgmem, hgT⟩ := List.mem_filter.1 hg
      exact h.eq hgmem hmem (of_decide_eq_true hgT) hT
    have hon : f.isEnabled = true := hpick f hchoose
    rw [hon] at hoff
    cases hoff
  · intro hoff f hf
    obtain ⟨hmem, hT⟩ := List.mem_filter.1 (pick.mem hf)
    by_contra hon
    exact hoff ⟨f, hmem, of_decide_eq_true hT, Bool.eq_false_of_not_eq_true hon⟩

end FeatureAccesses

namespace Switch

open FeatureAccesses

/-- What the call switches. -/
def key (s : Switch) : String × String := (s.tenantId, s.moduleName)

/-- The id the database would give a new flag is new. -/
def Fresh (s : Switch) (db : Database) : Prop := ∀ f ∈ db.featureAccesses, f.id ≠ s.env.cuid 0

instance (s : Switch) (db : Database) : Decidable (s.Fresh db) := by unfold Fresh; infer_instance

/-- One call. -/
def next (s : Switch) : Database → Database := step s.request

/-- A switch adds no second flag either. -/
theorem next_oneFlag (s : Switch) (h : OneFlag db.toTables) : OneFlag (s.next db).toTables :=
  oneFlag_step s.request h

/-- It leaves the tenants as they are. -/
theorem next_tenants (s : Switch) (db : Database) : (s.next db).tenants = db.tenants := by
  have hsame : ∀ pr : PlatformRequest, Table.tenants ∉ pr.writes →
      (step (.platform s.env pr) db).tenants = db.tenants := fun pr => pr.same s.env
  unfold next request
  split
  · exact hsame _ (by simp [PlatformRequest.writes])
  · exact hsame _ (by simp [PlatformRequest.writes])

/-- A call leaves the flags of other modules and tenants as they are. -/
theorem flag_next_of_ne (s : Switch) (h : OneFlag db.toTables) (hk : s.key ≠ (T, m)) :
    flag (s.next db).toTables (T, m) = flag db.toTables (T, m) := by
  have hother : ∀ {f : FeatureAccess}, f.tenantId = s.tenantId → f.moduleName = s.moduleName →
      ¬isFlagOf T m f := fun hT hm hf =>
    hk (Prod.ext (hT.symm.trans hf.1) (hm.symm.trans hf.2.1))
  have hmem : ∀ f, isFlagOf T m f → (f ∈ (s.next db).featureAccesses ↔ f ∈ db.featureAccesses) := by
    intro f hf
    rcases (setEnabled s.env s.tenantId s.moduleName s.isEnabled).next_cases db with hsame | ⟨g, hok⟩
    · rw [next, s.step_request, hsame]
    · rw [next, s.step_request]
      rcases setEnabled_ok hok with ⟨o, ho, hT, hm, -, hw⟩ | ⟨-, rfl, hw⟩
      · rw [hw]
        refine (mem_updateWhere_key (db.nodup_key .featureAccess) ho rfl).trans ?_
        constructor
        · rintro (⟨hf', -⟩ | rfl)
          · exact hf'
          · exact absurd hf (hother hT hm)
        · intro hf'
          refine .inl ⟨hf', fun hid => ?_⟩
          obtain rfl := db.eq_of_id .featureAccess hf' ho hid
          exact hother hT hm hf
      · rw [hw]
        refine List.mem_append.trans (or_iff_left fun hf' => ?_)
        rw [List.mem_singleton.1 hf'] at hf
        exact hother rfl rfl hf
  refine Option.ext fun b => ?_
  rw [(s.next_oneFlag h).flag_eq_some, h.flag_eq_some]
  refine exists_congr fun f => ?_
  constructor
  · rintro ⟨hf, hT, hb⟩
    exact ⟨(hmem f hT).1 hf, hT, hb⟩
  · rintro ⟨hf, hT, hb⟩
    exact ⟨(hmem f hT).2 hf, hT, hb⟩

/-- A call sets its flag. -/
theorem flag_next_self (s : Switch) (h : OneFlag db.toTables) (hT : HasTenant db.toTables s.tenantId)
    (hid : s.Fresh db) : flag (s.next db).toTables s.key = some s.isEnabled := by
  obtain ⟨flag, db', hok⟩ := @setEnabled_accepted db s.env _ s.moduleName s.isEnabled hT hid
  have hnext : s.next db = db' := (s.step_request db).trans (Script.next_of_ok hok)
  refine (s.next_oneFlag h).flag_eq_some.2 ?_
  rw [hnext]
  rcases setEnabled_ok hok with ⟨f, hf, hT, hm, hlive, hw⟩ | ⟨-, hflag, hw⟩
  · refine ⟨{ f with isEnabled := s.isEnabled }, ?_, ⟨hT, hm, hlive⟩, rfl⟩
    rw [hw]
    exact mem_updateWhere.2 (.inr ⟨f, hf, decide_eq_true rfl, rfl⟩)
  · have hmem := List.mem_append_right db.featureAccesses (List.mem_singleton_self flag)
    exact ⟨flag, by rw [hw]; exact hmem, by rw [hflag]; exact ⟨rfl, rfl, rfl⟩, by rw [hflag]⟩

/-- What a flag says after a run: what the last call for it has said. -/
theorem flag_run {calls : List Switch} (h : OneFlag db.toTables) (hT : HasTenant db.toTables T)
    (hids : Along next Fresh calls db) : flag (run next calls db).toTables (T, m) =
      (lastWrite key Switch.isEnabled calls (T, m)).or (flag db.toTables (T, m)) := by
  let I (db : Database) : Prop := OneFlag db.toTables ∧ HasTenant db.toTables T
  have hI : ∀ s db, I db → I (next s db) := by
    rintro s db ⟨h, hT⟩
    refine ⟨s.next_oneFlag h, ?_⟩
    unfold HasTenant
    rwa [s.next_tenants]
  let abs (db : Database) : Option Bool := flag db.toTables (T, m)
  have hstep : ∀ s db, I db → Fresh s db →
      abs (next s db) = if s.key = (T, m) then some s.isEnabled else abs db := by
    rintro s db ⟨h, hT⟩ hid
    by_cases hk : s.key = (T, m)
    · have hsT : s.tenantId = T := congrArg Prod.fst hk
      have hself : flag (s.next db).toTables s.key = some s.isEnabled :=
        s.flag_next_self h (hsT ▸ hT) hid
      rw [if_pos hk]
      rwa [hk] at hself
    · rw [if_neg hk]
      exact s.flag_next_of_ne h hk
  exact run_eq_lastWrite hI hstep ⟨h, hT⟩ hids

end Switch

/-- **The guard obeys the last call.**  After any history of calls, from a table
without flags, no tenant has two live flags for one module, and whichever row its
query picks, `FeatureGuard` turns a token of a tenant away from the handlers of a
module exactly if the last call for the two was a `disable`.  The tenant of a token is
there (`World.Reachable.hasTenant`); `cuid()` is assumed to draw new ids. -/
theorem feature_flag_history {calls : List Switch} (hempty : db.featureAccesses = []) :
    FeatureAccesses.OneFlag (run Switch.next calls db).toTables ∧
    ∀ (pick : Pick FeatureAccess) (ctx : ExecutionContext) (p : JwtPayload) (m : String),
      HasTenant db.toTables p.tenantId → Along Switch.next Switch.Fresh calls db →
      ¬ctx.Public → ctx.requiredFeature = some m → p.role ≠ .superAdmin →
      ((FeatureGuard.canActivate pick ctx (some p)).eval (run Switch.next calls db) ≠ .ok () ↔
        lastWrite Switch.key Switch.isEnabled calls (p.tenantId, m) = some false) := by
  have hinit : FeatureAccesses.OneFlag db.toTables := by
    unfold FeatureAccesses.OneFlag
    rw [hempty]
    exact exclusive_nil
  have hflag : FeatureAccesses.OneFlag (run Switch.next calls db).toTables :=
    run_invariant (I := fun db => FeatureAccesses.OneFlag db.toTables)
      (fun s _ => s.next_oneFlag) calls db hinit
  refine ⟨hflag, ?_⟩
  intro pick ctx p m hT hids hpub hm hrole
  have hnone : FeatureAccesses.flag db.toTables (p.tenantId, m) = none := by
    unfold FeatureAccesses.flag
    rw [hempty]
    rfl
  rw [Ne, hflag.guard_eq_ok hpub hm, Switch.flag_run hinit hT hids, hnone, Option.or_none,
    or_iff_right hrole, Ne, not_not]

/-- Two modules are switched off, and one of them on again. -/
theorem feature_flag_history_two_modules :
    let token := Sample.token .access "t1" "t" "t0" .admin
    let w := run (World.step (Sample.clients []))
      [Sample.call (Sample.tenant "t"), Sample.platform 0 (.approve "t1"), Sample.login "t" 0]
      World.init
    let db := run Switch.next [⟨.sample "a" 0, "t0", "vehicles", false⟩,
      ⟨.sample "b" 0, "t0", "workshop", false⟩, ⟨.sample "c" 0, "t0", "workshop", true⟩] w.db
    let vehicles := Endpoint.context ⟨.vehicles, VehiclesController.findAll⟩
    let workshop := Endpoint.context ⟨.workshop, WorkshopController.findAll⟩
    token ∈ w.tokens ∧
      (FeatureGuard.canActivate .first vehicles (some token.payload)).eval db ≠ .ok () ∧
      (FeatureGuard.canActivate .first workshop (some token.payload)).eval db = .ok () := by
  intro token w db vehicles workshop
  have hw : w.Reachable (Sample.clients []) := ⟨_, rfl⟩
  have ht : token ∈ w.tokens := by decide
  have hids : Along Switch.next Switch.Fresh [⟨.sample "a" 0, "t0", "vehicles", false⟩,
      ⟨.sample "b" 0, "t0", "workshop", false⟩, ⟨.sample "c" 0, "t0", "workshop", true⟩] w.db := by
    decide
  have hT : HasTenant w.db.toTables token.payload.tenantId := hw.hasTenant ht
  obtain ⟨-, h⟩ := @feature_flag_history w.db _ (by decide)
  refine ⟨ht, ?_, ?_⟩
  · exact (h .first vehicles _ "vehicles" hT hids (by decide) (by decide) (by decide)).2 (by decide)
  · by_contra hno
    have hlast := (h .first workshop _ "workshop" hT hids (by decide) (by decide) (by decide)).1 hno
    exact absurd hlast (by decide)

end NodeVms
