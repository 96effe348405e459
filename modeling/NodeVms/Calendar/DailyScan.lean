/-
# The daily scan

`runDailyAlertsScan` scans one active tenant after the other and goes on when a
scan fails.  What a scan reads no other scan writes, so each of them finds what
it would have found at the beginning of the job: the alerts afterwards are those
from before and, for each tenant whose scan went through, the alerts its scan
creates in the first state.  A scan whose generated ids are new goes through,
whatever becomes of the others.
-/

import NodeVms.Calendar.Scans

namespace NodeVms

open Store Script Prisma

namespace Jobs

variable {envs : Tenant → Env} {tenant : Tenant} {db : Database}

/-- The alerts that the scan of the tenant creates from these tables. -/
def scanRows (envs : Tenant → Env) (t : Tables) (tenant : Tenant) : List Alert :=
  alertRows (envs tenant)
    ((Alerts.found (envs tenant) tenant.id 30 t).alertData tenant.id)

/-- A scan does not read the alerts. -/
theorem scanRows_alerts (envs : Tenant → Env) (t : Tables) (as : List Alert) :
    scanRows envs { t with alerts := as } tenant = scanRows envs t tenant := rfl

/-- The ids generated for the tenant's scan are distinct, no alert has one, and
neither does an alert that another tenant of the list gets. -/
structure OwnIds (envs : Tenant → Env) (tenants : List Tenant) (alerts : List Alert)
    (tenant : Tenant) : Prop where
  injective : Function.Injective (envs tenant).cuid
  alerts : ∀ a ∈ alerts, ∀ n, a.id ≠ (envs tenant).cuid n
  others : ∀ other ∈ tenants, other ≠ tenant → ∀ m n, (envs other).cuid m ≠ (envs tenant).cuid n

/-- One round of the loop: the alerts of the tenant, or nothing. -/
theorem scan_next (envs : Tenant → Env) (tenant : Tenant) (db : Database) :
    (Alerts.scan (envs tenant) tenant.id 30).next db = db ∨
      ((Alerts.scan (envs tenant) tenant.id 30).next db).toTables =
        { db.toTables with alerts := db.alerts ++ scanRows envs db.toTables tenant } := by
  refine next_induct (P := fun db' : Database => db' = db ∨ db'.toTables =
    { db.toTables with alerts := db.alerts ++ scanRows envs db.toTables tenant }) (.inl rfl)
    fun result db' hok => ?_
  rw [Alerts.scan_exec] at hok
  simp only [Tx.run_bind_eq_ok, Tx.run_when_eq_ok, run_createMany_eq_ok, Tx.run_pure_eq_ok] at hok
  obtain ⟨-, db₁, ⟨-, hw⟩ | ⟨-, rfl⟩, -, rfl⟩ := hok
  · exact .inr hw
  · exact .inl rfl

/-- With new ids it is the alerts. -/
theorem scan_next_of_ids (hids : Alerts.NewAlertIds (envs tenant) db.toTables) :
    ((Alerts.scan (envs tenant) tenant.id 30).next db).toTables =
      { db.toTables with alerts := db.alerts ++ scanRows envs db.toTables tenant } := by
  obtain ⟨db', hexec, halerts⟩ := Alerts.scan_creates (T := tenant.id) (D := 30) hids
  have hnext : (Alerts.scan (envs tenant) tenant.id 30).next db = db' := next_of_ok hexec
  rcases scan_next envs tenant db with hsame | hw
  · -- nothing was to be created
    rw [hnext] at hsame ⊢
    have hnil : db.alerts ++ scanRows envs db.toTables tenant = db.alerts := by
      rw [← hsame] at halerts ⊢
      exact halerts.symm
    rw [hsame, hnil]
  · exact hw

/-- The loop creates the alerts of the tenants whose scans go through; the
induction is over the tenants that are still to be scanned. -/
theorem scanEach_eq (envs : Tenant → Env) {tenants : List Tenant} (hnodup : tenants.Nodup)
    (db : Database) : ∃ done : List Tenant, done.Sublist tenants ∧
      (scanEach envs tenants db).toTables =
        { db.toTables with alerts := db.alerts ++ done.flatMap (scanRows envs db.toTables) } ∧
      ∀ tenant ∈ tenants, OwnIds envs tenants db.alerts tenant → tenant ∈ done := by
  induction tenants generalizing db with
  | nil =>
    refine ⟨[], List.Sublist.refl _, ?_, fun _ h => absurd h List.not_mem_nil⟩
    rw [scanEach, List.flatMap_nil, List.append_nil]
  | cons first tenants ih =>
    obtain ⟨hfirst, hnodup⟩ := List.nodup_cons.1 hnodup
    obtain ⟨done, hsub, hw, hids⟩ := ih hnodup ((Alerts.scan (envs first) first.id 30).next db)
    -- what is new or not for a tenant after the first scan
    have hlater : ∀ {as : List Alert}, (∀ a ∈ as, a ∈ db.alerts ∨
          a ∈ scanRows envs db.toTables first) → ∀ tenant ∈ tenants,
        OwnIds envs (first :: tenants) db.alerts tenant → OwnIds envs tenants as tenant := by
      intro as has tenant htenant hown
      refine ⟨hown.injective, fun a ha n => ?_, fun other hother =>
        hown.others other (List.mem_cons_of_mem first hother)⟩
      rcases has a ha with ha | ha
      · exact hown.alerts a ha n
      · obtain ⟨i, d, -, rfl⟩ := Alerts.mem_alertRows ha
        have hne : first ≠ tenant := by
          rintro rfl
          exact hfirst htenant
        exact hown.others first List.mem_cons_self hne i n
    rcases scan_next envs first db with hsame | hnext
    · by_cases hown : OwnIds envs (first :: tenants) db.alerts first
      · -- the scan went through and had nothing to create
        have hnew : Alerts.NewAlertIds (envs first) db.toTables := ⟨hown.injective, hown.alerts⟩
        have hrows := scan_next_of_ids hnew
        rw [hsame] at hrows hw hids
        have hnil : scanRows envs db.toTables first = [] := by
          have halerts : db.alerts = db.alerts ++ scanRows envs db.toTables first :=
            congrArg Tables.alerts hrows
          exact List.self_eq_append_right.1 halerts
        refine ⟨first :: done, hsub.cons_cons first, ?_, fun tenant htenant howns => ?_⟩
        · rw [scanEach, hsame, hw, List.flatMap_cons, hnil, List.nil_append]
        · rcases List.mem_cons.1 htenant with rfl | htenant
          · exact List.mem_cons_self
          · exact List.mem_cons_of_mem _
              (hids tenant htenant (hlater (fun a ha => .inl ha) tenant htenant howns))
      · refine ⟨done, hsub.cons first, ?_, fun tenant htenant howns => ?_⟩
        · rw [scanEach, hsame]
          rwa [hsame] at hw
        · rcases List.mem_cons.1 htenant with rfl | htenant
          · exact absurd howns hown
          · rw [hsame] at hids
            exact hids tenant htenant (hlater (fun a ha => .inl ha) tenant htenant howns)
    · have halerts : ((Alerts.scan (envs first) first.id 30).next db).alerts =
          db.alerts ++ scanRows envs db.toTables first := congrArg Tables.alerts hnext
      refine ⟨first :: done, hsub.cons_cons first, ?_, fun tenant htenant howns => ?_⟩
      · have hrows : scanRows envs ((Alerts.scan (envs first) first.id 30).next db).toTables =
            scanRows envs db.toTables := by
          funext other
          rw [hnext]
          exact scanRows_alerts envs db.toTables _
        rw [scanEach, hw, halerts, hrows, hnext, List.flatMap_cons, List.append_assoc]
      · rcases List.mem_cons.1 htenant with rfl | htenant
        · exact List.mem_cons_self
        · refine List.mem_cons_of_mem _ (hids tenant htenant (hlater (fun a ha => ?_) tenant
            htenant howns))
          rw [halerts] at ha
          exact List.mem_append.1 ha

/-- The job scans each active tenant once, in what it found at its beginning: it
adds the alerts of the tenants whose scan went through, and changes nothing else.
The scan of a tenant whose ids are new goes through. -/
theorem daily_scan (envs : Tenant → Env) (env : Env) (db : Database) :
    ∃ done : List Tenant, done.Sublist (activeTenants db.toTables) ∧
      (processJob envs env "daily-alerts-scan" db).toTables =
        { db.toTables with alerts := db.alerts ++ done.flatMap (scanRows envs db.toTables) } ∧
      ∀ tenant ∈ db.tenants, tenant.isActive = true → tenant.deletedAt = none →
        OwnIds envs (activeTenants db.toTables) db.alerts tenant → tenant ∈ done := by
  have hnodup : (activeTenants db.toTables).Nodup := by
    have htenants : db.tenants.Nodup := (db.nodup_key .tenant).of_map
    exact htenants.filter _
  obtain ⟨done, hsub, hw, hids⟩ := scanEach_eq envs hnodup db
  refine ⟨done, hsub, hw, fun tenant htenant hactive hlive hown => ?_⟩
  exact hids tenant (List.mem_filter.2 ⟨htenant, decide_eq_true ⟨hactive, hlive⟩⟩) hown

end Jobs

end NodeVms
