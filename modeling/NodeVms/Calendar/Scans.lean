/-
# No expiry slips between scans

A scan warns of the documents and contracts that expire from now on and within
its window, both ends included.  Of scans that follow each other within the
window, the last one before an expiry finds it in its window, whatever happens
between the scans, as long as the row is there at each of them.
-/

import NodeVms.Integrity.Indexes
import NodeVms.System

namespace NodeVms

open Store Script Prisma

/-! ### Moments -/

section Cover

variable {α τ : Type} [LinearOrder τ] {l : List α} {first last : α} {e : τ}

/-- If each element reaches as far as the moment of the next one, and the last
as far as `e`, then one at or before `e` reaches as far as `e`. -/
theorem exists_reach (moment : α → τ) (reach : α → τ) (hfirst : l.head? = some first)
    (hlast : l.getLast? = some last) (hchain : l.IsChain fun a b => moment b ≤ reach a)
    (hfrom : moment first ≤ e) (hto : e ≤ reach last) :
    ∃ a ∈ l, moment a ≤ e ∧ e ≤ reach a := by
  induction l generalizing first with
  | nil => exact nomatch hfirst
  | cons a l ih =>
    obtain rfl : a = first := Option.some.inj hfirst
    cases l with
    | nil =>
      obtain rfl : a = last := Option.some.inj hlast
      exact ⟨a, List.mem_singleton_self a, hfrom, hto⟩
    | cons b l =>
      obtain ⟨hab, hchain⟩ := List.isChain_cons_cons.1 hchain
      -- either the next one still comes in time, or `a` is the last before `e`
      rcases le_or_gt (moment b) e with hb | hb
      · rw [List.getLast?_cons_cons] at hlast
        obtain ⟨c, hc, hmoment, hreach⟩ := ih rfl hlast hchain hb
        exact ⟨c, List.mem_cons_of_mem a hc, hmoment, hreach⟩
      · exact ⟨a, List.mem_cons_self, hfrom, hb.le.trans hab⟩

end Cover

namespace Alerts

/-! ### Papers -/

/-- What a scan warns of before it expires, by its id. -/
inductive Paper where
  | document (id : String)
  | contract (id : String)
  deriving DecidableEq

namespace Paper

/-- The row is there, the tenant's, not deleted, and expires at `e`. -/
def Expires (T : String) (e : Time) (t : Tables) : Paper → Prop
  | document id => ∃ d ∈ t.documents,
    d.id.val = id ∧ d.tenantId = T ∧ d.deletedAt = none ∧ d.expiryDate = e
  | contract id => ∃ c ∈ t.contracts,
    c.id.val = id ∧ c.tenantId = T ∧ c.deletedAt = none ∧ c.endDate = e

instance (T : String) (e : Time) (t : Tables) : ∀ p : Paper, Decidable (p.Expires T e t)
  | document id => inferInstanceAs (Decidable (∃ d ∈ t.documents,
    d.id.val = id ∧ d.tenantId = T ∧ d.deletedAt = none ∧ d.expiryDate = e))
  | contract id => inferInstanceAs (Decidable (∃ c ∈ t.contracts,
    c.id.val = id ∧ c.tenantId = T ∧ c.deletedAt = none ∧ c.endDate = e))

/-- The alert that tells of the row, and of the vehicle of a document. -/
def Warning (T : String) (t : Tables) (a : AlertData) : Paper → Prop
  | document id => ∃ d ∈ t.documents, d.id.val = id ∧
    ∃ v ∈ t.vehicles, v.id.val = d.vehicleId ∧ a = documentAlert T d v.registrationNo
  | contract id => ∃ c ∈ t.contracts, c.id.val = id ∧ a = contractAlert T c

end Paper

/-! ### What a scan creates -/

/-- The `i`th row of an `alert.createMany`. -/
def alertRow (env : Env) (i : Nat) (a : AlertData) : Alert :=
  { id := env.cuid i, tenantId := a.tenantId, type := a.type, message := a.message,
    status := .unread, createdAt := env.now, deletedAt := none }

/-- The alerts of a list, counted by their kinds. -/
def ScanResult.count (as : List Alert) : ScanResult :=
  { created := as.length,
    summary :=
      { documentExpiry := as.countP (·.type = "DOCUMENT_EXPIRY"),
        contractExpiry := as.countP (·.type = "CONTRACT_EXPIRY"),
        maintenanceDue := as.countP (·.type = "MAINTENANCE_DUE") } }

/-- The ids `cuid()` generates for a scan are distinct, and no alert has one. -/
structure NewAlertIds (env : Env) (t : Tables) : Prop where
  injective : Function.Injective env.cuid
  alerts : ∀ a ∈ t.alerts, ∀ n, a.id ≠ env.cuid n

/-- The scan succeeds and creates the alerts `warnings ++ reminders`: one warning
for each of `papers`, which are those that expire in the window. -/
structure Report (env : Env) (T : String) (D : Int) (db : Database) (papers : List Paper)
    (warnings reminders : List Alert) : Prop where
  exec : ∃ db', (scan env T D).exec db = .ok (ScanResult.count (warnings ++ reminders), db') ∧
    db'.alerts = db.alerts ++ (warnings ++ reminders)
  nodup : papers.Nodup
  complete : ∀ p, p ∈ papers ↔
    ∃ e, p.Expires T e db.toTables ∧ env.now ≤ e ∧ e ≤ env.now.addDays D
  warned : papers.Forall₂
    (fun p a => ∃ data i, p.Warning T db.toTables data ∧ a = alertRow env i data) warnings

/-- What a scan reads. -/
structure Found where
  docs : List (Document × String)
  contracts : List Contract
  vehicles : List Vehicle

/-- The rows that the queries of a scan find. -/
def found (env : Env) (T : String) (D : Int) (t : Tables) : Found where
  docs :=
    (t.documents.filter fun d => d.tenantId = T ∧ d.deletedAt = none ∧ env.now ≤ d.expiryDate ∧
      d.expiryDate ≤ env.now.addDays D).map fun d =>
        (d, ((t.vehicles.find? fun v => v.id.val = d.vehicleId).map Vehicle.registrationNo).getD "")
  contracts := t.contracts.filter fun c =>
    c.tenantId = T ∧ c.deletedAt = none ∧ env.now ≤ c.endDate ∧ c.endDate ≤ env.now.addDays D
  vehicles := t.vehicles.filter fun v =>
    v.tenantId = T ∧ v.deletedAt = none ∧ v.status ≠ .inactive ∧ ∀ l ∈ t.maintenanceLogs,
      l.vehicleId = v.id → ¬(env.now.addDays (-90) ≤ l.date ∧ l.deletedAt = none)

namespace Found

/-- The papers and the alerts about them, in the order of `alertData`. -/
def papers (T : String) (f : Found) : List (Paper × AlertData) :=
  f.docs.map (fun d => (.document d.1.id.val, documentAlert T d.1 d.2)) ++
    f.contracts.map fun c => (.contract c.id.val, contractAlert T c)

/-- The alerts a scan creates for what it has found. -/
def alertData (T : String) (f : Found) : List AlertData :=
  (f.papers T).map Prod.snd ++ f.vehicles.map (maintenanceAlert T)

/-- What it answers. -/
def result (T : String) (f : Found) : ScanResult :=
  { created := (f.alertData T).length,
    summary :=
      { documentExpiry := f.docs.length, contractExpiry := f.contracts.length,
        maintenanceDue := f.vehicles.length } }

/-- A scan warns of documents, then contracts, then vehicles. -/
theorem alertData_eq (T : String) (f : Found) : f.alertData T =
    f.docs.map (fun d => documentAlert T d.1 d.2) ++ f.contracts.map (contractAlert T) ++
      f.vehicles.map (maintenanceAlert T) := by
  rw [alertData, papers, List.map_append, List.map_map, List.map_map]
  rfl

end Found

variable {env : Env} {T : String} {D : Int} {e : Time} {db db' : Database} {paper : Paper}

/-- Each alert gets the next id. -/
theorem alertRows_eq (data : List AlertData) :
    alertRows env data = data.mapIdx (alertRow env) := rfl

/-- The last two statements of a scan, on what its queries have found. -/
theorem scan_exec : (scan env T D).exec db =
    (do
      Tx.when (((found env T D db.toTables).alertData T).length > 0)
        (createMany .alert (alertRows env ((found env T D db.toTables).alertData T)))
      pure ((found env T D db.toTables).result T) : Transaction ScanResult).run db := by
  rw [Found.result, Found.alertData_eq]
  rfl

/-! ### The insert -/

/-- A column that does not depend on the id. -/
theorem map_alertRows {β : Type} (f : Alert → β) (g : AlertData → β)
    (hfg : ∀ i a, f (alertRow env i a) = g a) (data : List AlertData) :
    (alertRows env data).map f = data.map g := by
  refine List.ext_getElem (by simp [alertRows_eq]) fun i hi hi' => ?_
  simp [alertRows_eq, hfg]

/-- An alert of a scan says what some datum does. -/
theorem mem_alertRows {data : List AlertData} {a : Alert} (h : a ∈ alertRows env data) :
    ∃ i, ∃ d ∈ data, a = alertRow env i d := by
  obtain ⟨i, hi, rfl⟩ := List.mem_mapIdx.1 h
  exact ⟨i, data[i], List.getElem_mem hi, rfl⟩

/-- The ids are distinct. -/
theorem nodup_id_alertRows (hinj : Function.Injective env.cuid) (data : List AlertData) :
    ((alertRows env data).map Alert.id).Nodup := by
  refine List.pairwise_iff_getElem.2 fun i j hi hj hlt hij => ?_
  have hid : env.cuid i = env.cuid j := by simpa [alertRows_eq, alertRow] using hij
  have heq : i = j := hinj hid
  omega

/-- New alerts break no index. -/
theorem unique_insert_alertRows (hids : NewAlertIds env db.toTables) (data : List AlertData) :
    (Model.alert.insert (alertRows env data) db.toTables).Unique := by
  refine Schema.alert_indexed.unique_insert_of_ids (nodup_id_alertRows hids.injective data) ?_
  intro a ha r hr
  obtain ⟨i, d, -, rfl⟩ := mem_alertRows hr
  exact hids.alerts a ha i

/-- No key refers to an alert, and an alert refers to its tenant only. -/
theorem resolved_insert_alert {as : List Alert}
    (h : ∀ a ∈ as, ∃ tenant ∈ db.tenants, tenant.id.val = a.tenantId) :
    (Model.alert.insert as db.toTables).Resolved := by
  refine Schema.alert_refers.resolved_insert ?_
  simp only [List.forall_mem_cons, List.not_mem_nil, false_implies, implies_true, and_true,
    Option.some.injEq, forall_eq', Schema.mem_idsOf]
  exact h

/-- The insert at the end of a job: the alerts of tenants that are there are created. -/
theorem exists_run_createMany (hids : NewAlertIds env db.toTables) {data : List AlertData}
    (htenant : ∀ d ∈ data, ∃ tenant ∈ db.tenants, tenant.id.val = d.tenantId) :
    ∃ db', (Tx.when (data.length > 0) (createMany .alert (alertRows env data)) :
        Transaction Unit).run db = .ok ((), db') ∧
      db'.alerts = db.alerts ++ alertRows env data := by
  by_cases hnil : data = []
  · refine ⟨db, Tx.run_when_eq_ok.2 (.inr ⟨?_, rfl⟩), ?_⟩
    · rw [hnil]
      exact Nat.lt_irrefl 0
    · rw [hnil]
      exact (List.append_nil _).symm
  · have hunique := unique_insert_alertRows hids data
    have hresolved : (Model.alert.insert (alertRows env data) db.toTables).Resolved := by
      refine resolved_insert_alert fun a ha => ?_
      obtain ⟨i, d, hd, rfl⟩ := mem_alertRows ha
      exact htenant d hd
    let db' : Database := ⟨_, hunique, hresolved⟩
    have hinsert : (createMany .alert (alertRows env data)).run db = .ok ((), db') :=
      run_createMany_eq_ok.2 rfl
    exact ⟨db', Tx.run_when_eq_ok.2 (.inl ⟨List.length_pos_iff.2 hnil, hinsert⟩), rfl⟩

/-! ### What the queries find -/

/-- Alerts are counted by what they say. -/
theorem countP_alertRows {p : Alert → Bool} {q : AlertData → Bool}
    (hpq : ∀ i a, p (alertRow env i a) = q a) (data : List AlertData) :
    (alertRows env data).countP p = data.countP q := by
  have hmap : (alertRows env data).map p = data.map q := map_alertRows p q hpq data
  have hcount : ∀ {α : Type} (f : α → Bool) (l : List α), l.countP f = (l.map f).countP id := by
    intro α f l
    rw [List.countP_map]
    rfl
  rw [hcount, hmap, ← hcount]

/-- The alerts of one query are all of one kind. -/
theorem countP_map {α : Type} (f : α → AlertData) (own : String) (hf : ∀ a, (f a).type = own)
    (kind : String) (l : List α) :
    (l.map f).countP (·.type = kind) = if own = kind then l.length else 0 := by
  rw [List.countP_map]
  split
  · rename_i h
    exact List.countP_eq_length.2 fun a _ => decide_eq_true ((hf a).trans h)
  · rename_i h
    exact List.countP_eq_zero.2 fun a _ ha => h ((hf a).symm.trans (of_decide_eq_true ha))

/-- The counts that a scan returns are those of its alerts. -/
theorem Found.result_eq (env : Env) (f : Found) :
    f.result T = ScanResult.count (alertRows env (f.alertData T)) := by
  have hdocs := countP_map (fun d : Document × String => documentAlert T d.1 d.2)
    "DOCUMENT_EXPIRY" fun _ => rfl
  have hcontracts := countP_map (contractAlert T) "CONTRACT_EXPIRY" fun _ => rfl
  have hvehicles := countP_map (maintenanceAlert T) "MAINTENANCE_DUE" fun _ => rfl
  have hlength : (alertRows env (f.alertData T)).length = (f.alertData T).length := by
    rw [alertRows_eq, List.length_mapIdx]
  have hkind : ∀ kind, (alertRows env (f.alertData T)).countP (·.type = kind) =
      (f.alertData T).countP (·.type = kind) :=
    fun kind => countP_alertRows (fun _ _ => rfl) (f.alertData T)
  rw [ScanResult.count, hlength, hkind, hkind, hkind]
  simp only [alertData_eq, List.countP_append, hdocs, hcontracts, hvehicles]
  simp [result, alertData_eq]

/-- The documents and contracts that a scan finds are those that expire in its window. -/
theorem mem_papers {t : Tables} {p : Paper} :
    p ∈ ((found env T D t).papers T).map Prod.fst ↔
      ∃ e, p.Expires T e t ∧ env.now ≤ e ∧ e ≤ env.now.addDays D := by
  cases p with
  | document id =>
    simp only [Found.papers, found, List.map_append, List.map_map, List.mem_append, List.mem_map,
      List.mem_filter, decide_eq_true_eq, Function.comp_apply, Paper.document.injEq, reduceCtorEq,
      and_false, exists_false, or_false, Paper.Expires]
    constructor
    · rintro ⟨d, ⟨hd, hT, hlive, hfrom, hto⟩, hid⟩
      exact ⟨d.expiryDate, ⟨d, hd, hid, hT, hlive, rfl⟩, hfrom, hto⟩
    · rintro ⟨e, ⟨d, hd, hid, hT, hlive, rfl⟩, hfrom, hto⟩
      exact ⟨d, ⟨hd, hT, hlive, hfrom, hto⟩, hid⟩
  | contract id =>
    simp only [Found.papers, found, List.map_append, List.map_map, List.mem_append, List.mem_map,
      List.mem_filter, decide_eq_true_eq, Function.comp_apply, Paper.contract.injEq, reduceCtorEq,
      and_false, exists_false, false_or, Paper.Expires]
    constructor
    · rintro ⟨c, ⟨hc, hT, hlive, hfrom, hto⟩, hid⟩
      exact ⟨c.endDate, ⟨c, hc, hid, hT, hlive, rfl⟩, hfrom, hto⟩
    · rintro ⟨e, ⟨c, hc, hid, hT, hlive, rfl⟩, hfrom, hto⟩
      exact ⟨c, ⟨hc, hT, hlive, hfrom, hto⟩, hid⟩

/-- No paper is found twice. -/
theorem nodup_papers : (((found env T D db.toTables).papers T).map Prod.fst).Nodup := by
  have hdocs : (db.documents.map fun d => Paper.document d.id.val).Nodup := by
    have h := (db.nodup_key .document).map (f := Paper.document) fun _ _ => Paper.document.inj
    rwa [List.map_map] at h
  have hcontracts : (db.contracts.map fun c => Paper.contract c.id.val).Nodup := by
    have h := (db.nodup_key .contract).map (f := Paper.contract) fun _ _ => Paper.contract.inj
    rwa [List.map_map] at h
  rw [Found.papers, List.map_append, List.map_map, List.map_map]
  refine List.nodup_append'.2 ⟨?_, ?_, ?_⟩
  · rw [found, List.map_map]
    exact hdocs.sublist (List.filter_sublist.map _)
  · exact hcontracts.sublist (List.filter_sublist.map _)
  · intro p hp hp'
    obtain ⟨d, -, rfl⟩ := List.mem_map.1 hp
    obtain ⟨c, -, hc⟩ := List.mem_map.1 hp'
    exact nomatch hc

/-- The alert about a document names the vehicle its foreign key refers to. -/
theorem warning_of_mem {p : Paper} {data : AlertData}
    (h : (p, data) ∈ (found env T D db.toTables).papers T) : p.Warning T db.toTables data := by
  rcases List.mem_append.1 h with h | h
  · obtain ⟨⟨d, registrationNo⟩, hd, hp⟩ := List.mem_map.1 h
    obtain ⟨o, ho, hod⟩ := List.mem_map.1 hd
    obtain ⟨rfl, rfl⟩ := Prod.mk.inj hod
    obtain ⟨rfl, rfl⟩ := Prod.mk.inj hp
    have hmem : o ∈ db.documents := List.mem_of_mem_filter ho
    obtain ⟨v, hv, hvid⟩ := db.exists_of_fkey Schema.document_vehicleId_fkey hmem rfl
    obtain ⟨w, hw⟩ : ∃ w, (db.vehicles.find? fun v => v.id.val = o.vehicleId) = some w :=
      Option.isSome_iff_exists.1 (List.find?_isSome.2 ⟨v, hv, decide_eq_true hvid⟩)
    refine ⟨o, hmem, rfl, w, List.mem_of_find?_eq_some hw, ?_, ?_⟩
    · simpa using List.find?_some hw
    · rw [hw]
      rfl
  · obtain ⟨c, hc, hp⟩ := List.mem_map.1 h
    obtain ⟨rfl, rfl⟩ := Prod.mk.inj hp
    exact ⟨c, List.mem_of_mem_filter hc, rfl, rfl⟩

/-- An alert is inserted only when there is a row of the tenant. -/
theorem exists_tenant {data : AlertData}
    (h : data ∈ (found env T D db.toTables).alertData T) :
    data.tenantId = T ∧ ∃ tenant ∈ db.tenants, tenant.id.val = T := by
  rw [Found.alertData_eq, List.mem_append, List.mem_append, List.mem_map, List.mem_map,
    List.mem_map] at h
  rcases h with (⟨⟨d, r⟩, hd, rfl⟩ | ⟨c, hc, rfl⟩) | ⟨v, hv, rfl⟩
  · obtain ⟨o, ho, hod⟩ := List.mem_map.1 hd
    obtain ⟨hmem, hp⟩ := List.mem_filter.1 ho
    have hT : o.tenantId = T := (of_decide_eq_true hp).1
    exact ⟨rfl, hT ▸ db.exists_of_fkey Schema.document_tenantId_fkey hmem rfl⟩
  · obtain ⟨hmem, hp⟩ := List.mem_filter.1 hc
    have hT : c.tenantId = T := (of_decide_eq_true hp).1
    exact ⟨rfl, hT ▸ db.exists_of_fkey Schema.contract_tenantId_fkey hmem rfl⟩
  · obtain ⟨hmem, hp⟩ := List.mem_filter.1 hv
    have hT : v.tenantId = T := (of_decide_eq_true hp).1
    exact ⟨rfl, hT ▸ db.exists_of_fkey Schema.vehicle_tenantId_fkey hmem rfl⟩

/-- The rows of `createMany` are one for each element of the list. -/
theorem forall₂_mapIdx {α β γ δ : Type} {R : β → δ → Prop} {f : Nat → γ → δ} {g : α → β}
    {k : α → γ} {l : List α} (h : ∀ i, ∀ a ∈ l, R (g a) (f i (k a))) :
    (l.map g).Forall₂ R ((l.map k).mapIdx f) := by
  induction l generalizing f with
  | nil => exact .nil
  | cons a l ih =>
    rw [List.map_cons, List.map_cons, List.mapIdx_cons]
    refine .cons (h 0 a List.mem_cons_self) (ih fun i b hb => ?_)
    exact h (i + 1) b (List.mem_cons_of_mem a hb)

/-- A scan goes through, with the alerts for what it has found. -/
theorem scan_creates (hids : NewAlertIds env db.toTables) :
    ∃ db', (scan env T D).exec db = .ok ((found env T D db.toTables).result T, db') ∧
      db'.alerts = db.alerts ++ alertRows env ((found env T D db.toTables).alertData T) := by
  rw [scan_exec]
  have htenant : ∀ d ∈ (found env T D db.toTables).alertData T,
      ∃ tenant ∈ db.tenants, tenant.id.val = d.tenantId := by
    intro d hd
    obtain ⟨hT, tenant, htmem, htid⟩ := exists_tenant hd
    exact ⟨tenant, htmem, htid.trans hT.symm⟩
  obtain ⟨db', hinsert, halerts⟩ := exists_run_createMany hids htenant
  exact ⟨db', Tx.run_bind_eq_ok.2 ⟨(), db', hinsert, rfl⟩, halerts⟩

/-- The specification of a scan. -/
theorem scan_reports (hids : NewAlertIds env db.toTables) :
    ∃ papers warnings reminders, Report env T D db papers warnings reminders := by
  let f := found env T D db.toTables
  have hrows : alertRows env (f.alertData T) =
      ((f.papers T).map Prod.snd).mapIdx (alertRow env) ++
        (f.vehicles.map (maintenanceAlert T)).mapIdx
          fun i => alertRow env (i + ((f.papers T).map Prod.snd).length) := by
    rw [alertRows_eq, Found.alertData, List.mapIdx_append]
  have hexec := scan_creates (T := T) (D := D) hids
  rw [Found.result_eq env, hrows] at hexec
  exact ⟨_, _, _, hexec, nodup_papers, fun p => mem_papers,
    forall₂_mapIdx fun i p hp => ⟨p.2, i, warning_of_mem hp, rfl⟩⟩

/-! ### Scans in a run -/

/-- A scan, and the requests that are handled before it. -/
structure Round where
  others : List NodeVms.Request
  env : Env

/-- The requests of a round, when the scans are those of tenant `T` with window `D`. -/
def Round.requests (T : String) (D : Int) (r : Round) : List NodeVms.Request :=
  r.others ++ [.tenant r.env T (.alerts (.scan D))]

/-- The state after a round: other requests, then the scan. -/
def Round.next (T : String) (D : Int) (r : Round) (db : Database) : Database :=
  run step (r.requests T D) db

/-- The database at the scan. -/
def Round.scanned (r : Round) (db : Database) : Database := run step r.others db

/-- The scans of a run report, and if they follow each other within the window,
then one of them warns of what expires between the first of them and the end of
the last window. -/
theorem no_expiry_missed (rounds : List Round) {first last : Round}
    (hfirst : rounds.head? = some first) (hlast : rounds.getLast? = some last)
    (hgaps : rounds.IsChain fun r r' => r'.env.now ≤ r.env.now.addDays D)
    (hfrom : first.env.now ≤ e) (hto : e ≤ last.env.now.addDays D)
    (hids : Along (Round.next T D) (fun r db => NewAlertIds r.env (r.scanned db).toTables)
      rounds db)
    (hpaper : Along (Round.next T D) (fun r db => paper.Expires T e (r.scanned db).toTables)
      rounds db) :
    Along (Round.next T D) (fun r db => ∃ papers warnings reminders,
      Report r.env T D (r.scanned db) papers warnings reminders) rounds db ∧
    ∃ before r after papers warnings reminders, rounds = before ++ r :: after ∧
      Report r.env T D (r.scanned (run (Round.next T D) before db)) papers warnings reminders ∧
      paper ∈ papers ∧ r.env.now ≤ e := by
  refine ⟨hids.mono fun r db h => scan_reports h, ?_⟩
  obtain ⟨r, hr, hbefore, hreach⟩ := exists_reach (fun r : Round => r.env.now)
    (fun r => r.env.now.addDays D) hfirst hlast hgaps hfrom hto
  obtain ⟨before, after, rfl⟩ := List.append_of_mem hr
  have hnew := (along_append.1 hids).2.1
  have hthere := (along_append.1 hpaper).2.1
  obtain ⟨papers, warnings, reminders, hreport⟩ := scan_reports (T := T) (D := D) hnew
  exact ⟨before, r, after, papers, warnings, reminders, rfl, hreport,
    (hreport.complete paper).2 ⟨e, hthere, hbefore, hreach⟩, hbefore⟩

namespace Sample

/-- Generated ids are `c`, `cc`, `ccc`, … -/
def numbered (c : Char) (now : Time) : Env where
  now
  cuid i := ⟨String.ofList (c :: List.replicate i c), by simp⟩
  hash := id
  compare a b := a = b
  seedSecret := ""

/-- Numbered ids are new where no id begins with their letter. -/
theorem newAlertIds {c : Char} {now : Time} {t : Tables}
    (h : ∀ a ∈ t.alerts, a.id.val.toList.head? ≠ some c) : NewAlertIds (numbered c now) t where
  injective i j hij := by
    have hlist : c :: List.replicate i c = c :: List.replicate j c :=
      String.ofList_injective (congrArg Cuid.val hij)
    simpa using congrArg List.length hlist
  alerts a ha n hn := by
    refine h a ha ?_
    rw [hn]
    simp [numbered]

end Sample

/-- A document of `v0` expires on day 40, with scans on the days 0 and 25. -/
theorem no_expiry_missed_day_40 :
    let document : NodeVms.Request := .tenant (.sample "p" 0) "t0" (.documents
      { vehicleId := "v0", type := "Permit", expiryDate := some (Time.addDays 0 40) })
    let rounds : List Round :=
      [⟨NodeVms.Sample.company ++ [document], Sample.numbered 'x' 0⟩,
        ⟨[NodeVms.Sample.vehicle "y" "t0"], Sample.numbered 'y' (Time.addDays 0 25)⟩]
    ∃ before r after papers warnings reminders, rounds = before ++ r :: after ∧
      Report r.env "t0" 30 (r.scanned (run (Round.next "t0" 30) before Database.empty)) papers
        warnings reminders ∧
      .document "p0" ∈ papers ∧ r.env.now ≤ Time.addDays 0 40 := by
  intro document rounds
  refine (no_expiry_missed rounds rfl rfl (by decide) (by decide) (by decide)
    ⟨?_, ?_, trivial⟩ ⟨?_, ?_, trivial⟩).2
  · exact Sample.newAlertIds (by decide +kernel)
  · exact Sample.newAlertIds (by decide +kernel)
  · change Paper.Expires "t0" _ _ (.document "p0")
    decide +kernel
  · change Paper.Expires "t0" _ _ (.document "p0")
    decide +kernel

end Alerts

end NodeVms
