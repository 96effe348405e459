/-
# Vehicles that go offline

`runOfflineDetection` warns of every vehicle on a trip that has sent no location
for half an hour, unless it has done so within the last hour.  It recognises its
earlier alert by searching the message for the registration number, and such a
search also finds the alert of a vehicle whose number contains this one, or fits it
where it has a `%` or a `_`; where it has a backslash the search may not even find
the vehicle's own.  So the job does what it should exactly if, for every vehicle that
is offline, the search finds an alert just when the vehicle has one of its own
(`offline_detection_iff`).
-/

import NodeVms.Calendar.Scans

namespace NodeVms

open Store Script Prisma

namespace Jobs

variable {env : Env} {t : Tables} {v w : Vehicle} {db : Database}

/-! ### What the job is about -/

/-- A vehicle the job looks at. -/
def OnTrip (v : Vehicle) : Prop := v.status = .onTrip ∧ v.deletedAt = none

/-- Its latest location in its tenant is missing or older than 30 minutes: all
of its locations are. -/
def Offline (env : Env) (t : Tables) (v : Vehicle) : Prop :=
  ∀ l ∈ t.gpsLocations, l.vehicleId = v.id → l.tenantId = v.tenantId →
    l.timestamp < env.now.addMinutes (-30)

/-- An unread alert of the tenant from the last hour. -/
def Recent (env : Env) (tenantId : String) (a : Alert) : Prop :=
  a.tenantId = tenantId ∧ a.type = "VEHICLE_OFFLINE" ∧ a.status = .unread ∧
    env.now.addMinutes (-60) ≤ a.createdAt

/-- The alert is the one generated for the vehicle. -/
def IsAlertOf (v : Vehicle) (a : Alert) : Prop :=
  a.tenantId = v.tenantId ∧ a.type = "VEHICLE_OFFLINE" ∧ a.message = (offlineAlert v).message

/-- The vehicle has a recent alert of its own. -/
def Alerted (env : Env) (t : Tables) (v : Vehicle) : Prop :=
  ∃ a ∈ t.alerts, Recent env v.tenantId a ∧ IsAlertOf v a

/-- The search for the registration number finds a recent alert. -/
def Found (env : Env) (t : Tables) (v : Vehicle) : Prop :=
  ∃ a ∈ t.alerts, Recent env v.tenantId a ∧ contains a.message v.registrationNo

instance (v : Vehicle) : Decidable (OnTrip v) := by unfold OnTrip; infer_instance

instance (env : Env) (t : Tables) (v : Vehicle) : Decidable (Offline env t v) := by
  unfold Offline; infer_instance

instance (env : Env) (tenantId : String) (a : Alert) : Decidable (Recent env tenantId a) := by
  unfold Recent; infer_instance

instance (v : Vehicle) (a : Alert) : Decidable (IsAlertOf v a) := by
  unfold IsAlertOf; infer_instance

instance (env : Env) (t : Tables) (v : Vehicle) : Decidable (Alerted env t v) := by
  unfold Alerted; infer_instance

instance (env : Env) (t : Tables) (v : Vehicle) : Decidable (Found env t v) := by
  unfold Found; infer_instance

/-! ### Messages -/

/-- The message around the registration number. -/
theorem message_toList (v : Vehicle) : (offlineAlert v).message.toList =
    "Vehicle ".toList ++ v.registrationNo.toList ++
      " is offline — no GPS update for 30+ minutes".toList := by
  have hrest : " is offline — no GPS update for 30+ minutes".toList =
      " is offline — no GPS update for ".toList ++
        (toString OFFLINE_THRESHOLD_MINUTES).toList ++ "+ minutes".toList := by decide +kernel
  rw [hrest, ← List.append_assoc, ← List.append_assoc, ← String.toList_append,
    ← String.toList_append, ← String.toList_append, ← String.toList_append]
  rfl

/-- A backslash in the message is one in the registration number. -/
theorem backslash_mem_message :
    '\\' ∈ (offlineAlert v).message.toList ↔ '\\' ∈ v.registrationNo.toList := by
  have hbefore : '\\' ∉ "Vehicle ".toList := by decide
  have hafter : '\\' ∉ " is offline — no GPS update for 30+ minutes".toList := by decide
  rw [message_toList, List.mem_append, List.mem_append, or_iff_left hafter, or_iff_right hbefore]

/-- The search finds the vehicle's own alert, if there is nothing it takes for an escape. -/
theorem contains_own (hv : '\\' ∉ v.registrationNo.toList) :
    contains (offlineAlert v).message v.registrationNo := by
  rw [contains, message_toList]
  exact Like.contains_of_infix hv ⟨_, _, rfl⟩

/-- For a registration number without `%`, `_` and backslash it is a search for the number. -/
theorem contains_iff_infix {message : String}
    (hv : ∀ c ∈ v.registrationNo.toList, c ≠ '%' ∧ c ≠ '_' ∧ c ≠ '\\') :
    contains message v.registrationNo ↔ v.registrationNo.toList <:+: message.toList :=
  Like.contains_iff_infix hv

/-- Messages tell registration numbers apart. -/
theorem registrationNo_eq_of_message (h : (offlineAlert v).message = (offlineAlert w).message) :
    v.registrationNo = w.registrationNo := by
  have hlist := congrArg String.toList h
  rw [message_toList, message_toList] at hlist
  exact String.toList_inj.1 (List.append_cancel_left (List.append_cancel_right hlist))

/-! ### What the job creates -/

/-- The vehicles the job warns of. -/
def missing (env : Env) (t : Tables) : List Vehicle :=
  t.vehicles.filter fun v => OnTrip v ∧ Offline env t v ∧ ¬Found env t v

/-- The query for the latest location decides whether a vehicle is offline. -/
theorem offline_iff : Offline env t v ↔
    ¬∃ l ∈ latest (t.gpsLocations.filter fun l => l.vehicleId = v.id ∧ l.tenantId = v.tenantId),
      ¬l.timestamp < env.now.addMinutes (-OFFLINE_THRESHOLD_MINUTES) := by
  push Not
  rw [forall_latest_lt_iff]
  simp only [List.mem_filter, decide_eq_true_eq, and_imp]
  exact Iff.rfl

/-- What the search for a duplicate finds. -/
theorem found_iff : Found env t v ↔
    (t.alerts.find? fun a => a.tenantId = v.tenantId ∧ a.type = "VEHICLE_OFFLINE" ∧
      a.status = .unread ∧ contains a.message v.registrationNo ∧
      env.now.addMinutes (-60) ≤ a.createdAt).isSome := by
  rw [List.find?_isSome]
  simp only [decide_eq_true_eq]
  constructor
  · rintro ⟨a, ha, ⟨htenant, htype, hstatus, htime⟩, hcontains⟩
    exact ⟨a, ha, htenant, htype, hstatus, hcontains, htime⟩
  · rintro ⟨a, ha, htenant, htype, hstatus, hcontains, htime⟩
    exact ⟨a, ha, ⟨htenant, htype, hstatus, htime⟩, hcontains⟩

/-- One round of the loop. -/
theorem eval_alertFor : (alertFor env v).eval db =
    .ok (if Offline env db.toTables v ∧ ¬Found env db.toTables v
      then some (offlineAlert v) else none) := by
  rw [alertFor, eval_bind_eq_ok]
  refine ⟨_, rfl, ?_⟩
  rw [eval_ite_eq_ok]
  by_cases hoff : Offline env db.toTables v
  · refine .inr ⟨offline_iff.1 hoff, eval_bind_eq_ok.2 ⟨_, rfl, congrArg Except.ok ?_⟩⟩
    by_cases hfound : Found env db.toTables v
    · exact (if_pos (found_iff.1 hfound)).trans (if_neg fun h => h.2 hfound).symm
    · exact (if_neg fun h => hfound (found_iff.2 h)).trans (if_pos ⟨hoff, hfound⟩).symm
  · have honline := not_not.1 fun h => hoff (offline_iff.2 h)
    refine .inl ⟨honline, ?_⟩
    rw [if_neg (fun h => hoff h.1)]
    rfl

/-- The loop collects one alert for each vehicle that is offline and not found. -/
theorem eval_alertsToCreate (vs : List Vehicle) : (alertsToCreate env vs).eval db =
    .ok ((vs.filter fun v => Offline env db.toTables v ∧ ¬Found env db.toTables v).map
      offlineAlert) := by
  induction vs with
  | nil => rfl
  | cons v vs ih =>
    refine eval_bind_eq_ok.2 ⟨_, eval_alertFor, eval_bind_eq_ok.2 ⟨_, ih, congrArg Except.ok ?_⟩⟩
    rw [List.filter_cons]
    by_cases hv : Offline env db.toTables v ∧ ¬Found env db.toTables v
    · rw [if_pos hv, if_pos (decide_eq_true hv)]
      rfl
    · rw [if_neg hv, if_neg (by simpa using hv)]
      rfl

/-- The insert at the end of the job, on what its queries have found. -/
theorem exec_runOfflineDetection : (runOfflineDetection env).exec db =
    (Tx.when (((missing env db.toTables).map offlineAlert).length > 0) (createMany .alert
      (alertRows env ((missing env db.toTables).map offlineAlert))) : Transaction Unit).run db := by
  have hmissing : missing env db.toTables =
      (db.vehicles.filter fun v => v.status = .onTrip ∧ v.deletedAt = none).filter
        fun v => Offline env db.toTables v ∧ ¬Found env db.toTables v := by
    rw [missing, List.filter_filter]
    refine List.filter_congr fun v _ => ?_
    rw [← Bool.decide_and]
    exact decide_eq_decide.2 ⟨fun h => ⟨h.2, h.1⟩, fun h => ⟨h.2, h.1⟩⟩
  rw [hmissing]
  exact exec_of_eval (eval_bind_eq_ok.2 ⟨_, rfl, eval_bind_eq_ok.2 ⟨_, eval_alertsToCreate _, rfl⟩⟩)

/-- The job succeeds, with one alert for each missing vehicle. -/
theorem runOfflineDetection_creates (hids : Alerts.NewAlertIds env db.toTables) :
    ∃ db', (runOfflineDetection env).exec db = .ok ((), db') ∧
      db'.alerts = db.alerts ++ alertRows env ((missing env db.toTables).map offlineAlert) := by
  rw [exec_runOfflineDetection]
  refine Alerts.exists_run_createMany hids fun d hd => ?_
  obtain ⟨v, hv, rfl⟩ := List.mem_map.1 hd
  exact db.exists_of_fkey Schema.vehicle_tenantId_fkey (List.mem_of_mem_filter hv) rfl

/-! ### No vehicle is missed -/

/-- A run of the job creates the alerts `news`. -/
def Creates (env : Env) (db : Database) (news : List Alert) : Prop :=
  ∃ db', (runOfflineDetection env).exec db = .ok ((), db') ∧ db'.alerts = db.alerts ++ news

/-- Each vehicle on a trip that is offline gets exactly one alert or has had one
of its own within the last hour, and no other vehicle gets one. -/
structure DetectsAll (env : Env) (t : Tables) (news : List Alert) : Prop where
  warned : ∀ v ∈ t.vehicles, OnTrip v → Offline env t v →
    news.countP (fun a => IsAlertOf v a) = 1 ∨ Alerted env t v
  only : ∀ a ∈ news, ∃ v ∈ t.vehicles, OnTrip v ∧ Offline env t v ∧ IsAlertOf v a
  no_other : ∀ v ∈ t.vehicles, (∃ a ∈ news, IsAlertOf v a) →
    OnTrip v ∧ Offline env t v ∧ ¬Alerted env t v

/-- The search for the registration number of an offline vehicle finds a recent
alert exactly if the vehicle has one of its own. -/
def SearchIdentifies (env : Env) (t : Tables) : Prop :=
  ∀ v ∈ t.vehicles, OnTrip v → Offline env t v → (Found env t v ↔ Alerted env t v)

instance (env : Env) (t : Tables) : Decidable (SearchIdentifies env t) := by
  unfold SearchIdentifies; infer_instance

/-- The job creates the alerts of the missing vehicles and no others. -/
theorem creates_iff (hids : Alerts.NewAlertIds env db.toTables) {news : List Alert} :
    Creates env db news ↔ news = alertRows env ((missing env db.toTables).map offlineAlert) := by
  obtain ⟨db', hexec, halerts⟩ := runOfflineDetection_creates hids
  constructor
  · rintro ⟨db'', hexec', halerts'⟩
    obtain ⟨-, rfl⟩ := Prod.mk.inj (Except.ok.inj (hexec.symm.trans hexec'))
    exact List.append_cancel_left (halerts'.symm.trans halerts)
  · rintro rfl
    exact ⟨db', hexec, halerts⟩

/-- Registration numbers are distinct, so an alert is about one vehicle. -/
theorem eq_of_message (hv : v ∈ db.vehicles) (hw : w ∈ db.vehicles)
    (h : (offlineAlert v).message = (offlineAlert w).message) : v = w := by
  have hnodup : (db.vehicles.map fun v => [v.registrationNo]).Nodup :=
    db.unique ⟨"Vehicle_registrationNo_key", fun t => t.vehicles.map fun v => [v.registrationNo]⟩
      (by simp [Schema.uniqueIndexes])
  exact List.inj_on_of_nodup_map hnodup hv hw
    (congrArg (fun s => [s]) (registrationNo_eq_of_message h))

/-- An alert of the job is about `v` exactly if it was created for `v`. -/
theorem isAlertOf_alertRow {i : Nat} (hv : v ∈ db.vehicles) (hw : w ∈ db.vehicles) :
    IsAlertOf v (Alerts.alertRow env i (offlineAlert w)) ↔ w = v := by
  constructor
  · rintro ⟨-, -, hmessage⟩
    exact eq_of_message hw hv hmessage
  · rintro rfl
    exact ⟨rfl, rfl, rfl⟩

/-- A vehicle gets as many alerts as it is missing times. -/
theorem countP_isAlertOf (hv : v ∈ db.vehicles) :
    (alertRows env ((missing env db.toTables).map offlineAlert)).countP
      (fun a => IsAlertOf v a) = (missing env db.toTables).count v := by
  have hdata : (alertRows env ((missing env db.toTables).map offlineAlert)).countP
      (fun a => IsAlertOf v a) = ((missing env db.toTables).map offlineAlert).countP
        fun d => IsAlertOf v (Alerts.alertRow env 0 d) :=
    Alerts.countP_alertRows (fun _ _ => rfl) _
  rw [hdata, List.countP_map, List.count]
  refine List.countP_congr fun w hw => ?_
  simpa using isAlertOf_alertRow hv (List.mem_of_mem_filter hw)

/-- No vehicle is missing twice. -/
theorem nodup_missing : (missing env db.toTables).Nodup := by
  have hnodup : db.vehicles.Nodup := (db.nodup_key .vehicle).of_map
  exact hnodup.filter _

/-- A vehicle on a trip is missing if it is offline and the search finds nothing. -/
theorem mem_missing : v ∈ missing env t ↔
    v ∈ t.vehicles ∧ OnTrip v ∧ Offline env t v ∧ ¬Found env t v := by
  rw [missing, List.mem_filter, decide_eq_true_eq]

/-- A missing vehicle gets an alert. -/
theorem exists_alert_of_missing (hv : v ∈ missing env db.toTables) :
    ∃ a ∈ alertRows env ((missing env db.toTables).map offlineAlert), IsAlertOf v a := by
  have hone : (missing env db.toTables).count v = 1 := List.count_eq_one_of_mem nodup_missing hv
  rw [← countP_isAlertOf (List.mem_of_mem_filter hv)] at hone
  simpa using List.countP_pos_iff.1 (Nat.lt_of_lt_of_eq Nat.zero_lt_one hone.symm)

/-- The alerts of a run are as they should be exactly if the search identifies the vehicles
that are offline. -/
theorem detectsAll_iff : DetectsAll env db.toTables
    (alertRows env ((missing env db.toTables).map offlineAlert)) ↔
      SearchIdentifies env db.toTables := by
  constructor
  · intro h v hv hon hoff
    constructor
    · intro hfound
      refine (h.warned v hv hon hoff).resolve_left fun hone => ?_
      have hnot : v ∉ missing env db.toTables := fun hmem => (mem_missing.1 hmem).2.2.2 hfound
      rw [countP_isAlertOf hv, List.count_eq_zero_of_not_mem hnot] at hone
      omega
    · -- a vehicle that is not found gets an alert, although it has one
      intro halerted
      by_contra hfound
      have hmem : v ∈ missing env db.toTables := mem_missing.2 ⟨hv, hon, hoff, hfound⟩
      obtain ⟨a, ha, halert⟩ := exists_alert_of_missing hmem
      exact (h.no_other v hv ⟨a, ha, halert⟩).2.2 halerted
  · intro h
    constructor
    · intro v hv hon hoff
      by_cases hfound : Found env db.toTables v
      · exact .inr ((h v hv hon hoff).1 hfound)
      · have hmem : v ∈ missing env db.toTables := mem_missing.2 ⟨hv, hon, hoff, hfound⟩
        rw [countP_isAlertOf hv]
        exact .inl (List.count_eq_one_of_mem nodup_missing hmem)
    · intro a ha
      obtain ⟨i, d, hd, rfl⟩ := Alerts.mem_alertRows ha
      obtain ⟨v, hv, rfl⟩ := List.mem_map.1 hd
      obtain ⟨hmem, hon, hoff, -⟩ := mem_missing.1 hv
      exact ⟨v, hmem, hon, hoff, (isAlertOf_alertRow hmem hmem).2 rfl⟩
    · rintro v hv ⟨a, ha, halert⟩
      obtain ⟨i, d, hd, rfl⟩ := Alerts.mem_alertRows ha
      obtain ⟨w, hw, rfl⟩ := List.mem_map.1 hd
      obtain ⟨hmem, hon, hoff, hfound⟩ := mem_missing.1 hw
      obtain rfl := (isAlertOf_alertRow hv hmem).1 halert
      exact ⟨hon, hoff, fun halerted => hfound ((h w hmem hon hoff).2 halerted)⟩

/-- A run of the job misses no vehicle, and warns of none again, exactly if the text
search identifies the vehicles that are offline. -/
theorem offline_detection_iff (hids : Alerts.NewAlertIds env db.toTables) :
    (∃ news, Creates env db news ∧ DetectsAll env db.toTables news) ↔
      SearchIdentifies env db.toTables := by
  rw [← detectsAll_iff]
  constructor
  · rintro ⟨news, hcreates, hdetects⟩
    rwa [← (creates_iff hids).1 hcreates]
  · intro hdetects
    exact ⟨_, (creates_iff hids).2 rfl, hdetects⟩

namespace Sample

def patch (id : String) (dto : UpdateVehicleDto) : NodeVms.Request :=
  .tenant (.sample "" 0) "t0" (.vehicles (.update id dto))

/-- `v0` and `w0` have the registration numbers `AB12` and `AB1`; `v0` is on a trip. -/
def fleet : List NodeVms.Request :=
  NodeVms.Sample.company ++
    [patch "v0" { registrationNo := .value "AB12", status := .value .onTrip },
     patch "w0" { registrationNo := .value "AB1" }]

end Sample

/-- In a fleet with one vehicle on a trip the job does what it should. -/
theorem offline_detection_iff_fleet :
    let db := run step Sample.fleet Database.empty
    let env := Alerts.Sample.numbered 'x' 0
    ∃ news, Creates env db news ∧ DetectsAll env db.toTables news := by
  intro db env
  have hids : Alerts.NewAlertIds env db.toTables := Alerts.Sample.newAlertIds (by decide +kernel)
  exact (offline_detection_iff hids).2 (by decide +kernel)

/-- `w0` goes on a trip after the alert of `v0`, in which `AB1` is found. -/
theorem offline_detection_misses : ¬∀ db env, Reachable db →
    Alerts.NewAlertIds env db.toTables →
      ∃ news, Creates env db news ∧ DetectsAll env db.toTables news := by
  intro h
  let rs := Sample.fleet ++ [.platform (Alerts.Sample.numbered 'x' 0) .runOfflineDetection,
    Sample.patch "w0" { status := .value .onTrip }]
  let env := Alerts.Sample.numbered 'y' (Time.addMinutes 0 10)
  have hids : Alerts.NewAlertIds env (run step rs Database.empty).toTables :=
    Alerts.Sample.newAlertIds (by decide +kernel)
  obtain ⟨news, hcreates, hdetects⟩ := h _ env ⟨rs, rfl⟩ hids
  rw [(creates_iff hids).1 hcreates, detectsAll_iff] at hdetects
  have hnot : ¬SearchIdentifies env (run step rs Database.empty).toTables := by decide +kernel
  exact hnot hdetects

end Jobs

end NodeVms
