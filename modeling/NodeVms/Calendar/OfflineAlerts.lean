/-
# Offline alerts do not pile up

`runOfflineDetection` may run as often as it likes, and a vehicle may be offline
for days: of the unread alerts about it each comes more than an hour after the
one before, so that `n` hours hold no more than `n` of them.  The job sees to
this by its search for an earlier alert, whatever the clock does between two
runs; no other request creates an alert of this type or makes one unread again.
The search finds the earlier alert of every vehicle whose registration number has no
backslash, which it would take for an escape.
-/

import NodeVms.Calendar.Offline
import NodeVms.Frames
import NodeVms.Store.Periods

namespace NodeVms

open Store Script Prisma

namespace Jobs

variable {t t' : Tables} {db : Database}

/-- Both alerts are unread and say the same about vehicles of one tenant, in words the
search does not take for an escape. -/
structure SameWarning (a b : Alert) : Prop where
  type : a.type = "VEHICLE_OFFLINE"
  status : a.status = .unread
  type' : b.type = "VEHICLE_OFFLINE"
  status' : b.status = .unread
  tenantId : a.tenantId = b.tenantId
  message : a.message = b.message
  plain : '\\' ∉ b.message.toList

/-- Of two unread alerts with one message the later row is the later one by more
than an hour. -/
def Spaced (alerts : List Alert) : Prop :=
  alerts.Pairwise fun a b => SameWarning a b → a.createdAt.addMinutes 60 < b.createdAt

/-- There is no alert at the start. -/
theorem spaced_nil : Spaced [] := List.Pairwise.nil

/-- An update that makes no alert unread keeps the distances. -/
theorem Spaced.updateWhere {l : List Alert} (h : Spaced l) {p : Alert → Bool} {f : Alert → Alert}
    (hread : ∀ a, (f a).status ≠ .unread) : Spaced (updateWhere p f l) := by
  rw [Spaced, Store.updateWhere, List.pairwise_map]
  refine List.Pairwise.imp (fun {a b} hab hsame => ?_) h
  have hkeep : ∀ c : Alert, (if p c then f c else c).status = .unread →
      (if p c then f c else c) = c := by
    intro c hc
    by_cases hp : p c = true
    · rw [if_pos hp] at hc
      exact absurd hc (hread c)
    · rw [if_neg hp]
  have ha := hkeep a hsame.status
  have hb := hkeep b hsame.status'
  rw [ha, hb] at hsame ⊢
  exact hab hsame

/-- New alerts of other types. -/
theorem Spaced.append_of_type {l new : List Alert} (h : Spaced l)
    (hnew : ∀ a ∈ new, a.type ≠ "VEHICLE_OFFLINE") : Spaced (l ++ new) := by
  refine List.pairwise_append.2 ⟨h, ?_, fun a _ b hb hsame => absurd hsame.type' (hnew b hb)⟩
  refine List.Pairwise.imp_of_mem (fun {a b} ha _ _ hsame => ?_)
    (List.pairwise_of_forall (R := fun _ _ => True) fun _ _ => trivial)
  exact absurd hsame.type (hnew a ha)

/-- An unread alert that the job does not find is more than an hour old. -/
theorem lt_of_not_found {env : Env} {v : Vehicle} (hv : ¬Found env t v) {a b : Alert}
    (ha : a ∈ t.alerts) (hb : IsAlertOf v b) (hsame : SameWarning a b) :
    a.createdAt.addMinutes 60 < env.now := by
  have harith : ∀ a b : Int, ¬a + 60 * 60000 < b → b + -60 * 60000 ≤ a := by omega
  by_contra hlt
  refine hv ⟨a, ha, ⟨hsame.tenantId.trans hb.1, hsame.type, hsame.status, ?_⟩, ?_⟩
  · exact harith _ _ hlt
  · have hplain := hsame.plain
    rw [hb.2.2, backslash_mem_message] at hplain
    rw [hsame.message, hb.2.2]
    exact contains_own hplain

/-- The alerts of one run are about vehicles with different registration numbers. -/
theorem pairwise_missing {env : Env} : (missing env db.toTables).Pairwise fun v w =>
    (offlineAlert v).message ≠ (offlineAlert w).message := by
  have hnodup : (missing env db.toTables).Nodup := nodup_missing
  refine List.Pairwise.imp_of_mem (fun {v w} hv hw hne heq => ?_) hnodup
  exact hne (eq_of_message (List.mem_of_mem_filter hv) (List.mem_of_mem_filter hw) heq)

/-- The job repeats no message of the last hour. -/
theorem spaced_runOfflineDetection (env : Env) (h : Spaced db.alerts) :
    Spaced ((runOfflineDetection env).next db).alerts := by
  refine next_induct (P := fun db' : Database => Spaced db'.alerts) h fun _ db' hok => ?_
  rw [exec_runOfflineDetection, Tx.run_when_eq_ok, run_createMany_eq_ok] at hok
  obtain ⟨-, hw⟩ | ⟨-, rfl⟩ := hok
  · have halerts : db'.alerts =
        db.alerts ++ alertRows env ((missing env db.toTables).map offlineAlert) :=
      congrArg Tables.alerts hw
    rw [halerts]
    refine List.pairwise_append.2 ⟨h, ?_, fun a ha b hb hsame => ?_⟩
    · -- no two alerts of the run have one message
      have hmessages : ((alertRows env ((missing env db.toTables).map offlineAlert)).map
          Alert.message).Nodup := by
        rw [Alerts.map_alertRows Alert.message AlertData.message fun _ _ => rfl, List.map_map]
        exact List.pairwise_map.2 pairwise_missing
      refine List.Pairwise.imp (fun {a b} hne hsame => ?_) (List.pairwise_map.1 hmessages)
      exact absurd hsame.message hne
    · obtain ⟨i, d, hd, rfl⟩ := Alerts.mem_alertRows hb
      obtain ⟨v, hv, rfl⟩ := List.mem_map.1 hd
      exact lt_of_not_found (mem_missing.1 hv).2.2.2 ha ⟨rfl, rfl, rfl⟩ hsame
  · exact h

/-- The alerts of a scan are of other types. -/
theorem spaced_scan (env : Env) (T : String) (D : Int) (h : Spaced db.alerts) :
    Spaced ((Alerts.scan env T D).next db).alerts := by
  refine next_induct (P := fun db' : Database => Spaced db'.alerts) h fun result db' hok => ?_
  rw [Alerts.scan_exec] at hok
  simp only [Tx.run_bind_eq_ok, Tx.run_when_eq_ok, run_createMany_eq_ok, Tx.run_pure_eq_ok] at hok
  obtain ⟨-, db₁, ⟨-, hw⟩ | ⟨-, rfl⟩, -, rfl⟩ := hok
  · have halerts : db'.alerts =
        db.alerts ++ alertRows env ((Alerts.found env T D db.toTables).alertData T) :=
      congrArg Tables.alerts hw
    rw [halerts]
    refine h.append_of_type fun a ha => ?_
    obtain ⟨i, d, hd, rfl⟩ := Alerts.mem_alertRows ha
    rw [Alerts.Found.alertData_eq, List.mem_append, List.mem_append] at hd
    rcases hd with (hd | hd) | hd
    all_goals
      obtain ⟨x, -, rfl⟩ := List.mem_map.1 hd
      simp [Alerts.alertRow, Alerts.documentAlert, Alerts.contractAlert, Alerts.maintenanceAlert]
  · exact h

/-- An alert that is read or dismissed is not unread any more. -/
theorem spaced_updateStatus {T id : String} {status : AlertStatus} (hs : status ≠ .unread)
    (h : Spaced db.alerts) : Spaced ((Alerts.updateStatus T id status).next db).alerts := by
  refine next_induct (P := fun db' : Database => Spaced db'.alerts) h fun _ db' hok => ?_
  obtain ⟨-, hw⟩ := Alerts.updateStatus_ok hok
  have halerts : db'.alerts = updateWhere (fun a : Alert => a.id.val = id)
      (fun a => { a with status }) db.alerts := congrArg Tables.alerts hw
  rw [halerts]
  exact h.updateWhere fun _ => hs

/-- Every request keeps the alerts apart. -/
theorem step_spaced (r : Request) (db : Database) (h : Spaced db.alerts) :
    Spaced (step r db).alerts := by
  by_cases hw : Table.alerts ∈ r.writes
  · cases r with
    | platform env pr =>
      have hsame : Table.alerts ∉ pr.writes → Spaced (step (.platform env pr) db).alerts := by
        intro hno
        have halerts : (step (.platform env pr) db).alerts = db.alerts := pr.same env hno
        rwa [halerts]
      cases pr with
      | runOfflineDetection => exact spaced_runOfflineDetection env h
      | _ => exact hsame (by simp [PlatformRequest.writes])
    | tenant env T rq =>
      cases rq with
      | alerts rq =>
        cases rq with
        | scan daysAhead => exact spaced_scan env T daysAhead h
        | markRead alertId => exact spaced_updateStatus (by decide) h
        | dismiss alertId => exact spaced_updateStatus (by decide) h
      | _ => simp [Request.writes, TenantRequest.writes] at hw
  · have halerts : (step r db).alerts = db.alerts := step_same r hw
    rwa [halerts]

/-- The unread alerts about the vehicle in the hours from `s` on. -/
def unreadWithin (t : Tables) (v : Vehicle) (s : Time) (hours : Nat) : List Alert :=
  t.alerts.filter fun a => IsAlertOf v a ∧ a.status = .unread ∧ s ≤ a.createdAt ∧
    a.createdAt ≤ s.addMinutes (hours * 60)

/-- Alerts apart from each other are no more than the hours they fall in. -/
theorem Spaced.length_unreadWithin (h : Spaced t.alerts) {v : Vehicle}
    (hv : '\\' ∉ v.registrationNo.toList) (s : Time) (hours : Nat) :
    (unreadWithin t v s hours).length ≤ max 1 hours := by
  have hprop : ∀ a ∈ unreadWithin t v s hours, IsAlertOf v a ∧ a.status = .unread ∧
      s ≤ a.createdAt ∧ a.createdAt ≤ s.addMinutes (hours * 60) :=
    fun a ha => of_decide_eq_true (List.mem_filter.1 ha).2
  have hspaced : ((unreadWithin t v s hours).map Alert.createdAt).Pairwise
      fun a b => a + 60 * 60000 < b := by
    refine List.pairwise_map.2 (List.Pairwise.imp_of_mem (fun {a b} ha hb hab => ?_)
      (h.filter fun a => IsAlertOf v a ∧ a.status = .unread ∧ s ≤ a.createdAt ∧
        a.createdAt ≤ s.addMinutes (hours * 60)))
    obtain ⟨⟨haT, haty, ham⟩, has, -⟩ := hprop a ha
    obtain ⟨⟨hbT, hbty, hbm⟩, hbs, -⟩ := hprop b hb
    refine hab ⟨haty, has, hbty, hbs, haT.trans hbT.symm, ham.trans hbm.symm, ?_⟩
    rwa [hbm, backslash_mem_message]
  have hlength := length_le_of_spaced (by decide) hspaced (s := s) (n := hours) fun x hx => ?_
  · rwa [List.length_map] at hlength
  · obtain ⟨a, ha, rfl⟩ := List.mem_map.1 hx
    obtain ⟨-, -, hfrom, hto⟩ := hprop a ha
    refine ⟨hfrom, hto.trans_eq ?_⟩
    rw [Time.addMinutes]
    ring

/-- In every state of every run, any two unread offline alerts with one message
without a backslash in one tenant are more than an hour apart, and so no `n` hours hold
more than `n` unread ones about a vehicle whose registration number has none. -/
theorem offline_alerts_spaced (rs : List Request) :
    Always step (fun db => Spaced db.alerts ∧
      ∀ v : Vehicle, '\\' ∉ v.registrationNo.toList → ∀ s hours,
        (unreadWithin db.toTables v s hours).length ≤ max 1 hours) rs Database.empty := by
  have hspaced : Always step (fun db => Spaced db.alerts) rs Database.empty :=
    Always.of_invariant step_spaced spaced_nil rs
  exact hspaced.mono fun db h => ⟨h, fun _ hv => h.length_unreadWithin hv⟩

end Jobs

end NodeVms
