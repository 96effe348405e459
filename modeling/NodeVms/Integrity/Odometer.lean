/-
# The odometer

`addLog` compares a new reading with one row only, the log of the vehicle and the
tenant that has the highest reading.  Logs are never changed and never removed, and a
vehicle stays with its tenant, so that row bounds every reading there has been.
-/

import NodeVms.Tenancy.Isolation

namespace NodeVms
namespace Fuel

open Store

variable {db : Database}

/-- The readings in the live logs of a vehicle, in the order of the table. -/
def readings (t : Tables) (vehicleId : String) : List Amount :=
  (t.fuelLogs.filter fun l => l.vehicleId = vehicleId ∧ l.deletedAt = none).map FuelLog.odometer

/-- A request adds no log, or one whose reading is at least as high as those of the
tenant's logs of the vehicle. -/
theorem step_fuelLogs (r : Request) (db : Database) :
    (step r db).fuelLogs = db.fuelLogs ∨
      ∃ log, (step r db).fuelLogs = db.fuelLogs ++ [log] ∧
        LiveVehicle db.toTables log.tenantId log.vehicleId ∧
        ∀ l ∈ db.fuelLogs, l.vehicleId = log.vehicleId → l.tenantId = log.tenantId →
          l.deletedAt = none → l.odometer ≤ log.odometer := by
  by_cases hw : Table.fuelLogs ∈ r.writes
  · cases r with
    | platform env r => simp [Request.writes] at hw
    | tenant env T r =>
      cases r with
      | fuel dto =>
        rcases (addLog env T dto).next_cases db with hsame | ⟨log, hok⟩
        · exact .inl (congrArg (fun db : Database => db.fuelLogs) hsame)
        · obtain ⟨hv, -, date, -, rfl, hw⟩ := addLog_ok hok
          exact .inr ⟨_, congrArg Tables.fuelLogs hw, hv, fun l => le_odometer_of_addLog hok⟩
      | _ => simp [Request.writes, TenantRequest.writes] at hw
  · exact .inl (@step_same db r .fuelLogs hw)

/-- The table only grows at its end. -/
theorem fuelLogs_prefix_step (r : Request) (db : Database) :
    db.fuelLogs <+: (step r db).fuelLogs := by
  rcases step_fuelLogs r db with hsame | ⟨log, hlogs, -⟩
  · exact hsame.symm ▸ List.prefix_rfl
  · rw [hlogs]
    exact List.prefix_append _ _

/-- The order of the table is the order in which the logs were recorded. -/
theorem fuelLogs_prefix_run (rs : List Request) (db : Database) :
    db.fuelLogs <+: (run step rs db).fuelLogs :=
  run_invariant (I := fun db' : Database => db.fuelLogs <+: db'.fuelLogs)
    (fun r db' h => h.trans (fuelLogs_prefix_step r db')) rs db List.prefix_rfl

/-- The logs of a vehicle are logs of its tenant. -/
theorem tenantId_eq_of_live (hc : TenantClosed db.toTables) {l : FuelLog} (hl : l ∈ db.fuelLogs)
    {T : String} (hv : LiveVehicle db.toTables T l.vehicleId) : l.tenantId = T := by
  obtain ⟨v, hv, hid, hT, -⟩ := hv
  exact ((hc.fuelLog_vehicle l hl).tenant_of_id hv hid).symm.trans hT

/-- Every request keeps the readings of a vehicle in order. -/
theorem readings_step (hc : TenantClosed db.toTables) (r : Request)
    (h : ∀ vehicleId, (readings db.toTables vehicleId).Pairwise (· ≤ ·)) (vehicleId : String) :
    (readings (step r db).toTables vehicleId).Pairwise (· ≤ ·) := by
  rcases step_fuelLogs r db with hsame | ⟨log, hlogs, hv, hmax⟩
  · rw [readings, hsame]
    exact h vehicleId
  · rw [readings, hlogs, List.filter_append, List.map_append, List.pairwise_append]
    refine ⟨h vehicleId, ?_, ?_⟩
    · exact (List.pairwise_singleton _ _).sublist (List.filter_sublist.map _)
    · intro x hx y hy
      obtain ⟨l, hl, rfl⟩ := List.mem_map.1 hx
      obtain ⟨o, ho, rfl⟩ := List.mem_map.1 hy
      obtain ⟨hl, hlp⟩ := List.mem_filter.1 hl
      obtain ⟨ho, hop⟩ := List.mem_filter.1 ho
      obtain rfl := List.mem_singleton.1 ho
      obtain ⟨hlv, hlive⟩ := of_decide_eq_true hlp
      have hsamev : l.vehicleId = o.vehicleId := hlv.trans (of_decide_eq_true hop).1.symm
      have hT : l.tenantId = o.tenantId := tenantId_eq_of_live hc hl (hsamev ▸ hv)
      exact hmax l hl hsamev hT hlive

/-- **The odometer never runs backwards:** in every state of every run the readings of each
vehicle, in the order in which they were recorded, do not decrease. -/
theorem odometer_never_back (rs : List Request) :
    Always step (fun db => ∀ vehicleId, (readings db.toTables vehicleId).Pairwise (· ≤ ·)) rs
        Database.empty ∧
      ∀ rs', (run step rs Database.empty).fuelLogs <+:
        (run step (rs ++ rs') Database.empty).fuelLogs := by
  constructor
  · have hlaw : Always step (fun db => Reachable db ∧
        ∀ vehicleId, (readings db.toTables vehicleId).Pairwise (· ≤ ·)) rs Database.empty :=
      Always.of_invariant
        (fun r db h => ⟨h.1.next r, readings_step (tenantClosed_of_reachable h.1) r h.2⟩)
        ⟨.refl, fun _ => List.Pairwise.nil⟩ rs
    exact hlaw.mono fun db h => h.2
  · intro rs'
    rw [run_append]
    exact fuelLogs_prefix_run rs' _

end Fuel
end NodeVms
