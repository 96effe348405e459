/-
# Concurrent requests on a workshop job

`addItem` reads the job first and writes later, and nothing is checked again
when its transaction is applied.  The total of a job is right all the same, in
every state between the steps: the transaction inserts the item and increments
the total it finds, not the one the request has read.
-/

import Mathlib.Data.Fin.VecNotation
import NodeVms.Integrity.Bills

namespace NodeVms
namespace Workshop

open Store Script

section Interleaved

variable {ι : Type} [DecidableEq ι]

/-- What the requests in flight run. -/
def handlers (calls : ι → Call Request) (i : ι) : Query (Transaction WorkshopJob) :=
  (calls i).request.handler (calls i).env (calls i).tenantId

/-- However the steps of the requests are interleaved, the total of every job is
the sum of the costs of its items in every state between two steps. -/
theorem balanced_interleaved {db : Database} (hdb : Reachable db) (calls : ι → Call Request)
    (sched : List ι) :
    Always (Config.step (handlers calls)) (fun c => Balanced c.state.toTables) sched
      (.init db) := by
  refine Config.always_of_ends (P := fun db : Database => Balanced db.toTables) (balanced_of_reachable hdb)
    (fun i => ?_) sched
  have hwrites := (calls i).request.ends_writes (calls i).env (calls i).tenantId
  refine hwrites.mono fun t ht db job db' hb hrun => ?_
  exact (ht db job db' hrun).balanced hb

end Interleaved

/-- Two items are billed at once: both requests have read the job before either
writes. -/
theorem balanced_interleaved_two_items :
    let calls : Fin 2 → Call Request :=
      ![⟨.sample "i" 0, "t0", .addItem "j0" { name := "oil", cost := 10 }⟩,
        ⟨.sample "l" 0, "t0", .addItem "j0" { name := "filter", cost := 5 }⟩]
    let db := run step (NodeVms.Sample.company ++ [Sample.createJob "j" "t0" "v0"]) Database.empty
    let sched : List (Fin 2) := [0, 1, 0, 1]
    Always (Config.step (handlers calls)) (fun c => Balanced c.state.toTables) sched (.init db) ∧
      ∃ j ∈ (run (Config.step (handlers calls)) sched (.init db)).state.workshopJobs,
        j.totalCost = 15 := by
  intro calls db sched
  exact ⟨balanced_interleaved ⟨_, rfl⟩ calls sched, by decide +kernel⟩

end Workshop
end NodeVms
