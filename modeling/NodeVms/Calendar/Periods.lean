/-
# Periods

Bookings, contracts and assignments have a period, and five services check the
order of its bounds: at creation, and again when an update supplies one of them
or both.  An update checks the bounds it is about to write, each the supplied
one or the stored one, so no sequence of updates can turn a period around.
-/

import NodeVms.Calendar.Assignments
import NodeVms.Calendar.Bookings
import NodeVms.Integrity.Steps

namespace NodeVms

open Store

variable {db : Database}

/-- Every contract ends after it starts. -/
theorem contracts_proper_step (r : Request) (h : ∀ c ∈ db.contracts, c.startDate < c.endDate) :
    ∀ c ∈ (step r db).contracts, c.startDate < c.endDate := by
  intro c' hc'
  rcases (step_contracts r db).descends c' hc' with ⟨c, hc, -, hstep⟩ | ⟨-, hnew⟩
  · cases hstep with
    | same => exact h _ hc
    | update _ _ _ _ hse => exact hse
    | remove => exact h c hc
  · exact hnew.period

/-- Every period ends after it starts; an assignment may have no end. -/
structure PeriodsProper (t : Tables) : Prop where
  bookings : ∀ b ∈ t.bookings, b.startDate < b.endDate
  contracts : ∀ c ∈ t.contracts, c.startDate < c.endDate
  assignments : ∀ a ∈ t.assignments, a.endDate = none ∨ ∃ e, a.endDate = some e ∧ a.startDate < e

/-- Every reachable state has proper periods. -/
theorem periodsProper_of_reachable (h : Reachable db) : PeriodsProper db.toTables where
  bookings := Bookings.proper_of_reachable h
  contracts := by
    have hempty : ∀ c ∈ Database.empty.contracts, c.startDate < c.endDate := List.forall_mem_nil _
    exact h.invariant (I := fun db => ∀ c ∈ db.contracts, c.startDate < c.endDate) hempty
      fun r _ _ hc => contracts_proper_step r hc
  assignments a ha := by
    have hproper : Assignments.Proper a := Assignments.proper_of_reachable h a ha
    cases hend : a.endDate with
    | none => exact .inl rfl
    | some e => exact .inr ⟨e, rfl, hproper e hend⟩

/-- **Periods are well formed** in every state of every run. -/
theorem periods_proper (rs : List Request) :
    Always step (fun db => PeriodsProper db.toTables) rs Database.empty :=
  (Always.reachable rs).mono fun _ h => periodsProper_of_reachable h

end NodeVms
