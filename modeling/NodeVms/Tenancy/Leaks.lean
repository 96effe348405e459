/-
# What one tenant learns of another

Three things get across: whether a vehicle is under maintenance, until when a driver is
assigned, and the locations of a tenant, to every socket that asks for its room.
`leaks_between_tenants` says that nothing else does.
-/

import NodeVms.Tenancy.Availability
import NodeVms.Tenancy.Sockets

namespace NodeVms

open Store Script Scheduling

/-- **What gets across.**  In two states that agree on the rows of a tenant the answers to
the tenant are the same, whichever of the matching rows are found, exactly if the maintenance
of the named vehicle, or the assignments of the named driver in the period, up to their ends,
are; those of its own are.  A socket that never asks for the room of a tenant receives the
same whatever locations the tenant saves. -/
theorem leaks_between_tenants (T : String) :
    (∀ db db' : Database, (db.ofTenant T).SameRows (db'.ofTenant T) →
      ∀ (id : String) (s e : Time),
        (∀ pick : Picks, pick.OrderFree →
          ((checkVehicleAvailabilityBy pick id T s e).eval db =
              (checkVehicleAvailabilityBy pick id T s e).eval db' ↔
            (UnderMaintenance db.toTables id ↔ UnderMaintenance db'.toTables id))) ∧
        ((∀ pick : Picks, pick.OrderFree →
            (checkDriverAvailabilityBy pick id T s e).eval db =
              (checkDriverAvailabilityBy pick id T s e).eval db') ↔
          SameAssignments db.toTables db'.toTables id s e) ∧
        (OwnVehicle db.toTables T id →
          (UnderMaintenance db.toTables id ↔ UnderMaintenance db'.toTables id)) ∧
        (OwnDriver db.toTables T id → SameAssignments db.toTables db'.toTables id s e)) ∧
    ∀ (clients : Clients) (pick : Pick FeatureAccess) (k : Socket) (es es' : List LiveEvent),
      clients.redis.Local →
      (es.filter fun e => !e.savesFor clients.jwt T) =
        (es'.filter fun e => !e.savesFor clients.jwt T) →
      Along (Live.step clients pick) Live.Generates es Live.init →
      Along (Live.step clients pick) Live.Generates es' Live.init →
      (∀ e ∈ es, ¬e.Joins k T) →
      (run (Live.step clients pick) es Live.init).received k =
        (run (Live.step clients pick) es' Live.init).received k := by
  constructor
  · intro db db' h id s e
    refine ⟨fun pick hpick => checkVehicleAvailabilityBy_eq_iff h hpick,
      forall_checkDriverAvailabilityBy_eq_iff h, ?_, ?_⟩
    · exact fun hid => underMaintenance_iff_of_own h hid
    · exact fun hid => sameAssignments_of_own h hid
  · intro clients pick k es es' hredis hsame hgen hgen' hjoin
    exact Live.received_eq_of_outside hredis hsame hgen hgen' hjoin

/-! ### Two companies -/

namespace Sample

/-- Companies `t0` and `x0`; the second has the vehicle `v0` and the driver `d0`. -/
def twoCompanies : List Request :=
  [tenant "t", tenant "x", vehicle "v" "x0", driver "d" "x0" .undefined]

/-- The vehicle of the second is under maintenance. -/
def maintenance : Request :=
  .tenant (.sample "m" 0) "x0" (.vehicles (.update "v0" { status := .value .maintenance }))

/-- The driver of the second is assigned to its vehicle. -/
def newAssignment : Request := assignment "a" "x0" "v0" "d0" 0 .undefined

/-- Every run of requests leads to a reachable state. -/
theorem reachable (rs : List Request) : Reachable (run step rs Database.empty) := ⟨rs, rfl⟩

/-- Neither makes a difference to the first. -/
theorem agree_maintenance : ((run step twoCompanies Database.empty).ofTenant "t0").SameRows
    ((run step (twoCompanies ++ [maintenance]) Database.empty).ofTenant "t0") := by
  have heq : (run step twoCompanies Database.empty).ofTenant "t0" =
      (run step (twoCompanies ++ [maintenance]) Database.empty).ofTenant "t0" := by decide +kernel
  exact heq ▸ .refl _

/-- Nor does the assignment. -/
theorem agree_assignment : ((run step twoCompanies Database.empty).ofTenant "t0").SameRows
    ((run step (twoCompanies ++ [newAssignment]) Database.empty).ofTenant "t0") := by
  have heq : (run step twoCompanies Database.empty).ofTenant "t0" =
      (run step (twoCompanies ++ [newAssignment]) Database.empty).ofTenant "t0" := by
    decide +kernel
  exact heq ▸ .refl _

def companyToken : Signed := token .access "t1" "t" "t0" .admin

def liveClients : Clients :=
  clients [("s", token .access "s1" "s" "s0" .superAdmin), ("t", companyToken)]

/-- Company `t0` registers, is approved, and gets the vehicle `v0`. -/
def liveCompany : List LiveEvent :=
  [.app (.http (http (.sample "s" 0) none
     (.platform (.seedSuperAdmin { name := "s", email := "s", password := "s", seedSecret := "" })))),
   .app (.http (http (.sample "t" 0) none
     (.platform (.registerTenant
       { tenantName := "t", adminName := "t", email := "t", password := "t" })))),
   .app (.http (http (.sample "a" 0) (some "s") (.platform (.approve "t1")))),
   .app (.http (http (.sample "l" 0) none (.login ⟨"t", "t"⟩))),
   .app (.http (http (.sample "v" 0) (some "t")
     (.tenant (.vehicles (.create { registrationNo := "v", model := "v" })))))]

/-- The vehicle is where it is. -/
def saveLocation (tag : String) (now : Time) : LiveEvent :=
  .app (.http (http (.sample tag now) (some "t")
    (.tenant (.tracking false { vehicleId := "v0", lat := 1, lng := 2 }))))

/-- A socket of a client without an account. -/
def socket : Socket := ⟨"k", none⟩

/-- Without the calls of the company, its last one makes no difference. -/
theorem filter_saveLocation (es : List LiveEvent) :
    ((es ++ [saveLocation "g" 0]).filter fun e => !e.savesFor liveClients.jwt "t0") =
      es.filter fun e => !e.savesFor liveClients.jwt "t0" := by
  have hsaves : (saveLocation "g" 0).savesFor liveClients.jwt "t0" = true := by decide +kernel
  rw [List.filter_append, List.filter_cons_of_neg (by rw [hsaves]; decide), List.filter_nil,
    List.append_nil]

end Sample

/-- Between the two states the answer about the vehicle changes and the one about the driver
does not, and a socket in the room `x0` does not hear of the location. -/
theorem leaks_between_tenants_two_companies :
    let db := run step Sample.twoCompanies Database.empty
    let db' := run step (Sample.twoCompanies ++ [Sample.maintenance]) Database.empty
    let live := run (Live.step Sample.liveClients .first)
    let before := Sample.liveCompany ++ [.joinRoom Sample.socket (some " x0 ")]
    (checkVehicleAvailabilityBy .any "v0" "t0" 0 10).eval db ≠
        (checkVehicleAvailabilityBy .any "v0" "t0" 0 10).eval db' ∧
      (checkDriverAvailabilityBy .any "d0" "t0" 0 10).eval db =
        (checkDriverAvailabilityBy .any "d0" "t0" 0 10).eval db' ∧
      (live (before ++ [Sample.saveLocation "g" 0]) Live.init).received Sample.socket =
        (live before Live.init).received Sample.socket := by
  intro db db' live before
  obtain ⟨hanswers, hsockets⟩ := leaks_between_tenants "t0"
  obtain ⟨hvehicle, -, -, -⟩ := hanswers db db' Sample.agree_maintenance "v0" 0 10
  obtain ⟨-, hdriver, -, -⟩ := hanswers db db' Sample.agree_maintenance "d0" 0 10
  refine ⟨?_, hdriver.2 (by decide +kernel) .any Picks.any_orderFree, ?_⟩
  · intro hsame
    exact absurd ((hvehicle .any Picks.any_orderFree).1 hsame) (by decide +kernel)
  · exact hsockets Sample.liveClients .first Sample.socket _ _ Server.prompt_local
      (Sample.filter_saveLocation before) (by decide +kernel) (by decide +kernel) (by decide +kernel)

/-- The vehicle, the driver and the location of another company. -/
theorem tenants_leak :
    (¬∀ T db db', Reachable db → Reachable db' → (db.ofTenant T).SameRows (db'.ofTenant T) →
      ∀ pick : Picks, pick.OrderFree → ∀ id s e,
        (checkVehicleAvailabilityBy pick id T s e).eval db =
          (checkVehicleAvailabilityBy pick id T s e).eval db') ∧
    (¬∀ T db db', Reachable db → Reachable db' → (db.ofTenant T).SameRows (db'.ofTenant T) →
      ∀ pick : Picks, pick.OrderFree → ∀ id s e,
        (checkDriverAvailabilityBy pick id T s e).eval db =
          (checkDriverAvailabilityBy pick id T s e).eval db') ∧
    ¬∀ T clients pick (k : Socket) es es', clients.redis.Local →
      (es.filter fun e => !e.savesFor clients.jwt T) =
        (es'.filter fun e => !e.savesFor clients.jwt T) →
      Along (Live.step clients pick) Live.Generates es Live.init →
      Along (Live.step clients pick) Live.Generates es' Live.init →
      (∀ u ∈ (run (Live.step clients pick) es Live.init).world.db.users, u.tenantId = T →
        k.openedBy ≠ some u.id.val) →
      (∀ u ∈ (run (Live.step clients pick) es' Live.init).world.db.users, u.tenantId = T →
        k.openedBy ≠ some u.id.val) →
      (run (Live.step clients pick) es Live.init).received k =
        (run (Live.step clients pick) es' Live.init).received k := by
  refine ⟨fun hclaim => ?_, fun hclaim => ?_, fun hclaim => ?_⟩
  · have hsame := hclaim "t0" _ _ (Sample.reachable _) (Sample.reachable _) Sample.agree_maintenance
      .any Picks.any_orderFree "v0" 0 10
    have hvehicle :=
      (checkVehicleAvailabilityBy_eq_iff Sample.agree_maintenance Picks.any_orderFree).1 hsame
    exact absurd hvehicle (by decide +kernel)
  · have hdriver := (forall_checkDriverAvailabilityBy_eq_iff Sample.agree_assignment).1
      fun pick hpick => hclaim "t0" _ _ (Sample.reachable _) (Sample.reachable _)
        Sample.agree_assignment pick hpick "d0" 0 10
    exact absurd hdriver (by decide +kernel)
  · let before := Sample.liveCompany ++ [.joinRoom Sample.socket (some "t0")]
    have hsame := hclaim "t0" Sample.liveClients .first Sample.socket
      (before ++ [Sample.saveLocation "g" 0]) before Server.prompt_local
      (Sample.filter_saveLocation before) (by decide +kernel) (by decide +kernel)
      (by decide +kernel) (by decide +kernel)
    exact absurd hsame (by decide +kernel)

end NodeVms
