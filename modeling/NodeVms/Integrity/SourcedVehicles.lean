/-
# Two ways to source a vehicle

`vehicles.create` with a contract and `contracts.create` with a vehicle describe
the same two rows.  What their checks and the constraints of the schema demand of
these rows comes down to one condition on the database, `SourceInput.Fits`, in
which no generated id occurs.
-/

import NodeVms.Integrity.Unique

namespace NodeVms

open Store Script Prisma Validator

variable {db db' : Database} {env env' : Env} {T : String}

/-- The fields of a contracted vehicle and of its source contract. -/
structure SourceInput where
  registrationNo : String
  make : Field String
  model : String
  year : Field Int
  color : Field String
  fuelType : Field FuelType
  seatCount : Field Int
  branchId : Field String
  startDate : JsDate
  endDate : JsDate
  amount : Amount
  commission : Field Amount
  contactName : Field String
  contactEmail : Field String
  contactPhone : Field String
  contactAddress : Field String

namespace SourceInput

variable {i : SourceInput} {s e : Time}

/-- The body of `POST /vehicles`. -/
def viaVehicle (i : SourceInput) : CreateVehicleDto :=
  { registrationNo := i.registrationNo, make := i.make, model := i.model, year := i.year,
    color := i.color, fuelType := i.fuelType, seatCount := i.seatCount, branchId := i.branchId,
    sourceType := .value .contract,
    contract := .value
      { startDate := i.startDate, endDate := i.endDate, amount := i.amount,
        commission := i.commission, contactName := i.contactName, contactEmail := i.contactEmail,
        contactPhone := i.contactPhone, contactAddress := i.contactAddress } }

/-- The body of `POST /contracts`. -/
def viaContract (i : SourceInput) : CreateContractDto :=
  { type := .vehicleSource, startDate := i.startDate, endDate := i.endDate, amount := i.amount,
    commission := i.commission, contactName := i.contactName, contactEmail := i.contactEmail,
    contactPhone := i.contactPhone, contactAddress := i.contactAddress,
    vehicle := .value
      { registrationNo := i.registrationNo, make := i.make, model := i.model, year := i.year,
        color := i.color, fuelType := i.fuelType, seatCount := i.seatCount,
        branchId := i.branchId } }

/-- The vehicle that the input describes. -/
def vehicle (i : SourceInput) (id : Cuid) (T : String) : Vehicle :=
  { id, tenantId := T, branchId := i.branchId.nullish, registrationNo := i.registrationNo,
    make := i.make.nullish, model := i.model, year := i.year.nullish, color := i.color.nullish,
    fuelType := i.fuelType.nullish, seatCount := i.seatCount.nullish.getD 4,
    status := .available, sourceType := .contract, fitnessExpiryDate := none,
    taxTokenExpiryDate := none, deletedAt := none }

/-- The contract that the input describes. -/
def contract (i : SourceInput) (id : Cuid) (T : String) (s e : Time) (vehicleId : Cuid) :
    Contract :=
  { id, tenantId := T, type := .vehicleSource, startDate := s, endDate := e, amount := i.amount,
    commission := i.commission.nullish.getD 0, vehicleId := some vehicleId,
    contactName := i.contactName.nullish, contactEmail := i.contactEmail.nullish,
    contactPhone := i.contactPhone.nullish, contactAddress := i.contactAddress.nullish,
    deletedAt := none }

/-- The tables with both rows. -/
def stored (i : SourceInput) (env : Env) (T : String) (s e : Time) (t : Tables) : Tables :=
  Model.contract.insert [i.contract (env.cuid 1) T s e (env.cuid 0)]
    (Model.vehicle.insert [i.vehicle (env.cuid 0) T] t)

/-- The rows fit into the tables. -/
structure Fits (i : SourceInput) (T : String) (s e : Time) (t : Tables) : Prop where
  start : i.startDate = some s
  stop : i.endDate = some e
  period : s < e
  registrationNo : ∀ v ∈ t.vehicles, v.registrationNo ≠ i.registrationNo
  tenant : ∃ r ∈ t.tenants, r.id.val = T
  branch : ∀ k, i.branchId.nullish = some k → LiveBranch t T k

/-! ### The constraints -/

/-- A new vehicle refers to rows that exist. -/
theorem resolved_insert_vehicle {v : Vehicle} (htenant : ∃ r ∈ db.tenants, r.id.val = v.tenantId)
    (hbranch : ∀ k, v.branchId = some k → ∃ b ∈ db.branches, b.id.val = k) :
    (Model.vehicle.insert [v] db.toTables).Resolved := by
  refine Schema.vehicle_refers.resolved_insert ?_
  simp only [List.forall_mem_cons, List.not_mem_nil, false_implies, implies_true, and_true,
    Option.some.injEq, forall_eq', Schema.mem_idsOf]
  exact ⟨htenant, hbranch⟩

/-- So does a new contract. -/
theorem resolved_insert_contract {c : Contract} (htenant : ∃ r ∈ db.tenants, r.id.val = c.tenantId)
    (hvehicle : ∀ k, c.vehicleId = some k → ∃ v ∈ db.vehicles, v.id.val = k) :
    (Model.contract.insert [c] db.toTables).Resolved := by
  refine Schema.contract_refers.resolved_insert ?_
  simp only [List.forall_mem_cons, List.not_mem_nil, false_implies, implies_true, and_true,
    Option.some.injEq, forall_eq', Schema.mem_idsOf]
  exact ⟨htenant, hvehicle⟩

/-- A vehicle that fits can be stored. -/
theorem exists_vehicle_stored (hids : NewIds env db.toTables) (h : i.Fits T s e db.toTables) :
    ∃ db₁ : Database,
      db₁.toTables = Model.vehicle.insert [i.vehicle (env.cuid 0) T] db.toTables := by
  have hunique : (Model.vehicle.insert [i.vehicle (env.cuid 0) T] db.toTables).Unique :=
    (unique_insert_vehicle fun v hv => hids.vehicles v hv 0).2 h.registrationNo
  have hresolved : (Model.vehicle.insert [i.vehicle (env.cuid 0) T] db.toTables).Resolved := by
    refine resolved_insert_vehicle h.tenant fun k hk => ?_
    obtain ⟨b, hb, hid, -⟩ := h.branch k hk
    exact ⟨b, hb, hid⟩
  exact ⟨⟨_, hunique, hresolved⟩, rfl⟩

/-- So can its contract. -/
theorem exists_stored (hids : NewIds env db.toTables) (h : i.Fits T s e db.toTables) :
    ∃ db' : Database, db'.toTables = i.stored env T s e db.toTables := by
  obtain ⟨db₁, hw₁⟩ := exists_vehicle_stored hids h
  let c := i.contract (env.cuid 1) T s e (env.cuid 0)
  have hnew : ∀ a ∈ db₁.contracts, a.id ≠ c.id := by
    rw [hw₁]
    exact fun a ha => hids.contracts a ha 1
  have htenant : ∃ r ∈ db₁.tenants, r.id.val = c.tenantId := by
    rw [hw₁]
    exact h.tenant
  have hvehicle : ∀ k, c.vehicleId = some k → ∃ v ∈ db₁.vehicles, v.id.val = k := by
    intro k hk
    refine ⟨i.vehicle (env.cuid 0) T, ?_, Option.some.inj hk⟩
    rw [hw₁]
    exact List.mem_append_right _ (List.mem_singleton_self _)
  have hunique : (Model.contract.insert [c] db₁.toTables).Unique :=
    Schema.contract_indexed.unique_insert_of_id hnew
  exact ⟨⟨_, hunique, resolved_insert_contract htenant hvehicle⟩,
    congrArg (Model.contract.insert [c]) hw₁⟩

/-- What is left of the two handlers after their checks: the two statements go
through exactly if the rows fit. -/
theorem fits_iff (hids : NewIds env db.toTables) (hs : i.startDate = some s)
    (he : i.endDate = some e) (hse : s < e) :
    (∃ db₁ : Database, db₁.toTables = Model.vehicle.insert [i.vehicle (env.cuid 0) T] db.toTables ∧
        db'.toTables = Model.contract.insert [i.contract (env.cuid 1) T s e (env.cuid 0)]
          db₁.toTables) ∧
      (∀ k, i.branchId.nullish = some k → k ≠ "" → LiveBranch db.toTables T k) ↔
    i.Fits T s e db.toTables ∧ db'.toTables = i.stored env T s e db.toTables := by
  have hnew : ∀ v ∈ db.vehicles, v.id ≠ (i.vehicle (env.cuid 0) T).id :=
    fun v hv => hids.vehicles v hv 0
  constructor
  · rintro ⟨⟨db₁, hw₁, hw⟩, hbranch⟩
    have hmem : i.vehicle (env.cuid 0) T ∈ db₁.vehicles := by
      rw [hw₁]
      exact List.mem_append_right _ (List.mem_singleton_self _)
    refine ⟨⟨hs, he, hse, ?_, ?_, fun k hk => hbranch k hk ?_⟩, by rw [hw, hw₁]; rfl⟩
    · exact (unique_insert_vehicle hnew).1 (hw₁ ▸ db₁.unique)
    · obtain ⟨t, ht, hid⟩ := db₁.exists_of_fkey Schema.vehicle_tenantId_fkey hmem rfl
      rw [hw₁] at ht
      exact ⟨t, ht, hid⟩
    · rintro rfl
      exact db₁.ref_ne_empty Schema.vehicle_branchId_fkey hmem hk
  · rintro ⟨hfits, hw⟩
    obtain ⟨db₁, hw₁⟩ := exists_vehicle_stored hids hfits
    exact ⟨⟨db₁, hw₁, hw₁ ▸ hw⟩, fun k hk _ => hfits.branch k hk⟩

/-! ### The two handlers -/

/-- `vehicles.create` on such a body: the registration number and the branch are
checked before the period. -/
theorem vehicles_create_eq : Vehicles.create env T i.viaVehicle = (do
    assertRegistrationUnique i.registrationNo
    assertBranchExists T i.branchId.nullish
    throwIf (JsDate.le i.endDate i.startDate) endBeforeStart
    let start ← i.startDate.valid
    let end' ← i.endDate.valid
    commit do
      let vehicle ← Prisma.create .vehicle (i.vehicle (env.cuid 0) T)
      let _ ← Prisma.create .contract (i.contract (env.cuid 1) T start end' vehicle.id)
      pure vehicle) := rfl

/-- `contracts.create` on such a body: the period comes first. -/
theorem contracts_create_eq : Contracts.create env T i.viaContract = (do
    throwIf (JsDate.le i.endDate i.startDate) endBeforeStart
    assertRegistrationUnique i.registrationNo
    assertBranchExists T i.branchId.nullish
    let start ← i.startDate.valid
    let end' ← i.endDate.valid
    commit do
      let vehicle ← Prisma.create .vehicle (i.vehicle (env.cuid 0) T)
      Prisma.create .contract (i.contract (env.cuid 1) T start end' vehicle.id)) := rfl

/-- What creating the vehicle with its contract leaves. -/
theorem vehicles_create_iff (hids : NewIds env db.toTables) {v : Vehicle} :
    (Vehicles.create env T i.viaVehicle).exec db = .ok (v, db') ↔
      v = i.vehicle (env.cuid 0) T ∧
        ∃ s e, i.Fits T s e db.toTables ∧ db'.toTables = i.stored env T s e db.toTables := by
  rw [vehicles_create_eq]
  simp only [exec_bind_eq_ok, exec_commit, eval_assertRegistrationUnique_eq_ok,
    eval_assertBranchExists_eq_ok, eval_throwIf_eq_ok, JsDate.eval_valid_eq_ok, Tx.run_bind_eq_ok,
    run_create_eq_ok, Tx.run_pure_eq_ok]
  constructor
  · rintro ⟨-, -, -, hbranch, -, hle, s, hs, e, he, _, db₁, ⟨rfl, hw₁⟩, _, db₂, ⟨-, hw₂⟩, rfl, rfl⟩
    have hse : s < e := by simpa [hs, he] using hle
    exact ⟨rfl, s, e, (fits_iff hids hs he hse).1 ⟨⟨db₁, hw₁, hw₂⟩, hbranch⟩⟩
  · rintro ⟨rfl, s, e, hfits, hw⟩
    obtain ⟨⟨db₁, hw₁, hw₂⟩, hbranch⟩ :=
      (fits_iff hids hfits.start hfits.stop hfits.period).2 ⟨hfits, hw⟩
    have hle : ¬JsDate.le i.endDate i.startDate = true := by
      simpa [hfits.start, hfits.stop] using hfits.period
    exact ⟨(), fun r hr hk _ => absurd hk (hfits.registrationNo r hr), (), hbranch, (), hle,
      s, hfits.start, e, hfits.stop, _, db₁, ⟨rfl, hw₁⟩, _, db', ⟨rfl, hw₂⟩, rfl, rfl⟩

/-- What creating the contract with its vehicle leaves. -/
theorem contracts_create_iff (hids : NewIds env db.toTables) {c : Contract} :
    (Contracts.create env T i.viaContract).exec db = .ok (c, db') ↔
      ∃ s e, c = i.contract (env.cuid 1) T s e (env.cuid 0) ∧
        i.Fits T s e db.toTables ∧ db'.toTables = i.stored env T s e db.toTables := by
  rw [contracts_create_eq]
  simp only [exec_bind_eq_ok, exec_commit, eval_assertRegistrationUnique_eq_ok,
    eval_assertBranchExists_eq_ok, eval_throwIf_eq_ok, JsDate.eval_valid_eq_ok, Tx.run_bind_eq_ok,
    run_create_eq_ok]
  constructor
  · rintro ⟨-, hle, -, -, -, hbranch, s, hs, e, he, _, db₁, ⟨rfl, hw₁⟩, rfl, hw₂⟩
    have hse : s < e := by simpa [hs, he] using hle
    exact ⟨s, e, rfl, (fits_iff hids hs he hse).1 ⟨⟨db₁, hw₁, hw₂⟩, hbranch⟩⟩
  · rintro ⟨s, e, rfl, hfits, hw⟩
    obtain ⟨⟨db₁, hw₁, hw₂⟩, hbranch⟩ :=
      (fits_iff hids hfits.start hfits.stop hfits.period).2 ⟨hfits, hw⟩
    have hle : ¬JsDate.le i.endDate i.startDate = true := by
      simpa [hfits.start, hfits.stop] using hfits.period
    exact ⟨(), hle, (), fun r hr hk _ => absurd hk (hfits.registrationNo r hr), (), hbranch,
      s, hfits.start, e, hfits.stop, _, db₁, ⟨rfl, hw₁⟩, rfl, hw₂⟩

/-! ### The law -/

/-- The vehicle is accepted if the input fits. -/
theorem vehicles_accepted_iff (hids : NewIds env db.toTables) :
    (Vehicles.create env T i.viaVehicle).Accepted db ↔ ∃ s e, i.Fits T s e db.toTables := by
  rw [accepted_iff]
  constructor
  · rintro ⟨v, hok⟩
    obtain ⟨-, s, e, hfits, -⟩ := (vehicles_create_iff hids).1 hok
    exact ⟨s, e, hfits⟩
  · rintro ⟨s, e, hfits⟩
    obtain ⟨db', hw⟩ := exists_stored hids hfits
    have hok := (vehicles_create_iff hids).2 ⟨rfl, s, e, hfits, hw⟩
    exact ⟨_, next_of_ok hok ▸ hok⟩

/-- So is the contract. -/
theorem contracts_accepted_iff (hids : NewIds env db.toTables) :
    (Contracts.create env T i.viaContract).Accepted db ↔ ∃ s e, i.Fits T s e db.toTables := by
  rw [accepted_iff]
  constructor
  · rintro ⟨c, hok⟩
    obtain ⟨s, e, -, hfits, -⟩ := (contracts_create_iff hids).1 hok
    exact ⟨s, e, hfits⟩
  · rintro ⟨s, e, hfits⟩
    obtain ⟨db', hw⟩ := exists_stored hids hfits
    have hok := (contracts_create_iff hids).2 ⟨s, e, rfl, hfits, hw⟩
    exact ⟨_, next_of_ok hok ▸ hok⟩

/-- Exactly one vehicle and its contract are added. -/
structure Adds (db db' : Database) (v : Vehicle) (c : Contract) : Prop where
  tables : db'.toTables =
    { db.toTables with vehicles := db.vehicles ++ [v], contracts := db.contracts ++ [c] }
  link : c.vehicleId = some v.id.val

/-- The two rows of both ways, for one input. -/
theorem adds_of_stored {s' e' : Time} {db₁ db₂ : Database} (hfits : i.Fits T s e db.toTables)
    (hfits' : i.Fits T s' e' db.toTables) (hw₁ : db₁.toTables = i.stored env T s e db.toTables)
    (hw₂ : db₂.toTables = i.stored env' T s' e' db.toTables) :
    ∃ v c v' c', Adds db db₁ v c ∧ Adds db db₂ v' c' ∧
      v' = { v with id := v'.id } ∧ c' = { c with id := c'.id, vehicleId := c'.vehicleId } := by
  obtain rfl : s = s' := Option.some.inj (hfits.start.symm.trans hfits'.start)
  obtain rfl : e = e' := Option.some.inj (hfits.stop.symm.trans hfits'.stop)
  exact ⟨i.vehicle (env.cuid 0) T, i.contract (env.cuid 1) T s e (env.cuid 0),
    i.vehicle (env'.cuid 0) T, i.contract (env'.cuid 1) T s e (env'.cuid 0),
    ⟨hw₁, rfl⟩, ⟨hw₂, rfl⟩, rfl, rfl⟩

/-- **The two ways to source a vehicle are equivalent**, whatever ids are generated for either. -/
theorem sourcing_ways_agree (hids : NewIds env db.toTables) (hids' : NewIds env' db.toTables)
    (T : String) (i : SourceInput) :
    let byVehicle := Vehicles.create env T i.viaVehicle
    let byContract := Contracts.create env' T i.viaContract
    (byVehicle.Accepted db ↔ byContract.Accepted db) ∧
    (byVehicle.Accepted db → ∃ v c v' c',
      Adds db (byVehicle.next db) v c ∧ Adds db (byContract.next db) v' c' ∧
        v' = { v with id := v'.id } ∧ c' = { c with id := c'.id, vehicleId := c'.vehicleId }) ∧
    (¬byVehicle.Accepted db → byVehicle.next db = db ∧ byContract.next db = db) := by
  intro byVehicle byContract
  have hiff : byVehicle.Accepted db ↔ byContract.Accepted db :=
    (vehicles_accepted_iff hids).trans (contracts_accepted_iff hids').symm
  refine ⟨hiff, fun haccepted => ?_, fun hrejected => ?_⟩
  · obtain ⟨v, hv⟩ := accepted_iff.1 haccepted
    obtain ⟨c, hc⟩ := accepted_iff.1 (hiff.1 haccepted)
    obtain ⟨-, s, e, hfits, hw⟩ := (vehicles_create_iff hids).1 hv
    obtain ⟨s', e', -, hfits', hw'⟩ := (contracts_create_iff hids').1 hc
    exact adds_of_stored hfits hfits' hw hw'
  · exact ⟨next_of_not_accepted hrejected, next_of_not_accepted fun h => hrejected (hiff.2 h)⟩

/-- A contracted vehicle `x` for the small company. -/
theorem sourcing_ways_agree_company :
    let db := run step Sample.company Database.empty
    let i : SourceInput :=
      { registrationNo := "x", make := .undefined, model := "x", year := .null,
        color := .undefined, fuelType := .undefined, seatCount := .undefined,
        branchId := .undefined, startDate := some 0, endDate := some 10, amount := 1,
        commission := .undefined, contactName := .value "x", contactEmail := .undefined,
        contactPhone := .undefined, contactAddress := .undefined }
    ∃ v c v' c', Adds db ((Vehicles.create Sample.unary "t0" i.viaVehicle).next db) v c ∧
      Adds db ((Contracts.create Sample.unary "t0" i.viaContract).next db) v' c' ∧
      v' = { v with id := v'.id } ∧ c' = { c with id := c'.id, vehicleId := c'.vehicleId } := by
  intro db i
  have hids : NewIds Sample.unary db.toTables :=
    Sample.newIds (by decide) (by decide) (by decide) (by decide) rfl rfl
  refine (sourcing_ways_agree hids hids "t0" i).2.1 ?_
  decide +kernel

end SourceInput

end NodeVms
