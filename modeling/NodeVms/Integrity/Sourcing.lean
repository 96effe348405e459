/-
# Source contracts

A contract of type `VEHICLE_SOURCE` names the vehicle it brings in
(`SourcesNamed`), and a vehicle with `sourceType` `CONTRACT` has such a contract
(`ContractedSourced`).  Both creations see to it; the updates take any subset of
the columns and look at none of the others, and a contract is removed whatever
it sources.  Each law holds as long as no update and no removal goes against
it, and a request that does and goes through breaks it.
-/

import Mathlib.Data.Fintype.Defs
import NodeVms.Integrity.Steps

namespace NodeVms

open Store

variable {db : Database}

/-! ### A source contract names its vehicle -/

/-- Every live source contract has a vehicle. -/
def SourcesNamed (t : Tables) : Prop :=
  ∀ c ∈ t.contracts, c.deletedAt = none → c.type = .vehicleSource → c.vehicleId ≠ none

instance (t : Tables) : Decidable (SourcesNamed t) := by unfold SourcesNamed; infer_instance

/-- The body, merged with what is stored, makes a source contract without a vehicle. -/
def UpdateContractDto.Unnames (dto : UpdateContractDto) (c : Contract) : Prop :=
  dto.type.set c.type = .vehicleSource ∧ dto.vehicleId.setNullable c.vehicleId = none

instance (dto : UpdateContractDto) (c : Contract) : Decidable (dto.Unnames c) := by
  unfold UpdateContractDto.Unnames; infer_instance

/-- The request is no such update of a live contract of its tenant. -/
def Contracts.Request.KeepsNamed (T : String) (t : Tables) : Contracts.Request → Prop
  | .update id dto => ∀ c ∈ t.contracts, c.id.val = id → c.tenantId = T → c.deletedAt = none →
      ¬dto.Unnames c
  | _ => True

instance (T : String) (t : Tables) (rc : Contracts.Request) : Decidable (rc.KeepsNamed T t) := by
  cases rc <;> unfold Contracts.Request.KeepsNamed <;> infer_instance

/-- The same of a request of any kind. -/
def KeepsNamed (r : Request) (db : Database) : Prop :=
  ∀ p ∈ r.contracts?, p.2.KeepsNamed p.1 db.toTables

instance (r : Request) (db : Database) : Decidable (KeepsNamed r db) := by
  unfold KeepsNamed; infer_instance

/-- A request keeps every source contract with its vehicle, unless an update drops it. -/
theorem sourcesNamed_step {r : Request} (h : SourcesNamed db.toTables) (hr : KeepsNamed r db) :
    SourcesNamed (step r db).toTables := by
  intro c' hc' hlive htype
  rcases (step_contracts r db).descends c' hc' with ⟨c, hc, -, hstep⟩ | ⟨-, hnew⟩
  · cases hstep with
    | same => exact h _ hc hlive htype
    | @update env dto s e hreq hclive hs he hse =>
      have hkeeps : ¬dto.Unnames c :=
        hr (c.tenantId, .update c.id dto) (by rw [hreq]; rfl) c hc rfl rfl hclive
      exact fun hnone => hkeeps ⟨htype, hnone⟩
    | remove hreq hclive => exact nomatch hlive
  · exact hnew.vehicle htype

/-- An update of a contract is rejected, or merges the body into the row. -/
theorem Contracts.update_effect (T id : String) (dto : UpdateContractDto) (db : Database) :
    (Contracts.update T id dto).next db = db ∨
      ∃ s e, ((Contracts.update T id dto).next db).contracts =
          updateWhere (fun o => o.id.val = id) (dto.apply s e) db.contracts ∧
        ((Contracts.update T id dto).next db).vehicles = db.vehicles := by
  rcases (Contracts.update T id dto).next_cases db with hsame | ⟨c, hok⟩
  · exact .inl hsame
  · obtain ⟨-, -, -, -, -, -, s, e, -, -, -, hw⟩ := update_ok hok
    refine .inr ⟨s, e, ?_, ?_⟩
    · rw [hw]; rfl
    · rw [hw]; rfl

/-- A request against the law is rejected or breaks it. -/
theorem not_sourcesNamed_step {r : Request} (hr : ¬KeepsNamed r db) (hne : step r db ≠ db) :
    ¬SourcesNamed (step r db).toTables := by
  intro hlaw
  refine hr fun ⟨T, rc⟩ hrc => ?_
  obtain ⟨env, rfl⟩ := eq_of_contracts? hrc
  cases rc with
  | create dto => trivial
  | remove id => trivial
  | update id dto =>
    intro c hc hid _ hlive hunnames
    rcases Contracts.update_effect T id dto db with hsame | ⟨s, e, hcontracts, -⟩
    · exact hne hsame
    · have hmem : dto.apply s e c ∈
          (step (.tenant env T (.contracts (.update id dto))) db).contracts :=
        hcontracts ▸ mem_updateWhere.2 (.inr ⟨c, hc, by simpa using hid, rfl⟩)
      exact hlaw _ hmem hlive hunnames.1 hunnames.2

/-- **A source contract names its vehicle** in every state of a run in which no update takes
the vehicle from one; and after any run, a request that does so is rejected or breaks the law. -/
theorem source_contracts_named (rs : List Request) :
    (Along step KeepsNamed rs Database.empty →
      Always step (fun db => SourcesNamed db.toTables) rs Database.empty) ∧
    let db := run step rs Database.empty
    ∀ r, ¬KeepsNamed r db → step r db = db ∨ ¬SourcesNamed (step r db).toTables := by
  refine ⟨fun hrs => ?_, fun r hr => ?_⟩
  · have hempty : SourcesNamed Database.empty.toTables := fun c hc => absurd hc List.not_mem_nil
    exact Always.of_steps (fun r db h hr => sourcesNamed_step h hr) hempty hrs
  · rw [or_iff_not_imp_left]
    exact not_sourcesNamed_step hr

/-- A contract for `v0` or for no vehicle. -/
def Sample.contract (tag tenantId : String) (type : ContractType) (vehicleId : Field String) :
    Request :=
  .tenant (.sample tag 0) tenantId (.contracts (.create
    { type, startDate := some 0, endDate := some 10, amount := 1, vehicleId }))

def Sample.updateContract (tenantId id : String) (dto : UpdateContractDto) : Request :=
  .tenant (.sample "x" 0) tenantId (.contracts (.update id dto))

/-- A client contract becomes a source contract together with its vehicle. -/
theorem source_contracts_named_update :
    Always step (fun db => SourcesNamed db.toTables)
      (Sample.company ++
        [Sample.contract "c" "t0" .client .undefined,
         Sample.updateContract "t0" "c0"
          { type := .value .vehicleSource, vehicleId := .value "v0" }]) Database.empty :=
  (source_contracts_named _).1 (by decide +kernel)

/-- A source contract drops its vehicle. -/
theorem source_contract_without_vehicle :
    ¬∀ db, Reachable db → SourcesNamed db.toTables := by
  intro h
  let rs := Sample.company ++
    [Sample.contract "c" "t0" .vehicleSource (.value "v0"),
     Sample.updateContract "t0" "c0" { vehicleId := .null }]
  have hrow : ¬SourcesNamed (run step rs Database.empty).toTables := by decide +kernel
  exact hrow (h _ ⟨rs, rfl⟩)

/-! ### A contracted vehicle has its contract -/

/-- The vehicle is a live contracted one. -/
def Contracted (v : Vehicle) : Prop := v.deletedAt = none ∧ v.sourceType = .contract

/-- Every live contracted vehicle has a live source contract of its tenant. -/
def ContractedSourced (t : Tables) : Prop := ∀ v ∈ t.vehicles, Contracted v → Sourced t v

instance (v : Vehicle) : Decidable (Contracted v) := by unfold Contracted; infer_instance

instance (t : Tables) : Decidable (ContractedSourced t) := by
  unfold ContractedSourced; infer_instance

/-- A contract other than `id` sources the vehicle. -/
def SourcedBesides (t : Tables) (id : String) (v : Vehicle) : Prop :=
  ∃ c ∈ t.contracts, c.id.val ≠ id ∧ Sources c v

instance (t : Tables) (id : String) (v : Vehicle) : Decidable (SourcedBesides t id v) := by
  unfold SourcedBesides; infer_instance

/-- The request makes a contracted vehicle only of one that has a source contract. -/
def Vehicles.Request.KeepsSourced (T : String) (t : Tables) : Vehicles.Request → Prop
  | .update id dto => dto.sourceType = .value .contract → ∀ v ∈ t.vehicles, v.id.val = id →
      v.tenantId = T → v.deletedAt = none → Sourced t v
  | _ => True

/-- The request does not take a contracted vehicle its last source contract. -/
def Contracts.Request.KeepsSourced (T : String) (t : Tables) : Contracts.Request → Prop
  | .update id dto => ∀ c ∈ t.contracts, c.id.val = id → c.tenantId = T →
      ∀ v ∈ t.vehicles, Contracted v → Sources c v →
        (dto.type.set c.type = .vehicleSource ∧
          dto.vehicleId.setNullable c.vehicleId = some v.id.val) ∨ SourcedBesides t id v
  | .remove id => ∀ c ∈ t.contracts, c.id.val = id → c.tenantId = T →
      ∀ v ∈ t.vehicles, Contracted v → Sources c v → SourcedBesides t id v
  | .create _ => True

instance (T : String) (t : Tables) (rv : Vehicles.Request) : Decidable (rv.KeepsSourced T t) := by
  cases rv <;> unfold Vehicles.Request.KeepsSourced <;> infer_instance

instance (T : String) (t : Tables) (rc : Contracts.Request) : Decidable (rc.KeepsSourced T t) := by
  cases rc <;> unfold Contracts.Request.KeepsSourced <;> infer_instance

/-- The same of a request of any kind. -/
def KeepsSourced (r : Request) (db : Database) : Prop :=
  (∀ p ∈ r.vehicles?, p.2.KeepsSourced p.1 db.toTables) ∧
    ∀ p ∈ r.contracts?, p.2.KeepsSourced p.1 db.toTables

instance (r : Request) (db : Database) : Decidable (KeepsSourced r db) := by
  unfold KeepsSourced; infer_instance

/-- A vehicle is sourced by its id and tenant alone. -/
theorem Sourced.congr {t : Tables} {v v' : Vehicle} (h : Sourced t v) (hid : v'.id = v.id)
    (hT : v'.tenantId = v.tenantId) : Sourced t v' := by
  unfold Sourced Sources at *
  rwa [hid, hT]

/-- The contract a request changes. -/
def Contracts.Request.target? : Contracts.Request → Option String
  | .create _ => none
  | .update id _ => some id
  | .remove id => some id

/-- A source contract that the request does not change sources its vehicle afterwards. -/
theorem Sources.step {r : Request} {c : Contract} {v : Vehicle} (hc : c ∈ db.contracts)
    (h : Sources c v) (hr : ∀ p ∈ r.contracts?, p.2.target? ≠ some c.id.val) :
    Sourced (NodeVms.step r db).toTables v := by
  obtain ⟨c', hc', -, hstep⟩ := (step_contracts r db).exists_next hc
  cases hstep with
  | same => exact ⟨c, hc', h⟩
  | @update env dto s e hreq => exact absurd rfl (hr (c.tenantId, _) (by rw [hreq]; rfl))
  | @remove env hreq => exact absurd rfl (hr (c.tenantId, _) (by rw [hreq]; rfl))

/-- A vehicle with another source contract keeps that one. -/
theorem SourcedBesides.step {r : Request} {T : String} {rc : Contracts.Request} {id : String}
    {v : Vehicle} (h : SourcedBesides db.toTables id v) (hrc : r.contracts? = some (T, rc))
    (hid : rc.target? = some id) : Sourced (NodeVms.step r db).toTables v := by
  obtain ⟨o, ho, hne, hov⟩ := h
  refine hov.step ho fun p hp htarget => ?_
  obtain rfl : (T, rc) = p := Option.some.inj (hrc.symm.trans hp)
  exact hne (Option.some.inj (htarget.symm.trans hid))

/-- A vehicle keeps a source contract if the request is not one on contracts or
leaves the vehicle one. -/
theorem sourced_step {r : Request} {v : Vehicle} (h : Sourced db.toTables v)
    (hr : r.contracts? = none ∨ v ∈ db.vehicles ∧ Contracted v ∧ KeepsSourced r db) :
    Sourced (step r db).toTables v := by
  obtain ⟨c, hc, hcv⟩ := h
  obtain ⟨c', hc', -, hstep⟩ := (step_contracts r db).exists_next hc
  cases hstep with
  | same => exact ⟨c, hc', hcv⟩
  | @update env dto s e hreq =>
    have hrc : r.contracts? = some (c.tenantId, .update c.id dto) := by rw [hreq]; rfl
    rw [hrc] at hr
    obtain ⟨hv, hcon, -, hkeeps⟩ := hr.resolve_left nofun
    rcases hkeeps _ hrc c hc rfl rfl v hv hcon hcv with ⟨htype, hnames⟩ | hbesides
    · exact ⟨_, hc', hcv.1, htype, hcv.2.2.1, hnames⟩
    · exact hbesides.step hrc rfl
  | @remove env hreq =>
    have hrc : r.contracts? = some (c.tenantId, .remove c.id) := by rw [hreq]; rfl
    rw [hrc] at hr
    obtain ⟨hv, hcon, -, hkeeps⟩ := hr.resolve_left nofun
    exact (hkeeps _ hrc c hc rfl rfl v hv hcon hcv).step hrc rfl

/-- A request keeps contracted vehicles sourced, unless it takes the contract away. -/
theorem contractedSourced_step {r : Request} (h : ContractedSourced db.toTables)
    (hr : KeepsSourced r db) : ContractedSourced (step r db).toTables := by
  intro v' hv' hcon
  rcases (step_vehicles r db).descends v' hv' with ⟨v, hv, -, hstep⟩ | ⟨-, hnew⟩
  · -- what is sourced was sourced before, and no contract is lost
    have hold : Contracted v → Sourced (step r db).toTables v := fun hcon =>
      sourced_step (h v hv hcon) (.inr ⟨hv, hcon, hr⟩)
    cases hstep with
    | same => exact hold hcon
    | unbranch => exact (hold hcon).congr rfl rfl
    | trip => exact (hold hcon).congr rfl rfl
    | remove => exact nomatch hcon.1
    | @update env dto hreq hlive fitness taxToken =>
      have hno : r.contracts? = none := by rw [hreq]; rfl
      have hsource : Sourced db.toTables v := by
        rcases Field.value_or_of_set_eq hcon.2 with hcontract | hcontract
        · exact hr.1 (v.tenantId, .update v.id dto) (by rw [hreq]; rfl) hcontract v hv rfl rfl hlive
        · exact h v hv ⟨hlive, hcontract⟩
      exact (sourced_step hsource (.inl hno)).congr rfl rfl
  · exact hnew.sourced hcon.2

/-- After one contract was changed, a vehicle is sourced by that one or by another. -/
theorem Sourced.of_update {t : Tables} {c : Contract} {f : Contract → Contract} {v : Vehicle}
    (hc : c ∈ db.contracts)
    (ht : t.contracts = updateWhere (fun o => o.id.val = c.id.val) f db.contracts)
    (h : Sourced t v) : Sources (f c) v ∨ SourcedBesides db.toTables c.id v := by
  obtain ⟨o', ho', hov⟩ := h
  rw [ht] at ho'
  rcases mem_updateWhere.1 ho' with ⟨ho, hid⟩ | ⟨o, ho, hid, rfl⟩
  · exact .inr ⟨o', ho, of_decide_eq_false hid, hov⟩
  · obtain rfl := db.eq_of_id .contract ho hc (of_decide_eq_true hid)
    exact .inl hov

/-- If the law holds after an accepted update, then the vehicle had a source contract. -/
theorem Vehicles.Request.keepsSourced_of_next (rv : Vehicles.Request) {env : Env} {T : String}
    (hne : rv.next env T db ≠ db) (hlaw : ContractedSourced (rv.next env T db).toTables) :
    rv.KeepsSourced T db.toTables := by
  cases rv with
  | create dto => trivial
  | remove id => trivial
  | update id dto =>
    intro hcontract v hv hid _ hlive
    obtain ⟨v', hok⟩ := ((Vehicles.update T id dto).next_cases db).resolve_left hne
    obtain ⟨-, -, fitness, taxToken, hw⟩ := Vehicles.update_ok hok
    have hcontracts : ((Vehicles.update T id dto).next db).contracts = db.contracts :=
      (congrArg Tables.contracts hw).trans rfl
    have hmem : dto.apply fitness taxToken v ∈ ((Vehicles.update T id dto).next db).vehicles := by
      have hvehicles := congrArg Tables.vehicles hw
      exact hvehicles ▸ mem_updateWhere.2 (.inr ⟨v, hv, by simpa using hid, rfl⟩)
    have hsourced : Sourced ((Vehicles.update T id dto).next db).toTables
        (dto.apply fitness taxToken v) :=
      hlaw _ hmem ⟨hlive, by rw [UpdateVehicleDto.apply, hcontract]; rfl⟩
    rw [Sourced, hcontracts] at hsourced
    exact Sourced.congr hsourced rfl rfl

/-- If the law holds after a contract was changed or removed, then the vehicle keeps one. -/
theorem Contracts.Request.keepsSourced_of_next (rc : Contracts.Request) {env : Env} {T : String}
    (hne : rc.next env T db ≠ db) (hlaw : ContractedSourced (rc.next env T db).toTables) :
    rc.KeepsSourced T db.toTables := by
  cases rc with
  | create dto => trivial
  | update id dto =>
    rintro c hc rfl - v hv hcon -
    obtain ⟨s, e, hcontracts, hvehicles⟩ :=
      (Contracts.update_effect T c.id dto db).resolve_left hne
    have hsourced := hlaw v (hvehicles ▸ hv) hcon
    exact (hsourced.of_update hc hcontracts).imp_left fun h => ⟨h.2.1, h.2.2.2⟩
  | remove id =>
    rintro c hc rfl - v hv hcon -
    obtain ⟨c', hok⟩ := ((Contracts.remove env T c.id).next_cases db).resolve_left hne
    have hw := (Contracts.remove_ok hok).2
    have hsourced := hlaw v (congrArg Tables.vehicles hw ▸ hv) hcon
    exact (hsourced.of_update hc (congrArg Tables.contracts hw)).resolve_left fun h => nomatch h.1

/-- A request against the law is rejected or breaks it. -/
theorem not_contractedSourced_step {r : Request} (hr : ¬KeepsSourced r db)
    (hne : step r db ≠ db) : ¬ContractedSourced (step r db).toTables := by
  intro hlaw
  refine hr ⟨fun ⟨T, rv⟩ hrv => ?_, fun ⟨T, rc⟩ hrc => ?_⟩
  · obtain ⟨env, rfl⟩ := eq_of_vehicles? hrv
    exact rv.keepsSourced_of_next hne hlaw
  · obtain ⟨env, rfl⟩ := eq_of_contracts? hrc
    exact rc.keepsSourced_of_next hne hlaw

/-- **A contracted vehicle has its contract** in every state of a run in which no request makes a
contracted vehicle of one without a source contract or takes a contracted vehicle its last one;
and after any run, a request that does so is rejected or breaks the law. -/
theorem contracted_vehicles_sourced (rs : List Request) :
    (Along step KeepsSourced rs Database.empty →
      Always step (fun db => ContractedSourced db.toTables) rs Database.empty) ∧
    let db := run step rs Database.empty
    ∀ r, ¬KeepsSourced r db → step r db = db ∨ ¬ContractedSourced (step r db).toTables := by
  refine ⟨fun hrs => ?_, fun r hr => ?_⟩
  · have hempty : ContractedSourced Database.empty.toTables :=
      fun v hv => absurd hv List.not_mem_nil
    exact Always.of_steps (fun r db h hr => contractedSourced_step h hr) hempty hrs
  · rw [or_iff_not_imp_left]
    exact not_contractedSourced_step hr

/-- `v0` gets a source contract, becomes a contracted vehicle and changes its contract. -/
theorem contracted_vehicles_sourced_change :
    Always step (fun db => ContractedSourced db.toTables)
      (Sample.company ++
        [Sample.contract "c" "t0" .vehicleSource (.value "v0"),
         .tenant (.sample "x" 0) "t0"
           (.vehicles (.update "v0" { sourceType := .value .contract })),
         Sample.contract "e" "t0" .vehicleSource (.value "v0"),
         .tenant (.sample "x" 0) "t0" (.contracts (.remove "c0"))]) Database.empty :=
  (contracted_vehicles_sourced _).1 (by decide +kernel)

/-- The source contract of a contracted vehicle is removed. -/
theorem contracted_vehicle_without_contract :
    ¬∀ db, Reachable db → ContractedSourced db.toTables := by
  intro h
  let rs := Sample.company ++
    [Sample.contract "c" "t0" .vehicleSource (.value "v0"),
     .tenant (.sample "x" 0) "t0" (.vehicles (.update "v0" { sourceType := .value .contract })),
     .tenant (.sample "x" 0) "t0" (.contracts (.remove "c0"))]
  have hrow : ¬ContractedSourced (run step rs Database.empty).toTables := by decide +kernel
  exact hrow (h _ ⟨rs, rfl⟩)

end NodeVms
