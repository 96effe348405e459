/-
# Branch names

No index keeps the names of a tenant's branches apart.  `create` looks for a
live branch with the name before it writes one.  `update` looks only if the body
has a name that is not empty, and then writes the name whatever it is; so two
branches can both be renamed to the empty string.
-/

import NodeVms.Frames

namespace NodeVms

open Store Branches

variable {db db' : Database} {env : Env} {T id : String} {branch : Branch}

/-- Two live branches of one tenant have one name. -/
def SameName (a b : Branch) : Prop :=
  a.deletedAt = none ∧ b.deletedAt = none ∧ a.tenantId = b.tenantId ∧ a.name = b.name

/-- Different live branches of a tenant have different names. -/
def NamesUnique (t : Tables) : Prop := Exclusive SameName t.branches

instance (a b : Branch) : Decidable (SameName a b) := by unfold SameName; infer_instance

instance (t : Tables) : Decidable (NamesUnique t) := by
  unfold NamesUnique Exclusive; infer_instance

/-- Which of two branches comes first does not matter. -/
theorem SameName.symm (a b : Branch) (h : SameName a b) : SameName b a :=
  ⟨h.2.1, h.1, h.2.2.1.symm, h.2.2.2.symm⟩

/-- The tenant and the request, if it is one on branches. -/
def Request.branches? : Request → Option (String × Branches.Request)
  | .tenant _ T (.branches rb) => some (T, rb)
  | _ => none

/-- A request on branches is one of a tenant. -/
theorem eq_of_branches? {r : Request} {rb : Branches.Request} (h : r.branches? = some (T, rb)) :
    ∃ env, r = .tenant env T (.branches rb) := by
  unfold Request.branches? at h
  split at h
  · rename_i env _ _
    cases h
    exact ⟨env, rfl⟩
  · cases h

/-- The request does not rename a branch to the empty name of another live one. -/
def Branches.Request.KeepsNames (T : String) (t : Tables) : Branches.Request → Prop
  | .update id dto => dto.name = .value "" → ∀ o ∈ t.branches, o.id.val ≠ id → o.tenantId = T →
      o.deletedAt = none → o.name ≠ ""
  | _ => True

instance (T : String) (t : Tables) (rb : Branches.Request) : Decidable (rb.KeepsNames T t) := by
  cases rb <;> unfold Branches.Request.KeepsNames <;> infer_instance

/-- The same of a request of any kind. -/
def KeepsNames (r : Request) (db : Database) : Prop :=
  ∀ p ∈ r.branches?, p.2.KeepsNames p.1 db.toTables

instance (r : Request) (db : Database) : Decidable (KeepsNames r db) := by
  unfold KeepsNames; infer_instance

/-- The body passes its DTO: `@MinLength(2)` on the name of a new branch. -/
def Branches.Request.Valid : Branches.Request → Prop
  | .create dto => 2 ≤ dto.name.length
  | _ => True

instance (rb : Branches.Request) : Decidable rb.Valid := by
  cases rb <;> unfold Branches.Request.Valid <;> infer_instance

/-! ### One request -/

/-- A new branch has a name no live one has. -/
theorem Branches.create_namesUnique {dto : CreateBranchDto} (h : NamesUnique db.toTables)
    (hok : (create env T dto).exec db = .ok (branch, db')) : NamesUnique db'.toTables := by
  obtain ⟨hfree, hrow, hw⟩ := create_ok hok
  refine (exclusive_insert (m := .branch) SameName.symm hw).2 ⟨h, fun o ho hsame => ?_⟩
  obtain ⟨hlive, -, hT, hname⟩ := hsame
  rw [hrow] at hT hname
  exact hfree o ho hT hname hlive

/-- The name after an update is the old one, a free one, or empty. -/
theorem Branches.update_namesUnique {dto : UpdateBranchDto} (h : NamesUnique db.toTables)
    (hr : (Request.update id dto).KeepsNames T db.toTables)
    (hok : (update T id dto).exec db = .ok (branch, db')) : NamesUnique db'.toTables := by
  obtain ⟨b, hb, hid, hT, hlive, hfree, hw⟩ := update_ok hok
  refine (exclusive_updateAt (m := .branch) SameName.symm hb hid rfl hw h).2
    fun o ho hoid hsame => ?_
  obtain ⟨holive, -, hoT, honame⟩ := hsame
  have hoT : o.tenantId = T := hoT.trans hT
  have hother : o ≠ b := by
    rintro rfl
    exact hoid hid
  have hold : o.name ≠ b.name := fun hname =>
    h o ho b hb hother ⟨holive, hlive, hoT.trans hT.symm, hname⟩
  rcases Field.value_or_of_set_eq honame.symm with hname | hname
  · by_cases hempty : o.name = ""
    · rw [hempty] at hname
      exact hr hname o ho hoid hoT holive hempty
    · exact hoid (hfree o.name hname hempty hold o ho hoT rfl holive)
  · exact hold hname.symm

/-- A removed branch has its name no longer. -/
theorem Branches.remove_namesUnique (h : NamesUnique db.toTables)
    (hok : (remove env T id).exec db = .ok (branch, db')) : NamesUnique db'.toTables := by
  obtain ⟨⟨b, hb, hid, -⟩, hw⟩ := remove_ok hok
  have hbranches : db'.branches = updateWhere (fun b => b.id.val = id)
      (fun b => { b with deletedAt := some env.now }) db.branches := congrArg Tables.branches hw
  rw [NamesUnique, hbranches]
  exact h.updateWhere_key SameName.symm (db.nodup_key .branch) hb hid hid
    fun o hsame => nomatch hsame.2.1

/-- An update keeps the names apart unless it sets the empty one. -/
theorem Branches.Request.namesUnique (rb : Branches.Request) (h : NamesUnique db.toTables)
    (hr : rb.KeepsNames T db.toTables) : NamesUnique (rb.next env T db).toTables := by
  cases rb with
  | create dto => exact next_holds (P := NamesUnique) h fun _ _ hok => create_namesUnique h hok
  | update id dto => exact next_holds (P := NamesUnique) h fun _ _ hok => update_namesUnique h hr hok
  | remove id => exact next_holds (P := NamesUnique) h fun _ _ hok => remove_namesUnique h hok

/-- So does every request. -/
theorem namesUnique_step {r : Request} (h : NamesUnique db.toTables) (hr : KeepsNames r db) :
    NamesUnique (step r db).toTables := by
  by_cases hw : Table.branches ∈ r.writes
  · cases r with
    | platform env r => simp [Request.writes] at hw
    | tenant env T r =>
      cases r with
      | branches rb => exact rb.namesUnique h (hr (T, rb) rfl)
      | _ => simp [Request.writes, TenantRequest.writes] at hw
  · have hsame : (step r db).branches = db.branches := @step_same db r .branches hw
    rwa [NamesUnique, hsame]

/-- A request against the law is rejected or breaks it. -/
theorem not_namesUnique_step {r : Request} (hr : ¬KeepsNames r db) (hne : step r db ≠ db) :
    ¬NamesUnique (step r db).toTables := by
  intro hlaw
  refine hr fun ⟨T, rb⟩ hrb => ?_
  obtain ⟨env, rfl⟩ := eq_of_branches? hrb
  cases rb with
  | create dto => trivial
  | remove id => trivial
  | update id dto =>
    intro hname o ho hoid hoT holive hoempty
    obtain ⟨_, hok⟩ := ((Branches.update T id dto).next_cases db).resolve_left hne
    obtain ⟨b, hb, hid, hT, hlive, -, hw⟩ := update_ok hok
    have hbranches : (step (.tenant env T (.branches (.update id dto))) db).branches =
        updateWhere (fun b => b.id.val = id) dto.apply db.branches := congrArg Tables.branches hw
    have hmem : dto.apply b ∈ (step (.tenant env T (.branches (.update id dto))) db).branches :=
      hbranches ▸ mem_updateWhere.2 (.inr ⟨b, hb, by simpa using hid, rfl⟩)
    have homem : o ∈ (step (.tenant env T (.branches (.update id dto))) db).branches :=
      hbranches ▸ mem_updateWhere.2 (.inl ⟨ho, by simpa using hoid⟩)
    have hother : o ≠ dto.apply b := by
      rintro rfl
      exact hoid hid
    have hempty : (dto.apply b).name = "" := by rw [UpdateBranchDto.apply, hname]; rfl
    exact hlaw o homem _ hmem hother ⟨holive, hlive, hoT.trans hT.symm, hoempty.trans hempty.symm⟩

/-! ### The law -/

/-- **Branch names are unique within a tenant** in every state of a run in which no update gives
a branch the empty name of another one; and after any run, a request that does so is rejected or
breaks the law. -/
theorem branch_names_unique (rs : List Request) :
    (Along step KeepsNames rs Database.empty →
      Always step (fun db => NamesUnique db.toTables) rs Database.empty) ∧
    let db := run step rs Database.empty
    ∀ r, ¬KeepsNames r db → step r db = db ∨ ¬NamesUnique (step r db).toTables := by
  refine ⟨fun hrs => ?_, fun r hr => ?_⟩
  · have hempty : NamesUnique Database.empty.toTables := exclusive_nil
    exact Always.of_steps (fun r db h hr => namesUnique_step h hr) hempty hrs
  · rw [or_iff_not_imp_left]
    exact not_namesUnique_step hr

def Sample.newBranch (tag name : String) : Request :=
  .tenant (.sample tag 0) "t0" (.branches (.create { name }))

def Sample.renameBranch (id name : String) : Request :=
  .tenant (.sample "x" 0) "t0" (.branches (.update id { name := .value name }))

/-- A branch gets the empty name, another one the name that is free now. -/
theorem branch_names_unique_rename :
    Always step (fun db => NamesUnique db.toTables)
      [Sample.tenant "t", Sample.newBranch "b" "north", Sample.newBranch "c" "south",
       Sample.renameBranch "b0" "", Sample.renameBranch "c0" "north"] Database.empty :=
  (branch_names_unique _).1 (by decide +kernel)

/-- Two branches get the empty name; all bodies pass their DTOs. -/
theorem branches_both_unnamed :
    ¬∀ rs, (∀ r ∈ rs, ∀ p ∈ Request.branches? r, p.2.Valid) →
      NamesUnique (run step rs Database.empty).toTables := by
  intro h
  let rs := [Sample.tenant "t", Sample.newBranch "b" "north", Sample.newBranch "c" "south",
    Sample.renameBranch "b0" "", Sample.renameBranch "c0" ""]
  have hvalid : ∀ r ∈ rs, ∀ p ∈ Request.branches? r, p.2.Valid := by decide
  have hnames : ¬NamesUnique (run step rs Database.empty).toTables := by decide +kernel
  exact hnames (h rs hvalid)

end NodeVms
