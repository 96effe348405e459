/-
# Concurrent switches of a feature flag

`enable` and `disable` look for the live flag first and then update it or create one.
Two of them that both find none leave two live flags behind, and nothing in their
answers tells.  From then on a `disable` switches off the flag its query happens to
find, and `FeatureGuard` may find the other one.

`setEnabledBy` is `setEnabled` with the choice of `findFirst` left open.
-/

import Mathlib.Data.Fin.VecNotation
import NodeVms.Access.Features
import NodeVms.Store.Interleaving

namespace NodeVms
namespace FeatureAccesses

open Store Script Prisma

variable {pick : Pick FeatureAccess} {env : Env} {T m : String} {isEnabled : Bool}
  {db db' : Database} {flag : FeatureAccess}

/-! ### Any matching row -/

/-- `enable` and `disable`, whichever live flag `findFirst` returns. -/
def setEnabledBy (pick : Pick FeatureAccess) (env : Env) (tenantId moduleName : String)
    (isEnabled : Bool) : Query (Transaction FeatureAccess) := do
  let existing ← findAny pick .featureAccess fun f => isFlagOf tenantId moduleName f
  match existing with
  | some existing => commit (update .featureAccess existing.id fun f => { f with isEnabled })
  | none =>
    commit (create .featureAccess
      { id := env.cuid 0, tenantId, moduleName, isEnabled, deletedAt := none })

/-- The service, with the first flag it finds. -/
theorem setEnabledBy_first (env : Env) (T m : String) (isEnabled : Bool) :
    setEnabledBy .first env T m isEnabled = setEnabled env T m isEnabled := by
  unfold setEnabledBy
  rw [findAny_first]
  rfl

/-- The flag the query picks is switched, or a new one is created. -/
theorem setEnabledBy_ok (h : (setEnabledBy pick env T m isEnabled).exec db = .ok (flag, db')) :
    (∃ f ∈ db.featureAccesses, isFlagOf T m f ∧
      pick.choose (db.featureAccesses.filter (isFlagOf T m ·)) = some f ∧
      db'.toTables = Model.featureAccess.updateAt f.id (fun f => { f with isEnabled })
        db.toTables) ∨
    (∀ f ∈ db.featureAccesses, ¬isFlagOf T m f) ∧
      flag = { id := env.cuid 0, tenantId := T, moduleName := m, isEnabled, deletedAt := none } ∧
      db'.toTables = Model.featureAccess.insert [flag] db.toTables := by
  simp only [setEnabledBy, exec_bind_eq_ok] at h
  obtain ⟨existing, hf, h⟩ := h
  cases existing with
  | some f =>
    obtain ⟨hmem, hT⟩ := eval_findAny_eq_some hf
    simp only [exec_commit, run_update_eq_ok] at h
    exact .inl ⟨f, hmem, of_decide_eq_true hT, Except.ok.inj hf, h.1⟩
  | none =>
    simp only [exec_commit, run_create_eq_ok] at h
    obtain ⟨rfl, hw⟩ := h
    exact .inr ⟨fun f hmem => of_decide_eq_false (eval_findAny_eq_none hf f hmem), rfl, hw⟩

/-- The flags after one has been switched. -/
theorem mem_switched {f g : FeatureAccess} (hf : f ∈ db.featureAccesses)
    (hw : db'.toTables = Model.featureAccess.updateAt f.id (fun f => { f with isEnabled })
      db.toTables) :
    g ∈ db'.featureAccesses ↔ (g ∈ db.featureAccesses ∧ g ≠ f) ∨ g = { f with isEnabled } := by
  rw [hw]
  refine (mem_updateWhere_key (db.nodup_key .featureAccess) hf rfl).trans (or_congr_left ?_)
  refine and_congr_right fun hg => not_congr ⟨db.eq_of_id .featureAccess hg hf, ?_⟩
  rintro rfl
  rfl

/-! ### Switched off -/

/-- The module has a live flag, and all its live flags are off. -/
structure Off (T m : String) (t : Tables) : Prop where
  exists_flag : ∃ f ∈ t.featureAccesses, isFlagOf T m f
  all_off : ∀ f ∈ t.featureAccesses, isFlagOf T m f → f.isEnabled = false

/-- Then the guard finds one that is off. -/
theorem Off.guard_ne_ok {ctx : ExecutionContext} {p : JwtPayload} {x : Unit}
    (h : Off p.tenantId m db.toTables) (hpub : ¬ctx.Public) (hm : ctx.requiredFeature = some m)
    (hrole : p.role ≠ .superAdmin) : (FeatureGuard.canActivate pick ctx (some p)).eval db ≠ .ok x := by
  intro hok
  have hpick := ((FeatureGuard.canActivate_eq_ok hpub hm).1 hok).resolve_left hrole
  cases hchoose : pick.choose (db.featureAccesses.filter (isFlagOf p.tenantId m ·)) with
  | none =>
    obtain ⟨f, hf, hT⟩ := h.exists_flag
    have hmem : f ∈ db.featureAccesses.filter (isFlagOf p.tenantId m ·) :=
      List.mem_filter.2 ⟨hf, decide_eq_true hT⟩
    rw [pick.eq_nil hchoose] at hmem
    exact absurd hmem List.not_mem_nil
  | some f =>
    obtain ⟨hf, hT⟩ := List.mem_filter.1 (pick.mem hchoose)
    have hoff : f.isEnabled = false := h.all_off f hf (of_decide_eq_true hT)
    rw [hpick f hchoose] at hoff
    cases hoff

/-- Of two live flags of the module, neither is on. -/
def RivalsOff (T m : String) (t : Tables) : Prop :=
  ∀ f ∈ t.featureAccesses, ∀ g ∈ t.featureAccesses, isFlagOf T m f → isFlagOf T m g → f ≠ g →
    f.isEnabled = false

instance (T m : String) (t : Tables) : Decidable (RivalsOff T m t) := by
  unfold RivalsOff; infer_instance

/-- What a `disable` switches is then all there is to switch off. -/
theorem RivalsOff.off_of_disable (h : RivalsOff T m db.toTables)
    (hok : (setEnabledBy pick env T m false).exec db = .ok (flag, db')) : Off T m db'.toTables := by
  rcases setEnabledBy_ok hok with ⟨f, hf, hT, -, hw⟩ | ⟨hnone, rfl, hw⟩
  · refine ⟨⟨_, (mem_switched hf hw).2 (.inr rfl), hT⟩, fun g hg hgT => ?_⟩
    rcases (mem_switched hf hw).1 hg with ⟨hg, hne⟩ | rfl
    · exact h g hg f hf hgT hT hne
    · rfl
  · constructor
    · rw [hw]
      exact ⟨_, List.mem_append_right _ List.mem_cons_self, rfl, rfl, rfl⟩
    · intro g hg hgT
      rw [hw] at hg
      rcases List.mem_append.1 hg with hg | hg
      · exact absurd hgT (hnone g hg)
      · rw [List.mem_singleton.1 hg]

/-! ### Until the next `enable` -/

/-- A request of the application, whichever live flag `findFirst` returns. -/
def stepBy (pick : Pick FeatureAccess) : Request → Database → Database
  | .platform env (.enableFeature tenantId moduleName) =>
    (setEnabledBy pick env tenantId moduleName true).next
  | .platform env (.disableFeature tenantId moduleName) =>
    (setEnabledBy pick env tenantId moduleName false).next
  | r => step r

/-- A request that changes a flag is a switch that goes through. -/
theorem stepBy_cases (pick : Pick FeatureAccess) (r : Request) (db : Database) :
    (stepBy pick r db).featureAccesses = db.featureAccesses ∨
    ∃ env T m isEnabled flag,
      (isEnabled = true → r = .platform env (.enableFeature T m)) ∧
      (setEnabledBy pick env T m isEnabled).exec db = .ok (flag, stepBy pick r db) := by
  unfold stepBy
  split
  · rename_i env T m
    rcases (setEnabledBy pick env T m true).next_cases db with hsame | ⟨flag, hok⟩
    · exact .inl (by rw [hsame])
    · exact .inr ⟨env, T, m, true, flag, fun _ => rfl, hok⟩
  · rename_i env T m
    rcases (setEnabledBy pick env T m false).next_cases db with hsame | ⟨flag, hok⟩
    · exact .inl (by rw [hsame])
    · exact .inr ⟨env, T, m, false, flag, nofun, hok⟩
  · rename_i henable hdisable
    rcases step_featureAccesses r db with hsame | ⟨s, rfl⟩
    · exact .inl hsame
    · exfalso
      unfold Switch.request at henable hdisable
      split at henable
      · exact henable _ _ _ rfl
      · rename_i hoff
        rw [if_neg hoff] at hdisable
        exact hdisable _ _ _ rfl

/-- A module that is off stays off until it is enabled. -/
theorem Off.stepBy {r : Request} (h : Off T m db.toTables)
    (hr : ∀ env, r ≠ .platform env (.enableFeature T m)) : Off T m (stepBy pick r db).toTables := by
  rcases stepBy_cases pick r db with hsame | ⟨env, T', m', isEnabled, flag, henable, hok⟩
  · constructor
    · rw [hsame]
      exact h.exists_flag
    · rw [hsame]
      exact h.all_off
  have hoff : ∀ {f : FeatureAccess}, isFlagOf T' m' f → isFlagOf T m f → isEnabled = false := by
    rintro f ⟨hT', hm', -⟩ ⟨hT, hm, -⟩
    by_contra hon
    have hr' := henable (Bool.eq_true_of_not_eq_false hon)
    rw [← hT', ← hm', hT, hm] at hr'
    exact hr env hr'
  obtain ⟨g, hg, hgT⟩ := h.exists_flag
  rcases setEnabledBy_ok hok with ⟨f, hf, hfT, -, hw⟩ | ⟨-, hflag, hw⟩
  · constructor
    · by_cases hgf : g = f
      · exact ⟨_, (mem_switched hf hw).2 (.inr rfl), hgf ▸ hgT⟩
      · exact ⟨g, (mem_switched hf hw).2 (.inl ⟨hg, hgf⟩), hgT⟩
    · intro o ho hoT
      rcases (mem_switched hf hw).1 ho with ⟨ho, -⟩ | rfl
      · exact h.all_off o ho hoT
      · exact hoff hfT hoT
  · rw [hw]
    refine ⟨⟨g, List.mem_append_left _ hg, hgT⟩, fun o ho hoT => ?_⟩
    rcases List.mem_append.1 ho with ho | ho
    · exact h.all_off o ho hoT
    · rw [List.mem_singleton.1 ho, hflag] at hoT ⊢
      exact hoff ⟨rfl, rfl, rfl⟩ hoT

/-- Any live flag can be the one that is found. -/
theorem prefer_self {f : FeatureAccess} (hf : f ∈ db.featureAccesses) (hT : isFlagOf T m f) :
    (Pick.prefer (· = f)).choose (db.featureAccesses.filter (isFlagOf T m ·)) = some f :=
  Pick.prefer_eq_some (List.mem_filter.2 ⟨hf, decide_eq_true hT⟩) (decide_eq_true rfl)
    fun _ _ => of_decide_eq_true

/-- A `disable` that completes alone is obeyed, whichever flags are found, in every
state that follows until the next `enable`. -/
def Effective (ctx : ExecutionContext) (p : JwtPayload) (m : String) (db : Database) : Prop :=
  ∀ pick env flag db', (setEnabledBy pick env p.tenantId m false).exec db = .ok (flag, db') →
    ∀ later : List (Pick FeatureAccess × Request),
      (∀ a ∈ later, ∀ env, a.2 ≠ .platform env (.enableFeature p.tenantId m)) →
      ∀ pick' x, (FeatureGuard.canActivate pick' ctx (some p)).eval
        (run (fun a => stepBy a.1 a.2) later db') ≠ .ok x

section Effective

variable {ctx : ExecutionContext} {p : JwtPayload}

/-- A `disable` is obeyed exactly if no flag but the one it finds can be on. -/
theorem effective_iff (hpub : ¬ctx.Public) (hm : ctx.requiredFeature = some m)
    (hrole : p.role ≠ .superAdmin) :
    Effective ctx p m db ↔ RivalsOff p.tenantId m db.toTables := by
  constructor
  · intro h f hf g hg hfT hgT hne
    by_contra hon
    -- The `disable` finds the one, the guard the other.
    obtain ⟨flag, db', hupdate⟩ := @update_accepted db false g hg
    have hok : (setEnabledBy (.prefer (· = g)) (.sample "" 0) p.tenantId m false).exec db =
        .ok (flag, db') := by
      unfold setEnabledBy
      refine exec_bind_eq_ok.2 ⟨some g, congrArg Except.ok (prefer_self hg hgT), hupdate⟩
    have hf' : f ∈ db'.featureAccesses :=
      (mem_switched hg (run_update_eq_ok.1 hupdate).1).2 (.inl ⟨hf, hne⟩)
    refine h _ _ flag db' hok [] (fun _ ha => nomatch ha) (.prefer (· = f)) () ?_
    refine (FeatureGuard.canActivate_eq_ok hpub hm).2 (.inr fun o ho => ?_)
    obtain rfl : f = o := Option.some.inj ((prefer_self hf' hfT).symm.trans ho)
    exact Bool.eq_true_of_not_eq_false hon
  · intro h pick env flag db' hok later hlater pick' x
    have hoff : ∀ (later : List (Pick FeatureAccess × Request)) (db : Database),
        Off p.tenantId m db.toTables →
        (∀ a ∈ later, ∀ env, a.2 ≠ .platform env (.enableFeature p.tenantId m)) →
        Off p.tenantId m (run (fun a => stepBy a.1 a.2) later db).toTables := by
      intro later
      induction later with
      | nil => exact fun _ h _ => h
      | cons a later ih =>
        intro db h hlater
        obtain ⟨ha, hlater⟩ := List.forall_mem_cons.1 hlater
        exact ih _ (h.stepBy ha) hlater
    exact (hoff later db' (h.off_of_disable hok) hlater).guard_ne_ok hpub hm hrole

end Effective

/-! ### Interleaved calls -/

/-- A call of `enable` or `disable` for one tenant and module. -/
structure Toggle where
  pick : Pick FeatureAccess
  env : Env
  isEnabled : Bool

/-- What is left of a call when the flag has been looked for. -/
def Toggle.write (t : Toggle) (T m : String) : Option FeatureAccess → Transaction FeatureAccess
  | some existing => update .featureAccess existing.id fun f => { f with isEnabled := t.isEnabled }
  | none =>
    create .featureAccess
      { id := t.env.cuid 0, tenantId := T, moduleName := m, isEnabled := t.isEnabled,
        deletedAt := none }

section Interleaved

variable {ι : Type}

/-- The calls that run at the same time. -/
def handlers (T m : String) (calls : ι → Toggle) (i : ι) : Query (Transaction FeatureAccess) :=
  setEnabledBy (calls i).pick (calls i).env T m (calls i).isEnabled

/-- A call is one query and one write. -/
theorem handlers_eq (calls : ι → Toggle) (i : ι) : handlers T m calls i = .query fun db =>
    .pure ((calls i).write T m
      ((calls i).pick.choose (db.featureAccesses.filter (isFlagOf T m ·)))) := by
  unfold handlers setEnabledBy
  change Script.query _ = _
  refine congrArg Script.query (funext fun db => ?_)
  change (match (calls i).pick.choose (db.featureAccesses.filter (isFlagOf T m ·)) with
    | some existing => _
    | none => _) = _
  cases (calls i).pick.choose (db.featureAccesses.filter (isFlagOf T m ·)) <;> rfl

/-- The module has no live flag. -/
def NoFlag (T m : String) (t : Tables) : Prop := ∀ f ∈ t.featureAccesses, ¬isFlagOf T m f

instance (T m : String) (t : Tables) : Decidable (NoFlag T m t) := by unfold NoFlag; infer_instance

/-- A call that is sent while the module has no live flag is sent when no other is
under way. -/
def SentAlone (T m : String) (i : ι) (c : Config ι Database Error FeatureAccess) : Prop :=
  c.unsent i = true → NoFlag T m c.state.toTables → ∀ j, c.underWay j = false

instance {n : Nat} (T m : String) (i : Fin n) (c : Config (Fin n) Database Error FeatureAccess) :
    Decidable (SentAlone T m i c) := by
  unfold SentAlone; infer_instance

/-- Two live flags of the module are one. -/
def Single (T m : String) (t : Tables) : Prop :=
  ∀ f ∈ t.featureAccesses, ∀ g ∈ t.featureAccesses, isFlagOf T m f → isFlagOf T m g → f = g

/-- The module has one live flag at most, and a call that is about to create one is the
only one under way. -/
structure InTurn (T m : String) (calls : ι → Toggle) (c : Config ι Database Error FeatureAccess) :
    Prop where
  single : Single T m c.state.toTables
  running : ∀ i x, c.threads i = .running x →
    (∃ f, x = .pure ((calls i).write T m (some f))) ∨
    (x = .pure ((calls i).write T m none) ∧ NoFlag T m c.state.toTables ∧
      ∀ j, j ≠ i → c.underWay j = false)

/-- A switch over the only flag leaves one. -/
theorem Single.updateAt {id : String} (h : Single T m db.toTables)
    (hw : db'.toTables = Model.featureAccess.updateAt id (fun f => { f with isEnabled })
      db.toTables) : Single T m db'.toTables := by
  have hold : ∀ f' ∈ db'.featureAccesses, isFlagOf T m f' → ∃ f ∈ db.featureAccesses,
      isFlagOf T m f ∧ f' = if f.id.val = id then { f with isEnabled } else f := by
    intro f' hf' hT
    rw [hw] at hf'
    obtain ⟨f, hf, rfl⟩ := List.mem_map.1 hf'
    refine ⟨f, hf, ?_, by simp only [decide_eq_true_eq]; rfl⟩
    simp only [decide_eq_true_eq] at hT
    split at hT
    · exact hT
    · exact hT
  intro f' hf' g' hg' hfT' hgT'
  obtain ⟨f, hf, hfT, hff'⟩ := hold f' hf' hfT'
  obtain ⟨g, hg, hgT, hgg'⟩ := hold g' hg' hgT'
  rw [hff', hgg', h f hf g hg hfT hgT]

/-- A switch where there is none leaves one. -/
theorem single_insert (h : NoFlag T m db.toTables)
    (hw : db'.toTables = Model.featureAccess.insert [flag] db.toTables) :
    Single T m db'.toTables := by
  have hnew : ∀ f ∈ db'.featureAccesses, isFlagOf T m f → f = flag := by
    intro f hf hT
    rw [hw] at hf
    rcases List.mem_append.1 hf with hf | hf
    · exact absurd hT (h f hf)
    · exact List.mem_singleton.1 hf
  intro f hf g hg hfT hgT
  exact (hnew f hf hfT).trans (hnew g hg hgT).symm

variable {calls : ι → Toggle} {c : Config ι Database Error FeatureAccess}

/-- Before the first call there is one flag at most. -/
theorem InTurn.init (hdb : OneFlag db.toTables) : InTurn T m calls (.init db) where
  single _ hf _ hg hfT hgT := hdb.eq hf hg hfT hgT
  running := fun _ _ hrun => nomatch hrun

/-- While another call moves, no call is about to create a flag. -/
theorem InTurn.write_some (hc : InTurn T m calls c) {i j : ι}
    (hi : c.underWay i = true ∨ SentAlone T m i c ∧ c.unsent i = true) (hji : j ≠ i)
    {x : Query (Transaction FeatureAccess)} (hj : c.threads j = .running x) :
    ∃ f, x = .pure ((calls j).write T m (some f)) := by
  rcases hc.running j x hj with hsome | ⟨-, hno, halone⟩
  · exact hsome
  · exfalso
    rcases hi with hi | ⟨hsent, hidle⟩
    · rw [halone i hji.symm] at hi
      cases hi
    · have hfree : c.underWay j = false := hsent hidle hno j
      rw [Config.underWay_of_running hj] at hfree
      cases hfree

variable [DecidableEq ι]

/-- A call that is sent alone leaves one at most. -/
theorem InTurn.step (hc : InTurn T m calls c) {i : ι} (hi : SentAlone T m i c) :
    InTurn T m calls (Config.step (handlers T m calls) i c) := by
  -- The other calls, after a step of `i` that keeps the law.
  have hput : ∀ p : Thread Database Error FeatureAccess × Database,
      (c.underWay i = true ∨ SentAlone T m i c ∧ c.unsent i = true) →
      Single T m p.2.toTables → (∀ x, p.1 = .running x →
        (∃ f, x = .pure ((calls i).write T m (some f))) ∨
        (x = .pure ((calls i).write T m none) ∧ NoFlag T m p.2.toTables ∧
          ∀ j, j ≠ i → c.underWay j = false)) →
      InTurn T m calls (c.put i p) := by
    intro p hmoves hsingle hrunning
    refine ⟨hsingle, fun j x hj => ?_⟩
    by_cases hji : j = i
    · subst hji
      rw [Config.put_threads_self] at hj
      rcases hrunning x hj with hsome | ⟨hx, hno, halone⟩
      · exact .inl hsome
      · refine .inr ⟨hx, hno, fun k hkj => ?_⟩
        unfold Config.underWay
        rw [Config.put_threads_of_ne hkj]
        exact halone k hkj
    · rw [Config.put_threads_of_ne hji] at hj
      exact .inl (hc.write_some hmoves hji hj)
  rcases Config.step_cases (handlers T m calls) i c with
    ⟨-, hstep⟩ | ⟨next, hrest, hstep⟩ | ⟨x, e, hrest, -, hstep⟩ | ⟨t, a, s', hrest, hrun, -, hstep⟩
  · rw [hstep]
    exact hc
  · rw [hstep]
    rcases Config.rest_eq_some.1 hrest with ⟨hidle, hnext⟩ | hrunning
    · have hunsent := Config.unsent_of_idle hidle
      refine hput _ (.inr ⟨hi, hunsent⟩) hc.single fun x hx => ?_
      rw [handlers_eq] at hnext
      cases hnext
      cases hx
      cases hfind : (calls i).pick.choose (c.state.featureAccesses.filter (isFlagOf T m ·)) with
      | some f => exact .inl ⟨f, by beta_reduce; rw [hfind]⟩
      | none =>
        have hno : NoFlag T m c.state.toTables := fun f hf =>
          of_decide_eq_false (@eval_findAny_eq_none _ .featureAccess c.state (calls i).pick
            (isFlagOf T m ·) (congrArg Except.ok hfind) f hf)
        exact .inr ⟨by beta_reduce; rw [hfind], hno, fun j _ => hi hunsent hno j⟩
    · rcases hc.running i _ hrunning with ⟨f, hx⟩ | ⟨hx, -⟩
      · exact nomatch hx
      · exact nomatch hx
  · rw [hstep]
    rcases Config.rest_eq_some.1 hrest with ⟨hidle, -⟩ | hrunning
    · exact hput _ (.inr ⟨hi, Config.unsent_of_idle hidle⟩) hc.single nofun
    · exact hput _ (.inl (Config.underWay_of_running hrunning)) hc.single nofun
  · rw [hstep]
    rcases Config.rest_eq_some.1 hrest with ⟨-, hnext⟩ | hrunning
    · rw [handlers_eq] at hnext
      cases hnext
    · refine hput _ (.inl (Config.underWay_of_running hrunning)) ?_ nofun
      rcases hc.running i _ hrunning with ⟨f, hx⟩ | ⟨hx, hno, -⟩
      · obtain rfl := Script.pure.inj hx
        exact hc.single.updateAt (run_update_eq_ok.1 hrun).1
      · obtain rfl := Script.pure.inj hx
        obtain ⟨rfl, hw⟩ := run_create_eq_ok.1 hrun
        exact single_insert hno hw

/-- **When a later `disable` is obeyed.**  It is after every interleaving in which a call
that is sent while the module has no live flag is sent alone; and after whatever has
happened, exactly if of two live flags of the module neither is on. -/
theorem concurrent_switches (calls : ι → Toggle) {ctx : ExecutionContext} {p : JwtPayload}
    (hpub : ¬ctx.Public) (hm : ctx.requiredFeature = some m) (hrole : p.role ≠ .superAdmin) :
    (∀ db sched, Reachable db →
      Along (Config.step (handlers p.tenantId m calls)) (SentAlone p.tenantId m) sched (.init db) →
      Effective ctx p m (run (Config.step (handlers p.tenantId m calls)) sched (.init db)).state) ∧
    ∀ db, Effective ctx p m db ↔ RivalsOff p.tenantId m db.toTables := by
  refine ⟨?_, fun db => effective_iff hpub hm hrole⟩
  intro db sched hdb hsched
  have halways : Always (Config.step (handlers p.tenantId m calls))
      (InTurn p.tenantId m calls) sched (.init db) :=
    Always.of_steps (fun _ _ hc hi => hc.step hi) (.init (oneFlag_of_reachable hdb)) hsched
  refine (effective_iff hpub hm hrole).2 fun f hf g hg hfT hgT hne => ?_
  exact absurd (halways.last.single f hf g hg hfT hgT) hne

end Interleaved

/-- The first call creates the flag; the next two switch it, one across the other. -/
theorem concurrent_switches_in_turn :
    let calls : Fin 3 → Toggle :=
      ![⟨.first, .sample "a" 0, false⟩, ⟨.first, .sample "b" 0, true⟩, ⟨.first, .sample "c" 0, true⟩]
    let db := run step [Sample.tenant "t"] Database.empty
    Effective (Endpoint.context ⟨.vehicles, VehiclesController.findAll⟩)
      (Sample.token .access "t1" "t" "t0" .admin).payload "vehicles"
      (run (Config.step (handlers "t0" "vehicles" calls)) [0, 0, 1, 2, 1, 2] (.init db)).state := by
  intro calls db
  have hsched : Along (Config.step (handlers "t0" "vehicles" calls)) (SentAlone "t0" "vehicles")
      [0, 0, 1, 2, 1, 2] (.init db) := by decide
  exact (concurrent_switches calls (p := (Sample.token .access "t1" "t" "t0" .admin).payload)
    (by decide) (by decide) (by decide)).1 db _ ⟨_, rfl⟩ hsched

/-- Two calls of `enable` both find no flag and both create one; the `disable` after them
finds the first of the two, and the guard the second. -/
theorem disable_after_race :
    ¬∀ (n : Nat) (calls : Fin n → Toggle) (db : Database) (sched : List (Fin n))
      (ctx : ExecutionContext) (p : JwtPayload) (m : String), Reachable db → ¬ctx.Public →
      ctx.requiredFeature = some m → p.role ≠ .superAdmin →
      let c := run (Config.step (handlers p.tenantId m calls)) sched (.init db)
      (∀ i, c.underWay i = false) → Effective ctx p m c.state := by
  intro h
  let calls : Fin 2 → Toggle := ![⟨.first, .sample "a" 0, true⟩, ⟨.first, .sample "b" 0, true⟩]
  let ctx := Endpoint.context ⟨.vehicles, VehiclesController.findAll⟩
  let p := (Sample.token .access "t1" "t" "t0" .admin).payload
  obtain ⟨db, hdb, hidle, hrivals⟩ : ∃ db, Reachable db ∧
      (∀ i, (run (Config.step (handlers "t0" "vehicles" calls)) [0, 1, 0, 1]
        (.init db)).underWay i = false) ∧
      ¬RivalsOff "t0" "vehicles" (run (Config.step (handlers "t0" "vehicles" calls)) [0, 1, 0, 1]
        (.init db)).state.toTables :=
    ⟨run step [Sample.tenant "t"] Database.empty, ⟨_, rfl⟩, by decide, by decide⟩
  have heffective := h 2 calls db [0, 1, 0, 1] ctx p "vehicles" hdb (by decide) (by decide)
    (by decide) hidle
  exact hrivals ((effective_iff (by decide) (by decide) (by decide)).1 heffective)

end FeatureAccesses
end NodeVms
