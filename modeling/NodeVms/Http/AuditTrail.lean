/-
# The audit trail

No entry is lost, however late it is written.  It refers to the account and to the
tenant of the token; there is such an account for every token
(`World.Reachable.exists_bearer`), and accounts and tenants stay in their tables, so
the database has no reason to refuse it.  A change of the database is therefore on
record, under the account it was made with, unless a job made it or the two
registrations that need no session.

The interceptor looks at the exception a handler throws with rules of its own.
They agree with those of `AllExceptionsFilter`: the entry says what the client was
told, and only the texts of the database client are in the entry alone.
-/

import NodeVms.Access.Tokens
import NodeVms.Http.Audit

namespace NodeVms

open Store Script Js

variable {ν : Type}

/-! ### Authors -/

/-- The entry refers to an account of its tenant. -/
def AuditEntry.HasAuthor (e : AuditEntry) (db : Database) : Prop :=
  ∃ u ∈ db.users, u.id.val = e.userId ∧ u.tenantId = e.tenantId

/-- An author outlives every operation. -/
theorem AuditEntry.HasAuthor.next {e : AuditEntry} {db : Database} (h : e.HasAuthor db)
    (op : Operation) : e.HasAuthor (op.next db) := by
  obtain ⟨u, hu, hid, htenant⟩ := h
  obtain ⟨r, hr⟩ := op.users_evolve db
  obtain ⟨u', hu', hid', hstep⟩ := hr.exists_next hu
  exact ⟨u', hu', (congrArg Cuid.val hid').trans hid, hstep.tenantId_eq.trans htenant⟩

/-- With an author and a new id the row is written. -/
theorem AuditService.log_eq {id : Cuid} {now : Time} {db : Database} {logs : List AuditLog}
    {e : AuditEntry} (h : e.HasAuthor db) (hid : ∀ l ∈ logs, l.id ≠ id) :
    log id now db.toTables logs e = some { id, entry := e, createdAt := now } := by
  obtain ⟨u, hu, huser, htenant⟩ := h
  obtain ⟨r, hr, hrid⟩ := db.hasTenant hu
  exact if_pos ⟨hid, ⟨r, hr, hrid.trans htenant⟩, u, hu, huser⟩

namespace Exchange

variable {clients : Clients} {pick : Pick FeatureAccess} {w : World} {x : Exchange ν}
  {e : Endpoint} {session : Option Session}

/-- The guards have let the call pass. -/
theorem admission_eq_ok : (∃ e, x.admission clients pick w = some (e, .ok session)) ↔
    x.call.Admitted clients pick w session := by
  unfold admission HttpCall.Admitted
  constructor
  · rintro ⟨e, h⟩
    obtain ⟨e', he', heq⟩ := Option.map_eq_some_iff.1 h
    obtain ⟨rfl, hok⟩ := Prod.mk.inj heq
    exact ⟨e', he', hok⟩
  · rintro ⟨e, he, hok⟩
    refine ⟨e, ?_⟩
    rw [Option.mem_def.1 he, Option.map_some, hok]

/-- A call is admitted at the endpoint of its action. -/
theorem endpoint_of_admission {a : Except Error (Option Session)}
    (h : x.admission clients pick w = some (e, a)) : x.call.action.endpoint = some e := by
  obtain ⟨e', he', heq⟩ := Option.map_eq_some_iff.1 h
  rw [he', (Prod.mk.inj heq).1]

/-- The world after a call is reachable. -/
theorem reachable_serve (h : World.Reachable clients w) :
    World.Reachable clients (x.serve clients pick w) := by
  unfold serve
  cases x.violations with
  | some errors => exact h
  | none => exact World.serve_induct h fun op _ => h.next op

end Exchange

/-- The calls that change anything are no `GET`s. -/
theorem Action.method_mem {a : Action} {e : Endpoint} (h : a.endpoint = some e) :
    e.route.method ∈ AuditInterceptor.MUTATION_METHODS := by
  cases a with
  | tenant r =>
    obtain rfl := Option.some.inj h
    cases r with
    | users r => cases r <;> exact of_decide_eq_true rfl
    | branches r => cases r <;> exact of_decide_eq_true rfl
    | vehicles r => cases r <;> exact of_decide_eq_true rfl
    | drivers r => cases r <;> exact of_decide_eq_true rfl
    | assignments r => cases r <;> exact of_decide_eq_true rfl
    | bookings r => cases r <;> exact of_decide_eq_true rfl
    | contracts r => cases r <;> exact of_decide_eq_true rfl
    | trips r => cases r <;> exact of_decide_eq_true rfl
    | workshop r => cases r <;> exact of_decide_eq_true rfl
    | income r => cases r <;> exact of_decide_eq_true rfl
    | alerts r => cases r <;> exact of_decide_eq_true rfl
    | _ => exact of_decide_eq_true rfl
  | platform r =>
    cases r with
    | runOfflineDetection => exact absurd h (by simp [Action.endpoint, PlatformRequest.endpoint])
    | _ =>
      obtain rfl := Option.some.inj h
      exact of_decide_eq_true rfl
  | _ =>
    obtain rfl := Option.some.inj h
    exact of_decide_eq_true rfl

/-! ### What a call leaves behind -/

section Entries

variable [Printed JsDate] [Printed ν]

/-- An entry is made for the account of the session. -/
theorem AuditInterceptor.entry_eq_some {method : HttpMethod} {url : String}
    {user : Option JwtPayload} {result : Except (Thrown ν) (Data ν)} {a : AuditEntry}
    (h : entry method url user result = some a) :
    ∃ p, user = some p ∧ a.userId = p.sub ∧ a.tenantId = p.tenantId := by
  unfold entry at h
  split at h
  · cases h
  · obtain ⟨p, hp, rfl⟩ := Option.map_eq_some_iff.1 h
    refine ⟨p, hp, ?_⟩
    cases result with
    | ok body => exact ⟨rfl, rfl⟩
    | error e => exact ⟨rfl, rfl⟩

namespace Exchange

variable [NatCast ν] {clients : Clients} {pick : Pick FeatureAccess} {w : World} {x : Exchange ν}

/-- The author of an entry is the account of the token. -/
theorem hasAuthor (h : World.Reachable clients w) {a : AuditEntry}
    (ha : a ∈ x.entries clients pick w) : a.HasAuthor w.db := by
  unfold entries at ha
  split at ha
  · rename_i e session hadm
    obtain ⟨p, hp, huser, htenant⟩ := AuditInterceptor.entry_eq_some (Option.mem_toList.1 ha)
    obtain ⟨s, rfl, rfl⟩ := Option.map_eq_some_iff.1 hp
    have hverify := (admission_eq_ok.1 ⟨e, hadm⟩).verified.2
    obtain ⟨u, hu⟩ := h.exists_bearer _ (Jwt.verify_eq_some.1 hverify).2.1
    exact ⟨u, hu.mem, hu.id_eq.trans huser.symm, hu.tenantId_eq.trans htenant.symm⟩
  · exact absurd ha List.not_mem_nil

end Exchange
end Entries

/-! ### Fixed calls -/

namespace Sample

instance printedDate : Printed JsDate := ⟨fun d => d.elim "Invalid Date" Time.toISOString⟩

instance printedNat : Printed Nat := ⟨toString⟩

def exchange (accessCookie : Option String) (url : String) (r : PlatformRequest)
    (returned : Data Nat) : AuditedEvent Nat :=
  .exchange
    { call := http (.sample "s" 0) accessCookie (.platform r), url, returned, clientError := "" }

def superAdminClients : Clients := clients [("a", token .access "s1" "s" "s0" .superAdmin)]

def seed : AuditedEvent Nat :=
  exchange none "/auth/seed-super-admin" (.seedSuperAdmin ⟨"s", "s", "s", ""⟩) .undefined

/-- The SUPER_ADMIN renames the own tenant. -/
def rename : AuditedEvent Nat :=
  exchange (some "a") "/tenants/s0" (.updateTenant "s0" { name := .value "n" })
    (.object [("id", text "s0")])

/-- The SUPER_ADMIN approves an account that is not there; then the entries are written, the
later one first. -/
def approveThenWrite : List (AuditedEvent Nat) :=
  [exchange (some "a") "/admin-applications/u9/approve" (.approve "u9") .undefined,
    .write 1 ⟨"l1", by decide⟩ 5, .write 0 ⟨"l0", by decide⟩ 6]

end Sample

/-! ### Nothing goes unrecorded -/

namespace Audited

variable {clients : Clients} {pick : Pick FeatureAccess}

/-- The entries, written or under way. -/
def trail (s : Audited) : List AuditEntry := s.audit.written.map AuditLog.entry ++ s.audit.pending

/-- What a run that has sent these entries and generated these ids leads to. -/
structure OnRecord (clients : Clients) (entries : List AuditEntry) (ids : List Cuid) (s : Audited) :
    Prop where
  reachable : World.Reachable clients s.world
  accounts : s.audit.Accounts AuditLog.entry entries
  authors : ∀ e ∈ entries, e.HasAuthor s.world.db
  logIds : ∀ l ∈ s.audit.written, l.id ∈ ids
  nodup : (s.audit.written.map AuditLog.id).Nodup

/-- At the start nothing has been sent. -/
theorem onRecord_init : OnRecord clients [] [] init where
  reachable := .refl
  accounts := Outbox.accounts_empty
  authors _ h := absurd h List.not_mem_nil
  logIds _ h := absurd h List.not_mem_nil
  nodup := List.nodup_nil

/-- The application goes on, and the audit log is not concerned. -/
theorem OnRecord.serve {entries : List AuditEntry} {ids : List Cuid} {s : Audited}
    (h : OnRecord clients entries ids s) (e : Event) :
    OnRecord clients entries ids { s with world := World.serve clients pick e s.world } where
  reachable := World.serve_induct h.reachable fun op _ => h.reachable.next op
  accounts := h.accounts
  authors a ha := World.serve_induct (P := fun w => a.HasAuthor w.db) (h.authors a ha) fun op _ =>
    (h.authors a ha).next op
  logIds := h.logIds
  nodup := h.nodup

section Runs

variable [NatCast ν] [Printed JsDate] [Printed ν]

/-- One event: its entries are sent, and what is delivered is written. -/
theorem OnRecord.step {entries : List AuditEntry} {ids : List Cuid} {s : Audited}
    (h : OnRecord clients entries ids s) (ev : AuditedEvent ν) (hid : ∀ id ∈ ev.logId, id ∉ ids) :
    OnRecord clients (entries ++ emits clients pick ev s) (ids ++ ev.logId.toList)
      (step clients pick ev s) := by
  cases ev with
  | exchange x =>
    have hserve : ∀ a : AuditEntry, a.HasAuthor s.world.db →
        a.HasAuthor (x.serve clients pick s.world).db := by
      intro a ha
      unfold Exchange.serve
      cases x.violations with
      | some errors => exact ha
      | none =>
        exact World.serve_induct (P := fun w => a.HasAuthor w.db) ha fun op _ => ha.next op
    refine ⟨Exchange.reachable_serve h.reachable, h.accounts.send _, fun a ha => hserve a ?_,
      fun l hl => List.mem_append_left _ (h.logIds l hl), h.nodup⟩
    rcases List.mem_append.1 ha with ha | ha
    · exact h.authors a ha
    · exact Exchange.hasAuthor h.reachable ha
  | dailyAlertsScan env tenantId =>
    show OnRecord clients (entries ++ []) (ids ++ []) _
    rw [List.append_nil, List.append_nil]
    exact h.serve _
  | offlineDetection env =>
    show OnRecord clients (entries ++ []) (ids ++ []) _
    rw [List.append_nil, List.append_nil]
    exact h.serve _
  | write n id now =>
    have hnew : ∀ l ∈ s.audit.written, l.id ≠ id := by
      rintro l hl rfl
      exact hid l.id rfl (h.logIds l hl)
    have hlog : ∀ a ∈ s.audit.pending,
        AuditService.log id now s.world.db.toTables s.audit.written a =
          some { id, entry := a, createdAt := now } := fun a ha =>
      AuditService.log_eq (h.authors a (h.accounts.mem_of_pending ha)) hnew
    show OnRecord clients (entries ++ []) _ _
    rw [List.append_nil]
    refine ⟨h.reachable, h.accounts.deliver fun a ha => ⟨_, hlog a ha, rfl⟩, h.authors, ?_, ?_⟩
    · intro l hl
      rcases Outbox.mem_written_deliver hl with hl | ⟨a, ha, hl⟩
      · exact List.mem_append_left _ (h.logIds l hl)
      · rw [hlog a ha] at hl
        rw [← Option.some.inj hl]
        exact List.mem_append_right _ (List.mem_singleton.2 rfl)
    · change ((s.audit.deliver n _).written.map AuditLog.id).Nodup
      unfold Outbox.deliver
      split
      · rename_i a ha
        rw [hlog a (List.mem_of_getElem? ha), List.map_append, List.nodup_append]
        refine ⟨h.nodup, List.nodup_singleton _, fun i hi j hj hij => ?_⟩
        obtain ⟨l, hl, rfl⟩ := List.mem_map.1 hi
        exact hnew l hl (hij.trans (List.mem_singleton.1 hj))
      · exact h.nodup

variable (clients pick)

/-- A run whose ids are all different; the induction is from its end. -/
theorem onRecord_run (evs : List (AuditedEvent ν)) (hids : (evs.filterMap AuditedEvent.logId).Nodup) :
    OnRecord clients (sent (step clients pick) (emits clients pick) evs init)
      (evs.filterMap AuditedEvent.logId) (run (step clients pick) evs init) := by
  induction evs using List.reverseRecOn with
  | nil => exact onRecord_init
  | append_singleton evs ev ih =>
    rw [List.filterMap_append, List.nodup_append] at hids
    have hsingle : [ev].filterMap AuditedEvent.logId = ev.logId.toList := by
      cases h : ev.logId with
      | none => rw [List.filterMap_cons_none h, List.filterMap_nil, Option.toList_none]
      | some id => rw [List.filterMap_cons_some h, List.filterMap_nil, Option.toList_some]
    rw [sent_concat, run_concat, List.filterMap_append, hsingle]
    refine (ih hids.1).step ev fun id hid hmem => ?_
    refine hids.2.2 id hmem id ?_ rfl
    rw [hsingle]
    exact Option.mem_toList.2 hid

/-- Each entry that was sent is in the trail once, and each row of the log refers to an
account of its tenant. -/
theorem audit_trail (evs : List (AuditedEvent ν))
    (hids : (evs.filterMap AuditedEvent.logId).Nodup) :
    let s := run (step clients pick) evs init
    s.trail.Perm (sent (step clients pick) (emits clients pick) evs init) ∧
      ∀ l ∈ s.audit.written, l.entry.HasAuthor s.world.db := by
  have hrecord := onRecord_run clients pick evs hids
  exact ⟨hrecord.accounts, fun l hl => hrecord.authors _ (hrecord.accounts.mem_of_written hl)⟩

end Runs

/-- Two calls whose entries are written in the other order. -/
theorem audit_trail_two_calls :
    let s := run (step Sample.superAdminClients .first)
      (Sample.seed :: Sample.rename :: Sample.approveThenWrite) init
    s.audit.written.map (fun l => (l.entry.userId, l.entry.entityId, l.entry.statusCode)) =
        [("s1", "u9", some 404), ("s1", "s0", none)] ∧
      ∀ l ∈ s.audit.written, l.entry.HasAuthor s.world.db :=
  ⟨by decide, (audit_trail _ _ (Sample.seed :: Sample.rename :: Sample.approveThenWrite)
    (by decide)).2⟩

end Audited

/-! ### Changes of the database -/

/-- The two requests of the platform that need no session. -/
theorem PlatformRequest.registers_of_public {r : PlatformRequest} {e : Endpoint}
    (h : r.endpoint = some e) (hpublic : e.context.Public) :
    (∃ dto, r = .registerTenant dto) ∨ ∃ dto, r = .seedSuperAdmin dto := by
  cases r with
  | registerTenant dto => exact .inl ⟨dto, rfl⟩
  | seedSuperAdmin dto => exact .inr ⟨dto, rfl⟩
  | runOfflineDetection => exact absurd h (by simp [endpoint])
  | _ =>
    obtain rfl := Option.some.inj h
    exact absurd hpublic (by decide)

/-- Without a session the guards let only calls of public endpoints pass. -/
theorem HttpCall.Admitted.public {clients : Clients} {pick : Pick FeatureAccess} {w : World}
    {call : HttpCall} (h : call.Admitted clients pick w none) :
    ∃ e ∈ call.action.endpoint, e.context.Public := by
  obtain ⟨e, he, hok⟩ := h
  have hauth := (authorize_eq_ok.1 (guards_eq_ok.1 hok).1).1
  rcases AuthGuard.canActivate_eq_ok.1 hauth with ⟨hpublic, -⟩ | ⟨-, s, hs, -⟩
  · exact ⟨e, he, hpublic⟩
  · cases hs

/-- What changes the database without a session: the jobs and the registrations. -/
def AuditedEvent.Unattended : AuditedEvent ν → Prop
  | .exchange x => (∃ dto, x.call.action = .platform (.registerTenant dto)) ∨
      ∃ dto, x.call.action = .platform (.seedSuperAdmin dto)
  | _ => True

namespace Exchange

variable [NatCast ν] {clients : Clients} {pick : Pick FeatureAccess} {w : World} {x : Exchange ν}

/-- A call that changes the database has gone through. -/
theorem result_of_changed (h : (x.serve clients pick w).db ≠ w.db) :
    ∃ e session op, x.admission clients pick w = some (e, .ok session) ∧
      x.call.operation clients w session = some op ∧ op.next w.db ≠ w.db ∧
      x.result clients w session = .ok (SensitiveFieldsInterceptor.intercept x.returned) := by
  unfold serve at h
  cases hv : x.violations with
  | some errors =>
    rw [hv] at h
    exact absurd rfl h
  | none =>
    simp only [hv, World.serve] at h
    cases hop : (Event.http x.call).operation clients pick w with
    | none =>
      rw [hop] at h
      exact absurd rfl h
    | some op =>
      have hchanged : op.next w.db ≠ w.db := by
        rw [hop] at h
        exact h
      obtain ⟨session, hadm, hcall⟩ := Event.operation_http hop
      obtain ⟨e, he⟩ := admission_eq_ok.2 hadm
      refine ⟨e, session, op, he, hcall, hchanged, ?_⟩
      have hthrown : (op.thrown clients.jwt w x.clientError : Option (Thrown ν)) = none := by
        cases ht : (op.thrown clients.jwt w x.clientError : Option (Thrown ν)) with
        | none => rfl
        | some t => exact absurd (Operation.next_of_thrown ht) hchanged
      rw [result, hv]
      simp only [hcall, hthrown]

/-- A call that ends with an exception has changed nothing in the database. -/
theorem serve_db_of_error {e : Endpoint} {session : Option Session} {t : Thrown ν}
    (hadm : x.admission clients pick w = some (e, .ok session))
    (h : x.result clients w session = .error t) : (x.serve clients pick w).db = w.db := by
  by_contra hchanged
  obtain ⟨e', session', op, hadm', -, -, hresult⟩ := result_of_changed hchanged
  rw [hadm] at hadm'
  obtain ⟨-, hok⟩ := Prod.mk.inj (Option.some.inj hadm')
  rw [← Except.ok.inj hok, h] at hresult
  cases hresult

variable [Printed JsDate] [Printed ν]

/-- The entry of a call with a session, from the result of the call. -/
theorem entries_eq {e : Endpoint} {s : Session}
    (h : x.admission clients pick w = some (e, .ok (some s))) :
    x.entries clients pick w = (AuditInterceptor.entry e.route.method x.url (some s.user)
      (x.result clients w (some s))).toList := by
  rw [entries, h]
  rfl

/-- The call leaves an entry of success, or nobody is to be asked for it. -/
theorem entry_of_changed (h : (x.serve clients pick w).db ≠ w.db) :
    (AuditedEvent.exchange x).Unattended ∨
    ∃ (session : Session) (a : AuditEntry), x.call.Admitted clients pick w (some session) ∧
      x.entries clients pick w = [a] ∧ a.userId = session.user.sub ∧
      a.tenantId = session.user.tenantId ∧ a.success = true := by
  obtain ⟨e, session, op, hadm, hop, hchanged, hresult⟩ := result_of_changed h
  have hadmitted := admission_eq_ok.1 ⟨e, hadm⟩
  cases session with
  | none =>
    obtain ⟨e', he', hpublic⟩ := hadmitted.public
    cases op with
    | request up r =>
      rcases HttpCall.operation_request hop with ⟨s, _, _, hs, -⟩ | ⟨s, _, hs, -⟩ | ⟨pr, -, ha, -⟩
      · cases hs
      · cases hs
      · rw [ha] at he'
        refine .inl ((PlatformRequest.registers_of_public he' hpublic).imp ?_ ?_)
        · rintro ⟨dto, rfl⟩
          exact ⟨dto, ha⟩
        · rintro ⟨dto, rfl⟩
          exact ⟨dto, ha⟩
    | _ => exact absurd rfl hchanged
  | some s =>
    have hmethod := Action.method_mem (endpoint_of_admission hadm)
    have hentries := entries_eq hadm
    rw [hresult, AuditInterceptor.entry, if_neg (not_not.2 hmethod)] at hentries
    exact .inr ⟨s, _, hadmitted, hentries, rfl, rfl, rfl⟩

end Exchange

namespace Audited

section

variable [NatCast ν] [Printed JsDate] [Printed ν] (clients : Clients) (pick : Pick FeatureAccess)

/-- Whatever changes the database is a job, a registration, or has an entry of its own in
the trail, under the account of its token. -/
theorem changes_on_record (before after : List (AuditedEvent ν)) (ev : AuditedEvent ν)
    (hids : ((before ++ ev :: after).filterMap AuditedEvent.logId).Nodup) :
    let s := run (step clients pick) before init
    let s' := run (step clients pick) (before ++ ev :: after) init
    (step clients pick ev s).world.db = s.world.db ∨ ev.Unattended ∨
      ∃ (x : Exchange ν) (session : Session) (a : AuditEntry) (later : List AuditEntry),
        ev = .exchange x ∧ x.call.Admitted clients pick s.world (some session) ∧
        a.userId = session.user.sub ∧ a.tenantId = session.user.tenantId ∧ a.success = true ∧
        s'.trail.Perm (s.trail ++ a :: later) := by
  intro s s'
  cases ev with
  | exchange x =>
    by_cases hchanged : (x.serve clients pick s.world).db = s.world.db
    · exact .inl hchanged
    · refine .inr ((Exchange.entry_of_changed hchanged).imp_right ?_)
      rintro ⟨session, a, hadm, hentries, huser, htenant, hsuccess⟩
      have hbefore : (before.filterMap AuditedEvent.logId).Nodup := by
        rw [List.filterMap_append] at hids
        exact hids.of_append_left
      have htrail : s'.trail.Perm _ :=
        (onRecord_run clients pick _ hids).accounts
      have htrail₀ : s.trail.Perm _ :=
        (onRecord_run clients pick _ hbefore).accounts
      have hemits : emits clients pick (.exchange x) s = [a] := hentries
      rw [sent_append, sent, hemits, List.singleton_append] at htrail
      exact ⟨x, session, a, _, rfl, hadm, huser, htenant, hsuccess,
        htrail.trans (htrail₀.symm.append_right _)⟩
  | write n id now => exact .inl rfl
  | _ => exact .inr (.inl trivial)

end

/-- The new name of the tenant is on record when the run is over. -/
theorem changes_on_record_rename :
    let s := run (step Sample.superAdminClients .first) [Sample.seed] init
    let s' := run (step Sample.superAdminClients .first)
      ([Sample.seed] ++ Sample.rename :: Sample.approveThenWrite) init
    ∃ (session : Session) (a : AuditEntry) (later : List AuditEntry),
      a.userId = session.user.sub ∧ a.success = true ∧ s'.trail.Perm (s.trail ++ a :: later) := by
  have hchanged : (step Sample.superAdminClients .first Sample.rename
      (run (step Sample.superAdminClients .first) [Sample.seed] init)).world.db.tenants ≠
      (run (step Sample.superAdminClients .first) [Sample.seed] init).world.db.tenants := by
    decide
  have hattended : ¬Sample.rename.Unattended := by
    rintro (⟨dto, hdto⟩ | ⟨dto, hdto⟩)
    · cases hdto
    · cases hdto
  rcases changes_on_record Sample.superAdminClients .first [Sample.seed]
    Sample.approveThenWrite Sample.rename (by decide) with hsame | hun | hentry
  · exact absurd (congrArg (fun db : Database => db.tenants) hsame) hchanged
  · exact absurd hun hattended
  · obtain ⟨_, session, a, later, -, -, huser, -, hsuccess, hperm⟩ := hentry
    exact ⟨session, a, later, huser, hsuccess, hperm⟩

end Audited

/-! ### What the client is told -/

/-- A thrown value with a status that a client may see and a message of its own, or one
of the database client. -/
def Thrown.Plain : Thrown ν → Prop
  | .http status response _ => 400 ≤ status ∧ status < 500 ∧
      ((∃ s, response = text s) ∨ ∃ v, response.get? "message" = some v)
  | .error _ => True
  | .other => False

section Plain

variable [NatCast ν]

/-- What a service throws is one of the known errors. -/
theorem Error.plain_thrown (clientError : String) (err : Error) :
    (err.thrown clientError : Thrown ν).Plain := by
  cases err with
  | badRequest message => exact ⟨by decide, by decide, .inr ⟨_, rfl⟩⟩
  | unavailable message reasons => exact ⟨by decide, by decide, .inr ⟨_, rfl⟩⟩
  | unauthorized message => exact ⟨by decide, by decide, .inr ⟨_, rfl⟩⟩
  | forbidden message => exact ⟨by decide, by decide, .inr ⟨_, rfl⟩⟩
  | notFound message => exact ⟨by decide, by decide, .inr ⟨_, rfl⟩⟩
  | conflict message => exact ⟨by decide, by decide, .inr ⟨_, rfl⟩⟩
  | tooManyRequests message => exact ⟨by decide, by decide, .inl ⟨_, rfl⟩⟩
  | _ => trivial

/-- What a method throws is one of its exceptions, or comes from a client library. -/
theorem Operation.thrown_cases {jwt : Jwt} {w : World} {clientError : String} {op : Operation}
    {t : Thrown ν} (h : op.thrown jwt w clientError = some t) :
    (∃ err : Error, t = err.thrown clientError) ∨ t = .error clientError := by
  cases op with
  | request redisUp r =>
    obtain ⟨err, -, rfl⟩ := Option.map_eq_some_iff.1 h
    exact .inl ⟨err, rfl⟩
  | login env dto =>
    simp only [thrown] at h
    split at h
    · cases h
    · exact .inl ⟨_, (Option.some.inj h).symm⟩
  | refresh env refreshToken =>
    simp only [thrown] at h
    split at h
    · cases h
    · exact .inl ⟨_, (Option.some.inj h).symm⟩
  | logout redisUp now s =>
    simp only [thrown] at h
    split at h
    · cases h
    · exact .inr (Option.some.inj h).symm

/-- So is what a call ends with. -/
theorem Exchange.plain_result {clients : Clients} {w : World} {x : Exchange ν}
    {session : Option Session} {t : Thrown ν} (h : x.result clients w session = .error t) :
    t.Plain := by
  unfold result at h
  split at h
  · obtain rfl := Except.error.inj h
    exact ⟨by decide, by decide, .inr ⟨_, rfl⟩⟩
  · split at h
    · split at h
      · rename_i hthrown
        obtain rfl := Except.error.inj h
        rcases Operation.thrown_cases hthrown with ⟨err, rfl⟩ | rfl
        · exact err.plain_thrown x.clientError
        · trivial
      · cases h
    · obtain rfl := Except.error.inj h
      exact Error.plain_thrown _ _

end Plain

section Told

variable [Printed JsDate] [Printed ν]

/-- A message in words: the items of an array one after the other. -/
def inWords : Data ν → String
  | .array items => "; ".intercalate (items.map Value.printed)
  | message => message.printed

/-- The filter and the interceptor read the same message out of an exception. -/
theorem inWords_normalizeMessage {status : Nat} {response : Data ν} {message : String}
    (h : (Thrown.http status response message).Plain) :
    inWords (AllExceptionsFilter.normalizeMessage status response) =
      AuditInterceptor.extractErrorMessage (.http status response message) := by
  obtain ⟨-, hlt, hmessage⟩ := h
  have hstatus : status ≠ 500 := by omega
  unfold AllExceptionsFilter.normalizeMessage
  rw [if_neg hstatus]
  rcases hmessage with ⟨s, rfl⟩ | ⟨v, hv⟩
  · show (text s : Data ν).printed = s
    exact Value.printed_string s
  · cases response with
    | object members =>
      simp only [AuditInterceptor.extractErrorMessage, hv]
      cases v with
      | array items => simp [inWords, List.map_map, Function.comp_def]
      | _ => simp [inWords]
    | _ => cases hv

/-- What the entry of a call says about its answer. -/
structure Told [NatCast ν] (w w' : World) (session : Session) (a : AuditEntry) (r : Response ν) :
    Prop where
  userId : a.userId = session.user.sub
  tenantId : a.tenantId = session.user.tenantId
  success : a.success = true ↔ r.status < 400
  unchanged : a.success = false → w'.db = w.db
  statusCode : a.success = false → a.statusCode = some r.status
  message : a.success = false → r.status ≠ 500 → a.errorMessage = r.message.map inWords
  hidden : r.status = 500 → r.message = some (text "Internal server error")

namespace Exchange

variable [NatCast ν] {clients : Clients} {pick : Pick FeatureAccess} {w : World} {x : Exchange ν}

/-- The entry of a call that went through. -/
theorem told_ok {e : Endpoint} {s : Session} {body : Data ν}
    (hadm : x.admission clients pick w = some (e, .ok (some s)))
    (h : x.result clients w (some s) = .ok body) :
    ∃ a r, x.entries clients pick w = [a] ∧ x.response clients pick w = some r ∧
      Told w (x.serve clients pick w) s a r := by
  have hmethod := Action.method_mem (endpoint_of_admission hadm)
  have hentries := entries_eq hadm
  have hlt : e.route.status < 400 := e.controller.status_lt e.handler
  rw [h, AuditInterceptor.entry, if_neg (not_not.2 hmethod)] at hentries
  have hresponse : x.response clients pick w = some
      { status := e.route.status
        body := ResponseInterceptor.intercept x.call.env.now x.url body } := by
    rw [response, hadm]
    simp only [h]
  refine ⟨_, _, hentries, hresponse, rfl, rfl, ?_, ?_, ?_, ?_, ?_⟩
  · exact ⟨fun _ => hlt, fun _ => rfl⟩
  · exact fun hfalse => Bool.noConfusion hfalse
  · exact fun hfalse => Bool.noConfusion hfalse
  · exact fun hfalse => Bool.noConfusion hfalse
  · intro hstatus
    change e.route.status = 500 at hstatus
    omega

/-- The entry of a call that ended with an exception. -/
theorem told_error {e : Endpoint} {s : Session} {t : Thrown ν}
    (hadm : x.admission clients pick w = some (e, .ok (some s)))
    (h : x.result clients w (some s) = .error t) :
    ∃ a r, x.entries clients pick w = [a] ∧ x.response clients pick w = some r ∧
      Told w (x.serve clients pick w) s a r := by
  have hmethod := Action.method_mem (endpoint_of_admission hadm)
  have hentries := entries_eq hadm
  have hplain := plain_result h
  have hdb := serve_db_of_error hadm h
  rw [h, AuditInterceptor.entry, if_neg (not_not.2 hmethod)] at hentries
  have hresponse : x.response clients pick w =
      some (AllExceptionsFilter.response x.call.env.now x.url t) := by
    rw [response, hadm]
    simp only [h]
  refine ⟨_, _, hentries, hresponse, rfl, rfl, ?_, fun _ => hdb, ?_, ?_, ?_⟩
  · have hstatus : ¬(AllExceptionsFilter.response x.call.env.now x.url t).status < 400 := by
      cases t with
      | http status response message => exact Nat.not_lt.2 hplain.1
      | _ =>
        show ¬500 < 400
        decide
    exact ⟨fun hfalse => Bool.noConfusion hfalse, fun hlt => absurd hlt hstatus⟩
  · intro _
    cases t <;> rfl
  · intro _ hstatus
    cases t with
    | http status response message => exact congrArg some (inWords_normalizeMessage hplain).symm
    | error message => exact absurd rfl hstatus
    | other => exact absurd rfl hstatus
  · intro hstatus
    cases t with
    | http status response message =>
      obtain ⟨-, hlt, -⟩ := hplain
      change status = 500 at hstatus
      omega
    | _ => rfl

/-- What the client is told does not depend on the text of an error of a client library. -/
theorem response_clientError (clientError : String) :
    ({ x with clientError } : Exchange ν).response clients pick w = x.response clients pick w := by
  have hfilter : ∀ err : Error,
      AllExceptionsFilter.response x.call.env.now x.url (err.thrown clientError : Thrown ν) =
        AllExceptionsFilter.response x.call.env.now x.url (err.thrown x.clientError) := by
    intro err
    cases err <;> rfl
  -- the exceptions are those of the services, or hidden by the filter
  have hthrown : ∀ op : Operation,
      (op.thrown clients.jwt w clientError).map
          (AllExceptionsFilter.response x.call.env.now x.url : Thrown ν → Response ν) =
        (op.thrown clients.jwt w x.clientError).map
          (AllExceptionsFilter.response x.call.env.now x.url) := by
    intro op
    cases op with
    | request redisUp r =>
      simp only [Operation.thrown, Option.map_map]
      exact congrArg (Option.map · _) (funext hfilter)
    | login env dto =>
      simp only [Operation.thrown]
      split
      · rfl
      · exact congrArg some (hfilter _)
    | refresh env refreshToken =>
      simp only [Operation.thrown]
      split
      · rfl
      · exact congrArg some (hfilter _)
    | logout redisUp now s =>
      simp only [Operation.thrown]
      split <;> rfl
  have hadm : ({ x with clientError } : Exchange ν).admission clients pick w =
      x.admission clients pick w := rfl
  unfold response
  rw [hadm]
  cases x.admission clients pick w with
  | none => rfl
  | some a =>
    obtain ⟨e, session | session⟩ := a
    · exact congrArg some (hfilter _)
    · simp only [result]
      cases x.violations with
      | some errors => rfl
      | none =>
        cases x.call.operation clients w session with
        | none => exact congrArg some (hfilter _)
        | some op =>
          have hop := hthrown op
          cases h : (op.thrown clients.jwt w clientError : Option (Thrown ν)) with
          | none =>
            rw [h, Option.map_none, eq_comm, Option.map_eq_none_iff] at hop
            simp only [h, hop]
          | some t =>
            rw [h, Option.map_some, eq_comm, Option.map_eq_some_iff] at hop
            obtain ⟨t', ht', heq⟩ := hop
            simp only [h, ht', heq]

/-- A call made with a session leaves one entry, and the entry says what the client was told;
any other call leaves none.  The text of an internal error stays inside. -/
theorem audit_tells_response (x : Exchange ν) (w : World) :
    ((∃ session a r, x.call.Admitted clients pick w (some session) ∧
        x.entries clients pick w = [a] ∧ x.response clients pick w = some r ∧
        Told w (x.serve clients pick w) session a r) ∨
      ((∀ session, ¬x.call.Admitted clients pick w (some session)) ∧
        x.entries clients pick w = [])) ∧
    ∀ clientError, ({ x with clientError } : Exchange ν).response clients pick w =
      x.response clients pick w := by
  refine ⟨?_, response_clientError⟩
  by_cases h : ∃ session, x.call.Admitted clients pick w (some session)
  · obtain ⟨session, hadmitted⟩ := h
    obtain ⟨e, hadm⟩ := admission_eq_ok.2 hadmitted
    refine .inl ⟨session, ?_⟩
    cases hresult : x.result clients w (some session) with
    | ok body =>
      obtain ⟨a, r, ha⟩ := told_ok hadm hresult
      exact ⟨a, r, hadmitted, ha⟩
    | error t =>
      obtain ⟨a, r, ha⟩ := told_error hadm hresult
      exact ⟨a, r, hadmitted, ha⟩
  · have hnone : ∀ session, ¬x.call.Admitted clients pick w (some session) :=
      fun session hs => h ⟨session, hs⟩
    refine .inr ⟨hnone, ?_⟩
    unfold entries
    split
    · rename_i e session hadm
      cases session with
      | some session => exact absurd (admission_eq_ok.1 ⟨e, hadm⟩) (hnone session)
      | none =>
        unfold AuditInterceptor.entry
        split <;> rfl
    · rfl

end Exchange
end Told

/-! ### What an administrator sees of it -/

open AuditService

/-- The answer to a query for the log of a tenant. -/
structure ListsTrail (s : Audited) (tenantId : String) (query : AuditQueryDto)
    (startDate endDate : Option Time) (rows : List AuditRow) : Prop where
  length_le : rows.length ≤ 500
  newest_first : rows.Pairwise fun a b => b.log.createdAt ≤ a.log.createdAt
  once : (rows.map fun r => r.log.id).Nodup
  own : ∀ r ∈ rows, r.log ∈ s.audit.written ∧ Asked tenantId query startDate endDate r.log
  author : ∀ r ∈ rows, ∃ u ∈ s.world.db.users, u.tenantId = tenantId ∧
    u.id.val = r.log.entry.userId ∧ r.user = some ⟨u.id, u.name, u.email, u.role⟩
  left_out : ∀ l ∈ s.audit.written, Asked tenantId query startDate endDate l →
    (∃ r ∈ rows, r.log = l) ∨ (rows.length = 500 ∧ ∀ r ∈ rows, l.createdAt ≤ r.log.createdAt)

namespace Audited

variable {clients : Clients}

/-- A row of the log is shown with the user who made the call. -/
theorem withAuthor_eq {db : Database} {l : AuditLog} {u : User} (hu : u ∈ db.users)
    (hid : u.id.val = l.entry.userId) :
    (withAuthor db.toTables l).user = some ⟨u.id, u.name, u.email, u.role⟩ := by
  have hfind : (db.users.find? fun o => o.id.val = l.entry.userId) = some u :=
    (find?_key_eq_some (db.nodup_key .user) fun _ h => of_decide_eq_true h).2
      ⟨hu, decide_eq_true hid⟩
  rw [withAuthor, hfind]
  rfl

/-- What `findAll` lists is the trail of the tenant. -/
theorem OnRecord.listsTrail {entries : List AuditEntry} {ids : List Cuid} {s : Audited}
    (h : OnRecord clients entries ids s) (tenantId : String) (query : AuditQueryDto)
    (startDate endDate : Option Time) :
    ListsTrail s tenantId query startDate endDate
      (((desc AuditLog.createdAt (s.audit.written.filter fun log =>
        Asked tenantId query startDate endDate log)).take 500).map
          (withAuthor s.world.db.toTables)) := by
  set kept := s.audit.written.filter fun log => Asked tenantId query startDate endDate log
    with hkept
  have hmem : ∀ l ∈ (desc AuditLog.createdAt kept).take 500,
      l ∈ s.audit.written ∧ Asked tenantId query startDate endDate l := by
    intro l hl
    have hfilter := desc_perm.mem_iff.1 (List.mem_of_mem_take hl)
    obtain ⟨hwritten, hasked⟩ := List.mem_filter.1 hfilter
    exact ⟨hwritten, of_decide_eq_true hasked⟩
  constructor
  · rw [List.length_map, List.length_take]
    omega
  · exact List.pairwise_map.2 (desc_pairwise.sublist (List.take_sublist _ _))
  · have hids : (kept.map AuditLog.id).Nodup := h.nodup.sublist (List.filter_sublist.map _)
    have hdesc : ((desc AuditLog.createdAt kept).map AuditLog.id).Nodup :=
      (desc_perm.map AuditLog.id).nodup_iff.2 hids
    rw [List.map_map]
    exact hdesc.sublist ((List.take_sublist 500 _).map AuditLog.id)
  · intro r hr
    obtain ⟨l, hl, rfl⟩ := List.mem_map.1 hr
    exact hmem l hl
  · intro r hr
    obtain ⟨l, hl, rfl⟩ := List.mem_map.1 hr
    obtain ⟨hwritten, hasked⟩ := hmem l hl
    obtain ⟨u, hu, hid, htenant⟩ := h.authors _ (h.accounts.mem_of_written hwritten)
    exact ⟨u, hu, htenant.trans hasked.tenantId, hid, withAuthor_eq hu hid⟩
  · intro l hl hasked
    have hmemkept : l ∈ kept := List.mem_filter.2 ⟨hl, decide_eq_true hasked⟩
    by_cases hin : l ∈ (desc AuditLog.createdAt kept).take 500
    · exact .inl ⟨_, List.mem_map_of_mem hin, rfl⟩
    · obtain ⟨hlength, hnewer⟩ := take_desc hmemkept hin
      refine .inr ⟨by rw [List.length_map, hlength], fun r hr => ?_⟩
      obtain ⟨b, hb, rfl⟩ := List.mem_map.1 hr
      exact hnewer b hb

section

variable [NatCast ν] [Printed JsDate] [Printed ν] (clients) (pick : Pick FeatureAccess)

/-- After every run the log lists the newest of the entries asked for, each once and all of
the tenant's own, with their authors, who are the tenant's too. -/
theorem audit_list (evs : List (AuditedEvent ν)) (hids : (evs.filterMap AuditedEvent.logId).Nodup)
    (tenantId : String) (query : AuditQueryDto) :
    let s := run (step clients pick) evs init
    ((query.startDate = some none ∨ query.endDate = some none) ∧
        (findAll s.audit.written tenantId query).eval s.world.db = .error .invalidArgument) ∨
      ∃ startDate endDate rows, query.startDate = startDate.map some ∧
        query.endDate = endDate.map some ∧
        (findAll s.audit.written tenantId query).eval s.world.db = .ok rows ∧
        ListsTrail s tenantId query startDate endDate rows := by
  intro s
  have hrecord := onRecord_run clients pick evs hids
  have hcases : ∀ d : Option JsDate, d = some none ∨ ∃ o : Option Time, d = o.map some := by
    rintro (_ | _ | t)
    · exact .inr ⟨none, rfl⟩
    · exact .inl rfl
    · exact .inr ⟨some t, rfl⟩
  obtain ⟨entity, entityId, userId, startDate, endDate⟩ := query
  rcases hcases startDate with rfl | ⟨o, rfl⟩
  · exact .inl ⟨.inl rfl, rfl⟩
  · rcases hcases endDate with rfl | ⟨o', rfl⟩
    · refine .inl ⟨.inr rfl, ?_⟩
      cases o <;> rfl
    · refine .inr ⟨o, o', _, rfl, rfl, ?_, hrecord.listsTrail tenantId _ o o'⟩
      cases o <;> cases o' <;> rfl

end

/-- The log of the platform's own tenant, of what happened at 6 or later. -/
theorem audit_list_recent :
    let s := run (step Sample.superAdminClients .first)
      (Sample.seed :: Sample.rename :: Sample.approveThenWrite) init
    ∃ rows, (findAll s.audit.written "s0" { startDate := some (some 6) }).eval s.world.db =
        .ok rows ∧ rows.map (fun r => r.log.entry.entityId) = ["s0"] ∧
      ListsTrail s "s0" { startDate := some (some 6) } (some 6) none rows := by
  rcases audit_list Sample.superAdminClients .first
    (Sample.seed :: Sample.rename :: Sample.approveThenWrite) (by decide) "s0"
    { startDate := some (some 6) } with ⟨hinvalid | hinvalid, -⟩ | hlist
  · cases hinvalid
  · cases hinvalid
  · obtain ⟨startDate, endDate, rows, hstart, hend, hrows, hlists⟩ := hlist
    obtain rfl : startDate = some 6 := by
      cases startDate <;> simp_all
    obtain rfl : endDate = none := by
      cases endDate <;> simp_all
    refine ⟨rows, hrows, ?_, hlists⟩
    rw [← Except.ok.inj hrows]
    decide

end Audited

end NodeVms
