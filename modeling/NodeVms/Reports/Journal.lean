/-
# Profit and loss as a journal

Each of the seven figures of the report is an account.  A request that goes through posts
the entries of the record it creates; one that changes a record, or removes it, posts the
reversal of the old entries and the new ones.  What the report says after any run is what
the postings of the run amount to, account by account and for every span of time: no
other request moves money, and no posting is lost or counted twice.
-/

import Mathlib.Tactic.Ring
import NodeVms.Frames
import NodeVms.Reports.ProfitLoss
import NodeVms.Store.Outbox

namespace NodeVms

open Store Script Prisma

namespace Accounting

/-! ### Accounts and postings -/

/-- The figures of the report. -/
inductive Account where
  | incomeFromRecords
  | incomeFromTrips
  | expenseFromRecords
  | fuelCosts
  | maintenanceCosts
  | tripTollCosts
  | tripPoliceCosts
  deriving DecidableEq

/-- The figure of the report that shows the account. -/
def Breakdown.figure (b : Breakdown) : Account → Amount
  | .incomeFromRecords => b.incomeFromRecords
  | .incomeFromTrips => b.incomeFromTrips
  | .expenseFromRecords => b.expenseFromRecords
  | .fuelCosts => b.fuelCosts
  | .maintenanceCosts => b.maintenanceCosts
  | .tripTollCosts => b.tripTollCosts
  | .tripPoliceCosts => b.tripPoliceCosts

/-- An amount posted to an account of a tenant, at a moment. -/
structure Posting where
  account : Account
  tenantId : String
  moment : Time
  amount : Amount

/-- The reversal of a posting. -/
def Posting.reversed (p : Posting) : Posting := { p with amount := -p.amount }

/-- What a posting counts for in an account of a tenant, within a span of time. -/
def Posting.worth (a : Account) (T : String) (s : Span Time) (p : Posting) : Amount :=
  if p.account = a ∧ p.tenantId = T ∧ s.Contains p.moment then p.amount else 0

/-- The balance of an account after some postings. -/
def balance (a : Account) (T : String) (s : Span Time) (ps : List Posting) : Amount :=
  (ps.map (Posting.worth a T s)).sum

/-- The entries of a record, as long as it is not removed: one for each account that has a column
of its book. -/
def recordEntries {α : Type} (book : Book α) (columns : List (Account × (α → Amount))) (r : α) :
    List Posting :=
  if book.deletedAt r = none then
    columns.map fun c => ⟨c.1, book.tenantId r, book.moment r, c.2 r⟩
  else []

/-- The accounts an income record is booked to, with its amounts. -/
def incomeColumns : List (Account × (NodeVms.Income → Amount)) :=
  [(.incomeFromRecords, Income.amount)]

def tripColumns : List (Account × (Trip → Amount)) :=
  [(.incomeFromTrips, Trip.income), (.tripTollCosts, Trip.tollCost),
    (.tripPoliceCosts, Trip.policeCost)]

def expenseColumns : List (Account × (Expense → Amount)) := [(.expenseFromRecords, Expense.amount)]

def fuelColumns : List (Account × (FuelLog → Amount)) := [(.fuelCosts, FuelLog.cost)]

def maintenanceColumns : List (Account × (MaintenanceLog → Amount)) :=
  [(.maintenanceCosts, MaintenanceLog.totalCost)]

def incomeEntries : NodeVms.Income → List Posting := recordEntries Book.incomes incomeColumns
def tripEntries : Trip → List Posting := recordEntries Book.trips tripColumns
def expenseEntries : Expense → List Posting := recordEntries Book.expenses expenseColumns
def fuelEntries : FuelLog → List Posting := recordEntries Book.fuelLogs fuelColumns
def maintenanceEntries : MaintenanceLog → List Posting :=
  recordEntries Book.maintenanceLogs maintenanceColumns

/-! ### What the requests post -/

section Posts

variable {α : Type}

/-- A request that creates a record posts its entries. -/
def booked (h : Query (Transaction α)) (entries : α → List Posting) (db : Database) :
    List Posting :=
  match h.exec db with
  | .ok (r, _) => entries r
  | .error _ => []

/-- A request that changes a record reverses its entries and posts the new ones. -/
def rebooked (h : Query (Transaction α)) (entries : α → List Posting) (rows : List α)
    (p : α → Bool) (f : α → α) (db : Database) : List Posting :=
  match h.exec db with
  | .ok _ => (rows.filter p).flatMap fun r => (entries r).map Posting.reversed ++ entries (f r)
  | .error _ => []

/-- What a request posts. -/
def posts : Request → Database → List Posting
  | .tenant env T (.income (.create dto)), db => booked (Income.create env T dto) incomeEntries db
  | .tenant _ T (.income (.update id dto)), db =>
    rebooked (Income.update T id dto) incomeEntries db.incomes (fun i => i.id.val = id)
      (fun i => { i with source := dto.source.set i.source, amount := dto.amount.set i.amount }) db
  | .tenant env T (.income (.remove id)), db =>
    rebooked (Income.remove env T id) incomeEntries db.incomes (fun i => i.id.val = id)
      (fun i => { i with deletedAt := some env.now }) db
  | .tenant env T (.trips (.startTrip vehicleId userId)), db =>
    booked (Trips.startTrip env vehicleId T userId) tripEntries db
  | .tenant env T (.trips (.endTrip tripId userId dto role)), db =>
    rebooked (Trips.endTrip env tripId T userId dto role) tripEntries db.trips
      (fun t => t.id.val = tripId) (dto.close env.now) db
  | .tenant _ T (.trips (.updateTrip tripId dto)), db =>
    rebooked (Trips.updateTrip tripId T dto) tripEntries db.trips (fun t => t.id.val = tripId)
      dto.apply db
  | .tenant env T (.expenses dto), db => booked (Expenses.create env T dto) expenseEntries db
  | .tenant env T (.fuel dto), db => booked (Fuel.addLog env T dto) fuelEntries db
  | .tenant env T (.maintenance dto), db =>
    booked (Maintenance.create env T dto) maintenanceEntries db
  | _, _ => []

end Posts

/-! ### The balance of a table -/

section Balance

variable {α : Type} {a : Account} {T : String} {s : Span Time} {entries : α → List Posting}

/-- An empty journal is balanced. -/
theorem balance_nil : balance a T s [] = 0 := rfl

/-- The balance of two journals is the sum of theirs. -/
theorem balance_append (ps qs : List Posting) :
    balance a T s (ps ++ qs) = balance a T s ps + balance a T s qs := by
  simp [balance]

/-- What is reversed is subtracted. -/
theorem balance_reversed (ps : List Posting) :
    balance a T s (ps.map Posting.reversed) = -balance a T s ps := by
  induction ps with
  | nil => simp [balance]
  | cons p ps ih =>
    have hp : Posting.worth a T s p.reversed = -Posting.worth a T s p := by
      by_cases h : p.account = a ∧ p.tenantId = T ∧ s.Contains p.moment
      · have hreversed : Posting.worth a T s p.reversed = -p.amount := if_pos h
        rw [hreversed, Posting.worth, if_pos h]
      · have hreversed : Posting.worth a T s p.reversed = 0 := if_neg h
        rw [hreversed, Posting.worth, if_neg h, neg_zero]
    have hcons : ∀ q qs, balance a T s (q :: qs) = Posting.worth a T s q + balance a T s qs :=
      fun q qs => by simp [balance]
    rw [List.map_cons, hcons, hcons, ih, hp]
    ring

/-- The balance of the entries of several rows. -/
theorem balance_flatMap (rows : List α) :
    balance a T s (rows.flatMap entries) = (rows.map fun r => balance a T s (entries r)).sum := by
  induction rows with
  | nil => rfl
  | cons r rows ih => rw [List.flatMap_cons, balance_append, ih, List.map_cons, List.sum_cons]

/-- The balance of the entries of a table. -/
def tableBalance (a : Account) (T : String) (s : Span Time) (entries : α → List Posting)
    (rows : List α) : Amount :=
  (rows.map fun r => balance a T s (entries r)).sum

/-- A new row posts its entries. -/
theorem tableBalance_append (rows : List α) (r : α) :
    tableBalance a T s entries (rows ++ [r]) =
      tableBalance a T s entries rows + balance a T s (entries r) := by
  simp [tableBalance]

/-- A row that is changed posts the reversal of its old entries, and the new ones. -/
theorem tableBalance_updateWhere (p : α → Bool) (f : α → α) (rows : List α) :
    tableBalance a T s entries (updateWhere p f rows) = tableBalance a T s entries rows +
      balance a T s ((rows.filter p).flatMap fun r =>
        (entries r).map Posting.reversed ++ entries (f r)) := by
  unfold tableBalance
  rw [sum_updateWhere, balance_flatMap]
  congr 3
  funext r
  rw [balance_append, balance_reversed]
  ring

/-- The balance of the five tables. -/
def balances (a : Account) (T : String) (s : Span Time) (incomes : List NodeVms.Income)
    (trips : List Trip) (expenses : List Expense) (fuelLogs : List FuelLog)
    (maintenanceLogs : List MaintenanceLog) : Amount :=
  tableBalance a T s incomeEntries incomes + tableBalance a T s tripEntries trips +
    tableBalance a T s expenseEntries expenses + tableBalance a T s fuelEntries fuelLogs +
    tableBalance a T s maintenanceEntries maintenanceLogs

/-- What the tables of a database amount to. -/
def dbBalance (a : Account) (T : String) (s : Span Time) (t : Tables) : Amount :=
  balances a T s t.incomes t.trips t.expenses t.fuelLogs t.maintenanceLogs

section Changes

variable {incomes incomes' : List NodeVms.Income} {trips trips' : List Trip} {x : Amount}

/-- What a change of the income records adds to their balance, it adds to the whole. -/
theorem balances_incomes (h : tableBalance a T s incomeEntries incomes' =
    tableBalance a T s incomeEntries incomes + x) (trips : List Trip) (expenses : List Expense)
    (fuelLogs : List FuelLog) (maintenanceLogs : List MaintenanceLog) :
    balances a T s incomes' trips expenses fuelLogs maintenanceLogs =
      balances a T s incomes trips expenses fuelLogs maintenanceLogs + x := by
  rw [balances, h, balances]
  ring

/-- The same for the trips. -/
theorem balances_trips (h : tableBalance a T s tripEntries trips' =
    tableBalance a T s tripEntries trips + x) (incomes : List NodeVms.Income)
    (expenses : List Expense) (fuelLogs : List FuelLog) (maintenanceLogs : List MaintenanceLog) :
    balances a T s incomes trips' expenses fuelLogs maintenanceLogs =
      balances a T s incomes trips expenses fuelLogs maintenanceLogs + x := by
  rw [balances, h, balances]
  ring

end Changes
end Balance

/-! ### The report shows the balances -/

section Report

variable {α : Type} {a : Account} {T : String} {s : Span Time} {t : Tables}

/-- What the columns of an account amount to in a record. -/
def columnOf (a : Account) (columns : List (Account × (α → Amount))) (r : α) : Amount :=
  (columns.map fun c => if c.1 = a then c.2 r else 0).sum

/-- A record counts with its columns of the account, if it counts at all. -/
theorem balance_recordEntries (book : Book α) (columns : List (Account × (α → Amount))) (r : α) :
    balance a T s (recordEntries book columns r) =
      if book.Counts T s r then columnOf a columns r else 0 := by
  by_cases hlive : book.deletedAt r = none
  · rw [recordEntries, if_pos hlive, balance, columnOf, List.map_map]
    by_cases hcounts : book.tenantId r = T ∧ s.Contains (book.moment r)
    · rw [if_pos ⟨hcounts.1, hlive, hcounts.2⟩]
      refine congrArg List.sum (List.map_congr_left fun c _ => ?_)
      simp [Posting.worth, hcounts]
    · have hnot : ¬book.Counts T s r := fun h => hcounts ⟨h.1, h.2.2⟩
      have hzero : ∀ c : Account × (α → Amount),
          Posting.worth a T s ⟨c.1, book.tenantId r, book.moment r, c.2 r⟩ = 0 :=
        fun c => if_neg fun h => hcounts h.2
      rw [if_neg hnot]
      simp [Function.comp_def, hzero]
  · have hnot : ¬book.Counts T s r := fun h => hlive h.2.1
    rw [recordEntries, if_neg hlive, if_neg hnot]
    rfl

/-- The journal of a book says what the report adds up. -/
theorem tableBalance_eq_total (book : Book α) (columns : List (Account × (α → Amount))) :
    tableBalance a T s (recordEntries book columns) (book.model.rows t) =
      book.total T t (columnOf a columns) s := by
  unfold tableBalance Book.total Book.entries
  rw [sum_filter]
  exact congrArg List.sum (List.map_congr_left fun r _ => balance_recordEntries book columns r)

/-- A book with no column of the account adds up to nothing. -/
theorem total_columnOf_nil (book : Book α) : book.total T t (columnOf a []) s = 0 := by
  have hnil : ∀ r : α, columnOf a [] r = 0 := fun _ => rfl
  unfold Book.total
  rw [List.map_congr_left fun r _ => hnil r]
  simp

/-- One column after the other. -/
theorem total_columnOf_cons (book : Book α) (c : Account × (α → Amount))
    (columns : List (Account × (α → Amount))) :
    book.total T t (columnOf a (c :: columns)) s =
      (if c.1 = a then book.total T t c.2 s else 0) + book.total T t (columnOf a columns) s := by
  have hcons : ∀ r, columnOf a (c :: columns) r =
      (if c.1 = a then c.2 r else 0) + columnOf a columns r := fun r => List.sum_cons
  unfold Book.total
  rw [List.map_congr_left fun r _ => hcons r, List.sum_map_add]
  split_ifs <;> simp

/-- The report shows the balances of its accounts. -/
theorem figure_profitLoss (a : Account) (T : String) (t : Tables) (s : Span Time) :
    (profitLoss T t s).breakdown.figure a = dbBalance a T s t := by
  have hincomes : tableBalance a T s incomeEntries t.incomes =
      Book.incomes.total T t (columnOf a incomeColumns) s := tableBalance_eq_total _ _
  have htrips : tableBalance a T s tripEntries t.trips =
      Book.trips.total T t (columnOf a tripColumns) s := tableBalance_eq_total _ _
  have hexpenses : tableBalance a T s expenseEntries t.expenses =
      Book.expenses.total T t (columnOf a expenseColumns) s := tableBalance_eq_total _ _
  have hfuel : tableBalance a T s fuelEntries t.fuelLogs =
      Book.fuelLogs.total T t (columnOf a fuelColumns) s := tableBalance_eq_total _ _
  have hmaintenance : tableBalance a T s maintenanceEntries t.maintenanceLogs =
      Book.maintenanceLogs.total T t (columnOf a maintenanceColumns) s := tableBalance_eq_total _ _
  unfold dbBalance balances
  rw [hincomes, htrips, hexpenses, hfuel, hmaintenance]
  -- an account has a column in one of the books
  cases a <;>
    simp [incomeColumns, tripColumns, expenseColumns, fuelColumns, maintenanceColumns,
      total_columnOf_nil, total_columnOf_cons, Breakdown.figure, profitLoss]

end Report

/-! ### Steps -/

section Steps

variable {α : Type} {db db' : Database} {ps : List Posting} {env : Env} {T : String}

/-- The postings account for what has changed in the tables. -/
def Posts (ps : List Posting) (db db' : Database) : Prop :=
  ∀ a T s, dbBalance a T s db'.toTables = dbBalance a T s db.toTables + balance a T s ps

/-- A request that writes none of the five tables posts nothing. -/
theorem Posts.same (hincomes : db'.incomes = db.incomes) (htrips : db'.trips = db.trips)
    (hexpenses : db'.expenses = db.expenses) (hfuel : db'.fuelLogs = db.fuelLogs)
    (hmaintenance : db'.maintenanceLogs = db.maintenanceLogs) : Posts [] db db' := by
  intro a T s
  rw [dbBalance, hincomes, htrips, hexpenses, hfuel, hmaintenance, balance_nil, add_zero]
  rfl

/-- A request posts the entries of the record it creates, if it is accepted. -/
theorem posts_booked {h : Query (Transaction α)} {entries : α → List Posting}
    (hok : ∀ r db', h.exec db = .ok (r, db') → Posts (entries r) db db') :
    Posts (booked h entries db) db (h.next db) := by
  unfold booked
  cases hexec : h.exec db with
  | error e =>
    rw [next_of_error hexec]
    exact .same rfl rfl rfl rfl rfl
  | ok res =>
    rw [next_of_ok hexec]
    exact hok _ _ hexec

/-- A request that changes records posts their reversals and the new entries. -/
theorem posts_rebooked {h : Query (Transaction α)} {entries : α → List Posting} {rows : List α}
    {p : α → Bool} {f : α → α}
    (hok : ∀ r db', h.exec db = .ok (r, db') → Posts ((rows.filter p).flatMap fun r =>
      (entries r).map Posting.reversed ++ entries (f r)) db db') :
    Posts (rebooked h entries rows p f db) db (h.next db) := by
  unfold rebooked
  cases hexec : h.exec db with
  | error e =>
    rw [next_of_error hexec]
    exact .same rfl rfl rfl rfl rfl
  | ok res =>
    rw [next_of_ok hexec]
    exact hok _ _ hexec

-- One table changes with each request; that the others stay is seen from what it writes.

/-- The journal of the incomes is right. -/
theorem posts_income (r : Income.Request) :
    Posts (posts (.tenant env T (.income r)) db) db (r.next env T db) := by
  cases r with
  | create dto =>
    refine posts_booked fun i db' h a T' s => ?_
    rw [(Income.create_ok h).2]
    show balances a T' s (db.incomes ++ [i]) db.trips db.expenses db.fuelLogs db.maintenanceLogs =
      balances a T' s db.incomes db.trips db.expenses db.fuelLogs db.maintenanceLogs + _
    exact balances_incomes (tableBalance_append _ _) _ _ _ _
  | update id dto =>
    refine posts_rebooked fun i db' h a T' s => ?_
    rw [(Income.update_ok h).2]
    show balances a T' s (updateWhere (fun i => i.id.val = id) _ db.incomes) db.trips db.expenses
        db.fuelLogs db.maintenanceLogs =
      balances a T' s db.incomes db.trips db.expenses db.fuelLogs db.maintenanceLogs + _
    exact balances_incomes (tableBalance_updateWhere _ _ _) _ _ _ _
  | remove id =>
    refine posts_rebooked fun i db' h a T' s => ?_
    rw [(Income.remove_ok h).2]
    show balances a T' s (updateWhere (fun i => i.id.val = id) _ db.incomes) db.trips db.expenses
        db.fuelLogs db.maintenanceLogs =
      balances a T' s db.incomes db.trips db.expenses db.fuelLogs db.maintenanceLogs + _
    exact balances_incomes (tableBalance_updateWhere _ _ _) _ _ _ _

/-- So is that of the trips. -/
theorem posts_trips (r : Trips.Request) :
    Posts (posts (.tenant env T (.trips r)) db) db (r.next env T db) := by
  cases r with
  | startTrip vehicleId userId =>
    refine posts_booked fun t db' h a T' s => ?_
    obtain ⟨d, -, -, -, -, -, rfl, hw⟩ := Trips.startTrip_ok h
    rw [hw]
    show balances a T' s db.incomes (db.trips ++ [_]) db.expenses db.fuelLogs db.maintenanceLogs =
      balances a T' s db.incomes db.trips db.expenses db.fuelLogs db.maintenanceLogs + _
    exact balances_trips (tableBalance_append _ _) _ _ _ _
  | endTrip tripId userId dto role =>
    refine posts_rebooked fun t db' h a T' s => ?_
    obtain ⟨o, -, -, -, -, -, -, hw⟩ := Trips.endTrip_ok h
    rw [hw]
    show balances a T' s db.incomes (updateWhere (fun t => t.id.val = tripId) _ db.trips) db.expenses
        db.fuelLogs db.maintenanceLogs =
      balances a T' s db.incomes db.trips db.expenses db.fuelLogs db.maintenanceLogs + _
    exact balances_trips (tableBalance_updateWhere _ _ _) _ _ _ _
  | updateTrip tripId dto =>
    refine posts_rebooked fun t db' h a T' s => ?_
    obtain ⟨o, -, -, -, -, hw⟩ := Trips.updateTrip_ok h
    rw [hw]
    show balances a T' s db.incomes (updateWhere (fun t => t.id.val = tripId) _ db.trips) db.expenses
        db.fuelLogs db.maintenanceLogs =
      balances a T' s db.incomes db.trips db.expenses db.fuelLogs db.maintenanceLogs + _
    exact balances_trips (tableBalance_updateWhere _ _ _) _ _ _ _

/-- So is that of the expenses. -/
theorem posts_expenses (dto : Expenses.CreateExpenseDto) :
    Posts (posts (.tenant env T (.expenses dto)) db) db ((Expenses.create env T dto).next db) := by
  refine posts_booked fun e db' h a T' s => ?_
  rw [(Expenses.create_ok h).2]
  show balances a T' s db.incomes db.trips (db.expenses ++ [e]) db.fuelLogs db.maintenanceLogs =
    balances a T' s db.incomes db.trips db.expenses db.fuelLogs db.maintenanceLogs + _
  rw [balances, tableBalance_append, balances]
  ring

/-- So is that of the fuel logs. -/
theorem posts_fuel (dto : Fuel.CreateFuelLogDto) :
    Posts (posts (.tenant env T (.fuel dto)) db) db ((Fuel.addLog env T dto).next db) := by
  refine posts_booked fun l db' h a T' s => ?_
  obtain ⟨-, -, date, -, -, hw⟩ := Fuel.addLog_ok h
  rw [hw]
  show balances a T' s db.incomes db.trips db.expenses (db.fuelLogs ++ [l]) db.maintenanceLogs =
    balances a T' s db.incomes db.trips db.expenses db.fuelLogs db.maintenanceLogs + _
  rw [balances, tableBalance_append, balances]
  ring

/-- So is that of the maintenance logs. -/
theorem posts_maintenance (dto : Maintenance.CreateMaintenanceLogDto) :
    Posts (posts (.tenant env T (.maintenance dto)) db) db
      ((Maintenance.create env T dto).next db) := by
  refine posts_booked fun l db' h a T' s => ?_
  obtain ⟨-, total, date, -, -, -, hw⟩ := Maintenance.create_ok h
  rw [hw]
  show balances a T' s db.incomes db.trips db.expenses db.fuelLogs (db.maintenanceLogs ++ [l]) =
    balances a T' s db.incomes db.trips db.expenses db.fuelLogs db.maintenanceLogs + _
  rw [balances, tableBalance_append, balances]
  ring

/-- A step changes the balances by what its request posts. -/
theorem posts_step (r : Request) (db : Database) : Posts (posts r db) db (step r db) := by
  cases r with
  | platform env r =>
    refine .same (@step_same db _ .incomes ?_) (@step_same db _ .trips ?_)
      (@step_same db _ .expenses ?_) (@step_same db _ .fuelLogs ?_)
      (@step_same db _ .maintenanceLogs ?_)
    all_goals simp [Request.writes]
  | tenant env T r =>
    cases r with
    | income r => exact posts_income r
    | trips r => exact posts_trips r
    | expenses dto => exact posts_expenses dto
    | fuel dto => exact posts_fuel dto
    | maintenance dto => exact posts_maintenance dto
    | _ =>
      refine .same (@step_same db _ .incomes ?_) (@step_same db _ .trips ?_)
        (@step_same db _ .expenses ?_) (@step_same db _ .fuelLogs ?_)
        (@step_same db _ .maintenanceLogs ?_)
      all_goals simp [Request.writes, TenantRequest.writes]

end Steps

/-! ### Runs -/

/-- What the tables of a run amount to is what its requests have posted. -/
theorem dbBalance_run (rs : List Request) (db : Database) (a : Account) (T : String)
    (s : Span Time) :
    dbBalance a T s (run step rs db).toTables =
      dbBalance a T s db.toTables + balance a T s (sent step posts rs db) :=
  run_eq_add_sent (F := fun db => dbBalance a T s db.toTables) fun r db => posts_step r db a T s

/-- After every run the report of a tenant on any span of time is what the requests of the run
have posted, account by account, and it balances. -/
theorem report_is_journal (rs : List Request) (T : String) {s : Span Time}
    {q : ProfitLossQueryDto} (hq : q.Asks s) :
    ∃ pl, (getProfitLoss T q).eval (run step rs Database.empty) = .ok pl ∧ pl.Balanced ∧
      ∀ a, pl.breakdown.figure a = balance a T s (sent step posts rs Database.empty) := by
  refine ⟨_, eval_getProfitLoss hq _, balanced_profitLoss T _ s, fun a => ?_⟩
  have hempty : dbBalance a T s Database.empty.toTables = 0 := by
    simp [dbBalance, balances, tableBalance, Database.empty]
  rw [figure_profitLoss, dbBalance_run, hempty, zero_add]

/-- The accounts of the small company on the first day, after its vehicles were filled up on the
first and on the second. -/
theorem report_is_journal_refuelled :
    let rs := Sample.company ++ [Sample.fuelLog "f" "t0" "v0" 10 0,
      Sample.fuelLog "g" "t0" "w0" 20 86400000]
    let day : Span Time := ⟨some 0, some 86399999⟩
    let q : ProfitLossQueryDto := { startDate := .value (some 0), endDate := .value (some 86399999) }
    q.Asks day ∧ ∃ pl, (getProfitLoss "t0" q).eval (run step rs Database.empty) = .ok pl ∧
      pl.Balanced ∧
      ∀ a, pl.breakdown.figure a = balance a "t0" day (sent step posts rs Database.empty) := by
  intro rs day q
  have hq : q.Asks day := ⟨rfl, rfl⟩
  exact ⟨hq, report_is_journal rs "t0" hq⟩

end Accounting
end NodeVms
