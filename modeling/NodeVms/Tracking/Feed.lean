/-
# The live feed and the track

A map of the fleet is a socket in the room of its tenant.  Every position that is saved is
emitted once, and an emission reaches each socket of the room once; so a socket receives
the positions that are saved while it is in the room of their tenant, all of them, each
once and in the order in which they are saved.  It is in a room from the message that
names the tenant until it disconnects.

The track of a vehicle is read back from the table: the last positions that were saved for
it, the newest first (`track_newest_first`).
-/

import NodeVms.Http.Gateway
import NodeVms.Services.Reads
import NodeVms.Store.Outbox
import NodeVms.Tracking.Latest

namespace NodeVms

open Store Script

/-- The event tells of the position in the row. -/
structure Announces (data : LocationData) (l : GpsLocation) : Prop where
  vehicleId : data.vehicleId = l.vehicleId
  lat : data.lat = l.lat
  lng : data.lng = l.lng
  speed : data.speed = l.speed
  timestamp : data.timestamp = Time.toISOString l.timestamp

/-- What is emitted, with the row it tells of. -/
structure Emitted (p : String × LocationData) (l : GpsLocation) : Prop where
  tenantId : p.1 = l.tenantId
  data : Announces p.2 l

/-! ### Emissions and rows -/

section Rows

variable {w : World} {clients : Clients} {pick : Pick FeatureAccess}

/-- A `saveLocation` that goes through adds the row whose position it emits, and one that does
not adds none and emits nothing. -/
theorem Tracking.saved_appends (env : Env) (T : String) (limited : Bool) (dto : SaveLocationDto)
    (db : Database) : ∃ rows,
      ((Tracking.saveLocation env T limited dto).next db).gpsLocations = db.gpsLocations ++ rows ∧
        List.Forall₂ Emitted
          ((Tracking.saved env T limited dto db).map fun data => (T, data)).toList rows := by
  unfold saved next
  cases hexec : (saveLocation env T limited dto).exec db with
  | error e => exact ⟨[], (List.append_nil _).symm, .nil⟩
  | ok res =>
    obtain ⟨l, db'⟩ := res
    obtain ⟨-, ⟨v, hv, hid, -⟩, rfl, hw⟩ := saveLocation_ok hexec
    obtain ⟨vehicle, hvehicle⟩ : ∃ vehicle,
        (db.vehicles.find? fun v => v.id.val = dto.vehicleId) = some vehicle := by
      have hsome : (db.vehicles.find? fun v => v.id.val = dto.vehicleId).isSome := by
        rw [List.find?_isSome]
        exact ⟨v, hv, decide_eq_true hid⟩
      exact Option.isSome_iff_exists.1 hsome
    refine ⟨[_], congrArg Tables.gpsLocations hw, ?_⟩
    rw [hvehicle]
    exact .cons ⟨rfl, rfl, rfl, rfl, rfl, rfl⟩ .nil

/-- Each operation adds the rows it emits. -/
theorem Operation.emits_appends (op : Operation) (w : World) : ∃ rows,
    (op.next w.db).gpsLocations = w.db.gpsLocations ++ rows ∧
      List.Forall₂ Emitted (op.emits w).toList rows := by
  cases op with
  | request up r =>
    cases r with
    | platform env r =>
      have hsame : Table.gpsLocations ∉ (Request.platform env r).writes := by simp [Request.writes]
      exact ⟨[], (step_same _ hsame).trans (List.append_nil _).symm, .nil⟩
    | tenant env T r =>
      cases r with
      | tracking limited dto => exact Tracking.saved_appends env T limited dto w.db
      | _ =>
        refine ⟨[], (@step_same w.db _ .gpsLocations ?_).trans (List.append_nil _).symm, .nil⟩
        simp [Request.writes, TenantRequest.writes]
  | _ => exact ⟨[], (List.append_nil _).symm, .nil⟩

namespace Live

/-- What the application emits at an event. -/
def emits (clients : Clients) (pick : Pick FeatureAccess) (e : LiveEvent) (s : Live) :
    List (String × LocationData) :=
  match e with
  | .app e => (e.emits clients pick s.world).toList
  | _ => []

/-- The positions that are saved at an event. -/
def saves (clients : Clients) (pick : Pick FeatureAccess) (e : LiveEvent) (s : Live) :
    List GpsLocation :=
  (step clients pick e s).world.db.gpsLocations.drop s.world.db.gpsLocations.length

/-- The saved positions follow the ones before, and each of them is emitted. -/
theorem emits_saves (e : LiveEvent) (s : Live) :
    (step clients pick e s).world.db.gpsLocations =
        s.world.db.gpsLocations ++ saves clients pick e s ∧
      List.Forall₂ Emitted (emits clients pick e s) (saves clients pick e s) := by
  have hrows : ∃ rows, (step clients pick e s).world.db.gpsLocations =
      s.world.db.gpsLocations ++ rows ∧ List.Forall₂ Emitted (emits clients pick e s) rows := by
    cases e with
    | app e =>
      show ∃ rows, (World.serve clients pick e s.world).db.gpsLocations =
        s.world.db.gpsLocations ++ rows ∧
          List.Forall₂ Emitted (e.emits clients pick s.world).toList rows
      unfold World.serve Event.emits
      cases e.operation clients pick s.world with
      | none => exact ⟨[], (List.append_nil _).symm, .nil⟩
      | some op => exact op.emits_appends s.world
    | _ => exact ⟨[], (List.append_nil _).symm, .nil⟩
  obtain ⟨rows, happend, hemitted⟩ := hrows
  have hsaves : saves clients pick e s = rows := by
    unfold saves
    rw [happend, List.drop_left]
  rw [hsaves]
  exact ⟨happend, hemitted⟩

end Live
end Rows

/-! ### Rooms -/

namespace AppGateway

/-- The socket is in the room of the tenant. -/
def InRoom (client : Socket) (tenantId : String) (rooms : Rooms) : Prop :=
  (client, room tenantId) ∈ rooms

instance (client : Socket) (tenantId : String) (rooms : Rooms) :
    Decidable (InRoom client tenantId rooms) :=
  decidable_of_iff (∃ m ∈ rooms, m = (client, room tenantId)) exists_eq_right

variable {client k : Socket} {T : String} {rooms : Rooms}

/-- A socket is in a room once. -/
theorem nodup_handleJoinRoom (h : rooms.Nodup) (message : Option String) :
    (handleJoinRoom client message rooms).Nodup := by
  unfold handleJoinRoom
  cases message with
  | none => exact h
  | some tenantId =>
    show (ite _ _ _ : Rooms).Nodup
    unfold join
    split_ifs with hblank hmem
    · exact h
    · exact h
    · exact List.nodup_append.2 ⟨h, List.nodup_singleton _, fun a ha b hb heq => hmem (by
        rw [← List.mem_singleton.1 hb, ← heq]
        exact ha)⟩

/-- A socket is in the room of the tenant it has named, if it has named one. -/
theorem mem_handleJoinRoom_iff {message : Option String} :
    InRoom k T (handleJoinRoom client message rooms) ↔
      (client = k ∧ T ≠ "" ∧ message.map trim = some T) ∨ InRoom k T rooms := by
  unfold InRoom
  constructor
  · intro h
    rcases mem_handleJoinRoom h with hmem | ⟨rfl, hmessage⟩
    · exact .inr hmem
    · by_cases hT : T = ""
      · -- a blank message changes nothing
        refine .inr ?_
        obtain ⟨m, rfl, hm⟩ := Option.map_eq_some_iff.1 hmessage
        have hblank : trim m = "" := hm.trans hT
        simpa [handleJoinRoom, hblank] using h
      · exact .inl ⟨rfl, hT, hmessage⟩
  · rintro (⟨rfl, hT, hmessage⟩ | hmem)
    · obtain ⟨m, rfl, rfl⟩ := Option.map_eq_some_iff.1 hmessage
      show _ ∈ (ite _ _ _ : Rooms)
      rw [if_neg hT]
      unfold join
      split_ifs with hin
      · exact hin
      · exact List.mem_append_right _ (List.mem_singleton_self _)
    · unfold handleJoinRoom
      cases message with
      | none => exact hmem
      | some m =>
        show _ ∈ (ite _ _ _ : Rooms)
        unfold join
        split_ifs
        · exact hmem
        · exact hmem
        · exact List.mem_append_left _ hmem

/-- An emission reaches a socket of the room once, and no other. -/
theorem received_emitLocation (h : rooms.Nodup) (data : LocationData) :
    ((emitLocation T data rooms).filterMap fun d => if d.1 = k then some d.2 else none) =
      if InRoom k T rooms then [data] else [] := by
  have hfilter : ((emitLocation T data rooms).filterMap fun d => if d.1 = k then some d.2 else none)
      = (rooms.filter fun m => m = (k, room T)).map fun _ => data := by
    unfold emitLocation
    rw [List.filterMap_map, ← List.filterMap_eq_map, List.filterMap_filter, List.filterMap_filter]
    refine List.filterMap_congr fun m _ => ?_
    by_cases hroom : m.2 = room T <;> by_cases hk : m.1 = k <;>
      simp [hroom, hk, Prod.ext_iff]
  rw [hfilter, List.filter_eq]
  split_ifs with hmem
  · rw [List.count_eq_one_of_mem h hmem]
    rfl
  · rw [List.count_eq_zero_of_not_mem hmem]
    rfl

end AppGateway

/-! ### Runs -/

namespace Live

variable {clients : Clients} {pick : Pick FeatureAccess}

/-- What a socket hears of an event: what goes to the rooms it is in. -/
def hears (clients : Clients) (pick : Pick FeatureAccess) (client : Socket) (e : LiveEvent)
    (s : Live) : List LocationData :=
  ((emits clients pick e s).filter fun p => AppGateway.InRoom client p.1 s.rooms).map Prod.snd

/-- The positions saved at an event of the tenants whose rooms the socket is in. -/
def savesHeard (clients : Clients) (pick : Pick FeatureAccess) (client : Socket) (e : LiveEvent)
    (s : Live) : List GpsLocation :=
  (saves clients pick e s).filter fun l => AppGateway.InRoom client l.tenantId s.rooms

/-- No event puts it there twice. -/
theorem nodup_rooms (e : LiveEvent) (s : Live) (h : s.rooms.Nodup) :
    (step clients pick e s).rooms.Nodup := by
  cases e with
  | app e => exact h
  | joinRoom client message => exact AppGateway.nodup_handleJoinRoom h message
  | disconnect client => exact h.filter _

/-- With each event a socket receives what it hears then. -/
theorem received_step (client : Socket) (e : LiveEvent) (s : Live) (h : s.rooms.Nodup) :
    (step clients pick e s).received client = s.received client ++ hears clients pick client e s := by
  cases e with
  | app e =>
    show List.filterMap _ (s.delivered ++ _) = _
    rw [List.filterMap_append]
    refine congrArg _ ?_
    have hlist : emits clients pick (.app e) s = (e.emits clients pick s.world).toList := rfl
    unfold hears
    rw [hlist]
    cases hemits : e.emits clients pick s.world with
    | none => rfl
    | some p =>
      have hsend := AppGateway.received_emitLocation (k := client) (T := p.1) h p.2
      simp only [hsend, Option.toList_some]
      by_cases hin : AppGateway.InRoom client p.1 s.rooms <;> simp [hin]
  | _ => exact (List.append_nil _).symm

/-- What a socket hears tells of the positions that are saved. -/
theorem announces_hears (client : Socket) (e : LiveEvent) (s : Live) :
    List.Forall₂ Announces (hears clients pick client e s) (savesHeard clients pick client e s) := by
  have hemitted : List.Forall₂ Emitted (emits clients pick e s) (saves clients pick e s) :=
    (emits_saves e s).2
  have hheard := List.rel_filter (p := fun p => AppGateway.InRoom client p.1 s.rooms)
    (q := fun l => AppGateway.InRoom client l.tenantId s.rooms)
    (fun p l h => by simp [h.tenantId]) hemitted
  exact List.forall₂_map_left_iff.2 (hheard.imp fun _ _ h => h.data)

/-- A socket is in the room of a tenant after an event if the event is its message naming the
tenant, or it has been there and not disconnected. -/
theorem mem_rooms_step (clients : Clients) (pick : Pick FeatureAccess) (client : Socket)
    (T : String) (e : LiveEvent) (s : Live) :
    AppGateway.InRoom client T (step clients pick e s).rooms ↔
      (∃ m, e = .joinRoom client (some m) ∧ T ≠ "" ∧ trim m = T) ∨
        AppGateway.InRoom client T s.rooms ∧ ¬e = .disconnect client := by
  cases e with
  | app e => simp [step]
  | joinRoom k message =>
    show AppGateway.InRoom client T (AppGateway.handleJoinRoom k message s.rooms) ↔ _
    rw [AppGateway.mem_handleJoinRoom_iff]
    cases message with
    | none => simp
    | some m => simp
  | disconnect k =>
    show _ ∈ s.rooms.filter _ ↔ _
    have hne : client ≠ k ↔ k ≠ client := ne_comm
    simp [AppGateway.InRoom, hne]

/-- Over any run the positions in the table are those saved at its events; a socket has received
exactly the ones that were saved while it was in the room of their tenant, each once and in the
order in which they were saved; and it is in a room if it has named the tenant and has not
disconnected since. -/
theorem feed_exactly_once (clients : Clients) (pick : Pick FeatureAccess) (es : List LiveEvent)
    (client : Socket) :
    let s := run (step clients pick) es init
    s.world.db.gpsLocations = sent (step clients pick) (saves clients pick) es init ∧
      List.Forall₂ Announces (s.received client)
        (sent (step clients pick) (savesHeard clients pick client) es init) ∧
      ∀ T, AppGateway.InRoom client T s.rooms ↔ ∃ before m after,
        es = before ++ .joinRoom client (some m) :: after ∧ T ≠ "" ∧ trim m = T ∧
          LiveEvent.disconnect client ∉ after := by
  intro s
  refine ⟨?_, ?_, fun T => ?_⟩
  · exact run_eq_append_sent (I := fun _ => True) (F := fun s => s.world.db.gpsLocations)
      (fun _ _ _ => trivial) (fun e s _ => (emits_saves e s).1) trivial
  · have hreceived : s.received client =
        sent (step clients pick) (hears clients pick client) es init :=
      run_eq_append_sent (I := fun s => s.rooms.Nodup) (F := fun s => s.received client)
        (fun e s h => nodup_rooms e s h) (fun e s h => received_step client e s h) List.nodup_nil
    rw [hreceived]
    exact forall₂_sent (announces_hears client)
  · refine (run_iff_switched (Q := fun s : Live => AppGateway.InRoom client T s.rooms)
      (mem_rooms_step clients pick client T)).trans ?_
    constructor
    · rintro (⟨before, _, after, rfl, ⟨m, rfl, hT, hm⟩, hoff⟩ | ⟨hin, -⟩)
      · exact ⟨before, m, after, rfl, hT, hm, fun hmem => hoff _ hmem rfl⟩
      · exact absurd hin List.not_mem_nil
    · rintro ⟨before, m, after, rfl, hT, hm, hoff⟩
      refine .inl ⟨before, _, after, rfl, ⟨m, rfl, hT, hm⟩, fun e he heq => hoff ?_⟩
      rwa [← heq]

end Live

/-! ### The track -/

namespace Tracking

/-- The position a `saveLocation` saves that goes through. -/
def positions : Request → Database → List GpsLocation
  | .tenant env T (.tracking limited dto), db =>
    match (saveLocation env T limited dto).exec db with
    | .ok (l, _) => [l]
    | .error _ => []
  | _, _ => []

/-- The positions after a request are those before and those it saves. -/
theorem gpsLocations_step (r : Request) (db : Database) :
    (step r db).gpsLocations = db.gpsLocations ++ positions r db := by
  have hsame : Table.gpsLocations ∉ r.writes → positions r db = [] →
      (step r db).gpsLocations = db.gpsLocations ++ positions r db := by
    intro hwrites hnil
    rw [hnil, List.append_nil]
    exact step_same r hwrites
  cases r with
  | platform env r => exact hsame (by simp [Request.writes]) rfl
  | tenant env T r =>
    cases r with
    | tracking limited dto =>
      have hpositions : positions (.tenant env T (.tracking limited dto)) db =
          match (saveLocation env T limited dto).exec db with
          | .ok (l, _) => [l]
          | .error _ => [] := rfl
      show ((saveLocation env T limited dto).next db).gpsLocations = _
      rw [hpositions]
      cases hexec : (saveLocation env T limited dto).exec db with
      | error e =>
        rw [next_of_error hexec]
        exact (List.append_nil _).symm
      | ok res =>
        obtain ⟨l, db'⟩ := res
        obtain ⟨-, -, -, hw⟩ := saveLocation_ok hexec
        rw [next_of_ok hexec]
        exact congrArg Tables.gpsLocations hw
    | _ => exact hsame (by simp [Request.writes, TenantRequest.writes]) rfl

/-- The history of a vehicle of the fleet, and of no other. -/
theorem eval_getHistory {T v : String} {n : Nat} {db : Database} {rows : List SelectedLocation} :
    (getHistory T v n).eval db = .ok rows ↔ LiveVehicle db.toTables T v ∧
      rows = ((desc GpsLocation.timestamp (history db.toTables T v)).take n).map locationSelect := by
  unfold getHistory
  rw [eval_bind_eq_ok]
  constructor
  · rintro ⟨vehicle, hv, hrows⟩
    exact ⟨⟨vehicle, eval_findVehicle_eq_ok.1 hv⟩, (Except.ok.inj hrows).symm⟩
  · rintro ⟨⟨vehicle, hv⟩, rfl⟩
    exact ⟨vehicle, eval_findVehicle_eq_ok.2 hv, rfl⟩

/-- Without a cached value the newest position answers. -/
theorem eval_getLatest_none {T v : String} {db : Database} {latest : Option Latest} :
    (getLatest T v none).eval db = .ok latest ↔ LiveVehicle db.toTables T v ∧
      latest = (Jobs.latest (history db.toTables T v)).map .stored := by
  refine ⟨getLatest_ok, ?_⟩
  rintro ⟨⟨vehicle, hv⟩, rfl⟩
  exact eval_bind_eq_ok.2 ⟨vehicle, eval_findVehicle_eq_ok.2 hv, rfl⟩

/-- After a run in which the positions of a vehicle are saved one after the other, the history
is the last of them, the newest first, and the latest position, unless it is cached, the newest;
whichever requests were made in between, and for a vehicle that is in the fleet. -/
theorem track_newest_first (rs : List Request) {T v : String} (n : Nat)
    (hclock : ((sent step positions rs Database.empty).filter fun l =>
      l.vehicleId = v ∧ l.tenantId = T).Pairwise fun a b => a.timestamp < b.timestamp) :
    let db := run step rs Database.empty
    let saved := (sent step positions rs Database.empty).filter fun l =>
      l.vehicleId = v ∧ l.tenantId = T
    (∀ rows, (getHistory T v n).eval db = .ok rows ↔
      LiveVehicle db.toTables T v ∧ rows = (saved.reverse.take n).map locationSelect) ∧
    ∀ latest, (getLatest T v none).eval db = .ok latest ↔
      LiveVehicle db.toTables T v ∧ latest = saved.getLast?.map .stored := by
  intro db saved
  have hgps : db.gpsLocations = sent step positions rs Database.empty :=
    run_eq_append_sent (I := fun _ => True) (F := fun db : Database => db.gpsLocations)
      (fun _ _ _ => trivial) (fun r db _ => gpsLocations_step r db) trivial
  have hsaved : history db.toTables T v = saved := congrArg (List.filter _) hgps
  refine ⟨fun rows => ?_, fun latest => ?_⟩
  · rw [eval_getHistory, hsaved, desc_eq_reverse hclock]
  · rw [eval_getLatest_none, hsaved, latest_eq_getLast? hclock]

/-- A `saveLocation` of the small company. -/
def Sample.track (tag vehicleId : String) (now : Time) : Request :=
  .tenant (.sample tag now) "t0" (.tracking false { vehicleId, lat := now, lng := 0 })

/-- Two positions of a vehicle, and one of another in between. -/
theorem track_newest_first_two :
    let rs := NodeVms.Sample.company ++
      [Sample.track "p" "v0" 0, Sample.track "q" "w0" 2000, Sample.track "r" "v0" 5000]
    let db := run step rs Database.empty
    let saved := (sent step positions rs Database.empty).filter fun l =>
      l.vehicleId = "v0" ∧ l.tenantId = "t0"
    saved.length = 2 ∧ (saved.Pairwise fun a b => a.timestamp < b.timestamp) ∧
      (∀ rows, (getHistory "t0" "v0" 1).eval db = .ok rows ↔
        LiveVehicle db.toTables "t0" "v0" ∧ rows = (saved.reverse.take 1).map locationSelect) ∧
      ∀ latest, (getLatest "t0" "v0" none).eval db = .ok latest ↔
        LiveVehicle db.toTables "t0" "v0" ∧ latest = saved.getLast?.map .stored := by
  intro rs db saved
  have hclock : saved.Pairwise fun a b => a.timestamp < b.timestamp := by decide +kernel
  exact ⟨by decide +kernel, hclock, track_newest_first rs 1 hclock⟩

end Tracking
end NodeVms
