/-
# The interceptors of a response

What a handler returns passes through four interceptors.  The innermost one
copies the value without its passwords, two only look at it, and the outermost
one puts it into the envelope `\x7b success, data, meta \x7d`.

The copy has no member `password` at any depth, whatever the handler returned,
and it is its own copy.
-/

import NodeVms.Js.Text
import NodeVms.Request

namespace NodeVms

open Js

variable {ν : Type}

/-- What a handler returns: JavaScript values with the dates of the client. -/
abbrev Data (ν : Type) : Type := Value JsDate ν

/-! ### `SensitiveFieldsInterceptor` -/

namespace SensitiveFieldsInterceptor

/-- `HIDDEN_FIELDS`. -/
def hiddenFields : List String := ["password"]

mutual

/-- `strip`. -/
def strip : Data ν → Data ν
  | .primitive p => .primitive p
  | .array items => .array (stripItems items)
  -- a date is an object too, and has no entries
  | .date _ => .object []
  | .object members => .object (stripEntries [] members)

/-- `map(stripSensitiveFields)`. -/
def stripItems : List (Data ν) → List (Data ν)
  | [] => []
  | item :: items => strip item :: stripItems items

/-- The loop over `Object.entries`, from what `result` is so far. -/
def stripEntries (result : Members JsDate ν) : Members JsDate ν → Members JsDate ν
  | [] => result
  | (key, value) :: entries =>
    stripEntries (if key ∉ hiddenFields then result.assign key (strip value) else result) entries

end

/-- The items are copied one by one. -/
theorem stripItems_eq (items : List (Data ν)) : stripItems items = items.map strip := by
  induction items with
  | nil => rfl
  | cons v items ih => rw [stripItems, ih, List.map_cons]

/-- So the copy of an array has their copies. -/
theorem strip_array (items : List (Data ν)) : strip (.array items) = .array (items.map strip) := by
  rw [strip, stripItems_eq]

/-- What holds of each visible member holds of each member of the result. -/
theorem stripEntries_forall {P : String × Data ν → Prop} (entries : Members JsDate ν)
    {result : Members JsDate ν} (hresult : ∀ m ∈ result, P m)
    (h : ∀ m ∈ entries, m.1 ∉ hiddenFields → m.1 ≠ "__proto__" → P (m.1, strip m.2)) :
    ∀ m ∈ stripEntries result entries, P m := by
  induction entries generalizing result with
  | nil => exact hresult
  | cons e entries ih =>
    obtain ⟨he, hentries⟩ := List.forall_mem_cons.1 h
    rw [stripEntries]
    refine ih (fun m hm => ?_) hentries
    split at hm
    · rename_i hvisible
      rcases Members.mem_assign hm with hm | ⟨hproto, rfl⟩
      · exact hresult m hm
      · exact he hvisible hproto
    · exact hresult m hm

/-- No key of the copy is repeated. -/
theorem stripEntries_nodup {result : Members JsDate ν} (h : result.keys.Nodup)
    (entries : Members JsDate ν) : (stripEntries result entries).keys.Nodup := by
  induction entries generalizing result with
  | nil => exact h
  | cons e entries ih =>
    rw [stripEntries]
    refine ih ?_
    split
    · exact Members.nodup_assign h e.1 (strip e.2)
    · exact h

/-- The member gets into the result. -/
def Copied (key : String) : Prop := key ∉ hiddenFields ∧ key ≠ "__proto__"

instance (key : String) : Decidable (Copied key) := by unfold Copied; infer_instance

/-- From members with distinct keys the loop copies all that are not hidden. -/
theorem stripEntries_eq {result entries : Members JsDate ν}
    (h : (result.keys ++ entries.keys).Nodup) :
    stripEntries result entries =
      result ++ (entries.filter fun m => Copied m.1).map fun m => (m.1, strip m.2) := by
  induction entries generalizing result with
  | nil => rw [stripEntries, List.filter_nil, List.map_nil, List.append_nil]
  | cons e entries ih =>
    have hnew : e.1 ∉ result.keys := by
      intro he
      exact (List.nodup_append.1 h).2.2 _ he e.1 List.mem_cons_self rfl
    have hrest : (result.keys ++ Members.keys entries).Nodup :=
      h.sublist ((List.sublist_cons_self e.1 (Members.keys entries)).append_left _)
    rw [stripEntries]
    by_cases hvisible : e.1 ∉ hiddenFields
    · rw [if_pos hvisible]
      by_cases hproto : e.1 = "__proto__"
      · rw [hproto, Members.assign_proto, ih hrest,
          List.filter_cons_of_neg (by simp [Copied, hproto])]
      · have happend : (Members.keys (result ++ [(e.1, strip e.2)]) ++
            Members.keys entries).Nodup := by
          rw [Members.keys_append, List.append_assoc]
          exact h
        rw [Members.assign_new hproto hnew, ih happend,
          List.filter_cons_of_pos (by simp [Copied, hproto, hvisible]), List.map_cons,
          List.append_assoc, List.singleton_append]
    · rw [if_neg hvisible, ih hrest, List.filter_cons_of_neg (by simp [Copied, hvisible])]

/-- The copy of an object has the copies of the members that are copied. -/
theorem strip_object {members : Members JsDate ν} (h : members.keys.Nodup) :
    strip (.object members) =
      .object ((members.filter fun m => Copied m.1).map fun m => (m.1, strip m.2)) := by
  rw [strip, stripEntries_eq (by exact h), List.nil_append]

/-- The copy has no password, however deep. -/
theorem strip_free (v : Data ν) : (strip v).Free "password" := by
  induction v using Value.induct with
  | primitive p => exact Value.free_primitive _ p
  | date d => exact Value.free_object.2 ⟨List.not_mem_nil, fun m hm => absurd hm List.not_mem_nil⟩
  | array items ih =>
    rw [strip_array, Value.free_array]
    intro v hv
    obtain ⟨item, hitem, rfl⟩ := List.mem_map.1 hv
    exact ih item hitem
  | object members ih =>
    have hall := stripEntries_forall (P := fun m => m.1 ≠ "password" ∧ m.2.Free "password")
      members (fun m hm => absurd hm List.not_mem_nil)
      (fun m hm hvisible _ => ⟨fun hkey => hvisible (by rw [hkey]; decide), ih m hm⟩)
    rw [strip, Value.free_object]
    constructor
    · intro hkey
      obtain ⟨m, hm, hm'⟩ := List.mem_map.1 hkey
      exact (hall m hm).1 hm'
    · exact fun m hm => (hall m hm).2

/-- The copy is its own copy. -/
theorem strip_strip (v : Data ν) : strip (strip v) = strip v := by
  induction v using Value.induct with
  | primitive p => rfl
  | date d => rfl
  | array items ih =>
    have hitems : (items.map strip).map strip = items.map strip := by
      rw [List.map_map]
      exact List.map_congr_left ih
    rw [strip_array, strip_array, hitems]
  | object members ih =>
    have hall := stripEntries_forall (P := fun m => Copied m.1 ∧ strip m.2 = m.2)
      members (fun m hm => absurd hm List.not_mem_nil)
      (fun m hm hvisible hproto => ⟨⟨hvisible, hproto⟩, ih m hm⟩)
    have hnodup := stripEntries_nodup Members.nodup_keys_nil members
    have hfilter : ((stripEntries [] members).filter fun m => Copied m.1) =
        stripEntries [] members :=
      List.filter_eq_self.2 fun m hm => decide_eq_true (hall m hm).1
    have hmap : ((stripEntries [] members).map fun m => (m.1, strip m.2)) =
        stripEntries [] members := by
      refine (List.map_congr_left fun m hm => ?_).trans (List.map_id _)
      rw [(hall m hm).2]
      rfl
    rw [strip, strip_object hnodup, hfilter, hmap]

def intercept : Data ν → Data ν := strip

end SensitiveFieldsInterceptor

/-! ### The chain -/

/-- `AuditInterceptor`, with `tap`: the value is only looked at. -/
def AuditInterceptor.intercept : Data ν → Data ν := id

/-- `LoggingInterceptor`, with `tap`. -/
def LoggingInterceptor.intercept : Data ν → Data ν := id

namespace ResponseInterceptor

variable [NatCast ν]

/-- `meta`, for a request at `path` that is answered at `now`. -/
def apiMeta (now : Time) (path : String) (data : Data ν) : Members JsDate ν :=
  let apiMeta : Members JsDate ν :=
    [("timestamp", .primitive (.string now.toISOString)), ("path", .primitive (.string path))]
  match data with
  | .array items => apiMeta.assign "count" (.primitive (.number items.length))
  | _ => apiMeta

def intercept (now : Time) (path : String) : Data ν → Data ν
  -- 204 No Content
  | .primitive .null => .primitive .null
  | .primitive .undefined => .primitive .undefined
  | data => .object [("success", .primitive (.boolean true)), ("data", data),
      ("meta", .object (apiMeta now path data))]

/-- The interceptor adds no member of this key. -/
theorem intercept_free {key : String}
    (hkey : key ∉ ["success", "data", "meta", "timestamp", "path", "count"]) {data : Data ν}
    (h : data.Free key) (now : Time) (path : String) : (intercept now path data).Free key := by
  have hmeta : (Value.object (apiMeta now path data) : Data ν).Free key := by
    rw [Value.free_object]
    constructor
    · cases data <;> simp_all [apiMeta, Members.keys, Members.assign]
    · have hprim : ∀ m ∈ apiMeta now path data, ∃ p, m.2 = .primitive p := by
        cases data <;> simp [apiMeta, Members.keys, Members.assign]
      intro m hm
      obtain ⟨p, hp⟩ := hprim m hm
      exact hp ▸ Value.free_primitive key p
  unfold intercept
  split
  · exact h
  · exact h
  · rw [Value.free_object]
    refine ⟨by simp_all [Members.keys], fun m hm => ?_⟩
    simp only [List.mem_cons, List.not_mem_nil, or_false] at hm
    rcases hm with rfl | rfl | rfl
    · exact Value.free_primitive key _
    · exact h
    · exact hmeta

/-- `meta.count` is the length of an array, and there for no other value. -/
theorem count_intercept (now : Time) (path : String) (data : Data ν) :
    ((intercept now path data).get? "meta").bind (Value.get? "count") =
      match data with
      | .array items => some (.primitive (.number items.length))
      | _ => none := by
  rcases data with (_ | _ | _ | _ | _) | _ | _ | _ <;> rfl

end ResponseInterceptor

section Chain

variable [NatCast ν]

/-- The providers of `APP_INTERCEPTOR`, in the order of the module. -/
def appInterceptors (now : Time) (path : String) : List (Data ν → Data ν) :=
  [ResponseInterceptor.intercept now path, LoggingInterceptor.intercept,
    AuditInterceptor.intercept, SensitiveFieldsInterceptor.intercept]

/-- The body of the response, from what the handler returns: the interceptor
registered first is the outermost. -/
def responseBody (now : Time) (path : String) (data : Data ν) : Data ν :=
  (appInterceptors now path).foldr (fun intercept data => intercept data) data

/-- Whatever the handler returns, the body has no password at any depth, it
counts the elements of an array and of nothing else, and filtering once more
changes nothing. -/
theorem body_without_password (now : Time) (path : String) (data : Data ν) :
    (responseBody now path data).Free "password" ∧
    (∀ count, ((responseBody now path data).get? "meta").bind (Value.get? "count") = some count ↔
      ∃ items, data = .array items ∧ count = .primitive (.number items.length)) ∧
    SensitiveFieldsInterceptor.strip (SensitiveFieldsInterceptor.strip data) =
      SensitiveFieldsInterceptor.strip data := by
  have hbody : responseBody now path data =
      ResponseInterceptor.intercept now path (SensitiveFieldsInterceptor.strip data) := rfl
  refine ⟨?_, fun count => ?_, SensitiveFieldsInterceptor.strip_strip data⟩
  · rw [hbody]
    exact ResponseInterceptor.intercept_free (by decide)
      (SensitiveFieldsInterceptor.strip_free data) now path
  · rw [hbody, ResponseInterceptor.count_intercept]
    cases data with
    | primitive p => simp [SensitiveFieldsInterceptor.strip]
    | date d => simp [SensitiveFieldsInterceptor.strip]
    | array items => simp [SensitiveFieldsInterceptor.strip_array, eq_comm]
    | object members => simp [SensitiveFieldsInterceptor.strip]

end Chain
end NodeVms
