/-
# What the response filter loses

`strip` is meant to remove the passwords and nothing else.  It copies an object
by its entries, and so it turns a date into `\x7b\x7d`; and the copy of a member
`__proto__` is an assignment to the prototype of the result.

The text of the response tells: where neither occurs outside a removed member,
it is the text of the value without its passwords; anywhere else it is shorter.
-/

import NodeVms.Http.Interceptors

namespace NodeVms
namespace SensitiveFieldsInterceptor

open Js

variable {ν : Type}

/-! ### What is lost -/

/-- The value is shown: it lies below no hidden member. -/
def Shown (u v : Data ν) : Prop := Value.Within (fun key => key ∉ hiddenFields) u v

/-- A date is shown, or a member `__proto__` with a value. -/
def Lossy (v : Data ν) : Prop :=
  (∃ d, Shown (.date d) v) ∨
    ∃ members u, Shown (.object members) v ∧ ("__proto__", u) ∈ members ∧ u ≠ .undefined

/-- The member is shown and does not survive the copy as it is. -/
def LossyMember (m : String × Data ν) : Prop :=
  (m.1 = "__proto__" ∧ m.2 ≠ .undefined) ∨ (m.1 ∉ hiddenFields ∧ Lossy m.2)

/-- A primitive value is copied as it is. -/
theorem not_lossy_primitive (p : Primitive ν) : ¬Lossy (.primitive p : Data ν) := by
  rintro (⟨d, h⟩ | ⟨members, u, h, -⟩)
  · cases Value.within_primitive.1 h
  · cases Value.within_primitive.1 h

/-- A date is not. -/
theorem lossy_date (d : JsDate) : Lossy (.date d : Data ν) := .inl ⟨d, .self⟩

/-- An array loses what its items lose. -/
theorem lossy_array {items : List (Data ν)} :
    Lossy (.array items) ↔ ∃ v ∈ items, Lossy v := by
  constructor
  · rintro (⟨d, h⟩ | ⟨members, u, h, hu⟩)
    · rcases Value.within_array.1 h with hself | ⟨v, hv, h⟩
      · cases hself
      · exact ⟨v, hv, .inl ⟨d, h⟩⟩
    · rcases Value.within_array.1 h with hself | ⟨v, hv, h⟩
      · cases hself
      · exact ⟨v, hv, .inr ⟨members, u, h, hu⟩⟩
  · rintro ⟨v, hv, ⟨d, h⟩ | ⟨members, u, h, hu⟩⟩
    · exact .inl ⟨d, .item hv h⟩
    · exact .inr ⟨members, u, .item hv h, hu⟩

/-- An object loses what its members lose. -/
theorem lossy_object {members : Members JsDate ν} :
    Lossy (.object members) ↔ ∃ m ∈ members, LossyMember m := by
  constructor
  · rintro (⟨d, h⟩ | ⟨members', u, h, hu, hne⟩)
    · rcases Value.within_object.1 h with hself | ⟨m, hm, hkey, h⟩
      · cases hself
      · exact ⟨m, hm, .inr ⟨hkey, .inl ⟨d, h⟩⟩⟩
    · rcases Value.within_object.1 h with hself | ⟨m, hm, hkey, h⟩
      · cases hself
        exact ⟨_, hu, .inl ⟨rfl, hne⟩⟩
      · exact ⟨m, hm, .inr ⟨hkey, .inr ⟨members', u, h, hu, hne⟩⟩⟩
  · rintro ⟨m, hm, ⟨hkey, hne⟩ | ⟨hkey, ⟨d, h⟩ | ⟨members', u, h, hu⟩⟩⟩
    · refine .inr ⟨members, m.2, .self, ?_, hne⟩
      rw [← hkey]
      exact hm
    · exact .inl ⟨d, .member hm hkey h⟩
    · exact .inr ⟨members', u, .member hm hkey h, hu⟩

/-- Nothing is lost if there is no date, and no `__proto__` that shows. -/
theorem not_lossy_iff {v : Data ν} : ¬Lossy v ↔ (∀ d, ¬Shown (.date d) v) ∧
    ∀ members u, Shown (.object members) v → ("__proto__", u) ∈ members → u = .undefined := by
  rw [Lossy, not_or, not_exists]
  refine and_congr_right fun _ => ?_
  constructor
  · intro h members u hm hu
    by_contra hne
    exact h ⟨members, u, hm, hu, hne⟩
  · rintro h ⟨members, u, hm, hu, hne⟩
    exact hne (h members u hm hu)

/-! ### Texts -/

section Texts

variable [JsonText ν]

instance : JsonText JsDate where
  text
    | none => "null"
    | some t => quote t.toISOString

/-- No date prints as short as the object without members. -/
theorem length_text_date (d : JsDate) : 2 < (JsonText.text d).length := by
  cases d with
  | none => decide
  | some t =>
    have hquote : t.toISOString.length + 2 ≤ (JsonText.text (some t : JsDate)).length :=
      length_quote t.toISOString
    have hiso : 0 < t.toISOString.length := by
      have hz : ("Z").length = 1 := by decide
      obtain ⟨s, hs⟩ : ∃ s, t.toISOString = s ++ "Z" := ⟨_, rfl⟩
      rw [hs, String.length_append, hz]
      exact Nat.succ_pos _
    omega

/-- The value without its passwords. -/
def withoutPasswords (v : Data ν) : Data ν := v.without fun key => key ∈ hiddenFields

/-- What has a text keeps one. -/
theorem exists_stringify_strip {v : Data ν} (h : Lossy v) :
    ∃ s, (strip v).stringify = some s := by
  cases v with
  | primitive p => exact absurd h (not_lossy_primitive p)
  | date d => exact ⟨_, rfl⟩
  | array items => exact ⟨_, rfl⟩
  | object members => exact ⟨_, rfl⟩

/-- A value that shows still does without the passwords. -/
theorem exists_stringify_without {v : Data ν} (h : v ≠ .undefined) :
    ∃ s, (withoutPasswords v).stringify = some s := by
  cases v with
  | primitive p =>
    cases p with
    | undefined => exact absurd rfl h
    | _ => exact ⟨_, rfl⟩
  | date d => exact ⟨_, rfl⟩
  | array items => exact ⟨_, rfl⟩
  | object members => exact ⟨_, rfl⟩

/-- The copy prints the same, or shorter where something is lost. -/
def Faithful (v : Data ν) : Prop :=
  Cut (Lossy v) (strip v).stringify (withoutPasswords v).stringify

/-- The text of a member of the copy. -/
def copiedText (m : String × Data ν) : Option String :=
  if Copied m.1 then Value.memberText (m.1, strip m.2) else none

/-- The text of a member without passwords. -/
def keptText (m : String × Data ν) : Option String :=
  if m.1 ∉ hiddenFields then Value.memberText (m.1, withoutPasswords m.2) else none

/-- A member that loses nothing is written as it is kept. -/
theorem copiedText_eq {m : String × Data ν} (hm : Faithful m.2) (h : ¬LossyMember m) :
    copiedText m = keptText m := by
  by_cases hvisible : m.1 ∉ hiddenFields
  · have hsame := hm.1 fun hl => h (.inr ⟨hvisible, hl⟩)
    by_cases hproto : m.1 = "__proto__"
    · -- the member has no text on either side
      have hundefined : m.2 = .undefined := by
        by_contra hne
        exact h (.inl ⟨hproto, hne⟩)
      rw [copiedText, if_neg fun hc => hc.2 hproto, keptText, if_pos hvisible, hundefined]
      rfl
    · rw [copiedText, if_pos ⟨hvisible, hproto⟩, keptText, if_pos hvisible, Value.memberText,
        Value.memberText, hsame]
  · rw [copiedText, if_neg fun hc => hvisible hc.1, keptText, if_neg hvisible]

/-- One that loses something is written shorter. -/
theorem size_copiedText_lt {m : String × Data ν} (hm : Faithful m.2) (h : LossyMember m) :
    size (copiedText m) < size (keptText m) ∧ 1 < size (keptText m) := by
  have hvisible : m.1 ∉ hiddenFields := by
    rcases h with ⟨hproto, -⟩ | ⟨hvisible, -⟩
    · rw [hproto]
      decide
    · exact hvisible
  have hne : m.2 ≠ .undefined := by
    rcases h with ⟨-, hne⟩ | ⟨-, hlossy⟩
    · exact hne
    · intro hu
      exact not_lossy_primitive _ (hu ▸ hlossy)
  obtain ⟨b, hb⟩ := exists_stringify_without hne
  have hkept : keptText m = some (quote m.1 ++ ":" ++ b) := by
    rw [keptText, if_pos hvisible, Value.memberText, hb]
    rfl
  have hcolon : (":").length = 1 := by decide
  have hsize : size (keptText m) = (quote m.1).length + 1 + b.length + 1 := by
    rw [hkept, size, String.length_append, String.length_append, hcolon]
  by_cases hproto : m.1 = "__proto__"
  · have hcopied : copiedText m = none := if_neg fun hc => hc.2 hproto
    rw [hcopied, hsize, size]
    omega
  · have hlossy : Lossy m.2 := by
      rcases h with ⟨h, -⟩ | ⟨-, h⟩
      · exact absurd h hproto
      · exact h
    obtain ⟨a, ha⟩ := exists_stringify_strip hlossy
    have hcopied : copiedText m = some (quote m.1 ++ ":" ++ a) := by
      rw [copiedText, if_pos ⟨hvisible, hproto⟩, Value.memberText, ha]
      rfl
    have hlt := hm.2 hlossy
    rw [ha, hb, size, size] at hlt
    rw [hcopied, hsize, size, String.length_append, String.length_append, hcolon]
    omega

/-- The text of an object's copy is that of its copied members. -/
theorem stringify_strip_object {members : Members JsDate ν} (h : members.keys.Nodup) :
    (strip (.object members)).stringify =
      some ("\x7b" ++ joined (members.filterMap copiedText) ++ "\x7d") := by
  rw [strip_object h, Value.stringify, Value.memberTexts_eq, List.filterMap_map,
    List.filterMap_filter]
  have htext : ∀ m : String × Data ν,
      (if decide (Copied m.1) = true then
        (Value.memberText ∘ fun m : String × Data ν => (m.1, strip m.2)) m else none) =
        copiedText m := by
    intro m
    by_cases hm : Copied m.1
    · rw [copiedText, if_pos (decide_eq_true hm), if_pos hm, Function.comp]
    · rw [copiedText, if_neg (by simpa using hm), if_neg hm]
  rw [funext htext]

/-- Without the passwords it is that of the members kept. -/
theorem stringify_without_object (members : Members JsDate ν) :
    (withoutPasswords (.object members)).stringify =
      some ("\x7b" ++ joined (members.filterMap keptText) ++ "\x7d") := by
  rw [withoutPasswords, Value.without, Value.membersWithout_eq, Value.stringify,
    Value.memberTexts_eq, List.filterMap_map, List.filterMap_filter]
  have htext : ∀ m : String × Data ν,
      (if decide (¬m.1 ∈ hiddenFields) = true then
        (Value.memberText ∘ fun m : String × Data ν =>
          (m.1, m.2.without fun key => key ∈ hiddenFields)) m else none) = keptText m := by
    intro m
    by_cases hm : m.1 ∉ hiddenFields
    · rw [keptText, if_pos (decide_eq_true hm), if_pos hm, Function.comp, withoutPasswords]
    · rw [keptText, if_neg (by simpa using hm), if_neg hm]
  rw [funext htext]

/-- An item prints the same, or shorter. -/
theorem cut_item {v : Data ν} (hv : Faithful v) :
    Cut (Lossy v) (some ((strip v).stringify.getD "null"))
      (some ((withoutPasswords v).stringify.getD "null")) := by
  refine ⟨fun h => by rw [hv.1 h], fun h => ?_⟩
  have hne : v ≠ .undefined := fun hu => not_lossy_primitive _ (hu ▸ h)
  obtain ⟨a, ha⟩ := exists_stringify_strip h
  obtain ⟨b, hb⟩ := exists_stringify_without hne
  have hlt := hv.2 h
  rw [ha, hb] at hlt ⊢
  exact hlt

/-- The text of an array's copy is that of its copied items. -/
theorem stringify_strip_array (items : List (Data ν)) :
    (strip (.array items)).stringify =
      some ("[" ++ joined (items.filterMap fun v => some ((strip v).stringify.getD "null")) ++
        "]") := by
  rw [strip_array, Value.stringify, Value.itemTexts_eq, List.map_map, ← List.filterMap_eq_map]
  rfl

/-- Without the passwords it is that of the items without theirs. -/
theorem stringify_without_array (items : List (Data ν)) :
    (withoutPasswords (.array items)).stringify =
      some ("[" ++ joined (items.filterMap fun v =>
        some ((withoutPasswords v).stringify.getD "null")) ++ "]") := by
  rw [withoutPasswords, Value.without, Value.itemsWithout_eq, Value.stringify,
    Value.itemTexts_eq, List.map_map, ← List.filterMap_eq_map]
  rfl

/-- The text of the copy is that of the value without its passwords, unless a
date or a member `__proto__` is shown; then it is shorter. -/
theorem faithful {v : Data ν} (hv : v.WellFormed) : Faithful v := by
  induction v using Value.induct with
  | primitive p => exact ⟨fun _ => rfl, fun h => absurd h (not_lossy_primitive p)⟩
  | date d =>
    have hlength := length_text_date d
    have hbraces : ("\x7b" ++ joined [] ++ "\x7d").length = 2 := by decide
    refine ⟨fun h => absurd (lossy_date d) h, fun _ => ?_⟩
    change ("\x7b" ++ joined [] ++ "\x7d").length + 1 < (JsonText.text d).length + 1
    omega
  | array items ih =>
    have hitems := Value.wellFormed_array.1 hv
    rw [Faithful, stringify_strip_array, stringify_without_array, lossy_array]
    have hcut := fun v hm => cut_item (ih v hm (hitems v hm))
    refine Cut.joined hcut (fun v hm hl => ?_) "[" "]"
    have hlt := (hcut v hm).2 hl
    simp only [size] at hlt ⊢
    omega
  | object members ih =>
    obtain ⟨hkeys, hmembers⟩ := Value.wellFormed_object.1 hv
    rw [Faithful, stringify_strip_object hkeys, stringify_without_object, lossy_object]
    have hfaithful := fun m hm => ih m hm (hmembers m hm)
    refine Cut.joined (fun m hm => ?_) (fun m hm hl => ?_) "\x7b" "\x7d"
    · exact ⟨copiedText_eq (hfaithful m hm), fun hl => (size_copiedText_lt (hfaithful m hm) hl).1⟩
    · exact (size_copiedText_lt (hfaithful m hm) hl).2

/-- The filtered response prints as the value without its passwords exactly if
no date and no member `__proto__` with a value is shown. -/
theorem strip_loses_only_passwords_iff {v : Data ν} (hv : v.WellFormed) :
    (strip v).stringify = (withoutPasswords v).stringify ↔
      (∀ d, ¬Shown (.date d) v) ∧
      ∀ members u, Shown (.object members) v → ("__proto__", u) ∈ members → u = .undefined :=
  (faithful hv).eq_iff.trans not_lossy_iff

end Texts

namespace Sample

instance : JsonText Nat := ⟨toString⟩

/-- A driver with the account of the driver. -/
def driver : Data Nat :=
  .object [("id", .primitive (.string "d0")), ("trips", .array [.primitive (.number 7)]),
    ("user", .object [("email", .primitive (.string "d@x")),
      ("password", .primitive (.string "$2b"))])]

/-- A vehicle with the day it was registered. -/
def vehicle : Data Nat :=
  .object [("id", .primitive (.string "v0")), ("createdAt", .date (some 0))]

/-- The sample driver repeats no key. -/
theorem wellFormed_driver : driver.WellFormed := by
  simp [driver, Value.wellFormed_object, Value.wellFormed_array, Members.keys,
    Value.WellFormed.primitive]

/-- Nor does the sample vehicle. -/
theorem wellFormed_vehicle : vehicle.WellFormed := by
  simp [vehicle, Value.wellFormed_object, Members.keys, Value.WellFormed.primitive,
    Value.WellFormed.date]

end Sample

/-- A driver, with the password of the account. -/
theorem strip_loses_only_passwords_driver :
    (strip Sample.driver).stringify = (withoutPasswords Sample.driver).stringify := by
  refine (strip_loses_only_passwords_iff Sample.wellFormed_driver).2 ⟨fun d => ?_, ?_⟩
  · simp [Shown, Sample.driver, Value.within_object, Value.within_array, Value.within_primitive,
      hiddenFields]
  · intro members u hm hu
    simp [Shown, Sample.driver, Value.within_object, Value.within_array, Value.within_primitive,
      hiddenFields] at hm
    rcases hm with rfl | rfl
    · simp at hu
    · simp at hu

/-- The day a vehicle was registered becomes an empty object. -/
theorem strip_loses_dates : ¬∀ v : Data Nat, v.WellFormed →
    (strip v).stringify = (withoutPasswords v).stringify := by
  intro h
  have hlost := h Sample.vehicle Sample.wellFormed_vehicle
  have hcopy : (strip Sample.vehicle).stringify =
      some "\x7b\"id\":\"v0\",\"createdAt\":\x7b\x7d\x7d" := by decide +kernel
  have htext : (withoutPasswords Sample.vehicle).stringify =
      some "\x7b\"id\":\"v0\",\"createdAt\":\"1970-01-01T00:00:00.000Z\"\x7d" := by
    decide +kernel
  rw [hcopy, htext] at hlost
  exact absurd hlost (by decide)

end SensitiveFieldsInterceptor
end NodeVms
