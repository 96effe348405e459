/-
# JavaScript values

The values an HTTP handler can return: primitives, dates, arrays and plain
objects.  Of an object we keep its own enumerable members, in the order in which
`Object.entries` lists them; neither `Object.entries` nor `JSON.stringify` looks
at the prototype.  The time of a date is not a member of it.

Two measures are taken of a value: `Within keep u v`, the values `u` one meets
inside `v` without passing through a member whose key is not in `keep`, and
`without hidden`, the value with the hidden members removed at every depth.
-/

import Mathlib.Tactic.Common

namespace Js

/-- What `typeof` does not call an object, and `null`. -/
inductive Primitive (ν : Type) where
  | undefined
  | null
  | boolean (b : Bool)
  | number (x : ν)
  | string (s : String)
  deriving DecidableEq, Repr

/-- A value over the dates `δ` and the numbers `ν`. -/
inductive Value (δ ν : Type) where
  | primitive (p : Primitive ν)
  | date (d : δ)
  | array (items : List (Value δ ν))
  | object (members : List (String × Value δ ν))

/-- The members of an object. -/
abbrev Members (δ ν : Type) : Type := List (String × Value δ ν)

variable {δ ν : Type}

/-- The keys of an object, from its members. -/
def Members.keys (members : Members δ ν) : List String := members.map Prod.fst

/-- `target[key] = value` on an object made by `\x7b\x7d`.  An assignment to `__proto__`
reaches the setter the object inherits, which makes no member. -/
def Members.assign (target : Members δ ν) (key : String) (value : Value δ ν) : Members δ ν :=
  if key = "__proto__" then target
  else if key ∈ target.keys then
    target.map fun m => if m.1 = key then (key, value) else m
  else target ++ [(key, value)]

/-- An assignment to `__proto__` adds no member. -/
theorem Members.assign_proto (target : Members δ ν) (value : Value δ ν) :
    target.assign "__proto__" value = target :=
  if_pos rfl

/-- An assignment to a new key adds a member at the end. -/
theorem Members.assign_new {target : Members δ ν} {key : String} (hp : key ≠ "__proto__")
    (hk : key ∉ target.keys) (value : Value δ ν) :
    target.assign key value = target ++ [(key, value)] := by
  rw [assign, if_neg hp, if_neg hk]

/-- An object without members repeats no key. -/
theorem Members.nodup_keys_nil : (Members.keys ([] : Members δ ν)).Nodup := List.nodup_nil

/-- The keys of one list of members and then of the other. -/
theorem Members.keys_append (members members' : Members δ ν) :
    Members.keys (members ++ members') = members.keys ++ members'.keys :=
  List.map_append

/-- A member is an old one or the one assigned. -/
theorem Members.mem_assign {target : Members δ ν} {key : String} {value : Value δ ν}
    {m : String × Value δ ν} (h : m ∈ target.assign key value) :
    m ∈ target ∨ (key ≠ "__proto__" ∧ m = (key, value)) := by
  unfold assign at h
  split at h
  · exact .inl h
  · rename_i hp
    split at h
    · obtain ⟨m', hm', rfl⟩ := List.mem_map.1 h
      split
      · exact .inr ⟨hp, rfl⟩
      · exact .inl hm'
    · rcases List.mem_append.1 h with h | h
      · exact .inl h
      · exact .inr ⟨hp, List.mem_singleton.1 h⟩

/-- An assignment makes no second member of one key. -/
theorem Members.nodup_assign {target : Members δ ν} (h : target.keys.Nodup) (key : String)
    (value : Value δ ν) : (target.assign key value).keys.Nodup := by
  unfold assign
  split
  · exact h
  · split
    · have hkeys : Members.keys (target.map fun m => if m.1 = key then (key, value) else m) =
          target.keys := by
        rw [keys, keys, List.map_map]
        refine List.map_congr_left fun m _ => ?_
        by_cases hm : m.1 = key
        · simp [hm]
        · simp [hm]
      rwa [hkeys]
    · rename_i hnew
      rw [keys_append, List.nodup_append]
      refine ⟨h, List.nodup_cons.2 ⟨List.not_mem_nil, List.nodup_nil⟩, fun a ha b hb hab => ?_⟩
      rw [hab, List.mem_singleton.1 hb] at ha
      exact hnew ha

namespace Value

/-- The value `undefined`. -/
abbrev undefined : Value δ ν := .primitive .undefined

/-- `value[key]`, of the members of the value itself. -/
def get? (key : String) : Value δ ν → Option (Value δ ν)
  | .object members => members.lookup key
  | _ => none

/-- Induction on the depth of a value. -/
theorem induct {P : Value δ ν → Prop} (primitive : ∀ p, P (.primitive p))
    (date : ∀ d, P (.date d)) (array : ∀ items, (∀ v ∈ items, P v) → P (.array items))
    (object : ∀ members, (∀ m ∈ members, P m.2) → P (.object members)) (v : Value δ ν) : P v := by
  refine @Value.rec δ ν P (fun items => ∀ v ∈ items, P v) (fun members => ∀ m ∈ members, P m.2)
    (fun m => P m.2) primitive date array object ?_ ?_ ?_ ?_ ?_ v
  · exact fun v hv => absurd hv List.not_mem_nil
  · exact fun v items hv hitems => List.forall_mem_cons.2 ⟨hv, hitems⟩
  · exact fun m hm => absurd hm List.not_mem_nil
  · exact fun m members hm hmembers => List.forall_mem_cons.2 ⟨hm, hmembers⟩
  · exact fun key v hv => hv

/-! ### Well-formed values -/

/-- No object has two members of one key. -/
inductive WellFormed : Value δ ν → Prop
  | primitive (p : Primitive ν) : WellFormed (.primitive p)
  | date (d : δ) : WellFormed (.date d)
  | array {items : List (Value δ ν)} : (∀ v ∈ items, WellFormed v) → WellFormed (.array items)
  | object {members : Members δ ν} : members.keys.Nodup → (∀ m ∈ members, WellFormed m.2) →
    WellFormed (.object members)

/-- An array is well formed if its items are. -/
theorem wellFormed_array {items : List (Value δ ν)} :
    (Value.array items).WellFormed ↔ ∀ v ∈ items, v.WellFormed := by
  constructor
  · rintro (_ | _ | h)
    exact h
  · exact .array

/-- An object is if no key is repeated and its members are. -/
theorem wellFormed_object {members : Members δ ν} :
    (Value.object members).WellFormed ↔
      members.keys.Nodup ∧ ∀ m ∈ members, m.2.WellFormed := by
  constructor
  · rintro (_ | _ | _ | ⟨hkeys, h⟩)
    exact ⟨hkeys, h⟩
  · exact fun h => .object h.1 h.2

/-! ### What lies inside a value -/

/-- `u` lies inside the value, at any depth, and not below a member whose key is
not in `keep`. -/
inductive Within (keep : String → Prop) (u : Value δ ν) : Value δ ν → Prop
  | self : Within keep u u
  | item {items : List (Value δ ν)} {v : Value δ ν} : v ∈ items → Within keep u v →
    Within keep u (.array items)
  | member {members : Members δ ν} {m : String × Value δ ν} : m ∈ members → keep m.1 →
    Within keep u m.2 → Within keep u (.object members)

section Within

variable {keep : String → Prop} {u : Value δ ν}

/-- A primitive value holds only itself. -/
theorem within_primitive {p : Primitive ν} :
    Within keep u (.primitive p) ↔ u = .primitive p := by
  constructor
  · rintro ⟨⟩
    rfl
  · rintro rfl
    exact .self

/-- An array holds itself and what its items hold. -/
theorem within_array {items : List (Value δ ν)} :
    Within keep u (.array items) ↔ u = .array items ∨ ∃ v ∈ items, Within keep u v := by
  constructor
  · rintro (_ | ⟨hv, h⟩)
    · exact .inl rfl
    · exact .inr ⟨_, hv, h⟩
  · rintro (rfl | ⟨v, hv, h⟩)
    · exact .self
    · exact .item hv h

/-- An object holds itself and what the members hold that are kept. -/
theorem within_object {members : Members δ ν} :
    Within keep u (.object members) ↔
      u = .object members ∨ ∃ m ∈ members, keep m.1 ∧ Within keep u m.2 := by
  constructor
  · rintro (_ | _ | ⟨hm, hk, h⟩)
    · exact .inl rfl
    · exact .inr ⟨_, hm, hk, h⟩
  · rintro (rfl | ⟨m, hm, hk, h⟩)
    · exact .self
    · exact .member hm hk h

end Within

/-- No object in the value, at any depth, has a member of this key. -/
def Free (key : String) (v : Value δ ν) : Prop :=
  ∀ members : Members δ ν, Within (fun _ => True) (.object members) v → key ∉ members.keys

/-- A primitive value has no key. -/
theorem free_primitive (key : String) (p : Primitive ν) :
    (Value.primitive p : Value δ ν).Free key := by
  intro members h
  cases within_primitive.1 h

/-- An array is free of a key if its items are. -/
theorem free_array {key : String} {items : List (Value δ ν)} :
    (Value.array items).Free key ↔ ∀ v ∈ items, v.Free key := by
  constructor
  · intro h v hv members hw
    exact h members (.item hv hw)
  · intro h members hw
    rcases within_array.1 hw with hself | ⟨v, hv, hw⟩
    · cases hself
    · exact h v hv members hw

/-- An object is if it has not the key itself and its members are free of it. -/
theorem free_object {key : String} {members : Members δ ν} :
    (Value.object members).Free key ↔ key ∉ members.keys ∧ ∀ m ∈ members, m.2.Free key := by
  constructor
  · intro h
    exact ⟨h members .self, fun m hm members' hw => h members' (.member hm trivial hw)⟩
  · rintro ⟨hkey, h⟩ members' hw
    rcases within_object.1 hw with hself | ⟨m, hm, -, hw⟩
    · cases hself
      exact hkey
    · exact h m hm members' hw

/-! ### Removing members -/

section Without

variable (hidden : String → Prop) [DecidablePred hidden]

mutual

/-- The value without the members whose keys are hidden, at every depth. -/
def without : Value δ ν → Value δ ν
  | .primitive p => .primitive p
  | .date d => .date d
  | .array items => .array (itemsWithout items)
  | .object members => .object (membersWithout members)

def itemsWithout : List (Value δ ν) → List (Value δ ν)
  | [] => []
  | v :: items => v.without :: itemsWithout items

def membersWithout : Members δ ν → Members δ ν
  | [] => []
  | (key, v) :: members =>
    if hidden key then membersWithout members
    else (key, v.without) :: membersWithout members

end

/-- The items are treated one by one. -/
theorem itemsWithout_eq (items : List (Value δ ν)) :
    itemsWithout hidden items = items.map (without hidden) := by
  induction items with
  | nil => rfl
  | cons v items ih => rw [itemsWithout, ih, List.map_cons]

/-- The members that are not hidden are treated one by one. -/
theorem membersWithout_eq (members : Members δ ν) :
    membersWithout hidden members =
      (members.filter fun m => ¬hidden m.1).map fun m => (m.1, m.2.without hidden) := by
  induction members with
  | nil => rfl
  | cons m members ih =>
    by_cases h : hidden m.1
    · rw [membersWithout, if_pos h, ih, List.filter_cons_of_neg (by simpa using h)]
    · rw [membersWithout, if_neg h, ih, List.filter_cons_of_pos (by simpa using h), List.map_cons]

end Without

end Value
end Js
