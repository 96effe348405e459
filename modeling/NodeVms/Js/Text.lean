/-
# JSON texts

`stringify` is `JSON.stringify`: a member with the value `undefined` is left
out, an item with that value is printed as `null`.  `printed` is `String(value)`,
which prints an array without its brackets and shows nothing of an object.

The texts of two values are told apart here by their lengths: the text of a
list of parts is shorter as soon as one part has shrunk, or is gone, and none has
grown.
-/

import Mathlib.Algebra.Order.BigOperators.Group.List
import Mathlib.Algebra.Order.Group.Nat
import Mathlib.Algebra.Ring.Nat
import NodeVms.Js.Value

namespace Js

/-- The JSON text of a number or of a date. -/
class JsonText (α : Type) where
  text : α → String

variable {δ ν α : Type}

/-- A character inside a string literal. -/
def escaped (c : Char) : List Char :=
  match c.toNat with
  | 8 => ['\\', 'b']
  | 9 => ['\\', 't']
  | 10 => ['\\', 'n']
  | 12 => ['\\', 'f']
  | 13 => ['\\', 'r']
  | 34 => ['\\', c]
  | 92 => ['\\', c]
  | n =>
    if n < 32 then
      ['\\', 'u', '0', '0', Nat.digitChar (n / 16), Nat.digitChar (n % 16)]
    else [c]

/-- A string literal. -/
def quote (s : String) : String := "\"" ++ String.ofList (s.toList.flatMap escaped) ++ "\""

/-- No character is written as nothing. -/
theorem escaped_pos (c : Char) : 0 < (escaped c).length := by
  unfold escaped
  split
  all_goals first | decide | skip
  · exact Nat.zero_lt_succ _
  · exact Nat.zero_lt_succ _
  · split
    · exact Nat.zero_lt_succ _
    · exact Nat.zero_lt_succ _

/-- A quoted text is longer by its quotes at least. -/
theorem length_quote (s : String) : s.length + 2 ≤ (quote s).length := by
  have hflat : ∀ l : List Char, l.length ≤ (l.flatMap escaped).length := by
    intro l
    induction l with
    | nil => exact Nat.le_refl 0
    | cons c l ih =>
      have hc := escaped_pos c
      rw [List.flatMap_cons, List.length_append, List.length_cons]
      omega
  have hs := hflat s.toList
  have hquote : ("\"").length = 1 := by decide
  rw [String.length_toList] at hs
  rw [quote, String.length_append, String.length_append, hquote, String.length_ofList]
  omega

/-- Texts, separated by commas. -/
def joined (texts : List String) : String := ",".intercalate texts

section Stringify

variable [JsonText δ] [JsonText ν]

/-- The text of a primitive. -/
def Primitive.stringify : Primitive ν → Option String
  | .undefined => none
  | .null => some "null"
  | .boolean b => some (if b then "true" else "false")
  | .number x => some (JsonText.text x)
  | .string s => some (quote s)

namespace Value

mutual

/-- `JSON.stringify(value)`; `none` is `undefined`. -/
def stringify : Value δ ν → Option String
  | .primitive p => p.stringify
  | .date d => some (JsonText.text d)
  | .array items => some ("[" ++ joined (itemTexts items) ++ "]")
  | .object members => some ("\x7b" ++ joined (memberTexts members) ++ "\x7d")

def itemTexts : List (Value δ ν) → List String
  | [] => []
  | v :: items => v.stringify.getD "null" :: itemTexts items

def memberTexts : Members δ ν → List String
  | [] => []
  | (key, v) :: members =>
    match v.stringify with
    | none => memberTexts members
    | some text => (quote key ++ ":" ++ text) :: memberTexts members

end

/-- The text of a member, if it has one. -/
def memberText (m : String × Value δ ν) : Option String :=
  m.2.stringify.map fun text => quote m.1 ++ ":" ++ text

/-- The texts of the items, `null` for those that have none. -/
theorem itemTexts_eq (items : List (Value δ ν)) :
    itemTexts items = items.map fun v => v.stringify.getD "null" := by
  induction items with
  | nil => rfl
  | cons v items ih => rw [itemTexts, ih, List.map_cons]

/-- The texts of the members that have one. -/
theorem memberTexts_eq (members : Members δ ν) :
    memberTexts members = members.filterMap memberText := by
  induction members with
  | nil => rfl
  | cons m members ih =>
    cases h : m.2.stringify with
    | none =>
      rw [memberTexts, h, List.filterMap_cons_none (by rw [memberText, h]; rfl)]
      exact ih
    | some text =>
      rw [memberTexts, h, List.filterMap_cons_some (by rw [memberText, h]; rfl), ih]

end Value
end Stringify

/-! ### Lengths -/

/-- The length of a part with its comma; a part that is left out has none. -/
def size : Option String → Nat
  | none => 0
  | some s => s.length + 1

/-- A list is as long as its texts and the commas between them. -/
theorem length_joined (texts : List String) :
    (joined texts).length = (texts.map fun s => s.length + 1).sum - 1 := by
  rw [joined]
  induction texts with
  | nil => rw [String.intercalate_nil]; rfl
  | cons s texts ih =>
    cases texts with
    | nil => simp
    | cons t texts =>
      have hcomma : (",").length = 1 := by decide
      rw [String.intercalate_cons_cons, String.length_append, String.length_append, ih, hcomma]
      simp only [List.map_cons, List.sum_cons]
      omega

/-- A text that is left out has length zero. -/
theorem sum_filterMap (f : α → Option String) (l : List α) :
    ((l.filterMap f).map fun s => s.length + 1).sum = (l.map fun x => size (f x)).sum := by
  induction l with
  | nil => rfl
  | cons x l ih =>
    cases h : f x with
    | none => rw [List.filterMap_cons_none h, List.map_cons, List.sum_cons, h, ih, size, zero_add]
    | some s => rw [List.filterMap_cons_some h, List.map_cons, List.map_cons, List.sum_cons,
        List.sum_cons, h, ih, size]

/-- The text is shorter when no part has grown and one has shrunk. -/
theorem length_joined_lt {f g : α → Option String} {l : List α}
    (hle : ∀ x ∈ l, size (f x) ≤ size (g x))
    (hlt : ∃ x ∈ l, size (f x) < size (g x) ∧ 1 < size (g x)) :
    (joined (l.filterMap f)).length < (joined (l.filterMap g)).length := by
  rw [length_joined, length_joined, sum_filterMap, sum_filterMap]
  obtain ⟨x, hx, hfg, hg⟩ := hlt
  have hsum : (l.map fun x => size (f x)).sum < (l.map fun x => size (g x)).sum :=
    List.sum_lt_sum _ _ hle ⟨x, hx, hfg⟩
  have hmem : size (g x) ≤ (l.map fun x => size (g x)).sum :=
    List.single_le_sum (fun _ _ => Nat.zero_le _) _ (List.mem_map_of_mem hx)
  omega

/-- The first text is the second one, or shorter where `p` holds. -/
def Cut (p : Prop) (a b : Option String) : Prop := (¬p → a = b) ∧ (p → size a < size b)

/-- A text is cut short or it is the same. -/
theorem Cut.eq_iff {p : Prop} {a b : Option String} (h : Cut p a b) : a = b ↔ ¬p := by
  constructor
  · intro hab hp
    have hlt := h.2 hp
    rw [hab] at hlt
    exact Nat.lt_irrefl _ hlt
  · exact h.1

/-- Parts that are cut make a text that is cut. -/
theorem Cut.joined {p : α → Prop} {f g : α → Option String} {l : List α}
    (h : ∀ x ∈ l, Cut (p x) (f x) (g x)) (hpos : ∀ x ∈ l, p x → 1 < size (g x)) (a b : String) :
    Cut (∃ x ∈ l, p x) (some (a ++ Js.joined (l.filterMap f) ++ b))
      (some (a ++ Js.joined (l.filterMap g) ++ b)) := by
  constructor
  · intro hnone
    have hsame : ∀ x ∈ l, f x = g x := fun x hx => (h x hx).1 fun hp => hnone ⟨x, hx, hp⟩
    rw [List.filterMap_congr hsame]
  · rintro ⟨x, hx, hp⟩
    have hle : ∀ x ∈ l, size (f x) ≤ size (g x) := by
      intro x hx
      by_cases hp : p x
      · exact ((h x hx).2 hp).le
      · exact ((h x hx).1 hp ▸ Nat.le_refl _)
    have hlt := length_joined_lt hle ⟨x, hx, (h x hx).2 hp, hpos x hx hp⟩
    simp only [size, String.length_append]
    omega

/-! ### `String(value)` -/

/-- The text of a number or of a date in `String(value)`. -/
class Printed (α : Type) where
  print : α → String

section Print

variable [Printed δ] [Printed ν]

/-- `String(value)` of a primitive. -/
def Primitive.printed : Primitive ν → String
  | .undefined => "undefined"
  | .null => "null"
  | .boolean b => if b then "true" else "false"
  | .number x => Printed.print x
  | .string s => s

namespace Value

mutual

/-- `String(value)`, of plain objects without a `toString` of their own. -/
def printed : Value δ ν → String
  | .primitive p => p.printed
  | .date d => Printed.print d
  | .array items => joined (printedItems items)
  | .object _ => "[object Object]"

/-- The parts of `items.join()`: nothing for `null` and `undefined`. -/
def printedItems : List (Value δ ν) → List String
  | [] => []
  | .primitive .undefined :: items => "" :: printedItems items
  | .primitive .null :: items => "" :: printedItems items
  | v :: items => v.printed :: printedItems items

end

/-- A text prints as itself. -/
@[simp] theorem printed_string (s : String) :
    (Value.primitive (.string s) : Value δ ν).printed = s := by
  rw [printed, Primitive.printed]

end Value
end Print

end Js
