/-
# What a request brings with it

`Field` is an optional property of a request body: left out, `null` (which
class-validator's `@IsOptional` admits), or a value.  `JsDate` is the `Date`
that `new Date(s)` gives on a supplied string, `none` being the invalid date,
which compares false with everything and which the database client refuses.
`Env` is what a handler draws from its surroundings while it runs.
-/

import NodeVms.Database
import NodeVms.Store.Recheck

namespace NodeVms

open Store

/-- An optional property of a request body. -/
inductive Field (α : Type) where
  | undefined
  | null
  | value (a : α)
  deriving DecidableEq

namespace Field

variable {α : Type}

/-- `f ?? …`: both `undefined` and `null` give way. -/
def nullish : Field α → Option α
  | value a => some a
  | _ => none

/-- `f !== undefined`. -/
def defined : Field α → Bool
  | undefined => false
  | _ => true

/-- The column after `data: { col: f }`; a client that gets `undefined` leaves it alone. -/
def setNullable (f : Field α) (old : Option α) : Option α :=
  match f with
  | undefined => old
  | null => none
  | value a => some a

/-- The same for a required column; `notNull` has refused `null` before. -/
def set (f : Field α) (old : α) : α :=
  match f with
  | value a => a
  | _ => old

/-- The client refuses `null` for a required column. -/
def notNull (f : Field α) : Query Unit :=
  match f with
  | null => .throw .invalidArgument
  | _ => .pure ()

/-- A value is supplied. -/
@[simp] theorem defined_value {a : α} : (value a).defined = true := rfl

/-- A value that is neither `undefined` nor `null`. -/
@[simp] theorem nullish_eq_some {f : Field α} {a : α} : f.nullish = some a ↔ f = value a := by
  cases f <;> simp [nullish]

/-- A column that must not be null refuses `null` only. -/
@[simp] theorem eval_notNull_eq_ok {f : Field α} {db : Database} {u : Unit} :
    f.notNull.eval db = .ok u ↔ f ≠ null := by
  cases f <;> simp [notNull, Script.eval]

/-- The body stays what it is. -/
theorem checks_notNull (f : Field α) {R : Database → Database → Prop}
    {K I : Database → Prop} : f.notNull.Checks R K I := by
  cases f <;> trivial

end Field

/-- A non-empty string, the truthy ones of JavaScript. -/
def nonEmpty : Option String → Option String
  | some "" => none
  | o => o

/-- The string, if the property is given and not empty. -/
def Field.truthy (f : Field String) : Option String := nonEmpty f.nullish

/-- The column after `f ? { connect: { id: f } } : { disconnect: true }`, when `f` is given. -/
def Field.setRef (f : Field String) (old : Option String) : Option String :=
  if f.defined then f.truthy else old

/-- A text that is there and not empty. -/
@[simp] theorem nonEmpty_eq_some {o : Option String} {s : String} :
    nonEmpty o = some s ↔ o = some s ∧ s ≠ "" := by
  unfold nonEmpty
  split
  · simp only [reduceCtorEq, Option.some.injEq, ne_eq, false_iff, not_and, not_not]
    exact fun h => h.symm
  · rename_i h
    exact ⟨fun ho => ⟨ho, fun hs => h (hs ▸ ho)⟩, And.left⟩

/-- A text that is supplied and not empty. -/
@[simp] theorem Field.truthy_eq_some {f : Field String} {s : String} :
    f.truthy = some s ↔ f = .value s ∧ s ≠ "" := by simp [truthy]

/-- A nullable column after an update holds the supplied value or the old one. -/
theorem Field.setNullable_eq_some {α : Type} {f : Field α} {old : Option α} {a : α}
    (h : f.setNullable old = some a) : f = .value a ∨ old = some a := by
  cases f with
  | undefined => exact .inr h
  | null => exact nomatch h
  | value b => exact .inl (congrArg _ (Option.some.inj h))

/-- The same for a required column. -/
theorem Field.value_or_of_set_eq {α : Type} {f : Field α} {old a : α} (h : f.set old = a) :
    f = .value a ∨ old = a := by
  cases f with
  | value b => exact .inl (congrArg _ h)
  | undefined => exact .inr h
  | null => exact .inr h

/-- A reference after an update is the supplied one or the old one. -/
theorem Field.setRef_eq_some {f : Field String} {old : Option String} {k : String}
    (h : f.setRef old = some k) : (f = .value k ∧ k ≠ "") ∨ old = some k := by
  unfold setRef at h
  split at h
  · exact .inl (truthy_eq_some.1 h)
  · exact .inr h

/-! ### Dates -/

/-- A `Date` object; `none` is the invalid date. -/
abbrev JsDate : Type := Option Time

/-- `a <= b`, false when either is invalid. -/
def JsDate.le : JsDate → JsDate → Bool
  | some a, some b => a ≤ b
  | _, _ => false

/-- Valid dates are compared as times. -/
@[simp] theorem JsDate.le_some {a b : Time} : JsDate.le (some a) (some b) = decide (a ≤ b) := rfl

/-- The client refuses an invalid date. -/
def JsDate.valid (d : JsDate) : Query Time := Script.orThrow d .invalidArgument

/-- A date that is checked is one. -/
@[simp] theorem JsDate.eval_valid_eq_ok {d : JsDate} {db : Database} {t : Time} :
    d.valid.eval db = .ok t ↔ d = some t := Script.eval_orThrow_eq_ok

/-- An optional date: absent stays absent, an invalid one is refused. -/
def JsDate.validOpt (d : Option JsDate) : Query (Option Time) :=
  match d with
  | none => pure none
  | some d => do return some (← d.valid)

/-- A date that may be missing is one if it is there. -/
@[simp] theorem JsDate.eval_validOpt_eq_ok {d : Option JsDate} {db : Database} {o : Option Time} :
    (JsDate.validOpt d).eval db = .ok o ↔ d = o.map some := by
  cases d with
  | none => cases o <;> simp [validOpt]
  | some d => cases o <;> simp [validOpt]

/-- A number in decimal, on at least `n` digits. -/
def padded (n k : Nat) : String :=
  let s := toString k
  String.ofList (List.replicate (n - s.length) '0') ++ s

/-- `toISOString()`. -/
def Time.toISOString (t : Time) : String :=
  let ms := t % 86400000
  -- the civil date of day `z`, counted from 0000-03-01
  let z := t / 86400000 + 719468
  let era := z / 146097
  let doe := z % 146097
  let yoe := (doe - doe / 1460 + doe / 36524 - doe / 146096) / 365
  let doy := doe - (365 * yoe + yoe / 4 - yoe / 100)
  let mp := (5 * doy + 2) / 153
  let day := doy - (153 * mp + 2) / 5 + 1
  let month := if mp < 10 then mp + 3 else mp - 9
  let year := yoe + era * 400 + (if month ≤ 2 then 1 else 0)
  let yearText :=
    if 0 ≤ year ∧ year ≤ 9999 then padded 4 year.toNat
    else (if year < 0 then "-" else "+") ++ padded 6 year.natAbs
  yearText ++ "-" ++ padded 2 month.toNat ++ "-" ++ padded 2 day.toNat ++ "T" ++
    padded 2 (ms / 3600000).toNat ++ ":" ++ padded 2 (ms / 60000 % 60).toNat ++ ":" ++
    padded 2 (ms / 1000 % 60).toNat ++ "." ++ padded 3 (ms % 1000).toNat ++ "Z"

/-- `toISOString().split('T')[0]`: the date part. -/
def Time.toISODate (t : Time) : String :=
  String.ofList (t.toISOString.toList.takeWhile (· ≠ 'T'))

/-- The decimal places of `rest / den`, at most so many. -/
def decimalPlaces : Nat → Nat → Nat → List Char
  | 0, _, _ => []
  | places + 1, rest, den =>
    if rest = 0 then []
    else (rest * 10 / den).digitChar :: decimalPlaces places (rest * 10 % den) den

/-- A number inside an error message, in decimal; JavaScript writes it so below `10 ^ 21`. -/
def Amount.text (a : Amount) : String :=
  let places := decimalPlaces 17 (a.num.natAbs % a.den) a.den
  (if a < 0 then "-" else "") ++ toString (a.num.natAbs / a.den) ++
    if places = [] then "" else String.ofList ('.' :: places)

example : Amount.text (401 / 4) = "100.25" := by decide +kernel

/-! ### Surroundings -/

/-- What a handler reads besides its arguments and the database: the clock, the
id generator, bcrypt and the configuration. -/
structure Env where
  now : Time
  /-- The ids `@default(cuid())` generates for the rows of this request, in order. -/
  cuid : Nat → Cuid
  /-- `bcrypt.hash(password, 12)`, with the salt it draws. -/
  hash : String → String
  /-- `bcrypt.compare(password, hash)`. -/
  compare : String → String → Bool
  /-- `SEED_SECRET`. -/
  seedSecret : String

end NodeVms
