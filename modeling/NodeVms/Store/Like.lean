/-
# `LIKE`

In a pattern of SQL `%` stands for any text and `_` for any character, and after a
backslash a character stands for itself.  A text that is searched for between two `%`
is found wherever it occurs (`contains_of_infix`), unless it has a backslash, and nowhere
else if it has none of the three characters (`contains_iff_infix`).
-/

import Mathlib.Data.List.Infix
import Mathlib.Tactic.Common

namespace Store
namespace Like

/-- What a part of a pattern stands for. -/
inductive Wildcard where
  | char (c : Char)
  | one
  | any
  deriving DecidableEq

/-- What a character stands for, after no backslash. -/
def wildcard (c : Char) : Wildcard :=
  if c = '%' then .any else if c = '_' then .one else .char c

/-- The parts of a pattern. -/
def parse : List Char → List Wildcard
  | [] => []
  | '\\' :: c :: p => .char c :: parse p
  | c :: p => wildcard c :: parse p

/-- A text fits a pattern as a whole. -/
def accepts : List Wildcard → List Char → Bool
  | [], s => s.isEmpty
  | .char c :: p, s =>
    match s with
    | [] => false
    | x :: s => x = c && accepts p s
  | .one :: p, s =>
    match s with
    | [] => false
    | _ :: s => accepts p s
  | .any :: p, s => s.tails.any (accepts p)

/-- `text LIKE pattern`. -/
def like (pattern text : List Char) : Bool := accepts (parse pattern) text

/-- `text LIKE '%' || search || '%'`. -/
def contains (text search : List Char) : Bool := like ('%' :: (search ++ ['%'])) text

variable {p q : List Wildcard} {s t search text : List Char}

/-- Any text is passed over, up to some suffix. -/
theorem accepts_any : accepts (.any :: p) s = true ↔ ∃ t, t <:+ s ∧ accepts p t = true := by
  simp only [accepts, List.any_eq_true, List.mem_tails]

/-- Two patterns one after the other accept what each accepts, one after the other. -/
theorem accepts_append (hs : accepts p s = true) (ht : accepts q t = true) :
    accepts (p ++ q) (s ++ t) = true := by
  induction p generalizing s with
  | nil =>
    rw [List.isEmpty_iff.1 hs]
    exact ht
  | cons w p ih =>
    cases w with
    | char c =>
      cases s with
      | nil => exact absurd hs Bool.false_ne_true
      | cons x s =>
        obtain ⟨hx, hs⟩ := Bool.and_eq_true_iff.1 hs
        exact Bool.and_eq_true_iff.2 ⟨hx, ih hs⟩
    | one =>
      cases s with
      | nil => exact absurd hs Bool.false_ne_true
      | cons x s => exact ih (s := s) hs
    | any =>
      obtain ⟨s', hsuffix, hs'⟩ := accepts_any.1 hs
      obtain ⟨u, rfl⟩ := hsuffix
      refine accepts_any.2 ⟨s' ++ t, ?_, ih hs'⟩
      rw [List.append_assoc]
      exact List.suffix_append u (s' ++ t)

/-- Every character is one of those it stands for. -/
theorem accepts_wildcard (c : Char) : accepts [wildcard c] [c] = true := by
  unfold wildcard
  split_ifs with hany hone
  · exact accepts_any.2 ⟨[], List.nil_suffix, rfl⟩
  · rfl
  · simp [accepts]

/-- A character that is no backslash is a part by itself. -/
theorem parse_cons {c : Char} (hc : c ≠ '\\') : parse (c :: s) = wildcard c :: parse s := by
  rw [parse]
  exact fun _ _ h => absurd h hc

/-- Without a backslash a pattern is read character by character. -/
theorem parse_append (hs : '\\' ∉ s) : parse (s ++ t) = s.map wildcard ++ parse t := by
  induction s with
  | nil => rfl
  | cons c s ih =>
    obtain ⟨hc, hs⟩ := not_or.1 (mt List.mem_cons.2 hs)
    rw [List.cons_append, parse_cons (Ne.symm hc), ih hs]
    rfl

/-- Such a pattern accepts itself. -/
theorem accepts_map_wildcard (s : List Char) : accepts (s.map wildcard) s = true := by
  induction s with
  | nil => rfl
  | cons c s ih => exact accepts_append (accepts_wildcard c) ih

/-- The pattern of a search is the text between two `%`. -/
theorem parse_contains (hsearch : '\\' ∉ search) : parse ('%' :: (search ++ ['%'])) =
    .any :: (search.map wildcard ++ [.any]) := by
  have hfirst : '\\' ∉ ['%'] := by decide
  have hcons : '%' :: (search ++ ['%']) = ['%'] ++ (search ++ ['%']) := rfl
  rw [hcons, parse_append hfirst, parse_append hsearch]
  rfl

/-- What occurs in the text is found. -/
theorem contains_of_infix (hsearch : '\\' ∉ search) (h : search <:+: text) :
    contains text search = true := by
  obtain ⟨s, t, rfl⟩ := h
  have hrest : accepts [.any] t = true := accepts_any.2 ⟨[], List.nil_suffix, rfl⟩
  rw [contains, like, parse_contains hsearch]
  refine accepts_any.2 ⟨search ++ t, ?_, accepts_append (accepts_map_wildcard search) hrest⟩
  rw [List.append_assoc]
  exact List.suffix_append s (search ++ t)

/-- Characters that stand for themselves, and any text after them. -/
theorem accepts_char_any : accepts (s.map .char ++ [.any]) t = true ↔ s <+: t := by
  induction s generalizing t with
  | nil =>
    refine ⟨fun _ => List.nil_prefix, fun _ => ?_⟩
    exact accepts_any.2 ⟨[], List.nil_suffix, rfl⟩
  | cons c s ih =>
    cases t with
    | nil => simp [accepts]
    | cons x t =>
      have hstep : accepts (.char c :: (s.map .char ++ [.any])) (x :: t) =
          (decide (x = c) && accepts (s.map .char ++ [.any]) t) := rfl
      rw [List.cons_prefix_cons, ← ih, List.map_cons, List.cons_append, hstep, Bool.and_eq_true,
        decide_eq_true_iff, @eq_comm _ c]

/-- Only what occurs in the text is found, if the search stands for itself. -/
theorem contains_iff_infix (hsearch : ∀ c ∈ search, c ≠ '%' ∧ c ≠ '_' ∧ c ≠ '\\') :
    contains text search = true ↔ search <:+: text := by
  have hescape : '\\' ∉ search := fun h => (hsearch _ h).2.2 rfl
  have hchar : search.map wildcard = search.map .char := by
    refine List.map_congr_left fun c hc => ?_
    obtain ⟨hany, hone, -⟩ := hsearch c hc
    rw [wildcard, if_neg hany, if_neg hone]
  rw [contains, like, parse_contains hescape, hchar, accepts_any]
  simp only [accepts_char_any]
  constructor
  · rintro ⟨t, hsuffix, hprefix⟩
    exact hprefix.isInfix.trans hsuffix.isInfix
  · rintro ⟨s, t, rfl⟩
    refine ⟨search ++ t, ?_, List.prefix_append search t⟩
    rw [List.append_assoc]
    exact List.suffix_append s (search ++ t)

end Like
end Store
