/-
# Keys that expire

A key-value server keeps a value until its expiry, as Redis does with a key set
with `EX`.  The state is the log of the writes it has been sent, and `Server.get`
what it answers.  All a server promises is that the last write of a key is still
there before it expires; afterwards it may be gone or linger.

`Server.Local` says in addition that keys do not affect one another, and
`Server.Forgets` that a key answers with its last write or not at all, and once
it is gone stays so until it is written again.

`Server.get_of_renewed` is the rule for a key with several writers: once it has
been written, and if every write of it lasts until `t`, it is there before `t`,
whichever write came last.
-/

import Mathlib.Order.Lattice
import Mathlib.Tactic.Common

namespace Store

variable {κ β τ : Type} [DecidableEq κ]

/-- A write of a key with the moment it expires. -/
structure Put (κ β τ : Type) where
  key : κ
  value : β
  expires : τ

/-- The last write of a key. -/
def lastPut (log : List (Put κ β τ)) (k : κ) : Option (Put κ β τ) :=
  log.reverse.find? fun p => p.key = k

/-- The last value of a key is one that was put there. -/
theorem mem_of_lastPut {log : List (Put κ β τ)} {k : κ} {p : Put κ β τ}
    (h : lastPut log k = some p) : p ∈ log ∧ p.key = k :=
  ⟨List.mem_reverse.1 (List.mem_of_find?_eq_some h), by simpa using List.find?_some h⟩

/-- A key with a value has a last one. -/
theorem exists_lastPut {log : List (Put κ β τ)} {k : κ} (h : ∃ p ∈ log, p.key = k) :
    ∃ p, lastPut log k = some p := by
  obtain ⟨p, hp, hk⟩ := h
  rw [← Option.isSome_iff_exists, lastPut, List.find?_isSome]
  exact ⟨p, List.mem_reverse.2 hp, decide_eq_true hk⟩

/-- What is put under other keys does not matter. -/
theorem lastPut_append_of_ne {log log' : List (Put κ β τ)} {k : κ} (h : ∀ p ∈ log', p.key ≠ k) :
    lastPut (log ++ log') k = lastPut log k := by
  have hnone : log'.reverse.find? (fun p => p.key = k) = none :=
    List.find?_eq_none.2 fun p hp => by simpa using h p (List.mem_reverse.1 hp)
  rw [lastPut, List.reverse_append, List.find?_append, hnone, Option.none_or, lastPut]

/-- What is put there now is the last. -/
theorem lastPut_concat (log : List (Put κ β τ)) (p : Put κ β τ) :
    lastPut (log ++ [p]) p.key = some p := by
  rw [lastPut, List.reverse_append, List.reverse_singleton, List.singleton_append]
  exact List.find?_cons_of_pos (by simp)

variable [LinearOrder τ]

/-- What a server answers, given all it has been sent. -/
structure Server (κ β τ : Type) [DecidableEq κ] [LinearOrder τ] where
  get : List (Put κ β τ) → κ → τ → Option β
  keeps : ∀ log k p t, lastPut log k = some p → t < p.expires → get log k t = some p.value

namespace Server

/-- The server that drops a key the moment it expires. -/
def prompt : Server κ β τ where
  get log k t := ((lastPut log k).filter fun p => t < p.expires).map Put.value
  keeps log k p t h ht := by rw [h, Option.filter_some, if_pos (decide_eq_true ht), Option.map_some]

/-- A key all of whose writes last until `t` is there before `t`. -/
theorem get_of_renewed (server : Server κ β τ) {log : List (Put κ β τ)} {k : κ} {t t' : τ}
    (hput : ∃ p ∈ log, p.key = k) (hall : ∀ p ∈ log, p.key = k → t' ≤ p.expires) (ht : t < t') :
    server.get log k t ≠ none := by
  obtain ⟨p, hp⟩ := exists_lastPut hput
  obtain ⟨hmem, hk⟩ := mem_of_lastPut hp
  rw [server.keeps log k p t hp (lt_of_lt_of_le ht (hall p hmem hk))]
  exact Option.some_ne_none _

/-- Keys are independent: what a server answers for one depends on the writes of that key. -/
def Local (server : Server κ β τ) : Prop :=
  ∀ log log' k t, (log.filter fun p => p.key = k) = (log'.filter fun p => p.key = k) →
    server.get log k t = server.get log' k t

/-- The answer for a key does not depend on other keys. -/
theorem Local.get_append {server : Server κ β τ} (hlocal : server.Local)
    {log log' : List (Put κ β τ)} {k : κ} (h : ∀ p ∈ log', p.key ≠ k) (t : τ) :
    server.get (log ++ log') k t = server.get log k t := by
  have hnil : (log'.filter fun p => p.key = k) = [] :=
    List.filter_eq_nil_iff.2 fun p hp => by simpa using h p hp
  refine hlocal _ _ k t ?_
  rw [List.filter_append, hnil, List.append_nil]

/-- A key has the value of its last write, or has been forgotten. -/
structure Forgets (server : Server κ β τ) : Prop where
  sound : ∀ log k t b, server.get log k t = some b → ∃ p, lastPut log k = some p ∧ p.value = b
  gone : ∀ log k t t', server.get log k t = none → t ≤ t' → server.get log k t' = none

/-- A server that forgets at once when a value has expired. -/
theorem prompt_forgets : (prompt : Server κ β τ).Forgets where
  sound log k t b h := by
    obtain ⟨p, hp, hb⟩ := Option.map_eq_some_iff.1 h
    exact ⟨p, (Option.filter_eq_some_iff.1 hp).1, hb⟩
  gone log k t t' h ht := by
    have h := Option.map_eq_none_iff.1 h
    refine Option.map_eq_none_iff.2 ?_
    cases hp : lastPut log k with
    | none => rfl
    | some p =>
      rw [hp, Option.filter_eq_none_iff] at h
      refine Option.filter_eq_none_iff.2 fun q hq => ?_
      have hexpired := h q hq
      simp only [decide_eq_true_eq, not_lt] at hexpired ⊢
      exact hexpired.trans ht

/-- It looks at the key only. -/
theorem prompt_local : (prompt : Server κ β τ).Local := by
  intro log log' k t h
  have hlast : ∀ log : List (Put κ β τ),
      lastPut log k = lastPut (log.filter fun p => p.key = k) k := by
    intro log
    unfold lastPut
    rw [← List.filter_reverse, List.find?_filter]
    simp only [decide_eq_true_eq, and_self]
  change ((lastPut log k).filter _).map _ = ((lastPut log' k).filter _).map _
  rw [hlast log, h, ← hlast log']

end Server

end Store
