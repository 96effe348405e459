/-
# The last write wins

A component that keeps one value for each key is a register: it answers with the
value of the last write of the key.  `lastWrite` is that answer, computed from
the log of the writes alone.

`run_eq_lastWrite` is the refinement rule: if one step of a system changes what
the system answers for the key it writes, and for no other, then after a run the
system answers like the register.  `run_eq_lastWrite_sent` is the same rule for
steps that write any number of keys, or none.
-/

import NodeVms.Store.Outbox

namespace Store

variable {ω κ β S : Type} [DecidableEq κ] {key : ω → κ} {val : ω → β}

/-- The value the last write of a key has given it. -/
def lastWrite (key : ω → κ) (val : ω → β) (log : List ω) (k : κ) : Option β :=
  (log.reverse.find? fun w => key w = k).map val

/-- Later writes come first. -/
theorem lastWrite_cons (w : ω) (log : List ω) (k : κ) : lastWrite key val (w :: log) k =
    (lastWrite key val log k).or (if key w = k then some (val w) else none) := by
  unfold lastWrite
  rw [List.reverse_cons, List.find?_append, Option.map_or]
  by_cases h : key w = k <;> simp [h]

variable {step : ω → S → S} {abs : S → Option β} {I : S → Prop} {P : ω → S → Prop} {k : κ}

/-- The refinement rule, for one key, from any state. -/
theorem run_eq_lastWrite (hI : ∀ w s, I s → I (step w s))
    (hstep : ∀ w s, I s → P w s → abs (step w s) = if key w = k then some (val w) else abs s)
    {log : List ω} {s : S} (hs : I s) (h : Along step P log s) :
    abs (run step log s) = (lastWrite key val log k).or (abs s) := by
  induction log generalizing s with
  | nil => rfl
  | cons w log ih =>
    have hrest : abs (run step log (step w s)) =
        (lastWrite key val log k).or (abs (step w s)) := ih (hI w s hs) h.2
    have hw : abs (step w s) = if key w = k then some (val w) else abs s := hstep w s hs h.1
    change abs (run step log (step w s)) = _
    rw [hrest, hw, lastWrite_cons, Option.or_assoc]
    by_cases hk : key w = k
    · rw [if_pos hk, if_pos hk]
      rfl
    · rw [if_neg hk, if_neg hk]
      rfl

/-- What is written later counts, if anything is. -/
theorem lastWrite_append (log later : List ω) (k : κ) : lastWrite key val (log ++ later) k =
    (lastWrite key val later k).or (lastWrite key val log k) := by
  unfold lastWrite
  rw [List.reverse_append, List.find?_append, Option.map_or]

variable {R : Type} {stepR : R → S → S} {emit : R → S → List ω}

/-- The refinement rule for steps that write what they emit. -/
theorem run_eq_lastWrite_sent
    (hstep : ∀ r s, abs (stepR r s) = (lastWrite key val (emit r s) k).or (abs s)) (rs : List R)
    (s : S) :
    abs (run stepR rs s) = (lastWrite key val (sent stepR emit rs s) k).or (abs s) := by
  induction rs generalizing s with
  | nil => rfl
  | cons r rs ih =>
    have hrest : abs (run stepR rs (stepR r s)) =
        (lastWrite key val (sent stepR emit rs (stepR r s)) k).or (abs (stepR r s)) := ih _
    have hr : abs (stepR r s) = (lastWrite key val (emit r s) k).or (abs s) := hstep r s
    change abs (run stepR rs (stepR r s)) = _
    rw [hrest, hr, sent, lastWrite_append, Option.or_assoc]

end Store
