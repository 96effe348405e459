/-
# A record as the replay of its history

`life` says what can become of one record: from what it is, by an event, to what it is
afterwards, or to `none` where the event cannot happen.  `replay` runs a record through a
list of events.

`run_eq_replay` is the refinement rule: if each step of a system makes of a record what
the events it emits for the key make of it, then after a run the record is the replay of
the events of the run, and each of them could happen when it did.
-/

import NodeVms.Store.Outbox

namespace Store

variable {κ ω σ R S : Type} [DecidableEq κ] {k : κ}

/-- The events of one key. -/
def eventsOf (k : κ) (log : List (κ × ω)) : List ω :=
  log.filterMap fun e => if e.1 = k then some e.2 else none

/-- The events of a record in two logs, one after the other. -/
theorem eventsOf_append (log later : List (κ × ω)) :
    eventsOf k (log ++ later) = eventsOf k log ++ eventsOf k later := List.filterMap_append

/-- One event is of one record. -/
theorem eventsOf_single (k' : κ) (e : ω) : eventsOf k [(k', e)] = if k' = k then [e] else [] := by
  by_cases h : k' = k <;> simp [eventsOf, h]

/-- What the events make of a record, if each of them can happen in turn. -/
def replay (life : σ → ω → Option σ) (s : σ) : List ω → Option σ
  | [] => some s
  | e :: es => (life s e).bind fun s' => replay life s' es

variable {life : σ → ω → Option σ}

/-- One part is replayed after the other. -/
theorem replay_append (s : σ) (es later : List ω) :
    replay life s (es ++ later) = (replay life s es).bind fun s' => replay life s' later := by
  induction es generalizing s with
  | nil => rfl
  | cons e es ih =>
    rw [List.cons_append, replay, replay, Option.bind_assoc]
    exact congrArg _ (funext fun s' => ih s')

/-- One event is one step. -/
theorem replay_single (s : σ) (e : ω) : replay life s [e] = life s e := by
  rw [replay]
  exact Option.bind_fun_some _

variable {step : R → S → S} {emit : R → S → List (κ × ω)} {abs : S → σ}

/-- The refinement rule. -/
theorem run_eq_replay
    (hstep : ∀ r s, replay life (abs s) (eventsOf k (emit r s)) = some (abs (step r s)))
    (rs : List R) (s : S) :
    replay life (abs s) (eventsOf k (sent step emit rs s)) = some (abs (run step rs s)) := by
  induction rs generalizing s with
  | nil => rfl
  | cons r rs ih =>
    have hr := hstep r s
    have hrs : replay life (abs (step r s)) (eventsOf k (sent step emit rs (step r s))) =
        some (abs (run step rs (step r s))) := ih (step r s)
    rw [sent, eventsOf_append, replay_append, hr, Option.bind_some, hrs]
    rfl

/-- What each event keeps, a replay keeps. -/
theorem replay_invariant {I : σ → Prop} (hlife : ∀ s e s', I s → life s e = some s' → I s')
    {s s' : σ} {es : List ω} (hs : I s) (h : replay life s es = some s') : I s' := by
  induction es generalizing s with
  | nil =>
    obtain rfl := Option.some.inj h
    exact hs
  | cons e es ih =>
    obtain ⟨s₁, h₁, hrest⟩ := Option.bind_eq_some_iff.1 h
    exact ih (hlife s e s₁ hs h₁) hrest

end Store
