/-
# Messages on their way

A party that does not wait for its messages to be written: `send` puts them with
the others that are under way, `deliver` writes one of them, whichever it is.
`Accounts` says that what has been written and what is still under way are
together what was sent, each message once.  Sending keeps it, and so does a
delivery that is not refused; what was sent along a run is what its requests
`emit`, in order.
-/

import Mathlib.Algebra.BigOperators.Group.List.Basic
import Mathlib.Data.List.Forall2
import Mathlib.Data.List.Perm.Basic
import NodeVms.Store.Runs

namespace Store

variable {M W : Type}

/-- The messages under way, and what has been written of the others. -/
structure Outbox (M W : Type) where
  pending : List M
  written : List W

namespace Outbox

/-- Nothing has been sent. -/
def empty : Outbox M W := ⟨[], []⟩

/-- New messages are under way behind those that are. -/
def send (messages : List M) (o : Outbox M W) : Outbox M W :=
  { o with pending := o.pending ++ messages }

/-- The `n`-th message under way is written, unless `write` refuses it; there may be none. -/
def deliver (n : Nat) (write : M → Option W) (o : Outbox M W) : Outbox M W :=
  match o.pending[n]? with
  | some m => ⟨o.pending.eraseIdx n, o.written ++ (write m).toList⟩
  | none => o

variable {o : Outbox M W} {content : W → M} {sent : List M}

/-- Each message that was sent is written or under way. -/
def Accounts (content : W → M) (sent : List M) (o : Outbox M W) : Prop :=
  (o.written.map content ++ o.pending).Perm sent

/-- At the start nothing has been sent. -/
theorem accounts_empty : Accounts content [] (empty : Outbox M W) := List.Perm.refl _

/-- New messages wait with the old ones. -/
theorem Accounts.send (h : Accounts content sent o) (messages : List M) :
    Accounts content (sent ++ messages) (o.send messages) := by
  have happend := h.append_right messages
  rwa [List.append_assoc] at happend

/-- A message that is under way is one that was sent. -/
theorem Accounts.mem_of_pending (h : Accounts content sent o) {m : M} (hm : m ∈ o.pending) :
    m ∈ sent :=
  h.subset (List.mem_append_right _ hm)

/-- What is written was sent. -/
theorem Accounts.mem_of_written (h : Accounts content sent o) {w : W} (hw : w ∈ o.written) :
    content w ∈ sent :=
  h.subset (List.mem_append_left _ (List.mem_map_of_mem hw))

/-- A delivery that no write refuses moves a message. -/
theorem Accounts.deliver (h : Accounts content sent o) {n : Nat} {write : M → Option W}
    (hwrite : ∀ m ∈ o.pending, ∃ w, write m = some w ∧ content w = m) :
    Accounts content sent (o.deliver n write) := by
  unfold Outbox.deliver
  split
  · rename_i m hm
    obtain ⟨hn, hget⟩ := List.getElem?_eq_some_iff.1 hm
    obtain ⟨w, hw, hcontent⟩ := hwrite m (List.mem_of_getElem? hm)
    have hperm : (m :: o.pending.eraseIdx n).Perm o.pending := by
      have hcons := List.getElem_cons_eraseIdx_perm hn
      rwa [hget] at hcons
    refine List.Perm.trans ?_ h
    simp only [hw, Option.toList_some, List.map_append, List.map_cons, List.map_nil, hcontent,
      List.append_assoc, List.singleton_append]
    exact hperm.append_left _
  · exact h

/-- Nothing is written that was not written before or under way. -/
theorem mem_written_deliver {n : Nat} {write : M → Option W} {w : W}
    (hw : w ∈ (o.deliver n write).written) :
    w ∈ o.written ∨ ∃ m ∈ o.pending, write m = some w := by
  unfold deliver at hw
  split at hw
  · rename_i m hm
    rcases List.mem_append.1 hw with hw | hw
    · exact .inl hw
    · exact .inr ⟨m, List.mem_of_getElem? hm, Option.mem_toList.1 hw⟩
  · exact .inl hw

end Outbox

/-! ### What a run sends -/

section Sent

variable {R S : Type} (step : R → S → S) (emit : R → S → List M)

/-- What the requests of a run send, each in the state it finds. -/
def sent : List R → S → List M
  | [], _ => []
  | r :: rs, s => emit r s ++ sent rs (step r s)

variable {step emit} {s : S} {rs : List R}

/-- What two runs send, one after the other. -/
theorem sent_append (rs' : List R) :
    sent step emit (rs ++ rs') s = sent step emit rs s ++ sent step emit rs' (run step rs s) := by
  induction rs generalizing s with
  | nil => rfl
  | cons r rs ih =>
    have htail := ih (s := step r s)
    simp only [List.cons_append, sent, htail, List.append_assoc]
    rfl

/-- What the last step sends comes last. -/
theorem sent_concat (r : R) :
    sent step emit (rs ++ [r]) s = sent step emit rs s ++ emit r (run step rs s) := by
  rw [sent_append]
  simp [sent]

/-- A table to which each step appends its rows has, after a run, the rows of all of them. -/
theorem run_eq_append_sent {I : S → Prop} {F : S → List M}
    (hI : ∀ r s, I s → I (step r s)) (happend : ∀ r s, I s → F (step r s) = F s ++ emit r s)
    (hs : I s) : F (run step rs s) = F s ++ sent step emit rs s := by
  induction rs generalizing s with
  | nil => exact (List.append_nil _).symm
  | cons r rs ih =>
    have hrun : run step (r :: rs) s = run step rs (step r s) := rfl
    rw [hrun, ih (hI r s hs), happend r s hs, sent, List.append_assoc]

/-- What the steps add to a figure, they add over a run. -/
theorem run_eq_add_sent {A : Type} [AddCommMonoid A] {F : S → A} {g : M → A}
    (hstep : ∀ r s, F (step r s) = F s + ((emit r s).map g).sum) :
    F (run step rs s) = F s + ((sent step emit rs s).map g).sum := by
  induction rs generalizing s with
  | nil => exact (add_zero _).symm
  | cons r rs ih =>
    have hrun : run step (r :: rs) s = run step rs (step r s) := rfl
    rw [hrun, ih, hstep, sent, List.map_append, List.sum_append, add_assoc]

/-- What corresponds step by step corresponds over a run. -/
theorem forall₂_sent {N : Type} {emit' : R → S → List N} {Q : M → N → Prop}
    (h : ∀ r s, List.Forall₂ Q (emit r s) (emit' r s)) :
    List.Forall₂ Q (sent step emit rs s) (sent step emit' rs s) := by
  induction rs generalizing s with
  | nil => exact .nil
  | cons r rs ih => exact List.rel_append (h r s) ih

end Sent
end Store
