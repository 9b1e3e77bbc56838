/-
# Completion handlers that answer at most once

An asynchronous call leaves behind what its completion handler captured.  The answers come
in any order, each call is answered at most once, and some are never answered.

`Callbacks α` keeps one slot per call, in the order the calls were made.  A slot holds the
captured value until its answer arrives and is empty afterwards, so the number of a call
stays its name for the whole run.
-/
import Mathlib.Tactic.Common

namespace Reactive

/-- The calls made so far; `none` marks one that was answered. -/
structure Callbacks (α : Type) where
  slots : List (Option α)
  deriving Repr, DecidableEq

namespace Callbacks

variable {α : Type}

/-- No call was made yet. -/
def empty : Callbacks α := ⟨[]⟩

/-- How many calls were made, answered or not. -/
def issued (c : Callbacks α) : Nat := c.slots.length

/-- What call `i` captured, while it waits for its answer. -/
def waiting (c : Callbacks α) (i : Nat) : Option α := (c.slots[i]?).join

/-- Make one more call. -/
def issue (c : Callbacks α) (a : α) : Callbacks α := ⟨c.slots ++ [some a]⟩

/-- The answer to call `i` arrived. -/
def retire (c : Callbacks α) (i : Nat) : Callbacks α := ⟨c.slots.set i none⟩

@[simp] theorem waiting_empty (i : Nat) : (empty : Callbacks α).waiting i = none := by
  simp [empty, waiting]

@[simp] theorem issued_empty : (empty : Callbacks α).issued = 0 := rfl

@[simp] theorem issued_issue (c : Callbacks α) (a : α) :
    (c.issue a).issued = c.issued + 1 := by
  simp [issued, issue]

@[simp] theorem issued_retire (c : Callbacks α) (i : Nat) :
    (c.retire i).issued = c.issued := by
  simp [issued, retire]

/-- Only calls that were made can wait. -/
theorem lt_issued_of_waiting {c : Callbacks α} {i : Nat} {a : α}
    (h : c.waiting i = some a) : i < c.issued := by
  by_contra hi
  have hnone : c.slots[i]? = none := List.getElem?_eq_none (Nat.le_of_not_lt hi)
  simp [waiting, hnone] at h

/-- The new call waits under the next number; the others are untouched. -/
theorem waiting_issue (c : Callbacks α) (a : α) (i : Nat) :
    (c.issue a).waiting i = if i = c.issued then some a else c.waiting i := by
  by_cases hi : i = c.issued
  · subst hi
    simp [waiting, issue, issued]
  · rw [if_neg hi]
    rcases Nat.lt_or_gt_of_ne hi with hlt | hgt
    · simp only [waiting, issue]
      rw [List.getElem?_append_left hlt]
    · have hlen : c.slots.length < i := hgt
      have h₁ : (c.slots ++ [some a])[i]? = none := by
        apply List.getElem?_eq_none
        simp only [List.length_append, List.length_singleton]
        omega
      have h₂ : c.slots[i]? = none := List.getElem?_eq_none (by omega)
      simp only [waiting, issue, h₁, h₂]

/-- An answered call waits no more; the others are untouched. -/
theorem waiting_retire (c : Callbacks α) (i j : Nat) :
    (c.retire i).waiting j = if i = j then none else c.waiting j := by
  by_cases hij : i = j
  · subst hij
    rw [if_pos rfl]
    simp only [waiting, retire, List.getElem?_set_self']
    cases c.slots[i]? with
    | none => simp
    | some o => simp
  · rw [if_neg hij]
    simp only [waiting, retire]
    rw [List.getElem?_set_ne hij]

/-- `All P c`: whatever call `i` captured satisfies `P i` for as long as it waits. -/
def All (P : Nat → α → Prop) (c : Callbacks α) : Prop :=
  ∀ i a, c.waiting i = some a → P i a

theorem All.empty (P : Nat → α → Prop) : All P (Callbacks.empty : Callbacks α) := by
  intro i a h
  simp at h

theorem All.mono {P Q : Nat → α → Prop} {c : Callbacks α} (h : All P c)
    (hPQ : ∀ i a, c.waiting i = some a → P i a → Q i a) : All Q c :=
  fun i a hi => hPQ i a hi (h i a hi)

/-- A new call needs the property for what it captures. -/
theorem All.issue {P : Nat → α → Prop} {c : Callbacks α} {a : α} (h : All P c)
    (ha : P c.issued a) : All P (c.issue a) := by
  intro i b hb
  rw [waiting_issue] at hb
  split at hb
  · rename_i hi
    obtain rfl : a = b := by simpa using hb
    exact hi ▸ ha
  · exact h i b hb

/-- An answer takes nothing away from the calls that still wait. -/
theorem All.retire {P : Nat → α → Prop} {c : Callbacks α} (h : All P c) (i : Nat) :
    All P (c.retire i) := by
  intro j a hj
  rw [waiting_retire] at hj
  split at hj
  · exact absurd hj (by simp)
  · exact h j a hj

end Callbacks

end Reactive
