/-
# Input that comes in pieces

A program reads one item after the other off the front of its input.  The input comes in pieces, and
where a piece ends has nothing to do with where an item does.  What is no item yet is kept until
there is more.

A `Reader` looks at the front of the input and says what to do; `pump` asks it for as long as it
takes something off, and `feed` goes through the pieces.  A `Lawful` reader does not change its mind
when there is more behind what it has looked at.  Then the pieces do not matter:

* `feed_eq_pump`: what comes of the pieces is what comes of all of the input at once;
* `Chain.pump`: items that are read one by one are read one after the other;
* `pump_alike`: what a reader does not look at makes no difference in the end.
-/
import Mathlib.Tactic.Common

namespace Streaming

variable {σ α τ ι : Type}

/-! ## 1. Readers -/

/-- What a reader makes of the front of its input. -/
inductive Reading (σ τ : Type) where
  /-- There is too little of it, and it is kept. -/
  | wait (s : σ)
  /-- The first `n` symbols are taken off. -/
  | take (s : σ) (n : Nat)
  /-- All of it is thrown away. -/
  | stop (s : σ)
  | fail (f : τ)
  deriving Repr, DecidableEq

/-- What a reading leaves behind is of this kind. -/
def Reading.All (p : σ → Prop) : Reading σ τ → Prop
  | .wait s => p s
  | .take s _ => p s
  | .stop s => p s
  | .fail _ => True

theorem Reading.All.imp {p q : σ → Prop} {r : Reading σ τ} (h : r.All p) (hpq : ∀ s, p s → q s) :
    r.All q := by
  cases r with
  | wait s => exact hpq s h
  | take s n => exact hpq s h
  | stop s => exact hpq s h
  | fail f => trivial

abbrev Reader (σ α τ : Type) := σ → List α → Reading σ τ

/-- What is left when the reader takes nothing more off. -/
inductive Pumped (σ α τ : Type) where
  | waiting (s : σ) (kept : List α)
  | stopped (s : σ)
  | failed (f : τ)
  deriving Repr, DecidableEq

namespace Reader

/-- At most `fuel` readings. -/
def pumpFor (R : Reader σ α τ) : Nat → σ → List α → Pumped σ α τ
  | 0, s, xs => .waiting s xs
  | fuel + 1, s, xs =>
    match R s xs with
    | .wait t => .waiting t xs
    | .take t n => R.pumpFor fuel t (xs.drop n)
    | .stop t => .stopped t
    | .fail f => .failed f

/-- A reading takes something off, so there are no more readings than symbols. -/
def pump (R : Reader σ α τ) (s : σ) (xs : List α) : Pumped σ α τ := R.pumpFor (xs.length + 1) s xs

/-- Piece after piece, each behind what was kept. -/
def feed (R : Reader σ α τ) : σ → List α → List (List α) → Pumped σ α τ
  | s, kept, [] => .waiting s kept
  | s, kept, c :: cs =>
    match R.pump s (kept ++ c) with
    | .waiting t kept' => R.feed t kept' cs
    | .stopped t => .stopped t
    | .failed f => .failed f

/-- What lies behind the symbols a reading has looked at makes no difference to it. -/
structure Lawful (R : Reader σ α τ) : Prop where
  take_pos : ∀ {s t xs n}, R s xs = .take t n → 0 < n ∧ n ≤ xs.length
  take_append : ∀ {s t xs n} ys, R s xs = .take t n → R s (xs ++ ys) = .take t n
  stop_append : ∀ {s t xs} ys, R s xs = .stop t → R s (xs ++ ys) = .stop t
  fail_append : ∀ {s f xs} ys, R s xs = .fail f → R s (xs ++ ys) = .fail f
  /-- The reader may have noted something, which it would have noted anyway. -/
  wait_append : ∀ {s t xs} ys, R s xs = .wait t → R t (xs ++ ys) = R s (xs ++ ys)

variable {R : Reader σ α τ} {s t : σ} {xs ys kept : List α}

/-! ## 2. One reading after the other -/

/-- More fuel than symbols makes no difference. -/
theorem pumpFor_eq (hR : R.Lawful) {m n : Nat} (hm : xs.length < m) (hn : xs.length < n) :
    R.pumpFor m s xs = R.pumpFor n s xs := by
  induction m generalizing n s xs with
  | zero => omega
  | succ m ih =>
    obtain ⟨n, rfl⟩ : ∃ k, n = k + 1 := ⟨n - 1, by omega⟩
    simp only [pumpFor]
    cases h : R s xs with
    | wait t => rfl
    | stop t => rfl
    | fail f => rfl
    | take t k =>
      obtain ⟨hpos, hle⟩ := hR.take_pos h
      have hlt : (xs.drop k).length < xs.length := by
        rw [List.length_drop]
        omega
      exact ih (by omega) (by omega)

theorem pump_of_wait (h : R s xs = .wait t) : R.pump s xs = .waiting t xs := by
  simp [pump, pumpFor, h]

theorem pump_of_stop (h : R s xs = .stop t) : R.pump s xs = .stopped t := by
  simp [pump, pumpFor, h]

theorem pump_of_fail {f : τ} (h : R s xs = .fail f) : R.pump s xs = .failed f := by
  simp [pump, pumpFor, h]

theorem pump_of_take (hR : R.Lawful) {n : Nat} (h : R s xs = .take t n) :
    R.pump s xs = R.pump t (xs.drop n) := by
  obtain ⟨hpos, hle⟩ := hR.take_pos h
  have hlt : (xs.drop n).length < xs.length := by
    rw [List.length_drop]
    omega
  simp only [pump, pumpFor, h]
  exact pumpFor_eq hR hlt (Nat.lt_succ_self _)

/-- The state matters to the first reading only. -/
theorem pump_congr (hR : R.Lawful) (h : R s xs = R t xs) : R.pump s xs = R.pump t xs := by
  cases hs : R s xs with
  | wait u => rw [pump_of_wait hs, pump_of_wait (h.symm.trans hs)]
  | take u n =>
    have ht : R t xs = .take u n := h.symm.trans hs
    rw [pump_of_take hR hs]
    exact (pump_of_take hR ht).symm
  | stop u => rw [pump_of_stop hs, pump_of_stop (h.symm.trans hs)]
  | fail f => rw [pump_of_fail hs, pump_of_fail (h.symm.trans hs)]

/-! ## 3. More input -/

/-- What is pumped first is pumped first. -/
theorem pump_append (hR : R.Lawful) (s : σ) (xs ys : List α) :
    R.pump s (xs ++ ys) =
      match R.pump s xs with
      | .waiting t kept => R.pump t (kept ++ ys)
      | .stopped t => .stopped t
      | .failed f => .failed f := by
  induction hlen : xs.length using Nat.strongRecOn generalizing s xs with
  | ind k ih =>
    subst hlen
    cases h : R s xs with
    | wait t =>
      rw [pump_of_wait h]
      exact pump_congr hR (hR.wait_append ys h).symm
    | stop t => rw [pump_of_stop h, pump_of_stop (hR.stop_append ys h)]
    | fail f => rw [pump_of_fail h, pump_of_fail (hR.fail_append ys h)]
    | take t n =>
      obtain ⟨hpos, hle⟩ := hR.take_pos h
      have hlt : (xs.drop n).length < xs.length := by
        rw [List.length_drop]
        omega
      rw [pump_of_take hR h, pump_of_take hR (hR.take_append ys h),
        List.drop_append_of_le_length hle]
      exact ih _ hlt t (xs.drop n) rfl

/-- What is kept is too little, and stays so. -/
theorem pump_kept (hR : R.Lawful) (h : R.pump s xs = .waiting t kept) :
    R.pump t kept = .waiting t kept := by
  have happend := pump_append hR s xs []
  rw [h] at happend
  simpa [h] using happend.symm

/-- **The pieces do not matter.** -/
theorem feed_eq_pump (hR : R.Lawful) (h : R.pump s kept = .waiting s kept) (cs : List (List α)) :
    R.feed s kept cs = R.pump s (kept ++ cs.flatten) := by
  induction cs generalizing s kept with
  | nil => simp [feed, h]
  | cons c cs ih =>
    simp only [feed, List.flatten_cons]
    rw [← List.append_assoc, pump_append hR s (kept ++ c)]
    cases hc : R.pump s (kept ++ c) with
    | waiting t kept' => exact ih (pump_kept hR hc)
    | stopped t => rfl
    | failed f => rfl

/-- Readings that take `xs` down to `ys`. -/
inductive Reaches (R : Reader σ α τ) : σ → List α → σ → List α → Prop
  | refl (s : σ) (xs : List α) : Reaches R s xs s xs
  | step {s t u : σ} {xs ys : List α} {n : Nat} (head : R s xs = .take t n)
      (tail : Reaches R t (xs.drop n) u ys) : Reaches R s xs u ys

theorem Reaches.pump {u : σ} (hR : R.Lawful) (h : R.Reaches s xs u ys) :
    R.pump s xs = R.pump u ys := by
  induction h with
  | refl s xs => rfl
  | step head _ ih => rw [pump_of_take hR head, ih]

/-- Whatever comes of the input comes of some rest of it. -/
theorem exists_reaches (hR : R.Lawful) (s : σ) (xs : List α) :
    ∃ u ys, R.Reaches s xs u ys ∧ ∀ t n, R u ys ≠ .take t n := by
  induction hlen : xs.length using Nat.strongRecOn generalizing s xs with
  | ind k ih =>
    subst hlen
    cases h : R s xs with
    | wait t => exact ⟨s, xs, .refl s xs, by simp [h]⟩
    | stop t => exact ⟨s, xs, .refl s xs, by simp [h]⟩
    | fail f => exact ⟨s, xs, .refl s xs, by simp [h]⟩
    | take t n =>
      obtain ⟨hpos, hle⟩ := hR.take_pos h
      have hlt : (xs.drop n).length < xs.length := by
        rw [List.length_drop]
        omega
      obtain ⟨u, ys, hreaches, hlast⟩ := ih _ hlt t (xs.drop n) rfl
      exact ⟨u, ys, .step h hreaches, hlast⟩

/-- What every reading keeps is kept. -/
theorem pump_keeps (hR : R.Lawful) {P : σ → Prop}
    (htake : ∀ {s t xs n}, P s → R s xs = .take t n → P t)
    (hwait : ∀ {s t xs}, P s → R s xs = .wait t → P t) (hs : P s)
    (h : R.pump s xs = .waiting t kept) : P t := by
  obtain ⟨u, ys, hreaches, hlast⟩ := exists_reaches hR s xs
  have hu : P u := by
    clear hlast h
    induction hreaches with
    | refl s xs => exact hs
    | step head _ ih => exact ih (htake hs head)
  rw [hreaches.pump hR] at h
  cases hreading : R u ys with
  | take v n => exact absurd hreading (hlast v n)
  | wait v =>
    obtain ⟨rfl, -⟩ := Pumped.waiting.inj ((pump_of_wait hreading).symm.trans h)
    exact hwait hu hreading
  | stop v => exact absurd ((pump_of_stop hreading).symm.trans h) (by simp)
  | fail f => exact absurd ((pump_of_fail hreading).symm.trans h) (by simp)

/-- **A failure comes from a reading that fails.** -/
theorem pump_eq_failed_iff (hR : R.Lawful) {f : τ} :
    R.pump s xs = .failed f ↔ ∃ t ys, R.Reaches s xs t ys ∧ R t ys = .fail f := by
  constructor
  · intro h
    obtain ⟨u, ys, hreaches, hlast⟩ := exists_reaches hR s xs
    refine ⟨u, ys, hreaches, ?_⟩
    rw [hreaches.pump hR] at h
    cases hu : R u ys with
    | wait t => exact absurd ((pump_of_wait hu).symm.trans h) (by simp)
    | stop t => exact absurd ((pump_of_stop hu).symm.trans h) (by simp)
    | take t n => exact absurd hu (hlast t n)
    | fail g =>
      obtain rfl : g = f := Pumped.failed.inj ((pump_of_fail hu).symm.trans h)
      rfl
  · rintro ⟨t, ys, hreaches, hfail⟩
    rw [hreaches.pump hR, pump_of_fail hfail]

/-! ## 4. Items -/

/-- The encodings of the items are read one by one, each as a whole. -/
inductive Chain (R : Reader σ α τ) (encode : ι → List α) : σ → List ι → σ → Prop
  | nil (s : σ) : Chain R encode s [] s
  | cons {s t u : σ} {i : ι} {is : List ι} (head : R s (encode i) = .take t (encode i).length)
      (tail : Chain R encode t is u) : Chain R encode s (i :: is) u

variable {encode : ι → List α} {is : List ι}

/-- **Items that are read one by one are read one after the other**, whatever follows. -/
theorem Chain.pump (hR : R.Lawful) (h : Chain R encode s is t) (ys : List α) :
    R.pump s (is.flatMap encode ++ ys) = R.pump t ys := by
  induction h with
  | nil s => rfl
  | @cons s t u i is head _ ih =>
    rw [List.flatMap_cons, List.append_assoc,
      pump_of_take hR (hR.take_append (is.flatMap encode ++ ys) head), List.drop_left, ih]

/-- A reader that takes an item off waits until it has come to the end of it. -/
theorem Lawful.wait_of_part (hR : R.Lawful) {n : Nat} (h : R s (xs ++ ys) = .take t n)
    (hlen : xs.length < n) : ∃ u, R s xs = .wait u := by
  cases hxs : R s xs with
  | wait u => exact ⟨u, rfl⟩
  | take u m =>
    obtain ⟨-, hle⟩ := hR.take_pos hxs
    obtain ⟨-, rfl⟩ := Reading.take.inj ((hR.take_append ys hxs).symm.trans h)
    omega
  | stop u => exact absurd ((hR.stop_append ys hxs).symm.trans h) (by simp)
  | fail f => exact absurd ((hR.fail_append ys hxs).symm.trans h) (by simp)

/-- Where some part of the input ends: between two items, or within one. -/
theorem exists_split {rest : List α} (h : xs ++ rest = is.flatMap encode) :
    ∃ before after part, is = before ++ after ∧ xs = before.flatMap encode ++ part ∧
      (part = [] ∨ ∃ i js later, after = i :: js ∧ encode i = part ++ later ∧ later ≠ []) := by
  induction is generalizing xs with
  | nil =>
    obtain ⟨rfl, -⟩ := List.append_eq_nil_iff.mp h
    exact ⟨[], [], [], rfl, rfl, .inl rfl⟩
  | cons i is ih =>
    rw [List.flatMap_cons] at h
    rcases List.append_eq_append_iff.mp h with ⟨later, hitem, -⟩ | ⟨xs', hxs, hrest⟩
    · cases later with
      | nil =>
        refine ⟨[i], is, [], rfl, ?_, .inl rfl⟩
        simpa using hitem.symm
      | cons l later =>
        exact ⟨[], i :: is, xs, rfl, rfl, .inr ⟨i, is, l :: later, rfl, hitem, by simp⟩⟩
    · obtain ⟨before, after, part, rfl, rfl, hpart⟩ := ih hrest.symm
      exact ⟨i :: before, after, part, rfl,
        by rw [hxs, List.flatMap_cons, List.append_assoc], hpart⟩

/-! ## 5. States that are read alike -/

variable {E : σ → σ → Prop}

/-- The same reading, of states that `E` relates and to such states. -/
inductive Alike (E : σ → σ → Prop) : Reading σ τ → Reading σ τ → Prop
  | wait {s t : σ} (states : E s t) : Alike E (.wait s) (.wait t)
  | take {s t : σ} (states : E s t) (n : Nat) : Alike E (.take s n) (.take t n)
  | stop {s t : σ} (states : E s t) : Alike E (.stop s) (.stop t)
  | fail (f : τ) : Alike E (.fail f) (.fail f)

/-- The same in the end. -/
inductive PumpedAlike (E : σ → σ → Prop) : Pumped σ α τ → Pumped σ α τ → Prop
  | waiting {s t : σ} (states : E s t) (kept : List α) :
      PumpedAlike E (.waiting s kept) (.waiting t kept)
  | stopped {s t : σ} (states : E s t) : PumpedAlike E (.stopped s) (.stopped t)
  | failed (f : τ) : PumpedAlike E (.failed f) (.failed f)

/-- **What is read alike is pumped alike.** -/
theorem pump_alike (hE : ∀ {s t} xs, E s t → Alike E (R s xs) (R t xs)) (h : E s t)
    (xs : List α) : PumpedAlike E (R.pump s xs) (R.pump t xs) := by
  unfold pump
  generalize xs.length + 1 = fuel
  induction fuel generalizing s t xs with
  | zero => exact .waiting h xs
  | succ fuel ih =>
    have hread := hE xs h
    simp only [pumpFor]
    generalize R s xs = left, R t xs = right at hread
    cases hread with
    | wait states => exact .waiting states xs
    | take states n => exact ih states (xs.drop n)
    | stop states => exact .stopped states
    | fail f => exact .failed f

end Reader

end Streaming
