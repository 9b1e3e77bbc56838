/-
# Removing from two parallel arrays inside a loop over the first one

`for (i, x) in xs.enumerated()` walks over a copy of `xs` taken when the loop starts.  A body
that removes index `i` from `xs` itself, and from an array that runs parallel to it, is
right only until its first removal: from then on `i` counts positions of the copy, and the
arrays are one shorter.

`eraseEnumerated` is that loop.  `eraseEnumerated_of_atMostOne` says when it does what it looks
like: with at most one match in the array, it ends without a fault, the first array has lost
exactly the match, and the second what belongs to it.  With more of them it never does: if it
ends, one of them is left (`atMostOne_of_eraseEnumerated`).
-/
import Mathlib.Data.List.Forall2
import Mathlib.Tactic.Common

namespace Reactive

variable {α β τ : Type}

/-- The loop: the copy still to be walked, the index of its head, and the two arrays. -/
def eraseEnumerated (p : α → Bool) (fault : τ) :
    List α → Nat → List α → List β → Except τ (List α × List β)
  | [], _, xs, ys => .ok (xs, ys)
  | x :: copy, i, xs, ys =>
    if p x then
      if i < ys.length ∧ i < xs.length then
        eraseEnumerated p fault copy (i + 1) (xs.eraseIdx i) (ys.eraseIdx i)
      else .error fault
    else eraseEnumerated p fault copy (i + 1) xs ys

/-- No two entries of the array match. -/
def AtMostOne (p : α → Bool) (xs : List α) : Prop :=
  xs.Pairwise fun a b => ¬(p a = true ∧ p b = true)

/-- What is not matched any more is walked over. -/
theorem eraseEnumerated_of_forall_not {p : α → Bool} {fault : τ} {copy : List α} (i : Nat)
    (xs : List α) (ys : List β) (h : ∀ x ∈ copy, p x = false) :
    eraseEnumerated p fault copy i xs ys = .ok (xs, ys) := by
  induction copy generalizing i with
  | nil => simp [eraseEnumerated]
  | cons x copy ih =>
    have hx : p x = false := h x (by simp)
    have hcopy : ∀ y ∈ copy, p y = false := fun y hy => h y (by simp [hy])
    simp only [eraseEnumerated, hx]
    exact ih (i + 1) hcopy

/-- The loop has one fault. -/
theorem eq_of_eraseEnumerated_eq_error {p : α → Bool} {fault t : τ} {copy : List α} {i : Nat}
    {xs : List α} {ys : List β} (h : eraseEnumerated p fault copy i xs ys = .error t) :
    t = fault := by
  induction copy generalizing i xs ys with
  | nil => exact absurd h (by simp [eraseEnumerated])
  | cons x copy ih =>
    simp only [eraseEnumerated] at h
    split at h
    · split at h
      · exact ih h
      · exact (Except.error.inj h).symm
    · exact ih h

/-- Filtering keeps a list none of whose entries match. -/
theorem filter_not_eq_self {p : α → Bool} {xs : List α} (h : ∀ x ∈ xs, p x = false) :
    xs.filter (fun x => !p x) = xs := by
  rw [List.filter_eq_self]
  intro x hx
  simp [h x hx]

/-- What of the second array belongs to the entries that are kept. -/
def keptBeside (p : α → Bool) (xs : List α) (ys : List β) : List β :=
  ((xs.zip ys).filter fun z => !p z.1).map Prod.snd

/-- What runs parallel to an array runs parallel to what is kept of it. -/
theorem forall₂_keptBeside {R : α → β → Prop} {p : α → Bool} {xs : List α} {ys : List β}
    (hR : List.Forall₂ R xs ys) :
    List.Forall₂ R (xs.filter fun x => !p x) (keptBeside p xs ys) := by
  induction hR with
  | nil => exact .nil
  | @cons x y xs ys hxy _ ih =>
    cases hp : p x with
    | true => simpa [keptBeside, hp] using ih
    | false => simpa [keptBeside, hp] using List.Forall₂.cons hxy ih

/-- What is kept of the two arrays are the pairs whose entry is kept. -/
theorem filter_eq_map_fst {p : α → Bool} {xs : List α} {ys : List β}
    (hlen : xs.length = ys.length) :
    xs.filter (fun x => !p x) = ((xs.zip ys).filter fun z => !p z.1).map Prod.fst := by
  have hfst : (xs.zip ys).map Prod.fst = xs := List.map_fst_zip (Nat.le_of_eq hlen)
  calc xs.filter (fun x => !p x)
      = ((xs.zip ys).map Prod.fst).filter (fun x => !p x) := by rw [hfst]
    _ = ((xs.zip ys).filter fun z => !p z.1).map Prod.fst := by
        rw [List.filter_map]
        rfl

theorem zip_keptBeside {p : α → Bool} {xs : List α} {ys : List β} (hlen : xs.length = ys.length) :
    (xs.filter fun x => !p x).zip (keptBeside p xs ys) = (xs.zip ys).filter fun z => !p z.1 := by
  have hzip := List.zip_unzip ((xs.zip ys).filter fun z => !p z.1)
  rw [List.unzip_eq_map] at hzip
  rw [filter_eq_map_fst hlen, keptBeside]
  exact hzip

theorem length_keptBeside {p : α → Bool} {xs : List α} {ys : List β}
    (hlen : xs.length = ys.length) :
    (xs.filter fun x => !p x).length = (keptBeside p xs ys).length := by
  rw [filter_eq_map_fst hlen, keptBeside, List.length_map, List.length_map]

/-- With nothing matched, all of it does. -/
theorem keptBeside_of_forall_not {p : α → Bool} {xs : List α} {ys : List β}
    (hlen : xs.length = ys.length) (h : ∀ x ∈ xs, p x = false) : keptBeside p xs ys = ys := by
  have hkept : (xs.zip ys).filter (fun z => !p z.1) = xs.zip ys := by
    rw [List.filter_eq_self]
    intro z hz
    simp [h z.1 (List.of_mem_zip hz).1]
  rw [keptBeside, hkept]
  exact List.map_snd_zip (Nat.le_of_eq hlen.symm)

/-- The loop in the middle of its walk: the part before index `pre.length` did not match. -/
theorem eraseEnumerated_middle {p : α → Bool} (fault : τ) {copy : List α} :
    ∀ {rest : List β} {pre : List α} {before : List β}, copy.length = rest.length →
      pre.length = before.length → AtMostOne p copy →
        eraseEnumerated p fault copy pre.length (pre ++ copy) (before ++ rest) =
          .ok (pre ++ copy.filter (fun x => !p x), before ++ keptBeside p copy rest) := by
  induction copy with
  | nil =>
    intro rest pre before hlen _ _
    obtain rfl : rest = [] := List.eq_nil_of_length_eq_zero hlen.symm
    simp [eraseEnumerated, keptBeside]
  | cons x copy ih =>
    intro rest pre before hlen hpre hone
    obtain ⟨hx, hone'⟩ := List.pairwise_cons.mp hone
    cases rest with
    | nil => exact absurd hlen (by simp)
    | cons y rest =>
      have hlen' : copy.length = rest.length := by simpa using hlen
      cases hp : p x with
      | true =>
        have hnone : ∀ z ∈ copy, p z = false := by
          intro z hz
          simpa [hp] using hx z hz
        have hxs : (pre ++ x :: copy).eraseIdx pre.length = pre ++ copy := by
          rw [List.eraseIdx_append_of_length_le (Nat.le_refl _)]
          simp
        have hys : (before ++ y :: rest).eraseIdx pre.length = before ++ rest := by
          rw [hpre, List.eraseIdx_append_of_length_le (Nat.le_refl _)]
          simp
        have hin : pre.length < (before ++ y :: rest).length ∧
            pre.length < (pre ++ x :: copy).length := by
          simp only [List.length_append, List.length_cons]
          omega
        have hkept : keptBeside p (x :: copy) (y :: rest) = rest := by
          simpa [keptBeside, hp] using keptBeside_of_forall_not hlen' hnone
        rw [eraseEnumerated, if_pos hp, if_pos hin, hxs, hys, hkept,
          eraseEnumerated_of_forall_not _ _ _ hnone]
        simp [hp, filter_not_eq_self hnone]
      | false =>
        have hpre' : (pre ++ [x]).length = (before ++ [y]).length := by simp [hpre]
        have hloop := ih hlen' hpre' hone'
        have hkept : keptBeside p (x :: copy) (y :: rest) = y :: keptBeside p copy rest := by
          simp [keptBeside, hp]
        rw [eraseEnumerated, if_neg (by simp [hp]), hkept]
        simpa [hp] using hloop

/-- **With at most one match, the loop removes it and nothing else.**  No index is out of range, and
the second array loses what belongs to the match. -/
theorem eraseEnumerated_of_atMostOne {p : α → Bool} (fault : τ) {xs : List α} {ys : List β}
    (hlen : xs.length = ys.length) (hone : AtMostOne p xs) :
    eraseEnumerated p fault xs 0 xs ys =
      .ok (xs.filter (fun x => !p x), keptBeside p xs ys) := by
  have hmiddle := @eraseEnumerated_middle α β τ p fault xs ys [] [] hlen rfl hone
  simpa using hmiddle

/-- So the two arrays stay parallel. -/
theorem eraseEnumerated_eq {R : α → β → Prop} {p : α → Bool} (fault : τ) {xs : List α}
    {ys : List β} (hR : List.Forall₂ R xs ys) (hone : AtMostOne p xs) :
    ∃ ys', eraseEnumerated p fault xs 0 xs ys = .ok (xs.filter (fun x => !p x), ys')
      ∧ List.Forall₂ R (xs.filter fun x => !p x) ys' :=
  ⟨_, eraseEnumerated_of_atMostOne fault hR.length_eq hone, forall₂_keptBeside hR⟩

/-- Among entries with distinct names, at most one bears a given name. -/
theorem atMostOne_of_nodup {κ : Type} [DecidableEq κ] {name : α → κ} {xs : List α}
    (h : (xs.map name).Nodup) (k : κ) : AtMostOne (fun x => name x == k) xs := by
  have hpair : xs.Pairwise fun a b => name a ≠ name b := List.pairwise_map.mp h
  refine hpair.imp ?_
  rintro a b hab ⟨ha, hb⟩
  have hak : name a = k := by simpa using ha
  have hbk : name b = k := by simpa using hb
  exact hab (hak.trans hbk.symm)

/-- A filter that finds one entry at most. -/
theorem atMostOne_of_length_filter {p : α → Bool} {xs : List α} (h : (xs.filter p).length ≤ 1) :
    AtMostOne p xs := by
  induction xs with
  | nil => exact .nil
  | cons x xs ih =>
    cases hp : p x with
    | false =>
      rw [List.filter_cons_of_neg (by simp [hp])] at h
      refine .cons (fun y _ hboth => ?_) (ih h)
      exact absurd (hp.symm.trans hboth.1) (by simp)
    | true =>
      rw [List.filter_cons_of_pos hp, List.length_cons] at h
      have hnone : xs.filter p = [] := List.eq_nil_of_length_eq_zero (by omega)
      refine .cons (fun y hy hboth => ?_) (ih (by omega))
      exact List.filter_eq_nil_iff.mp hnone y hy hboth.2

theorem atMostOne_iff_countP {p : α → Bool} {xs : List α} :
    AtMostOne p xs ↔ xs.countP p ≤ 1 := by
  rw [List.countP_eq_length_filter]
  refine ⟨fun hone => ?_, atMostOne_of_length_filter⟩
  induction hone with
  | nil => simp
  | @cons x xs hx _ ih =>
    cases hp : p x with
    | false => simpa [hp] using ih
    | true =>
      have hnone : xs.filter p = [] := by
        rw [List.filter_eq_nil_iff]
        exact fun y hy hpy => hx y hy ⟨hp, hpy⟩
      simp [hp, hnone]

/-! ## What can be said of any end of the loop -/

/-- Nothing is added. -/
theorem subset_of_eraseEnumerated {p : α → Bool} {fault : τ} {copy : List α} {i : Nat}
    {xs xs' : List α} {ys ys' : List β}
    (h : eraseEnumerated p fault copy i xs ys = .ok (xs', ys')) : xs' ⊆ xs := by
  induction copy generalizing i xs ys with
  | nil =>
    obtain ⟨rfl, _⟩ : xs = xs' ∧ _ := by simpa [eraseEnumerated] using h
    exact List.Subset.refl xs
  | cons x copy ih =>
    unfold eraseEnumerated at h
    split at h
    · split at h
      · intro z hz
        exact List.mem_of_mem_eraseIdx (ih h hz)
      · exact absurd h (by simp)
    · exact ih h

/-- Both arrays lose one entry at a time. -/
theorem length_of_eraseEnumerated {p : α → Bool} {fault : τ} {copy : List α} {i : Nat}
    {xs xs' : List α} {ys ys' : List β}
    (h : eraseEnumerated p fault copy i xs ys = .ok (xs', ys')) (hlen : xs.length = ys.length) :
    xs'.length = ys'.length := by
  induction copy generalizing i xs ys with
  | nil =>
    obtain ⟨rfl, rfl⟩ : xs = xs' ∧ ys = ys' := by simpa [eraseEnumerated] using h
    exact hlen
  | cons x copy ih =>
    unfold eraseEnumerated at h
    split at h
    · split at h
      · rename_i hin
        refine ih h ?_
        rw [List.length_eraseIdx_of_lt hin.2, List.length_eraseIdx_of_lt hin.1, hlen]
      · exact absurd h (by simp)
    · exact ih h hlen

/-- With at most one match, what is left of the first array does not match. -/
theorem eq_filter_of_eraseEnumerated {p : α → Bool} {fault : τ} {copy pre xs' : List α}
    {ys ys' : List β} (hone : AtMostOne p copy)
    (h : eraseEnumerated p fault copy pre.length (pre ++ copy) ys = .ok (xs', ys')) :
    xs' = pre ++ copy.filter fun x => !p x := by
  induction copy generalizing pre ys with
  | nil =>
    obtain ⟨rfl, _⟩ : pre = xs' ∧ ys = ys' := by simpa [eraseEnumerated] using h
    simp
  | cons x copy ih =>
    obtain ⟨hx, hone'⟩ := List.pairwise_cons.mp hone
    unfold eraseEnumerated at h
    split at h
    · rename_i hp
      have hnone : ∀ z ∈ copy, p z = false := fun z hz => by
        simpa [hp] using hx z hz
      split at h
      · rw [List.eraseIdx_append_of_length_le (Nat.le_refl _), Nat.sub_self,
          eraseEnumerated_of_forall_not _ _ _ hnone] at h
        obtain ⟨rfl, _⟩ := Prod.mk.inj (Except.ok.inj h)
        simp [hp, filter_not_eq_self hnone]
      · exact absurd h (by simp)
    · rename_i hp
      have hlen : (pre ++ [x]).length = pre.length + 1 := by simp
      have hcopy : pre ++ x :: copy = (pre ++ [x]) ++ copy := by simp
      rw [hcopy, ← hlen] at h
      rw [ih hone' h]
      simp [hp]

/-- What stands before the index that is walked over stays. -/
theorem getElem?_of_eraseEnumerated {p : α → Bool} {fault : τ} {k : Nat} {copy : List α} {i : Nat}
    {xs xs' : List α} {ys ys' : List β}
    (h : eraseEnumerated p fault copy i xs ys = .ok (xs', ys')) (hk : k < i) :
    xs'[k]? = xs[k]? := by
  induction copy generalizing i xs ys with
  | nil =>
    obtain ⟨rfl, _⟩ : xs = xs' ∧ ys = ys' := by simpa [eraseEnumerated] using h
    rfl
  | cons x copy ih =>
    unfold eraseEnumerated at h
    split at h
    · split at h
      · rw [ih h (by omega), List.getElem?_eraseIdx_of_lt hk]
      · exact absurd h (by simp)
    · exact ih h (by omega)

/-- Once the index is ahead of the array by one, a match is walked past and stays. -/
theorem exists_mem_of_eraseEnumerated {p : α → Bool} {fault : τ} {copy pre xs' : List α}
    {ys ys' : List β}
    (h : eraseEnumerated p fault copy (pre.length + 1) (pre ++ copy) ys = .ok (xs', ys'))
    (x : α) (hx : x ∈ copy) (hp : p x = true) : ∃ z ∈ xs', p z = true := by
  induction copy generalizing pre ys with
  | nil => exact absurd hx (by simp)
  | cons y copy ih =>
    unfold eraseEnumerated at h
    split at h
    · rename_i hy
      split at h
      · have hstays := getElem?_of_eraseEnumerated (k := pre.length) h (by omega)
        rw [List.getElem?_eraseIdx_of_lt (by omega), List.getElem?_append_right (by omega),
          Nat.sub_self] at hstays
        exact ⟨y, List.mem_of_getElem? hstays, hy⟩
      · exact absurd h (by simp)
    · rename_i hy
      have hcopy : pre ++ y :: copy = (pre ++ [y]) ++ copy := by simp
      have hlen : pre.length + 1 = (pre ++ [y]).length := by simp
      rw [hcopy, hlen] at h
      rcases List.mem_cons.mp hx with rfl | hx
      · exact absurd hp hy
      · exact ih h hx

/-- **With two matches or more, one is left**, if the loop ends at all. -/
theorem atMostOne_of_eraseEnumerated {p : α → Bool} {fault : τ} {copy pre xs' : List α}
    {ys ys' : List β}
    (h : eraseEnumerated p fault copy pre.length (pre ++ copy) ys = .ok (xs', ys'))
    (hnone : ∀ z ∈ xs', p z = false) : AtMostOne p copy := by
  induction copy generalizing pre ys with
  | nil => exact .nil
  | cons x copy ih =>
    unfold eraseEnumerated at h
    split at h
    · split at h
      · rw [List.eraseIdx_append_of_length_le (Nat.le_refl _), Nat.sub_self] at h
        have hrest : ∀ y ∈ copy, p y = false := by
          intro y hy
          by_contra hp
          obtain ⟨z, hz, hpz⟩ := exists_mem_of_eraseEnumerated h y hy (by simpa using hp)
          exact absurd hpz (by simp [hnone z hz])
        refine .cons (fun y hy hboth => ?_) (List.pairwise_of_forall_mem_list fun y hy _ _ hboth => ?_)
        · exact absurd hboth.2 (by simp [hrest y hy])
        · exact absurd hboth.1 (by simp [hrest y hy])
      · exact absurd h (by simp)
    · rename_i hx
      have hcopy : pre ++ x :: copy = (pre ++ [x]) ++ copy := by simp
      have hlen : pre.length + 1 = (pre ++ [x]).length := by simp
      rw [hcopy, hlen] at h
      refine .cons (fun y _ hboth => absurd hboth.1 hx) (ih h)

/-- **When the loop ends.**  An entry that matches at an index of the copy is removed in vain only
if the arrays, which have lost an entry for every match before it, are that short. -/
theorem eraseEnumerated_isOk_iff {p : α → Bool} {fault : τ} {copy : List α} {i : Nat}
    {xs : List α} {ys : List β} : (∃ r, eraseEnumerated p fault copy i xs ys = .ok r) ↔
      ∀ (n : Nat) (x : α), copy[n]? = some x → p x = true →
        i + n + (copy.take n).countP p < xs.length ∧
          i + n + (copy.take n).countP p < ys.length := by
  induction copy generalizing i xs ys with
  | nil => simp [eraseEnumerated]
  | cons x copy ih =>
    have hhead : ∀ n, ((x :: copy).take (n + 1)).countP p =
        (copy.take n).countP p + if p x then 1 else 0 := by
      intro n
      rw [List.take_succ_cons, List.countP_cons]
    rw [eraseEnumerated]
    cases hp : p x with
    | false =>
      rw [if_neg (by simp), ih]
      constructor
      · intro h n y hy hpy
        cases n with
        | zero =>
          obtain rfl : x = y := by simpa using hy
          exact absurd hpy (by simp [hp])
        | succ n =>
          have hbounds := h n y (by simpa using hy) hpy
          have hcount := hhead n
          rw [hp, if_neg (by simp)] at hcount
          omega
      · intro h n y hy hpy
        have hbounds := h (n + 1) y (by simpa using hy) hpy
        have hcount := hhead n
        rw [hp, if_neg (by simp)] at hcount
        omega
    | true =>
      rw [if_pos rfl]
      constructor
      · rintro ⟨r, h⟩ n y hy hpy
        split at h
        · rename_i hin
          have hrest := ih.mp ⟨r, h⟩
          rw [List.length_eraseIdx_of_lt hin.2, List.length_eraseIdx_of_lt hin.1] at hrest
          cases n with
          | zero =>
            simp only [List.take_zero, List.countP_nil]
            omega
          | succ n =>
            have hbounds := hrest n y (by simpa using hy) hpy
            have hcount := hhead n
            rw [hp, if_pos rfl] at hcount
            omega
        · exact absurd h (by simp)
      · intro h
        have hin := h 0 x rfl hp
        simp only [List.take_zero, List.countP_nil] at hin
        rw [if_pos (by omega)]
        refine ih.mpr ?_
        rw [List.length_eraseIdx_of_lt (by omega), List.length_eraseIdx_of_lt (by omega)]
        intro n y hy hpy
        have hbounds := h (n + 1) y (by simpa using hy) hpy
        have hcount := hhead n
        rw [hp, if_pos rfl] at hcount
        omega

/-! ## Without the bound, the loop removes a bystander -/

/-- Two matches in a row: the second removal takes the entry after them instead. -/
example : eraseEnumerated (fun x => x == 1) () [1, 1, 2] 0 [1, 1, 2] [10, 11, 20]
    = .ok ([1], [11]) := by decide

end Reactive
