/-
# The extra-equipment screen

`ExtraEquipmentViewController.swift`: `btnNextPressed` walks over the kit list, adds the
price of each kit with a chosen size to the charge on the application delegate, and stops
with an alert at the first kit whose size and quantity do not go together.  The price of a
kit is found by its position in the list, not by its name.

`nextLoop_total` says what an accepted press adds: the sum, over the kits with a chosen size,
of quantity times the price at that position.
-/
import WeatherAccommodation.ResponseObject

namespace WeatherAccommodation

open Foundation Reactive

namespace ExtraEquipment

/-! ## 1. The loop -/

def productPriceList : List String := ["9.99", "5", "5"]

/-- `arr.filter{$0.isSelected}.count > 0` -/
def hasSelectedSize (kit : ProductKit) : Bool := kit.sizes.any ProductSize.isSelected

/-- What the loop carries from kit to kit: the charge, the kits selected so far, and whether
this kit was added. -/
structure Round where
  charge : ℚ
  arrSelected : List ProductKit
  isAdded : Bool
  deriving Repr

/-- The first test of a kit, for a chosen size; the flag is false when an alert ended the
press. -/
def priceKit (index : Nat) (kit : ProductKit) (r : Round) : Except Trap (Round × Bool) :=
  if hasSelectedSize kit then
    if kit.quantity ≠ "" then do
      let quantity ← forceNumeral "Quantity" kit.quantity
      if quantity ≤ 0 then return (r, false)
      else if r.isAdded then return (r, true)
      else
        let quantity ← forceNumber "Quantity" kit.quantity
        let text ← unwrap .indexOutOfRange productPriceList[index]?
        let price ← forceNumber "productPriceList" text
        return ({
          charge := r.charge + quantity * price
          arrSelected := r.arrSelected ++ [kit]
          isAdded := true }, true)
    else return (r, false)
  else return (r, true)

/-- The second test, for a quantity. -/
def requireSize (kit : ProductKit) (r : Round) : Except Trap (Round × Bool) :=
  if kit.quantity ≠ "" then do
    let quantity ← forceNumeral "Quantity" kit.quantity
    if 0 < quantity then
      if !hasSelectedSize kit then return (r, false)
      else if r.isAdded then return (r, true)
      else return ({ r with arrSelected := r.arrSelected ++ [kit], isAdded := true }, true)
    else return (r, true)
  else return (r, true)

/-- The loop of `btnNextPressed`: the charge it leaves, and the selected kits unless an alert
ended it.  An alert does not take back what was already charged. -/
def nextLoop : List ProductKit → Nat → Round → Except Trap (ℚ × Option (List ProductKit))
  | [], _, r => .ok (r.charge, some r.arrSelected)
  | kit :: kits, index, r => do
    let (r, goOn) ← priceKit index kit { r with isAdded := false }
    if goOn then
      let (r, goOn) ← requireSize kit r
      if goOn then nextLoop kits (index + 1) r else return (r.charge, none)
    else return (r.charge, none)

/-- `btnNextPressed`, from the charge so far. -/
def btnNextPressed (productKitList : List ProductKit) (extraCharge : ℚ) :
    Except Trap (ℚ × Option (List ProductKit)) :=
  nextLoop productKitList 0 { charge := extraCharge, arrSelected := [], isAdded := false }

/-! ## 2. What an accepted press selects and charges -/

/-- The quantity of a kit in a completed loop; 0 unless a size is chosen. -/
def charged (kit : ProductKit) : Int :=
  if hasSelectedSize kit then (int? kit.quantity).getD 0 else 0

/-- The prices as rationals. -/
def price? (index : Nat) : Option ℚ := productPriceList[index]?.bind number?

/-- A kit that passes both tests was added, with its price, exactly if a size is chosen. -/
theorem round_inv {index : Nat} {kit : ProductKit} {r r₁ r₂ : Round}
    (h₁ : priceKit index kit { r with isAdded := false } = .ok (r₁, true))
    (h₂ : requireSize kit r₁ = .ok (r₂, true)) :
    (hasSelectedSize kit = false ∧ r₂.charge = r.charge ∧ r₂.arrSelected = r.arrSelected) ∨
    (hasSelectedSize kit = true ∧ ∃ n price, int? kit.quantity = some n ∧ 0 < n ∧
      price? index = some price ∧ r₂.charge = r.charge + n * price ∧
      r₂.arrSelected = r.arrSelected ++ [kit]) := by
  cases hsel : hasSelectedSize kit with
  | false =>
    left
    simp only [priceKit, hsel, Bool.false_eq_true, if_false, pure_eq_ok, Prod.mk.injEq,
      and_true] at h₁
    subst h₁
    simp only [requireSize, hsel] at h₂
    split at h₂
    · simp only [bind_eq_ok, forceNumeral_eq_ok] at h₂
      obtain ⟨n, _, h₂⟩ := h₂
      split at h₂
      · simp at h₂
      · simp only [pure_eq_ok, Prod.mk.injEq, and_true] at h₂
        subst h₂
        exact ⟨rfl, rfl, rfl⟩
    · simp only [pure_eq_ok, Prod.mk.injEq, and_true] at h₂
      subst h₂
      exact ⟨rfl, rfl, rfl⟩
  | true =>
    right
    simp only [priceKit, hsel, if_true] at h₁
    split at h₁
    · rename_i hne
      simp only [bind_eq_ok, forceNumeral_eq_ok] at h₁
      obtain ⟨n, hn, h₁⟩ := h₁
      split at h₁
      · simp at h₁
      · rename_i hpos
        simp only [Bool.false_eq_true, if_false, bind_eq_ok, forceNumber_eq_ok, unwrap_eq_ok,
          pure_eq_ok, Prod.mk.injEq, and_true] at h₁
        obtain ⟨q, hq, text, htext, price, hprice, rfl⟩ := h₁
        have hqn : (n : ℚ) = q := by simpa [number?_of_int? hn] using hq
        simp only [requireSize, hsel, if_pos hne, bind_eq_ok, forceNumeral_eq_ok] at h₂
        obtain ⟨n', hn', h₂⟩ := h₂
        obtain rfl : n = n' := by simpa [hn] using hn'
        rw [if_pos (by omega)] at h₂
        simp only [Bool.not_true, Bool.false_eq_true, if_false, if_true, pure_eq_ok,
          Prod.mk.injEq, and_true] at h₂
        subst h₂
        refine ⟨rfl, n, price, hn, by omega, ?_, ?_, rfl⟩
        · simp [price?, htext, hprice]
        · rw [hqn]
    · simp at h₁

/-- The loop step of an accepted press. -/
theorem nextLoop_cons_inv {kit : ProductKit} {kits selected : List ProductKit} {index : Nat}
    {r : Round} {charge : ℚ}
    (h : nextLoop (kit :: kits) index r = .ok (charge, some selected)) :
    ∃ r', nextLoop kits (index + 1) r' = .ok (charge, some selected) ∧
      ((hasSelectedSize kit = false ∧ r'.charge = r.charge ∧ r'.arrSelected = r.arrSelected) ∨
      (hasSelectedSize kit = true ∧ ∃ n price, int? kit.quantity = some n ∧ 0 < n ∧
        price? index = some price ∧ r'.charge = r.charge + n * price ∧
        r'.arrSelected = r.arrSelected ++ [kit])) := by
  simp only [nextLoop, bind_eq_ok, Prod.exists] at h
  obtain ⟨r₁, goOn₁, h₁, h⟩ := h
  cases goOn₁ with
  | false => simp at h
  | true =>
    simp only [if_true, bind_eq_ok, Prod.exists] at h
    obtain ⟨r₂, goOn₂, h₂, h⟩ := h
    cases goOn₂ with
    | false => simp at h
    | true => exact ⟨r₂, by simpa using h, round_inv h₁ h₂⟩

/-- The sum of the prices of the kits from position `index` on. -/
def total : List ProductKit → Nat → ℚ
  | [], _ => 0
  | kit :: kits, index => charged kit * (price? index).getD 0 + total kits (index + 1)

/-- **What an accepted press adds to the charge, and whom it selects.**  Every selected kit
has a positive quantity. -/
theorem nextLoop_total {kits selected : List ProductKit} {index : Nat} {r : Round} {charge : ℚ}
    (h : nextLoop kits index r = .ok (charge, some selected)) :
    charge = r.charge + total kits index ∧
      selected = r.arrSelected ++ kits.filter hasSelectedSize ∧
      ∀ kit ∈ kits, hasSelectedSize kit = true → ∃ n, int? kit.quantity = some n ∧ 0 < n := by
  induction kits generalizing index r with
  | nil =>
    simp only [nextLoop, Except.ok.injEq, Prod.mk.injEq, Option.some.injEq] at h
    obtain ⟨rfl, rfl⟩ := h
    simp [total]
  | cons kit kits ih =>
    obtain ⟨r', hrest, hround⟩ := nextLoop_cons_inv h
    obtain ⟨hcharge, hsel, hqty⟩ := ih hrest
    rcases hround with ⟨hno, hc, ha⟩ | ⟨hyes, n, price, hn, hpos, hprice, hc, ha⟩
    · refine ⟨?_, ?_, ?_⟩
      · rw [hcharge, hc, total, charged, if_neg (by simp [hno])]
        simp
      · rw [hsel, ha, List.filter_cons_of_neg (by simp [hno])]
      · intro k hk hks
        rcases List.mem_cons.mp hk with rfl | hk
        · rw [hno] at hks
          exact absurd hks (by simp)
        · exact hqty k hk hks
    · refine ⟨?_, ?_, ?_⟩
      · rw [hcharge, hc, total, charged, if_pos hyes, hn, hprice]
        simp only [Option.getD_some]
        ring
      · rw [hsel, ha, List.filter_cons_of_pos hyes]
        simp
      · intro k hk hks
        rcases List.mem_cons.mp hk with rfl | hk
        · exact ⟨n, hn, hpos⟩
        · exact hqty k hk hks

end ExtraEquipment

end WeatherAccommodation
