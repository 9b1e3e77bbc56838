/-
# What a press on Next accepts, and what a rejected one leaves behind

The loop of `btnNextPressed` tests a kit twice, once for its size and once for its quantity,
and charges it on the way.  Over the lists the screen can hold, no longer than the price list
and with quantities that are blank or numbers, the two tests come to one: a size is chosen
exactly if the quantity is positive (`agrees`).  `nextLoop_eq` computes the whole loop.

* `btnNextPressed_accepts_iff`: a press is accepted exactly if every kit agrees, and then it
  charges and announces every chosen kit once.
* `rejected_presses_charge_nothing_iff`: a rejected press has charged the chosen kits in front
  of the first one that does not agree.  Nothing takes that back, so rejected presses cost
  nothing exactly if no size is chosen in front of that kit.
-/
import Mathlib.Tactic.Linarith
import WeatherAccommodation.Client.App

namespace WeatherAccommodation

open Foundation Reactive

namespace ExtraEquipment

variable {kit : ProductKit} {kits : List ProductKit} {index : Nat} {r : Round}

/-! ## 1. One kit -/

/-- A list the screen can hold. -/
structure Typed (kits : List ProductKit) : Prop where
  length : kits.length ≤ productPriceList.length
  quantity : ∀ kit ∈ kits, kit.quantity = "" ∨ ∃ n, int? kit.quantity = some n

/-- The quantity is a number greater than 0. -/
def isWanted (kit : ProductKit) : Bool := 0 < (int? kit.quantity).getD 0

/-- A size is chosen if and only if the quantity is a number greater than 0. -/
def agrees (kit : ProductKit) : Bool := hasSelectedSize kit == isWanted kit

/-- Each price in the list is a positive number. -/
theorem exists_price (h : index < productPriceList.length) :
    ∃ text price, productPriceList[index]? = some text ∧ number? text = some price ∧
      price? index = some price ∧ 0 < price := by
  have hprices : ∀ text ∈ productPriceList, ∃ price, number? text = some price ∧ 0 < price := by
    have h₀ : number? "9.99" = some 9.99 := by decide +kernel
    have h₁ : number? "5" = some 5 := by decide +kernel
    intro text htext
    simp only [productPriceList, List.mem_cons, List.not_mem_nil, or_false] at htext
    rcases htext with rfl | rfl | rfl
    · exact ⟨9.99, h₀, by decide +kernel⟩
    · exact ⟨5, h₁, by decide +kernel⟩
    · exact ⟨5, h₁, by decide +kernel⟩
  have htext : productPriceList[index]? = some productPriceList[index] :=
    List.getElem?_eq_getElem h
  obtain ⟨price, hprice, hpos⟩ := hprices _ (List.getElem_mem h)
  exact ⟨_, price, htext, hprice, by simp [price?, htext, hprice], hpos⟩

/-- A kit that agrees passes both tests, and is charged and selected if a size is chosen. -/
theorem round_of_agrees (hindex : index < productPriceList.length)
    (hqty : kit.quantity = "" ∨ ∃ n, int? kit.quantity = some n) (hkit : agrees kit = true) :
    ∃ r₁ r₂, priceKit index kit { r with isAdded := false } = .ok (r₁, true) ∧
      requireSize kit r₁ = .ok (r₂, true) ∧
      r₂.charge = r.charge + charged kit * (price? index).getD 0 ∧
      r₂.arrSelected = r.arrSelected ++ [kit].filter hasSelectedSize := by
  obtain ⟨text, price, htext, hnumber, hprice, _⟩ := exists_price hindex
  have hagrees : hasSelectedSize kit = isWanted kit := by simpa [agrees] using hkit
  cases hsel : hasSelectedSize kit with
  | true =>
    rw [hsel] at hagrees
    -- A positive quantity is no blank.
    have hne : kit.quantity ≠ "" := by
      intro hblank
      have hnone : int? "" = none := by decide +kernel
      simp [isWanted, hblank, hnone] at hagrees
    obtain ⟨n, hn⟩ := hqty.resolve_left hne
    have hpos : 0 < n := by simpa [isWanted, hn] using hagrees.symm
    have hnot : ¬ n ≤ 0 := by omega
    refine ⟨⟨r.charge + n * price, r.arrSelected ++ [kit], true⟩,
      ⟨r.charge + n * price, r.arrSelected ++ [kit], true⟩, ?_, ?_, ?_, ?_⟩
    · simp [priceKit, hsel, hne, forceNumeral, hn, hnot, forceNumber, number?_of_int? hn, htext,
        hnumber]
    · simp [requireSize, hsel, hne, forceNumeral, hn]
    · simp [charged, hsel, hn, hprice]
    · simp [hsel]
  | false =>
    rw [hsel] at hagrees
    refine ⟨{ r with isAdded := false }, { r with isAdded := false }, ?_, ?_, ?_, ?_⟩
    · simp [priceKit, hsel]
    · rcases hqty with hblank | ⟨n, hn⟩
      · simp [requireSize, hblank]
      · have hnot : ¬ 0 < n := by simpa [isWanted, hn] using hagrees.symm
        by_cases hne : kit.quantity = ""
        · simp [requireSize, hne]
        · simp [requireSize, hne, forceNumeral, hn, hnot]
    · simp [charged, hsel]
    · simp [hsel]

/-- A kit that does not agree ends the press, and is not charged itself. -/
theorem nextLoop_of_not_agrees (hqty : kit.quantity = "" ∨ ∃ n, int? kit.quantity = some n)
    (hkit : agrees kit = false) : nextLoop (kit :: kits) index r = .ok (r.charge, none) := by
  have hagrees : hasSelectedSize kit ≠ isWanted kit := by simpa [agrees] using hkit
  cases hsel : hasSelectedSize kit with
  | true =>
    have hnot : isWanted kit = false := by
      rw [hsel] at hagrees
      simpa using hagrees.symm
    have hprice : priceKit index kit { r with isAdded := false } =
        .ok ({ r with isAdded := false }, false) := by
      by_cases hne : kit.quantity = ""
      · simp [priceKit, hsel, hne]
      · obtain ⟨n, hn⟩ := hqty.resolve_left hne
        have hneg : n ≤ 0 := by simpa [isWanted, hn] using hnot
        simp [priceKit, hsel, hne, forceNumeral, hn, hneg]
    simp [nextLoop, hprice]
  | false =>
    have hwanted : isWanted kit = true := by
      rw [hsel] at hagrees
      simpa using hagrees.symm
    have hne : kit.quantity ≠ "" := by
      intro hblank
      have hnone : int? "" = none := by decide +kernel
      simp [isWanted, hblank, hnone] at hwanted
    obtain ⟨n, hn⟩ := hqty.resolve_left hne
    have hpos : 0 < n := by simpa [isWanted, hn] using hwanted
    have hprice : priceKit index kit { r with isAdded := false } =
        .ok ({ r with isAdded := false }, true) := by
      simp [priceKit, hsel]
    have hsize : requireSize kit { r with isAdded := false } =
        .ok ({ r with isAdded := false }, false) := by
      simp [requireSize, hsel, hne, forceNumeral, hn, hpos]
    simp [nextLoop, hprice, hsize]

/-! ## 2. The whole press -/

/-- **What the loop does to a list of kits.**  It charges the kits in front of the first one that
does not agree, and is accepted exactly if there is none. -/
theorem nextLoop_eq {kits : List ProductKit} {index : Nat} {r : Round}
    (hlen : index + kits.length ≤ productPriceList.length)
    (hqty : ∀ kit ∈ kits, kit.quantity = "" ∨ ∃ n, int? kit.quantity = some n) :
    nextLoop kits index r = .ok (r.charge + total (kits.takeWhile agrees) index,
      if kits.all agrees then some (r.arrSelected ++ kits.filter hasSelectedSize) else none) := by
  induction kits generalizing index r with
  | nil => simp [nextLoop, total]
  | cons kit kits ih =>
    rw [List.length_cons] at hlen
    cases hkit : agrees kit with
    | false =>
      rw [nextLoop_of_not_agrees (hqty kit (by simp)) hkit]
      simp [hkit, total]
    | true =>
      obtain ⟨r₁, r₂, h₁, h₂, hcharge, hselected⟩ :=
        @round_of_agrees kit index r (by omega) (hqty kit (by simp)) hkit
      have hrest := @ih (index + 1) r₂ (by omega) fun k hk => hqty k (by simp [hk])
      have hstep : nextLoop (kit :: kits) index r = nextLoop kits (index + 1) r₂ := by
        simp [nextLoop, h₁, h₂, bind, Except.bind]
      rw [hstep, hrest, hcharge, hselected, List.takeWhile_cons_of_pos hkit, total,
        List.all_cons, hkit, Bool.true_and, add_assoc, List.append_assoc,
        ← List.filter_append, List.singleton_append]

theorem btnNextPressed_eq (hkits : Typed kits) (charge : ℚ) :
    btnNextPressed kits charge = .ok (charge + total (kits.takeWhile agrees) 0,
      if kits.all agrees then some (kits.filter hasSelectedSize) else none) := by
  have hlen : 0 + kits.length ≤ productPriceList.length := by simpa using hkits.length
  rw [btnNextPressed, nextLoop_eq hlen hkits.quantity, List.nil_append]

/-- The sum over the chosen kits of quantity times the price at the kit's index. -/
theorem total_eq_sum {kits : List ProductKit} {index : Nat} :
    total kits index = ((kits.zipIdx index).map fun (kit, i) =>
      charged kit * (price? i).getD 0).sum := by
  induction kits generalizing index with
  | nil => simp [total]
  | cons kit kits ih => simp [total, ih]

theorem isWanted_iff : isWanted kit = true ↔ ∃ n, int? kit.quantity = some n ∧ 0 < n := by
  unfold isWanted
  cases hn : int? kit.quantity with
  | none => simp
  | some n => simp

theorem agrees_iff :
    agrees kit = true ↔
      (hasSelectedSize kit = true ↔ ∃ n, int? kit.quantity = some n ∧ 0 < n) := by
  rw [← isWanted_iff, agrees, beq_iff_eq, Bool.eq_iff_iff]

/-- The notification of an accepted press goes out unless nothing is selected. -/
theorem nextPressed_of_accepted {a : ClientApp} {charge : ℚ} {products : List ProductKit}
    (hpress : btnNextPressed kits a.device.appDelegate.extraCharge = .ok (charge, some products)) :
    a.nextPressed kits =
      if products = [] then .ok (a.setExtraCharge charge)
      else (ClientApp.notifyProducts products a.sessions).map fun sessions =>
        { a.setExtraCharge charge with sessions := sessions } := by
  have hsessions : (a.setExtraCharge charge).sessions = a.sessions := rfl
  rw [ClientApp.nextPressed, hpress]
  simp only [bind, Except.bind, hsessions]
  split
  · rfl
  · cases ClientApp.notifyProducts products a.sessions <;> rfl

/-- **What Next accepts, and what it costs.**  The press never traps.  It is accepted exactly if
for every kit a size is chosen if and only if the quantity is a number greater than 0.  Then the
charge has grown by the price of these kits, each once, and the notification lists them in order
if there are any. -/
theorem btnNextPressed_accepts_iff (hkits : Typed kits) (charge : ℚ) :
    ∃ extraCharge selected, btnNextPressed kits charge = .ok (extraCharge, selected) ∧
      (selected.isSome = true ↔ ∀ kit ∈ kits,
        (hasSelectedSize kit = true ↔ ∃ n, int? kit.quantity = some n ∧ 0 < n)) ∧
      ∀ products, selected = some products →
        extraCharge = charge + ((kits.zipIdx 0).map fun (kit, i) =>
          charged kit * (price? i).getD 0).sum ∧
        products = kits.filter (fun kit => hasSelectedSize kit && isWanted kit) ∧
        ∀ a : ClientApp, a.device.appDelegate.extraCharge = charge →
          a.nextPressed kits =
            if products = [] then .ok (a.setExtraCharge extraCharge)
            else (ClientApp.notifyProducts products a.sessions).map fun sessions =>
              { a.setExtraCharge extraCharge with sessions := sessions } := by
  refine ⟨_, _, btnNextPressed_eq hkits charge, ?_, ?_⟩
  · have hall : kits.all agrees = true ↔ ∀ kit ∈ kits,
        (hasSelectedSize kit = true ↔ ∃ n, int? kit.quantity = some n ∧ 0 < n) := by
      simp only [List.all_eq_true, agrees_iff]
    rw [← hall]
    cases kits.all agrees <;> simp
  · intro products hproducts
    have hall : kits.all agrees = true := by
      by_contra hnot
      simp [hnot] at hproducts
    have hkept : kits.takeWhile agrees = kits :=
      List.takeWhile_eq_self_iff.mpr fun kit hkit => List.all_eq_true.mp hall kit hkit
    rw [if_pos hall, Option.some.injEq] at hproducts
    refine ⟨?_, ?_, ?_⟩
    · rw [hkept, total_eq_sum]
    · rw [← hproducts]
      refine List.filter_congr fun kit hkit => ?_
      have hagrees : hasSelectedSize kit = isWanted kit := by
        simpa [agrees] using List.all_eq_true.mp hall kit hkit
      rw [← hagrees, Bool.and_self]
    · intro a ha
      refine nextPressed_of_accepted ?_
      rw [ha, btnNextPressed_eq hkits, if_pos hall, hproducts]

/-- Umbrellas of one size, chosen or not. -/
def umbrellas (quantity : String) (chosen : Bool) : ProductKit :=
  ⟨1, "Umbrella", quantity, [⟨1, "M", 1, chosen⟩]⟩

/-- Rain coats of one size, chosen or not. -/
def coats (quantity : String) (chosen : Bool) : ProductKit :=
  ⟨2, "Rain Coat", quantity, [⟨2, "L", 2, chosen⟩]⟩

/-- Two umbrellas of a chosen size, and no coat. -/
theorem btnNextPressed_accepts_umbrellas :
    ∃ extraCharge products,
      btnNextPressed [umbrellas "2" true, coats "" false] 0 = .ok (extraCharge, some products) ∧
        extraCharge = 19.98 := by
  have hkits : Typed [umbrellas "2" true, coats "" false] := by
    constructor
    · decide
    · simp only [List.forall_mem_cons]
      exact ⟨.inr ⟨2, by decide +kernel⟩, .inl rfl, by simp⟩
  obtain ⟨extraCharge, selected, hpress, haccept, hcost⟩ := btnNextPressed_accepts_iff hkits 0
  have hsome : selected.isSome = true := by
    refine haccept.mpr ?_
    simp only [List.forall_mem_cons, ← agrees_iff]
    exact ⟨by decide +kernel, by decide +kernel, by simp⟩
  obtain ⟨products, rfl⟩ := Option.isSome_iff_exists.mp hsome
  refine ⟨extraCharge, products, hpress, ?_⟩
  rw [(hcost products rfl).1]
  decide +kernel

/-! ## 3. What a rejected press leaves behind -/

/-- What the kits in front of the first one that does not agree cost. -/
def leftBehind (kits : List ProductKit) : ℚ := total (kits.takeWhile agrees) 0

/-- In front of the first kit whose size and quantity do not go together, no size is chosen. -/
def nothingBefore (kits : List ProductKit) : Bool := !(kits.takeWhile agrees).any hasSelectedSize

/-- Kits that agree cost something exactly if a size of one is chosen. -/
theorem total_of_agrees {kits : List ProductKit} {index : Nat}
    (hlen : index + kits.length ≤ productPriceList.length)
    (hagrees : ∀ kit ∈ kits, agrees kit = true) :
    0 ≤ total kits index ∧ (total kits index = 0 ↔ kits.any hasSelectedSize = false) := by
  induction kits generalizing index with
  | nil => simp [total]
  | cons kit kits ih =>
    rw [List.length_cons] at hlen
    obtain ⟨hnonneg, hzero⟩ := @ih (index + 1) (by omega) fun k hk => hagrees k (by simp [hk])
    obtain ⟨_, price, _, _, hprice, hpos⟩ := @exists_price index (by omega)
    rw [total, hprice, Option.getD_some, List.any_cons]
    cases hsel : hasSelectedSize kit with
    | false => simp [charged, hsel, hnonneg, hzero]
    | true =>
      obtain ⟨n, hn, hn0⟩ := (agrees_iff.mp (hagrees kit (by simp))).mp hsel
      have hcost : (0 : ℚ) < n * price := mul_pos (by exact_mod_cast hn0) hpos
      simp only [charged, hsel, if_true, hn, Option.getD_some, Bool.true_or, Bool.true_eq_false,
        iff_false]
      constructor
      · linarith
      · intro hsum
        linarith

theorem leftBehind_cases (hkits : Typed kits) :
    0 ≤ leftBehind kits ∧ (leftBehind kits = 0 ↔ nothingBefore kits = true) := by
  have hlen : 0 + (kits.takeWhile agrees).length ≤ productPriceList.length := by
    have hprefix := (List.takeWhile_prefix agrees (l := kits)).length_le
    have hkits := hkits.length
    omega
  have htotal := total_of_agrees hlen fun kit hkit => List.mem_takeWhile_imp hkit
  rwa [nothingBefore, Bool.not_eq_true']

/-- Presses on Next, one after the other, with whatever is on the screen at each. -/
def pressEach : List (List ProductKit) → ℚ → Except Trap ℚ
  | [], charge => .ok charge
  | kits :: presses, charge => do
    let (charge, _) ← btnNextPressed kits charge
    pressEach presses charge

theorem pressEach_eq {presses : List (List ProductKit)} {charge : ℚ}
    (htyped : ∀ kits ∈ presses, Typed kits) :
    pressEach presses charge = .ok (charge + (presses.map leftBehind).sum) := by
  induction presses generalizing charge with
  | nil => simp [pressEach]
  | cons kits presses ih =>
    have hrest := fun charge => @ih charge fun k hk => htyped k (by simp [hk])
    simp [pressEach, btnNextPressed_eq (htyped kits (by simp)), hrest, leftBehind, add_assoc,
      bind, Except.bind]

/-- Costs that are never negative come to nothing exactly if each is nothing. -/
theorem sum_leftBehind_eq_zero {presses : List (List ProductKit)}
    (htyped : ∀ kits ∈ presses, Typed kits) :
    0 ≤ (presses.map leftBehind).sum ∧
      ((presses.map leftBehind).sum = 0 ↔ ∀ kits ∈ presses, nothingBefore kits = true) := by
  induction presses with
  | nil => simp
  | cons kits presses ih =>
    obtain ⟨hnonneg, hzero⟩ := leftBehind_cases (htyped kits (by simp))
    obtain ⟨hrest, hrestzero⟩ := ih fun k hk => htyped k (by simp [hk])
    rw [List.map_cons, List.sum_cons, List.forall_mem_cons, ← hzero, ← hrestzero]
    constructor
    · linarith
    · constructor
      · intro hsum
        constructor <;> linarith
      · rintro ⟨h₁, h₂⟩
        rw [h₁, h₂, add_zero]

/-- **When rejected presses charge nothing.**  A press that an alert ends leaves the charge as it
was exactly if no size is chosen in front of the kit the alert is about.  Any number of such
presses and a last one charge as the last one alone exactly if that holds of each of them. -/
theorem rejected_presses_charge_nothing_iff {presses : List (List ProductKit)}
    {last : List ProductKit} (hpresses : ∀ kits ∈ presses, Typed kits) (hlast : Typed last)
    (hrejected : ∀ kits ∈ presses, ∃ before after, btnNextPressed kits before = .ok (after, none))
    (charge : ℚ) :
    ((∀ kits ∈ presses, ∀ before after, btnNextPressed kits before = .ok (after, none) →
      after = before) ↔ ∀ kits ∈ presses, nothingBefore kits = true) ∧
    (pressEach (presses ++ [last]) charge = pressEach [last] charge ↔
      ∀ kits ∈ presses, nothingBefore kits = true) := by
  constructor
  · refine forall₂_congr fun kits hkits => ?_
    rw [← (leftBehind_cases (hpresses kits hkits)).2]
    obtain ⟨before, after, hpress⟩ := hrejected kits hkits
    have hreject : kits.all agrees = false := by
      rw [btnNextPressed_eq (hpresses kits hkits)] at hpress
      by_contra hall
      rw [if_pos (by simpa using hall)] at hpress
      simp at hpress
    have hafter : ∀ charge, btnNextPressed kits charge = .ok (charge + leftBehind kits, none) := by
      intro charge
      rw [btnNextPressed_eq (hpresses kits hkits), if_neg (by simp [hreject]), leftBehind]
    constructor
    · intro hsame
      have hzero := hsame 0 _ (hafter 0)
      simpa using hzero
    · intro hzero before after hpress
      rw [hafter, hzero] at hpress
      simpa using hpress.symm
  · have hboth : ∀ kits ∈ presses ++ [last], Typed kits := by
      intro kits hkits
      rcases List.mem_append.mp hkits with hkits | hkits
      · exact hpresses kits hkits
      · rwa [List.mem_singleton.mp hkits]
    have hone : ∀ kits ∈ [last], Typed kits := by simpa using hlast
    rw [pressEach_eq hboth, pressEach_eq hone, ← (sum_leftBehind_eq_zero hpresses).2,
      Except.ok.injEq]
    simp

/-- A coat without a number, in front of which nothing is chosen, and then two umbrellas. -/
theorem first_alert_charges_nothing :
    pressEach [[umbrellas "" false, coats "" true], [umbrellas "2" true, coats "" false]] 0 =
      pressEach [[umbrellas "2" true, coats "" false]] 0 := by
  refine (@rejected_presses_charge_nothing_iff [[umbrellas "" false, coats "" true]]
    [umbrellas "2" true, coats "" false] ?_ ?_ ?_ 0).2.mpr ?_
  · simp only [List.forall_mem_singleton]
    exact ⟨by decide, by simp [umbrellas, coats]⟩
  · constructor
    · decide
    · simp only [List.forall_mem_cons]
      exact ⟨.inr ⟨2, by decide +kernel⟩, .inl rfl, by simp⟩
  · simp only [List.forall_mem_singleton]
    exact ⟨0, 0, by decide +kernel⟩
  · decide +kernel

/-- **The umbrellas are charged, and the alert is about the coat.**  Once the coat has its number
too, the umbrellas are charged a second time. -/
theorem umbrellas_charged_before_alert :
    btnNextPressed [umbrellas "2" true, coats "" true] 0 = .ok (19.98, none) ∧
      pressEach [[umbrellas "2" true, coats "" true], [umbrellas "2" true, coats "1" true]] 0 =
        .ok 44.96 ∧
      pressEach [[umbrellas "2" true, coats "1" true]] 0 = .ok 24.98 := by
  decide +kernel

end ExtraEquipment

end WeatherAccommodation
