/-
# The rows of the extra-equipment screen

`ExtraEquipmentViewController.swift`: prices and pictures are looked up by the row of a kit, and the
order of the kits is the server's.  So a product keeps its price and its picture exactly as long as
it keeps its row (`prices_follow_products_iff`); what an accepted press on Next charges depends on
the order through the first kit alone (`amount_eq_iff`).

The quantity of a kit is a text.  The field lets in what its filter lets in, which counts characters
and does not look at them, and Next reads the texts as numbers up to the first kit it alerts about.
`isSafe_iff` is the exact condition under which nothing on the screen runs out of an array or reads
a number that is none.
-/
import Mathlib.Algebra.BigOperators.Group.List.Basic
import WeatherAccommodation.KitTable
import WeatherAccommodation.Library.NSString
import WeatherAccommodation.Client.NextPress

namespace WeatherAccommodation

open Foundation Reactive

/-- `ExtraEquipmentViewController` -/
structure ExtraEquipment where
  productKitList : List ProductKit := []
  /-- `getKit` waits for its reply, and then `getKitSize` does. -/
  kitIsAsked : Bool := true
  kitSizeIsAsked : Bool := false
  /-- The text in the field of a row. -/
  txtQty : Nat → String := fun _ => ""
  /-- `RDGlobalFunction.appDelegate.extraCharge` -/
  extraCharge : ℚ := 0
  /-- The kits of the last accepted press. -/
  arrSelected : List ProductKit := []

/-- An edit replaces a part of the text by another. -/
structure Replacement where
  before : String
  replaced : String
  after : String
  string : String
  deriving DecidableEq, Repr

inductive ExtraEquipmentEvent where
  | kitReply (response : List Dict)
  | kitSizeReply (response : List Dict)
  | cellForRowAt (row : Nat) (sizeButtons : KitTable.SizeButtons 6)
  | btnSizePressed (row : Nat) (tag : Int)
  | shouldChangeCharactersIn (row : Nat) (edit : Replacement)
  | textFieldDidEndEditing (row : Nat)
  | btnNextPressed

namespace ExtraEquipment

open KitTable

/-! ## 1. The handlers -/

/-- `"\(Name): $\(productPriceList[indexPath.row])"` -/
def lblName (row : Nat) (kit : ProductKit) : Except Trap String := do
  let price ← unwrap .indexOutOfRange productPriceList[row]?
  return kit.name ++ ": $" ++ price

def cellForRowAt (productKitList : List ProductKit) (row : Nat) (sizeButtons : List SizeButton) :
    Except Trap KitCell :=
  KitTable.cellForRowAt (lblName row) 3 productKitList row sizeButtons

/-- `shouldChangeCharactersIn`: characters on one side, UTF-16 units on the other. -/
def shouldChangeCharactersIn (edit : Replacement) : Bool :=
  let text := edit.before ++ edit.replaced ++ edit.after
  decide ((Unicode.count text.toList : Int) + Unicode.count edit.string.toList -
    (NSString.ofString edit.replaced).length ≤ 1)

/-- `textFieldDidEndEditing`: the kit in the list gets the text of its field. -/
def textFieldDidEndEditing (s : ExtraEquipment) (row : Nat) : Except Trap ExtraEquipment := do
  let productKit ← unwrap .indexOutOfRange s.productKitList[row]?
  return { s with productKitList := s.productKitList.set row { productKit with
    quantity := s.txtQty row } }

def react (s : ExtraEquipment) : ExtraEquipmentEvent → Option (Except Trap ExtraEquipment)
  | .kitReply response =>
    if s.kitIsAsked then some (.ok { s with
      productKitList := getKit s.productKitList response
      kitIsAsked := false
      kitSizeIsAsked := true })
    else none
  | .kitSizeReply response =>
    if s.kitSizeIsAsked then some (.ok { s with
      productKitList := getKitSize s.productKitList response
      kitSizeIsAsked := false })
    else none
  | .cellForRowAt row sizeButtons =>
    s.productKitList[row]?.map fun kit =>
      (cellForRowAt s.productKitList row sizeButtons.val).map fun _ =>
        { s with txtQty := Function.update s.txtQty row kit.quantity }
  | .btnSizePressed row tag =>
    if row < s.productKitList.length then
      some ((KitTable.btnSizePressed s.productKitList row tag).map fun productKitList =>
        { s with productKitList := productKitList })
    else none
  | .shouldChangeCharactersIn row edit =>
    if row < s.productKitList.length ∧ s.txtQty row = edit.before ++ edit.replaced ++ edit.after then
      if shouldChangeCharactersIn edit then
        some (.ok { s with
          txtQty := Function.update s.txtQty row (edit.before ++ edit.string ++ edit.after) })
      else some (.ok s)
    else none
  | .textFieldDidEndEditing row =>
    if row < s.productKitList.length then some (s.textFieldDidEndEditing row) else none
  | .btnNextPressed =>
    some ((btnNextPressed s.productKitList s.extraCharge).map fun (charge, selected) =>
      { s with extraCharge := charge, arrSelected := selected.getD s.arrSelected })

def machine : Machine ExtraEquipment ExtraEquipmentEvent Trap where
  react := react

/-! ## 2. Prices and positions -/

variable {kits kits' : List ProductKit} {kit : ProductKit} {row index : Nat}

/-- **What a row shows**: a label with the price at its index, and the picture there.  It is shown
if there is one of each, and a button for each size. -/
theorem cellForRowAt_isOk_iff {sizeButtons : SizeButtons 6} :
    (∃ cell, cellForRowAt kits row sizeButtons.val = .ok cell) ↔
      ∃ kit, kits[row]? = some kit ∧ row < 3 ∧ kit.sizes.length ≤ 6 := by
  rw [cellForRowAt, KitTable.cellForRowAt_isOk_iff, sizeButtons.property]
  refine exists_congr fun kit => and_congr_right fun _ => ?_
  have hlabel : (∃ text, lblName row kit = .ok text) ↔ row < productPriceList.length := by
    rw [lblName, exists_bind_pure_eq_ok]
    simp [← Option.isSome_iff_exists]
  rw [hlabel]
  simp [productPriceList, productImageList]

theorem cellForRowAt_eq_ok {sizeButtons : List SizeButton} {cell : KitCell}
    (h : cellForRowAt kits row sizeButtons = .ok cell) :
    ∃ kit price image, kits[row]? = some kit ∧ productPriceList[row]? = some price ∧
      productImageList[row]? = some image ∧ cell.lblName = kit.name ++ ": $" ++ price ∧
      cell.imgProduct = image := by
  simp only [cellForRowAt, KitTable.cellForRowAt, lblName, bind_eq_ok, unwrap_eq_ok,
    pure_eq_ok] at h
  obtain ⟨kit, hkit, _, ⟨price, hprice, rfl⟩, image, himage, _, _, _, _, rfl⟩ := h
  exact ⟨kit, price, image, hkit, hprice, himage, rfl, rfl⟩

/-- A kit shows the price and the picture. -/
def Shows (kits : List ProductKit) (row : Nat) (kit : ProductKit) (price image : String) : Prop :=
  ∀ sizeButtons : SizeButtons 6, ∃ cell, cellForRowAt kits row sizeButtons.val = .ok cell ∧
    cell.lblName = kit.name ++ ": $" ++ price ∧ cell.imgProduct = image

/-- Two orders of the kits, each with its size and its quantity: accepted presses on Next charge the
same, and one product shows the same price and picture in both. -/
structure FollowProducts (kits kits' : List ProductKit) : Prop where
  amount : ∀ charge after selected charge' after' selected',
    btnNextPressed kits charge = .ok (after, some selected) →
    btnNextPressed kits' charge' = .ok (after', some selected') → after - charge = after' - charge'
  rows : ∀ (i j : Nat) (kit kit' : ProductKit), kits[i]? = some kit → kits'[j]? = some kit' →
    kit.productKitId = kit'.productKitId →
    ∃ price image, Shows kits i kit price image ∧ Shows kits' j kit' price image

/-- At most three kits of different products and of at most six sizes, in one order. -/
structure KeepsRows (kits kits' : List ProductKit) : Prop where
  same : kits' = kits
  length : kits.length ≤ 3
  sizes : ∀ kit ∈ kits, kit.sizes.length ≤ 6
  products : (kits.map (·.productKitId)).Nodup

/-- The kit of a row that shows something has the row's own price and picture. -/
theorem Shows.eq {price image : String} (h : Shows kits row kit price image) :
    productImageList[row]? = some image ∧ row < 3 := by
  obtain ⟨cell, hcell, _, himage⟩ := h ⟨List.replicate 6 {}, List.length_replicate⟩
  obtain ⟨_, _, image', _, _, hrow, _, himage'⟩ := cellForRowAt_eq_ok hcell
  rw [← himage, himage', hrow]
  exact ⟨rfl, (List.getElem?_eq_some_iff.mp hrow).1⟩

/-- The three pictures are different. -/
theorem eq_of_productImageList {i j : Nat} {image : String}
    (hi : productImageList[i]? = some image) (hj : productImageList[j]? = some image) : i = j := by
  have hlt : i < productImageList.length := (List.getElem?_eq_some_iff.mp hi).1
  have hnodup : productImageList.Nodup := by decide
  exact (List.getElem?_inj hlt hnodup).mp (hi.trans hj.symm)

theorem exists_shows (hkit : kits[row]? = some kit) (hrow : row < 3)
    (hsizes : kit.sizes.length ≤ 6) : ∃ price image, Shows kits row kit price image := by
  have hprice : row < productPriceList.length := hrow
  have himage : row < productImageList.length := hrow
  refine ⟨productPriceList[row], productImageList[row], fun sizeButtons => ?_⟩
  obtain ⟨cell, hcell⟩ := (@cellForRowAt_isOk_iff kits row sizeButtons).mpr ⟨kit, hkit, hrow, hsizes⟩
  obtain ⟨kit', price, image, hkit', hprice', himage', hlabel, hpicture⟩ := cellForRowAt_eq_ok hcell
  rw [hkit, Option.some.injEq] at hkit'
  rw [List.getElem?_eq_getElem hprice, Option.some.injEq] at hprice'
  rw [List.getElem?_eq_getElem himage, Option.some.injEq] at himage'
  rw [← hkit', ← hprice'] at hlabel
  rw [← himage'] at hpicture
  exact ⟨cell, hcell, hlabel, hpicture⟩

/-- A product that is in row `i` of one order and in row `j` of the other has one picture, so one
row. -/
theorem FollowProducts.row_unique (hfollow : FollowProducts kits kits') {i j : Nat}
    {kit kit' : ProductKit} (hi : kits[i]? = some kit) (hj : kits'[j]? = some kit')
    (hid : kit.productKitId = kit'.productKitId) : i = j ∧ i < 3 := by
  obtain ⟨price, image, hshows, hshows'⟩ := hfollow.rows i j kit kit' hi hj hid
  exact ⟨eq_of_productImageList hshows.eq.1 hshows'.eq.1, hshows.eq.2⟩

/-- So every kit keeps its row. -/
theorem FollowProducts.row_kept (hfollow : FollowProducts kits kits') (h : kits.Perm kits') {i : Nat}
    {kit : ProductKit} (hi : kits[i]? = some kit) : kits'[i]? = some kit := by
  obtain ⟨j, hj⟩ := List.mem_iff_getElem?.mp (h.mem_iff.mp (List.mem_of_getElem? hi))
  obtain ⟨rfl, _⟩ := hfollow.row_unique hi hj rfl
  exact hj

theorem FollowProducts.keepsRows (hfollow : FollowProducts kits kits') (h : kits.Perm kits') :
    KeepsRows kits kits' := by
  have hsame : kits' = kits := by
    refine List.ext_getElem? fun i => ?_
    cases hi : kits[i]? with
    | some kit => exact hfollow.row_kept h hi
    | none =>
      rw [List.getElem?_eq_none_iff, h.length_eq] at hi
      exact List.getElem?_eq_none hi
  refine ⟨hsame, ?_, ?_, ?_⟩
  · by_contra hlen
    have hfourth : kits[3]? = some kits[3] := List.getElem?_eq_getElem (by omega)
    have hthree := (hfollow.row_unique hfourth (hfollow.row_kept h hfourth) rfl).2
    omega
  · intro kit hkit
    obtain ⟨i, hi⟩ := List.mem_iff_getElem?.mp hkit
    obtain ⟨_, _, hshows, _⟩ := hfollow.rows i i kit kit hi (hfollow.row_kept h hi) rfl
    obtain ⟨cell, hcell, _⟩ := hshows ⟨List.replicate 6 {}, List.length_replicate⟩
    obtain ⟨kit', hi', _, hsizes⟩ := cellForRowAt_isOk_iff.mp ⟨cell, hcell⟩
    rw [hi, Option.some.injEq] at hi'
    rwa [hi']
  · rw [List.Nodup, List.pairwise_iff_getElem]
    intro i j hi hj hlt hid
    rw [List.length_map] at hi hj
    rw [List.getElem_map, List.getElem_map] at hid
    have hat : kits[i]? = some kits[i] := List.getElem?_eq_getElem hi
    have hat' : kits[j]? = some kits[j] := List.getElem?_eq_getElem hj
    have heq := (hfollow.row_unique hat (hfollow.row_kept h hat') hid).1
    omega

/-- One order that can be shown follows itself. -/
theorem KeepsRows.followProducts (hkeeps : KeepsRows kits kits') : FollowProducts kits kits' := by
  obtain ⟨rfl, hlen, hsizes, hproducts⟩ := hkeeps
  constructor
  · intro charge after selected charge' after' selected' hpress hpress'
    rw [(nextLoop_total hpress).1, (nextLoop_total hpress').1]
    ring
  · intro i j kit kit' hi hj hid
    have hlt : i < (kits'.map (·.productKitId)).length := by
      rw [List.length_map]
      exact (List.getElem?_eq_some_iff.mp hi).1
    have hij : i = j := (List.getElem?_inj hlt hproducts).mp (by simp [hi, hj, hid])
    subst hij
    rw [hi, Option.some.injEq] at hj
    subst hj
    rw [List.length_map] at hlt
    obtain ⟨price, image, hshows⟩ :=
      exists_shows hi (lt_of_lt_of_le hlt hlen) (hsizes kit (List.mem_of_getElem? hi))
    exact ⟨price, image, hshows, hshows⟩

/-- **When prices follow products.**  Two orders of the kits charge the same and show the same price
and picture for a product exactly if they are one order, of at most three different products with
at most six sizes each. -/
theorem prices_follow_products_iff (h : kits.Perm kits') :
    FollowProducts kits kits' ↔ KeepsRows kits kits' := by
  constructor
  · intro hfollow
    exact hfollow.keepsRows h
  · intro hkeeps
    exact hkeeps.followProducts

/-- The pieces charged for the kit in the first row. -/
def headCharge (kits : List ProductKit) : Int := (kits.head?.map charged).getD 0

/-- The pieces charged for all the kits. -/
def piecesCharged (kits : List ProductKit) : Int := (kits.map charged).sum

/-- Behind the first row every price is 5. -/
theorem eq_of_price? {price : ℚ} (h : price? index = some price) :
    price = if index = 0 then 9.99 else 5 := by
  have h₀ : price? 0 = some 9.99 := by decide +kernel
  have h₁ : price? 1 = some 5 := by decide +kernel
  have h₂ : price? 2 = some 5 := by decide +kernel
  match index with
  | 0 => simpa [h] using h₀
  | 1 => simpa [h] using h₁
  | 2 => simpa [h] using h₂
  | n + 3 => simp [price?, productPriceList] at h

/-- What an accepted press adds, apart from the order and by the order. -/
theorem total_of_accepted {r : Round} {charge : ℚ} {selected : List ProductKit}
    (h : nextLoop kits index r = .ok (charge, some selected)) :
    total kits index =
      5 * piecesCharged kits + if index = 0 then 4.99 * (headCharge kits : ℚ) else 0 := by
  induction kits generalizing index r with
  | nil => simp [total, piecesCharged, headCharge]
  | cons kit kits ih =>
    obtain ⟨r', hrest, hround⟩ := nextLoop_cons_inv h
    have hkits : piecesCharged (kit :: kits) = charged kit + piecesCharged kits := by
      simp [piecesCharged]
    have hhead : headCharge (kit :: kits) = charged kit := rfl
    rw [total, ih hrest, if_neg (by omega), hkits, hhead]
    rcases hround with ⟨hnone, -⟩ | ⟨-, n, price, -, -, hprice, -⟩
    · have hzero : charged kit = 0 := by simp [charged, hnone]
      simp [hzero]
    · rw [hprice, Option.getD_some, eq_of_price? hprice]
      split
      · push_cast
        ring
      · push_cast
        ring

/-- **What an accepted press charges depends on the order through the first kit alone.** -/
theorem amount_eq_iff (h : kits.Perm kits') {charge after charge' after' : ℚ}
    {selected selected' : List ProductKit}
    (hpress : btnNextPressed kits charge = .ok (after, some selected))
    (hpress' : btnNextPressed kits' charge' = .ok (after', some selected')) :
    after - charge = after' - charge' ↔ headCharge kits = headCharge kits' := by
  have hpieces : piecesCharged kits = piecesCharged kits' := (h.map charged).sum_eq
  have hafter : after = charge + total kits 0 := (nextLoop_total hpress).1
  have hafter' : after' = charge' + total kits' 0 := (nextLoop_total hpress').1
  rw [hafter, hafter', total_of_accepted hpress, total_of_accepted hpress', hpieces, if_pos rfl,
    if_pos rfl, ← @Int.cast_inj ℚ]
  constructor
  · intro heq
    linarith
  · intro heq
    rw [heq]
    ring

/-- One umbrella in front of one coat, and the other way round. -/
theorem order_changes_price :
    btnNextPressed [umbrellas "1" true, coats "" false] 0 =
      .ok (9.99, some [umbrellas "1" true]) ∧
    btnNextPressed [coats "" false, umbrellas "1" true] 0 = .ok (5, some [umbrellas "1" true]) ∧
    ¬ ∀ kits kits' : List ProductKit, kits.Perm kits' → FollowProducts kits kits' := by
  have hfirst : btnNextPressed [umbrellas "1" true, coats "" false] 0 =
      .ok (9.99, some [umbrellas "1" true]) := by decide +kernel
  have hsecond : btnNextPressed [coats "" false, umbrellas "1" true] 0 =
      .ok (5, some [umbrellas "1" true]) := by decide +kernel
  refine ⟨hfirst, hsecond, fun h => ?_⟩
  have hamount := (h _ _ (List.Perm.swap (coats "" false) (umbrellas "1" true) [])).amount
    _ _ _ _ _ _ hfirst hsecond
  exact absurd hamount (by decide +kernel)

/-- The kits as the server has them now, in their one order. -/
theorem same_order_follows :
    FollowProducts [umbrellas "2" true, coats "" false] [umbrellas "2" true, coats "" false] := by
  refine (prices_follow_products_iff (List.Perm.refl _)).mpr ⟨rfl, by decide, ?_, by decide⟩
  intro kit hkit
  simp only [List.mem_cons, List.not_mem_nil, or_false] at hkit
  rcases hkit with rfl | rfl <;> decide

/-! ## 3. The arrays and the numbers -/

/-- Next can read the quantity, or need not. -/
def Reads (kit : ProductKit) : Prop := kit.quantity = "" ∨ ∃ n, int? kit.quantity = some n

/-- Next can read the quantities up to the first kit whose size and quantity do not go together. -/
def Readable : List ProductKit → Prop
  | [] => True
  | kit :: kits => Reads kit ∧ (agrees kit = true → Readable kits)

/-- A quantity that Next gets past is blank or a number. -/
theorem reads_of_nextLoop {r : Round} {result : ℚ × Option (List ProductKit)}
    (h : nextLoop (kit :: kits) index r = .ok result) : Reads kit := by
  by_contra hnot
  have hne : kit.quantity ≠ "" := fun hblank => hnot (.inl hblank)
  have hnone : int? kit.quantity = none := by
    cases hn : int? kit.quantity with
    | none => rfl
    | some n => exact absurd (.inr ⟨n, hn⟩) hnot
  cases hsel : hasSelectedSize kit with
  | true => simp [nextLoop, priceKit, hsel, hne, forceNumeral, hnone, bind, Except.bind] at h
  | false =>
    simp [nextLoop, priceKit, requireSize, hsel, hne, forceNumeral, hnone, bind, Except.bind, pure,
      Except.pure] at h

/-- With a price for every kit, Next stops the app only over a quantity. -/
theorem nextLoop_isOk_iff {r : Round} (hlen : index + kits.length ≤ productPriceList.length) :
    (∃ result, nextLoop kits index r = .ok result) ↔ Readable kits := by
  induction kits generalizing index r with
  | nil => simp [nextLoop, Readable]
  | cons kit kits ih =>
    rw [List.length_cons] at hlen
    rw [Readable]
    constructor
    · rintro ⟨result, h⟩
      have hreads := reads_of_nextLoop h
      refine ⟨hreads, fun hagrees => ?_⟩
      obtain ⟨r₁, r₂, h₁, h₂, -⟩ := @round_of_agrees kit index r (by omega) hreads hagrees
      have hstep : nextLoop (kit :: kits) index r = nextLoop kits (index + 1) r₂ := by
        simp [nextLoop, h₁, h₂, bind, Except.bind]
      rw [hstep] at h
      exact (ih (by omega)).mp ⟨result, h⟩
    · rintro ⟨hreads, hrest⟩
      cases hagrees : agrees kit with
      | false => exact ⟨_, nextLoop_of_not_agrees hreads hagrees⟩
      | true =>
        obtain ⟨r₁, r₂, h₁, h₂, -⟩ := @round_of_agrees kit index r (by omega) hreads hagrees
        obtain ⟨result, hresult⟩ := (@ih (index + 1) r₂ (by omega)).mpr (hrest hagrees)
        refine ⟨result, ?_⟩
        simpa [nextLoop, h₁, h₂, bind, Except.bind] using hresult

theorem trapsOnlyInKits_forceNumeral (name text : String) :
    TrapsOnlyInKits (forceNumeral name text) :=
  avoids_unwrap fun _ => by simp [isKitFault]

theorem trapsOnlyInKits_forceNumber (name text : String) :
    TrapsOnlyInKits (forceNumber name text) :=
  avoids_unwrap fun _ => by simp [isKitFault]

theorem trapsOnlyInKits_priceKit (r : Round) : TrapsOnlyInKits (priceKit index kit r) := by
  refine avoids_ite (fun _ => avoids_ite (fun _ => ?_) fun _ => avoids_pure _) fun _ => avoids_pure _
  refine (trapsOnlyInKits_forceNumeral _ _).bind fun quantity _ => avoids_ite
    (fun _ => avoids_pure _) fun _ => avoids_ite (fun _ => avoids_pure _) fun _ => ?_
  exact (trapsOnlyInKits_forceNumber _ _).bind fun _ _ => (trapsOnlyInKits_unwrap _).bind
    fun _ _ => (trapsOnlyInKits_forceNumber _ _).bind fun _ _ => avoids_pure _

theorem trapsOnlyInKits_requireSize (r : Round) : TrapsOnlyInKits (requireSize kit r) := by
  refine avoids_ite (fun _ => ?_) fun _ => avoids_pure _
  refine (trapsOnlyInKits_forceNumeral _ _).bind fun quantity _ => avoids_ite (fun _ => ?_)
    fun _ => avoids_pure _
  exact avoids_ite (fun _ => avoids_pure _) fun _ => avoids_ite (fun _ => avoids_pure _)
    fun _ => avoids_pure _

/-- The faults of Next are those of the kits. -/
theorem trapsOnlyInKits_nextLoop {r : Round} : TrapsOnlyInKits (nextLoop kits index r) := by
  induction kits generalizing index r with
  | nil => exact avoids_ok _
  | cons kit kits ih =>
    refine (trapsOnlyInKits_priceKit _).bind fun priced _ => avoids_ite (fun _ => ?_)
      fun _ => avoids_pure _
    exact (trapsOnlyInKits_requireSize _).bind fun required _ => avoids_ite (fun _ => ih)
      fun _ => avoids_pure _

/-- Three kits at most, for the prices and the pictures, six sizes each, for the buttons, and
quantities Next can read. -/
structure Fits (s : ExtraEquipment) : Prop where
  kits : s.productKitList.length ≤ 3
  sizes : ∀ kit ∈ s.productKitList, kit.sizes.length ≤ 6
  quantities : Readable s.productKitList

variable {s : ExtraEquipment}

theorem Fits.isSafe (h : Fits s) : IsSafe machine s := by
  intro e fault htraps
  cases e with
  | kitReply response => simp [Machine.Traps, machine, react] at htraps
  | kitSizeReply response => simp [Machine.Traps, machine, react] at htraps
  | cellForRowAt row sizeButtons =>
    simp only [Machine.Traps, machine, react, Option.map_eq_some_iff, map_eq_error] at htraps
    obtain ⟨kit, hkit, herror⟩ := htraps
    have hlt : row < 3 := lt_of_lt_of_le (List.getElem?_eq_some_iff.mp hkit).1 h.kits
    obtain ⟨cell, hcell⟩ := (@cellForRowAt_isOk_iff _ row sizeButtons).mpr
      ⟨kit, hkit, hlt, h.sizes kit (List.mem_of_getElem? hkit)⟩
    rw [hcell] at herror
    exact absurd herror (by simp)
  | btnSizePressed row tag =>
    simp only [Machine.Traps, machine, react, Option.ite_none_right_eq_some, Option.some.injEq,
      map_eq_error] at htraps
    obtain ⟨hrow, herror⟩ := htraps
    simp [KitTable.btnSizePressed, List.getElem?_eq_getElem hrow] at herror
  | shouldChangeCharactersIn row edit =>
    simp only [Machine.Traps, machine, react, Option.ite_none_right_eq_some] at htraps
    obtain ⟨_, herror⟩ := htraps
    split at herror <;> simp at herror
  | textFieldDidEndEditing row =>
    simp only [Machine.Traps, machine, react, Option.ite_none_right_eq_some,
      Option.some.injEq] at htraps
    obtain ⟨hrow, herror⟩ := htraps
    simp [ExtraEquipment.textFieldDidEndEditing, List.getElem?_eq_getElem hrow] at herror
  | btnNextPressed =>
    simp only [Machine.Traps, machine, react, Option.some.injEq, map_eq_error] at htraps
    have hlen : 0 + s.productKitList.length ≤ productPriceList.length := by
      rw [Nat.zero_add]
      exact h.kits
    obtain ⟨result, hresult⟩ := (nextLoop_isOk_iff hlen).mpr h.quantities
    rw [ExtraEquipment.btnNextPressed, hresult] at htraps
    exact absurd htraps (by simp)

/-- A row that is not shown is a fault of the kits. -/
theorem shown_of_isSafe (h : IsSafe machine s) (hrow : row < s.productKitList.length)
    (sizeButtons : SizeButtons 6) :
    ∃ cell, cellForRowAt s.productKitList row sizeButtons.val = .ok cell := by
  cases hcell : cellForRowAt s.productKitList row sizeButtons.val with
  | ok cell => exact ⟨cell, rfl⟩
  | error fault =>
    have htraps : machine.Traps s (.cellForRowAt row sizeButtons) fault := by
      simp [Machine.Traps, machine, react, hrow, hcell, Except.map]
    have hlabel : ∀ kit, TrapsOnlyInKits (lblName row kit) :=
      fun _ => (trapsOnlyInKits_unwrap _).bind fun _ _ => avoids_pure _
    exact absurd (h _ _ htraps) (trapsOnlyInKits_cellForRowAt hlabel fault hcell)

/-- A press on Next that stops the app does so over the kits. -/
theorem nextPressed_of_isSafe (h : IsSafe machine s) :
    ∃ result, btnNextPressed s.productKitList s.extraCharge = .ok result := by
  cases hpress : btnNextPressed s.productKitList s.extraCharge with
  | ok result => exact ⟨result, rfl⟩
  | error fault =>
    have htraps : machine.Traps s .btnNextPressed fault := by
      simp [Machine.Traps, machine, react, hpress, Except.map]
    exact absurd (h _ _ htraps) (trapsOnlyInKits_nextLoop fault hpress)

/-- **When nothing on the screen runs out of an array or reads a number that is none.** -/
theorem isSafe_iff : IsSafe machine s ↔ Fits s := by
  refine ⟨fun h => ?_, Fits.isSafe⟩
  have hbuttons : SizeButtons 6 := ⟨List.replicate 6 {}, List.length_replicate⟩
  have hshown : ∀ row, row < s.productKitList.length → ∃ kit, s.productKitList[row]? = some kit ∧
      row < 3 ∧ kit.sizes.length ≤ 6 :=
    fun row hrow => cellForRowAt_isOk_iff.mp (shown_of_isSafe h hrow hbuttons)
  have hlen : s.productKitList.length ≤ 3 := by
    by_contra hlen
    obtain ⟨_, _, hlt, _⟩ := hshown 3 (by omega)
    omega
  refine ⟨hlen, ?_, ?_⟩
  · intro kit hkit
    obtain ⟨row, hrow, rfl⟩ := List.getElem_of_mem hkit
    obtain ⟨kit', hkit', _, hsizes⟩ := hshown row hrow
    rw [List.getElem?_eq_getElem hrow, Option.some.injEq] at hkit'
    rwa [hkit']
  · have hprices : 0 + s.productKitList.length ≤ productPriceList.length := by
      rw [Nat.zero_add]
      exact hlen
    exact (nextLoop_isOk_iff hprices).mp (nextPressed_of_isSafe h)

end ExtraEquipment

end WeatherAccommodation
