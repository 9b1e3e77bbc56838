/-
# The provider's kit screen

`ProviderProductKitViewController.swift`: a provider chooses a size for every kit and uploads the
choice.  `btnNextPressed` looks for a kit without one first, and `uploadKitSize` takes the first
selected size of each kit, which is there by then.

* `size_selection`: with different ids and at most one size selected, presses leave at most one
  selected, and Next uploads exactly if each kit has one: its id, once, in the order of the kits.
* `isSafe_iff`: the screen stays clear of its arrays' ends exactly if there are three kits at most,
  of ten sizes at most.
-/
import WeatherAccommodation.KitTable

namespace WeatherAccommodation

open Foundation Reactive

/-- What a press on Next comes to. -/
inductive KitUpload where
  | showAlertOnNavigationBar (message : String)
  /-- `PROVIDERKITSAVE` -/
  | post (productKitSizeIDs : List Int) (providerId : Json)
  deriving DecidableEq

/-- `ProviderProductKitViewController` -/
structure ProviderProductKit where
  productKitList : List ProductKit := []
  /-- `getKit` waits for its reply, and then `getKitSize` does. -/
  kitIsAsked : Bool := true
  kitSizeIsAsked : Bool := false
  uploads : List KitUpload := []

/-- A reply is the list of its dictionaries. -/
inductive ProviderProductKitEvent where
  | kitReply (response : List Dict)
  | kitSizeReply (response : List Dict)
  | cellForRowAt (row : Nat) (sizeButtons : KitTable.SizeButtons 10)
  | btnSizePressed (row : Nat) (tag : Int)
  | btnNextPressed (device : Device)

namespace ProviderProductKit

open ExtraEquipment (hasSelectedSize)
open KitTable

/-! ## 1. The handlers -/

def cellForRowAt (productKitList : List ProductKit) (row : Nat) (sizeButtons : List SizeButton) :
    Except Trap KitCell :=
  KitTable.cellForRowAt (fun kit => .ok kit.name) 5 productKitList row sizeButtons

/-- `arr.filter{$0.isSelected}.map{$0.ProductKitSizeId}[0]` -/
def firstSelected (kit : ProductKit) : Except Trap Int :=
  unwrap .indexOutOfRange ((kit.sizes.filter (·.isSelected)).map (·.productKitSizeId))[0]?

/-- The loop of `uploadKitSize`. -/
def selectedSizes : List ProductKit → Except Trap (List Int)
  | [] => .ok []
  | kit :: kits => do
    let id ← firstSelected kit
    let ids ← selectedSizes kits
    return id :: ids

/-- `getObjectFromUserDefault(…).value(forKey: UserProfileKey.ProviderId)!` -/
def providerId (device : Device) : Except Trap Json := do
  let profile ← device.defaults.getObject .userProfileInfoDef
  forceKey profile "ProviderId"

def uploadKitSize (device : Device) (productKitList : List ProductKit) : Except Trap KitUpload := do
  let arrSelectedSize ← selectedSizes productKitList
  let id ← providerId device
  return .post arrSelectedSize id

/-- The first kit without a selected size ends the press. -/
def btnNextPressed (device : Device) (productKitList : List ProductKit) : Except Trap KitUpload :=
  if productKitList.all hasSelectedSize then uploadKitSize device productKitList
  else return .showAlertOnNavigationBar "Select any one of sizes for all products"

def react (s : ProviderProductKit) :
    ProviderProductKitEvent → Option (Except Trap ProviderProductKit)
  | .kitReply response =>
    if s.kitIsAsked then some (.ok { s with
      productKitList := getKit s.productKitList response
      kitIsAsked := false
      kitSizeIsAsked := true })
    else none
  | .kitSizeReply response =>
    if s.kitSizeIsAsked then some (.ok { s with
      productKitList := getKitSize s.productKitList response
      kitSizeIsAsked := false })
    else none
  | .cellForRowAt row sizeButtons =>
    if row < s.productKitList.length then
      some ((cellForRowAt s.productKitList row sizeButtons.val).map fun _ => s)
    else none
  | .btnSizePressed row tag =>
    if row < s.productKitList.length then
      some ((KitTable.btnSizePressed s.productKitList row tag).map fun productKitList =>
        { s with productKitList := productKitList })
    else none
  | .btnNextPressed device =>
    some ((btnNextPressed device s.productKitList).map fun upload =>
      { s with uploads := s.uploads ++ [upload] })

def machine : Machine ProviderProductKit ProviderProductKitEvent Trap where
  react := react

/-! ## 2. Choosing and uploading -/

/-- The ids are those of the selected sizes, one a kit and in their order. -/
def OneEach (productKitList : List ProductKit) (ids : List Int) : Prop :=
  List.Forall₂ (fun kit id => ∃ size, kit.sizes.filter (·.isSelected) = [size] ∧
    size.productKitSizeId = id) productKitList ids

variable {productKitList : List ProductKit}

/-- A kit with a selected size has a first one. -/
theorem exists_firstSelected {kit : ProductKit} (h : hasSelectedSize kit = true) :
    ∃ size rest, kit.sizes.filter (·.isSelected) = size :: rest ∧
      firstSelected kit = .ok size.productKitSizeId := by
  cases hsel : kit.sizes.filter (·.isSelected) with
  | nil =>
    obtain ⟨size, hsize, hselected⟩ := List.any_eq_true.mp h
    exact absurd hselected (List.filter_eq_nil_iff.mp hsel size hsize)
  | cons size rest => exact ⟨size, rest, rfl, by simp [firstSelected, hsel]⟩

/-- The guard makes the first element be there. -/
theorem exists_selectedSizes (h : productKitList.all hasSelectedSize = true) :
    ∃ ids, selectedSizes productKitList = .ok ids ∧
      ((∀ kit ∈ productKitList, Single kit) → OneEach productKitList ids) := by
  induction productKitList with
  | nil => exact ⟨[], rfl, fun _ => .nil⟩
  | cons kit kits ih =>
    rw [List.all_cons, Bool.and_eq_true] at h
    obtain ⟨ids, hids, heach⟩ := ih h.2
    obtain ⟨size, rest, hsel, hfirst⟩ := exists_firstSelected h.1
    refine ⟨size.productKitSizeId :: ids, ?_, fun hsingle => .cons ⟨size, ?_, rfl⟩ ?_⟩
    · simp [selectedSizes, hfirst, hids]
    · have hone := (hsingle kit List.mem_cons_self).atMostOne
      rw [hsel, List.length_cons] at hone
      obtain rfl : rest = [] := List.length_eq_zero_iff.mp (by omega)
      exact hsel
    · exact heach fun k hk => hsingle k (List.mem_cons_of_mem _ hk)

/-- **What Next does**: it uploads if every kit has a selected size, and alerts otherwise. -/
theorem btnNextPressed_cases (hkits : ∀ kit ∈ productKitList, Single kit) :
    (productKitList.all hasSelectedSize = true ∧ ∃ ids, OneEach productKitList ids ∧
      ∀ device, btnNextPressed device productKitList = (providerId device).map (.post ids)) ∨
    (productKitList.all hasSelectedSize = false ∧ ∀ device,
      btnNextPressed device productKitList =
        .ok (.showAlertOnNavigationBar "Select any one of sizes for all products")) := by
  cases hall : productKitList.all hasSelectedSize with
  | false => exact .inr ⟨rfl, fun device => by simp [btnNextPressed, hall]⟩
  | true =>
    obtain ⟨ids, hids, heach⟩ := exists_selectedSizes hall
    refine .inl ⟨rfl, ids, heach hkits, fun device => ?_⟩
    simp only [btnNextPressed, hall, if_true, uploadKitSize, hids]
    cases providerId device <;> rfl

/-- **Size selection and upload.**  The kits have sizes of different ids, at most one of them
selected.  After any presses, each on a size of a row, every kit still has at most one selected;
one more press toggles its size, deselects the siblings and changes nothing else; and Next posts the
ids of the selected sizes, one for each kit and in their order, if every kit has one, and alerts if
some kit has none.  Only the profile, which the id of the provider is read from, can stop it. -/
theorem size_selection (hkits : ∀ kit ∈ productKitList, Single kit) {presses : List (Nat × Int)}
    (hpresses : ∀ press ∈ presses, Names productKitList press) :
    ∃ after, pressEach presses productKitList = .ok after ∧
      (∀ kit ∈ after, (kit.sizes.filter (·.isSelected)).length ≤ 1) ∧
      (∀ row tag, Names productKitList (row, tag) →
        ∃ next, KitTable.btnSizePressed after row tag = .ok next ∧ Pressed after next row tag) ∧
      ((after.all hasSelectedSize = true ∧ ∃ ids, OneEach after ids ∧
          ∀ device, btnNextPressed device after = (providerId device).map (.post ids)) ∨
        (after.all hasSelectedSize = false ∧ ∀ device, btnNextPressed device after =
          .ok (.showAlertOnNavigationBar "Select any one of sizes for all products"))) := by
  obtain ⟨after, hafter, hsingle, hids⟩ := Single.pressEach hkits hpresses
  refine ⟨after, hafter, fun kit hkit => (hsingle kit hkit).atMostOne, fun row tag hnames => ?_,
    btnNextPressed_cases hsingle⟩
  exact btnSizePressed_effect ((names_congr hids (row, tag)).mpr hnames)

/-- An umbrella of two sizes and a coat of one, chosen or not. -/
def threeSizes (small medium large : Bool) : List ProductKit :=
  [⟨1, "Umbrella", "", [⟨1, "S", 1, small⟩, ⟨2, "M", 1, medium⟩]⟩,
    ⟨2, "Rain Coat", "", [⟨3, "L", 2, large⟩]⟩]

/-- Small, then medium instead, and the coat. -/
theorem medium_and_coat_uploaded :
    ∃ after ids, pressEach [(0, 1), (0, 2), (1, 3)] (threeSizes false false false) = .ok after ∧
      OneEach after ids ∧
      ∀ device, btnNextPressed device after = (providerId device).map (.post ids) := by
  obtain ⟨after, hafter, -, -, hnext⟩ := @size_selection (threeSizes false false false) (by
    intro kit hkit
    simp only [threeSizes, List.mem_cons, List.not_mem_nil, or_false] at hkit
    rcases hkit with rfl | rfl <;> exact ⟨by decide, by decide⟩) [(0, 1), (0, 2), (1, 3)] (by
    intro press hpress
    simp only [List.mem_cons, List.not_mem_nil, or_false] at hpress
    rcases hpress with rfl | rfl | rfl <;> exact ⟨_, rfl, by decide⟩)
  have hpressed : pressEach [(0, 1), (0, 2), (1, 3)] (threeSizes false false false) =
      .ok (threeSizes false true true) := by decide
  obtain rfl := Except.ok.inj (hpressed.symm.trans hafter)
  rcases hnext with ⟨-, ids, heach, hpost⟩ | ⟨hnone, -⟩
  · exact ⟨_, ids, hafter, heach, hpost⟩
  · exact absurd hnone (by decide)

/-! ## 3. The arrays -/

/-- Three kits at most, for the pictures, and ten sizes each, for the buttons. -/
structure Fits (s : ProviderProductKit) : Prop where
  kits : s.productKitList.length ≤ 3
  sizes : ∀ kit ∈ s.productKitList, kit.sizes.length ≤ 10

/-- A row is shown exactly if it has a picture, and buttons for its sizes. -/
theorem cellForRowAt_isOk_iff {row : Nat} {sizeButtons : SizeButtons 10} :
    (∃ cell, cellForRowAt productKitList row sizeButtons.val = .ok cell) ↔
      ∃ kit, productKitList[row]? = some kit ∧ row < 3 ∧ kit.sizes.length ≤ 10 := by
  rw [cellForRowAt, KitTable.cellForRowAt_isOk_iff, sizeButtons.property]
  simp [productImageList]

/-- A profile that cannot be read is no fault of the kits. -/
theorem isKitFault_providerId {device : Device} {fault : Trap}
    (h : providerId device = .error fault) : isKitFault fault = false := by
  rcases bind_eq_error.mp h with h | ⟨profile, _, h⟩
  · unfold UserDefaults.getObject at h
    split at h
    · simp at h
    · rw [← Except.error.inj h]
      rfl
  · rw [← (unwrap_eq_error.mp h).2]
    rfl

theorem Fits.isSafe {s : ProviderProductKit} (h : Fits s) : IsSafe machine s := by
  intro e fault htraps
  cases e with
  | kitReply response => simp [Machine.Traps, machine, react] at htraps
  | kitSizeReply response => simp [Machine.Traps, machine, react] at htraps
  | cellForRowAt row sizeButtons =>
    simp only [Machine.Traps, machine, react, Option.ite_none_right_eq_some, Option.some.injEq,
      map_eq_error] at htraps
    obtain ⟨hrow, herror⟩ := htraps
    have hlt : row < 3 := lt_of_lt_of_le hrow h.kits
    obtain ⟨cell, hcell⟩ := (@cellForRowAt_isOk_iff _ row sizeButtons).mpr
      ⟨_, List.getElem?_eq_getElem hrow, hlt, h.sizes _ (List.getElem_mem hrow)⟩
    rw [hcell] at herror
    exact absurd herror (by simp)
  | btnSizePressed row tag =>
    simp only [Machine.Traps, machine, react, Option.ite_none_right_eq_some, Option.some.injEq,
      map_eq_error] at htraps
    obtain ⟨hrow, herror⟩ := htraps
    simp [KitTable.btnSizePressed, List.getElem?_eq_getElem hrow] at herror
  | btnNextPressed device =>
    simp only [Machine.Traps, machine, react, Option.some.injEq, map_eq_error] at htraps
    cases hall : s.productKitList.all hasSelectedSize with
    | false => simp [btnNextPressed, hall, pure, Except.pure] at htraps
    | true =>
      obtain ⟨ids, hids, -⟩ := exists_selectedSizes hall
      simp only [btnNextPressed, hall, if_true, uploadKitSize, hids, bind, Except.bind] at htraps
      cases hid : providerId device with
      | ok id => simp [hid, pure, Except.pure] at htraps
      | error fault' =>
        rw [hid] at htraps
        obtain rfl : fault' = fault := by simpa using htraps
        exact isKitFault_providerId hid

/-- A row that is not shown is a fault of the kits. -/
theorem shown_of_isSafe {s : ProviderProductKit} (h : IsSafe machine s) {row : Nat}
    (hrow : row < s.productKitList.length) (sizeButtons : SizeButtons 10) :
    ∃ cell, cellForRowAt s.productKitList row sizeButtons.val = .ok cell := by
  cases hcell : cellForRowAt s.productKitList row sizeButtons.val with
  | ok cell => exact ⟨cell, rfl⟩
  | error fault =>
    have htraps : machine.Traps s (.cellForRowAt row sizeButtons) fault := by
      simp [Machine.Traps, machine, react, hrow, hcell, Except.map]
    have honly := trapsOnlyInKits_cellForRowAt (fun kit => avoids_ok kit.name) fault hcell
    exact absurd (h _ _ htraps) honly

/-- **When the screen stays clear of the ends of its arrays.** -/
theorem isSafe_iff (s : ProviderProductKit) : IsSafe machine s ↔ Fits s := by
  refine ⟨fun h => ?_, Fits.isSafe⟩
  have hbuttons : SizeButtons 10 := ⟨List.replicate 10 {}, List.length_replicate⟩
  have hshown : ∀ row, row < s.productKitList.length → ∃ kit, s.productKitList[row]? = some kit ∧
      row < 3 ∧ kit.sizes.length ≤ 10 :=
    fun row hrow => cellForRowAt_isOk_iff.mp (shown_of_isSafe h hrow hbuttons)
  constructor
  · by_contra hlen
    obtain ⟨_, _, hlt, _⟩ := hshown 3 (by omega)
    omega
  · intro kit hkit
    obtain ⟨row, hrow, rfl⟩ := List.getElem_of_mem hkit
    obtain ⟨kit', hkit', _, hsizes⟩ := hshown row hrow
    rw [List.getElem?_eq_getElem hrow, Option.some.injEq] at hkit'
    rwa [hkit']

end ProviderProductKit

end WeatherAccommodation
