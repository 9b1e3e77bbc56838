/-
# The table of kits

`ExtraEquipmentViewController.swift` and `ProviderProductKitViewController.swift` show the kits of
the server in a table, one row a kit, with a button for each of its sizes.  The server sends the
kits in one reply and all their sizes in another.  The pictures lie in an array of three, and the
buttons of a row are those of its cell: a row is shown exactly if the first has an entry for it and
the second are enough for its sizes (`cellForRowAt_isOk_iff`).

A press on a button toggles the size that carries its tag and deselects the other sizes of the row.
Sizes with different ids of which at most one is selected stay so (`Single.btnSizePressed`), and
`btnSizePressed_effect` says what a press changes.
-/
import WeatherAccommodation.Client.Equipment

namespace WeatherAccommodation

open Foundation Reactive

namespace KitTable

/-! ## 1. The replies -/

/-- The loop of `getKit`. -/
def getKit (productKitList : List ProductKit) (response : List Dict) : List ProductKit :=
  productKitList ++ response.map ProductKit.ofDict

/-- The sizes of a reply that belong to a kit. -/
def sizesOf (response : List Dict) (kit : ProductKit) : List ProductSize :=
  (response.map ProductSize.ofDict).filter fun size => size.productKitId == kit.productKitId

/-- The loop of `getKitSize`. -/
def getKitSize (productKitList : List ProductKit) (response : List Dict) : List ProductKit :=
  productKitList.map fun kit => { kit with sizes := sizesOf response kit }

/-! ## 2. A row -/

/-- A button of `ProviderKitTableCell.sizeButtons`. -/
structure SizeButton where
  title : String := ""
  tag : Int := 0
  isHidden : Bool := false
  isColored : Bool := false
  deriving DecidableEq, Repr

/-- The buttons of a cell, as many as the storyboard has there. -/
abbrev SizeButtons (n : Nat) := { sizeButtons : List SizeButton // sizeButtons.length = n }

/-- A button as the loop configures it for a size. -/
def SizeButton.configured (size : ProductSize) : SizeButton where
  title := size.size
  tag := size.productKitSizeId
  isHidden := false
  isColored := size.isSelected

def productImageList : List String := ["umbrella", "rain-coat", "shoes"]

/-- The loop over the sizes, each on the button at its index. -/
def configureButtons : List ProductSize → Nat → List SizeButton → Except Trap (List SizeButton)
  | [], _, sizeButtons => .ok sizeButtons
  | size :: sizes, index, sizeButtons => do
    let _ ← unwrap .indexOutOfRange sizeButtons[index]?
    configureButtons sizes (index + 1) (sizeButtons.set index (.configured size))

/-- `sizeButtons[sizes.count..<sizeButtons.count].forEach { $0.isHidden = true }`; a range whose
ends are the wrong way round traps like an index. -/
def hideButtons (count : Nat) (sizeButtons : List SizeButton) : Except Trap (List SizeButton) :=
  if count ≤ sizeButtons.length then
    return sizeButtons.take count ++
      (sizeButtons.drop count).map fun button => { button with isHidden := true }
  else throw .indexOutOfRange

/-- What a cell shows. -/
structure KitCell where
  lblName : String
  imgProduct : String
  sizeButtons : List SizeButton
  /-- The buttons need a second line. -/
  newLine : Bool
  deriving DecidableEq, Repr

/-- Both `cellForRowAt`: they differ in the label, and in the number of buttons in the first line. -/
def cellForRowAt (lblName : ProductKit → Except Trap String) (inFirstLine : Nat)
    (productKitList : List ProductKit) (row : Nat) (sizeButtons : List SizeButton) :
    Except Trap KitCell := do
  let kit ← unwrap .indexOutOfRange productKitList[row]?
  let text ← lblName kit
  let image ← unwrap .indexOutOfRange productImageList[row]?
  let sizeButtons ← configureButtons kit.sizes 0 sizeButtons
  let sizeButtons ← hideButtons kit.sizes.length sizeButtons
  return {
    lblName := text
    imgProduct := image
    sizeButtons := sizeButtons
    newLine := decide (inFirstLine < kit.sizes.length) }

/-- The loop does not run out of buttons exactly if there are enough. -/
theorem configureButtons_isOk_iff {sizes : List ProductSize} {index : Nat}
    {sizeButtons : List SizeButton} :
    (∃ configured, configureButtons sizes index sizeButtons = .ok configured) ↔
      sizes = [] ∨ index + sizes.length ≤ sizeButtons.length := by
  induction sizes generalizing index sizeButtons with
  | nil => simp [configureButtons]
  | cons size sizes ih =>
    simp only [configureButtons, bind_eq_ok, unwrap_eq_ok, List.length_cons, reduceCtorEq,
      false_or]
    constructor
    · rintro ⟨configured, button, hbutton, hrest⟩
      have hindex : index < sizeButtons.length := (List.getElem?_eq_some_iff.mp hbutton).1
      rcases ih.mp ⟨configured, hrest⟩ with rfl | hlen
      · rw [List.length_nil]
        omega
      · rw [List.length_set] at hlen
        omega
    · intro hlen
      have hindex : index < sizeButtons.length := by omega
      have hrest : index + 1 + sizes.length ≤ (sizeButtons.set index (.configured size)).length := by
        rw [List.length_set]
        omega
      obtain ⟨configured, hconfigured⟩ := ih.mpr (.inr hrest)
      exact ⟨configured, sizeButtons[index], List.getElem?_eq_getElem hindex, hconfigured⟩

theorem length_configureButtons {sizes : List ProductSize} {index : Nat}
    {sizeButtons configured : List SizeButton}
    (h : configureButtons sizes index sizeButtons = .ok configured) :
    configured.length = sizeButtons.length := by
  induction sizes generalizing index sizeButtons with
  | nil => rw [Except.ok.inj h]
  | cons size sizes ih =>
    simp only [configureButtons, bind_eq_ok] at h
    obtain ⟨_, _, h⟩ := h
    rw [ih h, List.length_set]

/-- **When a row is shown.**  It has a kit, a label and a picture, and the kit has no more sizes than
the cell has buttons. -/
theorem cellForRowAt_isOk_iff {lblName : ProductKit → Except Trap String} {inFirstLine : Nat}
    {productKitList : List ProductKit} {row : Nat} {sizeButtons : List SizeButton} :
    (∃ cell, cellForRowAt lblName inFirstLine productKitList row sizeButtons = .ok cell) ↔
      ∃ kit, productKitList[row]? = some kit ∧ (∃ text, lblName kit = .ok text) ∧
        row < productImageList.length ∧ kit.sizes.length ≤ sizeButtons.length := by
  simp only [cellForRowAt, bind_eq_ok, unwrap_eq_ok, pure_eq_ok]
  constructor
  · rintro ⟨_, kit, hkit, text, htext, image, himage, configured, hconfigured, hidden, hhidden, _⟩
    refine ⟨kit, hkit, ⟨text, htext⟩, (List.getElem?_eq_some_iff.mp himage).1, ?_⟩
    unfold hideButtons at hhidden
    split at hhidden
    · rename_i hle
      rwa [length_configureButtons hconfigured] at hle
    · simp at hhidden
  · rintro ⟨kit, hkit, ⟨text, htext⟩, hrow, hlen⟩
    have hbuttons : 0 + kit.sizes.length ≤ sizeButtons.length := by omega
    obtain ⟨configured, hconfigured⟩ := configureButtons_isOk_iff.mpr (.inr hbuttons)
    have hhidden : ∃ hidden, hideButtons kit.sizes.length configured = .ok hidden := by
      rw [hideButtons, if_pos (by rwa [length_configureButtons hconfigured])]
      exact ⟨_, rfl⟩
    obtain ⟨hidden, hhidden⟩ := hhidden
    exact ⟨_, kit, hkit, text, htext, _, List.getElem?_eq_getElem hrow, configured, hconfigured,
      hidden, hhidden, rfl⟩

/-! ## 3. The faults -/

/-- An index outside an array, a range the wrong way round, or a text that is no number. -/
def isKitFault : Trap → Bool
  | .indexOutOfRange => true
  | .notANumber _ => true
  | _ => false

/-- If this traps, then with such a fault. -/
abbrev TrapsOnlyInKits {α : Type} (x : Except Trap α) : Prop :=
  Avoids (fun fault => isKitFault fault = false) x

theorem trapsOnlyInKits_unwrap {α : Type} (o : Option α) :
    TrapsOnlyInKits (unwrap .indexOutOfRange o) :=
  avoids_unwrap fun _ => by simp [isKitFault]

theorem trapsOnlyInKits_configureButtons {sizes : List ProductSize} {index : Nat}
    {sizeButtons : List SizeButton} :
    TrapsOnlyInKits (configureButtons sizes index sizeButtons) := by
  induction sizes generalizing index sizeButtons with
  | nil => exact avoids_ok _
  | cons size sizes ih => exact (trapsOnlyInKits_unwrap _).bind fun _ _ => ih

theorem trapsOnlyInKits_cellForRowAt {lblName : ProductKit → Except Trap String} {inFirstLine : Nat}
    {productKitList : List ProductKit} {row : Nat} {sizeButtons : List SizeButton}
    (h : ∀ kit, TrapsOnlyInKits (lblName kit)) :
    TrapsOnlyInKits (cellForRowAt lblName inFirstLine productKitList row sizeButtons) := by
  refine (trapsOnlyInKits_unwrap _).bind fun kit _ => (h kit).bind fun text _ =>
    (trapsOnlyInKits_unwrap _).bind fun image _ => trapsOnlyInKits_configureButtons.bind
      fun configured _ => Avoids.bind ?_ fun _ _ => avoids_pure _
  unfold hideButtons
  exact avoids_ite (fun _ => avoids_pure _) fun _ => avoids_error (by simp [isKitFault])

/-- What follows without a fault does not change the fault. -/
theorem map_eq_error {α β : Type} {x : Except Trap α} {f : α → β} {fault : Trap} :
    x.map f = .error fault ↔ x = .error fault := by
  cases x <;> simp [Except.map]

/-- Nothing that can happen next ends in such a fault. -/
def IsSafe {σ ε : Type} (M : Machine σ ε Trap) (s : σ) : Prop :=
  ∀ e fault, M.Traps s e fault → isKitFault fault = false

/-! ## 4. The sizes -/

/-- One round of the loop over the sizes. -/
def toggle (tag : Int) (size : ProductSize) : ProductSize :=
  if size.productKitSizeId = tag then { size with isSelected := !size.isSelected }
  else { size with isSelected := false }

/-- Both `btnSizePressed`, on a button of the row: the copy of the sizes is written back. -/
def btnSizePressed (productKitList : List ProductKit) (row : Nat) (tag : Int) :
    Except Trap (List ProductKit) := do
  let kit ← unwrap .indexOutOfRange productKitList[row]?
  return productKitList.set row { kit with sizes := kit.sizes.map (toggle tag) }

/-- The ids of the sizes of a kit. -/
def sizeIds (kit : ProductKit) : List Int := kit.sizes.map (·.productKitSizeId)

/-- Sizes with different ids, of which at most one is selected. -/
structure Single (kit : ProductKit) : Prop where
  nodup : (sizeIds kit).Nodup
  atMostOne : (kit.sizes.filter (·.isSelected)).length ≤ 1

/-- A press names a row and one of its sizes. -/
def Names (productKitList : List ProductKit) (press : Nat × Int) : Prop :=
  ∃ kit, productKitList[press.1]? = some kit ∧ press.2 ∈ sizeIds kit

/-- Presses, one after the other. -/
def pressEach : List (Nat × Int) → List ProductKit → Except Trap (List ProductKit)
  | [], productKitList => .ok productKitList
  | press :: presses, productKitList => do
    let productKitList ← btnSizePressed productKitList press.1 press.2
    pressEach presses productKitList

/-- The pressed size is toggled, its siblings are deselected, and nothing else changes. -/
structure Pressed (before after : List ProductKit) (row : Nat) (tag : Int) : Prop where
  length_eq : after.length = before.length
  others : ∀ other, other ≠ row → after[other]? = before[other]?
  own : ∃ kit kit', before[row]? = some kit ∧ after[row]? = some kit' ∧
    kit' = { kit with sizes := kit'.sizes } ∧ kit'.sizes.length = kit.sizes.length ∧
    ∀ (i : Nat) (size : ProductSize), kit.sizes[i]? = some size → kit'.sizes[i]? = some { size with
      isSelected := decide (size.productKitSizeId = tag ∧ size.isSelected = false) }

@[simp] theorem toggle_productKitSizeId (tag : Int) (size : ProductSize) :
    (toggle tag size).productKitSizeId = size.productKitSizeId := by
  unfold toggle
  split <;> rfl

theorem toggle_eq (tag : Int) (size : ProductSize) :
    toggle tag size = { size with
      isSelected := decide (size.productKitSizeId = tag ∧ size.isSelected = false) } := by
  unfold toggle
  split
  · rename_i h
    cases hsel : size.isSelected <;> simp [h]
  · rename_i h
    simp [h]

theorem sizeIds_toggle (kit : ProductKit) (tag : Int) :
    sizeIds { kit with sizes := kit.sizes.map (toggle tag) } = sizeIds kit := by
  simp [sizeIds, Function.comp_def]

/-- Only a size with the pressed id can be selected afterwards, and no two have it. -/
theorem Single.toggle {kit : ProductKit} (h : Single kit) (tag : Int) :
    Single { kit with sizes := kit.sizes.map (toggle tag) } where
  nodup := by
    rw [sizeIds_toggle]
    exact h.nodup
  atMostOne := by
    have hcount : (sizeIds kit).count tag ≤ 1 := List.nodup_iff_count.mp h.nodup tag
    rw [sizeIds, List.count, List.countP_map] at hcount
    rw [← List.countP_eq_length_filter, List.countP_map]
    refine le_trans (List.countP_mono_left fun size _ hsel => ?_) hcount
    simp only [Function.comp_apply, toggle_eq, decide_eq_true_eq] at hsel
    simp [hsel.1]

section Presses

variable {productKitList after : List ProductKit} {row : Nat} {tag : Int}

/-- **What a press changes.** -/
theorem btnSizePressed_effect (h : Names productKitList (row, tag)) :
    ∃ after, btnSizePressed productKitList row tag = .ok after ∧
      Pressed productKitList after row tag := by
  obtain ⟨kit, hkit, -⟩ := h
  have hrow : row < productKitList.length := (List.getElem?_eq_some_iff.mp hkit).1
  refine ⟨productKitList.set row { kit with sizes := kit.sizes.map (KitTable.toggle tag) }, ?_,
    ⟨List.length_set, fun other hne => List.getElem?_set_ne (Ne.symm hne), kit, _, hkit,
      List.getElem?_set_self hrow, rfl, List.length_map .., fun i size hsize => ?_⟩⟩
  · simp [btnSizePressed, hkit]
  · rw [List.getElem?_map, hsize, Option.map_some, toggle_eq]

/-- A press leaves the ids where they are. -/
theorem map_sizeIds_btnSizePressed (h : btnSizePressed productKitList row tag = .ok after) :
    after.map sizeIds = productKitList.map sizeIds := by
  simp only [btnSizePressed, bind_eq_ok, unwrap_eq_ok, pure_eq_ok] at h
  obtain ⟨kit, hkit, rfl⟩ := h
  obtain ⟨hrow, rfl⟩ := List.getElem?_eq_some_iff.mp hkit
  rw [List.map_set, sizeIds_toggle]
  have hrow' : row < (productKitList.map sizeIds).length := by rwa [List.length_map]
  have hself : (productKitList.map sizeIds).set row (productKitList.map sizeIds)[row] =
      productKitList.map sizeIds := List.set_getElem_self hrow'
  rwa [List.getElem_map] at hself

/-- Whether a press names a size is a matter of the ids. -/
theorem names_congr (h : after.map sizeIds = productKitList.map sizeIds) (press : Nat × Int) :
    Names after press ↔ Names productKitList press := by
  have hids : ∀ kits : List ProductKit, Names kits press ↔
      ∃ ids, (kits.map sizeIds)[press.1]? = some ids ∧ press.2 ∈ ids := by
    intro kits
    simp [Names, List.getElem?_map]
  rw [hids, hids, h]

/-- One press. -/
theorem Single.btnSizePressed (hkits : ∀ kit ∈ productKitList, Single kit)
    (h : btnSizePressed productKitList row tag = .ok after) : ∀ kit ∈ after, Single kit := by
  simp only [KitTable.btnSizePressed, bind_eq_ok, unwrap_eq_ok, pure_eq_ok] at h
  obtain ⟨kit, hkit, rfl⟩ := h
  intro kit' hkit'
  rcases List.mem_or_eq_of_mem_set hkit' with hmem | rfl
  · exact hkits kit' hmem
  · exact (hkits kit (List.mem_of_getElem? hkit)).toggle tag

/-- Any presses. -/
theorem Single.pressEach {presses : List (Nat × Int)}
    (hkits : ∀ kit ∈ productKitList, Single kit)
    (hpresses : ∀ press ∈ presses, Names productKitList press) :
    ∃ after, pressEach presses productKitList = .ok after ∧ (∀ kit ∈ after, Single kit) ∧
      after.map sizeIds = productKitList.map sizeIds := by
  induction presses generalizing productKitList with
  | nil => exact ⟨productKitList, rfl, hkits, rfl⟩
  | cons press presses ih =>
    obtain ⟨next, hnext, -⟩ := btnSizePressed_effect (hpresses press List.mem_cons_self)
    have hids := map_sizeIds_btnSizePressed hnext
    obtain ⟨after, hafter, hsingle, hsame⟩ := ih (Single.btnSizePressed hkits hnext) fun p hp =>
      (names_congr hids p).mpr (hpresses p (List.mem_cons_of_mem _ hp))
    refine ⟨after, ?_, hsingle, hsame.trans hids⟩
    simp only [KitTable.pressEach, bind_eq_ok]
    exact ⟨next, hnext, hafter⟩

end Presses

end KitTable

end WeatherAccommodation
