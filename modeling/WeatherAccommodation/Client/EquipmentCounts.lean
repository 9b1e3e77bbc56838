/-
# Counting the equipment that was chosen

`showSelectedProducts` hears of the kits that were chosen and raises three counters.  It filters
the kits by a word in their names and takes the quantity of the first match.

`equipment_counted_iff`: every kit is counted, in its own category and in all, exactly if no
category has more than one kit and the counters and their total are still `Int`s.  A second umbrella
goes uncounted.
-/
import Mathlib.Algebra.BigOperators.Group.List.Basic
import WeatherAccommodation.Client.Dashboard

namespace WeatherAccommodation

open Foundation Reactive

namespace ClientDashboard

/-! ## 1. Categories -/

/-- The words the three filters look for. -/
inductive Category where
  | umbrella
  | raincoat
  | shoes
  deriving DecidableEq, Repr

def Category.word : Category → String
  | .umbrella => "Umbrella"
  | .raincoat => "Rain Coat"
  | .shoes => "Shoes"

/-- The counter of a category. -/
def count (d : ClientDashboard) : Category → Int
  | .umbrella => d.umbrellaCount
  | .raincoat => d.raincoatCount
  | .shoes => d.shoesCount

/-- The kits of a category. -/
def ofCategory (products : List ProductKit) (category : Category) : List ProductKit :=
  products.filter (isNamed category.word)

/-- The quantity of a kit as a number. -/
def pieces (kit : ProductKit) : Int := (int? kit.quantity).getD 0

/-- The pieces of all the kits. -/
def piecesOf (products : List ProductKit) : Int := (products.map pieces).sum

/-- A list of chosen kits: positive quantities, and a name with exactly one of the words. -/
structure Chosen (products : List ProductKit) : Prop where
  quantity : ∀ kit ∈ products, ∃ n, int? kit.quantity = some n ∧ 0 < n
  name : ∀ kit ∈ products, ∃! category : Category, isNamed category.word kit = true

/-- Each counter is raised by the pieces of its own kits, and all together by those of the list. -/
structure Counted (d d' : ClientDashboard) (products : List ProductKit) : Prop where
  own : ∀ category, d'.count category = d.count category + piecesOf (ofCategory products category)
  all : d'.umbrellaCount + d'.raincoatCount + d'.shoesCount =
    d.umbrellaCount + d.raincoatCount + d.shoesCount + piecesOf products

variable {products : List ProductKit} {kit : ProductKit}

theorem Chosen.pieces_pos (h : Chosen products) (hkit : kit ∈ products) : 0 < pieces kit := by
  obtain ⟨n, hn, hpos⟩ := h.quantity kit hkit
  simpa [pieces, hn] using hpos

theorem Chosen.tail (h : Chosen (kit :: products)) : Chosen products where
  quantity := fun k hk => h.quantity k (List.mem_cons_of_mem _ hk)
  name := fun k hk => h.name k (List.mem_cons_of_mem _ hk)

@[simp] theorem piecesOf_nil : piecesOf [] = 0 := List.sum_nil

@[simp] theorem piecesOf_cons (kit : ProductKit) (products : List ProductKit) :
    piecesOf (kit :: products) = pieces kit + piecesOf products := by
  simp [piecesOf]

/-- Positive quantities come to nothing only if there is no kit. -/
theorem piecesOf_nonneg (h : ∀ kit ∈ products, 0 < pieces kit) :
    0 ≤ piecesOf products ∧ (piecesOf products = 0 ↔ products = []) := by
  induction products with
  | nil => simp
  | cons kit products ih =>
    have hkit : 0 < pieces kit := h kit List.mem_cons_self
    have hrest := (ih fun k hk => h k (List.mem_cons_of_mem _ hk)).1
    rw [piecesOf_cons]
    refine ⟨by omega, ⟨fun hzero => ?_, fun hnil => absurd hnil (by simp)⟩⟩
    omega

/-- **The categories share the kits out.** -/
theorem Chosen.piecesOf_eq (h : Chosen products) :
    piecesOf products = piecesOf (ofCategory products .umbrella) +
      piecesOf (ofCategory products .raincoat) + piecesOf (ofCategory products .shoes) := by
  induction products with
  | nil => rfl
  | cons kit products ih =>
    have hrest := ih h.tail
    obtain ⟨category, hnamed, hunique⟩ := h.name kit List.mem_cons_self
    have hother : ∀ category', category' ≠ category → isNamed category'.word kit = false := by
      intro category' hne
      by_contra hname
      exact hne (hunique category' (by simpa using hname))
    -- The kit is in one filter, and in none of the two others.
    have hsame : piecesOf (ofCategory (kit :: products) category) =
        pieces kit + piecesOf (ofCategory products category) := by
      rw [ofCategory, List.filter_cons_of_pos hnamed, piecesOf_cons, ofCategory]
    have hleft : ∀ category', category' ≠ category →
        ofCategory (kit :: products) category' = ofCategory products category' := by
      intro category' hne
      rw [ofCategory, List.filter_cons_of_neg (by simp [hother category' hne]), ofCategory]
    rw [piecesOf_cons, hrest]
    cases category with
    | umbrella => rw [hsame, hleft .raincoat (by decide), hleft .shoes (by decide)]; omega
    | raincoat => rw [hsame, hleft .umbrella (by decide), hleft .shoes (by decide)]; omega
    | shoes => rw [hsame, hleft .umbrella (by decide), hleft .raincoat (by decide)]; omega

/-! ## 2. What is counted -/

/-- The pieces of the first kit of a category, if there is one. -/
def firstPieces (products : List ProductKit) (category : Category) : Int :=
  ((ofCategory products category).head?.map pieces).getD 0

/-- A filter counts the first kit it finds. -/
theorem quantityOf_eq (h : Chosen products) (category : Category) :
    quantityOf category.word products = .ok (firstPieces products category) := by
  rw [firstPieces, ofCategory, List.head?_filter, quantityOf]
  cases hfind : products.find? (isNamed category.word) with
  | none => rfl
  | some kit =>
    obtain ⟨n, hn, _⟩ := h.quantity kit (List.mem_of_find?_eq_some hfind)
    simp [pieces, forceNumeral, hn]

/-- The dashboard with each counter raised by so many pieces. -/
def raised (d : ClientDashboard) (pieces : Category → Int) : ClientDashboard :=
  { d with
    umbrellaCount := d.umbrellaCount + pieces .umbrella
    raincoatCount := d.raincoatCount + pieces .raincoat
    shoesCount := d.shoesCount + pieces .shoes }

@[simp] theorem count_raised (d : ClientDashboard) (pieces : Category → Int) (category : Category) :
    (d.raised pieces).count category = d.count category + pieces category := by
  cases category <;> rfl

/-- The counters, and the sums on the way to their total, are `Int`s. -/
structure Fits (count : Category → Int) : Prop where
  own : ∀ category, InInt (count category)
  umbrellasAndShoes : InInt (count .umbrella + count .shoes)
  all : InInt (count .umbrella + count .shoes + count .raincoat)

theorem setKitItemsWithTextAndFont_eq_ok {d : ClientDashboard} {totalItems : Int} :
    d.setKitItemsWithTextAndFont = .ok totalItems ↔
      InInt (d.umbrellaCount + d.shoesCount) ∧
        InInt (d.umbrellaCount + d.shoesCount + d.raincoatCount) ∧
        d.umbrellaCount + d.shoesCount + d.raincoatCount = totalItems := by
  simp [setKitItemsWithTextAndFont, and_assoc]

/-- **What a notification counts**: the first kit of each category, if nothing overflows. -/
theorem showSelectedProducts_eq_ok (h : Chosen products) {d d' : ClientDashboard} :
    d.showSelectedProducts products = .ok d' ↔
      Fits (d.raised (firstPieces products)).count ∧ d' = d.raised (firstPieces products) := by
  have humbrella : quantityOf "Umbrella" products = .ok (firstPieces products .umbrella) :=
    quantityOf_eq h .umbrella
  have hraincoat : quantityOf "Rain Coat" products = .ok (firstPieces products .raincoat) :=
    quantityOf_eq h .raincoat
  have hshoes : quantityOf "Shoes" products = .ok (firstPieces products .shoes) :=
    quantityOf_eq h .shoes
  simp only [showSelectedProducts, humbrella, hraincoat, hshoes, bind_eq_ok, pure_eq_ok,
    checkedInt_eq_ok, setKitItemsWithTextAndFont_eq_ok, Except.ok.injEq]
  constructor
  · rintro ⟨_, rfl, _, ⟨hu, rfl⟩, _, rfl, _, ⟨hc, rfl⟩, _, rfl, _, ⟨hs, rfl⟩, _, ⟨htwo, hall, -⟩,
      rfl⟩
    refine ⟨⟨fun category => ?_, htwo, hall⟩, rfl⟩
    cases category with
    | umbrella => exact hu
    | raincoat => exact hc
    | shoes => exact hs
  · rintro ⟨hfits, rfl⟩
    exact ⟨_, rfl, _, ⟨hfits.own .umbrella, rfl⟩, _, rfl, _, ⟨hfits.own .raincoat, rfl⟩, _, rfl, _,
      ⟨hfits.own .shoes, rfl⟩, _, ⟨hfits.umbrellasAndShoes, hfits.all, rfl⟩, rfl⟩

/-- The first kit stands for its category exactly if it is the only one. -/
theorem firstPieces_eq_iff (h : Chosen products) (category : Category) :
    firstPieces products category = piecesOf (ofCategory products category) ↔
      (ofCategory products category).length ≤ 1 := by
  have hpos : ∀ kit ∈ ofCategory products category, 0 < pieces kit := by
    intro kit hkit
    exact h.pieces_pos (List.mem_of_mem_filter hkit)
  rw [firstPieces]
  cases hkits : ofCategory products category with
  | nil => simp
  | cons kit rest =>
    rw [hkits] at hpos
    have hzero : piecesOf rest = 0 ↔ rest.length = 0 :=
      (piecesOf_nonneg fun k hk => hpos k (List.mem_cons_of_mem _ hk)).2.trans
        List.length_eq_zero_iff.symm
    rw [List.head?_cons, Option.map_some, Option.getD_some, piecesOf_cons, List.length_cons]
    omega

/-- **When all the equipment is counted.**  A list of chosen kits, with positive quantities and one
of the three words in each name, raises each counter by the pieces of its own kits and the sum of
the counters by the pieces of all, exactly if no category has two kits in the list and the counters
so raised, with the sums on the way to their total, are still `Int`s. -/
theorem equipment_counted_iff (h : Chosen products) (d : ClientDashboard) :
    (∃ d', d.showSelectedProducts products = .ok d' ∧ Counted d d' products) ↔
      (∀ category, (ofCategory products category).length ≤ 1) ∧
        Fits fun category => d.count category + piecesOf (ofCategory products category) := by
  constructor
  · rintro ⟨d', hshow, hcounted⟩
    obtain ⟨hfits, rfl⟩ := (showSelectedProducts_eq_ok h).mp hshow
    have hraised : (d.raised (firstPieces products)).count = fun category =>
        d.count category + piecesOf (ofCategory products category) := funext hcounted.own
    refine ⟨fun category => ?_, hraised ▸ hfits⟩
    have hown := hcounted.own category
    rw [count_raised] at hown
    exact (firstPieces_eq_iff h category).mp (by omega)
  · rintro ⟨hsingle, hfits⟩
    have hfirst := fun category => (firstPieces_eq_iff h category).mpr (hsingle category)
    have hraised : (d.raised (firstPieces products)).count = fun category =>
        d.count category + piecesOf (ofCategory products category) := by
      funext category
      rw [count_raised, hfirst]
    refine ⟨_, (showSelectedProducts_eq_ok h).mpr ⟨hraised ▸ hfits, rfl⟩, congrFun hraised, ?_⟩
    simp only [raised, h.piecesOf_eq, hfirst]
    omega

/-- A kit for the tests, of which so many were ordered. -/
def orderedKit (id : Int) (name quantity : String) : ProductKit :=
  { productKitId := id, name := name, quantity := quantity, sizes := [] }

/-- One kit of each category, as the server has them now. -/
theorem three_kits_counted :
    ∃ d', ({} : ClientDashboard).showSelectedProducts [orderedKit 1 "Umbrella" "2",
        orderedKit 2 "Rain Coat" "1", orderedKit 3 "Shoes" "4"] = .ok d' ∧
      Counted {} d' [orderedKit 1 "Umbrella" "2", orderedKit 2 "Rain Coat" "1",
        orderedKit 3 "Shoes" "4"] := by
  refine (equipment_counted_iff ⟨?_, ?_⟩ {}).mpr ⟨?_, ?_, ?_, ?_⟩
  · simp only [List.forall_mem_cons]
    exact ⟨⟨2, by decide +kernel⟩, ⟨1, by decide +kernel⟩, ⟨4, by decide +kernel⟩, by simp⟩
  · have hname : ∀ kit ∈ [orderedKit 1 "Umbrella" "2", orderedKit 2 "Rain Coat" "1",
        orderedKit 3 "Shoes" "4"], ∃ category : Category, ∀ category' : Category,
          isNamed category'.word kit = true ↔ category' = category := by
      simp only [List.forall_mem_cons]
      refine ⟨⟨.umbrella, ?_⟩, ⟨.raincoat, ?_⟩, ⟨.shoes, ?_⟩, by simp⟩ <;>
        · intro category'
          cases category' <;> decide +kernel
    intro kit hkit
    obtain ⟨category, hcategory⟩ := hname kit hkit
    exact ⟨category, (hcategory category).mpr rfl, fun category' => (hcategory category').mp⟩
  · intro category
    cases category <;> decide +kernel
  · intro category
    cases category <;> decide +kernel
  · decide +kernel
  · decide +kernel

/-- Two umbrellas, and a large one. -/
def twoUmbrellaKits : List ProductKit :=
  [orderedKit 1 "Umbrella" "2", orderedKit 2 "Large Umbrella" "1"]

/-- **A second umbrella is not counted.**  The list has three pieces, and the counter is raised by
two. -/
theorem second_umbrella_not_counted :
    ¬ ∀ (products : List ProductKit) (d : ClientDashboard), Chosen products →
      ∃ d', d.showSelectedProducts products = .ok d' ∧ Counted d d' products := by
  intro h
  have hchosen : Chosen twoUmbrellaKits := by
    constructor
    · simp only [twoUmbrellaKits, List.forall_mem_cons]
      exact ⟨⟨2, by decide +kernel⟩, ⟨1, by decide +kernel⟩, by simp⟩
    · simp only [twoUmbrellaKits, List.forall_mem_cons]
      refine ⟨⟨.umbrella, by decide +kernel, ?_⟩, ⟨.umbrella, by decide +kernel, ?_⟩, by simp⟩ <;>
        · intro category
          cases category <;> decide +kernel
  obtain ⟨d', hshow, hcounted⟩ := h twoUmbrellaKits {} hchosen
  obtain ⟨-, rfl⟩ := (showSelectedProducts_eq_ok hchosen).mp hshow
  have hfirst : firstPieces twoUmbrellaKits .umbrella = 2 := by decide +kernel
  have hall : piecesOf (ofCategory twoUmbrellaKits .umbrella) = 3 := by decide +kernel
  have hown := hcounted.own .umbrella
  rw [count_raised, hfirst, hall] at hown
  simp at hown

end ClientDashboard

end WeatherAccommodation
