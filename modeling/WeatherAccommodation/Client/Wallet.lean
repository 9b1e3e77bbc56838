/-
# The wallet screen

`WalletViewController.swift`: the list of cards, the row that is checked, and the two
variables that are written to `UserDefaults` when the screen is left.

`selectedIndex` holds no index but the `ClientStripeCustomerSourceId` of the chosen card; it
is loaded from `UserDefaults` each time the screen appears.  `userStripeId`, its companion,
is not: it is -1 until a row is chosen on this very screen.
-/
import WeatherAccommodation.ResponseObject

namespace WeatherAccommodation

open Foundation Reactive

structure Wallet where
  cardList : List StripeCard := []
  selectedIndex : Int := -1
  userStripeId : Int := -1
  onScreen : Bool := false
  /-- It can come back on screen. -/
  onStack : Bool := true
  deriving Repr

namespace Wallet

/-- A wallet screen that was just made. -/
def fresh : Wallet := {}

/-- `viewWillAppear`, but for the call of `getStripeCardList`. -/
def viewWillAppear (w : Wallet) (defaults : UserDefaults) : Wallet :=
  { w with
    selectedIndex := defaults.getInt .userCardSelected
    cardList := []
    onScreen := true }

def viewWillDisappear (w : Wallet) (defaults : UserDefaults) : UserDefaults :=
  let defaults :=
    if w.cardList = [] then (defaults.setInt .userCardSelected (-1)).setInt .userStripeId (-1)
    else (defaults.setInt .userCardSelected w.selectedIndex).setInt .userStripeId w.userStripeId
  defaults.setInt .userCardCount w.cardList.length

/-- Off the screen, and perhaps off the navigation stack. -/
def leave (w : Wallet) (popped : Bool) : Wallet :=
  { w with onScreen := false, onStack := w.onStack && !popped }

/-- The loop over `SourceCardList`. -/
def readCards : List Json → Except Trap (List StripeCard)
  | [] => .ok []
  | item :: items => do
    let dict ← unwrap (.badCast "SourceCardList") item.asDict?
    let cards ← readCards items
    return StripeCard.ofDict dict :: cards

/-- The completion handler of `getStripeCardList`. -/
def cardListReply (w : Wallet) (response : Option Dict) : Except Trap Wallet :=
  match response with
  | none => return w
  | some response => do
    let items ← unwrap (.badCast "SourceCardList") (Dict.array? response "SourceCardList")
    let cards ← readCards items
    return { w with cardList := cards }

/-- A card becomes the chosen one. -/
def choose (w : Wallet) (card : StripeCard) : Wallet :=
  { w with
    selectedIndex := card.clientStripeCustomerSourceId
    userStripeId := card.clientStripeCustomerId }

/-- `didSelectRowAt` -/
def didSelectRow (w : Wallet) (row : Nat) : Except Trap Wallet := do
  let card ← unwrap .indexOutOfRange w.cardList[row]?
  return w.choose card

/-- The check marks are gone. -/
def unchoose (w : Wallet) : Wallet := { w with selectedIndex := -1, userStripeId := -1 }

/-- `commit editingStyle`, but for the call of `deleteCardWithAPI`: deleting the chosen card
chooses the one above it.  There is none above the first row. -/
def commitDelete (w : Wallet) (row : Nat) : Except Trap Wallet := do
  let card ← unwrap .indexOutOfRange w.cardList[row]?
  if card.clientStripeCustomerSourceId = w.selectedIndex then
    if w.cardList.length = 1 then return w.unchoose
    else if row = 0 then throw .indexOutOfRange
    else
      let neighbour ← unwrap .indexOutOfRange w.cardList[row - 1]?
      return w.choose neighbour
  else return w

/-- The completion handler of `deleteCardWithAPI`. -/
def deleteReply (w : Wallet) (row : Nat) (success : Bool) : Except Trap Wallet :=
  if success then
    if row < w.cardList.length then .ok { w with cardList := w.cardList.eraseIdx row }
    else .error .indexOutOfRange
  else .ok w

/-! ## What the handlers leave -/

variable {w w' : Wallet}

/-- A visit stores the two variables, or the marks of an empty wallet. -/
theorem viewWillDisappear_pair (w : Wallet) (defaults : UserDefaults) :
    (w.viewWillDisappear defaults).getInt .userCardSelected = -1 ∨
      ((w.viewWillDisappear defaults).getInt .userStripeId = w.userStripeId ∧
        (w.viewWillDisappear defaults).getInt .userCardSelected = w.selectedIndex) := by
  unfold viewWillDisappear
  by_cases hempty : w.cardList = []
  · left
    simp [hempty]
  · right
    simp [hempty]

theorem viewWillDisappear_value {defaults : UserDefaults} {key : DefaultsKey}
    (h₁ : key ≠ .userCardSelected) (h₂ : key ≠ .userStripeId) (h₃ : key ≠ .userCardCount) :
    (w.viewWillDisappear defaults).value key = defaults.value key := by
  unfold viewWillDisappear UserDefaults.setInt
  by_cases hempty : w.cardList = []
  · simp [hempty, h₁, h₂, h₃]
  · simp [hempty, h₁, h₂, h₃]

/-- A row press chooses a listed card. -/
theorem didSelectRow_inv {row : Nat} (h : w.didSelectRow row = .ok w') :
    ∃ card, w.cardList[row]? = some card ∧ w' = w.choose card := by
  simp only [didSelectRow, bind_eq_ok, unwrap_eq_ok, pure_eq_ok] at h
  obtain ⟨card, hcard, rfl⟩ := h
  exact ⟨card, hcard, rfl⟩

/-- The card that becomes the chosen one when the card at `row` is deleted. -/
def fallback (w : Wallet) (row : Nat) : Option StripeCard :=
  match w.cardList[row]? with
  | none => none
  | some card =>
    if card.clientStripeCustomerSourceId = w.selectedIndex ∧ w.cardList.length ≠ 1 ∧ row ≠ 0 then
      w.cardList[row - 1]?
    else none

/-- A deletion chooses nothing, drops the choice, or falls back on a listed card. -/
theorem commitDelete_inv {row : Nat} (h : w.commitDelete row = .ok w') :
    (w.fallback row = none ∧ (w' = w ∨ w' = w.unchoose)) ∨
      ∃ card ∈ w.cardList, w.fallback row = some card ∧ w' = w.choose card := by
  simp only [commitDelete, bind_eq_ok, unwrap_eq_ok] at h
  obtain ⟨card, hcard, h⟩ := h
  unfold fallback
  simp only [hcard]
  split at h
  · rename_i hchosen
    split at h
    · rename_i hone
      rw [pure_eq_ok] at h
      rw [if_neg (by simp [hone])]
      exact Or.inl ⟨rfl, Or.inr h.symm⟩
    · rename_i hmany
      split at h
      · simp at h
      · rename_i hrow
        simp only [bind_eq_ok, unwrap_eq_ok, pure_eq_ok] at h
        obtain ⟨neighbour, hn, rfl⟩ := h
        rw [if_pos ⟨hchosen, hmany, hrow⟩]
        exact Or.inr ⟨neighbour, List.mem_of_getElem? hn, hn, rfl⟩
  · rename_i hother
    rw [pure_eq_ok] at h
    rw [if_neg (by simp [hother])]
    exact Or.inl ⟨rfl, Or.inl h.symm⟩

/-- A reply replaces the list, and chooses nothing. -/
theorem cardListReply_inv {response : Option Dict} (h : w.cardListReply response = .ok w') :
    w' = w ∨ ∃ cards, w' = { w with cardList := cards } := by
  unfold cardListReply at h
  cases response with
  | none =>
    rw [pure_eq_ok] at h
    exact Or.inl h.symm
  | some response =>
    simp only [bind_eq_ok, unwrap_eq_ok, pure_eq_ok] at h
    obtain ⟨items, _, cards, _, rfl⟩ := h
    exact Or.inr ⟨cards, rfl⟩

theorem deleteReply_inv {row : Nat} {success : Bool} (h : w.deleteReply row success = .ok w') :
    w' = w ∨ w' = { w with cardList := w.cardList.eraseIdx row } := by
  unfold deleteReply at h
  split at h
  · split at h
    · exact Or.inr (Except.ok.inj h).symm
    · exact absurd h (by simp)
  · exact Or.inl (Except.ok.inj h).symm

end Wallet

end WeatherAccommodation
