/-
# Deleting a card

A swipe on a row moves the choice first, if the card in the row is the chosen one: to the card
above, or to none if there is no other card.  Then the server is asked, and the card is taken off
the list when the answer is a success.

* `deletes_well_iff`: the swipe is handled, and the choice is what it should be once the card is
  gone, unless the chosen card is in the first of several rows: there is no card above it.
* `failed_deletion_iff`: a request that fails has moved the choice already, and nothing moves it
  back; it leaves everything as it was if the card was not the chosen one, and else only if the
  choice it moved to is the same.
-/
import WeatherAccommodation.Client.CardPair

namespace WeatherAccommodation

open Foundation Reactive

/-! ## 1. The choice -/

namespace Wallet

variable {w w' : Wallet} {row : Nat}

/-- The chosen card is in the first of several rows. -/
def isFirstOfSeveral (w : Wallet) (row : Nat) : Bool :=
  row == 0 && w.isChecked row && decide (1 < w.cardList.length)

/-- The choice that a swipe on the row makes is the one that is there: the card is not the chosen
one, or it is the only one and stands for none, or the card above is the same. -/
def keepsChoice (w : Wallet) (row : Nat) : Bool :=
  !w.isChecked row ||
    if w.cardList.length = 1 then w.selectedIndex == -1 && w.userStripeId == -1
    else w.cardList[row - 1]?.any fun card =>
      card.clientStripeCustomerSourceId == w.selectedIndex &&
        card.clientStripeCustomerId == w.userStripeId

theorem exists_of_isChecked (h : w.isChecked row = true) : ∃ card, w.cardList[row]? = some card ∧
    card.clientStripeCustomerSourceId = w.selectedIndex := by
  obtain ⟨card, hcard, hsame⟩ := (Option.any_eq_true _ _).mp h
  exact ⟨card, hcard, by simpa using hsame⟩

/-- The swipe goes by the row, and the choice it makes. -/
inductive Commit (w : Wallet) (row : Nat) (w' : Wallet) : Prop
  | other (unchecked : w.isChecked row = false) (after : w' = w)
  | only (checked : w.isChecked row = true) (alone : w.cardList.length = 1)
      (after : w' = w.unchoose)
  | above {card : StripeCard} (checked : w.isChecked row = true) (many : w.cardList.length ≠ 1)
      (below : row ≠ 0) (listed : w.cardList[row - 1]? = some card) (after : w' = w.choose card)

theorem commit_of_ok (h : w.commitDelete row = .ok w') : Commit w row w' := by
  cases hchecked : w.isChecked row with
  | false => exact .other hchecked (commitDelete_unchecked h hchecked)
  | true =>
    obtain ⟨card, hcard, hsame⟩ := exists_of_isChecked hchecked
    simp only [commitDelete, hcard, unwrap_some, hsame, if_true, bind_eq_ok, Except.ok.injEq,
      exists_eq_left'] at h
    split at h
    · rename_i hone
      exact .only hchecked hone (pure_eq_ok.mp h).symm
    · rename_i hmany
      split at h
      · exact absurd h (by simp)
      · rename_i hrow
        simp only [bind_eq_ok, unwrap_eq_ok, pure_eq_ok] at h
        obtain ⟨neighbour, hneighbour, rfl⟩ := h
        exact .above hchecked hmany hrow hneighbour rfl

/-- A swipe on a row of the list is handled, unless there is no card above the chosen one. -/
theorem commitDelete_ok_iff (hrow : row < w.cardList.length) :
    (∃ w', w.commitDelete row = .ok w') ↔ w.isFirstOfSeveral row = false := by
  constructor
  · rintro ⟨w', h⟩
    cases commit_of_ok h with
    | other unchecked _ => simp [isFirstOfSeveral, unchecked]
    | only _ alone _ => simp [isFirstOfSeveral, alone]
    | above _ _ below _ _ => simp [isFirstOfSeveral, below]
  · intro hfirst
    have hcard : w.cardList[row]? = some w.cardList[row] := List.getElem?_eq_getElem hrow
    by_cases hsame : w.cardList[row].clientStripeCustomerSourceId = w.selectedIndex
    · by_cases hone : w.cardList.length = 1
      · exact ⟨w.unchoose, by simp [commitDelete, hcard, hsame, hone, bind, Except.bind, pure,
          Except.pure]⟩
      · have hbelow : row ≠ 0 := by
          rintro rfl
          have hmany : 1 < w.cardList.length := by omega
          exact absurd hfirst (by simp [isFirstOfSeveral, isChecked, hcard, hsame, hmany])
        have habove : w.cardList[row - 1]? = some w.cardList[row - 1] :=
          List.getElem?_eq_getElem (by omega)
        exact ⟨w.choose w.cardList[row - 1], by simp [commitDelete, hcard, hsame, hone, hbelow,
          habove, bind, Except.bind, pure, Except.pure]⟩
    · exact ⟨w, by simp [commitDelete, hcard, hsame, bind, Except.bind, pure, Except.pure]⟩

/-- The list is not touched before the answer. -/
theorem Commit.cardList (h : Commit w row w') : w'.cardList = w.cardList := by
  cases h with
  | other _ after => rw [after]
  | only _ _ after => rw [after]; rfl
  | above _ _ _ _ after => rw [after]; rfl

/-- What is chosen once the card at `row` of `w` is gone: what was chosen before, if that was
another card; else a card that is left, or none exactly if none is left. -/
def ChoiceFollows (w : Wallet) (row : Nat) (u : Wallet) : Prop :=
  if w.isChecked row then
    (u.cardList = [] ∧ u.selectedIndex = -1 ∧ u.userStripeId = -1) ∨
      ∃ card ∈ u.cardList, u.selectedIndex = card.clientStripeCustomerSourceId ∧
        u.userStripeId = card.clientStripeCustomerId
  else u.selectedIndex = w.selectedIndex ∧ u.userStripeId = w.userStripeId

/-- A swipe that was handled has made the right choice. -/
theorem Commit.choiceFollows (h : Commit w row w') (hrow : row < w.cardList.length) :
    ChoiceFollows w row { w' with cardList := w.cardList.eraseIdx row } := by
  cases h with
  | other unchecked after => simp [ChoiceFollows, unchecked, after]
  | only checked alone after =>
    have hnil : w.cardList.eraseIdx row = [] := by
      apply List.eq_nil_of_length_eq_zero
      rw [List.length_eraseIdx_of_lt hrow, alone]
    simp [ChoiceFollows, checked, after, unchoose, hnil]
  | @above card checked many below listed after =>
    have hleft : (w.cardList.eraseIdx row)[row - 1]? = some card := by
      rw [List.getElem?_eraseIdx_of_lt (by omega), listed]
    rw [ChoiceFollows, if_pos checked, after]
    exact Or.inr ⟨card, List.mem_of_getElem? hleft, rfl, rfl⟩

/-- And one that has moved the choice to where it was has moved nothing. -/
theorem Commit.same_iff (h : Commit w row w') :
    (w'.selectedIndex = w.selectedIndex ∧ w'.userStripeId = w.userStripeId) ↔
      w.keepsChoice row = true := by
  cases h with
  | other unchecked after => simp [keepsChoice, unchecked, after]
  | only checked alone after =>
    have hnone : (w.unchoose.selectedIndex = w.selectedIndex ∧
        w.unchoose.userStripeId = w.userStripeId) ↔
          w.selectedIndex = -1 ∧ w.userStripeId = -1 :=
      ⟨fun h => ⟨h.1.symm, h.2.symm⟩, fun h => ⟨h.1.symm, h.2.symm⟩⟩
    rw [after, hnone]
    simp [keepsChoice, checked, alone]
  | above checked many below listed after =>
    simp [keepsChoice, checked, many, listed, after, choose]

end Wallet

/-! ## 2. The swipe and its answer -/

namespace ClientApp

variable {distance : CLLocation → CLLocation → ℚ} {a b c : ClientApp} {number row : Nat}
  {w : Wallet}

/-- A swipe on a wallet that is on screen. -/
theorem deleteRow_step_iff (listed : a.wallets[number]? = some w) (shown : w.onScreen = true) :
    (machine distance).Step a (.deleteRow number row) b ↔
      ∃ w', w.commitDelete row = .ok w' ∧ (∃ id, a.device.userID .clientApp = .ok id) ∧
        b = { a.putWallet number w' with deleteCalls := a.deleteCalls.issue (number, row) } := by
  have hreact : react distance a (.deleteRow number row) = some (a.deleteRow number w row) := by
    simp [react, listed, shown]
  simp only [Machine.Step, machine, hreact, Option.some.injEq, deleteRow, bind_eq_ok, pure_eq_ok]
  constructor
  · rintro ⟨w', hcommit, id, hid, rfl⟩
    exact ⟨w', hcommit, ⟨id, hid⟩, rfl⟩
  · rintro ⟨w', hcommit, ⟨id, hid⟩, rfl⟩
    exact ⟨w', hcommit, id, hid, rfl⟩

/-- The answer that comes next. -/
theorem deleteReply_step_iff {w' : Wallet} {success : Bool}
    (listed : a.wallets[number]? = some w) :
    (machine distance).Step
        { a.putWallet number w' with deleteCalls := a.deleteCalls.issue (number, row) }
        (.deleteReply a.deleteCalls.issued success) c ↔
      ∃ u, w'.deleteReply row success = .ok u ∧ c = { a with
        wallets := a.wallets.set number u
        deleteCalls := (a.deleteCalls.issue (number, row)).retire a.deleteCalls.issued } := by
  have hlt : number < a.wallets.length := (List.getElem?_eq_some_iff.mp listed).1
  have hwaiting : (a.deleteCalls.issue (number, row)).waiting a.deleteCalls.issued =
      some (number, row) := by simp [Callbacks.waiting_issue]
  simp only [Machine.Step, machine, react, hwaiting, Option.map_some, Option.some.injEq,
    answerWallet, putWallet, List.getElem?_set_self hlt, bind_eq_ok, pure_eq_ok, List.set_set]
  constructor
  · rintro ⟨u, hu, rfl⟩
    exact ⟨u, hu, rfl⟩
  · rintro ⟨u, hu, rfl⟩
    exact ⟨u, hu, rfl⟩

/-- The swipe is handled, the card is taken off the list when the server has deleted it, and the
choice follows. -/
def DeletesWell (distance : CLLocation → CLLocation → ℚ) (a : ClientApp) (number : Nat)
    (w : Wallet) (row : Nat) : Prop :=
  ∃ b c u, (machine distance).Step a (.deleteRow number row) b ∧
    (machine distance).Step b (.deleteReply a.deleteCalls.issued true) c ∧
    c.wallets[number]? = some u ∧ u.cardList = w.cardList.eraseIdx row ∧ w.ChoiceFollows row u

/-- **When a card is deleted as it should be.**  On every wallet on screen, for every list, choice
and row: exactly if the chosen card is not in the first of several rows, and the profile that the
request is made for has its client. -/
theorem deletes_well_iff (listed : a.wallets[number]? = some w) (shown : w.onScreen = true)
    (hrow : row < w.cardList.length) : DeletesWell distance a number w row ↔
      w.isFirstOfSeveral row = false ∧ ∃ id, a.device.userID .clientApp = .ok id := by
  constructor
  · rintro ⟨b, _, _, hswipe, _⟩
    obtain ⟨w', hcommit, hid, _⟩ := (deleteRow_step_iff listed shown).mp hswipe
    exact ⟨(Wallet.commitDelete_ok_iff hrow).mp ⟨w', hcommit⟩, hid⟩
  · rintro ⟨hfirst, hid⟩
    obtain ⟨w', hcommit⟩ := (Wallet.commitDelete_ok_iff hrow).mpr hfirst
    have hmoves := Wallet.commit_of_ok hcommit
    have hlt : number < a.wallets.length := (List.getElem?_eq_some_iff.mp listed).1
    have hreply : w'.deleteReply row true =
        .ok { w' with cardList := w.cardList.eraseIdx row } := by
      simp [Wallet.deleteReply, hmoves.cardList, hrow]
    refine ⟨_, _, _, (deleteRow_step_iff listed shown).mpr ⟨w', hcommit, hid, rfl⟩,
      (deleteReply_step_iff listed).mpr ⟨_, hreply, rfl⟩, ?_, rfl, hmoves.choiceFollows hrow⟩
    exact List.getElem?_set_self hlt

/-! ## 3. A request that fails -/

/-- Without a connection no answer ever comes; else it is a failure. -/
inductive DeletionFails (distance : CLLocation → CLLocation → ℚ) (a : ClientApp)
    (number row : Nat) : ClientApp → Prop
  | offline {b : ClientApp} (swipe : (machine distance).Step a (.deleteRow number row) b) :
      DeletionFails distance a number row b
  | refused {b c : ClientApp} (swipe : (machine distance).Step a (.deleteRow number row) b)
      (answer : (machine distance).Step b (.deleteReply a.deleteCalls.issued false) c) :
      DeletionFails distance a number row c

/-- The wallet is as it was, and what is stored when it is left now is what would have been stored
before. -/
def ChangesNothing (distance : CLLocation → CLLocation → ℚ) (a : ClientApp) (number : Nat)
    (w : Wallet) (c : ClientApp) : Prop :=
  ∃ u, c.wallets[number]? = some u ∧ u.cardList = w.cardList ∧
    (u.selectedIndex = w.selectedIndex ∧ u.userStripeId = w.userStripeId) ∧
    ∀ popped a' c', (machine distance).Step a (.leaveWallet number popped) a' →
      (machine distance).Step c (.leaveWallet number popped) c' →
        c'.device.defaults = a'.device.defaults

/-- The choice has moved as the swipe moved it, and nothing else has happened. -/
theorem deletionFails_inv (listed : a.wallets[number]? = some w) (shown : w.onScreen = true)
    (h : DeletionFails distance a number row c) : ∃ w', w.Commit row w' ∧
      c.wallets[number]? = some w' ∧ c.device = a.device := by
  have hlt : number < a.wallets.length := (List.getElem?_eq_some_iff.mp listed).1
  cases h with
  | offline swipe =>
    obtain ⟨w', hcommit, _, rfl⟩ := (deleteRow_step_iff listed shown).mp swipe
    exact ⟨w', Wallet.commit_of_ok hcommit, List.getElem?_set_self hlt, rfl⟩
  | refused swipe answer =>
    obtain ⟨w', hcommit, _, rfl⟩ := (deleteRow_step_iff listed shown).mp swipe
    obtain ⟨u, hu, rfl⟩ := (deleteReply_step_iff listed).mp answer
    obtain rfl : w' = u := by simpa [Wallet.deleteReply] using hu
    exact ⟨w', Wallet.commit_of_ok hcommit, List.getElem?_set_self hlt, rfl⟩

/-- **When a failed deletion changes nothing.**  For every list, choice and row whose request fails:
exactly if the swipe has not moved the choice, because the card was not the chosen one or because
the choice it moves to is the same. -/
theorem failed_deletion_iff (listed : a.wallets[number]? = some w) (shown : w.onScreen = true)
    (fails : DeletionFails distance a number row c) :
    ChangesNothing distance a number w c ↔ w.keepsChoice row = true := by
  obtain ⟨w', hmoves, hlisted, hdevice⟩ := deletionFails_inv listed shown fails
  rw [← hmoves.same_iff]
  constructor
  · rintro ⟨u, hu, _, hsame, _⟩
    obtain rfl : w' = u := Option.some.inj (hlisted.symm.trans hu)
    exact hsame
  · intro hsame
    refine ⟨w', hlisted, hmoves.cardList, hsame, fun popped a' c' ha hc => ?_⟩
    obtain ⟨v, hv, _, rfl⟩ : StepOf distance a a' (.leaveWallet number popped) := step_inv ha
    obtain ⟨v', hv', _, rfl⟩ : StepOf distance c c' (.leaveWallet number popped) := step_inv hc
    obtain rfl : w = v := Option.some.inj (listed.symm.trans hv)
    obtain rfl : w' = v' := Option.some.inj (hlisted.symm.trans hv')
    simp only [leaveWallet, Wallet.viewWillDisappear, hdevice, hmoves.cardList, hsame.1, hsame.2]

/-! ## 4. Two cards -/

def sampleCard (source : Int) : StripeCard where
  customerId := "cus"
  clientStripeCustomerSourceId := source
  clientStripeCustomerId := 3
  sourceId := "card"
  sourceToken := "tok"
  last4 := "4242"
  brand := "Visa"

/-- Cards 7 and 8, and the choice among them. -/
def twoCards (selectedIndex : Int) : Wallet where
  cardList := [sampleCard 7, sampleCard 8]
  selectedIndex := selectedIndex
  userStripeId := 3
  onScreen := true

def walletApp (w : Wallet) : ClientApp where
  device := {
    defaults := UserDefaults.empty.set .userProfileInfoDef (.dict [("ClientId", .ofInt 24)])
    appDelegate := {} }
  onMain := false
  wallets := [w]

/-- The chosen card is in the second row, and the one above takes its place. -/
theorem deletes_well_second :
    DeletesWell sampleDistance (walletApp (twoCards 8)) 0 (twoCards 8) 1 :=
  (deletes_well_iff rfl rfl (by decide)).mpr ⟨by decide, 24, rfl⟩

/-- **There is no card above the first**: deleting the chosen card there stops the app. -/
theorem no_card_above_first : ¬∀ (a : ClientApp) (number : Nat) (w : Wallet) (row : Nat),
    a.wallets[number]? = some w → w.onScreen = true →
      (w.cardList.map StripeCard.clientStripeCustomerSourceId).Nodup →
      row < w.cardList.length → (∃ id, a.device.userID .clientApp = .ok id) →
      DeletesWell sampleDistance a number w row := by
  intro hall
  obtain ⟨b, _, _, hswipe, _⟩ := hall (walletApp (twoCards 7)) 0 (twoCards 7) 0 rfl rfl
    (by decide) (by decide) ⟨24, rfl⟩
  obtain ⟨w', hcommit, _⟩ := (deleteRow_step_iff rfl rfl).mp hswipe
  have hfirst := (Wallet.commitDelete_ok_iff (by decide)).mp ⟨w', hcommit⟩
  exact absurd hfirst (by decide)

/-- A card that is not chosen could not be deleted. -/
theorem failed_deletion_first : ∃ c,
    DeletionFails sampleDistance (walletApp (twoCards 8)) 0 0 c ∧
      ChangesNothing sampleDistance (walletApp (twoCards 8)) 0 (twoCards 8) c := by
  obtain ⟨b, hswipe⟩ : ∃ b, (machine sampleDistance).Step (walletApp (twoCards 8))
      (.deleteRow 0 0) b := ⟨_, (deleteRow_step_iff rfl rfl).mpr ⟨_, rfl, ⟨24, rfl⟩, rfl⟩⟩
  have hfails : DeletionFails sampleDistance (walletApp (twoCards 8)) 0 0 b :=
    .offline hswipe
  exact ⟨b, hfails, (failed_deletion_iff rfl rfl hfails).mpr (by decide)⟩

/-- **The choice has moved for good**: the server refused to delete the chosen card, and the other
one is stored for the next payment. -/
theorem refused_deletion_moves_choice :
    ¬∀ (a : ClientApp) (number : Nat) (w : Wallet) (row : Nat) (c : ClientApp),
      a.wallets[number]? = some w → w.onScreen = true →
        DeletionFails sampleDistance a number row c →
        ChangesNothing sampleDistance a number w c := by
  intro hall
  obtain ⟨b, c, hswipe, hanswer⟩ : ∃ b c,
      (machine sampleDistance).Step (walletApp (twoCards 8)) (.deleteRow 0 1) b ∧
        (machine sampleDistance).Step b (.deleteReply 0 false) c :=
    ⟨_, _, (deleteRow_step_iff rfl rfl).mpr ⟨_, rfl, ⟨24, rfl⟩, rfl⟩,
      (deleteReply_step_iff rfl).mpr ⟨_, rfl, rfl⟩⟩
  have hfails : DeletionFails sampleDistance (walletApp (twoCards 8)) 0 1 c :=
    .refused hswipe hanswer
  obtain ⟨w', hmoves, hlisted, _⟩ := deletionFails_inv rfl rfl hfails
  obtain ⟨u, hu, _, hsame, _⟩ := hall _ _ _ _ _ rfl rfl hfails
  obtain rfl : w' = u := Option.some.inj (hlisted.symm.trans hu)
  exact absurd (hmoves.same_iff.mp hsame) (by decide)

end ClientApp

end WeatherAccommodation
