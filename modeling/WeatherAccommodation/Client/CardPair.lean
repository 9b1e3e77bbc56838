/-
# The two halves of the stored card

`userStripeId` and `userCardSelected` are written together, when a wallet goes off screen, but a
wallet does not come by them together.  `selectedIndex` is read back each time it appears;
`userStripeId` is whatever the last choice on this very screen left in it.  A visit without a
choice therefore stores one half of an old card next to one half of another.

The history says which cards the server has returned, which card was chosen last on each wallet,
and whether that was since it last came on screen.  `isSettled` is the condition on a wallet that
goes off screen.
-/
import WeatherAccommodation.Client.CardOwnership

namespace WeatherAccommodation

open Foundation Reactive

/-! ## 1. The history -/

namespace Wallet

/-- The cards of a reply; none if it has no list. -/
def cardsOf (response : Option Dict) : List StripeCard :=
  match response.bind fun response => Dict.array? response "SourceCardList" with
  | some items =>
    match readCards items with
    | .ok cards => cards
    | .error _ => []
  | none => []

variable {w w' : Wallet}

/-- A reply that is handled leaves its own cards. -/
theorem cardListReply_cards {response : Option Dict} (h : w.cardListReply response = .ok w') :
    w' = w ∨ w' = { w with cardList := cardsOf response } := by
  unfold cardListReply at h
  cases response with
  | none =>
    rw [pure_eq_ok] at h
    exact Or.inl h.symm
  | some response =>
    simp only [bind_eq_ok, unwrap_eq_ok, pure_eq_ok] at h
    obtain ⟨items, hitems, cards, hcards, rfl⟩ := h
    exact Or.inr (by simp [cardsOf, hitems, hcards])

/-- The card at `row` is the one that is checked. -/
def isChecked (w : Wallet) (row : Nat) : Bool :=
  w.cardList[row]?.any fun card => card.clientStripeCustomerSourceId == w.selectedIndex

/-- Deleting the checked card checks its neighbour, or nothing. -/
theorem commitDelete_checked {row : Nat} (h : w.commitDelete row = .ok w')
    (hchecked : w.isChecked row = true) :
    (w.fallback row = none ∧ w' = w.unchoose) ∨
      ∃ card ∈ w.cardList, w.fallback row = some card ∧ w' = w.choose card := by
  rcases commitDelete_inv h with ⟨hnone, hcase⟩ | hchosen
  · refine Or.inl ⟨hnone, ?_⟩
    simp only [commitDelete, bind_eq_ok, unwrap_eq_ok] at h
    obtain ⟨card, hcard, h⟩ := h
    have hsame : card.clientStripeCustomerSourceId = w.selectedIndex := by
      simpa [isChecked, hcard] using hchecked
    rw [if_pos hsame] at h
    split at h
    · rw [pure_eq_ok] at h
      exact h.symm
    · split at h
      · exact absurd h (by simp)
      · rename_i hmany hrow
        simp only [bind_eq_ok, unwrap_eq_ok] at h
        obtain ⟨neighbour, hneighbour, _⟩ := h
        have hsome : w.fallback row = some neighbour := by
          simp only [fallback, hcard, hsame, hmany, hrow, ne_eq, not_false_eq_true, and_self,
            if_true]
          exact hneighbour
        exact absurd (hnone.symm.trans hsome) (by simp)
  · exact Or.inr hchosen

/-- Deleting another card checks nothing. -/
theorem commitDelete_unchecked {row : Nat} (h : w.commitDelete row = .ok w')
    (hunchecked : w.isChecked row = false) : w' = w := by
  simp only [commitDelete, bind_eq_ok, unwrap_eq_ok] at h
  obtain ⟨card, hcard, h⟩ := h
  have hother : card.clientStripeCustomerSourceId ≠ w.selectedIndex := by
    simpa [isChecked, hcard] using hunchecked
  rw [if_neg hother, pure_eq_ok] at h
  exact h.symm

end Wallet

/-- The pair that a card is stored as; -1 twice for none. -/
def pairOf : Option StripeCard → Int × Int
  | some card => (card.clientStripeCustomerId, card.clientStripeCustomerSourceId)
  | none => (-1, -1)

/-- The two values are those of no card, or of one and the same. -/
def isPair (returned : List StripeCard) (customerId sourceId : Int) : Bool :=
  (customerId, sourceId) == pairOf none ||
    returned.any fun card => (customerId, sourceId) == pairOf (some card)

theorem isPair_iff {returned : List StripeCard} {customerId sourceId : Int} :
    isPair returned customerId sourceId = true ↔
      (customerId = -1 ∧ sourceId = -1) ∨ ∃ card ∈ returned,
        customerId = card.clientStripeCustomerId ∧ sourceId = card.clientStripeCustomerSourceId := by
  simp [isPair, pairOf]

theorem isPair_mono {returned returned' : List StripeCard} {customerId sourceId : Int}
    (hsub : returned ⊆ returned') (h : isPair returned customerId sourceId = true) :
    isPair returned' customerId sourceId = true := by
  rw [isPair_iff] at h ⊢
  rcases h with h | ⟨card, hcard, hpair⟩
  · exact Or.inl h
  · exact Or.inr ⟨card, hsub hcard, hpair⟩

/-- A card that was returned, or none. -/
theorem isPair_pairOf {returned : List StripeCard} {choice : Option StripeCard}
    (h : ∀ card, choice = some card → card ∈ returned) :
    isPair returned (pairOf choice).1 (pairOf choice).2 = true := by
  rw [isPair_iff]
  cases choice with
  | none => exact Or.inl ⟨rfl, rfl⟩
  | some card => exact Or.inr ⟨card, h card rfl, rfl, rfl⟩

structure PairHistory where
  returned : List StripeCard
  /-- The last choice on each wallet, by number. -/
  choice : Nat → Option StripeCard := fun _ => none
  /-- It was made since the wallet last came on screen. -/
  isNew : Nat → Bool := fun _ => false

namespace PairHistory

def choose (h : PairHistory) (number : Nat) (choice : Option StripeCard) : PairHistory :=
  { h with
    choice := Function.update h.choice number choice
    isNew := Function.update h.isNew number true }

/-- A wallet comes on screen. -/
def appear (h : PairHistory) (number : Nat) : PairHistory :=
  { h with isNew := Function.update h.isNew number false }

/-- The history variable. -/
def note (h : PairHistory) (a : ClientApp) (e : AppEvent) (_ : ClientApp) : PairHistory :=
  match e with
  | .openWallet => h.appear a.wallets.length
  | .uncoverWallet number => h.appear number
  | .cardListReply _ reply => { h with returned := h.returned ++ Wallet.cardsOf reply }
  | .selectRow number row => h.choose number (a.wallets[number]?.bind fun w => w.cardList[row]?)
  | .deleteRow number row =>
    match a.wallets[number]? with
    | some w => if w.isChecked row then h.choose number (w.fallback row) else h
    | none => h
  | _ => h

/-- The condition on a step: a wallet with cards on its list goes off screen only after a choice
in the same visit, or with halves that belong together: the customer of the card last chosen on it,
and the source that was stored when it came on screen. -/
def isSettled (x : ClientApp × PairHistory) : AppEvent → Bool
  | .leaveWallet number _ =>
    x.1.wallets[number]?.all fun w =>
      w.cardList.isEmpty || x.2.isNew number ||
        isPair x.2.returned (pairOf (x.2.choice number)).1 w.selectedIndex
  | _ => true

/-- What is stored is no card, or one and the same that the server returned. -/
def StoresPair (x : ClientApp × PairHistory) : Prop :=
  isPair x.2.returned (x.1.device.defaults.getInt .userStripeId)
    (x.1.device.defaults.getInt .userCardSelected) = true

/-! ## 2. The invariant -/

structure Kept (x : ClientApp × PairHistory) : Prop where
  stored : StoresPair x
  chosen : ∀ n card, x.2.choice n = some card → card ∈ x.2.returned
  listed : ∀ (n : Nat) (w : Wallet), x.1.wallets[n]? = some w → w.cardList ⊆ x.2.returned
  /-- The customer is that of the last choice, whenever it was made. -/
  customer : ∀ (n : Nat) (w : Wallet), x.1.wallets[n]? = some w →
    w.userStripeId = (pairOf (x.2.choice n)).1
  /-- The source is that of the last choice, if that was made in this visit. -/
  source : ∀ (n : Nat) (w : Wallet), x.1.wallets[n]? = some w → x.2.isNew n = true →
    w.selectedIndex = (pairOf (x.2.choice n)).2
  /-- No wallet has a number that was not given yet. -/
  unmade : ∀ n, x.1.wallets.length ≤ n → x.2.choice n = none

variable {distance : CLLocation → CLLocation → ℚ} {x y : ClientApp × PairHistory}

namespace Kept

/-- What touches neither the wallets nor the stored pair. -/
theorem quiet {b : ClientApp} (hx : Kept x) (hwallets : b.wallets = x.1.wallets)
    (hstripe : b.device.defaults.getInt .userStripeId = x.1.device.defaults.getInt .userStripeId)
    (hcard : b.device.defaults.getInt .userCardSelected
      = x.1.device.defaults.getInt .userCardSelected) : Kept (b, x.2) where
  stored := by
    unfold StoresPair
    rw [hstripe, hcard]
    exact hx.stored
  chosen := hx.chosen
  listed := by simpa only [hwallets] using hx.listed
  customer := by simpa only [hwallets] using hx.customer
  source := by simpa only [hwallets] using hx.source
  unmade := by simpa only [hwallets] using hx.unmade

/-- A wallet gets another list, of returned cards. -/
theorem relist {number : Nat} {w : Wallet} {cards : List StripeCard} (hx : Kept x)
    (hw : x.1.wallets[number]? = some w) (hcards : cards ⊆ x.2.returned) :
    Kept (x.1.putWallet number { w with cardList := cards }, x.2) := by
  refine ⟨hx.stored, hx.chosen, ?_, ?_, ?_, ?_⟩
  · intro n v hv
    rcases CardHistory.getElem?_putWallet hv with ⟨_, rfl⟩ | ⟨_, hv⟩
    · exact hcards
    · exact hx.listed n v hv
  · intro n v hv
    rcases CardHistory.getElem?_putWallet hv with ⟨rfl, rfl⟩ | ⟨_, hv⟩
    · exact hx.customer n w hw
    · exact hx.customer n v hv
  · intro n v hv hnew
    rcases CardHistory.getElem?_putWallet hv with ⟨rfl, rfl⟩ | ⟨_, hv⟩
    · exact hx.source n w hw hnew
    · exact hx.source n v hv hnew
  · intro n hn
    exact hx.unmade n (by simpa [ClientApp.putWallet] using hn)

/-- The server returns more cards. -/
theorem offer (hx : Kept x) (cards : List StripeCard) :
    Kept (x.1, { x.2 with returned := x.2.returned ++ cards }) where
  stored := isPair_mono (List.subset_append_left _ _) hx.stored
  chosen := fun n card hc => List.mem_append_left _ (hx.chosen n card hc)
  listed := fun n w hw => fun _ hcard => List.mem_append_left _ (hx.listed n w hw hcard)
  customer := hx.customer
  source := hx.source
  unmade := hx.unmade

/-- A choice sets both halves of a wallet. -/
theorem choose {number : Nat} {w w' : Wallet} {choice : Option StripeCard} (hx : Kept x)
    (hw : x.1.wallets[number]? = some w) (hlist : w'.cardList = w.cardList)
    (hcustomer : w'.userStripeId = (pairOf choice).1)
    (hsource : w'.selectedIndex = (pairOf choice).2)
    (hchoice : ∀ card, choice = some card → card ∈ w.cardList) :
    Kept (x.1.putWallet number w', x.2.choose number choice) := by
  have hlt : number < x.1.wallets.length := (List.getElem?_eq_some_iff.mp hw).1
  refine ⟨hx.stored, ?_, ?_, ?_, ?_, ?_⟩
  · intro n card hc
    simp only [PairHistory.choose, Function.update_apply] at hc
    split at hc
    · exact hx.listed number w hw (hchoice card hc)
    · exact hx.chosen n card hc
  · intro n v hv
    rcases CardHistory.getElem?_putWallet hv with ⟨rfl, rfl⟩ | ⟨_, hv⟩
    · rw [hlist]
      exact hx.listed n w hw
    · exact hx.listed n v hv
  · intro n v hv
    simp only [PairHistory.choose, Function.update_apply]
    rcases CardHistory.getElem?_putWallet hv with ⟨rfl, rfl⟩ | ⟨hne, hv⟩
    · rw [if_pos rfl]
      exact hcustomer
    · rw [if_neg hne]
      exact hx.customer n v hv
  · intro n v hv hnew
    simp only [PairHistory.choose, Function.update_apply] at hnew ⊢
    rcases CardHistory.getElem?_putWallet hv with ⟨rfl, rfl⟩ | ⟨hne, hv⟩
    · rw [if_pos rfl]
      exact hsource
    · rw [if_neg hne] at hnew ⊢
      exact hx.source n v hv hnew
  · intro n hn
    simp only [ClientApp.putWallet, List.length_set] at hn
    simp only [PairHistory.choose, Function.update_apply]
    rw [if_neg (by omega)]
    exact hx.unmade n hn

/-- A wallet that was just made. -/
theorem made (hx : Kept x) :
    Kept ({ x.1 with wallets := x.1.wallets ++ [Wallet.fresh] }, x.2.appear x.1.wallets.length) := by
  have hold : ∀ {n : Nat} {v : Wallet}, (x.1.wallets ++ [Wallet.fresh])[n]? = some v →
      (n < x.1.wallets.length ∧ x.1.wallets[n]? = some v) ∨
        (n = x.1.wallets.length ∧ v = Wallet.fresh) := by
    intro n v hv
    rw [List.getElem?_append] at hv
    split at hv
    · rename_i hlt
      exact Or.inl ⟨hlt, hv⟩
    · rename_i hge
      obtain ⟨hlt, _⟩ := List.getElem?_eq_some_iff.mp hv
      simp only [List.length_singleton] at hlt
      exact Or.inr ⟨by omega, List.mem_singleton.mp (List.mem_of_getElem? hv)⟩
  refine ⟨hx.stored, hx.chosen, ?_, ?_, ?_, ?_⟩
  · intro n v hv
    rcases hold hv with ⟨_, hv⟩ | ⟨_, rfl⟩
    · exact hx.listed n v hv
    · simp [Wallet.fresh]
  · intro n v hv
    rcases hold hv with ⟨_, hv⟩ | ⟨rfl, rfl⟩
    · exact hx.customer n v hv
    · rw [PairHistory.appear, hx.unmade _ (Nat.le_refl _)]
      decide
  · intro n v hv hnew
    simp only [PairHistory.appear, Function.update_apply] at hnew
    rcases hold hv with ⟨hlt, hv⟩ | ⟨rfl, _⟩
    · rw [if_neg (by omega)] at hnew
      exact hx.source n v hv hnew
    · exact absurd hnew (by simp)
  · intro n hn
    simp only [List.length_append, List.length_singleton] at hn
    exact hx.unmade n (by omega)

/-- A wallet comes on screen, and reads back one half. -/
theorem appear {number : Nat} {w : Wallet} {b : ClientApp} (hx : Kept x)
    (hw : x.1.wallets[number]? = some w) (hshow : x.1.showWallet number w = .ok b) :
    Kept (b, x.2.appear number) := by
  obtain rfl := ClientApp.showWallet_inv hshow
  have hset : ∀ {n : Nat} {v : Wallet},
      (x.1.wallets.set number (w.viewWillAppear x.1.device.defaults))[n]? = some v →
      (n = number ∧ v = w.viewWillAppear x.1.device.defaults) ∨
        (n ≠ number ∧ x.1.wallets[n]? = some v) := fun hv => CardHistory.getElem?_putWallet hv
  refine ⟨hx.stored, hx.chosen, ?_, ?_, ?_, ?_⟩
  · intro n v hv
    rcases hset hv with ⟨_, rfl⟩ | ⟨_, hv⟩
    · simp [Wallet.viewWillAppear]
    · exact hx.listed n v hv
  · intro n v hv
    rcases hset hv with ⟨rfl, rfl⟩ | ⟨_, hv⟩
    · exact hx.customer n w hw
    · exact hx.customer n v hv
  · intro n v hv hnew
    simp only [PairHistory.appear, Function.update_apply] at hnew
    rcases hset hv with ⟨rfl, _⟩ | ⟨hne, hv⟩
    · exact absurd hnew (by simp)
    · rw [if_neg hne] at hnew
      exact hx.source n v hv hnew
  · intro n hn
    exact hx.unmade n (by simpa [ClientApp.putWallet] using hn)

/-- **A settled wallet leaves a pair.** -/
theorem leave {number : Nat} {w : Wallet} (hx : Kept x) (hw : x.1.wallets[number]? = some w)
    (popped : Bool) (hcond : isSettled x (.leaveWallet number popped) = true) :
    Kept (x.1.leaveWallet number w popped, x.2) := by
  have hset : ∀ {n : Nat} {v : Wallet}, (x.1.wallets.set number (w.leave popped))[n]? = some v →
      (n = number ∧ v = w.leave popped) ∨ (n ≠ number ∧ x.1.wallets[n]? = some v) :=
    fun hv => CardHistory.getElem?_putWallet hv
  refine ⟨?_, hx.chosen, ?_, ?_, ?_, ?_⟩
  · unfold StoresPair
    simp only [ClientApp.leaveWallet, Wallet.viewWillDisappear]
    by_cases hempty : w.cardList = []
    · simp [hempty, isPair, pairOf]
    · have hpair : isPair x.2.returned w.userStripeId w.selectedIndex = true := by
        rw [hx.customer number w hw]
        have hcase : x.2.isNew number = true ∨
            isPair x.2.returned (pairOf (x.2.choice number)).1 w.selectedIndex = true := by
          simpa [isSettled, hw, hempty] using hcond
        rcases hcase with hnew | hpair
        · rw [hx.source number w hw hnew]
          exact isPair_pairOf (hx.chosen number)
        · exact hpair
      simpa [hempty] using hpair
  · intro n v hv
    rcases hset hv with ⟨rfl, rfl⟩ | ⟨_, hv⟩
    · exact hx.listed n w hw
    · exact hx.listed n v hv
  · intro n v hv
    rcases hset hv with ⟨rfl, rfl⟩ | ⟨_, hv⟩
    · exact hx.customer n w hw
    · exact hx.customer n v hv
  · intro n v hv hnew
    rcases hset hv with ⟨rfl, rfl⟩ | ⟨_, hv⟩
    · exact hx.source n w hw hnew
    · exact hx.source n v hv hnew
  · intro n hn
    exact hx.unmade n (by simpa [ClientApp.leaveWallet, ClientApp.putWallet] using hn)

/-- Every wallet is left behind, and writes nothing. -/
theorem logout (hx : Kept x) : Kept (x.1.logout, x.2) := by
  have hold : ∀ {n : Nat} {v : Wallet}, x.1.logout.wallets[n]? = some v →
      ∃ w, x.1.wallets[n]? = some w ∧ v = w.leave true := by
    intro n v hv
    obtain ⟨w, hw, rfl⟩ := Option.map_eq_some_iff.mp
      ((List.getElem?_map (i := n) (l := x.1.wallets)).symm.trans hv)
    exact ⟨w, hw, rfl⟩
  refine ⟨?_, hx.chosen, ?_, ?_, ?_, ?_⟩
  · have hstored := hx.stored
    unfold StoresPair at hstored ⊢
    simpa [ClientApp.logout, UserDefaults.setBool, UserDefaults.getInt] using hstored
  · intro n v hv
    obtain ⟨w, hw, rfl⟩ := hold hv
    exact hx.listed n w hw
  · intro n v hv
    obtain ⟨w, hw, rfl⟩ := hold hv
    exact hx.customer n w hw
  · intro n v hv hnew
    obtain ⟨w, hw, rfl⟩ := hold hv
    exact hx.source n w hw hnew
  · intro n hn
    exact hx.unmade n (by simpa [ClientApp.logout] using hn)

end Kept

/-! ## 3. One step -/

/-- The list of cards arrives. -/
theorem Kept.cardList {call number : Nat} {reply : Option Dict} {b : ClientApp} (hx : Kept x)
    (hanswer : { x.1 with cardCalls := x.1.cardCalls.retire call }.answerWallet number
      (fun w => w.cardListReply reply) = .ok b) :
    Kept (b, { x.2 with returned := x.2.returned ++ Wallet.cardsOf reply }) := by
  have hretired : Kept ({ x.1 with cardCalls := x.1.cardCalls.retire call }, x.2) :=
    hx.quiet rfl rfl rfl
  have hret : Kept ({ x.1 with cardCalls := x.1.cardCalls.retire call },
      { x.2 with returned := x.2.returned ++ Wallet.cardsOf reply }) := hretired.offer _
  rcases ClientApp.answerWallet_inv hanswer with ⟨_, rfl⟩ | ⟨w, w', hw, hlist, rfl⟩
  · exact hret
  · rcases Wallet.cardListReply_cards hlist with rfl | rfl
    · exact hret.relist (w := w') hw (hret.listed number w' hw)
    · exact hret.relist hw (List.subset_append_right _ _)

/-- A card is taken off a list. -/
theorem Kept.deleteReply {call number row : Nat} {success : Bool} {b : ClientApp} (hx : Kept x)
    (hanswer : { x.1 with deleteCalls := x.1.deleteCalls.retire call }.answerWallet number
      (fun w => w.deleteReply row success) = .ok b) : Kept (b, x.2) := by
  have hret : Kept ({ x.1 with deleteCalls := x.1.deleteCalls.retire call }, x.2) :=
    hx.quiet rfl rfl rfl
  rcases ClientApp.answerWallet_inv hanswer with ⟨_, rfl⟩ | ⟨w, w', hw, hdelete, rfl⟩
  · exact hret
  · rcases Wallet.deleteReply_inv hdelete with rfl | rfl
    · exact hret.relist (w := w') hw (hret.listed number w' hw)
    · refine hret.relist hw fun card hcard => ?_
      exact hret.listed number w hw (List.mem_of_mem_eraseIdx hcard)

/-- The press on a row, or its deletion, makes a choice of a listed card, or of none. -/
theorem Kept.deleteRow {number row : Nat} {w w' : Wallet} (hx : Kept x)
    (hw : x.1.wallets[number]? = some w) (hcommit : w.commitDelete row = .ok w') :
    Kept (x.1.putWallet number w',
      if w.isChecked row then x.2.choose number (w.fallback row) else x.2) := by
  cases hchecked : w.isChecked row with
  | false =>
    obtain rfl := Wallet.commitDelete_unchecked hcommit hchecked
    exact hx.relist (w := w') hw (hx.listed number w' hw)
  | true =>
    rw [if_pos rfl]
    rcases Wallet.commitDelete_checked hcommit hchecked with ⟨hnone, rfl⟩ | ⟨card, hcard, hsome, rfl⟩
    · rw [hnone]
      exact hx.choose hw rfl rfl rfl (by simp)
    · rw [hsome]
      exact hx.choose hw rfl rfl rfl (by simpa using hcard)

/-- **One step of the app.** -/
theorem Kept.step {e : AppEvent} (hx : Kept x) (hcond : isSettled x e = true)
    (hstep : ((ClientApp.machine distance).withHistory note).Step x e y) : Kept y := by
  obtain ⟨a, h⟩ := x
  obtain ⟨b, h'⟩ := y
  obtain ⟨hab, hnote⟩ := Machine.withHistory_step.mp hstep
  obtain rfl : h' = note h a e b := hnote
  have hof : ClientApp.StepOf distance a b e := ClientApp.step_inv hab
  cases e with
  | session i e =>
    obtain ⟨hown, s, t, hs, hst, rfl⟩ := hof
    have hdefaults : t.device.defaults = a.device.defaults :=
      ClientSession.step_defaults hst hown
    exact hx.quiet rfl (congrArg (·.getInt .userStripeId) hdefaults)
      (congrArg (·.getInt .userCardSelected) hdefaults)
  | signInReply reply =>
    rcases ClientApp.signInReply_inv hof.2 with ⟨_, rfl⟩ | ⟨id, _, _, _, rfl, rfl⟩
    · exact hx
    · exact hx.quiet rfl (by simp [UserDefaults.setBool, UserDefaults.getInt])
        (by simp [UserDefaults.setBool, UserDefaults.getInt])
  | logout =>
    obtain ⟨_, rfl⟩ := hof
    exact hx.logout
  | pushDashboard =>
    obtain ⟨_, rfl⟩ := ClientApp.pushDashboard_inv hof.2
    exact hx.quiet rfl rfl rfl
  | profileReply call reply =>
    rcases ClientApp.profileReply_inv hof with rfl | ⟨profile, _, _, rfl⟩
    · exact hx.quiet rfl rfl rfl
    · exact hx.quiet rfl (CardHistory.getInt_set_dict (by decide))
        (CardHistory.getInt_set_dict (by decide))
  | nextPressed kits =>
    obtain ⟨_, _, _, ⟨rfl, _⟩ | ⟨_, _, _, _, _, rfl⟩⟩ := ClientApp.nextPressed_inv hof
    · exact hx.quiet rfl rfl rfl
    · exact hx.quiet rfl rfl rfl
  | openWallet =>
    obtain ⟨_, _, hopen⟩ := hof
    have hmade : Kept ({ a with wallets := a.wallets ++ [Wallet.fresh] },
        h.appear a.wallets.length) := hx.made
    have hlisted : (a.wallets ++ [Wallet.fresh])[a.wallets.length]? = some Wallet.fresh :=
      List.getElem?_concat_length
    have happear := hmade.appear hlisted hopen
    simpa [note, PairHistory.appear] using happear
  | uncoverWallet number =>
    obtain ⟨w, hw, _, _, hshow⟩ := hof
    exact hx.appear hw hshow
  | leaveWallet number popped =>
    obtain ⟨w, hw, _, rfl⟩ := hof
    exact hx.leave hw popped hcond
  | cardListReply call reply =>
    obtain ⟨number, _, hanswer⟩ := hof
    exact hx.cardList hanswer
  | selectRow number row =>
    obtain ⟨w, w', hw, _, hselect, rfl⟩ := hof
    obtain ⟨card, hcard, rfl⟩ := Wallet.didSelectRow_inv hselect
    simp only [note, hw, Option.bind_some, hcard]
    exact hx.choose hw rfl rfl rfl (by simpa using List.mem_of_getElem? hcard)
  | deleteRow number row =>
    obtain ⟨w, hw, _, hdelete⟩ := hof
    obtain ⟨w', hcommit, rfl⟩ := ClientApp.deleteRow_inv hdelete
    simp only [note, hw]
    exact (hx.deleteRow hw hcommit).quiet rfl rfl rfl
  | deleteReply call success =>
    obtain ⟨number, row, hanswer⟩ := hof
    exact hx.deleteReply hanswer
  | addCardFailed =>
    obtain rfl : b = a.addCardFailed := hof
    exact hx.quiet rfl (UserDefaults.getInt_setInt_of_ne _ _ (by decide))
      (UserDefaults.getInt_setInt_of_ne _ _ (by decide))

/-! ## 4. The law -/

/-- **The stored pair is one card.**  From a launch on any device whose pair is one of the cards
returned before, or none, over every order of visits, replies, choices, deletions and sign-ins
whose wallets go off screen settled. -/
theorem pair_if_settled (device : Device) (onMain : Bool) (returned : List StripeCard)
    (hdevice : isPair returned (device.defaults.getInt .userStripeId)
      (device.defaults.getInt .userCardSelected) = true)
    (hrun : ((ClientApp.machine distance).withHistory note).RunWhere
      (fun x e => isSettled x e = true)
      (ClientApp.launch device onMain, { returned := returned }) x) : StoresPair x := by
  have h₀ : Kept (ClientApp.launch device onMain, { returned := returned }) :=
    ⟨hdevice, by simp, by simp [ClientApp.launch], by simp [ClientApp.launch],
      by simp [ClientApp.launch], by simp⟩
  have hI : Kept x := hrun.invariant h₀ fun _ _ _ hI hcond hstep => hI.step hcond hstep
  exact hI.stored

/-- Client 24 is signed in on a fresh device, and chooses the only card. -/
def firstVisit : List AppEvent :=
  .signInReply [("Success", .ofInt 1), ("ClientId", .ofInt 24)] :: CardHistory.chooseEvents

/-- The wallet is opened once more, the cards arrive, and it is left. -/
def secondVisit : List AppEvent :=
  [.openWallet,
    .cardListReply 1 (some [("SourceCardList", .arr [.obj
      [("ClientStripeCustomerId", .ofInt 3), ("ClientStripeCustomerSourceId", .ofInt 7)]])]),
    .leaveWallet 1 true]

/-- A card is chosen, and is what is stored. -/
theorem pair_if_settled_chosen : ∃ x : ClientApp × PairHistory,
    x.1.device.defaults.getInt .userCardSelected = 7 ∧ StoresPair x := by
  obtain ⟨x, hrun, htest⟩ := Machine.exists_run_of_replay
    ((ClientApp.machine sampleDistance).withHistory note) isSettled
    (ClientApp.launch { defaults := .empty, appDelegate := {} } true, { returned := [] }) firstVisit
    (fun x => x.1.device.defaults.getInt .userCardSelected == 7) (fun _ _ => id)
    (by decide +kernel)
  exact ⟨x, by simpa using htest, pair_if_settled _ true [] (by decide) hrun⟩

/-- **A visit without a choice stores half a card.** -/
theorem half_a_card : ∃ x : ClientApp × PairHistory,
    ((ClientApp.machine sampleDistance).withHistory note).Run
      (ClientApp.launch { defaults := .empty, appDelegate := {} } true, { returned := [] }) x ∧
      ¬StoresPair x := by
  obtain ⟨x, hrun, htest⟩ := Machine.exists_run_of_replay
    ((ClientApp.machine sampleDistance).withHistory note) (fun _ _ => true)
    (ClientApp.launch { defaults := .empty, appDelegate := {} } true, { returned := [] })
    (firstVisit ++ secondVisit)
    (fun x => !isPair x.2.returned (x.1.device.defaults.getInt .userStripeId)
      (x.1.device.defaults.getInt .userCardSelected))
    (fun _ _ _ => trivial) (by decide +kernel)
  refine ⟨x, hrun, ?_⟩
  unfold StoresPair
  simpa using htest

end PairHistory

end WeatherAccommodation
