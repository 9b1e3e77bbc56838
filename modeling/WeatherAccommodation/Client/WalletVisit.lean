/-
# A look at the wallet

A wallet empties its list when it comes on screen, and asks for it anew; when it goes off screen, an
empty list is taken to mean that there are no cards.  Else it stores the source that it has read
back from the defaults, and the customer that the last choice on this very screen has left, -1 on a
screen that was just opened.

`step_wallet` says what an event does to a wallet.  `visit_keeps_pair_iff` is about a visit in which
nothing is chosen and nothing deleted, whenever and however the list arrives: the stored pair is as
it was exactly if it was that of no card, when the list is empty at the end, and if the customer in
the field is the stored one, when it is not.
-/
import WeatherAccommodation.Client.CardPair

namespace WeatherAccommodation

open Foundation Reactive

/-! ## 1. What a step does to a wallet -/

namespace Wallet

variable {w v : Wallet}

/-- The list and the choice are the same. -/
structure Same (w v : Wallet) : Prop where
  cardList : v.cardList = w.cardList
  selectedIndex : v.selectedIndex = w.selectedIndex
  userStripeId : v.userStripeId = w.userStripeId

theorem Same.refl (w : Wallet) : Same w w := ⟨rfl, rfl, rfl⟩

/-- A success that is handled puts its own cards on the list. -/
theorem cardListReply_some {reply : Dict} (h : w.cardListReply (some reply) = .ok v) :
    v = { w with cardList := cardsOf (some reply) } := by
  simp only [cardListReply, bind_eq_ok, unwrap_eq_ok, pure_eq_ok] at h
  obtain ⟨items, hitems, cards, hcards, rfl⟩ := h
  simp [cardsOf, hitems, hcards]

end Wallet

namespace ClientApp

variable {distance : CLLocation → CLLocation → ℚ} {a b c d : ClientApp} {e : AppEvent}
  {n : Nat} {v w : Wallet}

/-- The wallet whose list or choice the event is about. -/
def concerns (a : ClientApp) : AppEvent → Option Nat
  | .openWallet => some a.wallets.length
  | .uncoverWallet n => some n
  | .selectRow n _ => some n
  | .deleteRow n _ => some n
  | .cardListReply call (some _) => a.cardCalls.waiting call
  | .deleteReply call true => (a.deleteCalls.waiting call).map Prod.fst
  | _ => none

/-- Where the wallet with number `n` comes from. -/
inductive WalletMove (a : ClientApp) (n : Nat) (v : Wallet) : AppEvent → Prop
  | kept {e : AppEvent} {w : Wallet} (other : a.concerns e ≠ some n)
      (listed : a.wallets[n]? = some w) (same : w.Same v) : WalletMove a n v e
  | opened (number : n = a.wallets.length)
      (after : v = Wallet.fresh.viewWillAppear a.device.defaults) : WalletMove a n v .openWallet
  | uncovered {w : Wallet} (listed : a.wallets[n]? = some w)
      (after : v = w.viewWillAppear a.device.defaults) : WalletMove a n v (.uncoverWallet n)
  | relisted {w : Wallet} {call : Nat} {reply : Dict} (waits : a.cardCalls.waiting call = some n)
      (listed : a.wallets[n]? = some w)
      (after : v = { w with cardList := Wallet.cardsOf (some reply) }) :
      WalletMove a n v (.cardListReply call (some reply))
  | selected {w : Wallet} {row : Nat} {card : StripeCard} (listed : a.wallets[n]? = some w)
      (pressed : w.cardList[row]? = some card) (after : v = w.choose card) :
      WalletMove a n v (.selectRow n row)
  | swiped {w : Wallet} {row : Nat} (listed : a.wallets[n]? = some w)
      (commit : w.commitDelete row = .ok v) : WalletMove a n v (.deleteRow n row)
  | deleted {w : Wallet} {call row : Nat} (waits : a.deleteCalls.waiting call = some (n, row))
      (listed : a.wallets[n]? = some w) (inRange : row < w.cardList.length)
      (after : v = { w with cardList := w.cardList.eraseIdx row }) :
      WalletMove a n v (.deleteReply call true)

/-- The event is about no wallet, or about another one. -/
theorem WalletMove.untouched (other : a.concerns e ≠ some n) (h : a.wallets[n]? = some v) :
    WalletMove a n v e :=
  .kept other h (.refl v)

/-- What an answer does to the wallets: the one that waits for it is there and takes it, and every
other one is as it was. -/
theorem getElem?_answerWallet {number : Nat} {f : Wallet → Except Trap Wallet}
    (h : a.answerWallet number f = .ok b) (hv : b.wallets[n]? = some v) :
    (n = number ∧ ∃ w, a.wallets[n]? = some w ∧ f w = .ok v) ∨
      (n ≠ number ∧ a.wallets[n]? = some v) := by
  rcases answerWallet_inv h with ⟨hnone, rfl⟩ | ⟨w, w', hw, hanswer, rfl⟩
  · refine Or.inr ⟨?_, hv⟩
    rintro rfl
    exact absurd (hv.symm.trans hnone) (by simp)
  · rcases CardHistory.getElem?_putWallet hv with ⟨rfl, rfl⟩ | ⟨hne, hkept⟩
    · exact Or.inl ⟨rfl, w, hw, hanswer⟩
    · exact Or.inr ⟨hne, hkept⟩

/-- **What an event does to a wallet.** -/
theorem step_wallet (h : (machine distance).Step a e b) (hv : b.wallets[n]? = some v) :
    WalletMove a n v e := by
  have hof : StepOf distance a b e := step_inv h
  cases e with
  | session i ev =>
    obtain ⟨_, s, t, _, _, rfl⟩ := hof
    exact .untouched (by simp [concerns]) hv
  | signInReply reply =>
    rcases signInReply_inv hof.2 with ⟨_, rfl⟩ | ⟨_, _, _, _, _, rfl⟩
    · exact .untouched (by simp [concerns]) hv
    · exact .untouched (by simp [concerns]) hv
  | logout =>
    obtain ⟨_, rfl⟩ := hof
    have hmap : (a.wallets.map fun w => w.leave true)[n]? = some v := hv
    obtain ⟨w, hw, rfl⟩ := Option.map_eq_some_iff.mp (List.getElem?_map ▸ hmap)
    exact .kept (by simp [concerns]) hw ⟨rfl, rfl, rfl⟩
  | pushDashboard =>
    obtain ⟨_, rfl⟩ := pushDashboard_inv hof.2
    exact .untouched (by simp [concerns]) hv
  | profileReply call reply =>
    rcases profileReply_inv hof with rfl | ⟨_, _, _, rfl⟩
    · exact .untouched (by simp [concerns]) hv
    · exact .untouched (by simp [concerns]) hv
  | nextPressed kits =>
    obtain ⟨_, _, _, ⟨rfl, _⟩ | ⟨_, _, _, _, _, rfl⟩⟩ := nextPressed_inv hof
    · exact .untouched (by simp [concerns]) hv
    · exact .untouched (by simp [concerns]) hv
  | openWallet =>
    obtain rfl := openWallet_inv hof.2.2
    have happend : (a.wallets ++ [Wallet.fresh.viewWillAppear a.device.defaults])[n]? = some v := hv
    rw [List.getElem?_append] at happend
    split at happend
    · rename_i hlt
      exact .untouched (by simp [concerns, Nat.ne_of_gt hlt]) happend
    · rename_i hge
      have hlt : n - a.wallets.length < 1 := (List.getElem?_eq_some_iff.mp happend).1
      exact .opened (by omega) (List.mem_singleton.mp (List.mem_of_getElem? happend))
  | uncoverWallet number =>
    obtain ⟨w, hw, _, _, hshow⟩ := hof
    obtain rfl := showWallet_inv hshow
    have hput : (a.putWallet number (w.viewWillAppear a.device.defaults)).wallets[n]? = some v := hv
    rcases CardHistory.getElem?_putWallet hput with ⟨rfl, rfl⟩ | ⟨hne, hkept⟩
    · exact .uncovered hw rfl
    · exact .untouched (by simp [concerns, Ne.symm hne]) hkept
  | leaveWallet number popped =>
    obtain ⟨w, hw, _, rfl⟩ := hof
    have hput : (a.putWallet number (w.leave popped)).wallets[n]? = some v := hv
    rcases CardHistory.getElem?_putWallet hput with ⟨rfl, rfl⟩ | ⟨_, hkept⟩
    · exact .kept (by simp [concerns]) hw ⟨rfl, rfl, rfl⟩
    · exact .untouched (by simp [concerns]) hkept
  | cardListReply call reply =>
    obtain ⟨number, hwaits, hanswer⟩ := hof
    rcases getElem?_answerWallet hanswer hv with ⟨rfl, w, hw, hlist⟩ | ⟨hne, hkept⟩
    · cases reply with
      | none =>
        obtain rfl : w = v := by simpa [Wallet.cardListReply, pure, Except.pure] using hlist
        exact .untouched (by simp [concerns]) hw
      | some reply => exact .relisted hwaits hw (Wallet.cardListReply_some hlist)
    · refine .untouched ?_ hkept
      cases reply with
      | none => simp [concerns]
      | some reply => simp [concerns, hwaits, Ne.symm hne]
  | selectRow number row =>
    obtain ⟨w, w', hw, _, hselect, rfl⟩ := hof
    obtain ⟨card, hcard, rfl⟩ := Wallet.didSelectRow_inv hselect
    rcases CardHistory.getElem?_putWallet hv with ⟨rfl, rfl⟩ | ⟨hne, hkept⟩
    · exact .selected hw hcard rfl
    · exact .untouched (by simp [concerns, Ne.symm hne]) hkept
  | deleteRow number row =>
    obtain ⟨w, hw, _, hdelete⟩ := hof
    obtain ⟨w', hcommit, rfl⟩ := deleteRow_inv hdelete
    have hput : (a.putWallet number w').wallets[n]? = some v := hv
    rcases CardHistory.getElem?_putWallet hput with ⟨rfl, rfl⟩ | ⟨hne, hkept⟩
    · exact .swiped hw hcommit
    · exact .untouched (by simp [concerns, Ne.symm hne]) hkept
  | deleteReply call success =>
    have hreact : react distance a (.deleteReply call success) = some (.ok b) := h
    simp only [react, Option.map_eq_some_iff, Prod.exists] at hreact
    obtain ⟨number, row, hwaits, hanswer⟩ := hreact
    rcases getElem?_answerWallet hanswer hv with ⟨rfl, w, hw, hreply⟩ | ⟨hne, hkept⟩
    · cases success with
      | false =>
        obtain rfl : w = v := by simpa [Wallet.deleteReply] using hreply
        exact .untouched (by simp [concerns]) hw
      | true =>
        simp only [Wallet.deleteReply, if_true] at hreply
        split at hreply
        · rename_i hlt
          exact .deleted hwaits hw hlt (Except.ok.inj hreply).symm
        · exact absurd hreply (by simp)
    · refine .untouched ?_ hkept
      cases success with
      | false => simp [concerns]
      | true => simp [concerns, hwaits, Ne.symm hne]
  | addCardFailed =>
    obtain rfl : b = a.addCardFailed := hof
    exact .untouched (by simp [concerns]) hv

/-! ## 2. The stored pair -/

/-- `userCardSelected` and `userStripeId` -/
def storedPair (a : ClientApp) : Int × Int :=
  (a.device.defaults.getInt .userCardSelected, a.device.defaults.getInt .userStripeId)

theorem storedPair_of_defaults (h : b.device.defaults = a.device.defaults) :
    b.storedPair = a.storedPair := by
  simp [storedPair, h]

def isLeave : AppEvent → Bool
  | .leaveWallet _ _ => true
  | _ => false

/-- **Only a wallet that goes off screen stores a pair.** -/
theorem storedPair_step (h : (machine distance).Step a e b) (he : isLeave e = false) :
    b.storedPair = a.storedPair := by
  have hof : StepOf distance a b e := step_inv h
  cases e with
  | session i ev =>
    obtain ⟨hown, s, t, _, hstep, rfl⟩ := hof
    exact storedPair_of_defaults (ClientSession.step_defaults hstep hown)
  | signInReply reply =>
    rcases signInReply_inv hof.2 with ⟨_, rfl⟩ | ⟨_, _, _, _, rfl, rfl⟩
    · rfl
    · simp [storedPair, UserDefaults.setBool, UserDefaults.getInt]
  | logout =>
    obtain ⟨_, rfl⟩ := hof
    simp [storedPair, logout, UserDefaults.setBool, UserDefaults.getInt]
  | pushDashboard =>
    obtain ⟨_, rfl⟩ := pushDashboard_inv hof.2
    rfl
  | profileReply call reply =>
    rcases profileReply_inv hof with rfl | ⟨_, _, _, rfl⟩
    · rfl
    · exact Prod.ext (CardHistory.getInt_set_dict (by decide))
        (CardHistory.getInt_set_dict (by decide))
  | nextPressed kits =>
    obtain ⟨_, _, _, ⟨rfl, _⟩ | ⟨_, _, _, _, _, rfl⟩⟩ := nextPressed_inv hof
    · rfl
    · rfl
  | openWallet =>
    obtain rfl := openWallet_inv hof.2.2
    rfl
  | uncoverWallet number =>
    obtain ⟨w, _, _, _, hshow⟩ := hof
    obtain rfl := showWallet_inv hshow
    rfl
  | leaveWallet number popped => exact absurd he (by simp [isLeave])
  | cardListReply call reply =>
    obtain ⟨_, _, hanswer⟩ := hof
    rcases answerWallet_inv hanswer with ⟨_, rfl⟩ | ⟨_, _, _, _, rfl⟩
    · rfl
    · rfl
  | selectRow number row =>
    obtain ⟨_, _, _, _, _, rfl⟩ := hof
    rfl
  | deleteRow number row =>
    obtain ⟨_, _, _, hdelete⟩ := hof
    obtain ⟨_, _, rfl⟩ := deleteRow_inv hdelete
    rfl
  | deleteReply call success =>
    obtain ⟨_, _, hanswer⟩ := hof
    rcases answerWallet_inv hanswer with ⟨_, rfl⟩ | ⟨_, _, _, _, rfl⟩
    · rfl
    · rfl
  | addCardFailed =>
    obtain rfl : b = a.addCardFailed := hof
    exact Prod.ext (UserDefaults.getInt_setInt_of_ne _ _ (by decide))
      (UserDefaults.getInt_setInt_of_ne _ _ (by decide))

/-! ## 3. A visit -/

/-- The event brings the wallet on screen: it opens it, or returns to it. -/
def Shows (a : ClientApp) (e : AppEvent) (number : Nat) : Prop :=
  (e = .openWallet ∧ number = a.wallets.length) ∨ e = .uncoverWallet number

/-- Nothing is chosen, nothing deleted, and no wallet comes or goes. -/
def isLook : AppEvent → Bool
  | .openWallet | .uncoverWallet _ | .leaveWallet _ _ | .selectRow _ _ | .deleteRow _ _ => false
  | _ => true

/-- The customer that the wallet has in its field; a new one has none. -/
def customerOf (a : ClientApp) (number : Nat) : Int :=
  (a.wallets[number]?.map Wallet.userStripeId).getD Wallet.fresh.userStripeId

/-- The wallet has read back the source, and kept the customer. -/
theorem shown_choice {number : Nat} (hopen : (machine distance).Step a e b)
    (hshows : a.Shows e number) (hv : b.wallets[number]? = some v) :
    v.selectedIndex = a.storedPair.1 ∧ v.userStripeId = a.customerOf number := by
  rcases hshows with ⟨rfl, rfl⟩ | rfl
  · cases step_wallet hopen hv with
    | kept other _ _ => exact absurd rfl other
    | opened _ after =>
      rw [after]
      simp [Wallet.viewWillAppear, storedPair, customerOf]
  · cases step_wallet hopen hv with
    | kept other _ _ => exact absurd rfl other
    | uncovered listed after =>
      rw [after]
      simp [Wallet.viewWillAppear, storedPair, customerOf, listed]

/-- A look moves no choice. -/
theorem look_choice {number : Nat} (h : (machine distance).Step a e b) (he : isLook e = true)
    (hv : b.wallets[number]? = some v) : ∃ w, a.wallets[number]? = some w ∧
      v.selectedIndex = w.selectedIndex ∧ v.userStripeId = w.userStripeId := by
  cases step_wallet h hv with
  | kept _ listed same => exact ⟨_, listed, same.selectedIndex, same.userStripeId⟩
  | relisted _ listed after =>
    rw [after]
    exact ⟨_, listed, rfl, rfl⟩
  | deleted _ listed _ after =>
    rw [after]
    exact ⟨_, listed, rfl, rfl⟩
  | _ => exact absurd he (by simp [isLook])

/-- What a visit has left of the pair, and what the wallet holds at its end. -/
theorem look_run {number : Nat} (hopen : (machine distance).Step a e b)
    (hshows : a.Shows e number)
    (hlook : (machine distance).RunWhere (fun _ e => isLook e = true) b c) :
    c.storedPair = a.storedPair ∧ ∀ v, c.wallets[number]? = some v →
      v.selectedIndex = a.storedPair.1 ∧ v.userStripeId = a.customerOf number := by
  have hbegin : isLeave e = false := by
    rcases hshows with ⟨rfl, _⟩ | rfl
    · rfl
    · rfl
  refine hlook.invariant
    (I := fun c => c.storedPair = a.storedPair ∧ ∀ v, c.wallets[number]? = some v →
      v.selectedIndex = a.storedPair.1 ∧ v.userStripeId = a.customerOf number) ?_ ?_
  · exact ⟨storedPair_step hopen hbegin, fun v hv => shown_choice hopen hshows hv⟩
  · rintro x ev y ⟨hpair, hchoice⟩ hev hstep
    have hstay : isLeave ev = false := by
      cases ev with
      | leaveWallet _ _ => exact absurd hev (by simp [isLook])
      | _ => rfl
    refine ⟨(storedPair_step hstep hstay).trans hpair, fun v hv => ?_⟩
    obtain ⟨w, hw, hindex, hstripe⟩ := look_choice hstep hev hv
    rw [hindex, hstripe]
    exact hchoice w hw

/-- What is stored when the wallet goes off screen. -/
theorem storedPair_leave {number : Nat} {popped : Bool} (listed : c.wallets[number]? = some w)
    (h : (machine distance).Step c (.leaveWallet number popped) d) :
    d.storedPair = if w.cardList = [] then (-1, -1) else (w.selectedIndex, w.userStripeId) := by
  obtain ⟨v, hv, _, rfl⟩ : StepOf distance c d (.leaveWallet number popped) := step_inv h
  obtain rfl : w = v := Option.some.inj (listed.symm.trans hv)
  by_cases hempty : w.cardList = []
  · simp [storedPair, leaveWallet, Wallet.viewWillDisappear, hempty]
  · simp [storedPair, leaveWallet, Wallet.viewWillDisappear, hempty]

/-- A wallet is opened or returned to, nothing is chosen or deleted on it, whether and however the
list arrives, and it is left as `w`. -/
def Visit (distance : CLLocation → CLLocation → ℚ) (a : ClientApp) (number : Nat) (w : Wallet)
    (d : ClientApp) : Prop :=
  ∃ e b c popped, (machine distance).Step a e b ∧ a.Shows e number ∧
    (machine distance).RunWhere (fun _ e => isLook e = true) b c ∧
    c.wallets[number]? = some w ∧ (machine distance).Step c (.leaveWallet number popped) d

/-- **When a look changes nothing.**  For every visit, and whatever happens after it before another
one ends: the stored pair is as it was exactly if it was that of no card, where the list is empty
when the wallet is left, and where it is not, if the customer in the field was the stored one. -/
theorem visit_keeps_pair_iff {number : Nat} {d' : ClientApp}
    (hvisit : Visit distance a number w d)
    (hafter : (machine distance).RunWhere (fun _ e => isLeave e = false) d d') :
    d'.storedPair = a.storedPair ↔
      if w.cardList = [] then a.storedPair = (-1, -1)
      else a.customerOf number = a.storedPair.2 := by
  obtain ⟨e, b, c, popped, hopen, hshows, hlook, listed, hleave⟩ := hvisit
  have hsame : d'.storedPair = d.storedPair :=
    hafter.invariant (I := fun x => x.storedPair = d.storedPair) rfl
      fun _ _ _ hI he hstep => (storedPair_step hstep he).trans hI
  obtain ⟨_, hchoice⟩ := look_run hopen hshows hlook
  obtain ⟨hindex, hstripe⟩ := hchoice w listed
  rw [hsame, storedPair_leave listed hleave, hindex, hstripe]
  by_cases hempty : w.cardList = []
  · rw [if_pos hempty, if_pos hempty]
    exact eq_comm
  · rw [if_neg hempty, if_neg hempty]
    constructor
    · exact fun h => congrArg Prod.snd h
    · exact fun h => Prod.ext rfl h

/-! ## 4. Two visits -/

/-- Card 7 of customer 3 is stored. -/
def storedDevice : Device where
  defaults := ((UserDefaults.empty.set .userProfileInfoDef (.dict [("ClientId", .ofInt 24)])).setInt
    .userCardSelected 7).setInt .userStripeId 3
  appDelegate := {}

/-- The server lists it. -/
def cardReply : Dict :=
  [("SourceCardList", .arr [.obj
    [("ClientStripeCustomerId", .ofInt 3), ("ClientStripeCustomerSourceId", .ofInt 7)]])]

/-- A wallet on which the card was chosen, and that another screen covers. -/
def coveredApp : ClientApp :=
  { launch storedDevice false with wallets := [{ selectedIndex := 7, userStripeId := 3 }] }

/-- The visit with these events, and a test of what is left. -/
def visitTest (a : ClientApp) (e : AppEvent) (looks : List AppEvent) (number : Nat)
    (p : Wallet → ClientApp → Bool) : Bool :=
  match react sampleDistance a e with
  | some (.ok b) =>
    ((machine sampleDistance).replay (fun _ e => isLook e) b looks).any fun c =>
      match c.wallets[number]?,
        react sampleDistance c (.leaveWallet number true) with
      | some w, some (.ok d) => p w d
      | _, _ => false
  | _ => false

theorem exists_visit {looks : List AppEvent} {number : Nat} {p : Wallet → ClientApp → Bool}
    (hshows : a.Shows e number) (h : visitTest a e looks number p = true) :
    ∃ w d, Visit sampleDistance a number w d ∧ p w d = true := by
  unfold visitTest at h
  split at h
  · rename_i b hopen
    obtain ⟨c, hlook, hp⟩ := (Option.any_eq_true _ _).mp h
    split at hp
    · rename_i w d hw hleave
      have hrun := Machine.RunWhere.of_replay (fun _ _ h => h) hlook
      exact ⟨w, d, ⟨e, b, c, true, hopen, hshows, hrun, hw, hleave⟩, hp⟩
    · exact absurd hp (by simp)
  · exact absurd h (by simp)

/-- The list arrives after the return to the wallet on which the card was chosen. -/
theorem visit_keeps_pair_returned : ∃ w d,
    Visit sampleDistance coveredApp 0 w d ∧ w.cardList ≠ [] ∧
      d.storedPair = (7, 3) := by
  obtain ⟨w, d, hvisit, htest⟩ := exists_visit (p := fun w _ => !w.cardList.isEmpty)
    (Or.inr rfl : coveredApp.Shows (.uncoverWallet 0) 0)
    (by decide +kernel : visitTest coveredApp (.uncoverWallet 0)
      [.cardListReply 0 (some cardReply)] 0 (fun w _ => !w.cardList.isEmpty) = true)
  have hlisted : w.cardList ≠ [] := by simpa using htest
  refine ⟨w, d, hvisit, hlisted, (visit_keeps_pair_iff hvisit .refl).mpr ?_⟩
  rw [if_neg hlisted]
  decide

/-- **A look changes the card**: the wallet is left before the list has arrived, and no card is
stored; or it is left after that, and the customer of the stored card is lost. -/
theorem look_changes_card :
    (∃ w d, Visit sampleDistance (launch storedDevice false) 0 w d ∧
      w.cardList = [] ∧ d.storedPair = (-1, -1)) ∧
    (∃ w d, Visit sampleDistance (launch storedDevice false) 0 w d ∧
      w.cardList = Wallet.cardsOf (some cardReply) ∧ d.storedPair = (7, -1)) ∧
    (launch storedDevice false).storedPair = (7, 3) := by
  have hshows : (launch storedDevice false).Shows .openWallet 0 := Or.inl ⟨rfl, rfl⟩
  refine ⟨?_, ?_, by decide⟩
  · have htest : visitTest (launch storedDevice false) .openWallet [] 0
        (fun w d => w.cardList == [] && d.storedPair == (-1, -1)) = true := by decide +kernel
    obtain ⟨w, d, hvisit, hp⟩ := exists_visit hshows htest
    simp only [Bool.and_eq_true, beq_iff_eq] at hp
    exact ⟨w, d, hvisit, hp⟩
  · have htest : visitTest (launch storedDevice false) .openWallet
        [.cardListReply 0 (some cardReply)] 0 (fun w d =>
          w.cardList == Wallet.cardsOf (some cardReply) && d.storedPair == (7, -1)) = true := by
      decide +kernel
    obtain ⟨w, d, hvisit, hp⟩ := exists_visit hshows htest
    simp only [Bool.and_eq_true, beq_iff_eq] at hp
    exact ⟨w, d, hvisit, hp⟩

end ClientApp

end WeatherAccommodation
