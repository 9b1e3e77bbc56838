/-
# The rows of the wallet

A table delivers a tap, a swipe or a request for a cell in any row below the count of its last
reload.  The wallet reloads it when a list has arrived, when a row was chosen and when a card is
off the list; it does not when it empties the list on coming into sight.  And the answer to a
deletion takes the card off the row that was swiped, whatever is in that row by then.

`TableLog` follows the table: its count, whether the list of this visit has arrived, which card the
server was asked to delete, and where the events since then have put that card.

* `tap_in_range_iff`: a row that is tapped is on the list exactly if the list of this visit has
  arrived; a swipe needs besides that the chosen card is not in the first of several rows.
* `rows_in_range`: so no run whose taps are of that kind, and whose answers find the card still in
  its row, ever uses an index that is out of range or takes off another card.
* `rows_out_of_range`: a tap after the return from the screen that adds a card; a swipe on the first
  row; and two deletions under way at once.
-/
import WeatherAccommodation.Client.CardDeletion
import WeatherAccommodation.Client.WalletVisit

namespace WeatherAccommodation

open Foundation Reactive

/-! ## 1. The table -/

/-- What `cellForRowAt` puts into a cell. -/
structure CardListTableCell where
  lblCardText : String
  imgCheckmarkIsHidden : Bool
  deriving DecidableEq, Repr

/-- `cellForRowAt` -/
def Wallet.cellForRow (w : Wallet) (row : Nat) : Except Trap CardListTableCell := do
  let card ← unwrap .indexOutOfRange w.cardList[row]?
  return {
    lblCardText := card.brand ++ " ending with " ++ card.last4
    imgCheckmarkIsHidden := card.clientStripeCustomerSourceId != w.selectedIndex }

inductive TableEvent where
  | app (e : AppEvent)
  | cellForRow (number row : Nat)

namespace ClientApp

def tableReact (distance : CLLocation → CLLocation → ℚ) (a : ClientApp) :
    TableEvent → Option (Except Trap ClientApp)
  | .app e => react distance a e
  | .cellForRow number row =>
    a.wallets[number]?.map fun w => (w.cellForRow row).map fun _ => a

def tableMachine (distance : CLLocation → CLLocation → ℚ) :
    Machine ClientApp TableEvent Trap where
  react := tableReact distance

end ClientApp

/-! ## 2. What the table has loaded, and where the cards are -/

structure TableLog where
  /-- The count at the last reload or update; the table of a new wallet loads an empty list. -/
  rows : Nat → Nat := fun _ => 0
  /-- The list has arrived since the wallet came on screen, or none was there to be emptied. -/
  isLoaded : Nat → Bool := fun _ => true
  /-- The card that the server was asked to delete, by call. -/
  asked : Nat → Int := fun _ => 0
  /-- The row it is in now. -/
  place : Nat → Option Nat := fun _ => none

namespace TableLog

/-- The call is a deletion on the wallet with number `n`. -/
def isOn (a : ClientApp) (n call : Nat) : Bool :=
  (a.deleteCalls.waiting call).any fun waiting => waiting.1 == n

/-- The cards that are asked for on one wallet are somewhere else. -/
def move (log : TableLog) (a : ClientApp) (n : Nat) (f : Int → Option Nat → Option Nat) :
    TableLog :=
  { log with place := fun call =>
      if isOn a n call then f (log.asked call) (log.place call) else log.place call }

/-- The table counts its rows anew. -/
def reload (log : TableLog) (n count : Nat) : TableLog :=
  { log with rows := Function.update log.rows n count }

/-- The row of the card in a list that has arrived. -/
def rowOf (cards : List StripeCard) (source : Int) : Option Nat :=
  cards.findIdx? fun card => card.clientStripeCustomerSourceId == source

/-- The row of a card after the one in `row` was taken off the list. -/
def rowAfter (row : Nat) (place : Option Nat) : Option Nat :=
  place.bind fun p => if p = row then none else if row < p then some (p - 1) else some p

/-- The history variable. -/
def note (log : TableLog) (a : ClientApp) (e : TableEvent) (b : ClientApp) : TableLog :=
  let countOf := fun n => (b.wallets[n]?.map fun w => w.cardList.length).getD 0
  match e with
  | .app (.uncoverWallet n) =>
    { log.move a n (fun _ _ => none) with isLoaded := Function.update log.isLoaded n false }
  | .app (.cardListReply call (some reply)) =>
    match a.cardCalls.waiting call with
    | some n =>
      { (log.move a n fun source _ => rowOf (Wallet.cardsOf (some reply)) source).reload n
          (countOf n) with
        isLoaded := Function.update log.isLoaded n true }
    | none => log
  | .app (.selectRow n _) => log.reload n (countOf n)
  | .app (.deleteRow n row) =>
    match a.wallets[n]?.bind fun w => w.cardList[row]? with
    | some card =>
      { log with
        asked := Function.update log.asked a.deleteCalls.issued card.clientStripeCustomerSourceId
        place := Function.update log.place a.deleteCalls.issued (some row) }
    | none => log
  | .app (.deleteReply call true) =>
    match a.deleteCalls.waiting call with
    | some (n, row) => (log.move a n fun _ place => rowAfter row place).reload n (countOf n)
    | none => log
  | _ => log

end TableLog

namespace ClientApp

variable {distance : CLLocation → CLLocation → ℚ} {a b : ClientApp} {log log' : TableLog}
  {x y : ClientApp × TableLog} {e : TableEvent} {n : Nat} {v w : Wallet}

/-- A row that the table shows is tapped, swiped or drawn. -/
def tappedRow : TableEvent → Option (Nat × Nat)
  | .app (.selectRow n row) => some (n, row)
  | .app (.deleteRow n row) => some (n, row)
  | .cellForRow n row => some (n, row)
  | _ => none

/-- The table delivers only rows below its count. -/
def isDelivered (x : ClientApp × TableLog) (e : TableEvent) : Bool :=
  (tappedRow e).all fun (n, row) => decide (row < x.2.rows n)

/-- The condition.  Rows are tapped after the list of the visit has arrived, the chosen card is not
deleted from the first of several rows, and when the server has deleted a card, that card is still
in the row that was swiped: the list was not emptied since, no list has arrived that has the card
elsewhere, and no card in an earlier row was deleted before it. -/
def isInStep (x : ClientApp × TableLog) (e : TableEvent) : Bool :=
  ((tappedRow e).all fun (n, _) => x.2.isLoaded n) &&
    match e with
    | .app (.deleteRow n row) => x.1.wallets[n]?.all fun w => !w.isFirstOfSeveral row
    | .app (.deleteReply call true) =>
      (x.1.deleteCalls.waiting call).all fun (_, row) => x.2.place call == some row
    | _ => true

/-- Every index that the handler of the event uses is below the count of the list, and a card that
is taken off it is the one that the server was asked to delete. -/
def InRange (x : ClientApp × TableLog) : TableEvent → Prop
  | .app (.selectRow n row) => ∀ w ∈ x.1.wallets[n]?, row < w.cardList.length
  | .cellForRow n row => ∀ w ∈ x.1.wallets[n]?, row < w.cardList.length
  | .app (.deleteRow n row) => ∀ w ∈ x.1.wallets[n]?, row < w.cardList.length ∧
      -- the card above is looked at
      (w.isChecked row = true → w.cardList.length ≠ 1 → row ≠ 0)
  | .app (.deleteReply call true) => ∀ waiting ∈ x.1.deleteCalls.waiting call,
      ∀ w ∈ x.1.wallets[waiting.1]?, ∃ card ∈ w.cardList[waiting.2]?,
        card.clientStripeCustomerSourceId = x.2.asked call
  | _ => True

/-- The table of a wallet counts the cards of its list, or the list is empty until it arrives; and
the cards that are asked for are where the log has them. -/
structure TableKept (a : ClientApp) (log : TableLog) : Prop where
  loaded : ∀ n w, a.wallets[n]? = some w → log.isLoaded n = true → log.rows n = w.cardList.length
  emptied : ∀ n w, a.wallets[n]? = some w → log.isLoaded n = false → w.cardList = []
  place : ∀ call n row p w, a.deleteCalls.waiting call = some (n, row) →
    log.place call = some p → a.wallets[n]? = some w →
      ∃ card, w.cardList[p]? = some card ∧ card.clientStripeCustomerSourceId = log.asked call
  unmade : ∀ n, a.wallets.length ≤ n → log.rows n = 0 ∧ log.isLoaded n = true
  calls : ∀ call n row, a.deleteCalls.waiting call = some (n, row) → n < a.wallets.length

/-! ## 3. One step -/

/-- The event makes no row and moves none. -/
theorem TableKept.of_same (hx : TableKept a log)
    (wallets : ∀ (n : Nat) (v : Wallet), b.wallets[n]? = some v →
      ∃ w, a.wallets[n]? = some w ∧ v.cardList = w.cardList)
    (length : b.wallets.length = a.wallets.length)
    (calls : ∀ call waiting, b.deleteCalls.waiting call = some waiting →
      a.deleteCalls.waiting call = some waiting) : TableKept b log where
  loaded := by
    intro n v hv hloaded
    obtain ⟨w, hw, hlist⟩ := wallets n v hv
    rw [hlist]
    exact hx.loaded n w hw hloaded
  emptied := by
    intro n v hv hloaded
    obtain ⟨w, hw, hlist⟩ := wallets n v hv
    rw [hlist]
    exact hx.emptied n w hw hloaded
  place := by
    intro call n row p v hcall hplace hv
    obtain ⟨w, hw, hlist⟩ := wallets n v hv
    rw [hlist]
    exact hx.place call n row p w (calls call _ hcall) hplace hw
  unmade := by
    rw [length]
    exact hx.unmade
  calls := by
    intro call n row hcall
    rw [length]
    exact hx.calls call n row (calls call _ hcall)

/-- One wallet changes, with its table, its calls and its part of the log. -/
theorem TableKept.of_change (hx : TableKept a log) (n : Nat)
    (others : ∀ (m : Nat) (v : Wallet), m ≠ n → b.wallets[m]? = some v →
      ∃ w, a.wallets[m]? = some w ∧ v.cardList = w.cardList)
    (length : a.wallets.length ≤ b.wallets.length)
    (calls : ∀ call waiting, b.deleteCalls.waiting call = some waiting →
      a.deleteCalls.waiting call = some waiting)
    (tables : ∀ m, m ≠ n → log'.rows m = log.rows m ∧ log'.isLoaded m = log.isLoaded m)
    (places : ∀ call, TableLog.isOn a n call = false → log'.place call = log.place call)
    (asked : log'.asked = log.asked)
    (self : ∀ v, b.wallets[n]? = some v →
      (log'.isLoaded n = true → log'.rows n = v.cardList.length) ∧
        (log'.isLoaded n = false → v.cardList = []) ∧
        ∀ call p, TableLog.isOn a n call = true → log'.place call = some p →
          ∃ card, v.cardList[p]? = some card ∧
            card.clientStripeCustomerSourceId = log.asked call)
    (unmade : b.wallets.length ≤ n → log'.rows n = 0 ∧ log'.isLoaded n = true) :
    TableKept b log' where
  loaded := by
    intro m v hv hload
    by_cases hm : m = n
    · subst hm
      exact (self v hv).1 hload
    · obtain ⟨w, hw, hlist⟩ := others m v hm hv
      rw [(tables m hm).1, hlist]
      exact hx.loaded m w hw ((tables m hm).2 ▸ hload)
  emptied := by
    intro m v hv hload
    by_cases hm : m = n
    · subst hm
      exact (self v hv).2.1 hload
    · obtain ⟨w, hw, hlist⟩ := others m v hm hv
      rw [hlist]
      exact hx.emptied m w hw ((tables m hm).2 ▸ hload)
  place := by
    intro call m row p v hcall hplace hv
    have hbefore := calls call _ hcall
    rw [asked]
    by_cases hm : m = n
    · subst hm
      exact (self v hv).2.2 call p (by simp [TableLog.isOn, hbefore]) hplace
    · have hother : TableLog.isOn a n call = false := by simp [TableLog.isOn, hbefore, hm]
      obtain ⟨w, hw, hlist⟩ := others m v hm hv
      rw [places call hother] at hplace
      rw [hlist]
      exact hx.place call m row p w hbefore hplace hw
  unmade := by
    intro m hm
    by_cases hmn : m = n
    · subst hmn
      exact unmade hm
    · rw [(tables m hmn).1, (tables m hmn).2]
      exact hx.unmade m (Nat.le_trans length hm)
  calls := by
    intro call m row hcall
    exact Nat.lt_of_lt_of_le (hx.calls call m row (calls call _ hcall)) length

/-- A swipe was handled: one more card is asked for, and it is in its row. -/
theorem TableKept.of_swipe (hx : TableKept a log) {n row : Nat} {w w' : Wallet} {card : StripeCard}
    (listed : a.wallets[n]? = some w) (pressed : w.cardList[row]? = some card)
    (list : w'.cardList = w.cardList) :
    TableKept { a.putWallet n w' with deleteCalls := a.deleteCalls.issue (n, row) }
      { log with
        asked := Function.update log.asked a.deleteCalls.issued card.clientStripeCustomerSourceId
        place := Function.update log.place a.deleteCalls.issued (some row) } := by
  have hlt : n < a.wallets.length := (List.getElem?_eq_some_iff.mp listed).1
  have hold : ∀ {m : Nat} {v : Wallet}, (a.wallets.set n w')[m]? = some v →
      ∃ u, a.wallets[m]? = some u ∧ v.cardList = u.cardList := by
    intro m v hv
    have hput : (a.putWallet n w').wallets[m]? = some v := hv
    rcases CardHistory.getElem?_putWallet hput with ⟨rfl, rfl⟩ | ⟨_, hv⟩
    · exact ⟨w, listed, list⟩
    · exact ⟨v, hv, rfl⟩
  refine ⟨?_, ?_, ?_, ?_, ?_⟩
  · intro m v hv hload
    obtain ⟨u, hu, hlist⟩ := hold hv
    rw [hlist]
    exact hx.loaded m u hu hload
  · intro m v hv hload
    obtain ⟨u, hu, hlist⟩ := hold hv
    rw [hlist]
    exact hx.emptied m u hu hload
  · intro call m row' p v hcall hplace hv
    obtain ⟨u, hu, hlist⟩ := hold hv
    rw [hlist]
    simp only [Callbacks.waiting_issue] at hcall
    by_cases hnew : call = a.deleteCalls.issued
    · subst hnew
      simp only [Function.update_self, Option.some.injEq] at hplace
      rw [if_pos rfl, Option.some.injEq, Prod.mk.injEq] at hcall
      obtain ⟨rfl, rfl⟩ := hcall
      obtain rfl : w = u := Option.some.inj (listed.symm.trans hu)
      exact ⟨card, hplace ▸ pressed, by simp⟩
    · rw [if_neg hnew] at hcall
      simp only [Function.update_of_ne hnew] at hplace ⊢
      exact hx.place call m row' p u hcall hplace hu
  · intro m hm
    simp only [putWallet, List.length_set] at hm
    exact hx.unmade m hm
  · intro call m row' hcall
    simp only [Callbacks.waiting_issue] at hcall
    simp only [putWallet, List.length_set]
    split at hcall
    · simp only [Option.some.injEq, Prod.mk.injEq] at hcall
      exact hcall.1 ▸ hlt
    · exact hx.calls call m row' hcall

/-- No wallet is made and no deletion asked for by any other event. -/
theorem step_counts {e : AppEvent} (h : (machine distance).Step a e b) (hopen : e ≠ .openWallet)
    (hswipe : ∀ n row, e ≠ .deleteRow n row) : b.wallets.length = a.wallets.length ∧
      ∀ call waiting, b.deleteCalls.waiting call = some waiting →
        a.deleteCalls.waiting call = some waiting := by
  have hof : StepOf distance a b e := step_inv h
  have hkept : ∀ call waiting, a.deleteCalls.waiting call = some waiting →
      a.deleteCalls.waiting call = some waiting := fun _ _ h => h
  cases e with
  | session i ev =>
    obtain ⟨_, s, t, _, _, rfl⟩ := hof
    exact ⟨rfl, hkept⟩
  | signInReply reply =>
    rcases signInReply_inv hof.2 with ⟨_, rfl⟩ | ⟨_, _, _, _, _, rfl⟩
    · exact ⟨rfl, hkept⟩
    · exact ⟨rfl, hkept⟩
  | logout =>
    obtain ⟨_, rfl⟩ := hof
    exact ⟨by simp [logout], hkept⟩
  | pushDashboard =>
    obtain ⟨_, rfl⟩ := pushDashboard_inv hof.2
    exact ⟨rfl, hkept⟩
  | profileReply call reply =>
    rcases profileReply_inv hof with rfl | ⟨_, _, _, rfl⟩
    · exact ⟨rfl, hkept⟩
    · exact ⟨rfl, hkept⟩
  | nextPressed kits =>
    obtain ⟨_, _, _, ⟨rfl, _⟩ | ⟨_, _, _, _, _, rfl⟩⟩ := nextPressed_inv hof
    · exact ⟨rfl, hkept⟩
    · exact ⟨rfl, hkept⟩
  | openWallet => exact absurd rfl hopen
  | uncoverWallet number =>
    obtain ⟨w, _, _, _, hshow⟩ := hof
    obtain rfl := showWallet_inv hshow
    exact ⟨by simp [putWallet], hkept⟩
  | leaveWallet number popped =>
    obtain ⟨w, _, _, rfl⟩ := hof
    exact ⟨by simp [leaveWallet, putWallet], hkept⟩
  | cardListReply call reply =>
    obtain ⟨_, _, hanswer⟩ := hof
    rcases answerWallet_inv hanswer with ⟨_, rfl⟩ | ⟨_, _, _, _, rfl⟩
    · exact ⟨rfl, hkept⟩
    · exact ⟨by simp [putWallet], hkept⟩
  | selectRow number row =>
    obtain ⟨_, _, _, _, _, rfl⟩ := hof
    exact ⟨by simp [putWallet], hkept⟩
  | deleteRow number row => exact absurd rfl (hswipe number row)
  | deleteReply call success =>
    obtain ⟨_, _, hanswer⟩ := hof
    have hretire : ∀ call' waiting, (a.deleteCalls.retire call).waiting call' = some waiting →
        a.deleteCalls.waiting call' = some waiting := by
      intro call' waiting hwaiting
      rw [Callbacks.waiting_retire] at hwaiting
      split at hwaiting
      · exact absurd hwaiting (by simp)
      · exact hwaiting
    rcases answerWallet_inv hanswer with ⟨_, rfl⟩ | ⟨_, _, _, _, rfl⟩
    · exact ⟨rfl, hretire⟩
    · exact ⟨by simp [putWallet], hretire⟩
  | addCardFailed =>
    obtain rfl : b = a.addCardFailed := hof
    exact ⟨rfl, hkept⟩

/-- A wallet that the event is not about keeps its list. -/
theorem list_of_other {e : AppEvent} (h : (machine distance).Step a e b)
    (other : a.concerns e ≠ some n) (hv : b.wallets[n]? = some v) :
    ∃ w, a.wallets[n]? = some w ∧ v.cardList = w.cardList := by
  cases step_wallet h hv with
  | kept _ listed same => exact ⟨_, listed, same.cardList⟩
  | opened number _ => exact absurd (congrArg some number.symm) other
  | relisted waits _ _ => exact absurd waits other
  | deleted waits _ _ _ => exact absurd (by simp [concerns, waits]) other
  | _ => exact absurd rfl other

/-- An event about no wallet. -/
theorem TableKept.quiet {e : AppEvent} (hx : TableKept a log)
    (h : (machine distance).Step a e b) (hquiet : a.concerns e = none) : TableKept b log := by
  have hopen : e ≠ .openWallet := by
    rintro rfl
    exact absurd hquiet (by simp [concerns])
  have hswipe : ∀ n row, e ≠ .deleteRow n row := by
    rintro n row rfl
    exact absurd hquiet (by simp [concerns])
  obtain ⟨hlength, hcalls⟩ := step_counts h hopen hswipe
  exact hx.of_same (fun n v hv => list_of_other h (by simp [hquiet]) hv) hlength hcalls

end ClientApp

namespace TableLog

theorem exists_of_isOn {a : ClientApp} {n call : Nat} (h : isOn a n call = true) :
    ∃ row, a.deleteCalls.waiting call = some (n, row) := by
  obtain ⟨⟨number, row⟩, hwaiting, hn⟩ := (Option.any_eq_true _ _).mp h
  obtain rfl : number = n := by simpa using hn
  exact ⟨row, hwaiting⟩

theorem rowOf_eq_some {cards : List StripeCard} {source : Int} {p : Nat}
    (h : rowOf cards source = some p) : ∃ card, cards[p]? = some card ∧
      card.clientStripeCustomerSourceId = source := by
  have hfound := List.of_findIdx?_eq_some h
  split at hfound
  · rename_i card hcard
    exact ⟨card, hcard, by simpa using hfound⟩
  · exact absurd hfound (by simp)

/-- A card that is left is found where `rowAfter` says. -/
theorem getElem?_rowAfter {row q : Nat} {place : Option Nat} (cards : List StripeCard)
    (h : rowAfter row place = some q) :
    ∃ p, place = some p ∧ (cards.eraseIdx row)[q]? = cards[p]? := by
  obtain ⟨p, hp, hq⟩ := Option.bind_eq_some_iff.mp h
  refine ⟨p, hp, ?_⟩
  split at hq
  · exact absurd hq (by simp)
  · rename_i hne
    split at hq
    · rename_i hlt
      obtain rfl : p - 1 = q := Option.some.inj hq
      rw [List.getElem?_eraseIdx_of_ge (by omega), Nat.sub_add_cancel (by omega)]
    · rename_i hge
      obtain rfl : p = q := Option.some.inj hq
      exact List.getElem?_eraseIdx_of_lt (by omega)

end TableLog

namespace Wallet

/-- The index above is used only where there is a row above. -/
theorem isFirstOfSeveral_eq_false_iff {w : Wallet} {row : Nat} (hrow : row < w.cardList.length) :
    w.isFirstOfSeveral row = false ↔
      (w.isChecked row = true → w.cardList.length ≠ 1 → row ≠ 0) := by
  cases hchecked : w.isChecked row with
  | false => simp [isFirstOfSeveral, hchecked]
  | true =>
    simp only [isFirstOfSeveral, hchecked, Bool.and_true, Bool.and_eq_false_iff,
      beq_eq_false_iff_ne, decide_eq_false_iff_not, forall_const]
    omega

end Wallet

namespace ClientApp

/-- A wallet comes into sight again: its list is empty, and the table does not know. -/
theorem TableKept.uncover (hx : TableKept a log)
    (h : (machine distance).Step a (.uncoverWallet n) b) :
    TableKept b (log.note a (.app (.uncoverWallet n)) b) := by
  obtain ⟨hlength, hcalls⟩ := step_counts h (by simp) (by simp)
  have hof : StepOf distance a b (.uncoverWallet n) := step_inv h
  obtain ⟨w, listed, _⟩ := hof
  have hlt : n < a.wallets.length := (List.getElem?_eq_some_iff.mp listed).1
  refine hx.of_change n (fun m v hm hv => list_of_other h (by simp [concerns, Ne.symm hm]) hv)
    hlength.ge hcalls ?_ ?_ rfl ?_ (fun hge => absurd hge (by omega))
  · intro m hm
    exact ⟨rfl, Function.update_of_ne hm _ _⟩
  · intro call hother
    simp [TableLog.note, TableLog.move, hother]
  · intro v hv
    refine ⟨fun hload => ?_, fun _ => ?_, fun call p hon hplace => ?_⟩
    · exact absurd hload (by simp [TableLog.note])
    · cases step_wallet h hv with
      | kept other _ _ => exact absurd rfl other
      | uncovered _ after => rw [after]; rfl
    · exact absurd hplace (by simp [TableLog.note, TableLog.move, hon])

/-- A list arrives, and the table is loaded with it. -/
theorem TableKept.relist {call : Nat} {reply : Dict} (hx : TableKept a log)
    (h : (machine distance).Step a (.cardListReply call (some reply)) b) :
    TableKept b (log.note a (.app (.cardListReply call (some reply))) b) := by
  obtain ⟨hlength, hcalls⟩ := step_counts h (by simp) (by simp)
  have hof : StepOf distance a b (.cardListReply call (some reply)) := step_inv h
  obtain ⟨n, hwaits, _⟩ := hof
  simp only [TableLog.note, hwaits]
  refine hx.of_change n (fun m v hm hv =>
    list_of_other h (by simp [concerns, hwaits, Ne.symm hm]) hv) hlength.ge hcalls ?_ ?_ rfl ?_ ?_
  · intro m hm
    exact ⟨Function.update_of_ne hm _ _, Function.update_of_ne hm _ _⟩
  · intro call hother
    simp [TableLog.reload, TableLog.move, hother]
  · intro v hv
    refine ⟨fun _ => ?_, fun hload => ?_, fun call p hon hplace => ?_⟩
    · simp [TableLog.reload, hv]
    · exact absurd hload (by simp)
    · have hrow : TableLog.rowOf (Wallet.cardsOf (some reply)) (log.asked call) = some p := by
        simpa [TableLog.reload, TableLog.move, hon] using hplace
      cases step_wallet h hv with
      | kept other _ _ => exact absurd hwaits other
      | relisted _ _ after =>
        rw [after]
        exact TableLog.rowOf_eq_some hrow
  · intro hge
    have hnone : b.wallets[n]? = none := List.getElem?_eq_none hge
    exact ⟨by simp [TableLog.reload, hnone], by simp⟩

/-- A row is chosen, and the table loaded anew. -/
theorem TableKept.select {row : Nat} (hx : TableKept a log)
    (h : (machine distance).Step a (.selectRow n row) b) :
    TableKept b (log.note a (.app (.selectRow n row)) b) := by
  obtain ⟨hlength, hcalls⟩ := step_counts h (by simp) (by simp)
  have hof : StepOf distance a b (.selectRow n row) := step_inv h
  obtain ⟨w, w', listed, _⟩ := hof
  have hlt : n < a.wallets.length := (List.getElem?_eq_some_iff.mp listed).1
  refine hx.of_change n (fun m v hm hv => list_of_other h (by simp [concerns, Ne.symm hm]) hv)
    hlength.ge hcalls ?_ (fun _ _ => rfl) rfl ?_ (fun hge => absurd hge (by omega))
  · intro m hm
    exact ⟨Function.update_of_ne hm _ _, rfl⟩
  · intro v hv
    cases step_wallet h hv with
    | kept other _ _ => exact absurd rfl other
    | @selected u _ card listed' _ after =>
      refine ⟨fun _ => ?_, fun hload => ?_, fun call p hon hplace => ?_⟩
      · simp [TableLog.note, TableLog.reload, hv]
      · rw [after]
        exact hx.emptied n u listed' hload
      · obtain ⟨row', hwaiting⟩ := TableLog.exists_of_isOn hon
        rw [after]
        exact hx.place call n row' p u hwaiting hplace listed'

/-- A card is taken off a list, and the table follows. -/
theorem TableKept.erase {call : Nat} (hx : TableKept a log)
    (h : (machine distance).Step a (.deleteReply call true) b) :
    TableKept b (log.note a (.app (.deleteReply call true)) b) := by
  obtain ⟨hlength, hcalls⟩ := step_counts h (by simp) (by simp)
  have hreact : react distance a (.deleteReply call true) = some (.ok b) := h
  simp only [react, Option.map_eq_some_iff, Prod.exists] at hreact
  obtain ⟨n, row, hwaits, _⟩ := hreact
  simp only [TableLog.note, hwaits]
  refine hx.of_change n (fun m v hm hv =>
    list_of_other h (by simp [concerns, hwaits, Ne.symm hm]) hv) hlength.ge hcalls ?_ ?_ rfl ?_ ?_
  · intro m hm
    exact ⟨Function.update_of_ne hm _ _, rfl⟩
  · intro call hother
    simp [TableLog.reload, TableLog.move, hother]
  · intro v hv
    cases step_wallet h hv with
    | kept other _ _ => exact absurd (by simp [concerns, hwaits]) other
    | @deleted u _ row' hwaits' listed inRange after =>
      obtain rfl : row = row' := (Prod.mk.inj (Option.some.inj (hwaits.symm.trans hwaits'))).2
      refine ⟨fun _ => ?_, fun hload => ?_, fun call p hon hplace => ?_⟩
      · simp [TableLog.reload, hv]
      · have hnil := hx.emptied n u listed hload
        exact absurd inRange (by simp [hnil])
      · have hafter : TableLog.rowAfter row (log.place call) = some p := by
          simpa [TableLog.reload, TableLog.move, hon] using hplace
        obtain ⟨p', hp', hcard⟩ := TableLog.getElem?_rowAfter u.cardList hafter
        obtain ⟨row'', hwaiting⟩ := TableLog.exists_of_isOn hon
        rw [after, hcard]
        exact hx.place call n row'' p' u hwaiting hp' listed
  · intro hge
    exact absurd (hx.calls call n row hwaits) (by omega)

/-- A swipe is handled. -/
theorem TableKept.swipe {row : Nat} (hx : TableKept a log)
    (h : (machine distance).Step a (.deleteRow n row) b) :
    TableKept b (log.note a (.app (.deleteRow n row)) b) := by
  have hof : StepOf distance a b (.deleteRow n row) := step_inv h
  obtain ⟨w, listed, _, hdelete⟩ := hof
  obtain ⟨w', hcommit, rfl⟩ := deleteRow_inv hdelete
  have hpressed : ∃ card, w.cardList[row]? = some card := by
    simp only [Wallet.commitDelete, bind_eq_ok, unwrap_eq_ok] at hcommit
    obtain ⟨card, hcard, _⟩ := hcommit
    exact ⟨card, hcard⟩
  obtain ⟨card, hcard⟩ := hpressed
  simp only [TableLog.note, listed, Option.bind_some, hcard]
  exact hx.of_swipe listed hcard (Wallet.commit_of_ok hcommit).cardList

/-- A new wallet has no rows. -/
theorem TableKept.opened (hx : TableKept a log) (h : (machine distance).Step a .openWallet b) :
    TableKept b log := by
  have hof : StepOf distance a b .openWallet := step_inv h
  obtain rfl := openWallet_inv hof.2.2
  obtain ⟨hrows, hload⟩ := hx.unmade a.wallets.length (Nat.le_refl _)
  refine hx.of_change a.wallets.length
    (fun m v hm hv => list_of_other h (by simp [concerns, Ne.symm hm]) hv) (by simp)
    (fun _ _ h => h) (fun _ _ => ⟨rfl, rfl⟩) (fun _ _ => rfl) rfl ?_ (fun _ => ⟨hrows, hload⟩)
  intro v hv
  obtain rfl : Wallet.fresh.viewWillAppear a.device.defaults = v := by simpa using hv
  refine ⟨fun _ => hrows, fun _ => rfl, fun call p hon _ => ?_⟩
  obtain ⟨row, hwaiting⟩ := TableLog.exists_of_isOn hon
  exact absurd (hx.calls call _ row hwaiting) (Nat.lt_irrefl _)

/-- **One step.** -/
theorem TableKept.step (hx : TableKept a log) (h : (tableMachine distance).Step a e b) :
    TableKept b (log.note a e b) := by
  cases e with
  | cellForRow number row =>
    have hreact : tableReact distance a (.cellForRow number row) = some (.ok b) := h
    simp only [tableReact, Option.map_eq_some_iff] at hreact
    obtain ⟨w, _, hcell⟩ := hreact
    obtain ⟨_, _, rfl⟩ := map_eq_ok.mp hcell
    exact hx
  | app ev =>
    have hab : (machine distance).Step a ev b := h
    cases ev with
    | openWallet => exact hx.opened hab
    | uncoverWallet number => exact hx.uncover hab
    | selectRow number row => exact hx.select hab
    | deleteRow number row => exact hx.swipe hab
    | cardListReply call reply =>
      cases reply with
      | none => exact hx.quiet hab rfl
      | some reply => exact hx.relist hab
    | deleteReply call success =>
      cases success with
      | false => exact hx.quiet hab rfl
      | true => exact hx.erase hab
    | _ => exact hx.quiet hab rfl

/-! ## 4. Every run -/

/-- A tap is on the list of its wallet exactly if that list is loaded. -/
theorem TableKept.lt_iff {row : Nat} (hx : TableKept a log) (listed : a.wallets[n]? = some w)
    (hrow : row < log.rows n) : row < w.cardList.length ↔ log.isLoaded n = true := by
  cases hload : log.isLoaded n with
  | true => simpa [← hx.loaded n w listed hload] using hrow
  | false => simp [hx.emptied n w listed hload]

/-- **A tap.**  With the row on the screen, it is in range exactly if the list of the visit has
arrived; for a swipe, the chosen card must besides not be in the first of several rows. -/
theorem TableKept.tap_in_range_iff {row : Nat} (hx : TableKept x.1 x.2)
    (tapped : tappedRow e = some (n, row)) (hdelivered : isDelivered x e = true) :
    InRange x e ↔ isInStep x e = true := by
  have hrow : row < x.2.rows n := by simpa [isDelivered, tapped] using hdelivered
  have hmade : n < x.1.wallets.length := by
    by_contra hge
    have hnone := (hx.unmade n (Nat.le_of_not_lt hge)).1
    omega
  have listed : x.1.wallets[n]? = some x.1.wallets[n] := List.getElem?_eq_getElem hmade
  have hiff := hx.lt_iff listed hrow
  cases e with
  | cellForRow number row =>
    obtain ⟨rfl, rfl⟩ : number = n ∧ row = _ := by simpa [tappedRow] using tapped
    simp [InRange, isInStep, tappedRow, listed, hiff]
  | app ev =>
    cases ev with
    | selectRow number row =>
      obtain ⟨rfl, rfl⟩ : number = n ∧ row = _ := by simpa [tappedRow] using tapped
      simp [InRange, isInStep, tappedRow, listed, hiff]
    | deleteRow number row =>
      obtain ⟨rfl, rfl⟩ : number = n ∧ row = _ := by simpa [tappedRow] using tapped
      simp only [InRange, isInStep, tappedRow, listed, Option.mem_def, Option.some.injEq,
        forall_eq', Option.all_some, Bool.and_eq_true, hiff, Bool.not_eq_eq_eq_not, Bool.not_true]
      refine and_congr_right fun hload => ?_
      exact (Wallet.isFirstOfSeveral_eq_false_iff (hiff.mpr hload)).symm
    | _ => exact absurd tapped (by simp [tappedRow])

/-- **The answer to a deletion** finds the card in the row where the log has it. -/
theorem TableKept.reply_in_range {call : Nat} (hx : TableKept x.1 x.2)
    (h : isInStep x (.app (.deleteReply call true)) = true) :
    InRange x (.app (.deleteReply call true)) := by
  rintro ⟨n, row⟩ hwaits w listed
  have hplace : x.2.place call = some row := by
    simpa [isInStep, tappedRow, Option.mem_def.mp hwaits] using h
  exact hx.place call n row row w hwaits hplace listed

/-- **The rows of the wallet stay in range.**  From a launch on any device, on either screen: in
every run of visits, returns, lists, swipes, answers and taps in any order, in which the rows that
are tapped are rows that the table shows and every event is in step with the list, an event that is
so too uses no index outside the list and takes no other card off it than the one that the server
was asked to delete. -/
theorem rows_in_range (device : Device) (onMain : Bool)
    (hrun : ((tableMachine distance).withHistory TableLog.note).RunWhere
      (fun x e => isDelivered x e = true ∧ isInStep x e = true) (launch device onMain, {}) x)
    (hdelivered : isDelivered x e = true) (hinStep : isInStep x e = true) : InRange x e := by
  have h₀ : TableKept (launch device onMain) {} :=
    ⟨by simp [launch], by simp [launch], by simp [launch], by simp, by simp [launch]⟩
  have hx : TableKept x.1 x.2 := hrun.invariant (I := fun x => TableKept x.1 x.2) h₀ <| by
    intro y ev z hy _ hstep
    obtain ⟨happ, hlog⟩ := Machine.withHistory_step.mp hstep
    rw [hlog]
    exact hy.step happ
  cases htap : tappedRow e with
  | some tapped => exact (hx.tap_in_range_iff htap hdelivered).mpr hinStep
  | none =>
    cases e with
    | cellForRow number row => exact absurd htap (by simp [tappedRow])
    | app ev =>
      cases ev with
      | selectRow number row => exact absurd htap (by simp [tappedRow])
      | deleteRow number row => exact absurd htap (by simp [tappedRow])
      | deleteReply call success =>
        cases success with
        | false => trivial
        | true => exact hx.reply_in_range hinStep
      | _ => trivial

/-! ## 5. Three rows -/

/-- Cards 7, 8 and 9; card 7 is the stored one. -/
def threeCardReply : Dict :=
  [("SourceCardList", .arr ([7, 8, 9].map fun source => .obj
    [("ClientStripeCustomerId", .ofInt 3), ("ClientStripeCustomerSourceId", .ofInt source)]))]

/-- The wallet is opened and the list arrives. -/
def openList : List TableEvent :=
  [.app .openWallet, .app (.cardListReply 0 (some threeCardReply))]

/-- The card in the second row is deleted. -/
theorem rows_in_range_second : ∃ x : ClientApp × TableLog,
    (x.1.deleteCalls.waiting 0).isSome ∧ InRange x (.app (.deleteReply 0 true)) := by
  obtain ⟨x, hrun, htest⟩ := Machine.exists_run_of_replay
    ((tableMachine sampleDistance).withHistory TableLog.note)
    (fun x e => isDelivered x e && isInStep x e) (launch storedDevice false, {})
    (openList ++ [.app (.deleteRow 0 1)])
    (fun x => (x.1.deleteCalls.waiting 0).isSome && isInStep x (.app (.deleteReply 0 true)))
    (fun _ _ h => Bool.and_eq_true_iff.mp h) (by decide +kernel)
  obtain ⟨hwaits, hinStep⟩ := Bool.and_eq_true_iff.mp htest
  exact ⟨x, hwaits, rows_in_range storedDevice false hrun rfl hinStep⟩

instance (x : ClientApp × TableLog) (n row : Nat) :
    Decidable (InRange x (.app (.selectRow n row))) :=
  inferInstanceAs (Decidable (∀ w ∈ x.1.wallets[n]?, row < w.cardList.length))

instance (x : ClientApp × TableLog) (n row : Nat) :
    Decidable (InRange x (.app (.deleteRow n row))) :=
  inferInstanceAs (Decidable (∀ w ∈ x.1.wallets[n]?, row < w.cardList.length ∧
    (w.isChecked row = true → w.cardList.length ≠ 1 → row ≠ 0)))

instance (x : ClientApp × TableLog) (call : Nat) :
    Decidable (InRange x (.app (.deleteReply call true))) :=
  inferInstanceAs (Decidable (∀ waiting ∈ x.1.deleteCalls.waiting call,
    ∀ w ∈ x.1.wallets[waiting.1]?, ∃ card ∈ w.cardList[waiting.2]?,
      card.clientStripeCustomerSourceId = x.2.asked call))

/-- The event comes out of range in a run whose taps are all on rows that the table shows. -/
def ComesOut (device : Device) (e : TableEvent) : Prop :=
  ∃ x, ((tableMachine sampleDistance).withHistory TableLog.note).RunWhere
      (fun x e => isDelivered x e = true) (launch device false, {}) x ∧
    isDelivered x e = true ∧ ¬InRange x e

theorem comesOut_of_replay {device : Device} (e : TableEvent)
    [∀ x : ClientApp × TableLog, Decidable (InRange x e)] (events : List TableEvent)
    (h : (((tableMachine sampleDistance).withHistory TableLog.note).replay isDelivered
      (launch device false, {}) events).any
        (fun x => isDelivered x e && !decide (InRange x e)) = true) : ComesOut device e := by
  obtain ⟨x, hrun, htest⟩ := Machine.exists_run_of_replay _ isDelivered _ events _
    (fun _ _ h => h) h
  obtain ⟨hdelivered, hout⟩ := Bool.and_eq_true_iff.mp htest
  exact ⟨x, hrun, hdelivered, by simpa using hout⟩

/-- **Rows that are not there**: the first row is chosen on the return from another screen, before
the list has arrived; the chosen card is swiped in the first row; and two rows are swiped, the
answer to the first moves the rows up, and the answer to the second takes off card 9, not card 8. -/
theorem rows_out_of_range : ComesOut storedDevice (.app (.selectRow 0 0)) ∧
    ComesOut storedDevice (.app (.deleteRow 0 0)) ∧
    ComesOut storedDevice (.app (.deleteReply 1 true)) := by
  refine ⟨?_, ?_, ?_⟩
  · exact comesOut_of_replay _
      (openList ++ [.app (.leaveWallet 0 false), .app (.uncoverWallet 0)]) (by decide +kernel)
  · exact comesOut_of_replay _ openList (by decide +kernel)
  · exact comesOut_of_replay _
      (openList ++ [.app (.selectRow 0 2), .app (.deleteRow 0 0), .app (.deleteRow 0 1),
        .app (.deleteReply 0 true)]) (by decide +kernel)

end ClientApp

end WeatherAccommodation
