/-
# The tip

`ClientTripViewController.swift`, the view with three buttons for a fixed tip and a field for any
other.  `btnTipAmountPressed` selects the buttons that carry the sender's tag, deselects the rest
and empties the field; an edit of the field deselects them all; `btnPayTipPressed` posts the amount
of the first selected button, and else what `Int` reads in the field.

* `btnPayTipPressed_isRight_iff`: a press on Pay posts one positive amount, the chosen one, or shows
  an alert and posts nothing, exactly if nothing was chosen, or a trip with its ids meets a button
  or a positive number.  At any other number the alert is shown and a tip of nothing is posted, and
  at any other text the app stops.
* `latest_choice_wins`: taps and edits leave at most one button selected, and that only beside an
  empty field, so that the fixed order in which Pay looks at them is the order of time.
-/
import Mathlib.Data.List.Induction
import WeatherAccommodation.ClientProviderAPIManager

namespace WeatherAccommodation

open Foundation Reactive

/-! ## 1. The view -/

structure TipButton where
  tag : Int
  isSelected : Bool := false
  deriving DecidableEq, Repr

/-- The outlets of the tip buttons. -/
inductive TipOutlet where
  | btnTip1
  | btnTip2
  | btnTip3
  deriving DecidableEq, Repr

/-- What is on the button. -/
def TipOutlet.amount : TipOutlet → Int
  | .btnTip1 => 2
  | .btnTip2 => 5
  | .btnTip3 => 10

/-- The buttons lie in one container, and no other button does. -/
structure TipView where
  btnTip1 : TipButton
  btnTip2 : TipButton
  btnTip3 : TipButton
  txtAddTip : String := ""
  currentRequest : Dict
  deriving Repr

/-- What a press on Pay does, in order. -/
inductive TipEffect where
  | showAlertOnNavigationBar (message : String)
  | showActivityIndicator
  /-- A request to `TIPTRANSACTION`. -/
  | post (parameters : Dict)
  /-- What `getResponse` does without a request. -/
  | unsent (effect : ClientProviderAPIManager.Effect)
  deriving DecidableEq, Repr

namespace TipView

open ClientProviderAPIManager (notConnected)

def button (view : TipView) : TipOutlet → TipButton
  | .btnTip1 => view.btnTip1
  | .btnTip2 => view.btnTip2
  | .btnTip3 => view.btnTip3

/-- The loop over the container: each button compares its tag. -/
def selectTag (view : TipView) (tag : Int) : TipView :=
  { view with
    btnTip1 := { view.btnTip1 with isSelected := view.btnTip1.tag == tag }
    btnTip2 := { view.btnTip2 with isSelected := view.btnTip2.tag == tag }
    btnTip3 := { view.btnTip3 with isSelected := view.btnTip3.tag == tag } }

/-- A text that is set in code is no edit: the buttons do not hear of it. -/
def btnTipAmountPressed (view : TipView) (sender : TipOutlet) : TipView :=
  if !(view.button sender).isSelected then
    { view.selectTag (view.button sender).tag with txtAddTip := "" }
  else view

/-- The user leaves `text` in the field. -/
def testFieldEditingChanged (view : TipView) (text : String) : TipView :=
  { view with
    btnTip1 := { view.btnTip1 with isSelected := false }
    btnTip2 := { view.btnTip2 with isSelected := false }
    btnTip3 := { view.btnTip3 with isSelected := false }
    txtAddTip := text }

/-- `amount`, and the alert about it.  The alert does not end the press: `amount` is still 0, and
the press goes on with that. -/
def amount (view : TipView) : Except Trap (Int × List TipEffect) :=
  if view.btnTip1.isSelected then return (2, [])
  else if view.btnTip2.isSelected then return (5, [])
  else if view.btnTip3.isSelected then return (10, [])
  else do
    let typed ← forceNumeral "txtAddTip" view.txtAddTip
    if 0 < typed then return (typed, [])
    else return (0, [.showAlertOnNavigationBar "Please enter valid amount"])

/-- `params` -/
def parameters (clientId providerId tripId : Json) (amount : Int) : Dict :=
  [("ClientId", clientId), ("ProviderId", providerId), ("TripId", tripId),
    ("TipAmount", .ofInt amount)]

def postTipAmountAPI (isConnected : Bool) (tipParameters : Dict) : List TipEffect :=
  if isConnected then [.post tipParameters] else (notConnected true).map .unsent

/-- The first test of `btnPayTipPressed`. -/
def isBlank (view : TipView) : Bool :=
  !view.btnTip1.isSelected && !view.btnTip2.isSelected && !view.btnTip3.isSelected &&
    view.txtAddTip == ""

def btnPayTipPressed (view : TipView) (isConnected : Bool) : Except Trap (List TipEffect) :=
  if view.isBlank then return [.showAlertOnNavigationBar "Please select or add amount"]
  else do
    let (amount, alerts) ← view.amount
    let clientId ← forceKey view.currentRequest "ClientId"
    let providerId ← forceKey view.currentRequest "ProviderId"
    let tripId ← forceKey view.currentRequest "TripId"
    return alerts ++ .showActivityIndicator ::
      postTipAmountAPI isConnected (parameters clientId providerId tripId amount)

/-! ## 2. What a press on Pay does -/

/-- The requests among the effects. -/
def posted (effects : List TipEffect) : List Dict :=
  effects.filterMap fun
    | .post parameters => some parameters
    | _ => none

/-- An alert on the navigation bar, for want of a connection too. -/
def isAlert : TipEffect → Bool
  | .showAlertOnNavigationBar _ => true
  | .unsent (.showAlertOnNavigationBar _) => true
  | _ => false

/-- The request carries this tip. -/
def HasTip (parameters : Dict) (amount : Int) : Prop :=
  Dict.get? parameters "TipAmount" = some (.ofInt amount)

def isAnySelected (view : TipView) : Bool :=
  view.btnTip1.isSelected || view.btnTip2.isSelected || view.btnTip3.isSelected

/-- The amount of a selected button, or of the field if none is selected. -/
def IsChosen (view : TipView) (amount : Int) : Prop :=
  (∃ outlet, (view.button outlet).isSelected = true ∧ outlet.amount = amount) ∨
    view.isAnySelected = false ∧ int? view.txtAddTip = some amount

/-- One tip is posted, positive and as chosen; or there is an alert, and no post. -/
def IsRight (view : TipView) (effects : List TipEffect) : Prop :=
  (∃ parameters amount, posted effects = [parameters] ∧ HasTip parameters amount ∧ 0 < amount ∧
    view.IsChosen amount) ∨
  (posted effects = [] ∧ ∃ effect ∈ effects, isAlert effect = true)

def HasIds (request : Dict) : Prop :=
  (Dict.get? request "ClientId").isSome = true ∧ (Dict.get? request "ProviderId").isSome = true ∧
    (Dict.get? request "TripId").isSome = true

/-- The field holds a number that Pay may take: a positive one, or any at all where nothing can be
posted anyway. -/
def IsPayable (text : String) (isConnected : Bool) : Prop :=
  ∃ n, int? text = some n ∧ (0 < n ∨ isConnected = false)

@[simp] theorem posted_post (isConnected : Bool) (parameters : Dict) :
    posted (.showActivityIndicator :: postTipAmountAPI isConnected parameters) =
      if isConnected then [parameters] else [] := by
  cases isConnected with
  | true => rfl
  | false => rfl

@[simp] theorem posted_alert (message : String) (effects : List TipEffect) :
    posted (.showAlertOnNavigationBar message :: effects) = posted effects := rfl

@[simp] theorem posted_nil : posted [] = [] := rfl

/-- Without a connection there is an alert. -/
theorem exists_isAlert_offline (parameters : Dict) :
    ∃ effect ∈ postTipAmountAPI false parameters, isAlert effect = true :=
  ⟨.unsent (.showAlertOnNavigationBar "Please check your Internet Connection."),
    by simp [postTipAmountAPI, notConnected], rfl⟩

theorem isBlank_iff {view : TipView} :
    view.isBlank = true ↔ view.isAnySelected = false ∧ view.txtAddTip = "" := by
  simp [isBlank, isAnySelected, and_assoc]

/-- The first selected button gives its amount, and there is no alert. -/
theorem amount_of_selected {view : TipView} (h : view.isAnySelected = true) :
    ∃ outlet : TipOutlet, (view.button outlet).isSelected = true ∧
      view.amount = .ok (outlet.amount, []) := by
  cases h₁ : view.btnTip1.isSelected with
  | true => exact ⟨.btnTip1, h₁, by simp [amount, h₁, TipOutlet.amount, pure, Except.pure]⟩
  | false =>
    cases h₂ : view.btnTip2.isSelected with
    | true => exact ⟨.btnTip2, h₂, by simp [amount, h₁, h₂, TipOutlet.amount, pure, Except.pure]⟩
    | false =>
      have h₃ : view.btnTip3.isSelected = true := by simpa [isAnySelected, h₁, h₂] using h
      exact ⟨.btnTip3, h₃, by
        simp [amount, h₁, h₂, h₃, TipOutlet.amount, pure, Except.pure]⟩

/-- Without a selected button the field decides. -/
theorem amount_of_typed {view : TipView} (h : view.isAnySelected = false) {n : Int}
    {alerts : List TipEffect} :
    view.amount = .ok (n, alerts) ↔ ∃ typed, int? view.txtAddTip = some typed ∧
      ((0 < typed ∧ n = typed ∧ alerts = []) ∨
        (typed ≤ 0 ∧ n = 0 ∧ alerts = [.showAlertOnNavigationBar "Please enter valid amount"])) := by
  simp only [isAnySelected, Bool.or_eq_false_iff] at h
  simp only [amount, h.1.1, h.1.2, h.2, Bool.false_eq_true, if_false, bind_eq_ok,
    forceNumeral_eq_ok]
  refine exists_congr fun typed => and_congr_right fun _ => ?_
  by_cases hpos : 0 < typed
  · rw [if_pos hpos, pure_eq_ok, Prod.mk.injEq]
    simp [hpos, not_le.mpr hpos, eq_comm]
  · rw [if_neg hpos, pure_eq_ok, Prod.mk.injEq]
    simp [hpos, not_lt.mp hpos, eq_comm]

theorem hasTip_parameters {clientId providerId tripId : Json} {n m : Int} :
    HasTip (parameters clientId providerId tripId n) m ↔ n = m := by
  simp [HasTip, parameters, Dict.get?, List.lookup_cons, Json.ofInt]

/-- **A press that goes through.**  Unless nothing was chosen, it has an amount and the ids, and
posts them after the alert about the amount. -/
theorem btnPayTipPressed_eq_ok {view : TipView} {isConnected : Bool} {effects : List TipEffect}
    (h : view.isBlank = false) :
    view.btnPayTipPressed isConnected = .ok effects ↔
      ∃ n alerts clientId providerId tripId, view.amount = .ok (n, alerts) ∧
        Dict.get? view.currentRequest "ClientId" = some clientId ∧
        Dict.get? view.currentRequest "ProviderId" = some providerId ∧
        Dict.get? view.currentRequest "TripId" = some tripId ∧
        effects = alerts ++ .showActivityIndicator ::
          postTipAmountAPI isConnected (parameters clientId providerId tripId n) := by
  simp only [btnPayTipPressed, h, Bool.false_eq_true, if_false, bind_eq_ok, forceKey_eq_ok,
    pure_eq_ok, Prod.exists, @eq_comm _ _ effects]
  constructor
  · rintro ⟨n, alerts, hamount, clientId, hclient, providerId, hprovider, tripId, htrip, heq⟩
    exact ⟨n, alerts, clientId, providerId, tripId, hamount, hclient, hprovider, htrip, heq⟩
  · rintro ⟨n, alerts, clientId, providerId, tripId, hamount, hclient, hprovider, htrip, heq⟩
    exact ⟨n, alerts, hamount, clientId, hclient, providerId, hprovider, tripId, htrip, heq⟩

/-- The same, told as a condition: there is an amount, and there are ids. -/
theorem exists_btnPayTipPressed {view : TipView} (isConnected : Bool) {n : Int}
    {alerts : List TipEffect} (h : view.isBlank = false) (hamount : view.amount = .ok (n, alerts))
    (hids : HasIds view.currentRequest) :
    ∃ parameters, HasTip parameters n ∧ view.btnPayTipPressed isConnected =
      .ok (alerts ++ .showActivityIndicator :: postTipAmountAPI isConnected parameters) := by
  simp only [HasIds, Option.isSome_iff_exists] at hids
  obtain ⟨⟨clientId, hclient⟩, ⟨providerId, hprovider⟩, ⟨tripId, htrip⟩⟩ := hids
  exact ⟨parameters clientId providerId tripId n, hasTip_parameters.mpr rfl,
    (btnPayTipPressed_eq_ok h).mpr ⟨n, alerts, clientId, providerId, tripId, hamount, hclient,
      hprovider, htrip, rfl⟩⟩

/-- A press that posts what was chosen, or else alerts. -/
theorem isRight_of_chosen {view : TipView} (isConnected : Bool) {parameters : Dict} {n : Int}
    (htip : HasTip parameters n) (hpos : 0 < n) (hchosen : view.IsChosen n) :
    view.IsRight (.showActivityIndicator :: postTipAmountAPI isConnected parameters) := by
  cases isConnected with
  | true => exact .inl ⟨parameters, n, by simp, htip, hpos, hchosen⟩
  | false =>
    obtain ⟨effect, hmem, halert⟩ := exists_isAlert_offline parameters
    exact .inr ⟨by simp, effect, List.mem_cons_of_mem _ hmem, halert⟩

/-- The condition under which a press does what it should. -/
def IsInOrder (view : TipView) (isConnected : Bool) : Prop :=
  view.isBlank = true ∨ HasIds view.currentRequest ∧
    (view.isAnySelected = true ∨ IsPayable view.txtAddTip isConnected)

theorem outlet_amount_pos (outlet : TipOutlet) : 0 < outlet.amount := by
  cases outlet <;> decide

theorem isAnySelected_of_button {view : TipView} {outlet : TipOutlet}
    (h : (view.button outlet).isSelected = true) : view.isAnySelected = true := by
  cases outlet <;> simp_all [button, isAnySelected]

/-- A tip of 0 that is posted is no tip that was chosen. -/
theorem not_isRight_of_zero {view : TipView} {clientId providerId tripId : Json}
    {alert : String} : ¬view.IsRight (.showAlertOnNavigationBar alert :: .showActivityIndicator ::
      postTipAmountAPI true (parameters clientId providerId tripId 0)) := by
  rintro (⟨params, n, hposted, htip, hpos, _⟩ | ⟨hposted, _⟩)
  · have hparams : parameters clientId providerId tripId 0 = params := by simpa using hposted
    obtain rfl := hasTip_parameters.mp (hparams ▸ htip)
    exact absurd hpos (by decide)
  · simp at hposted

/-- What a press that does what it should says of the view. -/
theorem isInOrder_of_isRight {view : TipView} {isConnected : Bool} {effects : List TipEffect}
    (hblank : view.isBlank = false) (hpress : view.btnPayTipPressed isConnected = .ok effects)
    (hright : view.IsRight effects) : view.IsInOrder isConnected := by
  obtain ⟨n, alerts, clientId, providerId, tripId, hamount, hclient, hprovider, htrip, rfl⟩ :=
    (btnPayTipPressed_eq_ok hblank).mp hpress
  refine .inr ⟨⟨by simp [hclient], by simp [hprovider], by simp [htrip]⟩, ?_⟩
  cases hsel : view.isAnySelected with
  | true => exact .inl rfl
  | false =>
    obtain ⟨typed, htyped, ⟨hpos, _⟩ | ⟨_, rfl, rfl⟩⟩ := (amount_of_typed hsel).mp hamount
    · exact .inr ⟨typed, htyped, .inl hpos⟩
    · -- A tip of 0 is posted unless nothing can be.
      refine .inr ⟨typed, htyped, .inr ?_⟩
      cases isConnected with
      | false => rfl
      | true => exact absurd hright not_isRight_of_zero

/-- A press in order does what it should. -/
theorem isRight_of_isInOrder {view : TipView} {isConnected : Bool} (hblank : view.isBlank = false)
    (horder : view.IsInOrder isConnected) :
    ∃ effects, view.btnPayTipPressed isConnected = .ok effects ∧ view.IsRight effects := by
  obtain ⟨hids, hchoice⟩ := horder.resolve_left (by simp [hblank])
  cases hsel : view.isAnySelected with
  | true =>
    obtain ⟨outlet, hbutton, hamount⟩ := amount_of_selected hsel
    obtain ⟨params, htip, hpress⟩ := exists_btnPayTipPressed isConnected hblank hamount hids
    exact ⟨_, hpress, isRight_of_chosen isConnected htip (outlet_amount_pos outlet)
      (.inl ⟨outlet, hbutton, rfl⟩)⟩
  | false =>
    obtain ⟨typed, htyped, htake⟩ := hchoice.resolve_left (by simp [hsel])
    by_cases hpos : 0 < typed
    · have hamount : view.amount = .ok (typed, []) :=
        (amount_of_typed hsel).mpr ⟨typed, htyped, .inl ⟨hpos, rfl, rfl⟩⟩
      obtain ⟨params, htip, hpress⟩ := exists_btnPayTipPressed isConnected hblank hamount hids
      exact ⟨_, hpress, isRight_of_chosen isConnected htip hpos (.inr ⟨hsel, htyped⟩)⟩
    · have hamount : view.amount =
          .ok (0, [.showAlertOnNavigationBar "Please enter valid amount"]) :=
        (amount_of_typed hsel).mpr ⟨typed, htyped, .inr ⟨not_lt.mp hpos, rfl, rfl⟩⟩
      obtain rfl : isConnected = false := htake.resolve_left hpos
      obtain ⟨params, _, hpress⟩ := exists_btnPayTipPressed false hblank hamount hids
      exact ⟨_, hpress, .inr ⟨by simp,
        .showAlertOnNavigationBar "Please enter valid amount", by simp, rfl⟩⟩

/-- **When a press on Pay posts the tip that was chosen, or alerts and posts nothing.**  Exactly if
nothing was chosen at all, or the trip has its ids and either a button is selected or the field
reads as a positive number, or as any number while there is no connection. -/
theorem btnPayTipPressed_isRight_iff (view : TipView) (isConnected : Bool) :
    (∃ effects, view.btnPayTipPressed isConnected = .ok effects ∧ view.IsRight effects) ↔
      view.IsInOrder isConnected := by
  cases hblank : view.isBlank with
  | true =>
    refine iff_of_true ?_ (.inl hblank)
    refine ⟨[.showAlertOnNavigationBar "Please select or add amount"], ?_, .inr ⟨rfl, ?_⟩⟩
    · simp [btnPayTipPressed, hblank]
    · exact ⟨_, List.mem_singleton_self _, rfl⟩
  | false =>
    constructor
    · rintro ⟨effects, hpress, hright⟩
      exact isInOrder_of_isRight hblank hpress hright
    · intro horder
      exact isRight_of_isInOrder hblank horder

/-- The view as it is shown, with a text in the field. -/
def typedTip (text : String) : TipView where
  btnTip1 := { tag := 1 }
  btnTip2 := { tag := 2 }
  btnTip3 := { tag := 3 }
  txtAddTip := text
  currentRequest := [("ClientId", .ofInt 4), ("ProviderId", .ofInt 9), ("TripId", .ofInt 12)]

/-- **The alert falls through to the post.**  At the text `0` the user is told that this is no valid
amount, and a tip of 0 is posted; at the text `abc` the app stops. -/
theorem invalid_tip_is_posted :
    (typedTip "0").btnPayTipPressed true =
      .ok [.showAlertOnNavigationBar "Please enter valid amount", .showActivityIndicator,
        .post (parameters (.ofInt 4) (.ofInt 9) (.ofInt 12) 0)] ∧
    (typedTip "abc").btnPayTipPressed true = .error (.notANumber "txtAddTip") ∧
    ¬ ∀ (view : TipView) (isConnected : Bool), HasIds view.currentRequest →
      ∃ effects, view.btnPayTipPressed isConnected = .ok effects ∧ view.IsRight effects := by
  have hzero : (typedTip "0").btnPayTipPressed true =
      .ok [.showAlertOnNavigationBar "Please enter valid amount", .showActivityIndicator,
        .post (parameters (.ofInt 4) (.ofInt 9) (.ofInt 12) 0)] := by decide +kernel
  refine ⟨hzero, by decide +kernel, fun h => ?_⟩
  obtain ⟨effects, hpress, hright⟩ := h (typedTip "0") true (by simp [HasIds, typedTip, Dict.get?,
    List.lookup_cons])
  obtain rfl := Except.ok.inj (hzero.symm.trans hpress)
  rcases hright with ⟨params, n, hposted, htip, hpos, _⟩ | ⟨hposted, _⟩
  · have hparams : parameters (.ofInt 4) (.ofInt 9) (.ofInt 12) 0 = params := by
      simpa [posted] using hposted
    obtain rfl := hasTip_parameters.mp (hparams ▸ htip)
    exact absurd hpos (by decide)
  · simp [posted] at hposted

/-! ## 3. Taps and edits -/

/-- What the user does to the view before Pay. -/
inductive TipEvent where
  | btnTipAmountPressed (sender : TipOutlet)
  | editingChanged (text : String)
  deriving DecidableEq, Repr

def handle (view : TipView) : TipEvent → TipView
  | .btnTipAmountPressed sender => view.btnTipAmountPressed sender
  | .editingChanged text => view.testFieldEditingChanged text

/-- What a tip can be chosen by. -/
inductive TipChoice where
  | button (outlet : TipOutlet)
  | typed (text : String)
  deriving DecidableEq, Repr

/-- The amount of a choice; a text may have none. -/
def TipChoice.amount : TipChoice → Option Int
  | .button outlet => some outlet.amount
  | .typed text => int? text

/-- The choice a tap or an edit leaves: none, if the field was emptied. -/
def TipEvent.choice : TipEvent → Option TipChoice
  | .btnTipAmountPressed sender => some (.button sender)
  | .editingChanged text => if text = "" then none else some (.typed text)

/-- That of the most recent tap or edit which left one. -/
def latestChoice (events : List TipEvent) : Option TipChoice :=
  (events.filterMap TipEvent.choice).getLast?

/-- The storyboard gives the three buttons different tags. -/
def HasDistinctTags (view : TipView) : Prop :=
  ∀ outlet outlet' : TipOutlet, (view.button outlet).tag = (view.button outlet').tag →
    outlet = outlet'

/-- At most one button is selected, and that only beside an empty field. -/
structure Exclusive (view : TipView) : Prop where
  atMostOne : ∀ outlet outlet' : TipOutlet, (view.button outlet).isSelected = true →
    (view.button outlet').isSelected = true → outlet = outlet'
  emptyField : ∀ outlet : TipOutlet, (view.button outlet).isSelected = true → view.txtAddTip = ""

/-- The view shows the choice: the button is selected, or none is and the text is in the field. -/
def Shows (view : TipView) : Option TipChoice → Prop
  | some (.button outlet) => (view.button outlet).isSelected = true
  | some (.typed text) => view.isAnySelected = false ∧ view.txtAddTip = text
  | none => view.isBlank = true

@[simp] theorem button_selectTag (view : TipView) (tag : Int) (outlet : TipOutlet) :
    (view.selectTag tag).button outlet =
      { view.button outlet with isSelected := (view.button outlet).tag == tag } := by
  cases outlet <;> rfl

@[simp] theorem button_testFieldEditingChanged (view : TipView) (text : String)
    (outlet : TipOutlet) : (view.testFieldEditingChanged text).button outlet =
      { view.button outlet with isSelected := false } := by
  cases outlet <;> rfl

/-- No event changes a tag. -/
theorem tag_handle (view : TipView) (event : TipEvent) (outlet : TipOutlet) :
    ((view.handle event).button outlet).tag = (view.button outlet).tag := by
  cases event with
  | btnTipAmountPressed sender =>
    simp only [handle, btnTipAmountPressed]
    split
    · cases outlet <;> rfl
    · rfl
  | editingChanged text => simp [handle]

theorem HasDistinctTags.handle {view : TipView} (h : view.HasDistinctTags) (event : TipEvent) :
    (view.handle event).HasDistinctTags := by
  intro outlet outlet' htags
  rw [tag_handle, tag_handle] at htags
  exact h outlet outlet' htags

/-- **One tap or edit.**  It leaves at most one button selected, beside an empty field, and the view
shows the choice of the event. -/
theorem Exclusive.handle {view : TipView} (h : view.Exclusive) (htags : view.HasDistinctTags)
    (event : TipEvent) : (view.handle event).Exclusive ∧ (view.handle event).Shows event.choice := by
  cases event with
  | btnTipAmountPressed sender =>
    cases hsel : (view.button sender).isSelected with
    | true =>
      -- A tap on the selected button changes nothing, and needs not.
      have hsame : view.handle (.btnTipAmountPressed sender) = view := by
        simp [TipView.handle, btnTipAmountPressed, hsel]
      rw [hsame]
      exact ⟨h, hsel⟩
    | false =>
      have hbutton : ∀ outlet, ((view.handle (.btnTipAmountPressed sender)).button outlet).isSelected
          = true ↔ outlet = sender := by
        intro outlet
        have hview : (view.handle (.btnTipAmountPressed sender)).button outlet =
            (view.selectTag (view.button sender).tag).button outlet := by
          simp only [TipView.handle, btnTipAmountPressed, hsel, Bool.not_false, if_true]
          cases outlet <;> rfl
        rw [hview, button_selectTag, beq_iff_eq]
        exact ⟨htags outlet sender, fun heq => heq ▸ rfl⟩
      refine ⟨⟨?_, ?_⟩, (hbutton sender).mpr rfl⟩
      · intro outlet outlet' ho ho'
        rw [(hbutton outlet).mp ho, (hbutton outlet').mp ho']
      · intro _ _
        simp [TipView.handle, btnTipAmountPressed, hsel]
  | editingChanged text =>
    refine ⟨⟨?_, ?_⟩, ?_⟩
    · intro outlet outlet' ho
      simp [TipView.handle] at ho
    · intro outlet ho
      simp [TipView.handle] at ho
    · by_cases htext : text = ""
      · simp [TipEvent.choice, htext, Shows, TipView.handle, testFieldEditingChanged, isBlank]
      · simp [TipEvent.choice, htext, Shows, TipView.handle, testFieldEditingChanged,
          isAnySelected]

/-- After any taps and edits the view shows what the last one of them left: nothing, or the latest
choice. -/
theorem exclusive_foldl {view : TipView} (h : view.Exclusive) (hblank : view.isBlank = true)
    (htags : view.HasDistinctTags) (events : List TipEvent) :
    (events.foldl handle view).HasDistinctTags ∧ (events.foldl handle view).Exclusive ∧
      ((events.foldl handle view).isBlank = true ∨
        ∃ choice, latestChoice events = some choice ∧
          (events.foldl handle view).Shows (some choice)) := by
  induction events using List.reverseRecOn with
  | nil => exact ⟨htags, h, .inl hblank⟩
  | append_singleton events event ih =>
    obtain ⟨htags, hexclusive, _⟩ := ih
    rw [List.foldl_append, List.foldl_cons, List.foldl_nil]
    obtain ⟨hnext, hshows⟩ := hexclusive.handle htags event
    refine ⟨htags.handle event, hnext, ?_⟩
    cases hchoice : event.choice with
    | none =>
      rw [hchoice] at hshows
      exact .inl hshows
    | some choice =>
      rw [hchoice] at hshows
      exact .inr ⟨choice, by simp [latestChoice, hchoice], hshows⟩

/-- **What a press posts is what the view shows**, as long as a text that is shown is a positive
number. -/
theorem posted_of_shows {view : TipView} (h : view.Exclusive) {choice : TipChoice}
    (hshows : view.Shows (some choice))
    (hpositive : view.txtAddTip ≠ "" → ∃ n, int? view.txtAddTip = some n ∧ 0 < n)
    {isConnected : Bool} {effects : List TipEffect}
    (hpress : view.btnPayTipPressed isConnected = .ok effects) :
    ∀ parameters ∈ posted effects, ∃ n, choice.amount = some n ∧ HasTip parameters n := by
  cases hblank : view.isBlank with
  | true =>
    have halert : .ok [.showAlertOnNavigationBar "Please select or add amount"] =
        (.ok effects : Except Trap _) := by
      simpa [btnPayTipPressed, hblank] using hpress
    intro params hparams
    rw [← Except.ok.inj halert] at hparams
    simp at hparams
  | false =>
    obtain ⟨n, alerts, clientId, providerId, tripId, hamount, -, -, -, rfl⟩ :=
      (btnPayTipPressed_eq_ok hblank).mp hpress
    have hboth : alerts = [] ∧ choice.amount = some n := by
      cases choice with
      | button outlet =>
        obtain ⟨first, hfirst, hfirstAmount⟩ :=
          amount_of_selected (isAnySelected_of_button hshows)
        obtain ⟨hn, halerts⟩ := Prod.mk.inj (Except.ok.inj (hfirstAmount.symm.trans hamount))
        rw [← h.atMostOne first outlet hfirst hshows, TipChoice.amount, hn]
        exact ⟨halerts.symm, rfl⟩
      | typed text =>
        obtain ⟨hsel, rfl⟩ := hshows
        obtain ⟨typed, htyped, hcases⟩ := (amount_of_typed hsel).mp hamount
        have hne : view.txtAddTip ≠ "" := by
          intro hempty
          exact absurd (isBlank_iff.mpr ⟨hsel, hempty⟩) (by simp [hblank])
        obtain ⟨m, hm, hpos⟩ := hpositive hne
        obtain rfl : typed = m := Option.some.inj (htyped.symm.trans hm)
        rcases hcases with ⟨_, rfl, halerts⟩ | ⟨hneg, _, _⟩
        · exact ⟨halerts, htyped⟩
        · exact absurd hpos (not_lt.mpr hneg)
    obtain ⟨rfl, hn⟩ := hboth
    intro params hparams
    cases isConnected with
    | true =>
      obtain rfl : params = parameters clientId providerId tripId n := by simpa using hparams
      exact ⟨n, hn, hasTip_parameters.mpr rfl⟩
    | false => simp at hparams

/-- **The latest tip choice wins.**  The buttons have different tags, none is selected and the field
is empty.  After any taps and edits at most one button is selected, that only beside an empty field,
and what Pay posts, where a text in the field is a positive number, is the amount of the most recent
tap or edit that left a choice. -/
theorem latest_choice_wins {view : TipView} (hnone : view.isAnySelected = false)
    (hempty : view.txtAddTip = "") (htags : view.HasDistinctTags) (events : List TipEvent) :
    (events.foldl handle view).Exclusive ∧
    (((events.foldl handle view).txtAddTip ≠ "" →
        ∃ n, int? (events.foldl handle view).txtAddTip = some n ∧ 0 < n) →
      ∀ isConnected effects,
        (events.foldl handle view).btnPayTipPressed isConnected = .ok effects →
        ∀ parameters ∈ posted effects, ∃ choice n, latestChoice events = some choice ∧
          choice.amount = some n ∧ HasTip parameters n) := by
  have hexclusive : view.Exclusive := by
    constructor
    · intro outlet _ ho
      simp [isAnySelected_of_button ho] at hnone
    · exact fun _ _ => hempty
  obtain ⟨-, hafter, hshows⟩ :=
    exclusive_foldl hexclusive (isBlank_iff.mpr ⟨hnone, hempty⟩) htags events
  refine ⟨hafter, fun hpositive isConnected effects hpress parameters hparams => ?_⟩
  rcases hshows with hblank | ⟨choice, hlatest, hshows⟩
  · have halert : [.showAlertOnNavigationBar "Please select or add amount"] = effects := by
      simpa [btnPayTipPressed, hblank] using hpress
    simp [← halert] at hparams
  · obtain ⟨n, hamount, htip⟩ :=
      posted_of_shows hafter hshows hpositive hpress parameters hparams
    exact ⟨choice, n, hlatest, hamount, htip⟩

/-- A tap on 2, the text 7, and a tap on 10. -/
theorem ten_after_seven :
    ∃ effects parameters, ([TipEvent.btnTipAmountPressed .btnTip1, .editingChanged "7",
        .btnTipAmountPressed .btnTip3].foldl handle (typedTip "")).btnPayTipPressed true =
      .ok effects ∧ parameters ∈ posted effects ∧ HasTip parameters 10 := by
  have hpress : ([TipEvent.btnTipAmountPressed .btnTip1, .editingChanged "7",
      .btnTipAmountPressed .btnTip3].foldl handle (typedTip "")).btnPayTipPressed true =
      .ok [.showActivityIndicator, .post (parameters (.ofInt 4) (.ofInt 9) (.ofInt 12) 10)] := by
    decide +kernel
  have hmem : parameters (.ofInt 4) (.ofInt 9) (.ofInt 12) 10 ∈
      posted [.showActivityIndicator, .post (parameters (.ofInt 4) (.ofInt 9) (.ofInt 12) 10)] := by
    simp [posted]
  obtain ⟨choice, n, hlatest, hamount, htip⟩ :=
    (@latest_choice_wins (typedTip "") rfl rfl (by
      intro outlet outlet' h
      cases outlet <;> cases outlet' <;> first | rfl | simp [typedTip, button] at h) _).2
      (by decide +kernel) true _ hpress _ hmem
  have hten : some (TipChoice.button .btnTip3) = some choice := hlatest
  obtain rfl := Option.some.inj hten
  obtain rfl : (10 : Int) = n := Option.some.inj hamount
  exact ⟨_, _, hpress, hmem, htip⟩

end TipView

end WeatherAccommodation
