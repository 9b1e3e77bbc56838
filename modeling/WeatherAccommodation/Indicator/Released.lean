/-
# The activity view is released, unless the provider's kit was accepted

What keeps the view from staying for good is a call that waits and whose handler will hide it, or
pass it on to a call that will (`Releases`).  `Covered` says that the view is hidden or such a call
waits, and a step that keeps it is any but one: the handler of `uploadKitSize` presents the sign-in
screen when the kit was accepted, and leaves the view over it.

* **Any runs.**  While no kit is accepted, the view is hidden whenever nothing waits, in whatever
  order operations are started and answered (`Covered.step`).
* **An operation alone.**  Started while nothing waits, it leaves the view hidden exactly if none of
  its answers accepts a kit (`answers_covered_iff`).

A client's picture is the one request whose handler leaves the view to somebody else.  It goes back
to the profile, which fetches itself and hides the view after that; an editor that was left before
its answer has no profile to go back to, and then the fetch was made on leaving (`WillPop`).
-/
import WeatherAccommodation.Indicator.Steps

namespace WeatherAccommodation

open Foundation Reactive

namespace Window

variable {w v : Window}

/-! ## 1. Calls that will release the view -/

/-- Editor `k` will hide the view or go back to the profile that does. -/
def WillPop (w : Window) (k : Nat) : Prop :=
  ∃ editor, w.editors[k]? = some editor ∧ (editor.role = .clientApp → editor.isOnStack = true)

def Releases (w : Window) : Call → Prop
  | .verifyPhonenumberWithFirebase => False
  | .request (.updateProfileDetails k) => w.WillPop k
  | .request (.updateProfileImage k) => w.WillPop k
  | _ => True

/-- The view is hidden, or a call waits that will see to it. -/
def Covered (w : Window) : Prop :=
  w.activityViewIsHidden = true ∨ ∃ i call, w.calls.waiting i = some call ∧ w.Releases call

/-- Nothing waits. -/
def Idle (w : Window) : Prop := ∀ i, w.calls.waiting i = none

theorem Covered.hidden_of_idle (h : w.Covered) (hidle : w.Idle) :
    w.activityViewIsHidden = true := by
  rcases h with h | ⟨i, call, hwait, _⟩
  · exact h
  · rw [hidle i] at hwait
    exact absurd hwait (by simp)

theorem covered_removeActivityIndicator (w : Window) : w.removeActivityIndicator.Covered := .inl rfl

/-- A call that releases the view covers it from the moment it is made. -/
theorem covered_await {call : Call} (h : w.Releases call) : (w.await call).Covered := by
  refine .inr ⟨w.calls.issued, call, ?_, h⟩
  simp [await, Callbacks.waiting_issue]

/-- One more call takes nothing away. -/
theorem Covered.await (h : w.Covered) (call : Call) : (w.await call).Covered := by
  rcases h with h | ⟨i, c, hwait, hc⟩
  · exact .inl h
  · have hi : i ≠ w.calls.issued := (Callbacks.lt_issued_of_waiting hwait).ne
    refine .inr ⟨i, c, ?_, hc⟩
    rw [Window.await, Callbacks.waiting_issue, if_neg hi]
    exact hwait

/-- Without a connection the view is hidden on the spot. -/
theorem covered_getResponse {request : Request} (h : w.Releases (.request request)) :
    (w.getResponse request).Covered := by
  unfold getResponse
  split
  · exact covered_await h
  · exact covered_removeActivityIndicator _

theorem Covered.getResponse (h : w.Covered) (request : Request) :
    (w.getResponse request).Covered := by
  unfold Window.getResponse
  split
  · exact h.await _
  · exact covered_removeActivityIndicator _

theorem covered_start (w : Window) (operation : Operation) : (w.start operation).Covered :=
  covered_getResponse trivial

theorem covered_viewWillAppear (w : Window) : ∀ role, (w.viewWillAppear role).Covered
  | .clientApp => covered_start w _
  | .providerApp => covered_start w _

/-- Going back to the profile covers the view. -/
theorem covered_popViewController {k : Nat} {editor : ProfileEditor}
    (hk : w.editors[k]? = some editor) (hstack : editor.isOnStack = true) :
    (w.popViewController k).Covered := by
  simp only [popViewController, hk, hstack, if_true]
  exact covered_viewWillAppear _ _

theorem Covered.popViewController (h : w.Covered) (k : Nat) :
    (w.popViewController k).Covered := by
  unfold Window.popViewController
  split
  · split
    · exact covered_viewWillAppear _ _
    · exact h
  · exact h

/-! ## 2. What the handlers leave -/

section Handlers

variable {response : Json}

/-- **A handler releases the view** or makes a call that will, except for an accepted kit. -/
theorem covered_of_completion {request : Request} (hr : w.Releases (.request request))
    (hkit : request = .of .uploadKitSize → saysSuccess response = false)
    (h : w.completion request (some response) = .ok v) : v.Covered := by
  cases request with
  | postRequest => exact .inl (hidden_of_removeAtEnd h)
  | addStripeCard => exact .inl (hidden_of_removeOnSuccess h)
  | updateProfileDetails k =>
    have hreply : w.profileDetailsReply k (some response) = .ok v := h
    rcases profileDetailsReply_cases hreply with rfl | rfl
    · exact covered_getResponse hr
    · exact (covered_removeActivityIndicator w).popViewController k
  | updateProfileImage k =>
    obtain ⟨editor, hk, hstack⟩ := hr
    have hreply : w.profileImageReply k (some response) = .ok v := h
    rcases profileImageReply_cases hreply with rfl | ⟨hrole, rfl⟩
    · exact (covered_removeActivityIndicator w).popViewController k
    · have hclient : editor.role = .clientApp := by
        cases hcase : editor.role with
        | clientApp => rfl
        | providerApp => exact absurd (by simp [hk, hcase]) hrole
      exact covered_popViewController hk (hstack hclient)
  | of operation =>
    cases operation with
    | callingForgotPasswordWS => exact .inl (hidden_of_removeAfterSuccessCode h)
    | verifyOTPThroughWS => exact .inl (hidden_of_removeAfterSuccessCode h)
    | verifyUserThroughWS => exact .inl (hidden_of_removeAfterSuccessCode h)
    | callingRegisterWS => exact .inl (hidden_of_removeAfterSuccessCode h)
    | callingLoginWS => exact .inl (hidden_of_removeAfterSuccessCode h)
    | resetPasswordThroughWS => exact .inl (hidden_of_removeAfterSuccessCode h)
    | getClientProfileUserInformationAPI => exact .inl (hidden_of_removeAfterSuccessCode h)
    | getProviderProfileUserInformationAPI => exact .inl (hidden_of_removeAfterSuccessCode h)
    | uploadImages => exact .inl (hidden_of_removeAfterSuccessCode h)
    | getOnlineProviderList => exact .inl (hidden_of_removeAtEnd h)
    | cancelRequestThroughWS => exact .inl (hidden_of_removeAtEnd h)
    | btnPayTipPressed => exact .inl (@hidden_of_removeFirst w v response h)
    | submitReview role => exact .inl (@hidden_of_removeFirst w v response h)
    | submitSupport => exact .inl (@hidden_of_removeFirst w v response h)
    | btnActionPressed isTripStarted =>
      obtain rfl : w.removeActivityIndicator = v := pure_eq_ok.mp h
      exact covered_removeActivityIndicator w
    | uploadSelfie => exact .inl (hidden_of_removeOnSuccess h)
    | getClientDetails => exact .inl (hidden_of_removeOnSuccess h)
    | getProviderDetails => exact .inl (hidden_of_removeOnSuccess h)
    | deleteCardWithAPI => exact .inl (hidden_of_removeOnSuccess h)
    | getProviderEarning => exact .inl (hidden_of_removeOnSuccess h)
    | getKitSize screen => exact .inl (hidden_of_removeOnSuccess h)
    | requestImmediatePayment =>
      obtain rfl : w.showAlertOnNavigationBarWith = v := pure_eq_ok.mp h
      exact covered_removeActivityIndicator w
    | getKit screen =>
      simp only [completion, getKit, bind_eq_ok, pure_eq_ok] at h
      obtain ⟨_, _, rfl⟩ := h
      exact covered_start w _
    | uploadKitSize =>
      rcases uploadKitSize_cases h with ⟨hyes, _⟩ | ⟨_, rfl⟩
      · rw [hkit rfl] at hyes
        exact absurd hyes (by simp)
      · exact covered_removeActivityIndicator w

end Handlers

/-! ## 3. One event -/

/-- An upload of the kit is answered with success. -/
def kitIsAccepted (w : Window) : WindowEvent → Bool
  | .reply i (.success response) =>
    decide (w.calls.waiting i = some (.request (.of .uploadKitSize))) && saysSuccess response
  | _ => false

/-- **The answer to a call that releases the view.** -/
theorem covered_of_answered {call : Call} {outcome : ClientProviderAPIManager.Outcome}
    (hcall : w.Releases call)
    (hkit : ∀ response, outcome = .success response →
      call = .request (.of .uploadKitSize) → saysSuccess response = false)
    (h : w.answered call outcome = some (.ok v)) : v.Covered := by
  cases call with
  | verifyPhonenumberWithFirebase => exact hcall.elim
  | createToken =>
    cases outcome with
    | offline => exact absurd h (by simp [answered])
    | failure code =>
      obtain rfl : w.removeActivityIndicator = v := by simpa [answered] using h
      exact covered_removeActivityIndicator w
    | success response =>
      obtain rfl : w.getResponse .addStripeCard = v := by simpa [answered] using h
      exact covered_getResponse trivial
  | request request =>
    rcases responseJSON_cases h with ⟨_, u, _, _, rfl⟩ | ⟨response, hout, h⟩
    · exact covered_removeActivityIndicator u
    · exact covered_of_completion hcall (fun heq => hkit response hout (by rw [heq])) h

/-- The answer to any other leaves the view to the call that waited beside it. -/
theorem Covered.answered {call : Call} {outcome : ClientProviderAPIManager.Outcome}
    (hw : w.Covered) (hcall : ¬w.Releases call) (h : w.answered call outcome = some (.ok v)) :
    v.Covered := by
  cases call with
  | createToken => exact absurd trivial hcall
  | verifyPhonenumberWithFirebase =>
    cases outcome with
    | offline => exact absurd h (by simp [Window.answered])
    | failure code =>
      obtain rfl : w.showAlertOnNavigationBarWith = v := by simpa [Window.answered] using h
      exact covered_removeActivityIndicator w
    | success response =>
      obtain rfl : w = v := by simpa [Window.answered] using h
      exact hw
  | request request =>
    rcases responseJSON_cases h with ⟨_, u, _, _, rfl⟩ | ⟨response, hout, h⟩
    · exact covered_removeActivityIndicator u
    · cases request with
      | of operation => exact absurd trivial hcall
      | postRequest => exact absurd trivial hcall
      | addStripeCard => exact absurd trivial hcall
      | updateProfileDetails k =>
        have hreply : w.profileDetailsReply k (some response) = .ok v := h
        rcases profileDetailsReply_cases hreply with rfl | rfl
        · exact hw.getResponse _
        · exact (covered_removeActivityIndicator w).popViewController k
      | updateProfileImage k =>
        have hreply : w.profileImageReply k (some response) = .ok v := h
        rcases profileImageReply_cases hreply with rfl | ⟨_, rfl⟩
        · exact (covered_removeActivityIndicator w).popViewController k
        · exact hw.popViewController k

/-- A call that does not release the view may be answered and gone. -/
theorem Covered.retire {i : Nat} {call : Call} (h : w.Covered)
    (hwait : w.calls.waiting i = some call) (hcall : ¬w.Releases call) :
    Covered { w with calls := w.calls.retire i } := by
  rcases h with h | ⟨j, c, hj, hc⟩
  · exact .inl h
  · have hij : i ≠ j := by
      rintro rfl
      obtain rfl : call = c := by simpa [hwait] using hj
      exact hcall hc
    refine .inr ⟨j, c, ?_, hc⟩
    rw [Callbacks.waiting_retire, if_neg hij]
    exact hj

/-- What an editor in sight sends, it or its profile will answer for. -/
theorem covered_btnSubmitPressed {k : Nat} {editor : ProfileEditor}
    (hk : w.editors[k]? = some editor) (hstack : editor.isOnStack = true)
    (hhidden : w.activityViewIsHidden = true) : (w.btnSubmitPressed k editor).Covered := by
  have hpop : w.WillPop k := ⟨editor, hk, fun _ => hstack⟩
  unfold btnSubmitPressed
  split
  · exact covered_getResponse hpop
  · split
    · exact covered_getResponse hpop
    · exact .inl hhidden

theorem covered_sendRequest (hhidden : w.activityViewIsHidden = true) (dashboard : ClientDashboard)
    (device : Device) : (w.sendRequest dashboard device).Covered := by
  unfold sendRequest
  cases dashboard.sendRequest device with
  | addCard => exact .inl hhidden
  | wallet => exact .inl hhidden
  | noOnlineProviders => exact covered_removeActivityIndicator w
  | locationUnavailable => exact covered_removeActivityIndicator w
  | post => exact covered_getResponse trivial

/-- **One event.**  Whatever happens, the view stays covered, unless a kit is accepted. -/
theorem Covered.step {e : WindowEvent} (hw : w.Covered) (hkit : w.kitIsAccepted e = false)
    (h : machine.Step w e v) : v.Covered := by
  cases e with
  | connection isConnected =>
    obtain rfl : { w with isConnected := isConnected } = v := by
      simpa [machine, Machine.Step, react] using h
    exact hw
  | clientProviderButtonAction role =>
    obtain ⟨hhidden, rfl⟩ := tapped_eq_ok.mp h
    exact .inl hhidden
  | start operation =>
    obtain rfl : w.start operation = v := by simpa [machine, Machine.Step, react] using h
    exact covered_start w operation
  | sendRequest dashboard device =>
    obtain ⟨hhidden, rfl⟩ := tapped_eq_ok.mp h
    exact covered_sendRequest hhidden dashboard device
  | btnDonePressed =>
    obtain ⟨_, rfl⟩ := tapped_eq_ok.mp h
    exact covered_await trivial
  | btnEditPressed role =>
    obtain ⟨hhidden, rfl⟩ := tapped_eq_ok.mp h
    exact .inl hhidden
  | textFieldDidBeginEditing k =>
    obtain ⟨editor, _, h⟩ := Option.bind_eq_some_iff.mp h
    obtain ⟨hhidden, rfl⟩ := tapped_eq_ok.mp h
    exact .inl hhidden
  | didFinishPickingMedia k =>
    obtain ⟨editor, _, h⟩ := Option.bind_eq_some_iff.mp h
    obtain ⟨hhidden, rfl⟩ := tapped_eq_ok.mp h
    exact .inl hhidden
  | btnSubmitPressed k =>
    obtain ⟨editor, hk, hstack, hhidden, rfl⟩ := btnSubmitPressed_inv h
    exact covered_btnSubmitPressed hk hstack hhidden
  | btnBackPressed k =>
    obtain ⟨_, rfl⟩ := tapped_eq_ok.mp h
    exact hw.popViewController k
  | goBackToMainViewController =>
    obtain ⟨hhidden, rfl⟩ := tapped_eq_ok.mp h
    exact .inl hhidden
  | alert =>
    obtain rfl : w.showAlertOnNavigationBarWith = v := by
      simpa [machine, Machine.Step, react] using h
    exact covered_removeActivityIndicator w
  | reply i outcome =>
    obtain ⟨call, hwait, h⟩ := reply_inv h
    by_cases hcall : w.Releases call
    · have hrest : Releases { w with calls := w.calls.retire i } call := hcall
      refine covered_of_answered hrest ?_ h
      rintro response rfl rfl
      simpa [kitIsAccepted, hwait] using hkit
    · exact (hw.retire hwait hcall).answered hcall h

/-! ## 4. Any runs -/

/-- While no kit is accepted, the view is hidden whenever nothing waits. -/
theorem hidden_of_idle {isConnected : Bool}
    (hrun : machine.RunWhere (fun w e => w.kitIsAccepted e = false) (launch isConnected) w)
    (hidle : w.Idle) : w.activityViewIsHidden = true := by
  have hcovered : w.Covered := by
    refine hrun.invariant (.inl rfl) ?_
    exact fun _ _ _ hw hkit hstep => hw.step hkit hstep
  exact hcovered.hidden_of_idle hidle

/-! ## 5. An operation alone -/

/-- The upload of the kit waits only by itself, and over a view that is shown.  And as long as
anything waits, the view is covered. -/
structure Alone (w : Window) : Prop where
  upload : ∀ i, w.calls.waiting i = some (.request (.of .uploadKitSize)) →
    w.activityViewIsHidden = false ∧ ∀ j, j ≠ i → w.calls.waiting j = none
  covered : w.Covered ∨ w.Idle

/-- The events that start an operation. -/
def starts : WindowEvent → Bool
  | .start _ | .sendRequest _ _ | .btnDonePressed | .btnSubmitPressed _ => true
  | _ => false

/-- The events that answer a call. -/
def answers : WindowEvent → Bool
  | .reply _ _ => true
  | _ => false

/-- At most one call was made, over a view that is shown. -/
def Opens (w v : Window) : Prop :=
  v.calls = w.calls ∨ (v.activityViewIsHidden = false ∧ ∃ call, v.calls = w.calls.issue call)

theorem opens_getResponse (w : Window) (request : Request) :
    w.Opens (w.showActivityIndicator.getResponse request) := by
  unfold getResponse
  split
  · exact .inr ⟨rfl, _, rfl⟩
  · exact .inl rfl

theorem opens_sendRequest (w : Window) (dashboard : ClientDashboard) (device : Device) :
    w.Opens (w.sendRequest dashboard device) := by
  unfold sendRequest
  cases dashboard.sendRequest device with
  | addCard => exact .inl rfl
  | wallet => exact .inl rfl
  | noOnlineProviders => exact .inl rfl
  | locationUnavailable => exact .inl rfl
  | post => exact opens_getResponse w .postRequest

theorem opens_btnSubmitPressed (w : Window) (k : Nat) (editor : ProfileEditor) :
    w.Opens (w.btnSubmitPressed k editor) := by
  unfold btnSubmitPressed
  split
  · exact opens_getResponse w (.updateProfileDetails k)
  · split
    · exact opens_getResponse w (.updateProfileImage k)
    · exact .inl rfl

/-- An operation starts with the view covered, and with one call at most. -/
theorem covered_and_opens_of_starts {e : WindowEvent} (he : starts e = true)
    (h : machine.Step w e v) : v.Covered ∧ w.Opens v := by
  cases e with
  | start operation =>
    obtain rfl : w.start operation = v := by simpa [machine, Machine.Step, react] using h
    exact ⟨covered_start w operation, opens_getResponse w (.of operation)⟩
  | sendRequest dashboard device =>
    obtain ⟨hhidden, rfl⟩ := tapped_eq_ok.mp h
    exact ⟨covered_sendRequest hhidden dashboard device, opens_sendRequest w dashboard device⟩
  | btnDonePressed =>
    obtain ⟨_, rfl⟩ := tapped_eq_ok.mp h
    exact ⟨covered_await trivial, .inr ⟨rfl, _, rfl⟩⟩
  | btnSubmitPressed k =>
    obtain ⟨editor, hk, hstack, hhidden, rfl⟩ := btnSubmitPressed_inv h
    exact ⟨covered_btnSubmitPressed hk hstack hhidden, opens_btnSubmitPressed w k editor⟩
  | _ => exact absurd he (by simp [starts])

/-- It is alone if nothing waited before. -/
theorem Opens.alone (h : w.Opens v) (hw : w.Idle) (hv : v.Covered) : v.Alone where
  upload := by
    intro i hi
    rcases h with h | ⟨hshown, call, h⟩
    · rw [h, hw i] at hi
      exact absurd hi (by simp)
    · have hnew : i = w.calls.issued := by
        by_contra hne
        rw [h, Callbacks.waiting_issue, if_neg hne, hw i] at hi
        exact absurd hi (by simp)
      refine ⟨hshown, fun j hj => ?_⟩
      rw [h, Callbacks.waiting_issue, if_neg (hnew ▸ hj), hw j]
  covered := .inl hv

/-- What the answer to an upload of the kit does to the view. -/
theorem answered_uploadKitSize {outcome : ClientProviderAPIManager.Outcome}
    (h : w.answered (.request (.of .uploadKitSize)) outcome = some (.ok v)) :
    v.calls = w.calls ∧
      ((∃ response, outcome = .success response ∧ saysSuccess response = true ∧ v = w) ∨
        ((∀ response, outcome = .success response → saysSuccess response = false) ∧
          v.activityViewIsHidden = true)) := by
  rcases responseJSON_cases h with ⟨code, u, rfl, hu, rfl⟩ | ⟨response, rfl, hdone⟩
  · have hreply : w.uploadKitSize none = .ok u := hu
    have hcalls : u.calls = w.calls := uploadKitSize_calls hreply
    exact ⟨hcalls, .inr ⟨by simp, rfl⟩⟩
  · have hreply : w.uploadKitSize (some response) = .ok v := hdone
    refine ⟨uploadKitSize_calls hreply, ?_⟩
    rcases uploadKitSize_cases hreply with ⟨hyes, rfl⟩ | ⟨hno, rfl⟩
    · exact .inl ⟨response, rfl, hyes, rfl⟩
    · refine .inr ⟨?_, rfl⟩
      rintro _ ⟨⟩
      exact hno

/-- A view that is shown while nothing waits is not covered. -/
theorem not_covered_of_idle (hshown : w.activityViewIsHidden = false) (hidle : w.Idle) :
    ¬w.Covered := by
  intro h
  rw [h.hidden_of_idle hidle] at hshown
  exact absurd hshown (by simp)

/-- **One answer.**  It leaves the operation alone, and the view covered exactly if it accepts no
kit. -/
theorem Alone.answer {e : WindowEvent} (hw : w.Alone) (he : answers e = true)
    (h : machine.Step w e v) :
    v.Alone ∧ (v.Covered ↔ w.Covered ∧ w.kitIsAccepted e = false) := by
  cases e with
  | reply i outcome =>
    obtain ⟨call, hwait, hanswer⟩ := reply_inv h
    have hcovered : w.Covered := by
      rcases hw.covered with hcov | hidle
      · exact hcov
      · rw [hidle i] at hwait
        exact absurd hwait (by simp)
    by_cases hcall : call = .request (.of .uploadKitSize)
    · -- The upload was all that waited, and its handler calls nothing.
      subst hcall
      obtain ⟨hshown, hothers⟩ := hw.upload i hwait
      obtain ⟨hcalls, hview⟩ := answered_uploadKitSize hanswer
      have hidle : v.Idle := by
        intro j
        rw [hcalls, Callbacks.waiting_retire]
        split
        · rfl
        · rename_i hij
          exact hothers j (Ne.symm hij)
      refine ⟨⟨fun j hj => ?_, .inr hidle⟩, ?_⟩
      · rw [hidle j] at hj
        exact absurd hj (by simp)
      · rcases hview with ⟨response, rfl, hyes, rfl⟩ | ⟨hno, hhidden⟩
        · have hkit : w.kitIsAccepted (.reply i (.success response)) = true := by
            simp [kitIsAccepted, hwait, hyes]
          constructor
          · exact fun hv => absurd hv (not_covered_of_idle hshown hidle)
          · rintro ⟨_, hnot⟩
            rw [hkit] at hnot
            exact absurd hnot (by simp)
        · have hkit : w.kitIsAccepted (.reply i outcome) = false := by
            cases outcome with
            | success response => simp [kitIsAccepted, hno response rfl]
            | _ => rfl
          exact ⟨fun _ => ⟨hcovered, hkit⟩, fun _ => .inl hhidden⟩
    · -- Another call was answered, so no upload waits, and none is made.
      have hnone : ∀ j, v.calls.waiting j ≠ some (.request (.of .uploadKitSize)) := by
        intro j hj
        have hbefore := (answered_calls hanswer).waiting (by rintro ⟨⟩) hj
        rw [Callbacks.waiting_retire] at hbefore
        split at hbefore
        · exact absurd hbefore (by simp)
        · rename_i hij
          rw [(hw.upload j hbefore).2 i hij] at hwait
          exact absurd hwait (by simp)
      have hkit : w.kitIsAccepted (.reply i outcome) = false := by
        cases outcome with
        | success response => simp [kitIsAccepted, hwait, hcall]
        | _ => rfl
      have hv : v.Covered := hcovered.step hkit h
      exact ⟨⟨fun j hj => absurd hj (hnone j), .inl hv⟩, fun _ => ⟨hcovered, hkit⟩, fun _ => hv⟩
  | _ => exact absurd he (by simp [answers])

/-- An operation that ran alone leaves the view covered exactly if no answer accepted a kit. -/
theorem answers_covered_iff {u : Window} {e : WindowEvent} (hw : w.Idle) (he : starts e = true)
    (hstep : machine.Step w e v)
    (hrun : machine.RunWhere (fun _ e => answers e = true) v u) :
    u.Covered ↔
      machine.RunWhere (fun x e => answers e = true ∧ x.kitIsAccepted e = false) v u := by
  obtain ⟨hcovered, hopens⟩ := covered_and_opens_of_starts he hstep
  have halone : v.Alone := hopens.alone hw hcovered
  exact hrun.iff_of_steps_along halone hcovered fun _ _ _ hx he hs => hx.answer he hs

/-! ## 6. The view is released -/

/-- **The activity view is hidden when everything has finished**, unless a kit was accepted.

Whatever operations are started and answered, in any order and with or without a connection: as long
as no upload of the kit is answered with success, the view is hidden whenever nothing waits.  And an
operation that is started while nothing waits, and runs alone, leaves the view hidden exactly if
none of its answers accepts a kit. -/
theorem activity_view_released_iff (hidle : w.Idle) :
    (∀ isConnected,
      machine.RunWhere (fun w e => w.kitIsAccepted e = false) (launch isConnected) w →
        w.activityViewIsHidden = true) ∧
    ∀ e v u, starts e = true → machine.Step w e v →
      machine.RunWhere (fun _ e => answers e = true) v u → u.Idle →
        (u.activityViewIsHidden = true ↔
          machine.RunWhere (fun x e => answers e = true ∧ x.kitIsAccepted e = false) v u) := by
  refine ⟨fun _ hrun => hidden_of_idle hrun hidle, ?_⟩
  intro e v u he hstep hrun hend
  rw [← answers_covered_iff hidle he hstep hrun]
  exact ⟨.inl, fun h => h.hidden_of_idle hend⟩

theorem idle_of_all (h : w.calls.slots.all Option.isNone = true) : w.Idle := by
  intro i
  rw [List.all_eq_true] at h
  unfold Callbacks.waiting
  cases hi : w.calls.slots[i]? with
  | none => rfl
  | some slot => exact Option.isNone_iff_eq_none.mp (h slot (List.mem_of_getElem? hi))

/-- The client's list is answered after the profile, a new picture is sent and the profile fetched
again; and a kit that is refused leaves the view hidden. -/
theorem activity_view_released_refused :
    (∃ w, machine.RunWhere (fun w e => w.kitIsAccepted e = false) (launch true) w ∧
      w.calls.issued = 4 ∧ w.activityViewIsHidden = true) ∧
    ∃ v u, machine.Step (launch true) (.start .uploadKitSize) v ∧ v.activityViewIsHidden = false ∧
      machine.RunWhere (fun _ e => answers e = true) v u ∧ u.activityViewIsHidden = true := by
  constructor
  · obtain ⟨w, hrun, htest⟩ := machine.exists_run_of_replay (fun w e => !w.kitIsAccepted e)
      (launch true)
      [.start .getClientProfileUserInformationAPI, .start .getOnlineProviderList,
        .reply 0 (.success (.obj [("Success", .num 1)])), .reply 1 (.failure (some 500)),
        .btnEditPressed .clientApp, .didFinishPickingMedia 0, .btnSubmitPressed 0,
        .reply 2 (.success (.obj [])), .reply 3 (.success (.obj []))]
      (fun w => w.calls.issued == 4 && w.calls.slots.all Option.isNone)
      (C := fun w e => w.kitIsAccepted e = false) (by simp) (by decide +kernel)
    rw [Bool.and_eq_true, beq_iff_eq] at htest
    exact ⟨w, hrun, htest.1, (activity_view_released_iff (idle_of_all htest.2)).1 true hrun⟩
  · have hidle : (launch true).Idle := fun _ => rfl
    obtain ⟨u, hrun, htest⟩ := machine.exists_run_of_replay
      (fun x e => answers e && !x.kitIsAccepted e) ((launch true).start .uploadKitSize)
      [.reply 0 (.success (.obj [("Success", .num 0)]))] (fun u => u.calls.slots.all Option.isNone)
      (C := fun x e => answers e = true ∧ x.kitIsAccepted e = false) (by simp) (by decide +kernel)
    have hstep : machine.Step (launch true) (.start .uploadKitSize)
        ((launch true).start .uploadKitSize) := rfl
    have hanswers := hrun.mono fun _ _ h => h.1
    refine ⟨_, u, hstep, rfl, hanswers, ?_⟩
    exact ((activity_view_released_iff hidle).2 (.start .uploadKitSize) _ u rfl hstep hanswers
      (idle_of_all htest)).mpr hrun

/-- **A kit that is accepted leaves the view.**  Nothing waits any more, and the view is shown. -/
theorem accepted_kit_keeps_view :
    ∃ w, machine.Run (launch true) w ∧ w.Idle ∧ w.activityViewIsHidden = false := by
  obtain ⟨w, hrun, htest⟩ := machine.exists_run_of_replay (fun _ _ => true) (launch true)
    [.start .uploadKitSize, .reply 0 (.success (.obj [("Success", .num 1)]))]
    (fun w => w.calls.slots.all Option.isNone && !w.activityViewIsHidden)
    (fun _ _ _ => trivial) (by decide +kernel)
  rw [Bool.and_eq_true, Bool.not_eq_true'] at htest
  exact ⟨w, hrun, idle_of_all htest.1, htest.2⟩

end Window

end WeatherAccommodation
