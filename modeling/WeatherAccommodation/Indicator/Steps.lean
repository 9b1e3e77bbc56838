/-
# What an event of the window can do

Handlers come in a few shapes, and what matters of each is said here once: whether the view is
hidden when it returns, and what it calls in its turn (`completion_calls`).  The other modules use
these lemmas and the inversions of the events instead of the handlers.

Only one branch of one handler leaves the view as it is and calls nothing (`uploadKitSize_cases`).
-/
import WeatherAccommodation.Indicator.Window

namespace WeatherAccommodation

open Foundation Reactive

namespace Window

variable {w v : Window}

/-! ## 1. Events -/

theorem tapped_eq_ok {u : Window} :
    w.tapped u = some (.ok v) ↔ w.activityViewIsHidden = true ∧ u = v := by
  unfold tapped
  split
  · rename_i h
    simp [h]
  · rename_i h
    simp [h]

/-- An answer to a request: a failure hides the view, a success is up to the handler. -/
theorem responseJSON_cases {request : Request} {outcome : ClientProviderAPIManager.Outcome}
    (h : w.responseJSON request outcome = some (.ok v)) :
    (∃ code u, outcome = .failure code ∧ w.completion request none = .ok u ∧
        v = u.removeActivityIndicator) ∨
      ∃ response, outcome = .success response ∧ w.completion request (some response) = .ok v := by
  cases outcome with
  | offline => exact absurd h (by simp [responseJSON])
  | failure code =>
    simp only [responseJSON, Option.some.injEq, bind_eq_ok, pure_eq_ok] at h
    obtain ⟨u, hu, rfl⟩ := h
    exact .inl ⟨code, u, rfl, hu, rfl⟩
  | success response =>
    right
    cases response with
    | obj dict => exact ⟨_, rfl, by simpa [responseJSON] using h⟩
    | arr items => exact ⟨_, rfl, by simpa [responseJSON] using h⟩
    | null => exact absurd h (by simp [responseJSON])
    | bool b => exact absurd h (by simp [responseJSON])
    | num q => exact absurd h (by simp [responseJSON])
    | str s => exact absurd h (by simp [responseJSON])

theorem reply_inv {i : Nat} {outcome : ClientProviderAPIManager.Outcome}
    (h : machine.Step w (.reply i outcome) v) :
    ∃ call, w.calls.waiting i = some call ∧
      { w with calls := w.calls.retire i }.answered call outcome = some (.ok v) := by
  have hreact : w.react (.reply i outcome) = some (.ok v) := h
  simp only [react, Option.bind_eq_some_iff] at hreact
  exact hreact

/-- The button of an editor that is in sight. -/
theorem btnSubmitPressed_inv {k : Nat} (h : machine.Step w (.btnSubmitPressed k) v) :
    ∃ editor, w.editors[k]? = some editor ∧ editor.isOnStack = true ∧
      w.activityViewIsHidden = true ∧ v = w.btnSubmitPressed k editor := by
  have hreact : w.react (.btnSubmitPressed k) = some (.ok v) := h
  simp only [react, Option.bind_eq_some_iff] at hreact
  obtain ⟨editor, hk, hreact⟩ := hreact
  split at hreact
  · rename_i hstack
    obtain ⟨hhidden, rfl⟩ := tapped_eq_ok.mp hreact
    exact ⟨editor, hk, hstack, hhidden, rfl⟩
  · exact absurd hreact (by simp)

/-! ## 2. The view after a success -/

section Handlers

variable {response : Json}

theorem hidden_of_removeAfterSuccessCode {accepted refused : Dict → Window → Except Trap Window}
    (h : removeAfterSuccessCode accepted refused w (some response) = .ok v) :
    v.activityViewIsHidden = true := by
  simp only [removeAfterSuccessCode, bind_eq_ok, pure_eq_ok] at h
  obtain ⟨_, _, _, _, u, _, rfl⟩ := h
  rfl

theorem hidden_of_removeOnSuccess {read : Json → Except Trap Unit}
    (h : removeOnSuccess read w (some response) = .ok v) : v.activityViewIsHidden = true := by
  simp only [removeOnSuccess, bind_eq_ok, pure_eq_ok] at h
  obtain ⟨_, _, rfl⟩ := h
  rfl

theorem hidden_of_removeAtEnd {read : Json → Except Trap Unit}
    (h : removeAtEnd read w (some response) = .ok v) : v.activityViewIsHidden = true := by
  simp only [removeAtEnd, bind_eq_ok, pure_eq_ok] at h
  obtain ⟨_, _, rfl⟩ := h
  rfl

/-- The alert after the removal hides the view once more. -/
theorem hidden_of_removeFirst
    (h : removeFirst showAlertOnNavigationBarWith w (some response) = .ok v) :
    v.activityViewIsHidden = true := by
  simp only [removeFirst, pure_eq_ok] at h
  obtain rfl := h
  rfl

/-- The reply says that the request succeeded. -/
def saysSuccess : Json → Bool
  | .obj dict => Dict.int? dict "Success" == some successCode
  | _ => false

theorem saysSuccess_obj {dict : Dict} :
    saysSuccess (.obj dict) = true ↔ Dict.int? dict "Success" = some successCode := by
  simp [saysSuccess]

/-- **The one branch that leaves the view.**  Any other reply to the upload of the kit is shown in
an alert. -/
theorem uploadKitSize_cases (h : w.uploadKitSize (some response) = .ok v) :
    (saysSuccess response = true ∧ v = w) ∨
      (saysSuccess response = false ∧ v = w.showAlertOnNavigationBarWith) := by
  simp only [uploadKitSize, bind_eq_ok, unwrap_eq_ok, Json.asDict?_eq_some,
    forceInt_eq_ok, untouched, alerted] at h
  obtain ⟨dict, rfl, success, hsuccess, h⟩ := h
  split at h
  · rename_i hcode
    left
    exact ⟨saysSuccess_obj.mpr (by rw [hsuccess, hcode]), (pure_eq_ok.mp h).symm⟩
  · rename_i hcode
    right
    refine ⟨?_, (pure_eq_ok.mp h).symm⟩
    simpa [saysSuccess, hsuccess] using hcode

/-- The handler of the details, once it is known whether there is a new picture. -/
theorem profileDetailsReply_cases {k : Nat} (h : w.profileDetailsReply k (some response) = .ok v) :
    v = w.updateProfileImage k ∨ v = w.removeActivityIndicator.popViewController k := by
  simp only [profileDetailsReply] at h
  split at h
  · exact .inl ((pure_eq_ok.mp h).symm)
  · exact .inr ((pure_eq_ok.mp h).symm)

/-- The provider's editor hides the view, the client's leaves it. -/
theorem profileImageReply_cases {k : Nat} (h : w.profileImageReply k (some response) = .ok v) :
    v = w.removeActivityIndicator.popViewController k ∨
      (w.editors[k]?.map ProfileEditor.role ≠ some .providerApp ∧ v = w.popViewController k) := by
  unfold profileImageReply at h
  split at h
  · exact .inl (pure_eq_ok.mp h).symm
  · rename_i hrole
    exact .inr ⟨hrole, (pure_eq_ok.mp h).symm⟩

end Handlers

/-! ## 3. What a handler calls in its turn -/

/-- The calls handlers make: none of them is one that a button or a screen starts with. -/
inductive Chained : Call → Prop
  | getKitSize (screen : KitScreen) : Chained (.request (.of (.getKitSize screen)))
  | getClientDetails : Chained (.request (.of .getClientDetails))
  | getProviderDetails : Chained (.request (.of .getProviderDetails))
  | addStripeCard : Chained (.request .addStripeCard)
  | updateProfileImage (k : Nat) : Chained (.request (.updateProfileImage k))
  | verifyPhonenumberWithFirebase : Chained .verifyPhonenumberWithFirebase

/-- At most one call was made, and it is one that handlers make. -/
def Chains (w v : Window) : Prop :=
  v.calls = w.calls ∨ ∃ call, Chained call ∧ v.calls = w.calls.issue call

theorem Chains.refl (w : Window) : w.Chains w := .inl rfl

/-- The calls are all that is compared. -/
theorem Chains.congr {w' v' : Window} (h : w.Chains v) (hw : w'.calls = w.calls)
    (hv : v'.calls = v.calls) : w'.Chains v' := by
  rcases h with h | ⟨call, hcall, h⟩
  · exact .inl (by rw [hv, h, hw])
  · exact .inr ⟨call, hcall, by rw [hv, h, hw]⟩

theorem chains_getResponse {request : Request} (h : Chained (.request request)) :
    w.Chains (w.getResponse request) := by
  unfold getResponse
  split
  · exact .inr ⟨_, h, rfl⟩
  · exact .inl rfl

theorem chains_start {operation : Operation} (h : Chained (.request (.of operation))) :
    w.Chains (w.start operation) :=
  (chains_getResponse h (w := w.showActivityIndicator)).congr rfl rfl

theorem chains_viewWillAppear (w : Window) : ∀ role, w.Chains (w.viewWillAppear role)
  | .clientApp => chains_start .getClientDetails
  | .providerApp => chains_start .getProviderDetails

theorem chains_popViewController (w : Window) (k : Nat) : w.Chains (w.popViewController k) := by
  unfold popViewController
  split
  · rename_i editor _
    split
    · have happear := chains_viewWillAppear (w.putEditor k { editor with isOnStack := false })
      exact (happear editor.role).congr rfl rfl
    · exact .refl w
  · exact .refl w

/-! The branches of the handlers that test `Success`. -/

/-- A branch makes no call but one of those. -/
def ChainsOnly (branch : Dict → Window → Except Trap Window) : Prop :=
  ∀ dict w v, branch dict w = .ok v → w.Chains v

theorem chainsOnly_alerted : ChainsOnly alerted := by
  intro dict w v h
  obtain rfl : w.showAlertOnNavigationBarWith = v := pure_eq_ok.mp h
  exact .inl rfl

theorem chainsOnly_untouched : ChainsOnly untouched := by
  intro dict w v h
  obtain rfl : w = v := pure_eq_ok.mp h
  exact .refl w

theorem chainsOnly_alertAndVerify : ChainsOnly alertAndVerify := by
  intro dict w v h
  obtain rfl : w.showAlertOnNavigationBarWith.verifyPhonenumberWithFirebase = v := pure_eq_ok.mp h
  exact .inr ⟨_, .verifyPhonenumberWithFirebase, rfl⟩

theorem chainsOnly_checkIsVerified : ChainsOnly checkIsVerified := by
  intro dict w v h
  simp only [checkIsVerified, bind_eq_ok] at h
  obtain ⟨_, _, h⟩ := h
  split at h
  · exact chainsOnly_untouched _ _ _ h
  · exact chainsOnly_alerted _ _ _ h

theorem chainsOnly_verifyOrAlert : ChainsOnly verifyOrAlert := by
  intro dict w v h
  simp only [verifyOrAlert, bind_eq_ok] at h
  obtain ⟨_, _, h⟩ := h
  split at h
  · obtain rfl : w.verifyPhonenumberWithFirebase = v := pure_eq_ok.mp h
    exact .inr ⟨_, .verifyPhonenumberWithFirebase, rfl⟩
  · exact chainsOnly_alerted _ _ _ h

theorem chainsOnly_continueSignIn : ChainsOnly continueSignIn := by
  intro dict w v h
  unfold continueSignIn at h
  split at h
  · simp only [bind_eq_ok] at h
    obtain ⟨_, _, h⟩ := h
    split at h
    · exact chainsOnly_untouched _ _ _ h
    · simp only [bind_eq_ok] at h
      obtain ⟨_, _, h⟩ := h
      split at h
      · exact chainsOnly_untouched _ _ _ h
      · simp only [bind_eq_ok] at h
        obtain ⟨_, _, h⟩ := h
        split at h
        · exact chainsOnly_alerted _ _ _ h
        · exact chainsOnly_untouched _ _ _ h
  · exact chainsOnly_untouched _ _ _ h

/-! The shapes. -/

section Shapes

variable {response : Option Json} {read : Json → Except Trap Unit}

theorem chains_removeAfterSuccessCode {accepted refused : Dict → Window → Except Trap Window}
    (ha : ChainsOnly accepted) (hr : ChainsOnly refused)
    (h : removeAfterSuccessCode accepted refused w response = .ok v) : w.Chains v := by
  cases response with
  | none =>
    obtain rfl : w = v := pure_eq_ok.mp h
    exact .refl w
  | some response =>
    simp only [removeAfterSuccessCode, bind_eq_ok, pure_eq_ok] at h
    obtain ⟨dict, _, success, _, u, hu, rfl⟩ := h
    split at hu
    · exact (ha _ _ _ hu).congr rfl rfl
    · exact (hr _ _ _ hu).congr rfl rfl

theorem chains_removeOnSuccess (h : removeOnSuccess read w response = .ok v) : w.Chains v := by
  cases response with
  | none =>
    obtain rfl : w = v := pure_eq_ok.mp h
    exact .refl w
  | some response =>
    simp only [removeOnSuccess, bind_eq_ok, pure_eq_ok] at h
    obtain ⟨_, _, rfl⟩ := h
    exact .inl rfl

theorem chains_removeAtEnd (h : removeAtEnd read w response = .ok v) : w.Chains v := by
  cases response with
  | none =>
    obtain rfl : w.removeActivityIndicator = v := pure_eq_ok.mp h
    exact .inl rfl
  | some response =>
    simp only [removeAtEnd, bind_eq_ok, pure_eq_ok] at h
    obtain ⟨_, _, rfl⟩ := h
    exact .inl rfl

theorem chains_removeFirst {accepted : Window → Window} (ha : ∀ w : Window, w.Chains (accepted w))
    (h : removeFirst accepted w response = .ok v) : w.Chains v := by
  cases response with
  | none =>
    obtain rfl : w.removeActivityIndicator = v := pure_eq_ok.mp h
    exact .inl rfl
  | some response =>
    obtain rfl : accepted w.removeActivityIndicator = v := pure_eq_ok.mp h
    exact (ha w.removeActivityIndicator).congr rfl rfl

end Shapes

theorem uploadKitSize_calls {response : Option Json} (h : w.uploadKitSize response = .ok v) :
    v.calls = w.calls := by
  cases response with
  | none =>
    obtain rfl : w = v := pure_eq_ok.mp h
    rfl
  | some response =>
    rcases uploadKitSize_cases h with ⟨_, rfl⟩ | ⟨_, rfl⟩
    · rfl
    · rfl

theorem chains_getKit {screen : KitScreen} {response : Option Json}
    (h : w.getKit screen response = .ok v) : w.Chains v := by
  cases response with
  | none =>
    obtain rfl : w = v := pure_eq_ok.mp h
    exact .refl w
  | some response =>
    simp only [getKit, bind_eq_ok, pure_eq_ok] at h
    obtain ⟨_, _, rfl⟩ := h
    exact chains_start (.getKitSize screen)

theorem chains_requestImmediatePayment {response : Option Json}
    (h : w.requestImmediatePayment response = .ok v) : w.Chains v := by
  cases response with
  | none =>
    obtain rfl : w = v := pure_eq_ok.mp h
    exact .refl w
  | some response =>
    obtain rfl : w.showAlertOnNavigationBarWith = v := pure_eq_ok.mp h
    exact .inl rfl

theorem chains_profileDetailsReply {k : Nat} {response : Option Json}
    (h : w.profileDetailsReply k response = .ok v) : w.Chains v := by
  cases response with
  | none =>
    obtain rfl : w = v := pure_eq_ok.mp h
    exact .refl w
  | some response =>
    rcases profileDetailsReply_cases h with rfl | rfl
    · exact chains_getResponse (.updateProfileImage k)
    · exact (chains_popViewController w.removeActivityIndicator k).congr rfl rfl

theorem chains_profileImageReply {k : Nat} {response : Option Json}
    (h : w.profileImageReply k response = .ok v) : w.Chains v := by
  unfold profileImageReply at h
  split at h
  · exact chains_removeFirst (fun w => chains_popViewController w k) h
  · cases response with
    | none =>
      obtain rfl : w = v := pure_eq_ok.mp h
      exact .refl w
    | some response =>
      obtain rfl : w.popViewController k = v := pure_eq_ok.mp h
      exact chains_popViewController w k

/-- **What a handler calls.** -/
theorem completion_calls {request : Request} {response : Option Json}
    (h : w.completion request response = .ok v) : w.Chains v := by
  have halert : ∀ w : Window, w.Chains w.showAlertOnNavigationBarWith := fun _ => .inl rfl
  cases request with
  | postRequest => exact chains_removeAtEnd h
  | addStripeCard => exact chains_removeOnSuccess h
  | updateProfileDetails k => exact chains_profileDetailsReply h
  | updateProfileImage k => exact chains_profileImageReply h
  | of operation =>
    cases operation with
    | callingForgotPasswordWS =>
      exact chains_removeAfterSuccessCode chainsOnly_alertAndVerify chainsOnly_alerted h
    | verifyOTPThroughWS =>
      exact chains_removeAfterSuccessCode chainsOnly_checkIsVerified chainsOnly_alerted h
    | verifyUserThroughWS =>
      exact chains_removeAfterSuccessCode chainsOnly_untouched chainsOnly_alerted h
    | callingRegisterWS =>
      exact chains_removeAfterSuccessCode chainsOnly_alertAndVerify chainsOnly_alerted h
    | callingLoginWS =>
      exact chains_removeAfterSuccessCode chainsOnly_continueSignIn chainsOnly_verifyOrAlert h
    | resetPasswordThroughWS =>
      exact chains_removeAfterSuccessCode chainsOnly_alerted chainsOnly_alerted h
    | getClientProfileUserInformationAPI =>
      exact chains_removeAfterSuccessCode chainsOnly_untouched chainsOnly_untouched h
    | getProviderProfileUserInformationAPI =>
      exact chains_removeAfterSuccessCode chainsOnly_untouched chainsOnly_untouched h
    | uploadImages =>
      exact chains_removeAfterSuccessCode chainsOnly_untouched chainsOnly_alerted h
    | getOnlineProviderList => exact chains_removeAtEnd h
    | cancelRequestThroughWS => exact chains_removeAtEnd h
    | btnPayTipPressed => exact chains_removeFirst halert h
    | submitReview role => exact chains_removeFirst halert h
    | submitSupport => exact chains_removeFirst halert h
    | btnActionPressed isTripStarted => exact chains_removeFirst Chains.refl h
    | uploadSelfie => exact chains_removeOnSuccess h
    | getClientDetails => exact chains_removeOnSuccess h
    | getProviderDetails => exact chains_removeOnSuccess h
    | deleteCardWithAPI => exact chains_removeOnSuccess h
    | getProviderEarning => exact chains_removeOnSuccess h
    | getKitSize screen => exact chains_removeOnSuccess h
    | requestImmediatePayment => exact chains_requestImmediatePayment h
    | getKit screen => exact chains_getKit h
    | uploadKitSize => exact .inl (uploadKitSize_calls h)

/-- **What an answer leads to.** -/
theorem answered_calls {call : Call} {outcome : ClientProviderAPIManager.Outcome}
    (h : w.answered call outcome = some (.ok v)) : w.Chains v := by
  cases call with
  | createToken =>
    cases outcome with
    | offline => exact absurd h (by simp [answered])
    | failure code =>
      obtain rfl : w.removeActivityIndicator = v := by simpa [answered] using h
      exact .inl rfl
    | success response =>
      obtain rfl : w.getResponse .addStripeCard = v := by simpa [answered] using h
      exact chains_getResponse .addStripeCard
  | verifyPhonenumberWithFirebase =>
    cases outcome with
    | offline => exact absurd h (by simp [answered])
    | failure code =>
      obtain rfl : w.showAlertOnNavigationBarWith = v := by simpa [answered] using h
      exact .inl rfl
    | success response =>
      obtain rfl : w = v := by simpa [answered] using h
      exact .refl w
  | request request =>
    rcases responseJSON_cases h with ⟨_, u, _, hu, rfl⟩ | ⟨response, _, h⟩
    · exact (completion_calls hu).congr rfl rfl
    · exact completion_calls h

/-- A call that handlers do not make waits after an answer only if it did before. -/
theorem Chains.waiting {call : Call} (h : w.Chains v) (hcall : ¬Chained call) {i : Nat}
    (hwait : v.calls.waiting i = some call) : w.calls.waiting i = some call := by
  rcases h with h | ⟨c, hc, h⟩
  · rwa [h] at hwait
  · rw [h, Callbacks.waiting_issue] at hwait
    split at hwait
    · obtain rfl : c = call := by simpa using hwait
      exact absurd hc hcall
    · exact hwait

/-- A call that waits still does. -/
theorem Chains.still_waiting {call : Call} (h : w.Chains v) {i : Nat}
    (hwait : w.calls.waiting i = some call) : v.calls.waiting i = some call := by
  rcases h with h | ⟨c, _, h⟩
  · rwa [h]
  · have hi : i ≠ w.calls.issued := (Callbacks.lt_issued_of_waiting hwait).ne
    rw [h, Callbacks.waiting_issue, if_neg hi]
    exact hwait

end Window

end WeatherAccommodation
