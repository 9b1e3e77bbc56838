/-
# Posts of a service request, and what keeps a second one back

A post shows the activity view, and under it no tap arrives.  Nothing else keeps the button from
being pressed twice: the dashboard's own overlay comes with the reply.  So a second post is kept
back for as long as the view stays, and the view is shared.

* **Undisturbed.**  As long as nothing else that hides the view happens while a post waits, the view
  is shown over it and at most one waits (`Guarded.step`).
* **Disturbed.**  When the profile or the list is answered meanwhile, or is asked for without a
  connection, the view goes, the post still waits, and the next tap sends another one
  (`second_post`).

The profile and the list are both asked for when the dashboard comes up, and whichever is answered
first uncovers the button.
-/
import WeatherAccommodation.Client.Steps
import WeatherAccommodation.Indicator.Steps

namespace WeatherAccommodation

open Foundation Reactive

namespace Window

variable {w v : Window} {e : WindowEvent}

/-! ## 1. Posts that wait -/

/-- Call `i` is a post, and not answered yet. -/
def PostWaits (w : Window) (i : Nat) : Prop := w.calls.waiting i = some (.request .postRequest)

/-- Some post waits. -/
def somePostWaits (w : Window) : Bool :=
  w.calls.slots.any fun slot => slot == some (.request .postRequest)

theorem PostWaits.somePostWaits {i : Nat} (h : w.PostWaits i) : w.somePostWaits = true := by
  have hslot : w.calls.slots[i]? = some (some (.request .postRequest)) :=
    Option.join_eq_some_iff.mp h
  rw [Window.somePostWaits, List.any_eq_true]
  exact ⟨_, List.mem_of_getElem? hslot, by simp⟩

theorem exists_postWaits (h : w.somePostWaits = true) : ∃ i, w.PostWaits i := by
  rw [somePostWaits, List.any_eq_true] at h
  obtain ⟨slot, hmem, hslot⟩ := h
  obtain rfl : slot = some (.request .postRequest) := by simpa using hslot
  obtain ⟨i, hi⟩ := List.mem_iff_getElem?.mp hmem
  exact ⟨i, by simp [PostWaits, Callbacks.waiting, hi]⟩

/-- While a post waits, nothing is answered but it, no alert is shown, and nothing is started that
hides the view at once. -/
def undisturbed (w : Window) (e : WindowEvent) : Bool :=
  if w.somePostWaits then
    match e with
    | .reply i _ => decide (w.calls.waiting i = some (.request .postRequest))
    | .start _ => w.isConnected
    | .alert => false
    | _ => true
  else true

/-- The view is shown over a post that waits, and no other post does. -/
def Guarded (w : Window) : Prop :=
  ∀ i, w.PostWaits i → w.activityViewIsHidden = false ∧ ∀ j, w.PostWaits j → j = i

theorem guarded_launch (isConnected : Bool) : (launch isConnected).Guarded := by
  intro i hi
  exact absurd hi (by simp [PostWaits, launch])

/-- Where a tap arrives, no post waits. -/
theorem Guarded.none_waits (hw : w.Guarded) (hhidden : w.activityViewIsHidden = true) (i : Nat) :
    ¬w.PostWaits i := by
  intro hi
  rw [(hw i hi).1] at hhidden
  exact absurd hhidden (by simp)

/-- No post waits, none is made. -/
theorem guarded_of_none (h : ∀ i, ¬w.PostWaits i) : w.Guarded := fun i hi => absurd hi (h i)

/-! ## 2. Undisturbed posts -/

theorem not_chained_post : ¬Chained (.request .postRequest) := by rintro ⟨⟩

/-- A call that is no post leaves the posts that wait. -/
theorem postWaits_await {call : Call} (hcall : call ≠ .request .postRequest) {i : Nat} :
    (w.await call).PostWaits i ↔ w.PostWaits i := by
  unfold PostWaits
  rw [await, Callbacks.waiting_issue]
  split
  · rename_i hi
    constructor
    · exact fun h => absurd (by simpa using h) hcall
    · exact fun h => absurd (Callbacks.lt_issued_of_waiting h) (by omega)
  · exact Iff.rfl

theorem postWaits_getResponse {request : Request} (hrequest : request ≠ .postRequest) {i : Nat} :
    (w.getResponse request).PostWaits i ↔ w.PostWaits i := by
  unfold getResponse
  split
  · exact postWaits_await (by simpa using hrequest)
  · exact Iff.rfl

theorem postWaits_start {operation : Operation} {i : Nat} :
    (w.start operation).PostWaits i ↔ w.PostWaits i :=
  postWaits_getResponse (by simp)

theorem postWaits_btnSubmitPressed {k : Nat} {editor : ProfileEditor} {i : Nat} :
    (w.btnSubmitPressed k editor).PostWaits i ↔ w.PostWaits i := by
  unfold btnSubmitPressed
  split
  · exact postWaits_getResponse (by simp)
  · split
    · exact postWaits_getResponse (by simp)
    · exact Iff.rfl

theorem postWaits_popViewController {k i : Nat} (h : (w.popViewController k).PostWaits i) :
    w.PostWaits i := (chains_popViewController w k).waiting not_chained_post h

/-- A tap that gets through the checks posts once, over no other post. -/
theorem Guarded.sendRequest (hw : w.Guarded) (hhidden : w.activityViewIsHidden = true)
    (dashboard : ClientDashboard) (device : Device) :
    (w.sendRequest dashboard device).Guarded := by
  have hnone : ∀ i, ¬w.PostWaits i := hw.none_waits hhidden
  unfold Window.sendRequest
  cases dashboard.sendRequest device with
  | addCard => exact hw
  | wallet => exact hw
  | noOnlineProviders => exact guarded_of_none hnone
  | locationUnavailable => exact guarded_of_none hnone
  | post =>
    simp only [postRequest, getResponse]
    split
    · have hnew : ∀ j, (w.showActivityIndicator.await (.request .postRequest)).PostWaits j →
          j = w.calls.issued := by
        intro j hj
        by_contra hne
        have hissued : (w.calls.issue (.request .postRequest)).waiting j = _ := hj
        rw [Callbacks.waiting_issue, if_neg hne] at hissued
        exact hnone j hissued
      exact fun i hi => ⟨rfl, fun j hj => (hnew j hj).trans (hnew i hi).symm⟩
    · exact guarded_of_none hnone

/-- **One event.**  An undisturbed one leaves the view over the post that waits. -/
theorem Guarded.step (hw : w.Guarded) (hcond : w.undisturbed e = true)
    (h : machine.Step w e v) : v.Guarded := by
  cases e with
  | connection isConnected =>
    obtain rfl : { w with isConnected := isConnected } = v := by
      simpa [machine, Machine.Step, react] using h
    exact hw
  | clientProviderButtonAction role =>
    obtain ⟨hhidden, rfl⟩ := tapped_eq_ok.mp h
    exact guarded_of_none (hw.none_waits hhidden)
  | start operation =>
    obtain rfl : w.start operation = v := by simpa [machine, Machine.Step, react] using h
    intro i hi
    have hbefore : w.PostWaits i := postWaits_start.mp hi
    have hconnected : w.isConnected = true := by simpa [undisturbed, hbefore.somePostWaits] using hcond
    refine ⟨by simp [Window.start, getResponse, hconnected, showActivityIndicator, await], ?_⟩
    exact fun j hj => (hw i hbefore).2 j (postWaits_start.mp hj)
  | sendRequest dashboard device =>
    obtain ⟨hhidden, rfl⟩ := tapped_eq_ok.mp h
    exact hw.sendRequest hhidden dashboard device
  | btnDonePressed =>
    obtain ⟨hhidden, rfl⟩ := tapped_eq_ok.mp h
    exact guarded_of_none fun i hi => hw.none_waits hhidden i ((postWaits_await (by simp)).mp hi)
  | btnEditPressed role =>
    obtain ⟨hhidden, rfl⟩ := tapped_eq_ok.mp h
    exact guarded_of_none (hw.none_waits hhidden)
  | textFieldDidBeginEditing k =>
    obtain ⟨editor, _, h⟩ := Option.bind_eq_some_iff.mp h
    obtain ⟨hhidden, rfl⟩ := tapped_eq_ok.mp h
    exact guarded_of_none (hw.none_waits hhidden)
  | didFinishPickingMedia k =>
    obtain ⟨editor, _, h⟩ := Option.bind_eq_some_iff.mp h
    obtain ⟨hhidden, rfl⟩ := tapped_eq_ok.mp h
    exact guarded_of_none (hw.none_waits hhidden)
  | btnSubmitPressed k =>
    obtain ⟨editor, _, _, hhidden, rfl⟩ := btnSubmitPressed_inv h
    exact guarded_of_none fun i hi => hw.none_waits hhidden i (postWaits_btnSubmitPressed.mp hi)
  | btnBackPressed k =>
    obtain ⟨hhidden, rfl⟩ := tapped_eq_ok.mp h
    exact guarded_of_none fun i hi =>
      hw.none_waits hhidden i (postWaits_popViewController hi)
  | goBackToMainViewController =>
    obtain ⟨hhidden, rfl⟩ := tapped_eq_ok.mp h
    exact guarded_of_none (hw.none_waits hhidden)
  | alert =>
    obtain rfl : w.showAlertOnNavigationBarWith = v := by
      simpa [machine, Machine.Step, react] using h
    intro i hi
    have hbefore : w.PostWaits i := hi
    exact absurd hcond (by simp [undisturbed, hbefore.somePostWaits])
  | reply k outcome =>
    obtain ⟨call, hwait, hanswer⟩ := reply_inv h
    intro i hi
    have hbefore := (answered_calls hanswer).waiting not_chained_post hi
    rw [Callbacks.waiting_retire] at hbefore
    split at hbefore
    · exact absurd hbefore (by simp)
    · -- A post waits beside the answered call, which was the post itself.
      rename_i hki
      have hpost : w.PostWaits k := by
        have hsome : w.somePostWaits = true := PostWaits.somePostWaits hbefore
        simpa [undisturbed, hsome, PostWaits] using hcond
      exact absurd ((hw i hbefore).2 k hpost) hki

/-! ## 3. Disturbed posts -/

/-- What concerns the dashboard: taps on its button, the connection, its fetches of the profile and
of the list, and the answers to these and to the posts. -/
def ofDashboard (w : Window) : WindowEvent → Bool
  | .sendRequest _ _ | .connection _ => true
  | .start .getClientProfileUserInformationAPI | .start .getOnlineProviderList => true
  | .reply i _ =>
    decide (w.calls.waiting i = some (.request .postRequest)) ||
      decide (w.calls.waiting i = some (.request (.of .getClientProfileUserInformationAPI))) ||
      decide (w.calls.waiting i = some (.request (.of .getOnlineProviderList)))
  | _ => false

/-- The answer to either fetch hides the view. -/
theorem hidden_of_fetched {operation : Operation} {outcome : ClientProviderAPIManager.Outcome}
    (hfetch : operation = .getClientProfileUserInformationAPI ∨ operation = .getOnlineProviderList)
    (h : w.answered (.request (.of operation)) outcome = some (.ok v)) :
    v.activityViewIsHidden = true := by
  rcases responseJSON_cases h with ⟨_, u, _, _, rfl⟩ | ⟨response, _, hdone⟩
  · rfl
  · rcases hfetch with rfl | rfl
    · exact hidden_of_removeAfterSuccessCode hdone
    · exact hidden_of_removeAtEnd hdone

/-- A disturbance uncovers the button over a post that waits. -/
theorem uncovered_of_disturbed (he : w.ofDashboard e = true) (hcond : w.undisturbed e = false)
    (h : machine.Step w e v) : v.activityViewIsHidden = true ∧ ∃ i, v.PostWaits i := by
  unfold undisturbed at hcond
  split at hcond
  · rename_i hsome
    obtain ⟨i, hi⟩ := exists_postWaits hsome
    cases e with
    | start operation =>
      obtain rfl : w.start operation = v := by simpa [machine, Machine.Step, react] using h
      have hoffline : w.isConnected = false := hcond
      refine ⟨?_, i, postWaits_start.mpr hi⟩
      simp [Window.start, getResponse, showActivityIndicator, hoffline, removeActivityIndicator]
    | reply k outcome =>
      obtain ⟨call, hwait, hanswer⟩ := reply_inv h
      have hcall : call ≠ .request .postRequest := by
        simpa [hwait] using hcond
      have hki : k ≠ i := by
        rintro rfl
        unfold PostWaits at hi
        rw [hwait] at hi
        exact hcall (Option.some.inj hi)
      refine ⟨?_, i, ?_⟩
      · simp only [ofDashboard, hwait, Bool.or_eq_true, decide_eq_true_eq, Option.some.injEq] at he
        rcases he with (he | rfl) | rfl
        · exact absurd he hcall
        · exact hidden_of_fetched (.inl rfl) hanswer
        · exact hidden_of_fetched (.inr rfl) hanswer
      · refine (answered_calls hanswer).still_waiting ?_
        rw [Callbacks.waiting_retire, if_neg hki]
        exact hi
    | alert => exact absurd he (by simp [ofDashboard])
    | _ => exact absurd hcond (by simp)
  · exact absurd hcond (by simp)

/-- What the user can do alone. -/
def taps : WindowEvent → Bool
  | .sendRequest _ _ | .connection _ => true
  | _ => false

theorem undisturbed_of_taps (he : taps e = true) : w.undisturbed e = true := by
  unfold undisturbed
  split
  · cases e with
    | connection isConnected => rfl
    | sendRequest dashboard device => rfl
    | _ => exact absurd he (by simp [taps])
  · rfl

/-- A dashboard with a provider in reach, on a device with a card. -/
def readyDashboard : ClientDashboard where
  clientLocation := some ⟨40, -73⟩
  arrOnlineProviders := [{
    providerId := 16
    latitude := "40.001"
    longitude := "-73"
    status := ProviderStatus.connected }]

theorem readyDashboard_posts :
    ClientDashboard.sendRequest ClientSession.sampleDevice readyDashboard = .post := by
  decide +kernel

/-- No two posts wait. -/
def AtMostOnePost (w : Window) : Prop := ∀ i j, w.PostWaits i → w.PostWaits j → i = j

theorem Guarded.atMostOnePost (hw : w.Guarded) : w.AtMostOnePost :=
  fun i j hi hj => ((hw i hi).2 j hj).symm

/-- **The next tap posts again**, as soon as there is a connection. -/
theorem second_post {i : Nat} (hhidden : w.activityViewIsHidden = true) (hi : w.PostWaits i) :
    ∃ u, machine.RunWhere (fun _ e => taps e = true) w u ∧ ¬u.AtMostOnePost := by
  have honline : machine.Step w (.connection true) { w with isConnected := true } := rfl
  have htap : machine.Step { w with isConnected := true }
      (.sendRequest readyDashboard ClientSession.sampleDevice)
      ({ w with isConnected := true }.showActivityIndicator.await (.request .postRequest)) := by
    refine tapped_eq_ok.mpr ⟨hhidden, ?_⟩
    simp [sendRequest, readyDashboard_posts, postRequest, getResponse, showActivityIndicator]
  have hrun : machine.RunWhere (fun _ e => taps e = true) w
      ({ w with isConnected := true }.showActivityIndicator.await (.request .postRequest)) := by
    refine .tail (.tail .refl ?_ honline) ?_ htap
    · rfl
    · rfl
  have hold : i ≠ w.calls.issued := (Callbacks.lt_issued_of_waiting hi).ne
  refine ⟨_, hrun, fun hone => hold (hone i w.calls.issued ?_ ?_)⟩
  · have hissued : (w.calls.issue (.request .postRequest)).waiting i = w.calls.waiting i := by
      rw [Callbacks.waiting_issue, if_neg hold]
    exact hissued.trans hi
  · have hissued : (w.calls.issue (.request .postRequest)).waiting w.calls.issued =
        some (.request .postRequest) := by
      rw [Callbacks.waiting_issue, if_pos rfl]
    exact hissued

/-! ## 4. At most one post -/

theorem guarded_of_run {isConnected : Bool}
    (hrun : machine.RunWhere (fun w e => w.undisturbed e = true) (launch isConnected) w) :
    w.Guarded :=
  hrun.invariant (guarded_launch isConnected) fun _ _ _ hw hcond hstep => hw.step hcond hstep

/-- Taps alone send no second post past the view. -/
theorem Guarded.taps {u : Window} (hw : w.Guarded)
    (hrun : machine.RunWhere (fun _ e => taps e = true) w u) : u.Guarded :=
  hrun.invariant hw fun _ _ _ hw he hstep => hw.step (undisturbed_of_taps he) hstep

/-- **At most one request post is in flight**, as long as nothing else hides the view meanwhile.

In a run that is undisturbed no two posts ever wait at a time.  And a step of the dashboard's keeps
it so, whatever is tapped afterwards, exactly if it does not disturb a post that waits. -/
theorem one_request_post_iff {isConnected : Bool}
    (hrun : machine.RunWhere (fun w e => w.undisturbed e = true) (launch isConnected) w) :
    w.AtMostOnePost ∧
      ∀ e v, w.ofDashboard e = true → machine.Step w e v →
        ((∀ u, machine.RunWhere (fun _ e => taps e = true) v u → u.AtMostOnePost) ↔
          w.undisturbed e = true) := by
  have hw : w.Guarded := guarded_of_run hrun
  refine ⟨hw.atMostOnePost, ?_⟩
  intro e v he hstep
  constructor
  · intro hsafe
    by_contra hcond
    rw [Bool.not_eq_true] at hcond
    obtain ⟨hhidden, i, hi⟩ := uncovered_of_disturbed he hcond hstep
    obtain ⟨u, htaps, hmore⟩ := second_post hhidden hi
    exact hmore (hsafe u htaps)
  · intro hcond u htaps
    exact ((hw.step hcond hstep).taps htaps).atMostOnePost

/-- The profile and the list are fetched, a post is sent and answered, and nothing came between. -/
theorem one_request_post_undisturbed :
    ∃ w, machine.RunWhere (fun w e => w.undisturbed e = true) (launch true) w ∧
      w.calls.issued = 4 ∧ w.AtMostOnePost := by
  obtain ⟨w, hrun, htest⟩ := machine.exists_run_of_replay (fun w e => w.undisturbed e) (launch true)
    [.start .getClientProfileUserInformationAPI, .start .getOnlineProviderList,
      .reply 0 (.success (.obj [("Success", .num 1)])), .reply 1 (.failure (some 500)),
      .sendRequest readyDashboard ClientSession.sampleDevice, .reply 2 (.failure none),
      .sendRequest readyDashboard ClientSession.sampleDevice]
    (fun w => w.calls.issued == 4) (fun _ _ => id) (by decide +kernel)
  exact ⟨w, hrun, beq_iff_eq.mp htest, (one_request_post_iff hrun).1⟩

/-- **A second post before the first is answered.**  The list is answered, a request is tapped, the
profile is answered, and a request is tapped again. -/
theorem profile_uncovers_request :
    ∃ w, machine.RunWhere (fun w e => w.ofDashboard e = true) (launch true) w ∧
      w.PostWaits 2 ∧ w.PostWaits 3 := by
  obtain ⟨w, hrun, htest⟩ := machine.exists_run_of_replay (fun w e => w.ofDashboard e)
    (launch true)
    [.start .getClientProfileUserInformationAPI, .start .getOnlineProviderList,
      .reply 1 (.success (.obj [("OnlineProviderList",
        .arr [.obj (ClientDashboard.statusOf 16 "40.001" "-73" "connected")])])),
      .sendRequest readyDashboard ClientSession.sampleDevice,
      .reply 0 (.success (.obj [("Success", .num 1)])),
      .sendRequest readyDashboard ClientSession.sampleDevice]
    (fun w => w.calls.waiting 2 == some (.request .postRequest) &&
      w.calls.waiting 3 == some (.request .postRequest)) (fun _ _ => id) (by decide +kernel)
  rw [Bool.and_eq_true, beq_iff_eq, beq_iff_eq] at htest
  exact ⟨w, hrun, htest.1, htest.2⟩

end Window

end WeatherAccommodation
