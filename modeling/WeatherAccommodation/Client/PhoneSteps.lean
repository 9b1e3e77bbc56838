/-
# What one step of the client's phone can do

The inversion lemmas for the handlers of `Phone.lean`, put together by `step_inv` in the manner
of `AppSteps.lean`.  An event of the app is a step of the app, followed; a message and a location
are what the delegate makes of them.
-/
import WeatherAccommodation.Client.AppSteps
import WeatherAccommodation.Client.Moves
import WeatherAccommodation.Client.Phone

namespace WeatherAccommodation

open Foundation Reactive

/-! ## 1. A sheet that cannot be presented -/

namespace ClientSession

variable {distance : CLLocation → CLLocation → ℚ} {s t : ClientSession}

/-- A trip with a sheet is resumed without the sheet; a trip screen cannot be. -/
theorem lateTripExists_inv (h : s.lateTripExists = .ok t) :
    ∃ trip userID, s.device.appDelegate.clientExistingTrip = some trip ∧
      s.device.userID .clientApp = .ok userID ∧ t = (s.resume trip userID).timerAction := by
  simp only [lateTripExists, bind_eq_ok, unwrap_eq_ok] at h
  obtain ⟨trip, htrip, userID, hid, h⟩ := h
  refine ⟨trip, userID, htrip, hid, ?_⟩
  split at h
  · simp only [bind_eq_ok, pure_eq_ok] at h
    obtain ⟨_, _, rfl⟩ := h
    rfl
  · exact absurd h (by simp)

/-- The list came too late: the connection of the trip is opened, and the dashboard listens. -/
theorem lateProviderList_inv {response : Dict}
    (h : s.lateProviderList distance response = .ok t) :
    ∃ userID, s.device.userID .clientApp = .ok userID ∧ t.face = { s.face with
      sockets := resumedSockets s.sockets userID .dashboard } := by
  simp only [lateProviderList, bind_eq_ok, unwrap_eq_ok] at h
  obtain ⟨items, _, d, happend, hcheck⟩ := h
  obtain ⟨ps, ms, rfl⟩ := ClientDashboard.appendOnlineProviders_frame happend
  obtain ⟨trip, userID, _, hid, rfl⟩ := lateTripExists_inv hcheck
  exact ⟨userID, hid, rfl⟩

/-- The distance came too late: only markers change, and the overlay goes. -/
theorem lateDistanceReply_inv {dict values : Dict} (h : s.lateDistanceReply dict values = .ok t) :
    t.face = s.face := by
  simp only [lateDistanceReply, lateEnterTrip, bind_eq_ok, unwrap_eq_ok, forceInt_eq_ok,
    pure_eq_ok] at h
  obtain ⟨_, ⟨_, _, _, _, _, _, rfl⟩, _, _, _, _, rfl⟩ := h
  rfl

end ClientSession

namespace ClientPhone

variable {distance : CLLocation → CLLocation → ℚ} {p q : ClientPhone}

/-! ## 2. Sheet and trip screen -/

/-- The phone after the sheet has made way for the trip screen. -/
theorem enterClientTrip_inv {j : Nat} {sheet : TripProviderDetail}
    (h : p.enterClientTrip j sheet = .ok q) :
    sheet.isPresented = true ∧ q = (p.dismissFrom j sheet).pushTrip
      { currentRequest := sheet.currentRequest, tripStartDate := p.doesRequestExist } := by
  simp only [enterClientTrip, ClientTrip.viewDidLoad, bind_eq_ok, unwrap_eq_ok, pure_eq_ok] at h
  obtain ⟨_, hpresented, screen, hscreen, rfl⟩ := h
  have hsheet : sheet.isPresented = true := by
    by_contra hnot
    simp [hnot] at hpresented
  refine ⟨hsheet, ?_⟩
  split at hscreen
  · rename_i hflag
    simp only [bind_eq_ok, pure_eq_ok] at hscreen
    obtain ⟨_, _, rfl⟩ := hscreen
    rw [hflag]
  · rename_i hflag
    rw [pure_eq_ok] at hscreen
    subst hscreen
    simp [hflag]

/-- A location update reaches the dashboard below, or nobody. -/
theorem receivingLocationUpdate_inv {sheet : TripProviderDetail} {text : Message}
    (h : p.receivingLocationUpdate distance sheet text = .ok q) :
    q = p ∨ ∃ b, (ClientApp.machine distance).Step p.app
      (.session sheet.delegate (.receivingLocationUpdate text)) b ∧ q = { p with app := b } := by
  unfold receivingLocationUpdate at h
  split at h
  · rename_i r hr
    simp only [bind_eq_ok, pure_eq_ok] at h
    obtain ⟨b, rfl, rfl⟩ := h
    exact Or.inr ⟨b, hr, rfl⟩
  · rw [pure_eq_ok] at h
    exact Or.inl h.symm

/-- The type of a message. -/
def hasType (text : Message) (requestType : String) : Prop :=
  ∃ dict, text = some (.obj dict) ∧ Dict.string? dict "RequestType" = some requestType

/-- The tests of the sheet, on a type that is known. -/
def reactionTo (flag : Bool) (requestType : String) : DetailReaction :=
  if requestType == Request_Status.reached then .reached
  else if requestType == Trip_Status.cancelled then .cancelled
  else if requestType == Request_Status.locationUpdated then .locationUpdated
  else if requestType == Request_Status.started then (if flag then .started else .nothing)
  else .nothing

@[simp] theorem reactionTo_reached (flag : Bool) :
    reactionTo flag Request_Status.reached = .reached := by
  cases flag <;> decide +kernel

@[simp] theorem reactionTo_locationUpdated (flag : Bool) :
    reactionTo flag Request_Status.locationUpdated = .locationUpdated := by
  cases flag <;> decide +kernel

/-- With the flag down a sheet makes nothing of a start, with the flag up it opens the trip. -/
@[simp] theorem reactionTo_started (flag : Bool) :
    reactionTo flag Request_Status.started = if flag then .started else .nothing := by
  cases flag <;> decide +kernel

/-- A text of a known type: each test is a comparison with that type. -/
theorem reaction_of_hasType {text : Message} {requestType : String} (h : hasType text requestType)
    (flag : Bool) : TripProviderDetail.reaction flag text = .ok (reactionTo flag requestType) := by
  obtain ⟨dict, rfl, htype⟩ := h
  have htest : ∀ value, hasText dict "RequestType" value = .ok (requestType == value) :=
    hasText_of_string? htype
  unfold TripProviderDetail.reaction reactionTo
  simp only [messageDict_obj, htest, bind, Except.bind, pure, Except.pure]
  split_ifs <;> rfl

/-- What the text asks of the sheet is read off its type. -/
theorem reaction_inv {flag : Bool} {text : Message} {r : DetailReaction}
    (h : TripProviderDetail.reaction flag text = .ok r) :
    r = .nothing ∨ (r = .reached ∧ hasType text Request_Status.reached) ∨
      (r = .cancelled ∧ hasType text Trip_Status.cancelled) ∨
      (r = .locationUpdated ∧ hasType text Request_Status.locationUpdated) ∨
      (r = .started ∧ flag = true ∧ hasType text Request_Status.started) := by
  simp only [TripProviderDetail.reaction, bind_eq_ok] at h
  obtain ⟨o, ho, h⟩ := h
  cases o with
  | none =>
    rw [pure_eq_ok] at h
    exact Or.inl h.symm
  | some dict =>
    have hobj : text = some (.obj dict) := eq_obj_of_messageDict ho
    simp only [bind_eq_ok] at h
    obtain ⟨reached, hreached, h⟩ := h
    split at h
    · rename_i hyes
      rw [hyes] at hreached
      rw [pure_eq_ok] at h
      exact Or.inr (Or.inl ⟨h.symm, dict, hobj, hasText_eq_true.mp hreached⟩)
    · simp only [bind_eq_ok] at h
      obtain ⟨cancelled, hcancelled, h⟩ := h
      split at h
      · rename_i hyes
        rw [hyes] at hcancelled
        rw [pure_eq_ok] at h
        exact Or.inr (Or.inr (Or.inl ⟨h.symm, dict, hobj, hasText_eq_true.mp hcancelled⟩))
      · simp only [bind_eq_ok] at h
        obtain ⟨located, hlocated, h⟩ := h
        split at h
        · rename_i hyes
          rw [hyes] at hlocated
          rw [pure_eq_ok] at h
          exact Or.inr (Or.inr (Or.inr (Or.inl ⟨h.symm, dict, hobj, hasText_eq_true.mp hlocated⟩)))
        · simp only [bind_eq_ok] at h
          obtain ⟨started, hstarted, h⟩ := h
          split at h
          · rename_i hyes
            rw [hyes] at hstarted
            rw [pure_eq_ok] at h
            cases flag with
            | true =>
              have htype : hasType text Request_Status.started :=
                ⟨dict, hobj, hasText_eq_true.mp hstarted⟩
              exact Or.inr (Or.inr (Or.inr (Or.inr ⟨h.symm, rfl, htype⟩)))
            | false => exact Or.inl h.symm
          · rw [pure_eq_ok] at h
            exact Or.inl h.symm

/-- What the sheet makes of a message. -/
inductive SheetReacts (distance : CLLocation → CLLocation → ℚ) (p q : ClientPhone) (j : Nat)
    (sheet : TripProviderDetail) (text : Message) : Prop where
  | nothing (after : q = p)
  | reached (type : hasType text Request_Status.reached) (presented : sheet.isPresented = true)
      (after : q = (p.dismissFrom j sheet).pushTrip
        { currentRequest := sheet.currentRequest, tripStartDate := p.doesRequestExist })
  | cancelled (type : hasType text Trip_Status.cancelled) (after : q = p.dismissFrom j sheet)
  | located {b : ClientApp} (step : (ClientApp.machine distance).Step p.app
        (.session sheet.delegate (.receivingLocationUpdate text)) b)
      (after : q = { p with app := b })
  | started (type : hasType text Request_Status.started) (flag : p.doesRequestExist = true)
      (presented : sheet.isPresented = true)
      (after : q = ((p.setFlag false).dismissFrom j sheet).pushTrip
        { currentRequest := sheet.currentRequest })

theorem sheetMessage_inv {j socket : Nat} {sheet : TripProviderDetail} {text : Message}
    (h : p.sheetMessage distance j sheet socket text = .ok q) :
    q = p ∨ (p.app.sockets.clientproviderRequestSocket = some socket ∧
      SheetReacts distance p q j sheet text) := by
  unfold sheetMessage at h
  split at h
  · rename_i hsocket
    simp only [bind_eq_ok] at h
    obtain ⟨r, hr, h⟩ := h
    refine Or.inr ⟨hsocket, ?_⟩
    rcases reaction_inv hr with rfl | ⟨rfl, htype⟩ | ⟨rfl, htype⟩ | ⟨rfl, htype⟩ |
      ⟨rfl, hflag, htype⟩
    · simp only [pure_eq_ok] at h
      exact .nothing h.symm
    · obtain ⟨hpresented, rfl⟩ := enterClientTrip_inv h
      exact .reached htype hpresented rfl
    · simp only [pure_eq_ok] at h
      exact .cancelled htype h.symm
    · rcases receivingLocationUpdate_inv h with rfl | ⟨b, hb, rfl⟩
      · exact .nothing rfl
      · exact .located hb rfl
    · obtain ⟨hpresented, rfl⟩ := enterClientTrip_inv h
      exact .started htype hflag hpresented rfl
  · rw [pure_eq_ok] at h
    exact Or.inl h.symm

/-- A start or an end is noted on the trip screen. -/
theorem tripMessage_inv {k socket : Nat} {screen : ClientTrip} {text : Message}
    {inBackground : Bool} (h : p.tripMessage k screen socket text inBackground = .ok q) :
    q = p ∨ (p.app.sockets.clientproviderRequestSocket = some socket ∧ ∃ screen',
      screen.requestMessage text inBackground = .ok screen' ∧ q = p.putTrip k screen') := by
  unfold tripMessage at h
  split at h
  · rename_i hsocket
    simp only [bind_eq_ok, pure_eq_ok] at h
    obtain ⟨screen', hscreen, rfl⟩ := h
    exact Or.inr ⟨hsocket, screen', hscreen, rfl⟩
  · rw [pure_eq_ok] at h
    exact Or.inl h.symm

/-- To whom a message goes. -/
inductive Delivers (distance : CLLocation → CLLocation → ℚ) (p q : ClientPhone) (socket : Nat)
    (text : Message) (inBackground : Bool) : Prop where
  | dashboard {i : Nat} {b : ClientApp} (owner : p.socketOwner = some (.dashboard i))
      (step : (ClientApp.machine distance).Step p.app (.session i (.onMessage socket text)) b)
      (after : q = { p with app := b })
  | sheet {j : Nat} {sheet : TripProviderDetail}
      (owner : p.socketOwner = some (.providerDetail j)) (listed : p.sheets[j]? = some sheet)
      (handled : p.sheetMessage distance j sheet socket text = .ok q)
  | trip {k : Nat} {screen : ClientTrip} (owner : p.socketOwner = some (.clientTrip k))
      (listed : p.trips[k]? = some screen)
      (handled : p.tripMessage k screen socket text inBackground = .ok q)

theorem onMessage_inv {socket : Nat} {text : Message} {inBackground : Bool}
    (h : p.onMessage distance socket text inBackground = some (.ok q)) :
    Delivers distance p q socket text inBackground := by
  unfold onMessage at h
  split at h
  · rename_i i howner
    obtain ⟨b, hb, rfl⟩ := handled_eq_ok.mp h
    exact .dashboard howner hb rfl
  · rename_i j howner
    obtain ⟨sheet, hsheet, h⟩ := Option.map_eq_some_iff.mp h
    exact .sheet howner hsheet h
  · rename_i k howner
    obtain ⟨screen, hscreen, h⟩ := Option.map_eq_some_iff.mp h
    exact .trip howner hscreen h
  · exact absurd h (by simp)

/-! ## 3. Locations and cancellations -/

/-- A location reaches the delegate, if there is one. -/
inductive Tells (distance : CLLocation → CLLocation → ℚ) (p q : ClientPhone) (l : CLLocation) :
    Prop where
  | dashboard {i : Nat} {b : ClientApp} (owner : p.locationOwner = some (.dashboard i))
      (step : (ClientApp.machine distance).Step p.app (.session i (.tracingLocation l)) b)
      (after : q = { p with lastLocation := some l, app := b })
  | sheet {j : Nat} {sheet : TripProviderDetail}
      (owner : p.locationOwner = some (.providerDetail j)) (listed : p.sheets[j]? = some sheet)
      (after : q = { p with lastLocation := some l }.putSheet j (sheet.tracingLocation l))
  | alert {m : Nat} {alert : RequestCancelAlert}
      (owner : p.locationOwner = some (.cancelAlert m)) (listed : p.alerts[m]? = some alert)
      (after : q = { p with
        lastLocation := some l
        alerts := p.alerts.set m (alert.tracingLocation l) })
  | nobody (noDashboard : ∀ i, p.locationOwner = some (.dashboard i) →
        ClientApp.react distance p.app (.session i (.tracingLocation l)) = none)
      (after : q = { p with lastLocation := some l })

theorem tellOwner_inv {l : CLLocation}
    (h : { p with lastLocation := some l }.tellOwner distance l = .ok q) :
    Tells distance p q l := by
  unfold tellOwner at h
  split at h
  · rename_i i howner
    have howner' : p.locationOwner = some (.dashboard i) := howner
    split at h
    · rename_i r hr
      simp only [bind_eq_ok, pure_eq_ok] at h
      obtain ⟨b, rfl, rfl⟩ := h
      exact .dashboard howner' hr rfl
    · rename_i hr
      rw [pure_eq_ok] at h
      refine .nobody (fun i' hi' => ?_) h.symm
      obtain rfl : i = i' := by simpa using howner'.symm.trans hi'
      exact hr
  · rename_i j howner
    have howner' : p.locationOwner = some (.providerDetail j) := howner
    split at h
    · rename_i sheet hsheet
      rw [pure_eq_ok] at h
      exact .sheet howner' hsheet h.symm
    · rw [pure_eq_ok] at h
      exact .nobody (fun i hi => absurd (howner'.symm.trans hi) (by simp)) h.symm
  · rename_i m howner
    have howner' : p.locationOwner = some (.cancelAlert m) := howner
    split at h
    · rename_i alert halert
      rw [pure_eq_ok] at h
      exact .alert howner' halert h.symm
    · rw [pure_eq_ok] at h
      exact .nobody (fun i hi => absurd (howner'.symm.trans hi) (by simp)) h.symm
  · rename_i hother _ _
    rw [pure_eq_ok] at h
    exact .nobody (fun i hi => absurd hi (hother i)) h.symm

theorem write_inv {frame : TripCancelFrame} (h : p.write frame = .ok q) :
    ∃ socket, p.app.sockets.clientproviderRequestSocket = some socket ∧
      q = { p with frames := p.frames ++ [(socket, frame)] } := by
  simp only [write, bind_eq_ok, unwrap_eq_ok, pure_eq_ok] at h
  obtain ⟨socket, hsocket, rfl⟩ := h
  exact ⟨socket, hsocket, rfl⟩

/-- The frame names the ids of the trip. -/
def Names (frame : TripCancelFrame) (trip : Dict) : Prop :=
  Dict.get? trip "ClientId" = some frame.clientId ∧ Dict.get? trip "TripId" = some frame.tripId ∧
    Dict.get? trip "ProviderId" = some frame.providerId

theorem cancelTrip_inv {j : Nat} {sheet : TripProviderDetail} (h : p.cancelTrip j sheet = .ok q) :
    ∃ socket frame, (p.app.sockets.clientproviderRequestSocket = some socket ∧
        Names frame sheet.currentRequest) ∧
      q = { p with
        frames := p.frames ++ [(socket, frame)]
        sheets := p.sheets.set j sheet.dismiss } := by
  simp only [cancelTrip, TripProviderDetail.cancelFrame, bind_eq_ok, forceKey_eq_ok,
    pure_eq_ok] at h
  obtain ⟨frame, ⟨clientId, hclient, tripId, htrip, providerId, hprovider, rfl⟩, p', hwrite, rfl⟩ :=
    h
  obtain ⟨socket, hsocket, rfl⟩ := write_inv hwrite
  exact ⟨socket, _, ⟨hsocket, hclient, htrip, hprovider⟩, rfl⟩

theorem btnSubmitPressed_inv {alert : RequestCancelAlert} {noShow dismisses : Bool}
    (h : p.btnSubmitPressed alert noShow dismisses = .ok q) :
    ∃ socket frame, (p.app.sockets.clientproviderRequestSocket = some socket ∧
        Names frame alert.currentRequest) ∧
      q = { p with
        frames := p.frames ++ [(socket, frame)]
        sheets := if dismisses then p.sheets.map TripProviderDetail.dismiss else p.sheets
        alert := none } := by
  simp only [btnSubmitPressed, bind_eq_ok, forceKey_eq_ok, pure_eq_ok] at h
  obtain ⟨clientId, hclient, tripId, htrip, providerId, hprovider, p', hwrite, rfl⟩ := h
  obtain ⟨socket, hsocket, rfl⟩ := write_inv hwrite
  exact ⟨socket, _, ⟨hsocket, hclient, htrip, hprovider⟩, rfl⟩

/-! ## 4. Event by event -/

/-- What the event leaves behind. -/
def StepOf (distance : CLLocation → CLLocation → ℚ) (p q : ClientPhone) : ClientPhoneEvent → Prop
  | .app e =>
    p.admits e = true ∧ ∃ b, (ClientApp.machine distance).Step p.app e b ∧ q = p.follow e b
  | .tripStatusReply existing => q = p.tripStatusReply existing
  | .didUpdateLocations l => Tells distance p q l
  | .onMessage socket text inBackground => Delivers distance p q socket text inBackground
  | .lateProviderList i call response =>
    ∃ s t, p.app.sessions[i]? = some s ∧
      { p.app.lend s with listCalls := s.listCalls.retire call }.lateProviderList distance
        response = .ok t ∧
      q = { p with app := p.app.store i t, socketOwner := some (.dashboard i) }
  | .lateDistance i call values =>
    ∃ s t dict, p.app.sessions[i]? = some s ∧
      { p.app.lend s with distanceCalls := s.distanceCalls.retire call }.lateDistanceReply dict
        values = .ok t ∧
      q = { p with app := p.app.store i t }
  | .showDashboard i => q = p.showDashboard i
  | .pushOther => q = { p with stack := .other :: p.stack }
  | .popViewController => q = p.pop
  | .cancelRequest j sinceAccepted =>
    ∃ sheet, p.sheets[j]? = some sheet ∧ sheet.isPresented = true ∧
      q = p.cancelRequest sheet sinceAccepted
  | .cancelTrip j =>
    ∃ sheet, p.sheets[j]? = some sheet ∧ sheet.isPresented = true ∧ p.cancelTrip j sheet = .ok q
  | .leftBarItemDidTap j =>
    ∃ sheet, p.sheets[j]? = some sheet ∧ sheet.isPresented = true ∧ p.alert = none ∧
      q = p.putSheet j sheet.dismiss
  | .dismissAlert => q = { p with alert := none }
  | .btnSubmitPressed noShow dismisses =>
    ∃ m alert, p.alert = some m ∧ p.alerts[m]? = some alert ∧
      p.btnSubmitPressed alert noShow dismisses = .ok q
  | .submitReview k => q = { p with reviewCalls := p.reviewCalls.issue k }
  | .reviewReply call =>
    ∃ k, q = { p with reviewCalls := p.reviewCalls.retire call }.reviewReply k

/-- **The inversion lemma of the phone.** -/
theorem step_inv {e : ClientPhoneEvent} (h : (machine distance).Step p e q) :
    StepOf distance p q e := by
  have h' : react distance p e = some (.ok q) := h
  cases e with
  | app e =>
    simp only [react] at h'
    split at h'
    · rename_i hadmits
      obtain ⟨b, hb, rfl⟩ := handled_eq_ok.mp h'
      exact ⟨hadmits, b, hb, rfl⟩
    · exact absurd h' (by simp)
  | tripStatusReply existing => exact (Except.ok.inj (Option.some.inj h')).symm
  | didUpdateLocations l => exact tellOwner_inv (Option.some.inj h')
  | onMessage socket text inBackground => exact onMessage_inv h'
  | lateProviderList i call response =>
    simp only [react] at h'
    split at h'
    · exact absurd h' (by simp)
    · simp only [Option.bind_eq_some_iff, Option.map_eq_some_iff] at h'
      obtain ⟨s, hs, _, _, h'⟩ := h'
      obtain ⟨t, ht, rfl⟩ := map_eq_ok.mp h'
      exact ⟨s, t, hs, ht, rfl⟩
  | lateDistance i call values =>
    simp only [react] at h'
    split at h'
    · simp only [Option.bind_eq_some_iff, Option.map_eq_some_iff] at h'
      obtain ⟨s, hs, dict, _, h'⟩ := h'
      obtain ⟨t, ht, rfl⟩ := map_eq_ok.mp h'
      exact ⟨s, t, dict, hs, ht, rfl⟩
    · exact absurd h' (by simp)
  | showDashboard i =>
    simp only [react] at h'
    split at h'
    · exact (Except.ok.inj (Option.some.inj h')).symm
    · exact absurd h' (by simp)
  | pushOther =>
    simp only [react] at h'
    split at h'
    · exact absurd h' (by simp)
    · exact (Except.ok.inj (Option.some.inj h')).symm
  | popViewController =>
    simp only [react] at h'
    split at h'
    · exact absurd h' (by simp)
    · exact (Except.ok.inj (Option.some.inj h')).symm
  | cancelRequest j sinceAccepted =>
    simp only [react, Option.bind_eq_some_iff] at h'
    obtain ⟨sheet, hsheet, h'⟩ := h'
    split at h'
    · rename_i hpresented
      exact ⟨sheet, hsheet, hpresented.1, (Except.ok.inj (Option.some.inj h')).symm⟩
    · exact absurd h' (by simp)
  | cancelTrip j =>
    simp only [react, Option.bind_eq_some_iff] at h'
    obtain ⟨sheet, hsheet, h'⟩ := h'
    split at h'
    · rename_i hpresented
      exact ⟨sheet, hsheet, hpresented.1, Option.some.inj h'⟩
    · exact absurd h' (by simp)
  | leftBarItemDidTap j =>
    simp only [react, Option.bind_eq_some_iff] at h'
    obtain ⟨sheet, hsheet, h'⟩ := h'
    split at h'
    · rename_i hpresented
      exact ⟨sheet, hsheet, hpresented.1, hpresented.2, (Except.ok.inj (Option.some.inj h')).symm⟩
    · exact absurd h' (by simp)
  | dismissAlert =>
    simp only [react] at h'
    split at h'
    · exact absurd h' (by simp)
    · exact (Except.ok.inj (Option.some.inj h')).symm
  | btnSubmitPressed noShow dismisses =>
    simp only [react, Option.map_eq_some_iff, Option.bind_eq_some_iff] at h'
    obtain ⟨alert, ⟨m, hm, halert⟩, h'⟩ := h'
    exact ⟨m, alert, hm, halert, h'⟩
  | submitReview k =>
    simp only [react, Option.bind_eq_some_iff] at h'
    obtain ⟨screen, _, h'⟩ := h'
    split at h'
    · simp only [submitReview, Option.some.injEq, bind_eq_ok, pure_eq_ok] at h'
      obtain ⟨_, _, h'⟩ := h'
      exact h'.symm
    · exact absurd h' (by simp)
  | reviewReply call =>
    simp only [react, Option.map_eq_some_iff] at h'
    obtain ⟨k, _, h'⟩ := h'
    exact ⟨k, (Except.ok.inj h').symm⟩

/-- The events that move screens, or ask the server about a review. -/
def isNavigation : ClientPhoneEvent → Bool
  | .showDashboard _ | .pushOther | .popViewController | .dismissAlert | .submitReview _
  | .reviewReply _ => true
  | _ => false

/-- What they leave alone. -/
structure Untouched (p q : ClientPhone) : Prop where
  app : q.app = p.app
  socketOwner : q.socketOwner = p.socketOwner
  locationOwner : q.locationOwner = p.locationOwner
  lastLocation : q.lastLocation = p.lastLocation
  sheets : q.sheets = p.sheets
  trips : q.trips = p.trips
  frames : q.frames = p.frames

theorem step_navigation {e : ClientPhoneEvent} (h : (machine distance).Step p e q)
    (he : isNavigation e = true) : Untouched p q := by
  have hof : StepOf distance p q e := step_inv h
  cases e with
  | showDashboard i =>
    obtain rfl : q = p.showDashboard i := hof
    exact ⟨rfl, rfl, rfl, rfl, rfl, rfl, rfl⟩
  | pushOther =>
    obtain rfl : q = { p with stack := .other :: p.stack } := hof
    exact ⟨rfl, rfl, rfl, rfl, rfl, rfl, rfl⟩
  | popViewController =>
    obtain rfl : q = p.pop := hof
    exact ⟨rfl, rfl, rfl, rfl, rfl, rfl, rfl⟩
  | dismissAlert =>
    obtain rfl : q = { p with alert := none } := hof
    exact ⟨rfl, rfl, rfl, rfl, rfl, rfl, rfl⟩
  | submitReview k =>
    obtain rfl : q = { p with reviewCalls := p.reviewCalls.issue k } := hof
    exact ⟨rfl, rfl, rfl, rfl, rfl, rfl, rfl⟩
  | reviewReply call =>
    obtain ⟨k, rfl⟩ := hof
    unfold reviewReply
    split
    · exact ⟨rfl, rfl, rfl, rfl, rfl, rfl, rfl⟩
    · exact ⟨rfl, rfl, rfl, rfl, rfl, rfl, rfl⟩
  | app _ | tripStatusReply _ | didUpdateLocations _ | onMessage _ _ _ | lateProviderList _ _ _
  | lateDistance _ _ _ | cancelRequest _ _ | cancelTrip _ | leftBarItemDidTap _
  | btnSubmitPressed _ _ =>
    exact absurd he (by simp [isNavigation])

end ClientPhone

end WeatherAccommodation
