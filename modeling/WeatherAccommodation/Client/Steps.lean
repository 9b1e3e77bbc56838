/-
# What one step of the client session can do

One inversion lemma per handler: from "the handler returned `t`" to `t` itself, as an update
of the state before.  The guards that matter later are part of the conclusion; the rest of
the state is visibly the old one.  `step_inv` puts them together event by event.
-/
import WeatherAccommodation.Client.ProviderList
import WeatherAccommodation.Client.Session

namespace WeatherAccommodation

open Foundation Reactive

/-! ## 1. The dashboard's own handlers -/

namespace ClientDashboard

variable {d d' : ClientDashboard}

/-- Writing snippets moves no marker. -/
theorem setSnippets_positions {providerId : Except Trap Int} {snippet : Except Trap String}
    {providers : List Provider} {i : Nat} {markers markers' : List Marker}
    (h : setSnippets providerId snippet providers i markers = .ok markers') :
    markers'.map Marker.position = markers.map Marker.position := by
  induction providers generalizing i markers with
  | nil =>
    obtain rfl : markers = markers' := by simpa [setSnippets] using h
    rfl
  | cons p providers ih =>
    simp only [setSnippets, bind_eq_ok] at h
    obtain ⟨id, _, h⟩ := h
    split at h
    · simp only [bind_eq_ok, unwrap_eq_ok] at h
      obtain ⟨text, _, marker, hmarker, h⟩ := h
      rw [ih h, List.map_set]
      have hi : i < (markers.map Marker.position).length := by
        simpa using (List.getElem?_eq_some_iff.mp hmarker).1
      have hpos : marker.position = (markers.map Marker.position)[i] := by
        simp [(List.getElem?_eq_some_iff.mp hmarker).2]
      rw [hpos, List.set_getElem_self]
    · exact ih h

/-- Clearing a trip changes how markers look, not where they stand. -/
theorem clearTrip_inv (h : d.clearTrip = .ok d') :
    ∃ marker markers, markers.map Marker.position = d.arrMarkers.map Marker.position ∧
      d' = { d with clientMarker := marker, arrMarkers := markers } := by
  unfold clearTrip at h
  split at h
  · rename_i hnone
    rw [pure_eq_ok] at h
    exact ⟨d.clientMarker, d.arrMarkers, rfl, h.symm⟩
  · simp only [bind_eq_ok, pure_eq_ok] at h
    obtain ⟨markers, hset, rfl⟩ := h
    exact ⟨_, markers, setSnippets_positions hset, rfl⟩

/-- The notification touches the three counts only. -/
theorem showSelectedProducts_inv {products : List ProductKit}
    (h : d.showSelectedProducts products = .ok d') :
    ∃ u c b, quantityOf "Umbrella" products = .ok u ∧ quantityOf "Rain Coat" products = .ok c ∧
      quantityOf "Shoes" products = .ok b ∧ d' = { d with
        umbrellaCount := d.umbrellaCount + u
        raincoatCount := d.raincoatCount + c
        shoesCount := d.shoesCount + b } := by
  simp only [showSelectedProducts, bind_eq_ok, pure_eq_ok, checkedInt_eq_ok] at h
  obtain ⟨u, hu, _, ⟨-, rfl⟩, c, hc, _, ⟨-, rfl⟩, b, hb, _, ⟨-, rfl⟩, _, -, rfl⟩ := h
  exact ⟨u, c, b, hu, hc, hb, rfl⟩

/-- A press leads to a post only past all three guards. -/
theorem sendRequest_eq_post {device : Device} :
    d.sendRequest device = .post ↔ device.defaults.getInt .userCardSelected ≠ -1 ∧
      d.arrOnlineProviders ≠ [] ∧ d.clientLocation ≠ none := by
  unfold sendRequest
  split
  · rename_i hcard
    split
    · simp [hcard]
    · simp [hcard]
  · rename_i hcard
    split
    · rename_i hnone
      simp [hnone]
    · rename_i hsome
      split
      · rename_i hloc
        simp [hloc]
      · rename_i hloc
        simp [hcard, hsome, hloc]

/-- The body of a request is read off the device and the dashboard. -/
theorem requestParameters_inv {device : Device} {body : ServiceRequest}
    (h : d.requestParameters device = .ok body) :
    device.userID .clientApp = .ok body.clientId ∧
      body.clientStripeCustomerId = some (device.defaults.getInt .userStripeId) ∧
      body.clientStripeCustomerSourceId = some (device.defaults.getInt .userCardSelected) ∧
      body.umbrella = d.umbrellaCount - 1 ∧ body.coat = d.raincoatCount - 1 ∧
      body.shoes = d.shoesCount - 1 ∧
      body.equipmentCharge = device.appDelegate.extraCharge ∧
      body.providerIds = d.providerIds ∧ body.requestStatus = Request_Status.requested := by
  simp only [requestParameters, bind_eq_ok, pure_eq_ok, checkedInt_eq_ok] at h
  obtain ⟨userID, hid, here, -, _, ⟨-, rfl⟩, _, ⟨-, rfl⟩, _, ⟨-, rfl⟩, rfl⟩ := h
  exact ⟨hid, rfl, rfl, rfl, rfl, rfl, rfl, rfl, rfl⟩

/-- The body is one that a press on `Request` posts from the dashboard `d`. -/
structure Posts (device : Device) (d : ClientDashboard) (body : ServiceRequest) : Prop where
  outcome : d.sendRequest device = .post
  owner : device.userID .clientApp = .ok body.clientId
  customer : body.clientStripeCustomerId = some (device.defaults.getInt .userStripeId)
  source : body.clientStripeCustomerSourceId = some (device.defaults.getInt .userCardSelected)
  umbrella : body.umbrella = d.umbrellaCount - 1
  coat : body.coat = d.raincoatCount - 1
  shoes : body.shoes = d.shoesCount - 1
  charge : body.equipmentCharge = device.appDelegate.extraCharge

/-- So is the body of a cancellation, which names the providers listed at that moment. -/
theorem cancelParameters_inv {device : Device} {body : ServiceRequest}
    (h : d.cancelParameters device = .ok body) :
    device.userID .clientApp = .ok body.clientId ∧ body.providerIds = d.providerIds ∧
      body.requestStatus = Request_Status.cancelled := by
  simp only [cancelParameters, bind_eq_ok, pure_eq_ok] at h
  obtain ⟨userID, hid, here, _, rfl⟩ := h
  exact ⟨hid, rfl, rfl⟩

end ClientDashboard

/-! ## 2. The handlers of the session -/

namespace ClientSession

variable {distance : CLLocation → CLLocation → ℚ} {s t : ClientSession}

/-- Where nothing is over the dashboard, the sheet comes on screen. -/
theorem presentSheet_of_free {openedBy : Option Nat} {here : CLLocation}
    (free : s.isPresenting = false) :
    s.presentSheet openedBy here = { s with
      sheets := s.sheets ++ [{
        currentRequest := s.dashboard.currentRequest
        providerETA := s.dashboard.initialETA
        clientLocation := here
        openedBy := openedBy }]
      sockets := { s.sockets with delegate := some .providerDetail }
      locationDelegate := .providerDetail
      isPresenting := true
      dashboard := s.dashboard.timerAction } := by
  simp [presentSheet, free]

theorem openBottomSheet_inv {openedBy : Option Nat} (h : s.openBottomSheet openedBy = .ok t) :
    ∃ here, t = s.presentSheet openedBy here := by
  simp only [openBottomSheet, bind_eq_ok, unwrap_eq_ok] at h
  obtain ⟨here, _, h⟩ := h
  refine ⟨here, ?_⟩
  split at h
  · simp only [bind_eq_ok, forceInt_eq_ok, pure_eq_ok] at h
    obtain ⟨_, _, rfl⟩ := h
    rfl
  · rw [pure_eq_ok] at h
    exact h.symm

/-- Without an existing trip nothing happens; with one, its sheet or its trip screen takes
over. -/
theorem checkIfTripExists_inv (h : s.checkIfTripExists = .ok t) :
    (s.device.appDelegate.doesRequestExist = false ∧ t = s) ∨ ∃ trip userID,
      (s.device.appDelegate.doesRequestExist = true ∧
        s.device.appDelegate.clientExistingTrip = some trip ∧
        s.device.userID .clientApp = .ok userID) ∧
      ((Dict.int? trip "StatusCode" = some 6 ∧
          ∃ here, t = (s.resume trip userID).presentSheet none here) ∨
        (Dict.int? trip "StatusCode" ≠ some 6 ∧ t = { s.resume trip userID with
          sockets := { (s.resume trip userID).sockets with delegate := some .clientTrip } })) := by
  unfold checkIfTripExists at h
  split at h
  · rename_i hflag
    simp only [bind_eq_ok, unwrap_eq_ok] at h
    obtain ⟨trip, htrip, userID, hid, h⟩ := h
    refine Or.inr ⟨trip, userID, ⟨hflag, htrip, hid⟩, ?_⟩
    split at h
    · rename_i hstatus
      exact Or.inl ⟨hstatus, openBottomSheet_inv h⟩
    · rename_i hstatus
      simp only [bind_eq_ok, forceInt_eq_ok, pure_eq_ok] at h
      obtain ⟨_, _, rfl⟩ := h
      exact Or.inr ⟨hstatus, rfl⟩
  · rename_i hflag
    rw [pure_eq_ok] at h
    exact Or.inl ⟨by simpa using hflag, h.symm⟩

theorem onlineProviderList_inv {responseObject : Option Dict}
    (h : s.onlineProviderList distance responseObject = .ok t) :
    (responseObject = none ∧ t = s) ∨
      ∃ response items dashboard, responseObject = some response ∧
        Dict.array? response "OnlineProviderList" = some items ∧
        ClientDashboard.appendOnlineProviders distance items s.dashboard = .ok dashboard ∧
        (s.put dashboard).watchStatus.checkIfTripExists = .ok t := by
  unfold onlineProviderList at h
  cases responseObject with
  | none =>
    rw [pure_eq_ok] at h
    exact Or.inl ⟨rfl, h.symm⟩
  | some response =>
    simp only [bind_eq_ok, unwrap_eq_ok] at h
    obtain ⟨items, hitems, dashboard, happend, h⟩ := h
    exact Or.inr ⟨response, items, dashboard, rfl, hitems, happend, h⟩

/-- Either a guard stopped the press, or one body was sent and one call is waiting. -/
theorem sendRequest_inv (h : s.sendRequest = .ok t) :
    t = s ∨ ∃ marker markers body, s.dashboard.sendRequest s.device = .post ∧
      markers.map Marker.position = s.dashboard.arrMarkers.map Marker.position ∧
      ClientDashboard.requestParameters s.device
          { s.dashboard with clientMarker := marker, arrMarkers := markers } = .ok body ∧
        t = { (s.put { s.dashboard with clientMarker := marker, arrMarkers := markers }).send body
          with requestCalls := s.requestCalls.issue body.clientId } := by
  unfold sendRequest at h
  split at h
  · rename_i hpost
    right
    simp only [postRequest, bind_eq_ok, pure_eq_ok] at h
    obtain ⟨dashboard, hclear, body, hbody, rfl⟩ := h
    obtain ⟨marker, markers, hpos, rfl⟩ := ClientDashboard.clearTrip_inv hclear
    exact ⟨marker, markers, body, hpost, hpos, hbody, rfl⟩
  · left
    rw [pure_eq_ok] at h
    exact h.symm

theorem cancelRequestThroughWS_inv (h : s.cancelRequestThroughWS = .ok t) :
    ∃ body, s.withdraw.dashboard.cancelParameters s.withdraw.device = .ok body ∧
      t = { s.withdraw.send body with cancelCalls := s.cancelCalls.issue () } := by
  simp only [cancelRequestThroughWS, bind_eq_ok, pure_eq_ok] at h
  obtain ⟨body, hbody, rfl⟩ := h
  exact ⟨body, hbody, rfl⟩

theorem cancelReply_inv {success : Bool} (h : s.cancelReply success = .ok t) :
    (success = false ∧ t = s) ∨
      ∃ frame : CancelFrame, (success = true ∧ s.device.userID .clientApp = .ok frame.clientId ∧
          s.sockets.clientproviderRequestSocket = some frame.socket) ∧
        t = { s.timerAction with frames := s.frames ++ [frame] } := by
  unfold cancelReply at h
  cases success with
  | true =>
    simp only [if_true, bind_eq_ok, unwrap_eq_ok, pure_eq_ok] at h
    obtain ⟨socket, hsocket, userID, hid, here, _, rfl⟩ := h
    exact Or.inr ⟨_, ⟨rfl, hid, hsocket⟩, rfl⟩
  | false =>
    simp only [Bool.false_eq_true, if_false, pure_eq_ok] at h
    exact Or.inl ⟨rfl, h.symm⟩

/-- A text that is no object asks for nothing; an object is captured by the call. -/
theorem callDistanceMatrixAPI_inv {text : Message} (h : s.callDistanceMatrixAPI text = .ok t) :
    ((∀ d, text ≠ some (.obj d)) ∧ t = s) ∨
      ∃ dict, text = some (.obj dict) ∧ t = s.issueDistanceCall dict := by
  simp only [callDistanceMatrixAPI, bind_eq_ok] at h
  obtain ⟨o, ho, h⟩ := h
  cases o with
  | none =>
    rw [pure_eq_ok] at h
    refine Or.inl ⟨?_, h.symm⟩
    rintro d rfl
    simp at ho
  | some dict =>
    simp only [bind_eq_ok, unwrap_eq_ok, pure_eq_ok] at h
    obtain ⟨_, _, rfl⟩ := h
    exact Or.inr ⟨dict, eq_obj_of_messageDict ho, rfl⟩

/-- The text is an object whose type is `trip_accepted`. -/
def IsAcceptance (text : Message) (dict : Dict) : Prop :=
  text = some (.obj dict) ∧ Dict.string? dict "RequestType" = some Trip_Status.accepted

/-- Of all messages on the request socket, only an acceptance changes anything. -/
theorem requestMessage_inv {text : Message} (h : s.requestMessage text = .ok t) :
    t = s ∨ ∃ dict, IsAcceptance text dict ∧
      t = { (s.put { s.dashboard with currentRequest := dict }).issueDistanceCall dict with
        distanceTimers := s.distanceTimers + 1 } := by
  simp only [requestMessage, bind_eq_ok] at h
  obtain ⟨o, ho, h⟩ := h
  cases o with
  | none =>
    rw [pure_eq_ok] at h
    exact Or.inl h.symm
  | some dict =>
    have htext : text = some (.obj dict) := eq_obj_of_messageDict ho
    cases huser : Dict.get? dict "RequestType" with
    | none =>
      simp only [huser, pure_eq_ok] at h
      exact Or.inl h.symm
    | some user =>
      simp only [huser, bind_eq_ok, unwrap_eq_ok] at h
      obtain ⟨requestType, hrt, h⟩ := h
      split at h
      · rename_i hacc
        right
        refine ⟨dict, ⟨htext, by simp [Dict.string?, huser, hrt, hacc]⟩, ?_⟩
        simp only [bind_eq_ok, pure_eq_ok] at h
        obtain ⟨u, hcall, rfl⟩ := h
        rcases callDistanceMatrixAPI_inv hcall with ⟨hno, _⟩ | ⟨dict', heq, rfl⟩
        · exact absurd htext (hno dict)
        · obtain rfl : dict = dict' := by simpa [htext] using heq
          rfl
      · rw [pure_eq_ok] at h
        exact Or.inl h.symm

/-- The travel time in an answer, in seconds. -/
def travelTime (distanceValues : Dict) : Option Int :=
  (Dict.dict? distanceValues "duration").bind fun values => Dict.int? values "value"

/-- The sheet is opened with the travel time of the answer. -/
theorem enterTrip_travelTime {call : Nat} {values : Dict} (h : s.enterTrip call values = .ok t) :
    ∃ eta here marker, travelTime values = some eta ∧ t =
      let s' := (s.put { s.dashboard with initialETA := eta }).presentSheet (some call) here
      s'.put { s'.dashboard.timerAction with clientMarker := some marker } := by
  simp only [enterTrip, duration, bind_eq_ok, unwrap_eq_ok, forceDict_eq_ok, forceInt_eq_ok,
    pure_eq_ok] at h
  obtain ⟨duration, hduration, eta, heta, u, hsheet, here', _, rfl⟩ := h
  obtain ⟨here, rfl⟩ := openBottomSheet_inv hsheet
  exact ⟨eta, here, _, by simp [travelTime, hduration, heta], rfl⟩

theorem enterTrip_inv {call : Nat} {values : Dict} (h : s.enterTrip call values = .ok t) :
    ∃ eta here marker, t =
      let s' := (s.put { s.dashboard with initialETA := eta }).presentSheet (some call) here
      s'.put { s'.dashboard.timerAction with clientMarker := some marker } := by
  obtain ⟨eta, here, marker, _, ht⟩ := enterTrip_travelTime h
  exact ⟨eta, here, marker, ht⟩

/-- A distance answer opens a sheet if it came for a message that was no location update. -/
theorem distanceReply_cases {call : Nat} {dict values : Dict} {success : Bool}
    (h : s.distanceReply call dict values success = .ok t) :
    ((success = true → Dict.string? dict "RequestType" = some Request_Status.locationUpdated) ∧
        ∃ markers, markers.map Marker.position = s.dashboard.arrMarkers.map Marker.position ∧
          t = s.put { s.dashboard with arrMarkers := markers }) ∨
      (success = true ∧ Dict.string? dict "RequestType" ≠ some Request_Status.locationUpdated ∧
        ∃ u markers, s.enterTrip call values = .ok u ∧
          markers.map Marker.position = u.dashboard.arrMarkers.map Marker.position ∧
          t = u.put { u.dashboard with arrMarkers := markers }) := by
  unfold distanceReply at h
  cases success with
  | false =>
    simp only [Bool.false_eq_true, if_false, pure_eq_ok] at h
    exact Or.inl ⟨fun hsuccess => absurd hsuccess (by simp), s.dashboard.arrMarkers, rfl, h.symm⟩
  | true =>
    simp only [if_true, bind_eq_ok, pure_eq_ok, Prod.exists] at h
    obtain ⟨u, providerId, htarget, markers, hset, rfl⟩ := h
    have hpos := ClientDashboard.setSnippets_positions hset
    simp only [replyTarget, bind_eq_ok, forceString_eq_ok] at htarget
    obtain ⟨requestType, hrt, htarget⟩ := htarget
    split at htarget
    · rename_i hne
      simp only [bind_eq_ok, forceInt_eq_ok, pure_eq_ok, Prod.mk.injEq] at htarget
      obtain ⟨u', henter, id, _, rfl, rfl⟩ := htarget
      refine Or.inr ⟨rfl, ?_, u', markers, henter, hpos, rfl⟩
      rw [hrt]
      intro heq
      exact hne (Option.some.inj heq)
    · rename_i heq
      simp only [bind_eq_ok, forceString_eq_ok, forceNumeral_eq_ok, pure_eq_ok,
        Prod.mk.injEq] at htarget
      obtain ⟨text, _, id, _, rfl, rfl⟩ := htarget
      exact Or.inl ⟨fun _ => by rw [hrt, not_not.mp heq], markers, hpos, rfl⟩

/-- **A distance answer opens a sheet only for a message that was no location update.** -/
theorem distanceReply_inv {call : Nat} {dict values : Dict} {success : Bool}
    (h : s.distanceReply call dict values success = .ok t) :
    (∃ markers, markers.map Marker.position = s.dashboard.arrMarkers.map Marker.position ∧
        t = s.put { s.dashboard with arrMarkers := markers }) ∨
      (success = true ∧ Dict.string? dict "RequestType" ≠ some Request_Status.locationUpdated ∧
        ∃ u markers, s.enterTrip call values = .ok u ∧
          markers.map Marker.position = u.dashboard.arrMarkers.map Marker.position ∧
          t = u.put { u.dashboard with arrMarkers := markers }) :=
  (distanceReply_cases h).imp_left And.right

/-! ## 3. Event by event -/

/-- What the event leaves behind, in terms of the handlers. -/
def StepOf (distance : CLLocation → CLLocation → ℚ) (s t : ClientSession) : ClientEvent → Prop
  | .tracingLocation l => t = s.tracingLocation l
  | .onlineProviderList call response =>
    s.listCalls.waiting call = some () ∧
      onlineProviderList distance { s with listCalls := s.listCalls.retire call } response = .ok t
  | .onMessage socket text =>
    (s.sockets.clientCommonDataSocket = some socket ∧
        ∃ d, s.dashboard.pingReceived distance text = .ok d ∧ t = s.put d) ∨
      (s.sockets.clientCommonDataSocket ≠ some socket ∧
        s.sockets.clientproviderRequestSocket = some socket ∧ s.requestMessage text = .ok t) ∨
      (s.sockets.clientCommonDataSocket ≠ some socket ∧
        s.sockets.clientproviderRequestSocket ≠ some socket ∧ t = s)
  | .sendRequest => s.dashboard.viewDisableIsHidden = true ∧ s.sendRequest = .ok t
  | .requestReply call success =>
    ∃ userID, s.requestCalls.waiting call = some userID ∧
      t = { s with requestCalls := s.requestCalls.retire call }.requestReply userID success
  | .cancelRequest =>
    s.dashboard.viewDisableIsHidden = false ∧ s.cancelRequestThroughWS = .ok t
  | .cancelReply call success =>
    s.cancelCalls.waiting call = some () ∧
      { s with cancelCalls := s.cancelCalls.retire call }.cancelReply success = .ok t
  | .timerFires timer =>
    s.timers.waiting timer = some () ∧
      t = { s with timers := s.timers.retire timer }.timerAction
  | .distanceReply call values success =>
    ∃ dict, s.distanceCalls.waiting call = some dict ∧
      { s with distanceCalls := s.distanceCalls.retire call }.distanceReply call dict values
        success = .ok t
  | .distanceTimerFires => s.callDistanceMatrixAPI s.dashboard.locationUpdates = .ok t
  | .receivingLocationUpdate text =>
    isLocationUpdate text = true ∧ t = s.put { s.dashboard with locationUpdates := text }
  | .viewWillAppear => ∃ d, s.dashboard.clearTrip = .ok d ∧ t = s.put d
  | .selectedProducts products =>
    ∃ d, s.dashboard.showSelectedProducts products = .ok d ∧ t = s.put d
  | .elsewhere device isPresenting => t = { s with device := device, isPresenting := isPresenting }

/-- **The inversion lemma of the machine.** -/
theorem step_inv {e : ClientEvent} (h : (machine distance).Step s e t) :
    StepOf distance s t e := by
  have h' : react distance s e = some (.ok t) := h
  cases e with
  | tracingLocation l =>
    simp only [react] at h'
    split at h'
    · simpa [StepOf] using h'.symm
    · exact absurd h' (by simp)
  | onlineProviderList call response =>
    simp only [react, Option.map_eq_some_iff] at h'
    obtain ⟨_, hw, h'⟩ := h'
    exact ⟨hw, h'⟩
  | onMessage socket text =>
    simp only [react] at h'
    split at h'
    · simp only [Option.some.injEq, onMessage] at h'
      split at h'
      · rename_i hcommon
        simp only [bind_eq_ok, pure_eq_ok] at h'
        obtain ⟨d, hd, rfl⟩ := h'
        exact Or.inl ⟨hcommon, d, hd, rfl⟩
      · rename_i hcommon
        split at h'
        · rename_i hreq
          exact Or.inr (Or.inl ⟨hcommon, hreq, h'⟩)
        · rename_i hreq
          rw [pure_eq_ok] at h'
          exact Or.inr (Or.inr ⟨hcommon, hreq, h'.symm⟩)
    · exact absurd h' (by simp)
  | sendRequest =>
    simp only [react] at h'
    split at h'
    · rename_i hhidden
      exact ⟨hhidden, Option.some.inj h'⟩
    · exact absurd h' (by simp)
  | requestReply call success =>
    simp only [react, Option.map_eq_some_iff] at h'
    obtain ⟨userID, hw, h'⟩ := h'
    exact ⟨userID, hw, (Except.ok.inj h').symm⟩
  | cancelRequest =>
    simp only [react] at h'
    split at h'
    · exact absurd h' (by simp)
    · rename_i hshown
      exact ⟨by simpa using hshown, Option.some.inj h'⟩
  | cancelReply call success =>
    simp only [react, Option.map_eq_some_iff] at h'
    obtain ⟨_, hw, h'⟩ := h'
    exact ⟨hw, h'⟩
  | timerFires timer =>
    simp only [react, Option.map_eq_some_iff] at h'
    obtain ⟨_, hw, h'⟩ := h'
    exact ⟨hw, (Except.ok.inj h').symm⟩
  | distanceReply call values success =>
    simp only [react, Option.map_eq_some_iff] at h'
    obtain ⟨dict, hw, h'⟩ := h'
    exact ⟨dict, hw, h'⟩
  | distanceTimerFires =>
    simp only [react] at h'
    split at h'
    · exact absurd h' (by simp)
    · exact Option.some.inj h'
  | receivingLocationUpdate text =>
    simp only [react] at h'
    split at h'
    · rename_i hcond
      exact ⟨hcond.2, (Except.ok.inj (Option.some.inj h')).symm⟩
    · exact absurd h' (by simp)
  | viewWillAppear =>
    simp only [react, Option.some.injEq, ClientDashboard.viewWillAppear, bind_eq_ok,
      pure_eq_ok] at h'
    obtain ⟨d, hd, rfl⟩ := h'
    exact ⟨d, hd, rfl⟩
  | selectedProducts products =>
    simp only [react, Option.some.injEq, bind_eq_ok, pure_eq_ok] at h'
    obtain ⟨d, hd, rfl⟩ := h'
    exact ⟨d, hd, rfl⟩
  | elsewhere device busy =>
    simp only [react, Option.some.injEq, Except.ok.injEq] at h'
    exact h'.symm

/-! ## 4. A session to run -/

/-- Client 24 has chosen a card. -/
def sampleDevice : Device where
  defaults := ((UserDefaults.empty.set .userProfileInfoDef (.dict [("ClientId", .ofInt 24)])).setInt
    .userCardSelected 7).setInt .userStripeId 3
  appDelegate := {}

/-- The dashboard is loaded with provider 16 in reach, and a request is posted and shown. -/
def requestEvents : List ClientEvent :=
  [.tracingLocation ⟨40, -73⟩,
    .onlineProviderList 0 (some [("OnlineProviderList",
      .arr [.obj (ClientDashboard.statusOf 16 "40.001" "-73" "connected")])]),
    .sendRequest, .requestReply 0 true]

end ClientSession

end WeatherAccommodation
