/-
# What one step of the provider's app can do

One inversion lemma per handler, in the manner of the client's `Steps.lean`: from "the handler
returned `b`" to `b` as an update of the state before.  `step_inv` puts them together event by
event, and `step_spares` says which parts of the app an event leaves alone.
-/
import WeatherAccommodation.Provider.App

namespace WeatherAccommodation

open Foundation Reactive

/-! ## 1. The dashboard -/

namespace ProviderDashboard

variable {d d' : ProviderDashboard} {distance : CLLocation → CLLocation → ℚ}

theorem requestKey_inv {key : String} {j : Json} (h : d.requestKey key = .ok j) :
    ∃ request, d.currentRequest = some request ∧ Dict.get? request key = some j := by
  simpa [requestKey] using h

/-- A number is read out of the current request, if it is there as a text. -/
theorem requestNumber_isOk_iff {key : String} :
    (∃ q, d.requestNumber key = .ok q) ↔
      ∃ request, d.currentRequest = some request ∧ IsNumeral request key := by
  simp only [requestNumber, requestKey, bind_eq_ok, unwrap_eq_ok, forceKey_eq_ok,
    forceDouble_eq_ok]
  constructor
  · rintro ⟨q, value, ⟨request, hrequest, hvalue⟩, text, htext, hq⟩
    exact ⟨request, hrequest, text, by simp [Dict.string?, hvalue, htext], by simp [hq]⟩
  · rintro ⟨request, hrequest, text, htext, hq⟩
    obtain ⟨value, hvalue, htext⟩ := Option.bind_eq_some_iff.mp htext
    obtain ⟨q, hq⟩ := Option.isSome_iff_exists.mp hq
    exact ⟨q, value, ⟨request, hrequest, hvalue⟩, text, htext, hq⟩

/-- The text is a message about the request `request`. -/
def IsAbout (text : Message) (request : Dict) : Prop :=
  ∃ dict, text = some (.obj dict) ∧ Dict.dict? dict "ClientData" = some request

/-- A text is about one request at most. -/
theorem IsAbout.unique {text : Message} {request request' : Dict} (h : IsAbout text request)
    (h' : IsAbout text request') : request = request' := by
  obtain ⟨dict, rfl, hclient⟩ := h
  obtain ⟨dict', heq, hclient'⟩ := h'
  have hdict : dict = dict' := by simpa using heq
  rw [hdict, hclient'] at hclient
  exact (Option.some.inj hclient).symm

/-- What is no object is about nothing. -/
theorem not_isAbout_of_messageDict {text : Message} (h : messageDict text = .ok none)
    (request : Dict) : ¬IsAbout text request := by
  rintro ⟨dict, rfl, _⟩
  exact absurd h (by simp)

/-- A request that is shown becomes the current one in every case; its details come on screen
only if there are none. -/
theorem showRequestUI_inv {text : Message} (h : d.showRequestUI text = .ok d') :
    ((∀ request, ¬IsAbout text request) ∧ d' = d) ∨ ∃ request, IsAbout text request ∧
      ((Dict.string? request "RequestStatus" = some Request_Status.cancelled ∧
          d' = (d.setCurrentRequest (some request)).hideRequest) ∨
        (d.requestViewIsHidden = true ∧
          d' = (d.setCurrentRequest (some request)).display request) ∨
        (d.requestViewIsHidden = false ∧ d' = d.setCurrentRequest (some request))) := by
  simp only [showRequestUI, bind_eq_ok] at h
  obtain ⟨o, ho, h⟩ := h
  cases o with
  | none =>
    rw [pure_eq_ok] at h
    exact Or.inl ⟨not_isAbout_of_messageDict ho, h.symm⟩
  | some dict =>
    simp only [bind_eq_ok, unwrap_eq_ok, currentRequest_setCurrentRequest] at h
    obtain ⟨request, hrequest, cancelled, hcancelled, h⟩ := h
    refine Or.inr ⟨request, ⟨dict, eq_obj_of_messageDict ho, hrequest⟩, ?_⟩
    rw [hrequest] at h
    split at h
    · rename_i hyes
      rw [pure_eq_ok] at h
      rw [hyes] at hcancelled
      exact Or.inl ⟨hasText_eq_true.mp hcancelled, h.symm⟩
    · split at h
      · rename_i hhidden
        simp only [bind_eq_ok, pure_eq_ok] at h
        obtain ⟨_, _, _, _, _, _, _, _, rfl⟩ := h
        exact Or.inr (Or.inl ⟨hhidden, rfl⟩)
      · rename_i hshown
        rw [pure_eq_ok] at h
        exact Or.inr (Or.inr ⟨by simpa [setCurrentRequest] using hshown, h.symm⟩)

/-- All that changes is the request and what is shown of it. -/
theorem showRequestUI_frame {text : Message} (h : d.showRequestUI text = .ok d') :
    ∃ request hidden shown runs, d' = { d with
      currentRequest := request
      requestViewIsHidden := hidden
      lblDistance := shown
      timerViewRuns := runs } := by
  rcases showRequestUI_inv h with ⟨_, rfl⟩ | ⟨_, _, hcase⟩
  · exact ⟨_, _, _, _, rfl⟩
  · rcases hcase with ⟨_, rfl⟩ | ⟨_, rfl⟩ | ⟨_, rfl⟩
    · exact ⟨_, _, _, _, rfl⟩
    · exact ⟨_, _, _, _, rfl⟩
    · exact ⟨_, _, _, _, rfl⟩

/-- Nobody looks at the dashboard. -/
def Unseen (state : ApplicationState) (selectedIndex : Nat) : Prop :=
  state = .background ∨ (state = .active ∧ selectedIndex ≠ 0)

instance (state : ApplicationState) (selectedIndex : Nat) :
    Decidable (Unseen state selectedIndex) := inferInstanceAs (Decidable (_ ∨ _))

/-- The text is about `request`, whose status is `status`. -/
def IsRequest (status : String) (text : Message) (request : Dict) : Prop :=
  IsAbout text request ∧ Dict.string? request "RequestStatus" = some status

theorem providerMessage_inv {text : Message} {state : ApplicationState} {selectedIndex : Nat}
    (h : d.providerMessage text state selectedIndex = .ok d') :
    ((∀ request status, IsRequest status text request →
        status ≠ Request_Status.requested ∧ status ≠ Request_Status.cancelled) ∧ d' = d) ∨
      (∃ request, IsRequest Request_Status.requested text request ∧
        ((Unseen state selectedIndex ∧ d' = { d with requestDetail := text }) ∨
          (¬Unseen state selectedIndex ∧ d.showRequestUI text = .ok d'))) ∨
      (∃ request, IsRequest Request_Status.cancelled text request ∧ d' = d.cancelRequest) ∨
      (∃ request, IsRequest Trip_Status.accepted text request ∧ d' = d.hideRequest) := by
  simp only [providerMessage, bind_eq_ok] at h
  obtain ⟨o, ho, h⟩ := h
  cases o with
  | none =>
    rw [pure_eq_ok] at h
    refine Or.inl ⟨?_, h.symm⟩
    intro request status hrequest
    exact absurd hrequest.1 (not_isAbout_of_messageDict ho request)
  | some dict =>
    simp only [bind_eq_ok, forceDict_eq_ok] at h
    obtain ⟨request, hrequest, requested, hrequested, h⟩ := h
    have habout : IsAbout text request := ⟨dict, eq_obj_of_messageDict ho, hrequest⟩
    split at h
    · rename_i hyes
      rw [hyes] at hrequested
      refine Or.inr (Or.inl ⟨request, ⟨habout, hasText_eq_true.mp hrequested⟩, ?_⟩)
      split at h
      · rename_i hunseen
        rw [pure_eq_ok] at h
        exact Or.inl ⟨hunseen, h.symm⟩
      · rename_i hseen
        exact Or.inr ⟨hseen, h⟩
    · rename_i hnotRequested
      rw [Bool.not_eq_true] at hnotRequested
      rw [hnotRequested] at hrequested
      simp only [bind_eq_ok] at h
      obtain ⟨cancelled, hcancelled, h⟩ := h
      split at h
      · rename_i hyes
        rw [pure_eq_ok] at h
        rw [hyes] at hcancelled
        exact Or.inr (Or.inr (Or.inl ⟨request, ⟨habout, hasText_eq_true.mp hcancelled⟩, h.symm⟩))
      · rename_i hnotCancelled
        rw [Bool.not_eq_true] at hnotCancelled
        rw [hnotCancelled] at hcancelled
        simp only [bind_eq_ok] at h
        obtain ⟨accepted, haccepted, h⟩ := h
        split at h
        · rename_i hyes
          rw [pure_eq_ok] at h
          rw [hyes] at haccepted
          exact Or.inr (Or.inr (Or.inr ⟨request, ⟨habout, hasText_eq_true.mp haccepted⟩, h.symm⟩))
        · rw [pure_eq_ok] at h
          refine Or.inl ⟨?_, h.symm⟩
          rintro other status ⟨hother, hstatus⟩
          obtain rfl := habout.unique hother
          constructor
          · rintro rfl
            exact string?_ne_of_hasText hrequested hstatus
          · rintro rfl
            exact string?_ne_of_hasText hcancelled hstatus

/-- So does a message on the status socket, but for the text it may keep for later. -/
theorem providerMessage_frame {text : Message} {state : ApplicationState} {selectedIndex : Nat}
    (h : d.providerMessage text state selectedIndex = .ok d') :
    ∃ request detail hidden shown runs, d' = { d with
      currentRequest := request
      requestDetail := detail
      requestViewIsHidden := hidden
      lblDistance := shown
      timerViewRuns := runs } := by
  rcases providerMessage_inv h with ⟨_, rfl⟩ | ⟨_, _, hcase⟩ | ⟨_, _, rfl⟩ | ⟨_, _, rfl⟩
  · exact ⟨_, _, _, _, _, rfl⟩
  · rcases hcase with ⟨_, rfl⟩ | ⟨_, hshown⟩
    · exact ⟨_, _, _, _, _, rfl⟩
    · obtain ⟨_, _, _, _, rfl⟩ := showRequestUI_frame hshown
      exact ⟨_, _, _, _, _, rfl⟩
  · exact ⟨_, _, _, _, _, rfl⟩
  · exact ⟨_, _, _, _, _, rfl⟩

/-- A location report changes the location, and possibly a flag nobody reads. -/
theorem tracingLocation_inv {l : CLLocation} (h : d.tracingLocation distance l = .ok d') :
    ∃ reached, d' = { d with location := some l, hasProviderReached := reached } := by
  unfold tracingLocation at h
  simp only at h
  split at h
  · rw [pure_eq_ok] at h
    exact ⟨d.hasProviderReached, h.symm⟩
  · simp only [bind_eq_ok] at h
    obtain ⟨client, _, h⟩ := h
    split at h
    · rw [pure_eq_ok] at h
      exact ⟨true, h.symm⟩
    · rw [pure_eq_ok] at h
      exact ⟨d.hasProviderReached, h.symm⟩

theorem callDistanceAPI_inv (h : d.callDistanceAPI = .ok d') :
    (∃ request, d.currentRequest = some request) ∧
      d' = { d with directionsCalls := d.directionsCalls.issue () } := by
  simp only [callDistanceAPI, bind_eq_ok, pure_eq_ok] at h
  obtain ⟨_, hlat, _, _, rfl⟩ := h
  obtain ⟨request, hrequest, _⟩ := requestKey_inv hlat
  exact ⟨⟨request, hrequest⟩, rfl⟩

/-- The text is an object whose type is `trip_accepted`. -/
def IsAcceptance (text : Message) (dict : Dict) : Prop :=
  text = some (.obj dict) ∧ Dict.string? dict "RequestType" = some Trip_Status.accepted

/-- `IsAcceptance` as a test. -/
def isAcceptance : Message → Bool
  | some (.obj dict) => Dict.string? dict "RequestType" == some Trip_Status.accepted
  | _ => false

theorem isAcceptance_of {text : Message} {dict : Dict} (h : IsAcceptance text dict) :
    isAcceptance text = true := by
  obtain ⟨rfl, htype⟩ := h
  simp [isAcceptance, htype]

/-- Of all messages on the request socket, only an acceptance changes anything. -/
theorem requestMessage_inv {text : Message} (h : d.requestMessage text = .ok d') :
    d' = d ∨ ∃ dict, IsAcceptance text dict ∧
      d' = { d with
        currentAcceptedRequest := some dict
        directionsCalls := d.directionsCalls.issue ()
        timerIsValid := true } := by
  simp only [requestMessage, bind_eq_ok] at h
  obtain ⟨o, ho, h⟩ := h
  cases o with
  | none =>
    rw [pure_eq_ok] at h
    exact Or.inl h.symm
  | some dict =>
    simp only [bind_eq_ok] at h
    obtain ⟨accepted, haccepted, h⟩ := h
    split at h
    · rename_i hyes
      rw [hyes] at haccepted
      simp only [bind_eq_ok, pure_eq_ok] at h
      obtain ⟨u, hcall, rfl⟩ := h
      obtain ⟨_, rfl⟩ := callDistanceAPI_inv hcall
      exact Or.inr ⟨dict, ⟨eq_obj_of_messageDict ho, hasText_eq_true.mp haccepted⟩, rfl⟩
    · rw [pure_eq_ok] at h
      exact Or.inl h.symm

theorem drawMarkers_inv (h : d.drawMarkers = .ok d') : d' = { d with hasMarkers := true } := by
  simp only [drawMarkers, bind_eq_ok, pure_eq_ok] at h
  obtain ⟨_, _, _, _, rfl⟩ := h
  rfl

end ProviderDashboard

/-! ## 2. The app -/

namespace ProviderApp

variable {distance : CLLocation → CLLocation → ℚ} {a b : ProviderApp} {d : ProviderDashboard}

theorem requestSocket_eq_ok {socket : Nat} :
    a.requestSocket = .ok socket ↔ a.sockets.clientproviderRequestSocket = some socket :=
  unwrap_eq_ok

theorem openBottomSheet_inv (h : a.openBottomSheet d = .ok b) :
    ∃ trip here, d.currentAcceptedRequest = some trip ∧ d.location = some here ∧
      b = a.presentSheet trip here := by
  simp only [openBottomSheet, ProviderDashboard.ownLocation, bind_eq_ok, unwrap_eq_ok] at h
  obtain ⟨trip, htrip, here, hhere, h⟩ := h
  refine ⟨trip, here, htrip, hhere, ?_⟩
  split at h
  · simp only [bind_eq_ok, pure_eq_ok] at h
    obtain ⟨_, _, rfl⟩ := h
    rfl
  · simp only [pure_eq_ok] at h
    exact h.symm

/-- A pushed screen counts as started exactly if the flag is set. -/
theorem pushStartTrip_inv {trip : Dict} (h : a.pushStartTrip trip = .ok b) :
    b = { a with
      trips := a.trips ++ [{ currentRequest := trip
                             isTripStarted := a.device.appDelegate.doesRequestExist }]
      locationDelegate := some (.startTrip a.trips.length) } := by
  simp only [pushStartTrip, StartTrip.viewDidLoad, bind_eq_ok, pure_eq_ok] at h
  obtain ⟨screen, hscreen, rfl⟩ := h
  split at hscreen
  · rename_i hflag
    simp only [bind_eq_ok, pure_eq_ok] at hscreen
    obtain ⟨_, _, rfl⟩ := hscreen
    rw [hflag]
  · rename_i hflag
    rw [pure_eq_ok] at hscreen
    subst hscreen
    simp [hflag]

/-- What is resumed: the existing trip, its connection, and the start-trip screen.  A trip
that is only accepted cannot be resumed: the sheet needs a location, which a fresh dashboard
has not got. -/
def resumed (a : ProviderApp) (trip : Dict) (clientId : Json) : ProviderApp :=
  { a.connect clientId with
    dashboards := a.dashboards ++ [{ currentAcceptedRequest := some trip }]
    trips := a.trips ++ [{ currentRequest := trip, isTripStarted := true }]
    locationDelegate := some (.startTrip a.trips.length) }

theorem viewDidLoad_inv (h : a.viewDidLoad = .ok b) :
    b = { a with dashboards := a.dashboards ++ [{ location := none }] } ∨
      ∃ trip clientId, a.device.appDelegate.doesRequestExist = true ∧
        a.device.appDelegate.providerExistingTrip = some trip ∧
        Dict.get? trip "ClientId" = some clientId ∧ b = a.resumed trip clientId := by
  simp only [viewDidLoad, checkIfTripExists] at h
  split at h
  · rename_i hflag
    simp only [bind_eq_ok, unwrap_eq_ok, forceKey_eq_ok] at h
    obtain ⟨trip, htrip, clientId, hclient, h⟩ := h
    right
    refine ⟨trip, clientId, hflag, htrip, hclient, ?_⟩
    split at h
    · obtain ⟨_, _, _, hhere, _⟩ := openBottomSheet_inv h
      exact absurd hhere (by simp [ProviderDashboard.setAccepted])
    · obtain rfl := pushStartTrip_inv h
      simp [resumed, connect, putDashboard, ProviderDashboard.setAccepted, hflag]
  · rw [pure_eq_ok] at h
    exact Or.inl h.symm

theorem btnAcceptRequest_inv {i : Nat} (h : a.btnAcceptRequest i d = .ok b) :
    ∃ request clientId, d.currentRequest = some request ∧
      Dict.get? request "ClientId" = some clientId ∧
      b = (a.connect clientId).putDashboard i d.hideRequest := by
  simp only [btnAcceptRequest, bind_eq_ok, pure_eq_ok] at h
  obtain ⟨clientId, hkey, rfl⟩ := h
  obtain ⟨request, hrequest, hclient⟩ := ProviderDashboard.requestKey_inv hkey
  exact ⟨request, clientId, hrequest, hclient, rfl⟩

/-- Going online opens a status socket; going offline stops the timer. -/
theorem requestSocketToChangeStatusOrLocation_switch {i : Nat}
    (h : a.requestSocketToChangeStatusOrLocation i d = .ok b) :
    (d.swchStatusIsOn = true ∧ ∃ providerId, b = a.activate i providerId) ∨
      (d.swchStatusIsOn = false ∧ b = a.putDashboard i d.invalidateTimer) := by
  unfold requestSocketToChangeStatusOrLocation at h
  split at h
  · rename_i hon
    simp only [bind_eq_ok, pure_eq_ok] at h
    obtain ⟨providerId, _, rfl⟩ := h
    exact Or.inl ⟨hon, providerId, rfl⟩
  · rename_i hoff
    simp only [bind_eq_ok, pure_eq_ok] at h
    obtain ⟨_, _, rfl⟩ := h
    exact Or.inr ⟨by simpa using hoff, rfl⟩

theorem requestSocketToChangeStatusOrLocation_inv {i : Nat}
    (h : a.requestSocketToChangeStatusOrLocation i d = .ok b) :
    (∃ providerId, b = a.activate i providerId) ∨ b = a.putDashboard i d.invalidateTimer := by
  rcases requestSocketToChangeStatusOrLocation_switch h with ⟨_, h⟩ | ⟨_, h⟩
  · exact Or.inl h
  · exact Or.inr h

/-- The switch is off afterwards, or a status socket was opened. -/
theorem switchValueChanged_inv {i : Nat} {isOn : Bool}
    (h : a.switchValueChanged i d isOn = .ok b) :
    (∃ valid, b = a.putDashboard i { d with swchStatusIsOn := false, timerIsValid := valid }) ∨
      ∃ providerId, b = (a.putDashboard i (setSwitch d isOn)).activate i providerId := by
  unfold switchValueChanged at h
  split at h
  · rw [pure_eq_ok] at h
    exact Or.inl ⟨d.timerIsValid, h.symm⟩
  · rcases requestSocketToChangeStatusOrLocation_switch h with ⟨_, h⟩ | ⟨hoff, rfl⟩
    · exact Or.inr h
    · obtain rfl : isOn = false := hoff
      refine Or.inl ⟨false, ?_⟩
      simp [putDashboard, setSwitch, ProviderDashboard.invalidateTimer]

theorem timerFired_inv (h : a.timerFired d = .ok b) :
    ∃ socket clientId providerId,
      (a.sockets.clientproviderRequestSocket = some socket ∧
        a.device.userID .providerApp = .ok providerId ∧
        ∃ trip, d.currentAcceptedRequest = some trip ∧
          Dict.get? trip "ClientId" = some clientId) ∧
      b = a.write socket (.locationUpdated clientId providerId d.location) := by
  simp only [timerFired, bind_eq_ok, unwrap_eq_ok, forceKey_eq_ok, pure_eq_ok] at h
  obtain ⟨socket, hsocket, trip, htrip, clientId, hclient, providerId, hid, rfl⟩ := h
  exact ⟨socket, clientId, providerId,
    ⟨requestSocket_eq_ok.mp hsocket, hid, trip, htrip, hclient⟩, rfl⟩

/-- The directions arrived, and the sheet for the accepted trip opens. -/
theorem directionsReply_inv {i : Nat} {success : Bool}
    (h : a.directionsReply i d success = .ok b) :
    (success = false ∧ b = a.putDashboard i d) ∨
      ∃ trip here, success = true ∧ d.currentAcceptedRequest = some trip ∧
        d.location = some here ∧
        b = (a.putDashboard i { d with hasMarkers := true }).presentSheet trip here := by
  unfold directionsReply at h
  cases success with
  | false =>
    simp only [Bool.false_eq_true, if_false, pure_eq_ok] at h
    exact Or.inl ⟨rfl, h.symm⟩
  | true =>
    simp only [if_true, bind_eq_ok] at h
    obtain ⟨d', hdraw, h⟩ := h
    obtain rfl := ProviderDashboard.drawMarkers_inv hdraw
    obtain ⟨trip, here, htrip, hhere, rfl⟩ := openBottomSheet_inv h
    exact Or.inr ⟨trip, here, rfl, htrip, hhere, rfl⟩

/-- A connect callback writes the current request's client, if it is that of the variable. -/
theorem dashboardConnect_inv {socket : Nat} (h : a.dashboardConnect d socket = .ok b) :
    (a.sockets.clientproviderRequestSocket ≠ some socket ∧ b = a) ∨
      ∃ request clientId providerId,
        a.sockets.clientproviderRequestSocket = some socket ∧
        d.currentRequest = some request ∧ Dict.get? request "ClientId" = some clientId ∧
        a.device.userID .providerApp = .ok providerId ∧
        b = a.write socket (.accepted clientId providerId d.location) := by
  unfold dashboardConnect at h
  split at h
  · rename_i hsocket
    simp only [bind_eq_ok, pure_eq_ok] at h
    obtain ⟨clientId, hkey, providerId, hid, rfl⟩ := h
    obtain ⟨request, hrequest, hclient⟩ := ProviderDashboard.requestKey_inv hkey
    exact Or.inr ⟨request, clientId, providerId, hsocket, hrequest, hclient, hid, rfl⟩
  · rename_i hother
    rw [pure_eq_ok] at h
    exact Or.inl ⟨hother, h.symm⟩

/-- The right code: the frame, the cleared flag, and a screen that is not started. -/
theorem textFieldEditingChanged_inv {j : Nat} {sheet : ClientDetailSheet} {text : String}
    (h : a.textFieldEditingChanged j sheet text = .ok b) :
    b = a ∨ ∃ socket tripId, (a.sockets.clientproviderRequestSocket = some socket ∧
        sheet.matchesCode text = true) ∧
      Dict.get? sheet.currentRequest "TripId" = some tripId ∧
      b = ({ (a.write socket (.reached tripId)).setFlag false with
        trips := a.trips ++ [{ currentRequest := sheet.currentRequest }]
        locationDelegate := some (.startTrip a.trips.length) } : ProviderApp).putSheet j
          sheet.dismiss := by
  unfold textFieldEditingChanged at h
  split at h
  · rename_i haccept
    simp only [bind_eq_ok, forceKey_eq_ok, pure_eq_ok] at h
    obtain ⟨socket, hsocket, tripId, htrip, c, hpush, rfl⟩ := h
    obtain rfl := pushStartTrip_inv hpush
    have hcode : sheet.matchesCode text = true := (Bool.and_eq_true_iff.mp haccept).2
    exact Or.inr ⟨socket, tripId, ⟨requestSocket_eq_ok.mp hsocket, hcode⟩, htrip, rfl⟩
  · rw [pure_eq_ok] at h
    exact Or.inl h.symm

/-- What a code that is right leaves behind is a frame and a screen. -/
theorem textFieldEditingChanged_code {j : Nat} {sheet : ClientDetailSheet} {text : String}
    (h : a.textFieldEditingChanged j sheet text = .ok b) (haccept : sheet.acceptsEdit text = true) :
    ∃ socket tripId, a.sockets.clientproviderRequestSocket = some socket ∧
      Dict.get? sheet.currentRequest "TripId" = some tripId ∧
      b.frames = a.frames ++ [(socket, .reached tripId)] ∧
      b.trips = a.trips ++ [{ currentRequest := sheet.currentRequest }] := by
  simp only [textFieldEditingChanged, if_pos haccept, bind_eq_ok, forceKey_eq_ok,
    pure_eq_ok] at h
  obtain ⟨socket, hsocket, tripId, htrip, c, hpush, rfl⟩ := h
  obtain rfl := pushStartTrip_inv hpush
  exact ⟨socket, tripId, requestSocket_eq_ok.mp hsocket, htrip, rfl, rfl⟩

/-- The frame is about the sheet's own trip, and carries its own copy of the location. -/
theorem cancelTrip_inv {j : Nat} {sheet : ClientDetailSheet} {reason : String}
    (h : a.cancelTrip j sheet reason = .ok b) :
    ∃ socket clientId tripId providerId,
      (a.sockets.clientproviderRequestSocket = some socket ∧
        Dict.get? sheet.currentRequest "ClientId" = some clientId ∧
        Dict.get? sheet.currentRequest "TripId" = some tripId ∧
        Dict.get? sheet.currentRequest "ProviderId" = some providerId) ∧
      b = (a.write socket (.cancelled clientId tripId providerId sheet.clientLocation reason)).putSheet
        j sheet.dismiss := by
  simp only [cancelTrip, bind_eq_ok, forceKey_eq_ok, pure_eq_ok] at h
  obtain ⟨socket, hsocket, clientId, hclient, tripId, htrip, providerId, hprovider, rfl⟩ := h
  exact ⟨socket, clientId, tripId, providerId,
    ⟨requestSocket_eq_ok.mp hsocket, hclient, htrip, hprovider⟩, rfl⟩

/-- The parameters are those of the screen's own trip. -/
theorem btnActionPressed_inv {k : Nat} {screen : StartTrip}
    (h : a.btnActionPressed k screen = .ok b) :
    ∃ request, Dict.get? screen.currentRequest "ClientId" = some request.clientId ∧
      Dict.get? screen.currentRequest "TripId" = some request.tripId ∧
      Dict.get? screen.currentRequest "ProviderId" = some request.providerId ∧
      request.statusCode = screen.statusCode ∧
      b = { a with
        startEndRequests := a.startEndRequests ++ [request]
        startEndCalls := a.startEndCalls.issue (k, request.statusCode) } := by
  simp only [btnActionPressed, StartTrip.btnActionPressed, bind_eq_ok, forceKey_eq_ok,
    pure_eq_ok] at h
  obtain ⟨request, ⟨clientId, hclient, tripId, htrip, providerId, hprovider, rfl⟩, rfl⟩ := h
  exact ⟨_, hclient, htrip, hprovider, rfl, rfl⟩

theorem dashboardDisconnect_inv {i : Nat} {code : Option Int}
    (h : a.dashboardDisconnect i d code = .ok b) :
    b = a ∨ (∃ providerId, b = a.activate i providerId) ∨
      b = a.putDashboard i d.invalidateTimer := by
  simp only [dashboardDisconnect, bind_eq_ok] at h
  obtain ⟨code, _, h⟩ := h
  split at h
  · exact Or.inr (requestSocketToChangeStatusOrLocation_inv h)
  · rw [pure_eq_ok] at h
    exact Or.inl h.symm

theorem dashboardMessage_inv {i socket selectedIndex : Nat} {text : Message}
    {state : ApplicationState} (h : a.dashboardMessage i d socket text state selectedIndex = .ok b) :
    (a.sockets.providerConnectionSocket = some socket ∧
        ∃ d', d.providerMessage text state selectedIndex = .ok d' ∧ b = a.putDashboard i d') ∨
      (a.sockets.clientproviderRequestSocket = some socket ∧
        ∃ d', d.requestMessage text = .ok d' ∧ b = a.putDashboard i d') ∨ b = a := by
  unfold dashboardMessage at h
  split at h
  · rename_i hstatus
    simp only [bind_eq_ok, pure_eq_ok] at h
    obtain ⟨d', hd', rfl⟩ := h
    exact Or.inl ⟨hstatus, d', hd', rfl⟩
  · split at h
    · rename_i hrequest
      simp only [bind_eq_ok, pure_eq_ok] at h
      obtain ⟨d', hd', rfl⟩ := h
      exact Or.inr (Or.inl ⟨hrequest, d', hd', rfl⟩)
    · rw [pure_eq_ok] at h
      exact Or.inr (Or.inr h.symm)

/-- A message closes the sheet, or does nothing to it. -/
theorem sheetMessage_inv {j socket : Nat} {sheet : ClientDetailSheet} {text : Message}
    (h : a.sheetMessage j sheet socket text = .ok b) :
    b = a ∨ b = a.putSheet j sheet ∨ b = a.putSheet j sheet.dismiss := by
  unfold sheetMessage at h
  split at h
  · simp only [bind_eq_ok, pure_eq_ok, ClientDetailSheet.requestMessage] at h
    obtain ⟨sheet', ⟨o, _, hsheet⟩, rfl⟩ := h
    cases o with
    | none =>
      rw [pure_eq_ok] at hsheet
      exact Or.inr (Or.inl (by rw [hsheet]))
    | some dict =>
      simp only [bind_eq_ok] at hsheet
      obtain ⟨cancelled, _, hsheet⟩ := hsheet
      split at hsheet
      · rw [pure_eq_ok] at hsheet
        exact Or.inr (Or.inr (by rw [hsheet]))
      · rw [pure_eq_ok] at hsheet
        exact Or.inr (Or.inl (by rw [hsheet]))
  · rw [pure_eq_ok] at h
    exact Or.inl h.symm

/-! ## 3. Event by event -/

/-- The socket has called back. -/
def addConnected (a : ProviderApp) (socket : Nat) : ProviderApp :=
  { a with connected := a.connected ++ [socket] }

/-- The dashboard without the call that is being answered. -/
def answered (d : ProviderDashboard) (call : Nat) : ProviderDashboard :=
  { d with directionsCalls := d.directionsCalls.retire call }

/-- What the event leaves behind, in terms of the handlers. -/
def StepOf (distance : CLLocation → CLLocation → ℚ) (a b : ProviderApp) : ProviderEvent → Prop
  | .tripStatusReply existing => b = a.tripStatusReply existing
  | .notificationTapped => b = a.notificationTapped
  | .viewDidLoad => a.viewDidLoad = .ok b
  | .viewWillAppear i => ∃ d, a.dashboards[i]? = some d ∧ b = a.viewWillAppear i d
  | .willEnterForeground i =>
    ∃ d, a.dashboards[i]? = some d ∧ a.willEnterForeground i d = .ok b
  | .btnCancelRequest i =>
    ∃ d, a.dashboards[i]? = some d ∧ d.requestViewIsHidden = false ∧
      b = a.putDashboard i d.cancelRequest
  | .btnAcceptRequest i =>
    ∃ d, a.dashboards[i]? = some d ∧ d.requestViewIsHidden = false ∧
      a.btnAcceptRequest i d = .ok b
  | .switchValueChanged i isOn =>
    ∃ d, a.dashboards[i]? = some d ∧ a.switchValueChanged i d isOn = .ok b
  | .timerViewFinished i =>
    ∃ d, a.dashboards[i]? = some d ∧ b = a.putDashboard i d.timerViewFinished
  | .timerFired i =>
    ∃ d, a.dashboards[i]? = some d ∧ d.timerIsValid = true ∧ a.timerFired d = .ok b
  | .directionsReply i call success =>
    ∃ d, a.dashboards[i]? = some d ∧ d.directionsCalls.waiting call = some () ∧
      a.directionsReply i (answered d call) success = .ok b
  | .tracingLocation l =>
    (∃ i d d', a.locationDelegate = some (.dashboard i) ∧ a.dashboards[i]? = some d ∧
        d.tracingLocation distance l = .ok d' ∧ b = a.putDashboard i d') ∨
      ∃ j sheet, a.sheets[j]? = some sheet ∧ b = a.putSheet j (sheet.tracingLocation l)
  | .onConnect socket =>
    socket < a.sockets.sockets.length ∧ socket ∉ a.connected ∧
      (b = a.addConnected socket ∨ ∃ i d, a.sockets.delegate = some (.dashboard i) ∧
        a.dashboards[i]? = some d ∧ (a.addConnected socket).dashboardConnect d socket = .ok b)
  | .onDisconnect code =>
    ∃ i d, a.sockets.delegate = some (.dashboard i) ∧ a.dashboards[i]? = some d ∧
      a.dashboardDisconnect i d code = .ok b
  | .onMessage socket text state selectedIndex =>
    socket ∈ a.connected ∧
      ((∃ i d, a.sockets.delegate = some (.dashboard i) ∧ a.dashboards[i]? = some d ∧
          a.dashboardMessage i d socket text state selectedIndex = .ok b) ∨
        ∃ j sheet, a.sockets.delegate = some (.clientDetail j) ∧ a.sheets[j]? = some sheet ∧
          a.sheetMessage j sheet socket text = .ok b)
  | .textFieldEditingChanged j text =>
    ∃ sheet, a.sheets[j]? = some sheet ∧ sheet.isPresented = true ∧
      a.textFieldEditingChanged j sheet text = .ok b
  | .cancelTrip j reason =>
    ∃ sheet, a.sheets[j]? = some sheet ∧ a.cancelTrip j sheet reason = .ok b
  | .btnActionPressed k =>
    ∃ screen, a.trips[k]? = some screen ∧ a.btnActionPressed k screen = .ok b
  | .startEndReply call success =>
    ∃ k statusCode, a.startEndCalls.waiting call = some (k, statusCode) ∧
      b = { a with startEndCalls := a.startEndCalls.retire call }.startEndReply k statusCode success

/-- **The inversion lemma of the machine.** -/
theorem step_inv {e : ProviderEvent} (h : (machine distance).Step a e b) :
    StepOf distance a b e := by
  have h' : react distance a e = some (.ok b) := h
  cases e with
  | tripStatusReply existing =>
    simp only [react, Option.some.injEq, Except.ok.injEq] at h'
    exact h'.symm
  | notificationTapped =>
    simp only [react, Option.some.injEq, Except.ok.injEq] at h'
    exact h'.symm
  | viewDidLoad => exact Option.some.inj h'
  | viewWillAppear i =>
    simp only [react, Option.map_eq_some_iff] at h'
    obtain ⟨d, hd, h'⟩ := h'
    exact ⟨d, hd, (Except.ok.inj h').symm⟩
  | willEnterForeground i =>
    simp only [react, Option.map_eq_some_iff] at h'
    exact h'
  | btnCancelRequest i =>
    simp only [react, Option.bind_eq_some_iff] at h'
    obtain ⟨d, hd, h'⟩ := h'
    split at h'
    · exact absurd h' (by simp)
    · rename_i hshown
      exact ⟨d, hd, by simpa using hshown, (Except.ok.inj (Option.some.inj h')).symm⟩
  | btnAcceptRequest i =>
    simp only [react, Option.bind_eq_some_iff] at h'
    obtain ⟨d, hd, h'⟩ := h'
    split at h'
    · exact absurd h' (by simp)
    · rename_i hshown
      exact ⟨d, hd, by simpa using hshown, Option.some.inj h'⟩
  | switchValueChanged i isOn =>
    simp only [react, Option.map_eq_some_iff] at h'
    exact h'
  | timerViewFinished i =>
    simp only [react, Option.bind_eq_some_iff] at h'
    obtain ⟨d, hd, h'⟩ := h'
    split at h'
    · exact ⟨d, hd, (Except.ok.inj (Option.some.inj h')).symm⟩
    · exact absurd h' (by simp)
  | timerFired i =>
    simp only [react, Option.bind_eq_some_iff] at h'
    obtain ⟨d, hd, h'⟩ := h'
    split at h'
    · rename_i hvalid
      exact ⟨d, hd, hvalid, Option.some.inj h'⟩
    · exact absurd h' (by simp)
  | directionsReply i call success =>
    simp only [react, Option.bind_eq_some_iff, Option.map_eq_some_iff] at h'
    obtain ⟨d, hd, _, hw, h'⟩ := h'
    exact ⟨d, hd, hw, h'⟩
  | tracingLocation l =>
    simp only [react, tracingLocation] at h'
    split at h'
    · rename_i i hdelegate
      simp only [Option.map_eq_some_iff, bind_eq_ok, pure_eq_ok] at h'
      obtain ⟨d, hd, d', hd', rfl⟩ := h'
      exact Or.inl ⟨i, d, d', hdelegate, hd, hd', rfl⟩
    · rename_i j hdelegate
      simp only [Option.map_eq_some_iff, pure_eq_ok] at h'
      obtain ⟨sheet, hsheet, rfl⟩ := h'
      exact Or.inr ⟨j, sheet, hsheet, rfl⟩
    · exact absurd h' (by simp)
  | onConnect socket =>
    simp only [react] at h'
    split at h'
    · rename_i hnew
      refine ⟨hnew.1, hnew.2.1, ?_⟩
      simp only [Option.some.injEq, onConnect] at h'
      split at h'
      · rename_i i hdelegate
        split at h'
        · rename_i d hd
          exact Or.inr ⟨i, d, hdelegate, hd, h'⟩
        · rw [pure_eq_ok] at h'
          exact Or.inl h'.symm
      · rw [pure_eq_ok] at h'
        exact Or.inl h'.symm
    · exact absurd h' (by simp)
  | onDisconnect code =>
    simp only [react] at h'
    split at h'
    · rename_i i hdelegate
      simp only [Option.map_eq_some_iff] at h'
      obtain ⟨d, hd, h'⟩ := h'
      exact ⟨i, d, hdelegate, hd, h'⟩
    · exact absurd h' (by simp)
  | onMessage socket text state selectedIndex =>
    simp only [react] at h'
    split at h'
    · rename_i hconnected
      refine ⟨hconnected.1, ?_⟩
      split at h'
      · rename_i i hdelegate
        simp only [Option.map_eq_some_iff] at h'
        obtain ⟨d, hd, h'⟩ := h'
        exact Or.inl ⟨i, d, hdelegate, hd, h'⟩
      · rename_i j hdelegate
        simp only [Option.map_eq_some_iff] at h'
        obtain ⟨sheet, hsheet, h'⟩ := h'
        exact Or.inr ⟨j, sheet, hdelegate, hsheet, h'⟩
      · exact absurd h' (by simp)
    · exact absurd h' (by simp)
  | textFieldEditingChanged j text =>
    simp only [react, Option.bind_eq_some_iff] at h'
    obtain ⟨sheet, hsheet, h'⟩ := h'
    split at h'
    · rename_i hpresented
      exact ⟨sheet, hsheet, hpresented, Option.some.inj h'⟩
    · exact absurd h' (by simp)
  | cancelTrip j reason =>
    simp only [react, Option.bind_eq_some_iff] at h'
    obtain ⟨sheet, hsheet, h'⟩ := h'
    split at h'
    · exact ⟨sheet, hsheet, Option.some.inj h'⟩
    · exact absurd h' (by simp)
  | btnActionPressed k =>
    simp only [react, Option.bind_eq_some_iff] at h'
    obtain ⟨screen, hscreen, h'⟩ := h'
    split at h'
    · exact absurd h' (by simp)
    · exact ⟨screen, hscreen, Option.some.inj h'⟩
  | startEndReply call success =>
    simp only [react, Option.map_eq_some_iff, Prod.exists] at h'
    obtain ⟨k, statusCode, hw, h'⟩ := h'
    exact ⟨k, statusCode, hw, (Except.ok.inj h').symm⟩

/-- A trip is cancelled on a sheet that is on screen. -/
theorem presented_of_cancelTrip {j : Nat} {reason : String}
    (h : (machine distance).Step a (.cancelTrip j reason) b) :
    ∃ sheet, a.sheets[j]? = some sheet ∧ sheet.isPresented = true := by
  have h' : react distance a (.cancelTrip j reason) = some (.ok b) := h
  simp only [react, Option.bind_eq_some_iff] at h'
  obtain ⟨sheet, hsheet, h'⟩ := h'
  split at h'
  · rename_i hpresented
    exact ⟨sheet, hsheet, hpresented⟩
  · exact absurd h' (by simp)

/-! ## 4. What a step leaves alone -/

/-- The parts of the app that laws are about. -/
inductive Part where
  | device
  | sockets
  | connected
  | dashboards
  | sheets
  | frames
  | trips
  deriving DecidableEq

/-- The parts that the handler of an event may write to. -/
def touches : ProviderEvent → List Part
  | .tripStatusReply _ => [.device]
  | .notificationTapped => [.device]
  | .viewDidLoad => [.sockets, .dashboards, .trips]
  | .viewWillAppear _ => [.dashboards]
  | .willEnterForeground _ => [.dashboards]
  | .btnCancelRequest _ => [.dashboards]
  | .btnAcceptRequest _ => [.sockets, .dashboards]
  | .switchValueChanged _ _ => [.sockets, .dashboards]
  | .timerViewFinished _ => [.dashboards]
  | .timerFired _ => [.frames]
  | .directionsReply _ _ _ => [.sockets, .dashboards, .sheets]
  | .tracingLocation _ => [.dashboards, .sheets]
  | .onConnect _ => [.connected, .frames]
  | .onDisconnect _ => [.sockets, .dashboards]
  | .onMessage _ _ _ _ => [.dashboards, .sheets]
  | .textFieldEditingChanged _ _ => [.device, .sheets, .frames, .trips]
  | .cancelTrip _ _ => [.sheets, .frames]
  | .btnActionPressed _ => [.trips]
  | .startEndReply _ _ => [.trips]

/-- Every part is as it was, or is one that the event may write to. -/
structure Spares (a b : ProviderApp) (e : ProviderEvent) : Prop where
  device : .device ∈ touches e ∨ b.device = a.device
  sockets : .sockets ∈ touches e ∨ b.sockets = a.sockets
  connected : .connected ∈ touches e ∨ b.connected = a.connected
  dashboards : .dashboards ∈ touches e ∨ b.dashboards = a.dashboards
  sheets : .sheets ∈ touches e ∨ b.sheets = a.sheets
  frames : .frames ∈ touches e ∨ b.frames = a.frames
  trips : .trips ∈ touches e ∨ (b.trips = a.trips ∧ b.startEndRequests = a.startEndRequests)

/-- A handler that does nothing. -/
theorem Spares.refl (e : ProviderEvent) : Spares a a e where
  device := .inr rfl
  sockets := .inr rfl
  connected := .inr rfl
  dashboards := .inr rfl
  sheets := .inr rfl
  frames := .inr rfl
  trips := .inr ⟨rfl, rfl⟩

/-- A handler that writes to one dashboard. -/
theorem Spares.putDashboard {e : ProviderEvent} (he : .dashboards ∈ touches e) (i : Nat)
    (d : ProviderDashboard) : Spares a (a.putDashboard i d) e where
  device := .inr rfl
  sockets := .inr rfl
  connected := .inr rfl
  dashboards := .inl he
  sheets := .inr rfl
  frames := .inr rfl
  trips := .inr ⟨rfl, rfl⟩

/-- **Every step spares what its event does not write to.** -/
theorem step_spares {e : ProviderEvent} (h : (machine distance).Step a e b) : Spares a b e := by
  have hof : StepOf distance a b e := step_inv h
  cases e with
  | tripStatusReply existing =>
    obtain rfl : b = a.tripStatusReply existing := hof
    cases existing with
    | none => exact .refl _
    | some trip =>
      exact ⟨.inl (by simp [touches]), .inr rfl, .inr rfl, .inr rfl, .inr rfl, .inr rfl,
        .inr ⟨rfl, rfl⟩⟩
  | notificationTapped =>
    obtain rfl : b = a.notificationTapped := hof
    exact ⟨.inl (by simp [touches]), .inr rfl, .inr rfl, .inr rfl, .inr rfl, .inr rfl,
      .inr ⟨rfl, rfl⟩⟩
  | viewDidLoad =>
    rcases viewDidLoad_inv hof with rfl | ⟨trip, clientId, _, _, _, rfl⟩
    · exact ⟨.inr rfl, .inr rfl, .inr rfl, .inl (by simp [touches]), .inr rfl, .inr rfl,
        .inr ⟨rfl, rfl⟩⟩
    · exact ⟨.inr rfl, .inl (by simp [touches]), .inr rfl, .inl (by simp [touches]), .inr rfl,
        .inr rfl, .inl (by simp [touches])⟩
  | viewWillAppear i =>
    obtain ⟨d, _, rfl⟩ := hof
    exact ⟨.inr rfl, .inr rfl, .inr rfl, .inl (by simp [touches]), .inr rfl, .inr rfl,
      .inr ⟨rfl, rfl⟩⟩
  | willEnterForeground i =>
    obtain ⟨d, _, hof⟩ := hof
    unfold willEnterForeground at hof
    split at hof
    · simp only [bind_eq_ok, pure_eq_ok] at hof
      obtain ⟨_, _, rfl⟩ := hof
      exact .putDashboard (by simp [touches]) i _
    · rw [pure_eq_ok] at hof
      exact hof ▸ .refl _
  | btnCancelRequest i =>
    obtain ⟨d, _, _, rfl⟩ := hof
    exact .putDashboard (by simp [touches]) i _
  | btnAcceptRequest i =>
    obtain ⟨d, _, _, hof⟩ := hof
    obtain ⟨_, clientId, _, _, rfl⟩ := btnAcceptRequest_inv hof
    exact ⟨.inr rfl, .inl (by simp [touches]), .inr rfl, .inl (by simp [touches]), .inr rfl,
      .inr rfl, .inr ⟨rfl, rfl⟩⟩
  | switchValueChanged i isOn =>
    obtain ⟨d, _, hof⟩ := hof
    rcases switchValueChanged_inv hof with ⟨valid, rfl⟩ | ⟨providerId, rfl⟩
    · exact .putDashboard (by simp [touches]) i _
    · exact ⟨.inr rfl, .inl (by simp [touches]), .inr rfl, .inl (by simp [touches]), .inr rfl,
        .inr rfl, .inr ⟨rfl, rfl⟩⟩
  | timerViewFinished i =>
    obtain ⟨d, _, rfl⟩ := hof
    exact .putDashboard (by simp [touches]) i _
  | timerFired i =>
    obtain ⟨d, _, _, hof⟩ := hof
    obtain ⟨_, _, _, _, rfl⟩ := timerFired_inv hof
    exact ⟨.inr rfl, .inr rfl, .inr rfl, .inr rfl, .inr rfl, .inl (by simp [touches]),
      .inr ⟨rfl, rfl⟩⟩
  | directionsReply i call success =>
    obtain ⟨d, _, _, hof⟩ := hof
    rcases directionsReply_inv hof with ⟨_, rfl⟩ | ⟨_, _, _, _, _, rfl⟩
    · exact .putDashboard (by simp [touches]) i _
    · exact ⟨.inr rfl, .inl (by simp [touches]), .inr rfl, .inl (by simp [touches]),
        .inl (by simp [touches]), .inr rfl, .inr ⟨rfl, rfl⟩⟩
  | tracingLocation l =>
    rcases hof with ⟨i, d, d', _, _, _, rfl⟩ | ⟨j, sheet, _, rfl⟩
    · exact .putDashboard (by simp [touches]) i d'
    · exact ⟨.inr rfl, .inr rfl, .inr rfl, .inr rfl, .inl (by simp [touches]), .inr rfl,
        .inr ⟨rfl, rfl⟩⟩
  | onConnect socket =>
    have hconnected : .connected ∈ touches (.onConnect socket) := by simp [touches]
    have hframes : .frames ∈ touches (.onConnect socket) := by simp [touches]
    obtain ⟨_, _, rfl | ⟨i, d, _, _, hof⟩⟩ := hof
    · exact ⟨.inr rfl, .inr rfl, .inl hconnected, .inr rfl, .inr rfl, .inl hframes,
        .inr ⟨rfl, rfl⟩⟩
    · rcases dashboardConnect_inv hof with ⟨_, rfl⟩ | ⟨_, _, _, _, _, _, _, rfl⟩
      · exact ⟨.inr rfl, .inr rfl, .inl hconnected, .inr rfl, .inr rfl, .inl hframes,
          .inr ⟨rfl, rfl⟩⟩
      · exact ⟨.inr rfl, .inr rfl, .inl hconnected, .inr rfl, .inr rfl, .inl hframes,
          .inr ⟨rfl, rfl⟩⟩
  | onDisconnect code =>
    obtain ⟨i, d, _, _, hof⟩ := hof
    rcases dashboardDisconnect_inv hof with rfl | ⟨_, rfl⟩ | rfl
    · exact .refl _
    · exact ⟨.inr rfl, .inl (by simp [touches]), .inr rfl, .inl (by simp [touches]), .inr rfl,
        .inr rfl, .inr ⟨rfl, rfl⟩⟩
    · exact .putDashboard (by simp [touches]) i _
  | onMessage socket text state selectedIndex =>
    have hsheets : .sheets ∈ touches (.onMessage socket text state selectedIndex) := by
      simp [touches]
    obtain ⟨_, ⟨i, d, _, _, hof⟩ | ⟨j, sheet, _, _, hof⟩⟩ := hof
    · rcases dashboardMessage_inv hof with ⟨_, _, _, rfl⟩ | ⟨_, _, _, rfl⟩ | rfl
      · exact .putDashboard (by simp [touches]) i _
      · exact .putDashboard (by simp [touches]) i _
      · exact .refl _
    · rcases sheetMessage_inv hof with rfl | rfl | rfl
      · exact .refl _
      · exact ⟨.inr rfl, .inr rfl, .inr rfl, .inr rfl, .inl hsheets, .inr rfl, .inr ⟨rfl, rfl⟩⟩
      · exact ⟨.inr rfl, .inr rfl, .inr rfl, .inr rfl, .inl hsheets, .inr rfl, .inr ⟨rfl, rfl⟩⟩
  | textFieldEditingChanged j text =>
    obtain ⟨sheet, _, _, hof⟩ := hof
    rcases textFieldEditingChanged_inv hof with rfl | ⟨_, _, _, _, rfl⟩
    · exact .refl _
    · exact ⟨.inl (by simp [touches]), .inr rfl, .inr rfl, .inr rfl, .inl (by simp [touches]),
        .inl (by simp [touches]), .inl (by simp [touches])⟩
  | cancelTrip j reason =>
    obtain ⟨sheet, _, hof⟩ := hof
    obtain ⟨_, _, _, _, _, rfl⟩ := cancelTrip_inv hof
    exact ⟨.inr rfl, .inr rfl, .inr rfl, .inr rfl, .inl (by simp [touches]),
      .inl (by simp [touches]), .inr ⟨rfl, rfl⟩⟩
  | btnActionPressed k =>
    obtain ⟨screen, _, hof⟩ := hof
    obtain ⟨_, _, _, _, _, rfl⟩ := btnActionPressed_inv hof
    exact ⟨.inr rfl, .inr rfl, .inr rfl, .inr rfl, .inr rfl, .inr rfl, .inl (by simp [touches])⟩
  | startEndReply call success =>
    obtain ⟨k, statusCode, _, rfl⟩ := hof
    unfold startEndReply
    split
    · exact ⟨.inr rfl, .inr rfl, .inr rfl, .inr rfl, .inr rfl, .inr rfl, .inl (by simp [touches])⟩
    · exact ⟨.inr rfl, .inr rfl, .inr rfl, .inr rfl, .inr rfl, .inr rfl, .inl (by simp [touches])⟩

/-! ## 5. Events of a working day -/

/-- Provider `id` is signed in. -/
def sampleProvider (id : Int) : Device where
  defaults := UserDefaults.empty.set .userProfileInfoDef (.dict [("ProviderId", .ofInt id)])
  appDelegate := {}

/-- The dashboard is loaded, has a location and is online on socket 0. -/
def onlineEvents : List ProviderEvent :=
  [.viewDidLoad, .viewWillAppear 0, .tracingLocation ⟨40, -73⟩, .switchValueChanged 0 true,
    .onConnect 0]

/-- A request of client `id`, or the withdrawal of one. -/
def requestText (id : Int) (status : String) : Message :=
  some (.obj [("ClientData", .obj [("ClientId", .ofInt id), ("RequestStatus", .str status),
    ("latitude", .str "40.001"), ("longitude", .str "-73")])])

/-- The request is shown and accepted, and socket 1 calls back. -/
def acceptEvents (id : Int) : List ProviderEvent :=
  [.onMessage 0 (requestText id "requested") .active 0, .btnAcceptRequest 0, .onConnect 1]

/-- The acceptance of provider `providerId` as the server relays it, with trip and code. -/
def acceptanceText (id providerId : Int) : Message :=
  some (.obj [("RequestType", .str "trip_accepted"), ("ClientId", .ofInt id),
    ("ProviderId", .str (toString providerId)), ("TripId", .ofInt 9),
    ("VerificationCode", .str "1234")])

/-- The acceptance comes back, and the sheet of its trip opens. -/
def sheetEvents (id providerId : Int) : List ProviderEvent :=
  [.onMessage 1 (acceptanceText id providerId) .active 0, .directionsReply 0 0 true]

end ProviderApp

end WeatherAccommodation
