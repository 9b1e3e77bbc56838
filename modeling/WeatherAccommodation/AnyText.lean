/-
# Any text at all

Five screens listen to the sockets, and none of them can choose what it is told.  A text that is no
JSON throws and is caught; of what is JSON, the handlers unwrap the dictionary, and then its values
one by one, mostly by force.

`onMessage_returns_iff` says for each of the five which texts it returns on, in any state.  No array
is among them, except on a socket that the screen does not look at; of the objects, those with every
value that the branch they take unwraps.
-/
import WeatherAccommodation.Client.SecondTrip
import WeatherAccommodation.Library.JsonText
import WeatherAccommodation.Provider.NotifiedRequest

namespace WeatherAccommodation

open Foundation Reactive

/-- The text is an object that a handler gets through, or nothing at all. -/
def IsRead (text : Message) (P : Dict → Prop) : Prop :=
  ¬IsArray text ∧ ∀ dict, text = some (.obj dict) → P dict

theorem IsRead.congr {text : Message} {P Q : Dict → Prop} (h : ∀ dict, P dict ↔ Q dict) :
    IsRead text P ↔ IsRead text Q :=
  and_congr Iff.rfl (forall_congr' fun dict => imp_congr Iff.rfl (h dict))

/-! ## 1. The client's dashboard -/

namespace ClientDashboard

variable {distance : CLLocation → CLLocation → ℚ} {d : ClientDashboard} {provider : Provider}

/-- Each time the provider is removed, the two arrays are still that long. -/
def CanErase (d : ClientDashboard) (id : Int) : Prop :=
  ∀ (n : Nat) (p : Provider), d.arrOnlineProviders[n]? = some p → (p.providerId == id) = true →
    n + (d.arrOnlineProviders.take n).countP (fun q => q.providerId == id) <
        d.arrOnlineProviders.length ∧
      n + (d.arrOnlineProviders.take n).countP (fun q => q.providerId == id) < d.arrMarkers.length

/-- What it takes to handle a status. -/
structure CanHandle (d : ClientDashboard) (provider : Provider) : Prop where
  /-- Who comes online is located, and so is the client. -/
  connected : provider.status = ProviderStatus.connected →
    d.isListed provider.providerId = false → d.clientLocation.isSome = true ∧
      (double? provider.latitude).isSome = true ∧ (double? provider.longitude).isSome = true
  disconnected : provider.status ≠ ProviderStatus.connected → d.CanErase provider.providerId

theorem appendIfReachable_isOk_iff :
    (∃ d', d.appendIfReachable distance provider = .ok d') ↔ d.clientLocation.isSome = true ∧
      (double? provider.latitude).isSome = true ∧ (double? provider.longitude).isSome = true := by
  simp only [appendIfReachable, isProviderInsideReachableArea, bind_eq_ok, unwrap_eq_ok,
    pure_eq_ok]
  constructor
  · rintro ⟨_, l, hl, _, ⟨here, hhere, _⟩, _⟩
    exact ⟨by simp [hhere], forceLocation_isOk_iff.mp ⟨l, hl⟩⟩
  · rintro ⟨hhere, hl⟩
    obtain ⟨here, hhere⟩ := Option.isSome_iff_exists.mp hhere
    obtain ⟨l, hl⟩ := forceLocation_isOk_iff.mpr hl
    by_cases hreach : distance here l ≤ oneMile
    · exact ⟨d.append provider l, l, hl, true, ⟨here, hhere, by simp [hreach]⟩, rfl⟩
    · exact ⟨d, l, hl, false, ⟨here, hhere, by simp [hreach]⟩, rfl⟩

theorem providerDisconnected_isOk_iff :
    (∃ d', d.providerDisconnected provider = .ok d') ↔ d.CanErase provider.providerId := by
  unfold providerDisconnected
  split
  · have hloop := @eraseEnumerated_isOk_iff Provider Marker Trap
      (fun p => p.providerId == provider.providerId) .indexOutOfRange d.arrOnlineProviders 0
      d.arrOnlineProviders d.arrMarkers
    simp only [Nat.zero_add] at hloop
    rw [CanErase, ← hloop]
    exact exists_bind_pure_eq_ok
  · rename_i hlisted
    refine ⟨fun _ n p hp hid => ?_, fun _ => ⟨d, rfl⟩⟩
    exact absurd (List.any_eq_true.mpr ⟨p, List.mem_of_getElem? hp, hid⟩) hlisted

theorem handleStatus_isOk_iff :
    (∃ d', d.handleStatus distance provider = .ok d') ↔ d.CanHandle provider := by
  unfold handleStatus
  split
  · rename_i hconnected
    unfold providerConnected
    split
    · rename_i hlisted
      refine ⟨fun _ => ⟨fun _ hno => absurd hno (by simp [hlisted]), ?_⟩, fun _ => ⟨d, rfl⟩⟩
      exact fun hnot => absurd hconnected hnot
    · rename_i hlisted
      rw [appendIfReachable_isOk_iff]
      refine ⟨fun h => ⟨fun _ _ => h, fun hnot => absurd hconnected hnot⟩, fun h => ?_⟩
      exact h.connected hconnected (by simpa using hlisted)
  · rename_i hnot
    rw [providerDisconnected_isOk_iff]
    exact ⟨fun h => ⟨fun hyes => absurd hyes hnot, fun _ => h⟩, fun h => h.disconnected hnot⟩

/-- **When `pingReceived` returns.** -/
theorem pingReceived_isOk_iff {text : Message} :
    (∃ d', d.pingReceived distance text = .ok d') ↔
      IsRead text fun dict => d.CanHandle (Provider.ofDict dict) := by
  unfold pingReceived
  rw [messageDict_bind_isOk_iff ⟨d, rfl⟩]
  exact IsRead.congr fun dict => handleStatus_isOk_iff

end ClientDashboard

namespace ClientSession

variable {distance : CLLocation → CLLocation → ℚ} {s : ClientSession} {text : Message}

/-- What it takes to handle a message on the request socket. -/
structure CanHandle (s : ClientSession) (dict : Dict) : Prop where
  requestType : IsTextIfAny dict "RequestType"
  located : Dict.string? dict "RequestType" = some Trip_Status.accepted →
    s.dashboard.clientLocation.isSome = true

theorem callDistanceMatrixAPI_isOk_iff {dict : Dict} :
    (∃ t, s.callDistanceMatrixAPI (some (.obj dict)) = .ok t) ↔
      s.dashboard.clientLocation.isSome = true := by
  simp only [callDistanceMatrixAPI, messageDict_obj, bind_eq_ok, Except.ok.injEq, exists_eq_left',
    unwrap_eq_ok, pure_eq_ok]
  constructor
  · rintro ⟨_, here, hhere, _⟩
    simp [hhere]
  · intro hhere
    obtain ⟨here, hhere⟩ := Option.isSome_iff_exists.mp hhere
    exact ⟨_, here, hhere, rfl⟩

theorem requestMessage_isOk_iff :
    (∃ t, s.requestMessage text = .ok t) ↔ IsRead text s.CanHandle := by
  unfold requestMessage
  rw [messageDict_bind_isOk_iff ⟨s, rfl⟩]
  constructor
  · rintro ⟨hnot, h⟩
    refine ⟨hnot, fun dict htext => ?_⟩
    obtain ⟨t, ht⟩ := h dict htext
    subst htext
    cases htype : Dict.get? dict "RequestType" with
    | none => exact ⟨by simp [IsTextIfAny, htype], by simp [Dict.string?, htype]⟩
    | some user =>
      simp only [htype, bind_eq_ok, unwrap_eq_ok] at ht
      obtain ⟨requestType, huser, ht⟩ := ht
      have hstring : Dict.string? dict "RequestType" = some requestType := by
        simp [Dict.string?, htype, huser]
      refine ⟨isTextIfAny_of_string? hstring, fun haccepted => ?_⟩
      obtain rfl := Option.some.inj (hstring.symm.trans haccepted)
      simp only [if_true, bind_eq_ok] at ht
      obtain ⟨u, hu, _⟩ := ht
      have hlocated := callDistanceMatrixAPI_isOk_iff.mp ⟨u, hu⟩
      exact hlocated
  · rintro ⟨hnot, h⟩
    refine ⟨hnot, fun dict htext => ?_⟩
    obtain ⟨htext', hlocated⟩ := h dict htext
    subst htext
    cases htype : Dict.get? dict "RequestType" with
    | none => exact ⟨s, by simp [htype, pure, Except.pure]⟩
    | some user =>
      obtain ⟨requestType, huser⟩ := Option.isSome_iff_exists.mp (htext' user htype)
      have hstring : Dict.string? dict "RequestType" = some requestType := by
        simp [Dict.string?, htype, huser]
      simp only [htype, bind_eq_ok, unwrap_eq_ok]
      by_cases haccepted : requestType = Trip_Status.accepted
      · subst haccepted
        have hhere : (s.put { s.dashboard with
            currentRequest := dict }).dashboard.clientLocation.isSome = true := hlocated hstring
        obtain ⟨u, hu⟩ := callDistanceMatrixAPI_isOk_iff.mpr hhere
        exact ⟨_, _, huser, by rw [if_pos rfl]; exact bind_eq_ok.mpr ⟨u, hu, rfl⟩⟩
      · exact ⟨s, requestType, huser, by rw [if_neg haccepted]; rfl⟩

/-- The condition, socket by socket. -/
def Returns (s : ClientSession) (socket : Nat) (text : Message) : Prop :=
  (s.sockets.clientCommonDataSocket = some socket →
      IsRead text fun dict => s.dashboard.CanHandle (Provider.ofDict dict)) ∧
    (s.sockets.clientCommonDataSocket ≠ some socket →
      s.sockets.clientproviderRequestSocket = some socket → IsRead text s.CanHandle)

/-- **When `onMessage` of the client's dashboard returns.** -/
theorem onMessage_isOk_iff {socket : Nat} :
    (∃ t, s.onMessage distance socket text = .ok t) ↔ s.Returns socket text := by
  unfold onMessage Returns
  by_cases hcommon : s.sockets.clientCommonDataSocket = some socket
  · rw [if_pos hcommon, exists_bind_pure_eq_ok, ClientDashboard.pingReceived_isOk_iff]
    simp [hcommon]
  · rw [if_neg hcommon]
    by_cases hrequest : s.sockets.clientproviderRequestSocket = some socket
    · rw [if_pos hrequest, requestMessage_isOk_iff]
      simp [hcommon, hrequest]
    · rw [if_neg hrequest]
      simp [hcommon, hrequest]

end ClientSession

/-! ## 2. The provider's dashboard -/

namespace ProviderDashboard

variable {d : ProviderDashboard} {text : Message} {state : ApplicationState} {selectedIndex : Nat}

/-- What it takes to handle a message about a request. -/
def CanHandle (d : ProviderDashboard) (state : ApplicationState) (selectedIndex : Nat)
    (dict : Dict) : Prop :=
  ∃ client, Dict.dict? dict "ClientData" = some client ∧ IsTextIfAny client "RequestStatus" ∧
    (Dict.string? client "RequestStatus" = some Request_Status.requested →
      ¬(state = .background ∨ (state = .active ∧ selectedIndex ≠ 0)) →
        d.requestViewIsHidden = true → d.IsDisplayable client)

/-- What it takes to handle an acceptance: the request that is current has a place. -/
structure CanAccept (d : ProviderDashboard) (dict : Dict) : Prop where
  requestType : IsTextIfAny dict "RequestType"
  located : Dict.string? dict "RequestType" = some Trip_Status.accepted → ∃ request,
    d.currentRequest = some request ∧ (Dict.get? request "latitude").isSome = true ∧
      (Dict.get? request "longitude").isSome = true

theorem providerMessage_isOk_iff :
    (∃ d', d.providerMessage text state selectedIndex = .ok d') ↔
      IsRead text (d.CanHandle state selectedIndex) := by
  unfold providerMessage
  rw [messageDict_bind_isOk_iff ⟨d, rfl⟩]
  refine and_congr Iff.rfl (forall_congr' fun dict => imp_congr_right fun htext => ?_)
  subst htext
  have hshown : ∀ client, Dict.dict? dict "ClientData" = some client →
      Dict.string? client "RequestStatus" = some Request_Status.requested →
      ((∃ d', d.showRequestUI (some (.obj dict)) = .ok d') ↔
        (d.requestViewIsHidden = true → d.IsDisplayable client)) := by
    intro client hclient hstatus
    have hne : Request_Status.requested ≠ Request_Status.cancelled := by decide
    rw [showRequestUI_isOk_iff]
    constructor
    · rintro ⟨_, h⟩
      obtain ⟨request, hrequest, _, hdisplayable⟩ := h dict rfl
      obtain rfl := Option.some.inj (hclient.symm.trans hrequest)
      exact hdisplayable (by simp [hstatus, hne])
    · intro h
      refine ⟨by simp [IsArray], fun dict' hdict' => ?_⟩
      obtain rfl : dict = dict' := by simpa using hdict'
      exact ⟨client, hclient, isTextIfAny_of_string? hstatus, fun _ => h⟩
  have hrest : ∀ client, Dict.dict? dict "ClientData" = some client → ((∃ d', (do
      if ← hasText client "RequestStatus" Request_Status.requested then
        if state = .background ∨ (state = .active ∧ selectedIndex ≠ 0) then
          return { d with requestDetail := some (.obj dict) }
        else d.showRequestUI (some (.obj dict))
      else if ← hasText client "RequestStatus" Request_Status.cancelled then
        return d.cancelRequest
      else if ← hasText client "RequestStatus" Trip_Status.accepted then return d.hideRequest
      else return d : Except Trap ProviderDashboard) = .ok d') ↔
      IsTextIfAny client "RequestStatus" ∧
        (Dict.string? client "RequestStatus" = some Request_Status.requested →
          ¬(state = .background ∨ (state = .active ∧ selectedIndex ≠ 0)) →
            d.requestViewIsHidden = true → d.IsDisplayable client)) := by
    intro client hclient
    rw [hasText_ite_isOk_iff, hasText_ite_isOk_iff, hasText_ite_isOk_iff]
    constructor
    · rintro ⟨htext, hrequested, _⟩
      refine ⟨htext, fun hstatus hseen => (hshown client hclient hstatus).mp ?_⟩
      have hok := hrequested hstatus
      rwa [if_neg hseen] at hok
    · rintro ⟨htext, hdisplayable⟩
      refine ⟨htext, fun hstatus => ?_, fun _ => ⟨htext, fun _ => ⟨_, rfl⟩, fun _ => ⟨htext,
        fun _ => ⟨_, rfl⟩, fun _ => ⟨_, rfl⟩⟩⟩⟩
      by_cases hseen : state = .background ∨ (state = .active ∧ selectedIndex ≠ 0)
      · rw [if_pos hseen]
        exact ⟨_, rfl⟩
      · rw [if_neg hseen]
        exact (hshown client hclient hstatus).mpr (hdisplayable hstatus hseen)
  simp only [bind_eq_ok, forceDict_eq_ok]
  constructor
  · rintro ⟨d', client, hclient, hd'⟩
    exact ⟨client, hclient, (hrest client hclient).mp ⟨d', by simpa using hd'⟩⟩
  · rintro ⟨client, hclient, hok⟩
    obtain ⟨d', hd'⟩ := (hrest client hclient).mpr hok
    exact ⟨d', client, hclient, by simpa using hd'⟩

theorem callDistanceAPI_isOk_iff :
    (∃ d', d.callDistanceAPI = .ok d') ↔ ∃ request, d.currentRequest = some request ∧
      (Dict.get? request "latitude").isSome = true ∧
        (Dict.get? request "longitude").isSome = true := by
  simp only [callDistanceAPI, requestKey, bind_eq_ok, unwrap_eq_ok, forceKey_eq_ok, pure_eq_ok]
  constructor
  · rintro ⟨_, latitude, ⟨request, hrequest, hlat⟩, longitude, ⟨request', hrequest', hlong⟩, _⟩
    obtain rfl := Option.some.inj (hrequest.symm.trans hrequest')
    exact ⟨request, hrequest, by simp [hlat], by simp [hlong]⟩
  · rintro ⟨request, hrequest, hlat, hlong⟩
    obtain ⟨latitude, hlat⟩ := Option.isSome_iff_exists.mp hlat
    obtain ⟨longitude, hlong⟩ := Option.isSome_iff_exists.mp hlong
    exact ⟨_, latitude, ⟨request, hrequest, hlat⟩, longitude, ⟨request, hrequest, hlong⟩, rfl⟩

theorem requestMessage_isOk_iff :
    (∃ d', d.requestMessage text = .ok d') ↔ IsRead text d.CanAccept := by
  unfold requestMessage
  rw [messageDict_bind_isOk_iff ⟨d, rfl⟩]
  refine IsRead.congr fun dict => ?_
  rw [hasText_ite_isOk_iff, exists_bind_pure_eq_ok, callDistanceAPI_isOk_iff]
  exact ⟨fun h => ⟨h.1, h.2.1⟩, fun h => ⟨h.requestType, h.located, fun _ => ⟨d, rfl⟩⟩⟩

end ProviderDashboard

namespace ProviderApp

variable {a : ProviderApp} {i j socket : Nat} {d : ProviderDashboard} {sheet : ClientDetailSheet}
  {text : Message} {state : ApplicationState} {selectedIndex : Nat}

/-- The condition, socket by socket. -/
def DashboardReturns (a : ProviderApp) (d : ProviderDashboard) (socket : Nat) (text : Message)
    (state : ApplicationState) (selectedIndex : Nat) : Prop :=
  (a.sockets.providerConnectionSocket = some socket →
      IsRead text (d.CanHandle state selectedIndex)) ∧
    (a.sockets.providerConnectionSocket ≠ some socket →
      a.sockets.clientproviderRequestSocket = some socket → IsRead text d.CanAccept)

/-- **When `onMessage` of the provider's dashboard returns.** -/
theorem dashboardMessage_isOk_iff :
    (∃ b, a.dashboardMessage i d socket text state selectedIndex = .ok b) ↔
      a.DashboardReturns d socket text state selectedIndex := by
  unfold dashboardMessage DashboardReturns
  by_cases hconnection : a.sockets.providerConnectionSocket = some socket
  · rw [if_pos hconnection, exists_bind_pure_eq_ok, ProviderDashboard.providerMessage_isOk_iff]
    simp [hconnection]
  · rw [if_neg hconnection]
    by_cases hrequest : a.sockets.clientproviderRequestSocket = some socket
    · rw [if_pos hrequest, exists_bind_pure_eq_ok, ProviderDashboard.requestMessage_isOk_iff]
      simp [hconnection, hrequest]
    · rw [if_neg hrequest]
      simp [hconnection, hrequest]

/-! ## 3. The sheets -/

/-- The condition on the provider's sheet. -/
def SheetReturns (a : ProviderApp) (socket : Nat) (text : Message) : Prop :=
  a.sockets.clientproviderRequestSocket = some socket →
    IsRead text fun dict => IsTextIfAny dict "RequestType"

/-- **When `onMessage` of the provider's sheet returns.** -/
theorem sheetMessage_isOk_iff :
    (∃ b, a.sheetMessage j sheet socket text = .ok b) ↔ a.SheetReturns socket text := by
  have hsheet : (∃ sheet', sheet.requestMessage text = .ok sheet') ↔
      IsRead text fun dict => IsTextIfAny dict "RequestType" := by
    unfold ClientDetailSheet.requestMessage
    rw [messageDict_bind_isOk_iff ⟨sheet, rfl⟩]
    refine IsRead.congr fun dict => ?_
    rw [hasText_ite_isOk_iff]
    exact ⟨fun h => h.1, fun h => ⟨h, fun _ => ⟨_, rfl⟩, fun _ => ⟨_, rfl⟩⟩⟩
  unfold sheetMessage SheetReturns
  by_cases hsocket : a.sockets.clientproviderRequestSocket = some socket
  · rw [if_pos hsocket, exists_bind_pure_eq_ok, hsheet]
    simp [hsocket]
  · rw [if_neg hsocket]
    simp [hsocket]

end ProviderApp

namespace ClientPhone

variable {distance : CLLocation → CLLocation → ℚ} {p : ClientPhone} {j k socket : Nat}
  {sheet : TripProviderDetail} {screen : ClientTrip} {text : Message} {inBackground : Bool}

/-- What it takes to handle a message on the sheet. -/
structure SheetHandles (p : ClientPhone) (sheet : TripProviderDetail) (dict : Dict) : Prop where
  requestType : IsTextIfAny dict "RequestType"
  reached : Dict.string? dict "RequestType" = some Request_Status.reached →
    sheet.isPresented = true ∧ (p.doesRequestExist = true →
      (Dict.int? sheet.currentRequest "TripStartTime").isSome = true)
  /-- The flag is reset before the trip screen reads it. -/
  started : Dict.string? dict "RequestType" = some Request_Status.started →
    p.doesRequestExist = true → sheet.isPresented = true

/-- The sheet makes way for the trip screen from where it is on screen. -/
theorem enterClientTrip_isOk_iff :
    (∃ q, p.enterClientTrip j sheet = .ok q) ↔ sheet.isPresented = true ∧
      (p.doesRequestExist = true →
        (Dict.int? sheet.currentRequest "TripStartTime").isSome = true) := by
  constructor
  · rintro ⟨q, h⟩
    refine ⟨(enterClientTrip_inv h).1, fun hflag => ?_⟩
    simp only [enterClientTrip, ClientTrip.viewDidLoad, hflag, if_true, bind_eq_ok,
      forceInt_eq_ok] at h
    obtain ⟨_, _, _, ⟨time, htime, _⟩, _⟩ := h
    simp [htime]
  · rintro ⟨hpresented, htime⟩
    have hscreen : ∃ screen, ClientTrip.viewDidLoad { currentRequest := sheet.currentRequest }
        p.doesRequestExist = .ok screen := by
      cases hflag : p.doesRequestExist with
      | false => exact ⟨_, rfl⟩
      | true =>
        obtain ⟨time, htime⟩ := Option.isSome_iff_exists.mp (htime hflag)
        exact ⟨_, bind_eq_ok.mpr ⟨time, forceInt_eq_ok.mpr htime, rfl⟩⟩
    obtain ⟨screen, hscreen⟩ := hscreen
    refine ⟨(p.dismissFrom j sheet).pushTrip screen, ?_⟩
    simp only [enterClientTrip, hpresented, if_true, unwrap_some, bind_eq_ok, hscreen]
    exact ⟨(), trivial, screen, rfl, rfl⟩

/-- To pass a text on is always possible, whether or not anybody is there. -/
theorem receivingLocationUpdate_isOk :
    ∃ q, p.receivingLocationUpdate distance sheet text = .ok q := by
  unfold receivingLocationUpdate
  cases hr : ClientApp.react distance p.app
      (.session sheet.delegate (.receivingLocationUpdate text)) with
  | none => exact ⟨p, rfl⟩
  | some r =>
    cases r with
    | ok b => exact ⟨_, rfl⟩
    | error t =>
      simp only [ClientApp.react, ClientApp.isOwnEvent, if_true, Option.bind_eq_some_iff,
        Option.map_eq_some_iff, ClientSession.react] at hr
      obtain ⟨s, _, r, hr, hmap⟩ := hr
      split at hr
      · obtain rfl := Option.some.inj hr
        exact absurd hmap (by simp [Except.map])
      · exact absurd hr (by simp)

/-- The reaction to an object whose type is a text. -/
theorem reaction_isOk_iff {flag : Bool} :
    (∃ r, TripProviderDetail.reaction flag text = .ok r) ↔
      IsRead text fun dict => IsTextIfAny dict "RequestType" := by
  unfold TripProviderDetail.reaction
  rw [messageDict_bind_isOk_iff ⟨.nothing, rfl⟩]
  refine IsRead.congr fun dict => ?_
  rw [hasText_ite_isOk_iff, hasText_ite_isOk_iff, hasText_ite_isOk_iff, hasText_ite_isOk_iff]
  exact ⟨fun h => h.1, fun h => ⟨h, fun _ => ⟨_, rfl⟩, fun _ => ⟨h, fun _ => ⟨_, rfl⟩,
    fun _ => ⟨h, fun _ => ⟨_, rfl⟩, fun _ => ⟨h, fun _ => ⟨_, rfl⟩, fun _ => ⟨_, rfl⟩⟩⟩⟩⟩⟩

/-- The condition on the client's sheet. -/
def SheetReturns (p : ClientPhone) (sheet : TripProviderDetail) (socket : Nat) (text : Message) :
    Prop :=
  p.app.sockets.clientproviderRequestSocket = some socket → IsRead text (p.SheetHandles sheet)

/-- What the sheet does on its socket. -/
theorem sheetMessage_of_reaction {r : DetailReaction}
    (hsocket : p.app.sockets.clientproviderRequestSocket = some socket) :
    TripProviderDetail.reaction p.doesRequestExist text = .ok r →
    p.sheetMessage distance j sheet socket text = match r with
      | .nothing => .ok p
      | .reached => p.enterClientTrip j sheet
      | .cancelled => .ok (p.dismissFrom j sheet)
      | .locationUpdated => p.receivingLocationUpdate distance sheet text
      | .started => (p.setFlag false).enterClientTrip j sheet := by
  intro hr
  unfold sheetMessage
  rw [if_pos hsocket, hr]
  cases r with
  | nothing => rfl
  | reached => rfl
  | cancelled => rfl
  | locationUpdated => rfl
  | started => rfl

/-- **When `onMessage` of the client's sheet returns.** -/
theorem sheetMessage_isOk_iff :
    (∃ q, p.sheetMessage distance j sheet socket text = .ok q) ↔
      p.SheetReturns sheet socket text := by
  constructor
  · rintro ⟨q, h⟩ hsocket
    have hr : ∃ r, TripProviderDetail.reaction p.doesRequestExist text = .ok r := by
      unfold sheetMessage at h
      rw [if_pos hsocket, bind_eq_ok] at h
      obtain ⟨r, hr, _⟩ := h
      exact ⟨r, hr⟩
    obtain ⟨hnot, htype⟩ := reaction_isOk_iff.mp hr
    refine ⟨hnot, fun dict htext => ⟨htype dict htext, fun hreached => ?_, ?_⟩⟩
    · subst htext
      have hopens := reaction_of_hasType ⟨dict, rfl, hreached⟩ p.doesRequestExist
      rw [reactionTo_reached] at hopens
      rw [sheetMessage_of_reaction hsocket hopens] at h
      exact enterClientTrip_isOk_iff.mp ⟨q, h⟩
    · intro hstarted hflag
      subst htext
      have hopens := reaction_of_hasType ⟨dict, rfl, hstarted⟩ p.doesRequestExist
      rw [reactionTo_started, if_pos hflag] at hopens
      rw [sheetMessage_of_reaction hsocket hopens] at h
      exact (enterClientTrip_isOk_iff.mp ⟨q, h⟩).1
  · intro h
    by_cases hsocket : p.app.sockets.clientproviderRequestSocket = some socket
    · obtain ⟨hnot, hhandles⟩ := h hsocket
      obtain ⟨r, hr⟩ := reaction_isOk_iff.mpr
        ⟨hnot, fun dict htext => (hhandles dict htext).requestType⟩
      rw [sheetMessage_of_reaction hsocket hr]
      rcases reaction_inv hr with rfl | ⟨rfl, dict, rfl, htype⟩ | ⟨rfl, _⟩ | ⟨rfl, _⟩ |
        ⟨rfl, hflag, dict, rfl, htype⟩
      · exact ⟨p, rfl⟩
      · exact enterClientTrip_isOk_iff.mpr ((hhandles dict rfl).reached htype)
      · exact ⟨_, rfl⟩
      · exact receivingLocationUpdate_isOk
      · refine enterClientTrip_isOk_iff.mpr ⟨(hhandles dict rfl).started htype hflag, ?_⟩
        exact fun hup => absurd hup (by simp [setFlag, doesRequestExist])
    · exact ⟨p, by simp [sheetMessage, hsocket, pure, Except.pure]⟩

/-! ## 4. The trip screen -/

/-- What it takes to handle a message on the trip screen: the end of a trip names its charge. -/
structure TripHandles (dict : Dict) : Prop where
  requestType : IsTextIfAny dict "RequestType"
  charge : Dict.string? dict "RequestType" = some Request_Status.ended →
    (Dict.string? dict "ChargeStatus").isSome = true ∧
      (Dict.get? dict "StripeChargeAmount").isSome = true

theorem tripRequestMessage_isOk_iff :
    (∃ screen', screen.requestMessage text inBackground = .ok screen') ↔
      IsRead text TripHandles := by
  unfold ClientTrip.requestMessage
  rw [messageDict_bind_isOk_iff ⟨screen, rfl⟩]
  refine IsRead.congr fun dict => ?_
  cases htype : Dict.get? dict "RequestType" with
  | none =>
    refine ⟨fun _ => ⟨by simp [IsTextIfAny, htype], by simp [Dict.string?, htype]⟩, fun _ => ?_⟩
    exact ⟨screen, by simp [htype, pure, Except.pure]⟩
  | some user =>
    simp only [htype, bind_eq_ok, unwrap_eq_ok]
    constructor
    · rintro ⟨screen', requestType, huser, h⟩
      have hstring : Dict.string? dict "RequestType" = some requestType := by
        simp [Dict.string?, htype, huser]
      refine ⟨isTextIfAny_of_string? hstring, fun hended => ?_⟩
      obtain rfl := Option.some.inj (hstring.symm.trans hended)
      have hne : Request_Status.ended ≠ Request_Status.started := by decide
      simp only [hne, if_false, if_true, bind_eq_ok, forceString_eq_ok, forceKey_eq_ok] at h
      obtain ⟨status, hstatus, charge, hcharge, _⟩ := h
      exact ⟨by simp [hstatus], by simp [hcharge]⟩
    · rintro ⟨htext, hcharge⟩
      obtain ⟨requestType, huser⟩ := Option.isSome_iff_exists.mp (htext user htype)
      have hstring : Dict.string? dict "RequestType" = some requestType := by
        simp [Dict.string?, htype, huser]
      by_cases hstarted : requestType = Request_Status.started
      · exact ⟨_, requestType, huser, by rw [if_pos hstarted]; rfl⟩
      · by_cases hended : requestType = Request_Status.ended
        · subst hended
          obtain ⟨hstatus, hamount⟩ := hcharge hstring
          obtain ⟨status, hstatus⟩ := Option.isSome_iff_exists.mp hstatus
          obtain ⟨amount, hamount⟩ := Option.isSome_iff_exists.mp hamount
          refine ⟨screen.ended amount inBackground, _, huser, ?_⟩
          rw [if_neg hstarted, if_pos rfl]
          exact bind_eq_ok.mpr ⟨status, forceString_eq_ok.mpr hstatus,
            bind_eq_ok.mpr ⟨amount, forceKey_eq_ok.mpr hamount, rfl⟩⟩
        · exact ⟨screen, requestType, huser, by rw [if_neg hstarted, if_neg hended]; rfl⟩

/-- The condition on the trip screen. -/
def TripReturns (p : ClientPhone) (socket : Nat) (text : Message) : Prop :=
  p.app.sockets.clientproviderRequestSocket = some socket → IsRead text TripHandles

/-- **When `onMessage` of the client's trip screen returns.** -/
theorem tripMessage_isOk_iff :
    (∃ q, p.tripMessage k screen socket text inBackground = .ok q) ↔ p.TripReturns socket text := by
  unfold tripMessage TripReturns
  by_cases hsocket : p.app.sockets.clientproviderRequestSocket = some socket
  · rw [if_pos hsocket, exists_bind_pure_eq_ok, tripRequestMessage_isOk_iff]
    simp [hsocket]
  · rw [if_neg hsocket]
    simp [hsocket]

end ClientPhone

/-! ## 5. All five -/

/-- **When `onMessage` returns.**  For every socket, every text and every state, each of the five
screens handles the text without a trap exactly if it does not look at that socket, or the text is
no array and, where it is an object, has every value that the handler unwraps. -/
theorem onMessage_returns_iff (distance : CLLocation → CLLocation → ℚ) (socket : Nat)
    (text : Message) :
    (∀ s : ClientSession,
      (∃ t, s.onMessage distance socket text = .ok t) ↔ s.Returns socket text) ∧
    (∀ (a : ProviderApp) (i : Nat) (d : ProviderDashboard) (state : ApplicationState)
        (selectedIndex : Nat),
      (∃ b, a.dashboardMessage i d socket text state selectedIndex = .ok b) ↔
        a.DashboardReturns d socket text state selectedIndex) ∧
    (∀ (p : ClientPhone) (j : Nat) (sheet : TripProviderDetail),
      (∃ q, p.sheetMessage distance j sheet socket text = .ok q) ↔
        p.SheetReturns sheet socket text) ∧
    (∀ (a : ProviderApp) (j : Nat) (sheet : ClientDetailSheet),
      (∃ b, a.sheetMessage j sheet socket text = .ok b) ↔ a.SheetReturns socket text) ∧
    ∀ (p : ClientPhone) (k : Nat) (screen : ClientTrip) (inBackground : Bool),
      (∃ q, p.tripMessage k screen socket text inBackground = .ok q) ↔ p.TripReturns socket text :=
  ⟨fun _ => ClientSession.onMessage_isOk_iff,
    fun _ _ _ _ _ => ProviderApp.dashboardMessage_isOk_iff,
    fun _ _ _ => ClientPhone.sheetMessage_isOk_iff, fun _ _ _ => ProviderApp.sheetMessage_isOk_iff,
    fun _ _ _ _ => ClientPhone.tripMessage_isOk_iff⟩

/-- Two brackets, on the socket that a dashboard listens to. -/
def stopsOnArray {σ : Type} : Option (Except Trap σ) → Bool
  | some (.error t) => t == .notAnObject
  | _ => false

theorem eq_of_stopsOnArray {σ : Type} {r : Option (Except Trap σ)} (h : stopsOnArray r = true) :
    r = some (.error .notAnObject) := by
  unfold stopsOnArray at h
  split at h
  · rw [eq_of_beq h]
  · exact absurd h (by simp)

/-- **Two brackets stop either app.**  Both dashboards are on screen, and their list or the switch
has made them the delegate. -/
theorem array_stops_dashboards :
    (∃ p : ClientPhone, (ClientPhone.machine sampleDistance).Run
        { app := .launch ClientSession.sampleDevice false } p ∧
      (ClientPhone.machine sampleDistance).Traps p
        (.onMessage 0 (JSONSerialization.jsonObject "[]") false) .notAnObject) ∧
    ∃ a : ProviderApp, (ProviderApp.machine fun _ _ => 0).Run
        { device := ProviderApp.sampleProvider 16 } a ∧
      (ProviderApp.machine fun _ _ => 0).Traps a
        (.onMessage 0 (JSONSerialization.jsonObject "[]") .active 0) .notAnObject := by
  constructor
  · obtain ⟨p, hrun, htest⟩ := Machine.exists_run_of_replay
      (ClientPhone.machine sampleDistance) (fun _ _ => true)
      { app := .launch ClientSession.sampleDevice false } (ClientPhone.requestPhone.take 3)
      (fun p => stopsOnArray (ClientPhone.react sampleDistance p
        (.onMessage 0 (JSONSerialization.jsonObject "[]") false)))
      (fun _ _ _ => trivial) (by decide +kernel)
    exact ⟨p, hrun, eq_of_stopsOnArray htest⟩
  · obtain ⟨a, hrun, htest⟩ := Machine.exists_run_of_replay (ProviderApp.machine fun _ _ => 0)
      (fun _ _ => true) { device := ProviderApp.sampleProvider 16 } ProviderApp.onlineEvents
      (fun a => stopsOnArray (ProviderApp.react (fun _ _ => 0) a
        (.onMessage 0 (JSONSerialization.jsonObject "[]") .active 0)))
      (fun _ _ _ => trivial) (by decide +kernel)
    exact ⟨a, hrun, eq_of_stopsOnArray htest⟩

end WeatherAccommodation
