/-
# What a step of a dashboard shows to the outside

`Face` is what others see of a dashboard: the sockets and the globals it was lent, where it
believes the client to be, and what it has sent, written and presented.  `ClientMove` is `StepOf`
as the outside sees it: most handlers change nothing of the face, and each of the others one thing.
-/
import WeatherAccommodation.Client.Steps

namespace WeatherAccommodation

open Foundation Reactive

structure Face where
  sockets : WebSocketManager ClientScreen
  device : Device
  locationDelegate : ClientScreen
  location : Option CLLocation
  requests : List ServiceRequest
  frames : List CancelFrame
  sheets : List ProviderDetailSheet

namespace ClientDashboard

variable {d : ClientDashboard}

/-- The place in the body of a request is the dashboard's own. -/
theorem requestParameters_location {device : Device} {body : ServiceRequest}
    (h : d.requestParameters device = .ok body) : d.clientLocation = some body.location := by
  simp only [requestParameters, bind_eq_ok, unwrap_eq_ok, pure_eq_ok] at h
  obtain ⟨_, _, here, hhere, _, _, _, _, _, _, rfl⟩ := h
  exact hhere

end ClientDashboard

namespace ClientSession

variable {distance : CLLocation → CLLocation → ℚ} {s t : ClientSession}

def face (s : ClientSession) : Face where
  sockets := s.sockets
  device := s.device
  locationDelegate := s.locationDelegate
  location := s.dashboard.clientLocation
  requests := s.requests
  frames := s.frames
  sheets := s.sheets

/-- The sockets once the status socket was opened and the dashboard listens. -/
def watched (m : WebSocketManager ClientScreen) : WebSocketManager ClientScreen :=
  { m.connectToGettingStatusUpdatesFromClient with delegate := some .dashboard }

/-- The sockets once the connection of an existing trip was opened, too, and its screen listens. -/
def resumedSockets (m : WebSocketManager ClientScreen) (userID : Int) (screen : ClientScreen) :
    WebSocketManager ClientScreen :=
  { (watched m).connectClientProviderRequestSocket (.ofInt userID) with delegate := some screen }

/-- The list of providers has come. -/
def isList : ClientEvent → Bool
  | .onlineProviderList _ (some _) => true
  | _ => false

/-- What the event changes of the face. -/
inductive ClientMove (s t : ClientSession) : ClientEvent → Prop where
  | quiet {e : ClientEvent} (noList : isList e = false) (h : t.face = s.face) : ClientMove s t e
  | located (l : CLLocation) (h : t.face = { s.face with location := some l }) :
      ClientMove s t (.tracingLocation l)
  | listed (call : Nat) (response : Dict)
      (flag : s.device.appDelegate.doesRequestExist = false)
      (h : t.face = { s.face with sockets := watched s.sockets }) :
      ClientMove s t (.onlineProviderList call (some response))
  | resumedSheet (call : Nat) (response : Dict) {trip : Dict} {userID : Int}
      {sheet : ProviderDetailSheet} (flag : s.device.appDelegate.doesRequestExist = true)
      (existing : s.device.appDelegate.clientExistingTrip = some trip)
      (id : s.device.userID .clientApp = .ok userID)
      (accepted : Dict.int? trip "StatusCode" = some 6) (current : sheet.currentRequest = trip)
      (h : t.face = { s.face with
        sockets := resumedSockets s.sockets userID .providerDetail
        locationDelegate := .providerDetail
        sheets := s.sheets ++ [sheet] }) :
      ClientMove s t (.onlineProviderList call (some response))
  | resumedTrip (call : Nat) (response : Dict) {trip : Dict} {userID : Int}
      (flag : s.device.appDelegate.doesRequestExist = true)
      (existing : s.device.appDelegate.clientExistingTrip = some trip)
      (id : s.device.userID .clientApp = .ok userID)
      (started : Dict.int? trip "StatusCode" ≠ some 6) (current : t.dashboard.currentRequest = trip)
      (h : t.face = { s.face with sockets := resumedSockets s.sockets userID .clientTrip }) :
      ClientMove s t (.onlineProviderList call (some response))
  | posted (body : ServiceRequest) (outcome : s.dashboard.sendRequest s.device = .post)
      (location : s.dashboard.clientLocation = some body.location)
      (id : s.device.userID .clientApp = .ok body.clientId)
      (h : t.face = { s.face with requests := s.requests ++ [body] }) :
      ClientMove s t .sendRequest
  | connected (call : Nat) {userID : Int} (waiting : s.requestCalls.waiting call = some userID)
      (h : t.face = { s.face with
        sockets := s.sockets.connectClientProviderRequestSocket (.ofInt userID) }) :
      ClientMove s t (.requestReply call true)
  | withdrawn (body : ServiceRequest) (status : body.requestStatus = Request_Status.cancelled)
      (h : t.face = { s.face with
        device := s.withdraw.device
        requests := s.requests ++ [body] }) :
      ClientMove s t .cancelRequest
  | told (call : Nat) (frame : CancelFrame) (id : s.device.userID .clientApp = .ok frame.clientId)
      (socket : s.sockets.clientproviderRequestSocket = some frame.socket)
      (h : t.face = { s.face with frames := s.frames ++ [frame] }) :
      ClientMove s t (.cancelReply call true)
  | entered (call : Nat) (values : Dict) {sheet : ProviderDetailSheet}
      (current : sheet.currentRequest = s.dashboard.currentRequest)
      (h : t.face = { s.face with
        sockets := { s.sockets with delegate := some .providerDetail }
        locationDelegate := .providerDetail
        sheets := s.sheets ++ [sheet] }) :
      ClientMove s t (.distanceReply call values true)

/-- The list's answer: the dashboard watches, or the screen of the existing trip does. -/
theorem onlineProviderList_move {call : Nat} {response : Option Dict}
    (free : s.isPresenting = false)
    (h : { s with listCalls := s.listCalls.retire call }.onlineProviderList distance response =
      .ok t) : ClientMove s t (.onlineProviderList call response) := by
  rcases onlineProviderList_inv h with ⟨rfl, rfl⟩ | ⟨r, items, d, rfl, _, happend, hcheck⟩
  · exact .quiet rfl rfl
  · obtain ⟨ps, ms, rfl⟩ := ClientDashboard.appendOnlineProviders_frame happend
    rcases checkIfTripExists_inv hcheck with
      ⟨hflag, rfl⟩ | ⟨trip, userID, ⟨hflag, htrip, hid⟩, ⟨hstatus, here, rfl⟩ | ⟨hstatus, rfl⟩⟩
    · exact .listed call r hflag rfl
    · rw [free]
      exact .resumedSheet call r hflag htrip hid hstatus rfl rfl
    · exact .resumedTrip call r hflag htrip hid hstatus rfl rfl

/-- **Every step of a dashboard with nothing over it is one of these.** -/
theorem step_move {e : ClientEvent} (h : (machine distance).Step s e t)
    (free : s.isPresenting = false) (he : ∀ device busy, e ≠ .elsewhere device busy) :
    ClientMove s t e := by
  have hstep : StepOf distance s t e := step_inv h
  cases e with
  | tracingLocation l =>
    obtain rfl : t = s.tracingLocation l := hstep
    refine .located l ?_
    unfold tracingLocation
    split
    · rfl
    · rfl
  | onlineProviderList call response => exact onlineProviderList_move free hstep.2
  | onMessage socket text =>
    rcases hstep with ⟨_, d, hping, rfl⟩ | ⟨_, _, hmsg⟩ | ⟨_, _, rfl⟩
    · obtain ⟨ps, ms, rfl⟩ := ClientDashboard.pingReceived_frame hping
      exact .quiet rfl rfl
    · rcases requestMessage_inv hmsg with rfl | ⟨dict, _, rfl⟩
      · exact .quiet rfl rfl
      · exact .quiet rfl rfl
    · exact .quiet rfl rfl
  | sendRequest =>
    rcases sendRequest_inv hstep.2 with rfl | ⟨marker, markers, body, houtcome, _, hbody, rfl⟩
    · exact .quiet rfl rfl
    · exact .posted body houtcome (ClientDashboard.requestParameters_location (d := _) hbody)
        (ClientDashboard.requestParameters_inv hbody).1 rfl
  | requestReply call success =>
    obtain ⟨userID, hwaiting, rfl⟩ := hstep
    cases success with
    | true => exact .connected call hwaiting rfl
    | false => exact .quiet rfl rfl
  | cancelRequest =>
    obtain ⟨body, hbody, rfl⟩ := cancelRequestThroughWS_inv hstep.2
    exact .withdrawn body (ClientDashboard.cancelParameters_inv hbody).2.2 rfl
  | cancelReply call success =>
    rcases cancelReply_inv hstep.2 with ⟨_, rfl⟩ | ⟨frame, ⟨rfl, hid, hsocket⟩, rfl⟩
    · exact .quiet rfl rfl
    · exact .told call frame hid hsocket rfl
  | timerFires timer =>
    obtain ⟨_, rfl⟩ := hstep
    exact .quiet rfl rfl
  | distanceReply call values success =>
    obtain ⟨dict, _, hreply⟩ := hstep
    rcases distanceReply_inv hreply with
      ⟨markers, _, rfl⟩ | ⟨rfl, _, u, markers, henter, _, rfl⟩
    · exact .quiet rfl rfl
    · obtain ⟨eta, here, marker, rfl⟩ := enterTrip_inv henter
      rw [free]
      exact .entered call values rfl rfl
  | distanceTimerFires =>
    rcases callDistanceMatrixAPI_inv hstep with ⟨_, rfl⟩ | ⟨dict, _, rfl⟩
    · exact .quiet rfl rfl
    · exact .quiet rfl rfl
  | receivingLocationUpdate text =>
    obtain ⟨_, rfl⟩ := hstep
    exact .quiet rfl rfl
  | viewWillAppear =>
    obtain ⟨d, hclear, rfl⟩ := hstep
    obtain ⟨marker, markers, _, rfl⟩ := ClientDashboard.clearTrip_inv hclear
    exact .quiet rfl rfl
  | selectedProducts products =>
    obtain ⟨d, hshow, rfl⟩ := hstep
    obtain ⟨_, _, _, _, _, _, rfl⟩ := ClientDashboard.showSelectedProducts_inv hshow
    exact .quiet rfl rfl
  | elsewhere device busy => exact absurd rfl (he device busy)

/-- Of the globals, a dashboard writes no more than the extra charge. -/
theorem step_device {e : ClientEvent} (hstep : (machine distance).Step s e t)
    (free : s.isPresenting = false) (he : ∀ device busy, e ≠ .elsewhere device busy) :
    ∃ charge, t.device = { s.device with
      appDelegate := { s.device.appDelegate with extraCharge := charge } } := by
  have hkept : t.device = s.device → ∃ charge, t.device = { s.device with
      appDelegate := { s.device.appDelegate with extraCharge := charge } } :=
    fun hsame => ⟨s.device.appDelegate.extraCharge, hsame⟩
  cases step_move hstep free he with
  | withdrawn _ _ h => exact ⟨0, congrArg Face.device h⟩
  | quiet _ h => exact hkept (congrArg Face.device h)
  | located _ h => exact hkept (congrArg Face.device h)
  | listed _ _ _ h => exact hkept (congrArg Face.device h)
  | resumedSheet _ _ _ _ _ _ _ h => exact hkept (congrArg Face.device h)
  | resumedTrip _ _ _ _ _ _ _ h => exact hkept (congrArg Face.device h)
  | posted _ _ _ _ h => exact hkept (congrArg Face.device h)
  | connected _ _ h => exact hkept (congrArg Face.device h)
  | told _ _ _ _ h => exact hkept (congrArg Face.device h)
  | entered _ _ _ h => exact hkept (congrArg Face.device h)

theorem doesRequestExist_eq {e : ClientEvent} (h : (machine distance).Step s e t)
    (free : s.isPresenting = false) (he : ∀ device busy, e ≠ .elsewhere device busy) :
    t.device.appDelegate.doesRequestExist = s.device.appDelegate.doesRequestExist := by
  obtain ⟨charge, hdevice⟩ := step_device h free he
  rw [hdevice]

end ClientSession

end WeatherAccommodation
