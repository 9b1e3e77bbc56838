/-
# One client dashboard and everything that calls it back

The dashboard of `Dashboard.lean` together with what its handlers reach: the globals of the
device, the sockets, the requests that wait for a reply, the 120-second timers of the
waiting overlay, and the provider-detail sheets it has opened.

Every handler of `ClientDashboardViewController.swift` is one event of the machine
`clientSession`.  An event that answers a call carries the number of that call, so answers
come in any order, at most once each, or never.  The other screens of the app share the
globals and nothing else: `elsewhere` lets them leave there whatever they like.

A screen that has another one over it can present none.  Whether that is so, and when it is no
longer, `elsewhere` says as well.

The last three components of `ClientSession` are outputs.  They only grow, and no handler
reads them.
-/
import WeatherAccommodation.Client.Dashboard
import WeatherAccommodation.Library.Callbacks
import WeatherAccommodation.WebSocketManager

namespace WeatherAccommodation

open Foundation Reactive

/-! ## 1. The state -/

/-- The screens that take over the socket or location delegate. -/
inductive ClientScreen where
  | dashboard
  | providerDetail
  | clientTrip
  deriving DecidableEq, Repr

/-- `TripProviderDetailViewController`, as the dashboard opens it. -/
structure ProviderDetailSheet where
  currentRequest : Dict
  providerETA : Int
  clientLocation : CLLocation
  /-- The distance call whose answer opened the sheet; `none` for a resumed trip. -/
  openedBy : Option Nat
  deriving Repr

/-- The frame that tells the socket's other parties of a cancellation. -/
structure CancelFrame where
  clientId : Int
  location : CLLocation
  socket : Nat
  deriving DecidableEq, Repr

structure ClientSession where
  device : Device
  dashboard : ClientDashboard := {}
  sockets : WebSocketManager ClientScreen := {}
  locationDelegate : ClientScreen := .dashboard
  /-- A sheet or an alert is over the dashboard. -/
  isPresenting : Bool := false
  /-- `getOnlineProviderList` -/
  listCalls : Callbacks Unit := .empty
  /-- `postRequest`, with the captured `userID`. -/
  requestCalls : Callbacks Int := .empty
  /-- `cancelRequestThroughWS` -/
  cancelCalls : Callbacks Unit := .empty
  /-- The one-shot timers that hide the overlay; none is ever invalidated. -/
  timers : Callbacks Unit := .empty
  /-- `callDistanceMatrixAPI`, with the captured dictionary. -/
  distanceCalls : Callbacks Dict := .empty
  /-- How many 30-second timers repeat `distanceMeasureAction`. -/
  distanceTimers : Nat := 0
  requests : List ServiceRequest := []
  frames : List CancelFrame := []
  sheets : List ProviderDetailSheet := []

/-- What calls into the dashboard. -/
inductive ClientEvent where
  | tracingLocation (currentLocation : CLLocation)
  | onlineProviderList (call : Nat) (responseObject : Option Dict)
  | onMessage (socket : Nat) (text : Message)
  | sendRequest
  | requestReply (call : Nat) (success : Bool)
  | cancelRequest
  | cancelReply (call : Nat) (success : Bool)
  | timerFires (timer : Nat)
  | distanceReply (call : Nat) (distanceValues : Dict) (success : Bool)
  | distanceTimerFires
  | receivingLocationUpdate (text : Message)
  | viewWillAppear
  | selectedProducts (products : List ProductKit)
  | elsewhere (device : Device) (isPresenting : Bool)

namespace ClientSession

/-- The session with another dashboard. -/
def put (s : ClientSession) (dashboard : ClientDashboard) : ClientSession :=
  { s with dashboard := dashboard }

section Handlers

variable (distance : CLLocation → CLLocation → ℚ)

/-! ## 2. Opening the provider-detail sheet -/

/-- The sheet comes on screen, where there is room for it, and takes both delegates.  The overlay
goes in any case. -/
def presentSheet (s : ClientSession) (openedBy : Option Nat) (here : CLLocation) :
    ClientSession :=
  let sheet : ProviderDetailSheet := {
    currentRequest := s.dashboard.currentRequest
    providerETA := s.dashboard.initialETA
    clientLocation := here
    openedBy := openedBy }
  { s with
    sheets := s.sheets ++ if s.isPresenting then [] else [sheet]
    sockets := { s.sockets with
      delegate := if s.isPresenting then s.sockets.delegate else some .providerDetail }
    locationDelegate := if s.isPresenting then s.locationDelegate else .providerDetail
    isPresenting := true
    dashboard := s.dashboard.timerAction }

/-- `openBottomSheet`, with the sheet's own `viewDidLoad`: what cannot be presented does not load.
-/
def openBottomSheet (s : ClientSession) (openedBy : Option Nat) : Except Trap ClientSession := do
  let here ← unwrap .clientLocation s.dashboard.clientLocation
  if !s.isPresenting && s.device.appDelegate.doesRequestExist then
    let _ ← forceInt s.dashboard.currentRequest "TripStartTime"
  return s.presentSheet openedBy here

/-- The existing trip becomes the current one, and its socket is opened. -/
def resume (s : ClientSession) (trip : Dict) (userID : Int) : ClientSession :=
  { s.put { s.dashboard with currentRequest := trip } with
    sockets := s.sockets.connectClientProviderRequestSocket (.ofInt userID) }

/-- `checkIfTripExists`, with the `viewDidLoad` of the screen it goes to.  The status of an
accepted trip is `Numeric_TripStatus.accepted`. -/
def checkIfTripExists (s : ClientSession) : Except Trap ClientSession :=
  if s.device.appDelegate.doesRequestExist then do
    let trip ← unwrap .currentRequest s.device.appDelegate.clientExistingTrip
    let userID ← s.device.userID .clientApp
    if Dict.int? trip "StatusCode" = some 6 then (s.resume trip userID).openBottomSheet none
    else do
      let _ ← forceInt trip "TripStartTime"
      let s := s.resume trip userID
      return { s with sockets := { s.sockets with delegate := some .clientTrip } }
  else return s

/-! ## 3. Location and the provider list -/

def tracingLocation (s : ClientSession) (currentLocation : CLLocation) : ClientSession :=
  if s.dashboard.isFirst then
    { s with
      dashboard := { s.dashboard with clientLocation := some currentLocation, isFirst := false }
      listCalls := s.listCalls.issue () }
  else s.put { s.dashboard with clientLocation := some currentLocation }

/-- The status socket is opened and the dashboard listens. -/
def watchStatus (s : ClientSession) : ClientSession :=
  { s with sockets :=
    { s.sockets.connectToGettingStatusUpdatesFromClient with delegate := some .dashboard } }

/-- The completion handler of `getOnlineProviderList`. -/
def onlineProviderList (s : ClientSession) (responseObject : Option Dict) :
    Except Trap ClientSession :=
  match responseObject with
  | none => return s
  | some response => do
    let items ← unwrap (.badCast "OnlineProviderList") (Dict.array? response "OnlineProviderList")
    let dashboard ← ClientDashboard.appendOnlineProviders distance items s.dashboard
    (s.put dashboard).watchStatus.checkIfTripExists

/-! ## 4. Request and cancellation -/

/-- A body is handed to `CLIENTREQUESTFORSERVICE`. -/
def send (s : ClientSession) (body : ServiceRequest) : ClientSession :=
  { s with requests := s.requests ++ [body] }

def postRequest (s : ClientSession) : Except Trap ClientSession := do
  let dashboard ← s.dashboard.clearTrip
  let body ← dashboard.requestParameters s.device
  let s := (s.put dashboard).send body
  return { s with requestCalls := s.requestCalls.issue body.clientId }

def sendRequest (s : ClientSession) : Except Trap ClientSession :=
  match s.dashboard.sendRequest s.device with
  | .post => s.postRequest
  | _ => return s

/-- The completion handler of `postRequest`. -/
def requestReply (s : ClientSession) (userID : Int) (success : Bool) : ClientSession :=
  if success then
    { s with
      sockets := s.sockets.connectClientProviderRequestSocket (.ofInt userID)
      dashboard := { s.dashboard with viewDisableIsHidden := false }
      timers := s.timers.issue () }
  else s

/-- What `cancelRequestThroughWS` does before it builds its body: the charge for extra
equipment is dropped, whatever the counts on the dashboard say. -/
def withdraw (s : ClientSession) : ClientSession :=
  { s.put { s.dashboard with clientMarker := s.dashboard.clientMarker.map Marker.hide } with
    device := { s.device with appDelegate := { s.device.appDelegate with extraCharge := 0 } } }

def cancelRequestThroughWS (s : ClientSession) : Except Trap ClientSession := do
  let s := s.withdraw
  let body ← s.dashboard.cancelParameters s.device
  let s := s.send body
  return { s with cancelCalls := s.cancelCalls.issue () }

/-- The completion handler of `cancelRequestThroughWS`. -/
def cancelReply (s : ClientSession) (success : Bool) : Except Trap ClientSession :=
  if success then do
    let socket ← unwrap .socket s.sockets.clientproviderRequestSocket
    let userID ← s.device.userID .clientApp
    let here ← unwrap .clientLocation s.dashboard.clientLocation
    return { s with
      frames := s.frames ++ [{ clientId := userID, location := here, socket := socket }]
      dashboard := s.dashboard.timerAction }
  else return s

def timerAction (s : ClientSession) : ClientSession := s.put s.dashboard.timerAction

/-! ## 5. Acceptance -/

def issueDistanceCall (s : ClientSession) (dict : Dict) : ClientSession :=
  { s with distanceCalls := s.distanceCalls.issue dict }

def callDistanceMatrixAPI (s : ClientSession) (providerDetail : Message) :
    Except Trap ClientSession := do
  match ← messageDict providerDetail with
  | none => return s
  | some dict =>
    let _ ← unwrap .clientLocation s.dashboard.clientLocation
    return s.issueDistanceCall dict

/-- `distanceValues["duration"] as! [String: AnyObject]` -/
def duration (distanceValues : Dict) : Except Trap Dict := forceDict distanceValues "duration"

/-- What the answer does first when the message was not a mere `location_updated`: the sheet
is opened for the *current* `currentRequest`, whatever dictionary the call captured. -/
def enterTrip (s : ClientSession) (call : Nat) (distanceValues : Dict) :
    Except Trap ClientSession := do
  let values ← duration distanceValues
  let eta ← forceInt values "value"
  let s ← (s.put { s.dashboard with initialETA := eta }).openBottomSheet (some call)
  let here ← unwrap .clientLocation s.dashboard.clientLocation
  let marker := match s.dashboard.clientMarker with
    | none => { position := here }
    | some marker => { marker with position := here, onMap := true }
  return s.put { s.dashboard.timerAction with clientMarker := some marker }

/-- The two branches on `RequestType`, each with its own way to read `ProviderId`. -/
def replyTarget (s : ClientSession) (call : Nat) (dict distanceValues : Dict) :
    Except Trap (ClientSession × Int) := do
  let requestType ← forceString dict "RequestType"
  if requestType ≠ Request_Status.locationUpdated then
    let s ← s.enterTrip call distanceValues
    let providerId ← forceInt dict "ProviderId"
    return (s, providerId)
  else
    let text ← forceString dict "ProviderId"
    let providerId ← forceNumeral "ProviderId" text
    return (s, providerId)

/-- The completion handler of `callDistanceMatrixAPI`. -/
def distanceReply (s : ClientSession) (call : Nat) (dict distanceValues : Dict)
    (success : Bool) : Except Trap ClientSession :=
  if success then do
    let (s, providerId) ← s.replyTarget call dict distanceValues
    let snippet := do
      let values ← duration distanceValues
      return "ETA " ++ (Dict.string? values "text").getD "0"
    let markers ← ClientDashboard.setSnippets (pure providerId) snippet
      s.dashboard.arrOnlineProviders 0 s.dashboard.arrMarkers
    return s.put { s.dashboard with arrMarkers := markers }
  else return s

/-- The part of `onMessage` for `clientproviderRequestSocket`: no variable that says whether
a request is waiting is looked at. -/
def requestMessage (s : ClientSession) (text : Message) : Except Trap ClientSession := do
  match ← messageDict text with
  | none => return s
  | some dict =>
    match Dict.get? dict "RequestType" with
    | none => return s
    | some user =>
      let requestType ← unwrap (.badCast "RequestType") user.asString?
      if requestType = Trip_Status.accepted then
        let s ← (s.put { s.dashboard with currentRequest := dict }).callDistanceMatrixAPI text
        return { s with distanceTimers := s.distanceTimers + 1 }
      else return s

def onMessage (s : ClientSession) (socket : Nat) (text : Message) :
    Except Trap ClientSession :=
  if s.sockets.clientCommonDataSocket = some socket then do
    let dashboard ← s.dashboard.pingReceived distance text
    return s.put dashboard
  else if s.sockets.clientproviderRequestSocket = some socket then s.requestMessage text
  else return s

end Handlers

/-! ## 6. The machine -/

/-- A text the sheet passes on: it forwards `location_updated` messages only. -/
def isLocationUpdate (text : Message) : Bool :=
  match text with
  | some (.obj d) => Dict.string? d "RequestType" == some Request_Status.locationUpdated
  | _ => false

/-- What each event does, and when it can happen.  The overlay covers the whole screen, with
the `Cancel Request` button on it. -/
def react (distance : CLLocation → CLLocation → ℚ) (s : ClientSession) :
    ClientEvent → Option (Except Trap ClientSession)
  | .tracingLocation l =>
    if s.locationDelegate = .dashboard then some (.ok (s.tracingLocation l)) else none
  | .onlineProviderList call response =>
    (s.listCalls.waiting call).map fun _ =>
      onlineProviderList distance { s with listCalls := s.listCalls.retire call } response
  | .onMessage socket text =>
    if socket < s.sockets.sockets.length ∧ s.sockets.delegate = some .dashboard then
      some (s.onMessage distance socket text)
    else none
  | .sendRequest => if s.dashboard.viewDisableIsHidden then some s.sendRequest else none
  | .requestReply call success =>
    (s.requestCalls.waiting call).map fun userID =>
      .ok ({ s with requestCalls := s.requestCalls.retire call }.requestReply userID success)
  | .cancelRequest =>
    if s.dashboard.viewDisableIsHidden then none else some s.cancelRequestThroughWS
  | .cancelReply call success =>
    (s.cancelCalls.waiting call).map fun _ =>
      { s with cancelCalls := s.cancelCalls.retire call }.cancelReply success
  | .timerFires timer =>
    (s.timers.waiting timer).map fun _ =>
      .ok { s with timers := s.timers.retire timer }.timerAction
  | .distanceReply call values success =>
    (s.distanceCalls.waiting call).map fun dict =>
      { s with distanceCalls := s.distanceCalls.retire call }.distanceReply call dict values
        success
  | .distanceTimerFires =>
    if s.distanceTimers = 0 then none
    else some (s.callDistanceMatrixAPI s.dashboard.locationUpdates)
  | .receivingLocationUpdate text =>
    if s.sheets ≠ [] ∧ isLocationUpdate text then
      some (.ok (s.put { s.dashboard with locationUpdates := text }))
    else none
  | .viewWillAppear =>
    some do
      let dashboard ← s.dashboard.viewWillAppear
      return s.put dashboard
  | .selectedProducts products =>
    some do
      let dashboard ← s.dashboard.showSelectedProducts products
      return s.put dashboard
  | .elsewhere device isPresenting =>
    some (.ok { s with device := device, isPresenting := isPresenting })

/-- The client's side of the app while one dashboard lives. -/
def machine (distance : CLLocation → CLLocation → ℚ) : Machine ClientSession ClientEvent Trap where
  react := react distance

end ClientSession

end WeatherAccommodation
