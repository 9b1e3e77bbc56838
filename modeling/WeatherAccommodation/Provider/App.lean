/-
# The provider's app: dashboards, sheets and trips on one device

A dashboard is made at every sign-in and at every launch of a signed-in app; the sheets and
the start-trip screens are made by it.  All of them share the globals and the three sockets,
and the screen that took the socket's delegate last gets what the sockets deliver.

`react` combines the handlers.  An event names the screen it happens on by its number in the
order of creation.  The frames written on sockets and the requests sent to the server are
outputs; no handler reads them.
-/
import WeatherAccommodation.Provider.Dashboard
import WeatherAccommodation.Provider.Trip
import WeatherAccommodation.WebSocketManager

namespace WeatherAccommodation

open Foundation Reactive

/-- The screens that take over the socket or location delegate. -/
inductive ProviderScreen where
  | dashboard (i : Nat)
  | clientDetail (j : Nat)
  | startTrip (k : Nat)
  deriving DecidableEq, Repr

/-- What is written on `clientproviderRequestSocket`. -/
inductive ProviderFrame where
  | accepted (clientId : Json) (providerId : Int) (location : Option CLLocation)
  | locationUpdated (clientId : Json) (providerId : Int) (location : Option CLLocation)
  | reached (tripId : Json)
  | cancelled (clientId tripId providerId : Json) (location : CLLocation) (reason : String)
  deriving Repr

structure ProviderApp where
  device : Device
  sockets : WebSocketManager ProviderScreen := {}
  /-- The sockets whose connect callback came. -/
  connected : List Nat := []
  locationDelegate : Option ProviderScreen := none
  dashboards : List ProviderDashboard := []
  sheets : List ClientDetailSheet := []
  trips : List StartTrip := []
  /-- `postStartEndTrip`, with the number of the screen and the status that was sent. -/
  startEndCalls : Callbacks (Nat × String) := .empty
  /-- Every frame, with the number of the socket it was written on. -/
  frames : List (Nat × ProviderFrame) := []
  startEndRequests : List StartEndRequest := []

inductive ProviderEvent where
  | tripStatusReply (existing : Option Dict)
  | notificationTapped
  | viewDidLoad
  | viewWillAppear (i : Nat)
  | willEnterForeground (i : Nat)
  | btnCancelRequest (i : Nat)
  | btnAcceptRequest (i : Nat)
  | switchValueChanged (i : Nat) (isOn : Bool)
  | timerViewFinished (i : Nat)
  | timerFired (i : Nat)
  | directionsReply (i call : Nat) (success : Bool)
  | tracingLocation (currentLocation : CLLocation)
  | onConnect (socket : Nat)
  | onDisconnect (code : Option Int)
  | onMessage (socket : Nat) (text : Message) (state : ApplicationState) (selectedIndex : Nat)
  | textFieldEditingChanged (j : Nat) (text : String)
  | cancelTrip (j : Nat) (reason : String)
  | btnActionPressed (k : Nat)
  | startEndReply (call : Nat) (success : Bool)

namespace ProviderApp

/-! ## 1. Small updates -/

def putDashboard (a : ProviderApp) (i : Nat) (d : ProviderDashboard) : ProviderApp :=
  { a with dashboards := a.dashboards.set i d }

def putSheet (a : ProviderApp) (j : Nat) (sheet : ClientDetailSheet) : ProviderApp :=
  { a with sheets := a.sheets.set j sheet }

def putTrip (a : ProviderApp) (k : Nat) (screen : StartTrip) : ProviderApp :=
  { a with trips := a.trips.set k screen }

def setFlag (a : ProviderApp) (doesRequestExist : Bool) : ProviderApp :=
  { a with device := { a.device with
    appDelegate := { a.device.appDelegate with doesRequestExist := doesRequestExist } } }

/-- The implicitly unwrapped `clientproviderRequestSocket`. -/
def requestSocket (a : ProviderApp) : Except Trap Nat :=
  unwrap .socket a.sockets.clientproviderRequestSocket

/-- `write` on a socket. -/
def write (a : ProviderApp) (socket : Nat) (frame : ProviderFrame) : ProviderApp :=
  { a with frames := a.frames ++ [(socket, frame)] }

/-- `connectClientProviderRequestSocket` -/
def connect (a : ProviderApp) (clientId : Json) : ProviderApp :=
  { a with sockets := a.sockets.connectClientProviderRequestSocket clientId }

/-! ## 2. Other screens -/

/-- The sheet is presented, and its `viewDidLoad` takes both delegates. -/
def presentSheet (a : ProviderApp) (trip : Dict) (here : CLLocation) : ProviderApp :=
  { a with
    sheets := a.sheets ++ [{ currentRequest := trip, clientLocation := here }]
    sockets := { a.sockets with delegate := some (.clientDetail a.sheets.length) }
    locationDelegate := some (.clientDetail a.sheets.length) }

/-- `openBottomSheet`, with the sheet's own `viewDidLoad`. -/
def openBottomSheet (a : ProviderApp) (d : ProviderDashboard) : Except Trap ProviderApp := do
  let trip ← unwrap .currentAcceptedRequest d.currentAcceptedRequest
  let here ← d.ownLocation
  if a.device.appDelegate.doesRequestExist then
    let _ ← forceInt trip "TripStartTime"
  return a.presentSheet trip here

/-- The start-trip screen is pushed, and loads its view. -/
def pushStartTrip (a : ProviderApp) (trip : Dict) : Except Trap ProviderApp := do
  let screen ← StartTrip.viewDidLoad { currentRequest := trip }
    a.device.appDelegate.doesRequestExist
  return { a with
    trips := a.trips ++ [screen]
    locationDelegate := some (.startTrip a.trips.length) }

/-! ## 3. The dashboard -/

/-- `checkIfTripExists` of the dashboard with number `i`.  The connection is opened without
anybody having accepted anything on this dashboard. -/
def checkIfTripExists (a : ProviderApp) (i : Nat) (d : ProviderDashboard) :
    Except Trap ProviderApp :=
  if a.device.appDelegate.doesRequestExist then do
    let trip ← unwrap .currentAcceptedRequest a.device.appDelegate.providerExistingTrip
    let clientId ← forceKey trip "ClientId"
    let d := d.setAccepted trip
    let a := (a.putDashboard i d).connect clientId
    if Dict.int? trip "StatusCode" = int? Numeric_TripStatus.accepted then
      (a.putDashboard i d.restartTimer).openBottomSheet d
    else a.pushStartTrip trip
  else return a

/-- A fresh dashboard. -/
def viewDidLoad (a : ProviderApp) : Except Trap ProviderApp :=
  let d : ProviderDashboard := {}
  { a with dashboards := a.dashboards ++ [d] }.checkIfTripExists a.dashboards.length d

def viewWillAppear (a : ProviderApp) (i : Nat) (d : ProviderDashboard) : ProviderApp :=
  { a.putDashboard i d.clearTrip with locationDelegate := some (.dashboard i) }

/-- `showRequestUIAfterTransitionToForeground` -/
def willEnterForeground (a : ProviderApp) (i : Nat) (d : ProviderDashboard) :
    Except Trap ProviderApp :=
  if a.device.appDelegate.showRequestUI then do
    let d ← d.showRequestUI d.requestDetail
    return a.putDashboard i d
  else return a

def btnAcceptRequest (a : ProviderApp) (i : Nat) (d : ProviderDashboard) :
    Except Trap ProviderApp := do
  let clientId ← d.requestKey "ClientId"
  return (a.connect clientId).putDashboard i d.hideRequest

/-- A new status socket is opened and the dashboard listens. -/
def activate (a : ProviderApp) (i : Nat) (providerId : Int) : ProviderApp :=
  { a with sockets :=
    { a.sockets.connectProviderSocket (.ofInt providerId) with delegate := some (.dashboard i) } }

def requestSocketToChangeStatusOrLocation (a : ProviderApp) (i : Nat) (d : ProviderDashboard) :
    Except Trap ProviderApp :=
  if d.swchStatusIsOn then do
    let providerId ← a.device.userID .providerApp
    return a.activate i providerId
  else do
    let _ ← unwrap .socket a.sockets.providerConnectionSocket
    return a.putDashboard i d.invalidateTimer

def setSwitch (d : ProviderDashboard) (isOn : Bool) : ProviderDashboard :=
  { d with swchStatusIsOn := isOn }

/-- `switchValueChanged`; nobody goes online without a location. -/
def switchValueChanged (a : ProviderApp) (i : Nat) (d : ProviderDashboard) (isOn : Bool) :
    Except Trap ProviderApp :=
  if isOn ∧ d.location = none then return a.putDashboard i (setSwitch d false)
  else
    let d := setSwitch d isOn
    (a.putDashboard i d).requestSocketToChangeStatusOrLocation i d

def timerFired (a : ProviderApp) (d : ProviderDashboard) : Except Trap ProviderApp := do
  let socket ← a.requestSocket
  let trip ← unwrap .currentAcceptedRequest d.currentAcceptedRequest
  let clientId ← forceKey trip "ClientId"
  let providerId ← a.device.userID .providerApp
  return a.write socket (.locationUpdated clientId providerId d.location)

/-- The completion handler of `getDirections`. -/
def directionsReply (a : ProviderApp) (i : Nat) (d : ProviderDashboard) (success : Bool) :
    Except Trap ProviderApp :=
  if success then do
    let d ← d.drawMarkers
    (a.putDashboard i d).openBottomSheet d
  else return a.putDashboard i d

/-- `onConnect` of the dashboard.  Whether a request was accepted is not looked at. -/
def dashboardConnect (a : ProviderApp) (d : ProviderDashboard) (socket : Nat) :
    Except Trap ProviderApp :=
  if a.sockets.clientproviderRequestSocket = some socket then do
    let clientId ← d.requestKey "ClientId"
    let providerId ← a.device.userID .providerApp
    return a.write socket (.accepted clientId providerId d.location)
  else return a

/-- `onDisconnect` of the dashboard. -/
def dashboardDisconnect (a : ProviderApp) (i : Nat) (d : ProviderDashboard)
    (code : Option Int) : Except Trap ProviderApp := do
  let code ← unwrap .noError code
  if code = 57 then a.requestSocketToChangeStatusOrLocation i d else return a

/-- `onMessage` of the dashboard. -/
def dashboardMessage (a : ProviderApp) (i : Nat) (d : ProviderDashboard) (socket : Nat)
    (text : Message) (state : ApplicationState) (selectedIndex : Nat) :
    Except Trap ProviderApp :=
  if a.sockets.providerConnectionSocket = some socket then do
    let d ← d.providerMessage text state selectedIndex
    return a.putDashboard i d
  else if a.sockets.clientproviderRequestSocket = some socket then do
    let d ← d.requestMessage text
    return a.putDashboard i d
  else return a

/-! ## 4. Sheet and trip -/

/-- `onMessage` of the sheet. -/
def sheetMessage (a : ProviderApp) (j : Nat) (sheet : ClientDetailSheet) (socket : Nat)
    (text : Message) : Except Trap ProviderApp :=
  if a.sockets.clientproviderRequestSocket = some socket then do
    let sheet ← sheet.requestMessage text
    return a.putSheet j sheet
  else return a

/-- `textFieldEditingChanged`: the right code is reported, and the start-trip screen opens. -/
def textFieldEditingChanged (a : ProviderApp) (j : Nat) (sheet : ClientDetailSheet)
    (text : String) : Except Trap ProviderApp :=
  if sheet.acceptsEdit text then do
    let socket ← a.requestSocket
    let tripId ← forceKey sheet.currentRequest "TripId"
    let a ← ((a.write socket (.reached tripId)).setFlag false).pushStartTrip sheet.currentRequest
    return a.putSheet j sheet.dismiss
  else return a

/-- `CancelRequest(with:)` -/
def cancelTrip (a : ProviderApp) (j : Nat) (sheet : ClientDetailSheet) (reason : String) :
    Except Trap ProviderApp := do
  let socket ← a.requestSocket
  let clientId ← forceKey sheet.currentRequest "ClientId"
  let tripId ← forceKey sheet.currentRequest "TripId"
  let providerId ← forceKey sheet.currentRequest "ProviderId"
  return (a.write socket (.cancelled clientId tripId providerId sheet.clientLocation reason)).putSheet
    j sheet.dismiss

/-- `btnActionPressed`, with the call. -/
def btnActionPressed (a : ProviderApp) (k : Nat) (screen : StartTrip) : Except Trap ProviderApp := do
  let request ← screen.btnActionPressed
  return { a with
    startEndRequests := a.startEndRequests ++ [request]
    startEndCalls := a.startEndCalls.issue (k, request.statusCode) }

def startEndReply (a : ProviderApp) (k : Nat) (statusCode : String) (success : Bool) :
    ProviderApp :=
  match a.trips[k]? with
  | some screen => a.putTrip k (screen.startEndReply statusCode success)
  | none => a

/-! ## 5. The machine -/

/-- The completion handler of `checkTripExistStatus`, for a trip that exists. -/
def tripStatusReply (a : ProviderApp) (existing : Option Dict) : ProviderApp :=
  match existing with
  | some trip => { a with device := { a.device with appDelegate := { a.device.appDelegate with
      doesRequestExist := true, providerExistingTrip := some trip } } }
  | none => a

/-- `userNotificationCenter(_:didReceive:)`, but for the tab that it selects. -/
def notificationTapped (a : ProviderApp) : ProviderApp :=
  { a with device := { a.device with
    appDelegate := { a.device.appDelegate with showRequestUI := true } } }

def tracingLocation (distance : CLLocation → CLLocation → ℚ) (a : ProviderApp)
    (currentLocation : CLLocation) : Option (Except Trap ProviderApp) :=
  match a.locationDelegate with
  | some (.dashboard i) =>
    a.dashboards[i]?.map fun d => do
      let d ← d.tracingLocation distance currentLocation
      return a.putDashboard i d
  | some (.clientDetail j) =>
    a.sheets[j]?.map fun sheet => return a.putSheet j (sheet.tracingLocation currentLocation)
  | _ => none

def onConnect (a : ProviderApp) (socket : Nat) : Except Trap ProviderApp :=
  let a := { a with connected := a.connected ++ [socket] }
  match a.sockets.delegate with
  | some (.dashboard i) =>
    match a.dashboards[i]? with
    | some d => a.dashboardConnect d socket
    | none => return a
  | _ => return a

/-- What each event does, and when it can happen.  The details of a request cover nothing but
their own part of the screen; `Accept` and `Decline` are buttons on them. -/
def react (distance : CLLocation → CLLocation → ℚ) (a : ProviderApp) :
    ProviderEvent → Option (Except Trap ProviderApp)
  | .tripStatusReply existing => some (.ok (a.tripStatusReply existing))
  | .notificationTapped => some (.ok a.notificationTapped)
  | .viewDidLoad => some a.viewDidLoad
  | .viewWillAppear i => a.dashboards[i]?.map fun d => .ok (a.viewWillAppear i d)
  | .willEnterForeground i => a.dashboards[i]?.map fun d => a.willEnterForeground i d
  | .btnCancelRequest i =>
    a.dashboards[i]?.bind fun d =>
      if d.requestViewIsHidden then none else some (.ok (a.putDashboard i d.cancelRequest))
  | .btnAcceptRequest i =>
    a.dashboards[i]?.bind fun d =>
      if d.requestViewIsHidden then none else some (a.btnAcceptRequest i d)
  | .switchValueChanged i isOn => a.dashboards[i]?.map fun d => a.switchValueChanged i d isOn
  | .timerViewFinished i =>
    a.dashboards[i]?.bind fun d =>
      if d.timerViewRuns then some (.ok (a.putDashboard i d.timerViewFinished)) else none
  | .timerFired i =>
    a.dashboards[i]?.bind fun d => if d.timerIsValid then some (a.timerFired d) else none
  | .directionsReply i call success =>
    a.dashboards[i]?.bind fun d =>
      (d.directionsCalls.waiting call).map fun _ =>
        a.directionsReply i { d with directionsCalls := d.directionsCalls.retire call } success
  | .tracingLocation l => a.tracingLocation distance l
  | .onConnect socket =>
    if socket < a.sockets.sockets.length ∧ socket ∉ a.connected ∧ a.sockets.holds socket then
      some (a.onConnect socket)
    else none
  | .onDisconnect code =>
    match a.sockets.delegate with
    | some (.dashboard i) => a.dashboards[i]?.map fun d => a.dashboardDisconnect i d code
    | _ => none
  | .onMessage socket text state selectedIndex =>
    if socket ∈ a.connected ∧ a.sockets.holds socket then
      match a.sockets.delegate with
      | some (.dashboard i) =>
        a.dashboards[i]?.map fun d => a.dashboardMessage i d socket text state selectedIndex
      | some (.clientDetail j) => a.sheets[j]?.map fun sheet => a.sheetMessage j sheet socket text
      | _ => none
    else none
  | .textFieldEditingChanged j text =>
    a.sheets[j]?.bind fun sheet =>
      if sheet.isPresented then some (a.textFieldEditingChanged j sheet text) else none
  | .cancelTrip j reason =>
    a.sheets[j]?.bind fun sheet =>
      if sheet.isPresented then some (a.cancelTrip j sheet reason) else none
  | .btnActionPressed k =>
    a.trips[k]?.bind fun screen =>
      if screen.btnActionIsHidden then none else some (a.btnActionPressed k screen)
  | .startEndReply call success =>
    (a.startEndCalls.waiting call).map fun (k, statusCode) =>
      .ok ({ a with startEndCalls := a.startEndCalls.retire call }.startEndReply k statusCode
        success)

def machine (distance : CLLocation → CLLocation → ℚ) : Machine ProviderApp ProviderEvent Trap where
  react := react distance

end ProviderApp

end WeatherAccommodation
