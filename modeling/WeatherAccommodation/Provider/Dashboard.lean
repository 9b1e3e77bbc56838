/-
# The provider dashboard

`ProviderDadhboardViewController.swift`: the variables of the screen and the handlers that read
and write nothing else.  What also touches the sockets or opens other screens is in
`App.lean`.

`currentRequest` is one variable for three things: the request whose details are shown, the
request that was accepted, and the client of the trip.  Every message that is shown replaces
it, also while the details of another request are on screen, and every cancellation empties
it, whoever cancelled.
-/
import WeatherAccommodation.Globals
import WeatherAccommodation.Library.Callbacks

namespace WeatherAccommodation

open Foundation Reactive

/-- `UIApplication.State` -/
inductive ApplicationState where
  | active
  | inactive
  | background
  deriving DecidableEq, Repr

structure ProviderDashboard where
  /-- `latitude` and `longitude`; both texts are empty before the first report. -/
  location : Option CLLocation := none
  currentRequest : Option Dict := none
  currentAcceptedRequest : Option Dict := none
  /-- The last request that came while nobody looked; the empty text it starts as is no JSON. -/
  requestDetail : Message := none
  hasProviderReached : Bool := false
  swchStatusIsOn : Bool := false
  requestViewIsHidden : Bool := true
  /-- The request whose distance `lblDistance` shows. -/
  lblDistance : Option Dict := none
  /-- The 120-second ring that hides the details. -/
  timerViewRuns : Bool := false
  /-- The 30-second timer that reports the location. -/
  timerIsValid : Bool := false
  /-- `clientMarker`, `providerMarker` and `tripPath` were made. -/
  hasMarkers : Bool := false
  /-- `getDirections` -/
  directionsCalls : Callbacks Unit := .empty

namespace ProviderDashboard

/-! ## 1. Reading the current request -/

/-- `currentRequest[key]!` -/
def requestKey (d : ProviderDashboard) (key : String) : Except Trap Json := do
  let request ← unwrap .currentRequest d.currentRequest
  forceKey request key

/-- `Double(currentRequest[key]! as! String)!` -/
def requestNumber (d : ProviderDashboard) (key : String) : Except Trap Double := do
  let value ← d.requestKey key
  let text ← unwrap (.badCast key) value.asString?
  forceDouble key text

/-- Where the client of the current request is. -/
def clientLocation (d : ProviderDashboard) : Except Trap CLLocation := do
  let latitude ← d.requestNumber "latitude"
  let longitude ← d.requestNumber "longitude"
  return { latitude := latitude, longitude := longitude }

/-- `CLLocation(latitude: Double(self.latitude)!, longitude: Double(self.longitude)!)` -/
def ownLocation (d : ProviderDashboard) : Except Trap CLLocation :=
  unwrap (.notANumber "latitude") d.location

/-! ## 2. Requests -/

/-- The details go off screen. -/
def hideRequest (d : ProviderDashboard) : ProviderDashboard := { d with requestViewIsHidden := true }

/-- The details of a request come on screen, for 120 seconds. -/
def display (d : ProviderDashboard) (request : Dict) : ProviderDashboard :=
  { d with requestViewIsHidden := false, lblDistance := some request, timerViewRuns := true }

/-- The request is current before anything else is looked at. -/
def setCurrentRequest (d : ProviderDashboard) (request : Option Dict) : ProviderDashboard :=
  { d with currentRequest := request }

@[simp] theorem currentRequest_setCurrentRequest (d : ProviderDashboard) (request : Option Dict) :
    (d.setCurrentRequest request).currentRequest = request := rfl

/-- `showRequestUI`.  The details on screen are replaced by none of a later request. -/
def showRequestUI (d : ProviderDashboard) (requestDetail : Message) :
    Except Trap ProviderDashboard := do
  match ← messageDict requestDetail with
  | none => return d
  | some dict =>
    let d := d.setCurrentRequest (Dict.dict? dict "ClientData")
    let request ← unwrap .currentRequest d.currentRequest
    if ← hasText request "RequestStatus" Request_Status.cancelled then return d.hideRequest
    else if d.requestViewIsHidden then
      let latitude ← forceString request "latitude"
      let longitude ← forceString request "longitude"
      let _ ← forceLocation latitude longitude
      let _ ← d.ownLocation
      return d.display request
    else return d

/-- `cancelRequest`, which the `Decline` button calls, too. -/
def cancelRequest (d : ProviderDashboard) : ProviderDashboard :=
  d.hideRequest.setCurrentRequest (some [])

/-- The part of `onMessage` for `providerConnectionSocket`. -/
def providerMessage (d : ProviderDashboard) (text : Message) (state : ApplicationState)
    (selectedIndex : Nat) : Except Trap ProviderDashboard := do
  match ← messageDict text with
  | none => return d
  | some dict =>
    let client ← forceDict dict "ClientData"
    if ← hasText client "RequestStatus" Request_Status.requested then
      if state = .background ∨ (state = .active ∧ selectedIndex ≠ 0) then
        return { d with requestDetail := text }
      else d.showRequestUI text
    else if ← hasText client "RequestStatus" Request_Status.cancelled then
      return d.cancelRequest
    else if ← hasText client "RequestStatus" Trip_Status.accepted then return d.hideRequest
    else return d

/-- The ring is through. -/
def timerViewFinished (d : ProviderDashboard) : ProviderDashboard :=
  { d.hideRequest with timerViewRuns := false }

/-! ## 3. Location and trip -/

/-- Ten metres. -/
def reachedDistance : ℚ := 10

def setReached (d : ProviderDashboard) : ProviderDashboard := { d with hasProviderReached := true }

def tracingLocation (distance : CLLocation → CLLocation → ℚ) (d : ProviderDashboard)
    (currentLocation : CLLocation) : Except Trap ProviderDashboard :=
  let d : ProviderDashboard := { d with location := some currentLocation }
  if d.currentRequest = none then return d
  else do
    let client ← d.clientLocation
    if distance client currentLocation ≤ reachedDistance ∧ d.hasProviderReached = false then
      return d.setReached
    else return d

/-- `callDistanceAPI`: both ends of the way are read, and the directions asked for. -/
def callDistanceAPI (d : ProviderDashboard) : Except Trap ProviderDashboard := do
  let _ ← d.requestKey "latitude"
  let _ ← d.requestKey "longitude"
  return { d with directionsCalls := d.directionsCalls.issue () }

/-- The old timer is invalidated, and a new one scheduled. -/
def restartTimer (d : ProviderDashboard) : ProviderDashboard := { d with timerIsValid := true }

def invalidateTimer (d : ProviderDashboard) : ProviderDashboard := { d with timerIsValid := false }

def setAccepted (d : ProviderDashboard) (dict : Dict) : ProviderDashboard :=
  { d with currentAcceptedRequest := some dict }

/-- The part of `onMessage` for `clientproviderRequestSocket`.  Whose acceptance it is, is not
looked at. -/
def requestMessage (d : ProviderDashboard) (text : Message) : Except Trap ProviderDashboard := do
  match ← messageDict text with
  | none => return d
  | some dict =>
    if ← hasText dict "RequestType" Trip_Status.accepted then
      let d ← (d.setAccepted dict).callDistanceAPI
      return d.restartTimer
    else return d

/-- The directions arrived: both ends are marked on the map. -/
def drawMarkers (d : ProviderDashboard) : Except Trap ProviderDashboard := do
  let _ ← d.ownLocation
  let _ ← d.clientLocation
  return { d with hasMarkers := true }

/-- The part of `viewWillAppear` that is about the map. -/
def clearTrip (d : ProviderDashboard) : ProviderDashboard :=
  if d.hasMarkers then d.invalidateTimer else d

end ProviderDashboard

end WeatherAccommodation
