/-
# The client's phone: what is on screen, and who is the delegate

`App.lean` lets every dashboard be pressed and be called back at any time, and knows of the other
screens only what they leave in the globals.  On the phone the screens lie over one another: the
navigation stack, the provider-detail sheet over it, and the cancel-reason screen over the sheet.
The sheet has a cross, `STPopup`'s own, that dismisses it and tells nobody.  The one delegate of the
sockets and the one of the location manager are screens, too.

`ClientPhone` adds that, with the two screens of a trip.  An event of the app is an event of the
phone where `admits` says so; location reports and socket messages are events of the phone itself
and go to the delegates.
-/
import WeatherAccommodation.Client.App
import WeatherAccommodation.Client.Trip
import WeatherAccommodation.RequestCancelAlert

namespace WeatherAccommodation

open Foundation Reactive

/-! ## 1. The state -/

/-- The screens that take a delegate, by number. -/
inductive ClientOwner where
  | dashboard (i : Nat)
  | providerDetail (j : Nat)
  | clientTrip (k : Nat)
  | cancelAlert (m : Nat)
  deriving DecidableEq, Repr

inductive ClientPushed where
  | dashboard (i : Nat)
  | clientTrip (k : Nat)
  | other
  deriving DecidableEq, Repr

structure ClientPhone where
  app : ClientApp
  /-- The navigation stack, the top first; empty on the sign-in screens. -/
  stack : List ClientPushed := []
  /-- `WebSocketManager.sharedInstance.delegate` -/
  socketOwner : Option ClientOwner := none
  /-- `ClientProviderLocationManager.sharedInstance.delegate` -/
  locationOwner : Option ClientOwner := none
  lastLocation : Option CLLocation := none
  sheets : List TripProviderDetail := []
  trips : List ClientTrip := []
  alerts : List RequestCancelAlert := []
  /-- The cancel-reason screen that is on screen. -/
  alert : Option Nat := none
  /-- `postTripReview`, with the number of the trip screen. -/
  reviewCalls : Callbacks Nat := .empty
  /-- The `trip_cancelled` frames, each with the number of its socket. -/
  frames : List (Nat × TripCancelFrame) := []

inductive ClientPhoneEvent where
  | app (e : AppEvent)
  | tripStatusReply (existing : Option Dict)
  | didUpdateLocations (location : CLLocation)
  | onMessage (socket : Nat) (text : Message) (inBackground : Bool)
  | lateProviderList (i call : Nat) (response : Dict)
  | lateDistance (i call : Nat) (distanceValues : Dict)
  | showDashboard (i : Nat)
  | pushOther
  | popViewController
  | cancelRequest (j sinceAccepted : Nat)
  | cancelTrip (j : Nat)
  | leftBarItemDidTap (j : Nat)
  | dismissAlert
  | btnSubmitPressed (btnShowupIsSelected dismissesSheet : Bool)
  | submitReview (k : Nat)
  | reviewReply (call : Nat)

/-! ## 2. A sheet that cannot be presented -/

namespace ClientSession

/-- `checkIfTripExists` of a dashboard that is covered or gone: what it presents does not come on
screen and does not load, and without a navigation controller it can push nothing. -/
def lateTripExists (s : ClientSession) : Except Trap ClientSession := do
  let trip ← unwrap .currentRequest s.device.appDelegate.clientExistingTrip
  let userID ← s.device.userID .clientApp
  if Dict.int? trip "StatusCode" = some 6 then
    let s := s.resume trip userID
    let _ ← unwrap .clientLocation s.dashboard.clientLocation
    return s.timerAction
  else throw .navigationController

/-- The completion handler of `getOnlineProviderList`, up to `checkIfTripExists`. -/
def lateProviderList (distance : CLLocation → CLLocation → ℚ) (s : ClientSession)
    (response : Dict) : Except Trap ClientSession := do
  let items ← unwrap (.badCast "OnlineProviderList") (Dict.array? response "OnlineProviderList")
  let dashboard ← ClientDashboard.appendOnlineProviders distance items s.dashboard
  (s.put dashboard).watchStatus.lateTripExists

/-- `enterTrip` without the sheet. -/
def lateEnterTrip (s : ClientSession) (distanceValues : Dict) : Except Trap ClientSession := do
  let values ← duration distanceValues
  let eta ← forceInt values "value"
  let here ← unwrap .clientLocation s.dashboard.clientLocation
  let marker := match s.dashboard.clientMarker with
    | none => { position := here }
    | some marker => { marker with position := here, onMap := true }
  return s.put { s.dashboard.timerAction with initialETA := eta, clientMarker := some marker }

/-- The completion handler of `callDistanceMatrixAPI` for a message that was no mere
`location_updated`. -/
def lateDistanceReply (s : ClientSession) (dict distanceValues : Dict) :
    Except Trap ClientSession := do
  let s ← s.lateEnterTrip distanceValues
  let providerId ← forceInt dict "ProviderId"
  let snippet := do
    let values ← duration distanceValues
    return "ETA " ++ (Dict.string? values "text").getD "0"
  let markers ← ClientDashboard.setSnippets (pure providerId) snippet
    s.dashboard.arrOnlineProviders 0 s.dashboard.arrMarkers
  return s.put { s.dashboard with arrMarkers := markers }

end ClientSession

namespace ClientPhone

/-! ## 3. What is on screen -/

def sheetIsPresented (p : ClientPhone) : Bool := p.sheets.any TripProviderDetail.isPresented

/-- The dashboard with number `i` is the visible screen, and can present a sheet. -/
def isVisible (p : ClientPhone) (i : Nat) : Bool :=
  p.stack.head? == some (.dashboard i) && !p.sheetIsPresented

def doesRequestExist (p : ClientPhone) : Bool := p.app.device.appDelegate.doesRequestExist

/-- A trip is resumed with its sheet, not with its trip screen. -/
def resumesSheet (p : ClientPhone) : Bool :=
  p.app.device.appDelegate.clientExistingTrip.any fun trip =>
    Dict.int? trip "StatusCode" == some 6

/-- The dashboard can open what the list's answer makes it open. -/
def canResume (p : ClientPhone) (i : Nat) : Bool :=
  !p.doesRequestExist ||
    if p.resumesSheet then p.isVisible i else p.stack.contains (.dashboard i)

/-- What a distance call captured is no mere `location_updated`. -/
def entersTrip (p : ClientPhone) (i call : Nat) : Bool :=
  (p.app.sessions[i]?.bind fun s => s.distanceCalls.waiting call).any fun dict =>
    Dict.string? dict "RequestType" != some Request_Status.locationUpdated

/-- The events of the app that can happen with the screens as they are. -/
def admits (p : ClientPhone) : AppEvent → Bool
  | .session _ (.tracingLocation _) => false
  | .session _ (.onMessage _ _) => false
  | .session _ (.receivingLocationUpdate _) => false
  | .session i .sendRequest => p.isVisible i
  | .session i .cancelRequest => p.isVisible i
  | .session i .viewWillAppear => p.stack.contains (.dashboard i)
  | .session i (.onlineProviderList _ response) => response.isNone || p.canResume i
  | .session i (.distanceReply call _ success) =>
    !success || !p.entersTrip i call || p.isVisible i
  | .pushDashboard => p.stack.isEmpty
  | _ => true

/-! ## 4. The app moves on -/

/-- The sheet that the dashboard has just presented loads, and takes both delegates. -/
def openSheet (p : ClientPhone) (i : Nat) (b : ClientApp) : ClientPhone :=
  match b.sessions[i]?.bind fun s => s.sheets.getLast? with
  | some sheet =>
    { p with
      app := b
      sheets := p.sheets ++ [{
        delegate := i
        currentRequest := sheet.currentRequest
        clientLocation := sheet.clientLocation }]
      socketOwner := some (.providerDetail p.sheets.length)
      locationOwner := some (.providerDetail p.sheets.length) }
  | none => { p with app := b }

/-- A trip screen is pushed and loads: it takes the delegate of the sockets only. -/
def pushTrip (p : ClientPhone) (screen : ClientTrip) : ClientPhone :=
  { p with
    app := { p.app with sockets := { p.app.sockets with delegate := some .clientTrip } }
    trips := p.trips ++ [screen]
    stack := .clientTrip p.trips.length :: p.stack
    socketOwner := some (.clientTrip p.trips.length) }

/-- The list has arrived: the dashboard listens, or the screen of the trip it resumes. -/
def followList (p : ClientPhone) (i : Nat) (b : ClientApp) : ClientPhone :=
  match b.sockets.delegate with
  | some .providerDetail => p.openSheet i b
  | some .clientTrip =>
    match b.sessions[i]? with
    | some s =>
      { p with app := b }.pushTrip
        { currentRequest := s.dashboard.currentRequest, tripStartDate := true }
    | none => { p with app := b }
  | _ => { p with app := b, socketOwner := some (.dashboard i) }

/-- How many sheets a dashboard has presented. -/
def sheetsOf (a : ClientApp) (i : Nat) : Nat := (a.sessions[i]?.map fun s => s.sheets.length).getD 0

def followDistance (p : ClientPhone) (i : Nat) (b : ClientApp) : ClientPhone :=
  if sheetsOf p.app i < sheetsOf b i then p.openSheet i b else { p with app := b }

/-- A dashboard that was made loads, and takes the location delegate. -/
def followDashboard (p : ClientPhone) (b : ClientApp) : ClientPhone :=
  if p.app.sessions.length < b.sessions.length then
    { p with
      app := b
      stack := .dashboard p.app.sessions.length :: p.stack
      locationOwner := some (.dashboard p.app.sessions.length) }
  else { p with app := b }

/-- Everything is off screen, and the sign-in screens come on. -/
def goBack (p : ClientPhone) (b : ClientApp) : ClientPhone :=
  { p with
    app := b
    stack := []
    sheets := p.sheets.map TripProviderDetail.dismiss
    alert := none }

/-- The phone after the app has handled `e` and is `b`. -/
def follow (p : ClientPhone) (e : AppEvent) (b : ClientApp) : ClientPhone :=
  match e with
  | .session i (.onlineProviderList _ (some _)) => p.followList i b
  | .session i (.distanceReply _ _ _) => p.followDistance i b
  | .signInReply _ => p.followDashboard b
  | .pushDashboard => p.followDashboard b
  | .logout => p.goBack b
  | _ => { p with app := b }

/-! ## 5. Sheet and trip screen -/

def putSheet (p : ClientPhone) (j : Nat) (sheet : TripProviderDetail) : ClientPhone :=
  { p with sheets := p.sheets.set j sheet }

def putTrip (p : ClientPhone) (k : Nat) (screen : ClientTrip) : ClientPhone :=
  { p with trips := p.trips.set k screen }

def setFlag (p : ClientPhone) (doesRequestExist : Bool) : ClientPhone :=
  { p with app := { p.app with device := { p.app.device with
    appDelegate := { p.app.device.appDelegate with doesRequestExist := doesRequestExist } } } }

/-- `dismiss` of the sheet: what lies over it goes first. -/
def dismissFrom (p : ClientPhone) (j : Nat) (sheet : TripProviderDetail) : ClientPhone :=
  if p.alert.isSome then { p with alert := none } else p.putSheet j sheet.dismiss

/-- The sheet goes, and the trip screen is pushed on the stack that presents it. -/
def enterClientTrip (p : ClientPhone) (j : Nat) (sheet : TripProviderDetail) :
    Except Trap ClientPhone := do
  let _ ← unwrap .presentingViewController (if sheet.isPresented then some () else none)
  let screen ← ClientTrip.viewDidLoad { currentRequest := sheet.currentRequest } p.doesRequestExist
  return (p.dismissFrom j sheet).pushTrip screen

/-- `onReceivingLocationUpdate` of the dashboard that opened the sheet. -/
def receivingLocationUpdate (distance : CLLocation → CLLocation → ℚ) (p : ClientPhone)
    (sheet : TripProviderDetail) (text : Message) : Except Trap ClientPhone :=
  match ClientApp.react distance p.app (.session sheet.delegate (.receivingLocationUpdate text)) with
  | some r => do
    let b ← r
    return { p with app := b }
  | none => return p

/-- `onMessage` of the sheet. -/
def sheetMessage (distance : CLLocation → CLLocation → ℚ) (p : ClientPhone) (j : Nat)
    (sheet : TripProviderDetail) (socket : Nat) (text : Message) : Except Trap ClientPhone :=
  if p.app.sockets.clientproviderRequestSocket = some socket then do
    match ← TripProviderDetail.reaction p.doesRequestExist text with
    | .nothing => return p
    | .reached => p.enterClientTrip j sheet
    | .cancelled => return p.dismissFrom j sheet
    | .locationUpdated => p.receivingLocationUpdate distance sheet text
    | .started => (p.setFlag false).enterClientTrip j sheet
  else return p

/-- `onMessage` of the trip screen. -/
def tripMessage (p : ClientPhone) (k : Nat) (screen : ClientTrip) (socket : Nat) (text : Message)
    (inBackground : Bool) : Except Trap ClientPhone :=
  if p.app.sockets.clientproviderRequestSocket = some socket then do
    let screen ← screen.requestMessage text inBackground
    return p.putTrip k screen
  else return p

/-- A message goes to the delegate; without one nothing is called. -/
def onMessage (distance : CLLocation → CLLocation → ℚ) (p : ClientPhone) (socket : Nat)
    (text : Message) (inBackground : Bool) : Option (Except Trap ClientPhone) :=
  match p.socketOwner with
  | some (.dashboard i) =>
    (ClientApp.react distance p.app (.session i (.onMessage socket text))).map fun r =>
      r.map fun b => { p with app := b }
  | some (.providerDetail j) =>
    p.sheets[j]?.map fun sheet => p.sheetMessage distance j sheet socket text
  | some (.clientTrip k) =>
    p.trips[k]?.map fun screen => p.tripMessage k screen socket text inBackground
  | _ => none

/-- `tracingLocation` of the delegate. -/
def tellOwner (distance : CLLocation → CLLocation → ℚ) (p : ClientPhone) (location : CLLocation) :
    Except Trap ClientPhone :=
  match p.locationOwner with
  | some (.dashboard i) =>
    match ClientApp.react distance p.app (.session i (.tracingLocation location)) with
    | some r => do
      let b ← r
      return { p with app := b }
    | none => return p
  | some (.providerDetail j) =>
    match p.sheets[j]? with
    | some sheet => return p.putSheet j (sheet.tracingLocation location)
    | none => return p
  | some (.cancelAlert m) =>
    match p.alerts[m]? with
    | some alert => return { p with alerts := p.alerts.set m (alert.tracingLocation location) }
    | none => return p
  | _ => return p

/-! ## 6. Cancelling, and reviewing -/

/-- `write` on the request socket. -/
def write (p : ClientPhone) (frame : TripCancelFrame) : Except Trap ClientPhone := do
  let socket ← unwrap .socket p.app.sockets.clientproviderRequestSocket
  return { p with frames := p.frames ++ [(socket, frame)] }

def cancelTrip (p : ClientPhone) (j : Nat) (sheet : TripProviderDetail) : Except Trap ClientPhone := do
  let frame ← sheet.cancelFrame CancellationReasonCode.noReason
  let p ← p.write frame
  return p.putSheet j sheet.dismiss

/-- The cancel-reason screen is presented, and takes the location delegate. -/
def openAlert (p : ClientPhone) (sheet : TripProviderDetail) : ClientPhone :=
  { p with
    alerts := p.alerts ++ [{
      currentRequest := sheet.currentRequest
      currentLocation := sheet.clientLocation }]
    alert := some p.alerts.length
    locationOwner := some (.cancelAlert p.alerts.length) }

/-- `cancelRequest` of the sheet, with the button `Cancel` of the alert it may show.  Within
the first minute it only asks, and its `YES` is `cancelTrip`. -/
def cancelRequest (p : ClientPhone) (sheet : TripProviderDetail) (sinceAccepted : Nat) :
    ClientPhone :=
  if 1 ≤ minutesOf sinceAccepted then p.openAlert sheet else p

/-- `btnSubmitPressed`, with `CancelRequest(with:userType:)`.  Whether the sheet goes with the
alert is up to UIKit. -/
def btnSubmitPressed (p : ClientPhone) (alert : RequestCancelAlert)
    (btnShowupIsSelected dismissesSheet : Bool) : Except Trap ClientPhone := do
  let clientId ← forceKey alert.currentRequest "ClientId"
  let tripId ← forceKey alert.currentRequest "TripId"
  let providerId ← forceKey alert.currentRequest "ProviderId"
  let p ← p.write {
    clientId := clientId
    tripId := tripId
    providerId := providerId
    location := alert.currentLocation
    reason := RequestCancelAlert.reason btnShowupIsSelected }
  return { p with
    sheets := if dismissesSheet then p.sheets.map TripProviderDetail.dismiss else p.sheets
    alert := none }

def submitReview (p : ClientPhone) (k : Nat) (screen : ClientTrip) : Except Trap ClientPhone := do
  let _ ← screen.submitReview
  return { p with reviewCalls := p.reviewCalls.issue k }

/-- `popViewController`; the last screen stays. -/
def pop (p : ClientPhone) : ClientPhone :=
  { p with stack := if p.stack.length ≤ 1 then p.stack else p.stack.tail }

/-- The answer to a review pops the stack that its screen is on. -/
def reviewReply (p : ClientPhone) (k : Nat) : ClientPhone :=
  if p.stack.contains (.clientTrip k) then p.pop else p

/-- The dashboard is moved to the top of the stack, as the side menu does. -/
def showDashboard (p : ClientPhone) (i : Nat) : ClientPhone :=
  { p with stack := .dashboard i :: p.stack.filter (· != .dashboard i) }

/-- The completion handler of `checkTripExistStatus`, for a trip that exists. -/
def tripStatusReply (p : ClientPhone) (existing : Option Dict) : ClientPhone :=
  match existing with
  | some trip =>
    { p with app := { p.app with device := { p.app.device with
      appDelegate := { p.app.device.appDelegate with
        doesRequestExist := true, clientExistingTrip := some trip } } } }
  | none => p

/-! ## 7. The machine -/

/-- What each event does, and when it can happen. -/
def react (distance : CLLocation → CLLocation → ℚ) (p : ClientPhone) :
    ClientPhoneEvent → Option (Except Trap ClientPhone)
  | .app e =>
    if p.admits e then (ClientApp.react distance p.app e).map fun r => r.map (p.follow e)
    else none
  | .tripStatusReply existing => some (.ok (p.tripStatusReply existing))
  | .didUpdateLocations location =>
    some ({ p with lastLocation := some location }.tellOwner distance location)
  | .onMessage socket text inBackground => p.onMessage distance socket text inBackground
  | .lateProviderList i call response =>
    if p.canResume i then none
    else p.app.sessions[i]?.bind fun s =>
      (s.listCalls.waiting call).map fun _ =>
        (({ p.app.lend s with listCalls := s.listCalls.retire call }.lateProviderList distance
          response).map fun t =>
            { p with app := p.app.store i t, socketOwner := some (.dashboard i) })
  | .lateDistance i call distanceValues =>
    if p.entersTrip i call ∧ p.isVisible i = false then
      p.app.sessions[i]?.bind fun s =>
        (s.distanceCalls.waiting call).map fun dict =>
          (({ p.app.lend s with distanceCalls := s.distanceCalls.retire call }.lateDistanceReply
            dict distanceValues).map fun t => { p with app := p.app.store i t })
    else none
  | .showDashboard i =>
    if p.stack.contains (.dashboard i) ∧ p.sheetIsPresented = false then
      some (.ok (p.showDashboard i))
    else none
  | .pushOther =>
    if p.stack = [] ∨ p.sheetIsPresented = true then none
    else some (.ok { p with stack := .other :: p.stack })
  | .popViewController => if p.sheetIsPresented then none else some (.ok p.pop)
  | .cancelRequest j sinceAccepted =>
    p.sheets[j]?.bind fun sheet =>
      if sheet.isPresented ∧ p.alert = none then some (.ok (p.cancelRequest sheet sinceAccepted))
      else none
  | .cancelTrip j =>
    p.sheets[j]?.bind fun sheet =>
      if sheet.isPresented ∧ p.alert = none then some (p.cancelTrip j sheet) else none
  | .leftBarItemDidTap j =>
    p.sheets[j]?.bind fun sheet =>
      if sheet.isPresented ∧ p.alert = none then some (.ok (p.putSheet j sheet.dismiss)) else none
  | .dismissAlert => if p.alert = none then none else some (.ok { p with alert := none })
  | .btnSubmitPressed btnShowupIsSelected dismissesSheet =>
    (p.alert.bind fun m => p.alerts[m]?).map fun alert =>
      p.btnSubmitPressed alert btnShowupIsSelected dismissesSheet
  | .submitReview k =>
    p.trips[k]?.bind fun screen =>
      if p.stack.head? = some (.clientTrip k) ∧ screen.vwRatingsIsHidden = false then
        some (p.submitReview k screen)
      else none
  | .reviewReply call =>
    (p.reviewCalls.waiting call).map fun k =>
      .ok ({ p with reviewCalls := p.reviewCalls.retire call }.reviewReply k)

def machine (distance : CLLocation → CLLocation → ℚ) : Machine ClientPhone ClientPhoneEvent Trap where
  react := react distance

end ClientPhone

end WeatherAccommodation
