/-
# The provider's phone: what is on screen, and who hears of a location

`App.lean` lets every screen be pressed and every screen be told a location.  On the phone the
screens lie over one another: the tab bar with the dashboard as its first tab, what was pushed
over it, the client-detail sheet, and the cancel-reason screen over the sheet.  What is covered
cannot be pressed, and a sheet is only presented by a tab bar with nothing over it.  `STPopup` gives
the sheet a bar with a cross, which dismisses it and tells nobody.

`ProviderPhone` adds that, the location manager with every screen that takes its delegate, and
what the dashboard tells the map.  An event of the app is an event of the phone where
`admits` says so; location reports and disconnections are events of the phone itself.
-/
import WeatherAccommodation.Provider.Steps
import WeatherAccommodation.RequestCancelAlert

namespace WeatherAccommodation

open Foundation Reactive

/-! ## 1. The state -/

/-- What lies over the tab bar in the navigation stack. -/
inductive Pushed where
  | startTrip (k : Nat)
  | other
  deriving DecidableEq, Repr

/-- Who takes the location delegate besides the screens of the app: the cancel-reason screen,
and the weather and places screens, which give it up at the first report. -/
inductive LocationTaker where
  | alert (m : Nat)
  | other
  deriving DecidableEq, Repr

/-- What the dashboard with number `i` tells the map: the directions it asks for, the marker of
the client, and the address it opens. -/
inductive Route where
  | directions (i : Nat) (dest_lat dest_long : Json)
  | clientMarker (i call : Nat) (position : CLLocation)
  | navigation (i : Nat) (latitude longitude : Json)

structure ProviderPhone where
  app : ProviderApp
  /-- The dashboard of the tab bar that is on screen; none before the sign-in. -/
  home : Option Nat := none
  selectedIndex : Nat := 0
  /-- The last one pushed comes first. -/
  pushed : List Pushed := []
  /-- `lastLocation` of `ClientProviderLocationManager` -/
  lastLocation : Option CLLocation := none
  /-- Counts while no screen of the app is the location delegate. -/
  taker : Option LocationTaker := none
  alerts : List RequestCancelAlert := []
  /-- The cancel-reason screen that is on screen. -/
  alert : Option Nat := none
  /-- The sheets whose `reachedDate` was set. -/
  reached : List Nat := []
  /-- The sockets that called back with a disconnection. -/
  closed : List Nat := []
  /-- The dashboards whose `btnNavigation` is shown. -/
  navigationShown : List Nat := []
  routes : List Route := []

inductive PhoneEvent where
  | app (e : ProviderEvent)
  | lateDirections (i call : Nat)
  | didUpdateLocations (location : CLLocation)
  | didDisconnect (socket : Nat) (code : Option Int)
  | selectTab (index : Nat) (takesLocation : Bool)
  | pushOther (takesLocation : Bool)
  | popViewController
  | logout
  | goBackToMainViewController
  | elsewhere (defaults : UserDefaults)
  | btnNavigationPressed (i : Nat)
  | notifyWhenProviderHasReached (j : Nat)
  | cancelRequest (j : Nat) (sinceAccepted sinceReached : Nat)
  | leftBarItemDidTap (j : Nat)
  | dismissAlert
  | btnSubmitPressed (btnShowupIsSelected dismissesSheet : Bool)

/-! ## 2. Where the way leads -/

namespace ProviderDashboard

/-- `currentRequest["latitude"]!` and `currentRequest["longitude"]!` -/
def destination (d : ProviderDashboard) : Except Trap (Json × Json) := do
  let latitude ← d.requestKey "latitude"
  let longitude ← d.requestKey "longitude"
  return (latitude, longitude)

/-- What `callDistanceAPI` reads is the destination. -/
theorem callDistanceAPI_eq (d : ProviderDashboard) :
    d.callDistanceAPI = (do
      let _ ← d.destination
      return { d with directionsCalls := d.directionsCalls.issue () }) := by
  unfold callDistanceAPI destination
  cases d.requestKey "latitude" with
  | error t => rfl
  | ok latitude =>
    cases d.requestKey "longitude" with
    | error t => rfl
    | ok longitude => rfl

end ProviderDashboard

namespace ProviderApp

/-- The destination of the directions that a message makes a dashboard ask for. -/
def messageRoutes (a : ProviderApp) (socket : Nat) (text : Message) : List Route :=
  match a.sockets.delegate with
  | some (.dashboard i) =>
    if a.sockets.providerConnectionSocket ≠ some socket ∧
        a.sockets.clientproviderRequestSocket = some socket ∧
        ProviderDashboard.isAcceptance text then
      match a.dashboards[i]?.map ProviderDashboard.destination with
      | some (.ok (latitude, longitude)) => [.directions i latitude longitude]
      | _ => []
    else []
  | _ => []

/-- The marker that the directions put on the map. -/
def replyRoutes (a : ProviderApp) (i call : Nat) : List Route :=
  match a.dashboards[i]?.map ProviderDashboard.clientLocation with
  | some (.ok position) => [.clientMarker i call position]
  | _ => []

/-- What an event that is handled tells the map. -/
def routesOf (a : ProviderApp) : ProviderEvent → List Route
  | .onMessage socket text _ _ => a.messageRoutes socket text
  | .directionsReply i call true => a.replyRoutes i call
  | _ => []

def dismissSheets (a : ProviderApp) : ProviderApp :=
  { a with sheets := a.sheets.map ClientDetailSheet.dismiss }

def setDefaults (a : ProviderApp) (defaults : UserDefaults) : ProviderApp :=
  { a with device := { a.device with defaults := defaults } }

end ProviderApp

namespace ProviderPhone

/-! ## 3. What is on screen -/

def sheetIsPresented (p : ProviderPhone) : Bool :=
  p.app.sheets.any ClientDetailSheet.isPresented

/-- The tab bar with nothing over it. -/
def tabBarIsOnTop (p : ProviderPhone) : Bool :=
  p.home.isSome && p.pushed.isEmpty && !p.sheetIsPresented

/-- The dashboard with number `i` is the visible screen. -/
def isVisible (p : ProviderPhone) (i : Nat) : Bool :=
  p.home == some i && p.selectedIndex == 0 && p.tabBarIsOnTop

/-- The dashboard with number `i` can present a sheet; what it presents otherwise does not
come on screen, and does not load. -/
def canPresent (p : ProviderPhone) (i : Nat) : Bool :=
  p.home == some i && p.tabBarIsOnTop

/-- The events of the app that can happen with the screens as they are. -/
def admits (p : ProviderPhone) : ProviderEvent → Bool
  | .viewDidLoad => p.home.isNone
  | .viewWillAppear i => p.home == some i
  | .btnCancelRequest i => p.isVisible i
  | .btnAcceptRequest i => p.isVisible i
  | .switchValueChanged i _ => p.isVisible i
  | .directionsReply i _ success => !success || p.canPresent i
  | .tracingLocation _ => false
  | .onConnect socket => !p.closed.contains socket
  | .onDisconnect _ => false
  | .onMessage socket _ _ _ => !p.closed.contains socket
  | .textFieldEditingChanged _ _ => p.alert.isNone
  | .cancelTrip _ reason => p.alert.isNone && reason == CancellationReasonCode.noReason
  | .btnActionPressed k => p.pushed.head? == some (.startTrip k)
  | .tripStatusReply _ | .notificationTapped | .willEnterForeground _ | .timerViewFinished _
  | .timerFired _ | .startEndReply _ _ => true

/-! ## 4. The app moves on -/

/-- The start-trip screens of `b` that `a` has not got are pushed. -/
def pushNew (p : ProviderPhone) (b : ProviderApp) : List Pushed :=
  if p.app.trips.length < b.trips.length then .startTrip p.app.trips.length :: p.pushed
  else p.pushed

/-- Which navigation buttons are shown after an event. -/
def navigationAfter (p : ProviderPhone) : ProviderEvent → List Nat
  | .directionsReply i _ true => i :: p.navigationShown
  | .viewWillAppear i =>
    if (p.app.dashboards[i]?.map ProviderDashboard.hasMarkers).getD false then
      p.navigationShown.filter (· != i)
    else p.navigationShown
  | _ => p.navigationShown

/-- Whoever taps on the notification of a request gets to the first tab. -/
def indexAfter (p : ProviderPhone) : ProviderEvent → Nat
  | .notificationTapped => 0
  | _ => p.selectedIndex

def homeAfter (p : ProviderPhone) : ProviderEvent → Option Nat
  | .viewDidLoad => some p.app.dashboards.length
  | _ => p.home

/-- The phone after the app has handled `e` and is `b`. -/
def follow (p : ProviderPhone) (e : ProviderEvent) (b : ProviderApp) : ProviderPhone :=
  { p with
    app := b
    home := p.homeAfter e
    selectedIndex := p.indexAfter e
    pushed := p.pushNew b
    alert := if b.sheets.any ClientDetailSheet.isPresented then p.alert else none
    navigationShown := p.navigationAfter e
    routes := p.routes ++ p.app.routesOf e }

/-- Directions for a dashboard that cannot present its sheet. -/
def lateDirections (p : ProviderPhone) (i call : Nat) (d : ProviderDashboard) :
    Except Trap ProviderPhone := do
  let d ← (ProviderApp.answered d call).drawMarkers
  let _ ← unwrap .currentAcceptedRequest d.currentAcceptedRequest
  return { p with
    app := p.app.putDashboard i d
    navigationShown := i :: p.navigationShown
    routes := p.routes ++ p.app.replyRoutes i call }

/-! ## 5. Locations -/

/-- Another screen takes the location delegate. -/
def take (p : ProviderPhone) (taker : LocationTaker) : ProviderPhone :=
  { p with app := { p.app with locationDelegate := none }, taker := some taker }

def takeIf (p : ProviderPhone) (takesLocation : Bool) : ProviderPhone :=
  if takesLocation then p.take .other else p

/-- `tracingLocation` of a screen that is none of the app's. -/
def tellTaker (p : ProviderPhone) (location : CLLocation) : ProviderPhone :=
  match p.taker with
  | some (.alert m) =>
    match p.alerts[m]? with
    | some alert => { p with alerts := p.alerts.set m (alert.tracingLocation location) }
    | none => p
  | some .other => { p with taker := none }
  | none => p

/-- `didUpdateLocations`: the location is kept, and the delegate told. -/
def didUpdateLocations (distance : CLLocation → CLLocation → ℚ) (p : ProviderPhone)
    (location : CLLocation) : Except Trap ProviderPhone :=
  let p := { p with lastLocation := some location }
  match p.app.tracingLocation distance location with
  | some r => do
    let a ← r
    return { p with app := a }
  | none => if p.app.locationDelegate = none then return p.tellTaker location else return p

/-! ## 6. Sockets and navigation -/

def didDisconnect (p : ProviderPhone) (socket : Nat) (code : Option Int) :
    Except Trap ProviderPhone :=
  let p := { p with closed := p.closed ++ [socket] }
  match p.app.sockets.delegate with
  | some (.dashboard i) =>
    match p.app.dashboards[i]? with
    | some d => do
      let a ← p.app.dashboardDisconnect i d code
      return { p with app := a }
    | none => return p
  | _ => return p

/-- Everything is off screen, and the sign-in screens come on. -/
def goBackToMainViewController (p : ProviderPhone) : ProviderPhone :=
  { p with app := p.app.dismissSheets, home := none, selectedIndex := 0, pushed := [], alert := none }

/-- `btnMorePressed`: the sockets are asked to close, too, and will call back. -/
def logout (p : ProviderPhone) : ProviderPhone :=
  let p := p.goBackToMainViewController
  { p with app := p.app.setDefaults (p.app.device.defaults.setBool .iSUerActivated false) }

def btnNavigationPressed (p : ProviderPhone) (i : Nat) (d : ProviderDashboard) :
    Except Trap ProviderPhone := do
  let (latitude, longitude) ← d.destination
  return { p with routes := p.routes ++ [.navigation i latitude longitude] }

/-! ## 7. The cross, and the cancel-reason screen -/

/-- `leftBarItemDidTap` of `STPopupController` -/
def leftBarItemDidTap (p : ProviderPhone) (j : Nat) (sheet : ClientDetailSheet) : ProviderPhone :=
  { p with app := p.app.putSheet j sheet.dismiss }

def openAlert (p : ProviderPhone) (sheet : ClientDetailSheet) : ProviderPhone :=
  { p.take (.alert p.alerts.length) with
    alerts := p.alerts ++ [{
      currentRequest := sheet.currentRequest
      currentLocation := sheet.clientLocation }]
    alert := some p.alerts.length }

/-- `cancelRequest` of the sheet, with the button `Cancel` of the alert it may show.  Within
the first minute it only asks, and its `YES` is `cancelTrip`. -/
def cancelRequest (p : ProviderPhone) (j : Nat) (sheet : ClientDetailSheet)
    (sinceAccepted sinceReached : Nat) : Except Trap ProviderPhone :=
  if 1 ≤ minutesOf sinceAccepted then do
    let _ ← unwrap .reachedDate (if j ∈ p.reached then some () else none)
    if 3 ≤ minutesOf sinceReached then return p.openAlert sheet else return p
  else return p

/-- `btnSubmitPressed`, with `CancelRequest(with:userType:)`.  Whether the sheet goes with the
alert is up to UIKit. -/
def btnSubmitPressed (p : ProviderPhone) (alert : RequestCancelAlert)
    (btnShowupIsSelected dismissesSheet : Bool) : Except Trap ProviderPhone := do
  let socket ← p.app.requestSocket
  let clientId ← forceKey alert.currentRequest "ClientId"
  let tripId ← forceKey alert.currentRequest "TripId"
  let providerId ← forceKey alert.currentRequest "ProviderId"
  let a := p.app.write socket (.cancelled clientId tripId providerId alert.currentLocation
    (RequestCancelAlert.reason btnShowupIsSelected))
  return { p with app := if dismissesSheet then a.dismissSheets else a, alert := none }

/-! ## 8. The machine -/

/-- What each event does, and when it can happen. -/
def react (distance : CLLocation → CLLocation → ℚ) (p : ProviderPhone) :
    PhoneEvent → Option (Except Trap ProviderPhone)
  | .app e =>
    if p.admits e then (ProviderApp.react distance p.app e).map fun r => r.map (p.follow e)
    else none
  | .lateDirections i call =>
    if p.canPresent i then none
    else p.app.dashboards[i]?.bind fun d =>
      (d.directionsCalls.waiting call).map fun _ => p.lateDirections i call d
  | .didUpdateLocations location => some (p.didUpdateLocations distance location)
  | .didDisconnect socket code =>
    if socket < p.app.sockets.sockets.length ∧ socket ∉ p.closed ∧ p.app.sockets.holds socket then
      some (p.didDisconnect socket code)
    else none
  | .selectTab index takesLocation =>
    if p.tabBarIsOnTop then some (.ok ({ p with selectedIndex := index }.takeIf takesLocation))
    else none
  | .pushOther takesLocation =>
    if p.tabBarIsOnTop then
      some (.ok ({ p with pushed := .other :: p.pushed }.takeIf takesLocation))
    else none
  | .popViewController =>
    if p.pushed = [] then none else some (.ok { p with pushed := p.pushed.tail })
  | .logout => if p.tabBarIsOnTop then some (.ok p.logout) else none
  | .goBackToMainViewController =>
    if p.home.isSome then some (.ok p.goBackToMainViewController) else none
  | .elsewhere defaults => some (.ok { p with app := p.app.setDefaults defaults })
  | .btnNavigationPressed i =>
    if p.home = some i ∧ i ∈ p.navigationShown then
      p.app.dashboards[i]?.map (p.btnNavigationPressed i)
    else none
  | .notifyWhenProviderHasReached j =>
    if j < p.app.sheets.length then some (.ok { p with reached := j :: p.reached }) else none
  | .cancelRequest j sinceAccepted sinceReached =>
    p.app.sheets[j]?.bind fun sheet =>
      if sheet.isPresented ∧ p.alert = none then
        some (p.cancelRequest j sheet sinceAccepted sinceReached)
      else none
  | .leftBarItemDidTap j =>
    p.app.sheets[j]?.bind fun sheet =>
      if sheet.isPresented ∧ p.alert = none then some (.ok (p.leftBarItemDidTap j sheet)) else none
  | .dismissAlert => if p.alert = none then none else some (.ok { p with alert := none })
  | .btnSubmitPressed btnShowupIsSelected dismissesSheet =>
    (p.alert.bind fun m => p.alerts[m]?).map fun alert =>
      p.btnSubmitPressed alert btnShowupIsSelected dismissesSheet

def machine (distance : CLLocation → CLLocation → ℚ) : Machine ProviderPhone PhoneEvent Trap where
  react := react distance

end ProviderPhone

end WeatherAccommodation
