/-
# Both sides of the app on one handset

The client's side and the provider's side are one app.  They share `UserDefaults` and the variables
of `AppDelegate`, the sockets with their one delegate, and the location manager with its own; and
only one of them is signed in at a time, while the other has left behind whatever still calls back.

`Handset` puts the two phones together.  Each handles its events as before, and the other one then
sees what they share (`share`).  In between are the home screen and the sign-in, which store a
profile and open a dashboard; of the forms, only what their replies leave counts here.
-/
import WeatherAccommodation.Account.Screens
import WeatherAccommodation.Client.Phone
import WeatherAccommodation.Provider.Phone

namespace WeatherAccommodation

open Foundation Reactive

/-! ## 1. What the two sides share -/

/-- The sockets as the other side sees them, whose screen `own` is the delegate unless this side has
taken it. -/
def WebSocketManager.seenBy {δ ε : Type} (m : WebSocketManager δ) (own : Option ε) :
    WebSocketManager ε where
  sockets := m.sockets
  clientCommonDataSocket := m.clientCommonDataSocket
  providerConnectionSocket := m.providerConnectionSocket
  clientproviderRequestSocket := m.clientproviderRequestSocket
  delegate := if m.delegate.isSome then none else own

/-- A screen of the provider's side is told the locations. -/
def ProviderPhone.hasLocations (p : ProviderPhone) : Bool :=
  p.app.locationDelegate.isSome || p.taker.isSome

/-- The client's side, once the provider's side is `p`. -/
def ClientPhone.share (c : ClientPhone) (p : ProviderPhone) : ClientPhone :=
  { c with
    app := { c.app with
      device := p.app.device
      sockets := p.app.sockets.seenBy c.app.sockets.delegate }
    socketOwner := if p.app.sockets.delegate.isSome then none else c.socketOwner
    locationOwner := if p.hasLocations then none else c.locationOwner
    lastLocation := p.lastLocation }

/-- The provider's side, once the client's side is `c`. -/
def ProviderPhone.share (p : ProviderPhone) (c : ClientPhone) : ProviderPhone :=
  { p with
    app := { p.app with
      device := c.app.device
      sockets := c.app.sockets.seenBy p.app.sockets.delegate
      locationDelegate := if c.locationOwner.isSome then none else p.app.locationDelegate }
    taker := if c.locationOwner.isSome then none else p.taker
    lastLocation := c.lastLocation }

/-- `getBoolValueFromUserDefault(iSUerActivated)` -/
def UserDefaults.isUserActivated (u : UserDefaults) : Bool :=
  match u.value .iSUerActivated with
  | some (.bool b) => b
  | _ => false

/-! ## 2. The state -/

structure Handset where
  provider : ProviderPhone
  client : ClientPhone
  /-- `getProviderProfileUserInformationAPI` -/
  profileCalls : Callbacks Unit := .empty
  /-- `checkTripExistStatus` of the home screen, with the side that it opens. -/
  homeCalls : Callbacks UserLoginType := .empty

/-- A reply is `none` when the call failed. -/
inductive HandsetEvent where
  | provider (e : PhoneEvent)
  | client (e : ClientPhoneEvent)
  | clientProviderButtonAction (role : UserLoginType)
  | profileStored (reply : Dict)
  | callingLoginWS (reply : Dict)
  | verifyUserThroughWS (reply : Dict)
  | homeLoads
  | checkTripExistStatus (call : Nat)
  | providerProfile (call : Nat) (reply : Option Dict)
  | refused

/-- The events of the provider's phone that are the handset's: a dashboard is made, or something
else writes the defaults. -/
def ProviderPhone.isEntry : PhoneEvent → Bool
  | .app .viewDidLoad | .elsewhere _ => true
  | _ => false

/-- The events of the client's phone that are the handset's. -/
def ClientPhone.isEntry : ClientPhoneEvent → Bool
  | .app (.signInReply _) | .app .pushDashboard => true
  | _ => false

namespace Handset

/-- The provider's side has moved on. -/
def putProvider (h : Handset) (p : ProviderPhone) : Handset :=
  { h with provider := p, client := h.client.share p }

/-- The client's side has moved on. -/
def putClient (h : Handset) (c : ClientPhone) : Handset :=
  { h with client := c, provider := h.provider.share c }

def device (h : Handset) : Device := h.provider.app.device

def setDefaults (h : Handset) (defaults : UserDefaults) : Handset :=
  h.putProvider { h.provider with app := h.provider.app.setDefaults defaults }

/-- The sign-in screens or the home screen are shown. -/
def isSignedOut (h : Handset) : Bool := h.provider.home.isNone && h.client.app.onMain

/-! ## 3. Entering a side -/

/-- `moveForwardToProviderDashboardViewController`: the dashboard loads, and asks for the profile. -/
def openProviderDashboard (h : Handset) : Except Trap Handset := do
  let b ← h.provider.app.viewDidLoad
  let _ ← b.device.userID .providerApp
  return { h.putProvider (h.provider.follow .viewDidLoad b) with
    profileCalls := h.profileCalls.issue () }

/-- `moveForwardToClientDashboardViewController` -/
def openClientDashboard (h : Handset) : Except Trap Handset := do
  let b ← { h.client.app with onMain := false }.pushDashboard
  return h.putClient (h.client.followDashboard b)

def openDashboard (h : Handset) : UserLoginType → Except Trap Handset
  | .clientApp => h.openClientDashboard
  | .providerApp => h.openProviderDashboard

/-- `setObjectInUserDefault` of a reply, if it is a success; then `andThen`. -/
def onSuccess (h : Handset) (reply : Dict) (andThen : Handset → Except Trap Handset) :
    Except Trap Handset := do
  let success ← forceInt reply "Success"
  if success = successCode then
    let defaults ← h.device.defaults.setObject .userProfileInfoDef reply
    andThen (h.setDefaults defaults)
  else return h

/-- `setBoolValueInUserDefaultForUserActiveInDevice`, and the dashboard. -/
def activate (h : Handset) (role : UserLoginType) : Except Trap Handset :=
  (h.setDefaults (h.device.defaults.setBool .iSUerActivated true)).openDashboard role

/-- Where a provider who is signed in goes on: to a form that is missing, or to the dashboard. -/
def continueProvider (h : Handset) (reply : Dict) : Except Trap Handset := do
  let kyc ← forceInt reply "IsProviderKYC"
  if kyc = 0 then return h
  else
    let kit ← forceInt reply "IsProviderProductKit"
    if kit = 0 then return h
    else
      let status ← forceInt reply "StatusCode"
      if status = 3 then h.activate .providerApp else return h

/-- The completion handler of `callingLoginWS`. -/
def callingLoginWS (h : Handset) (reply : Dict) : Except Trap Handset :=
  h.onSuccess reply fun h =>
    match h.device.defaults.loginType with
    | some .clientApp => h.activate .clientApp
    | some .providerApp => h.continueProvider reply
    | none => return h

/-- The completion handler of `verifyUserThroughWS`; a provider has forms to fill in first. -/
def verifyUserThroughWS (h : Handset) (reply : Dict) : Except Trap Handset :=
  h.onSuccess reply fun h =>
    match h.device.defaults.loginType with
    | some .clientApp => h.activate .clientApp
    | _ => return h

/-! ## 4. The home screen -/

/-- `viewDidLoad` of the home screen, for a user who was signed in: `checkClientTripExist` or
`checkProviderTripExist`. -/
def homeLoads (h : Handset) : Except Trap Handset :=
  match h.device.defaults.loginType with
  | some role => do
    let _ ← h.device.userID role
    return { h with homeCalls := h.homeCalls.issue role }
  | none => return h

/-- The completion handler of `checkTripExistStatus`, whatever the answer is: the home screen
presents the dashboard, if it is still there. -/
def checkTripExistStatus (h : Handset) (role : UserLoginType) : Except Trap Handset :=
  if h.isSignedOut then h.openDashboard role else return h

/-- The alert after a refused request: `goBackToMainViewController` of a client's screen, with the
flag as it was. -/
def refused (h : Handset) : Handset :=
  h.putClient (h.client.goBack { h.client.app with
    onMain := true
    wallets := h.client.app.wallets.map fun w => w.leave true })

/-! ## 5. The machine -/

/-- What each event does, and when it can happen. -/
def react (distance : CLLocation → CLLocation → ℚ) (h : Handset) :
    HandsetEvent → Option (Except Trap Handset)
  | .provider e =>
    if ProviderPhone.isEntry e then none
    else (ProviderPhone.react distance h.provider e).map fun r => r.map h.putProvider
  | .client e =>
    if ClientPhone.isEntry e then none
    else (ClientPhone.react distance h.client e).map fun r => r.map h.putClient
  | .clientProviderButtonAction role =>
    if h.isSignedOut ∧ h.device.defaults.isUserActivated = false then
      some (.ok (h.setDefaults (h.device.defaults.setValue .userLoginTypeInAppDef role.text)))
    else none
  | .profileStored reply => some (h.onSuccess reply pure)
  | .callingLoginWS reply => if h.isSignedOut then some (h.callingLoginWS reply) else none
  | .verifyUserThroughWS reply => if h.isSignedOut then some (h.verifyUserThroughWS reply) else none
  | .homeLoads =>
    if h.isSignedOut ∧ h.device.defaults.isUserActivated = true then some h.homeLoads else none
  | .checkTripExistStatus call =>
    (h.homeCalls.waiting call).map fun role =>
      { h with homeCalls := h.homeCalls.retire call }.checkTripExistStatus role
  | .providerProfile call reply =>
    (h.profileCalls.waiting call).map fun _ =>
      let h := { h with profileCalls := h.profileCalls.retire call }
      match reply with
      | some reply => h.onSuccess reply pure
      | none => .ok h
  | .refused => if h.client.app.onMain then none else some (.ok h.refused)

def machine (distance : CLLocation → CLLocation → ℚ) : Machine Handset HandsetEvent Trap where
  react := react distance

/-- The app as the process starts it, with whatever was stored before. -/
def launch (defaults : UserDefaults) : Handset where
  provider := { app := { device := { defaults := defaults, appDelegate := {} } } }
  client := { app := .launch { defaults := defaults, appDelegate := {} } true }

end Handset

end WeatherAccommodation
