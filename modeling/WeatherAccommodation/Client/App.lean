/-
# The client's app: sign-ins, dashboards, wallet, extra equipment

One device, used by any number of clients one after the other.  What a sign-in, a visit to
the wallet or an order of equipment leaves behind is in the globals of the device; a
dashboard is an object of its own, and new ones are made whenever the client's part of the
app is entered.  A dashboard that has been replaced stays alive as long as something may call
it back, so it still observes notifications and still gets its replies.  Which of the
dashboards is on top is not tracked: a press on any of them is possible at any time.

`react` combines the handlers of the screens.  A dashboard handles its events with the
globals and the sockets lent to it; the events that other screens stand for in
`Session.lean` (`selectedProducts`, `elsewhere`) are here the events of these screens.
-/
import WeatherAccommodation.Client.Equipment
import WeatherAccommodation.Client.Session
import WeatherAccommodation.Client.Wallet

namespace WeatherAccommodation

open Foundation Reactive

structure ClientApp where
  device : Device
  sockets : WebSocketManager ClientScreen := {}
  /-- Every dashboard made so far. -/
  sessions : List ClientSession := []
  /-- The sign-in screens are shown, not the client's part of the app. -/
  onMain : Bool := true
  /-- Every wallet screen made so far. -/
  wallets : List Wallet := []
  /-- `getClientProfileUserInformationAPI` -/
  profileCalls : Callbacks Unit := .empty
  /-- `getStripeCardList`, with the number of the calling wallet. -/
  cardCalls : Callbacks Nat := .empty
  /-- `deleteCardWithAPI`, with the number of the calling wallet and the row. -/
  deleteCalls : Callbacks (Nat × Nat) := .empty

inductive AppEvent where
  | session (i : Nat) (e : ClientEvent)
  | signInReply (reply : Dict)
  | logout
  | pushDashboard
  | profileReply (call : Nat) (reply : Option Dict)
  | nextPressed (productKitList : List ProductKit)
  | openWallet
  | uncoverWallet (wallet : Nat)
  | leaveWallet (wallet : Nat) (popped : Bool)
  | cardListReply (call : Nat) (reply : Option Dict)
  | selectRow (wallet row : Nat)
  | deleteRow (wallet row : Nat)
  | deleteReply (call : Nat) (success : Bool)
  | addCardFailed

namespace ClientApp

/-! ## 1. Dashboards -/

/-- A dashboard with the globals and sockets lent to it, and nothing over it. -/
def lend (a : ClientApp) (s : ClientSession) : ClientSession :=
  { s with device := a.device, sockets := a.sockets, isPresenting := false }

/-- A dashboard gives them back. -/
def store (a : ClientApp) (i : Nat) (s : ClientSession) : ClientApp :=
  { a with device := s.device, sockets := s.sockets, sessions := a.sessions.set i s }

/-- A fresh dashboard: its `viewDidLoad` reads the profile's id and asks for the profile. -/
def pushDashboard (a : ClientApp) : Except Trap ClientApp := do
  let _ ← a.device.userID .clientApp
  return { a with
    sessions := a.sessions ++ [{ device := a.device }]
    profileCalls := a.profileCalls.issue () }

/-- The completion handler of `getClientProfileUserInformationAPI`. -/
def profileReply (a : ClientApp) (reply : Option Dict) : Except Trap ClientApp :=
  match reply with
  | none => return a
  | some reply => do
    let success ← forceInt reply "Success"
    if success = successCode then
      let defaults ← a.device.defaults.setObject .userProfileInfoDef reply
      return { a with device := { a.device with defaults := defaults } }
    else return a

/-! ## 2. Signing in and out -/

/-- The `Success` branch of `callingLoginWS` for a client, and of `verifyUserThroughWS`: the
profile is stored, and no other key is touched. -/
def signInReply (a : ClientApp) (reply : Dict) : Except Trap ClientApp := do
  let success ← forceInt reply "Success"
  if success = successCode then
    let defaults ← a.device.defaults.setObject .userProfileInfoDef reply
    { a with
      device := { a.device with defaults := defaults.setBool .iSUerActivated true }
      onMain := false }.pushDashboard
  else return a

/-- The `YES` of the logout alert. -/
def logout (a : ClientApp) : ClientApp :=
  { a with
    device := { a.device with defaults := a.device.defaults.setBool .iSUerActivated false }
    onMain := true
    wallets := a.wallets.map fun w => w.leave true }

/-! ## 3. Extra equipment -/

/-- The notification reaches every dashboard. -/
def notifyProducts (products : List ProductKit) :
    List ClientSession → Except Trap (List ClientSession)
  | [] => .ok []
  | s :: sessions => do
    let dashboard ← s.dashboard.showSelectedProducts products
    let sessions ← notifyProducts products sessions
    return s.put dashboard :: sessions

def setExtraCharge (a : ClientApp) (charge : ℚ) : ClientApp :=
  { a with device :=
    { a.device with appDelegate := { a.device.appDelegate with extraCharge := charge } } }

/-- `btnNextPressed` with the notification it posts. -/
def nextPressed (a : ClientApp) (productKitList : List ProductKit) :
    Except Trap ClientApp := do
  let (charge, selected) ←
    ExtraEquipment.btnNextPressed productKitList a.device.appDelegate.extraCharge
  let a := a.setExtraCharge charge
  match selected with
  | none => return a
  | some products =>
    if products = [] then return a
    else
      let sessions ← notifyProducts products a.sessions
      return { a with sessions := sessions }

/-! ## 4. The wallet -/

def putWallet (a : ClientApp) (number : Nat) (w : Wallet) : ClientApp :=
  { a with wallets := a.wallets.set number w }

/-- A wallet comes on screen and asks for the list of cards. -/
def showWallet (a : ClientApp) (number : Nat) (w : Wallet) : Except Trap ClientApp := do
  let _ ← a.device.userID .clientApp
  return { a.putWallet number (w.viewWillAppear a.device.defaults) with
    cardCalls := a.cardCalls.issue number }

def openWallet (a : ClientApp) : Except Trap ClientApp :=
  { a with wallets := a.wallets ++ [Wallet.fresh] }.showWallet a.wallets.length Wallet.fresh

/-- A wallet goes off screen: it is covered, or popped from the navigation stack. -/
def leaveWallet (a : ClientApp) (number : Nat) (w : Wallet) (popped : Bool) : ClientApp :=
  { a.putWallet number (w.leave popped) with
    device := { a.device with defaults := w.viewWillDisappear a.device.defaults } }

/-- `deleteCardWithAPI` is called after the choice was adjusted. -/
def deleteRow (a : ClientApp) (number : Nat) (w : Wallet) (row : Nat) : Except Trap ClientApp := do
  let w ← w.commitDelete row
  let _ ← a.device.userID .clientApp
  return { a.putWallet number w with deleteCalls := a.deleteCalls.issue (number, row) }

/-- The wallet that asked gets the answer, also when it is off screen by now. -/
def answerWallet (a : ClientApp) (number : Nat) (f : Wallet → Except Trap Wallet) :
    Except Trap ClientApp :=
  match a.wallets[number]? with
  | some w => do
    let w ← f w
    return a.putWallet number w
  | none => return a

def addCardFailed (a : ClientApp) : ClientApp :=
  { a with device := { a.device with defaults := a.device.defaults.setInt .userCardCount 1 } }

/-! ## 5. The machine -/

/-- The app right after it was launched.  The charge starts at zero; what `UserDefaults`
holds, who signed in and what the trip check found are left over from before. -/
def launch (device : Device) (onMain : Bool) : ClientApp where
  device := { device with appDelegate := { device.appDelegate with extraCharge := 0 } }
  onMain := onMain

def walletShown (a : ClientApp) : Bool := a.wallets.any Wallet.onScreen

/-- A session event that a dashboard handles by itself. -/
def isOwnEvent : ClientEvent → Bool
  | .selectedProducts _ => false
  | .elsewhere _ _ => false
  | _ => true

/-- What each event does, and when it can happen. -/
def react (distance : CLLocation → CLLocation → ℚ) (a : ClientApp) :
    AppEvent → Option (Except Trap ClientApp)
  | .session i e =>
    if isOwnEvent e then
      a.sessions[i]?.bind fun s =>
        (ClientSession.react distance (a.lend s) e).map fun r => r.map (a.store i)
    else none
  | .signInReply reply => if a.onMain then some (a.signInReply reply) else none
  | .logout => if a.onMain then none else some (.ok a.logout)
  | .pushDashboard => if a.onMain then none else some a.pushDashboard
  | .profileReply call reply =>
    (a.profileCalls.waiting call).map fun _ =>
      { a with profileCalls := a.profileCalls.retire call }.profileReply reply
  | .nextPressed kits => if a.onMain then none else some (a.nextPressed kits)
  | .openWallet => if a.onMain ∨ a.walletShown then none else some a.openWallet
  | .uncoverWallet number =>
    a.wallets[number]?.bind fun w =>
      if w.onStack ∧ a.walletShown = false then some (a.showWallet number w) else none
  | .leaveWallet number popped =>
    a.wallets[number]?.bind fun w =>
      if w.onScreen then some (.ok (a.leaveWallet number w popped)) else none
  | .cardListReply call reply =>
    (a.cardCalls.waiting call).map fun number =>
      { a with cardCalls := a.cardCalls.retire call }.answerWallet number
        fun w => w.cardListReply reply
  | .selectRow number row =>
    a.wallets[number]?.bind fun w =>
      if w.onScreen then some (do return a.putWallet number (← w.didSelectRow row)) else none
  | .deleteRow number row =>
    a.wallets[number]?.bind fun w =>
      if w.onScreen then some (a.deleteRow number w row) else none
  | .deleteReply call success =>
    (a.deleteCalls.waiting call).map fun (number, row) =>
      { a with deleteCalls := a.deleteCalls.retire call }.answerWallet number
        fun w => w.deleteReply row success
  | .addCardFailed => if a.onMain then none else some (.ok a.addCardFailed)

def machine (distance : CLLocation → CLLocation → ℚ) : Machine ClientApp AppEvent Trap where
  react := react distance

end ClientApp

end WeatherAccommodation
