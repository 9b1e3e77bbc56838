/-
# One activity view over the whole app

`UtilityClass.swift` has a single view that covers the window while a request is under way.  It is
shown and hidden by hand and counts nothing: whoever hides it hides it for every request that still
waits.  Three places hide it.  The check of the connection does when there is none, the method all
requests go through does after a failure, and after a success it is up to the completion handler of
the caller.

`Window` is the view, the calls that wait and the little the handlers look at to decide what to do
with it.  What they do besides, to labels and defaults and to what is on screen, is in the modules
of the screens.  Two screens show the view for other services, and are not here: the weather and the
places nearby.

A profile is edited on a screen over the profile it is about, which is fetched anew whenever it
comes into sight again.
-/
import WeatherAccommodation.Client.Dashboard
import WeatherAccommodation.ClientProviderAPIManager
import WeatherAccommodation.Library.Callbacks

namespace WeatherAccommodation

open Foundation Reactive

/-! ## 1. What waits -/

/-- `ExtraEquipmentViewController` and `ProviderProductKitViewController` -/
inductive KitScreen where
  | extraEquipment
  | providerProductKit
  deriving DecidableEq, Repr

/-- The methods of the screens that show the view and then call an API through `getResponse`. -/
inductive Operation where
  | callingForgotPasswordWS
  | verifyOTPThroughWS
  | verifyUserThroughWS
  | callingRegisterWS
  | callingLoginWS
  | resetPasswordThroughWS
  | getClientProfileUserInformationAPI
  | getOnlineProviderList
  | cancelRequestThroughWS
  | btnPayTipPressed
  | uploadSelfie
  | getClientDetails
  | deleteCardWithAPI
  | btnActionPressed (isTripStarted : Bool)
  /-- Of `ClientTripViewController` and of `StartTripViewController`. -/
  | submitReview (role : UserLoginType)
  | submitSupport
  | uploadImages
  | getProviderProfileUserInformationAPI
  | getProviderDetails
  | getProviderEarning
  | requestImmediatePayment
  | getKit (screen : KitScreen)
  | getKitSize (screen : KitScreen)
  | uploadKitSize
  deriving DecidableEq, Repr

/-- What `getResponse` is called for.  The last four are reached by other ways: from a button that
checks first, and from the handlers of other calls. -/
inductive Request where
  | of (operation : Operation)
  | postRequest
  | addStripeCard
  | updateProfileDetails (editor : Nat)
  | updateProfileImage (editor : Nat)
  deriving DecidableEq, Repr

/-- The calls that are answered later, Stripe's and Firebase's among them. -/
inductive Call where
  | request (request : Request)
  | createToken
  | verifyPhonenumberWithFirebase
  deriving DecidableEq, Repr

/-- `EditClientProfileViewController` or `EditProviderProfileViewController` -/
structure ProfileEditor where
  role : UserLoginType
  /-- It is on the navigation stack of its window, over the profile. -/
  isOnStack : Bool := true
  hasChangedDetail : Bool := false
  hasChangedProfile : Bool := false
  deriving DecidableEq, Repr

structure Window where
  activityViewIsHidden : Bool := true
  /-- `reachability.connection` -/
  isConnected : Bool
  userLoginTypeInAppDef : Option UserLoginType := none
  /-- Every editor made so far. -/
  editors : List ProfileEditor := []
  calls : Callbacks Call := .empty

inductive WindowEvent where
  | connection (isConnected : Bool)
  | clientProviderButtonAction (role : UserLoginType)
  | start (operation : Operation)
  | sendRequest (dashboard : ClientDashboard) (device : Device)
  /-- Of the screen that adds a card. -/
  | btnDonePressed
  | btnEditPressed (role : UserLoginType)
  | textFieldDidBeginEditing (editor : Nat)
  | didFinishPickingMedia (editor : Nat)
  | btnSubmitPressed (editor : Nat)
  | btnBackPressed (editor : Nat)
  | goBackToMainViewController
  | reply (call : Nat) (outcome : ClientProviderAPIManager.Outcome)
  /-- An alert of the navigation bar, or the failure of a request made without the view. -/
  | alert

namespace Window

/-! ## 2. The view -/

def showActivityIndicator (w : Window) : Window := { w with activityViewIsHidden := false }

def removeActivityIndicator (w : Window) : Window := { w with activityViewIsHidden := true }

/-- The alert hides the view before anything else. -/
def showAlertOnNavigationBarWith (w : Window) : Window := w.removeActivityIndicator

/-! ## 3. Calls -/

/-- A call is made and its answer awaited. -/
def await (w : Window) (call : Call) : Window := { w with calls := w.calls.issue call }

/-- `getResponse`, with `isInternetConnectedWith` in it: every caller wants the alert. -/
def getResponse (w : Window) (request : Request) : Window :=
  if w.isConnected then w.await (.request request)
  else w.showAlertOnNavigationBarWith.removeActivityIndicator

def start (w : Window) (operation : Operation) : Window :=
  w.showActivityIndicator.getResponse (.of operation)

def postRequest (w : Window) : Window := w.showActivityIndicator.getResponse .postRequest

/-- Two of the five ways out show an alert, two others push a screen. -/
def sendRequest (w : Window) (dashboard : ClientDashboard) (device : Device) : Window :=
  match dashboard.sendRequest device with
  | .addCard | .wallet => w
  | .noOnlineProviders | .locationUnavailable => w.showAlertOnNavigationBarWith
  | .post => w.postRequest

/-- Stripe is asked for a token without a look at the connection. -/
def btnDonePressed (w : Window) : Window := w.showActivityIndicator.await .createToken

def verifyPhonenumberWithFirebase (w : Window) : Window := w.await .verifyPhonenumberWithFirebase

/-! ## 4. The editors of a profile -/

/-- `viewWillAppear` of the profile under an editor. -/
def viewWillAppear (w : Window) : UserLoginType → Window
  | .clientApp => w.start .getClientDetails
  | .providerApp => w.start .getProviderDetails

def putEditor (w : Window) (k : Nat) (editor : ProfileEditor) : Window :=
  { w with editors := w.editors.set k editor }

/-- `self.navigationController?.popViewController`, which does nothing on a screen that is on no
stack any more. -/
def popViewController (w : Window) (k : Nat) : Window :=
  match w.editors[k]? with
  | some editor =>
    if editor.isOnStack then
      (w.putEditor k { editor with isOnStack := false }).viewWillAppear editor.role
    else w
  | none => w

def updateProfileDetails (w : Window) (k : Nat) : Window :=
  w.showActivityIndicator.getResponse (.updateProfileDetails k)

/-- The view is left as it is. -/
def updateProfileImage (w : Window) (k : Nat) : Window := w.getResponse (.updateProfileImage k)

/-- `btnSubmitPressed`, once the name and the address have passed. -/
def btnSubmitPressed (w : Window) (k : Nat) (editor : ProfileEditor) : Window :=
  if editor.hasChangedDetail then w.updateProfileDetails k
  else if editor.hasChangedProfile then w.showActivityIndicator.updateProfileImage k
  else w

/-- The root of the window is replaced, and no editor is on a stack in it. -/
def goBackToMainViewController (w : Window) : Window :=
  { w with editors := w.editors.map fun editor => { editor with isOnStack := false } }

/-! ## 5. Completion handlers, by their shapes

A handler gets the reply, or `none` after a failure. -/

/-- `if success { if Success == SUCCESSCODE { … } else { … }; removeActivityIndicator() }` -/
def removeAfterSuccessCode (accepted refused : Dict → Window → Except Trap Window) (w : Window) :
    Option Json → Except Trap Window
  | none => return w
  | some response => do
    let dict ← unwrap .notAnObject response.asDict?
    let success ← forceInt dict "Success"
    let w ← (if success = successCode then accepted dict w else refused dict w)
    return w.removeActivityIndicator

/-- `if success { …; removeActivityIndicator(); … }` -/
def removeOnSuccess (read : Json → Except Trap Unit) (w : Window) :
    Option Json → Except Trap Window
  | none => return w
  | some response => do
    read response
    return w.removeActivityIndicator

/-- `if success { … }; removeActivityIndicator()` -/
def removeAtEnd (read : Json → Except Trap Unit) (w : Window) : Option Json → Except Trap Window
  | none => return w.removeActivityIndicator
  | some response => do
    read response
    return w.removeActivityIndicator

/-- `removeActivityIndicator(); if success { … }` -/
def removeFirst (accepted : Window → Window) (w : Window) : Option Json → Except Trap Window
  | none => return w.removeActivityIndicator
  | some _ => return accepted w.removeActivityIndicator

/-- The branches that show an alert, and those that do not touch the view. -/
def alerted (_ : Dict) (w : Window) : Except Trap Window := return w.showAlertOnNavigationBarWith

def untouched (_ : Dict) (w : Window) : Except Trap Window := return w

/-- Nothing is read that could trap. -/
def unread (_ : Json) : Except Trap Unit := return ()

/-- `responseObject as! [String : Any]` -/
def readDict (response : Json) : Except Trap Unit := do
  let _ ← unwrap (.badCast "response") response.asDict?

/-- `for item in (responseObject as! NSArray) { … item as! [String:AnyObject] … }` -/
def readItems (response : Json) : Except Trap Unit := do
  let items ← unwrap (.badCast "response") response.asArray?
  items.forM readDict

/-! ## 6. Completion handlers, one by one -/

/-- An alert, and the number is verified. -/
def alertAndVerify (_ : Dict) (w : Window) : Except Trap Window :=
  return w.showAlertOnNavigationBarWith.verifyPhonenumberWithFirebase

def callingForgotPasswordWS : Window → Option Json → Except Trap Window :=
  removeAfterSuccessCode alertAndVerify alerted

def callingRegisterWS : Window → Option Json → Except Trap Window :=
  removeAfterSuccessCode alertAndVerify alerted

/-- The code was right, or an alert says that it was not. -/
def checkIsVerified (dict : Dict) (w : Window) : Except Trap Window := do
  let isVerified ← forceInt dict "IsVerified"
  if isVerified = successCode then untouched dict w else alerted dict w

def verifyOTPThroughWS : Window → Option Json → Except Trap Window :=
  removeAfterSuccessCode checkIsVerified alerted

def verifyUserThroughWS : Window → Option Json → Except Trap Window :=
  removeAfterSuccessCode untouched alerted

/-- A provider with both steps behind it is told when the account is pending. -/
def continueSignIn (dict : Dict) (w : Window) : Except Trap Window :=
  match w.userLoginTypeInAppDef with
  | some .providerApp => do
    let kyc ← forceInt dict "IsProviderKYC"
    if kyc = 0 then untouched dict w
    else
      let kit ← forceInt dict "IsProviderProductKit"
      if kit = 0 then untouched dict w
      else
        let status ← forceInt dict "StatusCode"
        if status = 5 then alerted dict w else untouched dict w
  | _ => untouched dict w

/-- Who is not verified yet gets a new code. -/
def verifyOrAlert (dict : Dict) (w : Window) : Except Trap Window := do
  let success ← forceInt dict "Success"
  if success = notVerifiedCode then return w.verifyPhonenumberWithFirebase else alerted dict w

def callingLoginWS : Window → Option Json → Except Trap Window :=
  removeAfterSuccessCode continueSignIn verifyOrAlert

def resetPasswordThroughWS : Window → Option Json → Except Trap Window :=
  removeAfterSuccessCode alerted alerted

def uploadImages : Window → Option Json → Except Trap Window :=
  removeAfterSuccessCode untouched alerted

def getClientProfileUserInformationAPI : Window → Option Json → Except Trap Window :=
  removeAfterSuccessCode untouched untouched

def getProviderProfileUserInformationAPI : Window → Option Json → Except Trap Window :=
  removeAfterSuccessCode untouched untouched

/-- The list, and in it every provider with its coordinates. -/
def readOnlineProviderList (response : Json) : Except Trap Unit := do
  let list ← unwrap (.badCast "OnlineProviderList")
    (response.asDict?.bind fun dict => Dict.array? dict "OnlineProviderList")
  list.forM fun item => do
    let dict ← unwrap (.badCast "OnlineProviderList") item.asDict?
    let provider := Provider.ofDict dict
    let _ ← forceLocation provider.latitude provider.longitude

def getOnlineProviderList : Window → Option Json → Except Trap Window :=
  removeAtEnd readOnlineProviderList

def postRequestReply : Window → Option Json → Except Trap Window := removeAtEnd unread

def cancelRequestThroughWS : Window → Option Json → Except Trap Window := removeAtEnd unread

def btnPayTipPressed : Window → Option Json → Except Trap Window :=
  removeFirst showAlertOnNavigationBarWith

def submitReview : Window → Option Json → Except Trap Window :=
  removeFirst showAlertOnNavigationBarWith

def submitSupport : Window → Option Json → Except Trap Window :=
  removeFirst showAlertOnNavigationBarWith

def btnActionPressed : Window → Option Json → Except Trap Window := removeFirst id

def uploadSelfie : Window → Option Json → Except Trap Window := removeOnSuccess unread

def getClientDetails : Window → Option Json → Except Trap Window := removeOnSuccess readDict

def getProviderDetails : Window → Option Json → Except Trap Window := removeOnSuccess readDict

def deleteCardWithAPI : Window → Option Json → Except Trap Window := removeOnSuccess unread

def addStripeCard : Window → Option Json → Except Trap Window := removeOnSuccess unread

def getProviderEarning : Window → Option Json → Except Trap Window := removeOnSuccess unread

def getKitSize : Window → Option Json → Except Trap Window := removeOnSuccess readItems

def requestImmediatePayment (w : Window) : Option Json → Except Trap Window
  | none => return w
  | some _ => return w.showAlertOnNavigationBarWith

/-- The sizes are fetched next, and the view is shown a second time. -/
def getKit (screen : KitScreen) (w : Window) : Option Json → Except Trap Window
  | none => return w
  | some response => do
    readItems response
    return w.start (.getKitSize screen)

/-- The sign-in screen is presented, and the view stays. -/
def uploadKitSize (w : Window) : Option Json → Except Trap Window
  | none => return w
  | some response => do
    let dict ← unwrap .notAnObject response.asDict?
    let success ← forceInt dict "Success"
    if success = successCode then untouched dict w else alerted dict w

/-- The handler of either editor: a new picture is sent right away. -/
def profileDetailsReply (k : Nat) (w : Window) : Option Json → Except Trap Window
  | none => return w
  | some _ =>
    if (w.editors[k]?.map ProfileEditor.hasChangedProfile).getD false then
      return w.updateProfileImage k
    else return w.removeActivityIndicator.popViewController k

/-- The client's editor leaves the view to the profile it goes back to; the provider's hides it
whatever the reply. -/
def profileImageReply (k : Nat) (w : Window) (response : Option Json) : Except Trap Window :=
  if w.editors[k]?.map ProfileEditor.role = some .providerApp then
    removeFirst (fun w => w.popViewController k) w response
  else
    match response with
    | none => return w
    | some _ => return w.popViewController k

/-! ## 7. Answers -/

/-- The completion handler of each request. -/
def completion (w : Window) : Request → Option Json → Except Trap Window
  | .of .callingForgotPasswordWS => w.callingForgotPasswordWS
  | .of .verifyOTPThroughWS => w.verifyOTPThroughWS
  | .of .verifyUserThroughWS => w.verifyUserThroughWS
  | .of .callingRegisterWS => w.callingRegisterWS
  | .of .callingLoginWS => w.callingLoginWS
  | .of .resetPasswordThroughWS => w.resetPasswordThroughWS
  | .of .getClientProfileUserInformationAPI => w.getClientProfileUserInformationAPI
  | .of .getOnlineProviderList => w.getOnlineProviderList
  | .of .cancelRequestThroughWS => w.cancelRequestThroughWS
  | .of .btnPayTipPressed => w.btnPayTipPressed
  | .of .uploadSelfie => w.uploadSelfie
  | .of .getClientDetails => w.getClientDetails
  | .of .deleteCardWithAPI => w.deleteCardWithAPI
  | .of (.btnActionPressed _) => w.btnActionPressed
  | .of (.submitReview _) => w.submitReview
  | .of .submitSupport => w.submitSupport
  | .of .uploadImages => w.uploadImages
  | .of .getProviderProfileUserInformationAPI => w.getProviderProfileUserInformationAPI
  | .of .getProviderDetails => w.getProviderDetails
  | .of .getProviderEarning => w.getProviderEarning
  | .of .requestImmediatePayment => w.requestImmediatePayment
  | .of (.getKit screen) => w.getKit screen
  | .of (.getKitSize _) => w.getKitSize
  | .of .uploadKitSize => w.uploadKitSize
  | .postRequest => w.postRequestReply
  | .addStripeCard => w.addStripeCard
  | .updateProfileDetails k => w.profileDetailsReply k
  | .updateProfileImage k => w.profileImageReply k

/-- What `getResponse` does with the answer: after a failure the handler comes first, and the view
is hidden after it.  A success that is neither an object nor an array does not survive the cast. -/
def responseJSON (w : Window) (request : Request) :
    ClientProviderAPIManager.Outcome → Option (Except Trap Window)
  | .offline => none
  | .failure _ => some do
    let w ← w.completion request none
    return w.removeActivityIndicator
  | .success (.obj dict) => some (w.completion request (some (.obj dict)))
  | .success (.arr items) => some (w.completion request (some (.arr items)))
  | .success _ => some (.error (.badCast "response"))

/-- Stripe's and Firebase's answers have an error or what was asked for. -/
def answered (w : Window) : Call → ClientProviderAPIManager.Outcome → Option (Except Trap Window)
  | .request request, outcome => w.responseJSON request outcome
  | _, .offline => none
  | .createToken, .failure _ => some (.ok w.removeActivityIndicator)
  | .createToken, .success _ => some (.ok (w.getResponse .addStripeCard))
  | .verifyPhonenumberWithFirebase, .failure _ => some (.ok w.showAlertOnNavigationBarWith)
  | .verifyPhonenumberWithFirebase, .success _ => some (.ok w)

/-! ## 8. The machine -/

/-- The view covers the window: what the user taps arrives only while it is hidden. -/
def tapped (w v : Window) : Option (Except Trap Window) :=
  if w.activityViewIsHidden then some (.ok v) else none

/-- What each event does, and when it can happen.  An operation may start at any time: some are
started by a screen that comes up or by a location. -/
def react (w : Window) : WindowEvent → Option (Except Trap Window)
  | .connection isConnected => some (.ok { w with isConnected := isConnected })
  | .clientProviderButtonAction role => w.tapped { w with userLoginTypeInAppDef := some role }
  | .start operation => some (.ok (w.start operation))
  | .sendRequest dashboard device => w.tapped (w.sendRequest dashboard device)
  | .btnDonePressed => w.tapped w.btnDonePressed
  | .btnEditPressed role => w.tapped { w with editors := w.editors ++ [{ role := role }] }
  | .textFieldDidBeginEditing k =>
    w.editors[k]?.bind fun editor =>
      w.tapped (w.putEditor k { editor with hasChangedDetail := true })
  | .didFinishPickingMedia k =>
    w.editors[k]?.bind fun editor =>
      w.tapped (w.putEditor k { editor with hasChangedProfile := true })
  | .btnSubmitPressed k =>
    w.editors[k]?.bind fun editor =>
      if editor.isOnStack then w.tapped (w.btnSubmitPressed k editor) else none
  | .btnBackPressed k => w.tapped (w.popViewController k)
  | .goBackToMainViewController => w.tapped w.goBackToMainViewController
  | .reply i outcome =>
    (w.calls.waiting i).bind fun call => { w with calls := w.calls.retire i }.answered call outcome
  | .alert => some (.ok w.showAlertOnNavigationBarWith)

def machine : Machine Window WindowEvent Trap where
  react := react

/-- The app as it starts: the view was not made yet. -/
def launch (isConnected : Bool) : Window := { isConnected := isConnected }

end Window

end WeatherAccommodation
