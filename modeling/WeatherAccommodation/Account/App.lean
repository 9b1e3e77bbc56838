/-
# Signing up, signing in, and forgetting the password

The screens of `Screens.lean` on one device.  Each presents the next one over itself, so what is
on screen is a stack; a screen that is not on top presents nothing, and only the top one has
buttons.  A screen that was left lives on in the completion handlers that captured it.

The id of the account and the verification id go from one screen to the next through the
defaults, under two keys that are written by different handlers: `userProfileInfoDef` by the
server's replies and `authVerificationID` by Firebase's.
-/
import WeatherAccommodation.Account.Screens

namespace WeatherAccommodation

open Foundation Reactive

structure AccountApp where
  defaults : UserDefaults
  /-- What is presented, topmost first; nothing over the home screen. -/
  stack : List AccountScreen := []
  entries : List EntryScreen := []
  otps : List VerifyOTP := []
  /-- How many change-password screens were made; they hold nothing. -/
  changes : Nat := 0
  /-- `doSignInWith`, `doSignUpWith` and `forgotPassword` -/
  submissions : Callbacks Submission := .empty
  phoneCalls : Callbacks PhoneCall := .empty
  /-- `asyncAfter` of forgot-password screens, by their numbers. -/
  transitions : Callbacks Nat := .empty
  checks : Callbacks CodeCheck := .empty
  /-- `verifyUser`, by the number of the code screen. -/
  verifyCalls : Callbacks Nat := .empty
  /-- `resetPassword`, by the number of the change-password screen. -/
  resetCalls : Callbacks Nat := .empty
  verifyRequests : List VerifyRequest := []
  resetRequests : List ResetRequest := []

/-- A reply is `none` when the call failed. -/
inductive AccountEvent where
  | clientProviderButtonAction (role : UserLoginType)
  | forgotPasswordButtonAction
  | doNotHaveAnAccountButtonAction
  | backButtonAction
  | goBackToMainViewController
  | edit (fields : EntryScreen.Fields)
  | submit
  | reply (call : Nat) (response : Option Dict)
  | verificationReply (call : Nat) (verificationID : Option String)
  | transition (call : Nat)
  | timerAction (j : Nat)
  | btnResendPressed
  | verifyButtonAction (verifyOTPTF : String)
  | signInReply (call : Nat) (success : Bool)
  | verifyReply (call : Nat) (response : Option Dict)
  | doneButtonAction (passwordTF : String)
  | resetReply (call : Nat) (response : Option Dict)

namespace AccountApp

/-! ## 1. Screens -/

/-- `present`, which does nothing on a screen that is not on top. -/
def present (a : AccountApp) (presenting : AccountScreen) (screen : AccountScreen) : AccountApp :=
  if a.stack.head? = some presenting then { a with stack := screen :: a.stack } else a

/-- The forms open empty. -/
def presentEntry (a : AccountApp) (presenting : AccountScreen) (kind : EntryKind) : AccountApp :=
  let s : EntryScreen := { kind := kind }
  { a with entries := a.entries ++ [s] }.present presenting (.entry a.entries.length)

/-- `openVerifyOTPNumberScreen` -/
def openVerifyOTPNumberScreen (a : AccountApp) (i : Nat) (iSForGotPassword : Bool) : AccountApp :=
  let s : VerifyOTP := { iSForGotPassword := iSForGotPassword }
  { a with otps := a.otps ++ [s] }.present (.entry i) (.verifyOTP a.otps.length)

def openChangedPasswordScreen (a : AccountApp) (j : Nat) : AccountApp :=
  { a with changes := a.changes + 1 }.present (.verifyOTP j) (.changePassword a.changes)

/-- The role is remembered, and the sign-in screen is presented over nothing. -/
def clientProviderButtonAction (a : AccountApp) (role : UserLoginType) : AccountApp :=
  { a with
    defaults := a.defaults.setValue .userLoginTypeInAppDef role.text
    entries := a.entries ++ [{ kind := .signIn }]
    stack := [.entry a.entries.length] }

def putEntry (a : AccountApp) (i : Nat) (s : EntryScreen) : AccountApp :=
  { a with entries := a.entries.set i s }

def putOTP (a : AccountApp) (j : Nat) (s : VerifyOTP) : AccountApp := { a with otps := a.otps.set j s }

/-! ## 2. Forms and their replies -/

/-- `sendButtonAction`, `signInButtonAction` and `signupButtonAction`: the number in the field is
sent to the API of the role that is stored. -/
def submit (a : AccountApp) (i : Nat) (s : EntryScreen) : AccountApp :=
  match s.isFilled, a.defaults.loginType with
  | true, some role =>
    { a with submissions := a.submissions.issue { screen := i, phone := s.phone, role := role } }
  | _, _ => a

def verifyPhonenumberWithFirebase (a : AccountApp) (caller : PhoneCaller) (phone : String) :
    AccountApp :=
  { a with phoneCalls := a.phoneCalls.issue { caller := caller, phone := phone } }

/-- `setObjectInUserDefault` of a reply. -/
def storeProfile (a : AccountApp) (response : Dict) : Except Trap AccountApp := do
  let defaults ← a.defaults.setObject .userProfileInfoDef response
  return { a with defaults := defaults }

/-- The profile is stored, and whatever number is in the field by now is verified. -/
def storeAndVerify (a : AccountApp) (i : Nat) (s : EntryScreen) (response : Dict) :
    Except Trap AccountApp := do
  let success ← forceInt response "Success"
  if success = successCode then
    let a ← a.storeProfile response
    return a.verifyPhonenumberWithFirebase (.entry i) s.phone
  else return a

/-- The completion handler of `callingRegisterWS`. -/
def callingRegisterWS (a : AccountApp) (i : Nat) (s : EntryScreen) (response : Dict) :
    Except Trap AccountApp := a.storeAndVerify i s response

/-- The completion handler of `callingForgotPasswordWS`. -/
def callingForgotPasswordWS (a : AccountApp) (i : Nat) (s : EntryScreen) (response : Dict) :
    Except Trap AccountApp := a.storeAndVerify i s response

/-- `setBoolValueInUserDefaultForUserActiveInDevice`, and the dashboard over `presenting`. -/
def activate (a : AccountApp) (presenting : AccountScreen) : AccountApp :=
  { a with defaults := a.defaults.setBool .iSUerActivated true }.present presenting .dashboard

/-- Where a provider who is signed in goes on. -/
def continueProvider (a : AccountApp) (i : Nat) (response : Dict) : Except Trap AccountApp := do
  let kyc ← forceInt response "IsProviderKYC"
  if kyc = 0 then return a.present (.entry i) .providerIdentity
  else
    let kit ← forceInt response "IsProviderProductKit"
    if kit = 0 then return a.present (.entry i) .providerProductKit
    else
      let status ← forceInt response "StatusCode"
      if status = 3 then return a.activate (.entry i) else return a

/-- The completion handler of `callingLoginWS`.  A user who is not verified yet goes to the code
screen; the reply, with the id of the account in it, is not stored. -/
def callingLoginWS (a : AccountApp) (i : Nat) (s : EntryScreen) (response : Dict) :
    Except Trap AccountApp := do
  let success ← forceInt response "Success"
  if success = successCode then
    let a ← a.storeProfile response
    match a.defaults.loginType with
    | some .clientApp => return a.activate (.entry i)
    | some .providerApp => a.continueProvider i response
    | none => return a
  else if success = notVerifiedCode then
    return a.verifyPhonenumberWithFirebase (.entry i) s.phone
  else return a

/-- The completion handler of the form's call. -/
def reply (a : AccountApp) (i : Nat) (s : EntryScreen) (response : Option Dict) :
    Except Trap AccountApp :=
  match response with
  | none => return a
  | some response =>
    match s.kind with
    | .signIn => a.callingLoginWS i s response
    | .signUp => a.callingRegisterWS i s response
    | .forgotPassword => a.callingForgotPasswordWS i s response

/-! ## 3. Codes -/

def setVerificationID (a : AccountApp) (verificationID : String) : AccountApp :=
  { a with defaults := a.defaults.setValue .authVerificationID verificationID }

/-- The callback of a form's `verifyPhonenumberWithFirebase`: forgot-password waits for a second
before it presents the code screen. -/
def formVerified (a : AccountApp) (i : Nat) (s : EntryScreen) (verificationID : Option String) :
    AccountApp :=
  match verificationID with
  | none => a
  | some verificationID =>
    let a := a.setVerificationID verificationID
    match s.kind with
    | .forgotPassword => { a with transitions := a.transitions.issue i }
    | _ => a.openVerifyOTPNumberScreen i false

/-- The callback of `btnResendPressed`; after an error it goes on, and stores the empty text. -/
def resent (a : AccountApp) (j : Nat) (s : VerifyOTP) (verificationID : Option String) :
    AccountApp :=
  (a.setVerificationID (verificationID.getD "")).putOTP j { s with resendIsEnabled := false }

def btnResendPressed (a : AccountApp) (j : Nat) : Except Trap AccountApp := do
  let getUserInfo ← a.defaults.getObject .userProfileInfoDef
  let phone ← forceString getUserInfo "MobileNumber"
  return a.verifyPhonenumberWithFirebase (.resend j) phone

/-- `verifyButtonAction`, up to `signIn`. -/
def verifyButtonAction (a : AccountApp) (j : Nat) (verifyOTPTF : String) : Except Trap AccountApp :=
  if Unicode.count verifyOTPTF.toList ≤ 5 then return a
  else do
    let getUserInfo ← a.defaults.getObject .userProfileInfoDef
    return { a with checks := a.checks.issue {
      screen := j
      verificationID := a.defaults.getValue .authVerificationID
      verificationCode := verifyOTPTF
      getUserInfo := getUserInfo } }

/-- `verifyUserThroughWS`, up to the call. -/
def verifyUserThroughWS (a : AccountApp) (j : Nat) (request : VerifyRequest) : AccountApp :=
  { a with
    verifyRequests := a.verifyRequests ++ [request]
    verifyCalls := a.verifyCalls.issue j }

/-- The completion handler of `signIn(with: credential)`. -/
def signInReply (a : AccountApp) (s : VerifyOTP) (check : CodeCheck) (success : Bool) :
    Except Trap AccountApp :=
  if success then
    if s.iSForGotPassword then return a.openChangedPasswordScreen check.screen
    else
      match a.defaults.loginType with
      | some role => do
        let userID ← forceInt check.getUserInfo role.idKey
        return a.verifyUserThroughWS check.screen { role := role, id := userID }
      | none => return a
  else return a

/-- The completion handler of `verifyUserThroughWS`. -/
def verifyReply (a : AccountApp) (j : Nat) (response : Option Dict) : Except Trap AccountApp :=
  match response with
  | none => return a
  | some response => do
    let success ← forceInt response "Success"
    if success = successCode then
      let a ← a.storeProfile response
      match a.defaults.loginType with
      | some .clientApp => return a.activate (.verifyOTP j)
      | some .providerApp => return a.present (.verifyOTP j) .providerIdentity
      | none => return a
    else return a

/-! ## 4. The new password -/

/-- `doneButtonAction`, with the call. -/
def doneButtonAction (a : AccountApp) (k : Nat) (passwordTF : String) : Except Trap AccountApp :=
  if RDGlobalFunction.checkPasswordHasSufficientComplexity passwordTF then do
    let getUserInfo ← a.defaults.getObject .userProfileInfoDef
    match a.defaults.loginType with
    | some role => do
      let userID ← forceInt getUserInfo role.idKey
      return { a with
        resetRequests := a.resetRequests ++
          [{ screen := k, role := role, id := userID, password := passwordTF }]
        resetCalls := a.resetCalls.issue k }
    | none => return a
  else return a

/-- The completion handler of `resetPasswordThroughWS`, with its delayed transition. -/
def resetReply (a : AccountApp) (k : Nat) (response : Option Dict) : Except Trap AccountApp :=
  match response with
  | none => return a
  | some response => do
    let success ← forceInt response "Success"
    if success = successCode then return a.presentEntry (.changePassword k) .signIn else return a

/-! ## 5. The machine -/

def react (a : AccountApp) : AccountEvent → Option (Except Trap AccountApp)
  | .clientProviderButtonAction role =>
    if a.stack = [] then some (.ok (a.clientProviderButtonAction role)) else none
  | .forgotPasswordButtonAction =>
    match a.stack with
    | .entry i :: _ => some (.ok (a.presentEntry (.entry i) .forgotPassword))
    | _ => none
  | .doNotHaveAnAccountButtonAction =>
    match a.stack with
    | .entry i :: _ => some (.ok (a.presentEntry (.entry i) .signUp))
    | _ => none
  | .backButtonAction => some (.ok { a with stack := a.stack.tail })
  | .goBackToMainViewController => some (.ok { a with stack := [] })
  | .edit fields =>
    match a.stack with
    | .entry i :: _ => a.entries[i]?.map fun s => .ok (a.putEntry i (s.edit fields))
    | _ => none
  | .submit =>
    match a.stack with
    | .entry i :: _ => a.entries[i]?.map fun s => .ok (a.submit i s)
    | _ => none
  | .reply call response =>
    (a.submissions.waiting call).bind fun submission =>
      a.entries[submission.screen]?.map fun s =>
        { a with submissions := a.submissions.retire call }.reply submission.screen s response
  | .verificationReply call verificationID =>
    (a.phoneCalls.waiting call).bind fun phoneCall =>
      let a := { a with phoneCalls := a.phoneCalls.retire call }
      match phoneCall.caller with
      | .entry i => a.entries[i]?.map fun s => .ok (a.formVerified i s verificationID)
      | .resend j => a.otps[j]?.map fun s => .ok (a.resent j s verificationID)
  | .transition call =>
    (a.transitions.waiting call).map fun i =>
      .ok ({ a with transitions := a.transitions.retire call }.openVerifyOTPNumberScreen i true)
  | .timerAction j => a.otps[j]?.map fun s => .ok (a.putOTP j { s with resendIsEnabled := true })
  | .btnResendPressed =>
    match a.stack with
    | .verifyOTP j :: _ =>
      a.otps[j]?.bind fun s => if s.resendIsEnabled then some (a.btnResendPressed j) else none
    | _ => none
  | .verifyButtonAction verifyOTPTF =>
    match a.stack with
    | .verifyOTP j :: _ => some (a.verifyButtonAction j verifyOTPTF)
    | _ => none
  | .signInReply call success =>
    (a.checks.waiting call).bind fun check =>
      a.otps[check.screen]?.map fun s =>
        { a with checks := a.checks.retire call }.signInReply s check success
  | .verifyReply call response =>
    (a.verifyCalls.waiting call).map fun j =>
      { a with verifyCalls := a.verifyCalls.retire call }.verifyReply j response
  | .doneButtonAction passwordTF =>
    match a.stack with
    | .changePassword k :: _ => some (a.doneButtonAction k passwordTF)
    | _ => none
  | .resetReply call response =>
    (a.resetCalls.waiting call).map fun k =>
      { a with resetCalls := a.resetCalls.retire call }.resetReply k response

def machine : Machine AccountApp AccountEvent Trap where
  react := react

end AccountApp

end WeatherAccommodation
