/-
# The screens before the dashboards

Sign-in, sign-up and forgot-password ask for a phone number and something else; each hands the
number to Firebase, stores the verification id Firebase returns in the defaults, and opens the
screen for the one-time code.  The code screen leads to the change-password screen or to a
dashboard.  None of them is handed anything but a flag: who the user is and which verification is
on its way is read from the defaults.

This module has the forms and their checks, from `RDGlobalFunction.swift` and the three screens,
and the records of what is in flight.
-/
import WeatherAccommodation.Globals
import WeatherAccommodation.Library.Callbacks
import WeatherAccommodation.Library.Characters

namespace WeatherAccommodation

open Foundation Reactive

/-! ## 1. Checks -/

namespace RDGlobalFunction

/-- `text.trimmingCharacters(in: .whitespacesAndNewlines)` -/
def trimmed (text : String) : List Char :=
  trimmingCharacters CharacterSet.whitespacesAndNewlines text.toList

def checkPasswordHasSufficientComplexity (text : String) : Bool :=
  !decide (Unicode.count (trimmed text) ≤ 7)

/-- `n` digits, and what follows them. -/
def dropDigits? (n : Nat) (cs : List Char) : Option (List Char) :=
  if (cs.take n).length = n ∧ (cs.take n).all Char.isDigit then some (cs.drop n) else none

/-- At most one of the given characters, and what follows. -/
def dropOptional (options : List Char) : List Char → List Char
  | [] => []
  | c :: cs => if c ∈ options then cs else c :: cs

/-- `^\(?([0-9]{3})\)?[-.]?([0-9]{3})[-.]?([0-9]{4})$` -/
def iSValidContactNumber (number : String) : Bool :=
  match dropDigits? 3 (dropOptional ['('] number.toList) with
  | none => false
  | some rest =>
    match dropDigits? 3 (dropOptional ['-', '.'] (dropOptional [')'] rest)) with
    | none => false
    | some rest => dropDigits? 4 (dropOptional ['-', '.'] rest) == some []

/-- `[A-Z0-9a-z._%+-]` -/
def isLocalChar (c : Char) : Bool := c.isAlphanum || c ∈ ['.', '_', '%', '+', '-']

/-- `[A-Za-z0-9.-]` -/
def isDomainChar (c : Char) : Bool := c.isAlphanum || c ∈ ['.', '-']

/-- `[A-Z0-9a-z._%+-]+@[A-Za-z0-9.-]+\.[A-Za-z]{2,4}`; the last point is the one before the top
level. -/
def isValidEmail (email : String) : Bool :=
  let name := email.toList.takeWhile (· != '@')
  let domain := (email.toList.dropWhile (· != '@')).drop 1
  let top := (domain.reverse.takeWhile (· != '.')).reverse
  let host := (domain.reverse.dropWhile (· != '.')).drop 1
  name ≠ [] && name.all isLocalChar && host ≠ [] && host.all isDomainChar &&
    top.all Char.isAlpha && 2 ≤ top.length && top.length ≤ 4

example : iSValidContactNumber "(555)123-4567" = true ∧ isValidEmail "a.b@c.example.com" = true := by
  decide +kernel

end RDGlobalFunction

/-- The text that `userLoginTypeInAppDef` holds. -/
def UserLoginType.text : UserLoginType → String
  | .clientApp => "Client App"
  | .providerApp => "Provider App"

/-- `getValueFromUserDefault(userLoginTypeInAppDef) == …`, for one kind and then the other. -/
def UserDefaults.loginType (u : UserDefaults) : Option UserLoginType :=
  if u.getValue .userLoginTypeInAppDef = UserLoginType.clientApp.text then some .clientApp
  else if u.getValue .userLoginTypeInAppDef = UserLoginType.providerApp.text then some .providerApp
  else none

/-! ## 2. The forms -/

inductive EntryKind where
  | signIn
  | signUp
  | forgotPassword
  deriving DecidableEq, Repr

/-- `ClientSignInViewController`, `ClientSignUpViewController` or
`ForgotpasswordViewController`, with the fields they have between them.  The mobile number is in
`emailTF`, `mobileTF` and `emailMobileTF`, respectively. -/
structure EntryScreen where
  kind : EntryKind
  countryTF : String := "+1"
  mobileTF : String := ""
  passwordTF : String := ""
  fullNameTF : String := ""
  emailTF : String := ""
  deriving Repr

namespace EntryScreen

/-- `"\(self.countryTF.text!)\(self.mobileTF.text!)"` -/
def phone (s : EntryScreen) : String := s.countryTF ++ s.mobileTF

/-- A mobile number, or an address where one is asked for. -/
def hasContact (s : EntryScreen) : Bool :=
  RDGlobalFunction.isValidEmail s.mobileTF || RDGlobalFunction.iSValidContactNumber s.mobileTF

/-- The tests of `signInButtonAction`, `signupButtonAction` and `sendButtonAction`.  The one on
the country asks for two different texts at once, and never fails. -/
def isFilled (s : EntryScreen) : Bool :=
  match s.kind with
  | .signIn => s.hasContact && RDGlobalFunction.checkPasswordHasSufficientComplexity s.passwordTF
  | .signUp =>
    !decide (Unicode.count (RDGlobalFunction.trimmed s.fullNameTF) < 4) &&
      RDGlobalFunction.isValidEmail s.emailTF &&
      RDGlobalFunction.iSValidContactNumber s.mobileTF &&
      RDGlobalFunction.checkPasswordHasSufficientComplexity s.passwordTF
  | .forgotPassword => s.hasContact

/-- What the user types. -/
structure Fields where
  countryTF : String
  mobileTF : String
  passwordTF : String := ""
  fullNameTF : String := ""
  emailTF : String := ""

def edit (s : EntryScreen) (f : Fields) : EntryScreen where
  kind := s.kind
  countryTF := f.countryTF
  mobileTF := f.mobileTF
  passwordTF := f.passwordTF
  fullNameTF := f.fullNameTF
  emailTF := f.emailTF

end EntryScreen

/-! ## 3. The code screen -/

/-- `VerifyOTPViewController` -/
structure VerifyOTP where
  iSForGotPassword : Bool
  /-- After 99 seconds. -/
  resendIsEnabled : Bool := false
  deriving DecidableEq, Repr

/-- What is in the way of the user, by the number of the screen in the order of creation. -/
inductive AccountScreen where
  | entry (i : Nat)
  | verifyOTP (j : Nat)
  | changePassword (k : Nat)
  | providerIdentity
  | providerProductKit
  | dashboard
  deriving DecidableEq, Repr

/-! ## 4. What is in flight -/

/-- A form that was sent, with the number in it at that time and the API it was sent to. -/
structure Submission where
  screen : Nat
  phone : String
  role : UserLoginType
  deriving DecidableEq, Repr

/-- Who asked Firebase to verify a number. -/
inductive PhoneCaller where
  | entry (i : Nat)
  | resend (j : Nat)
  deriving DecidableEq, Repr

/-- `verifyPhoneNumber(phone)` -/
structure PhoneCall where
  caller : PhoneCaller
  phone : String
  deriving DecidableEq, Repr

/-- `signIn(with: credential)`, with what its completion handler captured. -/
structure CodeCheck where
  screen : Nat
  verificationID : String
  verificationCode : String
  getUserInfo : Dict
  deriving Repr

/-- A `ClientVerify` or `ProviderVerify` request; `IsVerified` is always true. -/
structure VerifyRequest where
  role : UserLoginType
  id : Int
  deriving DecidableEq, Repr

/-- A `ClientResetPassword` or `ProviderResetPassword` request, and the screen it was sent from. -/
structure ResetRequest where
  screen : Nat
  role : UserLoginType
  id : Int
  password : String
  deriving DecidableEq, Repr

end WeatherAccommodation
