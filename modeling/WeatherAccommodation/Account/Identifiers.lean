/-
# The name an account signs in with

Sign-up registers an account under two names: the email as it was typed, and the mobile number
with the country code before it.  Sign-in has one field for either, and puts the country code
before whatever is in it.  So a mobile number comes out as it was registered, and an email does
not:

* `sign_in_names_account_iff`: of the emails and numbers that both screens accept, the ones that
  name the account that was registered are the numbers, and the emails after an empty country code;
* `email_names_nobody`: `+1` and an email.

The two cannot be mixed up, since the two patterns have no text in common
(`isValidEmail_of_contact`).
-/
import WeatherAccommodation.Account.App

namespace WeatherAccommodation

open Foundation Reactive

/-! ## 1. No text is an email and a number -/

namespace RDGlobalFunction

variable {c : Char} {cs rest : List Char} {n : Nat}

/-- Digits are all that is taken. -/
theorem mem_of_dropDigits? (h : dropDigits? n cs = some rest) (hc : c ∈ cs)
    (hdigit : c.isDigit = false) : c ∈ rest := by
  unfold dropDigits? at h
  split at h
  · rename_i hdigits
    obtain rfl : cs.drop n = rest := by simpa using h
    rw [← List.take_append_drop n cs, List.mem_append] at hc
    rcases hc with htaken | hleft
    · have : c.isDigit = true := List.all_eq_true.mp hdigits.2 c htaken
      exact absurd this (by simp [hdigit])
    · exact hleft
  · exact absurd h (by simp)

/-- And what else may stand there. -/
theorem mem_dropOptional {options : List Char} (hc : c ∈ cs) (hne : c ∉ options) :
    c ∈ dropOptional options cs := by
  cases cs with
  | nil => exact absurd hc (by simp)
  | cons d ds =>
    simp only [dropOptional]
    split
    · rename_i hd
      rcases List.mem_cons.mp hc with rfl | hc
      · exact absurd hd hne
      · exact hc
    · exact hc

/-- There is no `@` in a number. -/
theorem not_mem_of_contact {number : String} (h : iSValidContactNumber number = true) :
    '@' ∉ number.toList := by
  intro hat
  have hat : '@' ∈ dropOptional ['('] number.toList := mem_dropOptional hat (by decide)
  unfold iSValidContactNumber at h
  split at h
  · exact absurd h (by simp)
  · rename_i area harea
    have hat : '@' ∈ area := mem_of_dropDigits? harea hat (by decide)
    have hat : '@' ∈ dropOptional ['-', '.'] (dropOptional [')'] area) :=
      mem_dropOptional (mem_dropOptional hat (by decide)) (by decide)
    split at h
    · exact absurd h (by simp)
    · rename_i exchange hexchange
      have hat : '@' ∈ exchange := mem_of_dropDigits? hexchange hat (by decide)
      have hat : '@' ∈ dropOptional ['-', '.'] exchange := mem_dropOptional hat (by decide)
      exact absurd (mem_of_dropDigits? (beq_iff_eq.mp h) hat (by decide)) (by simp)

/-- There is one in an email. -/
theorem mem_of_email {email : String} (h : isValidEmail email = true) : '@' ∈ email.toList := by
  by_contra hat
  have hname : email.toList.dropWhile (· != '@') = [] := by
    rw [List.dropWhile_eq_nil_iff]
    intro c hc
    simpa using fun hc' : c = '@' => hat (hc' ▸ hc)
  simp [isValidEmail, hname] at h

/-- **A number is no email.** -/
theorem isValidEmail_of_contact {number : String} (h : iSValidContactNumber number = true) :
    isValidEmail number = false := by
  by_contra hemail
  exact not_mem_of_contact h (mem_of_email (by simpa using hemail))

end RDGlobalFunction

/-! ## 2. The two requests -/

/-- A POST: the API and its parameters. -/
structure EntryRequest where
  api : String
  parameters : Dict

/-- What sign-up reads of the device: the id for the vendor, the key chain of the app, and what
kind of device it is. -/
structure DeviceIdentity where
  identifierForVendor : Option String
  keyChain : Option Dict
  modelName : String
  systemVersion : String

/-- The forced unwrappings of `signupButtonAction`. -/
inductive SignUpTrap where
  /-- `keyChainID?[deviceAppUUID]!`, with a key chain that has no such entry -/
  | deviceAppUUID
  /-- `deviceGetUUID!`, without a key chain -/
  | deviceGetUUID
  /-- `vendorDeviceID!` -/
  | vendorDeviceID
  deriving DecidableEq, Repr

/-- `REGISTERCLIENTAPI` and `REGISTERPROVIDERAPI` -/
def UserLoginType.registerAPI : UserLoginType → String
  | .clientApp => "ClientAPI/RegisterClient"
  | .providerApp => "providerAPI/RegisterProvider"

/-- `LOGINCLIENTAPI` and `LOGINPROVIDERAPI` -/
def UserLoginType.loginAPI : UserLoginType → String
  | .clientApp => "ClientAPI/LoginClient"
  | .providerApp => "ProviderAPI/LoginProvider"

/-- The status a client is registered with. -/
def UserLoginType.statusCode : UserLoginType → Dict
  | .clientApp => [("StatusCode", .str "3")]
  | .providerApp => []

namespace EntryScreen

variable {s t : EntryScreen} {u v : UserDefaults} {device : DeviceIdentity}
variable {request register signIn : EntryRequest}

/-- `clientProviderSignInParam` -/
def clientProviderSignInParam (t : EntryScreen) : Dict :=
  [("EmailMobileNumber", .str t.phone), ("Password", .str t.passwordTF)]

/-- `signInButtonAction`, of the screen that has one. -/
def signInButtonAction (t : EntryScreen) (u : UserDefaults) : Option EntryRequest :=
  match t.kind, t.isFilled, u.loginType with
  | .signIn, true, some role =>
    some { api := role.loginAPI, parameters := t.clientProviderSignInParam }
  | _, _, _ => none

/-- `clientSignupParam` and `providerSignupParam` -/
def signupParam (s : EntryScreen) (role : UserLoginType) (device : DeviceIdentity)
    (vendorDeviceID : String) (deviceGetUUID : Json) : Dict :=
  [("Name", .str s.fullNameTF), ("Email", .str s.emailTF), ("MobileNumber", .str s.phone),
    ("Password", .str s.passwordTF)] ++ role.statusCode ++
  [("deviceIdUUID", .str vendorDeviceID), ("DeviceIMEI", deviceGetUUID),
    ("DeviceModalName", .str device.modelName), ("DeviceBrand", .str device.systemVersion),
    ("GCMRegistrationID", .str ""), ("iOSDeviceToken", .str "")]

/-- `keyChainID?[RDDataEngineClass.deviceAppUUID]!` -/
def deviceGetUUID (device : DeviceIdentity) : Except SignUpTrap (Option Json) :=
  match device.keyChain with
  | none => .ok none
  | some keyChainID => some <$> unwrap .deviceAppUUID (Dict.get? keyChainID "DeviceAppUUID")

/-- `signupButtonAction`, of the screen that has one. -/
def signupButtonAction (s : EntryScreen) (u : UserDefaults) (device : DeviceIdentity) :
    Except SignUpTrap (Option EntryRequest) :=
  if s.kind = .signUp ∧ s.isFilled = true then do
    let deviceUUID ← deviceGetUUID device
    match u.loginType with
    | none => return none
    | some role =>
      let vendorDeviceID ← unwrap .vendorDeviceID device.identifierForVendor
      let deviceUUID ← unwrap .deviceGetUUID deviceUUID
      return some {
        api := role.registerAPI
        parameters := s.signupParam role device vendorDeviceID deviceUUID }
  else return none

/-- What is sent at sign-in. -/
theorem of_signInButtonAction (h : t.signInButtonAction u = some request) :
    t.isFilled = true ∧ ∃ role, u.loginType = some role ∧ request.api = role.loginAPI ∧
      request.parameters = t.clientProviderSignInParam := by
  unfold signInButtonAction at h
  split at h
  · rename_i role _ hfilled hrole
    obtain rfl := Option.some.inj h
    exact ⟨hfilled, role, hrole, rfl, rfl⟩
  · exact absurd h (by simp)

/-- What is sent at sign-up. -/
theorem of_signupButtonAction (h : s.signupButtonAction u device = .ok (some request)) :
    s.kind = .signUp ∧ s.isFilled = true ∧ ∃ role vendorDeviceID deviceUUID,
      u.loginType = some role ∧ request.api = role.registerAPI ∧
        request.parameters = s.signupParam role device vendorDeviceID deviceUUID := by
  unfold signupButtonAction at h
  split at h
  · rename_i hform
    obtain ⟨_, _, h⟩ := bind_eq_ok.mp h
    split at h
    · exact absurd h (by simp)
    · rename_i role hrole
      obtain ⟨vendorDeviceID, _, h⟩ := bind_eq_ok.mp h
      obtain ⟨deviceUUID, _, h⟩ := bind_eq_ok.mp h
      obtain rfl := Option.some.inj (pure_eq_ok.mp h)
      exact ⟨hform.1, hform.2, role, vendorDeviceID, deviceUUID, hrole, rfl, rfl⟩
  · exact absurd h (by simp)

/-- A form that is filled in is sent, from a device that knows its ids. -/
theorem signupButtonAction_eq {role : UserLoginType} {vendorDeviceID : String} {keyChainID : Dict}
    {deviceUUID : Json} (hkind : s.kind = .signUp) (hfilled : s.isFilled = true)
    (hrole : u.loginType = some role)
    (hvendor : device.identifierForVendor = some vendorDeviceID)
    (hchain : device.keyChain = some keyChainID)
    (huuid : Dict.get? keyChainID "DeviceAppUUID" = some deviceUUID) :
    s.signupButtonAction u device = .ok (some {
      api := role.registerAPI
      parameters := s.signupParam role device vendorDeviceID deviceUUID }) := by
  simp [signupButtonAction, deviceGetUUID, hkind, hfilled, hrole, hvendor, hchain, huuid]

theorem signInButtonAction_eq {role : UserLoginType} (hkind : t.kind = .signIn)
    (hfilled : t.isFilled = true) (hrole : u.loginType = some role) :
    t.signInButtonAction u = some {
      api := role.loginAPI
      parameters := t.clientProviderSignInParam } := by
  simp [signInButtonAction, hkind, hfilled, hrole]

@[simp] theorem emailMobileNumber_signIn :
    Dict.string? t.clientProviderSignInParam "EmailMobileNumber" = some t.phone := by
  simp [Dict.string?, Dict.get?, clientProviderSignInParam, Json.asString?]

@[simp] theorem email_signup {role : UserLoginType} {vendorDeviceID : String} {deviceUUID : Json} :
    Dict.string? (s.signupParam role device vendorDeviceID deviceUUID) "Email"
      = some s.emailTF := by
  simp [Dict.string?, Dict.get?, signupParam, Json.asString?, List.lookup_cons]

@[simp] theorem mobileNumber_signup {role : UserLoginType} {vendorDeviceID : String}
    {deviceUUID : Json} :
    Dict.string? (s.signupParam role device vendorDeviceID deviceUUID) "MobileNumber"
      = some s.phone := by
  simp [Dict.string?, Dict.get?, signupParam, Json.asString?, List.lookup_cons]

/-- **The submission of the app is this request.**  Its number is the name that is sent at
sign-in. -/
theorem submit_of_signInButtonAction {a : AccountApp} {i : Nat}
    (h : t.signInButtonAction a.defaults = some signIn) : ∃ role, signIn.api = role.loginAPI ∧
      a.submit i t = { a with
        submissions := a.submissions.issue { screen := i, phone := t.phone, role := role } } ∧
      Dict.string? signIn.parameters "EmailMobileNumber" = some t.phone := by
  obtain ⟨hfilled, role, hrole, hapi, hparameters⟩ := of_signInButtonAction h
  refine ⟨role, hapi, ?_, ?_⟩
  · simp [AccountApp.submit, hfilled, hrole]
  · rw [hparameters, emailMobileNumber_signIn]

/-- At sign-up it is the mobile number. -/
theorem submit_of_signupButtonAction {a : AccountApp} {i : Nat}
    (h : s.signupButtonAction a.defaults device = .ok (some register)) :
    ∃ role, register.api = role.registerAPI ∧
      a.submit i s = { a with
        submissions := a.submissions.issue { screen := i, phone := s.phone, role := role } } ∧
      Dict.string? register.parameters "MobileNumber" = some s.phone := by
  obtain ⟨_, hfilled, role, _, _, hrole, hapi, hparameters⟩ := of_signupButtonAction h
  refine ⟨role, hapi, ?_, ?_⟩
  · simp [AccountApp.submit, hfilled, hrole]
  · rw [hparameters, mobileNumber_signup]

/-! ## 3. Signing in with what was registered -/

/-- The name that is sent is one of the two that were registered. -/
def Names (signIn register : Dict) : Prop :=
  ∃ name, Dict.string? signIn "EmailMobileNumber" = some name ∧
    (Dict.string? register "Email" = some name ∨ Dict.string? register "MobileNumber" = some name)

instance (signIn register : Dict) : Decidable (Names signIn register) :=
  decidable_of_iff ((Dict.string? signIn "EmailMobileNumber").any (fun name =>
      Dict.string? register "Email" == some name ||
        Dict.string? register "MobileNumber" == some name) = true)
    (by simp [Names, Option.any_eq_true])

/-- **The exact condition.**  An account was registered, and the email or the number it was
registered with is typed at sign-in, under the same country code.  What is sent names the account
if it was not the email, or if the country code is empty. -/
theorem sign_in_names_account_iff
    (hregister : s.signupButtonAction u device = .ok (some register))
    (hsignIn : t.signInButtonAction v = some signIn) (hcountry : t.countryTF = s.countryTF)
    (htyped : t.mobileTF = s.emailTF ∨ t.mobileTF = s.mobileTF) :
    Names signIn.parameters register.parameters ↔
      RDGlobalFunction.isValidEmail t.mobileTF = false ∨ t.countryTF = "" := by
  obtain ⟨hs, hfilled, role, vendorDeviceID, deviceUUID, _, _, hregistered⟩ :=
    of_signupButtonAction hregister
  obtain ⟨_, _, _, _, hsent⟩ := of_signInButtonAction hsignIn
  simp only [isFilled, hs, Bool.and_eq_true] at hfilled
  obtain ⟨⟨⟨_, hemail⟩, hmobile⟩, _⟩ := hfilled
  have hnames : Names signIn.parameters register.parameters ↔
      s.emailTF = t.phone ∨ s.phone = t.phone := by
    simp [Names, hregistered, hsent]
  have hphone : s.phone = t.phone ↔ s.mobileTF = t.mobileTF := by
    simp [phone, hcountry]
  rw [hnames, hphone]
  rcases htyped with htyped | htyped
  · have hother : s.mobileTF ≠ t.mobileTF := by
      intro hsame
      have hno := RDGlobalFunction.isValidEmail_of_contact hmobile
      rw [hsame, htyped, hemail] at hno
      exact absurd hno (by simp)
    have hempty : s.emailTF = t.phone ↔ t.countryTF = "" := by
      rw [phone, htyped, ← String.toList_inj, String.toList_append, List.self_eq_append_left,
        String.toList_eq_nil_iff]
    have hyes : RDGlobalFunction.isValidEmail t.mobileTF = true := htyped ▸ hemail
    rw [hempty, hyes]
    simp only [hother, or_false, Bool.true_eq_false, false_or]
  · have hno : RDGlobalFunction.isValidEmail t.mobileTF = false :=
      htyped ▸ RDGlobalFunction.isValidEmail_of_contact hmobile
    exact iff_of_true (.inr htyped.symm) (.inl hno)

/-- A client who signs up as `mary@example.com` and with a number. -/
def sampleSignUp : EntryScreen :=
  { kind := .signUp, mobileTF := "5551234567", passwordTF := "12345678", fullNameTF := "Mary",
    emailTF := "mary@example.com" }

/-- The same client, with what is typed at sign-in. -/
def sampleSignIn (typed : String) : EntryScreen :=
  { kind := .signIn, mobileTF := typed, passwordTF := "12345678" }

def clientDefaults : UserDefaults :=
  UserDefaults.empty.setValue .userLoginTypeInAppDef UserLoginType.clientApp.text

def sampleIdentity : DeviceIdentity where
  identifierForVendor := some "vendor"
  keyChain := some [("DeviceAppUUID", .str "app")]
  modelName := "iPhone"
  systemVersion := "12.0"

/-- What `sampleSignUp` registers. -/
def sampleRegistered : EntryRequest where
  api := UserLoginType.clientApp.registerAPI
  parameters := sampleSignUp.signupParam .clientApp sampleIdentity "vendor" (.str "app")

theorem sampleSignUp_sent :
    sampleSignUp.signupButtonAction clientDefaults sampleIdentity = .ok (some sampleRegistered) :=
  signupButtonAction_eq rfl (by decide +kernel) (by decide +kernel) rfl rfl rfl

theorem sampleSignIn_sent {typed : String} (h : (sampleSignIn typed).isFilled = true) :
    (sampleSignIn typed).signInButtonAction clientDefaults = some {
      api := UserLoginType.clientApp.loginAPI
      parameters := (sampleSignIn typed).clientProviderSignInParam } :=
  signInButtonAction_eq rfl h (by decide +kernel)

/-- With the number. -/
theorem number_names_account :
    Names (sampleSignIn "5551234567").clientProviderSignInParam sampleRegistered.parameters :=
  (sign_in_names_account_iff sampleSignUp_sent (sampleSignIn_sent (by decide +kernel)) rfl
    (Or.inr rfl)).mpr (Or.inl (by decide +kernel))

/-- **With the email.**  `+1mary@example.com` is sent, and nobody has registered that. -/
theorem email_names_nobody :
    sampleSignUp.signupButtonAction clientDefaults sampleIdentity = .ok (some sampleRegistered) ∧
    (sampleSignIn "mary@example.com").signInButtonAction clientDefaults = some {
      api := UserLoginType.clientApp.loginAPI
      parameters := (sampleSignIn "mary@example.com").clientProviderSignInParam } ∧
    (sampleSignIn "mary@example.com").mobileTF = sampleSignUp.emailTF ∧
    ¬Names (sampleSignIn "mary@example.com").clientProviderSignInParam
      sampleRegistered.parameters := by
  refine ⟨sampleSignUp_sent, ?_, rfl, ?_⟩
  · exact sampleSignIn_sent (by decide +kernel)
  · decide +kernel

end EntryScreen

end WeatherAccommodation
