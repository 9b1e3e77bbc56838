/-
# What the account screens let through

Sign-up, sign-in and forgot-password go through their fields before they send anything.  Each does
so in one chain of tests, and the first field that fails takes the focus and shows a message.  All
three test the country code too, for being empty and a plus sign at once: that test never fails.

* `rejection_eq_none_iff`: what the chains let through is what `isFilled` asks for, and the country
  code is no part of it;
* `sends_checked_iff`: a screen sends what it declares to have checked, and sends it whenever it
  can, exactly if the country code is there when everything else is in order;
* `empty_country_sent`: it need not be.
-/
import WeatherAccommodation.Account.Identifiers

namespace WeatherAccommodation

open Foundation Reactive

/-! ## 1. The chains -/

/-- The fields of a form.  The mobile number is in `emailTF` at sign-in, and in `emailMobileTF` when
the password was forgotten. -/
inductive EntryField where
  | fullNameTF
  | emailTF
  | countryTF
  | mobileTF
  | passwordTF
  deriving DecidableEq, Repr

/-- The field that becomes first responder, and its new `errorMessage`. -/
structure Rejection where
  field : EntryField
  errorMessage : Option String
  deriving DecidableEq, Repr

def RDGlobalFunction.miniRequiredCharacterForPassword : String := "Min. 8 characters required"

/-- `FORGOTPASSWORDCLIENTAPI` and `FORGOTPASSWORDPROVIDERAPI` -/
def UserLoginType.forgotPasswordAPI : UserLoginType → String
  | .clientApp => "ClientAPI/ClientForgotPassword"
  | .providerApp => "ProviderAPI/ProviderForgotPassword"

/-- Both ids that sign-up unwraps are there. -/
def DeviceIdentity.isKnown (device : DeviceIdentity) : Bool :=
  device.identifierForVendor.isSome &&
    (device.keyChain.bind fun keyChainID => Dict.get? keyChainID "DeviceAppUUID").isSome

namespace EntryScreen

variable {s : EntryScreen} {u : UserDefaults} {request : EntryRequest}

/-- `countryTF.text == "" && countryTF.text == "+"` -/
def hasNoCountry (s : EntryScreen) : Bool := decide (s.countryTF = "") && decide (s.countryTF = "+")

/-- The tests of `signupButtonAction`, in their order. -/
def signupRejection (s : EntryScreen) : Option Rejection :=
  if Unicode.count (RDGlobalFunction.trimmed s.fullNameTF) < 4 then
    some { field := .fullNameTF, errorMessage := "Min. 4 characters required" }
  else if !RDGlobalFunction.isValidEmail s.emailTF then
    some { field := .emailTF, errorMessage := "Invalid Email" }
  else if s.hasNoCountry then
    some { field := .countryTF, errorMessage := none }
  else if !RDGlobalFunction.iSValidContactNumber s.mobileTF then
    some { field := .mobileTF, errorMessage := "Invalid Mobile Number" }
  else if !RDGlobalFunction.checkPasswordHasSufficientComplexity s.passwordTF then
    some {
      field := .passwordTF
      errorMessage := RDGlobalFunction.miniRequiredCharacterForPassword }
  else none

/-- Those of `signInButtonAction`. -/
def signInRejection (s : EntryScreen) : Option Rejection :=
  if !RDGlobalFunction.isValidEmail s.mobileTF &&
      !RDGlobalFunction.iSValidContactNumber s.mobileTF then
    some { field := .mobileTF, errorMessage := "Invalid Email/Mobile" }
  else if !RDGlobalFunction.checkPasswordHasSufficientComplexity s.passwordTF then
    some {
      field := .passwordTF
      errorMessage := RDGlobalFunction.miniRequiredCharacterForPassword }
  else if s.hasNoCountry then
    some { field := .countryTF, errorMessage := none }
  else none

/-- Those of `sendButtonAction`. -/
def sendRejection (s : EntryScreen) : Option Rejection :=
  if s.hasNoCountry then
    some { field := .countryTF, errorMessage := none }
  else if !RDGlobalFunction.isValidEmail s.mobileTF &&
      !RDGlobalFunction.iSValidContactNumber s.mobileTF then
    some { field := .mobileTF, errorMessage := "Invalid Mobile" }
  else none

def rejection (s : EntryScreen) : Option Rejection :=
  match s.kind with
  | .signUp => s.signupRejection
  | .signIn => s.signInRejection
  | .forgotPassword => s.sendRejection

/-- **No country code is ever rejected.** -/
@[simp] theorem hasNoCountry_eq_false (s : EntryScreen) : s.hasNoCountry = false := by
  by_cases hempty : s.countryTF = ""
  · simp [hasNoCountry, hempty]
  · simp [hasNoCountry, hempty]

/-- A chain lets through what its first test does, and the rest of it. -/
theorem test_eq_none_iff {c : Prop} [Decidable c] {r : Rejection} {next : Option Rejection} :
    (if c then some r else next) = none ↔ ¬c ∧ next = none := by
  by_cases hc : c
  · simp [hc]
  · simp [hc]

theorem hasContact_iff : (!RDGlobalFunction.isValidEmail s.mobileTF &&
    !RDGlobalFunction.iSValidContactNumber s.mobileTF) = !s.hasContact := by
  rw [hasContact, Bool.not_or]

/-- **What the chains let through.** -/
theorem rejection_eq_none_iff : s.rejection = none ↔ s.isFilled = true := by
  cases hkind : s.kind with
  | signUp =>
    simp [rejection, hkind, signupRejection, test_eq_none_iff, isFilled, and_assoc]
  | signIn =>
    rw [rejection, hkind]
    simp only [signInRejection, hasContact_iff, test_eq_none_iff, isFilled, hkind]
    simp
  | forgotPassword =>
    rw [rejection, hkind]
    simp only [sendRejection, hasContact_iff, test_eq_none_iff, isFilled, hkind]
    simp

/-! ## 2. What the screens declare -/

/-- The country code is one. -/
def HasCountry (s : EntryScreen) : Prop := s.countryTF ≠ "" ∧ s.countryTF ≠ "+"

instance : Decidable s.HasCountry := inferInstanceAs (Decidable (_ ∧ _))

/-- What is tested of a field, as its test and its message put it. -/
def Declares (s : EntryScreen) (field : EntryField) : Prop :=
  match field, s.kind with
  | .countryTF, _ => s.HasCountry
  | .fullNameTF, .signUp => 4 ≤ Unicode.count (RDGlobalFunction.trimmed s.fullNameTF)
  | .emailTF, .signUp => RDGlobalFunction.isValidEmail s.emailTF = true
  | .mobileTF, .signUp => RDGlobalFunction.iSValidContactNumber s.mobileTF = true
  | .mobileTF, _ => s.hasContact = true
  | .passwordTF, .forgotPassword => True
  | .passwordTF, _ => RDGlobalFunction.checkPasswordHasSufficientComplexity s.passwordTF = true
  | _, _ => True

/-- **Everything declared, and what is tested of it.** -/
theorem declares_iff : (∀ field, s.Declares field) ↔ s.isFilled = true ∧ s.HasCountry := by
  have hfields : (∀ field, s.Declares field) ↔ s.Declares .fullNameTF ∧ s.Declares .emailTF ∧
      s.Declares .countryTF ∧ s.Declares .mobileTF ∧ s.Declares .passwordTF := by
    constructor
    · exact fun h => ⟨h _, h _, h _, h _, h _⟩
    · rintro ⟨hname, hemail, hcountry, hmobile, hpassword⟩ field
      cases field <;> assumption
  rw [hfields]
  cases hkind : s.kind with
  | signUp =>
    simp only [Declares, hkind, isFilled, Bool.and_eq_true, Bool.not_eq_true',
      decide_eq_false_iff_not, Nat.not_lt]
    constructor
    · rintro ⟨hname, hemail, hcountry, hmobile, hpassword⟩
      exact ⟨⟨⟨⟨hname, hemail⟩, hmobile⟩, hpassword⟩, hcountry⟩
    · rintro ⟨⟨⟨⟨hname, hemail⟩, hmobile⟩, hpassword⟩, hcountry⟩
      exact ⟨hname, hemail, hcountry, hmobile, hpassword⟩
  | signIn =>
    simp only [Declares, hkind, isFilled, Bool.and_eq_true, true_and]
    constructor
    · rintro ⟨hcountry, hmobile, hpassword⟩
      exact ⟨⟨hmobile, hpassword⟩, hcountry⟩
    · rintro ⟨⟨hmobile, hpassword⟩, hcountry⟩
      exact ⟨hcountry, hmobile, hpassword⟩
  | forgotPassword =>
    simp only [Declares, hkind, isFilled, true_and, and_true]
    exact and_comm

/-- **A field that is rejected is not what was declared of it.** -/
theorem not_declares_of_rejection {r : Rejection} (h : s.rejection = some r) :
    ¬s.Declares r.field := by
  cases hkind : s.kind with
  | signUp =>
    simp only [rejection, hkind, signupRejection, hasNoCountry_eq_false] at h
    split_ifs at h <;> obtain rfl := Option.some.inj h <;> simp_all [Declares]
  | signIn =>
    simp only [rejection, hkind, signInRejection, hasNoCountry_eq_false, hasContact_iff] at h
    split_ifs at h <;> obtain rfl := Option.some.inj h <;> simp_all [Declares]
  | forgotPassword =>
    simp only [rejection, hkind, sendRejection, hasNoCountry_eq_false, hasContact_iff] at h
    split_ifs at h <;> obtain rfl := Option.some.inj h <;> simp_all [Declares]

/-! ## 3. What they send -/

/-- What lies around a form when its button is pressed. -/
structure Surroundings where
  defaults : UserDefaults
  device : DeviceIdentity
  isInternetConnected : Bool

variable {p : Surroundings} {device : DeviceIdentity}

/-- `clientProviderForgotPasswordParam` -/
def clientProviderForgotPasswordParam (s : EntryScreen) : Dict :=
  [("EmailMobileNumber", .str s.phone)]

/-- `sendButtonAction`, of the screen that has one. -/
def sendButtonAction (s : EntryScreen) (u : UserDefaults) : Option EntryRequest :=
  match s.kind, s.isFilled, u.loginType with
  | .forgotPassword, true, some role =>
    some { api := role.forgotPasswordAPI, parameters := s.clientProviderForgotPasswordParam }
  | _, _, _ => none

/-- What the button of the screen hands to `getResponse`, which sends it over a connection. -/
def sent (s : EntryScreen) (p : Surroundings) : Except SignUpTrap (Option EntryRequest) := do
  let request ← match s.kind with
    | .signUp => s.signupButtonAction p.defaults p.device
    | .signIn => pure (s.signInButtonAction p.defaults)
    | .forgotPassword => pure (s.sendButtonAction p.defaults)
  return if p.isInternetConnected then request else none

/-- There is a connection, it is known who the user is, and on which device, where that is sent. -/
def canSend (s : EntryScreen) (p : Surroundings) : Bool :=
  p.isInternetConnected && p.defaults.loginType.isSome &&
    (decide (s.kind ≠ .signUp) || p.device.isKnown)

/-- What is sent is what is in the fields. -/
def Carries (s : EntryScreen) (request : EntryRequest) : Prop :=
  match s.kind with
  | .signUp =>
    Dict.string? request.parameters "Name" = some s.fullNameTF ∧
    Dict.string? request.parameters "Email" = some s.emailTF ∧
    Dict.string? request.parameters "MobileNumber" = some (s.countryTF ++ s.mobileTF) ∧
    Dict.string? request.parameters "Password" = some s.passwordTF
  | .signIn =>
    Dict.string? request.parameters "EmailMobileNumber" = some (s.countryTF ++ s.mobileTF) ∧
    Dict.string? request.parameters "Password" = some s.passwordTF
  | .forgotPassword =>
    Dict.string? request.parameters "EmailMobileNumber" = some (s.countryTF ++ s.mobileTF)

theorem carries_of_signup (h : s.signupButtonAction u device = .ok (some request)) :
    s.Carries request := by
  obtain ⟨hkind, _, role, vendorDeviceID, deviceUUID, _, _, hparameters⟩ := of_signupButtonAction h
  simp [Carries, hkind, hparameters, signupParam, Dict.string?, Dict.get?, List.lookup_cons,
    Json.asString?, phone]

theorem carries_of_signIn (h : s.signInButtonAction u = some request) : s.Carries request := by
  have hkind : s.kind = .signIn := by
    unfold signInButtonAction at h
    split at h
    · assumption
    · exact absurd h (by simp)
  obtain ⟨_, _, _, _, hparameters⟩ := of_signInButtonAction h
  simp [Carries, hkind, hparameters, clientProviderSignInParam, Dict.string?, Dict.get?,
    List.lookup_cons, Json.asString?, phone]

/-- What is sent when the password was forgotten. -/
theorem of_sendButtonAction (h : s.sendButtonAction u = some request) :
    s.kind = .forgotPassword ∧ s.isFilled = true ∧ ∃ role, u.loginType = some role ∧
      request.api = role.forgotPasswordAPI ∧
      request.parameters = s.clientProviderForgotPasswordParam := by
  unfold sendButtonAction at h
  split at h
  · rename_i role hkind hfilled hrole
    obtain rfl := Option.some.inj h
    exact ⟨hkind, hfilled, role, hrole, rfl, rfl⟩
  · exact absurd h (by simp)

theorem sendButtonAction_eq {role : UserLoginType} (hkind : s.kind = .forgotPassword)
    (hfilled : s.isFilled = true) (hrole : u.loginType = some role) :
    s.sendButtonAction u = some {
      api := role.forgotPasswordAPI
      parameters := s.clientProviderForgotPasswordParam } := by
  simp [sendButtonAction, hkind, hfilled, hrole]

theorem carries_of_send (h : s.sendButtonAction u = some request) : s.Carries request := by
  obtain ⟨hkind, _, _, _, _, hparameters⟩ := of_sendButtonAction h
  simp [Carries, hkind, hparameters, clientProviderForgotPasswordParam, Dict.string?, Dict.get?,
    Json.asString?, phone]

/-- What is sent came from the button, over a connection. -/
theorem sent_eq_ok : s.sent p = .ok (some request) ↔ p.isInternetConnected = true ∧
    match s.kind with
    | .signUp => s.signupButtonAction p.defaults p.device = .ok (some request)
    | .signIn => s.signInButtonAction p.defaults = some request
    | .forgotPassword => s.sendButtonAction p.defaults = some request := by
  unfold sent
  cases hconnected : p.isInternetConnected with
  | false => cases s.kind <;> simp
  | true => cases s.kind <;> simp

/-- **Nothing is sent but what is in the fields.** -/
theorem carries_of_sent (h : s.sent p = .ok (some request)) : s.Carries request := by
  obtain ⟨_, h⟩ := sent_eq_ok.mp h
  cases hkind : s.kind with
  | signUp => exact carries_of_signup (by simpa [hkind] using h)
  | signIn => exact carries_of_signIn (by simpa [hkind] using h)
  | forgotPassword => exact carries_of_send (by simpa [hkind] using h)

/-- Sign-up gets as far as its request. -/
theorem known_of_signup (h : s.signupButtonAction u device = .ok (some request)) :
    device.isKnown = true := by
  unfold signupButtonAction at h
  split at h
  · obtain ⟨uuid?, huuid, h⟩ := bind_eq_ok.mp h
    split at h
    · exact absurd h (by simp)
    · obtain ⟨vendorDeviceID, hvendor, h⟩ := bind_eq_ok.mp h
      obtain ⟨deviceUUID, hsome, _⟩ := bind_eq_ok.mp h
      obtain rfl := unwrap_eq_ok.mp hsome
      cases hchain : device.keyChain with
      | none => simp [deviceGetUUID, hchain] at huuid
      | some keyChainID =>
        have hget : Dict.get? keyChainID "DeviceAppUUID" = some deviceUUID := by
          simpa [deviceGetUUID, hchain] using huuid
        simp [DeviceIdentity.isKnown, unwrap_eq_ok.mp hvendor, hchain, hget]
  · exact absurd h (by simp)

theorem exists_signup_iff (hkind : s.kind = .signUp) :
    (∃ request, s.signupButtonAction u device = .ok (some request)) ↔
      s.isFilled = true ∧ u.loginType.isSome = true ∧ device.isKnown = true := by
  constructor
  · rintro ⟨request, h⟩
    obtain ⟨_, hfilled, role, _, _, hrole, _⟩ := of_signupButtonAction h
    exact ⟨hfilled, by simp [hrole], known_of_signup h⟩
  · rintro ⟨hfilled, hrole, hknown⟩
    obtain ⟨role, hrole⟩ := Option.isSome_iff_exists.mp hrole
    obtain ⟨hvendor, hchain⟩ := Bool.and_eq_true_iff.mp hknown
    obtain ⟨vendorDeviceID, hvendor⟩ := Option.isSome_iff_exists.mp hvendor
    obtain ⟨deviceUUID, hchain⟩ := Option.isSome_iff_exists.mp hchain
    obtain ⟨keyChainID, hchain, huuid⟩ := Option.bind_eq_some_iff.mp hchain
    exact ⟨_, signupButtonAction_eq hkind hfilled hrole hvendor hchain huuid⟩

theorem exists_signIn_iff (hkind : s.kind = .signIn) :
    (∃ request, s.signInButtonAction u = some request) ↔
      s.isFilled = true ∧ u.loginType.isSome = true := by
  constructor
  · rintro ⟨request, h⟩
    obtain ⟨hfilled, role, hrole, _⟩ := of_signInButtonAction h
    exact ⟨hfilled, by simp [hrole]⟩
  · rintro ⟨hfilled, hrole⟩
    obtain ⟨role, hrole⟩ := Option.isSome_iff_exists.mp hrole
    exact ⟨_, signInButtonAction_eq hkind hfilled hrole⟩

theorem exists_send_iff (hkind : s.kind = .forgotPassword) :
    (∃ request, s.sendButtonAction u = some request) ↔
      s.isFilled = true ∧ u.loginType.isSome = true := by
  constructor
  · rintro ⟨request, h⟩
    obtain ⟨_, hfilled, role, hrole, _⟩ := of_sendButtonAction h
    exact ⟨hfilled, by simp [hrole]⟩
  · rintro ⟨hfilled, hrole⟩
    obtain ⟨role, hrole⟩ := Option.isSome_iff_exists.mp hrole
    exact ⟨_, sendButtonAction_eq hkind hfilled hrole⟩

/-- **When something is sent**: the form is filled in, and can be sent. -/
theorem exists_sent_iff :
    (∃ request, s.sent p = .ok (some request)) ↔ s.isFilled = true ∧ s.canSend p = true := by
  simp only [sent_eq_ok, exists_and_left, canSend, Bool.and_eq_true, Bool.or_eq_true,
    decide_eq_true_eq]
  cases hkind : s.kind with
  | signUp =>
    rw [exists_signup_iff hkind]
    simp only [ne_eq, not_true_eq_false, false_or]
    constructor
    · exact fun ⟨hconnected, hfilled, hrole, hknown⟩ => ⟨hfilled, ⟨hconnected, hrole⟩, hknown⟩
    · exact fun ⟨hfilled, ⟨hconnected, hrole⟩, hknown⟩ => ⟨hconnected, hfilled, hrole, hknown⟩
  | signIn =>
    rw [exists_signIn_iff hkind]
    simp only [ne_eq, reduceCtorEq, not_false_eq_true, true_or, and_true]
    exact and_left_comm
  | forgotPassword =>
    rw [exists_send_iff hkind]
    simp only [ne_eq, reduceCtorEq, not_false_eq_true, true_or, and_true]
    exact and_left_comm

/-! ## 4. Sent and declared -/

/-- Whatever is sent has everything the screen declares of it, and what has that is sent. -/
def SendsChecked (s : EntryScreen) (p : Surroundings) : Prop :=
  (∀ request, s.sent p = .ok (some request) → s.Carries request ∧ ∀ field, s.Declares field) ∧
    ((∀ field, s.Declares field) → ∃ request, s.sent p = .ok (some request))

/-- **The exact condition.**  When the other fields are in order, there is a country code exactly if
there is nothing else in the way. -/
theorem sends_checked_iff (s : EntryScreen) (p : Surroundings) :
    s.SendsChecked p ↔ (s.isFilled = true → (s.HasCountry ↔ s.canSend p = true)) := by
  have hsent : s.SendsChecked p ↔
      ((∃ request, s.sent p = .ok (some request)) ↔ ∀ field, s.Declares field) := by
    constructor
    · rintro ⟨hdeclared, hall⟩
      exact ⟨fun ⟨request, h⟩ => (hdeclared request h).2, hall⟩
    · intro h
      exact ⟨fun request hr => ⟨carries_of_sent hr, h.mp ⟨request, hr⟩⟩, h.mpr⟩
  rw [hsent, exists_sent_iff, declares_iff, and_congr_right_iff]
  exact imp_congr_right fun _ => iff_comm

/-- A client's phone, which is connected. -/
def sampleSurroundings : Surroundings where
  defaults := clientDefaults
  device := sampleIdentity
  isInternetConnected := true

/-- A sign-in form without a country code. -/
def withoutCountry : EntryScreen := { sampleSignIn "5551234567" with countryTF := "" }

/-- **Without a country code.**  Everything else is in order, the form can be sent, and is. -/
theorem empty_country_sent :
    withoutCountry.countryTF = "" ∧
    withoutCountry.sent sampleSurroundings = .ok (some {
      api := "ClientAPI/LoginClient"
      parameters := [("EmailMobileNumber", .str "5551234567"), ("Password", .str "12345678")] }) ∧
    ¬withoutCountry.SendsChecked sampleSurroundings := by
  have hfilled : withoutCountry.isFilled = true := by decide +kernel
  have hrole : clientDefaults.loginType = some .clientApp := by decide +kernel
  have hsent := signInButtonAction_eq rfl hfilled hrole
  refine ⟨rfl, sent_eq_ok.mpr ⟨rfl, hsent⟩, fun h => ?_⟩
  obtain ⟨hcountry, _⟩ := (h.1 _ (sent_eq_ok.mpr ⟨rfl, hsent⟩)).2 .countryTF
  exact hcountry rfl

end EntryScreen

end WeatherAccommodation
