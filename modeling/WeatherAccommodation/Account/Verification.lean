/-
# Whose account a code verifies

The code screen asks for the verification of the account whose profile is stored when its button
is pressed.  A sign-up stores its reply before it opens the screen.  A sign-in that is answered
"not verified" opens the same screen and stores nothing: the profile is whatever an earlier user
left there, or none at all, and then reading it traps.

`verified_iff` says exactly when the request is sent for the account of the reply, in any state of
the app; `earlier_user_verified` is a sign-in that verifies somebody else's account.
-/
import WeatherAccommodation.Account.App

namespace WeatherAccommodation

open Foundation Reactive

namespace AccountApp

/-! ## 1. Replies and what follows them -/

/-- The reply to a new account: `Success` to a sign-up, "not verified" to a sign-in, with the id
of the account. -/
structure IsNewAccount (kind : EntryKind) (role : UserLoginType) (id : Int) (response : Dict) :
    Prop where
  success : (kind = .signUp ∧ Dict.int? response "Success" = some successCode) ∨
    (kind = .signIn ∧ Dict.int? response "Success" = some notVerifiedCode)
  account : Dict.int? response role.idKey = some id

/-- The code is sent, entered and accepted. -/
def codeEvents (a : AccountApp) (verificationID verifyOTPTF : String) : List AccountEvent :=
  [.verificationReply a.phoneCalls.issued (some verificationID), .verifyButtonAction verifyOTPTF,
    .signInReply a.checks.issued true]

/-- The events come off without a trap, and what is sent is the request for `id`. -/
def Verifies (a : AccountApp) (events : List AccountEvent) (role : UserLoginType) (id : Int) :
    Prop :=
  ∃ b, machine.replay (fun _ _ => true) a events = some b ∧
    b.verifyRequests = a.verifyRequests ++ [{ role := role, id := id }]

/-- The stored profile is that of `id`. -/
def HasProfile (u : UserDefaults) (role : UserLoginType) (id : Int) : Prop :=
  ∃ profile, u.value .userProfileInfoDef = some (.dict profile) ∧
    Dict.int? profile role.idKey = some id

/-- When the code verifies the account of the reply: after a sign-up, if the reply can be stored;
after a sign-in, if the account's profile is stored already. -/
def Identified (a : AccountApp) (kind : EntryKind) (role : UserLoginType) (id : Int)
    (response : Dict) : Prop :=
  match kind with
  | .signUp => (Json.obj response).isPropertyList = true
  | .signIn => HasProfile a.defaults role id
  | .forgotPassword => False

/-! ## 2. The code screen -/

/-- What the callback of a sign-up or sign-in leaves. -/
def codeSent (a : AccountApp) (call i : Nat) (verificationID : String) : AccountApp :=
  ({ a with phoneCalls := a.phoneCalls.retire call }.setVerificationID
    verificationID).openVerifyOTPNumberScreen i false

/-- What a press on the button leaves, if the profile is `profile`. -/
def codeEntered (a : AccountApp) (j : Nat) (profile : Dict) (verifyOTPTF : String) : AccountApp :=
  { a with checks := a.checks.issue {
    screen := j
    verificationID := a.defaults.getValue .authVerificationID
    verificationCode := verifyOTPTF
    getUserInfo := profile } }

variable {a b : AccountApp} {i j : Nat} {role : UserLoginType} {id : Int}
  {verificationID verifyOTPTF : String}

/-- The kind of account is read from one key. -/
theorem loginType_set_of_ne (u : UserDefaults) {key : DefaultsKey} (v : Stored)
    (h : DefaultsKey.userLoginTypeInAppDef ≠ key) : (u.set key v).loginType = u.loginType := by
  have hvalue : (u.set key v).getValue .userLoginTypeInAppDef =
      u.getValue .userLoginTypeInAppDef := by
    unfold UserDefaults.getValue
    rw [UserDefaults.value_set_of_ne u v h]
  unfold UserDefaults.loginType
  rw [hvalue]

/-- The callback opens the code screen on top of the form. -/
theorem verificationReply_step {s : EntryScreen} {call : Nat} {phone : String}
    (hcall : a.phoneCalls.waiting call = some { caller := .entry i, phone := phone })
    (hs : a.entries[i]? = some s) (hkind : s.kind ≠ .forgotPassword) :
    machine.Step a (.verificationReply call (some verificationID)) b ↔
      True ∧ a.codeSent call i verificationID = b := by
  simp only [Machine.Step, machine, react, hcall, hs, Option.bind_some, Option.map_some,
    formVerified, Option.some.injEq, Except.ok.injEq, true_and]
  cases hk : s.kind with
  | signIn => rfl
  | signUp => rfl
  | forgotPassword => exact absurd hk hkind

/-- The screen that is opened, and the state around it. -/
theorem codeSent_eq {call : Nat} (htop : a.stack.head? = some (.entry i)) :
    a.codeSent call i verificationID =
      { a with
        phoneCalls := a.phoneCalls.retire call
        defaults := a.defaults.setValue .authVerificationID verificationID
        otps := a.otps ++ [{ iSForGotPassword := false }]
        stack := .verifyOTP a.otps.length :: a.stack } := by
  unfold codeSent openVerifyOTPNumberScreen present
  rw [if_pos (by exact htop)]
  rfl

/-- The button takes the profile that is stored. -/
theorem verifyButtonAction_step (htop : a.stack.head? = some (.verifyOTP j))
    (htext : 5 < Unicode.count verifyOTPTF.toList) :
    machine.Step a (.verifyButtonAction verifyOTPTF) b ↔
      ∃ profile, a.defaults.value .userProfileInfoDef = some (.dict profile) ∧
        a.codeEntered j profile verifyOTPTF = b := by
  obtain ⟨below, hstack⟩ : ∃ below, a.stack = .verifyOTP j :: below := by
    cases hs : a.stack with
    | nil => simp [hs] at htop
    | cons top below =>
      obtain rfl : top = .verifyOTP j := by simpa [hs] using htop
      exact ⟨below, rfl⟩
  have hreact : react a (.verifyButtonAction verifyOTPTF) =
      some (a.verifyButtonAction j verifyOTPTF) := by simp only [react, hstack]
  have hlong : ¬Unicode.count verifyOTPTF.toList ≤ 5 := by omega
  simp only [Machine.Step, machine, hreact, verifyButtonAction, if_neg hlong, codeEntered,
    Option.some.injEq, bind_eq_ok, pure_eq_ok, UserDefaults.getObject_eq_ok]

/-- The check is for an account of the kind that is stored. -/
theorem signInReply_step {call : Nat} {check : CodeCheck}
    (hcall : a.checks.waiting call = some check)
    (hscreen : a.otps[check.screen]? = some { iSForGotPassword := false })
    (hrole : a.defaults.loginType = some role) :
    machine.Step a (.signInReply call true) b ↔
      ∃ userID, Dict.int? check.getUserInfo role.idKey = some userID ∧
        { a with checks := a.checks.retire call }.verifyUserThroughWS check.screen
          { role := role, id := userID } = b := by
  simp only [Machine.Step, machine, react, hcall, hscreen, Option.bind_some, Option.map_some,
    signInReply, hrole, if_true, Bool.false_eq_true, if_false, Option.some.injEq, bind_eq_ok,
    forceInt_eq_ok, pure_eq_ok]

/-- From the press on: the request is for the account that is stored then. -/
theorem replay_press (htop : a.stack.head? = some (.verifyOTP j))
    (hscreen : a.otps[j]? = some { iSForGotPassword := false })
    (hrole : a.defaults.loginType = some role) (htext : 5 < Unicode.count verifyOTPTF.toList)
    (h : machine.replay (fun _ _ => true) a
      [.verifyButtonAction verifyOTPTF, .signInReply a.checks.issued true] = some b) :
    ∃ userID, HasProfile a.defaults role userID ∧
      b.verifyRequests = a.verifyRequests ++ [{ role := role, id := userID }] := by
  simp only [Machine.replay_cons, Machine.replay_nil, true_and] at h
  obtain ⟨c, hpress, d, hcheck, rfl⟩ := h
  obtain ⟨profile, hstored, rfl⟩ := (verifyButtonAction_step htop htext).mp hpress
  have hwaiting : (a.codeEntered j profile verifyOTPTF).checks.waiting a.checks.issued = some
      ⟨j, a.defaults.getValue .authVerificationID, verifyOTPTF, profile⟩ := by
    simp [codeEntered, Callbacks.waiting_issue]
  obtain ⟨userID, hid, rfl⟩ := (signInReply_step hwaiting hscreen hrole).mp hcheck
  exact ⟨userID, ⟨profile, hstored, hid⟩, rfl⟩

/-- And if an account of the right kind is stored, it is sent. -/
theorem exists_replay_press (htop : a.stack.head? = some (.verifyOTP j))
    (hscreen : a.otps[j]? = some { iSForGotPassword := false })
    (hrole : a.defaults.loginType = some role) (htext : 5 < Unicode.count verifyOTPTF.toList)
    (hprofile : HasProfile a.defaults role id) :
    Verifies a [.verifyButtonAction verifyOTPTF, .signInReply a.checks.issued true] role id := by
  obtain ⟨profile, hstored, hid⟩ := hprofile
  have hwaiting : (a.codeEntered j profile verifyOTPTF).checks.waiting a.checks.issued = some
      ⟨j, a.defaults.getValue .authVerificationID, verifyOTPTF, profile⟩ := by
    simp [codeEntered, Callbacks.waiting_issue]
  have hpress := (verifyButtonAction_step htop htext).mpr ⟨profile, hstored, rfl⟩
  have hcheck := (signInReply_step hwaiting hscreen hrole).mpr ⟨id, hid, rfl⟩
  exact ⟨_, Machine.replay_cons.mpr ⟨rfl, _, hpress,
    Machine.replay_cons.mpr ⟨rfl, _, hcheck, Machine.replay_nil.mpr rfl⟩⟩, rfl⟩

/-- **From the press on**, exactly. -/
theorem verifies_press (htop : a.stack.head? = some (.verifyOTP j))
    (hscreen : a.otps[j]? = some { iSForGotPassword := false })
    (hrole : a.defaults.loginType = some role) (htext : 5 < Unicode.count verifyOTPTF.toList) :
    Verifies a [.verifyButtonAction verifyOTPTF, .signInReply a.checks.issued true] role id ↔
      HasProfile a.defaults role id := by
  constructor
  · rintro ⟨b, hb, hsent⟩
    obtain ⟨userID, hprofile, hsent'⟩ := replay_press htop hscreen hrole htext hb
    rw [hsent'] at hsent
    have hid : userID = id := by simpa using hsent
    exact hid ▸ hprofile
  · exact exists_replay_press htop hscreen hrole htext

/-- An event that comes off if `p` holds, leads to `b` then, and sends nothing. -/
theorem verifies_cons {e : AccountEvent} {events : List AccountEvent} {p : Prop}
    (hstep : ∀ c, machine.Step a e c ↔ p ∧ b = c) (hsent : b.verifyRequests = a.verifyRequests) :
    Verifies a (e :: events) role id ↔ p ∧ Verifies b events role id := by
  unfold Verifies
  simp only [Machine.replay_cons, true_and, hstep, hsent]
  constructor
  · rintro ⟨d, ⟨_, ⟨hp, rfl⟩, hd⟩, hreq⟩
    exact ⟨hp, d, hd, hreq⟩
  · rintro ⟨hp, d, hd, hreq⟩
    exact ⟨d, ⟨_, ⟨hp, rfl⟩, hd⟩, hreq⟩

/-- **From the callback on.**  Whoever is stored is verified. -/
theorem verifies_codeEvents {s : EntryScreen} {phone : String} {call : Nat}
    (hcall : a.phoneCalls.waiting call = some { caller := .entry i, phone := phone })
    (hs : a.entries[i]? = some s) (hkind : s.kind ≠ .forgotPassword)
    (htop : a.stack.head? = some (.entry i)) (hrole : a.defaults.loginType = some role)
    (htext : 5 < Unicode.count verifyOTPTF.toList) :
    Verifies a [.verificationReply call (some verificationID), .verifyButtonAction verifyOTPTF,
      .signInReply a.checks.issued true] role id ↔ HasProfile a.defaults role id := by
  have hsent := @codeSent_eq a i verificationID call htop
  rw [verifies_cons (fun c => verificationReply_step hcall hs hkind) (by rw [hsent]), hsent,
    true_and]
  have hprofile : HasProfile (a.defaults.setValue .authVerificationID verificationID) role id ↔
      HasProfile a.defaults role id := by simp [HasProfile, UserDefaults.setValue]
  rw [← hprofile]
  refine verifies_press (j := a.otps.length) rfl List.getElem?_concat_length ?_ htext
  exact (loginType_set_of_ne _ _ (by decide)).trans hrole

/-! ## 3. The reply -/

/-- The call is answered, and the number verified. -/
def codeAsked (a : AccountApp) (call i : Nat) (phone : String) : AccountApp :=
  { a with
    submissions := a.submissions.retire call
    phoneCalls := a.phoneCalls.issue { caller := .entry i, phone := phone } }

/-- The reply is stored. -/
def accountStored (a : AccountApp) (response : Dict) : AccountApp :=
  { a with defaults := a.defaults.set .userProfileInfoDef (.dict response) }

/-- Once the code is asked for, whoever is stored is verified. -/
theorem verifies_codeAsked {s : EntryScreen} {call : Nat} {phone : String}
    (hs : a.entries[i]? = some s) (hkind : s.kind ≠ .forgotPassword)
    (htop : a.stack.head? = some (.entry i)) (hrole : a.defaults.loginType = some role)
    (htext : 5 < Unicode.count verifyOTPTF.toList) :
    Verifies (a.codeAsked call i phone) (a.codeEvents verificationID verifyOTPTF) role id ↔
      HasProfile a.defaults role id := by
  have hcallback : (a.codeAsked call i phone).phoneCalls.waiting a.phoneCalls.issued =
      some ⟨.entry i, phone⟩ := by
    simp [codeAsked, Callbacks.waiting_issue]
  exact verifies_codeEvents hcallback hs hkind htop hrole htext

/-- A sign-up stores its reply and asks for the code. -/
theorem signUpReply_step {s : EntryScreen} {call : Nat} {submission : Submission} {response : Dict}
    (hcall : a.submissions.waiting call = some submission)
    (hs : a.entries[submission.screen]? = some s) (hkind : s.kind = .signUp)
    (hsuccess : Dict.int? response "Success" = some successCode) :
    machine.Step a (.reply call (some response)) b ↔
      (Json.obj response).isPropertyList = true ∧
        (a.accountStored response).codeAsked call submission.screen s.phone = b := by
  have hint : forceInt response "Success" = .ok successCode := forceInt_eq_ok.mpr hsuccess
  simp only [Machine.Step, machine, react, hcall, hs, hkind, Option.bind_some, Option.map_some, reply,
    callingRegisterWS, storeAndVerify, storeProfile, verifyPhonenumberWithFirebase, codeAsked,
    accountStored, hint,
    Option.some.injEq, bind_eq_ok, pure_eq_ok, Except.ok.injEq, exists_eq_left', if_true,
    UserDefaults.setObject_eq_ok]
  constructor
  · rintro ⟨_, ⟨_, ⟨hlist, rfl⟩, rfl⟩, rfl⟩
    exact ⟨hlist, rfl⟩
  · rintro ⟨hlist, rfl⟩
    exact ⟨_, ⟨_, ⟨hlist, rfl⟩, rfl⟩, rfl⟩

/-- A sign-in that is not verified asks for the code, and stores nothing. -/
theorem notVerified_step {s : EntryScreen} {call : Nat} {submission : Submission} {response : Dict}
    (hcall : a.submissions.waiting call = some submission)
    (hs : a.entries[submission.screen]? = some s) (hkind : s.kind = .signIn)
    (hsuccess : Dict.int? response "Success" = some notVerifiedCode) :
    machine.Step a (.reply call (some response)) b ↔
      True ∧ a.codeAsked call submission.screen s.phone = b := by
  have hint : forceInt response "Success" = .ok notVerifiedCode := forceInt_eq_ok.mpr hsuccess
  have hne : notVerifiedCode ≠ successCode := by decide
  simp only [Machine.Step, machine, react, hcall, hs, hkind, Option.bind_some, Option.map_some, reply,
    callingLoginWS, verifyPhonenumberWithFirebase, codeAsked, hint, Option.some.injEq, bind_eq_ok,
    pure_eq_ok, Except.ok.injEq, exists_eq_left', if_neg hne, if_true, true_and]

/-- **Whose account is verified.**  In any state (with any profile stored, or none, and any other
screens and calls), a form on screen is answered for a new account, its code is sent, entered and
accepted.  The request goes out without a trap and for that account exactly if the account is
identified: always after a sign-up whose reply can be stored, and after a sign-in only if its
profile is stored already. -/
theorem verified_iff {s : EntryScreen} {call : Nat} {submission : Submission} {response : Dict}
    (hcall : a.submissions.waiting call = some submission)
    (hs : a.entries[submission.screen]? = some s)
    (htop : a.stack.head? = some (.entry submission.screen))
    (hrole : a.defaults.loginType = some role)
    (hreply : IsNewAccount s.kind role id response) (htext : 5 < Unicode.count verifyOTPTF.toList) :
    Verifies a (.reply call (some response) :: a.codeEvents verificationID verifyOTPTF) role id ↔
      Identified a s.kind role id response := by
  obtain ⟨⟨hkind, hsuccess⟩ | ⟨hkind, hsuccess⟩, haccount⟩ := hreply
  · have hform : s.kind ≠ .forgotPassword := by rw [hkind]; decide
    have hrole' : (a.accountStored response).defaults.loginType = some role :=
      (loginType_set_of_ne _ _ (by decide)).trans hrole
    have hstored : HasProfile (a.accountStored response).defaults role id :=
      ⟨response, UserDefaults.value_set_self _ _ _, haccount⟩
    rw [verifies_cons (fun c => signUpReply_step hcall hs hkind hsuccess) rfl]
    simp only [Identified, hkind]
    exact and_iff_left ((verifies_codeAsked (a := a.accountStored response)
      (i := submission.screen) hs hform htop hrole' htext).mpr hstored)
  · have hform : s.kind ≠ .forgotPassword := by rw [hkind]; decide
    rw [verifies_cons (fun c => notVerified_step hcall hs hkind hsuccess) rfl, true_and]
    simp only [Identified, hkind]
    exact verifies_codeAsked hs hform htop hrole htext

/-! ## 4. Two users of one device -/

/-- The reply about client `id`. -/
def accountReply (success id : Int) : Dict := [("Success", .ofInt success), ("ClientId", .ofInt id)]

/-- A form on screen that was sent, on a device with the defaults `u`. -/
def sampleForm (kind : EntryKind) (u : UserDefaults) : AccountApp where
  defaults := u.setValue .userLoginTypeInAppDef UserLoginType.clientApp.text
  stack := [.entry 0]
  entries := [{ kind := kind, mobileTF := "5551234567" }]
  submissions := ⟨[some { screen := 0, phone := "+15551234567", role := .clientApp }]⟩

/-- A new client signs up on a fresh device. -/
theorem verified_iff_signUp : Verifies (sampleForm .signUp .empty)
    (.reply 0 (some (accountReply 1 30)) ::
      (sampleForm .signUp .empty).codeEvents "verification" "123456") .clientApp 30 := by
  have hreply : IsNewAccount .signUp .clientApp 30 (accountReply 1 30) :=
    ⟨Or.inl ⟨rfl, by decide +kernel⟩, by decide +kernel⟩
  exact (verified_iff (s := { kind := .signUp, mobileTF := "5551234567" }) rfl rfl rfl
    (by decide +kernel) hreply (by decide)).mpr (by decide +kernel :
      (Json.obj (accountReply 1 30)).isPropertyList = true)

/-- Client 24 used the device before. -/
def usedDefaults : UserDefaults :=
  UserDefaults.empty.set .userProfileInfoDef (.dict (accountReply 1 24))

/-- Client 30 signs in, is not verified yet, and enters the right code: client 24 is verified. -/
theorem earlier_user_verified : ∃ (a : AccountApp) (submission : Submission) (s : EntryScreen),
    machine.Run { defaults := usedDefaults } a ∧
    a.submissions.waiting 0 = some submission ∧ a.entries[submission.screen]? = some s ∧
    a.stack.head? = some (.entry submission.screen) ∧ a.defaults.loginType = some .clientApp ∧
    IsNewAccount s.kind .clientApp 30 (accountReply 2 30) ∧
    ¬Verifies a (.reply 0 (some (accountReply 2 30)) :: a.codeEvents "verification" "123456")
      .clientApp 30 := by
  obtain ⟨a, hrun, htest⟩ := Machine.exists_run_of_replay machine (fun _ _ => true)
    { defaults := usedDefaults }
    [.clientProviderButtonAction .clientApp,
      .edit { countryTF := "+1", mobileTF := "5551234567", passwordTF := "12345678" }, .submit]
    (fun a => a.submissions.waiting 0 == some ⟨0, "+15551234567", .clientApp⟩ &&
      (a.entries.map EntryScreen.kind == [.signIn]) && a.stack.head? == some (.entry 0) &&
      a.defaults.loginType == some .clientApp &&
      (machine.replay (fun _ _ => true) a (.reply 0 (some (accountReply 2 30)) ::
        a.codeEvents "verification" "123456")).any fun b =>
          b.verifyRequests == a.verifyRequests ++ [{ role := .clientApp, id := 24 }])
    (fun _ _ _ => trivial) (by decide +kernel)
  simp only [Bool.and_eq_true, beq_iff_eq] at htest
  obtain ⟨⟨⟨⟨hcall, hentries⟩, htop⟩, hrole⟩, hsent⟩ := htest
  obtain ⟨s, hs, hkind⟩ := List.map_eq_singleton_iff.mp hentries
  refine ⟨a, _, s, hrun, hcall, by simp [hs], htop, hrole, ?_, ?_⟩
  · rw [hkind]
    exact ⟨Or.inr ⟨rfl, by decide +kernel⟩, by decide +kernel⟩
  · rintro ⟨b, hb, hreq⟩
    rw [hb] at hsent
    simp only [Option.any_some, beq_iff_eq, hreq, List.append_cancel_left_eq] at hsent
    exact absurd hsent (by decide)

end AccountApp

end WeatherAccommodation
