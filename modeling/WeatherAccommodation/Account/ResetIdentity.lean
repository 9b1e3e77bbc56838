/-
# Whose password is reset

The change-password screen sends the id of whatever profile is stored when `Done` is pressed.
The check that opened it used whatever verification id was stored when the code was entered.
Replies store the one, Firebase's callbacks the other, and with two submissions on their way each
of them is the last one's that came in.

The history says which phone number each verification id was issued to, what the server returned
for which number, whose reply was stored last, and which verification id opened each
change-password screen.  `isMatched` is the condition on a press of `Done`: the last reply that
was stored is the one for the number of that verification id.
-/
import WeatherAccommodation.Account.App

namespace WeatherAccommodation

open Foundation Reactive

/-! ## 1. The history -/

/-- A number, and the API it was submitted to. -/
structure Asked where
  phone : String
  role : UserLoginType
  deriving DecidableEq, Repr

structure ResetHistory where
  /-- Verification ids, with the number each was issued to. -/
  issued : List (String × String) := []
  /-- The replies to forgot-password submissions. -/
  returned : List (Asked × Dict) := []
  /-- Whose reply was stored last; `none` for that of a sign-in, sign-up or verification. -/
  stored : Option Asked := none
  /-- The verification id of the check that opened a change-password screen. -/
  openedBy : Nat → Option String := fun _ => none

namespace ResetHistory

/-- A form was answered with `Success`. -/
def answer (h : ResetHistory) (kind : EntryKind) (asked : Asked) (response : Dict) : ResetHistory :=
  match kind with
  | .forgotPassword => { h with returned := h.returned ++ [(asked, response)], stored := some asked }
  | _ => { h with stored := none }

end ResetHistory

namespace AccountApp

/-- The history variable. -/
def noteReset (h : ResetHistory) (a : AccountApp) (e : AccountEvent) (_ : AccountApp) :
    ResetHistory :=
  match e with
  | .reply call (some response) =>
    match a.submissions.waiting call with
    | some submission =>
      match a.entries[submission.screen]? with
      | some s =>
        if Dict.int? response "Success" = some successCode then
          h.answer s.kind { phone := submission.phone, role := submission.role } response
        else h
      | none => h
    | none => h
  | .verifyReply _ (some response) =>
    if Dict.int? response "Success" = some successCode then { h with stored := none } else h
  | .verificationReply call (some verificationID) =>
    match a.phoneCalls.waiting call with
    | some phoneCall => { h with issued := h.issued ++ [(verificationID, phoneCall.phone)] }
    | none => h
  | .signInReply call true =>
    match a.checks.waiting call with
    | some check =>
      if a.otps[check.screen]?.any VerifyOTP.iSForGotPassword then { h with
        openedBy := Function.update h.openedBy a.changes (some check.verificationID) }
      else h
    | none => h
  | _ => h

/-- The condition on a step. -/
def isMatched (x : AccountApp × ResetHistory) : AccountEvent → Bool
  | .doneButtonAction passwordTF =>
    match x.1.stack with
    | .changePassword k :: _ =>
      !RDGlobalFunction.checkPasswordHasSufficientComplexity passwordTF ||
        match x.2.openedBy k, x.2.stored with
        | some verificationID, some asked =>
          decide ((verificationID, asked.phone) ∈ x.2.issued) &&
            x.1.defaults.loginType == some asked.role
        | _, _ => false
    | _ => true
  | _ => true

/-- Every reset is for the account that the server returned for the number whose verification
opened the screen. -/
def ResetsOwn (x : AccountApp × ResetHistory) : Prop :=
  ∀ request ∈ x.1.resetRequests, ∃ verificationID phone response,
    x.2.openedBy request.screen = some verificationID ∧
    (verificationID, phone) ∈ x.2.issued ∧
    ({ phone := phone, role := request.role }, response) ∈ x.2.returned ∧
    Dict.int? response request.role.idKey = some request.id

/-! ## 2. What a step does to the profile -/

/-- Neither the stored profile nor the requests change. -/
structure Quiet (a b : AccountApp) : Prop where
  profile : b.defaults.value .userProfileInfoDef = a.defaults.value .userProfileInfoDef
  sent : b.resetRequests = a.resetRequests
  changes : a.changes ≤ b.changes

/-- The reply is stored. -/
structure Stores (a b : AccountApp) (response : Dict) : Prop where
  profile : b.defaults.value .userProfileInfoDef = some (.dict response)
  sent : b.resetRequests = a.resetRequests
  changes : a.changes ≤ b.changes

variable {a b c : AccountApp}

theorem Quiet.refl (a : AccountApp) : Quiet a a := ⟨rfl, rfl, Nat.le_refl _⟩

theorem Quiet.trans (h : Quiet a b) (h' : Quiet b c) : Quiet a c :=
  ⟨h'.profile.trans h.profile, h'.sent.trans h.sent, Nat.le_trans h.changes h'.changes⟩

theorem Stores.trans {response : Dict} (h : Stores a b response) (h' : Quiet b c) :
    Stores a c response :=
  ⟨h'.profile.trans h.profile, h'.sent.trans h.sent, Nat.le_trans h.changes h'.changes⟩

theorem Quiet.stores {response : Dict} (h : Quiet a b) (h' : Stores b c response) :
    Stores a c response :=
  ⟨h'.profile, h'.sent.trans h.sent, Nat.le_trans h.changes h'.changes⟩

theorem quiet_present (a : AccountApp) (presenting screen : AccountScreen) :
    Quiet a (a.present presenting screen) := by
  unfold present
  split
  · exact ⟨rfl, rfl, Nat.le_refl _⟩
  · exact Quiet.refl a

/-- Another key is written. -/
theorem quiet_set (a : AccountApp) {key : DefaultsKey} (v : Stored)
    (h : DefaultsKey.userProfileInfoDef ≠ key) :
    Quiet a { a with defaults := a.defaults.set key v } :=
  ⟨UserDefaults.value_set_of_ne _ _ h, rfl, Nat.le_refl _⟩

theorem quiet_activate (a : AccountApp) (presenting : AccountScreen) :
    Quiet a (a.activate presenting) :=
  (quiet_set a (.bool true) (by decide)).trans (quiet_present _ _ _)

theorem quiet_openVerifyOTPNumberScreen (a : AccountApp) (i : Nat) (forgot : Bool) :
    Quiet a (a.openVerifyOTPNumberScreen i forgot) := by
  simp only [openVerifyOTPNumberScreen]
  refine Quiet.trans ?_ (quiet_present _ _ _)
  exact ⟨rfl, rfl, Nat.le_refl _⟩

theorem quiet_presentEntry (a : AccountApp) (presenting : AccountScreen) (kind : EntryKind) :
    Quiet a (a.presentEntry presenting kind) := by
  simp only [presentEntry]
  refine Quiet.trans ?_ (quiet_present _ _ _)
  exact ⟨rfl, rfl, Nat.le_refl _⟩

theorem quiet_setVerificationID (a : AccountApp) (verificationID : String) :
    Quiet a (a.setVerificationID verificationID) := quiet_set a _ (by decide)

/-- A callback of Firebase writes the other key. -/
theorem quiet_formVerified (a : AccountApp) (i : Nat) (s : EntryScreen)
    (verificationID : Option String) : Quiet a (a.formVerified i s verificationID) := by
  cases verificationID with
  | none => exact Quiet.refl a
  | some verificationID =>
    refine (quiet_setVerificationID a verificationID).trans ?_
    simp only [formVerified]
    split
    · exact ⟨rfl, rfl, Nat.le_refl _⟩
    · exact quiet_openVerifyOTPNumberScreen _ _ _

theorem storeProfile_inv {response : Dict} (h : a.storeProfile response = .ok b) :
    Stores a b response := by
  simp only [storeProfile, bind_eq_ok, pure_eq_ok, UserDefaults.setObject_eq_ok] at h
  obtain ⟨_, ⟨_, rfl⟩, rfl⟩ := h
  exact ⟨UserDefaults.value_set_self _ _ _, rfl, Nat.le_refl _⟩

/-- A reply is stored exactly if it says `Success`. -/
def Answered (a b : AccountApp) (response : Dict) : Prop :=
  (Dict.int? response "Success" = some successCode ∧ Stores a b response) ∨
    (Dict.int? response "Success" ≠ some successCode ∧ Quiet a b)

theorem storeAndVerify_inv {i : Nat} {s : EntryScreen} {response : Dict}
    (h : a.storeAndVerify i s response = .ok b) : Answered a b response := by
  simp only [storeAndVerify, bind_eq_ok, forceInt_eq_ok] at h
  obtain ⟨success, hsuccess, h⟩ := h
  split at h
  · rename_i hyes
    simp only [bind_eq_ok, pure_eq_ok] at h
    obtain ⟨c, hc, rfl⟩ := h
    exact Or.inl ⟨hyes ▸ hsuccess, (storeProfile_inv hc).trans ⟨rfl, rfl, Nat.le_refl _⟩⟩
  · rename_i hno
    rw [pure_eq_ok] at h
    subst h
    refine Or.inr ⟨?_, Quiet.refl a⟩
    rw [hsuccess]
    exact fun heq => hno (Option.some.inj heq)

theorem continueProvider_inv {i : Nat} {response : Dict}
    (h : a.continueProvider i response = .ok b) : Quiet a b := by
  simp only [continueProvider, bind_eq_ok] at h
  obtain ⟨kyc, _, h⟩ := h
  split at h
  · rw [pure_eq_ok] at h
    exact h ▸ quiet_present _ _ _
  · simp only [bind_eq_ok] at h
    obtain ⟨kit, _, h⟩ := h
    split at h
    · rw [pure_eq_ok] at h
      exact h ▸ quiet_present _ _ _
    · simp only [bind_eq_ok] at h
      obtain ⟨status, _, h⟩ := h
      split at h
      · rw [pure_eq_ok] at h
        exact h ▸ quiet_activate _ _
      · rw [pure_eq_ok] at h
        exact h ▸ Quiet.refl a

theorem callingLoginWS_inv {i : Nat} {s : EntryScreen} {response : Dict}
    (h : a.callingLoginWS i s response = .ok b) : Answered a b response := by
  simp only [callingLoginWS, bind_eq_ok, forceInt_eq_ok] at h
  obtain ⟨success, hsuccess, h⟩ := h
  split at h
  · rename_i hyes
    simp only [bind_eq_ok] at h
    obtain ⟨c, hc, h⟩ := h
    refine Or.inl ⟨hyes ▸ hsuccess, (storeProfile_inv hc).trans ?_⟩
    split at h
    · rw [pure_eq_ok] at h
      exact h ▸ quiet_activate _ _
    · exact continueProvider_inv h
    · rw [pure_eq_ok] at h
      exact h ▸ Quiet.refl c
  · rename_i hno
    refine Or.inr ⟨by rw [hsuccess]; exact fun heq => hno (Option.some.inj heq), ?_⟩
    split at h
    · rw [pure_eq_ok] at h
      exact h ▸ ⟨rfl, rfl, Nat.le_refl _⟩
    · rw [pure_eq_ok] at h
      exact h ▸ Quiet.refl a

theorem verifyReply_inv {j : Nat} {response : Dict}
    (h : a.verifyReply j (some response) = .ok b) : Answered a b response := by
  simp only [verifyReply, bind_eq_ok, forceInt_eq_ok] at h
  obtain ⟨success, hsuccess, h⟩ := h
  split at h
  · rename_i hyes
    simp only [bind_eq_ok] at h
    obtain ⟨c, hc, h⟩ := h
    refine Or.inl ⟨hyes ▸ hsuccess, (storeProfile_inv hc).trans ?_⟩
    split at h
    · rw [pure_eq_ok] at h
      exact h ▸ quiet_activate _ _
    · rw [pure_eq_ok] at h
      exact h ▸ quiet_present _ _ _
    · rw [pure_eq_ok] at h
      exact h ▸ Quiet.refl c
  · rename_i hno
    rw [pure_eq_ok] at h
    subst h
    exact Or.inr ⟨by rw [hsuccess]; exact fun heq => hno (Option.some.inj heq), Quiet.refl a⟩

/-- A press of `Done` sends the id of the stored profile, or nothing. -/
theorem doneButtonAction_inv {k : Nat} {passwordTF : String}
    (h : a.doneButtonAction k passwordTF = .ok b) :
    Quiet a b ∨ ∃ role id profile,
      RDGlobalFunction.checkPasswordHasSufficientComplexity passwordTF = true ∧
      a.defaults.loginType = some role ∧
      a.defaults.value .userProfileInfoDef = some (.dict profile) ∧
      Dict.int? profile role.idKey = some id ∧
      b = { a with
        resetRequests := a.resetRequests ++
          [{ screen := k, role := role, id := id, password := passwordTF }]
        resetCalls := a.resetCalls.issue k } := by
  unfold doneButtonAction at h
  split at h
  · rename_i hcomplex
    simp only [bind_eq_ok, UserDefaults.getObject_eq_ok] at h
    obtain ⟨profile, hprofile, h⟩ := h
    split at h
    · rename_i role hrole
      simp only [bind_eq_ok, forceInt_eq_ok, pure_eq_ok] at h
      obtain ⟨id, hid, rfl⟩ := h
      exact Or.inr ⟨role, id, profile, hcomplex, hrole, hprofile, hid, rfl⟩
    · rw [pure_eq_ok] at h
      exact Or.inl (h ▸ Quiet.refl a)
  · rw [pure_eq_ok] at h
    exact Or.inl (h ▸ Quiet.refl a)

/-! ## 3. The invariant -/

/-- What is stored was returned, and what opened a screen opened one that exists. -/
structure Kept (x : AccountApp × ResetHistory) : Prop where
  own : ResetsOwn x
  stored : ∀ asked, x.2.stored = some asked → ∃ response,
    x.1.defaults.value .userProfileInfoDef = some (.dict response) ∧
    (asked, response) ∈ x.2.returned
  opened : ∀ k verificationID, x.2.openedBy k = some verificationID → k < x.1.changes

namespace Kept

variable {h h' : ResetHistory}

theorem start (defaults : UserDefaults) : Kept ({ defaults := defaults }, {}) where
  own := by simp [ResetsOwn]
  stored := by simp
  opened := by simp

/-- More is issued, and nothing else happens. -/
theorem quiet (hx : Kept (a, h)) (hab : Quiet a b) (hissued : h.issued ⊆ h'.issued)
    (hreturned : h'.returned = h.returned) (hstored : h'.stored = h.stored)
    (hopened : h'.openedBy = h.openedBy) : Kept (b, h') where
  own := by
    intro request hrequest
    simp only [hab.sent] at hrequest
    obtain ⟨verificationID, phone, response, h₁, h₂, h₃, h₄⟩ := hx.own request hrequest
    exact ⟨verificationID, phone, response, by rw [hopened]; exact h₁, hissued h₂,
      by rw [hreturned]; exact h₃, h₄⟩
  stored := by
    intro asked hasked
    simp only [hstored] at hasked
    obtain ⟨response, hprofile, hmem⟩ := hx.stored asked hasked
    exact ⟨response, hab.profile.trans hprofile, by rw [hreturned]; exact hmem⟩
  opened := by
    intro k verificationID hk
    simp only [hopened] at hk
    exact Nat.lt_of_lt_of_le (hx.opened k verificationID hk) hab.changes

theorem same (hx : Kept (a, h)) (hab : Quiet a b) : Kept (b, h) :=
  hx.quiet hab (List.Subset.refl _) rfl rfl rfl

/-- A reply is stored, of a forgot-password form or of another. -/
theorem answer (hx : Kept (a, h)) {response : Dict} (hab : Stores a b response)
    (kind : EntryKind) (asked : Asked) : Kept (b, h.answer kind asked response) := by
  have hown : ∀ request ∈ b.resetRequests, ∃ verificationID phone response',
      h.openedBy request.screen = some verificationID ∧ (verificationID, phone) ∈ h.issued ∧
      (⟨phone, request.role⟩, response') ∈ h.returned ∧
      Dict.int? response' request.role.idKey = some request.id := by
    rw [hab.sent]
    exact hx.own
  have hopened : ∀ k verificationID, h.openedBy k = some verificationID → k < b.changes :=
    fun k verificationID hk => Nat.lt_of_lt_of_le (hx.opened k verificationID hk) hab.changes
  have hcleared : Kept (b, { h with stored := none }) :=
    ⟨hown, fun _ hnone => absurd hnone (by simp), hopened⟩
  cases kind with
  | signIn => exact hcleared
  | signUp => exact hcleared
  | forgotPassword =>
    refine ⟨?_, ?_, hopened⟩
    · intro request hrequest
      obtain ⟨verificationID, phone, response', h₁, h₂, h₃, h₄⟩ := hown request hrequest
      exact ⟨verificationID, phone, response', h₁, h₂, List.mem_append_left _ h₃, h₄⟩
    · rintro _ ⟨⟩
      exact ⟨response, hab.profile, List.mem_append_right _ (List.mem_singleton.mpr rfl)⟩

/-- A check opens one more change-password screen. -/
theorem openScreen (hx : Kept (a, h)) (verificationID : String) (j : Nat) :
    Kept (a.openChangedPasswordScreen j,
      { h with openedBy := Function.update h.openedBy a.changes (some verificationID) }) := by
  have hquiet : Quiet { a with changes := a.changes + 1 } (a.openChangedPasswordScreen j) :=
    quiet_present _ _ _
  refine ⟨?_, ?_, ?_⟩
  · intro request hrequest
    simp only [hquiet.sent] at hrequest
    obtain ⟨v, phone, response, h₁, h₂, h₃, h₄⟩ := hx.own request hrequest
    have hlt : request.screen < a.changes := hx.opened _ _ h₁
    refine ⟨v, phone, response, ?_, h₂, h₃, h₄⟩
    simp only [Function.update_apply, if_neg (Nat.ne_of_lt hlt)]
    exact h₁
  · intro asked hasked
    obtain ⟨response, hprofile, hmem⟩ := hx.stored asked hasked
    exact ⟨response, hquiet.profile.trans hprofile, hmem⟩
  · intro k v hk
    have hchanges : a.changes + 1 ≤ (a.openChangedPasswordScreen j).changes := hquiet.changes
    simp only [Function.update_apply] at hk
    split at hk
    · rename_i hkeq
      simp only
      omega
    · have hlt : k < a.changes := hx.opened k v hk
      simp only
      omega

/-- A matched press of `Done` sends the account of the last reply. -/
theorem done (hx : Kept (a, h)) {k : Nat} {role : UserLoginType} {id : Int} {profile : Dict}
    {passwordTF verificationID : String} {asked : Asked}
    (hprofile : a.defaults.value .userProfileInfoDef = some (.dict profile))
    (hid : Dict.int? profile role.idKey = some id)
    (hopened : h.openedBy k = some verificationID) (hstored : h.stored = some asked)
    (hissued : (verificationID, asked.phone) ∈ h.issued) (hrole : asked.role = role) :
    Kept ({ a with
      resetRequests := a.resetRequests ++
        [{ screen := k, role := role, id := id, password := passwordTF }]
      resetCalls := a.resetCalls.issue k }, h) := by
  refine ⟨?_, hx.stored, hx.opened⟩
  intro request hrequest
  rcases List.mem_append.mp hrequest with hrequest | hrequest
  · exact hx.own request hrequest
  · obtain rfl := List.mem_singleton.mp hrequest
    obtain ⟨response, hprofile', hmem⟩ := hx.stored asked hstored
    rw [hprofile] at hprofile'
    obtain rfl : profile = response := by simpa using hprofile'
    subst hrole
    exact ⟨verificationID, asked.phone, profile, hopened, hissued, hmem, hid⟩

end Kept

/-! ## 4. Event by event -/

/-- What the event does, as far as the profile and the resets go. -/
def MoveOf (a b : AccountApp) : AccountEvent → Prop
  | .reply call (some response) => ∃ submission s, a.submissions.waiting call = some submission ∧
    a.entries[submission.screen]? = some s ∧ Answered a b response
  | .verifyReply _ (some response) => Answered a b response
  | .signInReply call true => ∃ check s, a.checks.waiting call = some check ∧
    a.otps[check.screen]? = some s ∧
    ((s.iSForGotPassword = true ∧
        b = { a with checks := a.checks.retire call }.openChangedPasswordScreen check.screen) ∨
      (s.iSForGotPassword = false ∧ Quiet a b))
  | .doneButtonAction passwordTF => ∃ k below, a.stack = .changePassword k :: below ∧
    a.doneButtonAction k passwordTF = .ok b
  | _ => Quiet a b

theorem Answered.of_quiet {response : Dict} (hab : Quiet a b) (h : Answered b c response) :
    Answered a c response := by
  rcases h with ⟨hyes, h⟩ | ⟨hno, h⟩
  · exact Or.inl ⟨hyes, hab.stores h⟩
  · exact Or.inr ⟨hno, hab.trans h⟩

theorem reply_inv {i : Nat} {s : EntryScreen} {response : Dict}
    (h : a.reply i s (some response) = .ok b) : Answered a b response := by
  unfold reply at h
  simp only at h
  split at h
  · exact callingLoginWS_inv h
  · exact storeAndVerify_inv h
  · exact storeAndVerify_inv h

/-- A code that is checked for sign-in or sign-up opens no change-password screen. -/
theorem signInReply_inv {s : VerifyOTP} {check : CodeCheck}
    (h : a.signInReply s check true = .ok b) :
    (s.iSForGotPassword = true ∧ b = a.openChangedPasswordScreen check.screen) ∨
      (s.iSForGotPassword = false ∧ Quiet a b) := by
  unfold signInReply at h
  simp only [if_true] at h
  split at h
  · rename_i hforgot
    rw [pure_eq_ok] at h
    exact Or.inl ⟨hforgot, h.symm⟩
  · rename_i hother
    refine Or.inr ⟨by simpa using hother, ?_⟩
    split at h
    · simp only [bind_eq_ok, pure_eq_ok] at h
      obtain ⟨_, _, rfl⟩ := h
      exact ⟨rfl, rfl, Nat.le_refl _⟩
    · rw [pure_eq_ok] at h
      exact h ▸ Quiet.refl a

/-- **The inversion lemma of the machine.** -/
theorem step_inv {e : AccountEvent} (h : machine.Step a e b) : MoveOf a b e := by
  have h' : react a e = some (.ok b) := h
  cases e with
  | clientProviderButtonAction role =>
    simp only [react] at h'
    split at h'
    · obtain rfl := Except.ok.inj (Option.some.inj h')
      exact ⟨UserDefaults.value_set_of_ne _ _ (by decide), rfl, Nat.le_refl _⟩
    · exact absurd h' (by simp)
  | forgotPasswordButtonAction =>
    simp only [react] at h'
    split at h'
    · obtain rfl := Except.ok.inj (Option.some.inj h')
      exact quiet_presentEntry _ _ _
    · exact absurd h' (by simp)
  | doNotHaveAnAccountButtonAction =>
    simp only [react] at h'
    split at h'
    · obtain rfl := Except.ok.inj (Option.some.inj h')
      exact quiet_presentEntry _ _ _
    · exact absurd h' (by simp)
  | backButtonAction =>
    obtain rfl := Except.ok.inj (Option.some.inj h')
    exact ⟨rfl, rfl, Nat.le_refl _⟩
  | goBackToMainViewController =>
    obtain rfl := Except.ok.inj (Option.some.inj h')
    exact ⟨rfl, rfl, Nat.le_refl _⟩
  | edit fields =>
    simp only [react] at h'
    split at h'
    · obtain ⟨s, _, h'⟩ := Option.map_eq_some_iff.mp h'
      obtain rfl := Except.ok.inj h'
      exact ⟨rfl, rfl, Nat.le_refl _⟩
    · exact absurd h' (by simp)
  | submit =>
    simp only [react] at h'
    split at h'
    · obtain ⟨s, _, h'⟩ := Option.map_eq_some_iff.mp h'
      obtain rfl := Except.ok.inj h'
      unfold submit
      split
      · exact ⟨rfl, rfl, Nat.le_refl _⟩
      · exact Quiet.refl a
    · exact absurd h' (by simp)
  | reply call response =>
    obtain ⟨submission, hcall, h'⟩ := Option.bind_eq_some_iff.mp h'
    obtain ⟨s, hs, h'⟩ := Option.map_eq_some_iff.mp h'
    have hretire : Quiet a { a with submissions := a.submissions.retire call } :=
      ⟨rfl, rfl, Nat.le_refl _⟩
    cases response with
    | none =>
      obtain rfl := Except.ok.inj h'
      exact hretire
    | some response => exact ⟨submission, s, hcall, hs, (reply_inv h').of_quiet hretire⟩
  | verificationReply call verificationID =>
    obtain ⟨phoneCall, hcall, h'⟩ := Option.bind_eq_some_iff.mp h'
    simp only at h'
    have hretire : Quiet a { a with phoneCalls := a.phoneCalls.retire call } :=
      ⟨rfl, rfl, Nat.le_refl _⟩
    split at h'
    · obtain ⟨s, _, h'⟩ := Option.map_eq_some_iff.mp h'
      obtain rfl := Except.ok.inj h'
      exact hretire.trans (quiet_formVerified _ _ _ _)
    · obtain ⟨s, _, h'⟩ := Option.map_eq_some_iff.mp h'
      obtain rfl := Except.ok.inj h'
      exact hretire.trans ((quiet_setVerificationID _ _).trans ⟨rfl, rfl, Nat.le_refl _⟩)
  | transition call =>
    obtain ⟨i, _, h'⟩ := Option.map_eq_some_iff.mp h'
    obtain rfl := Except.ok.inj h'
    have hretire : Quiet a { a with transitions := a.transitions.retire call } :=
      ⟨rfl, rfl, Nat.le_refl _⟩
    exact hretire.trans (quiet_openVerifyOTPNumberScreen _ _ _)
  | timerAction j =>
    obtain ⟨s, _, h'⟩ := Option.map_eq_some_iff.mp h'
    obtain rfl := Except.ok.inj h'
    exact ⟨rfl, rfl, Nat.le_refl _⟩
  | btnResendPressed =>
    simp only [react] at h'
    split at h'
    · obtain ⟨s, _, h'⟩ := Option.bind_eq_some_iff.mp h'
      split at h'
      · simp only [Option.some.injEq, btnResendPressed, bind_eq_ok, pure_eq_ok] at h'
        obtain ⟨_, _, _, _, rfl⟩ := h'
        exact ⟨rfl, rfl, Nat.le_refl _⟩
      · exact absurd h' (by simp)
    · exact absurd h' (by simp)
  | verifyButtonAction verifyOTPTF =>
    simp only [react] at h'
    split at h'
    · simp only [Option.some.injEq, verifyButtonAction] at h'
      split at h'
      · rw [pure_eq_ok] at h'
        exact h' ▸ Quiet.refl a
      · simp only [bind_eq_ok, pure_eq_ok] at h'
        obtain ⟨_, _, rfl⟩ := h'
        exact ⟨rfl, rfl, Nat.le_refl _⟩
    · exact absurd h' (by simp)
  | signInReply call success =>
    obtain ⟨check, hcall, h'⟩ := Option.bind_eq_some_iff.mp h'
    obtain ⟨s, hs, h'⟩ := Option.map_eq_some_iff.mp h'
    have hretire : Quiet a { a with checks := a.checks.retire call } :=
      ⟨rfl, rfl, Nat.le_refl _⟩
    cases success with
    | false =>
      obtain rfl := Except.ok.inj h'
      exact hretire
    | true =>
      refine ⟨check, s, hcall, hs, ?_⟩
      rcases signInReply_inv h' with ⟨hforgot, rfl⟩ | ⟨hother, hquiet⟩
      · exact Or.inl ⟨hforgot, rfl⟩
      · exact Or.inr ⟨hother, hretire.trans hquiet⟩
  | verifyReply call response =>
    obtain ⟨j, _, h'⟩ := Option.map_eq_some_iff.mp h'
    have hretire : Quiet a { a with verifyCalls := a.verifyCalls.retire call } :=
      ⟨rfl, rfl, Nat.le_refl _⟩
    cases response with
    | none =>
      obtain rfl := Except.ok.inj h'
      exact hretire
    | some response => exact (verifyReply_inv h').of_quiet hretire
  | doneButtonAction passwordTF =>
    simp only [react] at h'
    split at h'
    · rename_i k below hstack
      exact ⟨k, below, hstack, Option.some.inj h'⟩
    · exact absurd h' (by simp)
  | resetReply call response =>
    obtain ⟨k, _, h'⟩ := Option.map_eq_some_iff.mp h'
    have hretire : Quiet a { a with resetCalls := a.resetCalls.retire call } :=
      ⟨rfl, rfl, Nat.le_refl _⟩
    refine hretire.trans ?_
    cases response with
    | none =>
      obtain rfl := Except.ok.inj h'
      exact Quiet.refl _
    | some response =>
      simp only [resetReply, bind_eq_ok] at h'
      obtain ⟨_, _, h'⟩ := h'
      split at h'
      · rw [pure_eq_ok] at h'
        exact h' ▸ quiet_presentEntry _ _ _
      · rw [pure_eq_ok] at h'
        exact h' ▸ Quiet.refl _

/-- **One step of the app.** -/
theorem Kept.step {x y : AccountApp × ResetHistory} {e : AccountEvent} (hx : Kept x)
    (hcond : isMatched x e = true) (hstep : (machine.withHistory noteReset).Step x e y) :
    Kept y := by
  obtain ⟨a, h⟩ := x
  obtain ⟨b, h'⟩ := y
  obtain ⟨hab, hnote⟩ := Machine.withHistory_step.mp hstep
  obtain rfl : h' = noteReset h a e b := hnote
  have hmove : MoveOf a b e := step_inv hab
  cases e with
  | reply call response =>
    cases response with
    | none => exact hx.same hmove
    | some response =>
      obtain ⟨submission, s, hcall, hs, hanswered⟩ := hmove
      simp only [noteReset, hcall, hs]
      rcases hanswered with ⟨hyes, hstores⟩ | ⟨hno, hquiet⟩
      · rw [if_pos hyes]
        exact hx.answer hstores s.kind _
      · rw [if_neg hno]
        exact hx.same hquiet
  | verifyReply call response =>
    cases response with
    | none => exact hx.same hmove
    | some response =>
      simp only [noteReset]
      rcases hmove with ⟨hyes, hstores⟩ | ⟨hno, hquiet⟩
      · rw [if_pos hyes]
        exact hx.answer hstores .signIn { phone := "", role := .clientApp }
      · rw [if_neg hno]
        exact hx.same hquiet
  | verificationReply call verificationID =>
    cases verificationID with
    | none => exact hx.same hmove
    | some verificationID =>
      simp only [noteReset]
      split
      · exact hx.quiet hmove (List.subset_append_left _ _) rfl rfl rfl
      · exact hx.same hmove
  | signInReply call success =>
    cases success with
    | false => exact hx.same hmove
    | true =>
      obtain ⟨check, s, hcall, hs, hcase⟩ := hmove
      simp only [noteReset, hcall, hs, Option.any_some]
      rcases hcase with ⟨hforgot, rfl⟩ | ⟨hother, hquiet⟩
      · rw [if_pos hforgot]
        have hretired : Kept ({ a with checks := a.checks.retire call }, h) :=
          hx.same ⟨rfl, rfl, Nat.le_refl _⟩
        exact hretired.openScreen check.verificationID check.screen
      · rw [if_neg (by rw [hother]; decide)]
        exact hx.same hquiet
  | doneButtonAction passwordTF =>
    obtain ⟨k, below, hstack, hdone⟩ := hmove
    rcases doneButtonAction_inv hdone with
      hquiet | ⟨role, id, profile, hcomplex, hrole, hprofile, hid, rfl⟩
    · exact hx.same hquiet
    · simp only [isMatched, hstack, hcomplex, Bool.not_true, Bool.false_or] at hcond
      split at hcond
      · rename_i verificationID asked hopened hstored
        simp only [Bool.and_eq_true, decide_eq_true_eq, beq_iff_eq, hrole] at hcond
        exact hx.done hprofile hid hopened hstored hcond.1 (Option.some.inj hcond.2).symm
      · exact absurd hcond (by simp)
  | clientProviderButtonAction role => exact hx.same hmove
  | forgotPasswordButtonAction => exact hx.same hmove
  | doNotHaveAnAccountButtonAction => exact hx.same hmove
  | backButtonAction => exact hx.same hmove
  | goBackToMainViewController => exact hx.same hmove
  | edit fields => exact hx.same hmove
  | submit => exact hx.same hmove
  | transition call => exact hx.same hmove
  | timerAction j => exact hx.same hmove
  | btnResendPressed => exact hx.same hmove
  | verifyButtonAction verifyOTPTF => exact hx.same hmove
  | resetReply call response => exact hx.same hmove

/-! ## 5. The law -/

/-- **Nobody else's password.**  From a launch with any defaults, over any order of submissions,
replies, callbacks, codes, screens and presses whose presses of `Done` are matched. -/
theorem resets_own_account (defaults : UserDefaults) {x : AccountApp × ResetHistory}
    (hrun : (machine.withHistory noteReset).RunWhere (fun x e => isMatched x e = true)
      ({ defaults := defaults }, {}) x) : ResetsOwn x := by
  have hI : Kept x :=
    hrun.invariant (Kept.start defaults) fun _ _ _ hI hcond hstep => hI.step hcond hstep
  exact hI.own

/-! ## 6. Two numbers -/

/-- The forgot-password form, sent for a number. -/
def forgotEvents (mobileTF : String) : List AccountEvent :=
  [.edit { countryTF := "+1", mobileTF := mobileTF }, .submit]

/-- The account of a number, as the server returns it. -/
def accountFound (id : Int) : Option Dict :=
  some [("Success", .ofInt 1), ("ClientId", .ofInt id)]

/-- From the code to the new password. -/
def resetEvents : List AccountEvent :=
  [.transition 0, .verifyButtonAction "123456", .signInReply 0 true, .doneButtonAction "12345678"]

/-- One number: its account is reset. -/
theorem resets_own_account_once : ∃ x : AccountApp × ResetHistory,
    (machine.withHistory noteReset).RunWhere (fun x e => isMatched x e = true)
      ({ defaults := .empty }, {}) x ∧ x.1.resetRequests.length = 1 ∧ ResetsOwn x := by
  obtain ⟨x, hrun, htest⟩ := Machine.exists_run_of_replay (machine.withHistory noteReset)
    isMatched ({ defaults := .empty }, {})
    ([.clientProviderButtonAction .clientApp, .forgotPasswordButtonAction] ++
      forgotEvents "5551234567" ++
      [.reply 0 (accountFound 24), .verificationReply 0 (some "verification")] ++ resetEvents)
    (fun x => decide (x.1.resetRequests.length = 1)) (fun _ _ => id) (by decide +kernel)
  exact ⟨x, hrun, of_decide_eq_true htest, resets_own_account .empty hrun⟩

/-- Two numbers, one after the other from the same form: the first is verified after the reply to
the second is stored, and the second's account gets the new password. -/
theorem other_account_reset : ∃ x : AccountApp × ResetHistory,
    (machine.withHistory noteReset).Run ({ defaults := .empty }, {}) x ∧ ¬ResetsOwn x := by
  obtain ⟨x, hrun, htest⟩ := Machine.exists_run_of_replay (machine.withHistory noteReset)
    (fun _ _ => true) ({ defaults := .empty }, {})
    ([.clientProviderButtonAction .clientApp, .forgotPasswordButtonAction] ++
      forgotEvents "5551234567" ++ [.reply 0 (accountFound 24)] ++
      forgotEvents "5557654321" ++
      [.reply 1 (accountFound 30), .verificationReply 0 (some "verification")] ++ resetEvents)
    (fun x => x.1.resetRequests == [⟨0, .clientApp, 30, "12345678"⟩] &&
      x.2.openedBy 0 == some "verification" && x.2.issued == [("verification", "+15551234567")] &&
      x.2.returned.all fun returned =>
        returned.1.phone != "+15551234567" || Dict.int? returned.2 "ClientId" != some 30)
    (fun _ _ _ => trivial) (by decide +kernel)
  simp only [Bool.and_eq_true, beq_iff_eq] at htest
  obtain ⟨⟨⟨hsent, hopened⟩, hissued⟩, hreturned⟩ := htest
  refine ⟨x, hrun, fun hown => ?_⟩
  obtain ⟨verificationID, phone, response, h₁, h₂, h₃, h₄⟩ :=
    hown ⟨0, .clientApp, 30, "12345678"⟩ (by simp [hsent])
  obtain rfl : "verification" = verificationID := Option.some.inj (hopened.symm.trans h₁)
  obtain rfl : phone = "+15551234567" := by simpa [hissued] using h₂
  have htest := List.all_eq_true.mp hreturned _ h₃
  simp only [bne_self_eq_false, Bool.false_or, bne_iff_ne] at htest
  exact htest h₄

end AccountApp

end WeatherAccommodation
