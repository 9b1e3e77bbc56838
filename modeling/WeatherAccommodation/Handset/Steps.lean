/-
# What a step of the handset can be

Between the steps of the two sides there are those of the home screen and of the sign-in.  Whatever
they are called, they do one of a few things: a profile is stored, a dashboard is opened, or neither
side changes.
-/
import WeatherAccommodation.Handset.ClientSide
import WeatherAccommodation.Handset.Phones
import WeatherAccommodation.Handset.ProviderSide

namespace WeatherAccommodation

open Foundation Reactive

namespace Handset

variable {distance : CLLocation → CLLocation → ℚ} {h h' : Handset} {e : HandsetEvent}

/-- The profile that a reply stores. -/
def storedBy (reply : Dict) : Option Dict :=
  if Dict.int? reply "Success" = some successCode then some reply else none

/-- The profile that the event stores. -/
def storesProfile : HandsetEvent → Option Dict
  | .client e => ClientPhone.storesProfile e
  | .profileStored reply | .callingLoginWS reply | .verifyUserThroughWS reply
  | .providerProfile _ (some reply) => storedBy reply
  | _ => none

/-- The profile is replaced by `reply`. -/
def storeProfile (h : Handset) (reply : Dict) : Handset :=
  h.setDefaults (h.device.defaults.set .userProfileInfoDef (.dict reply))

theorem profile_storeProfile (h : Handset) (reply : Dict) :
    (h.storeProfile reply).device.profile = some (.dict reply) :=
  UserDefaults.value_set_self h.device.defaults .userProfileInfoDef (.dict reply)

/-- Both sides are as before, and no call of a home screen is new. -/
structure Waits (h h' : Handset) : Prop where
  provider : h'.provider = h.provider
  client : h'.client = h.client
  calls : ∀ call role, h'.homeCalls.waiting call = some role → h.homeCalls.waiting call = some role

/-- A step, by what it does. -/
inductive Move (distance : CLLocation → CLLocation → ℚ) (h h' : Handset) : HandsetEvent → Prop where
  | provider {e : PhoneEvent} {p : ProviderPhone} (entry : ProviderPhone.isEntry e = false)
      (step : (ProviderPhone.machine distance).Step h.provider e p)
      (after : h' = h.putProvider p) : Move distance h h' (.provider e)
  | client {e : ClientPhoneEvent} {c : ClientPhone} (entry : ClientPhone.isEntry e = false)
      (step : (ClientPhone.machine distance).Step h.client e c)
      (after : h' = h.putClient c) : Move distance h h' (.client e)
  | chosen (role : UserLoginType) (signedOut : h.isSignedOut = true)
      (after : h' = h.setDefaults (h.device.defaults.setValue .userLoginTypeInAppDef role.text)) :
      Move distance h h' (.clientProviderButtonAction role)
  | waits {e : HandsetEvent} (waits : Waits h h') : Move distance h h' e
  | stored {e : HandsetEvent} {reply : Dict} {k : Handset} (stores : storesProfile e = some reply)
      (waits : Waits h k) (after : h' = k.storeProfile reply) : Move distance h h' e
  | activated {e : HandsetEvent} {reply : Dict} {role : UserLoginType}
      (event : e = .callingLoginWS reply ∨ e = .verifyUserThroughWS reply ∧ role = .clientApp)
      (signedOut : h.isSignedOut = true) (success : Dict.int? reply "Success" = some successCode)
      (after : (h.storeProfile reply).activate role = .ok h') : Move distance h h' e
  | asked (role : UserLoginType) (signedOut : h.isSignedOut = true)
      (flag : h.device.defaults.isUserActivated = true)
      (after : h' = { h with homeCalls := h.homeCalls.issue role }) : Move distance h h' .homeLoads
  | opened {call : Nat} {role : UserLoginType} (waiting : h.homeCalls.waiting call = some role)
      (signedOut : h.isSignedOut = true)
      (after : { h with homeCalls := h.homeCalls.retire call }.openDashboard role = .ok h') :
      Move distance h h' (.checkTripExistStatus call)
  | refused (signedIn : h.client.app.onMain = false) (after : h' = h.refused) :
      Move distance h h' .refused

/-- A reply that is stored, or is no success. -/
theorem onSuccess_inv {reply : Dict} {andThen : Handset → Except Trap Handset}
    (hok : h.onSuccess reply andThen = .ok h') :
    h' = h ∨ (Dict.int? reply "Success" = some successCode ∧
      andThen (h.storeProfile reply) = .ok h') := by
  simp only [onSuccess, bind_eq_ok, forceInt_eq_ok] at hok
  obtain ⟨success, hs, hok⟩ := hok
  split at hok
  · rename_i hcode
    simp only [bind_eq_ok, UserDefaults.setObject_eq_ok] at hok
    obtain ⟨defaults, ⟨_, rfl⟩, hok⟩ := hok
    exact Or.inr ⟨by rw [hs, hcode], hok⟩
  · rw [pure_eq_ok] at hok
    exact Or.inl hok.symm

/-- A provider who is signed in goes on to the dashboard, or nowhere. -/
theorem continueProvider_inv {reply : Dict} (hok : h.continueProvider reply = .ok h') :
    h' = h ∨ h.activate .providerApp = .ok h' := by
  simp only [continueProvider, bind_eq_ok] at hok
  obtain ⟨kyc, _, hok⟩ := hok
  split at hok
  · exact Or.inl (pure_eq_ok.mp hok).symm
  · simp only [bind_eq_ok] at hok
    obtain ⟨kit, _, hok⟩ := hok
    split at hok
    · exact Or.inl (pure_eq_ok.mp hok).symm
    · simp only [bind_eq_ok] at hok
      obtain ⟨status, _, hok⟩ := hok
      split at hok
      · exact Or.inr hok
      · exact Or.inl (pure_eq_ok.mp hok).symm

theorem Waits.refl (h : Handset) : Waits h h := ⟨rfl, rfl, fun _ _ => id⟩

/-- A call is answered. -/
theorem Waits.retire (h : Handset) (call : Nat) :
    Waits h { h with homeCalls := h.homeCalls.retire call } := by
  refine ⟨rfl, rfl, fun other role hother => ?_⟩
  rw [Callbacks.waiting_retire] at hother
  split at hother
  · exact absurd hother (by simp)
  · exact hother

/-- A profile that is stored, with nothing else done. -/
theorem Move.ofStored {reply : Dict} {k : Handset} (hwaits : Waits h k)
    (hstores : storesProfile e = storedBy reply) (hok : k.onSuccess reply pure = .ok h') :
    Move distance h h' e := by
  rcases onSuccess_inv hok with rfl | ⟨hsuccess, hafter⟩
  · exact .waits hwaits
  · refine .stored ?_ hwaits (pure_eq_ok.mp hafter).symm
    rw [hstores, storedBy, if_pos hsuccess]

/-- **Every step of the handset is one of these.** -/
theorem step_move (hstep : (machine distance).Step h e h') : Move distance h h' e := by
  have hreact : react distance h e = some (.ok h') := hstep
  cases e with
  | provider e =>
    simp only [react] at hreact
    split at hreact
    · exact absurd hreact (by simp)
    · rename_i hentry
      obtain ⟨p, hp, rfl⟩ := handled_eq_ok.mp hreact
      exact .provider (by simpa using hentry) hp rfl
  | client e =>
    simp only [react] at hreact
    split at hreact
    · exact absurd hreact (by simp)
    · rename_i hentry
      obtain ⟨c, hc, rfl⟩ := handled_eq_ok.mp hreact
      exact .client (by simpa using hentry) hc rfl
  | clientProviderButtonAction role =>
    simp only [react] at hreact
    split at hreact
    · rename_i hout
      exact .chosen role hout.1 (Except.ok.inj (Option.some.inj hreact)).symm
    · exact absurd hreact (by simp)
  | profileStored reply => exact .ofStored (.refl h) rfl (Option.some.inj hreact)
  | callingLoginWS reply =>
    simp only [react] at hreact
    split at hreact
    · rename_i hout
      rcases onSuccess_inv (Option.some.inj hreact) with rfl | ⟨hsuccess, hafter⟩
      · exact .waits (.refl h')
      · have hkept : h' = h.storeProfile reply → Move distance h h' (.callingLoginWS reply) :=
          fun hsame => .stored (by simp [storesProfile, storedBy, hsuccess]) (.refl h) hsame
        split at hafter
        · exact .activated (Or.inl rfl) hout hsuccess hafter
        · rcases continueProvider_inv hafter with hsame | hactivate
          · exact hkept hsame
          · exact .activated (Or.inl rfl) hout hsuccess hactivate
        · exact hkept (pure_eq_ok.mp hafter).symm
    · exact absurd hreact (by simp)
  | verifyUserThroughWS reply =>
    simp only [react] at hreact
    split at hreact
    · rename_i hout
      rcases onSuccess_inv (Option.some.inj hreact) with rfl | ⟨hsuccess, hafter⟩
      · exact .waits (.refl h')
      · split at hafter
        · exact .activated (Or.inr ⟨rfl, rfl⟩) hout hsuccess hafter
        · exact .stored (by simp [storesProfile, storedBy, hsuccess]) (.refl h)
            (pure_eq_ok.mp hafter).symm
    · exact absurd hreact (by simp)
  | homeLoads =>
    simp only [react] at hreact
    split at hreact
    · rename_i hout
      have hok := Option.some.inj hreact
      unfold Handset.homeLoads at hok
      split at hok
      · simp only [bind_eq_ok, pure_eq_ok] at hok
        obtain ⟨_, _, rfl⟩ := hok
        exact .asked _ hout.1 hout.2 rfl
      · obtain rfl := pure_eq_ok.mp hok
        exact .waits (.refl h)
    · exact absurd hreact (by simp)
  | checkTripExistStatus call =>
    simp only [react, Option.map_eq_some_iff] at hreact
    obtain ⟨role, hrole, hok⟩ := hreact
    unfold Handset.checkTripExistStatus at hok
    split at hok
    · rename_i hout
      exact .opened hrole hout hok
    · obtain rfl := pure_eq_ok.mp hok
      exact .waits (.retire h call)
  | providerProfile call reply =>
    simp only [react, Option.map_eq_some_iff] at hreact
    obtain ⟨_, _, hok⟩ := hreact
    have hwaits : Waits h { h with profileCalls := h.profileCalls.retire call } :=
      ⟨rfl, rfl, fun _ _ => id⟩
    cases reply with
    | none =>
      obtain rfl := Except.ok.inj hok
      exact .waits hwaits
    | some reply => exact .ofStored hwaits rfl hok
  | refused =>
    simp only [react] at hreact
    split at hreact
    · exact absurd hreact (by simp)
    · rename_i hmain
      exact .refused (by simpa using hmain) (Except.ok.inj (Option.some.inj hreact)).symm

end Handset

end WeatherAccommodation
