/-
# A forced logout

On the status codes 400 to 405 an alert says that the account has been logged out, and once it is
confirmed `goBackToMainViewController` brings the home screen.  Unlike the logout of the menus that
does not take down `iSUerActivated`, the flag the home screen goes by: it asks for the trip of the
account that was logged out, and presents its dashboard on any answer, now or after a relaunch
(`logged_out_account_returns`).

The flag is up while somebody is signed in.  So the logout holds where it was confirmed with the flag
down, on the screens before a sign-in, and no answer for a home screen was on its way
(`stays_logged_out`).
-/
import WeatherAccommodation.ClientProviderAPIManager
import WeatherAccommodation.Handset.Isolation

namespace WeatherAccommodation

open Foundation Reactive

/-! ## 1. Failures, confirmations and launches -/

/-- The handset, and how many alerts say that the account has been logged out. -/
structure Life where
  handset : Handset
  alerts : Nat := 0

inductive LifeEvent where
  | handset (e : HandsetEvent)
  | failure (responseCode : Option Int)
  | confirm
  | relaunch

namespace Handset

def clientGoesBack (h : Handset) : Handset := if h.client.app.onMain then h else h.refused

def providerGoesBack (h : Handset) : Handset :=
  if h.provider.home.isSome then h.putProvider h.provider.goBackToMainViewController else h

/-- `goBackToMainViewController` of whichever side is signed in, with the flag as it was. -/
def goBackToMain (h : Handset) : Handset := h.clientGoesBack.providerGoesBack

end Handset

namespace Life

/-- The handset's own way back without a logout is what a confirmation does. -/
def isGoingBack : HandsetEvent → Bool
  | .refused | .provider .goBackToMainViewController => true
  | _ => false

def announce (life : Life) (responseCode : Option Int) : Life :=
  if ClientProviderAPIManager.isLoggedOut responseCode then
    { life with alerts := life.alerts + 1 }
  else life

/-- What each event does, and when it can happen. -/
def react (distance : CLLocation → CLLocation → ℚ) (life : Life) :
    LifeEvent → Option (Except Trap Life)
  | .handset e =>
    if isGoingBack e then none
    else (life.handset.react distance e).map fun r => r.map fun h => { life with handset := h }
  | .failure responseCode => some (.ok (life.announce responseCode))
  | .confirm =>
    if life.alerts = 0 then none
    else some (.ok { handset := life.handset.goBackToMain, alerts := life.alerts - 1 })
  | .relaunch => some (.ok { handset := .launch life.handset.device.defaults })

def machine (distance : CLLocation → CLLocation → ℚ) : Machine Life LifeEvent Trap where
  react := react distance

/-! ## 2. The law, and the condition -/

/-- A sign-in or a verification that is successful. -/
def signsIn : LifeEvent → Bool
  | .handset (.callingLoginWS reply) | .handset (.verifyUserThroughWS reply) =>
    Dict.int? reply "Success" == some successCode
  | _ => false

/-- A logout was confirmed, and nobody has signed in since. -/
def noteLogout (loggedOut : Bool) (_ : Life) (e : LifeEvent) (_ : Life) : Bool :=
  match e with
  | .confirm => true
  | e => loggedOut && !signsIn e

def recorded (distance : CLLocation → CLLocation → ℚ) : Machine (Life × Bool) LifeEvent Trap :=
  (machine distance).withHistory noteLogout

/-- After a forced logout no dashboard is shown, on either side. -/
def StaysLoggedOut (x : Life × Bool) : Prop := x.2 = true → x.1.handset.isSignedOut = true

/-- The home screen has nothing to go by, and awaits no answer. -/
def isForgotten (h : Handset) : Bool :=
  !h.device.defaults.isUserActivated && h.homeCalls.slots.all Option.isNone

/-- The condition on a step: a logout is confirmed only where the account is forgotten already. -/
def confirmsForgotten (x : Life × Bool) : LifeEvent → Bool
  | .confirm => isForgotten x.1.handset
  | _ => true

/-! ## 3. A handset that nobody is signed in on -/

/-- Nobody is signed in, and the next sign-in is up to the user. -/
structure Vacant (h : Handset) : Prop where
  home : h.provider.home = none
  onMain : h.client.app.onMain = true
  flag : h.device.defaults.isUserActivated = false
  calls : ∀ call, h.homeCalls.waiting call = none

end Life

theorem UserDefaults.isUserActivated_congr {u v : UserDefaults}
    (h : u.value .iSUerActivated = v.value .iSUerActivated) :
    u.isUserActivated = v.isUserActivated := by
  simp [isUserActivated, h]

/-- A flag that is down stays down, unless it is put up. -/
theorem Leaves.flag_down {u v : UserDefaults} {reply : Option Dict}
    (h : Leaves (u.value .iSUerActivated) (v.value .iSUerActivated) reply .iSUerActivated)
    (hdown : u.isUserActivated = false) : v.isUserActivated = false := by
  cases h with
  | same hsame => rw [UserDefaults.isUserActivated_congr hsame, hdown]
  | lowered hafter => simp [UserDefaults.isUserActivated, hafter]

namespace Life

variable {distance : CLLocation → CLLocation → ℚ} {h h' : Handset}

theorem calls_of_isForgotten (hforgotten : isForgotten h = true) (call : Nat) :
    h.homeCalls.waiting call = none := by
  simp only [isForgotten, Bool.and_eq_true, List.all_eq_true] at hforgotten
  unfold Callbacks.waiting
  cases hslot : h.homeCalls.slots[call]? with
  | none => rfl
  | some slot =>
    have hnone := hforgotten.2 slot (List.mem_of_getElem? hslot)
    simpa using hnone

namespace Vacant

theorem isSignedOut (hx : Vacant h) : h.isSignedOut = true := by
  simp [Handset.isSignedOut, hx.home, hx.onMain]

theorem launched {defaults : UserDefaults} (hdown : defaults.isUserActivated = false) :
    Vacant (.launch defaults) where
  home := rfl
  onMain := rfl
  flag := hdown
  calls := by simp [Handset.launch]

/-- Other defaults, with the flag down. -/
theorem setDefaults (hx : Vacant h) {defaults : UserDefaults}
    (hdown : defaults.isUserActivated = false) : Vacant (h.setDefaults defaults) where
  home := hx.home
  onMain := hx.onMain
  flag := hdown
  calls := hx.calls

/-- The provider's side moves on. -/
theorem ofProvider (hx : Vacant h) {e : PhoneEvent} {p : ProviderPhone}
    (hentry : ProviderPhone.isEntry e = false)
    (hstep : (ProviderPhone.machine distance).Step h.provider e p) : Vacant (h.putProvider p) where
  home := by
    by_contra hsome
    obtain ⟨i, hi⟩ := Option.ne_none_iff_exists'.mp hsome
    rcases ProviderPhone.home_before (ProviderPhone.step_screens hstep) hi with
      hbefore | ⟨rfl, _⟩
    · exact absurd (hx.home.symm.trans hbefore) (by simp)
    · exact absurd hentry (by simp [ProviderPhone.isEntry])
  onMain := hx.onMain
  flag := Leaves.flag_down (ProviderPhone.step_value .iSUerActivated hstep hentry) hx.flag
  calls := hx.calls

/-- The client's side moves on. -/
theorem ofClient (hx : Vacant h) (hdevice : h.client.app.device = h.device) {e : ClientPhoneEvent}
    {c : ClientPhone} (hentry : ClientPhone.isEntry e = false)
    (hstep : (ClientPhone.machine distance).Step h.client e c) : Vacant (h.putClient c) where
  home := hx.home
  onMain := by
    have hkeeps : ∀ ev, e = .app ev → ClientApp.makesDashboard ev = false ∧ ev ≠ .logout := by
      rintro ev rfl
      refine ⟨ClientPhone.makesDashboard_of_isEntry hentry, ?_⟩
      rintro rfl
      obtain ⟨_, _, hb, _⟩ := ClientPhone.step_inv hstep
      obtain ⟨hmain, _⟩ := ClientApp.step_inv hb
      exact absurd (hx.onMain.symm.trans hmain) (by simp)
    exact (ClientPhone.step_screens hstep hkeeps).onMain.trans hx.onMain
  flag := by
    have hleaves := ClientPhone.step_value (by decide : DefaultsKey.iSUerActivated.isOfAccount = true)
      hstep hentry
    rw [hdevice] at hleaves
    exact hleaves.flag_down hx.flag
  calls := hx.calls

/-- Neither side changes. -/
theorem waits (hx : Vacant h) (hwaits : Handset.Waits h h') : Vacant h' where
  home := by rw [hwaits.provider, hx.home]
  onMain := by rw [hwaits.client, hx.onMain]
  flag := by
    have hdevice : h'.device = h.device := congrArg (fun p => p.app.device) hwaits.provider
    rw [hdevice, hx.flag]
  calls := by
    intro call
    by_contra hsome
    obtain ⟨role, hrole⟩ := Option.ne_none_iff_exists'.mp hsome
    exact absurd ((hx.calls call).symm.trans (hwaits.calls call role hrole)) (by simp)

theorem storeProfile (hx : Vacant h) (reply : Dict) : Vacant (h.storeProfile reply) := by
  refine hx.setDefaults ?_
  rw [← hx.flag]
  exact UserDefaults.isUserActivated_congr (UserDefaults.value_set_of_ne _ _ (by decide))

/-- **Without a sign-in nobody gets in.** -/
theorem step (hx : Vacant h) (hdevice : h.client.app.device = h.device) {e : HandsetEvent}
    (hsigns : signsIn (.handset e) = false) (hstep : (Handset.machine distance).Step h e h') :
    Vacant h' := by
  cases Handset.step_move hstep with
  | provider entry step after =>
    subst after
    exact hx.ofProvider entry step
  | client entry step after =>
    subst after
    exact hx.ofClient hdevice entry step
  | chosen role _ after =>
    subst after
    refine hx.setDefaults ?_
    rw [← hx.flag]
    exact UserDefaults.isUserActivated_congr (UserDefaults.value_set_of_ne _ _ (by decide))
  | waits hwaits => exact hx.waits hwaits
  | stored _ hwaits after =>
    subst after
    exact (hx.waits hwaits).storeProfile _
  | activated event _ success _ =>
    rcases event with rfl | ⟨rfl, _⟩
    · exact absurd hsigns (by simp [signsIn, success])
    · exact absurd hsigns (by simp [signsIn, success])
  | asked role _ flag _ => exact absurd (hx.flag.symm.trans flag) (by simp)
  | opened waiting _ _ => exact absurd ((hx.calls _).symm.trans waiting) (by simp)
  | refused signedIn _ => exact absurd (hx.onMain.symm.trans signedIn) (by simp)

end Vacant

/-! ## 4. One device -/

/-- The two sides see one device. -/
def SharesDevice (h : Handset) : Prop := h.client.app.device = h.device

theorem sharesDevice_openDashboard {role : UserLoginType} (hok : h.openDashboard role = .ok h') :
    SharesDevice h' := by
  cases role with
  | providerApp =>
    simp only [Handset.openDashboard, Handset.openProviderDashboard, bind_eq_ok, pure_eq_ok] at hok
    obtain ⟨_, _, _, _, rfl⟩ := hok
    rfl
  | clientApp =>
    simp only [Handset.openDashboard, Handset.openClientDashboard, bind_eq_ok, pure_eq_ok] at hok
    obtain ⟨_, _, rfl⟩ := hok
    rfl

theorem sharesDevice_waits (hshares : SharesDevice h) (hwaits : Handset.Waits h h') :
    SharesDevice h' := by
  have hdevice : h'.device = h.device := congrArg (fun p => p.app.device) hwaits.provider
  rw [SharesDevice, hwaits.client, hdevice]
  exact hshares

theorem sharesDevice_step {e : HandsetEvent} (hshares : SharesDevice h)
    (hstep : (Handset.machine distance).Step h e h') : SharesDevice h' := by
  cases Handset.step_move hstep with
  | provider _ _ after | client _ _ after | chosen _ _ after | stored _ _ after | refused _ after =>
    subst after
    rfl
  | waits hwaits => exact sharesDevice_waits hshares hwaits
  | asked _ _ _ after =>
    subst after
    exact hshares
  | activated _ _ _ after => exact sharesDevice_openDashboard after
  | opened _ _ after => exact sharesDevice_openDashboard after

theorem clientGoesBack_eq (hshares : SharesDevice h) :
    h.clientGoesBack.client.app.onMain = true ∧ h.clientGoesBack.device = h.device ∧
      h.clientGoesBack.homeCalls = h.homeCalls ∧ SharesDevice h.clientGoesBack := by
  unfold Handset.clientGoesBack
  split
  · rename_i hmain
    exact ⟨hmain, rfl, rfl, hshares⟩
  · exact ⟨rfl, hshares, rfl, rfl⟩

/-- Whoever is signed in goes back; what is stored stays. -/
theorem goBackToMain_vacant (hshares : SharesDevice h) (hforgotten : isForgotten h = true) :
    Vacant h.goBackToMain ∧ SharesDevice h.goBackToMain := by
  have hcalls := calls_of_isForgotten hforgotten
  have hflag : h.device.defaults.isUserActivated = false := by
    simp only [isForgotten, Bool.and_eq_true] at hforgotten
    simpa using hforgotten.1
  obtain ⟨hmain, hdevice, hhome, hshares'⟩ := clientGoesBack_eq hshares
  rw [← hdevice] at hflag
  rw [← hhome] at hcalls
  unfold Handset.goBackToMain Handset.providerGoesBack
  split
  · exact ⟨⟨rfl, hmain, hflag, hcalls⟩, rfl⟩
  · rename_i hnobody
    exact ⟨⟨by simpa using hnobody, hmain, hflag, hcalls⟩, hshares'⟩

/-! ## 5. The law over a run -/

/-- Once a logout was confirmed, nobody gets in but by a sign-in. -/
structure Gone (x : Life × Bool) : Prop where
  shares : SharesDevice x.1.handset
  vacant : x.2 = true → Vacant x.1.handset

theorem Gone.step {x y : Life × Bool} {e : LifeEvent} (hx : Gone x)
    (hcond : confirmsForgotten x e = true) (hstep : (recorded distance).Step x e y) : Gone y := by
  obtain ⟨hmoves, hnote⟩ := Machine.withHistory_step.mp hstep
  obtain ⟨life, loggedOut⟩ := x
  obtain ⟨life', loggedOut'⟩ := y
  obtain rfl : loggedOut' = noteLogout loggedOut life e life' := hnote
  have hreact : react distance life e = some (.ok life') := hmoves
  cases e with
  | handset e =>
    simp only [react] at hreact
    split at hreact
    · exact absurd hreact (by simp)
    · obtain ⟨h, hr, rfl⟩ := handled_eq_ok.mp hreact
      refine ⟨sharesDevice_step hx.shares hr, fun hout => ?_⟩
      obtain ⟨hbefore, hsigns⟩ : loggedOut = true ∧ signsIn (.handset e) = false := by
        simpa [noteLogout] using hout
      exact (hx.vacant hbefore).step hx.shares hsigns hr
  | failure responseCode =>
    obtain rfl := (Except.ok.inj (Option.some.inj hreact)).symm
    have hsame : (life.announce responseCode).handset = life.handset := by
      unfold announce
      split
      · rfl
      · rfl
    refine ⟨hsame ▸ hx.shares, fun hout => ?_⟩
    have hbefore : loggedOut = true := by simpa [noteLogout, signsIn] using hout
    exact hsame ▸ hx.vacant hbefore
  | confirm =>
    simp only [react] at hreact
    split at hreact
    · exact absurd hreact (by simp)
    · obtain rfl := (Except.ok.inj (Option.some.inj hreact)).symm
      obtain ⟨hvacant, hshares⟩ := goBackToMain_vacant hx.shares hcond
      exact ⟨hshares, fun _ => hvacant⟩
  | relaunch =>
    obtain rfl := (Except.ok.inj (Option.some.inj hreact)).symm
    refine ⟨rfl, fun hout => ?_⟩
    have hbefore : loggedOut = true := by simpa [noteLogout, signsIn] using hout
    exact .launched (hx.vacant hbefore).flag

/-- **A forced logout holds**, if it is confirmed where the account is forgotten already. -/
theorem stays_logged_out {distance : CLLocation → CLLocation → ℚ} (defaults : UserDefaults)
    {x : Life × Bool}
    (hrun : (recorded distance).RunWhere (fun x e => confirmsForgotten x e = true)
      ({ handset := .launch defaults }, false) x) : StaysLoggedOut x := by
  have hx : Gone x := by
    refine hrun.invariant (I := Gone) ⟨rfl, by simp⟩ ?_
    intro a e b ha hcond hstep
    exact ha.step hcond hstep
  exact fun hout => (hx.vacant hout).isSignedOut

/-- Provider 16 logs out, is refused at the next sign-in, and confirms; the app is launched again. -/
theorem stays_logged_out_at_sign_in : ∃ x : Life × Bool,
    x.2 = true ∧ x.1.handset.provider.app.dashboards = [] ∧ StaysLoggedOut x := by
  obtain ⟨x, hrun, htest⟩ := Machine.exists_run_of_replay (recorded fun _ _ => 0) confirmsForgotten
    ({ handset := .launch .empty }, false)
    ((Handset.signInProvider 16).map .handset ++ [.handset (.provider .logout), .failure (some 401),
      .confirm, .relaunch])
    (fun x => x.2 && x.1.handset.provider.app.dashboards.isEmpty) (fun _ _ => id) (by decide +kernel)
  obtain ⟨hout, hnone⟩ := Bool.and_eq_true_iff.mp htest
  exact ⟨x, hout, by simpa using hnone, stays_logged_out .empty hrun⟩

/-- A forced logout was confirmed, and a dashboard is shown. -/
def returns (x : Life × Bool) : Bool := x.2 && !x.1.handset.isSignedOut

theorem not_staysLoggedOut {x : Life × Bool} (hreturns : returns x = true) : ¬StaysLoggedOut x := by
  intro hstays
  obtain ⟨hout, hin⟩ := Bool.and_eq_true_iff.mp hreturns
  simp [hstays hout] at hin

/-- Client 24 is refused while signed in, and confirms.  The home screen brings the dashboard back,
and so does that of the next launch. -/
theorem logged_out_account_returns :
    (∃ x, (recorded fun _ _ => 0).Run ({ handset := .launch .empty }, false) x ∧
      x.1.handset.client.app.sessions.length = 2 ∧ ¬StaysLoggedOut x) ∧
    ∃ x, (recorded fun _ _ => 0).Run ({ handset := .launch .empty }, false) x ∧
      x.1.handset.client.app.sessions.length = 1 ∧ ¬StaysLoggedOut x := by
  constructor
  · obtain ⟨x, hrun, htest⟩ := Machine.exists_run_of_replay (recorded fun _ _ => 0)
      (fun _ _ => true) ({ handset := .launch .empty }, false)
      ((Handset.signInClient 24).map .handset ++ [.failure (some 401), .confirm,
        .handset .homeLoads, .handset (.checkTripExistStatus 0)])
      (fun x => x.1.handset.client.app.sessions.length == 2 && returns x) (fun _ _ _ => trivial)
      (by decide +kernel)
    obtain ⟨hlength, hreturns⟩ := Bool.and_eq_true_iff.mp htest
    exact ⟨x, hrun, beq_iff_eq.mp hlength, not_staysLoggedOut hreturns⟩
  · obtain ⟨x, hrun, htest⟩ := Machine.exists_run_of_replay (recorded fun _ _ => 0)
      (fun _ _ => true) ({ handset := .launch .empty }, false)
      ((Handset.signInClient 24).map .handset ++ [.failure (some 401), .confirm, .relaunch,
        .handset .homeLoads, .handset (.checkTripExistStatus 0)])
      (fun x => x.1.handset.client.app.sessions.length == 1 && returns x) (fun _ _ _ => trivial)
      (by decide +kernel)
    obtain ⟨hlength, hreturns⟩ := Bool.and_eq_true_iff.mp htest
    exact ⟨x, hrun, beq_iff_eq.mp hlength, not_staysLoggedOut hreturns⟩

end Life

end WeatherAccommodation
