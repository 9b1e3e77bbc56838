/-
# Whose frames, and whose profile

Every frame on the request socket should be written by a screen of the session that is going on, and
carry its ids; and what an earlier session has left behind should not trap on the profile of this
one.  Neither holds as it is.  A dashboard's timer survives the sign-out and ticks on: it writes on
the request socket of the next session, with the client of the old trip and the id of the new
provider, and for a client it finds no provider's id in the profile (`old_timer_acts`).

Both hold along the runs whose steps pass `keepsSession` (`sessions_are_isolated`): whoever signs out
has stopped every timer, what the sockets bring reaches the dashboards of the session, cancellations
are answered in time, and the server hands out the account's own trips and profile.
-/
import WeatherAccommodation.Handset.Steps

namespace WeatherAccommodation

open Foundation Reactive

/-! ## 1. Sessions over a run -/

namespace Handset

/-- The side that is signed in. -/
def signedIn (h : Handset) : Option UserLoginType :=
  if h.provider.home.isSome then some .providerApp
  else if h.client.app.onMain then none else some .clientApp

/-- The numbers that are free on a side. -/
def firstScreens (h : Handset) : UserLoginType → ScreenKind → Nat
  | .clientApp => h.client.firstScreens
  | .providerApp => h.provider.firstScreens

/-- A session begins when a side is entered, with the account whose profile is stored by then, and
is over when nobody is signed in. -/
def sessionAfter (session : Option Session) (h : Handset) (_ : HandsetEvent) (h' : Handset) :
    Option Session :=
  match h'.signedIn, session with
  | none, _ => none
  | some _, some s => some s
  | some role, none =>
    match h'.device.userID role with
    | .ok id => some ⟨role, ⟨id, h.firstScreens role⟩⟩
    | .error _ => none

/-- The machine with the session that is going on. -/
def recorded (distance : CLLocation → CLLocation → ℚ) :
    Machine (Handset × Option Session) HandsetEvent Trap :=
  (machine distance).withHistory sessionAfter

end Handset

/-! ## 2. The law -/

/-- A frame on the request socket, by what wrote it. -/
inductive TripFrame where
  | ofProvider (frame : ProviderFrame)
  | ofSheet (frame : TripCancelFrame)
  | ofDashboard (frame : CancelFrame)

/-- The frame carries the id of the account, and the id of the trip if it is about one. -/
def TripFrame.Carries (id : Int) (trip : Option Dict) : TripFrame → Prop
  | .ofProvider frame => frame.Carries id trip
  | .ofSheet frame => frame.Carries id trip
  | .ofDashboard frame => frame.Carries id

/-- What the dashboard with number `i` has passed on. -/
def ClientApp.framesOf (a : ClientApp) (i : Nat) : List CancelFrame :=
  (a.sessions[i]?.map ClientSession.frames).getD []

namespace Handset

/-- The frames that a step has written. -/
def written (h h' : Handset) : List TripFrame :=
  (h'.provider.app.frames.drop h.provider.app.frames.length).map (fun f => .ofProvider f.2) ++
    (h'.client.frames.drop h.client.frames.length).map (fun f => .ofSheet f.2) ++
    (List.range h'.client.app.sessions.length).flatMap fun i =>
      ((h'.client.app.framesOf i).drop (h.client.app.framesOf i).length).map .ofDashboard

/-- The screen whose handler writes on the request socket. -/
def writer (h : Handset) : HandsetEvent → Option (UserLoginType × ScreenKind × Nat)
  | .provider e => (h.provider.writer e).map fun w => (.providerApp, w)
  | .client e => (h.client.writer e).map fun w => (.clientApp, w)
  | _ => none

/-- The trip that a screen carries. -/
def tripOn (h : Handset) : UserLoginType → ScreenKind → Nat → Option Dict
  | .clientApp => h.client.tripOn
  | .providerApp => h.provider.tripOn

/-- The dashboard whose handler reads the profile's id. -/
def readsProfile (h : Handset) : HandsetEvent → Option (UserLoginType × Nat)
  | .provider e => (h.provider.readsProfile e).map fun i => (.providerApp, i)
  | .client e => (h.client.readsProfile e).map fun i => (.clientApp, i)
  | _ => none

/-- The frame is written by a screen of the session, and carries its ids. -/
def Belongs (session : Option Session) (h : Handset) (e : HandsetEvent) (frame : TripFrame) : Prop :=
  ∃ s kind n, session = some s ∧ h.writer e = some (s.role, kind, n) ∧ s.stay.first kind ≤ n ∧
    frame.Carries s.stay.id (h.tripOn s.role kind n)

/-- A dashboard that an earlier session has left behind traps on the profile. -/
def TrapsOnProfile (distance : CLLocation → CLLocation → ℚ) (session : Option Session) (h : Handset)
    (e : HandsetEvent) : Prop :=
  ∃ role i f, h.readsProfile e = some (role, i) ∧
    ¬Stay.Owns (Session.on session role) .dashboard i ∧ h.device.userID role = .error f ∧
      (machine distance).Traps h e f

/-- The event, handled while `session` is going on, keeps to it. -/
structure Isolated (distance : CLLocation → CLLocation → ℚ) (session : Option Session) (h : Handset)
    (e : HandsetEvent) : Prop where
  frames : ∀ h', (machine distance).Step h e h' → ∀ frame ∈ written h h', Belongs session h e frame
  profile : ¬TrapsOnProfile distance session h e

/-! ## 3. The condition -/

/-- The account whose provider's dashboard the event may open. -/
def entersAs (h : Handset) : HandsetEvent → Option Int
  | .callingLoginWS reply => Dict.int? reply "ProviderId"
  | .checkTripExistStatus call =>
    match h.homeCalls.waiting call, h.device.userID .providerApp with
    | some .providerApp, .ok id => some id
    | _, _ => none
  | _ => none

/-- The condition on a step: each side keeps to the stay; a profile that is stored during a session
is that of its account; and a provider's dashboard resumes no trip but one of the account. -/
def keepsSession (x : Handset × Option Session) (e : HandsetEvent) : Bool :=
  (match e with
    | .provider e => x.1.provider.keepsToStay (Session.on x.2 .providerApp) e
    | .client e => x.1.client.keepsToStay (Session.on x.2 .clientApp) e
    | _ => true) &&
  (x.2.all fun s => (storesProfile e).all fun reply =>
    Dict.int? reply s.role.idKey == some s.stay.id) &&
  (x.1.entersAs e).all fun id => resumesOwn .providerApp id
    x.1.device.appDelegate.doesRequestExist x.1.device.appDelegate.providerExistingTrip

/-! ## 4. What the handset keeps -/

end Handset

/-- What belongs to the stay does not change when the other side has moved. -/
theorem ProviderPhone.OwnScreens.share {stay : Option Stay} {p : ProviderPhone}
    (h : OwnScreens stay p) (c : ClientPhone) : OwnScreens stay (p.share c) :=
  ⟨h.present, h.home, h.sheet, h.alert, h.timers, h.bounds, h.dashboardTrips, h.sheetTrips,
    h.alertTrips⟩

theorem ProviderPhone.OwnScreens.setDefaults {stay : Option Stay} {p : ProviderPhone}
    (h : OwnScreens stay p) (defaults : UserDefaults) :
    OwnScreens stay { p with app := p.app.setDefaults defaults } :=
  ⟨h.present, h.home, h.sheet, h.alert, h.timers, h.bounds, h.dashboardTrips, h.sheetTrips,
    h.alertTrips⟩

theorem ClientPhone.OwnScreens.share {stay : Option Stay} {c : ClientPhone} (h : OwnScreens stay c)
    (p : ProviderPhone) : OwnScreens stay (c.share p) :=
  ⟨h.onMain, h.stack, h.sheet, h.alert, h.bounds, h.dashboardTrips, h.sheetTrips, h.alertTrips⟩

namespace Handset

variable {distance : CLLocation → CLLocation → ℚ} {session : Option Session} {h h' : Handset}

/-- Whatever is on screen belongs to the session, on either side, and the profile is its
account's. -/
structure Settled (session : Option Session) (h : Handset) : Prop where
  provider : ProviderPhone.OwnScreens (Session.on session .providerApp) h.provider
  client : ClientPhone.OwnScreens (Session.on session .clientApp) h.client
  device : h.client.app.device = h.device
  profile : ∀ s, session = some s → h.device.userID s.role = .ok s.stay.id

namespace Settled

theorem start (defaults : UserDefaults) : Settled none (launch defaults) where
  provider := .start _
  client := .start _
  device := rfl
  profile := by simp

/-- The side of the session is the one that is signed in. -/
theorem signedIn (hx : Settled session h) : h.signedIn = session.map Session.role := by
  have hmain := hx.client.onMain
  cases session with
  | none =>
    have hhome : h.provider.home = none := by
      by_contra hsome
      obtain ⟨i, hi⟩ := Option.ne_none_iff_exists'.mp hsome
      exact Stay.not_owns (hx.provider.home i hi)
    have hmain' : h.client.app.onMain = true := by simpa using hmain
    simp [Handset.signedIn, hhome, hmain']
  | some s =>
    obtain ⟨role, stay⟩ := s
    cases role with
    | providerApp =>
      have hhome := hx.provider.present stay (Session.on_self ⟨.providerApp, stay⟩)
      simp [Handset.signedIn, hhome]
    | clientApp =>
      have hother : Session.on (some ⟨.clientApp, stay⟩) .providerApp = none :=
        Session.on_of_ne (by simp)
      have hself : Session.on (some ⟨.clientApp, stay⟩) .clientApp = some stay :=
        Session.on_self ⟨.clientApp, stay⟩
      have hhome : h.provider.home = none := by
        by_contra hsome
        obtain ⟨i, hi⟩ := Option.ne_none_iff_exists'.mp hsome
        have howns := hx.provider.home i hi
        rw [hother] at howns
        exact Stay.not_owns howns
      have hmain' : h.client.app.onMain = false := by simpa [hself] using hmain
      simp [Handset.signedIn, hhome, hmain']

/-- Nobody is signed in where nobody's session is going on. -/
theorem none_of_isSignedOut (hx : Settled session h) (hout : h.isSignedOut = true) :
    session = none := by
  simp only [isSignedOut, Bool.and_eq_true, Option.isNone_iff_eq_none] at hout
  have hsigned := hx.signedIn
  rw [Handset.signedIn, hout.1, hout.2] at hsigned
  simpa using hsigned.symm

/-- The session is noted as it is. -/
theorem sessionAfter_eq {s' : Option Session} {e : HandsetEvent} (hy : Settled s' h')
    (hkept : s' = session ∨ s' = none) : sessionAfter session h e h' = s' := by
  cases s' with
  | none => simp [sessionAfter, hy.signedIn]
  | some s =>
    obtain rfl : some s = session := hkept.resolve_right (by simp)
    simp [sessionAfter, hy.signedIn]

/-- And so is one that begins. -/
theorem sessionAfter_begins {role : UserLoginType} {id : Int} {e : HandsetEvent}
    (hy : Settled (some ⟨role, ⟨id, h.firstScreens role⟩⟩) h') :
    sessionAfter none h e h' = some ⟨role, ⟨id, h.firstScreens role⟩⟩ := by
  have hid : h'.device.userID role = .ok id := hy.profile _ rfl
  simp [sessionAfter, hy.signedIn, hid]

/-- Other defaults, with a profile of the account. -/
theorem setDefaults (hx : Settled session h) {defaults : UserDefaults}
    (hprofile : ∀ s, session = some s →
      Device.userID { h.device with defaults := defaults } s.role = .ok s.stay.id) :
    Settled session (h.setDefaults defaults) where
  provider := hx.provider.setDefaults defaults
  client := hx.client.share _
  device := rfl
  profile := hprofile

/-- Defaults with the same profile. -/
theorem keepDefaults (hx : Settled session h) {defaults : UserDefaults}
    (hprofile : defaults.value .userProfileInfoDef = h.device.defaults.value .userProfileInfoDef) :
    Settled session (h.setDefaults defaults) := by
  refine hx.setDefaults fun s hs => ?_
  rw [Device.userID_congr s.role (d := h.device) (by simpa [Device.profile] using hprofile)]
  exact hx.profile s hs

/-- A profile of the account is stored. -/
theorem storeProfile (hx : Settled session h) {reply : Dict}
    (hown : ∀ s, session = some s → Dict.int? reply s.role.idKey = some s.stay.id) :
    Settled session (h.storeProfile reply) :=
  hx.setDefaults fun s hs =>
    (Device.userID_of_profile (profile_storeProfile h reply)).mpr (hown s hs)

/-- Neither side changes. -/
theorem waits (hx : Settled session h) (hwaits : Waits h h') : Settled session h' := by
  have hdevice : h'.device = h.device := congrArg (fun p => p.app.device) hwaits.provider
  refine ⟨hwaits.provider ▸ hx.provider, hwaits.client ▸ hx.client, ?_, ?_⟩
  · rw [hwaits.client, hdevice]
    exact hx.device
  · rw [hdevice]
    exact hx.profile

/-- A provider's dashboard begins a session. -/
theorem openProviderDashboard (hx : Settled none h)
    (hresumes : ∀ id, h.device.userID .providerApp = .ok id → resumesOwn .providerApp id
      h.device.appDelegate.doesRequestExist h.device.appDelegate.providerExistingTrip = true)
    (hok : h.openProviderDashboard = .ok h') :
    ∃ id, Settled (some ⟨.providerApp, ⟨id, h.firstScreens .providerApp⟩⟩) h' := by
  simp only [Handset.openProviderDashboard, bind_eq_ok, pure_eq_ok] at hok
  obtain ⟨b, hb, id, hid, rfl⟩ := hok
  have hdevice : b.device = h.device := by
    rcases ProviderApp.viewDidLoad_inv hb with rfl | ⟨_, _, _, _, _, rfl⟩
    · rfl
    · rfl
  refine ⟨id, ?_, ?_, ?_, ?_⟩
  · rw [Session.on_eq_some.mpr rfl]
    exact hx.provider.enter hb (hresumes id (hdevice ▸ hid))
  · rw [Session.on_of_ne (by simp)]
    exact hx.client.share _
  · rfl
  · intro s hs
    obtain rfl := Option.some.inj hs
    exact hid

/-- A client's dashboard does, too. -/
theorem openClientDashboard (hx : Settled none h) (hok : h.openClientDashboard = .ok h') :
    ∃ id, Settled (some ⟨.clientApp, ⟨id, h.firstScreens .clientApp⟩⟩) h' := by
  simp only [Handset.openClientDashboard, bind_eq_ok, pure_eq_ok] at hok
  obtain ⟨b, hb, rfl⟩ := hok
  obtain ⟨⟨id, hid⟩, hafter⟩ := ClientApp.pushDashboard_inv hb
  have happ : (h.client.followDashboard b).app = b := by
    unfold ClientPhone.followDashboard
    split
    · rfl
    · rfl
  have hdevice : b.device = h.client.app.device := by rw [hafter]
  refine ⟨id, ?_, ?_, ?_, ?_⟩
  · rw [Session.on_of_ne (by simp)]
    exact hx.provider.share _
  · rw [Session.on_eq_some.mpr rfl]
    exact hx.client.enter (a := { h.client.app with onMain := false }) rfl rfl hb
  · rfl
  · intro s hs
    obtain rfl := Option.some.inj hs
    show (h.client.followDashboard b).app.device.userID .clientApp = .ok id
    rw [happ, hdevice]
    exact hid

end Settled

/-- What the session can be after a step. -/
inductive NextSession (session : Option Session) (h : Handset) : Option Session → Prop where
  | kept : NextSession session h session
  | ended : NextSession session h none
  | begins (role : UserLoginType) (id : Int) (nobody : session = none) :
      NextSession session h (some ⟨role, ⟨id, h.firstScreens role⟩⟩)

theorem Settled.next {s' : Option Session} {e : HandsetEvent} (hy : Settled s' h')
    (hnext : NextSession session h s') : Settled (sessionAfter session h e h') h' := by
  cases hnext with
  | kept => rwa [hy.sessionAfter_eq (Or.inl rfl)]
  | ended => rwa [hy.sessionAfter_eq (Or.inr rfl)]
  | begins role id nobody =>
    subst nobody
    rwa [hy.sessionAfter_begins]

/-- The provider's side moves on. -/
theorem Settled.ofProvider (hx : Settled session h) {e : PhoneEvent} {p : ProviderPhone}
    (hentry : ProviderPhone.isEntry e = false)
    (hcond : h.provider.keepsToStay (Session.on session .providerApp) e = true)
    (hstep : (ProviderPhone.machine distance).Step h.provider e p) :
    ∃ s', NextSession session h s' ∧ Settled s' (h.putProvider p) := by
  have hp := hx.provider.step hentry hcond hstep
  have hprofile : ∀ s, session = some s → p.app.device.userID s.role = .ok s.stay.id := by
    intro s hs
    rw [Device.userID_congr s.role (ProviderPhone.step_profile hstep hentry)]
    exact hx.profile s hs
  by_cases hover : ProviderPhone.leaves e = true ∧
      (Session.on session .providerApp).isSome = true
  · obtain ⟨hleaves, hon⟩ := hover
    obtain ⟨stay, hstay⟩ := Option.isSome_iff_exists.mp hon
    obtain rfl := Session.on_eq_some.mp hstay
    have hclient := hx.client
    rw [Session.on_of_ne (by simp)] at hclient
    rw [ProviderPhone.stayAfter, if_pos hleaves] at hp
    exact ⟨none, .ended, hp, hclient.share p, rfl, by simp⟩
  · have hstay : ProviderPhone.stayAfter (Session.on session .providerApp) e =
        Session.on session .providerApp := by
      unfold ProviderPhone.stayAfter
      split
      · rename_i hleaves
        have hnone : ¬(Session.on session .providerApp).isSome = true := fun hon =>
          hover ⟨hleaves, hon⟩
        exact (Option.not_isSome_iff_eq_none.mp hnone).symm
      · rfl
    rw [hstay] at hp
    exact ⟨session, .kept, hp, hx.client.share p, rfl, hprofile⟩

/-- The client's side moves on. -/
theorem Settled.ofClient (hx : Settled session h) {e : ClientPhoneEvent} {c : ClientPhone}
    (hentry : ClientPhone.isEntry e = false)
    (hcond : h.client.keepsToStay (Session.on session .clientApp) e = true)
    (hstored : ∀ s reply, session = some s → ClientPhone.storesProfile e = some reply →
      Dict.int? reply s.role.idKey = some s.stay.id)
    (hstep : (ClientPhone.machine distance).Step h.client e c) :
    ∃ s', NextSession session h s' ∧ Settled s' (h.putClient c) := by
  have hc := hx.client.step hentry hcond hstep
  have hprofile : ∀ s, session = some s → c.app.device.userID s.role = .ok s.stay.id := by
    intro s hs
    rcases ClientPhone.step_profile hstep hentry with hsame | ⟨reply, hreply, hafter⟩
    · rw [Device.userID_congr s.role hsame, hx.device]
      exact hx.profile s hs
    · exact (Device.userID_of_profile hafter).mpr (hstored s reply hs hreply)
  by_cases hover : ClientPhone.leaves e = true ∧ (Session.on session .clientApp).isSome = true
  · obtain ⟨hleaves, hon⟩ := hover
    obtain ⟨stay, hstay⟩ := Option.isSome_iff_exists.mp hon
    obtain rfl := Session.on_eq_some.mp hstay
    have hprovider := hx.provider
    rw [Session.on_of_ne (by simp)] at hprovider
    rw [ClientPhone.stayAfter, if_pos hleaves] at hc
    exact ⟨none, .ended, hprovider.share c, hc, rfl, by simp⟩
  · have hstay : ClientPhone.stayAfter (Session.on session .clientApp) e =
        Session.on session .clientApp := by
      unfold ClientPhone.stayAfter
      split
      · rename_i hleaves
        have hnone : ¬(Session.on session .clientApp).isSome = true := fun hon =>
          hover ⟨hleaves, hon⟩
        exact (Option.not_isSome_iff_eq_none.mp hnone).symm
      · rfl
    rw [hstay] at hc
    exact ⟨session, .kept, hx.provider.share c, hc, rfl, hprofile⟩

/-- A dashboard is opened. -/
theorem Settled.openDashboard (hx : Settled none h) {role : UserLoginType}
    (hresumes : role = .providerApp → ∀ id, h.device.userID .providerApp = .ok id →
      resumesOwn .providerApp id h.device.appDelegate.doesRequestExist
        h.device.appDelegate.providerExistingTrip = true)
    (hok : h.openDashboard role = .ok h') :
    ∃ id, Settled (some ⟨role, ⟨id, h.firstScreens role⟩⟩) h' := by
  cases role with
  | clientApp => exact hx.openClientDashboard hok
  | providerApp => exact hx.openProviderDashboard (hresumes rfl) hok

@[simp] theorem firstScreens_setDefaults (h : Handset) (defaults : UserDefaults)
    (role : UserLoginType) : (h.setDefaults defaults).firstScreens role = h.firstScreens role := by
  cases role with
  | clientApp => rfl
  | providerApp => rfl

/-- Who has signed in is remembered, and the dashboard opened. -/
theorem Settled.activate (hx : Settled none h) {role : UserLoginType}
    (hresumes : role = .providerApp → ∀ id, h.device.userID .providerApp = .ok id →
      resumesOwn .providerApp id h.device.appDelegate.doesRequestExist
        h.device.appDelegate.providerExistingTrip = true)
    (hok : h.activate role = .ok h') :
    ∃ id, Settled (some ⟨role, ⟨id, h.firstScreens role⟩⟩) h' := by
  have hprofile : (h.device.defaults.setBool .iSUerActivated true).value .userProfileInfoDef =
      h.device.defaults.value .userProfileInfoDef := by
    simp [UserDefaults.setBool]
  rw [← firstScreens_setDefaults h (h.device.defaults.setBool .iSUerActivated true)]
  refine (hx.keepDefaults hprofile).openDashboard (fun hrole id hid => ?_) hok
  refine hresumes hrole id ?_
  rw [← hid]
  exact (Device.userID_congr .providerApp hprofile).symm

/-- What `keepsSession` says of the profile that is stored, and of the trip that is resumed. -/
theorem keepsSession_inv {e : HandsetEvent} (hcond : keepsSession (h, session) e = true) :
    (∀ s reply, session = some s → storesProfile e = some reply →
        Dict.int? reply s.role.idKey = some s.stay.id) ∧
      ∀ id, h.entersAs e = some id → resumesOwn .providerApp id
        h.device.appDelegate.doesRequestExist h.device.appDelegate.providerExistingTrip = true := by
  simp only [keepsSession, Bool.and_eq_true] at hcond
  obtain ⟨⟨_, hstored⟩, hresumes⟩ := hcond
  refine ⟨fun s reply hs hreply => ?_, fun id hid => ?_⟩
  · simpa [hs, hreply] using hstored
  · simpa [hid] using hresumes

/-- **One step of the handset.** -/
theorem Settled.step (hx : Settled session h) {e : HandsetEvent}
    (hcond : keepsSession (h, session) e = true) (hstep : (machine distance).Step h e h') :
    Settled (sessionAfter session h e h') h' := by
  obtain ⟨hstored, hresumes⟩ := keepsSession_inv hcond
  have hside := (Bool.and_eq_true_iff.mp (Bool.and_eq_true_iff.mp hcond).1).1
  suffices hnext : ∃ s', NextSession session h s' ∧ Settled s' h' by
    obtain ⟨s', hnext, hy⟩ := hnext
    exact hy.next hnext
  cases step_move hstep with
  | provider entry step after =>
    subst after
    exact hx.ofProvider entry hside step
  | client entry step after =>
    subst after
    exact hx.ofClient entry hside hstored step
  | chosen role _ after =>
    subst after
    exact ⟨session, .kept, hx.keepDefaults (by simp [UserDefaults.setValue])⟩
  | waits hwaits => exact ⟨session, .kept, hx.waits hwaits⟩
  | @stored _ reply _ stores hwaits after =>
    subst after
    exact ⟨session, .kept, (hx.waits hwaits).storeProfile fun s hs => hstored s reply hs stores⟩
  | @activated _ reply role event signedOut success after =>
    obtain rfl := hx.none_of_isSignedOut signedOut
    have hown : ∀ s : Session, none = some s →
        Dict.int? reply s.role.idKey = some s.stay.id := by simp
    have hresumes' : role = .providerApp → ∀ id,
        (h.storeProfile reply).device.userID .providerApp = .ok id →
          resumesOwn .providerApp id h.device.appDelegate.doesRequestExist
            h.device.appDelegate.providerExistingTrip = true := by
      rintro rfl id hid
      obtain rfl : e = .callingLoginWS reply := by simpa using event
      exact hresumes id ((Device.userID_of_profile (profile_storeProfile h reply)).mp hid)
    obtain ⟨id, hy⟩ := (hx.storeProfile hown).activate hresumes' after
    have hfirst : (h.storeProfile reply).firstScreens role = h.firstScreens role :=
      firstScreens_setDefaults h _ role
    rw [hfirst] at hy
    exact ⟨_, .begins role id rfl, hy⟩
  | asked role _ _ after =>
    subst after
    exact ⟨session, .kept, hx.provider, hx.client, hx.device, hx.profile⟩
  | @opened call role waiting signedOut after =>
    obtain rfl := hx.none_of_isSignedOut signedOut
    have hretired := hx.waits (.retire h call)
    obtain ⟨id, hy⟩ := hretired.openDashboard (fun hprovider id hid => by
      subst hprovider
      have hid' : h.device.userID .providerApp = .ok id := hid
      exact hresumes id (by simp [entersAs, waiting, hid'])) after
    exact ⟨_, .begins role id rfl, hy⟩
  | refused signedIn after =>
    subst after
    have hon : (Session.on session .clientApp).isSome = true := by
      have honMain := hx.client.onMain
      simpa [honMain, Option.isSome_iff_ne_none] using signedIn
    obtain ⟨stay, hstay⟩ := Option.isSome_iff_exists.mp hon
    obtain rfl := Session.on_eq_some.mp hstay
    have hprovider := hx.provider
    rw [Session.on_of_ne (by simp)] at hprovider
    exact ⟨none, .ended, hprovider.share _, .leave h.client rfl, rfl, by simp⟩

/-! ## 5. What is written, and what traps -/

/-- A new frame is new on one of the lists. -/
theorem mem_written {frame : TripFrame} (hmem : frame ∈ written h h') :
    (∃ f ∈ h'.provider.app.frames.drop h.provider.app.frames.length, frame = .ofProvider f.2) ∨
      (∃ f ∈ h'.client.frames.drop h.client.frames.length, frame = .ofSheet f.2) ∨
      ∃ (i : Nat) (t : ClientSession), h'.client.app.sessions[i]? = some t ∧
        ∃ f ∈ t.frames.drop (h.client.app.framesOf i).length, frame = .ofDashboard f := by
  simp only [written, List.mem_append, List.mem_map, List.mem_flatMap, List.mem_range] at hmem
  rcases hmem with (⟨f, hf, rfl⟩ | ⟨f, hf, rfl⟩) | ⟨i, hi, f, hf, rfl⟩
  · exact Or.inl ⟨f, hf, rfl⟩
  · exact Or.inr (Or.inl ⟨f, hf, rfl⟩)
  · have ht : h'.client.app.sessions[i]? = some h'.client.app.sessions[i] :=
      List.getElem?_eq_getElem hi
    refine Or.inr (Or.inr ⟨i, _, ht, f, ?_, rfl⟩)
    simpa [ClientApp.framesOf, ht] using hf

theorem framesOf_eq {a : ClientApp} {i : Nat} {t : ClientSession} (ht : a.sessions[i]? = some t) :
    t.frames = a.framesOf i := by
  simp [ClientApp.framesOf, ht]

/-- The lists stay as they are. -/
structure Quiet (h h' : Handset) : Prop where
  provider : h'.provider.app.frames = h.provider.app.frames
  sheets : h'.client.frames = h.client.frames
  dashboards : ∀ i, h'.client.app.framesOf i = h.client.app.framesOf i

namespace Quiet

theorem trans {h'' : Handset} (h₁ : Quiet h h') (h₂ : Quiet h' h'') : Quiet h h'' where
  provider := h₂.provider.trans h₁.provider
  sheets := h₂.sheets.trans h₁.sheets
  dashboards := fun i => (h₂.dashboards i).trans (h₁.dashboards i)

/-- Then nothing is written. -/
theorem not_mem (hq : Quiet h h') {frame : TripFrame} : frame ∉ written h h' := by
  intro hmem
  rcases mem_written hmem with ⟨f, hf, _⟩ | ⟨f, hf, _⟩ | ⟨i, t, ht, f, hf, _⟩
  · simp [hq.provider] at hf
  · simp [hq.sheets] at hf
  · simp [framesOf_eq ht, hq.dashboards i] at hf

theorem setDefaults (h : Handset) (defaults : UserDefaults) : Quiet h (h.setDefaults defaults) :=
  ⟨rfl, rfl, fun _ => rfl⟩

theorem openDashboard {role : UserLoginType} (hok : h.openDashboard role = .ok h') : Quiet h h' := by
  cases role with
  | providerApp =>
    simp only [Handset.openDashboard, openProviderDashboard, bind_eq_ok, pure_eq_ok] at hok
    obtain ⟨b, hb, _, _, rfl⟩ := hok
    refine ⟨?_, rfl, fun _ => rfl⟩
    rcases ProviderApp.viewDidLoad_inv hb with rfl | ⟨_, _, _, _, _, rfl⟩
    · rfl
    · rfl
  | clientApp =>
    simp only [Handset.openDashboard, openClientDashboard, bind_eq_ok, pure_eq_ok] at hok
    obtain ⟨b, hb, rfl⟩ := hok
    obtain ⟨_, hafter⟩ := ClientApp.pushDashboard_inv hb
    have happ : (h.client.followDashboard b).app = b ∧
        (h.client.followDashboard b).frames = h.client.frames := by
      unfold ClientPhone.followDashboard
      split
      · exact ⟨rfl, rfl⟩
      · exact ⟨rfl, rfl⟩
    refine ⟨rfl, happ.2, fun i => ?_⟩
    show (h.client.followDashboard b).app.framesOf i = _
    rw [happ.1, hafter]
    simp only [ClientApp.framesOf, List.getElem?_append]
    split
    · rfl
    · rename_i hge
      rw [List.getElem?_eq_none (by omega : h.client.app.sessions.length ≤ i)]
      cases i - h.client.app.sessions.length with
      | zero => rfl
      | succ n => rfl

theorem activate {role : UserLoginType} (hok : h.activate role = .ok h') : Quiet h h' :=
  (setDefaults h _).trans (openDashboard hok)

theorem waits (hwaits : Waits h h') : Quiet h h' := by
  refine ⟨?_, ?_, fun i => ?_⟩
  · rw [hwaits.provider]
  · rw [hwaits.client]
  · rw [hwaits.client]

end Quiet

/-- What the provider's side writes. -/
theorem Settled.providerFrames (hx : Settled session h) {e : PhoneEvent} {p : ProviderPhone}
    (hcond : h.provider.keepsToStay (Session.on session .providerApp) e = true)
    (hstep : (ProviderPhone.machine distance).Step h.provider e p) {frame : TripFrame}
    (hmem : frame ∈ written h (h.putProvider p)) : Belongs session h (.provider e) frame := by
  have hid : ∀ s, Session.on session .providerApp = some s →
      h.provider.app.device.userID .providerApp = .ok s.id := by
    intro s hs
    exact hx.profile _ (Session.on_eq_some.mp hs)
  rcases hx.provider.frame hid hcond hstep with hsame | ⟨socket, f, s, kind, n, hwrites, hids, hnew⟩
  · have hquiet : Quiet h (h.putProvider p) := ⟨hsame, rfl, fun _ => rfl⟩
    exact absurd hmem hquiet.not_mem
  · rcases mem_written hmem with ⟨g, hg, rfl⟩ | ⟨g, hg, rfl⟩ | ⟨i, t, ht, g, hg, rfl⟩
    · have hg' : g ∈ p.app.frames.drop h.provider.app.frames.length := hg
      rw [hnew, List.drop_left, List.mem_singleton] at hg'
      subst hg'
      exact ⟨⟨.providerApp, s⟩, kind, n, Session.on_eq_some.mp hwrites.now,
        by simp [writer, hwrites.writer], hwrites.owns, hids⟩
    · have hg' : g ∈ h.client.frames.drop h.client.frames.length := hg
      exact absurd hg' (by simp)
    · have ht' : h.client.app.sessions[i]? = some t := ht
      rw [framesOf_eq ht'] at hg
      exact absurd hg (by simp)

/-- What the client's side writes. -/
theorem Settled.clientFrames (hx : Settled session h) {e : ClientPhoneEvent} {c : ClientPhone}
    (hentry : ClientPhone.isEntry e = false)
    (hcond : h.client.keepsToStay (Session.on session .clientApp) e = true)
    (hstep : (ClientPhone.machine distance).Step h.client e c) {frame : TripFrame}
    (hmem : frame ∈ written h (h.putClient c)) : Belongs session h (.client e) frame := by
  have hid : ∀ s, Session.on session .clientApp = some s →
      h.client.app.device.userID .clientApp = .ok s.id := by
    intro s hs
    rw [hx.device]
    exact hx.profile _ (Session.on_eq_some.mp hs)
  have hbelongs : ∀ {s : Stay} {kind : ScreenKind} {n : Nat} {frame : TripFrame},
      Stay.Writes (Session.on session .clientApp) (h.client.writer e) s kind n →
        frame.Carries s.id (h.client.tripOn kind n) → Belongs session h (.client e) frame := by
    intro s kind n frame hwrites hids
    exact ⟨⟨.clientApp, s⟩, kind, n, Session.on_eq_some.mp hwrites.now,
      by simp [writer, hwrites.writer], hwrites.owns, hids⟩
  rcases mem_written hmem with ⟨g, hg, rfl⟩ | ⟨g, hg, rfl⟩ | ⟨i, t, ht, g, hg, rfl⟩
  · have hg' : g ∈ h.provider.app.frames.drop h.provider.app.frames.length := hg
    exact absurd hg' (by simp)
  · have hg' : g ∈ c.frames.drop h.client.frames.length := hg
    rcases hx.client.frame hentry hstep with hsame | ⟨socket, f, s, kind, n, hwrites, hids, hnew⟩
    · rw [hsame] at hg'
      exact absurd hg' (by simp)
    · rw [hnew, List.drop_left, List.mem_singleton] at hg'
      subst hg'
      exact hbelongs hwrites hids
  · rcases ClientPhone.OwnScreens.told hid hcond (ClientPhone.step_told hstep ht) with
      ⟨u, hu, hsame⟩ | ⟨_, hnew⟩ | ⟨u, f, s, hu, hnew, hwrites, hids⟩
    · rw [hsame, framesOf_eq hu] at hg
      exact absurd hg (by simp)
    · rw [hnew] at hg
      exact absurd hg (by simp)
    · rw [hnew, ← framesOf_eq hu, List.drop_left, List.mem_singleton] at hg
      subst hg
      exact hbelongs hwrites hids

/-- **What a step writes belongs to the session.** -/
theorem Settled.frames (hx : Settled session h) {e : HandsetEvent}
    (hcond : keepsSession (h, session) e = true) (hstep : (machine distance).Step h e h')
    {frame : TripFrame} (hmem : frame ∈ written h h') : Belongs session h e frame := by
  have hside := (Bool.and_eq_true_iff.mp (Bool.and_eq_true_iff.mp hcond).1).1
  have hquiet : Quiet h h' → Belongs session h e frame := fun hq => absurd hmem hq.not_mem
  cases step_move hstep with
  | provider entry step after =>
    subst after
    exact hx.providerFrames hside step hmem
  | client entry step after =>
    subst after
    exact hx.clientFrames entry hside step hmem
  | chosen role _ after => exact hquiet (after ▸ .setDefaults h _)
  | waits hwaits => exact hquiet (.waits hwaits)
  | stored _ hwaits after => exact hquiet (after ▸ (Quiet.waits hwaits).trans (.setDefaults _ _))
  | activated _ _ _ after => exact hquiet ((Quiet.setDefaults h _).trans (.activate after))
  | asked _ _ _ after => exact hquiet (after ▸ ⟨rfl, rfl, fun _ => rfl⟩)
  | opened _ _ after => exact hquiet ((Quiet.waits (.retire h _)).trans (.openDashboard after))
  | refused _ after => exact hquiet (after ▸ ⟨rfl, rfl, fun _ => rfl⟩)

/-- **What an earlier session has left behind does not trap on the profile.** -/
theorem Settled.profiles (hx : Settled session h) {e : HandsetEvent}
    (hcond : keepsSession (h, session) e = true) : ¬TrapsOnProfile distance session h e := by
  rintro ⟨role, i, f, hreads, hleft, hfault, _⟩
  have hside := (Bool.and_eq_true_iff.mp (Bool.and_eq_true_iff.mp hcond).1).1
  have hmissing : h.device.hasID role = true → False := by
    intro hid
    obtain ⟨id, hok⟩ := Device.hasID_iff.mp hid
    exact absurd (hok.symm.trans hfault) (by simp)
  cases e with
  | provider e =>
    obtain ⟨j, hj, heq⟩ := Option.map_eq_some_iff.mp hreads
    obtain ⟨rfl, rfl⟩ : UserLoginType.providerApp = role ∧ j = i := by simpa using heq
    rcases hx.provider.profile hside hj with howns | hid
    · exact hleft howns
    · exact hmissing hid
  | client e =>
    obtain ⟨j, hj, heq⟩ := Option.map_eq_some_iff.mp hreads
    obtain ⟨rfl, rfl⟩ : UserLoginType.clientApp = role ∧ j = i := by simpa using heq
    rcases ClientPhone.OwnScreens.profile hside hj with howns | hid
    · exact hleft howns
    · exact hmissing (hx.device ▸ hid)
  | _ => exact absurd hreads (by simp [readsProfile])

/-! ## 6. The law over a run -/

/-- **Sessions are isolated**, as long as every step keeps to its session. -/
theorem sessions_are_isolated {distance : CLLocation → CLLocation → ℚ} (defaults : UserDefaults)
    {x : Handset × Option Session} {e : HandsetEvent}
    (hrun : (recorded distance).RunWhere (fun x e => keepsSession x e = true)
      (launch defaults, none) x)
    (hcond : keepsSession x e = true) : Isolated distance x.2 x.1 e := by
  have hx : Settled x.2 x.1 := by
    refine hrun.invariant (I := fun x => Settled x.2 x.1) (.start defaults) ?_
    intro a ev b ha hkeeps hstep
    obtain ⟨hmoves, hsession⟩ := Machine.withHistory_step.mp hstep
    rw [hsession]
    exact ha.step hkeeps hmoves
  exact ⟨fun _ hstep _ => hx.frames hcond hstep, hx.profiles hcond⟩

/-- Provider `id` signs in. -/
def signInProvider (id : Int) : List HandsetEvent :=
  [.clientProviderButtonAction .providerApp, .callingLoginWS [("Success", .ofInt 1),
    ("ProviderId", .ofInt id), ("IsProviderKYC", .ofInt 1), ("IsProviderProductKit", .ofInt 1),
    ("StatusCode", .ofInt 3)]]

/-- Client `id` signs in. -/
def signInClient (id : Int) : List HandsetEvent :=
  [.clientProviderButtonAction .clientApp,
    .callingLoginWS [("Success", .ofInt 1), ("ClientId", .ofInt id)]]

/-- On dashboard `i` a provider goes online on socket `status`, and accepts a request of `client` on
the socket after it. -/
def acceptRequest (i status : Nat) (client : Int) : List HandsetEvent :=
  [.provider (.app (.viewWillAppear i)), .provider (.didUpdateLocations ⟨40, -73⟩),
    .provider (.app (.switchValueChanged i true)), .provider (.app (.onConnect status)),
    .provider (.app (.onMessage status (ProviderApp.requestText client "requested") .active 0)),
    .provider (.app (.btnAcceptRequest i)), .provider (.app (.onConnect (status + 1)))]

/-- The acceptance comes back, and the timer starts. -/
def acceptanceReturns (socket : Nat) (client provider : Int) : HandsetEvent :=
  .provider (.app (.onMessage socket (ProviderApp.acceptanceText client provider) .active 0))

/-- Provider 16 signs in, and has a timer running. -/
def timerRuns : List HandsetEvent :=
  signInProvider 16 ++ acceptRequest 0 0 24 ++ [acceptanceReturns 1 24 16]

/-- Provider 16 goes offline before it signs out, and the timer of provider 17 ticks. -/
theorem sessions_are_isolated_twice : ∃ x y : Handset × Option Session,
    (written x.1 y.1).length = 1 ∧
      Isolated (fun _ _ => 0) x.2 x.1 (.provider (.app (.timerFired 1))) := by
  obtain ⟨x, y, hrun, hcond, _, htest⟩ := Machine.exists_step_of_replay
    (recorded fun _ _ => 0) keepsSession (launch .empty, none)
    (timerRuns ++ [.provider (.app (.directionsReply 0 0 false)),
      .provider (.app (.switchValueChanged 0 false)), .provider .logout] ++ signInProvider 17 ++
      acceptRequest 1 2 25 ++ [acceptanceReturns 3 25 17])
    (.provider (.app (.timerFired 1))) (fun x y => (written x.1 y.1).length == 1) (fun _ _ => id)
    (by decide +kernel)
  exact ⟨x, y, beq_iff_eq.mp htest, sessions_are_isolated .empty hrun hcond⟩

/-- A step writes on behalf of no screen of the session. -/
def writesAstray (x : Handset × Option Session) (e : HandsetEvent) (y : Handset × Option Session) :
    Bool :=
  !(written x.1 y.1).isEmpty && match x.2, x.1.writer e with
    | some s, some (role, kind, n) => role != s.role || !s.stay.owns kind n
    | _, _ => true

theorem not_isolated_of_astray {x y : Handset × Option Session} {e : HandsetEvent}
    (hstep : (recorded distance).Step x e y) (hastray : writesAstray x e y = true) :
    ¬Isolated distance x.2 x.1 e := by
  intro hisolated
  obtain ⟨hsome, hwriter⟩ := Bool.and_eq_true_iff.mp hastray
  obtain ⟨frame, hmem⟩ := List.exists_mem_of_ne_nil (written x.1 y.1) (by simpa using hsome)
  obtain ⟨s, kind, n, hs, hw, hle, _⟩ :=
    hisolated.frames y.1 (Machine.withHistory_step.mp hstep).1 frame hmem
  simp [hs, hw, Stay.owns, hle] at hwriter

/-- The event traps on a dashboard that an earlier session has left behind. -/
def trapsLeftBehind (x : Handset × Option Session) (e : HandsetEvent) : Bool :=
  match x.1.readsProfile e with
  | some (role, i) =>
    !((Session.on x.2 role).any fun s => s.owns .dashboard i) &&
      match x.1.device.userID role, x.1.react (fun _ _ => 0) e with
      | .error f, some (.error f') => f == f'
      | _, _ => false
  | none => false

theorem trapsOnProfile_of {x : Handset × Option Session} {e : HandsetEvent}
    (htraps : trapsLeftBehind x e = true) : TrapsOnProfile (fun _ _ => 0) x.2 x.1 e := by
  unfold trapsLeftBehind at htraps
  split at htraps
  · rename_i role i hreads
    obtain ⟨hleft, hfault⟩ := Bool.and_eq_true_iff.mp htraps
    split at hfault
    · rename_i f f' hid htrap
      obtain rfl : f = f' := by simpa using hfault
      have hnot : ¬Stay.Owns (Session.on x.2 role) .dashboard i := by
        rintro ⟨s, hs, hle⟩
        simp [hs, Stay.owns, hle] at hleft
      exact ⟨role, i, f, hreads, hnot, hid, htrap⟩
    · exact absurd hfault (by simp)
  · exact absurd htraps (by simp)

/-- Provider 16 signs out while the timer is running.  As provider 17 answers a request of its own,
the timer writes for the client of before; and with client 24 on the handset it traps. -/
theorem old_timer_acts :
    (∃ x y : Handset × Option Session, (recorded fun _ _ => 0).Run (launch .empty, none) x ∧
      ∃ e, (recorded fun _ _ => 0).Step x e y ∧ ¬Isolated (fun _ _ => 0) x.2 x.1 e) ∧
    ∃ x : Handset × Option Session, (recorded fun _ _ => 0).Run (launch .empty, none) x ∧
      ∃ e, TrapsOnProfile (fun _ _ => 0) x.2 x.1 e ∧ ¬Isolated (fun _ _ => 0) x.2 x.1 e := by
  constructor
  · obtain ⟨x, y, hrun, _, hstep, htest⟩ := Machine.exists_step_of_replay
      (recorded fun _ _ => 0) (fun _ _ => true) (launch .empty, none)
      (timerRuns ++ [.provider .logout] ++ signInProvider 17 ++ acceptRequest 1 2 25)
      (.provider (.app (.timerFired 0)))
      (fun x y => writesAstray x (.provider (.app (.timerFired 0))) y) (fun _ _ _ => trivial)
      (by decide +kernel)
    exact ⟨x, y, hrun, _, hstep, not_isolated_of_astray hstep htest⟩
  · obtain ⟨x, hrun, htest⟩ := Machine.exists_run_of_replay
      (recorded fun _ _ => 0) (fun _ _ => true) (launch .empty, none)
      (timerRuns ++ [.provider .logout] ++ signInClient 24)
      (fun x => trapsLeftBehind x (.provider (.app (.timerFired 0)))) (fun _ _ _ => trivial)
      (by decide +kernel)
    have htraps := trapsOnProfile_of htest
    exact ⟨x, hrun, _, htraps, fun hisolated => hisolated.profile htraps⟩

end Handset

end WeatherAccommodation
