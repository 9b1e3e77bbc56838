/-
# What belongs to the session on the client's side

`OwnScreens` as in `ProviderSide.lean`, for the client's phone.  No timer of a client's dashboard
writes, so nothing has to be stopped when a stay ends.  But a dashboard lives on in the calls it has
made: the answer to a cancellation makes it tell the other parties, and the list of providers makes
it resume a trip, whoever is signed in by then.
-/
import WeatherAccommodation.Client.Screens
import WeatherAccommodation.Handset.Phones
import WeatherAccommodation.Handset.Session

namespace WeatherAccommodation

open Foundation Reactive

namespace ClientPhone

variable {distance : CLLocation → CLLocation → ℚ} {stay : Option Stay} {p q : ClientPhone}
  {e : ClientPhoneEvent}

/-! ## 1. The invariant and the condition -/

/-- The event that ends a stay. -/
def leaves : ClientPhoneEvent → Bool
  | .app .logout => true
  | _ => false

/-- The stay after an event. -/
def stayAfter (stay : Option Stay) (e : ClientPhoneEvent) : Option Stay :=
  if leaves e then none else stay

structure OwnScreens (stay : Option Stay) (p : ClientPhone) : Prop where
  onMain : p.app.onMain = stay.isNone
  stack : ∀ i, .dashboard i ∈ p.stack → Stay.Owns stay .dashboard i
  sheet : ∀ (j : Nat) (sheet : TripProviderDetail), p.sheets[j]? = some sheet →
    sheet.isPresented = true → Stay.Owns stay .sheet j
  alert : ∀ m, p.alert = some m → Stay.Owns stay .alert m
  /-- What comes next will be its own. -/
  bounds : ∀ s, stay = some s → s.first .dashboard ≤ p.app.sessions.length ∧
    s.first .sheet ≤ p.sheets.length ∧ s.first .alert ≤ p.alerts.length
  dashboardTrips : ∀ s, stay = some s → ∀ (i : Nat) (t : ClientSession), s.first .dashboard ≤ i →
    p.app.sessions[i]? = some t → isTripOf .clientApp s.id t.dashboard.currentRequest = true
  sheetTrips : ∀ s, stay = some s → ∀ (j : Nat) (sheet : TripProviderDetail), s.first .sheet ≤ j →
    p.sheets[j]? = some sheet → isTripOf .clientApp s.id sheet.currentRequest = true
  alertTrips : ∀ s, stay = some s → ∀ (m : Nat) (alert : RequestCancelAlert),
    s.first .alert ≤ m → p.alerts[m]? = some alert →
      isTripOf .clientApp s.id alert.currentRequest = true

/-- The dashboard whose callback reads the profile's id when the event is handled. -/
def readsProfile (p : ClientPhone) : ClientPhoneEvent → Option Nat
  | .app (.session i (.cancelReply _ true)) => some i
  | .app (.session i (.onlineProviderList _ (some _))) => if p.doesRequestExist then some i else none
  | .lateProviderList i _ _ => some i
  | _ => none

/-- An acceptance on the request socket. -/
def isForTrip (p : ClientPhone) (socket : Nat) : Message → Bool
  | some (.obj dict) => p.app.sockets.clientCommonDataSocket != some socket &&
      p.app.sockets.clientproviderRequestSocket == some socket &&
      Dict.string? dict "RequestType" == some Trip_Status.accepted
  | _ => false

/-- What the dashboard resumes is a trip of the account, if the dashboard is one of the stay; if it
is not, the profile is at least a client's. -/
def resumesWithin (stay : Option Stay) (p : ClientPhone) (i : Nat) : Bool :=
  match stay.filter fun s => s.owns .dashboard i with
  | some s => p.app.device.appDelegate.clientExistingTrip.all (isTripOf .clientApp s.id)
  | none => p.app.device.hasID .clientApp

/-- The condition on a step.  An acceptance that reaches a dashboard of the stay is one of the
account, and so is the trip that it resumes; where a dashboard of an earlier stay resumes one, the
profile is a client's; and a cancellation is answered before its stay is over. -/
def keepsToStay (stay : Option Stay) (p : ClientPhone) : ClientPhoneEvent → Bool
  | .onMessage socket text _ =>
    match p.socketOwner with
    | some (.dashboard i) => !p.isForTrip socket text ||
        stay.all fun s => !s.owns .dashboard i || isAboutTripOf .clientApp s.id text
    | _ => true
  | .app (.session i (.cancelReply _ true)) => stay.any fun s => s.owns .dashboard i
  | .app (.session i (.onlineProviderList _ (some _))) =>
    !p.doesRequestExist || p.resumesWithin stay i
  | .lateProviderList i _ _ => p.resumesWithin stay i
  | _ => true

theorem makesDashboard_of_isEntry {ev : AppEvent} (h : isEntry (.app ev) = false) :
    ClientApp.makesDashboard ev = false := by
  cases ev with
  | signInReply reply => exact absurd h (by simp [isEntry])
  | pushDashboard => exact absurd h (by simp [isEntry])
  | _ => rfl

/-! ## 2. A stay begins, goes on and ends -/

/-- The numbers that are free. -/
def firstScreens (p : ClientPhone) : ScreenKind → Nat
  | .dashboard => p.app.sessions.length
  | .sheet => p.sheets.length
  | .alert => p.alerts.length

namespace OwnScreens

theorem start (device : Device) : OwnScreens none { app := .launch device true } where
  onMain := rfl
  stack := by simp
  sheet := by simp
  alert := by simp
  bounds := by simp
  dashboardTrips := by simp
  sheetTrips := by simp
  alertTrips := by simp

/-- A stay ends with nothing on screen. -/
theorem leave (p : ClientPhone) {b : ClientApp} (h : b.onMain = true) :
    OwnScreens none (p.goBack b) where
  onMain := h
  stack := by simp [goBack]
  sheet := by
    intro j sheet hj hpresented
    simp only [goBack, List.getElem?_map] at hj
    obtain ⟨sheet₀, _, rfl⟩ := Option.map_eq_some_iff.mp hj
    exact absurd hpresented (by simp [TripProviderDetail.dismiss])
  alert := by simp [goBack]
  bounds := by simp
  dashboardTrips := by simp
  sheetTrips := by simp
  alertTrips := by simp

/-- The visible dashboard belongs to the stay. -/
theorem visible (hp : OwnScreens stay p) {i : Nat} (h : p.isVisible i = true) :
    Stay.Owns stay .dashboard i := by
  simp only [isVisible, Bool.and_eq_true, beq_iff_eq] at h
  exact hp.stack i (List.mem_of_mem_head? h.1)

/-- What an own dashboard resumes within the stay. -/
theorem resumed {s : Stay} {i : Nat} {trip : Dict} (hs : stay = some s) (hi : s.first .dashboard ≤ i)
    (hcond : p.resumesWithin stay i = true)
    (hexisting : p.app.device.appDelegate.clientExistingTrip = some trip) :
    isTripOf .clientApp s.id trip = true := by
  have howns : s.owns .dashboard i = true := by simpa [Stay.owns] using hi
  have hown : (some s).filter (fun s => s.owns .dashboard i) = some s := by
    simp [Option.filter, howns]
  simpa [resumesWithin, hs, hown, hexisting] using hcond

/-- **The trip of a dashboard of the stay.** -/
theorem dashboardTrip_after (hp : OwnScreens stay p) (h : (machine distance).Step p e q)
    (hentry : isEntry e = false) (hcond : keepsToStay stay p e = true) {s : Stay}
    (hs : stay = some s) {i : Nat} {t : ClientSession} (hi : s.first .dashboard ≤ i)
    (ht : q.app.sessions[i]? = some t) :
    isTripOf .clientApp s.id t.dashboard.currentRequest = true := by
  have howns : s.owns .dashboard i = true := by simpa [Stay.owns] using hi
  have hmakes : ∀ ev, e = .app ev → ClientApp.makesDashboard ev = false := by
    rintro ev rfl
    exact makesDashboard_of_isEntry hentry
  cases step_trip h hmakes ht with
  | kept listed htrip => exact htrip ▸ hp.dashboardTrips s hs i _ hi listed
  | @accepted socket text inBackground trip owner other listens acceptance htrip =>
    obtain ⟨rfl, htype⟩ := acceptance
    have hfor : p.isForTrip socket (some (.obj trip)) = true := by
      simpa [isForTrip, listens, htype] using other
    rw [htrip]
    simpa [keepsToStay, owner, hfor, hs, howns, isAboutTripOf] using hcond
  | resumed call response flag existing htrip =>
    have hwithin : p.resumesWithin stay i = true := by simpa [keepsToStay, flag] using hcond
    rw [htrip]
    exact resumed hs hi hwithin existing
  | resumedLate call response existing htrip =>
    rw [htrip]
    exact resumed hs hi hcond existing

/-- **A step within the stay.** -/
theorem stays (hp : OwnScreens stay p) (hleaves : leaves e = false) (hentry : isEntry e = false)
    (hcond : keepsToStay stay p e = true) (h : (machine distance).Step p e q) :
    OwnScreens stay q := by
  have happ : ∀ ev, e = .app ev → ClientApp.makesDashboard ev = false ∧ ev ≠ .logout := by
    rintro ev rfl
    refine ⟨makesDashboard_of_isEntry hentry, ?_⟩
    rintro rfl
    exact absurd hleaves (by simp [leaves])
  have hscreens : ScreensStep p q e := step_screens h happ
  have htrips := fun {s : Stay} (hs : stay = some s) {i : Nat} {t : ClientSession} =>
    hp.dashboardTrip_after h hentry hcond hs (i := i) (t := t)
  refine ⟨hscreens.onMain.trans hp.onMain, fun i hi => hp.stack i (hscreens.stack i hi), ?_, ?_, ?_,
    fun s hs i t => htrips hs, ?_, ?_⟩
  · intro j sheet hj hpresented
    rcases hscreens.sheets.at_index hj with ⟨sheet₀, hold, _, hkept⟩ | ⟨rfl, i, t, hvisible, _⟩
    · exact hp.sheet j sheet₀ hold (hkept hpresented)
    · obtain ⟨s, hs, _⟩ := hp.visible hvisible
      exact ⟨s, hs, (hp.bounds s hs).2.1⟩
  · intro m hm
    rcases hscreens.alerts.shown hm with hold | ⟨rfl, j, sheet, listed, presented⟩
    · exact hp.alert m hold
    · obtain ⟨s, hs, _⟩ := hp.sheet j sheet listed presented
      exact ⟨s, hs, (hp.bounds s hs).2.2⟩
  · intro s hs
    obtain ⟨hd, hsheet, halert⟩ := hp.bounds s hs
    have hd' := sessions_length_le h
    have hsheet' := hscreens.sheets.length_le
    have halert' := hscreens.alerts.length_le
    omega
  · intro s hs j sheet hj hsheet
    rcases hscreens.sheets.at_index hsheet with ⟨sheet₀, hold, htrip, _⟩ |
      ⟨_, i, t, hvisible, ht, htrip⟩
    · rw [htrip]
      exact hp.sheetTrips s hs j sheet₀ hj hold
    · obtain ⟨s', hs', hi⟩ := hp.visible hvisible
      obtain rfl : s' = s := Option.some.inj (hs'.symm.trans hs)
      rw [htrip]
      exact htrips hs hi ht
  · intro s hs m alert hm halert
    rcases hscreens.alerts.at_index halert with ⟨alert₀, hold, htrip⟩ |
      ⟨j, sheet, hsheet, hpresented, htrip⟩
    · rw [htrip]
      exact hp.alertTrips s hs m alert₀ hm hold
    · obtain ⟨s', hs', hj⟩ := hp.sheet j sheet hsheet hpresented
      obtain rfl : s' = s := Option.some.inj (hs'.symm.trans hs)
      rw [htrip]
      exact hp.sheetTrips s' hs j sheet hj hsheet

/-- **One step of the phone.** -/
theorem step (hp : OwnScreens stay p) (hentry : isEntry e = false)
    (hcond : keepsToStay stay p e = true) (h : (machine distance).Step p e q) :
    OwnScreens (stayAfter stay e) q := by
  by_cases hleaves : leaves e = true
  · rw [stayAfter, if_pos hleaves]
    cases e with
    | app ev =>
      cases ev with
      | logout =>
        obtain ⟨_, b, hb, rfl⟩ : StepOf distance p q (.app .logout) := step_inv h
        obtain ⟨_, rfl⟩ : ClientApp.StepOf distance p.app b .logout := ClientApp.step_inv hb
        exact leave p rfl
      | _ => exact absurd hleaves (by simp [leaves])
    | _ => exact absurd hleaves (by simp [leaves])
  · rw [stayAfter, if_neg hleaves]
    exact hp.stays (by simpa using hleaves) hentry hcond h

/-- **A stay begins with a dashboard.** -/
theorem enter (hp : OwnScreens none p) {a b : ClientApp} {id : Int} (honMain : a.onMain = false)
    (hsessions : a.sessions = p.app.sessions) (hb : a.pushDashboard = .ok b) :
    OwnScreens (some ⟨id, p.firstScreens⟩) (p.followDashboard b) := by
  obtain ⟨_, hb⟩ := ClientApp.pushDashboard_inv hb
  have happ : b.onMain = false ∧ b.sessions = p.app.sessions ++ [{ device := a.device }] := by
    simp [hb, honMain, hsessions]
  obtain ⟨honMain', hsessions'⟩ := happ
  have hmore : p.app.sessions.length < b.sessions.length := by simp [hsessions']
  have hq : p.followDashboard b = { p with
      app := b
      stack := .dashboard p.app.sessions.length :: p.stack
      locationOwner := some (.dashboard p.app.sessions.length) } := by
    simp only [followDashboard, if_pos hmore]
  rw [hq]
  refine ⟨honMain', ?_, ?_, ?_, ?_, ?_, ?_, ?_⟩
  · intro i hi
    rcases List.mem_cons.mp hi with heq | hold
    · obtain rfl : i = p.app.sessions.length := by simpa using heq
      exact ⟨_, rfl, le_refl _⟩
    · exact absurd (hp.stack i hold) Stay.not_owns
  · intro j sheet hj hpresented
    exact absurd (hp.sheet j sheet hj hpresented) Stay.not_owns
  · intro m hm
    exact absurd (hp.alert m hm) Stay.not_owns
  · intro s hs
    obtain rfl := Option.some.inj hs
    exact ⟨hmore.le, le_refl _, le_refl _⟩
  · intro s hs i t hi ht
    obtain rfl := Option.some.inj hs
    have hi' : p.app.sessions.length ≤ i := hi
    have ht' : b.sessions[i]? = some t := ht
    rw [hsessions', List.getElem?_append, if_neg (by omega)] at ht'
    obtain rfl := List.mem_singleton.mp (List.mem_of_getElem? ht')
    rfl
  · intro s hs j sheet hj hsheet
    obtain rfl := Option.some.inj hs
    have hj' : p.sheets.length ≤ j := hj
    have hlt : j < p.sheets.length := (List.getElem?_eq_some_iff.mp hsheet).1
    omega
  · intro s hs m alert hm halert
    obtain rfl := Option.some.inj hs
    have hm' : p.alerts.length ≤ m := hm
    have hlt : m < p.alerts.length := (List.getElem?_eq_some_iff.mp halert).1
    omega

end OwnScreens

/-! ## 3. What is written, and what is read -/

/-- The screen whose handler writes on the request socket. -/
def writer (p : ClientPhone) : ClientPhoneEvent → Option (ScreenKind × Nat)
  | .app (.session i (.cancelReply _ true)) => some (.dashboard, i)
  | .cancelTrip j => some (.sheet, j)
  | .btnSubmitPressed _ _ => p.alert.map fun m => (.alert, m)
  | _ => none

/-- The trip that a screen carries. -/
def tripOn (p : ClientPhone) : ScreenKind → Nat → Option Dict
  | .dashboard, i => p.app.sessions[i]?.map fun s => s.dashboard.currentRequest
  | .sheet, j => p.sheets[j]?.map TripProviderDetail.currentRequest
  | .alert, m => p.alerts[m]?.map RequestCancelAlert.currentRequest

end ClientPhone

/-- The frame carries the id of the account and the id of the trip. -/
def TripCancelFrame.Carries (id : Int) (trip : Option Dict) (frame : TripCancelFrame) : Prop :=
  reads id frame.clientId = true ∧ (trip.bind fun t => Dict.get? t "TripId") = some frame.tripId

/-- A withdrawn request is named by nothing but the account. -/
def CancelFrame.Carries (id : Int) (frame : CancelFrame) : Prop := frame.clientId = id

namespace ClientPhone

variable {distance : CLLocation → CLLocation → ℚ} {stay : Option Stay} {p q : ClientPhone}
  {e : ClientPhoneEvent}

namespace OwnScreens

/-- **A cancelled trip is cancelled by a screen of the stay, and the frame carries its ids.** -/
theorem frame (hp : OwnScreens stay p) (hentry : isEntry e = false)
    (hstep : (machine distance).Step p e q) :
    q.frames = p.frames ∨ ∃ socket frame s kind n, Stay.Writes stay (p.writer e) s kind n ∧
      TripCancelFrame.Carries s.id (p.tripOn kind n) frame ∧
        q.frames = p.frames ++ [(socket, frame)] := by
  by_cases hlogout : e = .app .logout
  · subst hlogout
    obtain ⟨_, b, _, rfl⟩ : StepOf distance p q (.app .logout) := step_inv hstep
    exact Or.inl rfl
  · have happ : ∀ ev, e = .app ev → ClientApp.makesDashboard ev = false ∧ ev ≠ .logout := by
      rintro ev rfl
      refine ⟨makesDashboard_of_isEntry hentry, ?_⟩
      rintro rfl
      exact hlogout rfl
    cases (step_screens hstep happ).frames with
    | same h => exact Or.inl h
    | @cancelled j socket sheet frame listed presented names h =>
      obtain ⟨s, hs, hj⟩ := hp.sheet j sheet listed presented
      have hreads := reads_of_isTripOf (hp.sheetTrips s hs j sheet hj listed) names.1
      refine Or.inr ⟨socket, frame, s, .sheet, j, ⟨rfl, hs, hj⟩, ⟨hreads, ?_⟩, h⟩
      simpa [tripOn, listed] using names.2.1
    | @submitted m socket alert frame _ _ shown listed names h =>
      obtain ⟨s, hs, hm⟩ := hp.alert m shown
      have hreads := reads_of_isTripOf (hp.alertTrips s hs m alert hm listed) names.1
      refine Or.inr ⟨socket, frame, s, .alert, m, ⟨by simp [writer, shown], hs, hm⟩,
        ⟨hreads, ?_⟩, h⟩
      simpa [tripOn, listed] using names.2.1

/-- **And so is a request withdrawn.** -/
theorem told (hid : ∀ s, stay = some s → p.app.device.userID .clientApp = .ok s.id)
    (hcond : keepsToStay stay p e = true) {i : Nat} {t : ClientSession} (h : Told p i t e) :
    (∃ s, p.app.sessions[i]? = some s ∧ t.frames = s.frames) ∨
      (p.app.sessions[i]? = none ∧ t.frames = []) ∨
      ∃ u frame s, p.app.sessions[i]? = some u ∧ t.frames = u.frames ++ [frame] ∧
        Stay.Writes stay (p.writer e) s .dashboard i ∧ CancelFrame.Carries s.id frame := by
  cases h with
  | same listed h => exact Or.inl ⟨_, listed, h⟩
  | fresh new h => exact Or.inr (Or.inl ⟨new, h⟩)
  | @told call u frame listed id h =>
    obtain ⟨s, hs, hi⟩ := Stay.owns_of_any hcond
    refine Or.inr (Or.inr ⟨u, frame, s, listed, h, ⟨rfl, hs, hi⟩, ?_⟩)
    exact Except.ok.inj (id.symm.trans (hid s hs))

/-- **What an earlier stay has left behind finds an id in the profile.** -/
theorem profile (hcond : keepsToStay stay p e = true) {i : Nat}
    (hreads : p.readsProfile e = some i) :
    Stay.Owns stay .dashboard i ∨ p.app.device.hasID .clientApp = true := by
  have hresumes : p.resumesWithin stay i = true →
      Stay.Owns stay .dashboard i ∨ p.app.device.hasID .clientApp = true := by
    intro hwithin
    unfold resumesWithin at hwithin
    split at hwithin
    · rename_i s hown
      obtain ⟨hs, howns⟩ := Option.filter_eq_some_iff.mp hown
      exact Or.inl ⟨s, hs, by simpa [Stay.owns] using howns⟩
    · exact Or.inr hwithin
  unfold readsProfile at hreads
  split at hreads
  · obtain rfl := Option.some.inj hreads
    exact Or.inl (Stay.owns_of_any hcond)
  · split at hreads
    · rename_i hflag
      obtain rfl := Option.some.inj hreads
      exact hresumes (by simpa [keepsToStay, hflag] using hcond)
    · exact absurd hreads (by simp)
  · obtain rfl := Option.some.inj hreads
    exact hresumes hcond
  · exact absurd hreads (by simp)

end OwnScreens

end ClientPhone

/-! ## 4. What is stored -/

namespace ClientApp

variable {distance : CLLocation → CLLocation → ℚ} {a b : ClientApp} {e : AppEvent}

/-- The profile that the event stores. -/
def storesProfile : AppEvent → Option Dict
  | .profileReply _ (some reply) =>
    if Dict.int? reply "Success" = some successCode then some reply else none
  | _ => none

/-- What an event of the client's app leaves under a key of the account. -/
theorem step_value {key : DefaultsKey} (hkey : key.isOfAccount = true)
    (h : (machine distance).Step a e b) (he : makesDashboard e = false) :
    Leaves (a.device.defaults.value key) (b.device.defaults.value key) (storesProfile e) key := by
  have hof : StepOf distance a b e := step_inv h
  have hcard : key ≠ .userCardSelected ∧ key ≠ .userStripeId ∧ key ≠ .userCardCount := by
    cases key with
    | userCardSelected | userCardCount | userStripeId => exact absurd hkey (by decide)
    | _ => decide
  have hanswer : ∀ {c : ClientApp} {number : Nat} {f : Wallet → Except Trap Wallet},
      c.answerWallet number f = .ok b → b.device = c.device := by
    intro c number f hc
    rcases answerWallet_inv hc with ⟨_, rfl⟩ | ⟨_, _, _, _, rfl⟩
    · rfl
    · rfl
  cases e with
  | session k ev =>
    obtain ⟨own, s, t, _, hstep, rfl⟩ := hof
    obtain ⟨charge, hdevice⟩ := ClientSession.step_device hstep rfl (ne_elsewhere own)
    exact .same (by simp [store, hdevice, lend])
  | signInReply reply => exact absurd he (by simp [makesDashboard])
  | pushDashboard => exact absurd he (by simp [makesDashboard])
  | logout =>
    obtain ⟨_, rfl⟩ := hof
    by_cases hflag : key = .iSUerActivated
    · subst hflag
      exact .lowered (by simp [logout, UserDefaults.setBool])
    · exact .same (by simp [logout, UserDefaults.setBool, hflag])
  | profileReply call reply =>
    rcases profileReply_inv hof with rfl | ⟨profile, rfl, hsuccess, rfl⟩
    · exact .same rfl
    · by_cases hprofile : key = .userProfileInfoDef
      · subst hprofile
        have hstores : storesProfile (.profileReply call (some profile)) = some profile := by
          simp [storesProfile, hsuccess]
        exact .profile hstores (by simp)
      · exact .same (by simp [hprofile])
  | nextPressed kits =>
    obtain ⟨charge, selected, _, ⟨rfl, _⟩ | ⟨_, _, _, _, _, rfl⟩⟩ := nextPressed_inv hof
    · exact .same rfl
    · exact .same rfl
  | openWallet =>
    obtain rfl := openWallet_inv hof.2.2
    exact .same rfl
  | uncoverWallet number =>
    obtain ⟨w, _, _, _, hw⟩ := hof
    obtain rfl := showWallet_inv hw
    exact .same rfl
  | leaveWallet number popped =>
    obtain ⟨w, _, _, rfl⟩ := hof
    exact .same (Wallet.viewWillDisappear_value hcard.1 hcard.2.1 hcard.2.2)
  | cardListReply call reply =>
    obtain ⟨number, _, hw⟩ := hof
    have hdevice := hanswer hw
    exact .same (congrArg (fun d => d.defaults.value key) hdevice)
  | selectRow number row =>
    obtain ⟨_, _, _, _, _, rfl⟩ := hof
    exact .same rfl
  | deleteRow number row =>
    obtain ⟨w, _, _, hw⟩ := hof
    obtain ⟨_, _, rfl⟩ := deleteRow_inv hw
    exact .same rfl
  | deleteReply call success =>
    obtain ⟨number, row, hw⟩ := hof
    have hdevice := hanswer hw
    exact .same (congrArg (fun d => d.defaults.value key) hdevice)
  | addCardFailed =>
    obtain rfl : b = a.addCardFailed := hof
    exact .same (by simp [addCardFailed, UserDefaults.setInt, hcard.2.2])

end ClientApp

namespace ClientPhone

variable {distance : CLLocation → CLLocation → ℚ} {p q : ClientPhone} {e : ClientPhoneEvent}

/-- The profile that the event stores. -/
def storesProfile : ClientPhoneEvent → Option Dict
  | .app e => ClientApp.storesProfile e
  | _ => none

/-- A message or a location for a dashboard stores nothing. -/
theorem defaults_of_session {k : Nat} {ev : ClientEvent} {b : ClientApp}
    (h : (ClientApp.machine distance).Step p.app (.session k ev) b) :
    b.device.defaults = p.app.device.defaults := by
  obtain ⟨own, s, t, _, hstep, rfl⟩ := ClientApp.step_inv h
  obtain ⟨charge, hdevice⟩ := ClientSession.step_device hstep rfl (ClientApp.ne_elsewhere own)
  simp [ClientApp.store, hdevice, ClientApp.lend]

/-- What an event of the client's side leaves under a key of the account. -/
theorem step_value {key : DefaultsKey} (hkey : key.isOfAccount = true)
    (h : (machine distance).Step p e q) (hentry : isEntry e = false) :
    Leaves (p.app.device.defaults.value key) (q.app.device.defaults.value key) (storesProfile e)
      key := by
  have hsame : q.app.device.defaults = p.app.device.defaults →
      Leaves (p.app.device.defaults.value key) (q.app.device.defaults.value key) (storesProfile e)
        key := fun hdefaults => .same (by rw [hdefaults])
  cases step_app h with
  | own ev _ step _ device =>
    rw [device]
    exact ClientApp.step_value hkey step (makesDashboard_of_isEntry hentry)
  | passed step _ after => exact hsame (by rw [after]; exact defaults_of_session step)
  | lateList k call response _ late after =>
    obtain ⟨userID, _, hface⟩ := ClientSession.lateProviderList_inv late
    exact hsame (by rw [after]; exact congrArg (fun f : Face => f.device.defaults) hface)
  | lateDistance k call values _ late after =>
    have hface := ClientSession.lateDistanceReply_inv late
    exact hsame (by rw [after]; exact congrArg (fun f : Face => f.device.defaults) hface)
  | quiet _ defaults => exact hsame defaults

/-- **The client's side stores the profile it has asked for, and no other.** -/
theorem step_profile (h : (machine distance).Step p e q) (hentry : isEntry e = false) :
    q.app.device.profile = p.app.device.profile ∨
      ∃ reply, storesProfile e = some reply ∧ q.app.device.profile = some (.dict reply) := by
  have hkey : DefaultsKey.userProfileInfoDef.isOfAccount = true := by decide
  cases step_value hkey h hentry with
  | same hsame => exact Or.inl hsame
  | profile stores hstored => exact Or.inr ⟨_, stores, hstored⟩

end ClientPhone

end WeatherAccommodation
