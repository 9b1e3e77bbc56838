/-
# Resuming a trip at launch

A signed-in app asks at launch whether a trip is active.  The completion handler presents the
dashboard first and stores the trip after that, and UIKit runs the dashboard's `viewDidLoad` inside
`present` or later.  The provider's dashboard looks for the trip in its `viewDidLoad` and never
again; the client's looks when its list of providers has arrived, which it asks for at the first
location report.

So the client's app ends on the right screen in either order (`ClientPhone.resumes_iff`), once the
list is there.  The provider's does not see the trip if its dashboard loads before `present`
returns, and if it loads later it stops at an accepted trip: the sheet needs a location, which a
dashboard that loads has not got (`ProviderPhone.resumes_iff`, `resume_order_matters`).
-/
import WeatherAccommodation.AcceptedTrip
import WeatherAccommodation.ResumedTrip

namespace WeatherAccommodation

open Foundation Reactive

/-! ## 1. The launch -/

/-- When the `viewDidLoad` of the presented dashboard runs. -/
inductive LoadOrder where
  | beforeReturn
  | afterReturn
  deriving DecidableEq, Repr

/-- What happens around the dashboard by itself: it appears, and the location is reported.  The
location manager is started by `viewDidLoad`. -/
inductive Settling where
  | viewWillAppear
  | report (location : CLLocation)

/-- The trip as the status check reports it: accepted or later, with what is read off it. -/
structure ActiveTrip (trip : Dict) : Prop where
  status : ∃ n, Dict.int? trip "StatusCode" = some n ∧ 6 ≤ n
  startTime : (Dict.int? trip "TripStartTime").isSome = true
  tripId : (Dict.int? trip "TripId").isSome = true
  clientId : (Dict.int? trip "ClientId").isSome = true
  providerId : (Dict.int? trip "ProviderId").isSome = true

/-- Its client is given. -/
theorem ActiveTrip.exists_clientId {trip : Dict} (h : ActiveTrip trip) :
    ∃ clientId, Dict.get? trip "ClientId" = some clientId := by
  obtain ⟨id, hid⟩ := Option.isSome_iff_exists.mp h.clientId
  obtain ⟨clientId, hclient, _⟩ := Option.bind_eq_some_iff.mp hid
  exact ⟨clientId, hclient⟩

/-- The trip is accepted, and not further. -/
def IsAccepted (trip : Dict) : Prop := Dict.int? trip "StatusCode" = some 6

namespace ProviderPhone

/-- A new process of the app, with its provider signed in. -/
def atLaunch (defaults : UserDefaults) : ProviderPhone where
  app := { device := { defaults := defaults, appDelegate := {} } }

/-- The completion handler of `checkTripExistStatus`, and `viewDidLoad`. -/
def launchEvents (trip : Dict) : LoadOrder → List PhoneEvent
  | .beforeReturn => [.app .viewDidLoad, .app (.tripStatusReply (some trip))]
  | .afterReturn => [.app (.tripStatusReply (some trip)), .app .viewDidLoad]

def settle : Settling → PhoneEvent
  | .viewWillAppear => .app (.viewWillAppear 0)
  | .report location => .didUpdateLocations location

/-- The detail sheet of an accepted trip, or the screen of one that is further, is there. -/
def ShowsTrip (p : ProviderPhone) (trip : Dict) : Prop :=
  (IsAccepted trip ∧ ∃ sheet ∈ p.app.sheets, sheet.isPresented = true ∧
      sheet.currentRequest = trip) ∨
    (¬IsAccepted trip ∧ ∃ k screen, p.pushed.head? = some (.startTrip k) ∧
      p.app.trips[k]? = some screen ∧ screen.currentRequest = trip)

/-- The app comes through the launch, and ends on the screen of the trip. -/
def Resumes (distance : CLLocation → CLLocation → ℚ) (p : ProviderPhone) (trip : Dict)
    (order : LoadOrder) (after : List Settling) : Prop :=
  ∃ q, (machine distance).replay (fun _ _ => true) p
    (launchEvents trip order ++ after.map settle) = some q ∧ q.ShowsTrip trip

end ProviderPhone

namespace ClientPhone

/-- A new process of the app, with its client signed in. -/
def atLaunch (defaults : UserDefaults) : ClientPhone where
  app := .launch { defaults := defaults, appDelegate := {} } false

def launchEvents (trip : Dict) : LoadOrder → List ClientPhoneEvent
  | .beforeReturn => [.app .pushDashboard, .tripStatusReply (some trip)]
  | .afterReturn => [.tripStatusReply (some trip), .app .pushDashboard]

def settle : Settling → ClientPhoneEvent
  | .viewWillAppear => .app (.session 0 .viewWillAppear)
  | .report location => .didUpdateLocations location

/-- The detail sheet of an accepted trip, or the screen of one that is further, is there. -/
def ShowsTrip (p : ClientPhone) (trip : Dict) : Prop :=
  (IsAccepted trip ∧ ∃ sheet ∈ p.sheets, sheet.isPresented = true ∧ sheet.currentRequest = trip) ∨
    (¬IsAccepted trip ∧ ∃ k screen, p.stack.head? = some (.clientTrip k) ∧
      p.trips[k]? = some screen ∧ screen.currentRequest = trip)

/-- The launch, up to the answer to the list of providers that the first report asks for, and what
comes after it. -/
def resumeEvents (trip : Dict) (order : LoadOrder) (before : List Settling) (first : CLLocation)
    (between : List Settling) (reply : Option Dict) (after : List Settling) :
    List ClientPhoneEvent :=
  launchEvents trip order ++ (before.map settle ++ (.didUpdateLocations first ::
    (between.map settle ++ (.app (.session 0 (.onlineProviderList 0 reply)) ::
      after.map settle))))

/-- The app comes through the launch, and ends on the screen of the trip. -/
def Resumes (distance : CLLocation → CLLocation → ℚ) (p : ClientPhone) (trip : Dict)
    (events : List ClientPhoneEvent) : Prop :=
  ∃ q, (machine distance).replay (fun _ _ => true) p events = some q ∧ q.ShowsTrip trip

/-- A list of providers, each with its coordinates. -/
def WellFormedList (response : Dict) : Prop :=
  ∃ items, Dict.array? response "OnlineProviderList" = some items ∧ ∀ item ∈ items,
    ∃ dict, item = .obj dict ∧ (Provider.ofDict dict).location?.isSome = true

end ClientPhone

/-! ## 2. The provider -/

namespace ProviderPhone

variable {distance : CLLocation → CLLocation → ℚ} {p p₀ q : ProviderPhone} {trip : Dict}

/-- A phone with one dashboard, on which no request was ever shown, and with the screens of
`p₀`. -/
structure Undisturbed (p₀ p : ProviderPhone) : Prop where
  sheets : p.app.sheets = p₀.app.sheets
  trips : p.app.trips = p₀.app.trips
  pushed : p.pushed = p₀.pushed
  home : p.home = some 0
  dashboard : ∃ d, p.app.dashboards = [d] ∧ d.currentRequest = none ∧ d.hasMarkers = false
  taker : p.taker = none
  delegate : ∀ j, p.app.locationDelegate ≠ some (.clientDetail j)

/-- A dashboard without a request only keeps its location. -/
theorem tracingLocation_idle {d : ProviderDashboard} (l : CLLocation)
    (hrequest : d.currentRequest = none) :
    d.tracingLocation distance l = .ok { d with location := some l } := by
  simp [ProviderDashboard.tracingLocation, hrequest, pure, Except.pure]

/-- Nothing that happens by itself changes a screen, or traps. -/
theorem Undisturbed.step (h : Undisturbed p₀ p) (e : Settling) :
    ∃ q, (machine distance).Step p (settle e) q ∧ Undisturbed p₀ q := by
  obtain ⟨d, hd, hrequest, hmarkers⟩ := h.dashboard
  cases e with
  | viewWillAppear =>
    refine ⟨p.follow (.viewWillAppear 0) (p.app.viewWillAppear 0 d), ?_, ?_⟩
    · simp [Machine.Step, machine, react, settle, admits, h.home, ProviderApp.react, hd, Except.map]
    · exact {
        sheets := h.sheets
        trips := h.trips
        pushed := by
          simpa [follow, pushNew, ProviderApp.viewWillAppear, ProviderApp.putDashboard]
            using h.pushed
        home := h.home
        dashboard := ⟨d, by simp [follow, ProviderApp.viewWillAppear, ProviderApp.putDashboard, hd,
          ProviderDashboard.clearTrip, hmarkers], hrequest, hmarkers⟩
        taker := h.taker
        delegate := by simp [follow, ProviderApp.viewWillAppear] }
  | report l =>
    cases hdelegate : p.app.locationDelegate with
    | none =>
      refine ⟨{ p with lastLocation := some l }, ?_, ⟨h.sheets, h.trips, h.pushed, h.home,
        ⟨d, hd, hrequest, hmarkers⟩, h.taker, h.delegate⟩⟩
      simp [Machine.Step, machine, react, settle, didUpdateLocations, ProviderApp.tracingLocation,
        hdelegate, tellTaker, h.taker, pure, Except.pure]
    | some screen =>
      cases screen with
      | dashboard i =>
        cases i with
        | zero =>
          have htold : p.didUpdateLocations distance l = .ok { p with
              lastLocation := some l
              app := p.app.putDashboard 0 { d with location := some l } } := by
            simp [didUpdateLocations, ProviderApp.tracingLocation, hdelegate, hd,
              tracingLocation_idle l hrequest, pure, Except.pure, bind, Except.bind]
          refine ⟨_, congrArg some htold, ⟨h.sheets, h.trips, h.pushed, h.home, ?_, h.taker,
            h.delegate⟩⟩
          exact ⟨{ d with location := some l }, by simp [ProviderApp.putDashboard, hd], hrequest,
            hmarkers⟩
        | succ i =>
          refine ⟨{ p with lastLocation := some l }, ?_, ⟨h.sheets, h.trips, h.pushed, h.home,
            ⟨d, hd, hrequest, hmarkers⟩, h.taker, h.delegate⟩⟩
          simp [Machine.Step, machine, react, settle, didUpdateLocations,
            ProviderApp.tracingLocation, hdelegate, hd, pure, Except.pure]
      | clientDetail j => exact absurd hdelegate (h.delegate j)
      | startTrip k =>
        refine ⟨{ p with lastLocation := some l }, ?_, ⟨h.sheets, h.trips, h.pushed, h.home,
          ⟨d, hd, hrequest, hmarkers⟩, h.taker, h.delegate⟩⟩
        simp [Machine.Step, machine, react, settle, didUpdateLocations,
          ProviderApp.tracingLocation, hdelegate, pure, Except.pure]

/-- Once the dashboard has loaded, the screens stay what they are. -/
theorem Undisturbed.replay (h : Undisturbed p₀ p) (after : List Settling) :
    ∃ q, (machine distance).replay (fun _ _ => true) p (after.map settle) = some q ∧
      Undisturbed p₀ q := by
  refine Machine.exists_replay h fun a ha e he => ⟨rfl, ?_⟩
  obtain ⟨settling, _, rfl⟩ := List.mem_map.mp he
  exact ha.step settling

/-- What is on screen shows the trip exactly if it did before. -/
theorem Undisturbed.showsTrip_iff (h : Undisturbed p₀ p) :
    p.ShowsTrip trip ↔ p₀.ShowsTrip trip := by
  simp only [ShowsTrip, h.sheets, h.trips, h.pushed]

/-- A launch that comes to its end decides what is shown. -/
theorem resumes_of_undisturbed {order : LoadOrder} {after : List Settling}
    (hlaunch : (machine distance).replay (fun _ _ => true) p (launchEvents trip order) = some p₀)
    (h : Undisturbed p₀ p₀) : p.Resumes distance trip order after ↔ p₀.ShowsTrip trip := by
  have hafter : ∃ q, (machine distance).replay (fun _ _ => true) p₀ (after.map settle) = some q ∧
      Undisturbed p₀ q := h.replay after
  obtain ⟨q, hq, hundisturbed⟩ := hafter
  rw [Resumes, Machine.replay_append_of hlaunch, hq]
  simpa using hundisturbed.showsTrip_iff

/-- The dashboard has loaded, and nothing else. -/
def idle (device : Device) : ProviderPhone where
  app := { device := device, dashboards := [{}] }
  home := some 0

/-- The trip is stored. -/
def storedTrip (defaults : UserDefaults) (trip : Dict) : Device where
  defaults := defaults
  appDelegate := { doesRequestExist := true, providerExistingTrip := some trip }

theorem undisturbed_idle (device : Device) : Undisturbed (idle device) (idle device) where
  sheets := rfl
  trips := rfl
  pushed := rfl
  home := rfl
  dashboard := ⟨{}, rfl, rfl, rfl⟩
  taker := rfl
  delegate := by simp [idle]

/-- The screen of the trip lies over the dashboard that has loaded. -/
def underWay (defaults : UserDefaults) (trip : Dict) (clientId : Json) : ProviderPhone :=
  follow { app := { device := storedTrip defaults trip } } .viewDidLoad
    (ProviderApp.resumed { device := storedTrip defaults trip } trip clientId)

theorem undisturbed_underWay (defaults : UserDefaults) (trip : Dict) (clientId : Json) :
    Undisturbed (underWay defaults trip clientId) (underWay defaults trip clientId) where
  sheets := rfl
  trips := rfl
  pushed := rfl
  home := rfl
  dashboard := ⟨{ currentAcceptedRequest := some trip }, rfl, rfl, rfl⟩
  taker := rfl
  delegate := by simp [underWay, follow, ProviderApp.resumed]

/-- A dashboard that loads with an accepted trip stored has no location for its sheet. -/
theorem viewDidLoad_accepted (defaults : UserDefaults) (h : ActiveTrip trip)
    (haccepted : IsAccepted trip) :
    ({ device := storedTrip defaults trip } : ProviderApp).viewDidLoad =
      .error (.notANumber "latitude") := by
  obtain ⟨clientId, hclient⟩ := h.exists_clientId
  have hsix : int? Numeric_TripStatus.accepted = some 6 := by decide
  have hkey : forceKey trip "ClientId" = .ok clientId := forceKey_eq_ok.mpr hclient
  have hstatus : Dict.int? trip "StatusCode" = some 6 := haccepted
  simp [ProviderApp.viewDidLoad, ProviderApp.checkIfTripExists, storedTrip, hkey, hstatus, hsix,
    ProviderApp.openBottomSheet, ProviderDashboard.setAccepted, ProviderDashboard.ownLocation,
    bind, Except.bind]

/-- One that loads with a later trip stored pushes the screen of that trip. -/
theorem viewDidLoad_later (defaults : UserDefaults) (h : ActiveTrip trip)
    (hlater : ¬IsAccepted trip) : ∃ clientId,
      ({ device := storedTrip defaults trip } : ProviderApp).viewDidLoad =
        .ok (ProviderApp.resumed { device := storedTrip defaults trip } trip clientId) := by
  obtain ⟨clientId, hclient⟩ := h.exists_clientId
  obtain ⟨startTime, htime⟩ := Option.isSome_iff_exists.mp h.startTime
  have hsix : int? Numeric_TripStatus.accepted = some 6 := by decide
  have hkey : forceKey trip "ClientId" = .ok clientId := forceKey_eq_ok.mpr hclient
  have htime : forceInt trip "TripStartTime" = .ok startTime := forceInt_eq_ok.mpr htime
  have hstatus : Dict.int? trip "StatusCode" ≠ some 6 := hlater
  refine ⟨clientId, ?_⟩
  simp [ProviderApp.viewDidLoad, ProviderApp.checkIfTripExists, storedTrip, hkey, htime, hstatus,
    hsix, ProviderApp.pushStartTrip, StartTrip.viewDidLoad, ProviderDashboard.setAccepted,
    ProviderApp.resumed, ProviderApp.connect, ProviderApp.putDashboard, bind, Except.bind, pure,
    Except.pure]

/-- **When the provider's trip is resumed.** -/
theorem resumes_iff (defaults : UserDefaults) (h : ActiveTrip trip) (order : LoadOrder)
    (after : List Settling) : (atLaunch defaults).Resumes distance trip order after ↔
      order = .afterReturn ∧ ¬IsAccepted trip := by
  cases order with
  | beforeReturn =>
    have hlaunch : (machine distance).replay (fun _ _ => true) (atLaunch defaults)
        (launchEvents trip .beforeReturn) = some (idle (storedTrip defaults trip)) := rfl
    rw [resumes_of_undisturbed hlaunch (undisturbed_idle _)]
    simp [ShowsTrip, idle]
  | afterReturn =>
    have hstored : (machine distance).Step (atLaunch defaults) (.app (.tripStatusReply (some trip)))
        { app := { device := storedTrip defaults trip } } := rfl
    by_cases haccepted : IsAccepted trip
    · have htraps : (machine distance).react { app := { device := storedTrip defaults trip } }
          (.app .viewDidLoad) = some (.error (.notANumber "latitude")) := by
        simp [machine, react, admits, ProviderApp.react, viewDidLoad_accepted defaults h haccepted,
          Except.map]
      have hstops : ¬(atLaunch defaults).Resumes distance trip .afterReturn after := by
        rintro ⟨q, hq, _⟩
        rw [launchEvents, List.cons_append, Machine.replay_cons_of rfl hstored] at hq
        obtain ⟨_, v, hv, _⟩ := Machine.replay_cons.mp hq
        exact absurd (hv.symm.trans htraps) (by simp)
      exact ⟨fun h => absurd h hstops, fun h => absurd haccepted h.2⟩
    · obtain ⟨clientId, hloads⟩ := viewDidLoad_later defaults h haccepted
      have hstep : (machine distance).Step { app := { device := storedTrip defaults trip } }
          (.app .viewDidLoad) (underWay defaults trip clientId) := by
        simp [Machine.Step, machine, react, admits, ProviderApp.react, hloads, Except.map, underWay]
      have hlaunch : (machine distance).replay (fun _ _ => true) (atLaunch defaults)
          (launchEvents trip .afterReturn) = some (underWay defaults trip clientId) :=
        (Machine.replay_cons_of rfl hstored).trans (Machine.replay_cons_of rfl hstep)
      rw [resumes_of_undisturbed hlaunch (undisturbed_underWay defaults trip clientId)]
      have hshows : (underWay defaults trip clientId).ShowsTrip trip :=
        Or.inr ⟨haccepted, 0, { currentRequest := trip, isTripStarted := true }, rfl, rfl, rfl⟩
      exact ⟨fun _ => ⟨rfl, haccepted⟩, fun _ => hshows⟩

end ProviderPhone

/-! ## 3. The client's list -/

/-- The entries of a list are all taken in, or the first without coordinates stops the app. -/
theorem ClientDashboard.appendOnlineProviders_isOk_iff
    {distance : CLLocation → CLLocation → ℚ} {items : List Json} {d : ClientDashboard}
    (hlocation : d.clientLocation.isSome = true) :
    (∃ d', appendOnlineProviders distance items d = .ok d') ↔ ∀ item ∈ items,
      ∃ dict, item = .obj dict ∧ (Provider.ofDict dict).location?.isSome = true := by
  induction items generalizing d with
  | nil => simp [appendOnlineProviders]
  | cons item items ih =>
    obtain ⟨here, hhere⟩ := Option.isSome_iff_exists.mp hlocation
    simp only [appendOnlineProviders, bind_eq_ok, unwrap_eq_ok, List.forall_mem_cons]
    constructor
    · rintro ⟨d', dict, hdict, u, hu, h⟩
      obtain ⟨_, l, _, hl, _⟩ := appendIfReachable_cases hu
      have hkept : u.clientLocation = d.clientLocation := by
        obtain ⟨_, _, rfl⟩ := appendIfReachable_frame hu
        rfl
      have htail := (ih (by rw [hkept]; exact hlocation)).mp ⟨d', h⟩
      exact ⟨⟨dict, Json.asDict?_eq_some.mp hdict, by simp [hl]⟩, htail⟩
    · rintro ⟨⟨dict, rfl, hl⟩, htail⟩
      obtain ⟨l, hl⟩ := Option.isSome_iff_exists.mp hl
      obtain ⟨u, hu⟩ := appendIfReachable_isOk distance hhere hl
      have hkept : u.clientLocation = d.clientLocation := by
        obtain ⟨_, _, rfl⟩ := appendIfReachable_frame hu
        rfl
      obtain ⟨d', h⟩ := (ih (by rw [hkept]; exact hlocation)).mpr htail
      exact ⟨d', dict, rfl, u, hu, h⟩

namespace ClientPhone

/-- The trip is stored. -/
def storedTrip (defaults : UserDefaults) (trip : Dict) : Device where
  defaults := defaults
  appDelegate := { doesRequestExist := true, clientExistingTrip := some trip }

end ClientPhone

namespace ClientSession

variable {distance : CLLocation → CLLocation → ℚ} {s t : ClientSession} {defaults : UserDefaults}
  {trip response : Dict} {userID : Int}

/-- The device has the trip, and knows its client. -/
structure Stores (device : Device) (trip : Dict) (userID : Int) : Prop where
  flag : device.appDelegate.doesRequestExist = true
  trip : device.appDelegate.clientExistingTrip = some trip
  owner : device.userID .clientApp = .ok userID

/-- An accepted trip is resumed with its sheet. -/
theorem checkIfTripExists_accepted (h : ActiveTrip trip) (hstores : Stores s.device trip userID)
    (free : s.isPresenting = false) {here : CLLocation}
    (hhere : s.dashboard.clientLocation = some here) (haccepted : IsAccepted trip) :
    s.checkIfTripExists = .ok ((s.resume trip userID).presentSheet none here) := by
  have hstatus : Dict.int? trip "StatusCode" = some 6 := haccepted
  have hsheet : (s.resume trip userID).openBottomSheet none =
      .ok ((s.resume trip userID).presentSheet none here) :=
    (openBottomSheet_eq_ok (s := s.resume trip userID) free).mpr
      ⟨here, hhere, fun _ => h.startTime, rfl⟩
  simp [checkIfTripExists, hstores.flag, hstores.trip, hstores.owner, hstatus, hsheet, bind,
    Except.bind]

/-- The trip screen listens to the sockets. -/
def handOver (s : ClientSession) : ClientSession :=
  { s with sockets := { s.sockets with delegate := some .clientTrip } }

/-- A later trip is resumed with its screen. -/
theorem checkIfTripExists_later (h : ActiveTrip trip) (hstores : Stores s.device trip userID)
    (hlater : ¬IsAccepted trip) :
    s.checkIfTripExists = .ok (s.resume trip userID).handOver := by
  have hstatus : Dict.int? trip "StatusCode" ≠ some 6 := hlater
  obtain ⟨time, htime⟩ := Option.isSome_iff_exists.mp h.startTime
  have htime : forceInt trip "TripStartTime" = .ok time := forceInt_eq_ok.mpr htime
  simp [checkIfTripExists, hstores.flag, hstores.trip, hstores.owner, hstatus, htime, handOver,
    bind, Except.bind, pure, Except.pure]

/-- What the dashboard shows of the trip it has resumed. -/
structure Resumed (s t : ClientSession) (trip : Dict) : Prop where
  marker : t.dashboard.clientMarker = s.dashboard.clientMarker
  device : t.device = s.device
  screen : (IsAccepted trip ∧ t.sockets.delegate = some .providerDetail ∧
      ∃ sheet, t.sheets = s.sheets ++ [sheet] ∧ sheet.currentRequest = trip) ∨
    (¬IsAccepted trip ∧ t.sockets.delegate = some .clientTrip ∧ t.dashboard.currentRequest = trip)

/-- **The list resumes the trip, unless an entry of it stops the app.** -/
theorem onlineProviderList_resumes (h : ActiveTrip trip) (hstores : Stores s.device trip userID)
    (free : s.isPresenting = false) (hlocation : s.dashboard.clientLocation.isSome = true)
    (hlist : ClientPhone.WellFormedList response) :
    ∃ t, s.onlineProviderList distance (some response) = .ok t ∧ Resumed s t trip := by
  obtain ⟨items, hitems, hentries⟩ := hlist
  have hloads : ∃ d, ClientDashboard.appendOnlineProviders distance items s.dashboard = .ok d :=
    (ClientDashboard.appendOnlineProviders_isOk_iff hlocation).mpr hentries
  obtain ⟨d, hd⟩ := hloads
  obtain ⟨here, hhere⟩ := Option.isSome_iff_exists.mp hlocation
  obtain ⟨ps, ms, hframe⟩ := ClientDashboard.appendOnlineProviders_frame hd
  have hchecks : s.onlineProviderList distance (some response) =
      (s.put d).watchStatus.checkIfTripExists := by
    simp [onlineProviderList, hitems, hd, bind, Except.bind]
  have hhere' : (s.put d).watchStatus.dashboard.clientLocation = some here := by
    rw [← hhere, hframe]
    rfl
  have hmarker : d.clientMarker = s.dashboard.clientMarker := by rw [hframe]
  have hstores' : Stores (s.put d).watchStatus.device trip userID := hstores
  rw [hchecks]
  by_cases haccepted : IsAccepted trip
  · refine ⟨_, checkIfTripExists_accepted h hstores' free hhere' haccepted, ?_⟩
    rw [presentSheet_of_free (s := (s.put d).watchStatus.resume trip userID) free]
    exact ⟨hmarker, rfl, Or.inl ⟨haccepted, rfl, _, rfl, rfl⟩⟩
  · exact ⟨_, checkIfTripExists_later h hstores' haccepted, hmarker, rfl,
      Or.inr ⟨haccepted, rfl, rfl⟩⟩

/-- A list that was taken in had all its coordinates. -/
theorem wellFormedList_of_ok (hlocation : s.dashboard.clientLocation.isSome = true)
    (h : s.onlineProviderList distance (some response) = .ok t) :
    ClientPhone.WellFormedList response := by
  rcases onlineProviderList_inv h with ⟨hnone, _⟩ | ⟨r, items, d, hr, hitems, happend, _⟩
  · exact absurd hnone (by simp)
  · obtain rfl := Option.some.inj hr
    exact ⟨items, hitems,
      (ClientDashboard.appendOnlineProviders_isOk_iff hlocation).mp ⟨d, happend⟩⟩

end ClientSession

/-! ## 4. The client -/

namespace ClientPhone

variable {distance : CLLocation → CLLocation → ℚ} {p p₀ q : ClientPhone} {trip : Dict}
  {P : ClientSession → Prop}

/-- What of a sheet does not change by itself. -/
def faces (p : ClientPhone) : List (Dict × Bool) :=
  p.sheets.map fun sheet => (sheet.currentRequest, sheet.isPresented)

/-- A phone with one dashboard, of which `P` holds, and with the screens of `p₀`. -/
structure Undisturbed (P : ClientSession → Prop) (p₀ p : ClientPhone) : Prop where
  stack : p.stack = p₀.stack
  trips : p.trips = p₀.trips
  faces : p.faces = p₀.faces
  device : p.app.device = p₀.app.device
  owner : p.locationOwner = p₀.locationOwner
  onStack : p₀.stack.contains (.dashboard 0) = true
  session : ∃ s, p.app.sessions = [s] ∧ s.dashboard.clientMarker = none ∧ P s

/-- Neither the globals that are lent nor a location changes that `P` holds. -/
structure Steady (P : ClientSession → Prop) : Prop where
  lent : ∀ (s : ClientSession) (a : ClientApp), P s → P (a.lend s)
  located : ∀ (s : ClientSession) (l : CLLocation), P s → P (s.tracingLocation l)

theorem clientMarker_tracingLocation (s : ClientSession) (l : CLLocation) :
    (s.tracingLocation l).dashboard.clientMarker = s.dashboard.clientMarker := by
  unfold ClientSession.tracingLocation
  split
  · rfl
  · rfl

theorem device_tracingLocation (s : ClientSession) (l : CLLocation) :
    (s.tracingLocation l).device = s.device := by
  unfold ClientSession.tracingLocation
  split
  · rfl
  · rfl

/-- A sheet that is told a location looks the same. -/
theorem faces_putSheet {j : Nat} {sheet : TripProviderDetail} (hsheet : p.sheets[j]? = some sheet)
    (l : CLLocation) : (p.putSheet j (sheet.tracingLocation l)).faces = p.faces := by
  have hface : (p.sheets.map fun sheet => (sheet.currentRequest, sheet.isPresented))[j]? =
      some ((sheet.tracingLocation l).currentRequest, (sheet.tracingLocation l).isPresented) := by
    simp [hsheet, TripProviderDetail.tracingLocation]
  obtain ⟨hj, hget⟩ := List.getElem?_eq_some_iff.mp hface
  simp only [faces, putSheet, List.map_set]
  rw [← hget]
  exact List.set_getElem_self hj

/-- Only the one dashboard can be told a location. -/
theorem react_tracing {s : ClientSession} {i : Nat} {l : CLLocation} {r : Except Trap ClientApp}
    (hs : p.app.sessions = [s])
    (h : ClientApp.react distance p.app (.session i (.tracingLocation l)) = some r) :
    i = 0 ∧ r = .ok (p.app.store 0 ((p.app.lend s).tracingLocation l)) := by
  simp only [ClientApp.react, ClientApp.isOwnEvent, if_true, hs, Option.bind_eq_some_iff] at h
  obtain ⟨s', hs', h⟩ := h
  have hi : i = 0 := by
    have hlt : i < 1 := (List.getElem?_eq_some_iff.mp hs').1
    omega
  subst hi
  obtain rfl : s = s' := by simpa using hs'
  refine ⟨rfl, ?_⟩
  simp only [ClientSession.react] at h
  split at h
  · exact (Option.some.inj h).symm
  · exact absurd h (by simp)

/-- Nothing that happens by itself changes a screen, or traps. -/
theorem Undisturbed.step (h : Undisturbed P p₀ p) (hP : Steady P) (e : Settling) :
    ∃ q, (machine distance).Step p (settle e) q ∧ Undisturbed P p₀ q := by
  obtain ⟨s, hs, hmarker, hPs⟩ := h.session
  cases e with
  | viewWillAppear =>
    refine ⟨{ p with app := p.app.store 0 (p.app.lend s) }, ?_, ⟨h.stack, h.trips, h.faces,
      h.device, h.owner, h.onStack, p.app.lend s, ?_, hmarker, hP.lent s p.app hPs⟩⟩
    · have hmarker' : (p.app.lend s).dashboard.clientMarker = none := hmarker
      have honStack : p.stack.contains (.dashboard 0) = true := by rw [h.stack]; exact h.onStack
      have happears : ClientApp.react distance p.app (.session 0 .viewWillAppear) =
          some (.ok (p.app.store 0 (p.app.lend s))) := by
        simp [ClientApp.react, ClientApp.isOwnEvent, hs, ClientSession.react,
          ClientDashboard.viewWillAppear, ClientDashboard.clearTrip, hmarker', Except.map, pure,
          Except.pure, bind, Except.bind, ClientSession.put]
      simp only [Machine.Step, machine, react, settle, admits, honStack, happears, if_true,
        Option.map_some, Except.map, follow]
    · simp [ClientApp.store, hs]
  | report l =>
    have hkept : ∀ alerts, Undisturbed P p₀ { p with lastLocation := some l, alerts := alerts } :=
      fun alerts => ⟨h.stack, h.trips, h.faces, h.device, h.owner, h.onStack, s, hs, hmarker, hPs⟩
    have hstep : ∀ {q}, ({ p with lastLocation := some l } : ClientPhone).tellOwner distance l =
        .ok q → (machine distance).Step p (settle (.report l)) q := by
      intro q hq
      simp only [Machine.Step, machine, react, settle, hq]
    cases howner : p.locationOwner with
    | none =>
      refine ⟨{ p with lastLocation := some l }, hstep ?_, hkept p.alerts⟩
      simp [tellOwner, howner, pure, Except.pure]
    | some owner =>
      cases owner with
      | dashboard i =>
        cases htells : ClientApp.react distance p.app (.session i (.tracingLocation l)) with
        | none =>
          refine ⟨{ p with lastLocation := some l }, hstep ?_, hkept p.alerts⟩
          simp [tellOwner, howner, htells, pure, Except.pure]
        | some r =>
          obtain ⟨rfl, rfl⟩ := react_tracing hs htells
          refine ⟨{ p with
              lastLocation := some l
              app := p.app.store 0 ((p.app.lend s).tracingLocation l) }, hstep ?_,
            ⟨h.stack, h.trips, h.faces, ?_, h.owner, h.onStack, (p.app.lend s).tracingLocation l,
              ?_, ?_, hP.located _ l (hP.lent s p.app hPs)⟩⟩
          · simp [tellOwner, howner, htells, pure, Except.pure, bind, Except.bind]
          · exact (device_tracingLocation (p.app.lend s) l).trans h.device
          · simp [ClientApp.store, hs]
          · exact (clientMarker_tracingLocation (p.app.lend s) l).trans hmarker
      | providerDetail j =>
        cases hsheet : p.sheets[j]? with
        | none =>
          refine ⟨{ p with lastLocation := some l }, hstep ?_, hkept p.alerts⟩
          simp [tellOwner, howner, hsheet, pure, Except.pure]
        | some sheet =>
          refine ⟨{ p with lastLocation := some l }.putSheet j (sheet.tracingLocation l), hstep ?_,
            ⟨h.stack, h.trips, ?_, h.device, h.owner, h.onStack, s, hs, hmarker, hPs⟩⟩
          · simp [tellOwner, howner, hsheet, pure, Except.pure]
          · rw [← h.faces]
            exact faces_putSheet hsheet l
      | clientTrip k =>
        refine ⟨{ p with lastLocation := some l }, hstep ?_, hkept p.alerts⟩
        simp [tellOwner, howner, pure, Except.pure]
      | cancelAlert m =>
        cases halert : p.alerts[m]? with
        | none =>
          refine ⟨{ p with lastLocation := some l }, hstep ?_, hkept p.alerts⟩
          simp [tellOwner, howner, halert, pure, Except.pure]
        | some alert =>
          refine ⟨_, hstep ?_, hkept (p.alerts.set m (alert.tracingLocation l))⟩
          simp [tellOwner, howner, halert, pure, Except.pure]

/-- The screens stay what they are. -/
theorem Undisturbed.replay (h : Undisturbed P p₀ p) (hP : Steady P) (es : List Settling) :
    ∃ q, (machine distance).replay (fun _ _ => true) p (es.map settle) = some q ∧
      Undisturbed P p₀ q := by
  refine Machine.exists_replay h fun a ha e he => ⟨rfl, ?_⟩
  obtain ⟨settling, _, rfl⟩ := List.mem_map.mp he
  exact ha.step hP settling

/-- What is on screen shows the trip exactly if it did before. -/
theorem Undisturbed.showsTrip_iff (h : Undisturbed P p₀ p) :
    p.ShowsTrip trip ↔ p₀.ShowsTrip trip := by
  have hsheet : ∀ q : ClientPhone, (∃ sheet ∈ q.sheets, sheet.isPresented = true ∧
      sheet.currentRequest = trip) ↔ (trip, true) ∈ q.faces := by
    intro q
    simp only [ClientPhone.faces, List.mem_map, Prod.mk.injEq]
    exact exists_congr fun sheet => and_congr_right fun _ => and_comm
  simp only [ShowsTrip, hsheet, h.faces, h.trips, h.stack]

/-- The list has been asked for, and there is a location. -/
structure Asked (s : ClientSession) : Prop where
  first : s.dashboard.isFirst = false
  waits : s.listCalls.waiting 0 = some ()
  location : s.dashboard.clientLocation.isSome = true

/-- The dashboard hears of locations, and asks for the list at the first. -/
def Listens (s : ClientSession) : Prop :=
  s.locationDelegate = .dashboard ∧
    (Asked s ∨ (s.dashboard.isFirst = true ∧ s.listCalls = .empty))

theorem Asked.tracingLocation {s : ClientSession} (h : Asked s) (l : CLLocation) :
    Asked (s.tracingLocation l) := by
  simp only [ClientSession.tracingLocation, h.first, Bool.false_eq_true, if_false]
  exact ⟨rfl, h.waits, rfl⟩

/-- The first report asks for the list. -/
theorem Listens.asked {s : ClientSession} (h : Listens s) (l : CLLocation) :
    Asked (s.tracingLocation l) := by
  rcases h.2 with hasked | ⟨hfirst, hempty⟩
  · exact hasked.tracingLocation l
  · simp only [ClientSession.tracingLocation, hfirst, if_true, hempty]
    exact ⟨rfl, rfl, rfl⟩

theorem steady_asked : Steady Asked where
  lent _ _ h := ⟨h.first, h.waits, h.location⟩
  located _ l h := h.tracingLocation l

theorem steady_listens : Steady Listens where
  lent _ _ h := ⟨h.1, h.2.imp (fun hasked => ⟨hasked.first, hasked.waits, hasked.location⟩) id⟩
  located s l h := by
    refine ⟨?_, Or.inl (h.asked l)⟩
    unfold ClientSession.tracingLocation
    split
    · exact h.1
    · exact h.1

theorem steady_true : Steady fun _ => True := ⟨fun _ _ _ => trivial, fun _ _ _ => trivial⟩

/-- The dashboard has loaded, the trip is stored, and no location is known yet. -/
def loaded (defaults : UserDefaults) (trip : Dict) (device : Device) : ClientPhone where
  app := {
    device := storedTrip defaults trip
    onMain := false
    sessions := [{ device := device }]
    profileCalls := Callbacks.empty.issue () }
  stack := [.dashboard 0]
  locationOwner := some (.dashboard 0)

theorem undisturbed_loaded (defaults : UserDefaults) (trip : Dict) (device : Device) :
    Undisturbed Listens (loaded defaults trip device) (loaded defaults trip device) where
  stack := rfl
  trips := rfl
  faces := rfl
  device := rfl
  owner := rfl
  onStack := rfl
  session := ⟨{ device := device }, rfl, rfl, rfl, Or.inr ⟨rfl, rfl⟩⟩

/-- In either order the dashboard loads, and the trip is stored. -/
theorem launch_loads {defaults : UserDefaults} {userID : Int}
    (hid : (storedTrip defaults trip).userID .clientApp = .ok userID) (order : LoadOrder) :
    ∃ device, (machine distance).replay (fun _ _ => true) (atLaunch defaults)
      (launchEvents trip order) = some (loaded defaults trip device) := by
  have hpush : ∀ delegate : AppDelegate,
      ({ device := { defaults := defaults, appDelegate := delegate }, onMain := false } :
        ClientApp).pushDashboard = .ok {
          device := { defaults := defaults, appDelegate := delegate }
          onMain := false
          sessions := [{ device := { defaults := defaults, appDelegate := delegate } }]
          profileCalls := Callbacks.empty.issue () } := by
    intro delegate
    have hid' : ({ defaults := defaults, appDelegate := delegate } : Device).userID .clientApp =
        .ok userID := hid
    simp [ClientApp.pushDashboard, hid', bind, Except.bind, pure, Except.pure]
  cases order with
  | beforeReturn =>
    refine ⟨{ defaults := defaults, appDelegate := {} }, ?_⟩
    simp [launchEvents, Machine.replay, machine, react, admits, atLaunch, ClientApp.launch,
      ClientApp.react, hpush, Except.map, follow, followDashboard, tripStatusReply, loaded,
      storedTrip]
  | afterReturn =>
    refine ⟨storedTrip defaults trip, ?_⟩
    simp [launchEvents, Machine.replay, machine, react, admits, atLaunch, ClientApp.launch,
      ClientApp.react, hpush, Except.map, follow, followDashboard, tripStatusReply, loaded,
      storedTrip]

/-- The first report makes the dashboard ask for the list. -/
theorem Undisturbed.report (h : Undisturbed Listens p₀ p)
    (howner : p₀.locationOwner = some (.dashboard 0)) (l : CLLocation) :
    ∃ q, (machine distance).Step p (.didUpdateLocations l) q ∧ Undisturbed Asked p₀ q := by
  obtain ⟨s, hs, hmarker, hPs⟩ := h.session
  have hdelegate : (p.app.lend s).locationDelegate = .dashboard := hPs.1
  have htells : ClientApp.react distance p.app (.session 0 (.tracingLocation l)) =
      some (.ok (p.app.store 0 ((p.app.lend s).tracingLocation l))) := by
    simp [ClientApp.react, ClientApp.isOwnEvent, hs, ClientSession.react, hdelegate, Except.map]
  have hasked : Asked ((p.app.lend s).tracingLocation l) :=
    (steady_listens.lent s p.app hPs).asked l
  refine ⟨{ p with
      lastLocation := some l
      app := p.app.store 0 ((p.app.lend s).tracingLocation l) }, ?_,
    ⟨h.stack, h.trips, h.faces, ?_, h.owner, h.onStack, (p.app.lend s).tracingLocation l, ?_, ?_,
      hasked⟩⟩
  · simp [Machine.Step, machine, react, tellOwner, h.owner.trans howner, htells, pure, Except.pure,
      bind, Except.bind]
  · exact (device_tracingLocation (p.app.lend s) l).trans h.device
  · simp [ClientApp.store, hs]
  · exact (clientMarker_tracingLocation (p.app.lend s) l).trans hmarker

section Reply

variable {defaults : UserDefaults} {device : Device} {userID : Int} {s : ClientSession}
  {response : Dict}

/-- The dashboard when its list is answered. -/
def listing (p : ClientPhone) (s : ClientSession) : ClientSession :=
  { p.app.lend s with listCalls := s.listCalls.retire 0 }

/-- The answer to the list, handled by the dashboard. -/
theorem react_list (hs : p.app.sessions = [s]) (hasked : Asked s) (reply : Option Dict) :
    ClientApp.react distance p.app (.session 0 (.onlineProviderList 0 reply)) =
      some (((p.listing s).onlineProviderList distance reply).map (p.app.store 0)) := by
  have hwaits : (p.app.lend s).listCalls.waiting 0 = some () := hasked.waits
  simp only [ClientApp.react, ClientApp.isOwnEvent, if_true, hs, List.getElem?_cons_zero,
    Option.bind_some, ClientSession.react, hwaits, Option.map_some]
  rfl

/-- A list that did not come changes nothing on screen. -/
theorem Undisturbed.noList (h : Undisturbed Asked p₀ p) :
    ∃ q, (machine distance).Step p (.app (.session 0 (.onlineProviderList 0 none))) q ∧
      Undisturbed (fun _ => True) p₀ q := by
  obtain ⟨s, hs, hmarker, hasked⟩ := h.session
  refine ⟨{ p with app := p.app.store 0 (p.listing s) }, ?_, ⟨h.stack, h.trips, h.faces, h.device,
    h.owner, h.onStack, p.listing s, by simp [ClientApp.store, hs], hmarker, trivial⟩⟩
  simp [Machine.Step, machine, react, admits, react_list hs hasked,
    ClientSession.onlineProviderList, pure, Except.pure, Except.map, follow]

/-- A phone at its dashboard can resume whatever is stored. -/
theorem canResume_of_undisturbed (h : Undisturbed Asked (loaded defaults trip device) p) :
    p.canResume 0 = true := by
  have hstack : p.stack = [.dashboard 0] := h.stack
  have hsheets : p.sheets = [] := by simpa [ClientPhone.faces, loaded] using h.faces
  simp [canResume, isVisible, sheetIsPresented, hstack, hsheets]

/-- A list that came resumes the trip. -/
theorem Undisturbed.list (h : Undisturbed Asked (loaded defaults trip device) p)
    (hactive : ActiveTrip trip)
    (hid : (storedTrip defaults trip).userID .clientApp = .ok userID)
    (hlist : WellFormedList response) :
    ∃ q, (machine distance).Step p (.app (.session 0 (.onlineProviderList 0 (some response)))) q ∧
      Undisturbed (fun _ => True) q q ∧ q.ShowsTrip trip := by
  obtain ⟨s, hs, hmarker, hasked⟩ := h.session
  have hstack : p.stack = [.dashboard 0] := h.stack
  have hsheets : p.sheets = [] := by simpa [ClientPhone.faces, loaded] using h.faces
  have htrips : p.trips = [] := h.trips
  have hdevice : p.app.device = storedTrip defaults trip := h.device
  have hstores : ClientSession.Stores (p.listing s).device trip userID := by
    have hlent : (p.listing s).device = storedTrip defaults trip := hdevice
    rw [hlent]
    exact ⟨rfl, rfl, hid⟩
  have hresumes : ∃ t, (p.listing s).onlineProviderList distance (some response) = .ok t ∧
      ClientSession.Resumed (p.listing s) t trip :=
    ClientSession.onlineProviderList_resumes hactive hstores rfl hasked.location hlist
  obtain ⟨t, ht, hresumed⟩ := hresumes
  have ht₀ : (p.app.store 0 t).sessions[0]? = some t := by simp [ClientApp.store, hs]
  have hstep : (machine distance).Step p
      (.app (.session 0 (.onlineProviderList 0 (some response))))
      (p.followList 0 (p.app.store 0 t)) := by
    simp [Machine.Step, machine, react, admits, canResume_of_undisturbed h, react_list hs hasked,
      ht, Except.map, follow]
  have hmarker' : t.dashboard.clientMarker = none := hresumed.marker.trans hmarker
  have hone : (p.app.store 0 t).sessions = [t] := by simp [ClientApp.store, hs]
  rcases hresumed.screen with ⟨haccepted, hdelegate, sheet, hsheet, htrip⟩ |
    ⟨hlater, hdelegate, htrip⟩
  · have hopens : p.followList 0 (p.app.store 0 t) = p.openSheet 0 (p.app.store 0 t) := by
      have hdelegate' : (p.app.store 0 t).sockets.delegate = some .providerDetail := hdelegate
      simp only [followList, hdelegate']
    rw [hopens, openSheet_eq ht₀ hsheet] at hstep
    refine ⟨_, hstep, ⟨rfl, rfl, rfl, rfl, rfl, by simp [hstack], t, hone, hmarker', trivial⟩,
      Or.inl ⟨haccepted, {
        delegate := 0
        currentRequest := sheet.currentRequest
        clientLocation := sheet.clientLocation }, ?_, rfl, htrip⟩⟩
    simp
  · have hpushes : p.followList 0 (p.app.store 0 t) = { p with app := p.app.store 0 t }.pushTrip
        { currentRequest := trip, tripStartDate := true } := by
      have hdelegate' : (p.app.store 0 t).sockets.delegate = some .clientTrip := hdelegate
      simp only [followList, hdelegate', ht₀, htrip]
    rw [hpushes] at hstep
    refine ⟨_, hstep, ⟨rfl, rfl, rfl, rfl, rfl, by simp [pushTrip, hstack], t, hone, hmarker',
      trivial⟩,
      Or.inr ⟨hlater, 0, { currentRequest := trip, tripStartDate := true }, ?_, ?_, rfl⟩⟩
    · simp [pushTrip, htrips]
    · simp [pushTrip, htrips]

/-- **When the client's trip is resumed.** -/
theorem resumes_iff (h : ActiveTrip trip)
    (hid : (storedTrip defaults trip).userID .clientApp = .ok userID) (order : LoadOrder)
    (before : List Settling) (first : CLLocation) (between : List Settling) (reply : Option Dict)
    (after : List Settling) :
    (atLaunch defaults).Resumes distance trip
        (resumeEvents trip order before first between reply after) ↔
      ∃ response, reply = some response ∧ WellFormedList response := by
  have hlaunch : ∃ device, (machine distance).replay (fun _ _ => true) (atLaunch defaults)
      (launchEvents trip order) = some (loaded defaults trip device) := launch_loads hid order
  obtain ⟨device, hlaunch⟩ := hlaunch
  have hbefore : ∃ q, (machine distance).replay (fun _ _ => true) (loaded defaults trip device)
      (before.map settle) = some q ∧ Undisturbed Listens (loaded defaults trip device) q :=
    (undisturbed_loaded defaults trip device).replay steady_listens before
  obtain ⟨p, hp, hlistens⟩ := hbefore
  have hfirst : ∃ q, (machine distance).Step p (.didUpdateLocations first) q ∧
      Undisturbed Asked (loaded defaults trip device) q := hlistens.report rfl first
  obtain ⟨q, hq, hasked⟩ := hfirst
  have hbetween : ∃ r, (machine distance).replay (fun _ _ => true) q (between.map settle) =
      some r ∧ Undisturbed Asked (loaded defaults trip device) r :=
    hasked.replay steady_asked between
  obtain ⟨r, hr, hasked⟩ := hbetween
  rw [Resumes, resumeEvents, Machine.replay_append_of hlaunch, Machine.replay_append_of hp,
    Machine.replay_cons_of rfl hq, Machine.replay_append_of hr]
  have hafter : ∀ {p₁ u : ClientPhone},
      (machine distance).Step r (.app (.session 0 (.onlineProviderList 0 reply))) u →
      Undisturbed (fun _ => True) p₁ u → ((∃ v, (machine distance).replay (fun _ _ => true) r
          (.app (.session 0 (.onlineProviderList 0 reply)) :: after.map settle) = some v ∧
            v.ShowsTrip trip) ↔ p₁.ShowsTrip trip) := by
    intro p₁ u hu hundisturbed
    have hsettles : ∃ v, (machine distance).replay (fun _ _ => true) u (after.map settle) =
        some v ∧ Undisturbed (fun _ => True) p₁ v := hundisturbed.replay steady_true after
    obtain ⟨v, hv, hundisturbed⟩ := hsettles
    rw [Machine.replay_cons_of rfl hu, hv]
    simpa using hundisturbed.showsTrip_iff
  cases reply with
  | none =>
    have hnone : ∃ u, (machine distance).Step r (.app (.session 0 (.onlineProviderList 0 none))) u ∧
        Undisturbed (fun _ => True) (loaded defaults trip device) u := hasked.noList
    obtain ⟨u, hu, hundisturbed⟩ := hnone
    rw [hafter hu hundisturbed]
    simp [ShowsTrip, loaded]
  | some response =>
    by_cases hlist : WellFormedList response
    · have hresumes : ∃ u, (machine distance).Step r
          (.app (.session 0 (.onlineProviderList 0 (some response)))) u ∧
          Undisturbed (fun _ => True) u u ∧ u.ShowsTrip trip := hasked.list h hid hlist
      obtain ⟨u, hu, hundisturbed, hshows⟩ := hresumes
      rw [hafter hu hundisturbed]
      exact ⟨fun _ => ⟨response, rfl, hlist⟩, fun _ => hshows⟩
    · constructor
      · rintro ⟨v, hv, _⟩
        obtain ⟨_, u, hu, _⟩ := Machine.replay_cons.mp hv
        obtain ⟨s, hs, _, hsasked⟩ := hasked.session
        obtain ⟨_, b, hb, _⟩ : StepOf distance r u
          (.app (.session 0 (.onlineProviderList 0 (some response)))) := step_inv hu
        have hb : ClientApp.react distance r.app
          (.session 0 (.onlineProviderList 0 (some response))) = some (.ok b) := hb
        rw [react_list hs hsasked] at hb
        obtain ⟨t, ht, _⟩ := map_eq_ok.mp (Option.some.inj hb)
        have hlocation : (r.listing s).dashboard.clientLocation.isSome = true := hsasked.location
        exact ⟨response, rfl, ClientSession.wellFormedList_of_ok hlocation ht⟩
      · rintro ⟨_, hsome, hwell⟩
        obtain rfl := Option.some.inj hsome
        exact absurd hwell hlist

end Reply

end ClientPhone

/-! ## 5. Both apps -/

/-- **When an active trip is resumed.**  For every active trip that is found at launch, either order
in which the dashboard loads, and location reports at any time: the provider's app ends on the
screen of the trip exactly if the dashboard loads after `present` has returned and the trip is
further than accepted; the client's exactly if the list of providers arrives well-formed. -/
theorem active_trip_resumes_iff (distance : CLLocation → CLLocation → ℚ) (defaults : UserDefaults)
    {trip : Dict} (h : ActiveTrip trip) :
    (∀ order after, (ProviderPhone.atLaunch defaults).Resumes distance trip order after ↔
      order = .afterReturn ∧ ¬IsAccepted trip) ∧
    ∀ userID, (ClientPhone.storedTrip defaults trip).userID .clientApp = .ok userID →
      ∀ order before first between reply after,
        (ClientPhone.atLaunch defaults).Resumes distance trip
            (ClientPhone.resumeEvents trip order before first between reply after) ↔
          ∃ response, reply = some response ∧ ClientPhone.WellFormedList response :=
  ⟨fun order after => ProviderPhone.resumes_iff defaults h order after,
    fun _ hid order before first between reply after =>
      ClientPhone.resumes_iff h hid order before first between reply after⟩

/-- Trip 9 is active. -/
theorem activeTrip_existing {n : Int} (hint : InInt n) (hn : 6 ≤ n) :
    ActiveTrip (existingTrip n) where
  status := ⟨n, by simp [existingTrip, Dict.int?, Dict.get?, Json.asInt?_ofInt hint], hn⟩
  startTime := rfl
  tripId := rfl
  clientId := rfl
  providerId := rfl

/-- A trip that was started is resumed by a dashboard that loads late, and by the client. -/
theorem active_trip_resumes_started :
    (ProviderPhone.atLaunch (ProviderApp.sampleProvider 16).defaults).Resumes (fun _ _ => 0)
      (existingTrip 7) .afterReturn [.viewWillAppear, .report ⟨40, -73⟩] ∧
    (ClientPhone.atLaunch ClientSession.sampleDevice.defaults).Resumes (fun _ _ => 0)
      (existingTrip 7) (ClientPhone.resumeEvents (existingTrip 7) .beforeReturn [.viewWillAppear]
        ⟨40, -73⟩ [] (some [("OnlineProviderList", .arr [])]) [.report ⟨40, -73⟩]) := by
  have hactive : ActiveTrip (existingTrip 7) := activeTrip_existing (by decide) (by decide)
  constructor
  · exact ((active_trip_resumes_iff (fun _ _ => 0) (ProviderApp.sampleProvider 16).defaults
      hactive).1 _ _).mpr ⟨rfl, by unfold IsAccepted; decide +kernel⟩
  · exact ((active_trip_resumes_iff (fun _ _ => 0) ClientSession.sampleDevice.defaults hactive).2 24
      rfl _ _ _ _ _ _).mpr ⟨_, rfl, [], rfl, by simp⟩

/-- A dashboard that loads inside `present` leaves a started trip without its screen; one that loads
later stops the app at an accepted trip. -/
theorem resume_order_matters :
    (∃ p, (ProviderPhone.machine fun _ _ => 0).replay (fun _ _ => true)
        (ProviderPhone.atLaunch (ProviderApp.sampleProvider 16).defaults)
        (ProviderPhone.launchEvents (existingTrip 7) .beforeReturn ++
          [.app (.viewWillAppear 0), .didUpdateLocations ⟨40, -73⟩]) = some p ∧
      ¬p.ShowsTrip (existingTrip 7)) ∧
    ∃ p, (ProviderPhone.machine fun _ _ => 0).replay (fun _ _ => true)
        (ProviderPhone.atLaunch (ProviderApp.sampleProvider 16).defaults)
        [.app (.tripStatusReply (some (existingTrip 6)))] = some p ∧
      (ProviderPhone.machine fun _ _ => 0).Traps p (.app .viewDidLoad)
        (.notANumber "latitude") := by
  constructor
  · have hsettles : ∃ p, (ProviderPhone.machine fun _ _ => 0).replay (fun _ _ => true)
        (ProviderPhone.idle (ProviderPhone.storedTrip (ProviderApp.sampleProvider 16).defaults
          (existingTrip 7))) [.app (.viewWillAppear 0), .didUpdateLocations ⟨40, -73⟩] = some p ∧
        ProviderPhone.Undisturbed _ p :=
      (ProviderPhone.undisturbed_idle _).replay [.viewWillAppear, .report ⟨40, -73⟩]
    obtain ⟨p, hp, hundisturbed⟩ := hsettles
    refine ⟨p, (Machine.replay_append_of rfl).trans hp, fun hshows => ?_⟩
    have hidle := hundisturbed.showsTrip_iff.mp hshows
    simp [ProviderPhone.ShowsTrip, ProviderPhone.idle] at hidle
  · have hactive : ActiveTrip (existingTrip 6) := activeTrip_existing (by decide) (by decide)
    have hloads := ProviderPhone.viewDidLoad_accepted (ProviderApp.sampleProvider 16).defaults
      hactive rfl
    refine ⟨{
      app := { device :=
        ProviderPhone.storedTrip (ProviderApp.sampleProvider 16).defaults (existingTrip 6) } },
      rfl, ?_⟩
    simp [Machine.Traps, ProviderPhone.machine, ProviderPhone.react, ProviderPhone.admits,
      ProviderApp.react, hloads, Except.map]

end WeatherAccommodation
