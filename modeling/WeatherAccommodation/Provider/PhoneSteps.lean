/-
# What one step of the provider's phone can do

The inversion lemmas for the handlers of `Phone.lean`, put together by `step_inv` in the manner
of `Steps.lean`.  An event of the app is a step of the app, followed.
-/
import WeatherAccommodation.Provider.Moves
import WeatherAccommodation.Provider.Phone

namespace WeatherAccommodation

open Foundation Reactive

namespace ProviderDashboard

variable {d : ProviderDashboard}

/-- The destination is read off the current request. -/
theorem destination_inv {latitude longitude : Json} (h : d.destination = .ok (latitude, longitude)) :
    ∃ request, d.currentRequest = some request ∧ Dict.get? request "latitude" = some latitude ∧
      Dict.get? request "longitude" = some longitude := by
  simp only [destination, bind_eq_ok, pure_eq_ok, Prod.mk.injEq] at h
  obtain ⟨_, hlat, _, hlong, rfl, rfl⟩ := h
  obtain ⟨request, hrequest, hlat⟩ := requestKey_inv hlat
  obtain ⟨request', hrequest', hlong⟩ := requestKey_inv hlong
  rw [hrequest] at hrequest'
  obtain rfl := Option.some.inj hrequest'
  exact ⟨request, hrequest, hlat, hlong⟩

end ProviderDashboard

namespace ProviderPhone

variable {distance : CLLocation → CLLocation → ℚ} {p q : ProviderPhone}

/-! ## 1. Handler by handler -/

theorem lateDirections_inv {i call : Nat} {d : ProviderDashboard}
    (h : p.lateDirections i call d = .ok q) :
    q = { p with
      app := p.app.putDashboard i { ProviderApp.answered d call with hasMarkers := true }
      navigationShown := i :: p.navigationShown
      routes := p.routes ++ p.app.replyRoutes i call } := by
  simp only [lateDirections, bind_eq_ok, pure_eq_ok] at h
  obtain ⟨d', hdraw, _, _, rfl⟩ := h
  rw [ProviderDashboard.drawMarkers_inv hdraw]

/-- The phone remembers a location. -/
def remember (p : ProviderPhone) (location : CLLocation) : ProviderPhone :=
  { p with lastLocation := some location }

/-- A location reaches the delegate, if there is one. -/
inductive Tells (distance : CLLocation → CLLocation → ℚ) (p q : ProviderPhone) (l : CLLocation) :
    Prop where
  | dashboard {i : Nat} {d d' : ProviderDashboard}
      (delegate : p.app.locationDelegate = some (.dashboard i))
      (listed : p.app.dashboards[i]? = some d) (told : d.tracingLocation distance l = .ok d')
      (after : q = { p.remember l with app := p.app.putDashboard i d' })
  | sheet {j : Nat} {sheet : ClientDetailSheet}
      (delegate : p.app.locationDelegate = some (.clientDetail j))
      (listed : p.app.sheets[j]? = some sheet)
      (after : q = { p.remember l with app := p.app.putSheet j (sheet.tracingLocation l) })
  | alert {m : Nat} {alert : RequestCancelAlert} (delegate : p.app.locationDelegate = none)
      (taker : p.taker = some (.alert m)) (listed : p.alerts[m]? = some alert)
      (after : q = { p.remember l with alerts := p.alerts.set m (alert.tracingLocation l) })
  | nobody (noDashboard : ∀ i, p.app.locationDelegate = some (.dashboard i) →
        p.app.dashboards[i]? = none)
      (noSheet : ∀ j, p.app.locationDelegate = some (.clientDetail j) → p.app.sheets[j]? = none)
      (noAlert : ∀ m, p.app.locationDelegate = none → p.taker = some (.alert m) →
        p.alerts[m]? = none)
      (taker : Option LocationTaker) (after : q = { p.remember l with taker := taker })

theorem didUpdateLocations_inv {l : CLLocation} (h : p.didUpdateLocations distance l = .ok q) :
    Tells distance p q l := by
  simp only [didUpdateLocations] at h
  split at h
  · rename_i r hr
    simp only [ProviderApp.tracingLocation] at hr
    simp only [bind_eq_ok, pure_eq_ok] at h
    obtain ⟨a, rfl, rfl⟩ := h
    split at hr
    · rename_i i hdelegate
      simp only [Option.map_eq_some_iff, bind_eq_ok, pure_eq_ok] at hr
      obtain ⟨d, hd, d', hd', rfl⟩ := hr
      exact .dashboard hdelegate hd hd' rfl
    · rename_i j hdelegate
      simp only [Option.map_eq_some_iff, pure_eq_ok] at hr
      obtain ⟨sheet, hsheet, rfl⟩ := hr
      exact .sheet hdelegate hsheet rfl
    · exact absurd hr (by simp)
  · rename_i hr
    have hr' : p.app.tracingLocation distance l = none := hr
    have hnoDashboard : ∀ i, p.app.locationDelegate = some (.dashboard i) →
        p.app.dashboards[i]? = none := by
      intro i hdelegate
      simpa [ProviderApp.tracingLocation, hdelegate] using hr'
    have hnoSheet : ∀ j, p.app.locationDelegate = some (.clientDetail j) →
        p.app.sheets[j]? = none := by
      intro j hdelegate
      simpa [ProviderApp.tracingLocation, hdelegate] using hr'
    split at h
    · rename_i hnone
      rw [pure_eq_ok] at h
      subst h
      simp only [tellTaker]
      split
      · rename_i m htaker
        split
        · rename_i alert halert
          exact .alert hnone htaker halert rfl
        · rename_i halert
          refine .nobody hnoDashboard hnoSheet (fun m' _ htaker' => ?_) p.taker rfl
          obtain rfl : m' = m := by simpa using htaker'.symm.trans htaker
          exact halert
      · rename_i htaker
        refine .nobody hnoDashboard hnoSheet (fun m' _ htaker' => ?_) none rfl
        exact absurd (htaker'.symm.trans htaker) (by simp)
      · rename_i htaker
        refine .nobody hnoDashboard hnoSheet (fun m' _ htaker' => ?_) p.taker rfl
        exact absurd (htaker'.symm.trans htaker) (by simp)
    · rename_i hsome
      rw [pure_eq_ok] at h
      subst h
      exact .nobody hnoDashboard hnoSheet (fun m' hnone _ => absurd hnone hsome) p.taker rfl

/-- A disconnection is noted, and a dashboard that listens may go online again. -/
theorem didDisconnect_inv {socket : Nat} {code : Option Int}
    (h : p.didDisconnect socket code = .ok q) :
    ∃ a, q = { p with closed := p.closed ++ [socket], app := a } ∧
      (a = p.app ∨ ∃ i d, p.app.sockets.delegate = some (.dashboard i) ∧
        p.app.dashboards[i]? = some d ∧ p.app.dashboardDisconnect i d code = .ok a) := by
  simp only [didDisconnect] at h
  split at h
  · rename_i i hdelegate
    split at h
    · rename_i d hd
      simp only [bind_eq_ok, pure_eq_ok] at h
      obtain ⟨a, ha, rfl⟩ := h
      exact ⟨a, rfl, Or.inr ⟨i, d, hdelegate, hd, ha⟩⟩
    · rw [pure_eq_ok] at h
      exact ⟨p.app, h.symm, Or.inl rfl⟩
  · rw [pure_eq_ok] at h
    exact ⟨p.app, h.symm, Or.inl rfl⟩

theorem btnNavigationPressed_inv {i : Nat} {d : ProviderDashboard}
    (h : p.btnNavigationPressed i d = .ok q) :
    ∃ latitude longitude, d.destination = .ok (latitude, longitude) ∧
      q = { p with routes := p.routes ++ [.navigation i latitude longitude] } := by
  simp only [btnNavigationPressed, bind_eq_ok, pure_eq_ok] at h
  obtain ⟨⟨latitude, longitude⟩, hdestination, rfl⟩ := h
  exact ⟨latitude, longitude, hdestination, rfl⟩

theorem cancelRequest_inv {j sinceAccepted sinceReached : Nat} {sheet : ClientDetailSheet}
    (h : p.cancelRequest j sheet sinceAccepted sinceReached = .ok q) :
    q = p ∨ q = p.openAlert sheet := by
  unfold cancelRequest at h
  split at h
  · simp only [bind_eq_ok] at h
    obtain ⟨_, _, h⟩ := h
    split at h
    · rw [pure_eq_ok] at h
      exact Or.inr h.symm
    · rw [pure_eq_ok] at h
      exact Or.inl h.symm
  · rw [pure_eq_ok] at h
    exact Or.inl h.symm

/-- The frame is about the alert's own trip, and carries its own copy of the location. -/
theorem btnSubmitPressed_inv {alert : RequestCancelAlert} {noShow dismisses : Bool}
    (h : p.btnSubmitPressed alert noShow dismisses = .ok q) :
    ∃ socket clientId tripId providerId a,
      (p.app.sockets.clientproviderRequestSocket = some socket ∧
        Dict.get? alert.currentRequest "ClientId" = some clientId ∧
        Dict.get? alert.currentRequest "TripId" = some tripId ∧
        Dict.get? alert.currentRequest "ProviderId" = some providerId) ∧
      a = p.app.write socket (.cancelled clientId tripId providerId alert.currentLocation
        (RequestCancelAlert.reason noShow)) ∧
      q = { p with app := if dismisses then a.dismissSheets else a, alert := none } := by
  simp only [btnSubmitPressed, bind_eq_ok, forceKey_eq_ok, pure_eq_ok] at h
  obtain ⟨socket, hsocket, clientId, hclient, tripId, htrip, providerId, hprovider, rfl⟩ := h
  exact ⟨socket, clientId, tripId, providerId, _,
    ⟨ProviderApp.requestSocket_eq_ok.mp hsocket, hclient, htrip, hprovider⟩, rfl, rfl⟩

/-! ## 2. Event by event -/

/-- What the event leaves behind. -/
def StepOf (distance : CLLocation → CLLocation → ℚ) (p q : ProviderPhone) : PhoneEvent → Prop
  | .app e =>
    p.admits e = true ∧ ∃ b, (ProviderApp.machine distance).Step p.app e b ∧ q = p.follow e b
  | .lateDirections i call =>
    ∃ d, p.app.dashboards[i]? = some d ∧ d.directionsCalls.waiting call = some () ∧
      p.lateDirections i call d = .ok q
  | .didUpdateLocations l => p.didUpdateLocations distance l = .ok q
  | .didDisconnect socket code => p.didDisconnect socket code = .ok q
  | .selectTab index takesLocation =>
    p.tabBarIsOnTop = true ∧ q = { p with selectedIndex := index }.takeIf takesLocation
  | .pushOther takesLocation =>
    p.tabBarIsOnTop = true ∧ q = { p with pushed := .other :: p.pushed }.takeIf takesLocation
  | .popViewController => p.pushed ≠ [] ∧ q = { p with pushed := p.pushed.tail }
  | .logout => p.tabBarIsOnTop = true ∧ q = p.logout
  | .goBackToMainViewController => q = p.goBackToMainViewController
  | .elsewhere defaults => q = { p with app := p.app.setDefaults defaults }
  | .btnNavigationPressed i =>
    ∃ d, p.home = some i ∧ p.app.dashboards[i]? = some d ∧ p.btnNavigationPressed i d = .ok q
  | .notifyWhenProviderHasReached j => q = { p with reached := j :: p.reached }
  | .cancelRequest j sinceAccepted sinceReached =>
    ∃ sheet, p.app.sheets[j]? = some sheet ∧ sheet.isPresented = true ∧
      p.cancelRequest j sheet sinceAccepted sinceReached = .ok q
  | .leftBarItemDidTap j =>
    ∃ sheet, p.app.sheets[j]? = some sheet ∧ sheet.isPresented = true ∧ p.alert = none ∧
      q = p.leftBarItemDidTap j sheet
  | .dismissAlert => q = { p with alert := none }
  | .btnSubmitPressed noShow dismisses =>
    ∃ m alert, p.alert = some m ∧ p.alerts[m]? = some alert ∧
      p.btnSubmitPressed alert noShow dismisses = .ok q

/-- **The inversion lemma of the phone.** -/
theorem step_inv {e : PhoneEvent} (h : (machine distance).Step p e q) : StepOf distance p q e := by
  have h' : react distance p e = some (.ok q) := h
  cases e with
  | app e =>
    simp only [react] at h'
    split at h'
    · rename_i hadmits
      obtain ⟨b, hb, rfl⟩ := handled_eq_ok.mp h'
      exact ⟨hadmits, b, hb, rfl⟩
    · exact absurd h' (by simp)
  | lateDirections i call =>
    simp only [react] at h'
    split at h'
    · exact absurd h' (by simp)
    · simp only [Option.bind_eq_some_iff, Option.map_eq_some_iff] at h'
      obtain ⟨d, hd, _, hw, h'⟩ := h'
      exact ⟨d, hd, hw, h'⟩
  | didUpdateLocations l => exact Option.some.inj h'
  | didDisconnect socket code =>
    simp only [react] at h'
    split at h'
    · exact Option.some.inj h'
    · exact absurd h' (by simp)
  | selectTab index takesLocation =>
    simp only [react] at h'
    split at h'
    · rename_i htop
      exact ⟨htop, (Except.ok.inj (Option.some.inj h')).symm⟩
    · exact absurd h' (by simp)
  | pushOther takesLocation =>
    simp only [react] at h'
    split at h'
    · rename_i htop
      exact ⟨htop, (Except.ok.inj (Option.some.inj h')).symm⟩
    · exact absurd h' (by simp)
  | popViewController =>
    simp only [react] at h'
    split at h'
    · exact absurd h' (by simp)
    · rename_i hpushed
      exact ⟨hpushed, (Except.ok.inj (Option.some.inj h')).symm⟩
  | logout =>
    simp only [react] at h'
    split at h'
    · rename_i htop
      exact ⟨htop, (Except.ok.inj (Option.some.inj h')).symm⟩
    · exact absurd h' (by simp)
  | goBackToMainViewController =>
    simp only [react] at h'
    split at h'
    · exact (Except.ok.inj (Option.some.inj h')).symm
    · exact absurd h' (by simp)
  | elsewhere defaults => exact (Except.ok.inj (Option.some.inj h')).symm
  | btnNavigationPressed i =>
    simp only [react] at h'
    split at h'
    · rename_i hshown
      obtain ⟨d, hd, h'⟩ := Option.map_eq_some_iff.mp h'
      exact ⟨d, hshown.1, hd, h'⟩
    · exact absurd h' (by simp)
  | notifyWhenProviderHasReached j =>
    simp only [react] at h'
    split at h'
    · exact (Except.ok.inj (Option.some.inj h')).symm
    · exact absurd h' (by simp)
  | cancelRequest j sinceAccepted sinceReached =>
    simp only [react, Option.bind_eq_some_iff] at h'
    obtain ⟨sheet, hsheet, h'⟩ := h'
    split at h'
    · rename_i hpresented
      exact ⟨sheet, hsheet, hpresented.1, Option.some.inj h'⟩
    · exact absurd h' (by simp)
  | leftBarItemDidTap j =>
    simp only [react, Option.bind_eq_some_iff] at h'
    obtain ⟨sheet, hsheet, h'⟩ := h'
    split at h'
    · rename_i hpresented
      exact ⟨sheet, hsheet, hpresented.1, hpresented.2, (Except.ok.inj (Option.some.inj h')).symm⟩
    · exact absurd h' (by simp)
  | dismissAlert =>
    simp only [react] at h'
    split at h'
    · exact absurd h' (by simp)
    · exact (Except.ok.inj (Option.some.inj h')).symm
  | btnSubmitPressed noShow dismisses =>
    simp only [react, Option.map_eq_some_iff, Option.bind_eq_some_iff] at h'
    obtain ⟨alert, ⟨m, hm, halert⟩, h'⟩ := h'
    exact ⟨m, alert, hm, halert, h'⟩

/-! ## 3. What becomes of a dashboard -/

/-- Who takes the location delegate changes nothing else. -/
theorem takeIf_eq (p : ProviderPhone) (takesLocation : Bool) :
    ∃ delegate taker, p.takeIf takesLocation =
      { p with app := { p.app with locationDelegate := delegate }, taker := taker } := by
  cases takesLocation with
  | false => exact ⟨p.app.locationDelegate, p.taker, rfl⟩
  | true => exact ⟨none, some .other, rfl⟩

/-- The event of the app behind an event of the phone. -/
def inner : PhoneEvent → Option ProviderEvent
  | .app e => some e
  | .lateDirections i call => some (.directionsReply i call true)
  | .didUpdateLocations l => some (.tracingLocation l)
  | .didDisconnect _ code => some (.onDisconnect code)
  | _ => none

/-- Which events have one behind them. -/
theorem inner_eq_some {e : PhoneEvent} {ev : ProviderEvent} (h : inner e = some ev) :
    e = .app ev ∨ (∃ i call, e = .lateDirections i call ∧ ev = .directionsReply i call true) ∨
      (∃ l, e = .didUpdateLocations l ∧ ev = .tracingLocation l) ∨
      ∃ socket code, e = .didDisconnect socket code ∧ ev = .onDisconnect code := by
  cases e with
  | app ev' =>
    obtain rfl : ev' = ev := Option.some.inj h
    exact Or.inl rfl
  | lateDirections i call =>
    exact Or.inr (Or.inl ⟨i, call, rfl, (Option.some.inj h).symm⟩)
  | didUpdateLocations l =>
    exact Or.inr (Or.inr (Or.inl ⟨l, rfl, (Option.some.inj h).symm⟩))
  | didDisconnect socket code =>
    exact Or.inr (Or.inr (Or.inr ⟨socket, code, rfl, (Option.some.inj h).symm⟩))
  | _ => exact absurd h (by simp [inner])

/-- What the screens and the rest of the phone leave as it is. -/
structure Untouched (p q : ProviderPhone) : Prop where
  dashboards : q.app.dashboards = p.app.dashboards
  trips : q.app.trips = p.app.trips
  sockets : q.app.sockets = p.app.sockets
  connected : q.app.connected = p.app.connected
  appDelegate : q.app.device.appDelegate = p.app.device.appDelegate
  closed : q.closed = p.closed
  lastLocation : q.lastLocation = p.lastLocation

/-- **The events that are none of the app's.** -/
theorem step_own {e : PhoneEvent} (h : (machine distance).Step p e q) (he : inner e = none) :
    Untouched p q := by
  have hof : StepOf distance p q e := step_inv h
  cases e with
  | app ev => exact absurd he (by simp [inner])
  | lateDirections i call => exact absurd he (by simp [inner])
  | didUpdateLocations l => exact absurd he (by simp [inner])
  | didDisconnect socket code => exact absurd he (by simp [inner])
  | selectTab index takesLocation =>
    obtain ⟨_, rfl⟩ := hof
    obtain ⟨_, _, htake⟩ := takeIf_eq { p with selectedIndex := index } takesLocation
    rw [htake]
    constructor <;> rfl
  | pushOther takesLocation =>
    obtain ⟨_, rfl⟩ := hof
    obtain ⟨_, _, htake⟩ := takeIf_eq { p with pushed := .other :: p.pushed } takesLocation
    rw [htake]
    constructor <;> rfl
  | popViewController =>
    obtain ⟨_, rfl⟩ := hof
    constructor <;> rfl
  | logout =>
    obtain ⟨_, rfl⟩ := hof
    constructor <;> rfl
  | goBackToMainViewController =>
    obtain rfl : q = p.goBackToMainViewController := hof
    constructor <;> rfl
  | elsewhere defaults =>
    obtain rfl : q = { p with app := p.app.setDefaults defaults } := hof
    constructor <;> rfl
  | btnNavigationPressed i =>
    obtain ⟨_, _, _, hpress⟩ := hof
    obtain ⟨_, _, _, rfl⟩ := btnNavigationPressed_inv hpress
    constructor <;> rfl
  | notifyWhenProviderHasReached j =>
    obtain rfl : q = { p with reached := j :: p.reached } := hof
    constructor <;> rfl
  | cancelRequest j sinceAccepted sinceReached =>
    obtain ⟨_, _, _, hcancel⟩ := hof
    rcases cancelRequest_inv hcancel with rfl | rfl
    · constructor <;> rfl
    · constructor <;> rfl
  | leftBarItemDidTap j =>
    obtain ⟨_, _, _, _, rfl⟩ := hof
    constructor <;> rfl
  | dismissAlert =>
    obtain rfl : q = { p with alert := none } := hof
    constructor <;> rfl
  | btnSubmitPressed noShow dismisses =>
    obtain ⟨_, _, _, _, hsubmit⟩ := hof
    obtain ⟨_, _, _, _, a, _, rfl, rfl⟩ := btnSubmitPressed_inv hsubmit
    cases dismisses with
    | false => constructor <;> rfl
    | true => constructor <;> rfl

/-- A dashboard of the phone moves as one of the app does, or stays. -/
inductive PhoneMove (distance : CLLocation → CLLocation → ℚ) (p : ProviderPhone) (i : Nat)
    (d d' : ProviderDashboard) (e : PhoneEvent) : Prop where
  | stay (event : inner e = none) (same : d' = d)
  | move {ev : ProviderEvent} (event : inner e = some ev)
      (h : ProviderApp.DashboardMove distance p.app i d ev d')

open ProviderApp in
/-- A list in which one dashboard moved. -/
theorem moves_of_set {e : PhoneEvent} {ev : ProviderEvent} {j : Nat} {d₀ d₁ : ProviderDashboard}
    (event : inner e = some ev) (quiet : ∀ i, ¬Speaks p.app i ev)
    (listed : p.app.dashboards[j]? = some d₀) (move : DashboardMove distance p.app j d₀ ev d₁)
    {i : Nat} {d' : ProviderDashboard} (hd' : (p.app.dashboards.set j d₁)[i]? = some d') :
    ∃ d, p.app.dashboards[i]? = some d ∧ PhoneMove distance p i d d' e := by
  rw [List.getElem?_set] at hd'
  split at hd'
  · rename_i hji
    subst hji
    split at hd'
    · obtain rfl := Option.some.inj hd'
      exact ⟨d₀, listed, .move event move⟩
    · exact absurd hd' (by simp)
  · exact ⟨d', hd', .move event (.stay (quiet i))⟩

open ProviderApp in
/-- **What became of one dashboard.** -/
theorem step_dashboard {e : PhoneEvent} (h : (machine distance).Step p e q) {i : Nat}
    {d' : ProviderDashboard} (hd' : q.app.dashboards[i]? = some d') :
    (∃ d, p.app.dashboards[i]? = some d ∧ PhoneMove distance p i d d' e) ∨
      (e = .app .viewDidLoad ∧ i = p.app.dashboards.length ∧
        ∃ trip, d' = { currentAcceptedRequest := trip }) := by
  have hof : StepOf distance p q e := step_inv h
  have hown : inner e = none → ∃ d, p.app.dashboards[i]? = some d ∧ PhoneMove distance p i d d' e := by
    intro he
    rw [(step_own h he).dashboards] at hd'
    exact ⟨d', hd', .stay he rfl⟩
  cases e with
  | app ev =>
    obtain ⟨_, b, hb, rfl⟩ := hof
    rcases (step_dashboards hb).at_index hd' with ⟨d, hd, hmove⟩ | ⟨rfl, hi, trip, htrip⟩
    · exact Or.inl ⟨d, hd, .move rfl hmove⟩
    · exact Or.inr ⟨rfl, hi, trip, htrip⟩
  | lateDirections j call =>
    obtain ⟨d₀, hd₀, hwaiting, hlate⟩ := hof
    obtain rfl := lateDirections_inv hlate
    exact Or.inl (moves_of_set rfl (fun _ => id) hd₀ (.directions call true true hwaiting) hd')
  | didUpdateLocations l =>
    have hlocated : inner (.didUpdateLocations l) = some (.tracingLocation l) := rfl
    cases didUpdateLocations_inv hof with
    | dashboard delegate listed told after =>
      rw [after] at hd'
      exact Or.inl (moves_of_set rfl (fun _ => id) listed (.location delegate told) hd')
    | sheet _ _ after =>
      rw [after] at hd'
      exact Or.inl ⟨d', hd', .move hlocated (.stay id)⟩
    | alert _ _ _ after =>
      rw [after] at hd'
      exact Or.inl ⟨d', hd', .move hlocated (.stay id)⟩
    | nobody _ _ _ _ after =>
      rw [after] at hd'
      exact Or.inl ⟨d', hd', .move hlocated (.stay id)⟩
  | didDisconnect socket code =>
    have hclosed : inner (.didDisconnect socket code) = some (.onDisconnect code) := rfl
    obtain ⟨a, rfl, rfl | ⟨j, d₀, _, hd₀, ha⟩⟩ := didDisconnect_inv hof
    · exact Or.inl ⟨d', hd', .move hclosed (.stay id)⟩
    · rcases dashboardDisconnect_inv ha with rfl | ⟨_, rfl⟩ | rfl
      · exact Or.inl ⟨d', hd', .move hclosed (.stay id)⟩
      · exact Or.inl ⟨d', hd', .move hclosed (.stay id)⟩
      · exact Or.inl (moves_of_set hclosed (fun _ => id) hd₀ (.disconnect code) hd')
  | selectTab | pushOther | popViewController | logout | goBackToMainViewController | elsewhere |
    btnNavigationPressed | notifyWhenProviderHasReached | cancelRequest | leftBarItemDidTap |
    dismissAlert | btnSubmitPressed => exact Or.inl (hown rfl)

/-! ## 4. What becomes of a sheet -/

/-- Why the sheet with number `j` goes off screen. -/
inductive Dismissal (p : ProviderPhone) (j : Nat) : PhoneEvent → Prop where
  | app {e : ProviderEvent} (h : ProviderApp.Dismissal p.app j e) : Dismissal p j (.app e)
  | logout : Dismissal p j .logout
  | goBack : Dismissal p j .goBackToMainViewController
  | cross : Dismissal p j (.leftBarItemDidTap j)
  | submitted (noShow : Bool) : Dismissal p j (.btnSubmitPressed noShow true)

/-- What the event does to the sheet `s` with number `j`. -/
inductive SheetMove (p : ProviderPhone) (j : Nat) (s s' : ClientDetailSheet) (e : PhoneEvent) :
    Prop where
  | stay (h : s' = s)
  | told {l : CLLocation} (event : e = .didUpdateLocations l)
      (delegate : p.app.locationDelegate = some (.clientDetail j)) (h : s' = s.tracingLocation l)
  | dismissed (event : Dismissal p j e) (h : s' = s.dismiss)

/-- A sheet comes on screen for the accepted trip of a dashboard. -/
structure Opens (p : ProviderPhone) (j : Nat) (s : ClientDetailSheet) (e : PhoneEvent) (i : Nat)
    (d : ProviderDashboard) : Prop where
  event : ∃ call, e = .app (.directionsReply i call true)
  presents : p.canPresent i = true
  number : j = p.app.sheets.length
  listed : p.app.dashboards[i]? = some d
  accepted : d.currentAcceptedRequest = some s.currentRequest
  location : d.location = some s.clientLocation

/-- What the event does to the sheets: nothing, something to one of them, the end of all of them,
or one more. -/
inductive SheetsStep (p q : ProviderPhone) (e : PhoneEvent) : Prop where
  | same (h : q.app.sheets = p.app.sheets)
  | one {j : Nat} {s s' : ClientDetailSheet} (listed : p.app.sheets[j]? = some s)
      (move : SheetMove p j s s' e) (h : q.app.sheets = p.app.sheets.set j s')
  | all (event : ∀ j, Dismissal p j e)
      (h : q.app.sheets = p.app.sheets.map ClientDetailSheet.dismiss)
  | opened {s : ClientDetailSheet} {i : Nat} {d : ProviderDashboard}
      (opens : Opens p p.app.sheets.length s e i d) (presented : s.isPresented = true)
      (h : q.app.sheets = p.app.sheets ++ [s])

/-- **What became of the sheets.** -/
theorem step_sheets {e : PhoneEvent} (h : (machine distance).Step p e q) : SheetsStep p q e := by
  have hof : StepOf distance p q e := step_inv h
  cases e with
  | app ev =>
    obtain ⟨hadmits, b, hb, rfl⟩ := hof
    cases ProviderApp.step_sheets hb with
    | same h => exact .same h
    | told event _ _ =>
      subst event
      exact absurd hadmits (by simp [admits])
    | dismissed event listed h => exact .one listed (.dismissed (.app event) rfl) h
    | @opened i call d trip here event listed accepted location hopen =>
      subst event
      have hpresents : p.canPresent i = true := by simpa [admits] using hadmits
      exact .opened ⟨⟨call, rfl⟩, hpresents, rfl, listed, accepted, location⟩ rfl hopen
  | lateDirections i call =>
    obtain ⟨_, _, _, hlate⟩ := hof
    obtain rfl := lateDirections_inv hlate
    exact .same rfl
  | didUpdateLocations l =>
    cases didUpdateLocations_inv hof with
    | dashboard _ _ _ after => exact .same (by rw [after]; rfl)
    | sheet delegate listed after => exact .one listed (.told rfl delegate rfl) (by rw [after]; rfl)
    | alert _ _ _ after => exact .same (by rw [after]; rfl)
    | nobody _ _ _ _ after => exact .same (by rw [after]; rfl)
  | didDisconnect socket code =>
    obtain ⟨a, rfl, rfl | ⟨i, d, _, _, ha⟩⟩ := didDisconnect_inv hof
    · exact .same rfl
    · rcases ProviderApp.dashboardDisconnect_inv ha with rfl | ⟨_, rfl⟩ | rfl
      · exact .same rfl
      · exact .same rfl
      · exact .same rfl
  | selectTab index takesLocation =>
    obtain ⟨_, rfl⟩ := hof
    obtain ⟨_, _, htake⟩ := takeIf_eq { p with selectedIndex := index } takesLocation
    exact .same (by rw [htake])
  | pushOther takesLocation =>
    obtain ⟨_, rfl⟩ := hof
    obtain ⟨_, _, htake⟩ := takeIf_eq { p with pushed := .other :: p.pushed } takesLocation
    exact .same (by rw [htake])
  | popViewController =>
    obtain ⟨_, rfl⟩ := hof
    exact .same rfl
  | logout =>
    obtain ⟨_, rfl⟩ := hof
    exact .all (fun _ => .logout) rfl
  | goBackToMainViewController =>
    obtain rfl : q = p.goBackToMainViewController := hof
    exact .all (fun _ => .goBack) rfl
  | elsewhere defaults =>
    obtain rfl : q = { p with app := p.app.setDefaults defaults } := hof
    exact .same rfl
  | btnNavigationPressed i =>
    obtain ⟨_, _, _, hpress⟩ := hof
    obtain ⟨_, _, _, rfl⟩ := btnNavigationPressed_inv hpress
    exact .same rfl
  | notifyWhenProviderHasReached k =>
    obtain rfl : q = { p with reached := k :: p.reached } := hof
    exact .same rfl
  | cancelRequest k sinceAccepted sinceReached =>
    obtain ⟨_, _, _, hcancel⟩ := hof
    rcases cancelRequest_inv hcancel with rfl | rfl
    · exact .same rfl
    · exact .same rfl
  | leftBarItemDidTap k =>
    obtain ⟨sheet, hsheet, _, _, rfl⟩ := hof
    exact .one hsheet (.dismissed .cross rfl) rfl
  | dismissAlert =>
    obtain rfl : q = { p with alert := none } := hof
    exact .same rfl
  | btnSubmitPressed noShow dismisses =>
    obtain ⟨_, _, _, _, hsubmit⟩ := hof
    obtain ⟨_, _, _, _, a, _, rfl, rfl⟩ := btnSubmitPressed_inv hsubmit
    cases dismisses with
    | false => exact .same rfl
    | true => exact .all (fun _ => .submitted noShow) rfl

/-- What became of one sheet. -/
theorem SheetsStep.at_index {e : PhoneEvent} (h : SheetsStep p q e) {j : Nat}
    {s' : ClientDetailSheet} (hs' : q.app.sheets[j]? = some s') :
    (∃ s, p.app.sheets[j]? = some s ∧ SheetMove p j s s' e) ∨ ∃ i d, Opens p j s' e i d := by
  cases h with
  | same h =>
    rw [h] at hs'
    exact Or.inl ⟨s', hs', .stay rfl⟩
  | @one k s s₁ listed move h =>
    rw [h, List.getElem?_set] at hs'
    split at hs'
    · rename_i hkj
      subst hkj
      split at hs'
      · obtain rfl := Option.some.inj hs'
        exact Or.inl ⟨s, listed, move⟩
      · exact absurd hs' (by simp)
    · exact Or.inl ⟨s', hs', .stay rfl⟩
  | all event h =>
    rw [h, List.getElem?_map] at hs'
    obtain ⟨s, hs, rfl⟩ := Option.map_eq_some_iff.mp hs'
    exact Or.inl ⟨s, hs, .dismissed (event j) rfl⟩
  | @opened s i d opens _ h =>
    rw [h, List.getElem?_append] at hs'
    split at hs'
    · exact Or.inl ⟨s', hs', .stay rfl⟩
    · rename_i hge
      have hj : j - p.app.sheets.length < 1 := (List.getElem?_eq_some_iff.mp hs').1
      obtain rfl : j = p.app.sheets.length := by omega
      obtain rfl := List.mem_singleton.mp (List.mem_of_getElem? hs')
      exact Or.inr ⟨i, d, opens⟩

/-- No sheet goes away. -/
theorem SheetsStep.length_le {e : PhoneEvent} (h : SheetsStep p q e) :
    p.app.sheets.length ≤ q.app.sheets.length := by
  cases h with
  | same h => rw [h]
  | one _ _ h => simp [h]
  | all _ h => simp [h]
  | opened _ _ h => simp [h]

/-! ## 5. What is written -/

/-- The frame that an event of the phone writes. -/
inductive Writes (p : ProviderPhone) : PhoneEvent → Nat → ProviderFrame → Prop where
  | app {e : ProviderEvent} {socket : Nat} {frame : ProviderFrame}
      (h : ProviderApp.Writes p.app e socket frame) : Writes p (.app e) socket frame
  | submitted {m socket : Nat} {alert : RequestCancelAlert} {noShow dismisses : Bool}
      {clientId tripId providerId : Json} (shown : p.alert = some m)
      (listed : p.alerts[m]? = some alert)
      (client : Dict.get? alert.currentRequest "ClientId" = some clientId)
      (trip : Dict.get? alert.currentRequest "TripId" = some tripId)
      (provider : Dict.get? alert.currentRequest "ProviderId" = some providerId) :
      Writes p (.btnSubmitPressed noShow dismisses) socket
        (.cancelled clientId tripId providerId alert.currentLocation
          (RequestCancelAlert.reason noShow))

/-- **Every step writes one frame at most.** -/
theorem step_frames {e : PhoneEvent} (h : (machine distance).Step p e q) :
    q.app.frames = p.app.frames ∨ ∃ socket frame, Writes p e socket frame ∧
      q.app.frames = p.app.frames ++ [(socket, frame)] := by
  have hof : StepOf distance p q e := step_inv h
  cases e with
  | app ev =>
    obtain ⟨_, b, hb, rfl⟩ := hof
    cases ProviderApp.step_frames hb with
    | same h => exact Or.inl h
    | one writes h => exact Or.inr ⟨_, _, .app writes, h⟩
  | lateDirections i call =>
    obtain ⟨_, _, _, hlate⟩ := hof
    obtain rfl := lateDirections_inv hlate
    exact Or.inl rfl
  | didUpdateLocations l =>
    cases didUpdateLocations_inv hof with
    | dashboard _ _ _ after => exact Or.inl (by rw [after]; rfl)
    | sheet _ _ after => exact Or.inl (by rw [after]; rfl)
    | alert _ _ _ after => exact Or.inl (by rw [after]; rfl)
    | nobody _ _ _ _ after => exact Or.inl (by rw [after]; rfl)
  | didDisconnect socket code =>
    obtain ⟨a, rfl, rfl | ⟨i, d, _, _, ha⟩⟩ := didDisconnect_inv hof
    · exact Or.inl rfl
    · rcases ProviderApp.dashboardDisconnect_inv ha with rfl | ⟨_, rfl⟩ | rfl
      · exact Or.inl rfl
      · exact Or.inl rfl
      · exact Or.inl rfl
  | selectTab index takesLocation =>
    obtain ⟨_, rfl⟩ := hof
    obtain ⟨_, _, htake⟩ := takeIf_eq { p with selectedIndex := index } takesLocation
    exact Or.inl (by rw [htake])
  | pushOther takesLocation =>
    obtain ⟨_, rfl⟩ := hof
    obtain ⟨_, _, htake⟩ := takeIf_eq { p with pushed := .other :: p.pushed } takesLocation
    exact Or.inl (by rw [htake])
  | popViewController =>
    obtain ⟨_, rfl⟩ := hof
    exact Or.inl rfl
  | logout =>
    obtain ⟨_, rfl⟩ := hof
    exact Or.inl rfl
  | goBackToMainViewController =>
    obtain rfl : q = p.goBackToMainViewController := hof
    exact Or.inl rfl
  | elsewhere defaults =>
    obtain rfl : q = { p with app := p.app.setDefaults defaults } := hof
    exact Or.inl rfl
  | btnNavigationPressed i =>
    obtain ⟨_, _, _, hpress⟩ := hof
    obtain ⟨_, _, _, rfl⟩ := btnNavigationPressed_inv hpress
    exact Or.inl rfl
  | notifyWhenProviderHasReached k =>
    obtain rfl : q = { p with reached := k :: p.reached } := hof
    exact Or.inl rfl
  | cancelRequest k sinceAccepted sinceReached =>
    obtain ⟨_, _, _, hcancel⟩ := hof
    rcases cancelRequest_inv hcancel with rfl | rfl
    · exact Or.inl rfl
    · exact Or.inl rfl
  | leftBarItemDidTap k =>
    obtain ⟨_, _, _, _, rfl⟩ := hof
    exact Or.inl rfl
  | dismissAlert =>
    obtain rfl : q = { p with alert := none } := hof
    exact Or.inl rfl
  | btnSubmitPressed noShow dismisses =>
    obtain ⟨m, alert, hm, halert, hsubmit⟩ := hof
    obtain ⟨socket, _, _, _, a, ⟨_, hclient, htrip, hprovider⟩, rfl, rfl⟩ :=
      btnSubmitPressed_inv hsubmit
    refine Or.inr ⟨socket, _, .submitted hm halert hclient htrip hprovider, ?_⟩
    cases dismisses with
    | false => rfl
    | true => rfl

/-! ## 6. Who listens -/

/-- The sockets move as those of the app do, and what is none of the app's events moves them as a
disconnection can at most.  No socket that was closed opens again. -/
theorem step_sockets {e : PhoneEvent} (h : (machine distance).Step p e q) :
    (∀ socket ∈ p.closed, socket ∈ q.closed) ∧
      ∃ ev, (e = .app ev ∨ ∃ code, ev = .onDisconnect code) ∧
        ProviderApp.SocketsStep p.app q.app ev := by
  have hof : StepOf distance p q e := step_inv h
  have hkept : q.app.sockets = p.app.sockets → q.app.connected = p.app.connected →
      ∃ ev, (e = .app ev ∨ ∃ code, ev = .onDisconnect code) ∧
        ProviderApp.SocketsStep p.app q.app ev := fun hsockets hconnected =>
    ⟨.onDisconnect none, Or.inr ⟨none, rfl⟩, .kept (.of_eq hsockets hconnected)⟩
  cases e with
  | app ev =>
    obtain ⟨_, b, hb, rfl⟩ := hof
    exact ⟨fun _ => id, ev, Or.inl rfl, ProviderApp.step_sockets hb⟩
  | lateDirections i call =>
    obtain ⟨_, _, _, hlate⟩ := hof
    obtain rfl := lateDirections_inv hlate
    exact ⟨fun _ => id, hkept rfl rfl⟩
  | didUpdateLocations l =>
    cases didUpdateLocations_inv hof with
    | dashboard _ _ _ after => subst after; exact ⟨fun _ => id, hkept rfl rfl⟩
    | sheet _ _ after => subst after; exact ⟨fun _ => id, hkept rfl rfl⟩
    | alert _ _ _ after => subst after; exact ⟨fun _ => id, hkept rfl rfl⟩
    | nobody _ _ _ _ after => subst after; exact ⟨fun _ => id, hkept rfl rfl⟩
  | didDisconnect socket code =>
    obtain ⟨a, rfl, hcase⟩ := didDisconnect_inv hof
    refine ⟨fun _ hs => List.mem_append_left [socket] hs, ?_⟩
    rcases hcase with rfl | ⟨i, d, hdelegate, _, ha⟩
    · exact hkept rfl rfl
    · refine ⟨.onDisconnect code, Or.inr ⟨code, rfl⟩, ?_⟩
      rcases ProviderApp.dashboardDisconnect_inv ha with rfl | ⟨_, rfl⟩ | rfl
      · exact .kept (.of_eq rfl rfl)
      · exact .of_activate (Or.inr hdelegate)
      · exact .kept (.of_eq rfl rfl)
  | selectTab | pushOther | popViewController | logout | goBackToMainViewController | elsewhere |
    btnNavigationPressed | notifyWhenProviderHasReached | cancelRequest | leftBarItemDidTap |
    dismissAlert | btnSubmitPressed =>
    have hown : Untouched p q := step_own h rfl
    refine ⟨fun _ hs => ?_, hkept hown.sockets hown.connected⟩
    rw [hown.closed]
    exact hs

end ProviderPhone

end WeatherAccommodation
