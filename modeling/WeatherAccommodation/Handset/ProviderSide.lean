/-
# What belongs to the session on the provider's side

`OwnScreens` says that whatever is on screen, and every timer that runs, belongs to the stay that is
going on, and that its dashboards, sheets and cancel-reason screens carry trips of its account.  A
step keeps that if no timer runs when the stay ends, and what starts a timer or writes an acceptance
reaches a dashboard of the stay (`OwnScreens.step`).  Then whatever is written is written by a
screen of the stay, and carries its id (`OwnScreens.frame`).
-/
import WeatherAccommodation.Handset.Phones
import WeatherAccommodation.Handset.Session
import WeatherAccommodation.Provider.Listening
import WeatherAccommodation.Provider.LiveLocation

namespace WeatherAccommodation

open Foundation Reactive

namespace ProviderPhone

variable {distance : CLLocation → CLLocation → ℚ} {stay : Option Stay} {p q : ProviderPhone}
  {e : PhoneEvent}

/-! ## 1. The invariant and the condition -/

/-- The events that end a stay. -/
def leaves : PhoneEvent → Bool
  | .logout | .goBackToMainViewController => true
  | _ => false

/-- The stay after an event. -/
def stayAfter (stay : Option Stay) (e : PhoneEvent) : Option Stay := if leaves e then none else stay

structure OwnScreens (stay : Option Stay) (p : ProviderPhone) : Prop where
  present : ∀ s, stay = some s → p.home.isSome = true
  home : ∀ i, p.home = some i → Stay.Owns stay .dashboard i
  sheet : ∀ (j : Nat) (sheet : ClientDetailSheet), p.app.sheets[j]? = some sheet →
    sheet.isPresented = true → Stay.Owns stay .sheet j
  alert : ∀ m, p.alert = some m → Stay.Owns stay .alert m
  timers : ∀ (i : Nat) (d : ProviderDashboard), p.app.dashboards[i]? = some d →
    d.timerIsValid = true → Stay.Owns stay .dashboard i
  /-- What comes next will be its own. -/
  bounds : ∀ s, stay = some s → s.first .dashboard ≤ p.app.dashboards.length ∧
    s.first .sheet ≤ p.app.sheets.length ∧ s.first .alert ≤ p.alerts.length
  dashboardTrips : ∀ s, stay = some s → ∀ (i : Nat) (d : ProviderDashboard),
    s.first .dashboard ≤ i → p.app.dashboards[i]? = some d → ∀ trip,
      d.currentAcceptedRequest = some trip → isTripOf .providerApp s.id trip = true
  sheetTrips : ∀ s, stay = some s → ∀ (j : Nat) (sheet : ClientDetailSheet), s.first .sheet ≤ j →
    p.app.sheets[j]? = some sheet → isTripOf .providerApp s.id sheet.currentRequest = true
  alertTrips : ∀ s, stay = some s → ∀ (m : Nat) (alert : RequestCancelAlert),
    s.first .alert ≤ m → p.alerts[m]? = some alert →
      isTripOf .providerApp s.id alert.currentRequest = true

/-- The dashboard whose timer or callback reads the profile's id when the event is handled. -/
def readsProfile (p : ProviderPhone) : PhoneEvent → Option Nat
  | .app (.timerFired i) =>
    if p.app.dashboards[i]?.any ProviderDashboard.timerIsValid then some i else none
  | .app (.onConnect socket) =>
    match p.app.sockets.delegate with
    | some (.dashboard i) =>
      if p.app.sockets.clientproviderRequestSocket = some socket then some i else none
    | _ => none
  | .didDisconnect _ (some 57) =>
    match p.app.sockets.delegate with
    | some (.dashboard i) =>
      if p.app.dashboards[i]?.any ProviderDashboard.swchStatusIsOn then some i else none
    | _ => none
  | _ => none

/-- The condition on a step.  A stay ends with no timer running; an acceptance, and the connection
of the request socket, reach a dashboard of the stay, if they reach a dashboard at all; the
acceptance is one of the account; and where a lost connection makes a dashboard of an earlier stay
go online again, the profile is a provider's. -/
def keepsToStay (stay : Option Stay) (p : ProviderPhone) : PhoneEvent → Bool
  | .app (.onMessage socket text _ _) =>
    match p.app.sockets.delegate with
    | some (.dashboard i) => !p.app.isForTrip socket text || stay.any fun s =>
        s.owns .dashboard i && isAboutTripOf .providerApp s.id text
    | _ => true
  | .app (.onConnect socket) =>
    match p.app.sockets.delegate with
    | some (.dashboard i) => p.app.sockets.clientproviderRequestSocket != some socket ||
        stay.any fun s => s.owns .dashboard i
    | _ => true
  | .didDisconnect socket code =>
    (p.readsProfile (.didDisconnect socket code)).all fun i =>
      (stay.any fun s => s.owns .dashboard i) || p.app.device.hasID .providerApp
  | .logout | .goBackToMainViewController =>
    p.app.dashboards.all fun d => !d.timerIsValid
  | _ => true

/-! ## 2. What is on screen afterwards -/

/-- What a step does to the tab bar and to the cancel-reason screens. -/
structure Shown (p q : ProviderPhone) (e : PhoneEvent) : Prop where
  home : q.home = if leaves e then none else p.home
  alert : ∀ m, q.alert = some m → leaves e = false ∧ (p.alert = some m ∨
    ∃ (j sinceAccepted sinceReached : Nat) (sheet : ClientDetailSheet),
      e = .cancelRequest j sinceAccepted sinceReached ∧ p.app.sheets[j]? = some sheet ∧
        sheet.isPresented = true ∧ m = p.alerts.length)

theorem Shown.of_same (hleaves : leaves e = false) (home : q.home = p.home)
    (alert : q.alert = p.alert ∨ q.alert = none) : Shown p q e where
  home := by simp [hleaves, home]
  alert := by
    intro m hm
    refine ⟨hleaves, Or.inl ?_⟩
    rcases alert with hsame | hnone
    · rw [← hsame, hm]
    · exact absurd (hm.symm.trans hnone) (by simp)

theorem step_shown (h : (machine distance).Step p e q) (hentry : isEntry e = false) :
    Shown p q e := by
  have hof : StepOf distance p q e := step_inv h
  cases e with
  | app ev =>
    obtain ⟨_, b, _, rfl⟩ := hof
    have halert : (p.follow ev b).alert = p.alert ∨ (p.follow ev b).alert = none := by
      simp only [follow]
      split
      · exact Or.inl rfl
      · exact Or.inr rfl
    cases ev with
    | viewDidLoad => exact absurd hentry (by simp [isEntry])
    | _ => exact .of_same rfl rfl halert
  | lateDirections i call =>
    obtain ⟨_, _, _, hlate⟩ := hof
    obtain rfl := lateDirections_inv hlate
    exact .of_same rfl rfl (Or.inl rfl)
  | didUpdateLocations l =>
    cases didUpdateLocations_inv hof with
    | dashboard _ _ _ after => subst after; exact .of_same rfl rfl (Or.inl rfl)
    | sheet _ _ after => subst after; exact .of_same rfl rfl (Or.inl rfl)
    | alert _ _ _ after => subst after; exact .of_same rfl rfl (Or.inl rfl)
    | nobody _ _ _ _ after => subst after; exact .of_same rfl rfl (Or.inl rfl)
  | didDisconnect socket code =>
    obtain ⟨_, rfl, _⟩ := didDisconnect_inv hof
    exact .of_same rfl rfl (Or.inl rfl)
  | selectTab index takesLocation =>
    obtain ⟨_, rfl⟩ := hof
    obtain ⟨_, _, htake⟩ := takeIf_eq { p with selectedIndex := index } takesLocation
    rw [htake]
    exact .of_same rfl rfl (Or.inl rfl)
  | pushOther takesLocation =>
    obtain ⟨_, rfl⟩ := hof
    obtain ⟨_, _, htake⟩ := takeIf_eq { p with pushed := .other :: p.pushed } takesLocation
    rw [htake]
    exact .of_same rfl rfl (Or.inl rfl)
  | popViewController =>
    obtain ⟨_, rfl⟩ := hof
    exact .of_same rfl rfl (Or.inl rfl)
  | logout =>
    obtain ⟨_, rfl⟩ := hof
    refine ⟨rfl, fun m hm => ?_⟩
    exact absurd hm (by simp [logout, goBackToMainViewController])
  | goBackToMainViewController =>
    obtain rfl : q = p.goBackToMainViewController := hof
    refine ⟨rfl, fun m hm => ?_⟩
    exact absurd hm (by simp [goBackToMainViewController])
  | elsewhere defaults => exact absurd hentry (by simp [isEntry])
  | btnNavigationPressed j =>
    obtain ⟨_, _, _, hpress⟩ := hof
    obtain ⟨_, _, _, rfl⟩ := btnNavigationPressed_inv hpress
    exact .of_same rfl rfl (Or.inl rfl)
  | notifyWhenProviderHasReached j =>
    obtain rfl : q = { p with reached := j :: p.reached } := hof
    exact .of_same rfl rfl (Or.inl rfl)
  | cancelRequest j sinceAccepted sinceReached =>
    obtain ⟨sheet, hsheet, hpresented, hcancel⟩ := hof
    rcases cancelRequest_inv hcancel with rfl | rfl
    · exact .of_same rfl rfl (Or.inl rfl)
    · refine ⟨rfl, fun m hm => ⟨rfl, Or.inr ?_⟩⟩
      exact ⟨j, sinceAccepted, sinceReached, sheet, rfl, hsheet, hpresented,
        (Option.some.inj hm).symm⟩
  | leftBarItemDidTap j =>
    obtain ⟨_, _, _, _, rfl⟩ := hof
    exact .of_same rfl rfl (Or.inl rfl)
  | dismissAlert =>
    obtain rfl : q = { p with alert := none } := hof
    exact .of_same rfl rfl (Or.inr rfl)
  | btnSubmitPressed noShow dismisses =>
    obtain ⟨_, _, _, _, hsubmit⟩ := hof
    obtain ⟨_, _, _, _, _, _, _, rfl⟩ := btnSubmitPressed_inv hsubmit
    exact .of_same rfl rfl (Or.inr rfl)

/-- No dashboard is ever forgotten. -/
theorem dashboards_length_le (h : (machine distance).Step p e q) :
    p.app.dashboards.length ≤ q.app.dashboards.length := by
  have hof : StepOf distance p q e := step_inv h
  cases e with
  | app ev =>
    obtain ⟨_, b, hb, rfl⟩ := hof
    exact (ProviderApp.step_dashboards hb).length_le
  | lateDirections i call =>
    obtain ⟨_, _, _, hlate⟩ := hof
    obtain rfl := lateDirections_inv hlate
    simp [ProviderApp.putDashboard]
  | didUpdateLocations l =>
    cases didUpdateLocations_inv hof with
    | dashboard _ _ _ after => simp [after, ProviderApp.putDashboard]
    | sheet _ _ after => rw [after]; exact le_refl _
    | alert _ _ _ after => rw [after]; exact le_refl _
    | nobody _ _ _ _ after => rw [after]; exact le_refl _
  | didDisconnect socket code =>
    obtain ⟨a, rfl, rfl | ⟨i, d, _, _, ha⟩⟩ := didDisconnect_inv hof
    · exact le_refl _
    · rcases ProviderApp.dashboardDisconnect_inv ha with rfl | ⟨_, rfl⟩ | rfl
      · exact le_refl _
      · exact le_refl _
      · simp [ProviderApp.putDashboard]
  | _ => rw [(step_own h rfl).dashboards]

/-! ## 3. Where timers and trips come from -/

/-- An acceptance reaches the dashboard with number `i`. -/
structure Accepts (a : ProviderApp) (i : Nat) (e : ProviderEvent) (trip : Dict) : Prop where
  event : ∃ socket text state selectedIndex, e = .onMessage socket text state selectedIndex ∧
    a.isForTrip socket text = true ∧ text = some (.obj trip)
  delegate : a.sockets.delegate = some (.dashboard i)

open ProviderApp in
/-- A dashboard gets a trip, and a running timer, with an acceptance; the switch may leave the timer
running. -/
theorem trip_of_move {a : ProviderApp} {i : Nat} {d d' : ProviderDashboard} {e : ProviderEvent}
    (h : DashboardMove distance a i d e d') :
    (d'.currentAcceptedRequest = d.currentAcceptedRequest ∧ (d'.timerIsValid = true →
      d.timerIsValid = true ∨ ∃ isOn, e = .switchValueChanged i isOn)) ∨
      ∃ trip, Accepts a i e trip ∧ d'.currentAcceptedRequest = some trip := by
  have hkept : d'.currentAcceptedRequest = d.currentAcceptedRequest →
      d'.timerIsValid = d.timerIsValid →
      (d'.currentAcceptedRequest = d.currentAcceptedRequest ∧ (d'.timerIsValid = true →
        d.timerIsValid = true ∨ ∃ isOn, e = .switchValueChanged i isOn)) ∨
        ∃ trip, Accepts a i e trip ∧ d'.currentAcceptedRequest = some trip := by
    intro haccepted htimer
    exact Or.inl ⟨haccepted, fun hvalid => Or.inl (htimer ▸ hvalid)⟩
  cases h with
  | stay _ => exact hkept rfl rfl
  | appear =>
    unfold ProviderDashboard.clearTrip
    split
    · exact Or.inl ⟨rfl, fun hvalid => absurd hvalid (by simp [ProviderDashboard.invalidateTimer])⟩
    · exact Or.inl ⟨rfl, fun hvalid => Or.inl hvalid⟩
  | foreground _ shown =>
    obtain ⟨_, _, _, _, rfl⟩ := ProviderDashboard.showRequestUI_frame shown
    exact hkept rfl rfl
  | decline => exact hkept rfl rfl
  | accept _ => exact hkept rfl rfl
  | switch isOn _ _ => exact Or.inl ⟨rfl, fun _ => Or.inr ⟨isOn, rfl⟩⟩
  | ring => exact hkept rfl rfl
  | directions _ _ _ _ => exact hkept rfl rfl
  | location _ told =>
    obtain ⟨_, rfl⟩ := ProviderDashboard.tracingLocation_inv told
    exact hkept rfl rfl
  | disconnect _ =>
    exact Or.inl ⟨rfl, fun hvalid => absurd hvalid (by simp [ProviderDashboard.invalidateTimer])⟩
  | status _ _ handled =>
    obtain ⟨_, _, _, _, _, rfl⟩ := ProviderDashboard.providerMessage_frame handled
    exact hkept rfl rfl
  | @request socket selectedIndex text state _ delegate other listens handled =>
    rcases ProviderDashboard.requestMessage_inv handled with rfl | ⟨dict, haccepted, rfl⟩
    · exact hkept rfl rfl
    · refine Or.inr ⟨dict, ⟨⟨socket, text, state, selectedIndex, rfl, ?_, haccepted.1⟩, delegate⟩, rfl⟩
      simp [isForTrip, other, listens, ProviderDashboard.isAcceptance_of haccepted]

/-- What an acceptance that is let through reaches. -/
theorem owns_of_accepts {i : Nat} {ev : ProviderEvent} {trip : Dict}
    (haccepts : Accepts p.app i ev trip) (hcond : keepsToStay stay p (.app ev) = true) :
    ∃ s, stay = some s ∧ s.first .dashboard ≤ i ∧ isTripOf .providerApp s.id trip = true := by
  obtain ⟨socket, text, state, selectedIndex, rfl, htrip, rfl⟩ := haccepts.event
  simp only [keepsToStay, haccepts.delegate, htrip, Bool.not_true, Bool.false_or] at hcond
  cases hstay : stay with
  | none => exact absurd hcond (by simp [hstay])
  | some s =>
    simp only [hstay, Option.any_some, Bool.and_eq_true] at hcond
    exact ⟨s, rfl, by simpa [Stay.owns] using hcond.1, hcond.2⟩

/-- What became of the trip and the timer of a dashboard. -/
inductive TripStep (p : ProviderPhone) (i : Nat) (d' : ProviderDashboard) (e : PhoneEvent) : Prop
    where
  | kept {d : ProviderDashboard} (listed : p.app.dashboards[i]? = some d)
      (accepted : d'.currentAcceptedRequest = d.currentAcceptedRequest)
      (timer : d'.timerIsValid = true → d.timerIsValid = true ∨ p.home = some i)
  | accepted {ev : ProviderEvent} {trip : Dict} (event : e = .app ev)
      (accepts : Accepts p.app i ev trip) (h : d'.currentAcceptedRequest = some trip)

theorem step_trip (h : (machine distance).Step p e q) (hentry : isEntry e = false) {i : Nat}
    {d' : ProviderDashboard} (hd' : q.app.dashboards[i]? = some d') : TripStep p i d' e := by
  rcases step_dashboard h hd' with ⟨d, hd, hmove⟩ | ⟨rfl, _⟩
  · cases hmove with
    | stay _ same =>
      subst same
      exact .kept hd rfl fun hvalid => Or.inl hvalid
    | move event move =>
      rcases trip_of_move move with ⟨haccepted, htimer⟩ | ⟨trip, haccepts, haccepted⟩
      · refine .kept hd haccepted fun hvalid => ?_
        rcases htimer hvalid with hold | ⟨isOn, rfl⟩
        · exact Or.inl hold
        · rcases inner_eq_some event with rfl | ⟨_, _, _, hne⟩ | ⟨_, _, hne⟩ | ⟨_, _, _, hne⟩
          · obtain ⟨hadmits, _⟩ : StepOf distance p q (.app (.switchValueChanged i isOn)) :=
              step_inv h
            exact Or.inr (isVisible_iff.mp hadmits).1
          · exact absurd hne (by simp)
          · exact absurd hne (by simp)
          · exact absurd hne (by simp)
      · obtain ⟨socket, text, state, selectedIndex, rfl, _⟩ := haccepts.event
        rcases inner_eq_some event with rfl | ⟨_, _, _, hne⟩ | ⟨_, _, hne⟩ | ⟨_, _, _, hne⟩
        · exact .accepted rfl haccepts haccepted
        · exact absurd hne (by simp)
        · exact absurd hne (by simp)
        · exact absurd hne (by simp)
  · exact absurd hentry (by simp [isEntry])

/-- A cancel-reason screen was there, or has the trip of the sheet below it. -/
theorem alert_before (h : (machine distance).Step p e q) {m : Nat} {alert' : RequestCancelAlert}
    (halert' : q.alerts[m]? = some alert') :
    (∃ alert, p.alerts[m]? = some alert ∧ alert'.currentRequest = alert.currentRequest) ∨
      ∃ (j : Nat) (sheet : ClientDetailSheet), p.app.sheets[j]? = some sheet ∧
        sheet.isPresented = true ∧ alert'.currentRequest = sheet.currentRequest := by
  by_cases he : ∃ l, e = .didUpdateLocations l
  · obtain ⟨l, rfl⟩ := he
    left
    cases didUpdateLocations_inv (step_inv h) with
    | dashboard _ _ _ after => exact ⟨alert', by rw [← halert', after]; rfl, rfl⟩
    | sheet _ _ after => exact ⟨alert', by rw [← halert', after]; rfl, rfl⟩
    | nobody _ _ _ _ after => exact ⟨alert', by rw [← halert', after]; rfl, rfl⟩
    | @alert k alert _ _ listed after =>
      rw [after] at halert'
      have hset : (p.alerts.set k (alert.tracingLocation l))[m]? = some alert' := halert'
      by_cases hk : k = m
      · subst hk
        have hlt : k < p.alerts.length := (List.getElem?_eq_some_iff.mp listed).1
        rw [List.getElem?_set_self hlt] at hset
        obtain rfl := Option.some.inj hset
        exact ⟨alert, listed, rfl⟩
      · rw [List.getElem?_set_ne hk] at hset
        exact ⟨alert', hset, rfl⟩
  · cases (step_alerts (fun l hl => he ⟨l, hl⟩) h).2 with
    | same hsame =>
      rw [hsame] at halert'
      exact Or.inl ⟨alert', halert', rfl⟩
    | @opened j sinceAccepted sinceReached sheet event listed hopen =>
      subst event
      obtain ⟨sheet₀, hsheet, hpresented, _⟩ := step_inv h
      obtain rfl : sheet = sheet₀ := Option.some.inj (listed.symm.trans hsheet)
      rw [hopen, List.getElem?_append] at halert'
      split at halert'
      · exact Or.inl ⟨alert', halert', rfl⟩
      · obtain rfl := List.mem_singleton.mp (List.mem_of_getElem? halert')
        exact Or.inr ⟨j, sheet, listed, hpresented, rfl⟩

/-- No cancel-reason screen is ever forgotten. -/
theorem alerts_length_le (h : (machine distance).Step p e q) : p.alerts.length ≤ q.alerts.length := by
  by_cases he : ∃ l, e = .didUpdateLocations l
  · obtain ⟨l, rfl⟩ := he
    cases didUpdateLocations_inv (step_inv h) with
    | dashboard _ _ _ after => rw [after]; exact le_refl _
    | sheet _ _ after => rw [after]; exact le_refl _
    | nobody _ _ _ _ after => rw [after]; exact le_refl _
    | alert _ _ _ after => simp [after]
  · cases (step_alerts (fun l hl => he ⟨l, hl⟩) h).2 with
    | same hsame => rw [hsame]
    | opened _ _ hopen => simp [hopen]

/-! ## 4. A stay begins, goes on and ends -/

/-- The numbers that are free. -/
def firstScreens (p : ProviderPhone) : ScreenKind → Nat
  | .dashboard => p.app.dashboards.length
  | .sheet => p.app.sheets.length
  | .alert => p.alerts.length

namespace OwnScreens

theorem start (device : Device) : OwnScreens none { app := { device := device } } where
  present := by simp
  home := by simp
  sheet := by simp
  alert := by simp
  timers := by simp
  bounds := by simp
  dashboardTrips := by simp
  sheetTrips := by simp
  alertTrips := by simp

/-- A stay ends with its timers stopped. -/
theorem leave (hleaves : leaves e = true) (hcond : keepsToStay stay p e = true)
    (h : (machine distance).Step p e q) : OwnScreens none q := by
  have hstopped : ∀ d ∈ p.app.dashboards, d.timerIsValid = false := by
    cases e with
    | logout | goBackToMainViewController =>
      intro d hd
      simpa using List.all_eq_true.mp hcond d hd
    | _ => exact absurd hleaves (by simp [leaves])
  have hscreens : q.app.dashboards = p.app.dashboards ∧
      q.app.sheets = p.app.sheets.map ClientDetailSheet.dismiss ∧ q.home = none ∧
      q.alert = none := by
    cases e with
    | logout =>
      obtain ⟨_, rfl⟩ : StepOf distance p q .logout := step_inv h
      exact ⟨rfl, rfl, rfl, rfl⟩
    | goBackToMainViewController =>
      obtain rfl : q = p.goBackToMainViewController := step_inv h
      exact ⟨rfl, rfl, rfl, rfl⟩
    | _ => exact absurd hleaves (by simp [leaves])
  obtain ⟨hdashboards, hsheets, hhome, halert⟩ := hscreens
  refine ⟨by simp, by simp [hhome], ?_, by simp [halert], ?_, by simp, by simp, by simp, by simp⟩
  · intro j sheet hj hpresented
    rw [hsheets, List.getElem?_map] at hj
    obtain ⟨sheet₀, _, rfl⟩ := Option.map_eq_some_iff.mp hj
    exact absurd hpresented (by simp [ClientDetailSheet.dismiss])
  · intro i d hd hvalid
    rw [hdashboards] at hd
    exact absurd hvalid (by simp [hstopped d (List.mem_of_getElem? hd)])

/-- A sheet that is on screen was there, or was opened over the tab bar. -/
theorem sheet_after (hp : OwnScreens stay p) (h : SheetsStep p q e) {j : Nat}
    {sheet : ClientDetailSheet} (hj : q.app.sheets[j]? = some sheet)
    (hpresented : sheet.isPresented = true) : Stay.Owns stay .sheet j := by
  rcases h.at_index hj with ⟨sheet₀, hsheet₀, hmove⟩ | ⟨i, d, hopens⟩
  · cases hmove with
    | stay heq => exact hp.sheet j sheet₀ hsheet₀ (heq ▸ hpresented)
    | told _ _ heq =>
      rw [heq] at hpresented
      exact hp.sheet j sheet₀ hsheet₀ hpresented
    | dismissed _ heq =>
      rw [heq] at hpresented
      exact absurd hpresented (by simp [ClientDetailSheet.dismiss])
  · have hhome : p.home = some i := by
      have hpresents := hopens.presents
      simp only [canPresent, Bool.and_eq_true, beq_iff_eq] at hpresents
      exact hpresents.1
    obtain ⟨s, hs, _⟩ := hp.home i hhome
    exact ⟨s, hs, hopens.number ▸ (hp.bounds s hs).2.1⟩

/-- The trip of a sheet was its own before, or that of the dashboard which opened it. -/
theorem sheetTrip_after (hp : OwnScreens stay p) (h : SheetsStep p q e) {s : Stay}
    (hs : stay = some s) {j : Nat} {sheet : ClientDetailSheet} (hj : s.first .sheet ≤ j)
    (hsheet : q.app.sheets[j]? = some sheet) :
    isTripOf .providerApp s.id sheet.currentRequest = true := by
  rcases h.at_index hsheet with ⟨sheet₀, hsheet₀, hmove⟩ | ⟨i, d, hopens⟩
  · have hold := hp.sheetTrips s hs j sheet₀ hj hsheet₀
    cases hmove with
    | stay heq => exact heq ▸ hold
    | told _ _ heq => exact heq ▸ hold
    | dismissed _ heq => exact heq ▸ hold
  · have hhome : p.home = some i := by
      have hpresents := hopens.presents
      simp only [canPresent, Bool.and_eq_true, beq_iff_eq] at hpresents
      exact hpresents.1
    obtain ⟨s', hs', hi⟩ := hp.home i hhome
    obtain rfl : s' = s := Option.some.inj (hs'.symm.trans hs)
    exact hp.dashboardTrips s' hs i d hi hopens.listed _ hopens.accepted

/-- **A step within the stay.** -/
theorem stays (hp : OwnScreens stay p) (hleaves : leaves e = false) (hentry : isEntry e = false)
    (hcond : keepsToStay stay p e = true) (h : (machine distance).Step p e q) :
    OwnScreens stay q := by
  have hshown : Shown p q e := step_shown h hentry
  have hsheets : SheetsStep p q e := step_sheets h
  have hhome : q.home = p.home := by simp [hshown.home, hleaves]
  refine ⟨?_, ?_, fun _ _ => hp.sheet_after hsheets, ?_, ?_, ?_, ?_,
    fun _ hs _ _ => hp.sheetTrip_after hsheets hs, ?_⟩
  · intro s hs
    rw [hhome]
    exact hp.present s hs
  · intro i hi
    exact hp.home i (hhome ▸ hi)
  · intro m hm
    rcases (hshown.alert m hm).2 with hold | ⟨j, _, _, sheet, _, hsheet, hpresented, rfl⟩
    · exact hp.alert m hold
    · obtain ⟨s, hs, _⟩ := hp.sheet j sheet hsheet hpresented
      exact ⟨s, hs, (hp.bounds s hs).2.2⟩
  · intro i d' hd' hvalid
    cases step_trip h hentry hd' with
    | @kept d listed _ timer =>
      rcases timer hvalid with hold | hvisible
      · exact hp.timers i d listed hold
      · exact hp.home i hvisible
    | accepted event accepts _ =>
      subst event
      obtain ⟨s, hs, hi, _⟩ := owns_of_accepts accepts hcond
      exact ⟨s, hs, hi⟩
  · intro s hs
    obtain ⟨hd, hsheet, halert⟩ := hp.bounds s hs
    have hd' := dashboards_length_le h
    have hsheet' := hsheets.length_le
    have halert' := alerts_length_le h
    omega
  · intro s hs i d' hi hd' trip htrip
    cases step_trip h hentry hd' with
    | @kept d listed accepted _ => exact hp.dashboardTrips s hs i d hi listed trip (accepted ▸ htrip)
    | accepted event accepts haccepted =>
      subst event
      obtain ⟨s', hs', _, habout⟩ := owns_of_accepts accepts hcond
      obtain rfl : s' = s := Option.some.inj (hs'.symm.trans hs)
      obtain rfl := Option.some.inj (haccepted.symm.trans htrip)
      exact habout
  · intro s hs m alert hm halert
    rcases alert_before h halert with ⟨alert₀, halert₀, heq⟩ | ⟨j, sheet, hsheet, hpresented, heq⟩
    · rw [heq]
      exact hp.alertTrips s hs m alert₀ hm halert₀
    · obtain ⟨s', hs', hj⟩ := hp.sheet j sheet hsheet hpresented
      obtain rfl : s' = s := Option.some.inj (hs'.symm.trans hs)
      rw [heq]
      exact hp.sheetTrips s' hs j sheet hj hsheet

/-- **One step of the phone.** -/
theorem step (hp : OwnScreens stay p) (hentry : isEntry e = false)
    (hcond : keepsToStay stay p e = true) (h : (machine distance).Step p e q) :
    OwnScreens (stayAfter stay e) q := by
  by_cases hleaves : leaves e = true
  · rw [stayAfter, if_pos hleaves]
    exact leave hleaves hcond h
  · rw [stayAfter, if_neg hleaves]
    exact hp.stays (by simpa using hleaves) hentry hcond h

/-- **A stay begins with a dashboard.** -/
theorem enter (hp : OwnScreens none p) {b : ProviderApp} {id : Int}
    (hb : p.app.viewDidLoad = .ok b)
    (hresumes : resumesOwn .providerApp id p.app.device.appDelegate.doesRequestExist
      p.app.device.appDelegate.providerExistingTrip = true) :
    OwnScreens (some ⟨id, p.firstScreens⟩) (p.follow .viewDidLoad b) := by
  have happ : b.sheets = p.app.sheets ∧ ∃ d : ProviderDashboard,
      b.dashboards = p.app.dashboards ++ [d] ∧ d.timerIsValid = false ∧
        ∀ trip, d.currentAcceptedRequest = some trip → isTripOf .providerApp id trip = true := by
    rcases ProviderApp.viewDidLoad_inv hb with rfl | ⟨trip, clientId, hflag, hexisting, _, rfl⟩
    · exact ⟨rfl, {}, rfl, rfl, fun trip htrip => absurd htrip (by simp)⟩
    · refine ⟨rfl, { currentAcceptedRequest := some trip }, rfl, rfl, fun trip' htrip => ?_⟩
      obtain rfl : trip = trip' := Option.some.inj htrip
      simpa [resumesOwn, hflag, hexisting] using hresumes
  obtain ⟨hsheets, d, hdashboards, htimer, htrip⟩ := happ
  have hown : ∀ i d', b.dashboards[i]? = some d' → (p.app.dashboards[i]? = some d') ∨
      (i = p.app.dashboards.length ∧ d' = d) := by
    intro i d' hd'
    rw [hdashboards, List.getElem?_append] at hd'
    split at hd'
    · exact Or.inl hd'
    · have hlt : i - p.app.dashboards.length < 1 := (List.getElem?_eq_some_iff.mp hd').1
      exact Or.inr ⟨by omega, List.mem_singleton.mp (List.mem_of_getElem? hd')⟩
  refine ⟨fun _ _ => rfl, ?_, ?_, ?_, ?_, ?_, ?_, ?_, ?_⟩
  · intro i hi
    obtain rfl : p.app.dashboards.length = i := Option.some.inj hi
    exact ⟨_, rfl, le_refl _⟩
  · intro j sheet hj hpresented
    have hj' : b.sheets[j]? = some sheet := hj
    rw [hsheets] at hj'
    exact absurd (hp.sheet j sheet hj' hpresented) Stay.not_owns
  · intro m hm
    have hold : p.alert = some m := by
      simp only [follow] at hm
      split at hm
      · exact hm
      · exact absurd hm (by simp)
    exact absurd (hp.alert m hold) Stay.not_owns
  · intro i d' hd' hvalid
    rcases hown i d' hd' with hold | ⟨rfl, rfl⟩
    · exact absurd (hp.timers i d' hold hvalid) Stay.not_owns
    · exact absurd hvalid (by simp [htimer])
  · rintro s hs
    obtain rfl := Option.some.inj hs
    have hlength : b.dashboards.length = p.app.dashboards.length + 1 := by simp [hdashboards]
    refine ⟨?_, ?_, le_refl _⟩
    · show p.app.dashboards.length ≤ b.dashboards.length
      omega
    · show p.app.sheets.length ≤ b.sheets.length
      rw [hsheets]
  · intro s hs i d' hi hd' trip htrip'
    obtain rfl := Option.some.inj hs
    have hi' : p.app.dashboards.length ≤ i := hi
    rcases hown i d' hd' with hold | ⟨_, rfl⟩
    · have hlt : i < p.app.dashboards.length := (List.getElem?_eq_some_iff.mp hold).1
      omega
    · exact htrip trip htrip'
  · intro s hs j sheet hj hsheet
    obtain rfl := Option.some.inj hs
    have hj' : p.app.sheets.length ≤ j := hj
    have hsheet' : b.sheets[j]? = some sheet := hsheet
    rw [hsheets] at hsheet'
    have hlt : j < p.app.sheets.length := (List.getElem?_eq_some_iff.mp hsheet').1
    omega
  · intro s hs m alert hm halert
    obtain rfl := Option.some.inj hs
    have hm' : p.alerts.length ≤ m := hm
    have hlt : m < p.alerts.length := (List.getElem?_eq_some_iff.mp halert).1
    omega

end OwnScreens

/-! ## 5. What is written, and what is read -/

/-- The screen whose handler writes on the request socket. -/
def writer (p : ProviderPhone) : PhoneEvent → Option (ScreenKind × Nat)
  | .app (.timerFired i) => some (.dashboard, i)
  | .app (.onConnect _) =>
    match p.app.sockets.delegate with
    | some (.dashboard i) => some (.dashboard, i)
    | _ => none
  | .app (.textFieldEditingChanged j _) => some (.sheet, j)
  | .app (.cancelTrip j _) => some (.sheet, j)
  | .btnSubmitPressed _ _ => p.alert.map fun m => (.alert, m)
  | _ => none

/-- The trip that a screen carries. -/
def tripOn (p : ProviderPhone) : ScreenKind → Nat → Option Dict
  | .dashboard, i => p.app.dashboards[i]?.bind ProviderDashboard.currentAcceptedRequest
  | .sheet, j => p.app.sheets[j]?.map ClientDetailSheet.currentRequest
  | .alert, m => p.alerts[m]?.map RequestCancelAlert.currentRequest

end ProviderPhone

/-- The frame carries the id of the account, and the id of the trip if it is about one. -/
def ProviderFrame.Carries (id : Int) (trip : Option Dict) : ProviderFrame → Prop
  | .accepted _ providerId _ => providerId = id
  | .locationUpdated _ providerId _ => providerId = id
  | .reached tripId => (trip.bind fun t => Dict.get? t "TripId") = some tripId
  | .cancelled _ tripId providerId _ _ =>
    reads id providerId = true ∧ (trip.bind fun t => Dict.get? t "TripId") = some tripId

namespace ProviderPhone

variable {distance : CLLocation → CLLocation → ℚ} {stay : Option Stay} {p q : ProviderPhone}
  {e : PhoneEvent}

/-- The connection that is let through reaches a dashboard of the stay. -/
theorem owns_of_connect {i socket : Nat} (delegate : p.app.sockets.delegate = some (.dashboard i))
    (listens : p.app.sockets.clientproviderRequestSocket = some socket)
    (hcond : keepsToStay stay p (.app (.onConnect socket)) = true) :
    Stay.Owns stay .dashboard i := by
  refine Stay.owns_of_any ?_
  simpa [keepsToStay, delegate, listens] using hcond

namespace OwnScreens

/-- **A frame is written by a screen of the stay, and carries its ids.** -/
theorem frame (hp : OwnScreens stay p)
    (hid : ∀ s, stay = some s → p.app.device.userID .providerApp = .ok s.id)
    (hcond : keepsToStay stay p e = true) (h : (machine distance).Step p e q) :
    q.app.frames = p.app.frames ∨ ∃ socket frame s kind n,
      Stay.Writes stay (p.writer e) s kind n ∧
        ProviderFrame.Carries s.id (p.tripOn kind n) frame ∧
          q.app.frames = p.app.frames ++ [(socket, frame)] := by
  rcases step_frames h with hsame | ⟨socket, frame, hwrites, hframes⟩
  · exact Or.inl hsame
  · refine Or.inr ⟨socket, frame, ?_⟩
    have hread : ∀ {s : Stay} {providerId : Int}, stay = some s →
        p.app.device.userID .providerApp = .ok providerId → providerId = s.id := by
      intro s providerId hs hprovider
      exact Except.ok.inj (hprovider.symm.trans (hid s hs))
    cases hwrites with
    | app hwrites =>
      cases hwrites with
      | @located i _ d _ providerId listed valid id =>
        obtain ⟨s, hs, hi⟩ := hp.timers i d listed valid
        exact ⟨s, .dashboard, i, ⟨rfl, hs, hi⟩, hread hs id, hframes⟩
      | @accepted i _ d _ providerId delegate listed listens id =>
        obtain ⟨s, hs, hi⟩ := owns_of_connect delegate listens hcond
        exact ⟨s, .dashboard, i, ⟨by simp [writer, delegate], hs, hi⟩, hread hs id, hframes⟩
      | @reached j _ sheet text tripId listed trip =>
        obtain ⟨_, b, hb, _⟩ : StepOf distance p q (.app (.textFieldEditingChanged j text)) :=
          step_inv h
        obtain ⟨sheet₀, hsheet, hpresented, _⟩ := ProviderApp.step_inv hb
        obtain ⟨s, hs, hj⟩ := hp.sheet j sheet₀ hsheet hpresented
        refine ⟨s, .sheet, j, ⟨rfl, hs, hj⟩, ?_, hframes⟩
        simpa [ProviderFrame.Carries, tripOn, listed] using trip
      | @cancelled j _ sheet reason _ tripId providerId listed _ trip provider =>
        obtain ⟨_, b, hb, _⟩ : StepOf distance p q (.app (.cancelTrip j reason)) := step_inv h
        obtain ⟨sheet₀, hsheet, hpresented⟩ := ProviderApp.presented_of_cancelTrip hb
        obtain ⟨s, hs, hj⟩ := hp.sheet j sheet₀ hsheet hpresented
        have habout := hp.sheetTrips s hs j sheet hj listed
        refine ⟨s, .sheet, j, ⟨rfl, hs, hj⟩, ⟨reads_of_isTripOf habout provider, ?_⟩, hframes⟩
        simpa [tripOn, listed] using trip
    | @submitted m _ alert _ _ _ tripId providerId shown listed _ trip provider =>
      obtain ⟨s, hs, hm⟩ := hp.alert m shown
      have habout := hp.alertTrips s hs m alert hm listed
      refine ⟨s, .alert, m, ⟨by simp [writer, shown], hs, hm⟩,
        ⟨reads_of_isTripOf habout provider, ?_⟩, hframes⟩
      simpa [tripOn, listed] using trip

/-- **What an earlier stay has left behind finds an id in the profile.** -/
theorem profile (hp : OwnScreens stay p) (hcond : keepsToStay stay p e = true) {i : Nat}
    (hreads : p.readsProfile e = some i) :
    Stay.Owns stay .dashboard i ∨ p.app.device.hasID .providerApp = true := by
  unfold readsProfile at hreads
  split at hreads
  · rename_i k
    split at hreads
    · rename_i hvalid
      obtain rfl := Option.some.inj hreads
      cases hd : p.app.dashboards[k]? with
      | none => exact absurd hvalid (by simp [hd])
      | some d => exact Or.inl (hp.timers k d hd (by simpa [hd] using hvalid))
    · exact absurd hreads (by simp)
  · rename_i socket
    split at hreads
    · rename_i k hdelegate
      split at hreads
      · rename_i hsocket
        obtain rfl := Option.some.inj hreads
        exact Or.inl (owns_of_connect hdelegate hsocket hcond)
      · exact absurd hreads (by simp)
    · exact absurd hreads (by simp)
  · rename_i socket
    have hreads' : p.readsProfile (.didDisconnect socket (some 57)) = some i := hreads
    simp only [keepsToStay, hreads', Option.all_some, Bool.or_eq_true] at hcond
    exact hcond.imp_left Stay.owns_of_any
  · exact absurd hreads (by simp)

end OwnScreens

/-- What an event of the provider's side leaves under a key. -/
theorem step_value (key : DefaultsKey) (h : (machine distance).Step p e q)
    (hentry : isEntry e = false) :
    Leaves (p.app.device.defaults.value key) (q.app.device.defaults.value key) none key := by
  have hof : StepOf distance p q e := step_inv h
  have hsame : q.app.device.defaults = p.app.device.defaults →
      Leaves (p.app.device.defaults.value key) (q.app.device.defaults.value key) none key :=
    fun hdefaults => .same (by rw [hdefaults])
  cases e with
  | app ev =>
    obtain ⟨_, b, hb, rfl⟩ := hof
    exact hsame (ProviderApp.step_device hb).1
  | lateDirections i call =>
    obtain ⟨_, _, _, hlate⟩ := hof
    obtain rfl := lateDirections_inv hlate
    exact hsame rfl
  | didUpdateLocations l =>
    cases didUpdateLocations_inv hof with
    | dashboard _ _ _ after => exact hsame (by rw [after]; rfl)
    | sheet _ _ after => exact hsame (by rw [after]; rfl)
    | alert _ _ _ after => exact hsame (by rw [after]; rfl)
    | nobody _ _ _ _ after => exact hsame (by rw [after]; rfl)
  | didDisconnect socket code =>
    obtain ⟨a, rfl, hcase⟩ := didDisconnect_inv hof
    rcases hcase with rfl | ⟨i, d, hdelegate, _, ha⟩
    · exact hsame rfl
    · rcases ProviderApp.dashboardDisconnect_inv ha with rfl | ⟨_, rfl⟩ | rfl
      · exact hsame rfl
      · exact hsame rfl
      · exact hsame rfl
  | selectTab index takesLocation =>
    obtain ⟨_, rfl⟩ := hof
    obtain ⟨_, _, htake⟩ := takeIf_eq { p with selectedIndex := index } takesLocation
    rw [htake]
    exact .same rfl
  | pushOther takesLocation =>
    obtain ⟨_, rfl⟩ := hof
    obtain ⟨_, _, htake⟩ := takeIf_eq { p with pushed := .other :: p.pushed } takesLocation
    rw [htake]
    exact .same rfl
  | popViewController =>
    obtain ⟨_, rfl⟩ := hof
    exact hsame rfl
  | logout =>
    obtain ⟨_, rfl⟩ := hof
    by_cases hflag : key = .iSUerActivated
    · subst hflag
      exact .lowered (by simp [logout, goBackToMainViewController, ProviderApp.setDefaults,
        ProviderApp.dismissSheets, UserDefaults.setBool])
    · exact .same (by simp [logout, goBackToMainViewController, ProviderApp.setDefaults,
        ProviderApp.dismissSheets, UserDefaults.setBool, hflag])
  | goBackToMainViewController =>
    obtain rfl : q = p.goBackToMainViewController := hof
    exact hsame rfl
  | elsewhere defaults => exact absurd hentry (by simp [isEntry])
  | btnNavigationPressed i =>
    obtain ⟨_, _, _, hpress⟩ := hof
    obtain ⟨_, _, _, rfl⟩ := btnNavigationPressed_inv hpress
    exact hsame rfl
  | notifyWhenProviderHasReached j =>
    obtain rfl : q = { p with reached := j :: p.reached } := hof
    exact hsame rfl
  | cancelRequest j sinceAccepted sinceReached =>
    obtain ⟨_, _, _, hcancel⟩ := hof
    rcases cancelRequest_inv hcancel with rfl | rfl
    · exact hsame rfl
    · exact hsame rfl
  | leftBarItemDidTap j =>
    obtain ⟨_, _, _, _, rfl⟩ := hof
    exact hsame rfl
  | dismissAlert =>
    obtain rfl : q = { p with alert := none } := hof
    exact hsame rfl
  | btnSubmitPressed noShow dismisses =>
    obtain ⟨_, _, _, _, hsubmit⟩ := hof
    obtain ⟨_, _, _, _, a, _, rfl, rfl⟩ := btnSubmitPressed_inv hsubmit
    cases dismisses with
    | false => exact hsame rfl
    | true => exact hsame rfl

/-- The provider's side stores no profile but through the handset. -/
theorem step_profile (h : (machine distance).Step p e q) (hentry : isEntry e = false) :
    q.app.device.profile = p.app.device.profile := by
  cases step_value .userProfileInfoDef h hentry with
  | same hsame => exact hsame
  | profile stores _ => exact absurd stores (by simp)

end ProviderPhone

end WeatherAccommodation
