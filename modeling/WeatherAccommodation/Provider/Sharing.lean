/-
# Location sharing stops with the trip

The dashboard's 30-second timer writes `location_updated` for `currentAcceptedRequest`.  No
cancellation stops it: the sheet goes off screen, the dashboard below appears again, and its
`viewWillAppear` invalidates the timer if there are markers on the map.  A sheet opens together with
the markers, so that is enough wherever the sheet does go.

It does not always go.  The sheet may lie under an alert that asks whether to cancel, or under the
client's selfie, and `dismiss` of a screen that presents another one takes only that other one
(`STPopup` passes the call on to its container, where UIKit does the same).  `CoveredPhone` is the
phone with that, and with the dashboard's `viewWillAppear` after every sheet that goes.

Whatever is shared is shared for a trip that was not cancelled, if every cancellation takes the
sheet with it and no acceptance comes after it (`sharing_stops`).  A cancellation that comes under an
alert leaves both the sheet and the timer (`cancelled_under_alert`).
-/
import WeatherAccommodation.Handset.ProviderSide
import WeatherAccommodation.ResumedTrip

namespace WeatherAccommodation

open Foundation Reactive

/-! ## 1. What lies over the sheet -/

structure CoveredPhone where
  phone : ProviderPhone
  /-- An alert, or the client's selfie, is presented by the sheet. -/
  covered : Bool := false

inductive CoveredEvent where
  | phone (e : PhoneEvent)
  | presentOverSheet
  | dismissCover

/-- The sheet to which a text is a cancellation. -/
def ProviderApp.cancelledSheet (a : ProviderApp) (socket : Nat) (text : Message) : Option Nat :=
  match a.sockets.delegate with
  | some (.clientDetail j) =>
    if a.sockets.clientproviderRequestSocket = some socket ∧ isCancellation text = true then some j
    else none
  | _ => none

namespace ProviderPhone

def presents (p : ProviderPhone) (j : Nat) : Bool :=
  p.app.sheets[j]?.any ClientDetailSheet.isPresented

/-- Some sheet went off screen on the way from `p` to `q`. -/
def sheetGone (p q : ProviderPhone) : Bool :=
  (p.app.sheets.zip q.app.sheets).any fun (s, t) => s.isPresented && !t.isPresented

/-- The dashboard on which the sheet lay appears again. -/
def reappear (p q : ProviderPhone) : ProviderPhone :=
  match p.home with
  | some i =>
    match q.app.dashboards[i]? with
    | some d => q.follow (.viewWillAppear i) (q.app.viewWillAppear i d)
    | none => q
  | none => q

end ProviderPhone

namespace CoveredPhone

def isCovered (s : CoveredPhone) : Bool := s.covered || s.phone.alert.isSome

/-- The screen that lies over the sheet takes the touches. -/
def blocks (s : CoveredPhone) : PhoneEvent → Bool
  | .app (.textFieldEditingChanged _ _) => s.covered
  | .cancelRequest _ _ _ => s.covered
  | .leftBarItemDidTap _ => s.covered
  | _ => false

/-- The sheet is told to go, and what lies over it goes instead. -/
def takesCover (s : CoveredPhone) : PhoneEvent → Bool
  | .app (.onMessage socket text _ _) =>
    s.isCovered && (s.phone.app.cancelledSheet socket text).any s.phone.presents
  | _ => false

def uncover (s : CoveredPhone) : CoveredPhone := { phone := { s.phone with alert := none } }

/-- The phone has become `q`. -/
def follow (s : CoveredPhone) (q : ProviderPhone) : CoveredPhone where
  phone := if s.phone.sheetGone q then s.phone.reappear q else q
  covered := s.covered && q.sheetIsPresented

def react (distance : CLLocation → CLLocation → ℚ) (s : CoveredPhone) :
    CoveredEvent → Option (Except Trap CoveredPhone)
  | .phone e =>
    if s.blocks e then none
    else (s.phone.react distance e).map fun r =>
      r.map fun q => if s.takesCover e then s.uncover else s.follow q
  | .presentOverSheet =>
    if s.phone.sheetIsPresented ∧ s.isCovered = false then some (.ok { s with covered := true })
    else none
  | .dismissCover => if s.covered then some (.ok { s with covered := false }) else none

def machine (distance : CLLocation → CLLocation → ℚ) :
    Machine CoveredPhone CoveredEvent Trap where
  react := react distance

end CoveredPhone

/-! ## 2. The trips that were cancelled -/

namespace ProviderPhone

/-- The trip whose cancellation the event sends from the sheet, or brings to it. -/
def cancels (p : ProviderPhone) : PhoneEvent → Option Dict
  | .app (.cancelTrip j _) => p.app.sheets[j]?.map ClientDetailSheet.currentRequest
  | .app (.onMessage socket text _ _) =>
    (p.app.cancelledSheet socket text).bind fun j =>
      p.app.sheets[j]?.map ClientDetailSheet.currentRequest
  | .btnSubmitPressed _ _ =>
    (p.alert.bind fun m => p.alerts[m]?).map RequestCancelAlert.currentRequest
  | _ => none

/-- The trip whose acceptance the event brings to a dashboard. -/
def accepts (p : ProviderPhone) : PhoneEvent → Option Dict
  | .app (.onMessage socket (some (.obj trip)) _ _) =>
    match p.app.sockets.delegate with
    | some (.dashboard _) => if p.app.isForTrip socket (some (.obj trip)) then some trip else none
    | _ => none
  | _ => none

end ProviderPhone

namespace CoveredPhone

/-- The history variable: the ids of the trips that were cancelled. -/
def noteCancelled (h : List String) (s : CoveredPhone) (e : CoveredEvent) (_ : CoveredPhone) :
    List String :=
  match e with
  | .phone e => ((s.phone.cancels e).bind tripId).toList ++ h
  | _ => h

def isLocationUpdate : ProviderFrame → Bool
  | .locationUpdated _ _ _ => true
  | _ => false

/-- Every `location_updated` frame of the step is written by a dashboard's timer, for a trip that
was not cancelled before. -/
def SharesLiveTrips (x y : CoveredPhone × List String) (e : CoveredEvent) : Prop :=
  ∀ f ∈ y.1.phone.app.frames.drop x.1.phone.app.frames.length, isLocationUpdate f.2 = true →
    ∃ i d trip, e = .phone (.app (.timerFired i)) ∧ x.1.phone.app.dashboards[i]? = some d ∧
      d.currentAcceptedRequest = some trip ∧ ∀ id, tripId trip = some id → id ∉ x.2

/-- The timer of the dashboard runs, for the trip with this id. -/
def sharesTrip (id : String) (d : ProviderDashboard) : Bool :=
  d.timerIsValid && (d.currentAcceptedRequest.bind tripId == some id)

/-- The cancellation takes the sheet off screen. -/
def takesSheet (s : CoveredPhone) : PhoneEvent → Bool
  | .app (.cancelTrip j _) => s.phone.presents j
  | .app (.onMessage socket text _ _) =>
    !s.isCovered && (s.phone.app.cancelledSheet socket text).any s.phone.presents
  | .btnSubmitPressed _ dismissesSheet => dismissesSheet && s.phone.sheetIsPresented
  | _ => false

/-- The condition on a step.  Where a trip is cancelled that some dashboard shares its location
for, that dashboard is the one below the sheet, and the sheet goes; and no acceptance is one of a
trip that was cancelled. -/
def stopsSharing (x : CoveredPhone × List String) : CoveredEvent → Bool
  | .phone e =>
    ((x.1.phone.cancels e).bind tripId).all (fun id =>
      (List.range x.1.phone.app.dashboards.length).all fun i =>
        !(x.1.phone.app.dashboards[i]?.any (sharesTrip id)) ||
          (x.1.phone.home == some i && x.1.takesSheet e)) &&
    ((x.1.phone.accepts e).bind tripId).all fun id => !x.2.contains id
  | _ => true

end CoveredPhone

/-! ## 3. Timers and markers -/

namespace ProviderApp

variable {distance : CLLocation → CLLocation → ℚ} {a b : ProviderApp} {d d' : ProviderDashboard}
  {i : Nat}

theorem eq_of_putDashboard (h : (a.putDashboard i d).dashboards[i]? = some d') : d' = d := by
  rw [putDashboard, List.getElem?_set] at h
  split at h
  · split at h
    · exact (Option.some.inj h).symm
    · exact absurd h (by simp)
  · rename_i hne
    exact absurd rfl hne

/-- The switch starts no timer. -/
theorem timer_of_switchValueChanged {isOn : Bool} (h : a.switchValueChanged i d isOn = .ok b)
    (hd' : b.dashboards[i]? = some d') (hvalid : d'.timerIsValid = true) :
    d.timerIsValid = true := by
  unfold switchValueChanged at h
  split at h
  · rw [pure_eq_ok] at h
    subst h
    obtain rfl := eq_of_putDashboard hd'
    exact hvalid
  · rcases requestSocketToChangeStatusOrLocation_switch h with ⟨_, providerId, rfl⟩ | ⟨_, rfl⟩
    · obtain rfl : d' = setSwitch d isOn := eq_of_putDashboard hd'
      exact hvalid
    · rw [eq_of_putDashboard hd'] at hvalid
      exact absurd hvalid (by simp [ProviderDashboard.invalidateTimer])

/-- A timer that runs ran before, for the same trip, or was started by an acceptance. -/
theorem timer_of_step {e : ProviderEvent} (h : (machine distance).Step a e b)
    (hd' : b.dashboards[i]? = some d') (hvalid : d'.timerIsValid = true) :
    (∃ d, a.dashboards[i]? = some d ∧ d.timerIsValid = true ∧
        d'.currentAcceptedRequest = d.currentAcceptedRequest) ∨
      ∃ trip, ProviderPhone.Accepts a i e trip ∧ d'.currentAcceptedRequest = some trip := by
  rcases (step_dashboards h).at_index hd' with ⟨d, hd, hmove⟩ | ⟨_, _, trip, rfl⟩
  · rcases ProviderPhone.trip_of_move hmove with ⟨haccepted, htimer⟩ | haccepts
    · rcases htimer hvalid with hold | ⟨isOn, rfl⟩
      · exact Or.inl ⟨d, hd, hold, haccepted⟩
      · obtain ⟨d₀, hd₀, hswitch⟩ : StepOf distance a b (.switchValueChanged i isOn) := step_inv h
        obtain rfl : d₀ = d := Option.some.inj (hd₀.symm.trans hd)
        exact Or.inl ⟨d₀, hd, timer_of_switchValueChanged hswitch hd' hvalid, haccepted⟩
    · exact Or.inr haccepts
  · exact absurd hvalid (by simp)

/-- Of the moves of a dashboard, only directions that fail could take markers away. -/
theorem markers_of_move {e : ProviderEvent} (h : DashboardMove distance a i d e d')
    (he : ∀ call success, e ≠ .directionsReply i call success) :
    d'.hasMarkers = d.hasMarkers := by
  cases h with
  | appear =>
    unfold ProviderDashboard.clearTrip
    split
    · rfl
    · rfl
  | foreground _ shown =>
    obtain ⟨_, _, _, _, rfl⟩ := ProviderDashboard.showRequestUI_frame shown
    rfl
  | directions call success _ _ => exact absurd rfl (he call success)
  | location _ told =>
    obtain ⟨_, rfl⟩ := ProviderDashboard.tracingLocation_inv told
    rfl
  | status _ _ handled =>
    obtain ⟨_, _, _, _, _, rfl⟩ := ProviderDashboard.providerMessage_frame handled
    rfl
  | request _ _ _ handled =>
    rcases ProviderDashboard.requestMessage_inv handled with rfl | ⟨_, _, rfl⟩
    · rfl
    · rfl
  | stay | decline | accept | switch | ring | disconnect => rfl

/-- Markers stay on the map. -/
theorem markers_of_step {e : ProviderEvent} (h : (machine distance).Step a e b)
    (hd : a.dashboards[i]? = some d) (hmarkers : d.hasMarkers = true)
    (hd' : b.dashboards[i]? = some d') : d'.hasMarkers = true := by
  rcases (step_dashboards h).at_index hd' with ⟨d₀, hd₀, hmove⟩ | ⟨_, rfl, _⟩
  · obtain rfl : d₀ = d := Option.some.inj (hd₀.symm.trans hd)
    by_cases he : ∃ call success, e = .directionsReply i call success
    · obtain ⟨call, success, rfl⟩ := he
      obtain ⟨d₁, hd₁, _, hreply⟩ : StepOf distance a b (.directionsReply i call success) :=
        step_inv h
      obtain rfl : d₁ = d₀ := Option.some.inj (hd₁.symm.trans hd₀)
      rcases directionsReply_inv hreply with ⟨_, rfl⟩ | ⟨_, _, _, _, _, rfl⟩
      · rw [eq_of_putDashboard hd']
        exact hmarkers
      · rw [eq_of_putDashboard (a := a) hd']
    · rw [markers_of_move hmove fun call success heq => he ⟨call, success, heq⟩]
      exact hmarkers
  · have hlt : a.dashboards.length < a.dashboards.length := (List.getElem?_eq_some_iff.mp hd).1
    omega

end ProviderApp

namespace ProviderPhone

variable {distance : CLLocation → CLLocation → ℚ} {p q : ProviderPhone} {e : PhoneEvent} {i : Nat}

/-- A timer that runs ran before, for the same trip, or was started by an acceptance. -/
theorem timer_of_step {d' : ProviderDashboard} (h : (machine distance).Step p e q)
    (hd' : q.app.dashboards[i]? = some d') (hvalid : d'.timerIsValid = true) :
    (∃ d, p.app.dashboards[i]? = some d ∧ d.timerIsValid = true ∧
        d'.currentAcceptedRequest = d.currentAcceptedRequest) ∨
      ∃ trip, p.accepts e = some trip ∧ d'.currentAcceptedRequest = some trip := by
  by_cases happ : ∃ ev, e = .app ev
  · obtain ⟨ev, rfl⟩ := happ
    obtain ⟨_, b, hb, rfl⟩ : StepOf distance p q (.app ev) := step_inv h
    rcases ProviderApp.timer_of_step hb hd' hvalid with hold | ⟨trip, haccepts, haccepted⟩
    · exact Or.inl hold
    · obtain ⟨socket, text, state, selectedIndex, rfl, htrip, rfl⟩ := haccepts.event
      exact Or.inr ⟨trip, by simp [accepts, haccepts.delegate, htrip], haccepted⟩
  · rcases step_dashboard h hd' with ⟨d, hd, hmove⟩ | ⟨rfl, _⟩
    · cases hmove with
      | stay _ same =>
        subst same
        exact Or.inl ⟨d', hd, hvalid, rfl⟩
      | @move ev event move =>
        have hnot : (∀ i isOn, ev ≠ .switchValueChanged i isOn) ∧
            ∀ socket text state index, ev ≠ .onMessage socket text state index := by
          rcases inner_eq_some event with rfl | ⟨_, _, _, rfl⟩ | ⟨_, _, rfl⟩ | ⟨_, _, _, rfl⟩
          · exact absurd ⟨ev, rfl⟩ happ
          · simp
          · simp
          · simp
        rcases trip_of_move move with ⟨haccepted, htimer⟩ | ⟨trip, haccepts, _⟩
        · rcases htimer hvalid with hold | ⟨isOn, heq⟩
          · exact Or.inl ⟨d, hd, hold, haccepted⟩
          · exact absurd heq (hnot.1 i isOn)
        · obtain ⟨socket, text, state, index, heq, _⟩ := haccepts.event
          exact absurd heq (hnot.2 socket text state index)
    · exact absurd ⟨_, rfl⟩ happ

/-- Markers stay on the map. -/
theorem markers_of_step {d : ProviderDashboard} (h : (machine distance).Step p e q)
    (hd : p.app.dashboards[i]? = some d) (hmarkers : d.hasMarkers = true) :
    ∃ d', q.app.dashboards[i]? = some d' ∧ d'.hasMarkers = true := by
  have hlt : i < q.app.dashboards.length :=
    Nat.lt_of_lt_of_le (List.getElem?_eq_some_iff.mp hd).1 (dashboards_length_le h)
  obtain ⟨d', hd'⟩ : ∃ d', q.app.dashboards[i]? = some d' := ⟨_, List.getElem?_eq_getElem hlt⟩
  refine ⟨d', hd', ?_⟩
  by_cases happ : ∃ ev, e = .app ev
  · obtain ⟨ev, rfl⟩ := happ
    obtain ⟨_, b, hb, rfl⟩ : StepOf distance p q (.app ev) := step_inv h
    exact ProviderApp.markers_of_step hb hd hmarkers hd'
  · by_cases hlate : ∃ k call, e = .lateDirections k call
    · obtain ⟨k, call, rfl⟩ := hlate
      obtain ⟨d₀, hd₀, _, hlate⟩ : StepOf distance p q (.lateDirections k call) := step_inv h
      have hq := lateDirections_inv hlate
      have hset : (p.app.putDashboard k
          { ProviderApp.answered d₀ call with hasMarkers := true }).dashboards[i]? = some d' := by
        rw [hq] at hd'
        exact hd'
      by_cases hki : k = i
      · subst hki
        rw [ProviderApp.eq_of_putDashboard hset]
      · rw [ProviderApp.putDashboard, List.getElem?_set_ne hki, hd] at hset
        rw [← Option.some.inj hset]
        exact hmarkers
    · rcases step_dashboard h hd' with ⟨d₀, hd₀, hmove⟩ | ⟨rfl, _⟩
      · obtain rfl : d₀ = d := Option.some.inj (hd₀.symm.trans hd)
        cases hmove with
        | stay _ same =>
          rw [same]
          exact hmarkers
        | @move ev event move =>
          have hnot : ∀ call success, ev ≠ .directionsReply i call success := by
            rcases inner_eq_some event with rfl | ⟨k, call, rfl, _⟩ | ⟨_, _, rfl⟩ | ⟨_, _, _, rfl⟩
            · exact absurd ⟨ev, rfl⟩ happ
            · exact absurd ⟨k, call, rfl⟩ hlate
            · simp
            · simp
          rw [ProviderApp.markers_of_move move hnot]
          exact hmarkers
      · exact absurd ⟨_, rfl⟩ happ

/-! ## 4. The dashboard below the sheet -/

/-- The dashboard on which a sheet lies has its markers on the map. -/
def Marked (p : ProviderPhone) : Prop :=
  p.sheetIsPresented = true →
    ∃ i d, p.home = some i ∧ p.app.dashboards[i]? = some d ∧ d.hasMarkers = true

/-- A sheet is presented afterwards: one was, or it has just opened. -/
theorem presented_after (h : SheetsStep p q e) (hq : q.sheetIsPresented = true) :
    p.sheetIsPresented = true ∨ ∃ j s i d, Opens p j s e i d := by
  obtain ⟨s', hs', hpresented⟩ := List.any_eq_true.mp hq
  obtain ⟨j, hj⟩ := List.mem_iff_getElem?.mp hs'
  rcases h.at_index hj with ⟨s, hs, hmove⟩ | ⟨i, d, hopens⟩
  · left
    refine List.any_eq_true.mpr ⟨s, List.mem_of_getElem? hs, ?_⟩
    cases hmove with
    | stay same => rwa [same] at hpresented
    | told _ _ same => rwa [same] at hpresented
    | dismissed _ same =>
      rw [same] at hpresented
      exact absurd hpresented (by simp [ClientDetailSheet.dismiss])
  · exact Or.inr ⟨j, s', i, d, hopens⟩

/-- A dashboard stays where it is as long as a sheet lies on it. -/
theorem home_of_step (h : (machine distance).Step p e q) (hhome : p.home = some i)
    (hq : q.sheetIsPresented = true) : q.home = some i := by
  cases hentry : isEntry e with
  | true =>
    cases e with
    | app ev =>
      cases ev with
      | viewDidLoad =>
        obtain ⟨hadmits, _⟩ : StepOf distance p q (.app .viewDidLoad) := step_inv h
        exact absurd hadmits (by simp [admits, hhome])
      | _ => exact absurd hentry (by simp [isEntry])
    | elsewhere defaults =>
      obtain rfl : q = { p with app := p.app.setDefaults defaults } := step_inv h
      exact hhome
    | _ => exact absurd hentry (by simp [isEntry])
  | false =>
    have hleaves : leaves e = false := by
      cases hleaves : leaves e with
      | false => rfl
      | true =>
        have hnone : q.sheetIsPresented = false := by
          cases e with
          | logout =>
            obtain ⟨_, rfl⟩ : StepOf distance p q .logout := step_inv h
            simp [sheetIsPresented, logout, goBackToMainViewController, ProviderApp.setDefaults,
              ProviderApp.dismissSheets, ClientDetailSheet.dismiss]
          | goBackToMainViewController =>
            obtain rfl : q = p.goBackToMainViewController := step_inv h
            simp [sheetIsPresented, goBackToMainViewController, ProviderApp.dismissSheets,
              ClientDetailSheet.dismiss]
          | _ => exact absurd hleaves (by simp [leaves])
        exact absurd (hnone.symm.trans hq) (by simp)
    rw [(step_shown h hentry).home, hleaves]
    exact hhome

theorem Marked.step (hp : p.Marked) (h : (machine distance).Step p e q) : q.Marked := by
  intro hq
  rcases presented_after (step_sheets h) hq with hbefore | ⟨j, s, i, d, hopens⟩
  · obtain ⟨i, d, hhome, hd, hmarkers⟩ := hp hbefore
    obtain ⟨d', hd', hmarkers'⟩ := markers_of_step h hd hmarkers
    exact ⟨i, d', home_of_step h hhome hq, hd', hmarkers'⟩
  · obtain ⟨call, rfl⟩ := hopens.event
    have hhome : p.home = some i := by
      have hpresents := hopens.presents
      simp only [canPresent, Bool.and_eq_true, beq_iff_eq] at hpresents
      exact hpresents.1
    obtain ⟨_, b, hb, rfl⟩ : StepOf distance p q (.app (.directionsReply i call true)) := step_inv h
    obtain ⟨d₁, hd₁, _, hreply⟩ :
        ProviderApp.StepOf distance p.app b (.directionsReply i call true) :=
      ProviderApp.step_inv hb
    rcases ProviderApp.directionsReply_inv hreply with ⟨hno, _⟩ | ⟨_, _, _, _, _, rfl⟩
    · exact absurd hno (by simp)
    · have hlt : i < p.app.dashboards.length := (List.getElem?_eq_some_iff.mp hd₁).1
      refine ⟨i, _, hhome, List.getElem?_set_self hlt, rfl⟩

end ProviderPhone

/-! ## 5. The sheet goes -/

namespace ClientDetailSheet

/-- A cancellation closes the sheet. -/
theorem requestMessage_of_isCancellation {sheet sheet' : ClientDetailSheet} {text : Message}
    (h : sheet.requestMessage text = .ok sheet') (hcancel : ProviderApp.isCancellation text = true) :
    sheet' = sheet.dismiss := by
  cases text with
  | none => exact absurd hcancel (by simp [ProviderApp.isCancellation])
  | some json =>
    cases json with
    | obj dict =>
      have htype : Dict.string? dict "RequestType" = some Trip_Status.cancelled := by
        simpa [ProviderApp.isCancellation] using hcancel
      simp only [requestMessage, messageDict_obj, bind_eq_ok, Except.ok.injEq, exists_eq_left'] at h
      obtain ⟨cancelled, hcancelled, h⟩ := h
      rw [hasText_eq_true.mpr htype] at hcancelled
      obtain rfl := Except.ok.inj hcancelled
      rw [if_pos rfl, pure_eq_ok] at h
      exact h.symm
    | _ => exact absurd hcancel (by simp [ProviderApp.isCancellation])

end ClientDetailSheet

namespace CoveredPhone

variable {distance : CLLocation → CLLocation → ℚ} {s t : CoveredPhone} {q : ProviderPhone}

theorem sheetGone_of {p : ProviderPhone} {j : Nat} {sheet sheet' : ClientDetailSheet}
    (hsheet : p.app.sheets[j]? = some sheet) (hsheet' : q.app.sheets[j]? = some sheet')
    (h : sheet.isPresented = true) (h' : sheet'.isPresented = false) : p.sheetGone q = true := by
  refine List.any_eq_true.mpr ⟨(sheet, sheet'), List.mem_of_getElem? (i := j) ?_, by simp [h, h']⟩
  rw [List.getElem?_zip_eq_some]
  exact ⟨hsheet, hsheet'⟩

/-- The sheet that is cancelled is listed, and on screen. -/
theorem presents_iff {p : ProviderPhone} {j : Nat} :
    p.presents j = true ↔ ∃ sheet, p.app.sheets[j]? = some sheet ∧ sheet.isPresented = true := by
  simp [ProviderPhone.presents, Option.any_eq_true]

/-- Where a cancellation takes the sheet, a sheet goes. -/
theorem sheetGone_of_takesSheet {e : PhoneEvent} (htakes : s.takesSheet e = true)
    (h : (ProviderPhone.machine distance).Step s.phone e q) : s.phone.sheetGone q = true := by
  have hof : ProviderPhone.StepOf distance s.phone q e := ProviderPhone.step_inv h
  cases e with
  | app ev =>
    obtain ⟨_, b, hb, rfl⟩ := hof
    have hbof : ProviderApp.StepOf distance s.phone.app b ev := ProviderApp.step_inv hb
    cases ev with
    | cancelTrip j reason =>
      obtain ⟨sheet, hsheet, hpresented⟩ := presents_iff.mp htakes
      obtain ⟨sheet₀, hsheet₀, hcancel⟩ := hbof
      obtain rfl : sheet₀ = sheet := Option.some.inj (hsheet₀.symm.trans hsheet)
      obtain ⟨_, _, _, _, _, rfl⟩ := ProviderApp.cancelTrip_inv hcancel
      have hlt : j < s.phone.app.sheets.length := (List.getElem?_eq_some_iff.mp hsheet).1
      exact sheetGone_of hsheet (List.getElem?_set_self hlt) hpresented rfl
    | onMessage socket text state selectedIndex =>
      simp only [takesSheet, Bool.and_eq_true, Option.any_eq_true] at htakes
      obtain ⟨_, j, hcancelled, hpresents⟩ := htakes
      obtain ⟨sheet, hsheet, hpresented⟩ := presents_iff.mp hpresents
      simp only [ProviderApp.cancelledSheet] at hcancelled
      split at hcancelled
      · rename_i k hdelegate
        split at hcancelled
        · rename_i hcond
          obtain rfl : k = j := Option.some.inj hcancelled
          obtain ⟨_, ⟨i, d, hdelegate', _⟩ | ⟨k', sheet₀, hdelegate', hsheet₀, hmessage⟩⟩ := hbof
          · exact absurd (hdelegate.symm.trans hdelegate') (by simp)
          · obtain rfl : k = k' := by simpa using hdelegate.symm.trans hdelegate'
            obtain rfl : sheet₀ = sheet := Option.some.inj (hsheet₀.symm.trans hsheet)
            simp only [ProviderApp.sheetMessage, if_pos hcond.1, bind_eq_ok, pure_eq_ok] at hmessage
            obtain ⟨sheet', hsheet', rfl⟩ := hmessage
            obtain rfl := ClientDetailSheet.requestMessage_of_isCancellation hsheet' hcond.2
            have hlt : k < s.phone.app.sheets.length := (List.getElem?_eq_some_iff.mp hsheet).1
            exact sheetGone_of hsheet (List.getElem?_set_self hlt) hpresented rfl
        · exact absurd hcancelled (by simp)
      · exact absurd hcancelled (by simp)
    | _ => exact absurd htakes (by simp [takesSheet])
  | btnSubmitPressed noShow dismisses =>
    obtain ⟨_, _, _, _, hsubmit⟩ := hof
    obtain ⟨_, _, _, _, a, _, ha, rfl⟩ := ProviderPhone.btnSubmitPressed_inv hsubmit
    obtain ⟨rfl, hpresented⟩ : dismisses = true ∧ s.phone.sheetIsPresented = true := by
      simpa [takesSheet] using htakes
    obtain ⟨sheet, hmem, hon⟩ := List.any_eq_true.mp hpresented
    obtain ⟨j, hsheet⟩ := List.mem_iff_getElem?.mp hmem
    have hgone : (a.dismissSheets).sheets[j]? = some sheet.dismiss := by
      simp [ha, ProviderApp.dismissSheets, ProviderApp.write, hsheet]
    exact sheetGone_of hsheet hgone hon rfl
  | _ => exact absurd htakes (by simp [takesSheet])

/-- What a dashboard is after the one below the sheet has appeared again. -/
theorem reappear_dashboard {p : ProviderPhone} {k : Nat} {d' : ProviderDashboard}
    (h : (p.reappear q).app.dashboards[k]? = some d') :
    ∃ d, q.app.dashboards[k]? = some d ∧ d'.currentAcceptedRequest = d.currentAcceptedRequest ∧
      d'.hasMarkers = d.hasMarkers ∧ (d'.timerIsValid = true →
        d.timerIsValid = true ∧ (p.home = some k → d.hasMarkers = false)) := by
  unfold ProviderPhone.reappear at h
  split at h
  · rename_i i hhome
    split at h
    · rename_i d hd
      by_cases hki : k = i
      · subst hki
        obtain rfl : d' = d.clearTrip := ProviderApp.eq_of_putDashboard h
        refine ⟨d, hd, ?_⟩
        unfold ProviderDashboard.clearTrip
        split
        · exact ⟨rfl, rfl, fun hvalid =>
            absurd hvalid (by simp [ProviderDashboard.invalidateTimer])⟩
        · rename_i hbare
          exact ⟨rfl, rfl, fun hvalid => ⟨hvalid, fun _ => by simpa using hbare⟩⟩
      · have hset : (q.app.dashboards.set i d.clearTrip)[k]? = some d' := h
        rw [List.getElem?_set_ne (Ne.symm hki)] at hset
        refine ⟨d', hset, rfl, rfl, fun hvalid => ⟨hvalid, fun hk => ?_⟩⟩
        exact absurd (Option.some.inj (hk.symm.trans hhome)) hki
    · rename_i hnone
      refine ⟨d', h, rfl, rfl, fun hvalid => ⟨hvalid, fun hk => ?_⟩⟩
      obtain rfl : k = i := Option.some.inj (hk.symm.trans hhome)
      exact absurd (hnone.symm.trans h) (by simp)
  · rename_i hnone
    refine ⟨d', h, rfl, rfl, fun hvalid => ⟨hvalid, fun hk => ?_⟩⟩
    exact absurd (hk.symm.trans hnone) (by simp)

/-- If a sheet went, a timer of the dashboard below it runs only without markers. -/
theorem follow_dashboard {i : Nat} {d' : ProviderDashboard}
    (h : (s.follow q).phone.app.dashboards[i]? = some d') :
    ∃ d, q.app.dashboards[i]? = some d ∧ d'.currentAcceptedRequest = d.currentAcceptedRequest ∧
      d'.hasMarkers = d.hasMarkers ∧ (d'.timerIsValid = true → d.timerIsValid = true ∧
        (s.phone.home = some i → s.phone.sheetGone q = true → d.hasMarkers = false)) := by
  unfold follow at h
  split at h
  · obtain ⟨d, hd, haccepted, hmarkers, htimer⟩ := reappear_dashboard h
    refine ⟨d, hd, haccepted, hmarkers, fun hvalid => ⟨(htimer hvalid).1, fun hhome _ => ?_⟩⟩
    exact (htimer hvalid).2 hhome
  · rename_i hstays
    exact ⟨d', h, rfl, rfl, fun hvalid => ⟨hvalid, fun _ hgone => absurd hgone hstays⟩⟩

/-- What a dashboard that appears again leaves as it is. -/
structure Follows (p q : ProviderPhone) : Prop where
  home : p.home = q.home
  sheets : p.app.sheets = q.app.sheets
  frames : p.app.frames = q.app.frames
  length : p.app.dashboards.length = q.app.dashboards.length

theorem follow_kept (s : CoveredPhone) (q : ProviderPhone) : Follows (s.follow q).phone q := by
  unfold follow
  split
  · unfold ProviderPhone.reappear
    split
    · split
      · exact ⟨rfl, rfl, rfl, List.length_set⟩
      · exact ⟨rfl, rfl, rfl, rfl⟩
    · exact ⟨rfl, rfl, rfl, rfl⟩
  · exact ⟨rfl, rfl, rfl, rfl⟩

theorem marked_follow (h : q.Marked) : (s.follow q).phone.Marked := by
  have hkept : Follows (s.follow q).phone q := follow_kept s q
  intro hpresented
  rw [ProviderPhone.sheetIsPresented, hkept.sheets] at hpresented
  obtain ⟨i, d, hhome, hd, hmarkers⟩ := h hpresented
  have hlt : i < (s.follow q).phone.app.dashboards.length := by
    rw [hkept.length]
    exact (List.getElem?_eq_some_iff.mp hd).1
  obtain ⟨d', hd'⟩ : ∃ d', (s.follow q).phone.app.dashboards[i]? = some d' :=
    ⟨_, List.getElem?_eq_getElem hlt⟩
  obtain ⟨d₁, hd₁, _, hmarks, _⟩ := follow_dashboard hd'
  obtain rfl : d₁ = d := Option.some.inj (hd₁.symm.trans hd)
  exact ⟨i, d', hkept.home.trans hhome, hd', hmarks.trans hmarkers⟩

/-- A step, by what it does. -/
inductive Move (distance : CLLocation → CLLocation → ℚ) (s t : CoveredPhone) : CoveredEvent → Prop where
  | phone {e : PhoneEvent} {q : ProviderPhone}
      (step : (ProviderPhone.machine distance).Step s.phone e q)
      (after : t = if s.takesCover e then s.uncover else s.follow q) : Move distance s t (.phone e)
  | cover {e : CoveredEvent} (own : ∀ e', e ≠ .phone e') (same : t.phone = s.phone) :
      Move distance s t e

theorem step_move {e : CoveredEvent} (h : (machine distance).Step s e t) : Move distance s t e := by
  have h' : react distance s e = some (.ok t) := h
  cases e with
  | phone e =>
    simp only [react] at h'
    split at h'
    · exact absurd h' (by simp)
    · obtain ⟨q, hq, rfl⟩ := handled_eq_ok.mp h'
      exact .phone hq rfl
  | presentOverSheet =>
    simp only [react] at h'
    split at h'
    · obtain rfl := Except.ok.inj (Option.some.inj h')
      exact .cover (by simp) rfl
    · exact absurd h' (by simp)
  | dismissCover =>
    simp only [react] at h'
    split at h'
    · obtain rfl := Except.ok.inj (Option.some.inj h')
      exact .cover (by simp) rfl
    · exact absurd h' (by simp)

/-! ## 6. The law -/

/-- No running timer shares a location for a trip that was cancelled. -/
structure StopsInTime (x : CoveredPhone × List String) : Prop where
  stopped : ∀ (i : Nat) (d : ProviderDashboard) (trip : Dict) (id : String),
    x.1.phone.app.dashboards[i]? = some d → d.timerIsValid = true →
      d.currentAcceptedRequest = some trip → tripId trip = some id → id ∉ x.2
  marked : x.1.phone.Marked

/-- Below a cancellation, the timer that shares for the trip is the one that the sheet stops. -/
theorem stopped_by {x : CoveredPhone × List String} {e : PhoneEvent} {id : String} {i : Nat}
    {d : ProviderDashboard} {trip : Dict} (hcond : stopsSharing x (.phone e) = true)
    (hcancel : (x.1.phone.cancels e).bind tripId = some id)
    (hd : x.1.phone.app.dashboards[i]? = some d) (hvalid : d.timerIsValid = true)
    (htrip : d.currentAcceptedRequest = some trip) (hid : tripId trip = some id) :
    x.1.phone.home = some i ∧ x.1.takesSheet e = true := by
  have hlt : i < x.1.phone.app.dashboards.length := (List.getElem?_eq_some_iff.mp hd).1
  simp only [stopsSharing, hcancel, Option.all_some, Bool.and_eq_true, List.all_eq_true,
    List.mem_range] at hcond
  have hi := hcond.1 i hlt
  simpa [hd, sharesTrip, hvalid, htrip, hid] using hi

/-- A sheet below a cover stays, and one that is not covered goes without the cover. -/
theorem not_takesSheet_of_takesCover {e : PhoneEvent} (h : s.takesCover e = true) :
    s.takesSheet e = false := by
  cases e with
  | app ev =>
    cases ev with
    | onMessage socket text state selectedIndex =>
      simp only [takesCover, Bool.and_eq_true] at h
      simp [takesSheet, h.1]
    | _ => exact absurd h (by simp [takesCover])
  | _ => exact absurd h (by simp [takesCover])

/-- A screen on which a sheet lies is the screen below the sheet that goes. -/
theorem presented_of_takesSheet {e : PhoneEvent} (h : s.takesSheet e = true) :
    s.phone.sheetIsPresented = true := by
  have hany : ∀ j, s.phone.presents j = true → s.phone.sheetIsPresented = true := by
    intro j hj
    obtain ⟨sheet, hsheet, hpresented⟩ := presents_iff.mp hj
    exact List.any_eq_true.mpr ⟨sheet, List.mem_of_getElem? hsheet, hpresented⟩
  cases e with
  | app ev =>
    cases ev with
    | cancelTrip j reason => exact hany j h
    | onMessage socket text state selectedIndex =>
      simp only [takesSheet, Bool.and_eq_true, Option.any_eq_true] at h
      obtain ⟨_, j, _, hpresents⟩ := h
      exact hany j hpresents
    | _ => exact absurd h (by simp [takesSheet])
  | btnSubmitPressed noShow dismisses =>
    simp only [takesSheet, Bool.and_eq_true] at h
    exact h.2
  | _ => exact absurd h (by simp [takesSheet])

/-- What brings an acceptance to a dashboard cancels nothing. -/
theorem cancels_of_accepts {p : ProviderPhone} {e : PhoneEvent} {trip : Dict}
    (h : p.accepts e = some trip) : p.cancels e = none := by
  unfold ProviderPhone.accepts at h
  split at h
  · split at h
    · rename_i hdelegate
      simp [ProviderPhone.cancels, ProviderApp.cancelledSheet, hdelegate]
    · exact absurd h (by simp)
  · exact absurd h (by simp)

/-- Only the cover goes: the dashboards are as before, and none of them shares for the trip. -/
theorem StopsInTime.uncover {x : CoveredPhone × List String} {e : PhoneEvent} (hx : StopsInTime x)
    (hcond : stopsSharing x (.phone e) = true) (hcover : x.1.takesCover e = true) :
    StopsInTime (x.1.uncover, ((x.1.phone.cancels e).bind tripId).toList ++ x.2) := by
  constructor
  · intro i d trip id hd hvalid htrip hid hmem
    rw [List.mem_append, Option.mem_toList] at hmem
    rcases hmem with hnew | hold
    · obtain ⟨_, htakes⟩ := stopped_by hcond hnew hd hvalid htrip hid
      rw [not_takesSheet_of_takesCover hcover] at htakes
      exact absurd htakes (by simp)
    · exact hx.stopped i d trip id hd hvalid htrip hid hold
  · exact hx.marked

theorem StopsInTime.follow {x : CoveredPhone × List String} {e : PhoneEvent} (hx : StopsInTime x)
    (hcond : stopsSharing x (.phone e) = true)
    (step : (ProviderPhone.machine distance).Step x.1.phone e q) :
    StopsInTime (x.1.follow q, ((x.1.phone.cancels e).bind tripId).toList ++ x.2) := by
  constructor
  · intro i d' trip id hd' hvalid' htrip' hid hmem
    obtain ⟨d₁, hd₁, haccepted₁, _, htimer⟩ := follow_dashboard hd'
    obtain ⟨hvalid₁, hbare⟩ := htimer hvalid'
    rw [List.mem_append, Option.mem_toList] at hmem
    rcases ProviderPhone.timer_of_step step hd₁ hvalid₁ with
      ⟨d, hd, hvalid, haccepted⟩ | ⟨trip', haccepts, haccepted⟩
    · have htrip : d.currentAcceptedRequest = some trip := by
        rw [← haccepted, ← haccepted₁, htrip']
      rcases hmem with hnew | hold
      · -- the sheet goes, and the markers on the map stop the timer
        obtain ⟨hhome, htakes⟩ := stopped_by hcond hnew hd hvalid htrip hid
        obtain ⟨i₀, d₀, hhome₀, hd₀, hmarkers⟩ := hx.marked (presented_of_takesSheet htakes)
        obtain rfl : i = i₀ := Option.some.inj (hhome.symm.trans hhome₀)
        obtain ⟨d₂, hd₂, hmarkers₂⟩ := ProviderPhone.markers_of_step step hd₀ hmarkers
        obtain rfl : d₁ = d₂ := Option.some.inj (hd₁.symm.trans hd₂)
        have hnone : d₁.hasMarkers = false := hbare hhome (sheetGone_of_takesSheet htakes step)
        exact absurd (hnone.symm.trans hmarkers₂) (by simp)
      · exact hx.stopped i d trip id hd hvalid htrip hid hold
    · -- an acceptance is of a trip that was not cancelled
      obtain rfl : trip = trip' := by
        rw [haccepted₁, haccepted] at htrip'
        exact (Option.some.inj htrip').symm
      rcases hmem with hnew | hold
      · rw [cancels_of_accepts haccepts] at hnew
        exact absurd hnew (by simp)
      · simp only [stopsSharing, Bool.and_eq_true, haccepts, Option.bind_some, hid,
          Option.all_some] at hcond
        exact absurd hold (by simpa using hcond.2)
  · exact marked_follow (hx.marked.step step)

theorem StopsInTime.step {x y : CoveredPhone × List String} {e : CoveredEvent} (hx : StopsInTime x)
    (hcond : stopsSharing x e = true)
    (h : ((machine distance).withHistory noteCancelled).Step x e y) : StopsInTime y := by
  obtain ⟨s, ids⟩ := y
  obtain ⟨hstep, hhistory⟩ := Machine.withHistory_step.mp h
  cases step_move hstep with
  | cover own same =>
    have hids : ids = x.2 := by
      cases e with
      | phone e' => exact absurd rfl (own e')
      | presentOverSheet => exact hhistory
      | dismissCover => exact hhistory
    obtain ⟨hstopped, hmarked⟩ := hx
    rw [← same] at hstopped hmarked
    rw [hids]
    exact ⟨hstopped, hmarked⟩
  | @phone e q step after =>
    obtain rfl : ids = ((x.1.phone.cancels e).bind tripId).toList ++ x.2 := hhistory
    obtain rfl : s = if x.1.takesCover e then x.1.uncover else x.1.follow q := after
    split
    · rename_i hcover
      exact hx.uncover hcond hcover
    · exact hx.follow hcond step

/-- Where a `location_updated` frame comes from. -/
theorem shares_of_frame {p q : ProviderPhone} {e : PhoneEvent}
    (h : (ProviderPhone.machine distance).Step p e q) {f : Nat × ProviderFrame}
    (hf : f ∈ q.app.frames.drop p.app.frames.length) (hlocated : isLocationUpdate f.2 = true) :
    ∃ i d trip, e = .app (.timerFired i) ∧ p.app.dashboards[i]? = some d ∧
      d.timerIsValid = true ∧ d.currentAcceptedRequest = some trip := by
  rcases ProviderPhone.step_frames h with hsame | ⟨socket, frame, hwrites, hframes⟩
  · rw [hsame, List.drop_length] at hf
    exact absurd hf (by simp)
  · rw [hframes, List.drop_left, List.mem_singleton] at hf
    subst hf
    cases hwrites with
    | app hwrites =>
      cases hwrites with
      | @located i _ d _ _ listed valid _ =>
        obtain ⟨_, b, hb, _⟩ : ProviderPhone.StepOf distance p q (.app (.timerFired i)) :=
          ProviderPhone.step_inv h
        obtain ⟨d₀, hd₀, _, hfired⟩ : ProviderApp.StepOf distance p.app b (.timerFired i) :=
          ProviderApp.step_inv hb
        obtain rfl : d₀ = d := Option.some.inj (hd₀.symm.trans listed)
        obtain ⟨_, _, _, ⟨_, _, trip, htrip, _⟩, _⟩ := ProviderApp.timerFired_inv hfired
        exact ⟨i, d₀, trip, rfl, listed, valid, htrip⟩
      | _ => exact absurd hlocated (by simp [isLocationUpdate])
    | submitted => exact absurd hlocated (by simp [isLocationUpdate])

/-- **Sharing stops with the trip**, if every cancellation takes the sheet of the dashboard that
shares, and is the last that is heard of the trip. -/
theorem sharing_stops (device : Device) {x y : CoveredPhone × List String} {e : CoveredEvent}
    (hrun : ((machine distance).withHistory noteCancelled).RunWhere
      (fun x e => stopsSharing x e = true) ({ phone := { app := { device := device } } }, []) x)
    (hstep : ((machine distance).withHistory noteCancelled).Step x e y) :
    SharesLiveTrips x y e := by
  have hx : StopsInTime x := by
    refine hrun.invariant ?_ fun _ _ _ hI hcond hstep => hI.step hcond hstep
    constructor
    · intro i d _ _ hd
      exact absurd hd (by simp)
    · intro hpresented
      exact absurd hpresented (by simp [ProviderPhone.sheetIsPresented])
  obtain ⟨hphone, _⟩ := Machine.withHistory_step.mp hstep
  intro f hf hlocated
  cases step_move hphone with
  | cover _ same =>
    rw [same, List.drop_length] at hf
    exact absurd hf (by simp)
  | @phone e q step after =>
    have hf' : f ∈ q.app.frames.drop x.1.phone.app.frames.length := by
      rw [after] at hf
      split at hf
      · rw [uncover, List.drop_length] at hf
        exact absurd hf (by simp)
      · rwa [(follow_kept x.1 q).frames] at hf
    obtain ⟨i, d, trip, rfl, hd, hvalid, htrip⟩ := shares_of_frame step hf' hlocated
    exact ⟨i, d, trip, rfl, hd, htrip, fun id hid => hx.stopped i d trip id hd hvalid htrip hid⟩

/-! ## 7. Two runs -/

/-- The sheet of an accepted trip is open. -/
def openSheet : List CoveredEvent := ProviderPhone.sheetPhone.map .phone

def cancellationText : Message :=
  some (.obj [("TripId", .ofInt 9), ("RequestType", .str "trip_cancelled")])

/-- The dashboard shares its location while the trip goes on. -/
theorem sharing_stops_while_open : ∃ x y : CoveredPhone × List String,
    (y.1.phone.app.frames.drop x.1.phone.app.frames.length).length = 1 ∧
      SharesLiveTrips x y (.phone (.app (.timerFired 0))) := by
  obtain ⟨x, y, hrun, _, hstep, htest⟩ := Machine.exists_step_of_replay
    ((machine fun _ _ => 0).withHistory noteCancelled) stopsSharing
    ({ phone := { app := { device := ProviderApp.sampleProvider 16 } } }, []) openSheet
    (.phone (.app (.timerFired 0)))
    (fun x y => (y.1.phone.app.frames.drop x.1.phone.app.frames.length).length == 1)
    (fun _ _ => id) (by decide +kernel)
  simp only [beq_iff_eq] at htest
  exact ⟨x, y, htest, sharing_stops (ProviderApp.sampleProvider 16) hrun hstep⟩

/-- The dashboard with number `i` writes a `location_updated` frame for a trip that was cancelled. -/
def sharesCancelled (i : Nat) (x y : CoveredPhone × List String) : Bool :=
  ((y.1.phone.app.frames.drop x.1.phone.app.frames.length).any fun f => isLocationUpdate f.2) &&
    (x.1.phone.app.dashboards[i]?.any fun d =>
      (d.currentAcceptedRequest.bind tripId).any x.2.contains)

theorem not_sharesLiveTrips_of_sharesCancelled {i : Nat} {x y : CoveredPhone × List String}
    (h : sharesCancelled i x y = true) :
    ¬SharesLiveTrips x y (.phone (.app (.timerFired i))) := by
  intro hlive
  simp only [sharesCancelled, Bool.and_eq_true, Option.any_eq_true] at h
  obtain ⟨hframe, d, hd, id, hid, hcancelled⟩ := h
  obtain ⟨f, hf, hlocated⟩ := List.any_eq_true.mp hframe
  obtain ⟨k, d', trip, hevent, hd', htrip, hfresh⟩ := hlive f hf hlocated
  obtain rfl : i = k := by simpa using hevent
  obtain rfl : d' = d := Option.some.inj (hd'.symm.trans hd)
  have hid' : tripId trip = some id := by simpa [htrip] using hid
  exact hfresh id hid' (by simpa using hcancelled)

/-- The provider has asked to cancel and looks at the alert when the client's cancellation comes:
the alert goes, the sheet and the timer stay, and the location is shared on. -/
theorem cancelled_under_alert : ∃ x y : CoveredPhone × List String,
    ((machine fun _ _ => 0).withHistory noteCancelled).Run
      ({ phone := { app := { device := ProviderApp.sampleProvider 16 } } }, []) x ∧
    ∃ e, ((machine fun _ _ => 0).withHistory noteCancelled).Step x e y ∧
      ¬SharesLiveTrips x y e := by
  obtain ⟨x, y, hrun, _, hstep, htest⟩ := Machine.exists_step_of_replay
    ((machine fun _ _ => 0).withHistory noteCancelled) (fun _ _ => true)
    ({ phone := { app := { device := ProviderApp.sampleProvider 16 } } }, [])
    (openSheet ++ [.presentOverSheet, .phone (.app (.onMessage 1 cancellationText .active 0))])
    (.phone (.app (.timerFired 0))) (sharesCancelled 0) (fun _ _ _ => trivial) (by decide +kernel)
  exact ⟨x, y, hrun, _, hstep, not_sharesLiveTrips_of_sharesCancelled htest⟩

end CoveredPhone

end WeatherAccommodation
