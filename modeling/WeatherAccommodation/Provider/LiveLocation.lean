/-
# Where the provider is said to be

A report goes to one screen, the location delegate, and every screen writes frames from its own
copy: the dashboard at each tick of its timer, the sheet and the cancel-reason screen when a trip
is cancelled.  A sheet starts with the dashboard's copy, a cancel-reason screen with the sheet's.

The history says which screens have the last report, by delivery or by inheritance.  A frame of a
screen that has it carries it (`carries_last_report`); the dashboard below an open sheet has not
got it, and its timer goes on (`tick_below_sheet`).
-/
import WeatherAccommodation.Provider.Destination

namespace WeatherAccommodation

open Foundation Reactive

/-! ## 1. The history and the condition -/

/-- Which screens have the last report, by number. -/
structure Told where
  dashboards : Nat → Bool
  sheets : Nat → Bool
  alerts : Nat → Bool

namespace Told

def nobody : Told := ⟨fun _ => false, fun _ => false, fun _ => false⟩

def dashboard (i : Nat) : Told := { nobody with dashboards := fun k => k == i }

def sheet (j : Nat) : Told := { nobody with sheets := fun k => k == j }

def alert (m : Nat) : Told := { nobody with alerts := fun k => k == m }

end Told

namespace ProviderPhone

variable {distance : CLLocation → CLLocation → ℚ}

/-- Whom a report reaches. -/
def listener (p : ProviderPhone) : Told :=
  match p.app.locationDelegate with
  | some (.dashboard i) => .dashboard i
  | some (.clientDetail j) => .sheet j
  | some (.startTrip _) => .nobody
  | none =>
    match p.taker with
    | some (.alert m) => .alert m
    | _ => .nobody

/-- The history variable. -/
def noteReport (h : Told) (p : ProviderPhone) (e : PhoneEvent) (_ : ProviderPhone) : Told :=
  match e with
  | .didUpdateLocations _ => p.listener
  | .app .viewDidLoad =>
    { h with dashboards := Function.update h.dashboards p.app.dashboards.length false }
  | .app (.directionsReply i _ _) =>
    { h with sheets := Function.update h.sheets p.app.sheets.length (h.dashboards i) }
  | .cancelRequest j _ _ =>
    { h with alerts := Function.update h.alerts p.alerts.length (h.sheets j) }
  | _ => h

/-- The location that a `location_updated` or `trip_cancelled` frame carries. -/
def locationIn : ProviderFrame → Option (Option CLLocation)
  | .locationUpdated _ _ location => some location
  | .cancelled _ _ _ location _ => some (some location)
  | _ => none

/-- Every `location_updated` and `trip_cancelled` frame that the step from `x` to `y` writes
carries the location that was reported last. -/
def CarriesLastReport (x y : ProviderPhone × Told) : Prop :=
  ∀ f ∈ y.1.app.frames.drop x.1.app.frames.length, ∀ location, locationIn f.2 = some location →
    location = x.1.lastLocation ∧ location.isSome

/-- The condition on a step: a screen that ticks or cancels has the last report. -/
def writerIsTold (x : ProviderPhone × Told) : PhoneEvent → Bool
  | .app (.timerFired i) => x.2.dashboards i
  | .app (.cancelTrip j _) => x.2.sheets j
  | .btnSubmitPressed _ _ => x.1.alert.all x.2.alerts
  | _ => true

/-! ## 2. The invariant -/

/-- The copies of the screens that have the last report. -/
structure Informed (x : ProviderPhone × Told) : Prop where
  dashboards : ∀ (i : Nat) (d : ProviderDashboard), x.1.app.dashboards[i]? = some d →
    x.2.dashboards i = true → d.location = x.1.lastLocation ∧ d.location.isSome
  sheets : ∀ (j : Nat) (s : ClientDetailSheet), x.1.app.sheets[j]? = some s →
    x.2.sheets j = true → some s.clientLocation = x.1.lastLocation
  alerts : ∀ (m : Nat) (s : RequestCancelAlert), x.1.alerts[m]? = some s →
    x.2.alerts m = true → some s.currentLocation = x.1.lastLocation

/-- Of the moves of a dashboard, only a report changes its location. -/
theorem location_of_move {p : ProviderPhone} {i : Nat} {d d' : ProviderDashboard} {e : PhoneEvent}
    (he : ∀ l, e ≠ .didUpdateLocations l) (hadmits : ∀ ev, e = .app ev → p.admits ev = true)
    (h : PhoneMove distance p i d d' e) : d'.location = d.location := by
  cases h with
  | stay _ same => rw [same]
  | move event h =>
    rcases h.frame.1 with hsame | ⟨l, rfl⟩
    · exact hsame
    · rcases inner_eq_some event with rfl | ⟨_, _, _, hne⟩ | ⟨l', rfl, _⟩ | ⟨_, _, _, hne⟩
      · exact absurd (hadmits _ rfl) (by simp [admits])
      · exact absurd hne (by simp)
      · exact absurd rfl (he l')
      · exact absurd hne (by simp)

/-- Only a report changes the last location, and only a report or a new one the alerts. -/
inductive AlertsStep (p q : ProviderPhone) (e : PhoneEvent) : Prop where
  | same (h : q.alerts = p.alerts)
  | opened {j sinceAccepted sinceReached : Nat} {sheet : ClientDetailSheet}
      (event : e = .cancelRequest j sinceAccepted sinceReached)
      (listed : p.app.sheets[j]? = some sheet)
      (h : q.alerts = p.alerts ++ [{
        currentRequest := sheet.currentRequest
        currentLocation := sheet.clientLocation }])

theorem step_alerts {p q : ProviderPhone} {e : PhoneEvent} (he : ∀ l, e ≠ .didUpdateLocations l)
    (h : (machine distance).Step p e q) :
    q.lastLocation = p.lastLocation ∧ AlertsStep p q e := by
  have hof : StepOf distance p q e := step_inv h
  cases e with
  | app ev =>
    obtain ⟨_, b, _, rfl⟩ := hof
    exact ⟨rfl, .same rfl⟩
  | lateDirections i call =>
    obtain ⟨_, _, _, hlate⟩ := hof
    obtain rfl := lateDirections_inv hlate
    exact ⟨rfl, .same rfl⟩
  | didUpdateLocations l => exact absurd rfl (he l)
  | didDisconnect socket code =>
    obtain ⟨a, rfl, _⟩ := didDisconnect_inv hof
    exact ⟨rfl, .same rfl⟩
  | selectTab index takesLocation =>
    obtain ⟨_, rfl⟩ := hof
    obtain ⟨_, _, htake⟩ := takeIf_eq { p with selectedIndex := index } takesLocation
    rw [htake]
    exact ⟨rfl, .same rfl⟩
  | pushOther takesLocation =>
    obtain ⟨_, rfl⟩ := hof
    obtain ⟨_, _, htake⟩ := takeIf_eq { p with pushed := .other :: p.pushed } takesLocation
    rw [htake]
    exact ⟨rfl, .same rfl⟩
  | popViewController =>
    obtain ⟨_, rfl⟩ := hof
    exact ⟨rfl, .same rfl⟩
  | logout =>
    obtain ⟨_, rfl⟩ := hof
    exact ⟨rfl, .same rfl⟩
  | goBackToMainViewController =>
    obtain rfl : q = p.goBackToMainViewController := hof
    exact ⟨rfl, .same rfl⟩
  | elsewhere defaults =>
    obtain rfl : q = { p with app := p.app.setDefaults defaults } := hof
    exact ⟨rfl, .same rfl⟩
  | btnNavigationPressed i =>
    obtain ⟨_, _, _, hpress⟩ := hof
    obtain ⟨_, _, _, rfl⟩ := btnNavigationPressed_inv hpress
    exact ⟨rfl, .same rfl⟩
  | notifyWhenProviderHasReached k =>
    obtain rfl : q = { p with reached := k :: p.reached } := hof
    exact ⟨rfl, .same rfl⟩
  | cancelRequest k sinceAccepted sinceReached =>
    obtain ⟨sheet, hsheet, _, hcancel⟩ := hof
    rcases cancelRequest_inv hcancel with rfl | rfl
    · exact ⟨rfl, .same rfl⟩
    · exact ⟨rfl, .opened rfl hsheet rfl⟩
  | leftBarItemDidTap j =>
    obtain ⟨_, _, _, _, rfl⟩ := hof
    exact ⟨rfl, .same rfl⟩
  | dismissAlert =>
    obtain rfl : q = { p with alert := none } := hof
    exact ⟨rfl, .same rfl⟩
  | btnSubmitPressed noShow dismisses =>
    obtain ⟨_, _, _, _, hsubmit⟩ := hof
    obtain ⟨_, _, _, _, _, _, _, rfl⟩ := btnSubmitPressed_inv hsubmit
    exact ⟨rfl, .same rfl⟩

namespace Informed

/-! ## 3. A report -/

section Report

variable {p q : ProviderPhone}

theorem dashboard_of_listener {i : Nat} (h : p.listener.dashboards i = true) :
    p.app.locationDelegate = some (.dashboard i) := by
  unfold listener at h
  split at h
  · rename_i k hdelegate
    obtain rfl : i = k := by simpa [Told.dashboard] using h
    exact hdelegate
  · exact absurd h (by simp [Told.sheet, Told.nobody])
  · exact absurd h (by simp [Told.nobody])
  · split at h
    · exact absurd h (by simp [Told.alert, Told.nobody])
    · exact absurd h (by simp [Told.nobody])

theorem sheet_of_listener {j : Nat} (h : p.listener.sheets j = true) :
    p.app.locationDelegate = some (.clientDetail j) := by
  unfold listener at h
  split at h
  · exact absurd h (by simp [Told.dashboard, Told.nobody])
  · rename_i k hdelegate
    obtain rfl : j = k := by simpa [Told.sheet] using h
    exact hdelegate
  · exact absurd h (by simp [Told.nobody])
  · split at h
    · exact absurd h (by simp [Told.alert, Told.nobody])
    · exact absurd h (by simp [Told.nobody])

theorem alert_of_listener {m : Nat} (h : p.listener.alerts m = true) :
    p.app.locationDelegate = none ∧ p.taker = some (.alert m) := by
  unfold listener at h
  split at h
  · exact absurd h (by simp [Told.dashboard, Told.nobody])
  · exact absurd h (by simp [Told.sheet, Told.nobody])
  · exact absurd h (by simp [Told.nobody])
  · rename_i hdelegate
    split at h
    · rename_i k htaker
      obtain rfl : m = k := by simpa [Told.alert] using h
      exact ⟨hdelegate, htaker⟩
    · exact absurd h (by simp [Told.nobody])

/-- After a report the one screen that was told has it. -/
theorem report {l : CLLocation} (h : Tells distance p q l) : Informed (q, p.listener) := by
  cases h with
  | @dashboard i d d' delegate listed told after =>
    obtain ⟨_, rfl⟩ := ProviderDashboard.tracingLocation_inv told
    subst after
    refine ⟨?_, ?_, ?_⟩
    · intro k e hk htold
      have hki := (dashboard_of_listener htold).symm.trans delegate
      obtain rfl : k = i := by simpa using hki
      have hlt : k < p.app.dashboards.length := (List.getElem?_eq_some_iff.mp listed).1
      simp only [ProviderApp.putDashboard, List.getElem?_set_self hlt] at hk
      obtain rfl := Option.some.inj hk
      exact ⟨rfl, rfl⟩
    · intro k e _ htold
      exact absurd ((sheet_of_listener htold).symm.trans delegate) (by simp)
    · intro k e _ htold
      exact absurd ((alert_of_listener htold).1.symm.trans delegate) (by simp)
  | @sheet j sheet delegate listed after =>
    subst after
    refine ⟨?_, ?_, ?_⟩
    · intro k e _ htold
      exact absurd ((dashboard_of_listener htold).symm.trans delegate) (by simp)
    · intro k e hk htold
      have hkj := (sheet_of_listener htold).symm.trans delegate
      obtain rfl : k = j := by simpa using hkj
      have hlt : k < p.app.sheets.length := (List.getElem?_eq_some_iff.mp listed).1
      simp only [ProviderApp.putSheet, List.getElem?_set_self hlt] at hk
      obtain rfl := Option.some.inj hk
      rfl
    · intro k e _ htold
      exact absurd ((alert_of_listener htold).1.symm.trans delegate) (by simp)
  | @alert m alert delegate taker listed after =>
    subst after
    refine ⟨?_, ?_, ?_⟩
    · intro k e _ htold
      exact absurd ((dashboard_of_listener htold).symm.trans delegate) (by simp)
    · intro k e _ htold
      exact absurd ((sheet_of_listener htold).symm.trans delegate) (by simp)
    · intro k e hk htold
      have hkm := (alert_of_listener htold).2.symm.trans taker
      obtain rfl : k = m := by simpa using hkm
      have hlt : k < p.alerts.length := (List.getElem?_eq_some_iff.mp listed).1
      simp only [List.getElem?_set_self hlt] at hk
      obtain rfl := Option.some.inj hk
      rfl
  | nobody noDashboard noSheet noAlert taker after =>
    subst after
    refine ⟨?_, ?_, ?_⟩
    · intro k e hk htold
      have hnone := noDashboard k (dashboard_of_listener htold)
      exact absurd (hk.symm.trans hnone) (by simp)
    · intro k e hk htold
      have hnone := noSheet k (sheet_of_listener htold)
      exact absurd (hk.symm.trans hnone) (by simp)
    · intro k e hk htold
      obtain ⟨hdelegate, htaker⟩ := alert_of_listener htold
      exact absurd (hk.symm.trans (noAlert k hdelegate htaker)) (by simp)

end Report

/-! ## 4. Any step -/

variable {h : Told} {p q : ProviderPhone} {e : PhoneEvent}

theorem start (device : Device) : Informed ({ app := { device := device } }, .nobody) where
  dashboards := by simp
  sheets := by simp
  alerts := by simp

/-- What is not new is told what it was told before. -/
theorem noteReport_dashboards {i : Nat} (he : ∀ l, e ≠ .didUpdateLocations l)
    (hi : i < p.app.dashboards.length) : (noteReport h p e q).dashboards i = h.dashboards i := by
  unfold noteReport
  split
  · exact absurd rfl (he _)
  · simp [Nat.ne_of_lt hi]
  · rfl
  · rfl
  · rfl

theorem noteReport_sheets {j : Nat} (he : ∀ l, e ≠ .didUpdateLocations l)
    (hj : j < p.app.sheets.length) : (noteReport h p e q).sheets j = h.sheets j := by
  unfold noteReport
  split
  · exact absurd rfl (he _)
  · rfl
  · simp [Nat.ne_of_lt hj]
  · rfl
  · rfl

theorem noteReport_alerts {m : Nat} (he : ∀ l, e ≠ .didUpdateLocations l)
    (hm : m < p.alerts.length) : (noteReport h p e q).alerts m = h.alerts m := by
  unfold noteReport
  split
  · exact absurd rfl (he _)
  · rfl
  · rfl
  · simp [Nat.ne_of_lt hm]
  · rfl

/-- Between reports copies stay as they are, and what is opened inherits one. -/
theorem between (hx : Informed (p, h)) (he : ∀ l, e ≠ .didUpdateLocations l)
    (hstep : (machine distance).Step p e q) : Informed (q, noteReport h p e q) := by
  obtain ⟨hlast, halerts⟩ := step_alerts he hstep
  have hadmits : ∀ ev, e = .app ev → p.admits ev = true := by
    rintro ev rfl
    exact (step_inv hstep).1
  refine ⟨?_, ?_, ?_⟩
  · intro i d' hd' htold
    simp only [hlast]
    rcases step_dashboard hstep hd' with ⟨d, hd, hmove⟩ | ⟨rfl, rfl, _, _⟩
    · rw [noteReport_dashboards he (List.getElem?_eq_some_iff.mp hd).1] at htold
      rw [location_of_move he hadmits hmove]
      exact hx.dashboards i d hd htold
    · exact absurd htold (by simp [noteReport])
  · intro j s' hs' htold
    simp only [hlast]
    rcases (step_sheets hstep).at_index hs' with ⟨s, hs, hmove⟩ | ⟨i, d, hopens⟩
    · rw [noteReport_sheets he (List.getElem?_eq_some_iff.mp hs).1] at htold
      have hold := hx.sheets j s hs htold
      cases hmove with
      | stay h =>
        rw [h]
        exact hold
      | told event _ _ => exact absurd event (he _)
      | dismissed _ h =>
        rw [h]
        exact hold
    · obtain ⟨call, rfl⟩ := hopens.event
      have htold' : h.dashboards i = true := by
        simpa [noteReport, hopens.number] using htold
      rw [← hopens.location]
      exact (hx.dashboards i d hopens.listed htold').1
  · intro m s hs htold
    simp only [hlast]
    cases halerts with
    | same hsame =>
      simp only [hsame] at hs
      rw [noteReport_alerts he (List.getElem?_eq_some_iff.mp hs).1] at htold
      exact hx.alerts m s hs htold
    | @opened j sinceAccepted sinceReached sheet event listed hopen =>
      simp only [hopen, List.getElem?_append] at hs
      split at hs
      · rename_i hm
        rw [noteReport_alerts he hm] at htold
        exact hx.alerts m s hs htold
      · rename_i hge
        have hm : m - p.alerts.length < 1 := (List.getElem?_eq_some_iff.mp hs).1
        obtain rfl : m = p.alerts.length := by omega
        obtain rfl := List.mem_singleton.mp (List.mem_of_getElem? hs)
        subst event
        exact hx.sheets j sheet listed (by simpa [noteReport] using htold)

/-- **One step of the phone.** -/
theorem step {x y : ProviderPhone × Told} (hx : Informed x)
    (hstep : ((machine distance).withHistory noteReport).Step x e y) : Informed y := by
  obtain ⟨p, h⟩ := x
  obtain ⟨q, h'⟩ := y
  obtain ⟨hpq, hnote⟩ := Machine.withHistory_step.mp hstep
  obtain rfl : h' = noteReport h p e q := hnote
  by_cases he : ∃ l, e = .didUpdateLocations l
  · obtain ⟨l, rfl⟩ := he
    exact report (didUpdateLocations_inv (step_inv hpq))
  · exact hx.between (fun l heq => he ⟨l, heq⟩) hpq

/-- What a screen that has the last report writes. -/
theorem carries {x y : ProviderPhone × Told} (hx : Informed x) (hcond : writerIsTold x e = true)
    (hstep : ((machine distance).withHistory noteReport).Step x e y) : CarriesLastReport x y := by
  obtain ⟨hpq, _⟩ := Machine.withHistory_step.mp hstep
  intro f hf location hlocation
  rcases step_frames hpq with hsame | ⟨socket, frame, hwrites, hframes⟩
  · rw [hsame, List.drop_length] at hf
    exact absurd hf (by simp)
  · rw [hframes, List.drop_left, List.mem_singleton] at hf
    subst hf
    cases hwrites with
    | app hwrites =>
      cases hwrites with
      | @located i _ d _ _ listed _ _ =>
        obtain rfl := Option.some.inj hlocation
        exact hx.dashboards i d listed hcond
      | accepted => exact absurd hlocation (by simp [locationIn])
      | reached => exact absurd hlocation (by simp [locationIn])
      | @cancelled j _ sheet _ _ _ _ listed _ _ _ =>
        obtain rfl := Option.some.inj hlocation
        exact ⟨hx.sheets j sheet listed hcond, rfl⟩
    | @submitted m _ alert _ _ _ _ _ shown listed _ _ _ =>
      obtain rfl := Option.some.inj hlocation
      have htold : x.2.alerts m = true := by simpa [writerIsTold, shown] using hcond
      exact ⟨hx.alerts m alert listed htold, rfl⟩

end Informed

/-! ## 5. The law -/

/-- **Ticks and cancellations carry the last report.**  From any launch, over any order of
reports, screens, messages and ticks whose steps meet the condition: what a step that meets it,
too, writes as `location_updated` or `trip_cancelled` carries the location reported last. -/
theorem carries_last_report (device : Device) {x y : ProviderPhone × Told} {e : PhoneEvent}
    (hrun : ((machine distance).withHistory noteReport).RunWhere
      (fun x e => writerIsTold x e = true) ({ app := { device := device } }, .nobody) x)
    (hcond : writerIsTold x e = true)
    (hstep : ((machine distance).withHistory noteReport).Step x e y) : CarriesLastReport x y := by
  have hI : Informed x :=
    hrun.invariant (Informed.start device) fun _ _ _ hI _ hstep => hI.step hstep
  exact hI.carries hcond hstep

/-- The sheet of an accepted trip is open. -/
def sheetPhone : List PhoneEvent :=
  onlinePhone ++ acceptPhone 24 16 1 ++ [.app (.directionsReply 0 0 true)]

/-- The provider moves with the sheet open, and cancels. -/
theorem carries_last_report_cancelled : ∃ x y : ProviderPhone × Told,
    (y.1.app.frames.drop x.1.app.frames.length).length = 1 ∧
    x.1.lastLocation = some ⟨40.5, -73⟩ ∧ CarriesLastReport x y := by
  obtain ⟨x, y, hrun, hcond, hstep, htest⟩ := Machine.exists_step_of_replay
    ((machine fun _ _ => 0).withHistory noteReport) writerIsTold
    ({ app := { device := ProviderApp.sampleProvider 16 } }, .nobody)
    (sheetPhone ++ [.didUpdateLocations ⟨40.5, -73⟩]) (.app (.cancelTrip 0 "0"))
    (fun x y => (y.1.app.frames.drop x.1.app.frames.length).length == 1 &&
      x.1.lastLocation == some ⟨40.5, -73⟩) (fun _ _ => id) (by decide +kernel)
  simp only [Bool.and_eq_true, beq_iff_eq] at htest
  exact ⟨x, y, htest.1, htest.2,
    carries_last_report (ProviderApp.sampleProvider 16) hrun hcond hstep⟩

/-- Some frame of the step carries another location. -/
def carriesOther (x y : ProviderPhone × Told) : Bool :=
  (y.1.app.frames.drop x.1.app.frames.length).any fun f =>
    (locationIn f.2).any fun location => location != x.1.lastLocation

theorem not_carriesLastReport_of_carriesOther {x y : ProviderPhone × Told}
    (h : carriesOther x y = true) : ¬CarriesLastReport x y := by
  intro hcarries
  obtain ⟨f, hf, htest⟩ := List.any_eq_true.mp h
  cases hlocation : locationIn f.2 with
  | none => exact absurd htest (by simp [hlocation])
  | some location =>
    have hne : location ≠ x.1.lastLocation := by simpa [hlocation] using htest
    exact hne (hcarries f hf location hlocation).1

/-- The provider moves with the sheet open: the next tick of the dashboard's timer still says
where the sheet was opened. -/
theorem tick_below_sheet : ∃ x y : ProviderPhone × Told,
    ((machine fun _ _ => 0).withHistory noteReport).Run
      ({ app := { device := ProviderApp.sampleProvider 16 } }, .nobody) x ∧
    (∃ e, ((machine fun _ _ => 0).withHistory noteReport).Step x e y) ∧
    ¬CarriesLastReport x y := by
  obtain ⟨x, y, hrun, _, hstep, htest⟩ := Machine.exists_step_of_replay
    ((machine fun _ _ => 0).withHistory noteReport) (fun _ _ => true)
    ({ app := { device := ProviderApp.sampleProvider 16 } }, .nobody)
    (sheetPhone ++ [.didUpdateLocations ⟨40.5, -73⟩]) (.app (.timerFired 0))
    carriesOther (fun _ _ _ => trivial) (by decide +kernel)
  exact ⟨x, y, hrun, ⟨_, hstep⟩, not_carriesLastReport_of_carriesOther htest⟩

end ProviderPhone

end WeatherAccommodation
