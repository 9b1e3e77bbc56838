/-
# Dashboards and delegates over one step of the client's phone

Two views of `step_inv`: what a step does to the dashboard with number `i` (`step_session`), and
what it does to the delegates of the sockets and of the location manager (`step_delegates`).
Both delegates are taken and never given back, so whoever took one last has it.
-/
import WeatherAccommodation.Client.PhoneSteps

namespace WeatherAccommodation

open Foundation Reactive

namespace ClientPhone

variable {distance : CLLocation → CLLocation → ℚ} {p q : ClientPhone}

/-! ## 1. One dashboard -/

/-- What the event asks of the dashboard with number `i`. -/
inductive Asks (p : ClientPhone) (i : Nat) : ClientPhoneEvent → ClientEvent → Prop where
  | app (e : ClientEvent) (own : ClientApp.isOwnEvent e = true)
      (admitted : p.admits (.session i e) = true) : Asks p i (.app (.session i e)) e
  | told (l : CLLocation) (owner : p.locationOwner = some (.dashboard i)) :
      Asks p i (.didUpdateLocations l) (.tracingLocation l)
  | message (socket : Nat) (text : Message) (inBackground : Bool)
      (owner : p.socketOwner = some (.dashboard i)) :
      Asks p i (.onMessage socket text inBackground) (.onMessage socket text)
  | passedOn (socket : Nat) (text : Message) (inBackground : Bool) :
      Asks p i (.onMessage socket text inBackground) (.receivingLocationUpdate text)

theorem Asks.ne_elsewhere {i : Nat} {e : ClientPhoneEvent} {ev : ClientEvent}
    (h : Asks p i e ev) (device : Device) (busy : Bool) :
    ev ≠ .elsewhere device busy := by
  rintro rfl
  cases h with
  | app _ own _ => exact ClientApp.ne_elsewhere own device busy rfl

/-- What the event does to the dashboard with number `i`. -/
inductive SessionStep (distance : CLLocation → CLLocation → ℚ) (p q : ClientPhone) (i : Nat)
    (t : ClientSession) (e : ClientPhoneEvent) : Prop where
  | alike {s : ClientSession} (listed : p.app.sessions[i]? = some s)
      (same : ClientApp.Alike s t) : SessionStep distance p q i t e
  | moved {s : ClientSession} {ev : ClientEvent} (listed : p.app.sessions[i]? = some s)
      (asks : Asks p i e ev) (step : (ClientSession.machine distance).Step (p.app.lend s) ev t) :
      SessionStep distance p q i t e
  | fresh {ev : AppEvent} (event : e = .app ev) (makes : ClientApp.makesDashboard ev = true)
      (number : i = p.app.sessions.length) (new : t = { device := q.app.device }) :
      SessionStep distance p q i t e

theorem alike_of_face {s t : ClientSession} {m : WebSocketManager ClientScreen} {d : Device}
    (h : t.face = { s.face with sockets := m, device := d }) : ClientApp.Alike s t := by
  simp only [ClientSession.face, Face.mk.injEq] at h
  obtain ⟨_, _, hdelegate, hlocation, hrequests, hframes, hsheets⟩ := h
  exact ⟨hlocation, hrequests, hframes, hsheets, hdelegate⟩

/-- A step of the app for the dashboard `k`, seen from the dashboard `i`. -/
theorem session_of_step {i k : Nat} {ev : ClientEvent} {e : ClientPhoneEvent} {b : ClientApp}
    {t : ClientSession} (h : (ClientApp.machine distance).Step p.app (.session k ev) b)
    (asks : Asks p k e ev) (ht : b.sessions[i]? = some t) : SessionStep distance p q i t e := by
  cases ClientApp.step_session h ht with
  | alike listed same => exact .alike listed same
  | moved _ listed step => exact .moved listed asks step
  | fresh makes => exact absurd makes (by simp [ClientApp.makesDashboard])

/-- A dashboard that was put back as it looked. -/
theorem session_of_store {i k : Nat} {e : ClientPhoneEvent} {s s' t : ClientSession}
    (hs : p.app.sessions[k]? = some s) (hsame : ClientApp.Alike s s')
    (ht : (p.app.store k s').sessions[i]? = some t) : SessionStep distance p q i t e := by
  by_cases hk : k = i
  · subst hk
    have hlt : k < p.app.sessions.length := (List.getElem?_eq_some_iff.mp hs).1
    simp only [ClientApp.store, List.getElem?_set_self hlt, Option.some.injEq] at ht
    subst ht
    exact .alike hs hsame
  · simp only [ClientApp.store, List.getElem?_set_ne hk] at ht
    exact .alike ht (.refl t)

@[simp] theorem app_openSheet (p : ClientPhone) (i : Nat) (b : ClientApp) :
    (p.openSheet i b).app = b := by
  unfold openSheet
  split
  · rfl
  · rfl

@[simp] theorem sessions_pushTrip (p : ClientPhone) (screen : ClientTrip) :
    (p.pushTrip screen).app.sessions = p.app.sessions := rfl

@[simp] theorem app_dismissFrom (p : ClientPhone) (j : Nat) (sheet : TripProviderDetail) :
    (p.dismissFrom j sheet).app = p.app := by
  unfold dismissFrom
  split
  · rfl
  · rfl

@[simp] theorem lastLocation_follow (p : ClientPhone) (e : AppEvent) (b : ClientApp) :
    (p.follow e b).lastLocation = p.lastLocation := by
  have hsheet : ∀ i, (p.openSheet i b).lastLocation = p.lastLocation := by
    intro i
    unfold openSheet
    split
    · rfl
    · rfl
  unfold follow
  split
  · unfold followList
    split
    · exact hsheet _
    · split
      · rfl
      · rfl
    · rfl
  · unfold followDistance
    split
    · exact hsheet _
    · rfl
  · unfold followDashboard
    split
    · rfl
    · rfl
  · unfold followDashboard
    split
    · rfl
    · rfl
  · rfl
  · rfl

/-- After an event of the app its dashboards are those of the app. -/
@[simp] theorem sessions_follow (p : ClientPhone) (e : AppEvent) (b : ClientApp) :
    (p.follow e b).app.sessions = b.sessions ∧ (p.follow e b).app.device = b.device := by
  unfold follow
  split
  · unfold followList
    split
    · simp
    · split
      · exact ⟨rfl, rfl⟩
      · exact ⟨rfl, rfl⟩
    · exact ⟨rfl, rfl⟩
  · unfold followDistance
    split
    · simp
    · exact ⟨rfl, rfl⟩
  · unfold followDashboard
    split
    · exact ⟨rfl, rfl⟩
    · exact ⟨rfl, rfl⟩
  · unfold followDashboard
    split
    · exact ⟨rfl, rfl⟩
    · exact ⟨rfl, rfl⟩
  · exact ⟨rfl, rfl⟩
  · exact ⟨rfl, rfl⟩

/-- What an event does to the app: it is one of the app's own, or is passed on to a dashboard, or
comes too late for one; or dashboards and stored values stay as they are. -/
inductive AppMove (distance : CLLocation → CLLocation → ℚ) (p q : ClientPhone) :
    ClientPhoneEvent → Prop where
  | own (ev : AppEvent) {b : ClientApp} (admitted : p.admits ev = true)
      (step : (ClientApp.machine distance).Step p.app ev b)
      (sessions : q.app.sessions = b.sessions) (device : q.app.device = b.device) :
      AppMove distance p q (.app ev)
  | passed {e : ClientPhoneEvent} {k : Nat} {ev : ClientEvent} {b : ClientApp}
      (step : (ClientApp.machine distance).Step p.app (.session k ev) b) (asks : Asks p k e ev)
      (after : q.app = b) : AppMove distance p q e
  | lateList (k call : Nat) (response : Dict) {s t : ClientSession}
      (listed : p.app.sessions[k]? = some s)
      (late : { p.app.lend s with listCalls := s.listCalls.retire call }.lateProviderList distance
        response = .ok t)
      (after : q.app = p.app.store k t) : AppMove distance p q (.lateProviderList k call response)
  | lateDistance (k call : Nat) (values : Dict) {s t : ClientSession} {dict : Dict}
      (listed : p.app.sessions[k]? = some s)
      (late : { p.app.lend s with
        distanceCalls := s.distanceCalls.retire call }.lateDistanceReply dict values = .ok t)
      (after : q.app = p.app.store k t) : AppMove distance p q (.lateDistance k call values)
  | quiet {e : ClientPhoneEvent} (sessions : q.app.sessions = p.app.sessions)
      (defaults : q.app.device.defaults = p.app.device.defaults) : AppMove distance p q e

/-- Nothing happens to the app. -/
theorem AppMove.of_eq {e : ClientPhoneEvent} (h : q.app = p.app) : AppMove distance p q e :=
  .quiet (congrArg ClientApp.sessions h) (congrArg (fun a => a.device.defaults) h)

/-- **What a step does to the app.** -/
theorem step_app {e : ClientPhoneEvent} (h : (machine distance).Step p e q) :
    AppMove distance p q e := by
  have hof : StepOf distance p q e := step_inv h
  cases e with
  | app ev =>
    obtain ⟨hadmits, b, hb, rfl⟩ := hof
    exact .own ev hadmits hb (sessions_follow p ev b).1 (sessions_follow p ev b).2
  | tripStatusReply existing =>
    obtain rfl : q = p.tripStatusReply existing := hof
    cases existing with
    | none => exact .of_eq rfl
    | some trip => exact .quiet rfl rfl
  | didUpdateLocations l =>
    cases hof with
    | dashboard owner step after => exact .passed step (.told l owner) (by rw [after])
    | sheet _ _ after => exact .of_eq (by rw [after]; rfl)
    | alert _ _ after => exact .of_eq (by rw [after])
    | nobody _ after => exact .of_eq (by rw [after])
  | onMessage socket text inBackground =>
    cases hof with
    | dashboard owner step after =>
      exact .passed step (.message socket text inBackground owner) (by rw [after])
    | sheet _ _ handled =>
      rcases sheetMessage_inv handled with rfl | ⟨_, hreacts⟩
      · exact .of_eq rfl
      · cases hreacts with
        | nothing after => exact .of_eq (by rw [after])
        | reached _ _ after =>
          have happ := app_dismissFrom p
          exact .quiet (by rw [after, sessions_pushTrip, happ])
            (by rw [after]; exact congrArg (fun a => a.device.defaults) (happ _ _))
        | cancelled _ after => exact .of_eq (by rw [after, app_dismissFrom])
        | located step after =>
          exact .passed step (.passedOn socket text inBackground) (by rw [after])
        | started _ _ _ after =>
          have happ := app_dismissFrom (p.setFlag false)
          exact .quiet (by rw [after, sessions_pushTrip, happ]; rfl)
            (by rw [after]; exact congrArg (fun a => a.device.defaults) (happ _ _))
    | trip _ _ handled =>
      rcases tripMessage_inv handled with rfl | ⟨_, screen', _, rfl⟩
      · exact .of_eq rfl
      · exact .of_eq rfl
  | lateProviderList k call response =>
    obtain ⟨s, t, hs, hlate, rfl⟩ := hof
    exact .lateList k call response hs hlate rfl
  | lateDistance k call values =>
    obtain ⟨s, t, dict, hs, hlate, rfl⟩ := hof
    exact .lateDistance k call values hs hlate rfl
  | cancelRequest j sinceAccepted =>
    obtain ⟨sheet, _, _, rfl⟩ := hof
    refine .of_eq ?_
    unfold cancelRequest
    split
    · rfl
    · rfl
  | cancelTrip j =>
    obtain ⟨sheet, _, _, hcancel⟩ := hof
    obtain ⟨_, _, _, rfl⟩ := cancelTrip_inv hcancel
    exact .of_eq rfl
  | leftBarItemDidTap j =>
    obtain ⟨_, _, _, _, rfl⟩ := hof
    exact .of_eq rfl
  | btnSubmitPressed noShow dismisses =>
    obtain ⟨_, _, _, _, hsubmit⟩ := hof
    obtain ⟨_, _, _, rfl⟩ := btnSubmitPressed_inv hsubmit
    exact .of_eq rfl
  | showDashboard _ | pushOther | popViewController | dismissAlert | submitReview _
  | reviewReply _ => exact .of_eq (step_navigation h rfl).app

/-- **A dashboard does what it is asked to, and is left alone by the other events.** -/
theorem step_session {e : ClientPhoneEvent} (h : (machine distance).Step p e q) {i : Nat}
    {t : ClientSession} (ht : q.app.sessions[i]? = some t) : SessionStep distance p q i t e := by
  cases step_app h with
  | own ev admitted step sessions device =>
    rw [sessions] at ht
    cases ClientApp.step_session step ht with
    | alike listed same => exact .alike listed same
    | moved own listed step' => exact .moved listed (.app _ own admitted) step'
    | fresh makes number new => exact .fresh rfl makes number (by rw [new, device])
  | passed step asks after =>
    rw [after] at ht
    exact session_of_step step asks ht
  | lateList k call response listed late after =>
    obtain ⟨userID, _, hface⟩ := ClientSession.lateProviderList_inv late
    rw [after] at ht
    exact session_of_store listed (alike_of_face (d := p.app.device) hface) ht
  | lateDistance k call values listed late after =>
    have hface := ClientSession.lateDistanceReply_inv late
    rw [after] at ht
    exact session_of_store listed
      (alike_of_face (m := p.app.sockets) (d := p.app.device) hface) ht
  | quiet sessions _ =>
    rw [sessions] at ht
    exact .alike ht (.refl t)

/-! ## 2. The delegates -/

/-- The dashboard that listens to the sockets once the event is handled. -/
def listens : ClientPhoneEvent → Option Nat
  | .app (.session i (.onlineProviderList _ (some _))) => some i
  | .lateProviderList i _ _ => some i
  | _ => none

/-- No dashboard goes, or gives up the locations. -/
def Locators (p q : ClientPhone) : Prop :=
  ∀ (i : Nat) (s : ClientSession), p.app.sessions[i]? = some s →
    ∃ t, q.app.sessions[i]? = some t ∧ t.locationDelegate = s.locationDelegate

/-- **What a step does to the two delegates.**  A dashboard takes the sockets with its list and
the locations when it loads, a sheet takes both, a trip screen the sockets and a cancel-reason
screen the locations; nobody gives anything back. -/
inductive DelegateStep (p q : ClientPhone) (e : ClientPhoneEvent) : Prop where
  | kept (quiet : listens e = none) (socketOwner : q.socketOwner = p.socketOwner)
      (delegate : q.app.sockets.delegate = p.app.sockets.delegate)
      (locationOwner : q.locationOwner = p.locationOwner)
      (sheets : q.sheets.length = p.sheets.length) (trips : q.trips.length = p.trips.length)
      (locators : Locators p q) : DelegateStep p q e
  | listed {i : Nat} (event : listens e = some i)
      (number : ∃ t, q.app.sessions[i]? = some t)
      (socketOwner : q.socketOwner = some (.dashboard i))
      (delegate : q.app.sockets.delegate = some .dashboard)
      (locationOwner : q.locationOwner = p.locationOwner)
      (sheets : q.sheets.length = p.sheets.length) (trips : q.trips.length = p.trips.length)
      (locators : Locators p q) : DelegateStep p q e
  | loaded (quiet : listens e = none) (socketOwner : q.socketOwner = p.socketOwner)
      (delegate : q.app.sockets.delegate = p.app.sockets.delegate)
      (locationOwner : q.locationOwner = some (.dashboard p.app.sessions.length))
      (sheets : q.sheets.length = p.sheets.length) (trips : q.trips.length = p.trips.length)
      (locators : Locators p q) (new : ∃ t, q.app.sessions[p.app.sessions.length]? = some t ∧
        t.locationDelegate = .dashboard) : DelegateStep p q e
  | sheet (socketOwner : q.socketOwner = some (.providerDetail p.sheets.length))
      (locationOwner : q.locationOwner = some (.providerDetail p.sheets.length))
      (sheets : q.sheets.length = p.sheets.length + 1)
      (stays : ∀ (i : Nat) (s : ClientSession), p.app.sessions[i]? = some s →
        ∃ t, q.app.sessions[i]? = some t) : DelegateStep p q e
  | trip (socketOwner : q.socketOwner = some (.clientTrip p.trips.length))
      (locationOwner : q.locationOwner = p.locationOwner)
      (trips : q.trips.length = p.trips.length + 1) (locators : Locators p q) :
      DelegateStep p q e
  | alert (quiet : listens e = none) (socketOwner : q.socketOwner = p.socketOwner)
      (delegate : q.app.sockets.delegate = p.app.sockets.delegate)
      (locationOwner : q.locationOwner = some (.cancelAlert p.alerts.length))
      (sheets : q.sheets.length = p.sheets.length) (trips : q.trips.length = p.trips.length)
      (locators : Locators p q) : DelegateStep p q e

/-- A dashboard that is stored is there. -/
theorem exists_of_store {k i : Nat} {s t : ClientSession} (hs : p.app.sessions[i]? = some s) :
    ∃ t', (p.app.store k t).sessions[i]? = some t' := by
  have hlt : i < p.app.sessions.length := (List.getElem?_eq_some_iff.mp hs).1
  exact ⟨_, List.getElem?_eq_getElem (by simpa [ClientApp.store] using hlt)⟩

theorem locators_of_sessions (h : q.app.sessions = p.app.sessions) : Locators p q := by
  intro i s hs
  exact ⟨s, h ▸ hs, rfl⟩

/-- A session that is stored as it was, or with the locations kept. -/
theorem locators_of_store {k : Nat} {s t : ClientSession} (hs : p.app.sessions[k]? = some s)
    (hkept : t.locationDelegate = s.locationDelegate)
    (hq : q.app.sessions = (p.app.store k t).sessions) : Locators p q := by
  intro i s' hs'
  rw [hq]
  by_cases hk : k = i
  · subst hk
    have hlt : k < p.app.sessions.length := (List.getElem?_eq_some_iff.mp hs).1
    obtain rfl : s = s' := by simpa [hs] using hs'
    exact ⟨t, by simp [ClientApp.store, List.getElem?_set_self hlt], hkept⟩
  · exact ⟨s', by simp [ClientApp.store, List.getElem?_set_ne hk, hs'], rfl⟩

section App

variable {b : ClientApp}

theorem openSheet_eq {i : Nat} {t : ClientSession} {sheet : ProviderDetailSheet}
    {sheets : List ProviderDetailSheet} (ht : b.sessions[i]? = some t)
    (hsheets : t.sheets = sheets ++ [sheet]) :
    p.openSheet i b = { p with
      app := b
      sheets := p.sheets ++ [{
        delegate := i
        currentRequest := sheet.currentRequest
        clientLocation := sheet.clientLocation }]
      socketOwner := some (.providerDetail p.sheets.length)
      locationOwner := some (.providerDetail p.sheets.length) } := by
  simp [openSheet, ht, hsheets]

/-- An event of a dashboard that is neither its list nor a distance just leaves the app. -/
theorem follow_session {k : Nat} {ev : ClientEvent} (hlist : ClientSession.isList ev = false)
    (hdistance : ∀ call values success, ev ≠ .distanceReply call values success) :
    p.follow (.session k ev) b = { p with app := b } := by
  unfold follow
  split
  · exact absurd hlist (by simp_all [ClientSession.isList])
  · simp_all
  · simp_all
  · simp_all
  · simp_all
  · rfl

/-- Nor does a distance that opened no sheet. -/
theorem follow_quiet {k : Nat} {s t : ClientSession} {ev : ClientEvent}
    (hs : p.app.sessions[k]? = some s) (hlist : ClientSession.isList ev = false)
    (hsheets : t.sheets = s.sheets) :
    p.follow (.session k ev) (p.app.store k t) = { p with app := p.app.store k t } := by
  by_cases hdistance : ∀ call values success, ev ≠ .distanceReply call values success
  · exact follow_session hlist hdistance
  · push Not at hdistance
    obtain ⟨call, values, success, rfl⟩ := hdistance
    have hlt : k < p.app.sessions.length := (List.getElem?_eq_some_iff.mp hs).1
    have hnot : ¬sheetsOf p.app k < sheetsOf (p.app.store k t) k := by
      simp [sheetsOf, ClientApp.store, hs, List.getElem?_set_self hlt, hsheets]
    simp only [follow, followDistance, if_neg hnot]

theorem listens_session {k : Nat} {ev : ClientEvent} (h : ClientSession.isList ev = false) :
    listens (.app (.session k ev)) = none := by
  unfold listens
  split
  · exact absurd h (by simp_all [ClientSession.isList])
  · simp_all
  · rfl

theorem delegates_of_quiet {k : Nat} {s t : ClientSession} {ev : ClientEvent}
    (hs : p.app.sessions[k]? = some s) (hlist : ClientSession.isList ev = false)
    (hsheets : t.sheets = s.sheets)
    (hdelegate : t.sockets.delegate = p.app.sockets.delegate)
    (hlocation : t.locationDelegate = s.locationDelegate) :
    DelegateStep p (p.follow (.session k ev) (p.app.store k t)) (.app (.session k ev)) := by
  rw [follow_quiet hs hlist hsheets]
  exact .kept (listens_session hlist) rfl hdelegate rfl rfl rfl (locators_of_store hs hlocation rfl)

/-- A dashboard's own event. -/
theorem delegates_of_session {k : Nat} {s t : ClientSession} {ev : ClientEvent}
    (hs : p.app.sessions[k]? = some s) (own : ClientApp.isOwnEvent ev = true)
    (hstep : (ClientSession.machine distance).Step (p.app.lend s) ev t) :
    DelegateStep p (p.follow (.session k ev) (p.app.store k t)) (.app (.session k ev)) := by
  have hlt : k < p.app.sessions.length := (List.getElem?_eq_some_iff.mp hs).1
  have ht : (p.app.store k t).sessions[k]? = some t := by
    simp [ClientApp.store, List.getElem?_set_self hlt]
  cases ClientSession.step_move hstep rfl (ClientApp.ne_elsewhere own) with
  | quiet noList h =>
    exact delegates_of_quiet hs noList (congrArg Face.sheets h)
      (congrArg (fun f : Face => f.sockets.delegate) h) (congrArg Face.locationDelegate h)
  | located l h =>
    exact delegates_of_quiet hs rfl (congrArg Face.sheets h)
      (congrArg (fun f : Face => f.sockets.delegate) h) (congrArg Face.locationDelegate h)
  | posted body _ _ _ h =>
    exact delegates_of_quiet hs rfl (congrArg Face.sheets h)
      (congrArg (fun f : Face => f.sockets.delegate) h) (congrArg Face.locationDelegate h)
  | connected call _ h =>
    exact delegates_of_quiet hs rfl (congrArg Face.sheets h)
      (congrArg (fun f : Face => f.sockets.delegate) h) (congrArg Face.locationDelegate h)
  | withdrawn body _ h =>
    exact delegates_of_quiet hs rfl (congrArg Face.sheets h)
      (congrArg (fun f : Face => f.sockets.delegate) h) (congrArg Face.locationDelegate h)
  | told call frame _ _ h =>
    exact delegates_of_quiet hs rfl (congrArg Face.sheets h)
      (congrArg (fun f : Face => f.sockets.delegate) h) (congrArg Face.locationDelegate h)
  | listed call response _ h =>
    have hdelegate : (p.app.store k t).sockets.delegate = some .dashboard :=
      congrArg (fun f : Face => f.sockets.delegate) h
    have hq : p.follow (.session k (.onlineProviderList call (some response)))
        (p.app.store k t) =
          { p with app := p.app.store k t, socketOwner := some (.dashboard k) } := by
      simp only [follow, followList, hdelegate]
    rw [hq]
    exact .listed (i := k) rfl ⟨t, ht⟩ rfl hdelegate rfl rfl rfl
      (locators_of_store hs (congrArg Face.locationDelegate h) rfl)
  | @resumedSheet call response _ _ sheet _ _ _ _ _ h =>
    have hdelegate : (p.app.store k t).sockets.delegate = some .providerDetail :=
      congrArg (fun f : Face => f.sockets.delegate) h
    have hsheets : t.sheets = s.sheets ++ [sheet] := congrArg Face.sheets h
    simp only [follow, followList, hdelegate, openSheet_eq ht hsheets]
    exact .sheet rfl rfl (by simp) fun _ _ hi => exists_of_store hi
  | @resumedTrip call response _ _ _ _ _ _ _ h =>
    have hdelegate : (p.app.store k t).sockets.delegate = some .clientTrip :=
      congrArg (fun f : Face => f.sockets.delegate) h
    simp only [follow, followList, hdelegate, ht]
    exact .trip rfl rfl (by simp [pushTrip])
      (locators_of_store hs (congrArg Face.locationDelegate h) rfl)
  | @entered call values sheet _ h =>
    have hsheets : t.sheets = s.sheets ++ [sheet] := congrArg Face.sheets h
    have hmore : sheetsOf p.app k < sheetsOf (p.app.store k t) k := by
      simp [sheetsOf, hs, ht, hsheets]
    simp only [follow, followDistance, if_pos hmore, openSheet_eq ht hsheets]
    exact .sheet rfl rfl (by simp) fun _ _ hi => exists_of_store hi

theorem locators_of_app {ev : AppEvent} (h : (ClientApp.machine distance).Step p.app ev b)
    (hev : ∀ i e, ev ≠ .session i e) (hq : q.app.sessions = b.sessions) : Locators p q := by
  intro i s hs
  have hlt : i < p.app.sessions.length := (List.getElem?_eq_some_iff.mp hs).1
  have hlt' : i < b.sessions.length := lt_of_lt_of_le hlt (ClientApp.sessions_length_le h)
  have ht : b.sessions[i]? = some b.sessions[i] := List.getElem?_eq_getElem hlt'
  refine ⟨b.sessions[i], by rw [hq, ht], ?_⟩
  cases ClientApp.step_session h ht with
  | alike listed same =>
    obtain rfl : s = _ := Option.some.inj (hs.symm.trans listed)
    exact same.locationDelegate
  | moved => exact absurd rfl (hev _ _)
  | fresh _ number _ => omega

/-- A dashboard is made, or the reply to the sign-in was a refusal. -/
theorem delegates_of_makes {ev : AppEvent} (h : (ClientApp.machine distance).Step p.app ev b)
    (makes : ClientApp.makesDashboard ev = true) :
    DelegateStep p (p.followDashboard b) (.app ev) := by
  have hev : ∀ i e, ev ≠ .session i e := by
    rintro i e rfl
    exact absurd makes (by simp [ClientApp.makesDashboard])
  have hquiet : listens (.app ev) = none := by
    cases ev with
    | session i e => exact absurd rfl (hev i e)
    | _ => rfl
  have hsockets := ClientApp.sockets_eq h hev
  unfold followDashboard
  split
  · rename_i hmore
    refine .loaded hquiet rfl (congrArg WebSocketManager.delegate hsockets) rfl rfl rfl
      (locators_of_app h hev rfl) ?_
    have ht : b.sessions[p.app.sessions.length]? = some b.sessions[p.app.sessions.length] :=
      List.getElem?_eq_getElem hmore
    refine ⟨_, ht, ?_⟩
    cases ClientApp.step_session h ht with
    | alike listed _ =>
      have hlt : p.app.sessions.length < p.app.sessions.length :=
        (List.getElem?_eq_some_iff.mp listed).1
      omega
    | moved => exact absurd rfl (hev _ _)
    | fresh _ _ new => rw [new]
  · exact .kept hquiet rfl (congrArg WebSocketManager.delegate hsockets) rfl rfl rfl
      (locators_of_app h hev rfl)

/-- Any event of the app. -/
theorem delegates_of_app {ev : AppEvent} (h : (ClientApp.machine distance).Step p.app ev b) :
    DelegateStep p (p.follow ev b) (.app ev) := by
  cases ev with
  | session k e =>
    obtain ⟨hown, s, t, hs, hstep, rfl⟩ := ClientApp.step_inv h
    exact delegates_of_session hs hown hstep
  | signInReply reply => exact delegates_of_makes h rfl
  | pushDashboard => exact delegates_of_makes h rfl
  | logout =>
    have hsockets := ClientApp.sockets_eq h (by simp)
    exact .kept rfl rfl (congrArg WebSocketManager.delegate hsockets) rfl (by simp [follow, goBack])
      rfl (locators_of_app h (by simp) rfl)
  | _ =>
    have hsockets := ClientApp.sockets_eq h (by simp)
    exact .kept rfl rfl (congrArg WebSocketManager.delegate hsockets) rfl rfl rfl
      (locators_of_app h (by simp) rfl)

end App

/-- The sheet is dismissed, or what lies over it. -/
theorem dismissFrom_inv (p : ClientPhone) (j : Nat) (sheet : TripProviderDetail) :
    ∃ sheets alert, sheets.length = p.sheets.length ∧
      p.dismissFrom j sheet = { p with sheets := sheets, alert := alert } := by
  unfold dismissFrom
  split
  · exact ⟨p.sheets, none, rfl, rfl⟩
  · exact ⟨p.sheets.set j sheet.dismiss, p.alert, by simp, rfl⟩

/-- Nothing but what the sockets and the location manager do not see. -/
theorem Untouched.delegates {e : ClientPhoneEvent} (h : Untouched p q) (he : listens e = none) :
    DelegateStep p q e :=
  .kept he h.socketOwner (by rw [h.app]) h.locationOwner (by rw [h.sheets]) (by rw [h.trips])
    (locators_of_sessions (by rw [h.app]))

/-- A message reaches a dashboard. -/
theorem delegates_of_message {k : Nat} {ev : ClientEvent} {e : ClientPhoneEvent} {b : ClientApp}
    (h : (ClientApp.machine distance).Step p.app (.session k ev) b)
    (hlist : ClientSession.isList ev = false)
    (hdistance : ∀ call values success, ev ≠ .distanceReply call values success)
    (he : listens e = none) {l : Option CLLocation} :
    DelegateStep p { p with lastLocation := l, app := b } e := by
  have hstep := delegates_of_app (p := p) h
  rw [follow_session hlist hdistance] at hstep
  cases hstep with
  | kept _ socketOwner delegate locationOwner sheets trips locators =>
    exact .kept he socketOwner delegate locationOwner sheets trips locators
  | listed event => exact absurd (event.symm.trans (listens_session hlist)) (by simp)
  | loaded _ socketOwner delegate locationOwner sheets trips locators new =>
    exact .loaded he socketOwner delegate locationOwner sheets trips locators new
  | sheet _ _ sheets => exact absurd sheets (by simp)
  | trip _ _ trips => exact absurd trips (by simp)
  | alert _ socketOwner delegate locationOwner sheets trips locators =>
    exact .alert he socketOwner delegate locationOwner sheets trips locators

/-- **Every step of the phone does one of these to the delegates.** -/
theorem step_delegates {e : ClientPhoneEvent} (h : (machine distance).Step p e q) :
    DelegateStep p q e := by
  have hof : StepOf distance p q e := step_inv h
  cases e with
  | app ev =>
    obtain ⟨_, b, hb, rfl⟩ := hof
    exact delegates_of_app hb
  | tripStatusReply existing =>
    obtain rfl : q = p.tripStatusReply existing := hof
    unfold tripStatusReply
    split
    · exact .kept rfl rfl rfl rfl rfl rfl (locators_of_sessions rfl)
    · exact .kept rfl rfl rfl rfl rfl rfl (locators_of_sessions rfl)
  | didUpdateLocations l =>
    cases hof with
    | @dashboard i b _ step after =>
      subst after
      exact delegates_of_message step rfl (by simp) rfl
    | sheet _ _ after =>
      subst after
      exact .kept rfl rfl rfl rfl (by simp [putSheet]) rfl (locators_of_sessions rfl)
    | alert _ _ after =>
      subst after
      exact .kept rfl rfl rfl rfl rfl rfl (locators_of_sessions rfl)
    | nobody _ after =>
      subst after
      exact .kept rfl rfl rfl rfl rfl rfl (locators_of_sessions rfl)
  | onMessage socket text inBackground =>
    cases hof with
    | dashboard _ step after =>
      subst after
      exact delegates_of_message step rfl (by simp) rfl
    | @sheet j sheet _ _ handled =>
      rcases sheetMessage_inv handled with rfl | ⟨_, hreacts⟩
      · exact .kept rfl rfl rfl rfl rfl rfl (locators_of_sessions rfl)
      · cases hreacts with
        | nothing after =>
          subst after
          exact .kept rfl rfl rfl rfl rfl rfl (locators_of_sessions rfl)
        | reached _ _ after =>
          obtain ⟨sheets, alert, _, hdismiss⟩ := dismissFrom_inv p j sheet
          rw [hdismiss] at after
          subst after
          exact .trip rfl rfl (by simp [pushTrip]) (locators_of_sessions rfl)
        | cancelled _ after =>
          obtain ⟨sheets, alert, hlength, hdismiss⟩ := dismissFrom_inv p j sheet
          rw [hdismiss] at after
          subst after
          exact .kept rfl rfl rfl rfl hlength rfl (locators_of_sessions rfl)
        | located step after =>
          subst after
          exact delegates_of_message step rfl (by simp) rfl
        | started _ _ _ after =>
          obtain ⟨sheets, alert, _, hdismiss⟩ := dismissFrom_inv (p.setFlag false) j sheet
          rw [hdismiss] at after
          subst after
          exact .trip rfl rfl (by simp [pushTrip, setFlag]) (locators_of_sessions rfl)
    | trip _ _ handled =>
      rcases tripMessage_inv handled with rfl | ⟨_, screen', _, rfl⟩
      · exact .kept rfl rfl rfl rfl rfl rfl (locators_of_sessions rfl)
      · exact .kept rfl rfl rfl rfl rfl (by simp [putTrip]) (locators_of_sessions rfl)
  | lateProviderList k call response =>
    obtain ⟨s, s', hs, hlate, rfl⟩ := hof
    obtain ⟨userID, _, hface⟩ := ClientSession.lateProviderList_inv hlate
    have hlt : k < p.app.sessions.length := (List.getElem?_eq_some_iff.mp hs).1
    exact .listed (i := k) rfl ⟨s', by simp [ClientApp.store, List.getElem?_set_self hlt]⟩ rfl
      (congrArg (fun f : Face => f.sockets.delegate) hface) rfl rfl rfl
      (locators_of_store hs (congrArg Face.locationDelegate hface) rfl)
  | lateDistance k call values =>
    obtain ⟨s, s', dict, hs, hlate, rfl⟩ := hof
    have hface := ClientSession.lateDistanceReply_inv hlate
    exact .kept rfl rfl (congrArg (fun f : Face => f.sockets.delegate) hface) rfl rfl rfl
      (locators_of_store hs (congrArg Face.locationDelegate hface) rfl)
  | cancelRequest j sinceAccepted =>
    obtain ⟨sheet, _, _, rfl⟩ := hof
    unfold cancelRequest
    split
    · exact .alert rfl rfl rfl rfl rfl rfl (locators_of_sessions rfl)
    · exact .kept rfl rfl rfl rfl rfl rfl (locators_of_sessions rfl)
  | cancelTrip j =>
    obtain ⟨sheet, _, _, hcancel⟩ := hof
    obtain ⟨_, _, _, rfl⟩ := cancelTrip_inv hcancel
    exact .kept rfl rfl rfl rfl (by simp) rfl (locators_of_sessions rfl)
  | leftBarItemDidTap j =>
    obtain ⟨_, _, _, _, rfl⟩ := hof
    exact .kept rfl rfl rfl rfl (by simp [putSheet]) rfl (locators_of_sessions rfl)
  | btnSubmitPressed noShow dismisses =>
    obtain ⟨_, _, _, _, hsubmit⟩ := hof
    obtain ⟨_, _, _, rfl⟩ := btnSubmitPressed_inv hsubmit
    refine .kept rfl rfl rfl rfl ?_ rfl (locators_of_sessions rfl)
    cases dismisses with
    | true => simp
    | false => rfl
  | showDashboard _ | pushOther | popViewController | dismissAlert | submitReview _
  | reviewReply _ => exact (step_navigation h rfl).delegates rfl

/-- No dashboard is ever forgotten. -/
theorem DelegateStep.stays {e : ClientPhoneEvent} (h : DelegateStep p q e) {i : Nat}
    {s : ClientSession} (hs : p.app.sessions[i]? = some s) : ∃ t, q.app.sessions[i]? = some t := by
  have hlocators : Locators p q → ∃ t, q.app.sessions[i]? = some t := by
    intro hkept
    obtain ⟨t, ht, _⟩ := hkept i s hs
    exact ⟨t, ht⟩
  cases h with
  | kept _ _ _ _ _ _ locators => exact hlocators locators
  | listed _ _ _ _ _ _ _ locators => exact hlocators locators
  | loaded _ _ _ _ _ _ locators _ => exact hlocators locators
  | sheet _ _ _ stays => exact stays i s hs
  | trip _ _ _ locators => exact hlocators locators
  | alert _ _ _ _ _ _ locators => exact hlocators locators

/-! ## 3. A delegate is there to be called -/

/-- A dashboard that is a delegate exists, and takes what it is told. -/
structure Delegated (p : ClientPhone) : Prop where
  sockets : ∀ i, p.socketOwner = some (.dashboard i) →
    p.app.sockets.delegate = some .dashboard ∧ ∃ s, p.app.sessions[i]? = some s
  locations : ∀ i, p.locationOwner = some (.dashboard i) →
    ∃ s, p.app.sessions[i]? = some s ∧ s.locationDelegate = .dashboard

namespace Delegated

theorem start (device : Device) (onMain : Bool) :
    Delegated { app := .launch device onMain } where
  sockets := by simp
  locations := by simp

/-- What the locators keep. -/
theorem locations_of (h : Delegated p) (hlocators : Locators p q)
    (howner : q.locationOwner = p.locationOwner) {i : Nat}
    (hi : q.locationOwner = some (.dashboard i)) :
    ∃ t, q.app.sessions[i]? = some t ∧ t.locationDelegate = .dashboard := by
  obtain ⟨s, hs, hdelegate⟩ := h.locations i (howner ▸ hi)
  obtain ⟨t, ht, hsame⟩ := hlocators i s hs
  exact ⟨t, ht, hsame.trans hdelegate⟩

theorem sockets_of (h : Delegated p) (hlocators : Locators p q)
    (howner : q.socketOwner = p.socketOwner)
    (hdelegate : q.app.sockets.delegate = p.app.sockets.delegate) {i : Nat}
    (hi : q.socketOwner = some (.dashboard i)) :
    q.app.sockets.delegate = some .dashboard ∧ ∃ s, q.app.sessions[i]? = some s := by
  obtain ⟨hp, s, hs⟩ := h.sockets i (howner ▸ hi)
  obtain ⟨t, ht, _⟩ := hlocators i s hs
  exact ⟨hdelegate.trans hp, t, ht⟩

/-- **One step of the phone.** -/
theorem step (h : Delegated p) {e : ClientPhoneEvent} (hstep : DelegateStep p q e) :
    Delegated q := by
  cases hstep with
  | kept _ socketOwner delegate locationOwner _ _ locators =>
    exact ⟨fun _ => h.sockets_of locators socketOwner delegate,
      fun _ => h.locations_of locators locationOwner⟩
  | @listed k _ number socketOwner delegate locationOwner _ _ locators =>
    refine ⟨?_, fun _ => h.locations_of locators locationOwner⟩
    intro i hi
    obtain rfl : k = i := by simpa using socketOwner.symm.trans hi
    exact ⟨delegate, number⟩
  | loaded _ socketOwner delegate locationOwner _ _ locators new =>
    refine ⟨fun _ => h.sockets_of locators socketOwner delegate, ?_⟩
    intro i hi
    obtain rfl : p.app.sessions.length = i := by simpa using locationOwner.symm.trans hi
    exact new
  | sheet socketOwner locationOwner =>
    refine ⟨?_, ?_⟩
    · intro i hi
      exact absurd (socketOwner.symm.trans hi) (by simp)
    · intro i hi
      exact absurd (locationOwner.symm.trans hi) (by simp)
  | trip socketOwner locationOwner _ locators =>
    refine ⟨?_, fun _ => h.locations_of locators locationOwner⟩
    intro i hi
    exact absurd (socketOwner.symm.trans hi) (by simp)
  | alert _ socketOwner delegate locationOwner _ _ locators =>
    refine ⟨fun _ => h.sockets_of locators socketOwner delegate, ?_⟩
    intro i hi
    exact absurd (locationOwner.symm.trans hi) (by simp)

end Delegated

end ClientPhone

end WeatherAccommodation
