/-
# Screens and trips over one step of the client's phone

What a step does to the trip of a dashboard (`step_trip`), and to what lies over the dashboards: the
sheets, the cancel-reason screens, and the frames that are written there (`step_screens`).  A sheet
has the trip of the dashboard that was visible when it opened, and a cancel-reason screen that of the
sheet below it.
-/
import WeatherAccommodation.Client.Delegates

namespace WeatherAccommodation

open Foundation Reactive

/-! ## 1. The trip of a dashboard -/

namespace ClientSession

variable {distance : CLLocation → CLLocation → ℚ} {s t : ClientSession}

/-- What the event does to the trip of the dashboard. -/
inductive CurrentMove (s t : ClientSession) : ClientEvent → Prop where
  | kept {e : ClientEvent}
      (quiet : isList e = false ∨ s.device.appDelegate.doesRequestExist = false)
      (h : t.dashboard.currentRequest = s.dashboard.currentRequest) : CurrentMove s t e
  | accepted {socket : Nat} {text : Message} {trip : Dict}
      (other : s.sockets.clientCommonDataSocket ≠ some socket)
      (listens : s.sockets.clientproviderRequestSocket = some socket)
      (acceptance : IsAcceptance text trip) (h : t.dashboard.currentRequest = trip) :
      CurrentMove s t (.onMessage socket text)
  | resumed {call : Nat} {response trip : Dict}
      (flag : s.device.appDelegate.doesRequestExist = true)
      (existing : s.device.appDelegate.clientExistingTrip = some trip)
      (h : t.dashboard.currentRequest = trip) :
      CurrentMove s t (.onlineProviderList call (some response))

/-- **A dashboard gets a trip with an acceptance, or resumes the one that was reported.** -/
theorem step_trip {e : ClientEvent} (h : (machine distance).Step s e t) : CurrentMove s t e := by
  have hstep : StepOf distance s t e := step_inv h
  cases e with
  | tracingLocation l =>
    obtain rfl : t = s.tracingLocation l := hstep
    refine .kept (Or.inl rfl) ?_
    unfold tracingLocation
    split
    · rfl
    · rfl
  | onlineProviderList call response =>
    rcases onlineProviderList_inv hstep.2 with ⟨rfl, rfl⟩ | ⟨r, items, d, rfl, _, happend, hcheck⟩
    · exact .kept (Or.inl rfl) rfl
    · obtain ⟨ps, ms, rfl⟩ := ClientDashboard.appendOnlineProviders_frame happend
      rcases checkIfTripExists_inv hcheck with
        ⟨hflag, rfl⟩ | ⟨trip, userID, ⟨hflag, htrip, _⟩, ⟨_, here, rfl⟩ | ⟨_, rfl⟩⟩
      · exact .kept (Or.inr hflag) rfl
      · exact .resumed hflag htrip rfl
      · exact .resumed hflag htrip rfl
  | onMessage socket text =>
    rcases hstep with ⟨_, d, hping, rfl⟩ | ⟨hother, hlistens, hmsg⟩ | ⟨_, _, rfl⟩
    · obtain ⟨ps, ms, rfl⟩ := ClientDashboard.pingReceived_frame hping
      exact .kept (Or.inl rfl) rfl
    · rcases requestMessage_inv hmsg with rfl | ⟨dict, haccepted, rfl⟩
      · exact .kept (Or.inl rfl) rfl
      · exact .accepted hother hlistens haccepted rfl
    · exact .kept (Or.inl rfl) rfl
  | sendRequest =>
    rcases sendRequest_inv hstep.2 with rfl | ⟨marker, markers, body, _, _, _, rfl⟩
    · exact .kept (Or.inl rfl) rfl
    · exact .kept (Or.inl rfl) rfl
  | requestReply call success =>
    obtain ⟨userID, _, rfl⟩ := hstep
    cases success with
    | true => exact .kept (Or.inl rfl) rfl
    | false => exact .kept (Or.inl rfl) rfl
  | cancelRequest =>
    obtain ⟨body, _, rfl⟩ := cancelRequestThroughWS_inv hstep.2
    exact .kept (Or.inl rfl) rfl
  | cancelReply call success =>
    rcases cancelReply_inv hstep.2 with ⟨_, rfl⟩ | ⟨frame, _, rfl⟩
    · exact .kept (Or.inl rfl) rfl
    · exact .kept (Or.inl rfl) rfl
  | timerFires timer =>
    obtain ⟨_, rfl⟩ := hstep
    exact .kept (Or.inl rfl) rfl
  | distanceReply call values success =>
    obtain ⟨dict, _, hreply⟩ := hstep
    rcases distanceReply_inv hreply with ⟨markers, _, rfl⟩ | ⟨_, _, u, markers, henter, _, rfl⟩
    · exact .kept (Or.inl rfl) rfl
    · obtain ⟨eta, here, marker, rfl⟩ := enterTrip_inv henter
      exact .kept (Or.inl rfl) rfl
  | distanceTimerFires =>
    rcases callDistanceMatrixAPI_inv hstep with ⟨_, rfl⟩ | ⟨dict, _, rfl⟩
    · exact .kept (Or.inl rfl) rfl
    · exact .kept (Or.inl rfl) rfl
  | receivingLocationUpdate text =>
    obtain ⟨_, rfl⟩ := hstep
    exact .kept (Or.inl rfl) rfl
  | viewWillAppear =>
    obtain ⟨d, hclear, rfl⟩ := hstep
    obtain ⟨marker, markers, _, rfl⟩ := ClientDashboard.clearTrip_inv hclear
    exact .kept (Or.inl rfl) rfl
  | selectedProducts products =>
    obtain ⟨d, hshow, rfl⟩ := hstep
    obtain ⟨_, _, _, _, _, _, rfl⟩ := ClientDashboard.showSelectedProducts_inv hshow
    exact .kept (Or.inl rfl) rfl
  | elsewhere device busy =>
    obtain rfl : t = { s with device := device, isPresenting := busy } := hstep
    exact .kept (Or.inl rfl) rfl

/-- Resumed too late, the trip is the dashboard's own all the same. -/
theorem lateProviderList_trip {response : Dict}
    (h : s.lateProviderList distance response = .ok t) :
    ∃ trip, s.device.appDelegate.clientExistingTrip = some trip ∧
      t.dashboard.currentRequest = trip := by
  simp only [lateProviderList, bind_eq_ok, unwrap_eq_ok] at h
  obtain ⟨items, _, d, happend, hcheck⟩ := h
  obtain ⟨trip, userID, htrip, _, rfl⟩ := lateTripExists_inv hcheck
  exact ⟨trip, htrip, rfl⟩

/-- A distance that came too late leaves the trip as it is. -/
theorem lateDistanceReply_trip {dict values : Dict} (h : s.lateDistanceReply dict values = .ok t) :
    t.dashboard.currentRequest = s.dashboard.currentRequest := by
  simp only [lateDistanceReply, lateEnterTrip, bind_eq_ok, unwrap_eq_ok, forceInt_eq_ok,
    pure_eq_ok] at h
  obtain ⟨_, ⟨_, _, _, _, _, _, rfl⟩, _, _, _, _, rfl⟩ := h
  rfl

end ClientSession

namespace ClientApp

variable {distance : CLLocation → CLLocation → ℚ} {a b : ClientApp} {e : AppEvent}

/-- Only a dashboard's own event changes its trip. -/
theorem trip_before (h : (machine distance).Step a e b) (he : makesDashboard e = false) {i : Nat}
    {t : ClientSession} (ht : b.sessions[i]? = some t) :
    (∃ s, a.sessions[i]? = some s ∧ t.dashboard.currentRequest = s.dashboard.currentRequest) ∨
      ∃ ev s, e = .session i ev ∧ a.sessions[i]? = some s ∧
        (ClientSession.machine distance).Step (a.lend s) ev t := by
  cases step_sessionMove h ht with
  | kept listed => exact Or.inl ⟨t, listed, rfl⟩
  | moved own listed step => exact Or.inr ⟨_, _, rfl, listed, step⟩
  | notified listed shown after =>
    obtain ⟨_, _, _, _, _, _, rfl⟩ := ClientDashboard.showSelectedProducts_inv shown
    refine Or.inl ⟨_, listed, ?_⟩
    rw [after]
    rfl
  | fresh makes _ _ => exact absurd makes (by simp [he])

/-- Whoever is on the sign-in screens stays there, and nobody else gets there but by signing out. -/
theorem step_onMain (h : (machine distance).Step a e b) (he : makesDashboard e = false)
    (hlogout : e ≠ .logout) : b.onMain = a.onMain := by
  have hof : StepOf distance a b e := step_inv h
  have hanswer : ∀ {c : ClientApp} {number : Nat} {f : Wallet → Except Trap Wallet},
      c.answerWallet number f = .ok b → b.onMain = c.onMain := by
    intro c number f hc
    rcases answerWallet_inv hc with ⟨_, rfl⟩ | ⟨_, _, _, _, rfl⟩
    · rfl
    · rfl
  cases e with
  | session k ev =>
    obtain ⟨_, s, s', _, _, rfl⟩ := hof
    rfl
  | signInReply reply => exact absurd he (by simp [makesDashboard])
  | pushDashboard => exact absurd he (by simp [makesDashboard])
  | logout => exact absurd rfl hlogout
  | profileReply call reply =>
    rcases profileReply_inv hof with rfl | ⟨profile, _, _, rfl⟩
    · rfl
    · rfl
  | nextPressed kits =>
    obtain ⟨charge, selected, _, ⟨rfl, _⟩ | ⟨_, _, _, _, _, rfl⟩⟩ := nextPressed_inv hof
    · rfl
    · rfl
  | openWallet =>
    obtain rfl := openWallet_inv hof.2.2
    rfl
  | uncoverWallet number =>
    obtain ⟨w, _, _, _, hw⟩ := hof
    obtain rfl := showWallet_inv hw
    rfl
  | leaveWallet number popped =>
    obtain ⟨w, _, _, rfl⟩ := hof
    rfl
  | cardListReply call reply =>
    obtain ⟨number, _, hw⟩ := hof
    have hsame := hanswer hw
    exact hsame
  | selectRow number row =>
    obtain ⟨_, _, _, _, _, rfl⟩ := hof
    rfl
  | deleteRow number row =>
    obtain ⟨w, _, _, hw⟩ := hof
    obtain ⟨_, _, rfl⟩ := deleteRow_inv hw
    rfl
  | deleteReply call success =>
    obtain ⟨number, row, hw⟩ := hof
    have hsame := hanswer hw
    exact hsame
  | addCardFailed =>
    obtain rfl : b = a.addCardFailed := hof
    rfl

end ClientApp

namespace ClientPhone

variable {distance : CLLocation → CLLocation → ℚ} {p q : ClientPhone} {e : ClientPhoneEvent}

/-- What became of the trip of the dashboard with number `i`. -/
inductive TripStep (p : ClientPhone) (i : Nat) (t : ClientSession) : ClientPhoneEvent → Prop where
  | kept {e : ClientPhoneEvent} {s : ClientSession} (listed : p.app.sessions[i]? = some s)
      (h : t.dashboard.currentRequest = s.dashboard.currentRequest) : TripStep p i t e
  | accepted (socket : Nat) (text : Message) (inBackground : Bool) {trip : Dict}
      (owner : p.socketOwner = some (.dashboard i))
      (other : p.app.sockets.clientCommonDataSocket ≠ some socket)
      (listens : p.app.sockets.clientproviderRequestSocket = some socket)
      (acceptance : ClientSession.IsAcceptance text trip) (h : t.dashboard.currentRequest = trip) :
      TripStep p i t (.onMessage socket text inBackground)
  | resumed (call : Nat) (response : Dict) {trip : Dict} (flag : p.doesRequestExist = true)
      (existing : p.app.device.appDelegate.clientExistingTrip = some trip)
      (h : t.dashboard.currentRequest = trip) :
      TripStep p i t (.app (.session i (.onlineProviderList call (some response))))
  | resumedLate (call : Nat) (response : Dict) {trip : Dict}
      (existing : p.app.device.appDelegate.clientExistingTrip = some trip)
      (h : t.dashboard.currentRequest = trip) : TripStep p i t (.lateProviderList i call response)

/-- A dashboard that was stored with its trip. -/
theorem trip_of_store {i k : Nat} {s s' t : ClientSession} (hs : p.app.sessions[k]? = some s)
    (ht : (p.app.store k s').sessions[i]? = some t)
    (hown : k = i → t = s' → TripStep p i t e) : TripStep p i t e := by
  by_cases hk : k = i
  · subst hk
    have hlt : k < p.app.sessions.length := (List.getElem?_eq_some_iff.mp hs).1
    simp only [ClientApp.store, List.getElem?_set_self hlt, Option.some.injEq] at ht
    exact hown rfl ht.symm
  · simp only [ClientApp.store, List.getElem?_set_ne hk] at ht
    exact .kept ht rfl

/-- A message or a location for the dashboard `k`. -/
theorem trip_of_step {i k : Nat} {ev : ClientEvent} {b : ClientApp} {t : ClientSession}
    (h : (ClientApp.machine distance).Step p.app (.session k ev) b)
    (ht : b.sessions[i]? = some t)
    (hown : k = i → ∀ s, p.app.sessions[i]? = some s →
      ClientSession.CurrentMove (p.app.lend s) t ev → TripStep p i t e) : TripStep p i t e := by
  rcases ClientApp.trip_before h rfl ht with ⟨s, hs, hsame⟩ | ⟨ev', s, heq, hs, hstep⟩
  · exact .kept hs hsame
  · obtain ⟨rfl, rfl⟩ : k = i ∧ ev = ev' := by simpa using heq
    exact hown rfl s hs (ClientSession.step_trip hstep)

/-- **Where the trip of a dashboard comes from.** -/
theorem step_trip (h : (machine distance).Step p e q)
    (he : ∀ ev, e = .app ev → ClientApp.makesDashboard ev = false) {i : Nat} {t : ClientSession}
    (ht : q.app.sessions[i]? = some t) : TripStep p i t e := by
  cases step_app h with
  | own ev admitted step sessions _ =>
    rw [sessions] at ht
    rcases ClientApp.trip_before step (he ev rfl) ht with ⟨s, hs, hkept⟩ | ⟨ev, s, rfl, hs, hstep⟩
    · exact .kept hs hkept
    · cases ClientSession.step_trip hstep with
      | kept _ hkept => exact .kept hs hkept
      | @accepted socket text trip other listens acceptance haccepted =>
        exact absurd admitted (by simp [admits])
      | @resumed call response trip flag existing hresumed =>
        exact .resumed call response flag existing hresumed
  | passed step asks after =>
    rw [after] at ht
    refine trip_of_step step ht fun hk s hs hmove => ?_
    subst hk
    cases hmove with
    | kept _ hkept => exact .kept hs hkept
    | accepted other listens acceptance haccepted =>
      cases asks with
      | app _ _ admitted => exact absurd admitted (by simp [admits])
      | message _ _ inBackground owner =>
        exact .accepted _ _ inBackground owner other listens acceptance haccepted
    | resumed flag existing hresumed =>
      cases asks with
      | app _ _ _ => exact .resumed _ _ flag existing hresumed
  | lateList k call response listed late after =>
    rw [after] at ht
    refine trip_of_store listed ht fun hk htrip => ?_
    subst hk htrip
    obtain ⟨trip, existing, hresumed⟩ := ClientSession.lateProviderList_trip late
    exact .resumedLate call response existing hresumed
  | lateDistance k call values listed late after =>
    rw [after] at ht
    refine trip_of_store listed ht fun hk htrip => ?_
    subst hk htrip
    have hkept := ClientSession.lateDistanceReply_trip late
    exact .kept listed hkept
  | quiet sessions _ =>
    rw [sessions] at ht
    exact .kept ht rfl

/-! ## 3. What lies over the dashboards -/

/-- What a step does to the sheets. -/
inductive SheetsStep (p q : ClientPhone) : Prop where
  | same (h : q.sheets = p.sheets)
  | put {j : Nat} {sheet sheet' : TripProviderDetail} (listed : p.sheets[j]? = some sheet)
      (trip : sheet'.currentRequest = sheet.currentRequest)
      (presented : sheet'.isPresented = true → sheet.isPresented = true)
      (h : q.sheets = p.sheets.set j sheet')
  | cleared (h : q.sheets = p.sheets.map TripProviderDetail.dismiss)
  | opened {i : Nat} {t : ClientSession} {sheet : TripProviderDetail}
      (visible : p.isVisible i = true) (listed : q.app.sessions[i]? = some t)
      (trip : sheet.currentRequest = t.dashboard.currentRequest) (h : q.sheets = p.sheets ++ [sheet])

/-- What a step does to the cancel-reason screens. -/
inductive AlertsStep (p q : ClientPhone) : Prop where
  | same (h : q.alerts = p.alerts) (alert : q.alert = p.alert ∨ q.alert = none)
  | told {m : Nat} {alert : RequestCancelAlert} (l : CLLocation) (listed : p.alerts[m]? = some alert)
      (h : q.alerts = p.alerts.set m (alert.tracingLocation l)) (alert : q.alert = p.alert)
  | opened {j : Nat} {sheet : TripProviderDetail} {alert : RequestCancelAlert}
      (listed : p.sheets[j]? = some sheet) (presented : sheet.isPresented = true)
      (trip : alert.currentRequest = sheet.currentRequest) (h : q.alerts = p.alerts ++ [alert])
      (alert : q.alert = some p.alerts.length)

/-- What a step writes on the request socket, but for what a dashboard passes on. -/
inductive FramesStep (p q : ClientPhone) : ClientPhoneEvent → Prop where
  | same {e : ClientPhoneEvent} (h : q.frames = p.frames) : FramesStep p q e
  | cancelled {j socket : Nat} {sheet : TripProviderDetail} {frame : TripCancelFrame}
      (listed : p.sheets[j]? = some sheet) (presented : sheet.isPresented = true)
      (names : Names frame sheet.currentRequest) (h : q.frames = p.frames ++ [(socket, frame)]) :
      FramesStep p q (.cancelTrip j)
  | submitted {m socket : Nat} {alert : RequestCancelAlert} {frame : TripCancelFrame}
      (noShow dismisses : Bool) (shown : p.alert = some m) (listed : p.alerts[m]? = some alert)
      (names : Names frame alert.currentRequest) (h : q.frames = p.frames ++ [(socket, frame)]) :
      FramesStep p q (.btnSubmitPressed noShow dismisses)

structure ScreensStep (p q : ClientPhone) (e : ClientPhoneEvent) : Prop where
  onMain : q.app.onMain = p.app.onMain
  /-- A dashboard that is on the stack was there. -/
  stack : ∀ i, .dashboard i ∈ q.stack → .dashboard i ∈ p.stack
  sheets : SheetsStep p q
  alerts : AlertsStep p q
  frames : FramesStep p q e

namespace ScreensStep

/-- Only the app and the sheets may change. -/
theorem of_sheets (onMain : q.app.onMain = p.app.onMain) (stack : q.stack = p.stack)
    (sheets : SheetsStep p q) (alerts : q.alerts = p.alerts)
    (alert : q.alert = p.alert ∨ q.alert = none) (frames : q.frames = p.frames) :
    ScreensStep p q e where
  onMain := onMain
  stack := by simp [stack]
  sheets := sheets
  alerts := .same alerts alert
  frames := .same frames

/-- Only the stack may change. -/
theorem of_stack (onMain : q.app.onMain = p.app.onMain)
    (stack : ∀ i, .dashboard i ∈ q.stack → .dashboard i ∈ p.stack) (sheets : q.sheets = p.sheets)
    (alerts : q.alerts = p.alerts) (alert : q.alert = p.alert) (frames : q.frames = p.frames) :
    ScreensStep p q e where
  onMain := onMain
  stack := stack
  sheets := .same sheets
  alerts := .same alerts (Or.inl alert)
  frames := .same frames

end ScreensStep

/-- The dashboard that opens the sheet of an existing trip is visible. -/
theorem isVisible_of_resumes {i call : Nat} {response trip : Dict}
    (hadmits : p.admits (.session i (.onlineProviderList call (some response))) = true)
    (flag : p.doesRequestExist = true)
    (existing : p.app.device.appDelegate.clientExistingTrip = some trip)
    (accepted : Dict.int? trip "StatusCode" = some 6) : p.isVisible i = true := by
  have hresumes : p.resumesSheet = true := by simp [resumesSheet, existing, accepted]
  simpa [admits, canResume, flag, hresumes] using hadmits

/-- And so is the one that opens the sheet of an accepted request. -/
theorem isVisible_of_enters {i call : Nat} {values : Dict} {s t : ClientSession}
    {sheet : ProviderDetailSheet}
    (hadmits : p.admits (.session i (.distanceReply call values true)) = true)
    (hs : p.app.sessions[i]? = some s)
    (hstep : (ClientSession.machine distance).Step (p.app.lend s) (.distanceReply call values true)
      t) (hsheets : t.sheets = s.sheets ++ [sheet]) : p.isVisible i = true := by
  obtain ⟨dict, hwaiting, hreply⟩ : ClientSession.StepOf distance (p.app.lend s) t
    (.distanceReply call values true) := ClientSession.step_inv hstep
  have hwaiting' : s.distanceCalls.waiting call = some dict := hwaiting
  rcases ClientSession.distanceReply_inv hreply with ⟨markers, _, rfl⟩ | ⟨_, htype, _⟩
  · have hlength := congrArg List.length hsheets
    exact absurd hlength (by simp [ClientSession.put, ClientApp.lend])
  · have henters : p.entersTrip i call = true := by simp [entersTrip, hs, hwaiting', htype]
    simpa [admits, henters] using hadmits

/-- A dashboard's own event. -/
theorem screens_of_session {k : Nat} {s t : ClientSession} {ev : ClientEvent}
    (hadmits : p.admits (.session k ev) = true) (hs : p.app.sessions[k]? = some s)
    (own : ClientApp.isOwnEvent ev = true)
    (hstep : (ClientSession.machine distance).Step (p.app.lend s) ev t) :
    ScreensStep p (p.follow (.session k ev) (p.app.store k t)) (.app (.session k ev)) := by
  have hlt : k < p.app.sessions.length := (List.getElem?_eq_some_iff.mp hs).1
  have ht : (p.app.store k t).sessions[k]? = some t := by
    simp [ClientApp.store, List.getElem?_set_self hlt]
  have hquiet : ClientSession.isList ev = false → t.sheets = s.sheets →
      ScreensStep p (p.follow (.session k ev) (p.app.store k t)) (.app (.session k ev)) := by
    intro hlist hsheets
    rw [follow_quiet hs hlist hsheets]
    exact .of_sheets rfl rfl (.same rfl) rfl (Or.inl rfl) rfl
  cases ClientSession.step_move hstep rfl (ClientApp.ne_elsewhere own) with
  | quiet noList h => exact hquiet noList (congrArg Face.sheets h)
  | located l h => exact hquiet rfl (congrArg Face.sheets h)
  | posted body _ _ _ h => exact hquiet rfl (congrArg Face.sheets h)
  | connected call _ h => exact hquiet rfl (congrArg Face.sheets h)
  | withdrawn body _ h => exact hquiet rfl (congrArg Face.sheets h)
  | told call frame _ _ h => exact hquiet rfl (congrArg Face.sheets h)
  | listed call response _ h =>
    have hdelegate : (p.app.store k t).sockets.delegate = some .dashboard :=
      congrArg (fun f : Face => f.sockets.delegate) h
    simp only [follow, followList, hdelegate]
    exact .of_sheets rfl rfl (.same rfl) rfl (Or.inl rfl) rfl
  | @resumedSheet call response trip _ sheet flag existing _ accepted current h =>
    have hdelegate : (p.app.store k t).sockets.delegate = some .providerDetail :=
      congrArg (fun f : Face => f.sockets.delegate) h
    have hsheets : t.sheets = s.sheets ++ [sheet] := congrArg Face.sheets h
    have hvisible := isVisible_of_resumes hadmits flag existing accepted
    have htrip : t.dashboard.currentRequest = trip := by
      cases ClientSession.step_trip hstep with
      | kept quiet _ =>
        rcases quiet with hno | hno
        · exact absurd hno (by simp [ClientSession.isList])
        · exact absurd (hno.symm.trans flag) (by simp)
      | resumed _ existing' htrip => exact htrip.trans (Option.some.inj (existing'.symm.trans existing))
    simp only [follow, followList, hdelegate, openSheet_eq ht hsheets]
    exact .of_sheets rfl rfl (.opened hvisible ht (current.trans htrip.symm) rfl) rfl (Or.inl rfl) rfl
  | @resumedTrip call response _ _ _ _ _ _ _ h =>
    have hdelegate : (p.app.store k t).sockets.delegate = some .clientTrip :=
      congrArg (fun f : Face => f.sockets.delegate) h
    simp only [follow, followList, hdelegate, ht]
    exact .of_stack rfl (by simp [pushTrip]) rfl rfl rfl rfl
  | @entered call values sheet current h =>
    have hsheets : t.sheets = s.sheets ++ [sheet] := congrArg Face.sheets h
    have hmore : sheetsOf p.app k < sheetsOf (p.app.store k t) k := by
      simp [sheetsOf, hs, ht, hsheets]
    have hvisible := isVisible_of_enters hadmits hs hstep hsheets
    have htrip : t.dashboard.currentRequest = s.dashboard.currentRequest := by
      cases ClientSession.step_trip hstep with
      | kept _ htrip => exact htrip
    simp only [follow, followDistance, if_pos hmore, openSheet_eq ht hsheets]
    exact .of_sheets rfl rfl (.opened hvisible ht (current.trans htrip.symm) rfl) rfl (Or.inl rfl) rfl

namespace SheetsStep

theorem of_dismiss {j : Nat} {sheet : TripProviderDetail} (listed : p.sheets[j]? = some sheet)
    (h : q.sheets = p.sheets.set j sheet.dismiss) : SheetsStep p q :=
  @put p q j sheet sheet.dismiss listed rfl (by simp [TripProviderDetail.dismiss]) h

theorem of_told {j : Nat} {sheet : TripProviderDetail} (l : CLLocation)
    (listed : p.sheets[j]? = some sheet)
    (h : q.sheets = p.sheets.set j (sheet.tracingLocation l)) : SheetsStep p q :=
  @put p q j sheet (sheet.tracingLocation l) listed rfl id h

theorem of_eq {q' : ClientPhone} (h : SheetsStep p q) (hsheets : q'.sheets = q.sheets)
    (hsessions : q'.app.sessions = q.app.sessions) : SheetsStep p q' := by
  cases h with
  | same h => exact .same (hsheets.trans h)
  | put listed trip presented h => exact .put listed trip presented (hsheets.trans h)
  | cleared h => exact .cleared (hsheets.trans h)
  | opened visible listed trip h => exact .opened visible (hsessions ▸ listed) trip (hsheets.trans h)

end SheetsStep

/-- The sheet goes, or what lies over it. -/
theorem dismissFrom_screens (p : ClientPhone) {j : Nat} {sheet : TripProviderDetail}
    (hsheet : p.sheets[j]? = some sheet) :
    ∃ sheets alert, p.dismissFrom j sheet = { p with sheets := sheets, alert := alert } ∧
      (alert = p.alert ∨ alert = none) ∧ SheetsStep p { p with sheets := sheets } := by
  unfold dismissFrom
  split
  · exact ⟨p.sheets, none, rfl, Or.inr rfl, .same rfl⟩
  · exact ⟨p.sheets.set j sheet.dismiss, p.alert, rfl, Or.inl rfl, .of_dismiss hsheet rfl⟩

/-- A message for the sheet. -/
theorem screens_of_sheet {j socket : Nat} {sheet : TripProviderDetail} {text : Message}
    (hsheet : p.sheets[j]? = some sheet)
    (h : p.sheetMessage distance j sheet socket text = .ok q) : ScreensStep p q e := by
  rcases sheetMessage_inv h with rfl | ⟨_, hreacts⟩
  · exact .of_sheets rfl rfl (.same rfl) rfl (Or.inl rfl) rfl
  · cases hreacts with
    | nothing after =>
      subst after
      exact .of_sheets rfl rfl (.same rfl) rfl (Or.inl rfl) rfl
    | reached _ _ after =>
      obtain ⟨sheets, alert, hdismiss, halert, hsheets⟩ := dismissFrom_screens p hsheet
      rw [hdismiss] at after
      subst after
      exact ⟨rfl, by simp [pushTrip], hsheets.of_eq rfl rfl, .same rfl halert, .same rfl⟩
    | cancelled _ after =>
      obtain ⟨sheets, alert, hdismiss, halert, hsheets⟩ := dismissFrom_screens p hsheet
      rw [hdismiss] at after
      subst after
      exact .of_sheets rfl rfl (hsheets.of_eq rfl rfl) rfl halert rfl
    | located step after =>
      subst after
      exact .of_sheets (ClientApp.step_onMain step rfl (by simp)) rfl (.same rfl) rfl (Or.inl rfl) rfl
    | started _ _ _ after =>
      obtain ⟨sheets, alert, hdismiss, halert, hsheets⟩ :=
        dismissFrom_screens (p.setFlag false) hsheet
      rw [hdismiss] at after
      subst after
      have hkept : SheetsStep p { p with sheets := sheets } := by
        cases hsheets with
        | same h => exact .same h
        | put listed trip presented h => exact .put listed trip presented h
        | cleared h => exact .cleared h
        | opened visible listed trip h => exact .opened visible listed trip h
      exact ⟨rfl, by simp [pushTrip, setFlag], hkept.of_eq rfl rfl, .same rfl halert, .same rfl⟩

theorem mem_of_pop {i : Nat} (h : .dashboard i ∈ p.pop.stack) : .dashboard i ∈ p.stack := by
  simp only [pop] at h
  split at h
  · exact h
  · exact List.mem_of_mem_tail h

/-- A screen that moves on the stack was on it. -/
theorem screens_of_navigation (h : (machine distance).Step p e q) (he : isNavigation e = true) :
    ScreensStep p q e := by
  have hof : StepOf distance p q e := step_inv h
  cases e with
  | showDashboard k =>
    have h' : react distance p (.showDashboard k) = some (.ok q) := h
    simp only [react] at h'
    split at h'
    · rename_i hlisted
      obtain rfl : q = p.showDashboard k := hof
      refine .of_stack rfl (fun i hi => ?_) rfl rfl rfl rfl
      rcases List.mem_cons.mp hi with heq | hrest
      · rw [heq]
        simpa using hlisted.1
      · exact (List.mem_filter.mp hrest).1
    · exact absurd h' (by simp)
  | pushOther =>
    obtain rfl : q = { p with stack := .other :: p.stack } := hof
    exact .of_stack rfl (by simp) rfl rfl rfl rfl
  | popViewController =>
    obtain rfl : q = p.pop := hof
    exact .of_stack rfl (fun _ => mem_of_pop) rfl rfl rfl rfl
  | dismissAlert =>
    obtain rfl : q = { p with alert := none } := hof
    exact .of_sheets rfl rfl (.same rfl) rfl (Or.inr rfl) rfl
  | submitReview k =>
    obtain rfl : q = { p with reviewCalls := p.reviewCalls.issue k } := hof
    exact .of_sheets rfl rfl (.same rfl) rfl (Or.inl rfl) rfl
  | reviewReply call =>
    obtain ⟨k, rfl⟩ := hof
    unfold reviewReply
    split
    · exact .of_stack rfl (fun _ => mem_of_pop (p := { p with reviewCalls := _ })) rfl rfl rfl rfl
    · exact .of_sheets rfl rfl (.same rfl) rfl (Or.inl rfl) rfl
  | app _ | tripStatusReply _ | didUpdateLocations _ | onMessage _ _ _ | lateProviderList _ _ _
  | lateDistance _ _ _ | cancelRequest _ _ | cancelTrip _ | leftBarItemDidTap _
  | btnSubmitPressed _ _ =>
    exact absurd he (by simp [isNavigation])

/-- **What a step does to the screens**, as long as nobody signs in or out. -/
theorem step_screens (h : (machine distance).Step p e q)
    (hentry : ∀ ev, e = .app ev → ClientApp.makesDashboard ev = false ∧ ev ≠ .logout) :
    ScreensStep p q e := by
  have hof : StepOf distance p q e := step_inv h
  cases e with
  | app ev =>
    obtain ⟨hadmits, b, hb, rfl⟩ := hof
    obtain ⟨hmakes, hlogout⟩ := hentry ev rfl
    have honMain : b.onMain = p.app.onMain := ClientApp.step_onMain hb hmakes hlogout
    cases ev with
    | session k ev =>
      obtain ⟨own, s, t, hs, hstep, rfl⟩ := ClientApp.step_inv hb
      exact screens_of_session hadmits hs own hstep
    | signInReply reply => exact absurd hmakes (by simp [ClientApp.makesDashboard])
    | pushDashboard => exact absurd hmakes (by simp [ClientApp.makesDashboard])
    | logout => exact absurd rfl hlogout
    | _ => exact .of_sheets honMain rfl (.same rfl) rfl (Or.inl rfl) rfl
  | tripStatusReply existing =>
    obtain rfl : q = p.tripStatusReply existing := hof
    unfold tripStatusReply
    split
    · exact .of_sheets rfl rfl (.same rfl) rfl (Or.inl rfl) rfl
    · exact .of_sheets rfl rfl (.same rfl) rfl (Or.inl rfl) rfl
  | didUpdateLocations l =>
    cases hof with
    | dashboard _ step after =>
      subst after
      exact .of_sheets (ClientApp.step_onMain step rfl (by simp)) rfl (.same rfl) rfl (Or.inl rfl) rfl
    | sheet _ listed after =>
      subst after
      exact .of_sheets rfl rfl (.of_told l listed rfl) rfl (Or.inl rfl) rfl
    | alert _ listed after =>
      subst after
      exact ⟨rfl, fun _ hi => hi, .same rfl, .told l listed rfl rfl, .same rfl⟩
    | nobody _ after =>
      subst after
      exact .of_sheets rfl rfl (.same rfl) rfl (Or.inl rfl) rfl
  | onMessage socket text inBackground =>
    cases hof with
    | dashboard _ step after =>
      subst after
      exact .of_sheets (ClientApp.step_onMain step rfl (by simp)) rfl (.same rfl) rfl (Or.inl rfl) rfl
    | sheet _ listed handled => exact screens_of_sheet listed handled
    | trip _ _ handled =>
      rcases tripMessage_inv handled with rfl | ⟨_, screen', _, rfl⟩
      · exact .of_sheets rfl rfl (.same rfl) rfl (Or.inl rfl) rfl
      · exact .of_sheets rfl rfl (.same rfl) rfl (Or.inl rfl) rfl
  | lateProviderList k call response =>
    obtain ⟨s, s', _, _, rfl⟩ := hof
    exact .of_sheets rfl rfl (.same rfl) rfl (Or.inl rfl) rfl
  | lateDistance k call values =>
    obtain ⟨s, s', dict, _, _, rfl⟩ := hof
    exact .of_sheets rfl rfl (.same rfl) rfl (Or.inl rfl) rfl
  | cancelRequest j sinceAccepted =>
    obtain ⟨sheet, listed, presented, rfl⟩ := hof
    unfold cancelRequest
    split
    · exact ⟨rfl, fun _ hi => hi, .same rfl, .opened listed presented rfl rfl rfl, .same rfl⟩
    · exact .of_sheets rfl rfl (.same rfl) rfl (Or.inl rfl) rfl
  | cancelTrip j =>
    obtain ⟨sheet, listed, presented, hcancel⟩ := hof
    obtain ⟨socket, frame, ⟨_, names⟩, rfl⟩ := cancelTrip_inv hcancel
    exact ⟨rfl, fun _ hi => hi, .of_dismiss listed rfl, .same rfl (Or.inl rfl),
      .cancelled listed presented names rfl⟩
  | leftBarItemDidTap j =>
    obtain ⟨sheet, listed, _, _, rfl⟩ := hof
    exact .of_sheets rfl rfl (.of_dismiss listed rfl) rfl (Or.inl rfl) rfl
  | btnSubmitPressed noShow dismisses =>
    obtain ⟨m, alert, shown, listed, hsubmit⟩ := hof
    obtain ⟨socket, frame, ⟨_, names⟩, rfl⟩ := btnSubmitPressed_inv hsubmit
    refine ⟨rfl, fun _ hi => hi, ?_, .same rfl (Or.inr rfl),
      .submitted noShow dismisses shown listed names rfl⟩
    cases dismisses with
    | true => exact .cleared rfl
    | false => exact .same rfl
  | showDashboard _ | pushOther | popViewController | dismissAlert | submitReview _
  | reviewReply _ => exact screens_of_navigation h rfl

/-! ## 4. One sheet, one cancel-reason screen, one dashboard -/

/-- A sheet was there, or has the trip of the dashboard that is visible. -/
theorem SheetsStep.at_index (h : SheetsStep p q) {j : Nat} {sheet' : TripProviderDetail}
    (hj : q.sheets[j]? = some sheet') :
    (∃ sheet, p.sheets[j]? = some sheet ∧ sheet'.currentRequest = sheet.currentRequest ∧
        (sheet'.isPresented = true → sheet.isPresented = true)) ∨
      (j = p.sheets.length ∧ ∃ i t, p.isVisible i = true ∧ q.app.sessions[i]? = some t ∧
        sheet'.currentRequest = t.dashboard.currentRequest) := by
  cases h with
  | same h => exact Or.inl ⟨sheet', h ▸ hj, rfl, id⟩
  | @put k sheet sheet'' listed trip presented h =>
    rw [h] at hj
    by_cases hk : k = j
    · subst hk
      have hlt : k < p.sheets.length := (List.getElem?_eq_some_iff.mp listed).1
      rw [List.getElem?_set_self hlt] at hj
      obtain rfl := Option.some.inj hj
      exact Or.inl ⟨sheet, listed, trip, presented⟩
    · rw [List.getElem?_set_ne hk] at hj
      exact Or.inl ⟨sheet', hj, rfl, id⟩
  | cleared h =>
    rw [h, List.getElem?_map] at hj
    obtain ⟨sheet, hsheet, rfl⟩ := Option.map_eq_some_iff.mp hj
    exact Or.inl ⟨sheet, hsheet, rfl, by simp [TripProviderDetail.dismiss]⟩
  | @opened i t sheet visible listed trip h =>
    rw [h, List.getElem?_append] at hj
    split at hj
    · exact Or.inl ⟨sheet', hj, rfl, id⟩
    · have hlt : j - p.sheets.length < 1 := (List.getElem?_eq_some_iff.mp hj).1
      obtain rfl := List.mem_singleton.mp (List.mem_of_getElem? hj)
      exact Or.inr ⟨by omega, i, t, visible, listed, trip⟩

/-- No sheet is ever forgotten. -/
theorem SheetsStep.length_le (h : SheetsStep p q) : p.sheets.length ≤ q.sheets.length := by
  cases h with
  | same h => rw [h]
  | put _ _ _ h => simp [h]
  | cleared h => simp [h]
  | opened _ _ _ h => simp [h]

/-- A cancel-reason screen was there, or has the trip of the sheet below it. -/
theorem AlertsStep.at_index (h : AlertsStep p q) {m : Nat} {alert' : RequestCancelAlert}
    (hm : q.alerts[m]? = some alert') :
    (∃ alert, p.alerts[m]? = some alert ∧ alert'.currentRequest = alert.currentRequest) ∨
      ∃ (j : Nat) (sheet : TripProviderDetail), p.sheets[j]? = some sheet ∧
        sheet.isPresented = true ∧ alert'.currentRequest = sheet.currentRequest := by
  cases h with
  | same h _ => exact Or.inl ⟨alert', h ▸ hm, rfl⟩
  | @told k alert l listed h _ =>
    rw [h] at hm
    by_cases hk : k = m
    · subst hk
      have hlt : k < p.alerts.length := (List.getElem?_eq_some_iff.mp listed).1
      rw [List.getElem?_set_self hlt] at hm
      obtain rfl := Option.some.inj hm
      exact Or.inl ⟨alert, listed, rfl⟩
    · rw [List.getElem?_set_ne hk] at hm
      exact Or.inl ⟨alert', hm, rfl⟩
  | @opened j sheet alert listed presented trip h _ =>
    rw [h, List.getElem?_append] at hm
    split at hm
    · exact Or.inl ⟨alert', hm, rfl⟩
    · obtain rfl := List.mem_singleton.mp (List.mem_of_getElem? hm)
      exact Or.inr ⟨j, sheet, listed, presented, trip⟩

/-- What is on screen was, or has just been opened over a sheet. -/
theorem AlertsStep.shown (h : AlertsStep p q) {m : Nat} (hm : q.alert = some m) :
    p.alert = some m ∨ (m = p.alerts.length ∧ ∃ (j : Nat) (sheet : TripProviderDetail),
      p.sheets[j]? = some sheet ∧ sheet.isPresented = true) := by
  cases h with
  | same _ alert =>
    rcases alert with hsame | hnone
    · exact Or.inl (hsame ▸ hm)
    · exact absurd (hm.symm.trans hnone) (by simp)
  | told _ _ _ alert => exact Or.inl (alert ▸ hm)
  | @opened j sheet _ listed presented _ _ alert =>
    exact Or.inr ⟨Option.some.inj (hm.symm.trans alert), j, sheet, listed, presented⟩

theorem AlertsStep.length_le (h : AlertsStep p q) : p.alerts.length ≤ q.alerts.length := by
  cases h with
  | same h _ => rw [h]
  | told _ _ h _ => simp [h]
  | opened _ _ _ h _ => simp [h]

/-- No dashboard is ever forgotten. -/
theorem sessions_length_le (h : (machine distance).Step p e q) :
    p.app.sessions.length ≤ q.app.sessions.length := by
  by_contra hlt
  have hin : q.app.sessions.length < p.app.sessions.length := by omega
  obtain ⟨t, ht⟩ := (step_delegates h).stays (List.getElem?_eq_getElem hin)
  have hlt' : q.app.sessions.length < q.app.sessions.length := (List.getElem?_eq_some_iff.mp ht).1
  omega

/-- What a dashboard has passed on by the step. -/
inductive Told (p : ClientPhone) (i : Nat) (t : ClientSession) : ClientPhoneEvent → Prop where
  | same {e : ClientPhoneEvent} {s : ClientSession} (listed : p.app.sessions[i]? = some s)
      (h : t.frames = s.frames) : Told p i t e
  | told (call : Nat) {s : ClientSession} {frame : CancelFrame}
      (listed : p.app.sessions[i]? = some s)
      (id : p.app.device.userID .clientApp = .ok frame.clientId)
      (h : t.frames = s.frames ++ [frame]) : Told p i t (.app (.session i (.cancelReply call true)))
  | fresh {e : ClientPhoneEvent} (new : p.app.sessions[i]? = none) (h : t.frames = []) : Told p i t e

theorem step_told (hstep : (machine distance).Step p e q) {i : Nat} {t : ClientSession}
    (ht : q.app.sessions[i]? = some t) : Told p i t e := by
  cases step_session hstep ht with
  | alike listed same => exact .same listed same.frames
  | fresh _ _ number new =>
    subst number new
    exact .fresh (by simp) rfl
  | moved listed asks step =>
    cases ClientSession.step_move step rfl asks.ne_elsewhere with
    | told call frame id _ h =>
      cases asks with
      | app _ _ _ => exact .told call listed id (congrArg Face.frames h)
    | quiet _ h => exact .same listed (congrArg Face.frames h)
    | located _ h => exact .same listed (congrArg Face.frames h)
    | listed _ _ _ h => exact .same listed (congrArg Face.frames h)
    | resumedSheet _ _ _ _ _ _ _ h => exact .same listed (congrArg Face.frames h)
    | resumedTrip _ _ _ _ _ _ _ h => exact .same listed (congrArg Face.frames h)
    | posted _ _ _ _ h => exact .same listed (congrArg Face.frames h)
    | connected _ _ h => exact .same listed (congrArg Face.frames h)
    | withdrawn _ _ h => exact .same listed (congrArg Face.frames h)
    | entered _ _ _ h => exact .same listed (congrArg Face.frames h)

end ClientPhone

end WeatherAccommodation
