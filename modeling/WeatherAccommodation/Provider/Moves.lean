/-
# What a step does to one dashboard, to the sheets, and to the frames

`DashboardMove` is `StepOf` as one dashboard sees it: which handlers of its own an event can run,
with what each leaves behind.  A law about a variable of the dashboard is a case split over these
moves, and most of them do not touch the variable.  `SheetsStep`, `FramesStep` and `SocketsStep` do
the same for the client-detail sheets, for what is written on sockets, and for who listens.
-/
import WeatherAccommodation.Provider.Steps

namespace WeatherAccommodation

open Foundation Reactive

namespace ProviderApp

/-! ## 1. Dashboards -/

variable {distance : CLLocation → CLLocation → ℚ} {a b : ProviderApp}

/-- The event brings a request to the dashboard with number `i`. -/
def Speaks (a : ProviderApp) (i : Nat) : ProviderEvent → Prop
  | .willEnterForeground j => j = i ∧ a.device.appDelegate.showRequestUI = true
  | .onMessage socket _ _ _ =>
    a.sockets.delegate = some (.dashboard i) ∧ a.sockets.providerConnectionSocket = some socket
  | _ => False

/-- What the event does to the dashboard `d` with number `i`. -/
inductive DashboardMove (distance : CLLocation → CLLocation → ℚ) (a : ProviderApp) (i : Nat)
    (d : ProviderDashboard) : ProviderEvent → ProviderDashboard → Prop where
  | stay {e : ProviderEvent} (quiet : ¬Speaks a i e) : DashboardMove distance a i d e d
  | appear : DashboardMove distance a i d (.viewWillAppear i) d.clearTrip
  | foreground {d' : ProviderDashboard} (flag : a.device.appDelegate.showRequestUI = true)
      (shown : d.showRequestUI d.requestDetail = .ok d') :
      DashboardMove distance a i d (.willEnterForeground i) d'
  | decline : DashboardMove distance a i d (.btnCancelRequest i) d.cancelRequest
  | accept (shown : d.requestViewIsHidden = false) :
      DashboardMove distance a i d (.btnAcceptRequest i) d.hideRequest
  | switch (isOn on valid : Bool) : DashboardMove distance a i d (.switchValueChanged i isOn)
      { d with swchStatusIsOn := on, timerIsValid := valid }
  | ring : DashboardMove distance a i d (.timerViewFinished i) d.timerViewFinished
  | directions (call : Nat) (success marked : Bool)
      (waiting : d.directionsCalls.waiting call = some ()) :
      DashboardMove distance a i d (.directionsReply i call success)
        { answered d call with hasMarkers := marked }
  | location {l : CLLocation} {d' : ProviderDashboard}
      (delegate : a.locationDelegate = some (.dashboard i))
      (told : d.tracingLocation distance l = .ok d') :
      DashboardMove distance a i d (.tracingLocation l) d'
  | disconnect (code : Option Int) :
      DashboardMove distance a i d (.onDisconnect code) d.invalidateTimer
  | status {socket selectedIndex : Nat} {text : Message} {state : ApplicationState}
      {d' : ProviderDashboard} (delegate : a.sockets.delegate = some (.dashboard i))
      (listens : a.sockets.providerConnectionSocket = some socket)
      (handled : d.providerMessage text state selectedIndex = .ok d') :
      DashboardMove distance a i d (.onMessage socket text state selectedIndex) d'
  | request {socket selectedIndex : Nat} {text : Message} {state : ApplicationState}
      {d' : ProviderDashboard} (delegate : a.sockets.delegate = some (.dashboard i))
      (other : a.sockets.providerConnectionSocket ≠ some socket)
      (listens : a.sockets.clientproviderRequestSocket = some socket)
      (handled : d.requestMessage text = .ok d') :
      DashboardMove distance a i d (.onMessage socket text state selectedIndex) d'

/-- Only a report changes the location, and only the switch itself the switch. -/
theorem DashboardMove.frame {i : Nat} {d d' : ProviderDashboard} {e : ProviderEvent}
    (h : DashboardMove distance a i d e d') :
    (d'.location = d.location ∨ ∃ l, e = .tracingLocation l) ∧
      (d'.swchStatusIsOn = d.swchStatusIsOn ∨ ∃ isOn, e = .switchValueChanged i isOn) := by
  have hsame : d'.location = d.location → d'.swchStatusIsOn = d.swchStatusIsOn →
      (d'.location = d.location ∨ ∃ l, e = .tracingLocation l) ∧
        (d'.swchStatusIsOn = d.swchStatusIsOn ∨ ∃ isOn, e = .switchValueChanged i isOn) :=
    fun hlocation hswitch => ⟨Or.inl hlocation, Or.inl hswitch⟩
  cases h with
  | stay _ => exact hsame rfl rfl
  | appear =>
    unfold ProviderDashboard.clearTrip
    split
    · exact ⟨Or.inl rfl, Or.inl rfl⟩
    · exact ⟨Or.inl rfl, Or.inl rfl⟩
  | foreground _ shown =>
    obtain ⟨_, _, _, _, rfl⟩ := ProviderDashboard.showRequestUI_frame shown
    exact hsame rfl rfl
  | decline => exact hsame rfl rfl
  | accept _ => exact hsame rfl rfl
  | switch isOn _ _ => exact ⟨Or.inl rfl, Or.inr ⟨isOn, rfl⟩⟩
  | ring => exact hsame rfl rfl
  | directions _ _ _ _ => exact hsame rfl rfl
  | @location l _ _ told =>
    obtain ⟨_, rfl⟩ := ProviderDashboard.tracingLocation_inv told
    exact ⟨Or.inr ⟨l, rfl⟩, Or.inl rfl⟩
  | disconnect _ => exact hsame rfl rfl
  | status _ _ handled =>
    obtain ⟨_, _, _, _, _, rfl⟩ := ProviderDashboard.providerMessage_frame handled
    exact hsame rfl rfl
  | request _ _ _ handled =>
    rcases ProviderDashboard.requestMessage_inv handled with rfl | ⟨_, _, rfl⟩
    · exact hsame rfl rfl
    · exact hsame rfl rfl

/-- What the event does to the list: nothing, or a move of one dashboard, or one more. -/
inductive DashboardsStep (distance : CLLocation → CLLocation → ℚ) (a b : ProviderApp)
    (e : ProviderEvent) : Prop where
  | same (quiet : ∀ i, ¬Speaks a i e) (h : b.dashboards = a.dashboards)
  | one {j : Nat} {d d' : ProviderDashboard} (listed : a.dashboards[j]? = some d)
      (move : DashboardMove distance a j d e d') (quiet : ∀ i, i ≠ j → ¬Speaks a i e)
      (h : b.dashboards = a.dashboards.set j d')
  | more (event : e = .viewDidLoad) (trip : Option Dict)
      (h : b.dashboards = a.dashboards ++ [{ currentAcceptedRequest := trip }])

/-- **Every step is a move of at most one dashboard, or makes a fresh one.** -/
theorem step_dashboards {e : ProviderEvent} (h : (machine distance).Step a e b) :
    DashboardsStep distance a b e := by
  have hof : StepOf distance a b e := step_inv h
  cases e with
  | viewDidLoad =>
    rcases viewDidLoad_inv hof with rfl | ⟨trip, clientId, _, _, _, rfl⟩
    · exact .more rfl none rfl
    · exact .more rfl (some trip) rfl
  | viewWillAppear i =>
    obtain ⟨d, hd, rfl⟩ := hof
    exact .one hd .appear (fun _ _ => id) rfl
  | willEnterForeground i =>
    obtain ⟨d, hd, hof⟩ := hof
    unfold willEnterForeground at hof
    split at hof
    · rename_i hflag
      simp only [bind_eq_ok, pure_eq_ok] at hof
      obtain ⟨d', hd', rfl⟩ := hof
      exact .one hd (.foreground hflag hd') (fun _ hne hspeaks => hne hspeaks.1.symm) rfl
    · rename_i hflag
      rw [pure_eq_ok] at hof
      exact .same (fun _ hspeaks => hflag hspeaks.2) (by rw [hof])
  | btnCancelRequest i =>
    obtain ⟨d, hd, _, rfl⟩ := hof
    exact .one hd .decline (fun _ _ => id) rfl
  | btnAcceptRequest i =>
    obtain ⟨d, hd, hshown, hof⟩ := hof
    obtain ⟨_, clientId, _, _, rfl⟩ := btnAcceptRequest_inv hof
    exact .one hd (.accept hshown) (fun _ _ => id) rfl
  | switchValueChanged i isOn =>
    obtain ⟨d, hd, hof⟩ := hof
    rcases switchValueChanged_inv hof with ⟨valid, rfl⟩ | ⟨providerId, rfl⟩
    · exact .one hd (.switch isOn false valid) (fun _ _ => id) rfl
    · exact .one hd (.switch isOn isOn d.timerIsValid) (fun _ _ => id) rfl
  | timerViewFinished i =>
    obtain ⟨d, hd, rfl⟩ := hof
    exact .one hd .ring (fun _ _ => id) rfl
  | directionsReply i call success =>
    obtain ⟨d, hd, hwaiting, hof⟩ := hof
    rcases directionsReply_inv hof with ⟨_, rfl⟩ | ⟨_, _, _, _, _, rfl⟩
    · exact .one hd (.directions call success d.hasMarkers hwaiting) (fun _ _ => id) rfl
    · exact .one hd (.directions call success true hwaiting) (fun _ _ => id) rfl
  | tracingLocation l =>
    rcases hof with ⟨i, d, d', hdelegate, hd, hd', rfl⟩ | ⟨j, sheet, _, rfl⟩
    · exact .one hd (.location hdelegate hd') (fun _ _ => id) rfl
    · exact .same (fun _ => id) rfl
  | onDisconnect code =>
    obtain ⟨i, d, _, hd, hof⟩ := hof
    rcases dashboardDisconnect_inv hof with rfl | ⟨_, rfl⟩ | rfl
    · exact .same (fun _ => id) rfl
    · exact .same (fun _ => id) rfl
    · exact .one hd (.disconnect code) (fun _ _ => id) rfl
  | onMessage socket text state selectedIndex =>
    obtain ⟨_, ⟨i, d, hdelegate, hd, hof⟩ | ⟨j, sheet, hdelegate, _, hof⟩⟩ := hof
    · unfold dashboardMessage at hof
      split at hof
      · rename_i hstatus
        simp only [bind_eq_ok, pure_eq_ok] at hof
        obtain ⟨d', hd', rfl⟩ := hof
        refine .one hd (.status hdelegate hstatus hd') (fun k hne hspeaks => hne ?_) rfl
        simpa using (hspeaks.1.symm.trans hdelegate)
      · rename_i hother
        split at hof
        · rename_i hrequest
          simp only [bind_eq_ok, pure_eq_ok] at hof
          obtain ⟨d', hd', rfl⟩ := hof
          exact .one hd (.request hdelegate hother hrequest hd')
            (fun _ _ hspeaks => hother hspeaks.2) rfl
        · rw [pure_eq_ok] at hof
          exact .same (fun _ hspeaks => hother hspeaks.2) (by rw [hof])
    · have hquiet : ∀ i, ¬Speaks a i (.onMessage socket text state selectedIndex) := by
        rintro i ⟨hspeaks, _⟩
        rw [hdelegate] at hspeaks
        exact absurd hspeaks (by simp)
      rcases sheetMessage_inv hof with rfl | rfl | rfl
      · exact .same hquiet rfl
      · exact .same hquiet rfl
      · exact .same hquiet rfl
  | _ => exact .same (fun _ => id) ((step_spares h).dashboards.resolve_left (by simp [touches]))

namespace DashboardsStep

variable {e : ProviderEvent}

/-- No dashboard goes away. -/
theorem length_le (h : DashboardsStep distance a b e) : a.dashboards.length ≤ b.dashboards.length := by
  cases h with
  | same _ h => rw [h]
  | one _ _ _ h => simp [h]
  | more _ _ h => simp [h]

/-- What became of one dashboard. -/
theorem at_index (h : DashboardsStep distance a b e) {i : Nat} {d' : ProviderDashboard}
    (hd' : b.dashboards[i]? = some d') :
    (∃ d, a.dashboards[i]? = some d ∧ DashboardMove distance a i d e d') ∨
      (e = .viewDidLoad ∧ i = a.dashboards.length ∧
        ∃ trip, d' = { currentAcceptedRequest := trip }) := by
  cases h with
  | same quiet h =>
    rw [h] at hd'
    exact Or.inl ⟨d', hd', .stay (quiet i)⟩
  | @one j d d₁ listed move quiet h =>
    rw [h, List.getElem?_set] at hd'
    split at hd'
    · rename_i hji
      subst hji
      split at hd'
      · obtain rfl := Option.some.inj hd'
        exact Or.inl ⟨d, listed, move⟩
      · exact absurd hd' (by simp)
    · rename_i hji
      exact Or.inl ⟨d', hd', .stay (quiet i fun heq => hji heq.symm)⟩
  | more event trip h =>
    rw [h, List.getElem?_append] at hd'
    subst event
    split at hd'
    · exact Or.inl ⟨d', hd', .stay id⟩
    · rename_i hge
      have hi : i - a.dashboards.length < 1 := (List.getElem?_eq_some_iff.mp hd').1
      obtain rfl := List.mem_singleton.mp (List.mem_of_getElem? hd')
      exact Or.inr ⟨rfl, by omega, trip, rfl⟩

end DashboardsStep

/-! ## 2. Sheets -/

/-- A text that closes the sheet. -/
def isCancellation : Message → Bool
  | some (.obj dict) => Dict.string? dict "RequestType" == some Trip_Status.cancelled
  | _ => false

theorem requestMessage_dismisses {sheet sheet' : ClientDetailSheet} {text : Message}
    (h : sheet.requestMessage text = .ok sheet') :
    sheet' = sheet ∨ (isCancellation text = true ∧ sheet' = sheet.dismiss) := by
  simp only [ClientDetailSheet.requestMessage, bind_eq_ok] at h
  obtain ⟨o, ho, h⟩ := h
  cases o with
  | none =>
    rw [pure_eq_ok] at h
    exact Or.inl h.symm
  | some dict =>
    simp only [bind_eq_ok] at h
    obtain ⟨cancelled, hcancelled, h⟩ := h
    split at h
    · rename_i hyes
      rw [hyes] at hcancelled
      rw [pure_eq_ok] at h
      obtain rfl := eq_obj_of_messageDict ho
      exact Or.inr ⟨by simp [isCancellation, hasText_eq_true.mp hcancelled], h.symm⟩
    · rw [pure_eq_ok] at h
      exact Or.inl h.symm

/-- Why the app takes the sheet with number `j` off screen. -/
inductive Dismissal (a : ProviderApp) (j : Nat) : ProviderEvent → Prop where
  | message {socket selectedIndex : Nat} {text : Message} {state : ApplicationState}
      (delegate : a.sockets.delegate = some (.clientDetail j))
      (listens : a.sockets.clientproviderRequestSocket = some socket)
      (cancelled : isCancellation text = true) :
      Dismissal a j (.onMessage socket text state selectedIndex)
  | code (text : String) : Dismissal a j (.textFieldEditingChanged j text)
  | cancelled (reason : String) : Dismissal a j (.cancelTrip j reason)

/-- What the event does to the sheets. -/
inductive SheetsStep (a b : ProviderApp) (e : ProviderEvent) : Prop where
  | same (h : b.sheets = a.sheets)
  | told {j : Nat} {sheet : ClientDetailSheet} {l : CLLocation} (event : e = .tracingLocation l)
      (listed : a.sheets[j]? = some sheet)
      (h : b.sheets = a.sheets.set j (sheet.tracingLocation l))
  | dismissed {j : Nat} {sheet : ClientDetailSheet} (event : Dismissal a j e)
      (listed : a.sheets[j]? = some sheet) (h : b.sheets = a.sheets.set j sheet.dismiss)
  | opened {i call : Nat} {d : ProviderDashboard} {trip : Dict} {here : CLLocation}
      (event : e = .directionsReply i call true) (listed : a.dashboards[i]? = some d)
      (accepted : d.currentAcceptedRequest = some trip) (location : d.location = some here)
      (h : b.sheets = a.sheets ++ [{ currentRequest := trip, clientLocation := here }])

/-- **Every step touches one sheet at most, or opens one.** -/
theorem step_sheets {e : ProviderEvent} (h : (machine distance).Step a e b) : SheetsStep a b e := by
  have hof : StepOf distance a b e := step_inv h
  cases e with
  | directionsReply i call success =>
    obtain ⟨d, hd, _, hof⟩ := hof
    rcases directionsReply_inv hof with ⟨_, rfl⟩ | ⟨trip, here, rfl, htrip, hhere, rfl⟩
    · exact .same rfl
    · exact .opened rfl hd htrip hhere rfl
  | tracingLocation l =>
    rcases hof with ⟨i, d, d', _, _, _, rfl⟩ | ⟨j, sheet, hsheet, rfl⟩
    · exact .same rfl
    · exact .told rfl hsheet rfl
  | onMessage socket text state selectedIndex =>
    obtain ⟨_, ⟨i, d, _, _, hof⟩ | ⟨j, sheet, hdelegate, hsheet, hof⟩⟩ := hof
    · rcases dashboardMessage_inv hof with ⟨_, _, _, rfl⟩ | ⟨_, _, _, rfl⟩ | rfl
      · exact .same rfl
      · exact .same rfl
      · exact .same rfl
    · unfold sheetMessage at hof
      split at hof
      · rename_i hsocket
        simp only [bind_eq_ok, pure_eq_ok] at hof
        obtain ⟨sheet', hmessage, rfl⟩ := hof
        rcases requestMessage_dismisses hmessage with rfl | ⟨hcancelled, rfl⟩
        · obtain ⟨hj, rfl⟩ := List.getElem?_eq_some_iff.mp hsheet
          exact .same (List.set_getElem_self hj)
        · exact .dismissed (.message hdelegate hsocket hcancelled) hsheet rfl
      · rw [pure_eq_ok] at hof
        exact .same (by rw [hof])
  | textFieldEditingChanged j text =>
    obtain ⟨sheet, hsheet, _, hof⟩ := hof
    rcases textFieldEditingChanged_inv hof with rfl | ⟨_, _, _, _, rfl⟩
    · exact .same rfl
    · exact .dismissed (.code text) hsheet rfl
  | cancelTrip j reason =>
    obtain ⟨sheet, hsheet, hof⟩ := hof
    obtain ⟨_, _, _, _, _, rfl⟩ := cancelTrip_inv hof
    exact .dismissed (.cancelled reason) hsheet rfl
  | _ => exact .same ((step_spares h).sheets.resolve_left (by simp [touches]))

/-! ## 3. Frames -/

/-- The frame that an event writes, and from whose data. -/
inductive Writes (a : ProviderApp) : ProviderEvent → Nat → ProviderFrame → Prop where
  | located {i socket : Nat} {d : ProviderDashboard} {clientId : Json} {providerId : Int}
      (listed : a.dashboards[i]? = some d) (valid : d.timerIsValid = true)
      (id : a.device.userID .providerApp = .ok providerId) :
      Writes a (.timerFired i) socket (.locationUpdated clientId providerId d.location)
  | accepted {i socket : Nat} {d : ProviderDashboard} {clientId : Json} {providerId : Int}
      (delegate : a.sockets.delegate = some (.dashboard i))
      (listed : a.dashboards[i]? = some d)
      (listens : a.sockets.clientproviderRequestSocket = some socket)
      (id : a.device.userID .providerApp = .ok providerId) :
      Writes a (.onConnect socket) socket (.accepted clientId providerId d.location)
  | reached {j socket : Nat} {sheet : ClientDetailSheet} {text : String} {tripId : Json}
      (listed : a.sheets[j]? = some sheet)
      (trip : Dict.get? sheet.currentRequest "TripId" = some tripId) :
      Writes a (.textFieldEditingChanged j text) socket (.reached tripId)
  | cancelled {j socket : Nat} {sheet : ClientDetailSheet} {reason : String}
      {clientId tripId providerId : Json} (listed : a.sheets[j]? = some sheet)
      (client : Dict.get? sheet.currentRequest "ClientId" = some clientId)
      (trip : Dict.get? sheet.currentRequest "TripId" = some tripId)
      (provider : Dict.get? sheet.currentRequest "ProviderId" = some providerId) :
      Writes a (.cancelTrip j reason) socket
        (.cancelled clientId tripId providerId sheet.clientLocation reason)

/-- What the event does to the frames. -/
inductive FramesStep (a b : ProviderApp) (e : ProviderEvent) : Prop where
  | same (h : b.frames = a.frames)
  | one {socket : Nat} {frame : ProviderFrame} (writes : Writes a e socket frame)
      (h : b.frames = a.frames ++ [(socket, frame)])

/-- **Every step writes one frame at most.** -/
theorem step_frames {e : ProviderEvent} (h : (machine distance).Step a e b) : FramesStep a b e := by
  have hof : StepOf distance a b e := step_inv h
  cases e with
  | timerFired i =>
    obtain ⟨d, hd, hvalid, hof⟩ := hof
    obtain ⟨socket, clientId, providerId, ⟨_, hid, _⟩, rfl⟩ := timerFired_inv hof
    exact .one (.located hd hvalid hid) rfl
  | onConnect socket =>
    obtain ⟨_, _, rfl | ⟨i, d, hdelegate, hd, hof⟩⟩ := hof
    · exact .same rfl
    · rcases dashboardConnect_inv hof with
        ⟨_, rfl⟩ | ⟨_, clientId, providerId, hsocket, _, _, hid, rfl⟩
      · exact .same rfl
      · exact .one (.accepted hdelegate hd hsocket hid) rfl
  | textFieldEditingChanged j text =>
    obtain ⟨sheet, hsheet, _, hof⟩ := hof
    rcases textFieldEditingChanged_inv hof with rfl | ⟨socket, tripId, _, htrip, rfl⟩
    · exact .same rfl
    · exact .one (.reached hsheet htrip) rfl
  | cancelTrip j reason =>
    obtain ⟨sheet, hsheet, hof⟩ := hof
    obtain ⟨socket, _, _, _, ⟨_, hclient, htrip, hprovider⟩, rfl⟩ := cancelTrip_inv hof
    exact .one (.cancelled hsheet hclient htrip hprovider) rfl
  | _ => exact .same ((step_spares h).frames.resolve_left (by simp [touches]))

/-! ## 4. The sockets -/

/-- Who listens, on which status socket, and which sockets have connected, stays as it is. -/
structure SocketsKept (a b : ProviderApp) : Prop where
  delegate : b.sockets.delegate = a.sockets.delegate
  status : b.sockets.providerConnectionSocket = a.sockets.providerConnectionSocket
  connected : b.connected = a.connected

/-- Equal sockets are kept. -/
theorem SocketsKept.of_eq (hsockets : b.sockets = a.sockets) (h : b.connected = a.connected) :
    SocketsKept a b := by
  constructor
  · rw [hsockets]
  · rw [hsockets]
  · exact h

/-- What the event does to the sockets. -/
inductive SocketsStep (a b : ProviderApp) (e : ProviderEvent) : Prop where
  | kept (h : SocketsKept a b)
  | connected {socket : Nat} (event : e = .onConnect socket)
      (same : b.sockets = a.sockets)
      (h : b.connected = a.connected ++ [socket])
  | online {i : Nat} (event : (∃ isOn, e = .switchValueChanged i isOn) ∨
        a.sockets.delegate = some (.dashboard i))
      (delegate : b.sockets.delegate = some (.dashboard i))
      (status : b.sockets.providerConnectionSocket = some a.sockets.sockets.length)
      (same : b.connected = a.connected)
  | sheet {i call : Nat} (event : e = .directionsReply i call true)
      (presented : b.sheets.any ClientDetailSheet.isPresented = true)
      (delegate : b.sockets.delegate = some (.clientDetail a.sheets.length))
      (status : b.sockets.providerConnectionSocket = a.sockets.providerConnectionSocket)
      (same : b.connected = a.connected)

/-- A dashboard goes online on a fresh status socket. -/
theorem SocketsStep.of_activate {e : ProviderEvent} {i : Nat} {providerId : Int}
    (event : (∃ isOn, e = .switchValueChanged i isOn) ∨ a.sockets.delegate = some (.dashboard i)) :
    SocketsStep a (a.activate i providerId) e := by
  exact .online event rfl rfl rfl

/-- **Every step opens a status socket, hands the delegate to a sheet, notes a connection, or
leaves all that as it is.** -/
theorem step_sockets {e : ProviderEvent} (h : (machine distance).Step a e b) :
    SocketsStep a b e := by
  have hof : StepOf distance a b e := step_inv h
  cases e with
  | viewDidLoad =>
    rcases viewDidLoad_inv hof with rfl | ⟨trip, clientId, _, _, _, rfl⟩
    · exact .kept (.of_eq rfl rfl)
    · exact .kept ⟨rfl, rfl, rfl⟩
  | btnAcceptRequest i =>
    obtain ⟨d, _, _, hof⟩ := hof
    obtain ⟨_, clientId, _, _, rfl⟩ := btnAcceptRequest_inv hof
    exact .kept ⟨rfl, rfl, rfl⟩
  | switchValueChanged i isOn =>
    obtain ⟨d, _, hof⟩ := hof
    rcases switchValueChanged_inv hof with ⟨valid, rfl⟩ | ⟨providerId, rfl⟩
    · exact .kept (.of_eq rfl rfl)
    · exact .online (Or.inl ⟨isOn, rfl⟩) rfl rfl rfl
  | directionsReply i call success =>
    obtain ⟨d, _, _, hof⟩ := hof
    rcases directionsReply_inv hof with ⟨_, rfl⟩ | ⟨_, _, rfl, _, _, rfl⟩
    · exact .kept (.of_eq rfl rfl)
    · exact .sheet rfl (by simp [presentSheet]) rfl rfl rfl
  | onConnect socket =>
    obtain ⟨_, _, rfl | ⟨i, d, _, _, hof⟩⟩ := hof
    · exact .connected rfl rfl rfl
    · rcases dashboardConnect_inv hof with ⟨_, rfl⟩ | ⟨_, _, _, _, _, _, _, rfl⟩
      · exact .connected rfl rfl rfl
      · exact .connected rfl rfl rfl
  | onDisconnect code =>
    obtain ⟨i, d, hdelegate, _, hof⟩ := hof
    rcases dashboardDisconnect_inv hof with rfl | ⟨_, rfl⟩ | rfl
    · exact .kept (.of_eq rfl rfl)
    · exact .of_activate (Or.inr hdelegate)
    · exact .kept (.of_eq rfl rfl)
  | _ =>
    exact .kept (.of_eq ((step_spares h).sockets.resolve_left (by simp [touches]))
      ((step_spares h).connected.resolve_left (by simp [touches])))

/-! ## 5. The device -/

/-- The edit makes the field of the sheet equal to its code. -/
def typesCode (a : ProviderApp) : ProviderEvent → Bool
  | .textFieldEditingChanged j text => a.sheets[j]?.any fun sheet => sheet.acceptsEdit text
  | _ => false

/-- The server has answered that there is a trip. -/
def reports : ProviderEvent → Option Dict
  | .tripStatusReply existing => existing
  | _ => none

/-- What the event does to `doesRequestExist`. -/
inductive FlagStep (a b : ProviderApp) (e : ProviderEvent) : Prop where
  | kept (noReport : reports e = none) (noCode : a.typesCode e = false)
      (flag : b.device.appDelegate.doesRequestExist = a.device.appDelegate.doesRequestExist)
  | reported {trip : Dict} (event : e = .tripStatusReply (some trip))
      (flag : b.device.appDelegate.doesRequestExist = true)
  | released (event : a.typesCode e = true)
      (flag : b.device.appDelegate.doesRequestExist = false)

/-- An app on the same device. -/
theorem same_device {e : ProviderEvent} (h : b.device = a.device)
    (noReport : reports e = none) (noCode : a.typesCode e = false) :
    b.device.defaults = a.device.defaults ∧ FlagStep a b e := by
  rw [h]
  exact ⟨rfl, .kept noReport noCode (by rw [h])⟩

/-- **The app never writes `UserDefaults`, and the flag is set by the answer of the server and
cleared by a code.** -/
theorem step_device {e : ProviderEvent} (h : (machine distance).Step a e b) :
    b.device.defaults = a.device.defaults ∧ FlagStep a b e := by
  have hof : StepOf distance a b e := step_inv h
  cases e with
  | tripStatusReply existing =>
    obtain rfl : b = a.tripStatusReply existing := hof
    cases existing with
    | none => exact same_device rfl rfl rfl
    | some trip => exact ⟨rfl, .reported rfl rfl⟩
  | notificationTapped =>
    obtain rfl : b = a.notificationTapped := hof
    exact ⟨rfl, .kept rfl rfl rfl⟩
  | textFieldEditingChanged j text =>
    obtain ⟨sheet, hsheet, _, hof⟩ := hof
    by_cases haccept : sheet.acceptsEdit text = true
    · have htypes : a.typesCode (.textFieldEditingChanged j text) = true := by
        simpa [typesCode, hsheet] using haccept
      simp only [textFieldEditingChanged, if_pos haccept, bind_eq_ok, pure_eq_ok] at hof
      obtain ⟨_, _, _, _, c, hpush, rfl⟩ := hof
      obtain rfl := pushStartTrip_inv hpush
      exact ⟨rfl, .released htypes rfl⟩
    · have htypes : a.typesCode (.textFieldEditingChanged j text) = false := by
        simpa [typesCode, hsheet] using haccept
      simp only [textFieldEditingChanged, if_neg haccept, pure_eq_ok] at hof
      subst hof
      exact same_device rfl rfl htypes
  | _ => exact same_device ((step_spares h).device.resolve_left (by simp [touches])) rfl rfl

end ProviderApp

end WeatherAccommodation
