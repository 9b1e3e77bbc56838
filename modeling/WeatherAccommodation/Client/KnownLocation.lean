/-
# The client's location is known wherever it is used

`clientLocation` is an implicitly unwrapped optional, and six of the dashboard's handlers read it:
the loaded list and the status pings measure from it, the sheet, the distance calls and both posts
carry it.  Only the posts are behind a test of it, and of those only the request.

What protects the others is the order in which the dashboard lets the outside world in.  The first
report of a location asks for the list, the loaded list makes the dashboard the socket's delegate,
and everything else comes after: no message without the delegate, no distance call without a
message, no overlay to cancel on without a request.  A dashboard that was told nothing yet is
`Idle`: nothing that reads the location can call it.

`location_known` is the law over all runs, and `never_unlocated` what it comes to.
-/
import WeatherAccommodation.Client.Reach

namespace WeatherAccommodation

open Foundation Reactive

/-! ## 1. Handlers that do not miss the location -/

/-- The fault of a handler that reads the location before it is set. -/
abbrev IsUnlocated (fault : Trap) : Prop := fault = .clientLocation

theorem spares_isUnlocated : SparesData IsUnlocated where
  badCast _ := by simp
  notANumber _ := by simp
  notAnObject := by simp

namespace ClientDashboard

variable {distance : CLLocation → CLLocation → ℚ} {d : ClientDashboard}

/-- A report of the location has arrived. -/
abbrev IsLocated (d : ClientDashboard) : Prop := d.clientLocation.isSome = true

theorem avoids_clientLocation (h : d.IsLocated) :
    Avoids IsUnlocated (unwrap .clientLocation d.clientLocation) := by
  refine avoids_unwrap fun hnone => ?_
  rw [IsLocated, hnone] at h
  exact absurd h (by simp)

theorem avoids_appendIfReachable (h : d.IsLocated) (p : Provider) :
    Avoids IsUnlocated (d.appendIfReachable distance p) := by
  refine (spares_isUnlocated.forceLocation _ _).bind fun l _ => ?_
  refine Avoids.bind ?_ fun near _ => avoids_ite (fun _ => avoids_pure _) fun _ => avoids_pure _
  exact (avoids_clientLocation h).bind fun _ _ => avoids_pure _

/-- Removing a provider reads no location. -/
theorem avoids_providerDisconnected (p : Provider) :
    Avoids IsUnlocated (d.providerDisconnected p) := by
  refine avoids_ite (fun _ => Avoids.bind ?_ fun _ _ => avoids_pure _) fun _ => avoids_pure _
  intro fault hfault
  rw [eq_of_eraseEnumerated_eq_error hfault]
  simp

theorem avoids_pingReceived (h : d.IsLocated) (text : Message) :
    Avoids IsUnlocated (d.pingReceived distance text) := by
  refine (spares_isUnlocated.messageDict text).bind fun o _ => ?_
  cases o with
  | none => exact avoids_pure _
  | some dict =>
    refine avoids_ite (fun _ => ?_) fun _ => avoids_providerDisconnected _
    exact avoids_ite (fun _ => avoids_pure _) fun _ => avoids_appendIfReachable h _

/-- The loop moves nothing, so every round finds the location it began with. -/
theorem avoids_appendOnlineProviders (h : d.IsLocated) (items : List Json) :
    Avoids IsUnlocated (appendOnlineProviders distance items d) := by
  induction items generalizing d with
  | nil => exact avoids_ok _
  | cons item items ih =>
    refine Avoids.bind (avoids_unwrap fun _ => by simp) fun dict _ => ?_
    refine (avoids_appendIfReachable h _).bind fun d' hone => ih ?_
    obtain ⟨ps, ms, rfl⟩ := appendIfReachable_frame hone
    exact h

theorem avoids_setSnippets {providerId : Except Trap Int} {snippet : Except Trap String}
    (hid : Avoids IsUnlocated providerId) (htext : Avoids IsUnlocated snippet)
    (providers : List Provider) (i : Nat) (markers : List Marker) :
    Avoids IsUnlocated (setSnippets providerId snippet providers i markers) := by
  induction providers generalizing i markers with
  | nil => exact avoids_ok _
  | cons p providers ih =>
    refine hid.bind fun id _ => avoids_ite (fun _ => ?_) fun _ => ih _ _
    refine htext.bind fun text _ => Avoids.bind (avoids_unwrap fun _ => by simp) fun marker _ => ?_
    exact ih _ _

theorem avoids_clearTrip : Avoids IsUnlocated d.clearTrip := by
  unfold clearTrip
  split
  · exact avoids_pure _
  · refine Avoids.bind ?_ fun _ _ => avoids_pure _
    exact avoids_setSnippets (spares_isUnlocated.forceInt _ _) (avoids_pure _) _ _ _

theorem avoids_showSelectedProducts (products : List ProductKit) :
    Avoids IsUnlocated (d.showSelectedProducts products) := by
  have hquantity : ∀ name, Avoids IsUnlocated (quantityOf name products) := by
    intro name
    unfold quantityOf
    split
    · exact avoids_pure _
    · exact spares_isUnlocated.forceNumeral _ _
  have hchecked := avoids_checkedInt (P := IsUnlocated) (by simp)
  unfold showSelectedProducts setKitItemsWithTextAndFont
  refine (hquantity _).bind fun _ _ => (hchecked _).bind fun _ _ => ?_
  refine (hquantity _).bind fun _ _ => (hchecked _).bind fun _ _ => ?_
  refine (hquantity _).bind fun _ _ => (hchecked _).bind fun _ _ => ?_
  exact ((hchecked _).bind fun _ _ => hchecked _).bind fun _ _ => avoids_pure _

theorem avoids_requestParameters (h : d.IsLocated) (device : Device) :
    Avoids IsUnlocated (d.requestParameters device) := by
  have hchecked := avoids_checkedInt (P := IsUnlocated) (by simp)
  refine (spares_isUnlocated.userID _ _).bind fun _ _ => ?_
  refine (avoids_clientLocation h).bind fun _ _ => (hchecked _).bind fun _ _ => ?_
  exact (hchecked _).bind fun _ _ => (hchecked _).bind fun _ _ => avoids_pure _

theorem avoids_cancelParameters (h : d.IsLocated) (device : Device) :
    Avoids IsUnlocated (d.cancelParameters device) := by
  refine (spares_isUnlocated.userID _ _).bind fun _ _ => ?_
  exact (avoids_clientLocation h).bind fun _ _ => avoids_pure _

end ClientDashboard

namespace ClientSession

open ClientDashboard

variable {distance : CLLocation → CLLocation → ℚ} {s t : ClientSession} {e : ClientEvent}

theorem avoids_openBottomSheet (h : s.dashboard.IsLocated) (openedBy : Option Nat) :
    Avoids IsUnlocated (s.openBottomSheet openedBy) := by
  refine (avoids_clientLocation h).bind fun here _ => ?_
  exact avoids_ite (fun _ => (spares_isUnlocated.forceInt _ _).bind fun _ _ => avoids_pure _)
    fun _ => avoids_pure _

theorem avoids_checkIfTripExists (h : s.dashboard.IsLocated) :
    Avoids IsUnlocated s.checkIfTripExists := by
  refine avoids_ite (fun _ => ?_) fun _ => avoids_pure _
  refine Avoids.bind (avoids_unwrap fun _ => by simp) fun trip _ => ?_
  refine (spares_isUnlocated.userID _ _).bind fun userID _ => avoids_ite (fun _ => ?_) fun _ => ?_
  · have hresume : (s.resume trip userID).dashboard.IsLocated := h
    exact avoids_openBottomSheet hresume none
  · exact (spares_isUnlocated.forceInt _ _).bind fun _ _ => avoids_pure _

theorem avoids_onlineProviderList (h : s.dashboard.IsLocated) (response : Option Dict) :
    Avoids IsUnlocated (s.onlineProviderList distance response) := by
  cases response with
  | none => exact avoids_pure _
  | some response =>
    refine Avoids.bind (avoids_unwrap fun _ => by simp) fun items _ => ?_
    refine (avoids_appendOnlineProviders h items).bind fun d hd => avoids_checkIfTripExists ?_
    obtain ⟨ps, ms, rfl⟩ := appendOnlineProviders_frame hd
    exact h

/-- The press is behind a test of the location. -/
theorem avoids_sendRequest : Avoids IsUnlocated s.sendRequest := by
  unfold sendRequest
  split
  · rename_i hpost
    have h : s.dashboard.clientLocation ≠ none := (sendRequest_eq_post.mp hpost).2.2
    refine avoids_clearTrip.bind fun d hd => ?_
    obtain ⟨marker, markers, _, rfl⟩ := clearTrip_inv hd
    refine Avoids.bind ?_ fun _ _ => avoids_pure _
    exact avoids_requestParameters (Option.isSome_iff_ne_none.mpr h) s.device
  · exact avoids_pure _

theorem avoids_cancelRequestThroughWS (h : s.dashboard.IsLocated) :
    Avoids IsUnlocated s.cancelRequestThroughWS := by
  have hwithdraw : s.withdraw.dashboard.IsLocated := h
  exact (avoids_cancelParameters hwithdraw _).bind fun _ _ => avoids_pure _

theorem avoids_cancelReply (h : s.dashboard.IsLocated) (success : Bool) :
    Avoids IsUnlocated (s.cancelReply success) := by
  refine avoids_ite (fun _ => ?_) fun _ => avoids_pure _
  refine Avoids.bind (avoids_unwrap fun _ => by simp) fun socket _ => ?_
  refine (spares_isUnlocated.userID _ _).bind fun userID _ => ?_
  exact (avoids_clientLocation h).bind fun _ _ => avoids_pure _

theorem avoids_callDistanceMatrixAPI (h : s.dashboard.IsLocated) (text : Message) :
    Avoids IsUnlocated (s.callDistanceMatrixAPI text) := by
  refine (spares_isUnlocated.messageDict text).bind fun o _ => ?_
  cases o with
  | none => exact avoids_pure _
  | some dict => exact (avoids_clientLocation h).bind fun _ _ => avoids_pure _

/-- The sheet that is opened on the way leaves the location where it was. -/
theorem avoids_enterTrip (h : s.dashboard.IsLocated) (call : Nat) (values : Dict) :
    Avoids IsUnlocated (s.enterTrip call values) := by
  refine (spares_isUnlocated.forceDict _ _).bind fun duration _ => ?_
  refine (spares_isUnlocated.forceInt _ _).bind fun eta _ => ?_
  have hput : (s.put { s.dashboard with initialETA := eta }).dashboard.IsLocated := h
  refine (avoids_openBottomSheet hput _).bind fun u hu => ?_
  obtain ⟨here, rfl⟩ := openBottomSheet_inv hu
  have hsheet : ((s.put { s.dashboard with initialETA := eta }).presentSheet (some call)
      here).dashboard.IsLocated := h
  exact (avoids_clientLocation hsheet).bind fun _ _ => avoids_pure _

theorem avoids_distanceReply (h : s.dashboard.IsLocated) (call : Nat) (dict values : Dict)
    (success : Bool) : Avoids IsUnlocated (s.distanceReply call dict values success) := by
  have htarget : Avoids IsUnlocated (s.replyTarget call dict values) := by
    refine (spares_isUnlocated.forceString _ _).bind fun requestType _ =>
      avoids_ite (fun _ => ?_) fun _ => ?_
    · refine (avoids_enterTrip h call values).bind fun _ _ => ?_
      exact (spares_isUnlocated.forceInt _ _).bind fun _ _ => avoids_pure _
    · refine (spares_isUnlocated.forceString _ _).bind fun _ _ => ?_
      exact (spares_isUnlocated.forceNumeral _ _).bind fun _ _ => avoids_pure _
  have hsnippet : Avoids IsUnlocated (do
      let values ← duration values
      return "ETA " ++ (Dict.string? values "text").getD "0") :=
    (spares_isUnlocated.forceDict _ _).bind fun _ _ => avoids_pure _
  refine avoids_ite (fun _ => htarget.bind fun target _ => ?_) fun _ => avoids_pure _
  refine Avoids.bind ?_ fun _ _ => avoids_pure _
  exact avoids_setSnippets (avoids_pure _) hsnippet _ _ _

theorem avoids_requestMessage (h : s.dashboard.IsLocated) (text : Message) :
    Avoids IsUnlocated (s.requestMessage text) := by
  refine (spares_isUnlocated.messageDict text).bind fun o _ => ?_
  cases o with
  | none => exact avoids_pure _
  | some dict =>
    simp only
    split
    · exact avoids_pure _
    · refine Avoids.bind (avoids_unwrap fun _ => by simp) fun requestType _ =>
        avoids_ite (fun _ => ?_) fun _ => avoids_pure _
      have hput : (s.put { s.dashboard with currentRequest := dict }).dashboard.IsLocated := h
      exact (avoids_callDistanceMatrixAPI hput text).bind fun _ _ => avoids_pure _

theorem avoids_onMessage (h : s.dashboard.IsLocated) (socket : Nat) (text : Message) :
    Avoids IsUnlocated (s.onMessage distance socket text) := by
  refine avoids_ite (fun _ => ?_) fun _ => avoids_ite (fun _ => ?_) fun _ => avoids_pure _
  · exact (avoids_pingReceived h text).bind fun _ _ => avoids_pure _
  · exact avoids_requestMessage h text

/-! ## 2. Who reads the location, and when -/

/-- The events whose handlers read the location. -/
def readsLocation (s : ClientSession) : ClientEvent → Bool
  | .onlineProviderList .. | .onMessage .. | .cancelRequest | .cancelReply .. | .distanceReply ..
  | .distanceTimerFires => true
  | .sendRequest => decide (s.dashboard.sendRequest s.device = .post)
  | _ => false

/-- No event misses a location that is there. -/
theorem avoids_react {result : Except Trap ClientSession}
    (h : s.readsLocation e = true → s.dashboard.IsLocated)
    (happens : react distance s e = some result) : Avoids IsUnlocated result := by
  cases e with
  | onlineProviderList call response =>
    obtain ⟨_, _, rfl⟩ := Option.map_eq_some_iff.mp happens
    have hlocated : { s with listCalls := s.listCalls.retire call }.dashboard.IsLocated := h rfl
    exact avoids_onlineProviderList hlocated response
  | onMessage socket text =>
    simp only [react, Option.ite_none_right_eq_some, Option.some.injEq] at happens
    obtain ⟨_, rfl⟩ := happens
    exact avoids_onMessage (h rfl) socket text
  | sendRequest =>
    simp only [react, Option.ite_none_right_eq_some, Option.some.injEq] at happens
    obtain ⟨_, rfl⟩ := happens
    exact avoids_sendRequest
  | cancelRequest =>
    simp only [react, Option.ite_none_left_eq_some, Option.some.injEq] at happens
    obtain ⟨_, rfl⟩ := happens
    exact avoids_cancelRequestThroughWS (h rfl)
  | cancelReply call success =>
    obtain ⟨_, _, rfl⟩ := Option.map_eq_some_iff.mp happens
    have hlocated : { s with cancelCalls := s.cancelCalls.retire call }.dashboard.IsLocated := h rfl
    exact avoids_cancelReply hlocated success
  | distanceReply call values success =>
    obtain ⟨dict, _, rfl⟩ := Option.map_eq_some_iff.mp happens
    have hlocated : { s with distanceCalls := s.distanceCalls.retire call }.dashboard.IsLocated :=
      h rfl
    exact avoids_distanceReply hlocated call dict values success
  | distanceTimerFires =>
    simp only [react, Option.ite_none_left_eq_some, Option.some.injEq] at happens
    obtain ⟨_, rfl⟩ := happens
    exact avoids_callDistanceMatrixAPI (h rfl) _
  | viewWillAppear =>
    obtain rfl := Option.some.inj happens
    exact avoids_clearTrip.bind fun _ _ => avoids_pure _
  | selectedProducts products =>
    obtain rfl := Option.some.inj happens
    exact (avoids_showSelectedProducts products).bind fun _ _ => avoids_pure _
  | tracingLocation l =>
    simp only [react, Option.ite_none_right_eq_some, Option.some.injEq] at happens
    obtain ⟨_, rfl⟩ := happens
    exact avoids_ok _
  | receivingLocationUpdate text =>
    simp only [react, Option.ite_none_right_eq_some, Option.some.injEq] at happens
    obtain ⟨_, rfl⟩ := happens
    exact avoids_ok _
  | requestReply call success =>
    obtain ⟨_, _, rfl⟩ := Option.map_eq_some_iff.mp happens
    exact avoids_ok _
  | timerFires timer =>
    obtain ⟨_, _, rfl⟩ := Option.map_eq_some_iff.mp happens
    exact avoids_ok _
  | elsewhere device busy =>
    obtain rfl := Option.some.inj happens
    exact avoids_ok _

/-- Nothing has been asked for, and nobody talks to the dashboard. -/
structure Idle (s : ClientSession) : Prop where
  listCalls : ∀ call, s.listCalls.waiting call = none
  requestCalls : ∀ call, s.requestCalls.waiting call = none
  cancelCalls : ∀ call, s.cancelCalls.waiting call = none
  distanceCalls : ∀ call, s.distanceCalls.waiting call = none
  distanceTimers : s.distanceTimers = 0
  viewDisableIsHidden : s.dashboard.viewDisableIsHidden = true
  delegate : s.sockets.delegate ≠ some .dashboard

/-- **An idle dashboard is asked for its location by nobody**: of what reads it, only a request
can happen, and that tests it first. -/
theorem Idle.isLocated (h : s.Idle) (hreads : s.readsLocation e = true)
    (happens : (react distance s e).isSome = true) : s.dashboard.IsLocated := by
  cases e with
  | sendRequest =>
    have hpost : s.dashboard.sendRequest s.device = .post := of_decide_eq_true hreads
    exact Option.isSome_iff_ne_none.mpr (sendRequest_eq_post.mp hpost).2.2
  | onlineProviderList call response => simp [react, h.listCalls] at happens
  | onMessage socket text => simp [react, h.delegate] at happens
  | cancelRequest => simp [react, h.viewDisableIsHidden] at happens
  | cancelReply call success => simp [react, h.cancelCalls] at happens
  | distanceReply call values success => simp [react, h.distanceCalls] at happens
  | distanceTimerFires => simp [react, h.distanceTimers] at happens
  | _ => exact absurd hreads (by simp [readsLocation])

/-- The dashboard stays idle until its location is reported. -/
theorem Idle.step (h : s.Idle) (hnone : s.dashboard.clientLocation = none)
    (hstep : (machine distance).Step s e t) (hafter : t.dashboard.clientLocation = none) :
    t.Idle := by
  have happens : (react distance s e).isSome = true := by
    have hreact : react distance s e = some (.ok t) := hstep
    simp [hreact]
  have hunread : s.readsLocation e = false := by
    by_contra hreads
    have hlocated := h.isLocated (by simpa using hreads) happens
    simp [IsLocated, hnone] at hlocated
  have hinv := step_inv hstep
  cases e with
  | tracingLocation l =>
    rw [step_clientLocation hstep] at hafter
    exact absurd hafter (by simp [locationAfter])
  | sendRequest =>
    rcases sendRequest_inv hinv.2 with rfl | ⟨_, _, _, hpost, _⟩
    · exact h
    · exact absurd hpost (by simpa [readsLocation] using hunread)
  | requestReply call success =>
    obtain ⟨userID, hwaiting, _⟩ := hinv
    exact absurd hwaiting (by simp [h.requestCalls])
  | timerFires timer =>
    obtain ⟨_, rfl⟩ := hinv
    exact { h with viewDisableIsHidden := rfl }
  | receivingLocationUpdate text =>
    obtain ⟨_, rfl⟩ := hinv
    exact { h with }
  | viewWillAppear =>
    obtain ⟨d, hclear, rfl⟩ := hinv
    obtain ⟨marker, markers, _, rfl⟩ := clearTrip_inv hclear
    exact { h with }
  | selectedProducts products =>
    obtain ⟨d, hshow, rfl⟩ := hinv
    obtain ⟨u, c, b, _, _, _, rfl⟩ := showSelectedProducts_inv hshow
    exact { h with }
  | elsewhere device busy =>
    obtain rfl : t = { s with device := device, isPresenting := busy } := hinv
    exact { h with }
  | _ => exact absurd hunread (by simp [readsLocation])

/-! ## 3. The law -/

/-- Whether a location was reported. -/
def noteReported (reported : Bool) (_ : ClientSession) (e : ClientEvent) (_ : ClientSession) :
    Bool :=
  match e with
  | .tracingLocation _ => true
  | _ => reported

/-- The location is known wherever it is used. -/
structure LocationKnown (distance : CLLocation → CLLocation → ℚ) (x : ClientSession × Bool) :
    Prop where
  /-- It is there exactly if it was reported. -/
  reported : x.1.dashboard.clientLocation.isSome = x.2
  /-- No handler that can be called finds it missing. -/
  found : ∀ e fault, (machine distance).Traps x.1 e fault → fault ≠ .clientLocation
  /-- What reads it can happen only after a report. -/
  readers : ∀ e, x.1.readsLocation e = true → ((machine distance).react x.1 e).isSome = true →
    x.2 = true

/-- The invariant. -/
structure Guarded (x : ClientSession × Bool) : Prop where
  reported : x.1.dashboard.clientLocation.isSome = x.2
  idle : x.1.dashboard.clientLocation = none → x.1.Idle

theorem Guarded.step {x y : ClientSession × Bool} (hx : Guarded x)
    (hstep : ((machine distance).withHistory noteReported).Step x e y) : Guarded y := by
  obtain ⟨hmachine, hnote⟩ := Machine.withHistory_step.mp hstep
  have hafter : y.1.dashboard.clientLocation = x.1.locationAfter e := step_clientLocation hmachine
  constructor
  · rw [hafter, hnote]
    cases e with
    | tracingLocation l => rfl
    | _ => exact hx.reported
  · intro hnone
    have hbefore : x.1.dashboard.clientLocation = none := by
      rw [hafter] at hnone
      cases e with
      | tracingLocation l => exact absurd hnone (by simp [locationAfter])
      | _ => exact hnone
    exact (hx.idle hbefore).step hbefore hmachine hnone

/-- Whoever reads the location of a guarded dashboard finds it. -/
theorem Guarded.isLocated {x : ClientSession × Bool} (hx : Guarded x)
    (hreads : x.1.readsLocation e = true) (happens : (react distance x.1 e).isSome = true) :
    x.1.dashboard.IsLocated := by
  cases hhere : x.1.dashboard.clientLocation with
  | some l => simp [IsLocated, hhere]
  | none => exact (hx.idle hhere).isLocated hreads happens

theorem Guarded.of_run {device : Device} {sockets : WebSocketManager ClientScreen}
    (hsilent : sockets.delegate ≠ some .dashboard) {x : ClientSession × Bool}
    (hrun : ((machine distance).withHistory noteReported).Run
      ({ device := device, sockets := sockets }, false) x) : Guarded x := by
  refine hrun.invariant ⟨rfl, fun _ => ?_⟩ fun _ _ _ hI _ hstep => hI.step hstep
  exact {
    listCalls := Callbacks.waiting_empty
    requestCalls := Callbacks.waiting_empty
    cancelCalls := Callbacks.waiting_empty
    distanceCalls := Callbacks.waiting_empty
    distanceTimers := rfl
    viewDisableIsHidden := rfl
    delegate := hsilent }

theorem Guarded.found {x : ClientSession × Bool} (hx : Guarded x) {fault : Trap}
    (htraps : (machine distance).Traps x.1 e fault) : fault ≠ .clientLocation := by
  have hreact : react distance x.1 e = some (.error fault) := htraps
  have happens : (react distance x.1 e).isSome = true := by simp [hreact]
  exact avoids_react (fun hreads => hx.isLocated hreads happens) hreact fault rfl

/-- **The location is known wherever it is used**, in every run of a dashboard that nobody has made
the socket's delegate before it was loaded. -/
theorem location_known (device : Device) (sockets : WebSocketManager ClientScreen)
    (hsilent : sockets.delegate ≠ some .dashboard) {x : ClientSession × Bool}
    (hrun : ((machine distance).withHistory noteReported).Run
      ({ device := device, sockets := sockets }, false) x) : LocationKnown distance x := by
  have hx : Guarded x := .of_run hsilent hrun
  refine ⟨hx.reported, fun e fault htraps => hx.found htraps, fun e hreads happens => ?_⟩
  rw [← hx.reported]
  exact hx.isLocated hreads happens

/-- The same of the dashboard alone: no run of it ends for want of the location. -/
theorem never_unlocated {device : Device} {sockets : WebSocketManager ClientScreen}
    (hsilent : sockets.delegate ≠ some .dashboard)
    (hrun : (machine distance).Run { device := device, sockets := sockets } s) {fault : Trap}
    (htraps : (machine distance).Traps s e fault) : fault ≠ .clientLocation := by
  obtain ⟨reported, hrun⟩ :=
    @Machine.RunWhere.lift_history _ _ _ _ _ _ _ _ noteReported hrun false
  exact (Guarded.of_run hsilent hrun).found htraps

/-- The dashboard after a request that waits for a provider; who cancels now reads the location. -/
theorem location_known_waiting : ∃ x : ClientSession × Bool,
    (machine sampleDistance).Run { device := sampleDevice } x.1 ∧
      x.1.readsLocation .cancelRequest = true ∧
      ((machine sampleDistance).react x.1 .cancelRequest).isSome = true ∧
      LocationKnown sampleDistance x := by
  obtain ⟨x, hrun, htest⟩ := Machine.exists_run_of_replay
    ((machine sampleDistance).withHistory noteReported) (fun _ _ => true)
    ({ device := sampleDevice, sockets := {} }, false) requestEvents
    (fun x => ((machine sampleDistance).react x.1 .cancelRequest).isSome) (fun _ _ _ => trivial)
    (by decide +kernel)
  have hplain : (machine sampleDistance).Run { device := sampleDevice } x.1 :=
    @Machine.RunWhere.of_withHistory _ _ _ _ _ (fun _ _ => True) _ _ _ hrun
  exact ⟨x, hplain, rfl, htest, location_known sampleDevice {} (by decide) hrun⟩

end ClientSession

end WeatherAccommodation
