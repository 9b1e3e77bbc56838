/-
# The trip that was found at launch

`AppDelegate.doesRequestExist` says that the server has reported a trip that is under way.  Both
apps set it with the report.  The provider's app clears it when a one-time code is typed, the
client's when the sheet hears of the start, and no other way out of the trip clears it.

`TripLog` follows the trip that was reported last: whether it is still active, and whether one of
the two has happened since.  If no trip is over before that, the flag is true only while its trip
is active, and once it is over every screen takes its fresh branch (`flag_means_active`).  A trip
that is ended or cancelled before leaves the flag behind (`stale_flag`).
-/
import WeatherAccommodation.Client.SecondTrip
import WeatherAccommodation.Provider.Destination

namespace WeatherAccommodation

open Foundation Reactive

/-! ## 1. The log of a trip -/

structure TripLog where
  /-- The trip that the server reported last. -/
  trip : Option Dict := none
  /-- It has been neither cancelled nor completed since. -/
  isActive : Bool := false
  /-- A code was typed since, or the sheet has heard of a start. -/
  isReleased : Bool := false

namespace TripLog

/-- The trip of a screen or a message is the one that was reported. -/
def isAbout (h : TripLog) (current : Dict) : Bool :=
  (tripId current).isSome && h.trip.bind tripId == tripId current

/-- The text says that the trip is over: it names the trip, or goes to the screen `screen` of it. -/
def isEndedBy (h : TripLog) (text : Message) (screen : Option Dict) : Bool :=
  match text with
  | some (.obj dict) =>
    (Dict.string? dict "RequestType" == some Trip_Status.cancelled ||
      Dict.string? dict "RequestType" == some Request_Status.ended) &&
      (h.isAbout dict || screen.any h.isAbout)
  | _ => false

/-- The log after a step. -/
def next (h : TripLog) (found : Option Dict) (ends releases : Bool) : TripLog :=
  match found with
  | some trip => { trip := some trip, isActive := true }
  | none =>
    { h with isActive := h.isActive && !ends, isReleased := h.isReleased || releases }

/-- What a raised flag stands for. -/
def Backs (h : TripLog) (doesRequestExist : Bool) : Prop :=
  doesRequestExist = true → h.isActive = true ∧ h.isReleased = false

/-- A flag that is raised with the report and lowered with the release stands for an active trip,
if the trip does not end before its release. -/
theorem Backs.next {h : TripLog} {flag flag' : Bool} {found : Option Dict} {ends releases : Bool}
    (hbacks : h.Backs flag) (hcond : (!ends || h.isReleased) = true)
    (hflag : flag' = (found.isSome || (flag && !releases))) :
    (h.next found ends releases).Backs flag' := by
  intro hraised
  subst hflag
  cases found with
  | some trip => exact ⟨rfl, rfl⟩
  | none =>
    simp only [Option.isSome_none, Bool.false_or, Bool.and_eq_true, Bool.not_eq_true'] at hraised
    obtain ⟨hbefore, hreleases⟩ := hraised
    obtain ⟨hactive, hreleased⟩ := hbacks hbefore
    have hends : ends = false := by simpa [hreleased] using hcond
    simp [TripLog.next, hactive, hreleased, hends, hreleases]

end TripLog

/-! ## 2. The provider's app -/

/-- Whatever loads next takes its fresh branch. -/
structure ProviderApp.ResumesNothing (a : ProviderApp) : Prop where
  sheet : ∀ d : ProviderDashboard, a.openBottomSheet d = do
    let trip ← unwrap .currentAcceptedRequest d.currentAcceptedRequest
    let here ← d.ownLocation
    return a.presentSheet trip here
  startTrip : ∀ trip, a.pushStartTrip trip = .ok { a with
    trips := a.trips ++ [{ currentRequest := trip }]
    locationDelegate := some (.startTrip a.trips.length) }
  dashboard : a.viewDidLoad = .ok { a with dashboards := a.dashboards ++ [{ location := none }] }

theorem ProviderApp.resumesNothing {a : ProviderApp}
    (h : a.device.appDelegate.doesRequestExist = false) : a.ResumesNothing where
  sheet := by simp [openBottomSheet, h]
  startTrip := by simp [pushStartTrip, StartTrip.viewDidLoad, h, bind, Except.bind, pure, Except.pure]
  dashboard := by simp [viewDidLoad, checkIfTripExists, h, pure, Except.pure]

namespace ProviderPhone

variable {distance : CLLocation → CLLocation → ℚ} {p q : ProviderPhone}

def doesRequestExist (p : ProviderPhone) : Bool := p.app.device.appDelegate.doesRequestExist

/-- The trip that the server reports. -/
def found : PhoneEvent → Option Dict
  | .app e => ProviderApp.reports e
  | _ => none

/-- The edit makes the field of the sheet equal to its code. -/
def typesCode (p : ProviderPhone) : PhoneEvent → Bool
  | .app e => p.app.typesCode e
  | _ => false

/-- The trip of the sheet that gets what comes on `socket`. -/
def tripOnSocket (p : ProviderPhone) (socket : Nat) : Option Dict :=
  match p.app.sockets.delegate with
  | some (.clientDetail j) =>
    if p.app.sockets.clientproviderRequestSocket = some socket then
      p.app.sheets[j]?.map ClientDetailSheet.currentRequest
    else none
  | _ => none

/-- The trip of the screen that has sent the end of its trip in the call. -/
def endedTrip (p : ProviderPhone) (call : Nat) : Option Dict :=
  match p.app.startEndCalls.waiting call with
  | some (k, statusCode) =>
    if statusCode = Numeric_TripStatus.ended then p.app.trips[k]?.map StartTrip.currentRequest
    else none
  | none => none

/-- The reported trip is cancelled or completed. -/
def endsTrip (h : TripLog) (p : ProviderPhone) : PhoneEvent → Bool
  | .app (.onMessage socket text _ _) => h.isEndedBy text (p.tripOnSocket socket)
  | .app (.cancelTrip j _) => (p.app.sheets[j]?.map ClientDetailSheet.currentRequest).any h.isAbout
  | .app (.startEndReply call true) => (p.endedTrip call).any h.isAbout
  | .btnSubmitPressed _ _ =>
    ((p.alert.bind fun m => p.alerts[m]?).map RequestCancelAlert.currentRequest).any h.isAbout
  | _ => false

/-- The history variable. -/
def noteTrip (h : TripLog) (p : ProviderPhone) (e : PhoneEvent) (_ : ProviderPhone) : TripLog :=
  h.next (found e) (p.endsTrip h e) (p.typesCode e)

/-- The condition on a step: a trip that ends was released before. -/
def endsReleased (x : ProviderPhone × TripLog) (e : PhoneEvent) : Bool :=
  !x.1.endsTrip x.2 e || x.2.isReleased

/-- The flag is true only while the reported trip is active, and afterwards nothing resumes it. -/
structure FlagMeansActive (x : ProviderPhone × TripLog) : Prop where
  flag : x.1.doesRequestExist = true → x.2.isActive = true
  idle : x.2.isActive = false → x.1.app.ResumesNothing

/-- **What a step does to the flag.** -/
theorem step_flag {e : PhoneEvent} (h : (machine distance).Step p e q) :
    q.doesRequestExist = ((found e).isSome || (p.doesRequestExist && !p.typesCode e)) := by
  have hof : StepOf distance p q e := step_inv h
  have hsame : q.app.device.appDelegate = p.app.device.appDelegate →
      q.doesRequestExist = (p.doesRequestExist && !false) := by
    intro hdelegate
    simp [doesRequestExist, hdelegate]
  cases e with
  | app ev =>
    obtain ⟨_, b, hb, rfl⟩ := hof
    cases (ProviderApp.step_device hb).2 with
    | kept noReport noCode flag =>
      simpa [doesRequestExist, follow, found, typesCode, noReport, noCode] using flag
    | reported event flag =>
      subst event
      simpa [doesRequestExist, follow, found, ProviderApp.reports] using flag
    | released event flag =>
      have hfound : found (.app ev) = none := by
        cases ev with
        | tripStatusReply existing => exact absurd event (by simp [ProviderApp.typesCode])
        | _ => rfl
      simpa [doesRequestExist, follow, hfound, typesCode, event] using flag
  | lateDirections i call =>
    obtain ⟨_, _, _, hlate⟩ := hof
    obtain rfl := lateDirections_inv hlate
    exact hsame rfl
  | didUpdateLocations l =>
    cases didUpdateLocations_inv hof with
    | dashboard _ _ _ after => exact hsame (by rw [after]; rfl)
    | sheet _ _ after => exact hsame (by rw [after]; rfl)
    | alert _ _ _ after => exact hsame (by rw [after]; rfl)
    | nobody _ _ _ _ after => exact hsame (by rw [after]; rfl)
  | didDisconnect socket code =>
    obtain ⟨a, rfl, hcase⟩ := didDisconnect_inv hof
    rcases hcase with rfl | ⟨i, d, hdelegate, _, ha⟩
    · exact hsame rfl
    · rcases ProviderApp.dashboardDisconnect_inv ha with rfl | ⟨_, rfl⟩ | rfl
      · exact hsame rfl
      · exact hsame rfl
      · exact hsame rfl
  | _ => exact hsame (step_own h rfl).appDelegate

/-- **One step of the phone.** -/
theorem backs_step {x y : ProviderPhone × TripLog} {e : PhoneEvent}
    (hx : x.2.Backs x.1.doesRequestExist) (hcond : endsReleased x e = true)
    (hstep : ((machine distance).withHistory noteTrip).Step x e y) :
    y.2.Backs y.1.doesRequestExist := by
  obtain ⟨hpq, hnote⟩ := Machine.withHistory_step.mp hstep
  rw [hnote]
  exact hx.next hcond (step_flag hpq)

theorem flagMeansActive_of_backs {x : ProviderPhone × TripLog}
    (h : x.2.Backs x.1.doesRequestExist) : FlagMeansActive x where
  flag := fun hflag => (h hflag).1
  idle := by
    intro hover
    refine ProviderApp.resumesNothing ?_
    by_contra hflag
    have hactive := (h (by simpa [doesRequestExist] using hflag)).1
    exact absurd hactive (by simp [hover])

end ProviderPhone

/-! ## 3. The client's app -/

namespace ClientPhone

variable {distance : CLLocation → CLLocation → ℚ} {p q : ClientPhone}

/-- Whatever loads next takes its fresh branch. -/
structure ResumesNothing (p : ClientPhone) : Prop where
  sheet : ∀ (s : ClientSession) (openedBy : Option Nat),
    (p.app.lend s).openBottomSheet openedBy = do
      let here ← unwrap .clientLocation s.dashboard.clientLocation
      return (p.app.lend s).presentSheet openedBy here
  trip : ∀ screen : ClientTrip, screen.viewDidLoad p.doesRequestExist = .ok screen
  dashboard : ∀ s : ClientSession, (p.app.lend s).checkIfTripExists = .ok (p.app.lend s)

theorem resumesNothing (h : p.doesRequestExist = false) : p.ResumesNothing := by
  have hlent : ∀ s : ClientSession,
      (p.app.lend s).device.appDelegate.doesRequestExist = false := fun _ => h
  refine ⟨?_, ?_, ?_⟩
  · intro s openedBy
    simp only [ClientSession.openBottomSheet, hlent]
    simp [ClientApp.lend]
  · intro screen
    simp [ClientTrip.viewDidLoad, h, pure, Except.pure]
  · intro s
    simp only [ClientSession.checkIfTripExists, hlent]
    simp [pure, Except.pure]

/-- The trip that the server reports. -/
def found : ClientPhoneEvent → Option Dict
  | .tripStatusReply existing => existing
  | _ => none

/-- A sheet gets what comes on `socket`. -/
def sheetListens (p : ClientPhone) (socket : Nat) : Bool :=
  p.app.sockets.clientproviderRequestSocket == some socket &&
    match p.socketOwner with
    | some (.providerDetail _) => true
    | _ => false

def isStart (text : Message) : Bool :=
  match text with
  | some (.obj dict) => Dict.string? dict "RequestType" == some Request_Status.started
  | _ => false

theorem isStart_iff {text : Message} :
    isStart text = true ↔ hasType text Request_Status.started := by
  unfold isStart hasType
  split
  · simp
  · rename_i hobj
    constructor
    · intro h
      exact absurd h (by simp)
    · rintro ⟨dict, rfl, _⟩
      exact absurd rfl (hobj dict)

/-- The sheet hears that its trip has started. -/
def hearsStart (p : ClientPhone) : ClientPhoneEvent → Bool
  | .onMessage socket text _ => p.sheetListens socket && isStart text
  | _ => false

/-- The trip of the screen that gets what comes on `socket`. -/
def tripOnSocket (p : ClientPhone) (socket : Nat) : Option Dict :=
  if p.app.sockets.clientproviderRequestSocket = some socket then
    match p.socketOwner with
    | some (.providerDetail j) => p.sheets[j]?.map TripProviderDetail.currentRequest
    | some (.clientTrip k) => p.trips[k]?.map ClientTrip.currentRequest
    | _ => none
  else none

/-- The reported trip is cancelled or completed. -/
def endsTrip (h : TripLog) (p : ClientPhone) : ClientPhoneEvent → Bool
  | .onMessage socket text _ => h.isEndedBy text (p.tripOnSocket socket)
  | .cancelTrip j => (p.sheets[j]?.map TripProviderDetail.currentRequest).any h.isAbout
  | .btnSubmitPressed _ _ =>
    ((p.alert.bind fun m => p.alerts[m]?).map RequestCancelAlert.currentRequest).any h.isAbout
  | _ => false

/-- The history variable. -/
def noteTrip (h : TripLog) (p : ClientPhone) (e : ClientPhoneEvent) (_ : ClientPhone) : TripLog :=
  h.next (found e) (p.endsTrip h e) (p.hearsStart e)

/-- The condition on a step: a trip that ends was released before. -/
def endsReleased (x : ClientPhone × TripLog) (e : ClientPhoneEvent) : Bool :=
  !x.1.endsTrip x.2 e || x.2.isReleased

/-- The flag is true only while the reported trip is active, and afterwards nothing resumes it. -/
structure FlagMeansActive (x : ClientPhone × TripLog) : Prop where
  flag : x.1.doesRequestExist = true → x.2.isActive = true
  idle : x.2.isActive = false → x.1.ResumesNothing

/-- A message for a sheet lowers the flag, if it is that of the start, and leaves it otherwise. -/
theorem sheetMessage_flag {j socket : Nat} {sheet : TripProviderDetail} {text : Message}
    (howner : p.socketOwner = some (.providerDetail j))
    (h : p.sheetMessage distance j sheet socket text = .ok q) :
    q.doesRequestExist = (p.doesRequestExist && !(p.sheetListens socket && isStart text)) := by
  by_cases hsocket : p.app.sockets.clientproviderRequestSocket = some socket
  · have hlistens : p.sheetListens socket = true := by simp [sheetListens, hsocket, howner]
    rw [hlistens, Bool.true_and]
    by_cases hstart : isStart text = true
    · simp only [sheetMessage, if_pos hsocket,
        reaction_of_hasType (isStart_iff.mp hstart), reactionTo_started, bind_eq_ok] at h
      obtain ⟨r, hr, h⟩ := h
      cases hflag : p.doesRequestExist with
      | true =>
        obtain rfl : r = .started := by simpa [hflag] using hr.symm
        obtain ⟨_, rfl⟩ := enterClientTrip_inv h
        obtain ⟨_, _, _, hdismiss⟩ := dismissFrom_inv (p.setFlag false) j sheet
        rw [hdismiss, hstart]
        rfl
      | false =>
        obtain rfl : r = .nothing := by simpa [hflag] using hr.symm
        obtain rfl : p = q := by simpa using h
        rw [hflag]
        rfl
    · have hno : isStart text = false := by simpa using hstart
      rw [hno, Bool.not_false, Bool.and_true]
      rcases sheetMessage_inv h with rfl | ⟨_, hreacts⟩
      · rfl
      · obtain ⟨_, _, _, hdismiss⟩ := dismissFrom_inv p j sheet
        cases hreacts with
        | nothing after => rw [after]
        | reached _ _ after =>
          rw [after, hdismiss]
          rfl
        | cancelled _ after =>
          rw [after, hdismiss]
          rfl
        | located step after =>
          rw [after]
          exact ClientApp.doesRequestExist_eq step
        | started type _ _ _ => exact absurd (isStart_iff.mpr type) hstart
  · have hlistens : p.sheetListens socket = false := by simp [sheetListens, hsocket]
    simp only [sheetMessage, if_neg hsocket, pure_eq_ok] at h
    subst h
    simp [hlistens]

/-- **What a step does to the flag.** -/
theorem step_flag {e : ClientPhoneEvent} (h : (machine distance).Step p e q) :
    q.doesRequestExist = ((found e).isSome || (p.doesRequestExist && !p.hearsStart e)) := by
  have hof : StepOf distance p q e := step_inv h
  have hsame : q.doesRequestExist = p.doesRequestExist →
      q.doesRequestExist = (p.doesRequestExist && !false) := by
    intro hflag
    simp [hflag]
  cases e with
  | app ev =>
    obtain ⟨_, b, hb, rfl⟩ := hof
    refine hsame ?_
    simp only [doesRequestExist, (sessions_follow p ev b).2]
    exact ClientApp.doesRequestExist_eq hb
  | tripStatusReply existing =>
    obtain rfl : q = p.tripStatusReply existing := hof
    cases existing with
    | none => exact hsame rfl
    | some trip => rfl
  | didUpdateLocations l =>
    cases hof with
    | dashboard _ step after =>
      refine hsame ?_
      rw [after]
      exact ClientApp.doesRequestExist_eq step
    | sheet _ _ after => exact hsame (by rw [after]; rfl)
    | alert _ _ after => exact hsame (by rw [after]; rfl)
    | nobody _ after => exact hsame (by rw [after]; rfl)
  | onMessage socket text inBackground =>
    cases hof with
    | dashboard owner step after =>
      have hlistens : p.sheetListens socket = false := by simp [sheetListens, owner]
      rw [after]
      simpa [found, hearsStart, hlistens, doesRequestExist] using
        ClientApp.doesRequestExist_eq step
    | sheet owner _ handled =>
      simpa [found, hearsStart] using sheetMessage_flag owner handled
    | trip owner _ handled =>
      have hlistens : p.sheetListens socket = false := by simp [sheetListens, owner]
      rcases tripMessage_inv handled with rfl | ⟨_, _, _, rfl⟩
      · simp [found, hearsStart, hlistens]
      · simp [found, hearsStart, hlistens, doesRequestExist, putTrip]
  | lateProviderList k call response =>
    obtain ⟨s, s', hs, hlate, rfl⟩ := hof
    obtain ⟨userID, _, hface⟩ := ClientSession.lateProviderList_inv hlate
    have hdevice : s'.device = p.app.device := congrArg Face.device hface
    exact hsame (by simp [doesRequestExist, ClientApp.store, hdevice])
  | lateDistance k call values =>
    obtain ⟨s, s', dict, hs, hlate, rfl⟩ := hof
    have hface := ClientSession.lateDistanceReply_inv hlate
    have hdevice : s'.device = p.app.device := congrArg Face.device hface
    exact hsame (by simp [doesRequestExist, ClientApp.store, hdevice])
  | cancelRequest j sinceAccepted =>
    obtain ⟨sheet, _, _, rfl⟩ := hof
    refine hsame ?_
    unfold cancelRequest
    split
    · rfl
    · rfl
  | cancelTrip j =>
    obtain ⟨sheet, _, _, hcancel⟩ := hof
    obtain ⟨_, _, _, rfl⟩ := cancelTrip_inv hcancel
    exact hsame rfl
  | leftBarItemDidTap j =>
    obtain ⟨_, _, _, _, rfl⟩ := hof
    exact hsame rfl
  | btnSubmitPressed noShow dismisses =>
    obtain ⟨_, _, _, _, hsubmit⟩ := hof
    obtain ⟨_, _, _, rfl⟩ := btnSubmitPressed_inv hsubmit
    exact hsame rfl
  | showDashboard _ | pushOther | popViewController | dismissAlert | submitReview _
  | reviewReply _ =>
    refine hsame ?_
    rw [doesRequestExist, (step_navigation h rfl).app]
    rfl

/-- **One step of the phone.** -/
theorem backs_step {x y : ClientPhone × TripLog} {e : ClientPhoneEvent}
    (hx : x.2.Backs x.1.doesRequestExist) (hcond : endsReleased x e = true)
    (hstep : ((machine distance).withHistory noteTrip).Step x e y) :
    y.2.Backs y.1.doesRequestExist := by
  obtain ⟨hpq, hnote⟩ := Machine.withHistory_step.mp hstep
  rw [hnote]
  exact hx.next hcond (step_flag hpq)

theorem flagMeansActive_of_backs {x : ClientPhone × TripLog}
    (h : x.2.Backs x.1.doesRequestExist) : FlagMeansActive x where
  flag := fun hflag => (h hflag).1
  idle := by
    intro hover
    refine resumesNothing ?_
    by_contra hflag
    have hactive := (h (by simpa using hflag)).1
    exact absurd hactive (by simp [hover])

end ClientPhone

/-! ## 4. The law -/

/-- The provider's app as the process starts it. -/
def ProviderPhone.launched (defaults : UserDefaults) : ProviderPhone × TripLog :=
  ({ app := { device := { defaults := defaults, appDelegate := {} } } }, {})

/-- The client's app as the process starts it. -/
def ClientPhone.launched (defaults : UserDefaults) (onMain : Bool) : ClientPhone × TripLog :=
  ({ app := .launch { defaults := defaults, appDelegate := {} } onMain }, {})

/-- **What the flag means.**  From any launch of either app, over any order of events in which the
reported trip is over only after a code was typed, or the sheet has heard of its start: the flag is
true only while that trip is active, and once it is over no screen resumes it. -/
theorem flag_means_active {distance : CLLocation → CLLocation → ℚ} (defaults : UserDefaults)
    (onMain : Bool) :
    (∀ x, ((ProviderPhone.machine distance).withHistory ProviderPhone.noteTrip).RunWhere
      (fun x e => ProviderPhone.endsReleased x e = true) (ProviderPhone.launched defaults) x →
        ProviderPhone.FlagMeansActive x) ∧
    (∀ x, ((ClientPhone.machine distance).withHistory ClientPhone.noteTrip).RunWhere
      (fun x e => ClientPhone.endsReleased x e = true) (ClientPhone.launched defaults onMain) x →
        ClientPhone.FlagMeansActive x) := by
  constructor
  · intro x hrun
    have hstart : (ProviderPhone.launched defaults).2.Backs
        (ProviderPhone.launched defaults).1.doesRequestExist := by
      intro hflag
      exact absurd hflag (by simp [ProviderPhone.launched, ProviderPhone.doesRequestExist])
    have hbacks := hrun.invariant (I := fun x => x.2.Backs x.1.doesRequestExist) hstart
      fun _ _ _ hI hcond hstep => ProviderPhone.backs_step hI hcond hstep
    exact ProviderPhone.flagMeansActive_of_backs hbacks
  · intro x hrun
    have hstart : (ClientPhone.launched defaults onMain).2.Backs
        (ClientPhone.launched defaults onMain).1.doesRequestExist := by
      intro hflag
      exact absurd hflag (by simp [ClientPhone.launched, ClientPhone.doesRequestExist,
        ClientApp.launch])
    have hbacks := hrun.invariant (I := fun x => x.2.Backs x.1.doesRequestExist) hstart
      fun _ _ _ hI hcond hstep => ClientPhone.backs_step hI hcond hstep
    exact ClientPhone.flagMeansActive_of_backs hbacks

/-! ## 5. Trips to resume -/

/-- Trip 9 of client 24 and provider 16, as the server reports it. -/
def existingTrip (statusCode : Int) : Dict :=
  [("StatusCode", .ofInt statusCode), ("TripId", .ofInt 9), ("ClientId", .ofInt 24),
    ("ProviderId", .ofInt 16), ("TripStartTime", .ofInt 60000)]

/-- A message about trip 9. -/
def tripText (requestType : String) : Message :=
  some (.obj [("RequestType", .str requestType), ("TripId", .ofInt 9), ("ClientId", .ofInt 24),
    ("ProviderId", .str "16"), ("VerificationCode", .str "1234"),
    ("TripStartTime", .ofInt 60000), ("ChargeStatus", .str "succeeded"),
    ("StripeChargeAmount", .ofInt 10)])

namespace ProviderPhone

/-- Trip 9 is reported, its acceptance comes back, the code is typed, and the trip is driven. -/
def drivenPhone : List PhoneEvent :=
  onlinePhone ++ [.app (.tripStatusReply (some (existingTrip 6))),
    .app (.onMessage 0 (ProviderApp.requestText 24 "requested") .active 0),
    .app (.btnAcceptRequest 0), .app (.onConnect 1),
    .app (.onMessage 1 (tripText Trip_Status.accepted) .active 0),
    .app (.directionsReply 0 0 true), .app (.textFieldEditingChanged 0 "1234"),
    .app (.btnActionPressed 0), .app (.startEndReply 0 true), .app (.btnActionPressed 0),
    .app (.startEndReply 1 true)]

/-- Trip 9 is resumed by the start-trip screen, and ended there. -/
def resumedPhone : List PhoneEvent :=
  [.app (.tripStatusReply (some (existingTrip 7))), .app .viewDidLoad, .app (.btnActionPressed 0),
    .app (.startEndReply 0 true)]

end ProviderPhone

namespace ClientPhone

/-- Trip 9 is resumed by its sheet. -/
def resumedSheetPhone : List ClientPhoneEvent :=
  [.tripStatusReply (some (existingTrip 6)), .app .pushDashboard, .didUpdateLocations ⟨40, -73⟩,
    .app (.session 0 (.onlineProviderList 0 (some [("OnlineProviderList", .arr [])])))]

end ClientPhone

/-- A trip that was reported and is over, with the flag down. -/
def TripLog.isOver (h : TripLog) (doesRequestExist : Bool) : Bool :=
  h.trip.isSome && !h.isActive && !doesRequestExist

/-- Both apps see their reported trip to its end. -/
theorem flag_means_active_driven :
    (∃ x : ProviderPhone × TripLog, x.2.isOver x.1.doesRequestExist = true ∧
      ProviderPhone.FlagMeansActive x) ∧
    ∃ x : ClientPhone × TripLog, x.2.isOver x.1.doesRequestExist = true ∧
      ClientPhone.FlagMeansActive x := by
  constructor
  · obtain ⟨x, hrun, htest⟩ := Machine.exists_run_of_replay
      ((ProviderPhone.machine fun _ _ => 0).withHistory ProviderPhone.noteTrip)
      ProviderPhone.endsReleased
      (ProviderPhone.launched (ProviderApp.sampleProvider 16).defaults) ProviderPhone.drivenPhone
      (fun x => x.2.isOver x.1.doesRequestExist) (fun _ _ => id) (by decide +kernel)
    exact ⟨x, htest, (flag_means_active _ false).1 x hrun⟩
  · obtain ⟨x, hrun, htest⟩ := Machine.exists_run_of_replay
      ((ClientPhone.machine fun _ _ => 0).withHistory ClientPhone.noteTrip)
      ClientPhone.endsReleased (ClientPhone.launched ClientSession.sampleDevice.defaults false)
      (ClientPhone.resumedSheetPhone ++ [.onMessage 1 (tripText Request_Status.started) false,
        .onMessage 1 (tripText Request_Status.ended) false])
      (fun x => x.2.isOver x.1.doesRequestExist) (fun _ _ => id) (by decide +kernel)
    exact ⟨x, htest, (flag_means_active _ false).2 x hrun⟩

/-- The provider ends the trip it resumed, or the client cancels the one it resumed: the flag stays
up. -/
theorem stale_flag :
    (∃ x, ((ProviderPhone.machine fun _ _ => 0).withHistory ProviderPhone.noteTrip).Run
      (ProviderPhone.launched (ProviderApp.sampleProvider 16).defaults) x ∧
        ¬ProviderPhone.FlagMeansActive x) ∧
    ∃ x, ((ClientPhone.machine fun _ _ => 0).withHistory ClientPhone.noteTrip).Run
      (ClientPhone.launched ClientSession.sampleDevice.defaults false) x ∧
        ¬ClientPhone.FlagMeansActive x := by
  constructor
  · obtain ⟨x, hrun, htest⟩ := Machine.exists_run_of_replay
      ((ProviderPhone.machine fun _ _ => 0).withHistory ProviderPhone.noteTrip) (fun _ _ => true)
      (ProviderPhone.launched (ProviderApp.sampleProvider 16).defaults) ProviderPhone.resumedPhone
      (fun x => x.1.doesRequestExist && !x.2.isActive) (fun _ _ _ => trivial) (by decide +kernel)
    obtain ⟨hflag, hover⟩ := Bool.and_eq_true_iff.mp htest
    exact ⟨x, hrun, fun hlaw => absurd (hlaw.flag hflag) (by simpa using hover)⟩
  · obtain ⟨x, hrun, htest⟩ := Machine.exists_run_of_replay
      ((ClientPhone.machine fun _ _ => 0).withHistory ClientPhone.noteTrip) (fun _ _ => true)
      (ClientPhone.launched ClientSession.sampleDevice.defaults false)
      (ClientPhone.resumedSheetPhone ++ [.cancelTrip 0])
      (fun x => x.1.doesRequestExist && !x.2.isActive) (fun _ _ _ => trivial) (by decide +kernel)
    obtain ⟨hflag, hover⟩ := Bool.and_eq_true_iff.mp htest
    exact ⟨x, hrun, fun hlaw => absurd (hlaw.flag hflag) (by simpa using hover)⟩

end WeatherAccommodation
