/-
# Who hears of the second trip

The one delegate of the sockets is taken three times on the way to a trip: by the dashboard when
its list of providers comes in, by the provider-detail sheet when it loads, and by the trip screen
when it loads.  Neither of the last two gives it back, and a dashboard asks for its list once.

The log says whose list came in last with no sheet and no trip screen since.  That dashboard is
the delegate (`Follows.owner`), and nobody else's `onMessage` is called: the acceptance of a new
request, and a ping while the dashboard is on screen, are handled where they should be exactly
while the log says so (`second_trip_starts`).  After one trip it does not (`second_trip_unheard`).
-/
import WeatherAccommodation.Client.Delegates

namespace WeatherAccommodation

open Foundation Reactive

namespace ClientPhone

variable {distance : CLLocation → CLLocation → ℚ}

/-! ## 1. The history and the law -/

structure ScreenLog where
  /-- Whose list came in last; `none` once a sheet or a trip screen has opened. -/
  list : Option Nat := none
  /-- The dashboard that posted the last request, and the socket that was opened for it. -/
  posted : Option (Nat × Nat) := none

/-- A sheet or a trip screen has opened. -/
def opensScreen (p q : ClientPhone) : Bool :=
  decide (p.sheets.length < q.sheets.length) || decide (p.trips.length < q.trips.length)

/-- The history variable. -/
def noteScreens (h : ScreenLog) (p : ClientPhone) (e : ClientPhoneEvent) (q : ClientPhone) :
    ScreenLog where
  list := if opensScreen p q then none else (listens e).or h.list
  posted :=
    match e with
    | .app (.session i (.requestReply _ true)) => some (i, p.app.sockets.sockets.length)
    | _ => h.posted

/-- The message goes to the dashboard with number `i`, and `handler` is what is made of it. -/
def GoesTo (distance : CLLocation → CLLocation → ℚ) (p : ClientPhone) (i socket : Nat)
    (text : Message) (inBackground : Bool)
    (handler : ClientSession → Except Trap ClientSession) : Prop :=
  p.socketOwner = some (.dashboard i) ∧ ∃ s, p.app.sessions[i]? = some s ∧
    react distance p (.onMessage socket text inBackground) =
      some ((handler (p.app.lend s)).map fun t => { p with app := p.app.store i t })

/-- `onMessage` of the dashboard handles the message. -/
def HandledBy (distance : CLLocation → CLLocation → ℚ) (p : ClientPhone) (i socket : Nat)
    (text : Message) (inBackground : Bool) : Prop :=
  GoesTo distance p i socket text inBackground fun s => s.onMessage distance socket text

/-- `pingReceived` of the dashboard handles the message. -/
def PingHandledBy (distance : CLLocation → CLLocation → ℚ) (p : ClientPhone) (i socket : Nat)
    (text : Message) (inBackground : Bool) : Prop :=
  GoesTo distance p i socket text inBackground fun s => do
    let d ← s.dashboard.pingReceived distance text
    return s.put d

/-! ## 2. The delegate is whom the log names -/

structure Follows (x : ClientPhone × ScreenLog) : Prop where
  delegated : Delegated x.1
  owner : ∀ i, x.1.socketOwner = some (.dashboard i) ↔ x.2.list = some i

namespace Follows

variable {h : ScreenLog} {p q : ClientPhone} {e : ClientPhoneEvent}

theorem start (device : Device) (onMain : Bool) :
    Follows ({ app := .launch device onMain }, {}) where
  delegated := .start device onMain
  owner := by simp

/-- Without a new screen and without a list the log stays. -/
theorem list_of_quiet (quiet : listens e = none) (sheets : q.sheets.length = p.sheets.length)
    (trips : q.trips.length = p.trips.length) : (noteScreens h p e q).list = h.list := by
  simp [noteScreens, opensScreen, quiet, sheets, trips]

/-- **One step of the phone.** -/
theorem step {x y : ClientPhone × ScreenLog} (hx : Follows x)
    (hstep : ((machine distance).withHistory noteScreens).Step x e y) : Follows y := by
  obtain ⟨p, h⟩ := x
  obtain ⟨q, h'⟩ := y
  obtain ⟨hpq, hnote⟩ := Machine.withHistory_step.mp hstep
  obtain rfl : h' = noteScreens h p e q := hnote
  have hdelegates : DelegateStep p q e := step_delegates hpq
  refine ⟨hx.delegated.step hdelegates, ?_⟩
  intro i
  have hold : p.socketOwner = some (.dashboard i) ↔ h.list = some i := hx.owner i
  cases hdelegates with
  | kept quiet socketOwner _ _ sheets trips _ =>
    rw [socketOwner, list_of_quiet quiet sheets trips]
    exact hold
  | loaded quiet socketOwner _ _ sheets trips _ _ =>
    rw [socketOwner, list_of_quiet quiet sheets trips]
    exact hold
  | alert quiet socketOwner _ _ sheets trips _ =>
    rw [socketOwner, list_of_quiet quiet sheets trips]
    exact hold
  | listed event _ socketOwner _ _ sheets trips _ =>
    simp [noteScreens, opensScreen, event, socketOwner, sheets, trips]
  | sheet socketOwner _ sheets _ => simp [noteScreens, opensScreen, socketOwner, sheets]
  | trip socketOwner _ trips _ => simp [noteScreens, opensScreen, socketOwner, trips]

/-- A message on a socket that was made is handled by the dashboard that the log names. -/
theorem handled_iff {x : ClientPhone × ScreenLog} (hx : Follows x) {i socket : Nat}
    (hsocket : socket < x.1.app.sockets.sockets.length) (text : Message) (inBackground : Bool) :
    HandledBy distance x.1 i socket text inBackground ↔ x.2.list = some i := by
  constructor
  · intro hhandled
    exact (hx.owner i).mp hhandled.1
  · intro hlist
    have howner := (hx.owner i).mpr hlist
    obtain ⟨hdelegate, s, hs⟩ := hx.delegated.sockets i howner
    refine ⟨howner, s, hs, ?_⟩
    have hcan : socket < (x.1.app.lend s).sockets.sockets.length ∧
        (x.1.app.lend s).sockets.delegate = some .dashboard := ⟨hsocket, hdelegate⟩
    simp only [react, onMessage, howner, ClientApp.react, ClientApp.isOwnEvent, if_true, hs,
      Option.bind_some, ClientSession.react, if_pos hcan, Option.map_some]
    cases ClientSession.onMessage distance (x.1.app.lend s) socket text with
    | error f => simp [Except.map]
    | ok t => simp [Except.map]

end Follows

/-- On the status socket `onMessage` is `pingReceived`. -/
theorem pingHandledBy_iff {p : ClientPhone} {i socket : Nat} {text : Message} {inBackground : Bool}
    (hping : p.app.sockets.clientCommonDataSocket = some socket) :
    PingHandledBy distance p i socket text inBackground ↔
      HandledBy distance p i socket text inBackground := by
  have honMessage : ∀ s : ClientSession, (p.app.lend s).onMessage distance socket text = do
      let d ← (p.app.lend s).dashboard.pingReceived distance text
      return (p.app.lend s).put d := by
    intro s
    have hlent : (p.app.lend s).sockets.clientCommonDataSocket = some socket := hping
    simp only [ClientSession.onMessage, if_pos hlent]
  simp only [PingHandledBy, HandledBy, GoesTo, honMessage]

/-! ## 3. The law -/

/-- **Who hears of a new trip.**  From any launch, over any order of requests, trips, reviews,
cancellations and sign-ins: the acceptance of the request that was posted last is handled by
`onMessage` of the dashboard that posted it, and a ping by `pingReceived` of the dashboard on
screen, exactly if that dashboard's list came in last, with no sheet and no trip screen since. -/
theorem second_trip_starts (device : Device) (onMain : Bool) {x : ClientPhone × ScreenLog}
    (hrun : ((machine distance).withHistory noteScreens).Run
      ({ app := .launch device onMain }, {}) x)
    {i socket : Nat} (hsocket : socket < x.1.app.sockets.sockets.length) (text : Message)
    (inBackground : Bool) :
    (x.2.posted = some (i, socket) → hasType text Trip_Status.accepted →
      (HandledBy distance x.1 i socket text inBackground ↔ x.2.list = some i)) ∧
    (x.1.app.sockets.clientCommonDataSocket = some socket → x.1.isVisible i = true →
      (PingHandledBy distance x.1 i socket text inBackground ↔ x.2.list = some i)) := by
  have hx : Follows x :=
    hrun.invariant (Follows.start device onMain) fun _ _ _ hI _ hstep => hI.step hstep
  constructor
  · intro _ _
    exact hx.handled_iff hsocket text inBackground
  · intro hping _
    rw [pingHandledBy_iff hping]
    exact hx.handled_iff hsocket text inBackground

/-! ## 4. Two trips -/

/-- Client 24 asks for a provider, and provider 16 is in reach. -/
def requestPhone : List ClientPhoneEvent :=
  [.app .pushDashboard, .didUpdateLocations ⟨40, -73⟩,
    .app (.session 0 (.onlineProviderList 0 (some [("OnlineProviderList",
      .arr [.obj (ClientDashboard.statusOf 16 "40.001" "-73" "connected")])]))),
    .app (.session 0 .sendRequest), .app (.session 0 (.requestReply 0 true))]

/-- Provider 16 accepts. -/
def acceptanceText : Message :=
  some (.obj [("RequestType", .str "trip_accepted"), ("ClientId", .ofInt 24),
    ("TripId", .ofInt 5), ("ProviderId", .ofInt 16)])

/-- The travel time arrives, and the sheet opens. -/
def acceptPhone : List ClientPhoneEvent :=
  [.onMessage 1 acceptanceText false, .app (.session 0 (.distanceReply 0
    [("duration", .obj [("value", .ofInt 300), ("text", .str "5 mins")])] true))]

/-- The client cancels the trip from its sheet, and asks again. -/
def secondRequestPhone : List ClientPhoneEvent :=
  requestPhone ++ acceptPhone ++ [.cancelTrip 0, .app (.session 0 .sendRequest),
    .app (.session 0 (.requestReply 1 true))]

/-- The first acceptance is handled by the dashboard. -/
theorem second_trip_starts_first : ∃ x : ClientPhone × ScreenLog,
    x.2.posted = some (0, 1) ∧ HandledBy sampleDistance x.1 0 1 acceptanceText false := by
  obtain ⟨x, hrun, htest⟩ := Machine.exists_run_of_replay
    ((machine sampleDistance).withHistory noteScreens) (fun _ _ => true)
    ({ app := .launch ClientSession.sampleDevice false }, {}) requestPhone
    (fun x => decide (1 < x.1.app.sockets.sockets.length) && x.2.posted == some (0, 1) &&
      x.2.list == some 0) (fun _ _ _ => trivial) (by decide +kernel)
  simp only [Bool.and_eq_true, beq_iff_eq, decide_eq_true_eq] at htest
  obtain ⟨⟨hsocket, hposted⟩, hlist⟩ := htest
  have hlaw := second_trip_starts ClientSession.sampleDevice false hrun (i := 0) hsocket
    acceptanceText false
  exact ⟨x, hposted, (hlaw.1 hposted ⟨_, rfl, rfl⟩).mpr hlist⟩

/-- After a cancelled trip the sheet is still the delegate: the acceptance of the second request
is not handled by the dashboard that posted it. -/
theorem second_trip_unheard : ∃ x : ClientPhone × ScreenLog,
    ((machine sampleDistance).withHistory noteScreens).Run
      ({ app := .launch ClientSession.sampleDevice false }, {}) x ∧
    2 < x.1.app.sockets.sockets.length ∧ x.2.posted = some (0, 2) ∧ x.1.isVisible 0 = true ∧
    hasType acceptanceText Trip_Status.accepted ∧
    ¬HandledBy sampleDistance x.1 0 2 acceptanceText false := by
  obtain ⟨x, hrun, htest⟩ := Machine.exists_run_of_replay
    ((machine sampleDistance).withHistory noteScreens) (fun _ _ => true)
    ({ app := .launch ClientSession.sampleDevice false }, {}) secondRequestPhone
    (fun x => decide (2 < x.1.app.sockets.sockets.length) && x.2.posted == some (0, 2) &&
      x.1.isVisible 0 && x.1.socketOwner == some (.providerDetail 0))
    (fun _ _ _ => trivial) (by decide +kernel)
  simp only [Bool.and_eq_true, beq_iff_eq, decide_eq_true_eq] at htest
  obtain ⟨⟨⟨hsocket, hposted⟩, hvisible⟩, howner⟩ := htest
  refine ⟨x, hrun, hsocket, hposted, hvisible, ⟨_, rfl, rfl⟩, ?_⟩
  intro hhandled
  exact absurd (howner.symm.trans hhandled.1) (by simp)

end ClientPhone

end WeatherAccommodation
