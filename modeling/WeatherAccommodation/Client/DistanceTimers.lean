/-
# The distance timers that run

Every acceptance that a dashboard handles starts a 30-second timer and puts it in `distanceTimer`,
which forgets the one that was there; and nobody invalidates either.  The trips end on other
screens, which do not know of the timer.  So the timers that are live are all that were ever
started (`Counted`).

* `one_timer_iff`: one timer at most is live, and none for a trip that is over, exactly if only one
  acceptance was ever handled, and no message or press has ended the trip it was for.
* `timer_outlives_trip`: the client cancels the trip, and its timer is still live.
-/
import WeatherAccommodation.Client.SecondTrip

namespace WeatherAccommodation

open Foundation Reactive

/-- How many distance timers are live on the phone: a timer keeps the dashboard it belongs to. -/
def liveTimers (sessions : List ClientSession) : Nat :=
  (sessions.map ClientSession.distanceTimers).sum

theorem liveTimers_set {s : ClientSession} (t : ClientSession) {sessions : List ClientSession}
    {i : Nat} (h : sessions[i]? = some s) :
    liveTimers (sessions.set i t) + s.distanceTimers = liveTimers sessions + t.distanceTimers := by
  induction sessions generalizing i with
  | nil => exact absurd h (by simp)
  | cons r sessions ih =>
    cases i with
    | zero =>
      obtain rfl : r = s := by simpa using h
      simp only [liveTimers, List.set_cons_zero, List.map_cons, List.sum_cons]
      omega
    | succ i =>
      have hrest := @ih i (by simpa using h)
      simp only [liveTimers, List.set_cons_succ, List.map_cons, List.sum_cons] at hrest ⊢
      omega

/-- The message is an acceptance, and the dashboard takes it for one. -/
def isAcceptanceOn (m : WebSocketManager ClientScreen) (socket : Nat) (dict : Dict) : Bool :=
  m.clientCommonDataSocket != some socket && m.clientproviderRequestSocket == some socket &&
    Dict.string? dict "RequestType" == some Trip_Status.accepted

/-! ## 1. One dashboard -/

namespace ClientSession

variable {distance : CLLocation → CLLocation → ℚ} {s t : ClientSession} {e : ClientEvent}

/-- How many timers the event starts. -/
def startedBy (m : WebSocketManager ClientScreen) : ClientEvent → Nat
  | .onMessage socket (some (.obj dict)) => if isAcceptanceOn m socket dict then 1 else 0
  | _ => 0

/-- An acceptance starts a timer, whatever it says besides. -/
theorem distanceTimers_of_requestMessage {dict : Dict}
    (h : s.requestMessage (some (.obj dict)) = .ok t) :
    t.distanceTimers = s.distanceTimers +
      if Dict.string? dict "RequestType" == some Trip_Status.accepted then 1 else 0 := by
  simp only [requestMessage, messageDict_obj, bind_eq_ok] at h
  obtain ⟨o, ho, h⟩ := h
  obtain rfl : some dict = o := Except.ok.inj ho
  cases huser : Dict.get? dict "RequestType" with
  | none =>
    simp only [huser, pure_eq_ok] at h
    simp [Dict.string?, huser, h]
  | some user =>
    simp only [huser, bind_eq_ok, unwrap_eq_ok] at h
    obtain ⟨requestType, hrt, h⟩ := h
    have htype : Dict.string? dict "RequestType" = some requestType := by
      simp [Dict.string?, huser, hrt]
    rw [htype]
    split at h
    · rename_i haccepted
      simp only [bind_eq_ok, pure_eq_ok] at h
      obtain ⟨u, hcall, rfl⟩ := h
      have hsame : u.distanceTimers = s.distanceTimers := by
        rcases callDistanceMatrixAPI_inv hcall with ⟨_, rfl⟩ | ⟨_, _, rfl⟩
        · rfl
        · rfl
      simp [haccepted, hsame]
    · rename_i hother
      rw [pure_eq_ok] at h
      simp [h, hother]

theorem startedBy_of_ping {socket : Nat} {text : Message}
    (h : s.sockets.clientCommonDataSocket = some socket) :
    startedBy s.sockets (.onMessage socket text) = 0 := by
  unfold startedBy
  split
  · rename_i heq
    cases heq
    simp [isAcceptanceOn, h]
  · rfl

theorem startedBy_of_other {socket : Nat} {text : Message}
    (h : s.sockets.clientproviderRequestSocket ≠ some socket) :
    startedBy s.sockets (.onMessage socket text) = 0 := by
  unfold startedBy
  split
  · rename_i heq
    cases heq
    simp [isAcceptanceOn, h]
  · rfl

/-- **A dashboard's timers grow with each acceptance**, and nothing takes one away. -/
theorem step_distanceTimers (h : (machine distance).Step s e t) :
    t.distanceTimers = s.distanceTimers + startedBy s.sockets e := by
  have hstep : StepOf distance s t e := step_inv h
  cases e with
  | tracingLocation l =>
    obtain rfl : t = s.tracingLocation l := hstep
    unfold tracingLocation
    split
    · rfl
    · rfl
  | onlineProviderList call response =>
    rcases onlineProviderList_inv hstep.2 with ⟨rfl, rfl⟩ | ⟨r, items, d, rfl, _, happend, hcheck⟩
    · rfl
    · rcases checkIfTripExists_inv hcheck with
        ⟨_, rfl⟩ | ⟨trip, userID, _, ⟨_, here, rfl⟩ | ⟨_, rfl⟩⟩
      · rfl
      · rfl
      · rfl
  | onMessage socket text =>
    rcases hstep with ⟨hping, d, _, rfl⟩ | ⟨hother, hlistens, hmsg⟩ | ⟨_, hother, rfl⟩
    · rw [startedBy_of_ping hping]
      rfl
    · cases text with
      | none =>
        rcases requestMessage_inv hmsg with rfl | ⟨_, ⟨heq, _⟩, _⟩
        · rfl
        · exact absurd heq (by simp)
      | some j =>
        cases j with
        | obj dict =>
          rw [distanceTimers_of_requestMessage hmsg]
          simp [startedBy, isAcceptanceOn, hother, hlistens]
        | _ =>
          rcases requestMessage_inv hmsg with rfl | ⟨_, ⟨heq, _⟩, _⟩
          · rfl
          · exact absurd heq (by simp)
    · rw [startedBy_of_other hother]
      rfl
  | sendRequest =>
    rcases sendRequest_inv hstep.2 with rfl | ⟨_, _, body, _, _, _, rfl⟩
    · rfl
    · rfl
  | requestReply call success =>
    obtain ⟨userID, _, rfl⟩ := hstep
    cases success with
    | true => rfl
    | false => rfl
  | cancelRequest =>
    obtain ⟨body, _, rfl⟩ := cancelRequestThroughWS_inv hstep.2
    rfl
  | cancelReply call success =>
    rcases cancelReply_inv hstep.2 with ⟨_, rfl⟩ | ⟨frame, _, rfl⟩
    · rfl
    · rfl
  | timerFires timer =>
    obtain ⟨_, rfl⟩ := hstep
    rfl
  | distanceReply call values success =>
    obtain ⟨dict, _, hreply⟩ := hstep
    rcases distanceReply_inv hreply with ⟨markers, _, rfl⟩ | ⟨_, _, u, markers, henter, _, rfl⟩
    · rfl
    · obtain ⟨eta, here, marker, rfl⟩ := enterTrip_inv henter
      rfl
  | distanceTimerFires =>
    rcases callDistanceMatrixAPI_inv hstep with ⟨_, rfl⟩ | ⟨dict, _, rfl⟩
    · rfl
    · rfl
  | receivingLocationUpdate text =>
    obtain ⟨_, rfl⟩ := hstep
    rfl
  | viewWillAppear =>
    obtain ⟨d, _, rfl⟩ := hstep
    rfl
  | selectedProducts products =>
    obtain ⟨d, _, rfl⟩ := hstep
    rfl
  | elsewhere device busy =>
    obtain rfl : t = { s with device := device, isPresenting := busy } := hstep
    rfl

/-- A list or a travel time that comes too late starts none. -/
theorem lateProviderList_timers {response : Dict}
    (h : s.lateProviderList distance response = .ok t) : t.distanceTimers = s.distanceTimers := by
  simp only [lateProviderList, bind_eq_ok, unwrap_eq_ok] at h
  obtain ⟨items, _, d, _, hcheck⟩ := h
  obtain ⟨trip, userID, _, _, rfl⟩ := lateTripExists_inv hcheck
  rfl

theorem lateDistanceReply_timers {dict values : Dict}
    (h : s.lateDistanceReply dict values = .ok t) : t.distanceTimers = s.distanceTimers := by
  simp only [lateDistanceReply, lateEnterTrip, bind_eq_ok, unwrap_eq_ok, forceInt_eq_ok,
    pure_eq_ok] at h
  obtain ⟨_, ⟨_, _, _, _, _, _, rfl⟩, _, _, _, _, rfl⟩ := h
  rfl

end ClientSession

/-! ## 2. The app -/

namespace ClientApp

variable {distance : CLLocation → CLLocation → ℚ} {a b : ClientApp} {e : AppEvent}

def startedBy (a : ClientApp) : AppEvent → Nat
  | .session _ e => ClientSession.startedBy a.sockets e
  | _ => 0

theorem liveTimers_store {i : Nat} {s t : ClientSession} {n : Nat} (hs : a.sessions[i]? = some s)
    (h : t.distanceTimers = s.distanceTimers + n) :
    liveTimers (a.store i t).sessions = liveTimers a.sessions + n := by
  have hset := liveTimers_set t hs
  simp only [store]
  omega

theorem distanceTimers_of_notifyProducts {products : List ProductKit}
    {sessions sessions' : List ClientSession}
    (h : notifyProducts products sessions = .ok sessions') :
    sessions'.map ClientSession.distanceTimers = sessions.map ClientSession.distanceTimers := by
  have hall := notifyProducts_inv h
  clear h
  induction hall with
  | nil => rfl
  | cons hfirst _ ih =>
    obtain ⟨d, _, rfl⟩ := hfirst
    simp only [List.map_cons, ih]
    rfl

/-- Dashboards come without a timer, and keep what they have. -/
theorem step_liveTimers (h : (machine distance).Step a e b) :
    liveTimers b.sessions = liveTimers a.sessions + a.startedBy e := by
  have hof : StepOf distance a b e := step_inv h
  have hpush : ∀ {c : ClientApp} {device : Device},
      liveTimers (c.sessions ++ [{ device := device }]) = liveTimers c.sessions := by
    intro c device
    simp [liveTimers]
  by_cases htouches : touchesDashboards e = true
  · cases e with
    | session i ev =>
      obtain ⟨_, s, t, hs, hstep, rfl⟩ := hof
      exact liveTimers_store hs (ClientSession.step_distanceTimers hstep)
    | signInReply reply =>
      rcases signInReply_inv hof.2 with ⟨_, rfl⟩ | ⟨_, _, _, _, _, rfl⟩
      · rfl
      · exact hpush
    | pushDashboard =>
      obtain ⟨_, rfl⟩ := pushDashboard_inv hof.2
      exact hpush
    | nextPressed kits =>
      obtain ⟨charge, selected, _, ⟨rfl, _⟩ | ⟨products, sessions, _, _, hnotify, rfl⟩⟩ :=
        nextPressed_inv hof
      · rfl
      · exact congrArg List.sum (distanceTimers_of_notifyProducts hnotify)
    | _ => exact absurd htouches (by simp [touchesDashboards])
  · rw [(untouched hof (by simpa using htouches)).1]
    cases e with
    | session _ _ => exact absurd rfl htouches
    | _ => rfl

end ClientApp

/-! ## 3. The phone, and the trips its timers were started for -/

namespace ClientPhone

variable {distance : CLLocation → CLLocation → ℚ} {p q : ClientPhone} {e : ClientPhoneEvent}

/-- The acceptance that a dashboard handles. -/
def startsTimer (p : ClientPhone) : ClientPhoneEvent → Option Dict
  | .onMessage socket (some (.obj dict)) _ =>
    match p.socketOwner with
    | some (.dashboard _) => if isAcceptanceOn p.app.sockets socket dict then some dict else none
    | _ => none
  | _ => none

/-- The trip of the screen that hears the messages. -/
def delegateTrip (p : ClientPhone) : Option Dict :=
  match p.socketOwner with
  | some (.dashboard i) =>
    (p.app.sessions[i]?.map fun s => s.dashboard.currentRequest).filter fun trip => !trip.isEmpty
  | some (.providerDetail j) => p.sheets[j]?.map TripProviderDetail.currentRequest
  | some (.clientTrip k) => p.trips[k]?.map ClientTrip.currentRequest
  | _ => none

/-- The trips that the event ends.  The client cancels one, or some screen hears of the provider's
cancellation or of the end: it is the trip of that screen, and the one that the message names. -/
def tripsEndedBy (p : ClientPhone) : ClientPhoneEvent → List Dict
  | .cancelTrip j => (p.sheets[j]?.map TripProviderDetail.currentRequest).toList
  | .btnSubmitPressed _ _ =>
    ((p.alert.bind fun m => p.alerts[m]?).map RequestCancelAlert.currentRequest).toList
  | .onMessage socket (some (.obj dict)) _ =>
    if p.app.sockets.clientproviderRequestSocket = some socket ∧
        (Dict.string? dict "RequestType" = some Trip_Status.cancelled ∨
          Dict.string? dict "RequestType" = some Request_Status.ended) then
      p.delegateTrip.toList ++ [dict].filter fun trip => (tripId trip).isSome
    else []
  | _ => []

structure TimerLog where
  /-- The trips that timers were started for. -/
  started : List Dict := []
  /-- The trips that were cancelled, or ended. -/
  ended : List Dict := []

/-- The log after an event that can be handled. -/
def noteTimers (log : TimerLog) (p : ClientPhone) (e : ClientPhoneEvent) (_ : ClientPhone) :
    TimerLog where
  started := log.started ++ (p.startsTimer e).toList
  ended := log.ended ++ p.tripsEndedBy e

def isSameTrip (a b : Dict) : Bool := tripId a == tripId b

def TimerLog.isOver (log : TimerLog) (trip : Dict) : Bool := log.ended.any (isSameTrip trip)

/-- One timer at most is live, and no more than there are trips with a timer that go on. -/
def OneTimer (x : ClientPhone × TimerLog) : Prop :=
  liveTimers x.1.app.sessions ≤ 1 ∧
    liveTimers x.1.app.sessions ≤ (x.2.started.filter fun trip => !x.2.isOver trip).length

/-- If the event starts a timer, then it is the first one, and its trip goes on; and no timer was
started for a trip that it ends. -/
def keepsOneTimer (x : ClientPhone × TimerLog) (e : ClientPhoneEvent) : Bool :=
  ((x.1.startsTimer e).all fun trip => x.2.started.isEmpty && !x.2.isOver trip) &&
    (x.1.tripsEndedBy e).all fun trip => x.2.started.all fun started => !isSameTrip started trip

theorem startsTimer_of_dashboard {socket i : Nat} {text : Message} {inBackground : Bool}
    (owner : p.socketOwner = some (.dashboard i)) :
    (p.startsTimer (.onMessage socket text inBackground)).toList.length =
      ClientSession.startedBy p.app.sockets (.onMessage socket text) := by
  cases text with
  | none => rfl
  | some j =>
    cases j with
    | obj dict =>
      simp only [startsTimer, owner, ClientSession.startedBy]
      split
      · rfl
      · rfl
    | _ => rfl

theorem startsTimer_of_owner {socket : Nat} {text : Message} {inBackground : Bool}
    (h : ∀ i, p.socketOwner ≠ some (.dashboard i)) :
    p.startsTimer (.onMessage socket text inBackground) = none := by
  unfold startsTimer
  split
  · rename_i heq
    cases heq
    split
    · rename_i i howner
      exact absurd howner (h i)
    · rfl
  · rfl

/-- Of the events that the phone passes to its dashboards, only a message starts a timer. -/
theorem startedBy_of_admitted {ev : AppEvent} (h : p.admits ev = true) :
    p.app.startedBy ev = 0 := by
  cases ev with
  | session i ev =>
    cases ev with
    | onMessage socket text => exact absurd h (by simp [admits])
    | _ => rfl
  | _ => rfl

/-- A message starts a timer if it is an acceptance for a dashboard. -/
theorem onMessage_liveTimers {socket : Nat} {text : Message} {inBackground : Bool}
    (h : Delivers distance p q socket text inBackground) :
    liveTimers q.app.sessions = liveTimers p.app.sessions +
      (p.startsTimer (.onMessage socket text inBackground)).toList.length := by
  cases h with
  | dashboard owner step after =>
    rw [startsTimer_of_dashboard owner, after, ClientApp.step_liveTimers step]
    rfl
  | @sheet j sheet owner listed handled =>
    rw [startsTimer_of_owner fun i hi => by simp [owner] at hi]
    rcases sheetMessage_inv handled with rfl | ⟨_, hreacts⟩
    · rfl
    · cases hreacts with
      | nothing after => rw [after]; rfl
      | reached _ _ after => rw [after, sessions_pushTrip, app_dismissFrom]; rfl
      | cancelled _ after => rw [after, app_dismissFrom]; rfl
      | located step after =>
        rw [after, ClientApp.step_liveTimers step]
        rfl
      | started _ _ _ after => rw [after, sessions_pushTrip, app_dismissFrom]; rfl
  | trip owner _ handled =>
    rw [startsTimer_of_owner fun i hi => by simp [owner] at hi]
    rcases tripMessage_inv handled with rfl | ⟨_, screen', _, rfl⟩
    · rfl
    · rfl

/-- **The phone's timers grow with each acceptance that a dashboard handles.** -/
theorem step_liveTimers (h : (machine distance).Step p e q) :
    liveTimers q.app.sessions =
      liveTimers p.app.sessions + (p.startsTimer e).toList.length := by
  by_cases hmessage : ∃ socket text inBackground, e = .onMessage socket text inBackground
  · obtain ⟨socket, text, inBackground, rfl⟩ := hmessage
    exact onMessage_liveTimers (step_inv h)
  · have hnone : p.startsTimer e = none := by
      unfold startsTimer
      split
      · exact absurd ⟨_, _, _, rfl⟩ hmessage
      · rfl
    rw [hnone]
    cases step_app h with
    | own ev admitted step sessions _ =>
      rw [sessions, ClientApp.step_liveTimers step, startedBy_of_admitted admitted]
      rfl
    | passed step asks after =>
      rw [after, ClientApp.step_liveTimers step]
      cases asks with
      | app ev own admitted =>
        rw [startedBy_of_admitted admitted]
        rfl
      | told l owner => rfl
      | message socket text inBackground owner => exact absurd ⟨_, _, _, rfl⟩ hmessage
      | passedOn socket text inBackground => exact absurd ⟨_, _, _, rfl⟩ hmessage
    | lateList k call response listed late after =>
      have hsame := ClientSession.lateProviderList_timers late
      rw [after]
      exact ClientApp.liveTimers_store listed hsame
    | lateDistance k call values listed late after =>
      have hsame := ClientSession.lateDistanceReply_timers late
      rw [after]
      exact ClientApp.liveTimers_store listed hsame
    | quiet sessions _ =>
      rw [sessions]
      rfl

/-! ## 4. The law -/

/-- The timers that are live are all that were ever started. -/
def Counted (x : ClientPhone × TimerLog) : Prop :=
  liveTimers x.1.app.sessions = x.2.started.length

/-- A list is no longer than a part of it only if it is that part. -/
theorem Counted.oneTimer_iff {x : ClientPhone × TimerLog} (hx : Counted x) :
    OneTimer x ↔ x.2.started.length ≤ 1 ∧ ∀ trip ∈ x.2.started, x.2.isOver trip = false := by
  rw [OneTimer, hx]
  refine and_congr_right fun _ => ?_
  constructor
  · intro hle trip htrip
    have heq := Nat.le_antisymm (List.length_filter_le _ _) hle
    simpa using List.length_filter_eq_length_iff.mp heq trip htrip
  · intro hall
    refine (List.length_filter_eq_length_iff.mpr fun trip htrip => ?_).ge
    simp [hall trip htrip]

/-- An event starts a timer or ends a trip, or neither. -/
theorem startsTimer_or_tripsEndedBy (p : ClientPhone) (e : ClientPhoneEvent) :
    p.startsTimer e = none ∨ p.tripsEndedBy e = [] := by
  cases hstarts : p.startsTimer e with
  | none => exact Or.inl rfl
  | some trip =>
    right
    unfold startsTimer at hstarts
    split at hstarts
    · rename_i dict _
      have haccepted : Dict.string? dict "RequestType" = some Trip_Status.accepted := by
        split at hstarts
        · split at hstarts
          · rename_i hon
            simp only [isAcceptanceOn, Bool.and_eq_true, beq_iff_eq] at hon
            exact hon.2
          · exact absurd hstarts (by simp)
        · exact absurd hstarts (by simp)
      simp [tripsEndedBy, haccepted, Trip_Status.accepted, Trip_Status.cancelled,
        Request_Status.ended]
    · exact absurd hstarts (by simp)

/-- **One step** keeps the count, and the law exactly if the event does. -/
theorem Counted.step {log : TimerLog} (hx : Counted (p, log))
    (hstep : (machine distance).Step p e q) :
    Counted (q, noteTimers log p e q) ∧
      (OneTimer (q, noteTimers log p e q) ↔
        OneTimer (p, log) ∧ keepsOneTimer (p, log) e = true) := by
  have hcount : liveTimers p.app.sessions = log.started.length := hx
  have hnext : Counted (q, noteTimers log p e q) := by
    rw [Counted, step_liveTimers hstep, hcount, noteTimers, List.length_append]
  refine ⟨hnext, ?_⟩
  rw [hnext.oneTimer_iff, hx.oneTimer_iff]
  rcases startsTimer_or_tripsEndedBy p e with hstarts | hends
  · -- the trips must not be among those that timers were started for
    simp only [noteTimers, keepsOneTimer, TimerLog.isOver, hstarts, Option.toList_none,
      List.append_nil, List.any_append, Bool.or_eq_false_iff, Option.all_none, Bool.true_and,
      List.all_eq_true, Bool.not_eq_true']
    constructor
    · rintro ⟨hlen, hall⟩
      exact ⟨⟨hlen, fun started hstarted => (hall started hstarted).1⟩,
        fun trip htrip started hstarted => by
          simpa using List.any_eq_false.mp (hall started hstarted).2 trip htrip⟩
    · rintro ⟨⟨hlen, hall⟩, hother⟩
      exact ⟨hlen, fun started hstarted => ⟨hall started hstarted, List.any_eq_false.mpr
        fun trip htrip => by simp [hother trip htrip started hstarted]⟩⟩
  · cases hstarts : p.startsTimer e with
    | none => simp [noteTimers, keepsOneTimer, TimerLog.isOver, hstarts, hends]
    | some trip =>
      simp only [noteTimers, keepsOneTimer, TimerLog.isOver, hstarts, hends, Option.toList_some,
        List.append_nil, Option.all_some, List.all_nil, Bool.and_true,
        List.length_append, List.length_singleton, Bool.and_eq_true, List.isEmpty_iff,
        Bool.not_eq_true']
      constructor
      · rintro ⟨hlen, hall⟩
        have hnil : log.started = [] := List.length_eq_zero_iff.mp (by omega)
        exact ⟨by simp [hnil], hnil, hall trip (by simp)⟩
      · rintro ⟨_, hnil, hgoes⟩
        refine ⟨by simp [hnil], fun started hstarted => ?_⟩
        obtain rfl : started = trip := by simpa [hnil] using hstarted
        exact hgoes

/-- **How many distance timers run.**  From any launch, over every run of acceptances,
cancellations, ended trips and everything else: one timer at most is live, and none for a trip that
was cancelled or has ended, exactly if no acceptance was handled after another one or for a trip
that was over, and no trip ended that an acceptance was handled for. -/
theorem one_timer_iff (device : Device) (onMain : Bool) {x : ClientPhone × TimerLog}
    (hrun : ((machine distance).withHistory noteTimers).Run
      ({ app := .launch device onMain }, {}) x) :
    OneTimer x ↔ ((machine distance).withHistory noteTimers).RunWhere
      (fun x e => keepsOneTimer x e = true) ({ app := .launch device onMain }, {}) x := by
  have h₀ : Counted ({ app := .launch device onMain }, {}) := rfl
  have hI : OneTimer ({ app := .launch device onMain }, {}) :=
    h₀.oneTimer_iff.mpr ⟨Nat.zero_le 1, by simp⟩
  refine hrun.iff_of_steps h₀ hI ?_
  rintro ⟨p, log⟩ e ⟨q, log'⟩ hx hstep
  obtain ⟨hs, hlog⟩ := Machine.withHistory_step.mp hstep
  obtain rfl : log' = noteTimers log p e q := hlog
  exact hx.step hs

/-! ## 5. One trip -/

/-- The acceptance was handled, and the trip goes on. -/
theorem one_timer_iff_accepted : ∃ x : ClientPhone × TimerLog,
    liveTimers x.1.app.sessions = 1 ∧ OneTimer x := by
  obtain ⟨x, hrun, htest⟩ := Machine.exists_run_of_replay
    ((machine sampleDistance).withHistory noteTimers) keepsOneTimer
    ({ app := .launch ClientSession.sampleDevice false }, {}) (requestPhone ++ acceptPhone)
    (fun x => liveTimers x.1.app.sessions == 1) (fun _ _ h => h) (by decide +kernel)
  have hone := (one_timer_iff ClientSession.sampleDevice false hrun.run).mpr hrun
  exact ⟨x, by simpa using htest, hone⟩

/-- **The timer outlives its trip**, which the client has cancelled from the sheet. -/
theorem timer_outlives_trip :
    ¬∀ (device : Device) (onMain : Bool) (x : ClientPhone × TimerLog),
      ((machine sampleDistance).withHistory noteTimers).Run
        ({ app := .launch device onMain }, {}) x → OneTimer x := by
  intro hall
  obtain ⟨x, hrun, htest⟩ := Machine.exists_run_of_replay
    ((machine sampleDistance).withHistory noteTimers) (fun _ _ => true)
    ({ app := .launch ClientSession.sampleDevice false }, {})
    (requestPhone ++ acceptPhone ++ [.cancelTrip 0])
    (fun x => liveTimers x.1.app.sessions == 1 && x.2.started.all x.2.isOver)
    (fun _ _ _ => trivial) (by decide +kernel)
  obtain ⟨hlive, hover⟩ := Bool.and_eq_true_iff.mp htest
  have hlive : liveTimers x.1.app.sessions = 1 := by simpa using hlive
  have hnone : (x.2.started.filter fun trip => !x.2.isOver trip) = [] := by
    simpa [List.filter_eq_nil_iff] using hover
  have hle := (hall ClientSession.sampleDevice false x hrun).2
  rw [hlive, hnone] at hle
  exact absurd hle (by simp)

end ClientPhone

end WeatherAccommodation
