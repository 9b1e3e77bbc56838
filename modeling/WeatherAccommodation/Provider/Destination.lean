/-
# Where the provider is led

The trip is in `currentAcceptedRequest`, but the way to the client is read off `currentRequest`, at
three times: when the acceptance comes back, when the directions arrive, and at every press of
the navigation button.  By then `currentRequest` is whatever the dashboard was shown last.

The history says what a dashboard was shown last, which request was on screen at the `Accept`
that opened a socket, and for which of them a trip and a call for directions are.  The condition
on a step is that the request shown last is at the same place (`leads_to_accepted`); without it
the way goes to somebody else (`leads_to_another`).
-/
import WeatherAccommodation.Provider.PhoneSteps
import WeatherAccommodation.Provider.RequestView

namespace WeatherAccommodation

open Foundation Reactive

/-! ## 1. What was shown last -/

namespace ProviderDashboard

/-- The request that is current after a text was shown. -/
def shownAfter (last : Option Dict) (text : Message) : Option Dict := (clientData text).or last

/-- The request that is current after a text came in; none after a withdrawal. -/
def heardAfter (last : Option Dict) (text : Message) (unseen : Bool) : Option Dict :=
  if statusOf text = some Request_Status.requested then
    if unseen then last else shownAfter last text
  else if statusOf text = some Request_Status.cancelled then none
  else last

/-- The request that was shown last, if it was not withdrawn, is the current one. -/
def Recalls (last : Option Dict) (d : ProviderDashboard) : Prop :=
  ∀ request, last = some request → d.currentRequest = some request

namespace Recalls

variable {last : Option Dict} {d d' : ProviderDashboard}

theorem nothing (d : ProviderDashboard) : Recalls none d := by
  intro request h
  exact absurd h (by simp)

theorem of_same (h : Recalls last d) (hsame : d'.currentRequest = d.currentRequest) :
    Recalls last d' := by
  intro request hlast
  rw [hsame]
  exact h request hlast

theorem showRequest (h : Recalls last d) {text : Message} (hd : d.showRequestUI text = .ok d') :
    Recalls (shownAfter last text) d' := by
  rcases showRequestUI_inv hd with ⟨hnone, rfl⟩ | ⟨request, habout, hcase⟩
  · have hno : clientData text = none := by
      rw [Option.eq_none_iff_forall_ne_some]
      intro request hrequest
      exact hnone request (clientData_eq_some.mp hrequest)
    rw [shownAfter, hno]
    exact h
  · have hcurrent : d'.currentRequest = some request := by
      rcases hcase with ⟨_, rfl⟩ | ⟨_, rfl⟩ | ⟨_, rfl⟩
      · rfl
      · rfl
      · rfl
    intro other hother
    rw [shownAfter, clientData_eq_some.mpr habout] at hother
    rw [hcurrent, ← hother]
    rfl

theorem message (h : Recalls last d) {text : Message} {state : ApplicationState}
    {selectedIndex : Nat} (hd : d.providerMessage text state selectedIndex = .ok d') :
    Recalls (heardAfter last text (decide (Unseen state selectedIndex))) d' := by
  rcases providerMessage_inv hd with ⟨hother, rfl⟩ | ⟨request, hrequest, hcase⟩ |
    ⟨request, hrequest, rfl⟩ | ⟨request, hrequest, rfl⟩
  · have hstatus : ∀ status, statusOf text = some status →
        status ≠ Request_Status.requested ∧ status ≠ Request_Status.cancelled := by
      intro status hstatus
      obtain ⟨request, hclient, hvalue⟩ := Option.bind_eq_some_iff.mp hstatus
      exact hother request status ⟨clientData_eq_some.mp hclient, hvalue⟩
    rw [heardAfter, if_neg fun heq => (hstatus _ heq).1 rfl, if_neg fun heq => (hstatus _ heq).2 rfl]
    exact h
  · rw [heardAfter, if_pos (statusOf_of_isRequest hrequest)]
    rcases hcase with ⟨hunseen, rfl⟩ | ⟨hseen, hshow⟩
    · rw [if_pos (by simpa using hunseen)]
      exact h.of_same rfl
    · rw [if_neg (by simpa using hseen)]
      exact h.showRequest hshow
  · have hne : some Request_Status.cancelled ≠ some Request_Status.requested := by decide
    rw [heardAfter, statusOf_of_isRequest hrequest, if_neg hne, if_pos rfl]
    exact .nothing _
  · have hne : some Trip_Status.accepted ≠ some Request_Status.requested := by decide
    have hne' : some Trip_Status.accepted ≠ some Request_Status.cancelled := by decide
    rw [heardAfter, statusOf_of_isRequest hrequest, if_neg hne, if_neg hne']
    exact h.of_same rfl

end Recalls

end ProviderDashboard

/-! ## 2. The history -/

/-- For whom a dashboard is on its way, by numbers. -/
structure RouteHistory where
  /-- What a dashboard was shown last. -/
  last : Nat → Option Dict
  /-- What was on screen at the `Accept` that opened a socket. -/
  accepted : Nat → Option Dict
  /-- The accepted request of a dashboard's trip. -/
  trip : Nat → Option Dict
  /-- The accepted request that a dashboard's call for directions is for. -/
  calls : Nat → Nat → Option Dict

namespace RouteHistory

def start : RouteHistory := ⟨fun _ => none, fun _ => none, fun _ => none, fun _ _ => none⟩

def hear (h : RouteHistory) (i : Nat) (last : Option Dict) : RouteHistory :=
  { h with last := Function.update h.last i last }

def press (h : RouteHistory) (socket : Nat) (shown : Option Dict) : RouteHistory :=
  { h with accepted := Function.update h.accepted socket shown }

/-- A trip starts on the socket, with a call for directions. -/
def depart (h : RouteHistory) (i call socket : Nat) : RouteHistory :=
  { h with
    trip := Function.update h.trip i (h.accepted socket)
    calls := Function.update h.calls i (Function.update (h.calls i) call (h.accepted socket)) }

theorem hear_last_self (h : RouteHistory) (i : Nat) (last : Option Dict) :
    (h.hear i last).last i = last := by
  simp [hear]

theorem hear_last_of_ne (h : RouteHistory) {i k : Nat} (last : Option Dict) (hk : k ≠ i) :
    (h.hear i last).last k = h.last k := by
  simp [hear, hk]

end RouteHistory

namespace ProviderApp

open ProviderDashboard (shown shownAfter heardAfter Unseen isAcceptance)

/-- The dashboard that gets a message on the request socket. -/
def isForTrip (a : ProviderApp) (socket : Nat) (text : Message) : Bool :=
  a.sockets.providerConnectionSocket != some socket &&
    a.sockets.clientproviderRequestSocket == some socket && isAcceptance text

/-- What an event of the app adds to the history. -/
def noteRoute (h : RouteHistory) (a : ProviderApp) : ProviderEvent → RouteHistory
  | .viewDidLoad => h.hear a.dashboards.length none
  | .willEnterForeground i =>
    match a.dashboards[i]? with
    | some d =>
      if a.device.appDelegate.showRequestUI then
        h.hear i (shownAfter (h.last i) d.requestDetail)
      else h
    | none => h
  | .btnCancelRequest i => h.hear i none
  | .btnAcceptRequest i => h.press a.sockets.sockets.length (a.dashboards[i]?.bind shown)
  | .onMessage socket text state selectedIndex =>
    match a.sockets.delegate with
    | some (.dashboard i) =>
      if a.sockets.providerConnectionSocket = some socket then
        h.hear i (heardAfter (h.last i) text (decide (Unseen state selectedIndex)))
      else if a.isForTrip socket text then
        match a.dashboards[i]? with
        | some d => h.depart i d.directionsCalls.issued socket
        | none => h
      else h
    | _ => h
  | _ => h

/-- Only what speaks to a dashboard, or a button on it, changes what it was shown last. -/
theorem noteRoute_last (h : RouteHistory) {a : ProviderApp} {i : Nat} {e : ProviderEvent}
    (hi : i < a.dashboards.length) (hquiet : ¬Speaks a i e) :
    (noteRoute h a e).last i = h.last i ∨ (noteRoute h a e).last i = none := by
  cases e with
  | viewDidLoad => exact Or.inl (h.hear_last_of_ne none (by omega))
  | willEnterForeground j =>
    simp only [noteRoute]
    split
    · split
      · rename_i hflag
        by_cases hij : i = j
        · exact absurd ⟨hij.symm, hflag⟩ hquiet
        · exact Or.inl (h.hear_last_of_ne _ hij)
      · exact Or.inl rfl
    · exact Or.inl rfl
  | btnCancelRequest j =>
    by_cases hij : i = j
    · subst hij
      exact Or.inr (h.hear_last_self i none)
    · exact Or.inl (h.hear_last_of_ne none hij)
  | onMessage socket text state selectedIndex =>
    simp only [noteRoute]
    split
    · rename_i j hdelegate
      split
      · rename_i hsocket
        by_cases hij : i = j
        · subst hij
          exact absurd ⟨hdelegate, hsocket⟩ hquiet
        · exact Or.inl (h.hear_last_of_ne _ hij)
      · split
        · split
          · exact Or.inl rfl
          · exact Or.inl rfl
        · exact Or.inl rfl
    · exact Or.inl rfl
  | _ => exact Or.inl rfl

end ProviderApp

namespace ProviderPhone

variable {distance : CLLocation → CLLocation → ℚ}

/-- The history variable. -/
def noteRoute (h : RouteHistory) (p : ProviderPhone) (e : PhoneEvent) (_ : ProviderPhone) :
    RouteHistory :=
  match e with
  | .app e => ProviderApp.noteRoute h p.app e
  | _ => h

/-! ## 3. The law and the condition -/

/-- The accepted request that a route is for. -/
def tripOf (h : RouteHistory) : Route → Option Dict
  | .directions i _ _ => h.trip i
  | .clientMarker i call _ => h.calls i call
  | .navigation i _ _ => h.trip i

/-- Where the client of a request is. -/
def placeOf (request : Dict) : Except Trap CLLocation :=
  ProviderDashboard.clientLocation { currentRequest := some request }

/-- The route leads to the latitude and longitude of the request. -/
def IsToward (request : Dict) : Route → Prop
  | .directions _ latitude longitude =>
    Dict.get? request "latitude" = some latitude ∧ Dict.get? request "longitude" = some longitude
  | .clientMarker _ _ position => placeOf request = .ok position
  | .navigation _ latitude longitude =>
    Dict.get? request "latitude" = some latitude ∧ Dict.get? request "longitude" = some longitude

/-- What the step from `x` to `y` tells the map leads to the client of the accepted request. -/
def LeadsToAccepted (x y : ProviderPhone × RouteHistory) : Prop :=
  ∀ route ∈ y.1.routes.drop x.1.routes.length, ∀ request, tripOf y.2 route = some request →
    IsToward request route

def isSamePlace (request other : Dict) : Bool :=
  Dict.get? request "latitude" == Dict.get? other "latitude" &&
    Dict.get? request "longitude" == Dict.get? other "longitude"

/-- The request shown last is there, and at the place of the accepted one. -/
def isStillThere (last accepted : Option Dict) : Bool :=
  accepted.all fun request => last.any fun other => isSamePlace request other

/-- The condition on a step: when the way is looked up, the request that the dashboard was shown
last is at the place of the accepted one. -/
def isStillLed (x : ProviderPhone × RouteHistory) : PhoneEvent → Bool
  | .app (.onMessage socket text _ _) =>
    match x.1.app.sockets.delegate with
    | some (.dashboard i) =>
      !x.1.app.isForTrip socket text || isStillThere (x.2.last i) (x.2.accepted socket)
    | _ => true
  | .app (.directionsReply i call success) =>
    !success || isStillThere (x.2.last i) (x.2.calls i call)
  | .lateDirections i call => isStillThere (x.2.last i) (x.2.calls i call)
  | .btnNavigationPressed i => isStillThere (x.2.last i) (x.2.trip i)
  | _ => true

/-! ## 4. The invariant -/

/-- Every dashboard recalls what it was shown last. -/
def Recalling (x : ProviderPhone × RouteHistory) : Prop :=
  ∀ (i : Nat) (d : ProviderDashboard), x.1.app.dashboards[i]? = some d → d.Recalls (x.2.last i)

namespace Recalling

open ProviderApp (DashboardMove)

/-- One dashboard, through whatever happens to it. -/
theorem move {h : RouteHistory} {a : ProviderApp} {i : Nat} {d d' : ProviderDashboard}
    {e : ProviderEvent} (hd : a.dashboards[i]? = some d) (hrecalls : d.Recalls (h.last i))
    (hmove : DashboardMove distance a i d e d') :
    d'.Recalls ((ProviderApp.noteRoute h a e).last i) := by
  have hi : i < a.dashboards.length := (List.getElem?_eq_some_iff.mp hd).1
  cases hmove with
  | stay quiet =>
    rcases ProviderApp.noteRoute_last h hi quiet with hsame | hnone
    · rw [hsame]
      exact hrecalls
    · rw [hnone]
      exact .nothing d
  | appear =>
    refine hrecalls.of_same ?_
    unfold ProviderDashboard.clearTrip
    split
    · rfl
    · rfl
  | foreground flag shown =>
    simp only [ProviderApp.noteRoute, hd, flag, if_true]
    rw [h.hear_last_self]
    exact hrecalls.showRequest shown
  | decline =>
    simp only [ProviderApp.noteRoute]
    rw [h.hear_last_self]
    exact .nothing _
  | accept _ => exact hrecalls.of_same rfl
  | switch isOn on valid => exact hrecalls.of_same rfl
  | ring => exact hrecalls.of_same rfl
  | directions call success marked _ => exact hrecalls.of_same rfl
  | location _ told =>
    obtain ⟨_, rfl⟩ := ProviderDashboard.tracingLocation_inv told
    exact hrecalls.of_same rfl
  | disconnect code => exact hrecalls.of_same rfl
  | status delegate listens handled =>
    simp only [ProviderApp.noteRoute, delegate, listens, if_true]
    rw [h.hear_last_self]
    exact hrecalls.message handled
  | @request socket selectedIndex text state _ delegate other listens handled =>
    have hlast : (ProviderApp.noteRoute h a (.onMessage socket text state selectedIndex)).last i =
        h.last i := by
      simp only [ProviderApp.noteRoute, delegate, if_neg other, hd]
      split
      · rfl
      · rfl
    rw [hlast]
    rcases ProviderDashboard.requestMessage_inv handled with rfl | ⟨_, _, rfl⟩
    · exact hrecalls
    · exact hrecalls.of_same rfl

theorem start (device : Device) :
    Recalling ({ app := { device := device } }, .start) := by
  intro i d hd
  exact absurd hd (by simp)

theorem noteRoute_of_inner {h : RouteHistory} {p q : ProviderPhone} {e : PhoneEvent}
    {ev : ProviderEvent} (hinner : inner e = some ev) :
    noteRoute h p e q = ProviderApp.noteRoute h p.app ev := by
  cases e with
  | app e =>
    obtain rfl := Option.some.inj hinner
    rfl
  | lateDirections i call =>
    obtain rfl := Option.some.inj hinner
    rfl
  | didUpdateLocations l =>
    obtain rfl := Option.some.inj hinner
    rfl
  | didDisconnect socket code =>
    obtain rfl := Option.some.inj hinner
    rfl
  | _ => exact absurd hinner (by simp [inner])

theorem noteRoute_of_none {h : RouteHistory} {p q : ProviderPhone} {e : PhoneEvent}
    (hinner : inner e = none) : noteRoute h p e q = h := by
  cases e with
  | app e => exact absurd hinner (by simp [inner])
  | _ => rfl

/-- **One step of the phone.** -/
theorem step {x y : ProviderPhone × RouteHistory} {e : PhoneEvent} (hx : Recalling x)
    (hstep : ((machine distance).withHistory noteRoute).Step x e y) : Recalling y := by
  obtain ⟨hpq, hnote⟩ := Machine.withHistory_step.mp hstep
  intro i d' hd'
  rw [hnote]
  rcases step_dashboard hpq hd' with ⟨d, hd, hmove⟩ | ⟨rfl, rfl, trip, rfl⟩
  · cases hmove with
    | stay event same =>
      subst same
      rw [noteRoute_of_none event]
      exact hx i d' hd
    | move event h =>
      rw [noteRoute_of_inner event]
      exact move hd (hx i d hd) h
  · simp only [noteRoute, ProviderApp.noteRoute]
    rw [RouteHistory.hear_last_self]
    exact .nothing _

end Recalling

/-! ## 5. Routes that a step adds -/

section Routes

variable {d : ProviderDashboard} {request other : Dict}

/-- What is still there is the current request, and at the same place. -/
theorem samePlace_of_isStillThere {last : Option Dict} (hrecalls : d.Recalls last)
    (hstill : isStillThere last (some request) = true) :
    ∃ other, d.currentRequest = some other ∧ isSamePlace request other = true := by
  cases last with
  | none => exact absurd hstill (by simp [isStillThere])
  | some other => exact ⟨other, hrecalls other rfl, by simpa [isStillThere] using hstill⟩

theorem latitude_of_isSamePlace (h : isSamePlace request other = true) :
    Dict.get? request "latitude" = Dict.get? other "latitude" := by
  simp only [isSamePlace, Bool.and_eq_true, beq_iff_eq] at h
  exact h.1

theorem longitude_of_isSamePlace (h : isSamePlace request other = true) :
    Dict.get? request "longitude" = Dict.get? other "longitude" := by
  simp only [isSamePlace, Bool.and_eq_true, beq_iff_eq] at h
  exact h.2

/-- The destination of a dashboard is that of any request at the place of its current one. -/
theorem destination_of_isSamePlace {latitude longitude : Json}
    (hd : d.destination = .ok (latitude, longitude)) (hcurrent : d.currentRequest = some other)
    (hsame : isSamePlace request other = true) :
    Dict.get? request "latitude" = some latitude ∧
      Dict.get? request "longitude" = some longitude := by
  obtain ⟨read, hread, hlat, hlong⟩ := ProviderDashboard.destination_inv hd
  obtain rfl : other = read := Option.some.inj (hcurrent.symm.trans hread)
  rw [latitude_of_isSamePlace hsame, longitude_of_isSamePlace hsame]
  exact ⟨hlat, hlong⟩

/-- So is the location. -/
theorem placeOf_of_isSamePlace {position : CLLocation} (hd : d.clientLocation = .ok position)
    (hcurrent : d.currentRequest = some other) (hsame : isSamePlace request other = true) :
    placeOf request = .ok position := by
  have hkey : ∀ {d : ProviderDashboard} {request : Dict} (key : String),
      d.currentRequest = some request → d.requestKey key = forceKey request key := by
    intro d request key h
    simp only [ProviderDashboard.requestKey, h]
    rfl
  rw [← hd]
  simp only [placeOf, ProviderDashboard.clientLocation, ProviderDashboard.requestNumber,
    hkey _ hcurrent]
  rw [hkey _ rfl, hkey _ rfl]
  simp only [forceKey, latitude_of_isSamePlace hsame, longitude_of_isSamePlace hsame]

theorem mem_messageRoutes {a : ProviderApp} {socket : Nat} {text : Message} {route : Route}
    (h : route ∈ a.messageRoutes socket text) :
    ∃ i d latitude longitude, a.sockets.delegate = some (.dashboard i) ∧
      a.isForTrip socket text = true ∧ a.dashboards[i]? = some d ∧
      d.destination = .ok (latitude, longitude) ∧ route = .directions i latitude longitude := by
  unfold ProviderApp.messageRoutes at h
  split at h
  · rename_i i hdelegate
    split at h
    · rename_i hsocket
      split at h
      · rename_i latitude longitude hdestination
        obtain ⟨d, hd, hdestination⟩ := Option.map_eq_some_iff.mp hdestination
        refine ⟨i, d, latitude, longitude, hdelegate, ?_, hd, hdestination, List.mem_singleton.mp h⟩
        simp [ProviderApp.isForTrip, hsocket.1, hsocket.2.1, hsocket.2.2]
      · exact absurd h (by simp)
    · exact absurd h (by simp)
  · exact absurd h (by simp)

theorem mem_replyRoutes {a : ProviderApp} {i call : Nat} {route : Route}
    (h : route ∈ a.replyRoutes i call) :
    ∃ d position, a.dashboards[i]? = some d ∧ d.clientLocation = .ok position ∧
      route = .clientMarker i call position := by
  unfold ProviderApp.replyRoutes at h
  split at h
  · rename_i position hposition
    obtain ⟨d, hd, hposition⟩ := Option.map_eq_some_iff.mp hposition
    exact ⟨d, position, hd, hposition, List.mem_singleton.mp h⟩
  · exact absurd h (by simp)

end Routes

namespace Recalling

variable {p : ProviderPhone} {h : RouteHistory}

/-- The directions that a message makes a dashboard ask for. -/
theorem directions (hx : Recalling (p, h)) {socket selectedIndex : Nat} {text : Message}
    {state : ApplicationState}
    (hcond : isStillLed (p, h) (.app (.onMessage socket text state selectedIndex)) = true)
    {route : Route} (hroute : route ∈ p.app.messageRoutes socket text) {request : Dict}
    (htrip : tripOf (ProviderApp.noteRoute h p.app (.onMessage socket text state selectedIndex))
      route = some request) :
    IsToward request route := by
  obtain ⟨i, d, latitude, longitude, hdelegate, hfor, hd, hdestination, rfl⟩ :=
    mem_messageRoutes hroute
  have hother : p.app.sockets.providerConnectionSocket ≠ some socket := by
    simp only [ProviderApp.isForTrip, Bool.and_eq_true, bne_iff_ne] at hfor
    exact hfor.1.1
  -- the trip is the one that was accepted on this socket
  have haccepted : h.accepted socket = some request := by
    simpa [tripOf, ProviderApp.noteRoute, hdelegate, hother, hfor, hd, RouteHistory.depart] using
      htrip
  have hstill : isStillThere (h.last i) (some request) = true := by
    simpa [isStillLed, hdelegate, hfor, haccepted] using hcond
  obtain ⟨other, hcurrent, hsame⟩ := samePlace_of_isStillThere (hx i d hd) hstill
  exact destination_of_isSamePlace hdestination hcurrent hsame

/-- The marker that the answer to a call puts on the map. -/
theorem clientMarker (hx : Recalling (p, h)) {i call : Nat} {request : Dict}
    (hcond : isStillThere (h.last i) (h.calls i call) = true) {route : Route}
    (hroute : route ∈ p.app.replyRoutes i call) (htrip : tripOf h route = some request) :
    IsToward request route := by
  obtain ⟨d, position, hd, hposition, rfl⟩ := mem_replyRoutes hroute
  have hcall : h.calls i call = some request := htrip
  rw [hcall] at hcond
  obtain ⟨other, hcurrent, hsame⟩ := samePlace_of_isStillThere (hx i d hd) hcond
  exact placeOf_of_isSamePlace hposition hcurrent hsame

/-- The address that a press of the navigation button opens. -/
theorem navigation (hx : Recalling (p, h)) {i : Nat} {d : ProviderDashboard}
    (hd : p.app.dashboards[i]? = some d) (hcond : isStillThere (h.last i) (h.trip i) = true)
    {latitude longitude : Json} (hdestination : d.destination = .ok (latitude, longitude))
    {request : Dict} (htrip : h.trip i = some request) :
    IsToward request (.navigation i latitude longitude) := by
  rw [htrip] at hcond
  obtain ⟨other, hcurrent, hsame⟩ := samePlace_of_isStillThere (hx i d hd) hcond
  exact destination_of_isSamePlace hdestination hcurrent hsame

/-- What a step adds leads to the accepted request. -/
theorem leads {x y : ProviderPhone × RouteHistory} {e : PhoneEvent} (hx : Recalling x)
    (hcond : isStillLed x e = true)
    (hstep : ((machine distance).withHistory noteRoute).Step x e y) : LeadsToAccepted x y := by
  obtain ⟨p, h⟩ := x
  obtain ⟨q, h'⟩ := y
  obtain ⟨hpq, hnote⟩ := Machine.withHistory_step.mp hstep
  obtain rfl : h' = noteRoute h p e q := hnote
  have hof : StepOf distance p q e := step_inv hpq
  intro route hroute request htrip
  have hnothing : q.routes = p.routes → IsToward request route := by
    intro hsame
    rw [hsame, List.drop_length] at hroute
    exact absurd hroute (by simp)
  have htakes : ∀ (p : ProviderPhone) (b : Bool), (p.takeIf b).routes = p.routes := by
    intro p b
    cases b with
    | false => rfl
    | true => rfl
  cases e with
  | app ev =>
    obtain ⟨_, b, _, rfl⟩ := hof
    simp only [follow, List.drop_left] at hroute
    cases ev with
    | onMessage socket text state selectedIndex => exact hx.directions hcond hroute htrip
    | directionsReply i call success =>
      cases success with
      | false => exact absurd hroute (by simp [ProviderApp.routesOf])
      | true => exact hx.clientMarker (by simpa [isStillLed] using hcond) hroute htrip
    | _ => exact absurd hroute (by simp [ProviderApp.routesOf])
  | lateDirections i call =>
    obtain ⟨d, _, _, hlate⟩ := hof
    obtain rfl := lateDirections_inv hlate
    simp only [List.drop_left] at hroute
    exact hx.clientMarker hcond hroute htrip
  | didUpdateLocations l =>
    refine hnothing ?_
    cases didUpdateLocations_inv hof with
    | dashboard _ _ _ after => rw [after]; rfl
    | sheet _ _ after => rw [after]; rfl
    | alert _ _ _ after => rw [after]; rfl
    | nobody _ _ _ _ after => rw [after]; rfl
  | didDisconnect socket code =>
    obtain ⟨_, rfl, _⟩ := didDisconnect_inv hof
    exact hnothing rfl
  | selectTab index takesLocation =>
    obtain ⟨_, rfl⟩ := hof
    exact hnothing (htakes _ _)
  | pushOther takesLocation =>
    obtain ⟨_, rfl⟩ := hof
    exact hnothing (htakes _ _)
  | popViewController =>
    obtain ⟨_, rfl⟩ := hof
    exact hnothing rfl
  | logout =>
    obtain ⟨_, rfl⟩ := hof
    exact hnothing rfl
  | goBackToMainViewController =>
    obtain rfl : q = p.goBackToMainViewController := hof
    exact hnothing rfl
  | elsewhere defaults =>
    obtain rfl : q = { p with app := p.app.setDefaults defaults } := hof
    exact hnothing rfl
  | btnNavigationPressed i =>
    obtain ⟨d, _, hd, hpress⟩ := hof
    obtain ⟨latitude, longitude, hdestination, rfl⟩ := btnNavigationPressed_inv hpress
    simp only [List.drop_left, List.mem_singleton] at hroute
    subst hroute
    exact hx.navigation hd hcond hdestination htrip
  | notifyWhenProviderHasReached j =>
    obtain rfl : q = { p with reached := j :: p.reached } := hof
    exact hnothing rfl
  | cancelRequest j sinceAccepted sinceReached =>
    obtain ⟨_, _, _, hcancel⟩ := hof
    rcases cancelRequest_inv hcancel with rfl | rfl
    · exact hnothing rfl
    · exact hnothing rfl
  | leftBarItemDidTap j =>
    obtain ⟨_, _, _, _, rfl⟩ := hof
    exact hnothing rfl
  | dismissAlert =>
    obtain rfl : q = { p with alert := none } := hof
    exact hnothing rfl
  | btnSubmitPressed noShow dismisses =>
    obtain ⟨_, _, _, _, hsubmit⟩ := hof
    obtain ⟨_, _, _, _, _, _, _, rfl⟩ := btnSubmitPressed_inv hsubmit
    exact hnothing rfl

end Recalling

/-! ## 6. The law -/

/-- **The way leads to the accepted client.**  From any launch, over any number of dashboards and
clients and any order of messages, presses, replies and screens whose steps meet the condition:
directions, marker and address of a step that meets it, too, are those of the request that was on
screen when its trip was accepted. -/
theorem leads_to_accepted (device : Device) {x y : ProviderPhone × RouteHistory} {e : PhoneEvent}
    (hrun : ((machine distance).withHistory noteRoute).RunWhere
      (fun x e => isStillLed x e = true) ({ app := { device := device } }, .start) x)
    (hcond : isStillLed x e = true)
    (hstep : ((machine distance).withHistory noteRoute).Step x e y) : LeadsToAccepted x y := by
  have hI : Recalling x :=
    hrun.invariant (Recalling.start device) fun _ _ _ hI _ hstep => hI.step hstep
  exact hI.leads hcond hstep

/-- The phone of `onlineEvents`. -/
def onlinePhone : List PhoneEvent :=
  [.app .viewDidLoad, .app (.viewWillAppear 0), .didUpdateLocations ⟨40, -73⟩,
    .app (.switchValueChanged 0 true), .app (.onConnect 0)]

/-- A request is shown and accepted, and the acceptance comes back on socket `socket`. -/
def acceptPhone (id providerId : Int) (socket : Nat) : List PhoneEvent :=
  [.app (.onMessage 0 (ProviderApp.requestText id "requested") .active 0),
    .app (.btnAcceptRequest 0), .app (.onConnect socket),
    .app (.onMessage socket (ProviderApp.acceptanceText id providerId) .active 0)]

/-- The directions for client 24 come, and mark its place. -/
theorem leads_to_accepted_once : ∃ x y : ProviderPhone × RouteHistory,
    y.1.routes.length = 2 ∧ x.1.routes.length = 1 ∧ LeadsToAccepted x y := by
  obtain ⟨x, y, hrun, hcond, hstep, htest⟩ := Machine.exists_step_of_replay
    ((machine fun _ _ => 0).withHistory noteRoute) isStillLed
    ({ app := { device := ProviderApp.sampleProvider 16 } }, .start)
    (onlinePhone ++ acceptPhone 24 16 1) (.app (.directionsReply 0 0 true))
    (fun x y => y.1.routes.length == 2 && x.1.routes.length == 1) (fun _ _ => id)
    (by decide +kernel)
  simp only [Bool.and_eq_true, beq_iff_eq] at htest
  exact ⟨x, y, htest.1, htest.2,
    leads_to_accepted (ProviderApp.sampleProvider 16) hrun hcond hstep⟩

/-- Some directions or address of the step lead elsewhere. -/
def leadsAstray (x y : ProviderPhone × RouteHistory) : Bool :=
  (y.1.routes.drop x.1.routes.length).any fun route =>
    match tripOf y.2 route, route with
    | some request, .directions _ latitude _ => Dict.get? request "latitude" != some latitude
    | some request, .navigation _ latitude _ => Dict.get? request "latitude" != some latitude
    | _, _ => false

theorem not_leadsToAccepted_of_leadsAstray {x y : ProviderPhone × RouteHistory}
    (h : leadsAstray x y = true) : ¬LeadsToAccepted x y := by
  intro hleads
  obtain ⟨route, hroute, htest⟩ := List.any_eq_true.mp h
  split at htest
  · rename_i request _ latitude longitude htrip
    have htoward := (hleads _ hroute request htrip).1
    exact absurd htoward (by simpa using htest)
  · rename_i request _ latitude longitude htrip
    have htoward := (hleads _ hroute request htrip).1
    exact absurd htoward (by simpa using htest)
  · exact absurd htest (by simp)

/-- A request of client 25 from another place. -/
def otherPlaceText : Message :=
  some (.obj [("ClientData", .obj [("ClientId", .ofInt 25), ("RequestStatus", .str "requested"),
    ("latitude", .str "41"), ("longitude", .str "-74")])])

/-- Client 24 is accepted, client 25 asks for somebody, and then the acceptance comes back: the
directions go to client 25. -/
theorem leads_to_another : ∃ x y : ProviderPhone × RouteHistory,
    ((machine fun _ _ => 0).withHistory noteRoute).Run
      ({ app := { device := ProviderApp.sampleProvider 16 } }, .start) x ∧
    (∃ e, ((machine fun _ _ => 0).withHistory noteRoute).Step x e y) ∧ ¬LeadsToAccepted x y := by
  obtain ⟨x, y, hrun, _, hstep, htest⟩ := Machine.exists_step_of_replay
    ((machine fun _ _ => 0).withHistory noteRoute) (fun _ _ => true)
    ({ app := { device := ProviderApp.sampleProvider 16 } }, .start)
    (onlinePhone ++ [.app (.onMessage 0 (ProviderApp.requestText 24 "requested") .active 0),
      .app (.btnAcceptRequest 0), .app (.onConnect 1),
      .app (.onMessage 0 otherPlaceText .active 0)])
    (.app (.onMessage 1 (ProviderApp.acceptanceText 24 16) .active 0))
    leadsAstray (fun _ _ _ => trivial) (by decide +kernel)
  exact ⟨x, y, hrun, ⟨_, hstep⟩, not_leadsToAccepted_of_leadsAstray htest⟩

end ProviderPhone

end WeatherAccommodation
