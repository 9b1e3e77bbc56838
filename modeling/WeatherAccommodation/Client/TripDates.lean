/-
# The dates of a client's trip

The trip screen reads `tripStartDate` at every tick of a timer, and both dates when the app comes
back to the foreground after a `Trip_Ended` that came in the background.  The start is set by
`Trip_Started`, or by `viewDidLoad` while a trip is being resumed; the end is set by `Trip_Ended` in
the background only.

`ClockedPhone` adds to the phone whether the app is in the background, and to every trip screen its
end date and its timers.  No timer ever runs without a start.  A screen that hears of the end in the
background and never heard of a start stops the app at the next transition to the foreground, and
nothing else does (`dates_are_set_iff`): a lost `Trip_Started` is enough for that, and so is one
that the sheet has spent on opening the screen (`ended_before_start`).
-/
import WeatherAccommodation.ResumedTrip

namespace WeatherAccommodation

open Foundation Reactive

/-! ## 1. Clocks -/

/-- How a date that is nil stops the app, and every other way. -/
inductive DateTrap where
  | tripStartDate
  | tripEndDate
  | other (t : Trap)
  deriving DecidableEq, Repr

/-- What a trip screen has besides `ClientTrip`. -/
structure TripClock where
  /-- `tripEndDate` was set. -/
  tripEndDate : Bool := false
  /-- How many of the timers it scheduled are valid. -/
  scheduled : Nat := 0
  /-- Its `timer` is one of them. -/
  timerIsValid : Bool := false
  deriving Repr

namespace TripClock

/-- `Timer.scheduledTimer`; a timer that was there before runs on. -/
def schedule (clock : TripClock) : TripClock :=
  { clock with scheduled := clock.scheduled + 1, timerIsValid := true }

def invalidate (clock : TripClock) : TripClock :=
  if clock.timerIsValid then
    { clock with scheduled := clock.scheduled - 1, timerIsValid := false }
  else clock

/-- `onMessage`, as far as timers and the end date go. -/
def hear (clock : TripClock) (requestType : String) (inBackground : Bool) : TripClock :=
  if requestType = Request_Status.started then
    if inBackground then clock else clock.schedule
  else if requestType = Request_Status.ended then
    (if inBackground then { clock with tripEndDate := true } else clock).invalidate
  else clock

end TripClock

namespace ClientTrip

/-- The implicitly unwrapped `tripStartDate`. -/
def startDate (screen : ClientTrip) : Except DateTrap Unit :=
  unwrap .tripStartDate (if screen.tripStartDate then some () else none)

def timerAction (screen : ClientTrip) : Except DateTrap Unit := screen.startDate

def startTimerAfterTransitionToForeground (screen : ClientTrip) (clock : TripClock) :
    Except DateTrap (ClientTrip × TripClock) :=
  if screen.startTimer then return ({ screen with startTimer := false }, clock.schedule)
  else if screen.isTripEnded then do
    let _ ← unwrap .tripEndDate (if clock.tripEndDate then some () else none)
    let _ ← screen.startDate
    return ({ screen with isTripEnded := false }, clock)
  else return (screen, clock)

end ClientTrip

namespace ClientPhone

/-- The trip screen that hears the message, and the type of the message. -/
def heard (p : ClientPhone) : ClientPhoneEvent → Option (Nat × String)
  | .onMessage socket (some (.obj dict)) _ =>
    match p.socketOwner with
    | some (.clientTrip k) =>
      if p.app.sockets.clientproviderRequestSocket = some socket then
        (Dict.string? dict "RequestType").map fun requestType => (k, requestType)
      else none
    | _ => none
  | _ => none

/-- A trip screen that the event opens is loaded while the flag is up. -/
def resumesTrip (p : ClientPhone) : ClientPhoneEvent → Bool
  | .app (.session _ (.onlineProviderList _ (some _))) => true
  | .onMessage _ text _ => p.doesRequestExist && !isStart text
  | _ => false

end ClientPhone

/-! ## 2. The phone -/

structure ClockedPhone where
  phone : ClientPhone
  /-- `applicationState.rawValue == 2` -/
  inBackground : Bool := false
  clocks : Nat → TripClock := fun _ => {}
  /-- The trip screens that were released. -/
  gone : List Nat := []

inductive ClockedEvent where
  | phone (e : ClientPhoneEvent)
  | didEnterBackground
  | willEnterForeground
  | timerAction (k : Nat)
  | release (k : Nat)

namespace ClockedPhone

/-- The state of the app that a message is handled in. -/
def isNow (x : ClockedPhone) : ClientPhoneEvent → Bool
  | .onMessage _ _ inBackground => inBackground == x.inBackground
  | _ => true

def clocksAfter (x : ClockedPhone) (e : ClientPhoneEvent) (q : ClientPhone) : Nat → TripClock :=
  match x.phone.heard e with
  | some (k, requestType) =>
    Function.update x.clocks k ((x.clocks k).hear requestType x.inBackground)
  | none =>
    -- `viewDidLoad` schedules a timer with the start it reads off the trip.
    match q.trips[x.phone.trips.length]? with
    | some screen =>
      if screen.tripStartDate then
        Function.update x.clocks x.phone.trips.length (TripClock.schedule {})
      else x.clocks
    | none => x.clocks

/-- The phone has become `q`. -/
def follow (x : ClockedPhone) (e : ClientPhoneEvent) (q : ClientPhone) : ClockedPhone :=
  { x with phone := q, clocks := x.clocksAfter e q }

/-- Neither the stack nor the socket manager nor a timer holds the screen. -/
def isFree (x : ClockedPhone) (k : Nat) : Bool :=
  !x.phone.stack.contains (.clientTrip k) && x.phone.socketOwner != some (.clientTrip k) &&
    (x.clocks k).scheduled == 0

/-- The notification reaches the screen with number `k`. -/
def notify (x : ClockedPhone) (k : Nat) : Except DateTrap ClockedPhone :=
  match x.phone.trips[k]? with
  | some screen =>
    if x.gone.contains k then return x
    else do
      let (screen, clock) ← screen.startTimerAfterTransitionToForeground (x.clocks k)
      return { x with
        phone := x.phone.putTrip k screen
        clocks := Function.update x.clocks k clock }
  | none => return x

/-- `willEnterForegroundNotification` goes to the trip screens in the order they registered. -/
def willEnterForeground (x : ClockedPhone) : Except DateTrap ClockedPhone :=
  (List.range x.phone.trips.length).foldlM notify { x with inBackground := false }

/-- What each event does, and when it can happen. -/
def react (distance : CLLocation → CLLocation → ℚ) (x : ClockedPhone) :
    ClockedEvent → Option (Except DateTrap ClockedPhone)
  | .phone e =>
    if x.isNow e then
      (x.phone.react distance e).map fun r => (r.mapError DateTrap.other).map (x.follow e)
    else none
  | .didEnterBackground =>
    if x.inBackground then none else some (.ok { x with inBackground := true })
  | .willEnterForeground => if x.inBackground then some x.willEnterForeground else none
  | .timerAction k =>
    x.phone.trips[k]?.bind fun screen =>
      if 0 < (x.clocks k).scheduled then some (screen.timerAction.map fun _ => x) else none
  | .release k => if x.isFree k then some (.ok { x with gone := k :: x.gone }) else none

def machine (distance : CLLocation → CLLocation → ℚ) :
    Machine ClockedPhone ClockedEvent DateTrap where
  react := react distance

end ClockedPhone

/-! ## 3. What the screens were told -/

/-- Which trip screens know a start: those that were loaded while the flag was up, and those that
heard `Trip_Started`.  And which heard `Trip_Ended` in the background. -/
structure DateLog where
  begun : List Nat := []
  endedAway : List Nat := []

namespace ClockedPhone

/-- The screen, if it hears a message of that type. -/
def hears (x : ClockedPhone) (requestType : String) (e : ClientPhoneEvent) : List Nat :=
  ((x.phone.heard e).filter fun h => h.2 == requestType).toList.map Prod.fst

/-- The history variable. -/
def noteDates (h : DateLog) (x : ClockedPhone) (e : ClockedEvent) (y : ClockedPhone) : DateLog :=
  match e with
  | .phone e =>
    let resumed := if x.phone.resumesTrip e ∧ x.phone.trips.length < y.phone.trips.length then
      [x.phone.trips.length] else []
    { begun := x.hears Request_Status.started e ++ resumed ++ h.begun
      endedAway := (if x.inBackground then x.hears Request_Status.ended e else []) ++ h.endedAway }
  | _ => h

/-- No date is read while it is nil, whatever happens next. -/
def DatesAreSet (distance : CLLocation → CLLocation → ℚ) (x : ClockedPhone) : Prop :=
  ∀ e f, (machine distance).Traps x e f → f ≠ .tripStartDate ∧ f ≠ .tripEndDate

/-- The condition: while the app is in the background, every screen that has heard of an end there
and was not released knows a start. -/
def EndsKnowStarts (x : ClockedPhone × DateLog) : Prop :=
  x.1.inBackground = true → ∀ k ∈ x.2.endedAway, k ∉ x.1.gone → k ∈ x.2.begun

end ClockedPhone

/-! ## 4. What a step does to the trip screens -/

namespace ClientPhone

variable {distance : CLLocation → CLLocation → ℚ} {p q : ClientPhone} {e : ClientPhoneEvent}

/-- Nothing, one more screen, or what a message makes of one. -/
inductive TripsStep (p q : ClientPhone) (e : ClientPhoneEvent) : Prop
  | same (silent : p.heard e = none) (h : q.trips = p.trips)
  | pushed {trip : Dict} (silent : p.heard e = none)
      (h : q.trips = p.trips ++ [{ currentRequest := trip, tripStartDate := p.resumesTrip e }])
  | told {k socket : Nat} {screen screen' : ClientTrip} {text : Message} {inBackground : Bool}
      (event : e = .onMessage socket text inBackground)
      (owner : p.socketOwner = some (.clientTrip k))
      (onSocket : p.app.sockets.clientproviderRequestSocket = some socket)
      (listed : p.trips[k]? = some screen)
      (handled : screen.requestMessage text inBackground = .ok screen')
      (h : q.trips = p.trips.set k screen')

/-- Only a message for a trip screen is heard by one. -/
theorem heard_eq_some {k : Nat} {requestType : String} (h : p.heard e = some (k, requestType)) :
    ∃ socket dict inBackground, e = .onMessage socket (some (.obj dict)) inBackground ∧
      p.socketOwner = some (.clientTrip k) ∧
      p.app.sockets.clientproviderRequestSocket = some socket ∧
      Dict.string? dict "RequestType" = some requestType := by
  unfold heard at h
  split at h
  · rename_i socket dict inBackground
    split at h
    · rename_i k' howner
      split at h
      · rename_i hsocket
        obtain ⟨requestType', htype, heq⟩ := Option.map_eq_some_iff.mp h
        obtain ⟨rfl, rfl⟩ := Prod.mk.inj heq
        exact ⟨socket, dict, inBackground, rfl, howner, hsocket, htype⟩
      · exact absurd h (by simp)
    · exact absurd h (by simp)
  · exact absurd h (by simp)

/-- A trip screen hears nothing while another screen is the delegate. -/
theorem heard_of_owner {socket : Nat} {text : Message} {inBackground : Bool}
    (h : ∀ k, p.socketOwner ≠ some (.clientTrip k)) :
    p.heard (.onMessage socket text inBackground) = none := by
  cases hheard : p.heard (.onMessage socket text inBackground) with
  | none => rfl
  | some found =>
    obtain ⟨_, _, _, _, howner, _, _⟩ := heard_eq_some hheard
    exact absurd howner (h found.1)

theorem trips_dismissFrom (p : ClientPhone) (j : Nat) (sheet : TripProviderDetail) :
    (p.dismissFrom j sheet).trips = p.trips := by
  unfold dismissFrom
  split
  · rfl
  · rfl

theorem trips_openSheet (p : ClientPhone) (i : Nat) (b : ClientApp) :
    (p.openSheet i b).trips = p.trips := by
  unfold openSheet
  split
  · rfl
  · rfl

/-- A list that resumes a trip pushes one trip screen. -/
theorem trips_of_follow (p : ClientPhone) (ev : AppEvent) (b : ClientApp) :
    TripsStep p (p.follow ev b) (.app ev) := by
  cases ev with
  | session k ev =>
    cases ev with
    | onlineProviderList call response =>
      cases response with
      | none => exact .same rfl rfl
      | some list =>
        simp only [follow, followList]
        split
        · exact .same rfl (trips_openSheet p k b)
        · split
          · exact .pushed rfl rfl
          · exact .same rfl rfl
        · exact .same rfl rfl
    | distanceReply call values success =>
      simp only [follow, followDistance]
      split
      · exact .same rfl (trips_openSheet p k b)
      · exact .same rfl rfl
    | _ => exact .same rfl rfl
  | signInReply reply =>
    simp only [follow, followDashboard]
    split
    · exact .same rfl rfl
    · exact .same rfl rfl
  | pushDashboard =>
    simp only [follow, followDashboard]
    split
    · exact .same rfl rfl
    · exact .same rfl rfl
  | _ => exact .same rfl rfl

/-- **What a step does to the trip screens.** -/
theorem step_trips (h : (machine distance).Step p e q) : TripsStep p q e := by
  have hof : StepOf distance p q e := step_inv h
  cases e with
  | app ev =>
    obtain ⟨_, b, _, rfl⟩ := hof
    exact trips_of_follow p ev b
  | tripStatusReply existing =>
    obtain rfl : q = p.tripStatusReply existing := hof
    cases existing with
    | none => exact .same rfl rfl
    | some trip => exact .same rfl rfl
  | didUpdateLocations l =>
    cases hof with
    | dashboard _ _ after | sheet _ _ after | alert _ _ after | nobody _ after =>
      subst after
      exact .same rfl rfl
  | onMessage socket text inBackground =>
    cases hof with
    | dashboard owner _ after =>
      exact .same (heard_of_owner fun k hk => by simp [owner] at hk) (by rw [after])
    | @sheet j sheet owner listed handled =>
      have hsilent : p.heard (.onMessage socket text inBackground) = none :=
        heard_of_owner fun k hk => by simp [owner] at hk
      rcases sheetMessage_inv handled with rfl | ⟨_, hreacts⟩
      · exact .same hsilent rfl
      · cases hreacts with
        | nothing after => exact .same hsilent (by rw [after])
        | reached type _ after =>
          have hresumes : p.resumesTrip (.onMessage socket text inBackground) =
              p.doesRequestExist := by
            obtain ⟨dict, rfl, htype⟩ := type
            have hne : (Request_Status.reached == Request_Status.started) = false := by decide
            simp [resumesTrip, isStart, htype, hne]
          have htrips : q.trips = p.trips ++ [{
              currentRequest := sheet.currentRequest
              tripStartDate := p.resumesTrip (.onMessage socket text inBackground) }] := by
            rw [after, hresumes]
            simp [pushTrip, trips_dismissFrom]
          exact .pushed hsilent htrips
        | cancelled _ after => exact .same hsilent (by rw [after, trips_dismissFrom])
        | located _ after => exact .same hsilent (by rw [after])
        | started type _ _ after =>
          have hresumes : p.resumesTrip (.onMessage socket text inBackground) = false := by
            simp [resumesTrip, isStart_iff.mpr type]
          have htrips : q.trips = p.trips ++ [{
              currentRequest := sheet.currentRequest
              tripStartDate := p.resumesTrip (.onMessage socket text inBackground) }] := by
            rw [after, hresumes]
            simp [pushTrip, trips_dismissFrom, setFlag]
          exact .pushed hsilent htrips
    | @trip k screen owner listed handled =>
      unfold tripMessage at handled
      split at handled
      · rename_i hsocket
        simp only [bind_eq_ok, pure_eq_ok] at handled
        obtain ⟨screen', hscreen, rfl⟩ := handled
        exact .told rfl owner hsocket listed hscreen rfl
      · rename_i hsocket
        obtain rfl : p = q := by simpa using handled
        refine .same ?_ rfl
        cases hheard : p.heard (.onMessage socket text inBackground) with
        | none => rfl
        | some found =>
          obtain ⟨_, _, _, hevent, _, hon, _⟩ := heard_eq_some hheard
          obtain ⟨rfl, _, _⟩ := ClientPhoneEvent.onMessage.inj hevent
          exact absurd hon hsocket
  | lateProviderList i call response =>
    obtain ⟨_, _, _, _, rfl⟩ := hof
    exact .same rfl rfl
  | lateDistance i call values =>
    obtain ⟨_, _, _, _, _, rfl⟩ := hof
    exact .same rfl rfl
  | cancelRequest j sinceAccepted =>
    obtain ⟨_, _, _, rfl⟩ := hof
    unfold cancelRequest
    split
    · exact .same rfl rfl
    · exact .same rfl rfl
  | cancelTrip j =>
    obtain ⟨_, _, _, hcancel⟩ := hof
    obtain ⟨_, _, _, rfl⟩ := cancelTrip_inv hcancel
    exact .same rfl rfl
  | leftBarItemDidTap j =>
    obtain ⟨_, _, _, _, rfl⟩ := hof
    exact .same rfl rfl
  | btnSubmitPressed noShow dismisses =>
    obtain ⟨_, _, _, _, hsubmit⟩ := hof
    obtain ⟨_, _, _, rfl⟩ := btnSubmitPressed_inv hsubmit
    exact .same rfl rfl
  | showDashboard _ | pushOther | popViewController | dismissAlert | submitReview _
  | reviewReply _ =>
    exact .same rfl (step_navigation h rfl).trips

end ClientPhone

/-! ## 5. One trip screen -/

/-- The type of a message. -/
def messageType : Message → Option String
  | some (.obj dict) => Dict.string? dict "RequestType"
  | _ => none

/-- A screen that is the delegate hears what has a type. -/
theorem ClientPhone.heard_of_told {p : ClientPhone} {k socket : Nat} {text : Message}
    {inBackground : Bool} (howner : p.socketOwner = some (.clientTrip k))
    (hsocket : p.app.sockets.clientproviderRequestSocket = some socket) :
    p.heard (.onMessage socket text inBackground) =
      (messageType text).map fun requestType => (k, requestType) := by
  cases text with
  | none => rfl
  | some j =>
    cases j with
    | obj dict => simp [heard, messageType, howner, hsocket]
    | _ => rfl

/-- A start, an end, or nothing the screen knows. -/
theorem ClientTrip.requestMessage_inv {screen screen' : ClientTrip} {text : Message}
    {inBackground : Bool} (h : screen.requestMessage text inBackground = .ok screen') :
    (messageType text = some Request_Status.started ∧ screen' = screen.started inBackground) ∨
      (messageType text = some Request_Status.ended ∧
        ∃ charge, screen' = screen.ended charge inBackground) ∨
      (messageType text ≠ some Request_Status.started ∧
        messageType text ≠ some Request_Status.ended ∧ screen' = screen) := by
  simp only [requestMessage, bind_eq_ok] at h
  obtain ⟨o, ho, h⟩ := h
  cases o with
  | none =>
    have hnone : messageType text = none := by
      cases text with
      | none => rfl
      | some j =>
        cases j with
        | obj dict => exact absurd ho (by simp)
        | _ => rfl
    rw [pure_eq_ok] at h
    exact Or.inr (Or.inr ⟨by simp [hnone], by simp [hnone], h.symm⟩)
  | some dict =>
    obtain rfl := eq_obj_of_messageDict ho
    cases hget : Dict.get? dict "RequestType" with
    | none =>
      have hnone : messageType (some (.obj dict)) = none := by
        simp [messageType, Dict.string?, hget]
      simp only [hget, pure_eq_ok] at h
      exact Or.inr (Or.inr ⟨by simp [hnone], by simp [hnone], h.symm⟩)
    | some user =>
      simp only [hget, bind_eq_ok, unwrap_eq_ok] at h
      obtain ⟨requestType, huser, h⟩ := h
      have htype : messageType (some (.obj dict)) = some requestType := by
        simp [messageType, Dict.string?, hget, huser]
      split at h
      · rename_i hstarted
        rw [pure_eq_ok] at h
        exact Or.inl ⟨by rw [htype, hstarted], h.symm⟩
      · rename_i hstarted
        split at h
        · rename_i hended
          simp only [bind_eq_ok, pure_eq_ok] at h
          obtain ⟨_, _, charge, _, rfl⟩ := h
          exact Or.inr (Or.inl ⟨by rw [htype, hended], charge, rfl⟩)
        · rename_i hended
          rw [pure_eq_ok] at h
          exact Or.inr (Or.inr ⟨by simpa [htype] using hstarted, by simpa [htype] using hended,
            h.symm⟩)

/-- What a trip screen's flags stand for: its start is known exactly if it was resumed or told, its
timers run and wait for one only with a start, and an end that came in the background without a
start is still to be shown. -/
structure ScreenKept (screen : ClientTrip) (clock : TripClock) (begun endedAway : Prop) : Prop where
  start : screen.tripStartDate = true ↔ begun
  startTimer : screen.startTimer = true → begun
  scheduled : 0 < clock.scheduled → begun
  ended : screen.isTripEnded = true → clock.tripEndDate = true ∧ endedAway
  pending : endedAway → ¬begun → screen.isTripEnded = true

namespace ScreenKept

variable {screen screen' : ClientTrip} {clock clock' : TripClock} {begun endedAway : Prop}

theorem fresh (trip : Dict) (resumed : Bool) :
    ScreenKept { currentRequest := trip, tripStartDate := resumed }
      (if resumed then TripClock.schedule {} else {}) (resumed = true) False where
  start := Iff.rfl
  startTimer := by simp
  scheduled := by
    cases resumed with
    | true => simp
    | false => simp
  ended := by simp
  pending := by simp

theorem hears_start (h : ScreenKept screen clock begun endedAway) (inBackground : Bool) :
    ScreenKept (screen.started inBackground) (clock.hear Request_Status.started inBackground) True
      endedAway where
  start := by simp [ClientTrip.started]
  startTimer := fun _ => trivial
  scheduled := fun _ => trivial
  ended := by
    intro hended
    obtain ⟨hdate, haway⟩ := h.ended hended
    refine ⟨?_, haway⟩
    cases inBackground with
    | true => simpa [TripClock.hear] using hdate
    | false => simpa [TripClock.hear, TripClock.schedule] using hdate
  pending := fun _ hno => absurd trivial hno

theorem scheduled_invalidate (clock : TripClock) :
    clock.invalidate.scheduled ≤ clock.scheduled ∧
      clock.invalidate.tripEndDate = clock.tripEndDate := by
  unfold TripClock.invalidate
  split
  · exact ⟨Nat.sub_le _ _, rfl⟩
  · exact ⟨Nat.le_refl _, rfl⟩

theorem hears_end (h : ScreenKept screen clock begun endedAway) (charge : Json)
    (inBackground : Bool) :
    ScreenKept (screen.ended charge inBackground) (clock.hear Request_Status.ended inBackground)
      begun (inBackground = true ∨ endedAway) := by
  have hne : Request_Status.ended ≠ Request_Status.started := by decide
  have hclock : clock.hear Request_Status.ended inBackground =
      (if inBackground then { clock with tripEndDate := true } else clock).invalidate := by
    simp [TripClock.hear, hne]
  obtain ⟨hscheduled, hdate⟩ := scheduled_invalidate
    (if inBackground then { clock with tripEndDate := true } else clock)
  rw [← hclock] at hscheduled hdate
  refine ⟨h.start, by simp [ClientTrip.ended], fun hpos => h.scheduled ?_, fun hended => ?_,
    fun haway hno => ?_⟩
  · cases inBackground with
    | true => exact Nat.lt_of_lt_of_le hpos hscheduled
    | false => exact Nat.lt_of_lt_of_le hpos hscheduled
  · rw [hdate]
    cases inBackground with
    | true => exact ⟨rfl, Or.inl rfl⟩
    | false =>
      have hbefore : screen.isTripEnded = true := by simpa [ClientTrip.ended] using hended
      exact ⟨(h.ended hbefore).1, Or.inr (h.ended hbefore).2⟩
  · rcases haway with haway | haway
    · simp [ClientTrip.ended, haway]
    · simp [ClientTrip.ended, h.pending haway hno]

/-- A transition to the foreground that reaches the screen. -/
theorem transition (h : ScreenKept screen clock begun endedAway)
    (hok : screen.startTimerAfterTransitionToForeground clock = .ok (screen', clock')) :
    ScreenKept screen' clock' begun endedAway ∧ (endedAway → begun) := by
  unfold ClientTrip.startTimerAfterTransitionToForeground at hok
  split at hok
  · rename_i hstart
    obtain ⟨rfl, rfl⟩ := Prod.mk.inj (pure_eq_ok.mp hok)
    have hbegun : begun := h.startTimer hstart
    exact ⟨⟨h.start, by simp, fun _ => hbegun, h.ended, h.pending⟩, fun _ => hbegun⟩
  · split at hok
    · simp only [bind_eq_ok, ClientTrip.startDate, unwrap_eq_ok, pure_eq_ok] at hok
      obtain ⟨_, _, _, hdate, heq⟩ := hok
      obtain ⟨rfl, rfl⟩ := Prod.mk.inj heq
      have hbegun : begun := h.start.mp (by simpa using hdate)
      exact ⟨⟨h.start, h.startTimer, h.scheduled, by simp, fun _ hno => absurd hbegun hno⟩,
        fun _ => hbegun⟩
    · rename_i hended
      obtain ⟨rfl, rfl⟩ := Prod.mk.inj (pure_eq_ok.mp hok)
      refine ⟨h, fun haway => ?_⟩
      by_contra hno
      exact hended (h.pending haway hno)

/-- Only a screen with an end and no start stops the app there. -/
theorem transition_traps (h : ScreenKept screen clock begun endedAway) {f : DateTrap}
    (herror : screen.startTimerAfterTransitionToForeground clock = .error f) :
    f = .tripStartDate ∧ endedAway ∧ ¬begun := by
  unfold ClientTrip.startTimerAfterTransitionToForeground at herror
  split at herror
  · exact absurd herror (by simp [pure, Except.pure])
  · split at herror
    · rename_i hended
      obtain ⟨hdate, haway⟩ := h.ended hended
      simp only [hdate, if_true, unwrap_some, ClientTrip.startDate, bind_eq_error] at herror
      rcases herror with hno | ⟨_, _, herror⟩
      · exact absurd hno (by simp)
      · rcases herror with hstart | ⟨_, _, hno⟩
        · obtain ⟨hnone, rfl⟩ := unwrap_eq_error.mp hstart
          refine ⟨rfl, haway, fun hbegun => ?_⟩
          exact absurd hnone (by simp [h.start.mpr hbegun])
        · exact absurd hno (by simp [pure, Except.pure])
    · exact absurd herror (by simp [pure, Except.pure])

end ScreenKept

/-! ## 6. All of them -/

namespace ClockedPhone

variable {distance : CLLocation → CLLocation → ℚ} {x y : ClockedPhone} {h : DateLog}

theorem hears_of_some {requestType requestType' : String} {k : Nat} {e : ClientPhoneEvent}
    (hheard : x.phone.heard e = some (k, requestType)) :
    x.hears requestType' e = if requestType = requestType' then [k] else [] := by
  simp only [hears, hheard, Option.filter_some, beq_iff_eq]
  split
  · rfl
  · rfl

theorem hears_of_none {requestType : String} {e : ClientPhoneEvent}
    (hheard : x.phone.heard e = none) : x.hears requestType e = [] := by
  simp [hears, hheard]

/-- What a screen hears sets its own clock. -/
theorem clocks_of_some {requestType : String} {k : Nat} {e : ClientPhoneEvent} {q : ClientPhone}
    (hheard : x.phone.heard e = some (k, requestType)) : (x.follow e q).clocks =
      Function.update x.clocks k ((x.clocks k).hear requestType x.inBackground) := by
  simp [follow, clocksAfter, hheard]

/-- What an event of the phone does to the trip screens and their clocks. -/
inductive ClockMove (x : ClockedPhone) (e : ClientPhoneEvent) (q : ClientPhone) : Prop
  | quiet (unstarted : x.hears Request_Status.started e = [])
      (unended : x.hears Request_Status.ended e = []) (trips : q.trips = x.phone.trips)
      (clocks : (x.follow e q).clocks = x.clocks)
  | pushed {trip : Dict} (silent : x.phone.heard e = none)
      (trips : q.trips = x.phone.trips ++
        [{ currentRequest := trip, tripStartDate := x.phone.resumesTrip e }])
      (clocks : (x.follow e q).clocks = if x.phone.resumesTrip e then
        Function.update x.clocks x.phone.trips.length (TripClock.schedule {}) else x.clocks)
  | started {k : Nat} {screen : ClientTrip}
      (heard : x.phone.heard e = some (k, Request_Status.started))
      (listed : x.phone.trips[k]? = some screen)
      (trips : q.trips = x.phone.trips.set k (screen.started x.inBackground))
  | ended {k : Nat} {screen : ClientTrip} {charge : Json}
      (heard : x.phone.heard e = some (k, Request_Status.ended))
      (listed : x.phone.trips[k]? = some screen)
      (trips : q.trips = x.phone.trips.set k (screen.ended charge x.inBackground))

/-- **Every event of the phone is one of these.** -/
theorem clockMove_of_step {e : ClientPhoneEvent} {q : ClientPhone}
    (hstep : (ClientPhone.machine distance).Step x.phone e q) (hnow : x.isNow e = true) :
    ClockMove x e q := by
  cases ClientPhone.step_trips hstep with
  | same silent trips =>
    exact .quiet (hears_of_none silent) (hears_of_none silent) trips
      (by simp [follow, clocksAfter, silent, trips])
  | pushed silent trips =>
    exact .pushed silent trips (by simp [follow, clocksAfter, silent, trips])
  | @told k socket screen screen' text inBackground event owner onSocket listed handled trips =>
    subst event
    obtain rfl : inBackground = x.inBackground := by simpa [isNow] using hnow
    have hheard : x.phone.heard (.onMessage socket text x.inBackground) =
        (messageType text).map fun requestType => (k, requestType) :=
      ClientPhone.heard_of_told owner onSocket
    rcases ClientTrip.requestMessage_inv handled with ⟨htype, rfl⟩ | ⟨htype, charge, rfl⟩ |
      ⟨hstarted, hended, rfl⟩
    · rw [htype, Option.map_some] at hheard
      exact .started hheard listed trips
    · rw [htype, Option.map_some] at hheard
      exact .ended hheard listed trips
    · have hsame : q.trips = x.phone.trips := by
        obtain ⟨hlt, rfl⟩ := List.getElem?_eq_some_iff.mp listed
        rw [trips, List.set_getElem_self]
      cases htype : messageType text with
      | none =>
        rw [htype, Option.map_none] at hheard
        exact .quiet (hears_of_none hheard) (hears_of_none hheard) hsame
          (by simp [follow, clocksAfter, hheard, trips])
      | some requestType =>
        rw [htype, Option.map_some] at hheard
        rw [htype, ne_eq, Option.some.injEq] at hstarted hended
        refine .quiet (by simp [hears_of_some hheard, hstarted])
          (by simp [hears_of_some hheard, hended]) hsame ?_
        rw [clocks_of_some hheard]
        simp [TripClock.hear, hstarted, hended]

/-- Every trip screen is as the log says, and nothing else has a clock or is in the log. -/
structure Kept (x : ClockedPhone) (h : DateLog) : Prop where
  screens : ∀ (k : Nat) (screen : ClientTrip), x.phone.trips[k]? = some screen →
    ScreenKept screen (x.clocks k) (k ∈ h.begun) (k ∈ h.endedAway)
  begun : ∀ k ∈ h.begun, k < x.phone.trips.length
  endedAway : ∀ k ∈ h.endedAway, k < x.phone.trips.length
  clocks : ∀ k, x.phone.trips.length ≤ k → x.clocks k = {}

namespace Kept

theorem of_same (hx : Kept x h) (trips : y.phone.trips = x.phone.trips)
    (clocks : y.clocks = x.clocks) : Kept y h where
  screens := by
    rw [trips, clocks]
    exact hx.screens
  begun := by
    rw [trips]
    exact hx.begun
  endedAway := by
    rw [trips]
    exact hx.endedAway
  clocks := by
    rw [trips, clocks]
    exact hx.clocks

/-- One screen, its clock and its part of the log change. -/
theorem of_set (hx : Kept x h) {h' : DateLog} {k : Nat} {screen screen' : ClientTrip}
    {clock : TripClock} (listed : x.phone.trips[k]? = some screen)
    (trips : y.phone.trips = x.phone.trips.set k screen')
    (clocks : y.clocks = Function.update x.clocks k clock)
    (hscreen : ScreenKept screen' clock (k ∈ h'.begun) (k ∈ h'.endedAway))
    (hbegun : ∀ j, j ≠ k → (j ∈ h'.begun ↔ j ∈ h.begun))
    (haway : ∀ j, j ≠ k → (j ∈ h'.endedAway ↔ j ∈ h.endedAway)) : Kept y h' := by
  have hlt : k < x.phone.trips.length := (List.getElem?_eq_some_iff.mp listed).1
  refine ⟨fun j s hs => ?_, fun j hj => ?_, fun j hj => ?_, fun j hj => ?_⟩
  · rw [trips] at hs
    by_cases hjk : j = k
    · subst hjk
      rw [List.getElem?_set_self hlt] at hs
      obtain rfl := Option.some.inj hs
      rw [clocks, Function.update_self]
      exact hscreen
    · rw [List.getElem?_set_ne (Ne.symm hjk)] at hs
      rw [clocks, Function.update_of_ne hjk, hbegun j hjk, haway j hjk]
      exact hx.screens j s hs
  · rw [trips, List.length_set]
    by_cases hjk : j = k
    · exact hjk ▸ hlt
    · exact hx.begun j ((hbegun j hjk).mp hj)
  · rw [trips, List.length_set]
    by_cases hjk : j = k
    · exact hjk ▸ hlt
    · exact hx.endedAway j ((haway j hjk).mp hj)
  · rw [trips, List.length_set] at hj
    rw [clocks, Function.update_of_ne (by omega)]
    exact hx.clocks j hj

/-- One more screen is loaded. -/
theorem of_push (hx : Kept x h) {trip : Dict} {resumed : Bool}
    (trips : y.phone.trips = x.phone.trips ++
      [{ currentRequest := trip, tripStartDate := resumed }])
    (clocks : y.clocks = if resumed then
      Function.update x.clocks x.phone.trips.length (TripClock.schedule {}) else x.clocks) :
    Kept y { begun := (if resumed then [x.phone.trips.length] else []) ++ h.begun
             endedAway := h.endedAway } := by
  have hnew : x.phone.trips.length ∉ h.begun := fun hmem => absurd (hx.begun _ hmem) (by simp)
  have haway : x.phone.trips.length ∉ h.endedAway :=
    fun hmem => absurd (hx.endedAway _ hmem) (by simp)
  have hclock : y.clocks x.phone.trips.length = if resumed then TripClock.schedule {} else {} := by
    rw [clocks]
    cases resumed with
    | true => simp
    | false => simp [hx.clocks _ (Nat.le_refl _)]
  have hother : ∀ j, j ≠ x.phone.trips.length → y.clocks j = x.clocks j := by
    intro j hj
    rw [clocks]
    split
    · exact Function.update_of_ne hj _ _
    · rfl
  have hmem : ∀ j, j ∈ (if resumed then [x.phone.trips.length] else []) ++ h.begun ↔
      (j = x.phone.trips.length ∧ resumed = true) ∨ j ∈ h.begun := by
    intro j
    cases resumed with
    | true => simp
    | false => simp
  refine ⟨fun j s hs => ?_, fun j hj => ?_, fun j hj => ?_, fun j hj => ?_⟩
  · rw [trips, List.getElem?_append] at hs
    split at hs
    · rename_i hlt
      rw [hother j (by omega), hmem j]
      have hbegun : (j = x.phone.trips.length ∧ resumed = true) ∨ j ∈ h.begun ↔ j ∈ h.begun := by
        constructor
        · rintro (⟨rfl, _⟩ | hj)
          · exact absurd hlt (by omega)
          · exact hj
        · exact Or.inr
      rw [hbegun]
      exact hx.screens j s hs
    · rename_i hge
      have hj : j - x.phone.trips.length < 1 := (List.getElem?_eq_some_iff.mp hs).1
      obtain rfl : j = x.phone.trips.length := by omega
      obtain rfl := List.mem_singleton.mp (List.mem_of_getElem? hs)
      rw [hclock, hmem]
      have hstart : ((x.phone.trips.length = x.phone.trips.length ∧ resumed = true) ∨
          x.phone.trips.length ∈ h.begun) ↔ resumed = true := by simp [hnew]
      rw [hstart, eq_false haway]
      exact .fresh trip resumed
  · rw [trips, List.length_append]
    rcases (hmem j).mp hj with ⟨rfl, _⟩ | hj
    · simp
    · have := hx.begun j hj
      omega
  · rw [trips, List.length_append]
    have := hx.endedAway j hj
    omega
  · rw [trips, List.length_append, List.length_singleton] at hj
    rw [hother j (by omega)]
    exact hx.clocks j (by omega)

/-- **One event of the phone.** -/
theorem phone_step (hx : Kept x h) {e : ClientPhoneEvent} {q : ClientPhone}
    (hstep : (ClientPhone.machine distance).Step x.phone e q) (hnow : x.isNow e = true) :
    Kept (x.follow e q) (noteDates h x (.phone e) (x.follow e q)) := by
  cases clockMove_of_step hstep hnow with
  | quiet unstarted unended trips clocks =>
    have hnote : noteDates h x (.phone e) (x.follow e q) = h := by
      simp [noteDates, unstarted, unended, follow, trips]
    rw [hnote]
    exact hx.of_same trips clocks
  | pushed silent trips clocks =>
    have hnote : noteDates h x (.phone e) (x.follow e q) =
        { begun := (if x.phone.resumesTrip e then [x.phone.trips.length] else []) ++ h.begun
          endedAway := h.endedAway } := by
      simp [noteDates, hears_of_none silent, follow, trips]
    rw [hnote]
    exact hx.of_push trips clocks
  | @started k screen heard listed trips =>
    have hne : Request_Status.started ≠ Request_Status.ended := by decide
    have hnote : noteDates h x (.phone e) (x.follow e q) =
        { begun := k :: h.begun, endedAway := h.endedAway } := by
      simp [noteDates, hears_of_some heard, follow, trips, hne]
    rw [hnote]
    refine hx.of_set listed trips (clocks_of_some heard) ?_ ?_ ?_
    · simpa using (hx.screens k screen listed).hears_start x.inBackground
    · intro j hj
      simp [hj]
    · exact fun _ _ => Iff.rfl
  | @ended k screen charge heard listed trips =>
    have hne : Request_Status.ended ≠ Request_Status.started := by decide
    have hnote : noteDates h x (.phone e) (x.follow e q) =
        { begun := h.begun
          endedAway := (if x.inBackground then [k] else []) ++ h.endedAway } := by
      simp [noteDates, hears_of_some heard, follow, trips, hne]
    rw [hnote]
    refine hx.of_set listed trips (clocks_of_some heard) ?_ ?_ ?_
    · have hend := (hx.screens k screen listed).hears_end charge x.inBackground
      cases hbackground : x.inBackground with
      | true => simpa [hbackground] using hend
      | false => simpa [hbackground] using hend
    · exact fun _ _ => Iff.rfl
    · intro j hj
      cases x.inBackground with
      | true => simp [hj]
      | false => simp

/-- The notification has reached a screen. -/
theorem notify_ok (hx : Kept x h) {k : Nat} (hok : x.notify k = .ok y) :
    Kept y h ∧ y.gone = x.gone ∧ (k ∈ h.endedAway → k ∉ x.gone → k ∈ h.begun) := by
  unfold notify at hok
  split at hok
  · rename_i screen listed
    split at hok
    · rename_i hgone
      obtain rfl : x = y := by simpa using hok
      exact ⟨hx, rfl, fun _ hno => absurd (by simpa using hgone) hno⟩
    · simp only [bind_eq_ok, pure_eq_ok, Prod.exists] at hok
      obtain ⟨screen', clock', htransition, rfl⟩ := hok
      obtain ⟨hscreen, hbegun⟩ := (hx.screens k screen listed).transition htransition
      exact ⟨hx.of_set listed rfl rfl hscreen (fun _ _ => Iff.rfl) (fun _ _ => Iff.rfl), rfl,
        fun haway _ => hbegun haway⟩
  · rename_i hnone
    obtain rfl : x = y := by simpa using hok
    refine ⟨hx, rfl, fun haway _ => ?_⟩
    have hlt := hx.endedAway k haway
    exact absurd hnone (by simp [List.getElem?_eq_getElem hlt])

/-- The notification stops the app at a screen. -/
theorem notify_error (hx : Kept x h) {k : Nat} {f : DateTrap} (herror : x.notify k = .error f) :
    f = .tripStartDate ∧ k ∈ h.endedAway ∧ k ∉ x.gone ∧ k ∉ h.begun := by
  unfold notify at herror
  split at herror
  · rename_i screen listed
    split at herror
    · exact absurd herror (by simp [pure, Except.pure])
    · rename_i hgone
      rcases bind_eq_error.mp herror with htransition | ⟨_, _, hno⟩
      · obtain ⟨rfl, haway, hbegun⟩ := (hx.screens k screen listed).transition_traps htransition
        exact ⟨rfl, haway, by simpa using hgone, hbegun⟩
      · exact absurd hno (by simp [pure, Except.pure])
  · exact absurd herror (by simp [pure, Except.pure])

/-- The notification has reached the screens `ks`, one after the other. -/
theorem foldlM_ok {ks : List Nat} (hx : Kept x h) (hok : ks.foldlM notify x = .ok y) :
    Kept y h ∧ ∀ k ∈ ks, k ∈ h.endedAway → k ∉ x.gone → k ∈ h.begun := by
  induction ks generalizing x with
  | nil =>
    obtain rfl : x = y := by simpa using hok
    exact ⟨hx, by simp⟩
  | cons k ks ih =>
    simp only [List.foldlM_cons, bind_eq_ok] at hok
    obtain ⟨z, hz, hok⟩ := hok
    obtain ⟨hkept, hgone, hk⟩ := hx.notify_ok hz
    obtain ⟨hy, hks⟩ := ih hkept hok
    refine ⟨hy, fun j hj => ?_⟩
    rcases List.mem_cons.mp hj with rfl | hj
    · exact hk
    · rw [← hgone]
      exact hks j hj

/-- The notification stops the app at one of the screens `ks`. -/
theorem foldlM_error {f : DateTrap} {ks : List Nat} (hx : Kept x h)
    (herror : ks.foldlM notify x = .error f) :
    f = .tripStartDate ∧ ∃ k ∈ ks, k ∈ h.endedAway ∧ k ∉ x.gone ∧ k ∉ h.begun := by
  induction ks generalizing x with
  | nil => exact absurd herror (by simp [pure, Except.pure])
  | cons k ks ih =>
    rw [List.foldlM_cons] at herror
    rcases bind_eq_error.mp herror with hk | ⟨z, hz, hks⟩
    · obtain ⟨hf, hbad⟩ := hx.notify_error hk
      exact ⟨hf, k, List.mem_cons_self, hbad⟩
    · obtain ⟨hkept, hgone, _⟩ := hx.notify_ok hz
      obtain ⟨hf, j, hj, haway, hno, hbegun⟩ := ih hkept hks
      exact ⟨hf, j, List.mem_cons_of_mem _ hj, haway, hgone ▸ hno, hbegun⟩

/-! ## 7. Every run -/

theorem start (device : Device) (onMain : Bool) :
    Kept { phone := { app := .launch device onMain } } {} where
  screens := by simp
  begun := by simp
  endedAway := by simp
  clocks := fun _ _ => rfl

/-- **One step.** -/
theorem step {x y : ClockedPhone × DateLog} {e : ClockedEvent} (hx : Kept x.1 x.2)
    (hstep : ((machine distance).withHistory noteDates).Step x e y) : Kept y.1 y.2 := by
  obtain ⟨hxy, hnote⟩ := Machine.withHistory_step.mp hstep
  rw [hnote]
  have hreact : react distance x.1 e = some (.ok y.1) := hxy
  cases e with
  | phone e =>
    simp only [react] at hreact
    split at hreact
    · rename_i hnow
      obtain ⟨q, hq, hy⟩ := handled_mapError_eq_ok.mp hreact
      rw [← hy]
      exact hx.phone_step hq hnow
    · exact absurd hreact (by simp)
  | didEnterBackground =>
    simp only [react] at hreact
    split at hreact
    · exact absurd hreact (by simp)
    · obtain hy : { x.1 with inBackground := true } = y.1 := by simpa using hreact
      rw [← hy]
      exact hx.of_same rfl rfl
  | willEnterForeground =>
    simp only [react] at hreact
    split at hreact
    · have hforeground : Kept { x.1 with inBackground := false } x.2 := hx.of_same rfl rfl
      exact (foldlM_ok hforeground (Option.some.inj hreact)).1
    · exact absurd hreact (by simp)
  | timerAction k =>
    obtain ⟨screen, _, hreact⟩ := Option.bind_eq_some_iff.mp hreact
    split at hreact
    · obtain ⟨_, _, hy⟩ := map_eq_ok.mp (Option.some.inj hreact)
      rw [← hy]
      exact hx
    · exact absurd hreact (by simp)
  | release k =>
    simp only [react] at hreact
    split at hreact
    · obtain hy : { x.1 with gone := k :: x.1.gone } = y.1 := by simpa using hreact
      rw [← hy]
      exact hx.of_same rfl rfl
    · exact absurd hreact (by simp)

/-- A date that is read is set, unless a screen knows of an end and of no start. -/
theorem datesAreSet_iff {x : ClockedPhone × DateLog} (hx : Kept x.1 x.2) :
    DatesAreSet distance x.1 ↔ EndsKnowStarts x := by
  have hforeground : Kept { x.1 with inBackground := false } x.2 := hx.of_same rfl rfl
  constructor
  · intro hset hbackground k haway hgone
    cases htransition : x.1.willEnterForeground with
    | ok y =>
      exact (foldlM_ok hforeground htransition).2 k (List.mem_range.mpr (hx.endedAway k haway))
        haway hgone
    | error f =>
      have htraps : (machine distance).Traps x.1 .willEnterForeground f := by
        simp [Machine.Traps, machine, react, hbackground, htransition]
      obtain ⟨rfl, _⟩ := foldlM_error hforeground htransition
      exact absurd rfl (hset _ _ htraps).1
  · intro hknow e f htraps
    have hreact : react distance x.1 e = some (.error f) := htraps
    cases e with
    | phone e =>
      simp only [react] at hreact
      split at hreact
      · obtain ⟨r, _, hf⟩ := Option.map_eq_some_iff.mp hreact
        cases r with
        | error t =>
          obtain rfl : .other t = f := Except.error.inj hf
          exact ⟨by simp, by simp⟩
        | ok q => exact absurd hf (by simp [Except.mapError, Except.map])
      · exact absurd hreact (by simp)
    | didEnterBackground =>
      simp only [react] at hreact
      split at hreact
      · exact absurd hreact (by simp)
      · exact absurd hreact (by simp)
    | willEnterForeground =>
      simp only [react] at hreact
      split at hreact
      · rename_i hbackground
        obtain ⟨_, k, _, haway, hgone, hno⟩ := foldlM_error hforeground (Option.some.inj hreact)
        exact absurd (hknow hbackground k haway hgone) hno
      · exact absurd hreact (by simp)
    | timerAction k =>
      obtain ⟨screen, listed, hreact⟩ := Option.bind_eq_some_iff.mp hreact
      split at hreact
      · rename_i hscheduled
        have hscreen := hx.screens k screen listed
        have hstart := hscreen.start.mpr (hscreen.scheduled hscheduled)
        exact absurd hreact (by simp [ClientTrip.timerAction, ClientTrip.startDate, hstart,
          Except.map])
      · exact absurd hreact (by simp)
    | release k =>
      simp only [react] at hreact
      split at hreact
      · exact absurd hreact (by simp)
      · exact absurd hreact (by simp)

end Kept

/-- **When the dates are set.**  In every state that a run of the client's app reaches, over any
messages, transitions and ticks: nothing that happens next reads a date that is nil, exactly if,
while the app is in the background, every trip screen that has heard of an end there and was not
released was loaded while a trip was resumed, or has heard of a start. -/
theorem dates_are_set_iff (device : Device) (onMain : Bool) {x : ClockedPhone × DateLog}
    (hrun : ((machine distance).withHistory noteDates).Run
      ({ phone := { app := .launch device onMain } }, {}) x) :
    DatesAreSet distance x.1 ↔ EndsKnowStarts x := by
  have hkept : Kept x.1 x.2 := hrun.invariant (I := fun x => Kept x.1 x.2)
    (Kept.start device onMain) fun _ _ _ hI _ hstep => hI.step hstep
  exact hkept.datesAreSet_iff

/-- A fresh trip whose provider has reached the client: the trip screen is open. -/
def reachedClocked : List ClockedEvent :=
  (ClientPhone.requestPhone ++ ClientPhone.acceptPhone ++
    [ClientPhoneEvent.onMessage 1 (tripText Request_Status.reached) false]).map .phone

/-- A resumed trip whose start has opened the trip screen, and is spent on that. -/
def startedClocked : List ClockedEvent :=
  (ClientPhone.resumedSheetPhone ++
    [ClientPhoneEvent.onMessage 1 (tripText Request_Status.started) false]).map .phone

/-- The trip ends while the app is in the background. -/
def endsAway : List ClockedEvent :=
  [.didEnterBackground, .phone (.onMessage 1 (tripText Request_Status.ended) true)]

/-- The start is heard, and a tick comes, before the trip ends in the background. -/
theorem dates_are_set_started : ∃ x : ClockedPhone × DateLog,
    x.1.inBackground = true ∧ x.2.endedAway = [0] ∧
    DatesAreSet sampleDistance x.1 := by
  obtain ⟨x, hrun, htest⟩ := Machine.exists_run_of_replay
    ((machine sampleDistance).withHistory noteDates) (fun _ _ => true)
    ({ phone := { app := .launch ClientSession.sampleDevice false } }, {})
    (reachedClocked ++ [.phone (.onMessage 1 (tripText Request_Status.started) false),
      .timerAction 0] ++ endsAway)
    (fun x => x.1.inBackground && x.2.endedAway == [0] && x.2.begun == [0])
    (fun _ _ _ => trivial) (by decide +kernel)
  simp only [Bool.and_eq_true, beq_iff_eq] at htest
  obtain ⟨⟨hbackground, haway⟩, hbegun⟩ := htest
  refine ⟨x, hbackground, haway, (dates_are_set_iff ClientSession.sampleDevice false hrun).mpr ?_⟩
  intro _ k hk _
  rw [haway] at hk
  rw [hbegun]
  exact hk

def stopsAtTransition (x : ClockedPhone × DateLog) : Bool :=
  match react sampleDistance x.1 .willEnterForeground with
  | some (.error .tripStartDate) => true
  | _ => false

theorem not_datesAreSet {x : ClockedPhone × DateLog} (h : stopsAtTransition x = true) :
    ¬DatesAreSet sampleDistance x.1 := by
  unfold stopsAtTransition at h
  split at h
  · rename_i hreact
    have htraps : (machine sampleDistance).Traps x.1 .willEnterForeground
        .tripStartDate := hreact
    exact fun hset => (hset _ _ htraps).1 rfl
  · exact absurd h (by simp)

/-- The start of a fresh trip is lost, or that of a resumed one has only opened the screen; the end
comes in the background, and the next transition to the foreground stops the app. -/
theorem ended_before_start :
    (∃ x, ((machine sampleDistance).withHistory noteDates).Run
      ({ phone := { app := .launch ClientSession.sampleDevice false } }, {}) x ∧
        x.1.phone.doesRequestExist = false ∧ x.2.begun = [] ∧
        ¬DatesAreSet sampleDistance x.1) ∧
    ∃ x, ((machine sampleDistance).withHistory noteDates).Run
      ({ phone := { app := .launch ClientSession.sampleDevice false } }, {}) x ∧
        x.1.phone.app.device.appDelegate.clientExistingTrip.isSome = true ∧ x.2.begun = [] ∧
        ¬DatesAreSet sampleDistance x.1 := by
  constructor
  · obtain ⟨x, hrun, htest⟩ := Machine.exists_run_of_replay
      ((machine sampleDistance).withHistory noteDates) (fun _ _ => true)
      ({ phone := { app := .launch ClientSession.sampleDevice false } }, {})
      (reachedClocked ++ endsAway)
      (fun x => x.1.phone.doesRequestExist == false && x.2.begun == [] && stopsAtTransition x)
      (fun _ _ _ => trivial) (by decide +kernel)
    simp only [Bool.and_eq_true, beq_iff_eq] at htest
    exact ⟨x, hrun, htest.1.1, htest.1.2, not_datesAreSet htest.2⟩
  · obtain ⟨x, hrun, htest⟩ := Machine.exists_run_of_replay
      ((machine sampleDistance).withHistory noteDates) (fun _ _ => true)
      ({ phone := { app := .launch ClientSession.sampleDevice false } }, {})
      (startedClocked ++ endsAway)
      (fun x => x.1.phone.app.device.appDelegate.clientExistingTrip.isSome && x.2.begun == [] &&
        stopsAtTransition x)
      (fun _ _ _ => trivial) (by decide +kernel)
    simp only [Bool.and_eq_true, beq_iff_eq] at htest
    exact ⟨x, hrun, htest.1.1, htest.1.2, not_datesAreSet htest.2⟩

end ClockedPhone

end WeatherAccommodation
