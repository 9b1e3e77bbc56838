/-
# The order of a provider's trip

The button of the start-trip screen posts the start of the trip and, once that was acknowledged, its
end.  The state moves on in the completion handlers only, so a button that could be pressed twice
while a post is under way would send it twice; what stands before that is the activity view, which
covers the window until the answer comes.

`StartTripScreen` adds to the `StartTrip` of the app what the handlers touch besides: the date the
seconds are counted from, the timer, the activity view and the rating.  The app's own handlers are
what is left when that is forgotten (`answered_toStartTrip`).

* `trip_order`: on a fresh screen and on a resumed one, whatever is pressed and however the posts
  end, the end is posted after an acknowledged start only, the start is not posted after one, a post
  that fails changes nothing, one timer runs from the start to the end, and after an acknowledged
  end nothing is posted and no timer runs.
-/
import WeatherAccommodation.Provider.Trip
import WeatherAccommodation.ClientProviderAPIManager
import WeatherAccommodation.Library.Callbacks

namespace WeatherAccommodation

open Foundation Reactive

/-! ## 1. The screen -/

/-- The timers that were scheduled, by number. -/
structure ScheduledTimers where
  made : Nat := 0
  live : List Nat := []
  /-- `timer`; the one it is declared with was never scheduled. -/
  timer : Option Nat := none
  deriving DecidableEq, Repr

namespace ScheduledTimers

/-- `Timer.scheduledTimer`; the timer that was in `timer` runs on. -/
def schedule (timers : ScheduledTimers) : ScheduledTimers where
  made := timers.made + 1
  live := timers.made :: timers.live
  timer := some timers.made

def invalidate (timers : ScheduledTimers) : ScheduledTimers :=
  { timers with live := timers.live.filter fun t => timers.timer != some t }

end ScheduledTimers

/-- What is posted; the parameters of a review are no part of the order. -/
inductive StartTripCall where
  | postStartEndTrip (request : StartEndRequest)
  | postTripReview
  deriving Repr

structure StartTripScreen extends StartTrip where
  /-- In seconds. -/
  tripStartDate : Option ℚ := none
  timers : ScheduledTimers := {}
  lblFare : Option Json := none
  vwRatingsIsHidden : Bool := true
  activityViewIsHidden : Bool := true
  /-- Nothing can be tapped once the screen was left. -/
  isOnStack : Bool := true
  calls : Callbacks StartTripCall := .empty
  /-- Every post so far, answered or not. -/
  posts : List StartTripCall := []

inductive StartTripEvent where
  | btnActionPressed (isConnected : Bool)
  | submitReviewPressed (isConnected : Bool)
  | reply (call : Nat) (outcome : ClientProviderAPIManager.Outcome) (now : ℚ)
  | timerAction
  /-- The way back, or the alert that says that the account has been logged out. -/
  | leave

inductive StartTripTrap where
  | tripStartDate
  | other (t : Trap)
  deriving DecidableEq, Repr

namespace StartTripScreen

def showActivityIndicator (x : StartTripScreen) : StartTripScreen :=
  { x with activityViewIsHidden := false }

def removeActivityIndicator (x : StartTripScreen) : StartTripScreen :=
  { x with activityViewIsHidden := true }

def changeUIWhenTripStarts (x : StartTripScreen) : StartTripScreen :=
  { x with isTripStarted := true, timers := x.timers.schedule }

/-- A screen for the trip, with its `viewDidLoad`. -/
def viewDidLoad (trip : Dict) (doesRequestExist : Bool) (now : ℚ) :
    Except Trap StartTripScreen :=
  if doesRequestExist then do
    let tripStartTime ← forceInt trip "TripStartTime"
    let screen : StartTripScreen := {
      currentRequest := trip
      tripStartDate := some (now - (tripStartTime.tdiv 1000 : ℤ)) }
    return screen.changeUIWhenTripStarts
  else return { currentRequest := trip }

/-- `getResponse`: without a connection there is an alert, and the view is hidden. -/
def getResponse (x : StartTripScreen) (isConnected : Bool) (call : StartTripCall) :
    StartTripScreen :=
  if isConnected then { x with calls := x.calls.issue call, posts := x.posts ++ [call] }
  else x.removeActivityIndicator

def btnActionPressed (x : StartTripScreen) (isConnected : Bool) : Except Trap StartTripScreen := do
  let x := x.showActivityIndicator
  let request ← x.toStartTrip.btnActionPressed
  return x.getResponse isConnected (.postStartEndTrip request)

def submitReviewPressed (x : StartTripScreen) (isConnected : Bool) :
    Except Trap StartTripScreen := do
  let x := x.showActivityIndicator
  let _ ← forceKey x.currentRequest "ClientId"
  let _ ← forceKey x.currentRequest "ProviderId"
  let _ ← forceKey x.currentRequest "TripId"
  return x.getResponse isConnected .postTripReview

/-- The start was acknowledged. -/
def tripStarts (x : StartTripScreen) (now : ℚ) : StartTripScreen :=
  { x with tripStartDate := some now }.changeUIWhenTripStarts

/-- The end was. -/
def tripEnds (x : StartTripScreen) (fare : Json) : StartTripScreen :=
  { x with
    btnActionIsHidden := true
    lblFare := some fare
    timers := x.timers.invalidate
    vwRatingsIsHidden := false }

/-- The completion handlers of the button, by what was sent; after a failure there is no
response. -/
def startEndCompletion (x : StartTripScreen) (statusCode : String) (now : ℚ) :
    Option Json → Except Trap StartTripScreen
  | none => return x.removeActivityIndicator
  | some response =>
    if statusCode = Numeric_TripStatus.started then
      return x.removeActivityIndicator.tripStarts now
    else do
      -- `responseOject["TripChargeAmount"]!` asks any object for the key, and an array has none.
      let dict ← unwrap .notAnObject response.asDict?
      return x.removeActivityIndicator.tripEnds
        ((Dict.get? dict "TripChargeAmount").getD (.str "0"))

/-- The completion handler of the review; a success shows an alert, which hides the view again. -/
def reviewCompletion (x : StartTripScreen) : StartTripScreen :=
  { x.removeActivityIndicator with isOnStack := false }

def completion (x : StartTripScreen) (now : ℚ) :
    StartTripCall → Option Json → Except Trap StartTripScreen
  | .postStartEndTrip request, response => x.startEndCompletion request.statusCode now response
  | .postTripReview, _ => return x.reviewCompletion

/-- What `getResponse` does with the answer. -/
def answered (x : StartTripScreen) (call : StartTripCall) (now : ℚ) :
    ClientProviderAPIManager.Outcome → Option (Except Trap StartTripScreen)
  | .offline => none
  | .failure _ => some do
    let x ← x.completion now call none
    return x.removeActivityIndicator
  | .success (.obj dict) => some (x.completion now call (some (.obj dict)))
  | .success (.arr items) => some (x.completion now call (some (.arr items)))
  | .success _ => some (.error (.badCast "response"))

/-- A button can be tapped where it is, unless the activity view covers it. -/
def canTap (x : StartTripScreen) (isHidden : Bool) : Bool :=
  x.isOnStack && x.activityViewIsHidden && !isHidden

def timerAction (x : StartTripScreen) : Except StartTripTrap StartTripScreen := do
  let _ ← unwrap .tripStartDate x.tripStartDate
  return x

/-- What each event does, and when it can happen. -/
def react (x : StartTripScreen) : StartTripEvent → Option (Except StartTripTrap StartTripScreen)
  | .btnActionPressed isConnected =>
    if x.canTap x.btnActionIsHidden then
      some ((x.btnActionPressed isConnected).mapError .other)
    else none
  | .submitReviewPressed isConnected =>
    if x.canTap x.vwRatingsIsHidden then
      some ((x.submitReviewPressed isConnected).mapError .other)
    else none
  | .reply call outcome now =>
    (x.calls.waiting call).bind fun waiting =>
      ({ x with calls := x.calls.retire call }.answered waiting now outcome).map
        (Except.mapError .other)
  | .timerAction => if x.timers.live.isEmpty then none else some x.timerAction
  | .leave => some (.ok { x with isOnStack := false })

def machine : Machine StartTripScreen StartTripEvent StartTripTrap where
  react := react

/-! ## 2. What a step does -/

variable {x y : StartTripScreen}

/-- Did the handler hear of a success? -/
def succeeds : ClientProviderAPIManager.Outcome → Bool
  | .success _ => true
  | _ => false

/-- How a post of the button ends. -/
inductive Answer (x : StartTripScreen) (statusCode : String) (now : ℚ) (success : Bool)
    (y : StartTripScreen) : Prop
  | failed (no : success = false) (after : y = x.removeActivityIndicator)
  | started (yes : success = true) (sent : statusCode = Numeric_TripStatus.started)
      (after : y = x.removeActivityIndicator.tripStarts now)
  | ended (fare : Json) (yes : success = true) (sent : statusCode ≠ Numeric_TripStatus.started)
      (after : y = x.removeActivityIndicator.tripEnds fare)

theorem answer_of_completion {statusCode : String} {now : ℚ} {response : Json}
    (h : x.startEndCompletion statusCode now (some response) = .ok y) :
    Answer x statusCode now true y := by
  simp only [startEndCompletion] at h
  split at h
  · rename_i hsent
    exact .started rfl hsent (pure_eq_ok.mp h).symm
  · rename_i hsent
    simp only [bind_eq_ok, pure_eq_ok] at h
    obtain ⟨dict, _, rfl⟩ := h
    exact .ended _ rfl hsent rfl

theorem answered_startEnd {request : StartEndRequest} {now : ℚ}
    {outcome : ClientProviderAPIManager.Outcome}
    (h : x.answered (.postStartEndTrip request) now outcome = some (.ok y)) :
    Answer x request.statusCode now (succeeds outcome) y := by
  cases outcome with
  | offline => exact absurd h (by simp [answered])
  | failure code =>
    simp only [answered, completion, startEndCompletion, Option.some.injEq, bind_eq_ok,
      pure_eq_ok] at h
    obtain ⟨_, rfl, rfl⟩ := h
    exact .failed rfl rfl
  | success response =>
    cases response with
    | obj dict => exact answer_of_completion (Option.some.inj h)
    | arr items => exact answer_of_completion (Option.some.inj h)
    | _ => exact absurd h (by simp [answered])

theorem answered_review {now : ℚ} {outcome : ClientProviderAPIManager.Outcome}
    (h : x.answered .postTripReview now outcome = some (.ok y)) : y = x.reviewCompletion := by
  cases outcome with
  | offline => exact absurd h (by simp [answered])
  | failure code =>
    simp only [answered, completion, Option.some.injEq, bind_eq_ok, pure_eq_ok] at h
    obtain ⟨_, rfl, rfl⟩ := h
    rfl
  | success response =>
    cases response with
    | obj dict => exact (pure_eq_ok.mp (Option.some.inj h)).symm
    | arr items => exact (pure_eq_ok.mp (Option.some.inj h)).symm
    | _ => exact absurd h (by simp [answered])

/-- What each event does. -/
def StepOf (x y : StartTripScreen) : StartTripEvent → Prop
  | .btnActionPressed isConnected =>
    x.canTap x.btnActionIsHidden = true ∧ ∃ request : StartEndRequest,
      request.statusCode = x.statusCode ∧
        y = x.showActivityIndicator.getResponse isConnected (.postStartEndTrip request)
  | .submitReviewPressed isConnected =>
    x.canTap x.vwRatingsIsHidden = true ∧
      y = x.showActivityIndicator.getResponse isConnected .postTripReview
  | .reply call outcome now =>
    (∃ request, x.calls.waiting call = some (.postStartEndTrip request) ∧
      Answer { x with calls := x.calls.retire call } request.statusCode now (succeeds outcome) y) ∨
    (x.calls.waiting call = some .postTripReview ∧
      y = { x with calls := x.calls.retire call }.reviewCompletion)
  | .timerAction => y = x
  | .leave => y = { x with isOnStack := false }

theorem step_inv {e : StartTripEvent} (h : machine.Step x e y) : StepOf x y e := by
  have hreact : x.react e = some (.ok y) := h
  cases e with
  | btnActionPressed isConnected =>
    simp only [react] at hreact
    split at hreact
    · rename_i htap
      have hok := mapError_eq_ok.mp (Option.some.inj hreact)
      simp only [btnActionPressed, StartTrip.btnActionPressed, bind_eq_ok, pure_eq_ok] at hok
      obtain ⟨request, ⟨_, _, _, _, _, _, rfl⟩, rfl⟩ := hok
      exact ⟨htap, _, rfl, rfl⟩
    · exact absurd hreact (by simp)
  | submitReviewPressed isConnected =>
    simp only [react] at hreact
    split at hreact
    · rename_i htap
      have hok := mapError_eq_ok.mp (Option.some.inj hreact)
      simp only [submitReviewPressed, bind_eq_ok, pure_eq_ok] at hok
      obtain ⟨_, _, _, _, _, _, rfl⟩ := hok
      exact ⟨htap, rfl⟩
    · exact absurd hreact (by simp)
  | reply call outcome now =>
    simp only [react] at hreact
    obtain ⟨waiting, hwaiting, hanswered⟩ := Option.bind_eq_some_iff.mp hreact
    obtain ⟨r, hr, hok⟩ := Option.map_eq_some_iff.mp hanswered
    obtain rfl : r = .ok y := by
      cases r with
      | error t => exact absurd hok (by simp [Except.mapError])
      | ok z => simpa [Except.mapError] using hok
    cases waiting with
    | postStartEndTrip request => exact Or.inl ⟨request, hwaiting, answered_startEnd hr⟩
    | postTripReview => exact Or.inr ⟨hwaiting, answered_review hr⟩
  | timerAction =>
    simp only [react] at hreact
    split at hreact
    · exact absurd hreact (by simp)
    · simp only [timerAction, Option.some.injEq, bind_eq_ok, pure_eq_ok] at hreact
      obtain ⟨_, _, rfl⟩ := hreact
      rfl
  | leave => simpa [react, StepOf, eq_comm] using hreact

/-! ## 3. The screen of the app -/

/-- The screen is loaded as the app's is. -/
theorem viewDidLoad_toStartTrip {trip : Dict} {doesRequestExist : Bool} {now : ℚ}
    (h : viewDidLoad trip doesRequestExist now = .ok x) :
    StartTrip.viewDidLoad { currentRequest := trip } doesRequestExist = .ok x.toStartTrip := by
  unfold viewDidLoad at h
  unfold StartTrip.viewDidLoad
  split at h
  · rename_i hflag
    simp only [bind_eq_ok, pure_eq_ok] at h
    obtain ⟨tripStartTime, htime, rfl⟩ := h
    rw [if_pos hflag, htime]
    rfl
  · rename_i hflag
    obtain rfl := pure_eq_ok.mp h
    rw [if_neg hflag]
    rfl

/-- A post of the button is answered as in the app. -/
theorem answered_toStartTrip {request : StartEndRequest} {now : ℚ}
    {outcome : ClientProviderAPIManager.Outcome}
    (h : x.answered (.postStartEndTrip request) now outcome = some (.ok y)) :
    y.toStartTrip = x.toStartTrip.startEndReply request.statusCode (succeeds outcome) := by
  cases answered_startEnd h with
  | failed no after =>
    rw [after, no]
    rfl
  | started yes sent after =>
    rw [after, yes, StartTrip.startEndReply, if_pos rfl, if_pos sent]
    rfl
  | ended fare yes sent after =>
    rw [after, yes, StartTrip.startEndReply, if_pos rfl, if_neg sent]
    rfl

/-! ## 4. The order -/

/-- The posts that were acknowledged, by their status codes: the history variable. -/
def noteAcknowledged (acknowledged : List String) (x : StartTripScreen) (e : StartTripEvent)
    (_ : StartTripScreen) : List String :=
  match e with
  | .reply call outcome _ =>
    match x.calls.waiting call, succeeds outcome with
    | some (.postStartEndTrip request), true => request.statusCode :: acknowledged
    | _, _ => acknowledged
  | _ => acknowledged

/-- The next event may post this request. -/
def Posts (x : StartTripScreen) (request : StartEndRequest) : Prop :=
  ∃ e y, machine.Step x e y ∧ y.posts = x.posts ++ [.postStartEndTrip request]

/-- A post that does not get through, or that is answered with a failure. -/
def failsPost : StartTripEvent → Bool
  | .btnActionPressed isConnected => !isConnected
  | .reply _ outcome _ => !succeeds outcome
  | _ => false

/-- The trip has begun: it is being resumed, or its start was acknowledged. -/
def HasBegun (resumed : Bool) (acknowledged : List String) : Prop :=
  resumed = true ∨ Numeric_TripStatus.started ∈ acknowledged

/-- **The order of a trip.** -/
structure OrderKept (resumed : Bool) (x : StartTripScreen × List String) : Prop where
  endAfterStart : ∀ request, x.1.Posts request → request.statusCode = Numeric_TripStatus.ended →
    HasBegun resumed x.2
  startOnce : ∀ request, x.1.Posts request → request.statusCode = Numeric_TripStatus.started →
    ¬HasBegun resumed x.2
  failedPost : ∀ e y, machine.Step x.1 e y → failsPost e = true →
    y.isTripStarted = x.1.isTripStarted ∧ y.tripStartDate = x.1.tripStartDate ∧
      y.timers = x.1.timers
  /-- One timer is live, it is the one that can be stopped, and it has a date to count from. -/
  oneTimer : HasBegun resumed x.2 → Numeric_TripStatus.ended ∉ x.2 →
    x.1.tripStartDate.isSome = true ∧ ∃ t, x.1.timers.timer = some t ∧ x.1.timers.live = [t]
  afterEnd : Numeric_TripStatus.ended ∈ x.2 →
    (∀ request, ¬x.1.Posts request) ∧ x.1.timers.live = []

/-- What carries the order: the flag and the button tell how far the trip is, and while a post of
the button waits, nothing else does and the window is covered. -/
structure Ordered (resumed : Bool) (x : StartTripScreen) (acknowledged : List String) : Prop where
  begun : x.isTripStarted = true ↔ HasBegun resumed acknowledged
  ended : x.btnActionIsHidden = true ↔ Numeric_TripStatus.ended ∈ acknowledged
  rating : x.vwRatingsIsHidden = false → x.btnActionIsHidden = true
  startEnd : ∀ i request, x.calls.waiting i = some (.postStartEndTrip request) →
    x.activityViewIsHidden = false ∧ x.btnActionIsHidden = false ∧
      request.statusCode = x.statusCode ∧ ∀ j, x.calls.waiting j ≠ none → j = i
  review : ∀ i, x.calls.waiting i = some .postTripReview → x.btnActionIsHidden = true
  quiet : x.isTripStarted = false → x.btnActionIsHidden = false ∧ x.timers.live = []
  running : x.isTripStarted = true → x.btnActionIsHidden = false →
    x.tripStartDate.isSome = true ∧ ∃ t, x.timers.timer = some t ∧ x.timers.live = [t]
  stopped : x.btnActionIsHidden = true → x.timers.live = []

theorem started_ne_ended : Numeric_TripStatus.started ≠ Numeric_TripStatus.ended := by decide

theorem statusCode_eq_started :
    x.statusCode = Numeric_TripStatus.started ↔ x.isTripStarted = false := by
  cases hstarted : x.isTripStarted with
  | true => simp [StartTrip.statusCode, hstarted, started_ne_ended.symm]
  | false => simp [StartTrip.statusCode, hstarted]

theorem statusCode_eq_ended :
    x.statusCode = Numeric_TripStatus.ended ↔ x.isTripStarted = true := by
  cases hstarted : x.isTripStarted with
  | true => simp [StartTrip.statusCode, hstarted]
  | false => simp [StartTrip.statusCode, hstarted, started_ne_ended]

namespace Ordered

variable {resumed : Bool} {acknowledged : List String} {e : StartTripEvent}

/-- The screen as it is loaded. -/
theorem load {trip : Dict} {now : ℚ} (h : viewDidLoad trip resumed now = .ok x) :
    Ordered resumed x [] := by
  cases resumed with
  | false =>
    obtain rfl := pure_eq_ok.mp h
    exact ⟨by simp [HasBegun], by simp, by simp, by simp, by simp, by simp, by simp, by simp⟩
  | true =>
    simp only [viewDidLoad, if_true, bind_eq_ok, pure_eq_ok] at h
    obtain ⟨tripStartTime, _, rfl⟩ := h
    refine ⟨by simp [HasBegun, changeUIWhenTripStarts], ?_, ?_, ?_, ?_, ?_, fun _ _ => ?_, ?_⟩
    · simp [changeUIWhenTripStarts]
    · simp [changeUIWhenTripStarts]
    · simp [changeUIWhenTripStarts]
    · simp [changeUIWhenTripStarts]
    · simp [changeUIWhenTripStarts]
    · exact ⟨rfl, 0, rfl, rfl⟩
    · simp [changeUIWhenTripStarts]

/-- Nothing that the order depends on changes, but for what waits. -/
theorem of_same (hx : Ordered resumed x acknowledged) (trip : y.toStartTrip = x.toStartTrip)
    (date : y.tripStartDate = x.tripStartDate) (timers : y.timers = x.timers)
    (rating : y.vwRatingsIsHidden = x.vwRatingsIsHidden)
    (startEnd : ∀ i request, y.calls.waiting i = some (.postStartEndTrip request) →
      y.activityViewIsHidden = false ∧ y.btnActionIsHidden = false ∧
        request.statusCode = y.statusCode ∧ ∀ j, y.calls.waiting j ≠ none → j = i)
    (review : ∀ i, y.calls.waiting i = some .postTripReview → y.btnActionIsHidden = true) :
    Ordered resumed y acknowledged where
  begun := by
    rw [trip]
    exact hx.begun
  ended := by
    rw [trip]
    exact hx.ended
  rating := by
    rw [trip, rating]
    exact hx.rating
  startEnd := startEnd
  review := review
  quiet := by
    rw [trip, timers]
    exact hx.quiet
  running := by
    rw [trip, timers, date]
    exact hx.running
  stopped := by
    rw [trip, timers]
    exact hx.stopped

/-- A button that can be tapped waits for no post. -/
theorem none_waits (hx : Ordered resumed x acknowledged)
    (htap : x.canTap x.btnActionIsHidden = true) (i : Nat) : x.calls.waiting i = none := by
  simp only [canTap, Bool.and_eq_true, Bool.not_eq_true'] at htap
  cases hwaiting : x.calls.waiting i with
  | none => rfl
  | some call =>
    cases call with
    | postStartEndTrip request =>
      exact absurd htap.1.2 (by simp [(hx.startEnd i request hwaiting).1])
    | postTripReview => exact absurd htap.2 (by simp [hx.review i hwaiting])

theorem press (hx : Ordered resumed x acknowledged)
    (htap : x.canTap x.btnActionIsHidden = true) {request : StartEndRequest}
    (hcode : request.statusCode = x.statusCode) (isConnected : Bool) :
    Ordered resumed (x.showActivityIndicator.getResponse isConnected (.postStartEndTrip request))
      acknowledged := by
  have hnone := hx.none_waits htap
  cases isConnected with
  | false =>
    refine hx.of_same rfl rfl rfl rfl (fun i request' hi => ?_) fun i hi => ?_
    · exact absurd hi (by simp [getResponse, removeActivityIndicator, showActivityIndicator, hnone])
    · exact absurd hi (by simp [getResponse, removeActivityIndicator, showActivityIndicator, hnone])
  | true =>
    simp only [canTap, Bool.and_eq_true, Bool.not_eq_true'] at htap
    have honly : ∀ i call, (x.calls.issue (.postStartEndTrip request)).waiting i = some call →
        i = x.calls.issued ∧ call = .postStartEndTrip request := by
      intro i call hi
      rw [Callbacks.waiting_issue] at hi
      split at hi
      · rename_i heq
        exact ⟨heq, (Option.some.inj hi).symm⟩
      · exact absurd hi (by simp [hnone])
    refine hx.of_same rfl rfl rfl rfl (fun i request' hi => ?_) fun i hi => ?_
    · obtain ⟨rfl, heq⟩ := honly i _ hi
      obtain rfl := StartTripCall.postStartEndTrip.inj heq
      refine ⟨rfl, htap.2, hcode, fun j hj => ?_⟩
      obtain ⟨call, hcall⟩ := Option.ne_none_iff_exists'.mp hj
      exact (honly j call hcall).1
    · exact absurd (honly i _ hi).2 (by simp)

theorem pressReview (hx : Ordered resumed x acknowledged)
    (htap : x.canTap x.vwRatingsIsHidden = true) (isConnected : Bool) :
    Ordered resumed (x.showActivityIndicator.getResponse isConnected .postTripReview)
      acknowledged := by
  simp only [canTap, Bool.and_eq_true, Bool.not_eq_true'] at htap
  have hover : x.btnActionIsHidden = true := hx.rating htap.2
  have hnone : ∀ i request, x.calls.waiting i ≠ some (.postStartEndTrip request) :=
    fun i request hi => absurd hover (by simp [(hx.startEnd i request hi).2.1])
  cases isConnected with
  | false =>
    refine hx.of_same rfl rfl rfl rfl (fun i request hi => ?_) fun i _ => hover
    exact absurd hi (hnone i request)
  | true =>
    refine hx.of_same rfl rfl rfl rfl (fun i request hi => ?_) fun i _ => hover
    have hi : (x.calls.issue .postTripReview).waiting i = some (.postStartEndTrip request) := hi
    rw [Callbacks.waiting_issue] at hi
    split at hi
    · exact absurd hi (by simp)
    · exact absurd hi (hnone i request)

/-- The review was answered, and the screen is left. -/
theorem reviewed (hx : Ordered resumed x acknowledged) {call : Nat}
    (hcall : x.calls.waiting call = some .postTripReview) :
    Ordered resumed { x with calls := x.calls.retire call }.reviewCompletion acknowledged := by
  have hover : x.btnActionIsHidden = true := hx.review call hcall
  refine hx.of_same rfl rfl rfl rfl (fun i request hi => ?_) fun i _ => hover
  have hi : (x.calls.retire call).waiting i = some (.postStartEndTrip request) := hi
  rw [Callbacks.waiting_retire] at hi
  split at hi
  · exact absurd hi (by simp)
  · exact absurd hover (by simp [(hx.startEnd i request hi).2.1])

/-- A post of the button was answered: the flag, the button and the timer move on with the log. -/
theorem answer (hx : Ordered resumed x acknowledged) {call : Nat} {request : StartEndRequest}
    {now : ℚ} {success : Bool} (hcall : x.calls.waiting call = some (.postStartEndTrip request))
    (h : Answer { x with calls := x.calls.retire call } request.statusCode now success y) :
    Ordered resumed y
      (if success then request.statusCode :: acknowledged else acknowledged) := by
  obtain ⟨_, hshown, hcode, hsole⟩ := hx.startEnd call request hcall
  have hnone : ∀ i, (x.calls.retire call).waiting i = none := by
    intro i
    rw [Callbacks.waiting_retire]
    split
    · rfl
    · rename_i hne
      by_contra hsome
      exact hne (hsole i hsome).symm
  cases h with
  | failed no after =>
    subst no after
    refine hx.of_same rfl rfl rfl rfl (fun i request' hi => ?_) fun i hi => ?_
    · exact absurd hi (by simp [removeActivityIndicator, hnone])
    · exact absurd hi (by simp [removeActivityIndicator, hnone])
  | started yes sent after =>
    subst yes after
    have hstarted : x.isTripStarted = false := statusCode_eq_started.mp (hcode ▸ sent)
    have hlive : x.timers.live = [] := (hx.quiet hstarted).2
    have hended : Numeric_TripStatus.ended ∉ acknowledged := by
      intro hmem
      exact absurd (hx.ended.mpr hmem) (by simp [hshown])
    refine ⟨?_, ?_, hx.rating, fun i _ hi => ?_, fun i hi => ?_, ?_, fun _ _ => ?_, ?_⟩
    · simp [tripStarts, changeUIWhenTripStarts, HasBegun, sent]
    · simp [tripStarts, changeUIWhenTripStarts, removeActivityIndicator, hshown, sent, hended,
        started_ne_ended.symm]
    · exact absurd hi (by simp [tripStarts, changeUIWhenTripStarts, removeActivityIndicator, hnone])
    · exact absurd hi (by simp [tripStarts, changeUIWhenTripStarts, removeActivityIndicator, hnone])
    · simp [tripStarts, changeUIWhenTripStarts]
    · refine ⟨rfl, x.timers.made, rfl, ?_⟩
      simp [tripStarts, changeUIWhenTripStarts, removeActivityIndicator, ScheduledTimers.schedule,
        hlive]
    · simp [tripStarts, changeUIWhenTripStarts, removeActivityIndicator, hshown]
  | ended fare yes sent after =>
    subst yes after
    have hstarted : x.isTripStarted = true := by
      by_contra hno
      exact sent (hcode.trans (statusCode_eq_started.mpr (by simpa using hno)))
    have hsent : request.statusCode = Numeric_TripStatus.ended :=
      hcode.trans (statusCode_eq_ended.mpr hstarted)
    obtain ⟨_, t, htimer, hlive⟩ := hx.running hstarted hshown
    have hbegun : HasBegun resumed acknowledged := hx.begun.mp hstarted
    refine ⟨?_, ?_, fun _ => rfl, fun i _ hi => ?_, fun i _ => rfl, ?_, ?_, fun _ => ?_⟩
    · refine iff_of_true hstarted ?_
      exact hbegun.imp_right (List.mem_cons_of_mem _)
    · simp [tripEnds, hsent]
    · exact absurd hi (by simp [tripEnds, removeActivityIndicator, hnone])
    · simp [tripEnds, removeActivityIndicator, hstarted]
    · simp [tripEnds]
    · simp [tripEnds, removeActivityIndicator, ScheduledTimers.invalidate, htimer, hlive]

/-- **One step** keeps the order. -/
theorem step (hx : Ordered resumed x acknowledged) (h : machine.Step x e y) :
    Ordered resumed y (noteAcknowledged acknowledged x e y) := by
  have hof : StepOf x y e := step_inv h
  cases e with
  | btnActionPressed isConnected =>
    obtain ⟨htap, request, hcode, rfl⟩ := hof
    exact hx.press htap hcode isConnected
  | submitReviewPressed isConnected =>
    obtain ⟨htap, rfl⟩ := hof
    exact hx.pressReview htap isConnected
  | reply call outcome now =>
    rcases hof with ⟨request, hcall, hanswer⟩ | ⟨hcall, rfl⟩
    · have hnote : noteAcknowledged acknowledged x (.reply call outcome now) y =
          if succeeds outcome then request.statusCode :: acknowledged else acknowledged := by
        cases hsucceeds : succeeds outcome with
        | true => simp [noteAcknowledged, hcall, hsucceeds]
        | false => simp [noteAcknowledged, hcall, hsucceeds]
      rw [hnote]
      exact hx.answer hcall hanswer
    · simpa [noteAcknowledged, hcall] using hx.reviewed hcall
  | timerAction =>
    obtain rfl : y = x := hof
    exact hx
  | leave =>
    obtain rfl : y = { x with isOnStack := false } := hof
    exact hx.of_same rfl rfl rfl rfl hx.startEnd hx.review

end Ordered

/-- Only a button that can be tapped posts, and what it posts goes with the flag. -/
theorem posts_inv {request : StartEndRequest} (h : x.Posts request) :
    x.canTap x.btnActionIsHidden = true ∧ request.statusCode = x.statusCode := by
  obtain ⟨e, y, hstep, hposts⟩ := h
  have hof : StepOf x y e := step_inv hstep
  have hsame : y.posts ≠ x.posts := by simp [hposts]
  cases e with
  | btnActionPressed isConnected =>
    obtain ⟨htap, request', hcode, rfl⟩ := hof
    cases isConnected with
    | false => exact absurd rfl hsame
    | true =>
      have hlast : x.posts ++ [StartTripCall.postStartEndTrip request'] =
          x.posts ++ [.postStartEndTrip request] := hposts
      have hsent := List.append_cancel_left hlast
      simp only [List.cons.injEq, StartTripCall.postStartEndTrip.injEq, and_true] at hsent
      exact ⟨htap, hsent ▸ hcode⟩
  | submitReviewPressed isConnected =>
    obtain ⟨_, rfl⟩ := hof
    cases isConnected with
    | false => exact absurd rfl hsame
    | true =>
      have hlast : x.posts ++ [StartTripCall.postTripReview] =
          x.posts ++ [.postStartEndTrip request] := hposts
      exact absurd (List.append_cancel_left hlast) (by simp)
  | reply call outcome now =>
    rcases hof with ⟨_, _, hanswer⟩ | ⟨_, rfl⟩
    · cases hanswer with
      | failed _ after => exact absurd (congrArg posts after) hsame
      | started _ _ after => exact absurd (congrArg posts after) hsame
      | ended _ _ _ after => exact absurd (congrArg posts after) hsame
    · exact absurd rfl hsame
  | timerAction => exact absurd (congrArg posts hof) hsame
  | leave => exact absurd (congrArg posts hof) hsame

/-- A post that fails changes neither the flag nor the date nor a timer. -/
theorem unchanged_of_failsPost {e : StartTripEvent} (h : machine.Step x e y)
    (hfails : failsPost e = true) : y.isTripStarted = x.isTripStarted ∧
      y.tripStartDate = x.tripStartDate ∧ y.timers = x.timers := by
  have hof : StepOf x y e := step_inv h
  cases e with
  | btnActionPressed isConnected =>
    obtain ⟨_, _, _, rfl⟩ := hof
    obtain rfl : isConnected = false := by simpa [failsPost] using hfails
    exact ⟨rfl, rfl, rfl⟩
  | reply call outcome now =>
    have hno : succeeds outcome = false := by simpa [failsPost] using hfails
    rcases hof with ⟨_, _, hanswer⟩ | ⟨_, rfl⟩
    · cases hanswer with
      | failed _ after =>
        subst after
        exact ⟨rfl, rfl, rfl⟩
      | started yes _ _ => exact absurd yes (by simp [hno])
      | ended _ yes _ _ => exact absurd yes (by simp [hno])
    · exact ⟨rfl, rfl, rfl⟩
  | _ => exact absurd hfails (by simp [failsPost])

theorem Ordered.orderKept {resumed : Bool} {acknowledged : List String}
    (hx : Ordered resumed x acknowledged) : OrderKept resumed (x, acknowledged) where
  endAfterStart := by
    intro request hposts hcode
    exact hx.begun.mp (statusCode_eq_ended.mp ((posts_inv hposts).2 ▸ hcode))
  startOnce := by
    intro request hposts hcode hbegun
    have hstarted : x.isTripStarted = false :=
      statusCode_eq_started.mp ((posts_inv hposts).2 ▸ hcode)
    exact absurd (hx.begun.mpr hbegun) (by simp [hstarted])
  failedPost := fun e y hstep hfails => unchanged_of_failsPost hstep hfails
  oneTimer := by
    intro hbegun hgoes
    exact hx.running (hx.begun.mpr hbegun) (by simpa using mt hx.ended.mp hgoes)
  afterEnd := by
    intro hended
    have hhidden : x.btnActionIsHidden = true := hx.ended.mpr hended
    refine ⟨fun request hposts => ?_, hx.stopped hhidden⟩
    have htap := (posts_inv hposts).1
    exact absurd htap (by simp [canTap, hhidden])

/-- **The order of a provider's trip.**  From a screen that was just loaded, for a new trip or for
one that is resumed, over every run of taps where the window lets them through, of answers in any
order and with any outcome, ticks and ways out. -/
theorem trip_order {trip : Dict} {resumed : Bool} {now : ℚ} {x₀ : StartTripScreen}
    (hload : viewDidLoad trip resumed now = .ok x₀) {x : StartTripScreen × List String}
    (hrun : (machine.withHistory noteAcknowledged).Run (x₀, []) x) : OrderKept resumed x := by
  have hx : Ordered resumed x.1 x.2 :=
    hrun.invariant (I := fun x => Ordered resumed x.1 x.2) (Ordered.load hload) (by
      rintro ⟨x, acknowledged⟩ e ⟨y, acknowledged'⟩ hx _ hstep
      obtain ⟨hxy, hnote⟩ := Machine.withHistory_step.mp hstep
      obtain rfl : acknowledged' = noteAcknowledged acknowledged x e y := hnote
      exact hx.step hxy)
  exact hx.orderKept

/-! ## 5. One trip -/

def sampleTrip : Dict :=
  [("ClientId", .num 5), ("TripId", .num 9), ("ProviderId", .num 3), ("TripStartTime", .num 60000)]

def freshScreen : StartTripScreen := { currentRequest := sampleTrip }

/-- Without a connection, refused, started, and ended. -/
def tripEvents : List StartTripEvent :=
  [.btnActionPressed false, .btnActionPressed true, .reply 0 (.failure (some 500)) 1,
    .btnActionPressed true, .reply 1 (.success (.obj [])) 2, .timerAction, .btnActionPressed true,
    .reply 2 (.success (.obj [("TripChargeAmount", .num 12)])) 3]

/-- A new trip, to its end. -/
theorem trip_order_fresh : ∃ x : StartTripScreen × List String,
    x.1.posts.length = 3 ∧
      x.2 = [Numeric_TripStatus.ended, Numeric_TripStatus.started] ∧ OrderKept false x := by
  obtain ⟨x, hrun, htest⟩ := Machine.exists_run_of_replay (machine.withHistory noteAcknowledged)
    (fun _ _ => true) (freshScreen, []) tripEvents
    (fun x => x.1.posts.length == 3 &&
      x.2 == [Numeric_TripStatus.ended, Numeric_TripStatus.started])
    (fun _ _ _ => trivial) (by decide +kernel)
  simp only [Bool.and_eq_true, beq_iff_eq] at htest
  have hload : viewDidLoad sampleTrip false 0 = .ok freshScreen := rfl
  exact ⟨x, htest.1, htest.2, trip_order hload hrun⟩

end StartTripScreen

end WeatherAccommodation
