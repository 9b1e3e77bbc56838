/-
# The timer that counts a trip's seconds

A trip screen starts a repeating timer in three places: `viewDidLoad` does while a trip is being
resumed, `Trip_Started` does in the foreground, and the next transition to the foreground does after
a `Trip_Started` that came in the background.  `timer` holds the last one, and `Trip_Ended`
invalidates that one only.

`TripTimers` is what one screen's timers depend on, and `TimersStep` what can happen to it.  Every
screen of the phone moves along (`step_timers`), so the law is proved for one screen and a run of
the phone is read screen by screen.

* `one_clock_iff`: where each screen hears of one start and of one end at most, in any order, no
  screen ever has two live timers or one after the end, exactly if no timer was started for
  `Trip_Started` on a screen that was loaded with one or had heard of the end.
* `second_clock_of_resumed`: the start of a resumed trip is heard by a screen that counts already;
  the end stops one timer, and the other one is left.
-/
import WeatherAccommodation.Client.TripDates

namespace WeatherAccommodation

open Foundation Reactive

/-! ## 1. One screen -/

/-- What the timers of a trip screen depend on, and what the screen has been told. -/
structure TripTimers where
  startTimer : Bool := false
  scheduled : Nat := 0
  timerIsValid : Bool := false
  /-- `viewDidLoad` has scheduled a timer. -/
  resumed : Bool := false
  started : Bool := false
  ended : Bool := false

namespace TripTimers

def schedule (v : TripTimers) : TripTimers :=
  { v with scheduled := v.scheduled + 1, timerIsValid := true }

/-- `viewDidLoad` -/
def viewDidLoad (resumed : Bool) : TripTimers :=
  if resumed then { (schedule {}) with resumed := true } else {}

/-- `Trip_Started` -/
def tripStarted (v : TripTimers) (inBackground : Bool) : TripTimers :=
  if inBackground then { v with startTimer := true, started := true }
  else { v.schedule with started := true }

/-- `Trip_Ended` -/
def tripEnded (v : TripTimers) : TripTimers :=
  { v with
    startTimer := false
    scheduled := if v.timerIsValid then v.scheduled - 1 else v.scheduled
    timerIsValid := false
    ended := true }

def startTimerAfterTransitionToForeground (v : TripTimers) : TripTimers :=
  if v.startTimer then { v.schedule with startTimer := false } else v

/-- One timer at most is live, and none after the end. -/
def OneClock (v : TripTimers) : Prop := v.scheduled ≤ 1 ∧ (v.ended = true → v.scheduled = 0)

/-- The screen was loaded without a timer, and the trip goes on. -/
def isReady (v : TripTimers) : Bool := !v.resumed && !v.ended

/-- What can happen to a screen, and whether it starts a timer for `Trip_Started`. -/
inductive TimersStep : TripTimers → TripTimers → Bool → Prop
  | same (v : TripTimers) : TimersStep v v false
  | viewDidLoad (resumed : Bool) : TimersStep {} (viewDidLoad resumed) false
  | tripStarted {v : TripTimers} (inBackground : Bool) (first : v.started = false) :
      TimersStep v (v.tripStarted inBackground) !inBackground
  | tripEnded {v : TripTimers} (first : v.ended = false) : TimersStep v v.tripEnded false
  | toForeground (v : TripTimers) :
      TimersStep v v.startTimerAfterTransitionToForeground v.startTimer

/-- Until a timer was started for `Trip_Started`, the screen has the one it was loaded with, up to
the end; then it has one more. -/
structure Counted (v : TripTimers) : Prop where
  told : v.startTimer = true → v.started = true
  waiting : v.started = false ∨ v.startTimer = true → v.ended = false →
    v.scheduled = v.resumed.toNat ∧ v.timerIsValid = v.resumed
  quiet : v.started = false ∨ v.startTimer = true → v.ended = true → v.scheduled = 0
  going : v.started = true → v.startTimer = false → v.ended = false →
    v.scheduled = v.resumed.toNat + 1 ∧ v.timerIsValid = true

namespace Counted

variable {v w : TripTimers} {starts : Bool}

theorem empty : Counted {} where
  told := by simp
  waiting := by simp
  quiet := by simp
  going := by simp

theorem viewDidLoad (resumed : Bool) :
    Counted (.viewDidLoad resumed) ∧ OneClock (.viewDidLoad resumed) := by
  cases resumed with
  | false => exact ⟨empty, by simp [OneClock, TripTimers.viewDidLoad]⟩
  | true =>
    refine ⟨⟨?_, ?_, ?_, ?_⟩, ?_⟩
    · simp [TripTimers.viewDidLoad, schedule]
    · simp [TripTimers.viewDidLoad, schedule]
    · simp [TripTimers.viewDidLoad, schedule]
    · simp [TripTimers.viewDidLoad, schedule]
    · simp [OneClock, TripTimers.viewDidLoad, schedule]

/-- A screen that still waits for its timer keeps the law. -/
theorem oneClock_of_waiting (hv : Counted v) (h : v.started = false ∨ v.startTimer = true) :
    OneClock v := by
  cases hended : v.ended with
  | true => simp [OneClock, hv.quiet h hended]
  | false =>
    have hscheduled : v.scheduled = v.resumed.toNat := (hv.waiting h hended).1
    have hle : v.resumed.toNat ≤ 1 := Bool.toNat_le v.resumed
    exact ⟨by omega, by simp [hended]⟩

/-- The timer for `Trip_Started` is the only one exactly if the screen is ready for it. -/
theorem schedule (hv : Counted v) (h : v.started = false ∨ v.startTimer = true)
    (hw : w.scheduled = v.schedule.scheduled) (hended : w.ended = v.ended) :
    OneClock w ↔ v.isReady = true := by
  simp only [OneClock, hw, hended, TripTimers.schedule, isReady]
  cases hended : v.ended with
  | true => simp
  | false =>
    rw [(hv.waiting h hended).1]
    cases v.resumed with
    | true => simp
    | false => simp

theorem tripStarted (hv : Counted v) (first : v.started = false) (inBackground : Bool) :
    Counted (v.tripStarted inBackground) ∧
      (OneClock (v.tripStarted inBackground) ↔
        OneClock v ∧ ((!inBackground) = true → v.isReady = true)) := by
  have hwaiting : v.started = false ∨ v.startTimer = true := Or.inl first
  have hsilent : v.startTimer = false := by
    by_contra hno
    exact absurd (hv.told (by simpa using hno)) (by simp [first])
  cases inBackground with
  | true =>
    simp only [TripTimers.tripStarted, if_true]
    refine ⟨⟨fun _ => rfl, fun _ => hv.waiting hwaiting, fun _ => hv.quiet hwaiting, ?_⟩, ?_⟩
    · simp
    · simp [OneClock]
  | false =>
    refine ⟨⟨?_, ?_, ?_, ?_⟩, ?_⟩
    · simp [TripTimers.tripStarted]
    · simp [TripTimers.tripStarted, TripTimers.schedule, hsilent]
    · simp [TripTimers.tripStarted, TripTimers.schedule, hsilent]
    · intro _ _ hended
      simpa [TripTimers.tripStarted, TripTimers.schedule] using (hv.waiting hwaiting hended).1
    · rw [hv.schedule hwaiting (w := v.tripStarted false) rfl rfl]
      simp [hv.oneClock_of_waiting hwaiting]

/-- The end leaves the law as it is: of two timers, it stops one. -/
theorem tripEnded (hv : Counted v) (first : v.ended = false) :
    Counted v.tripEnded ∧ (OneClock v.tripEnded ↔ OneClock v) := by
  by_cases hwaiting : v.started = false ∨ v.startTimer = true
  · obtain ⟨hscheduled, hvalid⟩ := hv.waiting hwaiting first
    have hnone : v.tripEnded.scheduled = 0 := by
      simp only [TripTimers.tripEnded, hscheduled, hvalid]
      cases v.resumed with
      | true => rfl
      | false => rfl
    refine ⟨⟨by simp [TripTimers.tripEnded], by simp [TripTimers.tripEnded],
      fun _ _ => hnone, by simp [TripTimers.tripEnded]⟩, ?_⟩
    exact iff_of_true ⟨by simp [hnone], fun _ => hnone⟩ (hv.oneClock_of_waiting hwaiting)
  · have hstarted : v.started = true := by simpa using fun h => hwaiting (Or.inl h)
    have hsilent : v.startTimer = false := by simpa using fun h => hwaiting (Or.inr h)
    obtain ⟨hscheduled, hvalid⟩ := hv.going hstarted hsilent first
    refine ⟨⟨by simp [TripTimers.tripEnded], by simp [TripTimers.tripEnded],
      by simp [TripTimers.tripEnded, hstarted], by simp [TripTimers.tripEnded]⟩, ?_⟩
    simp only [OneClock, TripTimers.tripEnded, hscheduled, hvalid, first]
    cases v.resumed with
    | true => simp
    | false => simp

theorem toForeground (hv : Counted v) :
    Counted v.startTimerAfterTransitionToForeground ∧
      (OneClock v.startTimerAfterTransitionToForeground ↔
        OneClock v ∧ (v.startTimer = true → v.isReady = true)) := by
  cases hstart : v.startTimer with
  | false =>
    have hsame : v.startTimerAfterTransitionToForeground = v := by
      simp [startTimerAfterTransitionToForeground, hstart]
    rw [hsame]
    exact ⟨hv, by simp⟩
  | true =>
    have hwaiting : v.started = false ∨ v.startTimer = true := Or.inr hstart
    have hstarted : v.started = true := hv.told hstart
    have hnext : v.startTimerAfterTransitionToForeground =
        { v.schedule with startTimer := false } := by
      simp [startTimerAfterTransitionToForeground, hstart]
    rw [hnext]
    refine ⟨⟨by simp, ?_, ?_, fun _ _ hended => ?_⟩, ?_⟩
    · simp [TripTimers.schedule, hstarted]
    · simp [TripTimers.schedule, hstarted]
    · simpa [TripTimers.schedule] using (hv.waiting hwaiting hended).1
    · rw [hv.schedule hwaiting (w := { v.schedule with startTimer := false }) rfl rfl]
      simp [hv.oneClock_of_waiting hwaiting]

/-- **One step of a screen** keeps the count, and the law exactly if no timer is started on a screen
that is not ready. -/
theorem step (hv : Counted v) (h : TimersStep v w starts) :
    Counted w ∧ (OneClock w ↔ OneClock v ∧ (starts = true → v.isReady = true)) := by
  cases h with
  | same => exact ⟨hv, by simp⟩
  | viewDidLoad resumed =>
    obtain ⟨hcounted, hlaw⟩ := Counted.viewDidLoad resumed
    exact ⟨hcounted, iff_of_true hlaw ⟨by simp [OneClock], by simp⟩⟩
  | tripStarted inBackground first => exact hv.tripStarted first inBackground
  | tripEnded first =>
    obtain ⟨hcounted, hlaw⟩ := hv.tripEnded first
    exact ⟨hcounted, by simp [hlaw]⟩
  | toForeground => exact hv.toForeground

end Counted

theorem toForeground_idem (v : TripTimers) :
    v.startTimerAfterTransitionToForeground.startTimerAfterTransitionToForeground =
      v.startTimerAfterTransitionToForeground := by
  cases hstart : v.startTimer with
  | true => simp [startTimerAfterTransitionToForeground, hstart]
  | false => simp [startTimerAfterTransitionToForeground, hstart]

end TripTimers

/-! ## 2. The phone, and what its screens were told -/

structure ClockLog where
  /-- The screens that were loaded with a timer. -/
  resumed : List Nat := []
  /-- Those that heard `Trip_Started`. -/
  started : List Nat := []
  /-- Those that heard `Trip_Ended`. -/
  ended : List Nat := []

namespace ClockedPhone

open TripTimers (TimersStep)

variable {distance : CLLocation → CLLocation → ℚ}

/-- The history variable. -/
def noteClock (log : ClockLog) (x : ClockedPhone) (e : ClockedEvent) (y : ClockedPhone) :
    ClockLog :=
  match e with
  | .phone e =>
    let resumed := if x.phone.resumesTrip e ∧ x.phone.trips.length < y.phone.trips.length then
      [x.phone.trips.length] else []
    { resumed := resumed ++ log.resumed
      started := x.hears Request_Status.started e ++ log.started
      ended := x.hears Request_Status.ended e ++ log.ended }
  | _ => log

/-- The screens on which the event starts a timer for `Trip_Started`. -/
def startsClock (x : ClockedPhone) : ClockedEvent → List Nat
  | .phone e => if x.inBackground then [] else x.hears Request_Status.started e
  | .willEnterForeground => (List.range x.phone.trips.length).filter fun k =>
      x.phone.trips[k]?.any ClientTrip.startTimer && !x.gone.contains k
  | _ => []

/-- No screen hears of a second start, or of a second end. -/
def HearsOnce (x : ClockedPhone × ClockLog) : ClockedEvent → Prop
  | .phone e => (∀ k ∈ x.1.hears Request_Status.started e, k ∉ x.2.started) ∧
      ∀ k ∈ x.1.hears Request_Status.ended e, k ∉ x.2.ended
  | _ => True

/-- On every screen, one timer at most is live, and none after the end. -/
def OneClock (x : ClockedPhone × ClockLog) : Prop :=
  ∀ k, (x.1.clocks k).scheduled ≤ 1 ∧ (k ∈ x.2.ended → (x.1.clocks k).scheduled = 0)

/-- The condition: a timer is started for `Trip_Started` only on screens that were loaded without
one and have not heard of the end. -/
def StartsReady (x : ClockedPhone × ClockLog) (e : ClockedEvent) : Prop :=
  ∀ k ∈ x.1.startsClock e, k ∉ x.2.resumed ∧ k ∉ x.2.ended

instance (x : ClockedPhone × ClockLog) : ∀ e, Decidable (HearsOnce x e)
  | .phone _ => inferInstanceAs (Decidable (_ ∧ _))
  | .didEnterBackground | .willEnterForeground | .timerAction _ | .release _ =>
    inferInstanceAs (Decidable True)

instance (x : ClockedPhone × ClockLog) (e : ClockedEvent) : Decidable (StartsReady x e) :=
  inferInstanceAs (Decidable (∀ k ∈ _, _))

/-- One screen of the phone. -/
def timers (x : ClockedPhone) (log : ClockLog) (k : Nat) : TripTimers where
  startTimer := x.phone.trips[k]?.any ClientTrip.startTimer
  scheduled := (x.clocks k).scheduled
  timerIsValid := (x.clocks k).timerIsValid
  resumed := log.resumed.contains k
  started := log.started.contains k
  ended := log.ended.contains k

theorem oneClock_iff {x : ClockedPhone × ClockLog} :
    OneClock x ↔ ∀ k, (x.1.timers x.2 k).OneClock := by
  simp [OneClock, TripTimers.OneClock, timers]

theorem startsReady_iff {x : ClockedPhone × ClockLog} {e : ClockedEvent} :
    StartsReady x e ↔
      ∀ k, (x.1.startsClock e).contains k = true → (x.1.timers x.2 k).isReady = true := by
  simp [StartsReady, TripTimers.isReady, timers]

/-- Screens that are not there have no timers, and were told nothing. -/
def Unlisted (x : ClockedPhone) (log : ClockLog) : Prop :=
  ∀ k, x.phone.trips.length ≤ k → x.timers log k = {}

/-! ## 3. Every screen moves along -/

variable {x y : ClockedPhone} {log log' : ClockLog}

/-- A screen depends on its own state, its own clock and its own part of the log. -/
theorem timers_congr {k : Nat} (trips : y.phone.trips[k]? = x.phone.trips[k]?)
    (clocks : y.clocks k = x.clocks k) (resumed : k ∈ log'.resumed ↔ k ∈ log.resumed)
    (started : k ∈ log'.started ↔ k ∈ log.started) (ended : k ∈ log'.ended ↔ k ∈ log.ended) :
    y.timers log' k = x.timers log k := by
  simp [timers, trips, clocks, resumed, started, ended]

/-- What a step of the phone is for each of its screens. -/
def MovesAlong (x : ClockedPhone) (log : ClockLog) (e : ClockedEvent) (y : ClockedPhone)
    (log' : ClockLog) : Prop :=
  Unlisted y log' ∧
    ∀ k, TimersStep (x.timers log k) (y.timers log' k) ((x.startsClock e).contains k)

/-- No screen changes. -/
theorem movesAlong_same {e : ClockedEvent} (hx : Unlisted x log)
    (trips : y.phone.trips = x.phone.trips) (clocks : y.clocks = x.clocks)
    (hstarts : x.startsClock e = []) : MovesAlong x log e y log := by
  have hsame : ∀ k, y.timers log k = x.timers log k := fun k =>
    timers_congr (by rw [trips]) (by rw [clocks]) Iff.rfl Iff.rfl Iff.rfl
  refine ⟨fun k hk => ?_, fun k => ?_⟩
  · rw [hsame k]
    exact hx k (trips ▸ hk)
  · rw [hsame k, hstarts]
    exact .same _

/-- One screen changes. -/
theorem movesAlong_set {e : ClockedEvent} (hx : Unlisted x log) {j : Nat}
    {screen screen' : ClientTrip} {clock : TripClock} (listed : x.phone.trips[j]? = some screen)
    (trips : y.phone.trips = x.phone.trips.set j screen')
    (clocks : y.clocks = Function.update x.clocks j clock)
    (hlog : ∀ k, k ≠ j → (k ∈ log'.resumed ↔ k ∈ log.resumed) ∧
      (k ∈ log'.started ↔ k ∈ log.started) ∧ (k ∈ log'.ended ↔ k ∈ log.ended))
    (hstarts : ∀ k ∈ x.startsClock e, k = j)
    (hstep : TimersStep (x.timers log j) (y.timers log' j) ((x.startsClock e).contains j)) :
    MovesAlong x log e y log' := by
  have hlt : j < x.phone.trips.length := (List.getElem?_eq_some_iff.mp listed).1
  have hother : ∀ k, k ≠ j → y.timers log' k = x.timers log k := by
    intro k hk
    obtain ⟨hresumed, hstarted, hended⟩ := hlog k hk
    refine timers_congr ?_ ?_ hresumed hstarted hended
    · rw [trips, List.getElem?_set_ne (Ne.symm hk)]
    · rw [clocks, Function.update_of_ne hk]
  refine ⟨fun k hk => ?_, fun k => ?_⟩
  · rw [trips, List.length_set] at hk
    rw [hother k (by omega)]
    exact hx k hk
  · by_cases hk : k = j
    · exact hk ▸ hstep
    · have hnone : (x.startsClock e).contains k = false := by
        simpa using fun hmem => hk (hstarts k hmem)
      rw [hother k hk, hnone]
      exact .same _

/-- One more screen is loaded. -/
theorem movesAlong_push {e : ClockedEvent} (hx : Unlisted x log) {trip : Dict} {resumed : Bool}
    (trips : y.phone.trips = x.phone.trips ++
      [{ currentRequest := trip, tripStartDate := resumed }])
    (clocks : y.clocks = if resumed then
      Function.update x.clocks x.phone.trips.length (TripClock.schedule {}) else x.clocks)
    (hstarts : x.startsClock e = []) : MovesAlong x log e y
      { log with resumed := (if resumed then [x.phone.trips.length] else []) ++ log.resumed } := by
  have hfresh : x.timers log x.phone.trips.length = {} := hx _ (Nat.le_refl _)
  have hnew : y.timers
      { log with resumed := (if resumed then [x.phone.trips.length] else []) ++ log.resumed }
      x.phone.trips.length = TripTimers.viewDidLoad resumed := by
    simp only [timers, TripTimers.mk.injEq, List.contains_eq_mem, decide_eq_false_iff_not] at hfresh
    obtain ⟨_, hscheduled, hvalid, hno, hstarted, hended⟩ := hfresh
    cases resumed with
    | true =>
      simp [timers, TripTimers.viewDidLoad, TripTimers.schedule, TripClock.schedule, trips, clocks,
        hstarted, hended]
    | false =>
      simp [timers, TripTimers.viewDidLoad, trips, clocks, hscheduled, hvalid, hno, hstarted,
        hended]
  have hother : ∀ k, k ≠ x.phone.trips.length → y.timers
      { log with resumed := (if resumed then [x.phone.trips.length] else []) ++ log.resumed } k =
        x.timers log k := by
    intro k hk
    refine timers_congr ?_ ?_ ?_ Iff.rfl Iff.rfl
    · rw [trips, List.getElem?_append]
      split
      · rfl
      · rw [List.getElem?_eq_none (by simpa using by omega), List.getElem?_eq_none (by omega)]
    · rw [clocks]
      split
      · exact Function.update_of_ne hk _ _
      · rfl
    · cases resumed with
      | true => simp [hk]
      | false => simp
  refine ⟨fun k hk => ?_, fun k => ?_⟩
  · rw [trips, List.length_append, List.length_singleton] at hk
    rw [hother k (by omega)]
    exact hx k (by omega)
  · rw [hstarts]
    by_cases hk : k = x.phone.trips.length
    · subst hk
      rw [hnew, hfresh]
      exact .viewDidLoad resumed
    · rw [hother k hk]
      exact .same _

/-- A screen that hears a message. -/
theorem timers_of_heard {e : ClientPhoneEvent} {q : ClientPhone} {j : Nat} {requestType : String}
    {screen screen' : ClientTrip} (listed : x.phone.trips[j]? = some screen)
    (trips : q.trips = x.phone.trips.set j screen')
    (hheard : x.phone.heard e = some (j, requestType)) : (x.follow e q).timers log' j =
      { startTimer := screen'.startTimer
        scheduled := ((x.clocks j).hear requestType x.inBackground).scheduled
        timerIsValid := ((x.clocks j).hear requestType x.inBackground).timerIsValid
        resumed := log'.resumed.contains j
        started := log'.started.contains j
        ended := log'.ended.contains j } := by
  have hlt : j < x.phone.trips.length := (List.getElem?_eq_some_iff.mp listed).1
  have hscreen : (x.follow e q).phone.trips[j]? = some screen' := by
    rw [show (x.follow e q).phone.trips = q.trips from rfl, trips, List.getElem?_set_self hlt]
  simp [timers, hscreen, clocks_of_some hheard]

theorem movesAlong_started (hx : Unlisted x log) {e : ClientPhoneEvent} {q : ClientPhone} {j : Nat}
    {screen : ClientTrip} (listed : x.phone.trips[j]? = some screen)
    (trips : q.trips = x.phone.trips.set j (screen.started x.inBackground))
    (hheard : x.phone.heard e = some (j, Request_Status.started)) (hfirst : j ∉ log.started) :
    MovesAlong x log (.phone e) (x.follow e q) { log with started := j :: log.started } := by
  refine movesAlong_set hx listed trips (clocks_of_some hheard) ?_ ?_ ?_
  · intro k hk
    simp [hk]
  · intro k hk
    simp only [startsClock, hears_of_some hheard, if_true] at hk
    split at hk
    · exact absurd hk (by simp)
    · simpa using hk
  · have hstarts : (x.startsClock (.phone e)).contains j = !x.inBackground := by
      cases hbackground : x.inBackground with
      | true => simp [startsClock, hbackground]
      | false => simp [startsClock, hbackground, hears_of_some hheard]
    have hnext : (x.follow e q).timers { log with started := j :: log.started } j =
        (x.timers log j).tripStarted x.inBackground := by
      rw [timers_of_heard listed trips hheard]
      cases x.inBackground with
      | true => simp [timers, TripTimers.tripStarted, TripClock.hear, ClientTrip.started]
      | false =>
        simp [timers, TripTimers.tripStarted, TripTimers.schedule, TripClock.hear,
          TripClock.schedule, ClientTrip.started, listed]
    rw [hstarts, hnext]
    exact .tripStarted _ (by simpa [timers] using hfirst)

theorem movesAlong_ended (hx : Unlisted x log) {e : ClientPhoneEvent} {q : ClientPhone} {j : Nat}
    {screen : ClientTrip} {charge : Json} (listed : x.phone.trips[j]? = some screen)
    (trips : q.trips = x.phone.trips.set j (screen.ended charge x.inBackground))
    (hheard : x.phone.heard e = some (j, Request_Status.ended)) (hfirst : j ∉ log.ended) :
    MovesAlong x log (.phone e) (x.follow e q) { log with ended := j :: log.ended } := by
  have hne : Request_Status.ended ≠ Request_Status.started := by decide
  have hstarts : x.startsClock (.phone e) = [] := by
    simp [startsClock, hears_of_some hheard, hne]
  refine movesAlong_set hx listed trips (clocks_of_some hheard) ?_ (by simp [hstarts]) ?_
  · intro k hk
    simp [hk]
  · have hclock : ((x.clocks j).hear Request_Status.ended x.inBackground).scheduled =
        (if (x.clocks j).timerIsValid then (x.clocks j).scheduled - 1
          else (x.clocks j).scheduled) ∧
        ((x.clocks j).hear Request_Status.ended x.inBackground).timerIsValid = false := by
      cases x.inBackground with
      | true =>
        cases hvalid : (x.clocks j).timerIsValid with
        | true => simp [TripClock.hear, hne, TripClock.invalidate, hvalid]
        | false => simp [TripClock.hear, hne, TripClock.invalidate, hvalid]
      | false =>
        cases hvalid : (x.clocks j).timerIsValid with
        | true => simp [TripClock.hear, hne, TripClock.invalidate, hvalid]
        | false => simp [TripClock.hear, hne, TripClock.invalidate, hvalid]
    have hnext : (x.follow e q).timers { log with ended := j :: log.ended } j =
        (x.timers log j).tripEnded := by
      rw [timers_of_heard listed trips hheard, hclock.1, hclock.2]
      simp [timers, TripTimers.tripEnded, ClientTrip.ended]
    rw [hstarts, hnext]
    exact .tripEnded (by simpa [timers] using hfirst)

/-- **One event of the phone.** -/
theorem movesAlong_phone (hx : Unlisted x log) {e : ClientPhoneEvent} {q : ClientPhone}
    (once : HearsOnce (x, log) (.phone e))
    (hstep : (ClientPhone.machine distance).Step x.phone e q) (hnow : x.isNow e = true) :
    MovesAlong x log (.phone e) (x.follow e q) (noteClock log x (.phone e) (x.follow e q)) := by
  cases clockMove_of_step hstep hnow with
  | quiet unstarted unended trips clocks =>
    have hnote : noteClock log x (.phone e) (x.follow e q) = log := by
      simp [noteClock, unstarted, unended, follow, trips]
    rw [hnote]
    exact movesAlong_same hx trips clocks (by simp [startsClock, unstarted])
  | pushed silent trips clocks =>
    have hnote : noteClock log x (.phone e) (x.follow e q) = { log with
        resumed := (if x.phone.resumesTrip e then [x.phone.trips.length] else []) ++
          log.resumed } := by
      simp [noteClock, hears_of_none silent, follow, trips]
    rw [hnote]
    exact movesAlong_push hx trips clocks (by simp [startsClock, hears_of_none silent])
  | @started j screen heard listed trips =>
    have hne : Request_Status.started ≠ Request_Status.ended := by decide
    have hnote : noteClock log x (.phone e) (x.follow e q) =
        { log with started := j :: log.started } := by
      simp [noteClock, hears_of_some heard, follow, trips, hne]
    rw [hnote]
    exact movesAlong_started hx listed trips heard (once.1 j (by simp [hears_of_some heard]))
  | @ended j screen charge heard listed trips =>
    have hne : Request_Status.ended ≠ Request_Status.started := by decide
    have hnote : noteClock log x (.phone e) (x.follow e q) =
        { log with ended := j :: log.ended } := by
      simp [noteClock, hears_of_some heard, follow, trips, hne]
    rw [hnote]
    exact movesAlong_ended hx listed trips heard (once.2 j (by simp [hears_of_some heard]))

/-! ## 4. Transitions to the foreground -/

/-- The screen starts the timer that it waits for, and no other. -/
theorem transition_inv {screen screen' : ClientTrip} {clock clock' : TripClock}
    (h : screen.startTimerAfterTransitionToForeground clock = .ok (screen', clock')) :
    screen'.startTimer = false ∧
      clock' = if screen.startTimer then clock.schedule else clock := by
  unfold ClientTrip.startTimerAfterTransitionToForeground at h
  split at h
  · rename_i hstart
    obtain ⟨rfl, rfl⟩ := Prod.mk.inj (pure_eq_ok.mp h)
    simp [hstart]
  · rename_i hstart
    split at h
    · simp only [bind_eq_ok, pure_eq_ok] at h
      obtain ⟨_, _, _, _, heq⟩ := h
      obtain ⟨rfl, rfl⟩ := Prod.mk.inj heq
      simp [hstart]
    · obtain ⟨rfl, rfl⟩ := Prod.mk.inj (pure_eq_ok.mp h)
      simp [hstart]

/-- The notification reaches one screen, unless that one was released. -/
theorem timers_notify {k : Nat} (hok : x.notify k = .ok y) (log : ClockLog) :
    y.gone = x.gone ∧ y.phone.trips.length = x.phone.trips.length ∧
      ∀ j, y.timers log j = if j = k ∧ j ∉ x.gone then
        (x.timers log j).startTimerAfterTransitionToForeground else x.timers log j := by
  unfold notify at hok
  split at hok
  · rename_i screen listed
    split at hok
    · rename_i hgone
      obtain rfl : x = y := by simpa using hok
      refine ⟨rfl, rfl, fun j => ?_⟩
      rw [if_neg]
      rintro ⟨rfl, hno⟩
      exact hno (by simpa using hgone)
    · rename_i hgone
      simp only [bind_eq_ok, pure_eq_ok, Prod.exists] at hok
      obtain ⟨screen', clock', htransition, rfl⟩ := hok
      refine ⟨rfl, by simp [ClientPhone.putTrip], fun j => ?_⟩
      by_cases hj : j = k
      · subst hj
        have hlt : j < x.phone.trips.length := (List.getElem?_eq_some_iff.mp listed).1
        have hset : (x.phone.trips.set j screen')[j]? = some screen' := List.getElem?_set_self hlt
        obtain ⟨hwaits, hclock⟩ := transition_inv htransition
        rw [if_pos ⟨rfl, by simpa using hgone⟩]
        cases hstart : screen.startTimer with
        | true =>
          simp [timers, ClientPhone.putTrip, TripTimers.startTimerAfterTransitionToForeground,
            TripTimers.schedule, TripClock.schedule, listed, hset, hwaits, hclock, hstart]
        | false =>
          simp [timers, ClientPhone.putTrip, TripTimers.startTimerAfterTransitionToForeground,
            listed, hset, hwaits, hclock, hstart]
      · rw [if_neg fun h => hj h.1]
        refine timers_congr ?_ ?_ Iff.rfl Iff.rfl Iff.rfl
        · exact List.getElem?_set_ne (Ne.symm hj)
        · exact Function.update_of_ne hj _ _
  · rename_i hnone
    obtain rfl : x = y := by simpa using hok
    refine ⟨rfl, rfl, fun j => ?_⟩
    split
    · rename_i hj
      simp [TripTimers.startTimerAfterTransitionToForeground, timers, hj.1, hnone]
    · rfl

/-- It reaches the screens `ks`, one after the other. -/
theorem timers_foldlM (log : ClockLog) {ks : List Nat} (hok : ks.foldlM notify x = .ok y) :
    y.phone.trips.length = x.phone.trips.length ∧
      ∀ j, y.timers log j = if j ∈ ks ∧ j ∉ x.gone then
        (x.timers log j).startTimerAfterTransitionToForeground else x.timers log j := by
  induction ks generalizing x with
  | nil =>
    obtain rfl : x = y := by simpa using hok
    exact ⟨rfl, by simp⟩
  | cons k ks ih =>
    simp only [List.foldlM_cons, bind_eq_ok] at hok
    obtain ⟨z, hz, hok⟩ := hok
    obtain ⟨hgone, hlength, hfirst⟩ := timers_notify hz log
    obtain ⟨hlengths, hrest⟩ := ih hok
    refine ⟨hlengths.trans hlength, fun j => ?_⟩
    rw [hrest j, hfirst j, hgone]
    by_cases hj : j ∈ x.gone
    · simp [hj]
    · by_cases hk : j = k
      · subst hk
        simp [hj, TripTimers.toForeground_idem]
      · simp [hj, hk]

theorem movesAlong_foreground (hx : Unlisted x log) (hok : x.willEnterForeground = .ok y) :
    MovesAlong x log .willEnterForeground y log := by
  obtain ⟨hlengths, htimers⟩ := timers_foldlM log hok
  have hlength : y.phone.trips.length = x.phone.trips.length := hlengths
  have hsame : ∀ k, ({ x with inBackground := false } : ClockedPhone).timers log k =
      x.timers log k := fun k => timers_congr rfl rfl Iff.rfl Iff.rfl Iff.rfl
  have hall : ∀ k, y.timers log k = if k < x.phone.trips.length ∧ k ∉ x.gone then
      (x.timers log k).startTimerAfterTransitionToForeground else x.timers log k := by
    intro k
    rw [htimers k, hsame k]
    simp only [List.mem_range]
  refine ⟨fun k hk => ?_, fun k => ?_⟩
  · rw [hall k, if_neg (by omega)]
    exact hx k (by omega)
  · rw [hall k]
    split
    · rename_i hreached
      have hstarts : (x.startsClock .willEnterForeground).contains k =
          (x.timers log k).startTimer := by
        simp [startsClock, timers, hreached.1, hreached.2]
      rw [hstarts]
      exact .toForeground _
    · rename_i hnot
      have hstarts : (x.startsClock .willEnterForeground).contains k = false := by
        simp only [startsClock, List.contains_eq_mem, List.mem_filter, List.mem_range,
          decide_eq_false_iff_not, Bool.and_eq_true, Bool.not_eq_true', not_and]
        intro hlt _ hgone
        exact hnot ⟨hlt, hgone⟩
      rw [hstarts]
      exact .same _

/-! ## 5. The law -/

/-- **Every step of the phone is a step of each of its screens.** -/
theorem step_timers {x y : ClockedPhone × ClockLog} {e : ClockedEvent} (hx : Unlisted x.1 x.2)
    (once : HearsOnce x e) (hstep : ((machine distance).withHistory noteClock).Step x e y) :
    MovesAlong x.1 x.2 e y.1 y.2 := by
  obtain ⟨hxy, hnote⟩ := Machine.withHistory_step.mp hstep
  rw [hnote]
  have hreact : react distance x.1 e = some (.ok y.1) := hxy
  cases e with
  | phone e =>
    simp only [react] at hreact
    split at hreact
    · rename_i hnow
      obtain ⟨q, hq, hy⟩ := handled_mapError_eq_ok.mp hreact
      rw [← hy]
      exact movesAlong_phone hx once hq hnow
    · exact absurd hreact (by simp)
  | didEnterBackground =>
    simp only [react] at hreact
    split at hreact
    · exact absurd hreact (by simp)
    · obtain hy : { x.1 with inBackground := true } = y.1 := by simpa using hreact
      rw [← hy]
      exact movesAlong_same hx rfl rfl rfl
  | willEnterForeground =>
    simp only [react] at hreact
    split at hreact
    · exact movesAlong_foreground hx (Option.some.inj hreact)
    · exact absurd hreact (by simp)
  | timerAction k =>
    obtain ⟨screen, _, hreact⟩ := Option.bind_eq_some_iff.mp hreact
    split at hreact
    · obtain ⟨_, _, hy⟩ := map_eq_ok.mp (Option.some.inj hreact)
      rw [← hy]
      exact movesAlong_same hx rfl rfl rfl
    · exact absurd hreact (by simp)
  | release k =>
    simp only [react] at hreact
    split at hreact
    · obtain hy : { x.1 with gone := k :: x.1.gone } = y.1 := by simpa using hreact
      rw [← hy]
      exact movesAlong_same hx rfl rfl rfl
    · exact absurd hreact (by simp)

/-- **One trip clock.**  From any launch, over every run that tells a screen of one start and of one
end at most, in any order with each other and with the transitions: every screen has one live timer
at most, and none after the end, exactly if every timer that was started for `Trip_Started`, at once
or at the transition, was started on a screen that was not loaded with one and had not heard of the
end. -/
theorem one_clock_iff (device : Device) (onMain : Bool) {x : ClockedPhone × ClockLog}
    (hrun : ((machine distance).withHistory noteClock).RunWhere HearsOnce
      ({ phone := { app := .launch device onMain } }, {}) x) :
    OneClock x ↔ ((machine distance).withHistory noteClock).RunWhere
      (fun x e => HearsOnce x e ∧ StartsReady x e)
      ({ phone := { app := .launch device onMain } }, {}) x := by
  have hempty : ∀ k, (({ phone := { app := .launch device onMain } } : ClockedPhone)).timers {} k =
      {} := fun _ => by simp [timers]
  refine hrun.iff_of_steps_along
    (J := fun x => Unlisted x.1 x.2 ∧ ∀ k, (x.1.timers x.2 k).Counted) ?_ ?_ ?_
  · exact ⟨fun k _ => hempty k, fun k => hempty k ▸ .empty⟩
  · simp [OneClock]
  · rintro x e y ⟨hunlisted, hcounted⟩ once hstep
    obtain ⟨hnext, hmoves⟩ := step_timers hunlisted once hstep
    have hone : ∀ k, (y.1.timers y.2 k).Counted ∧ ((y.1.timers y.2 k).OneClock ↔
        (x.1.timers x.2 k).OneClock ∧
          ((x.1.startsClock e).contains k = true → (x.1.timers x.2 k).isReady = true)) :=
      fun k => (hcounted k).step (hmoves k)
    refine ⟨⟨hnext, fun k => (hone k).1⟩, ?_⟩
    rw [oneClock_iff, oneClock_iff, startsReady_iff, ← forall_and]
    exact forall_congr' fun k => (hone k).2

/-! ## 6. A fresh trip, and a resumed one -/

/-- The trip has started and ended: its timer was started and stopped. -/
theorem one_clock_iff_ended : ∃ x : ClockedPhone × ClockLog,
    x.2.started = [0] ∧ x.2.ended = [0] ∧ OneClock x := by
  obtain ⟨x, hrun, htest⟩ := Machine.exists_run_of_replay
    ((machine sampleDistance).withHistory noteClock)
    (fun x e => decide (HearsOnce x e ∧ StartsReady x e))
    ({ phone := { app := .launch ClientSession.sampleDevice false } }, {})
    (reachedClocked ++ [.phone (.onMessage 1 (tripText Request_Status.started) false),
      .timerAction 0, .phone (.onMessage 1 (tripText Request_Status.ended) false)])
    (fun x => x.2.started == [0] && x.2.ended == [0])
    (fun _ _ h => of_decide_eq_true h) (by decide +kernel)
  simp only [Bool.and_eq_true, beq_iff_eq] at htest
  refine ⟨x, htest.1, htest.2, ?_⟩
  exact (one_clock_iff ClientSession.sampleDevice false (hrun.mono fun _ _ h => h.1)).mpr hrun

/-- **The clock of a resumed trip runs twice**: the screen was loaded with a timer, and starts
another one when it hears of the start; the end stops the second and leaves the first. -/
theorem second_clock_of_resumed :
    ¬∀ (device : Device) (onMain : Bool) (x : ClockedPhone × ClockLog),
      ((machine sampleDistance).withHistory noteClock).RunWhere HearsOnce
        ({ phone := { app := .launch device onMain } }, {}) x → OneClock x := by
  intro hall
  obtain ⟨x, hrun, htest⟩ := Machine.exists_run_of_replay
    ((machine sampleDistance).withHistory noteClock)
    (fun x e => decide (HearsOnce x e))
    ({ phone := { app := .launch ClientSession.sampleDevice false } }, {})
    ((ClientPhone.resumedSheetPhone ++
      [Request_Status.reached, Request_Status.started, Request_Status.ended].map fun status =>
        ClientPhoneEvent.onMessage 1 (tripText status) false).map .phone)
    (fun x => x.2.ended == [0] && (x.1.clocks 0).scheduled == 1)
    (fun _ _ h => of_decide_eq_true h) (by decide +kernel)
  simp only [Bool.and_eq_true, beq_iff_eq] at htest
  obtain ⟨hended, hlive⟩ := htest
  have hnone := (hall ClientSession.sampleDevice false x hrun 0).2 (by simp [hended])
  rw [hlive] at hnone
  exact absurd hnone (by simp)

end ClockedPhone

end WeatherAccommodation
