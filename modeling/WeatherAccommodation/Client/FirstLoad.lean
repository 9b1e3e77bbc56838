/-
# The first list of providers

`tracingLocation` asks for the list of providers at the first location and clears `isFirst` as it
does so, whatever comes of the request.  The list, the status socket and the look for a trip under
way all wait for its success, and nothing else asks again: a request that fails, or that is not made
for want of a connection, is the last one of the dashboard.

`failed_load_is_retried_iff`: as long as no list has come and no request for one is under way, the
next location asks for it, exactly in the runs in which the request was made with a connection and
did not fail.
-/
import WeatherAccommodation.Client.Withdrawal

namespace WeatherAccommodation

open Foundation Reactive

/-- What became of the requests for the list. -/
structure ListLog where
  /-- For each call of `getOnlineProviderList`, whether there was a connection to make it on. -/
  made : List Bool := []
  /-- A list has come. -/
  succeeded : Bool := false
  deriving DecidableEq, Repr

namespace ClientSession

variable {distance : CLLocation → CLLocation → ℚ} {s t : ClientSession} {e : ClientEvent}

/-! ## 1. Requests for the list -/

/-- The events come with the state of the connection. -/
def noteList (log : ListLog) (s : ClientSession) (e : ClientEvent × Bool) (t : ClientSession) :
    ListLog :=
  match e.1 with
  | .tracingLocation _ =>
    if s.listCalls.issued < t.listCalls.issued then { log with made := log.made ++ [e.2] } else log
  | .onlineProviderList _ (some _) => { log with succeeded := true }
  | _ => log

/-- The dashboard with the log of its requests. -/
def listed (distance : CLLocation → CLLocation → ℚ) :
    Machine (ClientSession × ListLog) (ClientEvent × Bool) Trap :=
  (machine distance).dated.withHistory noteList

/-- A request that was made is not answered yet. -/
def InFlight (x : ClientSession × ListLog) : Prop :=
  ∃ call, x.1.listCalls.waiting call = some () ∧ x.2.made[call]? = some true

/-- Only a request that was made is answered. -/
def answers (x : ClientSession × ListLog) : ClientEvent × Bool → Bool
  | (.onlineProviderList call _, _) => x.2.made[call]? == some true
  | _ => true

/-- With no list, and no request under way, the next location asks for one. -/
def IsRetried (x : ClientSession × ListLog) : Prop :=
  x.2.succeeded = false → ¬InFlight x →
    ∀ l, (x.1.tracingLocation l).listCalls.issued = x.1.listCalls.issued + 1

/-- A connection for the request, and no failure of it. -/
def delivers (x : ClientSession × ListLog) : ClientEvent × Bool → Bool
  | (.tracingLocation _, isConnected) => isConnected || !x.1.dashboard.isFirst
  | (.onlineProviderList _ none, _) => false
  | _ => true

/-- There is one request at most, the one that clears `isFirst`. -/
structure AskedOnce (x : ClientSession × ListLog) : Prop where
  once : x.1.listCalls.issued ≤ 1
  unasked : x.1.dashboard.isFirst = true ↔ x.1.listCalls.issued = 0
  made : x.2.made.length = x.1.listCalls.issued
  unloaded : x.1.dashboard.isFirst = true → x.2.succeeded = false
  answered : x.2.succeeded = true → ∀ call, x.1.listCalls.waiting call = none

/-- Whether the dashboard asks is a matter of `isFirst`. -/
theorem issued_tracingLocation (l : CLLocation) :
    (s.tracingLocation l).listCalls.issued = s.listCalls.issued + 1 ↔
      s.dashboard.isFirst = true := by
  unfold tracingLocation
  split
  · rename_i h
    simp [h]
  · rename_i h
    simp [h, put]

theorem isRetried_iff {x : ClientSession × ListLog} :
    IsRetried x ↔ x.2.succeeded = true ∨ InFlight x ∨ x.1.dashboard.isFirst = true := by
  have hasks : (∀ l, (x.1.tracingLocation l).listCalls.issued = x.1.listCalls.issued + 1) ↔
      x.1.dashboard.isFirst = true := by
    simp only [issued_tracingLocation]
    exact ⟨fun h => h ⟨0, 0⟩, fun h _ => h⟩
  rw [IsRetried, hasks]
  cases x.2.succeeded with
  | true => simp
  | false => simp [or_iff_not_imp_left]

/-- Every other event leaves the request alone. -/
def isListEvent : ClientEvent → Bool
  | .tracingLocation _ => true
  | .onlineProviderList _ _ => true
  | _ => false

theorem listCalls_of_step (h : (machine distance).Step s e t) (he : isListEvent e = false) :
    t.dashboard.isFirst = s.dashboard.isFirst ∧ t.listCalls = s.listCalls := by
  cases step_listMove h with
  | stay _ same _ => exact ⟨congrArg ListView.isFirst same, congrArg ListView.listCalls same⟩
  | first l _ _ => simp [isListEvent] at he
  | failed call _ _ => simp [isListEvent] at he
  | loaded call response items d _ _ _ _ _ => simp [isListEvent] at he
  | ping p d _ handled after =>
    obtain ⟨ps, ms, rfl⟩ := ClientDashboard.handleStatus_frame handled
    rw [after]
    exact ⟨rfl, rfl⟩
  | asked body same _ _ _ _ =>
    exact ⟨congrArg ListView.isFirst same, congrArg ListView.listCalls same⟩
  | withdrawn body same _ _ _ =>
    exact ⟨congrArg ListView.isFirst same, congrArg ListView.listCalls same⟩

/-- The list is put on the dashboard, and its request is answered. -/
theorem listCalls_of_reply {call : Nat} {response : Option Dict}
    (h : (machine distance).Step s (.onlineProviderList call response) t) :
    s.listCalls.waiting call = some () ∧ t.dashboard.isFirst = s.dashboard.isFirst ∧
      t.listCalls = s.listCalls.retire call := by
  obtain ⟨hwaiting, hreply⟩ := step_inv h
  refine ⟨hwaiting, ?_⟩
  rcases onlineProviderList_inv hreply with ⟨_, rfl⟩ | ⟨_, items, d, _, _, happend, hcheck⟩
  · exact ⟨rfl, rfl⟩
  · obtain ⟨ps, ms, rfl⟩ := ClientDashboard.appendOnlineProviders_frame happend
    have hsame := (checkIfTripExists_listView hcheck).1
    exact ⟨congrArg ListView.isFirst hsame, congrArg ListView.listCalls hsame⟩

/-! ## 2. One request -/

section Steps

variable {x y : ClientSession × ListLog}

/-- The first location makes the request, and is the last one to make any. -/
theorem AskedOnce.first {l : CLLocation} {isConnected : Bool} (hx : AskedOnce x)
    (hfirst : x.1.dashboard.isFirst = true) (hy : y.1 = x.1.tracingLocation l)
    (hlog : y.2 = noteList x.2 x.1 (.tracingLocation l, isConnected) y.1) :
    AskedOnce y ∧ (IsRetried y ↔ isConnected = true) := by
  have hissued : x.1.listCalls.issued = 0 := hx.unasked.mp hfirst
  have hmade : x.2.made = [] := List.length_eq_zero_iff.mp (hx.made.trans hissued)
  have hunloaded : x.2.succeeded = false := hx.unloaded hfirst
  have hasked : y.1.dashboard.isFirst = false ∧ y.1.listCalls = x.1.listCalls.issue () := by
    rw [hy, tracingLocation, if_pos hfirst]
    exact ⟨rfl, rfl⟩
  have hnoted : y.2 = { x.2 with made := [isConnected] } := by
    simp [hlog, noteList, hasked.2, hmade]
  constructor
  · constructor
    · simp [hasked.2, hissued]
    · simp [hasked.1, hasked.2]
    · simp [hasked.2, hnoted, hissued]
    · simp [hasked.1]
    · simp [hnoted, hunloaded]
  · have hflight : InFlight y ↔ isConnected = true := by
      constructor
      · rintro ⟨call, hwaiting, hmade⟩
        have hlt : call < y.1.listCalls.issued := Callbacks.lt_issued_of_waiting hwaiting
        obtain rfl : call = 0 := by simp [hasked.2, hissued] at hlt; omega
        simpa [hnoted] using hmade
      · rintro rfl
        exact ⟨0, by simp [hasked.2, Callbacks.waiting_issue, hissued], by simp [hnoted]⟩
    rw [isRetried_iff, hflight]
    simp [hnoted, hunloaded, hasked.1]

/-- What leaves the flag, the request and the log alone, leaves everything said of them. -/
theorem AskedOnce.same (hx : AskedOnce x) (hfirst : y.1.dashboard.isFirst = x.1.dashboard.isFirst)
    (hcalls : y.1.listCalls = x.1.listCalls) (hlog : y.2 = x.2) :
    AskedOnce y ∧ (IsRetried y ↔ IsRetried x) := by
  constructor
  · obtain ⟨once, unasked, made, unloaded, answered⟩ := hx
    constructor
    · rwa [hcalls]
    · rwa [hfirst, hcalls]
    · rwa [hcalls, hlog]
    · rwa [hfirst, hlog]
    · rwa [hcalls, hlog]
  · rw [isRetried_iff, isRetried_iff, hfirst, hlog, InFlight, InFlight, hcalls, hlog]

/-- The reply to it: a list, or the end of the matter. -/
theorem AskedOnce.reply {call : Nat} {response : Option Dict} {isConnected : Bool}
    (hx : AskedOnce x)
    (hstep : (machine distance).Step x.1 (.onlineProviderList call response) y.1)
    (hlog : y.2 = noteList x.2 x.1 (.onlineProviderList call response, isConnected) y.1) :
    AskedOnce y ∧ (IsRetried y ↔ response.isSome = true) := by
  obtain ⟨hwaiting, hfirst, hcalls⟩ := listCalls_of_reply hstep
  have hlt : call < x.1.listCalls.issued := Callbacks.lt_issued_of_waiting hwaiting
  have honce := hx.once
  obtain rfl : call = 0 := by omega
  have hasked : x.1.dashboard.isFirst = false := by
    have hne : x.1.listCalls.issued ≠ 0 := by omega
    simpa [hne] using hx.unasked
  have hunloaded : x.2.succeeded = false := by
    by_contra hloaded
    have hnone := hx.answered (by simpa using hloaded) 0
    rw [hwaiting] at hnone
    exact absurd hnone (by simp)
  have hnone (i : Nat) : y.1.listCalls.waiting i = none := by
    rw [hcalls, Callbacks.waiting_retire]
    split
    · rfl
    · by_contra hi
      obtain ⟨u, hu⟩ := Option.ne_none_iff_exists'.mp hi
      have := Callbacks.lt_issued_of_waiting hu
      omega
  have hnoted : y.2 = { x.2 with succeeded := response.isSome } := by
    cases response with
    | none => simp [hlog, noteList, ← hunloaded]
    | some response => simp [hlog, noteList]
  constructor
  · constructor
    · simpa [hcalls] using hx.once
    · simpa [hfirst, hcalls] using hx.unasked
    · simpa [hcalls, hnoted] using hx.made
    · simp [hfirst, hasked]
    · exact fun _ => hnone
  · have hflight : ¬InFlight y := by
      rintro ⟨i, hi, _⟩
      rw [hnone i] at hi
      exact absurd hi (by simp)
    rw [isRetried_iff]
    simp [hnoted, hflight, hfirst, hasked]

/-- **What a step does to the law.** -/
theorem AskedOnce.step {e : ClientEvent × Bool} (hx : AskedOnce x) (hanswers : answers x e = true)
    (h : (listed distance).Step x e y) :
    AskedOnce y ∧ (IsRetried y ↔ IsRetried x ∧ delivers x e = true) := by
  obtain ⟨e, isConnected⟩ := e
  obtain ⟨hstep, hlog⟩ := Machine.withHistory_step.mp h
  rw [Machine.dated_step] at hstep
  have hother (hlist : isListEvent e = false) (hnote : y.2 = x.2)
      (hdelivers : delivers x (e, isConnected) = true) :
      AskedOnce y ∧ (IsRetried y ↔ IsRetried x ∧ delivers x (e, isConnected) = true) := by
    obtain ⟨hfirst, hcalls⟩ := listCalls_of_step hstep hlist
    obtain ⟨hy, hiff⟩ := hx.same hfirst hcalls hnote
    exact ⟨hy, hiff.trans (and_iff_left hdelivers).symm⟩
  cases e with
  | tracingLocation l =>
    have hy : y.1 = x.1.tracingLocation l := step_inv hstep
    cases hfirst : x.1.dashboard.isFirst with
    | true =>
      obtain ⟨hkept, hiff⟩ := hx.first hfirst hy hlog
      have hbefore : IsRetried x := isRetried_iff.mpr (.inr (.inr hfirst))
      exact ⟨hkept, by simp [hiff, hbefore, delivers, hfirst]⟩
    | false =>
      have hput : y.1 = x.1.put { x.1.dashboard with clientLocation := some l } := by
        simp [hy, tracingLocation, hfirst]
      have hnote : y.2 = x.2 := by simp [hlog, noteList, hput, put]
      obtain ⟨hkept, hiff⟩ := hx.same (by rw [hput]; rfl) (by rw [hput]; rfl) hnote
      exact ⟨hkept, by simp [hiff, delivers, hfirst]⟩
  | onlineProviderList call response =>
    obtain ⟨hkept, hiff⟩ := hx.reply hstep hlog
    have hbefore : IsRetried x :=
      isRetried_iff.mpr (.inr (.inl ⟨call, (listCalls_of_reply hstep).1, beq_iff_eq.mp hanswers⟩))
    cases response with
    | none => exact ⟨hkept, by simp [hiff, delivers]⟩
    | some response => exact ⟨hkept, by simp [hiff, hbefore, delivers]⟩
  | _ => exact hother (by simp [isListEvent]) hlog rfl

end Steps

/-! ## 3. Whole runs -/

/-- **A load that fails is not made again.**  With replies to the requests that were made, and to no
others: while no list has come and none is on its way, the next location asks for one, exactly if in
the run so far the first location found a connection and no request for the list failed. -/
theorem failed_load_is_retried_iff {device : Device} {x : ClientSession × ListLog}
    (h : (listed distance).RunWhere (fun x e => answers x e = true) ({ device := device }, {}) x) :
    IsRetried x ↔ (listed distance).RunWhere (fun x e => answers x e = true ∧ delivers x e = true)
      ({ device := device }, {}) x := by
  have hstart : AskedOnce ({ device := device }, {}) := by
    constructor
    · simp
    · simp
    · simp
    · simp
    · simp
  have hretried : IsRetried ({ device := device }, {}) := isRetried_iff.mpr (.inr (.inr rfl))
  exact h.iff_of_steps_along hstart hretried fun _ _ _ hx hanswers hs => hx.step hanswers hs

/-- The list comes at the first attempt. -/
theorem first_list_comes :
    ∃ x, (listed sampleDistance).RunWhere (fun x e => answers x e = true)
        ({ device := sampleDevice }, {}) x ∧
      x.2 = { made := [true], succeeded := true } ∧ IsRetried x := by
  obtain ⟨x, hrun, hlog⟩ := Machine.exists_run_of_replay (listed sampleDistance)
    (fun x e => answers x e && delivers x e) ({ device := sampleDevice }, {})
    [(.tracingLocation ⟨40, -73⟩, true),
      (.onlineProviderList 0 (some [("OnlineProviderList", .arr [])]), true),
      (.tracingLocation ⟨40, -73⟩, false)]
    (fun x => x.2 == { made := [true], succeeded := true })
    (fun _ _ => Bool.and_eq_true_iff.mp) (by decide +kernel)
  have hanswered := hrun.mono fun _ _ h => h.1
  exact ⟨x, hanswered, beq_iff_eq.mp hlog, (failed_load_is_retried_iff hanswered).mpr hrun⟩

/-- **A failure of the first request.**  Nothing is under way any more, and the next location asks
for nothing. -/
theorem failed_load_is_the_last :
    ∃ x, (listed sampleDistance).RunWhere (fun x e => answers x e = true)
        ({ device := sampleDevice }, {}) x ∧
      x.2 = { made := [true], succeeded := false } ∧ ¬InFlight x ∧ ¬IsRetried x := by
  obtain ⟨x, hrun, htest⟩ := Machine.exists_run_of_replay (listed sampleDistance)
    (fun x e => answers x e) ({ device := sampleDevice }, {})
    [(.tracingLocation ⟨40, -73⟩, true), (.onlineProviderList 0 none, true),
      (.tracingLocation ⟨41, -73⟩, true)]
    (fun x => x.2 == { made := [true], succeeded := false } && x.1.listCalls == ⟨[none]⟩ &&
      !x.1.dashboard.isFirst)
    (fun _ _ => id) (by decide +kernel)
  simp only [Bool.and_eq_true, beq_iff_eq, Bool.not_eq_true'] at htest
  obtain ⟨⟨hlog, hcalls⟩, hasked⟩ := htest
  have hflight : ¬InFlight x := by
    rintro ⟨call, hwaiting, _⟩
    rw [hcalls] at hwaiting
    cases call with
    | zero => simp [Callbacks.waiting] at hwaiting
    | succ n => simp [Callbacks.waiting] at hwaiting
  exact ⟨x, hrun, hlog, hflight, by simp [isRetried_iff, hlog, hflight, hasked]⟩

end ClientSession

end WeatherAccommodation
