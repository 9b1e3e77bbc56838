/-
# How long the waiting overlay stays

Each request that is posted starts a one-shot timer of 120 seconds, which nothing invalidates, and
the four ways in which the overlay goes (a timer, the end of a cancellation, a sheet that opens, a
trip that is resumed) all run the same `timerAction`.  So what was started for an earlier request
takes the overlay off a later one.

* `overlay_lasts`: along every run in which whatever takes the overlay away comes when no later
  request is still waiting, the overlay outlasts every request; and any other step hides it too
  soon.
* `overlay_of_second_request_hidden`: the first request is cancelled, and its timer hides the
  overlay of the second one after 100 seconds.
-/
import Mathlib.Tactic.Linarith
import WeatherAccommodation.Client.OwnSheet

namespace WeatherAccommodation

open Foundation Reactive

namespace ClientSession

variable {distance : CLLocation → CLLocation → ℚ} {s t : ClientSession} {e : ClientEvent}

/-! ## 1. The requests that wait -/

/-- `requestTimerCounter` -/
def requestTimerCounter : ℚ := 120

structure OverlayLog where
  /-- The date of the last event. -/
  now : ℚ := 0
  /-- For each request, when it was posted successfully and its timer started. -/
  posted : List ℚ := []
  /-- The requests below this number were cancelled or accepted. -/
  closed : Nat := 0
  /-- For each cancellation, how many requests had been posted when the button was pressed. -/
  withdrawn : List Nat := []
  /-- For each distance call, how many requests had been posted when it was made. -/
  asked : List Nat := []

/-- The requests below `n` are over. -/
def OverlayLog.close (log : OverlayLog) (n : Nat) : OverlayLog :=
  { log with closed := max log.closed n }

/-- The log after an event that led from `s` to `t`, with its date.  A body of a cancellation names
no request, nor does an acceptance: either ends whatever was posted before. -/
def noteOverlay (log : OverlayLog) (s : ClientSession) (e : ClientEvent × ℚ) (t : ClientSession) :
    OverlayLog :=
  let log := { log with now := e.2 }
  match e.1 with
  | .requestReply _ true => { log with posted := log.posted ++ [e.2] }
  | .cancelRequest => { log with withdrawn := log.withdrawn ++ [log.posted.length] }
  | .cancelReply call true => log.close (log.withdrawn[call]?.getD 0)
  | .onMessage _ _ =>
    if s.distanceCalls.issued < t.distanceCalls.issued then
      { log.close log.posted.length with asked := log.asked ++ [log.posted.length] }
    else log
  | .distanceTimerFires =>
    if s.distanceCalls.issued < t.distanceCalls.issued then
      { log with asked := log.asked ++ [log.posted.length] }
    else log
  | _ => log

/-- Neither cancelled nor accepted, the request `k` has some of its 120 seconds left. -/
def OverlayLog.isWaiting (log : OverlayLog) (date : ℚ) (k : Nat) : Bool :=
  decide (log.closed ≤ k) && log.posted[k]?.any fun T => decide (date < T + requestTimerCounter)

/-- While a request is waiting, the overlay is there. -/
def OverlayLasts (x : ClientSession × OverlayLog) : Prop :=
  ∀ k, x.2.isWaiting x.2.now k = true → x.1.dashboard.viewDisableIsHidden = false

/-- The event takes the overlay away, on account of the requests below a number. -/
def closes (x : ClientSession × OverlayLog) : ClientEvent → Option Nat
  | .timerFires timer => some (timer + 1)
  | .cancelReply call true => some (x.2.withdrawn[call]?.getD 0)
  | .distanceReply call _ true =>
    if (x.1.distanceCalls.waiting call).any fun dict =>
        Dict.string? dict "RequestType" != some Request_Status.locationUpdated then
      some (x.2.asked[call]?.getD 0)
    else none
  | .onlineProviderList _ (some _) =>
    if x.1.device.appDelegate.doesRequestExist &&
        x.1.device.appDelegate.clientExistingTrip.any fun trip =>
          Dict.int? trip "StatusCode" == some 6 then some 0
    else none
  | _ => none

/-- If the event takes the overlay away, then no later request is still waiting. -/
def noneWaits (x : ClientSession × OverlayLog) (e : ClientEvent × ℚ) : Bool :=
  match closes x e.1 with
  | none => true
  | some n => (List.range x.2.posted.length).all fun k => decide (k < n) || !x.2.isWaiting e.2 k

/-- Dates do not go back, and a timer takes its 120 seconds. -/
def onSchedule (x : ClientSession × OverlayLog) (e : ClientEvent × ℚ) : Bool :=
  decide (x.2.now ≤ e.2) &&
    match e.1 with
    | .timerFires timer => x.2.posted[timer]?.all fun T => decide (T + requestTimerCounter ≤ e.2)
    | _ => true

/-! ## 2. What a step does to the overlay -/

/-- The overlay is left alone, shown or taken away. -/
inductive OverlayMove (s t : ClientSession) : ClientEvent → Prop where
  | kept {e : ClientEvent} (stays : ∀ log, closes (s, log) e = none)
      (unposted : ∀ log date, (noteOverlay log s (e, date) t).posted = log.posted)
      (hidden : t.dashboard.viewDisableIsHidden = s.dashboard.viewDisableIsHidden)
      (timers : t.timers.issued = s.timers.issued) : OverlayMove s t e
  | shown {call : Nat} (hidden : t.dashboard.viewDisableIsHidden = false)
      (timers : t.timers.issued = s.timers.issued + 1) : OverlayMove s t (.requestReply call true)
  | taken {e : ClientEvent} (goes : ∀ log, (closes (s, log) e).isSome = true)
      (unposted : ∀ log date, (noteOverlay log s (e, date) t).posted = log.posted)
      (hidden : t.dashboard.viewDisableIsHidden = true)
      (timers : t.timers.issued = s.timers.issued) : OverlayMove s t e

/-- A message posts nothing. -/
theorem posted_onMessage {log : OverlayLog} {socket : Nat} {text : Message} {date : ℚ} :
    (noteOverlay log s (.onMessage socket text, date) t).posted = log.posted := by
  simp only [noteOverlay]
  split
  · rfl
  · rfl

theorem posted_distanceTimerFires {log : OverlayLog} {date : ℚ} :
    (noteOverlay log s (.distanceTimerFires, date) t).posted = log.posted := by
  simp only [noteOverlay]
  split
  · rfl
  · rfl

/-- **Every step is one of these.** -/
theorem step_overlayMove (h : (machine distance).Step s e t) : OverlayMove s t e := by
  have hstep : StepOf distance s t e := step_inv h
  cases e with
  | tracingLocation l =>
    obtain rfl : t = s.tracingLocation l := hstep
    unfold tracingLocation
    split
    · exact .kept (fun _ => rfl) (fun _ _ => rfl) rfl rfl
    · exact .kept (fun _ => rfl) (fun _ _ => rfl) rfl rfl
  | onlineProviderList call response =>
    rcases onlineProviderList_inv hstep.2 with ⟨rfl, rfl⟩ | ⟨r, items, d, rfl, _, happend, hcheck⟩
    · exact .kept (fun _ => rfl) (fun _ _ => rfl) rfl rfl
    · obtain ⟨ps, ms, rfl⟩ := ClientDashboard.appendOnlineProviders_frame happend
      rcases checkIfTripExists_inv hcheck with
        ⟨hflag, rfl⟩ | ⟨trip, userID, ⟨hflag, htrip, _⟩, ⟨hstatus, here, rfl⟩ | ⟨hstatus, rfl⟩⟩
      · have hflag' : s.device.appDelegate.doesRequestExist = false := hflag
        exact .kept (fun _ => by simp [closes, hflag']) (fun _ _ => rfl) rfl rfl
      · have hflag' : s.device.appDelegate.doesRequestExist = true := hflag
        have htrip' : s.device.appDelegate.clientExistingTrip = some trip := htrip
        exact .taken (fun _ => by simp [closes, hflag', htrip', hstatus]) (fun _ _ => rfl) rfl rfl
      · have htrip' : s.device.appDelegate.clientExistingTrip = some trip := htrip
        exact .kept (fun _ => by simp [closes, htrip', hstatus]) (fun _ _ => rfl) rfl rfl
  | onMessage socket text =>
    rcases hstep with ⟨_, d, hping, rfl⟩ | ⟨_, _, hmsg⟩ | ⟨_, _, rfl⟩
    · obtain ⟨ps, ms, rfl⟩ := ClientDashboard.pingReceived_frame hping
      exact .kept (fun _ => rfl) (fun _ _ => posted_onMessage) rfl rfl
    · rcases requestMessage_inv hmsg with rfl | ⟨dict, _, rfl⟩
      · exact .kept (fun _ => rfl) (fun _ _ => posted_onMessage) rfl rfl
      · exact .kept (fun _ => rfl) (fun _ _ => posted_onMessage) rfl rfl
    · exact .kept (fun _ => rfl) (fun _ _ => posted_onMessage) rfl rfl
  | sendRequest =>
    rcases sendRequest_inv hstep.2 with rfl | ⟨marker, markers, body, _, _, _, rfl⟩
    · exact .kept (fun _ => rfl) (fun _ _ => rfl) rfl rfl
    · exact .kept (fun _ => rfl) (fun _ _ => rfl) rfl rfl
  | requestReply call success =>
    obtain ⟨userID, _, rfl⟩ := hstep
    cases success with
    | true => exact .shown rfl (Callbacks.issued_issue _ _)
    | false => exact .kept (fun _ => rfl) (fun _ _ => rfl) rfl rfl
  | cancelRequest =>
    obtain ⟨body, _, rfl⟩ := cancelRequestThroughWS_inv hstep.2
    exact .kept (fun _ => rfl) (fun _ _ => rfl) rfl rfl
  | cancelReply call success =>
    rcases cancelReply_inv hstep.2 with ⟨rfl, rfl⟩ | ⟨frame, ⟨rfl, _⟩, rfl⟩
    · exact .kept (fun _ => rfl) (fun _ _ => rfl) rfl rfl
    · exact .taken (fun _ => rfl) (fun _ _ => rfl) rfl rfl
  | timerFires timer =>
    obtain ⟨_, rfl⟩ := hstep
    exact .taken (fun _ => rfl) (fun _ _ => rfl) rfl (Callbacks.issued_retire _ _)
  | distanceReply call values success =>
    obtain ⟨dict, hwaiting, hreply⟩ := hstep
    rcases distanceReply_cases hreply with
      ⟨htype, markers, _, rfl⟩ | ⟨rfl, htype, u, markers, henter, _, rfl⟩
    · cases success with
      | true =>
        exact .kept (fun _ => by simp [closes, hwaiting, htype rfl]) (fun _ _ => rfl) rfl rfl
      | false => exact .kept (fun _ => rfl) (fun _ _ => rfl) rfl rfl
    · obtain ⟨eta, here, marker, rfl⟩ := enterTrip_inv henter
      exact .taken (fun _ => by simp [closes, hwaiting, htype]) (fun _ _ => rfl) rfl rfl
  | distanceTimerFires =>
    rcases callDistanceMatrixAPI_inv hstep with ⟨_, rfl⟩ | ⟨dict, _, rfl⟩
    · exact .kept (fun _ => rfl) (fun _ _ => posted_distanceTimerFires) rfl rfl
    · exact .kept (fun _ => rfl) (fun _ _ => posted_distanceTimerFires) rfl rfl
  | receivingLocationUpdate text =>
    obtain ⟨_, rfl⟩ := hstep
    exact .kept (fun _ => rfl) (fun _ _ => rfl) rfl rfl
  | viewWillAppear =>
    obtain ⟨d, hclear, rfl⟩ := hstep
    obtain ⟨marker, markers, _, rfl⟩ := ClientDashboard.clearTrip_inv hclear
    exact .kept (fun _ => rfl) (fun _ _ => rfl) rfl rfl
  | selectedProducts products =>
    obtain ⟨d, hshow, rfl⟩ := hstep
    obtain ⟨_, _, _, _, _, _, rfl⟩ := ClientDashboard.showSelectedProducts_inv hshow
    exact .kept (fun _ => rfl) (fun _ _ => rfl) rfl rfl
  | elsewhere device busy =>
    obtain rfl : t = { s with device := device, isPresenting := busy } := hstep
    exact .kept (fun _ => rfl) (fun _ _ => rfl) rfl rfl

/-! ## 3. What the log knows -/

variable {log : OverlayLog} {date : ℚ}

theorem OverlayLog.isWaiting_iff {k : Nat} : log.isWaiting date k = true ↔
    log.closed ≤ k ∧ ∃ T, log.posted[k]? = some T ∧ date < T + requestTimerCounter := by
  simp [isWaiting, Option.any_eq_true]

theorem noneWaits_iff {n : Nat} (h : closes (s, log) e = some n) :
    noneWaits (s, log) (e, date) = true ↔ ∀ k, n ≤ k → log.isWaiting date k = false := by
  simp only [noneWaits, h, List.all_eq_true, List.mem_range, Bool.or_eq_true, decide_eq_true_eq,
    Bool.not_eq_true']
  constructor
  · intro hall k hk
    by_cases hlt : k < log.posted.length
    · exact (hall k hlt).resolve_left (Nat.not_lt.mpr hk)
    · have hout : log.posted[k]? = none := List.getElem?_eq_none (Nat.not_lt.mp hlt)
      simp [OverlayLog.isWaiting, hout]
  · intro hall k _
    rcases Nat.lt_or_ge k n with hlt | hge
    · exact Or.inl hlt
    · exact Or.inr (hall k hge)

/-- What is over stays over. -/
theorem closed_le : log.closed ≤ (noteOverlay log s (e, date) t).closed := by
  unfold noteOverlay
  split
  · exact le_rfl
  · exact le_rfl
  · exact le_max_left _ _
  · split
    · exact le_max_left _ _
    · exact le_rfl
  · split
    · exact le_rfl
    · exact le_rfl
  · exact le_rfl

theorem now_eq : (noteOverlay log s (e, date) t).now = date := by
  unfold noteOverlay
  split
  · rfl
  · rfl
  · rfl
  · split
    · rfl
    · rfl
  · split
    · rfl
    · rfl
  · rfl

/-- What holds along every run whose dates are in order. -/
structure Scheduled (x : ClientSession × OverlayLog) : Prop where
  timers : x.2.posted.length = x.1.timers.issued
  sorted : x.2.posted.Pairwise (· ≤ ·)
  past : ∀ T ∈ x.2.posted, T ≤ x.2.now
  updates : x.1.dashboard.locationUpdates = none ∨
    isLocationUpdate x.1.dashboard.locationUpdates = true
  numbered : x.2.asked.length = x.1.distanceCalls.issued
  calls : x.1.distanceCalls.All fun call dict =>
    Dict.string? dict "RequestType" = some Request_Status.locationUpdated ∨
      x.2.asked[call]?.getD 0 ≤ x.2.closed

/-- A distance call is answered, or made for an acceptance or for the stored location update. -/
theorem distanceCalls_step (hmove : SheetMove s t e) :
    (t.distanceCalls = s.distanceCalls ∨ ∃ call, t.distanceCalls = s.distanceCalls.retire call) ∨
      ∃ dict, t.distanceCalls = s.distanceCalls.issue dict ∧
        ((∃ socket text, e = .onMessage socket text) ∨
          (e = .distanceTimerFires ∧ s.dashboard.locationUpdates = some (.obj dict))) := by
  cases hmove with
  | stay _ _ _ calls _ _ => exact Or.inl (Or.inl calls)
  | accepted _ _ calls _ _ => exact Or.inr ⟨_, calls, Or.inl ⟨_, _, rfl⟩⟩
  | asked stored _ calls _ _ => exact Or.inr ⟨_, calls, Or.inr ⟨rfl, stored⟩⟩
  | resumed _ _ _ _ calls _ _ => exact Or.inl (Or.inl calls)
  | answered _ _ _ calls _ _ => exact Or.inl (Or.inr ⟨_, calls⟩)
  | opened _ _ _ _ _ _ _ calls _ _ => exact Or.inl (Or.inr ⟨_, calls⟩)

/-- While no call is made, the numbers of the calls stand. -/
theorem asked_of_le (hle : t.distanceCalls.issued ≤ s.distanceCalls.issued) :
    (noteOverlay log s (e, date) t).asked = log.asked := by
  unfold noteOverlay
  split
  · rfl
  · rfl
  · rfl
  · rw [if_neg (Nat.not_lt.mpr hle)]
  · rw [if_neg (Nat.not_lt.mpr hle)]
  · rfl

/-- A call that is made is numbered. -/
theorem asked_of_issue {dict : Dict} (calls : t.distanceCalls = s.distanceCalls.issue dict)
    (cause : (∃ socket text, e = .onMessage socket text) ∨
      (e = .distanceTimerFires ∧ s.dashboard.locationUpdates = some (.obj dict))) :
    (noteOverlay log s (e, date) t).asked = log.asked ++ [log.posted.length] := by
  rcases cause with ⟨socket, text, rfl⟩ | ⟨rfl, _⟩
  · simp [noteOverlay, calls]
  · simp [noteOverlay, calls]

/-- The numbers of the calls are those of the log. -/
theorem asked_length_step (hmove : SheetMove s t e)
    (h : log.asked.length = s.distanceCalls.issued) :
    (noteOverlay log s (e, date) t).asked.length = t.distanceCalls.issued := by
  rcases distanceCalls_step hmove with (calls | ⟨call, calls⟩) | ⟨dict, calls, cause⟩
  · rw [asked_of_le (by rw [calls]), calls, h]
  · rw [asked_of_le (by simp [calls]), calls, Callbacks.issued_retire, h]
  · rw [asked_of_issue calls cause, calls, List.length_append, h, Callbacks.issued_issue]
    rfl

/-- The travel times that are still expected belong to requests that are over. -/
theorem Scheduled.calls_step (hx : Scheduled (s, log)) (hmove : SheetMove s t e) :
    t.distanceCalls.All fun call dict =>
      Dict.string? dict "RequestType" = some Request_Status.locationUpdated ∨
        (noteOverlay log s (e, date) t).asked[call]?.getD 0 ≤
          (noteOverlay log s (e, date) t).closed := by
  have hnumbered : log.asked.length = s.distanceCalls.issued := hx.numbered
  have hold : ∀ call dict, s.distanceCalls.waiting call = some dict →
      (noteOverlay log s (e, date) t).asked[call]? = log.asked[call]? →
        Dict.string? dict "RequestType" = some Request_Status.locationUpdated ∨
          (noteOverlay log s (e, date) t).asked[call]?.getD 0 ≤
            (noteOverlay log s (e, date) t).closed := by
    intro call dict hwaiting hasked
    refine (hx.calls call dict hwaiting).imp_right fun hle => ?_
    rw [hasked]
    exact hle.trans closed_le
  rcases distanceCalls_step hmove with (calls | ⟨call, calls⟩) | ⟨dict, calls, cause⟩
  · rw [calls]
    exact fun call dict hwaiting =>
      hold call dict hwaiting (by rw [asked_of_le (by rw [calls])])
  · rw [calls]
    refine Callbacks.All.retire (fun call dict hwaiting => hold call dict hwaiting ?_) call
    rw [asked_of_le (by simp [calls])]
  · have hasked : (noteOverlay log s (e, date) t).asked = log.asked ++ [log.posted.length] :=
      asked_of_issue calls cause
    rw [calls]
    refine Callbacks.All.issue (fun call dict hwaiting => hold call dict hwaiting ?_) ?_
    · have hlt : call < log.asked.length := hnumbered ▸ Callbacks.lt_issued_of_waiting hwaiting
      rw [hasked, List.getElem?_append_left hlt]
    · rw [hasked, ← hnumbered, List.getElem?_concat_length]
      rcases cause with ⟨socket, text, rfl⟩ | ⟨rfl, hstored⟩
      · right
        simp [noteOverlay, calls, OverlayLog.close]
      · exact Or.inl (locationUpdated_of_stored hx.updates hstored)

/-- The requests are posted one after the other. -/
theorem posted_step (hmove : OverlayMove s t e) :
    ((noteOverlay log s (e, date) t).posted = log.posted ∧ t.timers.issued = s.timers.issued) ∨
      ((noteOverlay log s (e, date) t).posted = log.posted ++ [date] ∧
        t.timers.issued = s.timers.issued + 1) := by
  cases hmove with
  | kept _ unposted _ timers => exact Or.inl ⟨unposted log date, timers⟩
  | shown _ timers => exact Or.inr ⟨rfl, timers⟩
  | taken _ unposted _ timers => exact Or.inl ⟨unposted log date, timers⟩

/-- One step keeps the log in order. -/
theorem Scheduled.step (hx : Scheduled (s, log)) (hdate : log.now ≤ date)
    (hmove : OverlayMove s t e) (hsheet : SheetMove s t e) :
    Scheduled (t, noteOverlay log s (e, date) t) := by
  have htimers : log.posted.length = s.timers.issued := hx.timers
  have hsorted : log.posted.Pairwise (· ≤ ·) := hx.sorted
  have hpast : ∀ T ∈ log.posted, T ≤ date := fun T hT => (hx.past T hT).trans hdate
  refine ⟨?_, ?_, ?_, updates_step hsheet hx.updates, asked_length_step hsheet hx.numbered,
    hx.calls_step hsheet⟩
  · rcases posted_step hmove with ⟨hposted, hissued⟩ | ⟨hposted, hissued⟩
    · rw [hposted, hissued, htimers]
    · rw [hposted, hissued, List.length_append, htimers]
      rfl
  · rcases posted_step hmove with ⟨hposted, _⟩ | ⟨hposted, _⟩
    · rw [hposted]
      exact hsorted
    · rw [hposted, List.pairwise_append]
      exact ⟨hsorted, List.pairwise_singleton _ _, by simpa using hpast⟩
  · rcases posted_step hmove with ⟨hposted, _⟩ | ⟨hposted, _⟩
    · rw [hposted, now_eq]
      exact hpast
    · rw [hposted, now_eq]
      intro T hT
      rcases List.mem_append.mp hT with hold | hnew
      · exact hpast T hold
      · exact (List.mem_singleton.mp hnew).le

/-! ## 4. The law -/

/-- The requests on whose account the overlay goes have no time left, or are over. -/
theorem Scheduled.below {n k : Nat} (hx : Scheduled (s, log))
    (hstep : (machine distance).Step s e t) (hdate : onSchedule (s, log) (e, date) = true)
    (hcloses : closes (s, log) e = some n) (hk : k < n) :
    (noteOverlay log s (e, date) t).isWaiting date k = false := by
  rw [Bool.eq_false_iff, Ne, OverlayLog.isWaiting_iff]
  rintro ⟨hover, T, hT, hleft⟩
  unfold closes at hcloses
  split at hcloses
  · rename_i timer
    obtain rfl : timer + 1 = n := Option.some.inj hcloses
    have hposted : log.posted[k]? = some T := hT
    have hlt : timer < log.posted.length := by
      have hwaiting := (step_inv hstep : StepOf distance s t (.timerFires timer)).1
      have htimers : log.posted.length = s.timers.issued := hx.timers
      exact htimers ▸ Callbacks.lt_issued_of_waiting hwaiting
    -- the timer has taken its time, and the request `k` was posted no later
    have htimer : log.posted[timer] + requestTimerCounter ≤ date := by
      simpa [onSchedule, hlt] using (Bool.and_eq_true_iff.mp hdate).2
    have hle : T ≤ log.posted[timer] := by
      obtain ⟨hk', rfl⟩ := List.getElem?_eq_some_iff.mp hposted
      rcases Nat.lt_or_ge k timer with hlt' | hge
      · exact List.pairwise_iff_getElem.mp hx.sorted k timer hk' hlt hlt'
      · obtain rfl : k = timer := by omega
        exact le_rfl
    linarith
  · rename_i call
    obtain rfl : log.withdrawn[call]?.getD 0 = n := Option.some.inj hcloses
    have hle : log.withdrawn[call]?.getD 0 ≤ k := (le_max_right _ _).trans hover
    omega
  · rename_i call values
    split at hcloses
    · rename_i hopens
      obtain rfl : log.asked[call]?.getD 0 = n := Option.some.inj hcloses
      obtain ⟨dict, hwaiting, htype⟩ := (Option.any_eq_true _ _).mp hopens
      have hle : log.asked[call]?.getD 0 ≤ log.closed :=
        (hx.calls call dict hwaiting).resolve_left (by simpa using htype)
      have hover' : log.closed ≤ k := hover
      omega
    · exact absurd hcloses (by simp)
  · split at hcloses
    · obtain rfl : 0 = n := Option.some.inj hcloses
      exact absurd hk (Nat.not_lt_zero k)
    · exact absurd hcloses (by simp)
  · exact absurd hcloses (by simp)

/-- No others are over with it. -/
theorem closed_of_closes {n : Nat} (hcloses : closes (s, log) e = some n) :
    (noteOverlay log s (e, date) t).closed ≤ max log.closed n := by
  unfold closes at hcloses
  split at hcloses
  · exact le_max_left _ _
  · obtain rfl := Option.some.inj hcloses
    exact le_rfl
  · exact le_max_left _ _
  · exact le_max_left _ _
  · exact absurd hcloses (by simp)

/-- **One step.**  The overlay has lasted, and does so exactly if nothing took it away too soon. -/
theorem Scheduled.lasts_step (hx : Scheduled (s, log)) (hstep : (machine distance).Step s e t)
    (hdate : onSchedule (s, log) (e, date) = true) (hlasts : OverlayLasts (s, log)) :
    OverlayLasts (t, noteOverlay log s (e, date) t) ↔ noneWaits (s, log) (e, date) = true := by
  have hnow : log.now ≤ date := by simpa using (Bool.and_eq_true_iff.mp hdate).1
  cases step_overlayMove hstep with
  | kept stays unposted hidden _ =>
    refine iff_of_true (fun k hk => ?_) (by simp [noneWaits, stays])
    rw [now_eq, OverlayLog.isWaiting_iff, unposted] at hk
    obtain ⟨hover, T, hT, hleft⟩ := hk
    rw [hidden]
    exact hlasts k
      (OverlayLog.isWaiting_iff.mpr ⟨closed_le.trans hover, T, hT, hnow.trans_lt hleft⟩)
  | shown hidden _ => exact iff_of_true (fun _ _ => hidden) rfl
  | taken goes unposted hidden _ =>
    obtain ⟨n, hcloses⟩ := Option.isSome_iff_exists.mp (goes log)
    have hsame : ∀ k, n ≤ k →
        (noteOverlay log s (e, date) t).isWaiting date k = log.isWaiting date k := by
      intro k hk
      have hover : (noteOverlay log s (e, date) t).closed ≤ k ↔ log.closed ≤ k :=
        ⟨closed_le.trans, fun h => (closed_of_closes hcloses).trans (max_le h hk)⟩
      simp only [OverlayLog.isWaiting, unposted, hover]
    rw [noneWaits_iff hcloses]
    constructor
    · intro h k hk
      rw [← hsame k hk, Bool.eq_false_iff]
      intro hwaiting
      have hshown := h k (by rw [now_eq]; exact hwaiting)
      exact absurd (hidden.symm.trans hshown) (by simp)
    · intro h k hk
      rw [now_eq] at hk
      rcases Nat.lt_or_ge k n with hlt | hge
      · exact absurd ((hx.below hstep hdate hcloses hlt).symm.trans hk) (by simp)
      · exact absurd ((hsame k hge).symm.trans hk) (by simp [h k hge])

/-- **The overlay outlasts every request.**  From any device, over any posts, cancellations and
expiries at any dates: if whatever takes the overlay away comes when no later request is still
waiting, then in every state reached the overlay is there for as long as a request has some of its
120 seconds left and was not cancelled or accepted.  Any other step takes the overlay away from a
request that is waiting. -/
theorem overlay_lasts (device : Device) {x : ClientSession × OverlayLog}
    (hrun : ((machine distance).dated.withHistory noteOverlay).RunWhere
      (fun x e => onSchedule x e = true ∧ noneWaits x e = true) ({ device := device }, {}) x) :
    OverlayLasts x ∧ ∀ e y, onSchedule x e = true →
      ((machine distance).dated.withHistory noteOverlay).Step x e y →
        (OverlayLasts y ↔ noneWaits x e = true) := by
  have hboth : Scheduled x ∧ OverlayLasts x := by
    refine hrun.invariant (I := fun x => Scheduled x ∧ OverlayLasts x) ?_ ?_
    · exact ⟨⟨rfl, .nil, by simp, Or.inl rfl, rfl, .empty _⟩, fun k hk => by
        simp [OverlayLog.isWaiting] at hk⟩
    · rintro ⟨s, log⟩ ⟨e, date⟩ ⟨t, log'⟩ ⟨hx, hlasts⟩ ⟨hdate, hnone⟩ hstep
      obtain ⟨hs, hlog⟩ := Machine.withHistory_step.mp hstep
      obtain rfl : log' = noteOverlay log s (e, date) t := hlog
      have hnow : log.now ≤ date := by simpa using (Bool.and_eq_true_iff.mp hdate).1
      exact ⟨hx.step hnow (step_overlayMove hs) (step_sheetMove hs),
        (hx.lasts_step hs hdate hlasts).mpr hnone⟩
  refine ⟨hboth.2, ?_⟩
  rintro ⟨e, date⟩ ⟨t, log'⟩ hdate hstep
  obtain ⟨hs, hlog⟩ := Machine.withHistory_step.mp hstep
  obtain rfl : log' = noteOverlay x.2 x.1 (e, date) t := hlog
  exact hboth.1.lasts_step hs hdate hboth.2

/-! ## 5. Two requests -/

/-- The first request is posted at 0 and cancelled at 10. -/
def cancelledAtTen : List (ClientEvent × ℚ) :=
  (requestEvents.map fun e => (e, 0)) ++ [(.cancelRequest, 10), (.cancelReply 0 true, 10)]

/-- The second request is posted once the timer of the first has run out. -/
theorem overlay_lasts_in_turn : ∃ x : ClientSession × OverlayLog,
    x.2.posted = [0, 130] ∧ x.1.dashboard.viewDisableIsHidden = false ∧ OverlayLasts x := by
  obtain ⟨x, hrun, htest⟩ := Machine.exists_run_of_replay
    ((machine sampleDistance).dated.withHistory noteOverlay)
    (fun x e => onSchedule x e && noneWaits x e) ({ device := sampleDevice }, {})
    (cancelledAtTen ++ [(.timerFires 0, 120), (.sendRequest, 130), (.requestReply 1 true, 130)])
    (fun x => x.2.posted == [0, 130] && !x.1.dashboard.viewDisableIsHidden)
    (fun _ _ => Bool.and_eq_true_iff.mp) (by decide +kernel)
  simp only [Bool.and_eq_true, beq_iff_eq, Bool.not_eq_true'] at htest
  exact ⟨x, htest.1, htest.2, (overlay_lasts sampleDevice hrun).1⟩

/-- **The timer of the cancelled request hides the overlay of the next one**, 100 seconds after it
was posted. -/
theorem overlay_of_second_request_hidden :
    ¬∀ (device : Device) (x : ClientSession × OverlayLog),
      ((machine sampleDistance).dated.withHistory noteOverlay).RunWhere
        (fun x e => onSchedule x e = true) ({ device := device }, {}) x → OverlayLasts x := by
  intro hall
  obtain ⟨x, hrun, htest⟩ := Machine.exists_run_of_replay
    ((machine sampleDistance).dated.withHistory noteOverlay) onSchedule
    ({ device := sampleDevice }, {})
    (cancelledAtTen ++ [(.sendRequest, 20), (.requestReply 1 true, 20), (.timerFires 0, 120)])
    (fun x => x.2.isWaiting x.2.now 1 && x.1.dashboard.viewDisableIsHidden)
    (fun _ _ => id) (by decide +kernel)
  obtain ⟨hwaiting, hhidden⟩ := Bool.and_eq_true_iff.mp htest
  exact absurd ((hall sampleDevice x hrun 1 hwaiting).symm.trans hhidden) (by simp)

end ClientSession

end WeatherAccommodation
