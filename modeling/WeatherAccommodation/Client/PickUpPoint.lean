/-
# Where the client is said to be

A request carries the dashboard's own copy of the client's location.  The dashboard takes the
location delegate when it loads, and a provider-detail sheet and a cancel-reason screen take it
for good, so the dashboard below is told no more.

The history says which dashboard the last report went to.  Its copy is the last report
(`Informed.copy`), and a request from it carries that (`requests_carry_last_report`); after a
cancelled trip the next request carries the place where the sheet was opened
(`request_from_old_place`).
-/
import WeatherAccommodation.Client.SecondTrip

namespace WeatherAccommodation

open Foundation Reactive

namespace ClientPhone

variable {distance : CLLocation → CLLocation → ℚ}

/-! ## 1. The history and the condition -/

/-- The dashboard that a report reaches. -/
def listener (p : ClientPhone) : Option Nat :=
  match p.locationOwner with
  | some (.dashboard i) => some i
  | _ => none

theorem listener_eq_some {p : ClientPhone} {i : Nat} :
    p.listener = some i ↔ p.locationOwner = some (.dashboard i) := by
  unfold listener
  split
  · rename_i k howner
    simp [howner]
  · rename_i hnone
    constructor
    · intro h
      exact absurd h (by simp)
    · intro h
      exact absurd h (hnone i)

/-- The history variable: the dashboard that the last report reached. -/
def noteReport (told : Option Nat) (p : ClientPhone) (e : ClientPhoneEvent) (_ : ClientPhone) :
    Option Nat :=
  match e with
  | .didUpdateLocations _ => p.listener
  | _ => told

/-- What the dashboard with number `i` has posted. -/
def requestsOf (p : ClientPhone) (i : Nat) : List ServiceRequest :=
  match p.app.sessions[i]? with
  | some s => s.requests
  | none => []

/-- Every `requested` body that the step from `x` to `y` posts carries the location that was
reported last. -/
def CarriesLastReport (x y : ClientPhone × Option Nat) : Prop :=
  ∀ i, ∀ body ∈ (requestsOf y.1 i).drop (requestsOf x.1 i).length,
    body.requestStatus = Request_Status.requested → some body.location = x.1.lastLocation

/-- The guards of the dashboard with number `i` let a press through. -/
def posts (p : ClientPhone) (i : Nat) : Bool :=
  p.app.sessions[i]?.any fun s => s.dashboard.sendRequest p.app.device == .post

/-- The condition on a step: a dashboard that posts a request was told the last report. -/
def posterIsTold (x : ClientPhone × Option Nat) : ClientPhoneEvent → Bool
  | .app (.session i .sendRequest) => !x.1.posts i || x.2 == some i
  | _ => true

/-! ## 2. Between reports -/

section Between

variable {p q : ClientPhone} {e : ClientPhoneEvent}

/-- Only a report changes the last location. -/
theorem step_lastLocation (he : ∀ l, e ≠ .didUpdateLocations l)
    (h : (machine distance).Step p e q) : q.lastLocation = p.lastLocation := by
  have hof : StepOf distance p q e := step_inv h
  cases e with
  | app ev =>
    obtain ⟨_, b, _, rfl⟩ := hof
    exact lastLocation_follow p ev b
  | tripStatusReply existing =>
    obtain rfl : q = p.tripStatusReply existing := hof
    unfold tripStatusReply
    split
    · rfl
    · rfl
  | didUpdateLocations l => exact absurd rfl (he l)
  | onMessage socket text inBackground =>
    cases hof with
    | dashboard _ _ after => rw [after]
    | @sheet j sheet _ _ handled =>
      rcases sheetMessage_inv handled with rfl | ⟨_, hreacts⟩
      · rfl
      · cases hreacts with
        | nothing after => rw [after]
        | reached _ _ after =>
          obtain ⟨_, _, _, hdismiss⟩ := dismissFrom_inv p j sheet
          rw [after, hdismiss]
          rfl
        | cancelled _ after =>
          obtain ⟨_, _, _, hdismiss⟩ := dismissFrom_inv p j sheet
          rw [after, hdismiss]
        | located _ after => rw [after]
        | started _ _ _ after =>
          obtain ⟨_, _, _, hdismiss⟩ := dismissFrom_inv (p.setFlag false) j sheet
          rw [after, hdismiss]
          rfl
    | trip _ _ handled =>
      rcases tripMessage_inv handled with rfl | ⟨_, _, _, rfl⟩
      · rfl
      · rfl
  | lateProviderList k call response =>
    obtain ⟨_, _, _, _, rfl⟩ := hof
    rfl
  | lateDistance k call values =>
    obtain ⟨_, _, _, _, _, rfl⟩ := hof
    rfl
  | cancelRequest j sinceAccepted =>
    obtain ⟨sheet, _, _, rfl⟩ := hof
    unfold cancelRequest
    split
    · rfl
    · rfl
  | cancelTrip j =>
    obtain ⟨sheet, _, _, hcancel⟩ := hof
    obtain ⟨_, _, _, rfl⟩ := cancelTrip_inv hcancel
    rfl
  | leftBarItemDidTap j =>
    obtain ⟨_, _, _, _, rfl⟩ := hof
    rfl
  | btnSubmitPressed noShow dismisses =>
    obtain ⟨_, _, _, _, hsubmit⟩ := hof
    obtain ⟨_, _, _, rfl⟩ := btnSubmitPressed_inv hsubmit
    rfl
  | showDashboard _ | pushOther | popViewController | dismissAlert | submitReview _
  | reviewReply _ => exact (step_navigation h rfl).lastLocation

/-- Nothing but a report is a new location for a dashboard. -/
theorem location_of_session {i : Nat} {t : ClientSession} (he : ∀ l, e ≠ .didUpdateLocations l)
    (h : SessionStep distance p q i t e) (hi : i < p.app.sessions.length) :
    ∃ s, p.app.sessions[i]? = some s ∧
      t.dashboard.clientLocation = s.dashboard.clientLocation := by
  cases h with
  | alike listed same => exact ⟨_, listed, same.location⟩
  | fresh _ _ number _ => omega
  | @moved s ev listed asks step =>
    refine ⟨s, listed, ?_⟩
    have hmove : ClientSession.ClientMove (p.app.lend s) t ev :=
      ClientSession.step_move step rfl asks.ne_elsewhere
    cases hmove with
    | located l _ =>
      cases asks with
      | app _ _ admitted => exact absurd admitted (by simp [admits])
      | told l _ => exact absurd rfl (he l)
    | quiet _ h => exact congrArg Face.location h
    | listed _ _ _ h => exact congrArg Face.location h
    | resumedSheet _ _ _ _ _ _ _ h => exact congrArg Face.location h
    | resumedTrip _ _ _ _ _ _ _ h => exact congrArg Face.location h
    | posted _ _ _ _ h => exact congrArg Face.location h
    | connected _ _ h => exact congrArg Face.location h
    | withdrawn _ _ h => exact congrArg Face.location h
    | told _ _ _ _ h => exact congrArg Face.location h
    | entered _ _ _ h => exact congrArg Face.location h

end Between

/-! ## 3. The invariant -/

structure Informed (x : ClientPhone × Option Nat) : Prop where
  delegated : Delegated x.1
  copy : ∀ i, x.2 = some i → ∃ s, x.1.app.sessions[i]? = some s ∧
    s.dashboard.clientLocation = x.1.lastLocation

namespace Informed

theorem start (device : Device) (onMain : Bool) :
    Informed ({ app := .launch device onMain }, none) where
  delegated := .start device onMain
  copy := by simp

section Step

variable {told : Option Nat} {p q : ClientPhone} {e : ClientPhoneEvent}

/-- A report reaches the dashboard that is the delegate. -/
theorem report {l : CLLocation} (hdelegated : Delegated p) (h : Tells distance p q l) {i : Nat}
    (hi : p.listener = some i) : ∃ s, q.app.sessions[i]? = some s ∧
      s.dashboard.clientLocation = q.lastLocation := by
  have howner := listener_eq_some.mp hi
  obtain ⟨s, hs, hdelegate⟩ := hdelegated.locations i howner
  have hlt : i < p.app.sessions.length := (List.getElem?_eq_some_iff.mp hs).1
  cases h with
  | @dashboard k b owner step after =>
    obtain rfl : k = i := by simpa using owner.symm.trans howner
    obtain ⟨_, s', t, hs', hstep, rfl⟩ := ClientApp.step_inv step
    subst after
    refine ⟨t, by simp [ClientApp.store, List.getElem?_set_self hlt], ?_⟩
    obtain rfl : t = (p.app.lend s').tracingLocation l := ClientSession.step_inv hstep
    unfold ClientSession.tracingLocation
    split
    · rfl
    · rfl
  | sheet owner => exact absurd (owner.symm.trans howner) (by simp)
  | alert owner => exact absurd (owner.symm.trans howner) (by simp)
  | nobody noDashboard _ =>
    have hnone := noDashboard i howner
    simp [ClientApp.react, ClientApp.isOwnEvent, hs, ClientSession.react, ClientApp.lend,
      hdelegate] at hnone

/-- **One step of the phone.** -/
theorem step {x y : ClientPhone × Option Nat} (hx : Informed x)
    (hstep : ((machine distance).withHistory noteReport).Step x e y) : Informed y := by
  obtain ⟨p, told⟩ := x
  obtain ⟨q, told'⟩ := y
  obtain ⟨hpq, hnote⟩ := Machine.withHistory_step.mp hstep
  obtain rfl : told' = noteReport told p e q := hnote
  have hdelegates : DelegateStep p q e := step_delegates hpq
  refine ⟨hx.delegated.step hdelegates, ?_⟩
  intro i hi
  by_cases hreport : ∃ l, e = .didUpdateLocations l
  · obtain ⟨l, rfl⟩ := hreport
    exact report hx.delegated (step_inv hpq) hi
  · have he : ∀ l, e ≠ .didUpdateLocations l := fun l hl => hreport ⟨l, hl⟩
    have htold : told = some i := by
      unfold noteReport at hi
      split at hi
      · exact absurd rfl (he _)
      · exact hi
    obtain ⟨s, hs, hcopy⟩ := hx.copy i htold
    obtain ⟨t, ht⟩ := hdelegates.stays hs
    have hlt : i < p.app.sessions.length := (List.getElem?_eq_some_iff.mp hs).1
    obtain ⟨s', hs', hlocation⟩ := location_of_session he (step_session hpq ht) hlt
    obtain rfl : s = s' := Option.some.inj (hs.symm.trans hs')
    exact ⟨t, ht, by rw [hlocation, hcopy, step_lastLocation he hpq]⟩

/-- A dashboard that was told posts the last report. -/
theorem carries {x y : ClientPhone × Option Nat} (hx : Informed x)
    (hcond : posterIsTold x e = true)
    (hstep : ((machine distance).withHistory noteReport).Step x e y) : CarriesLastReport x y := by
  obtain ⟨hpq, _⟩ := Machine.withHistory_step.mp hstep
  intro i body hbody hstatus
  cases ht : y.1.app.sessions[i]? with
  | none => simp [requestsOf, ht] at hbody
  | some t =>
    have hy : requestsOf y.1 i = t.requests := by simp [requestsOf, ht]
    rw [hy] at hbody
    cases step_session hpq ht with
    | @alike s listed same =>
      have hp : requestsOf x.1 i = s.requests := by simp [requestsOf, listed]
      rw [hp, same.requests, List.drop_length] at hbody
      exact absurd hbody (by simp)
    | fresh _ _ number new => simp [new] at hbody
    | @moved s ev listed asks step =>
      have hp : requestsOf x.1 i = s.requests := by simp [requestsOf, listed]
      rw [hp] at hbody
      have hquiet : t.requests = s.requests → some body.location = x.1.lastLocation := by
        intro hsame
        rw [hsame, List.drop_length] at hbody
        exact absurd hbody (by simp)
      have hmove : ClientSession.ClientMove (x.1.app.lend s) t ev :=
        ClientSession.step_move step rfl asks.ne_elsewhere
      cases hmove with
      | posted posted outcome location _ h =>
        have hrequests : t.requests = s.requests ++ [posted] := congrArg Face.requests h
        rw [hrequests, List.drop_left, List.mem_singleton] at hbody
        subst hbody
        cases asks with
        | app =>
          have hposts : x.1.posts i = true := by
            simpa [posts, listed, ClientApp.lend] using outcome
          have htold : x.2 = some i := by simpa [posterIsTold, hposts] using hcond
          obtain ⟨s', hs', hcopy⟩ := hx.copy i htold
          obtain rfl : s = s' := Option.some.inj (listed.symm.trans hs')
          exact location.symm.trans hcopy
      | withdrawn withdrawn status h =>
        have hrequests : t.requests = s.requests ++ [withdrawn] := congrArg Face.requests h
        rw [hrequests, List.drop_left, List.mem_singleton] at hbody
        subst hbody
        exact absurd (status.symm.trans hstatus) (by decide)
      | quiet _ h => exact hquiet (congrArg Face.requests h)
      | located _ h => exact hquiet (congrArg Face.requests h)
      | listed _ _ _ h => exact hquiet (congrArg Face.requests h)
      | resumedSheet _ _ _ _ _ _ _ h => exact hquiet (congrArg Face.requests h)
      | resumedTrip _ _ _ _ _ _ _ h => exact hquiet (congrArg Face.requests h)
      | connected _ _ h => exact hquiet (congrArg Face.requests h)
      | told _ _ _ _ h => exact hquiet (congrArg Face.requests h)
      | entered _ _ _ h => exact hquiet (congrArg Face.requests h)

end Step

end Informed

/-! ## 4. The law -/

/-- **A request carries the last report.**  From any launch, over any order of reports, requests,
sheets, trips and cancellations whose steps meet the condition: what a step that meets it, too,
posts as `requested` carries the location reported last. -/
theorem requests_carry_last_report (device : Device) (onMain : Bool)
    {x y : ClientPhone × Option Nat} {e : ClientPhoneEvent}
    (hrun : ((machine distance).withHistory noteReport).RunWhere
      (fun x e => posterIsTold x e = true) ({ app := .launch device onMain }, none) x)
    (hcond : posterIsTold x e = true)
    (hstep : ((machine distance).withHistory noteReport).Step x e y) : CarriesLastReport x y := by
  have hI : Informed x :=
    hrun.invariant (Informed.start device onMain) fun _ _ _ hI _ hstep => hI.step hstep
  exact hI.carries hcond hstep

/-- The client asks from the dashboard that was told where it is. -/
theorem requests_carry_last_report_first : ∃ x y : ClientPhone × Option Nat,
    ((requestsOf y.1 0).drop (requestsOf x.1 0).length).length = 1 ∧
    x.1.lastLocation = some ⟨40, -73⟩ ∧ CarriesLastReport x y := by
  obtain ⟨x, y, hrun, hcond, hstep, htest⟩ := Machine.exists_step_of_replay
    ((machine sampleDistance).withHistory noteReport) posterIsTold
    ({ app := .launch ClientSession.sampleDevice false }, none) (requestPhone.take 3)
    (.app (.session 0 .sendRequest))
    (fun x y => ((requestsOf y.1 0).drop (requestsOf x.1 0).length).length == 1 &&
      x.1.lastLocation == some ⟨40, -73⟩) (fun _ _ => id) (by decide +kernel)
  simp only [Bool.and_eq_true, beq_iff_eq] at htest
  exact ⟨x, y, htest.1, htest.2,
    requests_carry_last_report ClientSession.sampleDevice false hrun hcond hstep⟩

/-- Some body that dashboard 0 posts in the step carries another location. -/
def carriesOther (x y : ClientPhone × Option Nat) : Bool :=
  ((requestsOf y.1 0).drop (requestsOf x.1 0).length).any fun body =>
    body.requestStatus == Request_Status.requested && some body.location != x.1.lastLocation

theorem not_carriesLastReport_of_carriesOther {x y : ClientPhone × Option Nat}
    (h : carriesOther x y = true) : ¬CarriesLastReport x y := by
  intro hcarries
  obtain ⟨body, hbody, htest⟩ := List.any_eq_true.mp h
  simp only [Bool.and_eq_true, beq_iff_eq, bne_iff_ne, ne_eq] at htest
  exact htest.2 (hcarries 0 body hbody htest.1)

/-- The client cancels a trip, moves on and asks again: the request says where the sheet was
opened. -/
theorem request_from_old_place : ∃ x y : ClientPhone × Option Nat,
    ((machine sampleDistance).withHistory noteReport).Run
      ({ app := .launch ClientSession.sampleDevice false }, none) x ∧
    (∃ e, ((machine sampleDistance).withHistory noteReport).Step x e y) ∧
    ¬CarriesLastReport x y := by
  obtain ⟨x, y, hrun, _, hstep, htest⟩ := Machine.exists_step_of_replay
    ((machine sampleDistance).withHistory noteReport) (fun _ _ => true)
    ({ app := .launch ClientSession.sampleDevice false }, none)
    (requestPhone ++ acceptPhone ++ [.cancelTrip 0, .didUpdateLocations ⟨41, -73⟩])
    (.app (.session 0 .sendRequest)) carriesOther (fun _ _ _ => trivial) (by decide +kernel)
  exact ⟨x, y, hrun, ⟨_, hstep⟩, not_carriesLastReport_of_carriesOther htest⟩

end ClientPhone

end WeatherAccommodation
