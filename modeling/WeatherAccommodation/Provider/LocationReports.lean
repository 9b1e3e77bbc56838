/-
# A location report while requests come and go

`tracingLocation` of the provider dashboard compares the reported location with that of the client,
which it reads out of `currentRequest`.  Only nil is tested for.  `Decline` and a withdrawal leave
an empty dictionary instead, and out of that nothing can be read.

The history variable is which dashboards are in that state: the last thing they heard of a request
was that it is over.  `RequestsKept` says that `currentRequest` is empty there, and elsewhere nil or
a request with coordinates; `report_is_safe_iff` follows from that alone.
-/
import WeatherAccommodation.Provider.Moves
import WeatherAccommodation.Provider.RequestView

namespace WeatherAccommodation

open Foundation Reactive

/-! ## 1. Coordinates -/

namespace ProviderDashboard

/-- `Double` reads `latitude` and `longitude`. -/
def isLocated (request : Dict) : Bool :=
  ((Dict.string? request "latitude").bind double?).isSome &&
    ((Dict.string? request "longitude").bind double?).isSome

variable {d d' : ProviderDashboard} {distance : CLLocation → CLLocation → ℚ}

theorem isLocated_iff {request : Dict} :
    isLocated request = true ↔ IsNumeral request "latitude" ∧ IsNumeral request "longitude" := by
  simp only [isLocated, Bool.and_eq_true, IsNumeral, Option.isSome_iff_exists,
    Option.bind_eq_some_iff]
  constructor
  · rintro ⟨⟨lat, text, htext, hlat⟩, long, text', htext', hlong⟩
    exact ⟨⟨text, htext, lat, hlat⟩, text', htext', long, hlong⟩
  · rintro ⟨⟨text, htext, lat, hlat⟩, text', htext', long, hlong⟩
    exact ⟨⟨lat, text, htext, hlat⟩, long, text', htext', hlong⟩

/-- **A report is handled exactly if the current request, where there is one, has coordinates.** -/
theorem tracingLocation_isOk_iff {l : CLLocation} :
    (∃ d', d.tracingLocation distance l = .ok d') ↔
      ∀ request, d.currentRequest = some request → isLocated request = true := by
  cases hrequest : d.currentRequest with
  | none => simp [tracingLocation, hrequest]
  | some request =>
    have hclient : (∃ client, ({ d with location := some l }).clientLocation = .ok client) ↔
        isLocated request = true := by
      have hnumber : ∀ key, (∃ q, ({ d with location := some l }).requestNumber key = .ok q) ↔
          IsNumeral request key := by
        intro key
        rw [requestNumber_isOk_iff]
        simp [hrequest]
      rw [isLocated_iff, ← hnumber, ← hnumber]
      simp only [clientLocation, bind_eq_ok, pure_eq_ok]
      constructor
      · rintro ⟨_, lat, hlat, long, hlong, _⟩
        exact ⟨⟨lat, hlat⟩, long, hlong⟩
      · rintro ⟨⟨lat, hlat⟩, long, hlong⟩
        exact ⟨_, lat, hlat, long, hlong, rfl⟩
    simp only [Option.some.injEq, forall_eq']
    rw [← hclient]
    simp only [tracingLocation, hrequest, reduceCtorEq, if_false, bind_eq_ok]
    constructor
    · rintro ⟨_, client, hok, _⟩
      exact ⟨client, hok⟩
    · rintro ⟨client, hok⟩
      by_cases hnear : distance client l ≤ reachedDistance ∧ d.hasProviderReached = false
      · exact ⟨_, client, hok, by rw [if_pos hnear]; rfl⟩
      · exact ⟨_, client, hok, by rw [if_neg hnear]; rfl⟩

end ProviderDashboard

open ProviderDashboard

/-! ## 2. Which requests are over -/

namespace ProviderApp

/-- A request that comes has coordinates. -/
def bringsCoordinates : ProviderEvent → Bool
  | .onMessage _ text _ _ =>
    statusOf text != some Request_Status.requested || (clientData text).all isLocated
  | _ => true

/-- The dashboards that last heard of a request that it is over: declined there, or withdrawn. -/
def noteOver (ended : Nat → Bool) (a : ProviderApp) (e : ProviderEvent) (_ : ProviderApp) :
    Nat → Bool :=
  match e with
  | .btnCancelRequest i => Function.update ended i true
  | .willEnterForeground i =>
    if a.device.appDelegate.showRequestUI ∧
      ((a.dashboards[i]?.bind fun d => clientData d.requestDetail).isSome) then
      Function.update ended i false
    else ended
  | .onMessage socket text state selectedIndex =>
    match a.sockets.delegate with
    | some (.dashboard i) =>
      if a.sockets.providerConnectionSocket ≠ some socket then ended
      else if statusOf text = some Request_Status.requested then
        if Unseen state selectedIndex then ended else Function.update ended i false
      else if statusOf text = some Request_Status.cancelled then Function.update ended i true
      else ended
    | _ => ended
  | _ => ended

variable {distance : CLLocation → CLLocation → ℚ} {a b : ProviderApp} {e : ProviderEvent}
  {ended : Nat → Bool} {i : Nat} {d d' : ProviderDashboard}

theorem statusOf_eq_some {text : Message} {status : String} :
    statusOf text = some status ↔ ∃ request, IsRequest status text request := by
  simp only [statusOf, Option.bind_eq_some_iff, clientData_eq_some, IsRequest]

/-- What a dashboard hears nothing of, and is not declined on, leaves it as it was noted. -/
theorem noteOver_of_quiet (hquiet : ¬Speaks a i e) (hdecline : e ≠ .btnCancelRequest i) :
    noteOver ended a e b i = ended i := by
  cases e with
  | btnCancelRequest j =>
    have hne : i ≠ j := by
      rintro rfl
      exact hdecline rfl
    rw [noteOver, Function.update_of_ne hne]
  | willEnterForeground j =>
    simp only [noteOver]
    split
    · rename_i h
      have hne : i ≠ j := fun heq => hquiet ⟨heq.symm, h.1⟩
      rw [Function.update_of_ne hne]
    · rfl
  | onMessage socket text state selectedIndex =>
    cases hdelegate : a.sockets.delegate with
    | none => simp only [noteOver, hdelegate]
    | some screen =>
      cases screen with
      | dashboard j =>
        simp only [noteOver, hdelegate]
        by_cases hstatus : a.sockets.providerConnectionSocket = some socket
        · have hne : i ≠ j := by
            rintro rfl
            exact hquiet ⟨hdelegate, hstatus⟩
          rw [if_neg (not_not.mpr hstatus)]
          split
          · split
            · rfl
            · rw [Function.update_of_ne hne]
          · split
            · rw [Function.update_of_ne hne]
            · rfl
        · rw [if_pos hstatus]
      | clientDetail j => simp only [noteOver, hdelegate]
      | startTrip k => simp only [noteOver, hdelegate]
  | _ => rfl

/-- The current request of a dashboard, by whether it was noted as over, and the stored one. -/
structure RequestKept (d : ProviderDashboard) (isOver : Bool) : Prop where
  emptied : isOver = true → d.currentRequest = some []
  located : isOver = false → ∀ request, d.currentRequest = some request → isLocated request = true
  stored : ∀ request, IsAbout d.requestDetail request → isLocated request = true

namespace RequestKept

theorem of_same {isOver : Bool} (h : RequestKept d isOver)
    (hcurrent : d'.currentRequest = d.currentRequest)
    (hdetail : d'.requestDetail = d.requestDetail) : RequestKept d' isOver := by
  constructor
  · rw [hcurrent]
    exact h.emptied
  · rw [hcurrent]
    exact h.located
  · rw [hdetail]
    exact h.stored

/-- The request that is shown is the current one. -/
theorem of_shown {isOver : Bool} {text : Message} {request : Dict} (h : RequestKept d isOver)
    (hshown : d.showRequestUI text = .ok d') (habout : IsAbout text request)
    (hlocated : isLocated request = true) : RequestKept d' false := by
  have hsame : d'.currentRequest = some request ∧ d'.requestDetail = d.requestDetail := by
    rcases showRequestUI_inv hshown with ⟨hnone, _⟩ | ⟨other, hother, hcase⟩
    · exact absurd habout (hnone request)
    · obtain rfl := habout.unique hother
      rcases hcase with ⟨_, rfl⟩ | ⟨_, rfl⟩ | ⟨_, rfl⟩
      · exact ⟨rfl, rfl⟩
      · exact ⟨rfl, rfl⟩
      · exact ⟨rfl, rfl⟩
  constructor
  · simp
  · intro _ other hother
    rw [hsame.1] at hother
    obtain rfl := Option.some.inj hother
    exact hlocated
  · rw [hsame.2]
    exact h.stored

/-- A text on the status socket. -/
theorem of_message {socket selectedIndex : Nat} {text : Message} {state : ApplicationState}
    (h : RequestKept d (ended i)) (hdelegate : a.sockets.delegate = some (.dashboard i))
    (hsocket : a.sockets.providerConnectionSocket = some socket)
    (hcoordinates : bringsCoordinates (.onMessage socket text state selectedIndex) = true)
    (hd : d.providerMessage text state selectedIndex = .ok d') :
    RequestKept d' (noteOver ended a (.onMessage socket text state selectedIndex) b i) := by
  have hrequested : ∀ request, IsRequest Request_Status.requested text request →
      isLocated request = true := by
    intro request hrequest
    simpa [bringsCoordinates, statusOf_of_isRequest hrequest, clientData_of_isRequest hrequest]
      using hcoordinates
  simp only [noteOver, hdelegate, hsocket, ne_eq, not_true_eq_false, if_false]
  rcases providerMessage_inv hd with ⟨hother, rfl⟩ | ⟨request, hrequest, hcase⟩ |
    ⟨request, hrequest, rfl⟩ | ⟨request, hrequest, rfl⟩
  · have hnot₁ : statusOf text ≠ some Request_Status.requested := by
      intro hstatus
      obtain ⟨request, hrequest⟩ := statusOf_eq_some.mp hstatus
      exact (hother request _ hrequest).1 rfl
    have hnot₂ : statusOf text ≠ some Request_Status.cancelled := by
      intro hstatus
      obtain ⟨request, hrequest⟩ := statusOf_eq_some.mp hstatus
      exact (hother request _ hrequest).2 rfl
    rw [if_neg hnot₁, if_neg hnot₂]
    exact h
  · rw [if_pos (statusOf_of_isRequest hrequest)]
    rcases hcase with ⟨hunseen, rfl⟩ | ⟨hseen, hshown⟩
    · rw [if_pos hunseen]
      refine ⟨h.emptied, h.located, ?_⟩
      intro other hother
      obtain rfl := hrequest.1.unique hother
      exact hrequested _ hrequest
    · rw [if_neg hseen, Function.update_self]
      exact h.of_shown hshown hrequest.1 (hrequested _ hrequest)
  · have hstatus : statusOf text = some Request_Status.cancelled := statusOf_of_isRequest hrequest
    rw [hstatus, if_neg (by decide), if_pos rfl, Function.update_self]
    exact ⟨fun _ => rfl, by simp, h.stored⟩
  · have hstatus : statusOf text = some Trip_Status.accepted := statusOf_of_isRequest hrequest
    rw [hstatus, if_neg (by decide), if_neg (by decide)]
    exact h.of_same rfl rfl

/-- What a step other than its own `Decline` does to a dashboard. -/
theorem move (h : RequestKept d (ended i)) (hd : a.dashboards[i]? = some d)
    (hcoordinates : bringsCoordinates e = true) (hdecline : e ≠ .btnCancelRequest i)
    (hmove : DashboardMove distance a i d e d') : RequestKept d' (noteOver ended a e b i) := by
  cases hmove with
  | stay quiet =>
    rw [noteOver_of_quiet quiet hdecline]
    exact h
  | appear =>
    refine h.of_same ?_ ?_
    · unfold clearTrip
      split <;> rfl
    · unfold clearTrip
      split <;> rfl
  | foreground flag shown =>
    simp only [noteOver, flag, hd, Option.bind_some, true_and]
    cases hdata : clientData d.requestDetail with
    | none =>
      rcases showRequestUI_inv shown with ⟨_, rfl⟩ | ⟨request, habout, _⟩
      · exact h
      · rw [clientData_eq_some.mpr habout] at hdata
        exact absurd hdata (by simp)
    | some request =>
      have habout := clientData_eq_some.mp hdata
      simp only [Option.isSome_some, if_true, Function.update_self]
      exact h.of_shown shown habout (h.stored request habout)
  | decline => exact absurd rfl hdecline
  | accept _ => exact h.of_same rfl rfl
  | switch _ _ _ => exact h.of_same rfl rfl
  | ring => exact h.of_same rfl rfl
  | directions _ _ _ _ => exact h.of_same rfl rfl
  | location _ told =>
    obtain ⟨_, rfl⟩ := tracingLocation_inv told
    exact h.of_same rfl rfl
  | disconnect _ => exact h.of_same rfl rfl
  | status delegate listens handled => exact h.of_message delegate listens hcoordinates handled
  | request delegate other _ handled =>
    simp only [noteOver, delegate, ne_eq, other, not_false_eq_true, if_true]
    rcases requestMessage_inv handled with rfl | ⟨_, _, rfl⟩
    · exact h
    · exact h.of_same rfl rfl

end RequestKept

/-- The invariant: what is noted as over is a dashboard, and every request is as it was noted. -/
structure RequestsKept (a : ProviderApp) (ended : Nat → Bool) : Prop where
  listed : ∀ i, ended i = true → i < a.dashboards.length
  kept : ∀ i d, a.dashboards[i]? = some d → RequestKept d (ended i)

/-- Who hears a request is a dashboard. -/
theorem lt_length_of_speaks (hstep : (machine distance).Step a e b) (h : Speaks a i e) :
    i < a.dashboards.length := by
  have hof : StepOf distance a b e := step_inv hstep
  cases e with
  | willEnterForeground j =>
    obtain ⟨d, hd, _⟩ := hof
    obtain ⟨rfl, _⟩ := h
    exact (List.getElem?_eq_some_iff.mp hd).1
  | onMessage socket text state selectedIndex =>
    obtain ⟨_, ⟨j, d, hdelegate, hd, _⟩ | ⟨j, sheet, hdelegate, _, _⟩⟩ := hof
    · obtain rfl : i = j := by simpa using h.1.symm.trans hdelegate
      exact (List.getElem?_eq_some_iff.mp hd).1
    · exact absurd (h.1.symm.trans hdelegate) (by simp)
  | _ => exact h.elim

theorem RequestsKept.step (h : RequestsKept a ended) (hcoordinates : bringsCoordinates e = true)
    (hstep : (machine distance).Step a e b) : RequestsKept b (noteOver ended a e b) := by
  have hdashboards := step_dashboards hstep
  constructor
  · intro i hi
    by_contra hout
    have hlt : ¬i < a.dashboards.length := fun hlt => hout (hlt.trans_le hdashboards.length_le)
    have hquiet : ¬Speaks a i e := fun hspeaks => hlt (lt_length_of_speaks hstep hspeaks)
    have hdecline : e ≠ .btnCancelRequest i := by
      rintro rfl
      obtain ⟨d, hd, _⟩ : StepOf distance a b (.btnCancelRequest i) := step_inv hstep
      exact hlt (List.getElem?_eq_some_iff.mp hd).1
    rw [noteOver_of_quiet hquiet hdecline] at hi
    exact hlt (h.listed i hi)
  · intro i d' hd'
    by_cases hdecline : e = .btnCancelRequest i
    · subst hdecline
      obtain ⟨d, hd, _, rfl⟩ : StepOf distance a b (.btnCancelRequest i) := step_inv hstep
      have hi : i < a.dashboards.length := (List.getElem?_eq_some_iff.mp hd).1
      obtain rfl : d' = d.cancelRequest := by simpa [putDashboard, hi] using hd'.symm
      rw [noteOver, Function.update_self]
      exact ⟨fun _ => rfl, by simp, (h.kept i d hd).stored⟩
    · rcases hdashboards.at_index hd' with ⟨d, hd, hmove⟩ | ⟨rfl, hi, trip, rfl⟩
      · exact (h.kept i d hd).move hd hcoordinates hdecline hmove
      · have hfresh : ended i = false := by
          by_contra hnot
          have hlt := h.listed i (by simpa using hnot)
          omega
        refine ⟨?_, by simp, ?_⟩
        · intro hover
          exact absurd (hfresh.symm.trans hover) (by simp)
        · rintro request ⟨_, htext, _⟩
          exact absurd htext (by simp)

/-! ## 3. Reports -/

/-- **When a location report is safe.**  From a launch with any defaults, over every order of
messages whose requests have coordinates, of presses, transitions and reports: the next report
traps exactly if it goes to a dashboard that last heard of a request that it is over, by a `Decline`
or a withdrawal. -/
theorem report_is_safe_iff (defaults : UserDefaults) {x : ProviderApp × (Nat → Bool)}
    (hrun : ((machine distance).withHistory noteOver).RunWhere
      (fun _ e => bringsCoordinates e = true)
      ({ device := { defaults := defaults, appDelegate := {} } }, fun _ => false) x)
    (l : CLLocation) :
    (∀ f, ¬(machine distance).Traps x.1 (.tracingLocation l) f) ↔
      ∀ i, x.1.locationDelegate = some (.dashboard i) → x.2 i = false := by
  have hkept : RequestsKept x.1 x.2 := by
    refine hrun.invariant (I := fun x => RequestsKept x.1 x.2) ⟨by simp, by simp⟩ ?_
    intro x e y hI hcoordinates hstep
    obtain ⟨hxy, hnote⟩ := Machine.withHistory_step.mp hstep
    rw [hnote]
    exact hI.step hcoordinates hxy
  have hreact : ∀ {i d}, x.1.locationDelegate = some (.dashboard i) → x.1.dashboards[i]? = some d →
      ((∀ f, ¬(machine distance).Traps x.1 (.tracingLocation l) f) ↔
        ∃ d', d.tracingLocation distance l = .ok d') := by
    intro i d hdelegate hd
    simp only [Machine.Traps, machine, react, tracingLocation, hdelegate, hd, Option.map_some,
      Option.some.injEq]
    cases d.tracingLocation distance l with
    | ok d' => simp
    | error f => simp [bind, Except.bind]
  constructor
  · intro hsafe i hdelegate
    by_contra hnot
    have hover : x.2 i = true := by simpa using hnot
    have hd := List.getElem?_eq_getElem (hkept.listed i hover)
    have hempty := (hkept.kept i _ hd).emptied hover
    have hlocated := tracingLocation_isOk_iff.mp ((hreact hdelegate hd).mp hsafe) [] hempty
    exact absurd hlocated (by decide +kernel)
  · intro hopen f htraps
    have htraps' : react distance x.1 (.tracingLocation l) = some (.error f) := htraps
    simp only [react, tracingLocation] at htraps'
    split at htraps'
    · rename_i i hdelegate
      obtain ⟨d, hd, _⟩ := Option.map_eq_some_iff.mp htraps'
      have hok : ∃ d', d.tracingLocation distance l = .ok d' :=
        tracingLocation_isOk_iff.mpr ((hkept.kept i d hd).located (hopen i hdelegate))
      exact (hreact hdelegate hd).mpr hok f htraps
    · obtain ⟨sheet, _, hsheet⟩ := Option.map_eq_some_iff.mp htraps'
      exact absurd hsheet (by simp [pure, Except.pure])
    · exact absurd htraps' (by simp)

/-- A request is shown while the provider drives. -/
theorem report_is_safe_shown : ∃ x : ProviderApp × (Nat → Bool),
    x.1.locationDelegate = some (.dashboard 0) ∧
      ∀ l f, ¬(machine fun _ _ => 0).Traps x.1 (.tracingLocation l) f := by
  obtain ⟨x, hrun, htest⟩ := Machine.exists_run_of_replay
    ((machine fun _ _ => 0).withHistory noteOver) (fun _ e => bringsCoordinates e)
    ({ device := sampleProvider 16 }, fun _ => false)
    (onlineEvents ++ [.onMessage 0 (requestText 24 "requested") .active 0])
    (fun x => x.1.locationDelegate == some (.dashboard 0) && !x.2 0) (fun _ _ => id)
    (by decide +kernel)
  simp only [Bool.and_eq_true, beq_iff_eq, Bool.not_eq_true'] at htest
  refine ⟨x, htest.1, fun l => (report_is_safe_iff (sampleProvider 16).defaults hrun l).mpr ?_⟩
  intro i hi
  obtain rfl : i = 0 := by simpa using hi.symm.trans htest.1
  exact htest.2

/-- The next report has no latitude to read. -/
def stopsAtReport (a : ProviderApp) : Bool :=
  match react (fun _ _ => 0) a (.tracingLocation ⟨40, -73⟩) with
  | some (.error f) => f == .missingKey "latitude"
  | _ => false

/-- **The provider declines a request, and moves.** -/
theorem report_after_decline : ∃ x : ProviderApp × (Nat → Bool),
    ((machine fun _ _ => 0).withHistory noteOver).RunWhere
      (fun _ e => bringsCoordinates e = true) ({ device := sampleProvider 16 }, fun _ => false) x ∧
      (machine fun _ _ => 0).Traps x.1 (.tracingLocation ⟨40, -73⟩) (.missingKey "latitude") := by
  obtain ⟨x, hrun, htest⟩ := Machine.exists_run_of_replay
    ((machine fun _ _ => 0).withHistory noteOver) (fun _ e => bringsCoordinates e)
    ({ device := sampleProvider 16 }, fun _ => false)
    (onlineEvents ++ [.onMessage 0 (requestText 24 "requested") .active 0, .btnCancelRequest 0])
    (fun x => stopsAtReport x.1) (fun _ _ => id) (by decide +kernel)
  refine ⟨x, hrun, ?_⟩
  unfold stopsAtReport at htest
  split at htest
  · rename_i f hreact
    rw [beq_iff_eq] at htest
    rw [← htest]
    exact hreact
  · exact absurd htest (by simp)

end ProviderApp

end WeatherAccommodation
