/-
# What comes on screen, and what takes it away

The details of one request at a time are in the request view of a dashboard.  `ViewMove` says what
a step can do to the view: five things, each of a few events only.  Two laws follow.

* A request is taken off screen for a reason of its own (`hidden_for_own_reasons`), provided that
  the messages that take it away are about its client; `onMessage` does not look.
* A withdrawn request stays away (`withdrawn_stays_away`), provided that the app does not come to
  the foreground with its text still stored; nothing ever clears it.
-/
import WeatherAccommodation.Provider.Steps

namespace WeatherAccommodation

open Foundation Reactive

/-! ## 1. Reading a message -/

namespace ProviderDashboard

/-- The request whose details are on screen. -/
def shown (d : ProviderDashboard) : Option Dict :=
  if d.requestViewIsHidden then none else d.lblDistance

theorem shown_eq_some {d : ProviderDashboard} {request : Dict} :
    d.shown = some request ↔ d.requestViewIsHidden = false ∧ d.lblDistance = some request := by
  unfold shown
  cases d.requestViewIsHidden with
  | false => simp
  | true => simp

/-- The `ClientData` of a text. -/
def clientData : Message → Option Dict
  | some (.obj dict) => Dict.dict? dict "ClientData"
  | _ => none

theorem clientData_eq_some {text : Message} {request : Dict} :
    clientData text = some request ↔ IsAbout text request := by
  constructor
  · intro h
    unfold clientData at h
    split at h
    · rename_i dict
      exact ⟨dict, rfl, h⟩
    · exact absurd h (by simp)
  · rintro ⟨dict, rfl, h⟩
    exact h

/-- Whose request it is. -/
def clientOf (request : Dict) : Option Json := Dict.get? request "ClientId"

/-- The status that a text gives. -/
def statusOf (text : Message) : Option String :=
  (clientData text).bind fun request => Dict.string? request "RequestStatus"

theorem statusOf_of_isRequest {status : String} {text : Message} {request : Dict}
    (h : IsRequest status text request) : statusOf text = some status := by
  simp [statusOf, clientData_eq_some.mpr h.1, h.2]

theorem clientData_of_isRequest {status : String} {text : Message} {request : Dict}
    (h : IsRequest status text request) : clientData text = some request :=
  clientData_eq_some.mpr h.1

end ProviderDashboard

open ProviderDashboard

/-! ## 2. What a step does to a view -/

namespace ProviderApp

variable {distance : CLLocation → CLLocation → ℚ} {a b : ProviderApp}

/-- The dashboard with number `i` gets a text on the status socket. -/
def Hears (a : ProviderApp) (i : Nat) (text : Message) (e : ProviderEvent) : Prop :=
  ∃ socket state selectedIndex, e = .onMessage socket text state selectedIndex ∧
    a.sockets.delegate = some (.dashboard i) ∧ a.sockets.providerConnectionSocket = some socket

/-- A text that takes the details off screen: somebody's withdrawal, or an acceptance by another
provider. -/
def IsEnd (text : Message) (request : Dict) : Prop :=
  IsRequest Request_Status.cancelled text request ∨ IsRequest Trip_Status.accepted text request

/-- The two buttons on the details, and the end of the ring. -/
def IsOwnEvent (i : Nat) (e : ProviderEvent) : Prop :=
  e = .btnAcceptRequest i ∨ e = .btnCancelRequest i ∨ e = .timerViewFinished i

/-- Neither the view nor the stored text changes. -/
structure SameView (d d' : ProviderDashboard) : Prop where
  hidden : d'.requestViewIsHidden = d.requestViewIsHidden
  distance : d'.lblDistance = d.lblDistance
  detail : d'.requestDetail = d.requestDetail

/-- What the event `e` does to the view of the dashboard with number `i`. -/
inductive ViewMove (a : ProviderApp) (i : Nat) (e : ProviderEvent) (d d' : ProviderDashboard) :
    Prop where
  | same (h : SameView d d')
  | pressed (h : IsOwnEvent i e) (hhidden : d'.requestViewIsHidden = true)
      (hdetail : d'.requestDetail = d.requestDetail)
  | ended {text : Message} {request : Dict} (h : Hears a i text e) (hend : IsEnd text request)
      (hhidden : d'.requestViewIsHidden = true) (hdetail : d'.requestDetail = d.requestDetail)
  | stored {text : Message} {request : Dict} (h : Hears a i text e)
      (hrequest : IsRequest Request_Status.requested text request)
      (hview : d'.requestViewIsHidden = d.requestViewIsHidden)
      (hdistance : d'.lblDistance = d.lblDistance) (hdetail : d'.requestDetail = text)
  | came {text : Message} {request : Dict} (h : Hears a i text e)
      (hrequest : IsRequest Request_Status.requested text request)
      (hwas : d.requestViewIsHidden = true) (hshown : d'.shown = some request)
      (hdetail : d'.requestDetail = d.requestDetail)
  | recalled {request : Dict} (h : e = .willEnterForeground i)
      (hflag : a.device.appDelegate.showRequestUI = true)
      (hrequest : IsAbout d.requestDetail request)
      (hwas : d.requestViewIsHidden = true) (hshown : d'.shown = some request)
      (hdetail : d'.requestDetail = d.requestDetail)
  | dropped {request : Dict} (h : e = .willEnterForeground i)
      (hrequest : IsRequest Request_Status.cancelled d.requestDetail request)
      (hhidden : d'.requestViewIsHidden = true) (hdetail : d'.requestDetail = d.requestDetail)

namespace ViewMove

variable {i : Nat} {e : ProviderEvent} {d d' : ProviderDashboard}

theorem refl : ViewMove a i e d d := .same ⟨rfl, rfl, rfl⟩

theorem of_message {text : Message} {state : ApplicationState} {selectedIndex : Nat}
    (h : Hears a i text e) (hd : d.providerMessage text state selectedIndex = .ok d') :
    ViewMove a i e d d' := by
  rcases providerMessage_inv hd with ⟨_, rfl⟩ | ⟨request, hrequest, hcase⟩ |
    ⟨request, hrequest, rfl⟩ | ⟨request, hrequest, rfl⟩
  · exact refl
  · rcases hcase with ⟨_, rfl⟩ | ⟨_, hshow⟩
    · exact .stored h hrequest rfl rfl rfl
    · rcases showRequestUI_inv hshow with ⟨hnone, _⟩ | ⟨other, habout, hcase⟩
      · exact absurd hrequest.1 (hnone request)
      · obtain rfl := hrequest.1.unique habout
        rcases hcase with ⟨hcancelled, _⟩ | ⟨hhidden, rfl⟩ | ⟨_, rfl⟩
        · rw [hrequest.2] at hcancelled
          exact absurd hcancelled (by decide)
        · exact .came h hrequest hhidden (by simp [shown, display]) rfl
        · exact .same ⟨rfl, rfl, rfl⟩
  · exact .ended h (Or.inl hrequest) rfl rfl
  · exact .ended h (Or.inr hrequest) rfl rfl

/-- The app comes to the foreground after a notification was tapped. -/
theorem of_foreground (h : e = .willEnterForeground i)
    (hflag : a.device.appDelegate.showRequestUI = true)
    (hd : d.showRequestUI d.requestDetail = .ok d') : ViewMove a i e d d' := by
  rcases showRequestUI_inv hd with ⟨_, rfl⟩ | ⟨request, habout, hcase⟩
  · exact refl
  · rcases hcase with ⟨hcancelled, rfl⟩ | ⟨hhidden, rfl⟩ | ⟨_, rfl⟩
    · exact .dropped h ⟨habout, hcancelled⟩ rfl rfl
    · exact .recalled h hflag habout hhidden (by simp [shown, display]) rfl
    · exact .same ⟨rfl, rfl, rfl⟩

end ViewMove

/-- What the event does to the dashboards: nothing, or something to one of them, or one more. -/
inductive DashboardsMove (a b : ProviderApp) (e : ProviderEvent) : Prop where
  | none (h : b.dashboards = a.dashboards)
  | one {j : Nat} {d₀ d₁ : ProviderDashboard} (h₀ : a.dashboards[j]? = some d₀)
      (h : b.dashboards = a.dashboards.set j d₁) (hmove : ViewMove a j e d₀ d₁)
  | more {d : ProviderDashboard} (h : b.dashboards = a.dashboards ++ [d])
      (hhidden : d.requestViewIsHidden = true) (hdetail : d.requestDetail = Option.none)

namespace DashboardsMove

variable {e : ProviderEvent}

/-- A dashboard changes, but not its view. -/
theorem quiet {j : Nat} {d₀ d₁ : ProviderDashboard} (h₀ : a.dashboards[j]? = some d₀)
    (h : b.dashboards = a.dashboards.set j d₁) (hsame : SameView d₀ d₁) : DashboardsMove a b e :=
  .one h₀ h (.same hsame)

/-- What became of one dashboard. -/
theorem at_index (h : DashboardsMove a b e) {i : Nat} {d' : ProviderDashboard}
    (hd' : b.dashboards[i]? = some d') :
    (∃ d, a.dashboards[i]? = some d ∧ ViewMove a i e d d') ∨
      (a.dashboards[i]? = Option.none ∧ d'.requestViewIsHidden = true ∧
        d'.requestDetail = Option.none) := by
  cases h with
  | none h =>
    rw [h] at hd'
    exact Or.inl ⟨d', hd', .refl⟩
  | @one j d₀ d₁ h₀ h hmove =>
    rw [h, List.getElem?_set] at hd'
    split at hd'
    · rename_i hji
      subst hji
      split at hd'
      · obtain rfl := Option.some.inj hd'
        exact Or.inl ⟨d₀, h₀, hmove⟩
      · exact absurd hd' (by simp)
    · exact Or.inl ⟨d', hd', .refl⟩
  | more h hhidden hdetail =>
    rw [h, List.getElem?_append] at hd'
    split at hd'
    · exact Or.inl ⟨d', hd', .refl⟩
    · rename_i hge
      obtain rfl := List.mem_singleton.mp (List.mem_of_getElem? hd')
      exact Or.inr ⟨List.getElem?_eq_none (by omega), hhidden, hdetail⟩

end DashboardsMove

/-- **Of all steps, only these move a view.** -/
theorem step_view {e : ProviderEvent} (h : (machine distance).Step a e b) :
    DashboardsMove a b e := by
  have hof : StepOf distance a b e := step_inv h
  cases e with
  | viewDidLoad =>
    rcases viewDidLoad_inv hof with rfl | ⟨trip, clientId, _, _, _, rfl⟩
    · exact .more rfl rfl rfl
    · exact .more rfl rfl rfl
  | viewWillAppear j =>
    obtain ⟨d₀, h₀, rfl⟩ := hof
    refine .quiet h₀ rfl ?_
    unfold clearTrip
    split
    · exact ⟨rfl, rfl, rfl⟩
    · exact ⟨rfl, rfl, rfl⟩
  | willEnterForeground j =>
    obtain ⟨d₀, h₀, hfore⟩ := hof
    unfold willEnterForeground at hfore
    split at hfore
    · rename_i hflag
      simp only [bind_eq_ok, pure_eq_ok] at hfore
      obtain ⟨d₁, hshow, rfl⟩ := hfore
      exact .one h₀ rfl (.of_foreground rfl hflag hshow)
    · rw [pure_eq_ok] at hfore
      exact .none (by rw [hfore])
  | btnCancelRequest j =>
    obtain ⟨d₀, h₀, _, rfl⟩ := hof
    exact .one h₀ rfl (.pressed (Or.inr (Or.inl rfl)) rfl rfl)
  | btnAcceptRequest j =>
    obtain ⟨d₀, h₀, _, haccept⟩ := hof
    obtain ⟨_, clientId, _, _, rfl⟩ := btnAcceptRequest_inv haccept
    exact .one h₀ rfl (.pressed (Or.inl rfl) rfl rfl)
  | switchValueChanged j isOn =>
    obtain ⟨d₀, h₀, hswitch⟩ := hof
    rcases switchValueChanged_inv hswitch with ⟨valid, rfl⟩ | ⟨providerId, rfl⟩
    · exact .quiet h₀ rfl ⟨rfl, rfl, rfl⟩
    · exact .quiet h₀ rfl ⟨rfl, rfl, rfl⟩
  | timerViewFinished j =>
    obtain ⟨d₀, h₀, rfl⟩ := hof
    exact .one h₀ rfl (.pressed (Or.inr (Or.inr rfl)) rfl rfl)
  | directionsReply j call success =>
    obtain ⟨d₀, h₀, _, hreply⟩ := hof
    rcases directionsReply_inv hreply with ⟨_, rfl⟩ | ⟨_, _, _, _, _, rfl⟩
    · exact .quiet h₀ rfl ⟨rfl, rfl, rfl⟩
    · exact .quiet h₀ rfl ⟨rfl, rfl, rfl⟩
  | tracingLocation l =>
    rcases hof with ⟨j, d₀, d₁, _, h₀, htrace, rfl⟩ | ⟨j, sheet, _, rfl⟩
    · obtain ⟨_, rfl⟩ := tracingLocation_inv htrace
      exact .quiet h₀ rfl ⟨rfl, rfl, rfl⟩
    · exact .none rfl
  | onDisconnect code =>
    obtain ⟨j, d₀, _, h₀, hdisconnect⟩ := hof
    rcases dashboardDisconnect_inv hdisconnect with rfl | ⟨_, rfl⟩ | rfl
    · exact .none rfl
    · exact .none rfl
    · exact .quiet h₀ rfl ⟨rfl, rfl, rfl⟩
  | onMessage socket text state selectedIndex =>
    obtain ⟨_, ⟨j, d₀, hdelegate, h₀, hmessage⟩ | ⟨j, sheet, _, _, hsheet⟩⟩ := hof
    · rcases dashboardMessage_inv hmessage with ⟨hstatus, d₁, hd₁, rfl⟩ | ⟨_, d₁, hd₁, rfl⟩ | rfl
      · exact .one h₀ rfl
          (.of_message ⟨socket, state, selectedIndex, rfl, hdelegate, hstatus⟩ hd₁)
      · rcases requestMessage_inv hd₁ with rfl | ⟨_, _, rfl⟩
        · exact .quiet h₀ rfl ⟨rfl, rfl, rfl⟩
        · exact .quiet h₀ rfl ⟨rfl, rfl, rfl⟩
      · exact .none rfl
    · rcases sheetMessage_inv hsheet with rfl | rfl | rfl
      · exact .none rfl
      · exact .none rfl
      · exact .none rfl
  | _ => exact .none ((step_spares h).dashboards.resolve_left (by simp [touches]))

/-- Only requests are stored for later. -/
def StoresRequests (a : ProviderApp) : Prop :=
  ∀ (i : Nat) (d : ProviderDashboard) (request : Dict), a.dashboards[i]? = some d →
    IsAbout d.requestDetail request →
    Dict.string? request "RequestStatus" = some Request_Status.requested

theorem StoresRequests.step {e : ProviderEvent} (ha : StoresRequests a)
    (h : (machine distance).Step a e b) : StoresRequests b := by
  intro i d' request hd' habout
  rcases (step_view h).at_index hd' with ⟨d, hd, hmove⟩ | ⟨_, _, hnone⟩
  · have hkept : d'.requestDetail = d.requestDetail →
        Dict.string? request "RequestStatus" = some Request_Status.requested := by
      intro heq
      rw [heq] at habout
      exact ha i d request hd habout
    cases hmove with
    | same h => exact hkept h.detail
    | pressed _ _ hdetail => exact hkept hdetail
    | ended _ _ _ hdetail => exact hkept hdetail
    | came _ _ _ _ hdetail => exact hkept hdetail
    | recalled _ _ _ _ _ hdetail => exact hkept hdetail
    | dropped _ _ _ hdetail => exact hkept hdetail
    | stored _ hrequest _ _ hdetail =>
      rw [hdetail] at habout
      obtain rfl := hrequest.1.unique habout
      exact hrequest.2
  · rw [hnone] at habout
    obtain ⟨_, htext, _⟩ := habout
    exact absurd htext (by simp)

/-! ## 3. What takes a request away -/

/-- The details of `request` went off screen, at the event `event`. -/
structure TakenAway where
  dashboard : Nat
  request : Dict
  event : ProviderEvent

/-- Whatever was in a view before the step and is not after it. -/
def takenAway (a : ProviderApp) (e : ProviderEvent) (b : ProviderApp) : List TakenAway :=
  (List.range a.dashboards.length).filterMap fun i =>
    match a.dashboards[i]?.bind shown, b.dashboards[i]? with
    | some request, some d' => if d'.requestViewIsHidden then some ⟨i, request, e⟩ else none
    | _, _ => none

theorem mem_takenAway {e : ProviderEvent} {t : TakenAway} (h : t ∈ takenAway a e b) :
    t.event = e ∧ ∃ d d', a.dashboards[t.dashboard]? = some d ∧ d.shown = some t.request ∧
      b.dashboards[t.dashboard]? = some d' ∧ d'.requestViewIsHidden = true := by
  obtain ⟨i, _, hi⟩ := List.mem_filterMap.mp h
  split at hi
  · rename_i request d' hshown hd'
    split at hi
    · rename_i hhidden
      obtain ⟨d, hd, hrequest⟩ := Option.bind_eq_some_iff.mp hshown
      obtain rfl := Option.some.inj hi
      exact ⟨rfl, d, d', hd, hrequest, hd', hhidden⟩
    · exact absurd hi (by simp)
  · exact absurd hi (by simp)

/-- The history variable. -/
def noteTakenAway (log : List TakenAway) (a : ProviderApp) (e : ProviderEvent) (b : ProviderApp) :
    List TakenAway := log ++ takenAway a e b

/-- A button, the end of the ring, or a message about the same client. -/
def HasOwnReason (t : TakenAway) : Prop :=
  IsOwnEvent t.dashboard t.event ∨ ∃ socket text state selectedIndex request c,
    t.event = .onMessage socket text state selectedIndex ∧ IsEnd text request ∧
    clientOf request = some c ∧ clientOf t.request = some c

/-- `IsEnd`, as a test. -/
def isEnd (text : Message) : Bool :=
  statusOf text == some Request_Status.cancelled || statusOf text == some Trip_Status.accepted

/-- The text is about the client of `request`. -/
def isAboutClientOf (request : Dict) (text : Message) : Bool :=
  (clientData text).any fun other =>
    (clientOf other).isSome && clientOf other == clientOf request

/-- The condition on a step: a message on the status socket that would take details off screen is
about the client whose details are on screen. -/
def isAboutShown (a : ProviderApp) : ProviderEvent → Bool
  | .onMessage socket text _ _ =>
    match a.sockets.delegate with
    | some (.dashboard i) =>
      a.sockets.providerConnectionSocket != some socket || !isEnd text ||
        (a.dashboards[i]?.bind shown).all fun request => isAboutClientOf request text
    | _ => true
  | _ => true

/-- What takes a request away in a step that meets the condition. -/
theorem HasOwnReason.of_step {e : ProviderEvent} {t : TakenAway} (ha : StoresRequests a)
    (hcond : isAboutShown a e = true) (hstep : (machine distance).Step a e b)
    (ht : t ∈ takenAway a e b) : HasOwnReason t := by
  obtain ⟨rfl, d, d', hd, hshown, hd', hhidden⟩ := mem_takenAway ht
  obtain ⟨hwas, _⟩ := shown_eq_some.mp hshown
  rcases (step_view hstep).at_index hd' with ⟨d₀, hd₀, hmove⟩ | ⟨hnone, _, _⟩
  · obtain rfl : d = d₀ := Option.some.inj (hd.symm.trans hd₀)
    cases hmove with
    | same h =>
      rw [h.hidden, hwas] at hhidden
      exact absurd hhidden (by simp)
    | pressed h _ _ => exact Or.inl h
    | @ended text request h hend _ _ =>
      obtain ⟨socket, state, selectedIndex, hevent, hdelegate, hsocket⟩ := h
      have htext : isEnd text = true := by
        rcases hend with hend | hend
        · simp [isEnd, statusOf_of_isRequest hend]
        · simp [isEnd, statusOf_of_isRequest hend]
      have hdata : clientData text = some request := by
        rcases hend with hend | hend
        · exact clientData_of_isRequest hend
        · exact clientData_of_isRequest hend
      simp only [isAboutShown, hevent, hdelegate, hsocket, bne_self_eq_false, Bool.false_or, htext,
        Bool.not_true, hd, Option.bind_some, hshown, Option.all_some, isAboutClientOf, hdata,
        Option.any_some, Bool.and_eq_true, beq_iff_eq] at hcond
      obtain ⟨hsome, hsame⟩ := hcond
      obtain ⟨c, hc⟩ := Option.isSome_iff_exists.mp hsome
      exact Or.inr ⟨socket, text, state, selectedIndex, request, c, hevent, hend, hc, hsame ▸ hc⟩
    | stored _ _ hview _ _ =>
      rw [hview, hwas] at hhidden
      exact absurd hhidden (by simp)
    | came _ _ hwas' _ _ =>
      rw [hwas] at hwas'
      exact absurd hwas' (by simp)
    | recalled _ _ _ hwas' _ _ =>
      rw [hwas] at hwas'
      exact absurd hwas' (by simp)
    | dropped _ hrequest _ _ =>
      have hstored := ha _ d _ hd hrequest.1
      rw [hrequest.2] at hstored
      exact absurd hstored (by decide)
  · rw [hd] at hnone
    exact absurd hnone (by simp)

/-- **A displayed request is withdrawn only for its own reasons.**  From a launch with any
defaults, over every order of messages, presses, rings and transitions whose messages on the
status socket end no details but those of their own client. -/
theorem hidden_for_own_reasons (defaults : UserDefaults) {x : ProviderApp × List TakenAway}
    (hrun : ((machine distance).withHistory noteTakenAway).RunWhere
      (fun x e => isAboutShown x.1 e = true)
      ({ device := { defaults := defaults, appDelegate := {} } }, []) x) :
    ∀ t ∈ x.2, HasOwnReason t := by
  have hI : StoresRequests x.1 ∧ ∀ t ∈ x.2, HasOwnReason t := by
    refine hrun.invariant (I := fun x => StoresRequests x.1 ∧ ∀ t ∈ x.2, HasOwnReason t) ?_ ?_
    · exact ⟨by simp [StoresRequests], by simp⟩
    · intro x e y hI hcond hstep
      obtain ⟨hxy, hlog⟩ := Machine.withHistory_step.mp hstep
      refine ⟨hI.1.step hxy, ?_⟩
      intro t ht
      rw [hlog, noteTakenAway, List.mem_append] at ht
      rcases ht with ht | ht
      · exact hI.2 t ht
      · exact HasOwnReason.of_step hI.1 hcond hxy ht
  exact hI.2

/-- Client 24 withdraws its request from the screen; that of client 25 is declined. -/
theorem hidden_for_own_reasons_twice : ∃ x : ProviderApp × List TakenAway,
    x.2.length = 2 ∧ ∀ t ∈ x.2, HasOwnReason t := by
  obtain ⟨x, hrun, htest⟩ := Machine.exists_run_of_replay
    ((machine fun _ _ => 0).withHistory noteTakenAway) (fun x e => isAboutShown x.1 e)
    ({ device := sampleProvider 16 }, [])
    (onlineEvents ++ [.onMessage 0 (requestText 24 "requested") .active 0,
      .onMessage 0 (requestText 24 "cancelled") .active 0,
      .onMessage 0 (requestText 25 "requested") .active 0, .btnCancelRequest 0])
    (fun x => x.2.length == 2) (fun _ _ => id) (by decide +kernel)
  exact ⟨x, by simpa using htest, hidden_for_own_reasons (sampleProvider 16).defaults hrun⟩

/-- The entry has no reason of its own. -/
def isForeign (t : TakenAway) : Bool :=
  match t.event with
  | .onMessage _ text _ _ => !isAboutClientOf t.request text
  | _ => false

theorem not_hasOwnReason_of_isForeign {t : TakenAway} (h : isForeign t = true) :
    ¬HasOwnReason t := by
  rintro (hown | ⟨socket, text, state, selectedIndex, request, c, hevent, hend, hc, hc'⟩)
  · rcases hown with hevent | hevent | hevent
    · exact absurd h (by simp [isForeign, hevent])
    · exact absurd h (by simp [isForeign, hevent])
    · exact absurd h (by simp [isForeign, hevent])
  · have hdata : clientData text = some request := by
      rcases hend with hend | hend
      · exact clientData_of_isRequest hend
      · exact clientData_of_isRequest hend
    exact absurd h (by simp [isForeign, hevent, isAboutClientOf, hdata, hc, hc'])

/-- The details of client 24 are on screen; client 25, whose request was not shown, withdraws it. -/
theorem hidden_for_another : ∃ x : ProviderApp × List TakenAway,
    ((machine fun _ _ => 0).withHistory noteTakenAway).Run ({ device := sampleProvider 16 }, []) x ∧
      ∃ t ∈ x.2, ¬HasOwnReason t := by
  obtain ⟨x, hrun, htest⟩ := Machine.exists_run_of_replay
    ((machine fun _ _ => 0).withHistory noteTakenAway) (fun _ _ => true)
    ({ device := sampleProvider 16 }, [])
    (onlineEvents ++ [.onMessage 0 (requestText 24 "requested") .active 0,
      .onMessage 0 (requestText 25 "requested") .active 0,
      .onMessage 0 (requestText 25 "cancelled") .active 0])
    (fun x => x.2.any isForeign) (fun _ _ _ => trivial) (by decide +kernel)
  obtain ⟨t, ht, hforeign⟩ := List.any_eq_true.mp htest
  exact ⟨x, hrun, t, ht, not_hasOwnReason_of_isForeign hforeign⟩

/-! ## 4. What brings a request back -/

/-- Who withdrew, and who came back. -/
structure ShowHistory where
  /-- The clients whose withdrawal a dashboard has processed, until they request again. -/
  withdrawn : Nat → List Json := fun _ => []
  /-- The requests that came on screen while their client was withdrawn. -/
  back : List (Nat × Json) := []

namespace ShowHistory

/-- A request that arrives is new for every dashboard; a withdrawal counts where it is handled. -/
def hear (h : ShowHistory) (a : ProviderApp) : ProviderEvent → ShowHistory
  | .onMessage socket text _ _ =>
    match (clientData text).bind clientOf with
    | none => h
    | some c =>
      if a.sockets.providerConnectionSocket ≠ some socket then h
      else if statusOf text = some Request_Status.requested then
        { h with withdrawn := fun i => (h.withdrawn i).filter (· ≠ c) }
      else if statusOf text = some Request_Status.cancelled then
        match a.sockets.delegate with
        | some (.dashboard i) =>
          { h with withdrawn := Function.update h.withdrawn i (c :: h.withdrawn i) }
        | _ => h
      else h
  | _ => h

/-- The requests came on screen. -/
def see (h : ShowHistory) (shown : List (Nat × Dict)) : ShowHistory :=
  { h with back := h.back ++ shown.filterMap fun (i, request) =>
    (clientOf request).bind fun c => if c ∈ h.withdrawn i then some (i, c) else none }

end ShowHistory

/-- Whatever is in a view after the step and was not before it. -/
def cameOnScreen (a b : ProviderApp) : List (Nat × Dict) :=
  (List.range b.dashboards.length).filterMap fun i =>
    match a.dashboards[i]?.bind shown, b.dashboards[i]?.bind shown with
    | none, some request => some (i, request)
    | _, _ => none

theorem mem_cameOnScreen {i : Nat} {request : Dict} (h : (i, request) ∈ cameOnScreen a b) :
    a.dashboards[i]?.bind shown = none ∧
      ∃ d', b.dashboards[i]? = some d' ∧ d'.shown = some request := by
  obtain ⟨k, _, hk⟩ := List.mem_filterMap.mp h
  split at hk
  · rename_i request' hbefore hafter
    obtain ⟨rfl, rfl⟩ : k = i ∧ request' = request := by simpa using hk
    exact ⟨hbefore, Option.bind_eq_some_iff.mp hafter⟩
  · exact absurd hk (by simp)

/-- The history variable. -/
def noteShown (h : ShowHistory) (a : ProviderApp) (e : ProviderEvent) (b : ProviderApp) :
    ShowHistory := (h.hear a e).see (cameOnScreen a b)

/-- The condition on a step: the app does not come to the foreground, after a notification was
tapped and with nothing on screen, while the text that is stored is that of a withdrawn client. -/
def isWanted (x : ProviderApp × ShowHistory) : ProviderEvent → Bool
  | .willEnterForeground i =>
    !x.1.device.appDelegate.showRequestUI || x.1.dashboards[i]?.all fun d =>
      !d.requestViewIsHidden || ((clientData d.requestDetail).bind clientOf).all fun c =>
        decide (c ∉ x.2.withdrawn i)
  | _ => true

/-- A client that requests is not withdrawn. -/
theorem not_withdrawn_of_requested {h : ShowHistory} {i : Nat} {e : ProviderEvent} {text : Message}
    {request : Dict} {c : Json} (hears : Hears a i text e)
    (hrequest : IsRequest Request_Status.requested text request) (hc : clientOf request = some c) :
    c ∉ (h.hear a e).withdrawn i := by
  obtain ⟨socket, state, selectedIndex, rfl, _, hsocket⟩ := hears
  simp [ShowHistory.hear, clientData_of_isRequest hrequest, hc, hsocket,
    statusOf_of_isRequest hrequest]

/-- What comes on screen in a step that meets the condition. -/
theorem not_withdrawn_of_step {h : ShowHistory} {e : ProviderEvent} {i : Nat} {request : Dict}
    {c : Json} (hcond : isWanted (a, h) e = true) (hstep : (machine distance).Step a e b)
    (hcame : (i, request) ∈ cameOnScreen a b) (hc : clientOf request = some c) :
    c ∉ (h.hear a e).withdrawn i := by
  obtain ⟨hbefore, d', hd', hshown⟩ := mem_cameOnScreen hcame
  obtain ⟨hvisible, hdistance⟩ := shown_eq_some.mp hshown
  rcases (step_view hstep).at_index hd' with ⟨d, hd, hmove⟩ | ⟨_, hhidden, _⟩
  · rw [hd, Option.bind_some] at hbefore
    cases hmove with
    | same hsame =>
      rw [hsame.hidden] at hvisible
      rw [hsame.distance] at hdistance
      rw [shown_eq_some.mpr ⟨hvisible, hdistance⟩] at hbefore
      exact absurd hbefore (by simp)
    | pressed _ hhidden _ => exact absurd (hvisible.symm.trans hhidden) (by simp)
    | ended _ _ hhidden _ => exact absurd (hvisible.symm.trans hhidden) (by simp)
    | stored _ _ hview hsame _ =>
      rw [hview] at hvisible
      rw [hsame] at hdistance
      rw [shown_eq_some.mpr ⟨hvisible, hdistance⟩] at hbefore
      exact absurd hbefore (by simp)
    | came hears hrequest _ hnow _ =>
      obtain rfl := Option.some.inj (hnow.symm.trans hshown)
      exact not_withdrawn_of_requested hears hrequest hc
    | recalled hevent hflag habout hwas hnow _ =>
      obtain rfl := Option.some.inj (hnow.symm.trans hshown)
      subst hevent
      have hdata := clientData_eq_some.mpr habout
      have hkept : c ∉ h.withdrawn i := by
        simpa [isWanted, hflag, hd, hwas, hdata, hc] using hcond
      exact hkept
    | dropped _ _ hhidden _ => exact absurd (hvisible.symm.trans hhidden) (by simp)
  · exact absurd (hvisible.symm.trans hhidden) (by simp)

/-- **A withdrawn request stays away.**  From a launch with any defaults, over every order of
messages, presses, transitions, tab switches and taps whose transitions to the foreground find no
text of a withdrawn client to show. -/
theorem withdrawn_stays_away (defaults : UserDefaults) {x : ProviderApp × ShowHistory}
    (hrun : ((machine distance).withHistory noteShown).RunWhere
      (fun x e => isWanted x e = true)
      ({ device := { defaults := defaults, appDelegate := {} } }, {}) x) : x.2.back = [] := by
  refine hrun.invariant (I := fun x => x.2.back = []) rfl ?_
  intro x e y hI hcond hstep
  obtain ⟨hxy, hnote⟩ := Machine.withHistory_step.mp hstep
  have hback : (x.2.hear x.1 e).back = x.2.back := by
    unfold ShowHistory.hear
    repeat' split
    all_goals rfl
  simp only [hnote, noteShown, ShowHistory.see, hback, hI, List.nil_append,
    List.filterMap_eq_nil_iff]
  rintro ⟨i, request⟩ hcame
  cases hc : clientOf request with
  | none => simp
  | some c => simp [not_withdrawn_of_step hcond hxy hcame hc]

/-- Client 24 requests and withdraws while nobody looks. -/
def unseenEvents : List ProviderEvent :=
  onlineEvents ++ [.onMessage 0 (requestText 24 "requested") .background 0,
    .onMessage 0 (requestText 24 "cancelled") .background 0]

/-- It requests again, and the notification of that is followed. -/
theorem withdrawn_stays_away_renewed : ∃ x : ProviderApp × ShowHistory,
    (x.1.dashboards.any fun d => d.shown.isSome) = true ∧ x.2.back = [] := by
  obtain ⟨x, hrun, htest⟩ := Machine.exists_run_of_replay
    ((machine fun _ _ => 0).withHistory noteShown) isWanted ({ device := sampleProvider 16 }, {})
    (unseenEvents ++ [.onMessage 0 (requestText 24 "requested") .background 0,
      .notificationTapped, .willEnterForeground 0])
    (fun x => x.1.dashboards.any fun d => d.shown.isSome) (fun _ _ => id) (by decide +kernel)
  exact ⟨x, htest, withdrawn_stays_away (sampleProvider 16).defaults hrun⟩

/-- It does not; the notification of the first request is followed, and the app comes to the
foreground once more. -/
theorem withdrawn_comes_back : ∃ x : ProviderApp × ShowHistory,
    ((machine fun _ _ => 0).withHistory noteShown).Run ({ device := sampleProvider 16 }, {}) x ∧
      x.2.back ≠ [] := by
  obtain ⟨x, hrun, htest⟩ := Machine.exists_run_of_replay
    ((machine fun _ _ => 0).withHistory noteShown) (fun _ _ => true)
    ({ device := sampleProvider 16 }, {})
    (unseenEvents ++ [.willEnterForeground 0, .notificationTapped, .willEnterForeground 0])
    (fun x => decide (x.2.back ≠ [])) (fun _ _ _ => trivial) (by decide +kernel)
  exact ⟨x, hrun, of_decide_eq_true htest⟩

end ProviderApp

end WeatherAccommodation
