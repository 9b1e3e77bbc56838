/-
# What a dashboard heard last

Three requests can differ on a dashboard: the one whose details are on screen, the current one,
and the one whose client the request socket was opened for.  `Accept` opens the socket for the
current request, and the connect callback writes the frame for the request that is current by
then.  A message that comes in between replaces the current request, and a withdrawal, of
whomever, empties it.

The history says what a dashboard heard last and, for every socket that `Accept` opened, what
was on screen and what was heard at that moment.  `isTimely` is the condition on a step: all
three are the same client.  `Knows` relates what was heard to what the dashboard stores.
-/
import WeatherAccommodation.Provider.Steps

namespace WeatherAccommodation

open Foundation Reactive

/-! ## 1. What a dashboard heard last -/

/-- The last word of the status socket, or of the `Decline` button, about a request. -/
inductive Heard where
  | nothing
  | requestOf (clientId : Json)
  | withdrawn
  deriving DecidableEq

namespace Heard

def isRequest : Heard → Bool
  | .requestOf _ => true
  | _ => false

theorem exists_of_isRequest {heard : Heard} (h : heard.isRequest = true) :
    ∃ c, heard = .requestOf c := by
  cases heard with
  | nothing => exact absurd h (by simp [isRequest])
  | requestOf c => exact ⟨c, rfl⟩
  | withdrawn => exact absurd h (by simp [isRequest])

/-- What is heard in the text of a request. -/
def ofRequest (heard : Heard) (request : Dict) : Heard :=
  match Dict.get? request "ClientId" with
  | some clientId => .requestOf clientId
  | none => heard

/-- What a text leaves behind, by the status of the request it is about. -/
def message (heard : Heard) (text : Message) (unseen : Bool) : Heard :=
  match text with
  | some (.obj dict) =>
    match Dict.dict? dict "ClientData" with
    | some request =>
      if Dict.string? request "RequestStatus" = some Request_Status.requested then
        if unseen then heard else heard.ofRequest request
      else if Dict.string? request "RequestStatus" = some Request_Status.cancelled then .withdrawn
      else heard
    | none => heard
  | _ => heard

end Heard

/-- The request says whose it is and where. -/
def isComplete (request : Dict) : Bool :=
  (Dict.get? request "ClientId").isSome && (Dict.get? request "latitude").isSome &&
    (Dict.get? request "longitude").isSome

theorem isComplete_iff {request : Dict} :
    isComplete request = true ↔ (∃ c, Dict.get? request "ClientId" = some c) ∧
      (∃ x, Dict.get? request "latitude" = some x) ∧
      ∃ y, Dict.get? request "longitude" = some y := by
  simp [isComplete, Option.isSome_iff_exists, and_assoc]

namespace ProviderDashboard

variable {text : Message} {request : Dict} {heard : Heard}

theorem message_of_requested (h : IsRequest Request_Status.requested text request)
    {c : Json} (hc : Dict.get? request "ClientId" = some c) :
    heard.message text false = .requestOf c := by
  obtain ⟨⟨dict, rfl, hclient⟩, hstatus⟩ := h
  simp [Heard.message, Heard.ofRequest, hclient, hstatus, hc]

theorem message_of_unseen (h : IsRequest Request_Status.requested text request) :
    heard.message text true = heard := by
  obtain ⟨⟨dict, rfl, hclient⟩, hstatus⟩ := h
  simp [Heard.message, hclient, hstatus]

theorem message_of_cancelled (h : IsRequest Request_Status.cancelled text request)
    (unseen : Bool) : heard.message text unseen = .withdrawn := by
  obtain ⟨⟨dict, rfl, hclient⟩, hstatus⟩ := h
  have hne : Request_Status.cancelled ≠ Request_Status.requested := by decide
  simp [Heard.message, hclient, hstatus, hne]

/-- Of a request with another status nothing is heard. -/
theorem message_of_other (unseen : Bool)
    (h : ∀ request status, IsRequest status text request →
      status ≠ Request_Status.requested ∧ status ≠ Request_Status.cancelled) :
    heard.message text unseen = heard := by
  unfold Heard.message
  split
  · rename_i dict
    split
    · rename_i request hclient
      have habout : IsAbout (some (.obj dict)) request := ⟨dict, rfl, hclient⟩
      split
      · rename_i hstatus
        exact absurd rfl (h request _ ⟨habout, hstatus⟩).1
      · split
        · rename_i hstatus
          exact absurd rfl (h request _ ⟨habout, hstatus⟩).2
        · rfl
    · rfl
  · rfl

end ProviderDashboard

/-! ## 2. The history and the condition -/

/-- `Accept` was pressed: whose details were on screen, and what was heard by then. -/
structure Press where
  shown : Option Json
  heard : Heard
  deriving DecidableEq

structure AcceptHistory where
  /-- By the number of the dashboard. -/
  heard : Nat → Heard
  /-- By the number of the socket that was opened. -/
  pressed : Nat → Option Press

namespace AcceptHistory

def start : AcceptHistory := ⟨fun _ => .nothing, fun _ => none⟩

def hear (h : AcceptHistory) (i : Nat) (heard : Heard) : AcceptHistory :=
  { h with heard := Function.update h.heard i heard }

def press (h : AcceptHistory) (socket : Nat) (p : Press) : AcceptHistory :=
  { h with pressed := Function.update h.pressed socket (some p) }

end AcceptHistory

namespace ProviderApp

variable {distance : CLLocation → CLLocation → ℚ}

/-- The history variable. -/
def noteRequest (h : AcceptHistory) (a : ProviderApp) (e : ProviderEvent) (_ : ProviderApp) :
    AcceptHistory :=
  match e with
  | .viewDidLoad => h.hear a.dashboards.length .nothing
  | .willEnterForeground i =>
    match a.dashboards[i]? with
    | some d =>
      if a.device.appDelegate.showRequestUI then
        h.hear i ((h.heard i).message d.requestDetail false)
      else h
    | none => h
  | .btnCancelRequest i => h.hear i .withdrawn
  | .btnAcceptRequest i =>
    match a.dashboards[i]? with
    | some d => h.press a.sockets.sockets.length
        { shown := d.lblDistance.bind fun request => Dict.get? request "ClientId"
          heard := h.heard i }
    | none => h
  | .onMessage socket text state selectedIndex =>
    match a.sockets.delegate with
    | some (.dashboard i) =>
      if a.sockets.providerConnectionSocket = some socket then
        h.hear i ((h.heard i).message text
          (decide (ProviderDashboard.Unseen state selectedIndex)))
      else h
    | _ => h
  | _ => h

/-- What the server promises of a text: a request is complete, and an acceptance names its
client. -/
def isWellFormed : Message → Bool
  | some (.obj dict) =>
    ((Dict.dict? dict "ClientData").all fun request =>
      !(Dict.string? request "RequestStatus" == some Request_Status.requested) ||
        isComplete request) &&
    (!(Dict.string? dict "RequestType" == some Trip_Status.accepted) ||
      (Dict.get? dict "ClientId").isSome)
  | _ => true

/-- What the server promises of what it sends: texts are well formed, and an existing trip names
its client. -/
def isPromised : ProviderEvent → Bool
  | .tripStatusReply existing => existing.all fun trip => (Dict.get? trip "ClientId").isSome
  | .onMessage _ text _ _ => isWellFormed text
  | _ => true

/-- The condition on a step.  A socket calls back on the dashboard only while the client that
was last heard of is the one that was on screen, and the last heard of, when `Accept` opened
that socket; an acceptance, directions and a location come only while a request is there that
they can be held against. -/
def isTimely (x : ProviderApp × AcceptHistory) : ProviderEvent → Bool
  | .directionsReply i _ success => !success || (x.2.heard i).isRequest
  | .tracingLocation _ =>
    match x.1.locationDelegate with
    | some (.dashboard i) => x.2.heard i != .withdrawn
    | _ => true
  | .onConnect socket =>
    match x.1.sockets.delegate with
    | some (.dashboard i) =>
      x.1.sockets.clientproviderRequestSocket != some socket ||
        match x.2.heard i with
        | .requestOf c => x.2.pressed socket == some { shown := some c, heard := .requestOf c }
        | _ => false
    | _ => true
  | .onMessage socket text _ _ =>
    match x.1.sockets.delegate with
    | some (.dashboard i) =>
      x.1.sockets.clientproviderRequestSocket != some socket || !ProviderDashboard.isAcceptance text ||
        (x.2.heard i).isRequest
    | _ => true
  | _ => true

/-- Promised and timely. -/
def isAgreed (x : ProviderApp × AcceptHistory) (e : ProviderEvent) : Bool :=
  isPromised e && isTimely x e

/-- A fault for want of a request, or of something in it. -/
def IsMissing : Trap → Prop
  | .currentRequest | .currentAcceptedRequest => True
  | .missingKey key => key = "ClientId" ∨ key = "latitude" ∨ key = "longitude"
  | _ => False

/-- Every acceptance that was written names the client on screen when `Accept` was pressed, and
went to the channel of that client. -/
def GoesToShown (x : ProviderApp × AcceptHistory) : Prop :=
  ∀ socket clientId providerId location,
    (socket, ProviderFrame.accepted clientId providerId location) ∈ x.1.frames →
      (∃ heard, x.2.pressed socket = some { shown := some clientId, heard := heard }) ∧
      x.1.sockets.sockets[socket]? = some (.clientProviderConnection clientId)

open ProviderDashboard in
theorem isComplete_of_isWellFormed {text : Message} {request : Dict}
    (h : isWellFormed text = true) (hr : IsRequest Request_Status.requested text request) :
    isComplete request = true := by
  obtain ⟨⟨dict, rfl, hclient⟩, hstatus⟩ := hr
  simp only [isWellFormed, hclient, hstatus, Bool.and_eq_true, Option.all_some] at h
  simpa using h.1

open ProviderDashboard in
theorem clientId_of_isWellFormed {text : Message} {dict : Dict}
    (h : isWellFormed text = true) (ha : IsAcceptance text dict) :
    (Dict.get? dict "ClientId").isSome := by
  obtain ⟨rfl, htype⟩ := ha
  simp only [isWellFormed, htype, Bool.and_eq_true] at h
  simpa using h.2

end ProviderApp

/-! ## 3. What is known of a dashboard -/

/-- The current request is what was heard last. -/
def Heard.Matches : Heard → Option Dict → Prop
  | .nothing, current => current = none
  | .withdrawn, current => current = some []
  | .requestOf c, current =>
    ∃ request, current = some request ∧ isComplete request = true ∧
      Dict.get? request "ClientId" = some c

/-- The client of the current request is the one that was heard last. -/
theorem Heard.client_eq {c clientId : Json} {current : Option Dict} {request : Dict}
    (h : (Heard.requestOf c).Matches current) (hrequest : current = some request)
    (hclient : Dict.get? request "ClientId" = some clientId) : clientId = c := by
  obtain ⟨request', hrequest', _, hclient'⟩ := h
  obtain rfl : request = request' := Option.some.inj (hrequest.symm.trans hrequest')
  exact Option.some.inj (hclient.symm.trans hclient')

/-- A text that is a complete request, if it can be read at all. -/
def IsFullRequest (text : Message) : Prop :=
  ∀ dict, text = some (.obj dict) → ∃ request, Dict.dict? dict "ClientData" = some request ∧
    Dict.string? request "RequestStatus" = some Request_Status.requested ∧
    isComplete request = true

theorem IsFullRequest.of_about {text : Message} {request : Dict} (h : IsFullRequest text)
    (ha : ProviderDashboard.IsAbout text request) :
    Dict.string? request "RequestStatus" = some Request_Status.requested ∧
      isComplete request = true := by
  obtain ⟨dict, htext, hclient⟩ := ha
  obtain ⟨other, hother, hfull⟩ := h dict htext
  rw [hclient] at hother
  obtain rfl := Option.some.inj hother
  exact hfull

theorem isFullRequest_none : IsFullRequest none := by
  intro dict htext
  exact absurd htext (by simp)

/-- What is full is well formed, and a request. -/
theorem isFullRequest_of_isRequest {text : Message} {request : Dict}
    (hformed : ProviderApp.isWellFormed text = true)
    (hr : ProviderDashboard.IsRequest Request_Status.requested text request) :
    IsFullRequest text := by
  intro dict htext
  have hcomplete := ProviderApp.isComplete_of_isWellFormed hformed hr
  obtain ⟨⟨dict', rfl, hclient⟩, hstatus⟩ := hr
  obtain rfl : dict' = dict := by simpa using htext
  exact ⟨request, hclient, hstatus, hcomplete⟩

/-- What holds of a dashboard on which `heard` came last. -/
structure Knows (heard : Heard) (d : ProviderDashboard) : Prop where
  current : heard.Matches d.currentRequest
  shown : d.requestViewIsHidden = false → heard.isRequest = true
  detail : IsFullRequest d.requestDetail
  accepted : ∀ trip, d.currentAcceptedRequest = some trip → (Dict.get? trip "ClientId").isSome
  /-- Before an acceptance nothing reports and no directions are on their way. -/
  idle : d.currentAcceptedRequest = none →
    d.timerIsValid = false ∧ ∀ call, d.directionsCalls.waiting call = none

namespace Knows

open ProviderDashboard

variable {heard : Heard} {d d' : ProviderDashboard}

theorem fresh : Knows .nothing { location := none } where
  current := by simp [Heard.Matches]
  shown := by simp
  detail := isFullRequest_none
  accepted := by simp
  idle := by simp

/-- A change that shows no more, and starts neither a timer nor a call. -/
theorem of_quieter (h : Knows heard d) (hcurrent : d'.currentRequest = d.currentRequest)
    (hview : d'.requestViewIsHidden = false → d.requestViewIsHidden = false)
    (hdetail : d'.requestDetail = d.requestDetail)
    (haccepted : d'.currentAcceptedRequest = d.currentAcceptedRequest)
    (htimer : d.timerIsValid = false → d'.timerIsValid = false)
    (hcalls : ∀ call, d.directionsCalls.waiting call = none →
      d'.directionsCalls.waiting call = none) : Knows heard d' where
  current := hcurrent ▸ h.current
  shown := fun hshown => h.shown (hview hshown)
  detail := hdetail ▸ h.detail
  accepted := haccepted ▸ h.accepted
  idle := by
    intro hnone
    rw [haccepted] at hnone
    obtain ⟨hoff, hnoCall⟩ := h.idle hnone
    exact ⟨htimer hoff, fun call => hcalls call (hnoCall call)⟩

/-- The details go off screen. -/
theorem hide (h : Knows heard d) : Knows heard d.hideRequest :=
  h.of_quieter rfl (fun hshown => absurd hshown (by simp [hideRequest])) rfl rfl id fun _ => id

/-- A withdrawal is heard, and empties the current request. -/
theorem cancel (h : Knows heard d) : Knows .withdrawn d.cancelRequest where
  current := by simp [Heard.Matches, cancelRequest]
  shown := fun hshown => absurd hshown (by simp [cancelRequest, hideRequest, setCurrentRequest])
  detail := h.detail
  accepted := h.accepted
  idle := h.idle

/-- A complete request becomes the current one, whatever is on screen. -/
theorem hear (h : Knows heard d) {request : Dict} {c : Json} (hcomplete : isComplete request = true)
    (hc : Dict.get? request "ClientId" = some c) :
    Knows (.requestOf c) (d.setCurrentRequest (some request)) where
  current := ⟨request, rfl, hcomplete, hc⟩
  shown := fun _ => rfl
  detail := h.detail
  accepted := h.accepted
  idle := h.idle

/-- Its details come on screen. -/
theorem display {c : Json} (h : Knows (.requestOf c) d) (request : Dict) :
    Knows (.requestOf c) (d.display request) where
  current := h.current
  shown := fun _ => rfl
  detail := h.detail
  accepted := h.accepted
  idle := h.idle

/-- A request is shown, and heard. -/
theorem showRequest (h : Knows heard d) {text : Message}
    (hdetail : IsFullRequest text) (hd : d.showRequestUI text = .ok d') :
    Knows (heard.message text false) d' := by
  rcases showRequestUI_inv hd with ⟨hnone, rfl⟩ | ⟨request, habout, hcase⟩
  · rw [message_of_other]
    · exact h
    · intro request status hrequest
      exact absurd hrequest.1 (hnone request)
  · obtain ⟨hstatus, hcomplete⟩ := hdetail.of_about habout
    obtain ⟨⟨c, hc⟩, _⟩ := isComplete_iff.mp hcomplete
    rw [message_of_requested ⟨habout, hstatus⟩ hc]
    have hheard := h.hear hcomplete hc
    rcases hcase with ⟨hcancelled, _⟩ | ⟨_, rfl⟩ | ⟨_, rfl⟩
    · rw [hstatus] at hcancelled
      exact absurd hcancelled (by decide)
    · exact hheard.display request
    · exact hheard

/-- What the status socket brings is heard. -/
theorem providerMessage (h : Knows heard d) {text : Message} {state : ApplicationState}
    {selectedIndex : Nat} (hformed : ProviderApp.isWellFormed text = true)
    (hd : d.providerMessage text state selectedIndex = .ok d') :
    Knows (heard.message text (decide (Unseen state selectedIndex))) d' := by
  rcases providerMessage_inv hd with ⟨hother, rfl⟩ | ⟨request, hrequest, hcase⟩ |
    ⟨request, hrequest, rfl⟩ | ⟨request, hrequest, rfl⟩
  · rw [message_of_other _ hother]
    exact h
  · have hdetail : IsFullRequest text := isFullRequest_of_isRequest hformed hrequest
    rcases hcase with ⟨hunseen, rfl⟩ | ⟨hseen, hshow⟩
    · rw [decide_eq_true hunseen, message_of_unseen hrequest]
      exact ⟨h.current, h.shown, hdetail, h.accepted, h.idle⟩
    · rw [decide_eq_false hseen]
      exact h.showRequest hdetail hshow
  · rw [message_of_cancelled hrequest]
    exact h.cancel
  · rw [message_of_other]
    · exact h.hide
    · rintro other status ⟨hother, hstatus⟩
      obtain rfl := hrequest.1.unique hother
      rw [hrequest.2] at hstatus
      obtain rfl := Option.some.inj hstatus
      exact ⟨by decide, by decide⟩

/-- An acceptance becomes the accepted request, with timer and call. -/
theorem requestMessage (h : Knows heard d) {text : Message}
    (hformed : ProviderApp.isWellFormed text = true) (hd : d.requestMessage text = .ok d') :
    Knows heard d' := by
  rcases requestMessage_inv hd with rfl | ⟨dict, haccepted, rfl⟩
  · exact h
  · refine ⟨h.current, h.shown, h.detail, ?_, ?_⟩
    · rintro trip ⟨⟩
      exact ProviderApp.clientId_of_isWellFormed hformed haccepted
    · intro hnone
      exact absurd hnone (by simp)

theorem tracingLocation {distance : CLLocation → CLLocation → ℚ} {l : CLLocation}
    (h : Knows heard d) (hd : d.tracingLocation distance l = .ok d') : Knows heard d' := by
  obtain ⟨reached, rfl⟩ := tracingLocation_inv hd
  exact h.of_quieter rfl id rfl rfl id fun _ => id

theorem invalidate (h : Knows heard d) : Knows heard d.invalidateTimer :=
  h.of_quieter rfl id rfl rfl (fun _ => rfl) fun _ => id

theorem clearTrip (h : Knows heard d) : Knows heard d.clearTrip := by
  unfold ProviderDashboard.clearTrip
  split
  · exact h.invalidate
  · exact h

/-- A call is answered. -/
theorem answered (h : Knows heard d) (call : Nat) : Knows heard (ProviderApp.answered d call) := by
  refine h.of_quieter rfl id rfl rfl id fun other hother => ?_
  simp only [ProviderApp.answered]
  rw [Callbacks.waiting_retire]
  split
  · rfl
  · exact hother

theorem resumed {trip : Dict} (hclient : (Dict.get? trip "ClientId").isSome) :
    Knows .nothing { currentAcceptedRequest := some trip } where
  current := by simp [Heard.Matches]
  shown := by simp
  detail := isFullRequest_none
  accepted := by
    rintro _ ⟨⟩
    exact hclient
  idle := by simp

end Knows

/-! ## 4. Handlers that miss nothing -/

section Present

open ProviderApp (IsMissing)

/-- What is missing is never in what was just read. -/
theorem spares_isMissing : SparesData IsMissing where
  badCast _ := id
  notANumber _ := id
  notAnObject := id

namespace ProviderDashboard

variable {d : ProviderDashboard} {c : Json}

theorem avoids_ownLocation : Avoids IsMissing d.ownLocation := avoids_unwrap fun _ => id

/-- Everything that is read of a request is there. -/
theorem avoids_requestKey (h : (Heard.requestOf c).Matches d.currentRequest) {key : String}
    (hkey : key = "ClientId" ∨ key = "latitude" ∨ key = "longitude") :
    Avoids IsMissing (d.requestKey key) := by
  obtain ⟨request, hrequest, hcomplete, _⟩ := h
  obtain ⟨⟨_, hclient⟩, ⟨_, hlat⟩, ⟨_, hlong⟩⟩ := isComplete_iff.mp hcomplete
  unfold requestKey
  rw [hrequest]
  refine (avoids_ok request).bind fun request' hsame => ?_
  obtain rfl := Except.ok.inj hsame
  refine avoids_unwrap fun hnone => ?_
  rcases hkey with rfl | rfl | rfl
  · exact absurd (hclient.symm.trans hnone) (by simp)
  · exact absurd (hlat.symm.trans hnone) (by simp)
  · exact absurd (hlong.symm.trans hnone) (by simp)

theorem avoids_requestNumber (h : (Heard.requestOf c).Matches d.currentRequest) {key : String}
    (hkey : key = "ClientId" ∨ key = "latitude" ∨ key = "longitude") :
    Avoids IsMissing (d.requestNumber key) := by
  refine (avoids_requestKey h hkey).bind fun _ _ => ?_
  exact (avoids_unwrap fun _ => id).bind fun _ _ => spares_isMissing.forceDouble _ _

theorem avoids_clientLocation (h : (Heard.requestOf c).Matches d.currentRequest) :
    Avoids IsMissing d.clientLocation := by
  refine (avoids_requestNumber h (Or.inr (Or.inl rfl))).bind fun _ _ => ?_
  exact (avoids_requestNumber h (Or.inr (Or.inr rfl))).bind fun _ _ => avoids_pure _

theorem avoids_drawMarkers (h : (Heard.requestOf c).Matches d.currentRequest) :
    Avoids IsMissing d.drawMarkers := by
  refine avoids_ownLocation.bind fun _ _ => ?_
  exact (avoids_clientLocation h).bind fun _ _ => avoids_pure _

theorem avoids_callDistanceAPI (h : (Heard.requestOf c).Matches d.currentRequest) :
    Avoids IsMissing d.callDistanceAPI := by
  refine (avoids_requestKey h (Or.inr (Or.inl rfl))).bind fun _ _ => ?_
  exact (avoids_requestKey h (Or.inr (Or.inr rfl))).bind fun _ _ => avoids_pure _

theorem avoids_showRequestUI {text : Message} (h : IsFullRequest text) :
    Avoids IsMissing (d.showRequestUI text) := by
  refine (spares_isMissing.messageDict text).bind fun o ho => ?_
  cases o with
  | none => exact avoids_pure _
  | some dict =>
    obtain ⟨request, hrequest, _⟩ := h dict (eq_obj_of_messageDict ho)
    refine Avoids.bind ?_ fun request' _ =>
      (spares_isMissing.hasText _ _ _).bind fun cancelled _ => ?_
    · simp only [currentRequest_setCurrentRequest, hrequest]
      exact avoids_ok request
    · refine avoids_ite (fun _ => avoids_pure _) fun _ => avoids_ite (fun _ => ?_)
        fun _ => avoids_pure _
      refine (spares_isMissing.forceString _ _).bind fun _ _ => ?_
      refine (spares_isMissing.forceString _ _).bind fun _ _ => ?_
      refine (spares_isMissing.forceLocation _ _).bind fun _ _ => ?_
      exact avoids_ownLocation.bind fun _ _ => avoids_pure _

theorem avoids_providerMessage {text : Message} {state : ApplicationState} {selectedIndex : Nat}
    (hformed : ProviderApp.isWellFormed text = true) :
    Avoids IsMissing (d.providerMessage text state selectedIndex) := by
  refine (spares_isMissing.messageDict text).bind fun o ho => ?_
  cases o with
  | none => exact avoids_pure _
  | some dict =>
    refine (spares_isMissing.forceDict _ _).bind fun client hclient => ?_
    refine (spares_isMissing.hasText _ _ _).bind fun requested hrequested =>
      avoids_ite (fun hyes => ?_) ?_
    · refine avoids_ite (fun _ => avoids_pure _) fun _ => avoids_showRequestUI ?_
      rw [hyes] at hrequested
      exact isFullRequest_of_isRequest hformed ⟨⟨dict, eq_obj_of_messageDict ho,
        forceDict_eq_ok.mp hclient⟩, hasText_eq_true.mp hrequested⟩
    · intro _
      refine (spares_isMissing.hasText _ _ _).bind fun _ _ =>
        avoids_ite (fun _ => avoids_pure _) fun _ => ?_
      exact (spares_isMissing.hasText _ _ _).bind fun _ _ =>
        avoids_ite (fun _ => avoids_pure _) fun _ => avoids_pure _

/-- An acceptance is held against a request that is there. -/
theorem avoids_requestMessage {heard : Heard} (hk : Knows heard d) {text : Message}
    (hheard : isAcceptance text = true → heard.isRequest = true) :
    Avoids IsMissing (d.requestMessage text) := by
  refine (spares_isMissing.messageDict text).bind fun o ho => ?_
  cases o with
  | none => exact avoids_pure _
  | some dict =>
    refine (spares_isMissing.hasText _ _ _).bind fun accepted haccepted =>
      avoids_ite (fun hyes => ?_) fun _ => avoids_pure _
    rw [hyes] at haccepted
    obtain ⟨c, rfl⟩ := Heard.exists_of_isRequest (hheard (isAcceptance_of
      ⟨eq_obj_of_messageDict ho, hasText_eq_true.mp haccepted⟩))
    have hcurrent : (Heard.requestOf c).Matches (d.setAccepted dict).currentRequest := hk.current
    exact (avoids_callDistanceAPI hcurrent).bind fun _ _ => avoids_pure _

/-- A location is held against the request that is there, or against none. -/
theorem avoids_tracingLocation {distance : CLLocation → CLLocation → ℚ} {heard : Heard}
    (hk : Knows heard d) (hheard : heard ≠ .withdrawn) (l : CLLocation) :
    Avoids IsMissing (d.tracingLocation distance l) := by
  unfold tracingLocation
  refine avoids_ite (fun _ => avoids_pure _) fun hsome => ?_
  cases heard with
  | nothing => exact absurd hk.current hsome
  | withdrawn => exact absurd rfl hheard
  | requestOf c =>
    have hcurrent : (Heard.requestOf c).Matches
        ({ d with location := some l } : ProviderDashboard).currentRequest := hk.current
    exact (avoids_clientLocation hcurrent).bind fun _ _ =>
      avoids_ite (fun _ => avoids_pure _) fun _ => avoids_pure _

end ProviderDashboard

end Present

end WeatherAccommodation
