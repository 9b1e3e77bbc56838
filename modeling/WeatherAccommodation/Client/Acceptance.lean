/-
# Which acceptances put the client into a trip

A request ends in one of four ways: its cancellation succeeds, its 120 seconds run out, a
provider's acceptance arrives, or the server refuses it in the first place.  The acceptance
then has to wait for one more answer, the travel time, before the provider-detail sheet
opens.

The dashboard keeps no variable that says in which of these states the latest request is, and
`onMessage` consults none.  So an acceptance that arrives after the cancellation opens the
sheet all the same (`late_acceptance_opens_sheet`).  What does hold is that the sheets are
exactly as timely as the messages: if every acceptance that is delivered arrives while the
latest request is outstanding, then every sheet was opened for such an acceptance
(`sheets_for_outstanding`).  The travel times that are asked for every 30 seconds share the
completion handler with the acceptances; they never open a sheet.
-/
import WeatherAccommodation.Client.Steps

namespace WeatherAccommodation

open Foundation Reactive

namespace ClientSession

variable {distance : CLLocation → CLLocation → ℚ}

/-! ## 1. The history of the latest request -/

/-- What has become of the latest request. -/
inductive RequestStatus where
  | none
  | outstanding
  | refused
  | cancelled
  | expired
  | accepted
  deriving DecidableEq, Repr

/-- Requests are numbered from 1 in the order they are posted; 0 stands for no request. -/
structure RequestHistory where
  status : RequestStatus := .none
  /-- The overlay timer of the latest request, once its reply has started one. -/
  timer : Option Nat := .none
  /-- For each cancellation posted, the number of the request it withdraws. -/
  withdrawn : List Nat := []
  /-- For each distance call, the status when it was made. -/
  askedUnder : List RequestStatus := []
  deriving Repr

/-- The text, delivered on this socket, reaches the acceptance branch of `onMessage`. -/
def deliversAcceptance (s : ClientSession) (socket : Nat) (text : Message) : Bool :=
  s.sockets.clientproviderRequestSocket == some socket &&
    match text with
    | some (.obj dict) => Dict.string? dict "RequestType" == some Trip_Status.accepted
    | _ => false

/-- The status after an event. -/
def statusAfter (h : RequestHistory) (s t : ClientSession) : ClientEvent → RequestStatus
  | .sendRequest =>
    if s.requestCalls.issued < t.requestCalls.issued then .outstanding else h.status
  | .requestReply call false =>
    if call + 1 = s.requestCalls.issued then .refused else h.status
  | .cancelReply call true =>
    if h.withdrawn[call]? = some s.requestCalls.issued then .cancelled else h.status
  | .timerFires timer => if h.timer = some timer then .expired else h.status
  | .onMessage socket text =>
    if deliversAcceptance s socket text then .accepted else h.status
  | _ => h.status

/-- The timer of the latest request after an event. -/
def timerAfter (h : RequestHistory) (s t : ClientSession) : ClientEvent → Option Nat
  | .sendRequest => if s.requestCalls.issued < t.requestCalls.issued then .none else h.timer
  | .requestReply call true =>
    if call + 1 = s.requestCalls.issued then some s.timers.issued else h.timer
  | _ => h.timer

/-- The history after an event that led from `s` to `t`. -/
def noteRequest (h : RequestHistory) (s : ClientSession) (e : ClientEvent) (t : ClientSession) :
    RequestHistory where
  status := statusAfter h s t e
  timer := timerAfter h s t e
  withdrawn :=
    if s.cancelCalls.issued < t.cancelCalls.issued then h.withdrawn ++ [s.requestCalls.issued]
    else h.withdrawn
  askedUnder :=
    if s.distanceCalls.issued < t.distanceCalls.issued then h.askedUnder ++ [h.status]
    else h.askedUnder

/-- Every sheet that a distance answer opened was opened for an acceptance that arrived while
the latest request was outstanding. -/
def SheetsForOutstanding (x : ClientSession × RequestHistory) : Prop :=
  ∀ sheet ∈ x.1.sheets, ∀ call, sheet.openedBy = some call →
    x.2.askedUnder[call]? = some .outstanding

/-- If the event delivers an acceptance, the latest request is outstanding. -/
def acceptanceInTime (x : ClientSession × RequestHistory) : ClientEvent → Bool
  | .onMessage socket text =>
    !deliversAcceptance x.1 socket text || x.2.status == .outstanding
  | _ => true

/-! ## 2. What a step does to calls and sheets -/

variable {s t : ClientSession} {e : ClientEvent}

/-- The ways a step can move towards a sheet. -/
inductive TripMove (s t : ClientSession) (e : ClientEvent) : Prop where
  /-- It does not. -/
  | stay (sheets : t.sheets = s.sheets) (calls : t.distanceCalls = s.distanceCalls)
      (updates : t.dashboard.locationUpdates = s.dashboard.locationUpdates)
  /-- A location update is stored for the next distance timer. -/
  | update (sheets : t.sheets = s.sheets) (calls : t.distanceCalls = s.distanceCalls)
      (updates : isLocationUpdate t.dashboard.locationUpdates = true)
  /-- The distance is asked for, for an acceptance or for the stored location update. -/
  | ask (dict : Dict) (sheets : t.sheets = s.sheets)
      (calls : t.distanceCalls = s.distanceCalls.issue dict)
      (updates : t.dashboard.locationUpdates = s.dashboard.locationUpdates)
      (cause : (∃ socket text, e = .onMessage socket text ∧
        deliversAcceptance s socket text = true) ∨ s.dashboard.locationUpdates = some (.obj dict))
  /-- The distance is answered, without a sheet. -/
  | answer (call : Nat) (sheets : t.sheets = s.sheets)
      (calls : t.distanceCalls = s.distanceCalls.retire call)
      (updates : t.dashboard.locationUpdates = s.dashboard.locationUpdates)
  /-- The distance is answered for something other than a location update: the sheet opens. -/
  | enter (call : Nat) (dict : Dict) (sheet : ProviderDetailSheet)
      (waiting : s.distanceCalls.waiting call = some dict)
      (type : Dict.string? dict "RequestType" ≠ some Request_Status.locationUpdated)
      (sheets : t.sheets = s.sheets ++ [sheet]) (opened : sheet.openedBy = some call)
      (calls : t.distanceCalls = s.distanceCalls.retire call)
      (updates : t.dashboard.locationUpdates = s.dashboard.locationUpdates)
  /-- The sheet of a trip that existed before the dashboard opens. -/
  | resume (sheet : ProviderDetailSheet) (sheets : t.sheets = s.sheets ++ [sheet])
      (opened : sheet.openedBy = none) (calls : t.distanceCalls = s.distanceCalls)
      (updates : t.dashboard.locationUpdates = s.dashboard.locationUpdates)

theorem deliversAcceptance_of {socket : Nat} {text : Message} {dict : Dict}
    (hs : s.sockets.clientproviderRequestSocket = some socket) (h : IsAcceptance text dict) :
    deliversAcceptance s socket text = true := by
  obtain ⟨rfl, hrt⟩ := h
  simp [deliversAcceptance, hs, hrt]

/-- **Every step is one of these.** -/
theorem step_tripMove (h : (machine distance).Step s e t) : TripMove s t e := by
  have hstep := step_inv h
  cases e with
  | tracingLocation l =>
    obtain rfl : t = s.tracingLocation l := hstep
    unfold tracingLocation
    split
    · exact .stay rfl rfl rfl
    · exact .stay rfl rfl rfl
  | onlineProviderList call response =>
    obtain ⟨_, hlist⟩ := hstep
    rcases onlineProviderList_inv hlist with ⟨_, rfl⟩ | ⟨r, items, d, _, _, happend, hcheck⟩
    · exact .stay rfl rfl rfl
    · obtain ⟨ps, ms, rfl⟩ := ClientDashboard.appendOnlineProviders_frame happend
      rcases checkIfTripExists_inv hcheck with ⟨_, rfl⟩ | ⟨trip, userID, _, ⟨_, here, rfl⟩ | ⟨_, rfl⟩⟩
      · exact .stay rfl rfl rfl
      · cases hover : s.isPresenting with
        | true => exact .stay (List.append_nil _) rfl rfl
        | false => exact .resume _ rfl rfl rfl rfl
      · exact .stay rfl rfl rfl
  | onMessage socket text =>
    rcases hstep with ⟨_, d, hping, rfl⟩ | ⟨_, hreq, hmsg⟩ | ⟨_, _, rfl⟩
    · obtain ⟨ps, ms, rfl⟩ := ClientDashboard.pingReceived_frame hping
      exact .stay rfl rfl rfl
    · rcases requestMessage_inv hmsg with rfl | ⟨dict, hacc, rfl⟩
      · exact .stay rfl rfl rfl
      · exact .ask dict rfl rfl rfl (Or.inl ⟨socket, text, rfl, deliversAcceptance_of hreq hacc⟩)
    · exact .stay rfl rfl rfl
  | sendRequest =>
    rcases sendRequest_inv hstep.2 with rfl | ⟨_, _, body, _, _, _, rfl⟩
    · exact .stay rfl rfl rfl
    · exact .stay rfl rfl rfl
  | requestReply call success =>
    obtain ⟨userID, _, rfl⟩ := hstep
    cases success with
    | true => exact .stay rfl rfl rfl
    | false => exact .stay rfl rfl rfl
  | cancelRequest =>
    obtain ⟨body, _, rfl⟩ := cancelRequestThroughWS_inv hstep.2
    exact .stay rfl rfl rfl
  | cancelReply call success =>
    rcases cancelReply_inv hstep.2 with ⟨_, rfl⟩ | ⟨frame, _, rfl⟩
    · exact .stay rfl rfl rfl
    · exact .stay rfl rfl rfl
  | timerFires timer =>
    obtain ⟨_, rfl⟩ := hstep
    exact .stay rfl rfl rfl
  | distanceReply call values success =>
    obtain ⟨dict, hw, hreply⟩ := hstep
    rcases distanceReply_inv hreply with ⟨markers, _, rfl⟩ | ⟨_, hne, u, markers, henter, _, rfl⟩
    · exact .answer call rfl rfl rfl
    · obtain ⟨eta, here, marker, rfl⟩ := enterTrip_inv henter
      cases hover : s.isPresenting with
      | true => exact .answer call (List.append_nil _) rfl rfl
      | false => exact .enter call dict _ hw hne rfl rfl rfl rfl
  | distanceTimerFires =>
    rcases callDistanceMatrixAPI_inv hstep with ⟨_, rfl⟩ | ⟨dict, hdict, rfl⟩
    · exact .stay rfl rfl rfl
    · exact .ask dict rfl rfl rfl (Or.inr hdict)
  | receivingLocationUpdate text =>
    obtain ⟨hupdate, rfl⟩ := hstep
    exact .update rfl rfl hupdate
  | viewWillAppear =>
    obtain ⟨d, hclear, rfl⟩ := hstep
    obtain ⟨marker, markers, _, rfl⟩ := ClientDashboard.clearTrip_inv hclear
    exact .stay rfl rfl rfl
  | selectedProducts products =>
    obtain ⟨d, hproducts, rfl⟩ := hstep
    obtain ⟨u, c, b, _, _, _, rfl⟩ := ClientDashboard.showSelectedProducts_inv hproducts
    exact .stay rfl rfl rfl
  | elsewhere device busy =>
    obtain rfl : t = { s with device := device, isPresenting := busy } := hstep
    exact .stay rfl rfl rfl

/-! ## 3. Sheets are as timely as the messages -/

/-- Every distance call is accounted for: it was made for a location update, or while the
latest request was outstanding; and so is every sheet. -/
structure Accountable (x : ClientSession × RequestHistory) : Prop where
  numbered : x.2.askedUnder.length = x.1.distanceCalls.issued
  updates : x.1.dashboard.locationUpdates = none ∨
    isLocationUpdate x.1.dashboard.locationUpdates = true
  calls : x.1.distanceCalls.All fun call dict =>
    Dict.string? dict "RequestType" = some Request_Status.locationUpdated ∨
      x.2.askedUnder[call]? = some .outstanding
  sheets : SheetsForOutstanding x

/-- While no call is made, the record of the calls does not change. -/
theorem askedUnder_of_le {h : RequestHistory}
    (hle : t.distanceCalls.issued ≤ s.distanceCalls.issued) :
    (noteRequest h s e t).askedUnder = h.askedUnder :=
  if_neg (Nat.not_lt.mpr hle)

theorem askedUnder_of_issue {h : RequestHistory} {dict : Dict}
    (hc : t.distanceCalls = s.distanceCalls.issue dict) :
    (noteRequest h s e t).askedUnder = h.askedUnder ++ [h.status] :=
  if_pos (by simp [hc])

theorem locationUpdated_of_isLocationUpdate {dict : Dict}
    (h : isLocationUpdate (some (.obj dict)) = true) :
    Dict.string? dict "RequestType" = some Request_Status.locationUpdated := by
  simpa [isLocationUpdate] using h

/-- Old sheets stay accounted for as long as the record of old calls stands. -/
theorem SheetsForOutstanding.of_eq {h k : RequestHistory}
    (hold : ∀ call : Nat, h.askedUnder[call]? = some RequestStatus.outstanding →
      k.askedUnder[call]? = some RequestStatus.outstanding)
    (sheets : t.sheets = s.sheets) (hs : SheetsForOutstanding (s, h)) :
    SheetsForOutstanding (t, k) := by
  intro sheet hsheet call hcall
  have hmem : sheet ∈ s.sheets := sheets ▸ hsheet
  exact hold call (hs sheet hmem call hcall)

/-- A new sheet needs an account of its own. -/
theorem SheetsForOutstanding.concat {h k : RequestHistory} {sheet : ProviderDetailSheet}
    (hk : k.askedUnder = h.askedUnder) (sheets : t.sheets = s.sheets ++ [sheet])
    (hs : SheetsForOutstanding (s, h))
    (hnew : ∀ call, sheet.openedBy = some call →
      h.askedUnder[call]? = some RequestStatus.outstanding) :
    SheetsForOutstanding (t, k) := by
  intro sheet' hsheet call hcall
  simp only [sheets, List.mem_append, List.mem_singleton] at hsheet
  simp only [hk]
  rcases hsheet with hold | rfl
  · exact hs sheet' hold call hcall
  · exact hnew call hcall

/-- One step keeps the account, provided an acceptance comes in time. -/
theorem Accountable.step {h : RequestHistory} (hI : Accountable (s, h))
    (hC : acceptanceInTime (s, h) e = true) (hstep : (machine distance).Step s e t) :
    Accountable (t, noteRequest h s e t) := by
  have hnum : h.askedUnder.length = s.distanceCalls.issued := hI.numbered
  have hupd := hI.updates
  have hcalls := hI.calls
  have hsheets : SheetsForOutstanding (s, h) := hI.sheets
  cases step_tripMove hstep with
  | stay sheets calls updates =>
    have hk : (noteRequest h s e t).askedUnder = h.askedUnder := askedUnder_of_le (by rw [calls])
    refine ⟨by rw [hk, calls]; exact hnum, by rw [updates]; exact hupd, ?_, ?_⟩
    · rw [calls, hk]
      exact hcalls
    · exact hsheets.of_eq (fun call hcall => hk ▸ hcall) sheets
  | update sheets calls updates =>
    have hk : (noteRequest h s e t).askedUnder = h.askedUnder := askedUnder_of_le (by rw [calls])
    refine ⟨by rw [hk, calls]; exact hnum, Or.inr updates, ?_, ?_⟩
    · rw [calls, hk]
      exact hcalls
    · exact hsheets.of_eq (fun call hcall => hk ▸ hcall) sheets
  | ask dict sheets calls updates cause =>
    have hk : (noteRequest h s e t).askedUnder = h.askedUnder ++ [h.status] :=
      askedUnder_of_issue calls
    have hold : ∀ call : Nat, h.askedUnder[call]? = some RequestStatus.outstanding →
        (noteRequest h s e t).askedUnder[call]? = some RequestStatus.outstanding := by
      intro call hcall
      rw [hk, List.getElem?_append_left (List.getElem?_eq_some_iff.mp hcall).1]
      exact hcall
    refine ⟨by rw [hk, calls]; simp [hnum], by rw [updates]; exact hupd, ?_, ?_⟩
    · rw [calls]
      refine Callbacks.All.issue (hcalls.mono fun call d _ => Or.imp_right (hold call)) ?_
      rcases cause with ⟨socket, text, rfl, hdel⟩ | hstored
      · right
        have hstatus : h.status = .outstanding := by
          simpa [acceptanceInTime, hdel] using hC
        rw [hk, ← hnum, List.getElem?_concat_length, hstatus]
      · left
        rcases hupd with hnone | hisupd
        · rw [hnone] at hstored
          exact absurd hstored (by simp)
        · exact locationUpdated_of_isLocationUpdate (hstored ▸ hisupd)
    · exact hsheets.of_eq hold sheets
  | answer call sheets calls updates =>
    have hk : (noteRequest h s e t).askedUnder = h.askedUnder :=
      askedUnder_of_le (by rw [calls, Callbacks.issued_retire])
    refine ⟨by rw [hk, calls]; simpa using hnum, by rw [updates]; exact hupd, ?_, ?_⟩
    · rw [calls, hk]
      exact hcalls.retire call
    · exact hsheets.of_eq (fun call hcall => hk ▸ hcall) sheets
  | enter call dict sheet waiting type sheets opened calls updates =>
    have hk : (noteRequest h s e t).askedUnder = h.askedUnder :=
      askedUnder_of_le (by rw [calls, Callbacks.issued_retire])
    refine ⟨by rw [hk, calls]; simpa using hnum, by rw [updates]; exact hupd, ?_, ?_⟩
    · rw [calls, hk]
      exact hcalls.retire call
    · refine hsheets.concat hk sheets ?_
      intro call' hcall'
      obtain rfl : call = call' := by simpa [opened] using hcall'
      exact (hcalls call dict waiting).resolve_left type
  | resume sheet sheets opened calls updates =>
    have hk : (noteRequest h s e t).askedUnder = h.askedUnder := askedUnder_of_le (by rw [calls])
    refine ⟨by rw [hk, calls]; exact hnum, by rw [updates]; exact hupd, ?_, ?_⟩
    · rw [calls, hk]
      exact hcalls
    · refine hsheets.concat hk sheets ?_
      intro call hcall
      rw [opened] at hcall
      exact absurd hcall (by simp)

/-- **If every acceptance arrives in time, the client enters trips only for outstanding
requests.**  From any device globals, over any interleaving of requests, cancellations,
timers, messages and answers. -/
theorem sheets_for_outstanding (device : Device) {x : ClientSession × RequestHistory}
    (hrun : ((machine distance).withHistory noteRequest).RunWhere
      (fun x e => acceptanceInTime x e = true) ({ device := device }, {}) x) :
    SheetsForOutstanding x := by
  have h₀ : Accountable ({ device := device }, {}) :=
    ⟨rfl, Or.inl rfl, .empty _, by simp [SheetsForOutstanding]⟩
  have hI : Accountable x := by
    refine hrun.invariant h₀ ?_
    rintro ⟨s, h⟩ e ⟨t, k⟩ hI hC hstep
    obtain ⟨hst, hk⟩ := Machine.withHistory_step.mp hstep
    obtain rfl : k = noteRequest h s e t := hk
    exact hI.step hC hst
  exact hI.sheets

/-! ## 4. Two runs -/

/-- Provider 16 accepts, and the travel time arrives. -/
def acceptEvents : List ClientEvent :=
  [.onMessage 1 (some (.obj [("RequestType", .str "trip_accepted"), ("ProviderId", .ofInt 16)])),
    .distanceReply 0 [("duration", .obj [("value", .ofInt 300), ("text", .str "5 mins")])] true]

/-- The test that `SheetsForOutstanding` fails. -/
def untimelySheet (x : ClientSession × RequestHistory) : Bool :=
  x.1.sheets.any fun sheet =>
    match sheet.openedBy with
    | some call => x.2.askedUnder[call]? != some .outstanding
    | none => false

theorem not_sheetsForOutstanding {x : ClientSession × RequestHistory}
    (h : untimelySheet x = true) : ¬SheetsForOutstanding x := by
  intro hs
  obtain ⟨sheet, hsheet, hcall⟩ := List.any_eq_true.mp h
  cases hopened : sheet.openedBy with
  | none => simp [hopened] at hcall
  | some call =>
    have hout := hs sheet hsheet call hopened
    simp [hopened, hout] at hcall

/-- The acceptance arrives in time: there is a sheet, and it is accounted for. -/
theorem sheets_for_outstanding_prompt :
    ∃ x : ClientSession × RequestHistory, x.1.sheets.length = 1 ∧ SheetsForOutstanding x := by
  obtain ⟨x, hrun, hlen⟩ := Machine.exists_run_of_replay
    ((machine sampleDistance).withHistory noteRequest) acceptanceInTime
    ({ device := sampleDevice }, {}) (requestEvents ++ acceptEvents)
    (fun x => x.1.sheets.length == 1) (fun _ _ h => h) (by decide +kernel)
  exact ⟨x, by simpa using hlen, sheets_for_outstanding sampleDevice hrun⟩

/-- **An acceptance after the cancellation opens the sheet.**  The request is posted, its
cancellation succeeds, and only then the acceptance arrives. -/
theorem late_acceptance_opens_sheet :
    ¬∀ (device : Device) (x : ClientSession × RequestHistory),
      ((machine sampleDistance).withHistory noteRequest).Run ({ device := device }, {}) x →
        SheetsForOutstanding x := by
  intro hall
  obtain ⟨x, hrun, hbad⟩ := Machine.exists_run_of_replay
    ((machine sampleDistance).withHistory noteRequest) (fun _ _ => true)
    ({ device := sampleDevice }, {})
    (requestEvents ++ [.cancelRequest, .cancelReply 0 true] ++ acceptEvents)
    untimelySheet (fun _ _ _ => trivial) (by decide +kernel)
  exact not_sheetsForOutstanding hbad (hall sampleDevice x hrun)

end ClientSession

end WeatherAccommodation
