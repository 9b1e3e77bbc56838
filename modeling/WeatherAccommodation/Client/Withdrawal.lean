/-
# Whom a cancellation reaches

A request names the providers listed when it is posted; its cancellation names those listed
when it is cancelled.  In between any status ping may change the list.  A provider that was
asked and whose non-connected ping came in meanwhile is not told, unless it has announced
itself in reach again.

`cancellations_reach_all` says that this is the only way to miss one: over any run in which
whoever leaves was listed once at most and nobody that was asked is missing at a cancellation,
every cancellation names everybody the request before it named.  `Lost` is read off the pings
alone; that it decides membership in the list is the invariant (`AskedListed.listed`).
-/
import WeatherAccommodation.Client.Steps

namespace WeatherAccommodation

open Foundation Reactive

namespace ClientSession

variable {distance : CLLocation → CLLocation → ℚ} {s t : ClientSession} {e : ClientEvent}

/-! ## 1. What was asked, and what has been heard since -/

/-- The `requested` bodies among those sent. -/
def requested (requests : List ServiceRequest) : List ServiceRequest :=
  requests.filter fun body => body.requestStatus == Request_Status.requested

/-- The providers named by the last `requested` body. -/
def lastAsked (requests : List ServiceRequest) : List Int :=
  ((requested requests).getLast?.map ServiceRequest.providerIds).getD []

/-- Each `cancelled` body names everybody the last `requested` body before it named. -/
def CancellationsReachAll (requests : List ServiceRequest) : Prop :=
  ∀ before body after, requests = before ++ body :: after →
    body.requestStatus = Request_Status.cancelled →
      ∀ id ∈ lastAsked before, id ∈ body.providerIds

/-- A notice, and where the client was when it came in. -/
abbrev Heard := Option CLLocation × ClientDashboard.Notice

/-- The provider of a status ping that the event delivers to `pingReceived`. -/
def pingOf (s : ClientSession) : ClientEvent → Option Provider
  | .onMessage socket (some (.obj dict)) =>
    if s.sockets.clientCommonDataSocket = some socket then some (Provider.ofDict dict) else none
  | _ => none

/-- What has been heard since the last `requested` body was sent. -/
def noteHeard (h : List Heard) (s : ClientSession) (e : ClientEvent) (t : ClientSession) :
    List Heard :=
  if (requested s.requests).length < (requested t.requests).length then []
  else h ++ ((pingOf s e).map fun p =>
    (s.dashboard.clientLocation, ClientDashboard.noticeOf p)).toList

/-- `id` left, and has not announced itself in reach since. -/
def Lost (distance : CLLocation → CLLocation → ℚ) (h : List Heard) (id : Int) : Prop :=
  Since (fun x => ClientDashboard.Departed id x.2)
    (fun x => ∃ here, x.1 = some here ∧ ClientDashboard.AnnouncedInReach distance here id x.2) h

/-- The condition on a step: a provider that leaves is listed once at most, and nobody that was
asked is lost when the request is cancelled. -/
def NobodyLost (distance : CLLocation → CLLocation → ℚ) (x : ClientSession × List Heard) :
    ClientEvent → Prop
  | .cancelRequest => ∀ id ∈ lastAsked x.1.requests, ¬Lost distance x.2 id
  | e => ∀ p, pingOf x.1 e = some p → p.status ≠ ProviderStatus.connected →
      x.1.dashboard.providerIds.count p.providerId ≤ 1

theorem requested_concat_of_requested {requests : List ServiceRequest} {body : ServiceRequest}
    (h : body.requestStatus = Request_Status.requested) :
    requested (requests ++ [body]) = requested requests ++ [body] := by
  simp [requested, h]

theorem requested_concat_of_cancelled {requests : List ServiceRequest} {body : ServiceRequest}
    (h : body.requestStatus = Request_Status.cancelled) :
    requested (requests ++ [body]) = requested requests := by
  have hne : (Request_Status.cancelled == Request_Status.requested) = false := by decide
  simp [requested, h, hne]

/-- A further `requested` body is no cancellation. -/
theorem CancellationsReachAll.requested {requests : List ServiceRequest} {body : ServiceRequest}
    (h : CancellationsReachAll requests) (hb : body.requestStatus = Request_Status.requested) :
    CancellationsReachAll (requests ++ [body]) := by
  intro before c after heq hc
  rcases List.eq_nil_or_concat after with rfl | ⟨after', z, rfl⟩
  · obtain ⟨_, hcb⟩ := List.append_inj' heq rfl
    obtain rfl : body = c := by simpa using hcb
    rw [hb] at hc
    exact absurd hc (by decide)
  · have heq' : requests ++ [body] = (before ++ c :: after') ++ [z] := by simpa using heq
    exact h before c after' (List.append_inj' heq' rfl).1 hc

/-- A cancellation has to name those asked last. -/
theorem CancellationsReachAll.cancelled {requests : List ServiceRequest} {body : ServiceRequest}
    (h : CancellationsReachAll requests)
    (hb : ∀ id ∈ lastAsked requests, id ∈ body.providerIds) :
    CancellationsReachAll (requests ++ [body]) := by
  intro before c after heq hc
  rcases List.eq_nil_or_concat after with rfl | ⟨after', z, rfl⟩
  · obtain ⟨hbefore, hcb⟩ := List.append_inj' heq rfl
    obtain rfl : body = c := by simpa using hcb
    exact hbefore ▸ hb
  · have heq' : requests ++ [body] = (before ++ c :: after') ++ [z] := by simpa using heq
    exact h before c after' (List.append_inj' heq' rfl).1 hc

/-! ## 2. What a step does to the list and to the requests -/

/-- The part of the session that the provider list hangs on. -/
structure ListView where
  providers : List Provider
  positions : List CLLocation
  isFirst : Bool
  listCalls : Callbacks Unit
  common : Option Nat

def listView (s : ClientSession) : ListView where
  providers := s.dashboard.arrOnlineProviders
  positions := s.dashboard.arrMarkers.map Marker.position
  isFirst := s.dashboard.isFirst
  listCalls := s.listCalls
  common := s.sockets.clientCommonDataSocket

/-- The ways a step can touch the list or the requests. -/
inductive ListMove (distance : CLLocation → CLLocation → ℚ) (s t : ClientSession) :
    ClientEvent → Prop where
  | stay {e : ClientEvent} (noPing : pingOf s e = none) (same : t.listView = s.listView)
      (requests : t.requests = s.requests) : ListMove distance s t e
  /-- The first location: the list is asked for. -/
  | first (l : CLLocation) (isFirst : s.dashboard.isFirst = true)
      (after : t = s.tracingLocation l) : ListMove distance s t (.tracingLocation l)
  /-- The list was not delivered. -/
  | failed (call : Nat) (waiting : s.listCalls.waiting call = some ())
      (after : t = { s with listCalls := s.listCalls.retire call }) :
      ListMove distance s t (.onlineProviderList call none)
  /-- The list is appended, and the status socket opened. -/
  | loaded (call : Nat) (response : Dict) (items : List Json) (d : ClientDashboard)
      (waiting : s.listCalls.waiting call = some ())
      (delivered : Dict.array? response "OnlineProviderList" = some items)
      (appended : ClientDashboard.appendOnlineProviders distance items s.dashboard = .ok d)
      (same : t.listView = ({ s with listCalls := s.listCalls.retire call }.put d).watchStatus.listView)
      (requests : t.requests = s.requests) :
      ListMove distance s t (.onlineProviderList call (some response))
  /-- A ping is handled. -/
  | ping {e : ClientEvent} (p : Provider) (d : ClientDashboard) (delivered : pingOf s e = some p)
      (handled : s.dashboard.handleStatus distance p = .ok d) (after : t = s.put d) :
      ListMove distance s t e
  /-- A request is posted. -/
  | asked (body : ServiceRequest) (same : t.listView = s.listView)
      (someone : s.dashboard.arrOnlineProviders ≠ [])
      (requests : t.requests = s.requests ++ [body])
      (status : body.requestStatus = Request_Status.requested)
      (names : body.providerIds = s.dashboard.providerIds) : ListMove distance s t .sendRequest
  /-- A cancellation is posted. -/
  | withdrawn (body : ServiceRequest) (same : t.listView = s.listView)
      (requests : t.requests = s.requests ++ [body])
      (status : body.requestStatus = Request_Status.cancelled)
      (names : body.providerIds = s.dashboard.providerIds) : ListMove distance s t .cancelRequest

/-- A message on another socket is no ping. -/
theorem pingOf_of_not_common {socket : Nat}
    (h : s.sockets.clientCommonDataSocket ≠ some socket) (text : Message) :
    pingOf s (.onMessage socket text) = none := by
  unfold pingOf
  split
  · rename_i heq
    obtain ⟨rfl, _⟩ := ClientEvent.onMessage.inj heq
    exact if_neg h
  · rfl

/-- Nor is a text that is no object. -/
theorem pingOf_of_not_object {socket : Nat} {text : Message} (h : messageDict text = .ok none) :
    pingOf s (.onMessage socket text) = none := by
  unfold pingOf
  split
  · rename_i heq
    obtain ⟨_, rfl⟩ := ClientEvent.onMessage.inj heq
    simp at h
  · rfl

/-- Resuming a trip opens the other socket. -/
theorem checkIfTripExists_listView (h : s.checkIfTripExists = .ok t) :
    t.listView = s.listView ∧ t.requests = s.requests := by
  rcases checkIfTripExists_inv h with ⟨_, rfl⟩ | ⟨trip, userID, _, ⟨_, here, rfl⟩ | ⟨_, rfl⟩⟩
  · exact ⟨rfl, rfl⟩
  · exact ⟨rfl, rfl⟩
  · exact ⟨rfl, rfl⟩

/-- Markers may change in every way but their place. -/
theorem listView_of_positions (hp : t.dashboard.arrOnlineProviders = s.dashboard.arrOnlineProviders)
    (hm : t.dashboard.arrMarkers.map Marker.position
      = s.dashboard.arrMarkers.map Marker.position)
    (hf : t.dashboard.isFirst = s.dashboard.isFirst) (hl : t.listCalls = s.listCalls)
    (hc : t.sockets.clientCommonDataSocket = s.sockets.clientCommonDataSocket) :
    t.listView = s.listView := by
  simp only [listView, hp, hm, hf, hl, hc]

/-- **Every step is one of these.** -/
theorem step_listMove (h : (machine distance).Step s e t) : ListMove distance s t e := by
  have hstep := step_inv h
  cases e with
  | tracingLocation l =>
    obtain rfl : t = s.tracingLocation l := hstep
    cases hf : s.dashboard.isFirst with
    | true => exact .first l hf rfl
    | false =>
      refine .stay rfl ?_ ?_
      · unfold tracingLocation
        rw [if_neg (by simp [hf])]
        exact rfl
      · unfold tracingLocation
        rw [if_neg (by simp [hf])]
        rfl
  | onlineProviderList call response =>
    obtain ⟨hw, hlist⟩ := hstep
    rcases onlineProviderList_inv hlist with
      ⟨rfl, rfl⟩ | ⟨r, items, d, rfl, hitems, happend, hcheck⟩
    · exact .failed call hw rfl
    · obtain ⟨hsame, hreq⟩ := checkIfTripExists_listView hcheck
      exact .loaded call r items d hw hitems happend hsame hreq
  | onMessage socket text =>
    rcases hstep with ⟨hcommon, d, hping, rfl⟩ | ⟨hcommon, _, hmsg⟩ | ⟨hcommon, _, rfl⟩
    · simp only [ClientDashboard.pingReceived, bind_eq_ok] at hping
      obtain ⟨o, ho, hping⟩ := hping
      cases o with
      | none =>
        rw [pure_eq_ok] at hping
        subst hping
        exact .stay (pingOf_of_not_object ho) rfl rfl
      | some dict =>
        obtain rfl := eq_obj_of_messageDict ho
        exact .ping (Provider.ofDict dict) d (by simp [pingOf, hcommon]) hping rfl
    · have hno := pingOf_of_not_common hcommon text
      rcases requestMessage_inv hmsg with rfl | ⟨dict, _, rfl⟩
      · exact .stay hno rfl rfl
      · exact .stay hno rfl rfl
    · exact .stay (pingOf_of_not_common hcommon text) rfl rfl
  | sendRequest =>
    rcases sendRequest_inv hstep.2 with rfl | ⟨marker, markers, body, hpost, hpos, hbody, rfl⟩
    · exact .stay rfl rfl rfl
    · obtain ⟨_, _, _, _, _, _, _, hids, hstatus⟩ := ClientDashboard.requestParameters_inv hbody
      have hsome := (ClientDashboard.sendRequest_eq_post.mp hpost).2.1
      exact .asked body (listView_of_positions rfl hpos rfl rfl rfl) hsome rfl hstatus hids
  | requestReply call success =>
    obtain ⟨userID, _, rfl⟩ := hstep
    cases success with
    | true => exact .stay rfl rfl rfl
    | false => exact .stay rfl rfl rfl
  | cancelRequest =>
    obtain ⟨body, hbody, rfl⟩ := cancelRequestThroughWS_inv hstep.2
    obtain ⟨_, hids, hstatus⟩ := ClientDashboard.cancelParameters_inv hbody
    exact .withdrawn body rfl rfl hstatus hids
  | cancelReply call success =>
    rcases cancelReply_inv hstep.2 with ⟨_, rfl⟩ | ⟨frame, _, rfl⟩
    · exact .stay rfl rfl rfl
    · exact .stay rfl rfl rfl
  | timerFires timer =>
    obtain ⟨_, rfl⟩ := hstep
    exact .stay rfl rfl rfl
  | distanceReply call values success =>
    obtain ⟨dict, _, hreply⟩ := hstep
    rcases distanceReply_inv hreply with
      ⟨markers, hpos, rfl⟩ | ⟨_, _, u, markers, henter, hpos, rfl⟩
    · exact .stay rfl (listView_of_positions rfl hpos rfl rfl rfl) rfl
    · obtain ⟨eta, here, marker, rfl⟩ := enterTrip_inv henter
      exact .stay rfl (listView_of_positions rfl hpos rfl rfl rfl) rfl
  | distanceTimerFires =>
    rcases callDistanceMatrixAPI_inv hstep with ⟨_, rfl⟩ | ⟨dict, _, rfl⟩
    · exact .stay rfl rfl rfl
    · exact .stay rfl rfl rfl
  | receivingLocationUpdate text =>
    obtain ⟨_, rfl⟩ := hstep
    exact .stay rfl rfl rfl
  | viewWillAppear =>
    obtain ⟨d, hclear, rfl⟩ := hstep
    obtain ⟨marker, markers, hpos, rfl⟩ := ClientDashboard.clearTrip_inv hclear
    exact .stay rfl (listView_of_positions rfl hpos rfl rfl rfl) rfl
  | selectedProducts products =>
    obtain ⟨d, hproducts, rfl⟩ := hstep
    obtain ⟨u, c, b, _, _, _, rfl⟩ := ClientDashboard.showSelectedProducts_inv hproducts
    exact .stay rfl rfl rfl
  | elsewhere device busy =>
    obtain rfl : t = { s with device := device, isPresenting := busy } := hstep
    exact .stay rfl rfl rfl

/-- Whoever leaves was listed once at most. -/
theorem NobodyLost.once {h : List Heard} {p : Provider} (hC : NobodyLost distance (s, h) e)
    (hp : pingOf s e = some p) (hstatus : p.status ≠ ProviderStatus.connected) :
    s.dashboard.providerIds.count p.providerId ≤ 1 := by
  unfold NobodyLost at hC
  split at hC
  · exact absurd hp (by simp [pingOf])
  · exact hC p hp hstatus

/-! ## 3. Being lost is being off the list -/

/-- The invariant. -/
structure AskedListed (distance : CLLocation → CLLocation → ℚ)
    (x : ClientSession × List Heard) : Prop where
  once : x.1.listCalls.issued ≤ 1
  unasked : x.1.dashboard.isFirst = true → x.1.listCalls.issued = 0
  /-- Before the list is delivered there is nobody to ask, and no socket to ping on. -/
  unloaded : (x.1.dashboard.isFirst = true ∨ ∃ call, x.1.listCalls.waiting call = some ()) →
    x.1.dashboard.arrOnlineProviders = [] ∧ x.1.sockets.clientCommonDataSocket = none ∧
      requested x.1.requests = []
  listed : ∀ id ∈ lastAsked x.1.requests,
    id ∈ x.1.dashboard.providerIds ↔ ¬Lost distance x.2 id
  reached : CancellationsReachAll x.1.requests

theorem noteHeard_of_requested_eq {h : List Heard} (hr : requested t.requests = requested s.requests)
    (hp : pingOf s e = none) : noteHeard h s e t = h := by
  simp [noteHeard, hr, hp]

theorem lastAsked_of_requested_eq {l₁ l₂ : List ServiceRequest}
    (h : requested l₁ = requested l₂) : lastAsked l₁ = lastAsked l₂ := by
  rw [lastAsked, h, lastAsked]

theorem lastAsked_concat {requests : List ServiceRequest} {body : ServiceRequest}
    (h : body.requestStatus = Request_Status.requested) :
    lastAsked (requests ++ [body]) = body.providerIds := by
  simp [lastAsked, requested_concat_of_requested h]

/-- What keeps the list, the sent requests apart from a covering cancellation, and the
notices, keeps the invariant. -/
theorem AskedListed.of_listView {h : List Heard} (hI : AskedListed distance (s, h))
    (same : t.listView = s.listView) (hreq : requested t.requests = requested s.requests)
    (hreach : CancellationsReachAll t.requests) : AskedListed distance (t, h) := by
  have hproviders : t.dashboard.arrOnlineProviders = s.dashboard.arrOnlineProviders :=
    congrArg ListView.providers same
  have hfirst : t.dashboard.isFirst = s.dashboard.isFirst := congrArg ListView.isFirst same
  have hcalls : t.listCalls = s.listCalls := congrArg ListView.listCalls same
  have hcommon : t.sockets.clientCommonDataSocket = s.sockets.clientCommonDataSocket :=
    congrArg ListView.common same
  refine ⟨?_, ?_, ?_, ?_, hreach⟩
  · simp only [hcalls]
    exact hI.once
  · simp only [hcalls, hfirst]
    exact hI.unasked
  · simp only [hcalls, hfirst, hproviders, hcommon, hreq]
    exact hI.unloaded
  · simp only [lastAsked_of_requested_eq hreq, ClientDashboard.providerIds, hproviders]
    exact hI.listed

/-- A handled ping moves membership and `Lost` together. -/
theorem lost_ping {d d' : ClientDashboard} {p : Provider} {h : List Heard} {id : Int}
    (hone : p.status ≠ ProviderStatus.connected → d.providerIds.count p.providerId ≤ 1)
    (hping : d.handleStatus distance p = .ok d')
    (hlisted : id ∈ d.providerIds ↔ ¬Lost distance h id) :
    id ∈ d'.providerIds ↔
      ¬Lost distance (h ++ [(d.clientLocation, ClientDashboard.noticeOf p)]) id := by
  rw [Lost, since_concat]
  by_cases hc : p.status = ProviderStatus.connected
  · have hnotice : ClientDashboard.noticeOf p = .announced p := if_pos hc
    simp only [hnotice, ClientDashboard.Departed, ClientDashboard.AnnouncedInReach, false_or,
      not_and, not_not]
    rcases ClientDashboard.handleStatus_cases hping with
      ⟨_, hold, rfl⟩ | ⟨_, hnew, here, l, hhere, hl, ⟨hnear, rfl⟩ | ⟨hfar, rfl⟩⟩ | ⟨hnc, _⟩
    · constructor
      · exact fun hid hlost => absurd hlost (hlisted.mp hid)
      · intro himp
        by_contra hid
        obtain ⟨_, _, rfl, _⟩ := himp (not_not.mp (mt hlisted.mpr hid))
        exact hid hold
    · have hids : (d.append p l).providerIds = d.providerIds ++ [p.providerId] := by
        simp [ClientDashboard.providerIds, ClientDashboard.append]
      rw [hids, List.mem_append, List.mem_singleton]
      constructor
      · rintro (hid | rfl) hlost
        · exact absurd hlost (hlisted.mp hid)
        · exact ⟨here, hhere, rfl, l, hl, hnear⟩
      · intro himp
        by_cases hid : id ∈ d.providerIds
        · exact Or.inl hid
        · obtain ⟨_, _, heq, _⟩ := himp (not_not.mp (mt hlisted.mpr hid))
          exact Or.inr heq.symm
    · constructor
      · exact fun hid hlost => absurd hlost (hlisted.mp hid)
      · intro himp
        by_contra hid
        obtain ⟨here', hhere', _, l', hl', hnear⟩ := himp (not_not.mp (mt hlisted.mpr hid))
        obtain rfl : here = here' := by simpa [hhere] using hhere'
        obtain rfl : l = l' := by simpa [hl] using hl'
        exact hfar hnear
    · exact absurd hc hnc
  · have hnotice : ClientDashboard.noticeOf p = .departed p.providerId := if_neg hc
    simp only [hnotice, ClientDashboard.Departed, ClientDashboard.AnnouncedInReach, and_false,
      exists_false, not_false_eq_true, and_true]
    rcases ClientDashboard.handleStatus_cases hping with
      ⟨hc', _⟩ | ⟨hc', _⟩ | ⟨_, hleft⟩
    · exact absurd hc' hc
    · exact absurd hc' hc
    · obtain ⟨markers, rfl⟩ := hleft (hone hc)
      have hids : id ∈ d.providerIds.filter (fun j => !(j == p.providerId)) ↔
          id ∈ d.providerIds ∧ id ≠ p.providerId := by
        simp
      have hmap : (ClientDashboard.providerIds { d with
            arrOnlineProviders :=
              d.arrOnlineProviders.filter fun q => !(q.providerId == p.providerId)
            arrMarkers := markers })
          = d.providerIds.filter (fun j => !(j == p.providerId)) := by
        simp only [ClientDashboard.providerIds, List.filter_map]
        rfl
      rw [hmap, hids, hlisted, not_or]
      exact ⟨fun h => ⟨fun heq => h.2 heq.symm, h.1⟩, fun h => ⟨h.2, fun heq => h.1 heq.symm⟩⟩

/-- The list that was asked for is put on the dashboard: nobody was asked before. -/
theorem AskedListed.loaded {h : List Heard} {call : Nat} {items : List Json} {d : ClientDashboard}
    (hI : AskedListed distance (s, h)) (waiting : s.listCalls.waiting call = some ())
    (appended : ClientDashboard.appendOnlineProviders distance items s.dashboard = .ok d) :
    AskedListed distance
      (({ s with listCalls := s.listCalls.retire call }.put d).watchStatus, h) := by
  obtain ⟨_, _, hnone⟩ := hI.unloaded (Or.inr ⟨call, waiting⟩)
  have hlt : call < s.listCalls.issued := Callbacks.lt_issued_of_waiting waiting
  have honce : s.listCalls.issued ≤ 1 := hI.once
  have hnofirst : d.isFirst = false := by
    obtain ⟨ps, ms, rfl⟩ := ClientDashboard.appendOnlineProviders_frame appended
    by_contra hf
    have hzero : s.listCalls.issued = 0 := hI.unasked (by simpa using hf)
    omega
  have hnocall : ∀ i, (s.listCalls.retire call).waiting i ≠ some () := by
    intro i hi
    have hlti : i < (s.listCalls.retire call).issued := Callbacks.lt_issued_of_waiting hi
    rw [Callbacks.issued_retire] at hlti
    obtain rfl : call = i := by omega
    simp [Callbacks.waiting_retire] at hi
  have hlast : lastAsked s.requests = [] := by simp [lastAsked, hnone]
  refine ⟨by simpa [watchStatus, put] using honce, ?_, ?_, ?_, hI.reached⟩
  · intro hf
    exact absurd (hnofirst ▸ hf) (by simp)
  · rintro (hf | ⟨i, hi⟩)
    · exact absurd (hnofirst ▸ hf) (by simp)
    · exact absurd hi (hnocall i)
  · intro id hid
    have hid' : id ∈ lastAsked s.requests := hid
    rw [hlast] at hid'
    exact absurd hid' (by simp)

/-- A ping comes on a socket that is opened with the list. -/
theorem AskedListed.ping {h : List Heard} {p : Provider} {d : ClientDashboard}
    (hI : AskedListed distance (s, h)) (delivered : pingOf s e = some p)
    (hone : p.status ≠ ProviderStatus.connected →
      s.dashboard.providerIds.count p.providerId ≤ 1)
    (handled : s.dashboard.handleStatus distance p = .ok d) : AskedListed distance
      (s.put d, h ++ [(s.dashboard.clientLocation, ClientDashboard.noticeOf p)]) := by
  have hcommon : s.sockets.clientCommonDataSocket ≠ none := by
    intro hnone
    unfold pingOf at delivered
    split at delivered
    · simp [hnone] at delivered
    · simp at delivered
  have hfirst : d.isFirst = s.dashboard.isFirst := by
    obtain ⟨ps, ms, rfl⟩ := ClientDashboard.handleStatus_frame handled
    rfl
  refine ⟨hI.once, ?_, ?_, ?_, hI.reached⟩
  · intro hf
    exact hI.unasked (hfirst ▸ hf)
  · intro hun
    have hun' : s.dashboard.isFirst = true ∨ ∃ call, s.listCalls.waiting call = some () := by
      simpa [put, hfirst] using hun
    exact absurd (hI.unloaded hun').2.1 hcommon
  · intro id hid
    exact lost_ping hone handled (hI.listed id hid)

/-- Whoever is listed is asked, and nothing was heard of them since. -/
theorem AskedListed.asked {h : List Heard} {body : ServiceRequest}
    (hI : AskedListed distance (s, h)) (same : t.listView = s.listView)
    (someone : s.dashboard.arrOnlineProviders ≠ []) (requests : t.requests = s.requests ++ [body])
    (status : body.requestStatus = Request_Status.requested)
    (names : body.providerIds = s.dashboard.providerIds) : AskedListed distance (t, []) := by
  have hloaded : ¬(s.dashboard.isFirst = true ∨
      ∃ call, s.listCalls.waiting call = some ()) := by
    intro hun
    exact someone (hI.unloaded hun).1
  have hproviders : t.dashboard.providerIds = s.dashboard.providerIds := by
    have hp : t.dashboard.arrOnlineProviders = s.dashboard.arrOnlineProviders :=
      congrArg ListView.providers same
    rw [ClientDashboard.providerIds, hp, ClientDashboard.providerIds]
  have hfirst : t.dashboard.isFirst = s.dashboard.isFirst := congrArg ListView.isFirst same
  have hcalls : t.listCalls = s.listCalls := congrArg ListView.listCalls same
  refine ⟨?_, ?_, ?_, ?_, ?_⟩
  · simp only [hcalls]
    exact hI.once
  · simp only [hfirst, hcalls]
    exact hI.unasked
  · simp only [hfirst, hcalls]
    exact fun hun => absurd hun hloaded
  · simp only [requests, lastAsked_concat status, names, hproviders]
    intro id hid
    exact ⟨fun _ => not_since_nil, fun _ => hid⟩
  · simp only [requests]
    exact hI.reached.requested status

/-- **One step keeps the invariant.** -/
theorem AskedListed.step {h : List Heard} (hI : AskedListed distance (s, h))
    (hC : NobodyLost distance (s, h) e) (hstep : (machine distance).Step s e t) :
    AskedListed distance (t, noteHeard h s e t) := by
  cases step_listMove hstep with
  | stay noPing same requests =>
    rw [noteHeard_of_requested_eq (by rw [requests]) noPing]
    exact hI.of_listView same (by rw [requests]) (by rw [requests]; exact hI.reached)
  | first l isFirst after =>
    have hreq : t.requests = s.requests := by rw [after, tracingLocation, if_pos isFirst]
    have hissued : s.listCalls.issued = 0 := hI.unasked isFirst
    obtain ⟨hnil, hcommon, hnone⟩ := hI.unloaded (Or.inl isFirst)
    rw [noteHeard_of_requested_eq (by rw [hreq]) rfl, after, tracingLocation, if_pos isFirst]
    refine ⟨?_, ?_, ?_, hI.listed, hI.reached⟩
    · simp [hissued]
    · simp
    · exact fun _ => ⟨hnil, hcommon, hnone⟩
  | failed call waiting after =>
    rw [noteHeard_of_requested_eq (by rw [after]) rfl, after]
    refine ⟨by simpa using hI.once, by simpa using hI.unasked, ?_, hI.listed, hI.reached⟩
    exact fun _ => hI.unloaded (Or.inr ⟨call, waiting⟩)
  | loaded call response items d waiting delivered appended same requests =>
    rw [noteHeard_of_requested_eq (by rw [requests]) rfl]
    exact (hI.loaded waiting appended).of_listView same (by rw [requests]; rfl)
      (by rw [requests]; exact hI.reached)
  | ping p d delivered handled after =>
    subst after
    have hnote : noteHeard h s e (s.put d) = h ++ [(s.dashboard.clientLocation,
        ClientDashboard.noticeOf p)] := by
      simp [noteHeard, delivered, put]
    rw [hnote]
    exact hI.ping delivered (hC.once delivered) handled
  | asked body same someone requests status names =>
    have hmore : requested t.requests = requested s.requests ++ [body] := by
      rw [requests, requested_concat_of_requested status]
    have hnote : noteHeard h s .sendRequest t = [] := if_pos (by simp [hmore])
    rw [hnote]
    exact hI.asked same someone requests status names
  | withdrawn body same requests status names =>
    have hsame : requested t.requests = requested s.requests := by
      rw [requests, requested_concat_of_cancelled status]
    rw [noteHeard_of_requested_eq hsame rfl]
    refine hI.of_listView same hsame ?_
    rw [requests]
    refine hI.reached.cancelled ?_
    intro id hid
    rw [names]
    exact (hI.listed id hid).mpr (hC id hid)

/-- **Cancellations reach everybody that was asked and is not lost.**  From any device
globals, over any interleaving of pings, locations, requests and cancellations in which whoever
leaves was listed once at most and nobody asked is lost when a request is cancelled. -/
theorem cancellations_reach_all (device : Device) {x : ClientSession × List Heard}
    (hrun : ((machine distance).withHistory noteHeard).RunWhere (NobodyLost distance)
      ({ device := device }, []) x) : CancellationsReachAll x.1.requests := by
  have h₀ : AskedListed distance ({ device := device }, []) := by
    refine ⟨by simp, fun _ => rfl, fun _ => ⟨rfl, rfl, rfl⟩, ?_, ?_⟩
    · simp [lastAsked, requested]
    · intro before body after heq
      simp at heq
  have hI : AskedListed distance x := by
    refine hrun.invariant h₀ ?_
    rintro ⟨s, h⟩ e ⟨t, k⟩ hI hC hstep
    obtain ⟨hst, hk⟩ := Machine.withHistory_step.mp hstep
    obtain rfl : k = noteHeard h s e t := hk
    exact hI.step hC hst
  exact hI.reached

/-! ## 4. Two runs -/

/-- A test that implies the condition: nobody at all has left since the request, and whoever left
before was listed once. -/
def nobodyLeft (x : ClientSession × List Heard) : ClientEvent → Bool
  | .cancelRequest => x.2.all fun heard =>
    match heard.2 with
    | .announced _ => true
    | .departed _ => false
  | e => (pingOf x.1 e).all fun p => p.status == ProviderStatus.connected ||
      decide (x.1.dashboard.providerIds.count p.providerId ≤ 1)

theorem nobodyLost_of_nobodyLeft {x : ClientSession × List Heard}
    (h : nobodyLeft x e = true) : NobodyLost distance x e := by
  unfold NobodyLost
  split
  · rintro id _ ⟨before, heard, after, heq, hleft, _⟩
    have hall := List.all_eq_true.mp h heard (by simp [heq])
    cases hn : heard.2 with
    | announced p => simp [hn, ClientDashboard.Departed] at hleft
    | departed j => simp [hn] at hall
  · rename_i hcancel
    intro p hp hstatus
    unfold nobodyLeft at h
    split at h
    · exact absurd rfl hcancel
    · simpa [hp, hstatus] using h

/-- Provider 17 turns up while the request waits; the cancellation names it too. -/
theorem cancellations_reach_all_newcomer :
    ∃ x : ClientSession × List Heard,
      x.1.requests.map ServiceRequest.providerIds = [[16], [16, 17]] ∧
        CancellationsReachAll x.1.requests := by
  obtain ⟨x, hrun, hids⟩ := Machine.exists_run_of_replay
    ((machine sampleDistance).withHistory noteHeard) nobodyLeft ({ device := sampleDevice }, [])
    (requestEvents ++
      [.onMessage 0 (some (.obj (ClientDashboard.statusOf 17 "40.002" "-73" "connected"))),
        .cancelRequest])
    (fun x => x.1.requests.map ServiceRequest.providerIds == [[16], [16, 17]])
    (fun _ _ => nobodyLost_of_nobodyLeft) (by decide +kernel)
  exact ⟨x, by simpa using hids, cancellations_reach_all sampleDevice hrun⟩

/-- A request followed by a cancellation that misses one of the providers asked. -/
def missedOne (x : ClientSession × List Heard) : Bool :=
  match x.1.requests with
  | [request, cancellation] =>
    request.requestStatus == Request_Status.requested &&
      cancellation.requestStatus == Request_Status.cancelled &&
      request.providerIds.any fun id => !cancellation.providerIds.contains id
  | _ => false

theorem not_cancellationsReachAll {x : ClientSession × List Heard} (h : missedOne x = true) :
    ¬CancellationsReachAll x.1.requests := by
  intro hreach
  unfold missedOne at h
  split at h
  · rename_i request cancellation hrequests
    simp only [Bool.and_eq_true, beq_iff_eq, List.any_eq_true] at h
    obtain ⟨⟨hreq, hcan⟩, id, hid, hmiss⟩ := h
    have hasked : id ∈ lastAsked ([] ++ [request]) := by
      rw [lastAsked_concat hreq]
      exact hid
    have hnamed := hreach [request] cancellation [] (by simp [hrequests]) hcan id hasked
    simp [hnamed] at hmiss
  · exact absurd h (by simp)

/-- **A provider that drops out while the request waits is not told.**  Provider 16 is asked,
its socket closes, the client cancels. -/
theorem dropped_provider_not_told :
    ¬∀ (device : Device) (x : ClientSession × List Heard),
      ((machine sampleDistance).withHistory noteHeard).Run ({ device := device }, []) x →
        CancellationsReachAll x.1.requests := by
  intro hall
  obtain ⟨x, hrun, hbad⟩ := Machine.exists_run_of_replay
    ((machine sampleDistance).withHistory noteHeard) (fun _ _ => true)
    ({ device := sampleDevice }, [])
    (requestEvents ++
      [.onMessage 0 (some (.obj (ClientDashboard.statusOf 16 "40.001" "-73" "disconnected"))),
        .cancelRequest])
    missedOne (fun _ _ _ => trivial) (by decide +kernel)
  exact not_cancellationsReachAll hbad (hall sampleDevice x hrun)

end ClientSession

end WeatherAccommodation
