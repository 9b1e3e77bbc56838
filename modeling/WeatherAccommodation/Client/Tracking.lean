/-
# What a dashboard keeps for its distance timer

Every tick of the timer asks for the travel time anew, and the answer labels markers.  That cannot
trap as long as every provider on the list has a marker and the client has been located, and it is
about the right message as long as nothing but its own answer touches a call that waits.  `Evolves`
says so of one step of a dashboard, and `step_evolves` that every step of the phone is one for each
of its dashboards.  `Tracks` is what comes of it along a run.
-/
import WeatherAccommodation.Client.Acceptance
import WeatherAccommodation.Client.Screens

namespace WeatherAccommodation

open Foundation Reactive

/-! ## 1. Providers and markers -/

namespace ClientDashboard

variable {distance : CLLocation → CLLocation → ℚ} {d d' : ClientDashboard} {p : Provider}

/-- There is a marker for every provider, and no other. -/
def IsPaired (d : ClientDashboard) : Prop := d.arrOnlineProviders.length = d.arrMarkers.length

theorem IsPaired.appendIfReachable (hd : d.IsPaired) (h : d.appendIfReachable distance p = .ok d') :
    d'.IsPaired := by
  obtain ⟨_, _, _, _, ⟨_, rfl⟩ | ⟨_, rfl⟩⟩ := appendIfReachable_cases h
  · simpa [IsPaired, append] using hd
  · exact hd

theorem IsPaired.handleStatus (hd : d.IsPaired) (h : d.handleStatus distance p = .ok d') :
    d'.IsPaired := by
  simp only [ClientDashboard.handleStatus, providerConnected, providerDisconnected] at h
  split at h
  · split at h
    · rw [pure_eq_ok] at h
      exact h ▸ hd
    · exact hd.appendIfReachable h
  · split at h
    · simp only [bind_eq_ok, pure_eq_ok, Prod.exists] at h
      obtain ⟨providers, markers, hloop, rfl⟩ := h
      exact length_of_eraseEnumerated hloop hd
    · rw [pure_eq_ok] at h
      exact h ▸ hd

theorem IsPaired.pingReceived {text : Message} (hd : d.IsPaired)
    (h : d.pingReceived distance text = .ok d') : d'.IsPaired := by
  simp only [ClientDashboard.pingReceived, bind_eq_ok] at h
  obtain ⟨o, _, h⟩ := h
  cases o with
  | none =>
    rw [pure_eq_ok] at h
    exact h ▸ hd
  | some dict => exact hd.handleStatus h

theorem IsPaired.appendOnlineProviders {items : List Json} {d d' : ClientDashboard}
    (hd : d.IsPaired) (h : ClientDashboard.appendOnlineProviders distance items d = .ok d') :
    d'.IsPaired := by
  induction items generalizing d with
  | nil =>
    obtain rfl : d = d' := by simpa [ClientDashboard.appendOnlineProviders] using h
    exact hd
  | cons item items ih =>
    simp only [ClientDashboard.appendOnlineProviders, bind_eq_ok, unwrap_eq_ok] at h
    obtain ⟨_, _, d₁, hone, hrest⟩ := h
    exact ih (hd.appendIfReachable hone) hrest

/-- Snippets come and go on the markers that are there. -/
theorem IsPaired.of_positions (hd : d.IsPaired)
    (hproviders : d'.arrOnlineProviders = d.arrOnlineProviders)
    (hmarkers : d'.arrMarkers.map Marker.position = d.arrMarkers.map Marker.position) :
    d'.IsPaired := by
  have hlength := congrArg List.length hmarkers
  rw [List.length_map, List.length_map] at hlength
  rw [IsPaired, hproviders, hlength]
  exact hd

end ClientDashboard

/-! ## 2. One dashboard -/

namespace ClientSession

variable {distance : CLLocation → CLLocation → ℚ} {s t : ClientSession} {e : ClientEvent}
  {told : Prop}

/-- What no handler takes away; `told` is that the dashboard is told of a location update. -/
structure Keeps (s t : ClientSession) (told : Prop) : Prop where
  paired : s.dashboard.IsPaired → t.dashboard.IsPaired
  located : s.dashboard.clientLocation.isSome = true → t.dashboard.clientLocation.isSome = true
  /-- A timer is made only by a dashboard that has a location. -/
  timers : t.distanceTimers = s.distanceTimers ∨ s.dashboard.clientLocation.isSome = true
  updates : ¬told → t.dashboard.locationUpdates = s.dashboard.locationUpdates

theorem Keeps.of_same (hdashboard : t.dashboard = s.dashboard)
    (htimers : t.distanceTimers = s.distanceTimers) : Keeps s t told where
  paired := by rw [hdashboard]; exact id
  located := by rw [hdashboard]; exact id
  timers := Or.inl htimers
  updates := by rw [hdashboard]; exact fun _ => rfl

/-- Only markers change. -/
theorem Keeps.of_positions
    (hproviders : t.dashboard.arrOnlineProviders = s.dashboard.arrOnlineProviders)
    (hmarkers : t.dashboard.arrMarkers.map Marker.position =
      s.dashboard.arrMarkers.map Marker.position)
    (hlocation : t.dashboard.clientLocation = s.dashboard.clientLocation)
    (htimers : t.distanceTimers = s.distanceTimers)
    (hupdates : t.dashboard.locationUpdates = s.dashboard.locationUpdates) : Keeps s t told where
  paired := fun hd => hd.of_positions hproviders hmarkers
  located := by rw [hlocation]; exact id
  timers := Or.inl htimers
  updates := fun _ => hupdates

/-- Who asks for a travel time knows where the client is. -/
theorem located_of_callDistanceMatrixAPI {dict : Dict}
    (h : s.callDistanceMatrixAPI (some (.obj dict)) = .ok t) :
    s.dashboard.clientLocation.isSome = true := by
  simp only [callDistanceMatrixAPI, messageDict_obj, bind_eq_ok] at h
  obtain ⟨_, hdict, h⟩ := h
  obtain rfl := Except.ok.inj hdict
  obtain ⟨here, hhere, _⟩ := bind_eq_ok.mp h
  simp [unwrap_eq_ok.mp hhere]

/-- An acceptance asks for one, and then makes a timer. -/
theorem located_of_requestMessage {text : Message} (h : s.requestMessage text = .ok t) :
    t.distanceTimers = s.distanceTimers ∨ s.dashboard.clientLocation.isSome = true := by
  rcases requestMessage_inv h with rfl | ⟨dict, ⟨rfl, htype⟩, _⟩
  · exact Or.inl rfl
  · right
    obtain ⟨user, huser, htext⟩ := Option.bind_eq_some_iff.mp htype
    simp only [requestMessage, messageDict_obj, bind_eq_ok] at h
    obtain ⟨_, hdict, h⟩ := h
    obtain rfl := Except.ok.inj hdict
    simp only [huser, bind_eq_ok, unwrap_eq_ok, htext, Option.some.injEq, exists_eq_left', if_true]
      at h
    obtain ⟨u, hcall, _⟩ := h
    have hlocated := located_of_callDistanceMatrixAPI hcall
    exact hlocated

/-- **No step takes away a location, or the marker of a provider.** -/
theorem step_keeps (h : (machine distance).Step s e t) :
    Keeps s t (∃ text, e = .receivingLocationUpdate text) := by
  have hstep := step_inv h
  cases e with
  | tracingLocation l =>
    obtain rfl : t = s.tracingLocation l := hstep
    unfold tracingLocation
    split
    · exact ⟨id, fun _ => rfl, Or.inl rfl, fun _ => rfl⟩
    · exact ⟨id, fun _ => rfl, Or.inl rfl, fun _ => rfl⟩
  | onlineProviderList call response =>
    obtain ⟨_, hlist⟩ := hstep
    rcases onlineProviderList_inv hlist with ⟨_, rfl⟩ | ⟨r, items, d, _, _, happend, hcheck⟩
    · exact .of_same rfl rfl
    · have hpaired : s.dashboard.IsPaired → d.IsPaired := fun hd => hd.appendOnlineProviders happend
      obtain ⟨ps, ms, rfl⟩ := ClientDashboard.appendOnlineProviders_frame happend
      rcases checkIfTripExists_inv hcheck with ⟨_, rfl⟩ | ⟨trip, userID, _, ⟨_, here, rfl⟩ | ⟨_, rfl⟩⟩
      · exact ⟨hpaired, id, Or.inl rfl, fun _ => rfl⟩
      · exact ⟨hpaired, id, Or.inl rfl, fun _ => rfl⟩
      · exact ⟨hpaired, id, Or.inl rfl, fun _ => rfl⟩
  | onMessage socket text =>
    rcases hstep with ⟨_, d, hping, rfl⟩ | ⟨_, _, hmsg⟩ | ⟨_, _, rfl⟩
    · have hpaired : s.dashboard.IsPaired → d.IsPaired := fun hd => hd.pingReceived hping
      obtain ⟨ps, ms, rfl⟩ := ClientDashboard.pingReceived_frame hping
      exact ⟨hpaired, id, Or.inl rfl, fun _ => rfl⟩
    · have htimers := located_of_requestMessage hmsg
      rcases requestMessage_inv hmsg with rfl | ⟨dict, _, rfl⟩
      · exact .of_same rfl rfl
      · exact ⟨id, id, htimers, fun _ => rfl⟩
    · exact .of_same rfl rfl
  | sendRequest =>
    rcases sendRequest_inv hstep.2 with rfl | ⟨_, markers, body, _, hpositions, _, rfl⟩
    · exact .of_same rfl rfl
    · exact .of_positions rfl hpositions rfl rfl rfl
  | requestReply call success =>
    obtain ⟨userID, _, rfl⟩ := hstep
    cases success with
    | true => exact ⟨id, id, Or.inl rfl, fun _ => rfl⟩
    | false => exact .of_same rfl rfl
  | cancelRequest =>
    obtain ⟨body, _, rfl⟩ := cancelRequestThroughWS_inv hstep.2
    exact ⟨id, id, Or.inl rfl, fun _ => rfl⟩
  | cancelReply call success =>
    rcases cancelReply_inv hstep.2 with ⟨_, rfl⟩ | ⟨frame, _, rfl⟩
    · exact .of_same rfl rfl
    · exact ⟨id, id, Or.inl rfl, fun _ => rfl⟩
  | timerFires timer =>
    obtain ⟨_, rfl⟩ := hstep
    exact ⟨id, id, Or.inl rfl, fun _ => rfl⟩
  | distanceReply call values success =>
    obtain ⟨dict, _, hreply⟩ := hstep
    rcases distanceReply_inv hreply with ⟨markers, hpositions, rfl⟩ |
      ⟨_, _, u, markers, henter, hpositions, rfl⟩
    · exact .of_positions rfl hpositions rfl rfl rfl
    · obtain ⟨eta, here, marker, rfl⟩ := enterTrip_inv henter
      exact .of_positions rfl hpositions rfl rfl rfl
  | distanceTimerFires =>
    rcases callDistanceMatrixAPI_inv hstep with ⟨_, rfl⟩ | ⟨dict, _, rfl⟩
    · exact .of_same rfl rfl
    · exact .of_same rfl rfl
  | receivingLocationUpdate text =>
    obtain ⟨_, rfl⟩ := hstep
    exact ⟨id, id, Or.inl rfl, fun hnot => absurd ⟨text, rfl⟩ hnot⟩
  | viewWillAppear =>
    obtain ⟨d, hclear, rfl⟩ := hstep
    obtain ⟨marker, markers, hpositions, rfl⟩ := ClientDashboard.clearTrip_inv hclear
    exact .of_positions rfl hpositions rfl rfl rfl
  | selectedProducts products =>
    obtain ⟨d, hproducts, rfl⟩ := hstep
    obtain ⟨u, c, b, _, _, _, rfl⟩ := ClientDashboard.showSelectedProducts_inv hproducts
    exact ⟨id, id, Or.inl rfl, fun _ => rfl⟩
  | elsewhere device busy =>
    obtain rfl : t = { s with device := device, isPresenting := busy } := hstep
    exact .of_same rfl rfl

/-- The call was made with this message, and has not been answered with another. -/
def Captured (s : ClientSession) (call : Nat) (dict : Dict) : Prop :=
  call < s.distanceCalls.issued ∧
    s.distanceCalls.All fun other captured => other = call → captured = dict

/-- What one step leaves to a dashboard. -/
structure Evolves (s t : ClientSession) (told : Prop) : Prop extends Keeps s t told where
  sheets : s.sheets ≠ [] → t.sheets ≠ []
  captured : ∀ call dict, s.Captured call dict → t.Captured call dict

theorem Captured.of_eq {call : Nat} {dict : Dict} (h : s.Captured call dict)
    (heq : t.distanceCalls = s.distanceCalls) : t.Captured call dict := by
  rw [Captured, heq]
  exact h

theorem Captured.issue {call : Nat} {dict captured : Dict} (h : s.Captured call dict)
    (heq : t.distanceCalls = s.distanceCalls.issue captured) : t.Captured call dict := by
  obtain ⟨hissued, hall⟩ := h
  rw [Captured, heq]
  refine ⟨by rw [Callbacks.issued_issue]; omega, hall.issue fun hcall => ?_⟩
  omega

theorem Captured.retire {call other : Nat} {dict : Dict} (h : s.Captured call dict)
    (heq : t.distanceCalls = s.distanceCalls.retire other) : t.Captured call dict := by
  rw [Captured, heq]
  exact ⟨by rw [Callbacks.issued_retire]; exact h.1, h.2.retire other⟩

/-- The new call. -/
theorem captured_issue {dict : Dict} (heq : t.distanceCalls = s.distanceCalls.issue dict) :
    t.Captured s.distanceCalls.issued dict := by
  rw [Captured, heq]
  refine ⟨by simp, ?_⟩
  intro other captured hwaiting hother
  rw [hother, Callbacks.waiting_issue, if_pos rfl] at hwaiting
  exact (Option.some.inj hwaiting).symm

/-- Sheets and calls stay as they are. -/
theorem Evolves.of_same (hkeeps : Keeps s t told) (hsheets : t.sheets = s.sheets)
    (hcalls : t.distanceCalls = s.distanceCalls) : Evolves s t told where
  toKeeps := hkeeps
  sheets := by rw [hsheets]; exact id
  captured := fun _ _ h => h.of_eq hcalls

theorem Evolves.refl (s : ClientSession) : Evolves s s told := .of_same (.of_same rfl rfl) rfl rfl

/-- So is a step of a dashboard. -/
theorem step_evolves (h : (machine distance).Step s e t) :
    Evolves s t (∃ text, e = .receivingLocationUpdate text) := by
  have hkeeps := step_keeps h
  cases step_tripMove h with
  | stay sheets calls _ => exact .of_same hkeeps sheets calls
  | update sheets calls _ => exact .of_same hkeeps sheets calls
  | ask dict sheets calls _ =>
    refine ⟨hkeeps, ?_, fun _ _ h => h.issue calls⟩
    rw [sheets]
    exact id
  | answer call sheets calls _ =>
    refine ⟨hkeeps, ?_, fun _ _ h => h.retire calls⟩
    rw [sheets]
    exact id
  | enter call dict sheet _ _ sheets _ calls _ =>
    exact ⟨hkeeps, fun _ => by simp [sheets], fun _ _ h => h.retire calls⟩
  | resume sheet sheets _ calls _ =>
    exact ⟨hkeeps, fun _ => by simp [sheets], fun _ _ h => h.of_eq calls⟩

/-- What a dashboard was lent makes no difference. -/
theorem Evolves.of_lend {a : ClientApp} (h : Evolves (a.lend s) t told) : Evolves s t told :=
  ⟨⟨h.paired, h.located, h.timers, h.updates⟩, h.sheets, h.captured⟩

theorem Evolves.mono {told' : Prop} (h : Evolves s t told) (himp : told → told') :
    Evolves s t told' :=
  ⟨⟨h.paired, h.located, h.timers, fun hnot => h.updates (mt himp hnot)⟩, h.sheets, h.captured⟩

/-- The list that came too late is appended all the same. -/
theorem lateProviderList_evolves {call : Nat} {response : Dict}
    (h : { s with listCalls := s.listCalls.retire call }.lateProviderList distance response = .ok t) :
    Evolves s t told := by
  simp only [lateProviderList, bind_eq_ok, unwrap_eq_ok] at h
  obtain ⟨items, _, d, happend, hcheck⟩ := h
  have hpaired : s.dashboard.IsPaired → d.IsPaired := fun hd => hd.appendOnlineProviders happend
  obtain ⟨ps, ms, rfl⟩ := ClientDashboard.appendOnlineProviders_frame happend
  obtain ⟨trip, userID, _, _, rfl⟩ := lateTripExists_inv hcheck
  exact .of_same ⟨hpaired, id, Or.inl rfl, fun _ => rfl⟩ rfl rfl

/-- The travel time that came too late is answered all the same. -/
theorem lateDistanceReply_evolves {call : Nat} {dict values : Dict}
    (h : { s with distanceCalls := s.distanceCalls.retire call }.lateDistanceReply dict values =
      .ok t) : Evolves s t told := by
  simp only [lateDistanceReply, lateEnterTrip, bind_eq_ok, unwrap_eq_ok, forceInt_eq_ok,
    pure_eq_ok] at h
  obtain ⟨_, ⟨_, _, _, _, _, _, rfl⟩, _, _, markers, hset, rfl⟩ := h
  have hpositions := ClientDashboard.setSnippets_positions hset
  exact ⟨.of_positions rfl hpositions rfl rfl rfl, id, fun _ _ h => h.retire rfl⟩

end ClientSession

/-! ## 3. All dashboards -/

namespace ClientApp

open ClientSession

variable {distance : CLLocation → CLLocation → ℚ} {a b : ClientApp} {e : AppEvent} {i : Nat}
  {t : ClientSession}

/-- A step of the app is one for each dashboard, or makes it. -/
theorem step_evolves (h : (machine distance).Step a e b) (ht : b.sessions[i]? = some t) :
    (∃ s, a.sessions[i]? = some s ∧
        Evolves s t (∃ text, e = .session i (.receivingLocationUpdate text))) ∨
      i = a.sessions.length ∧ t = { device := b.device } := by
  cases step_sessionMove h ht with
  | kept listed => exact Or.inl ⟨t, listed, .refl t⟩
  | @moved s ev own listed step =>
    refine Or.inl ⟨s, listed, (ClientSession.step_evolves step).of_lend.mono ?_⟩
    rintro ⟨text, rfl⟩
    exact ⟨text, rfl⟩
  | notified listed shown after =>
    obtain ⟨_, _, _, _, _, _, rfl⟩ := ClientDashboard.showSelectedProducts_inv shown
    rw [after]
    exact Or.inl ⟨_, listed, .of_same ⟨id, id, Or.inl rfl, fun _ => rfl⟩ rfl rfl⟩
  | fresh _ number new => exact Or.inr ⟨number, new⟩

end ClientApp

/-! ## 4. The phone -/

namespace ClientPhone

open ClientSession

variable {distance : CLLocation → CLLocation → ℚ} {p q : ClientPhone} {e : ClientPhoneEvent}
  {i : Nat} {s t : ClientSession}

/-- The event brings a location update. -/
def brings : ClientPhoneEvent → Bool
  | .onMessage _ text _ => isLocationUpdate text
  | _ => false

/-- What the dashboard with number `i` was before. -/
def Came (p q : ClientPhone) (i : Nat) (t : ClientSession) (told : Prop) : Prop :=
  (∃ s, p.app.sessions[i]? = some s ∧ Evolves s t told) ∨
    i = p.app.sessions.length ∧ t = { device := q.app.device }

theorem Came.of_eq {told : Prop} (ht : q.app.sessions[i]? = some t)
    (h : q.app.sessions = p.app.sessions) : Came p q i t told := by
  rw [h] at ht
  exact Or.inl ⟨t, ht, .refl t⟩

/-- A step of the app, seen from the phone. -/
theorem Came.of_step {b : ClientApp} {ev : AppEvent} {told : Prop}
    (h : (ClientApp.machine distance).Step p.app ev b) (ht : b.sessions[i]? = some t)
    (hdevice : q.app.device = b.device)
    (htold : (∃ text, ev = .session i (.receivingLocationUpdate text)) → told) :
    Came p q i t told := by
  rcases ClientApp.step_evolves h ht with ⟨s, hs, hevolves⟩ | ⟨hi, hnew⟩
  · exact Or.inl ⟨s, hs, hevolves.mono htold⟩
  · rw [← hdevice] at hnew
    exact Or.inr ⟨hi, hnew⟩

/-- A dashboard was put back. -/
theorem Came.of_store {k : Nat} {s' : ClientSession} {told : Prop}
    (hs : p.app.sessions[k]? = some s) (hevolves : Evolves (p.app.lend s) s' told)
    (ht : (p.app.store k s').sessions[i]? = some t) : Came p q i t told := by
  by_cases hk : k = i
  · subst hk
    have hlt : k < p.app.sessions.length := (List.getElem?_eq_some_iff.mp hs).1
    simp only [ClientApp.store, List.getElem?_set_self hlt, Option.some.injEq] at ht
    subst ht
    exact Or.inl ⟨s, hs, hevolves.of_lend⟩
  · simp only [ClientApp.store, List.getElem?_set_ne hk] at ht
    exact Or.inl ⟨t, ht, .refl t⟩

/-- Only a dashboard that the sheet told got a location update. -/
theorem isLocationUpdate_of_step {b : ClientApp} {k : Nat} {text : Message}
    (h : (ClientApp.machine distance).Step p.app (.session k (.receivingLocationUpdate text)) b) :
    isLocationUpdate text = true := by
  obtain ⟨_, s, s', _, hstep, _⟩ : ClientApp.StepOf distance p.app b
    (.session k (.receivingLocationUpdate text)) := ClientApp.step_inv h
  have hsession : ClientSession.StepOf distance (p.app.lend s) s'
      (.receivingLocationUpdate text) := ClientSession.step_inv hstep
  exact hsession.1

/-- **A step of the phone is one for each dashboard, or makes it.** -/
theorem step_evolves (h : (machine distance).Step p e q) (ht : q.app.sessions[i]? = some t) :
    Came p q i t (brings e = true) := by
  cases step_app h with
  | own ev admitted step sessions device =>
    rw [sessions] at ht
    refine .of_step step ht device ?_
    rintro ⟨text, rfl⟩
    exact absurd admitted (by simp [admits])
  | passed step asks after =>
    rw [after] at ht
    refine .of_step step ht (by rw [after]) ?_
    rintro ⟨text, heq⟩
    obtain ⟨rfl, rfl⟩ := AppEvent.session.inj heq
    cases asks with
    | app _ _ admitted => exact absurd admitted (by simp [admits])
    | passedOn socket text inBackground => exact isLocationUpdate_of_step step
  | lateList k call response listed late after =>
    rw [after] at ht
    exact .of_store listed (lateProviderList_evolves late) ht
  | lateDistance k call values listed late after =>
    rw [after] at ht
    exact .of_store listed (lateDistanceReply_evolves late) ht
  | quiet sessions _ => exact .of_eq ht sessions

/-- No dashboard goes. -/
theorem step_persists (h : (machine distance).Step p e q) (hs : p.app.sessions[i]? = some s) :
    ∃ t, q.app.sessions[i]? = some t ∧ Evolves s t (brings e = true) := by
  have hlt : i < p.app.sessions.length := (List.getElem?_eq_some_iff.mp hs).1
  have hlt' : i < q.app.sessions.length := by
    have hle := sessions_length_le h
    omega
  have ht := List.getElem?_eq_getElem hlt'
  rcases step_evolves h ht with ⟨s', hs', hevolves⟩ | ⟨hi, _⟩
  · obtain rfl : s = s' := Option.some.inj (hs.symm.trans hs')
    exact ⟨_, ht, hevolves⟩
  · omega

/-! ## 5. The sheets -/

/-- The dashboard that hears of location updates is there, and has opened a sheet. -/
def IsHeard (p : ClientPhone) (sheet : TripProviderDetail) : Prop :=
  ∃ s, p.app.sessions[sheet.delegate]? = some s ∧ s.sheets ≠ []

theorem IsHeard.step {sheet : TripProviderDetail} (hheard : p.IsHeard sheet)
    (h : (machine distance).Step p e q) : q.IsHeard sheet := by
  obtain ⟨s, hs, hsheets⟩ := hheard
  obtain ⟨t, ht, hevolves⟩ := step_persists h hs
  exact ⟨t, ht, hevolves.sheets hsheets⟩

/-- Every sheet was there, under the same dashboard, or is heard. -/
def Opened (p q : ClientPhone) : Prop :=
  ∀ sheet' ∈ q.sheets, (∃ sheet ∈ p.sheets, sheet.delegate = sheet'.delegate) ∨ q.IsHeard sheet'

theorem Opened.of_eq (h : q.sheets = p.sheets) : Opened p q := by
  intro sheet' hsheet'
  rw [h] at hsheet'
  exact Or.inl ⟨sheet', hsheet', rfl⟩

theorem Opened.of_set {j : Nat} {sheet sheet' : TripProviderDetail}
    (listed : p.sheets[j]? = some sheet) (h : q.sheets = p.sheets.set j sheet')
    (same : sheet'.delegate = sheet.delegate) : Opened p q := by
  intro other hother
  rw [h] at hother
  rcases List.mem_or_eq_of_mem_set hother with hother | rfl
  · exact Or.inl ⟨other, hother, rfl⟩
  · exact Or.inl ⟨sheet, List.mem_of_getElem? listed, same.symm⟩

theorem Opened.of_map (h : q.sheets = p.sheets.map TripProviderDetail.dismiss) : Opened p q := by
  intro other hother
  rw [h] at hother
  obtain ⟨sheet, hsheet, rfl⟩ := List.mem_map.mp hother
  exact Or.inl ⟨sheet, hsheet, rfl⟩

theorem opened_openSheet (p : ClientPhone) (i : Nat) (b : ClientApp) :
    Opened p (p.openSheet i b) := by
  unfold openSheet
  split
  · rename_i sheet hlast
    obtain ⟨s, hs, hlast⟩ := Option.bind_eq_some_iff.mp hlast
    intro other hother
    rcases List.mem_append.mp hother with hother | hother
    · exact Or.inl ⟨other, hother, rfl⟩
    · obtain rfl := List.mem_singleton.mp hother
      refine Or.inr ⟨s, hs, ?_⟩
      intro hnil
      rw [hnil] at hlast
      exact absurd hlast (by simp)
  · exact .of_eq rfl

theorem opened_follow (p : ClientPhone) (ev : AppEvent) (b : ClientApp) :
    Opened p (p.follow ev b) := by
  unfold follow
  split
  · unfold followList
    split
    · exact opened_openSheet p _ b
    · split
      · exact .of_eq rfl
      · exact .of_eq rfl
    · exact .of_eq rfl
  · unfold followDistance
    split
    · exact opened_openSheet p _ b
    · exact .of_eq rfl
  · unfold followDashboard
    split
    · exact .of_eq rfl
    · exact .of_eq rfl
  · unfold followDashboard
    split
    · exact .of_eq rfl
    · exact .of_eq rfl
  · exact .of_map rfl
  · exact .of_eq rfl

theorem opened_dismissFrom {j : Nat} {sheet : TripProviderDetail}
    (listed : p.sheets[j]? = some sheet) : Opened p (p.dismissFrom j sheet) := by
  unfold dismissFrom
  split
  · exact .of_eq rfl
  · exact .of_set listed rfl rfl

/-- **Sheets are opened by dashboards.** -/
theorem step_opened (h : (machine distance).Step p e q) : Opened p q := by
  have hof : StepOf distance p q e := step_inv h
  cases e with
  | app ev =>
    obtain ⟨_, b, _, rfl⟩ := hof
    exact opened_follow p ev b
  | didUpdateLocations l =>
    cases hof with
    | dashboard _ _ after => exact .of_eq (by rw [after])
    | sheet _ listed after => exact .of_set listed (congrArg ClientPhone.sheets after) rfl
    | alert _ _ after => exact .of_eq (by rw [after])
    | nobody _ after => exact .of_eq (by rw [after])
  | onMessage socket text inBackground =>
    cases hof with
    | dashboard _ _ after => exact .of_eq (by rw [after])
    | sheet _ listed handled =>
      rcases sheetMessage_inv handled with rfl | ⟨_, hreacts⟩
      · exact .of_eq rfl
      · have hdismissed := opened_dismissFrom listed
        cases hreacts with
        | nothing after => exact .of_eq (by rw [after])
        | reached _ _ after =>
          subst after
          exact hdismissed
        | cancelled _ after =>
          subst after
          exact hdismissed
        | located _ after => exact .of_eq (by rw [after])
        | started _ _ _ after =>
          subst after
          have hdismissed := @opened_dismissFrom (p.setFlag false) _ _ listed
          exact hdismissed
    | trip _ _ handled =>
      rcases tripMessage_inv handled with rfl | ⟨_, screen', _, rfl⟩
      · exact .of_eq rfl
      · exact .of_eq rfl
  | lateProviderList k call response =>
    obtain ⟨s, s', _, _, rfl⟩ := hof
    exact .of_eq rfl
  | lateDistance k call values =>
    obtain ⟨s, s', dict, _, _, rfl⟩ := hof
    exact .of_eq rfl
  | tripStatusReply existing =>
    obtain rfl : q = p.tripStatusReply existing := hof
    refine .of_eq ?_
    unfold tripStatusReply
    split
    · rfl
    · rfl
  | cancelRequest j sinceAccepted =>
    obtain ⟨sheet, _, _, rfl⟩ := hof
    refine .of_eq ?_
    unfold cancelRequest
    split
    · rfl
    · rfl
  | cancelTrip j =>
    obtain ⟨sheet, listed, _, hcancel⟩ := hof
    obtain ⟨_, _, _, rfl⟩ := cancelTrip_inv hcancel
    exact .of_set listed rfl rfl
  | leftBarItemDidTap j =>
    obtain ⟨sheet, listed, _, _, rfl⟩ := hof
    exact .of_set listed rfl rfl
  | btnSubmitPressed noShow dismisses =>
    obtain ⟨_, _, _, _, hsubmit⟩ := hof
    obtain ⟨_, _, _, rfl⟩ := btnSubmitPressed_inv hsubmit
    cases dismisses with
    | true => exact .of_map rfl
    | false => exact .of_eq rfl
  | showDashboard _ | pushOther | popViewController | dismissAlert | submitReview _
  | reviewReply _ => exact .of_eq (step_navigation h rfl).sheets

/-! ## 6. The invariant -/

/-- A dashboard whose timer can tick without a trap, and whose answers can be shown. -/
structure CanTrack (s : ClientSession) : Prop where
  paired : s.dashboard.IsPaired
  located : s.distanceTimers ≠ 0 → s.dashboard.clientLocation.isSome = true

theorem CanTrack.evolve {told : Prop} (hs : CanTrack s) (h : Evolves s t told) : CanTrack t where
  paired := h.paired hs.paired
  located := by
    intro htimers
    refine h.located ?_
    rcases h.timers with hsame | hlocated
    · exact hs.located (by omega)
    · exact hlocated

structure Tracks (p : ClientPhone) : Prop where
  sessions : ∀ (i : Nat) (s : ClientSession), p.app.sessions[i]? = some s → CanTrack s
  sheets : ∀ sheet ∈ p.sheets, p.IsHeard sheet

theorem Tracks.step (hp : p.Tracks) (h : (machine distance).Step p e q) : q.Tracks where
  sessions := by
    intro i t ht
    rcases step_evolves h ht with ⟨s, hs, hevolves⟩ | ⟨_, rfl⟩
    · exact (hp.sessions i s hs).evolve hevolves
    · exact ⟨rfl, fun hnone => absurd rfl hnone⟩
  sheets := by
    intro sheet' hsheet'
    rcases step_opened h sheet' hsheet' with ⟨sheet, hsheet, hsame⟩ | hheard
    · obtain ⟨t, ht, hsheets⟩ := (hp.sheets sheet hsheet).step h
      rw [hsame] at ht
      exact ⟨t, ht, hsheets⟩
    · exact hheard

/-- **Every dashboard of a phone can track, and every sheet is heard.** -/
theorem tracks_of_run {device : Device} {onMain : Bool}
    (h : (machine distance).Run { app := .launch device onMain } p) : p.Tracks := by
  refine h.invariant ⟨?_, ?_⟩ fun _ _ _ hp _ hstep => hp.step hstep
  · intro i s hs
    exact absurd hs (by simp [ClientApp.launch])
  · intro sheet hsheet
    exact absurd hsheet (by simp)

end ClientPhone

end WeatherAccommodation
