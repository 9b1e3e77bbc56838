/-
# A location frame, from the provider's app to the client's

The provider's `timerFired` prints its `location_updated` frame by hand, ids and coordinates alike
between quotes.  The client's sheet reads the type and passes the text on; the dashboard below keeps
it, asks at every tick of its distance timer how far the provider is, and reads the id back, from a
text, once the answer has come.

* `jsonObject_timerFiredText`: the text is JSON, and says what was meant.
* `step_located`, `step_tick` and `step_answer`: the three steps on the client's phone.
* `location_frame_agrees`: all of it, with anything else in between but a newer location frame.
-/
import WeatherAccommodation.AcceptedTrip
import WeatherAccommodation.Client.Tracking
import WeatherAccommodation.Library.JsonText

namespace WeatherAccommodation

open Foundation Reactive JSONSerialization

/-! ## 1. The text -/

/-- What `timerFired` writes, with `self.latitude` and `self.longitude`. -/
def timerFiredText (clientId providerId : Int) (latitude longitude : String) : String :=
  "\x7b\"ClientId\":\"" ++ toString clientId ++ "\",\"ProviderId\":\"" ++ toString providerId ++
    "\",\"Latitude\":\"" ++ latitude ++ "\",\"Longitude\":\"" ++ longitude ++
    "\",\"UserType\":\"provider\",\"RequestType\":\"" ++ Request_Status.locationUpdated ++ "\"\x7d"

/-- A coordinate as it is printed; both texts are empty before the first report. -/
def coordinateText (print : ℚ → String) (location : Option CLLocation)
    (coordinate : CLLocation → Double) : String :=
  (location.map fun here => (coordinate here).description print).getD ""

/-- The text of a `location_updated` frame whose client has an integer for an id.  How a `Double` is
printed is up to Swift. -/
def ProviderFrame.locationText? (print : ℚ → String) : ProviderFrame → Option String
  | .locationUpdated clientId providerId location =>
    clientId.asInt?.map fun clientId => timerFiredText clientId providerId
      (coordinateText print location CLLocation.latitude)
      (coordinateText print location CLLocation.longitude)
  | _ => none

/-- The fields that are meant. -/
def locationFields (clientId providerId : Int) (latitude longitude : String) :
    List (String × String) :=
  [("ClientId", toString clientId), ("ProviderId", toString providerId), ("Latitude", latitude),
    ("Longitude", longitude), ("UserType", "provider"),
    ("RequestType", Request_Status.locationUpdated)]

section Text

variable {clientId providerId : Int} {latitude longitude : String}

theorem toList_timerFiredText (clientId providerId : Int) (latitude longitude : String) :
    (timerFiredText clientId providerId latitude longitude).toList =
      printed (locationFields clientId providerId latitude longitude) := by
  unfold timerFiredText printed locationFields
  generalize toString clientId = c
  generalize toString providerId = p
  generalize Request_Status.locationUpdated = r
  simp [String.toList_append, printedMembers, quoted]

/-- **The text is read back as it was meant.** -/
theorem jsonObject_timerFiredText (hlat : IsNumeric latitude) (hlong : IsNumeric longitude) :
    jsonObject (timerFiredText clientId providerId latitude longitude) =
      some (.obj (dictOf (locationFields clientId providerId latitude longitude))) := by
  have hclient : IsPlain "ClientId" := by decide +kernel
  have hprovider : IsPlain "ProviderId" := by decide +kernel
  have hlatitude : IsPlain "Latitude" := by decide +kernel
  have hlongitude : IsPlain "Longitude" := by decide +kernel
  refine jsonObject_of_printed (toList_timerFiredText clientId providerId latitude longitude)
    (by simp [locationFields]) ?_
  intro f hf
  simp only [locationFields, List.mem_cons, List.not_mem_nil, or_false] at hf
  rcases hf with rfl | rfl | rfl | rfl | rfl | rfl
  · exact ⟨hclient, (isNumeric_toString clientId).isPlain⟩
  · exact ⟨hprovider, (isNumeric_toString providerId).isPlain⟩
  · exact ⟨hlatitude, hlat.isPlain⟩
  · exact ⟨hlongitude, hlong.isPlain⟩
  · exact ⟨by decide +kernel, by decide +kernel⟩
  · exact ⟨by decide +kernel, by decide +kernel⟩

end Text

/-- A tick of the provider's timer writes such a text. -/
theorem ProviderApp.timerFired_writes (print : ℚ → String) {a b : ProviderApp}
    {d : ProviderDashboard} {trip : Dict} {clientId : Int} (h : a.timerFired d = .ok b)
    (htrip : d.currentAcceptedRequest = some trip)
    (hclient : Dict.int? trip "ClientId" = some clientId) :
    ∃ socket frame providerId, b = a.write socket frame ∧
      a.device.userID .providerApp = .ok providerId ∧
      frame.locationText? print = some (timerFiredText clientId providerId
        (coordinateText print d.location CLLocation.latitude)
        (coordinateText print d.location CLLocation.longitude)) := by
  obtain ⟨socket, client, providerId, ⟨_, hid, trip', htrip', hkey⟩, rfl⟩ := timerFired_inv h
  obtain rfl : trip = trip' := Option.some.inj (htrip.symm.trans htrip')
  rw [Dict.int?, hkey, Option.bind_some] at hclient
  exact ⟨socket, _, providerId, rfl, hid, by simp [ProviderFrame.locationText?, hclient]⟩

/-! ## 2. What it says -/

/-- `org_lat` and `org_long` of the parameters that `callDistanceMatrixAPI` makes of a message. -/
def distanceOrigin (dict : Dict) : Option Json × Option Json :=
  (Dict.get? dict "Latitude", Dict.get? dict "Longitude")

/-- A location update about that provider. -/
structure Says (dict : Dict) (providerId : Int) (latitude longitude : String) : Prop where
  requestType : Dict.string? dict "RequestType" = some Request_Status.locationUpdated
  /-- The id is a text, and `Int` reads it. -/
  provider : (Dict.string? dict "ProviderId").bind Foundation.int? = some providerId
  origin : distanceOrigin dict = (some (.str latitude), some (.str longitude))

theorem says_locationFields {clientId providerId : Int} (hid : InInt providerId)
    (latitude longitude : String) :
    Says (dictOf (locationFields clientId providerId latitude longitude)) providerId latitude
      longitude where
  requestType := rfl
  provider := by
    have htext : Dict.string? (dictOf (locationFields clientId providerId latitude longitude))
        "ProviderId" = some (toString providerId) := rfl
    rw [htext, Option.bind_some, int?_toString hid]
  origin := rfl

/-! ## 3. Which markers are labelled -/

namespace ClientDashboard

variable {d d' : ClientDashboard} {id : Int} {text : String}

/-- The marker with number `n` is that of a listed provider with that id. -/
def marks (providers : List Provider) (id : Int) (n : Nat) : Bool :=
  providers[n]?.any fun p => p.providerId == id

/-- The label is on exactly those markers, and all else is as it was. -/
structure Labelled (d d' : ClientDashboard) (id : Int) (text : String) : Prop where
  rest : d' = { d with arrMarkers := d'.arrMarkers }
  markers : ∀ n, d'.arrMarkers[n]? = d.arrMarkers[n]?.map fun m =>
    if marks d.arrOnlineProviders id n then { m with snippet := text } else m

/-- The loop writes from marker `i` on. -/
theorem getElem?_setSnippets {providers : List Provider} {i : Nat} {markers markers' : List Marker}
    (h : setSnippets (pure id) (pure text) providers i markers = .ok markers') (n : Nat) :
    markers'[n]? = markers[n]?.map fun m =>
      if i ≤ n ∧ marks providers id (n - i) = true then { m with snippet := text } else m := by
  induction providers generalizing i markers with
  | nil =>
    obtain rfl : markers = markers' := by simpa [setSnippets] using h
    simp [marks]
  | cons p providers ih =>
    have hhead : marks (p :: providers) id 0 = (p.providerId == id) := rfl
    have htail : i + 1 ≤ n →
        marks (p :: providers) id (n - i) = marks providers id (n - (i + 1)) := by
      intro hlt
      obtain ⟨k, hk⟩ : ∃ k, n - i = k + 1 := ⟨n - i - 1, by omega⟩
      have hk' : n - (i + 1) = k := by omega
      rw [hk, hk']
      rfl
    simp only [setSnippets, bind_eq_ok, pure_eq_ok, exists_eq_left'] at h
    rcases Nat.lt_trichotomy n i with hlt | rfl | hgt
    · have hno : ¬(i ≤ n) := by omega
      have hno' : ¬(i + 1 ≤ n) := by omega
      split at h
      · simp only [bind_eq_ok, unwrap_eq_ok, pure_eq_ok, exists_eq_left'] at h
        obtain ⟨marker, _, h⟩ := h
        rw [ih h, List.getElem?_set_ne (by omega)]
        simp [hno, hno']
      · rw [ih h]
        simp [hno, hno']
    · have hno' : ¬(n + 1 ≤ n) := by omega
      split at h
      · rename_i hid
        simp only [bind_eq_ok, unwrap_eq_ok, pure_eq_ok, exists_eq_left'] at h
        obtain ⟨marker, hmarker, h⟩ := h
        have hlt : n < markers.length := (List.getElem?_eq_some_iff.mp hmarker).1
        rw [ih h, List.getElem?_set_self hlt, hmarker]
        simp [hhead, hid]
      · rename_i hid
        rw [ih h]
        simp [hhead, hid]
    · have hyes : i ≤ n := by omega
      have hyes' : i + 1 ≤ n := by omega
      split at h
      · simp only [bind_eq_ok, unwrap_eq_ok, pure_eq_ok, exists_eq_left'] at h
        obtain ⟨marker, _, h⟩ := h
        rw [ih h, List.getElem?_set_ne (by omega), htail hyes']
        simp [hyes, hyes']
      · rw [ih h, htail hyes']
        simp [hyes, hyes']

/-- **With a marker for every provider, exactly the markers of that id are labelled.** -/
theorem exists_setSnippets (hd : d.IsPaired) (id : Int) (text : String) :
    ∃ markers, setSnippets (pure id) (pure text) d.arrOnlineProviders 0 d.arrMarkers = .ok markers ∧
      Labelled d { d with arrMarkers := markers } id text := by
  have hok : ∃ markers,
      setSnippets (pure id) (pure text) d.arrOnlineProviders 0 d.arrMarkers = .ok markers := by
    refine setSnippets_isOk_iff.mpr ?_
    intro n p hp _
    have hlt : n < d.arrOnlineProviders.length := (List.getElem?_eq_some_iff.mp hp).1
    have hlength : d.arrOnlineProviders.length = d.arrMarkers.length := hd
    omega
  obtain ⟨markers, hmarkers⟩ := hok
  refine ⟨markers, hmarkers, rfl, ?_⟩
  intro n
  simpa using getElem?_setSnippets hmarkers n

end ClientDashboard

/-! ## 4. The three steps -/

namespace ClientPhone

variable {distance : CLLocation → CLLocation → ℚ} {p q : ClientPhone} {i call : Nat}
  {s : ClientSession} {dict values duration : Dict}

/-- The phone whose dashboard with number `i` has changed. -/
def storing (p : ClientPhone) (i : Nat) (t : ClientSession) : ClientPhone :=
  { p with app := p.app.store i t }

theorem session_storing (listed : p.app.sessions[i]? = some s) (t : ClientSession) :
    (p.storing i t).app.sessions[i]? = some t := by
  have hlt : i < p.app.sessions.length := (List.getElem?_eq_some_iff.mp listed).1
  simp [storing, ClientApp.store, List.getElem?_set_self hlt]

/-- **The sheet passes the text on, and the dashboard below keeps it.** -/
theorem step_located {j socket : Nat} {sheet : TripProviderDetail}
    (howner : p.socketOwner = some (.providerDetail j)) (hsheet : p.sheets[j]? = some sheet)
    (hsocket : p.app.sockets.clientproviderRequestSocket = some socket)
    (listed : p.app.sessions[sheet.delegate]? = some s) (hsheets : s.sheets ≠ [])
    (htype : Dict.string? dict "RequestType" = some Request_Status.locationUpdated)
    (inBackground : Bool) :
    (machine distance).Step p (.onMessage socket (some (.obj dict)) inBackground)
      (p.storing sheet.delegate
        ((p.app.lend s).put { s.dashboard with locationUpdates := some (.obj dict) })) := by
  have hupdate : ClientSession.isLocationUpdate (some (.obj dict)) = true := by
    simp [ClientSession.isLocationUpdate, htype]
  have hlent : (p.app.lend s).sheets ≠ [] := hsheets
  have hreact : ClientApp.react distance p.app
      (.session sheet.delegate (.receivingLocationUpdate (some (.obj dict)))) =
      some (.ok (p.app.store sheet.delegate
        ((p.app.lend s).put { s.dashboard with locationUpdates := some (.obj dict) }))) := by
    simp only [ClientApp.react, ClientApp.isOwnEvent, if_true, listed, Option.bind_some,
      ClientSession.react, hlent, hupdate, ne_eq, not_false_eq_true, and_self, Option.map_some]
    rfl
  have hpassed : p.receivingLocationUpdate distance sheet (some (.obj dict)) =
      .ok (p.storing sheet.delegate
        ((p.app.lend s).put { s.dashboard with locationUpdates := some (.obj dict) })) := by
    unfold receivingLocationUpdate
    rw [hreact]
    rfl
  have hhandled : p.sheetMessage distance j sheet socket (some (.obj dict)) =
      p.receivingLocationUpdate distance sheet (some (.obj dict)) := by
    unfold sheetMessage
    rw [if_pos hsocket, reaction_of_hasType ⟨dict, rfl, htype⟩, reactionTo_locationUpdated]
    rfl
  have hmessage : p.onMessage distance socket (some (.obj dict)) inBackground =
      some (p.sheetMessage distance j sheet socket (some (.obj dict))) := by
    unfold onMessage
    simp only [howner, hsheet, Option.map_some]
  exact hmessage.trans (by rw [hhandled, hpassed])

/-- **The timer asks how far the provider is whose location was kept last.** -/
theorem step_tick (listed : p.app.sessions[i]? = some s) (htimers : s.distanceTimers ≠ 0)
    (hlocated : s.dashboard.clientLocation.isSome = true)
    (hkept : s.dashboard.locationUpdates = some (.obj dict)) :
    (machine distance).Step p (.app (.session i .distanceTimerFires))
      (p.storing i ((p.app.lend s).issueDistanceCall dict)) := by
  obtain ⟨here, hhere⟩ := Option.isSome_iff_exists.mp hlocated
  have htimers' : (p.app.lend s).distanceTimers ≠ 0 := htimers
  have hcall : (p.app.lend s).callDistanceMatrixAPI (p.app.lend s).dashboard.locationUpdates =
      .ok ((p.app.lend s).issueDistanceCall dict) := by
    have hkept' : (p.app.lend s).dashboard.locationUpdates = some (.obj dict) := hkept
    have hhere' : (p.app.lend s).dashboard.clientLocation = some here := hhere
    simp [ClientSession.callDistanceMatrixAPI, hkept', hhere', bind, Except.bind, pure, Except.pure]
  have hreact : ClientApp.react distance p.app (.session i .distanceTimerFires) =
      some (.ok (p.app.store i ((p.app.lend s).issueDistanceCall dict))) := by
    simp only [ClientApp.react, ClientApp.isOwnEvent, if_true, listed, Option.bind_some,
      ClientSession.react, htimers', if_false, hcall, Option.map_some]
    rfl
  simp only [Machine.Step, machine, react, admits, if_true, hreact, Option.map_some]
  rfl

/-- The id of a location update is read from its text, and no trip is entered. -/
theorem replyTarget_located {providerId : Int} {latitude longitude : String}
    (hmeans : Says dict providerId latitude longitude) (values : Dict) :
    s.replyTarget call dict values = .ok (s, providerId) := by
  obtain ⟨text, htext, hread⟩ := Option.bind_eq_some_iff.mp hmeans.provider
  simp only [ClientSession.replyTarget, bind_eq_ok, forceString_eq_ok]
  refine ⟨_, hmeans.requestType, ?_⟩
  rw [if_neg (by simp)]
  exact bind_eq_ok.mpr ⟨text, forceString_eq_ok.mpr htext,
    bind_eq_ok.mpr ⟨providerId, forceNumeral_eq_ok.mpr hread, rfl⟩⟩

/-- **The answer labels the markers of that provider.** -/
theorem step_answer {providerId : Int} {latitude longitude : String}
    (listed : p.app.sessions[i]? = some s) (waits : s.distanceCalls.waiting call = some dict)
    (hpaired : s.dashboard.IsPaired) (hmeans : Says dict providerId latitude longitude)
    (hduration : Dict.dict? values "duration" = some duration) :
    ∃ d, s.dashboard.Labelled d providerId ("ETA " ++ (Dict.string? duration "text").getD "0") ∧
      (machine distance).Step p (.app (.session i (.distanceReply call values true)))
        (p.storing i ((p.answering s call).put d)) := by
  obtain ⟨markers, hset, hlabelled⟩ := ClientDashboard.exists_setSnippets hpaired providerId
    ("ETA " ++ (Dict.string? duration "text").getD "0")
  refine ⟨_, hlabelled, ?_⟩
  have hreply : (p.answering s call).distanceReply call dict values true =
      .ok ((p.answering s call).put { s.dashboard with arrMarkers := markers }) := by
    have hsnippet : (do
        let values ← ClientSession.duration values
        return "ETA " ++ (Dict.string? values "text").getD "0" : Except Trap String) =
        pure ("ETA " ++ (Dict.string? duration "text").getD "0") := by
      have hcast : ClientSession.duration values = .ok duration := forceDict_eq_ok.mpr hduration
      rw [hcast]
      rfl
    simp only [ClientSession.distanceReply, if_true, bind_eq_ok]
    refine ⟨_, replyTarget_located hmeans values, markers, ?_, rfl⟩
    rw [hsnippet]
    exact hset
  have hadmits : p.admits (.session i (.distanceReply call values true)) = true := by
    simp [admits, entersTrip, listed, waits, hmeans.requestType]
  have hlt : i < p.app.sessions.length := (List.getElem?_eq_some_iff.mp listed).1
  have hsame : ¬(sheetsOf p.app i < sheetsOf (p.app.store i ((p.answering s call).put
      { s.dashboard with arrMarkers := markers })) i) := by
    simp [sheetsOf, ClientApp.store, List.getElem?_set_self hlt, listed, answering, ClientApp.lend,
      ClientSession.put]
  simp only [Machine.Step, machine, react, hadmits, if_true, react_distanceReply listed waits,
    hreply, Option.map_some, Except.map, follow, followDistance, hsame, if_false]
  rfl

/-! ## 5. The whole chain -/

/-- Whatever else happens on the phone, once the call is answered with a duration exactly the
markers of that provider are labelled, and no sheet opens. -/
def AnswerLabels (distance : CLLocation → CLLocation → ℚ) (p : ClientPhone) (i call : Nat)
    (providerId : Int) : Prop :=
  ∀ q, (machine distance).Run p q → ∀ s, q.app.sessions[i]? = some s →
    (s.distanceCalls.waiting call).isSome = true → ∀ values duration,
      Dict.dict? values "duration" = some duration → ∃ r t,
        (machine distance).Step q (.app (.session i (.distanceReply call values true))) r ∧
        r.sheets = q.sheets ∧ r.app.sessions[i]? = some t ∧
        s.dashboard.Labelled t.dashboard providerId
          ("ETA " ++ (Dict.string? duration "text").getD "0")

/-- Whatever else happens on the phone, but for a newer location frame, the next tick asks for the
way from these coordinates, and the answer to it is about this provider. -/
def TickAsks (distance : CLLocation → CLLocation → ℚ) (p : ClientPhone) (i : Nat)
    (providerId : Int) (latitude longitude : String) : Prop :=
  ∀ q, (machine distance).RunWhere (fun _ e => brings e = false) p q → ∀ s,
    q.app.sessions[i]? = some s → s.distanceTimers ≠ 0 → ∃ r t dict,
      (machine distance).Step q (.app (.session i .distanceTimerFires)) r ∧
      r.sheets = q.sheets ∧ r.app.sessions[i]? = some t ∧
      t.distanceCalls = s.distanceCalls.issue dict ∧
      Says dict providerId latitude longitude ∧
      r.AnswerLabels distance i s.distanceCalls.issued providerId

/-- The call captures this message for as long as it waits. -/
def Asking (p : ClientPhone) (i call : Nat) (dict : Dict) : Prop :=
  p.Tracks ∧ ∃ s, p.app.sessions[i]? = some s ∧ s.Captured call dict

theorem asking_of_run (h : (machine distance).Run p q) (hp : p.Asking i call dict) :
    q.Asking i call dict := by
  induction h with
  | refl => exact hp
  | tail _ _ hstep ih =>
    obtain ⟨htracks, s, hs, hcaptured⟩ := ih
    obtain ⟨t, ht, hevolves⟩ := step_persists hstep hs
    exact ⟨htracks.step hstep, t, ht, hevolves.captured call dict hcaptured⟩

/-- The dashboard keeps this message. -/
def Keeping (p : ClientPhone) (i : Nat) (dict : Dict) : Prop :=
  p.Tracks ∧ ∃ s, p.app.sessions[i]? = some s ∧ s.dashboard.locationUpdates = some (.obj dict)

theorem keeping_of_run (h : (machine distance).RunWhere (fun _ e => brings e = false) p q)
    (hp : p.Keeping i dict) : q.Keeping i dict := by
  induction h with
  | refl => exact hp
  | tail _ hquiet hstep ih =>
    obtain ⟨htracks, s, hs, hkept⟩ := ih
    obtain ⟨t, ht, hevolves⟩ := step_persists hstep hs
    refine ⟨htracks.step hstep, t, ht, ?_⟩
    rw [hevolves.updates (by simp [hquiet])]
    exact hkept

theorem answerLabels_of_asking {providerId : Int} {latitude longitude : String}
    (hp : p.Asking i call dict) (hmeans : Says dict providerId latitude longitude) :
    p.AnswerLabels distance i call providerId := by
  intro q hrun s hs hwaits values duration hduration
  obtain ⟨htracks, s', hs', _, hcaptured⟩ := asking_of_run hrun hp
  obtain rfl : s = s' := Option.some.inj (hs.symm.trans hs')
  obtain ⟨captured, hwaits⟩ := Option.isSome_iff_exists.mp hwaits
  obtain rfl : captured = dict := hcaptured call captured hwaits rfl
  obtain ⟨d, hlabelled, hstep⟩ := @step_answer distance _ _ _ _ _ _ _ _ _ _ hs hwaits
    (htracks.sessions i s hs).paired hmeans hduration
  exact ⟨_, _, hstep, rfl, session_storing hs _, hlabelled⟩

theorem tickAsks_of_keeping {providerId : Int} {latitude longitude : String}
    (hp : p.Keeping i dict) (hmeans : Says dict providerId latitude longitude) :
    p.TickAsks distance i providerId latitude longitude := by
  intro q hrun s hs htimers
  obtain ⟨htracks, s', hs', hkept⟩ := keeping_of_run hrun hp
  obtain rfl : s = s' := Option.some.inj (hs.symm.trans hs')
  have hstep := @step_tick distance _ _ _ _ hs htimers ((htracks.sessions i s hs).located htimers)
    hkept
  refine ⟨_, _, dict, hstep, rfl, session_storing hs _, rfl, hmeans, ?_⟩
  exact answerLabels_of_asking
    ⟨htracks.step hstep, _, session_storing hs _, ClientSession.captured_issue rfl⟩ hmeans

/-- **The two apps agree on the location frame.**  For every client, every provider and every pair
of coordinates in digits, signs, points and exponents, in every reachable state of the client's
phone whose sheet has the sockets: the text that the provider's timer writes is taken by the sheet
as a location update and kept by the dashboard below; the next tick asks for the way from these very
coordinates, and the answer labels exactly the markers of the listed providers with that id, opens
no sheet, and traps nowhere. -/
theorem location_frame_agrees (distance : CLLocation → CLLocation → ℚ) (clientId : Int)
    {providerId : Int} (hid : InInt providerId) {latitude longitude : String}
    (hlat : IsNumeric latitude) (hlong : IsNumeric longitude) {device : Device} {onMain : Bool}
    {p : ClientPhone} (hrun : (machine distance).Run { app := .launch device onMain } p)
    {j socket : Nat} {sheet : TripProviderDetail}
    (howner : p.socketOwner = some (.providerDetail j)) (hsheet : p.sheets[j]? = some sheet)
    (hsocket : p.app.sockets.clientproviderRequestSocket = some socket) (inBackground : Bool) :
    ∃ q s, (machine distance).Step p (.onMessage socket
        (jsonObject (timerFiredText clientId providerId latitude longitude)) inBackground) q ∧
      q.sheets = p.sheets ∧ q.app.sessions[sheet.delegate]? = some s ∧
      s.dashboard.locationUpdates =
        jsonObject (timerFiredText clientId providerId latitude longitude) ∧
      q.TickAsks distance sheet.delegate providerId latitude longitude := by
  have hmeans := @says_locationFields clientId providerId hid latitude longitude
  have htracks := tracks_of_run hrun
  obtain ⟨s, listed, hsheets⟩ := htracks.sheets sheet (List.mem_of_getElem? hsheet)
  rw [jsonObject_timerFiredText hlat hlong]
  have hstep := @step_located distance _ _ _ _ _ _ howner hsheet hsocket listed hsheets
    hmeans.requestType inBackground
  have hafter := session_storing listed ((p.app.lend s).put { s.dashboard with
    locationUpdates :=
      some (.obj (dictOf (locationFields clientId providerId latitude longitude))) })
  exact ⟨_, _, hstep, rfl, hafter, rfl,
    tickAsks_of_keeping ⟨htracks.step hstep, _, hafter, rfl⟩ hmeans⟩

/-- The sheet of a trip has the sockets, and the dashboard below has a timer once a frame came. -/
def hearsLocation (p q : ClientPhone) : Bool :=
  p.socketOwner == some (.providerDetail 0) &&
    p.app.sockets.clientproviderRequestSocket == some 1 &&
    (p.sheets[0]?.any fun sheet => sheet.delegate == 0) &&
    q.app.sessions[0]?.any fun s => s.distanceTimers != 0 && s.distanceCalls.issued == 1

/-- Provider 16 moves, and client 24 reads how long it takes. -/
theorem location_frame_labels : ∃ (p q r u : ClientPhone) (s t : ClientSession),
    (machine sampleDistance).Step p
      (.onMessage 1 (jsonObject (timerFiredText 24 16 "40.5" "-7.3e1")) false) q ∧
    (machine sampleDistance).Step q (.app (.session 0 .distanceTimerFires)) r ∧
    (machine sampleDistance).Step r (.app (.session 0 (.distanceReply 1
      [("duration", .obj [("text", .str "4 mins")])] true))) u ∧
    r.app.sessions[0]? = some s ∧ u.app.sessions[0]? = some t ∧ u.sheets = p.sheets ∧
    s.dashboard.Labelled t.dashboard 16 "ETA 4 mins" := by
  have hread : jsonObject (timerFiredText 24 16 "40.5" "-7.3e1") =
      some (.obj (dictOf (locationFields 24 16 "40.5" "-7.3e1"))) :=
    jsonObject_timerFiredText (by decide +kernel) (by decide +kernel)
  obtain ⟨p, q, hrun, _, hstep, htest⟩ := Machine.exists_step_of_replay
    (machine sampleDistance) (fun _ _ => true)
    { app := .launch ClientSession.sampleDevice false } (requestPhone ++ acceptPhone)
    (.onMessage 1 (some (.obj (dictOf (locationFields 24 16 "40.5" "-7.3e1")))) false)
    hearsLocation (fun _ _ _ => trivial) (by decide +kernel)
  simp only [hearsLocation, Bool.and_eq_true, beq_iff_eq, Option.any_eq_true, bne_iff_ne] at htest
  obtain ⟨⟨⟨howner, hsocket⟩, sheet, hsheet, hdelegate⟩, s, hs, htimers, hissued⟩ := htest
  obtain ⟨q', _, hstep', hsheets, _, _, htick⟩ := @location_frame_agrees
    sampleDistance 24 16 (by decide) "40.5" "-7.3e1" (by decide +kernel)
    (by decide +kernel) _ _ _ hrun _ _ _ howner hsheet hsocket false
  rw [hread] at hstep' ⊢
  obtain rfl : q = q' := Except.ok.inj (Option.some.inj (hstep.symm.trans hstep'))
  rw [hdelegate] at htick
  obtain ⟨r, t, dict, htickStep, hsheets', ht, hcalls, _, hanswer⟩ := htick q .refl s hs htimers
  rw [hissued] at hanswer
  have hwaits : (t.distanceCalls.waiting 1).isSome = true := by
    rw [hcalls, Callbacks.waiting_issue, if_pos hissued.symm]
    rfl
  obtain ⟨u, v, hanswerStep, hsheets'', hv, hlabelled⟩ := hanswer r .refl t ht hwaits
    [("duration", .obj [("text", .str "4 mins")])] [("text", .str "4 mins")] rfl
  exact ⟨p, q, r, u, t, v, hstep, htickStep, hanswerStep, ht, hv,
    hsheets''.trans (hsheets'.trans hsheets), hlabelled⟩

end ClientPhone

end WeatherAccommodation
