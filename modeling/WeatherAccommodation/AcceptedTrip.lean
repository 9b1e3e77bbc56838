/-
# The screen of an accepted trip

A `trip_accepted` message opens no screen by itself.  Both dashboards look up a way first, and open
the detail sheet from inside the completion handler: the provider's after directions that it draws
on the map, the client's after a travel time that it shows.  Nothing else opens the sheet, and
nothing asks again.

`lookupEnds` is the end of such a lookup, for any outcome.  The sheet of the trip comes on screen,
and nothing traps, exactly under `ShowsSheetWhen` (`accepted_trip_opens_iff`): the reply has a
route, or an element with its duration, and the dashboard has all that its handler unwraps.
Offline, or with no route, the trip goes on without a screen (`accepted_without_screen`).
-/
import WeatherAccommodation.ClientProviderAPIManager
import WeatherAccommodation.Client.SecondTrip
import WeatherAccommodation.Provider.Destination

namespace WeatherAccommodation

open Foundation Reactive ClientProviderAPIManager

/-! ## 1. The provider's lookup -/

/-- How the handler of the directions stops the app: a path that is nil, and every other way. -/
inductive LookupTrap where
  | path
  | other (t : Trap)
  deriving DecidableEq, Repr

namespace ProviderPhone

/-- How the phone handles the answer: a dashboard that is covered presents nothing. -/
def directionsEvent (p : ProviderPhone) (i call : Nat) (success : Bool) : PhoneEvent :=
  if !success || p.canPresent i then .app (.directionsReply i call success)
  else .lateDirections i call

/-- `path!`, which is unwrapped once both ends of the way are marked.  Which texts
`GMSPath(fromEncodedPath:)` decodes is up to the map service's library. -/
def forcePath (decodes : String → Bool) (d : ProviderDashboard) (points : String) :
    Except LookupTrap Unit := do
  let _ ← d.drawMarkers.mapError .other
  unwrap .path (if decodes points then some () else none)

/-- The completion handler of `getDirections`. -/
def directionsHandler (distance : CLLocation → CLLocation → ℚ) (decodes : String → Bool)
    (p : ProviderPhone) (i call : Nat) (d : ProviderDashboard) (points : String) (success : Bool) :
    Except LookupTrap ProviderPhone := do
  if success then forcePath decodes d points
  match p.react distance (p.directionsEvent i call success) with
  | some r => r.mapError .other
  | none => return p

/-- The lookup `call` of the dashboard `d` with number `i` comes to its end. -/
def lookupEnds (distance : CLLocation → CLLocation → ℚ) (decodes : String → Bool)
    (p : ProviderPhone) (i call : Nat) (d : ProviderDashboard) (outcome : Outcome) :
    Except LookupTrap ProviderPhone := do
  match ← (getDirections outcome).mapError .other with
  | none => return p
  | some (points, success) => p.directionsHandler distance decodes i call d points success

/-- Nothing traps, and the detail sheet of the trip has come on screen. -/
def ShowsSheet (p : ProviderPhone) (trip : Dict) (r : Except LookupTrap ProviderPhone) : Prop :=
  ∃ q sheet, r = .ok q ∧ q.app.sheets = p.app.sheets ++ [sheet] ∧ sheet.currentRequest = trip ∧
    sheet.isPresented = true

/-- The condition. -/
structure ShowsSheetWhen (decodes : String → Bool) (p : ProviderPhone) (i : Nat)
    (d : ProviderDashboard) (trip : Dict) (outcome : Outcome) : Prop where
  route : ∃ points, HasRoute outcome points ∧ decodes points = true
  onTop : p.canPresent i = true
  location : d.location.isSome = true
  client : ∃ request, d.currentRequest = some request ∧ IsNumeral request "latitude" ∧
    IsNumeral request "longitude"
  /-- No other acceptance has come since. -/
  current : d.currentAcceptedRequest = some trip
  resumed : p.app.device.appDelegate.doesRequestExist = true →
    (Dict.int? trip "TripStartTime").isSome = true

end ProviderPhone

/-! ## 2. The client's lookup -/

/-- Every listed provider with that id has a marker. -/
def ClientDashboard.Marked (d : ClientDashboard) (id : Int) : Prop :=
  ∀ (n : Nat) (p : Provider), d.arrOnlineProviders[n]? = some p → p.providerId = id →
    n < d.arrMarkers.length

namespace ClientPhone

/-- How the phone handles the answer: a dashboard that is covered presents nothing. -/
def distanceEvent (p : ClientPhone) (i call : Nat) (distanceValues : Dict) (success : Bool) :
    ClientPhoneEvent :=
  if !success || !p.entersTrip i call || p.isVisible i then
    .app (.session i (.distanceReply call distanceValues success))
  else .lateDistance i call distanceValues

/-- The lookup `call` of the dashboard with number `i` comes to its end. -/
def lookupEnds (distance : CLLocation → CLLocation → ℚ) (p : ClientPhone) (i call : Nat)
    (outcome : Outcome) : Except Trap ClientPhone := do
  match ← callDistanceMatrixAPIForClient outcome with
  | none => return p
  | some (distanceValues, success) =>
    match p.react distance (p.distanceEvent i call distanceValues success) with
    | some r => r
    | none => return p

/-- Nothing traps, and the detail sheet of the trip has come on screen. -/
def ShowsSheet (p : ClientPhone) (trip : Dict) (r : Except Trap ClientPhone) : Prop :=
  ∃ q sheet, r = .ok q ∧ q.sheets = p.sheets ++ [sheet] ∧ sheet.currentRequest = trip ∧
    sheet.isPresented = true

/-- The condition. -/
structure ShowsSheetWhen (p : ClientPhone) (i : Nat) (s : ClientSession) (trip : Dict)
    (outcome : Outcome) : Prop where
  element : ∃ distanceValues duration, HasElement outcome distanceValues ∧
    Dict.dict? distanceValues "duration" = some duration ∧
    (Dict.int? duration "value").isSome = true
  onTop : p.isVisible i = true
  location : s.dashboard.clientLocation.isSome = true
  /-- No other acceptance has come since. -/
  current : s.dashboard.currentRequest = trip
  resumed : p.doesRequestExist = true → (Dict.int? trip "TripStartTime").isSome = true
  marked : ∃ id, Dict.int? trip "ProviderId" = some id ∧ s.dashboard.Marked id

end ClientPhone

/-! ## 3. When the provider's handler gets through -/

namespace ProviderDashboard

variable {d : ProviderDashboard}

/-- Both ends of the way are known. -/
theorem drawMarkers_isOk_iff :
    (∃ d', d.drawMarkers = .ok d') ↔ d.location.isSome = true ∧
      ∃ request, d.currentRequest = some request ∧ IsNumeral request "latitude" ∧
        IsNumeral request "longitude" := by
  simp only [drawMarkers, ownLocation, clientLocation, bind_eq_ok, unwrap_eq_ok, pure_eq_ok]
  constructor
  · rintro ⟨_, here, hhere, client, ⟨latitude, hlatitude, longitude, hlongitude, rfl⟩, rfl⟩
    obtain ⟨request, hrequest, hlat⟩ := requestNumber_isOk_iff.mp ⟨latitude, hlatitude⟩
    obtain ⟨request', hrequest', hlong⟩ := requestNumber_isOk_iff.mp ⟨longitude, hlongitude⟩
    obtain rfl : request = request' := Option.some.inj (hrequest.symm.trans hrequest')
    exact ⟨by simp [hhere], request, hrequest, hlat, hlong⟩
  · rintro ⟨hhere, request, hrequest, hlat, hlong⟩
    obtain ⟨here, hhere⟩ := Option.isSome_iff_exists.mp hhere
    obtain ⟨latitude, hlatitude⟩ := requestNumber_isOk_iff.mpr ⟨request, hrequest, hlat⟩
    obtain ⟨longitude, hlongitude⟩ := requestNumber_isOk_iff.mpr ⟨request, hrequest, hlong⟩
    exact ⟨_, here, hhere, _, ⟨latitude, hlatitude, longitude, hlongitude, rfl⟩, rfl⟩

end ProviderDashboard

/-- The sheet opens for the accepted trip, as soon as there is a location. -/
theorem ProviderApp.openBottomSheet_eq_ok {a b : ProviderApp} {d : ProviderDashboard} :
    a.openBottomSheet d = .ok b ↔ ∃ trip here, d.currentAcceptedRequest = some trip ∧
      d.location = some here ∧ (a.device.appDelegate.doesRequestExist = true →
        (Dict.int? trip "TripStartTime").isSome = true) ∧ b = a.presentSheet trip here := by
  simp only [openBottomSheet, ProviderDashboard.ownLocation, bind_eq_ok, unwrap_eq_ok]
  constructor
  · rintro ⟨trip, htrip, here, hhere, h⟩
    refine ⟨trip, here, htrip, hhere, ?_⟩
    split at h
    · simp only [bind_eq_ok, forceInt_eq_ok, pure_eq_ok] at h
      obtain ⟨time, htime, rfl⟩ := h
      exact ⟨fun _ => by simp [htime], rfl⟩
    · rename_i hflag
      exact ⟨fun hup => absurd hup hflag, (pure_eq_ok.mp h).symm⟩
  · rintro ⟨trip, here, htrip, hhere, hresumed, rfl⟩
    refine ⟨trip, htrip, here, hhere, ?_⟩
    split
    · rename_i hflag
      obtain ⟨time, htime⟩ := Option.isSome_iff_exists.mp (hresumed hflag)
      exact bind_eq_ok.mpr ⟨time, forceInt_eq_ok.mpr htime, rfl⟩
    · rfl

namespace ProviderPhone

variable {distance : CLLocation → CLLocation → ℚ} {decodes : String → Bool} {p q : ProviderPhone}
  {i call : Nat} {d : ProviderDashboard} {trip : Dict} {outcome : Outcome} {points : String}

theorem forcePath_eq_ok : forcePath decodes d points = .ok () ↔
    (∃ d', d.drawMarkers = .ok d') ∧ decodes points = true := by
  simp only [forcePath, bind_eq_ok, mapError_eq_ok, unwrap_eq_ok]
  cases decodes points with
  | false => simp
  | true => simp

/-- An answer without a route is no more than put away. -/
theorem directionsHandler_failure (listed : p.app.dashboards[i]? = some d)
    (waits : d.directionsCalls.waiting call = some ()) :
    p.directionsHandler distance decodes i call d points false =
      .ok (p.follow (.directionsReply i call false)
        (p.app.putDashboard i (ProviderApp.answered d call))) := by
  simp [directionsHandler, directionsEvent, react, admits, ProviderApp.react, listed, waits,
    ProviderApp.directionsReply, ProviderApp.answered, Except.map, pure, Except.pure,
    Except.mapError]

/-- A dashboard that is covered draws the way, and presents nothing. -/
theorem directionsHandler_late (listed : p.app.dashboards[i]? = some d)
    (waits : d.directionsCalls.waiting call = some ()) (hcovered : p.canPresent i = false)
    (h : p.directionsHandler distance decodes i call d points true = .ok q) :
    q.app.sheets = p.app.sheets := by
  simp only [directionsHandler, directionsEvent, hcovered, if_true, bind_eq_ok] at h
  obtain ⟨_, _, h⟩ := h
  simp only [Bool.not_true, Bool.or_self, Bool.false_eq_true, if_false, react, hcovered, listed,
    Option.bind_some, waits, Option.map_some, mapError_eq_ok] at h
  rw [lateDirections_inv h]
  rfl

/-- A dashboard on top draws the way, and opens the sheet of the trip it holds. -/
theorem directionsHandler_onTop (listed : p.app.dashboards[i]? = some d)
    (waits : d.directionsCalls.waiting call = some ()) (honTop : p.canPresent i = true) :
    p.directionsHandler distance decodes i call d points true = .ok q ↔
      forcePath decodes d points = .ok () ∧ ∃ b, p.app.directionsReply i
        (ProviderApp.answered d call) true = .ok b ∧
        q = p.follow (.directionsReply i call true) b := by
  simp only [directionsHandler, directionsEvent, honTop, if_true, bind_eq_ok, Bool.or_true, react,
    admits, ProviderApp.react, listed, Option.bind_some, waits, Option.map_some, mapError_eq_ok]
  constructor
  · rintro ⟨_, hpath, h⟩
    obtain ⟨b, hb, rfl⟩ := map_eq_ok.mp h
    exact ⟨hpath, b, hb, rfl⟩
  · rintro ⟨hpath, b, hb, rfl⟩
    exact ⟨(), hpath, map_eq_ok.mpr ⟨b, hb, rfl⟩⟩

/-- **When the provider sees the trip.** -/
theorem showsSheet_iff (listed : p.app.dashboards[i]? = some d)
    (waits : d.directionsCalls.waiting call = some ()) :
    p.ShowsSheet trip (p.lookupEnds distance decodes i call d outcome) ↔
      p.ShowsSheetWhen decodes i d trip outcome := by
  have hmore : ∀ sheet : ClientDetailSheet, p.app.sheets ≠ p.app.sheets ++ [sheet] := by
    intro sheet h
    simpa using congrArg List.length h
  constructor
  · rintro ⟨q, sheet, h, hsheets, htrip, _⟩
    simp only [lookupEnds, bind_eq_ok, mapError_eq_ok] at h
    obtain ⟨answer, hanswer, h⟩ := h
    cases answer with
    | none =>
      obtain rfl : p = q := by simpa using h
      exact absurd hsheets (hmore sheet)
    | some found =>
      obtain ⟨points, success⟩ := found
      have h : p.directionsHandler distance decodes i call d points success = .ok q := h
      cases success with
      | false =>
        rw [directionsHandler_failure listed waits] at h
        obtain rfl := Except.ok.inj h
        exact absurd hsheets (hmore sheet)
      | true =>
        cases honTop : p.canPresent i with
        | false =>
          rw [directionsHandler_late listed waits honTop h] at hsheets
          exact absurd hsheets (hmore sheet)
        | true =>
          obtain ⟨hpath, b, hb, rfl⟩ := (directionsHandler_onTop listed waits honTop).mp h
          obtain ⟨hdraw, hdecodes⟩ := forcePath_eq_ok.mp hpath
          obtain ⟨hlocation, hclient⟩ := ProviderDashboard.drawMarkers_isOk_iff.mp hdraw
          simp only [ProviderApp.directionsReply, if_true, bind_eq_ok] at hb
          obtain ⟨d', hd', hb⟩ := hb
          obtain rfl := ProviderDashboard.drawMarkers_inv hd'
          obtain ⟨trip', here, hcurrent, _, hresumed, rfl⟩ :=
            ProviderApp.openBottomSheet_eq_ok.mp hb
          obtain rfl : { currentRequest := trip', clientLocation := here } = sheet := by
            simpa [follow, ProviderApp.presentSheet, ProviderApp.putDashboard] using hsheets
          subst htrip
          exact ⟨⟨points, getDirections_eq_ok.mp hanswer, hdecodes⟩, honTop, hlocation, hclient,
            hcurrent, hresumed⟩
  · intro hwhen
    obtain ⟨points, hroute, hdecodes⟩ := hwhen.route
    obtain ⟨here, hhere⟩ := Option.isSome_iff_exists.mp hwhen.location
    have hdraw : ∃ d', (ProviderApp.answered d call).drawMarkers = .ok d' :=
      ProviderDashboard.drawMarkers_isOk_iff.mpr ⟨hwhen.location, hwhen.client⟩
    have hpath : forcePath decodes d points = .ok () := forcePath_eq_ok.mpr
      ⟨ProviderDashboard.drawMarkers_isOk_iff.mpr ⟨hwhen.location, hwhen.client⟩, hdecodes⟩
    obtain ⟨d', hd'⟩ := hdraw
    have hd'' := ProviderDashboard.drawMarkers_inv hd'
    have hb : p.app.directionsReply i (ProviderApp.answered d call) true =
        .ok ((p.app.putDashboard i d').presentSheet trip here) := by
      simp only [ProviderApp.directionsReply, if_true, bind_eq_ok]
      refine ⟨d', hd', ProviderApp.openBottomSheet_eq_ok.mpr ⟨trip, here, ?_, ?_, ?_, rfl⟩⟩
      · rw [hd'']
        exact hwhen.current
      · rw [hd'']
        exact hhere
      · exact hwhen.resumed
    refine ⟨p.follow (.directionsReply i call true)
      ((p.app.putDashboard i d').presentSheet trip here),
      { currentRequest := trip, clientLocation := here }, ?_, rfl, rfl, rfl⟩
    simp only [lookupEnds, bind_eq_ok, mapError_eq_ok]
    exact ⟨some (points, true), getDirections_eq_ok.mpr hroute,
      (directionsHandler_onTop listed waits hwhen.onTop).mpr ⟨hpath, _, hb, rfl⟩⟩

end ProviderPhone

/-! ## 4. When the client's handler gets through -/

namespace ClientDashboard

/-- The loop gets through exactly if every round that writes a snippet finds its marker. -/
theorem setSnippets_isOk_iff {id : Int} {text : String} {providers : List Provider} {i : Nat}
    {markers : List Marker} :
    (∃ markers', setSnippets (pure id) (pure text) providers i markers = .ok markers') ↔
      ∀ (n : Nat) (p : Provider), providers[n]? = some p → p.providerId = id →
        i + n < markers.length := by
  induction providers generalizing i markers with
  | nil => simp [setSnippets]
  | cons q providers ih =>
    have hsplit : (∀ (n : Nat) (p : Provider), (q :: providers)[n]? = some p → p.providerId = id →
        i + n < markers.length) ↔ (q.providerId = id → i < markers.length) ∧
          ∀ (n : Nat) (p : Provider), providers[n]? = some p → p.providerId = id →
            (i + 1) + n < markers.length := by
      constructor
      · intro h
        refine ⟨h 0 q rfl, fun n p hp hid => ?_⟩
        have hlt := h (n + 1) p hp hid
        omega
      · rintro ⟨hhead, htail⟩ n p hp hid
        cases n with
        | zero =>
          obtain rfl : q = p := by simpa using hp
          simpa using hhead hid
        | succ n =>
          have hlt := htail n p (by simpa using hp) hid
          omega
    rw [hsplit]
    simp only [setSnippets, bind_eq_ok, pure_eq_ok, exists_eq_left']
    by_cases hid : q.providerId = id
    · simp only [hid, if_true, bind_eq_ok, pure_eq_ok, unwrap_eq_ok, exists_eq_left', true_imp_iff]
      constructor
      · rintro ⟨markers', marker, hmarker, h⟩
        have htail := ih.mp ⟨markers', h⟩
        exact ⟨(List.getElem?_eq_some_iff.mp hmarker).1, by simpa using htail⟩
      · rintro ⟨hlt, htail⟩
        have hset : ∃ markers', setSnippets (pure id) (pure text) providers (i + 1)
            (markers.set i { markers[i] with snippet := text }) = .ok markers' :=
          ih.mpr (by simpa using htail)
        obtain ⟨markers', h⟩ := hset
        exact ⟨markers', markers[i], List.getElem?_eq_getElem hlt, h⟩
    · simp only [hid, if_false, false_imp_iff, true_and]
      exact ih

end ClientDashboard

namespace ClientSession

variable {s t : ClientSession} {call : Nat} {trip values : Dict}

/-- The sheet opens as soon as there is a location. -/
theorem openBottomSheet_eq_ok {openedBy : Option Nat} (free : s.isPresenting = false) :
    s.openBottomSheet openedBy = .ok t ↔ ∃ here, s.dashboard.clientLocation = some here ∧
      (s.device.appDelegate.doesRequestExist = true →
        (Dict.int? s.dashboard.currentRequest "TripStartTime").isSome = true) ∧
      t = s.presentSheet openedBy here := by
  simp only [openBottomSheet, free, Bool.not_false, Bool.true_and, bind_eq_ok, unwrap_eq_ok]
  constructor
  · rintro ⟨here, hhere, h⟩
    refine ⟨here, hhere, ?_⟩
    split at h
    · simp only [bind_eq_ok, forceInt_eq_ok, pure_eq_ok] at h
      obtain ⟨time, htime, rfl⟩ := h
      exact ⟨fun _ => by simp [htime], rfl⟩
    · rename_i hflag
      exact ⟨fun hup => absurd hup hflag, (pure_eq_ok.mp h).symm⟩
  · rintro ⟨here, hhere, hresumed, rfl⟩
    refine ⟨here, hhere, ?_⟩
    split
    · rename_i hflag
      obtain ⟨time, htime⟩ := Option.isSome_iff_exists.mp (hresumed hflag)
      exact bind_eq_ok.mpr ⟨time, forceInt_eq_ok.mpr htime, rfl⟩
    · rfl

/-- The trip is entered with a travel time and a location. -/
theorem enterTrip_isOk_iff (free : s.isPresenting = false) :
    (∃ u, s.enterTrip call values = .ok u) ↔
      (∃ duration, Dict.dict? values "duration" = some duration ∧
        (Dict.int? duration "value").isSome = true) ∧
      s.dashboard.clientLocation.isSome = true ∧
      (s.device.appDelegate.doesRequestExist = true →
        (Dict.int? s.dashboard.currentRequest "TripStartTime").isSome = true) := by
  have hfree : ∀ eta, (s.put { s.dashboard with initialETA := eta }).isPresenting = false :=
    fun _ => free
  simp only [enterTrip, duration, bind_eq_ok, forceDict_eq_ok, forceInt_eq_ok, unwrap_eq_ok]
  constructor
  · rintro ⟨_, duration, hduration, eta, heta, u, hsheet, here, _, _⟩
    obtain ⟨here, hhere, hresumed, _⟩ := (openBottomSheet_eq_ok (hfree eta)).mp hsheet
    have hhere : s.dashboard.clientLocation = some here := hhere
    exact ⟨⟨duration, hduration, by simp [heta]⟩, by simp [hhere], hresumed⟩
  · rintro ⟨⟨duration, hduration, heta⟩, hlocation, hresumed⟩
    obtain ⟨eta, heta⟩ := Option.isSome_iff_exists.mp heta
    obtain ⟨here, hhere⟩ := Option.isSome_iff_exists.mp hlocation
    exact ⟨_, duration, hduration, eta, heta, _,
      (openBottomSheet_eq_ok (hfree eta)).mpr ⟨here, hhere, hresumed, rfl⟩, here, hhere, rfl⟩

/-- Entering a trip opens its sheet, and moves no provider. -/
theorem enterTrip_frame {u : ClientSession} (free : s.isPresenting = false)
    (h : s.enterTrip call values = .ok u) :
    (∃ sheet, sheet.currentRequest = s.dashboard.currentRequest ∧
        u.sheets = s.sheets ++ [sheet]) ∧
      u.dashboard.arrOnlineProviders = s.dashboard.arrOnlineProviders ∧
      u.dashboard.arrMarkers = s.dashboard.arrMarkers := by
  obtain ⟨eta, here, marker, rfl⟩ := enterTrip_inv h
  have hsheets := @presentSheet_of_free (s.put { s.dashboard with initialETA := eta }) (some call)
    here free
  exact ⟨⟨_, rfl, congrArg sheets hsheets⟩, rfl, rfl⟩

/-- The answer to an acceptance: the trip is entered, and the provider's marker gets a snippet. -/
theorem distanceReply_eq_ok (htype : Dict.string? trip "RequestType" = some Trip_Status.accepted) :
    s.distanceReply call trip values true = .ok t ↔ ∃ u id, s.enterTrip call values = .ok u ∧
      Dict.int? trip "ProviderId" = some id ∧
      ∃ markers, ClientDashboard.setSnippets (pure id) (do
          let values ← duration values
          return "ETA " ++ (Dict.string? values "text").getD "0")
        u.dashboard.arrOnlineProviders 0 u.dashboard.arrMarkers = .ok markers ∧
        t = u.put { u.dashboard with arrMarkers := markers } := by
  have hne : Trip_Status.accepted ≠ Request_Status.locationUpdated := by decide
  simp only [distanceReply, replyTarget, if_true, bind_eq_ok, forceString_eq_ok, htype,
    Option.some.injEq, exists_eq_left', if_pos hne, forceInt_eq_ok, pure_eq_ok]
  constructor
  · rintro ⟨⟨u, id⟩, ⟨u', henter, id', hid, heq⟩, markers, hset, rfl⟩
    obtain ⟨rfl, rfl⟩ := Prod.mk.inj heq
    exact ⟨u', id', henter, hid, markers, hset, rfl⟩
  · rintro ⟨u, id, henter, hid, markers, hset, rfl⟩
    exact ⟨(u, id), ⟨u, henter, id, hid, rfl⟩, markers, hset, rfl⟩

/-- The handler gets through if the trip is entered, and the provider's markers are there. -/
theorem distanceReply_isOk_iff (free : s.isPresenting = false)
    (htype : Dict.string? trip "RequestType" = some Trip_Status.accepted) :
    (∃ t, s.distanceReply call trip values true = .ok t) ↔
      (∃ u, s.enterTrip call values = .ok u) ∧
      ∃ id, Dict.int? trip "ProviderId" = some id ∧ s.dashboard.Marked id := by
  have hmarked : ∀ {u : ClientSession} {id : Int}, s.enterTrip call values = .ok u →
      ((∃ markers, ClientDashboard.setSnippets (pure id) (do
          let values ← duration values
          return "ETA " ++ (Dict.string? values "text").getD "0")
        u.dashboard.arrOnlineProviders 0 u.dashboard.arrMarkers = .ok markers) ↔
          s.dashboard.Marked id) := by
    intro u id henter
    obtain ⟨⟨dict, hdict, _⟩, _⟩ := (enterTrip_isOk_iff free).mp ⟨u, henter⟩
    obtain ⟨_, hproviders, hmarkers⟩ := enterTrip_frame free henter
    have hduration : duration values = .ok dict := forceDict_eq_ok.mpr hdict
    have hloop := @ClientDashboard.setSnippets_isOk_iff id
      ("ETA " ++ (Dict.string? dict "text").getD "0") s.dashboard.arrOnlineProviders 0
      s.dashboard.arrMarkers
    simp only [Nat.zero_add] at hloop
    rw [hproviders, hmarkers, hduration]
    exact hloop
  constructor
  · rintro ⟨t, h⟩
    obtain ⟨u, id, henter, hid, markers, hset, _⟩ := (distanceReply_eq_ok htype).mp h
    exact ⟨⟨u, henter⟩, id, hid, (hmarked henter).mp ⟨markers, hset⟩⟩
  · rintro ⟨⟨u, henter⟩, id, hid, hcovers⟩
    obtain ⟨markers, hset⟩ := (hmarked henter).mpr hcovers
    exact ⟨_, (distanceReply_eq_ok htype).mpr ⟨u, id, henter, hid, markers, hset, rfl⟩⟩

/-- An acceptance opens a sheet for the request that is current when its answer comes. -/
theorem sheets_of_entered (free : s.isPresenting = false)
    (htype : Dict.string? trip "RequestType" = some Trip_Status.accepted)
    (h : s.distanceReply call trip values true = .ok t) :
    ∃ sheet, sheet.currentRequest = s.dashboard.currentRequest ∧
      t.sheets = s.sheets ++ [sheet] := by
  obtain ⟨u, id, henter, _, markers, _, rfl⟩ := (distanceReply_eq_ok htype).mp h
  exact (enterTrip_frame free henter).1

end ClientSession

namespace ClientPhone

variable {distance : CLLocation → CLLocation → ℚ} {p q : ClientPhone} {i call : Nat}
  {s : ClientSession} {trip values : Dict} {outcome : Outcome}

/-- The call that is being answered waits no more. -/
def answering (p : ClientPhone) (s : ClientSession) (call : Nat) : ClientSession :=
  { p.app.lend s with distanceCalls := s.distanceCalls.retire call }

/-- The answer, handled by the dashboard. -/
theorem react_distanceReply {success : Bool} (listed : p.app.sessions[i]? = some s)
    (waits : s.distanceCalls.waiting call = some trip) :
    ClientApp.react distance p.app (.session i (.distanceReply call values success)) =
      some (((p.answering s call).distanceReply call trip values success).map (p.app.store i)) := by
  have waits' : (p.app.lend s).distanceCalls.waiting call = some trip := waits
  simp only [ClientApp.react, ClientApp.isOwnEvent, if_true, listed, Option.bind_some,
    ClientSession.react, waits', Option.map_some]
  rfl

/-- An answer without an element opens nothing. -/
theorem sheets_of_failure (listed : p.app.sessions[i]? = some s)
    (waits : s.distanceCalls.waiting call = some trip)
    (h : p.react distance (p.distanceEvent i call values false) = some (.ok q)) :
    q.sheets = p.sheets := by
  have hreact : ClientApp.react distance p.app (.session i (.distanceReply call values false)) =
      some (.ok (p.app.store i (p.answering s call))) := by
    rw [react_distanceReply listed waits]
    rfl
  simp only [distanceEvent, Bool.not_false, Bool.true_or, if_true, react, admits, hreact,
    Option.map_some, Except.map, Option.some.injEq, Except.ok.injEq] at h
  rw [← h]
  have hlt : i < p.app.sessions.length := (List.getElem?_eq_some_iff.mp listed).1
  have hsame : sheetsOf (p.app.store i (p.answering s call)) i = sheetsOf p.app i := by
    simp [sheetsOf, ClientApp.store, List.getElem?_set_self hlt, listed, answering, ClientApp.lend]
  simp [follow, followDistance, hsame]

/-- A dashboard that is covered opens nothing. -/
theorem sheets_of_late (henters : p.entersTrip i call = true) (hcovered : p.isVisible i = false)
    (h : p.react distance (p.distanceEvent i call values true) = some (.ok q)) :
    q.sheets = p.sheets := by
  have hevent : p.distanceEvent i call values true = .lateDistance i call values := by
    simp [distanceEvent, henters, hcovered]
  rw [hevent] at h
  obtain ⟨_, _, _, _, _, rfl⟩ : StepOf distance p q (.lateDistance i call values) := step_inv h
  rfl

/-- A dashboard on top opens the sheet of the trip it holds. -/
theorem react_onTop (listed : p.app.sessions[i]? = some s)
    (waits : s.distanceCalls.waiting call = some trip) (honTop : p.isVisible i = true) :
    p.react distance (p.distanceEvent i call values true) = some (.ok q) ↔
      ∃ t, (p.answering s call).distanceReply call trip values true = .ok t ∧
        q = p.followDistance i (p.app.store i t) := by
  simp only [distanceEvent, honTop, Bool.or_true, if_true, react, admits,
    react_distanceReply listed waits, Option.map_some, Option.some.injEq]
  constructor
  · intro h
    obtain ⟨b, hb, rfl⟩ := map_eq_ok.mp h
    obtain ⟨t, ht, rfl⟩ := map_eq_ok.mp hb
    exact ⟨t, ht, rfl⟩
  · rintro ⟨t, ht, rfl⟩
    exact map_eq_ok.mpr ⟨_, map_eq_ok.mpr ⟨t, ht, rfl⟩, rfl⟩

/-- What an answer to an acceptance does to the sheets. -/
theorem followDistance_enters {t : ClientSession} (listed : p.app.sessions[i]? = some s)
    (htype : Dict.string? trip "RequestType" = some Trip_Status.accepted)
    (h : (p.answering s call).distanceReply call trip values true = .ok t) :
    ∃ sheet : TripProviderDetail, sheet.currentRequest = s.dashboard.currentRequest ∧
      sheet.isPresented = true ∧
      (p.followDistance i (p.app.store i t)).sheets = p.sheets ++ [sheet] := by
  obtain ⟨sheet, hrequest, hsheets⟩ := ClientSession.sheets_of_entered rfl htype h
  have hlt : i < p.app.sessions.length := (List.getElem?_eq_some_iff.mp listed).1
  have hsheets : t.sheets = s.sheets ++ [sheet] := hsheets
  have hmore : sheetsOf p.app i < sheetsOf (p.app.store i t) i := by
    simp [sheetsOf, ClientApp.store, List.getElem?_set_self hlt, listed, hsheets]
  refine ⟨{
    delegate := i
    currentRequest := sheet.currentRequest
    clientLocation := sheet.clientLocation }, hrequest, rfl, ?_⟩
  unfold followDistance
  rw [if_pos hmore]
  simp [openSheet, ClientApp.store, List.getElem?_set_self hlt, hsheets]

/-- **When the client sees the trip.** -/
theorem showsSheet_iff (listed : p.app.sessions[i]? = some s)
    (waits : s.distanceCalls.waiting call = some trip)
    (htype : Dict.string? trip "RequestType" = some Trip_Status.accepted) :
    p.ShowsSheet trip (p.lookupEnds distance i call outcome) ↔
      p.ShowsSheetWhen i s trip outcome := by
  have hmore : ∀ sheet : TripProviderDetail, p.sheets ≠ p.sheets ++ [sheet] := by
    intro sheet h
    simpa using congrArg List.length h
  have henters : p.entersTrip i call = true := by
    have hne : Trip_Status.accepted ≠ Request_Status.locationUpdated := by decide
    simp [entersTrip, listed, waits, htype, hne]
  constructor
  · rintro ⟨q, sheet, h, hsheets, htrip, _⟩
    simp only [lookupEnds, bind_eq_ok] at h
    obtain ⟨answer, hanswer, h⟩ := h
    cases answer with
    | none =>
      obtain rfl : p = q := by simpa using h
      exact absurd hsheets (hmore sheet)
    | some found =>
      obtain ⟨values, success⟩ := found
      cases hreact : p.react distance (p.distanceEvent i call values success) with
      | none =>
        obtain rfl : p = q := by simpa [hreact] using h
        exact absurd hsheets (hmore sheet)
      | some r =>
        obtain rfl : r = .ok q := by simpa [hreact] using h
        cases success with
        | false => exact absurd ((sheets_of_failure listed waits hreact) ▸ hsheets) (hmore sheet)
        | true =>
          cases honTop : p.isVisible i with
          | false => exact absurd ((sheets_of_late henters honTop hreact) ▸ hsheets) (hmore sheet)
          | true =>
            obtain ⟨t, ht, rfl⟩ := (react_onTop listed waits honTop).mp hreact
            obtain ⟨hentered, hmarked⟩ :=
              (ClientSession.distanceReply_isOk_iff rfl htype).mp ⟨t, ht⟩
            obtain ⟨⟨duration, hduration, heta⟩, hlocation, hresumed⟩ :=
              (ClientSession.enterTrip_isOk_iff rfl).mp hentered
            obtain ⟨sheet', hcurrent, _, hsheets'⟩ := followDistance_enters listed htype ht
            obtain rfl : sheet' = sheet := by simpa [hsheets'] using hsheets
            have hheld : s.dashboard.currentRequest = trip := hcurrent.symm.trans htrip
            refine ⟨⟨values, duration, callDistanceMatrixAPIForClient_eq_ok.mp hanswer, hduration,
              heta⟩, honTop, hlocation, hheld, ?_, hmarked⟩
            intro hflag
            rw [← hheld]
            exact hresumed hflag
  · intro hwhen
    obtain ⟨values, duration, helement, hduration, heta⟩ := hwhen.element
    have hentered : ∃ u, (p.answering s call).enterTrip call values = .ok u := by
      refine (ClientSession.enterTrip_isOk_iff rfl).mpr
        ⟨⟨duration, hduration, heta⟩, hwhen.location, fun hflag => ?_⟩
      have hresumed := hwhen.resumed hflag
      rw [← hwhen.current] at hresumed
      exact hresumed
    obtain ⟨t, ht⟩ :=
      (ClientSession.distanceReply_isOk_iff rfl htype).mpr ⟨hentered, hwhen.marked⟩
    obtain ⟨sheet, hcurrent, hpresented, hsheets⟩ := followDistance_enters listed htype ht
    refine ⟨_, sheet, ?_, hsheets, hcurrent.trans hwhen.current, hpresented⟩
    simp only [lookupEnds, bind_eq_ok]
    refine ⟨some (values, true), callDistanceMatrixAPIForClient_eq_ok.mpr helement, ?_⟩
    have hreact : p.react distance (p.distanceEvent i call values true) =
        some (.ok (p.followDistance i (p.app.store i t))) :=
      (react_onTop listed waits hwhen.onTop).mpr ⟨t, ht, rfl⟩
    simp only [hreact]

end ClientPhone

/-! ## 5. Both apps -/

/-- **When an accepted trip has its screen.**  In every state of either phone in which the lookup
made on an acceptance waits, and for every outcome of it: nothing traps and the detail sheet of the
trip comes on screen, exactly if the reply has a route that can be decoded, or an element with its
duration, the dashboard is on top, still holds the trip, and knows what its handler unwraps. -/
theorem accepted_trip_opens_iff (distance : CLLocation → CLLocation → ℚ)
    (decodes : String → Bool) :
    (∀ (p : ProviderPhone) (i call : Nat) (d : ProviderDashboard), p.app.dashboards[i]? = some d →
      d.directionsCalls.waiting call = some () → ∀ (trip : Dict) (outcome : Outcome),
        p.ShowsSheet trip (p.lookupEnds distance decodes i call d outcome) ↔
          p.ShowsSheetWhen decodes i d trip outcome) ∧
    ∀ (p : ClientPhone) (i call : Nat) (s : ClientSession) (trip : Dict),
      p.app.sessions[i]? = some s → s.distanceCalls.waiting call = some trip →
      Dict.string? trip "RequestType" = some Trip_Status.accepted → ∀ outcome : Outcome,
        p.ShowsSheet trip (p.lookupEnds distance i call outcome) ↔
          p.ShowsSheetWhen i s trip outcome :=
  ⟨fun _ _ _ _ listed waits _ _ => ProviderPhone.showsSheet_iff listed waits,
    fun _ _ _ _ _ listed waits htype _ => ClientPhone.showsSheet_iff listed waits htype⟩

/-- A reply with one route. -/
def oneRoute : Outcome :=
  .success (.obj [("status", .str "OK"),
    ("routes", .arr [.obj [("overview_polyline", .obj [("points", .str "_p~iF~ps|U")])]])])

/-- A reply with one element, and what is in it. -/
def oneElement (fields : Dict) : Outcome :=
  .success (.obj [("status", .str "OK"),
    ("rows", .arr [.obj [("elements", .arr [.obj fields])]])])

/-- Provider 16 has read the acceptance of trip 9, and asks for directions. -/
def asksDirections (p : ProviderPhone) : Bool :=
  p.app.dashboards[0]?.any fun d =>
    d.directionsCalls.waiting 0 == some () && p.canPresent 0 && d.location.isSome &&
      (d.currentRequest.any fun request =>
        (((Dict.string? request "latitude").bind double?).isSome &&
          ((Dict.string? request "longitude").bind double?).isSome)) &&
      d.currentAcceptedRequest.isSome && !p.app.device.appDelegate.doesRequestExist

/-- Client 24 has read the acceptance of trip 5, and asks for the travel time. -/
def asksDistance (p : ClientPhone) : Bool :=
  p.app.sessions[0]?.any fun s =>
    (s.distanceCalls.waiting 0).any (fun trip =>
      Dict.string? trip "RequestType" == some Trip_Status.accepted &&
        s.dashboard.currentRequest == trip && Dict.int? trip "ProviderId" == some 16) &&
      p.isVisible 0 && s.dashboard.clientLocation.isSome && !p.doesRequestExist &&
      decide (s.dashboard.arrOnlineProviders.length = s.dashboard.arrMarkers.length)

/-- An element without a duration stops the app. -/
def stopsApp (p : ClientPhone) : Bool :=
  match p.lookupEnds sampleDistance 0 0
    (oneElement [("status", .str "ZERO_RESULTS")]) with
  | .error t => t == .badCast "duration"
  | .ok _ => false

/-- Both phones get to a lookup. -/
theorem exists_lookups :
    (∃ p, (ProviderPhone.machine fun _ _ => 0).Run
      { app := { device := ProviderApp.sampleProvider 16 } } p ∧ asksDirections p = true) ∧
    ∃ p, (ClientPhone.machine sampleDistance).Run
      { app := .launch ClientSession.sampleDevice false } p ∧
        (asksDistance p && stopsApp p) = true := by
  constructor
  · exact Machine.exists_run_of_replay (ProviderPhone.machine fun _ _ => 0) (fun _ _ => true) _
      (ProviderPhone.onlinePhone ++ ProviderPhone.acceptPhone 24 16 1) asksDirections
      (fun _ _ _ => trivial) (by decide +kernel)
  · exact Machine.exists_run_of_replay (ClientPhone.machine sampleDistance)
      (fun _ _ => true) _
      (ClientPhone.requestPhone ++ [ClientPhoneEvent.onMessage 1 ClientPhone.acceptanceText false])
      (fun p => asksDistance p && stopsApp p) (fun _ _ _ => trivial) (by decide +kernel)

/-- Online, with a route or with an element that has a duration, both sheets open. -/
theorem accepted_trip_opens_online :
    (∃ (p : ProviderPhone) (d : ProviderDashboard) (trip : Dict),
      d.currentAcceptedRequest = some trip ∧
      p.ShowsSheet trip (p.lookupEnds (fun _ _ => 0) (fun _ => true) 0 0 d oneRoute)) ∧
    ∃ (p : ClientPhone) (trip : Dict), Dict.string? trip "RequestType" = some Trip_Status.accepted ∧
      p.ShowsSheet trip (p.lookupEnds sampleDistance 0 0
        (oneElement [("duration", .obj [("value", .ofInt 300)])])) := by
  obtain ⟨⟨p, _, hp⟩, q, _, hq⟩ := exists_lookups
  constructor
  · simp only [asksDirections, Option.any_eq_true, Bool.and_eq_true, beq_iff_eq,
      Bool.not_eq_true'] at hp
    obtain ⟨d, listed, ⟨⟨⟨⟨waits, honTop⟩, hlocation⟩, request, hrequest, hlat, hlong⟩, htrip⟩,
      hflag⟩ := hp
    obtain ⟨trip, htrip⟩ := Option.isSome_iff_exists.mp htrip
    have hnumeral : ∀ {key : String}, ((Dict.string? request key).bind double?).isSome = true →
        IsNumeral request key := by
      intro key h
      obtain ⟨q, hq⟩ := Option.isSome_iff_exists.mp h
      obtain ⟨text, htext, hq⟩ := Option.bind_eq_some_iff.mp hq
      exact ⟨text, htext, by simp [hq]⟩
    have hwhen : p.ShowsSheetWhen (fun _ => true) 0 d trip oneRoute := {
      route := ⟨"_p~iF~ps|U", ⟨_, _, _, ⟨rfl, rfl⟩, ⟨[], rfl⟩, rfl, rfl⟩, rfl⟩
      onTop := honTop
      location := hlocation
      client := ⟨request, hrequest, hnumeral hlat, hnumeral hlong⟩
      current := htrip
      resumed := fun hup => absurd hup (by simp [hflag]) }
    exact ⟨p, d, trip, htrip, ((accepted_trip_opens_iff (fun _ _ => 0) fun _ => true).1 p 0 0 d
      listed waits trip oneRoute).mpr hwhen⟩
  · simp only [asksDistance, Option.any_eq_true, Bool.and_eq_true, beq_iff_eq, Bool.not_eq_true',
      decide_eq_true_eq] at hq
    obtain ⟨⟨s, listed, ⟨⟨⟨⟨trip, waits, ⟨htype, hheld⟩, hid⟩, honTop⟩, hlocation⟩, hflag⟩,
      hlength⟩, _⟩ := hq
    have hwhen : q.ShowsSheetWhen 0 s trip
        (oneElement [("duration", .obj [("value", .ofInt 300)])]) := {
      element := ⟨_, _, ⟨_, _, ⟨rfl, rfl⟩, ⟨[], rfl⟩, [], rfl⟩, rfl, by decide +kernel⟩
      onTop := honTop
      location := hlocation
      current := hheld
      resumed := fun hup => absurd hup (by simp [hflag])
      marked := by
        refine ⟨16, hid, fun n provider hn _ => ?_⟩
        rw [← hlength]
        exact (List.getElem?_eq_some_iff.mp hn).1 }
    exact ⟨q, trip, htype, ((accepted_trip_opens_iff sampleDistance fun _ => true).2
      q 0 0 s trip listed waits htype _).mpr hwhen⟩

/-- Offline, the provider's trip is accepted and no sheet opens; and an element without a duration
stops the client's app. -/
theorem accepted_without_screen :
    (∃ p, (ProviderPhone.machine fun _ _ => 0).Run
        { app := { device := ProviderApp.sampleProvider 16 } } p ∧
      ∃ d, p.app.dashboards[0]? = some d ∧ d.directionsCalls.waiting 0 = some () ∧
        ∀ trip, ¬p.ShowsSheet trip (p.lookupEnds (fun _ _ => 0) (fun _ => true) 0 0 d .offline)) ∧
    ∃ p, (ClientPhone.machine sampleDistance).Run
        { app := .launch ClientSession.sampleDevice false } p ∧
      ∃ s trip, p.app.sessions[0]? = some s ∧ s.distanceCalls.waiting 0 = some trip ∧
        Dict.string? trip "RequestType" = some Trip_Status.accepted ∧
        p.lookupEnds sampleDistance 0 0
          (oneElement [("status", .str "ZERO_RESULTS")]) = .error (.badCast "duration") := by
  obtain ⟨⟨p, hprun, hp⟩, q, hqrun, hq⟩ := exists_lookups
  constructor
  · simp only [asksDirections, Option.any_eq_true, Bool.and_eq_true, beq_iff_eq] at hp
    obtain ⟨d, listed, ⟨⟨⟨⟨waits, _⟩, _⟩, _⟩, _⟩, _⟩ := hp
    refine ⟨p, hprun, d, listed, waits, fun trip hshows => ?_⟩
    obtain ⟨_, hroute, _⟩ := ((ProviderPhone.showsSheet_iff listed waits).mp hshows).route
    obtain ⟨_, _, _, ⟨hoffline, _⟩, _⟩ := hroute
    exact absurd hoffline (by simp)
  · obtain ⟨hasks, hstops⟩ := Bool.and_eq_true_iff.mp hq
    simp only [asksDistance, Option.any_eq_true, Bool.and_eq_true, beq_iff_eq] at hasks
    obtain ⟨s, listed, ⟨⟨⟨⟨trip, waits, ⟨htype, _⟩, _⟩, _⟩, _⟩, _⟩, _⟩ := hasks
    refine ⟨q, hqrun, s, trip, listed, waits, htype, ?_⟩
    unfold stopsApp at hstops
    split at hstops
    · rename_i t ht
      rw [ht, beq_iff_eq.mp hstops]
    · exact absurd hstops (by simp)

end WeatherAccommodation
