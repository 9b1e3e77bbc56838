/-
# Whom an acceptance goes to

Over every order of messages, presses, connect callbacks and location reports whose steps meet
`isAgreed`, frames go where they should and nothing traps for want of a request
(`accepted_goes_to_shown`).  Without it, `Accept` goes to a client that is not on screen
(`accepted_for_another`).
-/
import WeatherAccommodation.Provider.Heard

namespace WeatherAccommodation

open Foundation Reactive

/-! ## 1. The invariant -/

namespace ProviderApp

variable {distance : CLLocation → CLLocation → ℚ}

/-- The trip says whose it is. -/
def HasClient (trip : Dict) : Prop := (Dict.get? trip "ClientId").isSome

/-- Every dashboard knows what it heard, and every trip whose it is. -/
structure Agreed (x : ProviderApp × AcceptHistory) : Prop where
  dashboards : ∀ i d, x.1.dashboards[i]? = some d → Knows (x.2.heard i) d
  sheets : ∀ sheet ∈ x.1.sheets, HasClient sheet.currentRequest
  trips : ∀ screen ∈ x.1.trips, HasClient screen.currentRequest
  existing : ∀ trip, x.1.device.appDelegate.providerExistingTrip = some trip → HasClient trip
  flag : x.1.device.appDelegate.doesRequestExist = true →
    x.1.device.appDelegate.providerExistingTrip ≠ none
  pressed : ∀ socket p, x.2.pressed socket = some p →
    ∃ c, p.heard = .requestOf c ∧
      x.1.sockets.sockets[socket]? = some (.clientProviderConnection c)
  frames : GoesToShown x

namespace Agreed

variable {a b : ProviderApp} {h : AcceptHistory}

theorem start (defaults : UserDefaults) :
    Agreed ({ device := { defaults := defaults, appDelegate := {} } }, .start) where
  dashboards := by simp
  sheets := by simp
  trips := by simp
  existing := by simp
  flag := by simp
  pressed := by simp [AcceptHistory.start]
  frames := by simp [GoesToShown]

/-- A dashboard heard something, and is what it is after that. -/
theorem hear (hx : Agreed (a, h)) {i : Nat} {heard : Heard} {d : ProviderDashboard}
    (hk : Knows heard d) : Agreed (a.putDashboard i d, h.hear i heard) := by
  refine ⟨?_, hx.sheets, hx.trips, hx.existing, hx.flag, hx.pressed, hx.frames⟩
  intro k e hk'
  simp only [putDashboard, List.getElem?_set] at hk'
  simp only [AcceptHistory.hear, Function.update_apply]
  split at hk'
  · rename_i hik
    subst hik
    split at hk'
    · obtain rfl := Option.some.inj hk'
      rw [if_pos rfl]
      exact hk
    · exact absurd hk' (by simp)
  · rename_i hik
    rw [if_neg (fun hki => hik hki.symm)]
    exact hx.dashboards k e hk'

theorem put (hx : Agreed (a, h)) {i : Nat} {d : ProviderDashboard} (hk : Knows (h.heard i) d) :
    Agreed (a.putDashboard i d, h) := by
  have hsame : h.hear i (h.heard i) = h := by simp [AcceptHistory.hear]
  have hhear := hx.hear (i := i) hk
  rwa [hsame] at hhear

/-- A dashboard is made. -/
theorem addDashboard (hx : Agreed (a, h)) {heard : Heard} {d : ProviderDashboard}
    (hk : Knows heard d) :
    Agreed ({ a with dashboards := a.dashboards ++ [d] },
      h.hear a.dashboards.length heard) := by
  refine ⟨?_, hx.sheets, hx.trips, hx.existing, hx.flag, hx.pressed, hx.frames⟩
  intro k e hk'
  simp only [AcceptHistory.hear, Function.update_apply]
  rcases Nat.lt_trichotomy k a.dashboards.length with hlt | rfl | hgt
  · rw [if_neg (Nat.ne_of_lt hlt)]
    rw [List.getElem?_append_left hlt] at hk'
    exact hx.dashboards k e hk'
  · rw [if_pos rfl]
    rw [List.getElem?_concat_length] at hk'
    obtain rfl := Option.some.inj hk'
    exact hk
  · rw [List.getElem?_eq_none (by simp; omega)] at hk'
    exact absurd hk' (by simp)

/-- A frame of another kind is written. -/
theorem write (hx : Agreed (a, h)) {socket : Nat} {frame : ProviderFrame}
    (hframe : ∀ c p l, frame ≠ .accepted c p l) : Agreed (a.write socket frame, h) := by
  refine ⟨hx.dashboards, hx.sheets, hx.trips, hx.existing, hx.flag, hx.pressed, ?_⟩
  intro n c p l hmem
  rcases List.mem_append.mp hmem with hmem | hmem
  · exact hx.frames n c p l hmem
  · have heq := List.mem_singleton.mp hmem
    exact absurd (Prod.ext_iff.mp heq).2.symm (hframe c p l)

/-- An acceptance is written on the socket that `Accept` opened for the client on screen. -/
theorem writeAccepted (hx : Agreed (a, h)) {socket : Nat} {c : Json} {providerId : Int}
    {location : Option CLLocation}
    (hpress : h.pressed socket = some { shown := some c, heard := .requestOf c }) :
    Agreed (a.write socket (.accepted c providerId location), h) := by
  refine ⟨hx.dashboards, hx.sheets, hx.trips, hx.existing, hx.flag, hx.pressed, ?_⟩
  intro n c' p l hmem
  rcases List.mem_append.mp hmem with hmem | hmem
  · exact hx.frames n c' p l hmem
  · have heq := List.mem_singleton.mp hmem
    simp only [Prod.mk.injEq, ProviderFrame.accepted.injEq] at heq
    obtain ⟨rfl, rfl, rfl, rfl⟩ := heq
    obtain ⟨c'', hc, hsocket⟩ := hx.pressed n _ hpress
    obtain rfl : c' = c'' := by simpa using hc
    exact ⟨⟨_, hpress⟩, hsocket⟩

/-- A socket is opened. -/
theorem extend (hx : Agreed (a, h)) {m : WebSocketManager ProviderScreen} (endpoint : Endpoint)
    (hm : m.sockets = a.sockets.sockets ++ [endpoint]) : Agreed ({ a with sockets := m }, h) := by
  have hkeep : ∀ (n : Nat) e, a.sockets.sockets[n]? = some e → m.sockets[n]? = some e := by
    intro n e hn
    rw [hm, List.getElem?_append_left (List.getElem?_eq_some_iff.mp hn).1]
    exact hn
  refine ⟨hx.dashboards, hx.sheets, hx.trips, hx.existing, hx.flag, ?_, ?_⟩
  · intro n p hp
    obtain ⟨c, hc, hn⟩ := hx.pressed n p hp
    exact ⟨c, hc, hkeep n _ hn⟩
  · intro n c p l hmem
    obtain ⟨hpress, hn⟩ := hx.frames n c p l hmem
    exact ⟨hpress, hkeep n _ hn⟩

theorem connect (hx : Agreed (a, h)) (c : Json) : Agreed (a.connect c, h) :=
  hx.extend (.clientProviderConnection c) rfl

theorem activate (hx : Agreed (a, h)) (i : Nat) (providerId : Int) :
    Agreed (a.activate i providerId, h) :=
  hx.extend (.activateProvider (.ofInt providerId)) rfl

/-- `Accept` opens a socket, and its number is new. -/
theorem press (hx : Agreed (a, h)) (shown : Option Json) (c : Json) :
    Agreed (a.connect c,
      h.press a.sockets.sockets.length { shown := shown, heard := .requestOf c }) := by
  have hconnect := hx.connect c
  refine ⟨hx.dashboards, hx.sheets, hx.trips, hx.existing, hx.flag, ?_, ?_⟩
  · intro n p hp
    simp only [AcceptHistory.press, Function.update_apply] at hp
    split at hp
    · rename_i hn
      obtain rfl := Option.some.inj hp
      refine ⟨c, rfl, ?_⟩
      rw [hn]
      exact List.getElem?_concat_length
    · exact hconnect.pressed n p hp
  · intro n c' p l hmem
    obtain ⟨⟨heard, hpress⟩, hn⟩ := hconnect.frames n c' p l hmem
    refine ⟨⟨heard, ?_⟩, hn⟩
    have hlt : n < a.sockets.sockets.length :=
      (List.getElem?_eq_some_iff.mp (hx.frames n c' p l hmem).2).1
    simp only [AcceptHistory.press, Function.update_apply, if_neg (Nat.ne_of_lt hlt)]
    exact hpress

/-- A sheet is presented. -/
theorem presentSheet (hx : Agreed (a, h)) {trip : Dict} (htrip : HasClient trip)
    (here : CLLocation) : Agreed (a.presentSheet trip here, h) := by
  refine ⟨hx.dashboards, ?_, hx.trips, hx.existing, hx.flag, hx.pressed, hx.frames⟩
  intro sheet hsheet
  rcases List.mem_append.mp hsheet with hsheet | hsheet
  · exact hx.sheets sheet hsheet
  · obtain rfl := List.mem_singleton.mp hsheet
    exact htrip

/-- A sheet is changed, but not its trip. -/
theorem putSheet (hx : Agreed (a, h)) {j : Nat} {sheet sheet' : ClientDetailSheet}
    (hlisted : a.sheets[j]? = some sheet) (hsame : sheet'.currentRequest = sheet.currentRequest) :
    Agreed (a.putSheet j sheet', h) := by
  refine ⟨hx.dashboards, ?_, hx.trips, hx.existing, hx.flag, hx.pressed, hx.frames⟩
  intro s hs
  rcases List.mem_or_eq_of_mem_set hs with hs | rfl
  · exact hx.sheets s hs
  · rw [hsame]
    exact hx.sheets sheet (List.mem_of_getElem? hlisted)

/-- A start-trip screen is pushed. -/
theorem addTrip (hx : Agreed (a, h)) {screen : StartTrip} (hscreen : HasClient screen.currentRequest)
    (delegate : Option ProviderScreen) :
    Agreed ({ a with trips := a.trips ++ [screen], locationDelegate := delegate }, h) := by
  refine ⟨hx.dashboards, hx.sheets, ?_, hx.existing, hx.flag, hx.pressed, hx.frames⟩
  intro s hs
  rcases List.mem_append.mp hs with hs | hs
  · exact hx.trips s hs
  · obtain rfl := List.mem_singleton.mp hs
    exact hscreen

theorem putTrip (hx : Agreed (a, h)) {k : Nat} {screen screen' : StartTrip}
    (hlisted : a.trips[k]? = some screen) (hsame : screen'.currentRequest = screen.currentRequest) :
    Agreed (a.putTrip k screen', h) := by
  refine ⟨hx.dashboards, hx.sheets, ?_, hx.existing, hx.flag, hx.pressed, hx.frames⟩
  intro s hs
  rcases List.mem_or_eq_of_mem_set hs with hs | rfl
  · exact hx.trips s hs
  · rw [hsame]
    exact hx.trips screen (List.mem_of_getElem? hlisted)

/-- The server says that a trip exists. -/
theorem tripStatusReply (hx : Agreed (a, h)) {existing : Option Dict}
    (hexisting : ∀ trip, existing = some trip → HasClient trip) :
    Agreed (a.tripStatusReply existing, h) := by
  cases existing with
  | none => exact hx
  | some trip =>
    refine ⟨hx.dashboards, hx.sheets, hx.trips, ?_, ?_, hx.pressed, hx.frames⟩
    · rintro _ ⟨⟩
      exact hexisting trip rfl
    · simp [ProviderApp.tripStatusReply]

/-- The flag is cleared. -/
theorem clearFlag (hx : Agreed (a, h)) : Agreed (a.setFlag false, h) :=
  ⟨hx.dashboards, hx.sheets, hx.trips, hx.existing, fun hflag => absurd hflag (by simp [setFlag]),
    hx.pressed, hx.frames⟩

/-- A status socket is opened or closed. -/
theorem switched (hx : Agreed (a, h)) {i : Nat} {d : ProviderDashboard}
    (hk : Knows (h.heard i) d)
    (hb : (∃ providerId, b = a.activate i providerId) ∨ b = a.putDashboard i d.invalidateTimer) :
    Agreed (b, h) := by
  rcases hb with ⟨providerId, rfl⟩ | rfl
  · exact hx.activate i providerId
  · exact hx.put hk.invalidate

/-- `Accept` opens a socket for the client that is on screen: what is on screen was heard, so the
current request is of the client last heard of. -/
theorem accept (hx : Agreed (a, h)) {i : Nat}
    (hof : StepOf distance a b (.btnAcceptRequest i)) :
    Agreed (b, noteRequest h a (.btnAcceptRequest i) b) := by
  obtain ⟨d, hd, hshown, hof⟩ := hof
  have hk : Knows (h.heard i) d := hx.dashboards i d hd
  obtain ⟨request, clientId, hrequest, hclient, rfl⟩ := btnAcceptRequest_inv hof
  obtain ⟨c, hc⟩ := Heard.exists_of_isRequest (hk.shown hshown)
  obtain rfl : clientId = c := Heard.client_eq (hc ▸ hk.current) hrequest hclient
  simp only [noteRequest, hd, hc]
  exact (hx.press _ clientId).put hk.hide

/-- The connect callback writes the acceptance for the client last heard of, which is the one that
the socket was opened for. -/
theorem connected (hx : Agreed (a, h)) {socket : Nat}
    (hof : StepOf distance a b (.onConnect socket))
    (htimely : isTimely (a, h) (.onConnect socket) = true) : Agreed (b, h) := by
  have hadd : Agreed (a.addConnected socket, h) :=
    ⟨hx.dashboards, hx.sheets, hx.trips, hx.existing, hx.flag, hx.pressed, hx.frames⟩
  obtain ⟨_, _, rfl | ⟨i, d, hdelegate, hd, hof⟩⟩ := hof
  · exact hadd
  · rcases dashboardConnect_inv hof with
      ⟨_, rfl⟩ | ⟨request, clientId, providerId, hsocket, hrequest, hclient, _, rfl⟩
    · exact hadd
    · have hcurrent := (hx.dashboards i d hd).current
      have hvar : a.sockets.clientproviderRequestSocket = some socket := hsocket
      simp only [isTimely, hdelegate, hvar, bne_self_eq_false, Bool.false_or] at htimely
      split at htimely
      · rename_i c hheard
        obtain rfl : clientId = c := Heard.client_eq (hheard ▸ hcurrent) hrequest hclient
        exact hadd.writeAccepted (beq_iff_eq.mp htimely)
      · exact absurd htimely (by simp)

/-- A message is heard by a dashboard, or by a sheet. -/
theorem message (hx : Agreed (a, h)) {socket : Nat} {text : Message} {state : ApplicationState}
    {selectedIndex : Nat} (hformed : isWellFormed text = true)
    (hof : StepOf distance a b (.onMessage socket text state selectedIndex)) :
    Agreed (b, noteRequest h a (.onMessage socket text state selectedIndex) b) := by
  rcases hof.2 with ⟨i, d, hdelegate, hd, hof⟩ | ⟨j, sheet, hdelegate, hsheet, hof⟩
  · have hk : Knows (h.heard i) d := hx.dashboards i d hd
    unfold dashboardMessage at hof
    simp only [noteRequest, hdelegate]
    split at hof
    · rename_i hstatus
      simp only [bind_eq_ok, pure_eq_ok] at hof
      obtain ⟨d', hd', rfl⟩ := hof
      rw [if_pos hstatus]
      exact hx.hear (hk.providerMessage hformed hd')
    · rename_i hother
      rw [if_neg hother]
      split at hof
      · simp only [bind_eq_ok, pure_eq_ok] at hof
        obtain ⟨d', hd', rfl⟩ := hof
        exact hx.put (hk.requestMessage hformed hd')
      · rw [pure_eq_ok] at hof
        subst hof
        exact hx
  · simp only [noteRequest, hdelegate]
    rcases sheetMessage_inv hof with rfl | rfl | rfl
    · exact hx
    · exact hx.putSheet hsheet rfl
    · exact hx.putSheet hsheet rfl

/-- **One step of the app.** -/
theorem step {x y : ProviderApp × AcceptHistory} {e : ProviderEvent} (hx : Agreed x)
    (hcond : isAgreed x e = true)
    (hstep : ((machine distance).withHistory noteRequest).Step x e y) : Agreed y := by
  obtain ⟨a, h⟩ := x
  obtain ⟨b, h'⟩ := y
  obtain ⟨hab, hnote⟩ := Machine.withHistory_step.mp hstep
  obtain rfl : h' = noteRequest h a e b := hnote
  have hof : StepOf distance a b e := step_inv hab
  obtain ⟨hpromised, htimely⟩ := Bool.and_eq_true_iff.mp hcond
  cases e with
  | tripStatusReply existing =>
    obtain rfl : b = a.tripStatusReply existing := hof
    refine hx.tripStatusReply ?_
    rintro trip rfl
    simpa [isPromised, HasClient] using hpromised
  | notificationTapped =>
    obtain rfl : b = a.notificationTapped := hof
    exact ⟨hx.dashboards, hx.sheets, hx.trips, hx.existing, hx.flag, hx.pressed, hx.frames⟩
  | viewDidLoad =>
    rcases viewDidLoad_inv hof with rfl | ⟨trip, clientId, _, htrip, _, rfl⟩
    · exact hx.addDashboard Knows.fresh
    · have hclient : HasClient trip := hx.existing trip htrip
      exact ((hx.connect clientId).addDashboard (Knows.resumed hclient)).addTrip hclient _
  | viewWillAppear i =>
    obtain ⟨d, hd, rfl⟩ := hof
    have hput := hx.put (hx.dashboards i d hd).clearTrip
    exact ⟨hput.dashboards, hput.sheets, hput.trips, hput.existing, hput.flag, hput.pressed,
      hput.frames⟩
  | willEnterForeground i =>
    obtain ⟨d, hd, hof⟩ := hof
    have hk : Knows (h.heard i) d := hx.dashboards i d hd
    unfold willEnterForeground at hof
    split at hof
    · rename_i hflag
      simp only [bind_eq_ok, pure_eq_ok] at hof
      obtain ⟨d', hd', rfl⟩ := hof
      simp only [noteRequest, hd, hflag, if_true]
      exact hx.hear (hk.showRequest hk.detail hd')
    · rename_i hflag
      rw [pure_eq_ok] at hof
      subst hof
      simp only [noteRequest, hd, if_neg hflag]
      exact hx
  | btnCancelRequest i =>
    obtain ⟨d, hd, _, rfl⟩ := hof
    exact hx.hear (hx.dashboards i d hd).cancel
  | btnAcceptRequest i => exact hx.accept hof
  | switchValueChanged i isOn =>
    obtain ⟨d, hd, hof⟩ := hof
    have hk : Knows (h.heard i) d := hx.dashboards i d hd
    unfold switchValueChanged at hof
    have hset : ∀ on, Knows (h.heard i) (setSwitch d on) := fun on =>
      hk.of_quieter rfl id rfl rfl id fun _ => id
    split at hof
    · rw [pure_eq_ok] at hof
      subst hof
      exact hx.put (hset false)
    · exact (hx.put (hset isOn)).switched (hset isOn)
        (requestSocketToChangeStatusOrLocation_inv hof)
  | timerViewFinished i =>
    obtain ⟨d, hd, rfl⟩ := hof
    refine hx.put ((hx.dashboards i d hd).hide.of_quieter rfl id rfl rfl id fun _ => id)
  | timerFired i =>
    obtain ⟨d, _, _, hof⟩ := hof
    obtain ⟨_, _, _, _, rfl⟩ := timerFired_inv hof
    exact hx.write (by simp)
  | directionsReply i call success =>
    obtain ⟨d, hd, _, hof⟩ := hof
    have hk : Knows (h.heard i) (answered d call) := (hx.dashboards i d hd).answered call
    rcases directionsReply_inv hof with ⟨_, rfl⟩ | ⟨trip, here, _, htrip, _, rfl⟩
    · exact hx.put hk
    · have hmarked : Knows (h.heard i) { answered d call with hasMarkers := true } :=
        hk.of_quieter rfl id rfl rfl id fun _ => id
      exact (hx.put hmarked).presentSheet (hk.accepted trip htrip) here
  | tracingLocation l =>
    rcases hof with ⟨i, d, d', _, hd, hd', rfl⟩ | ⟨j, sheet, hsheet, rfl⟩
    · exact hx.put ((hx.dashboards i d hd).tracingLocation hd')
    · exact hx.putSheet hsheet rfl
  | onConnect socket => exact hx.connected hof htimely
  | onDisconnect code =>
    obtain ⟨i, d, _, hd, hof⟩ := hof
    rcases dashboardDisconnect_inv hof with rfl | hof
    · exact hx
    · exact hx.switched (hx.dashboards i d hd) hof
  | onMessage socket text state selectedIndex => exact hx.message hpromised hof
  | textFieldEditingChanged j text =>
    obtain ⟨sheet, hsheet, _, hof⟩ := hof
    rcases textFieldEditingChanged_inv hof with rfl | ⟨socket, tripId, _, _, rfl⟩
    · exact hx
    · let screen : StartTrip := { currentRequest := sheet.currentRequest }
      have hclient : HasClient screen.currentRequest :=
        hx.sheets sheet (List.mem_of_getElem? hsheet)
      have hwritten : Agreed (a.write socket (.reached tripId), h) := hx.write (by simp)
      have hpushed := hwritten.clearFlag.addTrip hclient (some (.startTrip a.trips.length))
      exact hpushed.putSheet hsheet rfl
  | cancelTrip j reason =>
    obtain ⟨sheet, hsheet, hof⟩ := hof
    obtain ⟨socket, _, _, _, _, rfl⟩ := cancelTrip_inv hof
    exact (hx.write (by simp)).putSheet hsheet rfl
  | btnActionPressed k =>
    obtain ⟨screen, _, hof⟩ := hof
    obtain ⟨_, _, _, _, _, rfl⟩ := btnActionPressed_inv hof
    exact ⟨hx.dashboards, hx.sheets, hx.trips, hx.existing, hx.flag, hx.pressed, hx.frames⟩
  | startEndReply call success =>
    obtain ⟨k, statusCode, _, rfl⟩ := hof
    have hretired : Agreed ({ a with startEndCalls := a.startEndCalls.retire call }, h) :=
      ⟨hx.dashboards, hx.sheets, hx.trips, hx.existing, hx.flag, hx.pressed, hx.frames⟩
    unfold startEndReply
    split
    · rename_i screen hscreen
      refine hretired.putTrip hscreen ?_
      unfold StartTrip.startEndReply
      split
      · split
        · rfl
        · rfl
      · rfl
    · exact hretired

end Agreed

/-! ## 3. Nothing is missing -/

section Present

variable {a : ProviderApp} {d : ProviderDashboard}

theorem avoids_requestSocket : Avoids IsMissing a.requestSocket := avoids_unwrap fun _ => id

theorem avoids_forceClient {trip : Dict} (h : HasClient trip) :
    Avoids IsMissing (forceKey trip "ClientId") := by
  refine avoids_unwrap fun hnone => ?_
  rw [HasClient, hnone] at h
  exact absurd h (by simp)

/-- Of the ids of a trip only the client's is asked for here. -/
theorem avoids_forceOther {trip : Dict} {key : String}
    (hkey : ¬(key = "ClientId" ∨ key = "latitude" ∨ key = "longitude")) :
    Avoids IsMissing (forceKey trip key) := avoids_unwrap fun _ => hkey

theorem avoids_openBottomSheet (h : d.currentAcceptedRequest ≠ none) :
    Avoids IsMissing (a.openBottomSheet d) := by
  refine Avoids.bind (avoids_unwrap fun hnone => absurd hnone h) fun _ _ => ?_
  refine ProviderDashboard.avoids_ownLocation.bind fun _ _ => ?_
  split
  · exact (spares_isMissing.forceInt _ _).bind fun _ _ => avoids_pure _
  · exact avoids_pure _

theorem avoids_pushStartTrip (trip : Dict) : Avoids IsMissing (a.pushStartTrip trip) := by
  refine Avoids.bind ?_ fun _ _ => avoids_pure _
  exact avoids_ite (fun _ => (spares_isMissing.forceInt _ _).bind fun _ _ => avoids_pure _)
    fun _ => avoids_pure _

theorem avoids_viewDidLoad {h : AcceptHistory} (hx : Agreed (a, h)) :
    Avoids IsMissing a.viewDidLoad := by
  refine avoids_ite (fun hflag => ?_) fun _ => avoids_pure _
  refine Avoids.bind (avoids_unwrap fun hnone => absurd hnone (hx.flag hflag)) fun trip htrip => ?_
  refine (avoids_forceClient (hx.existing trip (unwrap_eq_ok.mp htrip))).bind fun _ _ => ?_
  refine avoids_ite (fun _ => ?_) fun _ => avoids_pushStartTrip trip
  exact avoids_openBottomSheet (by simp [ProviderDashboard.setAccepted])

theorem avoids_btnAcceptRequest {heard : Heard} {i : Nat} (hk : Knows heard d)
    (hshown : d.requestViewIsHidden = false) : Avoids IsMissing (a.btnAcceptRequest i d) := by
  obtain ⟨c, rfl⟩ := Heard.exists_of_isRequest (hk.shown hshown)
  exact (ProviderDashboard.avoids_requestKey hk.current (Or.inl rfl)).bind fun _ _ => avoids_pure _

theorem avoids_requestSocketToChangeStatusOrLocation (i : Nat) :
    Avoids IsMissing (a.requestSocketToChangeStatusOrLocation i d) := by
  refine avoids_ite (fun _ => ?_) fun _ => ?_
  · exact (spares_isMissing.userID _ _).bind fun _ _ => avoids_pure _
  · exact (avoids_unwrap fun _ => id).bind fun _ _ => avoids_pure _

theorem avoids_switchValueChanged (i : Nat) (isOn : Bool) :
    Avoids IsMissing (a.switchValueChanged i d isOn) :=
  avoids_ite (fun _ => avoids_pure _) fun _ => avoids_requestSocketToChangeStatusOrLocation i

/-- The timer runs only after an acceptance. -/
theorem avoids_timerFired {heard : Heard} (hk : Knows heard d) (hvalid : d.timerIsValid = true) :
    Avoids IsMissing (a.timerFired d) := by
  refine avoids_requestSocket.bind fun _ _ => ?_
  refine Avoids.bind (avoids_unwrap fun hnone => ?_) fun trip htrip => ?_
  · rw [(hk.idle hnone).1] at hvalid
    exact absurd hvalid (by simp)
  · refine (avoids_forceClient (hk.accepted trip (unwrap_eq_ok.mp htrip))).bind fun _ _ => ?_
    exact (spares_isMissing.userID _ _).bind fun _ _ => avoids_pure _

/-- Directions were asked for only after an acceptance. -/
theorem avoids_directionsReply {heard : Heard} {i call : Nat} {success : Bool}
    (hk : Knows heard d) (hcall : d.directionsCalls.waiting call = some ())
    (hheard : success = true → heard.isRequest = true) :
    Avoids IsMissing (a.directionsReply i (answered d call) success) := by
  refine avoids_ite (fun hyes => ?_) fun _ => avoids_pure _
  obtain ⟨c, rfl⟩ := Heard.exists_of_isRequest (hheard hyes)
  refine (ProviderDashboard.avoids_drawMarkers (hk.answered call).current).bind fun d' hd' => ?_
  obtain rfl := ProviderDashboard.drawMarkers_inv hd'
  refine avoids_openBottomSheet fun hnone => ?_
  rw [(hk.idle hnone).2 call] at hcall
  exact absurd hcall (by simp)

theorem avoids_dashboardDisconnect {i : Nat} (code : Option Int) :
    Avoids IsMissing (a.dashboardDisconnect i d code) := by
  refine Avoids.bind (avoids_unwrap fun _ => id) fun _ _ => ?_
  exact avoids_ite (fun _ => avoids_requestSocketToChangeStatusOrLocation i) fun _ => avoids_pure _

theorem avoids_sheetMessage {j socket : Nat} (sheet : ClientDetailSheet) (text : Message) :
    Avoids IsMissing (a.sheetMessage j sheet socket text) := by
  refine avoids_ite (fun _ => Avoids.bind ?_ fun _ _ => avoids_pure _) fun _ => avoids_pure _
  refine (spares_isMissing.messageDict text).bind fun o _ => ?_
  cases o with
  | none => exact avoids_pure _
  | some dict =>
    exact (spares_isMissing.hasText _ _ _).bind fun _ _ => avoids_ite (fun _ => avoids_pure _)
      fun _ => avoids_pure _

theorem avoids_textFieldEditingChanged (j : Nat) (sheet : ClientDetailSheet) (text : String) :
    Avoids IsMissing (a.textFieldEditingChanged j sheet text) := by
  refine avoids_ite (fun _ => ?_) fun _ => avoids_pure _
  refine avoids_requestSocket.bind fun _ _ => (avoids_forceOther (by decide)).bind fun _ _ => ?_
  exact (avoids_pushStartTrip _).bind fun _ _ => avoids_pure _

theorem avoids_cancelTrip {sheet : ClientDetailSheet} (h : HasClient sheet.currentRequest) (j : Nat)
    (reason : String) : Avoids IsMissing (a.cancelTrip j sheet reason) := by
  refine avoids_requestSocket.bind fun _ _ => (avoids_forceClient h).bind fun _ _ => ?_
  refine (avoids_forceOther (by decide)).bind fun _ _ => ?_
  exact (avoids_forceOther (by decide)).bind fun _ _ => avoids_pure _

theorem avoids_btnActionPressed {screen : StartTrip} (h : HasClient screen.currentRequest)
    (k : Nat) : Avoids IsMissing (a.btnActionPressed k screen) := by
  refine Avoids.bind ?_ fun _ _ => avoids_pure _
  refine (avoids_forceClient h).bind fun _ _ => (avoids_forceOther (by decide)).bind fun _ _ => ?_
  exact (avoids_forceOther (by decide)).bind fun _ _ => avoids_pure _

/-- The connect callback of an agreed step. -/
theorem avoids_onConnect {h : AcceptHistory} (hx : Agreed (a, h)) {socket : Nat}
    (htimely : isTimely (a, h) (.onConnect socket) = true) :
    Avoids IsMissing (a.onConnect socket) := by
  simp only [onConnect]
  split
  · rename_i i hdelegate
    split
    · rename_i d hd
      refine avoids_ite (fun hsocket => ?_) fun _ => avoids_pure _
      have hvar : a.sockets.clientproviderRequestSocket = some socket := hsocket
      have hfrom : a.sockets.delegate = some (.dashboard i) := hdelegate
      have hk : Knows (h.heard i) d := hx.dashboards i d hd
      simp only [isTimely, hfrom, hvar, bne_self_eq_false, Bool.false_or] at htimely
      split at htimely
      · rename_i c hheard
        rw [hheard] at hk
        refine (ProviderDashboard.avoids_requestKey hk.current (Or.inl rfl)).bind fun _ _ => ?_
        exact (spares_isMissing.userID _ _).bind fun _ _ => avoids_pure _
      · exact absurd htimely (by simp)
    · exact avoids_pure _
  · exact avoids_pure _

/-- A message of an agreed step, on a dashboard. -/
theorem avoids_dashboardMessage {h : AcceptHistory} (hx : Agreed (a, h)) {i socket : Nat}
    {text : Message} {state : ApplicationState} {selectedIndex : Nat}
    (hdelegate : a.sockets.delegate = some (.dashboard i)) (hd : a.dashboards[i]? = some d)
    (hformed : isWellFormed text = true)
    (htimely : isTimely (a, h) (.onMessage socket text state selectedIndex) = true) :
    Avoids IsMissing (a.dashboardMessage i d socket text state selectedIndex) := by
  have hk : Knows (h.heard i) d := hx.dashboards i d hd
  simp only [isTimely, hdelegate] at htimely
  refine avoids_ite (fun _ => ?_) fun _ => avoids_ite (fun hsocket => ?_) fun _ => avoids_pure _
  · exact (ProviderDashboard.avoids_providerMessage hformed).bind fun _ _ => avoids_pure _
  · refine (ProviderDashboard.avoids_requestMessage hk ?_).bind fun _ _ => avoids_pure _
    intro haccepted
    simpa [hsocket, haccepted] using htimely

/-- **No step misses anything.** -/
theorem Agreed.avoids {x : ProviderApp × AcceptHistory} (hx : Agreed x) {e : ProviderEvent}
    (hcond : isAgreed x e = true) {r : Except Trap ProviderApp}
    (hr : react distance x.1 e = some r) : Avoids IsMissing r := by
  obtain ⟨a, h⟩ := x
  obtain ⟨hpromised, htimely⟩ := Bool.and_eq_true_iff.mp hcond
  cases e with
  | tripStatusReply existing =>
    obtain rfl := Option.some.inj hr
    exact avoids_ok _
  | notificationTapped =>
    obtain rfl := Option.some.inj hr
    exact avoids_ok _
  | viewDidLoad =>
    obtain rfl := Option.some.inj hr
    exact avoids_viewDidLoad hx
  | viewWillAppear i =>
    obtain ⟨d, _, rfl⟩ := Option.map_eq_some_iff.mp hr
    exact avoids_ok _
  | willEnterForeground i =>
    obtain ⟨d, hd, rfl⟩ := Option.map_eq_some_iff.mp hr
    refine avoids_ite (fun _ => ?_) fun _ => avoids_pure _
    exact (ProviderDashboard.avoids_showRequestUI (hx.dashboards i d hd).detail).bind
      fun _ _ => avoids_pure _
  | btnCancelRequest i =>
    obtain ⟨d, _, hr⟩ := Option.bind_eq_some_iff.mp hr
    split at hr
    · exact absurd hr (by simp)
    · obtain rfl := Option.some.inj hr
      exact avoids_ok _
  | btnAcceptRequest i =>
    obtain ⟨d, hd, hr⟩ := Option.bind_eq_some_iff.mp hr
    split at hr
    · exact absurd hr (by simp)
    · rename_i hshown
      obtain rfl := Option.some.inj hr
      exact avoids_btnAcceptRequest (hx.dashboards i d hd) (by simpa using hshown)
  | switchValueChanged i isOn =>
    obtain ⟨d, _, rfl⟩ := Option.map_eq_some_iff.mp hr
    exact avoids_switchValueChanged i isOn
  | timerViewFinished i =>
    obtain ⟨d, _, hr⟩ := Option.bind_eq_some_iff.mp hr
    split at hr
    · obtain rfl := Option.some.inj hr
      exact avoids_ok _
    · exact absurd hr (by simp)
  | timerFired i =>
    obtain ⟨d, hd, hr⟩ := Option.bind_eq_some_iff.mp hr
    split at hr
    · rename_i hvalid
      obtain rfl := Option.some.inj hr
      exact avoids_timerFired (hx.dashboards i d hd) hvalid
    · exact absurd hr (by simp)
  | directionsReply i call success =>
    obtain ⟨d, hd, hr⟩ := Option.bind_eq_some_iff.mp hr
    obtain ⟨_, hcall, rfl⟩ := Option.map_eq_some_iff.mp hr
    refine avoids_directionsReply (hx.dashboards i d hd) hcall fun hyes => ?_
    simpa [isTimely, hyes] using htimely
  | tracingLocation l =>
    have hr' : a.tracingLocation distance l = some r := hr
    unfold tracingLocation at hr'
    split at hr'
    · rename_i i hdelegate
      obtain ⟨d, hd, rfl⟩ := Option.map_eq_some_iff.mp hr'
      have hheard : h.heard i ≠ .withdrawn := by simpa [isTimely, hdelegate] using htimely
      exact (ProviderDashboard.avoids_tracingLocation (hx.dashboards i d hd) hheard l).bind
        fun _ _ => avoids_pure _
    · obtain ⟨sheet, _, rfl⟩ := Option.map_eq_some_iff.mp hr'
      exact avoids_pure _
    · exact absurd hr' (by simp)
  | onConnect socket =>
    simp only [react] at hr
    split at hr
    · obtain rfl := Option.some.inj hr
      exact avoids_onConnect hx htimely
    · exact absurd hr (by simp)
  | onDisconnect code =>
    simp only [react] at hr
    split at hr
    · obtain ⟨d, _, rfl⟩ := Option.map_eq_some_iff.mp hr
      exact avoids_dashboardDisconnect code
    · exact absurd hr (by simp)
  | onMessage socket text state selectedIndex =>
    simp only [react] at hr
    split at hr
    · split at hr
      · rename_i i hdelegate
        obtain ⟨d, hd, rfl⟩ := Option.map_eq_some_iff.mp hr
        exact avoids_dashboardMessage hx hdelegate hd hpromised htimely
      · obtain ⟨sheet, _, rfl⟩ := Option.map_eq_some_iff.mp hr
        exact avoids_sheetMessage sheet text
      · exact absurd hr (by simp)
    · exact absurd hr (by simp)
  | textFieldEditingChanged j text =>
    obtain ⟨sheet, _, hr⟩ := Option.bind_eq_some_iff.mp hr
    split at hr
    · obtain rfl := Option.some.inj hr
      exact avoids_textFieldEditingChanged j sheet text
    · exact absurd hr (by simp)
  | cancelTrip j reason =>
    obtain ⟨sheet, hsheet, hr⟩ := Option.bind_eq_some_iff.mp hr
    split at hr
    · obtain rfl := Option.some.inj hr
      exact avoids_cancelTrip (hx.sheets sheet (List.mem_of_getElem? hsheet)) j reason
    · exact absurd hr (by simp)
  | btnActionPressed k =>
    obtain ⟨screen, hscreen, hr⟩ := Option.bind_eq_some_iff.mp hr
    split at hr
    · exact absurd hr (by simp)
    · obtain rfl := Option.some.inj hr
      exact avoids_btnActionPressed (hx.trips screen (List.mem_of_getElem? hscreen)) k
  | startEndReply call success =>
    obtain ⟨_, _, rfl⟩ := Option.map_eq_some_iff.mp hr
    exact avoids_ok _

end Present

/-! ## 4. The law -/

/-- **Accept goes to the client the provider saw.**  From a launch with any defaults, over any
number of dashboards and clients and any order of events whose steps are agreed: every
acceptance names the client on screen at its press and is written on the channel of that client,
and the next agreed event misses nothing either. -/
theorem accepted_goes_to_shown (defaults : UserDefaults) {x : ProviderApp × AcceptHistory}
    (hrun : ((machine distance).withHistory noteRequest).RunWhere
      (fun x e => isAgreed x e = true)
      ({ device := { defaults := defaults, appDelegate := {} } }, .start) x) :
    GoesToShown x ∧ ∀ e f, isAgreed x e = true → (machine distance).Traps x.1 e f →
      ¬IsMissing f := by
  have hI : Agreed x :=
    hrun.invariant (Agreed.start defaults) fun _ _ _ hI hcond hstep => hI.step hcond hstep
  refine ⟨hI.frames, ?_⟩
  intro e f hcond htraps
  exact hI.avoids hcond htraps f rfl

/-- Two clients' requests are shown and accepted one after the other. -/
theorem accepted_goes_to_shown_twice : ∃ x : ProviderApp × AcceptHistory,
    x.1.frames.length = 2 ∧ GoesToShown x := by
  obtain ⟨x, hrun, htest⟩ := Machine.exists_run_of_replay
    ((machine fun _ _ => 0).withHistory noteRequest) isAgreed
    ({ device := sampleProvider 16 }, .start)
    (onlineEvents ++ acceptEvents 24 ++ [.onMessage 0 (requestText 25 "requested") .active 0,
      .btnAcceptRequest 0, .onConnect 2])
    (fun x => x.1.frames.length == 2) (fun _ _ => id) (by decide +kernel)
  exact ⟨x, by simpa using htest, (accepted_goes_to_shown (sampleProvider 16).defaults hrun).1⟩

/-- Some acceptance names another client than the one on screen at its press. -/
def strays (x : ProviderApp × AcceptHistory) : Bool :=
  x.1.frames.any fun
    | (socket, .accepted clientId _ _) =>
      (x.2.pressed socket).all fun p => p.shown != some clientId
    | _ => false

theorem not_goesToShown_of_strays {x : ProviderApp × AcceptHistory} (h : strays x = true) :
    ¬GoesToShown x := by
  intro hgood
  obtain ⟨⟨socket, frame⟩, hmem, htest⟩ := List.any_eq_true.mp h
  cases frame with
  | accepted clientId providerId location =>
    obtain ⟨⟨heard, hpress⟩, _⟩ := hgood socket clientId providerId location hmem
    simp [hpress] at htest
  | locationUpdated => exact absurd htest (by simp)
  | reached => exact absurd htest (by simp)
  | cancelled => exact absurd htest (by simp)

/-- The details of client 24 are on screen when the request of client 25 comes in behind them;
`Accept` goes to client 25. -/
theorem accepted_for_another : ∃ x : ProviderApp × AcceptHistory,
    ((machine fun _ _ => 0).withHistory noteRequest).RunWhere (fun _ e => isPromised e = true)
      ({ device := sampleProvider 16 }, .start) x ∧ ¬GoesToShown x := by
  obtain ⟨x, hrun, htest⟩ := Machine.exists_run_of_replay
    ((machine fun _ _ => 0).withHistory noteRequest) (fun _ e => isPromised e)
    ({ device := sampleProvider 16 }, .start)
    (onlineEvents ++ [.onMessage 0 (requestText 24 "requested") .active 0,
      .onMessage 0 (requestText 25 "requested") .active 0, .btnAcceptRequest 0, .onConnect 1])
    strays (fun _ _ => id) (by decide +kernel)
  exact ⟨x, hrun, not_goesToShown_of_strays htest⟩

end ProviderApp

end WeatherAccommodation
