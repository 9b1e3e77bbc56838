/-
# One winner per request

The channel of a client carries the acceptances of everybody who accepted its request, to
everybody who is connected on it, and a dashboard takes whatever acceptance it is handed for its
own.  A request is known by its client: nothing else in frames, sockets and trips names it.

`Won` is the law: who is in a trip is named by it, and is alone in it.  `Uncontested` is the
condition on a step, `one_winner` the law for every run whose steps are, and `two_winners` a run
of two providers that are not.
-/
import Mathlib.Data.Fintype.Basic
import WeatherAccommodation.Provider.Network

namespace WeatherAccommodation

open Foundation Reactive

/-! ## 1. Being in a trip -/

namespace ProviderApp

variable {distance : CLLocation → CLLocation → ℚ}

/-- The trip whose location timer runs on the dashboard. -/
def timedTrip (d : ProviderDashboard) : Option Dict :=
  if d.timerIsValid then d.currentAcceptedRequest else none

/-- The trip the sheet shows. -/
def shownTrip (sheet : ClientDetailSheet) : Option Dict :=
  if sheet.isPresented then some sheet.currentRequest else none

/-- The trips the provider is in. -/
def openTrips (a : ProviderApp) : List Dict :=
  a.dashboards.filterMap timedTrip ++ a.sheets.filterMap shownTrip

theorem mem_openTrips {a : ProviderApp} {trip : Dict} :
    trip ∈ a.openTrips ↔
      (∃ d ∈ a.dashboards, d.timerIsValid = true ∧ d.currentAcceptedRequest = some trip) ∨
      ∃ sheet ∈ a.sheets, sheet.isPresented = true ∧ sheet.currentRequest = trip := by
  simp [openTrips, timedTrip, shownTrip]

/-- The dashboard in charge would take an acceptance that comes in on `socket`. -/
def listens (a : ProviderApp) (socket : Nat) : Bool :=
  match a.sockets.delegate with
  | some (.dashboard _) =>
    a.sockets.providerConnectionSocket != some socket &&
      a.sockets.clientproviderRequestSocket == some socket
  | _ => false

/-- The trips an event can open: the one that is accepted, and the one whose directions
arrive. -/
def opens (a : ProviderApp) : ProviderEvent → List Dict
  | .onMessage socket (some (.obj dict)) _ _ =>
    if a.listens socket ∧ Dict.string? dict "RequestType" = some Trip_Status.accepted then [dict]
    else []
  | .directionsReply i _ true =>
    ((a.dashboards[i]?).bind fun d => d.currentAcceptedRequest).toList
  | _ => []

/-- The trip names the provider who is signed in on the device. -/
def Names (device : Device) (trip : Dict) : Prop :=
  ∃ providerId, device.userID .providerApp = .ok providerId ∧
    Dict.string? trip "ProviderId" = some (toString providerId)

/-! ## 2. What a step keeps -/

/-- An open trip satisfies `P`, and one that directions were asked for `Q`; every acceptance was
written by the user whom the defaults `u` name. -/
structure Kept (P Q : Dict → Prop) (u : UserDefaults) (a : ProviderApp) : Prop where
  timed : ∀ d ∈ a.dashboards, ∀ trip, d.currentAcceptedRequest = some trip →
    d.timerIsValid = true → P trip
  asked : ∀ d ∈ a.dashboards, ∀ trip, d.currentAcceptedRequest = some trip →
    ∀ call, d.directionsCalls.waiting call = some () → Q trip
  shown : ∀ sheet ∈ a.sheets, sheet.isPresented = true → P sheet.currentRequest
  defaults : a.device.defaults = u
  written : ∀ socket clientId providerId location,
    (socket, ProviderFrame.accepted clientId providerId location) ∈ a.frames →
      a.device.userID .providerApp = .ok providerId
  channel : ∀ socket, a.sockets.clientproviderRequestSocket = some socket →
    ∃ clientId, a.sockets.sockets[socket]? = some (.clientProviderConnection clientId)

/-- What `Kept` says of one dashboard. -/
structure DashboardKept (P Q : Dict → Prop) (d : ProviderDashboard) : Prop where
  timed : ∀ trip, d.currentAcceptedRequest = some trip → d.timerIsValid = true → P trip
  asked : ∀ trip, d.currentAcceptedRequest = some trip →
    ∀ call, d.directionsCalls.waiting call = some () → Q trip

namespace Kept

variable {P Q : Dict → Prop} {u : UserDefaults} {a : ProviderApp}

theorem dashboard (hx : Kept P Q u a) {i : Nat} {d : ProviderDashboard}
    (hd : a.dashboards[i]? = some d) : DashboardKept P Q d :=
  ⟨hx.timed d (List.mem_of_getElem? hd), hx.asked d (List.mem_of_getElem? hd)⟩

theorem put (hx : Kept P Q u a) {i : Nat} {d : ProviderDashboard}
    (hd : DashboardKept P Q d) : Kept P Q u (a.putDashboard i d) := by
  refine ⟨?_, ?_, hx.shown, hx.defaults, hx.written, hx.channel⟩
  · intro e he
    rcases List.mem_or_eq_of_mem_set he with he | rfl
    · exact hx.timed e he
    · exact hd.timed
  · intro e he
    rcases List.mem_or_eq_of_mem_set he with he | rfl
    · exact hx.asked e he
    · exact hd.asked

theorem addDashboard (hx : Kept P Q u a) {d : ProviderDashboard}
    (hd : DashboardKept P Q d) :
    Kept P Q u { a with dashboards := a.dashboards ++ [d] } := by
  refine ⟨?_, ?_, hx.shown, hx.defaults, hx.written, hx.channel⟩
  · intro e he
    rcases List.mem_append.mp he with he | he
    · exact hx.timed e he
    · obtain rfl := List.mem_singleton.mp he
      exact hd.timed
  · intro e he
    rcases List.mem_append.mp he with he | he
    · exact hx.asked e he
    · obtain rfl := List.mem_singleton.mp he
      exact hd.asked

theorem putSheet (hx : Kept P Q u a) {j : Nat} {sheet : ClientDetailSheet}
    (hsheet : sheet.isPresented = true → P sheet.currentRequest) :
    Kept P Q u (a.putSheet j sheet) := by
  refine ⟨hx.timed, hx.asked, ?_, hx.defaults, hx.written, hx.channel⟩
  intro s hs
  rcases List.mem_or_eq_of_mem_set hs with hs | rfl
  · exact hx.shown s hs
  · exact hsheet

theorem presentSheet (hx : Kept P Q u a) {trip : Dict} (htrip : P trip)
    (here : CLLocation) : Kept P Q u (a.presentSheet trip here) := by
  refine ⟨hx.timed, hx.asked, ?_, hx.defaults, hx.written, hx.channel⟩
  intro s hs
  rcases List.mem_append.mp hs with hs | hs
  · exact hx.shown s hs
  · obtain rfl := List.mem_singleton.mp hs
    exact fun _ => htrip

/-- A frame is written; an acceptance is in the name of the user. -/
theorem write (hx : Kept P Q u a) {socket : Nat} {frame : ProviderFrame}
    (hframe : ∀ clientId providerId location, frame = .accepted clientId providerId location →
      a.device.userID .providerApp = .ok providerId) :
    Kept P Q u (a.write socket frame) := by
  refine ⟨hx.timed, hx.asked, hx.shown, hx.defaults, ?_, hx.channel⟩
  intro s clientId providerId location hmem
  rcases List.mem_append.mp hmem with hmem | hmem
  · exact hx.written s clientId providerId location hmem
  · have heq := List.mem_singleton.mp hmem
    exact hframe clientId providerId location (Prod.ext_iff.mp heq).2.symm

theorem connect (hx : Kept P Q u a) (clientId : Json) :
    Kept P Q u (a.connect clientId) := by
  refine ⟨hx.timed, hx.asked, hx.shown, hx.defaults, hx.written, ?_⟩
  intro socket hsocket
  obtain rfl : a.sockets.sockets.length = socket := by
    simpa [ProviderApp.connect, WebSocketManager.connectClientProviderRequestSocket] using hsocket
  exact ⟨clientId, List.getElem?_concat_length⟩

theorem activate (hx : Kept P Q u a) (i : Nat) (providerId : Int) :
    Kept P Q u (a.activate i providerId) := by
  refine ⟨hx.timed, hx.asked, hx.shown, hx.defaults, hx.written, ?_⟩
  intro socket hsocket
  obtain ⟨clientId, hopen⟩ := hx.channel socket hsocket
  refine ⟨clientId, ?_⟩
  have hlt : socket < a.sockets.sockets.length := (List.getElem?_eq_some_iff.mp hopen).1
  exact (List.getElem?_append_left hlt).trans hopen

end Kept

/-- A change that accepts nothing, and starts neither a timer nor a call. -/
theorem DashboardKept.of_quieter {P Q : Dict → Prop} {d d' : ProviderDashboard}
    (h : DashboardKept P Q d) (haccepted : d'.currentAcceptedRequest = d.currentAcceptedRequest)
    (htimer : d'.timerIsValid = true → d.timerIsValid = true)
    (hcalls : ∀ call, d'.directionsCalls.waiting call = some () →
      d.directionsCalls.waiting call = some ()) : DashboardKept P Q d' where
  timed := by
    intro trip htrip hvalid
    exact h.timed trip (haccepted ▸ htrip) (htimer hvalid)
  asked := by
    intro trip htrip call hcall
    exact h.asked trip (haccepted ▸ htrip) call (hcalls call hcall)

namespace DashboardKept

variable {P Q : Dict → Prop} {d d' : ProviderDashboard}

theorem fresh : DashboardKept P Q { location := none } where
  timed := by simp
  asked := by simp

/-- A resumed trip is no open one yet. -/
theorem resumed (trip : Dict) : DashboardKept P Q { currentAcceptedRequest := some trip } where
  timed := by simp
  asked := by simp

theorem showRequest {text : Message} (h : DashboardKept P Q d)
    (hd : d.showRequestUI text = .ok d') : DashboardKept P Q d' := by
  rcases ProviderDashboard.showRequestUI_inv hd with
    ⟨_, rfl⟩ | ⟨_, _, ⟨_, rfl⟩ | ⟨_, rfl⟩ | ⟨_, rfl⟩⟩
  · exact h
  · exact h.of_quieter rfl id fun _ => id
  · exact h.of_quieter rfl id fun _ => id
  · exact h.of_quieter rfl id fun _ => id

/-- Nothing on the status socket is an acceptance. -/
theorem providerMessage {text : Message} {state : ApplicationState} {selectedIndex : Nat}
    (h : DashboardKept P Q d) (hd : d.providerMessage text state selectedIndex = .ok d') :
    DashboardKept P Q d' := by
  rcases ProviderDashboard.providerMessage_inv hd with
    ⟨_, rfl⟩ | ⟨_, _, ⟨_, rfl⟩ | ⟨_, hshow⟩⟩ | ⟨_, _, rfl⟩ | ⟨_, _, rfl⟩
  · exact h
  · exact h.of_quieter rfl id fun _ => id
  · exact h.showRequest hshow
  · exact h.of_quieter rfl id fun _ => id
  · exact h.of_quieter rfl id fun _ => id

/-- An acceptance is taken, whoever it names. -/
theorem requestMessage {text : Message} (h : DashboardKept P Q d)
    (hP : ∀ dict, ProviderDashboard.IsAcceptance text dict → P dict)
    (hQ : ∀ dict, ProviderDashboard.IsAcceptance text dict → Q dict)
    (hd : d.requestMessage text = .ok d') : DashboardKept P Q d' := by
  rcases ProviderDashboard.requestMessage_inv hd with rfl | ⟨dict, haccepted, rfl⟩
  · exact h
  · constructor
    · rintro trip ⟨⟩ _
      exact hP dict haccepted
    · rintro trip ⟨⟩ _ _
      exact hQ dict haccepted

theorem invalidate (h : DashboardKept P Q d) : DashboardKept P Q d.invalidateTimer :=
  h.of_quieter rfl (fun hvalid => absurd hvalid (by simp [ProviderDashboard.invalidateTimer]))
    fun _ => id

theorem clearTrip (h : DashboardKept P Q d) : DashboardKept P Q d.clearTrip := by
  unfold ProviderDashboard.clearTrip
  split
  · exact h.invalidate
  · exact h

theorem answered (h : DashboardKept P Q d) (call : Nat) :
    DashboardKept P Q (ProviderApp.answered d call) := by
  refine h.of_quieter rfl id fun other hother => ?_
  simp only [ProviderApp.answered, Callbacks.waiting_retire] at hother
  split at hother
  · exact absurd hother (by simp)
  · exact hother

end DashboardKept

namespace Kept

variable {P Q : Dict → Prop} {u : UserDefaults} {a b : ProviderApp}

theorem switched (hx : Kept P Q u a) {i : Nat} {d : ProviderDashboard}
    (hd : DashboardKept P Q d)
    (hb : (∃ providerId, b = a.activate i providerId) ∨ b = a.putDashboard i d.invalidateTimer) :
    Kept P Q u b := by
  rcases hb with ⟨providerId, rfl⟩ | rfl
  · exact hx.activate i providerId
  · exact hx.put hd.invalidate

/-- **One step of an app.**  It needs nothing but what the event opens. -/
theorem step (hx : Kept P Q u a) {e : ProviderEvent} (hP : ∀ trip ∈ opens a e, P trip)
    (hQ : ∀ trip ∈ opens a e, Q trip) (h : (machine distance).Step a e b) :
    Kept P Q u b := by
  have hof : StepOf distance a b e := step_inv h
  cases e with
  | tripStatusReply existing =>
    obtain rfl : b = a.tripStatusReply existing := hof
    cases existing with
    | none => exact hx
    | some trip => exact ⟨hx.timed, hx.asked, hx.shown, hx.defaults, hx.written, hx.channel⟩
  | notificationTapped =>
    obtain rfl : b = a.notificationTapped := hof
    exact ⟨hx.timed, hx.asked, hx.shown, hx.defaults, hx.written, hx.channel⟩
  | viewDidLoad =>
    rcases viewDidLoad_inv hof with rfl | ⟨trip, clientId, _, _, _, rfl⟩
    · exact hx.addDashboard .fresh
    · have hadd := (hx.connect clientId).addDashboard (.resumed trip)
      exact ⟨hadd.timed, hadd.asked, hadd.shown, hadd.defaults, hadd.written, hadd.channel⟩
  | viewWillAppear i =>
    obtain ⟨d, hd, rfl⟩ := hof
    have hput := hx.put (i := i) (hx.dashboard hd).clearTrip
    exact ⟨hput.timed, hput.asked, hput.shown, hput.defaults, hput.written, hput.channel⟩
  | willEnterForeground i =>
    obtain ⟨d, hd, hof⟩ := hof
    unfold willEnterForeground at hof
    split at hof
    · simp only [bind_eq_ok, pure_eq_ok] at hof
      obtain ⟨d', hd', rfl⟩ := hof
      exact hx.put ((hx.dashboard hd).showRequest hd')
    · rw [pure_eq_ok] at hof
      subst hof
      exact hx
  | btnCancelRequest i =>
    obtain ⟨d, hd, _, rfl⟩ := hof
    exact hx.put ((hx.dashboard hd).of_quieter rfl id fun _ => id)
  | btnAcceptRequest i =>
    obtain ⟨d, hd, _, hof⟩ := hof
    obtain ⟨_, clientId, _, _, rfl⟩ := btnAcceptRequest_inv hof
    exact (hx.connect clientId).put ((hx.dashboard hd).of_quieter rfl id fun _ => id)
  | switchValueChanged i isOn =>
    obtain ⟨d, hd, hof⟩ := hof
    unfold switchValueChanged at hof
    have hset : ∀ on, DashboardKept P Q (setSwitch d on) := fun on =>
      (hx.dashboard hd).of_quieter rfl id fun _ => id
    split at hof
    · rw [pure_eq_ok] at hof
      subst hof
      exact hx.put (hset false)
    · exact (hx.put (hset isOn)).switched (hset isOn)
        (requestSocketToChangeStatusOrLocation_inv hof)
  | timerViewFinished i =>
    obtain ⟨d, hd, rfl⟩ := hof
    exact hx.put ((hx.dashboard hd).of_quieter rfl id fun _ => id)
  | timerFired i =>
    obtain ⟨d, _, _, hof⟩ := hof
    obtain ⟨_, _, _, _, rfl⟩ := timerFired_inv hof
    exact hx.write fun _ _ _ hframe => absurd hframe (by simp)
  | directionsReply i call success =>
    obtain ⟨d, hd, _, hof⟩ := hof
    have hkept : DashboardKept P Q (answered d call) := (hx.dashboard hd).answered call
    rcases directionsReply_inv hof with ⟨_, rfl⟩ | ⟨trip, here, rfl, htrip, _, rfl⟩
    · exact hx.put hkept
    · have hmarked : DashboardKept P Q { answered d call with hasMarkers := true } :=
        hkept.of_quieter rfl id fun _ => id
      have htrip' : d.currentAcceptedRequest = some trip := htrip
      exact (hx.put hmarked).presentSheet (hP trip (by simp [opens, hd, htrip'])) here
  | tracingLocation l =>
    rcases hof with ⟨i, d, d', _, hd, hd', rfl⟩ | ⟨j, sheet, hsheet, rfl⟩
    · obtain ⟨_, rfl⟩ := ProviderDashboard.tracingLocation_inv hd'
      exact hx.put ((hx.dashboard hd).of_quieter rfl id fun _ => id)
    · exact hx.putSheet (hx.shown sheet (List.mem_of_getElem? hsheet))
  | onConnect socket =>
    have hadd : Kept P Q u (a.addConnected socket) :=
      ⟨hx.timed, hx.asked, hx.shown, hx.defaults, hx.written, hx.channel⟩
    obtain ⟨_, _, rfl | ⟨_, _, _, _, hof⟩⟩ := hof
    · exact hadd
    · rcases dashboardConnect_inv hof with ⟨_, rfl⟩ | ⟨_, _, _, _, _, _, hid, rfl⟩
      · exact hadd
      · refine hadd.write fun _ _ _ hframe => ?_
        simp only [ProviderFrame.accepted.injEq] at hframe
        exact hframe.2.1 ▸ hid
  | onDisconnect code =>
    obtain ⟨i, d, _, hd, hof⟩ := hof
    rcases dashboardDisconnect_inv hof with rfl | hof
    · exact hx
    · exact hx.switched (hx.dashboard hd) hof
  | onMessage socket text state selectedIndex =>
    rcases hof.2 with ⟨i, d, hdelegate, hd, hof⟩ | ⟨j, sheet, _, hsheet, hof⟩
    · unfold dashboardMessage at hof
      split at hof
      · simp only [bind_eq_ok, pure_eq_ok] at hof
        obtain ⟨d', hd', rfl⟩ := hof
        exact hx.put ((hx.dashboard hd).providerMessage hd')
      · rename_i hstatus
        split at hof
        · rename_i hrequest
          simp only [bind_eq_ok, pure_eq_ok] at hof
          obtain ⟨d', hd', rfl⟩ := hof
          have hopens : ∀ dict, ProviderDashboard.IsAcceptance text dict →
              dict ∈ opens a (.onMessage socket text state selectedIndex) := by
            rintro dict ⟨rfl, htype⟩
            simp [opens, listens, hdelegate, hstatus, hrequest, htype]
          exact hx.put ((hx.dashboard hd).requestMessage (fun dict ha => hP dict (hopens dict ha))
            (fun dict ha => hQ dict (hopens dict ha)) hd')
        · rw [pure_eq_ok] at hof
          subst hof
          exact hx
    · have hshown := hx.shown sheet (List.mem_of_getElem? hsheet)
      rcases sheetMessage_inv hof with rfl | rfl | rfl
      · exact hx
      · exact hx.putSheet hshown
      · exact hx.putSheet fun hpresented => absurd hpresented (by simp [ClientDetailSheet.dismiss])
  | textFieldEditingChanged j text =>
    obtain ⟨sheet, _, _, hof⟩ := hof
    rcases textFieldEditingChanged_inv hof with rfl | ⟨socket, tripId, _, _, rfl⟩
    · exact hx
    · have hwritten : Kept P Q u (a.write socket (.reached tripId)) :=
        hx.write fun _ _ _ hframe => absurd hframe (by simp)
      have hgone : sheet.dismiss.isPresented = true → P sheet.dismiss.currentRequest :=
        fun hpresented => absurd hpresented (by simp [ClientDetailSheet.dismiss])
      have hput := hwritten.putSheet (j := j) hgone
      exact ⟨hput.timed, hput.asked, hput.shown, hput.defaults, hput.written, hput.channel⟩
  | cancelTrip j reason =>
    obtain ⟨sheet, _, hof⟩ := hof
    obtain ⟨_, _, _, _, _, rfl⟩ := cancelTrip_inv hof
    refine (hx.write fun _ _ _ hframe => absurd hframe (by simp)).putSheet ?_
    exact fun hpresented => absurd hpresented (by simp [ClientDetailSheet.dismiss])
  | btnActionPressed k =>
    obtain ⟨screen, _, hof⟩ := hof
    obtain ⟨_, _, _, _, _, rfl⟩ := btnActionPressed_inv hof
    exact ⟨hx.timed, hx.asked, hx.shown, hx.defaults, hx.written, hx.channel⟩
  | startEndReply call success =>
    obtain ⟨k, statusCode, _, rfl⟩ := hof
    unfold startEndReply
    split
    · exact ⟨hx.timed, hx.asked, hx.shown, hx.defaults, hx.written, hx.channel⟩
    · exact ⟨hx.timed, hx.asked, hx.shown, hx.defaults, hx.written, hx.channel⟩

theorem launched (device : Device) : Kept P Q device.defaults { device := device } where
  timed := by simp
  asked := by simp
  shown := by simp
  defaults := rfl
  written := by simp
  channel := by simp

theorem mem_of_openTrips (hx : Kept P Q u a) : ∀ trip ∈ a.openTrips, P trip := by
  intro trip htrip
  rcases mem_openTrips.mp htrip with ⟨d, hd, hvalid, haccepted⟩ | ⟨sheet, hsheet, hpresented, rfl⟩
  · exact hx.timed d hd trip haccepted hvalid
  · exact hx.shown sheet hsheet hpresented

/-- Nothing is open after a step but what was open before, and what the event opens. -/
theorem openTrips_step (hx : Kept P Q u a) {e : ProviderEvent}
    (h : (machine distance).Step a e b) :
    ∀ trip ∈ b.openTrips, trip ∈ a.openTrips ∨ trip ∈ opens a e := by
  let R : Dict → Prop := fun trip => trip ∈ a.openTrips ∨ trip ∈ opens a e
  have hself : Kept R (fun _ => True) u a := by
    refine ⟨?_, fun _ _ _ _ _ _ => trivial, ?_, hx.defaults, hx.written, hx.channel⟩
    · intro d hd trip haccepted hvalid
      exact Or.inl (mem_openTrips.mpr (Or.inl ⟨d, hd, hvalid, haccepted⟩))
    · intro sheet hsheet hpresented
      exact Or.inl (mem_openTrips.mpr (Or.inr ⟨sheet, hsheet, hpresented, rfl⟩))
  exact (hself.step (fun _ htrip => Or.inr htrip) (fun _ _ => trivial) h).mem_of_openTrips

/-- But for acceptances on a channel, only directions open something, which were asked for. -/
theorem of_opens (hx : Kept P Q u a) {e : ProviderEvent}
    (hother : Network.bringsAcceptance a e = false) (h : (machine distance).Step a e b) :
    ∀ trip ∈ opens a e, Q trip := by
  have hof : StepOf distance a b e := step_inv h
  intro trip htrip
  unfold opens at htrip
  split at htrip
  · rename_i socket dict state selectedIndex
    split at htrip
    · rename_i hopen
      have hlistens : a.sockets.clientproviderRequestSocket = some socket := by
        have hyes := hopen.1
        unfold listens at hyes
        split at hyes
        · exact beq_iff_eq.mp (Bool.and_eq_true_iff.mp hyes).2
        · exact absurd hyes (by simp)
      obtain ⟨clientId, hchannel⟩ := hx.channel socket hlistens
      simp [Network.bringsAcceptance, hchannel, ProviderDashboard.isAcceptance, hopen.2] at hother
    · exact absurd htrip (by simp)
  · rename_i i call
    obtain ⟨d, hd, hcall, _⟩ := hof
    have haccepted : d.currentAcceptedRequest = some trip := by simpa [hd] using htrip
    exact (hx.dashboard hd).asked trip haccepted call hcall
  · exact absurd htrip (by simp)

end Kept

end ProviderApp

/-! ## 3. The law -/

namespace Network

open ProviderApp (Names opens Kept sampleProvider onlineEvents acceptEvents)

variable {ι : Type} {distance : CLLocation → CLLocation → ℚ} {r : Rendering} {server : Server}

/-- Whoever is in a trip is named by it, and nobody else is in one for the same request. -/
structure Won (n : Network ι) : Prop where
  own : ∀ q, ∀ trip ∈ (n.apps q).openTrips, Names (n.apps q).device trip
  alone : ∀ q q' trip trip', trip ∈ (n.apps q).openTrips → trip' ∈ (n.apps q').openTrips →
    Dict.get? trip "ClientId" = Dict.get? trip' "ClientId" → q = q'

/-- Some open trip names another provider. -/
def isMisled (a : ProviderApp) : Bool :=
  a.openTrips.any fun trip =>
    match a.device.userID .providerApp with
    | .ok providerId => Dict.string? trip "ProviderId" != some (toString providerId)
    | .error _ => true

theorem not_won_of_isMisled {n : Network ι} {q : ι} (h : isMisled (n.apps q) = true) : ¬Won n := by
  intro hwon
  obtain ⟨trip, htrip, htest⟩ := List.any_eq_true.mp h
  obtain ⟨providerId, hid, hname⟩ := hwon.own q trip htrip
  rw [hid] at htest
  simp [hname] at htest

/-- Nobody but `q` is in a trip for the request of `client`. -/
def Free (n : Network ι) (q : ι) (client : Option Json) : Prop :=
  ∀ q', q' ≠ q → ∀ trip ∈ (n.apps q').openTrips, Dict.get? trip "ClientId" ≠ client

/-- The condition on a step.  A dashboard is handed an acceptance only if its own provider wrote
it and nobody else is in a trip for that request, and directions come back only while nobody
else is. -/
def Uncontested (n : Network ι) : NetworkEvent ι → Prop
  | .own q e => ∀ trip ∈ opens (n.apps q) e, Free n q (Dict.get? trip "ClientId")
  | .relay q socket k _ _ => (n.apps q).listens socket = true →
    ∀ f ∈ n.sent[k]?, f.author = q ∧ Free n q (some (.str f.clientId))

/-- The invariant: every app keeps to its own trips, and what was sent names its author. -/
structure Fair (devices : ι → Device) (n : Network ι) : Prop where
  apps : ∀ q, Kept (Names (devices q)) (Names (devices q)) (devices q).defaults (n.apps q)
  sent : ∀ f ∈ n.sent, (devices f.author).userID .providerApp = .ok f.providerId
  alone : ∀ q q' trip trip', trip ∈ (n.apps q).openTrips → trip' ∈ (n.apps q').openTrips →
    Dict.get? trip "ClientId" = Dict.get? trip' "ClientId" → q = q'

/-- Who is signed in is a matter of the defaults. -/
theorem userID_congr {device device' : Device} (h : device.defaults = device'.defaults)
    (role : UserLoginType) : device.userID role = device'.userID role := by
  simp only [Device.userID, h]

namespace Fair

variable {devices : ι → Device} {n : Network ι}

theorem start : Fair devices (Network.start devices) where
  apps := fun q => Kept.launched (devices q)
  sent := by simp [Network.start]
  alone := by
    intro q q' trip trip' htrip
    simp [Network.start, ProviderApp.openTrips] at htrip

theorem won (hn : Fair devices n) : Won n where
  own := by
    intro q trip htrip
    obtain ⟨providerId, hid, hname⟩ := (hn.apps q).mem_of_openTrips trip htrip
    exact ⟨providerId, (userID_congr (hn.apps q).defaults _).trans hid, hname⟩
  alone := hn.alone

variable [DecidableEq ι]

/-- One app goes on to `b`, which opens only what is its own and nobody else's. -/
theorem update (hn : Fair devices n) {q : ι} {b : ProviderApp} {new : List Dict}
    (hb : Kept (Names (devices q)) (Names (devices q)) (devices q).defaults b)
    (hopen : ∀ trip ∈ b.openTrips, trip ∈ (n.apps q).openTrips ∨ trip ∈ new)
    (hfree : ∀ trip ∈ new, Free n q (Dict.get? trip "ClientId")) :
    Fair devices (n.update r q b) := by
  -- a trip that is open on `b`, against one that is open elsewhere
  have hother : ∀ q' trip trip', q' ≠ q → trip ∈ b.openTrips → trip' ∈ (n.apps q').openTrips →
      Dict.get? trip "ClientId" ≠ Dict.get? trip' "ClientId" := by
    intro q' trip trip' hne htrip htrip' hsame
    rcases hopen trip htrip with hold | hnew
    · exact hne (hn.alone q' q trip' trip htrip' hold hsame.symm)
    · exact hfree trip hnew q' hne trip' htrip' hsame.symm
  refine ⟨?_, ?_, ?_⟩
  · intro q'
    by_cases hq : q' = q
    · subst hq
      rw [apps_update_self]
      exact hb
    · rw [apps_update_of_ne r n b hq]
      exact hn.apps q'
  · intro f hf
    rcases List.mem_append.mp hf with hf | hf
    · exact hn.sent f hf
    · obtain ⟨rfl, socket, clientId, hmem⟩ := Acceptance.mem_ofFrames hf
      rw [← userID_congr hb.defaults]
      exact hb.written socket clientId f.providerId f.location (List.mem_of_mem_drop hmem)
  · intro q₁ q₂ trip₁ trip₂ h₁ h₂ hsame
    by_cases hq₁ : q₁ = q
    · by_cases hq₂ : q₂ = q
      · rw [hq₁, hq₂]
      · subst hq₁
        rw [apps_update_self] at h₁
        rw [apps_update_of_ne r n b hq₂] at h₂
        exact absurd hsame (hother q₂ trip₁ trip₂ hq₂ h₁ h₂)
    · rw [apps_update_of_ne r n b hq₁] at h₁
      by_cases hq₂ : q₂ = q
      · subst hq₂
        rw [apps_update_self] at h₂
        exact absurd hsame.symm (hother q₁ trip₂ trip₁ hq₁ h₂ h₁)
      · rw [apps_update_of_ne r n b hq₂] at h₂
        exact hn.alone q₁ q₂ trip₁ trip₂ h₁ h₂ hsame

/-- **One step of the network.** -/
theorem step {n' : Network ι} {e : NetworkEvent ι} (hn : Fair devices n) (hcond : Uncontested n e)
    (h : (machine distance r server).Step n e n') : Fair devices n' := by
  rcases step_inv distance r server h with ⟨q, e', b, rfl, hother, hstep, rfl⟩ |
    ⟨q, socket, k, state, selectedIndex, f, b, rfl, hf, hstep, rfl⟩
  · have hopens := (hn.apps q).of_opens hother hstep
    exact hn.update ((hn.apps q).step hopens hopens hstep) ((hn.apps q).openTrips_step hstep) hcond
  · -- what a relayed frame opens is that frame, and only for a dashboard that listens
    have hrelayed : ∀ trip ∈ opens (n.apps q) (.onMessage socket
        (some (.obj (server.relayed r k f))) state selectedIndex),
        Names (devices q) trip ∧ Free n q (Dict.get? trip "ClientId") := by
      intro trip htrip
      simp only [opens] at htrip
      split at htrip
      · rename_i hlistens
        obtain rfl := List.mem_singleton.mp htrip
        obtain ⟨hauthor, hfree⟩ := hcond hlistens.1 f hf
        subst hauthor
        refine ⟨⟨f.providerId, hn.sent f (List.mem_of_getElem? hf),
          server.relayed_providerId r k f⟩, ?_⟩
        rw [server.relayed_clientId]
        exact hfree
      · exact absurd htrip (by simp)
    have hnames := fun trip htrip => (hrelayed trip htrip).1
    exact hn.update ((hn.apps q).step hnames hnames hstep) ((hn.apps q).openTrips_step hstep)
      fun trip htrip => (hrelayed trip htrip).2

end Fair

variable [DecidableEq ι]

/-- **One winner.**  Any number of providers on any devices, any server that relays as it should,
any order of presses, connections, relayed frames and everything else, as long as every step is
uncontested. -/
theorem one_winner (devices : ι → Device) {n : Network ι}
    (hrun : (machine distance r server).RunWhere Uncontested (start devices) n) : Won n := by
  have hI : Fair devices n := hrun.invariant Fair.start fun _ _ _ hI hcond hstep => hI.step hcond hstep
  exact hI.won

/-! ## 4. Two providers -/

instance [Fintype ι] (n : Network ι) (q : ι) (client : Option Json) :
    Decidable (Free n q client) := inferInstanceAs (Decidable (∀ _, _ → ∀ _ ∈ _, _))

instance [Fintype ι] (n : Network ι) : (e : NetworkEvent ι) → Decidable (Uncontested n e)
  | .own _ _ => inferInstanceAs (Decidable (∀ _ ∈ _, _))
  | .relay _ _ _ _ _ => inferInstanceAs (Decidable (_ → ∀ _ ∈ _, _ ∧ _))

def sampleRendering : Rendering where
  value
    | .num q => toString q.num
    | .str text => text
    | _ => ""
  degrees q := toString q.num ++ ".0"

/-- A server that adds the number of the trip and its code. -/
def sampleServer : Server where
  enrich k frame := frame ++ [("TripId", .ofInt k), ("VerificationCode", .str "1234")]
  keeps := by
    intro k frame key hkey
    have hnew :
        List.lookup key [("TripId", Json.ofInt k), ("VerificationCode", .str "1234")] = none := by
      rcases hkey with rfl | rfl | rfl
      · rfl
      · rfl
      · rfl
    simp only [Dict.get?, List.lookup_append, hnew, Option.or_none]

/-- Providers 16 and 17. -/
def sampleDevices : Bool → Device
  | false => sampleProvider 16
  | true => sampleProvider 17

def ownEvents (q : Bool) (events : List ProviderEvent) : List (NetworkEvent Bool) :=
  events.map (.own q)

/-- Both are online; one takes client 24, the other client 25, and both get into their trips. -/
theorem one_winner_each : ∃ n : Network Bool,
    (n.apps false).openTrips.length = 2 ∧ (n.apps true).openTrips.length = 2 ∧ Won n := by
  obtain ⟨n, hrun, htest⟩ := Machine.exists_run_of_replay (C := Uncontested)
    (machine (fun _ _ => 0) sampleRendering sampleServer) (fun n e => decide (Uncontested n e))
    (start sampleDevices)
    (ownEvents false (onlineEvents ++ acceptEvents 24) ++
      ownEvents true (onlineEvents ++ acceptEvents 25) ++
      [.relay false 1 0 .active 0, .relay true 1 1 .active 0,
        .own true (.directionsReply 0 0 true), .own false (.directionsReply 0 0 true)])
    (fun n => (n.apps false).openTrips.length == 2 && (n.apps true).openTrips.length == 2)
    (fun _ _ => of_decide_eq_true) (by decide +kernel)
  obtain ⟨h₁, h₂⟩ := Bool.and_eq_true_iff.mp htest
  exact ⟨n, by simpa using h₁, by simpa using h₂, one_winner sampleDevices hrun⟩

/-- Both are shown the request of client 24 and accept it; the acceptance of provider 16 is
relayed to both, and provider 17 is in the trip of provider 16. -/
theorem two_winners : ∃ n : Network Bool,
    (machine (fun _ _ => 0) sampleRendering sampleServer).Run (start sampleDevices) n ∧ ¬Won n := by
  obtain ⟨n, hrun, htest⟩ := Machine.exists_run_of_replay
    (machine (fun _ _ => 0) sampleRendering sampleServer) (fun _ _ => true) (start sampleDevices)
    (ownEvents false (onlineEvents ++ acceptEvents 24) ++
      ownEvents true (onlineEvents ++ acceptEvents 24) ++
      [.relay false 1 0 .active 0, .relay true 1 0 .active 0,
        .own true (.directionsReply 0 0 true)])
    (fun n => isMisled (n.apps true)) (fun _ _ _ => trivial) (by decide +kernel)
  exact ⟨n, hrun, not_won_of_isMisled htest⟩

end Network

end WeatherAccommodation
