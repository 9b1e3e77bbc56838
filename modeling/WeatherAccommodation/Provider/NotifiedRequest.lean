/-
# A notification is tapped

A request that comes while nobody looks at the dashboard is stored, and a local notification tells
of it.  Following the notification does two things.  The application delegate sets a flag and
selects the first tab; and if the app was not in the foreground, each dashboard is told that it will
be, and reads the flag.  Nothing else looks at the stored request.

So a tap shows it if the flag is set by the time it is read (`tap_shows_stored_iff`).  The order of
the two callbacks is not the app's, a flag that was set once stays set, and without a transition to
the foreground nobody reads it.
-/
import WeatherAccommodation.Provider.LocationReports

namespace WeatherAccommodation

open Foundation Reactive

/-! ## 1. Showing a stored request -/

namespace ProviderDashboard

variable {d d' : ProviderDashboard} {text : Message} {request : Dict}

theorem shown_congr (h : ProviderApp.SameView d d') : d'.shown = d.shown := by
  unfold shown
  rw [h.hidden, h.distance]

/-- What it takes to bring the details of a request on screen. -/
def IsDisplayable (d : ProviderDashboard) (request : Dict) : Prop :=
  isLocated request = true ∧ d.location.isSome = true

/-- The distance between the client of the request and the provider can be told. -/
theorem isDisplayable_iff {α : Type} {x : Except Trap α} :
    (∃ r, (do
      let latitude ← forceString request "latitude"
      let longitude ← forceString request "longitude"
      let _ ← forceLocation latitude longitude
      let _ ← d.ownLocation
      x) = .ok r) ↔ d.IsDisplayable request ∧ ∃ r, x = .ok r := by
  simp only [bind_eq_ok, forceString_eq_ok, ownLocation, unwrap_eq_ok, IsDisplayable, isLocated_iff,
    Option.isSome_iff_exists, IsNumeral]
  constructor
  · rintro ⟨r, latitude, hlatitude, longitude, hlongitude, l, hl, here, hhere, hx⟩
    obtain ⟨hlat, hlong⟩ := forceLocation_isOk_iff.mp ⟨l, hl⟩
    exact ⟨⟨⟨⟨latitude, hlatitude, Option.isSome_iff_exists.mp hlat⟩, longitude, hlongitude,
      Option.isSome_iff_exists.mp hlong⟩, here, hhere⟩, r, hx⟩
  · rintro ⟨⟨⟨⟨latitude, hlatitude, hlat⟩, longitude, hlongitude, hlong⟩, here, hhere⟩, r, hx⟩
    obtain ⟨l, hl⟩ := forceLocation_isOk_iff.mpr
      ⟨Option.isSome_iff_exists.mpr hlat, Option.isSome_iff_exists.mpr hlong⟩
    exact ⟨r, latitude, hlatitude, longitude, hlongitude, l, hl, here, hhere, hx⟩

/-- **When `showRequestUI` returns.** -/
theorem showRequestUI_isOk_iff :
    (∃ d', d.showRequestUI text = .ok d') ↔
      ¬IsArray text ∧ ∀ dict, text = some (.obj dict) → ∃ request,
        Dict.dict? dict "ClientData" = some request ∧ IsTextIfAny request "RequestStatus" ∧
          (Dict.string? request "RequestStatus" ≠ some Request_Status.cancelled →
            d.requestViewIsHidden = true → d.IsDisplayable request) := by
  have hrest : ∀ request : Dict, (∃ d', (do
      if ← hasText request "RequestStatus" Request_Status.cancelled then
        return (d.setCurrentRequest (some request)).hideRequest
      else if (d.setCurrentRequest (some request)).requestViewIsHidden then
        let latitude ← forceString request "latitude"
        let longitude ← forceString request "longitude"
        let _ ← forceLocation latitude longitude
        let _ ← (d.setCurrentRequest (some request)).ownLocation
        return (d.setCurrentRequest (some request)).display request
      else return d.setCurrentRequest (some request) : Except Trap ProviderDashboard) = .ok d') ↔
      IsTextIfAny request "RequestStatus" ∧
        (Dict.string? request "RequestStatus" ≠ some Request_Status.cancelled →
          d.requestViewIsHidden = true → d.IsDisplayable request) := by
    intro request
    rw [hasText_ite_isOk_iff]
    have hsame : (d.setCurrentRequest (some request)).requestViewIsHidden = d.requestViewIsHidden :=
      rfl
    rw [hsame]
    cases d.requestViewIsHidden with
    | false => simp
    | true =>
      simp only [if_true, isDisplayable_iff, pure_eq_ok, exists_eq', implies_true, true_and,
        and_true, forall_const]
      rfl
  unfold showRequestUI
  rw [messageDict_bind_isOk_iff ⟨d, rfl⟩]
  refine and_congr Iff.rfl (forall_congr' fun dict => imp_congr Iff.rfl ?_)
  simp only [bind_eq_ok, unwrap_eq_ok, currentRequest_setCurrentRequest]
  constructor
  · rintro ⟨d', request, hrequest, hd'⟩
    rw [hrequest] at hd'
    exact ⟨request, hrequest, (hrest request).mp ⟨d', by simpa using hd'⟩⟩
  · rintro ⟨request, hrequest, hok⟩
    obtain ⟨d', hd'⟩ := (hrest request).mpr hok
    exact ⟨d', request, hrequest, by rw [hrequest]; simpa using hd'⟩

/-- A request is shown when it already was, or when nothing is in its way. -/
theorem showRequestUI_shows_iff (hrequest : IsRequest Request_Status.requested text request) :
    (∃ d', d.showRequestUI text = .ok d' ∧ d'.shown = some request) ↔
      d.shown = some request ∨ d.requestViewIsHidden = true ∧ d.IsDisplayable request := by
  obtain ⟨⟨dict, rfl, hclient⟩, hstatus⟩ := hrequest
  have hopen : Dict.string? request "RequestStatus" ≠ some Request_Status.cancelled := by
    rw [hstatus]
    decide
  have hok : (∃ d', d.showRequestUI (some (.obj dict)) = .ok d') ↔
      (d.requestViewIsHidden = true → d.IsDisplayable request) := by
    rw [showRequestUI_isOk_iff]
    simp only [IsArray, Option.some.injEq, reduceCtorEq, exists_false, not_false_eq_true, true_and,
      Json.obj.injEq, forall_eq', hclient, exists_eq_left', isTextIfAny_of_string? hstatus]
    exact ⟨fun h => h hopen, fun h _ => h⟩
  have hinv : ∀ {d'}, d.showRequestUI (some (.obj dict)) = .ok d' →
      d.requestViewIsHidden = true ∧ d'.shown = some request ∨
        d.requestViewIsHidden = false ∧ d'.shown = d.shown := by
    intro d' hd'
    rcases showRequestUI_inv hd' with ⟨hnone, _⟩ | ⟨other, ⟨dict', heq, hother⟩, hcase⟩
    · exact absurd ⟨dict, rfl, hclient⟩ (hnone request)
    · obtain rfl : dict = dict' := by simpa using heq
      obtain rfl := Option.some.inj (hclient.symm.trans hother)
      rcases hcase with ⟨hcancelled, _⟩ | ⟨hhidden, rfl⟩ | ⟨hvisible, rfl⟩
      · exact absurd hcancelled hopen
      · exact Or.inl ⟨hhidden, by simp [shown, display]⟩
      · exact Or.inr ⟨hvisible, rfl⟩
  constructor
  · rintro ⟨d', hd', hshown⟩
    rcases hinv hd' with ⟨hhidden, _⟩ | ⟨_, hsame⟩
    · exact Or.inr ⟨hhidden, hok.mp ⟨d', hd'⟩ hhidden⟩
    · exact Or.inl (hsame.symm.trans hshown)
  · rintro (hshown | ⟨hhidden, hdisplayable⟩)
    · obtain ⟨hvisible, _⟩ := shown_eq_some.mp hshown
      obtain ⟨d', hd'⟩ := hok.mpr fun hhidden => absurd (hvisible.symm.trans hhidden) (by simp)
      rcases hinv hd' with ⟨hhidden, _⟩ | ⟨_, hsame⟩
      · exact absurd (hvisible.symm.trans hhidden) (by simp)
      · exact ⟨d', hd', hsame.trans hshown⟩
    · obtain ⟨d', hd'⟩ := hok.mpr fun _ => hdisplayable
      rcases hinv hd' with ⟨_, hshown⟩ | ⟨hvisible, _⟩
      · exact ⟨d', hd', hshown⟩
      · exact absurd (hvisible.symm.trans hhidden) (by simp)

end ProviderDashboard

open ProviderDashboard

/-! ## 2. Until the notification is tapped -/

namespace ProviderApp

variable {distance : CLLocation → CLLocation → ℚ} {a a₀ a₁ b : ProviderApp} {i : Nat}
  {d d' : ProviderDashboard} {e : ProviderEvent} {text : Message} {request : Dict}

/-- The request comes while nobody looks at the dashboard with number `i`, which stores the text and
schedules a notification. -/
def Stores (a : ProviderApp) (i : Nat) (text : Message) (request : Dict) (e : ProviderEvent) :
    Prop :=
  ∃ socket state selectedIndex, e = .onMessage socket text state selectedIndex ∧
    a.sockets.delegate = some (.dashboard i) ∧ a.sockets.providerConnectionSocket = some socket ∧
    Unseen state selectedIndex ∧ IsRequest Request_Status.requested text request

theorem showRequestUI_detail (h : d.showRequestUI text = .ok d') :
    d'.requestDetail = d.requestDetail := by
  obtain ⟨_, _, _, _, rfl⟩ := showRequestUI_frame h
  rfl

/-- Nothing but the next request that is stored replaces a stored one. -/
theorem DashboardMove.detail_eq (h : DashboardMove distance a i d e d')
    (hkeeps : ¬∃ text request, Stores a i text request e) : d'.requestDetail = d.requestDetail := by
  cases h with
  | stay _ => rfl
  | appear =>
    unfold clearTrip
    split
    · rfl
    · rfl
  | foreground _ shown => exact showRequestUI_detail shown
  | decline => rfl
  | accept _ => rfl
  | switch _ _ _ => rfl
  | ring => rfl
  | directions _ _ _ _ => rfl
  | location _ told =>
    obtain ⟨_, rfl⟩ := tracingLocation_inv told
    rfl
  | disconnect _ => rfl
  | @status socket selectedIndex text state _ delegate listens handled =>
    rcases providerMessage_inv handled with ⟨_, rfl⟩ | ⟨request, hrequest, hcase⟩ | ⟨_, _, rfl⟩ |
      ⟨_, _, rfl⟩
    · rfl
    · rcases hcase with ⟨hunseen, _⟩ | ⟨_, hshown⟩
      · exact absurd ⟨text, request, socket, state, selectedIndex, rfl, delegate, listens, hunseen,
          hrequest⟩ hkeeps
      · exact showRequestUI_detail hshown
    · rfl
    · rfl
  | request _ _ _ handled =>
    rcases requestMessage_inv handled with rfl | ⟨_, _, rfl⟩
    · rfl
    · rfl

/-- What is stored is the text that came. -/
theorem DashboardMove.detail_of_stores (h : DashboardMove distance a i d e d')
    (hstores : Stores a i text request e) : d'.requestDetail = text := by
  obtain ⟨socket, state, selectedIndex, rfl, hdelegate, hsocket, hunseen, hrequest⟩ := hstores
  cases h with
  | stay quiet => exact absurd ⟨hdelegate, hsocket⟩ quiet
  | status _ _ handled =>
    rcases providerMessage_inv handled with ⟨hnot, _⟩ | ⟨_, _, ⟨_, rfl⟩ | ⟨hseen, _⟩⟩ |
      ⟨other, hother, _⟩ | ⟨other, hother, _⟩
    · exact absurd rfl (hnot request _ hrequest).1
    · rfl
    · exact absurd hunseen hseen
    · obtain rfl := hrequest.1.unique hother.1
      exact absurd (Option.some.inj (hrequest.2.symm.trans hother.2)) (by decide)
    · obtain rfl := hrequest.1.unique hother.1
      exact absurd (Option.some.inj (hrequest.2.symm.trans hother.2)) (by decide)
  | request _ other _ _ => exact absurd hsocket other

theorem speaks_of_stores (h : Stores a i text request e) : Speaks a i e := by
  obtain ⟨_, _, _, rfl, hdelegate, hsocket, _⟩ := h
  exact ⟨hdelegate, hsocket⟩

/-- The dashboard stays, and keeps the text. -/
theorem detail_of_run (hstores : Stores a₀ i text request e)
    (hstep : (machine distance).Step a₀ e a₁)
    (hrun : (machine distance).RunWhere (fun x e => ¬∃ text request, Stores x i text request e)
      a₁ a) :
    ∃ d, a.dashboards[i]? = some d ∧ d.requestDetail = text := by
  refine hrun.invariant (I := fun x => ∃ d, x.dashboards[i]? = some d ∧ d.requestDetail = text)
    ?_ ?_
  · have hi := lt_length_of_speaks hstep (speaks_of_stores hstores)
    have hd := List.getElem?_eq_getElem (hi.trans_le (step_dashboards hstep).length_le)
    refine ⟨_, hd, ?_⟩
    rcases (step_dashboards hstep).at_index hd with ⟨_, _, hmove⟩ | ⟨_, hlength, _⟩
    · exact hmove.detail_of_stores hstores
    · omega
  · rintro x e y ⟨d, hd, hdetail⟩ hkeeps hstep
    have hi : i < x.dashboards.length := (List.getElem?_eq_some_iff.mp hd).1
    have hd' := List.getElem?_eq_getElem (hi.trans_le (step_dashboards hstep).length_le)
    refine ⟨_, hd', ?_⟩
    rcases (step_dashboards hstep).at_index hd' with ⟨_, hd₁, hmove⟩ | ⟨_, hlength, _⟩
    · obtain rfl := Option.some.inj (hd.symm.trans hd₁)
      exact (hmove.detail_eq hkeeps).trans hdetail
    · omega

/-! ## 3. The tap -/

/-- Which callbacks a tap makes, and in which order. -/
inductive Tap where
  /-- `didReceive`, and then `willEnterForeground`. -/
  | responseFirst
  /-- `willEnterForeground`, and then `didReceive`. -/
  | foregroundFirst
  /-- The app is in the foreground, on another tab: only `didReceive`. -/
  | inForeground
  deriving DecidableEq, Repr

/-- `didReceive` of the application delegate.  The dashboard appears if another tab was selected. -/
def didReceive (i : Nat) (appears : Bool) : List ProviderEvent :=
  .notificationTapped :: if appears then [.viewWillAppear i] else []

/-- A tap as the dashboard with number `i` sees it. -/
def Tap.events (i : Nat) (appears : Bool) : Tap → List ProviderEvent
  | .responseFirst => didReceive i appears ++ [.willEnterForeground i]
  | .foregroundFirst => .willEnterForeground i :: didReceive i appears
  | .inForeground => didReceive i appears

/-- The flag is set when it is read, and it is read. -/
def Tap.Recalls (a : ProviderApp) : Tap → Prop
  | .responseFirst => True
  | .foregroundFirst => a.device.appDelegate.showRequestUI = true
  | .inForeground => False

/-- The response sets the flag, and changes nothing on screen. -/
theorem replay_didReceive (hd : a.dashboards[i]? = some d) (appears : Bool) :
    ∃ b d', (machine distance).replay (fun _ _ => true) a (didReceive i appears) = some b ∧
      b.dashboards[i]? = some d' ∧ SameView d d' ∧ d'.location = d.location ∧
      b.device.appDelegate.showRequestUI = true := by
  have htapped : (machine distance).Step a .notificationTapped a.notificationTapped := rfl
  unfold didReceive
  rw [Machine.replay_cons_of rfl htapped]
  cases appears with
  | false => exact ⟨_, d, rfl, hd, ⟨rfl, rfl, rfl⟩, rfl, rfl⟩
  | true =>
    have hi : i < a.dashboards.length := (List.getElem?_eq_some_iff.mp hd).1
    have hd₁ : a.notificationTapped.dashboards[i]? = some d := hd
    have happear : (machine distance).Step a.notificationTapped (.viewWillAppear i)
        (a.notificationTapped.viewWillAppear i d) := by
      simp [Machine.Step, machine, react, hd₁]
    rw [if_pos rfl, Machine.replay_cons_of rfl happear]
    refine ⟨_, d.clearTrip, rfl, ?_, ?_, ?_, rfl⟩
    · simp [viewWillAppear, putDashboard, notificationTapped, hi]
    · unfold clearTrip
      split
      · exact ⟨rfl, rfl, rfl⟩
      · exact ⟨rfl, rfl, rfl⟩
    · unfold clearTrip
      split
      · rfl
      · rfl

/-- The transition shows a stored request if the flag is set, and nothing is in its way. -/
theorem foreground_shows_iff (hd : a.dashboards[i]? = some d)
    (hrequest : IsRequest Request_Status.requested d.requestDetail request) :
    (∃ b, (machine distance).Step a (.willEnterForeground i) b ∧
        b.dashboards[i]?.bind shown = some request) ↔
      d.shown = some request ∨ a.device.appDelegate.showRequestUI = true ∧
        d.requestViewIsHidden = true ∧ d.IsDisplayable request := by
  have hi : i < a.dashboards.length := (List.getElem?_eq_some_iff.mp hd).1
  simp only [Machine.Step, machine, react, hd, Option.map_some, Option.some.injEq,
    willEnterForeground]
  by_cases hflag : a.device.appDelegate.showRequestUI = true
  · simp only [hflag, if_true, true_and, bind_eq_ok, pure_eq_ok]
    rw [← showRequestUI_shows_iff hrequest]
    constructor
    · rintro ⟨_, ⟨d', hd', rfl⟩, hshown⟩
      exact ⟨d', hd', by simpa [putDashboard, hi] using hshown⟩
    · rintro ⟨d', hd', hshown⟩
      exact ⟨_, ⟨d', hd', rfl⟩, by simpa [putDashboard, hi] using hshown⟩
  · simp [hflag, hd]

/-- **When a tap shows the stored request.**  Let a request be stored, and let nothing else be
stored after it, whatever happens.  Then a tap on its notification ends with the request in the
request view exactly if it is there already, or nothing is, the distance to its client can be told,
and the flag is set by the time a transition to the foreground reads it. -/
theorem tap_shows_stored_iff (hstores : Stores a₀ i text request e)
    (hstep : (machine distance).Step a₀ e a₁)
    (hrun : (machine distance).RunWhere (fun x e => ¬∃ text request, Stores x i text request e)
      a₁ a)
    (hd : a.dashboards[i]? = some d) (tap : Tap) (appears : Bool) :
    (∃ b, (machine distance).replay (fun _ _ => true) a (tap.events i appears) = some b ∧
        b.dashboards[i]?.bind shown = some request) ↔
      d.shown = some request ∨ tap.Recalls a ∧ d.requestViewIsHidden = true ∧
        d.IsDisplayable request := by
  obtain ⟨_, hd₁, hdetail⟩ := detail_of_run hstores hstep hrun
  obtain rfl := Option.some.inj (hd.symm.trans hd₁)
  obtain ⟨_, _, _, _, _, _, _, hrequest⟩ := hstores
  rw [← hdetail] at hrequest
  cases tap with
  | responseFirst =>
    obtain ⟨b, d', hb, hd', hsame, hlocation, hflag⟩ :=
      @replay_didReceive distance _ _ _ hd appears
    rw [← hsame.detail] at hrequest
    have hforeground := @foreground_shows_iff distance _ _ _ _ hd' hrequest
    simp only [Tap.events, Machine.replay_append_of hb, Machine.replay_cons, Machine.replay_nil,
      exists_eq_right, true_and]
    rw [hforeground, shown_congr hsame, hsame.hidden]
    simp [Tap.Recalls, hflag, IsDisplayable, hlocation]
  | foregroundFirst =>
    refine Iff.trans ?_ (@foreground_shows_iff distance _ _ _ _ hd hrequest)
    simp only [Tap.events, Machine.replay_cons, true_and]
    constructor
    · rintro ⟨b, ⟨u, hu, hb⟩, hshown⟩
      have hi : i < a.dashboards.length := (List.getElem?_eq_some_iff.mp hd).1
      have hd' := List.getElem?_eq_getElem (hi.trans_le (step_dashboards hu).length_le)
      obtain ⟨_, d', hb', hd'', hsame, _⟩ := @replay_didReceive distance _ _ _ hd' appears
      obtain rfl := Option.some.inj (hb.symm.trans hb')
      rw [hd'', Option.bind_some, shown_congr hsame] at hshown
      exact ⟨u, hu, by rw [hd', Option.bind_some, hshown]⟩
    · rintro ⟨u, hu, hshown⟩
      obtain ⟨d₁, hd', hshown⟩ := Option.bind_eq_some_iff.mp hshown
      obtain ⟨b, d', hb, hd'', hsame, _⟩ := @replay_didReceive distance _ _ _ hd' appears
      exact ⟨b, ⟨u, hu, hb⟩, by rw [hd'', Option.bind_some, shown_congr hsame, hshown]⟩
  | inForeground =>
    obtain ⟨b, d', hb, hd', hsame, _, _⟩ := @replay_didReceive distance _ _ _ hd appears
    simp [Tap.events, hb, hd', Tap.Recalls, shown_congr hsame]

/-- The message that brings a request of client 24 to a provider who looks at something else. -/
def unseenRequest : ProviderEvent := .onMessage 0 (requestText 24 "requested") .background 0

/-- The test of `Stores` for that message. -/
def storesUnseen (a : ProviderApp) : Bool :=
  a.sockets.delegate == some (.dashboard 0) && a.sockets.providerConnectionSocket == some 0

theorem stores_of_storesUnseen (h : storesUnseen a = true) :
    ∃ request, Stores a 0 (requestText 24 "requested") request unseenRequest := by
  obtain ⟨hdelegate, hsocket⟩ := Bool.and_eq_true_iff.mp h
  exact ⟨_, 0, .background, 0, rfl, eq_of_beq hdelegate, eq_of_beq hsocket, Or.inl rfl,
    ⟨_, rfl, rfl⟩, rfl⟩

/-- Nothing is on screen, and the distance can be told. -/
def isReadyFor (text : Message) (a : ProviderApp) : Bool :=
  a.dashboards[0]?.any fun d =>
    d.requestViewIsHidden && (clientData text).any isLocated && d.location.isSome

/-- The notification is tapped at once, and the response comes first. -/
theorem tap_shows_stored_at_once : ∃ (a : ProviderApp) (request : Dict),
    clientData (requestText 24 "requested") = some request ∧
      ∃ b, (machine fun _ _ => 0).replay (fun _ _ => true) a (Tap.responseFirst.events 0 false) =
        some b ∧ b.dashboards[0]?.bind shown = some request := by
  obtain ⟨a₀, a₁, _, _, hstep, htest⟩ := Machine.exists_step_of_replay (machine fun _ _ => 0)
    (fun _ _ => true) { device := sampleProvider 16 } onlineEvents unseenRequest
    (fun a b => storesUnseen a && isReadyFor (requestText 24 "requested") b)
    (fun _ _ _ => trivial) (by decide +kernel)
  obtain ⟨hstores, hready⟩ := Bool.and_eq_true_iff.mp htest
  obtain ⟨request, hstores⟩ := stores_of_storesUnseen hstores
  have hdata : clientData (requestText 24 "requested") = some request := by
    obtain ⟨_, _, _, _, _, _, _, hrequest⟩ := hstores
    exact clientData_of_isRequest hrequest
  unfold isReadyFor at hready
  rw [Option.any_eq_true, hdata] at hready
  obtain ⟨d, hd, hready⟩ := hready
  simp only [Option.any_some, Bool.and_eq_true] at hready
  refine ⟨a₁, request, hdata, ?_⟩
  refine (tap_shows_stored_iff hstores hstep .refl hd .responseFirst false).mpr (Or.inr ?_)
  exact ⟨trivial, hready.1.1, hready.1.2, hready.2⟩

/-- After the tap there is a first dashboard, with nothing on it. -/
def showsNothing (a : ProviderApp) (tap : Tap) : Bool :=
  ((machine fun _ _ => 0).replay (fun _ _ => true) a (tap.events 0 true)).any fun b =>
    (b.dashboards[0]?.bind shown).isNone

/-- **The tap that shows nothing.**  The request comes in the background, and its notification is
tapped at once; but the transition to the foreground comes before the response.  Nor is anything
shown by a tap in the foreground. -/
theorem tap_shows_nothing : ∃ a₀ a₁ : ProviderApp,
    (machine fun _ _ => 0).Run { device := sampleProvider 16 } a₀ ∧
      (∃ request, Stores a₀ 0 (requestText 24 "requested") request unseenRequest) ∧
      (machine fun _ _ => 0).Step a₀ unseenRequest a₁ ∧
      ∀ tap : Tap, tap ≠ .responseFirst → ∃ b, (machine fun _ _ => 0).replay (fun _ _ => true) a₁
        (tap.events 0 true) = some b ∧ b.dashboards[0]?.bind shown = none := by
  obtain ⟨a₀, a₁, hrun, _, hstep, htest⟩ := Machine.exists_step_of_replay (machine fun _ _ => 0)
    (fun _ _ => true) { device := sampleProvider 16 } onlineEvents unseenRequest
    (fun a b => storesUnseen a && (showsNothing b .foregroundFirst && showsNothing b .inForeground))
    (fun _ _ _ => trivial) (by decide +kernel)
  simp only [Bool.and_eq_true] at htest
  refine ⟨a₀, a₁, hrun, stores_of_storesUnseen htest.1, hstep, ?_⟩
  have hnothing : ∀ tap, showsNothing a₁ tap = true → ∃ b,
      (machine fun _ _ => 0).replay (fun _ _ => true) a₁ (tap.events 0 true) = some b ∧
        b.dashboards[0]?.bind shown = none := by
    intro tap h
    rw [showsNothing, Option.any_eq_true] at h
    obtain ⟨b, hb, hshown⟩ := h
    exact ⟨b, hb, by simpa using hshown⟩
  intro tap hne
  cases tap with
  | responseFirst => exact absurd rfl hne
  | foregroundFirst => exact hnothing _ htest.2.1
  | inForeground => exact hnothing _ htest.2.2

end ProviderApp

end WeatherAccommodation
