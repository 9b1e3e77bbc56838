/-
# Who hears a request

All sockets have one delegate.  The dashboard takes it when its switch is turned on, the
client-detail sheet when it opens, and the line of `viewWillAppear` that would give it back is
commented out.  So a provider whose switch stayed on over a trip looks at a dashboard that hears
nothing (`deaf_after_cancel`).

`Listens` is the law.  It holds in every run in which the dashboard does not come back on screen,
and its status socket does not connect, while a sheet has the delegate and the switch is on
(`listening_provider_hears`).
-/
import WeatherAccommodation.Provider.Destination

namespace WeatherAccommodation

open Foundation Reactive

namespace ProviderPhone

variable {distance : CLLocation → CLLocation → ℚ}

/-! ## 1. The law and the condition -/

/-- The provider socket is connected: it has called back, and not with a disconnection. -/
def statusIsConnected (p : ProviderPhone) : Bool :=
  match p.app.sockets.providerConnectionSocket with
  | some socket => p.app.connected.contains socket && !p.closed.contains socket
  | none => false

/-- A visible dashboard whose switch is on and whose socket is connected is the delegate. -/
def Listens (p : ProviderPhone) : Prop :=
  ∀ (i : Nat) (d : ProviderDashboard), p.isVisible i = true → p.app.dashboards[i]? = some d →
    d.swchStatusIsOn = true → p.statusIsConnected = true →
      p.app.sockets.delegate = some (.dashboard i)

/-- Every message on its socket is handled by its `onMessage`. -/
def Hears (distance : CLLocation → CLLocation → ℚ) (p : ProviderPhone) : Prop :=
  ∀ (i : Nat) (d : ProviderDashboard) (socket : Nat), p.isVisible i = true →
    p.app.dashboards[i]? = some d → d.swchStatusIsOn = true → p.statusIsConnected = true →
    p.app.sockets.providerConnectionSocket = some socket →
      ∀ (text : Message) (state : ApplicationState) (selectedIndex : Nat),
        react distance p (.app (.onMessage socket text state selectedIndex)) =
          some ((p.app.dashboardMessage i d socket text state selectedIndex).map
            (p.follow (.onMessage socket text state selectedIndex)))

/-- The delegate is a sheet, and the switch of the dashboard is on. -/
def sheetHasTakenOver (p : ProviderPhone) : Bool :=
  (match p.app.sockets.delegate with
    | some (.clientDetail _) => true
    | _ => false) &&
  (p.home.bind fun i => p.app.dashboards[i]?).any ProviderDashboard.swchStatusIsOn

/-- The event takes away what may cover the dashboard. -/
def uncovers (p : ProviderPhone) : PhoneEvent → Bool
  | .selectTab index _ => index == 0
  | .popViewController => p.selectedIndex == 0 && p.pushed.length == 1 && !p.sheetIsPresented
  | .app .notificationTapped => p.pushed.isEmpty && !p.sheetIsPresented
  | .app (.cancelTrip _ _) => p.selectedIndex == 0 && p.pushed.isEmpty
  | .leftBarItemDidTap _ => p.selectedIndex == 0 && p.pushed.isEmpty
  | .app (.onMessage socket text _ _) =>
    p.selectedIndex == 0 && p.pushed.isEmpty &&
      p.app.sockets.clientproviderRequestSocket == some socket &&
      ProviderApp.isCancellation text
  | .btnSubmitPressed _ dismissesSheet =>
    p.selectedIndex == 0 && p.pushed.isEmpty && dismissesSheet
  | _ => false

/-- The condition on a step: while a sheet has taken over, the dashboard with its socket connected
does not come back on screen, and the socket of a dashboard on screen does not connect. -/
def keepsListening (p : ProviderPhone) : PhoneEvent → Bool
  | .app (.onConnect socket) =>
    !(p.sheetHasTakenOver && p.home.any p.isVisible &&
      p.app.sockets.providerConnectionSocket == some socket)
  | e => !(p.sheetHasTakenOver && p.statusIsConnected && p.uncovers e)

/-- Who is the delegate hears. -/
theorem hears_of_listens {p : ProviderPhone} (h : Listens p) : Hears distance p := by
  intro i d socket hvisible hd hon hconnected hsocket text state selectedIndex
  have hdelegate : p.app.sockets.delegate = some (.dashboard i) := h i d hvisible hd hon hconnected
  simp only [statusIsConnected, hsocket, Bool.and_eq_true, Bool.not_eq_true',
    List.contains_eq_mem, decide_eq_true_eq, decide_eq_false_iff_not] at hconnected
  simp [react, admits, hconnected.2, ProviderApp.react, hconnected.1, hdelegate, hd,
    WebSocketManager.holds, hsocket]

/-! ## 2. What is on screen -/

variable {p q : ProviderPhone} {e : PhoneEvent}

theorem isVisible_iff {i : Nat} :
    p.isVisible i = true ↔ p.home = some i ∧ p.selectedIndex = 0 ∧ p.pushed = [] ∧
      p.sheetIsPresented = false := by
  simp only [isVisible, tabBarIsOnTop, Bool.and_eq_true, beq_iff_eq, Bool.not_eq_true',
    List.isEmpty_iff]
  constructor
  · rintro ⟨⟨hhome, hindex⟩, ⟨_, hpushed⟩, hsheet⟩
    exact ⟨hhome, hindex, hpushed, hsheet⟩
  · rintro ⟨hhome, hindex, hpushed, hsheet⟩
    exact ⟨⟨hhome, hindex⟩, ⟨by simp [hhome], hpushed⟩, hsheet⟩

/-- No sheet is presented afterwards: there was none, or the event dismissed one. -/
theorem presented_before (h : SheetsStep p q e) (hq : q.sheetIsPresented = false) :
    p.sheetIsPresented = false ∨ ∃ j, Dismissal p j e := by
  simp only [sheetIsPresented, List.any_eq_false] at hq ⊢
  cases h with
  | same h =>
    rw [h] at hq
    exact Or.inl hq
  | @one j s s' listed move h =>
    cases move with
    | stay hs =>
      rw [h, hs] at hq
      obtain ⟨hj, rfl⟩ := List.getElem?_eq_some_iff.mp listed
      rw [List.set_getElem_self] at hq
      exact Or.inl hq
    | told _ _ hs =>
      left
      rw [h] at hq
      intro s₀ hs₀
      obtain ⟨k, hk⟩ := List.mem_iff_getElem?.mp hs₀
      by_cases hkj : k = j
      · subst hkj
        have hlt : k < p.app.sheets.length := (List.getElem?_eq_some_iff.mp hk).1
        have hmem : s' ∈ p.app.sheets.set k s' := List.mem_set hlt s'
        obtain rfl : s = s₀ := Option.some.inj (listed.symm.trans hk)
        have hs' := hq s' hmem
        rw [hs] at hs'
        exact hs'
      · refine hq s₀ (List.mem_of_getElem? (i := k) ?_)
        rw [List.getElem?_set_ne (Ne.symm hkj)]
        exact hk
    | dismissed event _ => exact Or.inr ⟨j, event⟩
  | all event _ => exact Or.inr ⟨0, event 0⟩
  | @opened s i d opens presented h =>
    rw [h] at hq
    have hnot : ¬s.isPresented = true := hq s (by simp)
    exact absurd presented hnot

/-- What the event does to the tab bar and to what is pushed over it. -/
inductive ScreensStep (p q : ProviderPhone) (e : PhoneEvent) : Prop where
  | same (home : q.home = p.home) (index : q.selectedIndex = p.selectedIndex)
      (pushed : q.pushed = p.pushed ∨ ∃ top, q.pushed = top :: p.pushed)
  | loaded (event : e = .app .viewDidLoad) (home : q.home = some p.app.dashboards.length)
  | tab {takesLocation : Bool} (event : e = .selectTab q.selectedIndex takesLocation)
      (home : q.home = p.home) (pushed : q.pushed = p.pushed)
  | tapped (event : e = .app .notificationTapped) (home : q.home = p.home)
      (pushed : q.pushed = p.pushed) (sheets : q.app.sheets = p.app.sheets)
  | popped {top : Pushed} (event : e = .popViewController) (home : q.home = p.home)
      (index : q.selectedIndex = p.selectedIndex) (pushed : p.pushed = top :: q.pushed)
  | left (home : q.home = none)

theorem step_screens (h : (machine distance).Step p e q) : ScreensStep p q e := by
  have hof : StepOf distance p q e := step_inv h
  cases e with
  | app ev =>
    obtain ⟨_, b, hb, rfl⟩ := hof
    have hpushed : p.pushNew b = p.pushed ∨ ∃ top, p.pushNew b = top :: p.pushed := by
      unfold pushNew
      split
      · exact Or.inr ⟨_, rfl⟩
      · exact Or.inl rfl
    cases ev with
    | viewDidLoad => exact .loaded rfl rfl
    | notificationTapped =>
      obtain rfl : b = p.app.notificationTapped := ProviderApp.step_inv hb
      exact .tapped rfl rfl (by simp [follow, pushNew, ProviderApp.notificationTapped]) rfl
    | _ => exact .same rfl rfl hpushed
  | lateDirections j call =>
    obtain ⟨_, _, _, hlate⟩ := hof
    obtain rfl := lateDirections_inv hlate
    exact .same rfl rfl (Or.inl rfl)
  | didUpdateLocations l =>
    cases didUpdateLocations_inv hof with
    | dashboard _ _ _ after => subst after; exact .same rfl rfl (Or.inl rfl)
    | sheet _ _ after => subst after; exact .same rfl rfl (Or.inl rfl)
    | alert _ _ _ after => subst after; exact .same rfl rfl (Or.inl rfl)
    | nobody _ _ _ _ after => subst after; exact .same rfl rfl (Or.inl rfl)
  | didDisconnect socket code =>
    obtain ⟨_, rfl, _⟩ := didDisconnect_inv hof
    exact .same rfl rfl (Or.inl rfl)
  | selectTab index takesLocation =>
    obtain ⟨_, rfl⟩ := hof
    obtain ⟨_, _, htake⟩ := takeIf_eq { p with selectedIndex := index } takesLocation
    rw [htake]
    exact .tab rfl rfl rfl
  | pushOther takesLocation =>
    obtain ⟨_, rfl⟩ := hof
    obtain ⟨_, _, htake⟩ := takeIf_eq { p with pushed := .other :: p.pushed } takesLocation
    rw [htake]
    exact .same rfl rfl (Or.inr ⟨.other, rfl⟩)
  | popViewController =>
    obtain ⟨hpushed, rfl⟩ := hof
    obtain ⟨top, rest, hpushed⟩ := List.exists_cons_of_ne_nil hpushed
    have htop : p.pushed = top :: p.pushed.tail := by simp [hpushed]
    exact .popped rfl rfl rfl htop
  | logout =>
    obtain ⟨_, rfl⟩ := hof
    exact .left rfl
  | goBackToMainViewController =>
    obtain rfl : q = p.goBackToMainViewController := hof
    exact .left rfl
  | elsewhere defaults =>
    obtain rfl : q = { p with app := p.app.setDefaults defaults } := hof
    exact .same rfl rfl (Or.inl rfl)
  | btnNavigationPressed j =>
    obtain ⟨_, _, _, hpress⟩ := hof
    obtain ⟨_, _, _, rfl⟩ := btnNavigationPressed_inv hpress
    exact .same rfl rfl (Or.inl rfl)
  | notifyWhenProviderHasReached j =>
    obtain rfl : q = { p with reached := j :: p.reached } := hof
    exact .same rfl rfl (Or.inl rfl)
  | cancelRequest j sinceAccepted sinceReached =>
    obtain ⟨_, _, _, hcancel⟩ := hof
    rcases cancelRequest_inv hcancel with rfl | rfl
    · exact .same rfl rfl (Or.inl rfl)
    · exact .same rfl rfl (Or.inl rfl)
  | leftBarItemDidTap j =>
    obtain ⟨_, _, _, _, rfl⟩ := hof
    exact .same rfl rfl (Or.inl rfl)
  | dismissAlert =>
    obtain rfl : q = { p with alert := none } := hof
    exact .same rfl rfl (Or.inl rfl)
  | btnSubmitPressed noShow dismisses =>
    obtain ⟨_, _, _, _, hsubmit⟩ := hof
    obtain ⟨_, _, _, _, _, _, _, rfl⟩ := btnSubmitPressed_inv hsubmit
    exact .same rfl rfl (Or.inl rfl)

/-- The tab bar is that of the same dashboard, or of a fresh one. -/
theorem home_before (h : ScreensStep p q e) {i : Nat} (hq : q.home = some i) :
    p.home = some i ∨ (e = .app .viewDidLoad ∧ i = p.app.dashboards.length) := by
  cases h with
  | same home | tab _ home | tapped _ home | popped _ home => exact Or.inl (by rw [← home, hq])
  | loaded event home => exact Or.inr ⟨event, Option.some.inj (hq.symm.trans home)⟩
  | left home => exact absurd (hq.symm.trans home) (by simp)

/-- The right code closes the sheet, but a trip screen is pushed over the tab bar. -/
theorem presented_of_code {j : Nat} {text : String}
    (h : (machine distance).Step p (.app (.textFieldEditingChanged j text)) q)
    (hpushed : q.pushed = []) : q.sheetIsPresented = p.sheetIsPresented := by
  have hof : StepOf distance p q (.app (.textFieldEditingChanged j text)) := step_inv h
  obtain ⟨_, b, hb, rfl⟩ := hof
  obtain ⟨sheet, _, _, hb⟩ := ProviderApp.step_inv hb
  rcases ProviderApp.textFieldEditingChanged_inv hb with rfl | ⟨_, _, _, _, rfl⟩
  · rfl
  · exact absurd hpushed (by simp [follow, pushNew, ProviderApp.putSheet])

/-- A dashboard that is visible was so before, or something that covered it went away. -/
theorem visible_before (h : (machine distance).Step p e q) {i : Nat} (hq : q.isVisible i = true)
    (hhome : p.home = some i) : p.isVisible i = true ∨ p.uncovers e = true := by
  obtain ⟨hhome', hindex, hpushed, hsheet⟩ := isVisible_iff.mp hq
  have hpresented := presented_before (step_sheets h) hsheet
  cases step_screens h with
  | same _ index pushed =>
    have hindex' : p.selectedIndex = 0 := by rw [← index, hindex]
    have hpushed' : p.pushed = [] := by
      rcases pushed with hsame | ⟨top, hmore⟩
      · rw [← hsame, hpushed]
      · exact absurd (hpushed.symm.trans hmore) (by simp)
    rcases hpresented with hsheet' | ⟨j, hdismissal⟩
    · exact Or.inl (isVisible_iff.mpr ⟨hhome, hindex', hpushed', hsheet'⟩)
    · cases hdismissal with
      | app hdismissal =>
        cases hdismissal with
        | message _ listens cancelled =>
          exact Or.inr (by simp [uncovers, hindex', hpushed', listens, cancelled])
        | code text =>
          rw [presented_of_code h hpushed] at hsheet
          exact Or.inl (isVisible_iff.mpr ⟨hhome, hindex', hpushed', hsheet⟩)
        | cancelled reason => exact Or.inr (by simp [uncovers, hindex', hpushed'])
      | logout =>
        obtain ⟨_, rfl⟩ : StepOf distance p q .logout := step_inv h
        exact absurd hhome' (by simp [logout, goBackToMainViewController])
      | goBack =>
        obtain rfl : q = p.goBackToMainViewController := step_inv h
        exact absurd hhome' (by simp [goBackToMainViewController])
      | cross => exact Or.inr (by simp [uncovers, hindex', hpushed'])
      | submitted noShow => exact Or.inr (by simp [uncovers, hindex', hpushed'])
  | loaded event _ =>
    subst event
    obtain ⟨hadmits, _⟩ : StepOf distance p q (.app .viewDidLoad) := step_inv h
    exact absurd hadmits (by simp [admits, hhome])
  | tab event _ pushed => exact Or.inr (by rw [event]; simp [uncovers, hindex])
  | tapped event _ pushed sheets =>
    subst event
    have hsheet' : p.sheetIsPresented = false := by rwa [sheetIsPresented, ← sheets]
    exact Or.inr (by simp [uncovers, ← pushed, hpushed, hsheet'])
  | popped event _ index pushed =>
    subst event
    right
    rcases hpresented with hsheet' | ⟨_, hdismissal⟩
    · simp [uncovers, ← index, hindex, pushed, hpushed, hsheet']
    · exact absurd hdismissal (by rintro ⟨⟩)
  | left home => exact absurd (hhome'.symm.trans home) (by simp)

/-! ## 3. The switch -/

/-- Of the moves of a dashboard, only its switch moves the switch. -/
theorem switch_of_move {i : Nat} {d d' : ProviderDashboard}
    (he : ∀ isOn, e ≠ .app (.switchValueChanged i isOn)) (h : PhoneMove distance p i d d' e) :
    d'.swchStatusIsOn = d.swchStatusIsOn := by
  cases h with
  | stay _ same => rw [same]
  | move event h =>
    rcases h.frame.2 with hsame | ⟨isOn, rfl⟩
    · exact hsame
    · rcases inner_eq_some event with rfl | ⟨_, _, _, hne⟩ | ⟨_, _, hne⟩ | ⟨_, _, _, hne⟩
      · exact absurd rfl (he isOn)
      · exact absurd hne (by simp)
      · exact absurd hne (by simp)
      · exact absurd hne (by simp)

/-- Who turns the switch on takes the delegate. -/
theorem delegate_of_switch {i : Nat} {isOn : Bool}
    (h : (machine distance).Step p (.app (.switchValueChanged i isOn)) q) {d' : ProviderDashboard}
    (hd' : q.app.dashboards[i]? = some d') (hon : d'.swchStatusIsOn = true) :
    q.app.sockets.delegate = some (.dashboard i) := by
  obtain ⟨_, b, hb, rfl⟩ : StepOf distance p q (.app (.switchValueChanged i isOn)) := step_inv h
  obtain ⟨d, hd, hb⟩ := ProviderApp.step_inv hb
  rcases ProviderApp.switchValueChanged_inv hb with ⟨valid, rfl⟩ | ⟨providerId, rfl⟩
  · have hlt : i < p.app.dashboards.length := (List.getElem?_eq_some_iff.mp hd).1
    simp only [follow, ProviderApp.putDashboard, List.getElem?_set_self hlt] at hd'
    obtain rfl := Option.some.inj hd'
    exact absurd hon (by simp)
  · rfl

/-- A switch that is on was on before, or its dashboard has just taken the delegate. -/
theorem switch_before (h : (machine distance).Step p e q) {i : Nat} {d' : ProviderDashboard}
    (hd' : q.app.dashboards[i]? = some d') (hon : d'.swchStatusIsOn = true) :
    (∃ d, p.app.dashboards[i]? = some d ∧ d.swchStatusIsOn = true) ∨
      q.app.sockets.delegate = some (.dashboard i) := by
  by_cases he : ∃ isOn, e = .app (.switchValueChanged i isOn)
  · obtain ⟨isOn, rfl⟩ := he
    exact Or.inr (delegate_of_switch h hd' hon)
  · rcases step_dashboard h hd' with ⟨d, hd, hmove⟩ | ⟨_, _, trip, rfl⟩
    · rw [switch_of_move (fun isOn heq => he ⟨isOn, heq⟩) hmove] at hon
      exact Or.inl ⟨d, hd, hon⟩
    · exact absurd hon (by simp)

/-! ## 4. The invariant -/

/-- Who has the delegate. -/
structure Delegated (p : ProviderPhone) : Prop where
  /-- A switch that is on belongs to the delegate, or to the dashboard under it. -/
  owner : ∀ (i : Nat) (d : ProviderDashboard), p.home = some i → p.app.dashboards[i]? = some d →
    d.swchStatusIsOn = true → p.app.sockets.delegate = some (.dashboard i) ∨
      ∃ j, p.app.sockets.delegate = some (.clientDetail j)
  listens : Listens p

/-- A status socket that is connected afterwards was so before, unless it was made or connects
now. -/
theorem connected_before (h : (machine distance).Step p e q)
    (hstatus : q.app.sockets.providerConnectionSocket = p.app.sockets.providerConnectionSocket)
    (hmore : ∀ socket, p.app.sockets.providerConnectionSocket = some socket →
      socket ∈ q.app.connected → socket ∈ p.app.connected)
    (hq : q.statusIsConnected = true) : p.statusIsConnected = true := by
  obtain ⟨hclosed, _⟩ := step_sockets h
  unfold statusIsConnected at hq ⊢
  rw [hstatus] at hq
  split at hq
  · rename_i socket hsocket
    simp only [Bool.and_eq_true, Bool.not_eq_true', List.contains_eq_mem, decide_eq_true_eq,
      decide_eq_false_iff_not] at hq ⊢
    exact ⟨hmore socket hsocket hq.1, fun hmem => hq.2 (hclosed socket hmem)⟩
  · exact absurd hq (by simp)

namespace Delegated

theorem start (device : Device) : Delegated { app := { device := device } } where
  owner i d hhome := absurd hhome (by simp)
  listens i d hvisible := absurd hvisible (by simp [isVisible])

theorem owner_step (hp : Delegated p) (h : (machine distance).Step p e q) {i : Nat}
    {d' : ProviderDashboard} (hhome : q.home = some i) (hd' : q.app.dashboards[i]? = some d')
    (hon : d'.swchStatusIsOn = true) :
    q.app.sockets.delegate = some (.dashboard i) ∨
      ∃ j, q.app.sockets.delegate = some (.clientDetail j) := by
  rcases switch_before h hd' hon with ⟨d, hd, hon'⟩ | hdelegate
  · rcases home_before (step_screens h) hhome with hhome' | ⟨_, rfl⟩
    · have howner := hp.owner i d hhome' hd hon'
      obtain ⟨_, ev, hev, hsockets⟩ := step_sockets h
      cases hsockets with
      | kept hkept =>
        rw [hkept.delegate]
        exact howner
      | connected _ same _ =>
        rw [same]
        exact howner
      | @online k event delegate _ _ =>
        left
        rcases event with ⟨isOn, rfl⟩ | hdelegate
        · rcases hev with rfl | ⟨_, hne⟩
          · obtain ⟨hadmits, _⟩ : StepOf distance p q (.app (.switchValueChanged k isOn)) :=
              step_inv h
            have hvisible : p.isVisible k = true := hadmits
            have hki : some k = some i := (isVisible_iff.mp hvisible).1.symm.trans hhome'
            rw [delegate, Option.some.inj hki]
          · exact absurd hne (by simp)
        · rcases howner with hdashboard | ⟨j, hsheet⟩
          · rw [delegate, ← hdelegate, hdashboard]
          · exact absurd (hsheet.symm.trans hdelegate) (by simp)
      | sheet _ _ delegate _ _ => exact Or.inr ⟨_, delegate⟩
    · exact absurd (List.getElem?_eq_some_iff.mp hd).1 (by omega)
  · exact Or.inl hdelegate

/-- The dashboard on screen cannot lose the delegate to a sheet under the condition. -/
theorem not_sheet (hp : Delegated p) (h : (machine distance).Step p e q)
    (hcond : p.keepsListening e = true) {i : Nat} {d' : ProviderDashboard}
    (hvisible : q.isVisible i = true) (hd' : q.app.dashboards[i]? = some d')
    (hon : d'.swchStatusIsOn = true) (hconnected : q.statusIsConnected = true) {j : Nat} :
    q.app.sockets.delegate ≠ some (.clientDetail j) := by
  intro hsheet
  obtain ⟨hhome', _, _, hpresented⟩ := isVisible_iff.mp hvisible
  rcases switch_before h hd' hon with ⟨d, hd, hon'⟩ | hdelegate
  · rcases home_before (step_screens h) hhome' with hhome | ⟨_, rfl⟩
    · -- what the law says of the step's start, once a sheet has taken over there
      have hlaw : p.app.sockets.delegate = some (.clientDetail j) → p.isVisible i = true →
          p.statusIsConnected = false := by
        intro hbefore hvisible'
        by_contra hcon
        have hdashboard := hp.listens i d hvisible' hd hon' (by simpa using hcon)
        exact absurd (hdashboard.symm.trans hbefore) (by simp)
      have htaken : p.app.sockets.delegate = some (.clientDetail j) →
          p.sheetHasTakenOver = true := by
        intro hbefore
        simp [sheetHasTakenOver, hbefore, hhome, hd, hon']
      obtain ⟨_, ev, hev, hsockets⟩ := step_sockets h
      cases hsockets with
      | kept hkept =>
        have hbefore : p.app.sockets.delegate = some (.clientDetail j) := by
          rw [← hkept.delegate, hsheet]
        have hconnected' := connected_before h hkept.status
          (fun _ _ hs => by rwa [hkept.connected] at hs) hconnected
        rcases visible_before h hvisible hhome with hvisible' | huncovers
        · exact absurd hconnected' (by simp [hlaw hbefore hvisible'])
        · cases e with
          | app ev =>
            cases ev with
            | onConnect socket => exact absurd huncovers (by simp [uncovers])
            | _ => simp [keepsListening, htaken hbefore, hconnected', huncovers] at hcond
          | _ => simp [keepsListening, htaken hbefore, hconnected', huncovers] at hcond
      | @connected socket event same hmore =>
        have hbefore : p.app.sockets.delegate = some (.clientDetail j) := by
          rw [← same, hsheet]
        subst event
        obtain rfl : e = .app (.onConnect socket) := by
          rcases hev with rfl | ⟨_, hne⟩
          · rfl
          · exact absurd hne (by simp)
        rcases visible_before h hvisible hhome with hvisible' | huncovers
        · have hother : p.app.sockets.providerConnectionSocket ≠ some socket := by
            simpa [keepsListening, htaken hbefore, hhome, hvisible'] using hcond
          have hconnected' := connected_before h (by rw [same]) (fun s hs hmem => by
            rw [hmore, List.mem_append, List.mem_singleton] at hmem
            rcases hmem with hmem | rfl
            · exact hmem
            · exact absurd hs hother) hconnected
          exact absurd hconnected' (by simp [hlaw hbefore hvisible'])
        · exact absurd huncovers (by simp [uncovers])
      | online _ delegate _ _ => exact absurd (delegate.symm.trans hsheet) (by simp)
      | sheet _ presented _ _ _ => exact absurd (presented.symm.trans hpresented) (by simp)
    · exact absurd (List.getElem?_eq_some_iff.mp hd).1 (by omega)
  · exact absurd (hdelegate.symm.trans hsheet) (by simp)

/-- **Every step that meets the condition keeps the invariant.** -/
theorem step (hp : Delegated p) (hcond : p.keepsListening e = true)
    (h : (machine distance).Step p e q) : Delegated q where
  owner _ _ hhome hd hon := hp.owner_step h hhome hd hon
  listens i d hvisible hd hon hconnected := by
    rcases hp.owner_step h (isVisible_iff.mp hvisible).1 hd hon with hdashboard | ⟨j, hsheet⟩
    · exact hdashboard
    · exact absurd hsheet (hp.not_sheet h hcond hvisible hd hon hconnected)

end Delegated

/-! ## 5. The law -/

/-- **A listening provider hears requests.**  From any launch, over any order of sign-ins,
requests, trips, cancellations, sheets and screens whose steps meet the condition: a dashboard
that is on screen with its switch on and its socket connected is the delegate, and handles every
message on that socket. -/
theorem listening_provider_hears (device : Device) {p : ProviderPhone}
    (hrun : (machine distance).RunWhere (fun p e => p.keepsListening e = true)
      { app := { device := device } } p) : Listens p ∧ Hears distance p := by
  have hI : Delegated p :=
    hrun.invariant (Delegated.start device) fun _ _ _ hI hcond hstep => hI.step hcond hstep
  exact ⟨hI.listens, hears_of_listens hI.listens⟩

/-- Dashboard 0 is on screen, its switch is on and its socket connected. -/
def isListening (p : ProviderPhone) : Bool :=
  p.isVisible 0 && p.statusIsConnected &&
    (p.app.dashboards[0]?).any ProviderDashboard.swchStatusIsOn

/-- The provider goes online, and the first request is heard. -/
theorem listening_provider_hears_online : ∃ p : ProviderPhone, isListening p = true ∧
    p.app.dashboards.length = 1 ∧ Listens p ∧ Hears (fun _ _ => 0) p := by
  obtain ⟨p, hrun, htest⟩ := (machine fun _ _ => 0).exists_run_of_replay keepsListening
    { app := { device := ProviderApp.sampleProvider 16 } } onlinePhone
    (fun p => isListening p && p.app.dashboards.length == 1) (fun _ _ => id) (by decide +kernel)
  simp only [Bool.and_eq_true, beq_iff_eq] at htest
  exact ⟨p, htest.1, htest.2, listening_provider_hears (ProviderApp.sampleProvider 16) hrun⟩

/-- The provider cancels the first trip and is back on the dashboard, still online: the delegate
is the sheet that has just gone. -/
theorem deaf_after_cancel : ∃ p : ProviderPhone,
    (machine fun _ _ => 0).Run { app := { device := ProviderApp.sampleProvider 16 } } p ∧
      ¬Listens p := by
  obtain ⟨p, hrun, htest⟩ := (machine fun _ _ => 0).exists_run_of_replay (fun _ _ => true)
    { app := { device := ProviderApp.sampleProvider 16 } }
    (onlinePhone ++ acceptPhone 24 16 1 ++ [.app (.directionsReply 0 0 true),
      .app (.cancelTrip 0 "0"), .app (.viewWillAppear 0)])
    (fun p => isListening p && p.app.sockets.delegate == some (.clientDetail 0))
    (fun _ _ _ => trivial) (by decide +kernel)
  refine ⟨p, hrun, fun hlistens => ?_⟩
  simp only [isListening, Bool.and_eq_true, beq_iff_eq, Option.any_eq_true] at htest
  obtain ⟨⟨⟨hvisible, hconnected⟩, d, hd, hon⟩, hdelegate⟩ := htest
  have hdashboard := hlistens 0 d hvisible hd hon hconnected
  exact absurd (hdashboard.symm.trans hdelegate) (by simp)

end ProviderPhone

end WeatherAccommodation
