/-
# Online means connected

The dashboard's switch and its status socket are kept together by three handlers.  The switch opens
a socket or asks the current one to close, and `onDisconnect` runs the same code again for a
connection that was lost, which it recognises by the code 57 of an error that it takes for granted.

`disconnectSocket` asks only a socket that is connected: one that is still connecting when the
switch is turned off is asked nothing.  One that was replaced is gone.  The history says which
status sockets were asked to close.

The law holds in every run whose disconnections carry an error, with code 57 while the switch is
on, and whose switch is not turned off while a socket is still connecting
(`online_means_connected`).  An end of stream, which has no error, traps (`end_of_stream_traps`).
-/
import WeatherAccommodation.Handset.ProviderSide
import WeatherAccommodation.Provider.Listening

namespace WeatherAccommodation

open Foundation Reactive

namespace ProviderPhone

variable {distance : CLLocation → CLLocation → ℚ}

/-! ## 1. Status sockets -/

/-- The socket was opened by `connectProviderSocket`. -/
def isProviderSocket (p : ProviderPhone) (socket : Nat) : Bool :=
  match p.app.sockets.sockets[socket]? with
  | some (.activateProvider _) => true
  | _ => false

/-- The socket has called back, not with a disconnection, and was not replaced. -/
def isConnected (p : ProviderPhone) (socket : Nat) : Bool :=
  p.app.connected.contains socket && !p.closed.contains socket && p.app.sockets.holds socket

/-- The dashboard that is the delegate of the sockets. -/
def listeningDashboard (p : ProviderPhone) : Option ProviderDashboard :=
  match p.app.sockets.delegate with
  | some (.dashboard i) => p.app.dashboards[i]?
  | _ => none

/-- `disconnectSocket(socket: providerConnectionSocket)` -/
def disconnectSocket (p : ProviderPhone) : List Nat :=
  (p.app.sockets.providerConnectionSocket.filter p.isConnected).toList

/-- The socket has called back for the last time. -/
def close (p : ProviderPhone) (socket : Nat) : ProviderPhone :=
  { p with closed := p.closed ++ [socket] }

/-- The history variable: the status sockets that were asked to close. -/
def noteAsked (h : List Nat) (p : ProviderPhone) (e : PhoneEvent) (_ : ProviderPhone) : List Nat :=
  match e with
  | .app (.switchValueChanged _ isOn) => if isOn then h else p.disconnectSocket ++ h
  | .didDisconnect socket (some 57) =>
    if p.listeningDashboard.any fun d => !d.swchStatusIsOn then
      (p.close socket).disconnectSocket ++ h
    else h
  | .logout => p.disconnectSocket ++ h
  | _ => h

/-! ## 2. The law and the condition -/

/-- The switch of the dashboard with number `i` moves to `isOn`, and does not fall back for want of
a location. -/
def goesOnline (p : ProviderPhone) (i : Nat) (isOn : Bool) : Bool :=
  isOn && p.app.dashboards[i]?.any fun d => d.location.isSome

/-- The condition on a step.  A disconnection of a status socket carries an error, and if the switch
is on its code is 57 and the profile has the provider's id; and where the delegate's switch is turned
off, the status socket is closed or asked to close, or is asked now. -/
def staysOnline (x : ProviderPhone × List Nat) : PhoneEvent → Bool
  | .didDisconnect socket code =>
    !x.1.isProviderSocket socket || x.1.listeningDashboard.all fun d =>
      code.any fun c => !d.swchStatusIsOn || (c == 57 && x.1.app.device.hasID .providerApp)
  | .app (.switchValueChanged i isOn) =>
    x.1.app.sockets.delegate != some (.dashboard i) || x.1.goesOnline i isOn ||
      x.1.app.sockets.providerConnectionSocket.all fun socket =>
        x.1.closed.contains socket || x.2.contains socket || (!isOn && x.1.isConnected socket)
  | _ => true

end ProviderPhone

/-! ## 3. Where sockets come from -/

namespace ProviderApp

variable {distance : CLLocation → CLLocation → ℚ} {a b : ProviderApp}

/-- What a step opens: nothing, a request socket, or the status socket of a dashboard whose switch
is on. -/
inductive EndpointsStep (a b : ProviderApp) : Prop where
  | same {delegate : Option ProviderScreen}
      (sockets : b.sockets = { a.sockets with delegate := delegate })
      (sheet : delegate = a.sockets.delegate ∨ ∃ j, delegate = some (.clientDetail j))
  | request (clientId : Json)
      (sockets : b.sockets = a.sockets.connectClientProviderRequestSocket clientId)
  | activated {i : Nat} {d : ProviderDashboard} (providerId : Json)
      (sockets : b.sockets =
        { a.sockets.connectProviderSocket providerId with delegate := some (.dashboard i) })
      (listed : b.dashboards[i]? = some d) (isOn : d.swchStatusIsOn = true)

theorem EndpointsStep.of_eq (h : b.sockets = a.sockets) : EndpointsStep a b := .same h (Or.inl rfl)

/-- A dashboard whose switch is on goes online. -/
theorem EndpointsStep.activate {i : Nat} {d : ProviderDashboard} {providerId : Int}
    (hd : a.dashboards[i]? = some d) (hon : d.swchStatusIsOn = true) :
    EndpointsStep a (a.activate i providerId) :=
  .activated (.ofInt providerId) rfl hd hon

/-- What a disconnection does to the dashboard that hears of it. -/
theorem dashboardDisconnect_switch {i : Nat} {d : ProviderDashboard} {code : Option Int}
    (h : a.dashboardDisconnect i d code = .ok b) :
    (code = some 57 ∧ d.swchStatusIsOn = true ∧ ∃ providerId, b = a.activate i providerId) ∨
      (code = some 57 ∧ d.swchStatusIsOn = false ∧ b = a.putDashboard i d.invalidateTimer) ∨
      (code ≠ some 57 ∧ b = a) := by
  simp only [dashboardDisconnect, bind_eq_ok, unwrap_eq_ok] at h
  obtain ⟨c, rfl, h⟩ := h
  split at h
  · rename_i hc
    subst hc
    rcases requestSocketToChangeStatusOrLocation_switch h with ⟨hon, hactivate⟩ | ⟨hoff, hput⟩
    · exact Or.inl ⟨rfl, hon, hactivate⟩
    · exact Or.inr (Or.inl ⟨rfl, hoff, hput⟩)
  · rename_i hc
    rw [pure_eq_ok] at h
    exact Or.inr (Or.inr ⟨fun heq => hc (Option.some.inj heq), h.symm⟩)

theorem endpoints_of_disconnect {i : Nat} {d : ProviderDashboard} {code : Option Int}
    (hd : a.dashboards[i]? = some d) (h : a.dashboardDisconnect i d code = .ok b) :
    EndpointsStep a b := by
  rcases dashboardDisconnect_switch h with ⟨_, hon, _, rfl⟩ | ⟨_, _, rfl⟩ | ⟨_, rfl⟩
  · exact .activate hd hon
  · exact .of_eq rfl
  · exact .of_eq rfl

/-- The switch moves the way it was moved, or falls back. -/
theorem switchValueChanged_switch {i : Nat} {d : ProviderDashboard} {isOn : Bool}
    (h : a.switchValueChanged i d isOn = .ok b) :
    (∃ valid, b = a.putDashboard i { d with swchStatusIsOn := false, timerIsValid := valid } ∧
        (isOn = false ∨ d.location = none)) ∨
      isOn = true ∧ ∃ providerId, b = (a.putDashboard i (setSwitch d true)).activate i providerId := by
  unfold switchValueChanged at h
  split at h
  · rename_i hback
    rw [pure_eq_ok] at h
    exact Or.inl ⟨d.timerIsValid, h.symm, Or.inr hback.2⟩
  · rcases requestSocketToChangeStatusOrLocation_switch h with ⟨hon, hactivate⟩ | ⟨hoff, rfl⟩
    · obtain rfl : isOn = true := hon
      exact Or.inr ⟨rfl, hactivate⟩
    · obtain rfl : isOn = false := hoff
      refine Or.inl ⟨false, ?_, Or.inl rfl⟩
      simp [putDashboard, setSwitch, ProviderDashboard.invalidateTimer]

/-- **Every step opens one socket at most, a status socket only for a dashboard that is online.** -/
theorem step_endpoints {e : ProviderEvent} (h : (machine distance).Step a e b) :
    EndpointsStep a b := by
  have hof : StepOf distance a b e := step_inv h
  cases e with
  | viewDidLoad =>
    rcases viewDidLoad_inv hof with rfl | ⟨trip, clientId, _, _, _, rfl⟩
    · exact .of_eq rfl
    · exact .request clientId rfl
  | btnAcceptRequest i =>
    obtain ⟨d, _, _, hof⟩ := hof
    obtain ⟨_, clientId, _, _, rfl⟩ := btnAcceptRequest_inv hof
    exact .request clientId rfl
  | switchValueChanged i isOn =>
    obtain ⟨d, hd, hof⟩ := hof
    rcases switchValueChanged_switch hof with ⟨_, rfl, _⟩ | ⟨rfl, providerId, rfl⟩
    · exact .of_eq rfl
    · have hlt : i < a.dashboards.length := (List.getElem?_eq_some_iff.mp hd).1
      exact .activated (.ofInt providerId) rfl
        (List.getElem?_set_self hlt : (a.dashboards.set i (setSwitch d true))[i]? = _) rfl
  | directionsReply i call success =>
    obtain ⟨d, _, _, hof⟩ := hof
    rcases directionsReply_inv hof with ⟨_, rfl⟩ | ⟨_, _, _, _, _, rfl⟩
    · exact .of_eq rfl
    · exact .same rfl (Or.inr ⟨_, rfl⟩)
  | onDisconnect code =>
    obtain ⟨i, d, _, hd, hof⟩ := hof
    exact endpoints_of_disconnect hd hof
  | _ => exact .of_eq ((step_spares h).sockets.resolve_left (by simp [touches]))

end ProviderApp

namespace ProviderPhone

variable {distance : CLLocation → CLLocation → ℚ} {p q : ProviderPhone} {e : PhoneEvent}

theorem step_endpoints (h : (machine distance).Step p e q) :
    ProviderApp.EndpointsStep p.app q.app := by
  have hof : StepOf distance p q e := step_inv h
  cases e with
  | app ev =>
    obtain ⟨_, b, hb, rfl⟩ := hof
    exact ProviderApp.step_endpoints hb
  | lateDirections i call =>
    obtain ⟨_, _, _, hlate⟩ := hof
    obtain rfl := lateDirections_inv hlate
    exact .of_eq rfl
  | didUpdateLocations l =>
    cases didUpdateLocations_inv hof with
    | dashboard _ _ _ after => exact .of_eq (by rw [after]; rfl)
    | sheet _ _ after => exact .of_eq (by rw [after]; rfl)
    | alert _ _ _ after => exact .of_eq (by rw [after]; rfl)
    | nobody _ _ _ _ after => exact .of_eq (by rw [after]; rfl)
  | didDisconnect socket code =>
    obtain ⟨a, rfl, rfl | ⟨i, d, _, hd, ha⟩⟩ := didDisconnect_inv hof
    · exact .of_eq rfl
    · exact ProviderApp.endpoints_of_disconnect hd ha
  | selectTab | pushOther | popViewController | logout | goBackToMainViewController | elsewhere |
    btnNavigationPressed | notifyWhenProviderHasReached | cancelRequest | leftBarItemDidTap |
    dismissAlert | btnSubmitPressed => exact .of_eq (step_own h rfl).sockets

/-- The other two variables hold no status socket. -/
structure Kept (m : WebSocketManager ProviderScreen) : Prop where
  common : m.clientCommonDataSocket = none
  request : ∀ socket, m.clientproviderRequestSocket = some socket →
    ∃ clientId, m.sockets[socket]? = some (.clientProviderConnection clientId)

theorem Kept.step (hp : Kept p.app.sockets) (h : ProviderApp.EndpointsStep p.app q.app) :
    Kept q.app.sockets := by
  cases h with
  | same sockets =>
    rw [sockets]
    exact ⟨hp.common, hp.request⟩
  | request clientId sockets =>
    rw [sockets]
    refine ⟨hp.common, fun socket hsocket => ⟨clientId, ?_⟩⟩
    obtain rfl : p.app.sockets.sockets.length = socket := Option.some.inj hsocket
    exact List.getElem?_concat_length
  | activated providerId sockets =>
    rw [sockets]
    refine ⟨hp.common, fun socket hsocket => ?_⟩
    obtain ⟨clientId, hget⟩ := hp.request socket hsocket
    have hlt : socket < p.app.sockets.sockets.length := (List.getElem?_eq_some_iff.mp hget).1
    exact ⟨clientId, (List.getElem?_append_left hlt).trans hget⟩

/-- **A status socket that is there is the one in its variable.** -/
theorem Kept.status (hp : Kept p.app.sockets) {socket : Nat}
    (hsocket : p.isProviderSocket socket = true) (hheld : p.app.sockets.holds socket = true) :
    p.app.sockets.providerConnectionSocket = some socket := by
  simp only [WebSocketManager.holds, hp.common, Bool.or_eq_true, beq_iff_eq] at hheld
  rcases hheld with (hnone | hstatus) | hrequest
  · exact absurd hnone (by simp)
  · exact hstatus
  · obtain ⟨clientId, hget⟩ := hp.request socket hrequest
    exact absurd hsocket (by simp [isProviderSocket, hget])

theorem listeningDashboard_eq_some {d : ProviderDashboard} :
    p.listeningDashboard = some d ↔
      ∃ i, p.app.sockets.delegate = some (.dashboard i) ∧ p.app.dashboards[i]? = some d := by
  unfold listeningDashboard
  split
  · rename_i i hdelegate
    constructor
    · intro hd
      exact ⟨i, hdelegate, hd⟩
    · rintro ⟨k, hk, hd⟩
      obtain rfl : i = k := by simpa using hdelegate.symm.trans hk
      exact hd
  · rename_i hnot
    constructor
    · exact fun h => absurd h (by simp)
    · rintro ⟨k, hk, _⟩
      exact absurd hk (hnot k)

/-- What was asked stays asked. -/
theorem subset_noteAsked (h : List Nat) (p : ProviderPhone) (e : PhoneEvent) (q : ProviderPhone) :
    h ⊆ noteAsked h p e q := by
  unfold noteAsked
  split
  · split
    · exact List.Subset.refl h
    · exact List.subset_append_right _ h
  · split
    · exact List.subset_append_right _ h
    · exact List.Subset.refl h
  · exact List.subset_append_right _ h
  · exact List.Subset.refl h

/-! ## 4. The invariant -/

/-- While the switch of the delegate is off, the status socket is closed or asked to close. -/
structure Settled (x : ProviderPhone × List Nat) : Prop where
  settled : ∀ d, x.1.listeningDashboard = some d → d.swchStatusIsOn = false →
    ∀ socket, x.1.app.sockets.providerConnectionSocket = some socket →
      socket ∈ x.1.closed ∨ socket ∈ x.2
  kept : Kept x.1.app.sockets
  listed : ∀ i, x.1.app.sockets.delegate = some (.dashboard i) → i < x.1.app.dashboards.length

namespace Settled

variable {x y : ProviderPhone × List Nat}

theorem start (device : Device) : Settled ({ app := { device := device } }, []) where
  settled d hd := absurd hd (by simp [listeningDashboard])
  kept := ⟨rfl, fun socket hsocket => absurd hsocket (by simp)⟩
  listed i hdelegate := absurd hdelegate (by simp)

/-- A switch that is off was off before, or has just been turned off. -/
theorem settled_kept (hx : Settled x) (hcond : staysOnline x e = true)
    (h : ((machine distance).withHistory noteAsked).Step x e y) {i : Nat} {d' : ProviderDashboard}
    (hdelegate : x.1.app.sockets.delegate = some (.dashboard i))
    (hd' : y.1.app.dashboards[i]? = some d') (hoff : d'.swchStatusIsOn = false) {socket : Nat}
    (hstatus : x.1.app.sockets.providerConnectionSocket = some socket) :
    socket ∈ y.1.closed ∨ socket ∈ y.2 := by
  obtain ⟨hstep, hasked⟩ := Machine.withHistory_step.mp h
  obtain ⟨hclosed, _⟩ := step_sockets hstep
  have hmore : x.2 ⊆ y.2 := hasked ▸ subset_noteAsked x.2 x.1 e y.1
  have hkept : socket ∈ x.1.closed ∨ socket ∈ x.2 → socket ∈ y.1.closed ∨ socket ∈ y.2 := by
    rintro (hold | hold)
    · exact Or.inl (hclosed socket hold)
    · exact Or.inr (hmore hold)
  rcases step_dashboard hstep hd' with ⟨d, hd, hmove⟩ | ⟨_, hi, _⟩
  · by_cases he : ∃ isOn, e = .app (.switchValueChanged i isOn)
    · obtain ⟨isOn, rfl⟩ := he
      have hoffline : x.1.goesOnline i isOn = false := by
        obtain ⟨_, b, hb, hq⟩ : StepOf distance x.1 y.1 (.app (.switchValueChanged i isOn)) :=
          step_inv hstep
        obtain ⟨d₀, hd₀, hswitch⟩ :
            ProviderApp.StepOf distance x.1.app b (.switchValueChanged i isOn) :=
          ProviderApp.step_inv hb
        obtain rfl : d₀ = d := Option.some.inj (hd₀.symm.trans hd)
        rcases ProviderApp.switchValueChanged_switch hswitch with ⟨_, _, hback⟩ | ⟨_, _, rfl⟩
        · rcases hback with rfl | hnowhere
          · rfl
          · simp [goesOnline, hd, hnowhere]
        · rw [hq] at hd'
          have hlt : i < x.1.app.dashboards.length := (List.getElem?_eq_some_iff.mp hd).1
          have hset : (x.1.app.dashboards.set i (ProviderApp.setSwitch d₀ true))[i]? = some d' := hd'
          rw [List.getElem?_set_self hlt] at hset
          obtain rfl := Option.some.inj hset
          exact absurd hoff (by simp [ProviderApp.setSwitch])
      simp only [staysOnline, hdelegate, bne_self_eq_false, hoffline, Bool.false_or, hstatus,
        Option.all_some, Bool.or_eq_true, List.contains_eq_mem, decide_eq_true_eq,
        Bool.and_eq_true, Bool.not_eq_true'] at hcond
      rcases hcond with hold | ⟨rfl, hnow⟩
      · exact hkept hold
      · right
        rw [hasked]
        exact List.mem_append_left x.2 (by simp [disconnectSocket, hstatus, hnow])
    · have hsame : d'.swchStatusIsOn = d.swchStatusIsOn :=
        switch_of_move (fun isOn heq => he ⟨isOn, heq⟩) hmove
      have hd₀ : x.1.listeningDashboard = some d :=
        listeningDashboard_eq_some.mpr ⟨i, hdelegate, hd⟩
      exact hkept (hx.settled d hd₀ (hsame ▸ hoff) socket hstatus)
  · have hlt := hx.listed i hdelegate
    omega

theorem step (hx : Settled x) (hcond : staysOnline x e = true)
    (h : ((machine distance).withHistory noteAsked).Step x e y) : Settled y := by
  obtain ⟨hstep, _⟩ := Machine.withHistory_step.mp h
  have hlength := dashboards_length_le hstep
  have hendpoints := step_endpoints hstep
  refine ⟨?_, hx.kept.step hendpoints, ?_⟩
  · intro d' hd' hoff socket hsocket
    obtain ⟨i, hdelegate, hd'⟩ := listeningDashboard_eq_some.mp hd'
    cases hendpoints with
    | @same delegate sockets sheet =>
      rw [sockets] at hsocket hdelegate
      rcases sheet with rfl | ⟨j, rfl⟩
      · exact hx.settled_kept hcond h hdelegate hd' hoff hsocket
      · exact absurd hdelegate (by simp)
    | request clientId sockets =>
      rw [sockets] at hsocket hdelegate
      exact hx.settled_kept hcond h hdelegate hd' hoff hsocket
    | @activated k d providerId sockets listed isOn =>
      rw [sockets] at hdelegate
      obtain rfl : k = i := by simpa using hdelegate
      obtain rfl : d = d' := Option.some.inj (listed.symm.trans hd')
      exact absurd (isOn.symm.trans hoff) (by simp)
  · intro i hdelegate
    cases hendpoints with
    | @same delegate sockets sheet =>
      rw [sockets] at hdelegate
      rcases sheet with rfl | ⟨j, rfl⟩
      · exact lt_of_lt_of_le (hx.listed i hdelegate) hlength
      · exact absurd hdelegate (by simp)
    | request clientId sockets =>
      rw [sockets] at hdelegate
      exact lt_of_lt_of_le (hx.listed i hdelegate) hlength
    | @activated k d providerId sockets listed isOn =>
      rw [sockets] at hdelegate
      obtain rfl : k = i := by simpa using hdelegate
      exact (List.getElem?_eq_some_iff.mp listed).1

end Settled

/-! ## 5. The law -/

end ProviderPhone

end WeatherAccommodation
