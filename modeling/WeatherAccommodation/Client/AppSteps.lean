/-
# What one step of the client's app can do

Inversion lemmas for the handlers of `App.lean`, in the manner of `Steps.lean`: from "the
handler returned `b`" to `b` as an update of the app before, and `step_inv` event by event.
-/
import WeatherAccommodation.Client.App
import WeatherAccommodation.Client.Moves

namespace WeatherAccommodation

open Foundation Reactive

namespace ClientApp

variable {distance : CLLocation → CLLocation → ℚ} {a b : ClientApp}

/-! ## 1. The handlers -/

theorem userID_inv {device : Device} {role : UserLoginType} {id : Int}
    (h : device.userID role = .ok id) :
    ∃ profile, device.defaults.value .userProfileInfoDef = some (.dict profile) ∧
      Dict.int? profile role.idKey = some id := by
  simpa [Device.userID] using h

/-- One more dashboard, with nothing on it. -/
theorem pushDashboard_inv (h : a.pushDashboard = .ok b) :
    (∃ id, a.device.userID .clientApp = .ok id) ∧ b = { a with
      sessions := a.sessions ++ [{ device := a.device }]
      profileCalls := a.profileCalls.issue () } := by
  simp only [pushDashboard, bind_eq_ok, pure_eq_ok] at h
  obtain ⟨id, hid, rfl⟩ := h
  exact ⟨⟨id, hid⟩, rfl⟩

/-- A profile is stored whole, or not at all. -/
theorem profileReply_inv {reply : Option Dict} (h : a.profileReply reply = .ok b) :
    b = a ∨ ∃ profile, reply = some profile ∧ Dict.int? profile "Success" = some successCode ∧
      b = { a with device := { a.device with
        defaults := a.device.defaults.set .userProfileInfoDef (.dict profile) } } := by
  unfold profileReply at h
  cases reply with
  | none =>
    rw [pure_eq_ok] at h
    exact Or.inl h.symm
  | some profile =>
    simp only [bind_eq_ok, forceInt_eq_ok] at h
    obtain ⟨success, hs, h⟩ := h
    split at h
    · rename_i hcode
      simp only [bind_eq_ok, pure_eq_ok, UserDefaults.setObject_eq_ok] at h
      obtain ⟨defaults, ⟨_, rfl⟩, rfl⟩ := h
      exact Or.inr ⟨profile, rfl, hcode ▸ hs, rfl⟩
    · rw [pure_eq_ok] at h
      exact Or.inl h.symm

/-- A successful sign-in stores the reply as the profile and opens a fresh dashboard; it
touches no other key of `UserDefaults` but the flag. -/
theorem signInReply_inv {reply : Dict} (h : a.signInReply reply = .ok b) :
    (Dict.int? reply "Success" ≠ some successCode ∧ b = a) ∨ ∃ id device,
      Dict.int? reply "ClientId" = some id ∧ Dict.int? reply "Success" = some successCode ∧
      device = { a.device with
        defaults := (a.device.defaults.set .userProfileInfoDef (.dict reply)).setBool
          .iSUerActivated true } ∧
      b = { a with
        device := device
        onMain := false
        sessions := a.sessions ++ [{ device := device }]
        profileCalls := a.profileCalls.issue () } := by
  unfold signInReply at h
  simp only [bind_eq_ok, forceInt_eq_ok] at h
  obtain ⟨success, hs, h⟩ := h
  split at h
  · rename_i hcode
    simp only [bind_eq_ok, UserDefaults.setObject_eq_ok] at h
    obtain ⟨defaults, ⟨_, rfl⟩, h⟩ := h
    obtain ⟨⟨id, hid⟩, rfl⟩ := pushDashboard_inv h
    obtain ⟨profile, hprofile, hclient⟩ := userID_inv hid
    have hreply : reply = profile := by
      simpa [UserDefaults.setBool] using hprofile
    exact Or.inr ⟨id, _, hreply ▸ hclient, hcode ▸ hs, rfl, rfl⟩
  · rename_i hcode
    rw [pure_eq_ok] at h
    exact Or.inl ⟨by simpa [hs] using hcode, h.symm⟩

/-- Every dashboard gets the same notification. -/
theorem notifyProducts_inv {products : List ProductKit} {sessions sessions' : List ClientSession}
    (h : notifyProducts products sessions = .ok sessions') :
    List.Forall₂ (fun s s' => ∃ d, s.dashboard.showSelectedProducts products = .ok d ∧
      s' = s.put d) sessions sessions' := by
  induction sessions generalizing sessions' with
  | nil =>
    obtain rfl : [] = sessions' := by simpa [notifyProducts] using h
    exact .nil
  | cons s sessions ih =>
    simp only [notifyProducts, bind_eq_ok, pure_eq_ok] at h
    obtain ⟨d, hd, rest, hrest, rfl⟩ := h
    exact .cons ⟨d, hd, rfl⟩ (ih hrest)

/-- Whoever was notified is a dashboard from before, with other counts. -/
theorem mem_of_notifyProducts {products : List ProductKit}
    {sessions sessions' : List ClientSession} {s' : ClientSession}
    (h : notifyProducts products sessions = .ok sessions') (hs' : s' ∈ sessions') :
    ∃ s ∈ sessions, ∃ d, s' = s.put d := by
  induction sessions generalizing sessions' with
  | nil =>
    obtain rfl : [] = sessions' := by simpa [notifyProducts] using h
    simp at hs'
  | cons s sessions ih =>
    simp only [notifyProducts, bind_eq_ok, pure_eq_ok] at h
    obtain ⟨d, _, rest, hrest, rfl⟩ := h
    rcases List.mem_cons.mp hs' with rfl | hs'
    · exact ⟨s, by simp, d, rfl⟩
    · obtain ⟨s₀, hs₀, d₀, rfl⟩ := ih hrest hs'
      exact ⟨s₀, by simp [hs₀], d₀, rfl⟩

/-- The press leaves its charge, and notifies if it was accepted with something selected. -/
theorem nextPressed_inv {kits : List ProductKit} (h : a.nextPressed kits = .ok b) :
    ∃ charge selected,
      ExtraEquipment.btnNextPressed kits a.device.appDelegate.extraCharge
        = .ok (charge, selected) ∧
      ((b = a.setExtraCharge charge ∧ (selected = none ∨ selected = some [])) ∨
        ∃ products sessions, selected = some products ∧ products ≠ [] ∧
          notifyProducts products a.sessions = .ok sessions ∧
          b = { a.setExtraCharge charge with sessions := sessions }) := by
  simp only [nextPressed, bind_eq_ok, Prod.exists] at h
  obtain ⟨charge, selected, hpress, h⟩ := h
  refine ⟨charge, selected, hpress, ?_⟩
  cases selected with
  | none =>
    simp only [pure_eq_ok] at h
    exact Or.inl ⟨h.symm, Or.inl rfl⟩
  | some products =>
    simp only at h
    split at h
    · rename_i hnil
      rw [pure_eq_ok] at h
      exact Or.inl ⟨h.symm, Or.inr (by rw [hnil])⟩
    · rename_i hne
      simp only [bind_eq_ok, pure_eq_ok] at h
      obtain ⟨sessions, hnotify, rfl⟩ := h
      exact Or.inr ⟨products, sessions, rfl, hne, hnotify, rfl⟩

theorem showWallet_inv {number : Nat} {w : Wallet} (h : a.showWallet number w = .ok b) :
    b = { a.putWallet number (w.viewWillAppear a.device.defaults) with
      cardCalls := a.cardCalls.issue number } := by
  simp only [showWallet, bind_eq_ok, pure_eq_ok] at h
  obtain ⟨_, _, rfl⟩ := h
  rfl

theorem openWallet_inv (h : a.openWallet = .ok b) :
    b = { a with
      wallets := a.wallets ++ [Wallet.fresh.viewWillAppear a.device.defaults]
      cardCalls := a.cardCalls.issue a.wallets.length } := by
  obtain rfl := showWallet_inv h
  simp [putWallet]

theorem deleteRow_inv {number : Nat} {w : Wallet} {row : Nat}
    (h : a.deleteRow number w row = .ok b) :
    ∃ w', w.commitDelete row = .ok w' ∧
      b = { a.putWallet number w' with deleteCalls := a.deleteCalls.issue (number, row) } := by
  simp only [deleteRow, bind_eq_ok, pure_eq_ok] at h
  obtain ⟨w', hw', _, _, rfl⟩ := h
  exact ⟨w', hw', rfl⟩

/-- Only the wallet that asked is changed by an answer. -/
theorem answerWallet_inv {number : Nat} {f : Wallet → Except Trap Wallet}
    (h : a.answerWallet number f = .ok b) :
    (a.wallets[number]? = none ∧ b = a) ∨
      ∃ w w', a.wallets[number]? = some w ∧ f w = .ok w' ∧ b = a.putWallet number w' := by
  unfold answerWallet at h
  split at h
  · rename_i w hw
    simp only [bind_eq_ok, pure_eq_ok] at h
    obtain ⟨w', hw', rfl⟩ := h
    exact Or.inr ⟨w, w', hw, hw', rfl⟩
  · rename_i hnone
    rw [pure_eq_ok] at h
    exact Or.inl ⟨hnone, h.symm⟩

/-! ## 2. Event by event -/

/-- A dashboard's own event does not stand for what happens elsewhere. -/
theorem ne_elsewhere {e : ClientEvent} (own : isOwnEvent e = true) (device : Device)
    (busy : Bool) : e ≠ .elsewhere device busy := by
  rintro rfl
  exact absurd own (by simp [isOwnEvent])

/-- What the event leaves behind, in terms of the handlers. -/
def StepOf (distance : CLLocation → CLLocation → ℚ) (a b : ClientApp) : AppEvent → Prop
  | .session i e =>
    isOwnEvent e = true ∧ ∃ s t, a.sessions[i]? = some s ∧
      (ClientSession.machine distance).Step (a.lend s) e t ∧ b = a.store i t
  | .signInReply reply => a.onMain = true ∧ a.signInReply reply = .ok b
  | .logout => a.onMain = false ∧ b = a.logout
  | .pushDashboard => a.onMain = false ∧ a.pushDashboard = .ok b
  | .profileReply call reply =>
    { a with profileCalls := a.profileCalls.retire call }.profileReply reply = .ok b
  | .nextPressed kits => a.nextPressed kits = .ok b
  | .openWallet => a.onMain = false ∧ a.walletShown = false ∧ a.openWallet = .ok b
  | .uncoverWallet number =>
    ∃ w, a.wallets[number]? = some w ∧ w.onStack = true ∧ a.walletShown = false ∧
      a.showWallet number w = .ok b
  | .leaveWallet number popped =>
    ∃ w, a.wallets[number]? = some w ∧ w.onScreen = true ∧ b = a.leaveWallet number w popped
  | .cardListReply call reply =>
    ∃ number, a.cardCalls.waiting call = some number ∧
      { a with cardCalls := a.cardCalls.retire call }.answerWallet number
        (fun w => w.cardListReply reply) = .ok b
  | .selectRow number row =>
    ∃ w w', a.wallets[number]? = some w ∧ w.onScreen = true ∧ w.didSelectRow row = .ok w' ∧
      b = a.putWallet number w'
  | .deleteRow number row =>
    ∃ w, a.wallets[number]? = some w ∧ w.onScreen = true ∧ a.deleteRow number w row = .ok b
  | .deleteReply call success =>
    ∃ number row, { a with deleteCalls := a.deleteCalls.retire call }.answerWallet number
      (fun w => w.deleteReply row success) = .ok b
  | .addCardFailed => b = a.addCardFailed

/-- **The inversion lemma of the machine.** -/
theorem step_inv {e : AppEvent} (h : (machine distance).Step a e b) : StepOf distance a b e := by
  have h' : react distance a e = some (.ok b) := h
  cases e with
  | session i e =>
    simp only [react] at h'
    split at h'
    · rename_i hown
      obtain ⟨s, hs, h'⟩ := Option.bind_eq_some_iff.mp h'
      obtain ⟨t, ht, rfl⟩ := handled_eq_ok.mp h'
      exact ⟨hown, s, t, hs, ht, rfl⟩
    · exact absurd h' (by simp)
  | signInReply reply =>
    simp only [react] at h'
    split at h'
    · rename_i hmain
      exact ⟨hmain, Option.some.inj h'⟩
    · exact absurd h' (by simp)
  | logout =>
    simp only [react] at h'
    split at h'
    · exact absurd h' (by simp)
    · rename_i hmain
      exact ⟨by simpa using hmain, (Except.ok.inj (Option.some.inj h')).symm⟩
  | pushDashboard =>
    simp only [react] at h'
    split at h'
    · exact absurd h' (by simp)
    · rename_i hmain
      exact ⟨by simpa using hmain, Option.some.inj h'⟩
  | profileReply call reply =>
    simp only [react, Option.map_eq_some_iff] at h'
    obtain ⟨_, _, h'⟩ := h'
    exact h'
  | nextPressed kits =>
    simp only [react] at h'
    split at h'
    · exact absurd h' (by simp)
    · exact Option.some.inj h'
  | openWallet =>
    simp only [react] at h'
    split at h'
    · exact absurd h' (by simp)
    · rename_i hfree
      simp only [not_or, Bool.not_eq_true] at hfree
      exact ⟨hfree.1, hfree.2, Option.some.inj h'⟩
  | uncoverWallet number =>
    simp only [react, Option.bind_eq_some_iff] at h'
    obtain ⟨w, hw, h'⟩ := h'
    split at h'
    · rename_i hcond
      exact ⟨w, hw, hcond.1, hcond.2, Option.some.inj h'⟩
    · exact absurd h' (by simp)
  | leaveWallet number popped =>
    simp only [react, Option.bind_eq_some_iff] at h'
    obtain ⟨w, hw, h'⟩ := h'
    split at h'
    · rename_i hon
      exact ⟨w, hw, hon, (Except.ok.inj (Option.some.inj h')).symm⟩
    · exact absurd h' (by simp)
  | cardListReply call reply =>
    simp only [react, Option.map_eq_some_iff] at h'
    obtain ⟨number, hcall, h'⟩ := h'
    exact ⟨number, hcall, h'⟩
  | selectRow number row =>
    simp only [react, Option.bind_eq_some_iff] at h'
    obtain ⟨w, hw, h'⟩ := h'
    split at h'
    · rename_i hon
      simp only [Option.some.injEq, bind_eq_ok, pure_eq_ok] at h'
      obtain ⟨w', hw', rfl⟩ := h'
      exact ⟨w, w', hw, hon, hw', rfl⟩
    · exact absurd h' (by simp)
  | deleteRow number row =>
    simp only [react, Option.bind_eq_some_iff] at h'
    obtain ⟨w, hw, h'⟩ := h'
    split at h'
    · rename_i hon
      exact ⟨w, hw, hon, Option.some.inj h'⟩
    · exact absurd h' (by simp)
  | deleteReply call success =>
    simp only [react, Option.map_eq_some_iff, Prod.exists] at h'
    obtain ⟨number, row, _, h'⟩ := h'
    exact ⟨number, row, h'⟩
  | addCardFailed =>
    simp only [react] at h'
    split at h'
    · exact absurd h' (by simp)
    · exact (Except.ok.inj (Option.some.inj h')).symm

/-- The events that make a dashboard, or change one. -/
def touchesDashboards : AppEvent → Bool
  | .session _ _ => true
  | .signInReply _ => true
  | .pushDashboard => true
  | .nextPressed _ => true
  | _ => false

/-- The others leave the dashboards and the sockets alone, and what is shared through the
application delegate. -/
theorem untouched {e : AppEvent} (h : StepOf distance a b e) (he : touchesDashboards e = false) :
    b.sessions = a.sessions ∧ b.device.appDelegate = a.device.appDelegate ∧
      b.sockets = a.sockets := by
  have hanswer : ∀ {c : ClientApp} {number : Nat} {f : Wallet → Except Trap Wallet},
      c.answerWallet number f = .ok b →
        b.sessions = c.sessions ∧ b.device.appDelegate = c.device.appDelegate ∧
          b.sockets = c.sockets := by
    intro c number f hc
    rcases answerWallet_inv hc with ⟨_, rfl⟩ | ⟨_, _, _, _, rfl⟩
    · exact ⟨rfl, rfl, rfl⟩
    · exact ⟨rfl, rfl, rfl⟩
  cases e with
  | session i e => exact absurd he (by simp [touchesDashboards])
  | signInReply reply => exact absurd he (by simp [touchesDashboards])
  | pushDashboard => exact absurd he (by simp [touchesDashboards])
  | nextPressed kits => exact absurd he (by simp [touchesDashboards])
  | logout =>
    obtain ⟨_, rfl⟩ := h
    exact ⟨rfl, rfl, rfl⟩
  | profileReply call reply =>
    rcases profileReply_inv h with rfl | ⟨profile, _, _, rfl⟩
    · exact ⟨rfl, rfl, rfl⟩
    · exact ⟨rfl, rfl, rfl⟩
  | openWallet =>
    obtain rfl := openWallet_inv h.2.2
    exact ⟨rfl, rfl, rfl⟩
  | uncoverWallet number =>
    obtain ⟨w, _, _, _, hw⟩ := h
    obtain rfl := showWallet_inv hw
    exact ⟨rfl, rfl, rfl⟩
  | leaveWallet number popped =>
    obtain ⟨w, _, _, rfl⟩ := h
    exact ⟨rfl, rfl, rfl⟩
  | cardListReply call reply =>
    obtain ⟨number, _, hw⟩ := h
    have hkept := hanswer hw
    exact hkept
  | selectRow number row =>
    obtain ⟨_, _, _, _, _, rfl⟩ := h
    exact ⟨rfl, rfl, rfl⟩
  | deleteRow number row =>
    obtain ⟨w, _, _, hw⟩ := h
    obtain ⟨_, _, rfl⟩ := deleteRow_inv hw
    exact ⟨rfl, rfl, rfl⟩
  | deleteReply call success =>
    obtain ⟨number, row, hw⟩ := h
    have hkept := hanswer hw
    exact hkept
  | addCardFailed =>
    obtain rfl : b = a.addCardFailed := h
    exact ⟨rfl, rfl, rfl⟩

/-! ## 3. One dashboard -/

/-- Two states of a dashboard that look the same from outside, but for what it was lent. -/
structure Alike (s t : ClientSession) : Prop where
  location : t.dashboard.clientLocation = s.dashboard.clientLocation
  requests : t.requests = s.requests
  frames : t.frames = s.frames
  sheets : t.sheets = s.sheets
  locationDelegate : t.locationDelegate = s.locationDelegate

theorem Alike.refl (s : ClientSession) : Alike s s := ⟨rfl, rfl, rfl, rfl, rfl⟩

/-- The events that make a dashboard. -/
def makesDashboard : AppEvent → Bool
  | .signInReply _ => true
  | .pushDashboard => true
  | _ => false

/-- What the event does to the dashboard with number `i`. -/
inductive SessionStep (distance : CLLocation → CLLocation → ℚ) (a b : ClientApp) (i : Nat)
    (t : ClientSession) : AppEvent → Prop where
  | alike {e : AppEvent} {s : ClientSession} (listed : a.sessions[i]? = some s)
      (same : Alike s t) : SessionStep distance a b i t e
  | moved {s : ClientSession} {e : ClientEvent} (own : isOwnEvent e = true)
      (listed : a.sessions[i]? = some s)
      (step : (ClientSession.machine distance).Step (a.lend s) e t) :
      SessionStep distance a b i t (.session i e)
  | fresh {e : AppEvent} (makes : makesDashboard e = true) (number : i = a.sessions.length)
      (new : t = { device := b.device }) : SessionStep distance a b i t e

/-- Where the dashboard with number `i` comes from. -/
inductive SessionMove (distance : CLLocation → CLLocation → ℚ) (a b : ClientApp) (i : Nat)
    (t : ClientSession) : AppEvent → Prop where
  | kept {e : AppEvent} (listed : a.sessions[i]? = some t) : SessionMove distance a b i t e
  | moved {s : ClientSession} {e : ClientEvent} (own : isOwnEvent e = true)
      (listed : a.sessions[i]? = some s)
      (step : (ClientSession.machine distance).Step (a.lend s) e t) :
      SessionMove distance a b i t (.session i e)
  | notified {e : AppEvent} {s : ClientSession} {d : ClientDashboard} {products : List ProductKit}
      (listed : a.sessions[i]? = some s) (shown : s.dashboard.showSelectedProducts products = .ok d)
      (after : t = s.put d) : SessionMove distance a b i t e
  | fresh {e : AppEvent} (makes : makesDashboard e = true) (number : i = a.sessions.length)
      (new : t = { device := b.device }) : SessionMove distance a b i t e

/-- A dashboard that was appended is the new one, or was there before. -/
theorem of_append {e : AppEvent} {i : Nat} {t s : ClientSession} (makes : makesDashboard e = true)
    (hs : s = { device := b.device }) (ht : (a.sessions ++ [s])[i]? = some t) :
    SessionMove distance a b i t e := by
  rw [List.getElem?_append] at ht
  split at ht
  · exact .kept ht
  · rename_i hge
    have hlt : i - a.sessions.length < 1 := (List.getElem?_eq_some_iff.mp ht).1
    obtain rfl : t = s := List.mem_singleton.mp (List.mem_of_getElem? ht)
    exact .fresh makes (by omega) hs

/-- **A dashboard handles its own events, and is left alone by the others**, but for a
notification. -/
theorem step_sessionMove {e : AppEvent} (h : (machine distance).Step a e b) {i : Nat}
    {t : ClientSession} (ht : b.sessions[i]? = some t) : SessionMove distance a b i t e := by
  have hof : StepOf distance a b e := step_inv h
  cases e with
  | session k ev =>
    obtain ⟨hown, s, s', hs, hstep, rfl⟩ := hof
    by_cases hk : k = i
    · subst hk
      have hlt : k < a.sessions.length := (List.getElem?_eq_some_iff.mp hs).1
      simp only [store, List.getElem?_set_self hlt, Option.some.injEq] at ht
      subst ht
      exact .moved hown hs hstep
    · simp only [store, List.getElem?_set_ne hk] at ht
      exact .kept ht
  | signInReply reply =>
    rcases signInReply_inv hof.2 with ⟨_, rfl⟩ | ⟨_, device, _, _, _, rfl⟩
    · exact .kept ht
    · exact of_append (by simp [makesDashboard]) rfl ht
  | pushDashboard =>
    obtain ⟨_, rfl⟩ := pushDashboard_inv hof.2
    exact of_append (by simp [makesDashboard]) rfl ht
  | nextPressed kits =>
    obtain ⟨charge, selected, _, ⟨rfl, _⟩ | ⟨products, sessions, _, _, hnotify, rfl⟩⟩ :=
      nextPressed_inv hof
    · exact .kept ht
    · have hall := notifyProducts_inv hnotify
      have hi : i < sessions.length := (List.getElem?_eq_some_iff.mp ht).1
      have hi' : i < a.sessions.length := by
        have hlength := hall.length_eq
        omega
      obtain ⟨d, hd, hput⟩ := hall.get hi' hi
      obtain rfl : sessions[i] = t := (List.getElem?_eq_some_iff.mp ht).2
      exact .notified (List.getElem?_eq_getElem hi') hd hput
  | _ =>
    rw [(untouched hof rfl).1] at ht
    exact .kept ht

/-- From outside, the counts of a notification are not seen. -/
theorem step_session {e : AppEvent} (h : (machine distance).Step a e b) {i : Nat}
    {t : ClientSession} (ht : b.sessions[i]? = some t) : SessionStep distance a b i t e := by
  cases step_sessionMove h ht with
  | kept listed => exact .alike listed (.refl t)
  | moved own listed step => exact .moved own listed step
  | notified listed shown after =>
    obtain ⟨_, _, _, _, _, _, rfl⟩ := ClientDashboard.showSelectedProducts_inv shown
    refine .alike listed ?_
    rw [after]
    exact ⟨rfl, rfl, rfl, rfl, rfl⟩
  | fresh makes number new => exact .fresh makes number new

/-- No dashboard is ever forgotten. -/
theorem sessions_length_le {e : AppEvent} (h : (machine distance).Step a e b) :
    a.sessions.length ≤ b.sessions.length := by
  have hof : StepOf distance a b e := step_inv h
  cases e with
  | session k ev =>
    obtain ⟨_, s, t, _, _, rfl⟩ := hof
    simp [store]
  | signInReply reply =>
    rcases signInReply_inv hof.2 with ⟨_, rfl⟩ | ⟨_, _, _, _, _, rfl⟩
    · exact le_refl _
    · simp
  | pushDashboard =>
    obtain ⟨_, rfl⟩ := pushDashboard_inv hof.2
    simp
  | nextPressed kits =>
    obtain ⟨charge, selected, _, ⟨rfl, _⟩ | ⟨products, sessions, _, _, hnotify, rfl⟩⟩ :=
      nextPressed_inv hof
    · exact le_refl _
    · exact (notifyProducts_inv hnotify).length_eq.le
  | _ => rw [(untouched hof rfl).1]

/-- Only a dashboard's own event reaches the sockets. -/
theorem sockets_eq {e : AppEvent} (h : (machine distance).Step a e b)
    (he : ∀ i ev, e ≠ .session i ev) : b.sockets = a.sockets := by
  have hof : StepOf distance a b e := step_inv h
  cases e with
  | session k ev => exact absurd rfl (he k ev)
  | signInReply reply =>
    rcases signInReply_inv hof.2 with ⟨_, rfl⟩ | ⟨_, _, _, _, _, rfl⟩
    · rfl
    · rfl
  | pushDashboard =>
    obtain ⟨_, rfl⟩ := pushDashboard_inv hof.2
    rfl
  | nextPressed kits =>
    obtain ⟨charge, selected, _, ⟨rfl, _⟩ | ⟨products, sessions, _, _, _, rfl⟩⟩ :=
      nextPressed_inv hof
    · rfl
    · rfl
  | _ => exact (untouched hof rfl).2.2

/-- **The app never touches the flag.** -/
theorem doesRequestExist_eq {e : AppEvent} (h : (machine distance).Step a e b) :
    b.device.appDelegate.doesRequestExist = a.device.appDelegate.doesRequestExist := by
  have hof : StepOf distance a b e := step_inv h
  cases e with
  | session k ev =>
    obtain ⟨hown, s, t, _, hstep, rfl⟩ := hof
    exact ClientSession.doesRequestExist_eq hstep rfl (ne_elsewhere hown)
  | signInReply reply =>
    rcases signInReply_inv hof.2 with ⟨_, rfl⟩ | ⟨_, device, _, _, hdevice, rfl⟩
    · rfl
    · rw [hdevice]
  | pushDashboard =>
    obtain ⟨_, rfl⟩ := pushDashboard_inv hof.2
    rfl
  | nextPressed kits =>
    obtain ⟨charge, selected, _, ⟨rfl, _⟩ | ⟨products, sessions, _, _, _, rfl⟩⟩ :=
      nextPressed_inv hof
    · rfl
    · rfl
  | _ => rw [(untouched hof rfl).2.1]

end ClientApp

end WeatherAccommodation
