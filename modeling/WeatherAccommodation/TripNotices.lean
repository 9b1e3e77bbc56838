/-
# Telling the other side

The client-detail sheet, the provider-detail sheet and the cancel-reason screen write a frame and
change screens in the same call, and none of them looks at the connection.  A trip sheet that its
own user closes owes the other side a `trip_cancelled` for its trip, and a one-time code that opens
the start-trip screen owes a `reached`.

`Covers` relates the cancel-reason screen to the sheet below it, so that its frame is about the trip
whose sheet goes.  With it, a run of either app leaves nothing untold exactly if the request socket
is connected whenever a sheet is closed or a code is typed (`notices_told`); a code that is typed
after the socket has dropped starts a trip that the client never hears of (`code_untold`).
-/
import WeatherAccommodation.Library.Link
import WeatherAccommodation.ResumedTrip
import WeatherAccommodation.Client.SecondTrip
import WeatherAccommodation.Client.Screens
import WeatherAccommodation.Provider.LiveLocation

namespace WeatherAccommodation

open Foundation Reactive

/-! ## 1. Sheets, and what covers them -/

/-- What the step owes the other side. -/
inductive TripNotice where
  | cancelled (trip : Dict)
  | reached (trip : Dict)
  deriving Repr

/-- A sheet: whether it is on screen, and its trip. -/
abbrev SheetFace := Bool × Dict

/-- The trips of the sheets that were on screen and are not. -/
def closedTrips (before after : List SheetFace) : List Dict :=
  (before.zip after).filterMap fun ((was, trip), (is, _)) => if was && !is then some trip else none

/-- The sheets on screen have one trip, and the cancel-reason screen is over a sheet and has its
trip. -/
structure Covers (sheets : List SheetFace) (alert : Option Dict) : Prop where
  agree : ∀ t t', (true, t) ∈ sheets → (true, t') ∈ sheets → t = t'
  above : ∀ a t, alert = some a → (true, t) ∈ sheets → t = a
  below : ∀ a, alert = some a → ∃ t, (true, t) ∈ sheets

/-- What a step does to the sheets and to the cancel-reason screen. -/
inductive CoverStep (before : List SheetFace) (alert : Option Dict) (after : List SheetFace)
    (alert' : Option Dict) : Prop
  | kept (sheets : after = before) (h : alert' = alert ∨ alert' = none)
  | asked {t : Dict} (sheets : after = before) (below : (true, t) ∈ before) (h : alert' = some t)
  | gone (sheets : ∀ t, (true, t) ∈ after → (true, t) ∈ before)
      (h : alert' = none ∨ alert' = alert ∧ ∃ t, (true, t) ∈ after)
  | opened {t : Dict} (clear : ∀ t, (true, t) ∉ before) (sheets : after = before ++ [(true, t)])
      (h : alert' = none ∨ alert' = alert)

section Faces

variable {before after : List SheetFace} {alert alert' : Option Dict} {t : Dict}

theorem mem_closedTrips : t ∈ closedTrips before after ↔
    ∃ (j : Nat) (t' : Dict), before[j]? = some (true, t) ∧ after[j]? = some (false, t') := by
  constructor
  · intro h
    obtain ⟨⟨⟨was, t₀⟩, ⟨is, t'⟩⟩, hmem, htest⟩ := List.mem_filterMap.mp h
    obtain ⟨j, hj⟩ := List.mem_iff_getElem?.mp hmem
    obtain ⟨hbefore, hafter⟩ := List.getElem?_zip_eq_some.mp hj
    cases was with
    | false => exact absurd htest (by simp)
    | true =>
      cases is with
      | true => exact absurd htest (by simp)
      | false =>
        obtain rfl : t₀ = t := by simpa using htest
        exact ⟨j, t', hbefore, hafter⟩
  · rintro ⟨j, t', hbefore, hafter⟩
    refine List.mem_filterMap.mpr ⟨((true, t), (false, t')), ?_, by simp⟩
    exact List.mem_iff_getElem?.mpr ⟨j, List.getElem?_zip_eq_some.mpr ⟨hbefore, hafter⟩⟩

/-- Nothing closes while the sheets stay. -/
theorem closedTrips_self : closedTrips before before = [] := by
  refine List.eq_nil_iff_forall_not_mem.mpr fun t h => ?_
  obtain ⟨j, t', hbefore, hafter⟩ := mem_closedTrips.mp h
  exact absurd (hbefore.symm.trans hafter) (by simp)

/-- A sheet that alone is dismissed. -/
theorem closedTrips_set {j : Nat} (h : before[j]? = some (true, t)) :
    closedTrips before (before.set j (false, t)) ≠ [] ∧
      ∀ t' ∈ closedTrips before (before.set j (false, t)), t' = t := by
  have hlt : j < before.length := (List.getElem?_eq_some_iff.mp h).1
  constructor
  · refine List.ne_nil_of_mem (a := t) (mem_closedTrips.mpr ⟨j, t, h, ?_⟩)
    exact List.getElem?_set_self hlt
  · intro t' ht'
    obtain ⟨k, t'', hbefore, hafter⟩ := mem_closedTrips.mp ht'
    by_cases hjk : j = k
    · subst hjk
      simpa using hbefore.symm.trans h
    · rw [List.getElem?_set_ne hjk] at hafter
      exact absurd (hbefore.symm.trans hafter) (by simp)

/-- All sheets are dismissed under the cancel-reason screen. -/
theorem Covers.closedTrips_all (h : Covers before alert) {a : Dict} (ha : alert = some a) :
    closedTrips before (before.map fun s => (false, s.2)) ≠ [] ∧
      ∀ t ∈ closedTrips before (before.map fun s => (false, s.2)), t = a := by
  constructor
  · obtain ⟨t, ht⟩ := h.below a ha
    obtain ⟨j, hj⟩ := List.mem_iff_getElem?.mp ht
    exact List.ne_nil_of_mem (a := t) (mem_closedTrips.mpr ⟨j, t, hj, by simp [hj]⟩)
  · intro t ht
    obtain ⟨j, t', hbefore, _⟩ := mem_closedTrips.mp ht
    exact h.above a t ha (List.mem_iff_getElem?.mpr ⟨j, hbefore⟩)

theorem covers_nil : Covers [] none where
  agree := by simp
  above := by simp
  below := by simp

/-- **The cancel-reason screen stays over its sheet.** -/
theorem CoverStep.covers (hstep : CoverStep before alert after alert') (h : Covers before alert) :
    Covers after alert' := by
  cases hstep with
  | kept sheets halert =>
    subst sheets
    rcases halert with rfl | rfl
    · exact h
    · exact ⟨h.agree, by simp, by simp⟩
  | @asked t sheets below halert =>
    subst sheets halert
    refine ⟨h.agree, ?_, ?_⟩
    · intro a t' ha ht'
      obtain rfl : t = a := Option.some.inj ha
      exact h.agree t' t ht' below
    · exact fun _ _ => ⟨t, below⟩
  | gone sheets halert =>
    refine ⟨fun t t' ht ht' => h.agree t t' (sheets t ht) (sheets t' ht'), ?_, ?_⟩
    · intro a t ha ht
      rcases halert with hnone | ⟨hsame, _⟩
      · exact absurd (hnone.symm.trans ha) (by simp)
      · exact h.above a t (hsame.symm.trans ha) (sheets t ht)
    · intro a ha
      rcases halert with hnone | ⟨_, hleft⟩
      · exact absurd (hnone.symm.trans ha) (by simp)
      · exact hleft
  | @opened t clear sheets halert =>
    subst sheets
    have hnone : ∀ a, alert' ≠ some a := by
      rintro a ha
      rcases halert with hnone | hsame
      · exact absurd (hnone.symm.trans ha) (by simp)
      · obtain ⟨t', ht'⟩ := h.below a (hsame.symm.trans ha)
        exact clear t' ht'
    have honly : ∀ t', (true, t') ∈ before ++ [(true, t)] → t' = t := by
      intro t' ht'
      rcases List.mem_append.mp ht' with hold | hnew
      · exact absurd hold (clear t')
      · simpa using hnew
    refine ⟨fun t₁ t₂ h₁ h₂ => (honly t₁ h₁).trans (honly t₂ h₂).symm, ?_, ?_⟩
    · exact fun a _ ha => absurd ha (hnone a)
    · exact fun a ha => absurd ha (hnone a)

/-- A sheet that is dismissed, or was, and is the only one to change. -/
theorem mem_of_set {j : Nat} {t' : Dict} (h : (true, t) ∈ before.set j (false, t')) :
    (true, t) ∈ before := by
  rcases List.mem_or_eq_of_mem_set h with hold | hnew
  · exact hold
  · exact absurd hnew (by simp)

theorem set_same {α : Type} {xs : List α} {j : Nat} {x : α} (h : xs[j]? = some x) :
    xs.set j x = xs := by
  obtain ⟨hlt, rfl⟩ := List.getElem?_eq_some_iff.mp h
  exact List.set_getElem_self hlt

end Faces

/-! ## 2. The provider's app -/

namespace ProviderPhone

variable {distance : CLLocation → CLLocation → ℚ} {p q : ProviderPhone} {e : PhoneEvent}

def sheetFaces (p : ProviderPhone) : List SheetFace :=
  p.app.sheets.map fun s => (s.isPresented, s.currentRequest)

/-- The trip of the cancel-reason screen. -/
def askedTrip (p : ProviderPhone) : Option Dict :=
  p.alert.bind fun m => (p.alerts.map RequestCancelAlert.currentRequest)[m]?

/-- The frame names the trip. -/
def carries : ProviderFrame → TripNotice → Bool
  | .cancelled _ tripId _ _ _, .cancelled trip => Dict.get? trip "TripId" == some tripId
  | .reached tripId, .reached trip => Dict.get? trip "TripId" == some tripId
  | _, _ => false

/-- What a step owes: a cancellation for every sheet that its user closes, and a `reached` for every
start-trip screen that a code opens. -/
def owed (p : ProviderPhone) (e : PhoneEvent) (q : ProviderPhone) : List TripNotice :=
  match e with
  | .app (.cancelTrip _ _) | .btnSubmitPressed _ _ =>
    (closedTrips p.sheetFaces q.sheetFaces).map .cancelled
  | .app (.textFieldEditingChanged _ _) =>
    (q.app.trips.drop p.app.trips.length).map fun screen => .reached screen.currentRequest
  | _ => []

def duties : Duties ProviderPhone PhoneEvent ProviderFrame TripNotice where
  frames := fun p => p.app.frames
  owed := owed
  carries := carries

/-- The user closes a sheet, or types its code. -/
def leavesSheet (p : ProviderPhone) : PhoneEvent → Bool
  | .app (.cancelTrip _ _) => true
  | .btnSubmitPressed _ dismissesSheet => dismissesSheet
  | e => p.typesCode e

/-- The callbacks of a socket come after what they report. -/
def comesOver (link : Link) : PhoneEvent → Bool
  | .app (.onConnect socket) => link.opened.contains socket
  | .app (.onMessage socket _ _ _) => link.opened.contains socket
  | .didDisconnect socket _ => !link.connected.contains socket
  | _ => true

/-- The phone over sockets that come and go. -/
def linked (distance : CLLocation → CLLocation → ℚ) :
    Machine (ProviderPhone × Link) (LinkEvent PhoneEvent) Trap :=
  (machine distance).linked (fun p => p.app.sockets.sockets.length) comesOver

theorem mem_sheetFaces {t : Dict} (h : (true, t) ∈ p.sheetFaces) : p.sheetIsPresented = true := by
  obtain ⟨s, hs, hface⟩ := List.mem_map.mp h
  exact List.any_eq_true.mpr ⟨s, hs, congrArg Prod.fst hface⟩

theorem exists_mem_sheetFaces (h : p.sheetIsPresented = true) : ∃ t, (true, t) ∈ p.sheetFaces := by
  obtain ⟨s, hs, hpresented⟩ := List.any_eq_true.mp h
  exact ⟨s.currentRequest, List.mem_map.mpr ⟨s, hs, by rw [hpresented]⟩⟩

/-- The faces of the sheets, when one of them changes. -/
theorem sheetFaces_of_set {j : Nat} {s' : ClientDetailSheet}
    (h : q.app.sheets = p.app.sheets.set j s') :
    q.sheetFaces = p.sheetFaces.set j (s'.isPresented, s'.currentRequest) := by
  rw [sheetFaces, h, List.map_set]
  rfl

/-- The sheets change, and the cancel-reason screen goes, or a sheet is left below it. -/
theorem cover_of_sheets (h : SheetsStep p q e)
    (halert : q.askedTrip = none ∨ q.askedTrip = p.askedTrip ∧ ∃ t, (true, t) ∈ q.sheetFaces) :
    CoverStep p.sheetFaces p.askedTrip q.sheetFaces q.askedTrip := by
  cases h with
  | same h => exact .gone (fun t ht => by rwa [sheetFaces, h] at ht) halert
  | @one j s s' listed move h =>
    refine .gone (fun t ht => ?_) halert
    rw [sheetFaces_of_set h] at ht
    have hface : p.sheetFaces[j]? = some (s.isPresented, s.currentRequest) := by
      simp [sheetFaces, listed]
    cases move with
    | stay same =>
      subst same
      rwa [set_same hface] at ht
    | told _ _ told =>
      subst told
      simp only [ClientDetailSheet.tracingLocation] at ht
      rwa [set_same hface] at ht
    | dismissed _ dismissed =>
      subst dismissed
      exact mem_of_set ht
  | all _ h =>
    refine .gone (fun t ht => ?_) halert
    rw [sheetFaces, h, List.map_map] at ht
    exact absurd ht (by simp [ClientDetailSheet.dismiss])
  | @opened s i d opens presented h =>
    have hclear : p.sheetIsPresented = false := by
      have hpresents := opens.presents
      simp only [canPresent, tabBarIsOnTop, Bool.and_eq_true, Bool.not_eq_true'] at hpresents
      exact hpresents.2.2
    refine .opened (t := s.currentRequest) (fun t ht => ?_) ?_ (halert.imp_right And.left)
    · exact absurd (mem_sheetFaces ht) (by simp [hclear])
    · simp [sheetFaces, h, presented]

/-- **The cancel-reason screen and the sheets.** -/
theorem cover_step (h : (machine distance).Step p e q) :
    CoverStep p.sheetFaces p.askedTrip q.sheetFaces q.askedTrip := by
  have hsheets := step_sheets h
  have hof : StepOf distance p q e := step_inv h
  cases e with
  | app ev =>
    obtain ⟨_, b, hb, rfl⟩ := hof
    refine cover_of_sheets hsheets ?_
    by_cases hon : b.sheets.any ClientDetailSheet.isPresented = true
    · refine Or.inr ⟨?_, exists_mem_sheetFaces hon⟩
      simp [askedTrip, follow, hon]
    · exact Or.inl (by simp [askedTrip, follow, hon])
  | lateDirections i call =>
    obtain ⟨_, _, _, hlate⟩ := hof
    obtain rfl := lateDirections_inv hlate
    exact .kept rfl (Or.inl rfl)
  | didUpdateLocations l =>
    cases didUpdateLocations_inv hof with
    | dashboard _ _ _ after =>
      rw [after]
      exact .kept rfl (Or.inl rfl)
    | @sheet j sheet _ listed after =>
      rw [after]
      refine .kept ?_ (Or.inl rfl)
      have hface : p.sheetFaces[j]? = some (sheet.isPresented, sheet.currentRequest) := by
        simp [sheetFaces, listed]
      exact List.map_set.trans (set_same hface)
    | @alert m alert _ _ listed after =>
      rw [after]
      refine .kept rfl (Or.inl ?_)
      have htrip : (p.alerts.map RequestCancelAlert.currentRequest)[m]? =
          some alert.currentRequest := by simp [listed]
      simp only [askedTrip, List.map_set]
      exact congrArg (fun trips => p.alert.bind fun m => trips[m]?) (set_same htrip)
    | nobody _ _ _ _ after =>
      rw [after]
      exact .kept rfl (Or.inl rfl)
  | didDisconnect socket code =>
    obtain ⟨a, rfl, rfl | ⟨j, d₀, _, hd₀, ha⟩⟩ := didDisconnect_inv hof
    · exact .kept rfl (Or.inl rfl)
    · rcases ProviderApp.dashboardDisconnect_inv ha with rfl | ⟨_, rfl⟩ | rfl
      · exact .kept rfl (Or.inl rfl)
      · exact .kept rfl (Or.inl rfl)
      · exact .kept rfl (Or.inl rfl)
  | selectTab index takesLocation =>
    obtain ⟨_, rfl⟩ := hof
    obtain ⟨_, _, htake⟩ := takeIf_eq { p with selectedIndex := index } takesLocation
    rw [htake]
    exact .kept rfl (Or.inl rfl)
  | pushOther takesLocation =>
    obtain ⟨_, rfl⟩ := hof
    obtain ⟨_, _, htake⟩ := takeIf_eq { p with pushed := .other :: p.pushed } takesLocation
    rw [htake]
    exact .kept rfl (Or.inl rfl)
  | popViewController =>
    obtain ⟨_, rfl⟩ := hof
    exact .kept rfl (Or.inl rfl)
  | logout =>
    obtain ⟨_, rfl⟩ := hof
    exact cover_of_sheets hsheets (Or.inl rfl)
  | goBackToMainViewController =>
    obtain rfl : q = p.goBackToMainViewController := hof
    exact cover_of_sheets hsheets (Or.inl rfl)
  | elsewhere defaults =>
    obtain rfl : q = { p with app := p.app.setDefaults defaults } := hof
    exact .kept rfl (Or.inl rfl)
  | btnNavigationPressed i =>
    obtain ⟨_, _, _, hpress⟩ := hof
    obtain ⟨_, _, _, rfl⟩ := btnNavigationPressed_inv hpress
    exact .kept rfl (Or.inl rfl)
  | notifyWhenProviderHasReached j =>
    obtain rfl : q = { p with reached := j :: p.reached } := hof
    exact .kept rfl (Or.inl rfl)
  | cancelRequest j sinceAccepted sinceReached =>
    obtain ⟨sheet, listed, presented, hcancel⟩ := hof
    rcases cancelRequest_inv hcancel with rfl | rfl
    · exact .kept rfl (Or.inl rfl)
    · refine .asked rfl (t := sheet.currentRequest) ?_ ?_
      · exact List.mem_map.mpr ⟨sheet, List.mem_of_getElem? listed, by rw [presented]⟩
      · simp [askedTrip, openAlert, take]
  | leftBarItemDidTap j =>
    obtain ⟨_, _, _, halert, rfl⟩ := hof
    exact cover_of_sheets hsheets (Or.inl (by simp [askedTrip, leftBarItemDidTap, halert]))
  | dismissAlert =>
    obtain rfl : q = { p with alert := none } := hof
    exact .kept rfl (Or.inr rfl)
  | btnSubmitPressed noShow dismisses =>
    obtain ⟨_, _, _, _, hsubmit⟩ := hof
    obtain ⟨_, _, _, _, a, _, rfl, rfl⟩ := btnSubmitPressed_inv hsubmit
    exact cover_of_sheets hsheets (Or.inl rfl)

/-- A code opens one start-trip screen, and a step that is none of the code's opens none here. -/
theorem owed_code {j : Nat} {text : String}
    (h : (machine distance).Step p (.app (.textFieldEditingChanged j text)) q) :
    if p.typesCode (.app (.textFieldEditingChanged j text)) then
      duties.Writes p (.app (.textFieldEditingChanged j text)) q
        p.app.sockets.clientproviderRequestSocket
    else owed p (.app (.textFieldEditingChanged j text)) q = [] := by
  obtain ⟨_, b, hb, rfl⟩ : StepOf distance p q (.app (.textFieldEditingChanged j text)) :=
    step_inv h
  obtain ⟨sheet, listed, _, hedit⟩ : ProviderApp.StepOf distance p.app b
    (.textFieldEditingChanged j text) := ProviderApp.step_inv hb
  have htypes : p.typesCode (.app (.textFieldEditingChanged j text)) = sheet.acceptsEdit text := by
    simp [typesCode, ProviderApp.typesCode, listed]
  rw [htypes]
  split
  · rename_i haccept
    obtain ⟨socket, tripId, hsocket, htrip, hframes, htrips⟩ :=
      ProviderApp.textFieldEditingChanged_code hedit haccept
    have howed : owed p (.app (.textFieldEditingChanged j text))
        (p.follow (.textFieldEditingChanged j text) b) = [.reached sheet.currentRequest] := by
      simp [owed, follow, htrips]
    refine ⟨by simp [duties, howed], socket, .reached tripId, hsocket, hframes, ?_⟩
    intro n hn
    obtain rfl : n = .reached sheet.currentRequest := by simpa [duties, howed] using hn
    simp [duties, carries, htrip]
  · rename_i haccept
    simp only [ProviderApp.textFieldEditingChanged, if_neg haccept, pure_eq_ok] at hedit
    subst hedit
    simp [owed, follow]

/-- The sheet that is cancelled is the one that closes. -/
theorem writes_cancelTrip {j : Nat} {reason : String}
    (h : (machine distance).Step p (.app (.cancelTrip j reason)) q) :
    duties.Writes p (.app (.cancelTrip j reason)) q p.app.sockets.clientproviderRequestSocket := by
  obtain ⟨_, b, hb, rfl⟩ : StepOf distance p q (.app (.cancelTrip j reason)) := step_inv h
  obtain ⟨sheet, listed, hcancel⟩ : ProviderApp.StepOf distance p.app b (.cancelTrip j reason) :=
    ProviderApp.step_inv hb
  obtain ⟨sheet', listed', presented⟩ := ProviderApp.presented_of_cancelTrip hb
  obtain rfl : sheet = sheet' := Option.some.inj (listed.symm.trans listed')
  obtain ⟨socket, clientId, tripId, providerId, ⟨hsocket, _, htrip, _⟩, rfl⟩ :=
    ProviderApp.cancelTrip_inv hcancel
  have hface : p.sheetFaces[j]? = some (true, sheet.currentRequest) := by
    simp [sheetFaces, listed, presented]
  obtain ⟨hsome, honly⟩ := closedTrips_set hface
  have hfaces : (p.follow (.cancelTrip j reason) ((p.app.write socket (.cancelled clientId tripId
      providerId sheet.clientLocation reason)).putSheet j sheet.dismiss)).sheetFaces =
      p.sheetFaces.set j (false, sheet.currentRequest) :=
    @sheetFaces_of_set p _ j sheet.dismiss rfl
  refine ⟨?_, socket, _, hsocket, rfl, ?_⟩
  · simpa [duties, owed, hfaces] using hsome
  · intro n hn
    obtain ⟨t, ht, rfl⟩ : ∃ t ∈ closedTrips p.sheetFaces (p.sheetFaces.set j (false,
        sheet.currentRequest)), .cancelled t = n := by simpa [duties, owed, hfaces] using hn
    obtain rfl := honly t ht
    simp [duties, carries, htrip]

/-- The sheets that go with the cancel-reason screen have its trip. -/
theorem writes_submitted (hcovers : Covers p.sheetFaces p.askedTrip) {noShow : Bool}
    (h : (machine distance).Step p (.btnSubmitPressed noShow true) q) :
    duties.Writes p (.btnSubmitPressed noShow true) q
      p.app.sockets.clientproviderRequestSocket := by
  obtain ⟨m, alert, shown, listed, hsubmit⟩ : StepOf distance p q (.btnSubmitPressed noShow true) :=
    step_inv h
  obtain ⟨socket, clientId, tripId, providerId, a, ⟨hsocket, _, htrip, _⟩, rfl, rfl⟩ :=
    btnSubmitPressed_inv hsubmit
  have hasked : p.askedTrip = some alert.currentRequest := by simp [askedTrip, shown, listed]
  obtain ⟨hsome, honly⟩ := hcovers.closedTrips_all hasked
  have hfaces : (p.app.sheets.map ClientDetailSheet.dismiss).map
      (fun s => (s.isPresented, s.currentRequest)) = p.sheetFaces.map fun s => (false, s.2) := by
    simp [sheetFaces, ClientDetailSheet.dismiss]
  refine ⟨?_, socket, _, hsocket, rfl, ?_⟩
  · rw [← hfaces] at hsome
    exact fun hnil => hsome (List.map_eq_nil_iff.mp hnil)
  · intro n hn
    obtain ⟨t, ht, rfl⟩ := List.mem_map.mp hn
    obtain rfl := honly t (hfaces ▸ ht)
    simp [duties, carries, htrip]

/-- **The provider's app writes what it owes, on its request socket.** -/
theorem discharges : duties.Discharges (machine distance) leavesSheet
    (fun p => p.app.sockets.clientproviderRequestSocket)
    (fun p => Covers p.sheetFaces p.askedTrip) where
  kept := fun _ _ _ hcovers h => (cover_step h).covers hcovers
  idle := by
    intro p e q _ h howes
    cases e with
    | app ev =>
      cases ev with
      | cancelTrip j reason => exact absurd howes (by simp [leavesSheet])
      | textFieldEditingChanged j text =>
        have hcode := owed_code h
        rwa [if_neg (by simpa [leavesSheet] using howes)] at hcode
      | _ => rfl
    | btnSubmitPressed noShow dismisses =>
      obtain rfl : dismisses = false := howes
      obtain ⟨_, _, _, _, hsubmit⟩ : StepOf distance p q (.btnSubmitPressed noShow false) :=
        step_inv h
      obtain ⟨_, _, _, _, _, _, rfl, rfl⟩ := btnSubmitPressed_inv hsubmit
      exact congrArg (List.map TripNotice.cancelled) closedTrips_self
    | _ => rfl
  writes := by
    intro p e q hcovers h howes
    cases e with
    | app ev =>
      cases ev with
      | cancelTrip j reason => exact writes_cancelTrip h
      | textFieldEditingChanged j text =>
        have hcode := owed_code h
        have htypes : p.typesCode (.app (.textFieldEditingChanged j text)) = true := howes
        rwa [if_pos htypes] at hcode
      | _ => exact absurd howes (by simp [leavesSheet, typesCode, ProviderApp.typesCode])
    | btnSubmitPressed noShow dismisses =>
      obtain rfl : dismisses = true := howes
      exact writes_submitted hcovers h
    | _ => exact absurd howes (by simp [leavesSheet, typesCode])

end ProviderPhone

/-! ## 3. The client's app -/

namespace ClientPhone

variable {distance : CLLocation → CLLocation → ℚ} {p q : ClientPhone} {e : ClientPhoneEvent}

def sheetFaces (p : ClientPhone) : List SheetFace :=
  p.sheets.map fun s => (s.isPresented, s.currentRequest)

/-- The trip of the cancel-reason screen. -/
def askedTrip (p : ClientPhone) : Option Dict :=
  p.alert.bind fun m => (p.alerts.map RequestCancelAlert.currentRequest)[m]?

/-- The frame names the trip; the client has no other frame. -/
def carries (frame : TripCancelFrame) : TripNotice → Bool
  | .cancelled trip => Dict.get? trip "TripId" == some frame.tripId
  | .reached _ => false

/-- What a step owes: a cancellation for every sheet that its user closes. -/
def owed (p : ClientPhone) (e : ClientPhoneEvent) (q : ClientPhone) : List TripNotice :=
  match e with
  | .cancelTrip _ | .btnSubmitPressed _ _ =>
    (closedTrips p.sheetFaces q.sheetFaces).map .cancelled
  | _ => []

def duties : Duties ClientPhone ClientPhoneEvent TripCancelFrame TripNotice where
  frames := ClientPhone.frames
  owed := owed
  carries := carries

/-- The user closes a sheet. -/
def leavesSheet (_ : ClientPhone) : ClientPhoneEvent → Bool
  | .cancelTrip _ => true
  | .btnSubmitPressed _ dismissesSheet => dismissesSheet
  | _ => false

/-- A message comes over a socket that was connected. -/
def comesOver (link : Link) : ClientPhoneEvent → Bool
  | .onMessage socket _ _ => link.opened.contains socket
  | _ => true

/-- The phone over sockets that come and go. -/
def linked (distance : CLLocation → CLLocation → ℚ) :
    Machine (ClientPhone × Link) (LinkEvent ClientPhoneEvent) Trap :=
  (machine distance).linked (fun p => p.app.sockets.sockets.length) comesOver

theorem mem_sheetFaces {t : Dict} (h : (true, t) ∈ p.sheetFaces) : p.sheetIsPresented = true := by
  obtain ⟨s, hs, hface⟩ := List.mem_map.mp h
  exact List.any_eq_true.mpr ⟨s, hs, congrArg Prod.fst hface⟩

theorem sheetFaces_of_set {j : Nat} {s' : TripProviderDetail} (h : q.sheets = p.sheets.set j s') :
    q.sheetFaces = p.sheetFaces.set j (s'.isPresented, s'.currentRequest) := by
  rw [sheetFaces, h, List.map_set]
  rfl

/-- A sheet that opens leaves what covers the others as it is. -/
theorem openSheet_over (p : ClientPhone) (i : Nat) (b : ClientApp) :
    (p.openSheet i b).askedTrip = p.askedTrip ∧
      ((p.openSheet i b).sheets = p.sheets ∨ ∃ sheet : TripProviderDetail,
        sheet.isPresented = true ∧ (p.openSheet i b).sheets = p.sheets ++ [sheet]) := by
  unfold openSheet
  split
  · exact ⟨rfl, Or.inr ⟨_, rfl, rfl⟩⟩
  · exact ⟨rfl, Or.inl rfl⟩

/-- A dashboard's event opens one sheet at most, and closes none. -/
theorem follow_over (p : ClientPhone) (k : Nat) (ev : ClientEvent) (b : ClientApp) :
    (p.follow (.session k ev) b).askedTrip = p.askedTrip ∧
      ((p.follow (.session k ev) b).sheets = p.sheets ∨ ∃ sheet : TripProviderDetail,
        sheet.isPresented = true ∧
          (p.follow (.session k ev) b).sheets = p.sheets ++ [sheet]) := by
  cases ev with
  | onlineProviderList call response =>
    cases response with
    | none => exact ⟨rfl, Or.inl rfl⟩
    | some list =>
      simp only [follow, followList]
      split
      · exact openSheet_over p k b
      · split
        · exact ⟨rfl, Or.inl rfl⟩
        · exact ⟨rfl, Or.inl rfl⟩
      · exact ⟨rfl, Or.inl rfl⟩
  | distanceReply call values success =>
    simp only [follow, followDistance]
    split
    · exact openSheet_over p k b
    · exact ⟨rfl, Or.inl rfl⟩
  | _ => exact ⟨rfl, Or.inl rfl⟩

/-- Where a sheet was opened, there was none on screen. -/
theorem SheetsStep.clear (h : SheetsStep p q) {sheet : TripProviderDetail}
    (hmore : q.sheets = p.sheets ++ [sheet]) : p.sheetIsPresented = false := by
  have hlength := congrArg List.length hmore
  cases h with
  | same h => exact absurd hlength (by simp [h])
  | put _ _ _ h => exact absurd hlength (by simp [h])
  | cleared h => exact absurd hlength (by simp [h])
  | opened visible _ _ _ =>
    simp only [isVisible, Bool.and_eq_true, Bool.not_eq_true'] at visible
    exact visible.2

/-- A message for the sheet: it goes if nothing is over it, and else what is over it goes. -/
theorem cover_of_dismiss (j : Nat) (sheet : TripProviderDetail)
    (hsheets : q.sheetFaces = (p.dismissFrom j sheet).sheetFaces)
    (halert : q.askedTrip = (p.dismissFrom j sheet).askedTrip) :
    CoverStep p.sheetFaces p.askedTrip q.sheetFaces q.askedTrip := by
  rw [hsheets, halert]
  unfold dismissFrom
  split
  · exact .kept rfl (Or.inr rfl)
  · rename_i hnone
    have hasked : p.askedTrip = none := by simp [askedTrip, Option.not_isSome_iff_eq_none.mp hnone]
    refine .gone (fun t ht => ?_) (Or.inl hasked)
    have hset : (p.putSheet j sheet.dismiss).sheetFaces =
        p.sheetFaces.set j (false, sheet.currentRequest) :=
      @sheetFaces_of_set p _ j sheet.dismiss rfl
    rw [hset] at ht
    exact mem_of_set ht

/-- A trip is not cancelled on a sheet that is covered. -/
theorem alert_of_cancelTrip {j : Nat} (h : (machine distance).Step p (.cancelTrip j) q) :
    p.alert = none := by
  have h' : react distance p (.cancelTrip j) = some (.ok q) := h
  simp only [react, Option.bind_eq_some_iff] at h'
  obtain ⟨sheet, _, h'⟩ := h'
  split at h'
  · rename_i hbutton
    exact hbutton.2
  · exact absurd h' (by simp)

/-- **The cancel-reason screen and the sheets.** -/
theorem cover_step (h : (machine distance).Step p e q) :
    CoverStep p.sheetFaces p.askedTrip q.sheetFaces q.askedTrip := by
  have hof : StepOf distance p q e := step_inv h
  cases e with
  | app ev =>
    obtain ⟨_, b, hb, rfl⟩ := hof
    cases ev with
    | session k ev =>
      obtain ⟨hasked, hsheets | ⟨sheet, presented, hsheets⟩⟩ := follow_over p k ev b
      · exact .kept (by rw [sheetFaces, hsheets]; rfl) (Or.inl hasked)
      · have hscreens := step_screens h (by rintro _ ⟨⟩; exact ⟨rfl, by simp⟩)
        have hclear := hscreens.sheets.clear hsheets
        refine .opened (t := sheet.currentRequest) (fun t ht => ?_) ?_ (Or.inr hasked)
        · exact absurd (mem_sheetFaces ht) (by simp [hclear])
        · simp [sheetFaces, hsheets, presented]
    | signInReply reply =>
      simp only [follow, followDashboard]
      split
      · exact .kept rfl (Or.inl rfl)
      · exact .kept rfl (Or.inl rfl)
    | pushDashboard =>
      simp only [follow, followDashboard]
      split
      · exact .kept rfl (Or.inl rfl)
      · exact .kept rfl (Or.inl rfl)
    | logout =>
      refine .gone (fun t ht => ?_) (Or.inl rfl)
      obtain ⟨s, hs, hface⟩ := List.mem_map.mp ht
      obtain ⟨s', _, rfl⟩ := List.mem_map.mp hs
      exact absurd hface (by simp [TripProviderDetail.dismiss])
    | _ => exact .kept rfl (Or.inl rfl)
  | tripStatusReply existing =>
    obtain rfl : q = p.tripStatusReply existing := hof
    cases existing with
    | none => exact .kept rfl (Or.inl rfl)
    | some trip => exact .kept rfl (Or.inl rfl)
  | didUpdateLocations l =>
    cases hof with
    | dashboard _ _ after =>
      rw [after]
      exact .kept rfl (Or.inl rfl)
    | @sheet j sheet _ listed after =>
      rw [after]
      refine .kept ?_ (Or.inl rfl)
      have hface : p.sheetFaces[j]? = some (sheet.isPresented, sheet.currentRequest) := by
        simp [sheetFaces, listed]
      exact List.map_set.trans (set_same hface)
    | @alert m alert _ listed after =>
      rw [after]
      refine .kept rfl (Or.inl ?_)
      have htrip : (p.alerts.map RequestCancelAlert.currentRequest)[m]? =
          some alert.currentRequest := by simp [listed]
      simp only [askedTrip, List.map_set]
      exact congrArg (fun trips => p.alert.bind fun m => trips[m]?) (set_same htrip)
    | nobody _ after =>
      rw [after]
      exact .kept rfl (Or.inl rfl)
  | onMessage socket text inBackground =>
    cases hof with
    | dashboard _ _ after =>
      rw [after]
      exact .kept rfl (Or.inl rfl)
    | @sheet j sheet _ _ handled =>
      rcases sheetMessage_inv handled with rfl | ⟨_, hreacts⟩
      · exact .kept rfl (Or.inl rfl)
      · cases hreacts with
        | nothing after =>
          rw [after]
          exact .kept rfl (Or.inl rfl)
        | reached _ _ after =>
          exact cover_of_dismiss j sheet (by rw [after]; rfl) (by rw [after]; rfl)
        | cancelled _ after => exact cover_of_dismiss j sheet (by rw [after]) (by rw [after])
        | located _ after =>
          rw [after]
          exact .kept rfl (Or.inl rfl)
        | started _ _ _ after =>
          exact @cover_of_dismiss (p.setFlag false) q j sheet (by rw [after]; rfl)
            (by rw [after]; rfl)
    | trip _ _ handled =>
      rcases tripMessage_inv handled with rfl | ⟨_, _, _, rfl⟩
      · exact .kept rfl (Or.inl rfl)
      · exact .kept rfl (Or.inl rfl)
  | lateProviderList i call response =>
    obtain ⟨_, _, _, _, rfl⟩ := hof
    exact .kept rfl (Or.inl rfl)
  | lateDistance i call values =>
    obtain ⟨_, _, _, _, _, rfl⟩ := hof
    exact .kept rfl (Or.inl rfl)
  | showDashboard i =>
    obtain rfl : q = p.showDashboard i := hof
    exact .kept rfl (Or.inl rfl)
  | pushOther =>
    obtain rfl : q = { p with stack := .other :: p.stack } := hof
    exact .kept rfl (Or.inl rfl)
  | popViewController =>
    obtain rfl : q = p.pop := hof
    exact .kept rfl (Or.inl rfl)
  | cancelRequest j sinceAccepted =>
    obtain ⟨sheet, listed, presented, rfl⟩ := hof
    unfold cancelRequest
    split
    · refine .asked rfl (t := sheet.currentRequest) ?_ ?_
      · exact List.mem_map.mpr ⟨sheet, List.mem_of_getElem? listed, by rw [presented]⟩
      · simp [askedTrip, openAlert]
    · exact .kept rfl (Or.inl rfl)
  | cancelTrip j =>
    have hnone : p.alert = none := alert_of_cancelTrip h
    obtain ⟨sheet, listed, _, hcancel⟩ := hof
    obtain ⟨_, _, _, rfl⟩ := cancelTrip_inv hcancel
    exact cover_of_dismiss j sheet (by simp [dismissFrom, hnone, putSheet, sheetFaces])
      (by simp [dismissFrom, hnone, putSheet, askedTrip])
  | leftBarItemDidTap j =>
    obtain ⟨sheet, _, _, hnone, rfl⟩ := hof
    exact cover_of_dismiss j sheet (by simp [dismissFrom, hnone]) (by simp [dismissFrom, hnone])
  | dismissAlert =>
    obtain rfl : q = { p with alert := none } := hof
    exact .kept rfl (Or.inr rfl)
  | btnSubmitPressed noShow dismisses =>
    obtain ⟨_, _, _, _, hsubmit⟩ := hof
    obtain ⟨_, _, _, rfl⟩ := btnSubmitPressed_inv hsubmit
    cases dismisses with
    | false => exact .kept rfl (Or.inr rfl)
    | true =>
      refine .gone (fun t ht => ?_) (Or.inl rfl)
      obtain ⟨s, hs, hface⟩ := List.mem_map.mp ht
      obtain ⟨s', _, rfl⟩ := List.mem_map.mp hs
      exact absurd hface (by simp [TripProviderDetail.dismiss])
  | submitReview k =>
    obtain rfl : q = { p with reviewCalls := p.reviewCalls.issue k } := hof
    exact .kept rfl (Or.inl rfl)
  | reviewReply call =>
    obtain ⟨k, rfl⟩ := hof
    unfold reviewReply
    split
    · exact .kept rfl (Or.inl rfl)
    · exact .kept rfl (Or.inl rfl)

/-- The sheet that is cancelled is the one that closes. -/
theorem writes_cancelTrip {j : Nat} (h : (machine distance).Step p (.cancelTrip j) q) :
    duties.Writes p (.cancelTrip j) q p.app.sockets.clientproviderRequestSocket := by
  obtain ⟨sheet, listed, presented, hcancel⟩ : StepOf distance p q (.cancelTrip j) := step_inv h
  obtain ⟨socket, frame, ⟨hsocket, _, htrip, _⟩, rfl⟩ := cancelTrip_inv hcancel
  have hface : p.sheetFaces[j]? = some (true, sheet.currentRequest) := by
    simp [sheetFaces, listed, presented]
  obtain ⟨hsome, honly⟩ := closedTrips_set hface
  have hfaces : sheetFaces { p with
      frames := p.frames ++ [(socket, frame)]
      sheets := p.sheets.set j sheet.dismiss } =
      p.sheetFaces.set j (false, sheet.currentRequest) :=
    @sheetFaces_of_set p _ j sheet.dismiss rfl
  refine ⟨?_, socket, _, hsocket, rfl, ?_⟩
  · simpa [duties, owed, hfaces] using hsome
  · intro n hn
    obtain ⟨t, ht, rfl⟩ : ∃ t ∈ closedTrips p.sheetFaces (p.sheetFaces.set j (false,
        sheet.currentRequest)), .cancelled t = n := by simpa [duties, owed, hfaces] using hn
    obtain rfl := honly t ht
    simp [duties, carries, htrip]

/-- The sheets that go with the cancel-reason screen have its trip. -/
theorem writes_submitted (hcovers : Covers p.sheetFaces p.askedTrip) {noShow : Bool}
    (h : (machine distance).Step p (.btnSubmitPressed noShow true) q) :
    duties.Writes p (.btnSubmitPressed noShow true) q
      p.app.sockets.clientproviderRequestSocket := by
  obtain ⟨m, alert, shown, listed, hsubmit⟩ : StepOf distance p q (.btnSubmitPressed noShow true) :=
    step_inv h
  obtain ⟨socket, frame, ⟨hsocket, _, htrip, _⟩, rfl⟩ := btnSubmitPressed_inv hsubmit
  have hasked : p.askedTrip = some alert.currentRequest := by simp [askedTrip, shown, listed]
  obtain ⟨hsome, honly⟩ := hcovers.closedTrips_all hasked
  have hfaces : (p.sheets.map TripProviderDetail.dismiss).map
      (fun s => (s.isPresented, s.currentRequest)) = p.sheetFaces.map fun s => (false, s.2) := by
    simp [sheetFaces, TripProviderDetail.dismiss]
  refine ⟨?_, socket, _, hsocket, rfl, ?_⟩
  · rw [← hfaces] at hsome
    exact fun hnil => hsome (List.map_eq_nil_iff.mp hnil)
  · intro n hn
    obtain ⟨t, ht, rfl⟩ := List.mem_map.mp hn
    obtain rfl := honly t (hfaces ▸ ht)
    simp [duties, carries, htrip]

/-- **The client's app writes what it owes, on its request socket.** -/
theorem discharges : duties.Discharges (machine distance) leavesSheet
    (fun p => p.app.sockets.clientproviderRequestSocket)
    (fun p => Covers p.sheetFaces p.askedTrip) where
  kept := fun _ _ _ hcovers h => (cover_step h).covers hcovers
  idle := by
    intro p e q _ h howes
    cases e with
    | cancelTrip j => exact absurd howes (by simp [leavesSheet])
    | btnSubmitPressed noShow dismisses =>
      obtain rfl : dismisses = false := howes
      obtain ⟨_, _, _, _, hsubmit⟩ : StepOf distance p q (.btnSubmitPressed noShow false) :=
        step_inv h
      obtain ⟨_, _, _, rfl⟩ := btnSubmitPressed_inv hsubmit
      exact congrArg (List.map TripNotice.cancelled) closedTrips_self
    | _ => rfl
  writes := by
    intro p e q hcovers h howes
    cases e with
    | cancelTrip j => exact writes_cancelTrip h
    | btnSubmitPressed noShow dismisses =>
      obtain rfl : dismisses = true := howes
      exact writes_submitted hcovers h
    | _ => exact absurd howes (by simp [leavesSheet])

end ClientPhone

/-! ## 4. The law -/

/-- The condition on a step of the provider's app: if its user closes a sheet or types a code, the
request socket is connected. -/
def ProviderPhone.tells : (ProviderPhone × Link) × List TripNotice → LinkEvent PhoneEvent → Bool :=
  Duties.tells ProviderPhone.leavesSheet fun p => p.app.sockets.clientproviderRequestSocket

/-- The condition on a step of the client's app: if its user closes a sheet, the request socket is
connected. -/
def ClientPhone.tells :
    (ClientPhone × Link) × List TripNotice → LinkEvent ClientPhoneEvent → Bool :=
  Duties.tells ClientPhone.leavesSheet fun p => p.app.sockets.clientproviderRequestSocket

/-- The provider's app as the process starts it, with nothing connected and nothing untold. -/
def ProviderPhone.untoldStart (defaults : UserDefaults) :
    (ProviderPhone × Link) × List TripNotice :=
  (((ProviderPhone.launched defaults).1, {}), [])

/-- The client's app as the process starts it, with nothing connected and nothing untold. -/
def ClientPhone.untoldStart (defaults : UserDefaults) (onMain : Bool) :
    (ClientPhone × Link) × List TripNotice :=
  (((ClientPhone.launched defaults onMain).1, {}), [])

/-- **When the other side is told.**  From any launch of either app, with sockets that drop at any
moment: no sheet was closed by its user and no start-trip screen opened by a code without a
connected socket taking the frame, exactly if the request socket was connected whenever a user
closed a sheet or typed a code. -/
theorem notices_told {distance : CLLocation → CLLocation → ℚ} (defaults : UserDefaults)
    (onMain : Bool) :
    (∀ y, ((ProviderPhone.linked distance).withHistory ProviderPhone.duties.noteUntold).Run
      (ProviderPhone.untoldStart defaults) y →
        (y.2 = [] ↔
          ((ProviderPhone.linked distance).withHistory ProviderPhone.duties.noteUntold).RunWhere
            (fun x e => ProviderPhone.tells x e = true) (ProviderPhone.untoldStart defaults) y)) ∧
    (∀ y, ((ClientPhone.linked distance).withHistory ClientPhone.duties.noteUntold).Run
      (ClientPhone.untoldStart defaults onMain) y →
        (y.2 = [] ↔
          ((ClientPhone.linked distance).withHistory ClientPhone.duties.noteUntold).RunWhere
            (fun x e => ClientPhone.tells x e = true)
            (ClientPhone.untoldStart defaults onMain) y)) :=
  ⟨fun _ hrun => ProviderPhone.discharges.untold_iff covers_nil rfl hrun,
    fun _ hrun => ClientPhone.discharges.untold_iff covers_nil rfl hrun⟩

/-! ## 5. A code, and a cancellation -/

/-- The sockets of the provider connect just before they call back. -/
def ProviderPhone.connecting (events : List PhoneEvent) : List (LinkEvent PhoneEvent) :=
  events.flatMap fun e =>
    match e with
    | .app (.onConnect socket) => [.connects socket, .of e]
    | e => [.of e]

/-- The sheet of an accepted trip is open, on connected sockets. -/
def ProviderPhone.sheetLinked : List (LinkEvent PhoneEvent) := connecting sheetPhone

/-- The sheet of an accepted trip is open, on a connected request socket. -/
def ClientPhone.sheetLinked : List (LinkEvent ClientPhoneEvent) :=
  requestPhone.map .of ++ [.connects 1] ++ acceptPhone.map .of

/-- A code is typed, and a trip is cancelled, while the sockets are connected. -/
theorem notices_told_connected :
    (∃ y : (ProviderPhone × Link) × List TripNotice, y.1.1.app.trips.length = 1 ∧
      ((ProviderPhone.linked fun _ _ => 0).withHistory ProviderPhone.duties.noteUntold).RunWhere
        (fun x e => ProviderPhone.tells x e = true)
        (ProviderPhone.untoldStart (ProviderApp.sampleProvider 16).defaults) y) ∧
    ∃ y : (ClientPhone × Link) × List TripNotice, y.1.1.frames.length = 1 ∧
      ((ClientPhone.linked sampleDistance).withHistory
        ClientPhone.duties.noteUntold).RunWhere (fun x e => ClientPhone.tells x e = true)
        (ClientPhone.untoldStart ClientSession.sampleDevice.defaults false) y := by
  constructor
  · obtain ⟨y, hrun, htest⟩ := Machine.exists_run_of_replay
      ((ProviderPhone.linked fun _ _ => 0).withHistory ProviderPhone.duties.noteUntold)
      (fun _ _ => true) (ProviderPhone.untoldStart (ProviderApp.sampleProvider 16).defaults)
      (ProviderPhone.sheetLinked ++ [.of (.app (.textFieldEditingChanged 0 "1234"))])
      (fun y => y.1.1.app.trips.length == 1 && y.2.isEmpty) (fun _ _ _ => trivial)
      (by decide +kernel)
    simp only [Bool.and_eq_true, beq_iff_eq, List.isEmpty_iff] at htest
    exact ⟨y, htest.1, ((notices_told _ false).1 y hrun).mp htest.2⟩
  · obtain ⟨y, hrun, htest⟩ := Machine.exists_run_of_replay
      ((ClientPhone.linked sampleDistance).withHistory ClientPhone.duties.noteUntold)
      (fun _ _ => true) (ClientPhone.untoldStart ClientSession.sampleDevice.defaults false)
      (ClientPhone.sheetLinked ++ [.of (.cancelTrip 0)])
      (fun y => y.1.1.frames.length == 1 && y.2.isEmpty) (fun _ _ _ => trivial)
      (by decide +kernel)
    simp only [Bool.and_eq_true, beq_iff_eq, List.isEmpty_iff] at htest
    exact ⟨y, htest.1, ((notices_told _ false).2 y hrun).mp htest.2⟩

/-- The request socket has dropped: the right code opens the start-trip screen, and a cancellation
closes the client's sheet, and neither frame leaves the phone. -/
theorem code_untold :
    (∃ y : (ProviderPhone × Link) × List TripNotice,
      ((ProviderPhone.linked fun _ _ => 0).withHistory ProviderPhone.duties.noteUntold).Run
        (ProviderPhone.untoldStart (ProviderApp.sampleProvider 16).defaults) y ∧
      y.1.1.app.trips.length = 1 ∧ y.2 ≠ []) ∧
    ∃ y : (ClientPhone × Link) × List TripNotice,
      ((ClientPhone.linked sampleDistance).withHistory
        ClientPhone.duties.noteUntold).Run
        (ClientPhone.untoldStart ClientSession.sampleDevice.defaults false) y ∧
      y.1.1.sheetIsPresented = false ∧ y.2 ≠ [] := by
  constructor
  · obtain ⟨y, hrun, htest⟩ := Machine.exists_run_of_replay
      ((ProviderPhone.linked fun _ _ => 0).withHistory ProviderPhone.duties.noteUntold)
      (fun _ _ => true) (ProviderPhone.untoldStart (ProviderApp.sampleProvider 16).defaults)
      (ProviderPhone.sheetLinked ++
        [.drops 1, .of (.app (.textFieldEditingChanged 0 "1234"))])
      (fun y => y.1.1.app.trips.length == 1 && !y.2.isEmpty) (fun _ _ _ => trivial)
      (by decide +kernel)
    simp only [Bool.and_eq_true, beq_iff_eq, Bool.not_eq_true', List.isEmpty_eq_false_iff] at htest
    exact ⟨y, hrun, htest⟩
  · obtain ⟨y, hrun, htest⟩ := Machine.exists_run_of_replay
      ((ClientPhone.linked sampleDistance).withHistory ClientPhone.duties.noteUntold)
      (fun _ _ => true) (ClientPhone.untoldStart ClientSession.sampleDevice.defaults false)
      (ClientPhone.sheetLinked ++ [.drops 1, .of (.cancelTrip 0)])
      (fun y => y.1.1.sheetIsPresented == false && !y.2.isEmpty) (fun _ _ _ => trivial)
      (by decide +kernel)
    simp only [Bool.and_eq_true, beq_iff_eq, Bool.not_eq_true', List.isEmpty_eq_false_iff] at htest
    exact ⟨y, hrun, htest⟩

end WeatherAccommodation
