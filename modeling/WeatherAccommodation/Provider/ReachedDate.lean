/-
# The date at which the provider was there

The client-detail sheet dereferences `reachedDate` when Cancel is pressed past the first minute.
Only its `notifyWhenProviderHasReached` sets the variable, as the delegate of the dashboard that
presented the sheet.  The dashboard keeps the sheet in `delegate`, and on a report within ten
metres of the client sets a flag of its own; it never calls the delegate.

So the events of the program do not include that call, and `reachedDate` stays nil in every run of
it.  `cancel_is_safe_iff` says what is left of the law.
-/
import WeatherAccommodation.CancellationFee
import WeatherAccommodation.Handset.ProviderSide
import WeatherAccommodation.Provider.LiveLocation

namespace WeatherAccommodation

open Foundation Reactive

namespace ProviderApp

variable {distance : CLLocation → CLLocation → ℚ} {a : ProviderApp} {i : Nat}
  {d d' : ProviderDashboard} {e : ProviderEvent}

/-- The flag of the dashboard is never cleared. -/
theorem DashboardMove.reached_mono (h : DashboardMove distance a i d e d')
    (hreached : d.hasProviderReached = true) : d'.hasProviderReached = true := by
  cases h with
  | stay _ => exact hreached
  | appear =>
    unfold ProviderDashboard.clearTrip
    split
    · exact hreached
    · exact hreached
  | foreground _ shown =>
    obtain ⟨_, _, _, _, rfl⟩ := ProviderDashboard.showRequestUI_frame shown
    exact hreached
  | decline => exact hreached
  | accept _ => exact hreached
  | switch _ _ _ => exact hreached
  | ring => exact hreached
  | directions _ _ _ _ => exact hreached
  | @location l _ _ told =>
    unfold ProviderDashboard.tracingLocation at told
    simp only at told
    split at told
    · rw [pure_eq_ok] at told
      rw [← told]
      exact hreached
    · simp only [bind_eq_ok] at told
      obtain ⟨_, _, told⟩ := told
      split at told
      · rw [pure_eq_ok] at told
        rw [← told]
        rfl
      · rw [pure_eq_ok] at told
        rw [← told]
        exact hreached
  | disconnect _ => exact hreached
  | status _ _ handled =>
    obtain ⟨_, _, _, _, _, rfl⟩ := ProviderDashboard.providerMessage_frame handled
    exact hreached
  | request _ _ _ handled =>
    rcases ProviderDashboard.requestMessage_inv handled with rfl | ⟨_, _, rfl⟩
    · exact hreached
    · exact hreached

end ProviderApp

namespace ProviderPhone

variable {distance : CLLocation → CLLocation → ℚ} {p q : ProviderPhone} {e : PhoneEvent}

/-! ## 1. What is recorded, and when -/

/-- When each dashboard recorded that the provider is there, and the `reachedDate` of each sheet. -/
structure ReachLog where
  recordedAt : Nat → Option ℚ := fun _ => none
  reachedDate : Nat → Option ℚ := fun _ => none

/-- The dashboard with number `i` has recorded it. -/
def hasRecorded (p : ProviderPhone) (i : Nat) : Bool :=
  p.app.dashboards[i]?.any ProviderDashboard.hasProviderReached

/-- The history variable. -/
def noteReach (log : ReachLog) (_ : ProviderPhone) (e : PhoneEvent × ℚ) (q : ProviderPhone) :
    ReachLog where
  recordedAt i := (log.recordedAt i).or (if q.hasRecorded i then some e.2 else none)
  reachedDate :=
    match e.1 with
    | .notifyWhenProviderHasReached j => Function.update log.reachedDate j (some e.2)
    | _ => log.reachedDate

/-- The events of the program; nothing calls `notifyWhenProviderHasReached`. -/
def isCalled : PhoneEvent → Bool
  | .notifyWhenProviderHasReached _ => false
  | _ => true

theorem hasRecorded_iff {i : Nat} :
    p.hasRecorded i = true ↔
      ∃ d, p.app.dashboards[i]? = some d ∧ d.hasProviderReached = true := by
  simp only [hasRecorded, Option.any_eq_true]

theorem hasRecorded_mono {i : Nat} (h : (machine distance).Step p e q)
    (hp : p.hasRecorded i = true) : q.hasRecorded i = true := by
  obtain ⟨d, hd, hreached⟩ := hasRecorded_iff.mp hp
  have hi : i < p.app.dashboards.length := (List.getElem?_eq_some_iff.mp hd).1
  have hd' := List.getElem?_eq_getElem (hi.trans_le (dashboards_length_le h))
  refine hasRecorded_iff.mpr ⟨_, hd', ?_⟩
  rcases step_dashboard h hd' with ⟨d₀, hd₀, hmove⟩ | ⟨_, hfresh, _⟩
  · obtain rfl : d = d₀ := Option.some.inj (hd.symm.trans hd₀)
    cases hmove with
    | stay _ same => rw [same, hreached]
    | move _ hmove => exact hmove.reached_mono hreached
  · omega

/-- The invariant: the log knows which dashboards have recorded it, and of no sheet's date. -/
structure NobodyTold (p : ProviderPhone) (log : ReachLog) : Prop where
  recorded : ∀ i, (log.recordedAt i).isSome = p.hasRecorded i
  untold : ∀ j, log.reachedDate j = none

theorem NobodyTold.step {log : ReachLog} {date : ℚ} (h : NobodyTold p log)
    (hcalled : isCalled e = true) (hstep : (machine distance).Step p e q) :
    NobodyTold q (noteReach log p (e, date) q) := by
  constructor
  · intro i
    simp only [noteReach]
    cases hrecorded : log.recordedAt i with
    | some date =>
      have hp : p.hasRecorded i = true := by rw [← h.recorded i, hrecorded]; rfl
      simp [hasRecorded_mono hstep hp]
    | none =>
      cases q.hasRecorded i <;> simp
  · intro j
    unfold noteReach
    split
    · rename_i k hevent
      obtain rfl : e = .notifyWhenProviderHasReached k := hevent
      exact absurd hcalled (by simp [isCalled])
    · exact h.untold j

/-! ## 2. The press on Cancel -/

/-- At `date`, with `t` seconds gone since the acceptance, the press on the sheet with number `j`
does not stop at `reachedDate`; and what a dashboard recorded is the `reachedDate` of the sheet. -/
structure CancelIsSafe (log : ReachLog) (j : Nat) (t date : ℚ) : Prop where
  press : ClientDetailSheet.cancelAlert t ((log.reachedDate j).map fun reached => date - reached) ≠
    .error .reachedDate
  date : ∀ i recorded, log.recordedAt i = some recorded → log.reachedDate j = some recorded

/-- The press on a sheet that was told nothing. -/
theorem cancelAlert_none {t : ℚ} (ht : 0 ≤ t) :
    ClientDetailSheet.cancelAlert t none = .error .reachedDate ↔
      t < 2 ^ 63 ∧ 1 ≤ minutesOf ⌊t⌋₊ := by
  unfold ClientDetailSheet.cancelAlert
  by_cases hlt : t < 2 ^ 63
  · rw [isCharged_eq ht hlt]
    by_cases h : 1 ≤ minutesOf ⌊t⌋₊
    · simp [h, hlt, bind, Except.bind]
    · simp [h, bind, Except.bind, pure, Except.pure]
  · rw [isCharged_of_le (not_lt.mp hlt)]
    simp [hlt, bind, Except.bind]

/-- **When the provider can press Cancel.**  In every state that a run of the program reaches, over
any reports, sheets, messages and screens: the press on a sheet is safe, and what was recorded is
its `reachedDate`, exactly if the minutes since the acceptance are those of the start of an hour,
and no dashboard has recorded that the provider is there. -/
theorem cancel_is_safe_iff (device : Device) {x : ProviderPhone × ReachLog}
    (hrun : ((machine distance).dated.withHistory noteReach).RunWhere
      (fun _ e => isCalled e.1 = true) ({ app := { device := device } }, {}) x)
    (j : Nat) {t : ℚ} (ht : 0 ≤ t) (date : ℚ) :
    CancelIsSafe x.2 j t date ↔
      ¬(t < 2 ^ 63 ∧ 1 ≤ minutesOf ⌊t⌋₊) ∧ ∀ i, x.1.hasRecorded i = false := by
  have hI : NobodyTold x.1 x.2 := by
    refine hrun.invariant (I := fun x => NobodyTold x.1 x.2) ?_ ?_
    · exact ⟨fun i => by simp [hasRecorded], fun _ => rfl⟩
    · intro x e y hI hcalled hstep
      obtain ⟨hxy, hnote⟩ := Machine.withHistory_step.mp hstep
      rw [hnote]
      exact hI.step hcalled (Machine.dated_step.mp hxy)
  have hpress : ((x.2.reachedDate j).map fun reached => date - reached) = none := by
    rw [hI.untold j, Option.map_none]
  rw [← cancelAlert_none ht, ← hpress]
  constructor
  · intro hsafe
    refine ⟨hsafe.press, fun i => ?_⟩
    cases hrecorded : x.2.recordedAt i with
    | none => rw [← hI.recorded i, hrecorded]; rfl
    | some date => exact absurd ((hI.untold j).symm.trans (hsafe.date i date hrecorded)) (by simp)
  · rintro ⟨hsafe, hnobody⟩
    refine ⟨hsafe, fun i date hrecorded => ?_⟩
    have hsome := hI.recorded i
    rw [hrecorded, hnobody i] at hsome
    exact absurd hsome (by simp)

/-- The events of a phone, a second apart. -/
def eachSecond (events : List PhoneEvent) : List (PhoneEvent × ℚ) :=
  events.mapIdx fun n e => (e, (n : ℚ))

/-- Half a minute after the acceptance, with the sheet open. -/
theorem cancel_is_safe_early : ∃ x : ProviderPhone × ReachLog,
    x.1.sheetIsPresented = true ∧ CancelIsSafe x.2 0 30 100 := by
  obtain ⟨x, hrun, htest⟩ := Machine.exists_run_of_replay
    ((machine fun _ _ => 20).dated.withHistory noteReach) (fun _ e => isCalled e.1)
    ({ app := { device := ProviderApp.sampleProvider 16 } }, {}) (eachSecond sheetPhone)
    (fun x => x.1.sheetIsPresented && x.1.app.dashboards.length == 1 && !x.1.hasRecorded 0)
    (fun _ _ => id) (by decide +kernel)
  simp only [Bool.and_eq_true, beq_iff_eq, Bool.not_eq_true'] at htest
  obtain ⟨⟨hsheet, hone⟩, hrecorded⟩ := htest
  refine ⟨x, hsheet, (cancel_is_safe_iff _ hrun 0 (by norm_num) 100).mpr ⟨?_, ?_⟩⟩
  · decide +kernel
  · intro i
    by_cases hi : i = 0
    · rw [hi, hrecorded]
    · have hout : x.1.app.dashboards[i]? = none := List.getElem?_eq_none (by omega)
      simp [hasRecorded, hout]

/-- **Two minutes after the acceptance the press stops the app**, in a run in which the dashboard
has recorded that the provider is there. -/
theorem cancel_stops_after_a_minute : ∃ x : ProviderPhone × ReachLog,
    ((machine fun _ _ => 0).dated.withHistory noteReach).RunWhere (fun _ e => isCalled e.1 = true)
      ({ app := { device := ProviderApp.sampleProvider 16 } }, {}) x ∧
      x.1.sheetIsPresented = true ∧ x.2.recordedAt 0 = some 6 ∧ x.2.reachedDate 0 = none ∧
      ClientDetailSheet.cancelAlert 120
        ((x.2.reachedDate 0).map fun reached => 130 - reached) = .error .reachedDate := by
  obtain ⟨x, hrun, htest⟩ := Machine.exists_run_of_replay
    ((machine fun _ _ => 0).dated.withHistory noteReach) (fun _ e => isCalled e.1)
    ({ app := { device := ProviderApp.sampleProvider 16 } }, {})
    (eachSecond (onlinePhone ++
      [.app (.onMessage 0 (ProviderApp.requestText 24 "requested") .active 0),
      .didUpdateLocations ⟨40.001, -73⟩, .app (.btnAcceptRequest 0), .app (.onConnect 1),
      .app (.onMessage 1 (ProviderApp.acceptanceText 24 16) .active 0),
      .app (.directionsReply 0 0 true)]))
    (fun x => x.1.sheetIsPresented && x.2.recordedAt 0 == some 6 && x.2.reachedDate 0 == none)
    (fun _ _ => id) (by decide +kernel)
  simp only [Bool.and_eq_true, beq_iff_eq] at htest
  obtain ⟨⟨hsheet, hrecorded⟩, hdate⟩ := htest
  refine ⟨x, hrun, hsheet, hrecorded, hdate, ?_⟩
  rw [hdate, Option.map_none, cancelAlert_none (by norm_num)]
  decide +kernel

end ProviderPhone

end WeatherAccommodation
