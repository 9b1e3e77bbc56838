/-
# No trip starts without its code

A start-trip screen comes into being in two ways.  The client-detail sheet pushes one after an
edit that made its field equal to the code of its trip, and clears `doesRequestExist` first,
so the screen is not started.  `checkIfTripExists` pushes one for a trip that exists, with the
flag still set, so the screen counts as started and can only end the trip.

The history is the list of the trips whose sheet had the right code in its field after some
edit.  `Gated` is the law, and `otp_gate` proves it for every run of the app.
-/
import WeatherAccommodation.Provider.Steps

namespace WeatherAccommodation

open Foundation Reactive

namespace ProviderApp

variable {distance : CLLocation → CLLocation → ℚ}

/-! ## 1. The law -/

/-- The trips whose code was typed into their own sheet. -/
abbrev MatchedTrips := List Dict

/-- The history variable: a trip is noted when an edit makes the field of its sheet equal to
its `VerificationCode`. -/
def noteEdit (h : MatchedTrips) (a : ProviderApp) (e : ProviderEvent) (_ : ProviderApp) :
    MatchedTrips :=
  match e with
  | .textFieldEditingChanged j text =>
    match a.sheets[j]? with
    | some sheet => if sheet.matchesCode text then h ++ [sheet.currentRequest] else h
    | none => h
  | _ => h

/-- The parameters of `request` are those of `trip`. -/
structure IsFor (trip : Dict) (request : StartEndRequest) : Prop where
  clientId : Dict.get? trip "ClientId" = some request.clientId
  tripId : Dict.get? trip "TripId" = some request.tripId
  providerId : Dict.get? trip "ProviderId" = some request.providerId

/-- Every start of a trip and every `reached` frame is for a trip whose code was typed. -/
structure Gated (x : ProviderApp × MatchedTrips) : Prop where
  started : ∀ request ∈ x.1.startEndRequests,
    request.statusCode = Numeric_TripStatus.started → ∃ trip ∈ x.2, IsFor trip request
  reached : ∀ socket tripId, (socket, ProviderFrame.reached tripId) ∈ x.1.frames →
    ∃ trip ∈ x.2, Dict.get? trip "TripId" = some tripId

/-! ## 2. What a step does to trips, starts and frames -/

/-- The ways a step can touch the start-trip screens, what they send, or a `reached` frame. -/
inductive TripMove (a b : ProviderApp) : ProviderEvent → Prop where
  | stay {e : ProviderEvent} (trips : b.trips = a.trips)
      (requests : b.startEndRequests = a.startEndRequests)
      (frames : ∀ socket tripId, (socket, ProviderFrame.reached tripId) ∈ b.frames →
        (socket, ProviderFrame.reached tripId) ∈ a.frames) : TripMove a b e
  | resume (trip : Dict)
      (trips : b.trips = a.trips ++ [{ currentRequest := trip, isTripStarted := true }])
      (requests : b.startEndRequests = a.startEndRequests)
      (frames : b.frames = a.frames) : TripMove a b .viewDidLoad
  | enter {j : Nat} {text : String} (sheet : ClientDetailSheet) (socket : Nat) (tripId : Json)
      (listed : a.sheets[j]? = some sheet) (code : sheet.matchesCode text = true)
      (id : Dict.get? sheet.currentRequest "TripId" = some tripId)
      (trips : b.trips = a.trips ++ [{ currentRequest := sheet.currentRequest }])
      (requests : b.startEndRequests = a.startEndRequests)
      (frames : b.frames = a.frames ++ [(socket, .reached tripId)]) :
      TripMove a b (.textFieldEditingChanged j text)
  | press {k : Nat} (screen : StartTrip) (request : StartEndRequest)
      (listed : a.trips[k]? = some screen) (isFor : IsFor screen.currentRequest request)
      (status : request.statusCode = screen.statusCode) (trips : b.trips = a.trips)
      (requests : b.startEndRequests = a.startEndRequests ++ [request])
      (frames : b.frames = a.frames) : TripMove a b (.btnActionPressed k)
  | reply {e : ProviderEvent} (k : Nat) (screen screen' : StartTrip)
      (listed : a.trips[k]? = some screen) (trips : b.trips = a.trips.set k screen')
      (same : screen'.currentRequest = screen.currentRequest)
      (started : screen'.isTripStarted = false → screen.isTripStarted = false)
      (requests : b.startEndRequests = a.startEndRequests)
      (frames : b.frames = a.frames) : TripMove a b e

/-- A frame of another kind is no `reached` frame. -/
theorem reached_mem_of_write {a : ProviderApp} {socket n : Nat} {frame : ProviderFrame}
    {tripId : Json} (hframe : frame ≠ .reached tripId)
    (h : (n, ProviderFrame.reached tripId) ∈ (a.write socket frame).frames) :
    (n, ProviderFrame.reached tripId) ∈ a.frames := by
  rcases List.mem_append.mp h with h | h
  · exact h
  · have heq := List.mem_singleton.mp h
    exact absurd (Prod.ext_iff.mp heq).2.symm hframe

theorem step_tripMove {a b : ProviderApp} {e : ProviderEvent}
    (h : (machine distance).Step a e b) : TripMove a b e := by
  have hof := step_inv h
  cases e with
  | viewDidLoad =>
    rcases viewDidLoad_inv hof with rfl | ⟨trip, clientId, _, _, _, rfl⟩
    · exact .stay rfl rfl fun _ _ hf => hf
    · exact .resume trip rfl rfl rfl
  | timerFired i =>
    obtain ⟨d, _, _, hof⟩ := hof
    obtain ⟨_, _, _, _, rfl⟩ := timerFired_inv hof
    exact .stay rfl rfl fun _ _ hf => reached_mem_of_write (by simp) hf
  | onConnect socket =>
    obtain ⟨_, _, rfl | ⟨_, _, _, _, hof⟩⟩ := hof
    · exact .stay rfl rfl fun _ _ hf => hf
    · rcases dashboardConnect_inv hof with ⟨_, rfl⟩ | ⟨_, _, _, _, _, _, _, rfl⟩
      · exact .stay rfl rfl fun _ _ hf => hf
      · exact .stay rfl rfl fun _ _ hf => reached_mem_of_write (by simp) hf
  | textFieldEditingChanged j text =>
    obtain ⟨sheet, hsheet, _, hof⟩ := hof
    rcases textFieldEditingChanged_inv hof with rfl | ⟨socket, tripId, ⟨_, hcode⟩, hid, rfl⟩
    · exact .stay rfl rfl fun _ _ hf => hf
    · exact .enter sheet socket tripId hsheet hcode hid rfl rfl rfl
  | cancelTrip j reason =>
    obtain ⟨sheet, _, hof⟩ := hof
    obtain ⟨_, _, _, _, _, rfl⟩ := cancelTrip_inv hof
    exact .stay rfl rfl fun _ _ hf => reached_mem_of_write (by simp) hf
  | btnActionPressed k =>
    obtain ⟨screen, hscreen, hof⟩ := hof
    obtain ⟨request, hclient, htrip, hprovider, hstatus, rfl⟩ := btnActionPressed_inv hof
    exact .press screen request hscreen ⟨hclient, htrip, hprovider⟩ hstatus rfl rfl rfl
  | startEndReply call success =>
    obtain ⟨k, statusCode, _, rfl⟩ := hof
    unfold startEndReply
    split
    · rename_i screen hscreen
      refine .reply k screen _ hscreen rfl ?_ ?_ rfl rfl
      · unfold StartTrip.startEndReply
        split
        · split
          · rfl
          · rfl
        · rfl
      · unfold StartTrip.startEndReply
        split
        · split
          · exact fun hfalse => absurd hfalse (by simp)
          · exact id
        · exact id
    · exact .stay rfl rfl fun _ _ hf => hf
  | _ =>
    obtain ⟨htrips, hrequests⟩ := (step_spares h).trips.resolve_left (by simp [touches])
    have hframes : b.frames = a.frames := (step_spares h).frames.resolve_left (by simp [touches])
    exact .stay htrips hrequests fun _ _ hf => hframes ▸ hf

/-! ## 3. The gate -/

/-- The law, and what it rests on: a screen that is not started shows a matched trip. -/
structure Guarded (x : ProviderApp × MatchedTrips) : Prop where
  gated : Gated x
  screens : ∀ screen ∈ x.1.trips, screen.isTripStarted = false → screen.currentRequest ∈ x.2

/-- What was typed stays typed. -/
theorem subset_noteEdit (h : MatchedTrips) (a : ProviderApp) (e : ProviderEvent)
    (b : ProviderApp) : h ⊆ noteEdit h a e b := by
  intro trip htrip
  unfold noteEdit
  split
  · split
    · split
      · exact List.mem_append_left _ htrip
      · exact htrip
    · exact htrip
  · exact htrip

/-- More matched trips open no more gates than they should. -/
theorem Gated.mono {a b : ProviderApp} {h h' : MatchedTrips} (hg : Gated (a, h)) (hsub : h ⊆ h')
    (hrequests : b.startEndRequests = a.startEndRequests)
    (hframes : ∀ socket tripId, (socket, ProviderFrame.reached tripId) ∈ b.frames →
      (socket, ProviderFrame.reached tripId) ∈ a.frames) : Gated (b, h') where
  started := by
    intro request hrequest hstatus
    simp only [hrequests] at hrequest
    obtain ⟨trip, htrip, hfor⟩ := hg.started request hrequest hstatus
    exact ⟨trip, hsub htrip, hfor⟩
  reached := by
    intro socket tripId hframe
    obtain ⟨trip, htrip, hid⟩ := hg.reached socket tripId (hframes socket tripId hframe)
    exact ⟨trip, hsub htrip, hid⟩

/-- **One step of the app.** -/
theorem Guarded.step {x y : ProviderApp × MatchedTrips} {e : ProviderEvent} (hx : Guarded x)
    (hstep : ((machine distance).withHistory noteEdit).Step x e y) : Guarded y := by
  obtain ⟨a, h⟩ := x
  obtain ⟨b, h'⟩ := y
  obtain ⟨hab, hnote⟩ := Machine.withHistory_step.mp hstep
  obtain rfl : h' = noteEdit h a e b := hnote
  have hsub := subset_noteEdit h a e b
  have hmove : TripMove a b e := step_tripMove hab
  cases hmove with
  | stay htrips hrequests hframes =>
    refine ⟨hx.gated.mono hsub hrequests hframes, ?_⟩
    intro screen hscreen hnot
    simp only [htrips] at hscreen
    exact hsub (hx.screens screen hscreen hnot)
  | resume trip htrips hrequests hframes =>
    refine ⟨hx.gated.mono hsub hrequests fun _ _ hf => hframes ▸ hf, ?_⟩
    intro screen hscreen hnot
    simp only [htrips, List.mem_append, List.mem_singleton] at hscreen
    rcases hscreen with hscreen | rfl
    · exact hsub (hx.screens screen hscreen hnot)
    · exact absurd hnot (by simp)
  | @enter j text sheet socket tripId hlisted hcode hid htrips hrequests hframes =>
    have hmatched : sheet.currentRequest ∈ noteEdit h a (.textFieldEditingChanged j text) b := by
      have hsheet : a.sheets[j]? = some sheet := hlisted
      simp [noteEdit, hsheet, hcode]
    refine ⟨⟨?_, ?_⟩, ?_⟩
    · intro request hrequest hstatus
      simp only [hrequests] at hrequest
      obtain ⟨trip, htrip, hfor⟩ := hx.gated.started request hrequest hstatus
      exact ⟨trip, hsub htrip, hfor⟩
    · intro n id hframe
      simp only [hframes, List.mem_append, List.mem_singleton, Prod.mk.injEq,
        ProviderFrame.reached.injEq] at hframe
      rcases hframe with hframe | ⟨_, rfl⟩
      · obtain ⟨trip, htrip, hid'⟩ := hx.gated.reached n id hframe
        exact ⟨trip, hsub htrip, hid'⟩
      · exact ⟨sheet.currentRequest, hmatched, hid⟩
    · intro screen hscreen hnot
      simp only [htrips, List.mem_append, List.mem_singleton] at hscreen
      rcases hscreen with hscreen | rfl
      · exact hsub (hx.screens screen hscreen hnot)
      · exact hmatched
  | press screen request hlisted hfor hstatus htrips hrequests hframes =>
    refine ⟨⟨?_, ?_⟩, ?_⟩
    · intro r hr hstarted
      simp only [hrequests, List.mem_append, List.mem_singleton] at hr
      rcases hr with hr | rfl
      · obtain ⟨trip, htrip, hfor'⟩ := hx.gated.started r hr hstarted
        exact ⟨trip, hsub htrip, hfor'⟩
      · -- only a screen that is not started sends a start
        have hnot : screen.isTripStarted = false := by
          rw [hstatus] at hstarted
          cases hs : screen.isTripStarted with
          | false => rfl
          | true =>
            rw [StartTrip.statusCode, hs, if_pos rfl] at hstarted
            exact absurd hstarted (by decide)
        exact ⟨screen.currentRequest,
          hsub (hx.screens screen (List.mem_of_getElem? hlisted) hnot), hfor⟩
    · intro n id hframe
      simp only [hframes] at hframe
      obtain ⟨trip, htrip, hid⟩ := hx.gated.reached n id hframe
      exact ⟨trip, hsub htrip, hid⟩
    · intro s hs hnot
      simp only [htrips] at hs
      exact hsub (hx.screens s hs hnot)
  | reply k screen screen' hlisted htrips hsame hstarted hrequests hframes =>
    refine ⟨hx.gated.mono hsub hrequests fun _ _ hf => hframes ▸ hf, ?_⟩
    intro s hs hnot
    simp only [htrips] at hs
    rcases List.mem_or_eq_of_mem_set hs with hs | rfl
    · exact hsub (hx.screens s hs hnot)
    · rw [hsame]
      exact hsub (hx.screens screen (List.mem_of_getElem? hlisted) (hstarted hnot))

/-- **The gate.**  From any globals (a trip that exists in whatever status, or none), over any
order of edits, messages, answers, presses and new dashboards, a trip is reported as reached
or started only after its code was typed into its own sheet. -/
theorem otp_gate (device : Device) {x : ProviderApp × MatchedTrips}
    (hrun : ((machine distance).withHistory noteEdit).Run ({ device := device }, []) x) :
    Gated x := by
  have h₀ : Guarded ({ device := device }, []) := by
    refine ⟨⟨?_, ?_⟩, ?_⟩
    · simp
    · simp
    · simp
  have hI : Guarded x := hrun.invariant h₀ fun _ _ _ hI _ hstep => hI.step hstep
  exact hI.gated

/-! ## 4. A run -/

/-- A wrong code opens nothing; the right one leads to the start of the trip. -/
theorem otp_gate_opened : ∃ x : ProviderApp × MatchedTrips,
    x.1.startEndRequests.length = 1 ∧ x.2.length = 1 ∧ Gated x := by
  obtain ⟨x, hrun, htest⟩ := Machine.exists_run_of_replay
    ((machine fun _ _ => 0).withHistory noteEdit) (fun _ _ => true)
    ({ device := sampleProvider 16 }, [])
    (onlineEvents ++ acceptEvents 24 ++ sheetEvents 24 16 ++ [.textFieldEditingChanged 0 "4321",
      .textFieldEditingChanged 0 "1234", .btnActionPressed 0])
    (fun x => x.1.startEndRequests.length == 1 && x.2.length == 1) (fun _ _ _ => trivial)
    (by decide +kernel)
  obtain ⟨h₁, h₂⟩ := Bool.and_eq_true_iff.mp htest
  exact ⟨x, by simpa using h₁, by simpa using h₂, otp_gate (sampleProvider 16) hrun⟩

end ProviderApp

end WeatherAccommodation
