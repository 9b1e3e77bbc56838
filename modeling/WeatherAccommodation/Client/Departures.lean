/-
# What a departure takes off the map

`pingReceived` takes a provider that is no longer connected off both arrays, in a loop that counts
the positions of a copy.  The loaded list is not searched for ids that occur twice, and nothing
later removes the second entry; so a provider can be listed any number of times.

* `departure_removes_iff`: the loop does what it is for exactly if the provider is listed once at
  most, in every state of every dashboard.
* `bystander_removed`: listed twice, the provider stays, and the one after it goes instead.
-/
import WeatherAccommodation.Client.Tracking

namespace WeatherAccommodation

open Foundation Reactive

namespace ClientDashboard

variable {distance : CLLocation → CLLocation → ℚ} {d : ClientDashboard} {dict : Dict}

/-! ## 1. One ping -/

/-- The providers on the map, each with its own marker. -/
def shown (d : ClientDashboard) : List (Provider × Marker) := d.arrOnlineProviders.zip d.arrMarkers

/-- The ping is handled, and afterwards nobody with the id is listed; all the others are, in their
order and each with its own marker. -/
def RemovesExactly (distance : CLLocation → CLLocation → ℚ) (d : ClientDashboard) (dict : Dict) :
    Prop :=
  ∃ d', d.pingReceived distance (some (.obj dict)) = .ok d' ∧
    (Provider.ofDict dict).providerId ∉ d'.providerIds ∧
    d'.arrOnlineProviders = d.arrOnlineProviders.filter
      (fun p => !(p.providerId == (Provider.ofDict dict).providerId)) ∧
    d'.arrOnlineProviders.length = d'.arrMarkers.length ∧
    d'.shown = d.shown.filter fun z => !(z.1.providerId == (Provider.ofDict dict).providerId)

/-- A ping that is not `connected` runs the loop, if anybody is listed to run it for. -/
theorem pingReceived_of_departed
    (hstatus : (Provider.ofDict dict).status ≠ ProviderStatus.connected) :
    d.pingReceived distance (some (.obj dict)) = d.providerDisconnected (Provider.ofDict dict) := by
  simp [pingReceived, handleStatus, hstatus, bind, Except.bind]

/-- Listed once at most, the provider goes, and nobody else. -/
theorem removesExactly_of_count (hd : d.IsPaired)
    (hstatus : (Provider.ofDict dict).status ≠ ProviderStatus.connected)
    (hcount : d.providerIds.count (Provider.ofDict dict).providerId ≤ 1) :
    d.RemovesExactly distance dict := by
  rw [RemovesExactly, pingReceived_of_departed hstatus, providerDisconnected]
  generalize (Provider.ofDict dict).providerId = id at hcount ⊢
  cases hlisted : d.isListed id with
  | true =>
    have hone : AtMostOne (fun p => p.providerId == id) d.arrOnlineProviders := by
      rw [atMostOne_iff_countP, countP_eq_count]
      exact hcount
    rw [if_pos rfl, eraseEnumerated_of_atMostOne Trap.indexOutOfRange hd hone]
    refine ⟨_, rfl, ?_, rfl, length_keptBeside hd, zip_keptBeside hd⟩
    simp [providerIds]
  | false =>
    have hnone : id ∉ d.providerIds := not_isListed_iff.mp hlisted
    have hno : ∀ p ∈ d.arrOnlineProviders, (p.providerId == id) = false := by
      intro p hp
      rw [beq_eq_false_iff_ne]
      exact fun heq => hnone (List.mem_map.mpr ⟨p, hp, heq⟩)
    rw [if_neg (by simp)]
    refine ⟨d, rfl, hnone, (filter_not_eq_self hno).symm, hd, ?_⟩
    refine (filter_not_eq_self fun z hz => ?_).symm
    exact hno z.1 (List.of_mem_zip hz).1

/-- Listed more than once, it is not gone, or the loop has no result. -/
theorem count_of_removesExactly
    (hstatus : (Provider.ofDict dict).status ≠ ProviderStatus.connected)
    (h : d.RemovesExactly distance dict) :
    d.providerIds.count (Provider.ofDict dict).providerId ≤ 1 := by
  rw [RemovesExactly, pingReceived_of_departed hstatus, providerDisconnected] at h
  generalize (Provider.ofDict dict).providerId = id at h ⊢
  obtain ⟨d', hping, hgone, _⟩ := h
  cases hlisted : d.isListed id with
  | true =>
    rw [hlisted, if_pos rfl] at hping
    simp only [bind_eq_ok, pure_eq_ok, Prod.exists] at hping
    obtain ⟨providers, markers, hloop, rfl⟩ := hping
    rw [← countP_eq_count, ← atMostOne_iff_countP]
    refine @atMostOne_of_eraseEnumerated _ _ _ _ _ _ [] _ _ _ hloop fun p hp => ?_
    rw [beq_eq_false_iff_ne]
    exact fun heq => hgone (List.mem_map.mpr ⟨p, hp, heq⟩)
  | false =>
    rw [List.count_eq_zero_of_not_mem (not_isListed_iff.mp hlisted)]
    exact Nat.zero_le 1

end ClientDashboard

/-! ## 2. Every dashboard of a phone -/

namespace ClientPhone

variable {distance : CLLocation → CLLocation → ℚ}

/-- **When a departure removes exactly that provider.**  In every state that a run of the client's
app reaches, over any lists and any pings, and for every ping that is not `connected`: the ping is
handled without a trap, nobody with its id is listed any more, and all the others are, in their
order and each with its own marker, exactly if the id is listed once at most. -/
theorem departure_removes_iff {device : Device} {onMain : Bool} {p : ClientPhone}
    (hrun : (machine distance).Run { app := .launch device onMain } p) {i : Nat}
    {s : ClientSession} (listed : p.app.sessions[i]? = some s) {dict : Dict}
    (hstatus : (Provider.ofDict dict).status ≠ ProviderStatus.connected) :
    s.dashboard.RemovesExactly distance dict ↔
      s.dashboard.providerIds.count (Provider.ofDict dict).providerId ≤ 1 :=
  ⟨ClientDashboard.count_of_removesExactly hstatus,
    ClientDashboard.removesExactly_of_count ((tracks_of_run hrun).sessions i s listed).paired
      hstatus⟩

/-- A dashboard whose list has these providers. -/
def listPhone (ids : List Int) : List ClientPhoneEvent :=
  [.app .pushDashboard, .didUpdateLocations ⟨40, -73⟩,
    .app (.session 0 (.onlineProviderList 0 (some [("OnlineProviderList",
      .arr (ids.map fun id => .obj (ClientDashboard.statusOf id "40.001" "-73" "connected")))])))]

/-- Provider 16 goes offline. -/
def departure : Dict := ClientDashboard.statusOf 16 "40.001" "-73" "disconnected"

/-- The dashboard lists these providers, in a state that a run reaches. -/
theorem exists_listing (ids : List Int)
    (h : ((machine sampleDistance).replay (fun _ _ => true)
      { app := .launch ClientSession.sampleDevice false } (listPhone ids)).any
        (fun p => p.app.sessions[0]?.any fun s => s.dashboard.providerIds == ids) = true) :
    ∃ p s, (machine sampleDistance).Run
        { app := .launch ClientSession.sampleDevice false } p ∧
      p.app.sessions[0]? = some s ∧ s.dashboard.providerIds = ids := by
  obtain ⟨p, hrun, htest⟩ := Machine.exists_run_of_replay (C := fun _ _ => True)
    (machine sampleDistance) (fun _ _ => true) _ (listPhone ids) _
    (fun _ _ _ => trivial) h
  simp only [Option.any_eq_true, beq_iff_eq] at htest
  obtain ⟨s, hs, hids⟩ := htest
  exact ⟨p, s, hrun, hs, hids⟩

/-- One of two providers leaves. -/
theorem departure_removes_once : ∃ s : ClientSession, s.dashboard.providerIds = [16, 17] ∧
    s.dashboard.RemovesExactly sampleDistance departure := by
  obtain ⟨p, s, hrun, hs, hids⟩ := exists_listing [16, 17] (by decide +kernel)
  refine ⟨s, hids, (departure_removes_iff hrun hs (by decide)).mpr ?_⟩
  rw [hids]
  decide

/-- **Listed twice, the provider stays, and another one goes.**  The server's list names provider 16
twice, and then provider 17. -/
theorem bystander_removed : ¬∀ (p : ClientPhone) (i : Nat) (s : ClientSession) (dict : Dict),
    (machine sampleDistance).Run
      { app := .launch ClientSession.sampleDevice false } p →
    p.app.sessions[i]? = some s →
    (Provider.ofDict dict).status ≠ ProviderStatus.connected →
    s.dashboard.RemovesExactly sampleDistance dict := by
  intro hall
  obtain ⟨p, s, hrun, hs, hids⟩ := exists_listing [16, 16, 17] (by decide +kernel)
  have hcount := ClientDashboard.count_of_removesExactly (by decide)
    (hall p 0 s departure hrun hs (by decide))
  rw [hids] at hcount
  exact absurd hcount (by decide)

end ClientPhone

end WeatherAccommodation
