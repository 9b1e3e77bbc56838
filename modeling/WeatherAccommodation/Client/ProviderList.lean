/-
# The provider list is what the announcements say

The dashboard loads the list of online providers once and from then on handles status pings.
This file settles what the two arrays hold after any number of pings.

* **No fault.**  With distinct ids in the loaded list and numeric coordinates throughout, no
  unwrapping fails and no index is out of range (`handleStatus_isOk`).
* **Parallel arrays.**  Marker `i` stands at provider `i`'s coordinates and no id is listed
  twice (`Parallel`, kept by `Parallel.handleStatus`).
* **Membership.**  An id is listed exactly when it was announced in reach since its last
  departure (`providerList_spec`).

`handleStatus_cases` says once what a ping can do to the screen; the other modules use it
instead of the handlers.
-/
import Mathlib.Algebra.Order.Group.Unbundled.Abs
import WeatherAccommodation.Client.Dashboard
import WeatherAccommodation.Library.Since

namespace WeatherAccommodation

open Foundation Reactive

/-- Metres along a meridian, roughly; as far as it gets where a latitude is no number. -/
def sampleDistance (a b : CLLocation) : ℚ :=
  match a.latitude, b.latitude with
  | .number x, .number y => |x - y| * 100000
  | _, _ => 20000000

namespace ClientDashboard

variable {distance : CLLocation → CLLocation → ℚ} {d d' : ClientDashboard} {p : Provider}

/-! ## 1. What one ping can do -/

/-- The reading of a provider's position against the client's. -/
def InReach (distance : CLLocation → CLLocation → ℚ) (here : CLLocation) (p : Provider) : Prop :=
  ∃ l, p.location? = some l ∧ distance here l ≤ oneMile

theorem isListed_iff {id : Int} : d.isListed id = true ↔ id ∈ d.providerIds := by
  simp [isListed, providerIds]

theorem not_isListed_iff {id : Int} : d.isListed id = false ↔ id ∉ d.providerIds := by
  rw [← isListed_iff, Bool.not_eq_true]

/-- Appending needs the coordinates and the client's own position, and asks for reach. -/
theorem appendIfReachable_cases (h : d.appendIfReachable distance p = .ok d') :
    ∃ here l, d.clientLocation = some here ∧ p.location? = some l ∧
      ((distance here l ≤ oneMile ∧ d' = d.append p l) ∨
        (¬distance here l ≤ oneMile ∧ d' = d)) := by
  simp only [appendIfReachable, isProviderInsideReachableArea, bind_eq_ok, unwrap_eq_ok,
    pure_eq_ok, forceLocation_eq_ok] at h
  obtain ⟨l, hl, near, ⟨here, hhere, rfl⟩, hd⟩ := h
  refine ⟨here, l, hhere, hl, ?_⟩
  by_cases hnear : distance here l ≤ oneMile
  · left
    rw [if_pos (by simpa using hnear), pure_eq_ok] at hd
    exact ⟨hnear, hd.symm⟩
  · right
    rw [if_neg (by simpa using hnear), pure_eq_ok] at hd
    exact ⟨hnear, hd.symm⟩

/-- Conversely, with both positions known it does not fail. -/
theorem appendIfReachable_isOk (distance : CLLocation → CLLocation → ℚ) {here l : CLLocation}
    (hhere : d.clientLocation = some here) (hl : p.location? = some l) :
    ∃ d', d.appendIfReachable distance p = .ok d' := by
  have hforce : forceLocation p.latitude p.longitude = .ok l := forceLocation_eq_ok.mpr hl
  by_cases hnear : distance here l ≤ oneMile
  · refine ⟨d.append p l, ?_⟩
    simp only [appendIfReachable, isProviderInsideReachableArea, bind_eq_ok, unwrap_eq_ok,
      pure_eq_ok]
    exact ⟨l, hforce, true, ⟨here, hhere, by simpa using hnear⟩, rfl⟩
  · refine ⟨d, ?_⟩
    simp only [appendIfReachable, isProviderInsideReachableArea, bind_eq_ok, unwrap_eq_ok,
      pure_eq_ok]
    exact ⟨l, hforce, false, ⟨here, hhere, by simpa using hnear⟩, rfl⟩

theorem appendIfReachable_frame (h : d.appendIfReachable distance p = .ok d') :
    ∃ ps ms, d' = { d with arrOnlineProviders := ps, arrMarkers := ms } := by
  obtain ⟨_, _, _, _, ⟨_, rfl⟩ | ⟨_, rfl⟩⟩ := appendIfReachable_cases h
  · exact ⟨_, _, rfl⟩
  · exact ⟨d'.arrOnlineProviders, d'.arrMarkers, rfl⟩

/-- A handled ping leaves everything but the two arrays alone. -/
theorem handleStatus_frame (h : d.handleStatus distance p = .ok d') :
    ∃ ps ms, d' = { d with arrOnlineProviders := ps, arrMarkers := ms } := by
  simp only [handleStatus, providerConnected, providerDisconnected] at h
  split at h
  · split at h
    · rw [pure_eq_ok] at h
      exact ⟨d.arrOnlineProviders, d.arrMarkers, h.symm⟩
    · exact appendIfReachable_frame h
  · split at h
    · simp only [bind_eq_ok, pure_eq_ok, Prod.exists] at h
      obtain ⟨ps, ms, _, rfl⟩ := h
      exact ⟨ps, ms, rfl⟩
    · rw [pure_eq_ok] at h
      exact ⟨d.arrOnlineProviders, d.arrMarkers, h.symm⟩

theorem pingReceived_frame {text : Message} (h : d.pingReceived distance text = .ok d') :
    ∃ ps ms, d' = { d with arrOnlineProviders := ps, arrMarkers := ms } := by
  simp only [pingReceived, bind_eq_ok] at h
  obtain ⟨o, _, h⟩ := h
  cases o with
  | none =>
    rw [pure_eq_ok] at h
    exact ⟨d.arrOnlineProviders, d.arrMarkers, h.symm⟩
  | some dict => exact handleStatus_frame h

/-- So does loading the list. -/
theorem appendOnlineProviders_frame {items : List Json} {d d' : ClientDashboard}
    (h : appendOnlineProviders distance items d = .ok d') :
    ∃ ps ms, d' = { d with arrOnlineProviders := ps, arrMarkers := ms } := by
  induction items generalizing d with
  | nil =>
    obtain rfl : d = d' := by simpa [appendOnlineProviders] using h
    exact ⟨d.arrOnlineProviders, d.arrMarkers, rfl⟩
  | cons item items ih =>
    simp only [appendOnlineProviders, bind_eq_ok, unwrap_eq_ok] at h
    obtain ⟨dict, _, d₁, hone, hrest⟩ := h
    obtain ⟨ps, ms, rfl⟩ := appendIfReachable_frame hone
    obtain ⟨ps', ms', rfl⟩ := ih hrest
    exact ⟨ps', ms', rfl⟩

/-! ## 2. The arrays stay parallel -/

/-- Marker `m` stands where provider `p` said it was. -/
def MarkerAt (p : Provider) (m : Marker) : Prop := p.location? = some m.position

/-- The invariant of the two arrays. -/
structure Parallel (d : ClientDashboard) : Prop where
  markers : List.Forall₂ MarkerAt d.arrOnlineProviders d.arrMarkers
  distinct : d.providerIds.Nodup

theorem Parallel.length_eq (h : d.Parallel) :
    d.arrOnlineProviders.length = d.arrMarkers.length := h.markers.length_eq

/-- Nothing listed, nothing on the map. -/
theorem Parallel.of_nil (hp : d.arrOnlineProviders = []) (hm : d.arrMarkers = []) :
    d.Parallel where
  markers := by rw [hp, hm]; exact .nil
  distinct := by simp [providerIds, hp]

/-- A provider that is not listed may be appended at its own position. -/
theorem Parallel.append (h : d.Parallel) {l : CLLocation} (hl : p.location? = some l)
    (hnew : p.providerId ∉ d.providerIds) : (d.append p l).Parallel where
  markers := List.rel_append h.markers (.cons hl .nil)
  distinct := by
    have hids : (d.append p l).providerIds = d.providerIds ++ [p.providerId] := by
      simp [providerIds, ClientDashboard.append]
    rw [hids, List.nodup_append]
    refine ⟨h.distinct, by simp, ?_⟩
    intro a ha b hb
    obtain rfl : b = p.providerId := by simpa using hb
    rintro rfl
    exact hnew ha

/-- The loop of a departure removes the provider and its marker, and cannot fault. -/
theorem Parallel.erase (h : d.Parallel) (id : Int) :
    ∃ markers, eraseEnumerated (fun q => q.providerId == id) Trap.indexOutOfRange
        d.arrOnlineProviders 0 d.arrOnlineProviders d.arrMarkers
      = .ok (d.arrOnlineProviders.filter (fun q => !(q.providerId == id)), markers)
      ∧ Parallel { d with
          arrOnlineProviders := d.arrOnlineProviders.filter (fun q => !(q.providerId == id))
          arrMarkers := markers } := by
  obtain ⟨markers, hloop, hmarkers⟩ :=
    eraseEnumerated_eq Trap.indexOutOfRange h.markers (atMostOne_of_nodup h.distinct id)
  refine ⟨markers, hloop, hmarkers, ?_⟩
  exact h.distinct.sublist (List.filter_sublist.map Provider.providerId)

theorem countP_eq_count (d : ClientDashboard) (id : Int) :
    d.arrOnlineProviders.countP (fun p => p.providerId == id) = d.providerIds.count id := by
  rw [providerIds, List.count_eq_countP, List.countP_map]
  rfl

theorem Parallel.count_le (h : d.Parallel) (id : Int) : d.providerIds.count id ≤ 1 :=
  List.nodup_iff_count.mp h.distinct id

/-- **What a handled ping did.**  A connected ping of a listed provider changes nothing.  One
of an unlisted provider appends it if it is in reach.  Any other ping takes the provider off
the list, where it is once at most.  The client's own position and every other variable of the
screen stay. -/
theorem handleStatus_cases (h : d.handleStatus distance p = .ok d') :
    (p.status = ProviderStatus.connected ∧ p.providerId ∈ d.providerIds ∧ d' = d) ∨
    (p.status = ProviderStatus.connected ∧ p.providerId ∉ d.providerIds ∧
      ∃ here l, d.clientLocation = some here ∧ p.location? = some l ∧
        ((distance here l ≤ oneMile ∧ d' = d.append p l) ∨
          (¬distance here l ≤ oneMile ∧ d' = d))) ∨
    (p.status ≠ ProviderStatus.connected ∧ (d.providerIds.count p.providerId ≤ 1 →
      ∃ markers, d' = { d with
        arrOnlineProviders := d.arrOnlineProviders.filter fun q => !(q.providerId == p.providerId)
        arrMarkers := markers })) := by
  unfold handleStatus at h
  by_cases hc : p.status = ProviderStatus.connected
  · rw [if_pos hc] at h
    unfold providerConnected at h
    by_cases hlist : d.isListed p.providerId = true
    · rw [if_pos hlist, pure_eq_ok] at h
      exact Or.inl ⟨hc, isListed_iff.mp hlist, h.symm⟩
    · rw [if_neg hlist] at h
      have hnew : p.providerId ∉ d.providerIds := fun hmem => hlist (isListed_iff.mpr hmem)
      exact Or.inr (Or.inl ⟨hc, hnew, appendIfReachable_cases h⟩)
  · rw [if_neg hc] at h
    refine Or.inr (Or.inr ⟨hc, fun hcount => ?_⟩)
    unfold providerDisconnected at h
    by_cases hlist : d.isListed p.providerId = true
    · rw [if_pos hlist] at h
      simp only [bind_eq_ok, pure_eq_ok, Prod.exists] at h
      obtain ⟨ps, markers, hloop, rfl⟩ := h
      have hone : AtMostOne (fun q => q.providerId == p.providerId) d.arrOnlineProviders := by
        rw [atMostOne_iff_countP, countP_eq_count]
        exact hcount
      obtain rfl := @eq_filter_of_eraseEnumerated _ _ _ _ _ _ [] _ _ _ hone hloop
      exact ⟨markers, rfl⟩
    · rw [if_neg hlist, pure_eq_ok] at h
      subst h
      refine ⟨d.arrMarkers, ?_⟩
      have hkeep : d.arrOnlineProviders.filter (fun q => !(q.providerId == p.providerId))
          = d.arrOnlineProviders := by
        apply filter_not_eq_self
        intro q hq
        have hne : p.providerId ∉ d.providerIds := fun hmem => hlist (isListed_iff.mpr hmem)
        simp only [beq_eq_false_iff_ne, ne_eq]
        intro heq
        exact hne (List.mem_map.mpr ⟨q, hq, heq⟩)
      rw [hkeep]

/-- The id of an entry of the loaded list. -/
def entryId (item : Json) : Int := (Provider.ofDict (item.asDict?.getD [])).providerId

/-- A loaded list that names nobody twice, and nobody already listed, keeps the invariant. -/
theorem Parallel.appendOnlineProviders {items : List Json} {d d' : ClientDashboard}
    (hd : d.Parallel) (h : ClientDashboard.appendOnlineProviders distance items d = .ok d')
    (hids : (items.map entryId).Nodup) (hnew : ∀ item ∈ items, entryId item ∉ d.providerIds) :
    d'.Parallel := by
  induction items generalizing d with
  | nil =>
    obtain rfl : d = d' := by simpa [ClientDashboard.appendOnlineProviders] using h
    exact hd
  | cons item items ih =>
    simp only [ClientDashboard.appendOnlineProviders, bind_eq_ok, unwrap_eq_ok] at h
    obtain ⟨dict, hdict, d₁, hone, hrest⟩ := h
    obtain ⟨hfresh, hids'⟩ := List.nodup_cons.mp hids
    have hid : entryId item = (Provider.ofDict dict).providerId := by simp [entryId, hdict]
    have hnew₀ : (Provider.ofDict dict).providerId ∉ d.providerIds := hid ▸ hnew item (by simp)
    obtain ⟨_, l, _, hl, ⟨_, rfl⟩ | ⟨_, rfl⟩⟩ := appendIfReachable_cases hone
    · refine ih (hd.append hl hnew₀) hrest hids' ?_
      intro item' hitem' hbad
      simp only [providerIds, ClientDashboard.append, List.map_append, List.map_cons,
        List.map_nil, List.mem_append, List.mem_singleton] at hbad
      rcases hbad with hold | heq
      · exact hnew item' (by simp [hitem']) hold
      · exact hfresh (List.mem_map.mpr ⟨item', hitem', heq.trans hid.symm⟩)
    · exact ih hd hrest hids' fun item' hitem' => hnew item' (by simp [hitem'])

/-- Markers may change in every way but their place. -/
theorem Parallel.of_positions (hd : d.Parallel)
    (hp : d'.arrOnlineProviders = d.arrOnlineProviders)
    (hm : d'.arrMarkers.map Marker.position = d.arrMarkers.map Marker.position) :
    d'.Parallel where
  markers := by
    have hR : ∀ (ps : List Provider) (ms : List Marker), List.Forall₂ MarkerAt ps ms ↔
        List.Forall₂ (fun p l => p.location? = some l) ps (ms.map Marker.position) := by
      intro ps ms
      rw [List.forall₂_map_right_iff]
      exact Iff.rfl
    rw [hp, hR, hm, ← hR]
    exact hd.markers
  distinct := by
    rw [providerIds, hp]
    exact hd.distinct

theorem Parallel.handleStatus (hd : d.Parallel) (h : d.handleStatus distance p = .ok d') :
    d'.Parallel := by
  rcases handleStatus_cases h with
    ⟨_, _, rfl⟩ | ⟨_, hnew, here, l, _, hl, ⟨_, rfl⟩ | ⟨_, rfl⟩⟩ | ⟨hc, _⟩
  · exact hd
  · exact hd.append hl hnew
  · exact hd
  · unfold ClientDashboard.handleStatus providerDisconnected at h
    rw [if_neg hc] at h
    split at h
    · obtain ⟨markers, hloop, hpar⟩ := hd.erase p.providerId
      rw [hloop] at h
      simp only [bind_eq_ok, pure_eq_ok, Except.ok.injEq, exists_eq_left'] at h
      exact h ▸ hpar
    · exact pure_eq_ok.mp h ▸ hd

/-! ## 3. No ping with numeric coordinates faults -/

theorem handleStatus_isOk (distance : CLLocation → CLLocation → ℚ) (hd : d.Parallel)
    {here l : CLLocation} (hhere : d.clientLocation = some here) (hl : p.location? = some l) :
    ∃ d', d.handleStatus distance p = .ok d' := by
  unfold handleStatus
  by_cases hc : p.status = ProviderStatus.connected
  · rw [if_pos hc]
    unfold providerConnected
    by_cases hlist : d.isListed p.providerId = true
    · exact ⟨d, by rw [if_pos hlist]; rfl⟩
    · rw [if_neg hlist]
      exact appendIfReachable_isOk distance hhere hl
  · rw [if_neg hc]
    unfold providerDisconnected
    by_cases hlist : d.isListed p.providerId = true
    · obtain ⟨markers, hloop, _⟩ := hd.erase p.providerId
      rw [if_pos hlist, hloop]
      exact ⟨_, rfl⟩
    · exact ⟨d, by rw [if_neg hlist]; rfl⟩

/-! ## 4. Membership as a property of the history -/

/-- What the dashboard hears about providers. -/
inductive Notice where
  /-- An entry of the loaded list, or a connected ping. -/
  | announced (p : Provider)
  /-- Any other ping. -/
  | departed (id : Int)
  deriving DecidableEq, Repr

/-- A ping, as a notice. -/
def noticeOf (p : Provider) : Notice :=
  if p.status = ProviderStatus.connected then .announced p else .departed p.providerId

/-- The notice announces `id`, at a place in reach of `here`. -/
def AnnouncedInReach (distance : CLLocation → CLLocation → ℚ) (here : CLLocation) (id : Int) :
    Notice → Prop
  | .announced p => p.providerId = id ∧ InReach distance here p
  | .departed _ => False

/-- The notice says that `id` left. -/
def Departed (id : Int) : Notice → Prop
  | .announced _ => False
  | .departed j => j = id

/-- `id` was announced in reach, and has not left since. -/
def Online (distance : CLLocation → CLLocation → ℚ) (here : CLLocation) (h : List Notice)
    (id : Int) : Prop := Since (AnnouncedInReach distance here id) (Departed id) h

variable {here : CLLocation} {id : Int}

/-- Appending if in reach lists an id exactly when it was listed or is announced in reach. -/
theorem mem_appendIfReachable (hhere : d.clientLocation = some here)
    (h : d.appendIfReachable distance p = .ok d') :
    id ∈ d'.providerIds ↔
      AnnouncedInReach distance here id (.announced p) ∨ id ∈ d.providerIds := by
  obtain ⟨here', l, hhere', hl, hcases⟩ := appendIfReachable_cases h
  obtain rfl : here' = here := by simpa [hhere'] using hhere
  rcases hcases with ⟨hnear, rfl⟩ | ⟨hfar, rfl⟩
  · have hids : (d.append p l).providerIds = d.providerIds ++ [p.providerId] := by
      simp [providerIds, append]
    rw [hids, List.mem_append, List.mem_singleton]
    constructor
    · rintro (hid | rfl)
      · exact Or.inr hid
      · exact Or.inl ⟨rfl, l, hl, hnear⟩
    · rintro (⟨rfl, _⟩ | hid)
      · exact Or.inr rfl
      · exact Or.inl hid
  · constructor
    · exact fun hid => Or.inr hid
    · rintro (⟨_, l', hl', hnear⟩ | hid)
      · obtain rfl : l = l' := by simpa [hl] using hl'
        exact absurd hnear hfar
      · exact hid

/-- **One ping moves membership as one notice moves the history.** -/
theorem mem_handleStatus (hd : d.Parallel) (hhere : d.clientLocation = some here)
    (h : d.handleStatus distance p = .ok d') :
    id ∈ d'.providerIds ↔
      AnnouncedInReach distance here id (noticeOf p) ∨
        (id ∈ d.providerIds ∧ ¬Departed id (noticeOf p)) := by
  by_cases hc : p.status = ProviderStatus.connected
  · rw [noticeOf, if_pos hc]
    simp only [Departed, not_false_eq_true, and_true]
    rcases handleStatus_cases h with ⟨_, hlist, rfl⟩ | ⟨_, hnew, _⟩ | ⟨hnc, _⟩
    · constructor
      · exact fun hid => Or.inr hid
      · rintro (⟨rfl, _⟩ | hid)
        · exact hlist
        · exact hid
    · have hone : d.appendIfReachable distance p = .ok d' := by
        have hlist : d.isListed p.providerId = false := not_isListed_iff.mpr hnew
        simpa [ClientDashboard.handleStatus, providerConnected, hc, hlist] using h
      exact mem_appendIfReachable hhere hone
    · exact absurd hc hnc
  · rw [noticeOf, if_neg hc]
    simp only [AnnouncedInReach, Departed, false_or]
    rcases handleStatus_cases h with ⟨hc', _⟩ | ⟨hc', _⟩ | ⟨_, hleft⟩
    · exact absurd hc' hc
    · exact absurd hc' hc
    · obtain ⟨markers, rfl⟩ := hleft (hd.count_le _)
      simp only [providerIds, List.mem_map, List.mem_filter, Bool.not_eq_true',
        beq_eq_false_iff_ne, ne_eq]
      constructor
      · rintro ⟨q, ⟨hq, hne⟩, rfl⟩
        exact ⟨⟨q, hq, rfl⟩, fun heq => hne heq.symm⟩
      · rintro ⟨⟨q, hq, rfl⟩, hne⟩
        exact ⟨q, ⟨hq, fun heq => hne heq.symm⟩, rfl⟩

/-! ## 5. Loading the list, then any number of pings -/

/-- The entries of the loaded list appended one by one, after the history `h`. -/
theorem appendOnlineProviders_spec {items : List Dict} {d : ClientDashboard} {h : List Notice}
    (hd : d.Parallel) (hhere : d.clientLocation = some here)
    (hmem : ∀ id, id ∈ d.providerIds ↔ Online distance here h id)
    (hnum : ∀ e ∈ items, (Provider.ofDict e).location?.isSome)
    (hids : (items.map fun e => (Provider.ofDict e).providerId).Nodup)
    (hnew : ∀ e ∈ items, (Provider.ofDict e).providerId ∉ d.providerIds) :
    ∃ d', appendOnlineProviders distance (items.map Json.obj) d = .ok d' ∧ d'.Parallel ∧
      d'.clientLocation = some here ∧
      ∀ id, id ∈ d'.providerIds ↔
        Online distance here (h ++ items.map fun e => .announced (Provider.ofDict e)) id := by
  induction items generalizing d h with
  | nil => exact ⟨d, rfl, hd, hhere, by simpa using hmem⟩
  | cons e items ih =>
    obtain ⟨l, hl⟩ := Option.isSome_iff_exists.mp (hnum e (by simp))
    obtain ⟨d₁, hone⟩ := appendIfReachable_isOk distance hhere hl
    have hnew₀ : (Provider.ofDict e).providerId ∉ d.providerIds := hnew e (by simp)
    obtain ⟨hfresh, hids'⟩ := List.nodup_cons.mp hids
    have hmem₁ : ∀ id, id ∈ d₁.providerIds ↔
        Online distance here (h ++ [.announced (Provider.ofDict e)]) id := by
      intro id
      rw [mem_appendIfReachable hhere hone, hmem id]
      simp [Online, since_concat, Departed]
    have hkeep : d₁.Parallel ∧ d₁.clientLocation = some here := by
      obtain ⟨here', l', _, hl', ⟨_, rfl⟩ | ⟨_, rfl⟩⟩ := appendIfReachable_cases hone
      · exact ⟨hd.append hl' hnew₀, hhere⟩
      · exact ⟨hd, hhere⟩
    have hnew₁ : ∀ e' ∈ items, (Provider.ofDict e').providerId ∉ d₁.providerIds := by
      intro e' he' hbad
      rcases (mem_appendIfReachable hhere hone).mp hbad with ⟨heq, _⟩ | hold
      · exact hfresh (List.mem_map.mpr ⟨e', he', heq.symm⟩)
      · exact hnew e' (by simp [he']) hold
    obtain ⟨d', hrest, hd', hhere', hmem'⟩ :=
      ih hkeep.1 hkeep.2 hmem₁ (fun e' he' => hnum e' (by simp [he'])) hids' hnew₁
    refine ⟨d', ?_, hd', hhere', ?_⟩
    · simp only [List.map_cons, appendOnlineProviders, Json.asDict?_obj, unwrap_some, bind_eq_ok,
        Except.ok.injEq, exists_eq_left']
      exact ⟨d₁, hone, hrest⟩
    · simpa using hmem'

/-- Pings handled one by one, after the history `h`. -/
theorem handlePings_spec {pings : List Dict} {d : ClientDashboard} {h : List Notice}
    (hd : d.Parallel) (hhere : d.clientLocation = some here)
    (hmem : ∀ id, id ∈ d.providerIds ↔ Online distance here h id)
    (hnum : ∀ e ∈ pings, (Provider.ofDict e).location?.isSome) :
    ∃ d', pings.foldlM (fun d e => d.pingReceived distance (some (.obj e))) d = .ok d' ∧
      d'.Parallel ∧
      ∀ id, id ∈ d'.providerIds ↔
        Online distance here (h ++ pings.map fun e => noticeOf (Provider.ofDict e)) id := by
  induction pings generalizing d h with
  | nil => exact ⟨d, rfl, hd, by simpa using hmem⟩
  | cons e pings ih =>
    obtain ⟨l, hl⟩ := Option.isSome_iff_exists.mp (hnum e (by simp))
    obtain ⟨d₁, hone⟩ := handleStatus_isOk distance hd hhere hl
    have hhere₁ : d₁.clientLocation = some here := by
      obtain ⟨ps, ms, rfl⟩ := handleStatus_frame hone
      exact hhere
    have hmem₁ : ∀ id, id ∈ d₁.providerIds ↔
        Online distance here (h ++ [noticeOf (Provider.ofDict e)]) id := by
      intro id
      rw [mem_handleStatus hd hhere hone, hmem id]
      exact since_concat.symm
    obtain ⟨d', hrest, hd', hmem'⟩ :=
      ih (hd.handleStatus hone) hhere₁ hmem₁
        (fun e' he' => hnum e' (List.mem_cons_of_mem e he'))
    refine ⟨d', ?_, hd', by simpa using hmem'⟩
    have hping : d.pingReceived distance (some (.obj e)) = .ok d₁ := by
      simpa [pingReceived] using hone
    simp only [List.foldlM_cons, bind_eq_ok]
    exact ⟨d₁, hping, hrest⟩

/-- The dashboard at the fixed place `here`: the loaded list, then the pings. -/
def trackProviders (distance : CLLocation → CLLocation → ℚ) (here : CLLocation)
    (loaded pings : List Dict) : Except Trap ClientDashboard := do
  let d ← appendOnlineProviders distance (loaded.map Json.obj) { clientLocation := some here }
  pings.foldlM (fun d e => d.pingReceived distance (some (.obj e))) d

/-- **The provider list is what the announcements say.**  For any loaded list with distinct
ids and any pings, all with numeric coordinates, nothing traps, the arrays run parallel with
each marker at its provider's coordinates, no id is listed twice, and an id is listed exactly
when it was announced within a mile and no ping has taken it off since. -/
theorem trackProviders_spec (distance : CLLocation → CLLocation → ℚ) (here : CLLocation)
    (loaded pings : List Dict)
    (hids : (loaded.map fun e => (Provider.ofDict e).providerId).Nodup)
    (hnum : ∀ e ∈ loaded ++ pings, (Provider.ofDict e).location?.isSome) :
    ∃ d, trackProviders distance here loaded pings = .ok d ∧
      d.arrOnlineProviders.length = d.arrMarkers.length ∧
      List.Forall₂ MarkerAt d.arrOnlineProviders d.arrMarkers ∧
      d.providerIds.Nodup ∧
      ∀ id, id ∈ d.providerIds ↔
        Since (AnnouncedInReach distance here id) (Departed id)
          ((loaded.map fun e => .announced (Provider.ofDict e)) ++
            pings.map fun e => noticeOf (Provider.ofDict e)) := by
  have hempty : Parallel { clientLocation := some here } := .of_nil rfl rfl
  have hnone : ∀ id, id ∈ ({ clientLocation := some here } : ClientDashboard).providerIds ↔
      Online distance here [] id := by
    intro id
    simp only [providerIds, List.map_nil, List.not_mem_nil, false_iff]
    exact not_since_nil
  obtain ⟨d₁, hload, hd₁, hhere₁, hmem₁⟩ := appendOnlineProviders_spec hempty rfl hnone
    (fun e he => hnum e (by simp [he])) hids (by simp [providerIds])
  obtain ⟨d, hpings, hd, hmem⟩ := handlePings_spec hd₁ hhere₁ hmem₁
    (fun e he => hnum e (List.mem_append_right loaded he))
  refine ⟨d, ?_, hd.length_eq, hd.markers, hd.distinct, hmem⟩
  simp only [trackProviders, bind_eq_ok]
  exact ⟨d₁, hload, hpings⟩

/-- A status dictionary. -/
def statusOf (id : Int) (latitude longitude status : String) : Dict :=
  [("ProviderId", .ofInt id), ("Latitude", .str latitude), ("Longitude", .str longitude),
    ("Status", .str status)]

/-- Provider 1 is loaded out of reach and comes near; provider 2 is loaded, and leaves. -/
theorem trackProviders_spec_moving :
    ∃ d, trackProviders sampleDistance ⟨40, -73⟩
        [statusOf 1 "40.5" "-73" "connected", statusOf 2 "40.001" "-73" "connected"]
        [statusOf 1 "40.01" "-73" "connected", statusOf 2 "40.001" "-73" "disconnected"]
      = .ok d ∧ d.providerIds.Nodup := by
  obtain ⟨d, hrun, _, _, hnodup, _⟩ :=
    trackProviders_spec sampleDistance ⟨40, -73⟩
      [statusOf 1 "40.5" "-73" "connected", statusOf 2 "40.001" "-73" "connected"]
      [statusOf 1 "40.01" "-73" "connected", statusOf 2 "40.001" "-73" "disconnected"]
      (by decide +kernel) (by decide +kernel)
  exact ⟨d, hrun, hnodup⟩

end ClientDashboard

end WeatherAccommodation
