/-
# The charge for extra equipment against the counts in the request

The charge accumulates on the application delegate, the counts on the dashboard; an accepted
press on the extra-equipment screen raises both by matching amounts (`accepted_matches`).
Two operations move one of them alone: a cancellation sets the charge to zero and leaves the
counts, and a fresh dashboard starts with its own counts and leaves the charge.

So the charge is the price of what was ordered since the last cancellation, and the counts
are worth what was ordered since the dashboard was made (`Ledger.Kept`).  They agree exactly
when nothing was ordered between these two moments (`Kept.billedRight_iff`), which a single
cancellation after an order already breaks (`cancelled_equipment_is_free`).
-/
import Mathlib.Algebra.Order.BigOperators.Group.List
import Mathlib.Tactic.Linarith
import WeatherAccommodation.Client.AppSteps

namespace WeatherAccommodation

open Foundation Reactive

/-! ## 1. What a step of one dashboard does to the bill -/

/-- The price of the equipment a dashboard counts. -/
def ClientDashboard.priceOfCounts (d : ClientDashboard) : ℚ :=
  9.99 * (d.umbrellaCount - 1) + 5 * (d.raincoatCount - 1) + 5 * (d.shoesCount - 1)

/-- The charge in a request is the price of its counts. -/
def ServiceRequest.BilledRight (body : ServiceRequest) : Prop :=
  body.equipmentCharge = 9.99 * body.umbrella + 5 * body.coat + 5 * body.shoes

namespace ClientSession

variable {distance : CLLocation → CLLocation → ℚ} {s t : ClientSession} {e : ClientEvent}

/-- The ways a step can touch the charge, the counts or the requests. -/
inductive BillMove (s t : ClientSession) : ClientEvent → Prop where
  | stay {e : ClientEvent} (price : t.dashboard.priceOfCounts = s.dashboard.priceOfCounts)
      (device : t.device = s.device) (requests : t.requests = s.requests)
      (other : e ≠ .cancelRequest) : BillMove s t e
  | asked (body : ServiceRequest)
      (price : t.dashboard.priceOfCounts = s.dashboard.priceOfCounts)
      (device : t.device = s.device) (requests : t.requests = s.requests ++ [body])
      (posts : s.dashboard.Posts s.device body) : BillMove s t .sendRequest
  | withdrawn (body : ServiceRequest)
      (price : t.dashboard.priceOfCounts = s.dashboard.priceOfCounts)
      (defaults : t.device.defaults = s.device.defaults)
      (charge : t.device.appDelegate.extraCharge = 0)
      (requests : t.requests = s.requests ++ [body])
      (status : body.requestStatus = Request_Status.cancelled) : BillMove s t .cancelRequest

theorem checkIfTripExists_bill (h : s.checkIfTripExists = .ok t) :
    t.dashboard.priceOfCounts = s.dashboard.priceOfCounts ∧ t.device = s.device ∧
      t.requests = s.requests := by
  rcases checkIfTripExists_inv h with ⟨_, rfl⟩ | ⟨trip, userID, _, ⟨_, here, rfl⟩ | ⟨_, rfl⟩⟩
  · exact ⟨rfl, rfl, rfl⟩
  · exact ⟨rfl, rfl, rfl⟩
  · exact ⟨rfl, rfl, rfl⟩

/-- **Every step of a dashboard is one of these.** -/
theorem step_billMove (h : (machine distance).Step s e t) (hown : ClientApp.isOwnEvent e = true) :
    BillMove s t e := by
  have hstep := step_inv h
  cases e with
  | tracingLocation l =>
    obtain rfl : t = s.tracingLocation l := hstep
    unfold tracingLocation
    split
    · exact .stay rfl rfl rfl (by simp)
    · exact .stay rfl rfl rfl (by simp)
  | onlineProviderList call response =>
    rcases onlineProviderList_inv hstep.2 with ⟨_, rfl⟩ | ⟨r, items, d, _, _, happend, hcheck⟩
    · exact .stay rfl rfl rfl (by simp)
    · obtain ⟨ps, ms, rfl⟩ := ClientDashboard.appendOnlineProviders_frame happend
      obtain ⟨hprice, hdevice, hrequests⟩ := checkIfTripExists_bill hcheck
      exact .stay hprice hdevice hrequests (by simp)
  | onMessage socket text =>
    rcases hstep with ⟨_, d, hping, rfl⟩ | ⟨_, _, hmsg⟩ | ⟨_, _, rfl⟩
    · obtain ⟨ps, ms, rfl⟩ := ClientDashboard.pingReceived_frame hping
      exact .stay rfl rfl rfl (by simp)
    · rcases requestMessage_inv hmsg with rfl | ⟨dict, _, rfl⟩
      · exact .stay rfl rfl rfl (by simp)
      · exact .stay rfl rfl rfl (by simp)
    · exact .stay rfl rfl rfl (by simp)
  | sendRequest =>
    rcases sendRequest_inv hstep.2 with rfl | ⟨marker, markers, body, hpost, _, hbody, rfl⟩
    · exact .stay rfl rfl rfl (by simp)
    · obtain ⟨howner, hcustomer, hsource, hu, hc, hb, hcharge, _, _⟩ :=
        ClientDashboard.requestParameters_inv hbody
      exact .asked body rfl rfl rfl ⟨hpost, howner, hcustomer, hsource, hu, hc, hb, hcharge⟩
  | requestReply call success =>
    obtain ⟨userID, _, rfl⟩ := hstep
    cases success with
    | true => exact .stay rfl rfl rfl (by simp)
    | false => exact .stay rfl rfl rfl (by simp)
  | cancelRequest =>
    obtain ⟨body, hbody, rfl⟩ := cancelRequestThroughWS_inv hstep.2
    exact .withdrawn body rfl rfl rfl rfl (ClientDashboard.cancelParameters_inv hbody).2.2
  | cancelReply call success =>
    rcases cancelReply_inv hstep.2 with ⟨_, rfl⟩ | ⟨frame, _, rfl⟩
    · exact .stay rfl rfl rfl (by simp)
    · exact .stay rfl rfl rfl (by simp)
  | timerFires timer =>
    obtain ⟨_, rfl⟩ := hstep
    exact .stay rfl rfl rfl (by simp)
  | distanceReply call values success =>
    obtain ⟨dict, _, hreply⟩ := hstep
    rcases distanceReply_inv hreply with
      ⟨markers, _, rfl⟩ | ⟨_, _, u, markers, henter, _, rfl⟩
    · exact .stay rfl rfl rfl (by simp)
    · obtain ⟨eta, here, marker, rfl⟩ := enterTrip_inv henter
      exact .stay rfl rfl rfl (by simp)
  | distanceTimerFires =>
    rcases callDistanceMatrixAPI_inv hstep with ⟨_, rfl⟩ | ⟨dict, _, rfl⟩
    · exact .stay rfl rfl rfl (by simp)
    · exact .stay rfl rfl rfl (by simp)
  | receivingLocationUpdate text =>
    obtain ⟨_, rfl⟩ := hstep
    exact .stay rfl rfl rfl (by simp)
  | viewWillAppear =>
    obtain ⟨d, hclear, rfl⟩ := hstep
    obtain ⟨marker, markers, _, rfl⟩ := ClientDashboard.clearTrip_inv hclear
    exact .stay rfl rfl rfl (by simp)
  | selectedProducts products => exact absurd hown (by simp [ClientApp.isOwnEvent])
  | elsewhere device busy => exact absurd hown (by simp [ClientApp.isOwnEvent])

/-- No dashboard writes to `UserDefaults`. -/
theorem step_defaults (h : (machine distance).Step s e t)
    (hown : ClientApp.isOwnEvent e = true) : t.device.defaults = s.device.defaults := by
  cases step_billMove h hown with
  | stay _ hdevice => exact congrArg Device.defaults hdevice
  | asked _ _ hdevice => exact congrArg Device.defaults hdevice
  | withdrawn _ _ hdefaults => exact hdefaults

end ClientSession

/-- **Where a `requested` body comes from**: it was there before, or a press on `Request` has
posted it just now. -/
theorem ClientApp.requested_inv {distance : CLLocation → CLLocation → ℚ} {a b : ClientApp}
    {e : AppEvent} (hof : StepOf distance a b e) {t : ClientSession} (ht : t ∈ b.sessions)
    {body : ServiceRequest} (hbody : body ∈ t.requests)
    (hreq : body.requestStatus = Request_Status.requested) :
    (∃ s ∈ a.sessions, body ∈ s.requests) ∨
      ∃ i s, e = .session i .sendRequest ∧ a.sessions[i]? = some s ∧
        s.dashboard.Posts a.device body := by
  cases e with
  | session i e =>
    obtain ⟨hown, s, u, hs, hst, rfl⟩ := hof
    have hmem := List.mem_of_getElem? hs
    rcases List.mem_or_eq_of_mem_set ht with ht | rfl
    · exact Or.inl ⟨t, ht, hbody⟩
    · cases ClientSession.step_billMove hst hown with
      | stay _ _ hrequests =>
        rw [hrequests] at hbody
        exact Or.inl ⟨s, hmem, hbody⟩
      | asked posted _ _ hrequests hposts =>
        rw [hrequests] at hbody
        rcases List.mem_append.mp hbody with hbody | hbody
        · exact Or.inl ⟨s, hmem, hbody⟩
        · obtain rfl := List.mem_singleton.mp hbody
          exact Or.inr ⟨i, s, rfl, hs, hposts⟩
      | withdrawn posted _ _ _ hrequests hstatus =>
        rw [hrequests] at hbody
        rcases List.mem_append.mp hbody with hbody | hbody
        · exact Or.inl ⟨s, hmem, hbody⟩
        · obtain rfl := List.mem_singleton.mp hbody
          exact absurd (hstatus.symm.trans hreq) (by decide)
  | signInReply reply =>
    rcases signInReply_inv hof.2 with ⟨_, rfl⟩ | ⟨_, _, _, _, _, rfl⟩
    · exact Or.inl ⟨t, ht, hbody⟩
    · rcases List.mem_append.mp ht with ht | ht
      · exact Or.inl ⟨t, ht, hbody⟩
      · obtain rfl := List.mem_singleton.mp ht
        simp at hbody
  | pushDashboard =>
    obtain ⟨_, rfl⟩ := pushDashboard_inv hof.2
    rcases List.mem_append.mp ht with ht | ht
    · exact Or.inl ⟨t, ht, hbody⟩
    · obtain rfl := List.mem_singleton.mp ht
      simp at hbody
  | nextPressed kits =>
    obtain ⟨_, _, _, ⟨rfl, _⟩ | ⟨_, _, _, _, hnotify, rfl⟩⟩ := nextPressed_inv hof
    · exact Or.inl ⟨t, ht, hbody⟩
    · obtain ⟨s, hs, d, rfl⟩ := mem_of_notifyProducts hnotify ht
      exact Or.inl ⟨s, hs, hbody⟩
  | _ =>
    have hsame := untouched hof rfl
    exact Or.inl ⟨t, hsame.1 ▸ ht, hbody⟩

/-! ## 2. What an accepted press does to every dashboard -/

namespace ExtraEquipment

open ClientDashboard

/-- A kit that is an `Umbrella`, a `Rain Coat` or `Shoes`, and nothing else of these. -/
def IsOnly (name : String) (others : List String) (kit : ProductKit) : Prop :=
  isNamed name kit = true ∧ ∀ other ∈ others, isNamed other kit = false

/-- The kit list in the order of the price list, or not loaded yet. -/
def InPriceOrder (kits : List ProductKit) : Prop :=
  kits = [] ∨ ∃ umbrella coat shoes, kits = [umbrella, coat, shoes] ∧
    IsOnly "Umbrella" ["Rain Coat", "Shoes"] umbrella ∧
    IsOnly "Rain Coat" ["Umbrella", "Shoes"] coat ∧ IsOnly "Shoes" ["Umbrella", "Rain Coat"] shoes

/-- The kit of a name, alone of that name among the kits with a size, gives its quantity. -/
theorem quantityOf_filter {name : String} (before after : List ProductKit) {kit : ProductKit}
    (hname : isNamed name kit = true)
    (hbefore : ∀ k ∈ before, isNamed name k = false) (hafter : ∀ k ∈ after, isNamed name k = false)
    (hqty : hasSelectedSize kit = true → ∃ n, int? kit.quantity = some n ∧ 0 < n) :
    quantityOf name ((before ++ kit :: after).filter hasSelectedSize) = .ok (charged kit) := by
  have hnone : ∀ l : List ProductKit, (∀ k ∈ l, isNamed name k = false) →
      (l.filter hasSelectedSize).find? (isNamed name) = none := by
    intro l hl
    rw [List.find?_eq_none]
    intro k hk
    simp [hl k (List.mem_of_mem_filter hk)]
  unfold quantityOf
  rw [List.filter_append, List.find?_append, hnone before hbefore, Option.none_or]
  cases hsel : hasSelectedSize kit with
  | true =>
    obtain ⟨n, hn, _⟩ := hqty hsel
    rw [List.filter_cons_of_pos hsel, List.find?_cons_of_pos hname]
    simp [charged, hsel, hn]
  | false =>
    rw [List.filter_cons_of_neg (by simp [hsel]), hnone after hafter]
    simp [charged, hsel]

/-- **An accepted press raises the charge and the counts of a dashboard by the same price.** -/
theorem accepted_matches {kits selected : List ProductKit} {before after : ℚ}
    {d d' : ClientDashboard} (hkits : InPriceOrder kits)
    (hpress : btnNextPressed kits before = .ok (after, some selected))
    (hshow : d.showSelectedProducts selected = .ok d') :
    d'.priceOfCounts - d.priceOfCounts = after - before := by
  obtain ⟨hafter, hselected, hqty⟩ := nextLoop_total hpress
  obtain ⟨u, c, b, hu, hc, hb, rfl⟩ := showSelectedProducts_inv hshow
  simp only [List.nil_append] at hselected
  subst hselected
  rcases hkits with rfl | ⟨umbrella, coat, shoes, rfl, hU, hC, hB⟩
  · simp only [quantityOf, List.filter_nil, List.find?_nil, pure_eq_ok] at hu hc hb
    subst hu hc hb
    simp [priceOfCounts, hafter, total]
  · have hu' := quantityOf_filter [] [coat, shoes] hU.1 (by simp)
      (by simp [hC.2, hB.2]) (hqty umbrella (by simp))
    have hc' := quantityOf_filter [umbrella] [shoes] hC.1
      (by simp [hU.2]) (by simp [hB.2]) (hqty coat (by simp))
    have hb' := quantityOf_filter [umbrella, coat] [] hB.1
      (by simp [hU.2, hC.2]) (by simp) (hqty shoes (by simp))
    simp only [List.nil_append, List.cons_append] at hu' hc' hb'
    obtain rfl : u = charged umbrella := Except.ok.inj (hu.symm.trans hu')
    obtain rfl : c = charged coat := Except.ok.inj (hc.symm.trans hc')
    obtain rfl : b = charged shoes := Except.ok.inj (hb.symm.trans hb')
    have h₀ : price? 0 = some 9.99 := by decide +kernel
    have h₁ : price? 1 = some 5 := by decide +kernel
    have h₂ : price? 2 = some 5 := by decide +kernel
    rw [hafter]
    simp only [total, h₀, h₁, h₂, Option.getD_some, priceOfCounts]
    push_cast
    ring

end ExtraEquipment

/-! ## 3. The ledger -/

namespace ExtraEquipment

/-- A press that orders nothing costs nothing. -/
theorem total_eq_zero {kits : List ProductKit} {index : Nat}
    (h : kits.any hasSelectedSize = false) : total kits index = 0 := by
  induction kits generalizing index with
  | nil => simp [total]
  | cons kit kits ih =>
    simp only [List.any_cons, Bool.or_eq_false_iff] at h
    rw [total, ih h.2, charged, if_neg (by simp [h.1])]
    simp

/-- An accepted order costs something. -/
theorem total_pos {kits selected : List ProductKit} {before after : ℚ}
    (hkits : InPriceOrder kits) (hpress : btnNextPressed kits before = .ok (after, some selected))
    (hany : kits.any hasSelectedSize = true) : 0 < total kits 0 := by
  obtain ⟨_, _, hqty⟩ := nextLoop_total hpress
  have hnonneg : ∀ kit ∈ kits, (0 : ℚ) ≤ charged kit := by
    intro kit hkit
    unfold charged
    split
    · rename_i hsel
      obtain ⟨n, hn, hpos⟩ := hqty kit hkit hsel
      simp only [hn, Option.getD_some]
      exact_mod_cast hpos.le
    · simp
  obtain ⟨kit, hkit, hsel⟩ := List.any_eq_true.mp hany
  have hpos : (0 : ℚ) < charged kit := by
    obtain ⟨n, hn, hpos⟩ := hqty kit hkit hsel
    simp only [charged, if_pos hsel, hn, Option.getD_some]
    exact_mod_cast hpos
  rcases hkits with rfl | ⟨umbrella, coat, shoes, rfl, _⟩
  · simp at hany
  · have h₀ : price? 0 = some 9.99 := by decide +kernel
    have h₁ : price? 1 = some 5 := by decide +kernel
    have h₂ : price? 2 = some 5 := by decide +kernel
    have hu := hnonneg umbrella (by simp)
    have hc := hnonneg coat (by simp)
    have hs := hnonneg shoes (by simp)
    simp only [total, h₀, h₁, h₂, Option.getD_some]
    simp only [List.mem_cons, List.not_mem_nil, or_false] at hkit
    rcases hkit with rfl | rfl | rfl
    · linarith
    · linarith
    · linarith

end ExtraEquipment

/-- What was ordered, and how much of it before the last cancellation and before each
dashboard was made. -/
structure Ledger where
  orders : List (List ProductKit) := []
  atCancel : Nat := 0
  atMaking : List Nat := []

namespace Ledger

open ExtraEquipment

def priceOf (orders : List (List ProductKit)) : ℚ := (orders.map (total · 0)).sum

def order (h : Ledger) (kits : List ProductKit) : Ledger :=
  if kits.any hasSelectedSize then { h with orders := h.orders ++ [kits] } else h

def make (h : Ledger) : Ledger := { h with atMaking := h.atMaking ++ [h.orders.length] }

/-- The history variable: nothing of it is read by a handler. -/
def note (h : Ledger) (_ : ClientApp) (e : AppEvent) (_ : ClientApp) : Ledger :=
  match e with
  | .nextPressed kits => h.order kits
  | .session _ .cancelRequest => { h with atCancel := h.orders.length }
  | .pushDashboard => h.make
  | .signInReply reply =>
    if Dict.int? reply "Success" = some successCode then h.make else h
  | _ => h

/-- Nothing was ordered between the last cancellation and the making of dashboard `i`, in
whichever order they came. -/
def NothingBetween (h : Ledger) (i : Nat) : Prop := h.atMaking[i]? = some h.atCancel

/-- A press on a list in price order, which no alert ends. -/
def AcceptedPress (a : ClientApp) (kits : List ProductKit) : Prop :=
  InPriceOrder kits ∧ ∃ charge selected,
    btnNextPressed kits a.device.appDelegate.extraCharge = .ok (charge, some selected)

/-- The runs the equipment law is about: every press is an accepted one. -/
def InDomain (x : ClientApp × Ledger) : AppEvent → Prop
  | .nextPressed kits => AcceptedPress x.1 kits
  | _ => True

/-- Requests are posted only from dashboards the charge has not drifted away from. -/
def Settled (x : ClientApp × Ledger) : AppEvent → Prop
  | .session i .sendRequest => x.2.NothingBetween i
  | _ => True

/-- Each dashboard counts what was ordered since it was made. -/
structure Counted (sessions : List ClientSession) (h : Ledger) : Prop where
  length : h.atMaking.length = sessions.length
  le : ∀ n ∈ h.atMaking, n ≤ h.orders.length
  counts : ∀ (i : Nat) (s : ClientSession) (n : Nat), sessions[i]? = some s →
    h.atMaking[i]? = some n → s.dashboard.priceOfCounts = priceOf (h.orders.drop n)

/-- The charge is what was ordered since the last cancellation. -/
structure Kept (x : ClientApp × Ledger) : Prop where
  counted : Counted x.1.sessions x.2
  atCancel : x.2.atCancel ≤ x.2.orders.length
  charge : x.1.device.appDelegate.extraCharge = priceOf (x.2.orders.drop x.2.atCancel)
  pos : ∀ kits ∈ x.2.orders, 0 < total kits 0

/-! ## 4. The ledger is kept -/

theorem priceOf_append (orders orders' : List (List ProductKit)) :
    priceOf (orders ++ orders') = priceOf orders + priceOf orders' := by
  simp [priceOf]

/-- Later suffixes are cheaper, as soon as they are shorter. -/
theorem priceOf_drop_lt {orders : List (List ProductKit)} {m n : Nat}
    (hpos : ∀ kits ∈ orders, 0 < total kits 0) (hmn : m < n) (hn : n ≤ orders.length) :
    priceOf (orders.drop n) < priceOf (orders.drop m) := by
  have hsplit : orders.drop m = (orders.drop m).take (n - m) ++ orders.drop n := by
    have htake := List.take_append_drop (n - m) (orders.drop m)
    rw [List.drop_drop] at htake
    rw [show m + (n - m) = n from by omega] at htake
    exact htake.symm
  have hmiddle : 0 < priceOf ((orders.drop m).take (n - m)) := by
    apply List.sum_pos
    · intro x hx
      obtain ⟨kits, hkits, rfl⟩ := List.mem_map.mp hx
      exact hpos kits (List.mem_of_mem_drop (List.mem_of_mem_take hkits))
    · intro hnil
      have hlen := congrArg List.length hnil
      simp only [List.length_map, List.length_take, List.length_drop, List.length_nil] at hlen
      omega
  rw [hsplit, priceOf_append]
  linarith

/-- Two suffixes cost the same only if they are the same. -/
theorem priceOf_drop_inj {orders : List (List ProductKit)} {m n : Nat}
    (hpos : ∀ kits ∈ orders, 0 < total kits 0) (hm : m ≤ orders.length) (hn : n ≤ orders.length) :
    priceOf (orders.drop m) = priceOf (orders.drop n) ↔ m = n := by
  constructor
  · intro heq
    rcases Nat.lt_trichotomy m n with hlt | rfl | hgt
    · exact absurd heq (priceOf_drop_lt hpos hlt hn).ne'
    · rfl
    · exact absurd heq (priceOf_drop_lt hpos hgt hm).ne
  · rintro rfl
    rfl

section Counted

variable {sessions : List ClientSession} {h : Ledger}

/-- A fresh dashboard counts nothing, and nothing was ordered since it was made. -/
theorem Counted.make (hc : Counted sessions h) (device : Device) :
    Counted (sessions ++ [{ device := device }]) h.make where
  length := by simp [Ledger.make, hc.length]
  le := by
    intro n hn
    rcases List.mem_append.mp hn with hn | hn
    · exact hc.le n hn
    · exact (List.mem_singleton.mp hn).le
  counts := by
    intro i s n hs hn
    simp only [Ledger.make, List.getElem?_append, hc.length] at hs hn
    split at hs
    · rename_i hi
      rw [if_pos hi] at hn
      exact hc.counts i s n hs hn
    · rename_i hi
      rw [if_neg hi] at hn
      obtain rfl := List.mem_singleton.mp (List.mem_of_getElem? hs)
      obtain rfl := List.mem_singleton.mp (List.mem_of_getElem? hn)
      simp [Ledger.make, priceOf, ClientDashboard.priceOfCounts]

/-- A step of one dashboard that leaves the price of its counts. -/
theorem Counted.set {i : Nat} {s t : ClientSession} (hc : Counted sessions h)
    (hs : sessions[i]? = some s)
    (hprice : t.dashboard.priceOfCounts = s.dashboard.priceOfCounts) :
    Counted (sessions.set i t) h where
  length := by simp [hc.length]
  le := hc.le
  counts := by
    intro j u n hu hn
    by_cases hij : i = j
    · subst hij
      obtain rfl : t = u := by
        have hlt := (List.getElem?_eq_some_iff.mp hs).1
        simpa [hlt] using hu
      rw [hprice]
      exact hc.counts i s n hs hn
    · exact hc.counts j u n (by simpa [hij] using hu) hn

/-- An order raises the counts of every dashboard by its price. -/
theorem Counted.order {sessions' : List ClientSession} {kits : List ProductKit}
    (hc : Counted sessions h) (hany : kits.any hasSelectedSize = true)
    (hraise : List.Forall₂ (fun s s' : ClientSession =>
      s'.dashboard.priceOfCounts = s.dashboard.priceOfCounts + total kits 0) sessions sessions') :
    Counted sessions' (h.order kits) where
  length := by
    rw [Ledger.order, if_pos hany]
    exact hc.length.trans hraise.length_eq
  le := by
    intro n hn
    rw [Ledger.order, if_pos hany] at hn ⊢
    have hle := hc.le n hn
    simp only [List.length_append, List.length_singleton]
    omega
  counts := by
    intro i s' n hs' hn
    rw [Ledger.order, if_pos hany] at hn ⊢
    have hlt : i < sessions.length := by
      rw [hraise.length_eq]
      exact (List.getElem?_eq_some_iff.mp hs').1
    have hrel := List.forall₂_iff_get.mp hraise
    obtain rfl : sessions'[i] = s' := (List.getElem?_eq_some_iff.mp hs').2
    have hold := hc.counts i sessions[i] n (List.getElem?_eq_getElem hlt) hn
    have hstep := hrel.2 i hlt (by rw [← hraise.length_eq]; exact hlt)
    simp only [List.get_eq_getElem] at hstep
    rw [hstep, hold, List.drop_append_of_le_length (hc.le n (List.mem_of_getElem? hn)),
      priceOf_append]
    simp [priceOf]

end Counted

variable {distance : CLLocation → CLLocation → ℚ} {x y : ClientApp × Ledger}

/-- What touches neither a dashboard nor the charge keeps the ledger. -/
theorem Kept.quiet {b : ClientApp} (hx : Kept x) (hsessions : b.sessions = x.1.sessions)
    (hcharge : b.device.appDelegate = x.1.device.appDelegate) : Kept (b, x.2) where
  counted := hsessions ▸ hx.counted
  atCancel := hx.atCancel
  charge := (congrArg AppDelegate.extraCharge hcharge).trans hx.charge
  pos := hx.pos

theorem Kept.make {b : ClientApp} {device : Device} (hx : Kept x)
    (hsessions : b.sessions = x.1.sessions ++ [{ device := device }])
    (hcharge : b.device.appDelegate = x.1.device.appDelegate) : Kept (b, x.2.make) where
  counted := hsessions ▸ hx.counted.make device
  atCancel := hx.atCancel
  charge := (congrArg AppDelegate.extraCharge hcharge).trans hx.charge
  pos := hx.pos

/-- A session's step is quiet, or a cancellation, which the ledger dates. -/
theorem Kept.session {i : Nat} {s t : ClientSession} {e : ClientEvent} (hx : Kept x)
    (hs : x.1.sessions[i]? = some s) (hmove : ClientSession.BillMove (x.1.lend s) t e) :
    Kept (x.1.store i t, note x.2 x.1 (.session i e) (x.1.store i t)) := by
  cases hmove with
  | stay hprice hdevice _ hother =>
    have hnote : note x.2 x.1 (.session i e) (x.1.store i t) = x.2 := by
      unfold note
      split
      · rename_i heq
        simp at heq
      · rename_i heq
        exact absurd (AppEvent.session.inj heq).2 hother
      · rename_i heq
        simp at heq
      · rename_i heq
        simp at heq
      · rfl
    rw [hnote]
    exact {
      counted := hx.counted.set hs hprice
      atCancel := hx.atCancel
      charge := (congrArg (fun d : Device => d.appDelegate.extraCharge) hdevice).trans hx.charge
      pos := hx.pos }
  | asked body hprice hdevice =>
    exact {
      counted := hx.counted.set hs hprice
      atCancel := hx.atCancel
      charge := (congrArg (fun d : Device => d.appDelegate.extraCharge) hdevice).trans hx.charge
      pos := hx.pos }
  | withdrawn body hprice _ hcharge =>
    have hset := hx.counted.set hs hprice
    exact {
      counted := ⟨hset.length, hset.le, hset.counts⟩
      atCancel := le_refl _
      charge := by simpa [note, priceOf, ClientApp.store] using hcharge
      pos := hx.pos }

/-- An accepted press: nothing, or one more order. -/
theorem Kept.press {kits : List ProductKit} {b : ClientApp} (hx : Kept x)
    (haccepted : AcceptedPress x.1 kits) (hpress : x.1.nextPressed kits = .ok b) :
    Kept (b, x.2.order kits) := by
  obtain ⟨hkits, charge, selected, hnext⟩ := haccepted
  obtain ⟨charge', selected', hnext', hcases⟩ := ClientApp.nextPressed_inv hpress
  obtain ⟨rfl, rfl⟩ : charge = charge' ∧ some selected = selected' := by
    simpa [hnext] using hnext'
  obtain ⟨hcharge, hselected, _⟩ := nextLoop_total hnext
  simp only [List.nil_append] at hselected
  have hsel : kits.any hasSelectedSize = false ↔ selected = [] := by
    rw [hselected, List.filter_eq_nil_iff, List.any_eq_false]
  rcases hcases with ⟨rfl, hnone⟩ | ⟨products, sessions, hsome, hne, hnotify, rfl⟩
  · have hany : kits.any hasSelectedSize = false := hsel.mpr (by simpa using hnone)
    rw [Ledger.order, if_neg (by simp [hany])]
    refine hx.quiet rfl ?_
    simp [ClientApp.setExtraCharge, hcharge, total_eq_zero hany]
  · obtain rfl : selected = products := by simpa using hsome
    have hany : kits.any hasSelectedSize = true := by
      rw [← Bool.not_eq_false, hsel]
      exact hne
    have hraise : List.Forall₂ (fun s s' : ClientSession =>
        s'.dashboard.priceOfCounts = s.dashboard.priceOfCounts + total kits 0)
        x.1.sessions sessions := by
      refine (ClientApp.notifyProducts_inv hnotify).imp ?_
      rintro s _ ⟨d, hshow, rfl⟩
      have hmatch := accepted_matches hkits hnext hshow
      simp only [hcharge] at hmatch
      simp only [ClientSession.put]
      linarith
    have hpos : 0 < total kits 0 := total_pos hkits hnext hany
    have hcounted := hx.counted.order hany hraise
    rw [Ledger.order, if_pos hany] at hcounted ⊢
    have hlt := hx.atCancel
    exact {
      counted := hcounted
      atCancel := by
        simp only [List.length_append, List.length_singleton]
        omega
      charge := by
        simp only [ClientApp.setExtraCharge, hcharge, List.drop_append_of_le_length hlt,
          priceOf_append, hx.charge]
        simp [priceOf]
      pos := by
        intro k hk
        rcases List.mem_append.mp hk with hk | hk
        · exact hx.pos k hk
        · exact List.mem_singleton.mp hk ▸ hpos }

/-- **One step of the app.** -/
theorem Kept.step {e : AppEvent} (hx : Kept x) (hdom : InDomain x e)
    (hstep : ((ClientApp.machine distance).withHistory note).Step x e y) : Kept y := by
  obtain ⟨a, h⟩ := x
  obtain ⟨b, h'⟩ := y
  obtain ⟨hab, hnote⟩ := Machine.withHistory_step.mp hstep
  obtain rfl : h' = note h a e b := hnote
  have hof : ClientApp.StepOf distance a b e := ClientApp.step_inv hab
  cases e with
  | session i e =>
    obtain ⟨hown, s, t, hs, hst, rfl⟩ := hof
    exact hx.session hs (ClientSession.step_billMove hst hown)
  | signInReply reply =>
    rcases ClientApp.signInReply_inv hof.2 with ⟨hno, rfl⟩ | ⟨id, device, _, hyes, rfl, rfl⟩
    · rw [note, if_neg hno]
      exact hx
    · rw [note, if_pos hyes]
      exact hx.make rfl rfl
  | pushDashboard =>
    obtain ⟨_, rfl⟩ := ClientApp.pushDashboard_inv hof.2
    exact hx.make rfl rfl
  | nextPressed kits => exact hx.press hdom hof
  | _ =>
    have hsame := ClientApp.untouched hof rfl
    exact hx.quiet hsame.1 hsame.2.1

/-! ## 5. The requests -/

/-- **When a posted body is billed right.** -/
theorem Kept.billedRight_iff {i : Nat} {s : ClientSession} {body : ServiceRequest}
    (hx : Kept x) (hs : x.1.sessions[i]? = some s) (hposts : s.dashboard.Posts x.1.device body) :
    body.BilledRight ↔ x.2.NothingBetween i := by
  have hlt : i < x.2.atMaking.length := by
    rw [hx.counted.length]
    exact (List.getElem?_eq_some_iff.mp hs).1
  have hmade : x.2.atMaking[i]? = some x.2.atMaking[i] := List.getElem?_eq_getElem hlt
  have hle := hx.counted.le _ (List.getElem_mem hlt)
  have hcounts : 9.99 * (body.umbrella : ℚ) + 5 * body.coat + 5 * body.shoes
      = s.dashboard.priceOfCounts := by
    rw [hposts.umbrella, hposts.coat, hposts.shoes, ClientDashboard.priceOfCounts]
    push_cast
    rfl
  rw [ServiceRequest.BilledRight, hposts.charge, hcounts, hx.charge,
    hx.counted.counts i s _ hs hmade, priceOf_drop_inj hx.pos hx.atCancel hle, NothingBetween,
    hmade, Option.some.injEq, eq_comm]

/-- Every `requested` body so far carries the price of its counts. -/
def Billed (a : ClientApp) : Prop :=
  ∀ s ∈ a.sessions, ∀ body ∈ s.requests,
    body.requestStatus = Request_Status.requested → body.BilledRight

theorem Billed.step {e : AppEvent} (hb : Billed x.1) (hx : Kept x) (hset : Settled x e)
    (hstep : (ClientApp.machine distance).Step x.1 e y.1) : Billed y.1 := by
  intro t ht body hbody hreq
  rcases ClientApp.requested_inv (ClientApp.step_inv hstep) ht hbody hreq with
    ⟨s, hs, hold⟩ | ⟨i, s, rfl, hs, hposts⟩
  · exact hb s hs body hold hreq
  · exact (hx.billedRight_iff hs hposts).mpr hset

/-- **If every request comes from a settled dashboard, every request is billed right.**  Over
any run of accepted presses, requests, cancellations, sign-ins and new dashboards. -/
theorem billed_right (device : Device) (onMain : Bool)
    (hrun : ((ClientApp.machine distance).withHistory note).RunWhere
      (fun x e => InDomain x e ∧ Settled x e) (ClientApp.launch device onMain, {}) x) :
    Billed x.1 := by
  have h₀ : Kept (ClientApp.launch device onMain, {}) ∧
      Billed (ClientApp.launch device onMain) := by
    refine ⟨⟨⟨rfl, by simp, by simp⟩, le_refl _, by simp [ClientApp.launch, priceOf], by simp⟩, ?_⟩
    intro s hs
    exact absurd hs (by simp [ClientApp.launch])
  have hI : Kept x ∧ Billed x.1 := by
    refine hrun.invariant (I := fun x => Kept x ∧ Billed x.1) h₀ ?_
    intro x e y hI hC hstep
    exact ⟨hI.1.step hC.1 hstep, hI.2.step hI.1 hC.2 (Machine.withHistory_step.mp hstep).1⟩
  exact hI.2

/-! ## 6. Two runs -/

/-- One umbrella, with a size; no coats, no shoes. -/
def oneUmbrella : List ProductKit :=
  [{ productKitId := 1, name := "Umbrella", quantity := "1",
     sizes := [{ productKitSizeId := 1, size := "One size", productKitId := 1, isSelected := true }] },
    { productKitId := 2, name := "Rain Coat", quantity := "", sizes := [] },
    { productKitId := 3, name := "Shoes", quantity := "", sizes := [] }]

theorem oneUmbrella_inPriceOrder : InPriceOrder oneUmbrella :=
  Or.inr ⟨_, _, _, rfl, ⟨by decide +kernel, by decide +kernel⟩,
    ⟨by decide +kernel, by decide +kernel⟩, ⟨by decide +kernel, by decide +kernel⟩⟩

/-- Presses for one umbrella, and only such that no alert ends. -/
def onlyUmbrellas (x : ClientApp × Ledger) : AppEvent → Bool
  | .nextPressed kits =>
    decide (kits = oneUmbrella) &&
      match btnNextPressed kits x.1.device.appDelegate.extraCharge with
      | .ok (_, some _) => true
      | _ => false
  | _ => true

theorem inDomain_of_onlyUmbrellas {e : AppEvent} (h : onlyUmbrellas x e = true) :
    InDomain x e := by
  cases e with
  | nextPressed kits =>
    obtain ⟨hkits, hpress⟩ := Bool.and_eq_true_iff.mp h
    refine ⟨of_decide_eq_true hkits ▸ oneUmbrella_inPriceOrder, ?_⟩
    split at hpress
    · rename_i charge selected heq
      exact ⟨charge, selected, heq⟩
    · exact absurd hpress (by simp)
  | _ => trivial

def isSettled (x : ClientApp × Ledger) : AppEvent → Bool
  | .session i .sendRequest => x.2.atMaking[i]? == some x.2.atCancel
  | _ => true

theorem settled_of_isSettled {e : AppEvent} (h : isSettled x e = true) : Settled x e := by
  cases e with
  | session i e =>
    cases e with
    | sendRequest => simpa [isSettled, Settled, NothingBetween] using h
    | _ => trivial
  | _ => trivial

/-- A dashboard is pushed and has found provider 16; then the umbrella is ordered. -/
def orderEvents : List AppEvent :=
  [.pushDashboard, .session 0 (.tracingLocation ⟨40, -73⟩),
    .session 0 (.onlineProviderList 0 (some [("OnlineProviderList",
      .arr [.obj (ClientDashboard.statusOf 16 "40.001" "-73" "connected")])])),
    .nextPressed oneUmbrella]

instance (body : ServiceRequest) : Decidable body.BilledRight :=
  inferInstanceAs (Decidable (_ = _))

/-- Some dashboard has posted a `requested` body for one umbrella, billed right or not. -/
def hasRequest (right : Bool) (x : ClientApp × Ledger) : Bool :=
  x.1.sessions.any fun s => s.requests.any fun body =>
    body.umbrella == 1 && body.requestStatus == Request_Status.requested &&
      decide body.BilledRight == right

theorem not_billed_of_hasRequest (h : hasRequest false x = true) : ¬Billed x.1 := by
  intro hb
  obtain ⟨s, hs, hbodies⟩ := List.any_eq_true.mp h
  obtain ⟨body, hbody, htest⟩ := List.any_eq_true.mp hbodies
  simp only [Bool.and_eq_true, beq_iff_eq, decide_eq_false_iff_not] at htest
  exact htest.2 (hb s hs body hbody htest.1.2)

/-- The umbrella is ordered, requested and paid for. -/
theorem billed_right_umbrella :
    ∃ x : ClientApp × Ledger, hasRequest true x = true ∧ Billed x.1 := by
  obtain ⟨x, hrun, hreq⟩ := Machine.exists_run_of_replay
    ((ClientApp.machine sampleDistance).withHistory note)
    (fun x e => onlyUmbrellas x e && isSettled x e)
    (ClientApp.launch ClientSession.sampleDevice false, {})
    (orderEvents ++ [.session 0 .sendRequest]) (hasRequest true)
    (C := fun x e => InDomain x e ∧ Settled x e) (by
      intro x e h
      obtain ⟨h₁, h₂⟩ := Bool.and_eq_true_iff.mp h
      exact ⟨inDomain_of_onlyUmbrellas h₁, settled_of_isSettled h₂⟩) (by decide +kernel)
  exact ⟨x, hreq, billed_right ClientSession.sampleDevice false hrun⟩

/-- **A cancellation makes the equipment free.**  The umbrella is ordered and requested, the
request is cancelled and posted again: the second body still asks for the umbrella, without
a charge. -/
theorem cancelled_equipment_is_free :
    ¬∀ (device : Device) (onMain : Bool) (x : ClientApp × Ledger),
      ((ClientApp.machine sampleDistance).withHistory note).RunWhere InDomain
        (ClientApp.launch device onMain, {}) x → Billed x.1 := by
  intro hall
  obtain ⟨x, hrun, hbad⟩ := Machine.exists_run_of_replay
    ((ClientApp.machine sampleDistance).withHistory note) onlyUmbrellas
    (ClientApp.launch ClientSession.sampleDevice false, {})
    (orderEvents ++ [.session 0 .sendRequest, .session 0 (.requestReply 0 true),
      .session 0 .cancelRequest, .session 0 (.cancelReply 0 true), .session 0 .sendRequest])
    (hasRequest false) (fun _ _ => inDomain_of_onlyUmbrellas) (by decide +kernel)
  exact not_billed_of_hasRequest hbad (hall ClientSession.sampleDevice false x hrun)

end Ledger

end WeatherAccommodation
