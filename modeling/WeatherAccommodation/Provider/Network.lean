/-
# Providers on one channel

Any number of providers, each with an app of its own, and the server between them.  The server
is not part of the source.  What is taken from it is that it relays every `trip_accepted` frame
to whoever is connected on the channel of the frame's client, with trip data added, in any order
and at any time; what the apps write is theirs.

`Network.machine` interleaves the apps.  An event is a step of one app, or a relayed frame that
reaches one app on one of its sockets.  An acceptance comes in on a client's channel in no other
way.
-/
import WeatherAccommodation.Provider.Steps

namespace WeatherAccommodation

open Foundation Reactive

/-! ## 1. Frames as the server gets them -/

/-- How values are rendered in a frame. -/
structure Rendering where
  /-- A value out of a dictionary. -/
  value : Json → String
  /-- A coordinate. -/
  degrees : ℚ → String

/-- A `trip_accepted` frame, and who wrote it. -/
structure Acceptance (ι : Type) where
  author : ι
  clientId : String
  providerId : Int
  location : Option CLLocation

namespace Acceptance

variable {ι : Type}

/-- The fields that `onConnect` writes. -/
def dict (r : Rendering) (f : Acceptance ι) : Dict :=
  [("ClientId", .str f.clientId), ("ProviderId", .str (toString f.providerId)),
    ("Latitude", .str (f.location.elim "" fun l => l.latitude.description r.degrees)),
    ("Longitude", .str (f.location.elim "" fun l => l.longitude.description r.degrees)),
    ("UserType", .str "provider"), ("RequestType", .str Trip_Status.accepted)]

/-- The acceptances among the frames of `author`. -/
def ofFrames (r : Rendering) (author : ι) (frames : List (Nat × ProviderFrame)) :
    List (Acceptance ι) :=
  frames.filterMap fun
    | (_, .accepted clientId providerId location) =>
      some { author := author, clientId := r.value clientId, providerId := providerId
             location := location }
    | _ => none

theorem mem_ofFrames {r : Rendering} {author : ι} {frames : List (Nat × ProviderFrame)}
    {f : Acceptance ι} (h : f ∈ ofFrames r author frames) :
    f.author = author ∧ ∃ socket clientId,
      (socket, ProviderFrame.accepted clientId f.providerId f.location) ∈ frames := by
  obtain ⟨⟨socket, frame⟩, hmem, hf⟩ := List.mem_filterMap.mp h
  cases frame with
  | accepted clientId providerId location =>
    obtain rfl := Option.some.inj hf
    exact ⟨rfl, socket, clientId, hmem⟩
  | locationUpdated => exact absurd hf (by simp)
  | reached => exact absurd hf (by simp)
  | cancelled => exact absurd hf (by simp)

end Acceptance

/-- What the server does to frame number `k`. -/
structure Server where
  enrich : Nat → Dict → Dict
  /-- Data is added, and none of the frame's own is replaced. -/
  keeps : ∀ k frame key, key = "RequestType" ∨ key = "ClientId" ∨ key = "ProviderId" →
    Dict.get? (enrich k frame) key = Dict.get? frame key

namespace Server

variable {ι : Type} (server : Server) (r : Rendering)

/-- Frame `k` as it is relayed. -/
def relayed (k : Nat) (f : Acceptance ι) : Dict := server.enrich k (f.dict r)

theorem relayed_clientId (k : Nat) (f : Acceptance ι) :
    Dict.get? (server.relayed r k f) "ClientId" = some (.str f.clientId) := by
  unfold relayed
  rw [server.keeps _ _ _ (Or.inr (Or.inl rfl))]
  rfl

theorem relayed_providerId (k : Nat) (f : Acceptance ι) :
    Dict.string? (server.relayed r k f) "ProviderId" = some (toString f.providerId) := by
  unfold Dict.string? relayed
  rw [server.keeps _ _ _ (Or.inr (Or.inr rfl))]
  rfl

end Server

/-! ## 2. The machine -/

structure Network (ι : Type) where
  apps : ι → ProviderApp
  /-- Every acceptance that was written so far, in order. -/
  sent : List (Acceptance ι)

inductive NetworkEvent (ι : Type) where
  | own (q : ι) (e : ProviderEvent)
  | relay (q : ι) (socket k : Nat) (state : ApplicationState) (selectedIndex : Nat)

namespace Network

variable {ι : Type} [DecidableEq ι] (distance : CLLocation → CLLocation → ℚ) (r : Rendering)
  (server : Server)

/-- Everybody is launched, each on a device of their own. -/
def start (devices : ι → Device) : Network ι where
  apps := fun q => { device := devices q }
  sent := []

/-- The app of `q` is now `b`; the server gets what it wrote. -/
def update (n : Network ι) (q : ι) (b : ProviderApp) : Network ι where
  apps := Function.update n.apps q b
  sent := n.sent ++ Acceptance.ofFrames r q (b.frames.drop (n.apps q).frames.length)

/-- The event brings an acceptance on the channel of a client. -/
def bringsAcceptance (a : ProviderApp) : ProviderEvent → Bool
  | .onMessage socket text _ _ =>
    match a.sockets.sockets[socket]? with
    | some (.clientProviderConnection _) => ProviderDashboard.isAcceptance text
    | _ => false
  | _ => false

def react (n : Network ι) : NetworkEvent ι → Option (Except Trap (Network ι))
  | .own q e =>
    if bringsAcceptance (n.apps q) e then none
    else (ProviderApp.react distance (n.apps q) e).map fun result => result.map (n.update r q)
  | .relay q socket k state selectedIndex =>
    match n.sent[k]?, (n.apps q).sockets.sockets[socket]? with
    | some f, some (.clientProviderConnection clientId) =>
      if r.value clientId = f.clientId then
        (ProviderApp.react distance (n.apps q) (.onMessage socket
          (some (.obj (server.relayed r k f))) state selectedIndex)).map fun result =>
            result.map (n.update r q)
      else none
    | _, _ => none

def machine : Machine (Network ι) (NetworkEvent ι) Trap where
  react := react distance r server

/-- A step of the network is a step of one app. -/
theorem step_inv {n n' : Network ι} {e : NetworkEvent ι}
    (h : (machine distance r server).Step n e n') :
    (∃ q e' b, e = .own q e' ∧ bringsAcceptance (n.apps q) e' = false ∧
        (ProviderApp.machine distance).Step (n.apps q) e' b ∧ n' = n.update r q b) ∨
      ∃ q socket k state selectedIndex f b, e = .relay q socket k state selectedIndex ∧
        n.sent[k]? = some f ∧
        (ProviderApp.machine distance).Step (n.apps q) (.onMessage socket
          (some (.obj (server.relayed r k f))) state selectedIndex) b ∧ n' = n.update r q b := by
  have h' : react distance r server n e = some (.ok n') := h
  cases e with
  | own q e' =>
    left
    simp only [react] at h'
    split at h'
    · exact absurd h' (by simp)
    · rename_i hother
      obtain ⟨b, hb, rfl⟩ := handled_eq_ok.mp h'
      exact ⟨q, e', b, rfl, by simpa using hother, hb, rfl⟩
  | relay q socket k state selectedIndex =>
    right
    simp only [react] at h'
    split at h'
    · rename_i f clientId hf _
      split at h'
      · obtain ⟨b, hb, rfl⟩ := handled_eq_ok.mp h'
        exact ⟨q, socket, k, state, selectedIndex, f, b, rfl, hf, hb, rfl⟩
      · exact absurd h' (by simp)
    · exact absurd h' (by simp)

@[simp] theorem apps_update_self (n : Network ι) (q : ι) (b : ProviderApp) :
    (n.update r q b).apps q = b := by
  simp [update]

@[simp] theorem apps_update_of_ne (n : Network ι) {q q' : ι} (b : ProviderApp) (h : q' ≠ q) :
    (n.update r q b).apps q' = n.apps q' := by
  simp [update, h]

end Network

end WeatherAccommodation
