/-
# Sessions, and what belongs to one

A session lasts from a sign-in to the next time that nobody is signed in.  Screens are numbered in
the order in which they are made, and no screen is forgotten, so a session owns the screens from
the numbers on that were free when it began.  What has a smaller number was left behind by an
earlier session.
-/
import WeatherAccommodation.Globals

namespace WeatherAccommodation

open Foundation

/-- The screens that write on the request socket, on either side. -/
inductive ScreenKind where
  | dashboard
  | sheet
  | alert
  deriving DecidableEq, Repr

/-- One account's time on one side of the app. -/
structure Stay where
  id : Int
  /-- The number of its first screen of a kind. -/
  first : ScreenKind → Nat

namespace Stay

def owns (s : Stay) (kind : ScreenKind) (n : Nat) : Bool := decide (s.first kind ≤ n)

/-- The screen belongs to the stay that is going on. -/
def Owns (stay : Option Stay) (kind : ScreenKind) (n : Nat) : Prop :=
  ∃ s, stay = some s ∧ s.first kind ≤ n

theorem owns_of_any {stay : Option Stay} {kind : ScreenKind} {n : Nat}
    (h : (stay.any fun s => s.owns kind n) = true) : Owns stay kind n := by
  cases stay with
  | none => exact absurd h (by simp)
  | some s => exact ⟨s, rfl, by simpa [owns] using h⟩

/-- Nobody's stay owns nothing. -/
theorem not_owns {kind : ScreenKind} {n : Nat} : ¬Owns none kind n := by
  rintro ⟨s, hs, _⟩
  exact absurd hs (by simp)

/-- The screen that writes belongs to the stay. -/
structure Writes (stay : Option Stay) (writer : Option (ScreenKind × Nat)) (s : Stay)
    (kind : ScreenKind) (n : Nat) : Prop where
  writer : writer = some (kind, n)
  now : stay = some s
  owns : s.first kind ≤ n

end Stay

/-- The value reads as the id, once it is interpolated into a text. -/
def reads (id : Int) (value : Json) : Bool :=
  value.asInt? == some id || value.asString? == some (toString id)

/-- Where the trip says whose it is, it names the account. -/
def isTripOf (role : UserLoginType) (id : Int) (trip : Dict) : Bool :=
  (Dict.get? trip role.idKey).all (reads id)

/-- The text, if it says so at all, is about a trip of the account. -/
def isAboutTripOf (role : UserLoginType) (id : Int) : Message → Bool
  | some (.obj dict) => isTripOf role id dict
  | _ => true

/-- What is resumed is a trip of the account. -/
def resumesOwn (role : UserLoginType) (id : Int) (doesRequestExist : Bool) (trip : Option Dict) :
    Bool :=
  !doesRequestExist || trip.all (isTripOf role id)

/-- What a trip says of its account reads as the id. -/
theorem reads_of_isTripOf {role : UserLoginType} {id : Int} {trip : Dict} {value : Json}
    (h : isTripOf role id trip = true) (hvalue : Dict.get? trip role.idKey = some value) :
    reads id value = true := by
  simpa [isTripOf, hvalue] using h

/-- The id that the side `role` asks the profile for is there. -/
def Device.hasID (device : Device) (role : UserLoginType) : Bool :=
  match device.userID role with
  | .ok _ => true
  | .error _ => false

theorem Device.hasID_iff {device : Device} {role : UserLoginType} :
    device.hasID role = true ↔ ∃ id, device.userID role = .ok id := by
  unfold Device.hasID
  split
  · rename_i id hid
    simp [hid]
  · rename_i f hf
    simp [hf]

/-- What is stored as the profile. -/
def Device.profile (d : Device) : Option Stored := d.defaults.value .userProfileInfoDef

/-- The id is read off the profile, and off nothing else. -/
theorem Device.userID_congr {d d' : Device} (role : UserLoginType) (h : d'.profile = d.profile) :
    d'.userID role = d.userID role := by
  have hvalue : d'.defaults.value .userProfileInfoDef = d.defaults.value .userProfileInfoDef := h
  simp [Device.userID, UserDefaults.getObject, hvalue]

theorem Device.userID_of_profile {d : Device} {role : UserLoginType} {profile : Dict} {id : Int}
    (h : d.profile = some (.dict profile)) :
    d.userID role = .ok id ↔ Dict.int? profile role.idKey = some id := by
  have hvalue : d.defaults.value .userProfileInfoDef = some (.dict profile) := h
  simp [Device.userID, UserDefaults.getObject, hvalue]

/-- The keys of an account: all but those of the chosen card. -/
def DefaultsKey.isOfAccount : DefaultsKey → Bool
  | .userCardSelected | .userCardCount | .userStripeId => false
  | _ => true

/-- What an event leaves under a key of the account: what was there, the profile that a reply
brings, or the flag taken down. -/
inductive Leaves (before after : Option Stored) (reply : Option Dict) : DefaultsKey → Prop
  | same {key : DefaultsKey} (h : after = before) : Leaves before after reply key
  | profile {profile : Dict} (stores : reply = some profile)
      (h : after = some (.dict profile)) : Leaves before after reply .userProfileInfoDef
  | lowered (h : after = some (.bool false)) : Leaves before after reply .iSUerActivated

/-- Who is signed in, and on which side. -/
structure Session where
  role : UserLoginType
  stay : Stay

/-- The session as the side `role` sees it. -/
def Session.on (session : Option Session) (role : UserLoginType) : Option Stay :=
  session.bind fun s => if s.role = role then some s.stay else none

namespace Session

@[simp] theorem on_none (role : UserLoginType) : on none role = none := by
  simp [on]

@[simp] theorem on_self (s : Session) : on (some s) s.role = some s.stay := by
  simp [on]

theorem on_of_ne {s : Session} {role : UserLoginType} (h : s.role ≠ role) :
    on (some s) role = none := by
  simp [on, h]

theorem on_eq_some {session : Option Session} {role : UserLoginType} {stay : Stay} :
    on session role = some stay ↔ session = some ⟨role, stay⟩ := by
  cases session with
  | none => simp
  | some s =>
    obtain ⟨role', stay'⟩ := s
    by_cases h : role' = role
    · simp [on, h]
    · simp [on, h]

end Session

end WeatherAccommodation
