/-
# What every screen shares

The constants of `RDDataEngineClass.swift`, the ways a handler can trap, the typed accessors
of `RDGlobalFunction.swift` over `UserDefaults`, and the variables of `AppDelegate.swift`.

`UserDefaults` outlives every screen, every session and every sign-out.  Its keys are not
tied to a user: who reads a key gets what the last writer left there.
-/
import Mathlib.Logic.Function.Basic
import WeatherAccommodation.Library.Json
import WeatherAccommodation.Library.Machine
import WeatherAccommodation.Library.Numeral

namespace WeatherAccommodation

open Foundation Reactive

/-! ## 1. Constants -/

/-- `Trip_Status.Accepted` -/
def Trip_Status.accepted : String := "trip_accepted"

/-- `Trip_Status.cancelled` -/
def Trip_Status.cancelled : String := "trip_cancelled"

/-- `Numeric_TripStatus.accepted` -/
def Numeric_TripStatus.accepted : String := "6"

/-- `Numeric_TripStatus.started` -/
def Numeric_TripStatus.started : String := "7"

/-- `Numeric_TripStatus.ended` -/
def Numeric_TripStatus.ended : String := "8"

/-- `Request_Status.Requested` -/
def Request_Status.requested : String := "requested"

/-- `Request_Status.Cancelled` -/
def Request_Status.cancelled : String := "cancelled"

/-- `Request_Status.Reached` -/
def Request_Status.reached : String := "reached"

/-- `Request_Status.Started` -/
def Request_Status.started : String := "Trip_Started"

/-- `Request_Status.Ended` -/
def Request_Status.ended : String := "Trip_Ended"

/-- `Request_Status.Location_Updated` -/
def Request_Status.locationUpdated : String := "location_updated"

/-- `ProviderStatus.connected.rawValue` -/
def ProviderStatus.connected : String := "connected"

/-- `SUCCESSCODE` -/
def successCode : Int := 1

/-- `NOTVERIFIEDCODE` -/
def notVerifiedCode : Int := 2

/-- The two kinds of account: `RDDataEngineClass.clientApp` and `providerApp`. -/
inductive UserLoginType where
  | clientApp
  | providerApp
  deriving DecidableEq, Repr

/-- `UserProfileKey`: under which key a profile of this kind carries its account id. -/
def UserLoginType.idKey : UserLoginType → String
  | .clientApp => "ClientId"
  | .providerApp => "ProviderId"

/-! ## 2. Traps -/

/-- How a handler stops the app. -/
inductive Trap where
  /-- An implicitly unwrapped `clientLocation` that was never set. -/
  | clientLocation
  /-- An implicitly unwrapped `currentRequest` that is nil. -/
  | currentRequest
  /-- An implicitly unwrapped `currentAcceptedRequest` that is nil. -/
  | currentAcceptedRequest
  /-- A forced unwrapping of `dict[key]` where the key is absent. -/
  | missingKey (key : String)
  /-- `as!` on the value of `key`, which is absent or of another type. -/
  | badCast (key : String)
  /-- `Int(text)!` or `Double(text)!` on a text that it does not read. -/
  | notANumber (name : String)
  /-- A message that is JSON but no object. -/
  | notAnObject
  /-- An implicitly unwrapped socket that was never opened. -/
  | socket
  /-- An array index outside its bounds. -/
  | indexOutOfRange
  /-- `UserDefaults` was handed a value with a null in it. -/
  | notAPropertyList
  /-- A disconnection without an error, whose code is read. -/
  | noError
  /-- An implicitly unwrapped `reachedDate` that was never set. -/
  | reachedDate
  /-- `as!` on the `presentingViewController` of a sheet that is not presented. -/
  | presentingViewController
  /-- An implicitly unwrapped `navigationController` of a screen that is on no stack. -/
  | navigationController
  /-- An operation on `Int`s whose result is none. -/
  | overflow
  deriving DecidableEq, Repr

/-- `dict[key] as! Int` -/
def forceInt (d : Dict) (key : String) : Except Trap Int := unwrap (.badCast key) (Dict.int? d key)

/-- `dict[key] as! String` -/
def forceString (d : Dict) (key : String) : Except Trap String :=
  unwrap (.badCast key) (Dict.string? d key)

/-- `dict[key] as! [String: Any]` -/
def forceDict (d : Dict) (key : String) : Except Trap Dict :=
  unwrap (.badCast key) (Dict.dict? d key)

/-- `dict[key]!` -/
def forceKey (d : Dict) (key : String) : Except Trap Json :=
  unwrap (.missingKey key) (Dict.get? d key)

/-- `Int(text)!` -/
def forceNumeral (name text : String) : Except Trap Int := unwrap (.notANumber name) (int? text)

/-- `Double(text)!` -/
def forceDouble (name text : String) : Except Trap Double :=
  unwrap (.notANumber name) (double? text)

/-- `Double(text)!`, of a text that `Int` reads, or of a price. -/
def forceNumber (name text : String) : Except Trap ℚ := unwrap (.notANumber name) (number? text)

/-- The result of an operation on `Int`s, checked. -/
def checkedInt (n : Int) : Except Trap Int := if InInt n then .ok n else .error .overflow

@[simp] theorem checkedInt_eq_ok {m n : Int} : checkedInt m = .ok n ↔ InInt m ∧ m = n := by
  unfold checkedInt
  split <;> simp [*]

theorem avoids_checkedInt {P : Trap → Prop} (h : ¬P .overflow) (n : Int) :
    Avoids P (checkedInt n) :=
  avoids_ite (fun _ => avoids_ok n) fun _ => avoids_error h

@[simp] theorem forceInt_eq_ok {d : Dict} {key : String} {n : Int} :
    forceInt d key = .ok n ↔ Dict.int? d key = some n := unwrap_eq_ok

@[simp] theorem forceString_eq_ok {d : Dict} {key s : String} :
    forceString d key = .ok s ↔ Dict.string? d key = some s := unwrap_eq_ok

@[simp] theorem forceDict_eq_ok {d e : Dict} {key : String} :
    forceDict d key = .ok e ↔ Dict.dict? d key = some e := unwrap_eq_ok

@[simp] theorem forceKey_eq_ok {d : Dict} {key : String} {j : Json} :
    forceKey d key = .ok j ↔ Dict.get? d key = some j := unwrap_eq_ok

@[simp] theorem forceNumeral_eq_ok {name text : String} {n : Int} :
    forceNumeral name text = .ok n ↔ int? text = some n := unwrap_eq_ok

@[simp] theorem forceDouble_eq_ok {name text : String} {x : Double} :
    forceDouble name text = .ok x ↔ double? text = some x := unwrap_eq_ok

@[simp] theorem forceNumber_eq_ok {name text : String} {q : ℚ} :
    forceNumber name text = .ok q ↔ number? text = some q := unwrap_eq_ok

/-- `Double(dict[key]! as! String)!` is there. -/
def IsNumeral (dict : Dict) (key : String) : Prop :=
  ∃ text, Dict.string? dict key = some text ∧ (double? text).isSome = true

/-- `if let text = dict[key], text as! String == value` -/
def hasText (d : Dict) (key value : String) : Except Trap Bool :=
  match Dict.get? d key with
  | none => return false
  | some j => do
    let text ← unwrap (.badCast key) j.asString?
    return text == value

theorem hasText_eq_true {d : Dict} {key value : String} :
    hasText d key value = .ok true ↔ Dict.string? d key = some value := by
  unfold hasText Dict.string?
  cases Dict.get? d key with
  | none => simp
  | some j =>
    cases hj : j.asString? with
    | none => simp [hj, unwrap, bind, Except.bind]
    | some text => simp [hj]

/-- The test on a text that is there. -/
theorem hasText_of_string? {d : Dict} {key text : String} (h : Dict.string? d key = some text)
    (value : String) : hasText d key value = .ok (text == value) := by
  unfold hasText
  cases hj : Dict.get? d key with
  | none => exact absurd h (by simp [Dict.string?, hj])
  | some j =>
    have htext : j.asString? = some text := by simpa [Dict.string?, hj] using h
    simp [htext, bind, Except.bind, pure, Except.pure]

/-- A text that was tested for and not found is not there. -/
theorem string?_ne_of_hasText {d : Dict} {key value : String} (h : hasText d key value = .ok false) :
    Dict.string? d key ≠ some value := by
  intro hvalue
  rw [hasText_eq_true.mpr hvalue] at h
  exact absurd h (by simp)

/-- `dict[key]` is a text where there is one, as the `as!` of `hasText` wants it. -/
def IsTextIfAny (d : Dict) (key : String) : Prop :=
  ∀ j, Dict.get? d key = some j → j.asString?.isSome = true

theorem isTextIfAny_of_string? {d : Dict} {key text : String} (h : Dict.string? d key = some text) :
    IsTextIfAny d key := by
  intro j hj
  have htext : j.asString? = some text := by simpa [Dict.string?, hj] using h
  simp [htext]

/-- A test on a text goes through, and so does what follows it. -/
theorem hasText_ite_isOk_iff {α : Type} {d : Dict} {key value : String} {x y : Except Trap α} :
    (∃ r, (do if ← hasText d key value then x else y) = .ok r) ↔
      IsTextIfAny d key ∧ (Dict.string? d key = some value → ∃ r, x = .ok r) ∧
        (Dict.string? d key ≠ some value → ∃ r, y = .ok r) := by
  cases hj : Dict.get? d key with
  | none => simp [hasText, IsTextIfAny, Dict.string?, hj]
  | some j =>
    cases htext : j.asString? with
    | none => simp [hasText, IsTextIfAny, hj, htext, unwrap, bind, Except.bind]
    | some text =>
      have hstring : Dict.string? d key = some text := by simp [Dict.string?, hj, htext]
      rw [hasText_of_string? hstring, hstring]
      by_cases heq : text = value
      · simp [heq, isTextIfAny_of_string? hstring, bind, Except.bind]
      · simp [heq, isTextIfAny_of_string? hstring, bind, Except.bind]

/-- A text received on a socket, as `JSONSerialization` reads it; `none` when it is not JSON. -/
abbrev Message := Option Json

/-- `JSONSerialization.jsonObject(with: data, options: []) as? [String: Any]`, then `dict!`.
Text that is no JSON, or a bare scalar, throws and is caught (`none`); an array is no
dictionary, and the unwrapping traps. -/
def messageDict : Message → Except Trap (Option Dict)
  | some (.obj d) => .ok (some d)
  | some (.arr _) => .error .notAnObject
  | _ => .ok none

@[simp] theorem messageDict_obj (d : Dict) : messageDict (some (.obj d)) = .ok (some d) := rfl

/-- Only an object is read as a dictionary. -/
theorem eq_obj_of_messageDict {m : Message} {d : Dict} (h : messageDict m = .ok (some d)) :
    m = some (.obj d) := by
  unfold messageDict at h
  split at h
  · simpa using h
  · exact absurd h (by simp)
  · exact absurd h (by simp)

/-- The text is JSON, but a list. -/
def IsArray (m : Message) : Prop := ∃ items, m = some (.arr items)

/-- A handler that leaves everything else alone returns on every text but lists, and on an object if
it does so on the dictionary. -/
theorem messageDict_bind_isOk_iff {α : Type} {m : Message} {f : Option Dict → Except Trap α}
    (hnone : ∃ r, f none = .ok r) :
    (∃ r, (messageDict m >>= f) = .ok r) ↔
      ¬IsArray m ∧ ∀ dict, m = some (.obj dict) → ∃ r, f (some dict) = .ok r := by
  cases m with
  | none => simpa [messageDict, IsArray, bind, Except.bind] using hnone
  | some j =>
    cases j with
    | obj dict => simp [messageDict, IsArray, bind, Except.bind]
    | arr items => simp [messageDict, IsArray, bind, Except.bind]
    | _ => simpa [messageDict, IsArray, bind, Except.bind] using hnone

/-! ## 3. UserDefaults -/

/-- The keys the modelled screens read and write. -/
inductive DefaultsKey where
  | userLoginTypeInAppDef
  | userProfileInfoDef
  | iSUerActivated
  | userCardSelected
  | userCardCount
  | userStripeId
  | authVerificationID
  deriving DecidableEq, Repr

/-- A property list, as far as it is stored. -/
inductive Stored where
  | int (n : Int)
  | bool (b : Bool)
  | string (s : String)
  | dict (d : Dict)
  deriving Repr

/-- `UserDefaults.standard` -/
structure UserDefaults where
  value : DefaultsKey → Option Stored

namespace UserDefaults

/-- A device on which nothing was stored yet. -/
def empty : UserDefaults := ⟨fun _ => none⟩

/-- `UserDefaults.standard.set` -/
def set (u : UserDefaults) (key : DefaultsKey) (v : Stored) : UserDefaults :=
  ⟨Function.update u.value key (some v)⟩

@[simp] theorem value_set_self (u : UserDefaults) (key : DefaultsKey) (v : Stored) :
    (u.set key v).value key = some v := by
  simp [set]

@[simp] theorem value_set_of_ne (u : UserDefaults) {key key' : DefaultsKey} (v : Stored)
    (h : key' ≠ key) : (u.set key v).value key' = u.value key' := by
  simp [set, h]

/-- `getIntFromUserDefault` -/
def getInt (u : UserDefaults) (key : DefaultsKey) : Int :=
  match u.value key with
  | some (.int n) => n
  | some (.bool b) => if b then 1 else 0
  | _ => -1

/-- `setIntInUserDefault` -/
def setInt (u : UserDefaults) (key : DefaultsKey) (n : Int) : UserDefaults := u.set key (.int n)

/-- `getValueFromUserDefault` -/
def getValue (u : UserDefaults) (key : DefaultsKey) : String :=
  match u.value key with
  | some (.string s) => s
  | _ => ""

/-- `setValueInUserDefault` -/
def setValue (u : UserDefaults) (key : DefaultsKey) (s : String) : UserDefaults :=
  u.set key (.string s)

/-- `setBoolValueInUserDefault` -/
def setBool (u : UserDefaults) (key : DefaultsKey) (b : Bool) : UserDefaults :=
  u.set key (.bool b)

/-- `getObjectFromUserDefault`: the `as!` traps when no dictionary is stored. -/
def getObject (u : UserDefaults) (key : DefaultsKey) : Except Trap Dict :=
  match u.value key with
  | some (.dict d) => .ok d
  | _ => .error (.badCast "UserDefaults")

/-- `setObjectInUserDefault`: a dictionary with a null inside is no property list, and
`UserDefaults` raises an exception nobody catches. -/
def setObject (u : UserDefaults) (key : DefaultsKey) (d : Dict) : Except Trap UserDefaults :=
  if (Json.obj d).isPropertyList then .ok (u.set key (.dict d)) else .error .notAPropertyList

theorem setObject_eq_ok {u u' : UserDefaults} {key : DefaultsKey} {d : Dict} :
    u.setObject key d = .ok u' ↔ (Json.obj d).isPropertyList = true ∧ u' = u.set key (.dict d) := by
  unfold setObject
  split
  · rename_i h
    simp [h, eq_comm]
  · rename_i h
    simp [h]

@[simp] theorem getInt_setInt_self (u : UserDefaults) (key : DefaultsKey) (n : Int) :
    (u.setInt key n).getInt key = n := by
  simp [getInt, setInt]

@[simp] theorem getInt_setInt_of_ne (u : UserDefaults) {key key' : DefaultsKey} (n : Int)
    (h : key' ≠ key) : (u.setInt key n).getInt key' = u.getInt key' := by
  simp [getInt, setInt, h]

@[simp] theorem getValue_setValue_self (u : UserDefaults) (key : DefaultsKey) (s : String) :
    (u.setValue key s).getValue key = s := by
  simp [getValue, setValue]

@[simp] theorem getObject_eq_ok {u : UserDefaults} {key : DefaultsKey} {d : Dict} :
    u.getObject key = .ok d ↔ u.value key = some (.dict d) := by
  unfold getObject
  split
  · rename_i d' h
    simp [h]
  · rename_i h
    constructor
    · exact fun h' => absurd h' (by simp)
    · exact fun h' => absurd h' (h d)

end UserDefaults

/-! ## 4. The application delegate and the device -/

/-- The variables of `AppDelegate` that the screens share. -/
structure AppDelegate where
  showRequestUI : Bool := false
  doesRequestExist : Bool := false
  clientExistingTrip : Option Dict := none
  providerExistingTrip : Option Dict := none
  extraCharge : ℚ := 0
  deriving Repr

/-- All that survives a change of screen. -/
structure Device where
  defaults : UserDefaults
  appDelegate : AppDelegate

/-- The id of a trip, as it is interpolated into a text. -/
def tripId (trip : Dict) : Option String :=
  (Dict.get? trip "TripId").bind fun id => id.asString?.or (id.asInt?.map toString)

/-- `getObjectFromUserDefault(userProfileInfoDef).value(forKey: …) as! Int` -/
def Device.userID (d : Device) (role : UserLoginType) : Except Trap Int := do
  let profile ← d.defaults.getObject .userProfileInfoDef
  forceInt profile role.idKey

/-- `CLLocation`, or the coordinate inside it. -/
structure CLLocation where
  latitude : Double
  longitude : Double
  deriving DecidableEq, Repr

/-- `CLLocation(latitude: Double(latitude)!, longitude: Double(longitude)!)` -/
def forceLocation (latitude longitude : String) : Except Trap CLLocation := do
  let lat ← forceDouble "Latitude" latitude
  let long ← forceDouble "Longitude" longitude
  return { latitude := lat, longitude := long }

theorem forceLocation_isOk_iff {latitude longitude : String} :
    (∃ l, forceLocation latitude longitude = .ok l) ↔
      (double? latitude).isSome = true ∧ (double? longitude).isSome = true := by
  simp only [forceLocation, bind_eq_ok, forceDouble_eq_ok, pure_eq_ok, Option.isSome_iff_exists]
  constructor
  · rintro ⟨_, lat, hlat, long, hlong, _⟩
    exact ⟨⟨lat, hlat⟩, long, hlong⟩
  · rintro ⟨⟨lat, hlat⟩, long, hlong⟩
    exact ⟨_, lat, hlat, long, hlong, rfl⟩

/-! ## 5. Reading what came from outside -/

/-- `P` is none of the faults that come of reading a reply, a message or what was stored. -/
structure SparesData (P : Trap → Prop) : Prop where
  badCast (key : String) : ¬P (.badCast key)
  notANumber (name : String) : ¬P (.notANumber name)
  notAnObject : ¬P .notAnObject

namespace SparesData

variable {P : Trap → Prop}

theorem forceInt (h : SparesData P) (d : Dict) (key : String) : Avoids P (forceInt d key) :=
  avoids_unwrap fun _ => h.badCast key

theorem forceString (h : SparesData P) (d : Dict) (key : String) : Avoids P (forceString d key) :=
  avoids_unwrap fun _ => h.badCast key

theorem forceDict (h : SparesData P) (d : Dict) (key : String) : Avoids P (forceDict d key) :=
  avoids_unwrap fun _ => h.badCast key

theorem forceNumeral (h : SparesData P) (name text : String) :
    Avoids P (forceNumeral name text) :=
  avoids_unwrap fun _ => h.notANumber name

theorem forceDouble (h : SparesData P) (name text : String) : Avoids P (forceDouble name text) :=
  avoids_unwrap fun _ => h.notANumber name

theorem forceLocation (h : SparesData P) (latitude longitude : String) :
    Avoids P (forceLocation latitude longitude) := by
  refine (h.forceDouble _ _).bind fun _ _ => ?_
  exact (h.forceDouble _ _).bind fun _ _ => avoids_pure _

theorem hasText (h : SparesData P) (d : Dict) (key value : String) :
    Avoids P (hasText d key value) := by
  unfold WeatherAccommodation.hasText
  split
  · exact avoids_pure _
  · exact (avoids_unwrap fun _ => h.badCast key).bind fun _ _ => avoids_pure _

theorem messageDict (h : SparesData P) (text : Message) : Avoids P (messageDict text) := by
  unfold WeatherAccommodation.messageDict
  split
  · exact avoids_ok _
  · exact avoids_error h.notAnObject
  · exact avoids_ok _

theorem userID (h : SparesData P) (device : Device) (role : UserLoginType) :
    Avoids P (device.userID role) := by
  refine Avoids.bind ?_ fun _ _ => h.forceInt _ _
  unfold UserDefaults.getObject
  split
  · exact avoids_ok _
  · exact avoids_error (h.badCast _)

end SparesData

end WeatherAccommodation
