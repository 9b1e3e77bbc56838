/-
# Requests to the server

`ClientProviderAPIManager.swift`: every request of the app goes through one method, which looks at
the connection first, hands the reply to the caller's completion handler, and on a failure shows an
alert of its own.  With some status codes the alert says that the account has been logged out.
Without a connection the user is told so and the handler is not called; with one it is called once,
as long as the reply is an object or an array (`getResponse_calls_back`).

The two lookups of a way go to a map service instead, by methods of the same shape.  Without a
connection their completion handlers are never called, and a reply is unpacked by forced casts.
-/
import WeatherAccommodation.Globals

namespace WeatherAccommodation

open Foundation Reactive

namespace ClientProviderAPIManager

/-! ## 1. Failures -/

/-- The tests on `responseCode` after a failure; without a response there is no code. -/
def isLoggedOut (responseCode : Option Int) : Bool :=
  responseCode == some 400 || responseCode == some 401 || responseCode == some 402 ||
    responseCode == some 403 || responseCode == some 404 || responseCode == some 405

/-! ## 2. Looking up a way -/

/-- How a request ends. -/
inductive Outcome where
  | offline
  | failure (responseCode : Option Int)
  | success (result : Json)

/-- `(dict[key]! as! [Any])[0] as! [String: Any]` -/
def forceFirst (dict : Dict) (key : String) : Except Trap Dict := do
  let value ← forceKey dict key
  let items ← unwrap (.badCast key) value.asArray?
  let first ← unwrap .indexOutOfRange items[0]?
  unwrap (.badCast key) first.asDict?

/-- What the completion handler is called with; `none` when it is not. -/
def getDirections : Outcome → Except Trap (Option (String × Bool))
  | .offline => return none
  | .failure _ => return some ("", false)
  | .success result => do
    let dict ← unwrap (.badCast "response") result.asDict?
    let status ← forceString dict "status"
    if status = "OK" then
      let route ← forceFirst dict "routes"
      let polyline ← forceDict route "overview_polyline"
      -- A handler takes no optional, so points that are no text trap on the way in.
      let points ← forceString polyline "points"
      return some (points, true)
    else return some ("", false)

def callDistanceMatrixAPIForClient : Outcome → Except Trap (Option (Dict × Bool))
  | .offline => return none
  | .failure _ => return some ([], false)
  | .success result => do
    let dict ← unwrap (.badCast "response") result.asDict?
    let status ← forceString dict "status"
    if status = "OK" then
      let row ← forceFirst dict "rows"
      let elements ← unwrap (.badCast "elements") (Dict.array? row "elements")
      let element ← unwrap .indexOutOfRange elements[0]?
      let durationValues ← unwrap (.badCast "elements") element.asDict?
      return some (durationValues, true)
    else return some ([], false)

/-- The first item of the array under the key is an object. -/
def HasFirst (dict : Dict) (key : String) (first : Dict) : Prop :=
  ∃ items, Dict.array? dict key = some (.obj first :: items)

/-- The reply is an object whose status is `OK`. -/
def IsOK (outcome : Outcome) (dict : Dict) : Prop :=
  outcome = .success (.obj dict) ∧ Dict.string? dict "status" = some "OK"

/-- A reply with a route, and the points of it. -/
def HasRoute (outcome : Outcome) (points : String) : Prop :=
  ∃ dict route polyline, IsOK outcome dict ∧ HasFirst dict "routes" route ∧
    Dict.dict? route "overview_polyline" = some polyline ∧
    Dict.string? polyline "points" = some points

/-- A reply with an element in its first row. -/
def HasElement (outcome : Outcome) (durationValues : Dict) : Prop :=
  ∃ dict row, IsOK outcome dict ∧ HasFirst dict "rows" row ∧
    HasFirst row "elements" durationValues

/-- The first item, and the cast on it. -/
theorem first_eq_some {items : List Json} {first : Dict} :
    (∃ j, items[0]? = some j ∧ j.asDict? = some first) ↔ ∃ rest, items = .obj first :: rest := by
  cases items with
  | nil => simp
  | cons j rest => simp [Json.asDict?_eq_some]

theorem forceFirst_eq_ok {dict first : Dict} {key : String} :
    forceFirst dict key = .ok first ↔ HasFirst dict key first := by
  simp only [forceFirst, bind_eq_ok, forceKey_eq_ok, unwrap_eq_ok, HasFirst, Dict.array?,
    Option.bind_eq_some_iff]
  constructor
  · rintro ⟨value, hvalue, items, hitems, hfirst⟩
    obtain ⟨rest, rfl⟩ := first_eq_some.mp hfirst
    exact ⟨rest, value, hvalue, hitems⟩
  · rintro ⟨rest, value, hvalue, hitems⟩
    exact ⟨value, hvalue, _, hitems, first_eq_some.mpr ⟨rest, rfl⟩⟩

/-- The handler is told of a route exactly if the reply has one. -/
theorem getDirections_eq_ok {outcome : Outcome} {points : String} :
    getDirections outcome = .ok (some (points, true)) ↔ HasRoute outcome points := by
  cases outcome with
  | offline => simp [getDirections, HasRoute, IsOK]
  | failure code => simp [getDirections, HasRoute, IsOK]
  | success result =>
    simp only [getDirections, bind_eq_ok, unwrap_eq_ok, Json.asDict?_eq_some, forceString_eq_ok]
    constructor
    · rintro ⟨dict, rfl, status, hstatus, h⟩
      split at h
      · rename_i hok
        simp only [bind_eq_ok, forceFirst_eq_ok, forceDict_eq_ok, forceString_eq_ok, pure_eq_ok,
          Option.some.injEq, Prod.mk.injEq, and_true] at h
        obtain ⟨route, hroute, polyline, hpolyline, _, hpoints, rfl⟩ := h
        exact ⟨dict, route, polyline, ⟨rfl, by rw [hstatus, hok]⟩, hroute, hpolyline, hpoints⟩
      · simp at h
    · rintro ⟨dict, route, polyline, ⟨hresult, hstatus⟩, hroute, hpolyline, hpoints⟩
      refine ⟨dict, Outcome.success.inj hresult, "OK", hstatus, ?_⟩
      rw [if_pos rfl]
      simp only [bind_eq_ok, forceFirst_eq_ok, forceDict_eq_ok, forceString_eq_ok]
      exact ⟨route, hroute, polyline, hpolyline, points, hpoints, rfl⟩

/-- The handler is told of durations exactly if the reply has an element. -/
theorem callDistanceMatrixAPIForClient_eq_ok {outcome : Outcome} {durationValues : Dict} :
    callDistanceMatrixAPIForClient outcome = .ok (some (durationValues, true)) ↔
      HasElement outcome durationValues := by
  cases outcome with
  | offline => simp [callDistanceMatrixAPIForClient, HasElement, IsOK]
  | failure code => simp [callDistanceMatrixAPIForClient, HasElement, IsOK]
  | success result =>
    simp only [callDistanceMatrixAPIForClient, bind_eq_ok, unwrap_eq_ok, Json.asDict?_eq_some,
      forceString_eq_ok]
    constructor
    · rintro ⟨dict, rfl, status, hstatus, h⟩
      split at h
      · rename_i hok
        simp only [bind_eq_ok, forceFirst_eq_ok, unwrap_eq_ok, Json.asDict?_eq_some, pure_eq_ok,
          Option.some.injEq, Prod.mk.injEq, and_true] at h
        obtain ⟨row, hrow, elements, helements, element, hfirst, _, rfl, rfl⟩ := h
        obtain ⟨rest, rfl⟩ := first_eq_some.mp ⟨_, hfirst, Json.asDict?_eq_some.mpr rfl⟩
        exact ⟨dict, row, ⟨rfl, by rw [hstatus, hok]⟩, hrow, rest, helements⟩
      · simp at h
    · rintro ⟨dict, row, ⟨hresult, hstatus⟩, hrow, rest, helements⟩
      refine ⟨dict, Outcome.success.inj hresult, "OK", hstatus, ?_⟩
      rw [if_pos rfl]
      simp only [bind_eq_ok, forceFirst_eq_ok, unwrap_eq_ok, Json.asDict?_eq_some]
      exact ⟨row, hrow, _, helements, _, rfl, durationValues, rfl, rfl⟩

/-! ## 3. Calling back -/

/-- What a request does to its caller and on the screen. -/
inductive Effect where
  /-- `callback(result as AnyObject, isSuccess)` -/
  | callback (result : Json) (isSuccess : Bool)
  | showAlertOnNavigationBar (message : String)
  | showAlert (title message : String)
  | removeActivityIndicator
  deriving DecidableEq, Repr

/-- What the completion handler is called with, call by call. -/
def callbacks (effects : List Effect) : List (Json × Bool) :=
  effects.filterMap fun
    | .callback result isSuccess => some (result, isSuccess)
    | _ => none

/-- What `isInternetConnectedWith(isAlert:)` does before it returns false.  The alert removes the
indicator first, and then it is removed once more. -/
def notConnected (isAlert : Bool) : List Effect :=
  if isAlert then
    [.removeActivityIndicator,
      .showAlertOnNavigationBar "Please check your Internet Connection.",
      .removeActivityIndicator]
  else []

/-- `["ErrorSuccessMsg":"Server Error"]`: a failure has no value of its own. -/
def serverError : Json := .obj [("ErrorSuccessMsg", .str "Server Error")]

/-- The alert after a failure, with the description of the error where the code says nothing. -/
def failureAlert (responseCode : Option Int) (localizedDescription : String) : Effect :=
  if isLoggedOut responseCode then
    .showAlert "Your account has been logout."
      "Weather Accommodation Services only allow one device to login at a time."
  else .showAlert "Error" localizedDescription

/-- `getResponse`; `localizedDescription` is that of the error, where there is one. -/
def getResponse (isAlert : Bool) (localizedDescription : String) :
    Outcome → Except Trap (List Effect)
  | .offline => return notConnected isAlert
  | .failure responseCode =>
    return [.callback serverError false, failureAlert responseCode localizedDescription,
      .removeActivityIndicator]
  | .success (.obj dict) => return [.callback (.obj dict) true]
  -- What is no object is an array, or else nothing.
  | .success result => do
    let items ← unwrap (.badCast "response") result.asArray?
    return [.callback (.arr items) true]

/-- A reply that the casts go through on: every failure, and an object or an array. -/
def Outcome.IsUnpacked : Outcome → Prop
  | .offline => True
  | .failure _ => True
  | .success result => result.asDict?.isSome ∨ result.asArray?.isSome

@[simp] theorem callbacks_cons_callback (result : Json) (isSuccess : Bool)
    (effects : List Effect) :
    callbacks (.callback result isSuccess :: effects) = (result, isSuccess) :: callbacks effects :=
  rfl

@[simp] theorem callbacks_notConnected (isAlert : Bool) : callbacks (notConnected isAlert) = [] := by
  cases isAlert <;> rfl

theorem callbacks_failure (responseCode : Option Int) (localizedDescription : String) :
    callbacks [.callback serverError false, failureAlert responseCode localizedDescription,
      .removeActivityIndicator] = [(serverError, false)] := by
  unfold failureAlert
  split <;> rfl

/-- The casts of a success go through exactly on an object or an array, which the handler gets. -/
theorem getResponse_success {isAlert : Bool} {localizedDescription : String} {result : Json}
    {effects : List Effect} :
    getResponse isAlert localizedDescription (.success result) = .ok effects ↔
      (Outcome.success result).IsUnpacked ∧ effects = [.callback result true] := by
  cases result with
  | obj dict =>
    simp [getResponse, Outcome.IsUnpacked, Json.asDict?, @eq_comm _ effects]
  | arr items =>
    simp [getResponse, Outcome.IsUnpacked, Json.asDict?, Json.asArray?, unwrap,
      @eq_comm _ effects]
  | _ => simp [getResponse, Outcome.IsUnpacked, Json.asDict?, Json.asArray?, unwrap]

/-- **A request that is made calls back once.**  Whatever comes of it, a failure with or without a
status code or a success with an object or an array, `getResponse` returns and has called its
completion handler exactly once, and told it of a success exactly if there was one, with the reply.
A request that is not made, for want of a connection, does not call back: it tells the user where
the caller wants that, and the indicator goes. -/
theorem getResponse_calls_back (isAlert : Bool) (localizedDescription : String) (outcome : Outcome)
    (unpacked : outcome.IsUnpacked) :
    ∃ effects, getResponse isAlert localizedDescription outcome = .ok effects ∧
      (outcome ≠ .offline → ∃ result isSuccess, callbacks effects = [(result, isSuccess)] ∧
        (isSuccess = true ↔ ∃ reply, outcome = .success reply) ∧
        ∀ reply, outcome = .success reply → result = reply) ∧
      (outcome = .offline → callbacks effects = [] ∧
        (isAlert = true → .removeActivityIndicator ∈ effects ∧
          .showAlertOnNavigationBar "Please check your Internet Connection." ∈ effects)) := by
  cases outcome with
  | offline =>
    refine ⟨notConnected isAlert, rfl, fun h => absurd rfl h, fun _ => ⟨by simp, ?_⟩⟩
    rintro rfl
    simp [notConnected]
  | failure responseCode =>
    refine ⟨_, rfl, fun _ => ⟨serverError, false, callbacks_failure _ _, ?_, ?_⟩,
      fun h => by cases h⟩
    · simp
    · simp
  | success result =>
    refine ⟨_, getResponse_success.mpr ⟨unpacked, rfl⟩, fun _ => ⟨result, true, rfl, ?_, ?_⟩,
      fun h => by cases h⟩
    · simp
    · simp

/-- An object with a status, an empty array, and no response at all. -/
theorem replies_call_back :
    (∃ effects, getResponse true "" (.success (.obj [("status", .str "OK")])) = .ok effects ∧
      callbacks effects = [(.obj [("status", .str "OK")], true)]) ∧
    (∃ effects, getResponse true "" (.success (.arr [])) = .ok effects ∧
      callbacks effects = [(.arr [], true)]) ∧
    ∃ effects, getResponse true "The request timed out." (.failure none) = .ok effects ∧
      ∃ result, callbacks effects = [(result, false)] := by
  refine ⟨?_, ?_, ?_⟩
  · obtain ⟨effects, heffects, honce, _⟩ :=
      getResponse_calls_back true "" (.success (.obj [("status", .str "OK")])) (Or.inl rfl)
    obtain ⟨result, isSuccess, hcallbacks, hsuccess, hreply⟩ := honce (by simp)
    obtain rfl := hreply _ rfl
    obtain rfl := hsuccess.mpr ⟨_, rfl⟩
    exact ⟨effects, heffects, hcallbacks⟩
  · obtain ⟨effects, heffects, honce, _⟩ :=
      getResponse_calls_back true "" (.success (.arr [])) (Or.inr rfl)
    obtain ⟨result, isSuccess, hcallbacks, hsuccess, hreply⟩ := honce (by simp)
    obtain rfl := hreply _ rfl
    obtain rfl := hsuccess.mpr ⟨_, rfl⟩
    exact ⟨effects, heffects, hcallbacks⟩
  · obtain ⟨effects, heffects, honce, _⟩ :=
      getResponse_calls_back true "The request timed out." (.failure none) trivial
    obtain ⟨result, isSuccess, hcallbacks, hsuccess, _⟩ := honce (by simp)
    cases isSuccess with
    | false => exact ⟨effects, heffects, result, hcallbacks⟩
    | true =>
      obtain ⟨_, hreply⟩ := hsuccess.mp rfl
      cases hreply

/-- Without a connection nobody is called back. -/
theorem offline_does_not_call_back :
    ¬ ∀ (isAlert : Bool) (localizedDescription : String) (outcome : Outcome),
      ∃ effects, getResponse isAlert localizedDescription outcome = .ok effects ∧
        ∃ result isSuccess, callbacks effects = [(result, isSuccess)] := by
  intro h
  obtain ⟨effects, heffects, result, isSuccess, hcallbacks⟩ := h true "" .offline
  cases Except.ok.inj heffects
  simp at hcallbacks

end ClientProviderAPIManager

end WeatherAccommodation
