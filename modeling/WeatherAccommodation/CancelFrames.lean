/-
# The text of a cancellation

Three screens can cancel a trip: the sheet of either side, and the screen that asks for a reason.
Each prints its `trip_cancelled` frame by hand, with the ids of its trip between quotes as they came
from the server.  `RDGlobalFunction.swift` has a function that would escape them; it is not called.

* `cancel_text_survives_iff`: the text is read back as it was meant exactly if the ids need no
  escapes, on each of the three screens;
* `ClientPhone.cancelTrip_text`, `ProviderApp.cancelTrip_text`: it is what the phones write;
* `quoted_id_is_lost`: an id with a quote in it.
-/
import WeatherAccommodation.Account.Screens
import WeatherAccommodation.Client.PhoneSteps
import WeatherAccommodation.Provider.PhoneSteps
import WeatherAccommodation.Library.JsonPrinted

namespace WeatherAccommodation

open Foundation Reactive JSONSerialization

/-! ## 1. The text -/

/-- `"\(id)"`.  A text is put in as it is, an `Int` in digits; how another number is printed is up
to Swift, and a trip has no other ids. -/
def idText? (print : ℚ → String) : Json → Option String
  | .str s => some s
  | .num q => some (if q.den = 1 ∧ InInt q.num then toString q.num else print q)
  | _ => none

/-- The text in `CancelRequest`. -/
def cancelText (userType clientId latitude longitude tripId providerId reason : String) : String :=
  "\x7b\"ClientId\":\"" ++ clientId ++ "\",\"Latitude\":\"" ++ latitude ++ "\",\"Longitude\":\"" ++
    longitude ++ "\",\"TripId\":\"" ++ tripId ++ "\",\"UserType\":\"" ++ userType ++
    "\",\"ProviderId\":\"" ++ providerId ++ "\",\"CancellationReasonCode\":\"" ++ reason ++
    "\",\"RequestType\":\"" ++ Trip_Status.cancelled ++ "\"\x7d"

/-- The fields that are meant. -/
def cancelFields (userType clientId latitude longitude tripId providerId reason : String) :
    List (String × String) :=
  [("ClientId", clientId), ("Latitude", latitude), ("Longitude", longitude), ("TripId", tripId),
    ("UserType", userType), ("ProviderId", providerId), ("CancellationReasonCode", reason),
    ("RequestType", Trip_Status.cancelled)]

/-- The text of a frame from a user of this type. -/
def TripCancelFrame.text? (print : ℚ → String) (userType : String) (frame : TripCancelFrame) :
    Option String := do
  let clientId ← idText? print frame.clientId
  let tripId ← idText? print frame.tripId
  let providerId ← idText? print frame.providerId
  return cancelText userType clientId (frame.location.latitude.description print)
    (frame.location.longitude.description print) tripId providerId frame.reason

/-- `CancelRequest`, for a user of this type. -/
def cancelRequestText (print : ℚ → String) (userType : String) (currentRequest : Dict)
    (location : CLLocation) (reason : String) : Except Trap (Option String) := do
  let clientId ← forceKey currentRequest "ClientId"
  let tripId ← forceKey currentRequest "TripId"
  let providerId ← forceKey currentRequest "ProviderId"
  return TripCancelFrame.text? print userType {
    clientId := clientId
    tripId := tripId
    providerId := providerId
    location := location
    reason := reason }

/-- `CancelRequest(with:)` of the client's sheet. -/
def TripProviderDetail.cancelText? (print : ℚ → String) (sheet : TripProviderDetail)
    (reason : String) : Except Trap (Option String) :=
  cancelRequestText print "client" sheet.currentRequest sheet.clientLocation reason

/-- `CancelRequest(with:)` of the provider's sheet. -/
def ClientDetailSheet.cancelText? (print : ℚ → String) (sheet : ClientDetailSheet)
    (reason : String) : Except Trap (Option String) :=
  cancelRequestText print "provider" sheet.currentRequest sheet.clientLocation reason

/-- `CancelRequest(with:userType:)` of the cancel-reason screen. -/
def RequestCancelAlert.cancelText? (print : ℚ → String) (alert : RequestCancelAlert)
    (reason userType : String) : Except Trap (Option String) :=
  cancelRequestText print userType alert.currentRequest alert.currentLocation reason

/-- The `userType` of `btnSubmitPressed`. -/
def RequestCancelAlert.userType (u : UserDefaults) : String :=
  if u.getValue .userLoginTypeInAppDef = UserLoginType.clientApp.text then "client" else "provider"

/-! ## 2. The three screens -/

/-- A screen that cancels its trip. -/
inductive CancelScreen where
  | providerDetail (sheet : TripProviderDetail)
  | clientDetail (sheet : ClientDetailSheet)
  | cancelAlert (alert : RequestCancelAlert) (defaults : UserDefaults) (btnShowupIsSelected : Bool)

namespace CancelScreen

def currentRequest : CancelScreen → Dict
  | .providerDetail sheet => sheet.currentRequest
  | .clientDetail sheet => sheet.currentRequest
  | .cancelAlert alert _ _ => alert.currentRequest

def location : CancelScreen → CLLocation
  | .providerDetail sheet => sheet.clientLocation
  | .clientDetail sheet => sheet.clientLocation
  | .cancelAlert alert _ _ => alert.currentLocation

/-- Who the sender is. -/
def userType : CancelScreen → String
  | .providerDetail _ => "client"
  | .clientDetail _ => "provider"
  | .cancelAlert _ defaults _ => RequestCancelAlert.userType defaults

/-- The sheets cancel within the first minute, without a reason. -/
def reason : CancelScreen → String
  | .providerDetail _ => CancellationReasonCode.noReason
  | .clientDetail _ => CancellationReasonCode.noReason
  | .cancelAlert _ _ btnShowupIsSelected => RequestCancelAlert.reason btnShowupIsSelected

/-- What the screen writes. -/
def cancelText? (print : ℚ → String) : CancelScreen → Except Trap (Option String)
  | .providerDetail sheet => sheet.cancelText? print CancellationReasonCode.noReason
  | .clientDetail sheet => sheet.cancelText? print CancellationReasonCode.noReason
  | .cancelAlert alert defaults btnShowupIsSelected =>
    alert.cancelText? print (RequestCancelAlert.reason btnShowupIsSelected)
      (RequestCancelAlert.userType defaults)

variable {print : ℚ → String} {screen : CancelScreen}

/-- **The three texts differ in what they are about, and in nothing else.** -/
theorem cancelText?_eq (print : ℚ → String) (screen : CancelScreen) : screen.cancelText? print =
    cancelRequestText print screen.userType screen.currentRequest screen.location
      screen.reason := by
  cases screen <;> rfl

theorem isPlain_userType (screen : CancelScreen) : IsPlain screen.userType := by
  have hclient : IsPlain "client" := by decide +kernel
  have hprovider : IsPlain "provider" := by decide +kernel
  cases screen with
  | providerDetail sheet => exact hclient
  | clientDetail sheet => exact hprovider
  | cancelAlert alert defaults noShow =>
    simp only [userType, RequestCancelAlert.userType]
    split
    · exact hclient
    · exact hprovider

theorem isPlain_reason (screen : CancelScreen) : IsPlain screen.reason := by
  have hno : IsPlain CancellationReasonCode.noReason := by decide +kernel
  have hreasons : ∀ noShow, IsPlain (RequestCancelAlert.reason noShow) := by decide +kernel
  cases screen with
  | providerDetail sheet => exact hno
  | clientDetail sheet => exact hno
  | cancelAlert alert defaults noShow => exact hreasons noShow

end CancelScreen

/-! ## 3. What is read back -/

section Text

variable {userType clientId latitude longitude tripId providerId reason : String}

theorem toList_cancelText (userType clientId latitude longitude tripId providerId reason : String) :
    (cancelText userType clientId latitude longitude tripId providerId reason).toList =
      printed (cancelFields userType clientId latitude longitude tripId providerId reason) := by
  unfold cancelText printed cancelFields
  generalize Trip_Status.cancelled = status
  simp [String.toList_append, printedMembers, quoted]

/-- The text says which trip is cancelled, by whom and why. -/
def Survives (text userType clientId tripId providerId reason : String) : Prop :=
  ∃ dict, jsonObject text = some (.obj dict) ∧
    Dict.string? dict "ClientId" = some clientId ∧ Dict.string? dict "TripId" = some tripId ∧
    Dict.string? dict "ProviderId" = some providerId ∧
    Dict.string? dict "UserType" = some userType ∧
    Dict.string? dict "CancellationReasonCode" = some reason ∧
    Dict.string? dict "RequestType" = some "trip_cancelled"

/-- The keys need no escapes, and are all different. -/
theorem keys_cancelFields :
    (∀ f ∈ cancelFields userType clientId latitude longitude tripId providerId reason,
      IsPlain f.1) ∧
    ((cancelFields userType clientId latitude longitude tripId providerId reason).map
      Prod.fst).Nodup := by
  have hkeys : ∀ key ∈ ["ClientId", "Latitude", "Longitude", "TripId", "UserType", "ProviderId",
      "CancellationReasonCode", "RequestType"], IsPlain key := by decide +kernel
  refine ⟨fun f hf => hkeys f.1 ?_, ?_⟩
  · exact List.mem_map_of_mem hf
  · simp [cancelFields]

/-- **Where the rest of the text needs no escapes**, it comes down to the ids. -/
theorem survives_cancelText_iff (huser : IsPlain userType) (hlat : IsPlain latitude)
    (hlong : IsPlain longitude) (hreason : IsPlain reason) :
    Survives (cancelText userType clientId latitude longitude tripId providerId reason) userType
      clientId tripId providerId reason ↔
        IsPlain clientId ∧ IsPlain tripId ∧ IsPlain providerId := by
  have htext := toList_cancelText userType clientId latitude longitude tripId providerId reason
  obtain ⟨hkeys, hnodup⟩ := @keys_cancelFields userType clientId latitude longitude tripId
    providerId reason
  have hne : cancelFields userType clientId latitude longitude tripId providerId reason ≠ [] := by
    simp [cancelFields]
  have hall : (∀ f ∈ cancelFields userType clientId latitude longitude tripId providerId reason,
      IsPlain f.2) ↔ IsPlain clientId ∧ IsPlain tripId ∧ IsPlain providerId := by
    have hstatus : IsPlain Trip_Status.cancelled := by decide +kernel
    simp only [cancelFields, List.forall_mem_cons, huser, hlat, hlong, hreason, hstatus,
      List.not_mem_nil, false_implies, implies_true, true_and, and_true]
  rw [← hall]
  constructor
  · rintro ⟨dict, h, hclient, htrip, hprovider, huserType, hcode, hstatus⟩
    refine isPlain_of_jsonObject htext hne hkeys hnodup h ?_
    simp only [cancelFields, List.forall_mem_cons, List.not_mem_nil, false_implies, implies_true,
      and_true]
    exact ⟨.inr hclient, .inl hlat, .inl hlong, .inr htrip, .inl huser, .inr hprovider,
      .inl hreason, .inr hstatus⟩
  · intro hplain
    obtain ⟨dict, h, hread⟩ := exists_jsonObject htext hne hnodup fun f hf =>
      ⟨hkeys f hf, hplain f hf⟩
    simp only [cancelFields, List.forall_mem_cons, List.not_mem_nil, false_implies, implies_true,
      and_true] at hread
    obtain ⟨hclient, _, _, htrip, huserType, hprovider, hcode, hstatus⟩ := hread
    exact ⟨dict, h, hclient, htrip, hprovider, huserType, hcode, hstatus⟩

end Text

/-- A number needs no escapes. -/
theorem isPlain_of_idText? {print : ℚ → String} (hprint : ∀ q, IsNumeric (print q)) {q : ℚ}
    {s : String} (h : idText? print (.num q) = some s) : IsPlain s := by
  obtain rfl := Option.some.inj h
  split
  · exact (isNumeric_toString q.num).isPlain
  · exact (hprint q).isPlain

theorem isPlain_description {print : ℚ → String} (hprint : ∀ q, IsNumeric (print q)) (x : Double) :
    IsPlain (x.description print) := by
  cases x with
  | number q => exact (hprint q).isPlain
  | infinity isNegative =>
    cases isNegative with
    | false => exact (by decide +kernel : IsPlain "inf")
    | true => exact (by decide +kernel : IsPlain "-inf")
  | nan => exact (by decide +kernel : IsPlain "nan")

/-- **The exact condition**, on each of the three screens: no id needs an escape. -/
theorem CancelScreen.cancel_text_survives_iff {print : ℚ → String}
    (hprint : ∀ q, IsNumeric (print q)) (screen : CancelScreen)
    {clientId tripId providerId : String}
    (hclient : (Dict.get? screen.currentRequest "ClientId").bind (idText? print) = some clientId)
    (htrip : (Dict.get? screen.currentRequest "TripId").bind (idText? print) = some tripId)
    (hprovider : (Dict.get? screen.currentRequest "ProviderId").bind (idText? print)
      = some providerId) :
    ∃ text, screen.cancelText? print = .ok (some text) ∧
      (Survives text screen.userType clientId tripId providerId screen.reason ↔
        IsPlain clientId ∧ IsPlain tripId ∧ IsPlain providerId) := by
  obtain ⟨client, hclient, hclientText⟩ := Option.bind_eq_some_iff.mp hclient
  obtain ⟨trip, htrip, htripText⟩ := Option.bind_eq_some_iff.mp htrip
  obtain ⟨provider, hprovider, hproviderText⟩ := Option.bind_eq_some_iff.mp hprovider
  refine ⟨cancelText screen.userType clientId (screen.location.latitude.description print)
    (screen.location.longitude.description print) tripId providerId screen.reason, ?_, ?_⟩
  · rw [cancelText?_eq]
    simp [cancelRequestText, TripCancelFrame.text?, forceKey, hclient, htrip, hprovider,
      hclientText, htripText, hproviderText]
  · exact survives_cancelText_iff screen.isPlain_userType (isPlain_description hprint _)
      (isPlain_description hprint _) screen.isPlain_reason

/-- A trip of provider 16, whose client has this id. -/
def sampleCancelledTrip (clientId : String) : Dict :=
  [("ClientId", .str clientId), ("TripId", .str "7"), ("ProviderId", .num 16)]

/-- The three screens of such a trip. -/
def sampleCancelScreens (clientId : String) : List CancelScreen :=
  let trip := sampleCancelledTrip clientId
  let here : CLLocation := { latitude := 40, longitude := -73 }
  [.providerDetail { delegate := 0, currentRequest := trip, clientLocation := here },
    .clientDetail { currentRequest := trip, clientLocation := here },
    .cancelAlert { currentRequest := trip, currentLocation := here } .empty true]

/-- How whole degrees are printed. -/
def printDegrees (q : ℚ) : String := toString q.num ++ ".0"

theorem isNumeric_printDegrees (q : ℚ) : IsNumeric (printDegrees q) := by
  intro c hc
  rw [printDegrees, String.toList_append, List.mem_append] at hc
  rcases hc with hc | hc
  · exact isNumeric_toString q.num c hc
  · have hpoint : ∀ c ∈ ".0".toList, isNumberChar c = true := by simp [isNumberChar]
    exact hpoint c hc

/-- Client 24 gives up. -/
theorem plain_ids_survive : (sampleCancelScreens "24").Forall fun screen =>
    ∃ text, screen.cancelText? printDegrees = .ok (some text) ∧
      Survives text screen.userType "24" "7" "16" screen.reason := by
  refine List.forall_iff_forall_mem.mpr fun screen hscreen => ?_
  have htrip : screen.currentRequest = sampleCancelledTrip "24" := by
    simp only [sampleCancelScreens, List.mem_cons, List.not_mem_nil, or_false] at hscreen
    rcases hscreen with rfl | rfl | rfl <;> rfl
  have hprovider : idText? printDegrees (.num 16) = some "16" := by decide +kernel
  obtain ⟨text, htext, hiff⟩ := @CancelScreen.cancel_text_survives_iff printDegrees
    isNumeric_printDegrees screen "24" "7" "16" (by rw [htrip]; rfl) (by rw [htrip]; rfl)
    (by rw [htrip]; exact hprovider)
  exact ⟨text, htext, hiff.mpr (by decide +kernel)⟩

/-- **A quote in an id.**  None of the three texts is JSON. -/
theorem quoted_id_is_lost : (sampleCancelScreens "a\"b").Forall fun screen =>
    ∃ text, screen.cancelText? printDegrees = .ok (some text) ∧ jsonObject text = none := by
  refine List.forall_iff_forall_mem.mpr fun screen hscreen => ?_
  simp only [sampleCancelScreens, List.mem_cons, List.not_mem_nil, or_false] at hscreen
  rcases hscreen with rfl | rfl | rfl
  · exact ⟨_, rfl, by decide +kernel⟩
  · exact ⟨_, rfl, by decide +kernel⟩
  · exact ⟨_, rfl, by decide +kernel⟩

/-! ## 4. What the phones write -/

/-- The text of the provider's frame. -/
def ProviderFrame.cancelText? (print : ℚ → String) : ProviderFrame → Option String
  | .cancelled clientId tripId providerId location reason =>
    TripCancelFrame.text? print "provider" {
      clientId := clientId
      tripId := tripId
      providerId := providerId
      location := location
      reason := reason }
  | _ => none

variable {print : ℚ → String} {noShow dismisses : Bool}

/-- Who the user is, as the cancel-reason screen has it. -/
theorem RequestCancelAlert.userType_of_loginType {u : UserDefaults} {role : UserLoginType}
    (h : u.loginType = some role) : RequestCancelAlert.userType u =
      match role with
      | .clientApp => "client"
      | .providerApp => "provider" := by
  unfold UserDefaults.loginType at h
  unfold userType
  split at h
  · rename_i hclient
    obtain rfl := Option.some.inj h
    exact if_pos hclient
  · rename_i hclient
    split at h
    · obtain rfl := Option.some.inj h
      exact if_neg hclient
    · exact absurd h (by simp)

/-- The text of a trip that has its ids. -/
theorem cancelRequestText_eq {trip : Dict} {location : CLLocation} {userType reason : String}
    {clientId tripId providerId : Json} (hclient : Dict.get? trip "ClientId" = some clientId)
    (htrip : Dict.get? trip "TripId" = some tripId)
    (hprovider : Dict.get? trip "ProviderId" = some providerId) :
    cancelRequestText print userType trip location reason =
      .ok (TripCancelFrame.text? print userType {
        clientId := clientId
        tripId := tripId
        providerId := providerId
        location := location
        reason := reason }) := by
  simp [cancelRequestText, forceKey, hclient, htrip, hprovider, bind, Except.bind, pure, Except.pure]

/-- **The client's sheet writes its text.** -/
theorem ClientPhone.cancelTrip_text {p q : ClientPhone} {j : Nat} {sheet : TripProviderDetail}
    (h : p.cancelTrip j sheet = .ok q) : ∃ socket frame,
      q.frames = p.frames ++ [(socket, frame)] ∧
      (CancelScreen.providerDetail sheet).cancelText? print = .ok (frame.text? print "client") := by
  simp only [cancelTrip, TripProviderDetail.cancelFrame, bind_eq_ok, forceKey_eq_ok,
    pure_eq_ok] at h
  obtain ⟨_, ⟨clientId, hclient, tripId, htrip, providerId, hprovider, rfl⟩, _, hwrite, rfl⟩ := h
  obtain ⟨socket, _, rfl⟩ := write_inv hwrite
  exact ⟨socket, _, rfl, cancelRequestText_eq hclient htrip hprovider⟩

/-- So does the cancel-reason screen over it. -/
theorem ClientPhone.btnSubmitPressed_text {p q : ClientPhone} {alert : RequestCancelAlert}
    {u : UserDefaults} (hrole : u.loginType = some .clientApp)
    (h : p.btnSubmitPressed alert noShow dismisses = .ok q) : ∃ socket frame,
      q.frames = p.frames ++ [(socket, frame)] ∧
      (CancelScreen.cancelAlert alert u noShow).cancelText? print
        = .ok (frame.text? print "client") := by
  simp only [btnSubmitPressed, bind_eq_ok, forceKey_eq_ok, pure_eq_ok] at h
  obtain ⟨clientId, hclient, tripId, htrip, providerId, hprovider, _, hwrite, rfl⟩ := h
  obtain ⟨socket, _, rfl⟩ := write_inv hwrite
  refine ⟨socket, _, rfl, ?_⟩
  rw [CancelScreen.cancelText?, RequestCancelAlert.userType_of_loginType hrole]
  exact cancelRequestText_eq hclient htrip hprovider

/-- **The provider's sheet writes its text.** -/
theorem ProviderApp.cancelTrip_text {a b : ProviderApp} {j : Nat} {sheet : ClientDetailSheet}
    (h : a.cancelTrip j sheet CancellationReasonCode.noReason = .ok b) : ∃ socket frame,
      b.frames = a.frames ++ [(socket, frame)] ∧
      (CancelScreen.clientDetail sheet).cancelText? print = .ok (frame.cancelText? print) := by
  obtain ⟨socket, clientId, tripId, providerId, ⟨_, hclient, htrip, hprovider⟩, rfl⟩ :=
    cancelTrip_inv h
  exact ⟨socket, _, rfl, cancelRequestText_eq hclient htrip hprovider⟩

/-- So does the cancel-reason screen over it. -/
theorem ProviderPhone.btnSubmitPressed_text {p q : ProviderPhone} {alert : RequestCancelAlert}
    {u : UserDefaults} (hrole : u.loginType = some .providerApp)
    (h : p.btnSubmitPressed alert noShow dismisses = .ok q) : ∃ socket frame,
      q.app.frames = p.app.frames ++ [(socket, frame)] ∧
      (CancelScreen.cancelAlert alert u noShow).cancelText? print
        = .ok (frame.cancelText? print) := by
  obtain ⟨socket, clientId, tripId, providerId, a, ⟨_, hclient, htrip, hprovider⟩, rfl, rfl⟩ :=
    btnSubmitPressed_inv h
  refine ⟨socket, .cancelled clientId tripId providerId alert.currentLocation
    (RequestCancelAlert.reason noShow), ?_, ?_⟩
  · cases dismisses <;> rfl
  · rw [CancelScreen.cancelText?, RequestCancelAlert.userType_of_loginType hrole]
    exact cancelRequestText_eq hclient htrip hprovider

end WeatherAccommodation
