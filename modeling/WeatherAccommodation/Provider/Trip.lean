/-
# The screens of a provider's trip

`TripClientDetailViewController.swift`, the sheet with the client's details and the field for
the one-time code, and `StartTripViewController.swift`, the screen with the button that starts
and later ends the trip.  Both carry the trip as a dictionary they were given when they were
opened.
-/
import WeatherAccommodation.Globals
import WeatherAccommodation.Library.Characters

namespace WeatherAccommodation

open Foundation Reactive

/-! ## 1. The client-detail sheet -/

structure ClientDetailSheet where
  currentRequest : Dict
  clientLocation : CLLocation
  isPresented : Bool := true
  deriving Repr

namespace ClientDetailSheet

/-- `txtOTP.text == currentRequest["VerificationCode"] as? String` -/
def matchesCode (sheet : ClientDetailSheet) (text : String) : Bool :=
  some text == Dict.string? sheet.currentRequest "VerificationCode"

/-- The outer tests of `textFieldEditingChanged`: a full field, and the code in it. -/
def acceptsEdit (sheet : ClientDetailSheet) (text : String) : Bool :=
  Unicode.count text.toList == 4 && sheet.matchesCode text

def dismiss (sheet : ClientDetailSheet) : ClientDetailSheet := { sheet with isPresented := false }

def tracingLocation (sheet : ClientDetailSheet) (currentLocation : CLLocation) :
    ClientDetailSheet := { sheet with clientLocation := currentLocation }

/-- `onMessage`: the client's cancellation closes the sheet. -/
def requestMessage (sheet : ClientDetailSheet) (text : Message) :
    Except Trap ClientDetailSheet := do
  match ← messageDict text with
  | none => return sheet
  | some dict =>
    if ← hasText dict "RequestType" Trip_Status.cancelled then return sheet.dismiss
    else return sheet

end ClientDetailSheet

/-! ## 2. The start-trip screen -/

structure StartTrip where
  currentRequest : Dict
  isTripStarted : Bool := false
  btnActionIsHidden : Bool := false
  deriving Repr

/-- The parameters of `PROVIDERTRIPSTARTEND`, but for the fixed coordinates. -/
structure StartEndRequest where
  clientId : Json
  tripId : Json
  providerId : Json
  statusCode : String
  deriving Repr

namespace StartTrip

/-- `viewDidLoad`: a trip that exists already counts as started, whatever its status. -/
def viewDidLoad (screen : StartTrip) (doesRequestExist : Bool) : Except Trap StartTrip :=
  if doesRequestExist then do
    let _ ← forceInt screen.currentRequest "TripStartTime"
    return { screen with isTripStarted := true }
  else return screen

/-- What the button sends: the start of the trip the first time, then its end. -/
def statusCode (screen : StartTrip) : String :=
  if screen.isTripStarted then Numeric_TripStatus.ended else Numeric_TripStatus.started

/-- `btnActionPressed`, up to the call. -/
def btnActionPressed (screen : StartTrip) : Except Trap StartEndRequest := do
  let clientId ← forceKey screen.currentRequest "ClientId"
  let tripId ← forceKey screen.currentRequest "TripId"
  let providerId ← forceKey screen.currentRequest "ProviderId"
  return {
    clientId := clientId
    tripId := tripId
    providerId := providerId
    statusCode := screen.statusCode }

/-- The completion handlers of `postStartEndTrip`, by what was sent. -/
def startEndReply (screen : StartTrip) (statusCode : String) (success : Bool) : StartTrip :=
  if success then
    if statusCode = Numeric_TripStatus.started then { screen with isTripStarted := true }
    else { screen with btnActionIsHidden := true }
  else screen

end StartTrip

end WeatherAccommodation
