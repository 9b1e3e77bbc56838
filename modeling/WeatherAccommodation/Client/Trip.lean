/-
# The screens of a client's trip

`TripProviderDetailViewController.swift`, the sheet with the provider's details, and
`ClientTripViewController.swift`, the screen with the running time and, in the end, the charge
and the review.  Both carry the trip as a dictionary they were given when they were opened.
-/
import WeatherAccommodation.Globals

namespace WeatherAccommodation

open Foundation Reactive

/-! ## 1. The provider-detail sheet -/

structure TripProviderDetail where
  /-- `delegate`: the dashboard that hears of `location_updated`, by number. -/
  delegate : Nat
  currentRequest : Dict
  clientLocation : CLLocation
  isPresented : Bool := true
  deriving Repr

/-- The `trip_cancelled` frame. -/
structure TripCancelFrame where
  clientId : Json
  tripId : Json
  providerId : Json
  location : CLLocation
  reason : String
  deriving Repr

/-- What a message on `clientproviderRequestSocket` asks of the sheet. -/
inductive DetailReaction where
  | nothing
  | reached
  | cancelled
  | locationUpdated
  | started
  deriving DecidableEq, Repr

namespace TripProviderDetail

def dismiss (sheet : TripProviderDetail) : TripProviderDetail := { sheet with isPresented := false }

def tracingLocation (sheet : TripProviderDetail) (currentLocation : CLLocation) :
    TripProviderDetail := { sheet with clientLocation := currentLocation }

/-- The tests of `onMessage`, in order.  A start counts only while a trip is being resumed. -/
def reaction (doesRequestExist : Bool) (text : Message) : Except Trap DetailReaction := do
  match ← messageDict text with
  | none => return .nothing
  | some dict =>
    if ← hasText dict "RequestType" Request_Status.reached then return .reached
    else if ← hasText dict "RequestType" Trip_Status.cancelled then return .cancelled
    else if ← hasText dict "RequestType" Request_Status.locationUpdated then
      return .locationUpdated
    else if ← hasText dict "RequestType" Request_Status.started then
      return if doesRequestExist then .started else .nothing
    else return .nothing

/-- `CancelRequest(with:)`, up to the socket. -/
def cancelFrame (sheet : TripProviderDetail) (reason : String) : Except Trap TripCancelFrame := do
  let clientId ← forceKey sheet.currentRequest "ClientId"
  let tripId ← forceKey sheet.currentRequest "TripId"
  let providerId ← forceKey sheet.currentRequest "ProviderId"
  return {
    clientId := clientId
    tripId := tripId
    providerId := providerId
    location := sheet.clientLocation
    reason := reason }

end TripProviderDetail

/-! ## 2. The trip screen -/

structure ClientTrip where
  currentRequest : Dict
  /-- `tripStartDate` was set, and the seconds are counted from there. -/
  tripStartDate : Bool := false
  startTimer : Bool := false
  isTripEnded : Bool := false
  lblCharges : Option Json := none
  vwRatingsIsHidden : Bool := true
  deriving Repr

namespace ClientTrip

/-- `viewDidLoad`: the start of a trip that exists already is read off the trip. -/
def viewDidLoad (screen : ClientTrip) (doesRequestExist : Bool) : Except Trap ClientTrip :=
  if doesRequestExist then do
    let _ ← forceInt screen.currentRequest "TripStartTime"
    return { screen with tripStartDate := true }
  else return screen

/-- The trip starts.  In the background the seconds are counted later. -/
def started (screen : ClientTrip) (inBackground : Bool) : ClientTrip :=
  { screen with tripStartDate := true, startTimer := screen.startTimer || inBackground }

/-- The trip is over: the charge is shown, and the review asked for. -/
def ended (screen : ClientTrip) (charge : Json) (inBackground : Bool) : ClientTrip :=
  { screen with
    startTimer := false
    isTripEnded := screen.isTripEnded || inBackground
    lblCharges := some charge
    vwRatingsIsHidden := false }

/-- The part of `onMessage` for `clientproviderRequestSocket`. -/
def requestMessage (screen : ClientTrip) (text : Message) (inBackground : Bool) :
    Except Trap ClientTrip := do
  match ← messageDict text with
  | none => return screen
  | some dict =>
    match Dict.get? dict "RequestType" with
    | none => return screen
    | some user =>
      let requestType ← unwrap (.badCast "RequestType") user.asString?
      if requestType = Request_Status.started then return screen.started inBackground
      else if requestType = Request_Status.ended then
        let _ ← forceString dict "ChargeStatus"
        let charge ← forceKey dict "StripeChargeAmount"
        return screen.ended charge inBackground
      else return screen

/-- `submitReview`, up to the call: the ids of the trip are read. -/
def submitReview (screen : ClientTrip) : Except Trap Unit := do
  let _ ← forceKey screen.currentRequest "ClientId"
  let _ ← forceKey screen.currentRequest "ProviderId"
  let _ ← forceKey screen.currentRequest "TripId"
  return ()

end ClientTrip

end WeatherAccommodation
