/-
# The client dashboard

`ClientDashboardViewController.swift`: the variables of the screen and the handlers that read
and write nothing else.  What also touches the sockets, the timers or a call in flight is in
`Session.lean`.

The list of reachable providers is kept twice, as `arrOnlineProviders` and as the map's
`arrMarkers`; position in the array is all that ties a provider to its marker.
-/
import WeatherAccommodation.Library.Characters
import WeatherAccommodation.Library.EraseEnumerated
import WeatherAccommodation.ResponseObject

namespace WeatherAccommodation

open Foundation Reactive

/-! ## 1. The variables of the screen -/

/-- `GMSMarker`, as far as it is read or written. -/
structure Marker where
  position : CLLocation
  onMap : Bool := true
  snippet : String := ""
  deriving DecidableEq, Repr

/-- `marker.map = nil` -/
def Marker.hide (marker : Marker) : Marker := { marker with onMap := false }

structure ClientDashboard where
  arrOnlineProviders : List Provider := []
  arrMarkers : List Marker := []
  clientLocation : Option CLLocation := none
  clientMarker : Option Marker := none
  currentRequest : Dict := []
  /-- The last `location_updated` text; the empty text it starts as is no JSON. -/
  locationUpdates : Message := none
  initialETA : Int := 0
  isFirst : Bool := true
  umbrellaCount : Int := 1
  raincoatCount : Int := 1
  shoesCount : Int := 1
  /-- The overlay shown while a request waits for a provider. -/
  viewDisableIsHidden : Bool := true
  deriving Repr

/-- The body sent to `CLIENTREQUESTFORSERVICE`; a cancellation carries no card. -/
structure ServiceRequest where
  clientStripeCustomerId : Option Int
  clientStripeCustomerSourceId : Option Int
  umbrella : Int
  coat : Int
  shoes : Int
  equipmentCharge : ℚ
  clientId : Int
  location : CLLocation
  providerIds : List Int
  requestStatus : String
  deriving DecidableEq, Repr

namespace ClientDashboard

section Reachable

-- `distance(from:)`; where it is not a number, no bound is met, and a number above stands for it.
variable (distance : CLLocation → CLLocation → ℚ)

/-! ## 2. The provider list -/

/-- One mile, in metres. -/
def oneMile : ℚ := 1609.344

def isProviderInsideReachableArea (d : ClientDashboard) (providerLocation : CLLocation) :
    Except Trap Bool := do
  let here ← unwrap .clientLocation d.clientLocation
  return decide (distance here providerLocation ≤ oneMile)

/-- A provider and its marker are appended together. -/
def append (d : ClientDashboard) (provider : Provider) (location : CLLocation) :
    ClientDashboard :=
  { d with
    arrMarkers := d.arrMarkers ++ [{ position := location }]
    arrOnlineProviders := d.arrOnlineProviders ++ [provider] }

/-- Both places that add a provider: unwrap its coordinates, and keep it if it is in reach. -/
def appendIfReachable (d : ClientDashboard) (provider : Provider) :
    Except Trap ClientDashboard := do
  let location ← forceLocation provider.latitude provider.longitude
  if ← d.isProviderInsideReachableArea distance location then
    return d.append provider location
  else return d

/-- `arrOnlineProviders.filter{$0.ProviderId == id}.count > 0` -/
def isListed (d : ClientDashboard) (id : Int) : Bool :=
  d.arrOnlineProviders.any fun p => p.providerId == id

/-- The `connected` branch of `pingReceived`. -/
def providerConnected (d : ClientDashboard) (provider : Provider) :
    Except Trap ClientDashboard :=
  if d.isListed provider.providerId then return d else d.appendIfReachable distance provider

/-- The other branch: the loop over the enumerated copy. -/
def providerDisconnected (d : ClientDashboard) (provider : Provider) :
    Except Trap ClientDashboard :=
  if d.isListed provider.providerId then do
    let (providers, markers) ←
      eraseEnumerated (fun p => p.providerId == provider.providerId) Trap.indexOutOfRange
        d.arrOnlineProviders 0 d.arrOnlineProviders d.arrMarkers
    return { d with arrOnlineProviders := providers, arrMarkers := markers }
  else return d

/-- What a parsed ping does. -/
def handleStatus (d : ClientDashboard) (provider : Provider) : Except Trap ClientDashboard :=
  if provider.status = ProviderStatus.connected then d.providerConnected distance provider
  else d.providerDisconnected provider

def pingReceived (d : ClientDashboard) (text : Message) : Except Trap ClientDashboard := do
  match ← messageDict text with
  | some dict => d.handleStatus distance (Provider.ofDict dict)
  | none => return d

/-- The loop over `OnlineProviderList`: the status of an entry is not looked at, nor whether
its provider is listed already. -/
def appendOnlineProviders : List Json → ClientDashboard → Except Trap ClientDashboard
  | [], d => .ok d
  | item :: items, d => do
    let dict ← unwrap (.badCast "OnlineProviderList") item.asDict?
    let d ← d.appendIfReachable distance (Provider.ofDict dict)
    appendOnlineProviders items d

end Reachable

/-! ## 3. Markers of one provider -/

/-- The loop that writes the snippet of a provider's marker.  Id and text are evaluated anew
in each round, so a cast that fails traps only if there is a round. -/
def setSnippets (providerId : Except Trap Int) (snippet : Except Trap String) :
    List Provider → Nat → List Marker → Except Trap (List Marker)
  | [], _, markers => .ok markers
  | p :: providers, i, markers => do
    let id ← providerId
    if p.providerId = id then
      let text ← snippet
      let marker ← unwrap .indexOutOfRange markers[i]?
      setSnippets providerId snippet providers (i + 1)
        (markers.set i { marker with snippet := text })
    else setSnippets providerId snippet providers (i + 1) markers

/-- `clientMarker` is taken off the map and the accepted provider's snippet is cleared: the
body of `viewWillAppear` and the beginning of `postRequest`. -/
def clearTrip (d : ClientDashboard) : Except Trap ClientDashboard :=
  match d.clientMarker with
  | none => return d
  | some marker => do
    let markers ← setSnippets (forceInt d.currentRequest "ProviderId") (pure "")
      d.arrOnlineProviders 0 d.arrMarkers
    return { d with clientMarker := some marker.hide, arrMarkers := markers }

def viewWillAppear (d : ClientDashboard) : Except Trap ClientDashboard := d.clearTrip

def timerAction (d : ClientDashboard) : ClientDashboard := { d with viewDisableIsHidden := true }

/-! ## 4. Extra equipment -/

/-- `kit.Name.contains(name)` -/
def isNamed (name : String) (kit : ProductKit) : Bool :=
  Unicode.contains kit.name.toList name.toList

/-- The quantity of the first kit whose name contains `name`, or 0. -/
def quantityOf (name : String) (products : List ProductKit) : Except Trap Int :=
  match products.find? (isNamed name) with
  | none => return 0
  | some kit => forceNumeral "Quantity" kit.quantity

/-- The total that the label of the kit shows. -/
def setKitItemsWithTextAndFont (d : ClientDashboard) : Except Trap Int := do
  let totalItems ← checkedInt (d.umbrellaCount + d.shoesCount)
  checkedInt (totalItems + d.raincoatCount)

def showSelectedProducts (d : ClientDashboard) (products : List ProductKit) :
    Except Trap ClientDashboard := do
  let umbrellas ← quantityOf "Umbrella" products
  let umbrellaCount ← checkedInt (d.umbrellaCount + umbrellas)
  let raincoats ← quantityOf "Rain Coat" products
  let raincoatCount ← checkedInt (d.raincoatCount + raincoats)
  let shoes ← quantityOf "Shoes" products
  let shoesCount ← checkedInt (d.shoesCount + shoes)
  let d := { d with
    umbrellaCount := umbrellaCount
    raincoatCount := raincoatCount
    shoesCount := shoesCount }
  let _ ← d.setKitItemsWithTextAndFont
  return d

/-! ## 5. What is sent to the server -/

/-- `arrOnlineProviders.map{$0.ProviderId}` -/
def providerIds (d : ClientDashboard) : List Int := d.arrOnlineProviders.map Provider.providerId

/-- The dictionary built by `postRequest`: the card comes from `UserDefaults`, the counts
from this screen, the charge from the application delegate. -/
def requestParameters (device : Device) (d : ClientDashboard) : Except Trap ServiceRequest := do
  let userID ← device.userID .clientApp
  let here ← unwrap .clientLocation d.clientLocation
  let umbrella ← checkedInt (d.umbrellaCount - 1)
  let coat ← checkedInt (d.raincoatCount - 1)
  let shoes ← checkedInt (d.shoesCount - 1)
  return {
    clientStripeCustomerId := some (device.defaults.getInt .userStripeId)
    clientStripeCustomerSourceId := some (device.defaults.getInt .userCardSelected)
    umbrella := umbrella
    coat := coat
    shoes := shoes
    equipmentCharge := device.appDelegate.extraCharge
    clientId := userID
    location := here
    providerIds := d.providerIds
    requestStatus := Request_Status.requested }

/-- The dictionary built by `cancelRequestThroughWS`, from the list as it is now. -/
def cancelParameters (device : Device) (d : ClientDashboard) : Except Trap ServiceRequest := do
  let userID ← device.userID .clientApp
  let here ← unwrap .clientLocation d.clientLocation
  return {
    clientStripeCustomerId := none
    clientStripeCustomerSourceId := none
    umbrella := 0
    coat := 0
    shoes := 0
    equipmentCharge := 0
    clientId := userID
    location := here
    providerIds := d.providerIds
    requestStatus := Request_Status.cancelled }

/-- What pressing `Request` leads to. -/
inductive SendRequestOutcome where
  | addCard
  | wallet
  | noOnlineProviders
  | locationUnavailable
  | post
  deriving DecidableEq, Repr

/-- The guards of `sendRequest`, in order. -/
def sendRequest (device : Device) (d : ClientDashboard) : SendRequestOutcome :=
  if device.defaults.getInt .userCardSelected = -1 then
    if device.defaults.getInt .userCardCount = 0 then .addCard else .wallet
  else if d.arrOnlineProviders = [] then .noOnlineProviders
  else if d.clientLocation = none then .locationUnavailable
  else .post

end ClientDashboard

end WeatherAccommodation
