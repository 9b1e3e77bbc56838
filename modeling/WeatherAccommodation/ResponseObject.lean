/-
# The records built from server dictionaries

`ResponseObject.swift`: each initialiser reads its keys with `as?` and falls back to a
default, so none of them fails.  In particular a provider without a readable id is provider
0, and one without a status counts as connected.
-/
import WeatherAccommodation.Globals

namespace WeatherAccommodation

open Foundation Reactive

structure Provider where
  providerId : Int
  latitude : String
  longitude : String
  status : String
  deriving DecidableEq, Repr

/-- `Provider.init(dict:)` -/
def Provider.ofDict (dict : Dict) : Provider where
  providerId := (Dict.int? dict "ProviderId").getD 0
  latitude := (Dict.string? dict "Latitude").getD ""
  longitude := (Dict.string? dict "Longitude").getD ""
  status := (Dict.string? dict "Status").getD ProviderStatus.connected

/-- Where a provider says it is, if `Double` reads both coordinates. -/
def Provider.location? (p : Provider) : Option CLLocation :=
  match double? p.latitude, double? p.longitude with
  | some lat, some long => some { latitude := lat, longitude := long }
  | _, _ => none

/-- The forced reading of the coordinates succeeds exactly when it reads both. -/
theorem forceLocation_eq_ok {p : Provider} {l : CLLocation} :
    forceLocation p.latitude p.longitude = .ok l ↔ p.location? = some l := by
  unfold forceLocation Provider.location?
  cases hlat : double? p.latitude with
  | none => simp [forceDouble, hlat]
  | some lat =>
    cases hlong : double? p.longitude with
    | none => simp [forceDouble, hlat, hlong]
    | some long => simp [forceDouble, hlat, hlong]

structure StripeCard where
  customerId : String
  clientStripeCustomerSourceId : Int
  clientStripeCustomerId : Int
  sourceId : String
  sourceToken : String
  last4 : String
  brand : String
  deriving DecidableEq, Repr

/-- `StripeCard.init(dict:)` -/
def StripeCard.ofDict (dict : Dict) : StripeCard where
  customerId := (Dict.string? dict "CustomerId").getD ""
  sourceId := (Dict.string? dict "SourceId").getD ""
  sourceToken := (Dict.string? dict "SourceToken").getD ""
  last4 := (Dict.string? dict "last4").getD ""
  brand := (Dict.string? dict "Brand").getD ""
  clientStripeCustomerSourceId := (Dict.int? dict "ClientStripeCustomerSourceId").getD 0
  clientStripeCustomerId := (Dict.int? dict "ClientStripeCustomerId").getD 0

structure ProductSize where
  productKitSizeId : Int
  size : String
  productKitId : Int
  isSelected : Bool
  deriving DecidableEq, Repr

/-- `ProductSize.init(dict:)` -/
def ProductSize.ofDict (dict : Dict) : ProductSize where
  productKitSizeId := (Dict.int? dict "ProductKitSizeId").getD 0
  size := (Dict.string? dict "Size").getD ""
  productKitId := (Dict.int? dict "ProductKitId").getD 0
  isSelected := (Dict.bool? dict "isSelected").getD false

structure ProductKit where
  productKitId : Int
  name : String
  quantity : String
  sizes : List ProductSize
  deriving DecidableEq, Repr

/-- `ProductKit.init(dict:)`; the sizes come with another reply. -/
def ProductKit.ofDict (dict : Dict) : ProductKit where
  productKitId := (Dict.int? dict "ProductKitId").getD 0
  name := (Dict.string? dict "Name").getD ""
  quantity := (Dict.string? dict "qty").getD ""
  sizes := []

structure TripList where
  tripId : String
  totalTripAmount : Int
  tripTimestamp : ℚ
  starRatings : Int
  tripCharges : Int
  tipAmount : Int
  deriving DecidableEq, Repr

/-- `TripList.init(dict:)` -/
def TripList.ofDict (dict : Dict) : TripList where
  tripId := (Dict.string? dict "TripId").getD ""
  totalTripAmount := (Dict.int? dict "TotalTripAmount").getD 0
  tripTimestamp := (Dict.double? dict "TripTimestamp").getD 0
  starRatings := (Dict.int? dict "StarRatings").getD 0
  tripCharges := (Dict.int? dict "TripCharges").getD 0
  tipAmount := (Dict.int? dict "TipAmount").getD 0

end WeatherAccommodation
