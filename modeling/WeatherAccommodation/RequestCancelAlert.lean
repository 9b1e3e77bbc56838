/-
# The cancel-reason screen

`RequestCancelAlertViewController.swift`: the screen over the client-detail sheet and over the
provider-detail sheet on which a late cancellation gets its reason.  It is given the trip and
the location of the sheet below it, and takes the location delegate when it loads.
-/
import WeatherAccommodation.Globals

namespace WeatherAccommodation

open Foundation

/-- `CancellationReasonCode.NoReason` -/
def CancellationReasonCode.noReason : String := "0"

/-- `CancellationReasonCode.NoShow` -/
def CancellationReasonCode.noShow : String := "16"

/-- `CancellationReasonCode.NoReply` -/
def CancellationReasonCode.noReply : String := "17"

/-- The minutes of `stringFromTimeInterval`, out of whole seconds. -/
def minutesOf (seconds : Nat) : Nat := seconds / 60 % 60

structure RequestCancelAlert where
  currentRequest : Dict
  currentLocation : CLLocation
  deriving Repr

namespace RequestCancelAlert

def tracingLocation (alert : RequestCancelAlert) (currentLocation : CLLocation) :
    RequestCancelAlert := { alert with currentLocation := currentLocation }

/-- The reason that `btnSubmitPressed` sends. -/
def reason (btnShowupIsSelected : Bool) : String :=
  if btnShowupIsSelected then CancellationReasonCode.noShow else CancellationReasonCode.noReply

end RequestCancelAlert

end WeatherAccommodation
