import WeatherAccommodation.Library.Callbacks
import WeatherAccommodation.Library.Json
import WeatherAccommodation.Library.Machine
import WeatherAccommodation.Library.Numeral
import WeatherAccommodation.Globals
import WeatherAccommodation.Client.Dashboard
import WeatherAccommodation.WebSocketManager
import WeatherAccommodation.Client.ProviderList
import WeatherAccommodation.Client.Session
import WeatherAccommodation.Client.Steps
import WeatherAccommodation.Client.Acceptance
import WeatherAccommodation.Client.Withdrawal
import WeatherAccommodation.Client.Equipment
import WeatherAccommodation.Client.App
import WeatherAccommodation.Client.Billing
import WeatherAccommodation.Client.AppSteps
import WeatherAccommodation.Client.CardOwnership
import WeatherAccommodation.Provider.App
import WeatherAccommodation.Provider.Steps
import WeatherAccommodation.Provider.OtpGate
import WeatherAccommodation.Provider.AcceptedClient
import WeatherAccommodation.Provider.Network
import WeatherAccommodation.Provider.OneWinner
import WeatherAccommodation.Client.PickUpPoint
import WeatherAccommodation.Provider.Listening
import WeatherAccommodation.Provider.LiveLocation
import WeatherAccommodation.Account.App
import WeatherAccommodation.Account.Verification
import WeatherAccommodation.Account.ResetIdentity
import WeatherAccommodation.Client.CardPair
import WeatherAccommodation.Provider.RequestView
import WeatherAccommodation.ResumedTrip
import WeatherAccommodation.Handset.Isolation
import WeatherAccommodation.ClientProviderAPIManager
import WeatherAccommodation.Handset.ForcedLogout
import WeatherAccommodation.Provider.Sharing
import WeatherAccommodation.Provider.Online
import WeatherAccommodation.Client.Reach
import WeatherAccommodation.Library.Link
import WeatherAccommodation.TripNotices
import WeatherAccommodation.Client.TripDates
import WeatherAccommodation.AcceptedTrip
import WeatherAccommodation.Resumption
import WeatherAccommodation.Indicator.Released
import WeatherAccommodation.Indicator.Window
import WeatherAccommodation.Indicator.Steps
import WeatherAccommodation.Indicator.RequestPosts
import WeatherAccommodation.Client.NextPress
import WeatherAccommodation.Client.OwnSheet
import WeatherAccommodation.CancellationFee
import WeatherAccommodation.Provider.LocationReports
import WeatherAccommodation.Provider.NotifiedRequest
import WeatherAccommodation.Provider.ReachedDate
import WeatherAccommodation.Client.Tracking
import WeatherAccommodation.Library.JsonText
import WeatherAccommodation.LocationFrame
import WeatherAccommodation.AnyText
import WeatherAccommodation.Client.Departures
import WeatherAccommodation.Client.WaitingOverlay
import WeatherAccommodation.Client.DistanceTimers
import WeatherAccommodation.Client.RunningClock
import WeatherAccommodation.Provider.TripOrder
import WeatherAccommodation.Client.CardDeletion
import WeatherAccommodation.Client.WalletVisit
import WeatherAccommodation.Client.WalletRows
import WeatherAccommodation.Client.Tip
import WeatherAccommodation.Account.Resend
import WeatherAccommodation.Client.EquipmentCounts
import WeatherAccommodation.KitTable
import WeatherAccommodation.Provider.ProductKit
import WeatherAccommodation.Client.EquipmentRows
import WeatherAccommodation.KitScreens
import WeatherAccommodation.Client.FirstLoad
import WeatherAccommodation.Account.Identifiers
import WeatherAccommodation.Library.Characters
import WeatherAccommodation.Library.NSString
import WeatherAccommodation.Library.JsonPrinted
import WeatherAccommodation.Account.Validation
import WeatherAccommodation.FieldLimits
import WeatherAccommodation.Account.ForgotPassword
import WeatherAccommodation.CancelFrames
import WeatherAccommodation.Client.KnownLocation
import WeatherAccommodation.Library.DateFormatter
import WeatherAccommodation.TripRows
import WeatherAccommodation.Library.Reader
import WeatherAccommodation.Library.Frame
import WeatherAccommodation.Starscream.WebSocket
import WeatherAccommodation.Starscream.Input
import WeatherAccommodation.Starscream.Upgrade
import WeatherAccommodation.Starscream.Wire
import WeatherAccommodation.Starscream.Pieces
import WeatherAccommodation.Starscream.Messages
import WeatherAccommodation.Starscream.Output
import WeatherAccommodation.Starscream.Told
import WeatherAccommodation.Starscream.Life
import WeatherAccommodation.Starscream.Sent
import WeatherAccommodation.Starscream.Texts
import WeatherAccommodation.Starscream.Answer
import WeatherAccommodation.Starscream.Interleaving
import WeatherAccommodation.Starscream.Link
import WeatherAccommodation.Starscream.Program
import WeatherAccommodation.Starscream.Notices
import WeatherAccommodation.Provider.Sockets
