/-
# The socket manager

`WebSocketManager.swift`: three socket variables and one delegate.  A `connect…` call makes a
new `WebSocket` object and puts it in its variable.  The object it replaces is released with
that, since the variable alone holds it: its stream is closed, and it does not call back any
more (`holds`).  Handlers tell sockets apart by identity with the variable, so a socket is
represented by its number in the order of creation.
-/
import WeatherAccommodation.Globals

namespace WeatherAccommodation

open Foundation Reactive

/-- What a socket was opened on. -/
inductive Endpoint where
  /-- `CLIENTPROVIDERCONNECTION` with the interpolated `ClientId`. -/
  | clientProviderConnection (clientId : Json)
  /-- `GETONLINEPROVIDERSTATUS` -/
  | commonProviderData
  /-- `ACTIVATEPROVIDER` with the provider's id and coordinates. -/
  | activateProvider (providerId : Json)
  deriving Repr

/-- `δ` are the screens that can be the delegate. -/
structure WebSocketManager (δ : Type) where
  /-- Every socket made so far, by number. -/
  sockets : List Endpoint := []
  clientCommonDataSocket : Option Nat := none
  providerConnectionSocket : Option Nat := none
  clientproviderRequestSocket : Option Nat := none
  delegate : Option δ := none

namespace WebSocketManager

variable {δ : Type}

/-- The socket is in its variable still. -/
def holds (m : WebSocketManager δ) (socket : Nat) : Bool :=
  m.clientCommonDataSocket == some socket || m.providerConnectionSocket == some socket ||
    m.clientproviderRequestSocket == some socket

def connectToGettingStatusUpdatesFromClient (m : WebSocketManager δ) : WebSocketManager δ :=
  { m with
    sockets := m.sockets ++ [.commonProviderData]
    clientCommonDataSocket := some m.sockets.length }

def connectProviderSocket (m : WebSocketManager δ) (providerId : Json) : WebSocketManager δ :=
  { m with
    sockets := m.sockets ++ [.activateProvider providerId]
    providerConnectionSocket := some m.sockets.length }

def connectClientProviderRequestSocket (m : WebSocketManager δ) (clientId : Json) :
    WebSocketManager δ :=
  { m with
    sockets := m.sockets ++ [.clientProviderConnection clientId]
    clientproviderRequestSocket := some m.sockets.length }

end WebSocketManager

end WeatherAccommodation
