/-
# The sockets under the socket manager

`WebSocket.swift` of Starscream: the object behind each of the three variables of
`WebSocketManager.swift`.  This file has its state and the methods that write on it, queue a write,
or queue a call of the delegate; what comes in is in `Input.lean`.

A socket is used from three places.  The delegate is called on the main queue, writes are carried
out one by one on `writeQueue`, and the stream reports what it has read on a queue of its own.  Each
of the three takes one thing at a time; so both queues are part of the state here, and running the
first entry of one is an event like any other (`Life.lean`).
-/
import WeatherAccommodation.Library.Frame
import WeatherAccommodation.Library.Machine

namespace Starscream

open Reactive Streaming WireFormat

/-! ## 1. Data -/

abbrev Data := List UInt8

/-- `CloseCode.normal.rawValue`, and the other two codes that are used. -/
def CloseCode.normal : UInt16 := 1000

def CloseCode.protocolError : UInt16 := 1002

def CloseCode.encoding : UInt16 := 1007

inductive ErrorType where
  | outputStreamWriteError
  | writeTimeoutError
  | protocolError
  | upgradeError
  | closeError
  deriving DecidableEq, Repr

structure WSError where
  type : ErrorType
  message : String
  code : Int
  deriving DecidableEq, Repr

/-- What a socket is disconnected with: an error of its own, or one of the stream with its code. -/
inductive SocketError where
  | ws (error : WSError)
  | stream (code : Int)
  deriving DecidableEq, Repr

inductive OpCode where
  | continueFrame
  | textFrame
  | binaryFrame
  | connectionClose
  | ping
  | pong
  deriving DecidableEq, Repr

namespace OpCode

def rawValue : OpCode → UInt8
  | continueFrame => 0x0
  | textFrame => 0x1
  | binaryFrame => 0x2
  | connectionClose => 0x8
  | ping => 0x9
  | pong => 0xA

/-- `OpCode(rawValue:)` -/
def ofRawValue (raw : UInt8) : Option OpCode :=
  [continueFrame, textFrame, binaryFrame, connectionClose, ping, pong].find? (·.rawValue == raw)

end OpCode

/-- A message on its way in. -/
structure WSResponse where
  isFin : Bool
  code : OpCode
  bytesLeft : Int
  frameCount : Nat
  buffer : Data
  deriving DecidableEq, Repr

/-- A stream of zlib: its window, and what has gone through it since it was made or reset. -/
structure Codec where
  windowBits : Int
  done : Data := []
  deriving DecidableEq, Repr

@[ext]
structure CompressionState where
  supportsCompression : Bool := false
  messageNeedsDecompression : Bool := false
  serverMaxWindowBits : Int := 15
  clientMaxWindowBits : Int := 15
  clientNoContextTakeover : Bool := false
  serverNoContextTakeover : Bool := false
  decompressor : Option Codec := none
  compressor : Option Codec := none
  deriving DecidableEq, Repr

/-- What a socket has of the system: zlib and SHA-1. -/
structure System where
  /-- The digest of a text in UTF-8, in base 64. -/
  sha1Base64 : String → String
  /-- Whether `inflateInit2_` and `deflateInit2_` take these window bits. -/
  initInflate : Int → Bool
  initDeflate : Int → Bool
  /-- What the bytes are inflated to, `none` where that fails. -/
  inflate : Codec → Data → Option Data
  /-- The same of `deflate` with `Z_SYNC_FLUSH`. -/
  deflate : Codec → Data → Option Data

/-- What is done on `writeQueue`. -/
inductive WriteOperation where
  /-- The request for the upgrade. -/
  | request (data : Data)
  | frame (data : Data) (code : OpCode)
  deriving DecidableEq, Repr

/-- What is called on the main queue. -/
inductive Callback where
  | didConnect
  | didDisconnect (error : Option SocketError)
  | didReceiveMessage (text : String)
  | didReceiveData (data : Data)
  | didReceivePong (data : Option Data)
  deriving DecidableEq, Repr

/-- Where the stream of a socket is. -/
inductive StreamState where
  | closed
  | connecting
  | isOpen
  deriving DecidableEq, Repr

structure WebSocket where
  connected : Bool := false
  isConnecting : Bool := false
  didDisconnect : Bool := false
  readyToWrite : Bool := false
  headerSecKey : String := ""
  stream : StreamState := .closed
  fragBuffer : Option Data := none
  /-- The last response first. -/
  readStack : List WSResponse := []
  compressionState : CompressionState := {}
  writeQueue : List WriteOperation := []
  callbackQueue : List Callback := []
  deriving DecidableEq, Repr

/-- A runtime check of Swift that stops the app. -/
inductive Trap where
  /-- A subtraction of `UInt64` below zero. -/
  | arithmeticOverflow
  /-- `removeLast(4)` of fewer bytes. -/
  | removeLast
  /-- `CInt` or `CUnsignedInt` of a number that does not fit. -/
  | conversion
  deriving DecidableEq, Repr

/-- What a call ends with that does not return. -/
inductive Thrown where
  /-- The message of an error of compression. -/
  | error (message : String)
  | trap (trap : Trap)
  deriving DecidableEq, Repr

/-! ## 2. Bytes -/

/-- `readUint16`, at a place in memory -/
def readUint16 (buffer : Nat → UInt8) (offset : Nat) : UInt16 :=
  ((buffer offset).toUInt16 <<< 8) ||| (buffer (offset + 1)).toUInt16

/-- `readUint64` -/
def readUint64 (buffer : Nat → UInt8) (offset : Nat) : UInt64 :=
  (List.range 8).foldl (fun value i => (value <<< 8) ||| (buffer (offset + i)).toUInt64) 0

/-- The bytes that `writeUint16` writes. -/
def writeUint16 (value : UInt16) : Data := [(value >>> 8).toUInt8, (value &&& 0xff).toUInt8]

/-- The bytes that `writeUint64` writes. -/
def writeUint64 (value : UInt64) : Data :=
  (List.range 8).map fun i => ((value >>> UInt64.ofNat (8 * (7 - i))) &&& 0xff).toUInt8

/-- `String(data:encoding:)` with UTF-8 -/
def utf8String (data : Data) : Option String := String.fromUTF8? ⟨data.toArray⟩

/-- `string.data(using: .utf8)!` -/
def utf8Data (string : String) : Data := string.toUTF8.data.toList

/-! ## 3. Queues -/

namespace WebSocket

/-- `canDispatch`, and the call of the delegate on the main queue -/
def callback (ws : WebSocket) (call : Callback) : WebSocket :=
  if ws.readyToWrite then { ws with callbackQueue := ws.callbackQueue ++ [call] } else ws

def dequeueWrite (ws : WebSocket) (data : Data) (code : OpCode) : WebSocket :=
  { ws with writeQueue := ws.writeQueue ++ [.frame data code] }

def writeError (ws : WebSocket) (code : UInt16) : WebSocket :=
  ws.dequeueWrite (writeUint16 code) .connectionClose

def doDisconnect (ws : WebSocket) (error : Option SocketError) : WebSocket :=
  if ws.didDisconnect then ws
  else
    callback { ws with didDisconnect := true, isConnecting := false, connected := false }
      (.didDisconnect error)

/-- The two calls with which a frame is refused. -/
def refuse (ws : WebSocket) (message : String) (code : UInt16) : WebSocket :=
  (ws.doDisconnect (some (.ws { type := .protocolError, message, code := code.toNat }))).writeError
    code

end WebSocket

/-! ## 4. Compression -/

namespace Codec

/-- What `-CInt(windowBits)` can be formed of. -/
def fits (windowBits : Int) : Bool := decide (-2 ^ 31 < windowBits) && decide (windowBits < 2 ^ 31)

/-- `Decompressor(windowBits:)` and `Compressor(windowBits:)` -/
def make (init : Int → Bool) (windowBits : Int) : Except Trap (Option Codec) :=
  if fits windowBits then .ok (if init windowBits then some { windowBits } else none)
  else .error .conversion

/-- `reset`, with the message of what it throws -/
def reset (codec : Codec) (init : Int → Bool) (message : String) : Except Thrown Codec :=
  if init codec.windowBits then .ok { codec with done := [] } else .error (.error message)

/-- `decompress(bytes:count:out:)` -/
def decompressBytes (codec : Codec) (system : System) (bytes : Data) :
    Except Thrown (Data × Codec) :=
  if 2 ^ 32 ≤ bytes.length then .error (.trap .conversion)
  else
    match system.inflate codec bytes with
    | none => .error (.error "Error on decompressing")
    | some out => .ok (out, { codec with done := codec.done ++ bytes })

/-- The end of a message, which is not sent. -/
def tail : Data := [0x00, 0x00, 0xFF, 0xFF]

/-- `decompress(bytes:count:finish:)` -/
def decompress (codec : Codec) (system : System) (bytes : Data) (finish : Bool) :
    Except Thrown (Data × Codec) := do
  let (decompressed, codec) ← codec.decompressBytes system bytes
  if finish then
    let (rest, codec) ← codec.decompressBytes system tail
    return (decompressed ++ rest, codec)
  else return (decompressed, codec)

/-- `compress` -/
def compress (codec : Codec) (system : System) (data : Data) : Except Thrown (Data × Codec) :=
  if 2 ^ 32 ≤ data.length then .error (.trap .conversion)
  else
    match system.deflate codec data with
    | none => .error (.error "Error on compressing")
    | some out =>
      if out.length < tail.length then .error (.trap .removeLast)
      else .ok (out.take (out.length - tail.length), { codec with done := codec.done ++ data })

end Codec

end Starscream
