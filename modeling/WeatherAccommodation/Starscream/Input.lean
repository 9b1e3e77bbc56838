/-
# What a socket makes of its input

`WebSocket.swift` from `dequeueInput` down.  Before the socket is connected the input is the answer
to the request for the upgrade, and is kept until there is a blank line; from then on it is frames.

The methods get a pointer and a length, and do not always look at the length before they read.  What
is in memory behind the buffer is `beyond`, which may be anything.
-/
import WeatherAccommodation.Library.Characters
import WeatherAccommodation.Library.Numeral
import WeatherAccommodation.Starscream.WebSocket

namespace Starscream

open Reactive Streaming Foundation

/-! ## 1. The header of a frame -/

def FinMask : UInt8 := 0x80

def OpCodeMask : UInt8 := 0x0F

def RSVMask : UInt8 := 0x70

def RSV1Mask : UInt8 := 0x40

def MaskMask : UInt8 := 0x80

def PayloadLenMask : UInt8 := 0x7F

/-- What the first two bytes of a frame say. -/
structure Header where
  isFin : Bool
  receivedOpcodeRawValue : UInt8
  receivedOpcode : Option OpCode
  isMasked : Bool
  /-- `(RSVMask & baseAddress[0]) > 0` -/
  hasRSV : Bool
  /-- `(RSV1Mask & baseAddress[0]) > 0` -/
  hasRSV1 : Bool
  payloadLen : UInt8
  deriving DecidableEq, Repr

namespace Header

def ofBytes (first second : UInt8) : Header where
  isFin := decide (0 < FinMask &&& first)
  receivedOpcodeRawValue := OpCodeMask &&& first
  receivedOpcode := OpCode.ofRawValue (OpCodeMask &&& first)
  isMasked := decide (0 < MaskMask &&& second)
  hasRSV := decide (0 < RSVMask &&& first)
  hasRSV1 := decide (0 < RSV1Mask &&& first)
  payloadLen := PayloadLenMask &&& second

def isControlFrame (h : Header) : Bool :=
  h.receivedOpcode == some .connectionClose || h.receivedOpcode == some .ping

/-- `closeCode`, from the two bytes behind the header -/
def closeCode (h : Header) (code : UInt16) : UInt16 :=
  if h.receivedOpcode == some .connectionClose then
    if h.payloadLen = 1 then CloseCode.protocolError
    else if 1 < h.payloadLen then
      if code < 1000 || (1003 < code && code < 1007) || (1013 < code && code < 3000) then
        CloseCode.protocolError
      else code
    else CloseCode.normal
  else CloseCode.normal

end Header

/-- What is at a place in memory, counted from the start of the buffer. -/
def byteAt (beyond : Nat → UInt8) (buffer : Data) (i : Nat) : UInt8 :=
  buffer.getD i (beyond (i - buffer.length))

/-- `dataLength` and `offset`, as the header has them -/
def lengthAt (memory : Nat → UInt8) (h : Header) : Nat × Nat :=
  if h.payloadLen = 127 then ((readUint64 memory 2).toNat, 10)
  else if h.payloadLen = 126 then ((readUint16 memory 2).toNat, 4)
  else (h.payloadLen.toNat, 2)

namespace CompressionState

/-- A frame that does not continue one says whether the message is compressed. -/
def note (state : CompressionState) (h : Header) : CompressionState :=
  if state.supportsCompression && h.receivedOpcode != some .continueFrame then
    { state with messageNeedsDecompression := h.hasRSV1 }
  else state

/-- What is done with the decompressor for one frame: after the last of a message it may start
anew. -/
def inflate (state : CompressionState) (system : System) (decompressor : Codec) (bytes : Data)
    (isFin : Bool) : Except Thrown (Data × Codec) := do
  let (data, decompressor) ← decompressor.decompress system bytes isFin
  if isFin && state.serverNoContextTakeover then
    return (data, ← decompressor.reset system.initInflate "Error for decompressor on reset")
  else return (data, decompressor)

/-- The payload of a message that needs it is inflated. -/
def decompressed (state : CompressionState) (system : System) (bytes : Data) (isFin : Bool) :
    Except Thrown (Data × CompressionState) :=
  match state.messageNeedsDecompression, state.decompressor with
  | true, some decompressor => do
    let (data, decompressor) ← state.inflate system decompressor bytes isFin
    return (data, { state with decompressor := some decompressor })
  | _, _ => .ok (bytes, state)

end CompressionState

namespace WebSocket

def noteCompression (ws : WebSocket) (h : Header) : WebSocket :=
  { ws with compressionState := ws.compressionState.note h }

/-- The frames that are refused for their header, and what that leaves behind. -/
def refusal (ws : WebSocket) (h : Header) (code : UInt16) : Option WebSocket :=
  if (h.isMasked || h.hasRSV) && h.receivedOpcode != some .pong &&
      !ws.compressionState.messageNeedsDecompression then
    some (ws.refuse "masked and rsv data is not currently supported" CloseCode.protocolError)
  else if !h.isControlFrame && (h.receivedOpcode != some .binaryFrame &&
      h.receivedOpcode != some .continueFrame && h.receivedOpcode != some .textFrame &&
      h.receivedOpcode != some .pong) then
    some (ws.refuse ("unknown opcode: " ++ toString h.receivedOpcodeRawValue)
      CloseCode.protocolError)
  else if h.isControlFrame && !h.isFin then
    some (ws.refuse "control frames can't be fragmented" CloseCode.protocolError)
  else if h.receivedOpcode == some .connectionClose then
    if h.payloadLen < 2 then some (ws.refuse "connection closed by server" (h.closeCode code))
    else none
  else if h.isControlFrame && 125 < h.payloadLen then
    some (ws.writeError CloseCode.protocolError)
  else none

/-! ## 2. The payload -/

/-- The last response is over, or goes on. -/
def processResponse (ws : WebSocket) (response : WSResponse) : WebSocket :=
  if response.isFin && response.bytesLeft ≤ 0 then
    match response.code with
    | .ping =>
      let ws := ws.dequeueWrite response.buffer .pong
      { ws with readStack := ws.readStack.tail }
    | .textFrame =>
      match utf8String response.buffer with
      | none => ws.writeError CloseCode.encoding
      | some str =>
        let ws := ws.callback (.didReceiveMessage str)
        { ws with readStack := ws.readStack.tail }
    | .binaryFrame =>
      let ws := ws.callback (.didReceiveData response.buffer)
      { ws with readStack := ws.readStack.tail }
    | _ => { ws with readStack := ws.readStack.tail }
  else ws

/-- A frame of a message, or a ping. -/
def receiveMessage (ws : WebSocket) (h : Header) (opcode : OpCode) (dataLength : Int)
    (data : Data) (len : Nat) (step : Nat) : Reading WebSocket Trap :=
  match (if h.isControlFrame then none else ws.readStack.head?) with
  | none =>
    if !h.isFin && opcode == .continueFrame then
      .stop (ws.refuse "continue frame before a binary or text frame" CloseCode.protocolError)
    else if opcode == .continueFrame then
      .stop (ws.refuse "first frame can't be a continue frame" CloseCode.protocolError)
    else
      let response : WSResponse := {
        isFin := h.isFin, code := opcode, bytesLeft := dataLength - len, frameCount := 1
        buffer := data }
      .take (processResponse { ws with readStack := response :: ws.readStack } response) step
  | some response =>
    if opcode == .continueFrame then
      let response : WSResponse := { response with
        isFin := h.isFin, bytesLeft := dataLength - len, frameCount := response.frameCount + 1
        buffer := response.buffer ++ data }
      .take (processResponse { ws with readStack := response :: ws.readStack.tail } response) step
    else
      .stop (ws.refuse "second and beyond of fragment message must be a continue frame"
        CloseCode.protocolError)

/-- The frame is all there: `dataLength` is what it says, and `bytes` its payload, which ends after
`step` bytes of the buffer. -/
def receive (ws : WebSocket) (system : System) (h : Header) (opcode : OpCode) (closeCode : UInt16)
    (dataLength : Int) (bytes : Data) (step : Nat) : Reading WebSocket Trap :=
  -- the code of a close frame is skipped, and its length is subtracted without a look
  if opcode == .connectionClose && 0 < bytes.length && bytes.length < 2 then
    .fail .arithmeticOverflow
  else
    let bytes := if opcode == .connectionClose then bytes.drop 2 else bytes
    match ws.compressionState.decompressed system bytes h.isFin with
    | .error (.trap trap) => .fail trap
    | .error (.error message) =>
      .stop (ws.refuse ("Decompression failed: WSError(type: " ++
        "Starscream.ErrorType.compressionError, message: \"" ++ message ++ "\", code: 0)")
        CloseCode.encoding)
    | .ok (data, state) =>
      let ws := { ws with compressionState := state }
      if opcode == .connectionClose then
        match utf8String data with
        | some closeReason => .stop (ws.refuse closeReason closeCode)
        | none => .stop (ws.refuse "connection closed by server" CloseCode.protocolError)
      else if opcode == .pong then
        .take (ws.callback (.didReceivePong (if 0 < data.length then some data else none))) step
      else ws.receiveMessage h opcode dataLength data bytes.length step

/-! ## 3. One frame -/

/-- The second branch of `processOneRawMessage`: a new frame. -/
def processFrame (ws : WebSocket) (system : System) (beyond : Nat → UInt8) (buffer : Data) :
    Reading WebSocket Trap :=
  let memory := byteAt beyond buffer
  let h := Header.ofBytes (memory 0) (memory 1)
  let ws := ws.noteCompression h
  let code := readUint16 memory 2
  match ws.refusal h code, h.receivedOpcode with
  | some ws, _ => .stop ws
  | none, none => .stop ws
  | none, some opcode =>
    let dataLength := (lengthAt memory h).1
    let offset := (lengthAt memory h).2
    if buffer.length < offset || buffer.length - offset < dataLength then .wait ws
    else
      let len := if buffer.length < dataLength then buffer.length - offset else dataLength
      ws.receive system h opcode (h.closeCode code) dataLength ((buffer.drop offset).take len)
        (offset + len)

/-- `.wait`: the buffer is kept in `fragBuffer`, and `emptyBuffer` is returned; `.stop`: just that;
`.take`: what is left of the buffer is returned. -/
def processOneRawMessage (ws : WebSocket) (system : System) (beyond : Nat → UInt8)
    (buffer : Data) : Reading WebSocket Trap :=
  match ws.readStack with
  | response :: rest =>
    if buffer.length < 2 then .wait ws
    else if 0 < response.bytesLeft then
      let len := if (buffer.length : Int) < response.bytesLeft then buffer.length
        else response.bytesLeft.toNat
      let response : WSResponse := { response with
        bytesLeft := response.bytesLeft - len
        buffer := response.buffer ++ buffer.take len }
      .take (processResponse { ws with readStack := response :: rest } response) len
    else ws.processFrame system beyond buffer
  | [] => ws.processFrame system beyond buffer

/-- The loop of `processRawMessagesInBuffer`, which takes something off each time. -/
def processRawMessagesFor (system : System) (beyond : Nat → UInt8) :
    Nat → WebSocket → Data → Except Trap WebSocket
  | 0, ws, _ => .ok ws
  | fuel + 1, ws, buffer =>
    match ws.processOneRawMessage system beyond buffer with
    | .fail trap => .error trap
    | .wait ws => .ok { ws with fragBuffer := some buffer }
    | .stop ws => .ok ws
    | .take ws n =>
      if 2 ≤ (buffer.drop n).length then
        processRawMessagesFor system beyond fuel ws (buffer.drop n)
      else if 0 < (buffer.drop n).length then .ok { ws with fragBuffer := some (buffer.drop n) }
      else .ok ws

def processRawMessagesInBuffer (ws : WebSocket) (system : System) (beyond : Nat → UInt8)
    (buffer : Data) : Except Trap WebSocket :=
  processRawMessagesFor system beyond (buffer.length + 1) ws buffer

/-! ## 4. The answer to the upgrade -/

end WebSocket

/-- The scan of `processHTTP`: `k` bytes of the blank line have been seen, `i` bytes in all.  A byte
that does not go on with it starts anew behind itself.  0 if there is no blank line. -/
def headerEnd (k i : Nat) : Data → Nat
  | [] => 0
  | b :: bs =>
    if b = [13, 10, 13, 10].getD k 0 then
      if k = 3 then i + 1 else headerEnd (k + 1) (i + 1) bs
    else headerEnd 0 (i + 1) bs

/-- `components(separatedBy: "\r\n")` -/
def lines : List Char → List (List Char)
  | [] => [[]]
  | '\r' :: '\n' :: cs => [] :: lines cs
  | c :: cs =>
    match lines cs with
    | [] => [[c]]
    | line :: rest => (c :: line) :: rest

/-- `trimmingCharacters(in: .whitespaces)` -/
def trimmed (cs : List Char) : List Char := trimmingCharacters CharacterSet.whitespaces cs

/-- `headers`, the latest first, up to the first line without a colon -/
def headerFields : List (List Char) → List (String × String) → List (String × String)
  | [], headers => headers
  | line :: rest, headers =>
    match line.splitOnP (· == ':') with
    | key :: value :: _ =>
      headerFields rest
        (((String.ofList (trimmed key)).toLower, String.ofList (trimmed value)) :: headers)
    | _ => headers

/-- The status code and the header fields of a response; `none` where there is no status. -/
def parseResponse (response : Data) : Option (Int × List (String × String)) :=
  match (utf8String response).map fun str => lines str.toList with
  | some (statusLine :: rest) =>
    match statusLine.splitOnP CharacterSet.whitespaces with
    | _ :: status :: _ => some ((int? (String.ofList status)).getD (-1), headerFields rest [])
    | _ => none
  | _ => none

namespace CompressionState

/-- One part of the extension header. -/
def processPart (state : CompressionState) (part : List Char) : CompressionState :=
  let part := String.ofList (trimmed part)
  let value := ((part.toList.splitOnP (· == '=')).getD 1 [])
  if part = "permessage-deflate" then { state with supportsCompression := true }
  else if part.startsWith "server_max_window_bits=" then
    match int? (String.ofList (trimmed value)) with
    | some bits => { state with serverMaxWindowBits := bits }
    | none => state
  else if part.startsWith "client_max_window_bits=" then
    match int? (String.ofList (trimmed value)) with
    | some bits => { state with clientMaxWindowBits := bits }
    | none => state
  else if part = "client_no_context_takeover" then { state with clientNoContextTakeover := true }
  else if part = "server_no_context_takeover" then { state with serverNoContextTakeover := true }
  else state

def processExtensionHeader (state : CompressionState) (system : System)
    (extensionHeader : String) : Except Trap CompressionState := do
  let state := (extensionHeader.toList.splitOnP (· == ';')).foldl processPart state
  if state.supportsCompression then
    let decompressor ← Codec.make system.initInflate state.serverMaxWindowBits
    let compressor ← Codec.make system.initDeflate state.clientMaxWindowBits
    return { state with decompressor, compressor }
  else return state

end CompressionState

namespace WebSocket

def httpSwitchProtocolCode : Int := 101

/-- The accept key has to be the digest of the key that was sent. -/
def acceptsKey (ws : WebSocket) (system : System) (acceptKey : String) : Bool :=
  0 < acceptKey.length && (ws.headerSecKey.length == 0 ||
    system.sha1Base64 (ws.headerSecKey ++ "258EAFA5-E914-47DA-95CA-C5AB0DC85B11") == acceptKey)

/-- The extensions that the response agrees on. -/
def agree (ws : WebSocket) (system : System) (headers : List (String × String)) :
    Except Trap WebSocket :=
  match headers.lookup "sec-websocket-extensions" with
  | some extensionHeader => do
    let state ← ws.compressionState.processExtensionHeader system extensionHeader
    return { ws with compressionState := state }
  | none => .ok ws

/-- 0 for a response that is accepted.  The extensions are set up before the key is looked at. -/
def validateResponse (ws : WebSocket) (system : System) (response : Data) :
    Except Trap (WebSocket × Int) :=
  match parseResponse response with
  | none => .ok (ws, -1)
  | some (code, headers) =>
    if code ≠ httpSwitchProtocolCode then .ok (ws, code)
    else do
      let ws ← ws.agree system headers
      match headers.lookup "sec-websocket-accept" with
      | some acceptKey => return (ws, if ws.acceptsKey system acceptKey then 0 else -1)
      | none => return (ws, -1)

/-- The socket is connected. -/
def connect101 (ws : WebSocket) : WebSocket :=
  callback { ws with isConnecting := false, connected := true, didDisconnect := false } .didConnect

/-- `processTCPHandshake`, with `processHTTP` -/
def processTCPHandshake (ws : WebSocket) (system : System) (beyond : Nat → UInt8)
    (buffer : Data) : Except Trap WebSocket :=
  let totalSize := headerEnd 0 0 buffer
  if 0 < totalSize then
    match ws.validateResponse system (buffer.take totalSize) with
    | .error trap => .error trap
    | .ok (ws, 0) =>
      let ws := ws.connect101
      if 0 < buffer.length - totalSize then
        ws.processRawMessagesInBuffer system beyond (buffer.drop totalSize)
      else .ok ws
    | .ok (ws, -1) => .ok { ws with fragBuffer := some buffer }
    | .ok (ws, code) => .ok (ws.doDisconnect (some (.ws {
        type := .upgradeError, message := "Invalid HTTP upgrade", code })))
  else .ok { ws with fragBuffer := some buffer }

/-! ## 5. Input -/

/-- `processInputStream`, with `dequeueInput`: the queue is empty before and after. -/
def dequeueInput (ws : WebSocket) (system : System) (beyond : Nat → UInt8) (data : Data) :
    Except Trap WebSocket :=
  let work := ws.fragBuffer.getD [] ++ data
  let ws := { ws with fragBuffer := none }
  if !ws.connected then ws.processTCPHandshake system beyond work
  else ws.processRawMessagesInBuffer system beyond work

end WebSocket

end Starscream
