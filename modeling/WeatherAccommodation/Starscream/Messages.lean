/-
# What a server says

A server says what it has to say in frames: a message in one frame or in several, compressed or not,
and pings and pongs wherever it likes, also between the frames of a message.  `Speaks` is what a
socket takes that for; it goes by the socket's own note of what is compressed, and what a server
means by it is in `Server.lean`.

* `frameReading_of_utters`: what a socket makes of one frame;
* `pump_of_speaks`, `pump_of_part`: of any number of them, and of a part of them;
* `speaks_fragmented`: a message may be cut into frames anywhere;
* `texts_plain`: and texts that are not compressed need nothing of zlib;
* `ping_ends_inflating`: but a ping within a compressed message ends the inflating of it.
-/
import WeatherAccommodation.Starscream.Pieces

namespace Starscream

open Reactive Streaming WireFormat

variable {system : System} {ws t : WebSocket}

/-! ## 1. What is said -/

/-- A frame of a server has no key. -/
def serverFrame (isFin hasRSV1 : Bool) (code : OpCode) (sent : Data) : Frame where
  head := (if isFin then FinMask else 0) ||| (if hasRSV1 then RSV1Mask else 0) ||| code.rawValue
  payload := sent

/-- Its header. -/
def serverHeader (isFin hasRSV1 : Bool) (code : OpCode) (sent : Data) : Header where
  isFin := isFin
  receivedOpcodeRawValue := code.rawValue
  receivedOpcode := some code
  isMasked := false
  hasRSV := hasRSV1
  hasRSV1 := hasRSV1
  payloadLen := UInt8.ofNat (lengthField sent.length).1

/-- A message that has begun, and what of it has been said. -/
structure Begun where
  code : OpCode
  frameCount : Nat
  data : Data

/-- How far a server has come, as a socket sees it. -/
structure Speech where
  begun : Option Begun
  state : CompressionState

/-- What a frame comes to: a call of the delegate, or a ping that wants a pong. -/
inductive Heard where
  | told (call : Callback)
  | pinged (data : Data)
  deriving DecidableEq, Repr

/-- The calls of the delegate. -/
def told (hs : List Heard) : List Callback := hs.filterMap fun
  | .told call => some call
  | .pinged _ => none

/-- The pongs that are owed. -/
def owed (hs : List Heard) : List WriteOperation := hs.filterMap fun
  | .told _ => none
  | .pinged data => some (.frame data .pong)

/-- The call for a message. -/
def tells : OpCode → Data → Option Callback
  | .textFrame, data => (utf8String data).map .didReceiveMessage
  | .binaryFrame, data => some (.didReceiveData data)
  | _, _ => none

def tellsPong (data : Data) : Callback :=
  .didReceivePong (if 0 < data.length then some data else none)

/-- The payload of a frame comes to `data`, inflated if that was noted. -/
structure Carries (system : System) (s : CompressionState) (isFin hasRSV1 : Bool) (code : OpCode)
    (sent data : Data) (t : CompressionState) : Prop where
  size : sent.length < 2 ^ 64
  /-- The mark of compression is taken for a mistake where none was agreed on. -/
  marked : hasRSV1 = true → code = .pong ∨
    (s.note (serverHeader isFin hasRSV1 code sent)).messageNeedsDecompression = true
  payload : (s.note (serverHeader isFin hasRSV1 code sent)).decompressed system sent isFin =
    .ok (data, t)

/-- What may be said when, and what a socket takes it for. -/
inductive Utters (system : System) : Speech → Frame → List Heard → Speech → Prop
  | whole {s t : CompressionState} {hasRSV1 : Bool} {code : OpCode} {sent data : Data}
      {call : Callback} (carries : Carries system s true hasRSV1 code sent data t)
      (tell : tells code data = some call) :
      Utters system ⟨none, s⟩ (serverFrame true hasRSV1 code sent) [.told call] ⟨none, t⟩
  | first {s t : CompressionState} {hasRSV1 : Bool} {code : OpCode} {sent data : Data}
      (carries : Carries system s false hasRSV1 code sent data t)
      (kind : code = .textFrame ∨ code = .binaryFrame) :
      Utters system ⟨none, s⟩ (serverFrame false hasRSV1 code sent) [] ⟨some ⟨code, 1, data⟩, t⟩
  | more {b : Begun} {s t : CompressionState} {hasRSV1 : Bool} {sent data : Data}
      (carries : Carries system s false hasRSV1 .continueFrame sent data t) :
      Utters system ⟨some b, s⟩ (serverFrame false hasRSV1 .continueFrame sent) []
        ⟨some ⟨b.code, b.frameCount + 1, b.data ++ data⟩, t⟩
  | last {b : Begun} {s t : CompressionState} {hasRSV1 : Bool} {sent data : Data} {call : Callback}
      (carries : Carries system s true hasRSV1 .continueFrame sent data t)
      (tell : tells b.code (b.data ++ data) = some call) :
      Utters system ⟨some b, s⟩ (serverFrame true hasRSV1 .continueFrame sent) [.told call]
        ⟨none, t⟩
  | ping {b : Option Begun} {s t : CompressionState} {hasRSV1 : Bool} {sent data : Data}
      (carries : Carries system s true hasRSV1 .ping sent data t) (size : sent.length ≤ 125) :
      Utters system ⟨b, s⟩ (serverFrame true hasRSV1 .ping sent) [.pinged data] ⟨b, t⟩
  | pong {b : Option Begun} {s t : CompressionState} {hasRSV1 : Bool} {sent data : Data}
      (carries : Carries system s true hasRSV1 .pong sent data t) :
      Utters system ⟨b, s⟩ (serverFrame true hasRSV1 .pong sent) [.told (tellsPong data)] ⟨b, t⟩

/-- One frame after the other. -/
inductive Speaks (system : System) : Speech → List Frame → List Heard → Speech → Prop
  | nil (b : Speech) : Speaks system b [] [] b
  | cons {b c d : Speech} {f : Frame} {fs : List Frame} {h hs : List Heard}
      (head : Utters system b f h c) (tail : Speaks system c fs hs d) :
      Speaks system b (f :: fs) (h ++ hs) d

theorem Speaks.append {b c d : Speech} {fs gs : List Frame} {h k : List Heard}
    (h₁ : Speaks system b fs h c) (h₂ : Speaks system c gs k d) :
    Speaks system b (fs ++ gs) (h ++ k) d := by
  induction h₁ with
  | nil b => exact h₂
  | cons head _ ih =>
    rw [List.cons_append, List.append_assoc]
    exact .cons head (ih h₂)

/-! ## 2. What is heard -/

namespace WebSocket

/-- The response on the stack, for a message that has begun. -/
def stackOf (b : Option Begun) : List WSResponse :=
  (b.map fun b => {
    isFin := false, code := b.code, bytesLeft := 0, frameCount := b.frameCount, buffer := b.data
    }).toList

/-- A connected socket, as far as the server has come. -/
structure Listens (ws : WebSocket) (b : Speech) : Prop where
  connected : ws.connected = true
  state : ws.compressionState = b.state
  readStack : ws.readStack = stackOf b.begun

def hear (ws : WebSocket) : Heard → WebSocket
  | .told call => ws.callback call
  | .pinged data => ws.dequeueWrite data .pong

/-- As far as the server has come. -/
def upTo (ws : WebSocket) (b : Speech) : WebSocket :=
  { ws with readStack := stackOf b.begun, compressionState := b.state }

/-- What the socket is when the server has said so much. -/
def heard (ws : WebSocket) (hs : List Heard) (b : Speech) : WebSocket :=
  (hs.foldl hear ws).upTo b

theorem Listens.upTo_eq {b : Speech} (h : ws.Listens b) : ws.upTo b = ws := by
  unfold upTo
  rw [← h.state, ← h.readStack]

theorem reads_hear (ws : WebSocket) (h : Heard) : Reads ws (ws.hear h) := by
  cases h with
  | told call => exact reads_callback ws call
  | pinged data => exact reads_dequeueWrite ws data .pong

theorem reads_foldl_hear (ws : WebSocket) (hs : List Heard) : Reads ws (hs.foldl hear ws) := by
  induction hs generalizing ws with
  | nil => exact .refl ws
  | cons h hs ih => exact (reads_hear ws h).trans (ih (ws.hear h))

theorem Listens.heard {b : Speech} (h : ws.Listens b) (hs : List Heard) (c : Speech) :
    (ws.heard hs c).Listens c :=
  ⟨(reads_foldl_hear ws hs).connected.trans h.connected, rfl, rfl⟩

theorem Listens.keep {b : Speech} (h : ws.Listens b) (kept : Data) : (ws.keep kept).Listens b :=
  ⟨h.connected, h.state, h.readStack⟩

/-- Hearing looks neither at the stack nor at the compression. -/
theorem callback_with (ws : WebSocket) (stack : List WSResponse) (state : CompressionState)
    (call : Callback) :
    callback { ws with readStack := stack, compressionState := state } call =
      { ws.callback call with readStack := stack, compressionState := state } := by
  unfold callback
  dsimp only
  split
  · rfl
  · rfl

theorem hear_upTo (ws : WebSocket) (b : Speech) (h : Heard) :
    (ws.upTo b).hear h = (ws.hear h).upTo b := by
  cases h with
  | told call => exact callback_with ws _ _ call
  | pinged data => rfl

theorem heard_heard (ws : WebSocket) (hs ks : List Heard) (b c : Speech) :
    (ws.heard hs b).heard ks c = ws.heard (hs ++ ks) c := by
  have hfold : ∀ u : WebSocket, (ks.foldl hear (u.upTo b)) = (ks.foldl hear u).upTo b := by
    induction ks with
    | nil => exact fun u => rfl
    | cons k ks ih =>
      intro u
      rw [List.foldl_cons, List.foldl_cons, hear_upTo]
      exact ih _
  unfold heard
  rw [hfold, List.foldl_append]
  rfl

/-! ## 3. The header of a frame -/

theorem header_serverFrame (isFin hasRSV1 : Bool) (code : OpCode) (sent ys : Data) :
    Header.ofBytes (((serverFrame isFin hasRSV1 code sent).bytes ++ ys).getD 0 0)
        (((serverFrame isFin hasRSV1 code sent).bytes ++ ys).getD 1 0) =
      serverHeader isFin hasRSV1 code sent := by
  obtain ⟨hlen, hkey⟩ := (serverFrame isFin hasRSV1 code sent).second_and
  have hmask : MaskMask &&& (serverFrame isFin hasRSV1 code sent).second = 0 := by
    rw [UInt8.and_comm]
    exact hkey.mpr rfl
  have hsecond : Header.ofBytes (((serverFrame isFin hasRSV1 code sent).bytes ++ ys).getD 0 0)
      (((serverFrame isFin hasRSV1 code sent).bytes ++ ys).getD 1 0) =
      Header.ofBytes ((if isFin then FinMask else 0) ||| (if hasRSV1 then RSV1Mask else 0) |||
        code.rawValue) (serverFrame isFin hasRSV1 code sent).second := rfl
  rw [hsecond]
  unfold Header.ofBytes
  rw [hmask, show PayloadLenMask &&& (serverFrame isFin hasRSV1 code sent).second =
    UInt8.ofNat (lengthField sent.length).1 from (UInt8.and_comm _ _).trans hlen]
  cases isFin <;> cases hasRSV1 <;> cases code <;> rfl

theorem refusal_serverHeader {isFin hasRSV1 : Bool} {code : OpCode} {sent : Data}
    (hclose : code ≠ .connectionClose)
    (hmarked : hasRSV1 = true → code = .pong ∨ ws.compressionState.messageNeedsDecompression = true)
    (hping : code = .ping → isFin = true ∧ sent.length ≤ 125) :
    ws.refusal (serverHeader isFin hasRSV1 code sent) 0 = none := by
  have hrsv : (((serverHeader isFin hasRSV1 code sent).isMasked ||
      (serverHeader isFin hasRSV1 code sent).hasRSV) &&
      (serverHeader isFin hasRSV1 code sent).receivedOpcode != some .pong &&
      !ws.compressionState.messageNeedsDecompression) = false := by
    cases hasRSV1 with
    | false => simp [serverHeader]
    | true =>
      rcases hmarked rfl with rfl | hneeds
      · simp [serverHeader]
      · simp [hneeds]
  unfold refusal
  rw [if_neg (by rw [hrsv]; simp)]
  cases code with
  | connectionClose => exact absurd rfl hclose
  | ping =>
    obtain ⟨rfl, hsize⟩ := hping rfl
    have hlen : ¬125 < UInt8.ofNat (lengthField sent.length).1 := by
      rw [UInt8.lt_iff_toNat_lt, UInt8.toNat_ofNat']
      simp only [lengthField, if_pos (by omega : sent.length < 126)]
      have h125 : (125 : UInt8).toNat = 125 := rfl
      omega
    simp [serverHeader, Header.isControlFrame, hlen]
  | continueFrame => simp [serverHeader, Header.isControlFrame]
  | textFrame => simp [serverHeader, Header.isControlFrame]
  | binaryFrame => simp [serverHeader, Header.isControlFrame]
  | pong => simp [serverHeader, Header.isControlFrame]

/-- A frame of a server is received with what it carries. -/
theorem frameReading_serverFrame {s state : CompressionState} {isFin hasRSV1 : Bool}
    {code : OpCode} {sent data : Data} (hstate : ws.compressionState = s)
    (hcarries : Carries system s isFin hasRSV1 code sent data state)
    (hclose : code ≠ .connectionClose)
    (hping : code = .ping → isFin = true ∧ sent.length ≤ 125) :
    ws.frameReading system (serverFrame isFin hasRSV1 code sent).bytes =
      if code = .pong then .take (callback { ws with compressionState := state } (tellsPong data))
        (serverFrame isFin hasRSV1 code sent).bytes.length
      else receiveMessage { ws with compressionState := state }
        (serverHeader isFin hasRSV1 code sent) code sent.length data sent.length
        (serverFrame isFin hasRSV1 code sent).bytes.length := by
  subst hstate
  have hsize := hcarries.size
  have hheader := header_serverFrame isFin hasRSV1 code sent []
  have hlength := (serverFrame isFin hasRSV1 code sent).payloadLength_bytes hsize []
  have hdrop := (serverFrame isFin hasRSV1 code sent).drop_bytes []
  have hpayload : (serverFrame isFin hasRSV1 code sent).payload = sent := rfl
  have hbody : (serverFrame isFin hasRSV1 code sent).keyBytes ++
      ((serverFrame isFin hasRSV1 code sent).body ++ []) = sent := by
    simp [Frame.keyBytes, Frame.body, serverFrame]
  have hall := (serverFrame isFin hasRSV1 code sent).length_bytes
  rw [List.append_nil] at hheader hlength hdrop
  rw [hpayload] at hlength hdrop hall
  rw [hbody] at hdrop
  have hkey : (serverFrame isFin hasRSV1 code sent).keyBytes.length = 0 := rfl
  have hrefusal : (ws.noteCompression (serverHeader isFin hasRSV1 code sent)).refusal
      (serverHeader isFin hasRSV1 code sent) 0 = none :=
    refusal_serverHeader hclose hcarries.marked hping
  have hcode : ∀ c, (serverHeader isFin hasRSV1 code sent).closeCode c = CloseCode.normal := by
    intro c
    simp [Header.closeCode, serverHeader, hclose]
  have hstep : 2 + (lengthField sent.length).2.length + sent.length =
      (serverFrame isFin hasRSV1 code sent).bytes.length := by omega
  have hdata :
      (ws.noteCompression (serverHeader isFin hasRSV1 code sent)).compressionState.decompressed
        system sent (serverHeader isFin hasRSV1 code sent).isFin = .ok (data, state) :=
    hcarries.payload
  rw [frameReading_of_opcode hheader hrefusal rfl, hlength, hdrop, hcode,
    if_neg (by omega), List.take_length, hstep]
  have hnot : (code == OpCode.connectionClose) = false := by simpa using hclose
  unfold receive
  simp only [hnot, Bool.false_and, Bool.false_eq_true, if_false, hdata]
  by_cases hpong : code = .pong
  · subst hpong
    rfl
  · rw [if_neg (by simpa using hpong), if_neg hpong]
    rfl

/-! ## 4. What is told -/

/-- A message that is over is told, and taken off the stack. -/
theorem processResponse_of_tells {response : WSResponse} {call : Callback}
    (hfin : response.isFin = true) (hleft : response.bytesLeft ≤ 0)
    (htells : tells response.code response.buffer = some call) (rest : List WSResponse)
    (state : CompressionState) :
    processResponse { ws with readStack := response :: rest, compressionState := state } response =
      { ws.callback call with readStack := rest, compressionState := state } := by
  have hover : (response.isFin && decide (response.bytesLeft ≤ 0)) = true := by simp [hfin, hleft]
  unfold processResponse
  rw [if_pos hover]
  cases hcode : response.code with
  | textFrame =>
    rw [hcode, tells, Option.map_eq_some_iff] at htells
    obtain ⟨str, hstr, rfl⟩ := htells
    simp only [hstr, callback_with, List.tail_cons]
  | binaryFrame =>
    rw [hcode] at htells
    obtain rfl := Option.some.inj htells
    simp only [callback_with, List.tail_cons]
  | continueFrame => exact absurd htells (by simp [hcode, tells])
  | connectionClose => exact absurd htells (by simp [hcode, tells])
  | ping => exact absurd htells (by simp [hcode, tells])
  | pong => exact absurd htells (by simp [hcode, tells])

theorem processResponse_of_not_fin {response : WSResponse} (hfin : response.isFin = false) :
    ws.processResponse response = ws := by
  simp [processResponse, hfin]

theorem tells_kind {code : OpCode} {data : Data} {call : Callback}
    (h : tells code data = some call) : code = .textFrame ∨ code = .binaryFrame := by
  cases code with
  | textFrame => exact .inl rfl
  | binaryFrame => exact .inr rfl
  | continueFrame => exact absurd h (by simp [tells])
  | connectionClose => exact absurd h (by simp [tells])
  | ping => exact absurd h (by simp [tells])
  | pong => exact absurd h (by simp [tells])

/-- The first frame of a message. -/
theorem receiveMessage_new {isFin hasRSV1 : Bool} {code : OpCode} {sent data : Data} {step : Nat}
    (hstack : ws.readStack = []) (hkind : code = .textFrame ∨ code = .binaryFrame) :
    ws.receiveMessage (serverHeader isFin hasRSV1 code sent) code sent.length data sent.length
        step =
      .take (processResponse
        { ws with readStack := [⟨isFin, code, 0, 1, data⟩] } ⟨isFin, code, 0, 1, data⟩) step := by
  rcases hkind with rfl | rfl
  · simp [receiveMessage, hstack, Header.isControlFrame, serverHeader]
  · simp [receiveMessage, hstack, Header.isControlFrame, serverHeader]

/-- A frame that continues one. -/
theorem receiveMessage_continue {isFin hasRSV1 : Bool} {b : Begun} {sent data : Data} {step : Nat}
    (hstack : ws.readStack = stackOf (some b)) :
    ws.receiveMessage (serverHeader isFin hasRSV1 .continueFrame sent) .continueFrame sent.length
        data sent.length step =
      .take (processResponse
        { ws with readStack := [⟨isFin, b.code, 0, b.frameCount + 1, b.data ++ data⟩] }
        ⟨isFin, b.code, 0, b.frameCount + 1, b.data ++ data⟩) step := by
  simp [receiveMessage, hstack, stackOf, Header.isControlFrame, serverHeader]

/-- A ping goes on the stack and off again, whatever is under it. -/
theorem receiveMessage_ping {hasRSV1 : Bool} {sent data : Data} {step : Nat} :
    ws.receiveMessage (serverHeader true hasRSV1 .ping sent) .ping sent.length data sent.length
      step = .take (ws.dequeueWrite data .pong) step := by
  simp [receiveMessage, Header.isControlFrame, serverHeader, processResponse, dequeueWrite]

/-- **What a socket makes of one frame.** -/
theorem frameReading_of_utters {b c : Speech} {f : Frame} {hs : List Heard}
    (hws : ws.Listens b) (h : Utters system b f hs c) :
    ws.frameReading system f.bytes = .take (ws.heard hs c) f.bytes.length := by
  have hstack : ∀ state, ({ ws with compressionState := state } : WebSocket).readStack =
      stackOf b.begun := fun _ => hws.readStack
  have hstate := hws.state
  cases h with
  | @whole s t _ code _ data call carries tell =>
    have hkind := tells_kind tell
    have hclose : code ≠ .connectionClose := by rcases hkind with rfl | rfl <;> decide
    have hping : code ≠ .ping := by rcases hkind with rfl | rfl <;> decide
    have hpong : code ≠ .pong := by rcases hkind with rfl | rfl <;> decide
    rw [frameReading_serverFrame hstate carries hclose (fun h => absurd h hping), if_neg hpong,
      receiveMessage_new (hstack t) hkind]
    exact congrArg (Reading.take · _)
      (@processResponse_of_tells ws ⟨true, code, 0, 1, data⟩ call rfl le_rfl tell [] t)
  | @first s t _ code _ _ carries kind =>
    have hclose : code ≠ .connectionClose := by rcases kind with rfl | rfl <;> decide
    have hping : code ≠ .ping := by rcases kind with rfl | rfl <;> decide
    have hpong : code ≠ .pong := by rcases kind with rfl | rfl <;> decide
    rw [frameReading_serverFrame hstate carries hclose (fun h => absurd h hping), if_neg hpong,
      receiveMessage_new (hstack t) kind, processResponse_of_not_fin rfl]
    rfl
  | @more b s t _ _ _ carries =>
    rw [frameReading_serverFrame hstate carries (by decide) (fun h => absurd h (by decide)),
      if_neg (by decide), receiveMessage_continue (hstack t), processResponse_of_not_fin rfl]
    rfl
  | @last b s t _ _ data call carries tell =>
    rw [frameReading_serverFrame hstate carries (by decide) (fun h => absurd h (by decide)),
      if_neg (by decide), receiveMessage_continue (hstack t)]
    exact congrArg (Reading.take · _) (@processResponse_of_tells ws
      ⟨true, b.code, 0, b.frameCount + 1, b.data ++ data⟩ call rfl le_rfl tell [] t)
  | ping carries size =>
    rw [frameReading_serverFrame hstate carries (by decide) (fun _ => ⟨rfl, size⟩),
      if_neg (by decide), receiveMessage_ping]
    simp only [heard, upTo, List.foldl_cons, List.foldl_nil, hear, ← hws.readStack]
    rfl
  | @pong _ s t _ _ data carries =>
    rw [frameReading_serverFrame hstate carries (by decide) (fun h => absurd h (by decide)),
      if_pos rfl]
    have hcall := callback_with ws ws.readStack t (tellsPong data)
    simp only [heard, upTo, List.foldl_cons, List.foldl_nil, hear, ← hws.readStack]
    rw [← hcall]

theorem two_le_length_bytes (f : Frame) : 2 ≤ f.bytes.length := by
  rw [f.length_bytes]
  omega

/-- Frame after frame. -/
theorem chain_of_speaks {b c : Speech} {fs : List Frame} {hs : List Heard}
    (hws : ws.Listens b) (h : Speaks system b fs hs c) :
    (wire system).Chain Frame.bytes ws fs (ws.heard hs c) := by
  induction h generalizing ws with
  | nil b =>
    rw [heard, List.foldl_nil, hws.upTo_eq]
    exact .nil ws
  | @cons b c d f fs h hs head _ ih =>
    refine .cons (t := ws.heard h c) ?_ ?_
    · rw [wire_of_connected hws.connected (two_le_length_bytes f)]
      exact frameReading_of_utters hws head
    · have htail := ih (hws.heard h c)
      rwa [heard_heard] at htail

/-- **What a socket makes of whatever a server says**, and of what follows. -/
theorem pump_of_speaks {b c : Speech} {fs : List Frame} {hs : List Heard}
    (hws : ws.Listens b) (h : Speaks system b fs hs c) (ys : Data) :
    (wire system).pump ws (fs.flatMap Frame.bytes ++ ys) =
      (wire system).pump (ws.heard hs c) ys :=
  (chain_of_speaks hws h).pump (wire_lawful system) ys

/-- Every call and every pong is queued. -/
theorem queues_foldl_hear (hready : ws.readyToWrite = true) (hs : List Heard) :
    (hs.foldl hear ws).callbackQueue = ws.callbackQueue ++ told hs ∧
      (hs.foldl hear ws).writeQueue = ws.writeQueue ++ owed hs := by
  induction hs generalizing ws with
  | nil => simp [told, owed]
  | cons h hs ih =>
    obtain ⟨hcalls, hwrites⟩ := ih ((reads_hear ws h).readyToWrite.trans hready)
    rw [List.foldl_cons, hcalls, hwrites]
    cases h with
    | told call => simp [hear, callback, hready, told, owed]
    | pinged data => simp [hear, dequeueWrite, told, owed]

end WebSocket

/-- What is said first is said first. -/
theorem Speaks.split {b d : Speech} {fs gs : List Frame} {hs : List Heard}
    (h : Speaks system b (fs ++ gs) hs d) :
    ∃ ks js c, hs = ks ++ js ∧ Speaks system b fs ks c ∧ Speaks system c gs js d := by
  induction fs generalizing b hs with
  | nil => exact ⟨[], hs, b, rfl, .nil b, h⟩
  | cons f fs ih =>
    cases h with
    | @cons _ c _ _ _ h hs head tail =>
      obtain ⟨ks, js, e, rfl, hfirst, hrest⟩ := ih tail
      exact ⟨h ++ ks, js, e, (List.append_assoc _ _ _).symm, .cons head hfirst, hrest⟩

/-- Within a frame nothing has come of it yet. -/
theorem wire_part {b c : Speech} {f : Frame} {hs : List Heard} {part later : Data}
    (hws : ws.Listens b) (h : Utters system b f hs c) (hf : f.bytes = part ++ later)
    (hlater : later ≠ []) :
    ∃ t, wire system ws part = .wait t ∧ t.callbackQueue = ws.callbackQueue ∧
      t.writeQueue = ws.writeQueue := by
  have hwhole : wire system ws (part ++ later) = .take (ws.heard hs c) f.bytes.length := by
    rw [← hf, wire_of_connected hws.connected (WebSocket.two_le_length_bytes f)]
    exact WebSocket.frameReading_of_utters hws h
  have hshort : part.length < f.bytes.length := by
    rw [hf, List.length_append]
    have := List.length_pos_iff.mpr hlater
    omega
  obtain ⟨t, ht⟩ := (wire_lawful system).wait_of_part hwhole hshort
  refine ⟨t, ht, ?_⟩
  by_cases hlen : part.length < 2
  · simp only [wire, hws.connected, hlen, if_true] at ht
    obtain rfl := Reading.wait.inj ht
    exact ⟨rfl, rfl⟩
  · rw [wire_of_connected hws.connected (by omega)] at ht
    obtain ⟨rfl, -⟩ := WebSocket.frameReading_eq_wait ht
    exact ⟨rfl, rfl⟩

/-- Whole frames, and then a part of the next: that much has been heard. -/
theorem pump_of_split {b e : Speech} {gs later : List Frame} {ks : List Heard} {part : Data}
    (hws : ws.Listens b) (hready : ws.readyToWrite = true) (hfirst : Speaks system b gs ks e)
    (hnext : ∀ f ∈ later.head?, ∃ hs c, Utters system e f hs c)
    (hpart : part = [] ∨ ∃ f fs missing, later = f :: fs ∧ f.bytes = part ++ missing ∧
      missing ≠ []) :
    (∀ f ∈ later.head?, part.length < f.bytes.length) ∧
      ∃ t, (wire system).pump ws (gs.flatMap Frame.bytes ++ part) = .waiting t part ∧
        t.callbackQueue = ws.callbackQueue ++ told ks ∧
        t.writeQueue = ws.writeQueue ++ owed ks := by
  have hlistens := hws.heard ks e
  obtain ⟨hcalls, hwrites⟩ := WebSocket.queues_foldl_hear hready ks
  have hpump : (wire system).pump ws (gs.flatMap Frame.bytes ++ part) =
      (wire system).pump (ws.heard ks e) part := WebSocket.pump_of_speaks hws hfirst part
  rcases hpart with rfl | ⟨f, fs, missing, rfl, hf, hmissing⟩
  · refine ⟨fun f _ => ?_, ws.heard ks e, hpump.trans (WebSocket.pump_nil _), hcalls, hwrites⟩
    have := WebSocket.two_le_length_bytes f
    rw [List.length_nil]
    omega
  · obtain ⟨hs, c, hutters⟩ := hnext f rfl
    obtain ⟨t, hwait, htcalls, htwrites⟩ := wire_part hlistens hutters hf hmissing
    refine ⟨fun g hg => ?_, t, hpump.trans (Reader.pump_of_wait hwait), htcalls.trans hcalls,
      htwrites.trans hwrites⟩
    obtain rfl : f = g := by simpa using hg
    rw [hf, List.length_append]
    have := List.length_pos_iff.mpr hmissing
    omega

/-- At any time exactly those frames have been heard that are there to their last byte. -/
theorem pump_of_part {b c : Speech} {fs : List Frame} {hs : List Heard} {xs rest : Data}
    (hws : ws.Listens b) (hready : ws.readyToWrite = true) (hspeaks : Speaks system b fs hs c)
    (hbytes : xs ++ rest = fs.flatMap Frame.bytes) :
    ∃ gs later ks js part e t, fs = gs ++ later ∧ hs = ks ++ js ∧ Speaks system b gs ks e ∧
      Speaks system e later js c ∧ xs = gs.flatMap Frame.bytes ++ part ∧
      (∀ f ∈ later.head?, part.length < f.bytes.length) ∧
      (wire system).pump ws xs = .waiting t part ∧
      t.callbackQueue = ws.callbackQueue ++ told ks ∧ t.writeQueue = ws.writeQueue ++ owed ks := by
  obtain ⟨gs, later, part, rfl, rfl, hpart⟩ := Reader.exists_split hbytes
  obtain ⟨ks, js, e, rfl, hfirst, hafter⟩ := hspeaks.split
  have hnext : ∀ f ∈ later.head?, ∃ hs c, Utters system e f hs c := by
    intro f hf
    cases hafter with
    | nil => exact absurd hf (by simp)
    | cons head _ =>
      obtain rfl := Option.some.inj hf
      exact ⟨_, _, head⟩
  obtain ⟨hshort, t, hpump, hcalls, hwrites⟩ := pump_of_split hws hready hfirst hnext hpart
  exact ⟨gs, later, ks, js, part, e, t, rfl, rfl, hfirst, hafter, rfl, hshort, hpump, hcalls,
    hwrites⟩

/-! ## 5. Messages in parts -/

/-- The frames that go on with a message. -/
def continued : List Data → List Frame
  | [] => []
  | [sent] => [serverFrame true false .continueFrame sent]
  | sent :: parts => serverFrame false false .continueFrame sent :: continued parts

/-- A message in as many frames as parts, of which the first says whether it is compressed. -/
def fragmented (hasRSV1 : Bool) (code : OpCode) : List Data → List Frame
  | [] => []
  | [sent] => [serverFrame true hasRSV1 code sent]
  | sent :: parts => serverFrame false hasRSV1 code sent :: continued parts

/-- What parts that go on with a message come to. -/
inductive GoesOn (system : System) : CompressionState → List Data → Data → CompressionState → Prop
  | last {s t : CompressionState} {sent data : Data}
      (carries : Carries system s true false .continueFrame sent data t) :
      GoesOn system s [sent] data t
  | more {s t u : CompressionState} {sent data rest : Data} {parts : List Data}
      (carries : Carries system s false false .continueFrame sent data t)
      (tail : GoesOn system t parts rest u) : GoesOn system s (sent :: parts) (data ++ rest) u

/-- What all parts of a message come to. -/
inductive Comes (system : System) (hasRSV1 : Bool) (code : OpCode) :
    CompressionState → List Data → Data → CompressionState → Prop
  | whole {s t : CompressionState} {sent data : Data}
      (carries : Carries system s true hasRSV1 code sent data t) :
      Comes system hasRSV1 code s [sent] data t
  | parts {s t u : CompressionState} {sent data rest : Data} {parts : List Data}
      (carries : Carries system s false hasRSV1 code sent data t)
      (tail : GoesOn system t parts rest u) :
      Comes system hasRSV1 code s (sent :: parts) (data ++ rest) u

theorem speaks_continued {b : Begun} {s t : CompressionState} {parts : List Data} {data : Data}
    {call : Callback} (h : GoesOn system s parts data t)
    (tell : tells b.code (b.data ++ data) = some call) :
    Speaks system ⟨some b, s⟩ (continued parts) [.told call] ⟨none, t⟩ := by
  induction h generalizing b with
  | last carries => exact .cons (.last carries tell) (.nil _)
  | @more s t u sent data rest parts carries tail ih =>
    have htail : Speaks system ⟨some ⟨b.code, b.frameCount + 1, b.data ++ data⟩, t⟩
        (continued parts) [.told call] ⟨none, u⟩ := ih (by simpa using tell)
    cases tail with
    | last _ => exact .cons (.more carries) htail
    | more _ _ => exact .cons (.more carries) htail

/-- A message may be cut anywhere. -/
theorem speaks_fragmented {hasRSV1 : Bool} {code : OpCode} {s t : CompressionState}
    {parts : List Data} {data : Data} {call : Callback}
    (h : Comes system hasRSV1 code s parts data t) (tell : tells code data = some call) :
    Speaks system ⟨none, s⟩ (fragmented hasRSV1 code parts) [.told call] ⟨none, t⟩ := by
  cases h with
  | whole carries => exact .cons (.whole carries tell) (.nil _)
  | parts carries tail =>
    have htail := speaks_continued (b := ⟨code, 1, _⟩) tail tell
    cases tail with
    | last _ => exact .cons (.first carries (WebSocket.tells_kind tell)) htail
    | more _ _ => exact .cons (.first carries (WebSocket.tells_kind tell)) htail

/-- A frame without the mark, where none was agreed on or it does not go on with a message. -/
theorem carries_plain {s : CompressionState} {isFin : Bool} {code : OpCode} {sent : Data}
    (size : sent.length < 2 ^ 64)
    (hplain : s.messageNeedsDecompression = false ∨
      s.supportsCompression = true ∧ code ≠ .continueFrame) :
    Carries system s isFin false code sent sent { s with messageNeedsDecompression := false } := by
  have hnote : s.note (serverHeader isFin false code sent) =
      { s with messageNeedsDecompression := false } := by
    unfold CompressionState.note
    split
    · rfl
    · rename_i hnot
      rcases hplain with hplain | ⟨hsupports, hcode⟩
      · rw [← hplain]
      · exact absurd (by simp [serverHeader, hsupports, hcode]) hnot
  refine ⟨size, fun h => absurd h (by simp), ?_⟩
  rw [hnote]
  rfl

/-- What goes on without compression is taken as it comes. -/
theorem goesOn_plain {s : CompressionState} (hplain : s.messageNeedsDecompression = false)
    {parts : List Data} (hparts : parts ≠ []) (size : ∀ part ∈ parts, part.length < 2 ^ 64) :
    GoesOn system s parts parts.flatten s := by
  have hsame : { s with messageNeedsDecompression := false } = s := by rw [← hplain]
  induction parts with
  | nil => exact absurd rfl hparts
  | cons part parts ih =>
    have hcarries : ∀ isFin, Carries system s isFin false .continueFrame part part s := by
      intro isFin
      have h := @carries_plain system s isFin .continueFrame part (size part (by simp))
        (.inl hplain)
      rwa [hsame] at h
    by_cases hlast : parts = []
    · subst hlast
      simpa using GoesOn.last (hcarries true)
    · exact .more (hcarries false) (ih hlast fun part hpart => size part (by simp [hpart]))

namespace WebSocket

/-- A text that is no UTF-8 is not told: its bytes stay on the stack, and the connection is to be
closed for them. -/
theorem pump_of_garbled {b : Begun} {s t : CompressionState} {parts : List Data} {data : Data}
    (hws : ws.Listens ⟨some b, s⟩) (h : GoesOn system s parts data t)
    (garbled : b.code = .textFrame ∧ utf8String (b.data ++ data) = none) :
    (wire system).pump ws ((continued parts).flatMap Frame.bytes) =
      .waiting { ws with
        readStack := [⟨true, b.code, 0, b.frameCount + parts.length, b.data ++ data⟩]
        compressionState := t
        writeQueue := ws.writeQueue ++
          [.frame (writeUint16 CloseCode.encoding) .connectionClose] } [] := by
  induction h generalizing b ws with
  | @last s t sent data carries =>
    have hstack : ({ ws with compressionState := t } : WebSocket).readStack = stackOf (some b) :=
      hws.readStack
    have hresponse : ∀ u : WebSocket, u.processResponse
        ⟨true, b.code, 0, b.frameCount + 1, b.data ++ data⟩ = u.writeError CloseCode.encoding := by
      intro u
      simp [processResponse, garbled]
    have htake : wire system ws (serverFrame true false .continueFrame sent).bytes = .take
        (writeError { ws with
          readStack := [⟨true, b.code, 0, b.frameCount + 1, b.data ++ data⟩]
          compressionState := t } CloseCode.encoding)
        (serverFrame true false .continueFrame sent).bytes.length := by
      rw [wire_of_connected hws.connected (two_le_length_bytes _),
        frameReading_serverFrame hws.state carries (by decide) (fun h => absurd h (by decide)),
        if_neg (by decide), receiveMessage_continue hstack, hresponse]
    simp only [continued, List.flatMap_cons, List.flatMap_nil, List.append_nil,
      Reader.pump_of_take (wire_lawful system) htake, List.drop_length, pump_nil]
    rfl
  | @more s t u sent data rest parts carries tail ih =>
    have hframe := frameReading_of_utters hws (.more carries)
    have hnext := hws.heard [] ⟨some ⟨b.code, b.frameCount + 1, b.data ++ data⟩, t⟩
    have htail := ih hnext ⟨garbled.1, by simpa using garbled.2⟩
    have hparts : parts ≠ [] := by cases tail <;> simp
    have hcontinued : continued (sent :: parts) =
        serverFrame false false .continueFrame sent :: continued parts := by
      cases parts with
      | nil => exact absurd rfl hparts
      | cons _ _ => rfl
    rw [hcontinued, List.flatMap_cons,
      Reader.pump_of_take (wire_lawful system) ((wire_lawful system).take_append _
        ((wire_of_connected hws.connected (two_le_length_bytes _)).trans hframe)),
      List.drop_left, htail]
    simp [heard, upTo, Nat.add_assoc, Nat.add_comm 1]

end WebSocket

/-- **A ping within a compressed message ends the inflating of it**: of the frames after it the
message gets what they are on the wire.  If that is no UTF-8 the message is not told. -/
theorem ping_ends_inflating {b : Begun} {s : CompressionState} (hws : ws.Listens ⟨some b, s⟩)
    (hready : ws.readyToWrite = true) (hsupports : s.supportsCompression = true) {data : Data}
    (hsize : data.length ≤ 125) {parts : List Data} (hparts : parts ≠ [])
    (size : ∀ part ∈ parts, part.length < 2 ^ 64)
    (hkind : b.code = .textFrame ∨ b.code = .binaryFrame) :
    ∃ t, (wire system).pump ws
        ((serverFrame true false .ping data :: continued parts).flatMap Frame.bytes) =
          .waiting t [] ∧
      t.compressionState = { s with messageNeedsDecompression := false } ∧
      (∀ call, tells b.code (b.data ++ parts.flatten) = some call →
        t.callbackQueue = ws.callbackQueue ++ [call] ∧ t.readStack = [] ∧
          t.writeQueue = ws.writeQueue ++ [.frame data .pong]) ∧
      (b.code = .textFrame ∧ utf8String (b.data ++ parts.flatten) = none →
        t.callbackQueue = ws.callbackQueue ∧
          t.readStack = [⟨true, b.code, 0, b.frameCount + parts.length,
            b.data ++ parts.flatten⟩] ∧
          t.writeQueue = ws.writeQueue ++ [.frame data .pong,
            .frame (writeUint16 CloseCode.encoding) .connectionClose]) := by
  have hping : Carries system s true false .ping data data
      { s with messageNeedsDecompression := false } :=
    carries_plain (by omega) (.inr ⟨hsupports, by decide⟩)
  have hrest := @goesOn_plain system { s with messageNeedsDecompression := false } rfl parts hparts
    size
  have hfirst : Speaks system ⟨some b, s⟩ [serverFrame true false .ping data] [.pinged data]
      ⟨some b, { s with messageNeedsDecompression := false }⟩ := .cons (.ping hping hsize) (.nil _)
  cases htells : tells b.code (b.data ++ parts.flatten) with
  | some call =>
    have hpump := WebSocket.pump_of_speaks hws (hfirst.append (speaks_continued hrest htells)) []
    rw [List.append_nil, WebSocket.pump_nil] at hpump
    obtain ⟨hcalls, hwrites⟩ := WebSocket.queues_foldl_hear hready [.pinged data, .told call]
    refine ⟨_, hpump, rfl, fun other hother => ?_, fun ⟨htext, hnone⟩ => ?_⟩
    · obtain rfl := Option.some.inj hother
      exact ⟨hcalls, rfl, hwrites⟩
    · rw [htext, tells, hnone] at htells
      exact absurd htells (by simp)
  | none =>
    have hgarbled : b.code = .textFrame ∧ utf8String (b.data ++ parts.flatten) = none := by
      rcases hkind with hcode | hcode
      · rw [hcode, tells, Option.map_eq_none_iff] at htells
        exact ⟨hcode, htells⟩
      · rw [hcode, tells] at htells
        exact absurd htells (by simp)
    have hpump := WebSocket.pump_of_speaks hws hfirst ((continued parts).flatMap Frame.bytes)
    rw [WebSocket.pump_of_garbled (hws.heard _ _) hrest hgarbled, ← List.flatMap_append] at hpump
    refine ⟨_, hpump, rfl, fun other hother => absurd hother (by simp), fun _ => ⟨rfl, rfl, ?_⟩⟩
    simp [WebSocket.heard, WebSocket.upTo, WebSocket.hear, WebSocket.dequeueWrite]

/-- What zlib makes of `Hello`. -/
def zipped : Data := [0xF2, 0x48, 0xCD, 0xC9, 0xC9, 0x07, 0x00, 0x00, 0x00, 0xFF, 0xFF]

/-- A system on which that text can be compressed. -/
def System.hello : System where
  sha1Base64 := System.withoutZlib.sha1Base64
  initInflate := fun windowBits => decide (8 ≤ windowBits) && decide (windowBits ≤ 15)
  initDeflate := fun windowBits => decide (9 ≤ windowBits) && decide (windowBits ≤ 15)
  inflate := fun codec bytes =>
    if (codec.done ++ bytes).isPrefixOf zipped then
      -- from the second byte on each brings one of the text
      some (((utf8Data "Hello").take (codec.done.length + bytes.length - 1)).drop
        (codec.done.length - 1))
    else none
  deflate := fun codec data =>
    if codec.done = [] ∧ data = utf8Data "Hello" then some zipped else none

/-- Compression is agreed on. -/
def zipping : CompressionState where
  supportsCompression := true
  decompressor := some { windowBits := 15 }
  compressor := some { windowBits := 15 }

/-- The first half of a text has been inflated, and the second is not: `lo` is not told. -/
theorem ping_after_half : ∃ t, (wire .hello).pump { WebSocket.online with
        readStack := [⟨false, .textFrame, 0, 1, [0x48, 0x65]⟩]
        compressionState := { zipping with
          messageNeedsDecompression := true
          decompressor := some { windowBits := 15, done := [0xF2, 0x48, 0xCD] } } }
      [0x89, 0, 0x80, 4, 0xC9, 0xC9, 0x07, 0x00] = .waiting t [] ∧
    t.callbackQueue = [] ∧ t.writeQueue =
      [.frame [] .pong, .frame (writeUint16 CloseCode.encoding) .connectionClose] := by
  have hbytes : ((serverFrame true false .ping [] :: continued [[0xC9, 0xC9, 0x07, 0x00]]).flatMap
      Frame.bytes : Data) = [0x89, 0, 0x80, 4, 0xC9, 0xC9, 0x07, 0x00] := by decide
  obtain ⟨t, hpump, -, -, hgarbled⟩ := @ping_ends_inflating .hello
    { WebSocket.online with
      readStack := [⟨false, .textFrame, 0, 1, [0x48, 0x65]⟩]
      compressionState := { zipping with
        messageNeedsDecompression := true
        decompressor := some { windowBits := 15, done := [0xF2, 0x48, 0xCD] } } }
    ⟨.textFrame, 1, [0x48, 0x65]⟩ _ ⟨rfl, rfl, rfl⟩ rfl rfl [] (by decide)
    [[0xC9, 0xC9, 0x07, 0x00]] (by simp) (by simp) (.inl rfl)
  rw [hbytes] at hpump
  obtain ⟨hcalls, -, hwrites⟩ := hgarbled ⟨rfl, by decide +kernel⟩
  exact ⟨t, hpump, hcalls, hwrites⟩

/-! ## 6. Texts -/

@[simp] theorem utf8String_utf8Data (str : String) : utf8String (utf8Data str) = some str := by
  have hbytes : (⟨str.toUTF8.data.toList.toArray⟩ : ByteArray) = str.toUTF8 := by simp
  unfold utf8String utf8Data String.fromUTF8?
  rw [hbytes, dif_pos (by simpa using str.isValidUTF8)]
  rfl

/-- A text, and the parts it is sent in. -/
structure SentText where
  text : String
  hasRSV1 : Bool
  parts : List Data

namespace SentText

def frames (sent : SentText) : List Frame := fragmented sent.hasRSV1 .textFrame sent.parts

def bytes (sent : SentText) : Data := sent.frames.flatMap Frame.bytes

end SentText

/-- The parts of each text come to its bytes. -/
inductive Texts (system : System) : CompressionState → List SentText → CompressionState → Prop
  | nil (s : CompressionState) : Texts system s [] s
  | cons {s t u : CompressionState} {sent : SentText} {sents : List SentText}
      (head : Comes system sent.hasRSV1 .textFrame s sent.parts (utf8Data sent.text) t)
      (tail : Texts system t sents u) : Texts system s (sent :: sents) u

theorem speaks_text {s t : CompressionState} {sent : SentText}
    (h : Comes system sent.hasRSV1 .textFrame s sent.parts (utf8Data sent.text) t) :
    Speaks system ⟨none, s⟩ sent.frames [.told (.didReceiveMessage sent.text)] ⟨none, t⟩ :=
  speaks_fragmented h (by simp [tells])

theorem Texts.speaks {s t : CompressionState} {sents : List SentText} (h : Texts system s sents t) :
    Speaks system ⟨none, s⟩ (sents.flatMap SentText.frames)
      (sents.map fun sent => .told (.didReceiveMessage sent.text)) ⟨none, t⟩ := by
  induction h with
  | nil s => exact .nil _
  | cons head _ ih => exact (speaks_text head).append ih

theorem Texts.split {s u : CompressionState} {before after : List SentText}
    (h : Texts system s (before ++ after) u) :
    ∃ t, Texts system s before t ∧ Texts system t after u := by
  induction before generalizing s with
  | nil => exact ⟨s, .nil s, h⟩
  | cons sent before ih =>
    cases h with
    | cons head tail =>
      obtain ⟨t, hfirst, hrest⟩ := ih tail
      exact ⟨t, .cons head hfirst, hrest⟩

/-- Texts that are not compressed, in whatever parts. -/
theorem texts_plain {s : CompressionState}
    (hplain : s.messageNeedsDecompression = false ∨ s.supportsCompression = true)
    {sents : List SentText} (hsents : ∀ sent ∈ sents, sent.hasRSV1 = false ∧ sent.parts ≠ [] ∧
      sent.parts.flatten = utf8Data sent.text ∧ ∀ part ∈ sent.parts, part.length < 2 ^ 64) :
    ∃ t, Texts system s sents t := by
  induction sents generalizing s with
  | nil => exact ⟨s, .nil s⟩
  | cons sent sents ih =>
    obtain ⟨hmark, hparts, hflatten, size⟩ := hsents sent (by simp)
    obtain ⟨t, htail⟩ := ih (s := { s with messageNeedsDecompression := false }) (.inl rfl)
      fun other hother => hsents other (by simp [hother])
    refine ⟨t, .cons (t := { s with messageNeedsDecompression := false }) ?_ htail⟩
    rw [hmark, ← hflatten]
    generalize sent.parts = parts at hparts size
    cases parts with
    | nil => exact absurd rfl hparts
    | cons part parts =>
      have hcarries : ∀ isFin, Carries system s isFin false .textFrame part part
          { s with messageNeedsDecompression := false } := fun isFin =>
        carries_plain (size part (by simp)) (hplain.imp id fun h => ⟨h, by decide⟩)
      by_cases hlast : parts = []
      · subst hlast
        simpa using Comes.whole (hcarries true)
      · exact .parts (hcarries false)
          (goesOn_plain rfl hlast fun part hpart => size part (by simp [hpart]))

/-- Nothing is heard only while a message goes on. -/
theorem Speaks.eq_nil {b c : Speech} {fs : List Frame} {hs : List Heard}
    (h : Speaks system b fs hs c) (hsilent : hs = []) (hover : c.begun = none) :
    fs = [] ∧ b.begun = none := by
  induction h with
  | nil b => exact ⟨rfl, hover⟩
  | cons head tail ih =>
    obtain ⟨rfl, rfl⟩ := List.append_eq_nil_iff.mp hsilent
    obtain ⟨-, hnone⟩ := ih rfl hover
    cases head with
    | first carries kind => exact absurd hnone (by simp)
    | more carries => exact absurd hnone (by simp)

theorem SentText.bytes_pos {s t : CompressionState} {sent : SentText}
    (h : Comes system sent.hasRSV1 .textFrame s sent.parts (utf8Data sent.text) t) :
    0 < sent.bytes.length := by
  have hspeaks := speaks_text h
  unfold bytes
  cases hframes : sent.frames with
  | nil =>
    rw [hframes] at hspeaks
    cases hspeaks
  | cons f fs =>
    rw [List.flatMap_cons, List.length_append]
    have := WebSocket.two_le_length_bytes f
    omega

/-- All of it is told, and nothing is owed. -/
theorem told_texts (sents : List SentText) :
    told (sents.map fun sent => .told (.didReceiveMessage sent.text)) =
        sents.map (fun sent => .didReceiveMessage sent.text) ∧
      owed (sents.map fun sent => .told (.didReceiveMessage sent.text)) = [] := by
  induction sents with
  | nil => exact ⟨rfl, rfl⟩
  | cons sent sents ih =>
    obtain ⟨htold, howed⟩ := ih
    exact ⟨congrArg (List.cons (Callback.didReceiveMessage sent.text)) htold, howed⟩

/-- Within the frames of a text nothing has been heard of it. -/
theorem pump_of_text_part {s t : CompressionState} {xs rest : Data} (hws : ws.Listens ⟨none, s⟩)
    (hready : ws.readyToWrite = true) {sent : SentText}
    (h : Comes system sent.hasRSV1 .textFrame s sent.parts (utf8Data sent.text) t)
    (hbytes : xs ++ rest = sent.frames.flatMap Frame.bytes) (hrest : rest ≠ []) :
    ∃ u kept, (wire system).pump ws xs = .waiting u kept ∧ u.callbackQueue = ws.callbackQueue ∧
      u.writeQueue = ws.writeQueue := by
  obtain ⟨gs, later, ks, js, part, e, u, hframes, hheard, -, hafter, rfl, -, hpump, hcalls,
    hwrites⟩ := pump_of_part hws hready (speaks_text h) hbytes
  have hlater : later ≠ [] := by
    rintro rfl
    rw [hframes, List.append_nil, List.append_assoc] at hbytes
    have hnone : part ++ rest = [] := List.append_right_eq_self.mp hbytes
    exact hrest (List.append_eq_nil_iff.mp hnone).2
  have hks : ks = [] := by
    rcases List.append_eq_singleton_iff.mp hheard.symm with ⟨hks, -⟩ | ⟨-, hjs⟩
    · exact hks
    · exact absurd (hafter.eq_nil hjs rfl).1 hlater
  subst hks
  exact ⟨u, part, hpump, by simpa [told] using hcalls, by simpa [owed] using hwrites⟩

/-- Of texts those have been heard that are there to their last byte. -/
theorem pump_of_texts {s v : CompressionState} {xs rest : Data} (hws : ws.Listens ⟨none, s⟩)
    (hready : ws.readyToWrite = true) {sents : List SentText} (htexts : Texts system s sents v)
    (hbytes : xs ++ rest = sents.flatMap SentText.bytes) :
    ∃ before after part t kept, sents = before ++ after ∧
      xs = before.flatMap SentText.bytes ++ part ∧
      (∀ sent ∈ after.head?, part.length < sent.bytes.length) ∧
      (wire system).pump ws xs = .waiting t kept ∧
      t.callbackQueue = ws.callbackQueue ++
        before.map (fun sent => .didReceiveMessage sent.text) ∧ t.writeQueue = ws.writeQueue := by
  obtain ⟨before, after, part, rfl, rfl, hpart⟩ := Reader.exists_split hbytes
  obtain ⟨s, hbefore, hafter⟩ := htexts.split
  have hlistens := hws.heard (before.map fun sent => .told (.didReceiveMessage sent.text)) ⟨none, s⟩
  have hpump :
      (wire system).pump ws ((before.flatMap SentText.frames).flatMap Frame.bytes ++ part) =
        (wire system).pump (ws.heard (before.map fun sent => .told (.didReceiveMessage sent.text))
          ⟨none, s⟩) part := WebSocket.pump_of_speaks hws hbefore.speaks part
  obtain ⟨hcalls, hwrites⟩ := WebSocket.queues_foldl_hear hready
    (before.map fun sent => Heard.told (.didReceiveMessage sent.text))
  rw [List.flatMap_assoc] at hpump
  obtain ⟨htold, howed⟩ := told_texts before
  rw [htold] at hcalls
  rw [howed, List.append_nil] at hwrites
  rcases hpart with rfl | ⟨sent, more, missing, rfl, hsent, hmissing⟩
  · refine ⟨before, after, [], _, [], rfl, rfl, fun sent hsent => ?_,
      hpump.trans (WebSocket.pump_nil _), hcalls, hwrites⟩
    cases hafter with
    | nil => exact absurd hsent (by simp)
    | cons head tail =>
      obtain rfl := Option.some.inj hsent
      exact SentText.bytes_pos head
  · cases hafter with
    | cons head tail =>
      have hstill := (WebSocket.reads_foldl_hear ws (before.map fun sent =>
        Heard.told (.didReceiveMessage sent.text))).readyToWrite.trans hready
      obtain ⟨t, kept, hwaits, htcalls, htwrites⟩ :=
        pump_of_text_part hlistens hstill head hsent.symm hmissing
      refine ⟨before, sent :: more, part, t, kept, rfl, rfl, fun other hother => ?_,
        hpump.trans hwaits, htcalls.trans hcalls, htwrites.trans hwrites⟩
      obtain rfl : sent = other := by simpa using hother
      rw [hsent, List.length_append]
      have := List.length_pos_iff.mpr hmissing
      omega

end Starscream
