/-
# The pieces of the input do not matter

What a socket reads comes in pieces of up to 4096 bytes, cut wherever the network has cut them.  The
pieces make no difference, whatever is in memory behind each of them, except where one is a single
byte and neither part of a frame nor of a message (`isLone`): then the second byte of the frame is
read from behind the buffer.

* `dequeueInput_eq`, `inputs_eq_pump`: what comes of one piece, and of all of them;
* `pieces_do_not_matter`: so the same comes of the same input, however it is cut;
* `lone_byte`: what a piece of a single byte can come to;
* `dequeueInput_eq_error_iff`: the input that stops the app (`Stopper`).  Of a server that sends no
  4 GiB at once that is a close frame with a length of 1 that is not in the second byte, or an
  answer with window bits that are no `CInt`.
-/
import WeatherAccommodation.Starscream.Wire

namespace Starscream

open Reactive Streaming WireFormat

variable {system : System} {beyond : Nat → UInt8} {xs ys : Data} {ws t : WebSocket}

/-! ## 1. One piece -/

/-- What is kept goes to `fragBuffer`. -/
def WebSocket.keep (ws : WebSocket) (kept : Data) : WebSocket :=
  { ws with fragBuffer := if kept = [] then none else some kept }

/-- What the methods leave behind. -/
def outcome : Pumped WebSocket UInt8 Trap → Except Trap WebSocket
  | .waiting ws kept => .ok (ws.keep kept)
  | .stopped ws => .ok ws
  | .failed trap => .error trap

/-- The second byte of the header is not there, and is read all the same. -/
def isLone (system : System) (ws : WebSocket) (work : Data) : Bool :=
  ws.readStack.isEmpty &&
    if ws.connected then work.length == 1
    else
      match ws.handshakeReading system work with
      | .take _ n => work.length == n + 1
      | _ => false

namespace WebSocket

/-- Nothing is missing of the last response, so what comes is a frame. -/
theorem processOneRawMessage_eq (hsettled : ws.Settled) (h : 2 ≤ xs.length) :
    ws.processOneRawMessage system beyond xs = ws.frameReading system xs := by
  unfold processOneRawMessage
  split
  · rename_i response rest hstack
    have hleft : response.bytesLeft ≤ 0 := hsettled response (by simp [hstack])
    rw [if_neg (by omega), if_neg (by omega), processFrame_eq h]
  · exact processFrame_eq h

theorem pump_nil (ws : WebSocket) : (wire system).pump ws [] = .waiting ws [] := by
  refine Reader.pump_of_wait ?_
  cases hconnected : ws.connected with
  | false => simp [wire, hconnected, handshakeReading, headerEnd]
  | true => simp [wire, hconnected]

theorem outcome_nil (h : ws.fragBuffer = none) : outcome ((wire system).pump ws []) = .ok ws := by
  rw [pump_nil]
  simp [outcome, keep, ← h]

/-- The loop does what the reader does, from two bytes on, or within a message. -/
theorem processRawMessagesFor_eq {fuel : Nat} (hfuel : xs.length < fuel)
    (hconnected : ws.connected = true) (hsettled : ws.Settled) (hfrag : ws.fragBuffer = none)
    (hxs : xs ≠ []) (hlone : ws.readStack = [] → xs.length ≠ 1) :
    processRawMessagesFor system beyond fuel ws xs = outcome ((wire system).pump ws xs) := by
  induction fuel generalizing ws xs with
  | zero => omega
  | succ fuel ih =>
    have hpos : 0 < xs.length := List.length_pos_iff.mpr hxs
    by_cases hone : xs.length < 2
    · obtain ⟨response, rest, hstack⟩ : ∃ response rest, ws.readStack = response :: rest :=
        List.exists_cons_of_ne_nil fun hempty => hlone hempty (by omega)
      have hwait : wire system ws xs = .wait ws := by simp [wire, hconnected, hone]
      rw [Reader.pump_of_wait hwait]
      simp [processRawMessagesFor, processOneRawMessage, hstack, hone, outcome, keep, hxs]
    · have htwo : 2 ≤ xs.length := by omega
      have hwire : wire system ws xs = ws.frameReading system xs :=
        wire_of_connected hconnected htwo
      simp only [processRawMessagesFor, processOneRawMessage_eq hsettled htwo]
      cases hreading : ws.frameReading system xs with
      | wait t =>
        rw [Reader.pump_of_wait (hwire.trans hreading)]
        simp [outcome, keep, hxs]
      | stop t =>
        rw [Reader.pump_of_stop (hwire.trans hreading)]
        rfl
      | fail trap =>
        rw [Reader.pump_of_fail (hwire.trans hreading)]
        rfl
      | take t n =>
        have htake := hwire.trans hreading
        obtain ⟨hreads, hkept⟩ := reads_frameReading hreading
        obtain ⟨hn, hle⟩ := wire_take_pos htake
        have hlen : (xs.drop n).length = xs.length - n := List.length_drop
        have ht : t.connected = true := hreads.connected.trans hconnected
        have htfrag : t.fragBuffer = none := hreads.fragBuffer.trans hfrag
        rw [Reader.pump_of_take (wire_lawful system) htake]
        dsimp only
        split
        · rename_i hrest
          refine ih (by omega) ht (hkept hsettled) htfrag ?_ fun _ => by omega
          exact List.ne_nil_of_length_pos (by omega)
        · split
          · rename_i hrest hmore
            have hwait : wire system t (xs.drop n) = .wait t := by
              rw [wire, if_pos ht, if_pos (by omega)]
            rw [Reader.pump_of_wait hwait]
            simp [outcome, keep, List.ne_nil_of_length_pos hmore]
          · rename_i hrest hnone
            rw [List.eq_nil_of_length_eq_zero (by omega : (xs.drop n).length = 0),
              outcome_nil htfrag]

/-- What a response that is accepted leaves alone. -/
theorem reads_handshakeReading {n : Nat} (h : ws.handshakeReading system xs = .take t n) :
    t.connected = true ∧ t.readStack = ws.readStack ∧ t.fragBuffer = ws.fragBuffer := by
  have hview := ws.handshakeReading_view system xs
  rw [h] at hview
  cases hview with
  | @accepted u _ answer =>
    obtain ⟨hanswer, hstack, -⟩ := reads_validateResponse answer
    have hreads := reads_callback
      { u with isConnecting := false, connected := true, didDisconnect := false } .didConnect
    refine ⟨hreads.connected, ?_, hreads.fragBuffer.trans hanswer.fragBuffer⟩
    rw [connect101, readStack_callback]
    exact hstack

/-- The two methods do what the reader does. -/
theorem process_eq (ws : WebSocket) (hsettled : ws.Settled) (hfrag : ws.fragBuffer = none)
    (hxs : xs ≠ []) (hlone : isLone system ws xs = false) :
    (if !ws.connected then ws.processTCPHandshake system beyond xs
      else ws.processRawMessagesInBuffer system beyond xs) =
      outcome ((wire system).pump ws xs) := by
  cases hconnected : ws.connected with
  | true =>
    rw [if_neg (by simp)]
    refine processRawMessagesFor_eq (by omega) hconnected hsettled hfrag hxs fun hempty hone => ?_
    simp [isLone, hempty, hconnected, hone] at hlone
  | false =>
    rw [if_pos (by simp), processTCPHandshake_eq]
    have hwire : wire system ws xs = ws.handshakeReading system xs :=
      wire_of_not_connected hconnected
    cases hreading : ws.handshakeReading system xs with
    | wait t =>
      rw [Reader.pump_of_wait (hwire.trans hreading)]
      simp [outcome, keep, hxs]
    | stop t =>
      rw [Reader.pump_of_stop (hwire.trans hreading)]
      rfl
    | fail trap =>
      rw [Reader.pump_of_fail (hwire.trans hreading)]
      rfl
    | take t n =>
      have htake := hwire.trans hreading
      obtain ⟨hn, hle⟩ := wire_take_pos htake
      obtain ⟨ht, hstack, htfrag⟩ := reads_handshakeReading hreading
      have htsettled : t.Settled := by
        intro r hr
        exact hsettled r (hstack ▸ hr)
      have hlen : (xs.drop n).length = xs.length - n := List.length_drop
      rw [Reader.pump_of_take (wire_lawful system) htake]
      dsimp only
      split
      · rename_i hrest
        refine processRawMessagesFor_eq (by omega) ht htsettled (htfrag.trans hfrag)
          (List.ne_nil_of_length_pos (by omega)) fun hempty hone => ?_
        rw [hstack] at hempty
        simp [isLone, hempty, hconnected, hreading] at hlone
        omega
      · rename_i hrest
        rw [List.eq_nil_of_length_eq_zero (by omega : (xs.drop n).length = 0),
          outcome_nil (htfrag.trans hfrag)]

/-- **One piece**, behind what was kept. -/
theorem dequeueInput_eq {data : Data} (hsettled : ws.Settled) (hdata : data ≠ [])
    (hlone : isLone system { ws with fragBuffer := none } (ws.fragBuffer.getD [] ++ data) = false) :
    ws.dequeueInput system beyond data = outcome ((wire system).pump { ws with fragBuffer := none }
      (ws.fragBuffer.getD [] ++ data)) :=
  process_eq { ws with fragBuffer := none } hsettled rfl (by simp [hdata]) hlone

end WebSocket

/-! ## 2. All of them -/

/-- How a socket is between two pieces: nothing is missing of a frame it has begun with. -/
def Between (ws : WebSocket) : Prop := ws.Settled ∧ ws.fragBuffer = none

theorem Between.wire_take {n : Nat} (hws : Between ws) (h : wire system ws xs = .take t n) :
    Between t := by
  cases hconnected : ws.connected with
  | false =>
    rw [wire_of_not_connected hconnected] at h
    obtain ⟨-, hstack, hfrag⟩ := WebSocket.reads_handshakeReading h
    exact ⟨fun r hr => hws.1 r (hstack ▸ hr), hfrag.trans hws.2⟩
  | true =>
    by_cases hlen : xs.length < 2
    · exact absurd h (by simp [wire, hconnected, hlen])
    · rw [wire_of_connected hconnected (by omega)] at h
      obtain ⟨hreads, hkept⟩ := WebSocket.reads_frameReading h
      exact ⟨hkept hws.1, hreads.fragBuffer.trans hws.2⟩

theorem Between.wire_wait (hws : Between ws) (h : wire system ws xs = .wait t) : Between t := by
  cases hconnected : ws.connected with
  | false =>
    rw [wire_of_not_connected hconnected] at h
    obtain ⟨hreads, hstack⟩ := WebSocket.handshakeReading_eq_wait h
    exact ⟨fun r hr => hws.1 r (hstack ▸ hr), hreads.fragBuffer.trans hws.2⟩
  | true =>
    by_cases hlen : xs.length < 2
    · simp only [wire, hconnected, hlen, if_true] at h
      obtain rfl := Reading.wait.inj h
      exact hws
    · rw [wire_of_connected hconnected (by omega)] at h
      obtain ⟨rfl, -⟩ := WebSocket.frameReading_eq_wait h
      exact hws

theorem Between.pump {kept : Data} (hws : Between ws)
    (h : (wire system).pump ws xs = .waiting t kept) : Between t :=
  Reader.pump_keeps (wire_lawful system) (fun hs htake => hs.wire_take htake)
    (fun hs hwait => hs.wire_wait hwait) hws h

/-- What is in memory behind a piece, and the piece. -/
abbrev Piece := (Nat → UInt8) × Data

/-- Piece after piece. -/
def inputs (system : System) (ws : WebSocket) (pieces : List Piece) : Except Trap WebSocket :=
  pieces.foldlM (fun ws piece => ws.dequeueInput system piece.1 piece.2) ws

/-- No piece is a single byte outside of frames and messages. -/
def noLone (system : System) : WebSocket → Data → List Data → Bool
  | _, _, [] => true
  | ws, kept, piece :: pieces =>
    !isLone system ws (kept ++ piece) &&
      match (wire system).pump ws (kept ++ piece) with
      | .waiting t kept' => noLone system t kept' pieces
      | _ => true

theorem noLone_head {kept piece : Data} {pieces : List Data}
    (h : noLone system ws kept (piece :: pieces) = true) :
    isLone system ws (kept ++ piece) = false := by
  simpa using (Bool.and_eq_true_iff.mp h).1

theorem noLone_tail {kept kept' piece : Data} {pieces : List Data}
    (h : noLone system ws kept (piece :: pieces) = true)
    (hpiece : (wire system).pump ws (kept ++ piece) = .waiting t kept') :
    noLone system t kept' pieces = true := by
  have htail := (Bool.and_eq_true_iff.mp h).2
  rwa [hpiece] at htail

theorem keep_cleared (h : ws.fragBuffer = none) (kept : Data) :
    ({ ws.keep kept with fragBuffer := none } : WebSocket) = ws ∧
      (ws.keep kept).fragBuffer.getD [] = kept := by
  refine ⟨?_, ?_⟩
  · simp [WebSocket.keep, ← h]
  · unfold WebSocket.keep
    dsimp only
    split
    · rename_i hkept
      simp [hkept]
    · rfl

/-- The pieces are fed to the reader. -/
theorem inputs_eq_feed (hws : Between ws) {kept : Data} {pieces : List Piece}
    (hpieces : ∀ piece ∈ pieces, piece.2 ≠ [])
    (hlone : noLone system ws kept (pieces.map Prod.snd) = true) :
    match (wire system).feed ws kept (pieces.map Prod.snd) with
    | .waiting t kept' => inputs system (ws.keep kept) pieces = .ok (t.keep kept')
    | .stopped t => ∃ before piece after, pieces = before ++ piece :: after ∧
        inputs system (ws.keep kept) (before ++ [piece]) = .ok t
    | .failed trap => inputs system (ws.keep kept) pieces = .error trap := by
  induction pieces generalizing ws kept with
  | nil => rfl
  | cons piece pieces ih =>
    obtain ⟨hcleared, hkept⟩ := keep_cleared hws.2 kept
    have hpiece : (ws.keep kept).dequeueInput system piece.1 piece.2 =
        outcome ((wire system).pump ws (kept ++ piece.2)) := by
      have hone : isLone system { ws.keep kept with fragBuffer := none }
          ((ws.keep kept).fragBuffer.getD [] ++ piece.2) = false := by
        rw [hcleared, hkept]
        exact noLone_head hlone
      have hsettled : (ws.keep kept).Settled := hws.1
      rw [WebSocket.dequeueInput_eq hsettled (hpieces piece (by simp)) hone, hcleared, hkept]
    have hinputs : inputs system (ws.keep kept) (piece :: pieces) =
        (outcome ((wire system).pump ws (kept ++ piece.2))).bind
          fun t => inputs system t pieces := by
      rw [← hpiece]
      rfl
    simp only [List.map_cons, Reader.feed]
    cases hpump : (wire system).pump ws (kept ++ piece.2) with
    | failed trap =>
      dsimp only
      rw [hinputs, hpump]
      rfl
    | stopped t =>
      refine ⟨[], piece, pieces, rfl, ?_⟩
      rw [List.nil_append, inputs, List.foldlM_cons, hpiece, hpump]
      rfl
    | waiting t kept' =>
      have hih := ih (hws.pump hpump) (fun p hp => hpieces p (by simp [hp]))
        (noLone_tail hlone hpump)
      have hnext : inputs system (ws.keep kept) (piece :: pieces) =
          inputs system (t.keep kept') pieces := by
        rw [hinputs, hpump]
        rfl
      dsimp only
      rw [hnext]
      split
      · rename_i u kept'' hu
        simpa only [hu] using hih
      · rename_i u hu
        simp only [hu] at hih
        obtain ⟨before, last, after, hsplit, hlast⟩ := hih
        refine ⟨piece :: before, last, after, by rw [hsplit]; rfl, ?_⟩
        rw [List.cons_append, inputs, List.foldlM_cons, hpiece, hpump]
        exact hlast
      · rename_i trap hu
        simpa only [hu] using hih

/-- What comes of the pieces is what the reader makes of all of it at once, whatever is in memory
behind each. -/
theorem inputs_eq_pump (hws : Between ws) {pieces : List Piece}
    (hpieces : ∀ piece ∈ pieces, piece.2 ≠ [])
    (hlone : noLone system ws [] (pieces.map Prod.snd) = true) :
    match (wire system).pump ws (pieces.flatMap Prod.snd) with
    | .waiting t kept => inputs system ws pieces = .ok (t.keep kept)
    | .stopped t => ∃ before piece after, pieces = before ++ piece :: after ∧
        inputs system ws (before ++ [piece]) = .ok t
    | .failed trap => inputs system ws pieces = .error trap := by
  have hstart : ws.keep [] = ws := by simp [WebSocket.keep, ← hws.2]
  have hfeed := inputs_eq_feed hws hpieces hlone
  rwa [Reader.feed_eq_pump (wire_lawful system) (WebSocket.pump_nil ws), List.nil_append, hstart,
    ← List.flatMap_def] at hfeed

/-- The input comes to something that makes the socket throw the rest of it away; the socket is `t`
at the end of the piece in which that is. -/
structure Refuses (system : System) (ws : WebSocket) (pieces : List Piece) (t : WebSocket) :
    Prop where
  pump : (wire system).pump ws (pieces.flatMap Prod.snd) = .stopped t
  piece : ∃ before piece after, pieces = before ++ piece :: after ∧
    inputs system ws (before ++ [piece]) = .ok t

/-- **The pieces do not matter**: however the same input is cut, and whatever is in memory behind
the pieces, the same comes of it, to the same fault; or it is refused, with the same left behind. -/
theorem pieces_do_not_matter (hws : Between ws) {pieces others : List Piece}
    (hpieces : ∀ piece ∈ pieces, piece.2 ≠ []) (hothers : ∀ piece ∈ others, piece.2 ≠ [])
    (hlone : noLone system ws [] (pieces.map Prod.snd) = true)
    (hlone' : noLone system ws [] (others.map Prod.snd) = true)
    (hsame : pieces.flatMap Prod.snd = others.flatMap Prod.snd) :
    inputs system ws pieces = inputs system ws others ∨
      ∃ t, Refuses system ws pieces t ∧ Refuses system ws others t := by
  have hfirst := inputs_eq_pump hws hpieces hlone
  have hsecond := inputs_eq_pump hws hothers hlone'
  rw [← hsame] at hsecond
  cases hpump : (wire system).pump ws (pieces.flatMap Prod.snd) with
  | waiting t kept =>
    rw [hpump] at hfirst hsecond
    exact .inl (hfirst.trans hsecond.symm)
  | failed trap =>
    rw [hpump] at hfirst hsecond
    exact .inl (hfirst.trans hsecond.symm)
  | stopped t =>
    rw [hpump] at hfirst hsecond
    exact .inr ⟨t, ⟨hpump, hfirst⟩, ⟨hsame ▸ hpump, hsecond⟩⟩

/-- A system on which nothing is compressed. -/
def System.withoutZlib : System where
  -- the digest for the key `dGhlIHNhbXBsZSBub25jZQ==`
  sha1Base64 := fun _ => "s3pPLMBiTxaQ9kYGzzhZRbK+xOo="
  initInflate := fun _ => false
  initDeflate := fun _ => false
  inflate := fun _ _ => none
  deflate := fun _ _ => none

/-- A socket that has just been connected. -/
def WebSocket.online : WebSocket := { connected := true, readyToWrite := true }

theorem between_online : Between .online :=
  ⟨fun r hr => absurd hr (by simp [WebSocket.online]), rfl⟩

theorem text_in_two_pieces :
    inputs .withoutZlib .online [(fun _ => 0xFF, [0x81, 2]), (fun _ => 0, [104, 105])] =
      inputs .withoutZlib .online [(fun _ => 0, [0x81, 2, 104]), (fun _ => 7, [105])] := by
  have hlone : noLone .withoutZlib .online [] [[0x81, 2], [104, 105]] = true := by decide
  have hlone' : noLone .withoutZlib .online [] [[0x81, 2, 104], [105]] = true := by decide
  have hpump : (wire .withoutZlib).pump .online [0x81, 2, 104, 105] =
      .waiting { WebSocket.online with callbackQueue := [.didReceiveMessage "hi"] } [] := by decide
  have h := @pieces_do_not_matter .withoutZlib .online between_online
    [(fun _ => 0xFF, [0x81, 2]), (fun _ => 0, [104, 105])]
    [(fun _ => 0, [0x81, 2, 104]), (fun _ => 7, [105])] (by simp) (by simp) hlone hlone' rfl
  rcases h with h | ⟨t, h, -⟩
  · exact h
  · exact absurd (hpump.symm.trans h.pump) (by simp)

/-! ## 3. A single byte -/

namespace WebSocket

/-- A single byte is refused with what is behind it, or kept. -/
theorem processFrame_lone (ws : WebSocket) (system : System) (beyond : Nat → UInt8) (b : UInt8) :
    ws.processFrame system beyond [b] =
      match (ws.noteCompression (Header.ofBytes b (beyond 0))).refusal
          (Header.ofBytes b (beyond 0)) 0 with
      | some t => .stop t
      | none => .wait (ws.noteCompression (Header.ofBytes b (beyond 0))) := by
  have hfirst : byteAt beyond [b] 0 = b := rfl
  have hsecond : byteAt beyond [b] 1 = beyond 0 := rfl
  have hoffset : 2 ≤ (lengthAt (byteAt beyond [b]) (Header.ofBytes b (beyond 0))).2 := by
    unfold lengthAt
    split
    · simp
    · split
      · simp
      · exact le_rfl
  unfold processFrame
  simp only [hfirst, hsecond]
  rw [refusal_code]
  cases hrefusal : (ws.noteCompression (Header.ofBytes b (beyond 0))).refusal
      (Header.ofBytes b (beyond 0)) 0 with
  | some t => rfl
  | none =>
    obtain ⟨opcode, hopcode⟩ := exists_opcode_of_refusal hrefusal
    simp only [hopcode, List.length_singleton]
    rw [if_pos (by simp; omega)]

theorem processRawMessages_lone (hstack : ws.readStack = []) (b : UInt8) :
    ws.processRawMessagesInBuffer system beyond [b] =
      match (ws.noteCompression (Header.ofBytes b (beyond 0))).refusal
          (Header.ofBytes b (beyond 0)) 0 with
      | some t => .ok t
      | none => .ok ((ws.noteCompression (Header.ofBytes b (beyond 0))).keep [b]) := by
  cases hrefusal : (ws.noteCompression (Header.ofBytes b (beyond 0))).refusal
      (Header.ofBytes b (beyond 0)) 0 with
  | some t =>
    simp [processRawMessagesInBuffer, processRawMessagesFor, processOneRawMessage, hstack,
      processFrame_lone, hrefusal]
  | none =>
    simp [processRawMessagesInBuffer, processRawMessagesFor, processOneRawMessage, hstack,
      processFrame_lone, hrefusal, keep]

theorem dequeueInput_lone (hconnected : ws.connected = true) (hfrag : ws.fragBuffer = none)
    (b : UInt8) :
    ws.dequeueInput system beyond [b] = ws.processRawMessagesInBuffer system beyond [b] := by
  have hsame : ({ ws with fragBuffer := none } : WebSocket) = ws := by simp [← hfrag]
  unfold dequeueInput
  rw [hsame, hfrag]
  dsimp only
  rw [hconnected]
  rfl

/-- What a header says of compression is in its first byte. -/
theorem noteCompression_ofBytes (ws : WebSocket) (b second : UInt8) :
    ws.noteCompression (Header.ofBytes b second) = ws.noteCompression (Header.ofBytes b 0) := rfl

/-- A byte that a frame can begin with, but no pong and no frame of a message that is to be
inflated, is kept if it comes alone, or refused as masked: that depends on what is in memory behind
it. -/
theorem lone_byte (hconnected : ws.connected = true) (hfrag : ws.fragBuffer = none)
    (hstack : ws.readStack = []) {b : UInt8}
    (hbegins : ∃ second, (ws.noteCompression (Header.ofBytes b 0)).refusal
      (Header.ofBytes b second) 0 = none)
    (hplain : (ws.noteCompression (Header.ofBytes b 0)).compressionState.messageNeedsDecompression =
      false)
    (hpong : (Header.ofBytes b 0).receivedOpcode ≠ some .pong) :
    (∃ beyond, ws.dequeueInput system beyond [b] =
        .ok ((ws.noteCompression (Header.ofBytes b 0)).keep [b])) ∧
      ∀ beyond, 0x80 ≤ beyond 0 → ws.dequeueInput system beyond [b] =
        .ok ((ws.noteCompression (Header.ofBytes b 0)).refuse
          "masked and rsv data is not currently supported" CloseCode.protocolError) := by
  have hlone : ∀ beyond, ws.dequeueInput system beyond [b] =
      ws.processRawMessagesInBuffer system beyond [b] := fun _ =>
    dequeueInput_lone hconnected hfrag b
  refine ⟨?_, fun beyond hmask => ?_⟩
  · obtain ⟨second, hsecond⟩ := hbegins
    refine ⟨fun _ => second, ?_⟩
    rw [hlone, processRawMessages_lone hstack, noteCompression_ofBytes, hsecond]
  · have hmasked : (Header.ofBytes b (beyond 0)).isMasked = true := by
      have hbits : ∀ n : Fin 256, 0x80 ≤ UInt8.ofNat n → 0 < MaskMask &&& UInt8.ofNat n := by
        decide +kernel
      have hsecond := hbits ⟨(beyond 0).toNat, (beyond 0).toNat_lt⟩
      simp only [UInt8.ofNat_toNat] at hsecond
      simpa [Header.ofBytes] using hsecond hmask
    have hopcode : (Header.ofBytes b (beyond 0)).receivedOpcode ≠ some .pong := hpong
    rw [hlone, processRawMessages_lone hstack, noteCompression_ofBytes]
    simp [refusal, hmasked, hopcode, hplain]

/-- The first byte of a text: kept, or the end of the connection. -/
theorem lone_byte_of_text :
    (∃ beyond, online.dequeueInput .withoutZlib beyond [0x81] = .ok (online.keep [0x81])) ∧
      online.dequeueInput .withoutZlib (fun _ => 0xFF) [0x81] =
        .ok (online.refuse "masked and rsv data is not currently supported"
          CloseCode.protocolError) := by
  have hbegins : ∃ second, (online.noteCompression (Header.ofBytes 0x81 0)).refusal
      (Header.ofBytes 0x81 second) 0 = none := ⟨0, by decide⟩
  obtain ⟨hkept, hrefused⟩ :=
    @lone_byte .withoutZlib online rfl rfl rfl 0x81 hbegins rfl (by decide)
  exact ⟨hkept, hrefused (fun _ => 0xFF) (by decide)⟩

end WebSocket

/-! ## 4. The input that stops the app -/

/-- A close frame whose length is 1 and follows the second byte, with all of its one byte there. -/
structure ShortClose (ws : WebSocket) (xs : Data) : Prop where
  connected : ws.connected = true
  opcode : (Header.ofBytes (xs.getD 0 0) (xs.getD 1 0)).receivedOpcode = some .connectionClose
  isFin : (Header.ofBytes (xs.getD 0 0) (xs.getD 1 0)).isFin = true
  accepted : ((Header.ofBytes (xs.getD 0 0) (xs.getD 1 0)).isMasked = false ∧
      (Header.ofBytes (xs.getD 0 0) (xs.getD 1 0)).hasRSV = false) ∨
    (ws.noteCompression (Header.ofBytes (xs.getD 0 0)
      (xs.getD 1 0))).compressionState.messageNeedsDecompression = true
  length : (payloadLength xs).1 = 1
  follows : 2 < (payloadLength xs).2
  whole : (payloadLength xs).2 < xs.length

/-- A frame to be inflated of 4 GiB and more, all of it there; the code of a close frame does not
count. -/
structure LongFrame (ws : WebSocket) (xs : Data) : Prop where
  connected : ws.connected = true
  accepted : (ws.noteCompression (Header.ofBytes (xs.getD 0 0) (xs.getD 1 0))).refusal
    (Header.ofBytes (xs.getD 0 0) (xs.getD 1 0)) 0 = none
  inflates : (ws.noteCompression (Header.ofBytes (xs.getD 0 0)
    (xs.getD 1 0))).compressionState.inflates = true
  length : 2 ^ 32 + (if (Header.ofBytes (xs.getD 0 0) (xs.getD 1 0)).receivedOpcode =
    some .connectionClose then 2 else 0) ≤ (payloadLength xs).1
  whole : (payloadLength xs).2 + (payloadLength xs).1 ≤ xs.length

/-- What stops the app at the front of the input. -/
inductive Stopper (ws : WebSocket) (xs : Data) : Trap → Prop
  | shortClose (h : ShortClose ws xs) : Stopper ws xs .arithmeticOverflow
  | longFrame (h : LongFrame ws xs) : Stopper ws xs .conversion
  /-- An answer to the upgrade that agrees on window bits beyond the range of `CInt`. -/
  | answer {response : Data} (waits : ws.connected = false)
      (all : response? xs = some response) (overflows : ws.Overflows response) :
      Stopper ws xs .conversion

namespace WebSocket

/-- A close frame passes its header if it is final, and its length is not in the second byte or at
least 2. -/
theorem refusal_close_eq_none_iff {h : Header} {code : UInt16}
    (hclose : h.receivedOpcode = some .connectionClose) :
    ws.refusal h code = none ↔
      ((h.isMasked = false ∧ h.hasRSV = false) ∨
        ws.compressionState.messageNeedsDecompression = true) ∧
      h.isFin = true ∧ ¬h.payloadLen < 2 := by
  cases hmasked : h.isMasked <;> cases hrsv : h.hasRSV <;> cases hfin : h.isFin <;>
    cases hneeds : ws.compressionState.messageNeedsDecompression <;>
    by_cases hshort : h.payloadLen < 2 <;>
    simp [refusal, Header.isControlFrame, hclose, hmasked, hrsv, hfin, hneeds, hshort]

/-- A frame stops the app if it passes its header, is all there, and has a payload that does. -/
theorem frameReading_eq_fail_iff_payloadTrap {header : Header} {opcode : OpCode} {trap : Trap}
    (hh : Header.ofBytes (xs.getD 0 0) (xs.getD 1 0) = header)
    (hopcode : header.receivedOpcode = some opcode) :
    ws.frameReading system xs = .fail trap ↔
      (ws.noteCompression header).refusal header 0 = none ∧
      (payloadLength xs).2 + (payloadLength xs).1 ≤ xs.length ∧
      (ws.noteCompression header).payloadTrap opcode
        ((xs.drop (payloadLength xs).2).take (payloadLength xs).1) = some trap := by
  cases hrefusal : (ws.noteCompression header).refusal header 0 with
  | some t => simp [frameReading_of_refusal hh hrefusal]
  | none =>
    rw [frameReading_of_opcode hh hrefusal hopcode]
    by_cases hpart : xs.length < (payloadLength xs).2 + (payloadLength xs).1
    · rw [if_pos hpart]
      simp only [reduceCtorEq, false_iff, not_and]
      omega
    · rw [if_neg hpart, receive_eq_fail_iff]
      exact ⟨fun htrap => ⟨rfl, by omega, htrap⟩, fun h => h.2.2⟩

theorem payloadTrap_eq_arithmeticOverflow_iff {opcode : OpCode} {bytes : Data} :
    ws.payloadTrap opcode bytes = some .arithmeticOverflow ↔
      opcode = .connectionClose ∧ bytes.length = 1 := by
  unfold payloadTrap
  split
  · rename_i hclose
    simpa using hclose
  · rename_i hclose
    split
    · simpa using hclose
    · simpa using hclose

theorem payloadTrap_eq_conversion_iff {opcode : OpCode} {bytes : Data} :
    ws.payloadTrap opcode bytes = some .conversion ↔
      ws.compressionState.inflates = true ∧
        2 ^ 32 + (if opcode = .connectionClose then 2 else 0) ≤ bytes.length := by
  unfold payloadTrap
  by_cases hclose : opcode = .connectionClose
  · subst hclose
    simp only [true_and, beq_self_eq_true, if_true, List.length_drop]
    by_cases hone : bytes.length = 1
    · rw [if_pos hone]
      simp only [Option.some.injEq, reduceCtorEq, false_iff, not_and]
      omega
    · rw [if_neg hone]
      by_cases hlong : ws.compressionState.inflates = true ∧ 2 ^ 32 ≤ bytes.length - 2
      · rw [if_pos hlong]
        exact ⟨fun _ => ⟨hlong.1, by omega⟩, fun _ => rfl⟩
      · rw [if_neg hlong]
        exact ⟨fun h => absurd h (by simp), fun h => absurd ⟨h.1, by omega⟩ hlong⟩
  · rw [if_neg (fun h => hclose h.1)]
    simp [hclose]

theorem shortClose_iff (hconnected : ws.connected = true) :
    ws.frameReading system xs = .fail .arithmeticOverflow ↔ ShortClose ws xs := by
  generalize hh : Header.ofBytes (xs.getD 0 0) (xs.getD 1 0) = header
  have hlen : header.payloadLen = xs.getD 1 0 &&& 0x7F := by rw [← hh, payloadLen_ofBytes]
  have htwo : ∀ n : UInt8, ¬n < 2 ↔ 2 ≤ n.toNat := fun n => by
    rw [UInt8.lt_iff_toNat_lt]
    exact Nat.not_lt
  constructor
  · intro hfail
    obtain ⟨opcode, hopcode⟩ : ∃ opcode, header.receivedOpcode = some opcode := by
      cases hrefusal : (ws.noteCompression header).refusal header 0 with
      | some t => exact absurd ((frameReading_of_refusal hh hrefusal).symm.trans hfail) (by simp)
      | none => exact exists_opcode_of_refusal hrefusal
    obtain ⟨hrefusal, hwhole, htrap⟩ := (frameReading_eq_fail_iff_payloadTrap hh hopcode).mp hfail
    obtain ⟨rfl, hone⟩ := payloadTrap_eq_arithmeticOverflow_iff.mp htrap
    obtain ⟨haccepted, hfin, hshort⟩ := (refusal_close_eq_none_iff hopcode).mp hrefusal
    rw [List.length_take, List.length_drop] at hone
    have hlength : (payloadLength xs).1 = 1 := by omega
    rw [hlen, htwo] at hshort
    refine ⟨hconnected, hh ▸ hopcode, hh ▸ hfin, hh ▸ haccepted, hlength, ?_, by omega⟩
    unfold payloadLength at hlength ⊢
    dsimp only at hlength ⊢
    split
    · simp
    · rename_i hlong
      rw [if_neg hlong] at hlength
      split
      · simp
      · rename_i hmid
        rw [if_neg hmid] at hlength
        dsimp only at hlength
        omega
  · intro h
    have hopcode : header.receivedOpcode = some .connectionClose := hh ▸ h.opcode
    have hlength := h.length
    have hfollows := h.follows
    have hwhole := h.whole
    refine (frameReading_eq_fail_iff_payloadTrap hh hopcode).mpr ⟨?_, by omega, ?_⟩
    · refine (refusal_close_eq_none_iff hopcode).mpr ⟨hh ▸ h.accepted, hh ▸ h.isFin, ?_⟩
      rw [hlen, htwo]
      unfold payloadLength at hfollows
      dsimp only at hfollows
      split at hfollows
      · omega
      · split at hfollows
        · omega
        · exact absurd hfollows (by simp)
    · refine payloadTrap_eq_arithmeticOverflow_iff.mpr ⟨rfl, ?_⟩
      rw [List.length_take, List.length_drop]
      omega

theorem longFrame_iff (hconnected : ws.connected = true) :
    ws.frameReading system xs = .fail .conversion ↔ LongFrame ws xs := by
  generalize hh : Header.ofBytes (xs.getD 0 0) (xs.getD 1 0) = header
  constructor
  · intro hfail
    obtain ⟨opcode, hopcode⟩ : ∃ opcode, header.receivedOpcode = some opcode := by
      cases hrefusal : (ws.noteCompression header).refusal header 0 with
      | some t => exact absurd ((frameReading_of_refusal hh hrefusal).symm.trans hfail) (by simp)
      | none => exact exists_opcode_of_refusal hrefusal
    obtain ⟨hrefusal, hwhole, htrap⟩ := (frameReading_eq_fail_iff_payloadTrap hh hopcode).mp hfail
    obtain ⟨hinflates, hlong⟩ := payloadTrap_eq_conversion_iff.mp htrap
    refine ⟨hconnected, hh ▸ hrefusal, hh ▸ hinflates, ?_, hwhole⟩
    rw [List.length_take, List.length_drop] at hlong
    rw [hh, hopcode]
    simp only [Option.some.injEq]
    omega
  · intro h
    obtain ⟨opcode, hopcode⟩ := exists_opcode_of_refusal h.accepted
    have hlong := h.length
    have hwhole := h.whole
    rw [hopcode] at hlong
    simp only [Option.some.injEq] at hlong
    rw [hh] at hopcode
    refine (frameReading_eq_fail_iff_payloadTrap hh hopcode).mpr ⟨hh ▸ h.accepted, hwhole, ?_⟩
    refine payloadTrap_eq_conversion_iff.mpr ⟨hh ▸ h.inflates, ?_⟩
    rw [List.length_take, List.length_drop]
    omega

/-- What stops the reader. -/
theorem wire_eq_fail_iff {trap : Trap} : wire system ws xs = .fail trap ↔ Stopper ws xs trap := by
  cases hconnected : ws.connected with
  | false =>
    rw [wire_of_not_connected hconnected]
    constructor
    · intro hfail
      have hview := ws.handshakeReading_view system xs
      rw [hfail] at hview
      cases hview with
      | traps hend answer =>
        obtain ⟨rfl, hoverflows⟩ := validateResponse_eq_error_iff.mp answer
        exact .answer hconnected (if_pos hend) hoverflows
    · intro hstops
      cases hstops with
      | shortClose h => exact absurd (hconnected.symm.trans h.connected) (by simp)
      | longFrame h => exact absurd (hconnected.symm.trans h.connected) (by simp)
      | @answer response _ all overflows =>
        unfold response? at all
        split at all
        · rename_i hend
          obtain rfl := Option.some.inj all
          have hanswer := (@validateResponse_eq_error_iff system ws _ _).mpr ⟨rfl, overflows⟩
          simp [handshakeReading, hend, hanswer]
        · exact absurd all (by simp)
  | true =>
    by_cases hlen : xs.length < 2
    · have hwait : wire system ws xs = .wait ws := by simp [wire, hconnected, hlen]
      rw [hwait]
      simp only [reduceCtorEq, false_iff]
      intro hstops
      cases hstops with
      | shortClose h =>
        have hfollows := h.follows
        have hwhole := h.whole
        omega
      | longFrame h =>
        have hlong := h.length
        have hwhole := h.whole
        omega
      | answer waits => exact absurd (waits.symm.trans hconnected) (by simp)
    · rw [wire_of_connected hconnected (by omega)]
      constructor
      · intro hfail
        cases trap with
        | arithmeticOverflow => exact .shortClose ((shortClose_iff hconnected).mp hfail)
        | conversion => exact .longFrame ((longFrame_iff hconnected).mp hfail)
        | removeLast =>
          obtain ⟨opcode, hopcode⟩ : ∃ opcode, (Header.ofBytes (xs.getD 0 0)
              (xs.getD 1 0)).receivedOpcode = some opcode := by
            cases hrefusal : (ws.noteCompression (Header.ofBytes (xs.getD 0 0)
                (xs.getD 1 0))).refusal (Header.ofBytes (xs.getD 0 0) (xs.getD 1 0)) 0 with
            | some t =>
              exact absurd ((frameReading_of_refusal rfl hrefusal).symm.trans hfail) (by simp)
            | none => exact exists_opcode_of_refusal hrefusal
          obtain ⟨-, -, htrap⟩ := (frameReading_eq_fail_iff_payloadTrap rfl hopcode).mp hfail
          unfold payloadTrap at htrap
          split at htrap
          · exact absurd htrap (by simp)
          · split at htrap
            · exact absurd htrap (by simp)
            · exact absurd htrap (by simp)
      · intro hstops
        cases hstops with
        | shortClose h => exact (shortClose_iff hconnected).mpr h
        | longFrame h => exact (longFrame_iff hconnected).mpr h
        | answer waits => exact absurd (waits.symm.trans hconnected) (by simp)

/-- A single byte stops nothing: neither do the methods fail nor does the reader. -/
theorem not_fails_of_isLone (beyond : Nat → UInt8) (trap : Trap)
    (hlone : isLone system ws xs = true) :
    (if !ws.connected then ws.processTCPHandshake system beyond xs
      else ws.processRawMessagesInBuffer system beyond xs) ≠ .error trap ∧
      (wire system).pump ws xs ≠ .failed trap := by
  have hbyte : ∀ {u : WebSocket} {zs : Data}, u.readStack = [] → zs.length = 1 →
      u.processRawMessagesInBuffer system beyond zs ≠ .error trap := by
    intro u zs hstack hone
    obtain ⟨b, rfl⟩ := List.length_eq_one_iff.mp hone
    rw [processRawMessages_lone hstack]
    split
    · simp
    · simp
  obtain ⟨hempty, hlast⟩ := Bool.and_eq_true_iff.mp hlone
  have hstack : ws.readStack = [] := List.isEmpty_iff.mp hempty
  cases hconnected : ws.connected with
  | true =>
    have hone : xs.length = 1 := by simpa [hconnected] using hlast
    refine ⟨by simpa using hbyte hstack hone, ?_⟩
    rw [Reader.pump_of_wait (by simp [wire, hconnected, hone] : wire system ws xs = .wait ws)]
    simp
  | false =>
    rw [if_pos (by simp), processTCPHandshake_eq]
    cases hreading : ws.handshakeReading system xs with
    | wait t => simp [hconnected, hreading] at hlast
    | stop t => simp [hconnected, hreading] at hlast
    | fail trap => simp [hconnected, hreading] at hlast
    | take t n =>
      have hrest : (xs.drop n).length = 1 := by
        simp [hconnected, hreading] at hlast
        rw [List.length_drop]
        omega
      obtain ⟨ht, htstack, -⟩ := reads_handshakeReading hreading
      have htake : wire system ws xs = .take t n :=
        (wire_of_not_connected hconnected).trans hreading
      rw [List.length_drop] at hrest
      refine ⟨?_, ?_⟩
      · dsimp only
        rw [if_pos (by omega)]
        exact hbyte (htstack.trans hstack) (by rwa [List.length_drop])
      · rw [Reader.pump_of_take (wire_lawful system) htake, Reader.pump_of_wait
          (by simp [wire, ht, hrest] : wire system t (xs.drop n) = .wait t)]
        simp

/-- **What stops the app**: one of these somewhere in the piece, behind what was kept, and whatever
is in memory behind it. -/
theorem dequeueInput_eq_error_iff {data : Data} (hsettled : ws.Settled) (hdata : data ≠ [])
    {trap : Trap} :
    ws.dequeueInput system beyond data = .error trap ↔
      ∃ t ys, (wire system).Reaches { ws with fragBuffer := none }
        (ws.fragBuffer.getD [] ++ data) t ys ∧ Stopper t ys trap := by
  have hfails : (wire system).pump { ws with fragBuffer := none } (ws.fragBuffer.getD [] ++ data) =
      .failed trap ↔ ∃ t ys, (wire system).Reaches { ws with fragBuffer := none }
        (ws.fragBuffer.getD [] ++ data) t ys ∧ Stopper t ys trap := by
    rw [Reader.pump_eq_failed_iff (wire_lawful system)]
    simp only [wire_eq_fail_iff]
  rw [← hfails]
  cases hlone : isLone system { ws with fragBuffer := none } (ws.fragBuffer.getD [] ++ data) with
  | true =>
    obtain ⟨hmethods, hreader⟩ := not_fails_of_isLone beyond trap hlone
    exact ⟨fun h => absurd h hmethods, fun h => absurd h hreader⟩
  | false =>
    rw [dequeueInput_eq hsettled hdata hlone]
    cases (wire system).pump { ws with fragBuffer := none } (ws.fragBuffer.getD [] ++ data) with
    | waiting t kept => simp [outcome]
    | stopped t => simp [outcome]
    | failed other => simp [outcome]

end WebSocket

end Starscream
