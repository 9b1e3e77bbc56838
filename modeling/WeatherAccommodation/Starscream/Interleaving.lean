/-
# What is done meanwhile does not matter

While the input comes in, the app writes, operations run and the delegate is called, in any order.
The input is read without a look at any of that.

* `wire_beside`: the reader does not look at the queues, nor at what compresses the output;
* `story_of_input`: what the delegate hears, and which pongs are owed, depends on the input alone;
* `messages_of_run`: so every message of a server is told, and every ping of it answered, whatever
  is done meanwhile, and however the network cuts the frames;
* `texts_of_run`: and texts are told one by one, into however many frames each of them is cut.
-/
import WeatherAccommodation.Starscream.Answer
import WeatherAccommodation.Starscream.Server

namespace Starscream

open Reactive Streaming WireFormat

variable {system : System} {beyond : Nat → UInt8} {xs ys : Data} {ws t : WebSocket}

/-! ## 1. Two sockets with different queues -/

section Beside

variable {q q' : List Callback} {w w' : List WriteOperation}

/-- Two sockets with the same behind these queues; but for what compresses the output, they agree
otherwise. -/
inductive Beside (q q' : List Callback) (w w' : List WriteOperation) (ws : WebSocket) :
    WebSocket → Prop
  | mk {calls' : List Callback} {ops' : List WriteOperation} {compressor : Option Codec}
      (calls : List Callback) (ops : List WriteOperation) (left : ws.callbackQueue = q ++ calls)
      (right : calls' = q' ++ calls) (leftOps : ws.writeQueue = w ++ ops)
      (rightOps : ops' = w' ++ ops) :
      Beside q q' w w' ws { ws with
        callbackQueue := calls', writeQueue := ops'
        compressionState := { ws.compressionState with compressor := compressor } }

namespace Beside

theorem callback (h : Beside q q' w w' ws t) (call : Callback) :
    Beside q q' w w' (ws.callback call) (t.callback call) := by
  cases h with
  | mk calls ops left right leftOps rightOps =>
    unfold WebSocket.callback
    dsimp only
    split
    · exact .mk (calls ++ [call]) ops (by simp [left]) (by simp [right]) leftOps rightOps
    · exact .mk calls ops left right leftOps rightOps

theorem dequeueWrite (h : Beside q q' w w' ws t) (data : Data) (code : OpCode) :
    Beside q q' w w' (ws.dequeueWrite data code) (t.dequeueWrite data code) := by
  cases h with
  | mk calls ops left right leftOps rightOps =>
    exact .mk calls (ops ++ [.frame data code]) left right
      (by simp [WebSocket.dequeueWrite, leftOps]) (by simp [rightOps])

theorem readStack (h : Beside q q' w w' ws t) :
    t.readStack = ws.readStack ∧ ∀ stack, Beside q q' w w' { ws with readStack := stack }
      { t with readStack := stack } := by
  cases h with
  | mk calls ops left right leftOps rightOps =>
    exact ⟨rfl, fun stack => .mk calls ops left right leftOps rightOps⟩

theorem fragBuffer (h : Beside q q' w w' ws t) :
    t.fragBuffer = ws.fragBuffer ∧ ∀ kept, Beside q q' w w' { ws with fragBuffer := kept }
      { t with fragBuffer := kept } := by
  cases h with
  | mk calls ops left right leftOps rightOps =>
    exact ⟨rfl, fun stack => .mk calls ops left right leftOps rightOps⟩

theorem doDisconnect (h : Beside q q' w w' ws t) (error : Option SocketError) :
    Beside q q' w w' (ws.doDisconnect error) (t.doDisconnect error) := by
  have hdid : t.didDisconnect = ws.didDisconnect := by
    cases h
    rfl
  have hoff : Beside q q' w w'
      { ws with didDisconnect := true, isConnecting := false, connected := false }
      { t with didDisconnect := true, isConnecting := false, connected := false } := by
    cases h with
    | mk calls ops left right leftOps rightOps => exact .mk calls ops left right leftOps rightOps
  unfold WebSocket.doDisconnect
  rw [hdid]
  split
  · exact h
  · exact hoff.callback _

theorem refuse (h : Beside q q' w w' ws t) (message : String) (code : UInt16) :
    Beside q q' w w' (ws.refuse message code) (t.refuse message code) :=
  (h.doDisconnect _).dequeueWrite _ _

/-- What was agreed on changes in both, but for the compressors. -/
theorem compressionState (h : Beside q q' w w' ws t) :
    ∃ compressor, t.compressionState = { ws.compressionState with compressor := compressor } ∧
      ∀ state, Beside q q' w w' { ws with compressionState := state }
        { t with compressionState := { state with compressor := compressor } } := by
  cases h with
  | @mk calls' ops' compressor calls ops left right leftOps rightOps =>
    exact ⟨compressor, rfl, fun state => .mk calls ops left right leftOps rightOps⟩

theorem noteCompression (h : Beside q q' w w' ws t) (header : Header) :
    Beside q q' w w' (ws.noteCompression header) (t.noteCompression header) := by
  obtain ⟨compressor, hsame, hstate⟩ := h.compressionState
  have hnote : CompressionState.note { ws.compressionState with compressor := compressor } header =
      { ws.compressionState.note header with compressor := compressor } := by
    unfold CompressionState.note
    dsimp only
    split
    · rfl
    · rfl
  unfold WebSocket.noteCompression
  rw [hsame, hnote]
  exact hstate _

/-- The same frames are refused. -/
theorem refusal (h : Beside q q' w w' ws t) (header : Header) (code : UInt16) :
    ws.refusal header code = none ∧ t.refusal header code = none ∨
      ∃ u v, ws.refusal header code = some u ∧ t.refusal header code = some v ∧
        Beside q q' w w' u v := by
  have hneeds : t.compressionState.messageNeedsDecompression =
      ws.compressionState.messageNeedsDecompression := by
    cases h
    rfl
  unfold WebSocket.refusal
  rw [hneeds]
  split
  · exact .inr ⟨_, _, rfl, rfl, h.refuse _ _⟩
  · split
    · exact .inr ⟨_, _, rfl, rfl, h.refuse _ _⟩
    · split
      · exact .inr ⟨_, _, rfl, rfl, h.refuse _ _⟩
      · split
        · split
          · exact .inr ⟨_, _, rfl, rfl, h.refuse _ _⟩
          · exact .inl ⟨rfl, rfl⟩
        · split
          · exact .inr ⟨_, _, rfl, rfl, h.dequeueWrite _ _⟩
          · exact .inl ⟨rfl, rfl⟩

theorem processResponse (h : Beside q q' w w' ws t) (response : WSResponse) :
    Beside q q' w w' (ws.processResponse response) (t.processResponse response) := by
  have htail : ∀ {u v}, Beside q q' w w' u v →
      Beside q q' w w' { u with readStack := u.readStack.tail }
        { v with readStack := v.readStack.tail } := by
    intro u v huv
    obtain ⟨hsame, hstack⟩ := huv.readStack
    rw [hsame]
    exact hstack _
  unfold WebSocket.processResponse
  split
  · split
    · exact htail (h.dequeueWrite _ _)
    · split
      · exact h.dequeueWrite _ _
      · exact htail (h.callback _)
    · exact htail (h.callback _)
    · exact htail h
  · exact h

/-- The compressor is not used for what comes in. -/
theorem decompressed_compressor (state : CompressionState) (compressor : Option Codec)
    (bytes : Data) (isFin : Bool) :
    CompressionState.decompressed { state with compressor := compressor } system bytes isFin =
      (state.decompressed system bytes isFin).map fun out =>
        (out.1, { out.2 with compressor := compressor }) := by
  have hinflate : ∀ decompressor, CompressionState.inflate
      { state with compressor := compressor } system decompressor bytes isFin =
      state.inflate system decompressor bytes isFin := fun _ => rfl
  unfold CompressionState.decompressed
  dsimp only
  split
  · rename_i decompressor _ _
    rw [hinflate]
    cases state.inflate system decompressor bytes isFin with
    | error thrown => rfl
    | ok out => rfl
  · rfl

theorem receiveMessage (h : Beside q q' w w' ws t) (header : Header) (opcode : OpCode)
    (dataLength : Int) (data : Data) (len step : Nat) :
    Reader.Alike (Beside q q' w w')
      (ws.receiveMessage header opcode dataLength data len step)
      (t.receiveMessage header opcode dataLength data len step) := by
  obtain ⟨hsame, hstack⟩ := h.readStack
  unfold WebSocket.receiveMessage
  rw [hsame]
  split
  · split
    · exact .stop (h.refuse _ _)
    · split
      · exact .stop (h.refuse _ _)
      · exact .take ((hstack _).processResponse _) step
  · split
    · exact .take ((hstack _).processResponse _) step
    · exact .stop (h.refuse _ _)

theorem receive (h : Beside q q' w w' ws t) (header : Header) (opcode : OpCode)
    (closeCode : UInt16) (dataLength : Int) (bytes : Data) (step : Nat) :
    Reader.Alike (Beside q q' w w')
      (ws.receive system header opcode closeCode dataLength bytes step)
      (t.receive system header opcode closeCode dataLength bytes step) := by
  unfold WebSocket.receive
  split
  · exact .fail _
  · dsimp only
    generalize (if (opcode == .connectionClose) = true then bytes.drop 2 else bytes) = payload
    obtain ⟨compressor, hsame, hstate⟩ := h.compressionState
    rw [hsame, decompressed_compressor ws.compressionState compressor]
    cases ws.compressionState.decompressed system payload header.isFin with
    | error thrown =>
      cases thrown with
      | trap trap => exact .fail trap
      | error message => exact .stop (h.refuse _ _)
    | ok out =>
      obtain ⟨data, state⟩ := out
      have huv := hstate state
      dsimp only [Except.map]
      split
      · split
        · exact .stop (huv.refuse _ _)
        · exact .stop (huv.refuse _ _)
      · split
        · exact .take (huv.callback _) step
        · exact huv.receiveMessage _ _ _ _ _ _

theorem frameReading (h : Beside q q' w w' ws t) (xs : Data) :
    Reader.Alike (Beside q q' w w') (ws.frameReading system xs) (t.frameReading system xs) := by
  have hnote := h.noteCompression (Header.ofBytes (xs.getD 0 0) (xs.getD 1 0))
  unfold WebSocket.frameReading
  dsimp only
  rcases hnote.refusal (Header.ofBytes (xs.getD 0 0) (xs.getD 1 0)) 0 with
    ⟨hleft, hright⟩ | ⟨u, v, hleft, hright, huv⟩
  · rw [hleft, hright]
    split
    · rename_i hsome
      exact absurd hsome (by simp)
    · exact .stop hnote
    · split
      · exact .wait hnote
      · exact hnote.receive _ _ _ _ _ _
  · rw [hleft, hright]
    exact .stop huv

/-- The answer to the upgrade may bring a new compressor. -/
theorem validateResponse (h : Beside q q' w w' ws t) (system : System) (response : Data) :
    (∃ trap, ws.validateResponse system response = .error trap ∧
      t.validateResponse system response = .error trap) ∨
    ∃ u v code, ws.validateResponse system response = .ok (u, code) ∧
      t.validateResponse system response = .ok (v, code) ∧ Beside q q' w w' u v := by
  have hkey : ∀ {u v : WebSocket}, Beside q q' w w' u v → v.headerSecKey = u.headerSecKey := by
    intro u v huv
    cases huv
    rfl
  have hagree : ∀ headers,
      (∃ trap, ws.agree system headers = .error trap ∧ t.agree system headers = .error trap) ∨
      ∃ u v, ws.agree system headers = .ok u ∧ t.agree system headers = .ok v ∧
        Beside q q' w w' u v := by
    intro headers
    cases h with
    | @mk calls' ops' compressor calls ops left right leftOps rightOps =>
      unfold WebSocket.agree
      split
      · rename_i header _
        dsimp only
        rcases ws.compressionState.processExtensionHeader_compressor system header compressor with
          ⟨trap, hleft, hright⟩ | ⟨state, new, hleft, hright⟩
        · exact .inl ⟨trap, by rw [hleft]; rfl, by rw [hright]; rfl⟩
        · refine .inr ⟨{ ws with compressionState := state }, _, by rw [hleft]; rfl,
            by rw [hright]; rfl, .mk calls ops left right leftOps rightOps⟩
      · exact .inr ⟨_, _, rfl, rfl, .mk calls ops left right leftOps rightOps⟩
  unfold WebSocket.validateResponse
  split
  · exact .inr ⟨ws, t, -1, rfl, rfl, h⟩
  · rename_i code headers hparse
    split
    · exact .inr ⟨ws, t, code, rfl, rfl, h⟩
    · rcases hagree headers with ⟨trap, hleft, hright⟩ | ⟨u, v, hleft, hright, huv⟩
      · exact .inl ⟨trap, by rw [hleft]; rfl, by rw [hright]; rfl⟩
      · rw [hleft, hright]
        split
        · rename_i key _
          have hsame := WebSocket.acceptsKey_congr (hkey huv) system key
          exact .inr ⟨u, v, _, rfl, by simp [bind, Except.bind, hsame], huv⟩
        · exact .inr ⟨u, v, -1, rfl, rfl, huv⟩

theorem handshakeReading (h : Beside q q' w w' ws t) (xs : Data) :
    Reader.Alike (Beside q q' w w') (ws.handshakeReading system xs)
      (t.handshakeReading system xs) := by
  have hconnects : ∀ {u v}, Beside q q' w w' u v → Beside q q' w w' u.connect101 v.connect101 := by
    intro u v huv
    refine Beside.callback ?_ _
    cases huv with
    | mk calls ops left right leftOps rightOps => exact .mk calls ops left right leftOps rightOps
  unfold WebSocket.handshakeReading
  dsimp only
  split
  · rcases h.validateResponse system (xs.take (headerEnd 0 0 xs)) with
      ⟨trap, hleft, hright⟩ | ⟨u, v, code, hleft, hright, huv⟩
    · rw [hleft, hright]
      exact .fail trap
    · rw [hleft, hright]
      dsimp only
      split
      · exact .take (hconnects huv) _
      · split
        · exact .wait huv
        · exact .stop (huv.doDisconnect _)
  · exact .wait h

end Beside

namespace Beside

/-- What is queued from now on is queued behind what is there. -/
theorem rebase (h : Beside q q' w w' ws t) :
    ∃ ops, ws.writeQueue = w ++ ops ∧ t.writeQueue = w' ++ ops ∧
      ∀ kept, Beside q q' ws.writeQueue t.writeQueue (ws.keep kept) (t.keep kept) := by
  cases h with
  | mk calls ops left right leftOps rightOps =>
    refine ⟨ops, leftOps, rightOps, fun kept => ?_⟩
    exact .mk calls [] left right (by simp [WebSocket.keep]) (by simp)

/-- The queue of one of them changes, and what compresses its output. -/
theorem requeue (h : Beside q q' w w' ws t) (hw : ws.writeQueue = w) (ops : List WriteOperation)
    (compressor : Option Codec) :
    Beside q q' w ops ws { t with
      writeQueue := ops
      compressionState := { t.compressionState with compressor := compressor } } := by
  cases h with
  | mk calls _ left right _ _ => exact .mk calls [] left right (by simpa using hw) (by simp)

/-- One of them runs a callback. -/
theorem runCallback (h : Beside q [] w w' ws t) {call : Callback} {calls : List Callback}
    (hqueue : t.callbackQueue = call :: calls) :
    Beside (q ++ [call]) [] w w' ws { t with callbackQueue := calls } := by
  cases h with
  | mk others ops left right leftOps rightOps =>
    obtain rfl : call :: calls = others := by simpa using hqueue.symm.trans right
    exact .mk calls ops (by simpa using left) rfl leftOps rightOps

end Beside

/-- **The reader looks at neither queue**, nor at what compresses the output. -/
theorem wire_beside (h : Beside q q' w w' ws t) (xs : Data) :
    Reader.Alike (Beside q q' w w') (wire system ws xs) (wire system t xs) := by
  have hconnected : t.connected = ws.connected := by
    cases h
    rfl
  unfold wire
  rw [hconnected]
  split
  · split
    · exact .wait h
    · exact h.frameReading xs
  · exact h.handshakeReading xs

end Beside

/-! ## 2. What is done meanwhile -/

/-- The input so far. -/
def noteInput (input : Data) (_ : Line) (e : Event) (_ : Line) : Data :=
  match e with
  | .newBytesInStream data _ => input ++ data
  | _ => input

/-- No piece is a single byte outside of frames and messages. -/
def notLone (system : System) (x : Line × Data) (e : Event) : Bool :=
  match e with
  | .newBytesInStream data _ =>
    !isLone system { x.1.socket with fragBuffer := none } (x.1.socket.fragBuffer.getD [] ++ data)
  | _ => true

/-- A socket whose stream has just been opened. -/
def WebSocket.opened (secKey : String) : WebSocket where
  isConnecting := true
  readyToWrite := true
  headerSecKey := secKey
  stream := .isOpen

theorem between_opened (secKey : String) : Between (.opened secKey) :=
  ⟨fun r hr => absurd hr (by simp [WebSocket.opened]), rfl⟩

def WriteOperation.isPong : WriteOperation → Bool
  | .frame _ .pong => true
  | _ => false

/-- The pongs that have gone out, and those that are queued. -/
def Line.pongs (l : Line) : List WriteOperation :=
  (l.sendings.map (fun s => WriteOperation.frame s.data s.code) ++ l.socket.writeQueue).filter
    WriteOperation.isPong

/-- The line has made of the input what the reader makes of it at once. -/
def Line.Follows (system : System) (l : Line) (input : Data) : Prop :=
  ∀ t kept, (wire system).pump (.opened l.socket.headerSecKey) input = .waiting t kept →
    Beside l.called [] t.writeQueue l.socket.writeQueue (t.keep kept) l.socket ∧
      l.pongs = t.writeQueue.filter WriteOperation.isPong

variable {l u : Line} {e : Event} {input : Data}

theorem Line.Follows.requeue (hl : l.Follows system input) (ops : List WriteOperation)
    (compressor : Option Codec) (hsocket : u.socket = { l.socket with
      writeQueue := ops
      compressionState := { l.socket.compressionState with compressor := compressor } })
    (hcalled : u.called = l.called) (hpongs : u.pongs = l.pongs) : u.Follows system input := by
  intro t kept hpump
  rw [hsocket] at hpump
  obtain ⟨hbeside, hl⟩ := hl t kept hpump
  rw [hcalled, hpongs, hsocket]
  exact ⟨hbeside.requeue rfl ops compressor, hl⟩

/-- A piece of the input, whatever is queued. -/
theorem Line.Follows.piece (hl : l.Follows system input) (hlive : l.socket.Live) {data : Data}
    (hdata : data ≠ []) (hlone : isLone system { l.socket with fragBuffer := none }
      (l.socket.fragBuffer.getD [] ++ data) = false)
    (hok : l.socket.dequeueInput system beyond data = .ok ws) :
    Line.Follows system { l with socket := ws } (input ++ data) := by
  intro t' kept' hpump'
  have hkey : ws.headerSecKey = l.socket.headerSecKey :=
    (WebSocket.does_dequeueInput hlive (.inl rfl) hok).headerSecKey
  dsimp only at hpump'
  rw [hkey, Reader.pump_append (wire_lawful system)] at hpump'
  cases hpump : (wire system).pump (.opened l.socket.headerSecKey) input with
  | failed trap => exact absurd hpump' (by simp [hpump])
  | stopped t => exact absurd hpump' (by simp [hpump])
  | waiting t kept =>
    rw [hpump] at hpump'
    obtain ⟨hbeside, hpongs⟩ := hl t kept hpump
    obtain ⟨hcleared, hkept⟩ := keep_cleared ((between_opened _).pump hpump).2 kept
    obtain ⟨hfrag, hclear⟩ := hbeside.fragBuffer
    have hstart := hclear none
    rw [hcleared] at hstart
    have halike := Reader.pump_alike (R := wire system) (fun xs h => wire_beside h xs) hstart
      (kept ++ data)
    rw [WebSocket.dequeueInput_eq hlive.settled hdata hlone, hfrag, hkept] at hok
    dsimp only at hpump'
    rw [hpump'] at halike
    generalize (wire system).pump { l.socket with fragBuffer := none } (kept ++ data) = mine
      at halike hok
    cases halike with
    | @waiting _ v states _ =>
      obtain rfl := Except.ok.inj hok
      obtain ⟨ops, hleft, hright, hbehind⟩ := states.rebase
      refine ⟨hbehind kept', ?_⟩
      have hqueue : (v.keep kept').writeQueue = l.socket.writeQueue ++ ops := hright
      rw [Line.pongs, List.filter_append] at hpongs ⊢
      rw [hqueue, List.filter_append, ← List.append_assoc, hpongs, hleft, List.filter_append]

/-- An operation that is over. -/
theorem Line.Follows.operation (hl : l.Follows system input) {handing : Handing}
    (h : Operated system l u handing) (hover : handing ≠ .cancelled) (hopen : u.next.Open) :
    u.next.Follows system input := by
  cases h with
  | @request data rest len queue fits takes =>
    refine hl.requeue rest l.socket.compressionState.compressor ?_ rfl ?_
    · simp [Line.next, queue]
    · simp [Line.pongs, Line.next, queue, WriteOperation.isPong]
  | @whole rest state sending queue logged prepared size takes =>
    obtain ⟨compressor, -, hkeeps⟩ := WebSocket.prepare_keeps prepared
    obtain rfl := congrArg WebSocket.compressionState hkeeps
    refine hl.requeue rest compressor ?_ rfl ?_
    · simp [Line.next, queue]
    · simp [Line.pongs, Line.next, queue]
  | @part data code rest state frame part later handing queue size bytes missing cut takes =>
    have hbroken : (l.broken || decide (handing = .failed)) = false := hopen.2
    cases handing with
    | done => exact absurd rfl cut
    | cancelled => exact absurd rfl hover
    | failed => exact absurd hbroken (by simp)

/-- How far a line has come: there is input only while its stream is open, or has been. -/
inductive Line.Course (system : System) : Line → Data → Prop
  | fresh : Course system {} []
  | opening (secKey : String) (request : Data) : Course system (.opening secKey request) []
  | connected {l : Line} {input : Data} (sound : l.Sound true)
      (stream : l.socket.stream ≠ .connecting)
      (follows : l.Open → l.Follows system input) : Course system l input

theorem Line.Course.closed (hl : l.Sound true) (hclosed : l.socket.stream = .closed) :
    l.Course system input :=
  .connected hl (fun h => absurd (hclosed.symm.trans h) (by decide)) fun hopen =>
    absurd (hclosed.symm.trans hopen.1) (by decide)

theorem opening_socket (secKey : String) (request : Data) :
    (Line.opening secKey request).socket.stream = .connecting ∧
      (Line.opening secKey request).socket.writeQueue = [] ∧
      (Line.opening secKey request).socket.callbackQueue = [] := ⟨rfl, rfl, rfl⟩

/-- What the app queues is no pong. -/
theorem WebSocket.queues_write (ws : WebSocket) (string : String) :
    ∃ ops, ws.write string = { ws with writeQueue := ws.writeQueue ++ ops } ∧
      ops.filter WriteOperation.isPong = [] := by
  unfold write
  split
  · exact ⟨[.frame (utf8Data string) .textFrame], rfl, rfl⟩
  · exact ⟨[], by simp, rfl⟩

theorem WebSocket.queues_disconnect (ws : WebSocket) :
    ∃ ops, ws.disconnect = { ws with writeQueue := ws.writeQueue ++ ops } ∧
      ops.filter WriteOperation.isPong = [] := by
  unfold disconnect
  split
  · exact ⟨[.frame (writeUint16 CloseCode.normal) .connectionClose], rfl, rfl⟩
  · exact ⟨[], by simp, rfl⟩

/-- With the stream the input begins. -/
theorem follows_streamConnected (secKey : String) (request : Data) :
    Line.Follows system { Line.opening secKey request with
      socket := (Line.opening secKey request).socket.streamConnected none request } [] := by
  intro t kept hpump
  obtain ⟨rfl, rfl⟩ := Pumped.waiting.inj ((WebSocket.pump_nil _).symm.trans hpump)
  exact ⟨.mk [] [] rfl rfl rfl rfl, rfl⟩

theorem Line.Course.step (hl : l.Course system input) (hlone : notLone system (l, input) e = true)
    {u : Line} (hstep : (line system).Step l e u) : u.Course system (noteInput input l e u) := by
  cases hl with
  | fresh =>
    have hstepped : Stepped system {} e u := stepped (.inl rfl) hstep
    have hinput : noteInput [] {} e u = [] := by
      cases hstepped with
      | newBytesInStream stream some_data ok => exact absurd stream (by simp)
      | _ => rfl
    rw [hinput]
    rcases opening_of_stepped hstepped with rfl | ⟨secKey, request, rfl⟩
    · exact .fresh
    · exact .opening secKey request
  | opening secKey request =>
    have hsound := @sound_opening true secKey request
    have hstepped := stepped (.inr hsound.live) hstep
    have hnext := hsound.stepped hstepped
    obtain ⟨hstream, hwrites, hcalls⟩ := opening_socket secKey request
    cases hstepped with
    | connect fresh => exact absurd fresh (by simp [hsound.live.readyToWrite])
    | @streamConnected error stream =>
      cases error with
      | none =>
        exact .connected hnext (by simp [WebSocket.streamConnected]) fun _ =>
          follows_streamConnected secKey request
      | some error => exact .closed hnext (closed_disconnectStream _ (some error)).1
    | newBytesInStream stream some_data ok => exact absurd (hstream.symm.trans stream) (by decide)
    | endEncountered stream queue => exact absurd (hstream.symm.trans stream) (by decide)
    | errorOccurred stream cut => exact absurd (hstream.symm.trans stream) (by decide)
    | write => exact .opening secKey request
    | disconnect => exact .opening secKey request
    | runOperation operated ended =>
      cases operated with
      | request queue fits takes => exact absurd (hwrites.symm.trans queue) (by simp)
      | whole queue logged prepared size takes => exact absurd (hwrites.symm.trans queue) (by simp)
      | part queue size bytes missing cut takes =>
        exact absurd (hwrites.symm.trans queue) (by simp)
    | runCallback queue => exact absurd (hcalls.symm.trans queue) (by simp)
  | connected sound stream follows =>
    have hstepped := stepped (.inr sound.live) hstep
    have hnext := sound.stepped hstepped
    cases hstepped with
    | connect fresh => exact absurd fresh (by simp [sound.live.readyToWrite])
    | streamConnected connecting => exact absurd connecting stream
    | newBytesInStream opened some_data ok =>
      have hstream := (WebSocket.does_dequeueInput sound.live (.inl rfl) ok).stream
      refine .connected hnext (fun h => stream (hstream.symm.trans h)) fun hopen => ?_
      refine (follows ⟨opened, hopen.2⟩).piece sound.live some_data ?_ ok
      simpa [notLone] using hlone
    | endEncountered opened queue => exact .closed hnext (closed_disconnectStream _ none).1
    | errorOccurred opened cut => exact .closed hnext (closed_disconnectStream _ (some _)).1
    | @write string =>
      obtain ⟨ops, hsocket, hpongs⟩ := WebSocket.queues_write l.socket string
      rw [hsocket] at hnext ⊢
      exact .connected hnext stream fun hopen =>
        (follows hopen).requeue (l.socket.writeQueue ++ ops) l.socket.compressionState.compressor
          rfl rfl (by simp [Line.pongs, hpongs])
    | disconnect =>
      obtain ⟨ops, hsocket, hpongs⟩ := WebSocket.queues_disconnect l.socket
      rw [hsocket] at hnext ⊢
      exact .connected hnext stream fun hopen =>
        (follows hopen).requeue (l.socket.writeQueue ++ ops) l.socket.compressionState.compressor
          rfl rfl (by simp [Line.pongs, hpongs])
    | @runOperation maskKey lens v handing operated ended =>
      obtain ⟨hstream, hbroken⟩ := stream_of_operated operated
      refine .connected hnext (fun h => stream (hstream.symm.trans h)) fun hopen => ?_
      exact (follows ⟨hstream.symm.trans hopen.1, hbroken hopen.2⟩).operation operated ended hopen
    | @runCallback call calls queue =>
      refine .connected hnext stream fun hopen t kept hpump => ?_
      obtain ⟨hbeside, hpongs⟩ := follows hopen t kept hpump
      exact ⟨hbeside.runCallback queue, hpongs⟩

/-! ## 3. Every run -/

theorem course_of_run (h : ((line system).withHistory noteInput).RunWhere
    (fun x e => notLone system x e = true) ({}, []) (l, input)) : l.Course system input :=
  h.invariant (I := fun x => x.1.Course system x.2) .fresh fun x e y hx hlone hstep => by
    obtain ⟨hline, hinput⟩ := Machine.withHistory_step.mp hstep
    rw [hinput]
    exact hx.step hlone hline

theorem follows_of_run (h : ((line system).withHistory noteInput).RunWhere
    (fun x e => notLone system x e = true) ({}, []) (l, input)) (hopen : l.Open) :
    l.Follows system input := by
  cases course_of_run h with
  | fresh => exact absurd hopen.1 (by decide)
  | opening secKey request =>
    exact absurd ((opening_socket secKey request).1.symm.trans hopen.1) (by decide)
  | connected sound stream follows => exact follows hopen

theorem told_of_follows (hl : l.Follows system input) {kept : Data}
    (hpump : (wire system).pump (.opened l.socket.headerSecKey) input = .waiting t kept) :
    l.story = t.callbackQueue ∧ l.pongs = t.writeQueue.filter WriteOperation.isPong ∧
      l.socket.connected = t.connected := by
  obtain ⟨hbeside, hpongs⟩ := hl t kept hpump
  refine ⟨?_, hpongs, ?_⟩
  · unfold Line.story
    generalize l.socket = ws at hbeside ⊢
    cases hbeside with
    | mk calls ops left right leftOps rightOps =>
      dsimp only
      rw [right, List.nil_append]
      exact left.symm
  · generalize l.socket = ws at hbeside ⊢
    cases hbeside
    rfl

/-- **What the delegate hears depends on the input alone**: in any run, as long as the stream is
open, no write on it has failed and the input is not refused, what has been called and will be is
what the reader makes of all of the input at once; and so are the pongs that are owed. -/
theorem story_of_input (h : ((line system).withHistory noteInput).RunWhere
    (fun x e => notLone system x e = true) ({}, []) (l, input)) (hopen : l.Open) {kept : Data}
    (hpump : (wire system).pump (.opened l.socket.headerSecKey) input = .waiting t kept) :
    l.story = t.callbackQueue ∧ l.pongs = t.writeQueue.filter WriteOperation.isPong ∧
      l.socket.connected = t.connected :=
  told_of_follows (follows_of_run h hopen) hpump

/-- The calls of a reader that waits for more. -/
def waitingCalls : Pumped WebSocket UInt8 Trap → Option (List Callback)
  | .waiting t _ => some t.callbackQueue
  | .stopped _ => none
  | .failed _ => none

/-- The connection and a text, while another is written and goes out. -/
theorem run_of_talking : ∃ l, ((line .withoutZlib).withHistory noteInput).RunWhere
      (fun x e => notLone .withoutZlib x e = true) ({}, [])
      (l, switching ++ [0x81, 2, 104, 105]) ∧
    l.Open ∧ l.socket.headerSecKey = "dGhlIHNhbXBsZSBub25jZQ==" := by
  obtain ⟨⟨l, input⟩, hrun, htest⟩ :=
    ((line .withoutZlib).withHistory noteInput).exists_run_of_replay (notLone .withoutZlib) ({}, [])
      talking (fun x => decide (x.2 = switching ++ [0x81, 2, 104, 105]) &&
        decide (x.1.socket.stream = .isOpen) && decide (x.1.broken = false) &&
        decide (x.1.socket.headerSecKey = "dGhlIHNhbXBsZSBub25jZQ==")) (fun _ _ h => h)
      (by decide +kernel)
  simp only [Bool.and_eq_true, decide_eq_true_eq] at htest
  obtain ⟨⟨⟨rfl, hstream⟩, hbroken⟩, hkey⟩ := htest
  exact ⟨l, hrun, ⟨hstream, hbroken⟩, hkey⟩

theorem story_while_talking : ∃ l : Line, l.Open ∧
    l.story = [.didConnect, .didReceiveMessage "hi"] := by
  obtain ⟨l, hrun, hopen, hkey⟩ := run_of_talking
  have hreads : waitingCalls ((wire .withoutZlib).pump (.opened l.socket.headerSecKey)
      (switching ++ [0x81, 2, 104, 105])) = some [.didConnect, .didReceiveMessage "hi"] := by
    rw [hkey]
    decide +kernel
  cases hpump : (wire .withoutZlib).pump (.opened l.socket.headerSecKey)
      (switching ++ [0x81, 2, 104, 105]) with
  | waiting t kept =>
    obtain ⟨hstory, -⟩ := story_of_input hrun hopen hpump
    rw [hpump] at hreads
    exact ⟨l, hopen, hstory.trans (Option.some.inj hreads)⟩
  | stopped t => exact absurd hreads (by simp [hpump, waitingCalls])
  | failed trap => exact absurd hreads (by simp [hpump, waitingCalls])

/-- All that is owed is pongs. -/
theorem filter_owed (hs : List Heard) : (owed hs).filter WriteOperation.isPong = owed hs := by
  rw [List.filter_eq_self]
  intro op hop
  obtain ⟨heard, -, hheard⟩ := List.mem_filterMap.mp hop
  cases heard with
  | told call => exact absurd hheard (by simp)
  | pinged data =>
    obtain rfl := Option.some.inj hheard
    rfl

/-- An answer that is accepted, and what comes after it. -/
theorem pump_of_answer {secKey : String} {answer : Data} {answered : WebSocket}
    (hanswer : response? answer = some answer)
    (haccepts : WebSocket.validateResponse (.opened secKey) system answer = .ok (answered, 0)) :
    ∃ t : WebSocket, t.Listens ⟨none, answered.compressionState⟩ ∧ t.readyToWrite = true ∧
      t.callbackQueue = [.didConnect] ∧ t.writeQueue = [] ∧
      ∀ xs, (wire system).pump (.opened secKey) (answer ++ xs) = (wire system).pump t xs := by
  unfold response? at hanswer
  split at hanswer
  · rename_i hend
    have hlen : headerEnd 0 0 answer = answer.length := by
      have hsame := congrArg List.length (Option.some.inj hanswer)
      have hle := headerEnd_le 0 0 answer
      rw [List.length_take] at hsame
      omega
    have htake : wire system (.opened secKey) answer = .take answered.connect101 answer.length := by
      rw [wire_of_not_connected rfl]
      simp [WebSocket.handshakeReading, hlen, haccepts, hlen ▸ hend]
    obtain ⟨-, state, rfl, -⟩ := WebSocket.validateResponse_keeps haccepts
    refine ⟨WebSocket.connect101 { WebSocket.opened secKey with compressionState := state },
      ⟨rfl, rfl, rfl⟩, rfl, rfl, rfl, fun xs => ?_⟩
    rw [Reader.pump_of_take (wire_lawful system) ((wire_lawful system).take_append xs htake),
      List.drop_left]
  · exact absurd hanswer (by simp)

/-- A part of an answer is kept. -/
theorem pump_of_answer_part {secKey : String} {more : Data}
    (hanswer : response? (xs ++ more) = some (xs ++ more)) (hmore : more ≠ []) :
    (wire system).pump (.opened secKey) xs = .waiting (.opened secKey) xs := by
  refine Reader.pump_of_wait ?_
  have hnone : ¬0 < headerEnd 0 0 xs := by
    intro hend
    have happend := headerEnd_append hend more
    have hle := headerEnd_le 0 0 xs
    unfold response? at hanswer
    rw [happend, if_pos hend] at hanswer
    have hlen := congrArg List.length (Option.some.inj hanswer)
    have hpos := List.length_pos_iff.mpr hmore
    rw [List.length_take, List.length_append] at hlen
    omega
  rw [wire_of_not_connected rfl]
  simp [WebSocket.handshakeReading, hnone]

/-- What a line has told after the answer. -/
theorem told_of_answer (hl : l.Follows system input) {answer : Data}
    {answered : WebSocket} (hanswer : response? answer = some answer)
    (haccepts : WebSocket.validateResponse (.opened l.socket.headerSecKey) system answer =
      .ok (answered, 0)) (hinput : input = answer ++ xs) :
    ∃ t : WebSocket, t.Listens ⟨none, answered.compressionState⟩ ∧ t.readyToWrite = true ∧
      ∀ u kept calls ops, (wire system).pump t xs = .waiting u kept →
        u.callbackQueue = t.callbackQueue ++ calls → u.writeQueue = t.writeQueue ++ ops →
        l.story = .didConnect :: calls ∧ l.pongs = ops.filter WriteOperation.isPong := by
  obtain ⟨t, hlistens, hready, hcalls, hwrites, hanswered⟩ := pump_of_answer hanswer haccepts
  refine ⟨t, hlistens, hready, fun u kept calls ops hpump hmore hops => ?_⟩
  obtain ⟨hstory, hpongs, -⟩ := told_of_follows hl (by rw [hinput, hanswered, hpump])
  refine ⟨?_, ?_⟩
  · rw [hstory, hmore, hcalls]
    rfl
  · rw [hpongs, hops, hwrites, List.nil_append]

/-- Where the input ends, within the answer or behind it. -/
theorem answer_cases (hl : l.Follows system input) {answer rest said : Data}
    (hanswer : response? answer = some answer) (hinput : input ++ rest = answer ++ said) :
    input.length < answer.length ∧ l.story = [] ∨
      ∃ xs, input = answer ++ xs ∧ xs ++ rest = said := by
  rcases List.append_eq_append_iff.mp hinput with ⟨more, rfl, hrest⟩ | ⟨xs, hxs, hrest⟩
  · by_cases hmore : more = []
    · exact .inr ⟨[], by simp [hmore], by simpa [hmore] using hrest⟩
    · obtain ⟨hstory, -⟩ := told_of_follows hl (pump_of_answer_part hanswer hmore)
      refine .inl ⟨?_, hstory⟩
      rw [List.length_append]
      have := List.length_pos_iff.mpr hmore
      omega
  · exact .inr ⟨xs, hxs, hrest.symm⟩

/-- Whether a message is compressed is not said in the answer. -/
theorem not_needsDecompression_of_answer {secKey : String} {answer : Data} {answered : WebSocket}
    (haccepts : WebSocket.validateResponse (.opened secKey) system answer = .ok (answered, 0)) :
    answered.compressionState.messageNeedsDecompression = false := by
  rcases WebSocket.negotiates_validateResponse haccepts with hstate | ⟨header, hheader⟩
  · rw [hstate]
    rfl
  · exact (CompressionState.processExtensionHeader_twice hheader).2

/-- **Every message is told, and every ping answered, in any run**: when the bytes so far are the
answer to the upgrade and what a server has to say, as far as it has come, compressed as was agreed
on in the answer, and with no ping or pong within a compressed message, then the delegate has heard
or will hear of the connection and of exactly those messages that are there to their last byte, in
their order; and a pong is owed or has gone out for each ping among them.  The stream is open, and
no write on it has failed. -/
theorem messages_of_run (h : ((line system).withHistory noteInput).RunWhere
    (fun x e => notLone system x e = true) ({}, []) (l, input)) (hopen : l.Open)
    {answer rest : Data} {answered : WebSocket} {fs : List Frame} {hs : List Heard} {c : Talk}
    (hanswer : response? answer = some answer)
    (haccepts : WebSocket.validateResponse (.opened l.socket.headerSecKey) system answer =
      .ok (answered, 0)) (htalks : Talks system ⟨none, answered.compressionState⟩ fs hs c)
    (hinput : input ++ rest = answer ++ fs.flatMap Frame.bytes) :
    input.length < answer.length ∧ l.story = [] ∨
      ∃ gs later ks js part e, fs = gs ++ later ∧ hs = ks ++ js ∧
        Talks system ⟨none, answered.compressionState⟩ gs ks e ∧
        input = answer ++ (gs.flatMap Frame.bytes ++ part) ∧
        (∀ f ∈ later.head?, part.length < f.bytes.length) ∧
        l.story = .didConnect :: told ks ∧ l.pongs = owed ks := by
  have hl := follows_of_run h hopen
  rcases answer_cases hl hanswer hinput with hwaits | ⟨xs, hxs, hrest⟩
  · exact .inl hwaits
  · obtain ⟨t, hlistens, hready, htold⟩ := told_of_answer hl hanswer haccepts hxs
    have hflag : Talk.Flagged ⟨none, answered.compressionState⟩
        answered.compressionState.messageNeedsDecompression :=
      ⟨fun _ => not_needsDecompression_of_answer haccepts, by simp⟩
    obtain ⟨gs, later, ks, js, part, e, u, hfs, hhs, htalked, -, hpart, hshort, hpump, hcalls,
      hwrites⟩ := pump_of_talk hlistens hready hflag htalks hrest
    obtain ⟨hstory, hpongs⟩ := htold u part _ _ hpump hcalls hwrites
    rw [filter_owed] at hpongs
    exact .inr ⟨gs, later, ks, js, part, e, hfs, hhs, htalked, by rw [hxs, hpart], hshort, hstory,
      hpongs⟩

/-- The answer that agrees on compression is accepted. -/
theorem accepts_switchingZipped :
    WebSocket.validateResponse (.opened "dGhlIHNhbXBsZSBub25jZQ==") .hello switchingZipped =
      .ok ({ WebSocket.opened "dGhlIHNhbXBsZSBub25jZQ==" with
        compressionState := zipping }, 0) := by
  decide +kernel

/-- A compressed text in two frames has come in. -/
theorem run_of_talkingZipped : ∃ l : Line, ((line .hello).withHistory noteInput).RunWhere
      (fun x e => notLone .hello x e = true) ({}, [])
      (l, switchingZipped ++ [0x41, 3, 0xF2, 0x48, 0xCD, 0x80, 4, 0xC9, 0xC9, 0x07, 0x00]) ∧
    l.Open ∧ l.socket.headerSecKey = "dGhlIHNhbXBsZSBub25jZQ==" := by
  obtain ⟨⟨l, input⟩, hrun, htest⟩ :=
    ((line .hello).withHistory noteInput).exists_run_of_replay (notLone .hello) ({}, [])
      talkingZipped (fun x => decide (x.2 = switchingZipped ++
          [0x41, 3, 0xF2, 0x48, 0xCD, 0x80, 4, 0xC9, 0xC9, 0x07, 0x00]) &&
        decide (x.1.socket.stream = .isOpen) && decide (x.1.broken = false) &&
        decide (x.1.socket.headerSecKey = "dGhlIHNhbXBsZSBub25jZQ==")) (fun _ _ h => h)
      (by decide +kernel)
  simp only [Bool.and_eq_true, decide_eq_true_eq] at htest
  obtain ⟨⟨⟨rfl, hstream⟩, hbroken⟩, hkey⟩ := htest
  exact ⟨l, hrun, ⟨hstream, hbroken⟩, hkey⟩

/-- What was agreed on, when so much has been inflated. -/
def zippingAfter (done : Data) : CompressionState :=
  { zipping with decompressor := some { windowBits := 15, done } }

/-- The two frames of the text. -/
def helloFrames : List Frame :=
  [serverFrame false true .textFrame [0xF2, 0x48, 0xCD],
    serverFrame true false .continueFrame [0xC9, 0xC9, 0x07, 0x00]]

theorem talks_hello : Talks .hello ⟨none, zipping⟩ helloFrames
    [.told (.didReceiveMessage "Hello")] ⟨none, zippingAfter zipped⟩ := by
  have hfirst : Unpacks .hello zipping false true [0xF2, 0x48, 0xCD] [0x48, 0x65]
      (zippingAfter [0xF2, 0x48, 0xCD]) :=
    .inflated (by decide) rfl rfl (by decide +kernel)
  have hlast : Unpacks .hello (zippingAfter [0xF2, 0x48, 0xCD]) true true
      [0xC9, 0xC9, 0x07, 0x00] [0x6C, 0x6C, 0x6F] (zippingAfter zipped) :=
    .inflated (by decide) rfl rfl (by decide +kernel)
  exact .cons (.first hfirst (.inl rfl)) (.cons (.last hlast (by decide +kernel)) (.nil _))

theorem message_while_talking : ∃ (l : Line) (ks : List Heard), l.Open ∧
    l.story = .didConnect :: told ks ∧ l.pongs = owed ks := by
  obtain ⟨l, hrun, hopen, hkey⟩ := run_of_talkingZipped
  have hresponse : response? switchingZipped = some switchingZipped := by decide +kernel
  have hinput : (switchingZipped ++ [0x41, 3, 0xF2, 0x48, 0xCD, 0x80, 4, 0xC9, 0xC9, 0x07, 0x00]) ++
      [] = switchingZipped ++ helloFrames.flatMap Frame.bytes := by
    decide +kernel
  rcases messages_of_run hrun hopen hresponse (hkey ▸ accepts_switchingZipped) talks_hello
    hinput with
    ⟨hshort, -⟩ | ⟨gs, later, ks, js, part, e, -, -, -, -, -, hstory, hpongs⟩
  · exact absurd hshort (by decide +kernel)
  · exact ⟨l, ks, hopen, hstory, hpongs⟩

/-- **Texts are told one by one, in any run** with an open stream on which no write has failed,
compressed or not, and into however many frames each is cut: the delegate has heard or will hear
exactly those that are there to their last byte, in their order. -/
theorem texts_of_run (h : ((line system).withHistory noteInput).RunWhere
    (fun x e => notLone system x e = true) ({}, []) (l, input)) (hopen : l.Open)
    {answer rest : Data} {answered : WebSocket} {sents : List SentText} {s : CompressionState}
    (hanswer : response? answer = some answer)
    (haccepts : WebSocket.validateResponse (.opened l.socket.headerSecKey) system answer =
      .ok (answered, 0)) (htexts : Texts system answered.compressionState sents s)
    (hinput : input ++ rest = answer ++ sents.flatMap SentText.bytes) :
    input.length < answer.length ∧ l.story = [] ∨
      ∃ before after part, sents = before ++ after ∧
        input = answer ++ (before.flatMap SentText.bytes ++ part) ∧
        (∀ sent ∈ after.head?, part.length < sent.bytes.length) ∧
        l.story = .didConnect :: before.map fun sent => .didReceiveMessage sent.text := by
  have hl := follows_of_run h hopen
  rcases answer_cases hl hanswer hinput with hwaits | ⟨xs, hxs, hrest⟩
  · exact .inl hwaits
  · obtain ⟨t, hlistens, hready, htold⟩ := told_of_answer hl hanswer haccepts hxs
    obtain ⟨before, after, part, u, kept, hsents, hpart, hshort, hpump, hcalls, hwrites⟩ :=
      pump_of_texts hlistens hready htexts hrest
    obtain ⟨hstory, -⟩ := htold u kept _ [] hpump hcalls (by simpa using hwrites)
    exact .inr ⟨before, after, part, hsents, by rw [hxs, hpart], hshort, hstory⟩

/-- A compressed text in two frames. -/
theorem text_while_talking : ∃ (l : Line) (before : List SentText), l.Open ∧
    l.story = .didConnect :: before.map fun sent => .didReceiveMessage sent.text := by
  obtain ⟨l, hrun, hopen, hkey⟩ := run_of_talkingZipped
  have hresponse : response? switchingZipped = some switchingZipped := by decide +kernel
  let sent : SentText := ⟨"Hello", true, [[0xF2, 0x48, 0xCD], [0xC9, 0xC9, 0x07, 0x00]]⟩
  let state (needs : Bool) (done : Data) : CompressionState := { zipping with
    messageNeedsDecompression := needs, decompressor := some { windowBits := 15, done } }
  have hfirst : Carries .hello zipping false true .textFrame [0xF2, 0x48, 0xCD] [0x48, 0x65]
      (state true [0xF2, 0x48, 0xCD]) := ⟨by decide, by decide, by decide +kernel⟩
  have hlast : Carries .hello (state true [0xF2, 0x48, 0xCD]) true false .continueFrame
      [0xC9, 0xC9, 0x07, 0x00] [0x6C, 0x6C, 0x6F] (state true zipped) :=
    ⟨by decide, by decide, by decide +kernel⟩
  have htexts : Texts .hello zipping [sent] (state true zipped) :=
    .cons (.parts hfirst (.last hlast)) (.nil _)
  have hinput : (switchingZipped ++ [0x41, 3, 0xF2, 0x48, 0xCD, 0x80, 4, 0xC9, 0xC9, 0x07, 0x00]) ++
      [] = switchingZipped ++ [sent].flatMap SentText.bytes := by decide +kernel
  rcases texts_of_run hrun hopen hresponse (hkey ▸ accepts_switchingZipped) htexts
    hinput with ⟨hshort, -⟩ | ⟨before, after, part, -, -, -, hstory⟩
  · exact absurd hshort (by decide +kernel)
  · exact ⟨l, before, hopen, hstory⟩

end Starscream
