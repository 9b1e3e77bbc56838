/-
# The life of a socket

`WebSocketManager.swift` makes a socket, connects it at once and never again.  After that there are
four places from which it is used: the app writes and disconnects; the stream has bytes, or an
error, or its end; `writeQueue` runs an operation; the main queue runs a callback.  `line` is these
as one machine, with what the stream has taken and what the delegate has been called with.

A step is one handler from beginning to end: the three queues are taken to run one at a time.  The
source does not see to that where a connection ends (`doDisconnect` takes no lock around its test of
`didDisconnect`), so that a write may fail while a piece of the input is being read; that is not in
the model.

* `told_of_run`: the delegate is told what `Told.hears` allows, and in the end what is the case;
* `traps_iff_of_run`: when the app stops.
-/
import WeatherAccommodation.Starscream.Messages
import WeatherAccommodation.Starscream.Output
import WeatherAccommodation.Starscream.Told

namespace Starscream

open Reactive Streaming WireFormat

/-! ## 1. The methods -/

namespace WebSocket

def cleanupStream (ws : WebSocket) : WebSocket := { ws with stream := .closed, fragBuffer := none }

/-- `disconnectStream`, which waits for the operations where there is no error, and else cancels
them. -/
def disconnectStream (ws : WebSocket) (error : Option SocketError) (runDelegate : Bool) :
    WebSocket :=
  let ws := if error.isSome then { ws with writeQueue := [] } else ws
  let ws := { ws.cleanupStream with connected := false }
  if runDelegate then ws.doDisconnect error else ws

/-- `connect`, with `createHTTPRequest` and `initStreamsWithData` -/
def connect (ws : WebSocket) (secKey : String) : WebSocket :=
  if ws.isConnecting then ws
  else
    let ws := { ws with didDisconnect := false, isConnecting := true, headerSecKey := secKey }
    { ws.disconnectStream none false with stream := .connecting, readyToWrite := true }

/-- The completion of `stream.connect`, with the request. -/
def streamConnected (ws : WebSocket) (error : Option SocketError) (data : Data) : WebSocket :=
  match error with
  | some error => ws.disconnectStream (some error) true
  | none => { ws with stream := .isOpen, writeQueue := ws.writeQueue ++ [.request data] }

/-- What a write that fails is reported as. -/
def writeFailed : WSError where
  type := .outputStreamWriteError
  message := "output stream had an error during write"
  code := 0

/-- `write(string:)` -/
def write (ws : WebSocket) (string : String) : WebSocket :=
  if ws.connected then ws.dequeueWrite (utf8Data string) .textFrame else ws

/-- `disconnect`, with no timeout -/
def disconnect (ws : WebSocket) : WebSocket :=
  if ws.connected then ws.writeError CloseCode.normal else ws

end WebSocket

/-! ## 2. The machine -/

/-- A frame that has gone out, what it was made for, and the state of compression it was made in. -/
structure Sending where
  data : Data
  code : OpCode
  state : CompressionState
  frame : Frame

structure Line where
  socket : WebSocket := {}
  /-- What `createHTTPRequest` has made. -/
  request : Data := []
  /-- A write of the stream has failed; so will all that follow. -/
  broken : Bool := false
  /-- How much of the request the stream has taken. -/
  requested : Nat := 0
  /-- What it has taken. -/
  sent : Data := []
  sendings : List Sending := []
  /-- What was written while the socket was connected. -/
  texts : List String := []
  /-- What the delegate has been called with. -/
  called : List Callback := []

inductive Event where
  | connect (secKey : String) (request : Data)
  | streamConnected (error : Option SocketError)
  | newBytesInStream (data : Data) (beyond : Nat → UInt8)
  /-- The end of the stream. -/
  | endEncountered
  /-- An error of the stream, with what has become of the operation under way until then. -/
  | errorOccurred (code : Int) (maskKey : MaskKey) (lens : List Int)
  | write (string : String)
  | disconnect
  /-- The next operation runs, with what the stream says each time it is offered something. -/
  | runOperation (maskKey : MaskKey) (lens : List Int)
  | runCallback

namespace Line

variable (system : System)

/-- What a stream may say: one that is closed or has failed takes nothing. -/
def mayAnswer (l : Line) (lens : List Int) : Bool :=
  (l.socket.stream == .isOpen && !l.broken) || lens.all (· ≤ 0)

/-- The request is handed over once, and nobody looks at what becomes of it. -/
def sendRequest (l : Line) (data : Data) (lens : List Int) : Option Line :=
  match lens with
  | [len] =>
    if data.length < len.toNat then none
    else some { l with
      broken := l.broken || decide (len ≤ 0), requested := len.toNat
      sent := l.sent ++ data.take len.toNat }
  | _ => none

/-- The block of `dequeueWrite`. -/
def sendFrame (l : Line) (data : Data) (code : OpCode) (maskKey : MaskKey) (lens : List Int) :
    Option (Except Trap (Line × Handing)) :=
  match l.socket.prepare system data code with
  | .error trap => some (.error trap)
  | .ok (ws, firstByte, payload) =>
    if !ws.readyToWrite then
      if lens = [] then
        some (.ok
          ({ l with socket := ws.doDisconnect (some (.ws WebSocket.writeFailed)) }, .failed))
      else none
    -- a count of bytes is an `Int`
    else if 2 ^ 63 ≤ payload.length then none
    else
      let bytes := frameBytes firstByte maskKey payload
      (handOver bytes.length 0 lens).map fun handed =>
        .ok (match handed.2 with
          | .done => { l with
              socket := ws, sent := l.sent ++ bytes
              sendings := l.sendings ++ [⟨data, code, l.socket.compressionState,
                { head := firstByte, maskKey := some maskKey, payload := payload }⟩] }
          | .failed => { l with
              socket := ws.doDisconnect (some (.ws WebSocket.writeFailed))
              broken := true, sent := l.sent ++ bytes.take handed.1 }
          | .cancelled => { l with socket := ws, sent := l.sent ++ bytes.take handed.1 },
          handed.2)

/-- The operation at the head of `writeQueue`. -/
def operate (l : Line) (maskKey : MaskKey) (lens : List Int) :
    Option (Except Trap (Line × Handing)) :=
  match l.socket.writeQueue with
  | [] => none
  | .request data :: _ => (l.sendRequest data lens).map fun l => .ok (l, .done)
  | .frame data code :: _ => l.sendFrame system data code maskKey lens

/-- The operation is over. -/
def next (l : Line) : Line :=
  { l with socket := { l.socket with writeQueue := l.socket.writeQueue.tail } }

end Line

/-- A socket in the hands of the app, of the stream and of the two queues. -/
def line (system : System) : Machine Line Event Trap where
  react l e :=
    match e with
    | .connect secKey request =>
      if l.socket.readyToWrite then none
      else some (.ok { l with socket := l.socket.connect secKey, request })
    | .streamConnected error =>
      if l.socket.stream = .connecting then
        some (.ok { l with socket := l.socket.streamConnected error l.request })
      else none
    | .newBytesInStream data beyond =>
      if l.socket.stream = .isOpen ∧ data ≠ [] then
        some ((l.socket.dequeueInput system beyond data).map fun ws => { l with socket := ws })
      else none
    | .endEncountered =>
      -- the operations are waited for
      if l.socket.stream = .isOpen ∧ l.socket.writeQueue = [] then
        some (.ok { l with socket := l.socket.disconnectStream none true })
      else none
    | .errorOccurred code maskKey lens =>
      if l.socket.stream = .isOpen then
        let cut := fun l : Line =>
          { l with socket := l.socket.disconnectStream (some (.stream code)) true }
        if lens = [] then some (.ok (cut l))
        else if l.mayAnswer lens then
          match l.operate system maskKey lens with
          | some (.ok (l, .cancelled)) => some (.ok (cut l))
          | some (.error trap) => some (.error trap)
          | _ => none
        else none
      else none
    | .write string =>
      some (.ok { l with
        socket := l.socket.write string
        texts := if l.socket.connected then l.texts ++ [string] else l.texts })
    | .disconnect => some (.ok { l with socket := l.socket.disconnect })
    | .runOperation maskKey lens =>
      if l.mayAnswer lens then
        match l.operate system maskKey lens with
        | some (.ok (_, .cancelled)) => none
        | some (.ok (l, _)) => some (.ok l.next)
        | some (.error trap) => some (.error trap)
        | none => none
      else none
    | .runCallback =>
      match l.socket.callbackQueue with
      | [] => none
      | call :: calls =>
        some (.ok { l with
          socket := { l.socket with callbackQueue := calls }, called := l.called ++ [call] })

variable {system : System} {again : Bool} {ws : WebSocket} {l t : Line} {e : Event}

/-! ## 3. Operations -/

/-- The stream takes something. -/
def Line.Open (l : Line) : Prop := l.socket.stream = .isOpen ∧ l.broken = false

theorem open_of_mayAnswer {lens : List Int} (h : l.mayAnswer lens = true) {len : Int}
    (hlen : len ∈ lens) (hpos : 0 < len) : l.Open := by
  rcases Bool.or_eq_true_iff.mp h with hopen | hnone
  · simpa [Line.Open] using hopen
  · have := (List.all_eq_true.mp hnone) len hlen
    simp only [decide_eq_true_eq] at this
    omega

/-- What is handed over is taken by a stream. -/
theorem exists_pos_of_handOver {size total n : Nat} {lens : List Int} {handing : Handing}
    (h : handOver size total lens = some (n, handing)) (hlt : total < n) :
    ∃ len ∈ lens, 0 < len := by
  cases lens with
  | nil =>
    obtain ⟨rfl, -⟩ := Prod.mk.inj (Option.some.inj h)
    omega
  | cons len lens =>
    refine ⟨len, by simp, ?_⟩
    by_contra hneg
    simp only [handOver] at h
    rw [if_pos (by omega)] at h
    split at h
    · obtain ⟨rfl, -⟩ := Prod.mk.inj (Option.some.inj h)
      omega
    · exact absurd h (by simp)

/-- What an operation leaves behind, while it is still at the head of the queue. -/
inductive Operated (system : System) (l : Line) : Line → Handing → Prop
  | request {data : Data} {rest : List WriteOperation} {len : Int}
      (queue : l.socket.writeQueue = .request data :: rest) (fits : len.toNat ≤ data.length)
      (takes : 0 < len → l.Open) :
      Operated system l { l with
        broken := l.broken || decide (len ≤ 0), requested := len.toNat
        sent := l.sent ++ data.take len.toNat } .done
  | whole {rest : List WriteOperation} {state : CompressionState} {sending : Sending}
      (queue : l.socket.writeQueue = .frame sending.data sending.code :: rest)
      (logged : sending.state = l.socket.compressionState)
      (prepared : l.socket.prepare system sending.data sending.code =
        .ok ({ l.socket with compressionState := state }, sending.frame.head,
          sending.frame.payload))
      (size : sending.frame.payload.length < 2 ^ 64) (takes : l.Open) :
      Operated system l { l with
        socket := { l.socket with compressionState := state }
        sent := l.sent ++ sending.frame.bytes, sendings := l.sendings ++ [sending] } .done
  | part {data : Data} {code : OpCode} {rest : List WriteOperation} {state : CompressionState}
      {frame : Frame} {part later : Data} {handing : Handing}
      (queue : l.socket.writeQueue = .frame data code :: rest)
      (size : frame.payload.length < 2 ^ 64) (bytes : frame.bytes = part ++ later)
      (missing : later ≠ []) (cut : handing ≠ .done) (takes : part ≠ [] → l.Open)
      (keeps : ∃ compressor, compressor.isSome = l.socket.compressionState.compressor.isSome ∧
        state = { l.socket.compressionState with compressor := compressor }) :
      Operated system l { l with
        socket := if handing = .failed then
            WebSocket.doDisconnect { l.socket with compressionState := state }
              (some (.ws WebSocket.writeFailed))
          else { l.socket with compressionState := state }
        broken := l.broken || decide (handing = .failed), sent := l.sent ++ part } handing

theorem operated {maskKey : MaskKey} {lens : List Int} {handing : Handing}
    (hlive : l.socket.Live) (hmay : l.mayAnswer lens = true)
    (h : l.operate system maskKey lens = some (.ok (t, handing))) :
    Operated system l t handing := by
  unfold Line.operate at h
  split at h
  · exact absurd h (by simp)
  · rename_i data rest hqueue
    obtain ⟨u, hu, hpair⟩ := Option.map_eq_some_iff.mp h
    obtain ⟨rfl, rfl⟩ := Prod.mk.inj (Except.ok.inj hpair)
    unfold Line.sendRequest at hu
    split at hu
    · rename_i len
      split at hu
      · exact absurd hu (by simp)
      · obtain rfl := Option.some.inj hu
        exact .request hqueue (by omega) fun hpos => open_of_mayAnswer hmay (by simp) hpos
    · exact absurd hu (by simp)
  · rename_i data code rest hqueue
    unfold Line.sendFrame at h
    split at h
    · exact absurd h (by simp)
    · rename_i ws firstByte payload hprepared
      obtain ⟨compressor, hsome, rfl⟩ := WebSocket.prepare_keeps hprepared
      rw [if_neg (by simpa using hlive.readyToWrite)] at h
      split at h
      · exact absurd h (by simp)
      · rename_i hsize
        have hframe : frameBytes firstByte maskKey payload =
            Frame.bytes ⟨firstByte, some maskKey, payload⟩ := frameBytes_eq _ _ (by omega)
        dsimp only at h
        rw [hframe] at h
        obtain ⟨⟨n, ended⟩, hover, hpair⟩ := Option.map_eq_some_iff.mp h
        have hpos : 0 < (Frame.bytes ⟨firstByte, some maskKey, payload⟩).length := by
          rw [Frame.length_bytes]
          omega
        obtain ⟨rfl, rfl⟩ := Prod.mk.inj (Except.ok.inj hpair)
        dsimp only at hover ⊢
        rcases handOver_cases hpos hover with ⟨rfl, rfl⟩ | ⟨hcut, hlt⟩
        · obtain ⟨len, hlen, hlenpos⟩ := exists_pos_of_handOver hover hpos
          exact @Operated.whole system l rest _
            ⟨data, code, l.socket.compressionState, ⟨firstByte, some maskKey, payload⟩⟩
            hqueue rfl hprepared (by dsimp only; omega) (open_of_mayAnswer hmay hlen hlenpos)
        · have hsplit :=
            (List.take_append_drop n (Frame.bytes ⟨firstByte, some maskKey, payload⟩)).symm
          have hmissing : (Frame.bytes ⟨firstByte, some maskKey, payload⟩).drop n ≠ [] :=
            List.ne_nil_of_length_pos (by rw [List.length_drop]; omega)
          have htakes : (Frame.bytes ⟨firstByte, some maskKey, payload⟩).take n ≠ [] → l.Open := by
            intro hpart
            have hn : 0 < n := by
              by_contra hzero
              exact hpart (by simp [show n = 0 by omega])
            obtain ⟨len, hlen, hlenpos⟩ := exists_pos_of_handOver hover hn
            exact open_of_mayAnswer hmay hlen hlenpos
          have hpart := @Operated.part system l data code rest
            { l.socket.compressionState with compressor := compressor }
            ⟨firstByte, some maskKey, payload⟩ _ _ ended hqueue (by dsimp only; omega) hsplit
            hmissing hcut htakes ⟨compressor, hsome, rfl⟩
          cases ended with
          | done => exact absurd rfl hcut
          | failed => simpa using hpart
          | cancelled => simpa using hpart

/-! ## 4. What the delegate is told -/

namespace WebSocket

/-- What is queued from one state to the other may be told. -/
structure Tells (again : Bool) (ws t : WebSocket) : Prop where
  live : t.Live
  calls : ∃ calls, t.callbackQueue = ws.callbackQueue ++ calls ∧
    calls.foldlM (Told.hears again) ws.told = some t.told

theorem Does.tells {t : WebSocket} (h : Does again ws t) : Tells again ws t := ⟨h.live, h.calls⟩

theorem Tells.silent {t : WebSocket} (hlive : ws.Live) (hconnected : t.connected = ws.connected)
    (hdid : t.didDisconnect = ws.didDisconnect) (hready : t.readyToWrite = ws.readyToWrite)
    (hstack : t.readStack = ws.readStack) (hcalls : t.callbackQueue = ws.callbackQueue) :
    Tells again ws t where
  live := by
    refine ⟨hready.trans hlive.readyToWrite, fun h => ?_, fun r hr => hlive.settled r (hstack ▸ hr)⟩
    rw [hconnected] at h
    rw [hdid]
    exact hlive.didDisconnect h
  calls := ⟨[], by simp [hcalls], by simp [told, hconnected, hdid]⟩

/-- The end is told, if it has not been; what else of the socket is gone by then does not matter. -/
theorem tells_doDisconnect (t : WebSocket) (hlive : ws.Live)
    (hdid : t.didDisconnect = ws.didDisconnect) (hready : t.readyToWrite = ws.readyToWrite)
    (hstack : t.readStack = ws.readStack) (hcalls : t.callbackQueue = ws.callbackQueue)
    (hconnected : t.connected = true → ws.connected = true) (error : Option SocketError) :
    Tells again ws (t.doDisconnect error) := by
  have hset := hready.trans hlive.readyToWrite
  have hoff : ws.didDisconnect = true → ws.connected = false := by
    intro h
    by_contra hon
    have := hlive.didDisconnect (by simpa using hon)
    simp [h] at this
  cases h : ws.didDisconnect with
  | true =>
    have hsame : t.doDisconnect error = t := by simp [doDisconnect, hdid, h]
    have ht : t.connected = false := by
      by_contra hon
      simp [hconnected (by simpa using hon)] at hoff
      simp [h] at hoff
    rw [hsame]
    exact .silent hlive (ht.trans (hoff h).symm) hdid hready hstack hcalls
  | false =>
    refine ⟨⟨?_, ?_, fun r hr => hlive.settled r ?_⟩, ⟨[.didDisconnect error], ?_, ?_⟩⟩
    · simp [doDisconnect, callback, hdid, h, hset]
    · simp [doDisconnect, callback, hdid, h, hset]
    · simpa [doDisconnect, hdid, h, hstack] using hr
    · simp [doDisconnect, callback, hdid, h, hset, hcalls]
    · cases hon : ws.connected with
      | true => simp [told, doDisconnect, callback, hdid, h, hset, hon, Told.hears]
      | false => simp [told, doDisconnect, callback, hdid, h, hset, hon, Told.hears]

/-- The end of the stream is the end of the connection, or of the attempt. -/
theorem tells_disconnectStream (hlive : ws.Live) (error : Option SocketError) :
    Tells again ws (ws.disconnectStream error true) := by
  cases error with
  | none =>
    exact tells_doDisconnect { ws.cleanupStream with connected := false } hlive rfl rfl rfl rfl
      (by simp) none
  | some error =>
    exact tells_doDisconnect { ws.cleanupStream with connected := false, writeQueue := [] } hlive
      rfl rfl rfl rfl (by simp) (some error)

theorem tells_write (hlive : ws.Live) (string : String) : Tells again ws (ws.write string) := by
  unfold write
  split
  · exact .silent hlive rfl rfl rfl rfl rfl
  · exact .silent hlive rfl rfl rfl rfl rfl

theorem tells_disconnect (hlive : ws.Live) : Tells again ws ws.disconnect := by
  unfold disconnect
  split
  · exact .silent hlive rfl rfl rfl rfl rfl
  · exact .silent hlive rfl rfl rfl rfl rfl

theorem live_disconnectStream (hlive : ws.Live) (error : Option SocketError) :
    (ws.disconnectStream error true).Live :=
  (@tells_disconnectStream true _ hlive error).live

theorem live_write (hlive : ws.Live) (string : String) : (ws.write string).Live :=
  (@tells_write true _ hlive string).live

theorem live_disconnect (hlive : ws.Live) : ws.disconnect.Live :=
  (@tells_disconnect true _ hlive).live

end WebSocket

/-- What has been called, and what will be. -/
def Line.story (l : Line) : List Callback := l.called ++ l.socket.callbackQueue

theorem tells_of_operated {handing : Handing} (hlive : l.socket.Live)
    (h : Operated system l t handing) :
    l.socket.Tells again t.socket ∧ t.called = l.called := by
  cases h with
  | request queue fits takes => exact ⟨.silent hlive rfl rfl rfl rfl rfl, rfl⟩
  | whole queue logged prepared size takes => exact ⟨.silent hlive rfl rfl rfl rfl rfl, rfl⟩
  | @part _ _ _ state _ _ _ _ queue size bytes missing cut takes =>
    refine ⟨?_, rfl⟩
    dsimp only
    split
    · exact WebSocket.tells_doDisconnect { l.socket with compressionState := state } hlive
        rfl rfl rfl rfl (fun h => h) _
    · exact .silent hlive rfl rfl rfl rfl rfl

theorem live_of_operated {handing : Handing} (hlive : l.socket.Live)
    (h : Operated system l t handing) : t.socket.Live :=
  (@tells_of_operated system true l t handing hlive h).1.live

/-- The delegate has been told, and will be, what it may be told; and that is what is the case. -/
structure Line.Sound (l : Line) (again : Bool) : Prop where
  live : l.socket.Live
  story : l.story.foldlM (Told.hears again) .waiting = some l.socket.told

/-- What is told, and will be, between two states of a socket. -/
structure Line.Tells (again : Bool) (l t : Line) : Prop where
  live : t.socket.Live
  calls : ∃ calls, t.story = l.story ++ calls ∧
    calls.foldlM (Told.hears again) l.socket.told = some t.socket.told

theorem Line.Tells.of_socket (h : l.socket.Tells again t.socket) (hcalled : t.called = l.called) :
    l.Tells again t where
  live := h.live
  calls := by
    obtain ⟨calls, hcalls, htold⟩ := h.calls
    exact ⟨calls, by rw [Line.story, Line.story, hcalls, hcalled, List.append_assoc], htold⟩

theorem Line.Tells.trans {u : Line} (h₁ : l.Tells again t) (h₂ : t.Tells again u) :
    l.Tells again u where
  live := h₂.live
  calls := by
    obtain ⟨calls, hcalls, htold⟩ := h₁.calls
    obtain ⟨more, hmore, htold'⟩ := h₂.calls
    exact ⟨calls ++ more, by rw [hmore, hcalls, List.append_assoc], Told.foldlM_append htold htold'⟩

theorem Line.Sound.of_tells (hl : l.Sound again) (h : l.Tells again t) : t.Sound again where
  live := h.live
  story := by
    obtain ⟨calls, hstory, htold⟩ := h.calls
    rw [hstory]
    exact Told.foldlM_append hl.story htold

/-! ## 5. Steps -/

/-- What a step leaves behind. -/
inductive Stepped (system : System) (l : Line) : Event → Line → Prop
  | connect {secKey : String} {request : Data} (fresh : l.socket.readyToWrite = false) :
      Stepped system l (.connect secKey request)
        { l with socket := l.socket.connect secKey, request := request }
  | streamConnected {error : Option SocketError} (stream : l.socket.stream = .connecting) :
      Stepped system l (.streamConnected error)
        { l with socket := l.socket.streamConnected error l.request }
  | newBytesInStream {data : Data} {beyond : Nat → UInt8} {ws : WebSocket}
      (stream : l.socket.stream = .isOpen) (some_data : data ≠ [])
      (ok : l.socket.dequeueInput system beyond data = .ok ws) :
      Stepped system l (.newBytesInStream data beyond) { l with socket := ws }
  | endEncountered (stream : l.socket.stream = .isOpen) (queue : l.socket.writeQueue = []) :
      Stepped system l .endEncountered { l with socket := l.socket.disconnectStream none true }
  | errorOccurred {code : Int} {maskKey : MaskKey} {lens : List Int} {u : Line}
      (stream : l.socket.stream = .isOpen) (cut : u = l ∨ Operated system l u .cancelled) :
      Stepped system l (.errorOccurred code maskKey lens)
        { u with socket := u.socket.disconnectStream (some (.stream code)) true }
  | write {string : String} : Stepped system l (.write string) { l with
      socket := l.socket.write string
      texts := if l.socket.connected then l.texts ++ [string] else l.texts }
  | disconnect : Stepped system l .disconnect { l with socket := l.socket.disconnect }
  | runOperation {maskKey : MaskKey} {lens : List Int} {u : Line} {handing : Handing}
      (operated : Operated system l u handing) (ended : handing ≠ .cancelled) :
      Stepped system l (.runOperation maskKey lens) u.next
  | runCallback {call : Callback} {calls : List Callback}
      (queue : l.socket.callbackQueue = call :: calls) :
      Stepped system l .runCallback { l with
        socket := { l.socket with callbackQueue := calls }, called := l.called ++ [call] }

/-- Before it is connected a socket has nothing to do. -/
def Line.Started (l : Line) : Prop := l.socket.writeQueue = [] ∨ l.socket.Live

theorem operated_of_started {maskKey : MaskKey} {lens : List Int} {handing : Handing}
    (hl : l.Started) (hmay : l.mayAnswer lens = true)
    (h : l.operate system maskKey lens = some (.ok (t, handing))) :
    Operated system l t handing := by
  rcases hl with hempty | hlive
  · simp [Line.operate, hempty] at h
  · exact operated hlive hmay h

theorem stepped (hl : l.Started) (hstep : (line system).Step l e t) : Stepped system l e t := by
  unfold Machine.Step line at hstep
  cases e with
  | connect secKey request =>
    dsimp only at hstep
    split at hstep
    · exact absurd hstep (by simp)
    · rename_i hfresh
      obtain rfl := Except.ok.inj (Option.some.inj hstep)
      exact .connect (by simpa using hfresh)
  | streamConnected error =>
    dsimp only at hstep
    split at hstep
    · rename_i hstream
      obtain rfl := Except.ok.inj (Option.some.inj hstep)
      exact .streamConnected hstream
    · exact absurd hstep (by simp)
  | newBytesInStream data beyond =>
    dsimp only at hstep
    split at hstep
    · rename_i hguard
      obtain ⟨ws, hok, rfl⟩ := map_eq_ok.mp (Option.some.inj hstep)
      exact .newBytesInStream hguard.1 hguard.2 hok
    · exact absurd hstep (by simp)
  | endEncountered =>
    dsimp only at hstep
    split at hstep
    · rename_i hguard
      obtain rfl := Except.ok.inj (Option.some.inj hstep)
      exact .endEncountered hguard.1 hguard.2
    · exact absurd hstep (by simp)
  | errorOccurred code maskKey lens =>
    dsimp only at hstep
    split at hstep
    · rename_i hstream
      split at hstep
      · obtain rfl := Except.ok.inj (Option.some.inj hstep)
        exact .errorOccurred hstream (.inl rfl)
      · split at hstep
        · rename_i hmay
          split at hstep
          · rename_i u hoperate
            obtain rfl := Except.ok.inj (Option.some.inj hstep)
            exact .errorOccurred hstream (.inr (operated_of_started hl hmay hoperate))
          · exact absurd hstep (by simp)
          · exact absurd hstep (by simp)
        · exact absurd hstep (by simp)
    · exact absurd hstep (by simp)
  | write string =>
    obtain rfl := Except.ok.inj (Option.some.inj hstep)
    exact .write
  | disconnect =>
    obtain rfl := Except.ok.inj (Option.some.inj hstep)
    exact .disconnect
  | runOperation maskKey lens =>
    dsimp only at hstep
    split at hstep
    · rename_i hmay
      split at hstep
      · exact absurd hstep (by simp)
      · rename_i u handing hover hoperate
        obtain rfl := Except.ok.inj (Option.some.inj hstep)
        refine .runOperation (operated_of_started hl hmay hoperate) ?_
        rintro rfl
        exact hover rfl
      · exact absurd hstep (by simp)
      · exact absurd hstep (by simp)
    · exact absurd hstep (by simp)
  | runCallback =>
    dsimp only at hstep
    split at hstep
    · exact absurd hstep (by simp)
    · rename_i call calls hqueue
      obtain rfl := Except.ok.inj (Option.some.inj hstep)
      exact .runCallback hqueue

/-! ## 6. Every run -/

/-- The socket has just been told to connect. -/
def Line.opening (secKey : String) (request : Data) : Line :=
  { socket := ({} : WebSocket).connect secKey, request := request }

/-- Before that nothing happens. -/
theorem opening_of_stepped (hstep : Stepped system {} e t) :
    t = {} ∨ ∃ secKey request, t = Line.opening secKey request := by
  cases hstep with
  | @connect secKey request fresh => exact .inr ⟨secKey, request, rfl⟩
  | streamConnected stream => exact absurd stream (by simp)
  | newBytesInStream stream some_data ok => exact absurd stream (by simp)
  | endEncountered stream queue => exact absurd stream (by simp)
  | errorOccurred stream cut => exact absurd stream (by simp)
  | write => exact .inl rfl
  | disconnect => exact .inl rfl
  | runOperation operated ended =>
    cases operated with
    | request queue fits takes => exact absurd queue (by simp)
    | whole queue logged prepared size takes => exact absurd queue (by simp)
    | part queue size bytes missing cut takes => exact absurd queue (by simp)
  | runCallback queue => exact absurd queue (by simp)

/-- What holds when the socket is told to connect, and after each step if it does before, holds. -/
theorem invariant_of_run {C : Line → Event → Prop} {I : Line → Prop}
    (hlive : ∀ {l}, I l → l.socket.Live) (hopening : ∀ secKey request, I (.opening secKey request))
    (hstep : ∀ {l e t}, I l → C l e → Stepped system l e t → I t)
    (h : (line system).RunWhere C {} l) : l = {} ∨ I l := by
  induction h with
  | refl => exact .inl rfl
  | @tail l t e run cond step ih =>
    rcases ih with rfl | hl
    · rcases opening_of_stepped (stepped (.inl rfl) step) with ht | ⟨secKey, request, rfl⟩
      · exact .inl ht
      · exact .inr (hopening secKey request)
    · exact .inr (hstep hl cond (stepped (.inr (hlive hl)) step))

theorem sound_opening (secKey : String) (request : Data) :
    (Line.opening secKey request).Sound again where
  live := ⟨rfl, by simp [Line.opening, WebSocket.connect, WebSocket.disconnectStream,
    WebSocket.cleanupStream], fun r hr => absurd hr (by simp [Line.opening, WebSocket.connect,
    WebSocket.disconnectStream, WebSocket.cleanupStream])⟩
  story := rfl

/-- What a server may send if it does not connect a socket `again`: no answer that is accepted, once
the end of a connection or of an attempt has been told. -/
def MayConnect (system : System) (again : Bool) (l : Line) : Event → Prop
  | .newBytesInStream data _ => again = true ∨ l.socket.StaysOffline system data
  | _ => True

theorem tells_of_stepped (hl : l.socket.Live) (hmay : MayConnect system again l e)
    (hstep : Stepped system l e t) : l.Tells again t := by
  cases hstep with
  | connect fresh => simp [hl.readyToWrite] at fresh
  | @streamConnected error stream =>
    cases error with
    | some error => exact .of_socket (WebSocket.tells_disconnectStream hl (some error)) rfl
    | none => exact .of_socket (.silent hl rfl rfl rfl rfl rfl) rfl
  | newBytesInStream stream some_data ok =>
    exact .of_socket (WebSocket.does_dequeueInput hl hmay ok).tells rfl
  | endEncountered stream queue => exact .of_socket (WebSocket.tells_disconnectStream hl none) rfl
  | @errorOccurred code maskKey lens u stream cut =>
    have hends : ∀ {u : Line}, u.socket.Live → u.Tells again
        { u with socket := u.socket.disconnectStream (some (.stream code)) true } :=
      fun hu => .of_socket (WebSocket.tells_disconnectStream hu _) rfl
    rcases cut with rfl | hcut
    · exact hends hl
    · obtain ⟨htells, hcalled⟩ := tells_of_operated hl hcut
      exact (Line.Tells.of_socket htells hcalled).trans (hends htells.live)
  | write => exact .of_socket (WebSocket.tells_write hl _) rfl
  | disconnect => exact .of_socket (WebSocket.tells_disconnect hl) rfl
  | runOperation operated ended =>
    obtain ⟨htells, hcalled⟩ := tells_of_operated hl operated
    exact (Line.Tells.of_socket htells hcalled).trans
      (.of_socket (.silent htells.live rfl rfl rfl rfl rfl) rfl)
  | @runCallback call calls queue =>
    refine ⟨⟨hl.readyToWrite, hl.didDisconnect, hl.settled⟩, [], ?_, rfl⟩
    simp [Line.story, queue]

theorem Line.Sound.step (hl : l.Sound again) (hmay : MayConnect system again l e)
    (hstep : Stepped system l e t) : t.Sound again :=
  hl.of_tells (tells_of_stepped hl.live hmay hstep)

theorem sound_of_runWhere (h : (line system).RunWhere (MayConnect system again) {} l) :
    l = {} ∨ l.Sound again :=
  invariant_of_run (I := fun l => l.Sound again) (fun hl => hl.live) sound_opening
    (fun hl hmay hstep => hl.step hmay hstep) h

theorem mayConnect (system : System) (l : Line) (e : Event) : MayConnect system true l e := by
  cases e with
  | newBytesInStream data beyond => exact .inl rfl
  | _ => trivial

theorem Line.Sound.stepped (hl : l.Sound true) (hstep : Stepped system l e t) : t.Sound true :=
  hl.step (mayConnect system l e) hstep

theorem sound_of_run (h : (line system).Run {} l) : l = {} ∨ l.Sound true :=
  sound_of_runWhere (h.mono fun l e _ => mayConnect system l e)

/-- **What the delegate is told, in every run** in which one handler runs at a time: a connection
only where there is none, messages only within one, the end of it once; and when all callbacks have
run, what is the case.  Where no server connects a socket `again`, there is one connection at most.
-/
theorem told_of_run (h : (line system).RunWhere (MayConnect system again) {} l) :
    ∃ s, l.called.foldlM (Told.hears again) .waiting = some s ∧
      l.socket.callbackQueue.foldlM (Told.hears again) s = some l.socket.told := by
  have hstory : l.story.foldlM (Told.hears again) .waiting = some l.socket.told := by
    rcases sound_of_runWhere h with rfl | hl
    · rfl
    · exact hl.story
  rw [Line.story, List.foldlM_append] at hstory
  cases hcalled : l.called.foldlM (Told.hears again) .waiting with
  | none => simp [hcalled] at hstory
  | some s => exact ⟨s, rfl, by simpa [hcalled] using hstory⟩

/-- The answer to the key `dGhlIHNhbXBsZSBub25jZQ==`. -/
def switching : Data :=
  utf8Data ("HTTP/1.1 101 Switching Protocols\r\n" ++
    "Sec-WebSocket-Accept: s3pPLMBiTxaQ9kYGzzhZRbK+xOo=\r\n\r\n")

/-- A request that is taken at once. -/
def asking : List Event :=
  [.connect "dGhlIHNhbXBsZSBub25jZQ==" [71, 69, 84], .streamConnected none,
    .runOperation (fun _ => 0) [3]]

/-- The answer to it, and a text each way. -/
def talking : List Event :=
  asking ++ [.newBytesInStream switching fun _ => 0, .write "yes",
    .newBytesInStream [0x81, 2, 104] fun _ => 0, .runOperation (fun _ => 7) [4, 5], .runCallback,
    .newBytesInStream [105] fun _ => 0, .runCallback]

/-- The same answer, with compression. -/
def switchingZipped : Data :=
  utf8Data ("HTTP/1.1 101 Switching Protocols\r\n" ++
    "Sec-WebSocket-Accept: s3pPLMBiTxaQ9kYGzzhZRbK+xOo=\r\n" ++
    "Sec-WebSocket-Extensions: permessage-deflate\r\n\r\n")

/-- That answer, and the text each way: it comes in two frames. -/
def talkingZipped : List Event :=
  asking ++ [.newBytesInStream switchingZipped fun _ => 0, .write "Hello",
    .newBytesInStream [0x41, 3, 0xF2, 0x48, 0xCD, 0x80] fun _ => 0,
    .runOperation (fun _ => 7) [4, 9], .runCallback,
    .newBytesInStream [4, 0xC9, 0xC9, 0x07, 0x00] fun _ => 0, .runCallback]

/-- Nothing is sent to a socket that is offline. -/
theorem mayConnect_of_told (h : l.socket.told ≠ .offline) : MayConnect system again l e := by
  cases e with
  | newBytesInStream data beyond =>
    refine .inr fun hoff hdid => ?_
    exact absurd (by simp [WebSocket.told, hoff, hdid]) h
  | _ => trivial

theorem told_while_talking : ∃ l s,
    (line .withoutZlib).RunWhere (MayConnect .withoutZlib false) {} l ∧
    l.called = [.didConnect, .didReceiveMessage "hi"] ∧
    l.called.foldlM (Told.hears false) .waiting = some s ∧
    l.socket.callbackQueue.foldlM (Told.hears false) s = some l.socket.told := by
  obtain ⟨l, hrun, htest⟩ := (line .withoutZlib).exists_run_of_replay
    (fun l _ => decide (l.socket.told ≠ .offline)) {} talking
    (fun l => decide (l.called = [.didConnect, .didReceiveMessage "hi"]))
    (fun _ _ h => mayConnect_of_told (of_decide_eq_true h)) (by decide +kernel)
  obtain ⟨s, htold⟩ := told_of_run hrun
  exact ⟨l, s, hrun, of_decide_eq_true htest, htold⟩

/-! ## 7. When the app stops -/

/-- The next operation has a message to compress, of 4 GiB and more, or one that comes to less than
the four bytes that are cut off. -/
def Line.CannotCompress (system : System) (l : Line) (trap : Trap) : Prop :=
  ∃ data code rest compressor, l.socket.writeQueue = .frame data code :: rest ∧
    (code = .textFrame ∨ code = .binaryFrame) ∧
    l.socket.compressionState.compressor = some compressor ∧
    ((trap = .conversion ∧ 2 ^ 32 ≤ data.length) ∨ trap = .removeLast ∧ data.length < 2 ^ 32 ∧
      ∃ out, system.deflate compressor data = some out ∧ out.length < 4)

theorem operate_eq_error_iff {maskKey : MaskKey} {lens : List Int} {trap : Trap} :
    l.operate system maskKey lens = some (.error trap) ↔ l.CannotCompress system trap := by
  unfold Line.operate Line.CannotCompress
  cases hqueue : l.socket.writeQueue with
  | nil => simp
  | cons op rest =>
    cases op with
    | request data =>
      simp only [List.cons.injEq, reduceCtorEq, false_and, exists_false, iff_false]
      cases l.sendRequest data lens with
      | none => simp
      | some u => simp
    | frame data code =>
      have herror : l.sendFrame system data code maskKey lens = some (.error trap) ↔
          l.socket.prepare system data code = .error trap := by
        unfold Line.sendFrame
        cases l.socket.prepare system data code with
        | error other => simp
        | ok prepared =>
          obtain ⟨ws, firstByte, payload⟩ := prepared
          dsimp only
          constructor
          · intro h
            split at h
            · split at h
              · exact absurd h (by simp)
              · exact absurd h (by simp)
            · split at h
              · exact absurd h (by simp)
              · obtain ⟨handed, -, hpair⟩ := Option.map_eq_some_iff.mp h
                exact absurd hpair (by simp)
          · intro h
            exact absurd h (by simp)
      dsimp only
      rw [herror, WebSocket.prepare_eq_error_iff]
      simp only [Codec.compress_eq_trap_iff]
      constructor
      · rintro ⟨hcode, compressor, hcompressor, htrap⟩
        exact ⟨data, code, rest, compressor, rfl, hcode, hcompressor, htrap⟩
      · rintro ⟨data', code', rest', compressor, hsame, hcode, hcompressor, htrap⟩
        obtain ⟨hop, -⟩ := List.cons.inj hsame
        obtain ⟨rfl, rfl⟩ := WriteOperation.frame.inj hop
        exact ⟨hcode, compressor, hcompressor, htrap⟩

/-- The events that can stop the app: input, and an operation that runs to its end or until the
stream fails. -/
inductive Fatal (system : System) (l : Line) : Event → Trap → Prop
  | input {data : Data} {beyond : Nat → UInt8} {t : WebSocket} {ys : Data} {trap : Trap}
      (stream : l.socket.stream = .isOpen) (some_data : data ≠ [])
      (reaches : (wire system).Reaches { l.socket with fragBuffer := none }
        (l.socket.fragBuffer.getD [] ++ data) t ys) (stopper : Stopper t ys trap) :
      Fatal system l (.newBytesInStream data beyond) trap
  | operation {maskKey : MaskKey} {lens : List Int} {trap : Trap} (may : l.mayAnswer lens = true)
      (cannot : l.CannotCompress system trap) : Fatal system l (.runOperation maskKey lens) trap
  | operationBeforeError {code : Int} {maskKey : MaskKey} {lens : List Int} {trap : Trap}
      (stream : l.socket.stream = .isOpen) (begun : lens ≠ []) (may : l.mayAnswer lens = true)
      (cannot : l.CannotCompress system trap) :
      Fatal system l (.errorOccurred code maskKey lens) trap

/-- **When the app stops, in any run**: at such input, at such a message, and at nothing else. -/
theorem traps_iff_of_run (h : (line system).Run {} l) {trap : Trap} :
    (line system).Traps l e trap ↔ Fatal system l e trap := by
  have hsettled : l.socket.Settled := by
    rcases sound_of_run h with rfl | hl
    · intro r hr
      exact absurd hr (by simp)
    · exact hl.live.settled
  unfold Machine.Traps line
  constructor
  · intro htraps
    cases e with
    | connect secKey request =>
      dsimp only at htraps
      split at htraps
      · exact absurd htraps (by simp)
      · exact absurd htraps (by simp)
    | streamConnected error =>
      dsimp only at htraps
      split at htraps
      · exact absurd htraps (by simp)
      · exact absurd htraps (by simp)
    | newBytesInStream data beyond =>
      dsimp only at htraps
      split at htraps
      · rename_i hguard
        have herror : l.socket.dequeueInput system beyond data = .error trap := by
          cases hinput : l.socket.dequeueInput system beyond data with
          | ok ws => simp [hinput, Except.map] at htraps
          | error other => simpa [hinput, Except.map] using htraps
        obtain ⟨t, ys, hreaches, hstopper⟩ :=
          (WebSocket.dequeueInput_eq_error_iff hsettled hguard.2).mp herror
        exact .input hguard.1 hguard.2 hreaches hstopper
      · exact absurd htraps (by simp)
    | endEncountered =>
      dsimp only at htraps
      split at htraps
      · exact absurd htraps (by simp)
      · exact absurd htraps (by simp)
    | errorOccurred code maskKey lens =>
      dsimp only at htraps
      split at htraps
      · rename_i hstream
        split at htraps
        · exact absurd htraps (by simp)
        · rename_i hbegun
          split at htraps
          · rename_i hmay
            split at htraps
            · exact absurd htraps (by simp)
            · rename_i other hoperate
              obtain rfl := Except.error.inj (Option.some.inj htraps)
              exact .operationBeforeError hstream hbegun hmay (operate_eq_error_iff.mp hoperate)
            · exact absurd htraps (by simp)
          · exact absurd htraps (by simp)
      · exact absurd htraps (by simp)
    | write string => exact absurd htraps (by simp)
    | disconnect => exact absurd htraps (by simp)
    | runOperation maskKey lens =>
      dsimp only at htraps
      split at htraps
      · rename_i hmay
        split at htraps
        · exact absurd htraps (by simp)
        · exact absurd htraps (by simp)
        · rename_i other hoperate
          obtain rfl := Except.error.inj (Option.some.inj htraps)
          exact .operation hmay (operate_eq_error_iff.mp hoperate)
        · exact absurd htraps (by simp)
      · exact absurd htraps (by simp)
    | runCallback =>
      dsimp only at htraps
      split at htraps
      · exact absurd htraps (by simp)
      · exact absurd htraps (by simp)
  · intro hfatal
    cases hfatal with
    | @input data beyond t ys trap stream some_data reaches stopper =>
      have herror : l.socket.dequeueInput system beyond data = .error trap :=
        (WebSocket.dequeueInput_eq_error_iff hsettled some_data).mpr ⟨t, ys, reaches, stopper⟩
      simp [stream, some_data, herror, Except.map]
    | @operation maskKey lens trap may cannot =>
      have herror : l.operate system maskKey lens = some (.error trap) :=
        operate_eq_error_iff.mpr cannot
      simp [may, herror]
    | @operationBeforeError code maskKey lens trap stream begun may cannot =>
      have herror : l.operate system maskKey lens = some (.error trap) :=
        operate_eq_error_iff.mpr cannot
      simp [stream, begun, may, herror]

/-- A close frame that has its length of 1 where a longer one would be. -/
theorem stops_while_talking : ∃ l, (line .withoutZlib).Run {} l ∧
    (line .withoutZlib).Traps l (.newBytesInStream [0x88, 126, 0, 1, 0] fun _ => 0)
      .arithmeticOverflow := by
  obtain ⟨l, hrun, htest⟩ := (line .withoutZlib).exists_run_of_replay (fun _ _ => true) {} talking
    (fun l => decide (l.socket.stream = .isOpen) && decide (l.socket.connected = true) &&
      decide (l.socket.fragBuffer = none)) (fun _ _ _ => trivial) (by decide +kernel)
  simp only [Bool.and_eq_true, decide_eq_true_eq] at htest
  obtain ⟨⟨hstream, hconnected⟩, hfrag⟩ := htest
  have hclose : ShortClose { l.socket with fragBuffer := none } [0x88, 126, 0, 1, 0] :=
    ⟨hconnected, by decide, by decide, .inl (by decide), by decide, by decide, by decide⟩
  refine ⟨l, hrun, (traps_iff_of_run hrun).mpr (.input hstream (by simp) ?_ (.shortClose hclose))⟩
  rw [hfrag]
  exact .refl _ _

end Starscream
