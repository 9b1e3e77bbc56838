/-
# What goes out

What the stream has taken is the request, as far as it took it in the one write it is offered it,
and then frame after frame in the order of the queue, but for the last, of which there may be a
part: then the stream takes no more.  So whoever reads frames reads what was queued, and no text is
lost, doubled or moved before another.

* `sent_of_run`: what has gone out, in every run;
* `server_reads`: what a server makes of it.
-/
import Mathlib.Data.List.Basic
import WeatherAccommodation.Starscream.Agreed
import WeatherAccommodation.Starscream.Life

namespace Starscream

open Reactive Streaming WireFormat

variable {system : System} {l t : Line} {e : Event}

/-! ## 1. What there is to send -/

/-- The text in an operation. -/
def WriteOperation.text? : WriteOperation → Option String
  | .frame data .textFrame => utf8String data
  | _ => none

def Sending.text? (s : Sending) : Option String := (WriteOperation.frame s.data s.code).text?

/-- The texts that have gone out, and those that are queued. -/
def Line.gone (l : Line) : List String := l.sendings.filterMap Sending.text?

def Line.queued (l : Line) : List String := l.socket.writeQueue.filterMap WriteOperation.text?

/-- How a frame comes from what was queued, in the state of compression that the socket was in: a
compressor was there exactly if the answer to the upgrade had agreed on it. -/
structure Sending.Made (system : System) (s : Sending) : Prop where
  size : s.frame.payload.length < 2 ^ 64
  setUp : s.state.SetUp system
  prepared : ∃ after : CompressionState,
    WebSocket.prepare { compressionState := s.state } system s.data s.code =
      .ok ({ compressionState := after }, s.frame.head, s.frame.payload)

def WriteOperation.IsFrame (op : WriteOperation) : Prop := ∃ data code, op = .frame data code

/-- The request is still to be sent, or it has been. -/
inductive Line.Request (l : Line) : Prop
  | waits (rest : List WriteOperation) (queue : l.socket.writeQueue = .request l.request :: rest)
      (frames : ∀ op ∈ rest, op.IsFrame) (sent : l.sent = []) (sendings : l.sendings = [])
      (requested : l.requested = 0)
  | gone (frames : ∀ op ∈ l.socket.writeQueue, op.IsFrame)

/-- A frame that the stream has taken a part of, and that it will take no more of. -/
def Line.Broken (l : Line) (part : Data) : Prop :=
  ¬l.Open ∧ ∃ (f : Frame) (later : Data), f.payload.length < 2 ^ 64 ∧ f.bytes = part ++ later ∧
    later ≠ []

structure Line.Sends (system : System) (l : Line) : Prop where
  live : l.socket.Live
  /-- While the stream connects nothing has been done. -/
  connecting : l.socket.stream = .connecting → l.socket.connected = false ∧
    l.socket.writeQueue = [] ∧ l.sent = [] ∧ l.sendings = [] ∧ l.requested = 0
  request : l.Request
  sent : ∃ part, l.sent = l.request.take l.requested ++
    l.sendings.flatMap (fun s => s.frame.bytes) ++ part ∧ (part = [] ∨ l.Broken part)
  texts : l.gone <+: l.texts
  open_texts : l.socket.stream = .connecting ∨ l.Open → l.texts = l.gone ++ l.queued

theorem sends_opening (secKey : String) (request : Data) :
    (Line.opening secKey request).Sends system where
  live := (@sound_opening true secKey request).live
  connecting := fun _ => ⟨rfl, rfl, rfl, rfl, rfl⟩
  request := .gone fun op hop => absurd hop (by simp [Line.opening, WebSocket.connect,
    WebSocket.disconnectStream, WebSocket.cleanupStream])
  sent := ⟨[], by simp [Line.opening], .inl rfl⟩
  texts := List.nil_prefix
  open_texts := fun _ => rfl

/-! ## 2. Steps -/

theorem WebSocket.queue_doDisconnect (ws : WebSocket) (error : Option SocketError) :
    (ws.doDisconnect error).writeQueue = ws.writeQueue ∧
      (ws.doDisconnect error).stream = ws.stream := by
  unfold doDisconnect callback
  split
  · exact ⟨rfl, rfl⟩
  · dsimp only
    split
    · exact ⟨rfl, rfl⟩
    · exact ⟨rfl, rfl⟩

/-- More is queued, and the stream is as it was. -/
theorem Line.Sends.push (hl : l.Sends system) (ws : WebSocket) (ops : List WriteOperation)
    (called : List Callback) (hlive : ws.Live) (hstream : ws.stream = l.socket.stream)
    (hqueue : ws.writeQueue = l.socket.writeQueue ++ ops) (hframes : ∀ op ∈ ops, op.IsFrame)
    (hconnecting : l.socket.stream = .connecting → ws.connected = false ∧ ops = []) :
    Line.Sends system { l with
      socket := ws, texts := l.texts ++ ops.filterMap WriteOperation.text?, called := called } where
  live := hlive
  connecting := by
    intro h
    have hold := hstream.symm.trans h
    obtain ⟨hoff, hnone⟩ := hconnecting hold
    obtain ⟨-, hempty, hrest⟩ := hl.connecting hold
    exact ⟨hoff, by rw [hqueue, hempty, hnone, List.append_nil], hrest⟩
  request := by
    cases hl.request with
    | waits rest queue frames sent sendings requested =>
      refine .waits (rest ++ ops) (by rw [hqueue, queue]; rfl) (fun op hop => ?_) sent sendings
        requested
      rcases List.mem_append.mp hop with hop | hop
      · exact frames op hop
      · exact hframes op hop
    | gone frames =>
      refine .gone fun op hop => ?_
      rw [hqueue] at hop
      rcases List.mem_append.mp hop with hop | hop
      · exact frames op hop
      · exact hframes op hop
  sent := by
    obtain ⟨part, hsent, hpart⟩ := hl.sent
    refine ⟨part, hsent, hpart.imp id fun h => ⟨fun hopen => h.1 ?_, h.2⟩⟩
    exact ⟨hstream.symm.trans hopen.1, hopen.2⟩
  texts := hl.texts.trans (List.prefix_append _ _)
  open_texts := by
    intro h
    have hold : l.socket.stream = .connecting ∨ l.Open := by
      rcases h with h | h
      · exact .inl (hstream.symm.trans h)
      · exact .inr ⟨hstream.symm.trans h.1, h.2⟩
    have htexts := hl.open_texts hold
    simp only [Line.gone, Line.queued, hqueue, List.filterMap_append] at htexts ⊢
    rw [htexts, List.append_assoc]

/-- The stream is closed, with nothing more to send. -/
theorem Line.Sends.close (hl : l.Sends system) {ws : WebSocket} (hlive : ws.Live)
    (hstream : ws.stream = .closed) (hqueue : ws.writeQueue = []) :
    Line.Sends system { l with socket := ws } where
  live := hlive
  connecting := fun h => absurd (hstream.symm.trans h) (by decide)
  request := .gone (by simp [hqueue])
  sent := by
    obtain ⟨part, hsent, hpart⟩ := hl.sent
    refine ⟨part, hsent, hpart.imp id fun h => ⟨fun hopen => ?_, h.2⟩⟩
    exact absurd (hstream.symm.trans hopen.1) (by decide)
  texts := hl.texts
  open_texts := by
    intro h
    rcases h with h | h
    · exact absurd (hstream.symm.trans h) (by decide)
    · exact absurd (hstream.symm.trans h.1) (by decide)

/-- Where the stream takes something, it has taken whole frames so far. -/
theorem Line.Sends.sent_of_open (hl : l.Sends system) (hopen : l.Open) :
    l.sent = l.request.take l.requested ++ l.sendings.flatMap fun s => s.frame.bytes := by
  obtain ⟨part, hsent, rfl | hbroken⟩ := hl.sent
  · simpa using hsent
  · exact absurd hopen hbroken.1

/-- A frame at the head of the queue: the request has been sent. -/
theorem Line.Sends.gone_of_frame (hl : l.Sends system) {data : Data} {code : OpCode}
    {rest : List WriteOperation} (hqueue : l.socket.writeQueue = .frame data code :: rest) :
    (∀ op ∈ rest, op.IsFrame) ∧ l.socket.stream ≠ .connecting := by
  refine ⟨?_, fun h => ?_⟩
  · cases hl.request with
    | waits others queue frames sent sendings requested =>
      exact absurd (hqueue.symm.trans queue) (by simp)
    | gone frames =>
      intro op hop
      exact frames op (by simp [hqueue, hop])
  · obtain ⟨-, hempty, -⟩ := hl.connecting h
    exact absurd (hqueue.symm.trans hempty) (by simp)

/-- A frame is cut short, and the stream takes no more. -/
theorem Line.Sends.cut (hl : l.Sends system) (ws : WebSocket) (broken : Bool) {frame : Frame}
    {part later : Data} (hlive : ws.Live) (hqueue : ∀ op ∈ ws.writeQueue, op.IsFrame)
    (hconnecting : ws.stream ≠ .connecting) (hclosed : ¬(ws.stream = .isOpen ∧ broken = false))
    (size : frame.payload.length < 2 ^ 64) (bytes : frame.bytes = part ++ later)
    (missing : later ≠ []) (takes : part ≠ [] → l.Open) :
    Line.Sends system { l with socket := ws, broken := broken, sent := l.sent ++ part } where
  live := hlive
  connecting := fun h => absurd h hconnecting
  request := .gone hqueue
  sent := by
    by_cases hpart : part = []
    · obtain ⟨old, hsent, hold⟩ := hl.sent
      refine ⟨old, by rw [hsent, hpart, List.append_nil], hold.imp id fun h => ⟨hclosed, h.2⟩⟩
    · have hsent := hl.sent_of_open (takes hpart)
      exact ⟨part, by rw [hsent], .inr ⟨hclosed, frame, later, size, bytes, missing⟩⟩
  texts := hl.texts
  open_texts := by
    intro h
    rcases h with h | h
    · exact absurd h hconnecting
    · exact absurd h hclosed

/-- An operation that is over. -/
theorem Line.Sends.next (hl : l.Sends system) {handing : Handing}
    (h : Operated system l t handing) (hover : handing ≠ .cancelled) : t.next.Sends system := by
  have hlive : t.next.socket.Live := by
    have ht := live_of_operated hl.live h
    exact ⟨ht.readyToWrite, ht.didDisconnect, ht.settled⟩
  cases h with
  | @request data rest len queue fits takes =>
    have hrequest : l.request = data ∧ (∀ op ∈ rest, op.IsFrame) ∧ l.sent = [] ∧
        l.sendings = [] := by
      cases hl.request with
      | waits others queue' frames sent sendings requested =>
        obtain ⟨hop, rfl⟩ := List.cons.inj (queue.symm.trans queue')
        exact ⟨(WriteOperation.request.inj hop).symm, frames, sent, sendings⟩
      | gone frames =>
        obtain ⟨_, _, hop⟩ := frames (.request data) (by simp [queue])
        exact absurd hop (by simp)
    obtain ⟨rfl, hframes, hsent, hsendings⟩ := hrequest
    have hconnecting : l.socket.stream ≠ .connecting := by
      intro hc
      exact absurd (queue.symm.trans (hl.connecting hc).2.1) (by simp)
    exact {
      live := hlive
      connecting := fun hc => absurd hc hconnecting
      request := .gone (by simpa [Line.next, queue] using hframes)
      sent := ⟨[], by simp [Line.next, hsent, hsendings], .inl rfl⟩
      texts := hl.texts
      open_texts := by
        intro hopen
        have hold : l.Open := by
          rcases hopen with hc | hopen
          · exact absurd hc hconnecting
          · exact ⟨hopen.1, (Bool.or_eq_false_iff.mp hopen.2).1⟩
        have htexts := hl.open_texts (.inr hold)
        rw [Line.queued, queue] at htexts
        change l.texts = l.gone ++ l.socket.writeQueue.tail.filterMap WriteOperation.text?
        rw [queue]
        exact htexts }
  | @whole rest state sending queue logged prepared size takes =>
    obtain ⟨hframes, hconnecting⟩ := hl.gone_of_frame queue
    have hsent := hl.sent_of_open takes
    have htexts := hl.open_texts (.inr takes)
    have hgone : l.texts = (l.sendings ++ [sending]).filterMap Sending.text? ++
        rest.filterMap WriteOperation.text? := by
      rw [htexts, Line.gone, Line.queued, queue, List.filterMap_append, List.append_assoc]
      congr 1
      simp [List.filterMap_cons, Sending.text?]
      split <;> simp
    exact {
      live := hlive
      connecting := fun hc => absurd hc hconnecting
      request := .gone (by simpa [Line.next, queue] using hframes)
      sent := ⟨[], by simp [Line.next, hsent], .inl rfl⟩
      texts := ⟨_, hgone.symm⟩
      open_texts := by
        intro _
        simpa [Line.gone, Line.queued, Line.next, queue] using hgone }
  | @part data code rest state frame part later handing queue size bytes missing cut takes =>
    have hfailed : handing = .failed := by
      cases handing with
      | done => exact absurd rfl cut
      | failed => rfl
      | cancelled => exact absurd rfl hover
    subst hfailed
    obtain ⟨hframes, hconnecting⟩ := hl.gone_of_frame queue
    obtain ⟨hqueue, hstream⟩ := WebSocket.queue_doDisconnect
      { l.socket with compressionState := state } (some (.ws WebSocket.writeFailed))
    have hbroken : (l.broken || decide (Handing.failed = .failed)) = true := by simp
    have hcut := hl.cut (Line.next _).socket true hlive ?_ ?_ (by simp) size bytes missing takes
    · simpa [Line.next, hbroken] using hcut
    · intro op hop
      refine hframes op ?_
      simp only [Line.next, if_true, hqueue] at hop
      rwa [queue] at hop
    · simpa [Line.next, hstream] using hconnecting

/-- What a socket queues for a piece of the input is a frame, and no text. -/
theorem frames_of_answers {ops : List WriteOperation}
    (h : ∀ op ∈ ops, WebSocket.IsAnswer op) :
    (∀ op ∈ ops, op.IsFrame) ∧ ops.filterMap WriteOperation.text? = [] := by
  refine ⟨fun op hop => ?_, List.filterMap_eq_nil_iff.mpr fun op hop => ?_⟩
  · obtain ⟨data, code, rfl, -⟩ := h op hop
    exact ⟨data, code, rfl⟩
  · obtain ⟨data, code, rfl, rfl | rfl⟩ := h op hop
    · rfl
    · rfl

/-- The stream is closed for good, and what was queued is gone. -/
theorem closed_disconnectStream (ws : WebSocket) (error : Option SocketError) :
    (ws.disconnectStream error true).stream = .closed ∧
      (ws.disconnectStream error true).writeQueue =
        if error.isSome then [] else ws.writeQueue := by
  cases error with
  | none =>
    obtain ⟨hqueue, hstream⟩ :=
      WebSocket.queue_doDisconnect { ws.cleanupStream with connected := false } none
    exact ⟨hstream, hqueue⟩
  | some error =>
    obtain ⟨hqueue, hstream⟩ := WebSocket.queue_doDisconnect
      { ws.cleanupStream with connected := false, writeQueue := [] } (some error)
    exact ⟨hstream, hqueue⟩

/-- An operation leaves the stream as it is, and what is broken broken. -/
theorem stream_of_operated {handing : Handing} (h : Operated system l t handing) :
    t.next.socket.stream = l.socket.stream ∧ (t.broken = false → l.broken = false) := by
  cases h with
  | request queue fits takes => exact ⟨rfl, fun h => (Bool.or_eq_false_iff.mp h).1⟩
  | whole queue logged prepared size takes => exact ⟨rfl, fun h => h⟩
  | @part _ _ _ state _ _ _ handing queue size bytes missing cut takes =>
    refine ⟨?_, fun h => (Bool.or_eq_false_iff.mp h).1⟩
    unfold Line.next
    dsimp only
    split
    · exact (WebSocket.queue_doDisconnect _ _).2
    · rfl

theorem Line.Sends.disconnectStream (hl : l.Sends system) {error : Option SocketError}
    (hqueue : error.isSome = true ∨ l.socket.writeQueue = []) :
    Line.Sends system { l with socket := l.socket.disconnectStream error true } := by
  obtain ⟨hclosed, hempty⟩ := closed_disconnectStream l.socket error
  refine hl.close (WebSocket.live_disconnectStream hl.live error) hclosed ?_
  rw [hempty]
  rcases hqueue with hsome | hnone
  · rw [if_pos hsome]
  · rw [hnone, ite_self]

/-- An operation that is cancelled, and the stream with it. -/
theorem Line.Sends.cancelled (hl : l.Sends system) (h : Operated system l t .cancelled)
    (error : SocketError) :
    Line.Sends system { t with socket := t.socket.disconnectStream (some error) true } := by
  obtain ⟨hclosed, hempty⟩ := closed_disconnectStream t.socket (some error)
  have hlive := WebSocket.live_disconnectStream (live_of_operated hl.live h) (some error)
  cases h with
  | @part data code rest state frame part later handing queue size bytes missing cut takes =>
    have hsame : (l.broken || decide (Handing.cancelled = .failed)) = l.broken := by simp
    rw [hsame] at *
    refine hl.cut _ l.broken hlive (fun op hop => ?_) (by rw [hclosed]; decide)
      (fun h => by rw [hclosed] at h; exact absurd h.1 (by decide)) size bytes missing takes
    rw [hempty] at hop
    exact absurd hop (by simp)

theorem Line.Sends.connected (hl : l.Sends system) (ws : WebSocket) (hlive : ws.Live)
    (hstream : l.socket.stream = .connecting) (hopen : ws.stream = .isOpen)
    (hqueue : ws.writeQueue = l.socket.writeQueue ++ [.request l.request]) :
    Line.Sends system { l with socket := ws } := by
  obtain ⟨-, hempty, hsent, hsendings, hrequested⟩ := hl.connecting hstream
  have htexts := hl.open_texts (.inl hstream)
  rw [hempty] at hqueue
  exact {
    live := hlive
    connecting := fun h => absurd (hopen.symm.trans h) (by decide)
    request := .waits [] hqueue (by simp) hsent hsendings hrequested
    sent := ⟨[], by simp [hsent, hsendings, hrequested], .inl rfl⟩
    texts := hl.texts
    open_texts := by
      intro _
      rw [Line.queued, hempty] at htexts
      change l.texts = l.gone ++ ws.writeQueue.filterMap WriteOperation.text?
      rw [hqueue]
      exact htexts }

theorem Line.Sends.step (hl : l.Sends system) (hstep : Stepped system l e t) :
    t.Sends system := by
  cases hstep with
  | connect fresh => simp [hl.live.readyToWrite] at fresh
  | @streamConnected error stream =>
    cases error with
    | some error => exact hl.disconnectStream (.inl rfl)
    | none =>
      exact hl.connected _ ⟨hl.live.readyToWrite, hl.live.didDisconnect, hl.live.settled⟩ stream
        rfl rfl
  | newBytesInStream stream some_data ok =>
    have hdoes := WebSocket.does_dequeueInput hl.live (.inl rfl) ok
    obtain ⟨ops, hqueue, hanswers⟩ := hdoes.answers
    obtain ⟨hframes, hnone⟩ := frames_of_answers hanswers
    have hpush := hl.push _ ops l.called hdoes.live hdoes.stream hqueue hframes
      (fun h => absurd (stream.symm.trans h) (by decide))
    simpa [hnone] using hpush
  | endEncountered stream queue => exact hl.disconnectStream (.inr queue)
  | errorOccurred stream cut =>
    rcases cut with rfl | hcut
    · exact hl.disconnectStream (.inl rfl)
    · exact hl.cancelled hcut _
  | @write string =>
    have hlive := WebSocket.live_write hl.live string
    cases hon : l.socket.connected with
    | false => simpa [WebSocket.write, hon] using hl
    | true =>
      have hwrite : l.socket.write string =
          l.socket.dequeueWrite (utf8Data string) .textFrame := by simp [WebSocket.write, hon]
      rw [hwrite] at hlive ⊢
      have hpush := hl.push _ [.frame (utf8Data string) .textFrame] l.called hlive rfl rfl
        (fun op hop => ⟨_, _, List.mem_singleton.mp hop⟩)
        (fun h => absurd ((hl.connecting h).1.symm.trans hon) (by decide))
      simpa [WriteOperation.text?] using hpush
  | disconnect =>
    have hlive := WebSocket.live_disconnect hl.live
    cases hon : l.socket.connected with
    | false => simpa [WebSocket.disconnect, hon] using hl
    | true =>
      have hdisconnect : l.socket.disconnect =
          l.socket.dequeueWrite (writeUint16 CloseCode.normal) .connectionClose := by
        simp [WebSocket.disconnect, WebSocket.writeError, hon]
      rw [hdisconnect] at hlive ⊢
      have hpush := hl.push _ [.frame (writeUint16 CloseCode.normal) .connectionClose] l.called
        hlive rfl rfl (fun op hop => ⟨_, _, List.mem_singleton.mp hop⟩)
        (fun h => absurd ((hl.connecting h).1.symm.trans hon) (by decide))
      have hnone : [WriteOperation.frame (writeUint16 CloseCode.normal)
          .connectionClose].filterMap WriteOperation.text? = [] := rfl
      simpa only [hnone, List.append_nil] using hpush
  | runOperation operated ended => exact hl.next operated ended
  | @runCallback call calls queue =>
    have hpush := hl.push { l.socket with callbackQueue := calls } [] (l.called ++ [call])
      ⟨hl.live.readyToWrite, hl.live.didDisconnect, hl.live.settled⟩ rfl (by simp) (by simp)
      (fun h => ⟨(hl.connecting h).1, rfl⟩)
    simpa using hpush

/-! ## 3. What was made of it -/

/-- Every frame was made of what was queued, and there is a compressor where there is to be one. -/
structure Line.Makes (system : System) (l : Line) : Prop where
  sound : l.Sound true
  setUp : l.socket.compressionState.SetUp system
  made : ∀ s ∈ l.sendings, s.Made system

theorem WebSocket.compressionState_disconnectStream (ws : WebSocket) (error : Option SocketError) :
    (ws.disconnectStream error true).compressionState = ws.compressionState := by
  cases error with
  | none => exact compressionState_doDisconnect _ _
  | some error => exact compressionState_doDisconnect _ _

theorem WebSocket.write_keeps (ws : WebSocket) (string : String) :
    (ws.write string).compressionState = ws.compressionState ∧
      (ws.write string).stream = ws.stream := by
  unfold WebSocket.write
  split
  · exact ⟨rfl, rfl⟩
  · exact ⟨rfl, rfl⟩

theorem WebSocket.disconnect_keeps (ws : WebSocket) :
    ws.disconnect.compressionState = ws.compressionState ∧ ws.disconnect.stream = ws.stream := by
  unfold WebSocket.disconnect
  split
  · exact ⟨rfl, rfl⟩
  · exact ⟨rfl, rfl⟩

/-- No frame is made, and the state of compression stays as it is. -/
theorem Line.Makes.same (hl : l.Makes system) (ht : t.Sound true)
    (hstate : t.socket.compressionState = l.socket.compressionState)
    (hsendings : t.sendings = l.sendings) : t.Makes system where
  sound := ht
  setUp := hstate ▸ hl.setUp
  made := hsendings ▸ hl.made

/-- A compressor is used where there is one. -/
theorem setUp_of_keeps {state : CompressionState} {compressor : Option Codec}
    (hset : state.SetUp system) (hsome : compressor.isSome = state.compressor.isSome) :
    CompressionState.SetUp system { state with compressor := compressor } :=
  hsome.trans hset

theorem setUp_of_operated {handing : Handing} (hset : l.socket.compressionState.SetUp system)
    (h : Operated system l t handing) : t.socket.compressionState.SetUp system := by
  cases h with
  | request queue fits takes => exact hset
  | whole queue logged prepared size takes =>
    obtain ⟨compressor, hsome, hkeeps⟩ := WebSocket.prepare_keeps prepared
    obtain rfl := congrArg WebSocket.compressionState hkeeps
    exact setUp_of_keeps hset hsome
  | part queue size bytes missing cut takes keeps =>
    obtain ⟨compressor, hsome, rfl⟩ := keeps
    dsimp only
    split
    · rw [WebSocket.compressionState_doDisconnect]
      exact setUp_of_keeps hset hsome
    · exact setUp_of_keeps hset hsome

theorem made_of_operated {handing : Handing} (hl : l.Makes system)
    (h : Operated system l t handing) : ∀ s ∈ t.sendings, s.Made system := by
  cases h with
  | request queue fits takes => exact hl.made
  | @whole rest state sending queue logged prepared size takes =>
    intro s hs
    rcases List.mem_append.mp hs with hs | hs
    · exact hl.made s hs
    · obtain rfl := List.mem_singleton.mp hs
      refine ⟨size, logged ▸ hl.setUp, state, ?_⟩
      rw [logged]
      exact WebSocket.prepare_of_state prepared
  | part queue size bytes missing cut takes keeps => exact hl.made

theorem Line.Makes.step (hl : l.Makes system) (hstep : Stepped system l e t) :
    t.Makes system := by
  have ht := hl.sound.stepped hstep
  cases hstep with
  | connect fresh => exact absurd fresh (by simp [hl.sound.live.readyToWrite])
  | @streamConnected error stream =>
    cases error with
    | none => exact hl.same ht rfl rfl
    | some error => exact hl.same ht (WebSocket.compressionState_disconnectStream _ _) rfl
  | newBytesInStream stream some_data ok =>
    exact ⟨ht, WebSocket.setUp_dequeueInput hl.setUp ok, hl.made⟩
  | endEncountered stream queue =>
    exact hl.same ht (WebSocket.compressionState_disconnectStream _ _) rfl
  | @errorOccurred code maskKey lens u stream cut =>
    rcases cut with rfl | hcut
    · exact hl.same ht (WebSocket.compressionState_disconnectStream _ _) rfl
    · have hmade := made_of_operated hl hcut
      refine ⟨ht, ?_, hmade⟩
      dsimp only
      rw [WebSocket.compressionState_disconnectStream]
      exact setUp_of_operated hl.setUp hcut
  | @write string => exact hl.same ht (l.socket.write_keeps string).1 rfl
  | disconnect => exact hl.same ht l.socket.disconnect_keeps.1 rfl
  | runOperation operated ended =>
    have hset := setUp_of_operated hl.setUp operated
    have hmade := made_of_operated hl operated
    exact ⟨ht, hset, hmade⟩
  | runCallback queue => exact hl.same ht rfl rfl

theorem makes_opening (secKey : String) (request : Data) :
    (Line.opening secKey request).Makes system where
  sound := sound_opening secKey request
  setUp := rfl
  made := by simp [Line.opening]

/-! ## 4. Every run -/

/-- **Every frame is made of what was queued**, with the compressor the run has at that time. -/
theorem made_of_run (h : (line system).Run {} l) : ∀ s ∈ l.sendings, s.Made system := by
  rcases invariant_of_run (fun hl => hl.sound.live) makes_opening
    (fun hl _ hstep => hl.step hstep) h with rfl | hl
  · simp
  · exact hl.made

theorem sends_of_run (h : (line system).Run {} l) : l = {} ∨ l.Sends system :=
  invariant_of_run (fun hl => hl.live) sends_opening (fun hl _ hstep => hl.step hstep) h

/-- **What has gone out, in every run**: the request as far as it was taken, whole frames, each made
of what was queued, and at most a part of one more, which is the last there is. -/
theorem sent_of_run (h : (line system).Run {} l) :
    ∃ part, l.sent = l.request.take l.requested ++
        l.sendings.flatMap (fun s => s.frame.bytes) ++ part ∧
      (part = [] ∨ l.Broken part) ∧ ∀ s ∈ l.sendings, s.Made system := by
  rcases sends_of_run h with rfl | hl
  · exact ⟨[], rfl, .inl rfl, by simp⟩
  · obtain ⟨part, hsent, hpart⟩ := hl.sent
    exact ⟨part, hsent, hpart, made_of_run h⟩

/-- Whoever reads frames reads those that have gone out whole, and waits for the rest of the
next. -/
theorem read_of_sent {part : Data} (hsent : l.sent = l.request.take l.requested ++
      l.sendings.flatMap (fun s => s.frame.bytes) ++ part) (hpart : part = [] ∨ l.Broken part)
    (hmade : ∀ s ∈ l.sendings, s.Made system) (hrequested : l.requested = l.request.length) :
    frames.pump [] (l.sent.drop l.request.length) =
      .waiting (l.sendings.map Sending.frame) part := by
  have hdrop : l.sent.drop l.request.length =
      (l.sendings.map Sending.frame).flatMap Frame.bytes ++ part := by
    rw [hsent, hrequested, List.take_length, List.append_assoc, List.drop_left, List.flatMap_map]
  have hsizes : ∀ f ∈ l.sendings.map Sending.frame, f.payload.length < 2 ^ 64 := by
    intro f hf
    obtain ⟨s, hs, rfl⟩ := List.mem_map.mp hf
    exact (hmade s hs).size
  have hwaits : ∃ read, frames (l.sendings.map Sending.frame) part = .wait read := by
    rcases hpart with rfl | ⟨-, f, later, size, hbytes, hlater⟩
    · exact ⟨_, rfl⟩
    · have hwhole : frames (l.sendings.map Sending.frame) (part ++ later) =
          .take (l.sendings.map Sending.frame ++ [f]) f.bytes.length := by
        have hread := f.ofBytes?_bytes size []
        rw [List.append_nil] at hread
        rw [← hbytes, frames, hread]
      refine frames_lawful.wait_of_part hwhole ?_
      rw [hbytes, List.length_append]
      have := List.length_pos_iff.mpr hlater
      omega
  obtain ⟨read, hwait⟩ := hwaits
  have hread : read = l.sendings.map Sending.frame := by
    unfold frames at hwait
    split at hwait
    · exact (Reading.wait.inj hwait).symm
    · exact absurd hwait (by simp)
  rw [hdrop, frames_pump hsizes, List.nil_append, Reader.pump_of_wait hwait, hread]

/-- **What a server reads, in every run**: behind a request that was taken whole, frame after frame
what was queued, made with the compressor that the run has at that time; and at most a part of one
more, after which nothing is sent. -/
theorem server_reads (h : (line system).Run {} l) (hrequested : l.requested = l.request.length) :
    ∃ part, frames.pump [] (l.sent.drop l.request.length) =
        .waiting (l.sendings.map Sending.frame) part ∧
      (∀ s ∈ l.sendings, s.Made system) ∧ (part = [] ∨ l.Broken part) := by
  obtain ⟨part, hsent, hpart, hmade⟩ := sent_of_run h
  exact ⟨part, read_of_sent hsent hpart hmade hrequested, hmade, hpart⟩

/-- A text that is compressed. -/
theorem reads_while_talking : ∃ l part, (line .hello).Run {} l ∧
    (l.sendings.map fun s => s.state.compresses .hello) = [true] ∧
    frames.pump [] (l.sent.drop l.request.length) =
        .waiting (l.sendings.map Sending.frame) part ∧
      (∀ s ∈ l.sendings, s.Made .hello) ∧ (part = [] ∨ l.Broken part) := by
  obtain ⟨l, hrun, htest⟩ := (line .hello).exists_run_of_replay (fun _ _ => true) {} talkingZipped
    (fun l => decide (l.requested = l.request.length) &&
      decide ((l.sendings.map fun s => s.state.compresses .hello) = [true]))
    (fun _ _ _ => trivial) (by decide +kernel)
  simp only [Bool.and_eq_true, decide_eq_true_eq] at htest
  obtain ⟨part, hreads⟩ := server_reads hrun htest.1
  exact ⟨l, part, hrun, htest.2, hreads⟩

end Starscream
