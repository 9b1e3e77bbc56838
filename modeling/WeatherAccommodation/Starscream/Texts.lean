/-
# Which texts a server hears

A server that has agreed on compression inflates the frames that say so.  If its zlib is in step
with the compressor of the socket to begin with, it stays so, whatever comes in meanwhile: the input
leaves the compressor alone, but for the answer to the upgrade, which may bring a new one.

* `Unzipper`: such a server, with what is asked of the two zlibs;
* `texts_are_heard`: the texts are heard as they were written, in every run.
-/
import WeatherAccommodation.Starscream.Sent

namespace Starscream

open Reactive Streaming WireFormat

variable {system : System}

/-! ## 1. A server that inflates -/

/-- The text that a frame is, to whoever reads it. -/
def textOf (f : Frame) : Option String :=
  if f.head = FinMask ||| OpCode.textFrame.rawValue then utf8String f.payload else none

/-- The zlib of a server, and when it is in step with a compressor: then it makes of what was
compressed what was compressed. -/
structure Unzipper (system : System) where
  State : Type
  fresh : State
  /-- What the payload of a frame comes to, without the end that is not sent. -/
  inflate : State → Data → Option (Data × State)
  InStep : State → Codec → Prop
  fresh_inStep : ∀ windowBits, InStep fresh { windowBits }
  inflate_inStep : ∀ {s : State} {compressor : Codec} {data out : Data}, InStep s compressor →
    system.deflate compressor data = some out → 4 ≤ out.length →
    ∃ t, inflate s (out.take (out.length - 4)) = some (data, t) ∧
      InStep t { compressor with done := compressor.done ++ data }

namespace Unzipper

variable (u : Unzipper system) (anew : Bool)

/-- One frame after the other: a frame that says that it is compressed is inflated, and after it
zlib starts anew, if that was agreed on. -/
def hear (x : u.State × List String) (f : Frame) : u.State × List String :=
  if f.head &&& RSV1Mask = 0 then (x.1, x.2 ++ (textOf f).toList)
  else
    match u.inflate x.1 f.payload with
    | none => x
    | some (data, t) =>
      (if anew then u.fresh else t,
        x.2 ++ (textOf { f with head := f.head ^^^ RSV1Mask, payload := data }).toList)

def hears (fs : List Frame) : u.State × List String := fs.foldl (u.hear anew) (u.fresh, [])

theorem hears_concat (fs : List Frame) (f : Frame) :
    u.hears anew (fs ++ [f]) = u.hear anew (u.hears anew fs) f := by
  simp [hears, List.foldl_append]

end Unzipper

/-- What is made of a frame that was queued. -/
theorem textOf_eq (data : Data) (code : OpCode) (maskKey : Option MaskKey) :
    textOf ⟨FinMask ||| code.rawValue, maskKey, data⟩ =
      (WriteOperation.frame data code).text? := by
  cases code <;> rfl

theorem head_and_RSV1Mask (code : OpCode) :
    (FinMask ||| code.rawValue) &&& RSV1Mask = 0 ∧
      (FinMask ||| code.rawValue ||| RSV1Mask) &&& RSV1Mask ≠ 0 ∧
      (FinMask ||| code.rawValue ||| RSV1Mask) ^^^ RSV1Mask = FinMask ||| code.rawValue := by
  cases code <;> decide

variable {l m : Line} {e : Event} {u : Unzipper system}

/-! ## 2. Steps -/

/-- The frames that have gone out. -/
def Line.frames (l : Line) : List Frame := l.sendings.map Sending.frame

def Line.anew (l : Line) : Bool := l.socket.compressionState.clientNoContextTakeover

/-- The server has heard the texts that have gone out, and can inflate the next. -/
structure Line.InStep (u : Unzipper system) (l : Line) : Prop where
  sound : l.Sound true
  texts : (u.hears l.anew l.frames).2 = l.gone
  compressor : l.socket.stream ≠ .closed → l.broken = false → ∀ compressor,
    l.socket.compressionState.compressor = some compressor →
    u.InStep (u.hears l.anew l.frames).1 compressor ∧
      system.initDeflate compressor.windowBits = true

/-- The server does not go on when the socket has disconnected: there is input for a connected
socket only, once a frame has gone out. -/
def AnswersOnce (l : Line) : Event → Prop
  | .newBytesInStream _ _ => l.socket.connected = true ∨ l.sendings = []
  | _ => True

/-- The same as a test. -/
def answersOnce (l : Line) : Event → Bool
  | .newBytesInStream _ _ => l.socket.connected || l.sendings.isEmpty
  | _ => true

theorem answersOnce_of_test {l : Line} {e : Event} (h : answersOnce l e = true) :
    AnswersOnce l e := by
  cases e with
  | newBytesInStream data beyond => simpa [answersOnce, AnswersOnce] using h
  | _ => trivial

/-- What has gone out is the same, and so is what it is compressed with. -/
theorem Line.InStep.same (hl : l.InStep u) (hm : m.Sound true) (hsendings : m.sendings = l.sendings)
    (hsame : WebSocket.SameOutput system l.socket m.socket)
    (hstream : m.socket.stream ≠ .closed → l.socket.stream ≠ .closed)
    (hbroken : m.broken = false → l.broken = false) : m.InStep u := by
  have hanew : m.anew = l.anew := hsame.clientNoContextTakeover
  have hframes : m.frames = l.frames := by rw [Line.frames, Line.frames, hsendings]
  refine ⟨hm, ?_, fun hopen hwhole compressor hcompressor => ?_⟩
  · rw [hanew, hframes, hl.texts, Line.gone, Line.gone, hsendings]
  · rw [hanew, hframes]
    exact hl.compressor (hstream hopen) (hbroken hwhole) compressor
      (hsame.compressor.symm.trans hcompressor)

/-- The stream is closed for good. -/
theorem Line.InStep.closed (hl : l.InStep u) (hm : m.Sound true)
    (hsendings : m.sendings = l.sendings)
    (hanew : m.anew = l.anew) (hclosed : m.socket.stream = .closed) : m.InStep u := by
  have hframes : m.frames = l.frames := by rw [Line.frames, Line.frames, hsendings]
  refine ⟨hm, ?_, fun hopen => absurd hclosed hopen⟩
  rw [hanew, hframes, hl.texts, Line.gone, Line.gone, hsendings]

/-- The end of a connection. -/
theorem Line.InStep.ends (hl : l.InStep u) {error : Option SocketError}
    (hm : Line.Sound { l with socket := l.socket.disconnectStream error true } true) :
    Line.InStep u { l with socket := l.socket.disconnectStream error true } :=
  hl.closed hm rfl
    (congrArg CompressionState.clientNoContextTakeover
      (WebSocket.compressionState_disconnectStream l.socket error))
    (closed_disconnectStream l.socket error).1

/-- An operation changes the compressor at most. -/
theorem anew_of_operated {handing : Handing} (h : Operated system l m handing) :
    m.anew = l.anew := by
  cases h with
  | request queue fits takes => rfl
  | whole queue logged prepared size takes =>
    obtain ⟨compressor, -, hkeeps⟩ := WebSocket.prepare_keeps prepared
    obtain rfl := congrArg WebSocket.compressionState hkeeps
    rfl
  | part queue size bytes missing cut takes keeps =>
    obtain ⟨compressor, -, rfl⟩ := keeps
    unfold Line.anew
    dsimp only
    split
    · rw [WebSocket.compressionState_doDisconnect]
    · rfl

/-- A frame that has gone out is heard, and the server keeps in step. -/
theorem Line.InStep.whole (hl : l.InStep u) {state : CompressionState} {sending : Sending}
    (hopen : l.Open)
    (hprepared : l.socket.prepare system sending.data sending.code =
      .ok ({ l.socket with compressionState := state }, sending.frame.head, sending.frame.payload))
    (hm : m.Sound true) (hsendings : m.sendings = l.sendings ++ [sending])
    (hstate : m.socket.compressionState = state) : m.InStep u := by
  have hinit : ∀ c, l.socket.compressionState.compressor = some c →
      system.initDeflate c.windowBits = true := fun c hc =>
    (hl.compressor (by simp [hopen.1]) hopen.2 c hc).2
  have hframes : m.frames = l.frames ++ [sending.frame] := by
    simp [Line.frames, hsendings]
  have hgone : m.gone = l.gone ++ sending.text?.toList := by
    rw [Line.gone, Line.gone, hsendings, List.filterMap_append]
    cases hsending : sending.text? with
    | none => simp [hsending]
    | some text => simp [hsending]
  obtain ⟨hplain, hmarked, hunmarked⟩ := head_and_RSV1Mask sending.code
  have htext : ∀ maskKey, textOf ⟨FinMask ||| sending.code.rawValue, maskKey, sending.data⟩ =
      sending.text? := fun maskKey => textOf_eq sending.data sending.code maskKey
  rcases WebSocket.prepare_cases hinit hprepared with
    ⟨hsame, hhead, hpayload⟩ | ⟨compressor, out, -, hcompressor, hout, hlen, hpayload, hhead, hset⟩
  · obtain rfl : state = l.socket.compressionState := congrArg WebSocket.compressionState hsame
    have hanew : m.anew = l.anew := by rw [Line.anew, hstate, Line.anew]
    have hheard : u.hears m.anew m.frames =
        ((u.hears l.anew l.frames).1, (u.hears l.anew l.frames).2 ++ sending.text?.toList) := by
      have hframe : sending.frame =
          ⟨FinMask ||| sending.code.rawValue, sending.frame.maskKey, sending.data⟩ := by
        rw [← hhead, ← hpayload]
      rw [hanew, hframes, u.hears_concat, Unzipper.hear, hhead, if_pos hplain, hframe, htext]
    refine ⟨hm, ?_, fun _ _ c hc => ?_⟩
    · rw [hheard, hl.texts, hgone]
    · rw [hheard]
      rw [hstate] at hc
      exact hl.compressor (by simp [hopen.1]) hopen.2 c hc
  · obtain rfl : state = _ := congrArg WebSocket.compressionState hset
    have hanew : m.anew = l.anew := by
      rw [Line.anew, hstate]
      rfl
    obtain ⟨hstep, hwindow⟩ := hl.compressor (by simp [hopen.1]) hopen.2 compressor hcompressor
    obtain ⟨t, hinflate, hafter⟩ := u.inflate_inStep hstep hout hlen
    have hheard : u.hears m.anew m.frames = (if l.anew then u.fresh else t,
        (u.hears l.anew l.frames).2 ++ sending.text?.toList) := by
      rw [hanew, hframes, u.hears_concat, Unzipper.hear, hhead, if_neg hmarked, hpayload, hinflate]
      dsimp only
      rw [hunmarked, htext]
    refine ⟨hm, ?_, fun _ _ c hc => ?_⟩
    · rw [hheard, hl.texts, hgone]
    · rw [hstate] at hc
      obtain rfl := Option.some.inj hc
      rw [hheard]
      refine ⟨?_, hwindow⟩
      cases hnew : l.anew with
      | true =>
        have htake : l.socket.compressionState.clientNoContextTakeover = true := hnew
        rw [htake]
        exact u.fresh_inStep compressor.windowBits
      | false =>
        have htake : l.socket.compressionState.clientNoContextTakeover = false := hnew
        rw [htake]
        exact hafter

theorem Line.InStep.step (hl : l.InStep u) (honce : AnswersOnce l e)
    (hstep : Stepped system l e m) : m.InStep u := by
  have hm := hl.sound.stepped hstep
  cases hstep with
  | connect fresh => exact absurd fresh (by simp [hl.sound.live.readyToWrite])
  | @streamConnected error stream =>
    cases error with
    | none =>
      exact hl.same hm rfl (.of_state rfl) (fun _ => by simp [stream]) (fun h => h)
    | some error => exact hl.ends hm
  | newBytesInStream stream some_data ok =>
    cases hconnected : l.socket.connected with
    | true =>
      exact hl.same hm rfl (WebSocket.sameOutput_dequeueInput hconnected ok)
        (fun _ => by simp [stream]) (fun h => h)
    | false =>
      have hnone : l.sendings = [] := by
        rcases honce with hon | hnone
        · exact absurd (hconnected.symm.trans hon) (by simp)
        · exact hnone
      have hframes : ∀ anew, u.hears anew l.frames = (u.fresh, []) := fun anew => by
        simp [Line.frames, hnone, Unzipper.hears]
      refine ⟨hm, ?_, fun _ hwhole compressor hcompressor => ?_⟩
      · change (u.hears _ l.frames).2 = l.gone
        rw [hframes, Line.gone, hnone]
        rfl
      · change u.InStep (u.hears _ l.frames).1 compressor ∧ _
        rw [hframes]
        rcases WebSocket.renews_dequeueInput hconnected ok with hsame | hnew
        · obtain ⟨hin, hinit⟩ := hl.compressor (by simp [stream]) hwhole compressor
            (hsame.symm.trans hcompressor)
          rw [hframes] at hin
          exact ⟨hin, hinit⟩
        · obtain ⟨hdone, hinit⟩ := hnew compressor hcompressor
          have hfresh : compressor = { windowBits := compressor.windowBits } := by rw [← hdone]
          rw [hfresh]
          exact ⟨u.fresh_inStep compressor.windowBits, hinit⟩
  | endEncountered stream queue => exact hl.ends hm
  | @errorOccurred code maskKey lens v stream cut =>
    rcases cut with rfl | hcut
    · exact hl.ends hm
    · have hclosed := (closed_disconnectStream v.socket (some (.stream code))).1
      have hstate := congrArg CompressionState.clientNoContextTakeover
        (WebSocket.compressionState_disconnectStream v.socket (some (.stream code)))
      have hanew := hstate.trans (anew_of_operated hcut)
      cases hcut with
      | part queue size bytes missing cut takes keeps => exact hl.closed hm rfl hanew hclosed
  | @write string =>
    obtain ⟨hstate, hstream⟩ := l.socket.write_keeps string
    exact hl.same hm rfl (.of_state hstate) (fun h hc => h (hstream.trans hc)) (fun h => h)
  | disconnect =>
    obtain ⟨hstate, hstream⟩ := l.socket.disconnect_keeps
    exact hl.same hm rfl (.of_state hstate) (fun h hc => h (hstream.trans hc)) (fun h => h)
  | @runOperation maskKey lens v handing operated ended =>
    have hanew := anew_of_operated operated
    cases operated with
    | request queue fits takes =>
      exact hl.same hm rfl (.of_state rfl) (fun h => h) (fun h => (Bool.or_eq_false_iff.mp h).1)
    | whole queue logged prepared size takes => exact hl.whole takes prepared hm rfl rfl
    | part queue size bytes missing cut takes keeps =>
      have hfailed : handing = .failed := by
        cases handing with
        | done => exact absurd rfl cut
        | cancelled => exact absurd rfl ended
        | failed => rfl
      refine ⟨hm, ?_, fun _ hwhole => absurd hwhole (by simp [Line.next, hfailed])⟩
      have htexts := hl.texts
      rw [← hanew] at htexts
      exact htexts
  | runCallback queue => exact hl.same hm rfl (.of_state rfl) (fun h => h) (fun h => h)

/-! ## 3. Every run -/

theorem inStep_opening (u : Unzipper system) (secKey : String) (request : Data) :
    (Line.opening secKey request).InStep u where
  sound := sound_opening secKey request
  texts := rfl
  compressor := fun _ _ compressor h => absurd h (by simp [Line.opening, WebSocket.connect,
    WebSocket.disconnectStream, WebSocket.cleanupStream])

theorem inStep_of_run (u : Unzipper system) (h : (line system).RunWhere AnswersOnce {} l) :
    l = {} ∨ l.InStep u :=
  invariant_of_run (fun hl => hl.sound.live) (inStep_opening u)
    (fun hl honce hstep => hl.step honce hstep) h

/-- The texts that have gone out are heard. -/
theorem hears_of_run (u : Unzipper system) (h : (line system).RunWhere AnswersOnce {} l)
    (hrequested : l.requested = l.request.length) :
    ∃ read part, frames.pump [] (l.sent.drop l.request.length) = .waiting read part ∧
      (u.hears l.anew read).2 = l.gone := by
  obtain ⟨part, hsent, hpart, hmade⟩ := sent_of_run h.run
  refine ⟨_, part, read_of_sent hsent hpart hmade hrequested, ?_⟩
  rcases inStep_of_run u h with rfl | hl
  · rfl
  · exact hl.texts

/-- **What a server hears**: the texts that were written while the socket was connected, in their
order, as far as it has come, whether they are compressed or not; and as long as the stream takes
what it is offered, all of them but those that are still queued. -/
theorem texts_are_heard (u : Unzipper system) (h : (line system).RunWhere AnswersOnce {} l)
    (hrequested : l.requested = l.request.length) :
    ∃ read part, frames.pump [] (l.sent.drop l.request.length) = .waiting read part ∧
      (u.hears l.anew read).2 <+: l.texts ∧
      (l.Open → l.texts = (u.hears l.anew read).2 ++ l.queued) := by
  obtain ⟨read, part, hread, hgone⟩ := hears_of_run u h hrequested
  refine ⟨read, part, hread, ?_⟩
  rw [hgone]
  rcases sends_of_run h.run with rfl | hl
  · exact ⟨⟨[], rfl⟩, fun _ => rfl⟩
  · exact ⟨hl.texts, fun hopen => hl.open_texts (.inr hopen)⟩

/-- The zlib of a server for `Hello`: the same as that of the socket. -/
def Unzipper.hello : Unzipper .hello where
  State := Data
  fresh := []
  inflate := fun done payload =>
    (System.hello.inflate { windowBits := 15, done } (payload ++ Codec.tail)).map fun data =>
      (data, done ++ (payload ++ Codec.tail))
  InStep := fun done compressor => compressor.done = [] → done = []
  fresh_inStep := fun _ _ => rfl
  inflate_inStep := by
    intro done compressor data out hstep hout _
    simp only [System.hello] at hout
    split at hout
    · rename_i hfirst
      obtain ⟨hnone, rfl⟩ := hfirst
      obtain rfl := Option.some.inj hout
      obtain rfl := hstep hnone
      have hsome : utf8Data "Hello" ≠ [] := by decide +kernel
      exact ⟨zipped, by decide +kernel, fun hagain => absurd hagain (by simpa [hnone] using hsome)⟩
    · exact absurd hout (by simp)

theorem heard_while_talking : ∃ l read part, (line .hello).Run {} l ∧
    frames.pump [] (l.sent.drop l.request.length) = .waiting read part ∧
    (Unzipper.hello.hears l.anew read).2 = ["Hello"] := by
  obtain ⟨l, hrun, htest⟩ := (line .hello).exists_run_of_replay answersOnce {} talkingZipped
    (fun l => decide (l.requested = l.request.length) && decide (l.texts = ["Hello"]) &&
      decide (l.socket.stream = .isOpen) && decide (l.broken = false) && decide (l.queued = []))
    (fun _ _ => answersOnce_of_test) (by decide +kernel)
  simp only [Bool.and_eq_true, decide_eq_true_eq] at htest
  obtain ⟨⟨⟨⟨hrequested, htexts⟩, hstream⟩, hbroken⟩, hqueued⟩ := htest
  obtain ⟨read, part, hread, -, hall⟩ := texts_are_heard Unzipper.hello hrun hrequested
  have hheard := hall ⟨hstream, hbroken⟩
  rw [htexts, hqueued, List.append_nil] at hheard
  exact ⟨l, read, part, hrun.run, hread, hheard.symm⟩

end Starscream
