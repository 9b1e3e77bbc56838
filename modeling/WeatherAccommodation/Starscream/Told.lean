/-
# What the delegate is told

Seen from the delegate a socket waits for its connection, is online, or is offline; it hears of a
connection only where it is not online, of messages only where it is, and of the end of a connection
or of an attempt once.  `Told.hears` is that, and nothing of frames.

A socket is in the state of `told` when its callbacks have been called.  `Does` says of two states
that what is queued between them takes the delegate from one to the other; everything that is done
with the input `Does` (`does_dequeueInput`), whatever the bytes are.
-/
import WeatherAccommodation.Starscream.Wire

namespace Starscream

open Reactive Streaming WireFormat

variable {again : Bool}

/-! ## 1. The delegate -/

inductive Told where
  | waiting
  | online
  | offline
  deriving DecidableEq, Repr

/-- `none` for what is never called.  A socket that is offline may go online `again`. -/
def Told.hears (again : Bool) : Told → Callback → Option Told
  | .waiting, .didConnect => some .online
  | .online, .didConnect => none
  | .offline, .didConnect => if again then some .online else none
  | .offline, .didDisconnect _ => none
  | _, .didDisconnect _ => some .offline
  | .online, _ => some .online
  | _, _ => none

/-- A message or a pong. -/
def Callback.isMessage : Callback → Bool
  | .didReceiveMessage _ => true
  | .didReceiveData _ => true
  | .didReceivePong _ => true
  | _ => false

theorem Told.hears_of_isMessage {call : Callback} (h : call.isMessage = true) :
    Told.hears again .online call = some .online := by
  cases call with
  | didConnect => exact absurd h (by decide)
  | didDisconnect error => exact absurd h (by simp [Callback.isMessage])
  | didReceiveMessage text => rfl
  | didReceiveData data => rfl
  | didReceivePong data => rfl

theorem Told.foldlM_append {s t u : Told} {calls more : List Callback}
    (h₁ : calls.foldlM (Told.hears again) s = some t)
    (h₂ : more.foldlM (Told.hears again) t = some u) :
    (calls ++ more).foldlM (Told.hears again) s = some u := by
  rw [List.foldlM_append, h₁]
  exact h₂

namespace WebSocket

variable {system : System} {beyond : Nat → UInt8} {xs : Data} {ws t u : WebSocket}

/-- What the delegate knows of a socket when all callbacks have been called. -/
def told (ws : WebSocket) : Told :=
  if ws.connected then .online else if ws.didDisconnect then .offline else .waiting

/-! ## 2. What is done -/

/-- A socket that has been told to connect. -/
structure Live (ws : WebSocket) : Prop where
  readyToWrite : ws.readyToWrite = true
  didDisconnect : ws.connected = true → ws.didDisconnect = false
  settled : ws.Settled

/-- What a socket queues of its own accord: a pong, or a close frame. -/
def IsAnswer (op : WriteOperation) : Prop :=
  ∃ data code, op = .frame data code ∧ (code = .pong ∨ code = .connectionClose)

structure Does (again : Bool) (ws t : WebSocket) : Prop where
  live : t.Live
  calls : ∃ calls, t.callbackQueue = ws.callbackQueue ++ calls ∧
    calls.foldlM (Told.hears again) ws.told = some t.told
  answers : ∃ ops, t.writeQueue = ws.writeQueue ++ ops ∧ ∀ op ∈ ops, IsAnswer op
  stream : t.stream = ws.stream
  headerSecKey : t.headerSecKey = ws.headerSecKey

theorem Does.trans (h₁ : Does again ws t) (h₂ : Does again t u) : Does again ws u where
  live := h₂.live
  calls := by
    obtain ⟨calls, hcalls, htold⟩ := h₁.calls
    obtain ⟨more, hmore, htold'⟩ := h₂.calls
    refine ⟨calls ++ more, ?_, Told.foldlM_append htold htold'⟩
    rw [hmore, hcalls, List.append_assoc]
  answers := by
    obtain ⟨ops, hops, hanswers⟩ := h₁.answers
    obtain ⟨more, hmore, hanswers'⟩ := h₂.answers
    refine ⟨ops ++ more, by rw [hmore, hops, List.append_assoc], fun op hop => ?_⟩
    rcases List.mem_append.mp hop with hop | hop
    · exact hanswers op hop
    · exact hanswers' op hop
  stream := h₂.stream.trans h₁.stream
  headerSecKey := h₂.headerSecKey.trans h₁.headerSecKey

theorem Does.andThen (h : Does again ws t) (hmore : t.Live → Does again t u) : Does again ws u :=
  h.trans (hmore h.live)

/-- Nothing is told, and nothing sent. -/
theorem does_of_reads (hlive : ws.Live) (hreads : Reads ws t) (hsettled : t.Settled)
    (hcalls : t.callbackQueue = ws.callbackQueue) (hwrites : t.writeQueue = ws.writeQueue) :
    Does again ws t where
  live := by
    refine ⟨hreads.readyToWrite.trans hlive.readyToWrite, fun h => ?_, hsettled⟩
    rw [hreads.connected] at h
    exact hreads.didDisconnect.trans (hlive.didDisconnect h)
  calls := by
    refine ⟨[], by simp [hcalls], ?_⟩
    simp [told, hreads.connected, hreads.didDisconnect]
  answers := ⟨[], by simp [hwrites], by simp⟩
  stream := hreads.stream
  headerSecKey := hreads.headerSecKey

theorem Does.refl (hlive : ws.Live) : Does again ws ws :=
  does_of_reads hlive (.refl ws) hlive.settled rfl rfl

/-- An online socket tells a message. -/
theorem does_callback (hlive : ws.Live) (hconnected : ws.connected = true) (call : Callback)
    (hcall : call.isMessage = true) : Does again ws (ws.callback call) := by
  have hready := hlive.readyToWrite
  have hsame : ws.callback call = { ws with callbackQueue := ws.callbackQueue ++ [call] } := by
    simp [callback, hready]
  rw [hsame]
  refine ⟨⟨hready, hlive.didDisconnect, hlive.settled⟩, ⟨[call], rfl, ?_⟩,
    ⟨[], by simp, by simp⟩, rfl, rfl⟩
  simp [told, hconnected, Told.hears_of_isMessage hcall]

theorem does_dequeueWrite (hlive : ws.Live) (data : Data) {code : OpCode}
    (hcode : code = .pong ∨ code = .connectionClose) :
    Does again ws (ws.dequeueWrite data code) := by
  refine ⟨⟨hlive.readyToWrite, hlive.didDisconnect, hlive.settled⟩,
    ⟨[], by simp [dequeueWrite], rfl⟩, ⟨[.frame data code], rfl, ?_⟩, rfl, rfl⟩
  · intro op hop
    obtain rfl := List.mem_singleton.mp hop
    exact ⟨data, code, rfl, hcode⟩

/-- The end is told once. -/
theorem does_doDisconnect (hlive : ws.Live) (error : Option SocketError) :
    Does again ws (ws.doDisconnect error) := by
  unfold doDisconnect
  split
  · exact .refl hlive
  · rename_i hdid
    have hdid : ws.didDisconnect = false := by simpa using hdid
    have hready := hlive.readyToWrite
    refine ⟨⟨by simp [callback, hready], by simp [callback, hready], ?_⟩,
      ⟨[.didDisconnect error], by simp [callback, hready], ?_⟩, ⟨[], by simp [callback, hready],
        by simp⟩, by simp [callback, hready], by simp [callback, hready]⟩
    · intro r hr
      rw [readStack_callback] at hr
      exact hlive.settled r hr
    · cases hconnected : ws.connected with
      | true => simp [told, callback, hready, hconnected, Told.hears]
      | false => simp [told, callback, hready, hconnected, hdid, Told.hears]

theorem does_refuse (hlive : ws.Live) (message : String) (code : UInt16) :
    Does again ws (ws.refuse message code) :=
  (does_doDisconnect hlive _).andThen fun hlive => does_dequeueWrite hlive _ (.inr rfl)

theorem does_compressionState (hlive : ws.Live) (state : CompressionState) :
    Does again ws { ws with compressionState := state } :=
  does_of_reads hlive (reads_compressionState ws state) hlive.settled rfl rfl

theorem does_readStack (hlive : ws.Live) {stack : List WSResponse}
    (hstack : ∀ response ∈ stack, response.bytesLeft ≤ 0) :
    Does again ws { ws with readStack := stack } :=
  does_of_reads hlive (reads_readStack ws stack) hstack rfl rfl

theorem does_tail (hlive : ws.Live) : Does again ws { ws with readStack := ws.readStack.tail } :=
  does_readStack hlive fun response hr => hlive.settled response (List.mem_of_mem_tail hr)

/-! ## 3. What a frame does -/

theorem does_processResponse (hlive : ws.Live) (hconnected : ws.connected = true)
    (response : WSResponse) : Does again ws (ws.processResponse response) := by
  unfold processResponse
  split
  · split
    · exact (does_dequeueWrite hlive response.buffer (.inl rfl)).andThen does_tail
    · split
      · exact does_dequeueWrite hlive _ (.inr rfl)
      · rename_i str _
        exact (does_callback hlive hconnected (.didReceiveMessage str) rfl).andThen does_tail
    · exact (does_callback hlive hconnected (.didReceiveData response.buffer) rfl).andThen
        does_tail
    · exact does_tail hlive
  · exact .refl hlive

/-- A frame that is refused for its header. -/
theorem does_refusal (hlive : ws.Live) {h : Header} {code : UInt16}
    (hrefusal : ws.refusal h code = some t) : Does again ws t := by
  unfold refusal at hrefusal
  split at hrefusal
  · obtain rfl := Option.some.inj hrefusal
    exact does_refuse hlive _ _
  · split at hrefusal
    · obtain rfl := Option.some.inj hrefusal
      exact does_refuse hlive _ _
    · split at hrefusal
      · obtain rfl := Option.some.inj hrefusal
        exact does_refuse hlive _ _
      · split at hrefusal
        · split at hrefusal
          · obtain rfl := Option.some.inj hrefusal
            exact does_refuse hlive _ _
          · exact absurd hrefusal (by simp)
        · split at hrefusal
          · obtain rfl := Option.some.inj hrefusal
            exact does_dequeueWrite hlive _ (.inr rfl)
          · exact absurd hrefusal (by simp)

/-- What is left when something has been read: after a frame that is taken the socket is still
online. -/
def Leaves (again : Bool) (ws : WebSocket) : Reading WebSocket Trap → Prop
  | .wait t => Does again ws t
  | .take t _ => Does again ws t ∧ t.connected = true
  | .stop t => Does again ws t
  | .fail _ => True

theorem Does.leaves (h : Does again ws t) {r : Reading WebSocket Trap} (hr : Leaves again t r) :
    Leaves again ws r := by
  cases r with
  | wait u => exact h.trans hr
  | take u n => exact ⟨h.trans hr.1, hr.2⟩
  | stop u => exact h.trans hr
  | fail trap => exact trivial

theorem leaves_receiveMessage (hlive : ws.Live) (hconnected : ws.connected = true) (h : Header)
    (opcode : OpCode) {dataLength : Int} {len : Nat} (hlen : dataLength = len) (data : Data)
    (step : Nat) : Leaves again ws (ws.receiveMessage h opcode dataLength data len step) := by
  subst hlen
  have htakes : ∀ stack response, (∀ r ∈ stack, r.bytesLeft ≤ 0) →
      Does again ws (processResponse { ws with readStack := stack } response) ∧
        (processResponse { ws with readStack := stack } response).connected = true := by
    intro stack response hstack
    refine ⟨(does_readStack hlive hstack).andThen fun hlive =>
      does_processResponse hlive hconnected response, ?_⟩
    exact (reads_processResponse _ response).connected.trans hconnected
  unfold receiveMessage
  split
  · split
    · exact does_refuse hlive _ _
    · split
      · exact does_refuse hlive _ _
      · refine htakes _ _ fun r hr => ?_
        rcases List.mem_cons.mp hr with rfl | hr
        · simp
        · exact hlive.settled r hr
  · split
    · refine htakes _ _ fun r hr => ?_
      rcases List.mem_cons.mp hr with rfl | hr
      · simp
      · exact hlive.settled r (List.mem_of_mem_tail hr)
    · exact does_refuse hlive _ _

theorem leaves_receive (system : System) (hlive : ws.Live) (hconnected : ws.connected = true)
    (h : Header) (opcode : OpCode) (closeCode : UInt16) (bytes : Data) (step : Nat) :
    Leaves again ws (ws.receive system h opcode closeCode bytes.length bytes step) := by
  unfold receive
  split
  · exact trivial
  · dsimp only
    split
    · exact trivial
    · exact does_refuse hlive _ _
    · rename_i data state hdata
      have hfirst : Does again ws { ws with compressionState := state } :=
        does_compressionState hlive state
      split
      · split
        · exact hfirst.trans (does_refuse hfirst.live _ _)
        · exact hfirst.trans (does_refuse hfirst.live _ _)
      · split
        · refine ⟨hfirst.trans (does_callback hfirst.live hconnected _ rfl), ?_⟩
          exact (reads_callback _ _).connected.trans hconnected
        · exact hfirst.leaves (leaves_receiveMessage hfirst.live hconnected h opcode rfl data step)

theorem leaves_processFrame (hlive : ws.Live) (hconnected : ws.connected = true) :
    Leaves again ws (ws.processFrame system beyond xs) := by
  unfold processFrame
  dsimp only
  generalize Header.ofBytes (byteAt beyond xs 0) (byteAt beyond xs 1) = h
  have hnote : Does again ws (ws.noteCompression h) := does_compressionState hlive _
  have hnoted : (ws.noteCompression h).connected = true := hconnected
  split
  · rename_i t hrefusal
    exact hnote.trans (does_refusal hnote.live hrefusal)
  · exact hnote
  · split
    · exact hnote
    · rename_i opcode _ _ hwhole
      simp only [Bool.or_eq_true, decide_eq_true_eq, not_or, Nat.not_lt] at hwhole
      have hlen : ((xs.drop (lengthAt (byteAt beyond xs) h).2).take
          (if xs.length < (lengthAt (byteAt beyond xs) h).1 then
            xs.length - (lengthAt (byteAt beyond xs) h).2
          else (lengthAt (byteAt beyond xs) h).1)).length = (lengthAt (byteAt beyond xs) h).1 := by
        rw [if_neg (by omega), List.length_take, List.length_drop]
        omega
      have hreceived := @leaves_receive again _ system hnote.live hnoted h opcode
        (h.closeCode (readUint16 (byteAt beyond xs) 2))
        ((xs.drop (lengthAt (byteAt beyond xs) h).2).take
          (if xs.length < (lengthAt (byteAt beyond xs) h).1 then
            xs.length - (lengthAt (byteAt beyond xs) h).2
          else (lengthAt (byteAt beyond xs) h).1))
        ((lengthAt (byteAt beyond xs) h).2 +
          (if xs.length < (lengthAt (byteAt beyond xs) h).1 then
            xs.length - (lengthAt (byteAt beyond xs) h).2
          else (lengthAt (byteAt beyond xs) h).1))
      rw [hlen] at hreceived
      exact hnote.leaves hreceived

theorem leaves_processOneRawMessage (system : System) (beyond : Nat → UInt8) (xs : Data)
    (hlive : ws.Live) (hconnected : ws.connected = true) :
    Leaves again ws (ws.processOneRawMessage system beyond xs) := by
  unfold processOneRawMessage
  split
  · rename_i response rest hstack
    have hleft : response.bytesLeft ≤ 0 := hlive.settled response (by simp [hstack])
    split
    · exact .refl hlive
    · rw [if_neg (by omega)]
      exact leaves_processFrame hlive hconnected
  · exact leaves_processFrame hlive hconnected

/-! ## 4. What the input does -/

theorem does_fragBuffer (hlive : ws.Live) (kept : Option Data) :
    Does again ws { ws with fragBuffer := kept } where
  live := ⟨hlive.readyToWrite, hlive.didDisconnect, hlive.settled⟩
  calls := ⟨[], by simp, rfl⟩
  answers := ⟨[], by simp, by simp⟩
  stream := rfl
  headerSecKey := rfl

theorem does_processRawMessagesFor {fuel : Nat} (hlive : ws.Live) (hconnected : ws.connected = true)
    (hok : processRawMessagesFor system beyond fuel ws xs = .ok t) : Does again ws t := by
  induction fuel generalizing ws xs with
  | zero =>
    obtain rfl := Except.ok.inj hok
    exact .refl hlive
  | succ fuel ih =>
    have hleaves : Leaves again ws (ws.processOneRawMessage system beyond xs) :=
      leaves_processOneRawMessage system beyond xs hlive hconnected
    simp only [processRawMessagesFor] at hok
    cases hreading : ws.processOneRawMessage system beyond xs with
    | fail trap => exact absurd hok (by simp [hreading])
    | wait u =>
      rw [hreading] at hok hleaves
      obtain rfl := Except.ok.inj hok
      exact Does.trans hleaves (does_fragBuffer (Does.live hleaves) _)
    | stop u =>
      rw [hreading] at hok hleaves
      obtain rfl := Except.ok.inj hok
      exact hleaves
    | take u n =>
      rw [hreading] at hok hleaves
      obtain ⟨hdoes, hu⟩ := hleaves
      dsimp only at hok
      split at hok
      · exact hdoes.trans (ih hdoes.live hu hok)
      · split at hok
        · obtain rfl := Except.ok.inj hok
          exact hdoes.trans (does_fragBuffer hdoes.live _)
        · obtain rfl := Except.ok.inj hok
          exact hdoes

/-- The connection is told once. -/
theorem does_connect101 (hlive : ws.Live) (hconnected : ws.connected = false)
    (hmay : again = true ∨ ws.didDisconnect = false) : Does again ws ws.connect101 := by
  have hready := hlive.readyToWrite
  refine ⟨⟨by simp [connect101, callback, hready], by simp [connect101, callback, hready], ?_⟩,
    ⟨[.didConnect], by simp [connect101, callback, hready], ?_⟩,
    ⟨[], by simp [connect101, callback, hready], by simp⟩, by simp [connect101, callback, hready],
    by simp [connect101, callback, hready]⟩
  · intro r hr
    rw [connect101, readStack_callback] at hr
    exact hlive.settled r hr
  · rcases hmay with rfl | hdid
    · cases hdid : ws.didDisconnect with
      | true => simp [told, connect101, callback, hready, hconnected, hdid, Told.hears]
      | false => simp [told, connect101, callback, hready, hconnected, hdid, Told.hears]
    · simp [told, connect101, callback, hready, hconnected, hdid, Told.hears]

theorem does_validateResponse (hlive : ws.Live) {response : Data} {code : Int}
    (h : ws.validateResponse system response = .ok (t, code)) : Does again ws t := by
  obtain ⟨hreads, hstack, hcalls, hwrites⟩ := reads_validateResponse h
  exact does_of_reads hlive hreads (fun r hr => hlive.settled r (hstack ▸ hr)) hcalls hwrites

theorem does_processTCPHandshake (hlive : ws.Live) (hconnected : ws.connected = false)
    (hmay : again = true ∨ (ws.didDisconnect = true →
      ∀ response, response? xs = some response → ¬ws.Accepts system response))
    (hok : ws.processTCPHandshake system beyond xs = .ok t) : Does again ws t := by
  have hview := ws.handshakeReading_view system xs
  rw [processTCPHandshake_eq] at hok
  generalize ws.handshakeReading system xs = reading at hview hok
  cases hview with
  | unfinished hend =>
    obtain rfl := Except.ok.inj hok
    exact does_fragBuffer hlive _
  | traps hend answer => exact absurd hok (by simp)
  | @accepted u hend answer =>
    have hanswer : Does again ws u := does_validateResponse hlive answer
    have hstill := (reads_validateResponse answer).1.connected
    have hdid := (reads_validateResponse answer).1.didDisconnect
    have hconnects : Does again u u.connect101 := by
      refine does_connect101 hanswer.live (hstill.trans hconnected) (hmay.imp_right fun hends => ?_)
      by_contra hended
      have hended : ws.didDisconnect = true := hdid.symm.trans (by simpa using hended)
      exact hends hended _ (if_pos hend) ((accepted_iff ws system _).mp ⟨u, answer⟩)
    have hon : u.connect101.connected = true := by
      simp [connect101, callback, hanswer.live.readyToWrite]
    dsimp only at hok
    split at hok
    · exact (hanswer.trans hconnects).trans (does_processRawMessagesFor hconnects.live hon hok)
    · obtain rfl := Except.ok.inj hok
      exact hanswer.trans hconnects
  | @kept u hend answer =>
    have hanswer : Does again ws u := does_validateResponse hlive answer
    obtain rfl := Except.ok.inj hok
    exact hanswer.trans (does_fragBuffer hanswer.live _)
  | @refused u _ hend answer zero minus =>
    have hanswer : Does again ws u := does_validateResponse hlive answer
    obtain rfl := Except.ok.inj hok
    exact hanswer.trans (does_doDisconnect hanswer.live _)

/-- No other answer is accepted after the end. -/
def StaysOffline (ws : WebSocket) (system : System) (data : Data) : Prop :=
  ws.connected = false → ws.didDisconnect = true →
    ∀ response, response? (ws.fragBuffer.getD [] ++ data) = some response →
      ¬ws.Accepts system response

/-- **What the delegate is told of a piece of the input** it may be told, whatever is in it. -/
theorem does_dequeueInput (hlive : ws.Live) {data : Data}
    (hmay : again = true ∨ ws.StaysOffline system data)
    (hok : ws.dequeueInput system beyond data = .ok t) : Does again ws t := by
  have hcleared : Does again ws { ws with fragBuffer := none } := does_fragBuffer hlive none
  unfold dequeueInput at hok
  dsimp only at hok
  refine hcleared.trans ?_
  split at hok
  · rename_i hoff
    have hoff : ws.connected = false := by simpa using hoff
    exact does_processTCPHandshake hcleared.live hoff (hmay.imp_right fun hstays => hstays hoff) hok
  · rename_i hon
    exact does_processRawMessagesFor hcleared.live (by simpa using hon) hok

end WebSocket

end Starscream
