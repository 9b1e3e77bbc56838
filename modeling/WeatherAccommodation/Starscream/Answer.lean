/-
# What the answer to the upgrade comes to

An answer is accepted, or refused with its status; and one that is refused with -1 counts as one
that has not come to its end.

* `connects_iff`: the delegate hears of a connection exactly if the answer is accepted;
* `rejected_is_silent`: one that is refused with -1, such as a switch of protocols with the digest
  of another key, is kept for good: until the stream ends the delegate hears nothing of it, whatever
  the server sends and the app does.
-/
import WeatherAccommodation.Starscream.Sent

namespace Starscream

open Reactive Streaming WireFormat

variable {system : System} {beyond : Nat → UInt8} {xs ys : Data} {ws t : WebSocket}

/-! ## 1. Acceptance -/

namespace WebSocket

/-- Either it is accepted, and the connection is told; or all that may be told is the end. -/
theorem connects_cases (hlive : ws.Live)
    (hok : ws.processTCPHandshake system beyond xs = .ok t) :
    (∃ response calls, response? xs = some response ∧ ws.Accepts system response ∧
      t.callbackQueue = ws.callbackQueue ++ .didConnect :: calls) ∨
    (∀ response, response? xs = some response → ¬ws.Accepts system response) ∧
      ∃ calls, t.callbackQueue = ws.callbackQueue ++ calls ∧ Callback.didConnect ∉ calls := by
  have hnone : 0 < headerEnd 0 0 xs → ∀ {u : WebSocket} {code : Int}, code ≠ 0 →
      ws.validateResponse system (xs.take (headerEnd 0 0 xs)) = .ok (u, code) →
      ∀ response, response? xs = some response → ¬ws.Accepts system response := by
    intro hend u code hcode hanswer response hresponse haccepts
    obtain rfl := Option.some.inj ((if_pos hend).symm.trans hresponse)
    obtain ⟨v, hzero⟩ := (accepted_iff ws system _).mpr haccepts
    exact hcode (Prod.mk.inj (Except.ok.inj (hanswer.symm.trans hzero))).2
  have hview := ws.handshakeReading_view system xs
  rw [processTCPHandshake_eq] at hok
  generalize ws.handshakeReading system xs = reading at hview hok
  cases hview with
  | unfinished hend =>
    obtain rfl := Except.ok.inj hok
    have hnone : response? xs = none := if_neg (by omega)
    exact .inr ⟨by simp [hnone], [], by simp, by simp⟩
  | traps hend answer => exact absurd hok (by simp)
  | @accepted u hend answer =>
    obtain ⟨-, -, hcalls, -⟩ := reads_validateResponse answer
    have hanswer : Does true ws u := does_validateResponse hlive answer
    have hready := hanswer.live.readyToWrite
    have hresponse : response? xs = some (xs.take (headerEnd 0 0 xs)) := if_pos hend
    have haccepts := (accepted_iff ws system _).mp ⟨u, answer⟩
    have hconnects : u.connect101.callbackQueue = ws.callbackQueue ++ [.didConnect] := by
      simp [connect101, callback, hready, hcalls]
    have hlives : u.connect101.Live := by
      refine ⟨by simp [connect101, callback, hready], by simp [connect101, callback, hready],
        fun r hr => ?_⟩
      rw [connect101, readStack_callback] at hr
      exact hanswer.live.settled r hr
    dsimp only at hok
    refine .inl ⟨xs.take (headerEnd 0 0 xs), ?_⟩
    split at hok
    · have hon : u.connect101.connected = true := by simp [connect101, callback, hready]
      obtain ⟨calls, hmore, -⟩ :=
        (@does_processRawMessagesFor true _ _ _ _ _ _ hlives hon hok).calls
      refine ⟨calls, hresponse, haccepts, ?_⟩
      rw [hmore, hconnects, List.append_assoc]
      rfl
    · obtain rfl := Except.ok.inj hok
      exact ⟨[], hresponse, haccepts, hconnects⟩
  | kept hend answer =>
    obtain ⟨-, -, hcalls, -⟩ := reads_validateResponse answer
    obtain rfl := Except.ok.inj hok
    exact .inr ⟨hnone hend (by decide) answer, [], by simp [hcalls], by simp⟩
  | @refused u code hend answer zero minus =>
    obtain ⟨hreads, -, hcalls, -⟩ := reads_validateResponse answer
    have hready := hreads.readyToWrite.trans hlive.readyToWrite
    obtain rfl := Except.ok.inj hok
    refine .inr ⟨hnone hend zero answer, ?_⟩
    unfold doDisconnect
    split
    · exact ⟨[], by simp [hcalls], by simp⟩
    · exact ⟨[.didDisconnect (some (.ws {
        type := .upgradeError, message := "Invalid HTTP upgrade", code }))],
        by simp [callback, hready, hcalls], by simp⟩

end WebSocket

variable {l t : Line} {e : Event}

/-- **When the delegate hears of a connection**: in any run, exactly with the piece of the input
that brings the last byte of an answer that is accepted. -/
theorem connects_iff (h : (line system).Run {} l) (hoff : l.socket.connected = false) {data : Data}
    (hstep : (line system).Step l (.newBytesInStream data beyond) t) :
    ∃ calls, t.story = l.story ++ calls ∧ (Callback.didConnect ∈ calls ↔
      ∃ response, response? (l.socket.fragBuffer.getD [] ++ data) = some response ∧
        l.socket.Accepts system response) := by
  have hl : l.Sound true := by
    rcases sound_of_run h with rfl | hl
    · cases stepped (.inl rfl) hstep with
      | newBytesInStream stream some_data ok => exact absurd stream (by simp)
    · exact hl
  cases stepped (.inr hl.live) hstep with
  | newBytesInStream stream some_data ok =>
    have hlive : ({ l.socket with fragBuffer := none } : WebSocket).Live :=
      ⟨hl.live.readyToWrite, hl.live.didDisconnect, hl.live.settled⟩
    unfold WebSocket.dequeueInput at ok
    dsimp only at ok
    rw [if_pos (by simp [hoff])] at ok
    rcases WebSocket.connects_cases hlive ok with
      ⟨response, calls, hresponse, haccepts, hcalls⟩ | ⟨hnone, calls, hcalls, hnot⟩
    · refine ⟨.didConnect :: calls, ?_, ?_⟩
      · rw [Line.story, Line.story, hcalls, List.append_assoc]
      · exact ⟨fun _ => ⟨response, hresponse, haccepts⟩, fun _ => by simp⟩
    · refine ⟨calls, ?_, ?_⟩
      · rw [Line.story, Line.story, hcalls, List.append_assoc]
      · constructor
        · exact fun hmem => absurd hmem hnot
        · rintro ⟨response, hresponse, haccepts⟩
          exact absurd haccepts (hnone response hresponse)

/-- The status of a response. -/
def WebSocket.answers (ws : WebSocket) (system : System) (response : Data) (code : Int) : Bool :=
  (ws.validateResponse system response).toOption.any fun answer => decide (answer.2 = code)

theorem WebSocket.exists_of_answers {response : Data} {code : Int}
    (h : ws.answers system response code = true) :
    ∃ t, ws.validateResponse system response = .ok (t, code) := by
  unfold answers at h
  cases hanswer : ws.validateResponse system response with
  | error trap => simp [hanswer, Except.toOption] at h
  | ok answer =>
    obtain ⟨t, status⟩ := answer
    obtain rfl : status = code := by simpa [hanswer, Except.toOption] using h
    exact ⟨t, rfl⟩

theorem connects_while_talking : ∃ l t calls, (line .withoutZlib).Run {} l ∧
    (line .withoutZlib).Step l (.newBytesInStream switching fun _ => 0) t ∧
    t.story = l.story ++ calls ∧ Callback.didConnect ∈ calls := by
  obtain ⟨l, t, hrun, -, hstep, htest⟩ := (line .withoutZlib).exists_step_of_replay
    (fun _ _ => true) {} asking (.newBytesInStream switching fun _ => 0)
    (fun l _ => decide (l.socket.connected = false) && decide (l.socket.fragBuffer = none) &&
      l.socket.answers .withoutZlib switching 0) (fun _ _ _ => trivial) (by decide +kernel)
  simp only [Bool.and_eq_true, decide_eq_true_eq] at htest
  obtain ⟨⟨hoff, hfrag⟩, hanswer⟩ := htest
  have hresponse : response? switching = some switching := by decide +kernel
  obtain ⟨calls, hcalls, hconnects⟩ := connects_iff hrun hoff hstep
  refine ⟨l, t, calls, hrun, hstep, hcalls, hconnects.mpr ⟨switching, ?_, ?_⟩⟩
  · rw [hfrag]
    exact hresponse
  · exact (WebSocket.accepted_iff _ _ _).mp (WebSocket.exists_of_answers hanswer)

/-! ## 2. An answer that counts as none -/

/-- The stream goes on. -/
def streamGoesOn (_ : Line) (e : Event) : Bool :=
  match e with
  | .endEncountered => false
  | .errorOccurred _ _ _ => false
  | _ => true

/-- An answer has come to its end, has been refused with -1, and is kept. -/
structure WebSocket.Rejects (ws : WebSocket) (system : System) : Prop where
  readyToWrite : ws.readyToWrite = true
  connected : ws.connected = false
  stream : ws.stream = .isOpen
  /-- It is the first answer: nothing but the request has been queued. -/
  writeQueue : ∀ op ∈ ws.writeQueue, ¬op.IsFrame
  kept : ∃ xs response, ws.fragBuffer = some xs ∧ response? xs = some response ∧
    ws.Ignores system response

namespace WebSocket

/-- A response that is refused with -1 is kept, as if it had not come to its end. -/
theorem dequeueInput_ignored {data response : Data} (hconnected : ws.connected = false)
    (hresponse : response? (ws.fragBuffer.getD [] ++ data) = some response)
    (hignores : ws.Ignores system response) :
    ∃ t, ws.dequeueInput system beyond data = .ok t ∧
      t.fragBuffer = some (ws.fragBuffer.getD [] ++ data) ∧ t.Ignores system response ∧
      ∃ state, t = { ws with
        compressionState := state, fragBuffer := some (ws.fragBuffer.getD [] ++ data) } := by
  have hcleared : Ignores { ws with fragBuffer := none } system response := hignores.congr rfl rfl
  obtain ⟨answered, hanswer⟩ := (ignored_iff _ _ _).mpr hcleared
  obtain ⟨hagain, state, rfl, -⟩ := validateResponse_keeps hanswer
  have hstill := (ignored_iff _ _ _).mp ⟨_, hagain⟩
  refine ⟨{ ws with compressionState := state, fragBuffer := some (ws.fragBuffer.getD [] ++ data) },
    ?_, rfl, hstill.congr rfl rfl, state, rfl⟩
  unfold dequeueInput
  dsimp only
  rw [if_pos (by simp [hconnected]), processTCPHandshake_eq]
  generalize ws.fragBuffer.getD [] ++ data = work at hresponse ⊢
  unfold response? at hresponse
  split at hresponse
  · rename_i hend
    obtain rfl := Option.some.inj hresponse
    simp [handshakeReading, hend, hanswer]
  · exact absurd hresponse (by simp)

end WebSocket

/-- What is told, and whether the socket still connects, stays as it is. -/
def Line.Silent (l t : Line) : Prop :=
  t.story = l.story ∧ t.socket.connected = false ∧ t.socket.isConnecting = l.socket.isConnecting

/-- The piece that brings the end of such an answer. -/
theorem rejects_of_ignored (hl : l.Sound true) (hoff : l.socket.connected = false)
    (hqueue : ∀ op ∈ l.socket.writeQueue, ¬op.IsFrame) {data response : Data}
    (hresponse : response? (l.socket.fragBuffer.getD [] ++ data) = some response)
    (hignores : l.socket.Ignores system response)
    (hstep : Stepped system l (.newBytesInStream data beyond) t) :
    t.socket.Rejects system ∧ l.Silent t := by
  cases hstep with
  | newBytesInStream stream some_data ok =>
    obtain ⟨ws, hok, hkept, hstill, state, rfl⟩ :=
      @WebSocket.dequeueInput_ignored system beyond _ _ _ hoff hresponse hignores
    obtain rfl := Except.ok.inj (hok.symm.trans ok)
    exact ⟨⟨hl.live.readyToWrite, hoff, stream, hqueue, _, response, hkept, hresponse, hstill⟩,
      rfl, hoff, rfl⟩

/-- Nothing changes that. -/
theorem rejects_of_stepped (hl : l.Sound true) (hrejects : l.socket.Rejects system)
    (hgoes : streamGoesOn l e = true) (hstep : Stepped system l e t) :
    t.socket.Rejects system ∧ l.Silent t := by
  obtain ⟨xs, response, hkept, hresponse, hignores⟩ := hrejects.kept
  have hoff := hrejects.connected
  have hnone : ∀ {data code rest}, l.socket.writeQueue = .frame data code :: rest → False := by
    intro data code rest hqueue
    exact hrejects.writeQueue (.frame data code) (by simp [hqueue]) ⟨data, code, rfl⟩
  cases hstep with
  | connect fresh => exact absurd hrejects.readyToWrite (by simp [fresh])
  | streamConnected stream =>
    exact absurd (stream.symm.trans hrejects.stream) (by decide)
  | @newBytesInStream data beyond ws stream some_data ok =>
    refine rejects_of_ignored hl hoff hrejects.writeQueue ?_ hignores
      (.newBytesInStream stream some_data ok : Stepped system l (.newBytesInStream data beyond) _)
    rw [hkept]
    exact response?_append hresponse data
  | endEncountered stream queue => exact absurd hgoes (by simp [streamGoesOn])
  | errorOccurred stream cut => exact absurd hgoes (by simp [streamGoesOn])
  | write =>
    refine ⟨?_, ?_, ?_, ?_⟩
    · simpa [WebSocket.write, hoff] using hrejects
    · simp [Line.story, WebSocket.write, hoff]
    · simp [WebSocket.write, hoff]
    · simp [WebSocket.write, hoff]
  | disconnect =>
    refine ⟨?_, ?_, ?_, ?_⟩
    · simpa [WebSocket.disconnect, hoff] using hrejects
    · simp [Line.story, WebSocket.disconnect, hoff]
    · simp [WebSocket.disconnect, hoff]
    · simp [WebSocket.disconnect, hoff]
  | runOperation operated ended =>
    cases operated with
    | request queue fits takes =>
      refine ⟨⟨hrejects.readyToWrite, hoff, hrejects.stream, fun op hop => ?_,
        xs, response, hkept, hresponse, ?_⟩, rfl, hoff, rfl⟩
      · exact hrejects.writeQueue op (List.mem_of_mem_tail hop)
      · exact hignores.congr rfl rfl
    | whole queue logged prepared size takes =>
      exact (hnone queue).elim
    | part queue size bytes missing cut takes =>
      exact (hnone queue).elim
  | runCallback queue =>
    refine ⟨⟨hrejects.readyToWrite, hoff, hrejects.stream, hrejects.writeQueue, xs, response, hkept,
      hresponse, ?_⟩, ?_, hoff, rfl⟩
    · exact hignores.congr rfl rfl
    · simp [Line.story, queue]

/-- **An answer that is refused with -1 is never heard of**: not after it, and not whatever else
comes and is done, until the stream ends or fails. -/
theorem rejected_is_silent {u : Line} (h : (line system).Run {} l)
    (hoff : l.socket.connected = false) (hqueue : ∀ op ∈ l.socket.writeQueue, ¬op.IsFrame)
    {data response : Data}
    (hresponse : response? (l.socket.fragBuffer.getD [] ++ data) = some response)
    (hignores : l.socket.Ignores system response)
    (hstep : (line system).Step l (.newBytesInStream data beyond) u)
    (hrun : (line system).RunWhere (fun l e => streamGoesOn l e = true) u t) : l.Silent t := by
  have hl : l.Sound true := by
    rcases sound_of_run h with rfl | hl
    · cases stepped (.inl rfl) hstep with
      | newBytesInStream stream some_data ok => exact absurd stream (by simp)
    · exact hl
  have hfirst := stepped (.inr hl.live) hstep
  obtain ⟨hrejects, hsilent⟩ := rejects_of_ignored hl hoff hqueue hresponse hignores hfirst
  have hkeeps := hrun.invariant (I := fun v => v.Sound true ∧ v.socket.Rejects system ∧ l.Silent v)
    ⟨hl.stepped hfirst, hrejects, hsilent⟩ fun a e b ha hgoes hab => ?_
  · exact hkeeps.2.2
  · obtain ⟨hsound, hstill, hquiet⟩ := ha
    have hnext := stepped (.inr hsound.live) hab
    obtain ⟨hagain, hmore⟩ := rejects_of_stepped hsound hstill hgoes hnext
    exact ⟨hsound.stepped hnext, hagain, hmore.1.trans hquiet.1, hmore.2.1,
      hmore.2.2.trans hquiet.2.2⟩

/-- The digest of another key, and then the right one. -/
def wrongDigest : Data :=
  utf8Data "HTTP/1.1 101 Switching Protocols\r\nSec-WebSocket-Accept: AAAA\r\n\r\n"

theorem silent_after_wrong_digest : ∃ l t, (line .withoutZlib).Run {} l ∧
    t.socket.fragBuffer = some (wrongDigest ++ switching) ∧ l.Silent t := by
  obtain ⟨l, u, hrun, -, hstep, htest⟩ := (line .withoutZlib).exists_step_of_replay
    (fun _ _ => true) {} asking (.newBytesInStream wrongDigest fun _ => 0)
    (fun l u => decide (l.socket.connected = false) && decide (l.socket.fragBuffer = none) &&
      decide (l.socket.writeQueue = []) &&
      l.socket.answers .withoutZlib wrongDigest (-1) &&
      ((line .withoutZlib).replay streamGoesOn u [.newBytesInStream switching fun _ => 0]).any
        fun t : Line => decide (t.socket.fragBuffer = some (wrongDigest ++ switching)))
    (fun _ _ _ => trivial) (by decide +kernel)
  simp only [Bool.and_eq_true, decide_eq_true_eq] at htest
  obtain ⟨⟨⟨⟨hoff, hfrag⟩, hqueue⟩, hanswer⟩, hmore⟩ := htest
  obtain ⟨t, hgoes, hkept⟩ := (line .withoutZlib).exists_run_of_replay streamGoesOn u _ _
    (fun _ _ h => h) hmore
  have hresponse : response? (l.socket.fragBuffer.getD [] ++ wrongDigest) = some wrongDigest := by
    rw [hfrag]
    decide +kernel
  refine ⟨l, t, hrun, of_decide_eq_true hkept, ?_⟩
  have hignores := (WebSocket.ignored_iff _ _ _).mp (WebSocket.exists_of_answers hanswer)
  exact rejected_is_silent hrun hoff (by simp [hqueue]) hresponse hignores hstep hgoes

end Starscream
