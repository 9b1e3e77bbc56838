/-
# What is agreed on about compression

A socket compresses what it sends if the answer to the upgrade has agreed on that and zlib takes the
window bits.  Once the socket is connected the input does not touch what the output depends on: the
frames of a server leave the compressor and its window alone.

* `sameOutput_dequeueInput`: what the input leaves alone;
* `setUp_dequeueInput`: there is a compressor exactly where there is to be one.
-/
import WeatherAccommodation.Starscream.Upgrade

namespace Starscream

open Reactive Streaming

variable {system : System} {beyond : Nat → UInt8} {xs : Data} {ws t : WebSocket}

/-! ## 1. The answer to the upgrade -/

namespace CompressionState

/-- Compression was agreed on, and zlib takes the window bits. -/
def compresses (state : CompressionState) (system : System) : Bool :=
  state.supportsCompression && system.initDeflate state.clientMaxWindowBits

/-- There is a compressor exactly where there is to be one. -/
def SetUp (system : System) (state : CompressionState) : Prop :=
  state.compressor.isSome = state.compresses system

variable {state agreed : CompressionState} {header : String}

/-- What was agreed on once is not taken back. -/
theorem supportsCompression_agreed (h : state.supportsCompression = true) (header : String) :
    (state.agreed header).supportsCompression = true := by
  unfold CompressionState.agreed
  generalize header.toList.splitOnP (· == ';') = parts
  induction parts generalizing state with
  | nil => exact h
  | cons part parts ih =>
    rw [List.foldl_cons]
    refine ih ?_
    rcases processPart_cases part with hpart | ⟨bits, hpart⟩ | ⟨bits, hpart⟩ | hpart | hpart | hpart
    · rw [hpart]
    · rw [hpart]
      exact h
    · rw [hpart]
      exact h
    · rw [hpart]
      exact h
    · rw [hpart]
      exact h
    · rw [hpart]
      exact h

/-- A header brings a fresh compressor, or agrees on none. -/
theorem processExtensionHeader_cases (h : state.processExtensionHeader system header = .ok agreed) :
    (agreed.supportsCompression = true ∧ agreed.compressor =
        if system.initDeflate agreed.clientMaxWindowBits then
          some { windowBits := agreed.clientMaxWindowBits } else none) ∨
      (state.supportsCompression = false ∧ agreed.supportsCompression = false ∧
        agreed.compressor = state.compressor) := by
  rw [processExtensionHeader_eq] at h
  split at h
  · exact absurd h (by simp)
  · split at h
    · rename_i hsupports
      obtain rfl := Except.ok.inj h
      exact .inl ⟨hsupports, rfl⟩
    · rename_i hsupports
      obtain rfl := Except.ok.inj h
      have hsame := congrArg compressor (agreed_compressor state header state.compressor)
      refine .inr ⟨?_, by simpa using hsupports, hsame⟩
      by_contra hbefore
      exact hsupports (supportsCompression_agreed (by simpa using hbefore) header)

theorem SetUp.processExtensionHeader (hset : state.SetUp system)
    (h : state.processExtensionHeader system header = .ok agreed) : agreed.SetUp system := by
  rcases processExtensionHeader_cases h with ⟨hsupports, hcompressor⟩ | ⟨hbefore, hafter, hsame⟩
  · rw [SetUp, compresses, hsupports, hcompressor]
    split
    · simp [*]
    · simp [*]
  · rw [SetUp, compresses, hbefore] at hset
    rw [SetUp, compresses, hafter, hsame]
    exact hset

end CompressionState

namespace WebSocket

/-- The answer to the upgrade may agree on something. -/
def Negotiates (system : System) (ws t : WebSocket) : Prop :=
  t.compressionState = ws.compressionState ∨ ∃ header,
    ws.compressionState.processExtensionHeader system header = .ok t.compressionState

theorem negotiates_validateResponse {response : Data} {code : Int}
    (h : ws.validateResponse system response = .ok (t, code)) : Negotiates system ws t := by
  have hagree : ∀ {headers u}, ws.agree system headers = .ok u → Negotiates system ws u := by
    intro headers u hu
    unfold agree at hu
    split at hu
    · rename_i header _
      obtain ⟨state, hstate, hpure⟩ := bind_eq_ok.mp hu
      obtain rfl := pure_eq_ok.mp hpure
      exact .inr ⟨header, hstate⟩
    · obtain rfl := Except.ok.inj hu
      exact .inl rfl
  unfold validateResponse at h
  split at h
  · obtain ⟨rfl, -⟩ := Prod.mk.inj (Except.ok.inj h)
    exact .inl rfl
  · split at h
    · obtain ⟨rfl, -⟩ := Prod.mk.inj (Except.ok.inj h)
      exact .inl rfl
    · obtain ⟨u, hu, hpure⟩ := bind_eq_ok.mp h
      split at hpure
      · obtain ⟨rfl, -⟩ := Prod.mk.inj (pure_eq_ok.mp hpure)
        exact hagree hu
      · obtain ⟨rfl, -⟩ := Prod.mk.inj (pure_eq_ok.mp hpure)
        exact hagree hu

end WebSocket

/-! ## 2. What frames leave alone -/

namespace WebSocket

/-- What the output depends on. -/
structure SameOutput (system : System) (ws t : WebSocket) : Prop where
  compressor : t.compressionState.compressor = ws.compressionState.compressor
  clientNoContextTakeover :
    t.compressionState.clientNoContextTakeover = ws.compressionState.clientNoContextTakeover
  compresses : t.compressionState.compresses system = ws.compressionState.compresses system

theorem SameOutput.of_state (h : t.compressionState = ws.compressionState) :
    SameOutput system ws t := by
  refine ⟨?_, ?_, ?_⟩
  · rw [h]
  · rw [h]
  · rw [h]

theorem SameOutput.trans {u : WebSocket} (h₁ : SameOutput system ws t)
    (h₂ : SameOutput system t u) : SameOutput system ws u :=
  ⟨h₂.compressor.trans h₁.compressor,
    h₂.clientNoContextTakeover.trans h₁.clientNoContextTakeover,
    h₂.compresses.trans h₁.compresses⟩

@[simp] theorem compressionState_callback (ws : WebSocket) (call : Callback) :
    (ws.callback call).compressionState = ws.compressionState := by
  unfold callback
  split
  · rfl
  · rfl

@[simp] theorem compressionState_doDisconnect (ws : WebSocket) (error : Option SocketError) :
    (ws.doDisconnect error).compressionState = ws.compressionState := by
  unfold doDisconnect
  split
  · rfl
  · simp

@[simp] theorem compressionState_refuse (ws : WebSocket) (message : String) (code : UInt16) :
    (ws.refuse message code).compressionState = ws.compressionState := by
  simp [refuse, writeError, dequeueWrite]

@[simp] theorem compressionState_processResponse (ws : WebSocket) (response : WSResponse) :
    (ws.processResponse response).compressionState = ws.compressionState := by
  unfold processResponse
  split
  · split
    · rfl
    · split
      · rfl
      · simp
    · simp
    · rfl
  · rfl

theorem compressionState_refusal {h : Header} {code : UInt16}
    (hrefusal : ws.refusal h code = some t) : t.compressionState = ws.compressionState := by
  unfold refusal at hrefusal
  split at hrefusal
  · obtain rfl := Option.some.inj hrefusal
    simp
  · split at hrefusal
    · obtain rfl := Option.some.inj hrefusal
      simp
    · split at hrefusal
      · obtain rfl := Option.some.inj hrefusal
        simp
      · split at hrefusal
        · split at hrefusal
          · obtain rfl := Option.some.inj hrefusal
            simp
          · exact absurd hrefusal (by simp)
        · split at hrefusal
          · obtain rfl := Option.some.inj hrefusal
            rfl
          · exact absurd hrefusal (by simp)

theorem sameOutput_noteCompression (system : System) (ws : WebSocket) (h : Header) :
    SameOutput system ws (ws.noteCompression h) := by
  unfold noteCompression CompressionState.note
  split
  · exact ⟨rfl, rfl, rfl⟩
  · exact ⟨rfl, rfl, rfl⟩

theorem sameOutput_decompressed {bytes data : Data} {isFin : Bool} {state : CompressionState}
    (h : ws.compressionState.decompressed system bytes isFin = .ok (data, state)) :
    SameOutput system ws { ws with compressionState := state } := by
  unfold CompressionState.decompressed at h
  split at h
  · obtain ⟨⟨inflated, used⟩, -, hpure⟩ := bind_eq_ok.mp h
    obtain ⟨-, rfl⟩ := Prod.mk.inj (pure_eq_ok.mp hpure)
    exact ⟨rfl, rfl, rfl⟩
  · obtain ⟨-, rfl⟩ := Prod.mk.inj (Except.ok.inj h)
    exact ⟨rfl, rfl, rfl⟩

theorem compressionState_receiveMessage (ws : WebSocket) (h : Header) (opcode : OpCode)
    (dataLength : Int) (data : Data) (len step : Nat) :
    (ws.receiveMessage h opcode dataLength data len step).All fun t =>
      t.compressionState = ws.compressionState := by
  unfold receiveMessage
  split
  · split
    · exact compressionState_refuse ws _ _
    · split
      · exact compressionState_refuse ws _ _
      · exact compressionState_processResponse _ _
  · split
    · exact compressionState_processResponse _ _
    · exact compressionState_refuse ws _ _

theorem sameOutput_receive (ws : WebSocket) (system : System) (h : Header) (opcode : OpCode)
    (closeCode : UInt16) (dataLength : Int) (bytes : Data) (step : Nat) :
    (ws.receive system h opcode closeCode dataLength bytes step).All (SameOutput system ws) := by
  unfold receive
  split
  · trivial
  · dsimp only
    split
    · trivial
    · exact .of_state (compressionState_refuse ws _ _)
    · rename_i data state hdata
      have hsame := sameOutput_decompressed hdata
      split
      · split
        · exact hsame.trans (.of_state (compressionState_refuse _ _ _))
        · exact hsame.trans (.of_state (compressionState_refuse _ _ _))
      · split
        · exact hsame.trans (.of_state (compressionState_callback _ _))
        · exact (compressionState_receiveMessage _ h opcode dataLength data _ step).imp
            fun t ht => hsame.trans (.of_state ht)

theorem sameOutput_processFrame (ws : WebSocket) (system : System) (beyond : Nat → UInt8)
    (xs : Data) : (ws.processFrame system beyond xs).All (SameOutput system ws) := by
  unfold processFrame
  dsimp only
  generalize Header.ofBytes (byteAt beyond xs 0) (byteAt beyond xs 1) = h
  have hnote := sameOutput_noteCompression system ws h
  split
  · rename_i t hrefusal
    exact hnote.trans (.of_state (compressionState_refusal hrefusal))
  · exact hnote
  · split
    · exact hnote
    · exact (sameOutput_receive _ system h _ _ _ _ _).imp fun t ht => hnote.trans ht

theorem sameOutput_processOneRawMessage (ws : WebSocket) (system : System) (beyond : Nat → UInt8)
    (xs : Data) : (ws.processOneRawMessage system beyond xs).All (SameOutput system ws) := by
  unfold processOneRawMessage
  split
  · split
    · exact ⟨rfl, rfl, rfl⟩
    · split
      · exact .of_state (compressionState_processResponse _ _)
      · exact sameOutput_processFrame ws system beyond xs
  · exact sameOutput_processFrame ws system beyond xs

theorem sameOutput_processRawMessagesFor {fuel : Nat}
    (hok : processRawMessagesFor system beyond fuel ws xs = .ok t) : SameOutput system ws t := by
  induction fuel generalizing ws xs with
  | zero =>
    obtain rfl := Except.ok.inj hok
    exact ⟨rfl, rfl, rfl⟩
  | succ fuel ih =>
    have hone := sameOutput_processOneRawMessage ws system beyond xs
    simp only [processRawMessagesFor] at hok
    cases hreading : ws.processOneRawMessage system beyond xs with
    | fail trap => exact absurd hok (by simp [hreading])
    | wait u =>
      rw [hreading] at hok hone
      obtain rfl := Except.ok.inj hok
      exact SameOutput.trans hone ⟨rfl, rfl, rfl⟩
    | stop u =>
      rw [hreading] at hok hone
      obtain rfl := Except.ok.inj hok
      exact hone
    | take u n =>
      rw [hreading] at hok hone
      dsimp only at hok
      split at hok
      · exact SameOutput.trans hone (ih hok)
      · split at hok
        · obtain rfl := Except.ok.inj hok
          exact SameOutput.trans hone ⟨rfl, rfl, rfl⟩
        · obtain rfl := Except.ok.inj hok
          exact hone

/-- Frames leave alone what the output depends on. -/
theorem sameOutput_dequeueInput {data : Data} (hconnected : ws.connected = true)
    (hok : ws.dequeueInput system beyond data = .ok t) : SameOutput system ws t := by
  unfold dequeueInput at hok
  dsimp only at hok
  rw [if_neg (by simp [hconnected])] at hok
  have hsame : SameOutput system { ws with fragBuffer := none } t :=
    sameOutput_processRawMessagesFor hok
  exact ⟨hsame.compressor, hsame.clientNoContextTakeover, hsame.compresses⟩

/-! ## 3. A piece of the input -/

/-- Before the socket is connected there may be an answer, and then frames. -/
theorem negotiates_dequeueInput {data : Data} (hconnected : ws.connected = false)
    (hok : ws.dequeueInput system beyond data = .ok t) :
    ∃ u, Negotiates system ws u ∧ SameOutput system u t := by
  unfold dequeueInput at hok
  dsimp only at hok
  rw [if_pos (by simp [hconnected]), processTCPHandshake_eq] at hok
  generalize ws.fragBuffer.getD [] ++ data = work at hok
  change ∃ u, Negotiates system { ws with fragBuffer := none } u ∧ SameOutput system u t
  have hview := handshakeReading_view { ws with fragBuffer := none } system work
  generalize handshakeReading { ws with fragBuffer := none } system work = reading at hview hok
  cases hview with
  | unfinished hend =>
    obtain rfl := Except.ok.inj hok
    exact ⟨_, .inl rfl, ⟨rfl, rfl, rfl⟩⟩
  | traps hend answer => exact absurd hok (by simp)
  | @accepted u hend answer =>
    refine ⟨u, negotiates_validateResponse answer, ?_⟩
    have hconnects : SameOutput system u u.connect101 := .of_state (compressionState_callback _ _)
    dsimp only at hok
    split at hok
    · exact hconnects.trans (sameOutput_processRawMessagesFor hok)
    · obtain rfl := Except.ok.inj hok
      exact hconnects
  | @kept u hend answer =>
    obtain rfl := Except.ok.inj hok
    exact ⟨u, negotiates_validateResponse answer, ⟨rfl, rfl, rfl⟩⟩
  | @refused u code hend answer zero minus =>
    obtain rfl := Except.ok.inj hok
    exact ⟨u, negotiates_validateResponse answer, .of_state (compressionState_doDisconnect _ _)⟩

/-- The answer to the upgrade may bring a new compressor. -/
theorem renews_dequeueInput {data : Data} (hconnected : ws.connected = false)
    (hok : ws.dequeueInput system beyond data = .ok t) :
    t.compressionState.compressor = ws.compressionState.compressor ∨
      ∀ compressor, t.compressionState.compressor = some compressor →
        compressor.done = [] ∧ system.initDeflate compressor.windowBits = true := by
  obtain ⟨u, hnegotiates, hsame⟩ := negotiates_dequeueInput hconnected hok
  rw [hsame.compressor]
  rcases hnegotiates with hstate | ⟨header, hheader⟩
  · exact .inl (congrArg CompressionState.compressor hstate)
  · rcases CompressionState.processExtensionHeader_cases hheader with
      ⟨-, hcompressor⟩ | ⟨-, -, hcompressor⟩
    · refine .inr fun compressor hsome => ?_
      rw [hcompressor] at hsome
      split at hsome
      · rename_i hinit
        obtain rfl := Option.some.inj hsome
        exact ⟨rfl, hinit⟩
      · exact absurd hsome (by simp)
    · exact .inl hcompressor

theorem SameOutput.setUp (h : SameOutput system ws t) (hset : ws.compressionState.SetUp system) :
    t.compressionState.SetUp system := by
  rw [CompressionState.SetUp, h.compressor, h.compresses]
  exact hset

/-- **A piece of the input leaves a compressor exactly where there is to be one.** -/
theorem setUp_dequeueInput {data : Data} (hset : ws.compressionState.SetUp system)
    (hok : ws.dequeueInput system beyond data = .ok t) : t.compressionState.SetUp system := by
  cases hconnected : ws.connected with
  | true => exact (sameOutput_dequeueInput hconnected hok).setUp hset
  | false =>
    obtain ⟨u, hnegotiates, hsame⟩ := negotiates_dequeueInput hconnected hok
    refine hsame.setUp ?_
    rcases hnegotiates with hstate | ⟨header, hheader⟩
    · rw [hstate]
      exact hset
    · exact hset.processExtensionHeader hheader

end WebSocket

end Starscream
