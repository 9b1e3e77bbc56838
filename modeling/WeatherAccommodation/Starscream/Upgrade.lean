/-
# The answer to the upgrade

Until a blank line has come, what has come is kept, and looked at from its start each time.  Then
the response up to the blank line is accepted, or refused with its status code; or it is refused
with -1, which means to the caller that the blank line has not come yet.

* `accepted_iff`: which responses are accepted;
* `validateResponse_eq_error_iff`: at which the app stops;
* `handshakeReading_append`: what comes after the blank line changes nothing.
-/
import WeatherAccommodation.Starscream.Input

namespace Starscream

open Reactive Streaming Foundation

variable {system : System} {xs ys : Data} {ws t : WebSocket}

/-! ## 1. The blank line -/

/-- What comes after the blank line does not move it. -/
theorem headerEnd_append {k i : Nat} (h : 0 < headerEnd k i xs) (ys : Data) :
    headerEnd k i (xs ++ ys) = headerEnd k i xs := by
  induction xs generalizing k i with
  | nil => exact absurd h (by simp [headerEnd])
  | cons b bs ih =>
    simp only [headerEnd, List.cons_append] at h ⊢
    split
    · rename_i hb
      rw [if_pos hb] at h
      split
      · rfl
      · rename_i hk
        rw [if_neg hk] at h
        exact ih h
    · rename_i hb
      rw [if_neg hb] at h
      exact ih h

theorem headerEnd_le (k i : Nat) (xs : Data) : headerEnd k i xs ≤ i + xs.length := by
  induction xs generalizing k i with
  | nil => simp [headerEnd]
  | cons b bs ih =>
    have hnext := ih (k + 1) (i + 1)
    have hanew := ih 0 (i + 1)
    simp only [headerEnd, List.length_cons]
    split
    · split
      · omega
      · omega
    · omega

/-! ## 2. Extensions -/

namespace CompressionState

/-- The function puts something into the field, whatever was there, or leaves it alone. -/
def Sets {β : Type} (field : CompressionState → β) (P : CompressionState → CompressionState) :
    Prop :=
  (∃ b, ∀ state, field (P state) = b) ∨ ∀ state, field (P state) = field state

variable {β : Type} {field : CompressionState → β} {P Q : CompressionState → CompressionState}

theorem Sets.comp (hP : Sets field P) (hQ : Sets field Q) :
    Sets field fun state => Q (P state) := by
  rcases hQ with ⟨b, hb⟩ | hQ
  · exact .inl ⟨b, fun state => hb _⟩
  · rcases hP with ⟨b, hb⟩ | hP
    · exact .inl ⟨b, fun state => (hQ _).trans (hb state)⟩
    · exact .inr fun state => (hQ _).trans (hP state)

theorem Sets.foldl {ι : Type} {step : CompressionState → ι → CompressionState}
    (h : ∀ i, Sets field fun state => step state i) (is : List ι) :
    Sets field fun state => is.foldl step state := by
  induction is with
  | nil => exact .inr fun state => rfl
  | cons i is ih => exact (h i).comp ih

/-- To set a field twice is to set it once. -/
theorem Sets.idempotent (h : Sets field P) (state : CompressionState) :
    field (P (P state)) = field (P state) := by
  rcases h with ⟨b, hb⟩ | h
  · rw [hb, hb]
  · exact h _

/-- A part of the header sets one field, or none. -/
theorem processPart_cases (part : List Char) :
    (∀ state, processPart state part = { state with supportsCompression := true }) ∨
      (∃ bits, ∀ state, processPart state part = { state with serverMaxWindowBits := bits }) ∨
      (∃ bits, ∀ state, processPart state part = { state with clientMaxWindowBits := bits }) ∨
      (∀ state, processPart state part = { state with clientNoContextTakeover := true }) ∨
      (∀ state, processPart state part = { state with serverNoContextTakeover := true }) ∨
      (∀ state, processPart state part = state) := by
  unfold processPart
  dsimp only
  split
  · exact .inl fun _ => rfl
  · split
    · split
      · rename_i bits _
        exact .inr (.inl ⟨bits, fun _ => rfl⟩)
      · exact .inr (.inr (.inr (.inr (.inr fun _ => rfl))))
    · split
      · split
        · rename_i bits _
          exact .inr (.inr (.inl ⟨bits, fun _ => rfl⟩))
        · exact .inr (.inr (.inr (.inr (.inr fun _ => rfl))))
      · split
        · exact .inr (.inr (.inr (.inl fun _ => rfl)))
        · split
          · exact .inr (.inr (.inr (.inr (.inl fun _ => rfl))))
          · exact .inr (.inr (.inr (.inr (.inr fun _ => rfl))))

/-- A field that each of the five assignments sets or leaves alone is set or left alone. -/
theorem sets_parts (field : CompressionState → β)
    (hsupports : Sets field fun s => { s with supportsCompression := true })
    (hserver : ∀ bits, Sets field fun s => { s with serverMaxWindowBits := bits })
    (hclient : ∀ bits, Sets field fun s => { s with clientMaxWindowBits := bits })
    (hclientNo : Sets field fun s => { s with clientNoContextTakeover := true })
    (hserverNo : Sets field fun s => { s with serverNoContextTakeover := true })
    (parts : List (List Char)) : Sets field fun state => parts.foldl processPart state := by
  refine Sets.foldl (fun part => ?_) parts
  rcases processPart_cases part with h | ⟨bits, h⟩ | ⟨bits, h⟩ | h | h | h
  · simpa only [Sets, h] using hsupports
  · simpa only [Sets, h] using hserver bits
  · simpa only [Sets, h] using hclient bits
  · simpa only [Sets, h] using hclientNo
  · simpa only [Sets, h] using hserverNo
  · simp [Sets, h]

/-- The parts of a header, twice. -/
theorem foldl_processPart_foldl (state : CompressionState) (parts : List (List Char)) :
    parts.foldl processPart (parts.foldl processPart state) = parts.foldl processPart state := by
  have hkeeps : ∀ {β : Type} {field : CompressionState → β}
      {P : CompressionState → CompressionState}, (∀ s, field (P s) = field s) → Sets field P :=
    fun h => .inr h
  have hputs : ∀ {β : Type} {field : CompressionState → β}
      {P : CompressionState → CompressionState} (b : β), (∀ s, field (P s) = b) → Sets field P :=
    fun b h => .inl ⟨b, h⟩
  ext1
  · exact (sets_parts supportsCompression (hputs true fun _ => rfl)
      (fun _ => hkeeps fun _ => rfl) (fun _ => hkeeps fun _ => rfl) (hkeeps fun _ => rfl)
      (hkeeps fun _ => rfl) parts).idempotent state
  · exact (sets_parts messageNeedsDecompression (hkeeps fun _ => rfl)
      (fun _ => hkeeps fun _ => rfl) (fun _ => hkeeps fun _ => rfl) (hkeeps fun _ => rfl)
      (hkeeps fun _ => rfl) parts).idempotent state
  · exact (sets_parts serverMaxWindowBits (hkeeps fun _ => rfl)
      (fun bits => hputs bits fun _ => rfl) (fun _ => hkeeps fun _ => rfl) (hkeeps fun _ => rfl)
      (hkeeps fun _ => rfl) parts).idempotent state
  · exact (sets_parts clientMaxWindowBits (hkeeps fun _ => rfl)
      (fun _ => hkeeps fun _ => rfl) (fun bits => hputs bits fun _ => rfl) (hkeeps fun _ => rfl)
      (hkeeps fun _ => rfl) parts).idempotent state
  · exact (sets_parts clientNoContextTakeover (hkeeps fun _ => rfl)
      (fun _ => hkeeps fun _ => rfl) (fun _ => hkeeps fun _ => rfl) (hputs true fun _ => rfl)
      (hkeeps fun _ => rfl) parts).idempotent state
  · exact (sets_parts serverNoContextTakeover (hkeeps fun _ => rfl)
      (fun _ => hkeeps fun _ => rfl) (fun _ => hkeeps fun _ => rfl) (hkeeps fun _ => rfl)
      (hputs true fun _ => rfl) parts).idempotent state
  · exact (sets_parts decompressor (hkeeps fun _ => rfl)
      (fun _ => hkeeps fun _ => rfl) (fun _ => hkeeps fun _ => rfl) (hkeeps fun _ => rfl)
      (hkeeps fun _ => rfl) parts).idempotent state
  · exact (sets_parts compressor (hkeeps fun _ => rfl)
      (fun _ => hkeeps fun _ => rfl) (fun _ => hkeeps fun _ => rfl) (hkeeps fun _ => rfl)
      (hkeeps fun _ => rfl) parts).idempotent state

/-- The parts neither read nor write the two streams. -/
theorem foldl_processPart_streams (state : CompressionState) (parts : List (List Char))
    (d c : Option Codec) :
    parts.foldl processPart { state with decompressor := d, compressor := c } =
      { parts.foldl processPart state with decompressor := d, compressor := c } := by
  induction parts generalizing state with
  | nil => rfl
  | cons part parts ih =>
    have hpart : processPart { state with decompressor := d, compressor := c } part =
        { processPart state part with decompressor := d, compressor := c } := by
      rcases processPart_cases part with h | ⟨bits, h⟩ | ⟨bits, h⟩ | h | h | h
      · simp only [h]
      · simp only [h]
      · simp only [h]
      · simp only [h]
      · simp only [h]
      · simp only [h]
    rw [List.foldl_cons, List.foldl_cons, hpart, ih]

/-- The parts of a header. -/
def agreed (state : CompressionState) (header : String) : CompressionState :=
  (header.toList.splitOnP (· == ';')).foldl processPart state

/-- What is agreed on cannot be set up: `CInt` is too small for the window bits. -/
def overflows (state : CompressionState) : Bool :=
  state.supportsCompression &&
    !(Codec.fits state.serverMaxWindowBits && Codec.fits state.clientMaxWindowBits)

theorem processExtensionHeader_eq (state : CompressionState) (system : System) (header : String) :
    state.processExtensionHeader system header =
      if (state.agreed header).overflows then .error .conversion
      else if (state.agreed header).supportsCompression then .ok { state.agreed header with
        decompressor :=
          if system.initInflate (state.agreed header).serverMaxWindowBits then
            some { windowBits := (state.agreed header).serverMaxWindowBits }
          else none
        compressor :=
          if system.initDeflate (state.agreed header).clientMaxWindowBits then
            some { windowBits := (state.agreed header).clientMaxWindowBits }
          else none }
      else .ok (state.agreed header) := by
  unfold processExtensionHeader overflows agreed
  generalize (header.toList.splitOnP (· == ';')).foldl processPart state = agreed
  cases hsupports : agreed.supportsCompression with
  | false => simp [hsupports, pure, Except.pure]
  | true =>
    cases hserver : Codec.fits agreed.serverMaxWindowBits with
    | false => simp [hsupports, hserver, Codec.make, bind, Except.bind]
    | true =>
      cases hclient : Codec.fits agreed.clientMaxWindowBits with
      | false => simp [hsupports, hserver, hclient, Codec.make, bind, Except.bind]
      | true => simp [hsupports, hserver, hclient, Codec.make, bind, Except.bind, pure, Except.pure]

/-- The two streams are not read, and may be replaced. -/
theorem agreed_streams (state : CompressionState) (header : String) (d c : Option Codec) :
    agreed { state with decompressor := d, compressor := c } header =
      { state.agreed header with decompressor := d, compressor := c } :=
  foldl_processPart_streams state (header.toList.splitOnP (· == ';')) d c

theorem agreed_compressor (state : CompressionState) (header : String) (c : Option Codec) :
    agreed { state with compressor := c } header =
      { state.agreed header with compressor := c } := by
  have hold := agreed_streams state header state.decompressor state.compressor
  have hnew := agreed_streams state header state.decompressor c
  dsimp only at hold hnew
  rw [hnew]
  generalize state.agreed header = agreed at hold ⊢
  rw [hold]

theorem processExtensionHeader_compressor (state : CompressionState) (system : System)
    (header : String) (c : Option Codec) :
    (∃ trap, state.processExtensionHeader system header = .error trap ∧
      processExtensionHeader { state with compressor := c } system header = .error trap) ∨
    ∃ t new, state.processExtensionHeader system header = .ok t ∧
      processExtensionHeader { state with compressor := c } system header =
        .ok { t with compressor := new } := by
  rw [processExtensionHeader_eq, processExtensionHeader_eq, agreed_compressor state header c]
  generalize state.agreed header = agreed
  have hoverflows : overflows { agreed with compressor := c } = agreed.overflows := rfl
  rw [hoverflows]
  split
  · exact .inl ⟨_, rfl, rfl⟩
  · dsimp only
    split
    · exact .inr ⟨_, _, rfl, rfl⟩
    · exact .inr ⟨_, c, rfl, rfl⟩

/-- Whether a message is compressed is not said here. -/
theorem messageNeedsDecompression_agreed (state : CompressionState) (header : String) :
    (state.agreed header).messageNeedsDecompression = state.messageNeedsDecompression := by
  unfold agreed
  generalize header.toList.splitOnP (· == ';') = parts
  induction parts generalizing state with
  | nil => rfl
  | cons part parts ih =>
    rw [List.foldl_cons, ih]
    rcases processPart_cases part with h | ⟨bits, h⟩ | ⟨bits, h⟩ | h | h | h
    · rw [h]
    · rw [h]
    · rw [h]
    · rw [h]
    · rw [h]
    · rw [h]

/-- A header, and the same header again. -/
theorem processExtensionHeader_twice {state t : CompressionState} {header : String}
    (h : state.processExtensionHeader system header = .ok t) :
    t.processExtensionHeader system header = .ok t ∧
      t.messageNeedsDecompression = state.messageNeedsDecompression := by
  have htwice : (state.agreed header).agreed header = state.agreed header :=
    foldl_processPart_foldl state (header.toList.splitOnP (· == ';'))
  have hneeds := messageNeedsDecompression_agreed state header
  rw [processExtensionHeader_eq] at h
  split at h
  · exact absurd h (by simp)
  · rename_i hfits
    split at h
    · rename_i hsupports
      obtain rfl := Except.ok.inj h
      refine ⟨?_, hneeds⟩
      have hoverflows : ∀ d c, overflows { state.agreed header with
          decompressor := d, compressor := c } = (state.agreed header).overflows :=
        fun d c => rfl
      rw [processExtensionHeader_eq, agreed_streams, htwice, hoverflows, if_neg hfits]
      exact if_pos hsupports
    · rename_i hsupports
      obtain rfl := Except.ok.inj h
      refine ⟨?_, hneeds⟩
      rw [processExtensionHeader_eq, htwice, if_neg hfits, if_neg hsupports]

end CompressionState

/-! ## 3. The response -/

namespace WebSocket

theorem acceptsKey_congr {u : WebSocket} (h : u.headerSecKey = ws.headerSecKey) (system : System)
    (key : String) : u.acceptsKey system key = ws.acceptsKey system key := by
  rw [acceptsKey, acceptsKey, h]

/-- Agreeing changes the extensions only, and the same way if it is done again. -/
theorem agree_keeps {headers : List (String × String)} (h : ws.agree system headers = .ok t) :
    t.agree system headers = .ok t ∧ ∃ state, t = { ws with compressionState := state } ∧
      state.messageNeedsDecompression = ws.compressionState.messageNeedsDecompression := by
  unfold agree at h ⊢
  split at h
  · rename_i header hheader
    obtain ⟨state, hstate, hpure⟩ := bind_eq_ok.mp h
    obtain rfl := pure_eq_ok.mp hpure
    obtain ⟨hagain, hneeds⟩ := CompressionState.processExtensionHeader_twice hstate
    refine ⟨?_, state, rfl, hneeds⟩
    dsimp only
    rw [hagain]
    rfl
  · obtain rfl := Except.ok.inj h
    exact ⟨rfl, ws.compressionState, rfl, rfl⟩

/-- So does a response. -/
theorem validateResponse_keeps {response : Data} {code : Int}
    (h : ws.validateResponse system response = .ok (t, code)) :
    t.validateResponse system response = .ok (t, code) ∧
      ∃ state, t = { ws with compressionState := state } ∧
        state.messageNeedsDecompression = ws.compressionState.messageNeedsDecompression := by
  have hsame : ws = { ws with compressionState := ws.compressionState } := rfl
  unfold validateResponse at h ⊢
  split at h
  · obtain ⟨rfl, rfl⟩ := Prod.mk.inj (Except.ok.inj h)
    exact ⟨rfl, ws.compressionState, hsame, rfl⟩
  · rename_i status headers hparse
    by_cases hcode : status = httpSwitchProtocolCode
    · rw [if_neg (by simp [hcode])] at h ⊢
      obtain ⟨u, hu, hpure⟩ := bind_eq_ok.mp h
      obtain ⟨hagain, state, hstate, hneeds⟩ := agree_keeps hu
      split at hpure
      · rename_i key hkey
        obtain ⟨rfl, hcode⟩ := Prod.mk.inj (pure_eq_ok.mp hpure)
        refine ⟨?_, state, hstate, hneeds⟩
        rw [hagain]
        exact congrArg (fun code => Except.ok (u, code)) hcode
      · rename_i hnone
        obtain ⟨rfl, hcode⟩ := Prod.mk.inj (pure_eq_ok.mp hpure)
        refine ⟨?_, state, hstate, hneeds⟩
        rw [hagain]
        exact congrArg (fun code => Except.ok (u, code)) hcode
    · rw [if_pos (by simpa using hcode)] at h ⊢
      obtain ⟨rfl, rfl⟩ := Prod.mk.inj (Except.ok.inj h)
      exact ⟨rfl, ws.compressionState, hsame, rfl⟩

/-- The extensions of a response that cannot be set up. -/
def Overflows (ws : WebSocket) (response : Data) : Prop :=
  ∃ headers header, parseResponse response = some (httpSwitchProtocolCode, headers) ∧
    headers.lookup "sec-websocket-extensions" = some header ∧
    (ws.compressionState.agreed header).overflows = true

/-- A switch of protocols with the digest of the key; or any response at all whose status is 0. -/
def Accepts (ws : WebSocket) (system : System) (response : Data) : Prop :=
  ¬ws.Overflows response ∧ ∃ code headers, parseResponse response = some (code, headers) ∧
    (code = 0 ∨ code = httpSwitchProtocolCode ∧
      ∃ key, headers.lookup "sec-websocket-accept" = some key ∧ ws.acceptsKey system key = true)

/-- What counts as an answer that has not come to its end: there is no status in it, or a status of
-1, or it is a switch of protocols without the digest of the key. -/
def Ignores (ws : WebSocket) (system : System) (response : Data) : Prop :=
  ¬ws.Overflows response ∧ (parseResponse response = none ∨
    ∃ code headers, parseResponse response = some (code, headers) ∧
      (code = -1 ∨ code = httpSwitchProtocolCode ∧
        ∀ key, headers.lookup "sec-websocket-accept" = some key →
          ws.acceptsKey system key = false))

theorem agree_cases (ws : WebSocket) (system : System) (headers : List (String × String)) :
    (ws.agree system headers = .error .conversion ∧
        ∃ header, headers.lookup "sec-websocket-extensions" = some header ∧
          (ws.compressionState.agreed header).overflows = true) ∨
      ∃ t, ws.agree system headers = .ok t ∧
        ∀ header, headers.lookup "sec-websocket-extensions" = some header →
          (ws.compressionState.agreed header).overflows = false := by
  unfold agree
  cases hheader : headers.lookup "sec-websocket-extensions" with
  | none => exact .inr ⟨ws, rfl, by simp⟩
  | some header =>
    dsimp only
    rw [CompressionState.processExtensionHeader_eq]
    cases hoverflows : (ws.compressionState.agreed header).overflows with
    | true => exact .inl ⟨by simp [bind, Except.bind], header, rfl, hoverflows⟩
    | false =>
      refine .inr ?_
      rw [if_neg (by simp)]
      split
      · exact ⟨_, rfl, by simp [hoverflows]⟩
      · exact ⟨_, rfl, by simp [hoverflows]⟩

/-- What a response comes to: the app stops at its extensions, or it has a status. -/
theorem validateResponse_cases (ws : WebSocket) (system : System) (response : Data) :
    (ws.validateResponse system response = .error .conversion ∧ ws.Overflows response) ∨
      ∃ t code, ws.validateResponse system response = .ok (t, code) ∧ ¬ws.Overflows response ∧
        (code = 0 ↔ ws.Accepts system response) ∧ (code = -1 ↔ ws.Ignores system response) := by
  cases hparse : parseResponse response with
  | none =>
    have hnot : ¬ws.Overflows response := by simp [Overflows, hparse]
    refine .inr ⟨ws, -1, by simp [validateResponse, hparse], hnot, ?_, ?_⟩
    · simp [Accepts, hparse]
    · simp [Ignores, hparse, hnot]
  | some parsed =>
    obtain ⟨status, headers⟩ := parsed
    by_cases hcode : status = httpSwitchProtocolCode
    · subst hcode
      rcases agree_cases ws system headers with
        ⟨hagree, header, hheader, hoverflows⟩ | ⟨t, hagree, hfits⟩
      · refine .inl ⟨?_, headers, header, hparse, hheader, hoverflows⟩
        simp [validateResponse, hparse, hagree, bind, Except.bind]
      · have hnot : ¬ws.Overflows response := by
          rintro ⟨headers', header, hparse', hheader, hoverflows⟩
          obtain ⟨-, rfl⟩ := Prod.mk.inj (Option.some.inj (hparse.symm.trans hparse'))
          simp [hfits header hheader] at hoverflows
        obtain ⟨-, state, rfl, -⟩ := agree_keeps hagree
        have hkey : ∀ key, acceptsKey { ws with compressionState := state } system key =
            ws.acceptsKey system key := acceptsKey_congr rfl system
        refine .inr ?_
        cases hlookup : headers.lookup "sec-websocket-accept" with
        | none =>
          refine ⟨{ ws with compressionState := state }, -1, ?_, hnot, ?_, ?_⟩
          · simp [validateResponse, hparse, hagree, hlookup, bind, Except.bind, pure, Except.pure]
          · simp [Accepts, hparse, hlookup, httpSwitchProtocolCode]
          · simp [Ignores, hparse, hlookup, hnot]
        | some key =>
          refine ⟨{ ws with compressionState := state },
            if ws.acceptsKey system key then 0 else -1, ?_, hnot, ?_, ?_⟩
          · simp [validateResponse, hparse, hagree, hlookup, hkey, bind, Except.bind, pure,
              Except.pure]
          · simp [Accepts, hparse, hlookup, hnot, httpSwitchProtocolCode]
          · simp [Ignores, hparse, hlookup, hnot, httpSwitchProtocolCode]
    · have hnot : ¬ws.Overflows response := by
        rintro ⟨headers', header, hparse', -⟩
        obtain ⟨rfl, -⟩ := Prod.mk.inj (Option.some.inj (hparse.symm.trans hparse'))
        exact hcode rfl
      refine .inr ⟨ws, status, by simp [validateResponse, hparse, hcode], hnot, ?_, ?_⟩
      · simp [Accepts, hparse, hcode, hnot]
      · simp [Ignores, hparse, hcode, hnot]

/-- **Which responses are accepted.** -/
theorem accepted_iff (ws : WebSocket) (system : System) (response : Data) :
    (∃ t, ws.validateResponse system response = .ok (t, 0)) ↔ ws.Accepts system response := by
  rcases validateResponse_cases ws system response with
    ⟨herror, hoverflows⟩ | ⟨t, code, hok, -, haccepts, -⟩
  · constructor
    · rintro ⟨t, hok⟩
      exact absurd (herror.symm.trans hok) (by simp)
    · exact fun h => absurd hoverflows h.1
  · rw [← haccepts]
    constructor
    · rintro ⟨u, hzero⟩
      exact (Prod.mk.inj (Except.ok.inj (hok.symm.trans hzero))).2
    · rintro rfl
      exact ⟨t, hok⟩

/-- Which are kept. -/
theorem ignored_iff (ws : WebSocket) (system : System) (response : Data) :
    (∃ t, ws.validateResponse system response = .ok (t, -1)) ↔ ws.Ignores system response := by
  rcases validateResponse_cases ws system response with
    ⟨herror, hoverflows⟩ | ⟨t, code, hok, -, -, hignores⟩
  · constructor
    · rintro ⟨t, hok⟩
      exact absurd (herror.symm.trans hok) (by simp)
    · exact fun h => absurd hoverflows h.1
  · rw [← hignores]
    constructor
    · rintro ⟨u, hminus⟩
      exact (Prod.mk.inj (Except.ok.inj (hok.symm.trans hminus))).2
    · rintro rfl
      exact ⟨t, hok⟩

/-- At which the app stops. -/
theorem validateResponse_eq_error_iff {response : Data} {trap : Trap} :
    ws.validateResponse system response = .error trap ↔
      trap = .conversion ∧ ws.Overflows response := by
  rcases validateResponse_cases ws system response with
    ⟨herror, hoverflows⟩ | ⟨t, code, hok, hnot, -, -⟩
  · constructor
    · exact fun h => ⟨Except.error.inj (h.symm.trans herror), hoverflows⟩
    · rintro ⟨rfl, -⟩
      exact herror
  · constructor
    · exact fun h => absurd (hok.symm.trans h) (by simp)
    · exact fun h => absurd h.2 hnot

/-- The key and the extensions are all that is looked at. -/
theorem Ignores.congr {u : WebSocket} {response : Data} (h : ws.Ignores system response)
    (hkey : u.headerSecKey = ws.headerSecKey) (hstate : u.compressionState = ws.compressionState) :
    u.Ignores system response := by
  unfold Ignores Overflows at h ⊢
  simpa only [acceptsKey_congr hkey, hstate] using h

/-! ## 4. Reading it -/

end WebSocket

/-- The response that the bytes begin with, if it is all there. -/
def response? (xs : Data) : Option Data :=
  if 0 < headerEnd 0 0 xs then some (xs.take (headerEnd 0 0 xs)) else none

theorem response?_append {response : Data} (h : response? xs = some response) (ys : Data) :
    response? (xs ++ ys) = some response := by
  unfold response? at h ⊢
  split at h
  · rename_i hend
    have hsame := headerEnd_append hend ys
    have hle := headerEnd_le 0 0 xs
    rw [hsame, if_pos hend, List.take_append_of_le_length (by omega)]
    exact h
  · exact absurd h (by simp)

namespace WebSocket

/-- What the start of the input is read as, until the socket is connected. -/
def handshakeReading (ws : WebSocket) (system : System) (xs : Data) : Reading WebSocket Trap :=
  let totalSize := headerEnd 0 0 xs
  if 0 < totalSize then
    match ws.validateResponse system (xs.take totalSize) with
    | .error trap => .fail trap
    | .ok (ws, code) =>
      if code = 0 then .take ws.connect101 totalSize
      else if code = -1 then .wait ws
      else .stop (ws.doDisconnect (some (.ws {
        type := .upgradeError, message := "Invalid HTTP upgrade", code })))
  else .wait ws

/-- The five readings. -/
inductive HandshakeView (ws : WebSocket) (system : System) (xs : Data) :
    Reading WebSocket Trap → Prop
  | unfinished (hend : headerEnd 0 0 xs = 0) : HandshakeView ws system xs (.wait ws)
  | traps {trap : Trap} (hend : 0 < headerEnd 0 0 xs)
      (answer : ws.validateResponse system (xs.take (headerEnd 0 0 xs)) = .error trap) :
      HandshakeView ws system xs (.fail trap)
  | accepted {t : WebSocket} (hend : 0 < headerEnd 0 0 xs)
      (answer : ws.validateResponse system (xs.take (headerEnd 0 0 xs)) = .ok (t, 0)) :
      HandshakeView ws system xs (.take t.connect101 (headerEnd 0 0 xs))
  | kept {t : WebSocket} (hend : 0 < headerEnd 0 0 xs)
      (answer : ws.validateResponse system (xs.take (headerEnd 0 0 xs)) = .ok (t, -1)) :
      HandshakeView ws system xs (.wait t)
  | refused {t : WebSocket} {code : Int} (hend : 0 < headerEnd 0 0 xs)
      (answer : ws.validateResponse system (xs.take (headerEnd 0 0 xs)) = .ok (t, code))
      (zero : code ≠ 0) (minus : code ≠ -1) :
      HandshakeView ws system xs (.stop (t.doDisconnect (some (.ws {
        type := .upgradeError, message := "Invalid HTTP upgrade", code }))))

theorem handshakeReading_view (ws : WebSocket) (system : System) (xs : Data) :
    HandshakeView ws system xs (ws.handshakeReading system xs) := by
  unfold handshakeReading
  dsimp only
  split
  · rename_i hend
    split
    · rename_i trap hanswer
      exact .traps hend hanswer
    · rename_i t code hanswer
      split
      · rename_i hzero
        exact .accepted hend (hzero ▸ hanswer)
      · rename_i hzero
        split
        · rename_i hminus
          exact .kept hend (hminus ▸ hanswer)
        · rename_i hminus
          exact .refused hend hanswer hzero hminus
  · rename_i hend
    exact .unfinished (by omega)

theorem processTCPHandshake_eq {beyond : Nat → UInt8} :
    ws.processTCPHandshake system beyond xs =
      match ws.handshakeReading system xs with
      | .take t n =>
        if 0 < xs.length - n then t.processRawMessagesInBuffer system beyond (xs.drop n)
        else .ok t
      | .wait t => .ok { t with fragBuffer := some xs }
      | .stop t => .ok t
      | .fail trap => .error trap := by
  have hview := ws.handshakeReading_view system xs
  unfold processTCPHandshake
  dsimp only
  generalize ws.handshakeReading system xs = reading at hview ⊢
  cases hview with
  | unfinished hend => rw [if_neg (by omega)]
  | traps hend answer => rw [if_pos hend, answer]
  | accepted hend answer => simp [hend, answer]
  | kept hend answer => simp [hend, answer]
  | refused hend answer zero minus =>
    rw [if_pos hend, answer]
    split
    · rename_i hsome
      exact absurd hsome (by simp)
    · rename_i hsome
      exact absurd (Prod.mk.inj (Except.ok.inj hsome)).2 zero
    · rename_i hsome
      exact absurd (Prod.mk.inj (Except.ok.inj hsome)).2 minus
    · rename_i hsome
      obtain ⟨rfl, rfl⟩ := Prod.mk.inj (Except.ok.inj hsome)
      rfl

/-- What comes after the blank line changes nothing. -/
theorem handshakeReading_append (h : 0 < headerEnd 0 0 xs) (ys : Data) :
    ws.handshakeReading system (xs ++ ys) = ws.handshakeReading system xs := by
  have hend := headerEnd_append h ys
  have hle := headerEnd_le 0 0 xs
  have htake : (xs ++ ys).take (headerEnd 0 0 xs) = xs.take (headerEnd 0 0 xs) :=
    List.take_append_of_le_length (by omega)
  simp only [handshakeReading, hend, htake]

/-- A response that is looked at again is the same response. -/
theorem handshakeReading_wait (h : ws.handshakeReading system xs = .wait t) (ys : Data) :
    t.handshakeReading system (xs ++ ys) = ws.handshakeReading system (xs ++ ys) := by
  have hview := ws.handshakeReading_view system xs
  rw [h] at hview
  cases hview with
  | unfinished hend => rfl
  | kept hend answer =>
    rw [handshakeReading_append hend, handshakeReading_append hend, h]
    simp [handshakeReading, hend, (validateResponse_keeps answer).1]

end WebSocket

end Starscream
