/-
# A server that compresses

Whether a message is compressed is said in its first frame, and holds to its last.  `Talks` is how
a server keeps to that.  A socket goes by a flag of its own, which is set anew by every frame that
does not continue a message, a ping or a pong among them.  So the two agree as long as there is
neither within a compressed message; what comes of a ping there is in `ping_ends_inflating`.

* `utters_of_says`, `speaks_of_talks`: a socket takes what is said for what is meant;
* `pump_of_talk`: as far as it has come.
-/
import WeatherAccommodation.Starscream.Messages

namespace Starscream

open Reactive Streaming WireFormat

variable {system : System} {ws : WebSocket}

/-! ## 1. What a server says -/

/-- A message that has begun. -/
structure Message where
  begun : Begun
  compressed : Bool

/-- How far a server has come: the state is what was agreed on, with the zlib that inflates what it
compresses. -/
structure Talk where
  message : Option Message
  state : CompressionState

/-- What a payload comes to. -/
inductive Unpacks (system : System) (s : CompressionState) (isFin : Bool) :
    Bool → Data → Data → CompressionState → Prop
  | plain {sent : Data} (size : sent.length < 2 ^ 64) : Unpacks system s isFin false sent sent s
  | inflated {decompressor used : Codec} {sent data : Data} (size : sent.length < 2 ^ 64)
      (supports : s.supportsCompression = true) (zlib : s.decompressor = some decompressor)
      (inflates : s.inflate system decompressor sent isFin = .ok (data, used)) :
      Unpacks system s isFin true sent data { s with decompressor := some used }

/-- One frame, and what it means. -/
inductive Says (system : System) : Talk → Frame → List Heard → Talk → Prop
  | whole {s t : CompressionState} {compressed : Bool} {code : OpCode} {sent data : Data}
      {call : Callback} (unpacks : Unpacks system s true compressed sent data t)
      (tell : tells code data = some call) :
      Says system ⟨none, s⟩ (serverFrame true compressed code sent) [.told call] ⟨none, t⟩
  | first {s t : CompressionState} {compressed : Bool} {code : OpCode} {sent data : Data}
      (unpacks : Unpacks system s false compressed sent data t)
      (kind : code = .textFrame ∨ code = .binaryFrame) :
      Says system ⟨none, s⟩ (serverFrame false compressed code sent) []
        ⟨some ⟨⟨code, 1, data⟩, compressed⟩, t⟩
  | more {m : Message} {s t : CompressionState} {sent data : Data}
      (unpacks : Unpacks system s false m.compressed sent data t) :
      Says system ⟨some m, s⟩ (serverFrame false false .continueFrame sent) []
        ⟨some ⟨⟨m.begun.code, m.begun.frameCount + 1, m.begun.data ++ data⟩, m.compressed⟩, t⟩
  | last {m : Message} {s t : CompressionState} {sent data : Data} {call : Callback}
      (unpacks : Unpacks system s true m.compressed sent data t)
      (tell : tells m.begun.code (m.begun.data ++ data) = some call) :
      Says system ⟨some m, s⟩ (serverFrame true false .continueFrame sent) [.told call] ⟨none, t⟩
  | ping {m : Option Message} {s : CompressionState} {data : Data}
      (between : ∀ message ∈ m, message.compressed = false) (size : data.length ≤ 125) :
      Says system ⟨m, s⟩ (serverFrame true false .ping data) [.pinged data] ⟨m, s⟩
  | pong {m : Option Message} {s : CompressionState} {data : Data}
      (between : ∀ message ∈ m, message.compressed = false) (size : data.length < 2 ^ 64) :
      Says system ⟨m, s⟩ (serverFrame true false .pong data) [.told (tellsPong data)] ⟨m, s⟩

/-- One frame after the other. -/
inductive Talks (system : System) : Talk → List Frame → List Heard → Talk → Prop
  | nil (b : Talk) : Talks system b [] [] b
  | cons {b c d : Talk} {f : Frame} {fs : List Frame} {h hs : List Heard}
      (head : Says system b f h c) (tail : Talks system c fs hs d) :
      Talks system b (f :: fs) (h ++ hs) d

/-- What is said first is said first. -/
theorem Talks.split {b d : Talk} {fs gs : List Frame} {hs : List Heard}
    (h : Talks system b (fs ++ gs) hs d) :
    ∃ ks js c, hs = ks ++ js ∧ Talks system b fs ks c ∧ Talks system c gs js d := by
  induction fs generalizing b hs with
  | nil => exact ⟨[], hs, b, rfl, .nil b, h⟩
  | cons f fs ih =>
    cases h with
    | @cons _ c _ _ _ h hs head tail =>
      obtain ⟨ks, js, e, rfl, hfirst, hrest⟩ := ih tail
      exact ⟨h ++ ks, js, e, (List.append_assoc _ _ _).symm, .cons head hfirst, hrest⟩

/-! ## 2. What a socket takes it for -/

/-- The flag of a socket says of the message that has begun whether it is compressed. -/
structure Talk.Flagged (b : Talk) (flag : Bool) : Prop where
  unsupported : b.state.supportsCompression = false → flag = false
  message : ∀ m ∈ b.message, flag = m.compressed

/-- What it is to a socket with this flag. -/
def Talk.speech (b : Talk) (flag : Bool) : Speech where
  begun := b.message.map Message.begun
  state := { b.state with messageNeedsDecompression := flag }

section Flag

variable {s t : CompressionState} {isFin compressed hasRSV1 flag : Bool} {code : OpCode}
  {sent data : Data}

theorem Unpacks.size (h : Unpacks system s isFin compressed sent data t) :
    sent.length < 2 ^ 64 := by
  cases h with
  | plain size => exact size
  | inflated size supports zlib inflates => exact size

theorem Unpacks.supports (h : Unpacks system s isFin compressed sent data t) :
    t.supportsCompression = s.supportsCompression ∧
      (s.supportsCompression = false → compressed = false) := by
  cases h with
  | plain size => exact ⟨rfl, fun _ => rfl⟩
  | inflated size supports zlib inflates =>
    exact ⟨rfl, fun hoff => absurd supports (by simp [hoff])⟩

/-- Where the flag comes to be that of the message, the payload is taken for what it is. -/
theorem carries_of_unpacks (h : Unpacks system s isFin compressed sent data t)
    (hmark : hasRSV1 = true → compressed = true)
    (hnote : CompressionState.note { s with messageNeedsDecompression := flag }
        (serverHeader isFin hasRSV1 code sent) =
      { s with messageNeedsDecompression := compressed }) :
    Carries system { s with messageNeedsDecompression := flag } isFin hasRSV1 code sent data
      { t with messageNeedsDecompression := compressed } := by
  refine ⟨h.size, fun hset => .inr ?_, ?_⟩
  · rw [hnote]
    exact hmark hset
  · rw [hnote]
    cases h with
    | plain size => rfl
    | @inflated decompressor used _ _ size supports zlib inflates =>
      unfold CompressionState.decompressed
      simp only [zlib]
      exact bind_eq_ok.mpr ⟨(data, used), inflates, rfl⟩

/-- A frame that does not continue a message sets the flag, if compression was agreed on. -/
theorem note_new (hcode : code ≠ .continueFrame)
    (hplain : s.supportsCompression = false → flag = false ∧ hasRSV1 = false) :
    CompressionState.note { s with messageNeedsDecompression := flag }
        (serverHeader isFin hasRSV1 code sent) =
      { s with messageNeedsDecompression := hasRSV1 } := by
  unfold CompressionState.note
  cases hsupports : s.supportsCompression with
  | true => simp [serverHeader, hcode]
  | false =>
    obtain ⟨rfl, rfl⟩ := hplain hsupports
    simp

/-- A frame that continues one leaves the flag as it is. -/
theorem note_continue :
    CompressionState.note { s with messageNeedsDecompression := flag }
        (serverHeader isFin false .continueFrame sent) =
      { s with messageNeedsDecompression := flag } := by
  simp [CompressionState.note, serverHeader]

end Flag

/-- **A socket takes a frame for what it means**, if its flag is right, and its flag is right again
behind it. -/
theorem utters_of_says {b c : Talk} {f : Frame} {hs : List Heard} {flag : Bool}
    (h : Says system b f hs c) (hflag : b.Flagged flag) :
    ∃ after, Utters system (b.speech flag) f hs (c.speech after) ∧ c.Flagged after := by
  cases h with
  | @whole s t compressed code sent data call unpacks tell =>
    have hkind := WebSocket.tells_kind tell
    have hcode : code ≠ .continueFrame := by rcases hkind with rfl | rfl <;> decide
    obtain ⟨hkept, hnone⟩ := unpacks.supports
    have hcarries := carries_of_unpacks unpacks (fun h => h)
      (note_new hcode fun hoff => ⟨hflag.unsupported hoff, hnone hoff⟩)
    exact ⟨compressed, .whole hcarries tell, fun hoff => hnone (hkept ▸ hoff), by simp⟩
  | @first s t compressed code sent data unpacks kind =>
    have hcode : code ≠ .continueFrame := by rcases kind with rfl | rfl <;> decide
    obtain ⟨hkept, hnone⟩ := unpacks.supports
    have hcarries := carries_of_unpacks unpacks (fun h => h)
      (note_new hcode fun hoff => ⟨hflag.unsupported hoff, hnone hoff⟩)
    exact ⟨compressed, .first hcarries kind, fun hoff => hnone (hkept ▸ hoff), by simp⟩
  | @more m s t sent data unpacks =>
    obtain rfl := hflag.message m rfl
    have hcarries := carries_of_unpacks unpacks (by simp) note_continue
    exact ⟨m.compressed, .more hcarries, fun hoff => hflag.unsupported (unpacks.supports.1 ▸ hoff),
      by simp⟩
  | @last m s t sent data call unpacks tell =>
    obtain rfl := hflag.message m rfl
    have hcarries := carries_of_unpacks unpacks (by simp) note_continue
    exact ⟨m.compressed, .last hcarries tell,
      fun hoff => hflag.unsupported (unpacks.supports.1 ▸ hoff), by simp⟩
  | @ping m s data between size =>
    have hping : OpCode.ping ≠ .continueFrame := by decide
    have hunpacks : Unpacks system s true false data data s := .plain (by omega)
    have hcarries := carries_of_unpacks hunpacks (fun h => h)
      (note_new hping fun hoff => ⟨hflag.unsupported hoff, rfl⟩)
    exact ⟨false, .ping hcarries size, fun _ => rfl, fun message hm => (between message hm).symm⟩
  | @pong m s data between size =>
    have hpong : OpCode.pong ≠ .continueFrame := by decide
    have hunpacks : Unpacks system s true false data data s := .plain size
    have hcarries := carries_of_unpacks hunpacks (fun h => h)
      (note_new hpong fun hoff => ⟨hflag.unsupported hoff, rfl⟩)
    exact ⟨false, .pong hcarries, fun _ => rfl, fun message hm => (between message hm).symm⟩

/-- **So it does with everything that is said.** -/
theorem speaks_of_talks {b c : Talk} {fs : List Frame} {hs : List Heard} {flag : Bool}
    (h : Talks system b fs hs c) (hflag : b.Flagged flag) :
    ∃ after, Speaks system (b.speech flag) fs hs (c.speech after) ∧ c.Flagged after := by
  induction h generalizing flag with
  | nil b => exact ⟨flag, .nil _, hflag⟩
  | cons head _ ih =>
    obtain ⟨next, hutters, hnext⟩ := utters_of_says head hflag
    obtain ⟨after, hspeaks, hafter⟩ := ih hnext
    exact ⟨after, .cons hutters hspeaks, hafter⟩

/-- At any time exactly that has been heard which is there to its last byte. -/
theorem pump_of_talk {b c : Talk} {fs : List Frame} {hs : List Heard} {xs rest : Data}
    {flag : Bool} (hws : ws.Listens (b.speech flag)) (hready : ws.readyToWrite = true)
    (hflag : b.Flagged flag) (htalks : Talks system b fs hs c)
    (hbytes : xs ++ rest = fs.flatMap Frame.bytes) :
    ∃ gs later ks js part e t, fs = gs ++ later ∧ hs = ks ++ js ∧ Talks system b gs ks e ∧
      Talks system e later js c ∧ xs = gs.flatMap Frame.bytes ++ part ∧
      (∀ f ∈ later.head?, part.length < f.bytes.length) ∧
      (wire system).pump ws xs = .waiting t part ∧
      t.callbackQueue = ws.callbackQueue ++ told ks ∧ t.writeQueue = ws.writeQueue ++ owed ks := by
  obtain ⟨gs, later, part, rfl, rfl, hpart⟩ := Reader.exists_split hbytes
  obtain ⟨ks, js, e, rfl, hfirst, hafter⟩ := htalks.split
  obtain ⟨after, hspeaks, hright⟩ := speaks_of_talks hfirst hflag
  have hnext : ∀ f ∈ later.head?, ∃ hs c, Utters system (e.speech after) f hs c := by
    intro f hf
    cases hafter with
    | nil => exact absurd hf (by simp)
    | cons head _ =>
      obtain rfl := Option.some.inj hf
      obtain ⟨next, hutters, -⟩ := utters_of_says head hright
      exact ⟨_, _, hutters⟩
  obtain ⟨hshort, t, hpump, hcalls, hwrites⟩ := pump_of_split hws hready hspeaks hnext hpart
  exact ⟨gs, later, ks, js, part, e, t, rfl, rfl, hfirst, hafter, rfl, hshort, hpump, hcalls,
    hwrites⟩

end Starscream
