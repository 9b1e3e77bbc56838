/-
# One frame after the other

`wire` is the reader that looks at the length of its input before it looks at a byte: the answer to
the upgrade first, and frames from then on.  It is lawful, and the methods of the socket follow it
wherever the two bytes of a header are there.

* `processFrame_eq`: what is in memory behind the buffer makes no difference then;
* `frameReading_view`: a frame is refused for its header, or not all there, or received;
* `wire_lawful`: what is behind a frame makes no difference to it.
-/
import WeatherAccommodation.Starscream.Upgrade

namespace Starscream

open Reactive Streaming WireFormat

/-! ## 1. Numbers in memory -/

theorem toNat_readUint16 (memory : Nat → UInt8) (offset : Nat) :
    (readUint16 memory offset).toNat = ofBytes [memory offset, memory (offset + 1)] := by
  have hlow : (memory (offset + 1)).toNat < 2 ^ 8 := (memory (offset + 1)).toNat_lt
  have hhigh : (memory offset).toNat < 2 ^ 8 := (memory offset).toNat_lt
  unfold readUint16 ofBytes
  simp only [UInt16.toNat_or, UInt16.toNat_shiftLeft, UInt8.toNat_toUInt16, List.foldl_cons,
    List.foldl_nil]
  have hshift : (memory offset).toNat <<< ((8 : UInt16).toNat % 16) % 2 ^ 16 =
      (memory offset).toNat <<< 8 := by
    rw [Nat.mod_eq_of_lt]
    · rfl
    · rw [Nat.shiftLeft_eq]
      have : (8 : UInt16).toNat % 16 = 8 := rfl
      rw [this]
      omega
  rw [hshift, ← Nat.shiftLeft_add_eq_or_of_lt hlow, Nat.shiftLeft_eq]
  omega

/-- Eight bytes fit, one after the other. -/
theorem toNat_foldl_shift (bs : List UInt8) (value : UInt64) {k : Nat}
    (hvalue : value.toNat < 256 ^ k) (hk : k + bs.length ≤ 8) :
    (bs.foldl (fun (v : UInt64) b => (v <<< 8) ||| b.toUInt64) value).toNat =
      bs.foldl (fun n b => 256 * n + b.toNat) value.toNat := by
  induction bs generalizing value k with
  | nil => rfl
  | cons b bs ih =>
    have hlow : b.toNat < 2 ^ 8 := b.toNat_lt
    have hpow : (256 : Nat) ^ (k + 1) ≤ 256 ^ 8 := by
      rw [List.length_cons] at hk
      exact Nat.pow_le_pow_right (by omega) (by omega)
    have hshift : value.toNat <<< ((8 : UInt64).toNat % 64) % 2 ^ 64 = value.toNat <<< 8 := by
      have height : (8 : UInt64).toNat % 64 = 8 := rfl
      rw [height, Nat.mod_eq_of_lt]
      rw [Nat.shiftLeft_eq]
      rw [pow_succ] at hpow
      omega
    have hnext : ((value <<< 8) ||| b.toUInt64).toNat = 256 * value.toNat + b.toNat := by
      simp only [UInt64.toNat_or, UInt64.toNat_shiftLeft, UInt8.toNat_toUInt64]
      rw [hshift, ← Nat.shiftLeft_add_eq_or_of_lt hlow, Nat.shiftLeft_eq]
      omega
    simp only [List.foldl_cons, List.length_cons] at hk ⊢
    rw [← hnext]
    refine ih _ (k := k + 1) ?_ (by omega)
    rw [hnext, pow_succ]
    omega

theorem toNat_readUint64 (memory : Nat → UInt8) (offset : Nat) :
    (readUint64 memory offset).toNat =
      ofBytes ((List.range 8).map fun i => memory (offset + i)) := by
  unfold readUint64 ofBytes
  have hshift := toNat_foldl_shift ((List.range 8).map fun i => memory (offset + i)) 0 (k := 0)
    (by decide) (by simp)
  rw [List.foldl_map] at hshift
  exact hshift

/-! ## 2. The buffer -/

variable {system : System} {beyond : Nat → UInt8} {xs ys : Data} {ws t : WebSocket}

theorem byteAt_of_lt {i : Nat} (h : i < xs.length) : byteAt beyond xs i = xs.getD i 0 := by
  simp only [byteAt, List.getD_eq_getElem _ _ h]

/-- What lies in the buffer is read from it. -/
theorem map_byteAt (beyond : Nat → UInt8) {offset n : Nat} (h : offset + n ≤ xs.length) :
    (List.range n).map (fun i => byteAt beyond xs (offset + i)) = (xs.drop offset).take n := by
  refine List.ext_getElem ?_ ?_
  · simp
    omega
  · intro i hi _
    have hin : i < n := by simpa using hi
    simp only [List.getElem_map, List.getElem_range, List.getElem_take, List.getElem_drop]
    rw [byteAt_of_lt (by omega), List.getD_eq_getElem _ _ (by omega)]

theorem payloadLen_ofBytes (first second : UInt8) :
    (Header.ofBytes first second).payloadLen = second &&& 0x7F := by
  simp only [Header.ofBytes, PayloadLenMask]
  exact UInt8.and_comm _ _

/-- The length is read from the buffer, if the bytes up to the payload are there. -/
theorem lengthAt_eq (beyond : Nat → UInt8) (xs : Data) :
    (lengthAt (byteAt beyond xs) (Header.ofBytes (xs.getD 0 0) (xs.getD 1 0))).2 =
        (payloadLength xs).2 ∧
      ((payloadLength xs).2 ≤ xs.length →
        lengthAt (byteAt beyond xs) (Header.ofBytes (xs.getD 0 0) (xs.getD 1 0)) =
          payloadLength xs) := by
  have hnum : ∀ n : UInt8, ∀ k : Nat, k < 256 → (n = UInt8.ofNat k ↔ n.toNat = k) := by
    intro n k hk
    rw [← UInt8.toNat_inj, UInt8.toNat_ofNat']
    omega
  simp only [lengthAt, payloadLength, payloadLen_ofBytes]
  have h127 := hnum (xs.getD 1 0 &&& 0x7F) 127 (by omega)
  have h126 := hnum (xs.getD 1 0 &&& 0x7F) 126 (by omega)
  by_cases hlong : xs.getD 1 0 &&& 0x7F = 127
  · rw [if_pos hlong, if_pos (h127.mp hlong)]
    refine ⟨rfl, fun hle => ?_⟩
    rw [toNat_readUint64, map_byteAt _ (by omega)]
  · rw [if_neg hlong, if_neg (fun hn => hlong (h127.mpr hn))]
    by_cases hmid : xs.getD 1 0 &&& 0x7F = 126
    · rw [if_pos hmid, if_pos (h126.mp hmid)]
      refine ⟨rfl, fun hle => ?_⟩
      have htwo : (List.range 2).map (fun i => byteAt beyond xs (2 + i)) = (xs.drop 2).take 2 :=
        map_byteAt beyond (by omega)
      rw [toNat_readUint16, ← htwo]
      rfl
    · rw [if_neg hmid, if_neg (fun hn => hmid (h126.mpr hn))]
      exact ⟨rfl, fun _ => rfl⟩

/-! ## 3. One frame -/

namespace WebSocket

/-- The frame at the front, with a look at the length first. -/
def frameReading (ws : WebSocket) (system : System) (xs : Data) : Reading WebSocket Trap :=
  let h := Header.ofBytes (xs.getD 0 0) (xs.getD 1 0)
  let ws := ws.noteCompression h
  match ws.refusal h 0, h.receivedOpcode with
  | some ws, _ => .stop ws
  | none, none => .stop ws
  | none, some opcode =>
    let n := (payloadLength xs).1
    let offset := (payloadLength xs).2
    if xs.length < offset + n then .wait ws
    else
      ws.receive system h opcode (h.closeCode (readUint16 (fun i => xs.getD i 0) 2)) n
        ((xs.drop offset).take n) (offset + n)

end WebSocket

/-- Only a close frame has a code. -/
theorem Header.closeCode_congr {h : Header} {code code' : UInt16}
    (hcode : h.receivedOpcode = some .connectionClose → 1 < h.payloadLen → code = code') :
    h.closeCode code = h.closeCode code' := by
  unfold closeCode
  split
  · rename_i hclose
    split
    · rfl
    · split
      · rename_i hlen
        rw [hcode (by simpa using hclose) hlen]
      · rfl
  · rfl

namespace WebSocket

/-- A frame that is refused for its header has no code. -/
theorem refusal_code (ws : WebSocket) (h : Header) (code : UInt16) :
    ws.refusal h code = ws.refusal h 0 := by
  unfold refusal
  split
  · rfl
  · split
    · rfl
    · split
      · rfl
      · split
        · split
          · rename_i hshort
            have hlen : ¬1 < h.payloadLen := by
              rw [UInt8.lt_iff_toNat_lt] at hshort ⊢
              have h2 : (2 : UInt8).toNat = 2 := rfl
              have h1 : (1 : UInt8).toNat = 1 := rfl
              omega
            have hcode : h.closeCode code = h.closeCode 0 :=
              Header.closeCode_congr fun _ hlong => absurd hlong hlen
            rw [hcode]
          · rfl
        · rfl

/-- A close frame that is not refused has a code, and so at least four bytes. -/
theorem two_le_of_refusal {h : Header} (hrefusal : ws.refusal h 0 = none)
    (hclose : h.receivedOpcode = some .connectionClose) : 2 ≤ h.payloadLen.toNat := by
  unfold refusal at hrefusal
  simp only [hclose] at hrefusal
  by_contra hlen
  have hshort : h.payloadLen < 2 := by
    rw [UInt8.lt_iff_toNat_lt]
    have h2 : (2 : UInt8).toNat = 2 := rfl
    omega
  simp only [hshort, if_true] at hrefusal
  split at hrefusal
  · exact absurd hrefusal (by simp)
  · split at hrefusal
    · exact absurd hrefusal (by simp)
    · split at hrefusal
      · exact absurd hrefusal (by simp)
      · exact absurd hrefusal (by simp)

end WebSocket

theorem four_le_of_payloadLen (h : 2 ≤ (xs.getD 1 0 &&& 0x7F).toNat) :
    4 ≤ (payloadLength xs).2 + (payloadLength xs).1 := by
  simp only [payloadLength]
  split
  · omega
  · split
    · omega
    · dsimp only
      omega

theorem readUint16_congr {memory memory' : Nat → UInt8} (h2 : memory 2 = memory' 2)
    (h3 : memory 3 = memory' 3) : readUint16 memory 2 = readUint16 memory' 2 := by
  simp [readUint16, h2, h3]

namespace WebSocket

/-- With two bytes there, what is behind the buffer makes no difference. -/
theorem processFrame_eq (h : 2 ≤ xs.length) :
    ws.processFrame system beyond xs = ws.frameReading system xs := by
  have hfirst : byteAt beyond xs 0 = xs.getD 0 0 := byteAt_of_lt (by omega)
  have hsecond : byteAt beyond xs 1 = xs.getD 1 0 := byteAt_of_lt (by omega)
  obtain ⟨hoffset, hlength⟩ := lengthAt_eq beyond xs
  unfold processFrame frameReading
  simp only [hfirst, hsecond, hoffset]
  rw [refusal_code]
  generalize hh : Header.ofBytes (xs.getD 0 0) (xs.getD 1 0) = header at *
  cases hrefusal : (ws.noteCompression header).refusal header 0 with
  | some t => rfl
  | none =>
    cases hopcode : header.receivedOpcode with
    | none => rfl
    | some opcode =>
      dsimp only
      by_cases hshort : xs.length < (payloadLength xs).2
      · rw [if_pos (by simp [hshort]), if_pos (by omega)]
      · rw [hlength (by omega)]
        by_cases hpart : xs.length < (payloadLength xs).2 + (payloadLength xs).1
        · rw [if_pos (by simp; omega), if_pos hpart]
        · rw [if_neg (by simp; omega), if_neg hpart, if_neg (by omega)]
          have hcode : header.closeCode (readUint16 (byteAt beyond xs) 2) =
              header.closeCode (readUint16 (fun i => xs.getD i 0) 2) := by
            refine Header.closeCode_congr fun hclose _ => ?_
            have htwo := two_le_of_refusal hrefusal hclose
            rw [← hh, payloadLen_ofBytes] at htwo
            have hfour := four_le_of_payloadLen htwo
            exact readUint16_congr (byteAt_of_lt (by omega)) (byteAt_of_lt (by omega))
          rw [hcode]

/-! ## 4. What a frame leaves behind -/

end WebSocket

/-- The payload of this message is inflated. -/
def CompressionState.inflates (state : CompressionState) : Bool :=
  state.messageNeedsDecompression && state.decompressor.isSome

namespace WebSocket

/-- What a payload stops the app with: a close frame with one byte, or more bytes than zlib
takes. -/
def payloadTrap (ws : WebSocket) (opcode : OpCode) (bytes : Data) : Option Trap :=
  if opcode = .connectionClose ∧ bytes.length = 1 then some .arithmeticOverflow
  else if ws.compressionState.inflates ∧
      2 ^ 32 ≤ (if opcode == .connectionClose then bytes.drop 2 else bytes).length then
    some .conversion
  else none

end WebSocket

theorem Codec.decompressBytes_eq_trap_iff {codec : Codec} {bytes : Data} {trap : Trap} :
    codec.decompressBytes system bytes = .error (.trap trap) ↔
      trap = .conversion ∧ 2 ^ 32 ≤ bytes.length := by
  unfold decompressBytes
  split
  · rename_i hlong
    exact ⟨fun h => ⟨(Thrown.trap.inj (Except.error.inj h)).symm, hlong⟩, fun h => by rw [h.1]⟩
  · rename_i hshort
    split
    · exact ⟨fun h => absurd h (by simp), fun h => absurd h.2 hshort⟩
    · exact ⟨fun h => absurd h (by simp), fun h => absurd h.2 hshort⟩

/-- The tail is short. -/
theorem CompressionState.inflate_eq_trap_iff {state : CompressionState} {codec : Codec}
    {bytes : Data} {isFin : Bool} {trap : Trap} :
    state.inflate system codec bytes isFin = .error (.trap trap) ↔
      trap = .conversion ∧ 2 ^ 32 ≤ bytes.length := by
  rw [← @Codec.decompressBytes_eq_trap_iff system codec]
  unfold inflate Codec.decompress
  cases hfirst : codec.decompressBytes system bytes with
  | error thrown => simp [bind, Except.bind]
  | ok out =>
    obtain ⟨data, used⟩ := out
    have htail : used.decompressBytes system Codec.tail ≠ .error (.trap trap) := by
      rw [Ne, Codec.decompressBytes_eq_trap_iff]
      simp [Codec.tail]
    cases isFin with
    | false => simp [bind, Except.bind, pure, Except.pure]
    | true =>
      cases hrest : used.decompressBytes system Codec.tail with
      | error thrown =>
        rw [hrest] at htail
        simpa [bind, Except.bind, hrest] using htail
      | ok more =>
        cases state.serverNoContextTakeover with
        | false => simp [hrest, bind, Except.bind, pure, Except.pure]
        | true =>
          cases hinit : system.initInflate more.2.windowBits with
          | false => simp [hrest, Codec.reset, hinit, bind, Except.bind, pure, Except.pure]
          | true => simp [hrest, Codec.reset, hinit, bind, Except.bind, pure, Except.pure]

theorem CompressionState.decompressed_eq_trap_iff {state : CompressionState} {bytes : Data}
    {isFin : Bool} {trap : Trap} :
    state.decompressed system bytes isFin = .error (.trap trap) ↔
      trap = .conversion ∧ state.inflates = true ∧ 2 ^ 32 ≤ bytes.length := by
  unfold decompressed inflates
  split
  · rename_i codec hneeds hcodec
    rw [hneeds, hcodec]
    simp only [Option.isSome_some, Bool.and_self, true_and]
    rw [← @inflate_eq_trap_iff system state codec bytes isFin]
    cases state.inflate system codec bytes isFin with
    | error thrown => simp [bind, Except.bind]
    | ok out => simp [bind, Except.bind, pure, Except.pure]
  · rename_i hnot
    have hraw : (state.messageNeedsDecompression && state.decompressor.isSome) = false := by
      by_contra hboth
      obtain ⟨hneeds, hsome⟩ := Bool.and_eq_true_iff.mp (Bool.eq_true_of_not_eq_false hboth)
      obtain ⟨codec, hcodec⟩ := Option.isSome_iff_exists.mp hsome
      exact hnot codec hneeds hcodec
    simp [hraw]

namespace WebSocket

/-- Nothing of what follows waits, and what is taken off is the frame. -/
theorem receive_cases (ws : WebSocket) (system : System) (h : Header) (opcode : OpCode)
    (closeCode : UInt16) (dataLength : Int) (bytes : Data) (step : Nat) :
    (ws.payloadTrap opcode bytes = none ∧
      ((∃ t, ws.receive system h opcode closeCode dataLength bytes step = .take t step) ∨
        ∃ t, ws.receive system h opcode closeCode dataLength bytes step = .stop t)) ∨
      ∃ trap, ws.payloadTrap opcode bytes = some trap ∧
        ws.receive system h opcode closeCode dataLength bytes step = .fail trap := by
  by_cases hshort : opcode = .connectionClose ∧ bytes.length = 1
  · refine .inr ⟨.arithmeticOverflow, by simp [payloadTrap, hshort], ?_⟩
    simp [receive, hshort]
  · have hlong :
        ¬((opcode == .connectionClose && 0 < bytes.length && bytes.length < 2) = true) := by
      simp only [Bool.and_eq_true, beq_iff_eq, decide_eq_true_eq]
      exact fun h => hshort ⟨h.1.1, by omega⟩
    unfold receive payloadTrap
    rw [if_neg hlong, if_neg hshort]
    dsimp only
    generalize (if opcode == .connectionClose then bytes.drop 2 else bytes) = payload
    cases hdata : ws.compressionState.decompressed system payload h.isFin with
    | error thrown =>
      cases thrown with
      | trap trap =>
        obtain ⟨rfl, htoo⟩ := CompressionState.decompressed_eq_trap_iff.mp hdata
        exact .inr ⟨.conversion, if_pos htoo, rfl⟩
      | error message =>
        refine .inl ⟨if_neg fun htoo => ?_, .inr ⟨_, rfl⟩⟩
        have htrap := (@CompressionState.decompressed_eq_trap_iff system _ _ h.isFin _).mpr
          ⟨rfl, htoo⟩
        exact absurd (hdata.symm.trans htrap) (by simp)
    | ok out =>
      refine .inl ⟨if_neg fun htoo => ?_, ?_⟩
      · have htrap := (@CompressionState.decompressed_eq_trap_iff system _ _ h.isFin _).mpr
          ⟨rfl, htoo⟩
        exact absurd (hdata.symm.trans htrap) (by simp)
      · dsimp only
        split
        · split
          · exact .inr ⟨_, rfl⟩
          · exact .inr ⟨_, rfl⟩
        · split
          · exact .inl ⟨_, rfl⟩
          · unfold receiveMessage
            split
            · split
              · exact .inr ⟨_, rfl⟩
              · split
                · exact .inr ⟨_, rfl⟩
                · exact .inl ⟨_, rfl⟩
            · split
              · exact .inl ⟨_, rfl⟩
              · exact .inr ⟨_, rfl⟩

theorem receive_eq_fail_iff {h : Header} {opcode : OpCode} {closeCode : UInt16} {dataLength : Int}
    {bytes : Data} {step : Nat} {trap : Trap} :
    ws.receive system h opcode closeCode dataLength bytes step = .fail trap ↔
      ws.payloadTrap opcode bytes = some trap := by
  rcases receive_cases ws system h opcode closeCode dataLength bytes step with
    ⟨hnone, ⟨t, htake⟩ | ⟨t, hstop⟩⟩ | ⟨other, hsome, hfail⟩
  · simp [hnone, htake]
  · simp [hnone, hstop]
  · simp [hsome, hfail]

/-- What a frame is read as: refused for its header, not all there, or received. -/
inductive FrameView (ws : WebSocket) (system : System) (xs : Data) : Reading WebSocket Trap → Prop
  | refused (t : WebSocket) (same : ∀ ys, ws.frameReading system (xs ++ ys) = .stop t) :
      FrameView ws system xs (.stop t)
  | short (t : WebSocket) (part : xs.length < (payloadLength xs).2 + (payloadLength xs).1)
      (noted : ∀ ys, t.frameReading system (xs ++ ys) = ws.frameReading system (xs ++ ys)) :
      FrameView ws system xs (.wait t)
  | whole (r : Reading WebSocket Trap)
      (received : (∃ t, r = .take t ((payloadLength xs).2 + (payloadLength xs).1)) ∨
        (∃ t, r = .stop t) ∨ ∃ trap, r = .fail trap)
      (whole : (payloadLength xs).2 + (payloadLength xs).1 ≤ xs.length)
      (same : ∀ ys, ws.frameReading system (xs ++ ys) = r) : FrameView ws system xs r

/-- Noting twice is noting once. -/
theorem noteCompression_noteCompression (ws : WebSocket) (h : Header) :
    (ws.noteCompression h).noteCompression h = ws.noteCompression h := by
  cases hnote : ws.compressionState.supportsCompression &&
      h.receivedOpcode != some .continueFrame with
  | true => simp [noteCompression, CompressionState.note, hnote]
  | false => simp [noteCompression, CompressionState.note, hnote]

theorem frameReading_noteCompression (ws : WebSocket) (system : System) (xs : Data) :
    (ws.noteCompression (Header.ofBytes (xs.getD 0 0) (xs.getD 1 0))).frameReading system xs =
      ws.frameReading system xs := by
  unfold frameReading
  dsimp only
  rw [noteCompression_noteCompression]

theorem frameReading_of_refusal {header : Header}
    (hh : Header.ofBytes (xs.getD 0 0) (xs.getD 1 0) = header)
    (hrefusal : (ws.noteCompression header).refusal header 0 = some t) :
    ws.frameReading system xs = .stop t := by
  simp only [frameReading, hh, hrefusal]

theorem frameReading_of_opcode {header : Header} {opcode : OpCode}
    (hh : Header.ofBytes (xs.getD 0 0) (xs.getD 1 0) = header)
    (hrefusal : (ws.noteCompression header).refusal header 0 = none)
    (hopcode : header.receivedOpcode = some opcode) :
    ws.frameReading system xs =
      if xs.length < (payloadLength xs).2 + (payloadLength xs).1 then
        .wait (ws.noteCompression header)
      else
        (ws.noteCompression header).receive system header opcode
          (header.closeCode (readUint16 (fun i => xs.getD i 0) 2)) (payloadLength xs).1
          ((xs.drop (payloadLength xs).2).take (payloadLength xs).1)
          ((payloadLength xs).2 + (payloadLength xs).1) := by
  simp only [frameReading, hh, hrefusal, hopcode]

/-- A frame with another opcode is refused. -/
theorem exists_opcode_of_refusal {h : Header} (hrefusal : ws.refusal h 0 = none) :
    ∃ opcode, h.receivedOpcode = some opcode := by
  by_contra hnone
  have hopcode : h.receivedOpcode = none := by
    cases hsome : h.receivedOpcode with
    | none => rfl
    | some opcode => exact absurd ⟨opcode, hsome⟩ hnone
  unfold refusal at hrefusal
  split at hrefusal
  · exact absurd hrefusal (by simp)
  · simp [Header.isControlFrame, hopcode] at hrefusal

theorem frameReading_view (ws : WebSocket) (system : System) (h : 2 ≤ xs.length) :
    FrameView ws system xs (ws.frameReading system xs) := by
  have hfirst : ∀ ys, (xs ++ ys).getD 0 0 = xs.getD 0 0 := fun ys =>
    List.getD_append _ _ _ _ (by omega)
  have hsecond : ∀ ys, (xs ++ ys).getD 1 0 = xs.getD 1 0 := fun ys =>
    List.getD_append _ _ _ _ (by omega)
  generalize hh : Header.ofBytes (xs.getD 0 0) (xs.getD 1 0) = header
  have hheader : ∀ ys, Header.ofBytes ((xs ++ ys).getD 0 0) ((xs ++ ys).getD 1 0) = header := by
    intro ys
    rw [hfirst, hsecond, hh]
  cases hrefusal : (ws.noteCompression header).refusal header 0 with
  | some t =>
    rw [frameReading_of_refusal hh hrefusal]
    exact .refused t fun ys => frameReading_of_refusal (hheader ys) hrefusal
  | none =>
    obtain ⟨opcode, hopcode⟩ := exists_opcode_of_refusal hrefusal
    rw [frameReading_of_opcode hh hrefusal hopcode]
    split
    · rename_i hpart
      refine .short _ hpart fun ys => ?_
      rw [← hheader ys]
      exact frameReading_noteCompression ws system (xs ++ ys)
    · rename_i hpart
      have hwhole : (payloadLength xs).2 + (payloadLength xs).1 ≤ xs.length := by omega
      refine .whole _ ?_ hwhole fun ys => ?_
      · rcases receive_cases (ws.noteCompression header) system header opcode
          (header.closeCode (readUint16 (fun i => xs.getD i 0) 2)) (payloadLength xs).1
          ((xs.drop (payloadLength xs).2).take (payloadLength xs).1)
          ((payloadLength xs).2 + (payloadLength xs).1) with
          ⟨-, htake | hstop⟩ | ⟨trap, -, hfail⟩
        · exact .inl htake
        · exact .inr (.inl hstop)
        · exact .inr (.inr ⟨trap, hfail⟩)
      · have hlength : payloadLength (xs ++ ys) = payloadLength xs :=
          payloadLength_append (by omega) ys
        have hcode : header.closeCode (readUint16 (fun i => (xs ++ ys).getD i 0) 2) =
            header.closeCode (readUint16 (fun i => xs.getD i 0) 2) := by
          refine Header.closeCode_congr fun hclose _ => ?_
          have htwo := two_le_of_refusal hrefusal hclose
          rw [← hh, payloadLen_ofBytes] at htwo
          have hfour := four_le_of_payloadLen htwo
          exact readUint16_congr (List.getD_append _ _ _ _ (by omega))
            (List.getD_append _ _ _ _ (by omega))
        have hpayload : ((xs ++ ys).drop (payloadLength xs).2).take (payloadLength xs).1 =
            (xs.drop (payloadLength xs).2).take (payloadLength xs).1 := by
          rw [List.drop_append_of_le_length (by omega),
            List.take_append_of_le_length (by rw [List.length_drop]; omega)]
        rw [frameReading_of_opcode (hheader ys) hrefusal hopcode, hlength, hcode, hpayload,
          if_neg (by rw [List.length_append]; omega)]

/-! ## 5. What a frame leaves alone -/

/-- Reading does not touch these. -/
structure Reads (ws t : WebSocket) : Prop where
  connected : t.connected = ws.connected
  isConnecting : t.isConnecting = ws.isConnecting
  didDisconnect : t.didDisconnect = ws.didDisconnect
  readyToWrite : t.readyToWrite = ws.readyToWrite
  headerSecKey : t.headerSecKey = ws.headerSecKey
  stream : t.stream = ws.stream
  fragBuffer : t.fragBuffer = ws.fragBuffer

theorem Reads.refl (ws : WebSocket) : Reads ws ws := ⟨rfl, rfl, rfl, rfl, rfl, rfl, rfl⟩

theorem Reads.trans {u : WebSocket} (h₁ : Reads ws t) (h₂ : Reads t u) : Reads ws u where
  connected := h₂.connected.trans h₁.connected
  isConnecting := h₂.isConnecting.trans h₁.isConnecting
  didDisconnect := h₂.didDisconnect.trans h₁.didDisconnect
  readyToWrite := h₂.readyToWrite.trans h₁.readyToWrite
  headerSecKey := h₂.headerSecKey.trans h₁.headerSecKey
  stream := h₂.stream.trans h₁.stream
  fragBuffer := h₂.fragBuffer.trans h₁.fragBuffer

theorem reads_compressionState (ws : WebSocket) (state : CompressionState) :
    Reads ws { ws with compressionState := state } := ⟨rfl, rfl, rfl, rfl, rfl, rfl, rfl⟩

theorem reads_callback (ws : WebSocket) (call : Callback) : Reads ws (ws.callback call) := by
  unfold callback
  split
  · exact ⟨rfl, rfl, rfl, rfl, rfl, rfl, rfl⟩
  · exact .refl ws

@[simp] theorem readStack_callback (ws : WebSocket) (call : Callback) :
    (ws.callback call).readStack = ws.readStack := by
  unfold callback
  split
  · rfl
  · rfl

theorem reads_dequeueWrite (ws : WebSocket) (data : Data) (code : OpCode) :
    Reads ws (ws.dequeueWrite data code) := ⟨rfl, rfl, rfl, rfl, rfl, rfl, rfl⟩

theorem reads_readStack (ws : WebSocket) (stack : List WSResponse) :
    Reads ws { ws with readStack := stack } := ⟨rfl, rfl, rfl, rfl, rfl, rfl, rfl⟩

theorem reads_processResponse (ws : WebSocket) (response : WSResponse) :
    Reads ws (ws.processResponse response) := by
  unfold processResponse
  split
  · split
    · exact (reads_dequeueWrite ws _ _).trans (reads_readStack _ _)
    · split
      · exact reads_dequeueWrite ws _ _
      · exact (reads_callback ws _).trans (reads_readStack _ _)
    · exact (reads_callback ws _).trans (reads_readStack _ _)
    · exact reads_readStack ws _
  · exact .refl ws

/-- Nothing is missing of any frame on the stack: it would have been waited for. -/
def Settled (ws : WebSocket) : Prop := ∀ response ∈ ws.readStack, response.bytesLeft ≤ 0

theorem readStack_processResponse (ws : WebSocket) (response : WSResponse) :
    (ws.processResponse response).readStack = ws.readStack ∨
      (ws.processResponse response).readStack = ws.readStack.tail := by
  unfold processResponse
  split
  · split
    · exact .inr rfl
    · split
      · exact .inl rfl
      · exact .inr (by simp)
    · exact .inr (by simp)
    · exact .inr rfl
  · exact .inl rfl

theorem Settled.processResponse (h : ws.Settled) (response : WSResponse) :
    (ws.processResponse response).Settled := by
  intro r hr
  rcases readStack_processResponse ws response with hstack | hstack
  · exact h r (hstack ▸ hr)
  · exact h r (List.mem_of_mem_tail (hstack ▸ hr))

/-- A frame that is received is one response more, or the last one goes on. -/
theorem reads_receiveMessage {h : Header} {opcode : OpCode} {dataLength : Int} {data : Data}
    {len step n : Nat} (hlen : dataLength = len)
    (htake : ws.receiveMessage h opcode dataLength data len step = .take t n) :
    Reads ws t ∧ (ws.Settled → t.Settled) := by
  subst hlen
  unfold receiveMessage at htake
  split at htake
  · split at htake
    · exact absurd htake (by simp)
    · split at htake
      · exact absurd htake (by simp)
      · obtain ⟨rfl, -⟩ := Reading.take.inj htake
        refine ⟨(reads_readStack ws _).trans (reads_processResponse _ _), fun hsettled => ?_⟩
        refine Settled.processResponse (fun r hr => ?_) _
        rcases List.mem_cons.mp hr with rfl | hr
        · simp
        · exact hsettled r hr
  · split at htake
    · obtain ⟨rfl, -⟩ := Reading.take.inj htake
      refine ⟨(reads_readStack ws _).trans (reads_processResponse _ _), fun hsettled => ?_⟩
      refine Settled.processResponse (fun r hr => ?_) _
      rcases List.mem_cons.mp hr with rfl | hr
      · simp
      · exact hsettled r (List.mem_of_mem_tail hr)
    · exact absurd htake (by simp)

theorem reads_receive {h : Header} {opcode : OpCode} {closeCode : UInt16} {bytes : Data}
    {step n : Nat}
    (htake : ws.receive system h opcode closeCode bytes.length bytes step = .take t n) :
    Reads ws t ∧ (ws.Settled → t.Settled) := by
  unfold receive at htake
  split at htake
  · exact absurd htake (by simp)
  · dsimp only at htake
    split at htake
    · exact absurd htake (by simp)
    · exact absurd htake (by simp)
    · rename_i data state hdata
      have hreads := reads_compressionState ws state
      split at htake
      · split at htake
        · exact absurd htake (by simp)
        · exact absurd htake (by simp)
      · rename_i hclose
        split at htake
        · obtain ⟨rfl, -⟩ := Reading.take.inj htake
          refine ⟨hreads.trans (reads_callback _ _), fun h r hr => ?_⟩
          rw [readStack_callback] at hr
          exact h r hr
        · obtain ⟨hmessage, hkept⟩ := reads_receiveMessage rfl htake
          exact ⟨hreads.trans hmessage, hkept⟩

theorem reads_frameReading {n : Nat} (htake : ws.frameReading system xs = .take t n) :
    Reads ws t ∧ (ws.Settled → t.Settled) := by
  generalize hh : Header.ofBytes (xs.getD 0 0) (xs.getD 1 0) = header
  cases hrefusal : (ws.noteCompression header).refusal header 0 with
  | some u => exact absurd ((frameReading_of_refusal hh hrefusal).symm.trans htake) (by simp)
  | none =>
    obtain ⟨opcode, hopcode⟩ := exists_opcode_of_refusal hrefusal
    rw [frameReading_of_opcode hh hrefusal hopcode] at htake
    split at htake
    · exact absurd htake (by simp)
    · rename_i hpart
      have hlen : ((xs.drop (payloadLength xs).2).take (payloadLength xs).1).length =
          (payloadLength xs).1 := by
        rw [List.length_take, List.length_drop]
        omega
      rw [show ((payloadLength xs).1 : Int) =
        ((xs.drop (payloadLength xs).2).take (payloadLength xs).1).length by rw [hlen]] at htake
      obtain ⟨hreads, hkept⟩ := reads_receive htake
      exact ⟨(reads_compressionState ws _).trans hreads, hkept⟩

theorem frameReading_eq_wait (hwait : ws.frameReading system xs = .wait t) :
    t = ws.noteCompression (Header.ofBytes (xs.getD 0 0) (xs.getD 1 0)) ∧
      xs.length < (payloadLength xs).2 + (payloadLength xs).1 := by
  generalize hh : Header.ofBytes (xs.getD 0 0) (xs.getD 1 0) = header
  cases hrefusal : (ws.noteCompression header).refusal header 0 with
  | some u => exact absurd ((frameReading_of_refusal hh hrefusal).symm.trans hwait) (by simp)
  | none =>
    obtain ⟨opcode, hopcode⟩ := exists_opcode_of_refusal hrefusal
    rw [frameReading_of_opcode hh hrefusal hopcode] at hwait
    split at hwait
    · rename_i hpart
      exact ⟨(Reading.wait.inj hwait).symm, hpart⟩
    · rcases receive_cases (ws.noteCompression header) system header opcode
        (header.closeCode (readUint16 (fun i => xs.getD i 0) 2)) (payloadLength xs).1
        ((xs.drop (payloadLength xs).2).take (payloadLength xs).1)
        ((payloadLength xs).2 + (payloadLength xs).1) with
        ⟨-, ⟨u, htake⟩ | ⟨u, hstop⟩⟩ | ⟨trap, -, hfail⟩
      · exact absurd (htake.symm.trans hwait) (by simp)
      · exact absurd (hstop.symm.trans hwait) (by simp)
      · exact absurd (hfail.symm.trans hwait) (by simp)

end WebSocket

/-! ## 6. The reader -/

namespace WebSocket

theorem reads_validateResponse {response : Data} {code : Int}
    (h : ws.validateResponse system response = .ok (t, code)) :
    Reads ws t ∧ t.readStack = ws.readStack ∧ t.callbackQueue = ws.callbackQueue ∧
      t.writeQueue = ws.writeQueue := by
  obtain ⟨-, state, rfl, -⟩ := validateResponse_keeps h
  exact ⟨⟨rfl, rfl, rfl, rfl, rfl, rfl, rfl⟩, rfl, rfl, rfl⟩

theorem handshakeReading_eq_wait (h : ws.handshakeReading system xs = .wait t) :
    Reads ws t ∧ t.readStack = ws.readStack := by
  have hview := ws.handshakeReading_view system xs
  rw [h] at hview
  cases hview with
  | unfinished hend => exact ⟨.refl ws, rfl⟩
  | kept hend answer =>
    obtain ⟨hreads, hstack, -⟩ := reads_validateResponse answer
    exact ⟨hreads, hstack⟩

theorem headerEnd_pos_of_handshakeReading (h : ∀ t, ws.handshakeReading system xs ≠ .wait t) :
    0 < headerEnd 0 0 xs := by
  by_contra hend
  exact h ws (by simp [handshakeReading, hend])

end WebSocket

/-- The answer to the upgrade, and then frame after frame. -/
def wire (system : System) : Reader WebSocket UInt8 Trap := fun ws xs =>
  if ws.connected then
    if xs.length < 2 then .wait ws else ws.frameReading system xs
  else ws.handshakeReading system xs

theorem wire_of_connected (h : ws.connected = true) (hlen : 2 ≤ xs.length) :
    wire system ws xs = ws.frameReading system xs := by
  rw [wire, if_pos h, if_neg (by omega)]

theorem wire_of_not_connected (h : ws.connected = false) :
    wire system ws xs = ws.handshakeReading system xs := by
  simp [wire, h]

/-- What has been read of the input is not read differently when there is more of it. -/
theorem wire_append (h : ∀ t, wire system ws xs ≠ .wait t) (ys : Data) :
    wire system ws (xs ++ ys) = wire system ws xs := by
  cases hconnected : ws.connected with
  | false =>
    rw [wire_of_not_connected hconnected] at h ⊢
    rw [wire_of_not_connected hconnected]
    exact WebSocket.handshakeReading_append (WebSocket.headerEnd_pos_of_handshakeReading h) ys
  | true =>
    by_cases hlen : xs.length < 2
    · exact absurd (by simp [wire, hconnected, hlen]) (h ws)
    · have htwo : 2 ≤ xs.length := by omega
      rw [wire_of_connected hconnected htwo] at h ⊢
      rw [wire_of_connected hconnected (by rw [List.length_append]; omega)]
      have hview := WebSocket.frameReading_view ws system htwo
      generalize ws.frameReading system xs = reading at h hview ⊢
      cases hview with
      | refused t same => exact same ys
      | short t part noted => exact absurd rfl (h t)
      | whole r received whole same => exact same ys

theorem wire_wait (h : wire system ws xs = .wait t) (ys : Data) :
    wire system t (xs ++ ys) = wire system ws (xs ++ ys) := by
  cases hconnected : ws.connected with
  | false =>
    rw [wire_of_not_connected hconnected] at h ⊢
    have ht := (WebSocket.handshakeReading_eq_wait h).1.connected.trans hconnected
    rw [wire_of_not_connected ht]
    exact WebSocket.handshakeReading_wait h ys
  | true =>
    by_cases hlen : xs.length < 2
    · simp only [wire, hconnected, hlen, if_true] at h
      obtain rfl := Reading.wait.inj h
      rfl
    · have htwo : 2 ≤ xs.length := by omega
      have happend : 2 ≤ (xs ++ ys).length := by
        rw [List.length_append]
        omega
      rw [wire_of_connected hconnected htwo] at h
      have ht : t.connected = true := by
        rw [(WebSocket.frameReading_eq_wait h).1]
        exact hconnected
      rw [wire_of_connected ht happend, wire_of_connected hconnected happend]
      have hview := WebSocket.frameReading_view ws system htwo
      rw [h] at hview
      cases hview with
      | short _ part noted => exact noted ys
      | whole _ received whole same => exact absurd received (by simp)

theorem wire_take_pos {n : Nat} (h : wire system ws xs = .take t n) : 0 < n ∧ n ≤ xs.length := by
  cases hconnected : ws.connected with
  | false =>
    have hview := ws.handshakeReading_view system xs
    rw [wire_of_not_connected hconnected] at h
    rw [h] at hview
    have hle := headerEnd_le 0 0 xs
    cases hview with
    | accepted hend answer => exact ⟨hend, by omega⟩
  | true =>
    by_cases hlen : xs.length < 2
    · exact absurd h (by simp [wire, hconnected, hlen])
    · have htwo : 2 ≤ xs.length := by omega
      rw [wire_of_connected hconnected htwo] at h
      have hview := WebSocket.frameReading_view ws system htwo
      have hpos := two_le_payloadLength xs
      rw [h] at hview
      cases hview with
      | whole _ received whole same =>
        obtain rfl : n = (payloadLength xs).2 + (payloadLength xs).1 := by simpa using received
        exact ⟨by omega, whole⟩

theorem wire_lawful (system : System) : (wire system).Lawful where
  take_pos := wire_take_pos
  take_append := fun ys h => (wire_append (by simp [h]) ys).trans h
  stop_append := fun ys h => (wire_append (by simp [h]) ys).trans h
  fail_append := fun ys h => (wire_append (by simp [h]) ys).trans h
  wait_append := fun ys h => wire_wait h ys

end Starscream
