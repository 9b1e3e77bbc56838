/-
# What a socket sends

What an operation of `writeQueue` does when its turn comes: it compresses the payload, if that was
agreed on, makes a frame of it with a key of its own, and hands the bytes to the stream, which may
take any number of them at a time.

* `frameBytes_eq`: what is made is a frame, whatever the payload and the key;
* `handOver_cases`: all of it is handed over, or it was cut short.
-/
import WeatherAccommodation.Starscream.Input

namespace Starscream

open Reactive Streaming WireFormat

variable {system : System} {ws t : WebSocket}

/-! ## 1. Frames -/

/-- The bytes of a frame with this first byte. -/
def frameBytes (firstByte : UInt8) (maskKey : MaskKey) (data : Data) : Data :=
  let dataLength := data.length
  let header :=
    if dataLength < 126 then [firstByte, UInt8.ofNat dataLength ||| MaskMask]
    else if dataLength ≤ 65535 then
      [firstByte, 126 ||| MaskMask] ++ writeUint16 (UInt16.ofNat dataLength)
    else [firstByte, 127 ||| MaskMask] ++ writeUint64 (UInt64.ofNat dataLength)
  header ++ maskKey.bytes ++ maskKey.apply data

theorem writeUint16_ofNat {n : Nat} (h : n < 2 ^ 16) :
    writeUint16 (UInt16.ofNat n) = toBytes 2 n := by
  have hbytes : toBytes 2 n = [UInt8.ofNat (n / 256), UInt8.ofNat n] := rfl
  have hhigh : (UInt16.ofNat n >>> 8).toUInt8 = UInt8.ofNat (n / 256) := by
    rw [← UInt8.toNat_inj]
    simp
    omega
  have hlow : (UInt16.ofNat n &&& 0xff).toUInt8 = UInt8.ofNat n := by
    have hmask : (0xff : UInt16).toNat = 2 ^ 8 - 1 := rfl
    rw [← UInt8.toNat_inj, UInt16.toNat_toUInt8, UInt16.toNat_and, UInt16.toNat_ofNat', hmask,
      Nat.and_two_pow_sub_one_eq_mod, UInt8.toNat_ofNat']
    omega
  rw [hbytes, writeUint16, hhigh, hlow]

theorem writeUint64_ofNat {n : Nat} (h : n < 2 ^ 64) :
    writeUint64 (UInt64.ofNat n) = toBytes 8 n := by
  rw [toBytes_eq_map]
  unfold writeUint64
  refine List.map_congr_left fun i hi => ?_
  have hi8 : i < 8 := List.mem_range.mp hi
  have hpow : 256 ^ (8 - 1 - i) = 2 ^ (8 * (7 - i)) := by
    rw [show (256 : Nat) = 2 ^ 8 from rfl, ← pow_mul]
  have hshift : (8 * (7 - i)) % 2 ^ 64 % 64 = 8 * (7 - i) := by omega
  have hmask : (0xff : UInt64).toNat = 2 ^ 8 - 1 := rfl
  rw [← UInt8.toNat_inj]
  simp only [UInt64.toNat_toUInt8, UInt64.toNat_and, UInt64.toNat_shiftRight, UInt64.toNat_ofNat',
    UInt8.toNat_ofNat', hshift, hpow]
  rw [Nat.mod_eq_of_lt h, Nat.shiftRight_eq_div_pow, hmask, Nat.and_two_pow_sub_one_eq_mod]
  omega

/-- **What is made is a frame.** -/
theorem frameBytes_eq (firstByte : UInt8) (maskKey : MaskKey) {data : Data}
    (h : data.length < 2 ^ 64) :
    frameBytes firstByte maskKey data =
      Frame.bytes { head := firstByte, maskKey := some maskKey, payload := data } := by
  unfold frameBytes Frame.bytes Frame.second Frame.keyBytes Frame.body lengthField
  dsimp only
  split
  · simp [MaskMask]
  · split
    · rw [if_pos (by omega), writeUint16_ofNat (by omega)]
      simp [MaskMask]
    · rw [if_neg (by omega), writeUint64_ofNat h]
      simp [MaskMask]

/-! ## 2. Compression -/

namespace WebSocket

def setCompressor (ws : WebSocket) (compressor : Codec) : WebSocket :=
  { ws with compressionState := { ws.compressionState with compressor := some compressor } }

/-- The first byte of a frame and its payload. -/
def prepare (ws : WebSocket) (system : System) (data : Data) (code : OpCode) :
    Except Trap (WebSocket × UInt8 × Data) :=
  let firstByte := FinMask ||| code.rawValue
  match (if [.textFrame, .binaryFrame].contains code then ws.compressionState.compressor
    else none) with
  | none => .ok (ws, firstByte, data)
  | some compressor =>
    match compressor.compress system data with
    | .error (.trap trap) => .error trap
    | .error (.error _) => .ok (ws, firstByte, data)
    | .ok (data, compressor) =>
      if ws.compressionState.clientNoContextTakeover then
        match compressor.reset system.initDeflate "Error for compressor on reset" with
        -- the payload is compressed by now, and the frame does not say so
        | .error _ => .ok (ws.setCompressor compressor, firstByte, data)
        | .ok compressor => .ok (ws.setCompressor compressor, firstByte ||| RSV1Mask, data)
      else .ok (ws.setCompressor compressor, firstByte ||| RSV1Mask, data)

/-- Nothing but the compressor is touched, and there is one if there was. -/
theorem prepare_keeps {data payload : Data} {code : OpCode} {firstByte : UInt8}
    (h : ws.prepare system data code = .ok (t, firstByte, payload)) :
    ∃ compressor, compressor.isSome = ws.compressionState.compressor.isSome ∧
      t = { ws with compressionState :=
        { ws.compressionState with compressor := compressor } } := by
  unfold prepare at h
  dsimp only at h
  split at h
  · obtain ⟨rfl, -⟩ := Prod.mk.inj (Except.ok.inj h)
    exact ⟨ws.compressionState.compressor, rfl, rfl⟩
  · rename_i compressor hcompressor
    have hsome : ws.compressionState.compressor = some compressor := by
      split at hcompressor
      · exact hcompressor
      · exact absurd hcompressor (by simp)
    rw [hsome]
    split at h
    · exact absurd h (by simp)
    · obtain ⟨rfl, -⟩ := Prod.mk.inj (Except.ok.inj h)
      exact ⟨some compressor, rfl, by rw [← hsome]⟩
    · split at h
      · split at h
        · obtain ⟨rfl, -⟩ := Prod.mk.inj (Except.ok.inj h)
          refine ⟨some _, ?_, rfl⟩
          rfl
        · obtain ⟨rfl, -⟩ := Prod.mk.inj (Except.ok.inj h)
          refine ⟨some _, ?_, rfl⟩
          rfl
      · obtain ⟨rfl, -⟩ := Prod.mk.inj (Except.ok.inj h)
        refine ⟨some _, ?_, rfl⟩
        rfl

/-- What a frame is made of is the message and the state of compression. -/
theorem prepare_of_state {data payload : Data} {code : OpCode} {firstByte : UInt8}
    (h : ws.prepare system data code = .ok (t, firstByte, payload)) :
    prepare { compressionState := ws.compressionState } system data code =
      .ok ({ compressionState := t.compressionState }, firstByte, payload) := by
  unfold prepare at h ⊢
  dsimp only at h ⊢
  split at h
  · obtain ⟨rfl, rfl, rfl⟩ := Except.ok.inj h
    rfl
  · split at h
    · exact absurd h (by simp)
    · obtain ⟨rfl, rfl, rfl⟩ := Except.ok.inj h
      rfl
    · split at h
      · rename_i htakeover
        split at h
        · obtain ⟨rfl, rfl, rfl⟩ := Except.ok.inj h
          exact if_pos htakeover
        · obtain ⟨rfl, rfl, rfl⟩ := Except.ok.inj h
          exact if_pos htakeover
      · rename_i htakeover
        obtain ⟨rfl, rfl, rfl⟩ := Except.ok.inj h
        exact if_neg htakeover

end WebSocket

/-- `compress` stops the app at 4 GiB, or where less comes out than the four bytes it cuts off. -/
theorem Codec.compress_eq_trap_iff {codec : Codec} {data : Data} {trap : Trap} :
    codec.compress system data = .error (.trap trap) ↔
      (trap = .conversion ∧ 2 ^ 32 ≤ data.length) ∨
      trap = .removeLast ∧ data.length < 2 ^ 32 ∧
        ∃ out, system.deflate codec data = some out ∧ out.length < 4 := by
  have hfour : tail.length = 4 := rfl
  unfold compress
  by_cases hlong : 2 ^ 32 ≤ data.length
  · rw [if_pos hlong]
    constructor
    · exact fun h => .inl ⟨(Thrown.trap.inj (Except.error.inj h)).symm, hlong⟩
    · rintro (⟨rfl, -⟩ | ⟨-, hshort, -⟩)
      · rfl
      · omega
  · rw [if_neg hlong, hfour]
    cases hout : system.deflate codec data with
    | none =>
      constructor
      · exact fun h => absurd h (by simp)
      · rintro (⟨-, h⟩ | ⟨-, -, out, h, -⟩)
        · exact absurd h hlong
        · exact absurd h (by simp)
    | some out =>
      dsimp only
      by_cases hshort : out.length < 4
      · rw [if_pos hshort]
        constructor
        · exact fun h => .inr
            ⟨(Thrown.trap.inj (Except.error.inj h)).symm, by omega, out, rfl, hshort⟩
        · rintro (⟨-, h⟩ | ⟨rfl, -⟩)
          · exact absurd h hlong
          · rfl
      · rw [if_neg hshort]
        constructor
        · exact fun h => absurd h (by simp)
        · rintro (⟨-, h⟩ | ⟨-, -, o, h, hlt⟩)
          · exact absurd h hlong
          · obtain rfl := Option.some.inj h
            exact absurd hlt hshort

namespace WebSocket

/-- Only messages are compressed. -/
theorem prepare_eq_error_iff {data : Data} {code : OpCode} {trap : Trap} :
    ws.prepare system data code = .error trap ↔
      (code = .textFrame ∨ code = .binaryFrame) ∧ ∃ compressor,
        ws.compressionState.compressor = some compressor ∧
        compressor.compress system data = .error (.trap trap) := by
  have hkind : [OpCode.textFrame, .binaryFrame].contains code = true ↔
      code = .textFrame ∨ code = .binaryFrame := by simp
  unfold prepare
  dsimp only
  cases hcompressor : ws.compressionState.compressor with
  | none => simp
  | some compressor =>
    by_cases hcode : code = .textFrame ∨ code = .binaryFrame
    · rw [if_pos (hkind.mpr hcode)]
      dsimp only
      cases hcompress : compressor.compress system data with
      | error thrown =>
        cases thrown with
        | error message => simp [hcode, hcompress]
        | trap other => simp [hcode, hcompress]
      | ok out =>
        dsimp only
        constructor
        · intro h
          split at h
          · split at h
            · exact absurd h (by simp)
            · exact absurd h (by simp)
          · exact absurd h (by simp)
        · rintro ⟨-, c, hc, herror⟩
          obtain rfl := Option.some.inj hc
          exact absurd (hcompress.symm.trans herror) (by simp)
    · rw [if_neg (fun h => hcode (hkind.mp h))]
      simp [hcode]

/-- A frame is what was queued; or it is compressed and says so, since a compressor that could be
made can be reset. -/
theorem prepare_cases {data payload : Data} {code : OpCode} {firstByte : UInt8}
    (hinit : ∀ c, ws.compressionState.compressor = some c → system.initDeflate c.windowBits = true)
    (h : ws.prepare system data code = .ok (t, firstByte, payload)) :
    (t = ws ∧ firstByte = FinMask ||| code.rawValue ∧ payload = data) ∨
      ∃ compressor out, (code = .textFrame ∨ code = .binaryFrame) ∧
        ws.compressionState.compressor = some compressor ∧
        system.deflate compressor data = some out ∧ 4 ≤ out.length ∧
        payload = out.take (out.length - 4) ∧ firstByte = FinMask ||| code.rawValue ||| RSV1Mask ∧
        t = ws.setCompressor { compressor with done :=
          if ws.compressionState.clientNoContextTakeover then []
          else compressor.done ++ data } := by
  have hplain : ∀ {r : WebSocket × UInt8 × Data}, (.ok r : Except Trap _) =
      .ok (t, firstByte, payload) → r = (ws, FinMask ||| code.rawValue, data) →
      t = ws ∧ firstByte = FinMask ||| code.rawValue ∧ payload = data := by
    rintro r hr rfl
    obtain ⟨rfl, hrest⟩ := Prod.mk.inj (Except.ok.inj hr)
    obtain ⟨rfl, rfl⟩ := Prod.mk.inj hrest
    exact ⟨rfl, rfl, rfl⟩
  unfold prepare at h
  dsimp only at h
  cases hcompressor : ws.compressionState.compressor with
  | none =>
    rw [hcompressor, ite_self] at h
    exact .inl (hplain h rfl)
  | some compressor =>
    by_cases hcode : [OpCode.textFrame, .binaryFrame].contains code = true
    · rw [if_pos hcode, hcompressor] at h
      dsimp only at h
      unfold Codec.compress at h
      by_cases hlong : 2 ^ 32 ≤ data.length
      · rw [if_pos hlong] at h
        exact absurd h (by simp)
      · rw [if_neg hlong] at h
        cases hout : system.deflate compressor data with
        | none =>
          rw [hout] at h
          exact .inl (hplain h rfl)
        | some out =>
          have hfour : Codec.tail.length = 4 := rfl
          rw [hout, hfour] at h
          dsimp only at h
          by_cases hshort : out.length < 4
          · rw [if_pos hshort] at h
            exact absurd h (by simp)
          · rw [if_neg hshort] at h
            refine .inr ⟨compressor, out, by simpa using hcode, rfl, hout, by omega, ?_⟩
            have hreset : ∀ done, Codec.reset { compressor with done := done } system.initDeflate
                "Error for compressor on reset" = .ok { compressor with done := [] } := by
              intro done
              simp [Codec.reset, hinit compressor hcompressor]
            dsimp only at h
            cases hanew : ws.compressionState.clientNoContextTakeover with
            | true =>
              rw [if_pos hanew, hreset] at h
              obtain ⟨rfl, hrest⟩ := Prod.mk.inj (Except.ok.inj h)
              obtain ⟨rfl, rfl⟩ := Prod.mk.inj hrest
              exact ⟨rfl, rfl, rfl⟩
            | false =>
              rw [if_neg (by simp [hanew])] at h
              obtain ⟨rfl, hrest⟩ := Prod.mk.inj (Except.ok.inj h)
              obtain ⟨rfl, rfl⟩ := Prod.mk.inj hrest
              exact ⟨rfl, rfl, rfl⟩
    · rw [if_neg hcode] at h
      exact .inl (hplain h rfl)

end WebSocket

/-! ## 3. The stream -/

/-- How the loop of an operation ends. -/
inductive Handing where
  /-- `isCancelled`, with something left. -/
  | cancelled
  /-- The stream took nothing. -/
  | failed
  | done
  deriving DecidableEq, Repr

/-- The loop, with what the stream says each time it is offered the rest: how many bytes it has
taken in the end.  `none` for an answer that no stream gives, or that is given after the end. -/
def handOver (size : Nat) : Nat → List Int → Option (Nat × Handing)
  | total, [] => some (total, .cancelled)
  | total, len :: lens =>
    if len ≤ 0 then (if lens = [] then some (total, .failed) else none)
    else if size < total + len.toNat then none
    else if size ≤ total + len.toNat then
      (if lens = [] then some (total + len.toNat, .done) else none)
    else handOver size (total + len.toNat) lens

variable {size total n : Nat} {lens : List Int}

/-- All of it, or less. -/
theorem handOver_cases {handing : Handing} (hlt : total < size)
    (h : handOver size total lens = some (n, handing)) :
    handing = .done ∧ n = size ∨ handing ≠ .done ∧ n < size := by
  induction lens generalizing total with
  | nil =>
    obtain ⟨rfl, rfl⟩ := Prod.mk.inj (Option.some.inj h)
    exact .inr ⟨by decide, hlt⟩
  | cons len lens ih =>
    simp only [handOver] at h
    split at h
    · split at h
      · obtain ⟨rfl, rfl⟩ := Prod.mk.inj (Option.some.inj h)
        exact .inr ⟨by decide, hlt⟩
      · exact absurd h (by simp)
    · split at h
      · exact absurd h (by simp)
      · split at h
        · split at h
          · obtain ⟨rfl, rfl⟩ := Prod.mk.inj (Option.some.inj h)
            exact .inl ⟨rfl, by omega⟩
          · exact absurd h (by simp)
        · exact ih (by omega) h

end Starscream
