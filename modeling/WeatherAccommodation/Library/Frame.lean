/-
# Frames on a connection

A frame is a byte of flags with the opcode, the length of the payload, a key that the payload is
masked with, if any, and the payload.  A length below 126 has seven bits of the second byte to
itself; a longer one follows in two bytes or in eight, the most significant first.  The eighth bit
of the second byte says whether there is a key.

* `Frame.ofBytes?_bytes`: what is written is read back, whatever follows it;
* `frames_pump`: so are any number of frames, whatever their keys.
-/
import Mathlib.Data.List.GetD
import Mathlib.Tactic.Ring
import WeatherAccommodation.Library.Reader

namespace WireFormat

open Streaming

/-! ## 1. Numbers, the most significant byte first -/

def ofBytes (bs : List UInt8) : Nat := bs.foldl (fun n b => 256 * n + b.toNat) 0

/-- The last `w` bytes of a number. -/
def toBytes : Nat → Nat → List UInt8
  | 0, _ => []
  | w + 1, n => toBytes w (n / 256) ++ [UInt8.ofNat n]

@[simp] theorem length_toBytes (w n : Nat) : (toBytes w n).length = w := by
  induction w generalizing n with
  | zero => rfl
  | succ w ih => simp [toBytes, ih]

theorem ofBytes_concat (bs : List UInt8) (b : UInt8) :
    ofBytes (bs ++ [b]) = 256 * ofBytes bs + b.toNat := by
  simp [ofBytes]

/-- A number that fits is read back. -/
theorem ofBytes_toBytes {w n : Nat} (h : n < 256 ^ w) : ofBytes (toBytes w n) = n := by
  induction w generalizing n with
  | zero =>
    obtain rfl : n = 0 := by simpa using h
    rfl
  | succ w ih =>
    have hdiv : n / 256 < 256 ^ w := by
      rw [Nat.div_lt_iff_lt_mul (by omega)]
      rwa [pow_succ] at h
    rw [toBytes, ofBytes_concat, ih hdiv, UInt8.toNat_ofNat']
    omega

/-- The bytes of a number, one by one. -/
theorem toBytes_eq_map (w n : Nat) :
    toBytes w n = (List.range w).map fun i => UInt8.ofNat (n / 256 ^ (w - 1 - i)) := by
  induction w generalizing n with
  | zero => rfl
  | succ w ih =>
    have hlast : n / 256 ^ (w + 1 - 1 - w) = n := by simp
    rw [toBytes, ih, List.range_succ, List.map_append]
    simp only [List.map_cons, List.map_nil, hlast]
    congr 1
    refine List.map_congr_left fun i hi => ?_
    have hiw : i < w := List.mem_range.mp hi
    have hexp : w + 1 - 1 - i = w - 1 - i + 1 := by omega
    rw [hexp, pow_succ', Nat.div_div_eq_div_mul]

/-! ## 2. Masks -/

/-- The four bytes that a payload is masked with, over and over. -/
abbrev MaskKey := Fin 4 → UInt8

namespace MaskKey

def bytes (key : MaskKey) : List UInt8 := [key 0, key 1, key 2, key 3]

def ofBytes (bs : List UInt8) : MaskKey := fun i => bs.getD i 0

@[simp] theorem length_bytes (key : MaskKey) : key.bytes.length = 4 := rfl

@[simp] theorem ofBytes_bytes (key : MaskKey) : ofBytes key.bytes = key := by
  funext i
  match i with
  | 0 => rfl
  | 1 => rfl
  | 2 => rfl
  | 3 => rfl

def apply (key : MaskKey) (data : List UInt8) : List UInt8 :=
  data.mapIdx fun i b => b ^^^ key (Fin.ofNat 4 i)

@[simp] theorem length_apply (key : MaskKey) (data : List UInt8) :
    (key.apply data).length = data.length := by
  simp [apply]

/-- Whoever masks twice sees what was there. -/
@[simp] theorem apply_apply (key : MaskKey) (data : List UInt8) :
    key.apply (key.apply data) = data := by
  refine List.ext_getElem (by simp) ?_
  intro i _ hi
  simp only [apply, List.getElem_mapIdx]
  rw [UInt8.xor_assoc, UInt8.xor_self, UInt8.xor_zero]

end MaskKey

/-! ## 3. Lengths -/

/-- The seven bits of the second byte, and the bytes that follow it. -/
def lengthField (n : Nat) : Nat × List UInt8 :=
  if n < 126 then (n, [])
  else if n < 65536 then (126, toBytes 2 n)
  else (127, toBytes 8 n)

/-- The length of the payload, and how many bytes there are up to it; what is missing is 0. -/
def payloadLength (xs : List UInt8) : Nat × Nat :=
  let len := (xs.getD 1 0 &&& 0x7F).toNat
  if len = 127 then (ofBytes ((xs.drop 2).take 8), 10)
  else if len = 126 then (ofBytes ((xs.drop 2).take 2), 4)
  else (len, 2)

theorem lengthField_lt (n : Nat) : (lengthField n).1 < 128 := by
  unfold lengthField
  split
  · omega
  · split
    · omega
    · omega

/-- The second byte, with or without the bit for the key. -/
theorem secondByte (n : Fin 128) :
    UInt8.ofNat n &&& 0x7F = UInt8.ofNat n ∧ UInt8.ofNat n &&& 0x80 = 0 ∧
      (UInt8.ofNat n ||| 0x80) &&& 0x7F = UInt8.ofNat n ∧
      (UInt8.ofNat n ||| 0x80) &&& 0x80 = 0x80 ∧ (UInt8.ofNat n).toNat = n := by
  revert n
  decide +kernel

/-- A length is read back from behind a second byte that carries it. -/
theorem payloadLength_of_lengthField {n : Nat} (h : n < 2 ^ 64) {head second : UInt8}
    (hsecond : second &&& 0x7F = UInt8.ofNat (lengthField n).1) (ys : List UInt8) :
    payloadLength (head :: second :: ((lengthField n).2 ++ ys)) =
      (n, 2 + (lengthField n).2.length) := by
  have hlen : (second &&& 0x7F).toNat = (lengthField n).1 := by
    rw [hsecond]
    exact (secondByte ⟨_, lengthField_lt n⟩).2.2.2.2
  simp only [payloadLength, List.getD_cons_succ, List.getD_cons_zero, hlen]
  unfold lengthField
  split
  · rename_i hshort
    rw [if_neg (by omega), if_neg (by omega)]
    rfl
  · split
    · rename_i hshort
      rw [if_neg (by simp), if_pos rfl]
      have htake : ((toBytes 2 n ++ ys).take 2) = toBytes 2 n := List.take_left' (by simp)
      simp only [List.drop_succ_cons, List.drop_zero, htake, length_toBytes]
      rw [ofBytes_toBytes (by omega)]
    · rw [if_pos rfl]
      have htake : ((toBytes 8 n ++ ys).take 8) = toBytes 8 n := List.take_left' (by simp)
      simp only [List.drop_succ_cons, List.drop_zero, htake, length_toBytes]
      rw [ofBytes_toBytes (by omega)]

theorem two_le_payloadLength (xs : List UInt8) : 2 ≤ (payloadLength xs).2 := by
  unfold payloadLength
  dsimp only
  split
  · omega
  · split
    · omega
    · omega

/-- With the bytes up to the payload there, so is the length. -/
theorem payloadLength_append {xs : List UInt8} (h : (payloadLength xs).2 ≤ xs.length)
    (ys : List UInt8) : payloadLength (xs ++ ys) = payloadLength xs := by
  have htwo : 2 ≤ (payloadLength xs).2 := two_le_payloadLength xs
  have hsecond : (xs ++ ys).getD 1 0 = xs.getD 1 0 := List.getD_append _ _ _ _ (by omega)
  have hdrop : (xs ++ ys).drop 2 = xs.drop 2 ++ ys := List.drop_append_of_le_length (by omega)
  simp only [payloadLength, hsecond, hdrop] at h ⊢
  split
  · rename_i hlen
    rw [if_pos hlen] at h
    rw [List.take_append_of_le_length (by rw [List.length_drop]; omega)]
  · rename_i hlen
    rw [if_neg hlen] at h
    split
    · rename_i hlen
      rw [if_pos hlen] at h
      rw [List.take_append_of_le_length (by rw [List.length_drop]; omega)]
    · rfl

/-! ## 4. Frames -/

structure Frame where
  /-- The flags and the opcode. -/
  head : UInt8
  maskKey : Option MaskKey := none
  payload : List UInt8

namespace Frame

/-- The second byte. -/
def second (f : Frame) : UInt8 :=
  UInt8.ofNat (lengthField f.payload.length).1 ||| (if f.maskKey.isSome then 0x80 else 0)

def keyBytes (f : Frame) : List UInt8 := (f.maskKey.map MaskKey.bytes).getD []

/-- The payload as it is sent. -/
def body (f : Frame) : List UInt8 := (f.maskKey.map fun key => key.apply f.payload).getD f.payload

def bytes (f : Frame) : List UInt8 :=
  f.head :: f.second :: ((lengthField f.payload.length).2 ++ (f.keyBytes ++ f.body))

/-- The frame at the front, and how many bytes it has; `none` if it is not all there. -/
def ofBytes? (xs : List UInt8) : Option (Frame × Nat) :=
  let n := (payloadLength xs).1
  let offset := (payloadLength xs).2
  if xs.length < 2 then none
  else if xs.getD 1 0 &&& 0x80 = 0 then
    if xs.length < offset + n then none
    else some ({ head := xs.getD 0 0, payload := (xs.drop offset).take n }, offset + n)
  else if xs.length < offset + 4 + n then none
  else
    let key := MaskKey.ofBytes ((xs.drop offset).take 4)
    some ({ head := xs.getD 0 0, maskKey := some key,
            payload := key.apply ((xs.drop (offset + 4)).take n) }, offset + 4 + n)

@[simp] theorem length_body (f : Frame) : f.body.length = f.payload.length := by
  unfold body
  cases f.maskKey with
  | none => rfl
  | some key => simp

theorem length_bytes (f : Frame) : f.bytes.length =
    2 + (lengthField f.payload.length).2.length + f.keyBytes.length + f.payload.length := by
  simp [bytes]
  ring

/-- The length is in the second byte, whether there is a key or not. -/
theorem second_and (f : Frame) :
    f.second &&& 0x7F = UInt8.ofNat (lengthField f.payload.length).1 ∧
      (f.second &&& 0x80 = 0 ↔ f.maskKey = none) := by
  obtain ⟨hlen, hflag, hlen', hflag', _⟩ := secondByte ⟨_, lengthField_lt f.payload.length⟩
  unfold second
  cases f.maskKey with
  | none => simpa using ⟨hlen, hflag⟩
  | some key =>
    refine ⟨by simpa using hlen', ?_⟩
    simp only [Option.isSome_some, if_true, hflag', reduceCtorEq, iff_false]
    decide

/-- The bytes up to the payload say how long it is. -/
theorem payloadLength_bytes (f : Frame) (h : f.payload.length < 2 ^ 64) (ys : List UInt8) :
    payloadLength (f.bytes ++ ys) =
      (f.payload.length, 2 + (lengthField f.payload.length).2.length) := by
  have hsplit : f.bytes ++ ys = f.head :: f.second ::
      ((lengthField f.payload.length).2 ++ ((f.keyBytes ++ f.body) ++ ys)) := by simp [bytes]
  rw [hsplit]
  exact payloadLength_of_lengthField h f.second_and.1 _

/-- The bytes up to the payload, and the rest. -/
theorem drop_bytes (f : Frame) (ys : List UInt8) :
    (f.bytes ++ ys).drop (2 + (lengthField f.payload.length).2.length) =
      f.keyBytes ++ (f.body ++ ys) := by
  have hsplit : f.bytes ++ ys = (f.head :: f.second :: (lengthField f.payload.length).2) ++
      (f.keyBytes ++ (f.body ++ ys)) := by simp [bytes]
  rw [hsplit]
  exact List.drop_left' (by simp; ring)

/-- **What is written is read back**, whatever follows it. -/
theorem ofBytes?_bytes (f : Frame) (h : f.payload.length < 2 ^ 64) (ys : List UInt8) :
    ofBytes? (f.bytes ++ ys) = some (f, f.bytes.length) := by
  have hlength := f.length_bytes
  have hsecond : (f.bytes ++ ys).getD 1 0 = f.second := rfl
  have hhead : (f.bytes ++ ys).getD 0 0 = f.head := rfl
  have hflag := f.second_and.2
  simp only [ofBytes?, hsecond, hhead, f.payloadLength_bytes h ys]
  rw [if_neg (by simp [bytes])]
  cases hkey : f.maskKey with
  | none =>
    have hempty : f.keyBytes = [] := by simp [keyBytes, hkey]
    have hbody : f.body = f.payload := by simp [body, hkey]
    rw [if_pos (hflag.mpr hkey), if_neg (by simp [hlength]; omega), f.drop_bytes ys, hempty,
      hbody, List.nil_append, List.take_left' rfl]
    have hsame : (⟨f.head, none, f.payload⟩ : Frame) = f := by rw [← hkey]
    rw [hsame, hlength, hempty]
    simp
  | some key =>
    have hbytes : f.keyBytes = key.bytes := by simp [keyBytes, hkey]
    have hbody : f.body = key.apply f.payload := by simp [body, hkey]
    have hfour : f.keyBytes.length = 4 := by rw [hbytes, MaskKey.length_bytes]
    have hnot : ¬f.second &&& 0x80 = 0 := by simp [hflag, hkey]
    have hdropKey : (f.bytes ++ ys).drop (2 + (lengthField f.payload.length).2.length + 4) =
        f.body ++ ys := by
      rw [← List.drop_drop, f.drop_bytes ys]
      exact List.drop_left' hfour
    rw [if_neg hnot, if_neg (by simp only [List.length_append, hlength, hfour]; omega), hdropKey,
      f.drop_bytes ys, List.take_left' hfour, hbytes, MaskKey.ofBytes_bytes, hbody,
      List.take_left' (by simp), MaskKey.apply_apply]
    have hsame : (⟨f.head, some key, f.payload⟩ : Frame) = f := by rw [← hkey]
    rw [hsame, hlength, hfour]

/-- A frame that is all there has at least its two bytes, and stays what it is. -/
theorem ofBytes?_inv {xs : List UInt8} {f : Frame} {n : Nat} (h : ofBytes? xs = some (f, n)) :
    2 ≤ xs.length ∧ (payloadLength xs).2 ≤ n ∧ n ≤ xs.length := by
  simp only [ofBytes?] at h
  split at h
  · exact absurd h (by simp)
  · split at h
    · split at h
      · exact absurd h (by simp)
      · obtain ⟨-, rfl⟩ := Prod.mk.inj (Option.some.inj h)
        exact ⟨by omega, by omega, by omega⟩
    · split at h
      · exact absurd h (by simp)
      · obtain ⟨-, rfl⟩ := Prod.mk.inj (Option.some.inj h)
        exact ⟨by omega, by omega, by omega⟩

theorem ofBytes?_append {xs : List UInt8} {f : Frame} {n : Nat} (h : ofBytes? xs = some (f, n))
    (ys : List UInt8) : ofBytes? (xs ++ ys) = some (f, n) := by
  obtain ⟨htwo, hoffset, hle⟩ := ofBytes?_inv h
  have hlength : payloadLength (xs ++ ys) = payloadLength xs := payloadLength_append (by omega) ys
  have hhead : (xs ++ ys).getD 0 0 = xs.getD 0 0 := List.getD_append _ _ _ _ (by omega)
  have hsecond : (xs ++ ys).getD 1 0 = xs.getD 1 0 := List.getD_append _ _ _ _ (by omega)
  have htake : ∀ a b, a + b ≤ xs.length →
      ((xs ++ ys).drop a).take b = (xs.drop a).take b := by
    intro a b hab
    rw [List.drop_append_of_le_length (by omega),
      List.take_append_of_le_length (by rw [List.length_drop]; omega)]
  simp only [ofBytes?, hlength, hhead, hsecond, List.length_append] at h ⊢
  rw [if_neg (by omega)] at h ⊢
  split at h
  · rename_i hmask
    split at h
    · exact absurd h (by simp)
    · rw [if_pos hmask, if_neg (by omega), htake _ _ (by omega)]
      exact h
  · rename_i hmask
    split at h
    · exact absurd h (by simp)
    · rw [if_neg hmask, if_neg (by omega), htake _ _ (by omega), htake _ _ (by omega)]
      exact h

end Frame

/-! ## 5. One frame after the other -/

/-- Whoever reads frames and keeps them all. -/
def frames : Reader (List Frame) UInt8 Empty := fun read xs =>
  match Frame.ofBytes? xs with
  | none => .wait read
  | some (f, n) => .take (read ++ [f]) n

theorem frames_eq_take {read read' : List Frame} {xs : List UInt8} {n : Nat}
    (h : frames read xs = .take read' n) :
    ∃ f, Frame.ofBytes? xs = some (f, n) ∧ read' = read ++ [f] := by
  unfold frames at h
  split at h
  · exact absurd h (by simp)
  · rename_i f m hf
    obtain ⟨rfl, rfl⟩ := Reading.take.inj h
    exact ⟨f, hf, rfl⟩

theorem frames_lawful : frames.Lawful where
  take_pos := by
    intro s t xs n h
    obtain ⟨f, hf, -⟩ := frames_eq_take h
    obtain ⟨htwo, hoffset, hle⟩ := Frame.ofBytes?_inv hf
    refine ⟨?_, hle⟩
    have : 2 ≤ (payloadLength xs).2 := two_le_payloadLength xs
    omega
  take_append := by
    intro s t xs n ys h
    obtain ⟨f, hf, rfl⟩ := frames_eq_take h
    simp [frames, Frame.ofBytes?_append hf ys]
  stop_append := by
    intro s t xs ys h
    unfold frames at h
    split at h
    · exact absurd h (by simp)
    · exact absurd h (by simp)
  fail_append := fun {_ f} => f.elim
  wait_append := by
    intro s t xs ys h
    unfold frames at h
    split at h
    · obtain rfl := Reading.wait.inj h
      rfl
    · exact absurd h (by simp)

/-- **Frames are read one after the other**, whatever their keys. -/
theorem frames_pump {fs : List Frame} (h : ∀ f ∈ fs, f.payload.length < 2 ^ 64)
    (read : List Frame) (ys : List UInt8) :
    frames.pump read (fs.flatMap Frame.bytes ++ ys) = frames.pump (read ++ fs) ys := by
  have hchain : frames.Chain Frame.bytes read fs (read ++ fs) := by
    induction fs generalizing read with
    | nil =>
      rw [List.append_nil]
      exact .nil read
    | cons f fs ih =>
      have hf := Frame.ofBytes?_bytes f (h f (by simp)) []
      rw [List.append_nil] at hf
      refine .cons (t := read ++ [f]) (by simp [frames, hf]) ?_
      simpa using ih (fun g hg => h g (by simp [hg])) (read ++ [f])
  exact hchain.pump frames_lawful ys

end WireFormat
