/-
# Texts in UTF-16

An `NSString` is a list of UTF-16 units, and a range in it a range of units.  Nothing keeps a range
from cutting a surrogate pair in two: `characters` reads what it is given, with the replacement
character for a surrogate that is left alone, which is how an `NSString` becomes a `String`.

* `characters_ofString`: a text that was well formed is read as it was.
* `count_replacing_le`: where no pair can form, a replacement has no more characters than its parts.
-/
import WeatherAccommodation.Library.Characters

namespace Foundation

/-- `NSRange` -/
structure NSRange where
  location : Nat
  length : Nat
  deriving DecidableEq, Repr

/-- Where the range ends. -/
def NSRange.upperBound (r : NSRange) : Nat := r.location + r.length

/-! ## 1. Units -/

/-- The units of one scalar. -/
def utf16 (c : Char) : List UInt16 :=
  if c.toNat < 0x10000 then [UInt16.ofNat c.toNat]
  else [UInt16.ofNat (0xd800 + (c.toNat - 0x10000) / 0x400),
    UInt16.ofNat (0xdc00 + (c.toNat - 0x10000) % 0x400)]

/-- The first half of a pair. -/
def isHigh (u : UInt16) : Bool := decide (0xd800 ≤ u.toNat) && decide (u.toNat < 0xdc00)

/-- The second half. -/
def isLow (u : UInt16) : Bool := decide (0xdc00 ≤ u.toNat) && decide (u.toNat < 0xe000)

/-- The scalar of a pair. -/
def paired (high low : UInt16) : Char :=
  Char.ofNat (0x10000 + (high.toNat - 0xd800) * 0x400 + (low.toNat - 0xdc00))

/-- The scalar of a unit on its own. -/
def alone (u : UInt16) : Char := if isHigh u || isLow u then '\ufffd' else Char.ofNat u.toNat

abbrev NSString := List UInt16

namespace NSString

def ofChars (cs : List Char) : NSString := cs.flatMap utf16

def ofString (s : String) : NSString := ofChars s.toList

/-- The scalars of a text. -/
def characters : NSString → List Char
  | [] => []
  | [u] => [alone u]
  | u :: v :: us =>
    if isHigh u && isLow v then paired u v :: characters us else alone u :: characters (v :: us)

/-- `text as String` -/
def toString (text : NSString) : String := String.ofList text.characters

/-- `(text as String).count` -/
def count (text : NSString) : Nat := Unicode.count text.characters

/-- `text.replacingCharacters(in: range, with: string)` -/
def replacingCharacters (text : NSString) (range : NSRange) (string : NSString) : NSString :=
  text.take range.location ++ string ++ text.drop range.upperBound

/-! ## 2. What was written is read -/

theorem toNat_ofNat {n : Nat} (h : n < 0x10000) : (UInt16.ofNat n).toNat = n :=
  UInt16.toNat_ofNat_of_lt' h

/-- No scalar is a surrogate, and none is out of the range of a pair. -/
theorem toNat_valid (c : Char) : c.toNat < 0xd800 ∨ 0xdfff < c.toNat ∧ c.toNat < 0x110000 :=
  c.valid

/-- A scalar of the basic plane is a unit of its own. -/
theorem utf16_of_lt {c : Char} (h : c.toNat < 0x10000) :
    ∃ u, utf16 c = [u] ∧ isHigh u = false ∧ isLow u = false ∧ alone u = c := by
  have hvalid := toNat_valid c
  have hn : (UInt16.ofNat c.toNat).toNat = c.toNat := toNat_ofNat h
  have hhigh : isHigh (UInt16.ofNat c.toNat) = false := by
    simp only [isHigh, hn, Bool.and_eq_false_iff, decide_eq_false_iff_not]
    omega
  have hlow : isLow (UInt16.ofNat c.toNat) = false := by
    simp only [isLow, hn, Bool.and_eq_false_iff, decide_eq_false_iff_not]
    omega
  refine ⟨UInt16.ofNat c.toNat, ?_, hhigh, hlow, ?_⟩
  · simp only [utf16, if_pos h]
  · simp only [alone, hhigh, hlow, hn, Bool.or_self, Bool.false_eq_true, if_false, Char.ofNat_toNat]

/-- Any other is a pair. -/
theorem utf16_of_ge {c : Char} (h : ¬c.toNat < 0x10000) :
    ∃ u v, utf16 c = [u, v] ∧ isHigh u = true ∧ isLow u = false ∧ isLow v = true ∧
      paired u v = c := by
  have hvalid := toNat_valid c
  obtain ⟨n, hn⟩ : ∃ n, c.toNat = 0x10000 + n := ⟨c.toNat - 0x10000, by omega⟩
  have hsub : c.toNat - 0x10000 = n := by omega
  have hhigh : (UInt16.ofNat (0xd800 + n / 0x400)).toNat = 0xd800 + n / 0x400 :=
    toNat_ofNat (by omega)
  have hlow : (UInt16.ofNat (0xdc00 + n % 0x400)).toNat = 0xdc00 + n % 0x400 :=
    toNat_ofNat (by omega)
  refine ⟨UInt16.ofNat (0xd800 + n / 0x400), UInt16.ofNat (0xdc00 + n % 0x400), ?_, ?_, ?_, ?_, ?_⟩
  · simp only [utf16, if_neg h, hsub]
  · simp only [isHigh, hhigh, Bool.and_eq_true, decide_eq_true_eq]
    omega
  · simp only [isLow, hhigh, Bool.and_eq_false_iff, decide_eq_false_iff_not]
    omega
  · simp only [isLow, hlow, Bool.and_eq_true, decide_eq_true_eq]
    omega
  · have hscalar : 0x10000 + (0xd800 + n / 0x400 - 0xd800) * 0x400 +
        (0xdc00 + n % 0x400 - 0xdc00) = c.toNat := by omega
    rw [paired, hhigh, hlow, hscalar, Char.ofNat_toNat]

theorem characters_cons_of_not_high {u : UInt16} (h : isHigh u = false) (us : NSString) :
    characters (u :: us) = alone u :: characters us := by
  cases us with
  | nil => rfl
  | cons v us => simp [characters, h]

/-- **What was written as a scalar is read as one.** -/
theorem characters_utf16_append (c : Char) (us : NSString) :
    characters (utf16 c ++ us) = c :: characters us := by
  by_cases h : c.toNat < 0x10000
  · obtain ⟨u, hu, hhigh, _, hscalar⟩ := utf16_of_lt h
    rw [hu, List.singleton_append, characters_cons_of_not_high hhigh, hscalar]
  · obtain ⟨u, v, huv, hhigh, _, hlow, hscalar⟩ := utf16_of_ge h
    rw [huv]
    simp [characters, hhigh, hlow, hscalar]

theorem characters_ofChars_append (cs : List Char) (us : NSString) :
    characters (ofChars cs ++ us) = cs ++ characters us := by
  induction cs with
  | nil => rfl
  | cons c cs ih =>
    have hcons : ofChars (c :: cs) ++ us = utf16 c ++ (ofChars cs ++ us) := by simp [ofChars]
    rw [hcons, characters_utf16_append, ih]
    rfl

/-- **A text is read as it was written.** -/
@[simp] theorem characters_ofString (s : String) : (ofString s).characters = s.toList := by
  simpa [ofString, characters] using characters_ofChars_append s.toList []

/-- A scalar takes one unit at least. -/
theorem length_characters_le (text : NSString) : text.characters.length ≤ text.length := by
  induction text using characters.induct with
  | case1 => exact Nat.le_refl 0
  | case2 u => exact Nat.le_refl 1
  | case3 u v us hpair ih =>
    simp only [characters, hpair, if_true, List.length_cons]
    omega
  | case4 u v us hpair ih =>
    simp only [List.length_cons] at ih
    simp only [characters, hpair, if_false, List.length_cons, Bool.false_eq_true]
    omega

theorem count_le_length (text : NSString) : text.count ≤ text.length :=
  Nat.le_trans (Unicode.count_le_length _) (length_characters_le text)

@[simp] theorem toString_ofString (s : String) : (ofString s).toString = s := by
  simp [toString]

@[simp] theorem count_ofString (s : String) : (ofString s).count = Unicode.count s.toList := by
  simp [count]

/-! ## 3. Replacements -/

/-- The end of one text and the beginning of another make a pair. -/
def makePair (text after : NSString) : Bool :=
  text.getLast?.any isHigh && after.head?.any isLow

/-- **Texts that make no pair are read one after the other.** -/
theorem characters_append {text after : NSString} (h : makePair text after = false) :
    characters (text ++ after) = characters text ++ characters after := by
  induction text using characters.induct with
  | case1 => rfl
  | case2 u =>
    cases after with
    | nil => rfl
    | cons v after =>
      have hno : (isHigh u && isLow v) = false := by simpa [makePair] using h
      simp [characters, hno]
  | case3 u v us hpair ih =>
    have htail : makePair us after = false := by
      cases us with
      | nil => rfl
      | cons w us => simpa [makePair] using h
    simp [characters, hpair, ih htail]
  | case4 u v us hpair ih =>
    have htail : makePair (v :: us) after = false := by simpa [makePair] using h
    have hhead : characters (u :: v :: us ++ after) = alone u :: characters (v :: us ++ after) := by
      simp [characters, hpair]
    rw [hhead, ih htail]
    simp [characters, hpair]

/-- No scalar begins with the second half of a pair. -/
theorem not_makePair_utf16 (text : NSString) (c : Char) (us : NSString) :
    makePair text (utf16 c ++ us) = false := by
  by_cases h : c.toNat < 0x10000
  · obtain ⟨u, hu, _, hlow, _⟩ := utf16_of_lt h
    simp [makePair, hu, hlow]
  · obtain ⟨u, v, huv, _, hlow, _, _⟩ := utf16_of_ge h
    simp [makePair, huv, hlow]

/-- What the range leaves of the text, before it and after it, makes a pair. -/
def closesOnPair (text : NSString) (range : NSRange) : Bool :=
  makePair (text.take range.location) (text.drop range.upperBound)

/-- **A replacement has no more characters than what is left and what is put in**, unless nothing is
put in and what is left makes a pair. -/
theorem count_replacing_le {text : NSString} {range : NSRange} {s : String}
    (h : s = "" → closesOnPair text range = false) :
    (text.replacingCharacters range (ofString s)).count ≤
      count (text.take range.location) + Unicode.count s.toList +
        count (text.drop range.upperBound) := by
  have hread : (text.replacingCharacters range (ofString s)).characters =
      characters (text.take range.location) ++
        (s.toList ++ characters (text.drop range.upperBound)) := by
    rw [replacingCharacters, List.append_assoc]
    cases hs : s.toList with
    | nil =>
      have hempty : s = "" := String.toList_eq_nil_iff.mp hs
      have hpair := h hempty
      simpa [ofString, ofChars, hs] using characters_append hpair
    | cons c cs =>
      have hput : ofString s ++ text.drop range.upperBound =
          utf16 c ++ (ofChars cs ++ text.drop range.upperBound) := by
        simp [ofString, ofChars, hs]
      rw [hput, characters_append (not_makePair_utf16 _ c _), characters_utf16_append,
        characters_ofChars_append]
      rfl
  rw [count, hread]
  have hleft := Unicode.count_append_le (characters (text.take range.location))
    (s.toList ++ characters (text.drop range.upperBound))
  have hright := Unicode.count_append_le s.toList (characters (text.drop range.upperBound))
  simp only [count]
  omega

/-! ## 4. Plain texts -/

/-- Every unit is a scalar, and every scalar a Character. -/
def IsPlain (text : NSString) : Prop :=
  ∀ u ∈ text, isHigh u = false ∧ Unicode.clusterBreak (alone u) = .other

variable {text after : NSString}

theorem IsPlain.take (h : text.IsPlain) (n : Nat) : IsPlain (text.take n) :=
  fun u hu => h u (List.mem_of_mem_take hu)

theorem IsPlain.drop (h : text.IsPlain) (n : Nat) : IsPlain (text.drop n) :=
  fun u hu => h u (List.mem_of_mem_drop hu)

theorem IsPlain.append (h : text.IsPlain) (hafter : after.IsPlain) : IsPlain (text ++ after) := by
  intro u hu
  rcases List.mem_append.mp hu with hu | hu
  · exact h u hu
  · exact hafter u hu

theorem characters_of_plain (h : text.IsPlain) : text.characters = text.map alone := by
  induction text with
  | nil => rfl
  | cons u us ih =>
    have htail := ih fun v hv => h v (by simp [hv])
    rw [characters_cons_of_not_high (h u (by simp)).1, htail, List.map_cons]

/-- **The Characters of a plain text are its units.** -/
theorem count_of_plain (h : text.IsPlain) : text.count = text.length := by
  rw [count, characters_of_plain h, Unicode.count_eq_length, List.length_map]
  intro c hc
  obtain ⟨u, hu, rfl⟩ := List.mem_map.mp hc
  exact (h u hu).2

/-- A plain text has no half of a pair. -/
theorem makePair_of_plain (h : text.IsPlain) : makePair text after = false := by
  cases hlast : text.getLast? with
  | none => simp [makePair, hlast]
  | some u => simp [makePair, hlast, (h u (List.mem_of_getLast? hlast)).1]

end NSString

end Foundation
