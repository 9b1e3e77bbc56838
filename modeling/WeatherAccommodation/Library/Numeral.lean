/-
# Reading numbers from text

`Int(text)` and `Double(text)`, both failable and both exact: the whole text has to be a
numeral, with no surrounding blanks.  `Double` reads a decimal numeral (sign, digits, point,
exponent) and a hexadecimal one (`0x`, with an exponent of two) into the rational it denotes, and
knows infinity and NaN by name (`double?`).  Nothing is rounded.

What `Int` reads is a decimal numeral (`decimal?_of_int?`), and `Double` reads that as the same
number (`double?_of_decimal?`).
-/
import Mathlib.Data.List.TakeWhile
import Mathlib.Data.Rat.Cast.Defs
import Mathlib.Algebra.Order.Field.Rat
import Mathlib.Tactic.Ring
import WeatherAccommodation.Library.Json

namespace Foundation

/-- The sign in front of a numeral, and the rest. -/
def splitSign : List Char → Int × List Char
  | '+' :: cs => (1, cs)
  | '-' :: cs => (-1, cs)
  | cs => (1, cs)

/-- The value of a string of digits, read from the left. -/
def digitsValue (cs : List Char) : Nat := cs.foldl (fun n c => 10 * n + (c.toNat - '0'.toNat)) 0

/-- A nonempty string of digits. -/
def digits? (cs : List Char) : Option Nat :=
  if cs ≠ [] ∧ cs.all Char.isDigit then some (digitsValue cs) else none

/-- `Int(text)` -/
def int? (text : String) : Option Int :=
  (digits? (splitSign text.toList).2).bind fun n =>
    if InInt ((splitSign text.toList).1 * n) then some ((splitSign text.toList).1 * n) else none

def hexDigit? (c : Char) : Option Nat :=
  if c.isDigit then some (c.toNat - '0'.toNat)
  else if 'a' ≤ c ∧ c ≤ 'f' then some (c.toNat - 'a'.toNat + 10)
  else if 'A' ≤ c ∧ c ≤ 'F' then some (c.toNat - 'A'.toNat + 10)
  else none

/-- A nonempty string of hexadecimal digits. -/
def hexDigits? (cs : List Char) : Option Nat :=
  if cs = [] then none
  else cs.foldlM (fun n c => (hexDigit? c).map fun d => 16 * n + d) 0

/-- Digits of a base with at most one point among or around them. -/
def significand? (digits : List Char → Option Nat) (base : Nat) (cs : List Char) : Option ℚ :=
  let whole := cs.takeWhile (· != '.')
  match cs.dropWhile (· != '.') with
  | [] => (digits whole).map fun (n : ℕ) => ((n : ℕ) : ℚ)
  | _ :: fraction =>
    (digits (whole ++ fraction)).map fun (n : ℕ) => (n : ℚ) / base ^ fraction.length

/-- What follows the letter of an exponent: a power of `radix`. -/
def exponent? (radix : Nat) (cs : List Char) : Option ℚ :=
  (digits? (splitSign cs).2).map fun n =>
    if (splitSign cs).1 = 1 then (radix : ℚ) ^ n else 1 / (radix : ℚ) ^ n

/-- A significand, and an exponent behind its letter if there is one. -/
def scientific? (digits : List Char → Option Nat) (base radix : Nat) (notExponent : Char → Bool)
    (cs : List Char) : Option ℚ :=
  (significand? digits base (cs.takeWhile notExponent)).bind fun m =>
    match cs.dropWhile notExponent with
    | [] => some m
    | _ :: e => (exponent? radix e).map fun p => m * p

/-- Neither letter that starts an exponent. -/
def notExponent (c : Char) : Bool := c != 'e' && c != 'E'

/-- Neither letter that starts the exponent of a hexadecimal numeral. -/
def notHexExponent (c : Char) : Bool := c != 'p' && c != 'P'

/-- A decimal numeral, without its sign. -/
def unsigned? (cs : List Char) : Option ℚ := scientific? digits? 10 10 notExponent cs

/-- A decimal numeral. -/
def decimal? (text : String) : Option ℚ :=
  (unsigned? (splitSign text.toList).2).map fun q => (splitSign text.toList).1 * q

/-! ## `Double` -/

/-- A number, exact; or what is none. -/
inductive Double where
  | number (value : ℚ)
  | infinity (isNegative : Bool)
  | nan
  deriving DecidableEq, Repr

namespace Double

instance (n : Nat) : OfNat Double n := ⟨.number n⟩

instance : OfScientific Double := ⟨fun m s e => .number (OfScientific.ofScientific m s e)⟩

instance : Neg Double where
  neg
    | .number q => .number (-q)
    | .infinity isNegative => .infinity !isNegative
    | .nan => .nan

/-- The number, if it is one. -/
def value? : Double → Option ℚ
  | .number q => some q
  | _ => none

/-- `"\(value)"`; how a number is printed is up to Swift. -/
def description (print : ℚ → String) : Double → String
  | .number q => print q
  | .infinity isNegative => if isNegative then "-inf" else "inf"
  | .nan => "nan"

end Double

/-- Infinity by one of its names, in lowercase. -/
def isInfinity (cs : List Char) : Bool := cs == "inf".toList || cs == "infinity".toList

/-- NaN in lowercase, with a payload in parentheses if there is one. -/
def isNaN : List Char → Bool
  | 'n' :: 'a' :: 'n' :: [] => true
  | 'n' :: 'a' :: 'n' :: '(' :: cs =>
    cs.getLast? == some ')' && cs.dropLast.all fun c => c.isAlphanum || c == '_'
  | _ => false

/-- The digits behind the `0x` of a hexadecimal numeral. -/
def afterHexMark? : List Char → Option (List Char)
  | '0' :: x :: cs => if x = 'x' ∨ x = 'X' then some cs else none
  | _ => none

/-- What `Double` reads behind the sign. -/
def magnitude? (cs : List Char) : Option Double :=
  if isInfinity (cs.map Char.toLower) then some (.infinity false)
  else if isNaN (cs.map Char.toLower) then some .nan
  else match afterHexMark? cs with
    | some hex => (scientific? hexDigits? 16 2 notHexExponent hex).map .number
    | none => (unsigned? cs).map .number

/-- `Double(text)` -/
def double? (text : String) : Option Double :=
  (magnitude? (splitSign text.toList).2).map fun x =>
    if (splitSign text.toList).1 = 1 then x else -x

/-- The number that `Double(text)` is. -/
def number? (text : String) : Option ℚ := (double? text).bind Double.value?

/-! ## Integers are read the same way twice -/

theorem all_ne_of_all_isDigit {cs : List Char} (h : cs.all Char.isDigit = true) {c : Char}
    (hc : c.isDigit = false) : ∀ d ∈ cs, (d != c) = true := by
  intro d hd
  have hdigit : d.isDigit = true := List.all_eq_true.mp h d hd
  simp only [bne_iff_ne, ne_eq]
  rintro rfl
  rw [hdigit] at hc
  exact Bool.noConfusion hc

theorem isDigit_of_digits? {cs : List Char} {n : Nat} (h : digits? cs = some n) :
    cs.all Char.isDigit = true := by
  by_contra hcs
  simp [digits?, hcs] at h

/-- A string of digits is its own significand. -/
theorem significand?_of_digits? {base : Nat} {cs : List Char} {n : Nat}
    (h : digits? cs = some n) : significand? digits? base cs = some (n : ℚ) := by
  have hdot : ∀ d ∈ cs, (d != '.') = true := all_ne_of_all_isDigit (isDigit_of_digits? h) rfl
  have htake : cs.takeWhile (· != '.') = cs := List.takeWhile_eq_self_iff.mpr hdot
  have hdrop : cs.dropWhile (· != '.') = [] := List.dropWhile_eq_nil_iff.mpr hdot
  simp only [significand?, htake, hdrop, h, Option.map_some]

/-- **What `Int` reads is a decimal numeral of the same number.** -/
theorem decimal?_of_int? {text : String} {n : Int} (h : int? text = some n) :
    decimal? text = some (n : ℚ) := by
  unfold int? at h
  cases hd : digits? (splitSign text.toList).2 with
  | none => simp [hd] at h
  | some m =>
    rw [hd, Option.bind_some] at h
    have hn : (splitSign text.toList).1 * (m : Int) = n := by
      split at h
      · exact Option.some.inj h
      · exact absurd h (by simp)
    have hall : (splitSign text.toList).2.all Char.isDigit = true := isDigit_of_digits? hd
    have he : ∀ d ∈ (splitSign text.toList).2, notExponent d = true := by
      intro d hd
      rw [notExponent, Bool.and_eq_true]
      exact ⟨all_ne_of_all_isDigit hall rfl d hd, all_ne_of_all_isDigit hall rfl d hd⟩
    have htake : (splitSign text.toList).2.takeWhile notExponent = (splitSign text.toList).2 :=
      List.takeWhile_eq_self_iff.mpr he
    have hdrop : (splitSign text.toList).2.dropWhile notExponent = [] :=
      List.dropWhile_eq_nil_iff.mpr he
    simp only [decimal?, unsigned?, scientific?, htake, hdrop, significand?_of_digits? hd,
      Option.bind_some, Option.map_some]
    rw [← hn]
    push_cast
    rfl

/-! ## Decimal numerals are read the same way twice -/

/-- A decimal numeral starts with a digit or a point. -/
theorem head_of_unsigned? {cs : List Char} {m : ℚ} (h : unsigned? cs = some m) :
    ∃ c rest, cs = c :: rest ∧ (c.isDigit = true ∨ c = '.') := by
  cases cs with
  | nil => simp [unsigned?, scientific?, significand?, digits?] at h
  | cons c rest =>
    refine ⟨c, rest, rfl, ?_⟩
    by_contra hc
    rw [not_or, Bool.not_eq_true] at hc
    obtain ⟨hdigit, hdot⟩ := hc
    by_cases hexp : notExponent c = true
    · simp [unsigned?, scientific?, significand?, hexp, hdot, digits?, hdigit] at h
      split at h <;> simp at h
    · simp [unsigned?, scientific?, significand?, hexp, digits?] at h

theorem toLower_of_isDigit {c : Char} (h : c.isDigit = true ∨ c = '.') : c.toLower = c := by
  rcases h with h | rfl
  · have hle : c.val ≤ '9'.val := by
      simp only [Char.isDigit, Bool.and_eq_true, decide_eq_true_eq] at h
      exact h.2
    refine dif_neg fun hupper => absurd (UInt32.le_trans hupper.1 hle) (by decide)
  · rfl

/-- It is not one of the names. -/
theorem not_named_of_unsigned? {cs : List Char} {m : ℚ} (h : unsigned? cs = some m) :
    isInfinity (cs.map Char.toLower) = false ∧ isNaN (cs.map Char.toLower) = false := by
  obtain ⟨c, rest, rfl, hc⟩ := head_of_unsigned? h
  have hi : c.toLower ≠ 'i' ∧ c.toLower ≠ 'n' := by
    rw [toLower_of_isDigit hc]
    constructor
    · rintro rfl
      exact absurd hc (by decide)
    · rintro rfl
      exact absurd hc (by decide)
  constructor
  · simp [isInfinity, hi.1]
  · unfold isNaN
    split
    · rename_i heq
      exact absurd (List.cons.inj heq).1 hi.2
    · rename_i heq
      exact absurd (List.cons.inj heq).1 hi.2
    · rfl

/-- It has no mark of a hexadecimal numeral. -/
theorem afterHexMark?_of_unsigned? {cs : List Char} {m : ℚ} (h : unsigned? cs = some m) :
    afterHexMark? cs = none := by
  unfold afterHexMark?
  split
  · rename_i x cs
    split
    · rename_i hx
      -- the mark would be among the digits
      rcases hx with rfl | rfl
      · simp [unsigned?, scientific?, significand?, notExponent, digits?] at h
        split at h <;> simp at h
      · simp [unsigned?, scientific?, significand?, notExponent, digits?] at h
        split at h <;> simp at h
    · rfl
  · rfl

/-- The sign is one of two. -/
theorem splitSign_fst (cs : List Char) : (splitSign cs).1 = 1 ∨ (splitSign cs).1 = -1 := by
  unfold splitSign
  split
  · exact Or.inl rfl
  · exact Or.inr rfl
  · exact Or.inl rfl

/-- **What is a decimal numeral, `Double` reads as its number.** -/
theorem double?_of_decimal? {text : String} {q : ℚ} (h : decimal? text = some q) :
    double? text = some (.number q) := by
  obtain ⟨m, hm, rfl⟩ := Option.map_eq_some_iff.mp h
  obtain ⟨hinfinity, hnan⟩ := not_named_of_unsigned? hm
  have hread : magnitude? (splitSign text.toList).2 = some (.number m) := by
    rw [magnitude?, hinfinity, hnan, afterHexMark?_of_unsigned? hm, hm]
    rfl
  rw [double?, hread, Option.map_some]
  rcases splitSign_fst text.toList with hsign | hsign
  · rw [hsign, if_pos rfl, Int.cast_one, one_mul]
  · rw [hsign, if_neg (by decide), Int.cast_neg, Int.cast_one, neg_one_mul]
    rfl

theorem number?_of_int? {text : String} {n : Int} (h : int? text = some n) :
    number? text = some (n : ℚ) := by
  rw [number?, double?_of_decimal? (decimal?_of_int? h)]
  rfl

example : double? "-12.50e1" = some (-125) := by decide +kernel

example : double? "0x1.8p3" = some 12 ∧ double? "-Infinity" = some (.infinity true) := by
  decide +kernel

/-! ## What is printed is read back -/

theorem digits?_eq_some {cs : List Char} {n : Nat} :
    digits? cs = some n ↔ cs ≠ [] ∧ cs.all Char.isDigit = true ∧ digitsValue cs = n := by
  unfold digits?
  split
  · rename_i h
    simp [h]
  · rename_i h
    constructor
    · exact fun h' => absurd h' (by simp)
    · exact fun h' => absurd ⟨h'.1, h'.2.1⟩ h

/-- The digits of a number, with any zeros in front, are read as that number. -/
theorem digits?_replicate_append (k n : Nat) :
    digits? (List.replicate k '0' ++ Nat.toDigits 10 n) = some n := by
  refine digits?_eq_some.mpr ⟨?_, ?_, ?_⟩
  · exact List.append_ne_nil_of_right_ne_nil _ Nat.toDigits_ne_nil
  · rw [List.all_append, Bool.and_eq_true, List.all_eq_true, List.all_eq_true]
    constructor
    · intro c hc
      rw [List.eq_of_mem_replicate hc]
      rfl
    · intro c hc
      exact Nat.isDigit_of_mem_toDigits (by omega) (by omega) hc
  · have hvalue : digitsValue (List.replicate k '0' ++ Nat.toDigits 10 n) =
        Nat.ofDigitChars 10 (List.replicate k '0' ++ Nat.toDigits 10 n) 0 := rfl
    rw [hvalue, Nat.ofDigitChars_append, Nat.ofDigitChars_replicate_zero, Nat.mul_zero,
      Nat.ofDigitChars_ten_toDigits]

theorem digits?_toDigits (n : Nat) : digits? (Nat.toDigits 10 n) = some n := by
  simpa using digits?_replicate_append 0 n

/-- Digits carry no sign. -/
theorem splitSign_of_all_isDigit {cs : List Char} (h : cs.all Char.isDigit = true) :
    splitSign cs = (1, cs) := by
  unfold splitSign
  split
  · simp at h
  · simp at h
  · rfl

theorem int?_of_digits? {text : String} {n : Nat} (hn : InInt n)
    (h : digits? text.toList = some n) : int? text = some (n : Int) := by
  obtain ⟨_, hall, _⟩ := digits?_eq_some.mp h
  unfold int?
  rw [splitSign_of_all_isDigit hall, h, Option.bind_some]
  dsimp only
  rw [one_mul]
  exact if_pos hn

theorem int?_neg_of_digits? {text : String} {cs : List Char} {n : Nat} (hn : InInt (-n))
    (htext : text.toList = '-' :: cs) (h : digits? cs = some n) :
    int? text = some (-n : Int) := by
  have hsign : splitSign text.toList = (-1, cs) := by rw [htext, splitSign]
  simp only [int?, hsign, h, Option.bind_some, neg_one_mul, if_pos hn]

/-- **What a whole number is printed as, `Int` reads as that number.** -/
theorem int?_toString {n : Int} (hn : InInt n) : int? (toString n) = some n := by
  cases n with
  | ofNat n =>
    refine int?_of_digits? hn ?_
    have hlist : (toString (Int.ofNat n)).toList = Nat.toDigits 10 n := by
      simp [Int.toString_eq_repr, Int.repr, Nat.toList_repr]
    rw [hlist, digits?_toDigits]
  | negSucc n =>
    have hlist : (toString (Int.negSucc n)).toList = '-' :: Nat.toDigits 10 (n + 1) := by
      simp [Int.toString_eq_repr, Int.repr, Nat.toList_repr]
    have hneg : Int.negSucc n = -((n + 1 : ℕ) : ℤ) := rfl
    rw [hneg] at hn
    rw [int?_neg_of_digits? hn hlist (digits?_toDigits (n + 1)), hneg]

/-- Two numbers that print the same are the same. -/
theorem toString_inj {m n : Int} (hm : InInt m) (hn : InInt n) (h : toString m = toString n) :
    m = n := by
  have hread : some m = some n := by rw [← int?_toString hm, h, int?_toString hn]
  exact Option.some.inj hread

end Foundation
