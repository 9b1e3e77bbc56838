/-
# JSON text

`JSONSerialization.jsonObject(with:)` as a function on texts: a recursive descent over the
characters.  No text nests deeper than it is long, so the length is fuel enough.  Where an object
has a key twice, both fields are kept, and the first is found.

Many a program writes JSON by hand, one string around its values.  What comes of that is an object
of texts (`printed`), and it is read back as it was meant as long as the keys and the values need no
escapes (`jsonObject_of_printed`).
-/
import WeatherAccommodation.Library.Numeral

namespace Foundation

namespace JSONSerialization

/-! ## 1. Strings -/

def isSpace (c : Char) : Bool := c == ' ' || c == '\t' || c == '\n' || c == '\r'

def skipSpaces (cs : List Char) : List Char := cs.dropWhile isSpace

/-- What is in a string: a character, or the four digits of a UTF-16 unit. -/
inductive Piece where
  | char (c : Char)
  | unit (n : Nat)
  deriving DecidableEq, Repr

/-- The letter after a backslash. -/
def escaped? : Char → Option Char
  | '"' => some '"'
  | '\\' => some '\\'
  | '/' => some '/'
  | 'b' => some '\x08'
  | 'f' => some '\x0c'
  | 'n' => some '\n'
  | 'r' => some '\r'
  | 't' => some '\t'
  | _ => none

/-- The pieces up to the closing quote, and what follows it. -/
def pieces? : List Char → Option (List Piece × List Char)
  | [] => none
  | '"' :: cs => some ([], cs)
  | '\\' :: 'u' :: h₃ :: h₂ :: h₁ :: h₀ :: cs => do
    let n₃ ← hexDigit? h₃
    let n₂ ← hexDigit? h₂
    let n₁ ← hexDigit? h₁
    let n₀ ← hexDigit? h₀
    let (pieces, rest) ← pieces? cs
    return (.unit (((n₃ * 16 + n₂) * 16 + n₁) * 16 + n₀) :: pieces, rest)
  | '\\' :: c :: cs => do
    let c ← escaped? c
    let (pieces, rest) ← pieces? cs
    return (.char c :: pieces, rest)
  | c :: cs =>
    if c.toNat < 32 then none
    else do
      let (pieces, rest) ← pieces? cs
      return (.char c :: pieces, rest)

/-- One more piece in front of the characters, and of the low surrogate that waits for its high one;
neither goes without the other. -/
def join (piece : Piece) (after : Option (Option Nat × List Char)) :
    Option (Option Nat × List Char) :=
  match piece, after with
  | .char c, some (none, cs) => some (none, c :: cs)
  | .unit n, some (none, cs) =>
    if 0xdc00 ≤ n ∧ n < 0xe000 then some (some n, cs)
    else if 0xd800 ≤ n ∧ n < 0xdc00 then none
    else some (none, Char.ofNat n :: cs)
  | .unit n, some (some low, cs) =>
    if 0xd800 ≤ n ∧ n < 0xdc00 then
      some (none, Char.ofNat (0x10000 + (n - 0xd800) * 0x400 + (low - 0xdc00)) :: cs)
    else none
  | _, _ => none

def assemble (pieces : List Piece) : Option String :=
  match pieces.foldr join (some (none, [])) with
  | some (none, cs) => some (String.ofList cs)
  | _ => none

/-- The string whose opening quote was read. -/
def string? (cs : List Char) : Option (String × List Char) := do
  let (pieces, rest) ← pieces? cs
  let s ← assemble pieces
  return (s, rest)

/-! ## 2. Numbers -/

def isNumberChar (c : Char) : Bool :=
  c.isDigit || c == '+' || c == '-' || c == '.' || c == 'e' || c == 'E'

/-- Nothing, or an exponent. -/
def isExponent : List Char → Bool
  | [] => true
  | e :: cs => (e == 'e' || e == 'E') && (digits? (splitSign cs).2).isSome

/-- Nothing, or a fraction, an exponent, or both. -/
def isFraction : List Char → Bool
  | '.' :: cs => cs.takeWhile Char.isDigit ≠ [] && isExponent (cs.dropWhile Char.isDigit)
  | cs => isExponent cs

/-- A numeral as JSON has it: no plus in front, no leading zero, and digits on both sides of a
point. -/
def isNumber (cs : List Char) : Bool :=
  let cs := if cs.head? = some '-' then cs.tail else cs
  let whole := cs.takeWhile Char.isDigit
  whole ≠ [] && (whole.length = 1 || whole.head? ≠ some '0') &&
    isFraction (cs.dropWhile Char.isDigit)

def number? (cs : List Char) : Option (Json × List Char) :=
  if isNumber (cs.takeWhile isNumberChar) then
    (decimal? (String.ofList (cs.takeWhile isNumberChar))).map fun q =>
      (.num q, cs.dropWhile isNumberChar)
  else none

/-! ## 3. Values -/

mutual

def value? : Nat → List Char → Option (Json × List Char)
  | 0, _ => none
  | fuel + 1, cs =>
    match skipSpaces cs with
    | '{' :: cs =>
      match skipSpaces cs with
      | '}' :: cs => some (.obj [], cs)
      | cs => (members? fuel cs).map fun (fields, cs) => (.obj fields, cs)
    | '[' :: cs =>
      match skipSpaces cs with
      | ']' :: cs => some (.arr [], cs)
      | cs => (items? fuel cs).map fun (items, cs) => (.arr items, cs)
    | '"' :: cs => (string? cs).map fun (s, cs) => (.str s, cs)
    | 't' :: 'r' :: 'u' :: 'e' :: cs => some (.bool true, cs)
    | 'f' :: 'a' :: 'l' :: 's' :: 'e' :: cs => some (.bool false, cs)
    | 'n' :: 'u' :: 'l' :: 'l' :: cs => some (.null, cs)
    | cs => number? cs

/-- The fields of an object, up to its closing brace; there is one at least. -/
def members? : Nat → List Char → Option (Dict × List Char)
  | 0, _ => none
  | fuel + 1, cs =>
    match skipSpaces cs with
    | '"' :: cs => do
      let (key, cs) ← string? cs
      match skipSpaces cs with
      | ':' :: cs => do
        let (value, cs) ← value? fuel cs
        match skipSpaces cs with
        | ',' :: cs => do
          let (fields, cs) ← members? fuel cs
          return ((key, value) :: fields, cs)
        | '}' :: cs => return ([(key, value)], cs)
        | _ => none
      | _ => none
    | _ => none

/-- The items of an array, up to its closing bracket; there is one at least. -/
def items? : Nat → List Char → Option (List Json × List Char)
  | 0, _ => none
  | fuel + 1, cs => do
    let (value, cs) ← value? fuel cs
    match skipSpaces cs with
    | ',' :: cs => do
      let (items, cs) ← items? fuel cs
      return (value :: items, cs)
    | ']' :: cs => return ([value], cs)
    | _ => none

end

/-- An object or an array: anything else is a fragment, which is not read. -/
def isContainer : Json → Bool
  | .obj _ => true
  | .arr _ => true
  | _ => false

/-- `jsonObject(with: text.data(using: .utf8)!, options: [])`; `none` where it throws. -/
def jsonObject (text : String) : Option Json := do
  let (j, rest) ← value? (text.toList.length + 1) text.toList
  if skipSpaces rest = [] ∧ isContainer j then some j else none

example : jsonObject "[1, \"a\\u00e9\", null]" = some (.arr [.num 1, .str "aé", .null]) := by
  decide +kernel

/-! ## 4. Printing by hand -/

/-- Stands for itself inside a string. -/
def isPlain (c : Char) : Bool := c != '"' && c != '\\' && !decide (c.toNat < 32)

/-- A text that needs no escapes. -/
def IsPlain (s : String) : Prop := ∀ c ∈ s.toList, isPlain c = true

instance (s : String) : Decidable (IsPlain s) := List.decidableBAll _ s.toList

def quoted (s : String) : List Char := '"' :: (s.toList ++ ['"'])

/-- The fields of an object, up to its closing brace, with no blanks anywhere. -/
def printedMembers : List (String × String) → List Char
  | [] => ['}']
  | [(key, text)] => quoted key ++ ':' :: quoted text ++ ['}']
  | (key, text) :: field :: fields =>
    quoted key ++ ':' :: quoted text ++ ',' :: printedMembers (field :: fields)

/-- An object of texts. -/
def printed (fields : List (String × String)) : List Char := '{' :: printedMembers fields

/-- The dictionary that is meant. -/
def dictOf (fields : List (String × String)) : Dict :=
  fields.map fun (key, text) => (key, .str text)

theorem isPlain_iff {c : Char} : isPlain c = true ↔ c ≠ '"' ∧ c ≠ '\\' ∧ 32 ≤ c.toNat := by
  simp [isPlain, and_assoc]

theorem skipSpaces_cons {c : Char} (h : isSpace c = false) (cs : List Char) :
    skipSpaces (c :: cs) = c :: cs := by
  simp [skipSpaces, h]

/-- Plain characters are read one by one. -/
theorem pieces?_cons {c : Char} (h : isPlain c = true) (cs : List Char) :
    pieces? (c :: cs) = (pieces? cs).map fun (pieces, rest) => (.char c :: pieces, rest) := by
  obtain ⟨hquote, hbackslash, hcontrol⟩ := isPlain_iff.mp h
  rw [pieces?.eq_def]
  split
  · rename_i heq
    exact absurd heq (by simp)
  · rename_i heq
    exact absurd (List.cons.inj heq).1 hquote
  · rename_i heq
    exact absurd (List.cons.inj heq).1 hbackslash
  · rename_i heq
    exact absurd (List.cons.inj heq).1 hbackslash
  · rename_i heq
    obtain ⟨rfl, rfl⟩ := List.cons.inj heq
    rw [if_neg (by omega)]
    cases pieces? cs with
    | none => rfl
    | some found => rfl

theorem pieces?_plain {cs : List Char} (h : ∀ c ∈ cs, isPlain c = true) (rest : List Char) :
    pieces? (cs ++ '"' :: rest) = some (cs.map .char, rest) := by
  induction cs with
  | nil => simp [pieces?]
  | cons c cs ih =>
    rw [List.cons_append, pieces?_cons (h c (by simp)), ih fun d hd => h d (by simp [hd])]
    rfl

theorem assemble_plain (cs : List Char) : assemble (cs.map .char) = some (String.ofList cs) := by
  have hfold : (cs.map Piece.char).foldr join (some (none, [])) = some (none, cs) := by
    induction cs with
    | nil => rfl
    | cons c cs ih => rw [List.map_cons, List.foldr_cons, ih]; rfl
  rw [assemble, hfold]

/-- **A text without escapes is read back from between its quotes.** -/
theorem string?_quoted {s : String} (h : IsPlain s) (rest : List Char) :
    string? (s.toList ++ '"' :: rest) = some (s, rest) := by
  simp [string?, pieces?_plain h, assemble_plain]

/-- A text is a value. -/
theorem value?_quoted {text : String} (h : IsPlain text) (fuel : Nat) (rest : List Char) :
    value? (fuel + 1) (quoted text ++ rest) = some (.str text, rest) := by
  simp [value?, quoted, skipSpaces_cons, isSpace, string?_quoted h]

/-- A field, with what its colon is followed by. -/
theorem members?_field {key text : String} (hkey : IsPlain key) (htext : IsPlain text) (fuel : Nat)
    (rest : List Char) :
    members? (fuel + 2) (quoted key ++ ':' :: (quoted text ++ rest)) =
      match skipSpaces rest with
      | ',' :: cs => do
        let (fields, cs) ← members? (fuel + 1) cs
        return ((key, .str text) :: fields, cs)
      | '}' :: cs => some ([(key, .str text)], cs)
      | _ => none := by
  have hread : quoted key ++ ':' :: (quoted text ++ rest) =
      '"' :: (key.toList ++ '"' :: (':' :: (quoted text ++ rest))) := by simp [quoted]
  have hquote : isSpace '"' = false := rfl
  have hcolon : isSpace ':' = false := rfl
  rw [hread, members?.eq_def]
  simp only [skipSpaces_cons hquote, string?_quoted hkey, skipSpaces_cons hcolon,
    value?_quoted htext, Option.bind_eq_bind, Option.bind_some]
  rfl

/-- **Fields are read back in their order.** -/
theorem members?_printed {fields : List (String × String)} {fuel : Nat} (rest : List Char)
    (hne : fields ≠ []) (hplain : ∀ f ∈ fields, IsPlain f.1 ∧ IsPlain f.2)
    (hfuel : fields.length < fuel) :
    members? fuel (printedMembers fields ++ rest) = some (dictOf fields, rest) := by
  induction fields using printedMembers.induct generalizing fuel with
  | case1 => exact absurd rfl hne
  | case2 key text =>
    obtain ⟨fuel, rfl⟩ : ∃ n, fuel = n + 2 := ⟨fuel - 2, by simp at hfuel; omega⟩
    obtain ⟨hkey, htext⟩ := hplain (key, text) (by simp)
    have hprinted : printedMembers [(key, text)] ++ rest =
        quoted key ++ ':' :: (quoted text ++ '}' :: rest) := by simp [printedMembers]
    rw [hprinted, members?_field hkey htext, skipSpaces_cons rfl]
    rfl
  | case3 key text field fields ih =>
    obtain ⟨fuel, rfl⟩ : ∃ n, fuel = n + 2 := ⟨fuel - 2, by simp at hfuel; omega⟩
    obtain ⟨hkey, htext⟩ := hplain (key, text) (by simp)
    have htail := @ih (fuel + 1) (by simp) (fun f hf => hplain f (by simp [hf]))
      (by simpa using hfuel)
    have hprinted : printedMembers ((key, text) :: field :: fields) ++ rest = quoted key ++ ':' ::
        (quoted text ++ ',' :: (printedMembers (field :: fields) ++ rest)) := by
      simp [printedMembers]
    rw [hprinted, members?_field hkey htext, skipSpaces_cons rfl]
    simp only [htail]
    rfl

/-- There are more characters than fields. -/
theorem length_le_printedMembers (fields : List (String × String)) :
    fields.length ≤ (printedMembers fields).length := by
  induction fields using printedMembers.induct with
  | case1 => simp
  | case2 key text =>
    simp only [printedMembers, List.length_append, List.length_cons, List.length_nil]
    omega
  | case3 key text field fields htail =>
    simp only [printedMembers, List.length_append, List.length_cons] at htail ⊢
    omega

/-- The first key is quoted. -/
theorem printedMembers_eq_cons {fields : List (String × String)} (h : fields ≠ []) :
    ∃ cs, printedMembers fields = '"' :: cs := by
  match fields, h with
  | [(key, text)], _ => exact ⟨_, rfl⟩
  | (key, text) :: field :: fields, _ => exact ⟨_, rfl⟩

/-- **An object of texts that was printed by hand is read as it was meant.** -/
theorem jsonObject_of_printed {text : String} {fields : List (String × String)}
    (htext : text.toList = printed fields) (hne : fields ≠ [])
    (hplain : ∀ f ∈ fields, IsPlain f.1 ∧ IsPlain f.2) :
    jsonObject text = some (.obj (dictOf fields)) := by
  have hlength := length_le_printedMembers fields
  have hmembers := @members?_printed fields (printed fields).length [] hne hplain
    (by simp only [printed, List.length_cons]; omega)
  rw [List.append_nil] at hmembers
  obtain ⟨cs, hcs⟩ := printedMembers_eq_cons hne
  have hbrace : isSpace '{' = false := rfl
  have hquote : isSpace '"' = false := rfl
  have hvalue : value? ((printed fields).length + 1) (printed fields) =
      some (.obj (dictOf fields), []) := by
    have hopen : printed fields = '{' :: '"' :: cs := by rw [printed, hcs]
    rw [hcs] at hmembers
    generalize (printed fields).length = fuel at hmembers
    rw [hopen, value?]
    simp only [skipSpaces_cons hbrace, skipSpaces_cons hquote]
    split
    · rename_i heq
      exact absurd (List.cons.inj heq).1 (by decide)
    · rw [hmembers]
      rfl
  rw [jsonObject, htext, hvalue]
  rfl

/-! ## 5. Numerals need no escapes -/

/-- Digits, signs, points and exponents, in any order. -/
def IsNumeric (s : String) : Prop := ∀ c ∈ s.toList, isNumberChar c = true

instance (s : String) : Decidable (IsNumeric s) := List.decidableBAll _ s.toList

theorem isPlain_of_isNumberChar {c : Char} (h : isNumberChar c = true) : isPlain c = true := by
  simp only [isNumberChar, Bool.or_eq_true, beq_iff_eq] at h
  rcases h with ((((hdigit | rfl) | rfl) | rfl) | rfl) | rfl
  · obtain ⟨hlow, hhigh⟩ := Char.isDigit_iff_toNat.mp hdigit
    have h0 : '0'.toNat = 48 := rfl
    have h9 : '9'.toNat = 57 := rfl
    refine isPlain_iff.mpr ⟨?_, ?_, by omega⟩
    · rintro rfl
      exact absurd hlow (by decide)
    · rintro rfl
      exact absurd hhigh (by decide)
  all_goals decide

theorem IsNumeric.isPlain {s : String} (h : IsNumeric s) : IsPlain s :=
  fun c hc => isPlain_of_isNumberChar (h c hc)

/-- A whole number is printed in digits, with a sign where it is negative. -/
theorem isNumeric_toString (n : Int) : IsNumeric (toString n) := by
  have hdigits : ∀ k : Nat, ∀ c ∈ Nat.toDigits 10 k, isNumberChar c = true := by
    intro k c hc
    have hdigit : c.isDigit = true := Nat.isDigit_of_mem_toDigits (by omega) (by omega) hc
    simp [isNumberChar, hdigit]
  intro c hc
  cases n with
  | ofNat n =>
    have hlist : (toString (Int.ofNat n)).toList = Nat.toDigits 10 n := by
      simp [Int.toString_eq_repr, Int.repr, Nat.toList_repr]
    rw [hlist] at hc
    exact hdigits n c hc
  | negSucc n =>
    have hlist : (toString (Int.negSucc n)).toList = '-' :: Nat.toDigits 10 (n + 1) := by
      simp [Int.toString_eq_repr, Int.repr, Nat.toList_repr]
    rw [hlist] at hc
    rcases List.mem_cons.mp hc with rfl | hc
    · rfl
    · exact hdigits (n + 1) c hc

end JSONSerialization

end Foundation
