/-
# Fields with a limit

A text field asks its delegate before it changes its text: an edit is a range of UTF-16 units, and
what is to be put in its place.  The delegates of this app reckon how long the text would be, and
allow it up to a limit.  They count the text in Characters, and take the units of the range away:
so taking away one emoji makes room for two digits.

* `limits_hold`: edits that take away no more units than Characters, or put in no more than they
  take away, keep to the limit;
* `plain_limits_hold`: where only digits are put in, all edits do;
* `emoji_makes_room`: an emoji does not, in any of the three fields that hold a quantity or a code.
-/
import Mathlib.Data.List.Basic
import WeatherAccommodation.Library.Machine
import WeatherAccommodation.Library.NSString

namespace WeatherAccommodation

open Foundation Reactive

/-! ## 1. Fields -/

/-- What `shouldChangeCharactersIn` is asked about. -/
structure Edit where
  range : NSRange
  string : String
  deriving DecidableEq, Repr

namespace Edit

variable {text : NSString} {e : Edit}

/-- The range lies in the text. -/
def fits (text : NSString) (e : Edit) : Bool := decide (e.range.upperBound ≤ text.length)

/-- The text with the edit made. -/
def apply (text : NSString) (e : Edit) : NSString :=
  text.replacingCharacters e.range (NSString.ofString e.string)

/-- `textField.text!.count + string.count - range.length` -/
def newLength (text : NSString) (e : Edit) : Int :=
  (text.count : Int) + Unicode.count e.string.toList - e.range.length

/-- `newLength <= limit` -/
def isAtMost (limit : Nat) (text : NSString) (e : Edit) : Bool := decide (newLength text e ≤ limit)

/-- How many Characters are left of the text, before the range and after it. -/
def left (text : NSString) (e : Edit) : Nat :=
  NSString.count (text.take e.range.location) + NSString.count (text.drop e.range.upperBound)

/-- Either the range has as many units as the text loses Characters, or no more Characters are put
in than it loses.  Where nothing is put in, no surrogate pair is made of what is left. -/
def Counts (text : NSString) (e : Edit) : Prop :=
  (e.string = "" → NSString.closesOnPair text e.range = false) ∧
    (left text e + e.range.length ≤ text.count ∨
      left text e + Unicode.count e.string.toList ≤ text.count)

instance : Decidable (Counts text e) := inferInstanceAs (Decidable (_ ∧ _))

/-- The text has what is left and what was put in, and no more. -/
theorem count_apply_le (h : Counts text e) :
    (apply text e).count ≤ left text e + Unicode.count e.string.toList := by
  have hle := NSString.count_replacing_le h.1
  simp only [apply, left]
  omega

/-- **An edit that counts is not longer than the delegate reckons, or the text does not grow.** -/
theorem count_apply_le_newLength (h : Counts text e) :
    ((apply text e).count : Int) ≤ newLength text e ∨ (apply text e).count ≤ text.count := by
  have hle := count_apply_le h
  rcases h.2 with hunits | hless
  · refine .inl ?_
    simp only [newLength]
    omega
  · exact .inr (Nat.le_trans hle hless)

/-- In a plain text a range has as many units as Characters. -/
theorem counts_of_plain (hfits : fits text e = true) (h : text.IsPlain) : Counts text e := by
  have hbound : e.range.upperBound ≤ text.length := by simpa [fits] using hfits
  refine ⟨fun _ => NSString.makePair_of_plain (h.take _), .inl ?_⟩
  have hbefore := NSString.count_of_plain (h.take e.range.location)
  have hafter := NSString.count_of_plain (h.drop e.range.upperBound)
  simp only [left, hbefore, hafter, NSString.count_of_plain h, List.length_take, List.length_drop]
  simp only [NSRange.upperBound] at hbound ⊢
  omega

theorem isPlain_apply (h : text.IsPlain) (hput : (NSString.ofString e.string).IsPlain) :
    (apply text e).IsPlain :=
  ((h.take _).append hput).append (h.drop _)

end Edit

/-- A text field whose delegate is `shouldChangeCharactersIn`: an edit that is turned down changes
nothing. -/
def textField (shouldChangeCharactersIn : NSString → Edit → Bool) : Machine NSString Edit Empty where
  react text e :=
    if e.fits text then
      some (.ok (if shouldChangeCharactersIn text e then e.apply text else text))
    else none

section Steps

variable {accepts : NSString → Edit → Bool} {text after : NSString} {e : Edit}

/-- **What an edit does.** -/
theorem textField_step : (textField accepts).Step text e after ↔
    e.fits text = true ∧ after = if accepts text e then e.apply text else text := by
  unfold Machine.Step textField
  by_cases hfits : e.fits text = true
  · simp only [hfits, if_true, Option.some.injEq, Except.ok.injEq, true_and]
    exact eq_comm
  · simp [hfits]

variable {limit : Nat}

/-- An accepted edit that counts keeps to the limit. -/
theorem count_le_step (h : text.count ≤ limit)
    (hcounts : Edit.isAtMost limit text e = true → e.Counts text)
    (hstep : (textField (Edit.isAtMost limit)).Step text e after) : after.count ≤ limit := by
  obtain ⟨_, rfl⟩ := textField_step.mp hstep
  split
  · rename_i haccepted
    have hlength : Edit.newLength text e ≤ limit := by simpa [Edit.isAtMost] using haccepted
    rcases Edit.count_apply_le_newLength (hcounts haccepted) with hreckoned | hless
    · omega
    · omega
  · exact h

/-- **Plain texts keep to the limit**, such as digits. -/
theorem plain_limits_hold (hrun : (textField (Edit.isAtMost limit)).RunWhere
    (fun _ e => (NSString.ofString e.string).IsPlain) [] text) :
    text.IsPlain ∧ text.length ≤ limit := by
  have hboth : text.IsPlain ∧ text.count ≤ limit := by
    refine hrun.invariant (I := fun text => text.IsPlain ∧ text.count ≤ limit)
      ⟨fun u hu => absurd hu (by simp), Nat.zero_le _⟩ ?_
    rintro text e after ⟨hplain, hle⟩ hput hstep
    obtain ⟨hfits, hafter⟩ := textField_step.mp hstep
    refine ⟨?_, count_le_step hle (fun _ => Edit.counts_of_plain hfits hplain) hstep⟩
    rw [hafter]
    split
    · exact Edit.isPlain_apply hplain hput
    · exact hplain
  exact ⟨hboth.1, NSString.count_of_plain hboth.1 ▸ hboth.2⟩

end Steps

/-! ## 2. The three fields -/

/-- The fields for an amount of equipment, and for the codes of a trip and of an account. -/
inductive LimitedField where
  | quantity
  | txtOTP
  | verifyOTPTF
  deriving DecidableEq, Repr

namespace LimitedField

/-- `newLength <= 1`, `newLength <= 4` and `newLength <= 6` -/
def limit : LimitedField → Nat
  | .quantity => 1
  | .txtOTP => 4
  | .verifyOTPTF => 6

/-- `ExtraEquipmentViewController`, `TripClientDetailViewController` and
`VerifyOTPViewController` each answer for one field. -/
def shouldChangeCharactersIn (field : LimitedField) : NSString → Edit → Bool :=
  Edit.isAtMost field.limit

def machine (field : LimitedField) : Machine NSString Edit Empty :=
  textField field.shouldChangeCharactersIn

variable {text : NSString}

/-- **Edits that count keep to the limit**, in every run from an empty field. -/
theorem limits_hold (field : LimitedField)
    (hrun : field.machine.RunWhere
      (fun text e => field.shouldChangeCharactersIn text e = true → e.Counts text) [] text) :
    text.count ≤ field.limit :=
  hrun.invariant (I := fun text => text.count ≤ field.limit) (Nat.zero_le _)
    fun _ _ _ h hcounts hstep => count_le_step h hcounts hstep

/-- A digit is typed, and another in its place. -/
def digitThenDigit : List Edit :=
  [{ range := ⟨0, 0⟩, string := "5" }, { range := ⟨0, 1⟩, string := "7" }]

theorem limits_hold_digits : NSString.count (NSString.ofString "7") ≤ limit .quantity := by
  have hreplay : (machine .quantity).replay (fun text e =>
      decide (shouldChangeCharactersIn .quantity text e = true → e.Counts text)) []
      digitThenDigit = some (NSString.ofString "7") := by decide +kernel
  exact limits_hold .quantity (.of_replay (fun _ _ h => of_decide_eq_true h) hreplay)

/-- An emoji, and digits in its place. -/
def emojiThenDigits : LimitedField → List Edit
  | .quantity => [{ range := ⟨0, 0⟩, string := "😀" }, { range := ⟨0, 2⟩, string := "12" }]
  | .txtOTP => [{ range := ⟨0, 0⟩, string := "😀" }, { range := ⟨0, 2⟩, string := "12345" }]
  | .verifyOTPTF => [{ range := ⟨0, 0⟩, string := "😀" }, { range := ⟨0, 2⟩, string := "1234567" }]

/-- **An emoji makes room for two digits.** -/
theorem emoji_makes_room : [LimitedField.quantity, .txtOTP, .verifyOTPTF].Forall fun field =>
    ∃ text, field.machine.RunWhere (fun text e => field.shouldChangeCharactersIn text e = true)
      [] text ∧ text.count = field.limit + 1 := by
  refine List.forall_iff_forall_mem.mpr fun field _ => ?_
  obtain ⟨text, hrun, hcount⟩ := field.machine.exists_run_of_replay
    field.shouldChangeCharactersIn [] field.emojiThenDigits
    (fun text => text.count == field.limit + 1) (fun _ _ h => h)
    (by cases field <;> decide +kernel)
  exact ⟨text, hrun, by simpa using hcount⟩

end LimitedField

end WeatherAccommodation
