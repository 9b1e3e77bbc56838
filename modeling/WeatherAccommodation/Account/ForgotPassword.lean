/-
# Recovering the password of a number

A mobile number is registered as it was typed at sign-up, in a field that takes fourteen units of
digits and signs.  The field of the forgot-password screen takes ten, by the reckoning of
`FieldLimits.lean`; a number with its separators has twelve.

* `registered_number_recovers`: there are edits that get it in all the same, and what is sent is
  the number that was registered;
* `plain_number_le_ten`: none of them types the number only.
-/
import WeatherAccommodation.Account.Validation
import WeatherAccommodation.FieldLimits

namespace WeatherAccommodation

open Foundation Reactive

/-! ## 1. The delegates -/

namespace ClientSignUpViewController

/-- `CharacterSet(charactersIn: "+-0123456789")` -/
def isNumberChar (c : Char) : Bool := decide (c ∈ "+-0123456789".toList)

/-- The components of the text between characters outside the set, joined. -/
def numberFiltered (newString : NSString) : List Char := newString.characters.filter isNumberChar

def shouldChangeCharactersIn (field : EntryField) (text : NSString) (e : Edit) : Bool :=
  match field with
  | .fullNameTF => e.isAtMost 30 text
  | .emailTF => e.isAtMost 50 text
  | .mobileTF =>
    let newString := e.apply text
    decide (newString.length ≤ 14) && newString.characters == numberFiltered newString
  | .passwordTF => e.isAtMost 16 text
  | .countryTF => true

def mobileTF : Machine NSString Edit Empty := textField (shouldChangeCharactersIn .mobileTF)

/-- No number is longer than fourteen units. -/
theorem length_le_of_run {text : NSString} (h : mobileTF.Run [] text) : text.length ≤ 14 := by
  refine h.invariant (I := fun text => text.length ≤ 14) (Nat.zero_le 14) ?_
  intro text e after hle _ hstep
  obtain ⟨_, rfl⟩ := textField_step.mp hstep
  split
  · rename_i haccepted
    have hshort := (Bool.and_eq_true_iff.mp haccepted).1
    simpa using hshort
  · exact hle

end ClientSignUpViewController

namespace ForgotpasswordViewController

def shouldChangeCharactersIn (field : EntryField) (text : NSString) (e : Edit) : Bool :=
  match field with
  | .mobileTF => e.isAtMost 10 text
  | _ => true

def emailMobileTF : Machine NSString Edit Empty := textField (shouldChangeCharactersIn .mobileTF)

/-- Four emoji, which have eight units. -/
def emoji : Edit where
  range := ⟨0, 0⟩
  string := "😀😀😀😀"

/-- A text in their place. -/
def inTheirPlace (s : String) : Edit where
  range := ⟨0, 8⟩
  string := s

/-- **Whatever has fourteen Characters can be entered.** -/
theorem enters {s : String} (h : Unicode.count s.toList ≤ 14) :
    emailMobileTF.RunWhere (fun text e => shouldChangeCharactersIn .mobileTF text e = true) []
      (NSString.ofString s) := by
  have hfirst : emailMobileTF.Step [] emoji (NSString.ofString emoji.string) := by
    refine textField_step.mpr ⟨by decide +kernel, ?_⟩
    decide +kernel
  have hlength : (NSString.ofString emoji.string).length = 8 := by decide +kernel
  have hroom : Edit.newLength (NSString.ofString emoji.string) (inTheirPlace s) ≤ 10 := by
    have hemoji : NSString.count (NSString.ofString emoji.string) = 4 := by decide +kernel
    simp only [Edit.newLength, hemoji, inTheirPlace]
    omega
  have haccepted : shouldChangeCharactersIn .mobileTF (NSString.ofString emoji.string)
      (inTheirPlace s) = true := by
    simpa [shouldChangeCharactersIn, Edit.isAtMost] using hroom
  have hsecond : emailMobileTF.Step (NSString.ofString emoji.string) (inTheirPlace s)
      (NSString.ofString s) := by
    refine textField_step.mpr ⟨by simp [Edit.fits, NSRange.upperBound, inTheirPlace, hlength], ?_⟩
    have hnothing : (NSString.ofString emoji.string).drop 8 = [] :=
      List.drop_eq_nil_of_le hlength.le
    have happly : Edit.apply (NSString.ofString emoji.string) (inTheirPlace s) =
        NSString.ofString s := by
      simp [Edit.apply, NSString.replacingCharacters, inTheirPlace, NSRange.upperBound, hnothing]
    exact happly.symm.trans (if_pos haccepted).symm
  exact (Machine.RunWhere.refl.tail (by decide +kernel) hfirst).tail haccepted hsecond

/-- **Whoever types nothing but plain texts enters ten units at most.** -/
theorem plain_number_le_ten {text : NSString} (h : emailMobileTF.RunWhere
    (fun _ e => (NSString.ofString e.string).IsPlain) [] text) : text.length ≤ 10 :=
  (plain_limits_hold h).2

end ForgotpasswordViewController

/-! ## 2. The number that is sent -/

open EntryScreen

/-- **Every number that can be registered can be recovered.**  It is entered by edits that are all
allowed, and sent as it was registered. -/
theorem registered_number_recovers {text : NSString}
    (htyped : ClientSignUpViewController.mobileTF.Run [] text)
    (hvalid : RDGlobalFunction.iSValidContactNumber text.toString = true) :
    ∃ entered, ForgotpasswordViewController.emailMobileTF.RunWhere (fun text e =>
        ForgotpasswordViewController.shouldChangeCharactersIn .mobileTF text e = true) [] entered ∧
      entered.toString = text.toString ∧
      ∀ (s f : EntryScreen) (p q : Surroundings) (register : EntryRequest),
        s.kind = .signUp → s.mobileTF = text.toString → s.sent p = .ok (some register) →
        f.kind = .forgotPassword → f.countryTF = s.countryTF → f.mobileTF = entered.toString →
        f.canSend q = true →
        ∃ request, f.sent q = .ok (some request) ∧
          Dict.string? register.parameters "MobileNumber" = some (s.countryTF ++ s.mobileTF) ∧
          Dict.string? request.parameters "EmailMobileNumber"
            = Dict.string? register.parameters "MobileNumber" := by
  have hshort : Unicode.count text.toString.toList ≤ 14 := by
    have hlength := ClientSignUpViewController.length_le_of_run htyped
    have hcount := NSString.count_le_length text
    simp only [NSString.toString, String.toList_ofList]
    simp only [NSString.count] at hcount
    omega
  have hsame : (NSString.ofString text.toString).toString = text.toString :=
    NSString.toString_ofString _
  refine ⟨_, ForgotpasswordViewController.enters hshort, hsame, ?_⟩
  intro s f p q register hs hmobile hregister hf hcountry hentered hcan
  have hcontact : f.hasContact = true := by
    simp [hasContact, hentered, hsame, hvalid]
  obtain ⟨request, hrequest⟩ := exists_sent_iff.mpr ⟨by simp [isFilled, hf, hcontact], hcan⟩
  have hregistered := carries_of_sent hregister
  have hrecovered := carries_of_sent hrequest
  simp only [Carries, hs] at hregistered
  simp only [Carries, hf] at hrecovered
  refine ⟨request, hrequest, hregistered.2.2.1, ?_⟩
  rw [hrecovered, hregistered.2.2.1, hcountry, hentered, hsame, hmobile]

/-- With a number of twelve units. -/
theorem number_with_hyphens_recovers :
    ∃ entered, ForgotpasswordViewController.emailMobileTF.RunWhere (fun text e =>
        ForgotpasswordViewController.shouldChangeCharactersIn .mobileTF text e = true) [] entered ∧
      entered.toString = "555-123-4567" := by
  have hreplay : ClientSignUpViewController.mobileTF.replay (fun _ _ => true) []
      [{ range := ⟨0, 0⟩, string := "555-123-4567" }] = some (NSString.ofString "555-123-4567") := by
    decide +kernel
  have htyped : ClientSignUpViewController.mobileTF.Run [] (NSString.ofString "555-123-4567") :=
    .of_replay (fun _ _ _ => trivial) hreplay
  obtain ⟨entered, hrun, hsame, _⟩ := registered_number_recovers htyped (by decide +kernel)
  exact ⟨entered, hrun, hsame.trans (NSString.toString_ofString _)⟩

end WeatherAccommodation
