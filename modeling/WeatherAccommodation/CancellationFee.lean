/-
# The first minute of a trip, during which a cancellation is free

Both trip sheets count the time since the acceptance (`TripProviderDetailViewController.swift` on
the client's side, `TripClientDetailViewController.swift` on the provider's).  `cancelRequest`
decides between the confirmation that cancels for free and the alert that leads to a charged
cancellation, and `timerAction` writes the label that announces the fee.  Neither looks at the
time itself: both read the minutes back out of the texts that `stringFromTimeInterval` prints.

The minutes are those of a clock, and start again with every hour.

* `cancel_is_free_iff`: the free path is taken exactly within the first minute, unless a later
  hour is in its first minute.
* `fee_label_iff`: the label after a tick is true exactly within the first minute and in the
  second minute of any hour.
-/
import Mathlib.Data.Rat.Floor
import WeatherAccommodation.Client.Phone
import WeatherAccommodation.Provider.Phone

namespace WeatherAccommodation

open Foundation Reactive

/-! ## 1. The fields of an elapsed time -/

namespace TimeInterval

/-- `NSInteger(self)`, which drops the fraction and traps outside the range. -/
def nsInteger (t : ℚ) : Except Trap Int :=
  let n := if 0 ≤ t then ⌊t⌋ else ⌈t⌉
  if InInt n then .ok n else .error (.notANumber "TimeInterval")

/-- `String(format: "%0.2d", n)`: two digits at least, of the low 32 bits. -/
def twoDigits (n : Int) : String :=
  let n := n.bmod (2 ^ 32)
  (if n < 0 then "-" else "") ++ (if n.natAbs < 10 then "0" else "") ++ n.natAbs.repr

/-- `stringFromTimeInterval`: hours, minutes and seconds. -/
def stringFromTimeInterval (t : ℚ) : Except Trap (String × String × String) := do
  let time ← nsInteger t
  let seconds := time.tmod 60
  let minutes := (time.tdiv 60).tmod 60
  let hours := time.tdiv 3600
  return (twoDigits hours, twoDigits minutes, twoDigits seconds)

/-- `Int(self.stringFromTimeInterval().1)!` -/
def minutes (t : ℚ) : Except Trap Int := do
  let fields ← stringFromTimeInterval t
  forceNumeral "minutes" fields.2.1

/-- `Int(self.stringFromTimeInterval().2)!` -/
def seconds (t : ℚ) : Except Trap Int := do
  let fields ← stringFromTimeInterval t
  forceNumeral "seconds" fields.2.2

/-- The whole seconds of a time that is not negative. -/
theorem nsInteger_of_nonneg {t : ℚ} (ht : 0 ≤ t) :
    nsInteger t = if t < 2 ^ 63 then .ok (⌊t⌋₊ : Int) else .error (.notANumber "TimeInterval") := by
  have hfloor : (⌊t⌋₊ : Int) = ⌊t⌋ := Int.natCast_floor_eq_floor ht
  have hrange : InInt ⌊t⌋ ↔ t < 2 ^ 63 := by
    have hnonneg : 0 ≤ ⌊t⌋ := Int.floor_nonneg.mpr ht
    have hlt : ⌊t⌋ < 2 ^ 63 ↔ t < 2 ^ 63 := by
      rw [Int.floor_lt]
      norm_num
    unfold InInt
    rw [hlt]
    constructor
    · exact fun h => h.2
    · exact fun h => ⟨by omega, h⟩
  unfold nsInteger
  simp only [if_pos ht, hrange, hfloor]

/-- Two digits are read back. -/
theorem int?_twoDigits {n : Nat} (hn : n < 100) : int? (twoDigits n) = some (n : Int) := by
  have hbmod : (n : Int).bmod (2 ^ 32) = n := by
    rw [Int.bmod_def]
    omega
  refine int?_of_digits? ⟨by omega, by omega⟩ ?_
  have hlist : (twoDigits n).toList =
      List.replicate (if n < 10 then 1 else 0) '0' ++ Nat.toDigits 10 n := by
    unfold twoDigits
    simp only [hbmod, Int.natAbs_natCast]
    rw [if_neg (by omega)]
    split
    · simp [Nat.toList_repr]
    · simp [Nat.toList_repr]
  rw [hlist, digits?_replicate_append]

theorem stringFromTimeInterval_eq {t : ℚ} (ht : 0 ≤ t) (hlt : t < 2 ^ 63) :
    stringFromTimeInterval t = .ok (twoDigits ((⌊t⌋₊ / 3600 : Nat) : Int),
      twoDigits (minutesOf ⌊t⌋₊), twoDigits ((⌊t⌋₊ % 60 : Nat) : Int)) := by
  have hhours : (⌊t⌋₊ : Int).tdiv 3600 = ((⌊t⌋₊ / 3600 : Nat) : Int) := by
    rw [Int.tdiv_eq_ediv_of_nonneg (by omega)]
    omega
  have hminutes : ((⌊t⌋₊ : Int).tdiv 60).tmod 60 = (minutesOf ⌊t⌋₊ : Int) := by
    rw [Int.tdiv_eq_ediv_of_nonneg (by omega), Int.tmod_eq_emod_of_nonneg (by omega)]
    unfold minutesOf
    omega
  have hseconds : (⌊t⌋₊ : Int).tmod 60 = ((⌊t⌋₊ % 60 : Nat) : Int) := by
    rw [Int.tmod_eq_emod_of_nonneg (by omega)]
    omega
  rw [stringFromTimeInterval, nsInteger_of_nonneg ht, if_pos hlt]
  simp only [bind, Except.bind, pure, Except.pure, hhours, hminutes, hseconds]

theorem stringFromTimeInterval_of_le {t : ℚ} (ht : 2 ^ 63 ≤ t) :
    stringFromTimeInterval t = .error (.notANumber "TimeInterval") := by
  have hnonneg : 0 ≤ t := le_trans (by norm_num) ht
  rw [stringFromTimeInterval, nsInteger_of_nonneg hnonneg, if_neg (not_lt.mpr ht)]
  simp only [bind, Except.bind]

/-- **The minutes are those of a clock.** -/
theorem minutes_eq {t : ℚ} (ht : 0 ≤ t) (hlt : t < 2 ^ 63) :
    minutes t = .ok (minutesOf ⌊t⌋₊ : Int) := by
  have hread : int? (twoDigits (minutesOf ⌊t⌋₊)) = some (minutesOf ⌊t⌋₊ : Int) :=
    int?_twoDigits (by unfold minutesOf; omega)
  exact bind_eq_ok.mpr ⟨_, stringFromTimeInterval_eq ht hlt, forceNumeral_eq_ok.mpr hread⟩

theorem seconds_eq {t : ℚ} (ht : 0 ≤ t) (hlt : t < 2 ^ 63) :
    seconds t = .ok ((⌊t⌋₊ % 60 : Nat) : Int) := by
  have hread : int? (twoDigits ((⌊t⌋₊ % 60 : Nat) : Int)) = some ((⌊t⌋₊ % 60 : Nat) : Int) :=
    int?_twoDigits (by omega)
  exact bind_eq_ok.mpr ⟨_, stringFromTimeInterval_eq ht hlt, forceNumeral_eq_ok.mpr hread⟩

theorem minutes_of_le {t : ℚ} (ht : 2 ^ 63 ≤ t) :
    minutes t = .error (.notANumber "TimeInterval") :=
  bind_eq_error.mpr (.inl (stringFromTimeInterval_of_le ht))

end TimeInterval

/-! ## 2. The button Cancel -/

/-- The alerts of `cancelRequest`. -/
inductive CancelAlert where
  /-- "Are you sure you want to cancel this request?" -/
  | areYouSure
  /-- "Please call at least once before cancelling the request" -/
  | callAtLeastOnce
  deriving DecidableEq, Repr

/-- The reason that a button of the alert sends itself: `YES` of the confirmation does, the other
alert only calls, or leads on to the reasons. -/
def CancelAlert.reason? : CancelAlert → Option String
  | .areYouSure => some CancellationReasonCode.noReason
  | .callAtLeastOnce => none

/-- `Int(timeElapsed.stringFromTimeInterval().1)! >= 1` -/
def isCharged (timeElapsed : ℚ) : Except Trap Bool := do
  let minutes ← TimeInterval.minutes timeElapsed
  return decide (1 ≤ minutes)

/-- The alert of `cancelRequest`, on the client's sheet. -/
def TripProviderDetail.cancelAlert (timeElapsed : ℚ) : Except Trap (Option CancelAlert) := do
  if ← isCharged timeElapsed then return some .callAtLeastOnce
  else return some .areYouSure

/-- The alert of `cancelRequest`, on the provider's sheet; `sinceReached` counts from
`reachedDate`.  For three minutes after that there is no alert. -/
def ClientDetailSheet.cancelAlert (timeElapsed : ℚ) (sinceReached : Option ℚ) :
    Except Trap (Option CancelAlert) := do
  if ← isCharged timeElapsed then
    let sinceReached ← unwrap .reachedDate sinceReached
    let minutes ← TimeInterval.minutes sinceReached
    if 3 ≤ minutes then return some .callAtLeastOnce else return none
  else return some .areYouSure

/-- The press cancels for free: it asks, and `YES` sends `NoReason`. -/
def IsFree (press : Except Trap (Option CancelAlert)) : Prop :=
  ∃ alert, press = .ok (some alert) ∧ alert.reason? = some CancellationReasonCode.noReason

section Press

variable {t : ℚ}

theorem isCharged_eq (ht : 0 ≤ t) (hlt : t < 2 ^ 63) :
    isCharged t = .ok (decide (1 ≤ minutesOf ⌊t⌋₊)) := by
  unfold isCharged
  rw [TimeInterval.minutes_eq ht hlt]
  simp [bind, Except.bind, pure, Except.pure]

theorem isCharged_of_le (ht : 2 ^ 63 ≤ t) :
    isCharged t = .error (.notANumber "TimeInterval") :=
  bind_eq_error.mpr (.inl (TimeInterval.minutes_of_le ht))

theorem isFree_iff {press : Except Trap (Option CancelAlert)} :
    IsFree press ↔ press = .ok (some .areYouSure) := by
  constructor
  · rintro ⟨alert, rfl, hreason⟩
    cases alert with
    | areYouSure => rfl
    | callAtLeastOnce => exact absurd hreason (by simp [CancelAlert.reason?])
  · exact fun h => ⟨.areYouSure, h, rfl⟩

/-- On either sheet the press is free exactly if the test of the minutes fails. -/
theorem isFree_iff_isCharged (sinceReached : Option ℚ) :
    (IsFree (TripProviderDetail.cancelAlert t) ↔ isCharged t = .ok false) ∧
      (IsFree (ClientDetailSheet.cancelAlert t sinceReached) ↔ isCharged t = .ok false) := by
  simp only [isFree_iff, TripProviderDetail.cancelAlert, ClientDetailSheet.cancelAlert]
  cases isCharged t with
  | error f => simp [bind, Except.bind]
  | ok charged =>
    cases charged with
    | false => simp
    | true =>
      simp only [bind_eq_ok, Except.ok.injEq, exists_eq_left', if_true, pure_eq_ok,
        Bool.true_eq_false, iff_false, not_exists, not_and]
      refine ⟨by simp, ?_⟩
      intro reached _ minutes _
      split <;> simp

theorem isCharged_eq_false_iff (ht : 0 ≤ t) :
    isCharged t = .ok false ↔ t < 2 ^ 63 ∧ minutesOf ⌊t⌋₊ = 0 := by
  by_cases hlt : t < 2 ^ 63
  · rw [isCharged_eq ht hlt]
    simp [hlt]
  · rw [isCharged_of_le (not_lt.mp hlt)]
    simp [hlt]

theorem isCharged_eq_true_iff (ht : 0 ≤ t) :
    isCharged t = .ok true ↔ t < 2 ^ 63 ∧ 1 ≤ minutesOf ⌊t⌋₊ := by
  by_cases hlt : t < 2 ^ 63
  · rw [isCharged_eq ht hlt]
    simp [hlt]
  · rw [isCharged_of_le (not_lt.mp hlt)]
    simp [hlt]

theorem floor_lt_sixty (ht : 0 ≤ t) : ⌊t⌋₊ < 60 ↔ t < 60 := by
  exact_mod_cast Nat.floor_lt (n := 60) ht

/-- **When the first minute, and only it, is free.**  On both sheets the free path is taken exactly
within the first 60 seconds, if and only if the time is not in the first minute of a later hour. -/
theorem cancel_is_free_iff (ht : 0 ≤ t) (sinceReached : Option ℚ) :
    ((IsFree (TripProviderDetail.cancelAlert t) ↔ t < 60) ∧
      (IsFree (ClientDetailSheet.cancelAlert t sinceReached) ↔ t < 60)) ↔
      ¬(3600 ≤ t ∧ t < 2 ^ 63 ∧ ⌊t⌋₊ % 3600 < 60) := by
  have hminute := floor_lt_sixty ht
  have hhour : ⌊t⌋₊ < 3600 ↔ t < 3600 := by exact_mod_cast Nat.floor_lt (n := 3600) ht
  have hzero : minutesOf ⌊t⌋₊ = 0 ↔ ⌊t⌋₊ % 3600 < 60 := by
    unfold minutesOf
    omega
  obtain ⟨hclient, hprovider⟩ := @isFree_iff_isCharged t sinceReached
  rw [hclient, hprovider, and_self, isCharged_eq_false_iff ht, hzero, ← hminute, ← not_lt, ← hhour]
  have hsmall : ⌊t⌋₊ < 60 → t < 2 ^ 63 := by
    intro h
    exact lt_trans (hminute.mp h) (by norm_num)
  constructor
  · rintro hfree ⟨hlong, hlt, hfirst⟩
    have hshort := hfree.mp ⟨hlt, hfirst⟩
    omega
  · intro hlater
    constructor
    · rintro ⟨hlt, hfirst⟩
      by_contra hlong
      exact hlater ⟨by omega, hlt, hfirst⟩
    · exact fun hshort => ⟨hsmall hshort, by omega⟩

/-- Half a minute after the acceptance. -/
theorem cancel_is_free_early :
    (IsFree (TripProviderDetail.cancelAlert 30) ↔ (30 : ℚ) < 60) ∧
      (IsFree (ClientDetailSheet.cancelAlert 30 none) ↔ (30 : ℚ) < 60) :=
  (cancel_is_free_iff (by norm_num) none).mpr (by norm_num)

/-- **An hour after the acceptance, the cancellation is free again.** -/
theorem cancel_is_free_after_an_hour :
    IsFree (TripProviderDetail.cancelAlert 3600) ∧
      IsFree (ClientDetailSheet.cancelAlert 3600 none) ∧ ¬(3600 : ℚ) < 60 := by
  refine ⟨isFree_iff.mpr ?_, isFree_iff.mpr ?_, by norm_num⟩
  · decide +kernel
  · decide +kernel

/-! ### The presses of the phones -/

/-- The press of the client's phone opens the reasons exactly past the first minute. -/
theorem ClientPhone.cancelRequest_eq (p : ClientPhone) (sheet : TripProviderDetail) (ht : 0 ≤ t)
    (hlt : t < 2 ^ 63) :
    (TripProviderDetail.cancelAlert t).map (fun alert =>
      if alert = some .callAtLeastOnce then p.openAlert sheet else p) =
        .ok (p.cancelRequest sheet ⌊t⌋₊) := by
  rw [TripProviderDetail.cancelAlert, isCharged_eq ht hlt, ClientPhone.cancelRequest]
  by_cases h : 1 ≤ minutesOf ⌊t⌋₊
  · simp [h, bind, Except.bind, pure, Except.pure, Except.map]
  · simp [h, bind, Except.bind, pure, Except.pure, Except.map]

/-- And so does the press of the provider's phone, if the sheet knows when it was reached. -/
theorem ProviderPhone.cancelRequest_eq (p : ProviderPhone) (j : Nat) (sheet : ClientDetailSheet)
    {reached : ℚ} (ht : 0 ≤ t) (hlt : t < 2 ^ 63) (hr : 0 ≤ reached) (hrlt : reached < 2 ^ 63) :
    (ClientDetailSheet.cancelAlert t (if j ∈ p.reached then some reached else none)).map
      (fun alert => if alert = some .callAtLeastOnce then p.openAlert sheet else p) =
        p.cancelRequest j sheet ⌊t⌋₊ ⌊reached⌋₊ := by
  rw [ClientDetailSheet.cancelAlert, isCharged_eq ht hlt, ProviderPhone.cancelRequest]
  by_cases h : 1 ≤ minutesOf ⌊t⌋₊
  · by_cases hj : j ∈ p.reached
    · have hminutes := TimeInterval.minutes_eq hr hrlt
      by_cases h₃ : 3 ≤ minutesOf ⌊reached⌋₊
      · simp [h, hj, hminutes, h₃, bind, Except.bind, pure, Except.pure, Except.map]
      · simp [h, hj, hminutes, h₃, bind, Except.bind, pure, Except.pure, Except.map]
    · simp [h, hj, bind, Except.bind, Except.map]
  · simp [h, bind, Except.bind, pure, Except.pure, Except.map]

end Press

/-! ## 3. The label -/

/-- What `timerAction` works on, the same on both sheets. -/
structure FeeTimer where
  acceptedDate : ℚ
  timerIsValid : Bool := true
  lblCancelCharges : String := ""
  deriving Repr

namespace FeeTimer

/-- `viewDidLoad` at `date`; a trip that exists already started some milliseconds ago. -/
def viewDidLoad (date : ℚ) (tripStartTime : Option Int) : FeeTimer where
  acceptedDate :=
    match tripStartTime with
    | some tripStartTime => date - (tripStartTime.tdiv 1000 : Int)
    | none => date

def chargeText : String := "$5 will be charged for cancellation."

def freeLabel : String := "Free cancellation seconds "

def freeText (seconds : Int) : String := freeLabel ++ toString seconds

/-- `timerAction` at `date`. -/
def timerAction (s : FeeTimer) (date : ℚ) : Except Trap FeeTimer := do
  let timeElapsed := date - s.acceptedDate
  let fields ← TimeInterval.stringFromTimeInterval timeElapsed
  if int? fields.2.1 = some 1 then
    return { s with timerIsValid := false, lblCancelCharges := chargeText }
  else
    let seconds ← TimeInterval.seconds timeElapsed
    return { s with lblCancelCharges := freeText (60 - seconds) }

/-- The label announces the charge exactly if the press on Cancel is charged, and otherwise shows
what is left of the first 60 seconds. -/
def LabelIsTrue (label : String) (t : ℚ) : Prop :=
  (label = chargeText ↔ isCharged t = .ok true) ∧
    (isCharged t ≠ .ok true → label = freeText (60 - ⌊t⌋))

/-- The label is true after each tick of a schedule; a timer that was invalidated does not fire. -/
def TrueAlong : List ℚ → FeeTimer → Prop
  | [], _ => True
  | date :: dates, s => s.timerIsValid = true →
    ∃ s', s.timerAction date = .ok s' ∧
      LabelIsTrue s'.lblCancelCharges (date - s.acceptedDate) ∧ TrueAlong dates s'

/-- The second minute of an hour. -/
def inSecondMinute (t : ℚ) : Bool := t < 2 ^ 63 ∧ minutesOf ⌊t⌋₊ = 1

section Tick

variable {s : FeeTimer} {date : ℚ}

theorem freeText_ne_chargeText (n : Int) : freeText n ≠ chargeText := by
  intro h
  have hhead : (freeText n).toList.head? = chargeText.toList.head? := by rw [h]
  have hfree : freeLabel.toList.head? = some 'F' := by decide +kernel
  have hcharge : chargeText.toList.head? = some '$' := by decide +kernel
  rw [freeText, String.toList_append, List.head?_append, hfree, hcharge] at hhead
  simp at hhead

theorem freeText_inj {m n : Int} (hm : InInt m) (hn : InInt n) (h : freeText m = freeText n) :
    m = n := by
  refine toString_inj hm hn ?_
  have hlist : freeLabel.toList ++ (toString m).toList =
      freeLabel.toList ++ (toString n).toList := by
    rw [← String.toList_append, ← String.toList_append]
    exact congrArg String.toList h
  exact String.toList_inj.mp ((List.append_right_inj _).mp hlist)

/-- What a tick does: it stops in a second minute, and counts on in every other. -/
theorem timerAction_eq (ht : 0 ≤ date - s.acceptedDate) (hlt : date - s.acceptedDate < 2 ^ 63) :
    s.timerAction date = .ok (
      if minutesOf ⌊date - s.acceptedDate⌋₊ = 1 then
        { s with timerIsValid := false, lblCancelCharges := chargeText }
      else { s with
        lblCancelCharges := freeText (60 - (⌊date - s.acceptedDate⌋₊ % 60 : Nat)) }) := by
  have hread : int? (TimeInterval.twoDigits (minutesOf ⌊date - s.acceptedDate⌋₊)) =
      some (minutesOf ⌊date - s.acceptedDate⌋₊ : Int) :=
    TimeInterval.int?_twoDigits (by unfold minutesOf; omega)
  unfold timerAction
  simp only [TimeInterval.stringFromTimeInterval_eq ht hlt, TimeInterval.seconds_eq ht hlt, hread,
    bind, Except.bind, pure, Except.pure, Option.some.injEq]
  by_cases h : minutesOf ⌊date - s.acceptedDate⌋₊ = 1
  · rw [if_pos (by exact_mod_cast h), if_pos h]
  · rw [if_neg (by exact_mod_cast h), if_neg h]

theorem timerAction_of_le (ht : 2 ^ 63 ≤ date - s.acceptedDate) :
    s.timerAction date = .error (.notANumber "TimeInterval") :=
  bind_eq_error.mpr (.inl (TimeInterval.stringFromTimeInterval_of_le ht))

/-- **When one label is true.** -/
theorem label_isTrue_iff (ht : 0 ≤ date - s.acceptedDate) :
    (∃ s', s.timerAction date = .ok s' ∧
      LabelIsTrue s'.lblCancelCharges (date - s.acceptedDate)) ↔
      date - s.acceptedDate < 60 ∨ inSecondMinute (date - s.acceptedDate) = true := by
  by_cases hlt : date - s.acceptedDate < 2 ^ 63
  · rw [timerAction_eq ht hlt]
    simp only [Except.ok.injEq, exists_eq_left']
    have hcharged := isCharged_eq_true_iff ht
    have hsecond : inSecondMinute (date - s.acceptedDate) = true ↔
        minutesOf ⌊date - s.acceptedDate⌋₊ = 1 := by
      simp [inSecondMinute, hlt]
    rw [hsecond, ← floor_lt_sixty ht]
    have hfloor : (⌊date - s.acceptedDate⌋₊ : Int) = ⌊date - s.acceptedDate⌋ :=
      Int.natCast_floor_eq_floor ht
    have hrange : ⌊date - s.acceptedDate⌋₊ < 2 ^ 63 := by
      rw [Nat.floor_lt ht]
      exact_mod_cast hlt
    generalize ⌊date - s.acceptedDate⌋₊ = n at *
    by_cases hone : minutesOf n = 1
    · rw [if_pos hone]
      have hyes : isCharged (date - s.acceptedDate) = .ok true :=
        hcharged.mpr ⟨hlt, hone.ge⟩
      simp [LabelIsTrue, hyes, hone]
    · rw [if_neg hone]
      rw [LabelIsTrue, ne_eq, hcharged, ← hfloor]
      simp only [freeText_ne_chargeText, false_iff, hlt, true_and]
      constructor
      · rintro ⟨hfree, hshown⟩
        have hsame : (60 : Int) - (n % 60 : Nat) = 60 - n :=
          freeText_inj ⟨by omega, by omega⟩ ⟨by omega, by omega⟩ (hshown hfree)
        left
        omega
      · intro hshort
        have hsmall : n < 60 := hshort.resolve_right hone
        refine ⟨by unfold minutesOf; omega, ?_⟩
        intro _
        rw [Nat.mod_eq_of_lt hsmall]
  · rw [timerAction_of_le (not_lt.mp hlt)]
    simp only [reduceCtorEq, false_and, exists_false, false_iff, not_or]
    refine ⟨?_, by simp [inSecondMinute, hlt]⟩
    intro hshort
    exact hlt (lt_trans hshort (by norm_num))

/-- A tick never moves the acceptance, and only one in a second minute stops the timer. -/
theorem timerAction_inv {s' : FeeTimer} (ht : 0 ≤ date - s.acceptedDate)
    (h : s.timerAction date = .ok s') :
    s'.acceptedDate = s.acceptedDate ∧
      s'.timerIsValid = (s.timerIsValid && !inSecondMinute (date - s.acceptedDate)) := by
  by_cases hlt : date - s.acceptedDate < 2 ^ 63
  · rw [timerAction_eq ht hlt, Except.ok.injEq] at h
    subst h
    by_cases hone : minutesOf ⌊date - s.acceptedDate⌋₊ = 1
    · simp [hone, inSecondMinute, hlt]
    · simp [hone, inSecondMinute]
  · rw [timerAction_of_le (not_lt.mp hlt)] at h
    exact absurd h (by simp)

theorem trueAlong_of_invalid (hs : s.timerIsValid = false) : ∀ dates, TrueAlong dates s
  | [] => trivial
  | _ :: _ => fun hvalid => absurd hvalid (by simp [hs])

/-- The labels of a schedule, by the ticks that fire. -/
theorem trueAlong_iff {dates : List ℚ} (hs : s.timerIsValid = true)
    (hdates : ∀ date ∈ dates, s.acceptedDate ≤ date) :
    TrueAlong dates s ↔
      ∀ date ∈ dates.takeWhile fun date => !inSecondMinute (date - s.acceptedDate),
        date - s.acceptedDate < 60 := by
  induction dates generalizing s with
  | nil => simp [TrueAlong]
  | cons date dates ih =>
    rw [List.forall_mem_cons] at hdates
    have ht : 0 ≤ date - s.acceptedDate := sub_nonneg.mpr hdates.1
    have hlabel := label_isTrue_iff ht
    cases hsecond : inSecondMinute (date - s.acceptedDate) with
    | true =>
      rw [List.takeWhile_cons_of_neg (by simp [hsecond])]
      simp only [List.not_mem_nil, false_imp_iff, implies_true, iff_true]
      intro _
      obtain ⟨s', hs', htrue⟩ := hlabel.mpr (.inr hsecond)
      have hstopped : s'.timerIsValid = false := by
        rw [(timerAction_inv ht hs').2, hsecond]
        simp
      exact ⟨s', hs', htrue, trueAlong_of_invalid hstopped dates⟩
    | false =>
      -- The timer goes on, from the same acceptance.
      have hrest : ∀ s', s.timerAction date = .ok s' → (TrueAlong dates s' ↔
          ∀ date ∈ dates.takeWhile fun date => !inSecondMinute (date - s.acceptedDate),
            date - s.acceptedDate < 60) := by
        intro s' hs'
        obtain ⟨hdate, hvalid⟩ := timerAction_inv ht hs'
        rw [← hdate]
        refine ih (by rw [hvalid, hs, hsecond]; rfl) ?_
        rw [hdate]
        exact hdates.2
      rw [List.takeWhile_cons_of_pos (by simp [hsecond]), List.forall_mem_cons]
      simp only [hsecond, Bool.false_eq_true, or_false] at hlabel
      rw [← hlabel]
      constructor
      · intro h
        obtain ⟨s', hs', htrue, hlater⟩ := h hs
        exact ⟨⟨s', hs', htrue⟩, (hrest s' hs').mp hlater⟩
      · rintro ⟨⟨s', hs', htrue⟩, hlater⟩ _
        exact ⟨s', hs', htrue, (hrest s' hs').mpr hlater⟩

end Tick

/-- The acceptance is never later than the opening of the sheet. -/
theorem acceptedDate_le {date : ℚ} {tripStartTime : Option Int}
    (hstart : ∀ time, tripStartTime = some time → 0 ≤ time) :
    (viewDidLoad date tripStartTime).acceptedDate ≤ date := by
  cases tripStartTime with
  | none => exact le_refl date
  | some time =>
    have htime : (0 : Int) ≤ time.tdiv 1000 := Int.tdiv_nonneg (hstart time rfl) (by decide)
    have hcast : (0 : ℚ) ≤ (time.tdiv 1000 : Int) := by exact_mod_cast htime
    exact sub_le_self date hcast

/-- **When the fee label tells the truth.**  However the ticks of a sheet are spread, and however
long ago a resumed trip was accepted, the label is true after each of them exactly if those before
the first one in a second minute all come within the first 60 seconds. -/
theorem fee_label_iff {date : ℚ} {tripStartTime : Option Int} {dates : List ℚ}
    (hstart : ∀ time, tripStartTime = some time → 0 ≤ time) (hdates : ∀ d ∈ dates, date ≤ d) :
    TrueAlong dates (viewDidLoad date tripStartTime) ↔
      ∀ d ∈ dates.takeWhile fun d =>
          !inSecondMinute (d - (viewDidLoad date tripStartTime).acceptedDate),
        d - (viewDidLoad date tripStartTime).acceptedDate < 60 :=
  trueAlong_iff rfl fun d hd => (acceptedDate_le hstart).trans (hdates d hd)

/-- A fresh trip, whose ticks around the end of the first minute come late. -/
theorem fee_label_fresh : TrueAlong [1, 119 / 2, 61] (viewDidLoad 0 none) := by
  refine (fee_label_iff (by simp) ?_).mpr ?_
  · decide +kernel
  · decide +kernel

/-- **Two minutes into a resumed trip the label counts free seconds.**  The press on Cancel is a
charged one. -/
theorem fee_label_resumed :
    ¬TrueAlong [1] (viewDidLoad 0 (some 120000)) ∧
      ((viewDidLoad 0 (some 120000)).timerAction 1).map lblCancelCharges =
        .ok "Free cancellation seconds 59" ∧
      isCharged 121 = .ok true := by
  refine ⟨?_, by decide +kernel, by decide +kernel⟩
  intro htrue
  obtain ⟨s', hs', hlabel, _⟩ := htrue rfl
  have hcharged : isCharged (1 - (viewDidLoad 0 (some 120000)).acceptedDate) = .ok true := by
    decide +kernel
  have htext : ((viewDidLoad 0 (some 120000)).timerAction 1).map lblCancelCharges =
      .ok "Free cancellation seconds 59" := by decide +kernel
  have hannounced := hlabel.1.mpr hcharged
  rw [hs'] at htext
  simp only [Except.map, Except.ok.injEq] at htext
  rw [htext] at hannounced
  exact absurd hannounced (by decide +kernel)

end FeeTimer

end WeatherAccommodation
