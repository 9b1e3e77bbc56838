/-
# Dates, and the texts a formatter makes of them

A `Date` is kept as the seconds since the reference date, the first of January 2001.  Made from the
seconds since 1970 it is an earlier date than made from the same seconds since the reference date,
by 11323 days to the second.  A `DateFormatter` adds the offset of its time zone and writes what the
clocks of the zone show: the day with `dd/MM/yyyy`, the time with `hh:mm a`.  Seconds are exact.

What a locale makes of a day and of a time is left to it, but for one thing: different minutes of a
day are written differently.  `Locale.english` is a locale.

Moving a clock by some seconds changes the minute it shows unless they are whole days, up to what is
left of the running minute (`minuteOfDay_add_eq_iff`); and whole minutes do unless they are whole
days (`minuteOfDay_add_minutes_eq_iff`).
-/
import Mathlib.Algebra.Order.Floor.Ring
import Mathlib.Data.Rat.Floor
import Mathlib.Data.Set.Function
import Mathlib.Tactic.Linarith
import Mathlib.Tactic.NormNum
import WeatherAccommodation.Library.Numeral

namespace Foundation

open Std.Time (PlainDate)

/-! ## 1. Dates -/

structure Date where
  timeIntervalSinceReferenceDate : ℚ
  deriving DecidableEq, Repr

namespace Date

/-- The seconds from 1970 to the reference date. -/
def timeIntervalBetween1970AndReferenceDate : ℚ := 978307200

/-- `Date(timeIntervalSince1970:)` -/
def ofTimeIntervalSince1970 (seconds : ℚ) : Date :=
  ⟨seconds - timeIntervalBetween1970AndReferenceDate⟩

def timeIntervalSince1970 (date : Date) : ℚ :=
  date.timeIntervalSinceReferenceDate + timeIntervalBetween1970AndReferenceDate

def addingTimeInterval (date : Date) (seconds : ℚ) : Date :=
  ⟨date.timeIntervalSinceReferenceDate + seconds⟩

@[simp] theorem timeIntervalSince1970_of (seconds : ℚ) :
    (ofTimeIntervalSince1970 seconds).timeIntervalSince1970 = seconds := by
  simp [ofTimeIntervalSince1970, timeIntervalSince1970]

end Date

/-! ## 2. What a clock shows -/

/-- The day, counted from the first of January 1970, of a clock that started then. -/
def dayOf (seconds : ℚ) : ℤ := ⌊seconds / 86400⌋

/-- The minute of the day. -/
def minuteOfDay (seconds : ℚ) : ℤ := ⌊seconds / 60⌋ % 1440

/-- How long the minute has been running. -/
def secondOfMinute (seconds : ℚ) : ℚ := seconds - 60 * ⌊seconds / 60⌋

/-- The minutes there are in a day. -/
def minutesOfDay : Set ℤ := { minute | 0 ≤ minute ∧ minute < 1440 }

theorem minuteOfDay_mem (seconds : ℚ) : minuteOfDay seconds ∈ minutesOfDay :=
  ⟨Int.emod_nonneg _ (by decide), Int.emod_lt_of_pos _ (by decide)⟩

theorem secondOfMinute_nonneg (seconds : ℚ) : 0 ≤ secondOfMinute seconds := by
  have h : (⌊seconds / 60⌋ : ℚ) ≤ seconds / 60 := Int.floor_le _
  unfold secondOfMinute
  linarith

theorem secondOfMinute_lt (seconds : ℚ) : secondOfMinute seconds < 60 := by
  have h : seconds / 60 < ⌊seconds / 60⌋ + 1 := Int.lt_floor_add_one _
  unfold secondOfMinute
  linarith

/-- Whole days leave the clock as it is. -/
theorem minuteOfDay_add_days (seconds : ℚ) (days : ℤ) :
    minuteOfDay (seconds + 86400 * days) = minuteOfDay seconds := by
  have hsplit : (seconds + 86400 * days) / 60 = seconds / 60 + ((1440 * days : ℤ) : ℚ) := by
    push_cast
    ring
  rw [minuteOfDay, hsplit, Int.floor_add_intCast, Int.add_mul_emod_self_left, minuteOfDay]

/-- The clock of the running minute, moved. -/
theorem floor_add_div (seconds moved : ℚ) :
    ⌊(seconds + moved) / 60⌋ = ⌊seconds / 60⌋ + ⌊(secondOfMinute seconds + moved) / 60⌋ := by
  have hsplit : (seconds + moved) / 60 =
      (secondOfMinute seconds + moved) / 60 + (⌊seconds / 60⌋ : ℤ) := by
    unfold secondOfMinute
    ring
  rw [hsplit, Int.floor_add_intCast, add_comm]

/-- **When a clock that is moved shows the same minute.** -/
theorem minuteOfDay_add_eq_iff (seconds : ℚ) (moved : ℤ) :
    minuteOfDay (seconds + moved) = minuteOfDay seconds ↔
      secondOfMinute seconds + (moved % 86400 : ℤ) < 60 ∨
        86400 ≤ secondOfMinute seconds + (moved % 86400 : ℤ) := by
  -- whole days do not count
  have hmoved : (moved : ℚ) = (moved % 86400 : ℤ) + 86400 * (moved / 86400 : ℤ) := by
    have h : moved % 86400 + 86400 * (moved / 86400) = moved := Int.emod_add_mul_ediv moved 86400
    exact_mod_cast h.symm
  rw [hmoved, ← add_assoc, minuteOfDay_add_days]
  obtain ⟨rest, hrest⟩ : ∃ rest : ℤ, rest = moved % 86400 := ⟨_, rfl⟩
  have hrest₀ : 0 ≤ rest := by omega
  have hrest₁ : rest < 86400 := by omega
  rw [← hrest, minuteOfDay, minuteOfDay, floor_add_div]
  have h₀ : (0 : ℚ) ≤ (rest : ℚ) := by exact_mod_cast hrest₀
  have h₁ : (rest : ℚ) < 86400 := by exact_mod_cast hrest₁
  have hs₀ := secondOfMinute_nonneg seconds
  have hs₁ := secondOfMinute_lt seconds
  -- the minutes the running one is moved by: none or up to a whole day
  have hlower : 0 ≤ ⌊(secondOfMinute seconds + rest) / 60⌋ := Int.floor_nonneg.mpr (by linarith)
  have hupper : ⌊(secondOfMinute seconds + rest) / 60⌋ < 1441 :=
    Int.floor_lt.mpr (by push_cast; linarith)
  have hnone : ⌊(secondOfMinute seconds + rest) / 60⌋ < 1 ↔ secondOfMinute seconds + rest < 60 := by
    rw [Int.floor_lt]
    push_cast
    constructor
    · intro h
      linarith
    · intro h
      linarith
  have hday : 1440 ≤ ⌊(secondOfMinute seconds + rest) / 60⌋ ↔
      86400 ≤ secondOfMinute seconds + rest := by
    rw [Int.le_floor]
    push_cast
    constructor
    · intro h
      linarith
    · intro h
      linarith
  rw [← hnone, ← hday]
  omega

/-- **Whole minutes move it unless they are whole days.** -/
theorem minuteOfDay_add_minutes_eq_iff (seconds : ℚ) (minutes : ℤ) :
    minuteOfDay (seconds + (60 * minutes : ℤ)) = minuteOfDay seconds ↔ 1440 ∣ minutes := by
  have hsplit : (seconds + (60 * minutes : ℤ)) / 60 = seconds / 60 + (minutes : ℤ) := by
    push_cast
    ring
  rw [minuteOfDay, minuteOfDay, hsplit, Int.floor_add_intCast]
  omega

/-! ## 3. Formatters -/

/-- What a locale makes of the two formats. -/
structure Locale where
  ddMMyyyy : PlainDate → String
  /-- `hh:mm a`, for a minute of the day. -/
  hhmma : ℤ → String
  /-- Different minutes are written differently. -/
  hhmma_injOn : Set.InjOn hhmma minutesOfDay

structure DateFormatter where
  locale : Locale
  /-- The offset of the time zone. -/
  secondsFromGMT : ℤ

namespace DateFormatter

variable (f : DateFormatter)

/-- The day the clocks of the zone show so many seconds after the beginning of 1970. -/
def localDay (seconds : ℚ) : String :=
  f.locale.ddMMyyyy (PlainDate.ofEpochDay (.ofInt (dayOf (seconds + f.secondsFromGMT))))

/-- The time they show. -/
def localTime (seconds : ℚ) : String :=
  f.locale.hhmma (minuteOfDay (seconds + f.secondsFromGMT))

/-- `string(from:)` with `dd/MM/yyyy`. -/
def dayString (date : Date) : String := f.localDay date.timeIntervalSince1970

/-- `string(from:)` with `hh:mm a`. -/
def timeString (date : Date) : String := f.localTime date.timeIntervalSince1970

variable {f}

/-- The texts are the same exactly if the minutes are. -/
theorem localTime_eq_iff {a b : ℚ} : f.localTime a = f.localTime b ↔
    minuteOfDay (a + f.secondsFromGMT) = minuteOfDay (b + f.secondsFromGMT) :=
  f.locale.hhmma_injOn.eq_iff (minuteOfDay_mem _) (minuteOfDay_mem _)

end DateFormatter

/-! ## 4. A locale -/

/-- The digits of a number, with zeros in front up to this many. -/
def paddedDigits (width n : ℕ) : List Char := (Nat.toDigits 10 n).leftpad width '0'

theorem digits?_paddedDigits (width n : ℕ) : digits? (paddedDigits width n) = some n :=
  digits?_replicate_append _ n

theorem length_paddedDigits_two : ∀ n < 60, (paddedDigits 2 n).length = 2 := by decide

/-- Two digits are followed by the same exactly if they are of one number. -/
theorem paddedDigits_append_inj {m n : ℕ} {cs ds : List Char} (hm : m < 60) (hn : n < 60)
    (h : paddedDigits 2 m ++ cs = paddedDigits 2 n ++ ds) : m = n ∧ cs = ds := by
  have hlen : (paddedDigits 2 m).length = (paddedDigits 2 n).length := by
    rw [length_paddedDigits_two m hm, length_paddedDigits_two n hn]
  obtain ⟨hdigits, hrest⟩ := List.append_inj h hlen
  have hread : some m = some n := by rw [← digits?_paddedDigits 2 m, hdigits, digits?_paddedDigits]
  exact ⟨Option.some.inj hread, hrest⟩

namespace Locale

/-- The hours of a clock with twelve of them. -/
def hourOfTwelve (hour : ℕ) : ℕ := if hour % 12 = 0 then 12 else hour % 12

/-- `hh:mm a` in English. -/
def englishTime (minute : ℤ) : List Char :=
  let hour := (minute / 60).toNat
  paddedDigits 2 (hourOfTwelve hour) ++ (':' :: (paddedDigits 2 (minute % 60).toNat ++
    (if hour < 12 then [' ', 'A', 'M'] else [' ', 'P', 'M'])))

theorem englishTime_injOn : Set.InjOn englishTime minutesOfDay := by
  rintro a ⟨ha₀, ha₁⟩ b ⟨hb₀, hb₁⟩ h
  have hsmall : ∀ hour, hourOfTwelve hour < 60 := by
    intro hour
    unfold hourOfTwelve
    split
    · omega
    · omega
  obtain ⟨hhours, hrest⟩ := paddedDigits_append_inj (hsmall _) (hsmall _) h
  obtain ⟨hminutes, hhalf⟩ :=
    paddedDigits_append_inj (by omega) (by omega) (List.cons.inj hrest).2
  have hsame : (a / 60).toNat < 12 ↔ (b / 60).toNat < 12 := by
    split at hhalf
    · rename_i hmorning
      split at hhalf
      · rename_i hmorning'
        exact ⟨fun _ => hmorning', fun _ => hmorning⟩
      · exact absurd hhalf (by decide)
    · rename_i hmorning
      split at hhalf
      · exact absurd hhalf (by decide)
      · rename_i hmorning'
        exact ⟨fun h => absurd h hmorning, fun h => absurd h hmorning'⟩
  unfold hourOfTwelve at hhours
  split at hhours
  · split at hhours
    · omega
    · omega
  · split at hhours
    · omega
    · omega

/-- `dd/MM/yyyy` in English; years are counted from the beginning of their era. -/
def englishDay (date : PlainDate) : List Char :=
  let year := if 0 < date.year.toInt then date.year.toInt else 1 - date.year.toInt
  paddedDigits 2 date.day.toInt.toNat ++ ('/' :: (paddedDigits 2 date.month.toInt.toNat ++
    ('/' :: paddedDigits 4 year.toNat)))

/-- English, with the Gregorian calendar. -/
def english : Locale where
  ddMMyyyy date := String.ofList (englishDay date)
  hhmma minute := String.ofList (englishTime minute)
  hhmma_injOn _ ha _ hb h := englishTime_injOn ha hb (String.ofList_inj.mp h)

end Locale

end Foundation
