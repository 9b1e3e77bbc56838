/-
# The rows of the trip lists, and the earnings

`ClientTripListViewController.swift`, `ProviderTripsViewController.swift` and
`getProviderEarning` of `ProviderWalletViewController.swift`: the trips of a reply, one row for each,
and the four amounts that are shown.

An amount is read as a whole number, and shown as 0 where it is none: what is shown is what the
server billed exactly for the whole amounts of 64 bits (`amount_shown_iff`).  The fare at the end of
a trip, on the other hand, is shown as it comes.

The day of a row is that of the trip.  The time is that of another date: the timestamp is counted
from 2001, which moves no clock, but the offset of the zone is added before the formatter adds it,
and an hour and a half besides (`row_is_local_iff`).
-/
import WeatherAccommodation.Library.DateFormatter
import WeatherAccommodation.ResponseObject

namespace WeatherAccommodation

open Foundation Reactive

/-! ## 1. The date and the time -/

/-- The formatter has the zone of the device, `TimeZone.current`. -/
def dateStringFromUnixTime (dateformatter : DateFormatter) (unixTime : ℚ) : String :=
  dateformatter.dayString (.ofTimeIntervalSince1970 unixTime)

def timeStringFromUnixTime (dateformatter : DateFormatter) (unixTime : ℚ) : String :=
  let date : Date := { timeIntervalSinceReferenceDate := unixTime }
  let date1 := date.addingTimeInterval (dateformatter.secondsFromGMT + 5400)
  dateformatter.timeString date1

/-! ## 2. The lists -/

/-- The loop over the trips of a reply. -/
def appendTrips (key : String) : List Json → List TripList → Except Trap (List TripList)
  | [], tripList => .ok tripList
  | item :: items, tripList => do
    let dict ← unwrap (.badCast key) item.asDict?
    appendTrips key items (tripList ++ [TripList.ofDict dict])

/-- The completion handler of both `getTripList`. -/
def loadTrips (key : String) (tripList : List TripList) (responseObject : Option Dict) :
    Except Trap (List TripList) :=
  match responseObject with
  | none => return tripList
  | some response => do
    let items ← unwrap (.badCast key) (Dict.array? response key)
    appendTrips key items tripList

structure TripListTableCell where
  lblDate : String
  lblTime : String
  lblTripCharge : String
  /-- Shown to the provider only, as is the color. -/
  lblTripTip : Option String
  backgroundColor : Option (Nat × Nat × Nat)
  /-- Shown to the client only. -/
  rating : Option Int
  deriving DecidableEq, Repr

namespace ClientTripList

def getTripList (tripList : List TripList) (responseObject : Option Dict) :
    Except Trap (List TripList) := loadTrips "ClientTrip" tripList responseObject

def cellForRowAt (dateformatter : DateFormatter) (tripList : List TripList) (row : Nat) :
    Except Trap TripListTableCell := do
  let trip ← unwrap .indexOutOfRange tripList[row]?
  return {
    lblDate := dateStringFromUnixTime dateformatter trip.tripTimestamp
    lblTime := timeStringFromUnixTime dateformatter trip.tripTimestamp
    lblTripCharge := "Charge: $ " ++ toString trip.totalTripAmount
    lblTripTip := none
    backgroundColor := none
    rating := some trip.starRatings }

end ClientTripList

namespace ProviderTrips

def getTripList (tripList : List TripList) (responseObject : Option Dict) :
    Except Trap (List TripList) := loadTrips "ProviderTripHistoryList" tripList responseObject

def arrColors : List (Nat × Nat × Nat) :=
  [(125, 104, 148), (96, 124, 183), (168, 101, 102), (33, 33, 33)]

def cellForRowAt (dateformatter : DateFormatter) (tripList : List TripList) (row : Nat) :
    Except Trap TripListTableCell := do
  let trip ← unwrap .indexOutOfRange tripList[row]?
  let color ← unwrap .indexOutOfRange arrColors[row % arrColors.length]?
  return {
    lblDate := dateStringFromUnixTime dateformatter trip.tripTimestamp
    lblTime := timeStringFromUnixTime dateformatter trip.tripTimestamp
    lblTripCharge := "Charge: $ " ++ toString trip.tripCharges
    lblTripTip := some ("Tip: $ " ++ toString trip.tipAmount)
    backgroundColor := some color
    rating := none }

end ProviderTrips

/-- The completion handler of `getProviderEarning`. -/
def ProviderWallet.getProviderEarning (lblEarning : String) (responseObject : Option Dict) :
    String :=
  match responseObject with
  | none => lblEarning
  | some response => "$ " ++ toString ((Dict.int? response "TotalTripCharges").getD 0)

/-- A list is loaded exactly if its entries are dictionaries, and then it has a trip for each. -/
theorem appendTrips_eq_ok {key : String} {items : List Json} {tripList after : List TripList} :
    appendTrips key items tripList = .ok after ↔
      ∃ dicts : List Dict, items = dicts.map .obj ∧ after = tripList ++ dicts.map .ofDict := by
  induction items generalizing tripList with
  | nil =>
    simp only [appendTrips, Except.ok.injEq]
    constructor
    · rintro rfl
      exact ⟨[], rfl, by simp⟩
    · rintro ⟨dicts, hitems, rfl⟩
      obtain rfl : dicts = [] := List.map_eq_nil_iff.mp hitems.symm
      simp
  | cons item items ih =>
    simp only [appendTrips, bind_eq_ok, unwrap_eq_ok, ih]
    constructor
    · rintro ⟨dict, hitem, dicts, rfl, rfl⟩
      obtain rfl : item = .obj dict := Json.asDict?_eq_some.mp hitem
      exact ⟨dict :: dicts, rfl, by simp⟩
    · rintro ⟨dicts, hitems, rfl⟩
      cases dicts with
      | nil => exact absurd hitems (by simp)
      | cons dict dicts =>
        obtain ⟨rfl, rfl⟩ := List.cons.inj hitems
        exact ⟨dict, rfl, dicts, rfl, by simp⟩

/-- Entry `row` of the list under `key`. -/
def HasEntry (response : Dict) (key : String) (row : Nat) (dict : Dict) : Prop :=
  ∃ items, Dict.array? response key = some items ∧ items[row]? = some (.obj dict)

/-- The trips of a reply are in the order of its entries. -/
theorem getElem?_of_loadTrips {key : String} {response dict : Dict} {tripList : List TripList}
    {row : Nat} (loaded : loadTrips key [] (some response) = .ok tripList)
    (entry : HasEntry response key row dict) : tripList[row]? = some (.ofDict dict) := by
  obtain ⟨items, hitems, hrow⟩ := entry
  simp only [loadTrips, bind_eq_ok, unwrap_eq_ok, hitems, Option.some.injEq] at loaded
  obtain ⟨_, rfl, happend⟩ := loaded
  obtain ⟨dicts, rfl, rfl⟩ := appendTrips_eq_ok.mp happend
  rw [List.getElem?_map, Option.map_eq_some_iff] at hrow
  obtain ⟨dict', hdict, hsame⟩ := hrow
  obtain rfl : dict' = dict := Json.obj.inj hsame
  simp [hdict]

section Rows

variable {f : DateFormatter} {tripList : List TripList} {row : Nat} {trip : TripList}
  {cell : TripListTableCell}

/-- **What the client's row shows.**  Every row of the list is shown. -/
theorem ClientTripList.cellForRowAt_eq_ok (htrip : tripList[row]? = some trip) :
    ClientTripList.cellForRowAt f tripList row = .ok {
      lblDate := dateStringFromUnixTime f trip.tripTimestamp
      lblTime := timeStringFromUnixTime f trip.tripTimestamp
      lblTripCharge := "Charge: $ " ++ toString trip.totalTripAmount
      lblTripTip := none
      backgroundColor := none
      rating := some trip.starRatings } := by
  simp [cellForRowAt, htrip]

/-- **What the provider's row shows.**  So is every row of this one. -/
theorem ProviderTrips.cellForRowAt_eq_ok (htrip : tripList[row]? = some trip) :
    ∃ color, ProviderTrips.cellForRowAt f tripList row = .ok {
      lblDate := dateStringFromUnixTime f trip.tripTimestamp
      lblTime := timeStringFromUnixTime f trip.tripTimestamp
      lblTripCharge := "Charge: $ " ++ toString trip.tripCharges
      lblTripTip := some ("Tip: $ " ++ toString trip.tipAmount)
      backgroundColor := some color
      rating := none } := by
  have hcolor : row % arrColors.length < arrColors.length := Nat.mod_lt _ (by decide)
  refine ⟨arrColors[row % arrColors.length], ?_⟩
  simp [cellForRowAt, htrip, List.getElem?_eq_getElem hcolor]

end Rows

/-! ## 3. The amounts -/

/-- The labels that show an amount. -/
inductive AmountLabel where
  | clientCharge
  | providerCharge
  | providerTip
  | earning
  deriving DecidableEq, Repr

/-- The key of the amount. -/
def AmountLabel.key : AmountLabel → String
  | .clientCharge => "TotalTripAmount"
  | .providerCharge => "TripCharges"
  | .providerTip => "TipAmount"
  | .earning => "TotalTripCharges"

/-- What stands before it. -/
def AmountLabel.caption : AmountLabel → String
  | .clientCharge => "Charge: $ "
  | .providerCharge => "Charge: $ "
  | .providerTip => "Tip: $ "
  | .earning => "$ "

/-- After the reply `response` the label shows this text, for the amount that is in `dict`. -/
inductive Displays (f : DateFormatter) (response : Dict) : AmountLabel → Dict → String → Prop
  | clientCharge {tripList : List TripList} {row : Nat} {dict : Dict} {cell : TripListTableCell}
      (loaded : ClientTripList.getTripList [] (some response) = .ok tripList)
      (entry : HasEntry response "ClientTrip" row dict)
      (shown : ClientTripList.cellForRowAt f tripList row = .ok cell) :
      Displays f response .clientCharge dict cell.lblTripCharge
  | providerCharge {tripList : List TripList} {row : Nat} {dict : Dict} {cell : TripListTableCell}
      (loaded : ProviderTrips.getTripList [] (some response) = .ok tripList)
      (entry : HasEntry response "ProviderTripHistoryList" row dict)
      (shown : ProviderTrips.cellForRowAt f tripList row = .ok cell) :
      Displays f response .providerCharge dict cell.lblTripCharge
  | providerTip {tripList : List TripList} {row : Nat} {dict : Dict} {cell : TripListTableCell}
      {lblTripTip : String} (loaded : ProviderTrips.getTripList [] (some response) = .ok tripList)
      (entry : HasEntry response "ProviderTripHistoryList" row dict)
      (shown : ProviderTrips.cellForRowAt f tripList row = .ok cell)
      (tip : cell.lblTripTip = some lblTripTip) :
      Displays f response .providerTip dict lblTripTip
  | earning (lblEarning : String) : Displays f response .earning response
      (ProviderWallet.getProviderEarning lblEarning (some response))

/-- The text denotes the amount. -/
def Denotes (caption label : String) (amount : ℚ) : Prop :=
  ∃ text, label = caption ++ text ∧ number? text = some amount

section Amounts

variable {f : DateFormatter} {response dict : Dict} {a : AmountLabel} {label : String}

/-- All four labels read their amount the same way. -/
theorem Displays.label_eq (h : Displays f response a dict label) :
    label = a.caption ++ toString ((Dict.int? dict a.key).getD 0) := by
  cases h with
  | clientCharge loaded entry shown =>
    rw [ClientTripList.cellForRowAt_eq_ok (getElem?_of_loadTrips loaded entry)] at shown
    obtain rfl := Except.ok.inj shown
    rfl
  | providerCharge loaded entry shown =>
    obtain ⟨color, hcell⟩ :=
      ProviderTrips.cellForRowAt_eq_ok (f := f) (getElem?_of_loadTrips loaded entry)
    obtain rfl := Except.ok.inj (hcell.symm.trans shown)
    rfl
  | providerTip loaded entry shown tip =>
    obtain ⟨color, hcell⟩ :=
      ProviderTrips.cellForRowAt_eq_ok (f := f) (getElem?_of_loadTrips loaded entry)
    obtain rfl := Except.ok.inj (hcell.symm.trans shown)
    exact (Option.some.inj tip).symm
  | earning lblEarning => rfl

/-- Every trip of a list of dictionaries has its row, with every amount of it. -/
theorem displays_of_mem {dicts : List Dict} (hdict : dict ∈ dicts) :
    (Dict.array? response "ClientTrip" = some (dicts.map .obj) →
        Displays f response .clientCharge dict
          ("Charge: $ " ++ toString ((Dict.int? dict "TotalTripAmount").getD 0))) ∧
      (Dict.array? response "ProviderTripHistoryList" = some (dicts.map .obj) →
        Displays f response .providerCharge dict
            ("Charge: $ " ++ toString ((Dict.int? dict "TripCharges").getD 0)) ∧
          Displays f response .providerTip dict
            ("Tip: $ " ++ toString ((Dict.int? dict "TipAmount").getD 0))) := by
  obtain ⟨row, hrow⟩ := List.mem_iff_getElem?.mp hdict
  have hentry : (dicts.map Json.obj)[row]? = some (.obj dict) := by simp [hrow]
  have hload : ∀ key, Dict.array? response key = some (dicts.map .obj) →
      loadTrips key [] (some response) = .ok (dicts.map .ofDict) := by
    intro key hkey
    simp only [loadTrips, bind_eq_ok, unwrap_eq_ok]
    exact ⟨_, hkey, appendTrips_eq_ok.mpr ⟨dicts, rfl, rfl⟩⟩
  constructor
  · intro hkey
    have entry : HasEntry response "ClientTrip" row dict := ⟨_, hkey, hentry⟩
    exact .clientCharge (hload _ hkey) entry
      (ClientTripList.cellForRowAt_eq_ok (getElem?_of_loadTrips (hload _ hkey) entry))
  · intro hkey
    have entry : HasEntry response "ProviderTripHistoryList" row dict := ⟨_, hkey, hentry⟩
    obtain ⟨color, hcell⟩ :=
      ProviderTrips.cellForRowAt_eq_ok (f := f) (getElem?_of_loadTrips (hload _ hkey) entry)
    exact ⟨.providerCharge (hload _ hkey) entry hcell, .providerTip (hload _ hkey) entry hcell rfl⟩

/-- A whole number denotes itself, and nothing else. -/
theorem denotes_toString_iff {caption : String} {n : Int} (hn : InInt n) {amount : ℚ} :
    Denotes caption (caption ++ toString n) amount ↔ amount = n := by
  have hread : number? (toString n) = some (n : ℚ) := number?_of_int? (int?_toString hn)
  constructor
  · rintro ⟨text, htext, hamount⟩
    obtain rfl : toString n = text := (String.append_right_inj _).mp htext
    exact Option.some.inj (hamount.symm.trans hread)
  · rintro rfl
    exact ⟨toString n, rfl, hread⟩

/-- **An amount is shown as billed exactly if it is a whole number of 64 bits.** -/
theorem amount_shown_iff {amount : ℚ} (h : Displays f response a dict label)
    (hamount : Dict.get? dict a.key = some (.num amount)) :
    Denotes a.caption label amount ↔ amount.den = 1 ∧ InInt amount.num := by
  have hread : Dict.int? dict a.key =
      if amount.den = 1 ∧ InInt amount.num then some amount.num else none := by
    simp [Dict.int?, hamount, Json.asInt?]
  rw [h.label_eq, hread]
  split
  · rename_i hwhole
    simp only [Option.getD_some, denotes_toString_iff hwhole.2, hwhole, and_self, iff_true]
    exact (Rat.den_eq_one_iff amount).mp hwhole.1 |>.symm
  · rename_i hwhole
    simp only [Option.getD_none, denotes_toString_iff (by decide : InInt 0), hwhole, iff_false]
    rintro rfl
    exact hwhole (by decide)

/-- Twelve dollars earned. -/
theorem twelve_dollars_shown : Denotes "$ " "$ 12" 12 := by
  have h : Displays ⟨.english, 0⟩ [("TotalTripCharges", .num 12)] .earning
      [("TotalTripCharges", .num 12)] "$ 12" := .earning ""
  exact (amount_shown_iff h rfl).mpr (by decide)

/-- A trip of twelve dollars and a half, with a tip of as much. -/
def halfDollarTrip : Dict :=
  [("TotalTripAmount", .num 12.5), ("TripCharges", .num 12.5), ("TipAmount", .num 12.5)]

/-- It is in both lists, and in the earnings. -/
def halfDollarReply : Dict :=
  [("ClientTrip", .arr [.obj halfDollarTrip]),
    ("ProviderTripHistoryList", .arr [.obj halfDollarTrip]), ("TotalTripCharges", .num 12.5)]

/-- All four labels show it as nothing. -/
theorem cents_shown_as_zero :
    (Displays ⟨.english, 0⟩ halfDollarReply .clientCharge halfDollarTrip "Charge: $ 0" ∧
        ¬Denotes "Charge: $ " "Charge: $ 0" 12.5) ∧
      (Displays ⟨.english, 0⟩ halfDollarReply .providerCharge halfDollarTrip "Charge: $ 0" ∧
        ¬Denotes "Charge: $ " "Charge: $ 0" 12.5) ∧
      (Displays ⟨.english, 0⟩ halfDollarReply .providerTip halfDollarTrip "Tip: $ 0" ∧
        ¬Denotes "Tip: $ " "Tip: $ 0" 12.5) ∧
      (Displays ⟨.english, 0⟩ halfDollarReply .earning halfDollarReply "$ 0" ∧
        ¬Denotes "$ " "$ 0" 12.5) := by
  have hzero : ∀ caption, ¬Denotes caption (caption ++ toString (0 : Int)) 12.5 := by
    intro caption hdenotes
    have hwhole : (12.5 : ℚ) = (0 : Int) := (denotes_toString_iff (by decide)).mp hdenotes
    exact absurd hwhole (by norm_num)
  have hrows : halfDollarTrip ∈ [halfDollarTrip] := List.mem_singleton.mpr rfl
  have hclients : Dict.array? halfDollarReply "ClientTrip" = some ([halfDollarTrip].map .obj) := rfl
  have hproviders : Dict.array? halfDollarReply "ProviderTripHistoryList" =
      some ([halfDollarTrip].map .obj) := rfl
  have hnone : ∀ key ∈ ["TotalTripAmount", "TripCharges", "TipAmount"],
      toString ((Dict.int? halfDollarTrip key).getD 0) = toString (0 : Int) := by decide +kernel
  have hearning : ProviderWallet.getProviderEarning "" (some halfDollarReply) = "$ 0" := by
    decide +kernel
  refine ⟨⟨?_, hzero _⟩, ⟨?_, hzero _⟩, ⟨?_, hzero _⟩, hearning ▸ .earning "", hzero _⟩
  · have hcharge := (@displays_of_mem ⟨.english, 0⟩ _ _ _ hrows).1 hclients
    rwa [hnone _ (by simp)] at hcharge
  · have hcharge := ((@displays_of_mem ⟨.english, 0⟩ _ _ _ hrows).2 hproviders).1
    rwa [hnone _ (by simp)] at hcharge
  · have htip := ((@displays_of_mem ⟨.english, 0⟩ _ _ _ hrows).2 hproviders).2
    rwa [hnone _ (by simp)] at htip

end Amounts

/-! ## 4. The date and the time of a row -/

/-- A row of either list. -/
inductive ShowsRow (f : DateFormatter) (tripList : List TripList) (row : Nat)
    (cell : TripListTableCell) : Prop
  | client (h : ClientTripList.cellForRowAt f tripList row = .ok cell)
  | provider (h : ProviderTrips.cellForRowAt f tripList row = .ok cell)

/-- The date and the time are those that the clocks of the device showed at the timestamp. -/
def IsLocal (f : DateFormatter) (unixTime : ℚ) (cell : TripListTableCell) : Prop :=
  cell.lblDate = f.localDay unixTime ∧ cell.lblTime = f.localTime unixTime

/-- An hour and a half on top of the offset is nothing to the clock: whole days, up to what is left
of the minute that is running. -/
def OffsetIsUnseen (secondsFromGMT : ℤ) (unixTime : ℚ) : Prop :=
  let running := secondOfMinute (unixTime + secondsFromGMT)
  let moved : ℚ := ((secondsFromGMT + 5400) % 86400 : ℤ)
  running + moved < 60 ∨ 86400 ≤ running + moved

section Times

variable {f : DateFormatter} {tripList : List TripList} {row : Nat} {trip : TripList}
  {cell : TripListTableCell}

theorem dateStringFromUnixTime_eq (f : DateFormatter) (unixTime : ℚ) :
    dateStringFromUnixTime f unixTime = f.localDay unixTime := by
  simp [dateStringFromUnixTime, DateFormatter.dayString]

/-- The reference date is some days after 1970, which no clock shows. -/
theorem timeStringFromUnixTime_eq (f : DateFormatter) (unixTime : ℚ) :
    timeStringFromUnixTime f unixTime = f.localTime (unixTime + (f.secondsFromGMT + 5400 : ℤ)) := by
  have hdays : (({ timeIntervalSinceReferenceDate := unixTime } : Date).addingTimeInterval
      (f.secondsFromGMT + 5400)).timeIntervalSince1970 + f.secondsFromGMT =
      unixTime + (f.secondsFromGMT + 5400 : ℤ) + f.secondsFromGMT + 86400 * (11323 : ℤ) := by
    simp only [Date.timeIntervalSince1970, Date.addingTimeInterval,
      Date.timeIntervalBetween1970AndReferenceDate]
    push_cast
    ring
  rw [timeStringFromUnixTime, DateFormatter.timeString, DateFormatter.localTime_eq_iff, hdays,
    minuteOfDay_add_days]

/-- Both rows show the date and the time of their trip the same way. -/
theorem ShowsRow.labels (hcell : ShowsRow f tripList row cell)
    (htrip : tripList[row]? = some trip) :
    cell.lblDate = dateStringFromUnixTime f trip.tripTimestamp ∧
      cell.lblTime = timeStringFromUnixTime f trip.tripTimestamp := by
  cases hcell with
  | client h =>
    rw [ClientTripList.cellForRowAt_eq_ok htrip] at h
    obtain rfl := Except.ok.inj h
    exact ⟨rfl, rfl⟩
  | provider h =>
    obtain ⟨color, hcell⟩ := ProviderTrips.cellForRowAt_eq_ok (f := f) htrip
    obtain rfl := Except.ok.inj (hcell.symm.trans h)
    exact ⟨rfl, rfl⟩

/-- **The date of a row is right; its time is exactly where the offset is unseen.** -/
theorem row_is_local_iff (hcell : ShowsRow f tripList row cell)
    (htrip : tripList[row]? = some trip) :
    IsLocal f trip.tripTimestamp cell ↔ OffsetIsUnseen f.secondsFromGMT trip.tripTimestamp := by
  obtain ⟨hdate, htime⟩ := hcell.labels htrip
  have hmoved : trip.tripTimestamp + (f.secondsFromGMT + 5400 : ℤ) + f.secondsFromGMT =
      trip.tripTimestamp + f.secondsFromGMT + (f.secondsFromGMT + 5400 : ℤ) := by ring
  rw [IsLocal, hdate, htime, dateStringFromUnixTime_eq, timeStringFromUnixTime_eq,
    DateFormatter.localTime_eq_iff, hmoved, minuteOfDay_add_eq_iff]
  exact and_iff_right rfl

/-- A zone an hour and a half west of Greenwich, at four in the morning of a day in November 2019. -/
theorem row_is_local_west : ∃ cell,
    ShowsRow ⟨.english, -5400⟩ [.ofDict [("TripTimestamp", .num 1575000000)]] 0 cell ∧
      IsLocal ⟨.english, -5400⟩ 1575000000 cell := by
  have htrip : ([.ofDict [("TripTimestamp", .num 1575000000)]] : List TripList)[0]? =
      some (.ofDict [("TripTimestamp", .num 1575000000)]) := rfl
  have hcell := ShowsRow.client (@ClientTripList.cellForRowAt_eq_ok ⟨.english, -5400⟩ _ _ _ htrip)
  exact ⟨_, hcell, (row_is_local_iff hcell htrip).mpr (by unfold OffsetIsUnseen; decide +kernel)⟩

/-- The same moment five hours west of Greenwich, at eleven at night: the row says half past
seven. -/
theorem row_shows_half_past_seven : ∃ cell,
    ClientTripList.cellForRowAt ⟨.english, -18000⟩ [.ofDict [("TripTimestamp", .num 1575000000)]] 0 =
        .ok cell ∧
      cell.lblDate = "28/11/2019" ∧ cell.lblTime = "07:30 PM" ∧
      DateFormatter.localDay ⟨.english, -18000⟩ 1575000000 = "28/11/2019" ∧
      DateFormatter.localTime ⟨.english, -18000⟩ 1575000000 = "11:00 PM" ∧
      ¬IsLocal ⟨.english, -18000⟩ 1575000000 cell := by
  have htime : DateFormatter.localTime ⟨.english, -18000⟩ 1575000000 = "11:00 PM" := by
    decide +kernel
  refine ⟨_, rfl, by decide +kernel, by decide +kernel, by decide +kernel, htime, fun hlocal => ?_⟩
  exact absurd (hlocal.2.trans htime) (by decide +kernel)

/-- Zones are whole minutes away from Greenwich: then it is one zone, an hour and a half to the
west, up to whole days. -/
theorem offsetIsUnseen_minutes_iff {minutes : ℤ} {unixTime : ℚ} :
    OffsetIsUnseen (60 * minutes) unixTime ↔ 1440 ∣ minutes + 90 := by
  have hmoved : 60 * minutes + 5400 = 60 * (minutes + 90) := by ring
  rw [OffsetIsUnseen, ← minuteOfDay_add_eq_iff, hmoved, minuteOfDay_add_minutes_eq_iff]

end Times

end WeatherAccommodation
