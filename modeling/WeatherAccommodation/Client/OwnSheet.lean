/-
# Whose trip a sheet shows

An acceptance overwrites `currentRequest` and asks for a travel time.  The completion handler has
the message captured, and names its provider on the map; but the sheet it opens is filled from
`currentRequest`, as it is by then.  So of two acceptances that are both on the way, the first to be
answered has a sheet for the trip that was accepted second.  The other opens none while that sheet
is up.

* `own_sheets_iff`: every sheet is its message's own exactly if each travel time that is answered
  while nothing is over the dashboard belongs to the trip the dashboard took up last.
* `overtaken_sheet`: two providers accept, and the first answer opens the sheet of the second.

The travel time itself is never mistaken, nor is a second sheet opened for one message.
-/
import WeatherAccommodation.Client.Acceptance

namespace WeatherAccommodation

open Foundation Reactive

namespace ClientSession

variable {distance : CLLocation → CLLocation → ℚ} {s t : ClientSession} {e : ClientEvent}

/-! ## 1. The messages behind the calls -/

/-- What the sheet reads of the provider and of the trip. -/
def sheetKeys : List String :=
  ["ProviderId", "ProviderName", "ProviderProfileImg", "ProviderMobileNumber", "TripId",
    "VerificationCode"]

/-- The two dictionaries are about one trip of one provider. -/
def SameTrip (a b : Dict) : Prop := ∀ key ∈ sheetKeys, Dict.get? a key = Dict.get? b key

instance (a b : Dict) : Decidable (SameTrip a b) :=
  inferInstanceAs (Decidable (∀ key ∈ sheetKeys, Dict.get? a key = Dict.get? b key))

structure TripLog where
  /-- For each distance call, the acceptance it was made for; `none` for a location update. -/
  askedFor : List (Option Dict) := []
  /-- The trip the dashboard took up last. -/
  latest : Dict := []
  /-- The answers that came, with the number of the call. -/
  answers : List (Nat × Dict) := []

/-- The log after an event that led from `s` to `t`. -/
def noteTrip (log : TripLog) (s : ClientSession) (e : ClientEvent) (t : ClientSession) : TripLog :=
  match e with
  | .onMessage _ (some (.obj dict)) =>
    if s.distanceCalls.issued < t.distanceCalls.issued then
      { log with askedFor := log.askedFor ++ [some dict], latest := dict }
    else log
  | .distanceTimerFires =>
    if s.distanceCalls.issued < t.distanceCalls.issued then
      { log with askedFor := log.askedFor ++ [none] }
    else log
  | .onlineProviderList _ (some _) =>
    if s.device.appDelegate.doesRequestExist then
      { log with latest := s.device.appDelegate.clientExistingTrip.getD log.latest }
    else log
  | .distanceReply call values true => { log with answers := (call, values) :: log.answers }
  | _ => log

/-- The call was made for the acceptance `dict`, and answered with the travel time of the sheet. -/
structure AnswerTo (log : TripLog) (sheet : ProviderDetailSheet) (call : Nat) (dict : Dict) :
    Prop where
  type : Dict.string? dict "RequestType" = some Trip_Status.accepted
  asked : log.askedFor[call]? = some (some dict)
  time : (log.answers.lookup call).bind travelTime = some sheet.providerETA

/-- The sheet shows the trip of the message that its call was made for, and the travel time that
the call was answered with. -/
def IsOwn (log : TripLog) (sheet : ProviderDetailSheet) (call : Nat) : Prop :=
  ∃ dict, AnswerTo log sheet call dict ∧ SameTrip sheet.currentRequest dict

/-- Every sheet that an answer opened is its message's own, and no message has two. -/
structure OwnSheets (x : ClientSession × TripLog) : Prop where
  own : ∀ sheet ∈ x.1.sheets, ∀ call, sheet.openedBy = some call → IsOwn x.2 sheet call
  once : (x.1.sheets.filterMap ProviderDetailSheet.openedBy).Nodup

/-- If the event answers the call of an acceptance while there is room for a sheet, then no other
trip was taken up since. -/
def answersLatest (x : ClientSession × TripLog) : ClientEvent → Bool
  | .distanceReply call _ true =>
    x.1.isPresenting || match x.2.askedFor[call]? with
      | some (some dict) => decide (SameTrip x.2.latest dict)
      | _ => true
  | _ => true

/-! ## 2. What a step does to calls, sheets and the current trip -/

/-- The moves towards a sheet, each with the event that makes it. -/
inductive SheetMove (s t : ClientSession) : ClientEvent → Prop where
  | stay {e : ClientEvent} (unnoted : ∀ log, noteTrip log s e t = log)
      (unasked : ∀ log, answersLatest (s, log) e = true) (sheets : t.sheets = s.sheets)
      (calls : t.distanceCalls = s.distanceCalls)
      (current : t.dashboard.currentRequest = s.dashboard.currentRequest)
      (updates : t.dashboard.locationUpdates = s.dashboard.locationUpdates ∨
        isLocationUpdate t.dashboard.locationUpdates = true) : SheetMove s t e
  | accepted {socket : Nat} {dict : Dict}
      (type : Dict.string? dict "RequestType" = some Trip_Status.accepted)
      (sheets : t.sheets = s.sheets) (calls : t.distanceCalls = s.distanceCalls.issue dict)
      (current : t.dashboard.currentRequest = dict)
      (updates : t.dashboard.locationUpdates = s.dashboard.locationUpdates) :
      SheetMove s t (.onMessage socket (some (.obj dict)))
  | asked {dict : Dict} (stored : s.dashboard.locationUpdates = some (.obj dict))
      (sheets : t.sheets = s.sheets) (calls : t.distanceCalls = s.distanceCalls.issue dict)
      (current : t.dashboard.currentRequest = s.dashboard.currentRequest)
      (updates : t.dashboard.locationUpdates = s.dashboard.locationUpdates) :
      SheetMove s t .distanceTimerFires
  | resumed {call : Nat} {response trip : Dict} {opened : List ProviderDetailSheet}
      (flag : s.device.appDelegate.doesRequestExist = true)
      (existing : s.device.appDelegate.clientExistingTrip = some trip)
      (sheets : t.sheets = s.sheets ++ opened) (unasked : ∀ sheet ∈ opened, sheet.openedBy = none)
      (calls : t.distanceCalls = s.distanceCalls) (current : t.dashboard.currentRequest = trip)
      (updates : t.dashboard.locationUpdates = s.dashboard.locationUpdates) :
      SheetMove s t (.onlineProviderList call (some response))
  | answered {call : Nat} {dict values : Dict} {success : Bool}
      (waiting : s.distanceCalls.waiting call = some dict)
      (type : success = true → s.isPresenting = true ∨
        Dict.string? dict "RequestType" = some Request_Status.locationUpdated)
      (sheets : t.sheets = s.sheets) (calls : t.distanceCalls = s.distanceCalls.retire call)
      (current : t.dashboard.currentRequest = s.dashboard.currentRequest)
      (updates : t.dashboard.locationUpdates = s.dashboard.locationUpdates) :
      SheetMove s t (.distanceReply call values success)
  | opened {call : Nat} {dict values : Dict} {sheet : ProviderDetailSheet}
      (free : s.isPresenting = false) (waiting : s.distanceCalls.waiting call = some dict)
      (type : Dict.string? dict "RequestType" ≠ some Request_Status.locationUpdated)
      (time : travelTime values = some sheet.providerETA)
      (trip : sheet.currentRequest = s.dashboard.currentRequest)
      (openedBy : sheet.openedBy = some call) (sheets : t.sheets = s.sheets ++ [sheet])
      (calls : t.distanceCalls = s.distanceCalls.retire call)
      (current : t.dashboard.currentRequest = s.dashboard.currentRequest)
      (updates : t.dashboard.locationUpdates = s.dashboard.locationUpdates) :
      SheetMove s t (.distanceReply call values true)

/-- A message that leads to no call is not noted. -/
theorem noteTrip_onMessage {log : TripLog} {socket : Nat} {text : Message}
    (calls : t.distanceCalls = s.distanceCalls) :
    noteTrip log s (.onMessage socket text) t = log := by
  unfold noteTrip
  split
  · rename_i heq
    cases heq
    rw [calls, if_neg (Nat.lt_irrefl _)]
  · rename_i heq
    cases heq
  · rename_i heq
    cases heq
  · rename_i heq
    cases heq
  · rfl

/-- **Every step is one of these.** -/
theorem step_sheetMove (h : (machine distance).Step s e t) : SheetMove s t e := by
  have hstep : StepOf distance s t e := step_inv h
  cases e with
  | tracingLocation l =>
    obtain rfl : t = s.tracingLocation l := hstep
    unfold tracingLocation
    split
    · exact .stay (fun _ => rfl) (fun _ => rfl) rfl rfl rfl (Or.inl rfl)
    · exact .stay (fun _ => rfl) (fun _ => rfl) rfl rfl rfl (Or.inl rfl)
  | onlineProviderList call response =>
    rcases onlineProviderList_inv hstep.2 with ⟨rfl, rfl⟩ | ⟨r, items, d, rfl, _, happend, hcheck⟩
    · exact .stay (fun _ => rfl) (fun _ => rfl) rfl rfl rfl (Or.inl rfl)
    · obtain ⟨ps, ms, rfl⟩ := ClientDashboard.appendOnlineProviders_frame happend
      rcases checkIfTripExists_inv hcheck with
        ⟨hflag, rfl⟩ | ⟨trip, userID, ⟨hflag, htrip, _⟩, ⟨_, here, rfl⟩ | ⟨_, rfl⟩⟩
      · have hflag' : s.device.appDelegate.doesRequestExist = false := hflag
        exact .stay (fun _ => by simp [noteTrip, hflag']) (fun _ => rfl) rfl rfl rfl (Or.inl rfl)
      · refine .resumed hflag htrip rfl (fun sheet hsheet => ?_) rfl rfl rfl
        split at hsheet
        · exact absurd hsheet List.not_mem_nil
        · rw [List.mem_singleton.mp hsheet]
      · exact .resumed hflag htrip (List.append_nil _).symm (by simp) rfl rfl rfl
  | onMessage socket text =>
    rcases hstep with ⟨_, d, hping, rfl⟩ | ⟨_, _, hmsg⟩ | ⟨_, _, rfl⟩
    · obtain ⟨ps, ms, rfl⟩ := ClientDashboard.pingReceived_frame hping
      exact .stay (fun _ => noteTrip_onMessage rfl) (fun _ => rfl) rfl rfl rfl (Or.inl rfl)
    · rcases requestMessage_inv hmsg with rfl | ⟨dict, ⟨rfl, htype⟩, rfl⟩
      · exact .stay (fun _ => noteTrip_onMessage rfl) (fun _ => rfl) rfl rfl rfl (Or.inl rfl)
      · exact .accepted htype rfl rfl rfl rfl
    · exact .stay (fun _ => noteTrip_onMessage rfl) (fun _ => rfl) rfl rfl rfl (Or.inl rfl)
  | sendRequest =>
    rcases sendRequest_inv hstep.2 with rfl | ⟨marker, markers, body, _, _, _, rfl⟩
    · exact .stay (fun _ => rfl) (fun _ => rfl) rfl rfl rfl (Or.inl rfl)
    · exact .stay (fun _ => rfl) (fun _ => rfl) rfl rfl rfl (Or.inl rfl)
  | requestReply call success =>
    obtain ⟨userID, _, rfl⟩ := hstep
    cases success with
    | true => exact .stay (fun _ => rfl) (fun _ => rfl) rfl rfl rfl (Or.inl rfl)
    | false => exact .stay (fun _ => rfl) (fun _ => rfl) rfl rfl rfl (Or.inl rfl)
  | cancelRequest =>
    obtain ⟨body, _, rfl⟩ := cancelRequestThroughWS_inv hstep.2
    exact .stay (fun _ => rfl) (fun _ => rfl) rfl rfl rfl (Or.inl rfl)
  | cancelReply call success =>
    rcases cancelReply_inv hstep.2 with ⟨_, rfl⟩ | ⟨frame, _, rfl⟩
    · exact .stay (fun _ => rfl) (fun _ => rfl) rfl rfl rfl (Or.inl rfl)
    · exact .stay (fun _ => rfl) (fun _ => rfl) rfl rfl rfl (Or.inl rfl)
  | timerFires timer =>
    obtain ⟨_, rfl⟩ := hstep
    exact .stay (fun _ => rfl) (fun _ => rfl) rfl rfl rfl (Or.inl rfl)
  | distanceReply call values success =>
    obtain ⟨dict, hwaiting, hreply⟩ := hstep
    rcases distanceReply_cases hreply with
      ⟨htype, markers, _, rfl⟩ | ⟨rfl, htype, u, markers, henter, _, rfl⟩
    · exact .answered hwaiting (fun hsuccess => Or.inr (htype hsuccess)) rfl rfl rfl rfl
    · obtain ⟨eta, here, marker, heta, rfl⟩ := enterTrip_travelTime henter
      cases hover : s.isPresenting with
      | true =>
        exact .answered hwaiting (fun _ => Or.inl hover) (List.append_nil _) rfl rfl rfl
      | false => exact .opened hover hwaiting htype heta rfl rfl rfl rfl rfl rfl
  | distanceTimerFires =>
    rcases callDistanceMatrixAPI_inv hstep with ⟨_, rfl⟩ | ⟨dict, hstored, rfl⟩
    · exact .stay (fun _ => if_neg (Nat.lt_irrefl _)) (fun _ => rfl) rfl rfl rfl (Or.inl rfl)
    · exact .asked hstored rfl rfl rfl rfl
  | receivingLocationUpdate text =>
    obtain ⟨hupdate, rfl⟩ := hstep
    exact .stay (fun _ => rfl) (fun _ => rfl) rfl rfl rfl (Or.inr hupdate)
  | viewWillAppear =>
    obtain ⟨d, hclear, rfl⟩ := hstep
    obtain ⟨marker, markers, _, rfl⟩ := ClientDashboard.clearTrip_inv hclear
    exact .stay (fun _ => rfl) (fun _ => rfl) rfl rfl rfl (Or.inl rfl)
  | selectedProducts products =>
    obtain ⟨d, hshow, rfl⟩ := hstep
    obtain ⟨_, _, _, _, _, _, rfl⟩ := ClientDashboard.showSelectedProducts_inv hshow
    exact .stay (fun _ => rfl) (fun _ => rfl) rfl rfl rfl (Or.inl rfl)
  | elsewhere device busy =>
    obtain rfl : t = { s with device := device, isPresenting := busy } := hstep
    exact .stay (fun _ => rfl) (fun _ => rfl) rfl rfl rfl (Or.inl rfl)

/-! ## 3. Every answer finds its message -/

theorem noteTrip_accepted {log : TripLog} {socket : Nat} {dict : Dict}
    (calls : t.distanceCalls = s.distanceCalls.issue dict) :
    noteTrip log s (.onMessage socket (some (.obj dict))) t =
      { log with askedFor := log.askedFor ++ [some dict], latest := dict } :=
  if_pos (by simp [calls])

theorem noteTrip_asked {log : TripLog} {dict : Dict}
    (calls : t.distanceCalls = s.distanceCalls.issue dict) :
    noteTrip log s .distanceTimerFires t = { log with askedFor := log.askedFor ++ [none] } :=
  if_pos (by simp [calls])

theorem noteTrip_resumed {log : TripLog} {call : Nat} {response trip : Dict}
    (flag : s.device.appDelegate.doesRequestExist = true)
    (existing : s.device.appDelegate.clientExistingTrip = some trip) :
    noteTrip log s (.onlineProviderList call (some response)) t = { log with latest := trip } := by
  simp [noteTrip, flag, existing]

/-- What holds along every run, whichever message overtakes which. -/
structure Logged (x : ClientSession × TripLog) : Prop where
  current : x.1.dashboard.currentRequest = x.2.latest
  updates : x.1.dashboard.locationUpdates = none ∨
    isLocationUpdate x.1.dashboard.locationUpdates = true
  numbered : x.2.askedFor.length = x.1.distanceCalls.issued
  calls : x.1.distanceCalls.All fun call dict =>
    (Dict.string? dict "RequestType" = some Request_Status.locationUpdated ∧
        x.2.askedFor[call]? = some none) ∨
      (Dict.string? dict "RequestType" = some Trip_Status.accepted ∧
        x.2.askedFor[call]? = some (some dict))
  opened : ∀ sheet ∈ x.1.sheets, ∀ call, sheet.openedBy = some call →
    x.1.distanceCalls.waiting call = none ∧ ∃ dict, AnswerTo x.2 sheet call dict
  once : (x.1.sheets.filterMap ProviderDetailSheet.openedBy).Nodup

variable {log : TripLog}

/-- The dashboard holds the trip that was noted last. -/
theorem current_step (hmove : SheetMove s t e) (h : s.dashboard.currentRequest = log.latest) :
    t.dashboard.currentRequest = (noteTrip log s e t).latest := by
  cases hmove with
  | stay unnoted _ _ _ current _ => rw [unnoted, current, h]
  | accepted _ _ calls current _ => rw [noteTrip_accepted calls, current]
  | asked _ _ calls current _ => rw [noteTrip_asked calls, current, h]
  | resumed flag existing _ _ _ current _ => rw [noteTrip_resumed flag existing, current]
  | @answered call dict values success _ _ _ _ current _ =>
    rw [current, h]
    cases success with
    | true => rfl
    | false => rfl
  | opened _ _ _ _ _ _ _ _ current _ =>
    rw [current, h]
    rfl

theorem updates_step (hmove : SheetMove s t e)
    (h : s.dashboard.locationUpdates = none ∨
      isLocationUpdate s.dashboard.locationUpdates = true) :
    t.dashboard.locationUpdates = none ∨
      isLocationUpdate t.dashboard.locationUpdates = true := by
  cases hmove with
  | stay _ _ _ _ _ updates =>
    rcases updates with hsame | hupdate
    · rw [hsame]
      exact h
    · exact Or.inr hupdate
  | accepted _ _ _ _ updates => exact updates ▸ h
  | asked _ _ _ _ updates => exact updates ▸ h
  | resumed _ _ _ _ _ _ updates => exact updates ▸ h
  | answered _ _ _ _ _ updates => exact updates ▸ h
  | opened _ _ _ _ _ _ _ _ _ updates => exact updates ▸ h

/-- What the timer asks about is a location. -/
theorem locationUpdated_of_stored {dict : Dict}
    (h : s.dashboard.locationUpdates = none ∨
      isLocationUpdate s.dashboard.locationUpdates = true)
    (stored : s.dashboard.locationUpdates = some (.obj dict)) :
    Dict.string? dict "RequestType" = some Request_Status.locationUpdated := by
  rcases h with hnone | hupdate
  · exact absurd (hnone.symm.trans stored) (by simp)
  · exact locationUpdated_of_isLocationUpdate (stored ▸ hupdate)

/-- The calls, and what they were made for, are numbered alike. -/
theorem numbered_step (hmove : SheetMove s t e)
    (h : log.askedFor.length = s.distanceCalls.issued) :
    (noteTrip log s e t).askedFor.length = t.distanceCalls.issued := by
  cases hmove with
  | stay unnoted _ _ calls _ _ => rw [unnoted, calls, h]
  | accepted _ _ calls _ _ => rw [noteTrip_accepted calls, calls]; simp [h]
  | asked _ _ calls _ _ => rw [noteTrip_asked calls, calls]; simp [h]
  | resumed flag existing _ _ calls _ _ => rw [noteTrip_resumed flag existing, calls]; exact h
  | @answered call dict values success _ _ _ calls _ _ =>
    rw [calls, Callbacks.issued_retire]
    cases success with
    | true => exact h
    | false => exact h
  | opened _ _ _ _ _ _ _ calls _ _ => rw [calls, Callbacks.issued_retire]; exact h

/-- The record of an old call stands. -/
theorem askedFor_step {call : Nat} {asked : Option Dict} (hmove : SheetMove s t e)
    (h : log.askedFor[call]? = some asked) : (noteTrip log s e t).askedFor[call]? = some asked := by
  have hlt : call < log.askedFor.length := (List.getElem?_eq_some_iff.mp h).1
  cases hmove with
  | stay unnoted _ _ _ _ _ => rw [unnoted, h]
  | accepted _ _ calls _ _ => rw [noteTrip_accepted calls, List.getElem?_append_left hlt, h]
  | asked _ _ calls _ _ => rw [noteTrip_asked calls, List.getElem?_append_left hlt, h]
  | resumed flag existing _ _ _ _ _ => rw [noteTrip_resumed flag existing]; exact h
  | @answered call dict values success _ _ _ _ _ _ =>
    cases success with
    | true => exact h
    | false => exact h
  | opened _ _ _ _ _ _ _ _ _ => exact h

/-- A call that was answered stays so, with the answer it had. -/
theorem answers_step {call : Nat} (hmove : SheetMove s t e)
    (hlt : call < s.distanceCalls.issued) (hdone : s.distanceCalls.waiting call = none) :
    t.distanceCalls.waiting call = none ∧
      (noteTrip log s e t).answers.lookup call = log.answers.lookup call := by
  have hissue : ∀ dict, (s.distanceCalls.issue dict).waiting call = none := by
    intro dict
    rw [Callbacks.waiting_issue, if_neg (Nat.ne_of_lt hlt), hdone]
  have hretire : ∀ i, (s.distanceCalls.retire i).waiting call = none := by
    intro i
    rw [Callbacks.waiting_retire, hdone, ite_self]
  have hcons : ∀ {i dict} values, s.distanceCalls.waiting i = some dict →
      ((i, values) :: log.answers).lookup call = log.answers.lookup call := by
    intro i dict values hi
    have hne : (call == i) = false := by
      rw [beq_eq_false_iff_ne]
      rintro rfl
      exact absurd (hdone.symm.trans hi) (by simp)
    simp only [List.lookup_cons, hne]
  cases hmove with
  | stay unnoted _ _ calls _ _ => rw [unnoted, calls]; exact ⟨hdone, rfl⟩
  | accepted _ _ calls _ _ => rw [noteTrip_accepted calls, calls]; exact ⟨hissue _, rfl⟩
  | asked _ _ calls _ _ => rw [noteTrip_asked calls, calls]; exact ⟨hissue _, rfl⟩
  | resumed flag existing _ _ calls _ _ =>
    rw [noteTrip_resumed flag existing, calls]
    exact ⟨hdone, rfl⟩
  | @answered i dict values success waiting _ _ calls _ _ =>
    rw [calls]
    cases success with
    | true => exact ⟨hretire i, hcons values waiting⟩
    | false => exact ⟨hretire i, rfl⟩
  | @opened i dict values sheet _ waiting _ _ _ _ _ calls _ _ =>
    rw [calls]
    exact ⟨hretire i, hcons values waiting⟩

/-- An account of a sheet stands, too. -/
theorem Logged.answerTo_step {sheet : ProviderDetailSheet} {call : Nat} (hx : Logged (s, log))
    (hmove : SheetMove s t e) (hsheet : sheet ∈ s.sheets) (hcall : sheet.openedBy = some call) :
    t.distanceCalls.waiting call = none ∧
      ∃ dict, AnswerTo log sheet call dict ∧ AnswerTo (noteTrip log s e t) sheet call dict := by
  obtain ⟨hdone, dict, hanswer⟩ := hx.opened sheet hsheet call hcall
  have hlt : call < s.distanceCalls.issued :=
    hx.numbered ▸ (List.getElem?_eq_some_iff.mp hanswer.asked).1
  obtain ⟨hdone', hlookup⟩ : t.distanceCalls.waiting call = none ∧
      (noteTrip log s e t).answers.lookup call = log.answers.lookup call :=
    answers_step hmove hlt hdone
  exact ⟨hdone', dict, hanswer,
    { type := hanswer.type
      asked := askedFor_step hmove hanswer.asked
      time := hlookup ▸ hanswer.time }⟩

/-- The call that opens a sheet was made for an acceptance. -/
theorem Logged.accepted {call : Nat} {dict : Dict} (hx : Logged (s, log))
    (waiting : s.distanceCalls.waiting call = some dict)
    (type : Dict.string? dict "RequestType" ≠ some Request_Status.locationUpdated) :
    Dict.string? dict "RequestType" = some Trip_Status.accepted ∧
      log.askedFor[call]? = some (some dict) :=
  (hx.calls call dict waiting).resolve_left fun hupdate => type hupdate.1

/-- So is the sheet that an answer opens. -/
theorem Logged.answerTo_opened {call : Nat} {dict values : Dict} {sheet : ProviderDetailSheet}
    (hx : Logged (s, log)) (waiting : s.distanceCalls.waiting call = some dict)
    (type : Dict.string? dict "RequestType" ≠ some Request_Status.locationUpdated)
    (time : travelTime values = some sheet.providerETA) :
    AnswerTo (noteTrip log s (.distanceReply call values true) t) sheet call dict := by
  obtain ⟨haccepted, hasked⟩ := hx.accepted waiting type
  exact ⟨haccepted, hasked, by simp [noteTrip, time]⟩

/-- What waits is asked for, an update of a location or an acceptance. -/
theorem Logged.calls_step (hx : Logged (s, log)) (hmove : SheetMove s t e) :
    t.distanceCalls.All fun call dict =>
      (Dict.string? dict "RequestType" = some Request_Status.locationUpdated ∧
          (noteTrip log s e t).askedFor[call]? = some none) ∨
        (Dict.string? dict "RequestType" = some Trip_Status.accepted ∧
          (noteTrip log s e t).askedFor[call]? = some (some dict)) := by
  have hnumbered : log.askedFor.length = s.distanceCalls.issued := hx.numbered
  have hcalls : s.distanceCalls.All fun call dict =>
      (Dict.string? dict "RequestType" = some Request_Status.locationUpdated ∧
          (noteTrip log s e t).askedFor[call]? = some none) ∨
        (Dict.string? dict "RequestType" = some Trip_Status.accepted ∧
          (noteTrip log s e t).askedFor[call]? = some (some dict)) :=
    hx.calls.mono fun call dict _ =>
      Or.imp (And.imp_right (askedFor_step hmove)) (And.imp_right (askedFor_step hmove))
  cases hmove with
  | stay _ _ _ calls _ _ => exact calls ▸ hcalls
  | @accepted socket dict type _ calls _ _ =>
    have hasked : (noteTrip log s (.onMessage socket (some (.obj dict))) t).askedFor[
        s.distanceCalls.issued]? = some (some dict) := by
      rw [noteTrip_accepted calls, ← hnumbered, List.getElem?_concat_length]
    rw [calls]
    exact hcalls.issue (Or.inr ⟨type, hasked⟩)
  | @asked dict stored _ calls _ _ =>
    have hasked : (noteTrip log s .distanceTimerFires t).askedFor[
        s.distanceCalls.issued]? = some none := by
      rw [noteTrip_asked calls, ← hnumbered, List.getElem?_concat_length]
    rw [calls]
    exact hcalls.issue (Or.inl ⟨locationUpdated_of_stored hx.updates stored, hasked⟩)
  | resumed _ _ _ _ calls _ _ => exact calls ▸ hcalls
  | answered _ _ _ calls _ _ => exact calls ▸ hcalls.retire _
  | opened _ _ _ _ _ _ _ calls _ _ => exact calls ▸ hcalls.retire _

/-- A sheet that was opened by a call answers it. -/
theorem Logged.opened_step (hx : Logged (s, log)) (hmove : SheetMove s t e) :
    ∀ sheet ∈ t.sheets, ∀ call, sheet.openedBy = some call →
      t.distanceCalls.waiting call = none ∧
        ∃ dict, AnswerTo (noteTrip log s e t) sheet call dict := by
  have hopened : ∀ sheet ∈ s.sheets, ∀ call, sheet.openedBy = some call →
      t.distanceCalls.waiting call = none ∧
        ∃ dict, AnswerTo (noteTrip log s e t) sheet call dict := by
    intro sheet hsheet call hcall
    obtain ⟨hdone, dict, _, hanswer⟩ := hx.answerTo_step hmove hsheet hcall
    exact ⟨hdone, dict, hanswer⟩
  cases hmove with
  | stay _ _ sheets _ _ _ => exact sheets ▸ hopened
  | accepted _ sheets _ _ _ => exact sheets ▸ hopened
  | asked _ sheets _ _ _ => exact sheets ▸ hopened
  | resumed _ _ sheets unasked _ _ _ =>
    intro sheet hsheet call hcall
    rw [sheets, List.mem_append] at hsheet
    rcases hsheet with hold | hnew
    · exact hopened sheet hold call hcall
    · exact absurd ((unasked sheet hnew).symm.trans hcall) (by simp)
  | answered _ _ sheets _ _ _ => exact sheets ▸ hopened
  | @opened call dict values sheet _ waiting type time _ openedBy sheets calls _ _ =>
    intro sheet' hsheet call' hcall'
    rw [sheets, List.mem_append, List.mem_singleton] at hsheet
    rcases hsheet with hold | rfl
    · exact hopened sheet' hold call' hcall'
    · obtain rfl : call = call' := Option.some.inj (openedBy.symm.trans hcall')
      refine ⟨?_, dict, hx.answerTo_opened (t := t) waiting type time⟩
      rw [calls, Callbacks.waiting_retire, if_pos rfl]

/-- No call opens two sheets: the one that opens a sheet was waiting. -/
theorem Logged.once_step (hx : Logged (s, log)) (hmove : SheetMove s t e) :
    (t.sheets.filterMap ProviderDetailSheet.openedBy).Nodup := by
  have honce : (s.sheets.filterMap ProviderDetailSheet.openedBy).Nodup := hx.once
  cases hmove with
  | stay _ _ sheets _ _ _ => exact sheets ▸ honce
  | accepted _ sheets _ _ _ => exact sheets ▸ honce
  | asked _ sheets _ _ _ => exact sheets ▸ honce
  | @resumed call response trip opened _ _ sheets unasked _ _ _ =>
    have hnone : opened.filterMap ProviderDetailSheet.openedBy = [] :=
      List.filterMap_eq_nil_iff.mpr unasked
    rw [sheets, List.filterMap_append, hnone, List.append_nil]
    exact honce
  | answered _ _ sheets _ _ _ => exact sheets ▸ honce
  | @opened call dict values sheet _ waiting _ _ _ openedBy sheets _ _ _ =>
    rw [sheets, List.filterMap_append, List.nodup_append]
    refine ⟨honce, by simp [openedBy], ?_⟩
    intro i hi j hj
    obtain rfl : j = call := by simpa [openedBy] using hj
    rintro rfl
    obtain ⟨sheet', hsheet', hi⟩ := List.mem_filterMap.mp hi
    exact absurd ((hx.opened sheet' hsheet' i hi).1.symm.trans waiting) (by simp)

/-- One step keeps the log. -/
theorem Logged.step (hx : Logged (s, log)) (hmove : SheetMove s t e) :
    Logged (t, noteTrip log s e t) where
  current := current_step hmove hx.current
  updates := updates_step hmove hx.updates
  numbered := numbered_step hmove hx.numbered
  calls := hx.calls_step hmove
  opened := hx.opened_step hmove
  once := hx.once_step hmove

/-! ## 4. The law -/

/-- Whether an older sheet is its message's own does not change any more. -/
theorem Logged.isOwn_step {sheet : ProviderDetailSheet} {call : Nat} (hx : Logged (s, log))
    (hmove : SheetMove s t e) (hsheet : sheet ∈ s.sheets) (hcall : sheet.openedBy = some call) :
    IsOwn (noteTrip log s e t) sheet call ↔ IsOwn log sheet call := by
  obtain ⟨_, dict, hbefore, hafter⟩ := hx.answerTo_step hmove hsheet hcall
  constructor
  · rintro ⟨dict', hanswer, hsame⟩
    obtain rfl : dict = dict' := by simpa using hafter.asked.symm.trans hanswer.asked
    exact ⟨dict, hbefore, hsame⟩
  · rintro ⟨dict', hanswer, hsame⟩
    obtain rfl : dict = dict' := by simpa using hbefore.asked.symm.trans hanswer.asked
    exact ⟨dict, hafter, hsame⟩

/-- Where no sheet opens, nothing about own sheets changes. -/
theorem Logged.ownSheets_of_append {opened : List ProviderDetailSheet} (hx : Logged (s, log))
    (hmove : SheetMove s t e) (sheets : t.sheets = s.sheets ++ opened)
    (unasked : ∀ sheet ∈ opened, sheet.openedBy = none) :
    OwnSheets (t, noteTrip log s e t) ↔ OwnSheets (s, log) := by
  constructor
  · intro h
    refine ⟨fun sheet hsheet call hcall => ?_, hx.once⟩
    have hmem : sheet ∈ t.sheets := sheets ▸ List.mem_append_left opened hsheet
    exact (hx.isOwn_step hmove hsheet hcall).mp (h.own sheet hmem call hcall)
  · intro h
    refine ⟨fun sheet hsheet call hcall => ?_, (hx.step hmove).once⟩
    have hmem : sheet ∈ s.sheets ++ opened := sheets ▸ hsheet
    rcases List.mem_append.mp hmem with hold | hnew
    · exact (hx.isOwn_step hmove hold hcall).mpr (h.own sheet hold call hcall)
    · exact absurd ((unasked sheet hnew).symm.trans hcall) (by simp)

/-- A new sheet is its message's own exactly if no other trip was taken up since. -/
theorem Logged.ownSheets_of_opened {call : Nat} {dict values : Dict} {sheet : ProviderDetailSheet}
    (hx : Logged (s, log)) (hmove : SheetMove s t (.distanceReply call values true))
    (waiting : s.distanceCalls.waiting call = some dict)
    (type : Dict.string? dict "RequestType" ≠ some Request_Status.locationUpdated)
    (time : travelTime values = some sheet.providerETA)
    (trip : sheet.currentRequest = s.dashboard.currentRequest)
    (openedBy : sheet.openedBy = some call) (sheets : t.sheets = s.sheets ++ [sheet]) :
    OwnSheets (t, noteTrip log s (.distanceReply call values true) t) ↔
      OwnSheets (s, log) ∧ SameTrip log.latest dict := by
  have hanswer := hx.answerTo_opened (t := t) waiting type time
  have hlatest : sheet.currentRequest = log.latest := trip.trans hx.current
  constructor
  · intro h
    constructor
    · refine ⟨fun sheet' hsheet call' hcall => ?_, hx.once⟩
      have hmem : sheet' ∈ t.sheets := sheets ▸ List.mem_append_left [sheet] hsheet
      exact (hx.isOwn_step hmove hsheet hcall).mp (h.own sheet' hmem call' hcall)
    · have hmem : sheet ∈ t.sheets := sheets ▸ List.mem_append_right s.sheets (by simp)
      obtain ⟨dict', hanswer', hsame⟩ := h.own sheet hmem call openedBy
      obtain rfl : dict = dict' := by simpa using hanswer.asked.symm.trans hanswer'.asked
      exact hlatest ▸ hsame
  · rintro ⟨h, hsame⟩
    refine ⟨fun sheet' hsheet call' hcall => ?_, (hx.step hmove).once⟩
    have hmem : sheet' ∈ s.sheets ++ [sheet] := sheets ▸ hsheet
    rcases List.mem_append.mp hmem with hold | hnew
    · exact (hx.isOwn_step hmove hold hcall).mpr (h.own sheet' hold call' hcall)
    · obtain rfl : sheet' = sheet := List.mem_singleton.mp hnew
      obtain rfl : call = call' := Option.some.inj (openedBy.symm.trans hcall)
      exact ⟨dict, hanswer, hlatest.symm ▸ hsame⟩

/-- One step keeps the sheets own exactly if it answers for the latest trip. -/
theorem Logged.ownSheets_step (hx : Logged (s, log)) (hmove : SheetMove s t e) :
    OwnSheets (t, noteTrip log s e t) ↔
      OwnSheets (s, log) ∧ answersLatest (s, log) e = true := by
  have hquiet : t.sheets = s.sheets → answersLatest (s, log) e = true →
      (OwnSheets (t, noteTrip log s e t) ↔
        OwnSheets (s, log) ∧ answersLatest (s, log) e = true) := by
    intro sheets hanswers
    have happend : t.sheets = s.sheets ++ [] := by rw [sheets, List.append_nil]
    rw [hx.ownSheets_of_append hmove happend (by simp)]
    exact (and_iff_left hanswers).symm
  cases hmove with
  | stay _ unasked sheets _ _ _ => exact hquiet sheets (unasked log)
  | accepted _ sheets _ _ _ => exact hquiet sheets rfl
  | asked _ sheets _ _ _ => exact hquiet sheets rfl
  | resumed flag existing sheets unasked calls current updates =>
    rw [hx.ownSheets_of_append (.resumed flag existing sheets unasked calls current updates) sheets
      unasked]
    exact (and_iff_left rfl).symm
  | @answered call dict values success waiting type sheets _ _ _ =>
    refine hquiet sheets ?_
    cases success with
    | false => rfl
    | true =>
      rcases type rfl with hover | hupdate
      · simp [answersLatest, hover]
      · have hnone : log.askedFor[call]? = some none := by
          rcases hx.calls call dict waiting with ⟨_, hasked⟩ | ⟨haccepted, _⟩
          · exact hasked
          · exact absurd (hupdate.symm.trans haccepted) (by decide)
        simp [answersLatest, hnone]
  | @opened call dict values sheet free waiting type time trip openedBy sheets calls current
      updates =>
    have hasked := (hx.accepted waiting type).2
    rw [hx.ownSheets_of_opened
      (.opened free waiting type time trip openedBy sheets calls current updates) waiting type time
      trip openedBy sheets]
    simp [answersLatest, free, hasked]

/-- **A sheet shows the latest trip.**  From any device, over every interleaving of acceptances,
travel times and everything else: each sheet shows the trip of the message that its travel time
was asked for, with that time, and no message has two sheets, exactly if every travel time that was
answered while nothing was over the dashboard belonged to the trip the dashboard had taken up last.
-/
theorem own_sheets_iff (device : Device) {x : ClientSession × TripLog}
    (hrun : ((machine distance).withHistory noteTrip).Run ({ device := device }, {}) x) :
    OwnSheets x ↔ ((machine distance).withHistory noteTrip).RunWhere
      (fun x e => answersLatest x e = true) ({ device := device }, {}) x := by
  have h₀ : Logged ({ device := device }, {}) :=
    ⟨rfl, Or.inl rfl, rfl, .empty _, by simp, List.nodup_nil⟩
  have hI : OwnSheets ({ device := device }, {}) := ⟨by simp, List.nodup_nil⟩
  refine hrun.iff_of_steps h₀ hI ?_
  rintro ⟨s, log⟩ e ⟨t, log'⟩ hx hstep
  obtain ⟨hs, hlog⟩ := Machine.withHistory_step.mp hstep
  obtain rfl : log' = noteTrip log s e t := hlog
  have hmove := step_sheetMove hs
  exact ⟨hx.step hmove, hx.ownSheets_step hmove⟩

/-! ## 5. Two providers accept -/

/-- Provider `id` accepts, under the trip with the same number. -/
def acceptedBy (id : Int) : ClientEvent :=
  .onMessage 1 (some (.obj [("RequestType", .str "trip_accepted"), ("TripId", .ofInt id),
    ("ProviderId", .ofInt id)]))

/-- A travel time. -/
def seconds (n : Int) : Dict := [("duration", .obj [("value", .ofInt n), ("text", .str "soon")])]

/-- The second provider's travel time arrives, and the first one's fails. -/
theorem own_sheets_iff_second : ∃ x : ClientSession × TripLog,
    (x.1.sheets.map fun sheet => (sheet.openedBy, sheet.providerETA)) = [(some 1, 60)] ∧
      OwnSheets x := by
  obtain ⟨x, hrun, htest⟩ := Machine.exists_run_of_replay
    ((machine sampleDistance).withHistory noteTrip) answersLatest ({ device := sampleDevice }, {})
    (requestEvents ++ [acceptedBy 16, acceptedBy 17, .distanceReply 1 (seconds 60) true,
      .distanceReply 0 (seconds 300) false])
    (fun x => (x.1.sheets.map fun sheet => (sheet.openedBy, sheet.providerETA)) == [(some 1, 60)])
    (fun _ _ h => h) (by decide +kernel)
  exact ⟨x, by simpa using htest, (own_sheets_iff sampleDevice hrun.run).mpr hrun⟩

/-- **The first answer opens the second provider's sheet.** -/
theorem overtaken_sheet :
    ¬∀ (device : Device) (x : ClientSession × TripLog),
      ((machine sampleDistance).withHistory noteTrip).Run ({ device := device }, {}) x →
        OwnSheets x := by
  intro hall
  obtain ⟨x, hrun, htest⟩ := Machine.exists_run_of_replay
    ((machine sampleDistance).withHistory noteTrip) (fun _ _ => true)
    ({ device := sampleDevice }, {})
    (requestEvents ++ [acceptedBy 16, acceptedBy 17, .distanceReply 0 (seconds 300) true])
    (fun x => x.1.sheets.any fun sheet => sheet.openedBy == some 0 &&
      Dict.get? sheet.currentRequest "ProviderId" == some (.ofInt 17) &&
      (x.2.askedFor[0]?.join.bind fun dict => Dict.get? dict "ProviderId") == some (.ofInt 16))
    (fun _ _ _ => trivial) (by decide +kernel)
  obtain ⟨sheet, hsheet, htest⟩ := List.any_eq_true.mp htest
  simp only [Bool.and_eq_true, beq_iff_eq] at htest
  obtain ⟨⟨hopened, hshown⟩, hmessage⟩ := htest
  obtain ⟨dict, hanswer, hsame⟩ := (hall sampleDevice x hrun).own sheet hsheet 0 hopened
  have hprovider : Dict.get? dict "ProviderId" = some (.ofInt 16) := by
    simpa [hanswer.asked] using hmessage
  have heq := hsame "ProviderId" (by decide)
  rw [hshown, hprovider] at heq
  exact absurd heq (by decide)

end ClientSession

end WeatherAccommodation
