/-
# Asking for another code

`VerifyOTPViewController.swift`: the resend button is disabled for the first 99 seconds, which a
timer counts down.  The timer stops when it enables the button, and is never started again.  The
callback of a resend, though, disables the button a second time, and it does so after an error as
well: it shows the error, and goes on to announce that a code has been sent and to store the empty
text that `verifyPhonenumberWithFirebase` makes of an error.

* `resend_comes_back_iff`: the button is disabled only while the timer runs exactly in the runs in
  which no callback of a resend was handled.  From the first one on it is never enabled again
  (`never_comes_back`).
* `resend_keeps_latest_iff`: what is stored is the id of the latest successful send, and no failure
  is announced as a success, exactly in the runs without a failure; and, if the latest send is the
  one that was asked for last, in which no success is overtaken by a later one.
-/
import WeatherAccommodation.Account.App

namespace WeatherAccommodation

open Foundation Reactive

/-! ## 1. The screen -/

/-- `showAlertOnNavigationBarWith` -/
structure NavigationAlert where
  message : String
  title : String
  deriving DecidableEq, Repr

/-- What Firebase answers: an id or an error. -/
inductive FirebaseOutcome where
  | sent (verificationID : String)
  | failed (localizedDescription : String)
  deriving DecidableEq, Repr

/-- The arguments of the callback of `verifyPhonenumberWithFirebase`. -/
def FirebaseOutcome.arguments : FirebaseOutcome → String × Option String
  | .sent verificationID => (verificationID, none)
  | .failed localizedDescription => ("", some localizedDescription)

/-- The id of a send that went through. -/
def FirebaseOutcome.verificationID? : FirebaseOutcome → Option String
  | .sent verificationID => some verificationID
  | .failed _ => none

/-- The part of `VerifyOTPViewController` that is about resending. -/
structure ResendScreen where
  defaults : UserDefaults
  counter : Int
  /-- The timer was not invalidated. -/
  timerIsValid : Bool
  resendCodeBtnIsEnabled : Bool
  title : String
  /-- What was shown on the navigation bar so far. -/
  alerts : List NavigationAlert := []
  /-- The phone numbers Firebase was asked to verify. -/
  phoneCalls : Callbacks String := .empty

inductive ResendEvent where
  | timerAction
  | btnResendPressed
  | verificationReply (call : Nat) (outcome : FirebaseOutcome)
  deriving DecidableEq, Repr

/-- An answer of Firebase. -/
def ResendEvent.isReply : ResendEvent → Bool
  | .verificationReply _ _ => true
  | _ => false

namespace ResendScreen

/-- `RDDataEngineClass.resetTimerCounter` -/
def resetTimerCounter : Int := 99

def secondsTitle (counter : Int) : String := "RESEND CODE IN " ++ toString counter ++ " SECONDS"

def iSDisableResendValidationCode (s : ResendScreen) (iSEnable : Bool) : ResendScreen :=
  { s with resendCodeBtnIsEnabled := iSEnable }

def showAlert (s : ResendScreen) (message title : String) : ResendScreen :=
  { s with alerts := s.alerts ++ [{ message := message, title := title }] }

/-- The screen as `viewDidLoad` leaves it. -/
def viewDidLoad (defaults : UserDefaults) : ResendScreen where
  defaults := defaults
  counter := resetTimerCounter
  timerIsValid := true
  resendCodeBtnIsEnabled := false
  title := secondsTitle resetTimerCounter

def timerAction (s : ResendScreen) : ResendScreen :=
  if s.counter - 1 = 0 then
    { s.iSDisableResendValidationCode true with
      counter := s.counter - 1
      title := "RESEND VALIDATION CODE"
      timerIsValid := false }
  else
    { s.iSDisableResendValidationCode false with
      counter := s.counter - 1
      title := secondsTitle (s.counter - 1) }

/-- `btnResendPressed`, up to Firebase. -/
def btnResendPressed (s : ResendScreen) : Except Trap ResendScreen := do
  let getUserInfo ← s.defaults.getObject .userProfileInfoDef
  let phone ← forceString getUserInfo "MobileNumber"
  return { s with phoneCalls := s.phoneCalls.issue phone }

/-- The first statement of the callback; there is no `return` in it. -/
def showError (s : ResendScreen) : Option String → ResendScreen
  | some localizedDescription => s.showAlert localizedDescription "Error"
  | none => s

/-- The callback of `btnResendPressed`. -/
def resent (s : ResendScreen) (verificationId : String) (error : Option String) : ResendScreen :=
  let s := (s.showError error).showAlert "OTP has been sent." "Success"
  { s.iSDisableResendValidationCode false with
    defaults := s.defaults.setValue .authVerificationID verificationId
    title := "RESEND VALIDATION CODE" }

def react (s : ResendScreen) : ResendEvent → Option (Except Trap ResendScreen)
  | .timerAction => if s.timerIsValid then some (.ok s.timerAction) else none
  | .btnResendPressed => if s.resendCodeBtnIsEnabled then some s.btnResendPressed else none
  | .verificationReply call outcome =>
    (s.phoneCalls.waiting call).map fun _ =>
      .ok ({ s with phoneCalls := s.phoneCalls.retire call }.resent outcome.arguments.1
        outcome.arguments.2)

def machine : Machine ResendScreen ResendEvent Trap where
  react := react

@[simp] theorem resent_defaults (s : ResendScreen) (verificationId : String)
    (error : Option String) :
    (s.resent verificationId error).defaults =
      s.defaults.setValue .authVerificationID verificationId := by
  cases error <;> rfl

@[simp] theorem resent_resendCodeBtnIsEnabled (s : ResendScreen) (verificationId : String)
    (error : Option String) : (s.resent verificationId error).resendCodeBtnIsEnabled = false := rfl

@[simp] theorem resent_timerIsValid (s : ResendScreen) (verificationId : String)
    (error : Option String) : (s.resent verificationId error).timerIsValid = s.timerIsValid := by
  cases error <;> rfl

/-- The screen among those of the whole app does the same to the defaults and to the button. -/
theorem resent_eq_resent (a : AccountApp) (j : Nat) (otp : VerifyOTP) (s : ResendScreen)
    (hj : j < a.otps.length) (h : s.defaults = a.defaults) (outcome : FirebaseOutcome) :
    (s.resent outcome.arguments.1 outcome.arguments.2).defaults =
        (a.resent j otp outcome.verificationID?).defaults ∧
      (a.resent j otp outcome.verificationID?).otps[j]? = some { otp with
        resendIsEnabled :=
          (s.resent outcome.arguments.1 outcome.arguments.2).resendCodeBtnIsEnabled } := by
  constructor
  · rw [resent_defaults, h]
    cases outcome <;> rfl
  · rw [resent_resendCodeBtnIsEnabled]
    simp [AccountApp.resent, AccountApp.putOTP, AccountApp.setVerificationID, hj]

/-! ## 2. The button -/

variable {s t : ResendScreen} {e : ResendEvent}

/-- **The three events.**  A tick comes while the timer runs, a press while the button is enabled,
and an answer to a press. -/
theorem step_cases (h : machine.Step s e t) :
    (e = .timerAction ∧ s.timerIsValid = true ∧ t = s.timerAction) ∨
    (e = .btnResendPressed ∧ s.resendCodeBtnIsEnabled = true ∧
      ∃ phone, t = { s with phoneCalls := s.phoneCalls.issue phone }) ∨
    (∃ call outcome phone, e = .verificationReply call outcome ∧
      s.phoneCalls.waiting call = some phone ∧
      t = { s with phoneCalls := s.phoneCalls.retire call }.resent outcome.arguments.1
        outcome.arguments.2) := by
  cases e with
  | timerAction =>
    simp only [Machine.Step, machine, react, Option.ite_none_right_eq_some, Option.some.injEq,
      Except.ok.injEq] at h
    exact .inl ⟨rfl, h.1, h.2.symm⟩
  | btnResendPressed =>
    simp only [Machine.Step, machine, react, Option.ite_none_right_eq_some, Option.some.injEq,
      btnResendPressed, bind_eq_ok, pure_eq_ok] at h
    obtain ⟨henabled, _, _, phone, _, rfl⟩ := h
    exact .inr (.inl ⟨rfl, henabled, phone, rfl⟩)
  | verificationReply call outcome =>
    simp only [Machine.Step, machine, react, Option.map_eq_some_iff, Except.ok.injEq] at h
    obtain ⟨phone, hphone, rfl⟩ := h
    exact .inr (.inr ⟨call, outcome, phone, rfl, hphone, rfl⟩)

/-- Disabled only while the timer runs, with seconds left. -/
def ComesBack (s : ResendScreen) : Prop :=
  s.resendCodeBtnIsEnabled = false → s.timerIsValid = true ∧ 0 < s.counter

/-- The timer runs, and nobody could press the button yet; or it has stopped. -/
def TimerRuns (s : ResendScreen) : Prop :=
  (s.timerIsValid = true ∧ 0 < s.counter ∧ s.resendCodeBtnIsEnabled = false ∧
    s.phoneCalls.issued = 0) ∨ s.timerIsValid = false

/-- One event: an answer is what disables the button for good. -/
theorem comesBack_step (hs : s.TimerRuns) (h : machine.Step s e t) :
    t.TimerRuns ∧ (t.ComesBack ↔ s.ComesBack ∧ e.isReply = false) := by
  rcases step_cases h with ⟨rfl, hvalid, rfl⟩ | ⟨rfl, henabled, phone, rfl⟩ |
    ⟨call, outcome, phone, rfl, hwaiting, rfl⟩
  · obtain ⟨_, hpos, hdisabled, hcalls⟩ := hs.resolve_right (by simp [hvalid])
    have hcomes : s.ComesBack := fun _ => ⟨hvalid, hpos⟩
    by_cases hzero : s.counter - 1 = 0
    · have ht : s.timerAction.resendCodeBtnIsEnabled = true ∧ s.timerAction.timerIsValid = false := by
        simp [timerAction, hzero, iSDisableResendValidationCode]
      refine ⟨.inr ht.2, iff_of_true (fun hoff => ?_) ⟨hcomes, rfl⟩⟩
      rw [ht.1] at hoff
      exact absurd hoff (by simp)
    · have ht : s.timerAction = { s with
          counter := s.counter - 1, title := secondsTitle (s.counter - 1) } := by
        simp [timerAction, hzero, iSDisableResendValidationCode, hdisabled]
      have hleft : 0 < s.counter - 1 := by omega
      rw [ht]
      exact ⟨.inl ⟨hvalid, hleft, hdisabled, hcalls⟩,
        iff_of_true (fun _ => ⟨hvalid, hleft⟩) ⟨hcomes, rfl⟩⟩
  · -- The button was enabled, so that the timer has stopped.
    have hstopped : s.timerIsValid = false := by
      rcases hs with ⟨_, _, hdisabled, _⟩ | hstopped
      · rw [henabled] at hdisabled
        exact absurd hdisabled (by simp)
      · exact hstopped
    refine ⟨.inr hstopped, iff_of_true (fun hoff => ?_) ⟨fun hoff => ?_, rfl⟩⟩
    · exact absurd (henabled.symm.trans hoff) (by simp)
    · exact absurd (henabled.symm.trans hoff) (by simp)
  · have hstopped : s.timerIsValid = false := by
      rcases hs with ⟨_, _, _, hnone⟩ | hstopped
      · have hlt := Callbacks.lt_issued_of_waiting hwaiting
        omega
      · exact hstopped
    refine ⟨.inr (by simp [hstopped]), iff_of_false (fun hcomes => ?_) (by simp [ResendEvent.isReply])⟩
    have hvalid := (hcomes (by simp)).1
    rw [resent_timerIsValid] at hvalid
    exact absurd (hstopped.symm.trans hvalid) (by simp)

theorem timerRuns_viewDidLoad (defaults : UserDefaults) : (viewDidLoad defaults).TimerRuns :=
  .inl ⟨rfl, (by decide : 0 < resetTimerCounter), rfl, rfl⟩

/-- **When the resend button comes back.**  In every run, it is disabled only while the timer runs
with seconds left, exactly if no answer to a resend was handled. -/
theorem resend_comes_back_iff {defaults : UserDefaults}
    (h : machine.Run (viewDidLoad defaults) s) :
    s.ComesBack ↔ machine.RunWhere (fun _ e => e.isReply = false) (viewDidLoad defaults) s :=
  h.iff_of_steps (timerRuns_viewDidLoad defaults)
    (fun _ => ⟨rfl, (by decide : 0 < resetTimerCounter)⟩)
    fun _ _ _ hs hstep => comesBack_step hs hstep

/-- A disabled button whose timer has stopped. -/
def IsStuck (s : ResendScreen) : Prop := s.resendCodeBtnIsEnabled = false ∧ s.timerIsValid = false

/-- **An answer disables the button for good**: nothing that happens later enables it. -/
theorem never_comes_back (hs : s.IsStuck) (h : machine.Run s t) : t.IsStuck := by
  refine h.invariant (I := IsStuck) hs fun a e b ⟨hdisabled, hstopped⟩ _ hstep => ?_
  rcases step_cases hstep with ⟨_, hvalid, _⟩ | ⟨_, henabled, _⟩ | ⟨call, outcome, _, _, _, rfl⟩
  · exact absurd (hstopped.symm.trans hvalid) (by simp)
  · exact absurd (hdisabled.symm.trans henabled) (by simp)
  · exact ⟨by simp, by simp [hstopped]⟩

/-- The seconds that are left enable the button. -/
theorem enabled_after_ticks {n : Nat} (hvalid : s.timerIsValid = true)
    (hcounter : s.counter = n + 1) :
    ∃ t, machine.Run s t ∧ t.resendCodeBtnIsEnabled = true := by
  induction n generalizing s with
  | zero =>
    have hstep : machine.Step s .timerAction s.timerAction := by
      simp [Machine.Step, machine, react, hvalid]
    refine ⟨s.timerAction, Machine.RunWhere.refl.tail trivial hstep, ?_⟩
    simp [timerAction, hcounter, iSDisableResendValidationCode]
  | succ n ih =>
    have hstep : machine.Step s .timerAction s.timerAction := by
      simp [Machine.Step, machine, react, hvalid]
    have hnext : s.timerAction.timerIsValid = true ∧ s.timerAction.counter = n + 1 := by
      have hne : s.counter - 1 ≠ 0 := by omega
      simp only [timerAction, if_neg hne]
      exact ⟨hvalid, by omega⟩
    obtain ⟨t, hrun, henabled⟩ := ih hnext.1 hnext.2
    exact ⟨t, (Machine.RunWhere.refl.tail trivial hstep).trans hrun, henabled⟩

/-- A button that comes back: it is enabled, or some ticks enable it. -/
theorem ComesBack.exists_run (h : s.ComesBack) :
    ∃ t, machine.Run s t ∧ t.resendCodeBtnIsEnabled = true := by
  cases henabled : s.resendCodeBtnIsEnabled with
  | true => exact ⟨s, .refl, henabled⟩
  | false =>
    obtain ⟨hvalid, hpos⟩ := h henabled
    refine enabled_after_ticks (n := (s.counter - 1).toNat) hvalid ?_
    omega

/-- Someone who signed up, and was sent a first code. -/
def signedUp : UserDefaults where
  value
    | .userProfileInfoDef => some (.dict [("MobileNumber", .str "+15551234567")])
    | .authVerificationID => some (.string "first")
    | _ => none

/-- The ticks of the first 99 seconds, and a press on the button they enable. -/
def pressedOnce : List ResendEvent := List.replicate 99 .timerAction ++ [.btnResendPressed]

/-- The button is enabled after 99 ticks. -/
theorem enabled_comes_back :
    ∃ s, machine.Run (viewDidLoad signedUp) s ∧ s.resendCodeBtnIsEnabled = true ∧ s.ComesBack := by
  have htest : (machine.replay (fun _ e => !e.isReply) (viewDidLoad signedUp) pressedOnce).any
      (·.resendCodeBtnIsEnabled) = true := by decide +kernel
  obtain ⟨s, hrun, henabled⟩ := machine.exists_run_of_replay (fun _ e => !e.isReply)
    (viewDidLoad signedUp) pressedOnce (·.resendCodeBtnIsEnabled) (C := fun _ e => e.isReply = false)
    (by simp) htest
  exact ⟨s, hrun.run, henabled, (resend_comes_back_iff hrun.run).mpr hrun⟩

/-- **The button that never comes back.**  The resend succeeds, and its callback disables the button
when no timer runs any more. -/
theorem resend_never_comes_back :
    ∃ s, machine.Run (viewDidLoad signedUp) s ∧ s.resendCodeBtnIsEnabled = false ∧
      s.timerIsValid = false ∧ ¬s.ComesBack ∧
      ∀ t, machine.Run s t → t.resendCodeBtnIsEnabled = false := by
  have htest : (machine.replay (fun _ _ => true) (viewDidLoad signedUp)
      (pressedOnce ++ [.verificationReply 0 (.sent "second")])).any
      (fun s => !s.resendCodeBtnIsEnabled && !s.timerIsValid) = true := by decide +kernel
  obtain ⟨s, hrun, hstuck⟩ := machine.exists_run_of_replay (fun _ _ => true)
    (viewDidLoad signedUp) _ _ (C := fun _ _ => True) (by simp) htest
  obtain ⟨hdisabled, hstopped⟩ : s.resendCodeBtnIsEnabled = false ∧ s.timerIsValid = false := by
    simpa using hstuck
  refine ⟨s, hrun, hdisabled, hstopped, fun hcomes => ?_, fun t ht => ?_⟩
  · exact absurd ((hcomes hdisabled).1.symm.trans hstopped) (by simp)
  · exact (never_comes_back ⟨hdisabled, hstopped⟩ ht).1

/-! ## 3. The stored id -/

/-- An answer that was handled, the id that was stored after it, and what it showed. -/
structure HandledReply where
  call : Nat
  outcome : FirebaseOutcome
  stored : String
  shown : List NavigationAlert
  deriving DecidableEq, Repr

/-- The answers handled so far, the last one first. -/
def noteReply (log : List HandledReply) (s : ResendScreen) (e : ResendEvent) (t : ResendScreen) :
    List HandledReply :=
  match e with
  | .verificationReply call outcome =>
    { call := call
      outcome := outcome
      stored := t.defaults.getValue .authVerificationID
      shown := t.alerts.drop s.alerts.length } :: log
  | _ => log

/-- The successful send whose answer came last. -/
def latestArrived : List HandledReply → Option String
  | [] => none
  | reply :: earlier => reply.outcome.verificationID? <|> latestArrived earlier

/-- The successful send that was asked for last. -/
def latestAsked : List HandledReply → Option (Nat × String)
  | [] => none
  | reply :: earlier =>
    match reply.outcome.verificationID?, latestAsked earlier with
    | none, latest => latest
    | some id, none => some (reply.call, id)
    | some id, some (call, id') =>
      if reply.call < call then some (call, id') else some (reply.call, id)

/-- What an answer should leave: the id of the latest successful send, the one of `first` before
there is any, and no word of success after a failure. -/
def HandledReply.IsRight (reply : HandledReply) (latest : Option String) (first : String) : Prop :=
  reply.stored = latest.getD first ∧
    (reply.outcome.verificationID? = none → ∀ alert ∈ reply.shown, alert.title ≠ "Success")

/-- Every answer left that. -/
def KeepsLatest (latest : List HandledReply → Option String) (first : String) :
    List HandledReply → Prop
  | [] => True
  | reply :: earlier =>
    KeepsLatest latest first earlier ∧ reply.IsRight (latest (reply :: earlier)) first

/-- The answer is no error. -/
def ResendEvent.IsNoFailure : ResendEvent → Prop
  | .verificationReply _ outcome => outcome.verificationID?.isSome = true
  | _ => True

/-- The answer is an id, and no send asked for later has succeeded with another one. -/
def ResendEvent.IsNotOvertaken (log : List HandledReply) : ResendEvent → Prop
  | .verificationReply call outcome =>
    ∃ id, outcome.verificationID? = some id ∧
      ∀ call' id', latestAsked log = some (call', id') → call < call' → id' = id
  | _ => True

/-- **What a callback leaves.**  The first argument of it is stored, and a success is announced in
every case. -/
theorem resent_leaves (s : ResendScreen) (outcome : FirebaseOutcome) :
    (s.resent outcome.arguments.1 outcome.arguments.2).defaults.getValue .authVerificationID =
        outcome.verificationID?.getD "" ∧
      { message := "OTP has been sent.", title := "Success" } ∈
        (s.resent outcome.arguments.1 outcome.arguments.2).alerts.drop s.alerts.length := by
  constructor
  · rw [resent_defaults, UserDefaults.getValue_setValue_self]
    cases outcome <;> rfl
  · cases outcome with
    | sent verificationID =>
      simp [resent, showError, FirebaseOutcome.arguments, showAlert, iSDisableResendValidationCode]
    | failed localizedDescription =>
      simp [resent, showError, FirebaseOutcome.arguments, showAlert, iSDisableResendValidationCode]

/-- The answer is right exactly if it is an id, and that of the latest successful send. -/
theorem isRight_iff {reply : HandledReply} {latest : Option String} {first : String}
    (hstored : reply.stored = reply.outcome.verificationID?.getD "")
    (hshown : { message := "OTP has been sent.", title := "Success" } ∈ reply.shown) :
    reply.IsRight latest first ↔
      ∃ id, reply.outcome.verificationID? = some id ∧ latest.getD first = id := by
  unfold HandledReply.IsRight
  rw [hstored]
  cases hid : reply.outcome.verificationID? with
  | none =>
    simp only [reduceCtorEq, false_and, exists_false, iff_false, not_and]
    exact fun _ hquiet => hquiet trivial _ hshown rfl
  | some id => simp [eq_comm]

/-- One event: presses and ticks leave the log alone, and an answer has to be right. -/
theorem keepsLatest_step {latest : List HandledReply → Option String} {first : String}
    {C : List HandledReply → ResendEvent → Prop}
    (hother : ∀ log e, e.isReply = false → C log e)
    (hreply : ∀ log reply, C log (.verificationReply reply.call reply.outcome) ↔
      ∃ id, reply.outcome.verificationID? = some id ∧ (latest (reply :: log)).getD first = id)
    {a b : ResendScreen × List HandledReply} (h : (machine.withHistory noteReply).Step a e b) :
    KeepsLatest latest first b.2 ↔ KeepsLatest latest first a.2 ∧ C a.2 e := by
  obtain ⟨hstep, hlog⟩ := Machine.withHistory_step.mp h
  rw [hlog]
  rcases step_cases hstep with ⟨rfl, _, _⟩ | ⟨rfl, _, _⟩ | ⟨call, outcome, phone, rfl, _, ht⟩
  · exact (and_iff_left (hother _ _ rfl)).symm
  · exact (and_iff_left (hother _ _ rfl)).symm
  · obtain ⟨hstored, hshown⟩ :=
      resent_leaves { a.1 with phoneCalls := a.1.phoneCalls.retire call } outcome
    rw [← ht] at hstored hshown
    exact and_congr_right fun _ => (isRight_iff hstored hshown).trans (hreply a.2 ⟨call, outcome,
      b.1.defaults.getValue .authVerificationID, b.1.alerts.drop a.1.alerts.length⟩).symm

/-- **When a resend keeps the old code usable.**  In every run, every answer leaves the id of the
latest successful send behind, and no failure announces a success, exactly if no answer is a
failure.  Where the latest send is the one that was asked for last, in whatever order the answers
come, exactly if also none comes after that of a later send with another id. -/
theorem resend_keeps_latest_iff {defaults : UserDefaults} {a : ResendScreen × List HandledReply}
    (h : (machine.withHistory noteReply).Run (viewDidLoad defaults, []) a) :
    (KeepsLatest latestArrived (defaults.getValue .authVerificationID) a.2 ↔
      (machine.withHistory noteReply).RunWhere (fun _ e => ResendEvent.IsNoFailure e)
        (viewDidLoad defaults, []) a) ∧
    (KeepsLatest (fun log => (latestAsked log).map Prod.snd)
        (defaults.getValue .authVerificationID) a.2 ↔
      (machine.withHistory noteReply).RunWhere (fun x e => ResendEvent.IsNotOvertaken x.2 e)
        (viewDidLoad defaults, []) a) := by
  constructor
  · refine h.iff_of_steps (J := fun _ => True)
      (I := fun x : ResendScreen × List HandledReply =>
        KeepsLatest latestArrived (defaults.getValue .authVerificationID) x.2)
      trivial trivial fun x e y _ hstep => ⟨trivial, ?_⟩
    refine keepsLatest_step (C := fun _ e => ResendEvent.IsNoFailure e) ?_ ?_ hstep
    · intro log e he
      cases e with
      | verificationReply call outcome => simp [ResendEvent.isReply] at he
      | _ => trivial
    · intro log reply
      simp only [ResendEvent.IsNoFailure, latestArrived]
      cases reply.outcome.verificationID? <;> simp
  · refine h.iff_of_steps (J := fun _ => True)
      (I := fun x : ResendScreen × List HandledReply =>
        KeepsLatest (fun log => (latestAsked log).map Prod.snd)
          (defaults.getValue .authVerificationID) x.2)
      trivial trivial fun x e y _ hstep => ⟨trivial, ?_⟩
    refine keepsLatest_step (C := fun log e => ResendEvent.IsNotOvertaken log e) ?_ ?_ hstep
    · intro log e he
      cases e with
      | verificationReply call outcome => simp [ResendEvent.isReply] at he
      | _ => trivial
    · intro log reply
      simp only [ResendEvent.IsNotOvertaken, latestAsked]
      refine exists_congr fun id => and_congr_right fun hid => ?_
      rw [hid]
      cases latestAsked log with
      | none => simp
      | some last =>
        obtain ⟨call', id'⟩ := last
        by_cases hlt : reply.call < call'
        · simp [hlt]
        · simp [hlt]

/-- The log of one resend: its answer, and what it left. -/
def oneReply (outcome : FirebaseOutcome) (stored : String) (shown : List NavigationAlert) :
    List HandledReply := [{ call := 0, outcome := outcome, stored := stored, shown := shown }]

/-- A resend that succeeds leaves the new id. -/
theorem sent_keeps_latest :
    ∃ a : ResendScreen × List HandledReply,
      (machine.withHistory noteReply).Run (viewDidLoad signedUp, []) a ∧
      KeepsLatest latestArrived "first" a.2 ∧
      a.2 = oneReply (.sent "second") "second"
        [{ message := "OTP has been sent.", title := "Success" }] := by
  have htest : ((machine.withHistory noteReply).replay (fun _ e =>
      match e with
      | .verificationReply _ outcome => outcome.verificationID?.isSome
      | _ => true) (viewDidLoad signedUp, [])
      (pressedOnce ++ [.verificationReply 0 (.sent "second")])).any
      (fun a => a.2 == oneReply (.sent "second") "second"
        [{ message := "OTP has been sent.", title := "Success" }]) = true := by decide +kernel
  obtain ⟨a, hrun, hlog⟩ := (machine.withHistory noteReply).exists_run_of_replay _ _ _ _
    (C := fun _ e => ResendEvent.IsNoFailure e) (by
      intro _ e he
      cases e with
      | verificationReply call outcome => exact he
      | _ => trivial) htest
  exact ⟨a, hrun.run, (resend_keeps_latest_iff hrun.run).1.mpr hrun, by simpa using hlog⟩

/-- **A failed resend wipes the stored id out, and announces a success.** -/
theorem failed_resend_announces_success :
    ∃ a : ResendScreen × List HandledReply,
      (machine.withHistory noteReply).Run (viewDidLoad signedUp, []) a ∧
      a.1.defaults.getValue .authVerificationID = "" ∧
      a.2 = oneReply (.failed "Network error") "" [{ message := "Network error", title := "Error" },
        { message := "OTP has been sent.", title := "Success" }] ∧
      ¬KeepsLatest latestArrived "first" a.2 ∧
      ¬KeepsLatest (fun log => (latestAsked log).map Prod.snd) "first" a.2 := by
  have htest : ((machine.withHistory noteReply).replay (fun _ _ => true) (viewDidLoad signedUp, [])
      (pressedOnce ++ [.verificationReply 0 (.failed "Network error")])).any
      (fun a => a.1.defaults.getValue .authVerificationID == "" &&
        a.2 == oneReply (.failed "Network error") "" [{ message := "Network error", title := "Error" },
          { message := "OTP has been sent.", title := "Success" }]) = true := by decide +kernel
  obtain ⟨a, hrun, hlog⟩ := (machine.withHistory noteReply).exists_run_of_replay _ _ _ _
    (C := fun _ _ => True) (by simp) htest
  rw [Bool.and_eq_true, beq_iff_eq, beq_iff_eq] at hlog
  obtain ⟨hstored, hlog⟩ := hlog
  have hne : ("" : String) ≠ "first" := by decide
  refine ⟨a, hrun, hstored, hlog, ?_, ?_⟩
  · rw [hlog]
    exact fun h => hne h.2.1
  · rw [hlog]
    exact fun h => hne h.2.1

end ResendScreen

end WeatherAccommodation
