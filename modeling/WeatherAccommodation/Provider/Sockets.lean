/-
# The provider's app over its sockets

`WebSocketManager` hands the callbacks of every socket to its delegate.  So the app is a program
over sockets: it makes them, writes its frames on them as text, and hears their callbacks late.

* `runs_over_links`: it runs as it does over links that connect once and drop;
* `notices_sent`: nothing that it owes the client is left unsent exactly if the request socket is
  connected whenever its user closes a sheet or types a code;
* `notices_heard`: in such a run every notice is heard by the server, or still queued, as long as
  the stream takes what it is offered.
-/
import WeatherAccommodation.TripNotices
import WeatherAccommodation.Provider.Online
import WeatherAccommodation.Starscream.Notices

namespace WeatherAccommodation

open Foundation Reactive Streaming WireFormat
open Starscream (Callback SocketError System Line Program ProgramEvent Unzipper MayConnect
  AnswersOnce)

/-! ## 1. The program -/

namespace ProviderPhone

/-- `(error as NSError?)!.code`; an error of the library's own is a structure, and bridges to 1. -/
def errorCode : SocketError → Int
  | .ws _ => 1
  | .stream code => code

/-- The delegate calls of `WebSocketManager`.  A handler of a message looks at the state of the
application and at the selected tab besides. -/
def handler (parse : String → Message) (k : ApplicationState × Nat) (socket : Nat) :
    Callback → Option PhoneEvent
  | .didConnect => some (.app (.onConnect socket))
  | .didDisconnect error => some (.didDisconnect socket (error.map errorCode))
  | .didReceiveMessage text => some (.app (.onMessage socket (parse text) k.1 k.2))
  | .didReceiveData _ => none
  | .didReceivePong _ => none

/-- The event is no call of the delegate. -/
def isOwn : PhoneEvent → Bool
  | .app (.onConnect _) => false
  | .app (.onDisconnect _) => false
  | .app (.onMessage _ _ _ _) => false
  | .didDisconnect _ _ => false
  | _ => true

/-- The app, with what it writes for a frame and what it reads in a text. -/
def program (distance : CLLocation → CLLocation → ℚ) (text : ProviderFrame → String)
    (parse : String → Message) :
    Program ProviderPhone PhoneEvent Trap ProviderFrame TripNotice (ApplicationState × Nat) where
  machine := machine distance
  made := fun p => p.app.sockets.sockets.length
  duties := duties
  text := text
  isOwn := isOwn
  handler := handler parse

/-- The app as the process starts it, without a socket. -/
def socketsStart (defaults : UserDefaults) : ProviderPhone × List Line :=
  ((launched defaults).1, [])

variable {distance : CLLocation → CLLocation → ℚ} {text : ProviderFrame → String}
  {parse : String → Message} {system : System}

/-- The app makes sockets and forgets none. -/
theorem made_le {p q : ProviderPhone} {e : PhoneEvent} (h : (machine distance).Step p e q) :
    p.app.sockets.sockets.length ≤ q.app.sockets.sockets.length := by
  cases step_endpoints h with
  | same sockets => rw [sockets]
  | request clientId sockets =>
    simp [sockets, WebSocketManager.connectClientProviderRequestSocket]
  | activated providerId sockets => simp [sockets, WebSocketManager.connectProviderSocket]

/-- **What the app relies on a link for is what a socket keeps to.** -/
theorem lawful : (program distance text parse).Lawful comesOver where
  made := made_le
  own := by
    intro link e h
    cases e with
    | app e =>
      cases e with
      | onConnect socket => exact absurd h (by simp [program, isOwn])
      | onMessage socket text state selectedIndex => exact absurd h (by simp [program, isOwn])
      | _ => rfl
    | didDisconnect socket code => exact absurd h (by simp [program, isOwn])
    | _ => rfl
  heard := by
    intro link k socket call e hcall hopened hoff
    cases call with
    | didConnect =>
      obtain rfl := Option.some.inj hcall
      simpa [comesOver] using hopened (.inl rfl)
    | didDisconnect error =>
      obtain rfl := Option.some.inj hcall
      simpa [comesOver] using hoff error rfl
    | didReceiveMessage text =>
      obtain rfl := Option.some.inj hcall
      simpa [comesOver] using hopened (.inr rfl)
    | didReceiveData data => exact absurd hcall (by simp [program, handler])
    | didReceivePong data => exact absurd hcall (by simp [program, handler])

/-! ## 2. A code that is typed -/

/-- A socket is connected, and the app hears of it. -/
def socketConnects (n : Nat) : List (ProgramEvent PhoneEvent (ApplicationState × Nat)) :=
  [.socket n (.streamConnected none), .socket n (.runOperation (fun _ => 0) [3]),
    .socket n (.newBytesInStream Starscream.switching fun _ => 0), .callback n (.active, 0) []]

/-- A text of one letter comes, and the app hears of it. -/
def hearing (n : Nat) (letter : UInt8) : List (ProgramEvent PhoneEvent (ApplicationState × Nat)) :=
  [.socket n (.newBytesInStream [0x81, 1, letter] fun _ => 0), .callback n (.active, 0) []]

/-- The key and the request that a socket is opened with. -/
def sampleOpening : String × Starscream.Data := ("dGhlIHNhbXBsZSBub25jZQ==", [71, 69, 84])

def sampleText : ProviderFrame → String
  | .reached _ => "reached"
  | _ => "other"

/-- `r` for a request of client 24, and any other text for the acceptance of provider 16. -/
def sampleParse (text : String) : Message :=
  if text = "r" then ProviderApp.requestText 24 "requested" else ProviderApp.acceptanceText 24 16

/-- The sheet of an accepted trip is open on connected sockets, and its code is typed. -/
def codeTyped : List (ProgramEvent PhoneEvent (ApplicationState × Nat)) :=
  [.own (.app .viewDidLoad) [], .own (.app (.viewWillAppear 0)) [],
    .own (.didUpdateLocations ⟨40, -73⟩) [],
    .own (.app (.switchValueChanged 0 true)) [sampleOpening]] ++
  socketConnects 0 ++ hearing 0 114 ++
  [.own (.app (.btnAcceptRequest 0)) [sampleOpening]] ++ socketConnects 1 ++ hearing 1 97 ++
  [.own (.app (.directionsReply 0 0 true)) [],
    .own (.app (.textFieldEditingChanged 0 "1234")) []]

/-- The frames go out, one after the other. -/
def codeGone : List (ProgramEvent PhoneEvent (ApplicationState × Nat)) :=
  codeTyped ++ [.socket 1 (.runOperation (fun _ => 7) [11]),
    .socket 1 (.runOperation (fun _ => 7) [13])]

/-! ## 3. Over links -/

/-- **Over sockets the app runs as it does over links**, where no server connects a socket again. -/
theorem runs_over_links (defaults : UserDefaults) {x : ProviderPhone × List Line}
    (h : ((program distance text parse).overSockets system).RunWhere
      (Program.Where (MayConnect system false)) (socketsStart defaults) x) :
    ∃ link, (linked distance).Run ((launched defaults).1, {}) (x.1, link) ∧
      (program distance text parse).Agrees link x :=
  Program.linked_of_run lawful rfl h

/-- A code is typed: the socket has connected, and the link with it. -/
theorem runs_over_links_code : ∃ (x : ProviderPhone × List Line) (link : Link),
    x.1.app.trips.length = 1 ∧ 1 ∈ link.connected ∧
    (linked fun _ _ => 0).Run
      ((launched (ProviderApp.sampleProvider 16).defaults).1, {}) (x.1, link) := by
  obtain ⟨x, hrun, htest⟩ := Machine.exists_run_of_replay
    ((program (fun _ _ => 0) sampleText sampleParse).overSockets .withoutZlib)
    (Program.whereTest fun l _ => decide (l.socket.told ≠ .offline))
    (socketsStart (ProviderApp.sampleProvider 16).defaults) codeTyped
    (fun x => x.1.app.trips.length == 1 && Program.isConnected x.2 1)
    (fun _ _ h => Program.where_of_test
      (fun _ _ hl => Starscream.mayConnect_of_told (of_decide_eq_true hl)) h)
    (by decide +kernel)
  simp only [Bool.and_eq_true, beq_iff_eq] at htest
  obtain ⟨link, hlinked, hagrees⟩ := runs_over_links _ hrun
  exact ⟨x, link, htest.1, (hagrees.connected 1).mpr htest.2, hlinked⟩

/-! ## 4. What the other side is told -/

/-- The condition on a step: if the user closes a sheet or types a code, the request socket is
connected. -/
def sends (distance : CLLocation → CLLocation → ℚ) (text : ProviderFrame → String)
    (parse : String → Message) :
    (ProviderPhone × List Line) × Starscream.Ledger TripNotice →
      ProgramEvent PhoneEvent (ApplicationState × Nat) → Bool :=
  (program distance text parse).tells leavesSheet fun p => p.app.sockets.clientproviderRequestSocket

/-- **When the other side is told, over sockets.** -/
theorem notices_sent (defaults : UserDefaults)
    {z : (ProviderPhone × List Line) × Starscream.Ledger TripNotice}
    (h : ((program distance text parse).owing system).Run (socketsStart defaults, {}) z) :
    z.2.unsent = [] ↔ ((program distance text parse).owing system).RunWhere
      (fun x e => sends distance text parse x e = true) (socketsStart defaults, {}) z :=
  Program.unsent_iff discharges covers_nil h

/-- The code is typed while the socket is connected. -/
theorem notices_sent_code : ∃ z : (ProviderPhone × List Line) × Starscream.Ledger TripNotice,
    z.2.owed.length = 1 ∧
    ((program (fun _ _ => 0) sampleText sampleParse).owing .withoutZlib).RunWhere
      (fun x e => sends (fun _ _ => 0) sampleText sampleParse x e = true)
      (socketsStart (ProviderApp.sampleProvider 16).defaults, {}) z := by
  obtain ⟨z, hrun, htest⟩ := Machine.exists_run_of_replay
    ((program (fun _ _ => 0) sampleText sampleParse).owing .withoutZlib) (fun _ _ => true)
    (socketsStart (ProviderApp.sampleProvider 16).defaults, {}) codeTyped
    (fun z => z.2.owed.length == 1 && z.2.unsent.isEmpty) (fun _ _ _ => trivial)
    (by decide +kernel)
  simp only [Bool.and_eq_true, beq_iff_eq, List.isEmpty_iff] at htest
  exact ⟨z, htest.1, (notices_sent _ hrun).mp htest.2⟩

/-- **What becomes of a notice**: a text that carries it was written on a connected socket, and the
server at the other end has heard it, or it is still queued. -/
theorem notices_heard (u : Unzipper system) (defaults : UserDefaults)
    {z : (ProviderPhone × List Line) × Starscream.Ledger TripNotice}
    (h : ((program distance text parse).owing system).RunWhere
      (fun x e => sends distance text parse x e = true ∧ Program.Where AnswersOnce x.1 e)
      (socketsStart defaults, {}) z) :
    ∀ notice ∈ z.2.owed, ∃ (n : Nat) (l : Line) (frame : ProviderFrame), z.1.2[n]? = some l ∧
      carries frame notice = true ∧ text frame ∈ l.texts ∧
      (l.requested = l.request.length → l.Open →
        ∃ read part, frames.pump [] (l.sent.drop l.request.length) = .waiting read part ∧
          (text frame ∈ (u.hears l.anew read).2 ∨ text frame ∈ l.queued)) := by
  intro notice hnotice
  have hsends : ((program distance text parse).owing system).RunWhere
      (fun x e => sends distance text parse x e = true) (socketsStart defaults, {}) z :=
    h.mono fun _ _ => And.left
  have hnone : z.2.unsent = [] :=
    (Program.unsent_iff (s := (launched defaults).1) discharges covers_nil h.run).mpr hsends
  have hreaches : (program distance text parse).Reaches u z :=
    Program.reaches_of_run u (h.mono fun _ _ => And.right)
  refine (hreaches notice hnotice).resolve_left ?_
  rw [hnone]
  exact List.not_mem_nil

/-- The code is typed, and its frame goes out. -/
theorem notices_heard_code : ∃ z : (ProviderPhone × List Line) × Starscream.Ledger TripNotice,
    z.2.owed.length = 1 ∧
    ∀ notice ∈ z.2.owed, ∃ (n : Nat) (l : Line) (frame : ProviderFrame), z.1.2[n]? = some l ∧
      carries frame notice = true ∧ sampleText frame ∈ l.texts ∧
      (l.requested = l.request.length → l.Open →
        ∃ read part, frames.pump [] (l.sent.drop l.request.length) = .waiting read part ∧
          (sampleText frame ∈ (Unzipper.hello.hears l.anew read).2 ∨
            sampleText frame ∈ l.queued)) := by
  obtain ⟨z, hrun, htest⟩ := Machine.exists_run_of_replay
    ((program (fun _ _ => 0) sampleText sampleParse).owing .hello)
    (fun x e => sends (fun _ _ => 0) sampleText sampleParse x e &&
      Program.whereTest Starscream.answersOnce x.1 e)
    (socketsStart (ProviderApp.sampleProvider 16).defaults, {}) codeGone
    (fun z => z.2.owed.length == 1)
    (fun _ _ h => (Bool.and_eq_true_iff.mp h).imp_right
      (Program.where_of_test fun _ _ => Starscream.answersOnce_of_test))
    (by decide +kernel)
  exact ⟨z, beq_iff_eq.mp htest, notices_heard Unzipper.hello _ hrun⟩

end ProviderPhone

end WeatherAccommodation
