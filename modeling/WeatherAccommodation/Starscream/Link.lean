/-
# A socket seen from outside

Where no server connects a socket again, a socket waits, is connected once, and drops: `Told.Moves`
is what becomes of it with the calls of one step.  So when the main queue runs a callback, one that
reports a connection or a message comes after the connection, and one that reports the end comes
when the socket is not connected.

* `Line.Sound.opened`, `Line.Sound.off`: what the next callback says about the socket.
-/
import WeatherAccommodation.Starscream.Life

namespace Starscream

open Reactive Streaming WireFormat

variable {system : System} {l t : Line} {call : Callback} {calls : List Callback}

/-! ## 1. One connection -/

namespace Told

variable {s u : Told}

/-- What the delegate knows before and after the calls. -/
inductive Moves : Told → List Callback → Told → Prop
  | same {s : Told} {calls : List Callback} (unheard : .didConnect ∉ calls) : Moves s calls s
  | connects {calls : List Callback} (heard : .didConnect ∈ calls) : Moves .waiting calls .online
  | connectsAndDrops {calls : List Callback} (heard : .didConnect ∈ calls) :
      Moves .waiting calls .offline
  | fails {calls : List Callback} (unheard : .didConnect ∉ calls) : Moves .waiting calls .offline
  | drops {calls : List Callback} (unheard : .didConnect ∉ calls) : Moves .online calls .offline

/-- After the end nothing is heard. -/
theorem eq_nil_of_offline (h : calls.foldlM (hears false) .offline = some u) :
    calls = [] ∧ u = .offline := by
  cases calls with
  | nil => exact ⟨rfl, (Option.some.inj h).symm⟩
  | cons call calls =>
    rw [List.foldlM_cons] at h
    cases call <;> exact absurd h (by simp [hears])

theorem moves_of_online (h : calls.foldlM (hears false) .online = some u) :
    Callback.didConnect ∉ calls ∧ (u = .online ∨ u = .offline) := by
  induction calls with
  | nil => exact ⟨by simp, .inl (Option.some.inj h).symm⟩
  | cons call calls ih =>
    rw [List.foldlM_cons] at h
    cases call with
    | didConnect => exact absurd h (by simp [hears])
    | didDisconnect error =>
      obtain ⟨rfl, rfl⟩ := eq_nil_of_offline h
      exact ⟨by simp, .inr rfl⟩
    | didReceiveMessage text => exact ⟨by simp [(ih h).1], (ih h).2⟩
    | didReceiveData data => exact ⟨by simp [(ih h).1], (ih h).2⟩
    | didReceivePong data => exact ⟨by simp [(ih h).1], (ih h).2⟩

theorem moves_of_waiting (h : calls.foldlM (hears false) .waiting = some u) :
    Moves .waiting calls u := by
  cases calls with
  | nil =>
    obtain rfl := Option.some.inj h
    exact .same (by simp)
  | cons call calls =>
    rw [List.foldlM_cons] at h
    cases call with
    | didConnect =>
      rcases (moves_of_online h).2 with rfl | rfl
      · exact .connects (by simp)
      · exact .connectsAndDrops (by simp)
    | didDisconnect error =>
      obtain ⟨rfl, rfl⟩ := eq_nil_of_offline h
      exact .fails (by simp)
    | didReceiveMessage text => exact absurd h (by simp [hears])
    | didReceiveData data => exact absurd h (by simp [hears])
    | didReceivePong data => exact absurd h (by simp [hears])

/-- **A socket connects once, and drops.** -/
theorem moves (h : calls.foldlM (hears false) s = some u) : Moves s calls u := by
  cases s with
  | waiting => exact moves_of_waiting h
  | online =>
    obtain ⟨hnot, rfl | rfl⟩ := moves_of_online h
    · exact .same hnot
    · exact .drops hnot
  | offline =>
    obtain ⟨rfl, rfl⟩ := eq_nil_of_offline h
    exact .same (by simp)

end Told

/-! ## 2. The next callback -/

theorem told_eq_online (ws : WebSocket) : ws.told = .online ↔ ws.connected = true := by
  unfold WebSocket.told
  split
  · rename_i hon
    simp [hon]
  · rename_i hoff
    split
    · simp [hoff]
    · simp [hoff]

theorem connected_eq_false {ws : WebSocket} (h : ws.told ≠ .online) : ws.connected = false := by
  by_contra hon
  exact h ((told_eq_online ws).mpr (by simpa using hon))

/-- The delegate has heard of a connection, or will hear of one. -/
def Line.Opened (l : Line) : Prop := .didConnect ∈ l.story

instance (l : Line) : Decidable l.Opened := inferInstanceAs (Decidable (_ ∈ _))

/-- What the delegate knows before and after the next callback. -/
theorem Line.Sound.next (hl : l.Sound false) (hqueue : l.socket.callbackQueue = call :: calls) :
    ∃ s u, l.called.foldlM (Told.hears false) .waiting = some s ∧ s.hears false call = some u ∧
      calls.foldlM (Told.hears false) u = some l.socket.told := by
  have hstory := hl.story
  rw [Line.story, hqueue, List.foldlM_append] at hstory
  obtain ⟨s, hs, hrest⟩ := Option.bind_eq_some_iff.mp hstory
  rw [List.foldlM_cons] at hrest
  obtain ⟨u, hu, hcalls⟩ := Option.bind_eq_some_iff.mp hrest
  exact ⟨s, u, hs, hu, hcalls⟩

/-- A message comes after the connection. -/
theorem Line.Sound.opened (hl : l.Sound false) (hqueue : l.socket.callbackQueue = call :: calls)
    (hcall : call = .didConnect ∨ call.isMessage = true) : l.Opened := by
  rcases hcall with rfl | hmessage
  · simp [Line.Opened, Line.story, hqueue]
  · obtain ⟨s, u, hs, hu, -⟩ := hl.next hqueue
    have honline : s = .online := by
      cases s with
      | online => rfl
      | _ => cases call <;> simp [Told.hears, Callback.isMessage] at hu hmessage
    subst honline
    cases Told.moves_of_waiting hs with
    | connects heard => exact List.mem_append_left _ heard

/-- The end of a connection comes when it has ended. -/
theorem Line.Sound.off (hl : l.Sound false) {error : Option SocketError}
    (hqueue : l.socket.callbackQueue = .didDisconnect error :: calls) :
    l.socket.connected = false := by
  obtain ⟨s, u, -, hu, hcalls⟩ := hl.next hqueue
  have hoffline : u = .offline := by
    cases s with
    | offline => exact absurd hu (by simp [Told.hears])
    | _ => exact (Option.some.inj hu).symm
  subst hoffline
  exact connected_eq_false (by simp [(Told.eq_nil_of_offline hcalls).2])

/-! ## 3. Connected, and ever connected -/

/-- What a step does to a link: the socket connects, drops, or does neither. -/
inductive Line.Links (l t : Line) : Prop
  | same (connected : t.socket.connected = l.socket.connected) (opened : t.Opened ↔ l.Opened)
  | connects (before : ¬l.Opened) (connected : t.socket.connected = true) (opened : t.Opened)
  | connectsAndDrops (before : ¬l.Opened) (connected : t.socket.connected = false)
      (opened : t.Opened)
  | drops (before : l.socket.connected = true) (connected : t.socket.connected = false)
      (opened : t.Opened ↔ l.Opened)

/-- A socket that waits has not been connected. -/
theorem Line.Sound.not_opened (hl : l.Sound false) (hwaits : l.socket.told = .waiting) :
    ¬l.Opened := by
  have hstory := hl.story
  rw [hwaits] at hstory
  cases Told.moves_of_waiting hstory with
  | same unheard => exact unheard

/-- **A step of a socket is one of a link.** -/
theorem Line.Sound.links (hl : l.Sound false) (ht : l.Tells false t) : l.Links t := by
  obtain ⟨calls, hcalls, htold⟩ := ht.calls
  have hopened : t.Opened ↔ l.Opened ∨ .didConnect ∈ calls := by
    rw [Line.Opened, hcalls, List.mem_append]
    rfl
  generalize hs : l.socket.told = s at htold
  generalize hu : t.socket.told = u at htold
  cases Told.moves htold with
  | same unheard =>
    refine .same ?_ (by simp [hopened, unheard])
    rw [Bool.eq_iff_iff, ← told_eq_online, ← told_eq_online, hs, hu]
  | connects heard =>
    exact .connects (hl.not_opened hs) ((told_eq_online _).mp hu) (hopened.mpr (.inr heard))
  | connectsAndDrops heard =>
    exact .connectsAndDrops (hl.not_opened hs) (connected_eq_false (by simp [hu]))
      (hopened.mpr (.inr heard))
  | fails unheard =>
    refine .same ?_ (by simp [hopened, unheard])
    have hbefore : l.socket.connected = false := connected_eq_false (by simp [hs])
    have hafter : t.socket.connected = false := connected_eq_false (by simp [hu])
    rw [hbefore, hafter]
  | drops unheard =>
    exact .drops ((told_eq_online _).mp hs) (connected_eq_false (by simp [hu]))
      (by simp [hopened, unheard])

end Starscream
