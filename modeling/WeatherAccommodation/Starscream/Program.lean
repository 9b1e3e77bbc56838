/-
# A program over sockets

An app makes sockets, writes on them, and is called back.  `Program` says what of an app that is,
and `overSockets` runs it over the sockets of this library: a socket that is made is connected at
once, a frame is written as its text, and a callback that the main queue runs is handled if there is
somebody to handle it.  Whatever else happens to a socket happens between two events of the program.

* `line_of_run`: each of its sockets is one;
* `linked_of_run`: the program runs as it does over links.
-/
import WeatherAccommodation.Library.Link
import WeatherAccommodation.Starscream.Link

namespace Starscream

open Reactive

/-! ## 1. The machine -/

structure Program (σ ε τ φ ν κ : Type) where
  machine : Machine σ ε τ
  /-- How many sockets there are. -/
  made : σ → Nat
  duties : Duties σ ε φ ν
  text : φ → String
  /-- The event is none that a socket brings about. -/
  isOwn : ε → Bool
  /-- What a callback of the socket with a number comes to, with what else `κ` there is to it. -/
  handler : κ → Nat → Callback → Option ε

inductive ProgramEvent (ε κ : Type) where
  | own (e : ε) (openings : List (String × Data))
  | socket (n : Nat) (e : Event)
  | callback (n : Nat) (k : κ) (openings : List (String × Data))

/-- The events that neither the program nor the main queue brings about; the request to close may
come at any moment. -/
def Event.isOutside : Event → Bool
  | .connect _ _ => false
  | .write _ => false
  | .runCallback => false
  | _ => true

/-- `write(string:)`, for each of them -/
def Line.writes (l : Line) (strings : List String) : Line :=
  strings.foldl (fun l string => { l with
    socket := l.socket.write string
    texts := if l.socket.connected then l.texts ++ [string] else l.texts }) l

/-- The callback has been run. -/
def Line.shift (l : Line) (call : Callback) (calls : List Callback) : Line :=
  { l with socket := { l.socket with callbackQueue := calls }, called := l.called ++ [call] }

/-- Each socket gets what was written on it. -/
def deliver (lines : List Line) (written : List (Nat × String)) : List Line :=
  lines.mapIdx fun n l => l.writes ((written.filter fun w => w.1 == n).map Prod.snd)

namespace Program

variable {σ ε τ φ ν κ : Type} (P : Program σ ε τ φ ν κ)

/-- The frames that a step has written. -/
def newFrames (s t : σ) : List (Nat × φ) := (P.duties.frames t).drop (P.duties.frames s).length

def written (s t : σ) : List (Nat × String) := (P.newFrames s t).map fun w => (w.1, P.text w.2)

/-- The sockets after a step, of which the last are new. -/
def linesAfter (s t : σ) (lines : List Line) (openings : List (String × Data)) : List Line :=
  deliver (lines ++ openings.map fun o => Line.opening o.1 o.2) (P.written s t)

def settle (s : σ) (lines : List Line) (openings : List (String × Data)) :
    Except τ σ → Option (Except (τ ⊕ Trap) (σ × List Line))
  | .error fault => some (.error (.inl fault))
  | .ok t =>
    if openings.length = P.made t - P.made s then
      some (.ok (t, P.linesAfter s t lines openings))
    else none

def overSockets (system : System) : Machine (σ × List Line) (ProgramEvent ε κ) (τ ⊕ Trap) where
  react := fun (s, lines) e =>
    match e with
    | .own e openings =>
      if P.isOwn e then (P.machine.react s e).bind (P.settle s lines openings) else none
    | .socket n e =>
      if e.isOutside then
        lines[n]?.bind fun l =>
          ((line system).react l e).map fun r => (r.mapError .inr).map fun t => (s, lines.set n t)
      else none
    | .callback n k openings =>
      lines[n]?.bind fun l =>
        match l.socket.callbackQueue with
        | [] => none
        | call :: calls =>
          let lines := lines.set n (l.shift call calls)
          match (P.handler k n call).bind (P.machine.react s) with
          | some r => P.settle s lines openings r
          | none => if openings = [] then some (.ok (s, lines)) else none

/-- What a step leaves behind. -/
inductive Moved (system : System) (x y : σ × List Line) : ProgramEvent ε κ → Prop
  | own {e : ε} {openings : List (String × Data)} (isOwn : P.isOwn e = true)
      (step : P.machine.Step x.1 e y.1) (size : openings.length = P.made y.1 - P.made x.1)
      (lines : y.2 = P.linesAfter x.1 y.1 x.2 openings) : Moved system x y (.own e openings)
  | socket {n : Nat} {e : Event} {l t : Line} (listed : x.2[n]? = some l)
      (step : (line system).Step l e t) (same : y.1 = x.1) (lines : y.2 = x.2.set n t) :
      Moved system x y (.socket n e)
  | handled {n : Nat} {k : κ} {openings : List (String × Data)} {l : Line} {call : Callback}
      {calls : List Callback} {e : ε} (listed : x.2[n]? = some l)
      (queue : l.socket.callbackQueue = call :: calls) (handler : P.handler k n call = some e)
      (step : P.machine.Step x.1 e y.1) (size : openings.length = P.made y.1 - P.made x.1)
      (lines : y.2 = P.linesAfter x.1 y.1 (x.2.set n (l.shift call calls)) openings) :
      Moved system x y (.callback n k openings)
  | unhandled {n : Nat} {k : κ} {l : Line} {call : Callback} {calls : List Callback}
      (listed : x.2[n]? = some l) (queue : l.socket.callbackQueue = call :: calls)
      (nobody : (P.handler k n call).bind (P.machine.react x.1) = none) (same : y.1 = x.1)
      (lines : y.2 = x.2.set n (l.shift call calls)) : Moved system x y (.callback n k [])

variable {P} {system : System} {x y : σ × List Line} {e : ProgramEvent ε κ}

theorem settle_inv {s : σ} {lines : List Line} {openings : List (String × Data)} {r : Except τ σ}
    (h : P.settle s lines openings r = some (.ok y)) :
    r = .ok y.1 ∧ openings.length = P.made y.1 - P.made s ∧
      y.2 = P.linesAfter s y.1 lines openings := by
  cases r with
  | error fault => exact absurd h (by simp [settle])
  | ok t =>
    simp only [settle] at h
    split at h
    · rename_i hsize
      obtain rfl := Except.ok.inj (Option.some.inj h)
      exact ⟨rfl, hsize, rfl⟩
    · exact absurd h (by simp)

theorem moved (h : (P.overSockets system).Step x e y) : P.Moved system x y e := by
  obtain ⟨s, lines⟩ := x
  unfold Machine.Step overSockets at h
  cases e with
  | own e openings =>
    dsimp only at h
    split at h
    · rename_i hown
      obtain ⟨r, hr, hsettle⟩ := Option.bind_eq_some_iff.mp h
      obtain ⟨rfl, hsize, hlines⟩ := settle_inv hsettle
      exact .own hown hr hsize hlines
    · exact absurd h (by simp)
  | socket n e =>
    dsimp only at h
    split at h
    · obtain ⟨l, hlisted, hstep⟩ := Option.bind_eq_some_iff.mp h
      obtain ⟨t, ht, rfl⟩ := handled_mapError_eq_ok.mp hstep
      exact .socket hlisted ht rfl rfl
    · exact absurd h (by simp)
  | callback n k openings =>
    dsimp only at h
    obtain ⟨l, hlisted, hcall⟩ := Option.bind_eq_some_iff.mp h
    cases hqueue : l.socket.callbackQueue with
    | nil => exact absurd hcall (by simp [hqueue])
    | cons call calls =>
      simp only [hqueue] at hcall
      cases hreact : (P.handler k n call).bind (P.machine.react s) with
      | none =>
        simp only [hreact] at hcall
        split at hcall
        · rename_i hnew
          subst hnew
          obtain rfl := Except.ok.inj (Option.some.inj hcall)
          exact .unhandled hlisted hqueue hreact rfl rfl
        · exact absurd hcall (by simp)
      | some r =>
        simp only [hreact] at hcall
        obtain ⟨rfl, hsize, hlines⟩ := settle_inv hcall
        obtain ⟨e, hhandler, hstep⟩ := Option.bind_eq_some_iff.mp hreact
        exact .handled hlisted hqueue hhandler hstep hsize hlines

end Program

/-! ## 2. The sockets of a program -/

/-- The condition is one on the input. -/
def OnInput (C : Line → Event → Prop) : Prop :=
  ∀ l e, (∀ data beyond, e ≠ .newBytesInStream data beyond) → C l e

section Lines

variable {system : System} {C : Line → Event → Prop} {l : Line}

theorem run_writes (hC : OnInput C) (l : Line) (strings : List String) :
    (line system).RunWhere C l (l.writes strings) := by
  induction strings generalizing l with
  | nil => exact .refl
  | cons string strings ih =>
    have hfirst : (line system).RunWhere C l (l.writes [string]) :=
      .tail .refl (hC l (.write string) (by simp)) rfl
    exact hfirst.trans (ih _)

theorem step_shift {call : Callback} {calls : List Callback}
    (hqueue : l.socket.callbackQueue = call :: calls) :
    (line system).Step l .runCallback (l.shift call calls) := by
  simp [Machine.Step, line, hqueue, Line.shift]

theorem run_shift (hC : OnInput C) {call : Callback} {calls : List Callback}
    (hqueue : l.socket.callbackQueue = call :: calls) :
    (line system).RunWhere C l (l.shift call calls) :=
  .tail .refl (hC l .runCallback (by simp)) (step_shift hqueue)

/-- A socket is connected at once. -/
theorem run_opening (hC : OnInput C) (secKey : String) (request : Data) :
    (line system).RunWhere C {} (.opening secKey request) :=
  .tail .refl (hC {} (.connect secKey request) (by simp)) rfl

theorem writes_socket (l : Line) (strings : List String) :
    (l.writes strings).socket.connected = l.socket.connected ∧
      (l.writes strings).story = l.story := by
  induction strings generalizing l with
  | nil => exact ⟨rfl, rfl⟩
  | cons string strings ih =>
    have hfirst : (l.writes [string]).socket.connected = l.socket.connected ∧
        (l.writes [string]).story = l.story := by
      simp only [Line.writes, List.foldl_cons, List.foldl_nil, Line.story, WebSocket.write]
      split
      · exact ⟨rfl, rfl⟩
      · exact ⟨rfl, rfl⟩
    obtain ⟨hconnected, hstory⟩ := ih (l.writes [string])
    exact ⟨hconnected.trans hfirst.1, hstory.trans hfirst.2⟩

theorem Line.Sound.run {again : Bool} {t : Line} (hl : l.Sound again)
    (h : (line system).RunWhere (MayConnect system again) l t) : t.Sound again :=
  h.invariant (I := fun l => l.Sound again) hl fun _ _ _ ha hmay hstep =>
    ha.step hmay (Starscream.stepped (.inr ha.live) hstep)

theorem onInput_mayConnect (system : System) (again : Bool) :
    OnInput (MayConnect system again) := by
  intro l e h
  cases e with
  | newBytesInStream data beyond => exact absurd rfl (h data beyond)
  | _ => trivial

end Lines

namespace Program

variable {σ ε τ φ ν κ : Type} {P : Program σ ε τ φ ν κ} {system : System} {x y : σ × List Line}
  {e : ProgramEvent ε κ} {C : Line → Event → Prop} {s t : σ} {lines : List Line}
  {openings : List (String × Data)} {n : Nat} {l m : Line}

/-- The condition on the steps of a program that is one on those of its sockets. -/
def Where (C : Line → Event → Prop) (x : σ × List Line) : ProgramEvent ε κ → Prop
  | .socket n e => ∀ l, x.2[n]? = some l → C l e
  | _ => True

/-- The same as a test. -/
def whereTest (c : Line → Event → Bool) (x : σ × List Line) : ProgramEvent ε κ → Bool
  | .socket n e => x.2[n]?.all fun l => c l e
  | _ => true

theorem where_of_test {c : Line → Event → Bool} (hc : ∀ l e, c l e = true → C l e)
    (h : whereTest c x e = true) : Where C x e := by
  cases e with
  | socket n e =>
    intro l hl
    have htest : c l e = true := by simpa [whereTest, hl] using h
    exact hc l e htest
  | _ => trivial

theorem where_mayConnect (system : System) (x : σ × List Line) (e : ProgramEvent ε κ) :
    Where (MayConnect system true) x e := by
  cases e with
  | socket n e => exact fun l _ => mayConnect system l e
  | _ => trivial

/-- After a step of the program a socket has been written on, if it is not new. -/
theorem writes_of_linesAfter (h : (P.linesAfter s t lines openings)[n]? = some m) :
    ∃ l strings, m = l.writes strings ∧
      (lines[n]? = some l ∨ ∃ secKey request, l = .opening secKey request) := by
  rw [linesAfter, deliver, List.getElem?_mapIdx] at h
  obtain ⟨l, hl, rfl⟩ := Option.map_eq_some_iff.mp h
  refine ⟨l, _, rfl, ?_⟩
  rw [List.getElem?_append] at hl
  split at hl
  · exact .inl hl
  · obtain ⟨o, -, rfl⟩ := List.mem_map.mp (List.mem_of_getElem? hl)
    exact .inr ⟨o.1, o.2, rfl⟩

/-- A socket stays one. -/
theorem Moved.exists_run (h : P.Moved system x y e) (hC : OnInput C) (hwhere : Where C x e)
    (hm : y.2[n]? = some m) :
    ∃ l, (x.2[n]? = some l ∨ ∃ secKey request, l = .opening secKey request) ∧
      (line system).RunWhere C l m := by
  have hset : ∀ {k : Nat} {l t : Line}, x.2[k]? = some l → (line system).RunWhere C l t →
      ∀ {u : Line}, (x.2.set k t)[n]? = some u →
        ∃ l, x.2[n]? = some l ∧ (line system).RunWhere C l u := by
    intro k l t hlisted hrun u hu
    rw [List.getElem?_set] at hu
    split at hu
    · rename_i hkn
      subst hkn
      split at hu
      · obtain rfl := Option.some.inj hu
        exact ⟨l, hlisted, hrun⟩
      · exact absurd hu (by simp)
    · exact ⟨u, hu, .refl⟩
  cases h with
  | own isOwn step size lines =>
    obtain ⟨l, strings, rfl, hl⟩ := writes_of_linesAfter (lines ▸ hm)
    exact ⟨l, hl, run_writes hC l strings⟩
  | socket listed step same lines =>
    obtain ⟨l, hl, hrun⟩ := hset listed (.tail .refl (hwhere _ listed) step) (lines ▸ hm)
    exact ⟨l, .inl hl, hrun⟩
  | handled listed queue handler step size lines =>
    obtain ⟨u, strings, rfl, hu⟩ := writes_of_linesAfter (lines ▸ hm)
    rcases hu with hu | hnew
    · obtain ⟨l, hl, hrun⟩ := hset listed (run_shift hC queue) hu
      exact ⟨l, .inl hl, hrun.trans (run_writes hC u strings)⟩
    · exact ⟨u, .inr hnew, run_writes hC u strings⟩
  | unhandled listed queue nobody same lines =>
    obtain ⟨l, hl, hrun⟩ := hset listed (run_shift hC queue) (lines ▸ hm)
    exact ⟨l, .inl hl, hrun⟩

theorem Moved.sound {again : Bool} (h : P.Moved system x y e)
    (hwhere : Where (MayConnect system again) x e) (hx : ∀ l ∈ x.2, l.Sound again) :
    ∀ m ∈ y.2, m.Sound again := by
  intro m hm
  obtain ⟨n, hn⟩ := List.mem_iff_getElem?.mp hm
  obtain ⟨l, hold | ⟨secKey, request, rfl⟩, hrun⟩ :=
    h.exists_run (onInput_mayConnect system again) hwhere hn
  · exact (hx l (List.mem_of_getElem? hold)).run hrun
  · exact (sound_opening secKey request).run hrun

/-- **Each socket of a program is a socket.** -/
theorem line_of_run (hC : OnInput C)
    (h : (P.overSockets system).RunWhere (Where C) (s, []) x) (hl : x.2[n]? = some l) :
    (line system).RunWhere C {} l := by
  refine h.invariant (I := fun x => ∀ n l, x.2[n]? = some l → (line system).RunWhere C {} l)
    (by simp) (fun a e b ha hwhere hstep n m hm => ?_) n l hl
  obtain ⟨l, hold | ⟨secKey, request, rfl⟩, hrun⟩ := (moved hstep).exists_run hC hwhere hm
  · exact (ha n l hold).trans hrun
  · exact (run_opening hC secKey request).trans hrun

/-! ## 3. Over links -/

/-- The socket with a number is there, and passes the test. -/
def looks (lines : List Line) (test : Line → Bool) (n : Nat) : Bool := lines[n]?.any test

def isConnected (lines : List Line) (n : Nat) : Bool := looks lines (fun l => l.socket.connected) n

theorem looks_set {test : Line → Bool} (hlisted : lines[n]? = some l) (k : Nat) :
    looks (lines.set n m) test k = if n = k then test m else looks lines test k := by
  unfold looks
  by_cases hnk : n = k
  · subst hnk
    have hlt := (List.getElem?_eq_some_iff.mp hlisted).1
    rw [if_pos rfl, List.getElem?_set_self hlt, Option.any_some]
  · rw [if_neg hnk, List.getElem?_set_ne hnk]

/-- What writing does not change looks the same after a step of the program. -/
theorem looks_linesAfter {test : Line → Bool}
    (hwrites : ∀ l strings, test (l.writes strings) = test l)
    (hnew : ∀ secKey request, test (.opening secKey request) = false) (k : Nat) :
    looks (P.linesAfter s t lines openings) test k = looks lines test k := by
  unfold looks linesAfter deliver
  rw [List.getElem?_mapIdx, Option.any_map, List.getElem?_append]
  split
  · simp [hwrites]
  · rename_i hge
    rw [List.getElem?_eq_none (by omega : lines.length ≤ k)]
    cases hopening : (openings.map fun o => Line.opening o.1 o.2)[k - lines.length]? with
    | none => rfl
    | some l =>
      obtain ⟨o, -, rfl⟩ := List.mem_map.mp (List.mem_of_getElem? hopening)
      simp [hwrites, hnew]

/-- What the program relies on a link for. -/
structure Lawful (P : Program σ ε τ φ ν κ) (admits : Link → ε → Bool) : Prop where
  made : ∀ {s e t}, P.machine.Step s e t → P.made s ≤ P.made t
  own : ∀ link {e}, P.isOwn e = true → admits link e = true
  heard : ∀ {link k n call e}, P.handler k n call = some e →
    (call = .didConnect ∨ call.isMessage = true → n ∈ link.opened) →
    (∀ error, call = .didDisconnect error → n ∉ link.connected) → admits link e = true

/-- The link is what the sockets are. -/
structure Agrees (P : Program σ ε τ φ ν κ) (link : Link) (x : σ × List Line) : Prop where
  made : x.2.length = P.made x.1
  connected : ∀ n, n ∈ link.connected ↔ isConnected x.2 n = true
  opened : ∀ n, n ∈ link.opened ↔ looks x.2 (fun l => decide l.Opened) n = true

variable {link : Link} {admits : Link → ε → Bool}

theorem isConnected_linesAfter (k : Nat) :
    isConnected (P.linesAfter s t lines openings) k = isConnected lines k :=
  looks_linesAfter (fun l strings => (writes_socket l strings).1) (fun _ _ => rfl) k

theorem opened_linesAfter (k : Nat) :
    looks (P.linesAfter s t lines openings) (fun l => decide l.Opened) k =
      looks lines (fun l => decide l.Opened) k :=
  looks_linesAfter (fun l strings => decide_eq_decide.mpr
    (by rw [Line.Opened, Line.Opened, (writes_socket l strings).2]))
    (fun _ _ => rfl) k

/-- A step of the program leaves the link as it is. -/
theorem Agrees.after (h : P.Agrees link (s, lines)) (hP : P.Lawful admits) {ev : ε}
    (hstep : P.machine.Step s ev t) (hsize : openings.length = P.made t - P.made s) :
    P.Agrees link (t, P.linesAfter s t lines openings) where
  made := by
    have hmade : lines.length = P.made s := h.made
    have hgrows := hP.made hstep
    simp only [linesAfter, deliver, List.length_mapIdx, List.length_append, List.length_map]
    omega
  connected := fun n => by rw [isConnected_linesAfter]; exact h.connected n
  opened := fun n => by rw [opened_linesAfter]; exact h.opened n

theorem Agrees.connected_iff (h : P.Agrees link (s, lines)) (hlisted : lines[n]? = some l) :
    n ∈ link.connected ↔ l.socket.connected = true := by
  rw [h.connected n]
  simp [isConnected, looks, hlisted]

theorem Agrees.opened_iff (h : P.Agrees link (s, lines)) (hlisted : lines[n]? = some l) :
    n ∈ link.opened ↔ l.Opened := by
  rw [h.opened n]
  simp [looks, hlisted]

/-- One socket moves, and the link with it. -/
theorem Agrees.set (h : P.Agrees link (s, lines)) (hlisted : lines[n]? = some l) {moved : Link}
    (hconnected : ∀ k, k ∈ moved.connected ↔
      if n = k then m.socket.connected = true else k ∈ link.connected)
    (hopened : ∀ k, k ∈ moved.opened ↔ if n = k then m.Opened else k ∈ link.opened) :
    P.Agrees moved (s, lines.set n m) where
  made := by rw [List.length_set]; exact h.made
  connected := by
    intro k
    rw [isConnected, looks_set hlisted, hconnected k]
    split
    · rfl
    · exact h.connected k
  opened := by
    intro k
    rw [looks_set hlisted, hopened k]
    split
    · exact decide_eq_true_iff.symm
    · exact h.opened k

/-- A socket that looks the same leaves the link as it is. -/
theorem Agrees.set_same (h : P.Agrees link (s, lines)) (hlisted : lines[n]? = some l)
    (hconnected : m.socket.connected = l.socket.connected)
    (hopened : m.Opened ↔ l.Opened) : P.Agrees link (s, lines.set n m) := by
  refine h.set hlisted (fun k => ?_) fun k => ?_
  · split
    · rename_i hnk
      rw [← hnk, h.connected_iff hlisted, hconnected]
    · rfl
  · split
    · rename_i hnk
      rw [← hnk, h.opened_iff hlisted, hopened]
    · rfl

/-- A callback that is run leaves the link as it is. -/
theorem Agrees.shift (h : P.Agrees link (s, lines)) (hlisted : lines[n]? = some l)
    {call : Callback} {calls : List Callback} (hqueue : l.socket.callbackQueue = call :: calls) :
    P.Agrees link (s, lines.set n (l.shift call calls)) := by
  refine h.set_same hlisted rfl ?_
  simp [Line.shift, Line.Opened, Line.story, hqueue]

/-- **What happens to a socket happens to a link.** -/
theorem Agrees.socket (h : P.Agrees link (s, lines)) (hlisted : lines[n]? = some l)
    (hl : l.Sound false) (hm : l.Tells false m) :
    ∃ moved, (P.machine.linked P.made admits).Run (s, link) (s, moved) ∧
      P.Agrees moved (s, lines.set n m) := by
  have hlt : n < P.made s := by
    rw [← h.made]
    exact (List.getElem?_eq_some_iff.mp hlisted).1
  have hconnects : ¬l.Opened →
      (P.machine.linked P.made admits).Step (s, link) (.connects n) (s, link.connect n) := by
    intro hnot
    have hfresh : n ∉ link.opened := fun hmem => hnot ((h.opened_iff hlisted).mp hmem)
    simp [Machine.Step, Machine.linked, hlt, hfresh]
  have hdrops : ∀ {other : Link}, n ∈ other.connected →
      (P.machine.linked P.made admits).Step (s, other) (.drops n) (s, other.drop n) := by
    intro other hmem
    simp [Machine.Step, Machine.linked, hmem]
  cases hl.links hm with
  | same connected opened =>
    exact ⟨link, .refl, h.set_same hlisted connected opened⟩
  | connects before connected opened =>
    refine ⟨link.connect n, .tail .refl trivial (hconnects before),
      h.set hlisted (fun k => ?_) fun k => ?_⟩
    · by_cases hnk : n = k
      · simp [Link.connect, hnk, connected]
      · simp [Link.connect, hnk, Ne.symm hnk]
    · by_cases hnk : n = k
      · simp [Link.connect, hnk, opened]
      · simp [Link.connect, hnk, Ne.symm hnk]
  | connectsAndDrops before connected opened =>
    refine ⟨(link.connect n).drop n,
      .tail (.tail .refl trivial (hconnects before)) trivial (hdrops (by simp [Link.connect])),
      h.set hlisted (fun k => ?_) fun k => ?_⟩
    · by_cases hnk : n = k
      · simp [Link.connect, Link.drop, hnk, connected]
      · simp [Link.connect, Link.drop, hnk, Ne.symm hnk]
    · by_cases hnk : n = k
      · simp [Link.connect, Link.drop, hnk, opened]
      · simp [Link.connect, Link.drop, hnk, Ne.symm hnk]
  | drops before connected opened =>
    refine ⟨link.drop n, .tail .refl trivial (hdrops ((h.connected_iff hlisted).mpr before)),
      h.set hlisted (fun k => ?_) fun k => ?_⟩
    · by_cases hnk : n = k
      · simp [Link.drop, hnk, connected]
      · simp [Link.drop, hnk, Ne.symm hnk]
    · by_cases hnk : n = k
      · subst hnk
        rw [if_pos rfl, opened]
        exact h.opened_iff hlisted
      · simp [Link.drop, hnk]

/-- One step of the program over sockets is a run of it over links. -/
theorem Agrees.step (h : P.Agrees link x) (hP : P.Lawful admits) (hmoved : P.Moved system x y e)
    (hsound : ∀ l ∈ x.2, l.Sound false) (hwhere : Where (MayConnect system false) x e) :
    ∃ moved, (P.machine.linked P.made admits).Run (x.1, link) (y.1, moved) ∧
      P.Agrees moved y := by
  obtain ⟨s, lines⟩ := x
  obtain ⟨t, lines'⟩ := y
  have hof : ∀ {ev : ε}, admits link ev = true → P.machine.Step s ev t →
      (P.machine.linked P.made admits).Run (s, link) (t, link) := by
    intro ev hadmits hstep
    have hreact : P.machine.react s ev = some (.ok t) := hstep
    refine .tail (e := .of ev) .refl trivial ?_
    simp [Machine.Step, Machine.linked, hadmits, hreact, Except.map]
  cases hmoved with
  | own isOwn step size lines =>
    dsimp only at lines
    subst lines
    exact ⟨link, hof (hP.own link isOwn) step, h.after hP step size⟩
  | socket listed step same lines =>
    dsimp only at same lines
    subst same lines
    have hl := hsound _ (List.mem_of_getElem? listed)
    exact h.socket listed hl
      (tells_of_stepped hl.live (hwhere _ listed) (stepped (.inr hl.live) step))
  | @handled n k openings l call calls ev listed queue handler step size lines =>
    dsimp only at lines
    subst lines
    have hl := hsound l (List.mem_of_getElem? listed)
    have hadmits : admits link ev = true := by
      refine hP.heard handler (fun hcall => ?_) fun error herror => ?_
      · exact (h.opened_iff listed).mpr (hl.opened queue hcall)
      · subst herror
        rw [h.connected_iff listed, hl.off queue]
        exact Bool.false_ne_true
    exact ⟨link, hof hadmits step, (h.shift listed queue).after hP step size⟩
  | unhandled listed queue nobody same lines =>
    dsimp only at same lines
    subst same lines
    exact ⟨link, .refl, h.shift listed queue⟩

/-- **A program over sockets runs as it does over links**, where no server connects a socket
again. -/
theorem linked_of_run (hP : P.Lawful admits) (hmade : P.made s = 0)
    (h : (P.overSockets system).RunWhere (Where (MayConnect system false)) (s, []) x) :
    ∃ link, (P.machine.linked P.made admits).Run (s, {}) (x.1, link) ∧ P.Agrees link x := by
  have hstart : P.Agrees {} (s, []) := {
    made := hmade.symm
    connected := by simp [isConnected, looks]
    opened := by simp [looks] }
  have hends := h.invariant (I := fun x => (∀ l ∈ x.2, l.Sound false) ∧
    ∃ link, (P.machine.linked P.made admits).Run (s, {}) (x.1, link) ∧ P.Agrees link x)
    ⟨by simp, {}, .refl, hstart⟩ fun a e b ha hwhere hstep => ?_
  · exact hends.2
  · obtain ⟨hsound, link, hrun, hagrees⟩ := ha
    obtain ⟨after, hmore, hagain⟩ := hagrees.step hP (moved hstep) hsound hwhere
    exact ⟨(moved hstep).sound hwhere hsound, after, hrun.trans hmore, hagain⟩

end Program

end Starscream
