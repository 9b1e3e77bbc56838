/-
# What a program owes

The notices that a program owes are written on its sockets, and none of its handlers looks at the
connection.  A notice is `unsent` where no frame that carries it was written on a connected socket;
else a text that carries it is among those of a socket, and a server hears them one after the other.

* `unsent_iff`: in which runs nothing is left unsent;
* `reaches_of_run`: what becomes of everything else.
-/
import WeatherAccommodation.Starscream.Program
import WeatherAccommodation.Starscream.Texts

namespace Starscream

open Reactive Streaming WireFormat

/-! ## 1. Texts -/

theorem texts_writes {l : Line} (hon : l.socket.connected = true) (strings : List String) :
    (l.writes strings).texts = l.texts ++ strings := by
  induction strings generalizing l with
  | nil => simp [Line.writes]
  | cons string strings ih =>
    have hfirst : (l.writes [string]).texts = l.texts ++ [string] := by simp [Line.writes, hon]
    have hmore := ih ((writes_socket l [string]).1.trans hon)
    rw [hfirst, List.append_assoc] at hmore
    exact hmore

theorem texts_of_stepped {system : System} {l t : Line} {e : Event}
    (h : Stepped system l e t) : l.texts <+: t.texts := by
  have hoperated : ∀ {u : Line} {handing : Handing}, Operated system l u handing →
      u.texts = l.texts := by
    intro u handing hu
    cases hu with
    | request queue fits takes => rfl
    | whole queue logged prepared size takes => rfl
    | part queue size bytes missing cut takes => rfl
  cases h with
  | errorOccurred stream cut =>
    rcases cut with rfl | hcut
    · exact List.prefix_rfl
    · exact (hoperated hcut).symm ▸ List.prefix_rfl
  | write =>
    dsimp only
    split
    · exact List.prefix_append _ _
    · exact List.prefix_rfl
  | runOperation operated ended => exact (hoperated operated).symm ▸ List.prefix_rfl
  | _ => exact List.prefix_rfl

/-- What was written stays written. -/
theorem texts_grow {system : System} {l t : Line} (hl : l.Sound true)
    (h : (line system).Run l t) : l.texts <+: t.texts := by
  have hboth := h.invariant (I := fun t => t.Sound true ∧ l.texts <+: t.texts)
    ⟨hl, List.prefix_rfl⟩ fun a e b ha _ hstep => ?_
  · exact hboth.2
  · have hnext := stepped (.inr ha.1.live) hstep
    exact ⟨ha.1.stepped hnext, ha.2.trans (texts_of_stepped hnext)⟩

theorem onInput_answersOnce : OnInput AnswersOnce := by
  intro l e h
  cases e with
  | newBytesInStream data beyond => exact absurd rfl (h data beyond)
  | _ => trivial

/-! ## 2. Notices -/

/-- What a program has owed, and what of it no connected socket was given. -/
structure Ledger (ν : Type) where
  owed : List ν := []
  unsent : List ν := []

namespace Program

variable {σ ε τ φ ν κ : Type} (P : Program σ ε τ φ ν κ)

/-- The event of the program that is handled. -/
def event? (x : σ × List Line) : ProgramEvent ε κ → Option ε
  | .own e _ => some e
  | .socket _ _ => none
  | .callback n k _ =>
    ((x.2[n]?.bind fun l => l.socket.callbackQueue.head?).bind (P.handler k n)).filter fun e =>
      (P.machine.react x.1 e).isSome

/-- A frame with the notice has been written on a connected socket. -/
def isSent (x : σ × List Line) (t : σ) (notice : ν) : Bool :=
  (P.newFrames x.1 t).any fun (n, frame) => isConnected x.2 n && P.duties.carries frame notice

/-- The history variable. -/
def noteNotices (h : Ledger ν) (x : σ × List Line) (e : ProgramEvent ε κ) (y : σ × List Line) :
    Ledger ν :=
  match P.event? x e with
  | some e => {
      owed := h.owed ++ P.duties.owed x.1 e y.1
      unsent := h.unsent ++
        (P.duties.owed x.1 e y.1).filter fun notice => !P.isSent x y.1 notice }
  | none => h

/-- The condition on a step: if it owes something, the socket `socketOf` is connected. -/
def tells (owes : σ → ε → Bool) (socketOf : σ → Option Nat) (x : (σ × List Line) × Ledger ν)
    (e : ProgramEvent ε κ) : Bool :=
  match P.event? x.1 e with
  | some e => !owes x.1.1 e || (socketOf x.1.1).any (isConnected x.1.2)
  | none => true

/-- The program over sockets, with what it owes. -/
def owing (system : System) :
    Machine ((σ × List Line) × Ledger ν) (ProgramEvent ε κ) (τ ⊕ Trap) :=
  (P.overSockets system).withHistory P.noteNotices

variable {P} {system : System} {x y : σ × List Line} {e : ProgramEvent ε κ} {n : Nat} {l m : Line}
  {s t : σ} {lines : List Line} {openings : List (String × Data)}
  {z : (σ × List Line) × Ledger ν}

/-- An event of the program has been handled, or the program is as it was. -/
theorem Moved.event? (h : P.Moved system x y e) :
    (∃ ev, P.event? x e = some ev ∧ P.machine.Step x.1 ev y.1) ∨
      P.event? x e = none ∧ y.1 = x.1 := by
  cases h with
  | own isOwn step size lines => exact .inl ⟨_, rfl, step⟩
  | socket listed step same lines => exact .inr ⟨rfl, same⟩
  | @handled n k openings l call calls ev listed queue handler step size lines =>
    have hreact : P.machine.react x.1 ev = some (.ok y.1) := step
    exact .inl ⟨ev, by simp [Program.event?, listed, queue, handler, hreact], step⟩
  | @unhandled n k l call calls listed queue nobody same lines =>
    refine .inr ⟨?_, same⟩
    simp only [Program.event?, listed, queue, Option.bind_some, List.head?_cons]
    cases hhandler : P.handler k n call with
    | none => rfl
    | some ev =>
      rw [hhandler] at nobody
      have hnone : P.machine.react x.1 ev = none := nobody
      simp [hnone]

/-! ## 3. What is written -/

/-- After a step of the program a socket has been given what was written on it. -/
theorem getElem?_linesAfter (hl : lines[n]? = some l) :
    (P.linesAfter s t lines openings)[n]? =
      some (l.writes (((P.written s t).filter fun w => w.1 == n).map Prod.snd)) := by
  have hlt : n < lines.length := (List.getElem?_eq_some_iff.mp hl).1
  rw [linesAfter, deliver, List.getElem?_mapIdx, List.getElem?_append_left hlt, hl]
  rfl

theorem delivered (hl : lines[n]? = some l) (hon : l.socket.connected = true) {frame : φ}
    (hframe : (n, frame) ∈ P.newFrames s t) :
    ∃ m, (P.linesAfter s t lines openings)[n]? = some m ∧ P.text frame ∈ m.texts := by
  refine ⟨_, getElem?_linesAfter hl, ?_⟩
  rw [texts_writes hon]
  refine List.mem_append_right _ (List.mem_map.mpr ⟨(n, P.text frame), ?_, rfl⟩)
  exact List.mem_filter.mpr ⟨List.mem_map.mpr ⟨_, hframe, rfl⟩, by simp⟩

/-- What is written on a connected socket is among its texts. -/
theorem Moved.delivered (h : P.Moved system x y e) {ev : ε} (hev : P.event? x e = some ev)
    (hon : isConnected x.2 n = true) {frame : φ} (hframe : (n, frame) ∈ P.newFrames x.1 y.1) :
    ∃ m, y.2[n]? = some m ∧ P.text frame ∈ m.texts := by
  cases h with
  | own isOwn step size lines =>
    obtain ⟨l, hl, hconnected⟩ := (Option.any_eq_true _ _).mp hon
    rw [lines]
    exact Program.delivered hl hconnected hframe
  | socket listed step same lines => exact absurd hev (by simp [Program.event?])
  | @handled k _ openings u call calls _ listed queue handler step size lines =>
    have hstill : isConnected (x.2.set k (u.shift call calls)) n = true := by
      rw [isConnected, looks_set listed]
      split
      · rename_i hkn
        subst hkn
        simpa [isConnected, looks, listed, Line.shift] using hon
      · exact hon
    obtain ⟨l, hl, hconnected⟩ := (Option.any_eq_true _ _).mp hstill
    rw [lines]
    exact Program.delivered hl hconnected hframe
  | unhandled listed queue nobody same lines =>
    have hframe' : (n, frame) ∈ P.newFrames x.1 x.1 := same ▸ hframe
    exact absurd hframe' (by simp [newFrames])

/-- A socket that is there stays there, and what was written on it stays written. -/
theorem Moved.keeps (h : P.Moved system x y e) (hx : ∀ l ∈ x.2, l.Sound true)
    (hl : x.2[n]? = some l) : ∃ m, y.2[n]? = some m ∧ l.texts <+: m.texts := by
  have hgrows : ∀ {m : Line}, (line system).Run l m → l.texts <+: m.texts :=
    fun hrun => texts_grow (hx l (List.mem_of_getElem? hl)) hrun
  have hfree : OnInput fun _ _ => True := fun _ _ _ => trivial
  have hset : ∀ {k : Nat} {u v : Line}, x.2[k]? = some u → (line system).Run u v →
      ∃ m, (x.2.set k v)[n]? = some m ∧ (line system).Run l m := by
    intro k u v hlisted hrun
    by_cases hkn : k = n
    · subst hkn
      obtain rfl := Option.some.inj (hl.symm.trans hlisted)
      exact ⟨v, List.getElem?_set_self (List.getElem?_eq_some_iff.mp hl).1, hrun⟩
    · exact ⟨l, (List.getElem?_set_ne hkn).trans hl, .refl⟩
  cases h with
  | own isOwn step size lines =>
    rw [lines]
    exact ⟨_, getElem?_linesAfter hl, hgrows (run_writes hfree l _)⟩
  | socket listed step same lines =>
    obtain ⟨m, hm, hrun⟩ := hset listed (.tail .refl trivial step)
    exact ⟨m, lines ▸ hm, hgrows hrun⟩
  | handled listed queue handler step size lines =>
    obtain ⟨m, hm, hrun⟩ := hset listed (run_shift hfree queue)
    rw [lines]
    exact ⟨_, getElem?_linesAfter hm, hgrows (hrun.trans (run_writes hfree m _))⟩
  | unhandled listed queue nobody same lines =>
    obtain ⟨m, hm, hrun⟩ := hset listed (run_shift hfree queue)
    exact ⟨m, lines ▸ hm, hgrows hrun⟩

/-! ## 4. Every run -/

/-- A text that carries the notice is among those of a socket. -/
def Carried (P : Program σ ε τ φ ν κ) (lines : List Line) (notice : ν) : Prop :=
  ∃ (n : Nat) (l : Line) (frame : φ), lines[n]? = some l ∧ P.duties.carries frame notice = true ∧
    P.text frame ∈ l.texts

/-- What is not unsent is carried. -/
structure Accounts (P : Program σ ε τ φ ν κ) (x : (σ × List Line) × Ledger ν) : Prop where
  sound : ∀ l ∈ x.1.2, l.Sound true
  carried : ∀ notice ∈ x.2.owed, notice ∈ x.2.unsent ∨ P.Carried x.1.2 notice

theorem Accounts.step {a b : (σ × List Line) × Ledger ν} (ha : P.Accounts a)
    (hstep : (P.owing system).Step a e b) : P.Accounts b := by
  obtain ⟨hover, hnote⟩ := Machine.withHistory_step.mp hstep
  have hmoved := moved hover
  have hkept : ∀ notice, P.Carried a.1.2 notice → P.Carried b.1.2 notice := by
    rintro notice ⟨n, l, frame, hl, hcarries, htext⟩
    obtain ⟨m, hm, hgrows⟩ := hmoved.keeps ha.sound hl
    exact ⟨n, m, frame, hm, hcarries, hgrows.subset htext⟩
  refine ⟨hmoved.sound (where_mayConnect system a.1 e) ha.sound, fun notice hnotice => ?_⟩
  rw [hnote] at hnotice ⊢
  unfold noteNotices at hnotice ⊢
  cases hev : P.event? a.1 e with
  | none =>
    simp only [hev] at hnotice ⊢
    exact (ha.carried notice hnotice).imp_right (hkept notice)
  | some ev =>
    simp only [hev] at hnotice ⊢
    rcases List.mem_append.mp hnotice with hold | hnew
    · exact (ha.carried notice hold).imp (List.mem_append_left _) (hkept notice)
    · cases hsent : P.isSent a.1 b.1.1 notice with
      | false =>
        exact .inl (List.mem_append_right _ (List.mem_filter.mpr ⟨hnew, by simp [hsent]⟩))
      | true =>
        obtain ⟨⟨n, frame⟩, hframe, htest⟩ := List.any_eq_true.mp hsent
        obtain ⟨hon, hcarries⟩ := Bool.and_eq_true_iff.mp htest
        obtain ⟨m, hm, htext⟩ := hmoved.delivered hev hon hframe
        exact .inr ⟨n, m, frame, hm, hcarries, htext⟩

theorem accounts_of_run (h : (P.owing system).Run ((s, []), {}) z) : P.Accounts z :=
  h.invariant (I := P.Accounts) ⟨by simp, by simp⟩ fun _ _ _ ha _ hstep => ha.step hstep

/-- One step leaves nothing unsent exactly when it may. -/
theorem unsent_step {owes : σ → ε → Bool} {socketOf : σ → Option Nat} {J : σ → Prop}
    (hD : P.duties.Discharges P.machine owes socketOf J) {a b : (σ × List Line) × Ledger ν}
    (hJ : J a.1.1) (hstep : (P.owing system).Step a e b) :
    J b.1.1 ∧ (b.2.unsent = [] ↔ a.2.unsent = [] ∧ P.tells owes socketOf a e = true) := by
  obtain ⟨hover, hnote⟩ := Machine.withHistory_step.mp hstep
  rw [hnote]
  rcases (moved hover).event? with ⟨ev, hev, hs⟩ | ⟨hev, hsame⟩
  · refine ⟨hD.kept _ _ _ hJ hs, ?_⟩
    cases howes : owes a.1.1 ev with
    | false => simp [noteNotices, tells, hev, howes, hD.idle _ _ _ hJ hs howes]
    | true =>
      obtain ⟨howed, number, frame, hsocket, hframes, hcarries⟩ := hD.writes _ _ _ hJ hs howes
      have hsent : ∀ notice ∈ P.duties.owed a.1.1 ev b.1.1,
          P.isSent a.1 b.1.1 notice = isConnected a.1.2 number := by
        intro notice hnotice
        simp [isSent, newFrames, hframes, hcarries notice hnotice]
      obtain ⟨first, hfirst⟩ := List.exists_mem_of_ne_nil _ howed
      simp only [noteNotices, tells, hev, howes, hsocket, List.append_eq_nil_iff,
        List.filter_eq_nil_iff, Option.any_some, Bool.not_true, Bool.false_or]
      refine and_congr_right fun _ => ⟨fun hall => ?_, fun hconnected notice hnotice => ?_⟩
      · simpa [hsent first hfirst] using hall first hfirst
      · simpa [hsent notice hnotice] using hconnected
  · rw [hsame]
    exact ⟨hJ, by simp [noteNotices, tells, hev]⟩

/-- **In which runs nothing is left unsent.** -/
theorem unsent_iff {owes : σ → ε → Bool} {socketOf : σ → Option Nat} {J : σ → Prop}
    (hD : P.duties.Discharges P.machine owes socketOf J) (hJ : J s)
    (hrun : (P.owing system).Run ((s, []), {}) z) :
    z.2.unsent = [] ↔ (P.owing system).RunWhere
      (fun x e => P.tells owes socketOf x e = true) ((s, []), {}) z :=
  Machine.RunWhere.iff_of_steps (I := fun x => x.2.unsent = []) (J := fun x => J x.1.1) hrun hJ rfl
    fun _ _ _ hJ hstep => unsent_step hD hJ hstep

/-! ## 5. The server -/

/-- A notice has been left unsent; or a text that carries it has been written, and as long as the
stream takes what it is offered, a server hears it or it is still queued. -/
def Reaches (P : Program σ ε τ φ ν κ) (u : Unzipper system) (z : (σ × List Line) × Ledger ν) :
    Prop :=
  ∀ notice ∈ z.2.owed, notice ∈ z.2.unsent ∨
    ∃ (n : Nat) (l : Line) (frame : φ), z.1.2[n]? = some l ∧
      P.duties.carries frame notice = true ∧ P.text frame ∈ l.texts ∧
      (l.requested = l.request.length → l.Open →
        ∃ read part, frames.pump [] (l.sent.drop l.request.length) = .waiting read part ∧
          (P.text frame ∈ (u.hears l.anew read).2 ∨ P.text frame ∈ l.queued))

/-- **What becomes of a notice.** -/
theorem reaches_of_run (u : Unzipper system)
    (h : (P.owing system).RunWhere (fun x e => Where AnswersOnce x.1 e) ((s, []), {}) z) :
    P.Reaches u z := by
  intro notice hnotice
  refine ((accounts_of_run h.run).carried notice hnotice).imp_right ?_
  rintro ⟨n, l, frame, hl, hcarries, htext⟩
  refine ⟨n, l, frame, hl, hcarries, htext, fun hrequested hopen => ?_⟩
  have hline : (line system).RunWhere AnswersOnce {} l :=
    line_of_run onInput_answersOnce (Machine.RunWhere.of_withHistory h) hl
  obtain ⟨read, part, hread, hgone⟩ := hears_of_run u hline hrequested
  refine ⟨read, part, hread, ?_⟩
  have htexts : l.texts = l.gone ++ l.queued := by
    rcases sends_of_run hline.run with rfl | hl
    · rfl
    · exact hl.open_texts (.inr hopen)
  rw [hgone]
  exact List.mem_append.mp (htexts ▸ htext)

end Program

end Starscream
