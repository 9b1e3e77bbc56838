/-
# Sockets that come and go

A program hears of its sockets by callbacks, and those come late: a socket may drop long before the
program is told.  `Link` is what the sockets really are, and `linked` runs a machine beside it.  A
socket connects once and drops at any moment after, between any two events of the program.

What is written on a socket that is not connected is discarded.  `Duties` says which notices a step
owes to the other end and which frame carries one; `noteUntold` collects the notices that no frame
on a connected socket has carried.  If every step that owes something writes its frame on one known
socket, then nothing is left untold in exactly the runs in which that socket is connected whenever
a step owes something (`Discharges.untold_iff`).
-/
import WeatherAccommodation.Library.Machine

namespace Reactive

/-! ## 1. The link -/

/-- Which sockets are connected, and which ever were. -/
structure Link where
  connected : List Nat := []
  opened : List Nat := []
  deriving Repr

namespace Link

def connect (link : Link) (socket : Nat) : Link :=
  { connected := socket :: link.connected, opened := socket :: link.opened }

def drop (link : Link) (socket : Nat) : Link :=
  { link with connected := link.connected.filter (· != socket) }

end Link

/-- What happens to a program over sockets. -/
inductive LinkEvent (ε : Type) where
  | of (e : ε)
  | connects (socket : Nat)
  | drops (socket : Nat)

variable {σ ε τ φ ν : Type}

/-- The machine with the link beside it.  `made` counts the sockets there are, and `admits` says
which events of the program can come over a link. -/
def Machine.linked (M : Machine σ ε τ) (made : σ → Nat) (admits : Link → ε → Bool) :
    Machine (σ × Link) (LinkEvent ε) τ where
  react := fun (s, link) e =>
    match e with
    | .of e =>
      if admits link e then (M.react s e).map fun r => r.map fun t => (t, link) else none
    | .connects socket =>
      if socket < made s ∧ socket ∉ link.opened then some (.ok (s, link.connect socket)) else none
    | .drops socket =>
      if socket ∈ link.connected then some (.ok (s, link.drop socket)) else none

/-- What one step does to the program and to the link. -/
inductive LinkedStep (M : Machine σ ε τ) (x y : σ × Link) : LinkEvent ε → Prop
  | of {e : ε} (step : M.Step x.1 e y.1) (link : y.2 = x.2) : LinkedStep M x y (.of e)
  | connects (socket : Nat) (same : y.1 = x.1) : LinkedStep M x y (.connects socket)
  | drops (socket : Nat) (same : y.1 = x.1) : LinkedStep M x y (.drops socket)

theorem Machine.linked_inv {M : Machine σ ε τ} {made : σ → Nat} {admits : Link → ε → Bool}
    {x y : σ × Link} {e : LinkEvent ε} (h : (M.linked made admits).Step x e y) :
    LinkedStep M x y e := by
  obtain ⟨s, link⟩ := x
  cases e with
  | of e =>
    simp only [Step, linked] at h
    split at h
    · obtain ⟨t, ht, rfl⟩ := handled_eq_ok.mp h
      exact .of ht rfl
    · exact absurd h (by simp)
  | connects socket =>
    simp only [Step, linked] at h
    split at h
    · obtain rfl : (s, link.connect socket) = y := by simpa using h
      exact .connects socket rfl
    · exact absurd h (by simp)
  | drops socket =>
    simp only [Step, linked] at h
    split at h
    · obtain rfl : (s, link.drop socket) = y := by simpa using h
      exact .drops socket rfl
    · exact absurd h (by simp)

/-! ## 2. Duties -/

/-- What a program writes, what its steps owe, and which frame carries a notice. -/
structure Duties (σ ε φ ν : Type) where
  /-- Every frame, with the number of the socket it was written on. -/
  frames : σ → List (Nat × φ)
  owed : σ → ε → σ → List ν
  carries : φ → ν → Bool

namespace Duties

variable (D : Duties σ ε φ ν)

/-- The step from `s` to `t` has handed a frame with the notice to a connected socket. -/
def isTold (link : Link) (s t : σ) (notice : ν) : Bool :=
  ((D.frames t).drop (D.frames s).length).any fun (socket, frame) =>
    link.connected.contains socket && D.carries frame notice

/-- The history variable: the notices that were owed and not told. -/
def noteUntold (untold : List ν) (x : σ × Link) (e : LinkEvent ε) (y : σ × Link) : List ν :=
  match e with
  | .of e => untold ++ (D.owed x.1 e y.1).filter fun notice => !D.isTold x.2 x.1 y.1 notice
  | .connects _ | .drops _ => untold

/-- The condition on a step: if it owes something, the socket `socketOf` is connected. -/
def tells (owes : σ → ε → Bool) (socketOf : σ → Option Nat) (x : (σ × Link) × List ν) :
    LinkEvent ε → Bool
  | .of e => !owes x.1.1 e || (socketOf x.1.1).any x.1.2.connected.contains
  | .connects _ | .drops _ => true

/-- The step owes something, and writes the frame that carries it. -/
structure Writes (s : σ) (e : ε) (t : σ) (socket : Option Nat) : Prop where
  owed : D.owed s e t ≠ []
  frame : ∃ number frame, socket = some number ∧
    D.frames t = D.frames s ++ [(number, frame)] ∧ ∀ n ∈ D.owed s e t, D.carries frame n = true

/-- Every step from a state in `J` stays there, and writes what it owes. -/
structure Discharges (M : Machine σ ε τ) (owes : σ → ε → Bool) (socketOf : σ → Option Nat)
    (J : σ → Prop) : Prop where
  kept : ∀ s e t, J s → M.Step s e t → J t
  idle : ∀ s e t, J s → M.Step s e t → owes s e = false → D.owed s e t = []
  writes : ∀ s e t, J s → M.Step s e t → owes s e = true → D.Writes s e t (socketOf s)

variable {D} {M : Machine σ ε τ} {owes : σ → ε → Bool} {socketOf : σ → Option Nat} {J : σ → Prop}

/-- A frame on a connected socket tells what it carries, and one on another socket nothing. -/
theorem isTold_iff {link : Link} {s t : σ} {number : Nat} {frame : φ} {notice : ν}
    (h : D.frames t = D.frames s ++ [(number, frame)]) (hcarries : D.carries frame notice = true) :
    D.isTold link s t notice = link.connected.contains number := by
  simp [isTold, h, hcarries]

/-- **One step leaves nothing untold exactly when it may.** -/
theorem Discharges.untold_step {made : σ → Nat} {admits : Link → ε → Bool}
    (hD : D.Discharges M owes socketOf J) {x y : (σ × Link) × List ν} {e : LinkEvent ε}
    (hJ : J x.1.1) (h : ((M.linked made admits).withHistory D.noteUntold).Step x e y) :
    J y.1.1 ∧ (y.2 = [] ↔ x.2 = [] ∧ tells owes socketOf x e = true) := by
  obtain ⟨hstep, hnote⟩ := Machine.withHistory_step.mp h
  rw [hnote]
  cases Machine.linked_inv hstep with
  | connects socket same =>
    rw [same]
    exact ⟨hJ, by simp [noteUntold, tells]⟩
  | drops socket same =>
    rw [same]
    exact ⟨hJ, by simp [noteUntold, tells]⟩
  | @of e hs _ =>
    refine ⟨hD.kept _ _ _ hJ hs, ?_⟩
    cases howes : owes x.1.1 e with
    | false => simp [noteUntold, tells, howes, hD.idle _ _ _ hJ hs howes]
    | true =>
      obtain ⟨howed, number, frame, hsocket, hframes, hcarries⟩ := hD.writes _ _ _ hJ hs howes
      have htold : ∀ n ∈ D.owed x.1.1 e y.1.1,
          D.isTold x.1.2 x.1.1 y.1.1 n = x.1.2.connected.contains number :=
        fun n hn => isTold_iff hframes (hcarries n hn)
      obtain ⟨n₀, hn₀⟩ := List.exists_mem_of_ne_nil _ howed
      simp only [noteUntold, tells, howes, hsocket, List.append_eq_nil_iff, List.filter_eq_nil_iff,
        Option.any_some, Bool.not_true, Bool.false_or]
      refine and_congr_right fun _ => ⟨fun hall => ?_, fun hconnected n hn => ?_⟩
      · simpa [htold n₀ hn₀] using hall n₀ hn₀
      · simpa [htold n hn] using hconnected

/-- **Which runs leave nothing untold.** -/
theorem Discharges.untold_iff {made : σ → Nat} {admits : Link → ε → Bool}
    (hD : D.Discharges M owes socketOf J) {x y : (σ × Link) × List ν} (hJ : J x.1.1)
    (hx : x.2 = []) (hrun : ((M.linked made admits).withHistory D.noteUntold).Run x y) :
    y.2 = [] ↔ ((M.linked made admits).withHistory D.noteUntold).RunWhere
      (fun x e => tells owes socketOf x e = true) x y :=
  Machine.RunWhere.iff_of_steps (I := fun x => x.2 = []) (J := fun x => J x.1.1) hrun hJ hx
    fun _ _ _ hJ h => hD.untold_step hJ h

end Duties

end Reactive
