/-
# Reactive programs: one event at a time, until something traps

An app is a state and a set of handlers that the outside world calls in any order: button
presses, replies, timer expiries, socket messages.  Each call runs to completion before the
next one starts, and each either leaves a new state or stops the program for good.

`Machine` is that and nothing else.  `react s e` is `none` when the event `e` cannot happen
in `s` (a reply to a call that was never made), `some (.ok t)` when its handler returns, and
`some (.error f)` when its handler traps with the fault `f`.

Three things are proved once here and used by every development above.

* **Runs with a condition.**  `RunWhere C` is a run each of whose steps satisfies `C`; the
  induction over it is `RunWhere.invariant`.
* **History variables.**  `withHistory` adds a component that handlers never read.  It
  neither removes nor adds behaviour: `RunWhere.of_withHistory` and `RunWhere.lift_history`.
* **Execution.**  `replay` runs a list of events, and what it reaches is reached by a run.

`dated` puts a date on every event, for laws about when something happened.
-/
import Mathlib.Logic.Basic
import Mathlib.Tactic.Common

namespace Reactive

/-! ## 1. Computations that may trap -/

section Traps

variable {τ α β : Type}

/-- A sequence succeeds exactly when both parts do. -/
@[simp] theorem bind_eq_ok {x : Except τ α} {f : α → Except τ β} {b : β} :
    (x >>= f) = .ok b ↔ ∃ a, x = .ok a ∧ f a = .ok b := by
  cases x with
  | error t => simp [bind, Except.bind]
  | ok a => simp [bind, Except.bind]

/-- A sequence traps in its first part, or in its second. -/
theorem bind_eq_error {x : Except τ α} {f : α → Except τ β} {t : τ} :
    (x >>= f) = .error t ↔ x = .error t ∨ ∃ a, x = .ok a ∧ f a = .error t := by
  cases x with
  | error t' => simp [bind, Except.bind]
  | ok a => simp [bind, Except.bind]

@[simp] theorem map_eq_ok {x : Except τ α} {f : α → β} {b : β} :
    (f <$> x) = .ok b ↔ ∃ a, x = .ok a ∧ f a = b := by
  cases x with
  | error t => simp [Functor.map, Except.map]
  | ok a => simp [Functor.map, Except.map]

@[simp] theorem pure_eq_ok {a b : α} : (pure a : Except τ α) = .ok b ↔ a = b := by
  simp [pure, Except.pure]

@[simp] theorem throw_eq_ok {t : τ} {a : α} : (throw t : Except τ α) = .ok a ↔ False := by
  simp [throw, throwThe, MonadExceptOf.throw]

/-- What follows without a fault does not change whether there is a result. -/
theorem exists_bind_pure_eq_ok {x : Except τ α} {f : α → β} :
    (∃ b, (x >>= fun a => pure (f a)) = .ok b) ↔ ∃ a, x = .ok a := by
  simp only [bind_eq_ok, pure_eq_ok]
  constructor
  · rintro ⟨_, a, ha, _⟩
    exact ⟨a, ha⟩
  · rintro ⟨a, ha⟩
    exact ⟨_, a, ha, rfl⟩

/-- Renaming the faults changes no result. -/
theorem mapError_eq_ok {τ' : Type} {x : Except τ α} {f : τ → τ'} {a : α} :
    x.mapError f = .ok a ↔ x = .ok a := by
  cases x with
  | error t => simp [Except.mapError]
  | ok b => simp [Except.mapError]

/-- A part that is handled and put back into its whole: the whole returns exactly if the part
does. -/
theorem handled_eq_ok {o : Option (Except τ α)} {f : α → β} {b : β} :
    (o.map fun r => r.map f) = some (.ok b) ↔ ∃ a, o = some (.ok a) ∧ f a = b := by
  rw [Option.map_eq_some_iff]
  constructor
  · rintro ⟨r, rfl, hr⟩
    cases r with
    | error t => exact absurd hr (by simp [Except.map])
    | ok a => exact ⟨a, rfl, Except.ok.inj hr⟩
  · rintro ⟨a, rfl, rfl⟩
    exact ⟨.ok a, rfl, rfl⟩

/-- The faults of the part may be renamed on the way. -/
theorem handled_mapError_eq_ok {τ' : Type} {o : Option (Except τ α)} {g : τ → τ'} {f : α → β}
    {b : β} : (o.map fun r => (r.mapError g).map f) = some (.ok b) ↔
      ∃ a, o = some (.ok a) ∧ f a = b := by
  have hsplit : (o.map fun r => (r.mapError g).map f) =
      (o.map fun r => r.mapError g).map fun r => r.map f := by simp [Function.comp_def]
  rw [hsplit, handled_eq_ok]
  simp [Option.map_eq_some_iff, mapError_eq_ok]

/-- Forced unwrapping: a missing value is the fault `t`. -/
def unwrap (t : τ) : Option α → Except τ α
  | some a => .ok a
  | none => .error t

@[simp] theorem unwrap_some (t : τ) (a : α) : unwrap t (some a) = .ok a := rfl

@[simp] theorem unwrap_none (t : τ) : unwrap t (none : Option α) = .error t := rfl

@[simp] theorem unwrap_eq_ok {t : τ} {o : Option α} {a : α} :
    unwrap t o = .ok a ↔ o = some a := by
  cases o with
  | none => simp [unwrap]
  | some b => simp [unwrap]

@[simp] theorem unwrap_eq_error {t u : τ} {o : Option α} :
    unwrap t o = .error u ↔ o = none ∧ t = u := by
  cases o with
  | none => simp [unwrap]
  | some b => simp [unwrap]

/-- If `x` traps, then with no fault of the kind `P`. -/
def Avoids (P : τ → Prop) (x : Except τ α) : Prop := ∀ t, x = .error t → ¬P t

variable {P : τ → Prop}

theorem avoids_ok (a : α) : Avoids P (.ok a : Except τ α) := by
  intro t h
  exact absurd h (by simp)

theorem avoids_error {t : τ} (h : ¬P t) : Avoids P (.error t : Except τ α) := by
  intro u hu
  obtain rfl : t = u := by simpa using hu
  exact h

theorem avoids_pure (a : α) : Avoids P (pure a : Except τ α) := avoids_ok a

/-- A sequence avoids what its first part avoids, and its second on every value of the
first. -/
theorem Avoids.bind {x : Except τ α} {f : α → Except τ β} (hx : Avoids P x)
    (hf : ∀ a, x = .ok a → Avoids P (f a)) : Avoids P (x >>= f) := by
  intro t h
  rcases bind_eq_error.mp h with h | ⟨a, ha, h⟩
  · exact hx t h
  · exact hf a ha t h

/-- Only a missing value is a fault, and only its own. -/
theorem avoids_unwrap {t : τ} {o : Option α} (h : o = none → ¬P t) : Avoids P (unwrap t o) := by
  intro u hu
  obtain ⟨hnone, rfl⟩ := unwrap_eq_error.mp hu
  exact h hnone

theorem avoids_ite {c : Prop} [Decidable c] {x y : Except τ α} (hx : c → Avoids P x)
    (hy : ¬c → Avoids P y) : Avoids P (if c then x else y) := by
  split
  · rename_i h
    exact hx h
  · rename_i h
    exact hy h

end Traps

/-! ## 2. Machines and their runs -/

/-- A program that handles one event at a time. -/
structure Machine (State Event Fault : Type) where
  /-- `none`: the event cannot happen now; `some (.error f)`: its handler traps. -/
  react : State → Event → Option (Except Fault State)

namespace Machine

variable {σ ε τ η : Type} (M : Machine σ ε τ)

/-- The event `e` is handled in `s` and leaves `t`. -/
def Step (s : σ) (e : ε) (t : σ) : Prop := M.react s e = some (.ok t)

/-- The event `e` can happen in `s`, and its handler traps with `f`. -/
def Traps (s : σ) (e : ε) (f : τ) : Prop := M.react s e = some (.error f)

/-- The reflexive-transitive closure of `Step`, along steps that all satisfy `C`. -/
inductive RunWhere (C : σ → ε → Prop) (s : σ) : σ → Prop
  | refl : RunWhere C s s
  | tail {t u : σ} {e : ε} (run : RunWhere C s t) (cond : C t e) (step : M.Step t e u) :
      RunWhere C s u

/-- A run whose steps are unrestricted. -/
abbrev Run (s t : σ) : Prop := M.RunWhere (fun _ _ => True) s t

variable {M} {C D : σ → ε → Prop} {s t u : σ}

/-- A weaker condition on the steps allows every run a stronger one does. -/
theorem RunWhere.mono (hCD : ∀ s e, C s e → D s e) (h : M.RunWhere C s t) :
    M.RunWhere D s t := by
  induction h with
  | refl => exact .refl
  | tail _ hc hs ih => exact ih.tail (hCD _ _ hc) hs

/-- Forgetting the condition. -/
theorem RunWhere.run (h : M.RunWhere C s t) : M.Run s t :=
  h.mono fun _ _ _ => trivial

/-- Runs compose. -/
theorem RunWhere.trans (h₁ : M.RunWhere C s t) (h₂ : M.RunWhere C t u) :
    M.RunWhere C s u := by
  induction h₂ with
  | refl => exact h₁
  | tail _ hc hs ih => exact ih.tail hc hs

/-- **The invariant rule.**  What holds at the start and survives every step allowed by `C`
holds wherever a run along `C` arrives. -/
theorem RunWhere.invariant {I : σ → Prop} (h : M.RunWhere C s t) (h₀ : I s)
    (hstep : ∀ a e b, I a → C a e → M.Step a e b → I b) : I t := by
  induction h with
  | refl => exact h₀
  | tail _ hc hs ih => exact hstep _ _ _ ih hc hs

/-- **The exact rule.**  Let every step along `D` keep `J`, and let it keep `I` exactly when it
satisfies `C` and `I` holds already.  Then, of the runs along `D`, those along `C` are the ones that
arrive where `I` holds. -/
theorem RunWhere.iff_of_steps_along {I J : σ → Prop} (h : M.RunWhere D s t) (hJ : J s) (hI : I s)
    (hstep : ∀ a e b, J a → D a e → M.Step a e b → J b ∧ (I b ↔ I a ∧ C a e)) :
    I t ↔ M.RunWhere (fun a e => D a e ∧ C a e) s t := by
  constructor
  · induction h with
    | refl => exact fun _ => .refl
    | @tail u v e hrun hD hs ih =>
      intro hv
      have hu : J u := hrun.invariant hJ fun _ _ _ hJ hD hs => (hstep _ _ _ hJ hD hs).1
      obtain ⟨hIu, hC⟩ := (hstep _ _ _ hu hD hs).2.mp hv
      exact (ih hIu).tail ⟨hD, hC⟩ hs
  · intro hrun
    have hboth : J t ∧ I t := by
      refine hrun.invariant (I := fun u => J u ∧ I u) ⟨hJ, hI⟩ ?_
      rintro a e b ⟨hJa, hIa⟩ ⟨hD, hC⟩ hs
      obtain ⟨hJb, hiff⟩ := hstep a e b hJa hD hs
      exact ⟨hJb, hiff.mpr ⟨hIa, hC⟩⟩
    exact hboth.2

/-- The same of all runs. -/
theorem RunWhere.iff_of_steps {I J : σ → Prop} (h : M.Run s t) (hJ : J s) (hI : I s)
    (hstep : ∀ a e b, J a → M.Step a e b → J b ∧ (I b ↔ I a ∧ C a e)) :
    I t ↔ M.RunWhere C s t := by
  have hiff : I t ↔ M.RunWhere (fun a e => True ∧ C a e) s t :=
    h.iff_of_steps_along hJ hI fun a e b hJ _ hs => hstep a e b hJ hs
  rw [hiff]
  constructor
  · exact fun hrun => hrun.mono fun _ _ hC => hC.2
  · exact fun hrun => hrun.mono fun _ _ hC => ⟨trivial, hC⟩

/-! ## 3. Execution -/

variable (M)

/-- Handle the events in order, each of which has to pass the test `c`; `none` as soon as
one does not, cannot happen, or traps. -/
def replay (c : σ → ε → Bool) (s : σ) : List ε → Option σ
  | [] => some s
  | e :: es =>
    match c s e, M.react s e with
    | true, some (.ok t) => replay c t es
    | _, _ => none

variable {M}

@[simp] theorem replay_nil {c : σ → ε → Bool} : M.replay c s [] = some t ↔ s = t := by
  simp [replay]

/-- A list of events is replayed event by event. -/
theorem replay_cons {c : σ → ε → Bool} {e : ε} {es : List ε} :
    M.replay c s (e :: es) = some t ↔
      c s e = true ∧ ∃ u, M.Step s e u ∧ M.replay c u es = some t := by
  simp only [replay, Step]
  split
  · rename_i u hce hr
    simp [hce, hr]
  · rename_i hnot
    constructor
    · exact fun h => absurd h (by simp)
    · rintro ⟨hce, u, hr, _⟩
      exact absurd hr (hnot u hce)

/-- An event that can be handled is out of the way. -/
theorem replay_cons_of {c : σ → ε → Bool} {e : ε} {es : List ε} (hc : c s e = true)
    (h : M.Step s e u) : M.replay c s (e :: es) = M.replay c u es := by
  have hr : M.react s e = some (.ok u) := h
  simp [replay, hc, hr]

/-- So is a list of events that can be. -/
theorem replay_append_of {c : σ → ε → Bool} {es fs : List ε} (h : M.replay c s es = some u) :
    M.replay c s (es ++ fs) = M.replay c u fs := by
  induction es generalizing s with
  | nil =>
    obtain rfl : s = u := replay_nil.mp h
    rfl
  | cons e es ih =>
    obtain ⟨hc, v, hv, h⟩ := replay_cons.mp h
    rw [List.cons_append, replay_cons_of hc hv]
    exact ih h

/-- Events that can all be handled wherever `I` holds, and keep it, are replayed to their end. -/
theorem exists_replay {I : σ → Prop} {c : σ → ε → Bool} {es : List ε} (h : I s)
    (hstep : ∀ a, I a → ∀ e ∈ es, c a e = true ∧ ∃ b, M.Step a e b ∧ I b) :
    ∃ t, M.replay c s es = some t ∧ I t := by
  induction es generalizing s with
  | nil => exact ⟨s, replay_nil.mpr rfl, h⟩
  | cons e es ih =>
    obtain ⟨hc, u, hu, hI⟩ := hstep s h e (by simp)
    obtain ⟨t, ht, hI⟩ := ih hI fun a ha f hf => hstep a ha f (by simp [hf])
    exact ⟨t, replay_cons.mpr ⟨hc, u, hu, ht⟩, hI⟩

/-- What `replay` reaches is reached by a run. -/
theorem RunWhere.of_replay {c : σ → ε → Bool} (hc : ∀ s e, c s e = true → C s e) {es : List ε}
    (h : M.replay c s es = some t) : M.RunWhere C s t := by
  induction es generalizing s with
  | nil =>
    obtain rfl : s = t := replay_nil.mp h
    exact .refl
  | cons e es ih =>
    obtain ⟨hce, u, hu, h⟩ := replay_cons.mp h
    exact (RunWhere.refl.tail (hc s e hce) hu).trans (ih h)

/-- A test that `replay` passes at its end is passed by a state some run reaches. -/
theorem exists_run_of_replay (M : Machine σ ε τ) (c : σ → ε → Bool) (s : σ) (es : List ε)
    (p : σ → Bool) (hc : ∀ s e, c s e = true → C s e) (h : (M.replay c s es).any p = true) :
    ∃ t, M.RunWhere C s t ∧ p t = true := by
  cases hr : M.replay c s es with
  | none => simp [hr] at h
  | some t => exact ⟨t, .of_replay hc hr, by simpa [hr] using h⟩

/-- A step after a replay: what is tested is the state before and the state after. -/
theorem exists_step_of_replay (M : Machine σ ε τ) (c : σ → ε → Bool) (s : σ) (es : List ε) (e : ε)
    (p : σ → σ → Bool) (hc : ∀ s e, c s e = true → C s e)
    (h : (M.replay c s es).any (fun t => c t e && match M.react t e with
      | some (.ok u) => p t u
      | _ => false) = true) :
    ∃ t u, M.RunWhere C s t ∧ C t e ∧ M.Step t e u ∧ p t u = true := by
  obtain ⟨t, hrun, htest⟩ := M.exists_run_of_replay c s es _ hc h
  obtain ⟨hce, htest⟩ := Bool.and_eq_true_iff.mp htest
  split at htest
  · rename_i u hu
    exact ⟨t, u, hrun, hc t e hce, hu, htest⟩
  · exact absurd htest (by simp)

section Faults

variable [DecidableEq τ]

/-- The event happens, and its handler traps with this fault. -/
def trapsWith (M : Machine σ ε τ) (s : σ) (e : ε) (f : τ) : Bool :=
  match M.react s e with
  | some (.error g) => decide (g = f)
  | _ => false

theorem trapsWith_iff {M : Machine σ ε τ} {e : ε} {f : τ} :
    M.trapsWith s e f = true ↔ M.Traps s e f := by
  unfold trapsWith Traps
  split
  · rename_i g hg
    simp [hg]
  · rename_i hnot
    simp only [Bool.false_eq_true, false_iff]
    exact hnot f

/-- A trap after a replay. -/
theorem exists_traps_of_replay (M : Machine σ ε τ) (c : σ → ε → Bool) (s : σ) (es : List ε) (e : ε)
    (f : τ) (hc : ∀ s e, c s e = true → C s e)
    (h : (M.replay c s es).any (fun t => M.trapsWith t e f) = true) :
    ∃ t, M.RunWhere C s t ∧ M.Traps t e f := by
  obtain ⟨t, hrun, htraps⟩ := M.exists_run_of_replay c s es _ hc h
  exact ⟨t, hrun, trapsWith_iff.mp htraps⟩

end Faults

/-! ## 4. History variables -/

variable (M)

/-- The machine with a component that only `note` writes and no handler reads. -/
def withHistory (note : η → σ → ε → σ → η) : Machine (σ × η) ε τ where
  react := fun (s, h) e => (M.react s e).map fun r => r.map fun t => (t, note h s e t)

variable {M} {note : η → σ → ε → σ → η}

/-- A step with history is a step, with the history brought up to date. -/
theorem withHistory_step {a b : σ × η} {e : ε} :
    (M.withHistory note).Step a e b ↔ M.Step a.1 e b.1 ∧ b.2 = note a.2 a.1 e b.1 := by
  obtain ⟨s, h⟩ := a
  obtain ⟨t, k⟩ := b
  simp only [Step, withHistory]
  cases hr : M.react s e with
  | none => simp
  | some r =>
    cases r with
    | error f => simp [Except.map]
    | ok v =>
      simp only [Option.map_some, Except.map, Option.some.injEq, Except.ok.injEq,
        Prod.mk.injEq]
      constructor
      · rintro ⟨rfl, rfl⟩
        exact ⟨rfl, rfl⟩
      · rintro ⟨rfl, rfl⟩
        exact ⟨rfl, rfl⟩

/-- History adds no behaviour. -/
theorem RunWhere.of_withHistory {a b : σ × η}
    (h : (M.withHistory note).RunWhere (fun x e => C x.1 e) a b) :
    M.RunWhere C a.1 b.1 := by
  induction h with
  | refl => exact .refl
  | tail _ hc hs ih => exact ih.tail hc (withHistory_step.mp hs).1

/-- History removes no behaviour: every run is the visible part of one with history. -/
theorem RunWhere.lift_history (h : M.RunWhere C s t) (k : η) :
    ∃ k', (M.withHistory note).RunWhere (fun x e => C x.1 e) (s, k) (t, k') := by
  induction h with
  | refl => exact ⟨k, .refl⟩
  | @tail t u e _ hc hs ih =>
    obtain ⟨k', hk'⟩ := ih
    exact ⟨note k' t e u, hk'.tail hc (withHistory_step.mpr ⟨hs, rfl⟩)⟩

/-! ## 5. Dates -/

variable {δ : Type}

/-- The machine whose events carry the date at which they happen, which no handler reads. -/
def dated (M : Machine σ ε τ) : Machine σ (ε × δ) τ where
  react := fun s e => M.react s e.1

theorem dated_step {e : ε × δ} : M.dated.Step s e t ↔ M.Step s e.1 t := Iff.rfl

end Machine

end Reactive
