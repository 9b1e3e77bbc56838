/-
# Something happened, and nothing has undone it since

The past-time operator "since" over a finite history, oldest entry first.  `Since a b h`
holds when some entry of `h` satisfies `a` and no later entry satisfies `b`.

The two recursion equations at the end of the history, `not_since_nil` and `since_concat`,
are what a program that keeps one bit per `Since` computes.
-/
import Mathlib.Tactic.Common

namespace Reactive

variable {ε : Type} {a b : ε → Prop} {h : List ε} {e : ε}

/-- Some entry satisfies `a`, and no later one satisfies `b`. -/
def Since (a b : ε → Prop) (h : List ε) : Prop :=
  ∃ pre e post, h = pre ++ e :: post ∧ a e ∧ ∀ x ∈ post, ¬b x

theorem not_since_nil : ¬Since a b [] := by
  rintro ⟨pre, e, post, h, -⟩
  simp at h

/-- **The newest entry decides, or leaves the matter as it was.** -/
theorem since_concat : Since a b (h ++ [e]) ↔ a e ∨ (Since a b h ∧ ¬b e) := by
  constructor
  · rintro ⟨pre, x, post, heq, hx, hpost⟩
    rcases List.eq_nil_or_concat post with rfl | ⟨post', y, rfl⟩
    · obtain ⟨-, hxe⟩ := List.append_inj' heq rfl
      obtain rfl : e = x := by simpa using hxe
      exact Or.inl hx
    · have heq' : h ++ [e] = (pre ++ x :: post') ++ [y] := by simpa using heq
      obtain ⟨hh, hey⟩ := List.append_inj' heq' rfl
      obtain rfl : e = y := by simpa using hey
      refine Or.inr ⟨⟨pre, x, post', hh, hx, ?_⟩, hpost e (by simp)⟩
      intro z hz
      exact hpost z (by simp [hz])
  · rintro (he | ⟨⟨pre, x, post, rfl, hx, hpost⟩, hb⟩)
    · exact ⟨h, e, [], rfl, he, by simp⟩
    · refine ⟨pre, x, post ++ [e], by simp, hx, ?_⟩
      intro z hz
      rcases List.mem_append.mp hz with hz | hz
      · exact hpost z hz
      · obtain rfl : z = e := by simpa using hz
        exact hb

end Reactive
