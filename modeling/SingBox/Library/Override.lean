import Mathlib.Tactic

/-! A value that each item of a list may set. The last item that sets it wins. -/
namespace Override

variable {α β γ : Type*} (set? : α → Option β)

def overrides (x : β) (items : List α) : β := items.foldl (fun x item => (set? item).getD x) x

@[simp] lemma overrides_cons (x : β) (i : α) (it : List α) :
    overrides set? x (i :: it) = overrides set? ((set? i).getD x) it := rfl

lemma overrides_append (x : β) (it l : List α) :
    overrides set? x (it ++ l) = overrides set? (overrides set? x it) l := by
  simp [overrides]

variable {set?}

lemma overrides_of_unset {it : List α} (h : ∀ i ∈ it, set? i = none) (x : β) : overrides set? x it = x := by
  induction it with
  | nil => rfl
  | cons i it ih =>
    have him := h i (by simp)
    rw [overrides_cons,him,Option.getD_none]
    exact ih (fun l hl => h l (by simp [hl]))

lemma overrides_of_set {it : List α} (h : ∃ i ∈ it, set? i ≠ none) (x y : β) :
    overrides set? x it = overrides set? y it := by
  induction it generalizing x y with
  | nil => simp at h
  | cons i it ih =>
    rw [overrides_cons,overrides_cons]
    cases him : set? i with
    | some => simp
    | none =>
      apply ih
      obtain ⟨l,hm,hl⟩ := h
      have hne : l ≠ i := by
        intro heq
        rw [heq] at hl
        exact hl him
      exact ⟨l,by simpa [hne] using hm,hl⟩

/-- Leaving out the first items does not show exactly where a later item sets the value again, or the
first ones do not change what is seen of it. -/
lemma overrides_skip_iff (set? : α → Option β) (v : β → γ) (x : β) (s it : List α) :
    v (overrides set? x it) = v (overrides set? x (s ++ it)) ↔
      (∃ i ∈ it, set? i ≠ none) ∨ v x = v (overrides set? x s) := by
  rw [overrides_append]
  by_cases h : ∃ i ∈ it, set? i ≠ none
  · simp [h,overrides_of_set h x (overrides set? x s)]
  · have hu : ∀ i ∈ it, set? i = none := by
      intro i him
      by_contra hne
      exact h ⟨i,him,hne⟩
    rw [overrides_of_unset hu,overrides_of_unset hu]
    simp [h]

end Override
