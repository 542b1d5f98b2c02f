import Mathlib.Tactic
import Mathlib.Data.PEquiv

/-! Assignments of places to names, one to one, where a place may be taken from its name for another. -/
namespace Assignment
variable {κ α : Type} [DecidableEq κ] [DecidableEq α]

def assign (e : κ ≃. α) (name : κ) (place : α) (h : e name = none) : κ ≃. α where
  toFun other := if other = name then some place else if e.symm place = some other then none else e other
  invFun other := if other = place then some name else e.symm other
  inv other place' := by
    by_cases hname : other = name
    · subst hname
      by_cases hplace : place' = place
      · simp [hplace]
      · simp only [if_neg hplace,↓reduceIte,Option.some.injEq,e.eq_some_iff,h,reduceCtorEq,false_iff]
        exact fun heq => hplace heq.symm
    · by_cases hplace : place' = place
      · subst hplace
        simp only [↓reduceIte,Option.some.injEq,if_neg hname,e.eq_some_iff]
        constructor
        · exact fun heq => absurd heq.symm hname
        · intro heq
          split_ifs at heq with hheld
          exact absurd heq hheld
      · simp only [if_neg hplace,if_neg hname,e.eq_some_iff]
        split_ifs with hheld
        · simp only [hheld,Option.some.injEq,iff_false]
          exact fun heq => hplace heq.symm
        · rfl

variable {e : κ ≃. α} {n : κ} {p : α} {h : e n = none}

@[simp] lemma assign_self : assign e n p h n = some p := if_pos rfl

lemma assign_of_ne {o : κ} {pl' : α} (ho : e o = some pl') (hne : pl' ≠ p) : assign e n p h o = some pl' := by
  have hn : o ≠ n := by
    rintro rfl
    rw [h] at ho
    cases ho
  have hh : e.symm p ≠ some o := by
    rw [ne_eq,e.eq_some_iff,ho,Option.some.injEq]
    exact hne
  exact ((if_neg hn).trans (if_neg hh)).trans ho

lemma eq_place_or_of_assign {o : κ} {pl' : α} (ho : assign e n p h o = some pl') : pl' = p ∨ e o = some pl' := by
  have heq : (if o = n then some p else if e.symm p = some o then none else e o) = some pl' := ho
  split_ifs at heq
  · exact Or.inl (Option.some.inj heq).symm
  · exact Or.inr heq

end Assignment
