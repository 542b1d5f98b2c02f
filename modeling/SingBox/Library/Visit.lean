import Mathlib.Tactic

/-! Loops that look for an element of a collection whose order is not fixed. -/
namespace Visit
open List
variable {α : Type} {p : α → Bool}

def last (p : α → Bool) (xs : List α) (found : Option α) : Option α :=
  xs.foldl (fun found x => if p x then some x else found) found

lemma last_cases (p : α → Bool) (xs : List α) (f : Option α) :
    (∃ x ∈ xs, p x = true ∧ last p xs f = some x) ∨ (∀ x ∈ xs, p x = false) ∧ last p xs f = f := by
  induction xs generalizing f with
  | nil => exact .inr ⟨fun x hx => absurd hx not_mem_nil,rfl⟩
  | cons x xs ih =>
    obtain ⟨y,hy,hpy,hl⟩ | ⟨hn,hl⟩ := ih (if p x then some x else f)
    · exact .inl ⟨y,mem_cons_of_mem x hy,hpy,hl⟩
    · cases hx : p x with
      | true =>
        rw [hx,if_pos rfl] at hl
        refine .inl ⟨x,mem_cons_self,hx,?_⟩
        rw [last,foldl_cons,hx]
        exact hl
      | false =>
        rw [hx] at hl
        refine .inr ⟨forall_mem_cons.mpr ⟨hx,hn⟩,?_⟩
        rw [last,foldl_cons,hx]
        exact hl

variable (xs : List α)

lemma last_concat {x : α} (hx : p x = true) (f : Option α) : last p (xs++[x]) f = some x := by
  rw [last,foldl_append,foldl_cons,foldl_nil,if_pos hx]

variable {P : Option α → Prop}

lemma forall_perm_last_iff : (∀ ys : List α, ys.Perm xs → P (last p ys none)) ↔
      (∀ x ∈ xs, p x = true → P (some x)) ∧ ((∀ x ∈ xs, p x = false) → P none) := by
  constructor
  · intro h
    refine ⟨fun x hx hpx => ?_,fun hn => ?_⟩
    · obtain ⟨f,b,rfl⟩ := append_of_mem hx
      have hp : ((f++b)++[x]).Perm (f++x::b) := (perm_append_singleton x (f++b)).trans perm_middle.symm
      have hl := h _ hp
      rwa [last_concat _ hpx] at hl
    · obtain ⟨x,hx,hpx,-⟩ | ⟨-,hl⟩ := last_cases p xs none
      · rw [hn x hx] at hpx
        cases hpx
      · exact hl ▸ h xs (List.Perm.refl xs)
  · rintro ⟨hs,hn⟩ ys hp
    obtain ⟨x,hx,hpx,hl⟩ | ⟨ha,hl⟩ := last_cases p ys none
    · rw [hl]
      exact hs x (hp.mem_iff.mp hx) hpx
    · rw [hl]
      exact hn fun x hx => ha x (hp.mem_iff.mpr hx)

lemma forall_perm_find_iff : (∀ ys : List α, ys.Perm xs → P (ys.find? p)) ↔
      (∀ x ∈ xs, p x = true → P (some x)) ∧ ((∀ x ∈ xs, p x = false) → P none) := by
  constructor
  · intro h
    refine ⟨fun x hx hpx => ?_,fun hn => ?_⟩
    · obtain ⟨f,b,rfl⟩ := append_of_mem hx
      have hf := h _ perm_middle.symm
      rwa [find?_cons_of_pos hpx] at hf
    · have hf : xs.find? p = none := find?_eq_none.mpr fun x hx => by simp [hn x hx]
      exact hf ▸ h xs (List.Perm.refl xs)
  · rintro ⟨hs,hn⟩ ys hp
    cases hf : ys.find? p with
    | some x => exact hs x (hp.mem_iff.mp (mem_of_find?_eq_some hf)) (find?_some hf)
    | none =>
      refine hn fun x hx => ?_
      exact Bool.not_eq_true _ ▸ find?_eq_none.mp hf x (hp.mem_iff.mpr hx)

end Visit
