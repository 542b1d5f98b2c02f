import Mathlib.Tactic

/-! Inversion of computations that went through. -/
namespace Outcome
open List
variable {ε α β : Type} {f : α → Except ε β}

lemma bind_eq_ok {x : Except ε α} {b : β} : x >>= f = .ok b ↔ ∃ a, x = .ok a ∧ f a = .ok b := by
  cases x with
  | error =>
    constructor
    · intro h
      cases h
    · rintro ⟨a,h,_⟩
      cases h
  | ok a =>
    constructor
    · intro h
      exact ⟨a,rfl,h⟩
    · rintro ⟨a',h,hf⟩
      cases h
      exact hf

lemma map_eq_ok {x : Except ε α} {f : α → β} {b : β} : f <$> x = .ok b ↔ ∃ a, x = .ok a ∧ f a = b := by
  rw [map_eq_pure_bind,bind_eq_ok]
  exact exists_congr fun a => and_congr_right fun _ => ⟨Except.ok.inj,congrArg _⟩

lemma exists_of_mem_mapM {xs : List α} {ys : List β} (h : xs.mapM f = .ok ys) : ∀ y ∈ ys, ∃ x ∈ xs, f x = .ok y := by
  induction xs generalizing ys with
  | nil =>
    rw [mapM_nil] at h
    cases h
    simp
  | cons x xs ih =>
    rw [mapM_cons] at h
    obtain ⟨y,hy,h⟩ := bind_eq_ok.mp h
    obtain ⟨r,hr,h⟩ := bind_eq_ok.mp h
    cases h
    intro y' hy'
    rcases mem_cons.mp hy' with rfl | hy'
    · exact ⟨x,mem_cons_self,hy⟩
    · obtain ⟨x',hx',hf⟩ := ih hr y' hy'
      exact ⟨x',mem_cons_of_mem x hx',hf⟩

lemma exists_of_mem_mapM_option {f : α → Option β} {xs : List α} {ys : List β}
    (h : xs.mapM f = some ys) : ∀ y ∈ ys, ∃ x ∈ xs, f x = some y := by
  induction xs generalizing ys with
  | nil =>
    rw [mapM_nil] at h
    cases h
    simp
  | cons x xs ih =>
    rw [mapM_cons] at h
    obtain ⟨y,hy,h⟩ := Option.bind_eq_some_iff.mp h
    obtain ⟨r,hr,h⟩ := Option.bind_eq_some_iff.mp h
    cases h
    intro y' hy'
    rcases mem_cons.mp hy' with rfl | hy'
    · exact ⟨x,mem_cons_self,hy⟩
    · obtain ⟨x',hx',hf⟩ := ih hr y' hy'
      exact ⟨x',mem_cons_of_mem x hx',hf⟩

end Outcome
