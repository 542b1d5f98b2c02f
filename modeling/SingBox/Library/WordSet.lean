import Mathlib.Tactic

/-! Machine words as finite sets of bit positions. The word `s : BitVec w` stands for the set
of all `i < w` whose bit is one; loops over positions build such sets by insertion. -/
namespace WordSet

variable {w : ℕ}

/-- The word with the single position `i`; a position outside the word gives the empty set. -/
def single (w i : ℕ) : BitVec w := 1#w <<< i

/-- The mask test `s & (1 << i) != 0`. -/
def test (s : BitVec w) (i : ℕ) : Bool := s &&& single w i != 0#w

def insert (s : BitVec w) (i : ℕ) : BitVec w := s ||| single w i

variable (s : BitVec w) (i j : ℕ)

lemma getLsbD_single : (single w i).getLsbD j = (decide (i < w) && decide (i = j)) := by
  rw [single,← BitVec.twoPow_eq,BitVec.getLsbD_twoPow]

lemma test_eq_getLsbD : test s i = s.getLsbD i := by
  rw [Bool.eq_iff_iff]
  simp only [test,bne_iff_ne,ne_eq]
  constructor
  · intro h
    by_contra hi
    apply h
    apply BitVec.eq_of_getLsbD_eq
    intro j hj
    rw [BitVec.getLsbD_and,getLsbD_single,BitVec.getLsbD_zero]
    by_cases hij : i = j
    · subst j; simp [hi]
    · simp [hij]
  · intro h he
    have hi : i < w := BitVec.lt_of_getLsbD h
    have hb : (s &&& single w i).getLsbD i = false := by rw [he,BitVec.getLsbD_zero]
    rw [BitVec.getLsbD_and,getLsbD_single,h] at hb
    simp [hi] at hb

lemma getLsbD_insert : (insert s i).getLsbD j = true ↔ s.getLsbD j = true ∨ (i < w ∧ i = j) := by
  simp [insert,BitVec.getLsbD_or,getLsbD_single]

lemma eq_zero_iff : s = 0#w ↔ ∀ i, s.getLsbD i = false := by
  constructor
  · rintro rfl i
    exact BitVec.getLsbD_zero
  · intro h
    apply BitVec.eq_of_getLsbD_eq
    intro i _
    rw [h i,BitVec.getLsbD_zero]

/-- Loop rule: when each round adds exactly the positions `adds a`, the whole loop adds exactly
those of all its rounds. -/
lemma getLsbD_foldl {α : Type*} {ad : α → ℕ → Prop} {b : BitVec w → α → BitVec w}
    (hb : ∀ ac a j, (b ac a).getLsbD j = true ↔ ac.getLsbD j = true ∨ ad a j) (l : List α) (s : BitVec w) (j : ℕ) :
    (l.foldl b s).getLsbD j = true ↔ s.getLsbD j = true ∨ ∃ a ∈ l, ad a j := by
  induction l generalizing s with
  | nil => simp
  | cons a l ih =>
    rw [List.foldl_cons,ih,hb,or_assoc]
    simp only [List.mem_cons,exists_eq_or_imp]

/-- A round that inserts `f a` under the guard `p a`. -/
lemma getLsbD_insert_guarded {α : Type*} (p : α → Bool) (f : α → ℕ) (ac : BitVec w) (a : α) (j : ℕ) :
    (if p a then insert ac (f a) else ac).getLsbD j = true ↔
      ac.getLsbD j = true ∨ (p a = true ∧ f a < w ∧ f a = j) := by
  by_cases hp : p a = true
  · simp [hp,getLsbD_insert]
  · simp [hp]

end WordSet
