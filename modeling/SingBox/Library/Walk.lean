import Mathlib.Tactic

/-! Walks over pieces of a line: from a position to the end of the first piece that starts there, for as long as
there is one. -/
namespace Walk
open List
variable {α : Type} (start stop : α → ℕ) (pieces : List α)

def find (position : ℕ) : Option α := pieces.find? (start · == position)

/-- The pieces of the walk from a position, where it ends within `fuel` steps. -/
def walk : ℕ → ℕ → Option (List α)
  | 0, position => if (find start pieces position).isNone then some [] else none
  | fuel+1, position =>
    match find start pieces position with
    | none => some []
    | some piece => (walk fuel (stop piece)).map (piece :: ·)

inductive Reaches : ℕ → ℕ → Prop
  | refl (position : ℕ) : Reaches position position
  | step {position last : ℕ} {piece : α} : find start pieces position = some piece → Reaches (stop piece) last →
      Reaches position last

/-- Every piece that the walk comes to leads on. -/
def Advances (position : ℕ) : Prop :=
  ∀ last piece, Reaches start stop pieces position last → find start pieces last = some piece → last < stop piece

/-- The pieces lie side by side between two positions. -/
def Tiles : ℕ → List α → ℕ → Prop
  | position, [], last => position = last
  | position, piece :: rest, last => start piece = position ∧ Tiles (stop piece) rest last

variable {start stop pieces} {fl ps l : ℕ} {pc : α} {v : List α}

lemma mem_of_find (h : find start pieces ps = some pc) : pc ∈ pieces ∧ start pc = ps :=
  ⟨mem_of_find?_eq_some h,by simpa using find?_some h⟩

lemma find_eq_none : find start pieces ps = none ↔ ∀ pc ∈ pieces, start pc ≠ ps := by
  simp [find]

lemma walk_of_find_eq_none (h : find start pieces ps = none) : walk start stop pieces fl ps = some [] := by
  cases fl with
  | zero => rw [walk,h,Option.isNone_none,if_pos rfl]
  | succ => rw [walk,h]

lemma walk_of_find (h : find start pieces ps = some pc) :
    walk start stop pieces (fl+1) ps = (walk start stop pieces fl (stop pc)).map (pc :: ·) := by
  rw [walk,h]

lemma walk_cases (h : walk start stop pieces fl ps = some v) : find start pieces ps = none ∧ v = [] ∨
      ∃ pc r f', find start pieces ps = some pc ∧ fl = f'+1 ∧ v = pc::r ∧
        walk start stop pieces f' (stop pc) = some r := by
  cases hf : find start pieces ps with
  | none =>
    rw [walk_of_find_eq_none hf] at h
    exact .inl ⟨rfl,(Option.some.inj h).symm⟩
  | some pc =>
    cases fl with
    | zero =>
      rw [walk,hf,Option.isNone_some,if_neg (by decide)] at h
      cases h
    | succ fl =>
      rw [walk_of_find hf] at h
      obtain ⟨r,hr,rfl⟩ := Option.map_eq_some_iff.mp h
      exact .inr ⟨pc,r,fl,rfl,rfl,rfl,hr⟩

lemma Advances.next (h : Advances start stop pieces ps) (hf : find start pieces ps = some pc) :
    Advances start stop pieces (stop pc) :=
  fun l o hr ho => h l o (.step hf hr) ho

lemma countP_lt (hfn : find start pieces ps = some pc) (hlt : ps < stop pc) :
    pieces.countP (stop pc ≤ start ·) < pieces.countP (ps ≤ start ·) := by
  obtain ⟨hmm,hs⟩ := mem_of_find hfn
  obtain ⟨f,b,rfl⟩ := append_of_mem hmm
  have hm : ∀ p : List α, p.countP (stop pc ≤ start ·) ≤ p.countP (ps ≤ start ·) := by
    refine fun p => countP_mono_left fun o _ ho => ?_
    have hle := of_decide_eq_true ho
    exact decide_eq_true (by omega)
  have hf := hm f
  have hb := hm b
  simp only [countP_append,countP_cons,hs,le_refl,not_le.mpr hlt,decide_true,decide_false]
  simp only [if_true,Bool.false_eq_true,if_false]
  omega

lemma exists_walk_of_advances (h : Advances start stop pieces ps) (hfl : pieces.countP (ps ≤ start ·) ≤ fl) :
    ∃ v, walk start stop pieces fl ps = some v ∧ v.length ≤ pieces.countP (ps ≤ start ·) := by
  induction fl generalizing ps with
  | zero =>
    have hn : find start pieces ps = none := by
      refine find_eq_none.mpr fun pc hm hs => ?_
      have hp : 0 < pieces.countP (ps ≤ start ·) := countP_pos_iff.mpr ⟨pc,hm,decide_eq_true hs.ge⟩
      omega
    exact ⟨[],walk_of_find_eq_none hn,Nat.zero_le _⟩
  | succ fl ih =>
    cases hf : find start pieces ps with
    | none => exact ⟨[],walk_of_find_eq_none hf,Nat.zero_le _⟩
    | some pc =>
      have hls := countP_lt hf (h ps pc (.refl ps) hf)
      obtain ⟨v,hw,hl⟩ := ih (h.next hf) (by omega)
      refine ⟨pc::v,?_,?_⟩
      · rw [walk_of_find hf,hw]
        rfl
      · rw [length_cons]
        omega

lemma advances_of_find_eq_none (hn : find start pieces ps = none) : Advances start stop pieces ps := by
  intro l pc hr hf
  cases hr with
  | refl => exact absurd hf (by rw [hn]; exact nofun)
  | step hs => exact absurd hs (by rw [hn]; exact nofun)

section
variable (hle : ∀ pc ∈ pieces, start pc ≤ stop pc)
include hle

lemma advances_of_walk (h : walk start stop pieces fl ps = some v) : Advances start stop pieces ps := by
  induction fl generalizing ps v with
  | zero =>
    obtain ⟨hn,-⟩ | ⟨pc,r,fl,hf,hfl,-⟩ := walk_cases h
    · exact advances_of_find_eq_none hn
    · cases hfl
  | succ fl ih =>
    obtain ⟨hn,-⟩ | ⟨pc,r,f',hf,hfl,-,hrs⟩ := walk_cases h
    · exact advances_of_find_eq_none hn
    · cases hfl
      have ha := ih hrs
      obtain ⟨hm,hs⟩ := mem_of_find hf
      have hlt : ps < stop pc := by
        refine lt_of_le_of_ne (hs ▸ hle pc hm) fun he => ?_
        -- an empty piece would lead back to where it starts
        rw [← he] at ha
        exact absurd (ha ps pc (.refl ps) hf) (by omega)
      intro l o hr ho
      cases hr with
      | refl =>
        rw [hf] at ho
        cases ho
        exact hlt
      | step hst hr =>
        rw [hf] at hst
        cases hst
        exact ha l o hr ho

/-- The walk ends exactly where every piece that it comes to leads on, and then in as many steps as there are
pieces. -/
theorem walk_length_isSome_iff : (walk start stop pieces pieces.length ps).isSome ↔ Advances start stop pieces ps := by
  constructor
  · intro h
    obtain ⟨v,hv⟩ := Option.isSome_iff_exists.mp h
    exact advances_of_walk hle hv
  · intro h
    obtain ⟨v,hv,-⟩ := exists_walk_of_advances h countP_le_length
    rw [hv]
    rfl

end

/-- Pieces that lie side by side, with no other one at their starts and none behind them, are what the walk goes
over. -/
theorem walk_of_tiles (hu : ∀ a ∈ pieces, ∀ b ∈ pieces, start a = start b → a = b)
    (hsb : ∀ pc ∈ v, pc ∈ pieces) (ht : Tiles start stop ps v l)
    (he : ∀ pc ∈ pieces, start pc ≠ l) (hfl : v.length ≤ fl) : walk start stop pieces fl ps = some v := by
  induction v generalizing ps fl with
  | nil =>
    have heq : ps = l := ht
    rw [← heq] at he
    exact walk_of_find_eq_none (find_eq_none.mpr he)
  | cons pc r ih =>
    obtain ⟨hs,hr⟩ := ht
    have hm := hsb pc mem_cons_self
    have hfn : find start pieces ps = some pc := by
      cases hf : find start pieces ps with
      | none => exact absurd hs (find_eq_none.mp hf pc hm)
      | some o =>
        obtain ⟨ho,hsm⟩ := mem_of_find hf
        rw [hu o ho pc hm (hsm.trans hs.symm)]
    obtain ⟨fl,rfl⟩ : ∃ m, fl = m+1 := ⟨fl-1,by rw [length_cons] at hfl; omega⟩
    rw [walk_of_find hfn,ih (fun o ho => hsb o (mem_cons_of_mem pc ho)) hr (Nat.le_of_succ_le_succ hfl)]
    rfl

end Walk
