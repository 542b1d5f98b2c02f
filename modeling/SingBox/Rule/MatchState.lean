import SingBox.Library.WordSet

/-! Group masks and sets of group masks of the rule matcher (`route/rule/match_state.go`).
A mask records which of the four address and port groups are satisfied; a set of masks is a
16-bit word with one bit for each mask below 16. -/
namespace SingBox.Rule
open List

/-- `ruleMatchState`, a `uint8` of which the four low bits are used. -/
abbrev RuleMatchState := BitVec 8

def ruleMatchSourceAddress : RuleMatchState := 1#8 <<< 0
def ruleMatchSourcePort : RuleMatchState := 1#8 <<< 1
def ruleMatchDestinationAddress : RuleMatchState := 1#8 <<< 2
def ruleMatchDestinationPort : RuleMatchState := 1#8 <<< 3

def ruleMatchStates : List RuleMatchState := (List.range 16).map (BitVec.ofNat 8)

namespace RuleMatchState

def has (s target : RuleMatchState) : Bool := s &&& target != 0#8

/-- Every group of `a` is a group of `b`. -/
def Subset (a b : RuleMatchState) : Prop := a ||| b = b

instance (a b : RuleMatchState) : Decidable (Subset a b) := inferInstanceAs (Decidable (_ = _))

lemma has_or (a b g : RuleMatchState) : has (a ||| b) g = (has a g || has b g) := by
  rw [Bool.eq_iff_iff]
  simp only [has,bne_iff_ne,ne_eq,Bool.or_eq_true,BitVec.and_or_distrib_right, BitVec.or_eq_zero_iff]
  tauto

lemma Subset.refl (a : RuleMatchState) : Subset a a := BitVec.or_self

variable {a b c : RuleMatchState}

lemma Subset.trans (hab : Subset a b) (hbc : Subset b c) : Subset a c := by
  unfold Subset at *
  rw [← hbc,← BitVec.or_assoc,hab]

lemma Subset.left (a b : RuleMatchState) : Subset a (a ||| b) := by
  rw [Subset,← BitVec.or_assoc,BitVec.or_self]

lemma Subset.right (a b : RuleMatchState) : Subset b (a ||| b) := by
  rw [BitVec.or_comm]; exact Subset.left b a

lemma Subset.or (ha : Subset a c) (hb : Subset b c) : Subset (a ||| b) c := by
  unfold Subset at *
  rw [BitVec.or_assoc,hb,ha]

lemma Subset.or_mono {d : RuleMatchState} (hab : Subset a b) (hcd : Subset c d) : Subset (a ||| c) (b ||| d) :=
  Subset.or (hab.trans (Subset.left b d)) (hcd.trans (Subset.right b d))

lemma or_lt_sixteen (ha : a.toNat < 16) (hb : b.toNat < 16) : (a ||| b).toNat < 16 := by
  rw [BitVec.toNat_or]
  exact Nat.or_lt_two_pow (n := 4) ha hb

lemma Subset.lt_sixteen (h : Subset a b) (hb : b.toNat < 16) : a.toNat < 16 := by
  have hle : a.toNat ≤ b.toNat := by
    conv_rhs => rw [← h,BitVec.toNat_or]
    exact Nat.left_le_or
  omega

lemma mem_ruleMatchStates (a : RuleMatchState) : a ∈ ruleMatchStates ↔ a.toNat < 16 := by
  simp only [ruleMatchStates,mem_map,mem_range]
  constructor
  · rintro ⟨i,hi,rfl⟩
    rw [BitVec.toNat_ofNat]
    exact lt_of_le_of_lt (Nat.mod_le i _) hi
  · intro h
    exact ⟨a.toNat,h,BitVec.eq_of_toNat_eq (by simp)⟩

end RuleMatchState

/-- `ruleMatchStateSet`, a `uint16`. -/
abbrev RuleMatchStateSet := BitVec 16

def singleRuleMatchState (state : RuleMatchState) : RuleMatchStateSet := WordSet.single 16 state.toNat

def emptyRuleMatchState : RuleMatchStateSet := singleRuleMatchState 0#8

namespace RuleMatchStateSet
open RuleMatchState

def isEmpty (s : RuleMatchStateSet) : Bool := s == 0#16

def contains (s : RuleMatchStateSet) (state : RuleMatchState) : Bool := WordSet.test s state.toNat

def add (s : RuleMatchStateSet) (state : RuleMatchState) : RuleMatchStateSet := WordSet.insert s state.toNat

def merge (s other : RuleMatchStateSet) : RuleMatchStateSet := s ||| other

def combine (s other : RuleMatchStateSet) : RuleMatchStateSet :=
  if isEmpty s || isEmpty other then 0#16
  else ruleMatchStates.foldl (fun combined left => if contains s left then
      ruleMatchStates.foldl (fun combined right =>
        if contains other right then add combined (left ||| right) else combined) combined
    else combined) 0#16

def withBase (s : RuleMatchStateSet) (base : RuleMatchState) : RuleMatchStateSet :=
  if isEmpty s then 0#16
  else ruleMatchStates.foldl (fun withBase state =>
    if contains s state then add withBase (state ||| base) else withBase) 0#16

def filter (s : RuleMatchStateSet) (allowed : RuleMatchState → Bool) : RuleMatchStateSet :=
  ruleMatchStates.foldl (fun filtered state =>
    if contains s state then (if allowed state then add filtered state else filtered)
    else filtered) 0#16

lemma contains_eq (s : RuleMatchStateSet) (a : RuleMatchState) :
    contains s a = s.getLsbD a.toNat := WordSet.test_eq_getLsbD s a.toNat

variable {s : RuleMatchStateSet} {bs : RuleMatchState} {α : Type}

lemma lt_of_contains {a : RuleMatchState} (h : contains s a = true) : a.toNat < 16 := by
  rw [contains_eq] at h
  exact BitVec.lt_of_getLsbD h

@[simp] lemma contains_zero (a : RuleMatchState) : contains 0#16 a = false := by
  rw [contains_eq,BitVec.getLsbD_zero]

lemma isEmpty_iff (s : RuleMatchStateSet) : isEmpty s = true ↔ ∀ a, contains s a = false := by
  simp only [isEmpty,beq_iff_eq]
  constructor
  · rintro rfl a
    exact contains_zero a
  · intro h
    apply (WordSet.eq_zero_iff s).mpr
    intro i
    by_cases hi : i < 16
    · have ha := h (BitVec.ofNat 8 i)
      rw [contains_eq,BitVec.toNat_ofNat,Nat.mod_eq_of_lt (by omega)] at ha
      exact ha
    · exact BitVec.getLsbD_of_ge s i (by omega)

lemma eq_of_contains {t : RuleMatchStateSet} (h : ∀ a, contains s a = contains t a) : s = t := by
  apply BitVec.eq_of_getLsbD_eq
  intro i hi
  have ha := h (BitVec.ofNat 8 i)
  rwa [contains_eq,contains_eq,BitVec.toNat_ofNat,Nat.mod_eq_of_lt (by omega)] at ha

lemma isEmpty_eq_false_iff (s : RuleMatchStateSet) : isEmpty s = false ↔ ∃ a, contains s a = true := by
  rw [← Bool.not_eq_true,isEmpty_iff]
  simp

lemma contains_single (a b : RuleMatchState) : contains (singleRuleMatchState a) b = true ↔ a.toNat < 16 ∧ b = a := by
  rw [contains_eq,singleRuleMatchState,WordSet.getLsbD_single]
  simp only [Bool.and_eq_true,decide_eq_true_eq]
  constructor
  · rintro ⟨ha,hab⟩
    exact ⟨ha,(BitVec.eq_of_toNat_eq hab).symm⟩
  · rintro ⟨ha,rfl⟩
    exact ⟨ha,rfl⟩

lemma contains_emptyRuleMatchState (a : RuleMatchState) : contains emptyRuleMatchState a = true ↔ a = 0#8 := by
  simp [emptyRuleMatchState,contains_single]

lemma contains_merge (s t : RuleMatchStateSet) (a : RuleMatchState) :
    contains (merge s t) a = (contains s a || contains t a) := by
  simp only [contains_eq,merge,BitVec.getLsbD_or]

/-- Bit `j` of a loop that adds `f state` for every state passing the guard `p`. -/
lemma getLsbD_foldl_add (l : List RuleMatchState) (p : RuleMatchState → Bool)
    (f : RuleMatchState → RuleMatchState) (s : RuleMatchStateSet) (j : ℕ) :
    (l.foldl (fun acc st => if p st then add acc (f st) else acc) s).getLsbD j = true ↔
      s.getLsbD j = true ∨ ∃ st ∈ l, p st = true ∧ (f st).toNat < 16 ∧ (f st).toNat = j :=
  WordSet.getLsbD_foldl (fun acc a j => WordSet.getLsbD_insert_guarded p (fun st => (f st).toNat) acc a j) l s j

lemma contains_filter (s : RuleMatchStateSet) (al : RuleMatchState → Bool) (a : RuleMatchState) :
    contains (filter s al) a = true ↔ contains s a = true ∧ al a = true := by
  have hb : ∀ acc st, (if contains s st then (if al st then add acc st else acc) else acc) =
      if contains s st && al st then add acc st else acc := by
    intro acc st
    by_cases hs : contains s st <;> by_cases ha : al st <;> simp [hs,ha]
  rw [contains_eq,filter]
  simp only [hb]
  rw [getLsbD_foldl_add ruleMatchStates (fun st => contains s st && al st) (fun st => st)]
  simp only [BitVec.getLsbD_zero,Bool.false_eq_true,false_or,Bool.and_eq_true]
  constructor
  · rintro ⟨st,_,h,_,hj⟩
    rwa [BitVec.eq_of_toNat_eq hj] at h
  · intro h
    have hlt := lt_of_contains h.1
    exact ⟨a,(mem_ruleMatchStates a).mpr hlt,h,hlt,rfl⟩

lemma contains_withBase (s : RuleMatchStateSet) (hb : bs.toNat < 16) (a : RuleMatchState) :
    contains (withBase s bs) a = true ↔ ∃ b, contains s b = true ∧ a = b ||| bs := by
  unfold withBase
  split_ifs with hs
  · have hn := (isEmpty_iff s).mp hs
    simp [hn]
  · rw [contains_eq,getLsbD_foldl_add ruleMatchStates (contains s) (· ||| bs)]
    simp only [BitVec.getLsbD_zero,Bool.false_eq_true,false_or]
    constructor
    · rintro ⟨b,_,h,_,hj⟩
      exact ⟨b,h,(BitVec.eq_of_toNat_eq hj).symm⟩
    · rintro ⟨b,h,rfl⟩
      have hlt := lt_of_contains h
      exact ⟨b,(mem_ruleMatchStates b).mpr hlt,h,or_lt_sixteen hlt hb,rfl⟩

lemma contains_combine (s t : RuleMatchStateSet) (a : RuleMatchState) : contains (combine s t) a = true ↔
      ∃ l r, contains s l = true ∧ contains t r = true ∧ a = l ||| r := by
  unfold combine
  split_ifs with he
  · simp only [contains_zero,Bool.false_eq_true,false_iff]
    rintro ⟨l,r,hl,hr,_⟩
    rcases Bool.or_eq_true _ _ ▸ he with h | h
    · rw [(isEmpty_iff s).mp h l] at hl; contradiction
    · rw [(isEmpty_iff t).mp h r] at hr; contradiction
  · -- the inner loop adds the unions with one fixed left mask, the outer one collects them
    have hrn : ∀ (acc : RuleMatchStateSet) (lf : RuleMatchState) (j : ℕ),
        (if contains s lf then ruleMatchStates.foldl (fun cm rg =>
          if contains t rg then add cm (lf ||| rg) else cm) acc
          else acc).getLsbD j = true ↔ acc.getLsbD j = true ∨
          (contains s lf = true ∧ ∃ rg ∈ ruleMatchStates, contains t rg = true ∧
            (lf ||| rg).toNat < 16 ∧ (lf ||| rg).toNat = j) := by
      intro acc lf j
      by_cases hl : contains s lf = true
      · simp only [hl,if_true,true_and]
        exact getLsbD_foldl_add ruleMatchStates (contains t) (lf ||| ·) acc j
      · simp [hl]
    rw [contains_eq,WordSet.getLsbD_foldl hrn]
    simp only [BitVec.getLsbD_zero,Bool.false_eq_true,false_or]
    constructor
    · rintro ⟨l,_,hl,r,_,hr,_,hj⟩
      exact ⟨l,r,hl,hr,(BitVec.eq_of_toNat_eq hj).symm⟩
    · rintro ⟨l,r,hl,hr,rfl⟩
      have hlt := lt_of_contains hl
      have hrt := lt_of_contains hr
      exact ⟨l,(mem_ruleMatchStates l).mpr hlt,hl,r,(mem_ruleMatchStates r).mpr hrt,hr, or_lt_sixteen hlt hrt,rfl⟩

lemma contains_empty_withBase (hb : bs.toNat < 16) (a : RuleMatchState) :
    contains (withBase emptyRuleMatchState bs) a = true ↔ a = bs := by
  rw [contains_withBase _ hb]
  simp only [contains_emptyRuleMatchState]
  constructor
  · rintro ⟨b,rfl,rfl⟩; exact BitVec.zero_or
  · rintro rfl; exact ⟨0#8,rfl,BitVec.zero_or.symm⟩

lemma empty_withBase (hb : bs.toNat < 16) : withBase emptyRuleMatchState bs = singleRuleMatchState bs := by
  apply eq_of_contains
  intro a
  rw [Bool.eq_iff_iff,contains_empty_withBase hb,contains_single]
  exact ⟨fun h => ⟨hb,h⟩,fun h => h.2⟩

lemma isEmpty_combine (s t : RuleMatchStateSet) : isEmpty (combine s t) = (isEmpty s || isEmpty t) := by
  rw [← Bool.not_inj_iff,Bool.not_or]
  rw [Bool.eq_iff_iff]
  simp only [Bool.not_eq_true',Bool.and_eq_true,isEmpty_eq_false_iff,contains_combine]
  constructor
  · rintro ⟨_,l,r,hl,hr,_⟩
    exact ⟨⟨l,hl⟩,⟨r,hr⟩⟩
  · rintro ⟨⟨l,hl⟩,⟨r,hr⟩⟩
    exact ⟨l ||| r,l,r,hl,hr,rfl⟩

lemma isEmpty_merge (s t : RuleMatchStateSet) : isEmpty (merge s t) = (isEmpty s && isEmpty t) := by
  rw [Bool.eq_iff_iff]
  simp only [isEmpty,merge,beq_iff_eq,Bool.and_eq_true,BitVec.or_eq_zero_iff]

@[simp] lemma isEmpty_zero : isEmpty 0#16 = true := rfl

lemma isEmpty_empty_withBase (hb : bs.toNat < 16) : isEmpty (withBase emptyRuleMatchState bs) = false :=
  (isEmpty_eq_false_iff _).mpr ⟨bs,(contains_empty_withBase hb bs).mpr rfl⟩

section
variable (l : List α) (f : α → RuleMatchStateSet) (acc : RuleMatchStateSet)
include l f acc

lemma contains_foldl_merge (a : RuleMatchState) : contains (l.foldl (fun s x => merge s (f x)) acc) a = true ↔
      contains acc a = true ∨ ∃ x ∈ l, contains (f x) a = true := by
  induction l generalizing acc with
  | nil => simp
  | cons x l ih =>
    rw [foldl_cons,ih,contains_merge,Bool.or_eq_true,or_assoc,exists_mem_cons_iff]

lemma isEmpty_foldl_merge :
    isEmpty (l.foldl (fun s x => merge s (f x)) acc) = (isEmpty acc && l.all fun x => isEmpty (f x)) := by
  induction l generalizing acc with
  | nil => simp
  | cons x l ih => rw [foldl_cons,ih,isEmpty_merge,all_cons,Bool.and_assoc]

lemma isEmpty_foldl_combine :
    isEmpty (l.foldl (fun s x => combine s (f x)) acc) = (isEmpty acc || l.any fun x => isEmpty (f x)) := by
  induction l generalizing acc with
  | nil => simp
  | cons x l ih => rw [foldl_cons,ih,isEmpty_combine,any_cons,Bool.or_assoc]

end

/-- The loop of a logical `and`, which gives up at the first element without states. -/
def combineLoop {α : Type} (f : α → RuleMatchStateSet) :
    List α → RuleMatchStateSet → Option RuleMatchStateSet
  | [], acc => some acc
  | x :: l, acc => if isEmpty (f x) then none else combineLoop f l (combine acc (f x))

lemma combineLoop_eq (f : α → RuleMatchStateSet) (l : List α) (acc : RuleMatchStateSet) : combineLoop f l acc =
      if l.any fun x => isEmpty (f x) then none else some (l.foldl (fun s x => combine s (f x)) acc) := by
  induction l generalizing acc with
  | nil => simp [combineLoop]
  | cons x l ih =>
    rw [combineLoop,ih,any_cons,foldl_cons]
    cases isEmpty (f x) <;> simp

lemma eq_zero_of_isEmpty (h : isEmpty s = true) : s = 0#16 := by
  simpa [isEmpty] using h

end RuleMatchStateSet
end SingBox.Rule
