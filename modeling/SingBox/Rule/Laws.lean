import SingBox.Rule.States

/-! The laws of inherited bases: a rule keeps the groups it inherits, inheriting more can only
help it, and an inverted rule passes on nothing but its base. -/
namespace SingBox.Rule
open Adapter RuleMatchState RuleMatchStateSet

/-- States as a function of the base, as every part of the matcher computes them. -/
structure LawfulStates (f : RuleMatchState → RuleMatchStateSet) : Prop where
  subset : ∀ {base s : RuleMatchState}, base.toNat < 16 → contains (f base) s = true → Subset base s
  mono : ∀ {b₁ b₂ s : RuleMatchState}, Subset b₁ b₂ → b₂.toNat < 16 →
    contains (f b₁) s = true → contains (f b₂) (s ||| b₂) = true

namespace LawfulStates
variable {f g : RuleMatchState → RuleMatchStateSet}

protected lemma zero : LawfulStates fun _ => 0#16 where
  subset _ h := by simp at h
  mono _ _ h := by simp at h

protected lemma withBase : LawfulStates fun b => emptyRuleMatchState.withBase b where
  subset hb h := by
    rw [(contains_empty_withBase hb _).mp h]
    exact Subset.refl _
  mono hs hb h := by
    rw [(contains_empty_withBase (hs.lt_sixteen hb) _).mp h]
    exact (contains_empty_withBase hb _).mpr hs

protected lemma single : LawfulStates singleRuleMatchState where
  subset _ h := by
    rw [((contains_single _ _).mp h).2]
    exact Subset.refl _
  mono hs hb h := by
    rw [((contains_single _ _).mp h).2]
    exact (contains_single _ _).mpr ⟨hb,hs⟩

protected lemma comp_or (hf : LawfulStates f) {c : RuleMatchState} (hc : c.toNat < 16) :
    LawfulStates fun b => f (b ||| c) where
  subset hb h := (Subset.left _ c).trans (hf.subset (or_lt_sixteen hb hc) h)
  mono {b₁ b₂ s} hsb hb h := by
    have hcs : Subset c s := (Subset.right b₁ c).trans (hf.subset (or_lt_sixteen (hsb.lt_sixteen hb) hc) h)
    have hs := hf.mono (hsb.or_mono (Subset.refl c)) (or_lt_sixteen hb hc) h
    have heq : s ||| (b₂ ||| c) = s ||| b₂ := by
      rw [← BitVec.or_assoc,BitVec.or_comm]
      exact hcs.trans (Subset.left s b₂)
    rwa [heq] at hs

protected lemma filter (hf : LawfulStates f) {a : RuleMatchState → Bool}
    (hup : ∀ s b, a s = true → a (s ||| b) = true) : LawfulStates fun bs => (f bs).filter a where
  subset hb h := hf.subset hb ((contains_filter _ _ _).mp h).1
  mono hs hb h := by
    have h' := (contains_filter _ _ _).mp h
    exact (contains_filter _ _ _).mpr ⟨hf.mono hs hb h'.1,hup _ _ h'.2⟩

protected lemma merge (hf : LawfulStates f) (hg : LawfulStates g) : LawfulStates fun b => (f b).merge (g b) where
  subset hb h := by
    rw [contains_merge,Bool.or_eq_true] at h
    exact h.elim (hf.subset hb) (hg.subset hb)
  mono hs hb h := by
    rw [contains_merge,Bool.or_eq_true] at h ⊢
    exact h.imp (hf.mono hs hb) (hg.mono hs hb)

protected lemma combine (hf : LawfulStates f) (hg : LawfulStates g) : LawfulStates fun b => (f b).combine (g b) where
  subset hb h := by
    obtain ⟨l,r,hl,hr,rfl⟩ := (contains_combine _ _ _).mp h
    exact (hf.subset hb hl).trans (Subset.left l r)
  mono {b₁ b₂ s} hs hb h := by
    obtain ⟨l,r,hl,hr,rfl⟩ := (contains_combine _ _ _).mp h
    refine (contains_combine _ _ _).mpr ⟨l ||| b₂,r ||| b₂,hf.mono hs hb hl,hg.mono hs hb hr,?_⟩
    rw [BitVec.or_assoc l b₂,BitVec.or_comm b₂,BitVec.or_assoc r,BitVec.or_self,BitVec.or_assoc]

protected lemma foldl {α : Type} {op : RuleMatchStateSet → RuleMatchStateSet → RuleMatchStateSet}
    (hop : ∀ {f g}, LawfulStates f → LawfulStates g → LawfulStates fun bs => op (f bs) (g bs))
    (l : List α) {h : α → RuleMatchState → RuleMatchStateSet} (hl : ∀ a ∈ l, LawfulStates (h a)) (hf : LawfulStates f) :
    LawfulStates fun bs => l.foldl (fun ac a => op ac (h a bs)) (f bs) := by
  induction l generalizing f with
  | nil => exact hf
  | cons a l ih =>
    exact ih (fun b hb => hl b (List.mem_cons_of_mem a hb)) (hop hf (hl a List.mem_cons_self))

end LawfulStates

section
variable (m : ItemMatcher) (rl : HeadlessRule) (r : AbstractDefaultRule HeadlessRule) (md : InboundContext)

lemma AbstractDefaultRule.lawful_bodyStates (hs : LawfulStates (r.ruleSetStates m md)) :
    LawfulStates (r.bodyStates m md) := by
  unfold AbstractDefaultRule.bodyStates
  split_ifs
  · refine (hs.comp_or (groupMask_lt _)).filter fun s b h => ?_
    rw [r.allowed_iff] at h ⊢
    intro g hg
    rw [has_or,h g hg,Bool.true_or]
  · exact LawfulStates.zero

lemma lawful_answerStates (i fl : Bool) {f : RuleMatchState → RuleMatchStateSet}
    (hf : LawfulStates f) : LawfulStates fun b => answerStates i fl (f b) b := by
  cases i with
  | false => exact hf
  | true =>
    cases fl with
    | false => exact LawfulStates.zero
    | true => exact LawfulStates.withBase

lemma AbstractDefaultRule.lawful_ruleSetStates
    (h : ∀ it, r.ruleSetItem = some it → ∀ s ∈ it.setList, ∀ i ∈ s.rules, ∀ md,
      LawfulStates (i.matchStatesWithBase m md)) : LawfulStates (r.ruleSetStates m md) := by
  unfold AbstractDefaultRule.ruleSetStates
  cases hr : r.ruleSetItem with
  | none => exact LawfulStates.single
  | some it =>
    simp only [RuleSetItem.matchStatesWithBase,matchRuleSets_eq,matchSetRules_eq]
    exact LawfulStates.zero.foldl (.merge) _ fun s hs =>
      LawfulStates.zero.foldl (.merge) _ fun i hi => h it hr s hs i hi _

lemma lawful_matchStatesWithBase : LawfulStates (rl.matchStatesWithBase m md) := by
  -- over the tree: rules of the sets and children are lawful on the metadata they are handed
  induction rl using HeadlessRule.induct generalizing md with
  | default r ih =>
    have hs := r.lawful_ruleSetStates m md ih
    simp only [funext (HeadlessRule.matchStatesWithBase_default m r md)]
    cases r.noItems with
    | true => exact LawfulStates.withBase
    | false => exact lawful_answerStates _ _ (r.lawful_bodyStates m md hs)
  | logical r ih =>
    have hb : LawfulStates (r.bodyStates m md) := by
      unfold AbstractLogicalRule.bodyStates logicalStates
      cases r.mode with
      | and => exact LawfulStates.withBase.foldl (.combine) _ fun rl hr => ih rl hr _
      | or => exact LawfulStates.zero.foldl (.merge) _ fun rl hr => ih rl hr _
    simp only [funext (HeadlessRule.matchStatesWithBase_logical m r md)]
    exact lawful_answerStates _ _ hb

/-- An inverted rule answers the inherited state alone or nothing, whatever it inherits. -/
lemma exists_answer_of_invert (h : rl.invert = true) (md : InboundContext) : ∃ mt : Bool,
    ∀ b, rl.matchStatesWithBase m md b = if mt then emptyRuleMatchState.withBase b else 0#16 := by
  cases rl with
  | default r =>
    have hr : r.invert = true := h
    refine ⟨r.noItems || (isEmpty (r.bodyStates m md 0#8) || r.skipped m md),fun b => ?_⟩
    rw [HeadlessRule.matchStatesWithBase_default,hr]
    cases r.noItems <;> rfl
  | logical r =>
    have hr : r.invert = true := h
    refine ⟨isEmpty (r.bodyStates m md 0#8),fun b => ?_⟩
    rw [HeadlessRule.matchStatesWithBase_logical,hr]
    rfl

end

/-- The three laws for one rule and two bases. -/
theorem matchStatesWithBase_of_subset (p : Platform) (rule : HeadlessRule) (metadata : InboundContext)
    (b₁ b₂ : RuleMatchState) (hsub : Subset b₁ b₂) (hb : b₂.toNat < 16) :
    (∀ s, contains (rule.matchStatesWithBase (itemMatcher p) metadata b₁) s = true → Subset b₁ s ∧ s.toNat < 16 ∧
      contains (rule.matchStatesWithBase (itemMatcher p) metadata b₂) (s ||| b₂) = true) ∧ (rule.invert = true →
      rule.matchStatesWithBase (itemMatcher p) metadata b₁ = 0#16 ∨
      rule.matchStatesWithBase (itemMatcher p) metadata b₁ = singleRuleMatchState b₁) := by
  have hl := lawful_matchStatesWithBase (itemMatcher p) rule metadata
  have hb₁ := hsub.lt_sixteen hb
  refine ⟨fun s hs => ⟨hl.subset hb₁ hs,lt_of_contains hs,hl.mono hsub hb hs⟩,fun hin => ?_⟩
  rw [← empty_withBase hb₁]
  obtain ⟨mt,heq⟩ := exists_answer_of_invert (itemMatcher p) rule hin metadata
  rw [heq]
  cases mt with
  | false => exact Or.inl rfl
  | true => exact Or.inr rfl

/-- An inverted port rule hands on the inherited source address, and no port, on any other port. -/
theorem matchStatesWithBase_of_subset_port :
    let rule := HeadlessRule.default ⟨[.port false [443]],none,true⟩
    contains (rule.matchStatesWithBase (itemMatcher bareHost) {} ruleMatchSourceAddress)
      ruleMatchSourceAddress = true ∧
    contains (rule.matchStatesWithBase (itemMatcher bareHost) {} 15#8) 15#8 = true ∧
    rule.matchStatesWithBase (itemMatcher bareHost) {} ruleMatchSourceAddress =
      singleRuleMatchState ruleMatchSourceAddress := by
  intro rule
  have laws := matchStatesWithBase_of_subset bareHost rule {} ruleMatchSourceAddress 15#8 (by decide) (by decide)
  have hs : contains (rule.matchStatesWithBase (itemMatcher bareHost) {} ruleMatchSourceAddress)
      ruleMatchSourceAddress = true := by decide +kernel
  refine ⟨hs,(laws.1 _ hs).2.2,(laws.2 rfl).resolve_left ?_⟩
  intro h
  rw [h] at hs
  simp at hs

end SingBox.Rule
