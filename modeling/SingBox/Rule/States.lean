import SingBox.Rule.Groups

/-! The states of a tree of rules: each loop of the matcher in closed form, and the laws that
every rule obeys whatever base it inherits. -/
namespace SingBox.Rule
open Adapter RuleMatchState RuleMatchStateSet List

section
variable (m : ItemMatcher) (rs : List HeadlessRule) (mt : InboundContext) (b : RuleMatchState)
  (ss : RuleMatchStateSet)

lemma matchOrRules_eq : matchOrRules m rs mt b ss = rs.foldl (fun a rl =>
      a.merge (rl.matchStatesWithBase m mt.resetRuleCache b)) ss := by
  induction rs generalizing ss with
  | nil => simp only [matchOrRules,foldl_nil]
  | cons rl rs ih => rw [matchOrRules,ih,foldl_cons]

lemma matchSetRules_eq : matchSetRules m rs mt b ss = rs.foldl (fun a rl =>
      a.merge (rl.matchStatesWithBase m mt.resetRuleMatchCache b)) ss := by
  induction rs generalizing ss with
  | nil => simp only [matchSetRules,foldl_nil]
  | cons rl rs ih => rw [matchSetRules,ih,foldl_cons]

lemma matchRuleSets_eq (s : List (RuleSet HeadlessRule)) (ms ae : Bool)
    (mt : InboundContext) (b : RuleMatchState) (ss : RuleMatchStateSet) :
    matchRuleSets m s ms ae mt b ss = s.foldl (fun a st => a.merge
        (matchSetRules m st.rules (ruleSetMetadata ms ae mt) b 0#16)) ss := by
  induction s generalizing ss with
  | nil => simp only [matchRuleSets,foldl_nil]
  | cons st s ih =>
    obtain ⟨t,rs,sm⟩ := st
    rw [matchRuleSets,ih,foldl_cons]

lemma matchAndRules_eq : matchAndRules m rs mt b ss =
      combineLoop (fun rl => rl.matchStatesWithBase m mt.resetRuleCache b) rs ss := by
  induction rs generalizing ss with
  | nil => simp only [matchAndRules,combineLoop]
  | cons rl rs ih => simp only [matchAndRules,ih,combineLoop]

end

def RuleSetItem.nestedMetadata {ρ : Type} (item : RuleSetItem ρ) (metadata : InboundContext) :
    InboundContext :=
  ruleSetMetadata item.ipCidrMatchSource item.ipCidrAcceptEmpty metadata

variable (invert : Bool) (m : ItemMatcher) (item : RuleSetItem HeadlessRule) (metadata md : InboundContext)
  (base : RuleMatchState) (mode : LogicalType)

lemma RuleSetItem.contains_matchStatesWithBase (s : RuleMatchState) :
    contains (item.matchStatesWithBase m md base) s = true ↔ ∃ st ∈ item.setList, ∃ rl ∈ st.rules,
        contains (rl.matchStatesWithBase m (item.nestedMetadata md) base) s = true := by
  rw [RuleSetItem.matchStatesWithBase,matchRuleSets_eq,contains_foldl_merge]
  simp only [contains_zero,Bool.false_eq_true,false_or,matchSetRules_eq,contains_foldl_merge]
  rfl

namespace AbstractDefaultRule
variable (r : AbstractDefaultRule HeadlessRule) (m : ItemMatcher)

def ruleSetStates (metadata : InboundContext) (base : RuleMatchState) : RuleMatchStateSet :=
  match r.ruleSetItem with
  | none => singleRuleMatchState base
  | some item => item.matchStatesWithBase m metadata base

lemma ruleSetStates_none (h : r.ruleSetItem = none) (md : InboundContext) (base : RuleMatchState) :
    r.ruleSetStates m md base = singleRuleMatchState base := by
  rw [ruleSetStates,h]

variable (metadata md : InboundContext) (base : RuleMatchState)

lemma ruleSetStates_reset : r.ruleSetStates m md.resetRuleMatchCache base = r.ruleSetStates m md base := by
  unfold ruleSetStates
  cases r.ruleSetItem with
  | none => rfl
  | some =>
    simp only [RuleSetItem.matchStatesWithBase,matchRuleSets_eq]
    rfl

lemma ruleSetStates_didMatch (f : Bool) (base : RuleMatchState) :
    r.ruleSetStates m { md with didMatch := f } base = r.ruleSetStates m md base := by
  rw [← r.ruleSetStates_reset m md,← r.ruleSetStates_reset]
  rfl

variable {metadata md mt' : InboundContext} {r : AbstractDefaultRule HeadlessRule}

lemma ruleSetStates_congr {m m' : ItemMatcher}
    (h : ∀ item, r.ruleSetItem = some item → ∀ st ∈ item.setList, ∀ i ∈ st.rules, ∀ base,
      i.matchStatesWithBase m (item.nestedMetadata md) base =
        i.matchStatesWithBase m' (item.nestedMetadata mt') base) (base : RuleMatchState) :
    r.ruleSetStates m md base = r.ruleSetStates m' mt' base := by
  unfold ruleSetStates
  cases hr : r.ruleSetItem with
  | none => rfl
  | some item =>
    apply eq_of_contains
    intro s
    rw [Bool.eq_iff_iff,item.contains_matchStatesWithBase,item.contains_matchStatesWithBase]
    refine exists_congr fun st => and_congr_right fun hs => exists_congr fun i =>
      and_congr_right fun hi => ?_
    rw [h item hr st hs i hi]

/-- The states of the conditions of the rule, before `invert` is looked at. -/
def bodyStates (metadata : InboundContext) (base : RuleMatchState) : RuleMatchStateSet :=
  if r.items.all fun item => m.run item metadata then
    (r.ruleSetStates m metadata (base ||| groupMask (r.groupMatched m metadata))).filter
      (r.allowed metadata)
  else
    0#16

lemma contains_bodyStates (md : InboundContext) (base s : RuleMatchState) :
    contains (r.bodyStates m md base) s = true ↔ (∀ item ∈ r.items, m.run item md = true) ∧
      contains (r.ruleSetStates m md (base ||| groupMask (r.groupMatched m md))) s = true ∧
      ∀ g : Group, r.groupRequired md g = true → has s g.bit = true := by
  unfold bodyStates
  split_ifs with h
  · rw [contains_filter,r.allowed_iff]
    rw [all_eq_true] at h
    exact ⟨fun hs => ⟨h,hs⟩,fun hs => hs.2⟩
  · rw [all_eq_true] at h
    simp only [contains_zero,Bool.false_eq_true,false_iff]
    exact fun hs => h hs.1

lemma bodyStates_reset : r.bodyStates m md.resetRuleMatchCache base = r.bodyStates m md base := by
  have hm : r.groupMatched m md.resetRuleMatchCache = r.groupMatched m md := by
    funext g
    cases g <;> simp only [groupMatched,matchAnyItem,m.run_reset] <;> rfl
  have ha : r.allowed md.resetRuleMatchCache = r.allowed md := rfl
  simp only [bodyStates,m.run_reset,r.ruleSetStates_reset,hm,ha]

/-- The body of a rule depends on its items, on the flags for `ip_cidr` and on its sets. -/
lemma bodyStates_congr {m m' : ItemMatcher} (his : ∀ item ∈ r.allItems, m.run item md = m'.run item mt')
    (hs : r.destinationIPCIDRMatchesSource md = r.destinationIPCIDRMatchesSource mt')
    (hd : r.destinationIPCIDRMatchesDestination md = r.destinationIPCIDRMatchesDestination mt')
    (hst : ∀ base, r.ruleSetStates m md base = r.ruleSetStates m' mt' base)
    (base : RuleMatchState) : r.bodyStates m md base = r.bodyStates m' mt' base := by
  have han : ∀ gr, matchAnyItem m (r.groupItems gr) md = matchAnyItem m' (r.groupItems gr) mt' := by
    intro gr
    rw [Bool.eq_iff_iff,matchAnyItem,matchAnyItem,any_eq_true,any_eq_true]
    exact exists_congr fun item => and_congr_right fun hi => by rw [his item (r.groupItems_subset hi)]
  have hal : (r.items.all fun item => m.run item md) = r.items.all fun item => m'.run item mt' := by
    rw [Bool.eq_iff_iff,all_eq_true,all_eq_true]
    exact forall₂_congr fun item hi => by rw [his item (r.groupItems_subset hi)]
  have hm : r.groupMatched m md = r.groupMatched m' mt' := by
    funext g
    cases g <;> simp only [groupMatched,sourceAddressItems,sourcePortItems,destinationAddressItems,
      destinationIPCIDRItems,destinationPortItems,han,hs,hd]
  have ha : r.allowed md = r.allowed mt' := by
    funext state
    rw [allowed,requiresSourceAddressMatch,requiresDestinationAddressMatch,hs,hd]
    rfl
  simp only [bodyStates,hal,hm,hst,ha]

/-- The case that an inverted rule treats as a failure: pre-match skipped all it had to test. -/
def skipped (metadata : InboundContext) : Bool :=
  metadata.ignoreDestinationIPCIDRMatch && r.bodyStates m metadata 0#8 == emptyRuleMatchState &&
    !(r.consulted metadata || !r.items.isEmpty || r.ruleSetItem.isSome) &&
    decide (r.destinationIPCIDRItems.length > 0)

end AbstractDefaultRule

def LogicalType.holds {α : Type} (mode : LogicalType) (f : α → Bool) (rules : List α) : Bool :=
  match mode with
  | .and => rules.all f
  | .or => rules.any f

def logicalStates {α : Type} (mode : LogicalType) (f : α → RuleMatchStateSet)
    (start : RuleMatchStateSet) (rules : List α) : RuleMatchStateSet :=
  match mode with
  | .and => rules.foldl (fun acc rule => acc.combine (f rule)) start
  | .or => rules.foldl (fun acc rule => acc.merge (f rule)) 0#16

lemma isEmpty_logicalStates {α : Type} (f : α → RuleMatchStateSet)
    {s : RuleMatchStateSet} (hs : isEmpty s = false) (ru : List α) :
    isEmpty (logicalStates mode f s ru) = !mode.holds (fun rl => !isEmpty (f rl)) ru := by
  cases mode with
  | and => simp [logicalStates,LogicalType.holds,isEmpty_foldl_combine,hs,not_all_eq_any_not]
  | or => simp [logicalStates,LogicalType.holds,isEmpty_foldl_merge,not_any_eq_all_not]

lemma logicalStates_congr {α : Type} {f g : α → RuleMatchStateSet}
    (s : RuleMatchStateSet) {ru : List α} (h : ∀ rl ∈ ru, f rl = g rl) :
    logicalStates mode f s ru = logicalStates mode g s ru := by
  cases mode with
  | and => exact foldl_ext _ _ _ fun a rl hr => congrArg a.combine (h rl hr)
  | or => exact foldl_ext _ _ _ fun a rl hr => congrArg a.merge (h rl hr)

/-- The states of a logical rule, before `invert` is looked at. -/
def AbstractLogicalRule.bodyStates (r : AbstractLogicalRule HeadlessRule) (m : ItemMatcher)
    (metadata : InboundContext) (base : RuleMatchState) : RuleMatchStateSet :=
  logicalStates r.mode (fun rule => rule.matchStatesWithBase m metadata.resetRuleCache base)
    (emptyRuleMatchState.withBase base) r.rules

def answerStates (invert failed : Bool) (states : RuleMatchStateSet) (base : RuleMatchState) :
    RuleMatchStateSet :=
  if invert then (if failed then emptyRuleMatchState.withBase base else 0#16) else states

lemma isEmpty_answerStates (f : Bool) (ss : RuleMatchStateSet) :
    isEmpty (answerStates invert f ss 0#8) = if invert then !f else isEmpty ss := by
  cases invert with
  | false => rfl
  | true =>
    cases f with
    | false => rfl
    | true =>
      simp only [answerStates,if_true,Bool.not_true]
      exact isEmpty_empty_withBase (by decide)

/-- The end of an `and` loop: an early return is an empty combination. -/
lemma match_combineLoop {α : Type} (f : α → RuleMatchStateSet) (l : List α) (ac : RuleMatchStateSet)
    (invert : Bool) (hac : invert = true → isEmpty ac = false) (x : RuleMatchStateSet) :
    (match combineLoop f l ac with
      | none => if invert then x else 0#16
      | some st => if invert then 0#16 else st) =
      if invert then (if isEmpty (l.foldl (fun s a => s.combine (f a)) ac) then x else 0#16)
      else l.foldl (fun s a => s.combine (f a)) ac := by
  have he := isEmpty_foldl_combine l f ac
  rw [combineLoop_eq]
  cases ha : l.any fun a => isEmpty (f a) with
  | true =>
    rw [ha,Bool.or_true] at he
    have hz := eq_zero_of_isEmpty he
    simp only [hz,isEmpty_zero,if_true]
  | false =>
    cases invert with
    | false => rfl
    | true =>
      rw [ha,hac rfl,Bool.or_false] at he
      simp only [he,Bool.false_eq_true,if_false,if_true]

/-- The end of an `or` loop. -/
lemma ite_isEmpty (x s : RuleMatchStateSet) :
    (if isEmpty s then (if invert then x else 0#16) else if invert then 0#16 else s) =
      if invert then (if isEmpty s then x else 0#16) else s := by
  cases invert with
  | true => rfl
  | false =>
    simp only [Bool.false_eq_true,if_false]
    split_ifs with h
    · exact (eq_zero_of_isEmpty h).symm
    · rfl

namespace HeadlessRule
variable (m : ItemMatcher)

lemma matchStatesWithBase_default (r : AbstractDefaultRule HeadlessRule) (md : InboundContext)
    (base : RuleMatchState) : (HeadlessRule.default r).matchStatesWithBase m md base =
      if r.noItems then emptyRuleMatchState.withBase base
      else answerStates r.invert (isEmpty (r.bodyStates m md 0#8) || r.skipped m md)
        (r.bodyStates m md base) base := by
  have heq : (HeadlessRule.default r).matchStatesWithBase m md base =
      r.matchStatesWithBase m (r.ruleSetStates m) md base := by
    obtain ⟨ai,rs,invert⟩ := r
    cases rs with
    | none | some item => rw [HeadlessRule.matchStatesWithBase]; rfl
  rw [heq,AbstractDefaultRule.matchStatesWithBase,answerStates]
  by_cases hno : r.noItems = true
  · rw [if_pos hno,if_pos hno]
  rw [if_neg hno,if_neg hno]
  simp only [r.matchGroups_eq,Evaluation.matchItems_eq,m.run_didMatch]
  cases hal : r.items.all fun item => m.run item md with
  | false =>
    have hb : ∀ b, r.bodyStates m md b = 0#16 := by
      intro b
      simp [AbstractDefaultRule.bodyStates,hal]
    cases hin : r.invert <;> simp [hb,AbstractDefaultRule.invertedFailure,hin]
  | true =>
    have hb : ∀ b, r.bodyStates m md b =
        (r.ruleSetStates m md (b ||| groupMask (r.groupMatched m md))).filter (r.allowed md) := by
      intro b
      simp [AbstractDefaultRule.bodyStates,hal]
    have ha : ∀ f, r.allowed { md with didMatch := f } = r.allowed md :=
      fun _ => rfl
    -- `skipped` is only reached without a rule-set item, which counts as consulted
    cases hs : r.ruleSetItem with
    | none =>
      have hn : ∀ b, singleRuleMatchState b = r.ruleSetStates m md b :=
        fun b => (r.ruleSetStates_none m hs md b).symm
      cases hin : r.invert with
      | false =>
        simpa [hb,hn,ha,AbstractDefaultRule.invertedFailure,hin] using fun h => (eq_zero_of_isEmpty h).symm
      | true =>
        simp [hb,hn,ha,hs,AbstractDefaultRule.skipped,AbstractDefaultRule.invertedFailure,hin, ite_or]
    | some =>
      cases hin : r.invert with
      | false =>
        simpa [hb,ha,Evaluation.markDidMatch,r.ruleSetStates_didMatch,
          AbstractDefaultRule.invertedFailure,hin] using fun h => (eq_zero_of_isEmpty h).symm
      | true =>
        simp [hb,ha,hs,Evaluation.markDidMatch,r.ruleSetStates_didMatch,
          AbstractDefaultRule.skipped,AbstractDefaultRule.invertedFailure,hin]

lemma matchStatesWithBase_logical (r : AbstractLogicalRule HeadlessRule) (md : InboundContext)
    (base : RuleMatchState) : (HeadlessRule.logical r).matchStatesWithBase m md base =
      answerStates r.invert (isEmpty (r.bodyStates m md 0#8)) (r.bodyStates m md base) base := by
  obtain ⟨rl,mode,invert⟩ := r
  cases mode with
  | or =>
    simp only [HeadlessRule.matchStatesWithBase,matchOrRules_eq,ite_isEmpty]
    cases invert <;> rfl
  | and =>
    simp only [HeadlessRule.matchStatesWithBase,matchAndRules_eq]
    cases invert with
    | true =>
      have he : isEmpty (emptyRuleMatchState.withBase 0#8) = false := isEmpty_empty_withBase (by decide)
      exact match_combineLoop _ _ _ true (fun _ => he) _
    | false =>
      rw [answerStates,if_neg Bool.false_ne_true]
      refine (match_combineLoop _ _ _ false (fun h => absurd h Bool.false_ne_true) 0#16).trans ?_
      exact if_neg Bool.false_ne_true

end HeadlessRule

end SingBox.Rule
