import SingBox.Rule.Boolean

/-! Rule-sets as merged rules. A rule with a rule-set item matches as if each rule of the sets were
merged into it, group by group, and one of the merged rules were tried on its own. -/
namespace SingBox.Rule
open Adapter RuleMatchState RuleMatchStateSet

/-- A plain rule: conditions in four groups and the remaining ones. -/
structure PlainRule where
  group : Group → List (InboundContext → Bool)
  remaining : List (InboundContext → Bool)

namespace PlainRule

/-- Each non-empty group is a disjunction; groups and remaining conditions are conjoined. -/
def Matches (rule : PlainRule) (metadata : InboundContext) : Prop :=
  (∀ condition ∈ rule.remaining, condition metadata = true) ∧
  ∀ g, rule.group g ≠ [] → ∃ condition ∈ rule.group g, condition metadata = true

def append (a b : PlainRule) : PlainRule where
  group g := a.group g ++ b.group g
  remaining := a.remaining ++ b.remaining

end PlainRule

namespace AbstractDefaultRule
variable {ρ : Type} (r : AbstractDefaultRule ρ)

/-- The items of a group, with the `ip_cidr` items in the address group that they are matched in. -/
def groupOf (matchSource : Bool) : Group → List RuleItem
  | .sourceAddress => r.sourceAddressItems ++ if matchSource then r.destinationIPCIDRItems else []
  | .sourcePort => r.sourcePortItems
  | .destinationAddress =>
      r.destinationAddressItems ++ if matchSource then [] else r.destinationIPCIDRItems
  | .destinationPort => r.destinationPortItems

/-- The items of a rule as conditions; `on` is the metadata that the rule is handed. -/
def plain (m : ItemMatcher) (matchSource : Bool) (on : InboundContext → InboundContext) : PlainRule where
  group g := (r.groupOf matchSource g).map fun item metadata => m.run item (on metadata)
  remaining := r.items.map fun item metadata => m.run item (on metadata)

variable (m : ItemMatcher) (mt : InboundContext) (hm : mt.ignoreDestinationIPCIDRMatch = false)
include hm

lemma groupRequired_iff (g : Group) : r.groupRequired mt g = true ↔ r.groupOf mt.ipCIDRMatchSource g ≠ [] := by
  cases g <;> cases hs : mt.ipCIDRMatchSource <;>
    simp [groupRequired,groupOf,requiresSourceAddressMatch,requiresDestinationAddressMatch,
      destinationIPCIDRMatchesSource,destinationIPCIDRMatchesDestination,hm,hs,List.length_pos_iff,
      or_iff_not_imp_left]

lemma groupMatched_iff (g : Group) : r.groupMatched m mt g = true ↔
      ∃ i ∈ r.groupOf mt.ipCIDRMatchSource g, m.run i mt = true := by
  -- an empty list of `ip_cidr` items is skipped by the code and has no item that matches
  have hc : (decide (r.destinationIPCIDRItems.length > 0) && matchAnyItem m r.destinationIPCIDRItems mt) =
      matchAnyItem m r.destinationIPCIDRItems mt := by
    cases h : r.destinationIPCIDRItems <;> simp [matchAnyItem]
  cases g <;> cases hs : mt.ipCIDRMatchSource <;>
    simp only [groupMatched,groupOf,destinationIPCIDRMatchesSource,destinationIPCIDRMatchesDestination,hm,hs,
      Bool.not_false,Bool.not_true,Bool.true_and,Bool.false_and,Bool.and_false,hc] <;>
    simp [matchAnyItem,or_and_right,exists_or]

end AbstractDefaultRule

section
variable (m : ItemMatcher)

lemma contains_matchStatesWithBase_plain (r : AbstractDefaultRule HeadlessRule) (hs : r.ruleSetItem = none)
    (hin : r.invert = false) (md : InboundContext) {b : RuleMatchState} (hb : b.toNat < 16) (s : RuleMatchState) :
    contains ((HeadlessRule.default r).matchStatesWithBase m md b) s = true ↔
      (∀ i ∈ r.items, m.run i md = true) ∧ s = b ||| groupMask (r.groupMatched m md) ∧
      ∀ g : Group, r.groupRequired md g = true → has s g.bit = true := by
  rw [HeadlessRule.matchStatesWithBase_default]
  cases hno : r.noItems with
  | true =>
    -- no conditions: the rule answers with the base, to which its empty groups add nothing
    have hr := r.groupRequired_of_noItems hno md
    have hmt : ∀ g, r.groupMatched m md g = false := by
      intro g
      by_contra h
      rw [Bool.not_eq_false] at h
      exact Bool.false_ne_true ((hr g).symm.trans (r.groupRequired_of_groupMatched m h))
    have hms : groupMask (r.groupMatched m md) = 0#8 := by
      simp only [funext hmt]
      decide
    have his : r.items = [] := r.groupItems_of_noItems hno .items
    rw [if_pos rfl,contains_empty_withBase hb]
    simp [hms,hr,his]
  | false =>
    rw [if_neg Bool.false_ne_true,hin,answerStates,if_neg Bool.false_ne_true,r.contains_bodyStates]
    rw [r.ruleSetStates_none m hs,contains_single]
    have hlt := or_lt_sixteen hb (groupMask_lt (r.groupMatched m md))
    simp only [hlt,true_and]

/-- The rule that results from merging a rule of a set into the rule that refers to the set. -/
def mergedRule (outer : AbstractDefaultRule HeadlessRule) (item : RuleSetItem HeadlessRule)
    (inner : AbstractDefaultRule HeadlessRule) (metadata : InboundContext) : PlainRule :=
  (outer.plain m metadata.ipCIDRMatchSource id).append
    (inner.plain m item.ipCidrMatchSource item.nestedMetadata)

variable (o : AbstractDefaultRule HeadlessRule) (im : RuleSetItem HeadlessRule)

lemma mergedRule_matches_iff (i : AbstractDefaultRule HeadlessRule) (md : InboundContext)
    (hm : md.ignoreDestinationIPCIDRMatch = false) : (mergedRule m o im i md).Matches md ↔
      (∀ it ∈ o.items, m.run it md = true) ∧ (∀ it ∈ i.items, m.run it (im.nestedMetadata md) = true) ∧
      ∀ g, (o.groupRequired md g = true ∨ i.groupRequired (im.nestedMetadata md) g = true) →
        o.groupMatched m md g = true ∨ i.groupMatched m (im.nestedMetadata md) g = true := by
  have hm' : (im.nestedMetadata md).ignoreDestinationIPCIDRMatch = false := hm
  have hs : (im.nestedMetadata md).ipCIDRMatchSource = im.ipCidrMatchSource := rfl
  simp only [o.groupRequired_iff md hm,o.groupMatched_iff m md hm,
    i.groupRequired_iff _ hm',i.groupMatched_iff m _ hm',hs]
  simp only [mergedRule,PlainRule.Matches,PlainRule.append,AbstractDefaultRule.plain,List.forall_mem_append,
    List.forall_mem_map,List.append_eq_nil_iff,List.map_eq_nil_iff,ne_eq,not_and_or,id,and_assoc]
  have he : ∀ g, (∃ c ∈ (o.groupOf md.ipCIDRMatchSource g).map (fun it md => m.run it md) ++
        (i.groupOf im.ipCidrMatchSource g).map (fun it md => m.run it (im.nestedMetadata md)), c md = true) ↔
      (∃ it ∈ o.groupOf md.ipCIDRMatchSource g, m.run it md = true) ∨
        ∃ it ∈ i.groupOf im.ipCidrMatchSource g, m.run it (im.nestedMetadata md) = true := by
    intro g
    simp only [List.mem_append,List.mem_map,or_and_right,exists_or,exists_exists_and_eq_and]
  simp only [he]

lemma holds_iff_merged (him : o.ruleSetItem = some im)
    (hir : ∀ st ∈ im.setList, ∀ rl ∈ st.rules, ∃ i : AbstractDefaultRule HeadlessRule,
      rl = .default i ∧ i.invert = false ∧ i.ruleSetItem = none)
    (md : InboundContext) (hm : md.ignoreDestinationIPCIDRMatch = false) :
    o.holds m md = true ↔ ∃ st ∈ im.setList, ∃ i, HeadlessRule.default i ∈ st.rules ∧
      (mergedRule m o im i md).Matches md := by
  have hms := groupMask_lt (o.groupMatched m md)
  rw [AbstractDefaultRule.holds,Bool.not_eq_true',isEmpty_eq_false_iff]
  simp only [o.contains_bodyStates,AbstractDefaultRule.ruleSetStates,him,BitVec.zero_or,
    RuleSetItem.contains_matchStatesWithBase,mergedRule_matches_iff _ o im _ md hm]
  constructor
  · rintro ⟨s,his,⟨st,hse,rl,hr,hs⟩,hrq⟩
    obtain ⟨i,rfl,hiv,hn⟩ := hir st hse rl hr
    obtain ⟨hin,rfl,hiq⟩ := (contains_matchStatesWithBase_plain _ i hn hiv _ hms s).mp hs
    refine ⟨st,hse,i,hr,his,hin,?_⟩
    intro g hg
    have hbt := hg.elim (hrq g) (hiq g)
    rw [has_or,has_groupMask,has_groupMask,Bool.or_eq_true] at hbt
    exact hbt
  · rintro ⟨st,hse,i,hr,his,hin,hg⟩
    obtain ⟨i',heq,hiv,hn⟩ := hir st hse _ hr
    cases heq
    -- the one state that the inner rule reaches from the groups of the outer rule
    have hb : ∀ g, (o.groupRequired md g = true ∨ i.groupRequired (im.nestedMetadata md) g = true) →
        has (groupMask (o.groupMatched m md) |||
          groupMask (i.groupMatched m (im.nestedMetadata md))) g.bit = true := by
      intro g h
      rw [has_or,has_groupMask,has_groupMask,Bool.or_eq_true]
      exact hg g h
    have hst := (contains_matchStatesWithBase_plain m i hn hiv _ hms _).mpr
      ⟨hin,rfl,fun g h => hb g (Or.inr h)⟩
    exact ⟨_,his,⟨st,hse,_,hr,hst⟩,fun g h => hb g (Or.inl h)⟩

end

/-- A rule with a rule-set item matches when `invert` disagrees with: some rule of some set, merged
into it, matches. -/
theorem match_ruleSet_iff_merged (p : Platform) (outer : AbstractDefaultRule HeadlessRule)
    (item : RuleSetItem HeadlessRule) (hitem : outer.ruleSetItem = some item)
    (hinner : ∀ set ∈ item.setList, ∀ rule ∈ set.rules, ∃ inner : AbstractDefaultRule HeadlessRule,
      rule = .default inner ∧ inner.invert = false ∧ inner.ruleSetItem = none)
    (metadata : InboundContext) (hm : metadata.ignoreDestinationIPCIDRMatch = false) :
    (HeadlessRule.default outer).match (itemMatcher p) metadata = true ↔
      Xor (outer.invert = true) (∃ set ∈ item.setList, ∃ inner, HeadlessRule.default inner ∈ set.rules ∧
        (mergedRule (itemMatcher p) outer item inner metadata).Matches metadata) := by
  have hno : outer.noItems = false := by simp [AbstractDefaultRule.noItems,hitem]
  rw [match_default _ outer hno metadata hm, ← holds_iff_merged (itemMatcher p) outer item hitem hinner metadata hm]
  cases outer.invert <;> simp [Xor]

/-- The domain of the rule does not match, but the one of the set is in the same group. -/
theorem match_ruleSet_iff_merged_domain :
    let inner : AbstractDefaultRule HeadlessRule := ⟨[.domain (· == "b.test")],none,false⟩
    let item : RuleSetItem HeadlessRule := ⟨[⟨"set",[.default inner],{}⟩],false,false⟩
    let outer : AbstractDefaultRule HeadlessRule := ⟨[.domain (· == "a.test")],some item,false⟩
    ∃ set ∈ item.setList, ∃ inner, HeadlessRule.default inner ∈ set.rules ∧
      (mergedRule (itemMatcher bareHost) outer item inner { domain := "b.test" }).Matches
        { domain := "b.test" } := by
  intro inner item outer
  have hin : ∀ set ∈ item.setList, ∀ rl ∈ set.rules, ∃ inner : AbstractDefaultRule HeadlessRule,
        rl = .default inner ∧ inner.invert = false ∧ inner.ruleSetItem = none := by
    intro set hs rl hr
    rw [List.mem_singleton.mp hs] at hr
    exact ⟨inner,List.mem_singleton.mp hr,rfl,rfl⟩
  have hmt : (HeadlessRule.default outer).match (itemMatcher bareHost) { domain := "b.test" } = true := by
    decide +kernel
  have hx := (match_ruleSet_iff_merged bareHost outer item rfl hin { domain := "b.test" } rfl).mp hmt
  exact hx.resolve_left (fun h => Bool.false_ne_true h.1) |>.1

end SingBox.Rule
