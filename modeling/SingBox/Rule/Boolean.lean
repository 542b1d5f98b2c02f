import SingBox.Rule.DNSRule
import SingBox.Rule.Laws

/-! `Match` of a tree as a Boolean function: the state sets of the matcher disappear, `invert`
negates, and logical rules are the connectives over their children. -/
namespace SingBox.Rule
open Adapter RuleMatchStateSet

section
variable (m : ItemMatcher)

def AbstractDefaultRule.holds (r : AbstractDefaultRule HeadlessRule) (metadata : InboundContext) :
    Bool :=
  !isEmpty (r.bodyStates m metadata 0#8)

variable (rl : HeadlessRule) (r : AbstractDefaultRule HeadlessRule)

/-- Outside pre-match, a rule with items matches when `invert` and its conditions disagree. -/
lemma match_default (hr : r.noItems = false) (md : InboundContext) (hm : md.ignoreDestinationIPCIDRMatch = false) :
    (HeadlessRule.default r).match m md = (r.invert ^^ r.holds m md) := by
  have hs : r.skipped m md = false := by simp [AbstractDefaultRule.skipped,hm]
  unfold HeadlessRule.match HeadlessRule.matchStates AbstractDefaultRule.holds
  rw [HeadlessRule.matchStatesWithBase_default,hr,hs,if_neg Bool.false_ne_true,isEmpty_answerStates]
  cases r.invert <;> simp

section
variable (hst : r.ruleSetItem = none) (hgp : ∀ item ∈ r.allItems, item.group = .destinationAddress)
include hst hgp

lemma AbstractDefaultRule.holds_destinationAddress (his : r.allItems ≠ []) (md : InboundContext) :
    r.holds m md = r.allItems.any fun item => m.run item md := by
  have hn : ∀ group, group ≠ .destinationAddress → r.groupItems group = [] := by
    intro group hne
    refine List.filter_eq_nil_iff.mpr fun item him => ?_
    rw [hgp item him,decide_eq_true_eq]
    exact hne.symm
  have ha : r.destinationAddressItems = r.allItems :=
    List.filter_eq_self.mpr fun item him => decide_eq_true (hgp item him)
  have hin : r.items = [] := hn _ (by decide)
  have hc : r.destinationIPCIDRItems = [] := hn _ (by decide)
  have hr : ∀ g, r.groupRequired md g = true ↔ g = .destinationAddress := by
    intro g
    have hp := List.length_pos_iff.mpr his
    cases g <;> simp [groupRequired,requiresSourceAddressMatch,requiresDestinationAddressMatch,
      destinationIPCIDRMatchesSource,destinationIPCIDRMatchesDestination,hc,ha,hp,sourceAddressItems,
      sourcePortItems,destinationPortItems,hn]
  have hm : r.groupMatched m md .destinationAddress = r.allItems.any fun item => m.run item md := by
    simp [groupMatched,hc,ha,matchAnyItem]
  rw [holds,Bool.eq_iff_iff,Bool.not_eq_true',isEmpty_eq_false_iff,← hm]
  constructor
  · rintro ⟨s,hs⟩
    obtain ⟨_,hsn,hgr⟩ := (r.contains_bodyStates m md 0#8 s).mp hs
    rw [r.ruleSetStates_none m hst,contains_single,BitVec.zero_or] at hsn
    have hb := hgr .destinationAddress ((hr _).mpr rfl)
    rwa [hsn.2,has_groupMask] at hb
  · intro h
    refine ⟨groupMask (r.groupMatched m md),(r.contains_bodyStates m md 0#8 _).mpr ⟨?_,?_,?_⟩⟩
    · rw [hin]
      exact fun item him => absurd him List.not_mem_nil
    · rw [r.ruleSetStates_none m hst,contains_single,BitVec.zero_or]
      exact ⟨groupMask_lt _,rfl⟩
    · intro g hg
      rw [(hr g).mp hg,has_groupMask,h]

/-- A rule whose items are all on the destination address matches as one of them does, and everything without
an item. -/
lemma match_destinationAddress (md : InboundContext) : (HeadlessRule.default r).match m md =
      (r.allItems.isEmpty || (r.invert ^^ r.allItems.any fun item => m.run item md)) := by
  have hno : r.noItems = r.allItems.isEmpty := by simp [AbstractDefaultRule.noItems,hst]
  unfold HeadlessRule.match HeadlessRule.matchStates
  rw [HeadlessRule.matchStatesWithBase_default,hno]
  cases his : r.allItems.isEmpty with
  | true =>
    rw [if_pos rfl,isEmpty_empty_withBase (by decide)]
    rfl
  | false =>
    have hc : r.destinationIPCIDRItems = [] := by
      refine List.filter_eq_nil_iff.mpr fun item him => ?_
      rw [hgp item him]
      decide
    have hs : r.skipped m md = false := by simp [AbstractDefaultRule.skipped,hc]
    have hh := r.holds_destinationAddress m hst hgp (by simpa using his) md
    rw [if_neg Bool.false_ne_true,hs,isEmpty_answerStates,← hh,AbstractDefaultRule.holds]
    cases r.invert <;> simp

end

lemma match_logical (r : AbstractLogicalRule HeadlessRule) (md : InboundContext) :
    (HeadlessRule.logical r).match m md =
      (r.invert ^^ r.mode.holds (fun c => c.match m md.resetRuleCache) r.rules) := by
  have hb : isEmpty (r.bodyStates m md 0#8) = !r.mode.holds (fun c => c.match m md.resetRuleCache) r.rules :=
    isEmpty_logicalStates r.mode _ (isEmpty_empty_withBase (by decide)) r.rules
  rw [HeadlessRule.match,HeadlessRule.matchStates,HeadlessRule.matchStatesWithBase_logical, isEmpty_answerStates,hb]
  cases r.invert <;> simp

lemma match_setInvert (hr : rl.hasItems = true) (md : InboundContext) (hm : md.ignoreDestinationIPCIDRMatch = false) :
    (rl.setInvert (!rl.invert)).match m md = !rl.match m md := by
  cases rl with
  | default r =>
    have hr : r.noItems = false := by simpa [HeadlessRule.hasItems] using hr
    rw [match_default m r hr md hm]
    refine (match_default m { r with invert := !r.invert } hr md hm).trans ?_
    exact Bool.not_xor _ _
  | logical r =>
    rw [match_logical]
    refine (match_logical m { r with invert := !r.invert } md).trans ?_
    exact Bool.not_xor _ _

/-- With the rule-set flags off, a reset changes nothing that `Match` looks at. -/
lemma match_resetRuleCache (md : InboundContext)
    (hm : md.ignoreDestinationIPCIDRMatch = false) (hs : md.ipCIDRMatchSource = false)
    (he : md.ipCIDRAcceptEmpty = false) : rl.match m md.resetRuleCache = rl.match m md := by
  have hrs : md.resetRuleCache = md.resetRuleMatchCache := by
    cases md
    cases hs
    cases he
    rfl
  cases rl with
  | default r =>
    cases hr : r.noItems with
    | true =>
      simp only [HeadlessRule.match,HeadlessRule.matchStates,HeadlessRule.matchStatesWithBase_default,hr, if_true]
    | false =>
      rw [match_default m r hr md hm,hrs,match_default m r hr md.resetRuleMatchCache hm,
        AbstractDefaultRule.holds,AbstractDefaultRule.holds,r.bodyStates_reset]
  | logical =>
    rw [match_logical,match_logical]
    rfl

end

namespace DNSRule
variable (m : ItemMatcher) (rl : DNSRule) (rs : List DNSRule) (r : AbstractLogicalRule DNSRule)
  (mt : InboundContext) (ss : RuleMatchStateSet)

lemma matchAndForMatch_eq : matchAndForMatch m rs mt ss =
      combineLoop (fun rl => rl.matchStatesForMatch m mt.resetRuleCache) rs ss := by
  induction rs generalizing ss with
  | nil => simp only [matchAndForMatch,combineLoop]
  | cons rl rs ih => simp only [matchAndForMatch,ih,combineLoop]

lemma matchOrForMatch_eq : matchOrForMatch m rs mt ss = rs.foldl (fun a rl =>
      a.merge (rl.matchStatesForMatch m mt.resetRuleCache)) ss := by
  induction rs generalizing ss with
  | nil => simp only [matchOrForMatch,List.foldl_nil]
  | cons rl rs ih => rw [matchOrForMatch,ih,List.foldl_cons]

lemma matchStatesForMatch_logical :
    (DNSRule.logical r).matchStatesForMatch m mt =
      let b := logicalStates r.mode (fun rl => rl.matchStatesForMatch m mt.resetRuleCache)
        emptyRuleMatchState r.rules
      answerStates r.invert (isEmpty b) b 0#8 := by
  have hx : emptyRuleMatchState.withBase 0#8 = emptyRuleMatchState := empty_withBase (by decide)
  obtain ⟨rs,md,i⟩ := r
  unfold answerStates
  rw [hx]
  cases md with
  | or =>
    simp only [matchStatesForMatch,matchOrForMatch_eq,ite_isEmpty]
    rfl
  | and =>
    simp only [matchStatesForMatch,matchAndForMatch_eq]
    exact match_combineLoop _ _ _ i (fun _ => rfl) _

lemma match_logical : (DNSRule.logical r).match m mt =
      (r.invert ^^ r.mode.holds (fun c => c.match m mt.resetRuleCache) r.rules) := by
  have hb := isEmpty_logicalStates r.mode (fun rl => rl.matchStatesForMatch m mt.resetRuleCache)
    (show isEmpty emptyRuleMatchState = false from rfl) r.rules
  rw [DNSRule.match,matchStatesForMatch_logical,isEmpty_answerStates,hb]
  cases r.invert <;> simp [DNSRule.match]

/-- Without a response, a rule with `match_response` fails before any of its conditions. -/
lemma match_default (rl : AbstractDefaultRule HeadlessRule) (mr : Bool)
    (mt : InboundContext) :
    (DNSRule.default rl mr).match m mt =
      if mr && mt.dnsResponse.isNone then rl.invert
      else (HeadlessRule.default rl).match m
        { mt with destinationAddressMatchFromResponse :=
            mr || mt.destinationAddressMatchFromResponse } := by
  rw [DNSRule.match,matchStatesForMatch,defaultStatesForMatch]
  cases mr with
  | false => rfl
  | true =>
    cases hr : mt.dnsResponse with
    | some => rfl
    | none =>
      cases hin : rl.invert with
      | false => simp [AbstractDefaultRule.invertedFailure,hin]
      | true =>
        simpa [AbstractDefaultRule.invertedFailure,hin] using isEmpty_empty_withBase (show (0#8).toNat < 16 by decide)

lemma match_setInvert (hr : rl.hasItems = true) (mt : InboundContext) (hm : mt.ignoreDestinationIPCIDRMatch = false) :
    (rl.setInvert (!rl.invert)).match m mt = !rl.match m mt := by
  cases rl with
  | default r mr =>
    rw [match_default]
    refine (match_default m { r with invert := !r.invert } mr mt).trans ?_
    split_ifs
    · rfl
    · exact SingBox.Rule.match_setInvert m (.default r) hr _ hm
  | logical r =>
    rw [match_logical]
    refine (match_logical m { r with invert := !r.invert } mt).trans ?_
    exact Bool.not_xor _ _

lemma match_resetRuleCache (hm : mt.ignoreDestinationIPCIDRMatch = false) (hs : mt.ipCIDRMatchSource = false)
    (he : mt.ipCIDRAcceptEmpty = false) : rl.match m mt.resetRuleCache = rl.match m mt := by
  cases rl with
  | default r mr =>
    rw [match_default,match_default]
    have hr := SingBox.Rule.match_resetRuleCache m (.default r)
      { mt with destinationAddressMatchFromResponse := mr || mt.destinationAddressMatchFromResponse } hm hs he
    rw [← hr]
    rfl
  | logical =>
    rw [match_logical,match_logical]
    rfl

end DNSRule

/-- `Match` of route rules and of DNS rules is the Boolean function that the tree spells out. -/
theorem match_isBoolean (p : Platform) (metadata : InboundContext)
    (hm : metadata.ignoreDestinationIPCIDRMatch = false) :
    (∀ rule : HeadlessRule, rule.hasItems = true → (rule.setInvert (!rule.invert)).match (itemMatcher p) metadata =
        !rule.match (itemMatcher p) metadata) ∧
    (∀ rules : List HeadlessRule, ((HeadlessRule.logical ⟨rules,.and,false⟩).match (itemMatcher p) metadata = true ↔
        ∀ child ∈ rules, child.match (itemMatcher p) metadata.resetRuleCache = true) ∧
      ((HeadlessRule.logical ⟨rules,.or,false⟩).match (itemMatcher p) metadata = true ↔
        ∃ child ∈ rules, child.match (itemMatcher p) metadata.resetRuleCache = true)) ∧
    (∀ rule : DNSRule, rule.hasItems = true → (rule.setInvert (!rule.invert)).match (itemMatcher p) metadata =
        !rule.match (itemMatcher p) metadata) ∧
    (∀ rules : List DNSRule, ((DNSRule.logical ⟨rules,.and,false⟩).match (itemMatcher p) metadata = true ↔
        ∀ child ∈ rules, child.match (itemMatcher p) metadata.resetRuleCache = true) ∧
      ((DNSRule.logical ⟨rules,.or,false⟩).match (itemMatcher p) metadata = true ↔
        ∃ child ∈ rules, child.match (itemMatcher p) metadata.resetRuleCache = true)) ∧
    (metadata.ipCIDRMatchSource = false → metadata.ipCIDRAcceptEmpty = false →
      (∀ rule : HeadlessRule, rule.match (itemMatcher p) metadata.resetRuleCache =
        rule.match (itemMatcher p) metadata) ∧
      ∀ rule : DNSRule, rule.match (itemMatcher p) metadata.resetRuleCache =
        rule.match (itemMatcher p) metadata) := by
  refine ⟨fun rule hr => match_setInvert _ rule hr metadata hm,fun rules => ⟨?_,?_⟩,
    fun rule hr => rule.match_setInvert _ hr metadata hm,fun rules => ⟨?_,?_⟩,fun hs he =>
    ⟨fun rule => match_resetRuleCache _ rule metadata hm hs he,
      fun rule => rule.match_resetRuleCache _ metadata hm hs he⟩⟩
  · rw [match_logical,Bool.false_xor]
    exact List.all_eq_true
  · rw [match_logical,Bool.false_xor]
    exact List.any_eq_true
  · rw [DNSRule.match_logical,Bool.false_xor]
    exact List.all_eq_true
  · rw [DNSRule.match_logical,Bool.false_xor]
    exact List.any_eq_true

/-- Without a response, an inverted `match_response` child matches and so does an `and` over it. -/
theorem match_isBoolean_noResponse :
    let child := DNSRule.default ⟨[.queryType [1]],none,true⟩ true
    (DNSRule.logical ⟨[child],.and,false⟩).match (itemMatcher bareHost) {} = true ∧
    (child.setInvert false).match (itemMatcher bareHost) {} = false := by
  intro child
  have boolean := match_isBoolean bareHost {} rfl
  have hch : child.match (itemMatcher bareHost) {} = true := by decide +kernel
  refine ⟨((boolean.2.2.2.1 [child]).1).mpr ?_,?_⟩
  · intro c hc
    rw [List.mem_singleton.mp hc]
    exact hch
  · have hf := boolean.2.2.1 child rfl
    rwa [hch] at hf

end SingBox.Rule
