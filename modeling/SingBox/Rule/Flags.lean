import SingBox.Rule.Boolean

/-! How the flags `rule_set_ip_cidr_match_source` and `rule_set_ip_cidr_accept_empty` travel.
A rule-set item writes them into the metadata of its sets; a logical rule resets them for its
children. -/
namespace SingBox.Rule
open Adapter RuleMatchStateSet List

/-- Evaluating `rule` on `metadata` matches `item` on `metadata'`, up to the match cache. -/
inductive Evaluates : HeadlessRule → InboundContext → RuleItem → InboundContext → Prop
  | item {r : AbstractDefaultRule HeadlessRule} {metadata : InboundContext} {item : RuleItem} :
      item ∈ r.allItems → Evaluates (.default r) metadata item metadata
  | ruleSet {r : AbstractDefaultRule HeadlessRule} {setItem : RuleSetItem HeadlessRule}
      {set : RuleSet HeadlessRule} {inner : HeadlessRule} {metadata metadata' : InboundContext}
      {item : RuleItem} :
      r.ruleSetItem = some setItem → set ∈ setItem.setList → inner ∈ set.rules →
      Evaluates inner (setItem.nestedMetadata metadata) item metadata' →
      Evaluates (.default r) metadata item metadata'
  | child {r : AbstractLogicalRule HeadlessRule} {child : HeadlessRule}
      {metadata metadata' : InboundContext} {item : RuleItem} :
      child ∈ r.rules → Evaluates child metadata.resetRuleCache item metadata' →
      Evaluates (.logical r) metadata item metadata'

lemma matchStatesWithBase_congr {m m' : ItemMatcher} (rule : HeadlessRule) (metadata : InboundContext)
    (h : ∀ item metadata', Evaluates rule metadata item metadata' →
      m.run item metadata' = m'.run item metadata') (b : RuleMatchState) :
    rule.matchStatesWithBase m metadata b = rule.matchStatesWithBase m' metadata b := by
  induction rule using HeadlessRule.induct generalizing metadata b with
  | default r ih =>
    have hst := AbstractDefaultRule.ruleSetStates_congr fun item hr s hs i hi =>
      ih item hr s hs i hi _ fun it metadata' he => h it metadata' (.ruleSet hr hs hi he)
    have hb := AbstractDefaultRule.bodyStates_congr (fun item hi => h item metadata (.item hi))
      rfl rfl hst
    simp only [HeadlessRule.matchStatesWithBase_default,AbstractDefaultRule.skipped,hb]
  | logical r ih =>
    have hb : ∀ b, r.bodyStates m metadata b = r.bodyStates m' metadata b := by
      intro b
      refine logicalStates_congr _ _ fun c hc => ?_
      exact ih c hc _ (fun it metadata' he => h it metadata' (.child hc he)) b
    simp only [HeadlessRule.matchStatesWithBase_logical,hb]

/-- An `ip_cidr` item, as the constructors of headless rules build it. -/
def RuleItem.IsIPCIDR (item : RuleItem) : Prop := ∃ ipSet, item = .ipCIDR false ipSet

/-- The rules that a set can hold: headless rules have no rule-set items. -/
inductive SetRule : HeadlessRule → Prop
  | default {r : AbstractDefaultRule HeadlessRule} : r.ruleSetItem = none → SetRule (.default r)
  | logical {r : AbstractLogicalRule HeadlessRule} :
      (∀ child ∈ r.rules, SetRule child) → SetRule (.logical r)

variable {item : RuleItem} {metadata metadata' : InboundContext} {rule : HeadlessRule}

lemma Evaluates.flags_of_reset (he : Evaluates rule metadata item metadata') (hr : SetRule rule)
    (hs : metadata.ipCIDRMatchSource = false) (hem : metadata.ipCIDRAcceptEmpty = false) :
    metadata'.ipCIDRMatchSource = false ∧ metadata'.ipCIDRAcceptEmpty = false := by
  induction he with
  | item => exact ⟨hs,hem⟩
  | ruleSet hsm =>
    cases hr with
    | default hn => rw [hn] at hsm; cases hsm
  | child hc _ ih =>
    cases hr with
    | logical hch => exact ih (hch _ hc) rfl rfl

lemma ItemOf.evaluates (h : ItemOf item rule)
    (metadata : InboundContext) : ∃ metadata', Evaluates rule metadata item metadata' := by
  induction h generalizing metadata with
  | item hi => exact ⟨metadata,.item hi⟩
  | @ruleSet r si s i hs hst hin _ ih =>
    obtain ⟨metadata',he⟩ := ih (si.nestedMetadata metadata)
    exact ⟨metadata',.ruleSet hs hst hin he⟩
  | child hc _ ih =>
    obtain ⟨metadata',he⟩ := ih metadata.resetRuleCache
    exact ⟨metadata',.child hc he⟩

lemma Evaluates.itemOf (he : Evaluates rule metadata item metadata') : ItemOf item rule := by
  induction he with
  | item hi => exact .item hi
  | ruleSet hs hst hin _ ih => exact .ruleSet hs hst hin ih
  | child hc _ ih => exact .child hc ih

/-- Every `ip_cidr` item of the sets is matched with the flags of the rule-set item. -/
def FlagsReach (item : RuleSetItem HeadlessRule) : Prop :=
  ∀ set ∈ item.setList, ∀ rule ∈ set.rules, ∀ metadata it metadata',
    Evaluates rule (item.nestedMetadata metadata) it metadata' → it.IsIPCIDR →
    metadata'.ipCIDRMatchSource = item.ipCidrMatchSource ∧
    metadata'.ipCIDRAcceptEmpty = item.ipCidrAcceptEmpty

/-- The items with the two flags forced on every `ip_cidr` item. -/
def forcedFlags (p : Platform) (matchSource acceptEmpty : Bool) : ItemMatcher where
  run item metadata :=
    match item with
    | .ipCIDR false ipSet => (RuleItem.ipCIDR false ipSet).match p
        { metadata with ipCIDRMatchSource := matchSource, ipCIDRAcceptEmpty := acceptEmpty }
    | item => item.match p metadata
  run_reset item metadata := by
    split
    · rfl
    · exact (itemMatcher p).run_reset item metadata

lemma FlagsReach.matchStatesWithBase_eq {item : RuleSetItem HeadlessRule} (h : FlagsReach item)
    (p : Platform) (metadata : InboundContext) (b : RuleMatchState) :
    item.matchStatesWithBase (itemMatcher p) metadata b =
      item.matchStatesWithBase (forcedFlags p item.ipCidrMatchSource item.ipCidrAcceptEmpty) metadata b := by
  apply eq_of_contains
  intro s
  rw [Bool.eq_iff_iff,item.contains_matchStatesWithBase,item.contains_matchStatesWithBase]
  refine exists_congr fun st => and_congr_right fun hs => exists_congr fun rule =>
    and_congr_right fun hr => ?_
  rw [matchStatesWithBase_congr rule]
  intro it metadata' he
  simp only [itemMatcher,forcedFlags]
  split
  · obtain ⟨hsr,hem⟩ := h st hs rule hr metadata _ metadata' he ⟨_,rfl⟩
    rw [← hsr,← hem]
  · rfl

/-- The flags reach every `ip_cidr` item exactly when none of them stands under a logical rule; and where they do, the
sets match as with the flags on every item. -/
theorem flagsReach_iff (item : RuleSetItem HeadlessRule)
    (hflag : item.ipCidrMatchSource = true ∨ item.ipCidrAcceptEmpty = true)
    (hsets : ∀ set ∈ item.setList, ∀ rule ∈ set.rules, SetRule rule) :
    (FlagsReach item ↔ ∀ set ∈ item.setList, ∀ r : AbstractLogicalRule HeadlessRule,
      HeadlessRule.logical r ∈ set.rules → ∀ it, ItemOf it (.logical r) → ¬it.IsIPCIDR) ∧
    (FlagsReach item → ∀ p metadata base, item.matchStatesWithBase (itemMatcher p) metadata base =
      item.matchStatesWithBase (forcedFlags p item.ipCidrMatchSource item.ipCidrAcceptEmpty) metadata base) := by
  refine ⟨⟨?_,?_⟩,fun h => h.matchStatesWithBase_eq⟩
  · intro hrc set hst r hr it hit hcd
    obtain ⟨metadata',he⟩ := hit.evaluates (item.nestedMetadata {})
    have hf := hrc set hst _ hr {} it metadata' he hcd
    have hrs : metadata'.ipCIDRMatchSource = false ∧ metadata'.ipCIDRAcceptEmpty = false := by
      cases he with
      | child hc he =>
        cases hsets set hst _ hr with
        | logical hch => exact he.flags_of_reset (hch _ hc) rfl rfl
    rw [hrs.1,hrs.2] at hf
    rcases hflag with h | h
    · exact Bool.false_ne_true (hf.1.trans h)
    · exact Bool.false_ne_true (hf.2.trans h)
  · intro hn set hst rule hrl metadata it metadata' he hcd
    cases rule with
    | default =>
      cases he with
      | item => exact ⟨rfl,rfl⟩
      | ruleSet hs =>
        cases hsets set hst _ hrl with
        | default hno => rw [hno] at hs; cases hs
    | logical r => exact absurd hcd (hn set hst r hrl it he.itemOf)

/-- An `ip_cidr` rule that stands directly in the set, beside a logical rule on ports. -/
theorem flagsReach_iff_single :
    let cidr : HeadlessRule := .default ⟨[.ipCIDR false (· == .v4 0x0a000001#32)],none,false⟩
    let ports : AbstractLogicalRule HeadlessRule := ⟨[.default ⟨[.port false [53]],none,false⟩],.or,false⟩
    let item : RuleSetItem HeadlessRule := ⟨[⟨"set",[cidr,.logical ports],{}⟩],true,false⟩
    FlagsReach item := by
  intro cidr ports item
  refine (flagsReach_iff item (Or.inl rfl) ?_).1.mpr ?_
  · intro set hs
    rw [mem_singleton.mp hs,forall_mem_cons,forall_mem_singleton]
    refine ⟨.default rfl,.logical fun child hc => ?_⟩
    rw [mem_singleton.mp hc]
    exact .default rfl
  · intro set hs r hr it hit
    rw [mem_singleton.mp hs] at hr
    obtain rfl : r = ports := by simpa [cidr] using hr
    cases hit with
    | child hc hit =>
      rw [mem_singleton.mp hc] at hit
      cases hit with
      | item hi =>
        rw [mem_singleton.mp hi]
        exact fun h => by simp [RuleItem.IsIPCIDR] at h
      | ruleSet hs => cases hs

/-- Under a logical rule the item is matched without the flags, so the set matches on the
destination instead of the source, and an empty address list is not accepted. -/
theorem flags_lost_under_logical :
    let cidr : RuleItem := .ipCIDR false (· == .v4 0x0a000001#32)
    let single : HeadlessRule := .default ⟨[cidr],none,false⟩
    let nested : HeadlessRule := .logical ⟨[single],.or,false⟩
    let item (rule : HeadlessRule) (matchSource acceptEmpty : Bool) : RuleSetItem HeadlessRule :=
      ⟨[⟨"set",[rule],{}⟩],matchSource,acceptEmpty⟩
    let outer (setItem : RuleSetItem HeadlessRule) : HeadlessRule := .default ⟨[],some setItem,false⟩
    let metadata : InboundContext :=
      { source := { addr := .v4 0x0a000001#32 }, destination := { addr := .v4 0x08080808#32 } }
    (outer (item single true false)).match (itemMatcher bareHost) metadata = true ∧
    (outer (item nested true false)).match (itemMatcher bareHost) metadata = false ∧
    (outer (item single false true)).match (itemMatcher bareHost) {} = true ∧
    (outer (item nested false true)).match (itemMatcher bareHost) {} = false ∧
    ¬FlagsReach (item nested true false) := by
  intro cidr single nested item outer metadata
  refine ⟨by decide +kernel,by decide +kernel,by decide +kernel,by decide +kernel,?_⟩
  intro hr
  have he : Evaluates nested ((item nested true false).nestedMetadata metadata) cidr _ :=
    .child mem_cons_self (.item mem_cons_self)
  have hf := hr _ mem_cons_self nested mem_cons_self metadata cidr _ he ⟨_,rfl⟩
  exact Bool.false_ne_true hf.1

end SingBox.Rule
