import SingBox.Library.Outcome
import SingBox.Rule.Deferred
import SingBox.Rule.Headless

/-! `WithAddressLimit`: the flag that is computed from options tells whether the response can matter.
Where it is off, the tree holds no deferred condition, so the check of the response repeats the
answer of pre-match. -/
namespace SingBox.Rule
open Adapter Adapter.InboundContext DNS List

section

lemma HeadlessOptions.induct {motive : HeadlessOptions → Prop} (default : ∀ t os, motive (.default t os))
    (logical : ∀ m rs i, (∀ rule ∈ rs, motive rule) → motive (.logical m rs i))
    (os : HeadlessOptions) : motive os := by
  refine @HeadlessOptions.rec motive (fun rs => ∀ rule ∈ rs, motive rule) default
    (fun m rs i ih => logical m rs i ih) ?_ ?_ os
  · intro rule h
    cases h
  · intro rule rs il ir rule' h
    cases h with
    | head => exact il
    | tail _ h => exact ir rule' h

variable (c : ItemCompiler) (cd : DefaultHeadlessOptions → Bool) (rl : List HeadlessOptions)

lemma hasHeadlessRule_eq : hasHeadlessRule cd rl = rl.any fun rule => rule.has cd := by
  induction rl with
  | nil => rw [hasHeadlessRule,any_nil]
  | cons rule rl ih =>
    rw [hasHeadlessRule,any_cons,ih]
    cases rule.has cd <;> rfl

lemma unmarshalAll_eq : unmarshalAll rl = rl.map HeadlessOptions.unmarshal := by
  induction rl with
  | nil => rw [unmarshalAll,map_nil]
  | cons rule rl ih => rw [unmarshalAll,map_cons,ih]

lemma newSubRules_eq (os : List HeadlessOptions) (i : ℕ) : newSubRules c os i =
      buildAll (newHeadlessRule c) (fun i => "sub rule[" ++ toString i ++ "]") os i := by
  induction os generalizing i with
  | nil => rw [newSubRules,buildAll]
  | cons o os ih =>
    rw [newSubRules,buildAll,ih]
    cases newHeadlessRule c o <;> rfl

lemma exists_of_mem_buildAll {α β : Type} {b : α → Except BuildError β} {p : ℕ → String}
    {xs : List α} {i : ℕ} {ys : List β} (h : buildAll b p xs i = .ok ys) : ∀ y ∈ ys, ∃ x ∈ xs, b x = .ok y := by
  induction xs generalizing i ys with
  | nil =>
    cases h
    simp
  | cons x xs ih =>
    rw [buildAll] at h
    cases hx : b x with
    | error => rw [hx] at h; cases h
    | ok =>
      cases hr : buildAll b p xs (i+1) with
      | error => rw [hx,hr] at h; cases h
      | ok =>
        rw [hx,hr] at h
        cases h
        intro y' hy'
        rcases mem_cons.mp hy' with rfl | hy'
        · exact ⟨x,mem_cons_self,hx⟩
        · obtain ⟨x',hx',hb⟩ := ih hr y' hy'
          exact ⟨x',mem_cons_of_mem x hx',hb⟩

/-- Every item that a block appends satisfies `q`. -/
def Appends (q : RuleItem → Prop) (block : Except BuildError (List RuleItem)) : Prop :=
  ∀ items, block = .ok items → ∀ item ∈ items, q item

variable {cn : Bool} {item : RuleItem} {q : RuleItem → Prop}

lemma appends_appendIf (h : cn = true → q item) : Appends q (appendIf cn item) := by
  intro im heq it hit
  cases heq
  cases cn with
  | false => cases hit
  | true => exact mem_singleton.mp hit ▸ h rfl

lemma appends_tryAppendIf {f : String}
    {item : Except BuildError RuleItem} (h : cn = true → ∀ it, item = .ok it → q it) :
    Appends q (tryAppendIf cn f item) := by
  intro im heq it hit
  cases cn with
  | false =>
    cases heq
    cases hit
  | true =>
    cases item with
    | error => cases heq
    | ok item =>
      cases heq
      exact mem_singleton.mp hit ▸ h rfl item rfl

lemma appends_ite {a b : Except BuildError (List RuleItem)}
    (ha : cn = true → Appends q a) (hb : cn = false → Appends q b) : Appends q (if cn then a else b) := by
  cases cn with
  | true => exact ha rfl
  | false => exact hb rfl

lemma newDomainItem_ok {c : ItemCompiler} {ds ss : List String}
    (h : newDomainItem c ds ss = .ok item) : ∃ m, item = .domain m := by
  unfold newDomainItem at h
  split_ifs at h
  cases h
  exact ⟨_,rfl⟩

lemma newIPCIDRItem_ok {c : ItemCompiler} {i : Bool} {ps : List String}
    (h : newIPCIDRItem c i ps = .ok item) : ∃ ip, item = .ipCIDR i ip := by
  obtain ⟨es,_,h⟩ := Outcome.bind_eq_ok.mp h
  obtain ⟨ip,_,h⟩ := Outcome.bind_eq_ok.mp h
  cases h
  exact ⟨ip,rfl⟩

lemma newPortRangeItem_ok {i : Bool} {rs : List String}
    (h : newPortRangeItem i rs = .ok item) : ∃ l, item = .portRange i l := by
  obtain ⟨l,_,h⟩ := Outcome.bind_eq_ok.mp h
  cases h
  exact ⟨l,rfl⟩

/-- The only block that appends an address condition is the one of `ip_cidr`. -/
lemma appends_headlessBlocks (o : DefaultHeadlessOptions) :
    ∀ b ∈ headlessBlocks c o, Appends (fun item => item.isResponse = false ∧
      (item.group = .destinationIPCIDR → isIPCIDRHeadlessRule o = true)) b := by
  have hp : ∀ {cn : Bool} {item : RuleItem}, item.isResponse = false →
      (item.group == .destinationIPCIDR) = false → Appends (fun item => item.isResponse = false ∧
        (item.group = .destinationIPCIDR → isIPCIDRHeadlessRule o = true)) (appendIf cn item) :=
    fun hr hg => appends_appendIf fun _ => ⟨hr,fun h => absurd h (beq_eq_false_iff_ne.mp hg)⟩
  simp only [headlessBlocks,forall_mem_cons]
  refine ⟨hp rfl rfl,hp rfl rfl,appends_ite (fun _ => ?_) (fun _ => hp rfl rfl),
    hp rfl rfl,?_,appends_ite (fun _ => ?_) (fun _ => hp rfl rfl),
    appends_ite (fun hc => ?_) (fun hc => ?_),hp rfl rfl,?_,hp rfl rfl,?_,
    hp rfl rfl,hp rfl rfl,?_,hp rfl rfl,?_,hp rfl rfl,hp rfl rfl,
    hp rfl rfl,hp rfl rfl,hp rfl rfl,hp rfl rfl,hp rfl rfl,
    appends_ite (fun _ => hp rfl rfl) (fun _ => hp rfl rfl),by simp⟩
  · refine appends_tryAppendIf fun _ it h => ?_
    obtain ⟨m,rfl⟩ := newDomainItem_ok h
    exact ⟨rfl,fun hgr => by cases hgr⟩
  · refine appends_tryAppendIf fun _ it h => ?_
    obtain ⟨ms,_,rfl⟩ := Outcome.map_eq_ok.mp h
    exact ⟨rfl,fun hgr => by cases hgr⟩
  · refine appends_tryAppendIf fun _ it h => ?_
    obtain ⟨i,rfl⟩ := newIPCIDRItem_ok h
    exact ⟨rfl,fun hgr => by cases hgr⟩
  · refine appends_tryAppendIf fun _ it h => ?_
    obtain ⟨i,rfl⟩ := newIPCIDRItem_ok h
    exact ⟨rfl,fun _ => by rw [isIPCIDRHeadlessRule,hc,Bool.true_or]⟩
  · refine appends_appendIf fun hs => ⟨rfl,fun _ => ?_⟩
    rw [isIPCIDRHeadlessRule,hs,Bool.or_true]
  · refine appends_tryAppendIf fun _ it h => ?_
    obtain ⟨l,rfl⟩ := newPortRangeItem_ok h
    exact ⟨rfl,fun hgr => by cases hgr⟩
  · refine appends_tryAppendIf fun _ it h => ?_
    obtain ⟨l,rfl⟩ := newPortRangeItem_ok h
    exact ⟨rfl,fun hgr => by cases hgr⟩
  all_goals
    refine appends_tryAppendIf fun _ it h => ?_
    obtain ⟨ms,_,rfl⟩ := Outcome.map_eq_ok.mp h
    exact ⟨rfl,fun hgr => by cases hgr⟩

lemma newHeadlessRule_items (os : HeadlessOptions) {rule : HeadlessRule}
    (h : newHeadlessRule c os.unmarshal = .ok rule) :
    NoResponseItem rule ∧ (os.unmarshal.has isIPCIDRHeadlessRule = false → NoDeferred rule) := by
  induction os using HeadlessOptions.induct generalizing rule with
  | default t os =>
    rw [HeadlessOptions.unmarshal,newHeadlessRule] at h
    split_ifs at h
    obtain ⟨r,hr,rfl⟩ := Outcome.map_eq_ok.mp h
    obtain ⟨bs,hbl,hr⟩ := Outcome.bind_eq_ok.mp hr
    cases hr
    have him : ∀ item, ItemOf item (.default ⟨bs.flatten,none,os.invert⟩) → item.isResponse = false ∧
          (item.group = .destinationIPCIDR → isIPCIDRHeadlessRule os = true) := by
      intro item hit
      cases hit with
      | item hi =>
        obtain ⟨it,his,hi⟩ := mem_flatten.mp hi
        obtain ⟨b,hbk,hok⟩ := Outcome.exists_of_mem_mapM hbl it his
        exact appends_headlessBlocks c os b hbk it hok item hi
      | ruleSet hs => cases hs
    refine ⟨fun item hit => (him item hit).1,fun hno item hit hg => ?_⟩
    rw [HeadlessOptions.unmarshal,HeadlessOptions.has,(him item hit).2 hg] at hno
    cases hno
  | logical m rl i ih =>
    rw [HeadlessOptions.unmarshal,newHeadlessRule] at h
    split_ifs at h
    obtain ⟨m',_,h⟩ := Outcome.bind_eq_ok.mp h
    obtain ⟨cl,hch,h⟩ := Outcome.bind_eq_ok.mp h
    cases h
    have hcd : ∀ ch ∈ cl, ∃ o ∈ rl, newHeadlessRule c o.unmarshal = .ok ch := by
      intro ch hc
      rw [newSubRules_eq,unmarshalAll_eq] at hch
      obtain ⟨o,ho,hb⟩ := exists_of_mem_buildAll hch ch hc
      obtain ⟨o',ho',rfl⟩ := mem_map.mp ho
      exact ⟨o',ho',hb⟩
    constructor
    · intro item hit
      cases hit with
      | child hc hit =>
        obtain ⟨o,ho,hb⟩ := hcd _ hc
        exact (ih o ho hb).1 item hit
    · intro hno item hit
      rw [HeadlessOptions.unmarshal,HeadlessOptions.has,hasHeadlessRule_eq,unmarshalAll_eq, any_eq_false] at hno
      cases hit with
      | child hc hit =>
        obtain ⟨o,ho,hb⟩ := hcd _ hc
        have hho := hno o.unmarshal (mem_map_of_mem ho)
        exact (ih o ho hb).2 (by simpa using hho) item hit

end

/-- A set whose metadata was computed from the rules it holds. -/
def Loaded (set : RuleSet HeadlessRule) : Prop :=
  ∃ c validate old headlessRules, reloadRules c validate old headlessRules = .ok set

lemma Loaded.items {s : RuleSet HeadlessRule} (h : Loaded s) : ∀ rule ∈ s.rules,
      NoResponseItem rule ∧ (s.metadata.containsIPCIDRRule = false → NoDeferred rule) := by
  obtain ⟨c,v,ol,headlessRules,h⟩ := h
  obtain ⟨rs,hr,h⟩ := Outcome.bind_eq_ok.mp h
  cases hv : v ol.tag (buildRuleSetMetadata (headlessRules.map HeadlessOptions.unmarshal)) with
  | some => simp [hv] at h
  | none =>
    simp only [hv] at h
    cases h
    intro rule hrl
    obtain ⟨o,ho,hb⟩ := exists_of_mem_buildAll hr rule hrl
    obtain ⟨o',ho',rfl⟩ := mem_map.mp ho
    have his := newHeadlessRule_items c o' hb
    refine ⟨his.1,fun hno => his.2 ?_⟩
    simp only [buildRuleSetMetadata,hasHeadlessRule_eq,any_eq_false] at hno
    simpa using hno _ ho

/-- The trees the legacy mode runs on: no `match_response`, no `response_*` item, the addresses of
rule-sets not redirected to the source, and every rule-set with the metadata of its rules. -/
inductive LegacyTree : DNSRule → Prop
  | default {rule : AbstractDefaultRule HeadlessRule} : (∀ item ∈ rule.allItems, item.isResponse = false) →
      (∀ setItem, rule.ruleSetItem = some setItem →
        setItem.ipCidrMatchSource = false ∧ ∀ set ∈ setItem.setList, Loaded set) →
      LegacyTree (.default rule false)
  | logical {rule : AbstractLogicalRule DNSRule} : (∀ child ∈ rule.rules, LegacyTree child) →
      LegacyTree (.logical rule)

lemma defaultWithAddressLimit_eq_false {rule : AbstractDefaultRule HeadlessRule}
    (h : DNSRule.defaultWithAddressLimit rule = false) :
    rule.destinationIPCIDRItems = [] ∧ ∀ si, rule.ruleSetItem = some si →
      si.ipCidrMatchSource = false → ∀ s ∈ si.setList, s.metadata.containsIPCIDRRule = false := by
  unfold DNSRule.defaultWithAddressLimit at h
  split_ifs at h with hl
  refine ⟨eq_nil_of_length_eq_zero (by omega),fun si hsm hsr s hs => ?_⟩
  rw [hsm] at h
  simp only [DNSRule.containsDestinationIPCIDRRule,hsr,Bool.false_eq_true,if_false, any_eq_false] at h
  simpa using h s hs

variable {rule : DNSRule}

lemma LegacyTree.noResponseItem (h : LegacyTree rule) : NoResponseItem rule.headless := by
  induction h with
  | default his hst =>
    intro item hit
    rw [DNSRule.headless] at hit
    cases hit with
    | item hi => exact his item hi
    | ruleSet hsm hs hi hit => exact (((hst _ hsm).2 _ hs).items _ hi).1 item hit
  | logical hcn ih =>
    intro item hit
    rw [DNSRule.headless_logical] at hit
    cases hit with
    | child hc hit =>
      obtain ⟨ch,hch,rfl⟩ := mem_map.mp hc
      exact ih ch hch item hit

lemma LegacyTree.noDeferred (h : LegacyTree rule) (hl : rule.withAddressLimit = false) : NoDeferred rule.headless := by
  induction h with
  | @default rule his hst =>
    rw [DNSRule.withAddressLimit] at hl
    obtain ⟨hn,hm⟩ := defaultWithAddressLimit_eq_false hl
    intro item hit
    rw [DNSRule.headless] at hit
    cases hit with
    | item hi => simpa using filter_eq_nil_iff.mp hn item hi
    | ruleSet hsm hs hi hit =>
      obtain ⟨hsr,hld⟩ := hst _ hsm
      exact ((hld _ hs).items _ hi).2 (hm _ hsm hsr _ hs) item hit
  | logical hcn ih =>
    rw [DNSRule.withAddressLimit_logical,any_eq_false] at hl
    intro item hit
    rw [DNSRule.headless_logical] at hit
    cases hit with
    | child hc hit =>
      obtain ⟨ch,hch,rfl⟩ := mem_map.mp hc
      exact ih ch hch (by simpa using hl ch hch) item hit

/-- Pre-match of a tree without `match_response` is the match of the embedded rules. -/
lemma LegacyTree.legacyPreMatch_eq (h : LegacyTree rule) (m : ItemMatcher)
    (mt : InboundContext) : rule.legacyPreMatch m mt =
      rule.headless.match m { mt with ignoreDestinationIPCIDRMatch := true } := by
  cases h with
  | default => rw [DNSRule.legacyPreMatch,DNSRule.headless]; rfl
  | logical => rfl

lemma match_sameQuery (p : Platform) {rule : HeadlessRule} (hd : NoDeferred rule)
    (hr : NoResponseItem rule) {a b : InboundContext} (h : SameQuery a b) :
    rule.match (itemMatcher p) a = rule.match (itemMatcher p) b := by
  rw [HeadlessRule.match,HeadlessRule.match,HeadlessRule.matchStates,HeadlessRule.matchStates,
    matchStatesWithBase_sameQuery p rule hd hr h]

/-- With the flag off, no response changes the outcome that pre-match gave. -/
theorem matchAddressLimit_of_withAddressLimit_eq_false (p : Platform) (rule : DNSRule)
    (htree : LegacyTree rule) (hlimit : rule.withAddressLimit = false) (metadata : InboundContext)
    (r₁ r₂ : Option Msg) :
    rule.matchAddressLimit (itemMatcher p) metadata r₁ = rule.matchAddressLimit (itemMatcher p) metadata r₂ ∧
      rule.matchAddressLimit (itemMatcher p) metadata r₂ = rule.legacyPreMatch (itemMatcher p) metadata := by
  have hd := htree.noDeferred hlimit
  have hr := htree.noResponseItem
  constructor
  · exact match_sameQuery p hd hr rfl
  · rw [htree.legacyPreMatch_eq]
    exact match_sameQuery p hd hr rfl

def literalCompiler : ItemCompiler where
  newMatcher domains _ host := domains.contains host
  newAdGuardMatcher _ _ := false
  compileRegexp _ := .error (.new "regexp")
  parsePrefix _ := .error (.new "prefix")
  parseAddr _ := .error (.new "address")
  ipSet _ := .error (.new "set")
  hasNetworkManager := false

/-- A set of domains under a logical rule: a response with an address and none at all count the same. -/
theorem matchAddressLimit_of_withAddressLimit_eq_false_domain :
    let options : HeadlessOptions := .default true { domain := some ["a.test"] }
    ∃ set, reloadRules literalCompiler (fun _ _ => none) ⟨"set",[],{}⟩ [options] = .ok set ∧
      let inner : AbstractDefaultRule HeadlessRule := ⟨[],some ⟨[set],false,false⟩,false⟩
      let rule : DNSRule := .logical ⟨[.default inner false],.or,false⟩
      let metadata : InboundContext := { domain := "a.test" }
      rule.withAddressLimit = false ∧
      rule.matchAddressLimit (itemMatcher bareHost) metadata none =
        rule.matchAddressLimit (itemMatcher bareHost) metadata (some {}) ∧
      rule.matchAddressLimit (itemMatcher bareHost) metadata (some {}) =
        rule.legacyPreMatch (itemMatcher bareHost) metadata ∧
      rule.legacyPreMatch (itemMatcher bareHost) metadata = true := by
  intro options
  refine ⟨_,rfl,?_⟩
  intro inner rule metadata
  have ht : LegacyTree rule := by
    refine .logical fun ch hc => ?_
    rw [mem_singleton.mp hc]
    refine .default (fun _ hi => by cases hi) fun si hsm => ?_
    cases hsm
    refine ⟨rfl,fun set hs => ?_⟩
    exact ⟨literalCompiler,fun _ _ => none,⟨"set",[],{}⟩,[options],mem_singleton.mp hs ▸ rfl⟩
  have hl : rule.withAddressLimit = false := by decide +kernel
  obtain ⟨h₁,h₂⟩ := matchAddressLimit_of_withAddressLimit_eq_false bareHost rule ht hl metadata none (some {})
  exact ⟨hl,h₁,h₂,by decide +kernel⟩

end SingBox.Rule
