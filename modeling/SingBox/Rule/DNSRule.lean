import SingBox.Rule.Matcher

/-! DNS rules (`rule_dns.go`): the tree of default and logical DNS rules with its own `Match`,
which knows `match_response`, and the legacy pair of pre-match and address limit. -/
namespace SingBox.Rule
open Adapter DNS

/-- `DefaultDNSRule` and `LogicalDNSRule`. -/
inductive DNSRule
  | default (rule : AbstractDefaultRule HeadlessRule) (matchResponse : Bool)
  | logical (rule : AbstractLogicalRule DNSRule)

namespace DNSRule

mutual

/-- The embedded abstract rules, as `matchHeadlessRuleStatesWithBase` sees a DNS rule. -/
def headless : DNSRule → HeadlessRule
  | default rule _ => .default rule
  | logical ⟨rules,mode,invert⟩ => .logical ⟨headlessRules rules,mode,invert⟩

def headlessRules : List DNSRule → List HeadlessRule
  | [] => []
  | rule :: rules => rule.headless :: headlessRules rules

end

def setInvert (invert : Bool) : DNSRule → DNSRule
  | default rule matchResponse => default { rule with invert := invert } matchResponse
  | logical rule => logical { rule with invert := invert }

def hasItems : DNSRule → Bool
  | default rule _ => !rule.noItems
  | logical _ => true

def invert : DNSRule → Bool
  | default rule _ => rule.invert
  | logical rule => rule.invert

variable (m : ItemMatcher)

/-- `DefaultDNSRule.matchStatesForMatch`. -/
def defaultStatesForMatch (rule : AbstractDefaultRule HeadlessRule) (matchResponse : Bool)
    (metadata : InboundContext) : RuleMatchStateSet :=
  if matchResponse then
    if metadata.dnsResponse.isNone then
      rule.invertedFailure 0#8
    else
      (HeadlessRule.default rule).matchStates m
        { metadata with destinationAddressMatchFromResponse := true }
  else
    (HeadlessRule.default rule).matchStates m metadata

mutual

/-- `matchDNSHeadlessRuleStatesForMatch`. -/
def matchStatesForMatch : DNSRule → InboundContext → RuleMatchStateSet
  | default rule matchResponse, metadata => defaultStatesForMatch m rule matchResponse metadata
  | logical ⟨rules,mode,invert⟩, metadata =>
      match mode with
      | .and =>
          match matchAndForMatch rules metadata emptyRuleMatchState with
          | none => if invert then emptyRuleMatchState else 0#16
          | some stateSet => if invert then 0#16 else stateSet
      | .or =>
          let stateSet := matchOrForMatch rules metadata 0#16
          if stateSet.isEmpty then
            if invert then emptyRuleMatchState else 0#16
          else
            if invert then 0#16 else stateSet

def matchAndForMatch : List DNSRule → InboundContext → RuleMatchStateSet → Option RuleMatchStateSet
  | [], _, stateSet => some stateSet
  | rule :: rules, metadata, stateSet =>
      let nestedStateSet := rule.matchStatesForMatch metadata.resetRuleCache
      if nestedStateSet.isEmpty then
        none
      else
        matchAndForMatch rules metadata (stateSet.combine nestedStateSet)

def matchOrForMatch : List DNSRule → InboundContext → RuleMatchStateSet → RuleMatchStateSet
  | [], _, stateSet => stateSet
  | rule :: rules, metadata, stateSet =>
      matchOrForMatch rules metadata
        (stateSet.merge (rule.matchStatesForMatch metadata.resetRuleCache))

end

/-- `LegacyPreMatch`. A default rule with `match_response` has none. -/
def legacyPreMatch (rule : DNSRule) (metadata : InboundContext) : Bool :=
  match rule with
  | default rule matchResponse =>
      if matchResponse then false
      else (HeadlessRule.default rule).match m { metadata with ignoreDestinationIPCIDRMatch := true }
  | logical _ => rule.headless.match m { metadata with ignoreDestinationIPCIDRMatch := true }

/-- `MatchAddressLimit`. -/
def matchAddressLimit (rule : DNSRule) (metadata : InboundContext) (response : Option Msg) : Bool :=
  rule.headless.match m
    { metadata with dnsResponse := response, destinationAddressMatchFromResponse := true }

end DNSRule

def DNSRule.match (m : ItemMatcher) (rule : DNSRule) (metadata : InboundContext) : Bool :=
  !(rule.matchStatesForMatch m metadata).isEmpty

namespace DNSRule

/-- `RuleSetItem.ContainsDestinationIPCIDRRule`. -/
def containsDestinationIPCIDRRule (item : RuleSetItem HeadlessRule) : Bool :=
  if item.ipCidrMatchSource then false
  else item.setList.any fun ruleSet => ruleSet.metadata.containsIPCIDRRule

/-- `WithAddressLimit` of a default DNS rule. -/
def defaultWithAddressLimit (rule : AbstractDefaultRule HeadlessRule) : Bool :=
  if rule.destinationIPCIDRItems.length > 0 then true
  else
    match rule.ruleSetItem with
    | some item => containsDestinationIPCIDRRule item
    | none => false

mutual

def withAddressLimit : DNSRule → Bool
  | default rule _ => defaultWithAddressLimit rule
  | logical ⟨rules,_,_⟩ => anyWithAddressLimit rules

def anyWithAddressLimit : List DNSRule → Bool
  | [] => false
  | rule :: rules => if rule.withAddressLimit then true else anyWithAddressLimit rules

end

lemma headlessRules_eq (rs : List DNSRule) : headlessRules rs = rs.map headless := by
  induction rs with
  | nil => simp only [headlessRules,List.map_nil]
  | cons rl rs ih => rw [headlessRules,ih,List.map_cons]

variable (r : AbstractLogicalRule DNSRule)

lemma headless_logical : (logical r).headless = .logical ⟨r.rules.map headless,r.mode,r.invert⟩ := by
  obtain ⟨rs,md,i⟩ := r
  rw [headless,headlessRules_eq]

lemma withAddressLimit_logical : (logical r).withAddressLimit = r.rules.any withAddressLimit := by
  obtain ⟨rs,md,i⟩ := r
  rw [withAddressLimit]
  induction rs with
  | nil => rw [anyWithAddressLimit,List.any_nil]
  | cons r rs ih =>
    rw [anyWithAddressLimit,List.any_cons,ih]
    cases r.withAddressLimit <;> rfl

end DNSRule
end SingBox.Rule
