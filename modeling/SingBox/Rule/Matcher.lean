import SingBox.Rule.MatchState
import SingBox.Rule.Tree

/-! The matcher of `rule_abstract.go`, `rule_item_rule_set.go` and `rule_set_local.go`: a rule
evaluated on a metadata and an inherited base returns the set of group masks it reached.

The Go methods write `DidMatch` through the metadata pointer, so the blocks of a default rule
pass the metadata on. No caller reads the flag after the call: each of them resets it, on a copy,
before the next rule. -/
namespace SingBox.Rule
open Adapter

/-- The dispatch of the `RuleItem` interface. No item reads the flags that the matcher writes. -/
structure ItemMatcher where
  run : RuleItem → InboundContext → Bool
  run_reset : ∀ item metadata, run item metadata.resetRuleMatchCache = run item metadata

lemma ItemMatcher.run_didMatch (m : ItemMatcher) (i : RuleItem) (mt : InboundContext)
    (f : Bool) : m.run i { mt with didMatch := f } = m.run i mt := by
  rw [← m.run_reset,← m.run_reset i mt]
  rfl

def itemMatcher (p : Platform) : ItemMatcher where
  run := RuleItem.match p
  run_reset item metadata := by cases item <;> rfl

def matchAnyItem (m : ItemMatcher) (items : List RuleItem) (metadata : InboundContext) : Bool :=
  items.any fun it => m.run it metadata

/-- The locals `metadata` and `baseState` of a running default rule. -/
structure Evaluation where
  metadata : InboundContext
  baseState : RuleMatchState

namespace Evaluation
variable (m : ItemMatcher)

def markDidMatch (e : Evaluation) : Evaluation := { e with metadata := { e.metadata with didMatch := true } }

def matchGroup (items : List RuleItem) (bit : RuleMatchState) (e : Evaluation) : Evaluation :=
  if items.length > 0 then
    if matchAnyItem m items e.markDidMatch.metadata then
      { e.markDidMatch with baseState := e.baseState ||| bit }
    else
      e.markDidMatch
  else
    e

/-- The block of the `ip_cidr` items, skipped where the bit is set already. -/
def matchIPCIDRGroup (applies : Bool) (items : List RuleItem) (bit : RuleMatchState)
    (e : Evaluation) : Evaluation :=
  if applies && !e.baseState.has bit then
    if matchAnyItem m items e.markDidMatch.metadata then
      { e.markDidMatch with baseState := e.baseState ||| bit }
    else
      e.markDidMatch
  else if applies then
    e.markDidMatch
  else
    e

def matchItems : List RuleItem → Evaluation → Option Evaluation
  | [], e => some e
  | item :: items, e =>
      if m.run item e.markDidMatch.metadata then matchItems items e.markDidMatch else none

end Evaluation

namespace AbstractDefaultRule
variable {ρ : Type} (r : AbstractDefaultRule ρ)

def destinationIPCIDRMatchesSource (metadata : InboundContext) : Bool :=
  !metadata.ignoreDestinationIPCIDRMatch && metadata.ipCIDRMatchSource &&
    decide (r.destinationIPCIDRItems.length > 0)

def destinationIPCIDRMatchesDestination (metadata : InboundContext) : Bool :=
  !metadata.ignoreDestinationIPCIDRMatch && !metadata.ipCIDRMatchSource &&
    decide (r.destinationIPCIDRItems.length > 0)

def requiresSourceAddressMatch (metadata : InboundContext) : Bool :=
  decide (r.sourceAddressItems.length > 0) || r.destinationIPCIDRMatchesSource metadata

def requiresDestinationAddressMatch (metadata : InboundContext) : Bool :=
  decide (r.destinationAddressItems.length > 0) || r.destinationIPCIDRMatchesDestination metadata

def matchGroups (m : ItemMatcher) (e : Evaluation) : Evaluation :=
  let e := e.matchGroup m r.sourceAddressItems ruleMatchSourceAddress
  let e := e.matchIPCIDRGroup m (r.destinationIPCIDRMatchesSource e.metadata)
    r.destinationIPCIDRItems ruleMatchSourceAddress
  let e := e.matchGroup m r.sourcePortItems ruleMatchSourcePort
  let e := e.matchGroup m r.destinationAddressItems ruleMatchDestinationAddress
  let e := e.matchIPCIDRGroup m (r.destinationIPCIDRMatchesDestination e.metadata)
    r.destinationIPCIDRItems ruleMatchDestinationAddress
  e.matchGroup m r.destinationPortItems ruleMatchDestinationPort

/-- The closure given to `filter`. -/
def allowed (metadata : InboundContext) (state : RuleMatchState) : Bool :=
  if r.requiresSourceAddressMatch metadata && !state.has ruleMatchSourceAddress then
    false
  else if decide (r.sourcePortItems.length > 0) && !state.has ruleMatchSourcePort then
    false
  else if r.requiresDestinationAddressMatch metadata && !state.has ruleMatchDestinationAddress then
    false
  else if decide (r.destinationPortItems.length > 0) && !state.has ruleMatchDestinationPort then
    false
  else
    true

def invertedFailure (base : RuleMatchState) : RuleMatchStateSet :=
  if r.invert then emptyRuleMatchState.withBase base else 0#16

/-- `matchStatesWithBase` of a default rule; `ruleSetStates` evaluates its rule-set item. -/
def matchStatesWithBase (m : ItemMatcher)
    (ruleSetStates : InboundContext → RuleMatchState → RuleMatchStateSet)
    (metadata : InboundContext) (inheritedBase : RuleMatchState) : RuleMatchStateSet :=
  if r.noItems then
    emptyRuleMatchState.withBase inheritedBase
  else
    let evaluationBase := if r.invert then 0#8 else inheritedBase
    match (r.matchGroups m ⟨metadata,evaluationBase⟩).matchItems m r.items with
    | none => r.invertedFailure inheritedBase
    | some e =>
        let e := if r.ruleSetItem.isSome then e.markDidMatch else e
        let stateSet :=
          if r.ruleSetItem.isSome then ruleSetStates e.metadata e.baseState
          else singleRuleMatchState e.baseState
        let stateSet := stateSet.filter (r.allowed e.metadata)
        if stateSet.isEmpty then
          r.invertedFailure inheritedBase
        else if r.invert then
          if e.metadata.ignoreDestinationIPCIDRMatch && stateSet == emptyRuleMatchState &&
              !e.metadata.didMatch && decide (r.destinationIPCIDRItems.length > 0) then
            emptyRuleMatchState.withBase inheritedBase
          else
            0#16
        else
          stateSet

end AbstractDefaultRule

def ruleSetMetadata (matchSource acceptEmpty : Bool) (metadata : InboundContext) : InboundContext :=
  { metadata.resetRuleMatchCache with
    ipCIDRMatchSource := matchSource, ipCIDRAcceptEmpty := acceptEmpty }

variable (m : ItemMatcher)

mutual

def HeadlessRule.matchStatesWithBase :
    HeadlessRule → InboundContext → RuleMatchState → RuleMatchStateSet
  | .default ⟨allItems,none,invert⟩, metadata, base =>
      (⟨allItems,none,invert⟩ : AbstractDefaultRule HeadlessRule).matchStatesWithBase m
        (fun _ _ => 0#16) metadata base
  | .default ⟨allItems,some ⟨setList,matchSource,acceptEmpty⟩,invert⟩, metadata, base =>
      (⟨allItems,some ⟨setList,matchSource,acceptEmpty⟩,invert⟩ : AbstractDefaultRule HeadlessRule)
        |>.matchStatesWithBase m
          (fun metadata base => matchRuleSets setList matchSource acceptEmpty metadata base 0#16)
          metadata base
  | .logical ⟨rules,mode,invert⟩, metadata, base =>
      let evaluationBase := if invert then 0#8 else base
      match mode with
      | .and =>
          match matchAndRules rules metadata evaluationBase
            (emptyRuleMatchState.withBase evaluationBase) with
          | none => if invert then emptyRuleMatchState.withBase base else 0#16
          | some stateSet => if invert then 0#16 else stateSet
      | .or =>
          let stateSet := matchOrRules rules metadata evaluationBase 0#16
          if stateSet.isEmpty then
            if invert then emptyRuleMatchState.withBase base else 0#16
          else
            if invert then 0#16 else stateSet

/-- The loop of a logical `and` rule; `none` is its early return. -/
def matchAndRules : List HeadlessRule → InboundContext → RuleMatchState → RuleMatchStateSet → Option RuleMatchStateSet
  | [], _, _, stateSet => some stateSet
  | rule :: rules, metadata, base, stateSet =>
      let nestedStateSet := rule.matchStatesWithBase metadata.resetRuleCache base
      if nestedStateSet.isEmpty then
        none
      else
        matchAndRules rules metadata base (stateSet.combine nestedStateSet)

/-- The loop of a logical `or` rule. -/
def matchOrRules : List HeadlessRule → InboundContext → RuleMatchState → RuleMatchStateSet → RuleMatchStateSet
  | [], _, _, stateSet => stateSet
  | rule :: rules, metadata, base, stateSet =>
      matchOrRules rules metadata base
        (stateSet.merge (rule.matchStatesWithBase metadata.resetRuleCache base))

/-- The loop of `RuleSetItem.matchStatesWithBase` over its sets. -/
def matchRuleSets : List (RuleSet HeadlessRule) → Bool → Bool → InboundContext → RuleMatchState →
    RuleMatchStateSet → RuleMatchStateSet
  | [], _, _, _, _, stateSet => stateSet
  | ⟨_,rules,_⟩ :: sets, matchSource, acceptEmpty, metadata, base, stateSet =>
      matchRuleSets sets matchSource acceptEmpty metadata base
        (stateSet.merge (matchSetRules rules (ruleSetMetadata matchSource acceptEmpty metadata) base 0#16))

/-- The loop of `LocalRuleSet.matchStatesWithBase` over its rules; a remote set has the same. -/
def matchSetRules : List HeadlessRule → InboundContext → RuleMatchState → RuleMatchStateSet → RuleMatchStateSet
  | [], _, _, stateSet => stateSet
  | rule :: rules, metadata, base, stateSet =>
      matchSetRules rules metadata base
        (stateSet.merge (rule.matchStatesWithBase metadata.resetRuleMatchCache base))

end

/-- `RuleSetItem.matchStatesWithBase`. -/
def RuleSetItem.matchStatesWithBase (item : RuleSetItem HeadlessRule) (metadata : InboundContext)
    (base : RuleMatchState) : RuleMatchStateSet :=
  matchRuleSets m item.setList item.ipCidrMatchSource item.ipCidrAcceptEmpty metadata base 0#16

def HeadlessRule.matchStates (rule : HeadlessRule) (metadata : InboundContext) : RuleMatchStateSet :=
  rule.matchStatesWithBase m metadata 0#8

/-- `Match` of a route rule or a headless rule. -/
def HeadlessRule.match (rule : HeadlessRule) (metadata : InboundContext) : Bool :=
  !(rule.matchStates m metadata).isEmpty

end SingBox.Rule
