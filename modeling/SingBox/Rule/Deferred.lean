import SingBox.Rule.DNSRule
import SingBox.Rule.States

/-! Deferred conditions: the items on destination addresses, which a DNS rule can only decide on a
response. Rules without them give one answer before and after the response. -/
namespace SingBox.Adapter.InboundContext

def withoutResponse (c : InboundContext) : InboundContext :=
  { c with
    dnsResponse := none
    destinationAddressMatchFromResponse := false
    ignoreDestinationIPCIDRMatch := false }

/-- Two views of one query, before or after some response. -/
def SameQuery (a b : InboundContext) : Prop := a.withoutResponse = b.withoutResponse

lemma SameQuery.resetRuleCache {a b : InboundContext} (h : SameQuery a b) :
    SameQuery a.resetRuleCache b.resetRuleCache :=
  congrArg InboundContext.resetRuleCache h

end SingBox.Adapter.InboundContext

namespace SingBox.Rule
open Adapter Adapter.InboundContext RuleMatchState RuleMatchStateSet

variable {a b : InboundContext}

lemma RuleSetItem.sameQuery_nestedMetadata {ρ : Type} (i : RuleSetItem ρ)
    (h : SameQuery a b) : SameQuery (i.nestedMetadata a) (i.nestedMetadata b) :=
  congrArg i.nestedMetadata h

def RuleItem.isResponse : RuleItem → Bool
  | .dnsResponseRCode _ => true
  | .dnsResponseRecord _ _ => true
  | _ => false

lemma RuleItem.match_sameQuery (p : Platform) {i : RuleItem} (hg : i.group ≠ .destinationIPCIDR)
    (hr : i.isResponse = false) (h : SameQuery a b) : i.match p a = i.match p b := by
  have hq : ∀ c : InboundContext, i.match p c = i.match p c.withoutResponse := by
    intro c
    cases i with
    | ipCIDR isSource ipSet | ipIsPrivate isSource =>
      cases isSource with
      | true => rfl
      | false => exact absurd rfl hg
    | ipAcceptAny => exact absurd rfl hg
    | dnsResponseRCode rcode | dnsResponseRecord field records => cases hr
    | _ => rfl
  rw [hq a,hq b,h]

/-- No address condition, at any depth. -/
def NoDeferred (rule : HeadlessRule) : Prop := ∀ item, ItemOf item rule → item.group ≠ .destinationIPCIDR

/-- No `response_*` item, at any depth. -/
def NoResponseItem (rule : HeadlessRule) : Prop := ∀ item, ItemOf item rule → item.isResponse = false

lemma matchStatesWithBase_sameQuery (p : Platform) (rl : HeadlessRule) (hd : NoDeferred rl)
    (hr : NoResponseItem rl) (h : SameQuery a b) (bs : RuleMatchState) :
    rl.matchStatesWithBase (itemMatcher p) a bs = rl.matchStatesWithBase (itemMatcher p) b bs := by
  induction rl using HeadlessRule.induct generalizing a b bs with
  | default r ih =>
    have hn : r.destinationIPCIDRItems = [] := by
      apply List.filter_eq_nil_iff.mpr
      intro im hi
      simpa using hd im (.item hi)
    have hst := AbstractDefaultRule.ruleSetStates_congr fun im hsm s hs i hi =>
      ih im hsm s hs i hi (fun it hit => hd it (.ruleSet hsm hs hi hit))
        (fun it hit => hr it (.ruleSet hsm hs hi hit)) (im.sameQuery_nestedMetadata h)
    have hb := AbstractDefaultRule.bodyStates_congr
      (fun im hi => RuleItem.match_sameQuery p (hd im (.item hi)) (hr im (.item hi)) h)
      (by simp [AbstractDefaultRule.destinationIPCIDRMatchesSource,hn])
      (by simp [AbstractDefaultRule.destinationIPCIDRMatchesDestination,hn]) hst
    have hsk : ∀ c, r.skipped (itemMatcher p) c = false := by
      intro c
      simp [AbstractDefaultRule.skipped,hn]
    simp only [HeadlessRule.matchStatesWithBase_default,hsk,hb]
  | logical r ih =>
    have hb : ∀ bs, r.bodyStates (itemMatcher p) a bs = r.bodyStates (itemMatcher p) b bs := by
      intro bs
      refine logicalStates_congr _ _ fun ch hc => ?_
      exact ih ch hc (fun it hit => hd it (.child hc hit)) (fun it hit => hr it (.child hc hit))
        h.resetRuleCache bs
    simp only [HeadlessRule.matchStatesWithBase_logical,hb]

end SingBox.Rule
