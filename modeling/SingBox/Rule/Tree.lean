import SingBox.Rule.Item

/-! The trees of rules: default rules with their items and rule-sets, logical rules over other
rules. The induction principle follows the nesting through rule-sets. -/
namespace SingBox.Rule

/-- `adapter.RuleSetMetadata`. -/
structure RuleSetMetadata where
  containsProcessRule : Bool := false
  containsWIFIRule : Bool := false
  containsIPCIDRRule : Bool := false
  containsDNSQueryTypeRule : Bool := false
  deriving DecidableEq

structure RuleSet (ρ : Type) where
  tag : String
  rules : List ρ
  metadata : RuleSetMetadata

/-- `RuleSetItem`, after `Start` has resolved its tags. -/
structure RuleSetItem (ρ : Type) where
  setList : List (RuleSet ρ)
  ipCidrMatchSource : Bool
  ipCidrAcceptEmpty : Bool

/-- `abstractDefaultRule`. The constructors append an item to `allItems` and to the list of its
group, so the group lists are read off `allItems`; the rule-set item is kept apart. -/
structure AbstractDefaultRule (ρ : Type) where
  allItems : List RuleItem
  ruleSetItem : Option (RuleSetItem ρ)
  invert : Bool

inductive LogicalType
  | and
  | or
  deriving DecidableEq

/-- `abstractLogicalRule`. -/
structure AbstractLogicalRule (ρ : Type) where
  rules : List ρ
  mode : LogicalType
  invert : Bool

/-- The rules behind `adapter.HeadlessRule`. A route rule is one of these with an action. -/
inductive HeadlessRule
  | default (rule : AbstractDefaultRule HeadlessRule)
  | logical (rule : AbstractLogicalRule HeadlessRule)

namespace AbstractDefaultRule
variable {ρ : Type} (r : AbstractDefaultRule ρ)

def groupItems (group : ItemGroup) : List RuleItem := r.allItems.filter fun item => item.group = group

def items : List RuleItem := r.groupItems .items
def sourceAddressItems : List RuleItem := r.groupItems .sourceAddress
def sourcePortItems : List RuleItem := r.groupItems .sourcePort
def destinationAddressItems : List RuleItem := r.groupItems .destinationAddress
def destinationIPCIDRItems : List RuleItem := r.groupItems .destinationIPCIDR
def destinationPortItems : List RuleItem := r.groupItems .destinationPort

/-- `len(r.allItems) == 0`. -/
def noItems : Bool := r.allItems.isEmpty && r.ruleSetItem.isNone

lemma groupItems_subset {g : ItemGroup} {i : RuleItem} (h : i ∈ r.groupItems g) : i ∈ r.allItems :=
  (List.mem_filter.mp h).1

end AbstractDefaultRule

namespace HeadlessRule

def invert : HeadlessRule → Bool
  | default rule => rule.invert
  | logical rule => rule.invert

/-- A default rule without any condition matches everything, inverted or not. -/
def hasItems : HeadlessRule → Bool
  | default rule => !rule.noItems
  | logical _ => true

def setInvert (invert : Bool) : HeadlessRule → HeadlessRule
  | default rule => default { rule with invert := invert }
  | logical rule => logical { rule with invert := invert }

variable {motive : HeadlessRule → Prop}

lemma induct (default : ∀ rl : AbstractDefaultRule HeadlessRule,
      (∀ im ∈ rl.ruleSetItem, ∀ st ∈ im.setList, ∀ i ∈ st.rules, motive i) → motive (.default rl))
    (logical : ∀ rl : AbstractLogicalRule HeadlessRule, (∀ c ∈ rl.rules, motive c) → motive (.logical rl))
    (rl : HeadlessRule) : motive rl := by
  refine @HeadlessRule.rec motive
    (fun r => ∀ im ∈ r.ruleSetItem, ∀ st ∈ im.setList, ∀ i ∈ st.rules, motive i)
    (fun r => ∀ c ∈ r.rules, motive c)
    (fun o => ∀ im ∈ o, ∀ st ∈ im.setList, ∀ i ∈ st.rules, motive i)
    (fun rs => ∀ c ∈ rs, motive c)
    (fun im => ∀ st ∈ im.setList, ∀ i ∈ st.rules, motive i)
    (fun s => ∀ st ∈ s, ∀ i ∈ st.rules, motive i)
    (fun st => ∀ i ∈ st.rules, motive i)
    default logical (fun _ _ _ h => h) (fun _ _ _ h => h) ?_ ?_ ?_ ?_ (fun _ _ _ h => h) ?_ ?_
    (fun _ _ _ h => h) rl
  · intro im h
    cases h
  · intro im ih im' h
    cases h
    exact ih
  · intro c h
    cases h
  · intro c rs ic ir c' h
    cases h with
    | head => exact ic
    | tail _ h => exact ir c' h
  · intro st h
    cases h
  · intro st s ihS it st' h
    cases h with
    | head => exact ihS
    | tail _ h => exact it st' h

end HeadlessRule

/-- An item stands in a rule at any depth, the rules of its sets included. -/
inductive ItemOf (item : RuleItem) : HeadlessRule → Prop
  | item {r : AbstractDefaultRule HeadlessRule} : item ∈ r.allItems → ItemOf item (.default r)
  | ruleSet {r : AbstractDefaultRule HeadlessRule} {setItem : RuleSetItem HeadlessRule}
      {set : RuleSet HeadlessRule} {inner : HeadlessRule} :
      r.ruleSetItem = some setItem → set ∈ setItem.setList → inner ∈ set.rules →
      ItemOf item inner → ItemOf item (.default r)
  | child {r : AbstractLogicalRule HeadlessRule} {child : HeadlessRule} :
      child ∈ r.rules → ItemOf item child → ItemOf item (.logical r)

end SingBox.Rule
