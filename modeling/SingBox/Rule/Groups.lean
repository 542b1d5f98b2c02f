import SingBox.Rule.Matcher

/-! What one run of a default rule computes, group by group: which groups it requires, which of
them its items satisfy, and the states that pass. -/
namespace SingBox.Rule
open Adapter RuleMatchState

inductive Group
  | sourceAddress
  | sourcePort
  | destinationAddress
  | destinationPort
  deriving DecidableEq

def Group.bit : Group → RuleMatchState
  | .sourceAddress => ruleMatchSourceAddress
  | .sourcePort => ruleMatchSourcePort
  | .destinationAddress => ruleMatchDestinationAddress
  | .destinationPort => ruleMatchDestinationPort

variable (g : Group) (s : RuleMatchState) (f : Group → Bool)

lemma or_bit_of_has : has s g.bit = true → s ||| g.bit = s := by
  cases g <;> (revert s; decide +kernel)

def groupState (g : Group) (matched : Bool) : RuleMatchState := if matched then g.bit else 0#8

/-- The mask of the groups in `f`. -/
def groupMask (f : Group → Bool) : RuleMatchState :=
  groupState .sourceAddress (f .sourceAddress) ||| groupState .sourcePort (f .sourcePort) |||
    groupState .destinationAddress (f .destinationAddress) |||
    groupState .destinationPort (f .destinationPort)

lemma groupState_or (a b : Bool) : groupState g a ||| groupState g b = groupState g (a || b) := by
  cases a <;> cases b <;> simp [groupState]

lemma has_groupMask : has (groupMask f) g.bit = f g := by
  have all : ∀ a b c d : Bool, ∀ h ∈ [Group.sourceAddress,.sourcePort,.destinationAddress,.destinationPort],
      has (groupState .sourceAddress a ||| groupState .sourcePort b ||| groupState .destinationAddress c |||
        groupState .destinationPort d) h.bit =
      match h with
      | .sourceAddress => a
      | .sourcePort => b
      | .destinationAddress => c
      | .destinationPort => d := by decide
  rw [groupMask,all _ _ _ _ g (by cases g <;> simp)]
  cases g <;> rfl

lemma groupMask_lt : (groupMask f).toNat < 16 := by
  have all : ∀ a b c d : Bool, (groupState .sourceAddress a ||| groupState .sourcePort b |||
      groupState .destinationAddress c ||| groupState .destinationPort d).toNat < 16 := by decide
  exact all _ _ _ _

namespace Evaluation
variable (m : ItemMatcher) (it : List RuleItem) (e : Evaluation)

@[simp] lemma matchAnyItem_didMatch (mt : InboundContext) (fl : Bool) :
    matchAnyItem m it { mt with didMatch := fl } = matchAnyItem m it mt := by
  simp only [matchAnyItem,m.run_didMatch]

lemma matchGroup_eq (g : Group) : e.matchGroup m it g.bit =
      ⟨{ e.metadata with didMatch := e.metadata.didMatch || !it.isEmpty },
        e.baseState ||| groupState g (matchAnyItem m it e.metadata)⟩ := by
  cases it with
  | nil => simp [matchGroup,matchAnyItem,groupState]
  | cons i it =>
    unfold matchGroup
    rw [if_pos (by simp)]
    cases h : matchAnyItem m (i :: it) e.metadata <;> simp [markDidMatch,h,groupState]

lemma matchIPCIDRGroup_eq (ap : Bool) (g : Group) : e.matchIPCIDRGroup m ap it g.bit =
      ⟨{ e.metadata with didMatch := e.metadata.didMatch || ap },
        e.baseState ||| groupState g (ap && matchAnyItem m it e.metadata)⟩ := by
  cases ap with
  | false => simp [matchIPCIDRGroup,groupState]
  | true =>
    unfold matchIPCIDRGroup
    cases hb : has e.baseState g.bit with
    | false => cases h : matchAnyItem m it e.metadata <;> simp [markDidMatch,h,groupState]
    | true =>
      -- the skipped evaluation could only have set a bit that is set
      have hor := or_bit_of_has g e.baseState hb
      cases h : matchAnyItem m it e.metadata <;> simp [markDidMatch,groupState,hor]

lemma matchItems_eq : e.matchItems m it = if it.all fun i => m.run i e.metadata then
        some ⟨{ e.metadata with didMatch := e.metadata.didMatch || !it.isEmpty },e.baseState⟩ else none := by
  induction it generalizing e with
  | nil => simp [matchItems]
  | cons i it ih =>
    rw [matchItems,ih]
    cases h : m.run i e.metadata <;> simp [markDidMatch,m.run_didMatch,h]

end Evaluation

namespace AbstractDefaultRule
variable {ρ : Type} (r : AbstractDefaultRule ρ) (m : ItemMatcher)

def groupRequired (metadata : InboundContext) : Group → Bool
  | .sourceAddress => r.requiresSourceAddressMatch metadata
  | .sourcePort => decide (r.sourcePortItems.length > 0)
  | .destinationAddress => r.requiresDestinationAddressMatch metadata
  | .destinationPort => decide (r.destinationPortItems.length > 0)

def groupMatched (metadata : InboundContext) : Group → Bool
  | .sourceAddress => matchAnyItem m r.sourceAddressItems metadata ||
      (r.destinationIPCIDRMatchesSource metadata && matchAnyItem m r.destinationIPCIDRItems metadata)
  | .sourcePort => matchAnyItem m r.sourcePortItems metadata
  | .destinationAddress => matchAnyItem m r.destinationAddressItems metadata ||
      (r.destinationIPCIDRMatchesDestination metadata && matchAnyItem m r.destinationIPCIDRItems metadata)
  | .destinationPort => matchAnyItem m r.destinationPortItems metadata

def consulted (metadata : InboundContext) : Bool :=
  metadata.didMatch || !r.sourceAddressItems.isEmpty || r.destinationIPCIDRMatchesSource metadata ||
    !r.sourcePortItems.isEmpty || !r.destinationAddressItems.isEmpty ||
    r.destinationIPCIDRMatchesDestination metadata || !r.destinationPortItems.isEmpty

lemma matchGroups_eq (e : Evaluation) : r.matchGroups m e = ⟨{ e.metadata with didMatch := r.consulted e.metadata },
      e.baseState ||| groupMask (r.groupMatched m e.metadata)⟩ := by
  have hc : ∀ fl, r.destinationIPCIDRMatchesSource { e.metadata with didMatch := fl } =
      r.destinationIPCIDRMatchesSource e.metadata := fun _ => rfl
  have hd : ∀ fl, r.destinationIPCIDRMatchesDestination { e.metadata with didMatch := fl } =
      r.destinationIPCIDRMatchesDestination e.metadata := fun _ => rfl
  unfold matchGroups
  rw [show ruleMatchSourceAddress = Group.sourceAddress.bit from rfl,
    show ruleMatchSourcePort = Group.sourcePort.bit from rfl,
    show ruleMatchDestinationAddress = Group.destinationAddress.bit from rfl,
    show ruleMatchDestinationPort = Group.destinationPort.bit from rfl]
  simp only [Evaluation.matchGroup_eq,Evaluation.matchIPCIDRGroup_eq,Evaluation.matchAnyItem_didMatch,
    hc,hd,groupMask,groupMatched,consulted,BitVec.or_assoc,← groupState_or]

lemma allowed_iff (mt : InboundContext) (st : RuleMatchState) : r.allowed mt st = true ↔
      ∀ g : Group, r.groupRequired mt g = true → has st g.bit = true := by
  constructor
  · intro h g
    unfold allowed at h
    split_ifs at h with h₁ h₂ h₃ h₄
    cases g
    · simpa [groupRequired,Group.bit] using h₁
    · simpa [groupRequired,Group.bit] using h₂
    · simpa [groupRequired,Group.bit] using h₃
    · simpa [groupRequired,Group.bit] using h₄
  · intro h
    have h₁ := h .sourceAddress
    have h₂ := h .sourcePort
    have h₃ := h .destinationAddress
    have h₄ := h .destinationPort
    simp only [groupRequired,Group.bit] at h₁ h₂ h₃ h₄
    unfold allowed
    split_ifs <;> simp_all

lemma groupRequired_of_groupMatched {mt : InboundContext} {g : Group}
    (h : r.groupMatched m mt g = true) : r.groupRequired mt g = true := by
  have ha : ∀ im : List RuleItem, matchAnyItem m im mt = true → im.length > 0 := by
    intro im hi
    obtain ⟨i,hm,_⟩ := List.any_eq_true.mp hi
    exact List.length_pos_of_mem hm
  cases g <;> simp only [groupMatched,groupRequired,requiresSourceAddressMatch,
    requiresDestinationAddressMatch,Bool.or_eq_true,Bool.and_eq_true,decide_eq_true_eq] at h ⊢
  · exact h.imp (ha _) And.left
  · exact ha _ h
  · exact h.imp (ha _) And.left
  · exact ha _ h

lemma groupItems_of_noItems (h : r.noItems = true) (gr : ItemGroup) : r.groupItems gr = [] := by
  simp only [noItems,Bool.and_eq_true,List.isEmpty_iff] at h
  rw [groupItems,h.1,List.filter_nil]

lemma groupRequired_of_noItems (h : r.noItems = true) (mt : InboundContext) (g : Group) :
    r.groupRequired mt g = false := by
  have his := r.groupItems_of_noItems h
  cases g <;> simp [groupRequired,requiresSourceAddressMatch,requiresDestinationAddressMatch,
    destinationIPCIDRMatchesSource,destinationIPCIDRMatchesDestination,sourceAddressItems,sourcePortItems,
    destinationAddressItems,destinationIPCIDRItems,destinationPortItems,his]

end AbstractDefaultRule
end SingBox.Rule
