import SingBox.DNS.LegacyRules

/-! The options of the attempts in legacy mode, against one fold over all rules before the attempted
one. -/
namespace SingBox.DNS
open Adapter Rule Override

def DNSRouteOptions.setStrategy (o : DNSRouteOptions) : Option DomainStrategy :=
  if o.strategy ≠ .asIS then some o.strategy else none

def DNSRouteOptions.setDisableCache (o : DNSRouteOptions) : Option Bool :=
  if o.disableCache then some true else none

def DNSRouteOptions.setRewriteTTL (o : DNSRouteOptions) : Option (Option ℕ) :=
  if o.rewriteTTL.isSome then some o.rewriteTTL else none

def DNSRouteOptions.setClientSubnet (o : DNSRouteOptions) : Option Prefix :=
  if o.clientSubnet.isValid then some o.clientSubnet else none

lemma getD_ite {β : Type} (c : Prop) [Decidable c] (v d : β) :
    (if c then some v else none).getD d = if c then v else d := by
  split_ifs <;> rfl

lemma legacyOptions_eq (os : DNSQueryOptions) (o : DNSRouteOptions) :
    legacyOptions os o =
      { os with
        strategy := o.setStrategy.getD os.strategy
        disableCache := o.setDisableCache.getD os.disableCache
        rewriteTTL := o.setRewriteTTL.getD os.rewriteTTL
        clientSubnet := o.setClientSubnet.getD os.clientSubnet } := by
  simp only [legacyOptions,DNSRouteOptions.setStrategy,DNSRouteOptions.setDisableCache,
    DNSRouteOptions.setRewriteTTL,DNSRouteOptions.setClientSubnet,getD_ite]

lemma foldl_legacyOptions (os : DNSQueryOptions) (ro : List DNSRouteOptions) :
    ro.foldl legacyOptions os =
      { os with
        strategy := overrides DNSRouteOptions.setStrategy os.strategy ro
        disableCache := overrides DNSRouteOptions.setDisableCache os.disableCache ro
        rewriteTTL := overrides DNSRouteOptions.setRewriteTTL os.rewriteTTL ro
        clientSubnet := overrides DNSRouteOptions.setClientSubnet os.clientSubnet ro } := by
  induction ro generalizing os with
  | nil => rfl
  | cons o ro ih =>
    rw [List.foldl_cons,ih,legacyOptions_eq]
    rfl

namespace Attempt
variable (r : DNSRouter) (q : LegacyQuery) (rules : List ActionRule) (a : Attempt)

def index : ℕ := selectedIndex rules a.rule

/-- The options of the caller, folded with every `route-options` rule that matches before the attempted
rule and then with the options of that rule. -/
def expectedOptions : DNSQueryOptions :=
  fillStrategy r (optionsUnder a.transport a.rule q.options
    (optionsBetween r q rules 0 (a.index rules) ++ ownOptions a.rule))

/-- The `route-options` rules that match before the search for the attempted rule began. -/
def passed : List DNSRouteOptions := optionsBetween r q rules 0 a.start

/-- The options that the attempt is made with: of the rules since then, and of the attempted rule. -/
def applied : List DNSRouteOptions := optionsBetween r q rules a.start (a.index rules) ++ ownOptions a.rule

def seenStrategy (strategy : DomainStrategy) : DomainStrategy :=
  if strategy = .asIS then r.defaultDomainStrategy else strategy

def seenCache (disableCache : Bool) : Bool := (a.rule.isSome && a.transport.isFakeIP) || disableCache

/-- An option is set again, or the rules that were passed leave it as the caller has it. -/
def Kept {β γ : Type} (set? : DNSRouteOptions → Option β) (view : β → γ) (x : β) : Prop :=
  (∃ o ∈ a.applied r q rules, set? o ≠ none) ∨ view x = view (overrides set? x (a.passed r q rules))

/-- The rules that were passed before the search began make no difference to the attempt. -/
structure KeepsOptions : Prop where
  strategy : a.Kept r q rules DNSRouteOptions.setStrategy (seenStrategy r) q.options.strategy
  disableCache : a.Kept r q rules DNSRouteOptions.setDisableCache a.seenCache q.options.disableCache
  rewriteTTL : a.Kept r q rules DNSRouteOptions.setRewriteTTL id q.options.rewriteTTL
  clientSubnet : a.Kept r q rules DNSRouteOptions.setClientSubnet id q.options.clientSubnet

lemma fillStrategy_optionsUnder (ro : List DNSRouteOptions) :
    fillStrategy r (optionsUnder a.transport a.rule q.options ro) =
      { q.options with
        strategy := seenStrategy r (overrides DNSRouteOptions.setStrategy q.options.strategy ro)
        disableCache :=
          a.seenCache (overrides DNSRouteOptions.setDisableCache q.options.disableCache ro)
        rewriteTTL := overrides DNSRouteOptions.setRewriteTTL q.options.rewriteTTL ro
        clientSubnet :=
          overrides DNSRouteOptions.setClientSubnet q.options.clientSubnet ro } := by
  unfold optionsUnder
  rw [foldl_legacyOptions]
  cases hr : a.rule.isSome <;>
    simp only [fillStrategy,seenStrategy,seenCache,DNSTransport.cacheOptions,hr] <;>
    split_ifs <;> simp_all

variable {r q rules a}

lemma applied_eq_expected_iff (hst : a.start ≤ a.index rules) :
    fillStrategy r (optionsUnder a.transport a.rule q.options (a.applied r q rules)) =
        a.expectedOptions r q rules ↔ a.KeepsOptions r q rules := by
  have ha : optionsBetween r q rules 0 (a.index rules) ++ ownOptions a.rule =
      a.passed r q rules ++ a.applied r q rules := by
    rw [← optionsBetween_append hst,List.append_assoc]
    rfl
  unfold expectedOptions
  rw [ha,fillStrategy_optionsUnder,fillStrategy_optionsUnder]
  simp only [DNSQueryOptions.mk.injEq,true_and]
  rw [overrides_skip_iff,overrides_skip_iff]
  have hr := overrides_skip_iff DNSRouteOptions.setRewriteTTL id q.options.rewriteTTL
    (a.passed r q rules) (a.applied r q rules)
  have hs := overrides_skip_iff DNSRouteOptions.setClientSubnet id q.options.clientSubnet
    (a.passed r q rules) (a.applied r q rules)
  simp only [id] at hr hs
  rw [hr,hs]
  constructor
  all_goals
    rintro ⟨h1,h2,h3,h4⟩
    exact ⟨h1,h2,h3,h4⟩

end Attempt

lemma Made.options_eq_expected_iff {r : DNSRouter} {q : LegacyQuery} {rules : List ActionRule}
    {am : List Attempt} {a : Attempt} (h : Made r q rules am a) :
    a.options = a.expectedOptions r q rules ↔ a.KeepsOptions r q rules := by
  obtain ⟨s,ho,hs⟩ := h.selects
  rw [ho,hs.options]
  exact Attempt.applied_eq_expected_iff hs.start_le

/-- The attempts of `Exchange` and of `Lookup` in legacy mode are made with the options of all matched
rules before them exactly where each option that the rules before a rejected one change is set again. -/
theorem attempts_keep_options_iff (p : Platform) (r : DNSRouter) (rules : List ActionRule)
    (options : DNSQueryOptions) (metadata : InboundContext) :
    (∀ message question client, let q : LegacyQuery := ⟨options,true,isAddressQuery message,metadata⟩
      let attempts := (legacyExchange r rules message question options metadata client).2
      (∀ a ∈ attempts, a.options = a.expectedOptions r q rules) ↔ ∀ a ∈ attempts, a.KeepsOptions r q rules) ∧
    (∀ client, let q : LegacyQuery := ⟨options,false,true,metadata⟩
      let attempts := (legacyLookup p r rules options metadata client).2
      (∀ a ∈ attempts, a.options = a.expectedOptions r q rules) ↔ ∀ a ∈ attempts, a.KeepsOptions r q rules) := by
  constructor
  · intro message question client q attempts
    have hm : ∀ a ∈ attempts, Made r q rules attempts a :=
      legacyLoop_made client _ _ _ 0 (Nat.zero_le _) (.inl rfl) (by simp)
    exact forall₂_congr fun a ha => (hm a ha).options_eq_expected_iff
  · intro client q attempts
    have hm : ∀ a ∈ attempts, Made r q rules attempts a :=
      legacyLoop_made client _ _ _ 0 (Nat.zero_le _) (.inl rfl) (by simp)
    exact forall₂_congr fun a ha => (hm a ha).options_eq_expected_iff

/-- The cache is disabled for every query; private answers of the first server are wanted, and the
second server is for all others. -/
def splitRules : List ActionRule :=
  [⟨.default ⟨[],none,false⟩ false,.routeOptions { disableCache := true },rfl⟩,
    ⟨.default ⟨[.ipCIDR false (· == .v4 0x0a000001#32)],none,false⟩ false,.route "private" {},rfl⟩,
    ⟨.default ⟨[],none,false⟩ false,.route "public" {},rfl⟩]

def splitRouter : DNSRouter where
  m := itemMatcher bareHost
  transport tag := some ⟨tag,false⟩
  defaultTransport := ⟨"public",false⟩
  defaultDomainStrategy := .asIS

/-- The answer of the first server is rejected, and the second one is asked with the cache enabled. -/
theorem rejected_attempt_drops_options :
    let message : Msg := { question := [⟨"a.test.",typeA,classINET⟩] }
    let q : LegacyQuery := ⟨{},true,isAddressQuery message,{}⟩
    let attempts := (legacyExchange splitRouter splitRules message ⟨"a.test.",typeA,classINET⟩ {} {}
      fun attempts => if attempts.length = 1 then .error .responseRejected else .ok message).2
    attempts.map (fun a => (a.transport.tag,a.options.disableCache)) =
        [("private",true),("public",false)] ∧
      attempts.map (fun a => (a.expectedOptions splitRouter q splitRules).disableCache) = [true,true] := by
  decide +kernel

end SingBox.DNS
