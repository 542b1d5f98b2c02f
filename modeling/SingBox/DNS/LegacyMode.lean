import SingBox.DNS.RouterRules
import SingBox.Rule.Headless

/-! Whether the DNS router runs in legacy mode (`dns/router.go`): the requirements of the rules and of
the rule-sets they refer to, and the check of an update of a rule-set. -/
namespace SingBox.DNS
open Rule

/-- `option.DefaultDNSRule`, with the fields that the mode depends on. -/
structure DefaultDNSOptions where
  ipVersion : ℕ := 0
  queryType : List ℕ := []
  ruleSet : List String := []
  ruleSetIPCIDRMatchSource : Bool := false
  matchResponse : Bool := false
  ipCIDR : List String := []
  ipIsPrivate : Bool := false
  ipAcceptAny : Bool := false
  responseRcode : Option ℕ := none
  responseAnswer : List RR := []
  responseNs : List RR := []
  responseExtra : List RR := []
  ruleSetIPCIDRAcceptEmpty : Bool := false
  action : DNSRuleAction

/-- `option.DNSRule`. -/
inductive DNSOptions
  | default (options : DefaultDNSOptions)
  | logical (rules : List DNSOptions) (action : DNSRuleAction)

/-- `deprecated.Note`, with the fields of its message. -/
structure Note where
  description : String
  deprecatedVersion : String
  scheduledVersion : String
  migrationLink : String

def Note.messageWithLink (n : Note) : String :=
  if n.migrationLink != "" then
    n.description ++ " is deprecated in sing-box " ++ n.deprecatedVersion ++
      " and will be removed in sing-box " ++ n.scheduledVersion ++
      ", checkout documentation for migration: " ++ n.migrationLink
  else
    n.description ++ " is deprecated in sing-box " ++ n.deprecatedVersion ++
      " and will be removed in sing-box " ++ n.scheduledVersion ++ "."

def optionRuleSetIPCIDRAcceptEmpty : Note where
  description := "Legacy `rule_set_ip_cidr_accept_empty` DNS rule item"
  deprecatedVersion := "1.14.0"
  scheduledVersion := "1.16.0"
  migrationLink := "https://sing-box.sagernet.org/migration/#migrate-address-filter-fields-to-response-matching"

def optionLegacyDNSAddressFilter : Note where
  description := "Legacy Address Filter Fields in DNS rules"
  deprecatedVersion := "1.14.0"
  scheduledVersion := "1.16.0"
  migrationLink := "https://sing-box.sagernet.org/migration/#migrate-address-filter-fields-to-response-matching"

def optionLegacyDNSRuleStrategy : Note where
  description := "Legacy `strategy` DNS rule action option"
  deprecatedVersion := "1.14.0"
  scheduledVersion := "1.16.0"
  migrationLink := "https://sing-box.sagernet.org/migration/#migrate-dns-rule-action-strategy-to-rule-items"

def defaultRuleNeedsLegacyDNSModeFromAddressFilter (rule : DefaultDNSOptions) : Bool :=
  rule.ruleSetIPCIDRAcceptEmpty ||
    (!rule.matchResponse && (rule.ipAcceptAny || !rule.ipCIDR.isEmpty || rule.ipIsPrivate))

def hasResponseMatchFields (rule : DefaultDNSOptions) : Bool :=
  rule.responseRcode.isSome || !rule.responseAnswer.isEmpty || !rule.responseNs.isEmpty ||
    !rule.responseExtra.isEmpty

def isEvaluate : DNSRuleAction → Bool
  | .evaluate _ _ => true
  | _ => false

def isRespond : DNSRuleAction → Bool
  | .respond => true
  | _ => false

def dnsRuleActionDisablesLegacyDNSMode : DNSRuleAction → Bool
  | .route _ options => options.disableOptimisticCache
  | .evaluate _ options => options.disableOptimisticCache
  | .routeOptions options => options.disableOptimisticCache
  | _ => false

def dnsRuleActionHasStrategy (action : DNSRuleAction) : Bool := action.strategy != .asIS

def defaultRuleDisablesLegacyDNSMode (rule : DefaultDNSOptions) : Bool :=
  rule.matchResponse || hasResponseMatchFields rule || isEvaluate rule.action || isRespond rule.action ||
    decide (rule.ipVersion > 0) || !rule.queryType.isEmpty

structure DNSRuleModeFlags where
  disabled : Bool := false
  needed : Bool := false
  neededFromStrategy : Bool := false
  deriving DecidableEq

def DNSRuleModeFlags.merge (f other : DNSRuleModeFlags) : DNSRuleModeFlags :=
  ⟨f.disabled || other.disabled,f.needed || other.needed, f.neededFromStrategy || other.neededFromStrategy⟩

def defaultRuleFlags (rule : DefaultDNSOptions) : DNSRuleModeFlags where
  disabled := defaultRuleDisablesLegacyDNSMode rule || dnsRuleActionDisablesLegacyDNSMode rule.action
  needed := defaultRuleNeedsLegacyDNSModeFromAddressFilter rule || dnsRuleActionHasStrategy rule.action
  neededFromStrategy := dnsRuleActionHasStrategy rule.action

def logicalRuleFlags (action : DNSRuleAction) : DNSRuleModeFlags where
  disabled := isEvaluate action || isRespond action || dnsRuleActionDisablesLegacyDNSMode action
  needed := dnsRuleActionHasStrategy action
  neededFromStrategy := dnsRuleActionHasStrategy action

section
-- The metadata of the rule-sets, the one under validation included.
variable (ruleSet : String → Option RuleSetMetadata)

def lookupDNSRuleSetMetadata (tag : String) : Except BuildError RuleSetMetadata :=
  match ruleSet tag with
  | none => .error (.new ("rule-set not found: " ++ tag))
  | some metadata => .ok metadata

def requirementsInRuleSets (matchSource : Bool) :
    List String → DNSRuleModeFlags → Except BuildError DNSRuleModeFlags
  | [], flags => .ok flags
  | tag :: tags, flags =>
      match lookupDNSRuleSetMetadata ruleSet tag with
      | .error err => .error err
      | .ok metadata =>
          requirementsInRuleSets matchSource tags
            { flags with
              disabled := flags.disabled || metadata.containsDNSQueryTypeRule
              needed := flags.needed || (!matchSource && metadata.containsIPCIDRRule) }

def dnsRuleModeRequirementsInDefaultRule (rule : DefaultDNSOptions) :
    Except BuildError DNSRuleModeFlags :=
  requirementsInRuleSets ruleSet rule.ruleSetIPCIDRMatchSource rule.ruleSet (defaultRuleFlags rule)

mutual

def dnsRuleModeRequirementsInRule : DNSOptions → Except BuildError DNSRuleModeFlags
  | .default rule => dnsRuleModeRequirementsInDefaultRule ruleSet rule
  | .logical rules action => requirementsInRules "sub rule[" rules 0 (logicalRuleFlags action)

def requirementsInRules (place : String) :
    List DNSOptions → ℕ → DNSRuleModeFlags → Except BuildError DNSRuleModeFlags
  | [], _, flags => .ok flags
  | rule :: rules, i, flags =>
      match dnsRuleModeRequirementsInRule rule with
      | .error err => .error (.cause err (place ++ toString i ++ "]"))
      | .ok ruleFlags => requirementsInRules place rules (i + 1) (flags.merge ruleFlags)

end

def dnsRuleModeRequirements (rules : List DNSOptions) : Except BuildError DNSRuleModeFlags :=
  requirementsInRules ruleSet "dns rule[" rules 0 {}

def resolveLegacyDNSMode (rules : List DNSOptions) : Except BuildError (Bool × DNSRuleModeFlags) :=
  match dnsRuleModeRequirements ruleSet rules with
  | .error err => .error err
  | .ok flags =>
      if flags.disabled && flags.neededFromStrategy then
        .error (.new optionLegacyDNSRuleStrategy.messageWithLink)
      else if flags.disabled then .ok (false,flags)
      else .ok (flags.needed,flags)

end

def validateLegacyDNSModeDisabledDefaultRule (rule : DefaultDNSOptions) : Except BuildError Bool :=
  if (hasResponseMatchFields rule || !rule.ipCIDR.isEmpty || rule.ipIsPrivate || rule.ipAcceptAny) &&
      !rule.matchResponse then
    .error (.new ("Response Match Fields (ip_cidr, ip_is_private, ip_accept_any, response_rcode, " ++
      "response_answer, response_ns, response_extra) require match_response to be enabled"))
  else if rule.ruleSetIPCIDRAcceptEmpty then
    .error (.new optionRuleSetIPCIDRAcceptEmpty.messageWithLink)
  else .ok (rule.matchResponse || isRespond rule.action)

mutual

def validateLegacyDNSModeDisabledRuleTree : DNSOptions → Except BuildError Bool
  | .default rule => validateLegacyDNSModeDisabledDefaultRule rule
  | .logical rules action => validateSubRules rules 0 (isRespond action)

def validateSubRules : List DNSOptions → ℕ → Bool → Except BuildError Bool
  | [], _, requiresPriorEvaluate => .ok requiresPriorEvaluate
  | rule :: rules, i, requiresPriorEvaluate =>
      match validateLegacyDNSModeDisabledRuleTree rule with
      | .error err => .error (.cause err ("sub rule[" ++ toString i ++ "]"))
      | .ok subRequires => validateSubRules rules (i + 1) (requiresPriorEvaluate || subRequires)

end

def DNSOptions.action : DNSOptions → DNSRuleAction
  | .default rule => rule.action
  | .logical _ action => action

/-- The loop of `validateLegacyDNSModeDisabledRules`: the error, if any. -/
def validateDisabledRules : List DNSOptions → ℕ → Bool → Option BuildError
  | [], _, _ => none
  | rule :: rules, i, seenEvaluate =>
      match validateLegacyDNSModeDisabledRuleTree rule with
      | .error err => some (.cause err ("validate dns rule[" ++ toString i ++ "]"))
      | .ok requiresPriorEvaluate =>
          if requiresPriorEvaluate && !seenEvaluate then
            some (.new ("dns rule[" ++ toString i ++
              "]: response-based matching requires a preceding evaluate action"))
          else validateDisabledRules rules (i + 1) (seenEvaluate || isEvaluate rule.action)

def validateLegacyDNSModeDisabledRules (rules : List DNSOptions) : Option BuildError :=
  validateDisabledRules rules 0 false

/-- The state of the DNS router that the check of an update reads. -/
structure ModeRouter where
  rawRules : List DNSOptions
  started : Bool
  closing : Bool
  legacyDNSMode : Bool

/-- `ValidateRuleSetMetadataUpdate`: the error, if any. -/
def ModeRouter.validateRuleSetMetadataUpdate (r : ModeRouter)
    (ruleSet : String → Option RuleSetMetadata) (tag : String) (metadata : RuleSetMetadata) :
    Option BuildError :=
  if r.rawRules.isEmpty then none
  else if r.closing then none
  else
    match resolveLegacyDNSMode (Function.update ruleSet tag (some metadata)) r.rawRules with
    | .error err => some err
    | .ok (candidateLegacyDNSMode,flags) =>
        if !r.started then
          if !candidateLegacyDNSMode then validateLegacyDNSModeDisabledRules r.rawRules else none
        else if r.legacyDNSMode then
          if !candidateLegacyDNSMode && flags.disabled then
            some ((validateLegacyDNSModeDisabledRules r.rawRules).getD
              (.new optionLegacyDNSAddressFilter.messageWithLink))
          else none
        else if candidateLegacyDNSMode then some (.new optionLegacyDNSAddressFilter.messageWithLink)
        else none

/-! The requirements as one list: what each rule requires by itself, and each reference to a
rule-set. -/

inductive Requirement
  | own (flags : DNSRuleModeFlags)
  | ruleSet (tag : String) (matchSource : Bool)

mutual

def DNSOptions.collect : DNSOptions → List Requirement
  | .default rule =>
      .own (defaultRuleFlags rule) :: rule.ruleSet.map (.ruleSet · rule.ruleSetIPCIDRMatchSource)
  | .logical rules action => .own (logicalRuleFlags action) :: collectAll rules

def collectAll : List DNSOptions → List Requirement
  | [] => []
  | rule :: rules => rule.collect ++ collectAll rules

end

def Requirement.flags (ruleSet : String → Option RuleSetMetadata) : Requirement → Option DNSRuleModeFlags
  | .own flags => some flags
  | .ruleSet tag matchSource => (ruleSet tag).map fun metadata =>
      ⟨metadata.containsDNSQueryTypeRule,!matchSource && metadata.containsIPCIDRRule,false⟩

def mergeAll (ruleSet : String → Option RuleSetMetadata) :
    List Requirement → DNSRuleModeFlags → Option DNSRuleModeFlags
  | [], flags => some flags
  | requirement :: requirements, flags =>
      (requirement.flags ruleSet).bind fun more => mergeAll ruleSet requirements (flags.merge more)

section
variable {rs : String → Option RuleSetMetadata} (f : DNSRuleModeFlags) (rq m : List Requirement)
  (fl : DNSRuleModeFlags)

@[simp] lemma DNSRuleModeFlags.empty_merge : DNSRuleModeFlags.merge {} f = f := by
  simp [DNSRuleModeFlags.merge]

lemma DNSRuleModeFlags.merge_assoc (g h : DNSRuleModeFlags) : (f.merge g).merge h = f.merge (g.merge h) := by
  simp [DNSRuleModeFlags.merge,Bool.or_assoc]

lemma mergeAll_append : mergeAll rs (rq ++ m) fl = (mergeAll rs rq fl).bind (mergeAll rs m) := by
  induction rq generalizing fl with
  | nil => rfl
  | cons r rq ih =>
    cases hf : r.flags rs with
    | none => simp [mergeAll,hf]
    | some => simp [mergeAll,hf,ih]

lemma mergeAll_merge (m : DNSRuleModeFlags) : mergeAll rs rq (fl.merge m) = (mergeAll rs rq m).map fl.merge := by
  induction rq generalizing m with
  | nil => rfl
  | cons r rq ih =>
    cases hf : r.flags rs with
    | none => simp [mergeAll,hf]
    | some => simp [mergeAll,hf,DNSRuleModeFlags.merge_assoc,ih]

lemma requirementsInRuleSets_toOption (ms : Bool) (t : List String) (fl : DNSRuleModeFlags) :
    (requirementsInRuleSets rs ms t fl).toOption = mergeAll rs (t.map (.ruleSet · ms)) fl := by
  induction t generalizing fl with
  | nil => rfl
  | cons tg t ih =>
    cases hm : rs tg with
    | none =>
      simp [requirementsInRuleSets,lookupDNSRuleSetMetadata,mergeAll,Requirement.flags,hm, Except.toOption]
    | some =>
      simp [requirementsInRuleSets,lookupDNSRuleSetMetadata,mergeAll,Requirement.flags,hm,ih, DNSRuleModeFlags.merge]

end

lemma DNSOptions.induct {motive : DNSOptions → Prop} (default : ∀ r, motive (.default r))
    (logical : ∀ ru a, (∀ c ∈ ru, motive c) → motive (.logical ru a)) (r : DNSOptions) : motive r := by
  refine @DNSOptions.rec motive (fun ru => ∀ c ∈ ru, motive c) default logical ?_ ?_ r
  · intro c h
    cases h
  · intro c ru ic ir c' h
    cases h with
    | head => exact ic
    | tail _ h => exact ir c' h

variable {rs : String → Option RuleSetMetadata} {rl : List DNSOptions} {fl : DNSRuleModeFlags}
  {rq : List Requirement}

lemma requirementsInRules_toOption (p : String) (hrl : ∀ r ∈ rl, (dnsRuleModeRequirementsInRule rs r).toOption =
      mergeAll rs r.collect {}) (i : ℕ) (fl : DNSRuleModeFlags) :
    (requirementsInRules rs p rl i fl).toOption = mergeAll rs (collectAll rl) fl := by
  induction rl generalizing i fl with
  | nil => simp [requirementsInRules,collectAll,mergeAll,Except.toOption]
  | cons r rl ih =>
    have hru := hrl r (by simp)
    have hf : mergeAll rs r.collect fl = (mergeAll rs r.collect {}).map fl.merge := by
      have h : mergeAll rs r.collect (fl.merge {}) = _ := mergeAll_merge r.collect fl {}
      simpa [DNSRuleModeFlags.merge] using h
    rw [collectAll,mergeAll_append,hf,← hru,requirementsInRules]
    cases hr : dnsRuleModeRequirementsInRule rs r with
    | error => simp [Except.toOption]
    | ok rf =>
      have hn := ih (fun l hl => hrl l (by simp [hl])) (i + 1) (fl.merge rf)
      simpa [Except.toOption] using hn

lemma requirementsInRule_toOption (r : DNSOptions) :
    (dnsRuleModeRequirementsInRule rs r).toOption = mergeAll rs r.collect {} := by
  induction r using DNSOptions.induct with
  | default =>
    rw [dnsRuleModeRequirementsInRule,dnsRuleModeRequirementsInDefaultRule,
      requirementsInRuleSets_toOption,DNSOptions.collect]
    simp [mergeAll,Requirement.flags]
  | logical rl a ih =>
    rw [dnsRuleModeRequirementsInRule,requirementsInRules_toOption _ ih,DNSOptions.collect]
    simp [mergeAll,Requirement.flags]

lemma dnsRuleModeRequirements_toOption (rl : List DNSOptions) :
    (dnsRuleModeRequirements rs rl).toOption = mergeAll rs (collectAll rl) {} :=
  requirementsInRules_toOption _ (fun r _ => requirementsInRule_toOption r) 0 {}

lemma mergeAll_flag (gt : DNSRuleModeFlags → Bool)
    (hg : ∀ f g : DNSRuleModeFlags, gt (f.merge g) = (gt f || gt g)) {s : DNSRuleModeFlags} (h : mergeAll rs rq s = some fl) :
    gt fl = true ↔ gt s = true ∨ ∃ r ∈ rq, ∃ f, r.flags rs = some f ∧ gt f = true := by
  induction rq generalizing s with
  | nil =>
    cases h
    simp
  | cons r rq ih =>
    obtain ⟨f,hf,hr⟩ := Option.bind_eq_some_iff.mp h
    rw [ih hr,hg,Bool.or_eq_true]
    simp [hf,or_assoc]

lemma mergeAll_congr {ruleSet' : String → Option RuleSetMetadata} (h : ∀ r ∈ rq, r.flags rs = r.flags ruleSet')
    (fl : DNSRuleModeFlags) : mergeAll rs rq fl = mergeAll ruleSet' rq fl := by
  induction rq generalizing fl with
  | nil => rfl
  | cons r rq ih =>
    rw [mergeAll,mergeAll,h r (by simp)]
    congr 1
    funext more
    exact ih (fun l hl => h l (by simp [hl])) (fl.merge more)

lemma requirements_ok_iff : dnsRuleModeRequirements rs rl = .ok fl ↔ mergeAll rs (collectAll rl) {} = some fl := by
  rw [← dnsRuleModeRequirements_toOption]
  cases dnsRuleModeRequirements rs rl <;> simp [Except.toOption]

/-- The two results of `resolveLegacyDNSMode`. -/
lemma resolveLegacyDNSMode_ok {m : Bool} (h : resolveLegacyDNSMode rs rl = .ok (m,fl)) :
    mergeAll rs (collectAll rl) {} = some fl ∧ m = (!fl.disabled && fl.needed) ∧
      ¬ (fl.disabled = true ∧ fl.neededFromStrategy = true) := by
  rw [← requirements_ok_iff]
  unfold resolveLegacyDNSMode at h
  cases hr : dnsRuleModeRequirements rs rl with
  | error => simp [hr] at h
  | ok =>
    simp only [hr] at h
    split_ifs at h with hs hd <;> cases h <;> simp_all

lemma resolveLegacyDNSMode_true_iff : resolveLegacyDNSMode rs rl = .ok (true,fl) ↔
      mergeAll rs (collectAll rl) {} = some fl ∧ fl.disabled = false ∧ fl.needed = true := by
  rw [← requirements_ok_iff]
  unfold resolveLegacyDNSMode
  cases hr : dnsRuleModeRequirements rs rl with
  | error => simp
  | ok fn =>
    cases hd : fn.disabled <;> cases hs : fn.neededFromStrategy <;> cases hn : fn.needed <;>
      simp [hd,hs,hn] <;> rintro rfl <;> simp_all

lemma own_mem_collectAll {r : DNSOptions} (h : r ∈ rl) : ∃ f : DNSRuleModeFlags, .own f ∈ collectAll rl ∧
      f.neededFromStrategy = dnsRuleActionHasStrategy r.action ∧ (f.neededFromStrategy = true → f.needed = true) := by
  induction rl with
  | nil => simp at h
  | cons fr rl ih =>
    rw [collectAll]
    obtain rfl | h := List.mem_cons.mp h
    · cases r with
      | default r =>
        refine ⟨defaultRuleFlags r,by simp [DNSOptions.collect],rfl,?_⟩
        intro hs
        have hs : dnsRuleActionHasStrategy r.action = true := hs
        simp [defaultRuleFlags,hs]
      | logical rl a => exact ⟨logicalRuleFlags a,by simp [DNSOptions.collect],rfl,id⟩
    · obtain ⟨f,hf,hs⟩ := ih h
      exact ⟨f,List.mem_append_right _ hf,hs⟩

lemma strategy_of_nonLegacy (h : resolveLegacyDNSMode rs rl = .ok (false,fl)) {r : DNSOptions}
    (hr : r ∈ rl) : r.action.strategy = .asIS := by
  obtain ⟨hm,hmd,hsr⟩ := resolveLegacyDNSMode_ok h
  obtain ⟨f,hmm,hf,hn⟩ := own_mem_collectAll hr
  by_contra hst
  have hs : f.neededFromStrategy = true := by
    simpa [hf,dnsRuleActionHasStrategy] using hst
  have hfs : fl.neededFromStrategy = true :=
    (mergeAll_flag DNSRuleModeFlags.neededFromStrategy (fun _ _ => rfl) hm).mpr (.inr ⟨_,hmm,f,rfl,hs⟩)
  have hfn : fl.needed = true :=
    (mergeAll_flag DNSRuleModeFlags.needed (fun _ _ => rfl) hm).mpr (.inr ⟨_,hmm,f,rfl,hn hs⟩)
  have hd : fl.disabled = true := by
    simpa [hfn] using hmd
  exact hsr ⟨hd,hfs⟩

end SingBox.DNS
