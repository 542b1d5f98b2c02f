import SingBox.DNS.LegacyMode

/-! `exchangeWithRules` (`dns/router.go`): the loop over the rules of the current mode, and its result
read off the rules that match. -/
namespace SingBox.DNS
open Adapter Rule List

/-- The arguments of `exchangeWithRules`. Its callers have checked the number of questions. -/
structure RuleQuery where
  message : Msg
  question : Question
  single : message.question = [question]
  options : DNSQueryOptions
  allowFakeIP : Bool
  metadata : InboundContext

/-- `exchangeWithRulesResult`. -/
structure ExchangeWithRulesResult where
  response : Option Msg := none
  transport : Option DNSTransport := none
  rejectAction : Option (Route.RejectMethod × Bool) := none
  err : Option RouterError := none

def exchangeResult (transport : DNSTransport) : Except ClientError Msg → ExchangeWithRulesResult
  | .ok response => { response := some response, transport := some transport }
  | .error err => { transport := some transport, err := some (.client err) }

structure RuleLoop where
  effectiveOptions : DNSQueryOptions
  evaluated : Option (Msg × DNSTransport) := none
  calls : List ClientCall := []

inductive Round
  | next (s : RuleLoop)
  | done (result : ExchangeWithRulesResult) (calls : List ClientCall)

def RuleQuery.metadataFor (q : RuleQuery) (evaluated : Option (Msg × DNSTransport)) : InboundContext :=
  { q.metadata.resetRuleCache with
    dnsResponse := evaluated.map Prod.fst
    destinationAddressMatchFromResponse := false }

section
-- The answer of the client may depend on all that it was asked before.
variable (r : DNSRouter) (client : List ClientCall → Except ClientError Msg) (q : RuleQuery)

def lastExchange (calls : List ClientCall) (transport : DNSTransport) (options : DNSQueryOptions) :
    ExchangeWithRulesResult × List ClientCall :=
  let calls := calls ++ [⟨transport,fillStrategy r options⟩]
  (exchangeResult transport (client calls), calls)

def actionRound (s : RuleLoop) : DNSRuleAction → Round
  | .routeOptions options =>
      .next { s with effectiveOptions := applyDNSRouteOptions s.effectiveOptions options }
  | .evaluate server options =>
      match r.transport server with
      | none => .next { s with evaluated := none }
      | some transport =>
          let queryOptions := applyDNSRouteOptions s.effectiveOptions options
          let calls := s.calls ++ [⟨transport,fillStrategy r queryOptions⟩]
          match client calls with
          | .error _ => .next { s with evaluated := none, calls := calls }
          | .ok response => .next { s with evaluated := some (response,transport), calls := calls }
  | .respond =>
      match s.evaluated with
      | none => .done { err := some .dnsRespondMissingResponse } s.calls
      | some (response,transport) =>
          .done { response := some response, transport := some transport } s.calls
  | .route server options =>
      match resolveDNSRoute r server options q.allowFakeIP s.effectiveOptions with
      | .missing => .next s
      | .skipped _ => .next s
      | .resolved transport queryOptions =>
          let last := lastExchange r client s.calls transport queryOptions
          .done last.1 last.2
  | .reject .default noDrop =>
      .done { response := some (refusedResponse q.message q.question),
              rejectAction := some (.default,noDrop) } s.calls
  | .reject .drop noDrop => .done { rejectAction := some (.drop,noDrop), err := some .drop } s.calls
  | .reject .reply _ => .next s
  | .predefined action => .done { response := some (action.response q.message q.question) } s.calls

def matchesRule (evaluated : Option (Msg × DNSTransport)) (rule : ActionRule) : Bool :=
  rule.rule.match r.m (q.metadataFor evaluated)

def ruleRound (s : RuleLoop) (rule : ActionRule) : Round :=
  if matchesRule r q s.evaluated rule then actionRound r client q s rule.action else .next s

def exchangeLoop : List ActionRule → RuleLoop → ExchangeWithRulesResult × List ClientCall
  | [], s => lastExchange r client s.calls r.defaultTransport s.effectiveOptions
  | rule :: rules, s =>
      match ruleRound r client q s rule with
      | .next s => exchangeLoop rules s
      | .done result calls => (result, calls)

/-- `exchangeWithRules`, with the calls it makes. -/
def exchangeWithRules (rules : List ActionRule) : ExchangeWithRulesResult × List ClientCall :=
  exchangeLoop r client q rules ⟨q.options,none,[]⟩

end

/-- The rules outside the legacy mode. A strategy in an action forces that mode, so none is set here. -/
structure NonLegacyRules where
  rules : List ActionRule
  strategies : ∀ rule ∈ rules, rule.action.strategy = .asIS

def NonLegacyRules.ofOptions {ruleSet : String → Option RuleSetMetadata} {options : List DNSOptions}
    {flags : DNSRuleModeFlags} (hmode : resolveLegacyDNSMode ruleSet options = .ok (false,flags))
    (rules : List ActionRule)
    (hbuilt : rules.map ActionRule.action = options.map DNSOptions.action) : NonLegacyRules where
  rules := rules
  strategies := by
    intro rule hrule
    have hmem : rule.action ∈ options.map DNSOptions.action := hbuilt ▸ List.mem_map_of_mem hrule
    obtain ⟨source,hsource,haction⟩ := List.mem_map.mp hmem
    rw [← haction]
    exact strategy_of_nonLegacy hmode hsource

def withRouteOptions (options : DNSQueryOptions) (routeOptions : DNSRouteOptions) : DNSQueryOptions :=
  { applyDNSRouteOptions options routeOptions with
    strategy := if routeOptions.strategy = .asIS then options.strategy else routeOptions.strategy }

lemma withRouteOptions_of_asIS (op : DNSQueryOptions) {ro : DNSRouteOptions} (h : ro.strategy = .asIS) :
    withRouteOptions op ro = applyDNSRouteOptions op ro := by
  simp [withRouteOptions,applyDNSRouteOptions,h]

/-! The result in terms of the rules that fire. Nothing below runs the loop: given the rules that
fire, options, calls and responses are read off them by position. -/

section
variable (r : DNSRouter) (client c : List ClientCall → Except ClientError Msg) (q : RuleQuery)
  (rules : List ActionRule) (fired : ℕ → Bool)

def firedAction (i : ℕ) : Option DNSRuleAction :=
  if fired i then rules[i]?.map ActionRule.action else none

/-- The options of the `i`th rule, where it fires and is a `route-options` rule. -/
def routeOptionsAt (i : ℕ) : Option DNSRouteOptions :=
  match firedAction rules fired i with
  | some (.routeOptions options) => some options
  | _ => none

/-- The options of the caller, folded with the `route-options` rules that fire before the `i`th rule. -/
def optionsBefore (i : ℕ) : DNSQueryOptions :=
  ((List.range i).filterMap (routeOptionsAt rules fired)).foldl withRouteOptions q.options

/-- The query of the `i`th rule, where it fires and is an `evaluate` rule of a known server. -/
def evaluateCall (i : ℕ) : Option ClientCall :=
  match firedAction rules fired i with
  | some (.evaluate server options) =>
      (r.transport server).map fun transport =>
        ⟨transport,fillStrategy r (withRouteOptions (optionsBefore q rules fired i) options)⟩
  | _ => none

def callsBefore (i : ℕ) : List ClientCall := (List.range i).filterMap (evaluateCall r q rules fired)

/-- What an `evaluate` rule that fires leaves for the rules after it: nothing, where it failed. -/
def evaluation (i : ℕ) : Option (Option (Msg × DNSTransport)) :=
  match firedAction rules fired i with
  | some (.evaluate _ _) =>
      some ((evaluateCall r q rules fired i).bind fun call =>
        (client (callsBefore r q rules fired i ++ [call])).toOption.map fun response =>
          (response,call.transport))
  | _ => none

/-- The response of the last `evaluate` rule that fires before the `i`th rule. -/
def lastEvaluated (i : ℕ) : Option (Msg × DNSTransport) :=
  ((List.range i).filterMap (evaluation r client q rules fired)).getLast?.join

/-- The actions that end the loop. -/
def FinalAction : DNSRuleAction → Prop
  | .route server _ =>
      ∃ transport, r.transport server = some transport ∧ (transport.isFakeIP → q.allowFakeIP)
  | .respond => True
  | .reject _ _ => True
  | .predefined _ => True
  | _ => False

/-- What the `i`th rule returns as the last one. -/
def FinalResult (i : ℕ) (result : ExchangeWithRulesResult × List ClientCall) : DNSRuleAction → Prop
  | .route server options =>
      ∃ transport, r.transport server = some transport ∧
        result = lastExchange r client (callsBefore r q rules fired i) transport
          (transport.cacheOptions (withRouteOptions (optionsBefore q rules fired i) options))
  | .respond =>
      result.2 = callsBefore r q rules fired i ∧
        (∀ response transport, lastEvaluated r client q rules fired i = some (response,transport) →
          result.1 = { response := some response, transport := some transport }) ∧
        (lastEvaluated r client q rules fired i = none →
          result.1 = { err := some .dnsRespondMissingResponse })
  | .reject method noDrop =>
      result.2 = callsBefore r q rules fired i ∧
        (method = .default → result.1 =
          { response := some (refusedResponse q.message q.question),
            rejectAction := some (.default,noDrop) }) ∧
        (method = .drop → result.1 = { rejectAction := some (.drop,noDrop), err := some .drop })
  | .predefined action =>
      result = ({ response := some (action.response q.message q.question) },
        callsBefore r q rules fired i)
  | _ => False

variable (i : ℕ)

lemma optionsBefore_succ : optionsBefore q rules fired (i + 1) =
      (routeOptionsAt rules fired i).elim (optionsBefore q rules fired i)
        (withRouteOptions (optionsBefore q rules fired i)) := by
  unfold optionsBefore
  rw [range_succ,filterMap_append,foldl_append]
  cases h : routeOptionsAt rules fired i <;> simp [h]

lemma callsBefore_succ : callsBefore r q rules fired (i + 1) =
      callsBefore r q rules fired i ++ (evaluateCall r q rules fired i).toList := by
  unfold callsBefore
  rw [range_succ,filterMap_append]
  cases h : evaluateCall r q rules fired i <;> simp [h]

lemma lastEvaluated_succ : lastEvaluated r c q rules fired (i + 1) =
      (evaluation r c q rules fired i).getD (lastEvaluated r c q rules fired i) := by
  unfold lastEvaluated
  rw [range_succ,filterMap_append]
  cases h : evaluation r c q rules fired i <;> simp [h]

/-- What is known before the `i`th rule. -/
def loopBefore (i : ℕ) : RuleLoop :=
  ⟨optionsBefore q rules fired i,lastEvaluated r client q rules fired i,callsBefore r q rules fired i⟩

lemma loopBefore_succ : loopBefore r c q rules fired (i + 1) =
      ⟨(routeOptionsAt rules fired i).elim (optionsBefore q rules fired i)
          (withRouteOptions (optionsBefore q rules fired i)),
        (evaluation r c q rules fired i).getD (lastEvaluated r c q rules fired i),
        callsBefore r q rules fired i ++ (evaluateCall r q rules fired i).toList⟩ := by
  unfold loopBefore
  rw [optionsBefore_succ,lastEvaluated_succ,callsBefore_succ]

variable {r client c q rules fired} {i : ℕ}

/-- Only `route-options` and `evaluate` rules leave something for the rules after them. -/
lemma loopBefore_succ_of_quiet (ho : ∀ op, firedAction rules fired i ≠ some (.routeOptions op))
    (hev : ∀ s op, firedAction rules fired i ≠ some (.evaluate s op)) :
    loopBefore r c q rules fired (i + 1) = loopBefore r c q rules fired i := by
  have hr : routeOptionsAt rules fired i = none := by
    unfold routeOptionsAt
    split
    · rename_i op h
      exact absurd h (ho op)
    · rfl
  have hc : evaluateCall r q rules fired i = none := by
    unfold evaluateCall
    split
    · rename_i s op h
      exact absurd h (hev s op)
    · rfl
  have he : evaluation r c q rules fired i = none := by
    unfold evaluation
    split
    · rename_i s op h
      exact absurd h (hev s op)
    · rfl
  rw [loopBefore_succ,hr,hc,he]
  simp [loopBefore]

variable {os : DNSRouteOptions}

lemma loopBefore_succ_routeOptions
    (h : firedAction rules fired i = some (.routeOptions os)) (hs : os.strategy = .asIS) :
    actionRound r c q (loopBefore r c q rules fired i) (.routeOptions os) =
      .next (loopBefore r c q rules fired (i + 1)) := by
  rw [loopBefore_succ]
  simp [actionRound,loopBefore,routeOptionsAt,evaluateCall,evaluation,h,withRouteOptions_of_asIS _ hs]

lemma loopBefore_succ_evaluate {s : String}
    (h : firedAction rules fired i = some (.evaluate s os)) (hs : os.strategy = .asIS) :
    actionRound r c q (loopBefore r c q rules fired i) (.evaluate s os) =
      .next (loopBefore r c q rules fired (i + 1)) := by
  rw [loopBefore_succ]
  have hr : routeOptionsAt rules fired i = none := by simp [routeOptionsAt,h]
  cases ht : r.transport s with
  | none => simp [actionRound,loopBefore,hr,evaluateCall,evaluation,h,ht]
  | some t =>
    have hc : evaluateCall r q rules fired i = some ⟨t,fillStrategy r
          (applyDNSRouteOptions (optionsBefore q rules fired i) os)⟩ := by
      simp [evaluateCall,h,ht,withRouteOptions_of_asIS _ hs]
    -- The answer to this call decides what the rules after it see.
    cases ha : c (callsBefore r q rules fired i ++ [⟨t,fillStrategy r
        (applyDNSRouteOptions (optionsBefore q rules fired i) os)⟩]) with
    | error err | ok response => simp [actionRound,loopBefore,hr,hc,evaluation,h,ht,ha,Except.toOption]

/-- `respond` returns the last evaluated response, or the error that there is none. -/
lemma actionRound_respond (r : DNSRouter) (c : List ClientCall → Except ClientError Msg) (q : RuleQuery)
    (rules : List ActionRule) (fired : ℕ → Bool) (i : ℕ) : ∃ rl,
    actionRound r c q (loopBefore r c q rules fired i) .respond = .done rl (callsBefore r q rules fired i) ∧
    FinalResult r c q rules fired i (rl,callsBefore r q rules fired i) .respond := by
  cases he : lastEvaluated r c q rules fired i with
  | none =>
    refine ⟨{ err := some .dnsRespondMissingResponse },?_,?_⟩
    · simp [actionRound,loopBefore,he]
    · simp [FinalResult,he]
  | some e =>
    obtain ⟨rs,t⟩ := e
    refine ⟨{ response := some rs, transport := some t },?_,?_⟩
    · simp [actionRound,loopBefore,he]
    · simp only [FinalResult,he]
      refine ⟨trivial,?_,by simp⟩
      rintro _ _ ⟨⟩
      rfl

lemma actionRound_cases {rule : ActionRule} (h : firedAction rules fired i = some rule.action)
    (hs : rule.action.strategy = .asIS) : (∃ rs cs, actionRound r c q (loopBefore r c q rules fired i) rule.action =
        .done rs cs ∧ FinalAction r q rule.action ∧ FinalResult r c q rules fired i (rs,cs) rule.action ∧
        loopBefore r c q rules fired (i + 1) = loopBefore r c q rules fired i) ∨
      actionRound r c q (loopBefore r c q rules fired i) rule.action =
        .next (loopBefore r c q rules fired (i + 1)) ∧ ¬ FinalAction r q rule.action := by
  obtain ⟨rule,action,hv⟩ := rule
  -- the other actions change nothing that the next round reads
  have hqt : (∀ os, action ≠ .routeOptions os) → (∀ s os, action ≠ .evaluate s os) →
      loopBefore r c q rules fired (i + 1) = loopBefore r c q rules fired i :=
    fun hrt he => loopBefore_succ_of_quiet (by simp [h,hrt]) (by simp [h,he])
  cases action with
  | routeOptions => exact .inr ⟨loopBefore_succ_routeOptions h hs,by simp [FinalAction]⟩
  | evaluate => exact .inr ⟨loopBefore_succ_evaluate h hs,by simp [FinalAction]⟩
  | respond =>
    have hq := hqt (by simp) (by simp)
    obtain ⟨rs,hrn,hrs⟩ := actionRound_respond r c q rules fired i
    exact .inl ⟨rs,_,hrn,trivial,hrs,hq⟩
  | route s os =>
    have hq := hqt (by simp) (by simp)
    have hw := withRouteOptions_of_asIS (optionsBefore q rules fired i) hs
    by_cases hf : FinalAction r q (.route s os)
    · left
      obtain ⟨t,ht,ha⟩ := hf
      have hr := resolveDNSRoute_resolved ht ha os (optionsBefore q rules fired i)
      refine ⟨_,_,?_,⟨t,ht,ha⟩,⟨t,ht,rfl⟩,hq⟩
      simp only [actionRound,loopBefore,hr,hw]
      rfl
    · -- skipped: its server is missing, or a fakeip server that is not allowed
      rw [hq]
      refine .inr ⟨?_,hf⟩
      cases ht : r.transport s with
      | none => simp [actionRound,resolveDNSRoute,ht]
      | some t =>
        have hsk : t.isFakeIP = true ∧ q.allowFakeIP = false := by
          simpa [FinalAction,ht] using hf
        simp [actionRound,resolveDNSRoute,ht,hsk]
  | reject m =>
    have hq := hqt (by simp) (by simp)
    left
    cases m with
    | default | drop => exact ⟨_,_,rfl,trivial,by simp [FinalResult,loopBefore],hq⟩
    | reply => exact absurd hv (by simp [validateDNSRuleAction])
  | predefined =>
    have hq := hqt (by simp) (by simp)
    exact .inl ⟨_,_,rfl,trivial,rfl,hq⟩

end

section
variable (r : DNSRouter) (client c : List ClientCall → Except ClientError Msg) (q : RuleQuery)
  (rules : List ActionRule) (fired : ℕ → Bool)

/-- A rule fires where it matches with the last evaluated response before it. -/
def FiresAs : Prop :=
  ∀ i rule, rules[i]? = some rule →
    fired i = rule.rule.match r.m (q.metadataFor (lastEvaluated r client q rules fired i))

def NoFinalBefore (k : ℕ) : Prop :=
  ∀ j < k, ∀ action, firedAction rules fired j = some action → ¬ FinalAction r q action

/-- The result is that of the first final rule that fires, or of the default transport. -/
def Concludes (result : ExchangeWithRulesResult × List ClientCall) : Prop :=
  (∃ k action, firedAction rules fired k = some action ∧ FinalAction r q action ∧
    NoFinalBefore r q rules fired k ∧ FinalResult r client q rules fired k result action) ∨
  NoFinalBefore r q rules fired rules.length ∧
    result = lastExchange r client (callsBefore r q rules fired rules.length) r.defaultTransport
      (optionsBefore q rules fired rules.length)

variable {r client c q rules fired}

/-- One round at the `i`th rule. -/
lemma ruleRound_cases {i : ℕ} {rule : ActionRule} (hrl : rules[i]? = some rule)
    (hfr : fired i = matchesRule r q (lastEvaluated r c q rules fired i) rule)
    (hs : rule.action.strategy = .asIS) : (∃ rs cs, ruleRound r c q (loopBefore r c q rules fired i) rule =
        .done rs cs ∧ firedAction rules fired i = some rule.action ∧ FinalAction r q rule.action ∧
        FinalResult r c q rules fired i (rs,cs) rule.action ∧
        loopBefore r c q rules fired (i + 1) = loopBefore r c q rules fired i) ∨
      ruleRound r c q (loopBefore r c q rules fired i) rule = .next (loopBefore r c q rules fired (i + 1)) ∧
      ∀ action, firedAction rules fired i = some action → ¬ FinalAction r q action := by
  have hac : firedAction rules fired i = if fired i then some rule.action else none := by
    simp [firedAction,hrl]
  have hr : ruleRound r c q (loopBefore r c q rules fired i) rule =
      if fired i then actionRound r c q (loopBefore r c q rules fired i) rule.action
      else .next (loopBefore r c q rules fired i) := by
    rw [hfr]
    rfl
  rw [hr]
  cases hf : fired i with
  | false =>
    rw [hf] at hac
    have hq : loopBefore r c q rules fired (i + 1) = loopBefore r c q rules fired i :=
      loopBefore_succ_of_quiet (by simp [hac]) (by simp [hac])
    right
    rw [hq]
    simp [hac]
  | true =>
    rw [hf] at hac
    obtain ⟨rs,cs,hd,hfn,hrs,hq⟩ | ⟨hn,hfn⟩ := actionRound_cases hac hs
    · exact .inl ⟨rs,cs,hd,hac,hfn,hrs,hq⟩
    · refine .inr ⟨hn,?_⟩
      intro action ha
      rw [hac] at ha
      cases ha
      exact hfn

/-- The loop from the `i`th rule on. -/
lemma exchangeLoop_concludes (hs : ∀ rule ∈ rules, rule.action.strategy = .asIS)
    (hfr : FiresAs r c q rules fired) {i : ℕ} (hi : i ≤ rules.length)
    (hb : NoFinalBefore r q rules fired i) : Concludes r c q rules fired
      (exchangeLoop r c q (rules.drop i) (loopBefore r c q rules fired i)) := by
  -- from the last rule down to the first
  induction hi using Nat.decreasingInduction with
  | self =>
    right
    refine ⟨hb,?_⟩
    simp [exchangeLoop,loopBefore]
  | of_succ i hlt ih =>
    have hrl : rules[i]? = some rules[i] := getElem?_eq_getElem hlt
    have hd : rules.drop i = rules[i] :: rules.drop (i + 1) := drop_eq_getElem_cons hlt
    rw [hd]
    obtain ⟨rs,cs,hr,hac,hf,hrs,-⟩ | ⟨hr,hc⟩ := ruleRound_cases hrl (hfr i _ hrl) (hs _ (getElem_mem hlt))
    · left
      refine ⟨i,rules[i].action,hac,hf,hb,?_⟩
      simp only [exchangeLoop,hr]
      exact hrs
    · simp only [exchangeLoop,hr]
      apply ih
      intro j hj action ha
      by_cases hji : j = i
      · subst hji
        exact hc action ha
      · exact hb j (by omega) action ha

end

/-! The rules that fire exist: they are found one after the other. -/

section
variable (r : DNSRouter) (client c : List ClientCall → Except ClientError Msg) (q : RuleQuery)
  (rules : List ActionRule)

def loopAfter (s : RuleLoop) (rule : ActionRule) : RuleLoop :=
  match ruleRound r client q s rule with
  | .next s => s
  | .done _ _ => s

def reached : ℕ → RuleLoop
  | 0 => ⟨q.options,none,[]⟩
  | i + 1 => rules[i]?.elim (reached i) (loopAfter r client q (reached i))

def reachedFired (i : ℕ) : Bool := rules[i]?.any (matchesRule r q (reached r client q rules i).evaluated)

variable (hs : ∀ rule ∈ rules, rule.action.strategy = .asIS)
include hs

lemma reached_eq (i : ℕ) : reached r c q rules i = loopBefore r c q rules (reachedFired r c q rules) i := by
  induction i with
  | zero => rfl
  | succ i ih =>
    cases hrl : rules[i]? with
    | none =>
      have ha : firedAction rules (reachedFired r c q rules) i = none := by
        simp [firedAction,hrl]
      rw [loopBefore_succ_of_quiet (by simp [ha]) (by simp [ha])]
      simpa [reached,hrl] using ih
    | some rule =>
      have hf : reachedFired r c q rules i = matchesRule r q
          (lastEvaluated r c q rules (reachedFired r c q rules) i) rule := by
        simp [reachedFired,hrl,ih,loopBefore]
      simp only [reached,hrl,Option.elim_some,loopAfter,ih]
      obtain ⟨rs,cs,hr,-,-,-,hq⟩ | ⟨hr,-⟩ := ruleRound_cases hrl hf (hs _ (mem_of_getElem? hrl))
      · rw [hr,hq]
      · rw [hr]

lemma reachedFired_firesAs : FiresAs r c q rules (reachedFired r c q rules) := by
  intro i rule hrl
  have hr := reached_eq r c q rules hs i
  simp [reachedFired,hrl,hr,loopBefore,matchesRule]

end

/-- `exchangeWithRules` for every answer of the client: the rules that fire are those that match with
the last evaluated response before them, and the result and the queries are read off these rules. -/
theorem exchangeWithRules_follows_rules (r : DNSRouter)
    (client : List ClientCall → Except ClientError Msg) (q : RuleQuery) (rules : NonLegacyRules) :
    (∃ fired, FiresAs r client q rules.rules fired) ∧ ∀ fired, FiresAs r client q rules.rules fired →
        Concludes r client q rules.rules fired (exchangeWithRules r client q rules.rules) := by
  constructor
  · exact ⟨_,reachedFired_firesAs r client q rules.rules rules.strategies⟩
  · intro fired hf
    have h := exchangeLoop_concludes rules.strategies hf (Nat.zero_le _) (by intro j hj; omega)
    rw [drop_zero] at h
    exact h

def ipv4Router : DNSRouter where
  m := ⟨fun _ _ => false,fun _ _ => rfl⟩
  transport _ := none
  defaultTransport := ⟨"local",false⟩
  defaultDomainStrategy := .ipv4Only

def plainRuleQuery : RuleQuery where
  message := { question := [⟨"example.com.",typeA,1⟩] }
  question := ⟨"example.com.",typeA,1⟩
  single := rfl
  options := {}
  allowFakeIP := true
  metadata := {}

/-- The query is not sent with the options of the caller: an unset strategy is filled in. -/
theorem exchangeWithRules_fills_strategy :
    let sent := (exchangeWithRules ipv4Router (fun _ => .error .responseRejected) plainRuleQuery []).2
    sent.map ClientCall.options = [{ plainRuleQuery.options with strategy := .ipv4Only }] ∧
      sent.map ClientCall.options ≠ [plainRuleQuery.options] := by
  refine ⟨rfl,?_⟩
  decide

end SingBox.DNS
