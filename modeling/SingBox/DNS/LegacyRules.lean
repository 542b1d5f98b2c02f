import SingBox.DNS.RouterRules
import SingBox.Library.Override

/-! The legacy mode of the DNS router (`dns/router.go`): `matchDNS`, resumed after a rejected response,
and the attempts of `Exchange` and `Lookup`. -/
namespace SingBox.DNS
open Adapter Rule List

/-- What an attempt starts from: the options of the caller and the arguments of `matchDNS`. -/
structure LegacyQuery where
  options : DNSQueryOptions
  allowFakeIP : Bool
  isAddressQuery : Bool
  metadata : InboundContext

/-- The options of a rule, as `matchDNS` takes them over. -/
def legacyOptions (options : DNSQueryOptions) (routeOptions : DNSRouteOptions) : DNSQueryOptions :=
  { options with
    strategy := if routeOptions.strategy ≠ .asIS then routeOptions.strategy else options.strategy
    disableCache := if routeOptions.disableCache then true else options.disableCache
    rewriteTTL := if routeOptions.rewriteTTL.isSome then routeOptions.rewriteTTL else options.rewriteTTL
    clientSubnet :=
      if routeOptions.clientSubnet.isValid then routeOptions.clientSubnet else options.clientSubnet }

/-- A rule without transport rejects or predefines; a transport without rule is the default one. -/
inductive MatchedDNS
  | final (rule : ActionRule)
  | transport (transport : DNSTransport) (rule : Option (ℕ × ActionRule)) (options : DNSQueryOptions)

section
variable (r : DNSRouter) (q : LegacyQuery)

/-- The rules that `matchDNS` does not pass over. -/
def legacyMatches (rule : ActionRule) : Bool :=
  !(rule.rule.withAddressLimit && !q.isAddressQuery) &&
    rule.rule.legacyPreMatch r.m
      { q.metadata.resetRuleCache with destinationAddressMatchFromResponse := false }

def matchFrom : List ActionRule → ℕ → DNSQueryOptions → MatchedDNS
  | [], _, options => .transport r.defaultTransport none options
  | rule :: rules, currentRuleIndex, options =>
      if legacyMatches r q rule then
        match rule.action with
        | .route server routeOptions =>
            match r.transport server with
            | none => matchFrom rules (currentRuleIndex + 1) options
            | some transport =>
                if transport.isFakeIP && !q.allowFakeIP then
                  matchFrom rules (currentRuleIndex + 1) options
                else
                  .transport transport (some (currentRuleIndex,rule))
                    (transport.cacheOptions (legacyOptions options routeOptions))
        | .routeOptions routeOptions =>
            matchFrom rules (currentRuleIndex + 1) (legacyOptions options routeOptions)
        | .reject _ _ => .final rule
        | .predefined _ => .final rule
        | .evaluate _ _ => matchFrom rules (currentRuleIndex + 1) options
        | .respond => matchFrom rules (currentRuleIndex + 1) options
      else matchFrom rules (currentRuleIndex + 1) options

/-- `matchDNS` from the rule `start` on, with the options of the caller. -/
def matchDNS (rules : List ActionRule) (start : ℕ) : MatchedDNS :=
  matchFrom r q (rules.drop start) start q.options

/-- The options of the `i`th rule, where it is a `route-options` rule that matches. -/
def legacyOptionsAt (rules : List ActionRule) (i : ℕ) : Option DNSRouteOptions :=
  match rules[i]?.filter (legacyMatches r q) with
  | some ⟨_,.routeOptions options,_⟩ => some options
  | _ => none

/-- The `route-options` rules that match, from `start` up to `stop`. -/
def optionsBetween (rules : List ActionRule) (start stop : ℕ) : List DNSRouteOptions :=
  (List.range' start (stop - start)).filterMap (legacyOptionsAt r q rules)

def ownOptions : Option (ℕ × ActionRule) → List DNSRouteOptions
  | some (_,⟨_,.route _ options,_⟩) => [options]
  | _ => []

def selectedIndex (rules : List ActionRule) (rule : Option (ℕ × ActionRule)) : ℕ := rule.elim rules.length Prod.fst

def optionsUnder (transport : DNSTransport) (rule : Option (ℕ × ActionRule)) (options : DNSQueryOptions)
    (routeOptions : List DNSRouteOptions) : DNSQueryOptions :=
  let options := routeOptions.foldl legacyOptions options
  if rule.isSome then transport.cacheOptions options else options

variable {r q} {rules : List ActionRule} {start st : ℕ}

@[simp] lemma optionsBetween_self : optionsBetween r q rules start start = [] := by
  simp [optionsBetween]

lemma optionsBetween_cons (h : start < st) : optionsBetween r q rules start st =
      (legacyOptionsAt r q rules start).toList ++ optionsBetween r q rules (start + 1) st := by
  have hl : st - start = (st - (start + 1)) + 1 := by omega
  unfold optionsBetween
  rw [hl,range'_succ]
  cases ho : legacyOptionsAt r q rules start <;> simp [ho]

lemma optionsBetween_append (h : start ≤ st) :
    optionsBetween r q rules 0 start ++ optionsBetween r q rules start st = optionsBetween r q rules 0 st := by
  have hl : st - 0 = start + (st - start) := by omega
  unfold optionsBetween
  rw [← filterMap_append,hl,← range'_append_1]
  simp

/-- One turn of the loop of `matchDNS`. -/
lemma matchFrom_cases (h : start < rules.length) (op : DNSQueryOptions) :
    matchFrom r q (rules.drop start) start op = matchFrom r q (rules.drop (start + 1)) (start + 1)
          ((legacyOptionsAt r q rules start).toList.foldl legacyOptions op) ∨
      matchFrom r q (rules.drop start) start op = .final rules[start] ∨ ∃ s ro tr, rules[start].action = .route s ro ∧
        legacyMatches r q rules[start] = true ∧ r.transport s = some tr ∧
        matchFrom r q (rules.drop start) start op = .transport tr (some (start,rules[start]))
            (tr.cacheOptions (legacyOptions op ro)) := by
  have hg : rules[start]? = some rules[start] := getElem?_eq_getElem h
  rw [drop_eq_getElem_cons h]
  unfold legacyOptionsAt
  rw [hg]
  generalize rules[start] = ru
  obtain ⟨ru,a,hv⟩ := ru
  cases hm : legacyMatches r q ⟨ru,a,hv⟩ with
  | false => simp [matchFrom,hm,Option.filter]
  | true =>
    cases a with
    | route s ro =>
      cases ht : r.transport s with
      | none => simp [matchFrom,hm,ht,Option.filter]
      | some tr =>
        by_cases hs : tr.isFakeIP = true ∧ q.allowFakeIP = false
        · simp [matchFrom,hm,ht,hs,Option.filter]
        · right
          right
          refine ⟨s,ro,tr,rfl,rfl,ht,?_⟩
          have hc : (tr.isFakeIP && !q.allowFakeIP) = false := by
            simpa using hs
          simp [matchFrom,hm,ht,hc]
    | routeOptions ro | evaluate s ro | respond => simp [matchFrom,hm,Option.filter]
    | reject method noDrop | predefined a => simp [matchFrom,hm]

/-- What `matchDNS` selects from `start` on, where it selects a transport. -/
structure Selects (r : DNSRouter) (q : LegacyQuery) (rules : List ActionRule) (start : ℕ)
    (options : DNSQueryOptions) (transport : DNSTransport) (rule : Option (ℕ × ActionRule))
    (selected : DNSQueryOptions) : Prop where
  start_le : start ≤ selectedIndex rules rule
  matched : ∀ i matchedRule, rule = some (i,matchedRule) →
    rules[i]? = some matchedRule ∧ legacyMatches r q matchedRule = true ∧
      ∃ server routeOptions, matchedRule.action = .route server routeOptions ∧ r.transport server = some transport
  default : rule = none → transport = r.defaultTransport
  options : selected = optionsUnder transport rule options
    (optionsBetween r q rules start (selectedIndex rules rule) ++ ownOptions rule)

variable {os : DNSQueryOptions} {rl : Option (ℕ × ActionRule)} {sl : DNSQueryOptions} {t : DNSTransport}

lemma matchFrom_selects (hst : start ≤ rules.length)
    (h : matchFrom r q (rules.drop start) start os = .transport t rl sl) : Selects r q rules start os t rl sl := by
  -- from the last rule down to the first
  induction hst using Nat.decreasingInduction generalizing os with
  | self =>
    rw [drop_length] at h
    cases h
    exact ⟨le_refl _,by simp,fun _ => rfl,by simp [optionsUnder,selectedIndex,ownOptions]⟩
  | of_succ start hlt ih =>
    obtain hn | hf | ⟨s,ro,tr',ha,hm,ht,hr⟩ :=
      matchFrom_cases hlt os
    · rw [hn] at h
      have hs := ih h
      have hle := hs.start_le
      have hc : optionsBetween r q rules start (selectedIndex rules rl) = _ := optionsBetween_cons (by omega)
      refine ⟨by omega,hs.matched,hs.default,?_⟩
      rw [hs.options,hc]
      simp only [optionsUnder,append_assoc,foldl_append]
    · rw [hf] at h
      cases h
    · rw [hr] at h
      cases h
      refine ⟨le_refl _,?_,by simp,?_⟩
      · intro i mr heq
        cases heq
        exact ⟨getElem?_eq_getElem hlt,hm,s,ro,ha,ht⟩
      · have ho : ownOptions (some (start,rules[start])) = [ro] := by
          generalize rules[start] = mr at ha
          obtain ⟨rl,a,hv⟩ := mr
          subst ha
          rfl
        simp [optionsUnder,selectedIndex,ho]

lemma matchDNS_selects (hs : start ≤ rules.length) (h : matchDNS r q rules start = .transport t rl sl) :
    Selects r q rules start q.options t rl sl :=
  matchFrom_selects hs h

lemma Selects.index_lt {i : ℕ} {rl : ActionRule} (h : Selects r q rules start os t (some (i,rl)) sl) :
    start ≤ i ∧ i < rules.length := by
  obtain ⟨hg,-⟩ := h.matched i rl rfl
  exact ⟨h.start_le,(List.getElem?_eq_some_iff.mp hg).1⟩

end

/-- A call of the client, with the rule it is for and where the search for that rule began. -/
structure Attempt where
  start : ℕ
  rule : Option (ℕ × ActionRule)
  transport : DNSTransport
  options : DNSQueryOptions
  responseCheck : Option (Msg → Bool)

/-- `addressLimitResponseCheck`. -/
def addressLimitResponseCheck (m : ItemMatcher) (rule : Option ActionRule) (metadata : InboundContext) :
    Option (Msg → Bool) :=
  match rule with
  | none => none
  | some rule =>
      if rule.rule.withAddressLimit then
        some fun response => rule.rule.matchAddressLimit m metadata (some response)
      else none

section
variable {α β : Type} (r : DNSRouter) (q : LegacyQuery) (rules : List ActionRule)
-- The client may answer by all attempts so far; `retry` tells which errors make the router go on.
variable (client : List Attempt → Except ClientError α) (retry : ClientError → Bool) (final : ActionRule → β)
  (finish : Except ClientError α → β)

def legacyLoop (start : ℕ) (hstart : start ≤ rules.length) (attempts : List Attempt) :
    β × List Attempt :=
  match hmatch : matchDNS r q rules start with
  | .final rule => (final rule,attempts)
  | .transport transport none options =>
      let attempts := attempts ++ [⟨start,none,transport,fillStrategy r options,none⟩]
      (finish (client attempts),attempts)
  | .transport transport (some (ruleIndex,rule)) options =>
      let responseCheck := addressLimitResponseCheck r.m (some rule) q.metadata
      let attempts := attempts ++ [⟨start,some (ruleIndex,rule),transport,fillStrategy r options,responseCheck⟩]
      match client attempts with
      | .ok response => (finish (.ok response),attempts)
      | .error err =>
          if responseCheck.isSome && retry err then
            legacyLoop (ruleIndex + 1) (matchDNS_selects hstart hmatch).index_lt.2 attempts
          else (finish (.error err),attempts)
termination_by rules.length - start
decreasing_by
  have h := (matchDNS_selects hstart hmatch).index_lt
  omega

end

/-- The search that begins at `start` is the first one, or resumes after an earlier attempt. -/
def Resumes (attempts : List Attempt) (start : ℕ) : Prop :=
  start = 0 ∨ ∃ earlier ∈ attempts, ∃ i rule, earlier.rule = some (i,rule) ∧ start = i + 1

structure Made (r : DNSRouter) (q : LegacyQuery) (rules : List ActionRule) (attempts : List Attempt)
    (a : Attempt) : Prop where
  selects : ∃ selected, a.options = fillStrategy r selected ∧
    Selects r q rules a.start q.options a.transport a.rule selected
  resumes : Resumes attempts a.start

section
variable {r : DNSRouter} {q : LegacyQuery} {rl : List ActionRule} {am : List Attempt}

lemma Resumes.snoc {start : ℕ} (h : Resumes am start) (a : Attempt) : Resumes (am ++ [a]) start := by
  obtain hs | ⟨e,hm,hr⟩ := h
  · exact .inl hs
  · exact .inr ⟨e,by simp [hm],hr⟩

lemma made_snoc {a : Attempt} (hm : ∀ b ∈ am, Made r q rl am b)
    (ha : Made r q rl am a) : ∀ b ∈ am ++ [a], Made r q rl (am ++ [a]) b := by
  intro b hb
  rw [mem_append,mem_singleton] at hb
  obtain hb | rfl := hb
  · exact ⟨(hm b hb).selects,(hm b hb).resumes.snoc a⟩
  · exact ⟨ha.selects,ha.resumes.snoc b⟩

/-- Every attempt of the loop is made as `matchDNS` says. -/
lemma legacyLoop_made {α β : Type} (client : List Attempt → Except ClientError α)
    (retry : ClientError → Bool) (final : ActionRule → β) (finish : Except ClientError α → β)
    (start : ℕ) (hs : start ≤ rl.length) (hr : Resumes am start)
    (hmd : ∀ a ∈ am, Made r q rl am a) :
    let rs := legacyLoop r q rl client retry final finish start hs am
    ∀ a ∈ rs.2, Made r q rl rs.2 a := by
  fun_induction legacyLoop r q rl client retry final finish start hs am with
  | case1 => exact hmd
  | case2 start hs am tr op hm n
  | case3 start hs am tr ri ru op hm =>
    exact made_snoc hmd ⟨⟨op,rfl,matchDNS_selects hs hm⟩,hr⟩
  | case4 start hs am tr ri ru op hm rc n e ha hrt ih =>
    apply ih
    · exact .inr ⟨_,mem_append_right _ (mem_singleton_self _),ri,ru,rfl,rfl⟩
    · exact made_snoc hmd ⟨⟨op,rfl,matchDNS_selects hs hm⟩,hr⟩
  | case5 start hs am tr ri ru op hm =>
    exact made_snoc hmd ⟨⟨op,rfl,matchDNS_selects hs hm⟩,hr⟩

end

variable (p : Platform) (r : DNSRouter)

/-- The switch over the action of a matched rule in `Exchange`. Only rules that reject or predefine come
here, and the method `reply` is refused when a rule is built. -/
def exchangeFinal (message : Msg) (question : Question) (rule : ActionRule) : Except RouterError Msg :=
  match rule.action with
  | .reject .drop _ => .error .drop
  | .predefined action => .ok (action.response message question)
  | _ => .ok (refusedResponse message question)

def isRejected : ClientError → Bool
  | .responseRejected => true
  | .responseRejectedCached => true
  | _ => false

/-- The legacy branch of `Exchange`, with the attempts it makes. -/
def legacyExchange (rules : List ActionRule) (message : Msg) (question : Question)
    (options : DNSQueryOptions) (metadata : InboundContext)
    (client : List Attempt → Except ClientError Msg) : Except RouterError Msg × List Attempt :=
  legacyLoop r ⟨options,true,isAddressQuery message,metadata⟩ rules client isRejected
    (exchangeFinal message question) (fun answer => answer.mapError RouterError.client) 0
    (Nat.zero_le _) []

def answerAddresses (answer : List RR) : List Addr :=
  answer.filterMap fun record =>
    match record.data with
    | .a ip => some (p.addrFromIP ip)
    | .aaaa ip => some (p.addrFromIP ip)
    | _ => none

/-- `printResult`: no address is an error. -/
def printResult : Except RouterError (List Addr) → Except RouterError (List Addr)
  | .ok [] => .error .emptyResult
  | result => result

/-- The switch over the action of such a rule in `Lookup`. -/
def lookupFinal (rule : ActionRule) : Except RouterError (List Addr) :=
  match rule.action with
  | .reject method noDrop => .error (.rejected method noDrop)
  | .predefined action =>
      printResult (if action.rcode != rcodeSuccess then .error (.rcode action.rcode)
        else .ok (answerAddresses p action.answer))
  | _ => .error .emptyResult

/-- The legacy branch of `Lookup`, with the attempts it makes. -/
def legacyLookup (rules : List ActionRule) (options : DNSQueryOptions) (metadata : InboundContext)
    (client : List Attempt → Except ClientError (List Addr)) :
    Except RouterError (List Addr) × List Attempt :=
  legacyLoop r ⟨options,false,true,metadata⟩ rules client (fun _ => true) (lookupFinal p)
    (fun answer => printResult (answer.mapError RouterError.client)) 0 (Nat.zero_le _) []

end SingBox.DNS
