import SingBox.Route.Sniff
import SingBox.Rule.Matcher

/-! `Router.matchRule`: what is known about a connection is gathered, then the rules are gone through
in order. Actions that are not final change the metadata the later rules see. -/
namespace SingBox.Route
open Adapter Rule

/-- `R.RuleActionRouteOptions`. -/
structure RouteOptions where
  overrideAddress : Socksaddr := {}
  overridePort : ℕ := 0
  networkStrategy : Option NetworkStrategy := none
  networkType : List InterfaceType := []
  fallbackNetworkType : List InterfaceType := []
  fallbackDelay : ℤ := 0
  udpDisableDomainUnmapping : Bool := false
  udpConnect : Bool := false
  udpTimeout : ℤ := 0
  tlsFragment : Bool := false
  tlsFragmentFallbackDelay : ℤ := 0
  tlsRecordFragment : Bool := false

/-- `R.RuleActionResolve`. -/
structure ResolveAction where
  server : String := ""
  strategy : DomainStrategy := .asIS
  disableCache : Bool := false
  disableOptimisticCache : Bool := false
  rewriteTTL : Option ℕ := none
  clientSubnet : Prefix := ⟨.invalid,0⟩

/-- The options of the lookup that a `resolve` action makes. -/
def ResolveAction.queryOptions (action : ResolveAction) : DNSQueryOptions :=
  { transport := if action.server != "" then some action.server else none
    strategy := action.strategy
    disableCache := action.disableCache
    disableOptimisticCache := action.disableOptimisticCache
    rewriteTTL := action.rewriteTTL
    clientSubnet := action.clientSubnet }

inductive RejectMethod
  | default
  | drop
  | reply
  deriving DecidableEq

inductive RuleAction
  | route (outbound : String) (options : RouteOptions)
  | routeOptions (options : RouteOptions)
  | bypass (outbound : String) (options : RouteOptions)
  | direct
  | reject (method : RejectMethod) (noDrop : Bool)
  | hijackDNS
  | sniff (action : SniffAction)
  | resolve (action : ResolveAction)

structure RouteRule where
  rule : HeadlessRule
  action : RuleAction

structure NeighborResolver where
  lookupMAC : Addr → Option (List UInt8)
  lookupHostname : Addr → Option String

structure FakeIPStore where
  contains : Addr → Bool
  lookup : Addr → Option String

structure Router (σ τ : Type) extends SniffEnv σ τ where
  processSearcher : Option (Network → Socksaddr → Option Socksaddr → Except GoError ConnectionOwner)
  neighborResolver : Option NeighborResolver
  fakeIP : Option FakeIPStore
  lookupReverseMapping : Addr → Option String
  transport : String → Bool
  lookup : InboundContext → String → DNSQueryOptions → Except GoError (List Addr)
  rules : List RouteRule

section
variable {σ τ : Type} (r : Router σ τ)

/-- The process behind the connection; a failed search leaves the metadata alone. -/
def searchProcess (metadata : InboundContext) : InboundContext :=
  match r.processSearcher, metadata.processInfo with
  | some search, none =>
      let originDestination :=
        if r.p.socksaddrIsValid metadata.originDestination then some metadata.originDestination
        else if r.p.socksaddrIsIP metadata.destination then some metadata.destination
        else none
      match search metadata.network metadata.source originDestination with
      | .error _ => metadata
      | .ok processInfo => { metadata with processInfo := some processInfo }
  | _, _ => metadata

def resolveNeighbor (metadata : InboundContext) : InboundContext :=
  match r.neighborResolver with
  | none => metadata
  | some resolver =>
      if metadata.sourceMACAddress.isNone && metadata.source.addr.isValid then
        { metadata with
          sourceMACAddress := resolver.lookupMAC metadata.source.addr
          sourceHostname := (resolver.lookupHostname metadata.source.addr).getD metadata.sourceHostname }
      else metadata

def missingFakeIP : GoError := { text := "missing fakeip record, try enable \x60experimental.cache_file\x60" }

/-- A FakeIP destination becomes its domain; other destinations may have a reverse mapping. -/
def mapDestination (metadata : InboundContext) : Except GoError InboundContext :=
  match r.fakeIP.filter fun store => metadata.destination.addr.isValid && store.contains metadata.destination.addr with
  | some store =>
      match store.lookup metadata.destination.addr with
      | none => .error missingFakeIP
      | some domain =>
          if domain != "" then
            .ok { metadata with
              originDestination := metadata.destination
              destination := { fqdn := domain, port := metadata.destination.port }
              fakeIP := true }
          else .ok metadata
  | none =>
      if metadata.domain == "" then
        match r.lookupReverseMapping metadata.destination.addr with
        | some domain => .ok { metadata with domain := domain }
        | none => .ok metadata
      else .ok metadata

def setIPVersion (metadata : InboundContext) : InboundContext :=
  if r.p.socksaddrIsIPv4 metadata.destination then { metadata with ipVersion := 4 }
  else if r.p.socksaddrIsIPv6 metadata.destination then { metadata with ipVersion := 6 }
  else metadata

/-- `matchRule` up to its loop. -/
def gatherMetadata (metadata : InboundContext) : Except GoError InboundContext :=
  (mapDestination r (resolveNeighbor r (searchProcess r metadata))).map (setIPVersion r)

/-- The route options of a `route` or `route-options` action. -/
def applyRouteOptions (options : RouteOptions) (metadata : InboundContext) : InboundContext :=
  let override := r.p.socksaddrIsValid options.overrideAddress
  let metadata :=
    if (override || options.overridePort > 0) && !r.p.socksaddrIsValid metadata.routeOriginalDestination then
      { metadata with routeOriginalDestination := metadata.destination }
    else metadata
  let metadata :=
    if override then
      { metadata with
        destination :=
          { addr := options.overrideAddress.addr, port := metadata.destination.port,
            fqdn := options.overrideAddress.fqdn }
        destinationAddresses := [] }
    else metadata
  let metadata :=
    if options.overridePort > 0 then
      { metadata with destination := { metadata.destination with port := options.overridePort } }
    else metadata
  { metadata with
    networkStrategy := options.networkStrategy <|> metadata.networkStrategy
    networkType := if options.networkType.length > 0 then options.networkType else metadata.networkType
    fallbackNetworkType :=
      if options.fallbackNetworkType.length > 0 then options.fallbackNetworkType
      else metadata.fallbackNetworkType
    fallbackDelay := if options.fallbackDelay ≠ 0 then options.fallbackDelay else metadata.fallbackDelay
    udpDisableDomainUnmapping := metadata.udpDisableDomainUnmapping || options.udpDisableDomainUnmapping
    udpConnect := metadata.udpConnect || options.udpConnect
    udpTimeout := if options.udpTimeout > 0 then options.udpTimeout else metadata.udpTimeout
    tlsFragment := metadata.tlsFragment || options.tlsFragment
    tlsFragmentFallbackDelay :=
      if options.tlsFragment then options.tlsFragmentFallbackDelay else metadata.tlsFragmentFallbackDelay
    tlsRecordFragment := metadata.tlsRecordFragment || options.tlsRecordFragment }

def actionResolve (action : ResolveAction) (metadata : InboundContext) : Except GoError InboundContext :=
  if r.p.socksaddrIsDomain metadata.destination then
    if action.server != "" && !r.transport action.server then
      .error { text := "DNS server not found: " ++ action.server }
    else
      match r.lookup metadata metadata.destination.fqdn action.queryOptions with
      | .error err => .error err
      | .ok addresses => .ok { metadata with destinationAddresses := addresses }
  else .ok metadata

end

/-- The variables of `matchRule` that live across its loop. -/
structure Pass (σ τ : Type) where
  metadata : InboundContext
  inputConn : Option σ
  inputPacketConn : Option τ
  buffers : List (List UInt8) := []
  packetBuffers : List PacketBuffer := []

inductive Round (σ τ : Type)
  | next (pass : Pass σ τ)
  | selected (pass : Pass σ τ)
  | fatal (pass : Pass σ τ) (err : GoError)

structure MatchResult (σ τ : Type) where
  pass : Pass σ τ
  selectedRule : Option RouteRule := none
  selectedRuleIndex : ℕ := 0
  fatalErr : Option GoError := none

section
variable {σ τ : Type} (r : Router σ τ) (preMatch supportBypass : Bool)

/-- The call of `actionSniff` and the appends after it. -/
def sniffRound (action : SniffAction) (pass : Pass σ τ) : Round σ τ :=
  let result := actionSniff r.toSniffEnv action pass.metadata pass.inputConn pass.inputPacketConn
    pass.buffers pass.packetBuffers
  let pass : Pass σ τ :=
    { metadata := result.metadata
      inputConn := result.inputConn
      inputPacketConn := result.inputPacketConn
      buffers :=
        match result.buffer with
        | some newBuffer => pass.buffers++[newBuffer]
        | none => pass.buffers
      packetBuffers :=
        match result.buffer with
        | some _ => pass.packetBuffers
        | none => pass.packetBuffers++result.packetBuffers }
  match result.fatalErr with
  | some err => .fatal pass err
  | none => .next pass

def actionRound (action : RuleAction) (pass : Pass σ τ) : Round σ τ :=
  match action with
  | .route _ options =>
      .selected { pass with metadata := applyRouteOptions r options pass.metadata }
  | .routeOptions options =>
      .next { pass with metadata := applyRouteOptions r options pass.metadata }
  | .sniff action =>
      if !preMatch then sniffRound r action pass
      else if pass.metadata.network ≠ .icmp then .selected pass
      else .next pass
  | .resolve action =>
      match actionResolve r action pass.metadata with
      | .error err => .fatal pass err
      | .ok metadata => .next { pass with metadata := metadata }
  | .reject _ _ => .selected pass
  | .hijackDNS => .selected pass
  | .bypass outbound _ => if !supportBypass && outbound == "" then .next pass else .selected pass
  | .direct => .next pass

def ruleRound (rule : RouteRule) (pass : Pass σ τ) : Round σ τ :=
  let pass := { pass with metadata := pass.metadata.resetRuleCache }
  if !rule.rule.match (itemMatcher r.p) pass.metadata then .next pass
  else actionRound r preMatch supportBypass rule.action pass

def matchLoop : List RouteRule → ℕ → Pass σ τ → MatchResult σ τ
  | [], _, pass => { pass }
  | rule :: rules, i, pass =>
      match ruleRound r preMatch supportBypass rule pass with
      | .next pass => matchLoop rules (i+1) pass
      | .selected pass => { pass, selectedRule := some rule, selectedRuleIndex := i }
      | .fatal pass err => { pass, fatalErr := some err }

def matchRule (metadata : InboundContext) (inputConn : Option σ) (inputPacketConn : Option τ) :
    MatchResult σ τ :=
  match gatherMetadata r metadata with
  | .error err => { pass := { metadata, inputConn, inputPacketConn }, fatalErr := some err }
  | .ok metadata => matchLoop r preMatch supportBypass r.rules 0 { metadata, inputConn, inputPacketConn }

end

section
variable {σ τ : Type} (r : Router σ τ) (pm sb : Bool)

lemma matchLoop_selectedRule (rs : List RouteRule) (i : ℕ) (pass : Pass σ τ)
    (h : (matchLoop r pm sb rs i pass).selectedRule.isSome = true) :
    ∃ j, (matchLoop r pm sb rs i pass).selectedRuleIndex = i+j ∧
      (matchLoop r pm sb rs i pass).selectedRule = rs[j]? := by
  induction rs generalizing i pass with
  | nil => cases h
  | cons rl rs ih =>
    simp only [matchLoop] at h ⊢
    cases hr : ruleRound r pm sb rl pass with
    | next pass' =>
      simp only [hr] at h
      obtain ⟨j,hin,hrl⟩ := ih (i+1) pass' h
      exact ⟨j+1,by rw [hin]; omega,hrl⟩
    | selected => exact ⟨0,rfl,rfl⟩
    | fatal => simp [hr] at h

lemma matchRule_selectedRule (metadata : InboundContext) (ic : Option σ) (ip : Option τ)
    (h : (matchRule r pm sb metadata ic ip).selectedRule.isSome = true) :
    (matchRule r pm sb metadata ic ip).selectedRule =
      r.rules[(matchRule r pm sb metadata ic ip).selectedRuleIndex]? := by
  simp only [matchRule] at h ⊢
  cases hg : gatherMetadata r metadata with
  | error => simp [hg] at h
  | ok =>
    simp only [hg] at h
    obtain ⟨j,hin,hr⟩ := matchLoop_selectedRule r pm sb r.rules 0 _ h
    rw [hin,zero_add]
    exact hr

end

/-- A round that goes on keeps `I`. -/
def Round.Keeps {σ τ : Type} (I : Pass σ τ → Prop) : Round σ τ → Prop
  | .next pass => I pass
  | .selected pass => I pass
  | .fatal _ _ => True

variable {σ τ : Type} {r : Router σ τ} {pm sb : Bool} {I : Pass σ τ → Prop}
  (hm : ∀ pass metadata, I pass → I { pass with metadata := metadata })
include hm

lemma actionRound_keeps (action : RuleAction)
    (hs : ∀ a, action = .sniff a → ∀ pass, I pass → (sniffRound r a pass).Keeps I) (pass : Pass σ τ) (h : I pass) :
    (actionRound r pm sb action pass).Keeps I := by
  cases action with
  | route outbound options | routeOptions options => exact hm pass _ h
  | bypass =>
    simp only [actionRound]
    split_ifs <;> exact h
  | direct | reject method noDrop | hijackDNS => exact h
  | sniff action =>
    simp only [actionRound]
    split_ifs
    · exact hs action rfl pass h
    all_goals exact h
  | resolve action =>
    simp only [actionRound]
    cases actionResolve r action pass.metadata with
    | error => exact trivial
    | ok metadata => exact hm pass metadata h

lemma ruleRound_keeps (rl : RouteRule)
    (hs : ∀ a, rl.action = .sniff a → ∀ pass, I pass → (sniffRound r a pass).Keeps I) (pass : Pass σ τ) (h : I pass) :
    (ruleRound r pm sb rl pass).Keeps I := by
  have hr := hm pass pass.metadata.resetRuleCache h
  simp only [ruleRound]
  split_ifs
  · exact hr
  · exact actionRound_keeps hm rl.action hs _ hr

lemma matchLoop_keeps (rs : List RouteRule)
    (hs : ∀ rl ∈ rs, ∀ a, rl.action = .sniff a → ∀ pass, I pass → (sniffRound r a pass).Keeps I) (i : ℕ)
    (pass : Pass σ τ) (h : I pass) (hok : (matchLoop r pm sb rs i pass).fatalErr = none) :
    I (matchLoop r pm sb rs i pass).pass := by
  induction rs generalizing i pass with
  | nil => exact h
  | cons rl rs ih =>
    have hk : (ruleRound r pm sb rl pass).Keeps I := ruleRound_keeps hm rl (hs rl List.mem_cons_self) pass h
    rw [matchLoop] at hok ⊢
    cases hr : ruleRound r pm sb rl pass with
    | next pass' =>
      rw [hr] at hk
      simp only [hr] at hok
      exact ih (fun o ho => hs o (List.mem_cons_of_mem rl ho)) (i+1) pass' hk hok
    | selected =>
      rw [hr] at hk
      exact hk
    | fatal => simp [hr] at hok

lemma matchRule_keeps (hs : ∀ rl ∈ r.rules, ∀ a, rl.action = .sniff a → ∀ pass, I pass → (sniffRound r a pass).Keeps I)
    (metadata : InboundContext) (inputConn : Option σ) (inputPacketConn : Option τ)
    (h : ∀ metadata, I { metadata, inputConn, inputPacketConn })
    (hok : (matchRule r pm sb metadata inputConn inputPacketConn).fatalErr = none) :
    I (matchRule r pm sb metadata inputConn inputPacketConn).pass := by
  unfold matchRule at hok ⊢
  cases hg : gatherMetadata r metadata with
  | error => simp [hg] at hok
  | ok metadata' =>
    simp only [hg] at hok
    exact matchLoop_keeps hm r.rules hs 0 _ (h metadata') hok

end SingBox.Route
