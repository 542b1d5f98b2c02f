import SingBox.Library.Outcome
import SingBox.Route.Script
import SingBox.Rule.Headless

/-! The options of route rules on their way into the metadata: `NewRuleAction`
(`route/rule/rule_action.go`) builds the actions and `matchRule` applies them. -/
namespace SingBox.Route
open Adapter Rule List

/-- `option.RawRouteOptionsActionOptions`. -/
structure RawRouteOptions where
  overrideAddress : String := ""
  overridePort : ℕ := 0
  networkStrategy : Option NetworkStrategy := none
  fallbackDelay : ℕ := 0
  udpDisableDomainUnmapping : Bool := false
  udpConnect : Bool := false
  udpTimeout : ℤ := 0
  tlsFragment : Bool := false
  tlsFragmentFallbackDelay : ℤ := 0
  tlsRecordFragment : Bool := false

/-- `option.RuleAction`. The options of a `resolve` action are copied as they are; a `direct` action
comes with the error of its dialer, if any. -/
inductive RuleActionOptions
  | route (outbound : String) (options : RawRouteOptions)
  | routeOptions (options : RawRouteOptions)
  | bypass (outbound : String) (options : RawRouteOptions)
  | direct (dialerErr : Option BuildError)
  | reject (method : RejectMethod) (noDrop : Bool)
  | hijackDNS
  | sniff (sniffer : List String) (timeout : ℤ)
  | resolve (options : ResolveAction)

section

def Sniffers.named (s : Sniffers) : String → Option (List StreamSniffer × List PacketSniffer)
  | "tls" => some ([s.tlsClientHello],[])
  | "http" => some ([s.httpHost],[])
  | "quic" => some ([],[s.quicClientHello])
  | "dns" => some ([s.streamDomainNameQuery],[s.domainNameQuery])
  | "stun" => some ([],[s.stunMessage])
  | "bittorrent" => some ([s.bitTorrent],[s.utp,s.udpTracker])
  | "dtls" => some ([],[s.dtlsRecord])
  | "ssh" => some ([s.ssh],[])
  | "rdp" => some ([s.rdp],[])
  | "ntp" => some ([],[s.ntp])
  | _ => none

/-- `RuleActionSniff.build`. -/
def SniffAction.build (s : Sniffers) : List String → SniffAction → Except BuildError SniffAction
  | [], action => .ok action
  | name :: names, action =>
      match s.named name with
      | none => .error (.new ("unknown sniffer: " ++ name))
      | some (streamSniffers,packetSniffers) =>
          SniffAction.build s names
            { action with
              streamSniffers := action.streamSniffers ++ streamSniffers
              packetSniffers := action.packetSniffers ++ packetSniffers }

-- `M.ParseSocksaddrHostPort` without a port.
variable (parse : String → Socksaddr)

def RawRouteOptions.carried (options : RawRouteOptions) : RouteOptions where
  overrideAddress := parse options.overrideAddress
  overridePort := options.overridePort
  networkStrategy := options.networkStrategy
  fallbackDelay := options.fallbackDelay
  udpDisableDomainUnmapping := options.udpDisableDomainUnmapping
  udpConnect := options.udpConnect
  udpTimeout := options.udpTimeout
  tlsFragment := options.tlsFragment
  tlsFragmentFallbackDelay := options.tlsFragmentFallbackDelay
  tlsRecordFragment := options.tlsRecordFragment

/-- `NewRuleAction`. -/
def newRuleAction (s : Sniffers) : RuleActionOptions → Except BuildError RuleAction
  -- The literals of `route` and `bypass` have no `UDPTimeout`.
  | .route outbound options => .ok (.route outbound { options.carried parse with udpTimeout := 0 })
  | .routeOptions options => .ok (.routeOptions (options.carried parse))
  | .bypass outbound options => .ok (.bypass outbound { options.carried parse with udpTimeout := 0 })
  | .direct none => .ok .direct
  | .direct (some err) => .error err
  | .reject method noDrop => .ok (.reject method noDrop)
  | .hijackDNS => .ok .hijackDNS
  | .sniff sniffer timeout =>
      (SniffAction.build s sniffer { snifferNames := sniffer, timeout := timeout }).map .sniff
  | .resolve options => .ok (.resolve options)

end

/-- A rule of the configuration with the action that was built for it. -/
structure BuiltRule (parse : String → Socksaddr) (s : Sniffers) where
  rule : HeadlessRule
  options : RuleActionOptions
  action : RuleAction
  built : newRuleAction parse s options = .ok action

def BuiltRule.routeRule {parse : String → Socksaddr} {s : Sniffers} (rule : BuiltRule parse s) :
    RouteRule :=
  ⟨rule.rule,rule.action⟩

@[ext] structure RouteFields where
  destination : Socksaddr
  routeOriginalDestination : Socksaddr
  networkStrategy : Option NetworkStrategy
  networkType : List InterfaceType
  fallbackNetworkType : List InterfaceType
  fallbackDelay : ℤ
  udpDisableDomainUnmapping : Bool
  udpConnect : Bool
  udpTimeout : ℤ
  tlsFragment : Bool
  tlsFragmentFallbackDelay : ℤ
  tlsRecordFragment : Bool
  deriving DecidableEq

def routeFields (c : InboundContext) : RouteFields :=
  ⟨c.destination,c.routeOriginalDestination,c.networkStrategy,c.networkType,c.fallbackNetworkType,
    c.fallbackDelay,c.udpDisableDomainUnmapping,c.udpConnect,c.udpTimeout,c.tlsFragment,
    c.tlsFragmentFallbackDelay,c.tlsRecordFragment⟩

namespace RouteFields
variable (p : Platform)

/-- Each option that is set replaces its field; the first override keeps the original destination. -/
def apply (f : RouteFields) (o : RouteOptions) : RouteFields where
  destination :=
    { addr := if p.socksaddrIsValid o.overrideAddress then o.overrideAddress.addr else f.destination.addr
      port := if o.overridePort > 0 then o.overridePort else f.destination.port
      fqdn := if p.socksaddrIsValid o.overrideAddress then o.overrideAddress.fqdn else f.destination.fqdn }
  routeOriginalDestination :=
    if (p.socksaddrIsValid o.overrideAddress || o.overridePort > 0) &&
        !p.socksaddrIsValid f.routeOriginalDestination then f.destination
    else f.routeOriginalDestination
  networkStrategy := o.networkStrategy <|> f.networkStrategy
  networkType := if o.networkType.length > 0 then o.networkType else f.networkType
  fallbackNetworkType :=
    if o.fallbackNetworkType.length > 0 then o.fallbackNetworkType else f.fallbackNetworkType
  fallbackDelay := if o.fallbackDelay ≠ 0 then o.fallbackDelay else f.fallbackDelay
  udpDisableDomainUnmapping := f.udpDisableDomainUnmapping || o.udpDisableDomainUnmapping
  udpConnect := f.udpConnect || o.udpConnect
  udpTimeout := if o.udpTimeout > 0 then o.udpTimeout else f.udpTimeout
  tlsFragment := f.tlsFragment || o.tlsFragment
  tlsFragmentFallbackDelay :=
    if o.tlsFragment then o.tlsFragmentFallbackDelay else f.tlsFragmentFallbackDelay
  tlsRecordFragment := f.tlsRecordFragment || o.tlsRecordFragment

structure InForce (f : RouteFields) (o : RouteOptions) : Prop where
  original : p.socksaddrIsValid o.overrideAddress = true ∨ 0 < o.overridePort →
    p.socksaddrIsValid f.routeOriginalDestination = true ∨ f.destination = f.routeOriginalDestination
  address : p.socksaddrIsValid o.overrideAddress = true →
    o.overrideAddress.addr = f.destination.addr ∧ o.overrideAddress.fqdn = f.destination.fqdn
  port : 0 < o.overridePort → o.overridePort = f.destination.port
  networkStrategy : o.networkStrategy = none ∨ o.networkStrategy = f.networkStrategy
  networkType : o.networkType = [] ∨ o.networkType = f.networkType
  fallbackNetworkType : o.fallbackNetworkType = [] ∨ o.fallbackNetworkType = f.fallbackNetworkType
  fallbackDelay : o.fallbackDelay = 0 ∨ o.fallbackDelay = f.fallbackDelay
  udpDisableDomainUnmapping : o.udpDisableDomainUnmapping = true → f.udpDisableDomainUnmapping = true
  udpConnect : o.udpConnect = true → f.udpConnect = true
  udpTimeout : 0 < o.udpTimeout → o.udpTimeout = f.udpTimeout
  tlsFragment : o.tlsFragment = true → f.tlsFragment = true ∧ o.tlsFragmentFallbackDelay = f.tlsFragmentFallbackDelay
  tlsRecordFragment : o.tlsRecordFragment = true → f.tlsRecordFragment = true

variable {p} (f : RouteFields) (o : RouteOptions)

lemma orElse_eq_right_iff {α : Type} (o f : Option α) : (o <|> f) = f ↔ o = none ∨ o = f := by
  cases o <;> simp

lemma ite_length_eq_right_iff {α : Type} (l f : List α) : (if l.length > 0 then l else f) = f ↔ l = [] ∨ l = f := by
  cases l <;> simp

lemma destination_apply_eq_iff : (f.apply p o).destination = f.destination ↔
    (p.socksaddrIsValid o.overrideAddress = true →
      o.overrideAddress.addr = f.destination.addr ∧ o.overrideAddress.fqdn = f.destination.fqdn) ∧
    (0 < o.overridePort → o.overridePort = f.destination.port) := by
  obtain ⟨⟨a,pr,fq⟩⟩ := f
  cases hv : p.socksaddrIsValid o.overrideAddress with
  | false => simp [apply,hv]
  | true =>
    simp only [apply,hv,if_true,gt_iff_lt,Socksaddr.mk.injEq,ite_eq_right_iff,forall_true_left]
    tauto

lemma original_apply_eq_iff : (f.apply p o).routeOriginalDestination = f.routeOriginalDestination ↔
    (p.socksaddrIsValid o.overrideAddress = true ∨ 0 < o.overridePort →
      p.socksaddrIsValid f.routeOriginalDestination = true ∨ f.destination = f.routeOriginalDestination) := by
  cases hv : p.socksaddrIsValid f.routeOriginalDestination <;> simp [apply,hv]

lemma tlsFragment_apply_eq_iff : ((f.apply p o).tlsFragment = f.tlsFragment ∧
    (f.apply p o).tlsFragmentFallbackDelay = f.tlsFragmentFallbackDelay) ↔ (o.tlsFragment = true →
      f.tlsFragment = true ∧ o.tlsFragmentFallbackDelay = f.tlsFragmentFallbackDelay) := by
  cases ho : o.tlsFragment <;> simp [apply,ho]

lemma fallbackDelay_apply_eq_iff : (f.apply p o).fallbackDelay = f.fallbackDelay ↔
    o.fallbackDelay = 0 ∨ o.fallbackDelay = f.fallbackDelay := by
  by_cases ho : o.fallbackDelay = 0 <;> simp [apply,ho]

lemma apply_eq_self_iff : f.apply p o = f ↔ f.InForce p o := by
  constructor
  · intro h
    obtain ⟨ha,hp⟩ := (destination_apply_eq_iff f o).mp (congrArg destination h)
    refine ⟨(original_apply_eq_iff f o).mp (congrArg routeOriginalDestination h),ha,hp, ?_,?_,?_,?_,?_,?_,?_,?_,?_⟩
    · exact (orElse_eq_right_iff _ _).mp (congrArg networkStrategy h)
    · exact (ite_length_eq_right_iff _ _).mp (congrArg networkType h)
    · exact (ite_length_eq_right_iff _ _).mp (congrArg fallbackNetworkType h)
    · exact (fallbackDelay_apply_eq_iff f o).mp (congrArg fallbackDelay h)
    · exact Bool.or_eq_left_iff_imp.mp (congrArg udpDisableDomainUnmapping h)
    · exact Bool.or_eq_left_iff_imp.mp (congrArg udpConnect h)
    · exact ite_eq_right_iff.mp (congrArg udpTimeout h)
    · exact (tlsFragment_apply_eq_iff f o).mp ⟨congrArg tlsFragment h,congrArg tlsFragmentFallbackDelay h⟩
    · exact Bool.or_eq_left_iff_imp.mp (congrArg tlsRecordFragment h)
  · intro h
    ext1
    · exact (destination_apply_eq_iff f o).mpr ⟨h.address,h.port⟩
    · exact (original_apply_eq_iff f o).mpr h.original
    · exact (orElse_eq_right_iff _ _).mpr h.networkStrategy
    · exact (ite_length_eq_right_iff _ _).mpr h.networkType
    · exact (ite_length_eq_right_iff _ _).mpr h.fallbackNetworkType
    · exact (fallbackDelay_apply_eq_iff f o).mpr h.fallbackDelay
    · exact Bool.or_eq_left_iff_imp.mpr h.udpDisableDomainUnmapping
    · exact Bool.or_eq_left_iff_imp.mpr h.udpConnect
    · exact ite_eq_right_iff.mpr h.udpTimeout
    · exact ((tlsFragment_apply_eq_iff f o).mpr h.tlsFragment).1
    · exact ((tlsFragment_apply_eq_iff f o).mpr h.tlsFragment).2
    · exact Bool.or_eq_left_iff_imp.mpr h.tlsRecordFragment

end RouteFields

section
variable {σ τ : Type} (r : Router σ τ)

lemma routeFields_applyRouteOptions (os : RouteOptions) (m : InboundContext) :
    routeFields (applyRouteOptions r os m) = (routeFields m).apply r.p os := by
  cases hv : r.p.socksaddrIsValid os.overrideAddress <;>
    cases ho : r.p.socksaddrIsValid m.routeOriginalDestination <;>
    by_cases hp : 0 < os.overridePort <;>
    simp [applyRouteOptions,RouteFields.apply,routeFields,hv,ho,hp]

lemma routeFields_actionResolve {a : ResolveAction} {m rs : InboundContext}
    (h : actionResolve r a m = .ok rs) : routeFields rs = routeFields m := by
  unfold actionResolve at h
  split_ifs at h
  · cases hl : r.lookup m m.destination.fqdn a.queryOptions with
    | error => simp [hl] at h
    | ok =>
      simp only [hl] at h
      cases h
      rfl
  · cases h
    rfl

end

section

def Sniffers.allStream (s : Sniffers) : List StreamSniffer :=
  [s.tlsClientHello,s.httpHost,s.streamDomainNameQuery,s.bitTorrent,s.ssh,s.rdp]

def Sniffers.allPacket (s : Sniffers) : List PacketSniffer :=
  [s.domainNameQuery,s.quicClientHello,s.stunMessage,s.utp,s.udpTracker,s.dtlsRecord,s.ntp]

/-- The sniffers write the protocol, the domain, the client and their own context only. -/
def SniffersKeepFields (s : Sniffers) : Prop :=
  (∀ sniffer ∈ s.allStream, ∀ metadata parts, routeFields (sniffer metadata parts).1 = routeFields metadata) ∧
    ∀ sniffer ∈ s.allPacket, ∀ metadata packet, routeFields (sniffer metadata packet).1 = routeFields metadata

/-- The sniffers of an action are built-in ones. -/
def SniffAction.BuiltIn (s : Sniffers) (action : SniffAction) : Prop :=
  action.streamSniffers ⊆ s.allStream ∧ action.packetSniffers ⊆ s.allPacket

lemma Sniffers.named_subset_all {s : Sniffers} {n : String} {ss : List StreamSniffer}
    {pc : List PacketSniffer} (h : s.named n = some (ss,pc)) : ss ⊆ s.allStream ∧ pc ⊆ s.allPacket := by
  unfold Sniffers.named at h
  split at h <;> cases h <;> simp [Sniffers.allStream,Sniffers.allPacket]

lemma SniffAction.build_ok {s : Sniffers} {ns : List String} {a b : SniffAction}
    (h : SniffAction.build s ns a = .ok b) (ha : a.BuiltIn s) :
    b.BuiltIn s ∧ b.overrideDestination = a.overrideDestination := by
  induction ns generalizing a with
  | nil =>
    cases h
    exact ⟨ha,rfl⟩
  | cons n ns ih =>
    rw [SniffAction.build] at h
    cases hn : s.named n with
    | none => simp [hn] at h
    | some fn =>
      obtain ⟨ss,ps⟩ := fn
      obtain ⟨hs,hp⟩ := Sniffers.named_subset_all hn
      simp only [hn] at h
      obtain ⟨hb,ho⟩ := ih h ⟨append_subset.mpr ⟨ha.1,hs⟩,append_subset.mpr ⟨ha.2,hp⟩⟩
      exact ⟨hb,ho⟩

variable {σ τ : Type} {r : Router σ τ}

lemma routeFields_actionSniff (hkp : SniffersKeepFields r.sniffers) {a : SniffAction}
    (ha : a.BuiltIn r.sniffers) (ho : a.overrideDestination = false)
    (mt : InboundContext) (ic : Option σ) (ip : Option τ) (bs : List (List UInt8)) (pb : List PacketBuffer) :
    routeFields (actionSniff r.toSniffEnv a mt ic ip bs pb).metadata = routeFields mt := by
  refine actionSniff_keeps (K := fun m => routeFields m = routeFields mt) ?_ ?_ ?_ ?_ ho rfl
    ic ip bs pb
  · intro s hm mt' ps h
    have hbi : s ∈ r.sniffers.allStream := by
      unfold actionStreamSniffers at hm
      split_ifs at hm
      · exact ha.1 hm
      · exact hm
    rw [hkp.1 s hbi]
    exact h
  · intro s hm mt' pc h
    have hbi : s ∈ r.sniffers.allPacket := by
      unfold actionPacketSniffers at hm
      split_ifs at hm
      · exact ha.2 hm
      · exact hm
    rw [hkp.2 s hbi]
    exact h
  · intro mt' pc h
    rw [hkp.2 _ (by simp [Sniffers.allPacket])]
    exact h
  · intro mt' ns e h
    exact h

end

section
variable {σ τ : Type} (r : Router σ τ) (preMatch pt supportBypass sp : Bool) (start : Pass σ τ)

/-- The variables of the loop before the `i`th rule. -/
def passBefore : ℕ → Pass σ τ
  | 0 => start
  | i + 1 =>
      match r.rules[i]?.map (ruleRound r preMatch supportBypass · (passBefore i)) with
      | some (.next pass) => pass
      | _ => passBefore i

/-- How the loop comes to a selected rule: the rounds before it go on. -/
structure SelectedAt (k : ℕ) (rule : RouteRule) (result : MatchResult σ τ) : Prop where
  getElem : r.rules[k]? = some rule
  selected : ruleRound r preMatch supportBypass rule (passBefore r preMatch supportBypass start k) =
    .selected result.pass
  before : ∀ j < k, ∃ earlier, r.rules[j]? = some earlier ∧
    ruleRound r preMatch supportBypass earlier (passBefore r preMatch supportBypass start j) =
      .next (passBefore r preMatch supportBypass start (j + 1))

variable {r preMatch pt supportBypass sp start} {rl : RouteRule}

/-- The loop from the `i`th rule on. -/
lemma matchLoop_selectedAt {i : ℕ} (hi : i ≤ r.rules.length) (hb : ∀ j < i, ∃ e, r.rules[j]? = some e ∧
      ruleRound r pt sp e (passBefore r pt sp start j) = .next (passBefore r pt sp start (j + 1)))
    (h : (matchLoop r pt sp (r.rules.drop i) i (passBefore r pt sp start i)).selectedRule = some rl) :
    SelectedAt r pt sp start (matchLoop r pt sp (r.rules.drop i) i (passBefore r pt sp start i)).selectedRuleIndex rl
      (matchLoop r pt sp (r.rules.drop i) i (passBefore r pt sp start i)) := by
  -- from the last rule down to the first
  induction hi using Nat.decreasingInduction with
  | self =>
    rw [drop_length] at h
    cases h
  | of_succ i hlt ih =>
    have hrl : r.rules[i]? = some r.rules[i] := getElem?_eq_getElem hlt
    rw [drop_eq_getElem_cons hlt,matchLoop] at h ⊢
    cases hr : ruleRound r pt sp r.rules[i]
        (passBefore r pt sp start i) with
    | next pass =>
      have hn : passBefore r pt sp start (i+1) = pass := by simp [passBefore,hrl,hr]
      simp only [hr] at h ⊢
      rw [← hn] at h ⊢
      refine ih ?_ h
      intro j hj
      by_cases hji : j = i
      · subst hji
        exact ⟨_,hrl,by rw [hr,hn]⟩
      · exact hb j (by omega)
    | selected pass =>
      simp only [hr] at h ⊢
      cases h
      exact ⟨hrl,hr,hb⟩
    | fatal pass err =>
      simp only [hr] at h
      cases h

lemma selectedAt_of_matchLoop (h : (matchLoop r pt sp r.rules 0 start).selectedRule = some rl) :
    SelectedAt r pt sp start (matchLoop r pt sp r.rules 0 start).selectedRuleIndex rl
      (matchLoop r pt sp r.rules 0 start) :=
  matchLoop_selectedAt (Nat.zero_le _) (by intro j hj; omega) h

end

section
variable {σ τ : Type} {r : Router σ τ} {preMatch pt supportBypass sp : Bool} {start : Pass σ τ}
  {parse : String → Socksaddr}

/-- The options of a `route-options` rule that matches. -/
def BuiltRule.stepOptions {s : Sniffers} (rule : BuiltRule parse s) (matched : Bool) : Option RouteOptions :=
  match matched, rule.options with
  | true, .routeOptions options => some (options.carried parse)
  | _, _ => none

section
variable (hk : SniffersKeepFields r.sniffers)
include hk

variable {ps n : Pass σ τ} (rl : BuiltRule parse r.sniffers)

/-- An action that goes on applies the options of a `route-options` rule, and nothing else. -/
lemma routeFields_actionRound_next (h : actionRound r pt sp rl.action ps = .next n) : routeFields n.metadata =
      (rl.stepOptions true).elim (routeFields ps.metadata) ((routeFields ps.metadata).apply r.p) := by
  obtain ⟨rl,os,a,hbl⟩ := rl
  cases os with
  | route outbound os | reject method noDrop | hijackDNS =>
    cases hbl
    cases h
  | routeOptions =>
    cases hbl
    cases h
    exact routeFields_applyRouteOptions r _ _
  | bypass =>
    cases hbl
    simp only [actionRound] at h
    split_ifs at h
    cases h
    rfl
  | direct de =>
    cases de with
    | some => cases hbl
    | none =>
      cases hbl
      cases h
      rfl
  | sniff =>
    obtain ⟨b,hb,rfl⟩ := Outcome.map_eq_ok.mp hbl
    obtain ⟨ha,ho⟩ := SniffAction.build_ok hb (by simp [SniffAction.BuiltIn])
    simp only [actionRound] at h
    split_ifs at h
    · have hf := routeFields_actionSniff hk ha ho ps.metadata ps.inputConn
        ps.inputPacketConn ps.buffers ps.packetBuffers
      simp only [sniffRound] at h
      split at h
      · cases h
      · cases h
        exact hf
    · cases h
      rfl
  | resolve os =>
    cases hbl
    simp only [actionRound] at h
    cases hr : actionResolve r os ps.metadata with
    | error => simp [hr] at h
    | ok =>
      simp only [hr,Round.next.injEq] at h
      subst h
      exact routeFields_actionResolve r hr

lemma routeFields_ruleRound_next (h : ruleRound r pt sp rl.routeRule ps = .next n) : routeFields n.metadata =
      (rl.stepOptions (rl.rule.match (itemMatcher r.p) ps.metadata.resetRuleCache)).elim
        (routeFields ps.metadata) ((routeFields ps.metadata).apply r.p) := by
  simp only [ruleRound,BuiltRule.routeRule] at h
  cases hm : rl.rule.match (itemMatcher r.p) ps.metadata.resetRuleCache with
  | false =>
    simp only [hm,Bool.not_false,if_true,Round.next.injEq] at h
    subst h
    rfl
  | true =>
    simp only [hm,Bool.not_true,Bool.false_eq_true,if_false] at h
    have hf := routeFields_actionRound_next hk rl h
    exact hf

end

/-- The options of the `route-options` rules of the configuration that match before the `k`th rule. -/
def matchedOptions (r : Router σ τ) (preMatch supportBypass : Bool) (start : Pass σ τ)
    (rules : List (BuiltRule parse r.sniffers)) (k : ℕ) : List RouteOptions :=
  (List.range k).filterMap fun i => rules[i]?.bind fun rule =>
    rule.stepOptions (rule.rule.match (itemMatcher r.p)
      (passBefore r preMatch supportBypass start i).metadata.resetRuleCache)

lemma routeFields_passBefore (hkp : SniffersKeepFields r.sniffers)
    {rs : List (BuiltRule parse r.sniffers)} (hrl : r.rules = rs.map BuiltRule.routeRule) (k : ℕ)
    (hb : ∀ j < k, ∃ e, r.rules[j]? = some e ∧ ruleRound r pt sp e (passBefore r pt sp start j) =
        .next (passBefore r pt sp start (j + 1))) : routeFields (passBefore r pt sp start k).metadata =
      (matchedOptions r pt sp start rs k).foldl (RouteFields.apply r.p) (routeFields start.metadata) := by
  induction k with
  | zero => rfl
  | succ k ih =>
    obtain ⟨e,hg,hr⟩ := hb k (by omega)
    rw [hrl,getElem?_map,Option.map_eq_some_iff] at hg
    obtain ⟨rule,hru,rfl⟩ := hg
    have hf := routeFields_ruleRound_next hkp rule hr
    have ih := ih fun j hj => hb j (by omega)
    unfold matchedOptions at ih ⊢
    rw [hf,ih,range_succ,filterMap_append,foldl_append]
    cases hs : rule.stepOptions (rule.rule.match (itemMatcher r.p)
      (passBefore r pt sp start k).metadata.resetRuleCache) <;> simp [hru,hs]

end

section
variable {parse : String → Socksaddr}

/-- The options that a final rule carries: a `route` rule, or a `bypass` rule with an outbound. -/
def RuleActionOptions.finalOptions : RuleActionOptions → Option RawRouteOptions
  | .route _ options => some options
  | .bypass outbound options => if outbound = "" then none else some options
  | _ => none

/-- The options that a final rule carries and does not apply are in force already. -/
def OmittedInForce (p : Platform) (parse : String → Socksaddr) (fields : RouteFields) :
    RuleActionOptions → Prop
  | .route _ options => 0 < options.udpTimeout → options.udpTimeout = fields.udpTimeout
  | .bypass _ options => fields.InForce p (options.carried parse)
  | _ => True

/-- Without `udp_timeout` the fields come out the same exactly where it is in force. -/
lemma apply_without_udpTimeout_iff (p : Platform) (fl : RouteFields) (os : RawRouteOptions) :
    fl.apply p { os.carried parse with udpTimeout := 0 } = fl.apply p (os.carried parse) ↔
      (0 < os.udpTimeout → os.udpTimeout = fl.udpTimeout) := by
  simp only [RouteFields.apply,RawRouteOptions.carried,RouteFields.mk.injEq,true_and,and_true]
  by_cases ht : 0 < os.udpTimeout <;> simp [ht,eq_comm]

variable {σ τ : Type} {r : Router σ τ} {pm sb : Bool} (rl : BuiltRule parse r.sniffers) {ps s : Pass σ τ}
  (h : ruleRound r pm sb rl.routeRule ps = .selected s)
include h

/-- The round of a selected final rule: `route` applies what was built for it, `bypass` nothing. -/
lemma routeFields_ruleRound_selected : (∀ ot os, rl.options = .route ot os → routeFields s.metadata =
        (routeFields ps.metadata).apply r.p { os.carried parse with udpTimeout := 0 }) ∧
    (∀ ot os, rl.options = .bypass ot os → routeFields s.metadata = routeFields ps.metadata) := by
  obtain ⟨rl,os,a,hb⟩ := rl
  simp only [ruleRound,BuiltRule.routeRule] at h
  cases hm : rl.match (itemMatcher r.p) ps.metadata.resetRuleCache with
  | false => simp [hm] at h
  | true =>
    simp only [hm,Bool.not_true,Bool.false_eq_true,if_false] at h
    constructor
    · rintro ot ra rfl
      cases hb
      cases h
      exact routeFields_applyRouteOptions r _ _
    · rintro ot ra rfl
      cases hb
      simp only [actionRound] at h
      split_ifs at h
      cases h
      rfl

lemma finalOptions_round_iff {os : RawRouteOptions} (hf : rl.options.finalOptions = some os) :
    routeFields s.metadata = (routeFields ps.metadata).apply r.p (os.carried parse) ↔
      OmittedInForce r.p parse (routeFields ps.metadata) rl.options := by
  obtain ⟨hr,hb⟩ := routeFields_ruleRound_selected rl h
  cases ho : rl.options with
  | route ot =>
    rw [ho] at hf
    cases hf
    rw [hr ot _ ho]
    exact apply_without_udpTimeout_iff r.p _ _
  | bypass ot =>
    simp only [ho,RuleActionOptions.finalOptions] at hf
    split_ifs at hf
    cases hf
    rw [hb ot _ ho,eq_comm]
    exact RouteFields.apply_eq_self_iff _ _
  | routeOptions raw | direct dialerErr | reject method noDrop | hijackDNS | sniff sniffer timeout
  | resolve => simp [ho,RuleActionOptions.finalOptions] at hf

end

/-- Where `matchRule` selects a final rule, the metadata is the fold of the options of all matched
`route-options` rules and of that rule, exactly where the options that it does not apply are in force. -/
theorem matchRule_applies_options_iff {σ τ : Type} (r : Router σ τ)
    (hkeep : SniffersKeepFields r.sniffers) {parse : String → Socksaddr}
    (rules : List (BuiltRule parse r.sniffers)) (hrules : r.rules = rules.map BuiltRule.routeRule)
    (preMatch supportBypass : Bool) (metadata initial : InboundContext) (inputConn : Option σ)
    (inputPacketConn : Option τ) (hgather : gatherMetadata r metadata = .ok initial)
    (hselected : (matchRule r preMatch supportBypass metadata inputConn inputPacketConn).selectedRule.isSome = true)
    (rule : BuiltRule parse r.sniffers)
    (hrule : rules[(matchRule r preMatch supportBypass metadata inputConn
      inputPacketConn).selectedRuleIndex]? = some rule)
    (options : RawRouteOptions) (hfinal : rule.options.finalOptions = some options) :
    let result := matchRule r preMatch supportBypass metadata inputConn inputPacketConn
    let before := (matchedOptions r preMatch supportBypass { metadata := initial, inputConn, inputPacketConn }
      rules result.selectedRuleIndex).foldl (RouteFields.apply r.p) (routeFields initial)
    routeFields result.pass.metadata = before.apply r.p (options.carried parse) ↔
      OmittedInForce r.p parse before rule.options := by
  simp only [matchRule,hgather] at hselected hrule ⊢
  obtain ⟨selectedRule,hs⟩ := Option.isSome_iff_exists.mp hselected
  have hat := selectedAt_of_matchLoop hs
  have hm : ∀ i : ℕ, r.rules[i]? = rules[i]?.map BuiltRule.routeRule := by
    intro i
    rw [hrules,getElem?_map]
  have hg := hat.getElem
  rw [hm,hrule] at hg
  cases hg
  rw [← routeFields_passBefore hkeep hrules _ hat.before]
  exact finalOptions_round_iff rule hat.selected hfinal

lemma sniffersKeepFields_scriptSniffers : SniffersKeepFields scriptSniffers := by
  constructor <;> intro s hm m d
  · simp only [Sniffers.allStream,scriptSniffers,mem_cons,not_mem_nil,or_false,or_self] at hm
    subst hm
    rfl
  · simp only [Sniffers.allPacket,scriptSniffers,mem_cons,not_mem_nil,or_false,or_self] at hm
    subst hm
    rfl

def noAddress (_ : String) : Socksaddr := {}

def matchAll : HeadlessRule := .default ⟨[],none,false⟩

def routeAll (options : RawRouteOptions) : BuiltRule noAddress scriptSniffers := ⟨matchAll,.route "out" options,_,rfl⟩

def bypassAll (options : RawRouteOptions) : BuiltRule noAddress scriptSniffers :=
  ⟨matchAll,.bypass "out" options,_,rfl⟩

def optionsAll (options : RawRouteOptions) : BuiltRule noAddress scriptSniffers :=
  ⟨matchAll,.routeOptions options,_,rfl⟩

def timeoutRules : List (BuiltRule noAddress scriptSniffers) :=
  [optionsAll { udpTimeout := 60 },routeAll { udpConnect := true, udpTimeout := 60 }]

/-- The timeout of the `route` rule is in force by the `route-options` rule before it. -/
theorem matchRule_applies_options_udpTimeout :
    let r := (scriptRouter (timeoutRules.map BuiltRule.routeRule)).toRouter
    let result := matchRule r false false {} none none
    let before := (matchedOptions r false false { metadata := {}, inputConn := none, inputPacketConn := none }
      timeoutRules result.selectedRuleIndex).foldl (RouteFields.apply r.p) (routeFields {})
    (result.selectedRuleIndex = 1 ∧ result.pass.metadata.udpTimeout = 60) ∧
      routeFields result.pass.metadata = before.apply r.p
        (RawRouteOptions.carried noAddress { udpConnect := true, udpTimeout := 60 }) := by
  refine ⟨by decide +kernel,?_⟩
  refine (matchRule_applies_options_iff (scriptRouter (timeoutRules.map BuiltRule.routeRule)).toRouter
    sniffersKeepFields_scriptSniffers timeoutRules rfl false false {} {} none none rfl (by decide +kernel)
    (routeAll { udpConnect := true, udpTimeout := 60 }) rfl { udpConnect := true, udpTimeout := 60 }
    rfl).mpr ?_
  intro _
  decide +kernel

/-- A `bypass` rule does not override the port, and a `route` rule loses its timeout. -/
theorem matchRule_drops_options :
    let metadata : InboundContext := { destination := { addr := .v4 0x0a000001#32, port := 443 } }
    let port : RawRouteOptions := { overridePort := 8443 }
    let timeout : RawRouteOptions := { udpTimeout := 60 }
    let bypassed := matchRule (scriptRouter [(bypassAll port).routeRule]).toRouter false false metadata none none
    let routed := matchRule (scriptRouter [(routeAll timeout).routeRule]).toRouter false false metadata none none
    (bypassed.selectedRule.isSome = true ∧ bypassed.pass.metadata.destination.port = 443 ∧
      ((routeFields metadata).apply bareHost (port.carried noAddress)).destination.port = 8443) ∧
    (routed.selectedRule.isSome = true ∧ routed.pass.metadata.udpTimeout = 0 ∧
      ((routeFields metadata).apply bareHost (timeout.carried noAddress)).udpTimeout = 60) := by
  decide +kernel

end SingBox.Route
