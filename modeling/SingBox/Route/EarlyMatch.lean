import SingBox.Library.Outcome
import SingBox.Route.Script

/-! `Router.PreMatch`: a pass over the rules before the connection is accepted. It reads nothing from
the client, so it stops at the first sniff action; what it decides before that, the full pass decides
as well. -/
namespace SingBox.Route
open Adapter Rule

section
variable {σ τ : Type} (r : ConnectionRouter σ τ)

/-- The outcomes of `PreMatch`; `undecided` leaves the connection to the full pass. -/
inductive Verdict
  | undecided
  | failed (err : GoError)
  | rejected (method : RejectMethod) (noDrop : Bool)
  | bypassed
  | direct (outbound : Outbound) (metadata : InboundContext)

def networkName : Network → String
  | .tcp => "tcp"
  | .udp => "udp"
  | .icmp => "icmp"
  | .unset => ""

/-- `DirectRouteDestination` for the destination, resolved to the family of the source. -/
def directRoute (outbound : Outbound) (metadata : InboundContext) : Verdict :=
  if r.p.socksaddrIsDomain metadata.destination then
    let isIPv4 := r.p.socksaddrIsIPv4 metadata.source
    let resolved :=
      if metadata.destinationAddresses.length = 0 then
        actionResolve r.toRouter { strategy := if isIPv4 then .ipv4Only else .ipv6Only } metadata
      else .ok metadata
    match resolved with
    | .error err => .failed err
    | .ok metadata =>
        match metadata.destinationAddresses.find? (if isIPv4 then Addr.is4 else Addr.is6) with
        | some newDestination => .direct outbound { metadata with destination := { addr := newDestination } }
        | none =>
            .failed { text := (if isIPv4 then "no IPv4 address found for domain: "
              else "no IPv6 address found for domain: ") ++ metadata.destination.fqdn }
  else .direct outbound metadata

def namedDirectRoute (hasContext : Bool) (tag : String) (metadata : InboundContext) : Verdict :=
  if !hasContext then .undecided
  else
    match r.outbound tag with
    | none => .failed { text := "outbound not found: " ++ tag }
    | some outbound =>
        if !outbound.network.contains metadata.network then
          .failed { text := networkName metadata.network ++ " is not supported by outbound: " ++ tag }
        else directRoute r outbound metadata

def preMatch (metadata : InboundContext) (hasContext supportBypass : Bool) : Verdict :=
  let result := matchRule r.toRouter true supportBypass metadata none none
  let metadata := result.pass.metadata
  match result.fatalErr with
  | some err => .failed err
  | none =>
      match result.selectedRule with
      | none =>
          if metadata.network ≠ .icmp then .undecided
          else if !r.defaultOutbound.network.contains metadata.network then
            .failed { text := networkName metadata.network ++ " is not supported by default outbound: " ++
              r.defaultOutbound.tag }
          else directRoute r r.defaultOutbound metadata
      | some rule =>
          match rule.action with
          | .reject method noDrop =>
              if metadata.network = .tcp ∧ method = .reply then
                .failed { text := "reject method \x60reply\x60 is not supported for TCP connections" }
              else if metadata.network = .udp ∧ method = .reply then
                .failed { text := "reject method \x60reply\x60 is not supported for UDP connections" }
              else .rejected method noDrop
          | .bypass tag _ => if supportBypass then .bypassed else namedDirectRoute r hasContext tag metadata
          | .route tag _ => namedDirectRoute r hasContext tag metadata
          | _ => .undecided

end

section
variable {σ τ : Type} (r : Router σ τ)

def RuleAction.decides : RuleAction → Bool
  | .route _ _ => true
  | .reject _ _ => true
  | _ => false

variable (os : RouteOptions) (metadata : InboundContext)

lemma applyRouteOptions_network : (applyRouteOptions r os metadata).network = metadata.network := by
  simp only [applyRouteOptions]
  split_ifs <;> rfl

variable {metadata mt' : InboundContext}

lemma actionResolve_network {a : ResolveAction}
    (h : actionResolve r a metadata = .ok mt') : mt'.network = metadata.network := by
  unfold actionResolve at h
  split_ifs at h
  · cases hl : r.lookup metadata metadata.destination.fqdn a.queryOptions with
    | error => simp [hl] at h
    | ok =>
      simp only [hl] at h
      cases h
      rfl
  · cases h
    rfl

lemma searchProcess_network : (searchProcess r metadata).network = metadata.network := by
  unfold searchProcess
  split
  · simp only
    split <;> rfl
  · rfl

lemma resolveNeighbor_network : (resolveNeighbor r metadata).network = metadata.network := by
  unfold resolveNeighbor
  split
  · rfl
  · split_ifs <;> rfl

lemma mapDestination_network (h : mapDestination r metadata = .ok mt') : mt'.network = metadata.network := by
  unfold mapDestination at h
  split at h
  · split at h
    · cases h
    · split_ifs at h <;> cases h <;> rfl
  · split_ifs at h
    · split at h <;> cases h <;> rfl
    · cases h
      rfl

lemma gatherMetadata_network (h : gatherMetadata r metadata = .ok mt') : mt'.network = metadata.network := by
  obtain ⟨m,hm,rfl⟩ := Outcome.map_eq_ok.mp h
  have hv : (setIPVersion r m).network = m.network := by
    unfold setIPVersion
    split_ifs <;> rfl
  rw [hv,mapDestination_network r hm,resolveNeighbor_network,searchProcess_network]

/-- A round of the early pass against the same round of the full one: where the early pass goes on, so
does the full one, and what decides early is selected by both. -/
def Agrees (network : Network) (decides : Bool) : Round σ τ → Round σ τ → Prop
  | .next early, full =>
      early.metadata.network = network ∧ ∃ full', full = .next full' ∧ full'.metadata = early.metadata
  | .selected early, full =>
      early.metadata.network = network ∧
        (decides = true → ∃ full', full = .selected full' ∧ full'.metadata = early.metadata)
  | .fatal _ _, _ => True

section
variable {n : Network} (hi : n ≠ .icmp) (sb : Bool)
include hi

section
variable {e f : Pass σ τ} (hmt : f.metadata = e.metadata) (hnt : e.metadata.network = n)
include hmt hnt

lemma actionRound_agrees (a : RuleAction) : Agrees n a.decides (actionRound r true sb a e)
      (actionRound r false false a f) := by
  cases a with
  | route o os =>
    exact ⟨(applyRouteOptions_network r os _).trans hnt, fun _ => ⟨_,rfl,congrArg (applyRouteOptions r os) hmt⟩⟩
  | routeOptions os =>
    exact ⟨(applyRouteOptions_network r os _).trans hnt,_,rfl, congrArg (applyRouteOptions r os) hmt⟩
  | bypass =>
    simp only [actionRound]
    split_ifs with hs hf
    · exact ⟨hnt,f,rfl,hmt⟩
    · -- an empty outbound is skipped by the full pass whatever the caller supports
      rw [Bool.and_eq_true] at hs
      exact absurd hs.2 (by simpa using hf)
    all_goals exact ⟨hnt,fun hd => by cases hd⟩
  | direct => exact ⟨hnt,f,rfl,hmt⟩
  | reject => exact ⟨hnt,fun _ => ⟨f,rfl,hmt⟩⟩
  | hijackDNS => exact ⟨hnt,fun hd => by cases hd⟩
  | sniff a =>
    -- the early pass stops here, without a decision
    have hne : e.metadata.network ≠ .icmp := hnt ▸ hi
    simp only [actionRound,Bool.not_true,Bool.false_eq_true,if_false,if_pos hne]
    exact ⟨hnt,fun hd => by cases hd⟩
  | resolve a =>
    simp only [actionRound,hmt]
    cases hr : actionResolve r a e.metadata with
    | error => exact trivial
    | ok => exact ⟨(actionResolve_network r hr).trans hnt,_,rfl,rfl⟩

lemma ruleRound_agrees (rl : RouteRule) : Agrees n rl.action.decides (ruleRound r true sb rl e)
      (ruleRound r false false rl f) := by
  simp only [ruleRound,hmt]
  split_ifs
  · exact ⟨hnt,_,rfl,rfl⟩
  · exact actionRound_agrees r hi sb (by rfl) (by exact hnt) rl.action

lemma matchLoop_agrees (rl : List RouteRule) (i : ℕ) {ru : RouteRule}
    (hrl : (matchLoop r true sb rl i e).selectedRule = some ru)
    (hdc : ru.action.decides = true) :
    let d := matchLoop r true sb rl i e
    let rs := matchLoop r false false rl i f
    d.pass.metadata.network = n ∧ rs.fatalErr = none ∧ rs.selectedRule = some ru ∧
      rs.selectedRuleIndex = d.selectedRuleIndex ∧
      rs.pass.metadata = d.pass.metadata := by
  induction rl generalizing i e f with
  | nil => cases hrl
  | cons head rl ih =>
    have ha := ruleRound_agrees r hi sb hmt hnt head
    rw [matchLoop] at hrl
    simp only [matchLoop]
    cases hr : ruleRound r true sb head e with
    | next =>
      rw [hr] at ha
      obtain ⟨hn',fl',hf,hm'⟩ := ha
      simp only [hr] at hrl
      rw [hf]
      exact ih hm' hn' (i+1) hrl
    | selected =>
      rw [hr] at ha
      simp only [hr] at hrl
      cases hrl
      obtain ⟨hn',hd⟩ := ha
      obtain ⟨fl',hf,hm'⟩ := hd hdc
      rw [hf]
      exact ⟨hn',rfl,rfl,rfl,hm'⟩
    | fatal =>
      simp only [hr] at hrl
      cases hrl

end

lemma matchRule_agrees {metadata : InboundContext} (hn : metadata.network = n)
    (ic : Option σ) (ip : Option τ) {rl : RouteRule}
    (hr : (matchRule r true sb metadata none none).selectedRule = some rl)
    (hd : rl.action.decides = true) :
    let d := matchRule r true sb metadata none none
    let rs := matchRule r false false metadata ic ip
    d.pass.metadata.network = n ∧ rs.fatalErr = none ∧ rs.selectedRule = some rl ∧
      rs.selectedRuleIndex = d.selectedRuleIndex ∧
      rs.pass.metadata = d.pass.metadata := by
  simp only [matchRule] at hr ⊢
  cases hg : gatherMetadata r metadata with
  | error =>
    simp only [hg] at hr
    cases hr
  | ok mt' =>
    simp only [hg] at hr
    have hs : (⟨mt',ic,ip,[],[]⟩ : Pass σ τ).metadata = (⟨mt',none,none,[],[]⟩ : Pass σ τ).metadata := rfl
    exact matchLoop_agrees r hi sb hs
      ((gatherMetadata_network r hg).trans hn) r.rules 0 hr hd

end

/-- A route or reject rule that the early pass selects is the one that the full pass selects, at the
same index and with the same destination. -/
theorem matchRule_preMatch_agrees (supportBypass : Bool) (metadata : InboundContext)
    (hnetwork : metadata.network = .tcp ∨ metadata.network = .udp) (inputConn : Option σ)
    (inputPacketConn : Option τ) (rule : RouteRule)
    (hrule : (matchRule r true supportBypass metadata none none).selectedRule = some rule)
    (hdecides : rule.action.decides = true) :
    let decision := matchRule r true supportBypass metadata none none
    let result := matchRule r false false metadata inputConn inputPacketConn
    result.fatalErr = none ∧ result.selectedRule = some rule ∧ result.selectedRuleIndex = decision.selectedRuleIndex ∧
      result.pass.metadata.destination = decision.pass.metadata.destination := by
  have hic : metadata.network ≠ .icmp := by
    rcases hnetwork with h | h
    all_goals rw [h]; decide
  obtain ⟨_,hok,hs,hin,hm⟩ :=
    matchRule_agrees r hic supportBypass rfl inputConn inputPacketConn hrule hdecides
  exact ⟨hok,hs,hin,congrArg InboundContext.destination hm⟩

/-- The options before a `reject` rule are applied in both passes, and a bypass without outbound is
skipped; the sniff rule after it is never reached. -/
theorem matchRule_preMatch_agrees_reject :
    let port : HeadlessRule := .default ⟨[.port false [443]],none,false⟩
    let moved : HeadlessRule := .default ⟨[.port false [8443]],none,false⟩
    let reject : RouteRule := ⟨moved,.reject .default false⟩
    let r := (scriptRouter [⟨port,.bypass "" {}⟩,⟨port,.routeOptions { overridePort := 8443 }⟩,reject,
      sniffRule 8443 {}]).toRouter
    let metadata : InboundContext := { network := .tcp, destination := { port := 443 } }
    let decision := matchRule r true false metadata none none
    let result := matchRule r false false metadata (some [([1],none)]) none
    decision.selectedRuleIndex = 2 ∧ decision.pass.metadata.destination.port = 8443 ∧
      result.fatalErr = none ∧ result.selectedRule = some reject ∧
      result.selectedRuleIndex = decision.selectedRuleIndex ∧
      result.pass.metadata.destination = decision.pass.metadata.destination := by
  intro port moved reject r metadata decision result
  have hin : decision.selectedRuleIndex = 2 := by decide +kernel
  have hr : decision.selectedRule = some reject := by
    rw [matchRule_selectedRule r true false metadata none none (by decide +kernel)]
    exact congrArg (r.rules[·]?) hin
  exact ⟨hin,by decide +kernel,
    matchRule_preMatch_agrees r false metadata (Or.inl rfl) (some [([1],none)]) none reject hr rfl⟩

end

variable {σ τ : Type} (r : ConnectionRouter σ τ) {metadata : InboundContext} {method : RejectMethod}
  {hasContext supportBypass noDrop : Bool} (h : preMatch r metadata hasContext supportBypass = .rejected method noDrop)
include h

/-- Inversion of a rejecting `PreMatch`. -/
lemma preMatch_rejected :
    let rs := matchRule r.toRouter true supportBypass metadata none none
    ∃ rl, rs.selectedRule = some rl ∧ rl.action = .reject method noDrop ∧
      (rs.pass.metadata.network = .tcp ∨ rs.pass.metadata.network = .udp → method ≠ .reply) := by
  have hd : ∀ o m, directRoute r o m ≠ .rejected method noDrop := by
    intro o m hr
    simp only [directRoute] at hr
    split_ifs at hr
    all_goals
      split at hr
      · cases hr
      · split at hr <;> cases hr
  have hn : ∀ t m, namedDirectRoute r hasContext t m ≠ .rejected method noDrop := by
    intro t m hr
    simp only [namedDirectRoute] at hr
    split_ifs at hr
    split at hr
    · cases hr
    · split_ifs at hr
      exact hd _ _ hr
  simp only [preMatch] at h
  split at h
  · cases h
  · split at h
    · split_ifs at h
      exact absurd h (hd _ _)
    · rename_i rl hrl
      refine ⟨rl,hrl,?_⟩
      split at h
      · rename_i ha
        split_ifs at h with ht hu
        cases h
        exact ⟨ha,fun hnw hrp => hnw.elim (ht ⟨·,hrp⟩) (hu ⟨·,hrp⟩)⟩
      · split_ifs at h
        exact absurd h (hn _ _)
      · exact absurd h (hn _ _)
      · cases h

lemma rejected_in_full_pass {n : Network} (hn : metadata.network = n)
    (ht : n = .tcp ∨ n = .udp) (ic : Option σ) (ip : Option τ) (ti fb : String) :
    let rs := matchRule r.toRouter false false { metadata with network := n } ic ip
    rs.fatalErr = none ∧ selectOutbound r n ti fb rs.selectedRule = .rejected method noDrop := by
  obtain ⟨rl,hrl,ha,hr⟩ := preMatch_rejected r h
  subst hn
  have hi : metadata.network ≠ .icmp := by grind
  obtain ⟨hf,hok,hs,_⟩ := matchRule_agrees r.toRouter hi supportBypass rfl ic ip hrl (ha ▸ rfl)
  simp only [hok,hs,selectOutbound,ha,if_neg (hr (hf ▸ ht)),and_self]

/-- A connection that `PreMatch` rejects would be rejected by the full pass in the same way. -/
theorem preMatch_rejection_agrees (hdetour : metadata.inboundDetour = "") :
    (metadata.network = .tcp → deprecatedDestination r metadata.destination.fqdn = none →
      ∀ conn, routeConnection r conn metadata = .rejected method noDrop) ∧
    (metadata.network = .udp → ∀ conn, routePacketConnection r conn metadata = .rejected method noDrop) := by
  have hi : ¬(metadata.inboundDetour != "") = true := by simp [hdetour]
  refine ⟨fun hn hd conn => ?_,fun hn conn => ?_⟩
  · have hm ic := rejected_in_full_pass r h hn (.inl rfl) ic none "TCP" "default outbound: "
    simp only [routeConnection,if_neg hi,hd,matchConnection,(hm _).1,(hm _).2]
  · have hm := rejected_in_full_pass r h hn (.inr rfl) none (some conn) "UDP" "outbound: "
    simp only [routePacketConnection,if_neg hi,matchPacketConnection,hm.1,hm.2]

omit h in
theorem preMatch_rejection_agrees_udp :
    let r := scriptRouter [⟨.default ⟨[.port false [443]],none,false⟩,.reject .drop false⟩]
    let metadata : InboundContext := { network := .udp, destination := { port := 443 } }
    preMatch r metadata false false = .rejected .drop false ∧
      routePacketConnection r [] metadata = .rejected .drop false := by
  intro r metadata
  have hv : preMatch r metadata false false matches .rejected .drop false := by decide +kernel
  split at hv
  · next h => exact ⟨h,(preMatch_rejection_agrees r h rfl).2 rfl []⟩
  · cases hv

end SingBox.Route
