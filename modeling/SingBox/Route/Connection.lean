import SingBox.Route.MatchRule
import SingBox.Route.ReadAhead

/-! `routeConnection` and `routePacketConnection`: what was read ahead for sniffing is put back in front
of the connection before an outbound gets it. -/
namespace SingBox.Route
open Adapter List

structure Outbound where
  tag : String
  network : List Network
  deriving DecidableEq

structure Inbound where
  tcpInjectable : Bool
  udpInjectable : Bool

/-- The router with the inbounds, outbounds and trackers around it; trackers wrap a connection
without taking part in what it carries. -/
structure ConnectionRouter (σ τ : Type) extends Router σ τ where
  inbound : String → Option Inbound
  outbound : String → Option Outbound
  defaultOutbound : Outbound
  muxDestination : String
  vmessMuxDestination : String
  uotMagicAddress : String
  uotLegacyMagicAddress : String
  trackers : List (σ → InboundContext → Option RouteRule → Option Outbound → σ)
  packetTrackers : List (τ → InboundContext → Option RouteRule → Option Outbound → τ)
  pending_trackers : ∀ tracker ∈ trackers, ∀ conn metadata rule outbound,
    streams.pending (tracker conn metadata rule outbound) = streams.pending conn
  pending_packetTrackers : ∀ tracker ∈ packetTrackers, ∀ conn metadata rule outbound,
    packets.pending (tracker conn metadata rule outbound) = packets.pending conn

inductive Routed (α : Type)
  | failed (err : GoError)
  | rejected (method : RejectMethod) (noDrop : Bool)
  | injected (inbound : String) (conn : α) (metadata : InboundContext)
  | hijackDNS (conn : α) (packetBuffers : List PacketBuffer) (metadata : InboundContext)
  | panicked
  | outbound (selected : Option Outbound) (conn : α) (metadata : InboundContext)

def Routed.panics {α : Type} : Routed α → Bool
  | .panicked => true
  | _ => false

def Routed.toOutbound {α : Type} : Routed α → Option α
  | .outbound _ conn _ => some conn
  | _ => none

inductive Selection
  | failed (err : GoError)
  | rejected (method : RejectMethod) (noDrop : Bool)
  | hijackDNS
  | outbound (selected : Option Outbound)

variable {σ τ : Type} (r : ConnectionRouter σ τ)

def lookupOutbound (network : Network) (title tag : String) : Selection :=
  match r.outbound tag with
  | none => .failed { text := "outbound not found: " ++ tag }
  | some outbound =>
      if !outbound.network.contains network then
        .failed { text := title ++ " is not supported by outbound: " ++ outbound.tag }
      else .outbound (some outbound)

/-- The switch over the selected rule; `fallback` names the default outbound in its error. -/
def selectOutbound (network : Network) (title fallback : String) : Option RouteRule → Selection
  | none =>
      if !r.defaultOutbound.network.contains network then
        .failed { text := title ++ " is not supported by " ++ fallback ++ r.defaultOutbound.tag }
      else .outbound (some r.defaultOutbound)
  | some rule =>
      match rule.action with
      | .route tag _ => lookupOutbound r network title tag
      | .bypass tag _ => if tag == "" then .outbound none else lookupOutbound r network title tag
      | .reject method noDrop =>
          if method = .reply then
            .failed { text := "reject method \x60reply\x60 is not supported for " ++ title ++ " connections" }
          else .rejected method noDrop
      | .hijackDNS => .hijackDNS
      | _ => .outbound none

def injectDetour {α : Type} (injectable : Inbound → Bool) (title : String) (conn : α)
    (metadata : InboundContext) : Routed α :=
  if metadata.lastInbound == metadata.inboundDetour then
    .failed { text := "routing loop on detour: " ++ metadata.inboundDetour }
  else
    match r.inbound metadata.inboundDetour with
    | none => .failed { text := "inbound detour not found: " ++ metadata.inboundDetour }
    | some detour =>
        if !injectable detour then
          .failed { text := "inbound detour is not " ++ title ++ " injectable: " ++ metadata.inboundDetour }
        else
          .injected metadata.inboundDetour conn
            { metadata with
              lastInbound := metadata.inbound
              inbound := metadata.inboundDetour
              inboundDetour := "" }

def deprecatedDestination (fqdn : String) : Option GoError :=
  if fqdn == r.muxDestination then
    some { text := "global multiplex is deprecated since sing-box v1.7.0, enable multiplex in Inbound fields instead." }
  else if fqdn == r.vmessMuxDestination then
    some { text := "global multiplex (v2ray legacy) not supported since sing-box v1.7.0." }
  else if fqdn == r.uotMagicAddress then
    some { text := "global UoT not supported since sing-box v1.7.0." }
  else if fqdn == r.uotLegacyMagicAddress then
    some { text := "global UoT (legacy) not supported since sing-box v1.7.0." }
  else none

/-- The pass over the rules that `routeConnection` makes. -/
def matchConnection (conn : σ) (metadata : InboundContext) : MatchResult σ τ :=
  let conn := if r.streams.needAdditionalReadDeadline conn then r.streams.newDeadlineConn conn else conn
  matchRule r.toRouter false false { metadata with network := .tcp } (some conn) none

def routeConnection (conn : σ) (metadata : InboundContext) : Routed σ :=
  if metadata.inboundDetour != "" then injectDetour r Inbound.tcpInjectable "TCP" conn metadata
  else
    match deprecatedDestination r metadata.destination.fqdn with
    | some err => .failed err
    | none =>
        let result := matchConnection r conn metadata
        match result.fatalErr with
        | some err => .failed err
        | none =>
            let metadata := result.pass.metadata
            let conn := result.pass.buffers.foldl r.streams.newCachedConn (result.pass.inputConn.getD conn)
            match selectOutbound r .tcp "TCP" "default outbound: " result.selectedRule with
            | .failed err => .failed err
            | .rejected method noDrop => .rejected method noDrop
            | .hijackDNS => .hijackDNS conn [] metadata
            | .outbound selected =>
                .outbound selected
                  (r.trackers.foldl (fun conn tracker => tracker conn metadata result.selectedRule selected) conn)
                  metadata

/-- The pass over the rules that `routePacketConnection` makes. -/
def matchPacketConnection (conn : τ) (metadata : InboundContext) : MatchResult σ τ :=
  matchRule r.toRouter false false { metadata with network := .udp } none (some conn)

def natConn (metadata : InboundContext) (conn : τ) : τ :=
  if metadata.fakeIP then
    r.packets.newNATPacketConn conn metadata.originDestination metadata.destination
  else conn

/-- The loop over the packets: `N.PutPacketBuffer` clears what a pointer leads to, and there is no wrapper for a buffer that
was cleared. -/
def cachePackets : List PacketBuffer → List ℕ → τ → Option τ
  | [], _, conn => some conn
  | packet :: packets, cleared, conn =>
      if packet.pointer ∈ cleared then none
      else cachePackets packets (packet.pointer :: cleared) (r.packets.newCachedPacketConn conn packet.toPacket)

def routePacketConnection (conn : τ) (metadata : InboundContext) : Routed τ :=
  if metadata.inboundDetour != "" then injectDetour r Inbound.udpInjectable "UDP" conn metadata
  else
    let result := matchPacketConnection r conn metadata
    match result.fatalErr with
    | some err => .failed err
    | none =>
        let metadata := result.pass.metadata
        let conn := result.pass.inputPacketConn.getD conn
        match selectOutbound r .udp "UDP" "outbound: " result.selectedRule with
        | .failed err => .failed err
        | .rejected method noDrop => .rejected method noDrop
        | .hijackDNS => .hijackDNS conn result.pass.packetBuffers metadata
        | .outbound selected =>
            match cachePackets r result.pass.packetBuffers [] conn with
            | none => .panicked
            | some conn =>
                let conn := r.packetTrackers.foldl
                  (fun conn tracker => tracker conn metadata result.selectedRule selected) conn
                .outbound selected (natConn r metadata conn) metadata

inductive RejectedError
  | reset
  | drop

/-- `RuleActionReject.Error` at `timeNow`, in nanoseconds: its error, and the `dropCounter` after it. -/
def RejectMethod.error (method : RejectMethod) (noDrop : Bool) (dropCounter : List ℕ) (timeNow : ℕ) :
    Option RejectedError × List ℕ :=
  match method with
  | .default =>
      if noDrop then (some .reset,dropCounter)
      else
        let dropCounter := dropCounter.filter (timeNow-· ≤ 30*10^9)++[timeNow]
        (some (if 50 < dropCounter.length then .drop else .reset),dropCounter)
  | .drop => (some .drop,dropCounter)
  | .reply => (none,dropCounter)

/-- The `dropCounter` after rejections at these times, the latest first. -/
def dropCounter : List ℕ → List ℕ
  | [] => []
  | timeNow :: times => (RejectMethod.default.error false (dropCounter times) timeNow).2

lemma countP_dropCounter {ts : List ℕ} {n : ℕ} (h : ∀ t ∈ ts, t ≤ n) :
    (dropCounter ts).countP (n-· ≤ 30*10^9) = ts.countP (n-· ≤ 30*10^9) := by
  induction ts with
  | nil => rfl
  | cons t ts ih =>
    obtain ⟨ht,hts⟩ := forall_mem_cons.mp h
    rw [countP_cons,← ih hts]
    change (_++[t]).countP _ = _
    rw [countP_append,countP_filter,countP_singleton]
    congr 1
    -- what the rejection at `t` forgets is out of date at `n` as well
    refine countP_congr fun x _ => ?_
    grind

/-- Unless `no_drop` is set, a connection is dropped exactly when 50 before it came within 30 seconds. -/
theorem error_drop_iff (times : List ℕ) (timeNow : ℕ) (h : ∀ t ∈ times, t ≤ timeNow) :
    (RejectMethod.default.error false (dropCounter times) timeNow).1 = some .drop ↔
      50 ≤ times.countP (timeNow-· ≤ 30*10^9) := by
  rw [← countP_dropCounter h,countP_eq_length_filter]
  simp [RejectMethod.error]

theorem error_drop_flooded : (RejectMethod.default.error false (dropCounter (.replicate 50 0)) 1).1 = some .drop :=
  (error_drop_iff _ 1 (by decide)).mpr (by decide)

end SingBox.Route
