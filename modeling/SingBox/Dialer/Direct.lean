import SingBox.Dialer.Parallel

/-! The network options of a connection on its way through a direct outbound: the connection manager, the outbound, the
resolving dialer around the default one, and the default dialer, which selects interfaces. Dialing stops at a success, so
the calls listed here are those that are made in some course of events. -/
namespace SingBox.Dialer
open Adapter List

/-- `network_strategy`, `network_type`, `fallback_network_type` and `fallback_delay`. -/
structure NetworkOptions where
  strategy : Option NetworkStrategy := none
  interfaceType : List InterfaceType := []
  fallbackInterfaceType : List InterfaceType := []
  fallbackDelay : ℤ := 0
  deriving DecidableEq

structure Selection where
  strategy : NetworkStrategy
  interfaceType : List InterfaceType
  fallbackInterfaceType : List InterfaceType
  fallbackDelay : ℤ
  deriving DecidableEq

def Selection.interfaces (selection : Selection) (networkManager : NetworkManager) : List Interface × List Interface :=
  selectInterfaces networkManager selection.strategy selection.interfaceType selection.fallbackInterfaceType

inductive Opening
  | plain
  | selected (selection : Selection)
  deriving DecidableEq

/-- The questions that are asked of a `M.Socksaddr`. -/
structure SocksaddrOps where
  isIP : Socksaddr → Bool
  isDomain : Socksaddr → Bool
  isValid : Socksaddr → Bool
  isDomain_addr : ∀ address port, isDomain { addr := address, port := port } = false

/-- The part of `DefaultDialer` that concerns interfaces. -/
structure DefaultDialer where
  networkStrategy : Option NetworkStrategy := none
  defaultNetworkStrategy : Bool := false
  networkType : List InterfaceType := []
  fallbackNetworkType : List InterfaceType := []
  networkFallbackDelay : ℤ := 0

namespace DefaultDialer

def completed (d : DefaultDialer) (strategy : NetworkStrategy) (options : NetworkOptions) : Selection where
  strategy := strategy
  interfaceType := if options.interfaceType.length = 0 then d.networkType else options.interfaceType
  fallbackInterfaceType :=
    if options.fallbackInterfaceType.length = 0 then d.fallbackNetworkType else options.fallbackInterfaceType
  fallbackDelay := if options.fallbackDelay = 0 then d.networkFallbackDelay else options.fallbackDelay

/-- The common part of `DialParallelInterface` and `ListenSerialInterfacePacket`. Where binding to an interface is not
permitted, a dialer with the default strategy gives it up and opens the socket without. -/
def openWith (d : DefaultDialer) (options : NetworkOptions) (notPermitted : Bool) : DefaultDialer × List Opening :=
  match options.strategy <|> d.networkStrategy with
  | none => (d,[.plain])
  | some strategy =>
      let selection := d.completed strategy options
      if d.defaultNetworkStrategy && notPermitted then
        ({ d with networkStrategy := none },[.selected selection,.plain])
      else (d,[.selected selection])

/-- The options go no further where the destination is not a domain. -/
def dialParallelInterface (d : DefaultDialer) (options : NetworkOptions) (notPermitted : Bool) :
    DefaultDialer × List Opening := d.openWith options notPermitted

def listenSerialInterfacePacket (d : DefaultDialer) (options : NetworkOptions) (notPermitted : Bool) :
    DefaultDialer × List Opening := d.openWith options notPermitted

def own (d : DefaultDialer) : NetworkOptions :=
  ⟨d.networkStrategy,d.networkType,d.fallbackNetworkType,d.networkFallbackDelay⟩

def dialContext (ops : SocksaddrOps) (d : DefaultDialer) (address : Socksaddr) (notPermitted : Bool) :
    DefaultDialer × List Opening :=
  if !ops.isValid address then (d,[])
  else if ops.isDomain address then (d,[])
  else if d.networkStrategy.isNone then (d,[.plain])
  else d.dialParallelInterface d.own notPermitted

def listenPacket (d : DefaultDialer) (notPermitted : Bool) : DefaultDialer × List Opening :=
  if d.networkStrategy.isNone then (d,[.plain]) else d.listenSerialInterfacePacket d.own notPermitted

def expected (d : DefaultDialer) (options : NetworkOptions) : Opening :=
  match options.strategy <|> d.networkStrategy with
  | none => .plain
  | some strategy => .selected (d.completed strategy options)

end DefaultDialer

inductive Call
  | dialContext (address : Socksaddr)
  | dialParallelInterface (address : Socksaddr) (options : NetworkOptions)
  | listenPacket (destination : Socksaddr)
  | listenSerialInterfacePacket (destination : Socksaddr) (options : NetworkOptions)

def Call.run (ops : SocksaddrOps) (d : DefaultDialer) (notPermitted : Bool) : Call → DefaultDialer × List Opening
  | .dialContext address => d.dialContext ops address notPermitted
  | .dialParallelInterface _ options => d.dialParallelInterface options notPermitted
  | .listenPacket _ => d.listenPacket notPermitted
  | .listenSerialInterfacePacket _ options => d.listenSerialInterfacePacket options notPermitted

/-- `N.DefaultFallbackDelay`. -/
def defaultFallbackDelay : ℤ := 300000000

section
variable (ops : SocksaddrOps)

/-- The addresses to dial. Without addresses a destination that is not an IP address panics. -/
def targets (destination : Socksaddr) (addresses : List Addr) : List Addr :=
  if addresses.length = 0 then if ops.isIP destination then [destination.addr] else [] else addresses

/-- The loops over addresses: `DialSerialNetwork`, `ListenSerialNetworkPacket`, and `DialSerial`, `DialParallel` and
`ListenSerial` of package `network`. -/
def serialCalls (dial : Socksaddr → List Call) (destination : Socksaddr) (addresses : List Addr) : List Call :=
  addresses.flatMap fun address => dial { addr := address, port := destination.port }

/-- `DialParallelNetwork`. -/
def parallelNetworkCalls (dial : Socksaddr → NetworkOptions → List Call) (destination : Socksaddr) (addresses : List Addr)
    (preferIPv6 : Bool) (options : NetworkOptions) : List Call :=
  let destinationAddresses := targets ops destination addresses
  let options := if options.fallbackDelay = 0 then { options with fallbackDelay := defaultFallbackDelay } else options
  let addresses4 := destinationAddresses.filter fun address => address.is4 || address.is4In6
  let addresses6 := destinationAddresses.filter fun address => address.is6 && !address.is4In6
  let dial := fun address => dial address options
  if addresses4.length = 0 ∨ addresses6.length = 0 then serialCalls dial destination destinationAddresses
  else if preferIPv6 then serialCalls dial destination addresses6++serialCalls dial destination addresses4
  else serialCalls dial destination addresses4++serialCalls dial destination addresses6

/-- `resolveParallelNetworkDialer` around the default dialer. -/
structure ResolveDialer where
  initErr : Option GoError := none
  parallel : Bool := true
  preferIPv6 : Bool := false
  fallbackDelay : ℤ := 0
  lookup : String → Except GoError (List Addr)

namespace ResolveDialer
variable (r : ResolveDialer)

def addresses (destination : Socksaddr) : List Addr :=
  match r.lookup destination.fqdn with
  | .ok addresses => addresses
  | .error _ => []

def dialContext (destination : Socksaddr) : List Call :=
  if r.initErr.isSome then []
  else if !ops.isDomain destination then [.dialContext destination]
  else serialCalls (fun address => [.dialContext address]) destination (r.addresses destination)

def listenPacket (destination : Socksaddr) : List Call :=
  if r.initErr.isSome then []
  else if !ops.isDomain destination then [.listenPacket destination]
  else serialCalls (fun address => [.listenPacket address]) destination (r.addresses destination)

def withDelay (options : NetworkOptions) : NetworkOptions :=
  if options.fallbackDelay = 0 then { options with fallbackDelay := r.fallbackDelay } else options

def dialParallelInterface (destination : Socksaddr) (options : NetworkOptions) : List Call :=
  if r.initErr.isSome then []
  else if !ops.isDomain destination then [.dialContext destination]
  else
    let dial := fun address options => [Call.dialParallelInterface address options]
    if r.parallel then
      parallelNetworkCalls ops dial destination (r.addresses destination) r.preferIPv6 (r.withDelay options)
    else serialCalls (fun address => dial address (r.withDelay options)) destination (r.addresses destination)

def listenSerialInterfacePacket (destination : Socksaddr) (options : NetworkOptions) : List Call :=
  if r.initErr.isSome then []
  else if !ops.isDomain destination then [.listenPacket destination]
  else serialCalls (fun address => [.listenSerialInterfacePacket address (r.withDelay options)]) destination
    (r.addresses destination)

end ResolveDialer

structure DirectOutbound where
  dialer : ResolveDialer
  fallbackDelay : ℤ := 0

namespace DirectOutbound
variable (h : DirectOutbound)

def dialContext (destination : Socksaddr) : List Call := h.dialer.dialContext ops destination

def listenPacket (destination : Socksaddr) : List Call := h.dialer.listenPacket ops destination

def dialParallelNetwork (destination : Socksaddr) (addresses : List Addr) (options : NetworkOptions) : List Call :=
  parallelNetworkCalls ops (h.dialer.dialParallelInterface ops) destination addresses (addresses.head?.any Addr.is6)
    options

def dialParallel (destination : Socksaddr) (addresses : List Addr) : List Call :=
  h.dialParallelNetwork ops destination addresses { fallbackDelay := h.fallbackDelay }

def listenSerialNetworkPacket (destination : Socksaddr) (addresses : List Addr) (options : NetworkOptions) : List Call :=
  serialCalls (fun address => h.dialer.listenSerialInterfacePacket ops address options) destination
    (targets ops destination addresses)

end DirectOutbound

def networkOptions (metadata : InboundContext) : NetworkOptions :=
  ⟨metadata.networkStrategy,metadata.networkType,metadata.fallbackNetworkType,metadata.fallbackDelay⟩

variable (h : DirectOutbound) (metadata : InboundContext)

/-- `NewConnection`: the outbound dials in parallel over networks, so that `DialSerialNetwork` hands everything to it. -/
def newConnection : List Call :=
  if 0 < metadata.destinationAddresses.length ∨ ops.isIP metadata.destination = true then
    h.dialParallelNetwork ops metadata.destination (targets ops metadata.destination metadata.destinationAddresses)
      (networkOptions metadata)
  else h.dialContext ops metadata.destination

/-- `NewPacketConnection`: the outbound does not dial in parallel over interfaces, so that connected packets are dialed
without the options. -/
def newPacketConnection : List Call :=
  if metadata.udpConnect then
    if 0 < metadata.destinationAddresses.length then h.dialParallel ops metadata.destination metadata.destinationAddresses
    else h.dialContext ops metadata.destination
  else if 0 < metadata.destinationAddresses.length then
    h.listenSerialNetworkPacket ops metadata.destination
      (targets ops metadata.destination metadata.destinationAddresses) (networkOptions metadata)
  else h.listenPacket ops metadata.destination

def routedCalls (packet : Bool) : List Call :=
  if packet then newPacketConnection ops h metadata else newConnection ops h metadata

/-- Every socket is opened as the options of the rules say, completed by the dialer's own. A retry without an interface
is not counted. -/
def KeepsOptions (d : DefaultDialer) (packet : Bool) : Prop :=
  ∀ call ∈ routedCalls ops h metadata packet, ∀ notPermitted opening,
    (call.run ops d notPermitted).2.head? = some opening → opening = d.expected (networkOptions metadata)

/-- Some socket is opened. -/
def Opens (d : DefaultDialer) (packet : Bool) : Prop :=
  ∃ call ∈ routedCalls ops h metadata packet, (call.run ops d false).2 ≠ []

end

def Call.isBare : Call → Bool
  | .dialContext _ => true
  | .listenPacket _ => true
  | _ => false

/-- No call brings options along. -/
def Bare (calls : List Call) : Prop := ∀ call ∈ calls, call.isBare = true

section
variable {ops : SocksaddrOps}

lemma bare_nil : Bare [] := by simp [Bare]

lemma bare_singleton {c : Call} (h : c.isBare = true) : Bare [c] := by simpa [Bare] using h

variable {cs cl' : List Call}

lemma Bare.append (h : Bare cs) (h' : Bare cl') : Bare (cs++cl') :=
  fun c hc => (mem_append.mp hc).elim (h c) (h' c)

lemma Bare.ite {p : Prop} [Decidable p] (h : p → Bare cs) (h' : ¬ p → Bare cl') : Bare (if p then cs else cl') := by
  split_ifs with hp
  · exact h hp
  · exact h' hp

variable {ds : Socksaddr}

lemma bare_serialCalls {dl : Socksaddr → List Call}
    (hd : ∀ ar, Bare (dl { addr := ar, port := ds.port })) (ad : List Addr) : Bare (serialCalls dl ds ad) := by
  intro c hc
  obtain ⟨ar,-,hm⟩ := mem_flatMap.mp hc
  exact hd ar c hm

lemma bare_parallelNetworkCalls {dl : Socksaddr → NetworkOptions → List Call}
    (hd : ∀ ar op, Bare (dl { addr := ar, port := ds.port } op)) (ad : List Addr)
    (pi : Bool) (op : NetworkOptions) : Bare (parallelNetworkCalls ops dl ds ad pi op) := by
  have hs : ∀ op ad, Bare (serialCalls (fun ar => dl ar op) ds ad) :=
    fun op => bare_serialCalls fun ar => hd ar op
  refine .ite (fun _ => hs _ _) fun _ => .ite (fun _ => ?_) fun _ => ?_
  all_goals exact (hs _ _).append (hs _ _)

variable (ops) (r : ResolveDialer) (d : Socksaddr)

lemma bare_dialContext : Bare (r.dialContext ops d) := by
  refine .ite (fun _ => bare_nil) fun _ => .ite (fun _ => bare_singleton rfl) fun _ => ?_
  exact bare_serialCalls (fun _ => bare_singleton rfl) _

lemma bare_listenPacket : Bare (r.listenPacket ops d) := by
  refine .ite (fun _ => bare_nil) fun _ => .ite (fun _ => bare_singleton rfl) fun _ => ?_
  exact bare_serialCalls (fun _ => bare_singleton rfl) _

variable (a : Addr) (port : ℕ) (os : NetworkOptions)

lemma bare_dialParallelInterface : Bare (r.dialParallelInterface ops { addr := a, port := port } os) := by
  refine .ite (fun _ => bare_nil) fun _ => .ite (fun _ => bare_singleton rfl) fun hd => ?_
  rw [ops.isDomain_addr] at hd
  exact absurd rfl hd

lemma bare_listenSerialInterfacePacket : Bare (r.listenSerialInterfacePacket ops { addr := a, port := port } os) := by
  refine .ite (fun _ => bare_nil) fun _ => .ite (fun _ => bare_singleton rfl) fun hd => ?_
  rw [ops.isDomain_addr] at hd
  exact absurd rfl hd

variable (h : DirectOutbound) (m : InboundContext)

lemma bare_routedCalls (p : Bool) : Bare (routedCalls ops h m p) := by
  have hn : ∀ d ad os, Bare (h.dialParallelNetwork ops d ad os) :=
    fun d ad => bare_parallelNetworkCalls (fun a => bare_dialParallelInterface ops h.dialer a _)
      ad _
  refine .ite (fun _ => .ite (fun _ => .ite (fun _ => ?_) fun _ => ?_) fun _ => .ite (fun _ => ?_) fun _ => ?_)
    fun _ => .ite (fun _ => ?_) fun _ => ?_
  · exact hn _ _ _
  · exact bare_dialContext ops h.dialer _
  · exact bare_serialCalls (fun a => bare_listenSerialInterfacePacket ops h.dialer a _ _) _
  · exact bare_listenPacket ops h.dialer _
  · exact hn _ _ _
  · exact bare_dialContext ops h.dialer _

end

section
variable (ops : SocksaddrOps) (d : DefaultDialer)

lemma head?_openWith (op : NetworkOptions) (np : Bool) : (d.openWith op np).2.head? = some (d.expected op) := by
  rw [DefaultDialer.openWith,DefaultDialer.expected]
  cases op.strategy <|> d.networkStrategy with
  | none => rfl
  | some =>
    split_ifs <;> rfl

lemma expected_own : d.expected d.own = d.expected {} := by
  have hs : (d.networkStrategy <|> d.networkStrategy) = d.networkStrategy := by
    cases d.networkStrategy <;> rfl
  have hc : ∀ s, d.completed s d.own = d.completed s {} := by
    intro s
    unfold DefaultDialer.completed DefaultDialer.own
    simp
  rw [DefaultDialer.expected,DefaultDialer.expected]
  simp only [hc]
  change (match d.networkStrategy <|> d.networkStrategy with
    | none => Opening.plain
    | some s => .selected (d.completed s {})) = match d.networkStrategy with
    | none => Opening.plain
    | some s => .selected (d.completed s {})
  rw [hs]

lemma head?_run_of_isBare {c : Call} (hb : c.isBare = true) : (∀ np, (c.run ops d np).2 = []) ∨
    ∀ np, (c.run ops d np).2.head? = some (d.expected {}) := by
  have ho : ∀ np, (d.listenPacket np).2.head? = some (d.expected {}) := by
    intro np
    unfold DefaultDialer.listenPacket
    cases hs : d.networkStrategy with
    | none =>
      rw [DefaultDialer.expected,hs]
      rfl
    | some =>
      rw [← expected_own]
      exact head?_openWith d d.own np
  cases c with
  | dialContext ad =>
    by_cases hr : (!ops.isValid ad) = true ∨ ops.isDomain ad = true
    · refine .inl fun np => ?_
      change (d.dialContext ops ad np).2 = []
      unfold DefaultDialer.dialContext
      obtain hin | hd := hr
      · rw [if_pos hin]
      · rw [if_pos hd,ite_self]
    · rw [not_or] at hr
      refine .inr fun np => ?_
      change (d.dialContext ops ad np).2.head? = _
      unfold DefaultDialer.dialContext
      rw [if_neg hr.1,if_neg hr.2]
      exact ho np
  | dialParallelInterface ad options | listenSerialInterfacePacket destination options => cases hb
  | listenPacket => exact .inr ho

end

/-- The sockets of a routed connection are opened as the options of the rules say exactly where these options, completed
by the dialer's own, come to the same as none, or no socket is opened. -/
theorem keepsOptions_iff (ops : SocksaddrOps) (h : DirectOutbound) (metadata : InboundContext) (d : DefaultDialer)
    (packet : Bool) : KeepsOptions ops h metadata d packet ↔
      d.expected (networkOptions metadata) = d.expected {} ∨ ¬ Opens ops h metadata d packet := by
  constructor
  · intro hk
    by_cases hop : Opens ops h metadata d packet
    · obtain ⟨c,hcl,hon⟩ := hop
      obtain hn | how := head?_run_of_isBare ops d (bare_routedCalls ops h metadata packet c hcl)
      · exact absurd (hn false) hon
      · exact .inl (hk c hcl false _ (how false)).symm
    · exact .inr hop
  · rintro hs c hcl np o ho
    obtain hn | how := head?_run_of_isBare ops d (bare_routedCalls ops h metadata packet c hcl)
    · rw [hn np] at ho
      cases ho
    · obtain hs | hc := hs
      · rw [hs]
        exact Option.some.inj (ho.symm.trans (how np))
      · refine absurd ⟨c,hcl,fun he => ?_⟩ hc
        have hh := how false
        rw [he] at hh
        cases hh

/-- A rule asks for cellular interfaces, and the connection leaves through the default one, which is none. -/
theorem direct_outbound_forgets_network_type :
    ∃ (ops : SocksaddrOps) (metadata : InboundContext) (d : DefaultDialer) (networkManager : NetworkManager)
      (call : Call) (selection : Selection), metadata.networkType = [.cellular] ∧
      routedCalls ops { dialer := { lookup := fun _ => .ok [] } } metadata false = [call] ∧
      (call.run ops d false).2 = [.selected selection] ∧
      ((selection.interfaces networkManager).1.map fun iif => iif.type) = [.wifi] := by
  refine ⟨⟨fun a => a.addr.isValid,fun a => !a.addr.isValid && a.fqdn != "",fun _ => true,fun ad port => ?_⟩,
    { destination := { addr := .v4 0x01010101#32, port := 443 }, networkType := [.cellular] },
    { networkStrategy := some .default, defaultNetworkStrategy := true },
    { networkInterfaces := [{ index := 1, type := .wifi },{ index := 2, type := .cellular }], defaultInterface := some 1 },
    .dialContext { addr := .v4 0x01010101#32, port := 443 },⟨.default,[],[],0⟩,rfl,rfl,rfl,rfl⟩
  simp

end SingBox.Dialer
