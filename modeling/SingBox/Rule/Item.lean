import SingBox.Adapter.InboundContext

/-! Rule items (`route/rule/rule_item_*.go`): the conditions of a default rule. A compiled
matcher, expression or address set is kept as the predicate it decides. -/
namespace SingBox.Rule
open Adapter DNS

/-- The lists of `abstractDefaultRule` that an item is appended to by the constructors. -/
inductive ItemGroup
  | items
  | sourceAddress
  | sourcePort
  | destinationAddress
  | destinationIPCIDR
  | destinationPort
  deriving DecidableEq

/-- `OutboundWithPreferredRoutes`. -/
structure PreferredRoutes where
  preferredDomain : String → Bool
  preferredAddress : Addr → Bool

inductive ResponseSection
  | answer
  | ns
  | extra
  deriving DecidableEq

inductive RuleItem
  | inbound (inbounds : List String)
  | ipVersion (isIPv6 : Bool)
  | queryType (typeList : List ℕ)
  | network (networks : List Network)
  | authUser (users : List String)
  | protocol (protocols : List String)
  | client (clients : List String)
  | domain (matcher : String → Bool)
  | domainKeyword (keywords : List String)
  | domainRegex (matchers : List (String → Bool))
  | adGuardDomain (matcher : String → Bool)
  | ipCIDR (isSource : Bool) (ipSet : Addr → Bool)
  | ipIsPrivate (isSource : Bool)
  | ipAcceptAny
  | port (isSource : Bool) (ports : List ℕ)
  | portRange (isSource : Bool) (portRangeList : List (ℕ × ℕ))
  | process (processes : List String)
  | processPath (processes : List String)
  | processPathRegex (matchers : List (String → Bool))
  | packageName (packageNames : List String)
  | packageNameRegex (matchers : List (String → Bool))
  | user (users : List String)
  | userId (userIds : List ℤ)
  | outbound (outbounds : List String)
  | clashMode (mode : String)
  | networkType (types : List InterfaceType)
  | networkIsExpensive
  | networkIsConstrained
  | wifiSSID (ssidList : List String)
  | wifiBSSID (bssidList : List String)
  | interfaceAddress (interfaceAddresses : List (String × List Prefix))
  | networkInterfaceAddress (interfaceAddresses : List (InterfaceType × List Prefix))
  | defaultInterfaceAddress (interfaceAddresses : List Prefix)
  | sourceMACAddress (addresses : List String)
  | sourceHostname (hostnames : List String)
  | preferredBy (outbounds : List PreferredRoutes)
  | dnsResponseRCode (rcode : ℕ)
  | dnsResponseRecord (field : ResponseSection) (records : List (Option RR))

def RuleItem.group : RuleItem → ItemGroup
  | .domain _ => .destinationAddress
  | .domainKeyword _ => .destinationAddress
  | .domainRegex _ => .destinationAddress
  | .adGuardDomain _ => .destinationAddress
  | .ipCIDR isSource _ => if isSource then .sourceAddress else .destinationIPCIDR
  | .ipIsPrivate isSource => if isSource then .sourceAddress else .destinationIPCIDR
  | .ipAcceptAny => .destinationIPCIDR
  | .port isSource _ => if isSource then .sourcePort else .destinationPort
  | .portRange isSource _ => if isSource then .sourcePort else .destinationPort
  | _ => .items

variable (p : Platform)

def domainHost (metadata : InboundContext) : String :=
  if metadata.domain ≠ "" then metadata.domain else metadata.destination.fqdn

/-- The domain items test the lower-case host, and fail without one. -/
def matchDomainHost (metadata : InboundContext) (test : String → Bool) : Bool :=
  if domainHost metadata = "" then false else test (p.toLower (domainHost metadata))

def containsString (s substr : String) : Bool := decide (substr.toList <:+: s.toList)

def matchIPCIDR (isSource : Bool) (ipSet : Addr → Bool) (metadata : InboundContext) : Bool :=
  if isSource || metadata.ipCIDRMatchSource then
    ipSet metadata.source.addr
  else if metadata.destinationAddressMatchFromResponse then
    let addresses := metadata.dnsResponseAddressesForMatch p
    if addresses.length = 0 then metadata.ipCIDRAcceptEmpty else addresses.any ipSet
  else if p.socksaddrIsIP metadata.destination then
    ipSet metadata.destination.addr
  else if metadata.destinationAddresses.length > 0 then
    metadata.destinationAddresses.any ipSet
  else
    metadata.ipCIDRAcceptEmpty

def matchIPIsPrivate (isSource : Bool) (metadata : InboundContext) : Bool :=
  if isSource then
    !p.isPublicAddr metadata.source.addr
  else if metadata.destinationAddressMatchFromResponse then
    (metadata.dnsResponseAddressesForMatch p).any fun address => !p.isPublicAddr address
  else if metadata.destination.addr.isValid then
    !p.isPublicAddr metadata.destination.addr
  else
    metadata.destinationAddresses.any fun address => !p.isPublicAddr address

def matchIPAcceptAny (metadata : InboundContext) : Bool :=
  if metadata.destinationAddressMatchFromResponse then
    decide ((metadata.dnsResponseAddressesForMatch p).length > 0)
  else
    decide (metadata.destinationAddresses.length > 0)

def matchProcessPath (processes : List String) (metadata : InboundContext) : Bool :=
  match metadata.processInfo with
  | none => false
  | some info =>
      (info.processPath != "" && processes.contains info.processPath) ||
        (p.isAndroid && info.androidPackageNames.any fun name => processes.contains name)

def matchOutbound (outbounds : List String) (metadata : InboundContext) : Bool :=
  if outbounds.contains "any" then metadata.outbound != "" else outbounds.contains metadata.outbound

def matchInterfaceAddress (interfaceAddresses : List (String × List Prefix)) : Bool :=
  interfaceAddresses.all fun entry =>
    match p.interfaces.find? fun iface => iface.name == entry.1 with
    | none => false
    | some iface =>
        iface.name != "" &&
          !(entry.2.all fun address => iface.addresses.all fun it => !address.overlaps it)

def matchNetworkInterfaceAddress (interfaceAddresses : List (InterfaceType × List Prefix)) : Bool :=
  interfaceAddresses.all fun entry => p.networkInterfaces.any fun networkInterface =>
    networkInterface.type == entry.1 &&
      networkInterface.addresses.any fun it => entry.2.any fun pfx => pfx.overlaps it

def matchDefaultInterfaceAddress (interfaceAddresses : List Prefix) : Bool :=
  match p.defaultInterface with
  | none => false
  | some iface => interfaceAddresses.all fun address =>
      !(iface.addresses.all fun it => !address.overlaps it)

def matchPreferredBy (outbounds : List PreferredRoutes) (metadata : InboundContext) : Bool :=
  (domainHost metadata != "" && outbounds.any fun outbound =>
      outbound.preferredDomain (domainHost metadata)) ||
    (p.socksaddrIsIP metadata.destination && outbounds.any fun outbound =>
      outbound.preferredAddress metadata.destination.addr) ||
    metadata.destinationAddresses.any fun address => outbounds.any fun outbound =>
      outbound.preferredAddress address

def ResponseSection.select : ResponseSection → Msg → List RR
  | .answer, message => message.answer
  | .ns, message => message.ns
  | .extra, message => message.extra

/-- `DNSRecordOptions.Match`. -/
def matchDNSRecordOptions (expected : Option RR) (record : RR) : Bool :=
  match expected with
  | none => false
  | some rr => p.isDuplicate rr record

def matchDNSResponseRecord (field : ResponseSection) (records : List (Option RR))
    (metadata : InboundContext) : Bool :=
  match metadata.dnsResponse with
  | none => false
  | some response => records.any fun expected =>
      (field.select response).any fun record => matchDNSRecordOptions p expected record

/-- `Match` of every item. -/
def RuleItem.match (item : RuleItem) (metadata : InboundContext) : Bool :=
  match item with
  | .inbound inbounds => inbounds.contains metadata.inbound
  | .ipVersion isIPv6 =>
      (metadata.ipVersion != 0 && (metadata.ipVersion == 6) == isIPv6) ||
        (p.socksaddrIsIP metadata.destination && p.socksaddrIsIPv6 metadata.destination == isIPv6)
  | .queryType typeList => metadata.queryType != 0 && typeList.contains metadata.queryType
  | .network networks => networks.contains metadata.network
  | .authUser users => users.contains metadata.user
  | .protocol protocols => protocols.contains metadata.protocol
  | .client clients => clients.contains metadata.client
  | .domain matcher => matchDomainHost p metadata matcher
  | .domainKeyword keywords => matchDomainHost p metadata fun host => keywords.any (containsString host)
  | .domainRegex matchers => matchDomainHost p metadata fun host => matchers.any fun m => m host
  | .adGuardDomain matcher => matchDomainHost p metadata matcher
  | .ipCIDR isSource ipSet => matchIPCIDR p isSource ipSet metadata
  | .ipIsPrivate isSource => matchIPIsPrivate p isSource metadata
  | .ipAcceptAny => matchIPAcceptAny p metadata
  | .port isSource ports =>
      ports.contains (if isSource then metadata.source.port else metadata.destination.port)
  | .portRange isSource portRangeList =>
      let port := if isSource then metadata.source.port else metadata.destination.port
      portRangeList.any fun range => decide (range.1 ≤ port) && decide (port ≤ range.2)
  | .process processes => metadata.processInfo.any fun info =>
      info.processPath != "" && processes.contains (p.filepathBase info.processPath)
  | .processPath processes => matchProcessPath p processes metadata
  | .processPathRegex matchers => metadata.processInfo.any fun info =>
      info.processPath != "" && matchers.any fun m => m info.processPath
  | .packageName packageNames => metadata.processInfo.any fun info =>
      info.androidPackageNames.any fun name => packageNames.contains name
  | .packageNameRegex matchers => metadata.processInfo.any fun info =>
      matchers.any fun m => info.androidPackageNames.any m
  | .user users => metadata.processInfo.any fun info =>
      info.userName != "" && users.contains info.userName
  | .userId userIds => metadata.processInfo.any fun info =>
      info.userId != -1 && userIds.contains info.userId
  | .outbound outbounds => matchOutbound outbounds metadata
  | .clashMode mode => p.clashMode.any fun current => p.equalFold current mode
  | .networkType types => p.defaultNetworkInterface.any fun iface => types.contains iface.type
  | .networkIsExpensive => p.defaultNetworkInterface.any fun iface => iface.expensive
  | .networkIsConstrained => p.defaultNetworkInterface.any fun iface => iface.constrained
  | .wifiSSID ssidList => ssidList.contains p.ssid
  | .wifiBSSID bssidList => bssidList.contains p.bssid
  | .interfaceAddress interfaceAddresses => matchInterfaceAddress p interfaceAddresses
  | .networkInterfaceAddress interfaceAddresses => matchNetworkInterfaceAddress p interfaceAddresses
  | .defaultInterfaceAddress interfaceAddresses => matchDefaultInterfaceAddress p interfaceAddresses
  | .sourceMACAddress addresses => metadata.sourceMACAddress.any fun address =>
      addresses.contains (p.hardwareAddrString address)
  | .sourceHostname hostnames =>
      metadata.sourceHostname != "" && hostnames.contains metadata.sourceHostname
  | .preferredBy outbounds => matchPreferredBy p outbounds metadata
  | .dnsResponseRCode rcode => metadata.dnsResponse.any fun response => response.rcode == rcode
  | .dnsResponseRecord field records => matchDNSResponseRecord p field records metadata

end SingBox.Rule
