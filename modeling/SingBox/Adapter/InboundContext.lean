import SingBox.Adapter.Address
import SingBox.DNS.Message

/-! The connection metadata `InboundContext` (`adapter/inbound.go`) and the surroundings that
rule items read besides it. -/
namespace SingBox.Adapter
open DNS

inductive Network
  | unset
  | tcp
  | udp
  | icmp
  deriving DecidableEq

inductive InterfaceType
  | wifi
  | cellular
  | ethernet
  | other
  deriving DecidableEq

inductive NetworkStrategy
  | default
  | fallback
  | hybrid
  deriving DecidableEq

/-- `ConnectionOwner`: the local process behind a connection. -/
structure ConnectionOwner where
  userId : ℤ := -1
  userName : String := ""
  processPath : String := ""
  androidPackageNames : List String := []
  deriving DecidableEq

/-- An error value, with the questions the code asks of it through `errors.Is`. -/
structure GoError where
  text : String
  needMoreData : Bool := false
  deadlineExceeded : Bool := false
  deriving DecidableEq

/-- `os.ErrInvalid`. -/
def errInvalid : GoError := { text := "invalid argument" }

/-- `E.Cause` of an error. -/
def GoError.cause (err : GoError) (message : String) : GoError := { err with text := message++": "++err.text }

/-- A reassembly fragment that the QUIC sniffer leaves in `SniffContext`. -/
structure QCryptoFragment where
  offset : ℕ
  length : ℕ
  payload : List UInt8
  deriving DecidableEq

/-- `adapter.InboundContext`. The last block is the rule cache, which the matcher writes. -/
structure InboundContext where
  inbound : String := ""
  ipVersion : ℕ := 0
  network : Network := .unset
  source : Socksaddr := {}
  destination : Socksaddr := {}
  user : String := ""
  outbound : String := ""
  protocol : String := ""
  domain : String := ""
  client : String := ""
  sniffContext : Option (List QCryptoFragment) := none
  snifferNames : List String := []
  sniffError : Option GoError := none
  inboundDetour : String := ""
  lastInbound : String := ""
  originDestination : Socksaddr := {}
  routeOriginalDestination : Socksaddr := {}
  udpDisableDomainUnmapping : Bool := false
  udpConnect : Bool := false
  udpTimeout : ℤ := 0
  tlsFragment : Bool := false
  tlsFragmentFallbackDelay : ℤ := 0
  tlsRecordFragment : Bool := false
  networkStrategy : Option NetworkStrategy := none
  networkType : List InterfaceType := []
  fallbackNetworkType : List InterfaceType := []
  fallbackDelay : ℤ := 0
  destinationAddresses : List Addr := []
  dnsResponse : Option Msg := none
  destinationAddressMatchFromResponse : Bool := false
  processInfo : Option ConnectionOwner := none
  sourceMACAddress : Option (List UInt8) := none
  sourceHostname : String := ""
  queryType : ℕ := 0
  fakeIP : Bool := false
  ipCIDRMatchSource : Bool := false
  ipCIDRAcceptEmpty : Bool := false
  sourceAddressMatch : Bool := false
  sourcePortMatch : Bool := false
  destinationAddressMatch : Bool := false
  destinationPortMatch : Bool := false
  didMatch : Bool := false
  ignoreDestinationIPCIDRMatch : Bool := false
  deriving DecidableEq

namespace InboundContext

def resetRuleMatchCache (c : InboundContext) : InboundContext :=
  { c with
    sourceAddressMatch := false
    sourcePortMatch := false
    destinationAddressMatch := false
    destinationPortMatch := false
    didMatch := false }

def resetRuleCache (c : InboundContext) : InboundContext :=
  resetRuleMatchCache { c with ipCIDRMatchSource := false, ipCIDRAcceptEmpty := false }

end InboundContext

inductive DomainStrategy
  | asIS
  | preferIPv4
  | preferIPv6
  | ipv4Only
  | ipv6Only
  deriving DecidableEq

/-- `adapter.DNSQueryOptions`; a transport is named by its tag. -/
structure DNSQueryOptions where
  transport : Option String := none
  strategy : DomainStrategy := .asIS
  lookupStrategy : DomainStrategy := .asIS
  disableCache : Bool := false
  disableOptimisticCache : Bool := false
  rewriteTTL : Option ℕ := none
  clientSubnet : Prefix := ⟨.invalid,0⟩
  deriving DecidableEq

structure NetworkInterface where
  name : String := ""
  addresses : List Prefix := []
  type : InterfaceType := .other
  expensive : Bool := false
  constrained : Bool := false

/-- Everything outside the metadata that a rule item reads: functions of other packages,
platform functions and the current state of the managers an item points to. -/
structure Platform where
  socksaddrIsIP : Socksaddr → Bool
  socksaddrIsIPv4 : Socksaddr → Bool
  socksaddrIsIPv6 : Socksaddr → Bool
  socksaddrIsDomain : Socksaddr → Bool
  socksaddrIsValid : Socksaddr → Bool
  isDomainName : String → Bool
  isPublicAddr : Addr → Bool
  addrFromIP : List UInt8 → Addr
  isDuplicate : RR → RR → Bool
  toLower : String → String
  equalFold : String → String → Bool
  filepathBase : String → String
  hardwareAddrString : List UInt8 → String
  isAndroid : Bool
  clashMode : Option String
  defaultNetworkInterface : Option NetworkInterface
  networkInterfaces : List NetworkInterface
  interfaces : List NetworkInterface
  defaultInterface : Option NetworkInterface
  ssid : String
  bssid : String

def bareHost : Platform where
  socksaddrIsIP s := s.addr.isValid
  socksaddrIsIPv4 s := s.addr.is4
  socksaddrIsIPv6 s := s.addr.is6
  socksaddrIsDomain s := s.fqdn != ""
  socksaddrIsValid s := s.addr.isValid || s.fqdn != ""
  isDomainName _ := true
  isPublicAddr _ := true
  addrFromIP
    | [a,b,c,d] => .v4 (BitVec.ofNat 32 (a.toNat*2^24+b.toNat*2^16+c.toNat*2^8+d.toNat))
    | _ => .invalid
  isDuplicate a b := a == b
  toLower s := s
  equalFold a b := a == b
  filepathBase s := s
  hardwareAddrString _ := ""
  isAndroid := false
  clashMode := none
  defaultNetworkInterface := none
  networkInterfaces := []
  interfaces := []
  defaultInterface := none
  ssid := ""
  bssid := ""

variable (p : Platform)

def recordAddresses (record : RR) : List Addr :=
  match record.data with
  | .a ip => [p.addrFromIP ip].filter Addr.isValid
  | .aaaa ip => [p.addrFromIP ip].filter Addr.isValid
  | .https value => value.flatMap fun hint =>
      match hint with
      | .ipv4Hint ips => (ips.map fun ip => (p.addrFromIP ip).unmap).filter Addr.isValid
      | .ipv6Hint ips => (ips.map p.addrFromIP).filter Addr.isValid
      | .other _ _ => []
  | _ => []

/-- `DNSResponseAddresses`: no response and an error response have no addresses. -/
def dnsResponseAddresses (response : Option Msg) : List Addr :=
  match response with
  | none => []
  | some msg => if msg.rcode != rcodeSuccess then [] else msg.answer.flatMap (recordAddresses p)

def InboundContext.dnsResponseAddressesForMatch (c : InboundContext) : List Addr :=
  dnsResponseAddresses p c.dnsResponse

end SingBox.Adapter
