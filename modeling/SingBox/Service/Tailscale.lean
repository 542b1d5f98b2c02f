import SingBox.Common.Binary
import SingBox.Transport.Base

/-! The DNS transport of a Tailscale endpoint (`protocol/tailscale/dns_transport.go`): its routes, hosts and default
resolvers, which every reconfiguration of the endpoint replaces. -/
namespace SingBox.Tailscale
open Adapter Transport DNS

/-- `dnstype.Resolver`. -/
structure Resolver where
  addr : String
  bootstrapResolution : List Addr := []

structure URL where
  scheme : String
  hostname : String
  port : String

/-- The parsers of packages `metadata` and `url`; a socket address that is not valid is none. -/
structure Parsers where
  socksaddr : String → Option Socksaddr
  socksaddrHostPort : String → String → Socksaddr
  url : String → Except GoError URL

/-- Through the endpoint, or past it; over names that a bootstrap server resolves, if there is one. -/
structure ResolverDialer where
  endpoint : Bool
  bootstrap : Option Addr

/-- What `NewUDPRaw` or `NewHTTPSRaw` has made. -/
inductive Server
  | udp (dialer : ResolverDialer) (serverAddr : Socksaddr) (base : BaseTransport)
  | https (dialer : ResolverDialer) (url : URL) (serverAddr : Socksaddr) (tls : Bool)

def Server.base : Server → Option BaseTransport
  | udp _ _ base => some base
  | https _ _ _ _ => none

def defaultPort (addr : Socksaddr) (port : ℕ) : Socksaddr := if addr.port = 0 then { addr with port := port } else addr

variable (lib : Parsers)

def createResolver (resolver : Resolver) : Except GoError Server :=
  let serverURL := lib.url resolver.addr
  let dialer : ResolverDialer :=
    ⟨match serverURL with
      | .ok url => url.scheme == "http"
      | .error _ => false,
      resolver.bootstrapResolution.head?⟩
  match lib.socksaddr resolver.addr with
  | some serverAddr => .ok (.udp dialer (defaultPort serverAddr 53) .newBaseTransport)
  | none =>
    match serverURL with
    | .error err => .error (err.cause "parse resolver address")
    | .ok url =>
      let serverAddr := lib.socksaddrHostPort url.hostname url.port
      if url.scheme = "https" then .ok (.https dialer url (defaultPort serverAddr 443) true)
      else if url.scheme = "http" then .ok (.https dialer url (defaultPort serverAddr 80) false)
      else .error { text := "unknown resolver scheme: "++url.scheme }

/-- `nDNS.Config`; the maps are lists of their entries, and domains end with a dot. -/
structure Config where
  routes : List (Bytes × List Resolver) := []
  hosts : List (Bytes × List Addr) := []
  defaultResolvers : List Resolver := []

structure DNSTransport where
  acceptDefaultResolvers : Bool
  routes : List (Bytes × List Server) := []
  hosts : List (Bytes × List Addr) := []
  defaultResolvers : List Server := []

def createRoute (route : Bytes × List Resolver) : Except GoError (Bytes × List Server) := do
  let myResolvers ← route.2.mapM (createResolver lib)
  return (route.1,myResolvers)

def updateDNSServers (t : DNSTransport) (config : Config) : Except GoError DNSTransport := do
  let routes ← config.routes.mapM (createRoute lib)
  let defaultResolvers ← config.defaultResolvers.mapM (createResolver lib)
  return { t with routes := routes, hosts := config.hosts, defaultResolvers := defaultResolvers }

/-- `onReconfig`: after an error all is as it was. -/
def onReconfig (t : DNSTransport) (config : Config) : DNSTransport :=
  match updateDNSServers lib t config with
  | .error _ => t
  | .ok t => t

inductive Exchanged
  | fixed (addresses : List Addr)
  | nameError
  | missingDefault
  | exchange (servers : List Server)

def selectRoute (name : Bytes) (visited : List (Bytes × List Server)) : Option (Bytes × List Server) :=
  visited.find? fun route => decide (route.1 <:+ name)

def hostAddresses (t : DNSTransport) (name : Bytes) (qtype : ℕ) : List Addr :=
  let addresses := (t.hosts.lookup name).getD []
  if qtype = typeA then addresses.filter Addr.is4
  else if qtype = typeAAAA then addresses.filter Addr.is6
  else []

/-- `Exchange` for one question, up to where servers are asked. The routes are visited in any order. -/
def exchange (t : DNSTransport) (visited : List (Bytes × List Server)) (name : Bytes) (qtype : ℕ) : Exchanged :=
  if hostAddresses t name qtype ≠ [] then .fixed (hostAddresses t name qtype)
  else
    match selectRoute name visited with
    | some (_,[]) => .nameError
    | some (_,transports) => .exchange transports
    | none =>
      if t.acceptDefaultResolvers then
        if t.defaultResolvers = [] then .missingDefault else .exchange t.defaultResolvers
      else .nameError

end SingBox.Tailscale
