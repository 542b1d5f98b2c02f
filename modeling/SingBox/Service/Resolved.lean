import Mathlib.Data.List.AList
import SingBox.Common.Binary
import SingBox.Library.Visit
import SingBox.Transport.Base

/-! The resolved service (`service/resolved`): links that are configured over D-Bus, the order of the default routes, and
the servers that the DNS transport keeps for each link. The transport starts before the service is on the bus, so its
callbacks are there for every call. A call holds the lock of the links until it returns. -/
namespace SingBox.Resolved
open Adapter Transport

/-- A pointer to a `control.Interface`. -/
abbrev InterfaceRef := ℕ

structure LinkDNS where
  address : Bytes
  deriving DecidableEq

structure LinkDNSEx where
  address : Bytes
  port : ℕ
  name : String
  deriving DecidableEq

structure LinkDomain where
  domain : Bytes
  routingOnly : Bool
  deriving DecidableEq

/-- `TransportLink`; `id` is what a pointer to it is compared by. -/
structure TransportLink where
  id : ℕ
  iif : Option InterfaceRef := none
  address : List LinkDNS := []
  addressEx : List LinkDNSEx := []
  domain : List LinkDomain := []
  defaultRoute : Bool := false
  dnsOverTLS : Bool := false
  deriving DecidableEq

/-- A TLS server without a name of its own is asked for the text of its address. -/
inductive ServerKind
  | udp
  | tls (serverName : Option String)
  deriving DecidableEq

/-- A transport that `NewUDPRaw` or `NewTLSRaw` has made. -/
structure Server where
  kind : ServerKind
  address : Bytes
  port : ℕ
  base : BaseTransport

/-- `BaseTransport.Close`, which waits for the queries or for its timeout. -/
def Server.close (server : Server) : Server :=
  let closed := server.base.shutdown
  { server with base := if closed.2 then closed.1.shutdownWaited else closed.1 }

/-- `Exchange` of both kinds: a query is sent where the transport is started. -/
def Server.exchange {α : Type} (server : Server) (sent : Except GoError α) : Except GoError α :=
  if server.base.beginQuery.2 then sent else .error errTransportClosed

/-- `netip.AddrFromSlice`. -/
def isAddr (address : Bytes) : Bool := address.length == 4 || address.length == 16

def newServer (dnsOverTLS : Bool) (address : Bytes) (port : ℕ) (name : String) : Option Server :=
  if isAddr address then
    some ⟨if dnsOverTLS then .tls (if name ≠ "" then some name else none) else .udp,address,port,.newBaseTransport⟩
  else none

/-- The two loops of `updateTransports`, up to the first address that is none. -/
def newServers (link : TransportLink) : Option (List Server) := do
  let transports ← link.address.mapM fun address => newServer link.dnsOverTLS address.address 53 ""
  let transportsEx ← link.addressEx.mapM fun address =>
    newServer link.dnsOverTLS address.address address.port address.name
  return transports++transportsEx

/-- The service and the table of its transport. `created` counts the links that were made, `locked` tells that a call
has returned with the lock of the links. -/
structure State where
  links : AList fun _ : ℤ => TransportLink := ∅
  defaultRouteSequence : List ℤ := []
  linkServers : ℕ → Option (List Server) := fun _ => none
  created : ℕ := 0
  locked : Bool := false

inductive CallResult
  | done (err : Option GoError)
  | nilPointer
  | blocked
  deriving DecidableEq

namespace State

def updateTransports (s : State) (link : TransportLink) : State × Option GoError :=
  let s := { s with linkServers := Function.update s.linkServers link.id ((s.linkServers link.id).map (·.map Server.close)) }
  match newServers link with
  | none => (s,some errInvalid)
  | some transports => ({ s with linkServers := Function.update s.linkServers link.id (some transports) },none)

def deleteTransport (s : State) (link : TransportLink) : State :=
  { s with linkServers := Function.update s.linkServers link.id none }

def addLink (s : State) (ifIndex : ℤ) (iif : Option InterfaceRef) : State :=
  { s with links := s.links.insert ifIndex { id := s.created, iif := iif }, created := s.created+1 }

/-- `getLink`: a link whose interface is not found stays in the table without one. -/
def getLink (s : State) (ifIndex : ℤ) (byIndex : Except GoError InterfaceRef) : State × Except GoError TransportLink :=
  match s.links.lookup ifIndex with
  | some link => (s,.ok link)
  | none =>
    match byIndex with
    | .error err => (s.addLink ifIndex none,.error err)
    | .ok iif => (s.addLink ifIndex (some iif),.ok { id := s.created, iif := some iif })

/-- What a call changes in its link and in the order of the default routes. -/
structure Edit (ifIndex : ℤ) where
  link : TransportLink → TransportLink
  sequence : List ℤ → List ℤ
  id_link : ∀ l, (link l).id = l.id
  iif_link : ∀ l, (link l).iif = l.iif
  mem_sequence : ∀ order, ∀ i ≠ ifIndex, (i ∈ sequence order ↔ i ∈ order)

def withLink (s : State) (ifIndex : ℤ) (byIndex : Except GoError InterfaceRef) (leave : State → State)
    (body : State → TransportLink → State × CallResult) : State × CallResult :=
  if s.locked then (s,.blocked)
  else
    match s.getLink ifIndex byIndex with
    | (s,.error err) => (leave s,.done (some err))
    | (s,.ok link) => body s link

/-- `postUpdate`, after the name of the interface was read for the log. -/
def postUpdate (s : State) (link : TransportLink) : State × CallResult :=
  if link.iif = none then (s,.nilPointer)
  else
    let updated := s.updateTransports link
    (updated.1,.done updated.2)

def editLink (s : State) {ifIndex : ℤ} (byIndex : Except GoError InterfaceRef) (edit : Edit ifIndex) : State × CallResult :=
  s.withLink ifIndex byIndex id fun s link =>
    { s with
      links := s.links.insert ifIndex (edit.link link)
      defaultRouteSequence := edit.sequence s.defaultRouteSequence }.postUpdate (edit.link link)

def Edit.ofLink (ifIndex : ℤ) (link : TransportLink → TransportLink) (id_link : ∀ l, (link l).id = l.id)
    (iif_link : ∀ l, (link l).iif = l.iif) : Edit ifIndex :=
  ⟨link,id,id_link,iif_link,fun _ _ _ => Iff.rfl⟩

def Edit.dns (ifIndex : ℤ) (addresses : List LinkDNS) : Edit ifIndex :=
  .ofLink ifIndex (fun link => { link with address := addresses }) (fun _ => rfl) fun _ => rfl

def Edit.dnsEx (ifIndex : ℤ) (addresses : List LinkDNSEx) : Edit ifIndex :=
  .ofLink ifIndex (fun link => { link with addressEx := addresses }) (fun _ => rfl) fun _ => rfl

def Edit.domains (ifIndex : ℤ) (domains : List LinkDomain) : Edit ifIndex :=
  .ofLink ifIndex (fun link => { link with domain := domains }) (fun _ => rfl) fun _ => rfl

/-- A mode that is not known changes nothing. -/
def dotMode (mode : String) (dnsOverTLS : Bool) : Bool :=
  if mode = "yes" then true else if mode = "" ∨ mode = "opportunistic" ∨ mode = "no" then false else dnsOverTLS

def Edit.dnsOverTLS (ifIndex : ℤ) (mode : String) : Edit ifIndex :=
  .ofLink ifIndex (fun link => { link with dnsOverTLS := dotMode mode link.dnsOverTLS }) (fun _ => rfl) fun _ => rfl

def Edit.ofRoute (ifIndex : ℤ) (defaultRoute : Bool) : Edit ifIndex where
  link link := { link with defaultRoute := defaultRoute }
  sequence order := if defaultRoute then order.filter (· ≠ ifIndex)++[ifIndex] else order.filter (· ≠ ifIndex)
  id_link _ := rfl
  iif_link _ := rfl
  mem_sequence := by
    intro order i hi
    cases defaultRoute <;> simp [hi]

def setLinkDNS (s : State) (ifIndex : ℤ) (byIndex : Except GoError InterfaceRef) (addresses : List LinkDNS) :
    State × CallResult :=
  s.editLink byIndex (.dns ifIndex addresses)

def setLinkDNSEx (s : State) (ifIndex : ℤ) (byIndex : Except GoError InterfaceRef) (addresses : List LinkDNSEx) :
    State × CallResult :=
  s.editLink byIndex (.dnsEx ifIndex addresses)

def setLinkDomains (s : State) (ifIndex : ℤ) (byIndex : Except GoError InterfaceRef) (domains : List LinkDomain) :
    State × CallResult :=
  s.editLink byIndex (.domains ifIndex domains)

def setLinkDefaultRoute (s : State) (ifIndex : ℤ) (byIndex : Except GoError InterfaceRef) (defaultRoute : Bool) :
    State × CallResult :=
  s.editLink byIndex (.ofRoute ifIndex defaultRoute)

def setLinkDNSOverTLS (s : State) (ifIndex : ℤ) (byIndex : Except GoError InterfaceRef) (mode : String) :
    State × CallResult :=
  s.editLink byIndex (.dnsOverTLS ifIndex mode)

def revertLink (s : State) (ifIndex : ℤ) (byIndex : Except GoError InterfaceRef) : State × CallResult :=
  s.withLink ifIndex byIndex id fun s link => { s with links := s.links.erase ifIndex }.postUpdate link

/-- `ResolveHostname`, `ResolveAddress`, `ResolveRecord` and `ResolveService`, up to where they ask the router. Where the
interface is not found they return with the lock. -/
def resolve (s : State) (ifIndex : ℤ) (byIndex : Except GoError InterfaceRef) : State × CallResult :=
  s.withLink ifIndex byIndex (fun s => { s with locked := true }) fun s link =>
    if link.iif = none then (s,.nilPointer) else (s,.done none)

/-- `err != nil || iif != link.iif` does not hold. -/
def unchanged (byIndex : ℤ → Except GoError InterfaceRef) (ifIndex : ℤ) (link : TransportLink) : Bool :=
  match byIndex ifIndex with
  | .error _ => false
  | .ok iif => link.iif == some iif

/-- One round of the loop over the links: a link loses its servers and its place, whatever became of its interface. -/
def updateRound (s : State) (entry : Sigma fun _ : ℤ => TransportLink) : State :=
  { s with defaultRouteSequence := s.defaultRouteSequence.filter (· ≠ entry.1) }.deleteTransport entry.2

def networkUpdated (s : State) (byIndex : ℤ → Except GoError InterfaceRef) : State :=
  let deleteIfIndex := (s.links.entries.filter fun entry => !unchanged byIndex entry.1 entry.2).map Sigma.fst
  let s := s.links.entries.foldl updateRound s
  { s with links := deleteIfIndex.foldl (fun links ifIndex => links.erase ifIndex) s.links }

def onNetworkUpdate (s : State) (byIndex : ℤ → Except GoError InterfaceRef) : State × CallResult :=
  if s.locked then (s,.blocked) else (s.networkUpdated byIndex,.done none)

variable (acceptDefaultResolvers ad : Bool)

/-- The root domain of a link that only routes is left to the default resolvers. -/
def usable (domain : LinkDomain) : Bool :=
  !(domain.domain == ascii "." && domain.routingOnly && !acceptDefaultResolvers)

def visitLink (name : Bytes) (selectedLink : Option TransportLink) (link : TransportLink) : Option TransportLink :=
  link.domain.foldl (fun selectedLink domain => if !usable acceptDefaultResolvers domain then selectedLink
    else if domain.domain <:+ name then some link
    else selectedLink) selectedLink

def selectByDomain (name : Bytes) (visited : List TransportLink) : Option TransportLink :=
  visited.foldl (visitLink acceptDefaultResolvers name) none

def forName (name : Bytes) (link : TransportLink) : Bool :=
  link.domain.any fun domain => usable acceptDefaultResolvers domain && decide (domain.domain <:+ name)

lemma visitLink_eq (n : Bytes) (sl : Option TransportLink) (l : TransportLink) :
    visitLink ad n sl l = if forName ad n l then some l else sl := by
  unfold visitLink forName
  generalize l.domain = ds
  induction ds generalizing sl with
  | nil => rfl
  | cons d ds ih =>
    rw [List.foldl_cons,ih,List.any_cons]
    cases usable ad d with
    | false => rfl
    | true =>
      by_cases hs : d.domain <:+ n <;> simp [hs]

lemma selectByDomain_eq (n : Bytes) (v : List TransportLink) :
    selectByDomain ad n v = Visit.last (forName ad n) v none := by
  have hv : visitLink ad n = fun f l =>
      if forName ad n l then some l else f := by
    funext f l
    exact visitLink_eq ad n f l
  rw [selectByDomain,hv]
  rfl

/-- The loop over the default routes from the last one on; `none` is a nil pointer. -/
def selectByRoute (s : State) : List ℤ → Option TransportLink → Option (Option TransportLink)
  | [], selectedLink => some selectedLink
  | ifIndex :: rest, _ =>
    match s.links.lookup ifIndex with
    | none => none
    | some link =>
      if link.address ≠ [] ∨ link.addressEx ≠ [] then some (some link) else selectByRoute s rest (some link)

inductive Exchanged
  | blocked
  | nilPointer
  | nameError
  | exchange (link : TransportLink) (servers : List Server)

def selectLink (s : State) (visited : List TransportLink) (name : Bytes) : Option (Option TransportLink) :=
  match selectByDomain acceptDefaultResolvers name visited with
  | some link => some (some link)
  | none => if acceptDefaultResolvers then s.selectByRoute s.defaultRouteSequence.reverse none else some none

/-- `Exchange`, up to where the servers of a link are asked. -/
def exchange (s : State) (visited : List TransportLink) (name : Bytes) : Exchanged :=
  if s.locked then .blocked
  else
    match s.selectLink acceptDefaultResolvers visited name with
    | none => .nilPointer
    | some none => .nameError
    | some (some link) =>
      match s.linkServers link.id with
      | none => .nilPointer
      | some [] => .nameError
      | some servers => .exchange link servers

end State

/-- Calls on the bus and updates of the network, with what the interface finder says to them. -/
inductive Event
  | setLinkDNS (ifIndex : ℤ) (byIndex : Except GoError InterfaceRef) (addresses : List LinkDNS)
  | setLinkDNSEx (ifIndex : ℤ) (byIndex : Except GoError InterfaceRef) (addresses : List LinkDNSEx)
  | setLinkDomains (ifIndex : ℤ) (byIndex : Except GoError InterfaceRef) (domains : List LinkDomain)
  | setLinkDefaultRoute (ifIndex : ℤ) (byIndex : Except GoError InterfaceRef) (defaultRoute : Bool)
  | setLinkDNSOverTLS (ifIndex : ℤ) (byIndex : Except GoError InterfaceRef) (mode : String)
  | revertLink (ifIndex : ℤ) (byIndex : Except GoError InterfaceRef)
  | resolve (ifIndex : ℤ) (byIndex : Except GoError InterfaceRef)
  | networkUpdate (byIndex : ℤ → Except GoError InterfaceRef)

def Event.call (s : State) : Event → State × CallResult
  | setLinkDNS ifIndex byIndex addresses => s.setLinkDNS ifIndex byIndex addresses
  | setLinkDNSEx ifIndex byIndex addresses => s.setLinkDNSEx ifIndex byIndex addresses
  | setLinkDomains ifIndex byIndex domains => s.setLinkDomains ifIndex byIndex domains
  | setLinkDefaultRoute ifIndex byIndex defaultRoute => s.setLinkDefaultRoute ifIndex byIndex defaultRoute
  | setLinkDNSOverTLS ifIndex byIndex mode => s.setLinkDNSOverTLS ifIndex byIndex mode
  | revertLink ifIndex byIndex => s.revertLink ifIndex byIndex
  | resolve ifIndex byIndex => s.resolve ifIndex byIndex
  | networkUpdate byIndex => s.onNetworkUpdate byIndex

def State.next (s : State) (event : Event) : State := (event.call s).1

end SingBox.Resolved
