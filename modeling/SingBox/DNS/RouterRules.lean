import SingBox.DNS.Client
import SingBox.Route.MatchRule
import SingBox.Rule.DNSRule

/-! DNS rules with their actions, and what the DNS router does with the options of an action
(`dns/router.go`, `route/rule/rule_action.go`). -/
namespace SingBox.DNS
open Adapter Rule

/-- `R.RuleActionDNSRouteOptions`. -/
structure DNSRouteOptions where
  strategy : DomainStrategy := .asIS
  disableCache : Bool := false
  disableOptimisticCache : Bool := false
  rewriteTTL : Option ℕ := none
  clientSubnet : Prefix := ⟨.invalid,0⟩
  deriving DecidableEq

/-- `R.RuleActionPredefined`. -/
structure PredefinedAction where
  rcode : ℕ
  answer : List RR
  ns : List RR
  extra : List RR
  deriving DecidableEq

inductive DNSRuleAction
  | route (server : String) (options : DNSRouteOptions)
  | evaluate (server : String) (options : DNSRouteOptions)
  | respond
  | routeOptions (options : DNSRouteOptions)
  | reject (method : Route.RejectMethod) (noDrop : Bool)
  | predefined (action : PredefinedAction)
  deriving DecidableEq

/-- The strategy among the options of an action, which forces the legacy mode where it is set. -/
def DNSRuleAction.strategy : DNSRuleAction → DomainStrategy
  | .route _ options => options.strategy
  | .evaluate _ options => options.strategy
  | .routeOptions options => options.strategy
  | _ => .asIS

/-- `validateDNSRuleAction`: the method `reply` is refused when a rule is built. -/
def validateDNSRuleAction : DNSRuleAction → Bool
  | .reject .reply _ => false
  | _ => true

structure ActionRule where
  rule : DNSRule
  action : DNSRuleAction
  valid : validateDNSRuleAction action = true

structure DNSTransport where
  tag : String
  isFakeIP : Bool
  deriving DecidableEq

/-- What the router asks: the matcher of its rules, the transport manager, and its default strategy. -/
structure DNSRouter where
  m : ItemMatcher
  transport : String → Option DNSTransport
  defaultTransport : DNSTransport
  defaultDomainStrategy : DomainStrategy

section

/-- `applyDNSRouteOptions`, which leaves the strategy alone. -/
def applyDNSRouteOptions (options : DNSQueryOptions) (routeOptions : DNSRouteOptions) : DNSQueryOptions :=
  { options with
    disableCache := if routeOptions.disableCache then true else options.disableCache
    disableOptimisticCache :=
      if routeOptions.disableOptimisticCache then true else options.disableOptimisticCache
    rewriteTTL := if routeOptions.rewriteTTL.isSome then routeOptions.rewriteTTL else options.rewriteTTL
    clientSubnet :=
      if routeOptions.clientSubnet.isValid then routeOptions.clientSubnet else options.clientSubnet }

variable (r : DNSRouter)

def fillStrategy (options : DNSQueryOptions) : DNSQueryOptions :=
  if options.strategy = .asIS then { options with strategy := r.defaultDomainStrategy } else options

/-- `dnsRouteStatus`, with the options that the call has changed. -/
inductive RouteStatus
  | missing
  | skipped (transport : DNSTransport)
  | resolved (transport : DNSTransport) (options : DNSQueryOptions)

def resolveDNSRoute (server : String) (routeOptions : DNSRouteOptions) (allowFakeIP : Bool)
    (options : DNSQueryOptions) : RouteStatus :=
  match r.transport server with
  | none => .missing
  | some transport =>
      if transport.isFakeIP && !allowFakeIP then .skipped transport
      else
        let options := applyDNSRouteOptions options routeOptions
        .resolved transport (if transport.isFakeIP then { options with disableCache := true } else options)

def DNSTransport.cacheOptions (transport : DNSTransport) (options : DNSQueryOptions) : DNSQueryOptions :=
  { options with disableCache := transport.isFakeIP || options.disableCache }

variable {r}

lemma resolveDNSRoute_resolved {s : String} {t : DNSTransport} {af : Bool}
    (ht : r.transport s = some t) (ha : t.isFakeIP → af) (ro : DNSRouteOptions) (os : DNSQueryOptions) :
    resolveDNSRoute r s ro af os = .resolved t (t.cacheOptions (applyDNSRouteOptions os ro)) := by
  cases hf : t.isFakeIP with
  | false => simp [resolveDNSRoute,DNSTransport.cacheOptions,ht,hf]
  | true => simp [resolveDNSRoute,DNSTransport.cacheOptions,ht,hf,ha hf]

end

def rcodeRefused : ℕ := 5

/-- The answer of a `reject` rule. -/
def refusedResponse (message : Msg) (question : Question) : Msg :=
  { id := message.id, rcode := rcodeRefused, response := true, question := [question] }

/-- `rewriteRecords`: a record under a wildcard takes the name of the question. -/
def rewriteRecords (records : List RR) (question : Question) : List RR :=
  records.map fun it =>
    if it.hdr.name.startsWith "*" && question.name.endsWith (it.hdr.name.drop 1).toString then
      { it with hdr := { it.hdr with name := question.name } }
    else it

/-- `RuleActionPredefined.Response`. -/
def PredefinedAction.response (action : PredefinedAction) (request : Msg) (question : Question) : Msg :=
  { id := request.id, response := true, authoritative := true, recursionDesired := true,
    recursionAvailable := true, rcode := action.rcode, question := request.question,
    answer := rewriteRecords action.answer question
    ns := rewriteRecords action.ns question
    extra := rewriteRecords action.extra question }

/-- `isAddressQuery`. -/
def isAddressQuery (message : Msg) : Bool :=
  message.question.any fun question =>
    question.qtype == typeA || question.qtype == typeAAAA || question.qtype == typeHTTPS

structure ClientCall where
  transport : DNSTransport
  options : DNSQueryOptions

inductive RouterError
  | client (err : ClientError)
  | dnsRespondMissingResponse
  | drop
  | rejected (method : Route.RejectMethod) (noDrop : Bool)
  | rcode (rcode : ℕ)
  | emptyResult
  deriving DecidableEq

def RouterError.message : RouterError → Option String
  | .dnsRespondMissingResponse =>
      some "respond action requires an evaluated response from a preceding evaluate action"
  | .emptyResult => some "empty result"
  | _ => none

end SingBox.DNS
