import SingBox.DNS.Response
import SingBox.Library.EvictingMap

/-! The DNS client (`dns/client.go`). A query is answered from the cache or goes to its transport; the
answer of the transport comes later, as does the answer to a background refresh. -/
namespace SingBox.DNS
open Adapter

/-- `dnsCacheKey`. -/
structure CacheKey where
  question : Question
  transportTag : String
  deriving DecidableEq

structure StoreKey where
  transportName : String
  qName : String
  qType : ℕ
  deriving DecidableEq

def CacheKey.storeKey (key : CacheKey) : StoreKey := ⟨key.transportTag,key.question.name,key.question.qtype⟩

inductive ClientError
  | loopback (transport : String)
  | responseRejected
  | responseRejectedCached
  | rcode (rcode : ℕ)
  | transport (err : GoError)
  deriving DecidableEq

/-- The client after `Start`: its options and stores. `persistent` tells whether the DNS cache is the
one of the cache file; the memory cache only exists without it. -/
structure Client (μ ν ρ : Type) where
  disableCache : Bool
  disableExpire : Bool
  optimisticTimeout : ℕ
  clientSubnet : Prefix
  persistent : Bool
  hasRDRC : Bool
  p : Platform
  ops : MsgOps
  memory : EvictingMap μ CacheKey (Msg × ℕ)
  store : EvictingMap ν StoreKey (List UInt8 × ℕ)
  rejections : EvictingMap ρ StoreKey Unit

/-- The arguments of `Exchange`, with the transport tag that the context carries. -/
structure Query where
  transport : String
  message : Msg
  options : DNSQueryOptions
  responseChecker : Option (Msg → Bool)
  contextTransport : Option String := none

structure Flight where
  query : Query
  question : Question
  message : Msg
  disableCache : Bool
  question_eq : query.message.question.head? = some question

structure Refresh where
  transport : String
  question : Question
  message : Msg
  options : DNSQueryOptions
  responseChecker : Option (Msg → Bool)

def Refresh.key (refresh : Refresh) : CacheKey := ⟨refresh.question,refresh.transport⟩

inductive Answer
  | response (response : Msg)
  | rcodeError (rcode : ℕ)
  | failed (err : GoError)

structure ClientState (μ ν ρ : Type) where
  now : ℕ
  cache : μ
  dnsCache : ν
  rdrc : ρ
  backgroundRefresh : List Refresh

def second : ℕ := 1000000000

/-- What `loadResponse` returns. -/
structure Loaded where
  response : Msg
  nowTTL : ℕ
  isStale : Bool

section
variable {μ ν ρ : Type} (c : Client μ ν ρ)

def ageResponse (now expireAt : ℕ) (response : Msg) : Option Loaded :=
  if now > expireAt then
    if c.optimisticTimeout > 0 ∧ now < expireAt+c.optimisticTimeout then
      some ⟨normalizeTTL response 1,0,true⟩
    else none
  else
    let nowTTL := (expireAt-now)/second
    some ⟨normalizeTTL response nowTTL,nowTTL,false⟩

def loadPersistentResponse (s : ClientState μ ν ρ) (key : CacheKey) : Option Loaded :=
  match c.store.lookup s.dnsCache key.storeKey with
  | none => none
  | some (rawMessage,expireAt) =>
      match c.ops.unpack rawMessage with
      | none => none
      | some response =>
          if c.disableExpire then some ⟨response,0,false⟩ else ageResponse c s.now expireAt response

/-- `loadResponse`; an entry that is too old is removed from the memory cache. -/
def loadResponse (s : ClientState μ ν ρ) (key : CacheKey) : ClientState μ ν ρ × Option Loaded :=
  if c.persistent then (s,loadPersistentResponse c s key)
  else if c.disableCache then (s,none)
  else
    match c.memory.lookup s.cache key with
    | none => (s,none)
    | some (response,expireAt) =>
        if c.disableExpire then (s,some ⟨response,0,false⟩)
        else
          match ageResponse c s.now expireAt response with
          | some loaded => (s,some loaded)
          | none => ({ s with cache := c.memory.erase s.cache key },none)

def storeCache (s : ClientState μ ν ρ) (key : CacheKey) (message : Msg) (timeToLive : ℕ) :
    ClientState μ ν ρ :=
  if timeToLive = 0 then s
  else if c.persistent then
    match c.ops.pack message with
    | some packed =>
        { s with dnsCache := c.store.insert s.dnsCache key.storeKey (packed,s.now+second*timeToLive) }
    | none => s
  else if c.disableCache then s
  else
    { s with
      cache := c.memory.insert s.cache key
        (message,if c.disableExpire then 0 else s.now+second*timeToLive) }

def saveRDRC (s : ClientState μ ν ρ) (key : CacheKey) : ClientState μ ν ρ :=
  if c.hasRDRC then { s with rdrc := c.rejections.insert s.rdrc key.storeKey () } else s

/-- `backgroundRefreshDNS` up to its goroutine: one refresh for a key at a time. -/
def backgroundRefreshDNS (s : ClientState μ ν ρ) (refresh : Refresh) : ClientState μ ν ρ :=
  if (s.backgroundRefresh.map Refresh.key).contains refresh.key then s
  else { s with backgroundRefresh := s.backgroundRefresh++[refresh] }

def prepareExchangeMessage (message : Msg) (options : DNSQueryOptions) : Msg :=
  let clientSubnet := if options.clientSubnet.isValid then options.clientSubnet else c.clientSubnet
  if clientSubnet.isValid then setClientSubnet message clientSubnet else message

/-- `exchangeToTransport`, once the transport has answered. -/
def exchangeToTransport (message : Msg) : Answer → Except ClientError Msg
  | .response response => .ok response
  | .rcodeError rcode => .ok (fixedResponseStatus message rcode)
  | .failed err => .error (.transport err)

def usableRcode (response : Msg) : Bool := response.rcode == rcodeSuccess || response.rcode == rcodeNameError

def checkRejects (responseChecker : Option (Msg → Bool)) (response : Msg) : Bool :=
  match responseChecker with
  | none => false
  | some check => if !usableRcode response then true else !check response

def strategyRejects (question : Question) (options : DNSQueryOptions) : Bool :=
  question.qtype == typeA && options.strategy == .ipv6Only ||
    question.qtype == typeAAAA && options.strategy == .ipv4Only

/-- How `Exchange` goes on: it returns, or it waits for the transport. -/
inductive Begun
  | done (result : Except ClientError Msg)
  | upstream (flight : Flight)

def sendUpstream (s : ClientState μ ν ρ) (flight : Flight) : Begun :=
  let key : CacheKey := ⟨flight.question,flight.query.transport⟩
  if flight.query.contextTransport = some flight.query.transport then
    .done (.error (.loopback flight.query.transport))
  else if !flight.disableCache && flight.query.responseChecker.isSome && c.hasRDRC &&
      (c.rejections.lookup s.rdrc key.storeKey).isSome then
    .done (.error .responseRejectedCached)
  else .upstream flight

/-- `Exchange` up to the call of the transport. -/
def beginExchange (s : ClientState μ ν ρ) (q : Query) : ClientState μ ν ρ × Begun :=
  match hquestion : q.message.question with
  | [] => (s,.done (.ok (fixedResponseStatus q.message rcodeFormatError)))
  | question :: rest =>
      if strategyRejects question q.options then
        (s,.done (.ok (fixedResponseStatus q.message rcodeSuccess)))
      else
        let message := prepareExchangeMessage c q.message q.options
        let disableCache := !isSimpleRequest message q.options || c.disableCache || q.options.disableCache
        let flight : Flight := ⟨q,question,message,disableCache,by rw [hquestion]; rfl⟩
        if disableCache then (s,sendUpstream c s flight)
        else
          match loadResponse c s ⟨question,q.transport⟩ with
          | (s,none) => (s,sendUpstream c s flight)
          | (s,some loaded) =>
              if loaded.isStale && !q.options.disableOptimisticCache then
                (backgroundRefreshDNS s ⟨q.transport,question,message,q.options,q.responseChecker⟩,
                  .done (.ok { loaded.response with id := message.id }))
              else if !loaded.isStale then (s,.done (.ok { loaded.response with id := message.id }))
              else (s,sendUpstream c s flight)

/-- `Exchange` from the answer of the transport on. -/
def finishExchange (s : ClientState μ ν ρ) (flight : Flight) (answer : Answer) :
    ClientState μ ν ρ × Except ClientError Msg :=
  let key : CacheKey := ⟨flight.question,flight.query.transport⟩
  match exchangeToTransport flight.message answer with
  | .error err => (s,.error err)
  | .ok response =>
      let disableCache := flight.disableCache || !usableRcode response
      if checkRejects flight.query.responseChecker response then
        (if disableCache then s else saveRDRC c s key,.error .responseRejected)
      else
        let applied := applyResponseOptions flight.question response flight.query.options
        let s := if disableCache then s else storeCache c s key applied.1 applied.2
        (s,.ok (adjustEDNS c.ops flight.message { applied.1 with id := flight.message.id }))

/-- The goroutine of `backgroundRefreshDNS`, once the transport has answered. -/
def finishRefresh (s : ClientState μ ν ρ) (refresh : Refresh) (answer : Answer) : ClientState μ ν ρ :=
  match exchangeToTransport refresh.message answer with
  | .error _ => s
  | .ok response =>
      if checkRejects refresh.responseChecker response then saveRDRC c s refresh.key
      else if refresh.responseChecker.isNone && !usableRcode response then s
      else
        let applied := applyResponseOptions refresh.question response refresh.options
        storeCache c s refresh.key applied.1 applied.2

def lookupAddresses (response : Msg) : Except ClientError (List Addr) :=
  if response.rcode ≠ rcodeSuccess then .error (.rcode response.rcode)
  else .ok (dnsResponseAddresses c.p (some response))

/-- `questionCache`; no result stands for `ErrNotCached`. -/
def questionCache (s : ClientState μ ν ρ) (q : Query) (question : Question) :
    ClientState μ ν ρ × Option (Except ClientError (List Addr)) :=
  match loadResponse c s ⟨question,q.transport⟩ with
  | (s,none) => (s,none)
  | (s,some loaded) =>
      if loaded.isStale then
        if q.options.disableOptimisticCache then (s,none)
        else
          (backgroundRefreshDNS s
            ⟨q.transport,question,prepareExchangeMessage c q.message q.options,q.options,q.responseChecker⟩,
            some (lookupAddresses c loaded.response))
      else (s,some (lookupAddresses c loaded.response))

/-- The query that `lookupToExchange` makes for one address family. -/
def lookupQuery (transport name : String) (qType : ℕ) (options : DNSQueryOptions)
    (responseChecker : Option (Msg → Bool)) (contextTransport : Option String) : Query :=
  { transport, options, responseChecker, contextTransport
    message := { recursionDesired := true, question := [⟨name,qType,classINET⟩] } }

/-- How `lookupToExchange` goes on. -/
inductive BegunLookup
  | done (result : Except ClientError (List Addr))
  | upstream (flight : Flight)

/-- `lookupToExchange` up to the call of the transport, for one of its queries. -/
def beginLookup (s : ClientState μ ν ρ) (q : Query) (question : Question) :
    ClientState μ ν ρ × BegunLookup :=
  let cached := if c.disableCache || q.options.disableCache then (s,none) else questionCache c s q question
  match cached with
  | (s,some result) => (s,.done result)
  | (s,none) =>
      match beginExchange c s q with
      | (s,.done result) => (s,.done (result.bind (lookupAddresses c)))
      | (s,.upstream flight) => (s,.upstream flight)

/-- `ClearCache`. -/
def clearCache (s : ClientState μ ν ρ) : ClientState μ ν ρ :=
  { s with
    cache := if c.disableCache || c.persistent then s.cache else c.memory.clear s.cache
    dnsCache := if c.persistent then c.store.clear s.dnsCache else s.dnsCache }

end

/-- The strategy of `Lookup` and the options its queries get. -/
def lookupStrategy (options : DNSQueryOptions) : DomainStrategy :=
  if options.lookupStrategy ≠ .asIS then options.lookupStrategy else options.strategy

def lookupOptions (options : DNSQueryOptions) : DNSQueryOptions :=
  if options.lookupStrategy ≠ .asIS then { options with strategy := lookupStrategy options } else options

def sortAddresses (response4 response6 : List Addr) (strategy : DomainStrategy) : List Addr :=
  if strategy = .preferIPv6 then response6++response4 else response4++response6

def familyAddresses (result : Option (Except ClientError (List Addr))) : List Addr :=
  match result with
  | some (.ok addresses) => addresses
  | _ => []

/-- The result of `Lookup`, from the results of its two queries; one that did not return in time has
none. The error is the one of the task group. -/
def lookupResult (strategy : DomainStrategy) (result4 result6 : Option (Except ClientError (List Addr)))
    (groupError : Option ClientError) : Except ClientError (List Addr) :=
  match strategy with
  | .ipv4Only => result4.getD (.ok [])
  | .ipv6Only => result6.getD (.ok [])
  | _ =>
      let response4 := familyAddresses result4
      let response6 := familyAddresses result6
      if response4.length = 0 ∧ response6.length = 0 then
        match groupError with
        | some err => .error err
        | none => .ok []
      else .ok (sortAddresses response4 response6 strategy)

end SingBox.DNS
