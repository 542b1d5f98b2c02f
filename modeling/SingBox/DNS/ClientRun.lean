import SingBox.DNS.Client
import SingBox.Library.Run

/-! Histories of the DNS client: calls start and return, transports answer, time passes and the stores
forget, in any order. -/
namespace SingBox.DNS
open Adapter

/-- A response that a transport gave, with the call or refresh it was given to. -/
structure Fetch where
  transport : String
  question : Question
  message : Msg
  options : DNSQueryOptions
  responseChecker : Option (Msg → Bool)
  upstream : Msg

def Fetch.key (f : Fetch) : CacheKey := ⟨f.question,f.transport⟩

def Fetch.applied (f : Fetch) : Msg := (applyResponseOptions f.question f.upstream f.options).1

def Flight.fetch (flight : Flight) (upstream : Msg) : Fetch :=
  ⟨flight.query.transport,flight.question,flight.message,flight.query.options, flight.query.responseChecker,upstream⟩

def Refresh.fetch (refresh : Refresh) (upstream : Msg) : Fetch :=
  ⟨refresh.transport,refresh.question,refresh.message,refresh.options,refresh.responseChecker,upstream⟩

/-- A call that returned; a lookup is one of the queries that `Lookup` makes. -/
inductive Return
  | exchange (q : Query) (result : Except ClientError Msg)
  | lookup (q : Query) (result : Except ClientError (List Addr))

structure ClientEvent where
  fetched : Option Fetch := none
  returned : Option Return := none

inductive Input
  | exchange (q : Query)
  | lookup (transport name : String) (qType : ℕ) (options : DNSQueryOptions)
      (responseChecker : Option (Msg → Bool)) (contextTransport : Option String)
  | answerExchange (i : ℕ) (answer : Answer)
  | answerLookup (i : ℕ) (answer : Answer)
  | answerRefresh (i : ℕ) (answer : Answer)
  | advance (duration : ℕ)
  | clearCache

structure ClientSystem (μ ν ρ : Type) where
  client : ClientState μ ν ρ
  exchanges : List Flight
  lookups : List Flight

section
variable {μ ν ρ : Type} (c : Client μ ν ρ)

def initialSystem (now : ℕ) : ClientSystem μ ν ρ := ⟨⟨now,c.memory.empty,c.store.empty,c.rejections.empty,[]⟩,[],[]⟩

def upstreamOf (message : Msg) (answer : Answer) : Option Msg := (exchangeToTransport message answer).toOption

def systemStep (s : ClientSystem μ ν ρ) : Input → ClientSystem μ ν ρ × ClientEvent
  | .exchange q =>
      match beginExchange c s.client q with
      | (client,.done result) => ({ s with client := client },{ returned := some (.exchange q result) })
      | (client,.upstream flight) => ({ s with client := client, exchanges := s.exchanges++[flight] },{})
  | .lookup transport name qType options responseChecker contextTransport =>
      let q := lookupQuery transport name qType options responseChecker contextTransport
      match beginLookup c s.client q ⟨name,qType,classINET⟩ with
      | (client,.done result) => ({ s with client := client },{ returned := some (.lookup q result) })
      | (client,.upstream flight) => ({ s with client := client, lookups := s.lookups++[flight] },{})
  | .answerExchange i answer =>
      match s.exchanges[i]? with
      | none => (s,{})
      | some flight =>
          let finished := finishExchange c s.client flight answer
          ({ s with client := finished.1, exchanges := s.exchanges.eraseIdx i },
            { fetched := (upstreamOf flight.message answer).map flight.fetch
              returned := some (.exchange flight.query finished.2) })
  | .answerLookup i answer =>
      match s.lookups[i]? with
      | none => (s,{})
      | some flight =>
          let finished := finishExchange c s.client flight answer
          ({ s with client := finished.1, lookups := s.lookups.eraseIdx i },
            { fetched := (upstreamOf flight.message answer).map flight.fetch
              returned := some (.lookup flight.query (finished.2.bind (lookupAddresses c))) })
  | .answerRefresh i answer =>
      match s.client.backgroundRefresh[i]? with
      | none => (s,{})
      | some refresh =>
          let client := finishRefresh c s.client refresh answer
          ({ s with client := { client with backgroundRefresh := client.backgroundRefresh.eraseIdx i } },
            { fetched := (upstreamOf refresh.message answer).map refresh.fetch })
  | .advance duration => ({ s with client := { s.client with now := s.client.now+duration } },{})
  | .clearCache => ({ s with client := clearCache c s.client },{})

inductive SystemMoves (s : ClientSystem μ ν ρ) : Input → ClientSystem μ ν ρ × ClientEvent → Prop
  | exchanged (q : Query) (client : ClientState μ ν ρ) (result : Except ClientError Msg)
      (h : beginExchange c s.client q = (client,.done result)) :
      SystemMoves s (.exchange q) ({ s with client := client },{ returned := some (.exchange q result) })
  | exchangeSent (q : Query) (client : ClientState μ ν ρ) (flight : Flight)
      (h : beginExchange c s.client q = (client,.upstream flight)) :
      SystemMoves s (.exchange q) ({ s with client := client, exchanges := s.exchanges++[flight] },{})
  | lookedUp (transport name : String) (qType : ℕ) (options : DNSQueryOptions)
      (responseChecker : Option (Msg → Bool)) (contextTransport : Option String) (q : Query)
      (client : ClientState μ ν ρ) (result : Except ClientError (List Addr))
      (hquery : lookupQuery transport name qType options responseChecker contextTransport = q)
      (h : beginLookup c s.client q ⟨name,qType,classINET⟩ = (client,.done result)) :
      SystemMoves s (.lookup transport name qType options responseChecker contextTransport)
        ({ s with client := client },{ returned := some (.lookup q result) })
  | lookupSent (transport name : String) (qType : ℕ) (options : DNSQueryOptions)
      (responseChecker : Option (Msg → Bool)) (contextTransport : Option String) (q : Query)
      (client : ClientState μ ν ρ) (flight : Flight)
      (hquery : lookupQuery transport name qType options responseChecker contextTransport = q)
      (h : beginLookup c s.client q ⟨name,qType,classINET⟩ = (client,.upstream flight)) :
      SystemMoves s (.lookup transport name qType options responseChecker contextTransport)
        ({ s with client := client, lookups := s.lookups++[flight] },{})
  | noExchange (i : ℕ) (answer : Answer) (h : s.exchanges[i]? = none) :
      SystemMoves s (.answerExchange i answer) (s,{})
  | exchangeAnswered (i : ℕ) (answer : Answer) (flight : Flight) (h : s.exchanges[i]? = some flight) :
      SystemMoves s (.answerExchange i answer)
        ({ s with client := (finishExchange c s.client flight answer).1, exchanges := s.exchanges.eraseIdx i },
          { fetched := (upstreamOf flight.message answer).map flight.fetch
            returned := some (.exchange flight.query (finishExchange c s.client flight answer).2) })
  | noLookup (i : ℕ) (answer : Answer) (h : s.lookups[i]? = none) :
      SystemMoves s (.answerLookup i answer) (s,{})
  | lookupAnswered (i : ℕ) (answer : Answer) (flight : Flight) (h : s.lookups[i]? = some flight) :
      SystemMoves s (.answerLookup i answer)
        ({ s with client := (finishExchange c s.client flight answer).1, lookups := s.lookups.eraseIdx i },
          { fetched := (upstreamOf flight.message answer).map flight.fetch
            returned := some (.lookup flight.query
              ((finishExchange c s.client flight answer).2.bind (lookupAddresses c))) })
  | noRefresh (i : ℕ) (answer : Answer) (h : s.client.backgroundRefresh[i]? = none) :
      SystemMoves s (.answerRefresh i answer) (s,{})
  | refreshAnswered (i : ℕ) (answer : Answer) (refresh : Refresh)
      (h : s.client.backgroundRefresh[i]? = some refresh) :
      SystemMoves s (.answerRefresh i answer)
        ({ s with client := { finishRefresh c s.client refresh answer with
            backgroundRefresh := (finishRefresh c s.client refresh answer).backgroundRefresh.eraseIdx i } },
          { fetched := (upstreamOf refresh.message answer).map refresh.fetch })
  | advanced (duration : ℕ) :
      SystemMoves s (.advance duration) ({ s with client := { s.client with now := s.client.now+duration } },{})
  | cleared : SystemMoves s .clearCache ({ s with client := clearCache c s.client },{})

variable (s : ClientSystem μ ν ρ) (inputs : List Input)

lemma systemStep_cases (ip : Input) : SystemMoves c s ip (systemStep c s ip) := by
  cases ip with
  | exchange q =>
    unfold systemStep
    dsimp only
    split
    · exact .exchanged q _ _ (by assumption)
    · exact .exchangeSent q _ _ (by assumption)
  | lookup =>
    unfold systemStep
    dsimp only
    split
    · exact .lookedUp _ _ _ _ _ _ _ _ _ rfl (by assumption)
    · exact .lookupSent _ _ _ _ _ _ _ _ _ rfl (by assumption)
  | answerExchange i a =>
    unfold systemStep
    dsimp only
    split
    · exact .noExchange i a (by assumption)
    · exact .exchangeAnswered i a _ (by assumption)
  | answerLookup i a =>
    unfold systemStep
    dsimp only
    split
    · exact .noLookup i a (by assumption)
    · exact .lookupAnswered i a _ (by assumption)
  | answerRefresh i a =>
    unfold systemStep
    dsimp only
    split
    · exact .noRefresh i a (by assumption)
    · exact .refreshAnswered i a _ (by assumption)
  | advance d => exact .advanced d
  | clearCache => exact .cleared

/-- Entries that a store holds after maintenance: some of those before, an expiry perhaps rounded down
to the second that the cache file keeps. -/
def Maintained (before after : ClientState μ ν ρ) : Prop :=
  (∀ key entry, c.memory.lookup after.cache key = some entry → c.memory.lookup before.cache key = some entry) ∧
  (∀ key raw expireAt, c.store.lookup after.dnsCache key = some (raw,expireAt) →
    ∃ expireAt', c.store.lookup before.dnsCache key = some (raw,expireAt') ∧
      (expireAt = expireAt' ∨ expireAt = expireAt'/second*second)) ∧
  (∀ key entry, c.rejections.lookup after.rdrc key = some entry → c.rejections.lookup before.rdrc key = some entry) ∧
  after.now = before.now ∧ after.backgroundRefresh = before.backgroundRefresh

inductive SystemStep : ClientSystem μ ν ρ → ClientEvent → ClientSystem μ ν ρ → Prop
  | input (s : ClientSystem μ ν ρ) (input : Input) : SystemStep s (systemStep c s input).2 (systemStep c s input).1
  | maintenance {s : ClientSystem μ ν ρ} {client : ClientState μ ν ρ} : Maintained c s.client client →
      SystemStep s {} { s with client := client }

/-- A history of the client that starts with empty stores. -/
def ClientHistory (history : List ClientEvent) (s : ClientSystem μ ν ρ) : Prop :=
  ∃ now, Run (SystemStep c) (initialSystem c now) history s

def runInputs (s : ClientSystem μ ν ρ) : List Input → ClientSystem μ ν ρ × List ClientEvent
  | [] => (s,[])
  | input :: inputs =>
      let rest := runInputs (systemStep c s input).1 inputs
      (rest.1,(systemStep c s input).2 :: rest.2)

lemma run_runInputs : Run (SystemStep c) s (runInputs c s inputs).2 (runInputs c s inputs).1 := by
  induction inputs generalizing s with
  | nil => exact .nil
  | cons i inputs ih => exact .cons (.input s i) (ih _)

lemma clientHistory_runInputs :
    ClientHistory c (runInputs c (initialSystem c 0) inputs).2 (runInputs c (initialSystem c 0) inputs).1 :=
  ⟨0,run_runInputs c _ inputs⟩

end

def fetches (history : List ClientEvent) : List Fetch := history.filterMap ClientEvent.fetched

lemma fetches_append (xs ys : List ClientEvent) : fetches (xs++ys) = fetches xs++fetches ys := List.filterMap_append

variable {hi : List ClientEvent}

lemma mem_fetches_append_left {f : Fetch} (h : f ∈ fetches hi) (e : ClientEvent) : f ∈ fetches (hi++[e]) := by
  rw [fetches_append]
  exact List.mem_append_left _ h

lemma mem_fetches_concat {e : ClientEvent} {f : Fetch} (h : e.fetched = some f) : f ∈ fetches (hi++[e]) := by
  rw [fetches_append]
  exact List.mem_append_right _ (List.mem_filterMap.mpr ⟨e,List.mem_singleton.mpr rfl,h⟩)

def plainOps : MsgOps where
  pack _ := none
  unpack _ := none
  isEdns0 _ := none
  version _ := 0
  udpSize _ := 0
  dnssecOk _ := false
  setEdns0 message _ _ := message
  isFqdn fqdn := fqdn.endsWith "."
  fqdn domain := if domain.endsWith "." then domain else domain ++ "."
  unpack_pack _ _ h := by cases h

def plainClient : Client (CacheKey → Option (Msg × ℕ)) (StoreKey → Option (List UInt8 × ℕ))
    (StoreKey → Option Unit) where
  disableCache := false
  disableExpire := false
  optimisticTimeout := 0
  clientSubnet := ⟨.invalid,0⟩
  persistent := false
  hasRDRC := true
  p := bareHost
  ops := plainOps
  memory := EvictingMap.total
  store := EvictingMap.total
  rejections := EvictingMap.total

def addressQuery (options : DNSQueryOptions) (responseChecker : Option (Msg → Bool)) : Query where
  transport := "local"
  message := { id := 7, recursionDesired := true, question := [⟨"a.test.",typeA,classINET⟩] }
  options := options
  responseChecker := responseChecker

def addressReply (ip : List UInt8) : Msg :=
  { id := 7, response := true, question := [⟨"a.test.",typeA,classINET⟩]
    answer := [⟨⟨"a.test.",typeA,classINET,60⟩,.a ip⟩] }

end SingBox.DNS
