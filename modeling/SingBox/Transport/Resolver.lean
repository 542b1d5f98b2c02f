import SingBox.Library.Cut
import SingBox.Transport.DHCP

/-! The exchange of the local transport (`dns/transport/local`, without `systemd-resolved`) and of the
DHCP transport (`dns/transport/dhcp`): the candidates for a name, asked one after another or at once. -/
namespace SingBox.Resolver
open Adapter DNS Cut List
open DHCP (Name)

/-- The bytes of `.onion`. -/
def onion : Name := [46,111,110,105,111,110]

def Name.text (name : Name) : String := String.ofList (name.map fun byte => Char.ofNat byte.toNat)

def avoidDNS (name : Name) : Bool :=
  if name = [] then true
  else onion.isSuffixOf (if name.getLast? = some dot then name.dropLast else name)

/-- `nameList` for the number of dots and the search list of a configuration. -/
def nameList (ndots : ℕ) (search : List Name) (name : Name) : List Name :=
  let l := name.length
  let rooted := name.getLast? = some dot
  if 254 < l ∨ l = 254 ∧ ¬rooted then []
  else if rooted then
    if avoidDNS name then [] else [name]
  else
    let hasNdots := ndots ≤ name.count dot
    let name := name++[dot]
    (if hasNdots ∧ avoidDNS name = false then [name] else [])++
      ((search.map fun suffix => name++suffix).filter fun fqdn => !avoidDNS fqdn && fqdn.length ≤ 254)++
      (if ¬hasNdots ∧ avoidDNS name = false then [name] else [])

/-- `dns.IsFqdn`: a final dot that is not escaped. -/
def isFqdn (name : Name) : Bool :=
  name.getLast? = some dot && (name.dropLast.reverse.takeWhile (· = 92)).length % 2 = 0

def fqdnToDomain (fqdn : Name) : Name := if isFqdn fqdn then fqdn.dropLast else fqdn

structure Question where
  name : Name
  qtype : ℕ
  qclass : ℕ

structure Query where
  candidate : ℕ
  attempt : ℕ
  server : Socksaddr
  question : Question
  authenticatedData : Bool

/-- An error of a socket, and whether it is `EMSGSIZE`. -/
structure SocketError where
  err : GoError
  messageSize : Bool

structure Wire (μ : Type) where
  dialUDP : Option GoError
  pack : Option GoError
  write : Option SocketError
  read : Except SocketError (Except GoError μ)
  dialTCP : Option GoError
  writeMessage : Option GoError
  readMessage : Except GoError μ

section
variable {μ : Type} (truncated : μ → Bool)

def exchangeTCP (wire : Wire μ) : Except GoError μ :=
  match wire.dialTCP with
  | some err => .error err
  | none =>
      match wire.writeMessage with
      | some err => .error err
      | none => wire.readMessage

def exchangeUDP (wire : Wire μ) : Except GoError μ :=
  match wire.dialUDP with
  | some err => .error err
  | none =>
      match wire.pack with
      | some err => .error (err.cause "pack request")
      | none =>
          match wire.write with
          | some failure => if failure.messageSize then exchangeTCP wire else .error (failure.err.cause "write request")
          | none =>
              match wire.read with
              | .error failure =>
                  if failure.messageSize then exchangeTCP wire else .error (failure.err.cause "read response")
              | .ok (.error err) => .error (err.cause "unpack response")
              | .ok (.ok response) => if truncated response then exchangeTCP wire else .ok response

/-- The loop of `tryOneName` over attempts and servers, with the last error. -/
def tryQueries (exchangeOne : Query → Except GoError μ) : List Query → Option GoError → Except (Option GoError) μ
  | [], lastErr => .error lastErr
  | query :: queries, _ =>
      match exchangeOne query with
      | .error err => tryQueries exchangeOne queries (some err)
      | .ok response => .ok response

/-- `tryOneName`; `none` is the panic of `E.Cause` without an error. -/
def tryOneName (exchangeOne : Query → Except GoError μ) (queries : List Query) (fqdn : Name) :
    Option (Except GoError μ) :=
  match tryQueries exchangeOne queries none with
  | .ok response => some (.ok response)
  | .error (some lastErr) => some (.error (lastErr.cause (Name.text fqdn)))
  | .error none => none

inductive Outcome (μ : Type)
  | waiting
  | panicked
  | returned (response : Option μ) (err : Option GoError)

/-- The loop of `exchangeSingleRequest` over the candidates and their places. -/
def exchangeSingleRequest (tryOneName : ℕ → Name → Option (Except GoError μ)) :
    List (Name × ℕ) → Option GoError → Outcome μ
  | [], lastErr => .returned none lastErr
  | (fqdn,candidate) :: rest, _ =>
      match tryOneName candidate fqdn with
      | none => .panicked
      | some (.error err) => exchangeSingleRequest tryOneName rest (some err)
      | some (.ok response) => .returned (some response) none

/-- What comes to the loop of `exchangeParallel`: the end of the context, or the result of a racer. -/
inductive Arrival
  | done (err : GoError)
  | result (candidate : ℕ)

/-- `E.Errors` of several errors. -/
def joinErrors (errors : List GoError) : GoError :=
  match errors with
  | [err] => err
  | _ => ⟨" | ".intercalate (errors.map GoError.text),errors.any GoError.needMoreData,
      errors.any GoError.deadlineExceeded⟩

/-- The loop of `exchangeParallel` over what comes, with the errors so far. -/
def awaitResults (racer : ℕ → Option (Except GoError μ)) (nameCount : ℕ) : List Arrival → List GoError → Outcome μ
  | [], _ => .waiting
  | .done err :: _, _ => .returned none (some err)
  | .result candidate :: rest, errors =>
      match racer candidate with
      | none => .panicked
      | some (.ok response) => .returned (some response) none
      | some (.error err) =>
          if (errors++[err]).length = nameCount then .returned none (some (joinErrors (errors++[err])))
          else awaitResults racer nameCount rest (errors++[err])

/-- `exchangeParallel`, as far as it comes with these arrivals. -/
def exchangeParallel (tryOneName : ℕ → Name → Option (Except GoError μ)) (names : List Name) (arrivals : List Arrival) :
    Outcome μ :=
  awaitResults (fun candidate => names[candidate]?.bind (tryOneName candidate)) names.length arrivals []

end

section
variable {μ : Type} (truncated : μ → Bool) (net : Query → Wire μ)

def isAddressType (qtype : ℕ) : Bool := qtype = typeA || qtype = typeAAAA

/-- `dnsConfig`, as `dnsReadConfig` makes it: there is a server and an attempt. -/
structure DNSConfig where
  servers : List Socksaddr
  search : List Name
  ndots : ℕ
  attempts : ℕ
  rotate : Bool
  singleRequest : Bool
  useTCP : Bool
  trustAD : Bool
  servers_ne : servers ≠ []
  attempts_pos : 0 < attempts

namespace DNSConfig
variable (config : DNSConfig)

def nameList (name : Name) : List Name := Resolver.nameList config.ndots config.search name

def exchangeOne (query : Query) : Except GoError μ :=
  let query := if query.server.port = 0 then { query with server := { query.server with port := 53 } } else query
  if !config.useTCP then exchangeUDP truncated (net query) else exchangeTCP (net query)

def serversFrom (serverOffset : ℕ) : List Socksaddr :=
  let sLen := config.servers.length
  (List.range sLen).filterMap fun j => config.servers[(serverOffset+j)%2^32%sLen]?

/-- `tryOneName` of the local transport; `soffset` is the counter of names so far. -/
def tryOneName (soffset : ℕ) (question : Question) (candidate : ℕ) (fqdn : Name) : Option (Except GoError μ) :=
  let serverOffset := if config.rotate then soffset else 0
  let queries := (List.range config.attempts).flatMap fun attempt =>
    (config.serversFrom serverOffset).map fun server =>
      (⟨candidate,attempt,server,{ question with name := fqdn },config.trustAD⟩ : Query)
  Resolver.tryOneName (config.exchangeOne truncated net) queries fqdn

/-- `exchange` of the local transport; each candidate finds the counter where it is then. -/
def exchange (soffset : ℕ → ℕ) (question : Question) (domain : Name) (arrivals : List Arrival) : Outcome μ :=
  let tryOneName := fun candidate => config.tryOneName truncated net (soffset candidate) question candidate
  if config.singleRequest || !isAddressType question.qtype then
    exchangeSingleRequest tryOneName (config.nameList domain).zipIdx none
  else exchangeParallel tryOneName (config.nameList domain) arrivals

end DNSConfig

/-- `Exchange` of the local transport; `hosts` is the hosts file and `fixedResponse` its answer. -/
def localExchange (config : DNSConfig) (hosts : Name → List Addr) (fixedResponse : List Addr → μ) (soffset : ℕ → ℕ)
    (question : Question) (arrivals : List Arrival) : Outcome μ :=
  let addresses := if isAddressType question.qtype then hosts (fqdnToDomain question.name) else []
  if 0 < addresses.length then .returned (some (fixedResponse addresses)) none
  else config.exchange truncated net soffset question question.name arrivals

/-- `nameList` of the DHCP transport, with one dot. -/
def dhcpNameList (t : DHCP.Transport) (name : Name) : List Name := nameList 1 t.search name

def dhcpExchangeOne (query : Query) : Except GoError μ :=
  let query := if query.server.port = 0 then { query with server := { query.server with port := 53 } } else query
  exchangeUDP truncated (net query)

/-- `tryOneName` of the DHCP transport, with two attempts. -/
def dhcpTryOneName (servers : List Socksaddr) (question : Question) (candidate : ℕ) (fqdn : Name) :
    Option (Except GoError μ) :=
  let queries := (List.range 2).flatMap fun attempt => servers.map fun server =>
    (⟨candidate,attempt,server,{ question with name := fqdn },true⟩ : Query)
  tryOneName (dhcpExchangeOne truncated net) queries fqdn

/-- `Exchange0`. -/
def dhcpExchange0 (t : DHCP.Transport) (servers : List Socksaddr) (question : Question) (arrivals : List Arrival) :
    Outcome μ :=
  let domain := fqdnToDomain question.name
  let tryOneName := dhcpTryOneName truncated net servers question
  if servers.length = 1 || !isAddressType question.qtype then
    exchangeSingleRequest tryOneName (dhcpNameList t domain).zipIdx none
  else exchangeParallel tryOneName (dhcpNameList t domain) arrivals

/-- `Exchange` of the DHCP transport, where a fetch meets `attempt`. -/
def dhcpExchange (t : DHCP.Transport) (attempt : DHCP.Attempt) (question : Question) (arrivals : List Arrival) :
    Outcome μ :=
  let fetched := t.fetch attempt
  match fetched.err with
  | some err => .returned none (some err)
  | none =>
      if fetched.servers.length = 0 then .returned none (some ⟨"dhcp: empty DNS servers from response",false,false⟩)
      else dhcpExchange0 truncated net fetched.transport fetched.servers question arrivals

end

section
variable {μ : Type}

/-- A response or an error, and not both. -/
def Outcome.Proper : Outcome μ → Prop
  | .returned (some _) none => True
  | .returned none (some _) => True
  | _ => False

/-- Whatever comes from `n` candidates, an exchange that returns has a response or an error; and it does
return when all candidates have sent their results, though the context has not ended. -/
structure Answers (n : ℕ) (exchange : List Arrival → Outcome μ) : Prop where
  proper : ∀ arrivals, (∀ candidate, .result candidate ∈ arrivals → candidate < n) →
    exchange arrivals = .waiting ∨ (exchange arrivals).Proper
  returns : ∀ arrivals, arrivals.Perm ((List.range n).map .result) → exchange arrivals ≠ .waiting

lemma answers_of_proper {n : ℕ} {e : List Arrival → Outcome μ} (h : ∀ av, (e av).Proper) : Answers n e where
  proper av _ := .inr (h av)
  returns av _ heq := by
    have hp := h av
    rw [heq] at hp
    exact hp

variable (eo : Query → Except GoError μ) {le : Option GoError} {qs : List Query} {ar : List Arrival}

lemma tryQueries_ne (h : qs ≠ [] ∨ le ≠ none) : tryQueries eo qs le ≠ .error none := by
  induction qs generalizing le with
  | nil =>
    intro heq
    cases heq
    exact h.elim (· rfl) (· rfl)
  | cons q qs ih =>
    unfold tryQueries
    cases eo q with
    | error => exact ih (.inr (by simp))
    | ok => simp

lemma isSome_tryOneName (h : qs ≠ []) (fqdn : Name) : (tryOneName eo qs fqdn).isSome = true := by
  have hne : tryQueries eo qs none ≠ .error none := tryQueries_ne eo (.inl h)
  unfold tryOneName
  split
  · rfl
  · rfl
  · rename_i heq
    exact absurd heq hne

variable {tn : ℕ → Name → Option (Except GoError μ)}

lemma proper_exchangeSingleRequest (hsm : ∀ candidate fqdn, (tn candidate fqdn).isSome = true)
    {ns : List (Name × ℕ)} (h : ns ≠ [] ∨ le ≠ none) : (exchangeSingleRequest tn ns le).Proper := by
  induction ns generalizing le with
  | nil =>
    cases le with
    | none => exact h.elim (· rfl) (· rfl)
    | some => trivial
  | cons n ns ih =>
    obtain ⟨fqdn,candidate⟩ := n
    unfold exchangeSingleRequest
    obtain ⟨r,hr⟩ := Option.isSome_iff_exists.mp (hsm candidate fqdn)
    rw [hr]
    cases r with
    | error => exact ih (.inr (by simp))
    | ok => trivial

lemma proper_awaitResults {r : ℕ → Option (Except GoError μ)} {n : ℕ}
    (hsm : ∀ candidate < n, (r candidate).isSome = true)
    (ha : ∀ candidate, .result candidate ∈ ar → candidate < n) (es : List GoError) :
    awaitResults r n ar es = .waiting ∨ (awaitResults r n ar es).Proper := by
  induction ar generalizing es with
  | nil => exact .inl rfl
  | cons a ar ih =>
    cases a with
    | done => exact .inr trivial
    | result candidate =>
      unfold awaitResults
      obtain ⟨rs,hr⟩ := Option.isSome_iff_exists.mp (hsm candidate (ha candidate mem_cons_self))
      rw [hr]
      cases rs with
      | ok => exact .inr trivial
      | error =>
        dsimp only
        split_ifs
        · exact .inr trivial
        · exact ih (fun o hm => ha o (mem_cons_of_mem _ hm)) _

lemma awaitResults_ne_waiting (rc : ℕ → Option (Except GoError μ)) {n : ℕ}
    {es : List GoError} (hlt : es.length < n) (hle : n ≤ es.length+ar.length) :
    awaitResults rc n ar es ≠ .waiting := by
  induction ar generalizing es with
  | nil =>
    rw [length_nil] at hle
    omega
  | cons a ar ih =>
    rw [length_cons] at hle
    cases a with
    | done => simp [awaitResults]
    | result candidate =>
      unfold awaitResults
      cases rc candidate with
      | none => simp
      | some r =>
        cases r with
        | ok => simp
        | error e =>
          dsimp only
          have hl : (es++[e]).length = es.length+1 := by simp
          split_ifs with hc
          · simp
          · exact ih (by omega) (by omega)

variable (hs : ∀ candidate fqdn, (tn candidate fqdn).isSome = true)
include hs

lemma answers_exchangeParallel {ns : List Name} (h : ns ≠ []) : Answers ns.length (exchangeParallel tn ns) where
  proper ar ha := by
    refine proper_awaitResults (fun candidate hlt => ?_) ha []
    rw [getElem?_eq_getElem hlt]
    exact hs candidate _
  returns ar hp := by
    refine awaitResults_ne_waiting _ (length_pos_iff.mpr h) ?_
    rw [hp.length_eq]
    simp

lemma answers_iff (s : Bool) (ns : List Name) :
    Answers ns.length (fun ar => if s then exchangeSingleRequest tn ns.zipIdx none
      else exchangeParallel tn ns ar) ↔ ns ≠ [] := by
  constructor
  · rintro ha rfl
    cases s with
    | true =>
      obtain hw | hp := ha.proper [] (by simp)
      · cases hw
      · exact hp
    | false => exact ha.returns [] (by simp) rfl
  · intro hne
    cases s with
    | true =>
      refine answers_of_proper fun _ => proper_exchangeSingleRequest hs (.inl ?_)
      simpa using hne
    | false => exact answers_exchangeParallel hs hne

end

section
variable {μ : Type} (truncated : μ → Bool) (net : Query → Wire μ)

lemma queries_ne {am : ℕ} {ss : List Socksaddr} (ha : 0 < am) (hs : ss ≠ []) (q : ℕ → Socksaddr → Query) :
    ((range am).flatMap fun att => ss.map (q att)) ≠ [] := by
  obtain ⟨s,hsr⟩ := exists_mem_of_ne_nil ss hs
  refine ne_nil_of_mem (a := q 0 s) (mem_flatMap.mpr ⟨0,mem_range.mpr ha,?_⟩)
  exact mem_map_of_mem hsr

lemma DNSConfig.serversFrom_ne (config : DNSConfig) (so : ℕ) : config.serversFrom so ≠ [] := by
  have hp := length_pos_iff.mpr config.servers_ne
  have hlt : (so+0)%2^32%config.servers.length < config.servers.length := Nat.mod_lt _ hp
  refine ne_nil_of_mem (mem_filterMap.mpr ⟨0,mem_range.mpr hp,getElem?_eq_getElem hlt⟩)

/-- For every question, search list, network and order of arrivals: the exchange of the local transport
answers exactly where the hosts file does or there is a candidate for the name, and that of the DHCP
transport exactly where there is no server to ask or there is a candidate. -/
theorem exchange_answers_iff :
    (∀ (config : DNSConfig) (hosts : Name → List Addr) (fixedResponse : List Addr → μ) (soffset : ℕ → ℕ)
      (question : Question), Answers (config.nameList question.name).length
          (localExchange truncated net config hosts fixedResponse soffset question) ↔
        (isAddressType question.qtype = true ∧ hosts (fqdnToDomain question.name) ≠ []) ∨
          config.nameList question.name ≠ []) ∧ ∀ (t : DHCP.Transport) (attempt : DHCP.Attempt) (question : Question),
      Answers (dhcpNameList (t.fetch attempt).transport (fqdnToDomain question.name)).length
          (dhcpExchange truncated net t attempt question) ↔
        (t.fetch attempt).err ≠ none ∨ (t.fetch attempt).servers = [] ∨
          dhcpNameList (t.fetch attempt).transport (fqdnToDomain question.name) ≠ [] := by
  constructor
  · intro config hosts fixedResponse soffset question
    have hsm : ∀ candidate fqdn,
        (config.tryOneName truncated net (soffset candidate) question candidate fqdn).isSome = true :=
      fun candidate fqdn => isSome_tryOneName _ (queries_ne config.attempts_pos (config.serversFrom_ne _) _) fqdn
    by_cases hh : isAddressType question.qtype = true ∧ hosts (fqdnToDomain question.name) ≠ []
    · have he : ∀ av, (localExchange truncated net config hosts fixedResponse soffset question av).Proper := by
        intro av
        unfold localExchange
        rw [if_pos hh.1]
        rw [if_pos (length_pos_iff.mpr hh.2)]
        trivial
      exact ⟨fun _ => .inl hh,fun _ => answers_of_proper he⟩
    · have he : localExchange truncated net config hosts fixedResponse soffset question =
          config.exchange truncated net soffset question question.name := by
        funext av
        refine if_neg fun hp => hh ?_
        split_ifs at hp with ht
        · exact ⟨ht,length_pos_iff.mp hp⟩
        · cases hp
      rw [he,or_iff_right hh]
      exact answers_iff hsm _ _
  · intro t attempt question
    unfold dhcpExchange
    obtain ⟨t',servers,err,r⟩ := t.fetch attempt
    cases err with
    | some => exact ⟨fun _ => .inl (by simp),fun _ => answers_of_proper fun _ => trivial⟩
    | none =>
      cases servers with
      | nil => exact ⟨fun _ => .inr (.inl rfl),fun _ => answers_of_proper fun _ => trivial⟩
      | cons s servers =>
        have hs : s::servers ≠ [] := cons_ne_nil _ _
        have hsm : ∀ candidate fqdn,
            (dhcpTryOneName truncated net (s::servers) question candidate fqdn).isSome = true :=
          fun candidate fqdn => isSome_tryOneName _ (queries_ne Nat.two_pos hs _) fqdn
        rw [or_iff_right (not_not_intro rfl),or_iff_right hs]
        exact answers_iff hsm _ _

end

def plainConfig : DNSConfig where
  servers := [⟨.v4 0x7f000001#32,53,""⟩]
  search := []
  ndots := 1
  attempts := 2
  rotate := false
  singleRequest := false
  useTCP := false
  trustAD := false
  servers_ne := by simp
  attempts_pos := Nat.two_pos

/-- The bytes of `a.onion.`. -/
def onionName : Name := 97 :: (onion++[dot])

def deadNet : Query → Wire Unit :=
  fun _ => ⟨some ⟨"unreachable",false,false⟩,none,none,.ok (.ok ()),some ⟨"unreachable",false,false⟩,none,.ok ()⟩

/-- For an onion name, both transports return neither a response nor an error for a text record, and wait
for the context for an address, though there is nobody to ask. -/
theorem onion_names_unanswered :
    localExchange (fun _ => false) deadNet plainConfig (fun _ => []) (fun _ => ()) (fun _ => 0) ⟨onionName,16,1⟩ [] =
      .returned none none ∧
    localExchange (fun _ => false) deadNet plainConfig (fun _ => []) (fun _ => ()) (fun _ => 0) ⟨onionName,typeA,1⟩ [] =
      .waiting ∧
    dhcpExchange (fun _ => false) deadNet ⟨1,some 0,none,[⟨.v4 0x0a000001#32,53,""⟩,⟨.v4 0x0a000002#32,53,""⟩],[]⟩
      (.noInterface ⟨"",false,false⟩) ⟨onionName,16,1⟩ [] = .returned none none ∧
    dhcpExchange (fun _ => false) deadNet ⟨1,some 0,none,[⟨.v4 0x0a000001#32,53,""⟩,⟨.v4 0x0a000002#32,53,""⟩],[]⟩
      (.noInterface ⟨"",false,false⟩) ⟨onionName,typeA,1⟩ [] = .waiting ∧ plainConfig.nameList onionName = [] ∧
    dhcpNameList ⟨1,some 0,none,[],[]⟩ (fqdnToDomain onionName) = [] :=
  ⟨rfl,rfl,rfl,rfl,rfl,rfl⟩

end SingBox.Resolver
