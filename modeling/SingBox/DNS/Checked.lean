import SingBox.DNS.LedgerRun
import SingBox.Library.Outcome

/-! Response checkers over histories: every response that is returned or kept was shown to the checker
of the call that fetched it. -/
namespace SingBox.DNS
open Adapter List

/-- The responses that a fetch is returned as: to its own call, and out of the cache. -/
inductive Serves (ops : MsgOps) (f : Fetch) : Msg → Prop
  | direct : Serves ops f (adjustEDNS ops f.message { f.applied with id := f.message.id })
  | cached (timeToLive : Option ℕ) (id : ℕ) : Serves ops f { atTTL f.applied timeToLive with id := id }

section
variable {μ ν ρ : Type} (c : Client μ ν ρ)

/-- Every entry of the caches comes from an accepted fetch under its key. -/
def Held (history : List ClientEvent) (s : ClientState μ ν ρ) : Prop :=
  c.memory.All (fun key entry => ∃ f ∈ fetches history, f.Accepted ∧ f.key = key ∧ entry.1 = f.applied)
    s.cache ∧
  c.store.All (fun key entry => ∃ f ∈ fetches history, f.Accepted ∧ f.key.storeKey = key ∧
    c.ops.pack f.applied = some entry.1) s.dnsCache

variable {c} {history : List ClientEvent} {s : ClientState μ ν ρ}

lemma Held.forgets (h : Held c history s) {a : ClientState μ ν ρ} (hf : Forgets c s a) : Held c history a :=
  ⟨fun k e hk => h.1 k e (hf.cache k e hk), fun k e hk => h.2 k e (hf.dnsCache k e hk)⟩

/-- A loaded response comes from an accepted fetch for the same name and type. -/
def LoadedFrom (history : List ClientEvent) (key : CacheKey) (loaded : Loaded) : Prop :=
  ∃ f ∈ fetches history, f.Accepted ∧ f.key.storeKey = key.storeKey ∧
    ∃ timeToLive, loaded.response = atTTL f.applied timeToLive

lemma Held.found (h : Held c history s) {k : CacheKey} {r : Msg} {ea : ℕ} (hfn : Found c s k r ea) :
    ∃ f ∈ fetches history, f.Accepted ∧ f.key.storeKey = k.storeKey ∧ r = f.applied := by
  cases hfn with
  | file _ hl hu =>
    obtain ⟨f,hf,ha,hk,hp⟩ := h.2 _ _ hl
    exact ⟨f,hf,ha,hk,Option.some.inj (hu.symm.trans (c.ops.unpack_pack _ _ hp))⟩
  | memory _ hl =>
    obtain ⟨f,hf,ha,hk,hr⟩ := h.1 _ _ hl
    exact ⟨f,hf,ha,congrArg CacheKey.storeKey hk,hr⟩

lemma Held.loadResponse (h : Held c history s) {k : CacheKey} {l : Loaded}
    (hl : (loadResponse c s k).2 = some l) : LoadedFrom history k l := by
  obtain ⟨r,ea,hfn,hc⟩ := loadResponse_found hl
  obtain ⟨f,hf,ha,hk,rfl⟩ := h.found hfn
  refine ⟨f,hf,ha,hk,?_⟩
  rcases hc with ⟨_,rfl⟩ | ⟨_,hag⟩
  · exact ⟨none,rfl⟩
  · exact ageResponse_response hag

end

section
variable {μ ν ρ : Type} {c : Client μ ν ρ} {history : List ClientEvent} {s : ClientState μ ν ρ}

/-- A response that was fetched earlier in the history and accepted then. -/
def Remembered (ops : MsgOps) (history : List ClientEvent) (q : Query) (response : Msg) : Prop :=
  ∃ f ∈ fetches history, f.Accepted ∧ f.For q ∧ Serves ops f response

variable {q : Query} {qs : Question}

lemma LoadedFrom.remembered {l : Loaded} (h : LoadedFrom history ⟨qs,q.transport⟩ l)
    (hq : q.message.question.head? = some qs) (o : MsgOps) (id : ℕ) :
    Remembered o history q { l.response with id := id } := by
  obtain ⟨f,hf,ha,hk,tt,hr⟩ := h
  refine ⟨f,hf,ha,Fetch.for_of_storeKey hq hk,?_⟩
  rw [hr]
  exact .cached tt id

/-- A begun exchange keeps the caches, and answers from them or by a fixed answer. -/
def BeginsWell (c : Client μ ν ρ) (history : List ClientEvent) (q : Query)
    (begun : ClientState μ ν ρ × Begun) : Prop :=
  Held c history begun.1 ∧
  (∀ response, begun.2 = .done (.ok response) → FixedAnswer q response ∨ Remembered c.ops history q response) ∧
  (∀ flight, begun.2 = .upstream flight → flight.query = q)

lemma Held.beginExchange (h : Held c history s) (q : Query) : BeginsWell c history q (beginExchange c s q) := by
  refine ⟨h.forgets (beginExchange_forgets s q),fun r hd => ?_,fun f hs => ?_⟩
  · refine (beginExchange_ok hd).imp_right ?_
    rintro ⟨l,hht,rfl⟩
    obtain ⟨qs,hh,_,_,hl,_⟩ := exchangeHit_eq_some hht
    exact (h.loadResponse hl).remembered hh c.ops _
  · obtain ⟨qs,hh,rfl⟩ := beginExchange_upstream hs
    rfl

lemma lookupAddresses_ok {r : Msg} {ad : List Addr} (h : lookupAddresses c r = .ok ad) :
    ad = dnsResponseAddresses c.p (some r) := by
  unfold lookupAddresses at h
  split_ifs at h
  cases h
  rfl

lemma Held.beginLookup (h : Held c history s) (hq : q.message.question.head? = some qs) :
    Held c history (beginLookup c s q qs).1 ∧ ∀ ad, (beginLookup c s q qs).2 = .done (.ok ad) →
      ∃ r, ad = dnsResponseAddresses c.p (some r) ∧ (FixedAnswer q r ∨ Remembered c.ops history q r) := by
  refine ⟨h.forgets (beginLookup_forgets s q qs),fun ad hd => ?_⟩
  have hc := beginLookup_cases (c := c) s q qs
  generalize DNS.beginLookup c s q qs = b at hc hd
  cases hc with
  | hit l hh =>
    have hr := (h.loadResponse (questionHit_eq_some hh).2.1).remembered hq c.ops l.response.id
    exact ⟨l.response,lookupAddresses_ok (BegunLookup.done.inj hd),Or.inr hr⟩
  | exchanged s' b hm hb =>
    cases b with
    | upstream => cases hd
    | done =>
      obtain ⟨r,hok,ha⟩ := Outcome.bind_eq_ok.mp (BegunLookup.done.inj hd)
      have hf := (afterQuestionCache_forgets (c := c) s q qs).1
      have han := ((h.forgets hf).beginExchange q).2.1 r
      rw [hb,hok] at han
      exact ⟨r,lookupAddresses_ok ha,han rfl⟩

end
variable {μ ν ρ : Type} (c : Client μ ν ρ)

/-- An answer to a query, with the event that returns it and the history before: fixed, fetched by the
call itself and accepted by its checker, or fetched before and accepted by the checker there. -/
def Answered (before : List ClientEvent) (event : ClientEvent) (q : Query) (response : Msg) : Prop :=
  FixedAnswer q response ∨ Remembered c.ops before q response ∨
    ∃ f, event.fetched = some f ∧ f.responseChecker = q.responseChecker ∧ f.Accepted ∧ f.For q ∧
      Serves c.ops f response

def ReturnsAnswered (before : List ClientEvent) (event : ClientEvent) : Prop :=
  (∀ q response, event.returned = some (.exchange q (.ok response)) → Answered c before event q response) ∧
  (∀ q addresses, event.returned = some (.lookup q (.ok addresses)) →
    ∃ response, addresses = dnsResponseAddresses c.p (some response) ∧ Answered c before event q response)

variable {c} {history : List ClientEvent}

variable {event : ClientEvent} {q : Query} {s : ClientSystem μ ν ρ} {address : Addr}
  {result : Option (Except ClientError (List Addr))}

/-- Whatever the caches hold was stored, and only accepted responses are. -/
lemma LedgerHistory.held {a : Ledgered μ ν ρ → Input → Prop} {x : Ledgered μ ν ρ}
    (h : LedgerHistory c a history x) : Held c history x.system.client := by
  have ha := h.accepted
  obtain ⟨hc,hs,_,hf,_⟩ := h.kept
  constructor
  · refine hc.mono ?_
    rintro k e ⟨f,t,hm,hk,hr,_⟩
    exact ⟨f,hf _ hm,ha f t hm,hk,hr⟩
  · refine hs.mono ?_
    rintro k e ⟨f,t,hm,hk,hp,_⟩
    exact ⟨f,hf _ hm,ha f t hm,hk,hp⟩

/-- The second half of `Exchange`: what it returns was shown to the checker of the call. -/
lemma finishExchange_answered {a : Answer} {f : Flight} {cl : ClientState μ ν ρ}
    {r : Msg} (h : (finishExchange c cl f a).2 = .ok r)
    (hf : event.fetched = (upstreamOf f.message a).map f.fetch) (b : List ClientEvent) :
    Answered c b event f.query r := by
  obtain ⟨u,hu,ha,rfl⟩ := finishExchange_ok h
  rw [upstreamOf,hu] at hf
  exact Or.inr (Or.inr ⟨f.fetch u,hf,rfl,ha,⟨rfl,f.question,f.question_eq,rfl,rfl⟩, .direct⟩)

lemma ClientHistory.returnsAnswered (h : ClientHistory c history s)
    {b af : List ClientEvent} (hs : history = b++event::af) : ReturnsAnswered c b event := by
  obtain ⟨l,hl⟩ := h.ledgered
  constructor
  · intro q r hrt
    obtain ⟨y,ip,hb,_,rfl⟩ := hl.exists_input hs hrt
    cases systemStep_returned.1 q _ hrt with
    | begun hbg => exact ((hb.held.beginExchange q).2.1 r hbg).imp_right Or.inl
    | finished i a f hfl hq hf =>
      subst hq
      exact finishExchange_answered hf (by simp only [systemStep,hfl]) b
  · intro q ad hrt
    obtain ⟨y,ip,hb,_,rfl⟩ := hl.exists_input hs hrt
    cases systemStep_returned.2 q _ hrt with
    | begun t n qt os rc ct hq hbg =>
      have hh : q.message.question.head? = some ⟨n,qt,classINET⟩ := by
        rw [← hq]
        rfl
      obtain ⟨r,ha,han⟩ := (hb.held.beginLookup hh).2 ad hbg
      exact ⟨r,ha,han.imp_right Or.inl⟩
    | finished i a f hfl hq hf =>
      subst hq
      obtain ⟨r,hr,ha⟩ := Outcome.bind_eq_ok.mp hf
      exact ⟨r,lookupAddresses_ok ha, finishExchange_answered hr (by simp only [systemStep,hfl]) b⟩

/-- A query of `Lookup` that returned in the history, if it did. -/
def LegReturned (history : List ClientEvent) (q : Query)
    (result : Option (Except ClientError (List Addr))) : Prop :=
  ∀ r, result = some r → ∃ event ∈ history, event.returned = some (.lookup q r)

lemma mem_familyAddresses (h : address ∈ familyAddresses result) : ∃ ad, result = some (.ok ad) ∧ address ∈ ad := by
  cases result with
  | none => cases h
  | some r =>
    cases r with
    | error => cases h
    | ok ad => exact ⟨ad,rfl,h⟩

/-- `Lookup` only returns addresses that its queries returned. -/
lemma mem_lookupResult {st : DomainStrategy} {rs rl : Option (Except ClientError (List Addr))}
    {ge : Option ClientError} {ad : List Addr} (h : lookupResult st rs rl ge = .ok ad) (hm : address ∈ ad) :
    address ∈ familyAddresses rs ∨ address ∈ familyAddresses rl := by
  have hs : ∀ result : Option (Except ClientError (List Addr)), result.getD (.ok []) = .ok ad →
      address ∈ familyAddresses result := by
    intro result hr
    cases result with
    | none =>
      cases hr
      cases hm
    | some =>
      rw [Option.getD_some] at hr
      rw [hr]
      exact hm
  have hsr : address ∈ sortAddresses (familyAddresses rs) (familyAddresses rl) st →
      address ∈ familyAddresses rs ∨ address ∈ familyAddresses rl := by
    intro hin
    unfold sortAddresses at hin
    split_ifs at hin
    · exact (mem_append.mp hin).symm
    · exact mem_append.mp hin
  unfold lookupResult at h
  split at h
  · exact Or.inl (hs rs h)
  · exact Or.inr (hs rl h)
  · dsimp only at h
    split at h
    · split at h
      · cases h
      · cases h
        cases hm
    · cases h
      exact hsr hm

lemma ClientHistory.legAnswered (h : ClientHistory c history s) (hl : LegReturned history q result)
    (hm : address ∈ familyAddresses result) : ∃ b event a r, history = b++event::a ∧
      address ∈ dnsResponseAddresses c.p (some r) ∧ Answered c b event q r := by
  obtain ⟨ad,hrs,hin⟩ := mem_familyAddresses hm
  obtain ⟨event,he,hr⟩ := hl _ hrs
  obtain ⟨b,a,hs⟩ := append_of_mem he
  obtain ⟨r,heq,ha⟩ := (h.returnsAnswered hs).2 q ad hr
  exact ⟨b,event,a,r,hs,heq ▸ hin,ha⟩

/-- Over every history: what `Exchange` returns without error is a fixed answer or comes from a response
that its checker accepted or, out of the cache, that the checker of the call or refresh which fetched it
accepted; and every address that `Lookup` returns is one of such a response. -/
theorem exchange_and_lookup_answered (c : Client μ ν ρ) (history : List ClientEvent)
    (s : ClientSystem μ ν ρ) (h : ClientHistory c history s) :
    (∀ before event after q response, history = before++event::after →
      event.returned = some (.exchange q (.ok response)) → Answered c before event q response) ∧
    (∀ transport domain options responseChecker contextTransport result4 result6 groupError addresses,
      let leg (qType : ℕ) := lookupQuery transport (c.ops.fqdn (fqdnToDomain c.ops domain)) qType
        (lookupOptions options) responseChecker contextTransport
      LegReturned history (leg typeA) result4 → LegReturned history (leg typeAAAA) result6 →
      lookupResult (lookupStrategy options) result4 result6 groupError = .ok addresses →
      ∀ address ∈ addresses, ∃ before event after qType response, history = before++event::after ∧
        address ∈ dnsResponseAddresses c.p (some response) ∧ Answered c before event (leg qType) response) := by
  constructor
  · intro before event after q response hs hrt
    exact (h.returnsAnswered hs).1 q response hrt
  · intro transport domain options responseChecker contextTransport result4 result6 groupError addresses leg
      h4 h6 hresult address hm
    rcases mem_lookupResult hresult hm with hm | hm
    · obtain ⟨before,event,after,response,hr⟩ := h.legAnswered h4 hm
      exact ⟨before,event,after,typeA,response,hr⟩
    · obtain ⟨before,event,after,response,hr⟩ := h.legAnswered h6 hm
      exact ⟨before,event,after,typeAAAA,response,hr⟩

/-- A call that fetches a response its checker accepts. -/
theorem exchange_and_lookup_answered_fetched :
    let check : Msg → Bool := fun response => response.answer.length == 1
    let q := addressQuery {} (some check)
    let inputs : List Input := [.exchange q,.answerExchange 0 (.response (addressReply [10,0,0,1]))]
    ∃ before event response, (runInputs plainClient (initialSystem plainClient 0) inputs).2 = before++[event] ∧
      event.returned = some (.exchange q (.ok response)) ∧ Answered plainClient before event q response := by
  intro check q inputs
  refine ⟨[{}],_,_,rfl,rfl,?_⟩
  exact (exchange_and_lookup_answered plainClient _ _ (clientHistory_runInputs plainClient inputs)).1
    [{}] _ [] q _ rfl rfl

/-- Calls with a checker that refuses everything, and that return a response all the same: for a type
the strategy excludes, and out of the cache after a call without checker. -/
theorem exchange_returns_unchecked :
    let refuse : Msg → Bool := fun _ => false
    let excluded := addressQuery { strategy := .ipv6Only } (some refuse)
    let cached := addressQuery {} (some refuse)
    let unchecked (q : Query) (response : Msg) : Prop := ∃ history s event,
      ClientHistory plainClient history s ∧ event ∈ history ∧ event.returned = some (.exchange q (.ok response)) ∧
        q.responseChecker = some refuse ∧ refuse response = false
    unchecked excluded (fixedResponseStatus excluded.message rcodeSuccess) ∧
      unchecked cached (addressReply [10,0,0,1]) := by
  intro refuse excluded cached unchecked
  constructor
  · exact ⟨_,_,_,clientHistory_runInputs plainClient [.exchange excluded],mem_cons_self,rfl,rfl,rfl⟩
  · refine ⟨_,_,_,clientHistory_runInputs plainClient [.exchange (addressQuery {} none),
      .answerExchange 0 (.response (addressReply [10,0,0,1])),.exchange cached],
      mem_cons_of_mem _ (mem_cons_of_mem _ mem_cons_self),rfl,rfl,rfl⟩

end SingBox.DNS
