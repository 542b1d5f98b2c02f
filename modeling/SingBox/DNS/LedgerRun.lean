import SingBox.DNS.Ledger

/-! Steps and returns of ledger histories: which refreshes and calls wait, and what a returned call came
from. -/
namespace SingBox.DNS
open Adapter List

section
variable {μ ν ρ : Type} {c : Client μ ν ρ}

/-- The flight of the call it belongs to. -/
def Flight.Sent (c : Client μ ν ρ) (flight : Flight) : Prop :=
  ∃ question hhead, flight = flight.query.flight c question hhead

inductive RefreshedBy (c : Client μ ν ρ) (s : ClientState μ ν ρ) (refresh : Refresh) : Input → Prop
  | exchange (q : Query) (question : Question) (loaded : Loaded)
      (hhead : q.message.question.head? = some question) (hhit : exchangeHit c s q = some loaded)
      (h : refresh = q.refresh c question) : RefreshedBy c s refresh (.exchange q)
  | lookup (transport name : String) (qType : ℕ) (options : DNSQueryOptions)
      (responseChecker : Option (Msg → Bool)) (contextTransport : Option String) (loaded : Loaded)
      (hhit : questionHit c s (lookupQuery transport name qType options responseChecker contextTransport)
        ⟨name,qType,classINET⟩ = some loaded)
      (h : refresh = (lookupQuery transport name qType options responseChecker contextTransport).refresh c
        ⟨name,qType,classINET⟩) :
      RefreshedBy c s refresh (.lookup transport name qType options responseChecker contextTransport)

variable {s : ClientSystem μ ν ρ}

lemma mem_systemStep_refresh {ip : Input} {r : Refresh} (h : r ∈ (systemStep c s ip).1.client.backgroundRefresh) :
    r ∈ s.client.backgroundRefresh ∨ RefreshedBy c s.client r ip := by
  have he : ∀ q, r ∈ (beginExchange c s.client q).1.backgroundRefresh →
      r ∈ s.client.backgroundRefresh ∨ RefreshedBy c s.client r (.exchange q) := by
    intro q hmm
    refine (mem_beginExchange_refresh hmm).imp_right ?_
    rintro ⟨qs,l,hh,hht,heq⟩
    exact .exchange q qs l hh hht heq
  have hm := systemStep_cases c s ip
  generalize systemStep c s ip = m at hm h
  cases hm with
  | exchanged q cl result hb | exchangeSent q cl flight hb => exact he q (by rwa [hb])
  | lookedUp t n qt os rc ct q cl result hq hb
  | lookupSent t n qt os rc ct q cl flight hq hb =>
    subst hq
    refine (mem_beginLookup_refresh rfl (by rwa [hb])).imp_right ?_
    rintro ⟨l,hht,heq⟩
    exact .lookup _ _ _ _ _ _ l hht heq
  | exchangeAnswered i answer flight hf | lookupAnswered i answer flight hf =>
    rw [finishExchange_state,written_backgroundRefresh] at h
    exact Or.inl h
  | refreshAnswered =>
    rw [finishRefresh_state,written_backgroundRefresh] at h
    exact Or.inl (mem_of_mem_eraseIdx h)
  | noExchange i answer _ | noLookup i answer _ | noRefresh i answer _ | advanced duration | cleared => exact Or.inl h

/-- Calls wait for the transport as the flights they were sent as. -/
def Waiting (c : Client μ ν ρ) (s : ClientSystem μ ν ρ) : Prop :=
  (∀ flight ∈ s.exchanges, flight.Sent c) ∧ ∀ flight ∈ s.lookups, flight.Sent c

lemma Waiting.step (h : Waiting c s) (ip : Input) : Waiting c (systemStep c s ip).1 := by
  have hm := systemStep_cases c s ip
  generalize systemStep c s ip = m at hm ⊢
  cases hm with
  | exchangeSent q cl flight hb =>
    refine ⟨fun flight' hmm => ?_,h.2⟩
    rcases mem_append.mp hmm with hmm | hmm
    · exact h.1 flight' hmm
    · obtain ⟨qs,hh,heq⟩ := beginExchange_upstream (congrArg Prod.snd hb)
      rw [mem_singleton.mp hmm,heq]
      exact ⟨qs,hh,rfl⟩
  | lookupSent t n qt os rc ct q cl flight hq hb =>
    refine ⟨h.1,fun flight' hmm => ?_⟩
    rcases mem_append.mp hmm with hmm | hmm
    · exact h.2 flight' hmm
    · obtain ⟨qs,hh,heq⟩ := beginLookup_upstream (congrArg Prod.snd hb)
      rw [mem_singleton.mp hmm,heq]
      exact ⟨qs,hh,rfl⟩
  | exchangeAnswered i answer flight =>
    exact ⟨fun flight hmm => h.1 flight (mem_of_mem_eraseIdx hmm),h.2⟩
  | lookupAnswered i answer flight =>
    exact ⟨h.1,fun flight hmm => h.2 flight (mem_of_mem_eraseIdx hmm)⟩
  | _ => exact h

lemma LedgerHistory.waiting {al : Ledgered μ ν ρ → Input → Prop} {history : List ClientEvent}
    {x : Ledgered μ ν ρ} (h : LedgerHistory c al history x) : Waiting c x.system := by
  obtain ⟨n,hr⟩ := h
  refine hr.invariant (I := fun _ x => Waiting c x.system)
    ⟨fun _ hm => (by cases hm),fun _ hm => (by cases hm)⟩ fun _ x _ _ hI hs => ?_
  cases hs with
  | input i => exact hI.step i
  | maintenance => exact hI

end

section
variable {μ ν ρ : Type} {c : Client μ ν ρ} {flight : Flight} {s : ClientState μ ν ρ} {answer : Answer}

/-- Answers that need no transport: to a message without question, and to a question of a type that
the strategy excludes. -/
def FixedAnswer (q : Query) (response : Msg) : Prop :=
  (q.message.question = [] ∧ response = fixedResponseStatus q.message rcodeFormatError) ∨
  ∃ question, q.message.question.head? = some question ∧ strategyRejects question q.options = true ∧
    response = fixedResponseStatus q.message rcodeSuccess

variable {response : Msg} {q : Query}

/-- What `Exchange` returns before it asks the transport is a fixed answer or out of the cache. -/
lemma beginExchange_ok (h : (beginExchange c s q).2 = .done (.ok response)) :
    FixedAnswer q response ∨ ∃ l, exchangeHit c s q = some l ∧
      response = { l.response with id := (prepareExchangeMessage c q.message q.options).id } := by
  have hc := beginExchange_cases c s q
  generalize beginExchange c s q = b at hc h
  cases hc with
  | noQuestion hq =>
    cases h
    exact Or.inl (Or.inl ⟨hq,rfl⟩)
  | excluded qs hh hs =>
    cases h
    exact Or.inl (Or.inr ⟨qs,hh,hs,rfl⟩)
  | uncached qs hh hs hcc | missed qs hh s' l hs hcc hl hmiss => exact absurd h sendUpstream_ne_ok
  | hit qs hh s' l hs hcc hl ha =>
    cases h
    refine Or.inr ⟨l,?_,rfl⟩
    rw [exchangeHit_of_head hh,hs,hcc,hl]
    exact Option.filter_some_pos ha

lemma sendUpstream_rejectedCached (h : sendUpstream c s flight = .done (.error .responseRejectedCached)) :
    ∃ e, c.rejections.lookup s.rdrc (CacheKey.storeKey ⟨flight.question,flight.query.transport⟩) = some e := by
  simp only [sendUpstream] at h
  split_ifs at h with hl hr
  · cases h
  · simp only [Bool.and_eq_true,Option.isSome_iff_exists] at hr
    exact hr.2

lemma beginExchange_rejectedCached (h : (beginExchange c s q).2 = .done (.error .responseRejectedCached)) :
    ∃ qs e, q.message.question.head? = some qs ∧
      c.rejections.lookup s.rdrc (CacheKey.storeKey ⟨qs,q.transport⟩) = some e := by
  have hc := beginExchange_cases c s q
  generalize beginExchange c s q = b at hc h
  cases hc with
  | noQuestion hq | excluded qs hh hs => cases h
  | uncached qs hh =>
    obtain ⟨e,he⟩ := sendUpstream_rejectedCached h
    exact ⟨qs,e,hh,he⟩
  | missed qs hh s' l hs hcc hl =>
    obtain ⟨e,he⟩ := sendUpstream_rejectedCached h
    have hr := (loadResponse_forgets (c := c) s ⟨qs,q.transport⟩).1.rdrc
    rw [hl] at hr
    exact ⟨qs,e,hh,hr ▸ he⟩
  | hit => cases h

lemma lookupAddresses_ne_rejectedCached : lookupAddresses c response ≠ .error .responseRejectedCached := by
  unfold lookupAddresses
  intro h
  split_ifs at h
  cases h

lemma beginLookup_rejectedCached {qs : Question} (hh : q.message.question.head? = some qs)
    (h : (beginLookup c s q qs).2 = .done (.error .responseRejectedCached)) :
    ∃ e, c.rejections.lookup s.rdrc (CacheKey.storeKey ⟨qs,q.transport⟩) = some e := by
  have hc := beginLookup_cases (c := c) s q qs
  generalize beginLookup c s q qs = b at hc h
  cases hc with
  | hit => exact absurd (BegunLookup.done.inj h) lookupAddresses_ne_rejectedCached
  | exchanged s' b hm hb =>
    have hd : b = .done (.error .responseRejectedCached) := by
      cases b with
      | upstream => cases h
      | done r =>
        cases r with
        | ok => exact absurd (BegunLookup.done.inj h) lookupAddresses_ne_rejectedCached
        | error =>
          cases h
          rfl
    rw [hd] at hb
    obtain ⟨qs',e,hh',he⟩ := beginExchange_rejectedCached (congrArg Prod.snd hb)
    rw [hh] at hh'
    cases hh'
    rw [(afterQuestionCache_forgets s q qs).1.rdrc] at he
    exact ⟨e,he⟩

/-- The second half of `Exchange`, as far as its result goes. -/
lemma finishExchange_ok (h : (finishExchange c s flight answer).2 = .ok response) :
    ∃ u, exchangeToTransport flight.message answer = .ok u ∧ (flight.fetch u).Accepted ∧
      response = adjustEDNS c.ops flight.message { (flight.fetch u).applied with id := flight.message.id } := by
  simp only [finishExchange] at h
  cases ha : exchangeToTransport flight.message answer with
  | error => simp [ha] at h
  | ok u =>
    simp only [ha] at h
    split_ifs at h with hr
    all_goals
      cases h
      exact ⟨u,rfl,Bool.eq_false_iff.mpr hr,rfl⟩

lemma finishExchange_ne_rejectedCached : (finishExchange c s flight answer).2 ≠ .error .responseRejectedCached := by
  simp only [finishExchange]
  intro h
  cases answer with
  | failed => cases h
  | response upstream | rcodeError rcode =>
    simp only [exchangeToTransport] at h
    split_ifs at h <;> cases h

lemma finishLookup_ne_rejectedCached :
    (finishExchange c s flight answer).2.bind (lookupAddresses c) ≠ .error .responseRejectedCached := by
  intro h
  cases hf : (finishExchange c s flight answer).2 with
  | error =>
    rw [hf] at h
    cases h
    exact finishExchange_ne_rejectedCached hf
  | ok =>
    rw [hf] at h
    exact lookupAddresses_ne_rejectedCached h

/-- The inputs that return a call of `Exchange`. -/
inductive ReturnsExchange (c : Client μ ν ρ) (s : ClientSystem μ ν ρ) (q : Query)
    (result : Except ClientError Msg) : Input → Prop
  | begun (h : (beginExchange c s.client q).2 = .done result) : ReturnsExchange c s q result (.exchange q)
  | finished (i : ℕ) (answer : Answer) (flight : Flight) (hflight : s.exchanges[i]? = some flight)
      (hquery : flight.query = q) (h : (finishExchange c s.client flight answer).2 = result) :
      ReturnsExchange c s q result (.answerExchange i answer)

/-- The inputs that return a query of `Lookup`. -/
inductive ReturnsLookup (c : Client μ ν ρ) (s : ClientSystem μ ν ρ) (q : Query)
    (result : Except ClientError (List Addr)) : Input → Prop
  | begun (transport name : String) (qType : ℕ) (options : DNSQueryOptions)
      (responseChecker : Option (Msg → Bool)) (contextTransport : Option String)
      (hquery : lookupQuery transport name qType options responseChecker contextTransport = q)
      (h : (beginLookup c s.client q ⟨name,qType,classINET⟩).2 = .done result) :
      ReturnsLookup c s q result (.lookup transport name qType options responseChecker contextTransport)
  | finished (i : ℕ) (answer : Answer) (flight : Flight) (hflight : s.lookups[i]? = some flight)
      (hquery : flight.query = q)
      (h : (finishExchange c s.client flight answer).2.bind (lookupAddresses c) = result) :
      ReturnsLookup c s q result (.answerLookup i answer)

lemma systemStep_returned {s : ClientSystem μ ν ρ} {ip : Input} :
    (∀ q r, (systemStep c s ip).2.returned = some (.exchange q r) → ReturnsExchange c s q r ip) ∧
    ∀ q r, (systemStep c s ip).2.returned = some (.lookup q r) → ReturnsLookup c s q r ip := by
  have hm := systemStep_cases c s ip
  generalize systemStep c s ip = m at hm
  cases hm with
  | exchanged q cl r hb =>
    refine ⟨fun q' r' h => ?_,fun _ _ h => by cases h⟩
    cases h
    exact .begun (by rw [hb])
  | lookedUp t n qt os rc ct q cl r hq hb =>
    refine ⟨fun _ _ h => (by cases h),fun q' r' h => ?_⟩
    cases h
    exact .begun _ _ _ _ _ _ hq (by rw [hb])
  | exchangeAnswered i answer flight hf =>
    refine ⟨fun q r h => ?_,fun _ _ h => by cases h⟩
    cases h
    exact .finished i answer flight hf rfl rfl
  | lookupAnswered i answer flight hf =>
    refine ⟨fun _ _ h => (by cases h),fun q r h => ?_⟩
    cases h
    exact .finished i answer flight hf rfl rfl
  | _ => exact ⟨fun _ _ h => (by cases h),fun _ _ h => by cases h⟩

lemma LedgerHistory.exists_input {al : Ledgered μ ν ρ → Input → Prop} {history : List ClientEvent}
    {x : Ledgered μ ν ρ} (h : LedgerHistory c al history x) {b a : List ClientEvent}
    {e : ClientEvent} (hs : history = b++e::a) {r : Return} (hrt : e.returned = some r) :
    ∃ y i, LedgerHistory c al b y ∧ al y i ∧ e = (systemStep c y.system i).2 := by
  obtain ⟨n,hr⟩ := h
  obtain ⟨y,y',hb,hst⟩ := hr.exists_step hs
  cases hst with
  | input i ha => exact ⟨y,i,⟨n,hb⟩,ha,rfl⟩
  | maintenance => cases hrt

end

/-- The fetch was for the transport, name and type of the query. -/
def Fetch.For (f : Fetch) (q : Query) : Prop :=
  f.transport = q.transport ∧ ∃ question, q.message.question.head? = some question ∧
    f.question.name = question.name ∧ f.question.qtype = question.qtype

lemma Fetch.for_of_storeKey {f : Fetch} {q : Query} {qs : Question} (hh : q.message.question.head? = some qs)
    (h : f.key.storeKey = CacheKey.storeKey ⟨qs,q.transport⟩) : f.For q := by
  obtain ⟨ht,hn,htp⟩ := StoreKey.mk.inj h
  exact ⟨ht,qs,hh,hn,htp⟩

variable {μ ν ρ : Type} (c : Client μ ν ρ)

def ledgerStep (x : Ledgered μ ν ρ) (input : Input) : Ledgered μ ν ρ :=
  ⟨(systemStep c x.system input).1,x.ledger++(input.write x.system).toList⟩

def ledgerInputs (x : Ledgered μ ν ρ) (inputs : List Input) : Ledgered μ ν ρ := inputs.foldl (ledgerStep c) x

variable {a : Ledgered μ ν ρ → Input → Prop} {ip : List Input}

lemma run_ledgerInputs {x : Ledgered μ ν ρ} (ha : Run.Along (ledgerStep c) a x ip) :
    Run (LedgerStep c a) x (runInputs c x.system ip).2 (ledgerInputs c x ip) := by
  induction ip generalizing x with
  | nil => exact .nil
  | cons i ip ih => exact .cons (.input x i ha.1) (ih ha.2)

lemma ledgerHistory_runInputs (ha : Run.Along (ledgerStep c) a ⟨initialSystem c 0,[]⟩ ip) :
    LedgerHistory c a (runInputs c (initialSystem c 0) ip).2 (ledgerInputs c ⟨initialSystem c 0,[]⟩ ip) :=
  ⟨0,run_ledgerInputs c ha⟩

end SingBox.DNS
