import SingBox.DNS.Edns

/-! The options of a query and the responses it gets: a response should be the upstream one with the
options of this query, wherever it comes from. -/
namespace SingBox.DNS
open Adapter List

def hintFilter (strategy : DomainStrategy) : Option DomainStrategy :=
  if strategy = .ipv4Only ∨ strategy = .ipv6Only then some strategy else none

section

/-- Options that apply alike to a type of question. -/
def AppliesAlike (qType : ℕ) (options options' : DNSQueryOptions) : Prop :=
  options.rewriteTTL = options'.rewriteTTL ∧
    (qType = typeHTTPS → hintFilter options.strategy = hintFilter options'.strategy)

variable {options : DNSQueryOptions} {question : Question}

lemma applyResponseOptions_congr {options' : DNSQueryOptions}
    (h : AppliesAlike question.qtype options options') (r : Msg) :
    applyResponseOptions question r options = applyResponseOptions question r options' := by
  obtain ⟨hr,hf⟩ := h
  unfold applyResponseOptions
  by_cases ht : question.qtype = typeHTTPS
  · have hs := hf ht
    unfold hintFilter at hs
    split_ifs at hs with hst hst' hst'
    · simp [ht,hst',hr,Option.some.inj hs]
    · simp [ht,hst,hst',hr]
  · simp [ht,hr]

/-- The lifetime that goes with the options, or that of a stale answer. -/
def OwnLifetime (question : Question) (upstream : Msg) (options : DNSQueryOptions) (n : ℕ) : Prop :=
  n ≤ (applyResponseOptions question upstream options).2 ∨ n = 1

/-- What a fetched response is returned as under some options: to the call that fetched it, and out of
the cache with the lifetime that is left. -/
inductive ServedWith (ops : MsgOps) (options : DNSQueryOptions) (f : Fetch) : Msg → Prop
  | direct : ServedWith ops options f (adjustEDNS ops f.message
      { (applyResponseOptions f.question f.upstream options).1 with id := f.message.id })
  | cached (timeToLive : Option ℕ) (id : ℕ)
      (h : ∀ n, timeToLive = some n → OwnLifetime f.question f.upstream options n) :
      ServedWith ops options f
        { atTTL (applyResponseOptions f.question f.upstream options).1 timeToLive with id := id }

def answerData (question : Question) (upstream : Msg) (strategy : DomainStrategy) : List RData :=
  match (if question.qtype = typeHTTPS then hintFilter strategy else none) with
  | some strategy => upstream.answer.map fun record => (filterHints strategy record).data
  | none => upstream.answer.map RR.data

lemma map_data_setTTL (tt : ℕ) (rs : List RR) : (rs.map (setTTL tt)).map RR.data = rs.map RR.data := by
  rw [map_map]
  refine map_congr_left fun r _ => ?_
  simp only [Function.comp_apply,setTTL]
  split_ifs <;> rfl

lemma ttl_of_mem_map_setTTL {tt : ℕ} {rs : List RR} {r : RR}
    (h : r ∈ rs.map (setTTL tt)) (ho : isOPT r = false) : r.hdr.ttl = tt := by
  obtain ⟨b,_,rfl⟩ := mem_map.mp h
  rw [isOPT_setTTL] at ho
  simp [setTTL,ho]

lemma applyResponseOptions_answer (question : Question) (u : Msg) (options : DNSQueryOptions) :
    (applyResponseOptions question u options).1.answer.map RR.data = answerData question u options.strategy := by
  simp only [applyResponseOptions,normalizeTTL,map_data_setTTL,answerData,hintFilter]
  by_cases ht : question.qtype = typeHTTPS
  · by_cases hs : options.strategy = .ipv4Only ∨ options.strategy = .ipv6Only
    all_goals simp [ht,hs]
  · simp [ht]

lemma applyResponseOptions_ttl {u : Msg} {r : RR} (h : r ∈ (applyResponseOptions question u options).1.answer ++
      (applyResponseOptions question u options).1.ns ++
      (applyResponseOptions question u options).1.extra) (ho : isOPT r = false) :
    r.hdr.ttl = (applyResponseOptions question u options).2 := by
  simp only [applyResponseOptions,normalizeTTL,← map_append] at h
  exact ttl_of_mem_map_setTTL h ho

lemma adjustEDNS_answer {ops : MsgOps} (lw : EdnsLaws ops) (m rp : Msg) :
    (adjustEDNS ops m rp).answer = rp.answer ∧ (adjustEDNS ops m rp).ns = rp.ns ∧
      ∀ r ∈ (adjustEDNS ops m rp).extra, isOPT r = false → r ∈ rp.extra := by
  unfold adjustEDNS
  split
  · exact ⟨rfl,rfl,fun _ hm _ => hm⟩
  · exact ⟨rfl,rfl,fun _ hm _ => (mem_filter.mp hm).1⟩
  · split
    · rename_i g ak _ _ _
      obtain ⟨a,ho,_,heq⟩ := lw.setEdns0
        { rp with extra := rp.extra.filter fun it => !isOPT it } (ops.udpSize g) (ops.dnssecOk g)
      rw [heq]
      refine ⟨rfl,rfl,fun r hm hr => ?_⟩
      rcases mem_append.mp hm with hm | hm
      · exact (mem_filter.mp hm).1
      · rw [mem_singleton.mp hm,ho] at hr
        cases hr
    · exact ⟨rfl,rfl,fun _ hm _ => hm⟩

end

section
variable {ops : MsgOps} {os : DNSQueryOptions} {f : Fetch} {rs : Msg}

section
variable (l : EdnsLaws ops) (h : ServedWith ops os f rs)
include l h

lemma ServedWith.answer : rs.answer.map RR.data = answerData f.question f.upstream os.strategy := by
  cases h with
  | direct =>
    rw [(adjustEDNS_answer l _ _).1]
    exact applyResponseOptions_answer _ _ _
  | cached tt =>
    rw [← applyResponseOptions_answer]
    cases tt with
    | none => rfl
    | some n => exact map_data_setTTL n _

lemma ServedWith.ttl {r : RR} (hm : r ∈ rs.answer++rs.ns++rs.extra) (ho : isOPT r = false) :
    OwnLifetime f.question f.upstream os r.hdr.ttl := by
  cases h with
  | direct =>
    left
    obtain ⟨ha,hns,he⟩ := adjustEDNS_answer l f.message
      { (applyResponseOptions f.question f.upstream os).1 with id := f.message.id }
    rw [ha,hns,mem_append] at hm
    refine (applyResponseOptions_ttl (mem_append.mpr ?_) ho).le
    exact hm.imp_right fun h => he r h ho
  | cached tt id hl =>
    cases tt with
    | none => exact Or.inl (applyResponseOptions_ttl hm ho).le
    | some n =>
      have ht : r.hdr.ttl = n := by
        simp only [atTTL,normalizeTTL,← map_append] at hm
        exact ttl_of_mem_map_setTTL hm ho
      rw [ht]
      exact hl n rfl

end

end

section
variable {μ ν ρ : Type} {c : Client μ ν ρ}

/-- A call that may use the cache applies its options as every call did that stored an entry for its
transport, name and type. -/
def OptionsSafe (c : Client μ ν ρ) (x : Ledgered μ ν ρ) : Input → Prop
  | .exchange q => disablesCache c q = false → ∀ f time, .stored f time ∈ x.ledger → f.For q →
      AppliesAlike f.question.qtype f.options q.options
  | _ => True

/-- A returned response that was made from a fetched one with the options of its own query: its content,
its hints and its lifetimes. -/
structure OwnResponse (ops : MsgOps) (q : Query) (f : Fetch) (response : Msg) : Prop where
  served : ServedWith ops q.options f response
  hints : f.question.qtype = typeHTTPS → hintFilter q.options.strategy = some q.options.strategy →
    ∀ record ∈ response.answer, ∀ value, record.data = .https value → ∀ hint ∈ value,
      keepsHint q.options.strategy hint = true
  complete : hintFilter q.options.strategy = none → response.answer.map RR.data = f.upstream.answer.map RR.data
  lifetimes : ∀ record ∈ response.answer++response.ns++response.extra, isOPT record = false →
    OwnLifetime f.question f.upstream q.options record.hdr.ttl

lemma ServedWith.ownResponse (lw : EdnsLaws c.ops) {q : Query} {f : Fetch} {rp : Msg}
    (h : ServedWith c.ops q.options f rp) : OwnResponse c.ops q f rp where
  served := h
  hints ht hstrategy r hm value hd hint hh := by
    have hd' : r.data ∈ answerData f.question f.upstream q.options.strategy := by
      rw [← h.answer lw]
      exact mem_map_of_mem hm
    simp only [answerData,ht,if_true,hstrategy] at hd'
    obtain ⟨r',_,heq⟩ := mem_map.mp hd'
    rw [← heq] at hd
    unfold filterHints at hd
    split at hd
    · cases hd
      exact (mem_filter.mp hh).2
    · rename_i ho
      exact absurd hd (ho value)
  complete hn := by
    simp [h.answer lw,answerData,hn]
  lifetimes r hm hop := h.ttl lw hm hop

/-- Over every history in which calls that share entries apply their options alike: what `Exchange`
returns is a fixed answer, or made from a response fetched for its transport, name and type with the
options of the call itself. -/
theorem exchange_applies_own_options (c : Client μ ν ρ) (laws : EdnsLaws c.ops) (history : List ClientEvent)
    (x : Ledgered μ ν ρ) (h : LedgerHistory c (OptionsSafe c) history x) :
    ∀ before event after q response, history = before++event::after →
      event.returned = some (.exchange q (.ok response)) →
      FixedAnswer q response ∨ ∃ f ∈ fetches (before++[event]), f.For q ∧ OwnResponse c.ops q f response := by
  intro before event after q response hsp hrt
  obtain ⟨y,ip,hb,ha,rfl⟩ := h.exists_input hsp hrt
  cases systemStep_returned.1 q _ hrt with
  | begun hbg =>
    refine (beginExchange_ok hbg).imp_right ?_
    rintro ⟨l,hht,rfl⟩
    obtain ⟨question,hh,_,hc,hld,_⟩ := exchangeHit_eq_some hht
    obtain ⟨f,hf⟩ := hb.kept.loadResponse hld
    obtain ⟨t,hs⟩ := hf.stored
    have hfr : f.For q := Fetch.for_of_storeKey hh hf.key_eq
    refine ⟨f,mem_fetches_append_left (hb.kept.fetched _ hs) _,hfr,?_⟩
    refine ServedWith.ownResponse laws ?_
    obtain ⟨tt,hr,hl⟩ := hf.response
    have hsm := applyResponseOptions_congr (ha hc f t hs hfr) f.upstream
    rw [hr,Fetch.applied,hsm]
    refine .cached tt _ fun n hn => ?_
    rcases hl n hn with hle | ⟨_,ho⟩
    · left
      rwa [Fetch.lifetime,hsm] at hle
    · exact Or.inr ho
  | finished i a fl hfl hq hfn =>
    subst hq
    obtain ⟨u,hu,_,rfl⟩ := finishExchange_ok hfn
    have hft : (systemStep c y.system (.answerExchange i a)).2.fetched = some (fl.fetch u) := by
      simp only [systemStep,hfl,upstreamOf,hu]
      rfl
    refine Or.inr ⟨fl.fetch u,mem_fetches_concat hft, ⟨rfl,fl.question,fl.question_eq,rfl,rfl⟩,?_⟩
    have hd : ServedWith c.ops fl.query.options (fl.fetch u)
      (adjustEDNS c.ops fl.message { (fl.fetch u).applied with id := fl.message.id }) := .direct
    exact hd.ownResponse laws

end

def httpsQuery (options : DNSQueryOptions) : Query where
  transport := "local"
  message := { id := 7, question := [⟨"a.test.",typeHTTPS,classINET⟩] }
  options := options
  responseChecker := none

def httpsReply (timeToLive : ℕ) (value : List SVCBKeyValue) : Msg :=
  { id := 7, response := true, question := [⟨"a.test.",typeHTTPS,classINET⟩]
    answer := [⟨⟨"a.test.",typeHTTPS,classINET,timeToLive⟩,.https value⟩] }

def bothHints : List SVCBKeyValue := [.ipv4Hint [[10,0,0,1]],.ipv6Hint [[32,1,13,184,0,0,0,0,0,0,0,0,0,0,0,1]]]

/-- A query for one family, answered from the network and then out of the cache. -/
theorem exchange_applies_own_options_ipv4 :
    let c := ednsClient ⟨.invalid,0⟩
    let q := httpsQuery { strategy := .ipv4Only }
    let run := runInputs c (initialSystem c 0)
      [.exchange q,.answerExchange 0 (.response (httpsReply 60 bothHints)),.exchange q]
    ∃ before event response, run.2 = before++[event] ∧ event.returned = some (.exchange q (.ok response)) ∧
      response = httpsReply 60 [.ipv4Hint [[10,0,0,1]]] ∧
      (FixedAnswer q response ∨ ∃ f ∈ fetches (before++[event]), f.For q ∧ OwnResponse c.ops q f response) := by
  have ha : Run.Along (ledgerStep (ednsClient ⟨.invalid,0⟩)) (OptionsSafe (ednsClient ⟨.invalid,0⟩))
      ⟨initialSystem (ednsClient ⟨.invalid,0⟩) 0,[]⟩
      [.exchange (httpsQuery { strategy := .ipv4Only }), .answerExchange 0 (.response (httpsReply 60 bothHints)),
        .exchange (httpsQuery { strategy := .ipv4Only })] := by
    refine ⟨fun _ f t hm => (by cases hm),trivial,fun _ f t hm _ => ?_,trivial⟩
    rw [(Write.stored.inj (mem_singleton.mp hm)).1]
    exact ⟨rfl,fun _ => rfl⟩
  refine ⟨[_,_],_,_,rfl,rfl,rfl,?_⟩
  exact exchange_applies_own_options _ ednsLaws_ednsOps _ _ (ledgerHistory_runInputs _ ha) [_,_] _ [] _ _
    rfl rfl

/-- Responses out of the cache with the options of another query: a hint that the strategy excludes, a
hint that is missing, and a lifetime that another query rewrote. -/
theorem exchange_returns_options_of_others :
    let c := ednsClient ⟨.invalid,0⟩
    let answered (first : DNSQueryOptions) (q : Query) : Option Return :=
      (runInputs c (initialSystem c 0) [.exchange (httpsQuery first),
        .answerExchange 0 (.response (httpsReply 60 bothHints)),.exchange q]).2[2]?.bind ClientEvent.returned
    let own : Query := httpsQuery {}
    let ipv4 : Query := httpsQuery { strategy := .ipv4Only }
    answered {} ipv4 = some (.exchange ipv4 (.ok (httpsReply 60 bothHints))) ∧
    answered { strategy := .ipv4Only } own = some (.exchange own (.ok (httpsReply 60 [.ipv4Hint [[10,0,0,1]]]))) ∧
    answered { rewriteTTL := some 3600 } own = some (.exchange own (.ok (httpsReply 3600 bothHints))) :=
  ⟨rfl,rfl,rfl⟩

end SingBox.DNS
