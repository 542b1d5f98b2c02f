import SingBox.DNS.LedgerRun

/-! The cache of rejected responses over histories: what its entries stand for. -/
namespace SingBox.DNS

/-- A response with a return code that is kept, refused by the checker of the call that fetched it. -/
def Fetch.Refused (f : Fetch) : Prop :=
  usableRcode f.upstream = true ∧ ∃ check, f.responseChecker = some check ∧ check f.upstream = false

lemma refused_of_checkRejects {f : Fetch} (hr : usableRcode f.upstream = true)
    (h : checkRejects f.responseChecker f.upstream = true) : f.Refused := by
  refine ⟨hr,?_⟩
  cases hc : f.responseChecker with
  | none => simp [checkRejects,hc] at h
  | some ch => exact ⟨ch,rfl,by simpa [checkRejects,hc,hr] using h⟩

variable {μ ν ρ : Type} {c : Client μ ν ρ}

/-- No background refresh with a checker is answered with a temporary failure. -/
def RefreshUsable (x : Ledgered μ ν ρ) : Input → Prop
  | .answerRefresh i answer => ∀ refresh response, x.system.client.backgroundRefresh[i]? = some refresh →
      refresh.responseChecker.isSome = true → exchangeToTransport refresh.message answer = .ok response →
      usableRcode response = true
  | _ => True

variable {x : Ledgered μ ν ρ} {history : List ClientEvent}

lemma refused_of_write {ip : Input} (ha : RefreshUsable x ip) {f : Fetch}
    (h : ip.write x.system = some (.rejected f)) : f.Refused := by
  have hfl : ∀ {fl : Flight} {a : Answer}, fl.write x.system.client.now a = some (.rejected f) → f.Refused := by
    intro fl a hw
    obtain ⟨rs,_,_,hrc,hft,⟨heq,_⟩ | ⟨_,hr⟩⟩ := Flight.write_cases hw
    · cases heq
    · have hf : f = fl.fetch rs := hft
      rw [hf]
      exact refused_of_checkRejects hrc hr
  cases Input.write_cases h with
  | exchange i a fl _ hw | lookup i a fl _ hw => exact hfl hw
  | refresh i a r hrf hw =>
    obtain ⟨rs,han,hft,⟨heq,_⟩ | ⟨_,hr⟩⟩ := Refresh.write_cases hw
    · cases heq
    · have hf : f = r.fetch rs := hft
      have hc : r.responseChecker.isSome = true := by
        cases hn : r.responseChecker with
        | none => simp [checkRejects,hn] at hr
        | some => rfl
      rw [hf]
      exact refused_of_checkRejects (ha r rs hrf hc han) hr

section
variable (h : LedgerHistory c RefreshUsable history x)
include h

lemma LedgerHistory.refused : ∀ f, .rejected f ∈ x.ledger → f.Refused := by
  intro f hm
  refine h.forall_writes (P := fun w => ∀ f, w = .rejected f → f.Refused) ?_ _ hm f rfl
  rintro x i w ha hw f rfl
  exact refused_of_write ha hw

lemma LedgerHistory.exists_refused {k : StoreKey} {e : Unit}
    (he : c.rejections.lookup x.system.client.rdrc k = some e) :
    ∃ f ∈ fetches history, f.Refused ∧ f.key.storeKey = k := by
  obtain ⟨f,hm,hk⟩ := h.kept.rdrc k e he
  exact ⟨f,h.kept.fetched _ hm,h.refused f hm,hk⟩

end

/-- Over every history in which no refresh with a checker gets a temporary failure: each entry among the
rejected responses is there because a checker refused a usable response for its transport, name and type,
and each call that is rejected out of that cache has such a response before it. -/
theorem rejections_follow_refused_responses (c : Client μ ν ρ) (history : List ClientEvent)
    (x : Ledgered μ ν ρ) (h : LedgerHistory c RefreshUsable history x) :
    (∀ key entry, c.rejections.lookup x.system.client.rdrc key = some entry →
      ∃ f ∈ fetches history, f.Refused ∧ f.key.storeKey = key) ∧
    ∀ before event after q, history = before++event::after →
      event.returned = some (.exchange q (.error .responseRejectedCached)) ∨
        event.returned = some (.lookup q (.error .responseRejectedCached)) →
      ∃ f ∈ fetches before, f.Refused ∧ f.For q := by
  refine ⟨fun key entry he => h.exists_refused he,?_⟩
  rintro before event after q hs (hrt | hrt)
  · obtain ⟨y,ip,hb,_,rfl⟩ := h.exists_input hs hrt
    cases systemStep_returned.1 q _ hrt with
    | begun hbg =>
      obtain ⟨qs,entry,hh,he⟩ := beginExchange_rejectedCached hbg
      obtain ⟨f,hm,hr,hk⟩ := hb.exists_refused he
      exact ⟨f,hm,hr,Fetch.for_of_storeKey hh hk⟩
    | finished i a fl hfl hq hf =>
      exact absurd hf finishExchange_ne_rejectedCached
  · obtain ⟨y,ip,hb,_,rfl⟩ := h.exists_input hs hrt
    cases systemStep_returned.2 q _ hrt with
    | begun t n qt os rc ct hq hbg =>
      have hh : q.message.question.head? = some ⟨n,qt,classINET⟩ := by
        rw [← hq]
        rfl
      obtain ⟨entry,he⟩ := beginLookup_rejectedCached hh hbg
      obtain ⟨f,hm,hr,hk⟩ := hb.exists_refused he
      exact ⟨f,hm,hr,Fetch.for_of_storeKey hh hk⟩
    | finished i a fl hfl hq hf =>
      exact absurd hf finishLookup_ne_rejectedCached

def optimisticClient : Client (CacheKey → Option (Msg × ℕ)) (StoreKey → Option (List UInt8 × ℕ))
    (StoreKey → Option Unit) :=
  { plainClient with optimisticTimeout := 120*second }

/-- A call whose checker refuses its response, and one that the entry then rejects. -/
theorem rejections_follow_refused_responses_refused :
    let q := addressQuery {} (some fun _ => false)
    let inputs : List Input := [.exchange q,.answerExchange 0 (.response (addressReply [10,0,0,1])),.exchange q]
    let history := (runInputs optimisticClient (initialSystem optimisticClient 0) inputs).2
    ∃ before event, history = before++[event] ∧ event.returned = some (.exchange q (.error .responseRejectedCached)) ∧
      ∃ f ∈ fetches before, f.Refused ∧ f.For q := by
  intro q inputs history
  have hr : LedgerHistory optimisticClient RefreshUsable history
      (ledgerInputs optimisticClient ⟨initialSystem optimisticClient 0,[]⟩ inputs) :=
    ledgerHistory_runInputs optimisticClient ⟨trivial,trivial,trivial,trivial⟩
  refine ⟨history.take 2,_,rfl,rfl,?_⟩
  exact (rejections_follow_refused_responses optimisticClient history _ hr).2 (history.take 2) _ [] q rfl (Or.inl rfl)

/-- A temporary failure that a background refresh gets rejects a later call, though no checker refused
anything. -/
theorem refresh_failure_rejects_later_call :
    let q := addressQuery {} (some fun _ => true)
    let failure : Msg := { addressReply [] with rcode := 2, answer := [] }
    let inputs : List Input := [.exchange (addressQuery {} none),
      .answerExchange 0 (.response (addressReply [10,0,0,1])),.advance (61*second),.exchange q,
      .answerRefresh 0 (.response failure),.advance (200*second),.exchange q]
    let history := (runInputs optimisticClient (initialSystem optimisticClient 0) inputs).2
    (∃ s, ClientHistory optimisticClient history s) ∧ (∀ f ∈ fetches history, ¬f.Refused) ∧
      history[6]?.bind ClientEvent.returned = some (.exchange q (.error .responseRejectedCached)) := by
  refine ⟨⟨_,clientHistory_runInputs optimisticClient _⟩,?_,rfl⟩
  intro f hm hrf
  obtain ⟨hr,ch,hc,_⟩ := hrf
  rcases List.mem_cons.mp hm with rfl | hm
  · cases hc
  · rw [List.mem_singleton.mp hm] at hr
    exact absurd hr (by decide)

end SingBox.DNS
