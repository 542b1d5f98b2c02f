import SingBox.DNS.LedgerRun

/-! Client subnets and the cache: which queries carry a subnet, and whether entries cross between
queries with and without one. -/
namespace SingBox.DNS
open Adapter List

def EDNS0.isSubnet : EDNS0 → Bool
  | .subnet _ _ _ _ => true
  | .other _ _ => false

def RData.hasSubnet : RData → Bool
  | .opt options => options.any EDNS0.isSubnet
  | _ => false

def hasSubnet (message : Msg) : Bool := message.extra.any fun record => record.data.hasSubnet

section

variable (cs : Prefix)

@[simp] lemma isSubnet_subnetOption (ss : ℕ) : (subnetOption cs ss).isSubnet = true := rfl

lemma overwriteSubnet_any {cs : Prefix} {options options' : List EDNS0}
    (h : overwriteSubnet cs options = some options') : options'.any EDNS0.isSubnet = true := by
  induction options generalizing options' with
  | nil => cases h
  | cons o options ih =>
    cases o with
    | subnet =>
      cases h
      simp
    | other =>
      obtain ⟨r,hr,rfl⟩ := Option.map_eq_some_iff.mp h
      simp [ih hr]

/-- After `SetClientSubnet` there is a subnet option. -/
lemma hasSubnet_setClientSubnet (ms : Msg) : hasSubnet (setClientSubnet ms cs) = true := by
  unfold setClientSubnet hasSubnet
  split
  · rename_i ho
    obtain ⟨f,hdr,options,options',b,_,hop,rfl⟩ := overwriteRecord_eq_some ho
    simp [RData.hasSubnet,overwriteSubnet_any hop]
  · split
    all_goals simp [RData.hasSubnet]

lemma hasSubnet_of_isSimpleRequest {ms : Msg} {options : DNSQueryOptions} (h : isSimpleRequest ms options = true) :
    hasSubnet ms = false ∧ options.clientSubnet.isValid = false := by
  simp only [isSimpleRequest,Bool.and_eq_true,Bool.not_eq_true'] at h
  obtain ⟨⟨_,he⟩,hv⟩ := h
  refine ⟨?_,hv⟩
  unfold hasSubnet
  split at he
  · rename_i hn
    rw [hn]
    rfl
  · rename_i r hs
    simp only [Bool.and_eq_true] at he
    rw [hs]
    have hd := he.2
    split at hd
    · rename_i options ho
      simp only [beq_iff_eq,length_eq_zero_iff] at hd
      simp [ho,RData.hasSubnet,hd]
    · cases hd
  · cases he

end

section
variable {μ ν ρ : Type} {c : Client μ ν ρ} {m : Msg} {os : DNSQueryOptions}

lemma hasSubnet_prepareExchangeMessage (h : os.clientSubnet.isValid = true ∨ c.clientSubnet.isValid = true) :
    hasSubnet (prepareExchangeMessage c m os) = true := by
  unfold prepareExchangeMessage
  dsimp only
  split_ifs with ho hv
  · exact hasSubnet_setClientSubnet _ _
  · exact hasSubnet_setClientSubnet _ _
  · exact absurd h (by simp [ho,hv])

lemma prepareExchangeMessage_eq (ho : os.clientSubnet.isValid = false)
    (hc : c.clientSubnet.isValid = false) : prepareExchangeMessage c m os = m := by
  simp [prepareExchangeMessage,ho,hc]

lemma hasSubnet_of_disablesCache {q : Query} (h : disablesCache c q = false) :
    hasSubnet (prepareExchangeMessage c q.message q.options) = false ∧
      q.options.clientSubnet.isValid = false ∧ c.clientSubnet.isValid = false := by
  have hs : isSimpleRequest (prepareExchangeMessage c q.message q.options) q.options = true := by
    simp only [disablesCache,Bool.or_eq_false_iff,Bool.not_eq_false'] at h
    exact h.1.1
  obtain ⟨hm,ho⟩ := hasSubnet_of_isSimpleRequest hs
  refine ⟨hm,ho,?_⟩
  by_contra hc
  rw [Bool.not_eq_false] at hc
  rw [hasSubnet_prepareExchangeMessage (Or.inr hc)] at hm
  cases hm

end

variable {μ ν ρ : Type} {c : Client μ ν ρ}

/-- A lookup does not combine a subnet of its own with a cache that may hold something. -/
def LookupSafe (c : Client μ ν ρ) (options : DNSQueryOptions) : Prop :=
  (c.disableCache || options.disableCache) = true ∨ options.clientSubnet.isValid = false ∨
    c.clientSubnet.isValid = true

def SubnetSafe (c : Client μ ν ρ) (_ : Ledgered μ ν ρ) : Input → Prop
  | .lookup _ _ _ options _ _ => LookupSafe c options
  | _ => True

/-- Nothing that is stored or about to be stored belongs to a query with a subnet. -/
structure Subnetless (c : Client μ ν ρ) (x : Ledgered μ ν ρ) : Prop where
  stored : ∀ f time, .stored f time ∈ x.ledger → hasSubnet f.message = false ∧ c.clientSubnet.isValid = false
  refreshes : ∀ refresh ∈ x.system.client.backgroundRefresh,
    hasSubnet refresh.message = false ∧ c.clientSubnet.isValid = false

lemma Flight.Sent.subnetless {f : Flight} (h : f.Sent c) (hcc : f.disableCache = false) :
    hasSubnet f.message = false ∧ c.clientSubnet.isValid = false := by
  obtain ⟨question,hh,heq⟩ := h
  have hd : disablesCache c f.query = false := by
    rw [heq] at hcc
    exact hcc
  obtain ⟨hm,_,hc⟩ := hasSubnet_of_disablesCache hd
  refine ⟨?_,hc⟩
  rw [heq]
  exact hm

variable {x : Ledgered μ ν ρ} {history : List ClientEvent} {options : DNSQueryOptions} {question : Question}

lemma Subnetless.write (h : Subnetless c x) (hwt : Waiting c x.system)
    {ip : Input} {f : Fetch} {t : ℕ} (hwr : ip.write x.system = some (.stored f t)) :
    hasSubnet f.message = false ∧ c.clientSubnet.isValid = false := by
  cases Input.write_cases hwr with
  | exchange i a fl hfl hw =>
    obtain ⟨r,_,hc,_,hft,_⟩ := Flight.write_cases hw
    have hf : f = fl.fetch r := hft
    rw [hf]
    exact (hwt.1 fl (mem_of_getElem? hfl)).subnetless hc
  | lookup i a fl hfl hw =>
    obtain ⟨r,_,hc,_,hft,_⟩ := Flight.write_cases hw
    have hf : f = fl.fetch r := hft
    rw [hf]
    exact (hwt.2 fl (mem_of_getElem? hfl)).subnetless hc
  | refresh i a rf hr hw =>
    obtain ⟨r,_,hft,_⟩ := Refresh.write_cases hw
    have hf : f = rf.fetch r := hft
    rw [hf]
    exact h.refreshes rf (mem_of_getElem? hr)

section
variable (h : Subnetless c x) (hk : Kept c history x.ledger x.system.client)
include h hk

lemma Subnetless.of_load {k : CacheKey} {l : Loaded}
    (hl : (loadResponse c x.system.client k).2 = some l) : c.clientSubnet.isValid = false := by
  obtain ⟨f,hf⟩ := hk.loadResponse hl
  obtain ⟨t,hm⟩ := hf.stored
  exact (h.stored f t hm).2

lemma Subnetless.refreshed {i : Input} (ha : SubnetSafe c x i) {r : Refresh} (hr : RefreshedBy c x.system.client r i) :
    hasSubnet r.message = false ∧ c.clientSubnet.isValid = false := by
  cases hr with
  | exchange q question l hh hht heq =>
    obtain ⟨_,_,_,hcc,_⟩ := exchangeHit_eq_some hht
    obtain ⟨hm,_,hc⟩ := hasSubnet_of_disablesCache hcc
    rw [heq]
    exact ⟨hm,hc⟩
  | lookup t n qt options rc ct l hht heq =>
    obtain ⟨he,hl,_⟩ := questionHit_eq_some hht
    have hc := h.of_load hk hl
    have ho : options.clientSubnet.isValid = false := by
      rcases ha with hd | hin | hv
      · exact absurd (hd.symm.trans he) (by simp)
      · exact hin
      · rw [hc] at hv
        cases hv
    refine ⟨?_,hc⟩
    rw [heq]
    show hasSubnet (prepareExchangeMessage c _ options) = false
    rw [prepareExchangeMessage_eq ho hc]
    rfl

end

lemma LedgerHistory.subnetless (h : LedgerHistory c (SubnetSafe c) history x) : Subnetless c x := by
  obtain ⟨n,hrn⟩ := h
  refine hrn.invariant_along (I := fun _ x => Subnetless c x)
    ⟨fun _ _ hm => (by cases hm),fun _ hm => (by cases hm)⟩ fun history x e x' hb hs hst => ?_
  have hh : LedgerHistory c (SubnetSafe c) history x := ⟨n,hb⟩
  cases hst with
  | maintenance hr =>
    refine ⟨hs.stored,?_⟩
    rw [hr.backgroundRefresh]
    exact hs.refreshes
  | input i ha =>
    constructor
    · intro f t hm
      rcases mem_append.mp hm with hm | hm
      · exact hs.stored f t hm
      · exact hs.write hh.waiting (Option.mem_toList.mp hm)
    · intro r hm
      rcases mem_systemStep_refresh hm with hm | hrf
      · exact hs.refreshes r hm
      · exact hs.refreshed hh.kept ha hrf

/-- The types that `Lookup` asks for under a strategy. -/
def lookupTypes : DomainStrategy → List ℕ
  | .ipv4Only => [typeA]
  | .ipv6Only => [typeAAAA]
  | _ => [typeA,typeAAAA]

lemma strategyRejects_lookup {n : String} {qt : ℕ} (h : qt ∈ lookupTypes (lookupStrategy options)) :
    strategyRejects ⟨n,qt,classINET⟩ (lookupOptions options) = false := by
  have hst : (lookupOptions options).strategy = lookupStrategy options := by
    unfold lookupOptions lookupStrategy
    split_ifs <;> rfl
  unfold strategyRejects
  rw [hst]
  cases hs : lookupStrategy options with
  | ipv4Only | ipv6Only =>
    rw [hs] at h
    rw [mem_singleton.mp h]
    rfl
  | asIS | preferIPv4 | preferIPv6 => simp

/-- The entry was stored for a query that carries a subnet exactly if this one does. -/
def SameSubnet (c : Client μ ν ρ) (ledger : List Write) (q : Query) (question : Question) (loaded : Loaded) :
    Prop :=
  (∃ f, LoadedBy c ledger ⟨question,q.transport⟩ loaded f) ∧
  ∀ f, LoadedBy c ledger ⟨question,q.transport⟩ loaded f →
    hasSubnet f.message = hasSubnet (prepareExchangeMessage c q.message q.options)

lemma Subnetless.sameSubnet (h : Subnetless c x)
    (hkp : Kept c history x.ledger x.system.client) {q : Query} {l : Loaded}
    (hl : (loadResponse c x.system.client ⟨question,q.transport⟩).2 = some l)
    (hm : hasSubnet (prepareExchangeMessage c q.message q.options) = false) : SameSubnet c x.ledger q question l := by
  refine ⟨hkp.loadResponse hl,fun f hf => ?_⟩
  obtain ⟨t,hmm⟩ := hf.stored
  rw [hm]
  exact (h.stored f t hmm).1

lemma Subnetless.questionHit_eq (h : Subnetless c x) (hkp : Kept c history x.ledger x.system.client) {q : Query}
    (hh : q.message.question.head? = some question) (hst : strategyRejects question q.options = false)
    (hsf : LookupSafe c q.options) (hs : q.options.clientSubnet.isValid = false → c.clientSubnet.isValid = false →
      disablesCache c q = (c.disableCache || q.options.disableCache)) :
    questionHit c x.system.client q question = exchangeHit c x.system.client q := by
  rw [exchangeHit_of_head hh,hst,Bool.false_or]
  unfold questionHit
  cases hl : (loadResponse c x.system.client ⟨question,q.transport⟩).2 with
  | none => simp
  | some =>
    have hc := h.of_load hkp hl
    rcases hsf with hd | ho | hv
    · have hds : disablesCache c q = true := by
        rw [disablesCache,Bool.or_assoc,hd,Bool.or_true]
      rw [hd,hds]
    · rw [hs ho hc]
    · rw [hc] at hv
      cases hv

/-- Over every history whose lookups do not combine a subnet with the cache: `Exchange` and `Lookup` are
answered out of entries of queries that carry a subnet exactly if they do, and agree on whether the cache
answers. -/
theorem subnets_kept_apart (c : Client μ ν ρ) (history : List ClientEvent) (x : Ledgered μ ν ρ)
    (h : LedgerHistory c (SubnetSafe c) history x) :
    (∀ q response, (beginExchange c x.system.client q).2 = .done (.ok response) → FixedAnswer q response ∨
      ∃ question loaded, q.message.question.head? = some question ∧
        exchangeHit c x.system.client q = some loaded ∧ SameSubnet c x.ledger q question loaded) ∧
    (∀ transport name qType options responseChecker contextTransport,
      qType ∈ lookupTypes (lookupStrategy options) → LookupSafe c (lookupOptions options) →
      let q := lookupQuery transport name qType (lookupOptions options) responseChecker contextTransport
      let question : Question := ⟨name,qType,classINET⟩
      questionHit c x.system.client q question = exchangeHit c x.system.client q ∧
      ∀ loaded, questionHit c x.system.client q question = some loaded →
        SameSubnet c x.ledger q question loaded) := by
  have hsb := h.subnetless
  have hkp := h.kept
  constructor
  · intro q response hd
    refine (beginExchange_ok hd).imp_right ?_
    rintro ⟨loaded,hht,_⟩
    obtain ⟨question,hh,_,hcc,hl,_⟩ := exchangeHit_eq_some hht
    exact ⟨question,loaded,hh,hht,hsb.sameSubnet hkp hl (hasSubnet_of_disablesCache hcc).1⟩
  · intro transport name qType options responseChecker contextTransport ht hs q question
    have hst : strategyRejects question q.options = false := strategyRejects_lookup ht
    have ha : questionHit c x.system.client q question = exchangeHit c x.system.client q :=
      -- the query that `Lookup` makes is one that may use the cache, but for a subnet
      hsb.questionHit_eq hkp rfl hst hs fun (ho : (lookupOptions options).clientSubnet.isValid = _) hc => by
        simp [q,disablesCache,lookupQuery,prepareExchangeMessage_eq ho hc,isSimpleRequest,ho]
    refine ⟨ha,fun loaded hht => ?_⟩
    rw [ha] at hht
    obtain ⟨question',hh,_,hcc,hl,_⟩ := exchangeHit_eq_some hht
    cases hh
    exact hsb.sameSubnet hkp hl (hasSubnet_of_disablesCache hcc).1

/-- A lookup without a subnet, answered out of the cache. -/
theorem subnets_kept_apart_lookup :
    let inputs : List Input := [.exchange (addressQuery {} none),
      .answerExchange 0 (.response (addressReply [10,0,0,1]))]
    let x := ledgerInputs plainClient ⟨initialSystem plainClient 0,[]⟩ inputs
    let q := lookupQuery "local" "a.test." typeA {} none none
    ∃ loaded, questionHit plainClient x.system.client q ⟨"a.test.",typeA,classINET⟩ = some loaded ∧
      exchangeHit plainClient x.system.client q = some loaded ∧
      SameSubnet plainClient x.ledger q ⟨"a.test.",typeA,classINET⟩ loaded := by
  intro inputs x q
  have hr : LedgerHistory plainClient (SubnetSafe plainClient)
      (runInputs plainClient (initialSystem plainClient 0) inputs).2 x :=
    ledgerHistory_runInputs plainClient ⟨trivial,trivial,trivial⟩
  obtain ⟨ha,hs⟩ := (subnets_kept_apart plainClient _ x hr).2 "local" "a.test." typeA {} none none
    mem_cons_self (Or.inr (Or.inl rfl))
  exact ⟨_,rfl,ha.symm.trans rfl,hs _ rfl⟩

/-- A lookup with a subnet is answered out of an entry that a query without one stored; `Exchange` with
the same options would not use it. -/
theorem lookup_ignores_subnet :
    let options : DNSQueryOptions := { clientSubnet := ⟨.v4 0xc0000200#32,24⟩ }
    let inputs : List Input := [.exchange (addressQuery {} none),
      .answerExchange 0 (.response (addressReply [10,0,0,1])),.lookup "local" "a.test." typeA options none none]
    let run := runInputs plainClient (initialSystem plainClient 0) inputs
    let q := lookupQuery "local" "a.test." typeA options none none
    ClientHistory plainClient run.2 run.1 ∧
      run.2[2]?.bind ClientEvent.returned = some (.lookup q (.ok [.v4 0x0a000001#32])) ∧
      (fetches run.2).map (fun f => hasSubnet f.message) = [false] ∧
      hasSubnet (prepareExchangeMessage plainClient q.message q.options) = true ∧
      exchangeHit plainClient run.1.client q = none :=
  ⟨clientHistory_runInputs plainClient _,rfl,rfl,rfl,rfl⟩

end SingBox.DNS
