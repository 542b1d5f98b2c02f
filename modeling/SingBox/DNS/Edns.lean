import SingBox.DNS.LedgerRun

/-! EDNS records of requests and responses. A response should show none to a request without one, and
none of a version above that of the request. -/
namespace SingBox.DNS
open Adapter List

def lastOPT (records : List RR) : Option RR := records.reverse.find? isOPT

def headerVersion (hdr : RRHeader) : ℕ := hdr.ttl/65536%256

structure EdnsLaws (ops : MsgOps) : Prop where
  isEdns0 : ∀ message, ops.isEdns0 message = lastOPT message.extra
  version : ∀ record, ops.version record = headerVersion record.hdr
  setEdns0 : ∀ message udpSize dnssecOk, ∃ record, isOPT record = true ∧ headerVersion record.hdr = 0 ∧
    ops.setEdns0 message udpSize dnssecOk = { message with extra := message.extra++[record] }

section

variable (tt : ℕ) (rs : List RR)

lemma isOPT_setTTL (r : RR) : isOPT (setTTL tt r) = isOPT r := by
  unfold setTTL
  split_ifs <;> rfl

lemma lastOPT_eq_none {rs : List RR} : lastOPT rs = none ↔ ∀ r ∈ rs, isOPT r = false := by
  simp [lastOPT]

lemma find?_map_setTTL : (rs.map (setTTL tt)).find? isOPT = rs.find? isOPT := by
  induction rs with
  | nil => rfl
  | cons r rs ih =>
    rw [map_cons,find?_cons,find?_cons,isOPT_setTTL,ih]
    cases ho : isOPT r with
    | false => rfl
    | true => simp [setTTL,ho]

@[simp] lemma lastOPT_map_setTTL : lastOPT (rs.map (setTTL tt)) = lastOPT rs := by
  rw [lastOPT,← map_reverse,find?_map_setTTL]
  rfl

lemma lastOPT_concat (r : RR) : lastOPT (rs++[r]) = if isOPT r then some r else lastOPT rs := by
  rw [lastOPT,reverse_append,reverse_singleton,singleton_append,find?_cons]
  cases isOPT r with
  | false | true => rfl

lemma lastOPT_map_hdr :
    (lastOPT rs).map RR.hdr = (rs.map RR.hdr).reverse.find? (fun hdr => hdr.rrtype == typeOPT) := by
  rw [← map_reverse,find?_map]
  rfl

lemma lastOPT_setClientSubnet (m : Msg) (cs : Prefix) :
    (lastOPT (setClientSubnet m cs).extra).map RR.hdr = (lastOPT m.extra).map RR.hdr ∨
    ∃ r, lastOPT (setClientSubnet m cs).extra = some r ∧ headerVersion r.hdr = 0 := by
  unfold setClientSubnet
  split
  · rename_i e ho
    left
    obtain ⟨f,hdr,os,os',b,he,_,rfl⟩ := overwriteRecord_eq_some ho
    rw [lastOPT_map_hdr,lastOPT_map_hdr,he]
    simp
  · split
    · rename_i hdr os hl
      left
      obtain ⟨hn,hc⟩ := getLast?_eq_some_iff.mp hl
      rw [lastOPT_map_hdr,lastOPT_map_hdr,hc]
      simp
    · right
      refine ⟨⟨⟨".",typeOPT,0,0⟩,.opt [subnetOption cs 0]⟩,?_,by simp [headerVersion]⟩
      rw [lastOPT_concat]
      rfl

end

section
variable {ops : MsgOps} (l : EdnsLaws ops)

/-- The response suits the request: no OPT record for one without, and no higher version. -/
def SuitsRequest (request response : Msg) : Prop :=
  (lastOPT request.extra = none → ∀ record ∈ response.extra, isOPT record = false) ∧
  ∀ asked given, lastOPT request.extra = some asked → lastOPT response.extra = some given →
    headerVersion given.hdr ≤ headerVersion asked.hdr

variable {rs : Msg}

lemma suitsRequest_of_none {r : Msg} (h : lastOPT rs.extra = none) : SuitsRequest r rs := by
  refine ⟨fun _ => lastOPT_eq_none.mp h,fun a g _ hg => ?_⟩
  rw [h] at hg
  cases hg

lemma suitsRequest_congr {r response' : Msg} (h : SuitsRequest r rs)
    (heq : lastOPT response'.extra = lastOPT rs.extra) : SuitsRequest r response' := by
  refine ⟨fun hn => lastOPT_eq_none.mp ?_,fun a g ha hg => h.2 a g ha (heq ▸ hg)⟩
  rw [heq]
  exact lastOPT_eq_none.mpr (h.1 hn)

lemma lastOPT_filter (rc : List RR) : lastOPT (rc.filter fun it => !isOPT it) = none := by
  rw [lastOPT_eq_none]
  intro r hm
  simpa using (mem_filter.mp hm).2

include l

lemma suitsRequest_adjustEDNS (m rs : Msg) : SuitsRequest m (adjustEDNS ops m rs) := by
  unfold adjustEDNS
  rw [l.isEdns0,l.isEdns0]
  split
  · rename_i hr
    exact suitsRequest_of_none hr
  · exact suitsRequest_of_none (lastOPT_filter _)
  · rename_i g a hg ha
    split
    · obtain ⟨r,ho,hv,heq⟩ := l.setEdns0
        { rs with extra := rs.extra.filter fun it => !isOPT it } (ops.udpSize g) (ops.dnssecOk g)
      rw [heq]
      refine ⟨fun hn => ?_,fun a' g' _ hg' => ?_⟩
      · rw [ha] at hn
        cases hn
      · dsimp only at hg'
        rw [lastOPT_concat,if_pos ho] at hg'
        cases hg'
        omega
    · rename_i hv
      rw [l.version,l.version,not_lt] at hv
      refine ⟨fun hn => ?_,fun a' g' ha' hg' => ?_⟩
      · rw [ha] at hn
        cases hn
      · rw [ha] at ha'
        rw [hg] at hg'
        cases ha'
        cases hg'
        exact hv

lemma lastOPT_adjustEDNS_of_none {m : Msg} (h : lastOPT rs.extra = none) :
    lastOPT (adjustEDNS ops m rs).extra = none := by
  unfold adjustEDNS
  rw [l.isEdns0,h]
  exact h

end

section
variable {μ ν ρ : Type} {c : Client μ ν ρ}

@[simp] lemma lastOPT_applied (f : Fetch) : lastOPT f.applied.extra = lastOPT f.upstream.extra := by
  simp only [Fetch.applied,applyResponseOptions,normalizeTTL,lastOPT_map_setTTL]
  split_ifs <;> rfl

@[simp] lemma lastOPT_atTTL (response : Msg) (t : Option ℕ) :
    lastOPT (atTTL response t).extra = lastOPT response.extra := by
  cases t with
  | none => rfl
  | some n => exact lastOPT_map_setTTL n response.extra

variable {response : Msg}

lemma suitsRequest_of_prepared {m : Msg} {os : DNSQueryOptions}
    (h : SuitsRequest (prepareExchangeMessage c m os) response)
    (ha : (lastOPT m.extra).isSome = true) : SuitsRequest m response := by
  have hp : prepareExchangeMessage c m os = m ∨ ∃ cs, prepareExchangeMessage c m os = setClientSubnet m cs := by
    simp only [prepareExchangeMessage]
    split_ifs
    · exact Or.inr ⟨_,rfl⟩
    · exact Or.inr ⟨_,rfl⟩
    · exact Or.inl rfl
  rcases hp with heq | ⟨cs,heq⟩
  · rwa [heq] at h
  rw [heq] at h
  obtain ⟨a,ha⟩ := Option.isSome_iff_exists.mp ha
  refine ⟨fun hn => ?_,fun a' g ha' hg => ?_⟩
  · rw [ha] at hn
    cases hn
  rw [ha] at ha'
  cases ha'
  rcases lastOPT_setClientSubnet m cs with hs | ⟨r,hr,hv⟩
  · rw [ha,Option.map_some,Option.map_eq_some_iff] at hs
    obtain ⟨s,hsn,hh⟩ := hs
    have hle := h.2 s g hsn hg
    rwa [hh] at hle
  · have hle := h.2 r g hr hg
    omega

/-- A response suits the requests it goes to: one that comes from the network, where a client subnet has
added an OPT record, and one out of the cache. -/
def EdnsSafe (c : Client μ ν ρ) (x : Ledgered μ ν ρ) : Input → Prop
  | .answerExchange i answer => ∀ flight response, x.system.exchanges[i]? = some flight →
      exchangeToTransport flight.message answer = .ok response →
      (lastOPT flight.query.message.extra).isSome = true ∨ flight.message = flight.query.message ∨
        lastOPT response.extra = none
  | .exchange q => disablesCache c q = false → ∀ f time, .stored f time ∈ x.ledger → f.For q →
      SuitsRequest q.message f.upstream
  | _ => True

lemma finishExchange_suitsRequest (lw : EdnsLaws c.ops) {s : ClientState μ ν ρ} {f : Flight}
    {a : Answer} (hsn : f.Sent c) (h : (finishExchange c s f a).2 = .ok response)
    (hs : ∀ u, exchangeToTransport f.message a = .ok u →
      (lastOPT f.query.message.extra).isSome = true ∨ f.message = f.query.message ∨
        lastOPT u.extra = none) : SuitsRequest f.query.message response := by
  obtain ⟨u,hu,_,rfl⟩ := finishExchange_ok h
  have ha := suitsRequest_adjustEDNS lw f.message
    { (f.fetch u).applied with id := f.message.id }
  rcases hs u hu with had | hsm | hn
  · obtain ⟨q,hh,heq⟩ := hsn
    have hm : f.message = prepareExchangeMessage c f.query.message f.query.options := by
      rw [heq]
      rfl
    rw [hm] at ha ⊢
    exact suitsRequest_of_prepared ha had
  · rwa [hsm] at ha ⊢
  · refine suitsRequest_of_none (lastOPT_adjustEDNS_of_none lw ?_)
    rw [lastOPT_applied]
    exact hn

/-- Over every history in which no OPT record reaches a caller through an added client subnet or out of
the cache of another call: every response that `Exchange` returns suits its request. -/
theorem exchange_suits_request (c : Client μ ν ρ) (laws : EdnsLaws c.ops) (history : List ClientEvent)
    (x : Ledgered μ ν ρ) (h : LedgerHistory c (EdnsSafe c) history x) :
    ∀ event ∈ history, ∀ q response, event.returned = some (.exchange q (.ok response)) →
      SuitsRequest q.message response := by
  intro event hm q response hrt
  obtain ⟨b,af,hsp⟩ := append_of_mem hm
  obtain ⟨y,ip,hb,ha,rfl⟩ := h.exists_input hsp hrt
  cases systemStep_returned.1 q _ hrt with
  | begun hbg =>
    rcases beginExchange_ok hbg with hfx | ⟨l,hht,rfl⟩
    · apply suitsRequest_of_none
      rcases hfx with ⟨_,rfl⟩ | ⟨_,_,_,rfl⟩ <;> rfl
    · obtain ⟨qs,hh,_,hc,hl,_⟩ := exchangeHit_eq_some hht
      obtain ⟨f,hf⟩ := hb.kept.loadResponse hl
      obtain ⟨t,hs⟩ := hf.stored
      obtain ⟨tl,hr,_⟩ := hf.response
      apply suitsRequest_congr (ha hc f t hs (Fetch.for_of_storeKey hh hf.key_eq))
      simp [hr]
  | finished i a fl hfl hq hfn =>
    subst hq
    exact finishExchange_suitsRequest laws (hb.waiting.1 fl (mem_of_getElem? hfl)) hfn
      fun u hu => ha fl u hfl hu

end

def ednsOps : MsgOps :=
  { plainOps with
    isEdns0 message := lastOPT message.extra
    version record := headerVersion record.hdr
    udpSize record := record.hdr.cls
    dnssecOk record := record.hdr.ttl/32768%2 == 1
    setEdns0 message udpSize dnssecOk :=
      { message with
        extra := message.extra++[⟨⟨".",typeOPT,udpSize,if dnssecOk then 32768 else 0⟩,.opt []⟩] } }

lemma ednsLaws_ednsOps : EdnsLaws ednsOps where
  isEdns0 _ := rfl
  version _ := rfl
  setEdns0 message udpSize dnssecOk := by
    refine ⟨⟨⟨".",typeOPT,udpSize,if dnssecOk then 32768 else 0⟩,.opt []⟩,rfl,?_,rfl⟩
    cases dnssecOk with
    | false | true => simp [headerVersion]

def ednsClient (clientSubnet : Prefix) : Client (CacheKey → Option (Msg × ℕ))
    (StoreKey → Option (List UInt8 × ℕ)) (StoreKey → Option Unit) :=
  { plainClient with ops := ednsOps, clientSubnet := clientSubnet }

def plainOPT : RR := ⟨⟨".",typeOPT,1232,0⟩,.opt []⟩

def ednsQuery : Query :=
  { addressQuery {} none with message := { (addressQuery {} none).message with extra := [plainOPT] } }

def ednsReply : Msg := { addressReply [10,0,0,1] with extra := [plainOPT] }

/-- A request with an OPT record that is answered with one. -/
theorem exchange_suits_request_edns :
    let c := ednsClient ⟨.invalid,0⟩
    let run := runInputs c (initialSystem c 0) [.exchange ednsQuery,.answerExchange 0 (.response ednsReply)]
    run.2[1]?.bind ClientEvent.returned = some (.exchange ednsQuery (.ok ednsReply)) ∧
      SuitsRequest ednsQuery.message ednsReply := by
  have ha : Run.Along (ledgerStep (ednsClient ⟨.invalid,0⟩)) (EdnsSafe (ednsClient ⟨.invalid,0⟩))
      ⟨initialSystem (ednsClient ⟨.invalid,0⟩) 0,[]⟩
      [.exchange ednsQuery,.answerExchange 0 (.response ednsReply)] := by
    refine ⟨fun _ f t hm => (by cases hm),fun fl response hf _ => ?_,trivial⟩
    cases hf
    exact Or.inl rfl
  refine ⟨rfl,?_⟩
  exact exchange_suits_request _ ednsLaws_ednsOps _ _ (ledgerHistory_runInputs _ ha) _
    (mem_of_getElem? (i := 1) rfl) ednsQuery ednsReply rfl

/-- OPT records that reach callers who sent none: out of the cache, and through an added subnet. -/
theorem exchange_returns_unasked_opt :
    let unasked (c : Client (CacheKey → Option (Msg × ℕ)) (StoreKey → Option (List UInt8 × ℕ))
        (StoreKey → Option Unit)) (inputs : List Input) (q : Query) : Prop :=
      let run := runInputs c (initialSystem c 0) inputs
      ClientHistory c run.2 run.1 ∧ EdnsLaws c.ops ∧
        ∃ response, some (.exchange q (.ok response)) ∈ run.2.map ClientEvent.returned ∧
          q.message.extra = [] ∧ response.extra = [plainOPT]
    unasked (ednsClient ⟨.invalid,0⟩)
      [.exchange ednsQuery,.answerExchange 0 (.response ednsReply),.exchange (addressQuery {} none)]
      (addressQuery {} none) ∧
    unasked (ednsClient ⟨.v4 0xc0000200#32,24⟩)
      [.exchange (addressQuery {} none),.answerExchange 0 (.response ednsReply)] (addressQuery {} none) := by
  refine ⟨⟨clientHistory_runInputs _ _,ednsLaws_ednsOps,ednsReply,?_,rfl,rfl⟩,
    ⟨clientHistory_runInputs _ _,ednsLaws_ednsOps,ednsReply,?_,rfl,rfl⟩⟩
  · exact mem_of_getElem? (i := 2) rfl
  · exact mem_of_getElem? (i := 1) rfl

end SingBox.DNS
