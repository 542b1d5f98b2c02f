import SingBox.DNS.ExchangeCases

/-! Histories of the DNS client with a ledger of everything it wrote: whatever a store holds stands in
the ledger, under the call or refresh that wrote it. -/
namespace SingBox.DNS
open List

/-- The checker of the call that fetched the response, if any, accepts it. -/
def Fetch.Accepted (f : Fetch) : Prop := checkRejects f.responseChecker f.upstream = false

def Fetch.lifetime (f : Fetch) : ℕ := (applyResponseOptions f.question f.upstream f.options).2

inductive Write
  | stored (f : Fetch) (time : ℕ)
  | rejected (f : Fetch)

section
variable {μ ν ρ : Type} (c : Client μ ν ρ)

def Write.apply (s : ClientState μ ν ρ) : Write → ClientState μ ν ρ
  | .stored f _ => storeCache c s f.key f.applied f.lifetime
  | .rejected f => saveRDRC c s f.key

/-- What `Exchange` writes when the transport answers. -/
def Flight.write (flight : Flight) (now : ℕ) (answer : Answer) : Option Write :=
  match exchangeToTransport flight.message answer with
  | .error _ => none
  | .ok response =>
      if flight.disableCache || !usableRcode response then none
      else if checkRejects flight.query.responseChecker response then some (.rejected (flight.fetch response))
      else some (.stored (flight.fetch response) now)

def Refresh.write (refresh : Refresh) (now : ℕ) (answer : Answer) : Option Write :=
  match exchangeToTransport refresh.message answer with
  | .error _ => none
  | .ok response =>
      if checkRejects refresh.responseChecker response then some (.rejected (refresh.fetch response))
      else if refresh.responseChecker.isNone && !usableRcode response then none
      else some (.stored (refresh.fetch response) now)

def written (s : ClientState μ ν ρ) (write : Option Write) : ClientState μ ν ρ := write.elim s (Write.apply c s)

variable (s : ClientState μ ν ρ)

lemma written_backgroundRefresh (wr : Option Write) : (written c s wr).backgroundRefresh = s.backgroundRefresh := by
  cases wr with
  | none => rfl
  | some w =>
    cases w with
    | rejected =>
      simp only [written,Option.elim_some,Write.apply,saveRDRC]
      split_ifs <;> rfl
    | stored f =>
      simp only [written,Option.elim_some,Write.apply,storeCache]
      split_ifs
      · rfl
      · cases c.ops.pack f.applied <;> rfl
      all_goals rfl

lemma finishExchange_state (f : Flight) (a : Answer) : (finishExchange c s f a).1 = written c s (f.write s.now a) := by
  simp only [finishExchange,Flight.write]
  cases exchangeToTransport f.message a with
  | error => rfl
  | ok rs =>
    dsimp only
    cases f.disableCache || !usableRcode rs with
    | true | false => split_ifs <;> rfl

lemma finishRefresh_state (r : Refresh) (a : Answer) : finishRefresh c s r a = written c s (r.write s.now a) := by
  simp only [finishRefresh,Refresh.write]
  cases exchangeToTransport r.message a with
  | error => rfl
  | ok =>
    dsimp only
    split_ifs <;> rfl

def Input.write (s : ClientSystem μ ν ρ) : Input → Option Write
  | .answerExchange i answer => s.exchanges[i]?.bind fun flight => flight.write s.client.now answer
  | .answerLookup i answer => s.lookups[i]?.bind fun flight => flight.write s.client.now answer
  | .answerRefresh i answer => s.client.backgroundRefresh[i]?.bind fun refresh => refresh.write s.client.now answer
  | _ => none

lemma systemStep_forgets (s : ClientSystem μ ν ρ) (it : Input) :
    Forgets c (written c s.client (it.write s)) (systemStep c s it).1.client := by
  have hm := systemStep_cases c s it
  generalize systemStep c s it = m at hm ⊢
  cases hm with
  | exchanged q cl result hb | exchangeSent q cl f hb =>
    have hf := beginExchange_forgets (c := c) s.client q
    rwa [hb] at hf
  | lookedUp t n qt os rc ct q cl result hq hb
  | lookupSent t n qt os rc ct q cl f hq hb =>
    have hf := beginLookup_forgets (c := c) s.client q ⟨n,qt,classINET⟩
    rwa [hb] at hf
  | exchangeAnswered i a f hfl | lookupAnswered i a f hfl =>
    rw [Input.write,hfl,Option.bind_some,← finishExchange_state]
    exact .refl _
  | refreshAnswered i a r hr =>
    rw [Input.write,hr,Option.bind_some,← finishRefresh_state]
    exact ⟨fun _ _ h => h,fun _ _ h => h,rfl,le_rfl⟩
  | noExchange i a hn | noLookup i a hn | noRefresh i a hn =>
    rw [Input.write,hn]
    exact .refl _
  | advanced => exact ⟨fun _ _ h => h,fun _ _ h => h,rfl,Nat.le_add_right _ _⟩
  | cleared => exact clearCache_forgets s.client

end

section
variable {μ ν ρ : Type} {c : Client μ ν ρ} {s : ClientSystem μ ν ρ}

def Write.fetch : Write → Fetch
  | .stored f _ => f
  | .rejected f => f

variable {now : ℕ} {w : Write}

lemma Flight.write_cases {f : Flight} {a : Answer} (h : f.write now a = some w) :
    ∃ rs, exchangeToTransport f.message a = .ok rs ∧ f.disableCache = false ∧
      usableRcode rs = true ∧ w.fetch = f.fetch rs ∧
      (w = .stored (f.fetch rs) now ∧ checkRejects f.query.responseChecker rs = false ∨
        w = .rejected (f.fetch rs) ∧ checkRejects f.query.responseChecker rs = true) := by
  unfold Flight.write at h
  cases ha : exchangeToTransport f.message a with
  | error => simp [ha] at h
  | ok rs =>
    simp only [ha] at h
    split_ifs at h with hc hr
    · cases h
      simp only [Bool.or_eq_true,Bool.not_eq_true',not_or,Bool.not_eq_true,Bool.not_eq_false] at hc
      exact ⟨rs,rfl,hc.1,hc.2,rfl,Or.inr ⟨rfl,hr⟩⟩
    · cases h
      simp only [Bool.or_eq_true,Bool.not_eq_true',not_or,Bool.not_eq_true,Bool.not_eq_false] at hc
      exact ⟨rs,rfl,hc.1,hc.2,rfl,Or.inl ⟨rfl,Bool.eq_false_iff.mpr hr⟩⟩

lemma Refresh.write_cases {r : Refresh} {a : Answer} (h : r.write now a = some w) :
    ∃ rs, exchangeToTransport r.message a = .ok rs ∧ w.fetch = r.fetch rs ∧
      (w = .stored (r.fetch rs) now ∧ checkRejects r.responseChecker rs = false ∨
        w = .rejected (r.fetch rs) ∧ checkRejects r.responseChecker rs = true) := by
  unfold Refresh.write at h
  cases ha : exchangeToTransport r.message a with
  | error => simp [ha] at h
  | ok rs =>
    simp only [ha] at h
    split_ifs at h with hr hu
    · cases h
      exact ⟨rs,rfl,rfl,Or.inr ⟨rfl,hr⟩⟩
    · cases h
      exact ⟨rs,rfl,rfl,Or.inl ⟨rfl,Bool.eq_false_iff.mpr hr⟩⟩

inductive WrittenFor (s : ClientSystem μ ν ρ) (w : Write) : Input → Prop
  | exchange (i : ℕ) (answer : Answer) (flight : Flight) (hflight : s.exchanges[i]? = some flight)
      (h : flight.write s.client.now answer = some w) : WrittenFor s w (.answerExchange i answer)
  | lookup (i : ℕ) (answer : Answer) (flight : Flight) (hflight : s.lookups[i]? = some flight)
      (h : flight.write s.client.now answer = some w) : WrittenFor s w (.answerLookup i answer)
  | refresh (i : ℕ) (answer : Answer) (refresh : Refresh)
      (hrefresh : s.client.backgroundRefresh[i]? = some refresh)
      (h : refresh.write s.client.now answer = some w) : WrittenFor s w (.answerRefresh i answer)

variable {ip : Input}

lemma Input.write_cases (h : ip.write s = some w) : WrittenFor s w ip := by
  cases ip with
  | exchange q | lookup transport name qType options responseChecker contextTransport | advance duration
  | clearCache => cases h
  | answerExchange i a =>
    obtain ⟨f,hf,hw⟩ := Option.bind_eq_some_iff.mp h
    exact .exchange i a f hf hw
  | answerLookup i a =>
    obtain ⟨f,hf,hw⟩ := Option.bind_eq_some_iff.mp h
    exact .lookup i a f hf hw
  | answerRefresh i a =>
    obtain ⟨r,hr,hw⟩ := Option.bind_eq_some_iff.mp h
    exact .refresh i a r hr hw

lemma Input.write_accepted {f : Fetch} {t : ℕ} (h : ip.write s = some (.stored f t)) : f.Accepted := by
  cases Input.write_cases h with
  | exchange i a flight _ hw | lookup i a flight _ hw =>
    obtain ⟨rs,_,_,_,_,⟨heq,ha⟩ | ⟨heq,_⟩⟩ := Flight.write_cases hw
    · cases heq
      exact ha
    · cases heq
  | refresh i a r _ hw =>
    obtain ⟨rs,_,_,⟨heq,ha⟩ | ⟨heq,_⟩⟩ := Refresh.write_cases hw
    · cases heq
      exact ha
    · cases heq

lemma Write.time_eq {f : Fetch} {a r : Prop} (h : w = .stored f now ∧ a ∨ w = .rejected f ∧ r) {f' : Fetch} {t : ℕ}
    (hw : w = .stored f' t) : t = now := by
  subst hw
  rcases h with ⟨heq,_⟩ | ⟨heq,_⟩
  · exact (Write.stored.inj heq).2
  · cases heq

lemma Input.write_fetched (h : ip.write s = some w) :
    (systemStep c s ip).2.fetched = some w.fetch ∧ ∀ f t, w = .stored f t → t = s.client.now := by
  cases Input.write_cases h with
  | exchange i a flight hfl hwr | lookup i a flight hfl hwr =>
    obtain ⟨rs,ha,_,_,hf,hk⟩ := Flight.write_cases hwr
    refine ⟨?_,fun f t hw => Write.time_eq hk hw⟩
    simp only [systemStep,hfl,upstreamOf,ha,hf]
    rfl
  | refresh i a r hr hwr =>
    obtain ⟨rs,ha,hf,hk⟩ := Refresh.write_cases hwr
    refine ⟨?_,fun f t hw => Write.time_eq hk hw⟩
    simp only [systemStep,hr,upstreamOf,ha,hf]
    rfl

end

section
variable {μ ν ρ : Type} (c : Client μ ν ρ)

structure Ledgered (μ ν ρ : Type) where
  system : ClientSystem μ ν ρ
  ledger : List Write

/-- An expiry as it was stored, or rounded down to the second that the cache file keeps. -/
def Expires (expireAt time lifetime : ℕ) : Prop :=
  expireAt = time+second*lifetime ∨ expireAt = (time+second*lifetime)/second*second

def MemoryEntry (ledger : List Write) (key : CacheKey) (entry : Msg × ℕ) : Prop :=
  ∃ f time, .stored f time ∈ ledger ∧ f.key = key ∧ entry.1 = f.applied ∧
    (c.disableExpire = false → entry.2 = time+second*f.lifetime)

def FileEntry (ledger : List Write) (key : StoreKey) (entry : List UInt8 × ℕ) : Prop :=
  ∃ f time, .stored f time ∈ ledger ∧ f.key.storeKey = key ∧ c.ops.pack f.applied = some entry.1 ∧
    Expires entry.2 time f.lifetime

def RejectedEntry (ledger : List Write) (key : StoreKey) : Prop := ∃ f, .rejected f ∈ ledger ∧ f.key.storeKey = key

/-- Maintenance of the stores. The memory cache forgets; the cache file shows any entries that were
saved at some time, since its writes are asynchronous and may fail. -/
structure Recalls (ledger : List Write) (before after : ClientState μ ν ρ) : Prop where
  cache : ∀ key entry, c.memory.lookup after.cache key = some entry → c.memory.lookup before.cache key = some entry
  dnsCache : c.store.All (FileEntry c ledger) after.dnsCache
  rdrc : c.rejections.All (fun key _ => RejectedEntry ledger key) after.rdrc
  now : after.now = before.now
  backgroundRefresh : after.backgroundRefresh = before.backgroundRefresh

/-- Steps with the ledger, for inputs that are allowed where they come. -/
inductive LedgerStep (allowed : Ledgered μ ν ρ → Input → Prop) :
    Ledgered μ ν ρ → ClientEvent → Ledgered μ ν ρ → Prop
  | input (x : Ledgered μ ν ρ) (input : Input) : allowed x input → LedgerStep allowed x
      (systemStep c x.system input).2
      ⟨(systemStep c x.system input).1,x.ledger++(input.write x.system).toList⟩
  | maintenance {x : Ledgered μ ν ρ} {client : ClientState μ ν ρ} : Recalls c x.ledger x.system.client client →
      LedgerStep allowed x {} ⟨{ x.system with client := client },x.ledger⟩

/-- A history with its ledger, from empty stores. -/
def LedgerHistory (allowed : Ledgered μ ν ρ → Input → Prop) (history : List ClientEvent)
    (x : Ledgered μ ν ρ) : Prop :=
  ∃ now, Run (LedgerStep c allowed) ⟨initialSystem c now,[]⟩ history x

/-- What the stores hold is in the ledger, and what is in the ledger was fetched. -/
structure Kept (history : List ClientEvent) (ledger : List Write) (s : ClientState μ ν ρ) : Prop where
  cache : c.memory.All (MemoryEntry c ledger) s.cache
  dnsCache : c.store.All (FileEntry c ledger) s.dnsCache
  rdrc : c.rejections.All (fun key _ => RejectedEntry ledger key) s.rdrc
  fetched : ∀ w ∈ ledger, w.fetch ∈ fetches history
  time : ∀ f time, .stored f time ∈ ledger → time ≤ s.now

variable {c} {hi : List ClientEvent} {l ld' : List Write} {s s' : ClientState μ ν ρ}

section
variable (hs : l ⊆ ld')
include hs

lemma MemoryEntry.mono {key : CacheKey} {e : Msg × ℕ} (h : MemoryEntry c l key e) : MemoryEntry c ld' key e := by
  obtain ⟨f,t,hm,hr⟩ := h
  exact ⟨f,t,hs hm,hr⟩

lemma FileEntry.mono {key : StoreKey} {e : List UInt8 × ℕ} (h : FileEntry c l key e) : FileEntry c ld' key e := by
  obtain ⟨f,t,hm,hr⟩ := h
  exact ⟨f,t,hs hm,hr⟩

lemma RejectedEntry.mono {key : StoreKey} (h : RejectedEntry l key) : RejectedEntry ld' key := by
  obtain ⟨f,hm,hr⟩ := h
  exact ⟨f,hs hm,hr⟩

end

section
variable (h : Kept c hi l s)
include h

lemma Kept.append (e : ClientEvent) : Kept c (hi++[e]) l s :=
  { h with fetched := fun w hw => mem_fetches_append_left (h.fetched w hw) e }

lemma Kept.forgets (hf : Forgets c s s') : Kept c hi l s' where
  cache key entry hk := h.cache key entry (hf.cache key entry hk)
  dnsCache key entry hk := h.dnsCache key entry (hf.dnsCache key entry hk)
  rdrc := by
    rw [hf.rdrc]
    exact h.rdrc
  fetched := h.fetched
  time f time hm := (h.time f time hm).trans hf.now

lemma Kept.recalls (hr : Recalls c l s s') : Kept c hi l s' where
  cache key entry hk := h.cache key entry (hr.cache key entry hk)
  dnsCache := hr.dnsCache
  rdrc := hr.rdrc
  fetched := h.fetched
  time f time hm := by
    rw [hr.now]
    exact h.time f time hm

lemma Kept.extend {w : Write} (hw : w.fetch ∈ fetches hi)
    (ht : ∀ f time, w = .stored f time → time = s.now) : Kept c hi (l++[w]) s where
  cache := h.cache.mono fun _ _ => MemoryEntry.mono (subset_append_left _ _)
  dnsCache := h.dnsCache.mono fun _ _ => FileEntry.mono (subset_append_left _ _)
  rdrc := h.rdrc.mono fun _ _ => RejectedEntry.mono (subset_append_left _ _)
  fetched w' hm := by
    rcases mem_append.mp hm with hm | hm
    · exact h.fetched w' hm
    · rw [mem_singleton.mp hm]
      exact hw
  time f time hm := by
    rcases mem_append.mp hm with hm | hm
    · exact h.time f time hm
    · exact (ht f time (mem_singleton.mp hm).symm).le

lemma Kept.apply {w : Write} (hw : w ∈ l) (ht : ∀ f t, w = .stored f t → t = s.now) : Kept c hi l (w.apply c s) := by
  cases w with
  | rejected f =>
    simp only [Write.apply,saveRDRC]
    split_ifs
    · exact { h with rdrc := h.rdrc.insert ⟨f,hw,rfl⟩ }
    · exact h
  | stored f t =>
    obtain rfl := ht f t rfl
    simp only [Write.apply,storeCache]
    split_ifs with hl hpr hd he
    · exact h
    · cases hp : c.ops.pack f.applied with
      | none => exact h
      | some => exact { h with dnsCache := h.dnsCache.insert ⟨f,s.now,hw,rfl,hp,Or.inl rfl⟩ }
    · exact h
    · refine { h with cache := h.cache.insert ⟨f,s.now,hw,rfl,rfl,fun hf => ?_⟩ }
      rw [he] at hf
      cases hf
    · exact { h with cache := h.cache.insert ⟨f,s.now,hw,rfl,rfl,fun _ => rfl⟩ }

end

variable {a : Ledgered μ ν ρ → Input → Prop} {x : Ledgered μ ν ρ}

lemma LedgerStep.kept {x' : Ledgered μ ν ρ} {e : ClientEvent} (hst : LedgerStep c a x e x')
    (h : Kept c hi x.ledger x.system.client) : Kept c (hi++[e]) x'.ledger x'.system.client := by
  cases hst with
  | maintenance hr => exact (h.recalls hr).append _
  | input i =>
    have hf := systemStep_forgets c x.system i
    cases hw : i.write x.system with
    | none =>
      rw [hw] at hf
      rw [Option.toList_none,append_nil]
      exact (h.append _).forgets hf
    | some =>
      obtain ⟨hft,ht⟩ := Input.write_fetched hw
      rw [hw] at hf
      have he := (h.append (systemStep c x.system i).2).extend (mem_fetches_concat hft) ht
      exact (he.apply (mem_append_right _ (mem_singleton.mpr rfl)) ht).forgets hf

lemma Kept.initial (now : ℕ) : Kept c [] [] (initialSystem c now).client where
  cache := EvictingMap.All.empty
  dnsCache := EvictingMap.All.empty
  rdrc := EvictingMap.All.empty
  fetched _ hw := by cases hw
  time _ _ hm := by cases hm

section
variable (h : LedgerHistory c a hi x)
include h

lemma LedgerHistory.kept : Kept c hi x.ledger x.system.client := by
  obtain ⟨now,hr⟩ := h
  exact hr.invariant (I := fun hi x => Kept c hi x.ledger x.system.client)
    (.initial now) fun _ _ _ _ hI hst => hst.kept hI

/-- What holds of every write that is allowed holds of the ledger. -/
lemma LedgerHistory.forall_writes {P : Write → Prop}
    (hw : ∀ x i w, a x i → i.write x.system = some w → P w) : ∀ w ∈ x.ledger, P w := by
  obtain ⟨now,hr⟩ := h
  refine hr.invariant (I := fun _ x => ∀ w ∈ x.ledger, P w) (fun w hm => by cases hm)
    fun _ x _ _ hI hst w hm => ?_
  cases hst with
  | maintenance => exact hI w hm
  | input i ha =>
    rcases mem_append.mp hm with hm | hm
    · exact hI w hm
    · exact hw x i w ha (Option.mem_toList.mp hm)

lemma LedgerHistory.accepted (f : Fetch) (t : ℕ) (hm : .stored f t ∈ x.ledger) : f.Accepted := by
  refine h.forall_writes (P := fun w => ∀ f t, w = .stored f t → f.Accepted) ?_ _ hm f t rfl
  rintro x i w _ hw f t rfl
  exact Input.write_accepted hw

end

lemma Kept.recalls_of_maintained (h : Kept c hi l s) (hm : Maintained c s s') : Recalls c l s s' := by
  obtain ⟨hc,hs,hrd,hn,hrf⟩ := hm
  refine ⟨hc,fun key e hk => ?_,fun key e hk => h.rdrc key e (hrd key e hk),hn,hrf⟩
  obtain ⟨ex,hb,hex⟩ := hs key e.1 e.2 hk
  obtain ⟨f,t,hmm,hke,hp,he⟩ := h.dnsCache _ _ hb
  refine ⟨f,t,hmm,hke,hp,?_⟩
  rcases hex with hsm | hr
  · rw [hsm]
    exact he
  · rcases he with heq | heq
    · exact Or.inr (heq ▸ hr)
    · right
      have hrn : ex/second*second = ex := by
        have hh : ex = (t+second*f.lifetime)/second*second := heq
        rw [hh,Nat.mul_div_cancel _ (by decide)]
      rw [hr,hrn]
      exact heq

lemma ClientHistory.ledgered {s : ClientSystem μ ν ρ} (h : ClientHistory c hi s) :
    ∃ l, LedgerHistory c (fun _ _ => True) hi ⟨s,l⟩ := by
  obtain ⟨now,hr⟩ := h
  refine hr.invariant (I := fun hi s => ∃ l, LedgerHistory c (fun _ _ => True) hi ⟨s,l⟩)
    ⟨[],now,.nil⟩ fun hi s e s' hI hst => ?_
  obtain ⟨l,hl⟩ := hI
  obtain ⟨now,hr⟩ := hl
  cases hst with
  | input i => exact ⟨_,now,hr.snoc (.input ⟨s,l⟩ i trivial)⟩
  | maintenance hm =>
    have hk : Kept c hi l s.client := LedgerHistory.kept ⟨now,hr⟩
    exact ⟨l,now,hr.snoc (.maintenance (hk.recalls_of_maintained hm))⟩

end

variable {μ ν ρ : Type} {c : Client μ ν ρ} {hi : List ClientEvent} {ledger : List Write}
  {s : ClientState μ ν ρ}

def atTTL (response : Msg) : Option ℕ → Msg
  | none => response
  | some timeToLive => normalizeTTL response timeToLive

/-- The loaded entry is the one that was stored for `f`, aged. -/
structure LoadedBy (c : Client μ ν ρ) (ledger : List Write) (key : CacheKey) (loaded : Loaded) (f : Fetch) :
    Prop where
  stored : ∃ time, .stored f time ∈ ledger
  key_eq : f.key.storeKey = key.storeKey
  memory : c.persistent = false → f.key = key
  response : ∃ timeToLive, loaded.response = atTTL f.applied timeToLive ∧
    ∀ n, timeToLive = some n → n ≤ f.lifetime ∨ loaded.isStale = true ∧ n = 1

variable {ea : ℕ} {ld : Loaded} {r : Msg}

lemma ageResponse_response {now : ℕ} (h : ageResponse c now ea r = some ld) : ∃ tt, ld.response = atTTL r tt := by
  simp only [ageResponse] at h
  split_ifs at h
  · cases h
    exact ⟨some 1,rfl⟩
  · cases h
    exact ⟨some ((ea-now)/second),rfl⟩

lemma Expires.le {t l : ℕ} (h : Expires ea t l) : ea ≤ t+second*l := by
  rcases h with heq | heq
  · exact heq.le
  · rw [heq]
    exact Nat.div_mul_le_self _ _

variable {key : CacheKey} (h : Kept c hi ledger s)
include h

lemma Kept.found (hfn : Found c s key r ea) : ∃ f t, .stored f t ∈ ledger ∧ f.key.storeKey = key.storeKey ∧
      (c.persistent = false → f.key = key) ∧ r = f.applied ∧ (c.disableExpire = false → ea ≤ t+second*f.lifetime) := by
  cases hfn with
  | file hpr hl hu =>
    obtain ⟨f,t,hm,hk,hp,he⟩ := h.dnsCache _ _ hl
    refine ⟨f,t,hm,hk,fun hf => ?_,?_,fun _ => he.le⟩
    · rw [hpr] at hf
      cases hf
    · exact Option.some.inj (hu.symm.trans (c.ops.unpack_pack _ _ hp))
  | memory _ hl =>
    obtain ⟨f,t,hm,hk,hr,hex⟩ := h.cache _ _ hl
    exact ⟨f,t,hm,congrArg CacheKey.storeKey hk,fun _ => hk,hr,fun hd => (hex hd).le⟩

lemma Kept.loadResponse (hl : (loadResponse c s key).2 = some ld) : ∃ f, LoadedBy c ledger key ld f := by
  obtain ⟨r,ea,hf,hc⟩ := loadResponse_found hl
  obtain ⟨f,t,hmm,hk,hm,rfl,he⟩ := h.found hf
  refine ⟨f,⟨t,hmm⟩,hk,hm,?_⟩
  rcases hc with ⟨_,rfl⟩ | ⟨hd,ha⟩
  · exact ⟨none,rfl,fun _ hn => by cases hn⟩
  · have he := he hd
    have ht := h.time f t hmm
    simp only [ageResponse] at ha
    split_ifs at ha
    · cases ha
      exact ⟨some 1,rfl,fun n hn => Or.inr ⟨rfl,(Option.some.inj hn).symm⟩⟩
    · cases ha
      refine ⟨some ((ea-s.now)/second),rfl,fun n hn => Or.inl ?_⟩
      rw [← Option.some.inj hn]
      apply Nat.div_le_of_le_mul
      omega

end SingBox.DNS
