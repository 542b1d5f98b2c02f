import SingBox.DNS.ClientRun

/-! What the first half of `Exchange` and of a lookup can do, case by case, and when the cache answers. -/
namespace SingBox.DNS
open Adapter

section
variable {μ ν ρ : Type} {c : Client μ ν ρ} {s : ClientState μ ν ρ} {key : CacheKey}

inductive Found (c : Client μ ν ρ) (s : ClientState μ ν ρ) (key : CacheKey) (response : Msg) (expireAt : ℕ) : Prop
  | file {rawMessage : List UInt8} (hpersistent : c.persistent = true)
      (hlookup : c.store.lookup s.dnsCache key.storeKey = some (rawMessage,expireAt))
      (hunpack : c.ops.unpack rawMessage = some response)
  | memory (hpersistent : c.persistent = false)
      (hlookup : c.memory.lookup s.cache key = some (response,expireAt))

lemma loadResponse_found {l : Loaded} (h : (loadResponse c s key).2 = some l) :
    ∃ r ea, Found c s key r ea ∧ (c.disableExpire = true ∧ l = ⟨r,0,false⟩ ∨
        c.disableExpire = false ∧ ageResponse c s.now ea r = some l) := by
  unfold loadResponse at h
  split at h
  · rename_i hp
    unfold loadPersistentResponse at h
    split at h
    · cases h
    · rename_i rm ea hl
      split at h
      · cases h
      · rename_i r hu
        refine ⟨r,ea,.file hp hl hu,?_⟩
        split_ifs at h with hd
        · cases h
          exact Or.inl ⟨hd,rfl⟩
        · exact Or.inr ⟨Bool.eq_false_iff.mpr hd,h⟩
  · rename_i hp
    split at h
    · cases h
    · split at h
      · cases h
      · rename_i r ea hl
        refine ⟨r,ea,.memory (Bool.eq_false_iff.mpr hp) hl,?_⟩
        split_ifs at h with hd
        · cases h
          exact Or.inl ⟨hd,rfl⟩
        · refine Or.inr ⟨Bool.eq_false_iff.mpr hd,?_⟩
          split at h
          · rename_i ha
            exact ha.trans h
          · cases h

end

section
variable {μ ν ρ : Type} (c : Client μ ν ρ)

/-- `disableCache` of `Exchange`, before the transport answers. -/
def disablesCache (q : Query) : Bool :=
  !isSimpleRequest (prepareExchangeMessage c q.message q.options) q.options || c.disableCache ||
    q.options.disableCache

def Query.flight (q : Query) (question : Question) (h : q.message.question.head? = some question) : Flight :=
  ⟨q,question,prepareExchangeMessage c q.message q.options,disablesCache c q,h⟩

def Query.refresh (q : Query) (question : Question) : Refresh :=
  ⟨q.transport,question,prepareExchangeMessage c q.message q.options,q.options,q.responseChecker⟩

/-- An entry that was loaded may answer, unless it is stale and the call refuses stale answers. -/
def answers (options : DNSQueryOptions) (loaded : Loaded) : Bool :=
  !(loaded.isStale && options.disableOptimisticCache)

/-- The branches of `Exchange` up to the call of the transport. -/
inductive ExchangeBegins (s : ClientState μ ν ρ) (q : Query) : ClientState μ ν ρ × Begun → Prop
  | noQuestion (h : q.message.question = []) :
      ExchangeBegins s q (s,.done (.ok (fixedResponseStatus q.message rcodeFormatError)))
  | excluded (question : Question) (h : q.message.question.head? = some question)
      (hstrategy : strategyRejects question q.options = true) :
      ExchangeBegins s q (s,.done (.ok (fixedResponseStatus q.message rcodeSuccess)))
  | uncached (question : Question) (h : q.message.question.head? = some question)
      (hstrategy : strategyRejects question q.options = false) (hcache : disablesCache c q = true) :
      ExchangeBegins s q (s,sendUpstream c s (q.flight c question h))
  | missed (question : Question) (h : q.message.question.head? = some question) (s' : ClientState μ ν ρ)
      (loaded : Option Loaded) (hstrategy : strategyRejects question q.options = false)
      (hcache : disablesCache c q = false)
      (hload : loadResponse c s ⟨question,q.transport⟩ = (s',loaded))
      (hmiss : loaded.filter (answers q.options) = none) :
      ExchangeBegins s q (s',sendUpstream c s' (q.flight c question h))
  | hit (question : Question) (h : q.message.question.head? = some question) (s' : ClientState μ ν ρ)
      (loaded : Loaded) (hstrategy : strategyRejects question q.options = false)
      (hcache : disablesCache c q = false)
      (hload : loadResponse c s ⟨question,q.transport⟩ = (s',some loaded))
      (hanswers : answers q.options loaded = true) :
      ExchangeBegins s q
        (if loaded.isStale then backgroundRefreshDNS s' (q.refresh c question) else s',
          .done (.ok { loaded.response with id := (prepareExchangeMessage c q.message q.options).id }))

lemma beginExchange_cases (s : ClientState μ ν ρ) (q : Query) : ExchangeBegins c s q (beginExchange c s q) := by
  unfold beginExchange
  split
  · rename_i hq
    exact .noQuestion hq
  · rename_i question r hq
    have hhd : q.message.question.head? = some question := by rw [hq]; rfl
    split
    · rename_i hst
      exact .excluded question hhd hst
    · rename_i hst
      have hst : strategyRejects question q.options = false := Bool.eq_false_iff.mpr hst
      dsimp only
      split
      · rename_i hc
        exact .uncached question hhd hst hc
      · rename_i hc
        have hc : disablesCache c q = false := Bool.eq_false_iff.mpr hc
        cases hl : loadResponse c s ⟨question,q.transport⟩ with
        | mk s' l =>
          cases l with
          | none => exact .missed question hhd s' none hst hc hl rfl
          | some l =>
            have hit := ExchangeBegins.hit question hhd s' l hst hc hl
            have missed := ExchangeBegins.missed question hhd s' (some l) hst hc hl
            cases hs : l.isStale with
            | false => simpa [hs,answers] using hit
            | true =>
              cases ho : q.options.disableOptimisticCache with
              | false => simpa [hs,ho,answers,Query.refresh] using hit
              | true => simpa [hs,ho,answers,Query.flight,disablesCache] using missed

/-- The entry out of which `Exchange` answers, if it does. -/
def exchangeHit (s : ClientState μ ν ρ) (q : Query) : Option Loaded :=
  match q.message.question with
  | [] => none
  | question :: _ =>
      if strategyRejects question q.options || disablesCache c q then none
      else (loadResponse c s ⟨question,q.transport⟩).2.filter (answers q.options)

/-- The entry out of which `questionCache` answers, if it is asked and does. -/
def questionHit (s : ClientState μ ν ρ) (q : Query) (question : Question) : Option Loaded :=
  if c.disableCache || q.options.disableCache then none
  else (loadResponse c s ⟨question,q.transport⟩).2.filter (answers q.options)

variable {c} {s : ClientState μ ν ρ} {q : Query}

lemma exchangeHit_of_head {question : Question} (h : q.message.question.head? = some question) :
    exchangeHit c s q = if strategyRejects question q.options || disablesCache c q then none
      else (loadResponse c s ⟨question,q.transport⟩).2.filter (answers q.options) := by
  unfold exchangeHit
  cases hq : q.message.question with
  | nil =>
    rw [hq] at h
    cases h
  | cons =>
    rw [hq] at h
    cases h
    rfl

end

section
variable {μ ν ρ : Type} (c : Client μ ν ρ)

/-- The state in which a lookup that `questionCache` does not answer calls `Exchange`. -/
def afterQuestionCache (s : ClientState μ ν ρ) (q : Query) (question : Question) : ClientState μ ν ρ :=
  if c.disableCache || q.options.disableCache then s else (loadResponse c s ⟨question,q.transport⟩).1

/-- The state that an answer of `questionCache` leaves. -/
def afterQuestionHit (s : ClientState μ ν ρ) (q : Query) (question : Question) (loaded : Loaded) :
    ClientState μ ν ρ :=
  if loaded.isStale then backgroundRefreshDNS (afterQuestionCache c s q question) (q.refresh c question)
  else afterQuestionCache c s q question

/-- What a lookup makes of the first half of `Exchange`. -/
def Begun.lookup : Begun → BegunLookup
  | .done result => .done (result.bind (lookupAddresses c))
  | .upstream flight => .upstream flight

inductive LookupBegins (s : ClientState μ ν ρ) (q : Query) (question : Question) :
    ClientState μ ν ρ × BegunLookup → Prop
  | hit (loaded : Loaded) (h : questionHit c s q question = some loaded) :
      LookupBegins s q question
        (afterQuestionHit c s q question loaded,.done (lookupAddresses c loaded.response))
  | exchanged (s' : ClientState μ ν ρ) (begun : Begun) (h : questionHit c s q question = none)
      (hbegin : beginExchange c (afterQuestionCache c s q question) q = (s',begun)) :
      LookupBegins s q question (s',begun.lookup c)

variable {c}

lemma questionCache_eq {s : ClientState μ ν ρ} {q : Query} {question : Question}
    (h : (c.disableCache || q.options.disableCache) = false) : questionCache c s q question =
      ((questionHit c s q question).elim (afterQuestionCache c s q question) (afterQuestionHit c s q question),
        (questionHit c s q question).map fun l => lookupAddresses c l.response) := by
  unfold questionCache questionHit afterQuestionHit afterQuestionCache
  simp only [h,Bool.false_eq_true,if_false]
  cases loadResponse c s ⟨question,q.transport⟩ with
  | mk s' l =>
    cases l with
    | none => rfl
    | some l =>
      dsimp only
      cases hs : l.isStale with
      | false =>
        rw [Option.filter_some_pos (by simp [answers,hs])]
        simp [hs]
      | true =>
        cases ho : q.options.disableOptimisticCache with
        | false =>
          rw [Option.filter_some_pos (by simp [answers,ho])]
          simp [hs,Query.refresh]
        | true =>
          rw [Option.filter_some_neg (by simp [answers,hs,ho])]
          simp

lemma beginLookup_cases (s : ClientState μ ν ρ) (q : Query) (question : Question) :
    LookupBegins c s q question (beginLookup c s q question) := by
  have hc : (if c.disableCache || q.options.disableCache then (s,none) else questionCache c s q question) =
      ((questionHit c s q question).elim (afterQuestionCache c s q question) (afterQuestionHit c s q question),
        (questionHit c s q question).map fun l => lookupAddresses c l.response) := by
    cases hd : c.disableCache || q.options.disableCache with
    | true => simp [questionHit,afterQuestionCache,hd]
    | false => simpa [hd] using questionCache_eq hd
  unfold beginLookup
  rw [hc]
  cases hht : questionHit c s q question with
  | some l => exact .hit l hht
  | none =>
    dsimp only [Option.elim_none,Option.map_none]
    cases hb : beginExchange c (afterQuestionCache c s q question) q with
    | mk s' b =>
      have he := LookupBegins.exchanged s' b hht hb
      cases b with
      | done result | upstream flight => exact he

end

section
variable {μ ν ρ : Type} (c : Client μ ν ρ)

structure Forgets (s s' : ClientState μ ν ρ) : Prop where
  cache : ∀ key entry, c.memory.lookup s'.cache key = some entry → c.memory.lookup s.cache key = some entry
  dnsCache : ∀ key entry, c.store.lookup s'.dnsCache key = some entry → c.store.lookup s.dnsCache key = some entry
  rdrc : s'.rdrc = s.rdrc
  now : s.now ≤ s'.now

variable {c} {s s' s'' : ClientState μ ν ρ}

lemma Forgets.refl (s : ClientState μ ν ρ) : Forgets c s s := ⟨fun _ _ h => h,fun _ _ h => h,rfl,le_rfl⟩

lemma Forgets.trans (h : Forgets c s s') (h' : Forgets c s' s'') : Forgets c s s'' :=
  ⟨fun key e hk => h.cache key e (h'.cache key e hk), fun key e hk => h.dnsCache key e (h'.dnsCache key e hk),
    h'.rdrc.trans h.rdrc,h.now.trans h'.now⟩

/-- A load changes nothing but that it removes an entry in memory that has expired. -/
lemma loadResponse_fst (s : ClientState μ ν ρ) (key : CacheKey) : (loadResponse c s key).1 = s ∨
    (loadResponse c s key).1 = { s with cache := c.memory.erase s.cache key } := by
  unfold loadResponse
  split
  · exact .inl rfl
  split
  · exact .inl rfl
  cases hl : c.memory.lookup s.cache key with
  | none => exact .inl rfl
  | some e =>
    dsimp only
    split
    · exact .inl rfl
    · cases ageResponse c s.now e.2 e.1 with
      | some => exact .inl rfl
      | none => exact .inr rfl

lemma loadResponse_forgets (s : ClientState μ ν ρ) (key : CacheKey) : Forgets c s (loadResponse c s key).1 ∧
      (loadResponse c s key).1.backgroundRefresh = s.backgroundRefresh := by
  obtain heq | heq := loadResponse_fst s key
  · rw [heq]
    exact ⟨.refl s,rfl⟩
  · rw [heq]
    exact ⟨⟨fun k e hk => c.memory.lookup_erase _ _ _ _ hk,fun _ _ h => h,rfl,le_rfl⟩,rfl⟩

lemma forgets_of_load {key : CacheKey} {l : Option Loaded} (h : loadResponse c s key = (s',l)) :
    Forgets c s s' ∧ s'.backgroundRefresh = s.backgroundRefresh := by
  have hf := loadResponse_forgets (c := c) s key
  rwa [h] at hf

lemma loadResponse_loadResponse (s : ClientState μ ν ρ) (key : CacheKey) :
    (loadResponse c (loadResponse c s key).1 key).2 = (loadResponse c s key).2 := by
  cases hl : loadResponse c s key with
  | mk =>
    unfold loadResponse at hl ⊢
    split at hl
    · rename_i hp
      obtain ⟨rfl,rfl⟩ := Prod.mk.inj hl
      simp [hp]
    rename_i hp
    split at hl
    · rename_i hd
      obtain ⟨rfl,rfl⟩ := Prod.mk.inj hl
      simp [hp,hd]
    rename_i hd
    cases hlk : c.memory.lookup s.cache key with
    | none =>
      obtain ⟨rfl,rfl⟩ := Prod.mk.inj hl
      simp [hp,hd,hlk]
    | some e =>
      simp only [hlk] at hl
      split at hl
      · rename_i he
        obtain ⟨rfl,rfl⟩ := Prod.mk.inj hl
        simp [hp,hd,hlk,he]
      · rename_i he
        cases hag : ageResponse c s.now e.2 e.1 with
        | some =>
          obtain ⟨rfl,rfl⟩ := Prod.mk.inj hl
          simp [hp,hd,hlk,he,hag]
        | none =>
          -- the entry may still be found where the removal is late; it is as old as before
          simp only [hag] at hl
          obtain ⟨rfl,rfl⟩ := Prod.mk.inj hl
          cases ha : c.memory.lookup (c.memory.erase s.cache key) key with
          | none => simp [hp,hd]
          | some =>
            have hs := c.memory.lookup_erase _ _ _ _ ha
            rw [hlk] at hs
            cases hs
            simp [hp,hd,he,hag]

lemma backgroundRefreshDNS_forgets (s : ClientState μ ν ρ) (r : Refresh) : Forgets c s (backgroundRefreshDNS s r) := by
  unfold backgroundRefreshDNS
  split_ifs
  · exact .refl s
  · exact ⟨fun _ _ h => h,fun _ _ h => h,rfl,le_rfl⟩

lemma mem_backgroundRefreshDNS {s : ClientState μ ν ρ} {r r' : Refresh}
    (h : r' ∈ (backgroundRefreshDNS s r).backgroundRefresh) : r' ∈ s.backgroundRefresh ∨ r' = r := by
  unfold backgroundRefreshDNS at h
  split_ifs at h
  · exact Or.inl h
  · exact (List.mem_append.mp h).imp_right List.mem_singleton.mp

lemma clearCache_forgets (s : ClientState μ ν ρ) : Forgets c s (clearCache c s) := by
  unfold clearCache
  refine ⟨fun key e h => ?_,fun key e h => ?_,rfl,le_rfl⟩
  · dsimp only at h
    split_ifs at h
    · exact h
    · rw [c.memory.lookup_clear] at h
      cases h
  · dsimp only at h
    split_ifs at h
    · rw [c.store.lookup_clear] at h
      cases h
    · exact h

end

variable {μ ν ρ : Type} {c : Client μ ν ρ} {s : ClientState μ ν ρ} {q : Query} {f : Flight} {qs : Question}

lemma sendUpstream_eq {fl' : Flight} (h : sendUpstream c s f = .upstream fl') : fl' = f := by
  simp only [sendUpstream] at h
  split_ifs at h
  cases h
  rfl

lemma sendUpstream_ne_ok {r : Msg} : sendUpstream c s f ≠ .done (.ok r) := by
  simp only [sendUpstream]
  intro h
  split_ifs at h <;> cases h

lemma exchangeHit_eq_some {l : Loaded} (h : exchangeHit c s q = some l) :
    ∃ qs, q.message.question.head? = some qs ∧ strategyRejects qs q.options = false ∧
      disablesCache c q = false ∧ (loadResponse c s ⟨qs,q.transport⟩).2 = some l ∧ answers q.options l = true := by
  cases hq : q.message.question with
  | nil => simp [exchangeHit,hq] at h
  | cons qs =>
    rw [exchangeHit_of_head (by rw [hq]; rfl)] at h
    split_ifs at h with hg
    obtain ⟨hl,ha⟩ := Option.filter_eq_some_iff.mp h
    rw [Bool.or_eq_true,not_or,Bool.not_eq_true,Bool.not_eq_true] at hg
    exact ⟨qs,rfl,hg.1,hg.2,hl,ha⟩

lemma questionHit_eq_some {l : Loaded} (h : questionHit c s q qs = some l) :
    (c.disableCache || q.options.disableCache) = false ∧
      (loadResponse c s ⟨qs,q.transport⟩).2 = some l ∧ answers q.options l = true := by
  unfold questionHit at h
  split_ifs at h with hd
  exact ⟨Bool.eq_false_iff.mpr hd,Option.filter_eq_some_iff.mp h⟩

lemma beginExchange_forgets (s : ClientState μ ν ρ) (q : Query) : Forgets c s (beginExchange c s q).1 := by
  have hc := beginExchange_cases c s q
  generalize beginExchange c s q = b at hc ⊢
  cases hc with
  | noQuestion h | excluded qs h hs | uncached qs h hs hcc => exact .refl s
  | missed qs h s' l hs hcc hl => exact (forgets_of_load hl).1
  | hit qs h s' l hs hcc hl =>
    have hf := (forgets_of_load hl).1
    split_ifs
    · exact hf.trans (backgroundRefreshDNS_forgets s' _)
    · exact hf

lemma mem_beginExchange_refresh {r : Refresh} (h : r ∈ (beginExchange c s q).1.backgroundRefresh) :
    r ∈ s.backgroundRefresh ∨ ∃ qs l, q.message.question.head? = some qs ∧
      exchangeHit c s q = some l ∧ r = q.refresh c qs := by
  have hc := beginExchange_cases c s q
  generalize beginExchange c s q = b at hc h
  cases hc with
  | noQuestion hq | excluded qs hhd hst | uncached qs hhd hst hcc => exact Or.inl h
  | missed qs hhd s' l hst hcc hl => exact Or.inl ((forgets_of_load hl).2 ▸ h)
  | hit qs hhd s' l hst hcc hl ha =>
    have hs := (forgets_of_load hl).2
    have hht : exchangeHit c s q = some l := by
      rw [exchangeHit_of_head hhd,hst,hcc,hl]
      exact Option.filter_some_pos ha
    split_ifs at h
    · rcases mem_backgroundRefreshDNS h with ho | hn
      · exact Or.inl (hs ▸ ho)
      · exact Or.inr ⟨qs,l,hhd,hht,hn⟩
    · exact Or.inl (hs ▸ h)

lemma beginExchange_upstream (h : (beginExchange c s q).2 = .upstream f) : ∃ qs hhd, f = q.flight c qs hhd := by
  have hc := beginExchange_cases c s q
  generalize beginExchange c s q = b at hc h
  cases hc with
  | noQuestion hq | excluded qs hhd hs => cases h
  | uncached qs hhd hs hcc | missed qs hhd s' loaded hs hcc hload hmiss =>
    exact ⟨qs,hhd,sendUpstream_eq h⟩
  | hit => cases h

lemma afterQuestionCache_forgets (s : ClientState μ ν ρ) (q : Query) (qs : Question) :
    Forgets c s (afterQuestionCache c s q qs) ∧
      (afterQuestionCache c s q qs).backgroundRefresh = s.backgroundRefresh := by
  unfold afterQuestionCache
  split_ifs
  · exact ⟨.refl s,rfl⟩
  · exact loadResponse_forgets s _

lemma beginLookup_forgets (s : ClientState μ ν ρ) (q : Query) (qs : Question) :
    Forgets c s (beginLookup c s q qs).1 := by
  have hc := beginLookup_cases (c := c) s q qs
  have hf := (afterQuestionCache_forgets (c := c) s q qs).1
  generalize beginLookup c s q qs = b at hc ⊢
  cases hc with
  | hit =>
    unfold afterQuestionHit
    split_ifs
    · exact hf.trans (backgroundRefreshDNS_forgets _ _)
    · exact hf
  | exchanged s' b h hb =>
    have he := beginExchange_forgets (c := c) (afterQuestionCache c s q qs) q
    rw [hb] at he
    exact hf.trans he

section
variable (hh : q.message.question.head? = some qs)
include hh

/-- What `questionCache` does not find, the call of `Exchange` after it does not find either. -/
lemma exchangeHit_afterQuestionCache
    (h : questionHit c s q qs = none) : exchangeHit c (afterQuestionCache c s q qs) q = none := by
  rw [exchangeHit_of_head hh]
  split
  · rfl
  · rename_i hg
    have ho : (c.disableCache || q.options.disableCache) = false := by
      simp only [disablesCache,Bool.or_eq_true,not_or,Bool.not_eq_true] at hg
      simp [hg]
    unfold questionHit at h
    unfold afterQuestionCache
    rw [ho] at h ⊢
    rw [if_neg Bool.false_ne_true,loadResponse_loadResponse]
    exact h

lemma mem_beginLookup_refresh {r : Refresh} (h : r ∈ (beginLookup c s q qs).1.backgroundRefresh) :
    r ∈ s.backgroundRefresh ∨ ∃ l, questionHit c s q qs = some l ∧ r = q.refresh c qs := by
  have hc := beginLookup_cases (c := c) s q qs
  have hs := (afterQuestionCache_forgets (c := c) s q qs).2
  generalize beginLookup c s q qs = b at hc h
  cases hc with
  | hit l hht =>
    unfold afterQuestionHit at h
    split_ifs at h
    · rcases mem_backgroundRefreshDNS h with ho | hn
      · exact Or.inl (hs ▸ ho)
      · exact Or.inr ⟨l,hht,hn⟩
    · exact Or.inl (hs ▸ h)
  | exchanged s' b hms hb =>
    have hm : r ∈ (beginExchange c (afterQuestionCache c s q qs) q).1.backgroundRefresh := by
      rw [hb]
      exact h
    rcases mem_beginExchange_refresh hm with ho | ⟨question',l,hhd',hht,rfl⟩
    · exact Or.inl (hs ▸ ho)
    · rw [exchangeHit_afterQuestionCache hh hms] at hht
      cases hht

end

lemma beginLookup_upstream (h : (beginLookup c s q qs).2 = .upstream f) : ∃ qs hhead, f = q.flight c qs hhead := by
  have hc := beginLookup_cases (c := c) s q qs
  generalize beginLookup c s q qs = b at hc h
  cases hc with
  | hit => cases h
  | exchanged s' b hm hb =>
    cases b with
    | done => cases h
    | upstream =>
      cases h
      exact beginExchange_upstream (congrArg Prod.snd hb)

end SingBox.DNS
