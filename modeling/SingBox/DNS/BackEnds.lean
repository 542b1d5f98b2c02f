import SingBox.DNS.Ledger
import SingBox.Experimental.CacheFile

/-! The two back ends of the DNS cache, memory and cache file, over histories of stores and loads. -/
namespace SingBox.DNS
open CacheFile List

/-- A cache key with a question type of 16 bits, as questions have it. -/
structure WireKey where
  key : CacheKey
  qtype_lt : key.question.qtype < 65536

/-- A response that was given to `storeCache`, by a call or by a background refresh. -/
structure Deposit where
  key : WireKey
  message : Msg
  time : ℕ
  timeToLive : ℕ

def Deposit.expiry (deposit : Deposit) : ℕ := deposit.time+second*deposit.timeToLive

inductive CacheInput
  | store (key : WireKey) (message : Msg) (timeToLive : ℕ)
  | load (key : WireKey)
  | advance (duration : ℕ)
  | clear
  | file (action : Action)

structure LoadEvent where
  key : WireKey
  loaded : Loaded

inductive CacheEvent
  | stored (deposit : Deposit)
  | loaded (time : ℕ) (event : LoadEvent)
  | other

/-- No save loses its value buffer before it commits. -/
def CacheInput.Intact : CacheInput → Prop
  | .file action => action.Intact
  | _ => True

section
variable {μ ν ρ : Type}

def withCacheFile (c : Client μ ν ρ) : Client μ File ρ := { c with store := cacheFile }

variable (c : Client μ File ρ)

def cacheStep (s : ClientState μ File ρ) : CacheInput → ClientState μ File ρ
  | .store key message timeToLive => storeCache c s key.key message timeToLive
  | .load key => (loadResponse c s key.key).1
  | .advance duration => { s with now := s.now+duration }
  | .clear => clearCache c s
  | .file action => { s with dnsCache := action.run c.optimisticTimeout c.disableExpire s.dnsCache }

def CacheInput.event (s : ClientState μ File ρ) : CacheInput → CacheEvent
  | .store key message timeToLive => .stored ⟨key,message,s.now,timeToLive⟩
  | .load key => (loadResponse c s key.key).2.elim .other fun loaded => .loaded s.now ⟨key,loaded⟩
  | _ => .other

/-- Steps of the back ends, with their events; besides, the memory cache may forget. -/
inductive CacheStep (allowed : CacheInput → Prop) : ClientState μ File ρ → CacheEvent → ClientState μ File ρ → Prop
  | input (s : ClientState μ File ρ) (input : CacheInput) : allowed input →
      CacheStep allowed s (input.event c s) (cacheStep c s input)
  | evict {s : ClientState μ File ρ} {cache : μ}
      (h : ∀ key entry, c.memory.lookup cache key = some entry → c.memory.lookup s.cache key = some entry) :
      CacheStep allowed s .other { s with cache := cache }

def initialCache (now : ℕ) : ClientState μ File ρ := ⟨now,c.memory.empty,c.store.empty,c.rejections.empty,[]⟩

end

section
variable {μ ρ : Type} {c : Client μ File ρ} {s : ClientState μ File ρ}
  {M M' : CacheKey → Msg × ℕ → Prop} {F F' : StoreKey → List UInt8 × ℕ → Prop}

/-- Every entry of the memory cache satisfies `M`, and every entry of the cache file `F`. -/
structure StoresHold (c : Client μ File ρ) (M : CacheKey → Msg × ℕ → Prop)
    (F : StoreKey → List UInt8 × ℕ → Prop) (s : ClientState μ File ρ) : Prop where
  memory : c.memory.All M s.cache
  file : Saved F s.dnsCache

lemma StoresHold.mono (h : StoresHold c M F s) (hM : ∀ k e, M k e → M' k e)
    (hF : ∀ k e, F k e → F' k e) : StoresHold c M' F' s :=
  ⟨h.memory.mono hM,h.file.mono hF⟩

lemma StoresHold.storeCache (hs : c.store = cacheFile) (h : StoresHold c M F s) {k : CacheKey}
    {m : Msg} {tt : ℕ} (hM : M k (m,if c.disableExpire then 0 else s.now+second*tt))
    (hF : ∀ p, c.ops.pack m = some p → F k.storeKey (p,s.now+second*tt)) :
    StoresHold c M F (storeCache c s k m tt) := by
  unfold DNS.storeCache
  split_ifs
  · exact h
  · cases hp : c.ops.pack m with
    | none => exact h
    | some p =>
      refine { h with file := ?_ }
      rw [hs]
      exact h.file.saveDNSCacheAsync (hF p hp)
  · exact h
  · rename_i hd
    rw [if_pos hd] at hM
    exact { h with memory := h.memory.insert hM }
  · rename_i hd
    rw [if_neg hd] at hM
    exact { h with memory := h.memory.insert hM }

lemma StoresHold.loadResponse (h : StoresHold c M F s) (k : CacheKey) : StoresHold c M F (loadResponse c s k).1 := by
  obtain heq | heq := loadResponse_fst s k
  · rw [heq]
    exact h
  · rw [heq]
    exact { h with memory := h.memory.erase k }

lemma StoresHold.clearCache (hs : c.store = cacheFile) (h : StoresHold c M F s) :
    StoresHold c M F (clearCache c s) := by
  unfold DNS.clearCache
  refine ⟨?_,?_⟩
  · dsimp only
    split_ifs
    · exact h.memory
    · exact EvictingMap.All.clear
  · dsimp only
    split_ifs
    · rw [hs]
      exact { h.file.without_database with pending := fun _ _ hn => by cases hn }
    · exact h.file

end

section
variable {μ ρ : Type} {c : Client μ File ρ} {s : ClientState μ File ρ} {history : List CacheEvent}

/-- Entries of the memory cache, as the history has them. -/
def DepositedMemory (c : Client μ File ρ) (history : List CacheEvent) (key : CacheKey) (entry : Msg × ℕ) : Prop :=
  ∃ deposit, .stored deposit ∈ history ∧ deposit.key.key = key ∧
    entry = (deposit.message,if c.disableExpire then 0 else deposit.expiry)

/-- Entries of the cache file, as the history has them. -/
def DepositedFile (c : Client μ File ρ) (history : List CacheEvent) (key : StoreKey) (entry : List UInt8 × ℕ) :
    Prop :=
  ∃ deposit, .stored deposit ∈ history ∧ deposit.key.key.storeKey = key ∧
    c.ops.pack deposit.message = some entry.1 ∧ entry.2 = deposit.expiry

lemma DepositedFile.qType_lt {k : StoreKey} {e : List UInt8 × ℕ} (h : DepositedFile c history k e) :
    k.qType < 65536 := by
  obtain ⟨d,_,rfl,_⟩ := h
  exact d.key.qtype_lt

/-- Both back ends only hold what was stored, under the key they were given. -/
abbrev Deposited (c : Client μ File ρ) (history : List CacheEvent) (s : ClientState μ File ρ) : Prop :=
  StoresHold c (DepositedMemory c history) (DepositedFile c history) s

lemma Deposited.snoc (h : Deposited c history s) (e : CacheEvent) : Deposited c (history++[e]) s :=
  h.mono (fun _ _ ⟨d,hm,hr⟩ => ⟨d,mem_append_left _ hm,hr⟩)
    fun _ _ ⟨d,hm,hr⟩ => ⟨d,mem_append_left _ hm,hr⟩

section
variable {al : CacheInput → Prop} (hst : c.store = cacheFile) (hal : ∀ i, al i → i.Intact)
include hst

include hal in
lemma CacheStep.deposited {e : CacheEvent} {s' : ClientState μ File ρ} (hsp : CacheStep c al s e s')
    (h : Deposited c history s) : Deposited c (history++[e]) s' := by
  have hs := h.snoc e
  cases hsp with
  | evict he => exact { hs with memory := fun k en hk => hs.memory k en (he k en hk) }
  | input i ha =>
    cases i with
    | store k m tt =>
      have hm : .stored ⟨k,m,s.now,tt⟩ ∈ history++[CacheInput.event c s (.store k m tt)] :=
        mem_append_right _ (mem_singleton.mpr rfl)
      exact hs.storeCache hst ⟨_,hm,rfl,rfl⟩ fun p hp => ⟨_,hm,rfl,hp,rfl⟩
    | load k => exact hs.loadResponse k.key
    | advance => exact { hs with }
    | clear => exact hs.clearCache hst
    | file => exact { hs with file := hs.file.run _ _ (hal _ ha) }

include hal in
lemma deposited_of_run {n : ℕ} (h : Run (CacheStep c al) (initialCache c n) history s) : Deposited c history s := by
  refine h.invariant (I := Deposited c) ⟨EvictingMap.All.empty,?_⟩ fun _ _ _ _ hI hs => hs.deposited hst hal hI
  dsimp only [initialCache]
  rw [hst]
  exact Saved.empty

lemma Deposited.found (h : Deposited c history s) {k : WireKey} {r : Msg} {ea : ℕ} (hf : Found c s k.key r ea) :
    ∃ d, .stored d ∈ history ∧ d.key.key.storeKey = k.key.storeKey ∧ (c.persistent = false → d.key.key = k.key) ∧
      r = d.message ∧ (c.disableExpire = false → ea ≤ d.expiry) := by
  cases hf with
  | file hpr hl hu =>
    rw [hst] at hl
    obtain ⟨_,⟨d,hm,hk,hp,rfl⟩,he⟩ := h.file.loadDNSCache (fun _ _ hP => hP.qType_lt) k.qtype_lt hl
    refine ⟨d,hm,hk,fun hm => absurd (hpr.symm.trans hm) (by simp),?_,fun _ => ?_⟩
    · exact Option.some.inj (hu.symm.trans (c.ops.unpack_pack _ _ hp))
    · rcases he with rfl | rfl
      · exact le_rfl
      · calc d.expiry/second%2^64*second
          _ ≤ d.expiry/second*second := Nat.mul_le_mul_right _ (Nat.mod_le _ _)
          _ ≤ d.expiry := Nat.div_mul_le_self _ _
  | memory _ hl =>
    obtain ⟨d,hm,hk,he⟩ := h.memory _ _ hl
    cases he
    exact ⟨d,hm,congrArg CacheKey.storeKey hk,fun _ => hk,rfl,fun hd => by rw [hd]; rfl⟩

end

/-- An event of a load is the load of its key in the state where it comes. -/
lemma exists_load {al : CacheInput → Prop} {sr : ClientState μ File ρ} (h : Run (CacheStep c al) sr history s)
    {b a : List CacheEvent} {t : ℕ} {e : LoadEvent} (hs : history = b++.loaded t e::a) :
    ∃ y, Run (CacheStep c al) sr b y ∧ t = y.now ∧ al (.load e.key) ∧
      (loadResponse c y e.key.key).2 = some e.loaded := by
  obtain ⟨y,y',hb,hsp⟩ := h.exists_step hs
  refine ⟨y,hb,?_⟩
  generalize hl : CacheEvent.loaded t e = l at hsp
  cases hsp with
  | evict => cases hl
  | input i ha =>
    cases i with
    | store key message timeToLive | advance duration | clear | file action => cases hl
    | load k =>
      cases hld : (loadResponse c y k.key).2 with
      | none => simp [CacheInput.event,hld] at hl
      | some l =>
        simp only [CacheInput.event,hld,Option.elim_some,CacheEvent.loaded.injEq] at hl
        obtain ⟨rfl,rfl⟩ := hl
        exact ⟨rfl,ha,hld⟩

/-- The stored responses that may answer a question: by the key of the memory cache, and by the key of
the cache file. -/
def MemoryMayAnswer (history : List CacheEvent) (key : WireKey) (deposit : Deposit) : Prop :=
  .stored deposit ∈ history ∧ deposit.key.key = key.key

def FileMayAnswer (history : List CacheEvent) (key : WireKey) (deposit : Deposit) : Prop :=
  .stored deposit ∈ history ∧ deposit.key.key.storeKey = key.key.storeKey

/-- No response of another class was stored under the transport, name and type of the key. -/
def ClassSafe (history : List CacheEvent) (key : WireKey) : Prop :=
  ∀ deposit, .stored deposit ∈ history → deposit.key.key.storeKey = key.key.storeKey →
    deposit.key.key.question.qclass = key.key.question.qclass

lemma eq_of_storeKey {k k' : CacheKey} (h : k.storeKey = k'.storeKey)
    (hc : k.question.qclass = k'.question.qclass) : k = k' := by
  obtain ⟨⟨n,qt,q⟩,tt⟩ := k
  obtain ⟨⟨n',qt',q'⟩,tt'⟩ := k'
  obtain ⟨ht,hn,htp⟩ := StoreKey.mk.inj h
  simp_all

/-- Over every history of stores and loads in which no save loses its buffer, in either back end: a load that comes
behind no response of another class, where the cache is a file, returns a response that was stored before for the same
name, type, class and transport, and the back ends agree on which responses those are. -/
theorem loads_return_own_entries {ν : Type} (c : Client μ ν ρ) (now : ℕ) (history : List CacheEvent)
    (s : ClientState μ File ρ)
    (h : Run (CacheStep (withCacheFile c) CacheInput.Intact) (initialCache (withCacheFile c) now) history s) :
    ∀ before time event after, history = before++.loaded time event::after →
      (c.persistent = true → ClassSafe before event.key) →
      (∃ deposit, MemoryMayAnswer before event.key deposit ∧
        ∃ timeToLive, event.loaded.response = atTTL deposit.message timeToLive) ∧
      (c.persistent = true → ∀ deposit,
        FileMayAnswer before event.key deposit ↔ MemoryMayAnswer before event.key deposit) := by
  intro before time event after hs hsafe
  obtain ⟨y,hb,-,-,hld⟩ := exists_load h hs
  obtain ⟨r,ea,hf,hc⟩ := loadResponse_found hld
  obtain ⟨deposit,hm,hsk,hk,rfl,-⟩ := (deposited_of_run rfl (fun _ h => h) hb).found rfl hf
  have ha : c.persistent = true → ∀ deposit,
      FileMayAnswer before event.key deposit ↔ MemoryMayAnswer before event.key deposit := by
    intro hp deposit
    constructor
    · rintro ⟨hm,hk⟩
      exact ⟨hm,eq_of_storeKey hk (hsafe hp deposit hm hk)⟩
    · rintro ⟨hm,hk⟩
      exact ⟨hm,congrArg CacheKey.storeKey hk⟩
  refine ⟨⟨deposit,?_,?_⟩,ha⟩
  · cases hp : c.persistent with
    | false => exact ⟨hm,hk hp⟩
    | true => exact (ha hp deposit).mp ⟨hm,hsk⟩
  · rcases hc with ⟨_,he⟩ | ⟨_,hag⟩
    · exact ⟨none,congrArg Loaded.response he⟩
    · exact ageResponse_response hag

end

def packOps (message : Msg) : MsgOps :=
  { plainOps with
    pack m := if m = message then some [1] else none
    unpack rawMessage := if rawMessage = [1] then some message else none
    unpack_pack m packed h := by
      split_ifs at h with hm
      cases h
      rw [if_pos rfl,hm] }

def fileClient : Client (CacheKey → Option (Msg × ℕ)) File (StoreKey → Option Unit) :=
  withCacheFile { plainClient with persistent := true, ops := packOps (addressReply [10,0,0,1]) }

def wireKey (qclass : ℕ) : WireKey := ⟨⟨⟨"a.test.",typeA,qclass⟩,"local"⟩,(by decide : typeA < 65536)⟩

/-- A response that goes through the cache file and is found by a question of its class. -/
theorem loads_return_own_entries_flushed : ∃ (before : List CacheEvent) (event : LoadEvent) (s : ClientState _ _ _),
      Run (CacheStep fileClient CacheInput.Intact) (initialCache fileClient 0) (before++[.loaded 0 event]) s ∧
      s.dnsCache.pending event.key.key.storeKey = none ∧ event.loaded.response = addressReply [10,0,0,1] ∧
      ∃ deposit, MemoryMayAnswer before event.key deposit ∧
        ∃ timeToLive, event.loaded.response = atTTL deposit.message timeToLive := by
  have hr : Run (CacheStep fileClient CacheInput.Intact) (initialCache fileClient 0) _ _ :=
    .cons (.input _ (.store (wireKey classINET) (addressReply [10,0,0,1]) 60) trivial)
      (.cons (.input _ (.file (.flush 0 .failed)) trivial)
      (.cons (.input _ (.file (.flush 0 (.committed none))) rfl)
      (.cons (.input _ (.file (.flush 0 .failed)) trivial)
      (.cons (.input _ (.load (wireKey classINET)) trivial) .nil))))
  refine ⟨[.stored ⟨wireKey classINET,addressReply [10,0,0,1],0,60⟩,.other,.other,.other],_,_,hr,rfl,rfl,?_⟩
  refine (loads_return_own_entries _ 0 _ _ hr _ _ _ [] rfl fun _ deposit hm _ => ?_).1
  simp only [mem_cons,CacheEvent.stored.injEq,reduceCtorEq,not_mem_nil,or_false] at hm
  rw [hm]

/-- A question of another class is answered out of the cache file with what was stored for class IN; the
memory cache does not do that. -/
theorem cacheFile_ignores_class :
    let store : CacheInput := .store (wireKey classINET) (addressReply [10,0,0,1]) 60
    let stored : CacheEvent := .stored ⟨wireKey classINET,addressReply [10,0,0,1],0,60⟩
    (∃ s, Run (CacheStep fileClient CacheInput.Intact) (initialCache fileClient 0)
      [stored,.loaded 0 ⟨wireKey 3,⟨addressReply [10,0,0,1],60,false⟩⟩] s) ∧
    (CacheInput.load (wireKey 3)).event (withCacheFile plainClient) (cacheStep (withCacheFile plainClient)
      (initialCache (withCacheFile plainClient) 0) store) = .other ∧
    ∀ deposit, ¬ MemoryMayAnswer [stored] (wireKey 3) deposit := by
  refine ⟨⟨_,.cons (.input _ (.store (wireKey classINET) (addressReply [10,0,0,1]) 60) trivial)
    (.cons (.input _ (.load (wireKey 3)) trivial) .nil)⟩,rfl,?_⟩
  rintro deposit ⟨hm,hk⟩
  cases mem_singleton.mp hm
  exact absurd hk (by decide)

end SingBox.DNS
