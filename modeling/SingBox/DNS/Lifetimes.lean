import SingBox.DNS.BackEnds
import SingBox.DNS.OwnOptions

/-! How long the two back ends of the DNS cache serve an entry: over every history of stores, loads and
clock advances, no load finds an entry fresh after its lifetime, or at all after the optimistic timeout. -/
namespace SingBox.DNS
open CacheFile List

/-- Questions of class IN. -/
def CacheInput.Internet : CacheInput → Prop
  | .store key _ _ => key.key.question.qclass = classINET
  | .load key => key.key.question.qclass = classINET
  | _ => True

variable {μ ν ρ : Type}

/-- The entry is served as long as it may be, with the TTLs that are left to it. -/
structure ServedInTime (c : Client μ ν ρ) (deposit : Deposit) (time : ℕ) (loaded : Loaded) : Prop where
  response : ∃ timeToLive, loaded.response = normalizeTTL deposit.message timeToLive
  fresh : loaded.isStale = false → time ≤ deposit.expiry ∧
    ∀ record ∈ loaded.response.answer++loaded.response.ns++loaded.response.extra, isOPT record = false →
      second*record.hdr.ttl ≤ deposit.expiry-time
  stale : loaded.isStale = true → 0 < c.optimisticTimeout ∧ time < deposit.expiry+c.optimisticTimeout ∧
    ∀ record ∈ loaded.response.answer++loaded.response.ns++loaded.response.extra, isOPT record = false →
      record.hdr.ttl = 1

section
variable {c : Client μ ν ρ}

lemma ttl_of_mem_normalizeTTL {r : Msg} {tt : ℕ} {rc : RR}
    (h : rc ∈ (normalizeTTL r tt).answer++(normalizeTTL r tt).ns++
      (normalizeTTL r tt).extra) (ho : isOPT rc = false) : rc.hdr.ttl = tt := by
  simp only [normalizeTTL,← map_append] at h
  exact ttl_of_mem_map_setTTL h ho

lemma ageResponse_servedInTime {d : Deposit} {n ea : ℕ} {l : Loaded}
    (h : ageResponse c n ea d.message = some l) (he : ea ≤ d.expiry) : ServedInTime c d n l := by
  simp only [ageResponse] at h
  split_ifs at h with hl ho
  · cases h
    refine ⟨⟨1,rfl⟩,?_,fun _ => ⟨ho.1,?_,fun r hm hop => ?_⟩⟩
    · intro hs
      cases hs
    · have hb := ho.2
      omega
    · exact ttl_of_mem_normalizeTTL hm hop
  · cases h
    refine ⟨⟨_,rfl⟩,fun _ => ⟨by omega,fun r hm hop => ?_⟩,?_⟩
    · rw [ttl_of_mem_normalizeTTL hm hop]
      have hd := Nat.mul_div_le (ea-n) second
      omega
    · intro hs
      cases hs

end

/-- The responses of a history of class IN are of class IN. -/
lemma stored_internet {c : Client μ File ρ} {s sr : ClientState μ File ρ} {history : List CacheEvent}
    (h : Run (CacheStep c fun i => i.Internet ∧ i.Intact) sr history s) {d : Deposit} (hd : .stored d ∈ history) :
    d.key.key.question.qclass = classINET := by
  refine h.labels (I := fun _ => True) (P := fun e => ∀ d, e = .stored d → d.key.key.question.qclass = classINET)
    trivial (fun s e s' _ hs => ⟨trivial,?_⟩) _ hd d rfl
  rintro d rfl
  generalize he : CacheEvent.stored d = e at hs
  cases hs with
  | evict => cases he
  | input i ha =>
    cases i with
    | store =>
      cases he
      exact ha.1
    | load k =>
      simp only [CacheInput.event] at he
      cases hl : (loadResponse c s k.key).2 <;> simp [hl] at he
    | advance | clear | file => cases he

/-- Over every history of stores, loads and clock advances with questions of class IN and expiry
enabled, in either back end and where no save loses its buffer: a load serves an entry of its own
question, fresh only within its lifetime and with TTLs that end within it, and stale only within the
optimistic timeout and with TTLs of one second. -/
theorem loads_within_lifetime (c : Client μ ν ρ) (hdisable : c.disableExpire = false) (now : ℕ)
    (history : List CacheEvent) (s : ClientState μ File ρ)
    (h : Run (CacheStep (withCacheFile c) fun input => input.Internet ∧ input.Intact)
      (initialCache (withCacheFile c) now) history s) :
    ∀ before time event after, history = before++.loaded time event::after →
      ∃ deposit, .stored deposit ∈ before ∧ deposit.key.key = event.key.key ∧
        ServedInTime c deposit time event.loaded := by
  intro before time event after hsp
  obtain ⟨st,hb,rfl,hal,hld⟩ := exists_load h hsp
  obtain ⟨r,ea,hf,hcs⟩ := loadResponse_found hld
  obtain ⟨deposit,hm,hk,-,rfl,he⟩ := (deposited_of_run rfl (fun _ h => h.2) hb).found rfl hf
  obtain ⟨_,hag⟩ := hcs.resolve_left fun hc => by
    rw [show (withCacheFile c).disableExpire = false from hdisable] at hc
    cases hc.1
  have hs := ageResponse_servedInTime hag (he hdisable)
  exact ⟨deposit,hm,eq_of_storeKey hk ((stored_internet hb hm).trans hal.1.symm),hs.response,hs.fresh,hs.stale⟩

def staleClient : Client (CacheKey → Option (Msg × ℕ)) File (StoreKey → Option Unit) :=
  { fileClient with optimisticTimeout := 3600*second }

/-- An entry of a minute, served stale after two and not after two hours. -/
theorem loads_within_lifetime_stale : ∃ (before : List CacheEvent) (event : LoadEvent) (s : ClientState _ _ _),
      Run (CacheStep staleClient fun input => input.Internet ∧ input.Intact) (initialCache staleClient 0)
        (before++[.loaded (120*second) event,.other,.other]) s ∧ event.loaded.isStale = true ∧
      ∃ deposit, .stored deposit ∈ before ∧ ServedInTime staleClient deposit (120*second) event.loaded := by
  have hr : Run (CacheStep staleClient fun input => input.Internet ∧ input.Intact)
      (initialCache staleClient 0) _ _ :=
    .cons (.input _ (.store (wireKey classINET) (addressReply [10,0,0,1]) 60) ⟨rfl,trivial⟩)
      (.cons (.input _ (.advance (120*second)) ⟨trivial,trivial⟩)
      (.cons (.input _ (.load (wireKey classINET)) ⟨rfl,trivial⟩)
      (.cons (.input _ (.advance (7200*second)) ⟨trivial,trivial⟩)
      (.cons (.input _ (.load (wireKey classINET)) ⟨rfl,trivial⟩) .nil))))
  refine ⟨[_,.other],_,_,hr,rfl,?_⟩
  obtain ⟨deposit,hm,_,hs⟩ := loads_within_lifetime staleClient rfl 0 _ _ hr [_,.other] _ _ _ rfl
  exact ⟨deposit,hm,hs⟩

def wireKey6 : WireKey := ⟨⟨⟨"a.test.",typeAAAA,classINET⟩,"local"⟩,(by decide : typeAAAA < 65536)⟩

/-- Two saves of one transaction with one value buffer: the entry of a minute gets the expiry of the other
one, and is served as fresh after 100 seconds. -/
theorem reused_buffer_outlives_lifetime : ∃ (before : List CacheEvent) (event : LoadEvent) (s : ClientState _ _ _),
      Run (CacheStep fileClient fun input => input.Internet) (initialCache fileClient 0)
        (before++[.loaded (100*second) event]) s ∧ event.loaded.isStale = false ∧ event.loaded.nowTTL = 900 ∧
      ∀ deposit, .stored deposit ∈ before → deposit.key.key = event.key.key → deposit.expiry < 100*second := by
  have hr : Run (CacheStep fileClient fun input => input.Internet) (initialCache fileClient 0) _ _ :=
    .cons (.input _ (.store (wireKey classINET) (addressReply [10,0,0,1]) 60) rfl)
      (.cons (.input _ (.store wireKey6 (addressReply [10,0,0,1]) 1000) rfl)
      (.cons (.input _ (.file (.flush 0 .failed)) trivial)
      (.cons (.input _ (.file (.flush 1 .failed)) trivial)
      -- the buffer of the first save is the one that the second save fills
      (.cons (.input _ (.file (.flush 0 (.committed (some (fileValue [1] (1000*second)))))) trivial)
      (.cons (.input _ (.file (.flush 1 (.committed none))) trivial)
      (.cons (.input _ (.file (.flush 0 .failed)) trivial)
      (.cons (.input _ (.advance (100*second)) trivial)
      (.cons (.input _ (.load (wireKey classINET)) rfl) .nil))))))))
  refine ⟨[.stored ⟨wireKey classINET,addressReply [10,0,0,1],0,60⟩,
    .stored ⟨wireKey6,addressReply [10,0,0,1],0,1000⟩,.other,.other,.other,.other,.other,.other],
    ⟨wireKey classINET,⟨normalizeTTL (addressReply [10,0,0,1]) 900,900,false⟩⟩,_,hr,rfl,rfl,?_⟩
  intro deposit hm hk
  simp only [mem_cons,CacheEvent.stored.injEq,reduceCtorEq,not_mem_nil,or_false] at hm
  rcases hm with rfl | rfl
  · decide
  · exact absurd hk (by decide)

end SingBox.DNS
