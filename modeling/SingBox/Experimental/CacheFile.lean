import SingBox.DNS.Client
import SingBox.Library.BigEndian

/-! The DNS cache of the cache file (`experimental/cachefile/dns_cache.go`): a map of pending saves in
front of the database, and goroutines that flush it. -/
namespace SingBox.CacheFile
open DNS List Function

/-- `saveDNSCacheEntry`. -/
structure SaveEntry where
  rawMessage : List UInt8
  expireAt : ℕ
  sequence : ℕ
  saving : Bool

/-- Where `flushPendingDNSCacheWith` stands in its loop. -/
inductive FlushStage
  | start
  | saving (entry : SaveEntry)
  | saved (entry : SaveEntry)

structure Flush where
  key : StoreKey
  stage : FlushStage

/-- The cache file with its goroutines; `clears` counts the calls of `ClearDNSCache` that have emptied
the pending map and not yet the bucket. The database holds a bucket for each transport. -/
structure File where
  pending : StoreKey → Option SaveEntry
  flushes : List Flush
  clears : ℕ
  database : String → List UInt8 → Option (List UInt8)

def File.empty : File := ⟨fun _ => none,[],0,fun _ _ => none⟩

def fileKey (key : StoreKey) : List UInt8 := BigEndian.put 2 key.qType++key.qName.toByteArray.data.toList

def fileValue (rawMessage : List UInt8) (expireAt : ℕ) : List UInt8 := BigEndian.put 8 (expireAt/second)++rawMessage

/-- `LoadDNSCache`. -/
def loadDNSCache (file : File) (key : StoreKey) : Option (List UInt8 × ℕ) :=
  match file.pending key with
  | some entry => some (entry.rawMessage,entry.expireAt)
  | none =>
      match file.database key.transportName (fileKey key) with
      | none => none
      | some content =>
          if content.length < 8 then none
          else some (content.drop 8,BigEndian.read (content.take 8)*second)

/-- `SaveDNSCacheAsync`: the entry is pending at once, and a goroutine starts unless one is there. -/
def saveDNSCacheAsync (file : File) (key : StoreKey) (rawMessage : List UInt8) (expireAt : ℕ) : File :=
  let entry := (file.pending key).getD ⟨[],0,0,false⟩
  { file with
    pending := Function.update file.pending key (some ⟨rawMessage,expireAt,entry.sequence+1,true⟩)
    flushes := if entry.saving then file.flushes else file.flushes++[⟨key,.start⟩] }

/-- How a transaction ends. `SaveDNSCache` gives its value buffer back to the pool before the commit;
`held` is what another user has written into it by then, if any. -/
inductive Transaction
  | committed (held : Option (List UInt8))
  | failed
  | corrupted

/-- `SaveDNSCache`, with the end of its transaction; a corrupted database is opened anew. -/
def saveDNSCache (database : String → List UInt8 → Option (List UInt8)) (key : StoreKey)
    (rawMessage : List UInt8) (expireAt : ℕ) : Transaction → String → List UInt8 → Option (List UInt8)
  | .committed held => fun transportName bytes =>
      if transportName = key.transportName ∧ bytes = fileKey key then
        some (held.getD (fileValue rawMessage expireAt))
      else database transportName bytes
  | .failed => database
  | .corrupted => fun _ _ => none

inductive Action
  | flush (i : ℕ) (transaction : Transaction)
  | clearPending
  | clearBucket (transaction : Transaction)
  | cleanup (now : ℕ) (transaction : Transaction)
  | reset
  | restart

/-- One section of `flushPendingDNSCacheWith`. -/
def flushStep (file : File) (i : ℕ) (transaction : Transaction) : File :=
  match file.flushes[i]? with
  | none => file
  | some ⟨key,.start⟩ =>
      match file.pending key with
      | none => { file with flushes := file.flushes.eraseIdx i }
      | some entry => { file with flushes := file.flushes.set i ⟨key,.saving entry⟩ }
  | some ⟨key,.saving entry⟩ =>
      { file with
        database := saveDNSCache file.database key entry.rawMessage entry.expireAt transaction
        flushes := file.flushes.set i ⟨key,.saved entry⟩ }
  | some ⟨key,.saved entry⟩ =>
      match file.pending key with
      | none => { file with flushes := file.flushes.eraseIdx i }
      | some currentEntry =>
          if currentEntry.sequence ≠ entry.sequence then
            { file with flushes := file.flushes.set i ⟨key,.start⟩ }
          else
            { file with
              pending := Function.update file.pending key none
              flushes := file.flushes.eraseIdx i }

section
variable (optimisticTimeout : ℕ) (disableExpire : Bool)

/-- The entries that `cleanupDNSCache` leaves. -/
def keepsContent (now : ℕ) (content : List UInt8) : Bool :=
  8 ≤ content.length &&
    (disableExpire || !decide (now > BigEndian.read (content.take 8)*second+optimisticTimeout))

def Action.run (file : File) : Action → File
  | .flush i transaction => flushStep file i transaction
  | .clearPending => { file with pending := fun _ => none, clears := file.clears+1 }
  | .clearBucket transaction =>
      if file.clears = 0 then file
      else
        match transaction with
        | .failed => { file with clears := file.clears-1 }
        | _ => { file with clears := file.clears-1, database := fun _ _ => none }
  | .cleanup now transaction =>
      match transaction with
      | .committed _ =>
          { file with database := fun transportName bytes =>
              (file.database transportName bytes).filter (keepsContent optimisticTimeout disableExpire now) }
      | .failed => file
      | .corrupted => { file with database := fun _ _ => none }
  | .reset => { file with database := fun _ _ => none }
  | .restart => { File.empty with database := file.database }

end

section

lemma fileKey_injective {key key' : StoreKey} (hk : key.qType < 65536) (hk' : key'.qType < 65536)
    (h : fileKey key = fileKey key') : key.qName = key'.qName ∧ key.qType = key'.qType := by
  obtain ⟨ht,hn⟩ := append_inj h (by simp)
  refine ⟨?_,BigEndian.put_injective hk hk' ht⟩
  rw [← String.toByteArray_inj]
  exact ByteArray.ext (Array.toList_inj.mp hn)

variable (ea : ℕ) (rm : List UInt8)

lemma length_fileValue : ¬(fileValue rm ea).length < 8 := by
  simp [fileValue]

lemma drop_fileValue : (fileValue rm ea).drop 8 = rm := by
  rw [fileValue,drop_append_of_le_length (by simp)]
  simp

lemma read_fileValue : BigEndian.read ((fileValue rm ea).take 8) = ea/second%2^64 := by
  rw [fileValue,take_append_of_le_length (by simp),take_of_length_le (by simp),BigEndian.read_put]
  norm_num

end

section

def FlushStage.entry? : FlushStage → Option SaveEntry
  | .start => none
  | .saving entry => some entry
  | .saved entry => some entry

/-- Every entry in the file, wherever it stands, satisfies `P`: pending, in hand of a goroutine, or in
the database under the key and with the bytes it was saved as. -/
structure Saved (P : StoreKey → List UInt8 × ℕ → Prop) (file : File) : Prop where
  pending : ∀ key entry, file.pending key = some entry → P key (entry.rawMessage,entry.expireAt)
  flushes : ∀ flush ∈ file.flushes, ∀ entry, flush.stage.entry? = some entry →
    P flush.key (entry.rawMessage,entry.expireAt)
  database : ∀ transportName bytes content, file.database transportName bytes = some content →
    ∃ key rawMessage expireAt, P key (rawMessage,expireAt) ∧ key.transportName = transportName ∧
      fileKey key = bytes ∧ content = fileValue rawMessage expireAt

/-- The value buffer of a save is not taken by anyone before the transaction commits. -/
def Action.Intact : Action → Prop
  | .flush _ (.committed held) => held = none
  | _ => True

variable {P Q : StoreKey → List UInt8 × ℕ → Prop} {fl : File}

lemma Saved.mono (h : Saved P fl) (hPQ : ∀ key e, P key e → Q key e) : Saved Q fl where
  pending key e he := hPQ _ _ (h.pending key e he)
  flushes flush hm e he := hPQ _ _ (h.flushes flush hm e he)
  database transportName bytes content hc := by
    obtain ⟨key,r,ex,hP,hr⟩ := h.database transportName bytes content hc
    exact ⟨key,r,ex,hPQ _ _ hP,hr⟩

lemma Saved.empty : Saved P File.empty where
  pending _ _ h := by cases h
  flushes _ h := by cases h
  database _ _ _ h := by cases h

variable {ea : ℕ} {key : StoreKey} {rm : List UInt8} {t : Transaction} (h : Saved P fl)
include h

lemma Saved.saveDNSCacheAsync (hP : P key (rm,ea)) : Saved P (saveDNSCacheAsync fl key rm ea) where
  pending key' entry he := by
    by_cases hk : key' = key
    · subst hk
      simp only [CacheFile.saveDNSCacheAsync,update_self,Option.some.injEq] at he
      rw [← he]
      exact hP
    · simp only [CacheFile.saveDNSCacheAsync,update_of_ne hk] at he
      exact h.pending key' entry he
  flushes flush hm entry he := by
    simp only [CacheFile.saveDNSCacheAsync] at hm
    split_ifs at hm
    · exact h.flushes flush hm entry he
    · rcases mem_append.mp hm with hm | hm
      · exact h.flushes flush hm entry he
      · rw [mem_singleton.mp hm] at he
        cases he
  database := h.database

lemma Saved.erase_flush (i : ℕ) : Saved P { fl with flushes := fl.flushes.eraseIdx i } :=
  { h with flushes := fun f hm => h.flushes f (mem_of_mem_eraseIdx hm) }

lemma Saved.set_flush (i : ℕ) (f : Flush) (hf : ∀ e, f.stage.entry? = some e → P f.key (e.rawMessage,e.expireAt)) :
    Saved P { fl with flushes := fl.flushes.set i f } := by
  refine { h with flushes := fun f' hm => ?_ }
  rcases mem_or_eq_of_mem_set hm with hm | rfl
  · exact h.flushes f' hm
  · exact hf

lemma Saved.without_pending (key : StoreKey) : Saved P { fl with pending := update fl.pending key none } := by
  refine { h with pending := fun key' e he => ?_ }
  dsimp only at he
  by_cases hk : key' = key
  · subst hk
    rw [update_self] at he
    cases he
  · rw [update_of_ne hk] at he
    exact h.pending key' e he

lemma Saved.without_database : Saved P { fl with database := fun _ _ => none } :=
  { h with database := fun _ _ _ hn => by cases hn }

lemma Saved.saveDNSCache (hP : P key (rm,ea)) (hin : ∀ held, t = .committed held → held = none) :
    Saved P { fl with database := saveDNSCache fl.database key rm ea t } := by
  refine { h with database := fun tn bs c hc => ?_ }
  cases t with
  | failed => exact h.database tn bs c hc
  | corrupted => cases hc
  | committed held =>
    obtain rfl := hin held rfl
    simp only [CacheFile.saveDNSCache] at hc
    split_ifs at hc with hk
    · cases hc
      exact ⟨key,rm,ea,hP,hk.1.symm,hk.2.symm,rfl⟩
    · exact h.database tn bs c hc

lemma Saved.flushStep (i : ℕ) (hin : ∀ held, t = .committed held → held = none) : Saved P (flushStep fl i t) := by
  unfold CacheFile.flushStep
  split
  · exact h
  · split
    · exact h.erase_flush i
    · rename_i key _ _ e he
      refine h.set_flush i _ fun e' heq => ?_
      cases heq
      exact h.pending key e he
  · rename_i key e hf
    have hP : P key (e.rawMessage,e.expireAt) := h.flushes ⟨key,.saving e⟩ (mem_of_getElem? hf) e rfl
    refine (h.saveDNSCache hP hin).set_flush i _ fun e' heq => ?_
    cases heq
    exact hP
  · split
    · exact h.erase_flush i
    · split
      · exact h.set_flush i _ fun e' heq => by cases heq
      · exact (h.without_pending _).erase_flush i

lemma Saved.run (optimisticTimeout : ℕ) (disableExpire : Bool) {a : Action}
    (hin : a.Intact) : Saved P (a.run optimisticTimeout disableExpire fl) := by
  cases a with
  | flush i =>
    refine h.flushStep i fun held heq => ?_
    subst heq
    exact hin
  | clearPending => exact { h with pending := fun _ _ hn => by cases hn }
  | clearBucket =>
    simp only [Action.run]
    split
    · exact h
    · split
      · exact { h with }
      · exact { h.without_database with }
  | cleanup n t =>
    cases t with
    | failed => exact h
    | corrupted => exact h.without_database
    | committed =>
      refine { h with database := fun tn bs c hc => ?_ }
      exact h.database tn bs c (Option.filter_eq_some_iff.mp hc).1
  | reset => exact h.without_database
  | restart => exact { Saved.empty with database := h.database }

lemma Saved.loadDNSCache (hr : ∀ key e, P key e → key.qType < 65536) (hk : key.qType < 65536)
    (hl : loadDNSCache fl key = some (rm,ea)) : ∃ ex', P key (rm,ex') ∧ (ea = ex' ∨ ea = ex'/second%2^64*second) := by
  unfold CacheFile.loadDNSCache at hl
  cases hp : fl.pending key with
  | some e =>
    simp only [hp,Option.some.injEq,Prod.mk.injEq] at hl
    obtain ⟨rfl,rfl⟩ := hl
    exact ⟨e.expireAt,h.pending key e hp,Or.inl rfl⟩
  | none =>
    cases hc : fl.database key.transportName (fileKey key) with
    | none => simp [hp,hc] at hl
    | some =>
      obtain ⟨key',r',ex',hP,ht,hb,rfl⟩ := h.database _ _ _ hc
      obtain ⟨hn,htp⟩ := fileKey_injective (hr key' _ hP) hk hb
      have hs : key' = key := by
        cases key
        cases key'
        simp_all
      simp only [hp,hc,if_neg (length_fileValue _ _),drop_fileValue,read_fileValue,
        Option.some.injEq,Prod.mk.injEq] at hl
      obtain ⟨rfl,rfl⟩ := hl
      exact ⟨ex',hs ▸ hP,Or.inr rfl⟩

end

def cacheFile : EvictingMap File StoreKey (List UInt8 × ℕ) where
  empty := File.empty
  lookup := loadDNSCache
  insert file key entry := saveDNSCacheAsync file key entry.1 entry.2
  erase file _ := file
  clear file := { file with pending := fun _ => none, database := fun _ _ => none }
  lookup_empty _ := rfl
  lookup_insert file key entry key' entry' h := by
    by_cases hkey : key' = key
    · subst hkey
      simp only [loadDNSCache,saveDNSCacheAsync,Function.update_self,Option.some.injEq] at h
      exact Or.inl ⟨rfl,h.symm⟩
    · simp only [loadDNSCache,saveDNSCacheAsync,Function.update_of_ne hkey] at h
      exact Or.inr ⟨hkey,h⟩
  lookup_erase _ _ _ _ h := h
  lookup_clear _ _ := rfl

end SingBox.CacheFile
