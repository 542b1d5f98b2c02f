import SingBox.Experimental.CacheFile
import SingBox.Library.Run
import SingBox.Library.Threads
import SingBox.Library.WriteBehind

/-! Saves, flushers and clears of the DNS cache in the cache file, in any interleaving. Seen from one
key, the file is a write-behind cell. -/
namespace SingBox.CacheFile
open DNS List WriteBehind

/-- What is queued: a message with its expiry. -/
abbrev Value := List UInt8 × ℕ

def SaveEntry.toEntry (entry : SaveEntry) : WriteBehind.Entry Value :=
  ⟨(entry.rawMessage,entry.expireAt),entry.sequence,entry.saving⟩

def FlushStage.toStage : FlushStage → WriteBehind.Stage Value
  | .start => .start
  | .saving entry => .taken entry.toEntry
  | .saved entry => .stored entry.toEntry

def encode (value : Value) : List UInt8 := fileValue value.1 value.2

def Flush.stageFor (key : StoreKey) (flush : Flush) : Option (WriteBehind.Stage Value) :=
  if flush.key = key then some flush.stage.toStage else none

def File.cell (file : File) (key : StoreKey) : WriteBehind.Cell Value (List UInt8) where
  queued := (file.pending key).map SaveEntry.toEntry
  writers := file.flushes.filterMap (Flush.stageFor key)
  content := file.database key.transportName (fileKey key)

/-- The calls and the sections of goroutines, where every transaction commits what it was given. -/
inductive FileEvent
  | save (key : StoreKey) (rawMessage : List UInt8) (expireAt : ℕ)
  | flush (i : ℕ)
  | clearPending
  | clearBucket

def FileEvent.run (file : File) : FileEvent → File
  | .save key rawMessage expireAt => saveDNSCacheAsync file key rawMessage expireAt
  | .flush i => flushStep file i (.committed none)
  | .clearPending => Action.run 0 false file .clearPending
  | .clearBucket => Action.run 0 false file (.clearBucket (.committed none))

/-- Question types have 16 bits; a section belongs to a goroutine that is there. -/
def FileEvent.Possible (file : File) : FileEvent → Prop
  | .save key _ _ => key.qType < 65536
  | .flush i => i < file.flushes.length
  | .clearPending => True
  | .clearBucket => 0 < file.clears

instance (file : File) : (event : FileEvent) → Decidable (event.Possible file)
  | .save key _ _ => inferInstanceAs (Decidable (key.qType < 65536))
  | .flush i => inferInstanceAs (Decidable (i < file.flushes.length))
  | .clearPending => inferInstanceAs (Decidable True)
  | .clearBucket => inferInstanceAs (Decidable (0 < file.clears))

def FileEvent.value? (key : StoreKey) : FileEvent → Option Value
  | .save key' rawMessage expireAt => if key' = key then some (rawMessage,expireAt) else none
  | _ => none

def queuedValues (key : StoreKey) (history : List FileEvent) : List Value := history.filterMap (FileEvent.value? key)

def lastQueued (key : StoreKey) (history : List FileEvent) : Option Value := (queuedValues key history).getLast?

def FileEvent.clears : FileEvent → Bool
  | .clearPending => true
  | .clearBucket => true
  | _ => false

def FileEvent.advances (key : StoreKey) (file : File) : FileEvent → Bool
  | .flush i => (file.flushes[i]?).any fun flush => flush.key = key
  | _ => false

def opened (database : String → List UInt8 → Option (List UInt8)) : File := { File.empty with database := database }

def FileStep (allowed : File → FileEvent → Prop) (file : File) (event : FileEvent) (next : File) : Prop :=
  event.Possible file ∧ allowed file event ∧ next = event.run file

def FlushStage.writes : FlushStage → Bool
  | .saving _ => true
  | _ => false

/-- No flusher writes an entry that a clear has dropped from the pending map, and none of the key is
left over from before a clear when a value is queued anew. -/
def FileEvent.Undisturbed (file : File) : FileEvent → Prop
  | .save key _ _ => file.pending key = none → ∀ flush ∈ file.flushes, flush.key ≠ key
  | .flush i => ∀ flush ∈ file.flushes[i]?, flush.stage.writes = true → file.pending flush.key ≠ none
  | _ => True

instance (file : File) : (event : FileEvent) → Decidable (event.Undisturbed file)
  | .save key _ _ => inferInstanceAs (Decidable (file.pending key = none → ∀ flush ∈ file.flushes, flush.key ≠ key))
  | .flush i => inferInstanceAs (Decidable (∀ flush ∈ file.flushes[i]?, flush.stage.writes = true →
      file.pending flush.key ≠ none))
  | .clearPending => inferInstanceAs (Decidable True)
  | .clearBucket => inferInstanceAs (Decidable True)

/-- `LoadDNSCache` reads the pending map and then the database, with other goroutines between. -/
def loadAcross (file file' : File) (key : StoreKey) : Option Value :=
  loadDNSCache { file' with pending := file.pending } key

/-- The value as a load returns it: the database keeps the expiry in seconds. -/
def AsSaved (value loaded : Value) : Prop := loaded = value ∨ loaded = (value.1,value.2/second%2^64*second)

section
variable {file : File} {key : StoreKey} {event : FileEvent}

inductive Seen (key : StoreKey) (file : File) : FileEvent → WriteBehind.Cell Value (List UInt8) → Prop
  | other {event : FileEvent} (hvalue : event.value? key = none) (hclears : event.clears = false)
      (hadvances : event.advances key file = false) : Seen key file event (file.cell key)
  | save (rawMessage : List UInt8) (expireAt : ℕ) :
      Seen key file (.save key rawMessage expireAt) ((file.cell key).queue (rawMessage,expireAt))
  | flush {i : ℕ} {stage : FlushStage} {before after : List (WriteBehind.Stage Value)}
      (hflush : file.flushes[i]? = some ⟨key,stage⟩)
      (hwriters : (file.cell key).writers = before++stage.toStage::after) :
      Seen key file (.flush i) ((file.cell key).advance encode before stage.toStage after)
  | clearPending : Seen key file .clearPending (file.cell key).forget
  | clearBucket : Seen key file .clearBucket (file.cell key).wipe

/-- Flushers of keys as questions have them. -/
def Narrow (file : File) : Prop := ∀ flush ∈ file.flushes, flush.key.qType < 65536

lemma cell_save (file : File) (key : StoreKey) (rm : List UInt8) (ea : ℕ) :
    (saveDNSCacheAsync file key rm ea).cell key = (file.cell key).queue (rm,ea) := by
  have hsr : Flush.stageFor key ⟨key,.start⟩ = some .start := if_pos rfl
  cases hp : file.pending key with
  | none =>
    simp [saveDNSCacheAsync,File.cell,Cell.queue,hp,SaveEntry.toEntry,hsr]
  | some e =>
    cases hs : e.saving with
    | true => simp [saveDNSCacheAsync,File.cell,Cell.queue,hp,SaveEntry.toEntry,hs]
    | false =>
      simp [saveDNSCacheAsync,File.cell,Cell.queue,hp,SaveEntry.toEntry,hs,hsr]

variable {key' : StoreKey}

lemma cell_save_of_ne (file : File) {key : StoreKey} (hke : key' ≠ key) (rm : List UInt8)
    (ea : ℕ) : (saveDNSCacheAsync file key' rm ea).cell key = file.cell key := by
  simp only [saveDNSCacheAsync,File.cell,Function.update_of_ne hke.symm,Cell.mk.injEq, true_and,and_true]
  split_ifs
  · rfl
  · simp [filterMap_append,Flush.stageFor,hke]

lemma cell_flushes (file : File) (key : StoreKey) (fl : List Flush) : File.cell { file with flushes := fl } key =
      { file.cell key with writers := fl.filterMap (Flush.stageFor key) } := rfl

variable {s : FlushStage}

lemma cell_flushStep_of_ne {i : ℕ} (hf : file.flushes[i]? = some ⟨key',s⟩) (hrn : key.qType < 65536)
    (hr' : key'.qType < 65536) (hne : key' ≠ key) : (flushStep file i (.committed none)).cell key = file.cell key := by
  obtain ⟨before,after,hs,he,hst⟩ := Threads.exists_split hf
  have hsk : ∀ st', Flush.stageFor key ⟨key',st'⟩ = none := fun st' => if_neg hne
  have hw : (file.cell key).writers = before.filterMap (Flush.stageFor key)++
      after.filterMap (Flush.stageFor key) := by
    simp [File.cell,hs,hsk]
  have hrm : File.cell { file with flushes := file.flushes.eraseIdx i } key = file.cell key := by
    rw [cell_flushes,he,filterMap_append,← hw]
  have hr : ∀ st', File.cell { file with flushes := file.flushes.set i ⟨key',st'⟩ } key = file.cell key := by
    intro st'
    rw [cell_flushes,hst,filterMap_append,filterMap_cons,hsk,← hw]
  unfold flushStep
  rw [hf]
  cases s with
  | start =>
    dsimp only
    cases file.pending key' with
    | none => exact hrm
    | some => exact hr _
  | saving e =>
    have hc := hr (.saved e)
    simp only [File.cell,Cell.mk.injEq] at hc ⊢
    refine ⟨hc.1,hc.2.1,if_neg fun h => hne ?_⟩
    obtain ⟨hn,ht⟩ := fileKey_injective hrn hr' h.2
    cases key
    cases key'
    simp_all
  | saved =>
    dsimp only
    cases file.pending key' with
    | none => exact hrm
    | some =>
      dsimp only
      split_ifs
      · exact hr _
      · simpa [File.cell,Function.update_of_ne hne.symm] using hrm

lemma cell_flushStep {i : ℕ} (hf : file.flushes[i]? = some ⟨key,s⟩) :
    ∃ before after, (file.cell key).writers = before++s.toStage::after ∧
      (flushStep file i (.committed none)).cell key = (file.cell key).advance encode before s.toStage after := by
  obtain ⟨before,after,hsp,he,hst⟩ := Threads.exists_split hf
  have hsh : ∀ st', Flush.stageFor key ⟨key,st'⟩ = some st'.toStage := fun st' => if_pos rfl
  refine ⟨before.filterMap (Flush.stageFor key),after.filterMap (Flush.stageFor key), by simp [File.cell,hsp,hsh],?_⟩
  have hrm : (file.flushes.eraseIdx i).filterMap (Flush.stageFor key) =
      before.filterMap (Flush.stageFor key)++after.filterMap (Flush.stageFor key) := by
    rw [he,filterMap_append]
  have hr : ∀ st', (file.flushes.set i ⟨key,st'⟩).filterMap (Flush.stageFor key) =
      before.filterMap (Flush.stageFor key)++st'.toStage::after.filterMap (Flush.stageFor key) := by
    intro st'
    rw [hst,filterMap_append,filterMap_cons,hsh]
  unfold flushStep
  rw [hf]
  cases s with
  | start =>
    cases hp : file.pending key with
    | none => simp [File.cell,Cell.advance,FlushStage.toStage,hp,hrm]
    | some => simp [File.cell,Cell.advance,FlushStage.toStage,hp,hr]
  | saving =>
    simp [File.cell,Cell.advance,FlushStage.toStage,hr,saveDNSCache,encode, SaveEntry.toEntry]
  | saved e =>
    cases hp : file.pending key with
    | none => simp [File.cell,Cell.advance,FlushStage.toStage,hp,hrm]
    | some c =>
      by_cases hs : c.sequence = e.sequence
      · simp [File.cell,Cell.advance,FlushStage.toStage,hp,hrm,SaveEntry.toEntry, hs]
      · simp [File.cell,Cell.advance,FlushStage.toStage,hp,hr,SaveEntry.toEntry, hs]

lemma seen_run (hn : Narrow file) (hke : key.qType < 65536) (hp : event.Possible file) :
    Seen key file event ((event.run file).cell key) := by
  cases event with
  | save key' rm ea =>
    by_cases hs : key' = key
    · subst hs
      rw [FileEvent.run,cell_save]
      exact .save rm ea
    · rw [FileEvent.run,cell_save_of_ne file hs]
      exact .other (if_neg hs) rfl rfl
  | flush i =>
    obtain ⟨⟨key',s⟩,hf⟩ : ∃ f, file.flushes[i]? = some f := ⟨_,getElem?_eq_getElem hp⟩
    by_cases hs : key' = key
    · subst hs
      obtain ⟨before,after,hw,hc⟩ := cell_flushStep hf
      rw [FileEvent.run,hc]
      exact .flush hf hw
    · rw [FileEvent.run,cell_flushStep_of_ne hf hke (hn ⟨key',s⟩ (mem_of_getElem? hf)) hs]
      exact .other rfl rfl (by simp [FileEvent.advances,hf,hs])
  | clearPending => exact .clearPending
  | clearBucket =>
    have hcl : file.clears ≠ 0 := Nat.pos_iff_ne_zero.mp hp
    have hc : (FileEvent.clearBucket.run file).cell key = (file.cell key).wipe := by
      simp only [FileEvent.run,Action.run,if_neg hcl]
      rfl
    rw [hc]
    exact .clearBucket

lemma Narrow.run (hn : Narrow file) (hp : event.Possible file) : Narrow (event.run file) := by
  have hf : ∀ (i : ℕ) (f : Flush), file.flushes[i]? = some f → ∀ s,
      Narrow { file with flushes := file.flushes.set i ⟨f.key,s⟩ } := by
    intro i f hg s f' hm
    rcases mem_or_eq_of_mem_set hm with hm | rfl
    · exact hn f' hm
    · exact hn f (mem_of_getElem? hg)
  have he : ∀ i, Narrow { file with flushes := file.flushes.eraseIdx i } := fun i f hm =>
    hn f (mem_of_mem_eraseIdx hm)
  cases event with
  | save =>
    intro f hm
    simp only [FileEvent.run,saveDNSCacheAsync] at hm
    split_ifs at hm
    · exact hn f hm
    · rcases mem_append.mp hm with hm | hm
      · exact hn f hm
      · rw [mem_singleton.mp hm]
        exact hp
  | flush i =>
    simp only [FileEvent.run,flushStep]
    split
    · exact hn
    · rename_i key hg
      split
      · exact he i
      · exact hf i _ hg _
    · rename_i key e hg
      exact hf i _ hg _
    · rename_i key e hg
      split
      · exact he i
      · split_ifs
        · exact hf i _ hg _
        · exact he i
  | clearPending => exact hn
  | clearBucket =>
    simp only [FileEvent.run,Action.run]
    split_ifs <;> exact hn

end

section
variable {key : StoreKey} {hi : List FileEvent} {e : FileEvent}

lemma queuedValues_snoc (key : StoreKey) (hi : List FileEvent) (e : FileEvent) :
    queuedValues key (hi++[e]) = queuedValues key hi++(e.value? key).toList := by
  unfold queuedValues
  rw [filterMap_append]
  cases h : e.value? key <;> simp [h]

lemma lastQueued_snoc_none (h : e.value? key = none) : lastQueued key (hi++[e]) = lastQueued key hi := by
  simp [lastQueued,queuedValues_snoc,h]

lemma lastQueued_snoc_some {value : Value} (h : e.value? key = some value) :
    lastQueued key (hi++[e]) = some value := by
  simp [lastQueued,queuedValues_snoc,h]

@[simp] lemma value?_save (key : StoreKey) (rm : List UInt8) (ea : ℕ) :
    (FileEvent.save key rm ea).value? key = some (rm,ea) := if_pos rfl

end

section
variable {fl fi' : File} {key : StoreKey} {v : Value}

lemma loadAcross_of_queued {e : Entry Value} (h : (fl.cell key).queued = some e) :
    loadAcross fl fi' key = some e.value := by
  obtain ⟨s,hp,rfl⟩ := Option.map_eq_some_iff.mp h
  simp [loadAcross,loadDNSCache,hp,SaveEntry.toEntry]

lemma loadAcross_of_content (h : (fl.cell key).queued = none) (h' : (fi'.cell key).content = some (encode v)) :
    loadAcross fl fi' key = some (v.1,v.2/second%2^64*second) := by
  have hp : fl.pending key = none := Option.map_eq_none_iff.mp h
  have hc : fi'.database key.transportName (fileKey key) = some (encode v) := h'
  simp [loadAcross,loadDNSCache,hp,hc,encode,length_fileValue,drop_fileValue,read_fileValue]

lemma loadAcross_of_holds {P : Value → Prop} (h : Holds encode v (fl.cell key)) (hv : P v)
    (hc : fl.cell key = ⟨none,[],some (encode v)⟩ → ∃ l, P l ∧ (fi'.cell key).content = some (encode l)) :
    ∃ ld l, loadAcross fl fi' key = some ld ∧ P l ∧ AsSaved l ld := by
  cases hq : (fl.cell key).queued with
  | some =>
    refine ⟨v,v,?_,hv,.inl rfl⟩
    rw [loadAcross_of_queued hq,h.value_of_queued hq]
  | none =>
    obtain ⟨l,hl,hs⟩ := hc (h.eq_of_writers_nil (h.writers_nil_iff.mpr hq))
    exact ⟨_,l,loadAcross_of_content hq hs,hl,.inr rfl⟩

lemma writers_nil_iff : (fl.cell key).writers = [] ↔ ∀ f ∈ fl.flushes, f.key ≠ key := by
  simp only [File.cell,filterMap_eq_nil_iff,Flush.stageFor,ite_eq_right_iff,reduceCtorEq,imp_false,ne_eq]

lemma length_writers : (fl.cell key).writers.length = fl.flushes.countP fun f => f.key = key := by
  simp only [File.cell,length_filterMap_eq_countP]
  refine countP_congr fun f _ => ?_
  simp only [Flush.stageFor]
  split_ifs with h <;> simp [h]

end

section
variable {a : File → FileEvent → Prop} {d : String → List UInt8 → Option (List UInt8)}
  {history : List FileEvent} {fl : File} {key : StoreKey}

lemma narrow_of_run {st : File} (hsr : Narrow st) (h : Run (FileStep a) st history fl) : Narrow fl := by
  refine Run.invariant (I := fun _ fl => Narrow fl) hsr ?_ h
  rintro _ s event _ hn ⟨hp,_,rfl⟩
  exact hn.run hp

lemma narrow_opened (d : String → List UInt8 → Option (List UInt8)) : Narrow (opened d) := by
  intro f hm
  cases hm

/-- Without clears the cell keeps the last value that was queued, if any was. -/
def Current (key : StoreKey) (history : List FileEvent) (cell : WriteBehind.Cell Value (List UInt8)) : Prop :=
  (lastQueued key history = none ∧ cell.queued = none ∧ cell.writers = []) ∨
    ∃ value, lastQueued key history = some value ∧ WriteBehind.Holds encode value cell

variable {cl : Cell Value (List UInt8)}

lemma Current.sound (h : Current key history cl) : Sound cl := by
  rcases h with ⟨_,hq,hw⟩ | ⟨value,_,hh⟩
  · obtain ⟨q,ws,c⟩ := cl
    subst hq hw
    exact .idle (by simp)
  · exact hh.sound

lemma Current.writers_nil (h : Current key history cl) (hq : cl.queued = none) : cl.writers = [] := by
  rcases h with ⟨_,_,hw⟩ | ⟨value,_,hh⟩
  · exact hw
  · exact hh.writers_nil_iff.mpr hq

lemma Current.step {event : FileEvent} (h : Current key history (fl.cell key))
    (hc : event.clears = false) (hsn : Seen key fl event cl) : Current key (history++[event]) cl := by
  cases hsn with
  | other hv =>
    unfold Current
    rwa [lastQueued_snoc_none hv]
  | save =>
    exact Or.inr ⟨_,lastQueued_snoc_some (by simp),h.sound.queue encode h.writers_nil _⟩
  | flush hf hw =>
    rcases h with ⟨_,_,hn⟩ | ⟨value,hl,hh⟩
    · rw [hn] at hw
      exact absurd hw (by simp)
    · refine Or.inr ⟨value,?_,hh.advance hw⟩
      rw [lastQueued_snoc_none rfl,hl]
  | clearPending | clearBucket => cases hc

lemma current_of_run (hke : key.qType < 65536)
    (h : Run (FileStep fun _ event => event.clears = false) (opened d) history fl) :
    Current key history (fl.cell key) := by
  refine Run.invariant_along (I := fun history fl => Current key history (fl.cell key)) (Or.inl ⟨rfl,rfl,rfl⟩) ?_ h
  rintro history s event _ hr hc ⟨hp,hcl,rfl⟩
  exact hc.step hcl (seen_run (narrow_of_run (narrow_opened d) hr) hke hp)

lemma undisturbed_of_run (h : Run (FileStep fun _ event => event.clears = false) (opened d) history fl)
    {event : FileEvent} (hps : event.Possible fl) : event.Undisturbed fl := by
  have hc : ∀ key, key.qType < 65536 → fl.pending key = none → ∀ f ∈ fl.flushes, f.key ≠ key := by
    intro key hke hp
    refine writers_nil_iff.mp ((current_of_run hke h).writers_nil ?_)
    exact Option.map_eq_none_iff.mpr hp
  cases event with
  | save key => exact hc key hps
  | flush =>
    intro f hf _ hp
    have hm := mem_of_getElem? hf
    exact hc f.key (narrow_of_run (narrow_opened d) h _ hm) hp _ hm rfl
  | clearPending | clearBucket => trivial

end

section
variable {P : Value → Prop} {f : File} {key : StoreKey} {ev : FileEvent} {c : Cell Value (List UInt8)}

lemma FileEvent.Undisturbed.writers_nil {rm : List UInt8} {ea : ℕ}
    (h : (FileEvent.save key rm ea).Undisturbed f) (hq : (f.cell key).queued = none) :
    (f.cell key).writers = [] := writers_nil_iff.mpr (h (Option.map_eq_none_iff.mp hq))

lemma FileEvent.Undisturbed.queued {i : ℕ} {st : FlushStage} (h : (FileEvent.flush i).Undisturbed f)
    (hf : f.flushes[i]? = some ⟨key,st⟩) {ha : Entry Value}
    (hsg : st.toStage = .taken ha) : (f.cell key).queued ≠ none := by
  intro hq
  cases st with
  | start | saved e => cases hsg
  | saving e => exact h ⟨key,.saving e⟩ hf rfl (Option.map_eq_none_iff.mp hq)

variable (hu : ev.Undisturbed f) (hs : Seen key f ev c)
include hu hs

lemma sound_step (h : Sound (f.cell key)) : Sound c := by
  cases hs with
  | other => exact h
  | save => exact (h.queue encode hu.writers_nil _).sound
  | flush _ hw => exact h.advance hw
  | clearPending => exact h.forget
  | clearBucket => exact h.wipe

lemma purged_step (h : Purged P (f.cell key)) (hP : ∀ value, ev.value? key = some value → P value) : Purged P c := by
  cases hs with
  | other => exact h
  | save => exact h.queue hu.writers_nil (hP _ (by simp))
  | flush _ hw => exact h.advance hw
  | clearPending => exact .of_queued_none rfl
  | clearBucket => exact h.wipe

lemma only_step (h : Only encode P (f.cell key)) (hp : Purged P (f.cell key)) : Only encode P c := by
  cases hs with
  | other _ _ _ | save rawMessage expireAt | clearPending => exact h
  | flush hf hw =>
    exact h.advance hp hw fun ha hsg => hu.queued hf hsg
  | clearBucket => exact .wipe _

end

section
variable {database : String → List UInt8 → Option (List UInt8)} {history during : List FileEvent}
  {file file' : File} {key : StoreKey}

/-- Values that were the last queued one at some moment of `during`. -/
def LatestWithin (key : StoreKey) (history during : List FileEvent) (value : Value) : Prop :=
  ∃ sofar, sofar <+: during ∧ lastQueued key (history++sofar) = some value

variable {value : Value} {event : FileEvent}

lemma LatestWithin.snoc (h : LatestWithin key history during value) (event : FileEvent) :
    LatestWithin key history (during++[event]) value := by
  obtain ⟨s,hs,hl⟩ := h
  exact ⟨s,hs.trans (prefix_append _ _),hl⟩

lemma latestWithin_of_value (h : event.value? key = some value) : LatestWithin key history (during++[event]) value :=
  ⟨during++[event],prefix_rfl,by rw [← append_assoc]; exact lastQueued_snoc_some h⟩

section
variable (hk : key.qType < 65536)
  (h : Run (FileStep fun _ event => event.clears = false) (opened database) history file)
  (hls : lastQueued key history = some value)
include hk h hls

lemma content_of_run (hcl : file.cell key = ⟨none,[],some (encode value)⟩)
    (h' : Run (FileStep fun _ event => event.clears = false) file during file') :
    ∃ l, LatestWithin key history during l ∧ (file'.cell key).content = some (encode l) := by
  have hin : Purged (LatestWithin key history during) (file'.cell key) ∧
      Only encode (LatestWithin key history during) (file'.cell key) ∧
      (file'.cell key).content.isSome := by
    refine Run.invariant_along (I := fun during file' => Purged (LatestWithin key history during) (file'.cell key) ∧
      Only encode (LatestWithin key history during) (file'.cell key) ∧
      (file'.cell key).content.isSome) ?_ ?_ h'
    · rw [hcl]
      refine ⟨.of_queued_none rfl,fun c hc => ?_,rfl⟩
      cases hc
      exact ⟨value,⟨[], nil_prefix,by rwa [append_nil]⟩,rfl⟩
    · rintro during s event _ hr ⟨hp,ho,hc⟩ ⟨hps,hcr,rfl⟩
      have hun := undisturbed_of_run (h.append hr) hps
      have hsn := seen_run (narrow_of_run (narrow_opened database) (h.append hr)) hk hps
      have hp := hp.mono fun _ hv => hv.snoc event
      have ho := ho.mono fun _ hv => hv.snoc event
      refine ⟨purged_step hun hsn hp fun _ => latestWithin_of_value, only_step hun hsn ho hp,?_⟩
      generalize (event.run s).cell key = ce at hsn ⊢
      cases hsn with
      | other _ _ _ | save rawMessage expireAt | clearPending => exact hc
      | flush => exact (s.cell key).isSome_content_advance hc
      | clearBucket => cases hcr
  obtain ⟨c,hc⟩ := Option.isSome_iff_exists.mp hin.2.2
  obtain ⟨l,hl,rfl⟩ := hin.2.1 c hc
  exact ⟨l,hl,hc⟩

lemma load_of_run (hh : Holds encode value (file.cell key))
    (h' : Run (FileStep fun _ event => event.clears = false) file during file') :
    ∃ ld l, loadAcross file file' key = some ld ∧ LatestWithin key history during l ∧ AsSaved l ld := by
  refine loadAcross_of_holds hh ⟨[], nil_prefix,by rwa [append_nil]⟩ fun hc => ?_
  exact content_of_run hk h hls hc h'

end

def exampleKey : StoreKey := ⟨"dns","example.",1⟩

/-- In every interleaving of saves and flushers that has no clear, at most one flusher runs for a key; a
load returns the value that was queued last, at a moment during the load; and when no flusher of the
key is left, the database holds the value queued last and nothing is pending. -/
theorem load_returns_last_queued (hkey : key.qType < 65536)
    (h : Run (FileStep fun _ event => event.clears = false) (opened database) history file)
    (h' : Run (FileStep fun _ event => event.clears = false) file during file') :
    file.flushes.countP (fun flush => flush.key = key) ≤ 1 ∧ ∀ value, lastQueued key history = some value →
      (∃ loaded, loadDNSCache file key = some loaded ∧ AsSaved value loaded) ∧
      (∃ loaded latest, loadAcross file file' key = some loaded ∧ LatestWithin key history during latest ∧
        AsSaved latest loaded) ∧ ((∀ flush ∈ file.flushes, flush.key ≠ key) → file.pending key = none ∧
        file.database key.transportName (fileKey key) = some (fileValue value.1 value.2)) := by
  have hcr := current_of_run hkey h
  refine ⟨length_writers ▸ hcr.sound.length_writers,fun value hlt => ?_⟩
  obtain ⟨_,hlt',hh⟩ := hcr.resolve_left fun hn => by simp [hlt] at hn
  obtain rfl := Option.some.inj (hlt.symm.trans hlt')
  refine ⟨?_,load_of_run hkey h hlt hh h',fun hf => ?_⟩
  · obtain ⟨loaded,latest,hld,⟨s,hsf,hl⟩,hs⟩ := load_of_run hkey h hlt hh .nil
    rw [prefix_nil.mp hsf,append_nil,hlt] at hl
    cases hl
    exact ⟨loaded,hld,hs⟩
  · have hc := hh.eq_of_writers_nil (writers_nil_iff.mpr hf)
    exact ⟨Option.map_eq_none_iff.mp (congrArg Cell.queued hc), congrArg Cell.content hc⟩

/-- Two values, the second queued while the first is written: the flusher goes round again. -/
theorem load_returns_second_value :
    let history : List FileEvent := [.save exampleKey [1] 5000000000,.flush 0,.save exampleKey [2] 7500000000,
      .flush 0,.flush 0,.flush 0,.flush 0,.flush 0]
    let file := history.foldl FileEvent.run (opened fun _ _ => none)
    file.pending exampleKey = none ∧
      file.database "dns" (fileKey exampleKey) = some (fileValue [2] 7500000000) := by
  intro history file
  have hr : Run (FileStep fun _ event => event.clears = false) (opened fun _ _ => none) history file := by
    refine .cons ⟨by decide,rfl,rfl⟩ (.cons ⟨by decide,rfl,rfl⟩ (.cons ⟨by decide,rfl,rfl⟩ (.cons ⟨?_,rfl,rfl⟩
      (.cons ⟨?_,rfl,rfl⟩ (.cons ⟨?_,rfl,rfl⟩ (.cons ⟨?_,rfl,rfl⟩ (.cons ⟨?_,rfl,rfl⟩ .nil)))))))
    all_goals decide
  have hke : exampleKey.qType < 65536 := by decide
  have hl := load_returns_last_queued hke hr .nil
  exact (hl.2 ([2],7500000000) rfl).2.2 (by decide)

end

variable {database : String → List UInt8 → Option (List UInt8)} {history during : List FileEvent}
  {sr file file' : File} {key : StoreKey} {P : Value → Prop} {value : Value}

def sections (key : StoreKey) : File → List FileEvent → ℕ
  | _, [] => 0
  | file, event :: events => (event.advances key file).toNat+sections key (event.run file) events

/-- Neither a value of the key is queued nor anything cleared. -/
def Quiet (key : StoreKey) (events : List FileEvent) : Prop :=
  ∀ event ∈ events, event.value? key = none ∧ event.clears = false

lemma queuedValues_append (key : StoreKey) (fr sn : List FileEvent) :
    queuedValues key (fr++sn) = queuedValues key fr++queuedValues key sn :=
  filterMap_append

variable {f sc : List FileEvent} {al : File → FileEvent → Prop} {after before : List FileEvent}

lemma Quiet.left (h : Quiet key (f++sc)) : Quiet key f :=
  fun event hm => h event (mem_append_left _ hm)

lemma Quiet.right (h : Quiet key (f++sc)) : Quiet key sc :=
  fun event hm => h event (mem_append_right _ hm)

lemma Quiet.last {es : List FileEvent} {event : FileEvent} (h : Quiet key (es++[event])) :
    event.value? key = none ∧ event.clears = false := h event (by simp)

lemma eq_foldl_of_run (h : Run (FileStep al) sr history file) : file = history.foldl FileEvent.run sr := by
  refine Run.invariant (I := fun history file => file = history.foldl FileEvent.run sr) rfl ?_ h
  rintro history s event _ rfl ⟨_,_,rfl⟩
  rw [foldl_append]
  rfl

lemma sections_snoc (key : StoreKey) (file : File) (es : List FileEvent) (event : FileEvent) :
    sections key file (es++[event]) =
      sections key file es+(event.advances key (es.foldl FileEvent.run file)).toNat := by
  induction es generalizing file with
  | nil => simp [sections]
  | cons f es ih =>
    simp only [cons_append,sections,ih,foldl_cons]
    omega

section
variable (hk : key.qType < 65536)
include hk

section
variable (hst : Narrow sr)
include hst

lemma purged_of_run (hp : Purged P (sr.cell key))
    (h : Run (FileStep fun file event => event.Undisturbed file) sr history file) :
    Purged (fun value => P value ∨ value ∈ queuedValues key history) (file.cell key) := by
  refine Run.invariant_along (I := fun history file =>
    Purged (fun value => P value ∨ value ∈ queuedValues key history) (file.cell key))
    (hp.mono fun _ => Or.inl) ?_ h
  rintro history s event _ hr hp ⟨hps,hun,rfl⟩
  have hg := hp.mono fun value hv =>
    hv.imp_right fun hm => (queuedValues_snoc key history event ▸ mem_append_left _ hm :
      value ∈ queuedValues key (history++[event]))
  refine purged_step hun (seen_run (narrow_of_run hst hr) hk hps) hg
    fun value hv => Or.inr ?_
  simp [queuedValues_snoc,hv]

lemma only_of_run (hpr : Purged P (sr.cell key)) (ho : Only encode P (sr.cell key))
    (h : Run (FileStep fun file event => event.Undisturbed file) sr history file) :
    Only encode (fun value => P value ∨ value ∈ queuedValues key history) (file.cell key) := by
  refine Run.invariant_along (I := fun history file =>
    Only encode (fun value => P value ∨ value ∈ queuedValues key history) (file.cell key))
    (ho.mono fun _ => Or.inl) ?_ h
  rintro history s event _ hr ho ⟨hp,hun,rfl⟩
  have ho' := only_step hun (seen_run (narrow_of_run hst hr) hk hp) ho
    (purged_of_run hk hst hpr hr)
  refine ho'.mono fun value hv => hv.imp_right fun hm => ?_
  rw [queuedValues_snoc]
  exact mem_append_left _ hm

variable (h : Run (FileStep al) sr history file) (hq : Quiet key history)
include h hq

lemma quiet_invariant {I : List FileEvent → File → Prop} (hn : I [] sr)
    (hsp : ∀ history s event, Run (FileStep al) sr history s → Quiet key history → I history s →
      (event.advances key s = false ∧ (event.run s).cell key = s.cell key) ∨
      (∃ before st after, event.advances key s = true ∧ (s.cell key).writers = before++st::after ∧
        (event.run s).cell key = (s.cell key).advance encode before st after) →
      I (history++[event]) (event.run s)) : I history file := by
  revert hq
  refine Run.invariant_along (I := fun history file => Quiet key history → I history file) (fun _ => hn) ?_ h
  rintro history s event _ hr ih ⟨hp,_,rfl⟩ hq
  have hsn := seen_run (narrow_of_run hst hr) hk hp
  refine hsp history s event hr hq.left (ih hq.left) ?_
  obtain ⟨hv,hc⟩ := hq.last
  generalize (event.run s).cell key = ce at hsn ⊢
  cases hsn with
  | other _ _ ha => exact .inl ⟨ha,rfl⟩
  | save => simp at hv
  | flush hf hw => exact .inr ⟨_,_,_,by simp [FileEvent.advances,hf],hw,rfl⟩
  | clearPending | clearBucket => cases hc

lemma holds_of_run (hh : Holds encode value (sr.cell key)) : Holds encode value (file.cell key) := by
  refine quiet_invariant (I := fun _ file => Holds encode value (file.cell key)) hk hst h hq hh ?_
  rintro _ s event _ _ hs (⟨_,hc⟩ | ⟨before,st,after,_,hw,hc⟩)
  · rwa [hc]
  · rw [hc]
    exact hs.advance hw

lemma stored_of_run (hc : sr.cell key = ⟨none,[],some (encode value)⟩) :
    file.cell key = ⟨none,[],some (encode value)⟩ := by
  refine quiet_invariant (I := fun _ file => file.cell key = ⟨none,[],some (encode value)⟩) hk hst h hq
    hc ?_
  rintro _ s event _ _ hs (⟨_,hsm⟩ | ⟨before,st,after,_,hw,_⟩)
  · rw [hsm,hs]
  · simp [hs] at hw

lemma sections_add_work_le (hh : Holds encode value (sr.cell key)) :
    sections key sr history+(file.cell key).work ≤ (sr.cell key).work := by
  refine quiet_invariant (I := fun history file =>
    sections key sr history+(file.cell key).work ≤ (sr.cell key).work) hk hst h hq (by simp [sections]) ?_
  intro history s event hr hq hle he
  have hs := holds_of_run hk hst hr hq hh
  rw [sections_snoc,← eq_foldl_of_run hr]
  obtain ⟨ha,hc⟩ | ⟨before,st,after,ha,hw,hc⟩ := he
  · rw [ha,hc]
    exact hle
  · have hsp := hs.work_advance hw
    rw [ha,hc,Bool.toNat_true]
    omega

end

lemma sound_of_run (h : Run (FileStep fun file event => event.Undisturbed file) (opened database) history file) :
    Sound (file.cell key) := by
  refine Run.invariant_along (I := fun _ file => Sound (file.cell key)) (current_of_run hk .nil).sound ?_ h
  rintro history s event _ hr hs ⟨hp,hun,rfl⟩
  exact sound_step hun (seen_run (narrow_of_run (narrow_opened database) hr) hk hp) hs

lemma purged_of_clear {m : List FileEvent}
    (h : Run (FileStep fun file event => event.Undisturbed file) (opened database)
      (before++.clearPending::m++.clearBucket::after) file) :
    Purged (fun value => value ∈ queuedValues key (m++after)) (file.cell key) ∧
      Only encode (fun value => value ∈ queuedValues key (m++after)) (file.cell key) := by
  obtain ⟨c,hc,hr⟩ := h.split
  obtain ⟨b,hb,hm⟩ := hc.split
  obtain ⟨e,⟨hp,_,rfl⟩,hm⟩ := hm.uncons
  obtain ⟨r,⟨hp',_,rfl⟩,ha⟩ := hr.uncons
  have he := (narrow_of_run (narrow_opened database) hb).run hp
  have hn := narrow_of_run (narrow_opened database) hc
  -- nothing is pending when the clear begins, and nothing stored when it returns
  have hpr : Purged (fun _ => False) ((FileEvent.clearPending.run b).cell key) := .of_queued_none rfl
  have hmd := purged_of_run hk he hpr hm
  have hcl : (FileEvent.clearBucket.run c).cell key = (c.cell key).wipe := by
    have hsn := seen_run hn hk hp'
    generalize (FileEvent.clearBucket.run c).cell key = ce at hsn ⊢
    cases hsn with
    | other _ hcr => cases hcr
    | clearBucket => rfl
  have hw := hcl ▸ hmd.wipe
  have ho : Only encode (fun value => False ∨ value ∈ queuedValues key m)
      ((FileEvent.clearBucket.run c).cell key) := hcl ▸ Only.wipe _
  have hmm : ∀ value, (False ∨ value ∈ queuedValues key m) ∨ value ∈ queuedValues key after →
      value ∈ queuedValues key (m++after) := by
    simp [queuedValues_append]
  exact ⟨(purged_of_run hk (hn.run hp') hw ha).mono hmm, (only_of_run hk (hn.run hp') hw ho ha).mono hmm⟩

end

/-- In every history in which no flusher is left over from before a clear when it writes or its key is
saved again: once a clear has returned, loads only return values that were queued after it began; and a
value that nothing replaces or clears is returned by every load from then on, its flusher has at most five sections to
go and ends with them, and once it has ended the value is in the database. -/
theorem cleared_values_stay_away (hkey : key.qType < 65536)
    (h : Run (FileStep fun file event => event.Undisturbed file) (opened database) history file)
    (h' : Run (FileStep fun file event => event.Undisturbed file) file during file') :
    (∀ before middle after, history = before++.clearPending::middle++.clearBucket::after →
      ∀ loaded, loadAcross file file' key = some loaded →
        ∃ value ∈ queuedValues key (middle++after++during), AsSaved value loaded) ∧
    (∀ before after rawMessage expireAt, history = before++.save key rawMessage expireAt::after →
      Quiet key (after++during) →
        (∃ loaded, loadAcross file file' key = some loaded ∧ AsSaved (rawMessage,expireAt) loaded) ∧
        sections key file during ≤ (file.cell key).work ∧ (file.cell key).work ≤ 5 ∧
        (sections key file during = (file.cell key).work → ∀ flush ∈ file'.flushes, flush.key ≠ key) ∧
        ((∀ flush ∈ file'.flushes, flush.key ≠ key) → file'.pending key = none ∧
          file'.database key.transportName (fileKey key) = some (fileValue rawMessage expireAt))) := by
  constructor
  · rintro before middle after rfl loaded hl
    obtain ⟨hp,ho⟩ := purged_of_clear hkey h
    have hm : ∀ value, value ∈ queuedValues key (middle++after) ∨ value ∈ queuedValues key during →
        value ∈ queuedValues key (middle++after++during) := by
      intro value hv
      rw [queuedValues_append]
      exact mem_append.mpr hv
    cases hq : (file.cell key).queued with
    | some e =>
      rw [loadAcross_of_queued hq] at hl
      cases hl
      exact ⟨e.value,hm _ (Or.inl (hp.queued e hq)),Or.inl rfl⟩
    | none =>
      cases hc : (file'.cell key).content with
      | none =>
        have hpn : file.pending key = none := Option.map_eq_none_iff.mp hq
        have hc : file'.database key.transportName (fileKey key) = none := hc
        simp [loadAcross,loadDNSCache,hpn,hc] at hl
      | some c =>
        have ho' := only_of_run hkey (narrow_of_run (narrow_opened database) h) hp ho h'
        obtain ⟨value,hv,rfl⟩ := ho' c hc
        rw [loadAcross_of_content hq hc] at hl
        cases hl
        exact ⟨value,hm value hv,Or.inr rfl⟩
  · rintro before after rawMessage expireAt rfl hqt
    have hn := narrow_of_run (narrow_opened database) h
    have hh : Holds encode (rawMessage,expireAt) (file.cell key) := by
      obtain ⟨st,hb,hr⟩ := h.split
      obtain ⟨s,⟨hps,hun,rfl⟩,ha⟩ := hr.uncons
      have hn := (narrow_of_run (narrow_opened database) hb).run hps
      refine holds_of_run hkey hn ha hqt.left ?_
      rw [FileEvent.run,cell_save]
      exact (sound_of_run hkey hb).queue encode hun.writers_nil _
    obtain ⟨loaded,_,hl,rfl,hs⟩ := loadAcross_of_holds (P := (· = ⟨rawMessage,expireAt⟩)) hh rfl fun hcl =>
      ⟨_,rfl,congrArg Cell.content (stored_of_run hkey hn h' hqt.right hcl)⟩
    have hle := sections_add_work_le hkey hn h' hqt.right hh
    have hh' := holds_of_run hkey hn h' hqt.right hh
    refine ⟨⟨loaded,hl,hs⟩,by omega,(file.cell key).work_le,fun hsc => ?_,fun hf => ?_⟩
    · exact writers_nil_iff.mp (hh'.writers_of_work (by omega))
    · have hcl := hh'.eq_of_writers_nil (writers_nil_iff.mpr hf)
      exact ⟨Option.map_eq_none_iff.mp (congrArg Cell.queued hcl),congrArg Cell.content hcl⟩

/-- A flusher that has taken an entry before the clear writes it after the clear has returned. And one
that has written takes the value queued after the clear for its own, the sequence starting over: it
drops it, and the new flusher finds nothing to write. -/
theorem clear_misses_flushers : (∃ (before after : List FileEvent) (file : File),
      Run (FileStep fun _ _ => True) (opened fun _ _ => none) (before++.clearPending::[]++.clearBucket::after) file ∧
      loadDNSCache file exampleKey = some ([1],5000000000) ∧ queuedValues exampleKey after = []) ∧
    (∃ (before after : List FileEvent) (file : File), Run (FileStep fun _ _ => True) (opened fun _ _ => none)
        (before++.clearPending::[]++.clearBucket::.save exampleKey [2] 7000000000::after) file ∧
      Quiet exampleKey after ∧ file.flushes = [] ∧ loadDNSCache file exampleKey = none) := by
  constructor
  · refine ⟨[.save exampleKey [1] 5000000000,.flush 0],[.flush 0],_,
      .cons ⟨by decide,trivial,rfl⟩ (.cons ⟨by decide,trivial,rfl⟩ (.cons ⟨by decide,trivial,rfl⟩
      (.cons ⟨by decide,trivial,rfl⟩ (.cons ⟨by decide,trivial,rfl⟩ .nil)))),?_,rfl⟩
    decide +kernel
  · refine ⟨[.save exampleKey [1] 5000000000,.flush 0,.flush 0],[.flush 0,.flush 0],_,
      .cons ⟨by decide,trivial,rfl⟩ (.cons ⟨by decide,trivial,rfl⟩ (.cons ⟨by decide,trivial,rfl⟩
      (.cons ⟨by decide,trivial,rfl⟩ (.cons ⟨by decide,trivial,rfl⟩ (.cons ⟨by decide,trivial,rfl⟩
      (.cons ⟨by decide,trivial,rfl⟩ (.cons ⟨by decide,trivial,rfl⟩ .nil))))))),?_,?_,?_⟩
    · intro event hm
      fin_cases hm <;> exact ⟨rfl,rfl⟩
    all_goals rfl

/-- A flusher that is done before the clear: the value queued after it is kept, and is in the database after three
sections. -/
theorem cleared_values_stay_away_once :
    let history : List FileEvent := [.save exampleKey [1] 5000000000,.flush 0,.flush 0,.flush 0,.clearPending,
      .clearBucket,.save exampleKey [2] 7000000000]
    let file := history.foldl FileEvent.run (opened fun _ _ => none)
    let file' := [.flush 0,.flush 0,.flush 0].foldl FileEvent.run file
    (∃ loaded, loadAcross file file' exampleKey = some loaded ∧ AsSaved ([2],7000000000) loaded) ∧
      file'.database "dns" (fileKey exampleKey) = some (fileValue [2] 7000000000) := by
  intro history file file'
  have hr : Run (FileStep fun file event => event.Undisturbed file) (opened fun _ _ => none) history file := by
    refine .cons ⟨?_,?_,rfl⟩ (.cons ⟨?_,?_,rfl⟩ (.cons ⟨?_,?_,rfl⟩ (.cons ⟨?_,?_,rfl⟩ (.cons ⟨?_,?_,rfl⟩
      (.cons ⟨?_,?_,rfl⟩ (.cons ⟨?_,?_,rfl⟩ .nil))))))
    all_goals decide
  have hr' : Run (FileStep fun file event => event.Undisturbed file) file [.flush 0,.flush 0,.flush 0] file' := by
    refine .cons ⟨?_,?_,rfl⟩ (.cons ⟨?_,?_,rfl⟩ (.cons ⟨?_,?_,rfl⟩ .nil))
    all_goals decide
  have hke : exampleKey.qType < 65536 := by decide
  obtain ⟨hl,-,-,he,hd⟩ := (cleared_values_stay_away hke hr hr').2 (history.take 6) [] [2] 7000000000 rfl (by
    intro event hm
    fin_cases hm <;> exact ⟨rfl,rfl⟩)
  exact ⟨hl,(hd (he (by decide))).2⟩

end SingBox.CacheFile
