import SingBox.Experimental.FakeIPFile

/-! The delayed save of the FakeIP metadata (`FakeIPSaveMetadataAsync` of `experimental/cachefile/fakeip.go`)
over runs of `Create`, firings of the timer and restarts: which cursors a firing writes, and which addresses a
store that goes on from them hands out. -/
namespace SingBox.FakeIP
open Adapter List

/-- A firing of the timer, if there is one, saves the cursors that the store has. -/
def FiringSavesCursors (s : Store FakeIPFile) : Prop :=
  s.storage.saveMetadataTimer ≠ none → (ServiceEvent.timer.run s).storage.saved = some s.metadata

/-- Once the timer is there, `Create` leaves the cursors as they are. -/
def ServiceEvent.KeepsCursors (s : Store FakeIPFile) : ServiceEvent → Prop
  | .create domain isIPv6 =>
      s.storage.saveMetadataTimer = none ∨ (s.create cacheFileStorage domain isIPv6).1.metadata = s.metadata
  | _ => True

/-- The address that a call of `Create` takes for a domain that has none. -/
def Store.taken (s : Store FakeIPFile) (domain : Domain) (isIPv6 : Bool) : List Addr :=
  match s.storage.fakeIPLoadDomain domain isIPv6, (s.create cacheFileStorage domain isIPv6).2 with
  | none, .ok address => [address]
  | _, _ => []

/-- The store with the addresses that were handed out, and those of them that were when the metadata was last
saved. A new process knows of no others. -/
structure Ledger where
  store : Store FakeIPFile
  handed : List Addr := []
  saved : List Addr := []

def Ledger.run (l : Ledger) (event : ServiceEvent) : Ledger :=
  let store := event.run l.store
  match event with
  | .start _ _ => ⟨store,l.saved,l.saved⟩
  | .create domain isIPv6 => ⟨store,l.handed++l.store.taken domain isIPv6,l.saved⟩
  | .reset => ⟨store,l.handed,l.saved⟩
  | .timer => ⟨store,l.handed,if l.store.storage.saveMetadataTimer.isSome then l.handed else l.saved⟩
  | .close => ⟨store,l.handed,l.handed⟩

/-- A start goes on from saved metadata; a firing comes while the timer has the cursors of the store, and `Create` does
not come to the end of the range. -/
def ServiceEvent.GoesOn (l : Ledger) : ServiceEvent → Prop
  | .start inet4Range inet6Range => ∃ metadata, l.store.storage.saved = some metadata ∧
      metadata.inet4Range = inet4Range ∧ metadata.inet6Range = inet6Range
  | .create domain isIPv6 => l.store.storage.fakeIPLoadDomain domain isIPv6 = none →
      (l.store.current isIPv6).next ≠ l.store.last isIPv6 ∧
        (l.store.range isIPv6).contains (l.store.current isIPv6).next = true
  | .timer => ∀ metadata, l.store.storage.saveMetadataTimer = some metadata → metadata = l.store.metadata
  | _ => True

section
variable {s : Store FakeIPFile}

lemma firingSavesCursors_iff : FiringSavesCursors s ↔ ∀ m, s.storage.saveMetadataTimer = some m → m = s.metadata := by
  unfold FiringSavesCursors ServiceEvent.run
  cases s.storage.saveMetadataTimer with
  | none => simp
  | some => simp [FakeIPFile.fakeIPSaveMetadata,FakeIPFile.saved]

lemma record_storage (s : Store FakeIPFile) (a : Addr) (d : Domain) :
    (s.record cacheFileStorage a d).storage.saved = s.storage.saved ∧
      (s.record cacheFileStorage a d).storage.saveMetadataTimer =
        some (s.storage.saveMetadataTimer.getD s.metadata) := by
  obtain ⟨hs,ht,-⟩ := fakeIPStore_keeps s.storage a d
  refine ⟨hs,?_⟩
  change some ((s.storage.fakeIPStore a d).1.saveMetadataTimer.getD s.metadata) = _
  rw [ht]

/-- `Create` keeps the firing right exactly where it keeps the cursors. -/
lemma keepsCursors_create_iff (h : FiringSavesCursors s) (d : Domain) (isIPv6 : Bool) :
    (ServiceEvent.create d isIPv6).KeepsCursors s ↔ FiringSavesCursors (s.create cacheFileStorage d isIPv6).1 := by
  have hc := create_cases cacheFileStorage s d isIPv6
  simp only [ServiceEvent.KeepsCursors]
  generalize s.create cacheFileStorage d isIPv6 = c at hc ⊢
  cases hc with
  | found a hl | missing err hl hcr => exact ⟨fun _ => h,fun _ => .inr rfl⟩
  | taken a =>
    rw [firingSavesCursors_iff] at h ⊢
    have ht := (record_storage (s.setCurrent isIPv6 a) a d).2
    rw [storage_setCurrent] at ht
    rw [ht]
    simp only [Option.some.injEq,forall_eq']
    cases ho : s.storage.saveMetadataTimer with
    | none => exact ⟨fun _ => rfl,fun _ => .inl rfl⟩
    | some m =>
      obtain rfl := h m ho
      constructor
      · rintro (hn | hs)
        · cases hn
        · exact hs.symm
      · exact fun hs => .inr hs.symm

lemma start_storage (s : Store FakeIPFile) (inet4Range inet6Range : Prefix) :
    ((ServiceEvent.start inet4Range inet6Range).run s).storage.saved = none ∧
      ((ServiceEvent.start inet4Range inet6Range).run s).storage.saveMetadataTimer = none := by
  obtain ⟨b,hr,hb,-⟩ := fakeIPMetadata_cases s.storage.reopened
  have hf : (cacheFileStorage.fakeIPMetadata s.storage.reopened).1 =
      { s.storage.reopened with address := b } := congrArg Prod.fst hr
  simp only [ServiceEvent.run]
  obtain ⟨m,-,-,-,hs⟩ | ⟨-,hs⟩ := start_cases cacheFileStorage inet4Range inet6Range s.storage.reopened
  · rw [hs,hf]
    exact ⟨hb,rfl⟩
  · rw [hs,hf]
    obtain ⟨hsv,ht,-⟩ := fakeIPReset_keeps { s.storage.reopened with address := b }
    refine ⟨?_,ht⟩
    rcases hsv with hn | hsm
    · exact hn
    · exact hsm.trans hb

lemma keepsCursors_iff (h : FiringSavesCursors s) (e : ServiceEvent) :
    e.KeepsCursors s ↔ FiringSavesCursors (e.run s) := by
  cases e with
  | create d isIPv6 => exact keepsCursors_create_iff h d isIPv6
  | start inet4Range inet6Range =>
    refine ⟨fun _ hs => ?_,fun _ => trivial⟩
    exact absurd (start_storage s inet4Range inet6Range).2 hs
  | reset =>
    refine ⟨fun _ => ?_,fun _ => trivial⟩
    rw [firingSavesCursors_iff] at h ⊢
    change ∀ m, s.storage.fakeIPReset.1.saveMetadataTimer = some m → _
    rw [(fakeIPReset_keeps s.storage).2.1]
    exact h
  | timer =>
    refine ⟨fun _ => ?_,fun _ => trivial⟩
    rw [firingSavesCursors_iff] at h ⊢
    cases ht : s.storage.saveMetadataTimer with
    | none =>
      simp only [ServiceEvent.run,ht]
      exact ht ▸ h
    | some =>
      simp only [ServiceEvent.run,ht]
      exact h
  | close =>
    refine ⟨fun _ => ?_,fun _ => trivial⟩
    rw [firingSavesCursors_iff] at h ⊢
    exact h

end

section

def number : Addr → ℕ
  | .invalid => 0
  | .v4 bits => bits.toNat
  | .v6 bits _ => bits.toNat

variable {ad : Addr} {isIPv6 : Bool} {inet4Range inet6Range : Prefix}

lemma toNat_succ {w : ℕ} {b : BitVec (w+1)} (h : b ≠ BitVec.allOnes (w+1)) : (b+1#(w+1)).toNat = b.toNat+1 := by
  have hne : b.toNat ≠ 2^(w+1)-1 := fun heq => h (BitVec.eq_of_toNat_eq (by simp [heq]))
  have hlt := b.isLt
  rw [BitVec.toNat_add,BitVec.toNat_one (Nat.succ_pos w)]
  exact Nat.mod_eq_of_lt (by omega)

lemma number_next (h : ad.next.isValid = true) : number ad.next = number ad+1 ∧ ad.next.is4 = ad.is4 := by
  cases ad with
  | invalid => cases h
  | v4 bits | v6 bits zone =>
    rw [Addr.next] at h ⊢
    split_ifs at h ⊢ with hl
    · cases h
    · exact ⟨toNat_succ hl,rfl⟩

lemma isValid_of_contains {r : Prefix} (h : r.contains ad = true) : r.isValid = true ∧ ad.isValid = true := by
  unfold Prefix.contains at h
  rw [Bool.and_eq_true] at h
  obtain ⟨hr,h⟩ := h
  refine ⟨hr,?_⟩
  cases ad with
  | invalid => cases hr : r.addr <;> rw [hr] at h <;> cases h
  | v4 bits | v6 bits zone => rfl

def Metadata.current (metadata : Metadata) (isIPv6 : Bool) : Addr :=
  if isIPv6 then metadata.inet6Current else metadata.inet4Current

lemma current_metadata (s : Store FakeIPFile) (isIPv6 : Bool) : s.metadata.current isIPv6 = s.current isIPv6 := by
  cases isIPv6 <;> rfl

/-- Each range is of its family. -/
def OwnFamilies (inet4Range inet6Range : Prefix) : Prop :=
  (inet4Range.isValid = true → inet4Range.addr.is4 = true) ∧ (inet6Range.isValid = true → inet6Range.addr.is4 = false)

/-- What was handed out lies at or below the cursor of its family, and what was when the metadata was saved at
or below the saved one. -/
structure Ledger.Sound (l : Ledger) : Prop where
  families : OwnFamilies l.store.inet4Range l.store.inet6Range
  nodup : l.handed.Nodup
  below : ∀ a ∈ l.handed, number a ≤ number (l.store.current !a.is4)
  saved_nodup : l.saved.Nodup
  saved_ranges : ∀ metadata, l.store.storage.saved = some metadata →
    metadata.inet4Range = l.store.inet4Range ∧ metadata.inet6Range = l.store.inet6Range
  saved_below : ∀ metadata, l.store.storage.saved = some metadata →
    ∀ a ∈ l.saved, number a ≤ number (metadata.current !a.is4)

variable {l : Ledger}

lemma OwnFamilies.is4_range {s : Store FakeIPFile} (h : OwnFamilies s.inet4Range s.inet6Range)
    (hc : (s.range isIPv6).contains ad = true) : ad.is4 = !isIPv6 := by
  rw [is4_of_contains hc]
  cases isIPv6 with
  | false => exact h.1 (isValid_of_contains hc).1
  | true => exact h.2 (isValid_of_contains hc).1

section
variable (h : l.Sound)
include h

lemma Ledger.Sound.create {domain : Domain}
    (hg : (ServiceEvent.create domain isIPv6).GoesOn l) : (l.run (.create domain isIPv6)).Sound := by
  have hcs := create_cases cacheFileStorage l.store domain isIPv6
  simp only [Ledger.run,ServiceEvent.run,Store.taken]
  generalize l.store.create cacheFileStorage domain isIPv6 = created at hcs
  cases hcs with
  | found ad hl =>
    have hl' : l.store.storage.fakeIPLoadDomain domain isIPv6 = some ad := hl
    rw [hl',append_nil]
    exact ⟨h.families,h.nodup,h.below,h.saved_nodup,h.saved_ranges,h.saved_below⟩
  | missing err hl =>
    have hl' : l.store.storage.fakeIPLoadDomain domain isIPv6 = none := hl
    rw [hl',append_nil]
    exact ⟨h.families,h.nodup,h.below,h.saved_nodup,h.saved_ranges,h.saved_below⟩
  | taken ad hl hcr had =>
    have hl' : l.store.storage.fakeIPLoadDomain domain isIPv6 = none := hl
    obtain ⟨hls,hc⟩ := hg hl'
    rw [nextAddress,if_neg (by simp [hls,hc])] at had
    subst had
    have hs := (record_storage (l.store.setCurrent isIPv6 (l.store.current isIPv6).next)
      (l.store.current isIPv6).next domain).1
    rw [storage_setCurrent] at hs
    rw [hl']
    have hn := (number_next (isValid_of_contains hc).2).1
    have hfm := h.families.is4_range hc
    refine ⟨?_,?_,?_,h.saved_nodup,?_,?_⟩
    · cases isIPv6 <;> exact h.families
    · rw [← concat_eq_append]
      refine h.nodup.concat fun hm => ?_
      have hb := h.below _ hm
      rw [hfm,Bool.not_not,hn] at hb
      omega
    · intro a ha
      rw [current_record,current_setCurrent]
      rcases mem_append.mp ha with ho | hnw
      · have hb := h.below a ho
        split_ifs with hsm
        · rw [hsm] at hb
          omega
        · exact hb
      · rw [mem_singleton.mp hnw,hfm,Bool.not_not,if_pos rfl]
    · rw [hs]
      cases isIPv6 <;> exact h.saved_ranges
    · rw [hs]
      exact h.saved_below

lemma Ledger.Sound.start
    (hg : (ServiceEvent.start inet4Range inet6Range).GoesOn l) : (l.run (.start inet4Range inet6Range)).Sound := by
  obtain ⟨m,hs,rfl,rfl⟩ := hg
  obtain ⟨hn,-⟩ := start_storage l.store m.inet4Range m.inet6Range
  obtain ⟨b,hr,-,-⟩ := fakeIPMetadata_cases l.store.storage.reopened
  have hm : (cacheFileStorage.fakeIPMetadata l.store.storage.reopened).2 = some m := (congrArg Prod.snd hr).trans hs
  have hc : ∀ isIPv6, ((ServiceEvent.start m.inet4Range m.inet6Range).run l.store).current isIPv6 = m.current isIPv6 ∧
      ((ServiceEvent.start m.inet4Range m.inet6Range).run l.store).inet4Range = m.inet4Range ∧
      ((ServiceEvent.start m.inet4Range m.inet6Range).run l.store).inet6Range = m.inet6Range := by
    intro isIPv6
    simp only [ServiceEvent.run]
    obtain ⟨m',hm',-,-,hst⟩ | ⟨hnt,-⟩ :=
      start_cases cacheFileStorage m.inet4Range m.inet6Range l.store.storage.reopened
    · cases hm.symm.trans hm'
      rw [hst]
      cases isIPv6 <;> exact ⟨rfl,rfl,rfl⟩
    · exact absurd ⟨m,hm,rfl,rfl⟩ hnt
  simp only [Ledger.run]
  refine ⟨?_,h.saved_nodup,?_,h.saved_nodup,?_,?_⟩
  · dsimp only
    rw [(hc false).2.1,(hc false).2.2,(h.saved_ranges m hs).1, (h.saved_ranges m hs).2]
    exact h.families
  · intro a ha
    rw [(hc _).1]
    exact h.saved_below m hs a ha
  all_goals
    intro m' hs'
    cases hn.symm.trans hs'

lemma Ledger.Sound.save {st : Store FakeIPFile} (hm : st.metadata = l.store.metadata)
    (hs : st.storage.saved = some l.store.metadata) : Ledger.Sound ⟨st,l.handed,l.handed⟩ := by
  have hc : ∀ isIPv6, st.current isIPv6 = l.store.current isIPv6 := by
    intro isIPv6
    rw [← current_metadata,hm,current_metadata]
  have h4 : st.inet4Range = l.store.inet4Range := congrArg Metadata.inet4Range hm
  have h6 : st.inet6Range = l.store.inet6Range := congrArg Metadata.inet6Range hm
  refine ⟨?_,h.nodup,?_,h.nodup,?_,?_⟩
  · dsimp only
    rw [h4,h6]
    exact h.families
  · intro a ha
    rw [hc]
    exact h.below a ha
  · intro m hf
    cases hs.symm.trans hf
    exact ⟨h4.symm,h6.symm⟩
  · intro m hf a ha
    cases hs.symm.trans hf
    rw [current_metadata]
    exact h.below a ha

lemma Ledger.Sound.step {e : ServiceEvent} (hg : e.GoesOn l) : (l.run e).Sound := by
  cases e with
  | create => exact h.create hg
  | start => exact h.start hg
  | reset =>
    obtain ⟨hs,-,-⟩ := fakeIPReset_keeps l.store.storage
    refine ⟨h.families,h.nodup,h.below,h.saved_nodup,?_,?_⟩
    · intro m hf
      rcases hs with hn | hsm
      · cases hn.symm.trans hf
      · exact h.saved_ranges m (hsm.symm.trans hf)
    · intro m hf
      rcases hs with hn | hsm
      · cases hn.symm.trans hf
      · exact h.saved_below m (hsm.symm.trans hf)
  | timer =>
    cases ht : l.store.storage.saveMetadataTimer with
    | none =>
      have heq : l.run .timer = l := by
        simp only [Ledger.run,ServiceEvent.run,ht,Option.isSome_none,Bool.false_eq_true,if_false]
      rw [heq]
      exact h
    | some =>
      have hs := firingSavesCursors_iff.mpr hg (by simp [ht])
      have heq : l.run .timer = ⟨ServiceEvent.timer.run l.store,l.handed,l.handed⟩ := by
        simp only [Ledger.run,ht,Option.isSome_some,if_true]
      have hm : (ServiceEvent.timer.run l.store).metadata = l.store.metadata := by
        simp only [ServiceEvent.run,ht]
        rfl
      rw [heq]
      exact h.save hm hs
  | close => exact h.save rfl rfl

end

lemma Ledger.Sound.started (s : Store FakeIPFile) (h : OwnFamilies inet4Range inet6Range) :
    Ledger.Sound { store := (ServiceEvent.start inet4Range inet6Range).run s } := by
  obtain ⟨hn,-⟩ := start_storage s inet4Range inet6Range
  have hr : ((ServiceEvent.start inet4Range inet6Range).run s).inet4Range = inet4Range ∧
      ((ServiceEvent.start inet4Range inet6Range).run s).inet6Range = inet6Range := by
    simp only [ServiceEvent.run]
    obtain ⟨_,-,-,-,hs⟩ | ⟨-,hs⟩ := start_cases cacheFileStorage inet4Range inet6Range s.storage.reopened
    all_goals
      rw [hs]
      exact ⟨rfl,rfl⟩
  refine ⟨?_,nodup_nil,by simp,nodup_nil,?_,?_⟩
  · dsimp only
    rw [hr.1,hr.2]
    exact h
  all_goals
    intro m hf
    cases hn.symm.trans hf

end

/-- From a start on, a firing saves the cursors that the latest `Create` left, whenever it comes, exactly where
no `Create` moves a cursor once the timer is there. And where the timer has the cursors of the store at every firing,
every restart goes on from saved metadata and no range comes to its end, no address is handed out again. -/
theorem firing_saves_cursors_iff (s : Store FakeIPFile) (inet4Range inet6Range : Prefix) (events : List ServiceEvent) :
    (Run.Along (fun s event => ServiceEvent.run s event) (fun s event => event.KeepsCursors s)
        ((ServiceEvent.start inet4Range inet6Range).run s) events ↔
      Run.Throughout (fun s event => ServiceEvent.run s event) FiringSavesCursors
        ((ServiceEvent.start inet4Range inet6Range).run s) events) ∧ (OwnFamilies inet4Range inet6Range →
      Run.Along Ledger.run (fun l event => event.GoesOn l)
        { store := (ServiceEvent.start inet4Range inet6Range).run s } events →
      Run.Throughout Ledger.run (fun l => l.handed.Nodup)
        { store := (ServiceEvent.start inet4Range inet6Range).run s } events) := by
  constructor
  · refine Run.along_iff_throughout (fun s event h => keepsCursors_iff h event) events ?_
    exact fun hs => absurd (start_storage s inet4Range inet6Range).2 hs
  · intro hf ha
    exact Run.throughout_of_along (fun l event h hg => h.step hg) (fun l h => h.nodup)
      (Ledger.Sound.started s hf) ha

def started : Store FakeIPFile := (ServiceEvent.start ⟨.v4 0xc6120000#32,15⟩ ⟨.invalid,0⟩).run noRanges

/-- Two domains get addresses and the timer fires: it saves the cursor of the first, and after a restart the
address of the second is handed out again. -/
theorem firing_saves_first_cursors :
    ¬Run.Throughout (fun s event => ServiceEvent.run s event) FiringSavesCursors started
      [.create [1] false,.create [2] false,.timer] ∧
    ¬Run.Throughout Ledger.run (fun l => l.handed.Nodup) { store := started }
      [.create [1] false,.create [2] false,.timer,.start ⟨.v4 0xc6120000#32,15⟩ ⟨.invalid,0⟩,.create [3] false] := by
  constructor
  · rintro ⟨-,-,hf,-⟩
    cases hf (by rintro ⟨⟩)
  · rintro ⟨-,-,-,-,-,hn⟩
    have ht : [Addr.v4 0xc6120002#32,.v4 0xc6120003#32,.v4 0xc6120003#32].Nodup := hn
    exact absurd ht (by decide)

/-- Two domains get addresses before a restart, a third one before a firing, and a fourth after another restart. -/
theorem handed_nodup_after_one_firing : Run.Throughout Ledger.run (fun l => l.handed.Nodup) { store := started }
      [.create [1] false,.create [2] false,.close,.start ⟨.v4 0xc6120000#32,15⟩ ⟨.invalid,0⟩,.create [3] false,.timer,
        .start ⟨.v4 0xc6120000#32,15⟩ ⟨.invalid,0⟩,.create [4] false] := by
  refine (firing_saves_cursors_iff noRanges ⟨.v4 0xc6120000#32,15⟩ ⟨.invalid,0⟩ _).2
    ⟨fun _ => rfl,fun h => by cases h⟩ ⟨fun _ => ⟨by decide,rfl⟩,fun _ => ⟨by decide,rfl⟩,trivial,⟨_,rfl,rfl,rfl⟩,
      fun _ => ⟨by decide,rfl⟩,?_,⟨_,rfl,rfl,rfl⟩,fun _ => ⟨by decide,rfl⟩,trivial⟩
  rintro m ⟨⟩
  rfl

end SingBox.FakeIP
