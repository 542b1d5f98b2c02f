import SingBox.Transport.FakeIPStore

/-! FakeIP records in the cache file (`experimental/cachefile/fakeip.go`), as the storage of the FakeIP
store. A transaction that returns an error leaves the database as it was. -/
namespace SingBox.FakeIP
open Adapter Function

/-- `fakeip_address`: a domain under the bytes of an address, and the metadata under a key that is no
address. -/
structure AddressBucket where
  domains : List UInt8 → Option Domain
  metadata : Option Metadata

def AddressBucket.empty : AddressBucket := ⟨fun _ => none,none⟩

/-- The cache file: saves that are under way, the metadata that the timer will save, and the three
buckets of the database, where no bucket is `none`. -/
structure FakeIPFile where
  saveDomain : Addr → Option Domain
  saveAddress4 : Domain → Option Addr
  saveAddress6 : Domain → Option Addr
  saveMetadataTimer : Option Metadata
  address : Option AddressBucket
  domain4 : Option (Domain → Option (List UInt8))
  domain6 : Option (Domain → Option (List UInt8))

/-- The errors of `Put` for its key. -/
def putError (key : List UInt8) : Option GoError :=
  if key.length = 0 then some ⟨"key required",false,false⟩
  else if 32768 < key.length then some ⟨"key too large",false,false⟩
  else none

namespace FakeIPFile

def empty : FakeIPFile := ⟨fun _ => none,fun _ => none,fun _ => none,none,none,none,none⟩

def reopened (file : FakeIPFile) : FakeIPFile :=
  { empty with address := file.address, domain4 := file.domain4, domain6 := file.domain6 }

def fakeIPMetadata (file : FakeIPFile) : FakeIPFile × Option Metadata :=
  match file.address with
  | none => (file,none)
  | some bucket =>
      match bucket.metadata with
      | none => (file,none)
      | some metadata => ({ file with address := some { bucket with metadata := none } },some metadata)

def fakeIPSaveMetadata (file : FakeIPFile) (metadata : Metadata) : FakeIPFile × Option GoError :=
  ({ file with address := some { file.address.getD .empty with metadata := some metadata } },none)

def fakeIPSaveMetadataAsync (file : FakeIPFile) (metadata : Metadata) : FakeIPFile :=
  { file with saveMetadataTimer := some (file.saveMetadataTimer.getD metadata) }

def domains (file : FakeIPFile) (isIPv6 : Bool) : Option (Domain → Option (List UInt8)) :=
  if isIPv6 then file.domain6 else file.domain4

def setDomains (file : FakeIPFile) (isIPv6 : Bool) (bucket : Domain → Option (List UInt8)) : FakeIPFile :=
  if isIPv6 then { file with domain6 := some bucket } else { file with domain4 := some bucket }

def fakeIPStore (file : FakeIPFile) (address : Addr) (domain : Domain) : FakeIPFile × Option GoError :=
  let bucket := file.address.getD .empty
  let oldDomain := bucket.domains address.asSlice
  match putError address.asSlice with
  | some err => (file,some err)
  | none =>
      let domains := (file.domains !address.is4).getD fun _ => none
      let domains :=
        match oldDomain with
        | none => domains
        | some oldDomain => Function.update domains oldDomain none
      match putError domain with
      | some err => (file,some err)
      | none =>
          let bucket := { bucket with domains := Function.update bucket.domains address.asSlice (some domain) }
          ({ file with address := some bucket }.setDomains (!address.is4)
            (Function.update domains domain (some address.asSlice)),none)

def fakeIPLoad (file : FakeIPFile) (address : Addr) : Option Domain :=
  match file.saveDomain address with
  | some domain => some domain
  | none =>
      match file.address.bind fun bucket => bucket.domains address.asSlice with
      | none => none
      | some domain => if domain = [] then none else some domain

def fakeIPLoadDomain (file : FakeIPFile) (domain : Domain) (isIPv6 : Bool) : Option Addr :=
  match if !isIPv6 then file.saveAddress4 domain else file.saveAddress6 domain with
  | some address => some address
  | none =>
      let address := addrFromIP (((file.domains isIPv6).bind fun bucket => bucket domain).getD [])
      if address.isValid then some address else none

/-- `FakeIPReset`: deleting a bucket that is not there is an error, and undoes the others. -/
def fakeIPReset (file : FakeIPFile) : FakeIPFile × Option GoError :=
  if file.address.isNone || file.domain4.isNone || file.domain6.isNone then
    (file,some ⟨"bucket not found",false,false⟩)
  else ({ file with address := none, domain4 := none, domain6 := none },none)

end FakeIPFile

def cacheFileStorage : Storage FakeIPFile where
  fakeIPMetadata := FakeIPFile.fakeIPMetadata
  fakeIPSaveMetadata := FakeIPFile.fakeIPSaveMetadata
  fakeIPSaveMetadataAsync := FakeIPFile.fakeIPSaveMetadataAsync
  fakeIPStore := FakeIPFile.fakeIPStore
  fakeIPLoad := FakeIPFile.fakeIPLoad
  fakeIPLoadDomain := FakeIPFile.fakeIPLoadDomain
  fakeIPReset := FakeIPFile.fakeIPReset

section

/-- Loading finds no address and no domain. -/
def NothingFound (file : FakeIPFile) : Prop :=
  (∀ address, file.fakeIPLoad address = none) ∧ ∀ domain isIPv6, file.fakeIPLoadDomain domain isIPv6 = none

def NothingPending (file : FakeIPFile) : Prop :=
  (∀ address, file.saveDomain address = none) ∧ (∀ domain, file.saveAddress4 domain = none) ∧
    ∀ domain, file.saveAddress6 domain = none

def FakeIPFile.hasBuckets (file : FakeIPFile) : Bool :=
  file.address.isSome && file.domain4.isSome && file.domain6.isSome

variable {f : FakeIPFile}

lemma fakeIPReset_fst (f : FakeIPFile) : f.fakeIPReset.1 =
    if f.hasBuckets then { f with address := none, domain4 := none, domain6 := none } else f := by
  unfold FakeIPFile.hasBuckets FakeIPFile.fakeIPReset
  cases ha : f.address <;> cases h4 : f.domain4 <;> cases h6 : f.domain6 <;> simp

lemma NothingFound.pending (h : NothingFound f) : NothingPending f := by
  refine ⟨fun a => ?_,fun dm => ?_,fun dm => ?_⟩
  · have hl := h.1 a
    unfold FakeIPFile.fakeIPLoad at hl
    cases hp : f.saveDomain a with
    | none => rfl
    | some => simp [hp] at hl
  · have hl := h.2 dm false
    unfold FakeIPFile.fakeIPLoadDomain at hl
    cases hp : f.saveAddress4 dm with
    | none => rfl
    | some => simp [hp] at hl
  · have hl := h.2 dm true
    unfold FakeIPFile.fakeIPLoadDomain at hl
    cases hp : f.saveAddress6 dm with
    | none => rfl
    | some => simp [hp] at hl

lemma nothingFound_of_no_buckets (h : NothingPending f) (ha : f.address = none)
    (h4 : f.domain4 = none) (h6 : f.domain6 = none) : NothingFound f := by
  refine ⟨fun a => ?_,fun dm isIPv6 => ?_⟩
  · simp [FakeIPFile.fakeIPLoad,h.1 a,ha]
  · cases isIPv6 <;>
      simp [FakeIPFile.fakeIPLoadDomain,FakeIPFile.domains,h.2.1 dm,h.2.2 dm,h4,h6,addrFromIP,Addr.isValid]

lemma nothingFound_reset_iff (f : FakeIPFile) :
    NothingFound f.fakeIPReset.1 ↔ NothingFound f ∨ f.hasBuckets = true ∧ NothingPending f := by
  rw [fakeIPReset_fst]
  split_ifs with hb
  · constructor
    · intro h
      exact .inr ⟨hb,h.pending⟩
    · intro h
      have hp : NothingPending f := h.elim NothingFound.pending And.right
      exact nothingFound_of_no_buckets hp rfl rfl rfl
  · simp [hb]

end

section

def FakeIPFile.saved (file : FakeIPFile) : Option Metadata := file.address.bind AddressBucket.metadata

/-- Where `Create` goes on from when it has reached the end is in the range. -/
def Wraps (range : Prefix) : Prop := range.contains range.addr.next.next = true

/-- Metadata for the ranges, which `Create` can go on with. -/
structure Continues (inet4Range inet6Range : Prefix) (metadata : Metadata) : Prop where
  range4 : metadata.inet4Range = inet4Range
  range6 : metadata.inet6Range = inet6Range
  wraps4 : metadata.inet4Current.isValid = true → Wraps inet4Range
  wraps6 : metadata.inet6Current.isValid = true → Wraps inet6Range

/-- The file has addresses of the ranges only, and metadata for them. -/
structure FileWithin (inet4Range inet6Range : Prefix) (file : FakeIPFile) : Prop where
  loaded : ∀ domain isIPv6 address, file.fakeIPLoadDomain domain isIPv6 = some address →
    (inet4Range.contains address || inet6Range.contains address) = true
  saved : ∀ metadata, file.saved = some metadata → Continues inet4Range inet6Range metadata
  timer : ∀ metadata, file.saveMetadataTimer = some metadata → Continues inet4Range inet6Range metadata
  pending : NothingPending file

structure WithinRanges (s : Store FakeIPFile) : Prop where
  file : FileWithin s.inet4Range s.inet6Range s.storage
  current : Continues s.inet4Range s.inet6Range s.metadata

variable (fl : FakeIPFile)

lemma fakeIPMetadata_cases : ∃ b, fl.fakeIPMetadata = ({ fl with address := b },fl.saved) ∧
      b.bind AddressBucket.metadata = none ∧ b.isSome = fl.address.isSome := by
  obtain ⟨sd,sa,sv,t,a,d,dm⟩ := fl
  cases a with
  | none => exact ⟨none,rfl,rfl,rfl⟩
  | some b =>
    obtain ⟨ds,mt⟩ := b
    cases mt with
    | none | some mt => exact ⟨some ⟨ds,none⟩,rfl,rfl,rfl⟩

lemma fakeIPStore_cases (a : Addr) (dm : Domain) : (fl.fakeIPStore a dm).1 = fl ∨ ∃ b ds,
      (fl.fakeIPStore a dm).1 = { fl with address := some b }.setDomains (!a.is4)
        (update ds dm (some a.asSlice)) ∧ b.metadata = fl.saved ∧
      ∀ o, ds o = none ∨ ds o = (fl.domains !a.is4).bind fun b => b o := by
  unfold FakeIPFile.fakeIPStore
  cases ha : putError a.asSlice with
  | some => exact .inl rfl
  | none =>
    cases hd : putError dm with
    | some => exact .inl rfl
    | none =>
      refine .inr ⟨_,_,rfl,?_,fun o => ?_⟩
      · cases hb : fl.address <;> simp [FakeIPFile.saved,hb,AddressBucket.empty]
      · have hb : ((fl.domains !a.is4).getD fun _ => none) o = (fl.domains !a.is4).bind fun b => b o := by
          cases fl.domains !a.is4 <;> rfl
        cases (fl.address.getD .empty).domains a.asSlice with
        | none => exact .inr hb
        | some od =>
          by_cases ho : o = od
          · exact .inl (by simp [ho])
          · exact .inr (by simp [update_of_ne ho,hb])

variable {d : Domain} {fn : Addr} {ii : Bool}

/-- A domain that is found was found in another file with the same saves under way, or has the address of
bytes that are in the bucket now, and that the other file does not have. -/
lemma fakeIPLoadDomain_cases {fi' : FakeIPFile}
    (h : fi'.fakeIPLoadDomain d ii = some fn) (h4 : fi'.saveAddress4 = fl.saveAddress4)
    (h6 : fi'.saveAddress6 = fl.saveAddress6) : fl.fakeIPLoadDomain d ii = some fn ∨
      ∃ bs, (fi'.domains ii).bind (fun b => b d) = some bs ∧
        (fl.domains ii).bind (fun b => b d) ≠ some bs ∧ fn = addrFromIP bs := by
  unfold FakeIPFile.fakeIPLoadDomain at h ⊢
  rw [h4,h6] at h
  cases hp : (if !ii then fl.saveAddress4 d else fl.saveAddress6 d) with
  | some =>
    rw [hp] at h
    exact .inl h
  | none =>
    rw [hp] at h
    dsimp only at h ⊢
    cases hb : (fi'.domains ii).bind fun b => b d with
    | none =>
      rw [hb] at h
      simp [addrFromIP,Addr.isValid] at h
    | some bs =>
      rw [hb] at h
      by_cases hs : (fl.domains ii).bind (fun b => b d) = some bs
      · rw [hs]
        exact .inl h
      · refine .inr ⟨bs,rfl,hs,?_⟩
        rw [Option.getD_some] at h
        split_ifs at h
        exact (Option.some.inj h).symm

lemma domains_setDomains (ii o : Bool) (ds : Domain → Option (List UInt8)) :
    (fl.setDomains ii ds).domains o = if o = ii then some ds else fl.domains o := by
  cases ii <;> cases o <;> rfl

lemma fakeIPLoadDomain_fakeIPStore {a : Addr} {o : Domain}
    (h : (fl.fakeIPStore a d).1.fakeIPLoadDomain o ii = some fn) :
    fl.fakeIPLoadDomain o ii = some fn ∨ fn = addrFromIP a.asSlice := by
  rcases fakeIPStore_cases fl a d with heq | ⟨b,ds,heq,_,hd⟩
  · rw [heq] at h
    exact .inl h
  · rw [heq] at h
    have hp : ∀ f, ({ fl with address := some b }.setDomains f
        (update ds d (some a.asSlice))).saveAddress4 = fl.saveAddress4 ∧
        ({ fl with address := some b }.setDomains f
        (update ds d (some a.asSlice))).saveAddress6 = fl.saveAddress6 := by
      intro f
      cases f <;> exact ⟨rfl,rfl⟩
    obtain hol | ⟨bs,hb,hnw,hfn⟩ := fakeIPLoadDomain_cases fl h (hp _).1 (hp _).2
    · exact .inl hol
    · rw [domains_setDomains] at hb
      split_ifs at hb with hf
      · subst hf
        by_cases ho : o = d
        · subst ho
          rw [Option.bind_some,update_self] at hb
          cases hb
          exact .inr hfn
        · rw [Option.bind_some,update_of_ne ho] at hb
          obtain hn | hs := hd o
          · rw [hn] at hb
            cases hb
          · exact absurd (hs.symm.trans hb) hnw
      · exact absurd hb hnw

lemma fakeIPLoadDomain_fakeIPReset (h : fl.fakeIPReset.1.fakeIPLoadDomain d ii = some fn) :
    fl.fakeIPLoadDomain d ii = some fn := by
  rw [fakeIPReset_fst] at h
  split_ifs at h
  · obtain ho | ⟨bs,hb,_⟩ := fakeIPLoadDomain_cases fl h rfl rfl
    · exact ho
    · cases ii <;> cases hb
  · exact h

lemma fakeIPReset_keeps : (fl.fakeIPReset.1.saved = none ∨ fl.fakeIPReset.1.saved = fl.saved) ∧
      fl.fakeIPReset.1.saveMetadataTimer = fl.saveMetadataTimer ∧
      (NothingPending fl → NothingPending fl.fakeIPReset.1) := by
  rw [fakeIPReset_fst]
  split_ifs
  · exact ⟨.inl rfl,rfl,id⟩
  · exact ⟨.inr rfl,rfl,id⟩

lemma fakeIPStore_keeps (a : Addr) (d : Domain) : (fl.fakeIPStore a d).1.saved = fl.saved ∧
      (fl.fakeIPStore a d).1.saveMetadataTimer = fl.saveMetadataTimer ∧
      (NothingPending fl → NothingPending (fl.fakeIPStore a d).1) := by
  rcases fakeIPStore_cases fl a d with heq | ⟨b,ds,heq,hmt,_⟩
  · rw [heq]
    exact ⟨rfl,rfl,id⟩
  · rw [heq,← hmt]
    cases a.is4 <;> exact ⟨rfl,rfl,id⟩

variable {fl} {ir i : Prefix}

lemma zone_of_contains {r : Prefix} {b : BitVec 128} {z : String} (h : r.contains (.v6 b z) = true) : z = "" := by
  unfold Prefix.contains at h
  split at h <;> simp_all

lemma FileWithin.fakeIPStore (h : FileWithin ir i fl) {a : Addr}
    (ha : (ir.contains a || i.contains a) = true) (d : Domain) : FileWithin ir i (fl.fakeIPStore a d).1 := by
  obtain ⟨hs,ht,hp⟩ := fakeIPStore_keeps fl a d
  refine ⟨fun o ii fn hl => ?_,hs ▸ h.saved,ht ▸ h.timer,hp h.pending⟩
  obtain ho | rfl := fakeIPLoadDomain_fakeIPStore fl hl
  · exact h.loaded o ii fn ho
  · rw [addrFromIP_asSlice]
    · exact ha
    · rintro b z rfl
      exact ((Bool.or_eq_true _ _).mp ha).elim zone_of_contains zone_of_contains

lemma FileWithin.fakeIPReset (h : FileWithin ir i fl) : FileWithin ir i fl.fakeIPReset.1 := by
  obtain ⟨hs,ht,hp⟩ := fakeIPReset_keeps fl
  refine ⟨fun d ii fn hl => ?_,fun mt hf => ?_,?_,hp h.pending⟩
  · exact h.loaded d ii fn (fakeIPLoadDomain_fakeIPReset fl hl)
  · rcases hs with hn | hsm
    · cases hn.symm.trans hf
    · exact h.saved mt (hsm.symm.trans hf)
  · rw [ht]
    exact h.timer

variable {m : Metadata} (h : FileWithin ir i fl) (hm : Continues ir i m)
include h hm

lemma FileWithin.fakeIPSaveMetadata : FileWithin ir i (fl.fakeIPSaveMetadata m).1 where
  loaded := h.loaded
  saved _ hf := by
    cases hf
    exact hm
  timer := h.timer
  pending := h.pending

lemma FileWithin.fakeIPSaveMetadataAsync : FileWithin ir i (fl.fakeIPSaveMetadataAsync m) where
  loaded := h.loaded
  saved := h.saved
  timer _ hf := by
    unfold FakeIPFile.fakeIPSaveMetadataAsync at hf
    cases ht : fl.saveMetadataTimer with
    | none =>
      rw [ht] at hf
      cases hf
      exact hm
    | some f =>
      rw [ht] at hf
      cases hf
      exact h.timer f ht
  pending := h.pending

end

def Store.close {σ : Type} (ops : Storage σ) (s : Store σ) : Store σ × Option GoError :=
  let saved := ops.fakeIPSaveMetadata s.storage s.metadata
  ({ s with storage := saved.1 },saved.2)

/-- What happens to the store and its file over the runs of the service. -/
inductive ServiceEvent
  | start (inet4Range inet6Range : Prefix)
  | create (domain : Domain) (isIPv6 : Bool)
  | reset
  | timer
  | close

def ServiceEvent.run (s : Store FakeIPFile) : ServiceEvent → Store FakeIPFile
  | .start inet4Range inet6Range => FakeIP.start cacheFileStorage inet4Range inet6Range s.storage.reopened
  | .create domain isIPv6 => (s.create cacheFileStorage domain isIPv6).1
  | .reset => s.reset cacheFileStorage
  | .timer =>
      match s.storage.saveMetadataTimer with
      | none => s
      | some metadata => { s with storage := (s.storage.fakeIPSaveMetadata metadata).1 }
  | .close => (s.close cacheFileStorage).1

def noRanges : Store FakeIPFile := start cacheFileStorage ⟨.invalid,0⟩ ⟨.invalid,0⟩ .empty

/-- `Create` has an address of the range to go on from whenever it has one at all. -/
def Wide (range : Prefix) : Prop := (firstCurrent range).isValid = true → Wraps range

/-- The service starts with wide ranges, and with the ranges of the saved metadata unless there is nothing
to find or all three buckets are there. -/
def ServiceEvent.Clean (s : Store FakeIPFile) : ServiceEvent → Prop
  | .start inet4Range inet6Range =>
      Wide inet4Range ∧ Wide inet6Range ∧
        ((∃ metadata, s.storage.saved = some metadata ∧ metadata.inet4Range = inet4Range ∧
            metadata.inet6Range = inet6Range) ∨
          NothingFound s.storage.reopened ∨ s.storage.hasBuckets = true)
  | _ => True

variable {s : Store FakeIPFile}

lemma contains_nextAddress {r : Prefix} (h : Wraps r) (l c : Addr) : r.contains (nextAddress r l c) = true := by
  unfold nextAddress
  split_ifs with hc
  · exact h
  · rw [not_or,Bool.not_eq_false] at hc
    exact hc.2

variable {isIPv6 : Bool}

lemma WithinRanges.wraps (h : WithinRanges s) (hc : (s.current isIPv6).isValid = true) : Wraps (s.range isIPv6) := by
  cases isIPv6 with
  | false => exact h.current.wraps4 hc
  | true => exact h.current.wraps6 hc

lemma contains_of_range {a : Addr} (h : (s.range isIPv6).contains a = true) : s.contains a = true := by
  unfold Store.contains
  rw [Bool.or_eq_true]
  cases isIPv6 with
  | false => exact .inl h
  | true => exact .inr h

/-- `Create` returns an address of the ranges. -/
lemma WithinRanges.created (h : WithinRanges s) {dm : Domain} {a : Addr}
    (hc : (s.create cacheFileStorage dm isIPv6).2 = .ok a) : s.contains a = true := by
  have hcs := create_cases cacheFileStorage s dm isIPv6
  generalize s.create cacheFileStorage dm isIPv6 = c at hcs hc
  cases hcs with
  | found fd hl =>
    cases hc
    exact h.file.loaded dm isIPv6 a hl
  | missing => cases hc
  | taken n _ hcr hn =>
    cases hc
    rw [hn]
    exact contains_of_range (contains_nextAddress (h.wraps hcr) _ _)

lemma withinRanges_noRanges : WithinRanges noRanges := by
  refine ⟨⟨fun dm isIPv6 a h => ?_,fun _ h => ?_,fun _ h => ?_,fun _ => rfl,fun _ => rfl,fun _ => rfl⟩,
    rfl,rfl,fun h => ?_,fun h => ?_⟩
  · cases isIPv6 <;> cases h
  all_goals cases h

lemma start_cases {σ : Type} (o : Storage σ) (it i6 : Prefix) (st : σ) :
    let il := if it.isValid then broadcastAddress it else .invalid
    let ine := if i6.isValid then broadcastAddress i6 else .invalid
    (∃ mt, (o.fakeIPMetadata st).2 = some mt ∧ mt.inet4Range = it ∧ mt.inet6Range = i6 ∧
      FakeIP.start o it i6 st = ⟨it,i6,il,ine, mt.inet4Current,mt.inet6Current,(o.fakeIPMetadata st).1⟩) ∨
    (¬∃ mt, (o.fakeIPMetadata st).2 = some mt ∧ mt.inet4Range = it ∧ mt.inet6Range = i6) ∧
      FakeIP.start o it i6 st = ⟨it,i6,il,ine,
        firstCurrent it,firstCurrent i6,(o.fakeIPReset (o.fakeIPMetadata st).1).1⟩ := by
  unfold FakeIP.start
  obtain ⟨st',mt⟩ := o.fakeIPMetadata st
  cases mt with
  | none => exact .inr ⟨by simp,rfl⟩
  | some mt =>
    by_cases hm : mt.inet4Range = it ∧ mt.inet6Range = i6
    · exact .inl ⟨mt,rfl,hm.1,hm.2,if_pos hm⟩
    · exact .inr ⟨by simpa using hm,if_neg hm⟩

lemma reopened_eq {fi : FakeIPFile} (h : NothingPending fi) : fi.reopened = { fi with saveMetadataTimer := none } := by
  have hd : fi.saveDomain = fun _ => none := funext h.1
  have h4 : fi.saveAddress4 = fun _ => none := funext h.2.1
  have h6 : fi.saveAddress6 = fun _ => none := funext h.2.2
  rw [FakeIPFile.reopened,hd,h4,h6]
  rfl

lemma FileWithin.cleared (fi : FakeIPFile) (hs : fi.saved = none) (ht : fi.saveMetadataTimer = none)
    (hp : NothingPending fi) (hn : (∀ dm isIPv6, fi.fakeIPLoadDomain dm isIPv6 = none) ∨ fi.hasBuckets = true)
    (it i6 : Prefix) : FileWithin it i6 fi.fakeIPReset.1 := by
  obtain ⟨hs',ht',hp'⟩ := fakeIPReset_keeps fi
  refine ⟨fun dm isIPv6 a hl => ?_,fun mt hf => ?_,fun mt hf => ?_,hp' hp⟩
  · rcases hn with hn | hb
    · cases (hn dm isIPv6).symm.trans (fakeIPLoadDomain_fakeIPReset fi hl)
    · have hr := (nothingFound_reset_iff fi).mpr (.inr ⟨hb,hp⟩)
      cases (hr.2 dm isIPv6).symm.trans hl
  · rw [hs,or_self] at hs'
    cases hs'.symm.trans hf
  · cases (ht'.trans ht).symm.trans hf

lemma WithinRanges.start (h : WithinRanges s) {it i6 : Prefix} (hcl : (ServiceEvent.start it i6).Clean s) :
    WithinRanges ((ServiceEvent.start it i6).run s) := by
  obtain ⟨h4,h6,hr⟩ := hcl
  obtain ⟨hl,hss,_,hp⟩ := h.file
  rw [reopened_eq hp] at hr
  simp only [ServiceEvent.run,reopened_eq hp]
  obtain ⟨b,hrd,hbc,hsm⟩ := fakeIPMetadata_cases { s.storage with saveMetadataTimer := none }
  have hfl : (cacheFileStorage.fakeIPMetadata { s.storage with saveMetadataTimer := none }).1 =
      { s.storage with saveMetadataTimer := none, address := b } := congrArg Prod.fst hrd
  have hsv : (cacheFileStorage.fakeIPMetadata { s.storage with saveMetadataTimer := none }).2 =
      s.storage.saved := congrArg Prod.snd hrd
  obtain ⟨mt,hmt,rfl,rfl,hs⟩ | ⟨hnn,hs⟩ :=
    start_cases cacheFileStorage it i6 { s.storage with saveMetadataTimer := none }
  · have hc := hss mt (hsv.symm.trans hmt)
    rw [hs,hfl]
    rw [← hc.range4,← hc.range6] at hl hc
    refine ⟨⟨hl,fun _ hf => ?_,fun _ hf => ?_,hp⟩,rfl,rfl,hc.wraps4,hc.wraps6⟩
    · cases hbc.symm.trans hf
    · cases hf
  · rw [hsv] at hnn
    rw [hs,hfl]
    refine ⟨.cleared { s.storage with saveMetadataTimer := none, address := b } hbc rfl hp ?_ it i6,rfl,rfl,h4,h6⟩
    rcases hr.resolve_left hnn with hn | hb
    · exact .inl hn.2
    · rw [FakeIPFile.hasBuckets,← hsm] at hb
      exact .inr hb

lemma WithinRanges.create (h : WithinRanges s) (dm : Domain) (isIPv6 : Bool) :
    WithinRanges (s.create cacheFileStorage dm isIPv6).1 := by
  have hc := create_cases cacheFileStorage s dm isIPv6
  generalize s.create cacheFileStorage dm isIPv6 = c at hc
  cases hc with
  | found _ _ | missing _ _ _ => exact h
  | taken a _ hcr ha =>
    have hw := h.wraps hcr
    have hcn : s.contains a = true := by
      rw [ha]
      exact contains_of_range (contains_nextAddress hw _ _)
    have hmt : Continues s.inet4Range s.inet6Range (s.setCurrent isIPv6 a).metadata := by
      cases isIPv6 with
      | false => exact ⟨rfl,rfl,fun _ => hw,h.current.wraps6⟩
      | true => exact ⟨rfl,rfl,h.current.wraps4,fun _ => hw⟩
    have hs := (h.file.fakeIPStore hcn dm).fakeIPSaveMetadataAsync hmt
    cases isIPv6 <;> exact ⟨hs,hmt⟩

lemma WithinRanges.step (h : WithinRanges s) {e : ServiceEvent} (hc : e.Clean s) : WithinRanges (e.run s) := by
  cases e with
  | start => exact h.start hc
  | create dm isIPv6 => exact h.create dm isIPv6
  | reset => exact ⟨h.file.fakeIPReset,h.current⟩
  | close => exact ⟨h.file.fakeIPSaveMetadata h.current,h.current⟩
  | timer =>
    unfold ServiceEvent.run
    cases ht : s.storage.saveMetadataTimer with
    | none => exact h
    | some mt => exact ⟨h.file.fakeIPSaveMetadata (h.file.timer mt ht),h.current⟩

/-- After a reset nothing is found exactly where nothing was found before, or all three buckets were there
and no save was under way. And over all runs of the service in which each start is clean, `Create` returns
addresses of the configured ranges only. -/
theorem reset_clears_iff (file : FakeIPFile) :
    (NothingFound file.fakeIPReset.1 ↔ NothingFound file ∨ file.hasBuckets = true ∧ NothingPending file) ∧
    ∀ history s, Run (fun s (event : ServiceEvent) s' => event.Clean s ∧ s' = event.run s) noRanges history s →
      ∀ domain isIPv6 address, (s.create cacheFileStorage domain isIPv6).2 = .ok address →
        s.contains address = true := by
  refine ⟨nothingFound_reset_iff file,fun history s hr domain isIPv6 address hc => ?_⟩
  have hw : WithinRanges s := by
    refine hr.invariant (I := fun _ s => WithinRanges s) withinRanges_noRanges ?_
    rintro _ st event _ h ⟨hcl,rfl⟩
    exact h.step hcl
  exact hw.created hc

/-- With records of both families, a start with other ranges forgets the old ones. -/
theorem reset_clears_both_families :
    ∃ s, Run (fun s (event : ServiceEvent) s' => event.Clean s ∧ s' = event.run s) noRanges
        [.start ⟨.v4 0xc6120000#32,15⟩ ⟨.v6 0xfc000000000000000000000000000000#128 "",18⟩,.create [1] false,
          .create [1] true,.start ⟨.v4 0x0a000000#32,8⟩ ⟨.invalid,0⟩] s ∧
      (s.create cacheFileStorage [1] false).2 = .ok (.v4 0x0a000002#32) ∧ s.contains (.v4 0x0a000002#32) = true := by
  have hf : NothingFound noRanges.storage.reopened :=
    nothingFound_of_no_buckets ⟨fun _ => rfl,fun _ => rfl,fun _ => rfl⟩ rfl rfl rfl
  have hn : Wide ⟨.invalid,0⟩ := fun h => by cases h
  have hr : Run (fun s (event : ServiceEvent) s' => event.Clean s ∧ s' = event.run s) noRanges
      [.start ⟨.v4 0xc6120000#32,15⟩ ⟨.v6 0xfc000000000000000000000000000000#128 "",18⟩,.create [1] false,
        .create [1] true,.start ⟨.v4 0x0a000000#32,8⟩ ⟨.invalid,0⟩] _ :=
    .cons ⟨⟨fun _ => rfl,fun _ => rfl,.inr (.inl hf)⟩,rfl⟩ (.cons ⟨trivial,rfl⟩
      (.cons ⟨trivial,rfl⟩ (.cons ⟨⟨fun _ => rfl,hn,.inr (.inr rfl)⟩,rfl⟩ .nil)))
  exact ⟨_,hr,rfl,(reset_clears_iff .empty).2 _ _ hr [1] false _ rfl⟩

/-- With IPv4 records only, a reset undoes itself: the addresses are found as before, and after a start
with another range `Create` returns an address of the old one. And in a range of two addresses, `Create`
returns one that is outside. -/
theorem reset_keeps_old_range : (∃ s, Run (fun s (event : ServiceEvent) s' => s' = event.run s) noRanges
        [.start ⟨.v4 0xc6120000#32,15⟩ ⟨.invalid,0⟩,.create [1] false] s ∧
      s.storage.fakeIPReset.1.fakeIPLoad (.v4 0xc6120002#32) = some [1] ∧
      s.storage.fakeIPReset.1.fakeIPLoadDomain [1] false = some (.v4 0xc6120002#32)) ∧
    (∃ s, Run (fun s (event : ServiceEvent) s' => s' = event.run s) noRanges
        [.start ⟨.v4 0xc6120000#32,15⟩ ⟨.invalid,0⟩,.create [1] false,.start ⟨.v4 0x0a000000#32,8⟩ ⟨.invalid,0⟩] s ∧
      (s.create cacheFileStorage [1] false).2 = .ok (.v4 0xc6120002#32) ∧ s.contains (.v4 0xc6120002#32) = false) ∧
    ∃ s, Run (fun s (event : ServiceEvent) s' => s' = event.run s) noRanges
        [.start ⟨.v4 0x0a000000#32,31⟩ ⟨.invalid,0⟩] s ∧
      (s.create cacheFileStorage [1] false).2 = .ok (.v4 0x0a000002#32) ∧ s.contains (.v4 0x0a000002#32) = false :=
  ⟨⟨_,.cons rfl (.cons rfl .nil),rfl,rfl⟩,⟨_,.cons rfl (.cons rfl (.cons rfl .nil)),rfl,rfl⟩,⟨_,.cons rfl .nil,rfl,rfl⟩⟩

end SingBox.FakeIP
