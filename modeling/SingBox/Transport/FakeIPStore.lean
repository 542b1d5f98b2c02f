import SingBox.Adapter.InboundContext
import SingBox.Library.Assignment
import SingBox.Library.Run

/-! The FakeIP store (`dns/transport/fakeip/store.go`) over any storage, and the memory storage
(`memory.go`). -/
namespace SingBox.FakeIP
open Adapter List Function

/-- A domain, as the bytes of a Go string. -/
abbrev Domain := List UInt8

/-- `adapter.FakeIPMetadata`. -/
structure Metadata where
  inet4Range : Prefix
  inet6Range : Prefix
  inet4Current : Addr
  inet6Current : Addr
  deriving DecidableEq

/-- `adapter.FakeIPStorage`, for the calls that the store makes. -/
structure Storage (σ : Type) where
  fakeIPMetadata : σ → σ × Option Metadata
  fakeIPSaveMetadata : σ → Metadata → σ × Option GoError
  fakeIPSaveMetadataAsync : σ → Metadata → σ
  fakeIPStore : σ → Addr → Domain → σ × Option GoError
  fakeIPLoad : σ → Addr → Option Domain
  fakeIPLoadDomain : σ → Domain → Bool → Option Addr
  fakeIPReset : σ → σ × Option GoError

structure Store (σ : Type) where
  inet4Range : Prefix
  inet6Range : Prefix
  inet4Last : Addr
  inet6Last : Addr
  inet4Current : Addr
  inet6Current : Addr
  storage : σ

def broadcastAddress (p : Prefix) : Addr :=
  match p.addr with
  | .invalid => .invalid
  | .v4 bits => .v4 (bits ||| BitVec.allOnes 32 >>> p.bits)
  | .v6 bits _ => .v6 (bits ||| BitVec.allOnes 128 >>> p.bits) ""

/-- The address that `Create` hands out after `current`. -/
def nextAddress (range : Prefix) (last current : Addr) : Addr :=
  if current.next = last ∨ range.contains current.next = false then range.addr.next.next else current.next

section
variable {σ : Type} (ops : Storage σ)

def Store.metadata (s : Store σ) : Metadata := ⟨s.inet4Range,s.inet6Range,s.inet4Current,s.inet6Current⟩

def Store.contains (s : Store σ) (address : Addr) : Bool :=
  s.inet4Range.contains address || s.inet6Range.contains address

def firstCurrent (range : Prefix) : Addr := if range.isValid then range.addr.next else .invalid

/-- `NewStore` and `Start`; the error of the reset is dropped. -/
def start (inet4Range inet6Range : Prefix) (storage : σ) : Store σ :=
  let inet4Last := if inet4Range.isValid then broadcastAddress inet4Range else .invalid
  let inet6Last := if inet6Range.isValid then broadcastAddress inet6Range else .invalid
  match ops.fakeIPMetadata storage with
  | (storage,metadata) =>
      let fresh : Store σ := ⟨inet4Range,inet6Range,inet4Last,inet6Last,firstCurrent inet4Range,
        firstCurrent inet6Range,(ops.fakeIPReset storage).1⟩
      match metadata with
      | none => fresh
      | some metadata =>
          if metadata.inet4Range = inet4Range ∧ metadata.inet6Range = inet6Range then
            ⟨inet4Range,inet6Range,inet4Last,inet6Last,metadata.inet4Current,metadata.inet6Current,storage⟩
          else fresh

/-- The end of `Create`: the address is recorded, whether or not that works. -/
def Store.record (s : Store σ) (address : Addr) (domain : Domain) : Store σ :=
  { s with
    storage := ops.fakeIPSaveMetadataAsync (ops.fakeIPStore s.storage address domain).1 s.metadata }

/-- `Create` with the lock held. -/
def Store.createLocked (s : Store σ) (domain : Domain) (isIPv6 : Bool) : Store σ × Except GoError Addr :=
  match ops.fakeIPLoadDomain s.storage domain isIPv6 with
  | some address => (s,.ok address)
  | none =>
      if !isIPv6 then
        if !s.inet4Current.isValid then (s,.error ⟨"missing IPv4 fakeip address range",false,false⟩)
        else
          let address := nextAddress s.inet4Range s.inet4Last s.inet4Current
          ({ s with inet4Current := address }.record ops address domain,.ok address)
      else
        if !s.inet6Current.isValid then (s,.error ⟨"missing IPv6 fakeip address range",false,false⟩)
        else
          let address := nextAddress s.inet6Range s.inet6Last s.inet6Current
          ({ s with inet6Current := address }.record ops address domain,.ok address)

def Store.create (s : Store σ) (domain : Domain) (isIPv6 : Bool) : Store σ × Except GoError Addr :=
  match ops.fakeIPLoadDomain s.storage domain isIPv6 with
  | some address => (s,.ok address)
  | none => s.createLocked ops domain isIPv6

def Store.lookup (s : Store σ) (address : Addr) : Option Domain := ops.fakeIPLoad s.storage address

def Store.reset (s : Store σ) : Store σ := { s with storage := (ops.fakeIPReset s.storage).1 }

def Store.current (s : Store σ) (isIPv6 : Bool) : Addr := if isIPv6 then s.inet6Current else s.inet4Current

def Store.range (s : Store σ) (isIPv6 : Bool) : Prefix := if isIPv6 then s.inet6Range else s.inet4Range

def Store.last (s : Store σ) (isIPv6 : Bool) : Addr := if isIPv6 then s.inet6Last else s.inet4Last

def Store.setCurrent (s : Store σ) (isIPv6 : Bool) (address : Addr) : Store σ :=
  if isIPv6 then { s with inet6Current := address } else { s with inet4Current := address }

section
variable (s : Store σ) (ii : Bool) (a : Addr)

@[simp] lemma storage_setCurrent : (s.setCurrent ii a).storage = s.storage := by
  cases ii <;> rfl

variable (o : Bool)

@[simp] lemma range_setCurrent : (s.setCurrent ii a).range o = s.range o := by
  cases ii <;> cases o <;> rfl

@[simp] lemma current_setCurrent : (s.setCurrent ii a).current o = if o = ii then a else s.current o := by
  cases ii <;> cases o <;> rfl

@[simp] lemma range_record (domain : Domain) : (s.record ops a domain).range o = s.range o := rfl

@[simp] lemma current_record (domain : Domain) : (s.record ops a domain).current o = s.current o := rfl

end

/-- What `Create` does: it finds the domain, has no range, or takes the next address. -/
inductive Creates (s : Store σ) (domain : Domain) (isIPv6 : Bool) : Store σ × Except GoError Addr → Prop
  | found (address : Addr) (hload : ops.fakeIPLoadDomain s.storage domain isIPv6 = some address) :
      Creates s domain isIPv6 (s,.ok address)
  | missing (err : GoError) (hload : ops.fakeIPLoadDomain s.storage domain isIPv6 = none)
      (hcurrent : (s.current isIPv6).isValid = false) : Creates s domain isIPv6 (s,.error err)
  | taken (address : Addr) (hload : ops.fakeIPLoadDomain s.storage domain isIPv6 = none)
      (hcurrent : (s.current isIPv6).isValid = true)
      (haddress : address = nextAddress (s.range isIPv6) (s.last isIPv6) (s.current isIPv6)) :
      Creates s domain isIPv6 ((s.setCurrent isIPv6 address).record ops address domain,.ok address)

lemma create_cases (s : Store σ) (domain : Domain) (isIPv6 : Bool) :
    Creates ops s domain isIPv6 (s.create ops domain isIPv6) := by
  unfold Store.create
  cases hl : ops.fakeIPLoadDomain s.storage domain isIPv6 with
  | some ad => exact .found ad hl
  | none =>
    simp only [Store.createLocked,hl]
    cases isIPv6 with
    | false =>
      cases hc : s.inet4Current.isValid with
      | false => exact .missing _ hl hc
      | true => exact .taken _ hl hc rfl
    | true =>
      cases hc : s.inet6Current.isValid with
      | false => exact .missing _ hl hc
      | true => exact .taken _ hl hc rfl

end

/-- `MemoryStorage`. -/
structure MemoryStorage where
  addressCache : Addr → Option Domain
  domainCache4 : Domain → Option Addr
  domainCache6 : Domain → Option Addr

namespace MemoryStorage

def empty : MemoryStorage := ⟨fun _ => none,fun _ => none,fun _ => none⟩

def domainCache (storage : MemoryStorage) (isIPv6 : Bool) : Domain → Option Addr :=
  if isIPv6 then storage.domainCache6 else storage.domainCache4

def forget (storage : MemoryStorage) (address : Addr) : MemoryStorage :=
  match storage.addressCache address with
  | none => storage
  | some oldDomain =>
      if address.is4 then { storage with domainCache4 := Function.update storage.domainCache4 oldDomain none }
      else { storage with domainCache6 := Function.update storage.domainCache6 oldDomain none }

def fakeIPStore (storage : MemoryStorage) (address : Addr) (domain : Domain) : MemoryStorage :=
  let storage := storage.forget address
  let storage := { storage with addressCache := Function.update storage.addressCache address (some domain) }
  if address.is4 then { storage with domainCache4 := Function.update storage.domainCache4 domain (some address) }
  else { storage with domainCache6 := Function.update storage.domainCache6 domain (some address) }

end MemoryStorage

def memoryStorage : Storage MemoryStorage where
  fakeIPMetadata storage := (storage,none)
  fakeIPSaveMetadata storage _ := (storage,none)
  fakeIPSaveMetadataAsync storage _ := storage
  fakeIPStore storage address domain := (storage.fakeIPStore address domain,none)
  fakeIPLoad storage address := storage.addressCache address
  fakeIPLoadDomain storage domain isIPv6 :=
    if !isIPv6 then storage.domainCache4 domain else storage.domainCache6 domain
  fakeIPReset _ := (MemoryStorage.empty,none)

section
variable {σ : Type}

/-- Calls of the store, with what `Create` returned. -/
inductive Call
  | create (domain : Domain) (isIPv6 : Bool) (result : Except GoError Addr)
  | reset

inductive CallStep (ops : Storage σ) : Store σ → Call → Store σ → Prop
  | create (s : Store σ) (domain : Domain) (isIPv6 : Bool) :
      CallStep ops s (.create domain isIPv6 (s.create ops domain isIPv6).2) (s.create ops domain isIPv6).1
  | reset (s : Store σ) : CallStep ops s .reset (s.reset ops)

end

section
variable (s : MemoryStorage) (a : Addr) (d : Domain)

lemma addressCache_fakeIPStore (ot : Addr) : (s.fakeIPStore a d).addressCache ot =
      if ot = a then some d else s.addressCache ot := by
  have hf : (s.forget a).addressCache = s.addressCache := by
    unfold MemoryStorage.forget
    split
    · rfl
    · split_ifs <;> rfl
  unfold MemoryStorage.fakeIPStore
  split_ifs with hfm hs hs <;> simp [hf,hs]

lemma domainCache_fakeIPStore (isIPv6 : Bool) (ot : Domain) :
    (s.fakeIPStore a d).domainCache isIPv6 ot = if a.is4 = !isIPv6 then
        if ot = d then some a else if s.addressCache a = some ot then none
        else s.domainCache isIPv6 ot else s.domainCache isIPv6 ot := by
  cases hf : a.is4 <;> cases isIPv6 <;> cases ho : s.addressCache a with
  | none => simp [MemoryStorage.fakeIPStore,MemoryStorage.forget,MemoryStorage.domainCache,ho,hf, update_apply]
  | some =>
    simp [MemoryStorage.fakeIPStore,MemoryStorage.forget,MemoryStorage.domainCache,ho,hf, update_apply,eq_comm]

end

/-- A range of its family, which for IPv4 does not start at the last address but one. -/
def FamilyRange (isIPv6 : Bool) (range : Prefix) : Prop :=
  range.isValid = true → range.addr.is4 = !isIPv6 ∧ range.addr ≠ .v4 0xfffffffe#32

lemma is4_of_contains {r : Prefix} {ad : Addr} (h : r.contains ad = true) : ad.is4 = r.addr.is4 := by
  unfold Prefix.contains at h
  rw [Bool.and_eq_true] at h
  obtain ⟨_,h⟩ := h
  split at h
  · rename_i hr
    rw [hr]
    rfl
  · rename_i hr
    rw [hr]
    rfl
  · cases h

lemma is4_next_next {ad : Addr} (hnx : ad.next.isValid = true) (hne : ad ≠ .v4 0xfffffffe#32) :
    ad.next.next.is4 = ad.is4 := by
  cases ad with
  | invalid => rfl
  | v4 b =>
    simp only [Addr.next] at hnx ⊢
    split_ifs at hnx ⊢ with hl
    · cases hnx
    · have hn : b+1 ≠ BitVec.allOnes 32 := by
        intro heq
        have hb : b = BitVec.allOnes 32-1 := BitVec.eq_sub_iff_add_eq.mpr heq
        exact hne (congrArg Addr.v4 (hb.trans (by decide)))
      dsimp only
      rw [if_neg hn]
      rfl
  | v6 =>
    simp only [Addr.next]
    split_ifs
    · rfl
    · simp only
      split_ifs <;> rfl

/-- The address that `Create` hands out is one of the family. -/
lemma is4_nextAddress {isIPv6 : Bool} {r : Prefix} (h : FamilyRange isIPv6 r) (hv : r.isValid = true)
    (hn : r.addr.next.isValid = true) (l c : Addr) : (nextAddress r l c).is4 = !isIPv6 := by
  obtain ⟨hf,hne⟩ := h hv
  unfold nextAddress
  split_ifs with hc
  · rw [is4_next_next hn hne,hf]
  · rw [not_or,Bool.not_eq_false] at hc
    rw [is4_of_contains hc.2,hf]

/-- In each family, addresses are assigned to domains one to one. -/
structure Assigned (s : Store MemoryStorage) (e : Bool → Domain ≃. Addr) : Prop where
  domains : ∀ isIPv6 domain, s.storage.domainCache isIPv6 domain = e isIPv6 domain
  addresses : ∀ address, s.storage.addressCache address = (e (!address.is4)).symm address
  family : ∀ isIPv6 domain address, e isIPv6 domain = some address → address.is4 = !isIPv6
  ranges : ∀ isIPv6, FamilyRange isIPv6 (s.range isIPv6)
  currents : ∀ isIPv6, (s.current isIPv6).isValid = true →
    (s.range isIPv6).isValid = true ∧ (s.range isIPv6).addr.next.isValid = true

variable {s : Store MemoryStorage} {e : Bool → Domain ≃. Addr} {domain : Domain} {isIPv6 : Bool}

lemma fakeIPLoadDomain_eq (st : MemoryStorage) (domain : Domain) (isIPv6 : Bool) :
    memoryStorage.fakeIPLoadDomain st domain isIPv6 = st.domainCache isIPv6 domain := by
  cases isIPv6 <;> rfl

variable {inet4Range inet6Range : Prefix} {s' : Store MemoryStorage} {history : List Call}

lemma Assigned.start (h4 : FamilyRange false inet4Range) (h6 : FamilyRange true inet6Range) (st : MemoryStorage) :
    Assigned (start memoryStorage inet4Range inet6Range st) fun _ => ⊥ where
  domains isIPv6 domain := by cases isIPv6 <;> rfl
  addresses _ := rfl
  family _ _ _ h := by cases h
  ranges isIPv6 := by cases isIPv6 <;> assumption
  currents isIPv6 := by
    have hf : ∀ r : Prefix, (firstCurrent r).isValid = true → r.isValid = true ∧ r.addr.next.isValid = true := by
      intro r hc
      unfold firstCurrent at hc
      split_ifs at hc with hv
      · exact ⟨hv,hc⟩
      · cases hc
    cases isIPv6
    · exact hf inet4Range
    · exact hf inet6Range

section
variable (h : Assigned s e)
include h

lemma Assigned.reset : Assigned (s.reset memoryStorage) fun _ => ⊥ where
  domains isIPv6 domain := by cases isIPv6 <;> rfl
  addresses _ := rfl
  family _ _ _ h := by cases h
  ranges isIPv6 := by cases isIPv6 <;> exact h.ranges _
  currents isIPv6 := by cases isIPv6 <;> exact h.currents _

lemma Assigned.taken {ad : Addr} (hn : e isIPv6 domain = none)
    (hc : (s.current isIPv6).isValid = true) (hf : ad.is4 = !isIPv6) :
    Assigned ((s.setCurrent isIPv6 ad).record memoryStorage ad domain)
      (update e isIPv6 (Assignment.assign (e isIPv6) domain ad hn)) := by
  have hs : ((s.setCurrent isIPv6 ad).record memoryStorage ad domain).storage = s.storage.fakeIPStore ad domain := by
    simp [Store.record,memoryStorage]
  refine ⟨fun ot domain' => ?_,fun ot => ?_,fun ot domain' ad' ho => ?_,fun ot => ?_, fun ot hv => ?_⟩
  · rw [hs,domainCache_fakeIPStore,hf,h.domains,h.addresses,hf,Bool.not_not]
    by_cases hsm : ot = isIPv6
    · subst hsm
      rw [if_pos rfl,update_self]
      rfl
    · rw [if_neg (by cases ot <;> cases isIPv6 <;> simp_all),update_of_ne hsm]
  · rw [hs,addressCache_fakeIPStore,h.addresses]
    by_cases hsm : (!ot.is4) = isIPv6
    · rw [hsm,update_self]
      rfl
    · rw [update_of_ne hsm,if_neg]
      rintro rfl
      rw [hf,Bool.not_not] at hsm
      exact hsm rfl
  · by_cases hsm : ot = isIPv6
    · subst hsm
      rw [update_self] at ho
      rcases Assignment.eq_place_or_of_assign ho with rfl | hol
      · exact hf
      · exact h.family _ _ _ hol
    · rw [update_of_ne hsm] at ho
      exact h.family _ _ _ ho
  · simpa using h.ranges ot
  · simp only [range_record,range_setCurrent]
    by_cases hsm : ot = isIPv6
    · subst hsm
      exact h.currents _ hc
    · simp only [current_record,current_setCurrent,if_neg hsm] at hv
      exact h.currents ot hv

/-- `Create` leaves a one-to-one assignment in which the domain has the address it returns, and every
other domain has what it had, unless that is the returned address. -/
lemma Assigned.create (domain : Domain) (isIPv6 : Bool) : ∃ e', Assigned (s.create memoryStorage domain isIPv6).1 e' ∧
      (∀ ad, (s.create memoryStorage domain isIPv6).2 = .ok ad → e' isIPv6 domain = some ad) ∧
      ∀ f ot ad, e f ot = some ad →
        ((s.create memoryStorage domain isIPv6).2 = .ok ad → domain = ot) → e' f ot = some ad := by
  have hc := create_cases memoryStorage s domain isIPv6
  generalize s.create memoryStorage domain isIPv6 = c at hc ⊢
  cases hc with
  | found ad hl =>
    rw [fakeIPLoadDomain_eq,h.domains] at hl
    refine ⟨e,h,fun ad' heq => ?_,fun _ _ _ hol _ => hol⟩
    cases heq
    exact hl
  | missing =>
    refine ⟨e,h,fun ad' heq => ?_,fun _ _ _ hol _ => hol⟩
    cases heq
  | taken ad hl hcr ha =>
    rw [fakeIPLoadDomain_eq,h.domains] at hl
    obtain ⟨hv,hn⟩ := h.currents _ hcr
    have hf : ad.is4 = !isIPv6 := by
      rw [ha]
      exact is4_nextAddress (h.ranges _) hv hn _ _
    refine ⟨_,h.taken hl hcr hf,fun ad' heq => ?_,fun f ot ad' hol hs => ?_⟩
    · cases heq
      simp
    · by_cases ho : f = isIPv6
      · subst ho
        rw [update_self]
        refine Assignment.assign_of_ne hol fun heq => ?_
        subst heq
        rw [hs rfl,hol] at hl
        cases hl
      · rwa [update_of_ne ho]

lemma Assigned.step {c : Call} (hs : CallStep memoryStorage s c s') : ∃ e', Assigned s' e' := by
  cases hs with
  | create domain isIPv6 =>
    obtain ⟨e',h',_⟩ := h.create domain isIPv6
    exact ⟨e',h'⟩
  | reset => exact ⟨_,h.reset⟩

end

lemma assigned_of_run (h4 : FamilyRange false inet4Range) (h6 : FamilyRange true inet6Range)
    (h : Run (CallStep memoryStorage) (start memoryStorage inet4Range inet6Range .empty) history s) :
    ∃ e, Assigned s e := by
  refine h.invariant (I := fun _ s => ∃ e, Assigned s e) ⟨_,.start h4 h6 .empty⟩ ?_
  rintro _ _ _ _ ⟨e,he⟩ hs
  exact he.step hs

lemma kept_of_run (h : Assigned s e) {ad : Addr} (ha : e isIPv6 domain = some ad)
    (hrn : Run (CallStep memoryStorage) s history s') (hrs : .reset ∉ history)
    (hr : ∀ ot f, .create ot f (.ok ad) ∈ history → ot = domain) :
    ∃ e', Assigned s' e' ∧ e' isIPv6 domain = some ad := by
  revert hrs hr
  refine hrn.invariant (I := fun history s' => .reset ∉ history →
    (∀ ot f, .create ot f (.ok ad) ∈ history → ot = domain) →
    ∃ e', Assigned s' e' ∧ e' isIPv6 domain = some ad) (fun _ _ => ⟨e,h,ha⟩) ?_
  rintro history st c n ih hs hrs hr
  obtain ⟨e',he',ho⟩ := ih (fun hm => hrs (mem_append_left _ hm))
    fun ot f hm => hr ot f (mem_append_left _ hm)
  cases hs with
  | reset => exact absurd (mem_append_right _ (mem_singleton.mpr rfl)) hrs
  | create ot f =>
    obtain ⟨e'',he'',_,hk⟩ := he'.create ot f
    refine ⟨e'',he'',hk isIPv6 domain ad ho fun hrl => ?_⟩
    exact hr ot f (mem_append_right _ (mem_singleton.mpr (by rw [hrl])))

lemma Assigned.domainCache_iff (h : Assigned s e) (isIPv6 : Bool) (domain : Domain) (ad : Addr) :
    s.storage.domainCache isIPv6 domain = some ad ↔ ad.is4 = !isIPv6 ∧ s.storage.addressCache ad = some domain := by
  rw [h.domains,h.addresses]
  constructor
  · intro ha
    have hf := h.family _ _ _ ha
    rw [hf,Bool.not_not,(e isIPv6).eq_some_iff]
    exact ⟨rfl,ha⟩
  · rintro ⟨hf,ha⟩
    rwa [hf,Bool.not_not,(e isIPv6).eq_some_iff] at ha

/-- Over every sequence of `Create` and `Reset` calls on the store with memory storage, with ranges of
their families: in each family the two maps are inverse to each other, an address that `Create` has
just returned leads to its domain, and `Create` returns the address again until there is a reset or the
address goes to another domain. -/
theorem create_one_to_one {inet4Range inet6Range : Prefix} (h4 : FamilyRange false inet4Range)
    (h6 : FamilyRange true inet6Range) {history : List Call}
    (h : Run (CallStep memoryStorage) (start memoryStorage inet4Range inet6Range .empty) history s) :
    (∀ domain address, s.storage.domainCache4 domain = some address ↔
      address.is4 = true ∧ s.storage.addressCache address = some domain) ∧
    (∀ domain address, s.storage.domainCache6 domain = some address ↔
      address.is4 = false ∧ s.storage.addressCache address = some domain) ∧
    (∀ domain isIPv6 address, (s.create memoryStorage domain isIPv6).2 = .ok address →
      (s.create memoryStorage domain isIPv6).1.lookup memoryStorage address = some domain) ∧
    (∀ before domain isIPv6 address after, history = before++.create domain isIPv6 (.ok address)::after →
      .reset ∉ after → (∀ other family, .create other family (.ok address) ∈ after → other = domain) →
      (s.create memoryStorage domain isIPv6).2 = .ok address) := by
  obtain ⟨e,he⟩ := assigned_of_run h4 h6 h
  refine ⟨he.domainCache_iff false,he.domainCache_iff true,fun domain isIPv6 address hrl => ?_,?_⟩
  · obtain ⟨e',he',hc,_⟩ := he.create domain isIPv6
    exact ((he'.domainCache_iff isIPv6 domain address).mp ((he'.domains _ _).trans (hc address hrl))).2
  · rintro before domain isIPv6 address after rfl hrs hr
    obtain ⟨st,hb,hrt⟩ := h.split
    obtain ⟨c,hs,haf⟩ := hrt.uncons
    obtain ⟨e₀,he₀⟩ := assigned_of_run h4 h6 hb
    obtain ⟨e₁,he₁,ha⟩ : ∃ e₁, Assigned c e₁ ∧ e₁ isIPv6 domain = some address := by
      generalize hcl : Call.create domain isIPv6 (.ok address) = cl at hs
      cases hs with
      | reset => cases hcl
      | create =>
        injection hcl with hd hf hrl
        subst hd hf
        obtain ⟨e₁,he₁,hc,_⟩ := he₀.create domain isIPv6
        exact ⟨e₁,he₁,hc address hrl.symm⟩
    obtain ⟨e',he',hk⟩ := kept_of_run he₁ ha haf hrs hr
    have hl : memoryStorage.fakeIPLoadDomain s.storage domain isIPv6 = some address := by
      rw [fakeIPLoadDomain_eq,he'.domains,hk]
    simp [Store.create,hl]

def smallRange : Prefix := ⟨.v4 0x0a000000#32,30⟩

/-- In the range 10.0.0.0/30 there is one address to give; it is kept as long as it is not given away. -/
theorem create_one_to_one_small : ∃ s, Run (CallStep memoryStorage) (start memoryStorage smallRange ⟨.invalid,0⟩ .empty)
        [.create [1] false (.ok (.v4 0x0a000002#32)),
          .create [1] true (.error ⟨"missing IPv6 fakeip address range",false,false⟩)] s ∧
      (s.create memoryStorage [1] false).2 = .ok (.v4 0x0a000002#32) ∧
      (s.create memoryStorage [2] false).2 = .ok (.v4 0x0a000002#32) := by
  have hr : Run (CallStep memoryStorage) (start memoryStorage smallRange ⟨.invalid,0⟩ .empty) _ _ :=
    .cons (.create _ [1] false) (.cons (.create _ [1] true) .nil)
  have h4 : FamilyRange false smallRange := fun _ => ⟨rfl,by decide⟩
  have h6 : FamilyRange true ⟨.invalid,0⟩ := fun hv => by cases hv
  refine ⟨_,hr,(create_one_to_one h4 h6 hr).2.2.2 [] [1] false _ _ rfl ?_ ?_,rfl⟩ <;> simp

/-- After a reset a domain gets another address, though its old one went to nobody. And in a range that
starts at the last IPv4 address but one, `Create` returns the zero address, and then no address. -/
theorem create_changes_address :
    (∃ s, Run (CallStep memoryStorage) (start memoryStorage ⟨.v4 0x0a000000#32,8⟩ ⟨.invalid,0⟩ .empty)
        [.create [1] false (.ok (.v4 0x0a000002#32)),.reset] s ∧
      (s.create memoryStorage [1] false).2 = .ok (.v4 0x0a000003#32)) ∧
    (∃ s, Run (CallStep memoryStorage) (start memoryStorage ⟨.v4 0xfffffffe#32,31⟩ ⟨.invalid,0⟩ .empty)
        [.create [1] false (.ok .invalid)] s ∧
      (s.create memoryStorage [1] false).2 = .error ⟨"missing IPv4 fakeip address range",false,false⟩) :=
  ⟨⟨_,.cons (.create _ [1] false) (.cons (.reset _) .nil),rfl⟩,⟨_,.cons (.create _ [1] false) .nil,rfl⟩⟩

end SingBox.FakeIP
