import SingBox.Common.SRS
import SingBox.Library.Outcome

/-! Reading back what the rule-set writer wrote: every item in its own form, the items in their loop, and the
rules in their nesting. -/
namespace SingBox.SRS
open ByteProgram Adapter List

section

lemma parses_writeString {value : Bytes} (h : value.length ≤ maxAlloc) :
    Parses maxAlloc readString (writeString value) value := by
  have hlt := lt_of_le_maxAlloc h
  exact (Uvarint.parses_put (by omega)).bind ((Parses.readFull value).make (by omega))

/-- A slice of strings that the runtime can hold. -/
def StringsFit (value : List Bytes) : Prop := value.length*16 ≤ maxAlloc ∧ ∀ string ∈ value, string.length ≤ maxAlloc

lemma parses_strings {value : List Bytes} (h : StringsFit value) :
    Parses maxAlloc readRuleItemString (Uvarint.put value.length++value.flatMap writeString) value := by
  have hlt := lt_of_le_maxAlloc (by have := h.1; omega)
  have hs := Parses.times (fun _ => readString) writeString id value
    (fun s hst _ => parses_writeString (h.2 s hst)) 0
  rw [map_id] at hs
  exact (Uvarint.parses_put (by omega)).bind (hs.make h.1)

lemma parses_uint8s {value : List UInt8} (h : value.length ≤ maxAlloc) :
    Parses maxAlloc readRuleItemUint8 (Uvarint.put value.length++value) value := by
  have hlt := lt_of_le_maxAlloc h
  exact (Uvarint.parses_put (by omega)).bind ((Parses.readFull value).make (by omega))

variable (value : List UInt16)

lemma uint16s_flatMap : uint16s (value.flatMap fun v => BigEndian.put 2 v.toNat) = value := by
  induction value with
  | nil => rfl
  | cons v value ih =>
    have hlt := v.toNat_lt
    have hb : BigEndian.put 2 v.toNat = [UInt8.ofNat (v.toNat/256%256),UInt8.ofNat (v.toNat%256)] := rfl
    have hh : (UInt8.ofNat (v.toNat/256%256)).toNat = v.toNat/256 := by
      rw [UInt8.toNat_ofNat']
      omega
    have hl : (UInt8.ofNat (v.toNat%256)).toNat = v.toNat%256 := by
      rw [UInt8.toNat_ofNat']
      omega
    rw [flatMap_cons,hb]
    change UInt16.ofNat ((UInt8.ofNat (v.toNat/256%256)).toNat*256+(UInt8.ofNat (v.toNat%256)).toNat)::
      uint16s (value.flatMap fun v => BigEndian.put 2 v.toNat) = v::value
    rw [ih,hh,hl,Nat.div_add_mod',UInt16.ofNat_toNat]

lemma length_flatMap_put : (value.flatMap fun v => BigEndian.put 2 v.toNat).length = 2*value.length := by
  induction value with
  | nil => rfl
  | cons v value ih =>
    rw [flatMap_cons,length_append,BigEndian.length_put,ih,length_cons]
    omega

lemma parses_uint16s {value : List UInt16} (h : value.length*2 ≤ maxAlloc) : Parses maxAlloc readRuleItemUint16
      (Uvarint.put value.length++value.flatMap fun v => BigEndian.put 2 v.toNat) value := by
  have hlt := lt_of_le_maxAlloc h
  have hf := (Parses.readFull (ε := ReadError) (l := maxAlloc)
    (value.flatMap fun v => BigEndian.put 2 v.toNat)).map uint16s
  rw [uint16s_flatMap,length_flatMap_put] at hf
  exact (Uvarint.parses_put (by omega)).bind (hf.make h)

/-- An address without a zone, as ranges and prefixes have them. -/
def Zoneless : Addr → Prop
  | .v6 _ zone => zone = ""
  | _ => True

lemma addrFromIP_of_zoneless {a : Addr} (h : Zoneless a) : addrFromIP a.asSlice = a := by
  refine addrFromIP_asSlice ?_
  rintro b z rfl
  exact h

lemma length_asSlice_le (a : Addr) : a.asSlice.length ≤ maxAlloc := by
  have h : a.asSlice.length ≤ 16 := by
    cases a <;> simp [Addr.asSlice]
  exact h.trans (by decide)

lemma parses_writeIPRange {r : IPRange} (hf : Zoneless r.fromAddr) (hto : Zoneless r.toAddr) :
    Parses maxAlloc readIPRange (writeIPRange r) r := by
  have hl := (parses_writeString (length_asSlice_le r.toAddr)).map
    fun tb => IPRange.mk (addrFromIP r.fromAddr.asSlice) (addrFromIP tb)
  rw [addrFromIP_of_zoneless hf,addrFromIP_of_zoneless hto] at hl
  exact (parses_writeString (length_asSlice_le r.fromAddr)).bind (by rwa [addrFromIP_of_zoneless hf])

/-- A set that the runtime can hold, a range in 48 bytes, with ends as the builder makes them. -/
def IPSet.Held (set : IPSet) : Prop :=
  set.length*48 ≤ maxAlloc ∧ ∀ range ∈ set, Zoneless range.fromAddr ∧ Zoneless range.toAddr

lemma parses_writeIPSet {s : IPSet} (h : s.Held) : Parses maxAlloc readIPSet (writeIPSet s) s := by
  have hlt := lt_of_le_maxAlloc h.1
  have hl : BigEndian.read (BigEndian.put 8 s.length) = s.length := by
    rw [BigEndian.read_put,Nat.mod_eq_of_lt (by omega)]
  have hr := Parses.times (fun _ => readIPRange) writeIPRange id s
    (fun r hrn _ => parses_writeIPRange (h.2 r hrn).1 (h.2 r hrn).2) 0
  rw [map_id] at hr
  have hf := Parses.readFull (ε := ReadError) (l := maxAlloc) (BigEndian.put 8 s.length)
  rw [BigEndian.length_put] at hf
  refine (Parses.readByte 1).bind (hf.bind ?_)
  rw [hl]
  exact hr.make h.1

/-- A value of `netip.Prefix`: there is no zone, and the length is one of the family or -1. -/
def Canonical (pfx : Prefix) : Prop := Zoneless pfx.addr ∧ (pfx.isValid ∨ pfx.bits = 255)

lemma toNat_prefixBits {p : Prefix} (h : Canonical p) :
    (if p.isValid then UInt8.ofNat p.bits else (255 : UInt8)).toNat = p.bits := by
  split_ifs with hv
  · have hle : p.bits ≤ 128 := by
      rw [Prefix.isValid] at hv
      split at hv
      · cases hv
      all_goals
        have := of_decide_eq_true hv
        omega
    rw [UInt8.toNat_ofNat']
    omega
  · exact (h.2.resolve_left hv).symm

lemma parses_writePrefix {p : Prefix} (h : Canonical p) : Parses maxAlloc readPrefix (writePrefix p) p := by
  have hb := (Parses.readByte (ε := ReadError) (l := maxAlloc) (if p.isValid then UInt8.ofNat p.bits else 255)).map
    fun pb => Prefix.mk (addrFromIP p.addr.asSlice) pb.toNat
  rw [toNat_prefixBits h,addrFromIP_of_zoneless h.1] at hb
  exact (parses_writeString (length_asSlice_le p.addr)).bind (by rwa [addrFromIP_of_zoneless h.1])

/-- A list of pointers to prefixes that the runtime can hold. -/
def PrefixesHeld (value : List (Option Prefix)) : Prop :=
  value.length*8 ≤ maxAlloc ∧ ∀ rawPrefix ∈ value, Canonical (build rawPrefix)

def built (value : List (Option Prefix)) : List (Option Prefix) := value.map fun rawPrefix => some (build rawPrefix)

lemma built_built (value : List (Option Prefix)) : built (built value) = built value := by
  rw [built,built,map_map]
  rfl

lemma parses_writePrefixes {value : List (Option Prefix)} (h : PrefixesHeld value) :
    Parses maxAlloc readPrefixes (writePrefixes value) (built value) := by
  have hlt := lt_of_le_maxAlloc (by have := h.1; omega)
  exact (Uvarint.parses_put (by omega)).bind (Parses.times _ _ _ _
    (fun rp hr _ => (parses_writePrefix (h.2 rp hr)).map some) 0)

lemma put_of_notMem {V : Type} {es : List (UInt8 × V)} {k : UInt8} (h : k ∉ es.map Prod.fst) (value : V) :
    put es k value = es++[(k,value)] := by
  rw [put,if_neg]
  rw [any_eq_true]
  rintro ⟨e,he,hk⟩
  exact h (eq_of_beq hk ▸ mem_map_of_mem he)

lemma foldl_put {V : Type} (es b : List (UInt8 × V)) (h : ((b++es).map Prod.fst).Nodup) :
    es.foldl (fun es e => put es e.1 e.2) b = b++es := by
  induction es generalizing b with
  | nil => rw [append_nil,foldl_nil]
  | cons e es ih =>
    have hnm : e.1 ∉ b.map Prod.fst := by
      rw [map_append,map_cons,nodup_middle,nodup_cons] at h
      exact fun hm => h.1 (mem_append_left _ hm)
    rw [append_cons] at h ⊢
    rw [foldl_cons,put_of_notMem hnm,ih _ h]

/-- The entries of a `TypedMap`, with pointers that the runtime can hold. -/
def EntriesHeld (entries : List (UInt8 × List (Option Prefix))) : Prop :=
  (entries.map Prod.fst).Nodup ∧ entries.length ≤ maxAlloc ∧ ∀ entry ∈ entries, PrefixesHeld entry.2

def builtEntries (entries : List (UInt8 × List (Option Prefix))) : List (UInt8 × List (Option Prefix)) :=
  entries.map fun entry => (entry.1,built entry.2)

lemma parses_writeEntry {e : UInt8 × List (Option Prefix)} (h : PrefixesHeld e.2) :
    Parses maxAlloc readEntry (e.1::writePrefixes e.2) (e.1,built e.2) :=
  (Parses.readByte e.1).bind ((parses_writePrefixes h).map (Prod.mk e.1))

lemma parses_entries {es : List (UInt8 × List (Option Prefix))} (h : EntriesHeld es) : Parses maxAlloc readEntries
      (Uvarint.put es.length++es.flatMap fun e => e.1::writePrefixes e.2) (builtEntries es) := by
  have hlt := lt_of_le_maxAlloc h.2.1
  have hk : (([]++builtEntries es).map Prod.fst).Nodup := by
    rw [nil_append,builtEntries,map_map]
    exact h.1
  have hl := (Parses.times _ _ _ _ (fun e he _ => parses_writeEntry (h.2.2 e he)) 0).map
    fun r => r.foldl (fun es e => put es e.1 e.2) []
  have hf := foldl_put (builtEntries es) [] hk
  exact (Uvarint.parses_put (by omega)).bind ((congrArg (Parses maxAlloc _ _) hf).mp hl)

end

def kept {α : Type} (slice : Option (List α)) : Option (List α) :=
  if nonEmpty slice then some (elems slice) else none

variable {α : Type} (slice : Option (List α))

@[simp] lemma elems_kept : elems (kept slice) = elems slice := by
  rw [kept,nonEmpty]
  cases h : elems slice <;> rfl

@[simp] lemma nonEmpty_kept : nonEmpty (kept slice) = nonEmpty slice := by
  rw [nonEmpty,elems_kept,nonEmpty]

@[simp] lemma kept_kept : kept (kept slice) = kept slice := by
  rw [kept,nonEmpty_kept,elems_kept,← kept]

variable {β : Type}

lemma elems_map {f : List α → List β} (hf : f [] = []) : elems (slice.map f) = f (elems slice) := by
  cases slice with
  | none => exact hf.symm
  | some => rfl

lemma nonEmpty_map (f : α → β) : nonEmpty (slice.map (List.map f)) = nonEmpty slice := by
  rw [nonEmpty,elems_map slice map_nil,isEmpty_map,nonEmpty]

lemma kept_map (f : α → β) :
    kept (slice.map (List.map f)) = if nonEmpty slice then some ((elems slice).map f) else none := by
  rw [kept,nonEmpty_map,elems_map slice map_nil]

variable {M A : Type}

namespace DefaultHeadlessRule

/-- The items that are written as they are, without empty slices and with every pointer set. -/
def plain (rule : DefaultHeadlessRule M A) : DefaultHeadlessRule M A where
  queryType := kept rule.queryType
  network := kept rule.network
  domainKeyword := kept rule.domainKeyword
  domainRegex := kept rule.domainRegex
  sourcePort := kept rule.sourcePort
  sourcePortRange := kept rule.sourcePortRange
  port := kept rule.port
  portRange := kept rule.portRange
  processName := kept rule.processName
  processPath := kept rule.processPath
  processPathRegex := kept rule.processPathRegex
  packageName := kept rule.packageName
  packageNameRegex := kept rule.packageNameRegex
  networkType := kept rule.networkType
  networkIsExpensive := rule.networkIsExpensive
  networkIsConstrained := rule.networkIsConstrained
  wifiSSID := kept rule.wifiSSID
  wifiBSSID := kept rule.wifiBSSID
  networkInterfaceAddress := kept (rule.networkInterfaceAddress.map builtEntries)
  defaultInterfaceAddress := kept (rule.defaultInterfaceAddress.map built)
  invert := rule.invert

def stringItems (rule : DefaultHeadlessRule M A) : List (Option (List Bytes)) :=
  [rule.network,rule.domainKeyword,rule.domainRegex,rule.sourcePortRange,rule.portRange,rule.processName,
    rule.processPath,rule.processPathRegex,rule.packageName,rule.packageNameRegex,rule.wifiSSID,rule.wifiBSSID]

structure Held (rule : DefaultHeadlessRule M A) : Prop where
  strings : ∀ slice ∈ rule.stringItems, StringsFit (elems slice)
  uint16s : ∀ slice ∈ [rule.queryType,rule.sourcePort,rule.port], (elems slice).length*2 ≤ maxAlloc
  networkType : (elems rule.networkType).length ≤ maxAlloc
  networkInterfaceAddress : EntriesHeld (elems rule.networkInterfaceAddress)
  defaultInterfaceAddress : PrefixesHeld (elems rule.defaultInterfaceAddress)

end DefaultHeadlessRule

section
variable (lib : Library M A) (recover : Bool)

/-- From the one rule, the loop of items reads the bytes and goes on from the other. -/
def Reaches (bytes : Bytes) (rule rule' : DefaultHeadlessRule M A) : Prop :=
  ∀ rest result, (∀ fuel last, rest.length ≤ fuel →
      Parses maxAlloc (readDefaultItems lib recover fuel last rule') rest result) →
    ∀ fuel last, (bytes++rest).length ≤ fuel →
      Parses maxAlloc (readDefaultItems lib recover fuel last rule) (bytes++rest) result

/-- What the block writes is read by the loop of items. -/
def Covers (written : Written) (rule rule' : DefaultHeadlessRule M A) : Prop :=
  ∀ bytes, written = .ok bytes → Reaches lib recover bytes rule rule'

/-- What is written is read by the loop of items to its end. -/
def Finishes (written : Written) (rule result : DefaultHeadlessRule M A) : Prop :=
  ∀ bytes, written = .ok bytes → ∀ fuel last, bytes.length ≤ fuel →
    Parses maxAlloc (readDefaultItems lib recover fuel last rule) bytes result

variable {lib recover} {rl ru' rs : DefaultHeadlessRule M A}

lemma Reaches.nil : Reaches lib recover [] rl rl := fun _ _ h => h

variable {bs : Bytes} {tag : UInt8} {bl : List Written}

lemma Reaches.item (ht : tag ≠ 0xFF) (h : ∀ l, Parses maxAlloc (readItem lib recover tag l rl) bs ru') :
    Reaches lib recover (tag::bs) rl ru' := by
  intro r rs hr f l hf
  rw [length_append,length_cons] at hf
  obtain ⟨f,rfl⟩ : ∃ n, f = n+1 := ⟨f-1,by omega⟩
  have hl := (h l).bind (hr f tag (by omega))
  refine (Parses.readByte tag).bind ?_
  rw [if_neg ht]
  exact hl

variable {w : Written}

lemma Reaches.covers (hw : w = .ok bs) (h : Reaches lib recover bs rl ru') : Covers lib recover w rl ru' := by
  intro bt' hb'
  rwa [← Except.ok.inj (hw.symm.trans hb')]

lemma joined_cons_eq_ok {b : Written} (h : joined (b::bl) = .ok bs) :
    ∃ f r, b = .ok f ∧ joined bl = .ok r ∧ bs = f++r := by
  rw [joined] at h
  obtain ⟨f,hf,h⟩ := Outcome.bind_eq_ok.mp h
  obtain ⟨r,hr,h⟩ := Outcome.bind_eq_ok.mp h
  exact ⟨f,r,hf,hr,(Except.ok.inj h).symm⟩

lemma exists_of_joined (h : joined bl = .ok bs) (i : ℕ) (hi : i < bl.length) : ∃ w, bl[i] = .ok w := by
  induction bl generalizing bs i with
  | nil => cases hi
  | cons b bl ih =>
    obtain ⟨f,r,hf,hr,-⟩ := joined_cons_eq_ok h
    cases i with
    | zero => exact ⟨f,hf⟩
    | succ i => exact ih hr i (Nat.lt_of_succ_lt_succ hi)

lemma Finishes.cons {b : Written} (hbl : Covers lib recover b rl ru') (hb : Finishes lib recover (joined bl) ru' rs) :
    Finishes lib recover (joined (b::bl)) rl rs := by
  intro bs h
  obtain ⟨f,r,hf,hr,rfl⟩ := joined_cons_eq_ok h
  exact hbl f hf r rs (hb r hr)

lemma flag_ne_zero (f : Bool) : ((if f then 1 else 0 : UInt8) != 0) = f := by
  cases f <;> rfl

lemma finishes_final (i : Bool) :
    Finishes lib recover (joined [.ok [0xFF,if i then 1 else 0]]) rl { rl with invert := i } := by
  intro bs h f ls hfl
  obtain rfl := Except.ok.inj h
  obtain ⟨f,rfl⟩ : ∃ n, f = n+1 := ⟨f-1,by simp at hfl; omega⟩
  have hf := (Parses.readByte (ε := ReadError) (l := maxAlloc) (if i then 1 else 0)).map
    (fun b : UInt8 => { rl with invert := b != 0 })
  rw [flag_ne_zero] at hf
  exact (Parses.readByte 0xFF).bind hf

lemma covers_writeIf {c : Bool} (hr : c = false → ru' = rl)
    (h : c = true → Covers lib recover w rl ru') : Covers lib recover (writeIf c w) rl ru' := by
  cases c with
  | false =>
    intro bs hb
    obtain rfl := Except.ok.inj hb
    rw [hr rfl]
    exact .nil
  | true => exact h rfl

lemma Covers.since {c : Bool} {g v : UInt8} {i : String} (h : Covers lib recover (writeIf c w) rl ru') :
    Covers lib recover (writeIf c (since g v i w)) rl ru' := by
  cases c with
  | false => exact h
  | true =>
    intro bs hb
    refine h bs ?_
    rw [writeIf,if_pos rfl,SRS.since] at hb
    split_ifs at hb
    exact hb

lemma covers_slice {α β : Type} {slice : Option (List α)} {r : Decoder (List β)}
    {value : List β} (u : DefaultHeadlessRule M A → Option (List β) → DefaultHeadlessRule M A)
    (hp : Parses maxAlloc r bs value) (hn : u rl none = rl := by rfl) (ht : tag ≠ 0xFF := by decide)
    (him : ∀ l, readItem lib recover tag l rl = (fun v => u rl (some v)) <$> r := by intro _; rfl) :
    Covers lib recover (writeIf (nonEmpty slice) (.ok (tag::bs))) rl
      (u rl (if nonEmpty slice then some value else none)) := by
  refine covers_writeIf (fun he => ?_) fun hs => Reaches.covers rfl ?_
  · rw [if_neg (by simp [he]),hn]
  · rw [if_pos hs]
    refine .item ht fun l => ?_
    rw [him l]
    exact hp.map _

lemma covers_flag {f : Bool} (u : DefaultHeadlessRule M A → Bool → DefaultHeadlessRule M A)
    (ht : tag ≠ 0xFF := by decide) (him : ∀ l, readItem lib recover tag l rl = pure (u rl true) := by intro _; rfl)
    (hf : u rl false = rl := by rfl) : Covers lib recover (writeIf f (.ok [tag])) rl (u rl f) := by
  refine covers_writeIf (fun hfl => by rw [hfl,hf]) fun hfl => Reaches.covers rfl (.item ht fun l => ?_)
  rw [hfl,him l]
  exact .pure _

lemma covers_entries {slice : Option (List (UInt8 × List (Option Prefix)))} (held : EntriesHeld (elems slice))
    (hn : { rl with networkInterfaceAddress := none } = rl) :
    Covers lib recover (writeIf (nonEmpty slice) (.ok (21::(Uvarint.put (elems slice).length++
      (elems slice).flatMap fun e => e.1::writePrefixes e.2)))) rl
      { rl with networkInterfaceAddress := kept (slice.map builtEntries) } := by
  have hk : kept (slice.map builtEntries) = if nonEmpty slice then some (builtEntries (elems slice)) else none :=
    kept_map slice _
  rw [hk]
  exact covers_slice (fun r v => { r with networkInterfaceAddress := v }) (parses_entries held) hn

lemma covers_prefixes {slice : Option (List (Option Prefix))} (held : PrefixesHeld (elems slice))
    (hn : { rl with defaultInterfaceAddress := none } = rl) :
    Covers lib recover (writeIf (nonEmpty slice) (.ok (22::writePrefixes (elems slice)))) rl
      { rl with defaultInterfaceAddress := kept (slice.map built) } := by
  have hk : kept (slice.map built) = if nonEmpty slice then some (built (elems slice)) else none := kept_map slice _
  have hc : Covers lib recover (writeIf (nonEmpty slice) (.ok (22::writePrefixes (elems slice)))) rl _ := covers_slice
    (fun r v => { r with defaultInterfaceAddress := v.bind fun v => if v.isEmpty then none else some v })
    (parses_writePrefixes held) hn
  rw [hk]
  refine (congrArg (Covers lib recover _ rl) ?_).mp hc
  cases hs : nonEmpty slice with
  | false => rfl
  | true =>
    simpa [nonEmpty,built] using hs

end

/-- The libraries keep what they represent: a matcher that is written and read decides the set of its lists and
can be dumped to lists of the same set, a built address set has no zones and is covered by its prefixes, and
what is compressed can be decompressed. -/
structure Laws (lib : Library M A) (domainSet : List Bytes → List Bytes → String → Bool)
    (adGuardSet : List Bytes → String → Bool) : Prop where
  matcher : ∀ domains suffixes legacy m, lib.newMatcher domains suffixes legacy = some m →
    ∃ m' lists, Parses maxAlloc lib.readMatcher (lib.writeMatcher m) m' ∧
      lib.matchDomain m' = domainSet domains suffixes ∧ lib.dumpMatcher m' = .ok lists ∧
        domainSet (elems lists.1) (elems lists.2) = domainSet domains suffixes
  adGuardMatcher : ∀ ruleLines m, lib.newAdGuardMatcher ruleLines = some m →
    ∃ m' lines, Parses maxAlloc lib.readAdGuardMatcher (lib.writeAdGuardMatcher m) m' ∧
      lib.matchAdGuard m' = adGuardSet ruleLines ∧ lib.dumpAdGuardMatcher m' = .ok lines ∧
        adGuardSet (elems lines) = adGuardSet ruleLines
  ipSet : ∀ entries set, lib.buildIPSet entries = .ok set → set.Held ∧
    ∃ prefixes set', lib.prefixes set = .ok prefixes ∧ newIPSet lib (prefixes.map lib.prefixString) = .ok set' ∧
      lib.contains set' = lib.contains set
  decompress : ∀ body, lib.decompress (lib.compress body) = .ok body

variable (lib : Library M A) (domainSet : List Bytes → List Bytes → String → Bool)
  (adGuardSet : List Bytes → String → Bool) (recover : Bool)

/-- The domain item after reading: the matcher, and the lists if they are recovered. -/
def DomainRestored (domain suffix : Option (List Bytes)) (matcher : Option M) (domain' suffix' : Option (List Bytes)) :
    Prop :=
  if nonEmpty domain || nonEmpty suffix then
    (∃ m, matcher = some m ∧ lib.matchDomain m = domainSet (elems domain) (elems suffix)) ∧
      if recover then domainSet (elems domain') (elems suffix') = domainSet (elems domain) (elems suffix)
      else domain' = none ∧ suffix' = none
  else matcher = none ∧ domain' = none ∧ suffix' = none

/-- An address item after reading: the set, and prefixes of the same set if they are recovered. -/
def CIDRRestored (cidr : Option (List Bytes)) (set : Option IPSet) (cidr' : Option (List Bytes)) : Prop :=
  if nonEmpty cidr then ∃ s, newIPSet lib (elems cidr) = .ok s ∧ set = some s ∧
    if recover then ∃ s', newIPSet lib (elems cidr') = .ok s' ∧ lib.contains s' = lib.contains s else cidr' = none
  else set = none ∧ cidr' = none

/-- The AdGuard item after reading. -/
def AdGuardRestored (lines : Option (List Bytes)) (matcher : Option A) (lines' : Option (List Bytes)) : Prop :=
  if nonEmpty lines then
    (∃ m, matcher = some m ∧ lib.matchAdGuard m = adGuardSet (elems lines)) ∧
      if recover then adGuardSet (elems lines') = adGuardSet (elems lines) else lines' = none
  else matcher = none ∧ lines' = none

/-- A rule after reading: the plain items are those of the written rule, the others are restored. -/
structure Restored (rule rule' : DefaultHeadlessRule M A) : Prop where
  plain : rule' = { rule.plain with
    domain := rule'.domain, domainSuffix := rule'.domainSuffix, domainMatcher := rule'.domainMatcher
    sourceIPCIDR := rule'.sourceIPCIDR, sourceIPSet := rule'.sourceIPSet
    ipCIDR := rule'.ipCIDR, ipSet := rule'.ipSet
    adGuardDomain := rule'.adGuardDomain, adGuardDomainMatcher := rule'.adGuardDomainMatcher }
  domain : DomainRestored lib domainSet recover rule.domain rule.domainSuffix rule'.domainMatcher rule'.domain
    rule'.domainSuffix
  source : CIDRRestored lib recover rule.sourceIPCIDR rule'.sourceIPSet rule'.sourceIPCIDR
  destination : CIDRRestored lib recover rule.ipCIDR rule'.ipSet rule'.ipCIDR
  adGuard : AdGuardRestored lib adGuardSet recover rule.adGuardDomain rule'.adGuardDomainMatcher rule'.adGuardDomain

variable {lib domainSet adGuardSet recover}

variable {rl : DefaultHeadlessRule M A} {bs : Bytes} {gv : UInt8}

lemma reaches_item {μ : Type} {tag : UInt8} {wr : Bytes} {m : μ} {r : Decoder μ}
    {f : μ → Decoder (DefaultHeadlessRule M A)} {rul' : DefaultHeadlessRule M A} {recover : Bool} (ht : tag ≠ 0xFF)
    (hp : Parses maxAlloc r wr m) (hf : Parses maxAlloc (f m) [] rul')
    (him : ∀ l, readItem lib recover tag l rl = (r >>= f)) : Reaches lib recover (tag::wr) rl rul' := by
  refine .item ht fun l => ?_
  have hr := hp.bind hf
  rw [append_nil] at hr
  rwa [him l]

variable (lw : Laws lib domainSet adGuardSet) (rc : Bool)
include lw

lemma reaches_domain {d s : Option (List Bytes)} {l : Bool} (h : writeIf (nonEmpty d || nonEmpty s)
      (writeMatcherItem 2 lib.writeMatcher (lib.newMatcher (elems d) (elems s) l)) = .ok bs) :
    ∃ mt d' s', DomainRestored lib domainSet rc d s mt d' s' ∧
      ∀ rl : DefaultHeadlessRule M A, { rl with domainMatcher := none, domain := none, domainSuffix := none } = rl →
        Reaches lib rc bs rl { rl with domainMatcher := mt, domain := d', domainSuffix := s' } := by
  rw [writeIf] at h
  split_ifs at h with hc
  · simp only [DomainRestored,if_pos hc]
    cases hm : lib.newMatcher (elems d) (elems s) l with
    | none => simp [hm,writeMatcherItem] at h
    | some =>
      rw [hm] at h
      obtain rfl := Except.ok.inj h
      obtain ⟨m',ls,hp,hmt,hd,hl⟩ := lw.matcher _ _ _ _ hm
      cases rc with
      | false =>
        refine ⟨some m',none,none,⟨⟨m',rfl,hmt⟩,rfl,rfl⟩,fun rl hr => ?_⟩
        have hs := congrArg (fun r => { r with domainMatcher := some m' }) hr
        exact reaches_item (by decide) hp (hs ▸ .pure _) fun _ => rfl
      | true =>
        refine ⟨some m',ls.1,ls.2,⟨⟨m',rfl,hmt⟩,hl⟩,fun rl hr => ?_⟩
        refine reaches_item (by decide) hp ?_ fun _ => rfl
        rw [hd]
        exact .pure _
  · obtain rfl := Except.ok.inj h
    refine ⟨none,none,none,?_,fun rl hr => hr.symm ▸ .nil⟩
    rw [DomainRestored,if_neg hc]
    exact ⟨rfl,rfl,rfl⟩

lemma reaches_cidr {cidr : Option (List Bytes)} {tag : UInt8} {field : String} (ht : tag ≠ 0xFF)
    (h : writeIf (nonEmpty cidr) (writeRuleItemCIDR lib tag field (elems cidr)) = .ok bs) :
    ∃ set cidr', CIDRRestored lib rc cidr set cidr' ∧ ∀ (rl : DefaultHeadlessRule M A)
        (update : DefaultHeadlessRule M A → Option IPSet → Option (List Bytes) → DefaultHeadlessRule M A),
        (∀ last, readItem lib rc tag last rl = (do
          let set ← readIPSet
          let cidr ← recoverCIDR lib rc set none
          pure (update rl (some set) cidr))) → update rl none none = rl →
        Reaches lib rc bs rl (update rl set cidr') := by
  rw [writeIf] at h
  split_ifs at h with hc
  · simp only [CIDRRestored,if_pos hc]
    rw [writeRuleItemCIDR] at h
    cases hst : newIPSet lib (elems cidr) with
    | error => simp [hst] at h
    | ok set =>
      rw [hst] at h
      obtain rfl := Except.ok.inj h
      obtain ⟨entries,-,hb⟩ := Outcome.bind_eq_ok.mp hst
      obtain ⟨hh,prefixes,set',hp,hs',hs⟩ := lw.ipSet _ _ hb
      obtain ⟨cidr',hr,hcd⟩ : ∃ cidr', (if rc then ∃ s', newIPSet lib (elems cidr') = .ok s' ∧
          lib.contains s' = lib.contains set else cidr' = none) ∧
          Parses maxAlloc (recoverCIDR lib rc set none) [] cidr' := by
        cases rc with
        | false => exact ⟨none,rfl,.pure _⟩
        | true =>
          refine ⟨some (prefixes.map lib.prefixString),⟨set',hs',hs⟩,?_⟩
          rw [recoverCIDR,if_pos rfl,hp]
          exact .pure _
      exact ⟨some set,cidr',⟨set,rfl,rfl,hr⟩,fun rl update him _ =>
        reaches_item ht (parses_writeIPSet hh) (hcd.map (update rl (some set))) him⟩
  · obtain rfl := Except.ok.inj h
    refine ⟨none,none,?_,fun rl update _ hrl => hrl.symm ▸ .nil⟩
    rw [CIDRRestored,if_neg hc]
    exact ⟨rfl,rfl⟩

lemma reaches_adGuard {ls : Option (List Bytes)} {i : String} (h : writeIf (nonEmpty ls) (since gv 2 i
      (writeMatcherItem 16 lib.writeAdGuardMatcher (lib.newAdGuardMatcher (elems ls)))) = .ok bs) :
    ∃ mt ls', AdGuardRestored lib adGuardSet rc ls mt ls' ∧
      ∀ rl : DefaultHeadlessRule M A, { rl with adGuardDomainMatcher := none, adGuardDomain := none } = rl →
        Reaches lib rc bs rl { rl with adGuardDomainMatcher := mt, adGuardDomain := ls' } := by
  rw [writeIf,SRS.since] at h
  split_ifs at h with hc
  · simp only [AdGuardRestored,if_pos hc]
    cases hm : lib.newAdGuardMatcher (elems ls) with
    | none => simp [hm,writeMatcherItem] at h
    | some =>
      rw [hm] at h
      obtain rfl := Except.ok.inj h
      obtain ⟨m',ls',hp,hmt,hd,hl⟩ := lw.adGuardMatcher _ _ hm
      cases rc with
      | false =>
        refine ⟨some m',none,⟨⟨m',rfl,hmt⟩,rfl⟩,fun rl hr => ?_⟩
        have hs := congrArg (fun r => { r with adGuardDomainMatcher := some m' }) hr
        exact reaches_item (by decide) hp (hs ▸ .pure _) fun _ => rfl
      | true =>
        refine ⟨some m',ls',⟨⟨m',rfl,hmt⟩,hl⟩,fun rl hr => ?_⟩
        refine reaches_item (by decide) hp ?_ fun _ => rfl
        rw [hd]
        exact .pure _
  · obtain rfl := Except.ok.inj h
    refine ⟨none,none,?_,fun rl hr => hr.symm ▸ .nil⟩
    rw [AdGuardRestored,if_neg hc]
    exact ⟨rfl,rfl⟩

lemma parses_writeDefaultRule (held : rl.Held) (h : writeDefaultRule lib gv rl = .ok bs) :
    ∃ rest rule', bs = [0]++rest ∧ Restored lib domainSet adGuardSet rc rl rule' ∧
      ∀ fuel, rest.length ≤ fuel → Parses maxAlloc (readDefaultRule lib rc fuel) rest rule' := by
  have hb := exists_of_joined h
  have hl : (defaultBlocks lib gv rl).length = 26 := rfl
  obtain ⟨first,rest,hf,hrt,rfl⟩ := joined_cons_eq_ok h
  obtain rfl := Except.ok.inj hf
  obtain ⟨_,hdm⟩ := hb 3 (by omega)
  obtain ⟨_,hsc⟩ := hb 6 (by omega)
  obtain ⟨_,hd⟩ := hb 7 (by omega)
  obtain ⟨_,hag⟩ := hb 24 (by omega)
  obtain ⟨matcher,domain,suffix,hre,hrn⟩ := reaches_domain lw rc hdm
  obtain ⟨sourceSet,sourceCIDR,hrs,hrc⟩ := reaches_cidr lw rc (by decide) hsc
  obtain ⟨ipSet,ipCIDR,hr,hrd⟩ := reaches_cidr lw rc (by decide) hd
  obtain ⟨adGuardMatcher,lines,hrl,hra⟩ := reaches_adGuard lw rc hag
  have hs := held.strings
  have hu := held.uint16s
  simp only [DefaultHeadlessRule.stringItems,forall_mem_cons] at hs hu
  obtain ⟨hn,hk,hrx,hsr,hrg,hnm,hpt,hp,hpc,hpr,hss,hbs,-⟩ :=
    hs
  obtain ⟨hqt,hsp,hpo,-⟩ := hu
  refine ⟨rest,{ rl.plain with
    domainMatcher := matcher, domain := domain, domainSuffix := suffix, sourceIPSet := sourceSet
    sourceIPCIDR := sourceCIDR, ipSet := ipSet, ipCIDR := ipCIDR, adGuardDomainMatcher := adGuardMatcher
    adGuardDomain := lines },rfl,⟨rfl,hre,hrs,hr,hrl⟩,?_⟩
  refine fun fuel hfl => (?_ : Finishes lib rc (joined (defaultBlocks lib gv rl).tail) {} _)
    rest hrt fuel 0 hfl
  refine .cons (covers_slice (fun r v => { r with queryType := v }) (parses_uint16s hqt)) ?_
  refine .cons (covers_slice (fun r v => { r with network := v }) (parses_strings hn)) ?_
  refine .cons ((hrn _ rfl).covers hdm) ?_
  refine .cons (covers_slice (fun r v => { r with domainKeyword := v }) (parses_strings hk)) ?_
  refine .cons (covers_slice (fun r v => { r with domainRegex := v }) (parses_strings hrx)) ?_
  refine .cons ((hrc _ (fun r set cidr => { r with sourceIPSet := set, sourceIPCIDR := cidr })
    (fun _ => rfl) rfl).covers hsc) ?_
  refine .cons ((hrd _ (fun r set cidr => { r with ipSet := set, ipCIDR := cidr })
    (fun _ => rfl) rfl).covers hd) ?_
  refine .cons (covers_slice (fun r v => { r with sourcePort := v }) (parses_uint16s hsp)) ?_
  refine .cons (covers_slice (fun r v => { r with sourcePortRange := v }) (parses_strings hsr)) ?_
  refine .cons (covers_slice (fun r v => { r with port := v }) (parses_uint16s hpo)) ?_
  refine .cons (covers_slice (fun r v => { r with portRange := v }) (parses_strings hrg)) ?_
  refine .cons (covers_slice (fun r v => { r with processName := v }) (parses_strings hnm)) ?_
  refine .cons (covers_slice (fun r v => { r with processPath := v }) (parses_strings hpt)) ?_
  refine .cons (covers_slice (fun r v => { r with processPathRegex := v }) (parses_strings hp)) ?_
  refine .cons (covers_slice (fun r v => { r with packageName := v }) (parses_strings hpc)) ?_
  refine .cons (covers_slice (fun r v => { r with packageNameRegex := v }) (parses_strings hpr)).since ?_
  refine .cons (covers_slice (fun r v => { r with networkType := v }) (parses_uint8s held.networkType)).since ?_
  refine .cons (covers_flag (fun r v => { r with networkIsExpensive := v })).since ?_
  refine .cons (covers_flag (fun r v => { r with networkIsConstrained := v })).since ?_
  refine .cons (covers_entries held.networkInterfaceAddress rfl).since ?_
  refine .cons (covers_prefixes held.defaultInterfaceAddress rfl).since ?_
  refine .cons (covers_slice (fun r v => { r with wifiSSID := v }) (parses_strings hss)) ?_
  refine .cons (covers_slice (fun r v => { r with wifiBSSID := v }) (parses_strings hbs)) ?_
  refine .cons ((hra _ rfl).covers hag) ?_
  exact finishes_final rl.invert

end SingBox.SRS
