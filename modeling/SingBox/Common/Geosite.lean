import SingBox.Common.Binary

/-! The geosite file (`common/geosite/writer.go`, `common/geosite/reader.go`): the codes with the byte offsets
of their items come first, the items of all codes after them, and a reader seeks to the items of a code. -/
namespace SingBox.Geosite
open ByteProgram List

structure Item where
  type : UInt8
  value : Bytes
  deriving DecidableEq

/-- A map from codes to items that the runtime can hold: a string is 16 bytes in a slice, an item 24. -/
structure Domains where
  entries : List (Bytes × List Item)
  nodup : (entries.map Prod.fst).Nodup
  codes_fit : entries.length*16 ≤ maxAlloc
  code_fits : ∀ entry ∈ entries, entry.1.length ≤ maxAlloc
  items_fit : ∀ entry ∈ entries, entry.2.length*24 ≤ maxAlloc
  value_fits : ∀ entry ∈ entries, ∀ item ∈ entry.2, item.value.length ≤ maxAlloc

namespace Domains

def get (domains : Domains) (code : Bytes) : List Item := (domains.entries.lookup code).getD []

def keys (domains : Domains) : List Bytes := (domains.entries.map Prod.fst).insertionSort (· ≤ ·)

end Domains

def writeString (value : Bytes) : Bytes := Uvarint.put value.length++value

def writeItem (item : Item) : Bytes := item.type::writeString item.value

def writeContent (get : Bytes → List Item) : List Bytes → Bytes → List (Bytes × ℕ) × Bytes
  | [], content => ([],content)
  | code::keys, content =>
    let written := writeContent get keys (content++(get code).flatMap writeItem)
    ((code,content.length)::written.1,written.2)

def writeEntry (index : List (Bytes × ℕ)) (get : Bytes → List Item) (code : Bytes) : Bytes :=
  writeString code++(Uvarint.put ((index.lookup code).getD 0)++Uvarint.put (get code).length)

def writeHeader (index : List (Bytes × ℕ)) (get : Bytes → List Item) (keys : List Bytes) : Bytes :=
  [0]++(Uvarint.put keys.length++keys.flatMap (writeEntry index get))

/-- `Write` to a writer that takes everything; a buffer that cannot grow panics. -/
def write (domains : Domains) : Except String Bytes :=
  let written := writeContent domains.get domains.keys []
  if maxAlloc < written.2.length then .error "bytes.Buffer: too large"
  else .ok (writeHeader written.1 domains.get domains.keys++written.2)

/-- A file with a `bufio.Reader` in front of it. The file has been read `reads` times up to `offset`, `buffer`
is what the reader has not given out, and `counter` counts the bytes of reads that go through `readCounter`. -/
structure Source where
  content : Bytes
  offset : ℕ
  buffer : Bytes
  reads : ℕ
  counter : Option ℕ

namespace Source

/-- `ReadByte`. One read of the file gives at least a byte unless the file is at its end, at most the 4096 of
the buffer, and as many between them as `chunk` says. -/
def next (chunk : ℕ → ℕ) (s : Source) : Option UInt8 × Source :=
  match s.buffer with
  | b :: rest => (some b,{ s with buffer := rest })
  | [] =>
    match (s.content.drop s.offset).take (max 1 (min (chunk s.reads) 4096)) with
    | [] => (none,{ s with reads := s.reads+1 })
    | b :: rest =>
      (some b,{ s with
        offset := s.offset+(rest.length+1), buffer := rest, reads := s.reads+1
        counter := s.counter.map (·+(rest.length+1)) })

def view (s : Source) : Bytes := s.buffer++s.content.drop s.offset

end Source

def readString : Decoder Bytes := do
  let length ← Uvarint.read
  .make length 1 (times (fun _ => readByte) length 0)

def readItem : Decoder Item := do
  let type ← readByte
  let value ← readString
  pure ⟨type,value⟩

/-- One entry of `domainIndex` and `domainLength`. -/
structure Entry where
  code : Bytes
  index : ℤ
  length : ℤ

def readEntry : Decoder Entry := do
  let code ← readString
  let codeIndex ← Uvarint.read
  let codeLength ← Uvarint.read
  pure ⟨code,toInt codeIndex,toInt codeLength⟩

/-- What `readMetadata` reads. -/
def readEntries : Decoder (List Entry) := do
  let version ← readByte
  if version ≠ 0 then .fail (.new (ascii "unknown version"))
  else
    let entryLength ← Uvarint.read
    .make entryLength 16 (times (fun _ => readEntry) entryLength 0)

def readItems (length : ℤ) : Decoder (List Item) :=
  if length < 0 then .crash "makeslice: len out of range"
  else .make length.toNat 24 (times (fun _ => readItem) length.toNat 0)

structure Reader where
  source : Source
  metadataIndex : ℤ
  entries : List Entry

/-- `NewReader` on a file at its start, with the codes in the order of the file (the code has no order). -/
def newReader (chunk : ℕ → ℕ) (content : Bytes) : Ended ReadError (Reader × List Bytes) :=
  match readEntries.runOn maxAlloc (Source.next chunk) ⟨content,0,[],0,some 0⟩ with
  | (.ok entries,source) =>
    .ok (⟨source,(source.counter.getD 0 : ℤ)-source.buffer.length,entries⟩,(entries.map Entry.code).dedup)
  | (.failed err,_) => .failed err
  | (.crashed reason,_) => .crashed reason

namespace Reader

def find (r : Reader) (code : Bytes) : Option Entry := r.entries.reverse.find? (·.code == code)

def read (chunk : ℕ → ℕ) (r : Reader) (code : Bytes) : Ended ReadError (List Item) × Reader :=
  match r.find code with
  | none => (.failed (.new (ascii "code "++code++ascii " not exists!")),r)
  | some entry =>
    let position := r.metadataIndex+entry.index
    if position < 0 then (.failed (.new (ascii "negative position")),r)
    else
      -- Seek, and Reset to the file itself and not to the counter
      let source := { r.source with offset := position.toNat, buffer := [], counter := none }
      let ended := (readItems entry.length).runOn maxAlloc (Source.next chunk) source
      (ended.1,{ r with source := ended.2 })

def readAll (chunk : ℕ → ℕ) : Reader → List Bytes → List (Ended ReadError (List Item))
  | _, [] => []
  | r, code::codes => (r.read chunk code).1::(r.read chunk code).2.readAll chunk codes

end Reader

section
variable {get : Bytes → List Item}

lemma parses_writeString {v : Bytes} (h : v.length ≤ maxAlloc) : Parses maxAlloc readString (writeString v) v := by
  have hb : Parses maxAlloc (times (fun _ => readByte) v.length 0 : Decoder Bytes) v v := by
    have h := Parses.times (l := maxAlloc) (ε := ReadError) (fun _ => readByte) (fun b => [b]) (fun b => b) v
      (fun b _ _ => Parses.readByte b) 0
    simpa using h
  exact (Uvarint.parses_put (by have := lt_of_le_maxAlloc h; omega)).bind (hb.make (by omega))

lemma parses_writeItem {i : Item} (h : i.value.length ≤ maxAlloc) : Parses maxAlloc readItem (writeItem i) i := by
  exact (Parses.readByte i.type).bind ((parses_writeString h).map (Item.mk i.type))

lemma parses_writeItems {it : List Item} (his : it.length*24 ≤ maxAlloc) (hv : ∀ i ∈ it, i.value.length ≤ maxAlloc) :
    Parses maxAlloc (readItems it.length) (it.flatMap writeItem) it := by
  have h := Parses.times (fun _ => readItem) writeItem id it
    (fun i him _ => parses_writeItem (hv i him)) 0
  rw [map_id] at h
  rw [readItems,if_neg (by omega),Int.toNat_natCast]
  exact h.make his

def entryOf (index : List (Bytes × ℕ)) (get : Bytes → List Item) (code : Bytes) : Entry :=
  ⟨code,((index.lookup code).getD 0 : ℕ),((get code).length : ℕ)⟩

lemma parses_writeEntry {i : List (Bytes × ℕ)} {co : Bytes} (hc : co.length ≤ maxAlloc)
    (hin : (i.lookup co).getD 0 ≤ maxAlloc) (hl : (get co).length ≤ maxAlloc) :
    Parses maxAlloc readEntry (writeEntry i get co) (entryOf i get co) := by
  have hlt := lt_of_le_maxAlloc hin
  have hlt' := lt_of_le_maxAlloc hl
  have hn := (Uvarint.parses_put (ε := ReadError) (l := maxAlloc) (n := (get co).length) (by omega)).map
    fun n => Entry.mk co (toInt ((i.lookup co).getD 0)) (toInt n)
  rw [toInt_of_le hin,toInt_of_le hl] at hn
  exact (parses_writeString hc).bind ((Uvarint.parses_put (by omega)).bind (by rwa [toInt_of_le hin]))

variable (get : Bytes → List Item)

lemma writeContent_spec (k : List Bytes) (c : Bytes) :
    (writeContent get k c).1.map Prod.fst = k ∧ c <+: (writeContent get k c).2 ∧
      ∀ e ∈ (writeContent get k c).1, e.2 ≤ (writeContent get k c).2.length ∧
        (get e.1).flatMap writeItem <+: (writeContent get k c).2.drop e.2 := by
  induction k generalizing c with
  | nil => exact ⟨rfl,prefix_refl c,by rintro e ⟨⟩⟩
  | cons co k ih =>
    obtain ⟨hk,⟨m,hm⟩,hin⟩ := ih (c++(get co).flatMap writeItem)
    rw [writeContent]
    refine ⟨by rw [map_cons,hk],?_,?_⟩
    · exact ⟨(get co).flatMap writeItem++m,by rw [← hm,append_assoc]⟩
    · intro e he
      obtain rfl | he := mem_cons.mp he
      · dsimp only
        rw [← hm,append_assoc,drop_left]
        exact ⟨by simp,prefix_append _ _⟩
      · exact hin e he

lemma lookup_writeContent {k : List Bytes} {co : Bytes} (h : co ∈ k) :
    ((writeContent get k []).1.lookup co).getD 0 ≤ (writeContent get k []).2.length ∧ (get co).flatMap writeItem <+:
        (writeContent get k []).2.drop (((writeContent get k []).1.lookup co).getD 0) := by
  obtain ⟨hk,-,hin⟩ := writeContent_spec get k []
  cases hl : (writeContent get k []).1.lookup co with
  | none =>
    -- every code has an offset
    rw [lookup_eq_none_iff] at hl
    rw [← hk] at h
    obtain ⟨e,he,rfl⟩ := mem_map.mp h
    exact absurd (hl e he) (by simp)
  | some o =>
    obtain ⟨b,a,hs,-⟩ := lookup_eq_some_iff.mp hl
    have hm : (co,o) ∈ (writeContent get k []).1 := by
      rw [hs]
      simp
    exact hin (co,o) hm

end

def Domains.answer (domains : Domains) (code : Bytes) : Ended ReadError (List Item) :=
  match domains.entries.lookup code with
  | some items => .ok items
  | none => .failed (.new (ascii "code "++code++ascii " not exists!"))

namespace Source
variable {c : ℕ → ℕ} {file : Bytes}

/-- A source that has only been read forward from its start, through the counter. -/
structure Counted (file : Bytes) (s : Source) : Prop where
  content : s.content = file
  counter : s.counter = some s.offset
  offset_le : s.offset ≤ file.length
  buffer_le : s.buffer.length ≤ s.offset

lemma next_cases (c : ℕ → ℕ) (s : Source) :
    (∃ b rest, s.buffer = b::rest ∧ s.next c = (some b,{ s with buffer := rest })) ∨
    (s.view = [] ∧ s.next c = (none,{ s with reads := s.reads+1 })) ∨
    ∃ b rest more, s.buffer = [] ∧ s.content.drop s.offset = b::rest++more ∧ s.next c = (some b,{ s with
      offset := s.offset+(rest.length+1), buffer := rest, reads := s.reads+1
      counter := s.counter.map (·+(rest.length+1)) }) := by
  rw [next]
  cases hb : s.buffer with
  | cons b rest => exact .inl ⟨b,rest,rfl,rfl⟩
  | nil =>
    refine .inr ?_
    have hs := take_append_drop (max 1 (min (c s.reads) 4096)) (s.content.drop s.offset)
    cases ht : (s.content.drop s.offset).take (max 1 (min (c s.reads) 4096)) with
    | nil =>
      -- a read of at least one byte gives none at the end only
      refine .inl ⟨?_,rfl⟩
      rw [take_eq_nil_iff] at ht
      rw [view,hb,nil_append]
      exact ht.resolve_left (by omega)
    | cons b rest =>
      rw [ht] at hs
      exact .inr ⟨b,rest,_,rfl,hs.symm,rfl⟩

variable (s : Source)

lemma next_head : (s.next c).1 = s.view.head? := by
  obtain ⟨b,rs,hb,hn⟩ | ⟨hv,hn⟩ | ⟨b,rs,m,hb,hd,hn⟩ := next_cases c s
  · simp [hn,view,hb]
  · simp [hn,hv]
  · simp [hn,view,hb,hd]

lemma next_tail : (s.next c).2.view = s.view.tail := by
  obtain ⟨b,rs,hb,hn⟩ | ⟨hv,hn⟩ | ⟨b,rs,m,hb,hd,hn⟩ := next_cases c s
  · simp [hn,view,hb]
  · have hs : (s.next c).2.view = s.view := by
      rw [hn]
      rfl
    simp [hs,hv]
  · have hm : s.content.drop (s.offset+(rs.length+1)) = m := by
      rw [← drop_drop,hd]
      exact drop_left' rfl
    simp [hn,view,hb,hd,hm]

lemma next_content : (s.next c).2.content = s.content := by
  obtain ⟨b,rs,-,hn⟩ | ⟨-,hn⟩ | ⟨b,rs,m,-,-,hn⟩ := next_cases c s <;> rw [hn]

lemma Counted.next {s : Source} (h : Counted file s) : Counted file (s.next c).2 := by
  obtain ⟨b,rs,hb,hn⟩ | ⟨-,hn⟩ | ⟨b,rs,m,-,hd,hn⟩ := next_cases c s
  · have hl := h.buffer_le
    rw [hb,length_cons] at hl
    rw [hn]
    exact ⟨h.content,h.counter,h.offset_le,by dsimp only; omega⟩
  · rw [hn]
    exact ⟨h.content,h.counter,h.offset_le,h.buffer_le⟩
  · have hl := congrArg length hd
    rw [length_drop,h.content,length_append,length_cons] at hl
    have hle := h.offset_le
    rw [hn]
    refine ⟨h.content,?_,?_,?_⟩
    · dsimp only
      rw [h.counter,Option.map_some]
    all_goals
      dsimp only
      omega

lemma shows_counted (c : ℕ → ℕ) : Shows (next c) view (Counted file) :=
  ⟨fun _ h => h.next,fun s _ => s.next_head,fun s _ => s.next_tail⟩

lemma shows_content (c : ℕ → ℕ) : Shows (next c) view (·.content = file) :=
  ⟨fun s h => s.next_content.trans h,fun s _ => s.next_head,fun s _ => s.next_tail⟩

lemma Counted.position {s : Source} (h : Counted file s) :
    s.counter.getD 0-s.buffer.length = file.length-s.view.length := by
  have ho := h.offset_le
  have hb := h.buffer_le
  rw [h.counter,Option.getD_some,view,h.content,length_append,length_drop]
  omega

end Source

namespace Domains
variable (ds : Domains) {c : Bytes}

lemma lookup_eq_none_iff : ds.entries.lookup c = none ↔ c ∉ ds.keys := by
  rw [keys,(perm_insertionSort _ _).mem_iff,List.lookup_eq_none_iff,mem_map]
  constructor
  · rintro hn ⟨e,he,rfl⟩
    exact absurd (hn e he) (by simp)
  · intro hnt e he
    exact bne_iff_ne.mpr fun heq => hnt ⟨e,he,heq.symm⟩

lemma mem_entries (h : c ∈ ds.keys) : (c,ds.get c) ∈ ds.entries := by
  cases hl : ds.entries.lookup c with
  | none => exact absurd h (ds.lookup_eq_none_iff.mp hl)
  | some =>
    obtain ⟨b,a,hs,-⟩ := lookup_eq_some_iff.mp hl
    rw [get,hl,Option.getD_some,hs]
    simp

lemma answer_of_mem (h : c ∈ ds.keys) : ds.answer c = .ok (ds.get c) := by
  rw [answer,get]
  cases hl : ds.entries.lookup c with
  | none => exact absurd h (ds.lookup_eq_none_iff.mp hl)
  | some => rfl

lemma length_keys : ds.keys.length = ds.entries.length := by
  rw [keys,length_insertionSort,length_map]

end Domains

structure Opened (domains : Domains) (r : Reader) : Prop where
  content : r.source.content = writeHeader (writeContent domains.get domains.keys []).1 domains.get domains.keys++
      (writeContent domains.get domains.keys []).2
  metadataIndex : r.metadataIndex =
    (writeHeader (writeContent domains.get domains.keys []).1 domains.get domains.keys).length
  entries : r.entries = domains.keys.map (entryOf (writeContent domains.get domains.keys []).1 domains.get)

abbrev Domains.entry (domains : Domains) : Bytes → Entry := entryOf (writeContent domains.get domains.keys []).1 domains.get

section
variable {ds : Domains} {r : Reader} {c : ℕ → ℕ} {cd : Bytes} (h : Opened ds r)
include h

lemma Opened.find_eq (hc : cd ∈ ds.keys) : r.find cd = some (ds.entry cd) := by
  cases hf : r.find cd with
  | none =>
    rw [Reader.find,find?_eq_none,h.entries] at hf
    have hm := mem_reverse.mpr (mem_map_of_mem hc (f := ds.entry))
    exact absurd (beq_self_eq_true cd) (hf _ hm)
  | some =>
    have hm := mem_of_find?_eq_some hf
    have hs := find?_some hf
    rw [h.entries,mem_reverse] at hm
    obtain ⟨co',-,rfl⟩ := mem_map.mp hm
    rw [← eq_of_beq hs]
    rfl

lemma Opened.find_eq_none (hc : cd ∉ ds.keys) : r.find cd = none := by
  rw [Reader.find,find?_eq_none,h.entries]
  intro e he hs
  obtain ⟨co',hc',rfl⟩ := mem_map.mp (mem_reverse.mp he)
  exact hc (eq_of_beq hs ▸ hc')

lemma Opened.drop_content (hc : cd ∈ ds.keys) : ∃ rs, r.source.content.drop (r.metadataIndex+
      (ds.entry cd).index).toNat = (ds.get cd).flatMap writeItem++rs := by
  obtain ⟨-,rs,hr⟩ := lookup_writeContent ds.get hc
  refine ⟨rs,?_⟩
  rw [h.content,h.metadataIndex,Domains.entry,entryOf,← Nat.cast_add,Int.toNat_natCast,← drop_drop,drop_left]
  exact hr.symm

lemma Opened.read_of_mem (hcd : cd ∈ ds.keys) : (r.read c cd).1 = .ok (ds.get cd) ∧ Opened ds (r.read c cd).2 := by
  have he := ds.mem_entries hcd
  have hpr := parses_writeItems (ds.items_fit _ he) (ds.value_fits _ he)
  obtain ⟨rs,hr⟩ := h.drop_content hcd
  have hp : ¬ r.metadataIndex+ (ds.entry cd).index < 0 := by
    rw [h.metadataIndex,Domains.entry,entryOf]
    dsimp only
    omega
  rw [Reader.read,h.find_eq hcd]
  dsimp only
  rw [if_neg hp]
  generalize (r.metadataIndex+ (ds.entry cd).index).toNat = p at hr
  -- the run on the file is the run on the bytes from the position on
  obtain ⟨hen,hc,-⟩ := runOn_eq (Source.shows_content c)
    (readItems (ds.get cd).length)
    rfl
  refine ⟨?_,hc.trans h.content,h.metadataIndex,h.entries⟩
  refine hen.trans ?_
  rw [Source.view,nil_append,hr,hpr rs]
  rfl

lemma Opened.read (c : ℕ → ℕ) (cd : Bytes) : (r.read c cd).1 = ds.answer cd ∧ Opened ds (r.read c cd).2 := by
  by_cases hc : cd ∈ ds.keys
  · rw [ds.answer_of_mem hc]
    exact h.read_of_mem hc
  · rw [Domains.answer,ds.lookup_eq_none_iff.mpr hc,Reader.read,h.find_eq_none hc]
    exact ⟨rfl,h⟩

lemma Opened.readAll (cs : List Bytes) : r.readAll c cs = cs.map ds.answer := by
  induction cs generalizing r with
  | nil => rfl
  | cons cd cs ih =>
    obtain ⟨ha,hn⟩ := h.read c cd
    rw [Reader.readAll,ha,ih hn,map_cons]

end

lemma parses_writeHeader (dm : Domains) (hcn : (writeContent dm.get dm.keys []).2.length ≤ maxAlloc) :
    Parses maxAlloc readEntries (writeHeader (writeContent dm.get dm.keys []).1 dm.get dm.keys)
      (dm.keys.map dm.entry) := by
  have hc := dm.codes_fit
  rw [← dm.length_keys] at hc
  have hl := lt_of_le_maxAlloc (by omega)
  have hen := Parses.times (fun _ => readEntry)
    (writeEntry (writeContent dm.get dm.keys []).1 dm.get)
    dm.entry dm.keys
    (fun co hcd _ => by
      have he := dm.mem_entries hcd
      have his := dm.items_fit _ he
      exact parses_writeEntry (dm.code_fits _ he)
        ((lookup_writeContent dm.get hcd).1.trans hcn) (by dsimp only at his; omega)) 0
  exact (Parses.readByte 0).bind ((Uvarint.parses_put (by omega)).bind (hen.make hc))

lemma newReader_write {domains : Domains} {file : Bytes} (h : write domains = .ok file) (chunk : ℕ → ℕ) :
    ∃ r cs, newReader chunk file = .ok (r,cs) ∧ cs.Perm (domains.entries.map Prod.fst) ∧ Opened domains r := by
  rw [write] at h
  split_ifs at h with hf
  obtain rfl := Except.ok.inj h
  have hpr := parses_writeHeader domains (not_lt.mp hf)
  obtain ⟨he,hc,hr⟩ := runOn_eq (Source.shows_counted chunk) readEntries
    (s := ⟨writeHeader (writeContent domains.get domains.keys []).1 domains.get domains.keys++
      (writeContent domains.get domains.keys []).2,0,[],0,some 0⟩) ⟨rfl,rfl,Nat.zero_le _,Nat.zero_le _⟩
  rw [Source.view,nil_append,drop_zero,hpr] at he hr
  have hv := hr _ _ rfl
  have hp := hc.position
  have hb := hc.buffer_le
  have hcn := hc.counter
  rw [hv,length_append,Nat.add_sub_cancel] at hp
  rw [newReader]
  generalize readEntries.runOn maxAlloc (Source.next chunk) _ = e at *
  obtain ⟨rs,sr⟩ := e
  cases he
  refine ⟨_,_,rfl,?_,hc.content,?_,rfl⟩
  · have hk : (domains.keys.map domains.entry).map Entry.code = domains.keys := by
      rw [map_map]
      exact map_id _
    have hpm : domains.keys.Perm (domains.entries.map Prod.fst) := perm_insertionSort _ _
    rw [hk,(hpm.nodup_iff.mpr domains.nodup).dedup]
    exact hpm
  · dsimp only at hp hb hcn ⊢
    rw [hcn,Option.getD_some] at hp ⊢
    omega

/-- A file that was written opens with the codes of the map, whatever the sizes of the reads are, and every
sequence of calls answers each code from the map: its items in their order, or the error of an unknown code. -/
theorem reads_answer_from_map {domains : Domains} {file : Bytes} (h : write domains = .ok file) (chunk : ℕ → ℕ) :
    ∃ r codes, newReader chunk file = .ok (r,codes) ∧ codes.Perm (domains.entries.map Prod.fst) ∧
      ∀ calls, r.readAll chunk calls = calls.map domains.answer := by
  obtain ⟨r,codes,hop,hc,ho⟩ := newReader_write h chunk
  exact ⟨r,codes,hop,hc,ho.readAll⟩

def twoCodes : Domains where
  entries := [(ascii "us",[⟨2,ascii "b"⟩,⟨0,ascii "a.com"⟩]),(ascii "cn",[])]
  nodup := by decide
  codes_fit := by decide
  code_fits := by decide
  items_fit := by decide
  value_fits := by decide

theorem twoCodes_answered : ∃ file r codes, write twoCodes = .ok file ∧
    newReader (fun reads => reads) file = .ok (r,codes) ∧
      r.readAll (fun reads => reads) [ascii "us",ascii "jp",ascii "cn",ascii "us"] =
        [.ok [⟨2,ascii "b"⟩,⟨0,ascii "a.com"⟩],.failed (.new (ascii "code jp not exists!")),.ok [],
          .ok [⟨2,ascii "b"⟩,⟨0,ascii "a.com"⟩]] := by
  have hw : write twoCodes = .ok
      ([0,2]++([2]++ascii "cn"++[0,0]++([2]++ascii "us"++[0,2])++([2,1]++ascii "b"++([0,5]++ascii "a.com")))) := by
    decide
  obtain ⟨r,codes,ho,-,hc⟩ := reads_answer_from_map hw (fun reads => reads)
  exact ⟨_,r,codes,hw,ho,(hc _).trans (by decide)⟩

end SingBox.Geosite
