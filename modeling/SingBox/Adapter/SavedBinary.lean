import SingBox.Common.Binary
import SingBox.Transport.FakeIPStore
import Mathlib.Logic.Function.Basic

/-! The forms in which the cache file keeps a rule-set (`SavedBinary` of `adapter/experimental.go`) and the state of
FakeIP (`adapter/fakeip_metadata.go`), with what their decoders do with a form that is cut short. -/
namespace SingBox.Saved
open ByteProgram Adapter FakeIP List

/-- A `time.Time` by its Unix seconds and the nanoseconds beyond them. -/
structure Time where
  unix : BitVec 64
  nanosecond : ℕ
  deriving DecidableEq

structure SavedBinary where
  content : Bytes
  lastUpdated : Time
  lastEtag : Bytes
  deriving DecidableEq

/-- The content and the ETag are in memory. -/
def SavedBinary.Fits (s : SavedBinary) : Prop := s.content.length ≤ maxAlloc ∧ s.lastEtag.length ≤ maxAlloc

def SavedBinary.marshalBinary (s : SavedBinary) : Bytes :=
  [1]++(Uvarint.put s.content.length++(s.content++(BigEndian.put 8 s.lastUpdated.unix.toNat++
    (Uvarint.put s.lastEtag.length++s.lastEtag))))

def SavedBinary.truncated (s : SavedBinary) : SavedBinary := { s with lastUpdated := ⟨s.lastUpdated.unix,0⟩ }

/-- `UnmarshalBinary`, which reads the version and does not look at it. -/
def unmarshalBinary : Decoder SavedBinary := do
  let _version ← readFull 1
  let contentLength ← Uvarint.read
  let content ← .make contentLength 1 (readFull contentLength)
  let lastUpdated ← readInt 64
  let etagLength ← Uvarint.read
  let etagBytes ← .make etagLength 1 (readFull etagLength)
  pure ⟨content,⟨lastUpdated,0⟩,etagBytes⟩

/-- The encodings of `netip`. -/
structure Netip where
  marshalPrefix : Prefix → Bytes
  unmarshalPrefix : Bytes → Except ReadError Prefix
  marshalAddr : Addr → Bytes
  unmarshalAddr : Bytes → Except ReadError Addr

/-- The encodings are invertible at the ranges and the cursors; that of a prefix is short, as it has no zone. -/
structure Netip.Inverts (netip : Netip) (m : Metadata) : Prop where
  range : ∀ p ∈ [m.inet4Range,m.inet6Range],
    netip.unmarshalPrefix (netip.marshalPrefix p) = .ok p ∧ (netip.marshalPrefix p).length < 2^16
  current : ∀ a ∈ [m.inet4Current,m.inet6Current], ∀ data, netip.unmarshalAddr data = .ok a ↔ data = netip.marshalAddr a

def field (data : Bytes) : Bytes := BigEndian.put 2 data.length++data

/-- The encoded fields, in their order. -/
def Netip.elements (netip : Netip) (m : Metadata) : List Bytes :=
  [netip.marshalPrefix m.inet4Range,netip.marshalPrefix m.inet6Range,netip.marshalAddr m.inet4Current,
    netip.marshalAddr m.inet6Current]

def Netip.marshalMetadata (netip : Netip) (m : Metadata) : Bytes := (netip.elements m).flatMap field

section
variable {α : Type}

/-- `common.Must`. -/
def must : Result ReadError α → Result ReadError α
  | .failed .eof => .crashed "EOF"
  | .failed _ => .crashed "unexpected EOF"
  | result => result

def readField (unmarshal : Bytes → Except ReadError α) (data : Bytes) : Result ReadError α :=
  (must ((readFull 2).run maxAlloc data)).bind fun length data =>
  ((readFull (BigEndian.read length)).run maxAlloc data).bind fun element data =>
  match unmarshal element with
  | .ok value => .ok value data
  | .error err => .failed err

end

def Netip.unmarshalMetadata (netip : Netip) (data : Bytes) : Result ReadError Metadata :=
  (readField netip.unmarshalPrefix data).bind fun inet4Range data =>
  (readField netip.unmarshalPrefix data).bind fun inet6Range data =>
  (readField netip.unmarshalAddr data).bind fun inet4Current data =>
  (readField netip.unmarshalAddr data).bind fun inet6Current data =>
  .ok ⟨inet4Range,inet6Range,inet4Current,inet6Current⟩ data

/-- The first `n` bytes of the fields end before a length or inside it. -/
def InLength : List Bytes → ℕ → Prop
  | [], _ => False
  | element::elements, n => n < 2 ∨ 2+element.length ≤ n ∧ InLength elements (n-(2+element.length))

lemma marshalBinary_parses {s : SavedBinary} (hs : s.Fits) :
    Parses maxAlloc unmarshalBinary s.marshalBinary s.truncated := by
  have hb : ∀ d : Bytes, d.length ≤ maxAlloc →
      Parses maxAlloc (.make d.length 1 (readFull d.length) : Decoder Bytes) d d :=
    fun d hd => (Parses.readFull d).make (by omega)
  refine (Parses.readFull [1]).bind ((Uvarint.parses_put (lt_of_le_maxAlloc hs.1 |>.trans (by decide))).bind ?_)
  refine (hb s.content hs.1).bind ((parses_readInt (by decide) s.lastUpdated.unix).bind ?_)
  refine (Uvarint.parses_put (lt_of_le_maxAlloc hs.2 |>.trans (by decide))).bind ?_
  exact (hb s.lastEtag hs.2).map _

section
variable {α β : Type} {u : Bytes → Except ReadError α} {a : α} {e r : Bytes}

lemma readField_put (l : ℕ) (d : Bytes) : readField u (BigEndian.put 2 l++d) =
    ((readFull (l%2^16)).run maxAlloc d).bind fun el dt =>
      match u el with
      | .ok v => .ok v dt
      | .error er => .failed er := by
  have hl : (readFull 2 : Decoder Bytes).run maxAlloc (BigEndian.put 2 l++d) = .ok (BigEndian.put 2 l) d :=
    run_readFull_eq_ok.mpr ⟨rfl,BigEndian.length_put _ _⟩
  rw [readField,hl]
  change ((readFull (BigEndian.read (BigEndian.put 2 l))).run maxAlloc d).bind _ = _
  rw [BigEndian.read_put,show 256^2 = 2^16 from rfl]

lemma readField_eq_ok {d : Bytes} : readField u (field e++d) = .ok a r ↔
    ∃ el, e++d = el++r ∧ el.length = e.length%2^16 ∧ u el = .ok a := by
  rw [field,append_assoc,readField_put,Result.bind_eq_ok]
  constructor
  · rintro ⟨el,rs,hd,hu⟩
    obtain ⟨hd,hl⟩ := run_readFull_eq_ok.mp hd
    cases hv : u el with
    | ok v =>
      rw [hv] at hu
      cases hu
      exact ⟨el,hd,hl,hv⟩
    | error er =>
      rw [hv] at hu
      cases hu
  · rintro ⟨el,hd,hl,hu⟩
    exact ⟨el,r,run_readFull_eq_ok.mpr ⟨hd,hl⟩,by rw [hu]⟩

lemma readField_field (he : e.length < 2^16) (hu : u e = .ok a) (d : Bytes) : readField u (field e++d) = .ok a d :=
  readField_eq_ok.mpr ⟨e,rfl,(Nat.mod_eq_of_lt he).symm,hu⟩

lemma short_of_readField (hi : ∀ dt, u dt = .ok a ↔ dt = e) {d : Bytes}
    (h : readField u (field e++d) = .ok a r) : e.length < 2^16 ∧ r = d := by
  obtain ⟨el,hd,hl,hu⟩ := readField_eq_ok.mp h
  obtain rfl := (hi el).mp hu
  exact ⟨by omega,(append_cancel_left hd).symm⟩

/-- The decoder `k` panics where the fields are cut at a length, and fails where they are cut elsewhere. -/
def Cuts (k : Bytes → Result ReadError β) (es : List Bytes) : Prop := ∀ n < (es.flatMap field).length,
  (InLength es n → ∃ reason, k ((es.flatMap field).take n) = .crashed reason) ∧
  (¬ InLength es n → ∃ err, k ((es.flatMap field).take n) = .failed err)

lemma Cuts.cons (he : e.length < 2^16) (hu : u e = .ok a) {k : α → Bytes → Result ReadError β}
    {es : List Bytes} (hk : Cuts (k a) es) : Cuts (fun d => (readField u d).bind k) (e::es) := by
  intro n hn
  have hl := BigEndian.length_put 2 e.length
  have hf : (e::es).flatMap field = BigEndian.put 2 e.length++(e++es.flatMap field) := append_assoc _ _ _
  rw [hf] at hn ⊢
  simp only [length_append,hl] at hn
  rw [take_append,hl]
  rcases lt_or_ge n 2 with hs | hs
  · -- inside the length
    obtain ⟨er,hr⟩ := run_take_of_ok (p := (readFull 2 : Decoder Bytes)) (l := maxAlloc)
      (run_readFull_eq_ok.mpr ⟨(append_nil _).symm,hl⟩) (hl ▸ hs)
    refine ⟨fun _ => ?_,fun h => absurd (.inl hs) h⟩
    rw [Nat.sub_eq_zero_of_le hs.le,take_zero,append_nil]
    change ∃ rs, (readField u _).bind k = _
    rw [readField,hr]
    cases er <;> exact ⟨_,rfl⟩
  rw [take_of_length_le (hl ▸ hs)]
  rcases lt_or_ge n (2+e.length) with hb | hb
  · -- inside the encoded value
    obtain ⟨er,hr⟩ := run_take_of_ok (p := (readFull e.length : Decoder Bytes)) (l := maxAlloc) (n := n-2)
      (run_readFull_eq_ok.mpr ⟨(append_nil _).symm,rfl⟩) (by omega)
    refine ⟨fun h => ?_,fun _ => ⟨er,?_⟩⟩
    · rcases h with h | h
      · omega
      · omega
    · rw [take_append_of_le_length (by omega)]
      change (readField u _).bind k = _
      rw [readField_put,Nat.mod_eq_of_lt he,hr]
      rfl
  · -- in the fields behind
    have hi : InLength (e::es) n ↔ InLength es (n-(2+e.length)) :=
      ⟨fun h => (h.resolve_left (by omega)).2,fun h => .inr ⟨hb,h⟩⟩
    have ho : readField u (BigEndian.put 2 e.length++take (n-2) (e++es.flatMap field)) =
        .ok a ((es.flatMap field).take (n-(2+e.length))) := by
      rw [take_append,take_of_length_le (by omega),Nat.sub_sub,← append_assoc]
      exact readField_field he hu _
    change (_ → ∃ rs, (readField u _).bind k = _) ∧ (_ → ∃ er, (readField u _).bind k = _)
    rw [ho,hi]
    exact hk (n-(2+e.length)) (by omega)

end

lemma unmarshal_marshalMetadata_iff {n : Netip} {m : Metadata} (h : n.Inverts m) :
    n.unmarshalMetadata (n.marshalMetadata m) = .ok m [] ↔
      (n.marshalAddr m.inet4Current).length < 2^16 ∧ (n.marshalAddr m.inet6Current).length < 2^16 := by
  obtain ⟨r4,r6,c4,c6⟩ := m
  obtain ⟨hr,hc⟩ := h
  simp only [forall_mem_cons] at hr hc
  obtain ⟨⟨h1,l1⟩,⟨h2,l2⟩,-⟩ := hr
  obtain ⟨h3,h4,-⟩ := hc
  simp only [Netip.marshalMetadata,Netip.elements,flatMap_cons,Netip.unmarshalMetadata]
  rw [readField_field l1 h1,Result.bind,readField_field l2 h2,Result.bind]
  constructor
  · intro hok
    obtain ⟨a,d,hc4,hok⟩ := Result.bind_eq_ok.mp hok
    obtain ⟨a',d',hc6,hok⟩ := Result.bind_eq_ok.mp hok
    cases hok
    obtain ⟨l3,rfl⟩ := short_of_readField h3 hc4
    exact ⟨l3,(short_of_readField h4 hc6).1⟩
  · rintro ⟨l3,l4⟩
    rw [readField_field l3 ((h3 _).mpr rfl),Result.bind,readField_field l4 ((h4 _).mpr rfl)]
    rfl

lemma cuts_metadata {nt : Netip} {m : Metadata} (h : nt.Inverts m) (l3 : (nt.marshalAddr m.inet4Current).length < 2^16)
    (l4 : (nt.marshalAddr m.inet6Current).length < 2^16) : Cuts nt.unmarshalMetadata (nt.elements m) := by
  obtain ⟨hr,hc⟩ := h
  simp only [forall_mem_cons] at hr hc
  obtain ⟨⟨h1,l1⟩,⟨h2,l2⟩,-⟩ := hr
  refine .cons l1 h1 (.cons l2 h2 (.cons l3 ((hc.1 _).mpr rfl) (.cons l4 ((hc.2.1 _).mpr rfl) ?_)))
  intro n hn
  exact absurd hn (Nat.not_lt_zero n)

/-- A saved rule-set is read back up to the nanoseconds, and no cut of it passes. The metadata are, and a cut of
them is an error, exactly where their addresses have lengths of 16 bits and the cut is not at a length. -/
theorem savedForms_right_iff (netip : Netip) {metadata : Metadata} (h : netip.Inverts metadata) :
    (∀ saved : SavedBinary, saved.Fits → unmarshalBinary.run maxAlloc saved.marshalBinary = .ok saved.truncated [] ∧
      ∀ n < saved.marshalBinary.length, ∃ err, unmarshalBinary.run maxAlloc (saved.marshalBinary.take n) = .failed err) ∧
    ∀ n < (netip.marshalMetadata metadata).length,
      (netip.unmarshalMetadata (netip.marshalMetadata metadata) = .ok metadata [] ∧
        ∃ err, netip.unmarshalMetadata ((netip.marshalMetadata metadata).take n) = .failed err) ↔
      (netip.marshalAddr metadata.inet4Current).length < 2^16 ∧
        (netip.marshalAddr metadata.inet6Current).length < 2^16 ∧ ¬ InLength (netip.elements metadata) n := by
  constructor
  · intro saved hs
    have hp : unmarshalBinary.run maxAlloc saved.marshalBinary = .ok saved.truncated [] := by
      simpa using marshalBinary_parses hs []
    exact ⟨hp,fun n hn => run_take_of_ok hp hn⟩
  intro n hn
  rw [unmarshal_marshalMetadata_iff h,and_assoc]
  refine and_congr_right fun l3 => and_congr_right fun l4 => ?_
  obtain ⟨hcr,hf⟩ := cuts_metadata h l3 l4 n hn
  refine ⟨fun ⟨err,he⟩ hi => ?_,hf⟩
  obtain ⟨rs,hr⟩ := hcr hi
  cases he.symm.trans hr

/-- Addresses by their bytes, and prefixes with their length behind them. -/
def sliceNetip : Netip where
  marshalPrefix p := p.addr.asSlice++[UInt8.ofNat p.bits]
  unmarshalPrefix data := match data.getLast? with
    | none => .error .unexpectedEOF
    | some bits => .ok ⟨addrFromIP data.dropLast,bits.toNat⟩
  marshalAddr := Addr.asSlice
  unmarshalAddr data := if (addrFromIP data).asSlice = data then .ok (addrFromIP data) else .error .unexpectedEOF

/-- The range 198.18.0.0/15 and no range of IPv6. -/
def inet4Metadata : Metadata := ⟨⟨.v4 0xC6120000,15⟩,⟨.invalid,0⟩,.v4 0xC6120005,.invalid⟩

lemma sliceNetip_inverts : sliceNetip.Inverts inet4Metadata where
  range p hp := by
    obtain rfl | rfl : p = ⟨.v4 0xC6120000,15⟩ ∨ p = ⟨.invalid,0⟩ := by simpa [inet4Metadata] using hp
    · decide
    · decide
  current a ha data := by
    have hs : addrFromIP a.asSlice = a := by
      obtain rfl | rfl : a = .v4 0xC6120005 ∨ a = .invalid := by simpa [inet4Metadata] using ha
      · decide
      · decide
    simp only [sliceNetip]
    constructor
    · intro h
      split_ifs at h with hd
      rw [← Except.ok.inj h,hd]
    · rintro rfl
      rw [hs,if_pos rfl]

theorem savedForms_inet4 : ∃ err, sliceNetip.unmarshalMetadata
    ((sliceNetip.marshalMetadata inet4Metadata).take 12) = .failed err :=
  (((savedForms_right_iff sliceNetip sliceNetip_inverts).2 12 (by decide)).mpr
    ⟨by decide,by decide,by simp [InLength,Netip.elements,sliceNetip,inet4Metadata,Addr.asSlice]⟩).2

/-- Metadata that are cut between two fields or inside a length. -/
theorem cut_metadata_panics : ∃ (netip : Netip) (metadata : Metadata), netip.Inverts metadata ∧
    netip.unmarshalMetadata ((netip.marshalMetadata metadata).take 7) = .crashed "EOF" ∧
    netip.unmarshalMetadata ((netip.marshalMetadata metadata).take 8) = .crashed "unexpected EOF" :=
  ⟨sliceNetip,_,sliceNetip_inverts,by decide,by decide⟩

end SingBox.Saved
