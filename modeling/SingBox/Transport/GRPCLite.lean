import SingBox.Common.Binary
import SingBox.Library.Run
import SingBox.Library.Segments

/-! The connection of v2raygrpclite: every write is one message of gRPC that holds one field of bytes. -/
namespace SingBox.GRPCLite
open List

def readHeader : Decoder ℕ := do
  let _ ← ByteProgram.readFull 6
  Uvarint.read

/-- What a call of `GunConn.read` comes to. -/
inductive Reported
  | bytes (data : Bytes)
  | err
  | panic
  deriving DecidableEq

/-- A connection with its last call: the length of the slice, and what came of it. -/
structure GunConn where
  readRemaining : ℤ := 0
  segments : List Bytes
  last : ℕ × Reported := (0,.bytes [])

namespace GunConn

/-- The `Read` at the end, into the first `b` bytes of a slice of `size` bytes. -/
def fill (c : GunConn) (size b : ℕ) : GunConn :=
  match Segments.read b c.segments with
  | none => { c with last := (size,.err) }
  | some (data,segments) => ⟨c.readRemaining-data.length,segments,(size,.bytes data)⟩

/-- A call with a slice of `size` bytes; the next call goes on from an error, too. -/
def next (c : GunConn) (size : ℕ) : GunConn :=
  if 0 < c.readRemaining then c.fill size (min size c.readRemaining.toNat)
  else
    match readHeader.runOn maxAlloc Segments.next c.segments with
    | (.ok dataLen,segments) =>
      let readLen := toInt dataLen
      if readLen < size then
        if readLen < 0 then ⟨readLen,segments,(size,.panic)⟩ else fill ⟨readLen,segments,c.last⟩ size readLen.toNat
      else fill ⟨readLen,segments,c.last⟩ size size
    | (_,segments) => { c with segments, last := (size,.err) }

end GunConn

/-- A call with what is left of the message; a length that is no `int` stops the program. -/
def read (size readRemaining : ℕ) (segments : List Bytes) : Option (Bytes × ℕ × List Bytes) :=
  let c := GunConn.next { readRemaining, segments } size
  match c.last.2 with
  | .bytes data => some (data,c.readRemaining.toNat,c.segments)
  | _ => none

def varLen (b : Bytes) : ℕ := (Uvarint.put b.length).length

def header (b : Bytes) : Bytes := 0x00::BigEndian.put 4 (1+varLen b+b.length)++[0x0A]

def message (b : Bytes) : Bytes := header b++(Uvarint.put b.length++b)

def frontHeadroom : ℕ := 6+10

/-- A write of a slice, or of a buffer with so much room in front. -/
inductive Write
  | slice (b : Bytes)
  | buffer (front : ℕ) (b : Bytes)

def Write.data : Write → Bytes
  | slice b => b
  | buffer _ b => b

/-- What is written; a buffer without the room panics. -/
def Write.perform : Write → Option Bytes
  | slice b => some (message b)
  | buffer front b => if front < 6+varLen b then none else some (message b)

def Write.HasHeadroom : Write → Prop
  | slice _ => True
  | buffer front _ => frontHeadroom ≤ front

lemma length_putGroups_le (gs n : ℕ) : (Uvarint.putGroups gs n).length ≤ gs := by
  induction gs generalizing n with
  | zero => simp [Uvarint.putGroups]
  | succ gs ih =>
    rw [Uvarint.putGroups]
    split_ifs
    · simp
    · simpa using ih (n/128)

lemma Write.perform_of_hasHeadroom {w : Write} (h : w.HasHeadroom) : w.perform = some (message w.data) := by
  cases w with
  | slice => rfl
  | buffer f b =>
    have hv : varLen b ≤ 10 := length_putGroups_le 10 b.length
    have hf : 16 ≤ f := h
    exact if_neg (by omega)

lemma parses_readHeader {b : Bytes} (hb : b.length < 2^63) :
    readHeader.Parses maxAlloc (header b++Uvarint.put b.length) b.length := by
  have hs : (header b).length = 6 := by simp [header]
  have hr := ByteProgram.Parses.readFull (ε := ReadError) (l := maxAlloc) (header b)
  rw [hs] at hr
  exact hr.bind (Uvarint.parses_put (hb.trans (by decide)))

/-- What is left of the current message, and the messages ahead. -/
def Coupled (ahead : ℕ) (payload : Bytes) (readRemaining : ℕ) (segments : List Bytes) : Prop :=
  ∃ (rest : Bytes) (messages : List Bytes), messages.length = ahead ∧ rest.length = readRemaining ∧
    (∀ b ∈ messages, b.length < 2^63) ∧ payload = rest++messages.flatten ∧
    segments.flatten = rest++messages.flatMap message

lemma givesBack_read : Segments.GivesBack read Coupled := by
  rintro s a p rr ss ⟨r,ms,rfl,hrs,hsh,rfl,hs⟩
  by_cases hr : 0 < rr
  · obtain ⟨d,l,ss',hrd,rfl,hl,-,hne⟩ := Segments.read_append (min s rr) hs
      (fun _ => by omega) (fun _ => by rw [← length_pos_iff]; omega)
    refine .inr ⟨ms.length,d,l++ms.flatten,rr-d.length,ss',?_,by simp,
      ⟨l,ms,rfl,by simp [← hrs],hsh,rfl,hl⟩,fun hsz => ?_⟩
    · simp [read,GunConn.next,GunConn.fill,hr,hrd]
    · have := length_pos_iff.mpr (hne (by omega))
      simp
      omega
  · obtain rfl : r = [] := length_eq_zero_iff.mp (by omega)
    cases ms with
    | nil =>
      obtain ⟨he,-⟩ := ByteProgram.runOn_eq (l := maxAlloc) Segments.shows_next readHeader (s := ss) trivial
      rw [hs] at he
      have hn : (GunConn.next { readRemaining := rr, segments := ss } s).last = (s,.err) := by
        rw [GunConn.next,if_neg (by simpa using hr)]
        split
        next hrn =>
          rw [hrn] at he
          cases he
        next => rfl
      exact .inl ⟨by rw [read,hn],rfl,rfl⟩
    | cons b ms =>
      have hb := hsh b mem_cons_self
      obtain ⟨segments₁,hrn,hf⟩ := Segments.runOn_append (parses_readHeader hb)
        (show ss.flatten = _++(b++ms.flatMap message) by simpa [message] using hs)
      obtain ⟨d,l,segments₂,hrd,hd,hl,-,-⟩ := Segments.read_append (min s b.length) hf
        (fun _ => by omega) (fun _ => by rw [← length_pos_iff]; omega)
      refine .inr ⟨ms.length,d,l++ms.flatten,b.length-d.length,segments₂,?_,by simp [hd],
        ⟨l,ms,rfl,by simp [hd],fun c hc => hsh c (mem_cons_of_mem _ hc),rfl,hl⟩,fun _ => ?_⟩
      · have hn : GunConn.next { readRemaining := rr, segments := ss } s =
            ⟨(b.length : ℤ)-d.length,segments₂,(s,.bytes d)⟩ := by
          rw [GunConn.next,if_neg (by simpa using hr),hrn]
          simp only [toInt,if_pos hb,Nat.cast_lt]
          rcases Nat.lt_or_ge b.length s with hls | hls
          · rw [min_eq_right hls.le] at hrd
            simp [hls,GunConn.fill,hrd]
          · rw [min_eq_left hls] at hrd
            simp [not_lt.mpr hls,GunConn.fill,hrd]
        simp [read,hn]
      · simp [hd]
        omega

/-- Reads of any sizes on any segments give back what was written, all of it after enough of them. -/
theorem written_messages_read_back (writes : List Write) (hroom : ∀ write ∈ writes, write.HasHeadroom)
    (hint : ∀ write ∈ writes, write.data.length < 2^63) :
    ∃ wire, writes.mapM Write.perform = some wire ∧ ∀ segments : List Bytes, segments.flatten = wire.flatten → ∀ sizes,
      let got := Segments.reads read sizes 0 segments
      got.1 <+: writes.flatMap Write.data ∧
      ((∀ size ∈ sizes, 0 < size) → writes.length+(writes.flatMap Write.data).length ≤ sizes.length →
        got.1 = writes.flatMap Write.data) := by
  have hw : writes.mapM Write.perform = some (writes.map fun write => message write.data) := by
    clear hint
    induction writes with
    | nil => rfl
    | cons write writes ih =>
      rw [mapM_cons,Write.perform_of_hasHeadroom (hroom write mem_cons_self),
        ih fun o hm => hroom o (mem_cons_of_mem write hm)]
      rfl
  refine ⟨_,hw,fun segments hs sizes => ?_⟩
  have hc : Coupled writes.length (writes.flatMap Write.data) 0 segments :=
    ⟨[],writes.map Write.data,by simp,rfl,by simpa using hint,by simp [flatMap],by simp [hs,flatMap,Function.comp_def]⟩
  obtain ⟨a,l,heq,-,he⟩ := Segments.reads_of_givesBack _ givesBack_read sizes hc
  refine ⟨⟨l,heq.symm⟩,fun hp hsz => ?_⟩
  obtain ⟨-,rfl⟩ := he hp hsz
  rw [heq,append_nil]

/-- An empty message, and one of two bytes. -/
theorem two_messages_read_back :
    (Segments.reads read (List.replicate 5 1) 0 [[0,0,0,0,2,0x0a,0],[0,0,0,0,4,0x0a],[2,0x61,0x62]]).1 = [0x61,0x62] := by
  obtain ⟨w,hw,hr⟩ := written_messages_read_back [.slice [],.buffer 16 [0x61,0x62]]
    (by simp [Write.HasHeadroom,frontHeadroom]) (by simp [Write.data])
  cases hw
  exact (hr [[0,0,0,0,2,0x0a,0],[0,0,0,0,4,0x0a],[2,0x61,0x62]] (by decide) (replicate 5 1)).2 (by decide) (by decide)

namespace GunConn

def Safe (c : GunConn) : Prop := c.last.2 ≠ .panic ∧ ∀ data, c.last.2 = .bytes data → data.length ≤ c.last.1

/-- The length in a header that the next call reads is not negative as an `int`. -/
def LengthFits (c : GunConn) : Prop :=
  c.readRemaining ≤ 0 → ∀ dataLen segments,
    readHeader.runOn maxAlloc Segments.next c.segments = (.ok dataLen,segments) → 0 ≤ toInt dataLen

lemma safe_fill (c : GunConn) {s b : ℕ} (hb : b ≤ s) : (c.fill s b).Safe := by
  unfold fill Segments.read
  split_ifs
  · exact ⟨by simp,by simp⟩
  · refine ⟨by simp,?_⟩
    rintro n ⟨⟩
    exact (Parts.length_read_le b c.segments).trans hb

lemma safe_next_iff (c : GunConn) (s : ℕ) : c.LengthFits ↔ (c.next s).Safe := by
  rw [next,LengthFits]
  split_ifs with hr
  · exact iff_of_true (fun h => absurd hr (not_lt.mpr h)) (safe_fill c (min_le_left _ _))
  · rw [forall_prop_of_true (not_lt.mp hr)]
    split
    next dl ss hrn =>
      rw [hrn]
      dsimp only
      split_ifs with hs hn
      · exact iff_of_false (fun h => absurd (h dl ss rfl) (not_le.mpr hn)) fun h => h.1 rfl
      · refine iff_of_true ?_ (safe_fill _ (by omega))
        rintro _ _ ⟨⟩
        exact not_lt.mp hn
      · refine iff_of_true ?_ (safe_fill _ le_rfl)
        rintro _ _ ⟨⟩
        omega
    next e ss hne hrn =>
      refine iff_of_true (fun dl ss' h => ?_) ⟨by simp,by simp⟩
      exact absurd (congrArg Prod.fst (hrn.symm.trans h)) (hne dl)

/-- Calls on any bytes and with slices of any lengths neither panic nor report more bytes than a slice holds exactly as
long as no header has a length that is negative as an `int`. -/
theorem reads_safe_iff (segments : List Bytes) (sizes : List ℕ) :
    Run.Along next (fun c _ => c.LengthFits) { segments } sizes ↔ Run.Throughout next Safe { segments } sizes :=
  Run.along_iff_throughout (fun c size _ => c.safe_next_iff size) sizes ⟨by simp,by simp⟩

/-- A length of 2^63. -/
theorem long_length_panics :
    (next { segments := [[0,0,0,0,0,0x0a],List.replicate 9 0x80++[1]] } 1).last = (1,.panic) := by
  decide

end GunConn

end SingBox.GRPCLite
